import PaperPad.Deploy.Mtp

/-!
# Deploy — Fake

The stand-in for `mtp-rs` of the script's own test, `fake-mtp-rs.sh`, with the files of the test
around it.  It does what the script relies on (`fake_effect`), so what holds of every run holds of
the runs of the test.
-/

namespace PaperPad.Deploy

open Script Transition

/-- The files and folders of a test, and the failures it asks for. -/
structure Fake where
  computer : List (String × Option String)
  remote : List (String × Option String)
  folders : List String
  FAKE_FAIL_NEW_ACTIVATION : Bool
  FAKE_FAIL_RETIRED_REMOVAL : String

/-- What is at a path, the last write first. -/
def contentOf : List (String × Option String) → String → Option String
  | [], _ => none
  | (path, content) :: files, other => if other = path then content else contentOf files other

/-- The world a fake stands for. -/
def Fake.view (s : Fake) : World String where
  computer := contentOf s.computer
  remote := contentOf s.remote
  folders := fun path => s.folders.contains path

/-- The content written last counts. -/
theorem contentOf_cons (files : List (String × Option String)) (path : String)
    (content : Option String) :
    contentOf ((path, content) :: files) = Function.update (contentOf files) path content := by
  funext other
  rw [Function.update_apply]
  rfl

/-- Files that are kept keep their content. -/
theorem contentOf_filter (keep : String → Bool) (files : List (String × Option String))
    {path : String} (h : keep path = true) :
    contentOf (files.filter fun f => keep f.1) path = contentOf files path := by
  induction files with
  | nil => rfl
  | cons f files ih =>
      obtain ⟨other, content⟩ := f
      by_cases ho : path = other
      · subst ho
        simp [contentOf, h]
      · rw [contentOf_cons, Function.update_of_ne ho, ← ih]
        cases hk : keep other with
        | true =>
            rw [List.filter_cons_of_pos (by simpa using hk), contentOf_cons,
              Function.update_of_ne ho]
        | false => rw [List.filter_cons_of_neg (by simpa using hk)]

/-- What has a content is among the files. -/
theorem mem_of_contentOf {files : List (String × Option String)} {path : String}
    (h : (contentOf files path).isSome) : path ∈ files.map Prod.fst := by
  induction files with
  | nil => cases h
  | cons f files ih =>
      rw [contentOf] at h
      split at h
      · rename_i ho
        exact ho ▸ List.mem_cons_self
      · exact List.mem_cons_of_mem _ (ih h)

namespace Fake

/-- An answer without output. -/
def status (n : Nat) : Answer := ⟨n, []⟩

/-- The entries of a folder, a line each. -/
def listing (s : Fake) (folder : String) : List String :=
  (s.folders ++ (s.remote.map Prod.fst).filter fun path => (contentOf s.remote path).isSome).filterMap
    fun path => if (folder ++ "/").toList <+: path.toList then
      some (String.ofList ("FILE 0 ".toList ++ path.toList.drop (folder ++ "/").toList.length))
    else none

/-- The directory `mktemp` makes. -/
def TMP : String := "/tmp/rust-x11-hello-update.000000"

/-- A file below the directory. -/
def below (directory path : String) : Bool := (directory ++ "/").toList <+: path.toList

/-- `${1##*/}`. -/
def baseName (path : String) : List Char := (path.toList.reverse.takeWhile (· ≠ '/')).reverse

/-- What the fake `mtp-rs` of the tests, and the shell around it, do for a command. -/
def behave (s : Fake) : Command → Answer × Fake
  | .testFile path => (status (if (contentOf s.computer path).isSome then 0 else 1), s)
  | .ls folder _ =>
      if s.folders.contains folder then (⟨0, s.listing folder⟩, s) else (status 1, s)
  | .mkdir path => (status 0, { s with folders := path :: s.folders })
  | .put source path _ =>
      match contentOf s.computer source with
      | none => (status 1, s)
      | some content =>
          if s.FAKE_FAIL_NEW_ACTIVATION ∧ path = REMOTE_BIN ∧ content = "new-binary" then
            (status 1, s)
          else (status 0, { s with remote := (path, some content) :: s.remote })
  | .get path destination =>
      match contentOf s.remote path with
      | none => (status 1, s)
      | some content => (status 0, { s with computer := (destination, some content) :: s.computer })
  | .rm path =>
      if baseName path = s.FAKE_FAIL_RETIRED_REMOVAL.toList then (status 1, s)
      else (status 0, { s with remote := (path, none) :: s.remote })
  | .mktemp =>
      if s.computer.any fun f => below TMP f.1 then (status 1, s) else (⟨0, [TMP]⟩, s)
  | .removeTree path =>
      (status 0, { s with computer := s.computer.filter fun f => !below path f.1 })
  | .testDirectory _ | .commandV _ | .shasum _ | .print _ => (status 0, s)

/-- The name is the last field of its line. -/
theorem lastField_file {name : String} (hname : isField name = true) :
    lastField (String.ofList ("FILE 0 ".toList ++ name.toList)) = name.toList := by
  obtain ⟨hne, hall⟩ := Bool.and_eq_true_iff.mp hname
  have hrev : ∀ c ∈ name.toList.reverse, (!isBlank c) = true := fun c hc =>
    List.all_eq_true.mp hall c (List.mem_reverse.mp hc)
  have hnil : name.toList.reverse ≠ [] := by
    simpa using hne
  have hdrop : (name.toList.reverse ++ "FILE 0 ".toList.reverse).dropWhile isBlank =
      name.toList.reverse ++ "FILE 0 ".toList.reverse := by
    obtain ⟨c, cs, hc⟩ := List.exists_cons_of_ne_nil hnil
    rw [hc, List.cons_append, List.dropWhile_cons_of_neg]
    simpa using hrev c (hc ▸ List.mem_cons_self)
  simp only [lastField, String.toList_ofList, List.reverse_append, hdrop]
  rw [List.takeWhile_append_of_pos hrev]
  simp [isBlank]

/-- What is in a folder is listed. -/
theorem mem_listing {s : Fake} {folder name : String} (he : s.view.Entry folder name) :
    String.ofList ("FILE 0 ".toList ++ name.toList) ∈ s.listing folder := by
  have hpath : folder ++ "/" ++ name ∈ s.folders ++ (s.remote.map Prod.fst).filter fun path =>
      (contentOf s.remote path).isSome := by
    rcases he with hf | hf
    · exact List.mem_append_right _ (List.mem_filter.mpr ⟨mem_of_contentOf hf, hf⟩)
    · exact List.mem_append_left _ (by simpa [view] using hf)
  refine List.mem_filterMap.mpr ⟨_, hpath, ?_⟩
  have happend : (folder ++ "/" ++ name).toList = (folder ++ "/").toList ++ name.toList :=
    String.toList_append
  rw [happend, if_pos (List.prefix_append ..), List.drop_left]

/-- **What the test's stand-in does** is what the script relies on. -/
theorem fake_effect (s : Fake) (c : Command) :
    Effect s.view c (s.behave c).1 (s.behave c).2.view := by
  cases c with
  | testFile path =>
      refine ⟨rfl, ?_⟩
      change (if (contentOf s.computer path).isSome then 0 else 1) = 0 ↔ _
      split <;> simp_all [view]
  | testDirectory | commandV | shasum | print => rfl
  | ls folder recursive =>
      by_cases hf : s.folders.contains folder = true
      · simp only [behave, hf, if_true]
        exact ⟨rfl, fun _ _ name hname he => ⟨_, mem_listing he, lastField_file hname⟩⟩
      · simp only [behave, hf]
        exact ⟨rfl, by simp [status]⟩
  | mkdir path =>
      refine ⟨true, ?_⟩
      simp only [behave, view, World.mk.injEq, true_and]
      funext other
      by_cases ho : other = path
      · subst ho
        simp
      · rw [Function.update_of_ne ho]
        simp [ho]
  | put source path replace =>
      have hsame (r : Answer) (hr : r.status ≠ 0) :
          Effect s.view (.put source path replace) r s.view :=
        ⟨contentOf s.remote path, by rw [view, Function.update_eq_self], fun h => absurd h hr⟩
      simp only [behave]
      split
      · exact hsame _ (by simp [status])
      · rename_i content hc
        split
        · exact hsame _ (by simp [status])
        · refine ⟨some content, ?_, fun _ => ⟨hc.symm, rfl⟩⟩
          simp only [view, contentOf_cons]
  | get path destination =>
      simp only [behave]
      split
      · refine ⟨contentOf s.computer destination, by rw [view, Function.update_eq_self], ?_⟩
        simp [status]
      · rename_i content hc
        refine ⟨some content, ?_, fun _ => ⟨hc.symm, rfl⟩⟩
        simp only [view, contentOf_cons]
  | rm path =>
      simp only [behave]
      split
      · refine ⟨contentOf s.remote path, by rw [view, Function.update_eq_self], ?_⟩
        simp [status]
      · refine ⟨none, ?_, fun _ => rfl⟩
        simp only [view, contentOf_cons]
  | mktemp =>
      simp only [behave]
      split
      · exact ⟨rfl, by simp [status]⟩
      · rename_i hnone
        refine ⟨rfl, fun _ name => ?_⟩
        by_contra hsome
        have hmem := mem_of_contentOf (Option.isSome_iff_ne_none.mpr hsome)
        obtain ⟨f, hf, hpath⟩ := List.mem_map.mp hmem
        refine hnone (List.any_eq_true.mpr ⟨f, hf, ?_⟩)
        rw [hpath, below, decide_eq_true_eq]
        have happend : (TMP ++ "/" ++ name).toList = (TMP ++ "/").toList ++ name.toList :=
          String.toList_append
        rw [show (Answer.mk 0 [TMP]).output = TMP from by decide +kernel, happend]
        exact List.prefix_append ..
  | removeTree path =>
      refine ⟨_, rfl, fun file hfile => contentOf_filter (fun p => !below path p) _ ?_⟩
      simpa [below] using hfile

/-- What a script does with the stand-in is one of its runs. -/
theorem run_fake (p : Shell Unit) (s : Fake) :
    Run (Step Effect) (p, s.view) (p.interpret (fun s c => some (s.behave c)) s).1
      ((p.interpret (fun s c => some (s.behave c)) s).2.1,
        (p.interpret (fun s c => some (s.behave c)) s).2.2.view) := by
  refine run_interpret (fun {s c r s'} hs => ?_) p s
  have he := fake_effect s c
  rwa [Option.some.inj hs] at he

/-- The script with the stand-in, to its end. -/
def run (o : Settings) (s : Fake) : List (Command × Answer) × Shell Unit × Fake :=
  o.deploy.interpret (fun s c => some (s.behave c)) s

/-- `prepare_remote` and the package of the test. -/
def prepared : Fake where
  computer :=
    [("package/bin/rust_x11_hello", some "new-binary"), ("package/bin/run.sh", some "run"),
      ("package/bin/probe-fb.sh", some "probe"), ("package/config.xml", some "config"),
      ("package/menu.json", some "menu")]
  remote :=
    [(REMOTE_BIN, some "old-binary"), (REMOTE_EXT ++ "/menu.json", some "old-menu"),
      (REMOTE_BIN_DIR ++ "/stop.sh", some "retired-stop"),
      (REMOTE_BIN_DIR ++ "/show.sh", some "retired-show")]
  folders := ["/extensions", REMOTE_EXT, REMOTE_BIN_DIR]
  FAKE_FAIL_NEW_ACTIVATION := false
  FAKE_FAIL_RETIRED_REMOVAL := ""

/-- `update --confirm-stopped` of the test. -/
def updating : Settings where
  MTP_RS_BIN := "fake-mtp-rs"
  LOCAL_EXT := "package"
  MODE := "update"
  CONFIRMATION := "--confirm-stopped"

/-- `install` with the same package. -/
def installing : Settings where
  MTP_RS_BIN := "fake-mtp-rs"
  LOCAL_EXT := "package"
  MODE := "install"
  CONFIRMATION := ""

end Fake

end PaperPad.Deploy
