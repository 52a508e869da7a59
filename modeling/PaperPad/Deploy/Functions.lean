import PaperPad.Deploy.Mtp

/-!
# Deploy — Functions

Each function of the script changes a few paths of the Kindle and says, where it ends, what is at
them.  Its specification is relative to the world it starts in (`Since`).
-/

namespace PaperPad.Deploy

open Script Function

variable {β : Type} {o : Settings} {w w' u : World β} {h h' : List (Command × Answer)}

/-- Only these paths of the Kindle may differ. -/
structure Touches (paths : List String) (w w' : World β) : Prop where
  folders : w'.folders = w.folders
  remote : ∀ path ∉ paths, w'.remote path = w.remote path

/-- Only these paths of the Kindle may differ, and nothing on the computer. -/
structure Changes (paths : List String) (w w' : World β) : Prop extends Touches paths w w' where
  computer : w'.computer = w.computer

section Paths

variable {ps qs : List String}

theorem Touches.refl (w : World β) : Touches ps w w := ⟨rfl, fun _ _ => rfl⟩

theorem Touches.mono (hc : Touches ps w w') (hs : ps ⊆ qs) : Touches qs w w' :=
  ⟨hc.folders, fun path hp => hc.remote path fun hm => hp (hs hm)⟩

theorem Touches.trans (hc : Touches ps w w') (hd : Touches ps w' u) : Touches ps w u :=
  ⟨hd.folders.trans hc.folders, fun path hp => (hd.remote path hp).trans (hc.remote path hp)⟩

/-- Writing a path touches it. -/
theorem Touches.update (path : String) (content : Option β) :
    Touches [path] w { w with remote := Function.update w.remote path content } :=
  ⟨rfl, fun _ hp => Function.update_of_ne (by simpa using hp) _ _⟩

/-- What a function may have done since it was called. -/
def Since (paths : List String) (h : List (Command × Answer)) (w : World β)
    (h' : List (Command × Answer)) (w' : World β) : Prop :=
  h <+: h' ∧ Changes paths w w'

namespace Since

theorem refl (h : List (Command × Answer)) (w : World β) : Since ps h w h w :=
  ⟨List.prefix_rfl, .refl w, rfl⟩

theorem mono (hc : Since ps h w h' w') (hs : ps ⊆ qs) : Since qs h w h' w' :=
  ⟨hc.1, hc.2.mono hs, hc.2.computer⟩

/-- Two functions that change some of `ps` one after the other. -/
theorem trans {h'' : List (Command × Answer)} (hc : Since ps h w h' w')
    (hd : Since ps h' w' h'' u) : Since ps h w h'' u :=
  ⟨hc.1.trans hd.1, hc.2.toTouches.trans hd.2.toTouches, hd.2.computer.trans hc.2.computer⟩

/-- What may change nothing changes nothing. -/
theorem eq (hc : Since [] h w h' w') : w' = w := by
  obtain ⟨-, ⟨hf, hr⟩, hcomp⟩ := hc
  have hr : w'.remote = w.remote := funext fun path => hr path List.not_mem_nil
  cases w
  cases w'
  simp only at hf hr hcomp
  rw [hf, hr, hcomp]

/-- A command that changes nothing. -/
theorem same (e : Command × Answer) : Since ps h w (h ++ [e]) w :=
  ⟨List.prefix_append .., .refl w, rfl⟩

/-- A command that writes a path. -/
theorem update (e : Command × Answer) (path : String) (content : Option β) :
    Since [path] h w (h ++ [e])
      { w with remote := Function.update w.remote path content } :=
  ⟨List.prefix_append .., .update path content, rfl⟩

end Since

end Paths

/-! ### Single commands -/

section Commands

/-- A command that ends the script if it fails. -/
theorem ensures_simple {I : List (Command × Answer) → World β → Prop} {c : Command}
    {ok : Answer → List (Command × Answer) → World β → Prop} (hi : I h w)
    (hc : ∀ r w', Effect w c r w' → I (h ++ [(c, r)]) w' ∧
      (r.status = 0 → ok r (h ++ [(c, r)]) w')) :
    (simple c).Ensures Effect I (Ends ok) h w := by
  refine ⟨hi, fun r w' he => ?_⟩
  obtain ⟨hi', hok⟩ := hc r w' he
  by_cases hs : r.status = 0
  · simp only [hs, if_true]
    exact ⟨hi', hok hs⟩
  · simp only [hs, if_false]
    exact ⟨hi', hs⟩

/-- A `put` with `--verify` under `set -e`. -/
theorem ensures_put (source path : String) (replace : Bool) :
    (simple (.put source path replace)).Ensures Effect (Since [path] h w)
      (Ends fun _ _ w' => w'.remote path = w.computer source ∧ (w.computer source).isSome)
      h w := by
  refine ensures_simple (.refl h w) ?_
  rintro r w' ⟨content, rfl, hr⟩
  refine ⟨.update _ path content, fun hs => ?_⟩
  obtain ⟨rfl, hsome⟩ := hr hs
  exact ⟨Function.update_self .., hsome⟩

/-- A `put` whose status is tested. -/
theorem ensures_tryPut (source path : String) (replace : Bool) :
    (test (.put source path replace)).Ensures Effect (Since [path] h w)
      (Returns fun put _ w' => put = true → w'.remote path = w.computer source) h w := by
  refine ⟨.refl h w, ?_⟩
  rintro r w' ⟨content, rfl, hr⟩
  refine ⟨.update _ path content, fun hs => ?_⟩
  obtain ⟨rfl, -⟩ := hr (of_decide_eq_true hs)
  exact Function.update_self ..

/-- An `rm` whose status is tested. -/
theorem ensures_tryRm (path : String) :
    (test (.rm path)).Ensures Effect (Since [path] h w) (Returns fun _ _ _ => True) h w := by
  refine ⟨.refl h w, ?_⟩
  rintro r w' ⟨content, rfl, -⟩
  exact ⟨.update _ path content, trivial⟩

/-- The script says `text`. -/
def Said (text : String) (h : List (Command × Answer)) : Prop :=
  ∃ r, (.print text, r) ∈ h ∧ r.status = 0

/-- The script could not say `text`. -/
def Unsaid (text : String) (h : List (Command × Answer)) : Prop :=
  ∃ r, (.print text, r) ∈ h ∧ r.status ≠ 0

theorem Said.mono {text : String} (hs : Said text h) (hh : h <+: h') : Said text h' :=
  hs.imp fun _ hr => ⟨hh.subset hr.1, hr.2⟩

theorem Unsaid.mono {text : String} (hu : Unsaid text h) (hh : h <+: h') : Unsaid text h' :=
  hu.imp fun _ hr => ⟨hh.subset hr.1, hr.2⟩

/-- A message is written, or the script ends. -/
theorem ensures_say (text : String) :
    (printf text).Ensures Effect (Since [] h w)
      (fun out h' _ => match out with
        | .ok () => Said text h'
        | .error status => status ≠ 0 ∧ Unsaid text h') h w := by
  refine ⟨.refl h w, ?_⟩
  rintro r w' rfl
  by_cases hs : r.status = 0
  · simp only [hs, if_true]
    exact ⟨.same _, r, by simp, hs⟩
  · simp only [hs, if_false]
    exact ⟨.same _, hs, r, by simp, hs⟩

/-- A message changes nothing. -/
theorem ensures_printf (text : String) :
    (printf text).Ensures Effect (Since [] h w) (Ends fun _ _ _ => True) h w := by
  refine (ensures_say text).mono (fun _ _ hi => hi) ?_
  rintro (status | ⟨⟩) _ _ _ hq
  · exact hq.1
  · trivial

/-- A message and the exit after it. -/
theorem ensures_refuse {J : List (Command × Answer) → World β → Prop}
    {R : Except Nat Unit → List (Command × Answer) → World β → Prop} (text : String) {status : Nat}
    (hs : status ≠ 0) (hJ : ∀ h' w', Since [] h w h' w' → J h' w')
    (hR : ∀ status h' w', Since [] h w h' w' → status ≠ 0 → R (.error status) h' w') :
    (printf text >>= fun _ => (.exit status : Shell Unit)).Ensures Effect J R h w :=
  (ensures_printf text).checked hJ hR fun _ h' w' hi _ => ⟨hJ h' w' hi, hR status h' w' hi hs⟩

/-- A listing failed. -/
def ListingFailed (folder : String) (h : List (Command × Answer)) : Prop :=
  ∃ r, (.ls folder false, r) ∈ h ∧ r.status ≠ 0

theorem ListingFailed.mono {folder : String} (hl : ListingFailed folder h) (hh : h <+: h') :
    ListingFailed folder h' :=
  hl.imp fun _ hr => ⟨hh.subset hr.1, hr.2⟩

/-- A name that is not found is not there, or the listing failed. -/
theorem ensures_remote_name_exists (folder : String) {name : String}
    (hname : isField name = true) :
    (remote_name_exists folder name).Ensures Effect (Since [] h w)
      (Returns fun found h' _ => found = false → ¬ w.Entry folder name ∨ ListingFailed folder h')
      h w := by
  refine ⟨.refl h w, ?_⟩
  rintro r w' ⟨rfl, hr⟩
  refine ⟨.same _, fun hf => ?_⟩
  by_cases hs : r.status = 0
  · refine .inl fun he => ?_
    obtain ⟨line, hl, hline⟩ := hr hs rfl name hname he
    simp only [hs, decide_true, Bool.true_and, List.any_eq_false, decide_eq_true_eq] at hf
    exact hf line hl hline
  · exact .inr ⟨r, by simp, hs⟩

end Commands

/-! ### The functions of both modes -/

section Functions

variable {ps qs : List String}

/-- Under `set -e` the parts come one after the other, each within the paths of the whole. -/
theorem ensures_seq {α γ : Type} {p : Shell α} {k : α → Shell γ}
    {ok : α → List (Command × Answer) → World β → Prop}
    {ok' : γ → List (Command × Answer) → World β → Prop}
    (hp : p.Ensures Effect (Since qs h w) (Ends ok) h w) (hs : qs ⊆ ps)
    (hk : ∀ a h' w', Since qs h w h' w' → ok a h' w' →
      (k a).Ensures Effect (Since ps h' w') (Ends ok') h' w') :
    (p >>= k).Ensures Effect (Since ps h w) (Ends ok') h w :=
  hp.checked (fun _ _ hi => hi.mono hs) (fun _ _ _ _ he => he) fun a h' w' hi hok =>
    (hk a h' w' hi hok).mono (fun _ _ hd => (hi.mono hs).trans hd) fun _ _ _ _ hq => hq

/-- The package: what the script requires on the computer. -/
structure Settings.Packaged (o : Settings) (w : World β) : Prop where
  bin : (w.computer o.LOCAL_BIN).isSome
  run : (w.computer (o.LOCAL_EXT ++ "/bin/run.sh")).isSome
  probe : (w.computer (o.LOCAL_EXT ++ "/bin/probe-fb.sh")).isSome
  config : (w.computer (o.LOCAL_EXT ++ "/config.xml")).isSome
  menu : (w.computer (o.LOCAL_EXT ++ "/menu.json")).isSome

/-- The support files on the Kindle in `w'` are those of the computer in `w`. -/
structure Settings.Supported (o : Settings) (w w' : World β) : Prop where
  run : w'.remote (REMOTE_BIN_DIR ++ "/run.sh") = w.computer (o.LOCAL_EXT ++ "/bin/run.sh")
  probe :
    w'.remote (REMOTE_BIN_DIR ++ "/probe-fb.sh") = w.computer (o.LOCAL_EXT ++ "/bin/probe-fb.sh")
  config : w'.remote (REMOTE_EXT ++ "/config.xml") = w.computer (o.LOCAL_EXT ++ "/config.xml")

/-- What `upload_support_files` writes. -/
def supportPaths : List String :=
  [REMOTE_BIN_DIR ++ "/run.sh", REMOTE_BIN_DIR ++ "/probe-fb.sh", REMOTE_EXT ++ "/config.xml"]

theorem Touches.since {w₀ : World β} (ht : Touches ps w₀ w)
    (hc : Since qs h w h' w') (hs : qs ⊆ ps) : Touches ps w₀ w' :=
  ht.trans (hc.2.mono hs)

/-- The support files stay, if none of them is written. -/
theorem Settings.Supported.since {w₀ : World β} (hs : o.Supported w₀ w)
    (hc : Since ps h w h' w') (hps : ∀ path ∈ supportPaths, path ∉ ps) : o.Supported w₀ w' :=
  ⟨(hc.2.remote _ (hps _ (by simp [supportPaths]))).trans hs.run,
    (hc.2.remote _ (hps _ (by simp [supportPaths]))).trans hs.probe,
    (hc.2.remote _ (hps _ (by simp [supportPaths]))).trans hs.config⟩

/-- With an end, all support files are there. -/
theorem ensures_upload_support_files :
    o.upload_support_files.Ensures Effect (Since supportPaths h w)
      (Ends fun _ _ w' => o.Supported w w') h w := by
  refine ensures_seq (ensures_put ..) (by simp [supportPaths]) fun _ h₁ w₁ h1 hrun => ?_
  refine ensures_seq (ensures_put ..) (by simp [supportPaths]) fun _ h₂ w₂ h2 hprobe => ?_
  refine ensures_seq (ensures_put ..) (by simp [supportPaths]) fun _ h₃ w₃ h3 hconfig => ?_
  refine ⟨.refl .., ?_, ?_, ?_⟩
  · rw [h3.2.remote _ (by decide +kernel), h2.2.remote _ (by decide +kernel), hrun.1]
  · rw [h3.2.remote _ (by decide +kernel), hprobe.1, h1.2.computer]
  · rw [hconfig.1, h2.2.computer, h1.2.computer]

/-- Only the script to be deleted is touched. -/
theorem ensures_retire {name : String} (hname : isField name = true) :
    (Settings.retire name).Ensures Effect (Since [REMOTE_BIN_DIR ++ "/" ++ name] h w)
      (Ends fun _ _ _ => True) h w := by
  refine (ensures_remote_name_exists _ hname).returned (fun _ _ hi => hi.mono (by simp)) ?_
  intro found h₁ w₁ h1 _
  cases found with
  | false => exact ⟨h1.mono (by simp), trivial⟩
  | true =>
      refine (ensures_tryRm _).returned (fun _ _ hi => (h1.mono (by simp)).trans hi) ?_
      intro removed h₂ w₂ h2 _
      have h2 := (h1.mono (by simp)).trans h2
      cases removed with
      | true => exact ⟨h2, trivial⟩
      | false =>
          exact (ensures_printf _).mono (fun _ _ hi => h2.trans (hi.mono (by simp)))
            fun _ _ _ _ hq => hq

/-- The file KUAL reads last. -/
def MENU : String := REMOTE_EXT ++ "/menu.json"

/-- The scripts of older packages that `publish_menu` deletes. -/
def retiredPaths : List String :=
  [REMOTE_BIN_DIR ++ "/" ++ "stop.sh", REMOTE_BIN_DIR ++ "/" ++ "show.sh"]

theorem ensures_retired :
    (Settings.retire "stop.sh" >>= fun _ => Settings.retire "show.sh").Ensures Effect
      (Since retiredPaths h w) (Ends fun _ _ _ => True) h w :=
  ensures_seq (ensures_retire (by decide +kernel)) (by simp [retiredPaths]) fun _ _ _ _ _ =>
    (ensures_retire (by decide +kernel)).mono (fun _ _ hi => hi.mono (by simp [retiredPaths]))
      fun _ _ _ _ hq => hq

/-- The new menu is there; of the retired files nothing is said. -/
def Settings.Published (o : Settings) (h : List (Command × Answer)) (w : World β)
    (h' : List (Command × Answer)) (w' : World β) : Prop :=
  Since (MENU :: retiredPaths) h w h' w' ∧
    w'.remote MENU = w.computer (o.LOCAL_EXT ++ "/menu.json")

/-- The menu first, and only then what it no longer names. -/
theorem ensures_publish_menu :
    o.publish_menu.Ensures Effect
      (fun h' w' => Since [MENU] h w h' w' ∨ o.Published h w h' w')
      (Ends fun _ h' w' => o.Published h w h' w') h w := by
  refine (ensures_put ..).checked (fun _ _ hi => .inl hi) (fun _ _ _ _ he => he) ?_
  intro _ h₁ w₁ h1 hmenu
  have hp {h₂ : List (Command × Answer)} {w₂ : World β} (hd : Since retiredPaths h₁ w₁ h₂ w₂) :
      o.Published h w h₂ w₂ :=
    ⟨(h1.mono (by simp [MENU])).trans (hd.mono (by simp)),
      (hd.2.remote _ (by decide +kernel)).trans hmenu.1⟩
  refine ensures_retired.mono (fun _ _ hd => .inr (hp hd)) ?_
  rintro (status | ⟨⟩) h₂ w₂ hd hq
  · exact hq
  · exact hp hd

/-- The report changes nothing. -/
theorem ensures_report :
    o.report.Ensures Effect (Since [] h w) (Ends fun _ _ _ => True) h w := by
  have hls : (simple (.ls REMOTE_EXT true)).Ensures Effect (Since [] h w)
      (Ends fun _ _ _ => True) h w :=
    ensures_simple (.refl h w) fun r w' he => by rw [he.1]; exact ⟨.same _, fun _ => trivial⟩
  refine ensures_seq hls (by simp) fun _ h₁ w₁ _ _ => ?_
  refine ensures_seq (ensures_printf _) (by simp) fun _ h₂ w₂ _ _ => ?_
  have hsum : (simple (.shasum o.LOCAL_BIN)).Ensures Effect (Since [] h₂ w₂)
      (Ends fun _ _ _ => True) h₂ w₂ :=
    ensures_simple (.refl h₂ w₂) fun r w' he => by
      obtain rfl : w' = w₂ := he
      exact ⟨.same _, fun _ => trivial⟩
  refine ensures_seq hsum (by simp) fun _ h₃ w₃ _ _ => ?_
  exact ensures_seq (ensures_printf _) (by simp) fun _ _ _ _ _ => ensures_printf _

/-- The end of both modes. -/
theorem ensures_finish :
    (o.publish_menu >>= fun _ => o.report).Ensures Effect
      (fun h' w' => Since [MENU] h w h' w' ∨ o.Published h w h' w')
      (Ends fun _ h' w' => o.Published h w h' w') h w := by
  refine ensures_publish_menu.checked (fun _ _ hi => hi) (fun _ _ _ _ he => he) ?_
  intro _ h₁ w₁ _ hp
  have hend {h' : List (Command × Answer)} {w' : World β} (hi : Since [] h₁ w₁ h' w') :
      o.Published h w h' w' :=
    ⟨hp.1.trans (hi.mono (by simp)), (hi.2.remote _ (by simp)).trans hp.2⟩
  refine ensures_report.mono (fun _ _ hi => .inr (hend hi)) ?_
  rintro (status | ⟨⟩) h' w' hi he
  · exact he
  · exact hend hi

end Functions

/-! ### What is checked first -/

section Checks

/-- What goes on is one of the modes. -/
theorem ensures_checkArguments :
    o.checkArguments.Ensures Effect (Since [] h w)
      (Ends fun _ _ _ => o.MODE = "install" ∨ o.MODE = "update") h w := by
  have husage {h : List (Command × Answer)} {w : World β} :
      (usage >>= fun _ => (.exit 2 : Shell Unit)).Ensures Effect (Since [] h w)
        (Ends fun _ _ _ => o.MODE = "install" ∨ o.MODE = "update") h w :=
    ensures_refuse _ (by decide) (fun _ _ hi => hi) fun _ _ _ _ he => he
  unfold Settings.checkArguments
  split
  · rename_i hm
    split
    · exact husage
    · exact ⟨.refl h w, .inl hm⟩
  · split
    · rename_i hm
      split
      · exact ensures_seq (ensures_printf _) (by simp) fun _ _ _ _ _ => husage
      · exact ⟨.refl h w, .inr hm⟩
    · exact husage

/-- What goes on has found the file. -/
theorem ensures_require_local_file (path : String) :
    (require_local_file path).Ensures Effect (Since [] h w)
      (Ends fun _ _ _ => (w.computer path).isSome) h w := by
  have htest : (test (.testFile path)).Ensures Effect (Since [] h w)
      (Returns fun found _ _ => found = true → (w.computer path).isSome) h w := by
    refine ⟨.refl h w, ?_⟩
    rintro r w' ⟨rfl, hr⟩
    exact ⟨.same _, fun hf => hr.mp (of_decide_eq_true hf)⟩
  refine htest.returned (fun _ _ hi => hi) fun found h₁ w₁ h1 hfound => ?_
  cases found with
  | true => exact ⟨h1, hfound rfl⟩
  | false =>
      exact ensures_refuse _ Nat.one_ne_zero (fun _ _ hi => h1.trans hi) fun _ _ _ _ he => he

/-- What goes on has found the whole package. -/
theorem ensures_checkPackage :
    o.checkPackage.Ensures Effect (Since [] h w) (Ends fun _ _ _ => o.Packaged w) h w := by
  refine ensures_seq (ensures_require_local_file _) (by simp) fun _ h₁ w₁ h1 hbin => ?_
  refine ensures_seq (ensures_require_local_file _) (by simp) fun _ h₂ w₂ h2 hrun => ?_
  refine ensures_seq (ensures_require_local_file _) (by simp) fun _ h₃ w₃ h3 hprobe => ?_
  refine ensures_seq (ensures_require_local_file _) (by simp) fun _ h₄ w₄ h4 hconfig => ?_
  refine ensures_seq (ensures_require_local_file _) (by simp) fun _ h₅ w₅ h5 hmenu => ?_
  rw [h4.2.computer, h3.2.computer, h2.2.computer, h1.2.computer] at hmenu
  rw [h3.2.computer, h2.2.computer, h1.2.computer] at hconfig
  rw [h2.2.computer, h1.2.computer] at hprobe
  rw [h1.2.computer] at hrun
  have hpackage : o.Packaged w := ⟨hbin, hrun, hprobe, hconfig, hmenu⟩
  have htest : (test (.commandV o.MTP_RS_BIN)).Ensures Effect (Since [] h₅ w₅)
      (Returns fun _ _ _ => True) h₅ w₅ := by
    refine ⟨.refl h₅ w₅, ?_⟩
    rintro r w' rfl
    exact ⟨.same _, trivial⟩
  refine htest.returned (fun _ _ hi => hi) fun found h₆ w₆ h6 _ => ?_
  cases found with
  | true => exact ⟨h6, hpackage⟩
  | false =>
      exact ensures_refuse _ Nat.one_ne_zero (fun _ _ hi => h6.trans hi) fun _ _ _ _ he => he

/-- A package is there by the files of the computer alone. -/
theorem Settings.Packaged.of_computer (hp : o.Packaged w') (hc : w'.computer = w.computer) :
    o.Packaged w :=
  ⟨hc ▸ hp.bin, hc ▸ hp.run, hc ▸ hp.probe, hc ▸ hp.config, hc ▸ hp.menu⟩

/-- What comes before the script does anything on the Kindle. -/
theorem ensures_checked {J : List (Command × Answer) → World β → Prop}
    {Q : Except Nat Unit → List (Command × Answer) → World β → Prop} {k : Shell Unit}
    (hJ : ∀ h' w', Since [] h w h' w' → J h' w')
    (hQ : ∀ status h' w', Since [] h w h' w' → status ≠ 0 → Q (.error status) h' w')
    (hk : ∀ h' w', Since [] h w h' w' → o.Packaged w → (o.MODE = "install" ∨ o.MODE = "update") →
      k.Ensures Effect J Q h' w') :
    (o.checkArguments >>= fun _ => o.checkPackage >>= fun _ => k).Ensures Effect J Q h w := by
  refine ensures_checkArguments.checked hJ hQ fun _ h₁ w₁ h1 hmode => ?_
  refine ensures_checkPackage.checked (fun _ _ hi => hJ _ _ (h1.trans hi))
    (fun _ _ _ hi he => hQ _ _ _ (h1.trans hi) he) fun _ h₂ w₂ h2 hp => ?_
  exact hk h₂ w₂ (h1.trans h2) (hp.of_computer h1.2.computer) hmode

end Checks

end PaperPad.Deploy
