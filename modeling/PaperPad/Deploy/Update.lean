import PaperPad.Deploy.Fake
import PaperPad.Deploy.Functions

/-!
# Deploy — Update

An update of an installed extension, cut after any of its commands.

* `update_kept`: the installed binary is at its place or in the backup, an earlier backup is
  written over only if a listing has failed, and the menu changes only once the binary and its
  support files are those of the package.
* `update_ends`: with status 0 all of the package is there and the backup is the binary the Kindle
  had; with any other status the new binary is not activated, is activated, or could not be
  activated and was rolled back, unless the script says that the rollback failed or cannot say
  what it has to say: a message that cannot be written ends it, also before the rollback.
-/

namespace PaperPad.Deploy

open Script Transition

variable {β : Type} {o : Settings} {w w' w₀ : World β} {h h' es : List (Command × Answer)}
  {p : Shell Unit}

/-! ### The functions -/

/-- What the script prints before a rollback. -/
def ACTIVATION_FAILED : String :=
  "ERROR: activating staged binary failed; attempting verified rollback\n"

/-- What it prints when the rollback has failed too. -/
def ROLLBACK_FAILED : String := "ERROR: rollback failed; do not launch from KUAL.\n"

/-- Why a binary that could not be activated is not rolled back. -/
inductive NotRestored (h : List (Command × Answer)) : Prop where
  | said (hs : Said ROLLBACK_FAILED h)
  | unsaid (hu : Unsaid ROLLBACK_FAILED h)
  /-- The script ended before the rollback. -/
  | untried (hu : Unsaid ACTIVATION_FAILED h)

theorem NotRestored.mono (hn : NotRestored h) (hh : h <+: h') : NotRestored h' := by
  cases hn with
  | said hs => exact .said (hs.mono hh)
  | unsaid hu => exact .unsaid (hu.mono hh)
  | untried hu => exact .untried (hu.mono hh)

/-- How the rollback ends: what was saved is back, or there is a reason why it is not. -/
def RolledBack (saved : String) (h : List (Command × Answer)) (w : World β)
    (out : Except Nat Unit) (h' : List (Command × Answer)) (w' : World β) : Prop :=
  match out with
  | .ok () => False
  | .error status => status ≠ 0 ∧ Since [REMOTE_BIN] h w h' w' ∧
      (w'.remote REMOTE_BIN = w.computer saved ∨ NotRestored h')

/-- What a failed activation ends with. -/
theorem ensures_rollback (saved : String) :
    (do
      printf ACTIVATION_FAILED
      if ← test (.put saved REMOTE_BIN true) then
        printf "Rollback restored the previous binary.\n"
      else
        printf ROLLBACK_FAILED
      .exit 1 : Shell Unit).Ensures Effect (Since [REMOTE_BIN] h w) (RolledBack saved h w) h w := by
  refine .bind ((ensures_say _).mono (fun _ _ hi => hi.mono (by simp)) ?_)
  rintro (status | ⟨⟩) h₁ w₁ h1 hq
  · exact ⟨hq.1, h1.mono (by simp), .inr (.untried hq.2)⟩
  have h1' : Since [REMOTE_BIN] h w h₁ w₁ := h1.mono (by simp)
  refine (ensures_tryPut ..).returned (fun _ _ hi => h1'.trans hi) ?_
  intro restored h₂ w₂ h2 hrestored
  have h2 := h1'.trans h2
  have hsince {h' : List (Command × Answer)} {w' : World β} (hi : Since [] h₂ w₂ h' w') :
      Since [REMOTE_BIN] h w h' w' := h2.trans (hi.mono (by simp))
  cases restored with
  | true =>
      have hback {h' : List (Command × Answer)} {w' : World β} (hi : Since [] h₂ w₂ h' w') :
          w'.remote REMOTE_BIN = w.computer saved := by
        rw [hi.2.remote _ (by simp), hrestored rfl, h1.2.computer]
      exact ensures_refuse _ Nat.one_ne_zero (fun _ _ hi => hsince hi)
        fun _ _ _ hi he => ⟨he, hsince hi, .inl (hback hi)⟩
  | false =>
      refine .bind ((ensures_say _).mono (fun _ _ hi => hsince hi) ?_)
      rintro (status | ⟨⟩) h₃ w₃ h3 hq
      · exact ⟨hq.1, hsince h3, .inr (.unsaid hq.2)⟩
      · exact ⟨hsince h3, Nat.one_ne_zero, hsince h3, .inr (.said hq)⟩

/-- The new binary is in place, whatever becomes of the staged one, or the rollback has ended. -/
theorem ensures_activate (saved : String) :
    (o.activate saved).Ensures Effect (Since [REMOTE_BIN, REMOTE_STAGED_BIN] h w)
      (fun out h' w' => w'.remote REMOTE_BIN = w.computer o.LOCAL_BIN ∧ Ends (fun _ _ _ => True)
        out h' w' ∨ RolledBack saved h w out h' w') h w := by
  refine (ensures_tryPut ..).returned (fun _ _ hi => hi.mono (by simp)) ?_
  intro put h₁ w₁ h1 hput
  cases put with
  | true =>
      refine (ensures_tryRm _).returned
        (fun _ _ hi => (h1.mono (by simp)).trans (hi.mono (by simp))) ?_
      intro removed h₂ w₂ h2 _
      have hbin : w₂.remote REMOTE_BIN = w.computer o.LOCAL_BIN :=
        (h2.2.remote _ (by decide +kernel)).trans (hput rfl)
      have h2 := (h1.mono (by simp)).trans (h2.mono (List.subset_cons_self REMOTE_BIN _))
      cases removed with
      | true => exact ⟨h2, .inl ⟨hbin, trivial⟩⟩
      | false =>
          exact (ensures_printf _).mono (fun _ _ hi => h2.trans (hi.mono (by simp)))
            fun _ _ _ hi hq => .inl ⟨(hi.2.remote _ (by simp)).trans hbin, hq⟩
  | false =>
      refine ((ensures_rollback saved).mono (fun _ _ hi => (h1.trans hi).mono (by simp)) ?_)
      rintro (status | ⟨⟩) h₂ w₂ _ hq
      · refine .inr ⟨hq.1, h1.trans hq.2.1, ?_⟩
        rw [← h1.2.computer]
        exact hq.2.2
      · exact hq.elim

/-- The backup of an earlier update was not there, or the script could not see it. -/
def NoBackup (w : World β) (h : List (Command × Answer)) : Prop :=
  w.remote REMOTE_PREVIOUS_BIN = none ∨ ListingFailed REMOTE_BIN_DIR h

theorem NoBackup.mono (hn : NoBackup w h) (hh : h <+: h') : NoBackup w h' :=
  hn.imp_right fun hl => hl.mono hh

/-- Before the binary is staged nothing is changed. -/
theorem ensures_stage :
    o.stage.Ensures Effect
      (fun h' w' => Since [] h w h' w' ∨ Since [REMOTE_STAGED_BIN] h w h' w' ∧ NoBackup w h')
      (Ends fun _ h' w' => Since [REMOTE_STAGED_BIN] h w h' w' ∧ NoBackup w h') h w := by
  have hls : (simple (.ls REMOTE_BIN_DIR false)).Ensures Effect (Since [] h w)
      (Ends fun _ _ _ => True) h w :=
    ensures_simple (.refl h w) fun r w' he => by rw [he.1]; exact ⟨.same _, fun _ => trivial⟩
  refine hls.checked (fun _ _ hi => .inl hi) (fun _ _ _ _ he => he) ?_
  intro _ h₁ w₁ h1 _
  refine (ensures_remote_name_exists _ (by decide +kernel)).returned
    (fun _ _ hi => .inl (h1.trans hi)) ?_
  intro found h₂ w₂ h2 _
  have h2 := h1.trans h2
  cases found with
  | false =>
      exact ensures_refuse _ Nat.one_ne_zero (fun _ _ hi => .inl (h2.trans hi))
        fun _ _ _ _ he => he
  | true =>
      refine (ensures_remote_name_exists _ (by decide +kernel)).returned
        (fun _ _ hi => .inl (h2.trans hi)) ?_
      intro backup h₃ w₃ h3 hbackup
      have h3 := h2.trans h3
      cases backup with
      | true =>
          refine (ensures_printf _).checked (fun _ _ hi => .inl (h3.trans hi))
            (fun _ _ _ _ he => he) ?_
          intro _ h₄ w₄ h4 _
          exact ensures_refuse _ Nat.one_ne_zero (fun _ _ hi => .inl ((h3.trans h4).trans hi))
            fun _ _ _ _ he => he
      | false =>
          have hno : NoBackup w h₃ := by
            refine (hbackup rfl).imp_left fun hentry => ?_
            rw [← h2.2.remote _ (by simp), ← Option.not_isSome_iff_eq_none]
            have hpath : REMOTE_PREVIOUS_BIN =
                REMOTE_BIN_DIR ++ "/" ++ "rust_x11_hello.previous" := by decide +kernel
            exact fun hs => hentry (.inl (hpath ▸ hs))
          have hput {h₄ : List (Command × Answer)} {w₄ : World β}
              (h4 : Since [REMOTE_STAGED_BIN] h₃ w₃ h₄ w₄) :
              Since [REMOTE_STAGED_BIN] h w h₄ w₄ ∧ NoBackup w h₄ :=
            ⟨(h3.mono (by simp)).trans h4, hno.mono h4.1⟩
          refine (ensures_put ..).checked (fun _ _ hi => .inr (hput hi))
            (fun _ _ _ _ he => he) ?_
          intro _ h₄ w₄ h4 _
          exact ⟨.inr (hput h4), hput h4⟩

/-- The files the computer has stay as they are. -/
def KeepsFiles (w₀ w : World β) : Prop :=
  ∀ file, (w₀.computer file).isSome → w.computer file = w₀.computer file

/-- The installed binary through a file of the computer to the backup. -/
theorem ensures_retain (destination : String) :
    (Settings.retain destination).Ensures Effect
      (fun h' w' => h <+: h' ∧ Touches [REMOTE_PREVIOUS_BIN] w w' ∧
        ∀ file ≠ destination, w'.computer file = w.computer file)
      (Ends fun _ _ w' => w'.remote REMOTE_PREVIOUS_BIN = w.remote REMOTE_BIN ∧
        w'.computer destination = w.remote REMOTE_BIN) h w := by
  have hget : (simple (.get REMOTE_BIN destination)).Ensures Effect
      (fun h' w' => h <+: h' ∧ w'.remote = w.remote ∧ w'.folders = w.folders ∧
        ∀ file ≠ destination, w'.computer file = w.computer file)
      (Ends fun _ _ w' => w'.computer destination = w.remote REMOTE_BIN) h w := by
    refine ensures_simple ⟨List.prefix_rfl, rfl, rfl, fun _ _ => rfl⟩ ?_
    rintro r w' ⟨content, rfl, hr⟩
    refine ⟨⟨List.prefix_append .., rfl, rfl, fun _ hf => Function.update_of_ne hf _ _⟩,
      fun hs => ?_⟩
    rw [(hr hs).1]
    exact Function.update_self ..
  refine hget.checked (fun _ _ hi => ⟨hi.1, ⟨hi.2.2.1, fun _ _ => by rw [hi.2.1]⟩, hi.2.2.2⟩)
    (fun _ _ _ _ he => he) ?_
  intro _ h₁ w₁ ⟨hh, hremote, hfolders, hfiles⟩ hsaved
  have hput {h₂ : List (Command × Answer)} {w₂ : World β}
      (h2 : Since [REMOTE_PREVIOUS_BIN] h₁ w₁ h₂ w₂) :
      h <+: h₂ ∧ Touches [REMOTE_PREVIOUS_BIN] w w₂ ∧
        ∀ file ≠ destination, w₂.computer file = w.computer file := by
    refine ⟨hh.trans h2.1, ⟨h2.2.folders.trans hfolders, fun path hp => ?_⟩, fun file hf => ?_⟩
    · rw [h2.2.remote path hp, hremote]
    · rw [h2.2.computer, hfiles file hf]
  refine (ensures_put ..).checked (fun _ _ hi => hput hi) (fun _ _ _ _ he => he) ?_
  intro _ h₂ w₂ h2 hprevious
  exact ⟨hput h2, hprevious.1.trans hsaved, (congrFun h2.2.computer _).trans hsaved⟩

/-- What the trap may do: remove the directory it is given, and nothing else. -/
def Cleaned (directory : String) (h : List (Command × Answer)) (w : World β)
    (h' : List (Command × Answer)) (w' : World β) : Prop :=
  h <+: h' ∧ w'.remote = w.remote ∧ w'.folders = w.folders ∧
    ∀ file, ¬ (directory ++ "/").toList <+: file.toList → w'.computer file = w.computer file

/-- Only the temporary folder is removed. -/
theorem ensures_cleanup (directory : String) :
    (cleanup_local_temp directory).Ensures Effect (Cleaned directory h w) (Ends fun _ _ _ => True)
      h w := by
  have hself {h' : List (Command × Answer)} (hh : h <+: h') : Cleaned directory h w h' w :=
    ⟨hh, rfl, rfl, fun _ _ => rfl⟩
  unfold cleanup_local_temp
  split
  · refine ⟨hself List.prefix_rfl, ?_⟩
    rintro r w' rfl
    by_cases hs : r.status = 0
    · have hremove : (simple (.removeTree directory)).Ensures Effect (Cleaned directory h w')
          (Ends fun _ _ _ => True) (h ++ [(.testDirectory directory, r)]) w' := by
        refine ensures_simple (hself (List.prefix_append ..)) ?_
        rintro r' w₂ ⟨computer, rfl, hc⟩
        exact ⟨⟨by rw [List.append_assoc]; exact List.prefix_append .., rfl, rfl, hc⟩,
          fun _ => trivial⟩
      simp only [hs, decide_true]
      exact hremove.checked (fun _ _ hi => hi) (fun _ _ _ _ he => he)
        fun _ _ _ hi _ => ⟨hi, trivial⟩
    · simp only [hs, decide_false]
      exact ⟨hself (List.prefix_append ..), trivial⟩
  · exact ⟨hself List.prefix_rfl, trivial⟩

/-! ### The update -/

/-- What each stage of an update has written, with what was written before it. -/
def stagedPaths : List String := [REMOTE_STAGED_BIN]
def retainedPaths : List String := REMOTE_PREVIOUS_BIN :: stagedPaths
def preparedPaths : List String := supportPaths ++ retainedPaths
def activatedPaths : List String := REMOTE_BIN :: preparedPaths
def publishedPaths : List String := MENU :: activatedPaths

/-- What the script writes on the Kindle. -/
def updatePaths : List String := retiredPaths ++ publishedPaths

theorem stagedPaths_subset : stagedPaths ⊆ retainedPaths := List.subset_cons_self ..

theorem retainedPaths_subset : retainedPaths ⊆ preparedPaths := List.subset_append_right ..

theorem preparedPaths_subset : preparedPaths ⊆ activatedPaths := List.subset_cons_self ..

theorem activatedPaths_subset : activatedPaths ⊆ publishedPaths := List.subset_cons_self ..

/-- How far the update of `w₀` has come: what may have changed, and what is known of it. -/
inductive Settings.Progress (o : Settings) (w₀ w : World β) : Prop where
  | staging (ht : Touches stagedPaths w₀ w)
  | retaining (ht : Touches retainedPaths w₀ w)
  | preparing (ht : Touches preparedPaths w₀ w)
      (hr : w.remote REMOTE_PREVIOUS_BIN = w₀.remote REMOTE_BIN)
  | activating (ht : Touches activatedPaths w₀ w)
      (hr : w.remote REMOTE_PREVIOUS_BIN = w₀.remote REMOTE_BIN) (hs : o.Supported w₀ w)
  | publishing (ht : Touches publishedPaths w₀ w)
      (hr : w.remote REMOTE_PREVIOUS_BIN = w₀.remote REMOTE_BIN) (hs : o.Supported w₀ w)
      (hb : w.remote REMOTE_BIN = w₀.computer o.LOCAL_BIN)
  | retiring (ht : Touches updatePaths w₀ w)
      (hr : w.remote REMOTE_PREVIOUS_BIN = w₀.remote REMOTE_BIN) (hs : o.Supported w₀ w)
      (hb : w.remote REMOTE_BIN = w₀.computer o.LOCAL_BIN)
      (hm : w.remote MENU = w₀.computer (o.LOCAL_EXT ++ "/menu.json"))

/-- How an update of `w₀` ends. -/
def Settings.UpdateEnds (o : Settings) (w₀ : World β) (out : Except Nat Unit)
    (h : List (Command × Answer)) (w : World β) : Prop :=
  match out with
  | .ok () =>
      w.remote REMOTE_PREVIOUS_BIN = w₀.remote REMOTE_BIN ∧ o.Supported w₀ w ∧
        w.remote REMOTE_BIN = w₀.computer o.LOCAL_BIN ∧
        w.remote MENU = w₀.computer (o.LOCAL_EXT ++ "/menu.json")
  | .error status => status ≠ 0 ∧
      (Touches preparedPaths w₀ w ∨
        w.remote REMOTE_PREVIOUS_BIN = w₀.remote REMOTE_BIN ∧ o.Supported w₀ w ∧
          (w.remote REMOTE_BIN = w₀.computer o.LOCAL_BIN ∨
            Touches activatedPaths w₀ w ∧
              (w.remote REMOTE_BIN = w₀.remote REMOTE_BIN ∨ NotRestored h)))

/-- Nothing changes on the computer. -/
theorem KeepsFiles.eq (hk : KeepsFiles w₀ w) (hw : w'.computer = w.computer) :
    KeepsFiles w₀ w' :=
  fun file hf => (congrFun hw file).trans (hk file hf)

/-- Of the package, what is on the computer now is what was there. -/
theorem Settings.Supported.keeps (hs : o.Supported w w') (hk : KeepsFiles w₀ w)
    (hp : o.Packaged w₀) : o.Supported w₀ w' :=
  ⟨hs.run.trans (hk _ hp.run), hs.probe.trans (hk _ hp.probe), hs.config.trans (hk _ hp.config)⟩

/-- The end of an update whose binary is in place. -/
theorem ensures_published (ht : Touches activatedPaths w₀ w)
    (hr : w.remote REMOTE_PREVIOUS_BIN = w₀.remote REMOTE_BIN) (hs : o.Supported w₀ w)
    (hb : w.remote REMOTE_BIN = w₀.computer o.LOCAL_BIN) (hk : KeepsFiles w₀ w)
    (hp : o.Packaged w₀) :
    (o.publish_menu >>= fun _ => o.report).Ensures Effect
      (fun h' w' => h <+: h' ∧ o.Progress w₀ w' ∧ KeepsFiles w₀ w') (o.UpdateEnds w₀) h w := by
  have hpublishing {ps : List String} {h' : List (Command × Answer)} {w' : World β}
      (hi : Since ps h w h' w') (hps : ∀ path ∈ activatedPaths, path ∉ ps) :
      w'.remote REMOTE_PREVIOUS_BIN = w₀.remote REMOTE_BIN ∧ o.Supported w₀ w' ∧
        w'.remote REMOTE_BIN = w₀.computer o.LOCAL_BIN :=
    ⟨(hi.2.remote _ (hps _ (by decide +kernel))).trans hr,
      hs.since hi fun path hpath => hps path (List.mem_cons_of_mem _
        (List.mem_append_left _ hpath)),
      (hi.2.remote _ (hps _ (by decide +kernel))).trans hb⟩
  have hpublished {h' : List (Command × Answer)} {w' : World β} (hi : o.Published h w h' w') :
      Touches updatePaths w₀ w' ∧ w'.remote MENU = w₀.computer (o.LOCAL_EXT ++ "/menu.json") :=
    ⟨(ht.mono (by decide +kernel)).since hi.1 (by decide +kernel), hi.2.trans (hk _ hp.menu)⟩
  refine ensures_finish.mono (fun h' w' hi => ?_) ?_
  · rcases hi with hi | hi
    · obtain ⟨hr', hs', hb'⟩ := hpublishing hi (by decide +kernel)
      exact ⟨hi.1, .publishing ((ht.mono activatedPaths_subset).since hi (by decide +kernel))
        hr' hs' hb', hk.eq hi.2.computer⟩
    · obtain ⟨hr', hs', hb'⟩ := hpublishing hi.1 (by decide +kernel)
      exact ⟨hi.1.1, .retiring (hpublished hi).1 hr' hs' hb' (hpublished hi).2,
        hk.eq hi.1.2.computer⟩
  · rintro (status | ⟨⟩) h' w' hi he
    · rcases hi with hi | hi
      · obtain ⟨hr', hs', hb'⟩ := hpublishing hi (by decide +kernel)
        exact ⟨he, .inr ⟨hr', hs', .inl hb'⟩⟩
      · obtain ⟨hr', hs', hb'⟩ := hpublishing hi.1 (by decide +kernel)
        exact ⟨he, .inr ⟨hr', hs', .inl hb'⟩⟩
    · obtain ⟨hr', hs', hb'⟩ := hpublishing (And.left he) (by decide +kernel)
      exact ⟨hr', hs', hb', (hpublished he).2⟩

/-- The part of the update that has a directory on the computer, without its trap. -/
theorem ensures_replaceBody {saved : String} (ht : Touches stagedPaths w₀ w)
    (hc : w.computer = w₀.computer) (hp : o.Packaged w₀) (hsaved : w₀.computer saved = none) :
    (do
      Settings.retain saved
      o.upload_support_files
      o.activate saved
      o.publish_menu
      o.report : Shell Unit).Ensures Effect
      (fun h' w' => h <+: h' ∧ o.Progress w₀ w' ∧ KeepsFiles w₀ w') (o.UpdateEnds w₀) h w := by
  have hkeeps {w' : World β} (hf : ∀ file ≠ saved, w'.computer file = w.computer file) :
      KeepsFiles w₀ w' := fun file hs => by
    rw [hf file (by rintro rfl; rw [hsaved] at hs; cases hs), hc]
  have hretaining {w' : World β} (hi : Touches [REMOTE_PREVIOUS_BIN] w w') :
      Touches retainedPaths w₀ w' :=
    (ht.mono stagedPaths_subset).trans (hi.mono (by simp [retainedPaths]))
  refine (ensures_retain saved).checked
    (fun _ w' ⟨hh, hi, hf⟩ => ⟨hh, .retaining (hretaining hi), hkeeps hf⟩)
    (fun _ _ w' ⟨_, hi, _⟩ he => ⟨he, .inl ((hretaining hi).mono retainedPaths_subset)⟩) ?_
  intro _ h₁ w₁ ⟨hh₁, hi₁, hf₁⟩ ⟨hr₁, hsaved₁⟩
  have hk₁ : KeepsFiles w₀ w₁ := hkeeps hf₁
  have hbin : w.remote REMOTE_BIN = w₀.remote REMOTE_BIN := ht.remote _ (by decide +kernel)
  rw [hbin] at hr₁ hsaved₁
  -- the support files
  have hpreparing {h' : List (Command × Answer)} {w' : World β}
      (hi : Since supportPaths h₁ w₁ h' w') :
      Touches preparedPaths w₀ w' ∧ w'.remote REMOTE_PREVIOUS_BIN = w₀.remote REMOTE_BIN :=
    ⟨((hretaining hi₁).mono retainedPaths_subset).since hi (List.subset_append_left ..),
      (hi.2.remote _ (by decide +kernel)).trans hr₁⟩
  refine ensures_upload_support_files.checked
    (fun _ _ hi => ⟨hh₁.trans hi.1, .preparing (hpreparing hi).1 (hpreparing hi).2,
      hk₁.eq hi.2.computer⟩)
    (fun _ _ _ hi he => ⟨he, .inl (hpreparing hi).1⟩) ?_
  intro _ h₂ w₂ hi₂ hs₂
  obtain ⟨ht₂, hr₂⟩ := hpreparing hi₂
  have hs₂ : o.Supported w₀ w₂ := hs₂.keeps hk₁ hp
  have hk₂ : KeepsFiles w₀ w₂ := hk₁.eq hi₂.2.computer
  -- the binary
  have hactivating {h' : List (Command × Answer)} {w' : World β}
      (hi : Since [REMOTE_BIN, REMOTE_STAGED_BIN] h₂ w₂ h' w') :
      Touches activatedPaths w₀ w' ∧ w'.remote REMOTE_PREVIOUS_BIN = w₀.remote REMOTE_BIN ∧
        o.Supported w₀ w' :=
    ⟨(ht₂.mono preparedPaths_subset).since hi (by decide +kernel),
      (hi.2.remote _ (by decide +kernel)).trans hr₂, hs₂.since hi (by decide +kernel)⟩
  refine .bind ((ensures_activate saved).mono
    (fun _ _ hi => ⟨(hh₁.trans hi₂.1).trans hi.1, .activating (hactivating hi).1
      (hactivating hi).2.1 (hactivating hi).2.2, hk₂.eq hi.2.computer⟩) ?_)
  rintro out h₃ w₃ hi₃ hq
  obtain ⟨ht₃, hr₃, hs₃⟩ := hactivating hi₃
  have hh₃ := (hh₁.trans hi₂.1).trans hi₃.1
  rcases out with status | ⟨⟩
  · rcases hq with ⟨hbin₃, he⟩ | ⟨he, -, hback⟩
    · exact ⟨he, .inr ⟨hr₃, hs₃, .inl (hbin₃.trans (hk₂ _ hp.bin))⟩⟩
    · refine ⟨he, .inr ⟨hr₃, hs₃, .inr ⟨ht₃, hback.imp_left fun hb => ?_⟩⟩⟩
      rw [hb, hi₂.2.computer, hsaved₁]
  · obtain ⟨hbin₃, -⟩ : w₃.remote REMOTE_BIN = w₂.computer o.LOCAL_BIN ∧ True :=
      hq.resolve_right id
    exact (ensures_published ht₃ hr₃ hs₃ (hbin₃.trans (hk₂ _ hp.bin)) (hk₂.eq hi₃.2.computer)
      hp).mono (fun _ _ hi => ⟨hh₃.trans hi.1, hi.2⟩) fun _ _ _ _ hq => hq

/-- By the files of the Kindle alone. -/
theorem Settings.Supported.of_remote (hs : o.Supported w₀ w)
    (hr : w'.remote = w.remote) : o.Supported w₀ w' :=
  ⟨(congrFun hr _).trans hs.run, (congrFun hr _).trans hs.probe, (congrFun hr _).trans hs.config⟩

theorem Touches.of_remote {ps : List String} (ht : Touches ps w₀ w)
    (hr : w'.remote = w.remote) (hf : w'.folders = w.folders) : Touches ps w₀ w' :=
  ⟨hf.trans ht.folders, fun path hp => (congrFun hr path).trans (ht.remote path hp)⟩

/-- What the trap does on the computer leaves the end as it is. -/
theorem Settings.UpdateEnds.of_remote {out : Except Nat Unit}
    (he : o.UpdateEnds w₀ out h w) (hh : h <+: h') (hr : w'.remote = w.remote)
    (hf : w'.folders = w.folders) : o.UpdateEnds w₀ out h' w' := by
  cases out with
  | ok =>
      obtain ⟨h1, h2, h3, h4⟩ := he
      exact ⟨(congrFun hr _).trans h1, h2.of_remote hr, (congrFun hr _).trans h3,
        (congrFun hr _).trans h4⟩
  | error status =>
      refine ⟨he.1, he.2.imp (fun ht => ht.of_remote hr hf) fun ⟨h1, h2, h3⟩ =>
        ⟨(congrFun hr _).trans h1, h2.of_remote hr, ?_⟩⟩
      rw [hr]
      exact h3.imp_right fun ⟨h4, h5⟩ =>
        ⟨h4.of_remote hr hf, h5.imp_right fun hn => hn.mono hh⟩

/-- A status other than 0 is also how a trap that fails ends. -/
theorem Settings.UpdateEnds.fail {out : Except Nat Unit} {status : Nat}
    (he : o.UpdateEnds w₀ out h w) (hs : status ≠ 0) : o.UpdateEnds w₀ (.error status) h w := by
  cases out with
  | ok =>
      obtain ⟨h1, h2, h3, h4⟩ := he
      exact ⟨hs, .inr ⟨h1, h2, .inl h3⟩⟩
  | error => exact ⟨hs, he.2⟩

/-- By what is on the Kindle alone. -/
theorem Settings.Progress.of_remote (hp : o.Progress w₀ w)
    (hr : w'.remote = w.remote) (hf : w'.folders = w.folders) : o.Progress w₀ w' := by
  cases hp with
  | staging ht => exact .staging (ht.of_remote hr hf)
  | retaining ht => exact .retaining (ht.of_remote hr hf)
  | preparing ht hr' => exact .preparing (ht.of_remote hr hf) ((congrFun hr _).trans hr')
  | activating ht hr' hs =>
      exact .activating (ht.of_remote hr hf) ((congrFun hr _).trans hr') (hs.of_remote hr)
  | publishing ht hr' hs hb =>
      exact .publishing (ht.of_remote hr hf) ((congrFun hr _).trans hr') (hs.of_remote hr)
        ((congrFun hr _).trans hb)
  | retiring ht hr' hs hb hm =>
      exact .retiring (ht.of_remote hr hf) ((congrFun hr _).trans hr') (hs.of_remote hr)
        ((congrFun hr _).trans hb) ((congrFun hr _).trans hm)

/-- A path in a folder is the folder's, a slash and a name. -/
theorem eq_append_of_prefix {directory file : String}
    (hp : (directory ++ "/").toList <+: file.toList) : ∃ name, file = directory ++ "/" ++ name := by
  obtain ⟨name, hname⟩ := hp
  exact ⟨String.ofList name, String.toList_injective (by simpa using hname.symm)⟩

/-- The part of the update that has a directory on the computer. -/
theorem ensures_replace {directory : String} (ht : Touches stagedPaths w₀ w)
    (hc : w.computer = w₀.computer) (hp : o.Packaged w₀)
    (hfresh : ∀ name, w₀.computer (directory ++ "/" ++ name) = none) :
    (o.replace directory).Ensures Effect
      (fun h' w' => h <+: h' ∧ o.Progress w₀ w' ∧ KeepsFiles w₀ w') (o.UpdateEnds w₀) h w := by
  have hsaved : w₀.computer (directory ++ "/rust_x11_hello.previous") = none := by
    have hname := hfresh "rust_x11_hello.previous"
    rwa [String.append_assoc] at hname
  refine .onExit ((ensures_replaceBody ht hc hp hsaved).mono (fun _ _ hi => hi) ?_)
  rintro out h₁ w₁ ⟨hh₁, hp₁, hk₁⟩ he
  refine (ensures_cleanup directory).mono ?_ ?_
  · rintro h₂ w₂ ⟨hh₂, hr, hf, hfiles⟩
    refine ⟨hh₁.trans hh₂, hp₁.of_remote hr hf, fun file hs => ?_⟩
    refine (hfiles file fun hprefix => ?_).trans (hk₁ file hs)
    obtain ⟨name, rfl⟩ := eq_append_of_prefix hprefix
    rw [hfresh name] at hs
    cases hs
  · rintro (status | ⟨⟩) h₂ w₂ ⟨hh₂, hr, hf, -⟩ hq
    · exact (he.fail hq).of_remote hh₂ hr hf
    · exact he.of_remote hh₂ hr hf

/-- The update, of a package that is all there. -/
theorem ensures_update (hp : o.Packaged w) :
    o.update.Ensures Effect
      (fun h' w' => h <+: h' ∧ o.Progress w w' ∧ KeepsFiles w w' ∧
        (w'.remote REMOTE_PREVIOUS_BIN ≠ w.remote REMOTE_PREVIOUS_BIN → NoBackup w h'))
      (o.UpdateEnds w) h w := by
  have hstage {h' : List (Command × Answer)} {w' : World β}
      (hi : Since [REMOTE_STAGED_BIN] h w h' w') :
      h <+: h' ∧ o.Progress w w' ∧ KeepsFiles w w' ∧
        (w'.remote REMOTE_PREVIOUS_BIN ≠ w.remote REMOTE_PREVIOUS_BIN → NoBackup w h') :=
    ⟨hi.1, .staging hi.2.toTouches, fun _ _ => congrFun hi.2.computer _,
      fun hne => absurd (hi.2.remote _ (by decide +kernel)) hne⟩
  have hstaged {h' : List (Command × Answer)} {w' : World β}
      (hi : Since [] h w h' w' ∨ Since [REMOTE_STAGED_BIN] h w h' w' ∧ NoBackup w h') :
      Since [REMOTE_STAGED_BIN] h w h' w' :=
    hi.elim (fun hi => hi.mono (by simp)) And.left
  refine ensures_stage.checked (fun _ _ hi => hstage (hstaged hi))
    (fun _ _ _ hi he => ⟨he, .inl ((hstaged hi).2.mono
      (List.Subset.trans stagedPaths_subset retainedPaths_subset))⟩) ?_
  intro _ h₁ w₁ _ ⟨hi₁, hno⟩
  have hmktemp : (simple .mktemp).Ensures Effect (Since [] h₁ w₁)
      (Ends fun r _ _ => ∀ name, w₁.computer (r.output ++ "/" ++ name) = none) h₁ w₁ := by
    refine ensures_simple (.refl h₁ w₁) ?_
    rintro r w' ⟨rfl, hfresh⟩
    exact ⟨.same _, hfresh⟩
  have hi₁' {h' : List (Command × Answer)} {w' : World β} (hi : Since [] h₁ w₁ h' w') :
      Since [REMOTE_STAGED_BIN] h w h' w' := hi₁.trans (hi.mono (by simp))
  refine hmktemp.checked (fun _ _ hi => hstage (hi₁' hi))
    (fun _ _ _ hi he => ⟨he, .inl ((hi₁' hi).2.mono
      (List.Subset.trans stagedPaths_subset retainedPaths_subset))⟩) ?_
  intro r h₂ w₂ hi hfresh
  have hi₂ := hi₁' hi
  rw [hi₁.2.computer] at hfresh
  exact (ensures_replace hi₂.2.toTouches hi₂.2.computer hp hfresh).mono
    (fun _ _ ⟨hh, hpr, hk⟩ => ⟨hi₂.1.trans hh, hpr, hk,
      fun _ => hno.mono (hi.1.trans hh)⟩) fun _ _ _ _ hq => hq

/-! ### The runs -/

/-- The whole script as an update. -/
theorem ensures_deploy_update (hm : o.MODE = "update") :
    o.deploy.Ensures Effect
      (fun h' w' => o.Progress w w' ∧ KeepsFiles w w' ∧
        (w'.remote REMOTE_PREVIOUS_BIN ≠ w.remote REMOTE_PREVIOUS_BIN → NoBackup w h'))
      (o.UpdateEnds w) h w := by
  refine ensures_checked ?_ ?_ ?_
  · intro h' w' hi
    obtain rfl := hi.eq
    exact ⟨.staging (.refl _), fun _ _ => rfl, fun hne => absurd rfl hne⟩
  · intro status h' w' hi he
    obtain rfl := hi.eq
    exact ⟨he, .inl (.refl _)⟩
  · intro h' w' hi hp _
    obtain rfl := hi.eq
    rw [if_neg (by rw [hm]; decide)]
    exact (ensures_update hp).mono (fun _ _ hi => hi.2) fun _ _ _ _ hq => hq

/-- What an update keeps wherever it is cut. -/
structure Settings.UpdateKept (o : Settings) (w₀ : World β) (es : List (Command × Answer))
    (w : World β) : Prop where
  retained : w.remote REMOTE_BIN = w₀.remote REMOTE_BIN ∨
    w.remote REMOTE_PREVIOUS_BIN = w₀.remote REMOTE_BIN
  backup : w.remote REMOTE_PREVIOUS_BIN ≠ w₀.remote REMOTE_PREVIOUS_BIN →
    w₀.remote REMOTE_PREVIOUS_BIN = none ∨ ListingFailed REMOTE_BIN_DIR es
  published : w.remote MENU ≠ w₀.remote MENU →
    w.remote REMOTE_BIN = w₀.computer o.LOCAL_BIN ∧ o.Supported w₀ w
  retired : ∀ path ∈ retiredPaths, w.remote path ≠ w₀.remote path →
    w.remote MENU = w₀.computer (o.LOCAL_EXT ++ "/menu.json")
  remote : ∀ path ∉ updatePaths, w.remote path = w₀.remote path
  folders : w.folders = w₀.folders
  computer : KeepsFiles w₀ w

/-- A retired file is touched only once the new menu is there. -/
theorem Settings.Progress.retiring_or (hp : o.Progress w₀ w) : Touches publishedPaths w₀ w ∨
    w.remote MENU = w₀.computer (o.LOCAL_EXT ++ "/menu.json") := by
  have hretained : retainedPaths ⊆ publishedPaths :=
    List.Subset.trans retainedPaths_subset
      (List.Subset.trans preparedPaths_subset activatedPaths_subset)
  cases hp with
  | staging ht => exact .inl (ht.mono (List.Subset.trans stagedPaths_subset hretained))
  | retaining ht => exact .inl (ht.mono hretained)
  | preparing ht =>
      exact .inl (ht.mono (List.Subset.trans preparedPaths_subset activatedPaths_subset))
  | activating ht => exact .inl (ht.mono activatedPaths_subset)
  | publishing ht => exact .inl ht
  | retiring _ _ _ _ hm => exact .inr hm

/-- Whatever the progress, only the script's own paths are written. -/
theorem Settings.Progress.touches (hp : o.Progress w₀ w) : Touches updatePaths w₀ w := by
  have hpublished : publishedPaths ⊆ updatePaths := List.subset_append_right ..
  have hactivated : activatedPaths ⊆ updatePaths :=
    List.Subset.trans activatedPaths_subset hpublished
  have hprepared : preparedPaths ⊆ updatePaths := List.Subset.trans preparedPaths_subset hactivated
  have hretained : retainedPaths ⊆ updatePaths := List.Subset.trans retainedPaths_subset hprepared
  cases hp with
  | staging ht => exact ht.mono (List.Subset.trans stagedPaths_subset hretained)
  | retaining ht => exact ht.mono hretained
  | preparing ht => exact ht.mono hprepared
  | activating ht => exact ht.mono hactivated
  | publishing ht => exact ht.mono hpublished
  | retiring ht => exact ht

/-- **An update cut anywhere** loses neither the installed binary nor an earlier backup. -/
theorem update_kept (hm : o.MODE = "update")
    (hr : Run (Step Effect) (o.deploy, w₀) es (p, w)) : o.UpdateKept w₀ es w := by
  obtain ⟨hp, hk, hb⟩ := ((ensures_deploy_update hm).start hr).cut
  refine ⟨?_, hb, ?_, ?_, hp.touches.remote, hp.touches.folders, hk⟩
  · cases hp with
    | staging ht | retaining ht => exact .inl (ht.remote _ (by decide +kernel))
    | preparing _ hr | activating _ hr | publishing _ hr | retiring _ hr => exact .inr hr
  · intro hne
    cases hp with
    | staging ht | retaining ht | preparing ht | activating ht =>
        exact absurd (ht.remote _ (by decide +kernel)) hne
    | publishing _ _ hs hb | retiring _ _ hs hb => exact ⟨hb, hs⟩
  · intro path hpath hne
    have hout : ∀ path ∈ retiredPaths, path ∉ publishedPaths := by decide +kernel
    rcases hp.retiring_or with ht | hmenu
    · exact absurd (ht.remote path (hout path hpath)) hne
    · exact hmenu

/-- The test in which the activation is made to fail. -/
theorem update_kept_rollback :
    let run := Fake.run Fake.updating { Fake.prepared with FAKE_FAIL_NEW_ACTIVATION := true }
    Fake.updating.UpdateKept Fake.prepared.view run.1 run.2.2.view :=
  update_kept rfl (Fake.run_fake _ { Fake.prepared with FAKE_FAIL_NEW_ACTIVATION := true })

/-- **Where an update ends**, its status says what is on the Kindle. -/
theorem update_ends (hm : o.MODE = "update") {out : Except Nat Unit}
    (hr : Run (Step Effect) (o.deploy, w₀) es (ended out, w)) : o.UpdateEnds w₀ out es w :=
  (Ensures.ended_iff.mp ((ensures_deploy_update hm).start hr)).2

/-- The test in which nothing fails. -/
theorem update_ends_success :
    let run := Fake.run Fake.updating Fake.prepared
    run.2.1.result = some (.ok ()) ∧
      Fake.updating.UpdateEnds Fake.prepared.view (.ok ()) run.1 run.2.2.view := by
  have hok : (Fake.run Fake.updating Fake.prepared).2.1.result = some (.ok ()) := by
    decide +kernel
  have hr := Fake.run_fake Fake.updating.deploy Fake.prepared
  exact ⟨hok, update_ends rfl (eq_ended hok ▸ hr)⟩

end PaperPad.Deploy
