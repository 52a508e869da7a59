import PaperPad.Deploy.Fake
import PaperPad.Deploy.Functions

/-!
# Deploy — Install

A new extension, cut after any of the commands that put it on the Kindle.  `install_kept`: nothing
is written where there is an extension, unless a listing has failed to show it; and the menu, by
which it is started, comes last.
-/

namespace PaperPad.Deploy

open Script Transition

variable {β : Type} {o : Settings} {w w' w₀ : World β} {h h' es : List (Command × Answer)}
  {p : Shell Unit}

/-- There was no extension, or the script could not see it. -/
def NoExtension (w : World β) (h : List (Command × Answer)) : Prop :=
  ¬ w.Entry "/extensions" "rust_x11_hello" ∨ ListingFailed "/extensions" h

theorem NoExtension.mono (hn : NoExtension w h) (hh : h <+: h') : NoExtension w h' :=
  hn.imp_right fun hl => hl.mono hh

/-- What an install writes before the menu. -/
def placedPaths : List String := REMOTE_BIN :: supportPaths

/-- What an install keeps wherever it is cut. -/
structure Settings.InstallKept (o : Settings) (w₀ : World β) (es : List (Command × Answer))
    (w : World β) : Prop where
  existing : w.remote ≠ w₀.remote ∨ w.folders ≠ w₀.folders → NoExtension w₀ es
  published : w.remote MENU ≠ w₀.remote MENU →
    w.remote REMOTE_BIN = w₀.computer o.LOCAL_BIN ∧ o.Supported w₀ w
  retired : ∀ path ∈ retiredPaths, w.remote path ≠ w₀.remote path →
    w.remote MENU = w₀.computer (o.LOCAL_EXT ++ "/menu.json")
  remote : ∀ path ∉ retiredPaths ++ MENU :: placedPaths, w.remote path = w₀.remote path
  folders : ∀ path ∉ [REMOTE_EXT, REMOTE_BIN_DIR], w.folders path = w₀.folders path
  computer : w.computer = w₀.computer

/-- How an install of `w₀` ends. -/
def Settings.InstallEnds (o : Settings) (w₀ : World β) (out : Except Nat Unit)
    (_ : List (Command × Answer)) (w : World β) : Prop :=
  match out with
  | .ok () =>
      o.Supported w₀ w ∧ w.remote REMOTE_BIN = w₀.computer o.LOCAL_BIN ∧
        w.remote MENU = w₀.computer (o.LOCAL_EXT ++ "/menu.json")
  | .error status => status ≠ 0

/-- A script that has done nothing keeps it. -/
theorem Settings.InstallKept.refl (w : World β) : o.InstallKept w h w where
  existing := by simp
  published := fun hne => absurd rfl hne
  retired := fun _ _ hne => absurd rfl hne
  remote := fun _ _ => rfl
  folders := fun _ _ => rfl
  computer := rfl

/-- The folders of the extension are made, and nothing else is changed. -/
structure Opened (w₀ w : World β) : Prop where
  remote : w.remote = w₀.remote
  folders : ∀ path ∉ [REMOTE_EXT, REMOTE_BIN_DIR], w.folders path = w₀.folders path
  computer : w.computer = w₀.computer

/-- Before the menu. -/
theorem Settings.InstallKept.placing {w₁ : World β} (hn : NoExtension w₀ h') (ho : Opened w₀ w₁)
    (ht : Touches placedPaths w₁ w) (hc : w.computer = w₁.computer) : o.InstallKept w₀ h' w where
  existing := fun _ => hn
  published := fun hne => absurd ((ht.remote _ (by decide +kernel)).trans
    (congrFun ho.remote _)) hne
  retired := fun path hpath hne => by
    have hout : ∀ path ∈ retiredPaths, path ∉ placedPaths := by decide +kernel
    exact absurd ((ht.remote _ (hout path hpath)).trans (congrFun ho.remote _)) hne
  remote := fun path hpath => (ht.remote _ fun hm => hpath (List.mem_append_right _
    (List.mem_cons_of_mem _ hm))).trans (congrFun ho.remote _)
  folders := fun path hpath => (congrFun ht.folders _).trans (ho.folders path hpath)
  computer := hc.trans ho.computer

/-- A folder of the extension. -/
theorem ensures_mkdir {w₀ : World β} {path : String} (ho : Opened w₀ w)
    (hpath : path ∈ [REMOTE_EXT, REMOTE_BIN_DIR]) :
    (simple (.mkdir path)).Ensures Effect (fun h' w' => h <+: h' ∧ Opened w₀ w')
      (Ends fun _ _ _ => True) h w := by
  refine ensures_simple ⟨List.prefix_rfl, ho⟩ ?_
  rintro r w' ⟨made, rfl⟩
  refine ⟨⟨List.prefix_append .., ho.remote, fun other hother => ?_, ho.computer⟩,
    fun _ => trivial⟩
  exact (Function.update_of_ne (by rintro rfl; exact hother hpath) _ _).trans
    (ho.folders other hother)

/-- The menu of an install whose binary is in place. -/
theorem ensures_installed {w₁ : World β} (hn : NoExtension w₀ h) (ho : Opened w₀ w₁)
    (ht : Touches placedPaths w₁ w) (hc : w.computer = w₁.computer)
    (hs : o.Supported w₀ w) (hb : w.remote REMOTE_BIN = w₀.computer o.LOCAL_BIN) :
    o.publish_menu.Ensures Effect (o.InstallKept w₀) (o.InstallEnds w₀) h w := by
  have hlater {ps : List String} {h' : List (Command × Answer)} {w' : World β}
      (hi : Since ps h w h' w') (hps : ∀ path ∈ placedPaths, path ∉ ps) :
      w'.remote REMOTE_BIN = w₀.computer o.LOCAL_BIN ∧ o.Supported w₀ w' :=
    ⟨(hi.2.remote _ (hps _ (by decide +kernel))).trans hb,
      hs.since hi fun path hpath => hps path (List.mem_cons_of_mem _ hpath)⟩
  have hpaths (path : String) (hpath : path ∉ placedPaths) : w.remote path = w₀.remote path :=
    (ht.remote path hpath).trans (congrFun ho.remote path)
  have hfolders {ps : List String} {h' : List (Command × Answer)} {w' : World β}
      (hi : Since ps h w h' w') (path : String) (hpath : path ∉ [REMOTE_EXT, REMOTE_BIN_DIR]) :
      w'.folders path = w₀.folders path :=
    ((congrFun hi.2.folders _).trans (congrFun ht.folders _)).trans (ho.folders path hpath)
  have hcomputer := hc.trans ho.computer
  refine ensures_publish_menu.mono ?_ ?_
  · rintro h' w' (hi | hi)
    · obtain ⟨hb', hs'⟩ := hlater hi (by decide +kernel)
      refine ⟨fun _ => hn.mono hi.1, fun _ => ⟨hb', hs'⟩, fun path hpath hne => ?_,
        fun path hpath => ?_, hfolders hi, hi.2.computer.trans hcomputer⟩
      · have hout : ∀ path ∈ retiredPaths, path ∉ [MENU] ∧ path ∉ placedPaths := by decide +kernel
        exact absurd ((hi.2.remote _ (hout path hpath).1).trans (hpaths _ (hout path hpath).2)) hne
      · rw [List.mem_append, List.mem_cons, not_or, not_or] at hpath
        exact (hi.2.remote _ (by simpa using hpath.2.1)).trans (hpaths _ hpath.2.2)
    · obtain ⟨hb', hs'⟩ := hlater hi.1 (by decide +kernel)
      have hmenu := hi.2.trans (congrFun hcomputer _)
      refine ⟨fun _ => hn.mono hi.1.1, fun _ => ⟨hb', hs'⟩, fun _ _ _ => hmenu,
        fun path hpath => ?_, hfolders hi.1, hi.1.2.computer.trans hcomputer⟩
      rw [List.mem_append, List.mem_cons, not_or, not_or] at hpath
      exact (hi.1.2.remote _ (by simpa using ⟨hpath.2.1, hpath.1⟩)).trans (hpaths _ hpath.2.2)
  · rintro (status | ⟨⟩) h' w' _ hq
    · exact hq
    · obtain ⟨hb', hs'⟩ := hlater (And.left hq) (by decide +kernel)
      exact ⟨hs', hb', (And.right hq).trans (congrFun hcomputer _)⟩

theorem Settings.InstallKept.mono (hk : o.InstallKept w₀ h w) (hh : h <+: h') :
    o.InstallKept w₀ h' w :=
  { hk with existing := fun hne => (hk.existing hne).mono hh }

/-- The install, of a package that is all there. -/
theorem ensures_install (hp : o.Packaged w) :
    o.install.Ensures Effect (o.InstallKept w) (o.InstallEnds w) h w := by
  have hrefl {h' : List (Command × Answer)} {w' : World β} (hi : Since [] h w h' w') :
      o.InstallKept w h' w' := by
    rw [hi.eq]
    exact .refl w
  have hls : (simple (.ls "/extensions" false)).Ensures Effect (Since [] h w)
      (Ends fun _ _ _ => True) h w :=
    ensures_simple (.refl h w) fun r w' he => by rw [he.1]; exact ⟨.same _, fun _ => trivial⟩
  refine hls.checked (fun _ _ hi => hrefl hi) (fun _ _ _ _ he => he) fun _ h₁ w₁ h1 _ => ?_
  refine (ensures_remote_name_exists _ (by decide +kernel)).returned
    (fun _ _ hi => hrefl (h1.trans hi)) fun found h₂ w₂ h2 hfound => ?_
  have h2 := h1.trans h2
  cases found with
  | true =>
      exact ensures_refuse _ Nat.one_ne_zero (fun _ _ hi => hrefl (h2.trans hi))
        fun _ _ _ _ he => he
  | false =>
      have hno : NoExtension w h₂ := by
        have hno := hfound rfl
        rwa [h1.eq] at hno
      obtain rfl := h2.eq
      have hopened {h' : List (Command × Answer)} {w' : World β} (hh : h₂ <+: h')
          (ho : Opened w₂ w') : o.InstallKept w₂ h' w' :=
        .placing (hno.mono hh) ho (.refl w') rfl
      refine (ensures_mkdir ⟨rfl, fun _ _ => rfl, rfl⟩ (by simp)).checked
        (fun _ _ hi => hopened hi.1 hi.2) (fun _ _ _ _ he => he) fun _ h₃ w₃ ⟨hh₃, ho₃⟩ _ => ?_
      refine (ensures_mkdir ho₃ (by simp)).checked
        (fun _ _ hi => hopened (hh₃.trans hi.1) hi.2) (fun _ _ _ _ he => he)
        fun _ h₄ w₄ ⟨hh₄, ho₄⟩ _ => ?_
      have hh₄ := hh₃.trans hh₄
      -- the binary and the support files
      have hplaced {h' : List (Command × Answer)} {w' : World β}
          (hi : Since placedPaths h₄ w₄ h' w') : o.InstallKept w₂ h' w' :=
        .placing (hno.mono (hh₄.trans hi.1)) ho₄ hi.2.toTouches hi.2.computer
      refine (ensures_put ..).checked (fun _ _ hi => hplaced (hi.mono (by simp [placedPaths])))
        (fun _ _ _ _ he => he) fun _ h₅ w₅ h5 hbin => ?_
      have h5' : Since placedPaths h₄ w₄ h₅ w₅ := h5.mono (by simp [placedPaths])
      refine ensures_upload_support_files.checked
        (fun _ _ hi => hplaced (h5'.trans (hi.mono (List.subset_cons_self ..))))
        (fun _ _ _ _ he => he) fun _ h₆ w₆ h6 hs => ?_
      have h6' := h5'.trans (h6.mono (List.subset_cons_self ..))
      refine ensures_installed (hno.mono (hh₄.trans h6'.1)) ho₄ h6'.2.toTouches h6'.2.computer ?_ ?_
      · have hc : w₅.computer = w₂.computer := h5.2.computer.trans ho₄.computer
        exact ⟨hs.run.trans (congrFun hc _), hs.probe.trans (congrFun hc _),
          hs.config.trans (congrFun hc _)⟩
      · rw [h6.2.remote _ (by decide +kernel), hbin.1, ho₄.computer]

/-- The whole script as an install. -/
theorem ensures_deploy_install (hm : o.MODE = "install") :
    o.deploy.Ensures Effect (o.InstallKept w) (o.InstallEnds w) h w := by
  refine ensures_checked ?_ ?_ ?_
  · intro h' w' hi
    rw [hi.eq]
    exact .refl w
  · intro status h' w' _ he
    exact he
  · intro h' w' hi hp _
    obtain rfl := hi.eq
    rw [if_pos hm]
    refine .bind ((ensures_install hp).mono (fun _ _ hi => hi) ?_)
    rintro (status | ⟨⟩) h₁ w₁ hkept hends
    · exact hends
    refine ensures_report.mono (fun h₂ w₂ hi => ?_) ?_
    · rw [hi.eq]
      exact hkept.mono hi.1
    · rintro (status | ⟨⟩) h₂ w₂ hi he
      · exact he
      · rw [hi.eq]
        exact hends

/-- **An install cut anywhere** has written nothing over an extension it could see, and the menu
only after what the menu starts; with status 0 all of the package is there. -/
theorem install_kept (hm : o.MODE = "install")
    (hr : Run (Step Effect) (o.deploy, w₀) es (p, w)) :
    o.InstallKept w₀ es w ∧ ∀ out, p = ended out → o.InstallEnds w₀ out es w := by
  have hp := (ensures_deploy_install hm).start hr
  refine ⟨hp.cut, ?_⟩
  rintro out rfl
  exact (Ensures.ended_iff.mp hp).2

/-- On a Kindle without the extension. -/
theorem install_kept_empty :
    let kindle := { Fake.prepared with remote := [], folders := ["/extensions"] }
    let run := Fake.run Fake.installing kindle
    run.2.1.result = some (.ok ()) ∧
      Fake.installing.InstallKept kindle.view run.1 run.2.2.view := by
  intro kindle run
  exact ⟨by decide +kernel, (install_kept rfl (Fake.run_fake _ kindle)).1⟩

end PaperPad.Deploy
