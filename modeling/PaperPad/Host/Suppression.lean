import PaperPad.Host.Authority

/-!
# Host — Suppression

`send_application` reports Unchanged when the rendering equals the comparison baseline.  The
baseline is the last frame fully sent, on whatever connection; a connection installed since has
not been given it.  So an Unchanged result tells the truth about the current connection exactly
when that connection has been given a frame at all (`unchanged_sound_iff`).
-/

namespace PaperPad.Host

open Protocol Transition

/-- The bytes of the last frame fully written to a connection. -/
def lastFrameOn (token : Nat) (wire : List Write) : Option (List UInt8) :=
  (((wholeWrites wire).filter fun w => w.token = token).getLast?).map (·.bytes)

/-- The current connection has been given at least one frame. -/
def Received (s : FrameSender) : Prop :=
  ∃ a, s.current.inner = some a ∧ ∃ w ∈ s.current.wire, w.token = a.token ∧ w.whole = true

/-- The last frame of the current connection is the rendering of the application. -/
def Shows [Platform] (s : FrameSender) (ui : ApplicationUi) (v : Viewport) : Prop :=
  ∃ a bytes g frameId, s.current.inner = some a ∧
    lastFrameOn a.token s.current.wire = some bytes ∧
    renderApplicationBounded ui v.1 v.2 = .ok g ∧ encodeV2Frame frameId (.mono1 g) = .ok bytes

theorem Shows.received [Platform] {s : FrameSender} {ui : ApplicationUi} {v : Viewport}
    (h : Shows s ui v) : Received s := by
  obtain ⟨a, bytes, -, -, ha, hl, -, -⟩ := h
  obtain ⟨w, hw, -⟩ := Option.map_eq_some_iff.mp hl
  obtain ⟨hw, ht⟩ := List.mem_filter.mp (List.mem_of_getLast? hw)
  obtain ⟨hw, hb⟩ := List.mem_filter.mp hw
  exact ⟨a, ha, w, hw, of_decide_eq_true ht, hb⟩

/-- A connection that was given a frame was given the last frame of all. -/
theorem Wired.lastFrameOn_eq {c : CurrentConnection} (h : Wired c) {a : ActiveConnection}
    (ha : c.inner = some a) (hw : ∃ w ∈ c.wire, w.token = a.token ∧ w.whole = true) :
    lastFrameOn a.token c.wire = ((wholeWrites c.wire).getLast?).map (·.bytes) := by
  obtain ⟨w, hw, ht, hb⟩ := hw
  have hmem : w ∈ wholeWrites c.wire := List.mem_filter.mpr ⟨hw, hb⟩
  rcases List.eq_nil_or_concat (wholeWrites c.wire) with hnil | ⟨l, u, hl⟩
  · rw [hnil] at hmem; cases hmem
  · rw [List.concat_eq_append] at hl
    have hu : u ∈ c.wire := (List.mem_filter.mp (hl ▸ by simp : u ∈ wholeWrites c.wire)).1
    have hsorted : (wholeWrites c.wire).Pairwise fun w w' => w.token ≤ w'.token :=
      h.sorted.filter _
    have hle : w.token ≤ u.token := by
      rw [hl] at hmem hsorted
      rcases List.mem_append.mp hmem with hm | hm
      · exact (List.pairwise_append.mp hsorted).2.2 w hm u (by simp)
      · rw [List.mem_singleton.mp hm]
    have hut : u.token = a.token := le_antisymm (h.wire_le u hu a ha) (ht ▸ hle)
    rw [lastFrameOn, hl, List.filter_append]
    simp [hut]

section Sound

variable [Platform]

/-- **Suppression is sound on a connection that has a picture.**  In every reachable state in
which an application send reports Unchanged, the last frame of the current connection is the
rendering if and only if that connection has been given a frame since it was installed. -/
theorem unchanged_sound_iff {es : List SenderEvent} {s t : FrameSender} {ui : ApplicationUi}
    {v : Viewport} {env : Env} (h : Run (Fn senderNext) {} es s)
    (k : s.sendApplication ui v env = (t, .ok .unchanged)) : Shows s ui v ↔ Received s := by
  refine ⟨Shows.received, fun ⟨a, ha, hw⟩ => ?_⟩
  have inv := senderInv h
  obtain ⟨-, -, -, -, g, hg, hlast⟩ := sendApplicationLocked_unchanged k
  obtain ⟨d, hd, -, hbytes⟩ := inv.last g hlast
  refine ⟨a, d.bytes, g, d.frameId, ha, ?_, hg, hbytes⟩
  rw [inv.wired.lastFrameOn_eq ha hw, inv.whole, List.getLast?_map, hd]
  rfl

end Sound

/-- A Mono1 device of one pixel gets its application frame. -/
def firstSession : List SenderEvent :=
  [.connection (.install .MONO1 (some (1, 1))), .hello {} (1, 1) .MONO1 {}]

theorem unchanged_sound_first :
    ∃ s t, exec (@senderNext .usize64) {} firstSession = some s ∧
      @FrameSender.sendApplication .usize64 s {} (1, 1) {} = (t, .ok .unchanged) ∧
      @Shows .usize64 s {} (1, 1) := by
  obtain ⟨s, hs⟩ : ∃ s, exec (@senderNext .usize64) {} firstSession = some s := ⟨_, rfl⟩
  obtain ⟨t, hk⟩ : ∃ t, @FrameSender.sendApplication .usize64 s {} (1, 1) {} =
      (t, .ok .unchanged) := by
    obtain rfl := Option.some.inj hs
    exact ⟨_, rfl⟩
  have hr : Received s := by
    obtain rfl := Option.some.inj hs
    exact ⟨_, rfl, _, .head _, rfl, rfl⟩
  exact ⟨s, t, hs, hk, (@unchanged_sound_iff .usize64 _ _ _ _ _ _ (run_of_exec hs) hk).mpr hr⟩

/-- After it, a Gray8-only device connects; its application frame is refused. -/
def secondSession : List SenderEvent :=
  firstSession ++ [.connection (.clear 0), .connection (.install .GRAY8 (some (1, 1))),
    .hello {} (1, 1) .GRAY8 {}]

/-- **Unchanged, of a picture the connection never got.** -/
theorem unchanged_without_picture :
    ¬ ∀ (es : List SenderEvent) (s t : FrameSender) (ui : ApplicationUi) (v : Viewport) (env : Env),
      Run (Fn (@senderNext .usize64)) {} es s →
      @FrameSender.sendApplication .usize64 s ui v env = (t, .ok .unchanged) →
      @Shows .usize64 s ui v := by
  intro hall
  obtain ⟨s, hs⟩ : ∃ s, exec (@senderNext .usize64) {} secondSession = some s := ⟨_, rfl⟩
  obtain ⟨t, hk⟩ : ∃ t, @FrameSender.sendApplication .usize64 s {} (1, 1) {} =
      (t, .ok .unchanged) := by
    obtain rfl := Option.some.inj hs
    exact ⟨_, rfl⟩
  obtain ⟨a, ha, w, hw, ht, -⟩ :=
    @Shows.received .usize64 _ _ _ (hall _ s t {} (1, 1) {} (run_of_exec hs) hk)
  have htokens : (∀ w ∈ s.current.wire, w.token = 0) ∧
      (s.current.inner.map ActiveConnection.token) = some 1 := by
    obtain rfl := Option.some.inj hs
    refine ⟨fun w hw => ?_, rfl⟩
    obtain rfl : w = _ := List.mem_singleton.mp hw
    rfl
  rw [ha] at htokens
  rw [htokens.1 w hw] at ht
  exact absurd (ht.trans (Option.some.inj htokens.2)) (by decide)

end PaperPad.Host
