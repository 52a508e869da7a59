import PaperPad.Device.Contact

/-!
# Device — Pairing

The remote events of `AppState` between two changes of the remote viewport.  A change announces a
new viewport, which resets the contact of the host; in between, the host pairs each Down with the
Up that follows it.

* `pairing`: the remote events alternate Press, Release, from a Press, as long as no contact is
  dropped (`DropsNone`).
* `pairing_fails`: a cancellation, or a new window size with the old viewport, drops a contact in
  silence, and the next press reaches the host as a second Down.
* `pairing_broken`: every dropped contact has a continuation with two Downs.
-/

namespace PaperPad.Device

open Transition

/-! ### Strict alternation -/

/-- The other half of a contact. -/
def PointerEventKind.other : PointerEventKind → PointerEventKind
  | .press => .release
  | .release => .press

/-- The kinds alternate strictly, from `k`. -/
def Alternates : PointerEventKind → List PointerEventKind → Prop
  | _, [] => True
  | k, k' :: ks => k' = k ∧ Alternates k.other ks

instance : ∀ (k : PointerEventKind) (ks : List PointerEventKind), Decidable (Alternates k ks)
  | _, [] => inferInstanceAs (Decidable True)
  | k, k' :: ks =>
      have := instDecidableAlternates k.other ks
      inferInstanceAs (Decidable (k' = k ∧ Alternates k.other ks))

/-- Whose turn it is after `ks`, which began with the turn of `k`. -/
def turn : PointerEventKind → List PointerEventKind → PointerEventKind
  | k, [] => k
  | k, _ :: ks => turn k.other ks

theorem turn_append (k : PointerEventKind) (ks : List PointerEventKind) (k' : PointerEventKind) :
    turn k (ks ++ [k']) = (turn k ks).other := by
  induction ks generalizing k with
  | nil => rfl
  | cons _ ks ih => exact ih k.other

theorem alternates_append {k k' : PointerEventKind} {ks : List PointerEventKind} :
    Alternates k (ks ++ [k']) ↔ Alternates k ks ∧ k' = turn k ks := by
  induction ks generalizing k with
  | nil => simp [Alternates, turn]
  | cons k'' ks ih => simp [Alternates, turn, ih, and_assoc]

/-! ### Between two changes of the viewport -/

/-- The kinds of the remote events of `es`, in order. -/
def remoteKinds (es : List AppEvent) : List PointerEventKind :=
  es.filterMap fun x => x.remote.map RemotePointerEvent.kind

theorem remoteKinds_append_none {es : List AppEvent} {x : AppEvent} (h : x.remote = none) :
    remoteKinds (es ++ [x]) = remoteKinds es := by
  simp [remoteKinds, h]

theorem remoteKinds_append_some {es : List AppEvent} {x : AppEvent} {r : RemotePointerEvent}
    (h : x.remote = some r) : remoteKinds (es ++ [x]) = remoteKinds es ++ [r.kind] := by
  simp [remoteKinds, h]

/-- The event leaves the remote viewport size of `s` as it is. -/
def AppEvent.KeepsViewport (s : AppState) : AppEvent → Prop
  | .geometry _ (.redraw size) => remoteViewportSize size = remoteViewportSize s.size
  | _ => True

/-- Where the host starts without a contact: at the first viewport, and after each change of it
in a run of `R`. -/
inductive Announced (R : AppState → AppEvent → AppState → Prop) : AppState → Prop where
  | start (size : UInt16 × UInt16) : Announced R (.new size)
  | change {size : UInt16 × UInt16} {es : List AppEvent} {s t : AppState} {x : AppEvent}
      (h : Run R (.new size) es s) (k : R s x t) (hv : ¬ x.KeepsViewport s) : Announced R t

/-- The steps of `R` between two changes of the viewport. -/
abbrev Between (R : AppState → AppEvent → AppState → Prop) :
    AppState → AppEvent → AppState → Prop :=
  restrict R fun s x => x.KeepsViewport s

/-- A cancellation, or a new window size with the same remote viewport, comes only while no remote
contact is active. -/
def DropsNone (s : AppState) (x : AppEvent) : Prop :=
  x.resets = true → x.KeepsViewport s → s.remoteContactActive = false

/-! ### One step and a run -/

/-- A step without a remote event keeps the contact, or is a reset; a remote event takes its
turn. -/
theorem AppStep.remote_cases {s t : AppState} {x : AppEvent} (k : AppStep s x t) :
    (x.remote = none ∧ t.remoteContactActive = s.remoteContactActive) ∨
      (x.remote = none ∧ x.resets = true ∧ t.remoteContactActive = false) ∨
      (∃ r, x.remote = some r ∧ r.kind = (if s.remoteContactActive then .release else .press) ∧
        t.remoteContactActive = !s.remoteContactActive) := by
  rcases k.cases with ⟨-, hn, rfl⟩ | ⟨hx, hn, -, -, ha, -⟩ | ⟨e, he, rfl, rfl⟩ | ⟨e, he, rfl, rfl⟩
  · exact .inl ⟨hn, rfl⟩
  · exact .inr (.inl ⟨hn, hx, ha⟩)
  · obtain ⟨-, -, hactive, hremote⟩ := handlePointer_press (s := s) he
    by_cases ha : s.remoteContactActive = true
    · -- a press during a contact is its release
      rw [if_pos ha] at hremote
      exact .inr (.inr ⟨_, hremote, by rw [if_pos ha], by rw [hactive, ha]; rfl⟩)
    · rw [if_neg ha] at hremote
      rw [Bool.not_eq_true] at ha
      cases hp : toRemote s.size e.point with
      | none => exact .inl ⟨by simp [AppEvent.remote, hremote, hp], by simp [hactive, ha, hp]⟩
      | some point =>
          refine .inr (.inr ⟨⟨.press, point⟩, ?_, by simp [ha], by simp [hactive, ha, hp]⟩)
          simp [AppEvent.remote, hremote, hp]
  · obtain ⟨-, -, hactive, hremote⟩ := handlePointer_release (s := s) he
    by_cases ha : s.remoteContactActive = true
    · rw [if_pos ha] at hremote
      exact .inr (.inr ⟨_, hremote, by rw [if_pos ha], by rw [hactive, ha]; rfl⟩)
    · rw [if_neg ha] at hremote
      rw [Bool.not_eq_true] at ha
      exact .inl ⟨hremote, by rw [hactive, ha]⟩

/-- The remote events alternate, and an active contact is one whose release is due. -/
structure InTurn (es : List AppEvent) (s : AppState) : Prop where
  alternates : Alternates .press (remoteKinds es)
  due : turn .press (remoteKinds es) = if s.remoteContactActive then .release else .press

theorem InTurn.start {s : AppState} (h : s.remoteContactActive = false) : InTurn [] s :=
  ⟨trivial, by simp [remoteKinds, turn, h]⟩

theorem InTurn.step {es : List AppEvent} {s t : AppState} {x : AppEvent} (h : InTurn es s)
    (k : AppStep s x t) (hk : x.KeepsViewport s) (hd : DropsNone s x) : InTurn (es ++ [x]) t := by
  rcases k.remote_cases with ⟨hn, ha⟩ | ⟨hn, hx, ha⟩ | ⟨r, hr, hkind, ha⟩
  · refine ⟨?_, ?_⟩ <;> rw [remoteKinds_append_none hn]
    · exact h.alternates
    · rw [h.due, ha]
  · -- a reset found no contact to drop
    refine ⟨?_, ?_⟩ <;> rw [remoteKinds_append_none hn]
    · exact h.alternates
    · rw [h.due, ha, hd hx hk]
  · refine ⟨?_, ?_⟩ <;> rw [remoteKinds_append_some hr]
    · exact alternates_append.mpr ⟨h.alternates, hkind.trans h.due.symm⟩
    · rw [turn_append, h.due, ha]
      cases s.remoteContactActive <;> rfl

/-- A change of the viewport ends the contact. -/
theorem announced_inactive {R : AppState → AppEvent → AppState → Prop} {s : AppState}
    (hR : ∀ {s x t}, R s x t → AppStep s x t) (h : Announced R s) :
    s.remoteContactActive = false := by
  cases h with
  | start => rfl
  | @change _ _ s t x _ k hv =>
      rcases (hR k).cases with ⟨hq, -, rfl⟩ | ⟨-, -, -, -, ha, -⟩ | ⟨e, -, rfl, -⟩ | ⟨e, -, rfl, -⟩
      · -- a quiet event is no new window size
        refine absurd ?_ hv
        have hres := hq.2.2
        cases x with
        | pointer => exact trivial
        | cancel => exact trivial
        | geometry reported update =>
            cases update with
            | redraw => cases hres
            | ignoredZero => exact trivial
            | unchanged => exact trivial
      · exact ha
      · exact absurd trivial hv
      · exact absurd trivial hv

/-- **Down/Up pairing.**  In every run that drops no contact, the remote events between two
changes of the remote viewport alternate, from a Press. -/
theorem pairing {s t : AppState} {es : List AppEvent}
    (h₀ : Announced (restrict AppStep DropsNone) s)
    (h : Run (Between (restrict AppStep DropsNone)) s es t) :
    Alternates .press (remoteKinds es) := by
  have hstart : InTurn [] s := .start (announced_inactive (fun k => k.2) h₀)
  exact (h.history hstart fun _ ih k => ih.step k.2.2 k.1 k.2.1).alternates

/-- A tap, an unmapping and a press. -/
theorem pairing_tap :
    let s₁ := ((AppState.new deviceSize).handlePointer (touch .press 100 100)).1
    let s₂ := (s₁.handlePointer (touch .release 100 100)).1
    let s₃ := s₂.cancelContact
    Alternates .press (remoteKinds
      [.pointer (touch .press 100 100)
          ((AppState.new deviceSize).handlePointer (touch .press 100 100)).2,
        .pointer (touch .release 100 100) (s₁.handlePointer (touch .release 100 100)).2,
        .cancel, .pointer (touch .press 100 100) (s₃.handlePointer (touch .press 100 100)).2]) := by
  intro s₁ s₂ s₃
  have h₁ := AppStep.pointer (.new deviceSize) (touch .press 100 100)
  have h₂ := AppStep.pointer s₁ (touch .release 100 100)
  have h₃ := AppStep.cancel s₂
  have h₄ := AppStep.pointer s₃ (touch .press 100 100)
  exact pairing (.start deviceSize)
    (.cons ⟨trivial, by simp [DropsNone], h₁⟩ (.cons ⟨trivial, by simp [DropsNone], h₂⟩
      (.cons ⟨trivial, fun _ _ => by decide, h₃⟩
        (.one ⟨trivial, by simp [DropsNone], h₄⟩))))

/-! ### A dropped contact -/

/-- A dropped contact: the window is unmapped while the finger is down, and pressed again. -/
theorem pairing_fails :
    ¬ ∀ s es t, Announced AppStep s → Run (Between AppStep) s es t →
      Alternates .press (remoteKinds es) := by
  intro hall
  let down := touch .press 100 100
  let s₁ := ((AppState.new deviceSize).handlePointer down).1
  have h₁ := AppStep.pointer (.new deviceSize) down
  have h₂ := AppStep.cancel s₁
  have h₃ := AppStep.pointer s₁.cancelContact down
  have hrun : Run (Between AppStep) (.new deviceSize)
      [.pointer down ((AppState.new deviceSize).handlePointer down).2, .cancel,
        .pointer down (s₁.cancelContact.handlePointer down).2]
      (s₁.cancelContact.handlePointer down).1 :=
    .cons ⟨trivial, h₁⟩ (.cons ⟨trivial, h₂⟩ (.one ⟨trivial, h₃⟩))
  exact absurd (hall _ _ _ (.start deviceSize) hrun) (by decide)

/-- The origin is a point of every viewport that is not empty. -/
theorem toRemote_origin {size : UInt16 × UInt16} (hw : 0 < (remoteViewportSize size).1)
    (hh : 0 < (remoteViewportSize size).2) : toRemote size ⟨0, 0⟩ = some ⟨0, 0⟩ := by
  simp only [toRemote]
  simp only [remoteViewportSize] at hw hh
  cases hl : ScreenLayout.new size.1 size.2 with
  | none => simp [hl] at hw
  | some l =>
      obtain ⟨hx, hy, -, -⟩ := ScreenLayout.new_spec hl
      rw [hl] at hw hh
      simp only [UInt16.lt_iff_toNat_lt, UInt16.toNat_zero] at hw hh
      simp only [Option.bind_some, ScreenLayout.physicalToRemote, ScreenRect.toRelativePoint, hx,
        hy]
      rw [if_neg (by simp; omega)]
      rfl

/-- An active contact began with the last remote event, in a viewport that is not empty. -/
structure Pressed (es : List AppEvent) (s : AppState) : Prop where
  last : ∃ ks, remoteKinds es = ks ++ [.press]
  width : 0 < (remoteViewportSize s.size).1
  height : 0 < (remoteViewportSize s.size).2

/-- A step that keeps the viewport, seen from the state after it. -/
theorem AppStep.viewport {s t : AppState} {x : AppEvent} (k : AppStep s x t)
    (hk : x.KeepsViewport s) : remoteViewportSize t.size = remoteViewportSize s.size := by
  cases k with
  | pointer e => rw [AppState.handlePointer_size]
  | cancel => rw [AppState.cancelContact_size]
  | geometry reported =>
      rcases s.updateGeometry_cases reported with h | h | ⟨s', hs', -, -, h⟩ <;> rw [h] at hk ⊢
      rw [hs']
      exact hk

theorem Pressed.step {es : List AppEvent} {s t : AppState} {x : AppEvent}
    (h : s.remoteContactActive = true → Pressed es s) (k : AppStep s x t)
    (hk : x.KeepsViewport s) (ht : t.remoteContactActive = true) : Pressed (es ++ [x]) t := by
  have hv := k.viewport hk
  rcases k.remote_cases with ⟨hn, ha⟩ | ⟨-, -, ha⟩ | ⟨r, hr, hkind, ha⟩
  · obtain ⟨hl, hw, hh⟩ := h (ha ▸ ht)
    exact ⟨by rwa [remoteKinds_append_none hn], hv ▸ hw, hv ▸ hh⟩
  · exact absurd (ha.symm.trans ht) (by decide)
  · -- the press that opened the contact lies in the viewport
    have hs : s.remoteContactActive = false := by simpa [ht] using ha
    rw [hs] at hkind
    cases x with
    | geometry => simp [AppEvent.remote] at hr
    | cancel => simp [AppEvent.remote] at hr
    | pointer e o =>
        obtain ⟨-, hx, hy⟩ := (remote_point k hr).1 hkind
        rw [← hv] at hx hy
        refine ⟨⟨remoteKinds es, ?_⟩, UInt16.lt_of_le_of_lt UInt16.zero_le hx,
          UInt16.lt_of_le_of_lt UInt16.zero_le hy⟩
        rw [remoteKinds_append_some hr, hkind]
        rfl

/-- **The condition is exact.**  A step that drops a contact can be followed by a press that
reaches the host as a second Down. -/
theorem pairing_broken {s₀ s t : AppState} {es : List AppEvent} {x : AppEvent}
    (h₀ : Announced AppStep s₀) (h : Run (Between AppStep) s₀ es s)
    (k : AppStep s x t) (hk : x.KeepsViewport s) (hd : ¬ DropsNone s x) :
    ∃ e o u, AppStep t (.pointer e o) u ∧
      ¬ Alternates .press (remoteKinds (es ++ [x] ++ [.pointer e o])) := by
  simp only [DropsNone, Classical.not_imp, Bool.not_eq_false] at hd
  obtain ⟨hx, -, hs⟩ := hd
  have hstart : s₀.remoteContactActive = true → Pressed [] s₀ := by
    intro ha
    rw [announced_inactive id h₀] at ha
    cases ha
  obtain ⟨⟨ks, hks⟩, hw, hh⟩ :=
    h.history (I := fun es s => s.remoteContactActive = true → Pressed es s) hstart
      (fun _ ih k => Pressed.step ih k.2 k.1) hs
  rw [← k.viewport hk] at hw hh
  have ⟨hn, ht⟩ : x.remote = none ∧ t.remoteContactActive = false := by
    rcases k.cases with ⟨hq, -, -⟩ | ⟨-, hn, -, -, ht, -⟩ | ⟨e, -, rfl, -⟩ | ⟨e, -, rfl, -⟩
    · exact absurd (hq.2.2.symm.trans hx) (by decide)
    · exact ⟨hn, ht⟩
    · cases hx
    · cases hx
  let e : PointerEvent := touch .press 0 0
  have he : e.IsPrimary .press := ⟨rfl, rfl⟩
  have hr : (AppEvent.pointer e (t.handlePointer e).2).remote = some ⟨.press, ⟨0, 0⟩⟩ := by
    have := (handlePointer_press (s := t) he).2.2.2
    rw [ht] at this
    simpa [AppEvent.remote, e, touch, toRemote_origin hw hh] using this
  refine ⟨e, _, _, .pointer t e, ?_⟩
  rw [remoteKinds_append_some hr, remoteKinds_append_none hn, hks, alternates_append,
    alternates_append, turn_append]
  rintro ⟨⟨-, h₁⟩, h₂⟩
  rw [← h₁] at h₂
  cases h₂

end PaperPad.Device
