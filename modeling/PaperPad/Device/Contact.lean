import PaperPad.Device.App
import PaperPad.Support.Transition
import Mathlib.Data.List.Induction

/-!
# Device — Contact

Runs of `AppState`: pointer events of any button at any point, geometry reports of any size and
cancellations, in any order.  An observer of the events and their outcomes alone decides whether
a contact is in progress (`inContact`) and whether a remote press is still unmatched
(`remoteOpen`); `Traced` ties the two to the state.

`exit_isolation` is the contract of the local Exit control.
-/

namespace PaperPad.Device

open Transition

/-! ### Events -/

/-- A call on the application state, with what it returned. -/
inductive AppEvent where
  | pointer (event : PointerEvent) (outcome : PointerOutcome)
  | geometry (reported : UInt16 × UInt16) (update : GeometryUpdate)
  | cancel
  deriving DecidableEq, Repr

/-- The steps of the state, each with the event and what came of it. -/
inductive AppStep : AppState → AppEvent → AppState → Prop where
  | pointer (s : AppState) (event : PointerEvent) :
      AppStep s (.pointer event (s.handlePointer event).2) (s.handlePointer event).1
  | geometry (s : AppState) (reported : UInt16 × UInt16) :
      AppStep s (.geometry reported (s.updateGeometry reported).2) (s.updateGeometry reported).1
  | cancel (s : AppState) : AppStep s .cancel s.cancelContact

namespace AppEvent

/-- A primary press, or a primary release. -/
def isPrimary (kind : PointerEventKind) : AppEvent → Bool
  | pointer e _ => decide (e.IsPrimary kind)
  | _ => false

/-- A geometry change or a cancellation. -/
def resets : AppEvent → Bool
  | geometry _ (.redraw _) => true
  | cancel => true
  | _ => false

/-- The message for the host. -/
def remote : AppEvent → Option RemotePointerEvent
  | pointer _ o => o.remote
  | _ => none

/-- Neither a primary event nor a reset. -/
def Quiet (x : AppEvent) : Prop :=
  x.isPrimary .press = false ∧ x.isPrimary .release = false ∧ x.resets = false

/-- What ends a contact. -/
def ends (x : AppEvent) : Bool := x.isPrimary .release || x.resets

@[simp] theorem resets_pointer (e : PointerEvent) (o : PointerOutcome) :
    (pointer e o).resets = false := rfl

end AppEvent

/-- Whether a contact is in progress: a primary press with no primary release, geometry change or
cancellation since. -/
def inContact (es : List AppEvent) : Bool :=
  es.foldl (fun b x => if x.isPrimary .press then true else b && !x.ends) false

/-- Whether the last remote event is a press with no geometry change or cancellation since. -/
def remoteOpen (es : List AppEvent) : Bool :=
  es.foldl
    (fun b x =>
      match x.remote with
      | some r => r.kind == .press
      | none => b && !x.resets)
    false

@[simp] theorem inContact_append (es : List AppEvent) (x : AppEvent) :
    inContact (es ++ [x]) = if x.isPrimary .press then true else inContact es && !x.ends := by
  simp [inContact]

@[simp] theorem remoteOpen_append (es : List AppEvent) (x : AppEvent) :
    remoteOpen (es ++ [x]) =
      match x.remote with
      | some r => r.kind == .press
      | none => remoteOpen es && !x.resets := by
  simp [remoteOpen]

/-! ### What one step does -/

/-- A step is a quiet event, which changes nothing, a reset, a primary press or a primary
release. -/
theorem AppStep.cases {s t : AppState} {x : AppEvent} (k : AppStep s x t) :
    (x.Quiet ∧ x.remote = none ∧ t = s) ∨
      (x.resets = true ∧ x.remote = none ∧ x.isPrimary .press = false ∧
        x.isPrimary .release = false ∧ t.remoteContactActive = false ∧
        t.systemUi.exitContact = .idle) ∨
      (∃ e, e.IsPrimary .press ∧ x = .pointer e (s.handlePointer e).2 ∧
        t = (s.handlePointer e).1) ∨
      (∃ e, e.IsPrimary .release ∧ x = .pointer e (s.handlePointer e).2 ∧
        t = (s.handlePointer e).1) := by
  cases k with
  | pointer e =>
      rcases e.primary_cases with hd | hp | hr
      · rw [handlePointer_auxiliary hd]
        have hn : ∀ kind, (AppEvent.pointer e ⟨none, none⟩).isPrimary kind = false :=
          fun _ => decide_eq_false fun h => hd h.1
        exact .inl ⟨⟨hn _, hn _, rfl⟩, rfl, rfl⟩
      · exact .inr (.inr (.inl ⟨e, hp, rfl, rfl⟩))
      · exact .inr (.inr (.inr ⟨e, hr, rfl, rfl⟩))
  | geometry reported =>
      rcases s.updateGeometry_cases reported with h | h | ⟨s', -, hc, hx, h⟩ <;> rw [h]
      · exact .inl ⟨⟨rfl, rfl, rfl⟩, rfl, rfl⟩
      · exact .inl ⟨⟨rfl, rfl, rfl⟩, rfl, rfl⟩
      · exact .inr (.inl ⟨rfl, rfl, rfl, rfl, hc, hx⟩)
  | cancel => exact .inr (.inl ⟨rfl, rfl, rfl, rfl, rfl, rfl⟩)

section Primary

variable {s : AppState} {e : PointerEvent} {o : PointerOutcome}

theorem isPrimary_of {kind : PointerEventKind} (h : e.IsPrimary kind) :
    (AppEvent.pointer e o).isPrimary kind = true :=
  decide_eq_true h

theorem not_isPrimary_of {kind kind' : PointerEventKind} (h : e.IsPrimary kind)
    (hk : kind ≠ kind') : (AppEvent.pointer e o).isPrimary kind' = false :=
  decide_eq_false fun h' => hk (h.2.symm.trans h'.2)

theorem ends_release (h : e.IsPrimary .release) : (AppEvent.pointer e o).ends = true := by
  simp [AppEvent.ends, isPrimary_of h]

end Primary

/-! ### The two contacts agree -/

/-- The last contact event of `es` is a primary press inside the Exit control that found no
contact in progress; nothing primary and no reset came after it. -/
def ArmedBy (size : UInt16 × UInt16) (es : List AppEvent) : Prop :=
  ∃ es₁ q oq es₂ s₁, es = es₁ ++ .pointer q oq :: es₂ ∧ Run AppStep (.new size) es₁ s₁ ∧
    q.IsPrimary .press ∧ InExit s₁.size q.point ∧ inContact es₁ = false ∧ ∀ x ∈ es₂, x.Quiet

/-- The events so far and the two contacts of the state. -/
structure Traced (size : UInt16 × UInt16) (es : List AppEvent) (s : AppState) : Prop where
  idle : s.systemUi.exitContact = .idle ↔ inContact es = false
  armed : s.systemUi.exitContact = .armed → ArmedBy size es
  /-- An active remote contact excludes an armed Exit. -/
  link : s.remoteContactActive = true → s.systemUi.exitContact = .cancelled

theorem Traced.inactive {size : UInt16 × UInt16} {es : List AppEvent} {s : AppState}
    (h : Traced size es s) (hc : inContact es = false) : s.remoteContactActive = false := by
  cases ha : s.remoteContactActive with
  | false => rfl
  | true => exact absurd ((h.idle.mpr hc).symm.trans (h.link ha)) (by decide)

theorem Traced.step {size : UInt16 × UInt16} {es : List AppEvent} {s t : AppState} {x : AppEvent}
    (hr : Run AppStep (.new size) es s) (h : Traced size es s) (k : AppStep s x t) :
    Traced size (es ++ [x]) t := by
  rcases k.cases with ⟨hq, -, rfl⟩ | ⟨hx, -, hp, -, ha, hi⟩ | ⟨e, he, rfl, rfl⟩ | ⟨e, he, rfl, rfl⟩
  · -- a quiet event
    obtain ⟨hq₁, hq₂, hq₃⟩ := hq
    refine ⟨?_, fun ha => ?_, h.link⟩
    · simp [hq₁, AppEvent.ends, hq₂, hq₃, h.idle]
    · obtain ⟨es₁, q, oq, es₂, s₁, rfl, hrun, hqp, hin, hc, hes₂⟩ := h.armed ha
      refine ⟨es₁, q, oq, es₂ ++ [x], s₁, by simp, hrun, hqp, hin, hc, ?_⟩
      intro y hy
      rcases List.mem_append.mp hy with hy | hy
      · exact hes₂ y hy
      · rw [List.mem_singleton.mp hy]; exact ⟨hq₁, hq₂, hq₃⟩
  · exact ⟨by simp [hp, AppEvent.ends, hx, hi], by simp [hi], by simp [ha]⟩
  · obtain ⟨-, hexit, hactive, -⟩ := handlePointer_press (s := s) he
    refine ⟨?_, fun harm => ?_, fun hact => ?_⟩
    · rw [hexit, inContact_append, if_pos (isPrimary_of he)]
      split_ifs <;> simp
    · -- armed only from idle, by a press inside the control
      rw [hexit] at harm
      by_cases hi : s.systemUi.exitContact = .idle
      · by_cases hb : ((exitBounds s.width s.height).any fun b => b.containsPhysical e.point) = true
        · have hin : InExit s.size e.point := any_containsPhysical_iff.mp hb
          exact ⟨es, e, _, [], s, rfl, hr, he, hin, h.idle.mp hi, by simp⟩
        · simp [hi, hb] at harm
      · simp [hi] at harm
    · -- a new remote contact lies in the viewport, so outside the control
      rw [hactive] at hact
      simp only [Bool.and_eq_true, Bool.not_eq_true'] at hact
      rw [hexit]
      by_cases hi : s.systemUi.exitContact = .idle
      · have hb :
            ((exitBounds s.width s.height).any fun b => b.containsPhysical e.point) ≠ true := by
          intro hb
          have hin : InExit s.size e.point := any_containsPhysical_iff.mp hb
          simp [toRemote_eq_none_of_exit hin] at hact
        simp [hi, hb]
      · simp [hi]
  · obtain ⟨-, hexit, hactive, -⟩ := handlePointer_release (s := s) he
    refine ⟨?_, by simp [hexit], by simp [hactive]⟩
    simp [hexit, not_isPrimary_of he (by decide : PointerEventKind.release ≠ .press),
      ends_release he]

theorem traced {size : UInt16 × UInt16} {es : List AppEvent} {s : AppState}
    (h : Run AppStep (.new size) es s) : Traced size es s :=
  h.history ⟨by simp [AppState.new, inContact], by simp [AppState.new], by simp [AppState.new]⟩
    fun hr ih k => ih.step hr k

/-- From a state with no remote contact, the contact is active exactly while the observer sees a
remote press unmatched. -/
theorem remoteOpen_eq {s₀ s : AppState} {es : List AppEvent} (h₀ : s₀.remoteContactActive = false)
    (h : Run AppStep s₀ es s) : remoteOpen es = s.remoteContactActive := by
  refine h.history (I := fun es s => remoteOpen es = s.remoteContactActive)
    (by simp [remoteOpen, h₀]) fun {es s x t} _ ih k => ?_
  rcases k.cases with ⟨hq, hn, rfl⟩ | ⟨hx, hn, -, -, ha, -⟩ | ⟨e, he, rfl, rfl⟩ | ⟨e, he, rfl, rfl⟩
  · simp [hn, hq.2.2, ih]
  · simp [hn, hx, ha]
  · obtain ⟨-, -, hactive, hremote⟩ := handlePointer_press (s := s) he
    simp only [remoteOpen_append, AppEvent.remote, hactive, hremote, ih,
      AppEvent.resets_pointer]
    cases s.remoteContactActive with
    | true => rfl
    | false => cases toRemote s.size e.point <;> rfl
  · obtain ⟨-, -, hactive, hremote⟩ := handlePointer_release (s := s) he
    simp only [remoteOpen_append, AppEvent.remote, hactive, hremote, ih,
      AppEvent.resets_pointer]
    cases s.remoteContactActive <;> rfl

/-- The last remote event of `es` is a press. -/
def EndsOpen (es : List AppEvent) : Prop :=
  ∃ es₁ x es₂ r, es = es₁ ++ x :: es₂ ∧ x.remote = some r ∧ r.kind = .press ∧
    ∀ y ∈ es₂, y.remote = none

theorem EndsOpen.append_iff {es : List AppEvent} {x : AppEvent} :
    EndsOpen (es ++ [x]) ↔
      (∃ r, x.remote = some r ∧ r.kind = .press) ∨ x.remote = none ∧ EndsOpen es := by
  constructor
  · rintro ⟨es₁, y, es₂, r, he, hy, hr, hes₂⟩
    rcases List.eq_nil_or_concat es₂ with rfl | ⟨gs, g, rfl⟩
    · obtain ⟨-, hx⟩ := List.append_inj' he rfl
      obtain rfl : x = y := by simpa using hx
      exact .inl ⟨r, hy, hr⟩
    · rw [List.concat_eq_append, ← List.cons_append, ← List.append_assoc] at he
      obtain ⟨rfl, hx⟩ := List.append_inj' he rfl
      obtain rfl : x = g := by simpa using hx
      exact .inr ⟨hes₂ x (by simp), es₁, y, gs, r, rfl, hy, hr, fun z hz => hes₂ z (by simp [hz])⟩
  · rintro (⟨r, hx, hr⟩ | ⟨hx, es₁, y, es₂, r, rfl, hy, hr, hes₂⟩)
    · exact ⟨es, x, [], r, rfl, hx, hr, by simp⟩
    · refine ⟨es₁, y, es₂ ++ [x], r, by simp, hy, hr, fun z hz => ?_⟩
      rcases List.mem_append.mp hz with hz | hz
      · exact hes₂ z hz
      · rw [List.mem_singleton.mp hz]; exact hx

theorem remoteOpen_iff {es : List AppEvent} (h : ∀ x ∈ es, x.resets = false) :
    remoteOpen es = true ↔ EndsOpen es := by
  induction es using List.reverseRecOn with
  | nil => simp [remoteOpen, EndsOpen]
  | append_singleton es x ih =>
      have hx : x.resets = false := h x (by simp)
      have ih := ih fun y hy => h y (by simp [hy])
      rw [remoteOpen_append, EndsOpen.append_iff, ← ih]
      cases hr : x.remote <;> simp [hx]

/-! ### The contract of the Exit control -/

section Outcome

variable {size : UInt16 × UInt16} {es : List AppEvent} {s t : AppState} {e : PointerEvent}
  {o : PointerOutcome}

/-- An activation needs an armed Exit, a remote release an active contact. -/
theorem activation_excludes_remote (h : Run AppStep (.new size) es s)
    (k : AppStep s (.pointer e o) t) : ¬ (o.activation.isSome = true ∧ o.remote.isSome = true) := by
  have tr := traced h
  cases k
  rcases e.primary_cases with hd | he | he
  · simp [handlePointer_auxiliary hd]
  · simp [(handlePointer_press (s := s) he).1]
  · obtain ⟨hact, -, -, hremote⟩ := handlePointer_release (s := s) he
    rw [hact, hremote]
    cases ha : s.remoteContactActive with
    | false => simp
    | true => simp [tr.link ha]

/-- Exit is activated by a release in the control of a contact that armed it. -/
theorem activation_armedBy (h : Run AppStep (.new size) es s) (k : AppStep s (.pointer e o) t)
    (ha : o.activation = some .exit) :
    e.IsPrimary .release ∧ InExit s.size e.point ∧ ArmedBy size es := by
  have tr := traced h
  cases k
  rcases e.primary_cases with hd | he | he
  · rw [handlePointer_auxiliary hd] at ha
    cases ha
  · rw [(handlePointer_press (s := s) he).1] at ha
    cases ha
  · rw [(handlePointer_release (s := s) he).1] at ha
    split at ha
    · next hc => exact ⟨he, any_containsPhysical_iff.mp hc.2, tr.armed hc.1⟩
    · cases ha

/-- A first press in the control is not forwarded. -/
theorem exit_press_silent (h : Run AppStep (.new size) es s) (k : AppStep s (.pointer e o) t)
    (he : e.IsPrimary .press) (hin : InExit s.size e.point) (hc : inContact es = false) :
    o.remote = none := by
  have tr := traced h
  cases k
  rw [(handlePointer_press (s := s) he).2.2.2, tr.inactive hc, toRemote_eq_none_of_exit hin]
  rfl

/-- The release that ends a contact begun in the control answers for the presses in between. -/
theorem exit_release_iff {s₁ : AppState} {q : PointerEvent} {oq : PointerOutcome}
    {es₂ : List AppEvent}
    (h₂ : Run AppStep s₁ (.pointer q oq :: es₂) s)
    (hq : q.IsPrimary .press) (hin : InExit s₁.size q.point) (hes₂ : ∀ x ∈ es₂, x.ends = false)
    (k : AppStep s (.pointer e o) t) (he : e.IsPrimary .release) :
    o.remote.isSome = true ↔ EndsOpen es₂ := by
  obtain ⟨t₁, hk, h₂⟩ := h₂.uncons
  -- the press in the control leaves no remote contact
  have ht₁ : t₁.remoteContactActive = false := by
    cases hk
    rw [(handlePointer_press hq).2.2.1, toRemote_eq_none_of_exit hin]
    simp
  have hres : ∀ x ∈ es₂, x.resets = false := by
    intro x hx
    exact (Bool.or_eq_false_iff.mp (hes₂ x hx)).2
  cases k
  rw [← remoteOpen_iff hres, remoteOpen_eq ht₁ h₂, (handlePointer_release (s := s) he).2.2.2]
  cases s.remoteContactActive <;> simp

/-- A remote press lies in the viewport, a release in it or at its exclusive corner. -/
theorem remote_point (k : AppStep s (.pointer e o) t) {r : RemotePointerEvent}
    (hr : o.remote = some r) :
    (r.kind = .press → e.IsPrimary .press ∧
      r.point.x < (remoteViewportSize s.size).1 ∧ r.point.y < (remoteViewportSize s.size).2) ∧
    (r.kind = .release →
      (r.point.x < (remoteViewportSize s.size).1 ∧ r.point.y < (remoteViewportSize s.size).2) ∨
        r.point = ⟨(remoteViewportSize s.size).1, (remoteViewportSize s.size).2⟩) := by
  cases k
  rcases e.primary_cases with hd | he | he
  · rw [handlePointer_auxiliary hd] at hr
    cases hr
  · rw [(handlePointer_press (s := s) he).2.2.2] at hr
    by_cases ha : s.remoteContactActive = true
    · -- a press during a contact cancels it at the corner
      rw [if_pos ha] at hr
      cases hr
      exact ⟨by simp, fun _ => .inr rfl⟩
    · rw [if_neg ha] at hr
      obtain ⟨p, hp, rfl⟩ := Option.map_eq_some_iff.mp hr
      exact ⟨fun _ => ⟨he, toRemote_inside hp⟩, by simp⟩
  · rw [(handlePointer_release (s := s) he).2.2.2] at hr
    by_cases ha : s.remoteContactActive = true
    · rw [if_pos ha] at hr
      cases hr
      refine ⟨by simp, fun _ => ?_⟩
      cases hp : toRemote s.size e.point with
      | none => exact .inr rfl
      | some p => exact .inl (toRemote_inside hp)
    · rw [if_neg ha] at hr
      cases hr

end Outcome

/-- **Local Exit isolation.**  In any run from any window size, of a pointer event and its outcome:
an activation excludes a remote event; Exit is activated only by a release in the control that
completes a press in the control; a first press in the control emits nothing, and the release
that ends its contact emits something only if a further press in the viewport left a remote press
open; and remote points lie in the viewport, a release also at its exclusive corner. -/
theorem exit_isolation {size : UInt16 × UInt16} {es : List AppEvent} {s t : AppState}
    {e : PointerEvent} {o : PointerOutcome} (h : Run AppStep (.new size) es s)
    (k : AppStep s (.pointer e o) t) :
    ¬ (o.activation.isSome = true ∧ o.remote.isSome = true) ∧
    (o.activation = some .exit →
      e.IsPrimary .release ∧ InExit s.size e.point ∧ ArmedBy size es) ∧
    (e.IsPrimary .press → InExit s.size e.point → inContact es = false → o.remote = none) ∧
    (∀ es₁ q oq es₂ s₁, Run AppStep (.new size) es₁ s₁ →
      Run AppStep s₁ (.pointer q oq :: es₂) s → q.IsPrimary .press → InExit s₁.size q.point →
      inContact es₁ = false → (∀ x ∈ es₂, x.ends = false) → e.IsPrimary .release →
      (o.remote.isSome = true ↔ EndsOpen es₂)) ∧
    (∀ r, o.remote = some r →
      (r.kind = .press → e.IsPrimary .press ∧
        r.point.x < (remoteViewportSize s.size).1 ∧ r.point.y < (remoteViewportSize s.size).2) ∧
      (r.kind = .release →
        (r.point.x < (remoteViewportSize s.size).1 ∧ r.point.y < (remoteViewportSize s.size).2) ∨
          r.point = ⟨(remoteViewportSize s.size).1, (remoteViewportSize s.size).2⟩)) := by
  refine ⟨activation_excludes_remote h k, activation_armedBy h k, exit_press_silent h k, ?_,
    fun r hr => remote_point k hr⟩
  intro es₁ q oq es₂ s₁ _ h₂ hq hin _ hes₂ he
  exact exit_release_iff h₂ hq hin hes₂ k he

instance (size : UInt16 × UInt16) (point : PhysicalPoint) : Decidable (InExit size point) :=
  decidable_of_iff _ any_containsPhysical_iff

theorem exit_isolation_tap :
    let s := (AppState.new deviceSize).handlePointer (touch .press 600 1650)
    let r := s.1.handlePointer (touch .release 600 1650)
    r.2 = ⟨some .exit, none⟩ ∧ InExit s.1.size ⟨600, 1650⟩ := by
  have h := Run.one (AppStep.pointer (.new deviceSize) (touch .press 600 1650))
  have k := AppStep.pointer ((AppState.new deviceSize).handlePointer (touch .press 600 1650)).1
    (touch .release 600 1650)
  exact ⟨by decide, ((exit_isolation h k).2.1 (by decide)).2.1⟩

/-- A press in the control, a press in the viewport, a release: the release that ends the contact
of the first press is forwarded, for the second. -/
theorem exit_contact_can_emit :
    ¬ ∀ (size : UInt16 × UInt16) (es₁ : List AppEvent) (q : PointerEvent) (oq : PointerOutcome)
      (es₂ : List AppEvent) (s₁ s t : AppState) (e : PointerEvent) (o : PointerOutcome),
      Run AppStep (.new size) es₁ s₁ → Run AppStep s₁ (.pointer q oq :: es₂) s →
      q.IsPrimary .press → InExit s₁.size q.point → inContact es₁ = false →
      (∀ x ∈ es₂, x.ends = false) → e.IsPrimary .release → AppStep s (.pointer e o) t →
      oq.remote = none ∧ o.remote = none := by
  intro hall
  have h₁ := AppStep.pointer (.new deviceSize) (touch .press 600 1650)
  have h₂ := AppStep.pointer ((AppState.new deviceSize).handlePointer (touch .press 600 1650)).1
    (touch .press 100 100)
  have h₃ := AppStep.pointer
    (((AppState.new deviceSize).handlePointer (touch .press 600 1650)).1.handlePointer
      (touch .press 100 100)).1 (touch .release 100 100)
  have := (hall deviceSize [] _ _ _ _ _ _ _ _ (.refl _) (.cons h₁ (.one h₂)) (by decide)
    (by decide) rfl (by decide) (by decide) h₃).2
  exact absurd this (by decide)

end PaperPad.Device
