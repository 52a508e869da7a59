import Mathlib.Data.List.Induction
import PaperPad.Host.ApplicationGrid
import PaperPad.Host.ApplicationInput

/-!
# Host — Activation

When a pointer activates a button, read off the calls made on the tracker.  The tracker keeps
one contact of three states; `Summarises` says what it knows of the calls so far: it is armed
with a button exactly when the last call was a Down inside it that opened the contact.

* `hit_eq_some_iff`: hit testing finds exactly the button around the point.
* `activation_iff`: a call activates a button exactly when it ends a tap on it.
-/

namespace PaperPad.Host

open Protocol

/-- A call on the tracker. -/
inductive InputCall where
  | setViewport (viewport : Option (UInt16 × UInt16))
  | handlePointer (ui : ApplicationUi) (pointer : V2Pointer)

namespace InputCall

/-- The input after a call. -/
def apply (i : ApplicationInput) : InputCall → ApplicationInput
  | .setViewport viewport => i.setViewport viewport
  | .handlePointer ui pointer => (i.handlePointer ui pointer).1

/-- The viewport a `setViewport` installs: none for no viewport, nor for an empty one. -/
def installed : InputCall → Option (Option (UInt16 × UInt16))
  | .setViewport viewport => some (viewport.filter fun v => v.1 > 0 && v.2 > 0)
  | .handlePointer _ _ => none

/-- A Down inside the button. -/
def DownIn (v : UInt16 × UInt16) (b : UInt8) : InputCall → Prop
  | .setViewport _ => False
  | .handlePointer _ p => p.phase = .down ∧ InButton v b p.x p.y

/-- An Up, or a new viewport. -/
def EndsContact : InputCall → Prop
  | .setViewport _ => True
  | .handlePointer _ p => p.phase = .up

end InputCall

/-- The tracker after the calls. -/
def tracked (calls : List InputCall) : ApplicationInput := calls.foldl InputCall.apply {}

/-- The viewport the last `setViewport` installed. -/
def activeViewport (calls : List InputCall) : Option (UInt16 × UInt16) :=
  (calls.filterMap InputCall.installed).getLast?.join

/-- The calls leave no contact open: there is none, or the last ended it. -/
def Rested (calls : List InputCall) : Prop := ∀ last ∈ calls.getLast?, last.EndsContact

/-- The last call is a Down inside the button, after calls that left no contact open. -/
def OpenedIn (v : UInt16 × UInt16) (b : UInt8) (calls : List InputCall) : Prop :=
  ∃ earlier down, calls = earlier ++ [down] ∧ down.DownIn v b ∧ Rested earlier

/-- The pointer, after the calls, ends a tap on the button. -/
def Tapped (calls : List InputCall) (p : V2Pointer) (b : UInt8) : Prop :=
  ∃ v, activeViewport calls = some v ∧ p.phase = .up ∧ InButton v b p.x p.y ∧ OpenedIn v b calls

/-! ### Hit testing is exact -/

section Hit

variable {ui : ApplicationUi} {v : UInt16 × UInt16} {p : V2Pointer} {b : UInt8}

theorem inButton_unique {c : UInt8} {x y : UInt16} (hb : InButton v b x y)
    (hc : InButton v c x y) : b = c := by
  obtain ⟨button, hm, rfl, hx⟩ := hb
  obtain ⟨button', hm', rfl, hx'⟩ := hc
  rw [buttonGrid_unique hm hm' hx hx']

theorem hit_eq_some_iff :
    ApplicationInput.hit ui v.1 v.2 p = some b ↔ InButton v b p.x p.y := by
  refine ⟨ApplicationInput.inButton_of_hit, fun h => ?_⟩
  have hit_of : ∃ c, ApplicationInput.hit ui v.1 v.2 p = some c := by
    obtain ⟨button, hm, -, hx⟩ := h
    obtain ⟨side, hs, -⟩ := mem_buttonGrid_iff.mp hm
    have hne : ¬ (v.1 = 0 ∨ v.2 = 0) := fun hz => by simp [gridCellSide, hz] at hs
    simp only [ApplicationInput.hit, ApplicationUi.layout, if_neg hne, Option.bind_some]
    have found : ((buttonGrid v.1 v.2).find? fun button =>
        button.bounds.contains p.x p.y).isSome := List.find?_isSome.mpr ⟨button, hm, hx⟩
    obtain ⟨first, hf⟩ := Option.isSome_iff_exists.mp found
    exact ⟨first.id, by rw [hf]; rfl⟩
  obtain ⟨c, hc⟩ := hit_of
  rw [hc, inButton_unique (ApplicationInput.inButton_of_hit hc) h]

/-- Every button of the grid is mapped to an action. -/
theorem actionForButton_of_inButton {x y : UInt16} (h : InButton v b x y) :
    ∃ action, actionForButton b = some action := by
  obtain ⟨button, hm, rfl, -⟩ := h
  rcases buttonGrid_ids v.1 v.2 with he | he
  · rw [he] at hm
    cases hm
  · have hid : button.id ∈ [1, 2, 3, 4, 5, 6, 7, 8, 9] := he ▸ List.mem_map_of_mem hm
    have all : ([1, 2, 3, 4, 5, 6, 7, 8, 9] : List UInt8).all fun c => (actionForButton c).isSome :=
      rfl
    exact Option.isSome_iff_exists.mp (List.all_eq_true.mp all _ hid)

end Hit

/-! ### What the tracker knows of the calls -/

/-- The tracker's state, read off the calls. -/
structure Summarises (calls : List InputCall) (i : ApplicationInput) : Prop where
  viewport : i.viewport = activeViewport calls
  idle : ∀ v, activeViewport calls = some v → (i.contact = .idle ↔ Rested calls)
  armed : ∀ v, activeViewport calls = some v → ∀ b, i.contact = .armed b ↔ OpenedIn v b calls

section Calls

variable {calls : List InputCall} {ui : ApplicationUi} {p : V2Pointer}

@[simp] theorem tracked_snoc (call : InputCall) :
    tracked (calls ++ [call]) = call.apply (tracked calls) := by
  rw [tracked, List.foldl_append]
  rfl

@[simp] theorem activeViewport_pointer :
    activeViewport (calls ++ [.handlePointer ui p]) = activeViewport calls := by
  simp [activeViewport, List.filterMap_append, InputCall.installed]

theorem rested_snoc {call : InputCall} : Rested (calls ++ [call]) ↔ call.EndsContact := by
  simp [Rested]

theorem openedIn_snoc {v : UInt16 × UInt16} {b : UInt8} {call : InputCall} :
    OpenedIn v b (calls ++ [call]) ↔ call.DownIn v b ∧ Rested calls := by
  constructor
  · rintro ⟨earlier, down, he, hd, hr⟩
    obtain ⟨rfl, hc⟩ := List.append_inj' he rfl
    obtain rfl : call = down := by simpa using hc
    exact ⟨hd, hr⟩
  · rintro ⟨hd, hr⟩
    exact ⟨calls, call, rfl, hd, hr⟩

theorem summarises_setViewport (i : ApplicationInput) (viewport : Option (UInt16 × UInt16)) :
    Summarises (calls ++ [.setViewport viewport]) (i.setViewport viewport) where
  viewport := by
    simp [ApplicationInput.setViewport, activeViewport, List.filterMap_append,
      InputCall.installed]
  idle v _ := by simp [rested_snoc, ApplicationInput.setViewport, InputCall.EndsContact]
  armed v _ b := by simp [openedIn_snoc, ApplicationInput.setViewport, InputCall.DownIn]

theorem summarises_down {i : ApplicationInput} (h : Summarises calls i) (hp : p.phase = .down) :
    Summarises (calls ++ [.handlePointer ui p]) (i.handlePointer ui p).1 where
  viewport := by rw [ApplicationInput.handlePointer_viewport, activeViewport_pointer, h.viewport]
  idle v hv := by
    rw [activeViewport_pointer] at hv
    rw [rested_snoc]
    simp only [ApplicationInput.handlePointer, h.viewport, hv, hp, InputCall.EndsContact]
    cases i.contact with
    | idle => cases ApplicationInput.hit ui v.1 v.2 p <;> simp
    | armed b => simp
    | cancelled => simp
  armed v hv b := by
    rw [activeViewport_pointer] at hv
    rw [openedIn_snoc, ← h.idle v hv]
    simp only [ApplicationInput.handlePointer, h.viewport, hv, hp, InputCall.DownIn]
    cases i.contact with
    | idle =>
        simp only [true_and, and_true, ← @hit_eq_some_iff ui]
        cases ApplicationInput.hit ui v.1 v.2 p <;> simp
    | armed b => simp
    | cancelled => simp

theorem summarises_up {i : ApplicationInput} (h : Summarises calls i) (hp : p.phase = .up) :
    Summarises (calls ++ [.handlePointer ui p]) (i.handlePointer ui p).1 where
  viewport := by rw [ApplicationInput.handlePointer_viewport, activeViewport_pointer, h.viewport]
  idle v _ := by
    rw [rested_snoc, (ApplicationInput.handlePointer_up hp).1]
    simp [InputCall.EndsContact, hp]
  armed v _ b := by
    rw [openedIn_snoc, (ApplicationInput.handlePointer_up hp).1]
    simp [InputCall.DownIn, hp]

/-- **The summary.**  After any calls, the tracker's contact is what the calls say of it. -/
theorem summarises_tracked (calls : List InputCall) : Summarises calls (tracked calls) := by
  induction calls using List.reverseRecOn with
  | nil =>
      refine ⟨rfl, fun v hv => ?_, fun v hv => ?_⟩
      · cases hv
      · cases hv
  | append_singleton calls call ih =>
      rw [tracked_snoc]
      cases call with
      | setViewport viewport => exact summarises_setViewport (tracked calls) viewport
      | handlePointer ui p =>
          cases hp : p.phase with
          | down => exact summarises_down ih hp
          | up => exact summarises_up ih hp

/-- What the tracker answers to a pointer. -/
theorem handlePointer_eq_some_iff {i : ApplicationInput} {a : ApplicationActivation} :
    (i.handlePointer ui p).2 = some a ↔
      ∃ v, i.viewport = some v ∧ p.phase = .up ∧ i.contact = .armed a.buttonId ∧
        InButton v a.buttonId p.x p.y ∧ actionForButton a.buttonId = some a.actionId := by
  cases hv : i.viewport with
  | none => simp [ApplicationInput.handlePointer, hv]
  | some v =>
      cases hp : p.phase with
      | down => simp [ApplicationInput.handlePointer_down hp]
      | up =>
          simp only [ApplicationInput.handlePointer, hv, hp, Option.some.injEq, exists_eq_left',
            true_and, ← @hit_eq_some_iff ui]
          cases i.contact with
          | idle => simp
          | cancelled => simp
          | armed b =>
              cases ApplicationInput.hit ui v.1 v.2 p with
              | none => simp
              | some c =>
                  simp only [ContactState.armed.injEq, Option.some.injEq]
                  constructor
                  · intro ha
                    split at ha
                    · next e =>
                        obtain ⟨action, haction, rfl⟩ := Option.map_eq_some_iff.mp ha
                        exact ⟨rfl, e.symm, haction⟩
                    · cases ha
                  · rintro ⟨rfl, rfl, haction⟩
                    rw [if_pos rfl, haction]
                    rfl

/-- **An activation is a tap.**  A pointer call activates a button exactly when it ends a tap on
it, with the action of that button; any other call activates nothing. -/
theorem activation_iff (calls : List InputCall) (ui : ApplicationUi) (p : V2Pointer) :
    (∀ b, (∃ action, ((tracked calls).handlePointer ui p).2 = some ⟨b, action⟩) ↔
        Tapped calls p b) ∧
      (∀ a, ((tracked calls).handlePointer ui p).2 = some a →
        actionForButton a.buttonId = some a.actionId) ∧
      (((tracked calls).handlePointer ui p).2 = none ↔ ∀ b, ¬ Tapped calls p b) := by
  have h := summarises_tracked calls
  have activated : ∀ b, (∃ action, ((tracked calls).handlePointer ui p).2 = some ⟨b, action⟩) ↔
      Tapped calls p b := by
    intro b
    constructor
    · rintro ⟨action, ha⟩
      obtain ⟨v, hv, hp, hc, hb, -⟩ := handlePointer_eq_some_iff.mp ha
      rw [h.viewport] at hv
      exact ⟨v, hv, hp, hb, (h.armed v hv b).mp hc⟩
    · rintro ⟨v, hv, hp, hb, ho⟩
      obtain ⟨action, haction⟩ := actionForButton_of_inButton hb
      exact ⟨action, handlePointer_eq_some_iff.mpr
        ⟨v, h.viewport ▸ hv, hp, (h.armed v hv b).mpr ho, hb, haction⟩⟩
  refine ⟨activated, fun a ha => ?_, ?_⟩
  · obtain ⟨-, -, -, -, -, haction⟩ := handlePointer_eq_some_iff.mp ha
    exact haction
  · rw [Option.eq_none_iff_forall_ne_some]
    constructor
    · intro hn b ht
      obtain ⟨action, ha⟩ := (activated b).mpr ht
      exact hn _ ha
    · intro hn a ha
      exact hn a.buttonId ((activated _).mp ⟨_, ha⟩)

end Calls

end PaperPad.Host
