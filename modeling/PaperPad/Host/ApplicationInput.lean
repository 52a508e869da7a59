import PaperPad.Host.ApplicationUi
import PaperPad.Protocol.Payload

/-!
# Host — ApplicationInput

Contact tracking and hit testing on the host: `tools/paperspoon/src/application_input.rs`.  One
remote contact is tracked against the application layout of the active viewport.
-/

namespace PaperPad.Host

open Protocol

/-- A button was activated. -/
structure ApplicationActivation where
  buttonId : UInt8
  actionId : String
  deriving DecidableEq, Repr

/-- The contact, from its Down to its Up. -/
inductive ContactState where
  | idle
  | armed (buttonId : UInt8)
  | cancelled
  deriving DecidableEq, Repr

/-- The application taps are resolved against, and the contact. -/
structure ApplicationInput where
  viewport : Option (UInt16 × UInt16) := none
  contact : ContactState := .idle
  deriving DecidableEq, Repr

/-- What a button does. -/
def actionForButton (buttonId : UInt8) : Option String :=
  if buttonId = 1 then some "media.play_pause"
  else if buttonId = 2 then some "media.next"
  else if buttonId = 3 then some "media.previous"
  else if buttonId = 4 then some "terminal.new_window"
  else if buttonId = 5 then some "tmux.work"
  else if buttonId = 6 then some "zoom.toggle_mute"
  else if buttonId = 7 then some "stub.button_7"
  else if buttonId = 8 then some "stub.button_8"
  else if buttonId = 9 then some "stub.button_9"
  else none

namespace ApplicationInput

/-- Replace the active application viewport and cancel any partial contact. -/
def setViewport (_ : ApplicationInput) (viewport : Option (UInt16 × UInt16)) :
    ApplicationInput where
  viewport := viewport.filter fun v => v.1 > 0 && v.2 > 0
  contact := .idle

/-- The button of the layout at a point. -/
def hit (ui : ApplicationUi) (width height : UInt16) (pointer : V2Pointer) : Option UInt8 :=
  ((ui.layout width height).bind fun layout =>
    layout.buttons.find? fun button => button.bounds.contains pointer.x pointer.y).map (·.id)

/-- A Down arms the button it is on; an Up on the same button activates it. -/
def handlePointer (i : ApplicationInput) (ui : ApplicationUi) (pointer : V2Pointer) :
    ApplicationInput × Option ApplicationActivation :=
  match i.viewport with
  | none => ({ i with contact := .idle }, none)
  | some (width, height) =>
      let hit := hit ui width height pointer
      match pointer.phase with
      | .down =>
          let contact :=
            match i.contact with
            | .idle => (hit.map ContactState.armed).getD .cancelled
            | .armed _ | .cancelled => .cancelled
          ({ i with contact }, none)
      | .up =>
          let activated :=
            match i.contact, hit with
            | .armed armedId, some releasedId =>
                if armedId = releasedId then
                  (actionForButton armedId).map fun actionId => ⟨armedId, actionId⟩
                else none
            | _, _ => none
          ({ i with contact := .idle }, activated)

end ApplicationInput

/-! ### Hit testing -/

/-- The point lies in the bounds of the button. -/
def InButton (viewport : UInt16 × UInt16) (b : UInt8) (x y : UInt16) : Prop :=
  ∃ button ∈ buttonGrid viewport.1 viewport.2, button.id = b ∧ button.bounds.contains x y = true

instance (viewport : UInt16 × UInt16) (b : UInt8) (x y : UInt16) :
    Decidable (InButton viewport b x y) :=
  inferInstanceAs (Decidable (∃ button ∈ _, _))

namespace ApplicationInput

variable {ui : ApplicationUi} {i : ApplicationInput} {p : V2Pointer} {v : UInt16 × UInt16}

theorem inButton_of_hit {b : UInt8} (h : hit ui v.1 v.2 p = some b) : InButton v b p.x p.y := by
  simp only [hit, ApplicationUi.layout] at h
  split at h
  · simp at h
  · obtain ⟨button, hf, hb⟩ := Option.map_eq_some_iff.mp h
    have hf' : (buttonGrid v.1 v.2).find? (fun button => button.bounds.contains p.x p.y) =
      some button := hf
    have hc := List.find?_some hf'
    exact ⟨button, List.mem_of_find?_eq_some hf', hb, hc⟩

/-- Hit testing does not see the status text. -/
theorem hit_ui (ui' : ApplicationUi) : hit ui v.1 v.2 p = hit ui' v.1 v.2 p := by
  simp only [hit, ApplicationUi.layout]
  split <;> rfl

theorem handlePointer_ui (ui' : ApplicationUi) :
    i.handlePointer ui p = i.handlePointer ui' p := by
  simp only [handlePointer]
  cases i.viewport with
  | none => rfl
  | some v => simp only [hit_ui (v := v) ui']

@[simp] theorem handlePointer_viewport : (i.handlePointer ui p).1.viewport = i.viewport := by
  simp only [handlePointer]
  cases i.viewport <;> cases p.phase <;> rfl

/-- A Down activates nothing; it arms an idle contact inside a button and cancels any other. -/
theorem handlePointer_down (hp : p.phase = .down) :
    (i.handlePointer ui p).2 = none ∧
      ∀ b, (i.handlePointer ui p).1.contact = .armed b →
        ∃ v, i.viewport = some v ∧ i.contact = .idle ∧ InButton v b p.x p.y := by
  simp only [handlePointer]
  cases i.viewport with
  | none => simp
  | some v =>
      simp only [hp]
      refine ⟨trivial, fun b hb => ?_⟩
      cases hc : i.contact with
      | idle =>
          simp only [hc] at hb
          cases hh : hit ui v.1 v.2 p with
          | none => simp [hh] at hb
          | some b' =>
              obtain rfl : b' = b := by simpa [hh] using hb
              exact ⟨v, rfl, rfl, inButton_of_hit hh⟩
      | armed _ => simp [hc] at hb
      | cancelled => simp [hc] at hb

/-- An Up ends the contact, and activates only the armed button around it. -/
theorem handlePointer_up (hp : p.phase = .up) :
    (i.handlePointer ui p).1.contact = .idle ∧
      ∀ a, (i.handlePointer ui p).2 = some a →
        ∃ v, i.viewport = some v ∧ i.contact = .armed a.buttonId ∧
          InButton v a.buttonId p.x p.y := by
  simp only [handlePointer]
  cases i.viewport with
  | none => simp
  | some v =>
      simp only [hp]
      refine ⟨trivial, fun a ha => ?_⟩
      cases hc : i.contact with
      | idle => simp [hc] at ha
      | armed b =>
          cases hh : hit ui v.1 v.2 p with
          | none => simp [hc, hh] at ha
          | some b' =>
              simp only [hc, hh] at ha
              split at ha
              · next e =>
                  obtain ⟨action, -, rfl⟩ := Option.map_eq_some_iff.mp ha
                  exact ⟨v, rfl, rfl, inButton_of_hit (e ▸ hh)⟩
              · cases ha
      | cancelled => simp [hc] at ha

end ApplicationInput

end PaperPad.Host
