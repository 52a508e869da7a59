import PaperPad.Device.Screen
import PaperPad.Protocol.Payload

/-!
# Device — App

`SystemUi` of `src/ui/system.rs` and `AppState` of `src/app.rs`: the local Exit control, and the
pointer records forwarded to the host.  The two keep a contact each and see every event.
-/

namespace PaperPad.Device

/-! ### The local Exit control -/

/-- What the local strip asks for. -/
inductive SystemAction where
  | exit
  deriving DecidableEq, Repr

/-- The contact on the Exit control, from its press to its release. -/
inductive ExitContact where
  | idle
  | armed
  | cancelled
  deriving DecidableEq, Repr

/-- The state of the local strip. -/
structure SystemUi where
  exitContact : ExitContact := .idle
  deriving DecidableEq, Repr

namespace SystemUi

/-- A press in the control arms it, a release in it exits; any other cancels. -/
def handlePointer (ui : SystemUi) (event : PointerEvent) (width height : UInt16) :
    SystemUi × Option SystemAction :=
  if event.detail ≠ PRIMARY_BUTTON_DETAIL then (ui, none)
  else
    let inside := (exitBounds width height).any fun bounds => bounds.containsPhysical event.point
    match event.kind with
    | .press =>
        match ui.exitContact with
        | .idle => (⟨if inside then .armed else .cancelled⟩, none)
        | .armed | .cancelled => (⟨.cancelled⟩, none)
    | .release =>
        let activated := ui.exitContact == .armed && inside
        (⟨.idle⟩, if activated then some .exit else none)

/-- No contact is left. -/
def cancelContact (_ : SystemUi) : SystemUi := ⟨.idle⟩

end SystemUi

/-! ### The application state -/

/-- What a reported size means for the window. -/
inductive GeometryUpdate where
  | ignoredZero
  | unchanged
  | redraw (size : UInt16 × UInt16)
  deriving DecidableEq, Repr

/-- What a pointer event activates on the device. -/
inductive Activation where
  | exit
  deriving DecidableEq, Repr

/-- One normalized primary-pointer record for the host's viewport. -/
structure RemotePointerEvent where
  kind : PointerEventKind
  point : RemotePoint
  deriving DecidableEq, Repr

/-- The message `forward_remote_pointer` sends. -/
def pointerMessage (e : RemotePointerEvent) : Protocol.V2Pointer where
  phase :=
    match e.kind with
    | .press => .down
    | .release => .up
  x := e.point.x
  y := e.point.y

/-- What comes of a pointer event: an action of the device, a message for the host. -/
structure PointerOutcome where
  activation : Option Activation
  remote : Option RemotePointerEvent
  deriving DecidableEq, Repr

/-- The window and the two contacts, which are tracked independently. -/
structure AppState where
  width : UInt16
  height : UInt16
  remoteContactActive : Bool
  systemUi : SystemUi
  deriving DecidableEq, Repr

namespace AppState

/-- A window of this size, without a contact. -/
def new (size : UInt16 × UInt16) : AppState := ⟨size.1, size.2, false, {}⟩

/-- The size of the window. -/
def size (s : AppState) : UInt16 × UInt16 := (s.width, s.height)

/-- A zero size is ignored; a new one cancels both contacts. -/
def updateGeometry (s : AppState) (reported : UInt16 × UInt16) : AppState × GeometryUpdate :=
  if reported.1 = 0 ∨ reported.2 = 0 then (s, .ignoredZero)
  else if reported = s.size then (s, .unchanged)
  else
    (⟨reported.1, reported.2, false, s.systemUi.cancelContact⟩, .redraw reported)

/-- The remote half of a pointer event: the new contact flag and the record to forward. -/
def handleRemotePointer (active : Bool) (event : PointerEvent) (remotePoint : Option RemotePoint)
    (remoteSize : UInt16 × UInt16) : Bool × Option RemotePointerEvent :=
  if event.detail ≠ PRIMARY_BUTTON_DETAIL then (active, none)
  else
    let cancelPoint : RemotePoint := ⟨remoteSize.1, remoteSize.2⟩
    match event.kind, active with
    | .press, true => (false, some ⟨.release, cancelPoint⟩)
    | .press, false =>
        match remotePoint with
        | none => (false, none)
        | some point => (true, some ⟨.press, point⟩)
    | .release, true => (false, some ⟨.release, remotePoint.getD cancelPoint⟩)
    | .release, false => (false, none)

/-- The event goes to the strip, and to the remote viewport if it is in it. -/
def handlePointer (s : AppState) (event : PointerEvent) : AppState × PointerOutcome :=
  let (systemUi, systemAction) := s.systemUi.handlePointer event s.width s.height
  let (remotePoint, remoteSize) : Option RemotePoint × (UInt16 × UInt16) :=
    match ScreenLayout.new s.width s.height with
    | some layout =>
        (layout.physicalToRemote event.point,
          (layout.remoteViewport.width, layout.remoteViewport.height))
    | none => (none, (0, 0))
  let activation := systemAction.map fun | .exit => Activation.exit
  let (active, remote) :=
    handleRemotePointer s.remoteContactActive event remotePoint remoteSize
  ({ s with remoteContactActive := active, systemUi := systemUi }, ⟨activation, remote⟩)

/-- Both contacts are forgotten, and nothing is sent. -/
def cancelContact (s : AppState) : AppState :=
  { s with remoteContactActive := false, systemUi := s.systemUi.cancelContact }

@[simp] theorem cancelContact_size (s : AppState) : s.cancelContact.size = s.size := rfl

@[simp] theorem handlePointer_size (s : AppState) (event : PointerEvent) :
    (s.handlePointer event).1.size = s.size := rfl

/-- A redraw has the reported size and ends both contacts. -/
theorem updateGeometry_cases (s : AppState) (reported : UInt16 × UInt16) :
    s.updateGeometry reported = (s, .ignoredZero) ∨ s.updateGeometry reported = (s, .unchanged) ∨
      ∃ s', s'.size = reported ∧ s'.remoteContactActive = false ∧
        s'.systemUi.exitContact = .idle ∧ s.updateGeometry reported = (s', .redraw reported) := by
  simp only [updateGeometry]
  split
  · exact .inl rfl
  · split
    · exact .inr (.inl rfl)
    · exact .inr (.inr ⟨_, rfl, rfl, rfl, rfl⟩)

/-- The pointer handler, in terms of the remote point and the Exit control of the window. -/
theorem handlePointer_eq (s : AppState) (event : PointerEvent) :
    s.handlePointer event =
      ({ s with
          remoteContactActive := (handleRemotePointer s.remoteContactActive event
            (toRemote s.size event.point) (remoteViewportSize s.size)).1
          systemUi := (s.systemUi.handlePointer event s.width s.height).1 },
        ⟨(s.systemUi.handlePointer event s.width s.height).2.map fun | .exit => Activation.exit,
          (handleRemotePointer s.remoteContactActive event (toRemote s.size event.point)
            (remoteViewportSize s.size)).2⟩) := by
  simp only [handlePointer, toRemote, remoteViewportSize]
  cases hl : ScreenLayout.new s.width s.height <;> simp [size, hl]

end AppState

/-- A contact event of the primary button. -/
def PointerEvent.IsPrimary (e : PointerEvent) (kind : PointerEventKind) : Prop :=
  e.detail = PRIMARY_BUTTON_DETAIL ∧ e.kind = kind

instance (e : PointerEvent) (kind : PointerEventKind) : Decidable (e.IsPrimary kind) :=
  inferInstanceAs (Decidable (_ ∧ _))

theorem any_containsPhysical_iff {size : UInt16 × UInt16} {point : PhysicalPoint} :
    ((exitBounds size.1 size.2).any fun bounds => bounds.containsPhysical point) = true ↔
      InExit size point := by
  simp only [InExit]
  cases exitBounds size.1 size.2 <;> simp

/-- The window of the device. -/
def deviceSize : UInt16 × UInt16 := (1272, 1696)

/-- An event of the primary button. -/
def touch (kind : PointerEventKind) (x y : Int16) : PointerEvent :=
  ⟨kind, PRIMARY_BUTTON_DETAIL, ⟨x, y⟩⟩

/-! ### What one event does -/

section Cases

variable {s : AppState} {e : PointerEvent}

open AppState

/-- An auxiliary button changes nothing. -/
theorem handlePointer_auxiliary (h : e.detail ≠ PRIMARY_BUTTON_DETAIL) :
    s.handlePointer e = (s, ⟨none, none⟩) := by
  simp [handlePointer_eq, handleRemotePointer, SystemUi.handlePointer, h]

/-- A press activates nothing; the remote half takes it as a cancellation of its contact, or as a
new contact inside the viewport. -/
theorem handlePointer_press (h : e.IsPrimary .press) :
    ((s.handlePointer e).2.activation = none) ∧
      ((s.handlePointer e).1.systemUi.exitContact =
        if s.systemUi.exitContact = .idle then
          (if ((exitBounds s.width s.height).any fun b => b.containsPhysical e.point) then .armed
            else .cancelled)
        else .cancelled) ∧
      ((s.handlePointer e).1.remoteContactActive =
        (!s.remoteContactActive && (toRemote s.size e.point).isSome)) ∧
      ((s.handlePointer e).2.remote =
        if s.remoteContactActive then
          some ⟨.release, ⟨(remoteViewportSize s.size).1, (remoteViewportSize s.size).2⟩⟩
        else (toRemote s.size e.point).map fun point => ⟨.press, point⟩) := by
  obtain ⟨hd, hk⟩ := h
  rw [handlePointer_eq]
  simp only [handleRemotePointer, SystemUi.handlePointer]
  simp only [hd, hk, ne_eq, not_true_eq_false, if_false]
  cases s.remoteContactActive <;> cases hx : s.systemUi.exitContact <;>
    cases toRemote s.size e.point <;> simp

/-- A release ends both contacts; each half answers for its own. -/
theorem handlePointer_release (h : e.IsPrimary .release) :
    ((s.handlePointer e).2.activation =
        if s.systemUi.exitContact = .armed ∧
            ((exitBounds s.width s.height).any fun b => b.containsPhysical e.point) = true then
          some .exit
        else none) ∧
      ((s.handlePointer e).1.systemUi.exitContact = .idle) ∧
      ((s.handlePointer e).1.remoteContactActive = false) ∧
      ((s.handlePointer e).2.remote =
        if s.remoteContactActive then
          some ⟨.release, (toRemote s.size e.point).getD
            ⟨(remoteViewportSize s.size).1, (remoteViewportSize s.size).2⟩⟩
        else none) := by
  obtain ⟨hd, hk⟩ := h
  rw [handlePointer_eq]
  simp only [handleRemotePointer, SystemUi.handlePointer]
  simp only [hd, hk, ne_eq, not_true_eq_false, if_false]
  cases s.remoteContactActive <;> cases hx : s.systemUi.exitContact <;>
    cases hb : ((exitBounds s.width s.height).any fun b => b.containsPhysical e.point) <;> simp

/-- A pointer event is auxiliary, a primary press or a primary release. -/
theorem PointerEvent.primary_cases (e : PointerEvent) :
    e.detail ≠ PRIMARY_BUTTON_DETAIL ∨ e.IsPrimary .press ∨ e.IsPrimary .release := by
  by_cases hd : e.detail = PRIMARY_BUTTON_DETAIL
  · cases hk : e.kind with
    | press => exact .inr (.inl ⟨hd, hk⟩)
    | release => exact .inr (.inr ⟨hd, hk⟩)
  · exact .inl hd

end Cases

end PaperPad.Device
