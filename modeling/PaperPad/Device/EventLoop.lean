import PaperPad.Device.App
import PaperPad.Device.Display
import PaperPad.Device.Transport

/-!
# Device — EventLoop

The event loop of `src/x11/events.rs` over the application state, an X11 backend and the
transport.  The calls of a ConfigureNotify are a step each, and so is every step the transport
takes by itself or inside one of them.

`handed` is history: the frames handed to the backend, oldest first, each with the remote viewport
of the application state at the time.
-/

namespace PaperPad.Device

open Protocol

/-! ### State -/

/-- Where the loop is in the handling of a resize. -/
inductive LoopPc where
  | idle
  /-- `update_geometry` has returned a redraw. -/
  | resized (size : Viewport)
  /-- `send_viewport_changed` has been called. -/
  | sending (size : Viewport)
  deriving DecidableEq

/-- A frame handed to the display, with the viewport there was. -/
structure Handed where
  frame : ReceivedFrame
  viewport : Viewport
  deriving DecidableEq

/-- The loop, its display and its transport. -/
structure EventLoop (β : Type) where
  app : AppState
  display : X11DisplayBackend β
  transport : Transport
  pc : LoopPc := .idle
  handed : List Handed := []
  deriving DecidableEq

/-- What the loop does, or a step of the transport's threads. -/
inductive LoopEvent (β : Type) where
  /-- `poll_frame` and, with a frame, `display_remote_frame`. -/
  | poll (presentation : Presentation β)
  | configureNotify (reported : Viewport)
  | sendViewportChanged
  | setDimensions
  | button (event : PointerEvent)
  | unmapNotify
  | transport (event : TransportEvent)
  deriving DecidableEq

/-- The steps of the transport that the loop takes by a call. -/
def TransportEvent.IsCall : TransportEvent → Bool
  | .main (.storeViewport _) | .main (.lookupPointer _) | .main .pollFrame | .main .dropStop => true
  | _ => false

namespace EventLoop

variable {β : Type}

/-- `main` for a window of this size: the backend, the transport of `start` and the application
state, which has the size of the backend. -/
def start (size : Viewport) (adapter : Bool) (pixelFormats : V2PixelFormats) : EventLoop β where
  app := .new size
  display := { dimensions := size, adapter }
  transport := .start (remoteViewportSize size) pixelFormats

/-- Between two calls of the loop. -/
def Ready (s : EventLoop β) : Prop := s.pc = .idle ∧ s.transport.main = .idle

instance (s : EventLoop β) : Decidable s.Ready := inferInstanceAs (Decidable (_ ∧ _))

/-- A polled frame goes to the backend once it is found valid. -/
def handOver [Platform] (s : EventLoop β) (presentation : Presentation β) (f : ReceivedFrame) :
    EventLoop β :=
  match RemoteFrame.ofReceived f with
  | .error _ => s
  | .ok frame =>
      { s with
        display := s.display.displayRemoteFrame frame presentation
        handed := s.handed ++ [⟨f, remoteViewportSize s.app.size⟩] }

end EventLoop

/-! ### Steps -/

/-- One step of the loop, or of a thread. -/
def loopStep {β : Type} [Platform] (s : EventLoop β) : LoopEvent β → Option (EventLoop β)
  | .poll presentation =>
      if s.Ready then
        (mainStep s.transport .pollFrame).map fun transport =>
          match s.transport.frames.take.2 with
          | none => { s with transport }
          | some f => { s with transport }.handOver presentation f
      else none
  | .configureNotify reported =>
      if s.Ready then
        match s.app.updateGeometry reported with
        | (app, .redraw size) => some { s with app, pc := .resized size }
        | (app, .ignoredZero) | (app, .unchanged) => some { s with app }
      else none
  | .sendViewportChanged =>
      match s.pc with
      | .resized size =>
          (mainStep s.transport (.storeViewport (remoteViewportSize size))).map fun transport =>
            { s with transport, pc := .sending size }
      | _ => none
  | .setDimensions =>
      match s.pc, s.transport.main with
      | .sending size, .idle =>
          some { s with display := (s.display.setDimensions size).1, pc := .idle }
      | _, _ => none
  | .button event =>
      if s.Ready then
        let (app, outcome) := s.app.handlePointer event
        match outcome.remote with
        | none => some { s with app }
        | some pointer =>
            (mainStep s.transport (.lookupPointer (pointerMessage pointer))).map fun transport =>
              { s with app, transport }
      else none
  | .unmapNotify => if s.Ready then some { s with app := s.app.cancelContact } else none
  | .transport event =>
      if event.IsCall then none
      else (transportStep s.transport event).map fun transport => { s with transport }

section Move

variable {β : Type} [Platform]

/-- What each event can do, with what the loop finds. -/
inductive LoopMove (s : EventLoop β) : LoopEvent β → EventLoop β → Prop where
  | pollNone {presentation : Presentation β} {t : Transport} (hr : s.Ready)
      (hf : s.transport.frames.pending = none) (ht : mainStep s.transport .pollFrame = some t) :
      LoopMove s (.poll presentation) { s with transport := t }
  | poll {presentation : Presentation β} {t : Transport} {f : ReceivedFrame} (hr : s.Ready)
      (hf : s.transport.frames.pending = some f) (ht : mainStep s.transport .pollFrame = some t) :
      LoopMove s (.poll presentation) ({ s with transport := t }.handOver presentation f)
  | ignored {reported : Viewport} (hr : s.Ready) : LoopMove s (.configureNotify reported) s
  | resized {reported : Viewport} {app : AppState} (hr : s.Ready) (ha : app.size = reported)
      (hg : s.app.updateGeometry reported = (app, .redraw reported)) :
      LoopMove s (.configureNotify reported) { s with app, pc := .resized reported }
  | sendViewportChanged {size : Viewport} {t : Transport} (hpc : s.pc = .resized size)
      (ht : mainStep s.transport (.storeViewport (remoteViewportSize size)) = some t) :
      LoopMove s .sendViewportChanged { s with transport := t, pc := .sending size }
  | setDimensions {size : Viewport} (hpc : s.pc = .sending size)
      (hm : s.transport.main = .idle) :
      LoopMove s .setDimensions
        { s with display := (s.display.setDimensions size).1, pc := .idle }
  | button {event : PointerEvent} (hr : s.Ready)
      (ho : (s.app.handlePointer event).2.remote = none) :
      LoopMove s (.button event) { s with app := (s.app.handlePointer event).1 }
  | pointer {event : PointerEvent} {p : RemotePointerEvent} {t : Transport} (hr : s.Ready)
      (ho : (s.app.handlePointer event).2.remote = some p)
      (ht : mainStep s.transport (.lookupPointer (pointerMessage p)) = some t) :
      LoopMove s (.button event)
        { s with app := (s.app.handlePointer event).1, transport := t }
  | unmapNotify (hr : s.Ready) : LoopMove s .unmapNotify { s with app := s.app.cancelContact }
  | transport {e : TransportEvent} {t : Transport} (he : ¬ e.IsCall)
      (ht : transportStep s.transport e = some t) :
      LoopMove s (.transport e) { s with transport := t }

theorem loopStep_move {s u : EventLoop β} {e : LoopEvent β} (k : loopStep s e = some u) :
    LoopMove s e u := by
  cases e with
  | poll presentation =>
      simp only [loopStep] at k
      split at k
      case isFalse => cases k
      next hr =>
      obtain ⟨t, ht, rfl⟩ := Option.map_eq_some_iff.mp k
      cases hf : s.transport.frames.pending with
      | none =>
          simp only [FrameMailboxState.take, hf]
          exact .pollNone hr hf ht
      | some f =>
          simp only [FrameMailboxState.take, hf]
          exact .poll hr hf ht
  | configureNotify reported =>
      simp only [loopStep] at k
      split at k
      case isFalse => cases k
      next hr =>
      rcases s.app.updateGeometry_cases reported with hg | hg | ⟨a, ha, -, -, hg⟩ <;>
        rw [hg] at k <;> cases k
      · exact .ignored hr
      · exact .ignored hr
      · exact .resized hr ha hg
  | sendViewportChanged =>
      simp only [loopStep] at k
      split at k
      · next size hpc =>
          obtain ⟨t, ht, rfl⟩ := Option.map_eq_some_iff.mp k
          exact .sendViewportChanged hpc ht
      · cases k
  | setDimensions =>
      simp only [loopStep] at k
      split at k
      · next size hpc hm => cases k; exact .setDimensions hpc hm
      · cases k
  | button event =>
      simp only [loopStep] at k
      split at k
      case isFalse => cases k
      next hr =>
      split at k
      · next ho => cases k; exact .button hr ho
      · next p ho =>
          obtain ⟨t, ht, rfl⟩ := Option.map_eq_some_iff.mp k
          exact .pointer hr ho ht
  | unmapNotify =>
      simp only [loopStep] at k
      split at k
      · next hr => cases k; exact .unmapNotify hr
      · cases k
  | transport e =>
      simp only [loopStep] at k
      split at k
      · cases k
      · next he =>
          obtain ⟨t, ht, rfl⟩ := Option.map_eq_some_iff.mp k
          exact .transport he ht

end Move

end PaperPad.Device
