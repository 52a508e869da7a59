import PaperPad.Device.EventLoop
import PaperPad.Support.Fallible

/-!
# Device — Paperpad

The whole of `event_loop` of `src/x11/events.rs`, over any display: every X11 event, the
connection indicator, the redraws, and how the loop ends.  What the X11 server sends and what it or
the kernel makes of a call are arguments; the transport takes its steps between any two of the
loop's.

Three histories are kept, which no step reads: what `is_connected` returned (`readings`), for which
of these the indicator was drawn (`indicators`), and every call of `draw_system_ui` (`strips`).
-/

namespace PaperPad.Device

open Protocol Fallible Transition

/-! ### Displays -/

/-- Why a surface is drawn. -/
inductive RedrawCause where
  | surfaceDamage
  | geometryChange
  deriving DecidableEq

/-- What a backend tells of the frame it has cached. -/
structure CachedFrameMetadata where
  frameId : UInt64
  dimensions : Viewport
  pixelFormat : PixelFormat
  stride : Nat
  deriving DecidableEq

/-- The trait `DisplayBackend`; `α` is what the outside answers to a call. -/
class DisplayOperations (δ : Type) (α : outParam Type) where
  dimensions : δ → Viewport
  pixelFormats : δ → V2PixelFormats
  setDimensions : δ → Viewport → Fallible (Option CachedFrameMetadata) × δ
  displayRemoteFrame : δ → RemoteFrame → α → δ
  redrawCachedFrame : δ → RedrawCause → α → δ
  drawSystemUi : δ → Bool → α → Fallible Unit × δ

/-- A display has the size it was last given. -/
class LawfulDisplay (δ : Type) {α : outParam Type} [DisplayOperations δ α] : Prop where
  setDimensions : ∀ {d d' : δ} {size cached},
    DisplayOperations.setDimensions d size = (.ok cached, d') → DisplayOperations.dimensions d' = size
  displayRemoteFrame : ∀ (d : δ) frame answer,
    DisplayOperations.dimensions (DisplayOperations.displayRemoteFrame d frame answer) =
      DisplayOperations.dimensions d
  redrawCachedFrame : ∀ (d : δ) cause answer,
    DisplayOperations.dimensions (DisplayOperations.redrawCachedFrame d cause answer) =
      DisplayOperations.dimensions d
  drawSystemUi : ∀ (d : δ) connected answer,
    DisplayOperations.dimensions (DisplayOperations.drawSystemUi d connected answer).2 =
      DisplayOperations.dimensions d

open DisplayOperations

/-! ### X11 -/

/-- An event, with what the loop reads of it. -/
inductive XEvent where
  | expose (window : Nat) (count : UInt16)
  | configureNotify (window : Nat) (size : Viewport)
  | buttonPress (window : Nat) (detail : UInt8) (point : PhysicalPoint)
  | buttonRelease (window : Nat) (detail : UInt8) (point : PhysicalPoint)
  | motionNotify
  | mapNotify (window : Nat)
  | unmapNotify (window : Nat)
  | destroyNotify (window : Nat)
  | error (error : String)
  | unknown (bytes : List UInt8)
  | other
  deriving DecidableEq

/-- What becomes of a request that is sent and then checked. -/
inductive Checked where
  | unsent (error : String)
  | rejected (error : String)
  | accepted
  deriving DecidableEq

/-- `.context(sending)?.check().context(rejected)`. -/
def Checked.result (c : Checked) (sending rejected : String) : Fallible Unit :=
  match c with
  | .unsent error => context (.error (.error [error])) sending
  | .rejected error => context (.error (.error [error])) rejected
  | .accepted => .ok ()

/-! ### State -/

/-- How the loop ends without an error. -/
inductive EventLoopExit where
  | windowDestroyed
  deriving DecidableEq

/-- Where the process is. -/
inductive PaperpadPc where
  /-- The start of a turn. -/
  | top
  /-- The indicator is up to date. -/
  | polling
  /-- Before `poll_for_event`. -/
  | waiting
  /-- `update_geometry` has returned a redraw. -/
  | resized (size : Viewport)
  /-- `send_viewport_changed` has been called. -/
  | sending (size : Viewport)
  /-- The pointer is forwarded, and Exit is activated. -/
  | activated
  | exited (result : Fallible EventLoopExit)
  deriving DecidableEq

/-- A call of `draw_system_ui`: the window's size and the state it was for, and whether it
succeeded. -/
structure Strip where
  size : Viewport
  connected : Bool
  drawn : Bool
  deriving DecidableEq

/-- The process: its window, its display and its transport. -/
structure Paperpad (δ : Type) where
  window : Nat
  app : AppState
  display : δ
  transport : Transport
  displayedConnection : Option Bool := none
  /-- `connected` of this turn. -/
  connected : Bool := false
  pc : PaperpadPc := .top
  handed : List Handed := []
  readings : List Bool := []
  indicators : List Bool := []
  strips : List Strip := []

/-- A step of the event loop with what it was answered, or of the transport's threads. -/
inductive PaperpadEvent (α : Type) where
  /-- `is_connected`, and the indicator if that has changed. -/
  | isConnected (answer : α)
  /-- `poll_frame`, and `display_remote_frame` with a frame. -/
  | pollFrame (answer : α)
  /-- `poll_for_event`, and the event up to the first call of the transport. -/
  | pollForEvent (polled : Fallible (Option XEvent)) (answers : α × α)
  | sendViewportChanged
  /-- `set_dimensions` and the redraw. -/
  | setDimensions (answers : α × α)
  | destroyWindow (outcome : Checked)
  | transport (event : TransportEvent)

/-- Whether the indicator shows something else, and what it shows now. -/
def connectionIndicatorChanged (displayed : Option Bool) (connected : Bool) :
    Bool × Option Bool :=
  if displayed = some connected then (false, displayed) else (true, some connected)

namespace Paperpad

variable {δ α : Type} [DisplayOperations δ α]

/-- The loop on a display and the transport of `main`. -/
def start (window : Nat) (display : δ) : Paperpad δ where
  window
  app := .new (dimensions display)
  display
  transport := .start (remoteViewportSize (dimensions display)) (pixelFormats display)

/-- The process ends with this error. -/
def exit (s : Paperpad δ) (e : Failure) : Paperpad δ := { s with pc := .exited (.error e) }

/-- `draw_system_ui`. -/
def drawStrip (s : Paperpad δ) (answer : α) : Fallible Unit × Paperpad δ :=
  let (result, display) := drawSystemUi s.display s.connected answer
  (result,
    { s with
      display
      strips := s.strips ++ [⟨dimensions s.display, s.connected, result.isOk⟩] })

/-- The connection state, and the indicator if that has changed. -/
def indicate (s : Paperpad δ) (answer : α) : Fallible Unit × Paperpad δ :=
  let connected := s.transport.connection.isConnected
  let (changed, displayedConnection) :=
    connectionIndicatorChanged s.displayedConnection connected
  let s := { s with connected, displayedConnection, readings := s.readings ++ [connected] }
  if changed then
    let (result, s) := { s with indicators := s.indicators ++ [connected] }.drawStrip answer
    (context result "failed to draw connection state", s)
  else (.ok (), s)

/-- `draw_surface`. -/
def drawSurface (s : Paperpad δ) (cause : RedrawCause) (answers : α × α) :
    Fallible Unit × Paperpad δ :=
  match s.drawStrip answers.1 with
  | (.error e, s) => (.error e, s)
  | (.ok (), s) => (.ok (), { s with display := redrawCachedFrame s.display cause answers.2 })

/-- The end of a turn, unless it failed. -/
def finish (r : Fallible Unit × Paperpad δ) (message : String) : Paperpad δ :=
  match context r.1 message with
  | .ok () => { r.2 with pc := .top }
  | .error e => r.2.exit e

/-- A polled frame goes to the display once it is found valid. -/
def handOver [Platform] (s : Paperpad δ) (answer : α) (f : ReceivedFrame) : Paperpad δ :=
  match RemoteFrame.ofReceived f with
  | .error _ => s
  | .ok frame =>
      { s with
        display := displayRemoteFrame s.display frame answer
        handed := s.handed ++ [⟨f, remoteViewportSize s.app.size⟩] }

/-- A press or release in the window. -/
def onPointer (s : Paperpad δ) (event : PointerEvent) : Option (Paperpad δ) :=
  let (app, outcome) := s.app.handlePointer event
  let pc : PaperpadPc :=
    match outcome.activation with
    | some .exit => .activated
    | none => .top
  match outcome.remote with
  | none => some { s with app, pc }
  | some pointer =>
      (mainStep s.transport (.lookupPointer (pointerMessage pointer))).map fun transport =>
        { s with app, transport, pc }

/-- One event, up to the first call of the transport. -/
def onEvent (s : Paperpad δ) (answers : α × α) : XEvent → Option (Paperpad δ)
  | .expose window count =>
      if window = s.window ∧ count = 0 then
        some (finish (s.drawSurface .surfaceDamage answers) "failed to redraw final Expose batch")
      else some { s with pc := .top }
  | .configureNotify window reported =>
      if window = s.window then
        match s.app.updateGeometry reported with
        | (app, .redraw size) => some { s with app, pc := .resized size }
        | (app, .ignoredZero) | (app, .unchanged) => some { s with app, pc := .top }
      else some { s with pc := .top }
  | .buttonPress window detail point =>
      if window = s.window then s.onPointer ⟨.press, detail, point⟩
      else some { s with pc := .top }
  | .buttonRelease window detail point =>
      if window = s.window then s.onPointer ⟨.release, detail, point⟩
      else some { s with pc := .top }
  | .unmapNotify window =>
      if window = s.window then some { s with app := s.app.cancelContact, pc := .top }
      else some { s with pc := .top }
  | .destroyNotify window =>
      if window = s.window then some { s with pc := .exited (.ok .windowDestroyed) }
      else some { s with pc := .top }
  | .error error => some (s.exit (.error [s!"X11 server error: {error}"]))
  | .motionNotify | .mapNotify _ | .unknown _ | .other => some { s with pc := .top }

end Paperpad

/-! ### Steps -/

section Steps

variable {δ α : Type} [DisplayOperations δ α] [Platform]

open Paperpad

/-- The loop takes a step only outside the calls of the transport. -/
def paperpadStep (s : Paperpad δ) : PaperpadEvent α → Option (Paperpad δ)
  | .isConnected answer =>
      if s.pc = .top ∧ s.transport.main = .idle then
        match s.indicate answer with
        | (.ok (), s) => some { s with pc := .polling }
        | (.error e, s) => some (s.exit e)
      else none
  | .pollFrame answer =>
      if s.pc = .polling ∧ s.transport.main = .idle then
        (mainStep s.transport .pollFrame).map fun transport =>
          let waiting := { s with transport, pc := .waiting }
          match s.transport.frames.take.2 with
          | none => waiting
          | some f => waiting.handOver answer f
      else none
  | .pollForEvent polled answers =>
      if s.pc = .waiting ∧ s.transport.main = .idle then
        match context polled "X11 connection failed while waiting for an event" with
        | .error e => some (s.exit e)
        | .ok none => some { s with pc := .top }
        | .ok (some event) => s.onEvent answers event
      else none
  | .sendViewportChanged =>
      match s.pc with
      | .resized size =>
          (mainStep s.transport (.storeViewport (remoteViewportSize size))).map fun transport =>
            { s with transport, pc := .sending size }
      | _ => none
  | .setDimensions answers =>
      match s.pc, s.transport.main with
      | .sending size, .idle =>
          match DisplayOperations.setDimensions s.display size with
          | (.error e, display) => some ({ s with display }.exit e)
          | (.ok _, display) =>
              some (finish ({ s with display }.drawSurface .geometryChange answers)
                "failed to redraw after ConfigureNotify")
      | _, _ => none
  | .destroyWindow outcome =>
      match s.pc, s.transport.main with
      | .activated, .idle =>
          match outcome.result "failed to destroy window after exit"
              "X11 server rejected destroy-window" with
          | .error e => some (s.exit e)
          | .ok () => some { s with pc := .top }
      | _, _ => none
  | .transport event =>
      if event.IsCall then none
      else (transportStep s.transport event).map fun transport => { s with transport }

end Steps

/-! ### What a step does -/

section Move

variable {δ α : Type} [DisplayOperations δ α]

namespace Paperpad

/-- The strip was drawn, without a failure, and the cached frame put above it. -/
def redrawn (s : Paperpad δ) (d : δ) (cause : RedrawCause) (answer : α) : Paperpad δ :=
  { s with
    display := redrawCachedFrame d cause answer
    strips := s.strips ++ [⟨dimensions s.display, s.connected, true⟩]
    pc := .top }

theorem finish_drawSurface (s : Paperpad δ) (cause : RedrawCause) (answers : α × α)
    (message : String) :
    (∃ d, drawSystemUi s.display s.connected answers.1 = (.ok (), d) ∧
        finish (s.drawSurface cause answers) message = s.redrawn d cause answers.2) ∨
      ∃ e d l, finish (s.drawSurface cause answers) message =
        { s with display := d, strips := l, pc := .exited (.error e) } := by
  cases hd : drawSystemUi s.display s.connected answers.1 with
  | mk result d =>
      simp only [drawSurface, drawStrip, hd, finish]
      rcases result with e | ⟨⟩
      · refine .inr ?_
        rcases e with chain | _ <;> exact ⟨_, _, _, rfl⟩
      · exact .inl ⟨d, rfl, rfl⟩

end Paperpad

open Paperpad

/-- What each event can do, with what the loop finds. -/
inductive PaperpadMove (s : Paperpad δ) : PaperpadEvent α → Paperpad δ → Prop where
  | indicatorSame {answer : α} {connected : Bool} (hpc : s.pc = .top)
      (hm : s.transport.main = .idle) (hc : s.transport.connection.isConnected = connected)
      (hd : s.displayedConnection = some connected) :
      PaperpadMove s (.isConnected answer)
        { s with connected, readings := s.readings ++ [connected], pc := .polling }
  | indicatorDrawn {answer : α} {connected : Bool} {d : δ} (hpc : s.pc = .top)
      (hm : s.transport.main = .idle) (hc : s.transport.connection.isConnected = connected)
      (hd : s.displayedConnection ≠ some connected)
      (hs : drawSystemUi s.display connected answer = (.ok (), d)) :
      PaperpadMove s (.isConnected answer)
        { s with
          display := d
          connected
          displayedConnection := some connected
          readings := s.readings ++ [connected]
          indicators := s.indicators ++ [connected]
          strips := s.strips ++ [⟨dimensions s.display, connected, true⟩]
          pc := .polling }
  | pollNone {answer : α} {t : Transport} (hpc : s.pc = .polling) (hm : s.transport.main = .idle)
      (hf : s.transport.frames.pending = none) (ht : mainStep s.transport .pollFrame = some t) :
      PaperpadMove s (.pollFrame answer) { s with transport := t, pc := .waiting }
  | poll {answer : α} {t : Transport} {f : ReceivedFrame} (hpc : s.pc = .polling)
      (hm : s.transport.main = .idle) (hf : s.transport.frames.pending = some f)
      (ht : mainStep s.transport .pollFrame = some t) :
      PaperpadMove s (.pollFrame answer)
        { s with
          display := displayRemoteFrame s.display (.ofFrame f.frameId f.frame) answer
          transport := t
          handed := s.handed ++ [⟨f, remoteViewportSize s.app.size⟩]
          pc := .waiting }
  | quiet {polled : Fallible (Option XEvent)} {answers : α × α} (hpc : s.pc = .waiting)
      (hm : s.transport.main = .idle) :
      PaperpadMove s (.pollForEvent polled answers) { s with pc := .top }
  | expose {polled : Fallible (Option XEvent)} {answers : α × α} {d : δ} (hpc : s.pc = .waiting)
      (hs : drawSystemUi s.display s.connected answers.1 = (.ok (), d)) :
      PaperpadMove s (.pollForEvent polled answers) (s.redrawn d .surfaceDamage answers.2)
  | resized {polled : Fallible (Option XEvent)} {answers : α × α} {reported : Viewport}
      {app : AppState} (hpc : s.pc = .waiting) (hm : s.transport.main = .idle)
      (ha : app.size = reported) (hg : s.app.updateGeometry reported = (app, .redraw reported)) :
      PaperpadMove s (.pollForEvent polled answers) { s with app, pc := .resized reported }
  | button {polled : Fallible (Option XEvent)} {answers : α × α} {event : PointerEvent}
      {pc : PaperpadPc} (hpc : s.pc = .waiting) (hm : s.transport.main = .idle)
      (hn : pc = .top ∨ pc = .activated) (ho : (s.app.handlePointer event).2.remote = none) :
      PaperpadMove s (.pollForEvent polled answers)
        { s with app := (s.app.handlePointer event).1, pc }
  | pointer {polled : Fallible (Option XEvent)} {answers : α × α} {event : PointerEvent}
      {pc : PaperpadPc} {p : RemotePointerEvent} {t : Transport} (hpc : s.pc = .waiting)
      (hm : s.transport.main = .idle) (hn : pc = .top ∨ pc = .activated)
      (ho : (s.app.handlePointer event).2.remote = some p)
      (ht : mainStep s.transport (.lookupPointer (pointerMessage p)) = some t) :
      PaperpadMove s (.pollForEvent polled answers)
        { s with app := (s.app.handlePointer event).1, transport := t, pc }
  | unmapNotify {polled : Fallible (Option XEvent)} {answers : α × α} (hpc : s.pc = .waiting)
      (hm : s.transport.main = .idle) :
      PaperpadMove s (.pollForEvent polled answers)
        { s with app := s.app.cancelContact, pc := .top }
  | destroyNotify {answers : α × α} (hpc : s.pc = .waiting) :
      PaperpadMove s (.pollForEvent (.ok (some (.destroyNotify s.window))) answers)
        { s with pc := .exited (.ok .windowDestroyed) }
  | sendViewportChanged {size : Viewport} {t : Transport} (hpc : s.pc = .resized size)
      (ht : mainStep s.transport (.storeViewport (remoteViewportSize size)) = some t) :
      PaperpadMove s .sendViewportChanged { s with transport := t, pc := .sending size }
  | setDimensions {answers : α × α} {size : Viewport} {cached : Option CachedFrameMetadata}
      {d d' : δ} (hpc : s.pc = .sending size) (hm : s.transport.main = .idle)
      (hd : DisplayOperations.setDimensions s.display size = (.ok cached, d))
      (hs : drawSystemUi d s.connected answers.1 = (.ok (), d')) :
      PaperpadMove s (.setDimensions answers)
        ({ s with display := d }.redrawn d' .geometryChange answers.2)
  | destroyWindow (hpc : s.pc = .activated) (hm : s.transport.main = .idle) :
      PaperpadMove s (.destroyWindow .accepted) { s with pc := .top }
  /-- The loop ends with an error. -/
  | failed {event : PaperpadEvent α} {u : Paperpad δ} {e : Failure}
      (hpc : ∀ size, s.pc = .sending size → s.transport.main = .idle)
      (hr : ∀ size, s.pc ≠ .resized size) (hu : u.pc = .exited (.error e))
      (ha : u.app = s.app) (ht : u.transport = s.transport) (hh : u.handed = s.handed) :
      PaperpadMove s event u
  | transport {e : TransportEvent} {t : Transport} (he : ¬ e.IsCall)
      (ht : transportStep s.transport e = some t) :
      PaperpadMove s (.transport e) { s with transport := t }

theorem onPointer_move {s u : Paperpad δ} {polled : Fallible (Option XEvent)} {answers : α × α}
    {event : PointerEvent} (hpc : s.pc = .waiting) (hm : s.transport.main = .idle)
    (k : s.onPointer event = some u) : PaperpadMove s (.pollForEvent polled answers) u := by
  have hn : ∀ activation : Option Activation,
      (match activation with | some .exit => PaperpadPc.activated | none => .top) = .top ∨
        (match activation with | some .exit => PaperpadPc.activated | none => .top) =
          .activated := by
    rintro (_ | ⟨⟩)
    · exact .inl rfl
    · exact .inr rfl
  simp only [onPointer] at k
  split at k
  · next ho =>
      cases k
      exact .button hpc hm (hn _) ho
  · next p ho =>
      obtain ⟨t, ht, rfl⟩ := Option.map_eq_some_iff.mp k
      exact .pointer hpc hm (hn _) ho ht

theorem onEvent_move {s u : Paperpad δ} {answers : α × α} {event : XEvent}
    (hpc : s.pc = .waiting) (hm : s.transport.main = .idle) (k : s.onEvent answers event = some u) :
    PaperpadMove s (.pollForEvent (.ok (some event)) answers) u := by
  have hquiet : ∀ {u}, some { s with pc := .top } = some u →
      PaperpadMove s (.pollForEvent (.ok (some event)) answers) u := by
    rintro u ⟨⟩
    exact .quiet hpc hm
  have hfailed : ∀ {u : Paperpad δ} {e : Failure}, u.pc = .exited (.error e) → u.app = s.app →
      u.transport = s.transport → u.handed = s.handed →
      PaperpadMove s (.pollForEvent (.ok (some event)) answers) u :=
    .failed (fun _ h => by rw [hpc] at h; cases h) (fun _ h => by rw [hpc] at h; cases h)
  cases event with
  | expose window count =>
      simp only [onEvent] at k
      split at k
      · cases k
        rcases s.finish_drawSurface .surfaceDamage answers "failed to redraw final Expose batch"
          with ⟨d, hd, he⟩ | ⟨e, d, l, he⟩
        · rw [he]
          exact .expose hpc hd
        · rw [he]
          exact hfailed rfl rfl rfl rfl
      · exact hquiet k
  | configureNotify window reported =>
      simp only [onEvent] at k
      split at k
      · rcases s.app.updateGeometry_cases reported with hg | hg | ⟨a, ha, -, -, hg⟩ <;>
          rw [hg] at k <;> cases k
        · exact .quiet hpc hm
        · exact .quiet hpc hm
        · exact .resized hpc hm ha hg
      · exact hquiet k
  | buttonPress window detail point =>
      simp only [onEvent] at k
      split at k
      · exact onPointer_move hpc hm k
      · exact hquiet k
  | buttonRelease window detail point =>
      simp only [onEvent] at k
      split at k
      · exact onPointer_move hpc hm k
      · exact hquiet k
  | unmapNotify window =>
      simp only [onEvent] at k
      split at k
      · cases k
        exact .unmapNotify hpc hm
      · exact hquiet k
  | destroyNotify window =>
      simp only [onEvent] at k
      split at k
      · next hw =>
          cases k
          rw [hw]
          exact .destroyNotify hpc
      · exact hquiet k
  | error error =>
      cases k
      exact hfailed rfl rfl rfl rfl
  | motionNotify | mapNotify | unknown | other => exact hquiet k

theorem paperpadStep_move [Platform] {s u : Paperpad δ} {e : PaperpadEvent α}
    (k : paperpadStep s e = some u) : PaperpadMove s e u := by
  cases e with
  | isConnected answer =>
      simp only [paperpadStep] at k
      split at k
      case isFalse => cases k
      next hg =>
      obtain ⟨hpc, hm⟩ := hg
      have hfailed : ∀ {u : Paperpad δ} {e : Failure}, u.pc = .exited (.error e) →
          u.app = s.app → u.transport = s.transport → u.handed = s.handed →
          PaperpadMove s (.isConnected answer) u :=
        .failed (fun _ h => by rw [hpc] at h; cases h) (fun _ h => by rw [hpc] at h; cases h)
      by_cases hd : s.displayedConnection = some s.transport.connection.isConnected
      · rw [indicate, connectionIndicatorChanged, if_pos hd] at k
        cases k
        exact .indicatorSame hpc hm rfl hd
      · rw [indicate, connectionIndicatorChanged, if_neg hd] at k
        simp only [if_true, drawStrip] at k
        cases hs : drawSystemUi s.display s.transport.connection.isConnected answer with
        | mk result d =>
            rw [hs] at k
            rcases result with (chain | _) | ⟨⟩
            · cases k
              exact hfailed rfl rfl rfl rfl
            · cases k
              exact hfailed rfl rfl rfl rfl
            · cases k
              exact .indicatorDrawn hpc hm rfl hd hs
  | pollFrame answer =>
      simp only [paperpadStep] at k
      split at k
      case isFalse => cases k
      next hg =>
      obtain ⟨t, ht, rfl⟩ := Option.map_eq_some_iff.mp k
      cases hf : s.transport.frames.pending with
      | none =>
          simp only [FrameMailboxState.take, hf]
          exact .pollNone hg.1 hg.2 hf ht
      | some f =>
          simp only [FrameMailboxState.take, hf, handOver, RemoteFrame.ofReceived_eq_ok]
          exact .poll hg.1 hg.2 hf ht
  | pollForEvent polled answers =>
      simp only [paperpadStep] at k
      split at k
      case isFalse => cases k
      next hg =>
      obtain ⟨hpc, hm⟩ := hg
      rcases polled with e | _ | event
      · split at k
        · cases k
          exact .failed (fun _ h => by rw [hpc] at h; cases h) (fun _ h => by rw [hpc] at h; cases h)
            rfl rfl rfl rfl
        · next h => cases context_eq_ok.mp h
        · next h => cases context_eq_ok.mp h
      · cases k
        exact .quiet hpc hm
      · exact onEvent_move hpc hm k
  | sendViewportChanged =>
      simp only [paperpadStep] at k
      split at k
      · next size hpc =>
          obtain ⟨t, ht, rfl⟩ := Option.map_eq_some_iff.mp k
          exact .sendViewportChanged hpc ht
      · cases k
  | setDimensions answers =>
      simp only [paperpadStep] at k
      split at k
      case h_2 => cases k
      next size hpc hm =>
      have hfailed : ∀ {u : Paperpad δ} {e : Failure}, u.pc = .exited (.error e) →
          u.app = s.app → u.transport = s.transport → u.handed = s.handed →
          PaperpadMove s (.setDimensions answers) u :=
        .failed (fun _ _ => hm) (fun _ h => by rw [hpc] at h; cases h)
      split at k
      · cases k
        exact hfailed rfl rfl rfl rfl
      · next cached d hd =>
          cases k
          rcases ({ s with display := d } : Paperpad δ).finish_drawSurface .geometryChange answers
            "failed to redraw after ConfigureNotify" with ⟨d', hs, he⟩ | ⟨e, d', l, he⟩
          · rw [he]
            exact .setDimensions hpc hm hd hs
          · rw [he]
            exact hfailed rfl rfl rfl rfl
  | destroyWindow outcome =>
      simp only [paperpadStep] at k
      split at k
      case h_2 => cases k
      next hpc hm =>
      have hfailed : ∀ e, PaperpadMove s (.destroyWindow outcome) (s.exit e) := fun e =>
        .failed (fun _ h => by rw [hpc] at h; cases h) (fun _ h => by rw [hpc] at h; cases h)
          rfl rfl rfl rfl
      cases outcome with
      | unsent | rejected =>
          cases k
          exact hfailed _
      | accepted =>
          cases k
          exact .destroyWindow hpc hm
  | transport e =>
      simp only [paperpadStep] at k
      split at k
      · cases k
      · next he =>
          obtain ⟨t, ht, rfl⟩ := Option.map_eq_some_iff.mp k
          exact .transport he ht

end Move

end PaperPad.Device
