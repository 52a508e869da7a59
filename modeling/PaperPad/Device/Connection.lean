import PaperPad.Protocol.RoundTrip

/-!
# Device — Connection

`ConnectionState` of `src/net/connection.rs`, and `FrameMailbox` of `src/net/mod.rs`: the two
things the device's threads share under a lock.

A token (`Arc<()>`) is made with the socket it is installed with, and no socket is installed
twice, so a token is the number of its socket.  Duplicating a socket can fail: whether it did is an
argument of the function that tries.
-/

namespace PaperPad.Device

open Protocol

/-- Width and height in pixels. -/
abbrev Viewport := UInt16 × UInt16

/-! ### The connection -/

/-- `Connected` with a token, or `Disconnected`; and the sockets that were shut down. -/
structure ConnectionState where
  active : Option Nat := none
  shut : List Nat := []
  deriving DecidableEq

namespace ConnectionState

/-- `is_connected`. -/
def isConnected (c : ConnectionState) : Bool := c.active.isSome

/-- The token of the connection, for messages that are queued. -/
def currentToken (c : ConnectionState) : Except String Nat :=
  match c.active with
  | none => .error "PaperSpoon not connected"
  | some token => .ok token

/-- A clone of the stream, for the holder of its token; `duplicated` says how `try_clone` ends. -/
def cloneStreamFor (c : ConnectionState) (candidate : Nat) (duplicated : Bool) :
    Except String Nat :=
  match c.active with
  | none => .error "PaperSpoon not connected"
  | some token =>
      if token ≠ candidate then .error "PaperSpoon connection changed before action write"
      else if duplicated = false then .error "failed to clone PaperSpoon stream"
      else .ok token

/-- The socket is shut down, and its token is nobody's. -/
def disconnect (c : ConnectionState) : ConnectionState :=
  match c.active with
  | none => c
  | some token => ⟨none, token :: c.shut⟩

/-- A new socket in place of the one there was. -/
def reconnect (c : ConnectionState) (socket : Nat) : ConnectionState :=
  { c.disconnect with active := some socket }

/-- What a failed write does to its connection. -/
def disconnectIfCurrent (c : ConnectionState) (candidate : Nat) : ConnectionState :=
  match c.active with
  | none => c
  | some token => if token ≠ candidate then c else c.disconnect

/-- Nothing is current once it is disconnected. -/
@[simp] theorem disconnect_active (c : ConnectionState) : c.disconnect.active = none := by
  simp only [disconnect]
  split
  · assumption
  · rfl

/-- A message gets the token of the current connection. -/
theorem currentToken_eq_ok {c : ConnectionState} {token : Nat} :
    c.currentToken = .ok token ↔ c.active = some token := by
  simp only [currentToken]
  split <;> simp [*]

/-- No token is to be had only where nothing is current. -/
theorem currentToken_eq_error {c : ConnectionState} {error : String}
    (h : c.currentToken = .error error) : c.active = none := by
  simp only [currentToken] at h
  split at h
  · assumption
  · cases h

/-- The stream of the current connection is cloned, if it can be. -/
theorem cloneStreamFor_eq_ok {c : ConnectionState} {candidate token : Nat} {duplicated : Bool} :
    c.cloneStreamFor candidate duplicated = .ok token ↔
      c.active = some token ∧ token = candidate ∧ duplicated = true := by
  simp only [cloneStreamFor]
  split
  · simp [*]
  · split
    · grind
    · cases duplicated <;> grind

/-- Another connection is current, or the current one could not be duplicated. -/
theorem cloneStreamFor_eq_error {c : ConnectionState} {candidate : Nat} {duplicated : Bool}
    {error : String} (h : c.cloneStreamFor candidate duplicated = .error error) :
    c.active ≠ some candidate ∨ duplicated = false := by
  by_contra! hn
  have := cloneStreamFor_eq_ok.mpr ⟨hn.1, rfl, by simpa using hn.2⟩
  rw [h] at this
  cases this

/-- A failure of one connection leaves every other current. -/
theorem disconnectIfCurrent_active {c : ConnectionState} {candidate token : Nat} :
    (c.disconnectIfCurrent candidate).active = some token ↔
      c.active = some token ∧ token ≠ candidate := by
  simp only [disconnectIfCurrent]
  split
  · simp [*]
  · next t ht =>
      split
      · next hne => grind
      · next he => simp only [disconnect_active]; grind

end ConnectionState

/-! ### The mailbox -/

/-- A decoded frame. `serial` is history: how many frames were received before it. -/
structure ReceivedFrame where
  frameId : UInt64
  frame : Frame
  serial : Nat
  deriving DecidableEq

/-- The width and height its header says. -/
def ReceivedFrame.dimensions (f : ReceivedFrame) : Viewport := (f.frame.width, f.frame.height)

/-- Why a frame is not published. -/
structure FrameDimensionMismatch where
  expected : Viewport
  actual : Viewport
  deriving DecidableEq

/-- The latest frame of the viewport's size, and that size. -/
structure FrameMailboxState where
  viewport : Viewport := (0, 0)
  pending : Option ReceivedFrame := none
  deriving DecidableEq

namespace FrameMailboxState

/-- A pending frame of another size is dropped. -/
def setViewport (m : FrameMailboxState) (viewport : Viewport) : FrameMailboxState where
  viewport := viewport
  pending := if m.pending.any fun frame => frame.dimensions ≠ viewport then none else m.pending

/-- A frame of the viewport's size replaces the pending one. -/
def publish (m : FrameMailboxState) (frame : ReceivedFrame) :
    FrameMailboxState × Except FrameDimensionMismatch Unit :=
  if frame.dimensions ≠ m.viewport then (m, .error ⟨m.viewport, frame.dimensions⟩)
  else ({ m with pending := some frame }, .ok ())

/-- The pending frame, which is no longer there. -/
def take (m : FrameMailboxState) : FrameMailboxState × Option ReceivedFrame :=
  ({ m with pending := none }, m.pending)

/-- Publishing changes no viewport. -/
@[simp] theorem publish_viewport (m : FrameMailboxState) (frame : ReceivedFrame) :
    (m.publish frame).1.viewport = m.viewport := by
  simp only [publish]
  split <;> rfl

/-- A pending frame has the size of the viewport. -/
def Matching (m : FrameMailboxState) : Prop := ∀ f, m.pending = some f → f.dimensions = m.viewport

/-- What is left of the pending frame. -/
theorem setViewport_pending {m : FrameMailboxState} {viewport : Viewport} {f : ReceivedFrame} :
    (m.setViewport viewport).pending = some f ↔ m.pending = some f ∧ f.dimensions = viewport := by
  simp only [setViewport]
  cases m.pending with
  | none => simp
  | some g => by_cases hg : g.dimensions = viewport <;> grind

theorem Matching.setViewport {m : FrameMailboxState} (viewport : Viewport) :
    (m.setViewport viewport).Matching :=
  fun _ hf => (setViewport_pending.mp hf).2

theorem Matching.publish {m : FrameMailboxState} (h : m.Matching) (frame : ReceivedFrame) :
    (m.publish frame).1.Matching := by
  simp only [FrameMailboxState.publish]
  split
  · exact h
  · next he =>
      intro f hf
      obtain rfl := Option.some.inj hf
      exact not_not.mp he

theorem Matching.take {m : FrameMailboxState} : m.take.1.Matching := fun _ hf => by cases hf

end FrameMailboxState

end PaperPad.Device
