import PaperPad.Host.ApplicationInput
import PaperPad.Host.Stream

/-!
# Host — Session

The two threads of `tools/paperspoon/src/main.rs`.  The stdin thread sends a frame under the
sender's lock and, when it was sent, posts the viewport of the application it shows (`None` for
any other frame) on a channel, in a later step.  The connection thread drains the channel when it
accepts a connection and for every message it reads, sends the Hello and replacement frames, and
resolves pointer messages.

Every section under a lock, every channel operation and every message is a step of its own;
draining the channel for a pointer and handling the pointer are one, as nothing between them is
shared.
-/

namespace PaperPad.Host

open Protocol Transition

/-! ### State -/

/-- What the connection thread keeps of the connection it serves. -/
structure Session where
  token : Nat
  pixelFormats : V2PixelFormats
  reportedViewport : Viewport
  input : ApplicationInput := {}
  renderedViewport : Option Viewport := none
  deriving DecidableEq

/-- Where the connection thread is. -/
inductive Phase where
  | listening
  /-- Accepted, and the channel drained. -/
  | accepted
  /-- The Hello connection is installed; its frame is not sent. -/
  | installed (session : Session)
  | reading (session : Session)
  /-- A ViewportChanged is read, and the channel drained. -/
  | viewportRead (session : Session)
  /-- The viewport of the connection is updated; the replacement frame is not sent. -/
  | viewportUpdated (session : Session)
  deriving DecidableEq

/-- The session of a connection that has sent its Hello. -/
def Phase.session? : Phase → Option Session
  | listening | accepted => none
  | installed session | reading session | viewportRead session | viewportUpdated session =>
      some session

/-- What the threads share, and where each of them is. -/
structure HostState where
  sender : FrameSender := {}
  /-- The post the stdin thread owes for its last frame. -/
  outstanding : Option (Option Viewport) := none
  channel : List (Option Viewport) := []
  phase : Phase := .listening
  deriving DecidableEq

/-- A frame command of the stdin thread. -/
inductive StdinCommand where
  | frame (frame : DiagnosticFrame)
  | jpeg (frame : Gray8Frame) (target : FrameTarget)
  | nowPlaying (frame : Gray8Frame) (target : FrameTarget)
  | applicationFrame (viewport : Viewport)
  deriving DecidableEq

/-- A step of one of the threads. -/
inductive HostEvent where
  | stdinSend (command : StdinCommand) (outcome : WriteOutcome)
  | stdinPost
  | accept
  /-- No valid Hello. -/
  | reject
  | install (pixelFormats : V2PixelFormats) (viewport : Viewport)
  | helloFrame (outcome : WriteOutcome)
  | pointer (pointer : V2Pointer)
  | viewportChanged (viewport : Viewport)
  | updateViewport
  | replaceFrame (outcome : WriteOutcome)
  | disconnect
  deriving DecidableEq

/-! ### The source's helpers -/

/-- The rendered viewport, if it is the reported one. -/
def matchingApplicationViewport (reportedViewport : Viewport)
    (renderedApplicationViewport : Option Viewport) : Option Viewport :=
  renderedApplicationViewport.filter fun viewport => viewport = reportedViewport

section Helpers

variable [Platform]

/-- `application_viewport_tx.send(None)`, once a frame is sent. -/
def postNone {α : Type} : Except String (Option α) → Option (Option Viewport)
  | .ok (some _) => some none
  | _ => none

/-- What the stdin thread does for a command, and what it owes the channel. -/
def stdinSend (sender : FrameSender) (command : StdinCommand) (outcome : WriteOutcome) :
    FrameSender × Option (Option Viewport) :=
  let env : Env := ⟨[], outcome⟩
  match command with
  | .frame frame =>
      let r := sender.sendDiagnostic frame env
      (r.1, postNone r.2)
  | .jpeg frame target =>
      let r := sender.sendJpegFrame frame target env
      (r.1, postNone r.2)
  | .nowPlaying frame target =>
      let r := sender.sendNowPlayingFrame frame target env
      (r.1, postNone r.2)
  | .applicationFrame viewport =>
      let r := sender.sendApplication {} viewport env
      (r.1, match r.2 with
        | .ok (.sent _) => some (some viewport)
        | _ => none)

/-- `replace_application_frame`. -/
def replaceApplicationFrame (sender : FrameSender) (session : Session) (viewport : Viewport)
    (env : Env) : FrameSender × Session :=
  let session := { session with renderedViewport := none, input := session.input.setViewport none }
  let r := sender.sendApplicationForViewportChange {} viewport env
  (r.1, match r.2 with
    | .ok (some _) =>
        { session with
          renderedViewport := some viewport
          input := session.input.setViewport (some viewport) }
    | _ => session)

/-- `replace_hello_frame`. -/
def replaceHelloFrame (sender : FrameSender) (session : Session) (viewport : Viewport)
    (pixelFormats : V2PixelFormats) (env : Env) : FrameSender × Session :=
  let session := { session with renderedViewport := none, input := session.input.setViewport none }
  let r := sender.sendForHello {} viewport pixelFormats env
  (r.1, match r.2 with
    | .ok (some helloFrame) =>
        { session with
          renderedViewport := helloFrame.sent.applicationViewport
          input := session.input.setViewport helloFrame.sent.applicationViewport }
    | _ => session)

end Helpers

/-- The session once the channel is drained for a pointer, as the pointer is handled. -/
def Session.drained (session : Session) (channel : List (Option Viewport)) : Session :=
  match channel.getLast? with
  | none => session
  | some rendered =>
      { session with
        renderedViewport := rendered
        input := session.input.setViewport
          (matchingApplicationViewport session.reportedViewport rendered) }

/-! ### Steps -/

/-- One step of one thread. -/
def hostStep [Platform] (s : HostState) : HostEvent → Option HostState
  | .stdinSend command outcome =>
      match s.outstanding with
      | some _ => none
      | none =>
          let r := stdinSend s.sender command outcome
          some { s with sender := r.1, outstanding := r.2 }
  | .stdinPost =>
      match s.outstanding with
      | none => none
      | some post => some { s with outstanding := none, channel := s.channel ++ [post] }
  | .accept =>
      match s.phase with
      | .listening => some { s with channel := [], phase := .accepted }
      | _ => none
  | .reject =>
      match s.phase with
      | .accepted => some { s with phase := .listening }
      | _ => none
  | .install pixelFormats viewport =>
      match s.phase with
      | .accepted =>
          let (current, token) := s.sender.current.installForHello pixelFormats viewport
          some
            { s with
              sender := { s.sender with current }
              phase := .installed ⟨token, pixelFormats, viewport, {}, none⟩ }
      | _ => none
  | .helloFrame outcome =>
      match s.phase with
      | .installed session =>
          let r := replaceHelloFrame s.sender session session.reportedViewport session.pixelFormats
            ⟨[], outcome⟩
          some { s with sender := r.1, phase := .reading r.2 }
      | _ => none
  | .pointer pointer =>
      match s.phase with
      | .reading session =>
          let session := session.drained s.channel
          let input := (session.input.handlePointer {} pointer).1
          some { s with channel := [], phase := .reading { session with input } }
      | _ => none
  | .viewportChanged viewport =>
      match s.phase with
      | .reading session =>
          let renderedViewport := s.channel.getLast?.getD session.renderedViewport
          some
            { s with
              channel := []
              phase := .viewportRead
                { session with renderedViewport, reportedViewport := viewport } }
      | _ => none
  | .updateViewport =>
      match s.phase with
      | .viewportRead session =>
          let current :=
            (s.sender.current.updateViewportIfCurrent session.token session.reportedViewport).1
          some { s with sender := { s.sender with current }, phase := .viewportUpdated session }
      | _ => none
  | .replaceFrame outcome =>
      match s.phase with
      | .viewportUpdated session =>
          let r := replaceApplicationFrame s.sender session session.reportedViewport ⟨[], outcome⟩
          some { s with sender := r.1, phase := .reading r.2 }
      | _ => none
  | .disconnect =>
      match s.phase with
      | .reading session =>
          let current := (s.sender.current.clearIfCurrent session.token).1
          some { s with sender := { s.sender with current }, phase := .listening }
      | _ => none

section Move

variable [Platform]

/-- What each event can do. -/
inductive HostMove (s : HostState) : HostEvent → HostState → Prop where
  | stdinSend {command : StdinCommand} {outcome : WriteOutcome} {sender : FrameSender}
      {post : Option (Option Viewport)} (ho : s.outstanding = none)
      (hx : stdinSend s.sender command outcome = (sender, post)) :
      HostMove s (.stdinSend command outcome) { s with sender, outstanding := post }
  | stdinPost {post : Option Viewport} (ho : s.outstanding = some post) :
      HostMove s .stdinPost { s with outstanding := none, channel := s.channel ++ [post] }
  | accept (hp : s.phase = .listening) :
      HostMove s .accept { s with channel := [], phase := .accepted }
  | reject (hp : s.phase = .accepted) : HostMove s .reject { s with phase := .listening }
  | install {formats : V2PixelFormats} {v : Viewport} (hp : s.phase = .accepted) :
      HostMove s (.install formats v)
        { s with
          sender := { s.sender with current := (s.sender.current.installForHello formats v).1 }
          phase := .installed
            ⟨(s.sender.current.installForHello formats v).2, formats, v, {}, none⟩ }
  | helloFrame {outcome : WriteOutcome} {session session' : Session} {sender : FrameSender}
      (hp : s.phase = .installed session)
      (hx : replaceHelloFrame s.sender session session.reportedViewport session.pixelFormats
        ⟨[], outcome⟩ = (sender, session')) :
      HostMove s (.helloFrame outcome) { s with sender, phase := .reading session' }
  | pointer {p : V2Pointer} {session : Session} (hp : s.phase = .reading session) :
      HostMove s (.pointer p)
        { s with
          channel := []
          phase := .reading
            { session.drained s.channel with
              input := ((session.drained s.channel).input.handlePointer {} p).1 } }
  | viewportChanged {v : Viewport} {session : Session} (hp : s.phase = .reading session) :
      HostMove s (.viewportChanged v)
        { s with
          channel := []
          phase := .viewportRead
            { session with
              renderedViewport := s.channel.getLast?.getD session.renderedViewport
              reportedViewport := v } }
  | updateViewport {session : Session} (hp : s.phase = .viewportRead session) :
      HostMove s .updateViewport
        { s with
          sender :=
            { s.sender with
              current := (s.sender.current.updateViewportIfCurrent session.token
                session.reportedViewport).1 }
          phase := .viewportUpdated session }
  | replaceFrame {outcome : WriteOutcome} {session session' : Session} {sender : FrameSender}
      (hp : s.phase = .viewportUpdated session)
      (hx : replaceApplicationFrame s.sender session session.reportedViewport ⟨[], outcome⟩ =
        (sender, session')) :
      HostMove s (.replaceFrame outcome) { s with sender, phase := .reading session' }
  | disconnect {session : Session} (hp : s.phase = .reading session) :
      HostMove s .disconnect
        { s with
          sender :=
            { s.sender with current := (s.sender.current.clearIfCurrent session.token).1 }
          phase := .listening }

/-- A step is one of the moves. -/
theorem hostStep_move {s t : HostState} {e : HostEvent} (k : hostStep s e = some t) :
    HostMove s e t := by
  cases e with
  | stdinSend command outcome =>
      simp only [hostStep] at k
      split at k
      · cases k
      · next ho =>
          cases k
          exact .stdinSend ho rfl
  | stdinPost =>
      simp only [hostStep] at k
      split at k
      · cases k
      · next ho =>
          cases k
          exact .stdinPost ho
  | accept =>
      simp only [hostStep] at k
      split at k
      · next hp =>
          cases k
          exact .accept hp
      · cases k
  | reject =>
      simp only [hostStep] at k
      split at k
      · next hp =>
          cases k
          exact .reject hp
      · cases k
  | install formats v =>
      simp only [hostStep] at k
      split at k
      · next hp =>
          cases k
          exact .install hp
      · cases k
  | helloFrame outcome =>
      simp only [hostStep] at k
      split at k
      · next hp =>
          cases k
          exact .helloFrame hp rfl
      · cases k
  | pointer p =>
      simp only [hostStep] at k
      split at k
      · next hp =>
          cases k
          exact .pointer hp
      · cases k
  | viewportChanged v =>
      simp only [hostStep] at k
      split at k
      · next hp =>
          cases k
          exact .viewportChanged hp
      · cases k
  | updateViewport =>
      simp only [hostStep] at k
      split at k
      · next hp =>
          cases k
          exact .updateViewport hp
      · cases k
  | replaceFrame outcome =>
      simp only [hostStep] at k
      split at k
      · next hp =>
          cases k
          exact .replaceFrame hp rfl
      · cases k
  | disconnect =>
      simp only [hostStep] at k
      split at k
      · next hp =>
          cases k
          exact .disconnect hp
      · cases k

end Move

end PaperPad.Host
