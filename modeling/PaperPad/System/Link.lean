import PaperPad.Device.LatestFrame
import PaperPad.Host.Gating
import PaperPad.System.Delivery

/-!
# System — Link

A device and a host, and the connections between them.  The device makes sockets, the host accepts
them in that order, and each side reads what the other has written so far, or less of it.  Every
step is one of the device, one of the host, or a read of one of them.

`arrived` is history: the frames the device has read, oldest first, each with its socket.
-/

namespace PaperPad.System

open Protocol Transition
open Device (EventLoop LoopEvent Transport loopStep transportStep)
open Device.Inbound (readFrames)
open Host (HostState HostEvent SessionMessage FrameSender hostStep senderNext readSession)

/-! ### State -/

/-- A frame that was read, and where. -/
structure Arrival where
  socket : Nat
  frame : Device.ReceivedFrame
  deriving DecidableEq

/-- Both programs, and what is between them. -/
structure Link (β : Type) where
  device : EventLoop β
  host : HostState := {}
  /-- The sockets of the device that the host has accepted, oldest first. -/
  accepted : List Nat := []
  /-- The socket it serves, and the messages it has read from it behind the Hello. -/
  serving : Option Nat := none
  read : Nat := 0
  /-- The connections that got a Hello: the socket of the device and the token of the host. -/
  pairs : List (Nat × Nat) := []
  arrived : List Arrival := []

/-- A step of either program, or a read. -/
inductive LinkEvent (β : Type) where
  | device (event : LoopEvent β)
  /-- The reader of the device reads the next frame of the first `n` bytes. -/
  | receive (n : Nat)
  | host (event : HostEvent)
  /-- A socket of the device, or a connection of somebody else. -/
  | accept (socket : Option Nat)
  /-- The host reads the Hello of the first `n` bytes. -/
  | hello (n : Nat)
  | message (n : Nat)

/-- A step of the device that reads a frame. -/
def Reads {β : Type} : LoopEvent β → Bool
  | .transport (.reader (.receive _ _)) => true
  | _ => false

/-- A step of the host that takes something from a connection. -/
def TakesInput : HostEvent → Bool
  | .accept | .install _ _ | .pointer _ | .viewportChanged _ => true
  | _ => false

/-- What the host does with a message. -/
def sessionEvent : SessionMessage → HostEvent
  | .pointer p => .pointer p
  | .viewportChanged v => .viewportChanged (v.width, v.height)

namespace Link

variable {β : Type}

/-- A device with a window of this size, and a host nobody has connected to. -/
def start (size : Device.Viewport) (adapter : Bool) (pixelFormats : V2PixelFormats) : Link β where
  device := .start size adapter pixelFormats

/-- What has arrived of the bytes the device wrote to a socket. -/
def input (s : Link β) (socket n : Nat) : ByteReader :=
  ⟨(Device.bytesOn socket s.device.transport.wire).take n, 0⟩

/-- What has arrived of the bytes the host wrote to a connection. -/
def output (s : Link β) (token n : Nat) : ByteReader :=
  ⟨(Host.bytesOn token s.host.sender.current.wire).take n, 0⟩

/-- The frames read from a socket. -/
def arrivedOn (s : Link β) (socket : Nat) : List Arrival :=
  s.arrived.filter fun a => a.socket = socket

end Link

/-! ### Steps -/

section Steps

variable {β : Type} [Platform]

/-- One step. -/
def linkStep (s : Link β) : LinkEvent β → Option (Link β)
  | .device event =>
      if Reads event then none
      else (loopStep s.device event).map fun device => { s with device }
  | .receive n =>
      match s.device.transport.reader with
      | .reading socket =>
          match s.pairs.lookup socket with
          | some token =>
              match (readFrames (s.output token n)).value[(s.arrivedOn socket).length]? with
              | some f =>
                  match Frame.new f.width f.height f.pixelFormat f.pixels with
                  | .ok frame =>
                      (loopStep s.device (.transport (.reader (.receive f.frameId frame)))).map
                        fun device =>
                          { s with
                            device
                            arrived := s.arrived ++ [⟨socket, f.frameId, frame,
                              s.device.transport.receivedCount⟩] }
                  | .error _ => none
              | none => none
          | none => none
      | _ => none
  | .host event =>
      if TakesInput event then none else (hostStep s.host event).map fun host => { s with host }
  | .accept socket =>
      if ∀ k ∈ socket, ∀ j ∈ s.accepted, j < k then
        (hostStep s.host .accept).map fun host =>
          { s with
            host, accepted := s.accepted ++ socket.toList, serving := socket, read := 0 }
      else none
  | .hello n =>
      match s.serving with
      | some socket =>
          match (readSession (s.input socket n)).value.1 with
          | some hello =>
              (hostStep s.host (.install hello.pixelFormats
                (hello.viewportWidth, hello.viewportHeight))).map fun host =>
                  { s with
                    host, pairs := s.pairs ++ [(socket, s.host.sender.current.issued)] }
          | none => none
      | none => none
  | .message n =>
      match s.serving with
      | some socket =>
          match (readSession (s.input socket n)).value.2[s.read]? with
          | some m =>
              (hostStep s.host (sessionEvent m)).map fun host =>
                { s with host, read := s.read + 1 }
          | none => none
      | none => none

/-- What each event can do. -/
inductive LinkMove (s : Link β) : LinkEvent β → Link β → Prop where
  | device {e : LoopEvent β} {d : EventLoop β} (he : Reads e = false)
      (hd : loopStep s.device e = some d) : LinkMove s (.device e) { s with device := d }
  | receive {n socket token : Nat} {f : Device.Inbound.ReceivedFrame} {frame : Frame}
      {d : EventLoop β} (hr : s.device.transport.reader = .reading socket)
      (hp : s.pairs.lookup socket = some token)
      (hf : (readFrames (s.output token n)).value[(s.arrivedOn socket).length]? = some f)
      (hframe : Frame.new f.width f.height f.pixelFormat f.pixels = .ok frame)
      (hd : loopStep s.device (.transport (.reader (.receive f.frameId frame))) = some d) :
      LinkMove s (.receive n)
        { s with
          device := d
          arrived := s.arrived ++ [⟨socket, f.frameId, frame,
            s.device.transport.receivedCount⟩] }
  | host {e : HostEvent} {h : HostState} (he : TakesInput e = false)
      (hh : hostStep s.host e = some h) : LinkMove s (.host e) { s with host := h }
  | accept {socket : Option Nat} {h : HostState}
      (hs : ∀ k ∈ socket, ∀ j ∈ s.accepted, j < k) (hh : hostStep s.host .accept = some h) :
      LinkMove s (.accept socket)
        { s with
          host := h, accepted := s.accepted ++ socket.toList, serving := socket, read := 0 }
  | hello {n socket : Nat} {hello : V2Hello} {h : HostState} (hs : s.serving = some socket)
      (hr : (readSession (s.input socket n)).value.1 = some hello)
      (hh : hostStep s.host (.install hello.pixelFormats
        (hello.viewportWidth, hello.viewportHeight)) = some h) :
      LinkMove s (.hello n)
        { s with host := h, pairs := s.pairs ++ [(socket, s.host.sender.current.issued)] }
  | message {n socket : Nat} {m : SessionMessage} {h : HostState} (hs : s.serving = some socket)
      (hr : (readSession (s.input socket n)).value.2[s.read]? = some m)
      (hh : hostStep s.host (sessionEvent m) = some h) :
      LinkMove s (.message n) { s with host := h, read := s.read + 1 }

theorem linkStep_move {s t : Link β} {e : LinkEvent β} (k : linkStep s e = some t) :
    LinkMove s e t := by
  cases e with
  | device e =>
      simp only [linkStep] at k
      split at k
      · cases k
      · next he =>
          obtain ⟨d, hd, rfl⟩ := Option.map_eq_some_iff.mp k
          exact .device (by simpa using he) hd
  | receive n =>
      simp only [linkStep] at k
      split at k
      case h_2 => cases k
      next socket hr =>
      split at k
      case h_2 => cases k
      next token hp =>
      split at k
      case h_2 => cases k
      next f hf =>
      split at k
      case h_2 => cases k
      next frame hframe =>
      obtain ⟨d, hd, rfl⟩ := Option.map_eq_some_iff.mp k
      exact .receive hr hp hf hframe hd
  | host e =>
      simp only [linkStep] at k
      split at k
      · cases k
      · next he =>
          obtain ⟨h, hh, rfl⟩ := Option.map_eq_some_iff.mp k
          exact .host (by simpa using he) hh
  | accept socket =>
      simp only [linkStep] at k
      split at k
      · next hs =>
          obtain ⟨h, hh, rfl⟩ := Option.map_eq_some_iff.mp k
          exact .accept hs hh
      · cases k
  | hello n =>
      simp only [linkStep] at k
      split at k
      case h_2 => cases k
      next socket hs =>
      split at k
      case h_2 => cases k
      next hello hr =>
      obtain ⟨h, hh, rfl⟩ := Option.map_eq_some_iff.mp k
      exact .hello hs hr hh
  | message n =>
      simp only [linkStep] at k
      split at k
      case h_2 => cases k
      next socket hs =>
      split at k
      case h_2 => cases k
      next m hr =>
      obtain ⟨h, hh, rfl⟩ := Option.map_eq_some_iff.mp k
      exact .message hs hr hh

/-! ### Its parts -/

/-- A step of the event loop is one step of the transport, or none. -/
theorem loopStep_run {s u : EventLoop β} {e : LoopEvent β} (k : loopStep s e = some u) :
    ∃ es, Run (Fn transportStep) s.transport es u.transport := by
  by_cases he : ∃ presentation, e = .poll presentation
  · obtain ⟨presentation, rfl⟩ := he
    cases Device.loopStep_move k with
    | pollNone _ _ ht => exact ⟨[.main .pollFrame], .one ht⟩
    | @poll _ t f _ _ ht =>
        obtain ⟨frame, -, heq⟩ :=
          EventLoop.handOver_eq { s with transport := t } presentation f
        rw [heq]
        exact ⟨[.main .pollFrame], .one ht⟩
  · have he : ∀ presentation, e ≠ .poll presentation := fun presentation h => he ⟨_, h⟩
    rcases Device.loopStep_transport he k with h | ⟨event, h, -⟩
    · rw [h]
      exact ⟨[], .refl _⟩
    · exact ⟨_, .one h⟩

/-- A step of the host is one operation of the sender, or none. -/
theorem hostStep_sender {s t : HostState} {e : HostEvent} (k : hostStep s e = some t) :
    ∃ es, Run (Fn senderNext) s.sender es t.sender := by
  cases Host.hostStep_move k with
  | @stdinSend command outcome sender post _ hx =>
      cases command with
      | frame d =>
          obtain ⟨rfl, -⟩ := Prod.mk.inj hx
          exact ⟨[.diagnostic d ⟨[], outcome⟩], .one rfl⟩
      | jpeg f target =>
          obtain ⟨rfl, -⟩ := Prod.mk.inj hx
          exact ⟨[.jpeg f target ⟨[], outcome⟩], .one rfl⟩
      | nowPlaying f target =>
          obtain ⟨rfl, -⟩ := Prod.mk.inj hx
          exact ⟨[.nowPlaying f target ⟨[], outcome⟩], .one rfl⟩
      | applicationFrame v =>
          obtain ⟨rfl, -⟩ := Prod.mk.inj hx
          exact ⟨[.application {} v ⟨[], outcome⟩], .one rfl⟩
  | stdinPost | accept | reject | pointer | viewportChanged => exact ⟨[], .refl _⟩
  | @install formats v => exact ⟨[.connection (.install formats (some v))], .one rfl⟩
  | @helloFrame outcome session _ _ _ hx =>
      obtain ⟨rfl, -⟩ := Prod.mk.inj hx
      exact ⟨[.hello {} session.reportedViewport session.pixelFormats ⟨[], outcome⟩], .one rfl⟩
  | @updateViewport session =>
      exact ⟨[.connection (.updateViewport session.token session.reportedViewport)], .one rfl⟩
  | @replaceFrame outcome session _ _ _ hx =>
      obtain ⟨rfl, -⟩ := Prod.mk.inj hx
      exact ⟨[.viewportChange {} session.reportedViewport ⟨[], outcome⟩], .one rfl⟩
  | @disconnect session => exact ⟨[.connection (.clear session.token)], .one rfl⟩

theorem linkStep_device {s t : Link β} {e : LinkEvent β} (k : linkStep s e = some t) :
    ∃ es, Run (Fn loopStep) s.device es t.device := by
  cases linkStep_move k with
  | device _ hd => exact ⟨_, .one hd⟩
  | receive _ _ _ _ hd => exact ⟨_, .one hd⟩
  | _ => exact ⟨[], .refl _⟩

variable {size : Device.Viewport} {adapter : Bool} {pixelFormats : V2PixelFormats}
  {es : List (LinkEvent β)} {s : Link β}

theorem link_device (h : Run (Fn linkStep) (.start size adapter pixelFormats) es s) :
    ∃ fs, Run (Fn loopStep) (.start size adapter pixelFormats) fs s.device :=
  h.project Link.device linkStep_device

theorem link_transport (h : Run (Fn linkStep) (.start size adapter pixelFormats) es s) :
    ∃ fs, Run (Fn transportStep) (.start (Device.remoteViewportSize size) pixelFormats) fs
      s.device.transport := by
  obtain ⟨fs, hfs⟩ := link_device h
  exact hfs.project EventLoop.transport loopStep_run

end Steps

end PaperPad.System
