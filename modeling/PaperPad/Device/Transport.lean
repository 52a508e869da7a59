import PaperPad.Device.Connection
import PaperPad.Support.Transition

/-!
# Device — Transport

`Paperspoon` of `src/net/mod.rs` and its threads: the main thread, the writer, one reader at a
time and the reconnector.  Every section under a lock, every channel operation and every write is
a step of its own.  A thread is where its program counter says; what it holds there is what it has
read in earlier steps.  Whether a socket can be duplicated, and whether the reconnector can spawn a
thread, is part of the event.

Two histories are kept, which no step reads: `wire`, what the sockets have been given, oldest
first, and with every message of it the remote viewport at the time it was queued; and the number
of frames received.
-/

namespace PaperPad.Device

open Protocol

/-- The bound of the outbound channel. -/
def OUTBOUND_QUEUE_CAPACITY : Nat := 16

/-! ### Messages -/

/-- A message in the channel, with the token it was queued for. -/
structure QueuedOutbound where
  connection : Nat
  message : Message
  /-- The remote viewport when the message was queued. -/
  viewport : Viewport
  deriving DecidableEq

/-- What one `write_all` put on a socket, and whether it was all of the message. -/
structure Record where
  token : Nat
  message : Message
  viewport : Viewport
  bytes : List UInt8
  whole : Bool
  deriving DecidableEq

/-- How a `write_all` ends: it fails only with bytes left to write. -/
inductive WriteOutcome where
  | written
  | failed (written : Nat)
  deriving DecidableEq

/-- The encoding; the device's messages all have one (`Message.fits_of_not_frame`). -/
def messageBytes (m : Message) : List UInt8 :=
  match m.encode with
  | .ok bytes => bytes
  | .error _ => []

/-- What a write of a message leaves on a socket. -/
def writeAll (token : Nat) (message : Message) (viewport : Viewport) : WriteOutcome → Record
  | .written => ⟨token, message, viewport, messageBytes message, true⟩
  | .failed n =>
      let bytes := messageBytes message
      ⟨token, message, viewport, bytes.take (min n (bytes.length - 1)), false⟩

/-- The first message of every connection. -/
def helloMessage (viewport : Viewport) (pixelFormats : V2PixelFormats) : Message :=
  .hello (.withPixelFormats viewport.1 viewport.2 pixelFormats)

/-! ### Threads -/

/-- Where the main thread is. -/
inductive MainPc where
  | idle
  /-- In `send_viewport_changed`: the viewport is stored. -/
  | stored (viewport previous : Viewport)
  /-- The mailbox has the viewport too, and it is a new one. -/
  | announcing (viewport : Viewport)
  /-- The connection has been looked up. -/
  | announceTo (viewport : Viewport) (token : Nat)
  /-- The change could not be queued. -/
  | announceFailed
  /-- In `send_pointer`: the connection has been looked up. -/
  | pointerTo (pointer : V2Pointer) (token : Nat)
  /-- In `drop`: `stopping` is set. -/
  | stopping
  | disconnected
  | dropped
  deriving DecidableEq

/-- Where the writer is. -/
inductive WriterPc where
  | idle
  | holding (outbound : QueuedOutbound)
  /-- The stream of the message's connection has been cloned. -/
  | writing (outbound : QueuedOutbound)
  | failed (token : Nat)
  | ended
  deriving DecidableEq

/-- Where the current reader is. -/
inductive ReaderPc where
  | ended
  | reading (socket : Nat)
  | received (socket : Nat) (frame : ReceivedFrame)
  deriving DecidableEq

/-- Where the reconnector is. -/
inductive ReconnectorPc where
  /-- Before `from_stream`. -/
  | absent
  | waiting
  | woken
  /-- The old reader has been joined. -/
  | joined
  | retrying
  | connected (socket : Nat)
  | viewportRead (socket : Nat) (viewport : Viewport)
  /-- The Hello is written. -/
  | greeted (socket : Nat) (viewport : Viewport)
  | installed (socket : Nat)
  | ended
  /-- The thread has panicked. -/
  | panicked
  deriving DecidableEq

/-- What the threads share, and where each of them is. -/
structure Transport where
  pixelFormats : V2PixelFormats
  remoteViewport : Viewport
  connection : ConnectionState := {}
  frames : FrameMailboxState
  queue : List QueuedOutbound := []
  wakes : Nat := 0
  stopping : Bool := false
  main : MainPc := .idle
  writer : WriterPc := .idle
  reader : ReaderPc := .ended
  reconnector : ReconnectorPc := .absent
  /-- The number of sockets made. -/
  sockets : Nat := 0
  wire : List Record := []
  receivedCount : Nat := 0
  deriving DecidableEq

/-- The steps of the main thread. -/
inductive MainEvent where
  | promote
  | storeViewport (viewport : Viewport)
  | setMailbox
  | lookupViewport
  | enqueueViewport
  | closeAfterFull
  | lookupPointer (pointer : V2Pointer)
  | enqueuePointer
  | pollFrame
  | dropStop
  | dropDisconnect
  | dropWake
  deriving DecidableEq

/-- The steps of the writer. -/
inductive WriterEvent where
  | dequeue
  /-- `duplicated` says whether `try_clone` succeeds, if it is run. -/
  | cloneStream (duplicated : Bool)
  | write (outcome : WriteOutcome)
  | closeAfterFailure
  deriving DecidableEq

/-- The steps of a reader. -/
inductive ReaderEvent where
  | receive (frameId : UInt64) (frame : Frame)
  | publish
  | readerEnd
  deriving DecidableEq

/-- The steps of the reconnector. -/
inductive ReconnectorEvent where
  | wake
  | join
  | disconnect
  | giveUp
  /-- A socket is made; a failed attempt to make one changes nothing. -/
  | connect (configured : Bool)
  | readViewport
  | hello (outcome : WriteOutcome)
  /-- `try_clone` of the greeted socket fails, against the `expect` on it. -/
  | cloneFailed
  | install
  | spawnReader
  /-- The reader's thread is not to be had, and `thread::spawn` panics. -/
  | spawnFailed
  deriving DecidableEq

/-- A step of one of the threads. -/
inductive TransportEvent where
  | main (event : MainEvent)
  | writer (event : WriterEvent)
  | reader (event : ReaderEvent)
  | reconnector (event : ReconnectorEvent)
  deriving DecidableEq

namespace Transport

/-- `start_with_pixel_formats`, before the startup worker has connected. -/
def start (viewport : Viewport) (pixelFormats : V2PixelFormats) : Transport where
  pixelFormats := pixelFormats
  remoteViewport := viewport
  frames := { viewport }

/-- A successful `from_stream` on the startup worker's stream. -/
def fromStream (t : Transport) : Transport :=
  let hello := helloMessage t.remoteViewport t.pixelFormats
  { t with
    frames := t.frames.setViewport t.remoteViewport
    connection := { t.connection with active := some t.sockets }
    reader := .reading t.sockets
    reconnector := .waiting
    sockets := t.sockets + 1
    wire := t.wire ++ [writeAll t.sockets hello t.remoteViewport .written] }

/-- `enqueue_outbound`: the queue with the message, or why not. -/
def enqueueOutbound (t : Transport) (outbound : QueuedOutbound) :
    Except String (List QueuedOutbound) :=
  if t.writer = .ended then .error "PaperSpoon outbound worker stopped"
  else if t.queue.length ≥ OUTBOUND_QUEUE_CAPACITY then .error "PaperSpoon outbound queue full"
  else .ok (t.queue ++ [outbound])

end Transport

/-! ### Steps -/

/-- The main thread: `from_stream`, `send_viewport_changed`, `send_pointer`, `poll_frame` and
`drop`. -/
def mainStep (t : Transport) : MainEvent → Option Transport
  | .promote =>
      match t.reconnector, t.main with
      | .absent, .idle | .absent, .announcing _ => some t.fromStream
      | _, _ => none
  | .storeViewport viewport =>
      match t.main with
      | .idle =>
          some { t with remoteViewport := viewport, main := .stored viewport t.remoteViewport }
      | _ => none
  | .setMailbox =>
      match t.main with
      | .stored viewport previous =>
          some
            { t with
              frames := t.frames.setViewport viewport
              main := if previous = viewport then .idle else .announcing viewport }
      | _ => none
  | .lookupViewport =>
      match t.main with
      | .announcing viewport =>
          match t.connection.currentToken with
          | .ok token => some { t with main := .announceTo viewport token }
          | .error _ => some { t with main := .idle }
      | _ => none
  | .enqueueViewport =>
      match t.main with
      | .announceTo viewport token =>
          match t.enqueueOutbound
            ⟨token, .viewportChanged ⟨viewport.1, viewport.2⟩, t.remoteViewport⟩ with
          | .ok queue => some { t with queue, main := .idle }
          | .error _ => some { t with main := .announceFailed }
      | _ => none
  | .closeAfterFull =>
      match t.main with
      | .announceFailed => some { t with connection := t.connection.disconnect, main := .idle }
      | _ => none
  | .lookupPointer pointer =>
      match t.main with
      | .idle =>
          match t.connection.currentToken with
          | .ok token => some { t with main := .pointerTo pointer token }
          | .error _ => some t
      | _ => none
  | .enqueuePointer =>
      match t.main with
      | .pointerTo pointer token =>
          match t.enqueueOutbound ⟨token, .pointer pointer, t.remoteViewport⟩ with
          | .ok queue => some { t with queue, main := .idle }
          | .error _ => some { t with main := .idle }
      | _ => none
  | .pollFrame =>
      match t.main with
      | .idle => some { t with frames := t.frames.take.1 }
      | _ => none
  | .dropStop =>
      match t.main with
      | .idle => some { t with stopping := true, main := .stopping }
      | _ => none
  | .dropDisconnect =>
      match t.main with
      | .stopping => some { t with connection := t.connection.disconnect, main := .disconnected }
      | _ => none
  | .dropWake =>
      match t.main with
      | .disconnected => some { t with wakes := t.wakes + 1, main := .dropped }
      | _ => none

/-- `spawn_writer`, with `write_outbound` as two steps. -/
def writerStep (t : Transport) : WriterEvent → Option Transport
  | .dequeue =>
      match t.writer, t.queue with
      | .idle, outbound :: queue =>
          if t.stopping then some { t with queue, writer := .ended }
          else some { t with queue, writer := .holding outbound }
      | _, _ => none
  | .cloneStream duplicated =>
      match t.writer with
      | .holding outbound =>
          -- with any of the three errors the message is skipped, and the connection kept
          match t.connection.cloneStreamFor outbound.connection duplicated with
          | .ok _ => some { t with writer := .writing outbound }
          | .error _ => some { t with writer := .idle }
      | _ => none
  | .write outcome =>
      match t.writer with
      | .writing outbound =>
          let wire := t.wire ++
            [writeAll outbound.connection outbound.message outbound.viewport outcome]
          match outcome with
          | .written => some { t with wire, writer := .idle }
          | .failed _ => some { t with wire, writer := .failed outbound.connection }
      | _ => none
  | .closeAfterFailure =>
      match t.writer with
      | .failed token =>
          some { t with connection := t.connection.disconnectIfCurrent token, writer := .idle }
      | _ => none

/-- `spawn_reader`. -/
def readerStep (t : Transport) : ReaderEvent → Option Transport
  | .receive frameId frame =>
      match t.reader with
      | .reading socket =>
          some
            { t with
              reader := .received socket ⟨frameId, frame, t.receivedCount⟩
              receivedCount := t.receivedCount + 1 }
      | _ => none
  | .publish =>
      match t.reader with
      | .received socket frame =>
          some { t with frames := (t.frames.publish frame).1, reader := .reading socket }
      | _ => none
  | .readerEnd =>
      match t.reader with
      | .reading _ => some { t with reader := .ended, wakes := t.wakes + 1 }
      | _ => none

/-- The reconnector of `from_stream`. -/
def reconnectorStep (t : Transport) : ReconnectorEvent → Option Transport
  | .wake =>
      match t.reconnector with
      | .waiting =>
          if t.wakes = 0 then none
          else some { t with wakes := t.wakes - 1, reconnector := .woken }
      | _ => none
  | .join =>
      match t.reconnector, t.reader with
      | .woken, .ended => some { t with reconnector := .joined }
      | _, _ => none
  | .disconnect =>
      match t.reconnector with
      | .joined =>
          some { t with connection := t.connection.disconnect, reconnector := .retrying }
      | _ => none
  | .giveUp =>
      match t.reconnector with
      | .retrying => if t.stopping then some { t with reconnector := .ended } else none
      | _ => none
  | .connect configured =>
      match t.reconnector with
      | .retrying =>
          let t := { t with sockets := t.sockets + 1 }
          if configured then some { t with reconnector := .connected (t.sockets - 1) }
          else some t
      | _ => none
  | .readViewport =>
      match t.reconnector with
      | .connected socket => some { t with reconnector := .viewportRead socket t.remoteViewport }
      | _ => none
  | .hello outcome =>
      match t.reconnector with
      | .viewportRead socket viewport =>
          let wire := t.wire ++
            [writeAll socket (helloMessage viewport t.pixelFormats) viewport outcome]
          match outcome with
          | .written => some { t with wire, reconnector := .greeted socket viewport }
          | .failed _ => some { t with wire, reconnector := .retrying }
      | _ => none
  | .cloneFailed =>
      match t.reconnector with
      | .greeted _ _ => some { t with reconnector := .panicked }
      | _ => none
  | .install =>
      match t.reconnector with
      | .greeted socket _ =>
          -- `stopping` is read under the lock of the connection
          if t.stopping then some { t with reconnector := .ended }
          else
            some
              { t with
                connection := t.connection.reconnect socket
                reconnector := .installed socket }
      | _ => none
  | .spawnReader =>
      match t.reconnector with
      | .installed socket => some { t with reader := .reading socket, reconnector := .waiting }
      | _ => none
  | .spawnFailed =>
      match t.reconnector with
      | .installed _ => some { t with reconnector := .panicked }
      | _ => none

/-- One step of one thread. -/
def transportStep (t : Transport) : TransportEvent → Option Transport
  | .main event => mainStep t event
  | .writer event => writerStep t event
  | .reader event => readerStep t event
  | .reconnector event => reconnectorStep t event

end PaperPad.Device
