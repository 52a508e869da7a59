import PaperPad.Device.Transport

/-!
# Device — Moves

What each thread can do, read off its step function once: the outcomes of an event, each with what
the thread has found there.  Every fact about a step is a case analysis of these.
-/

namespace PaperPad.Device

open Protocol

/-! ### The main thread -/

/-- What the main thread can do. -/
inductive MainMove (t : Transport) : MainEvent → Transport → Prop where
  | promote (hr : t.reconnector = .absent) (hm : t.main = .idle ∨ ∃ v, t.main = .announcing v) :
      MainMove t .promote t.fromStream
  | storeViewport {v : Viewport} (hm : t.main = .idle) :
      MainMove t (.storeViewport v)
        { t with remoteViewport := v, main := .stored v t.remoteViewport }
  | setMailbox {v previous : Viewport} (hm : t.main = .stored v previous) :
      MainMove t .setMailbox
        { t with
          frames := t.frames.setViewport v
          main := if previous = v then .idle else .announcing v }
  | viewportFound {v : Viewport} {token : Nat} (hm : t.main = .announcing v)
      (hc : t.connection.currentToken = .ok token) :
      MainMove t .lookupViewport { t with main := .announceTo v token }
  | viewportOffline {v : Viewport} {error : String} (hm : t.main = .announcing v)
      (hc : t.connection.currentToken = .error error) :
      MainMove t .lookupViewport { t with main := .idle }
  | viewportQueued {v : Viewport} {token : Nat} {queue : List QueuedOutbound}
      (hm : t.main = .announceTo v token)
      (hq : t.enqueueOutbound ⟨token, .viewportChanged ⟨v.1, v.2⟩, t.remoteViewport⟩ = .ok queue) :
      MainMove t .enqueueViewport { t with queue, main := .idle }
  | viewportRefused {v : Viewport} {token : Nat} {error : String}
      (hm : t.main = .announceTo v token)
      (hq : t.enqueueOutbound ⟨token, .viewportChanged ⟨v.1, v.2⟩, t.remoteViewport⟩ =
        .error error) :
      MainMove t .enqueueViewport { t with main := .announceFailed }
  | closeAfterFull (hm : t.main = .announceFailed) :
      MainMove t .closeAfterFull { t with connection := t.connection.disconnect, main := .idle }
  | pointerFound {p : V2Pointer} {token : Nat} (hm : t.main = .idle)
      (hc : t.connection.currentToken = .ok token) :
      MainMove t (.lookupPointer p) { t with main := .pointerTo p token }
  | pointerOffline {p : V2Pointer} (hm : t.main = .idle) : MainMove t (.lookupPointer p) t
  | pointerQueued {p : V2Pointer} {token : Nat} {queue : List QueuedOutbound}
      (hm : t.main = .pointerTo p token)
      (hq : t.enqueueOutbound ⟨token, .pointer p, t.remoteViewport⟩ = .ok queue) :
      MainMove t .enqueuePointer { t with queue, main := .idle }
  | pointerRefused {p : V2Pointer} {token : Nat} {error : String}
      (hm : t.main = .pointerTo p token)
      (hq : t.enqueueOutbound ⟨token, .pointer p, t.remoteViewport⟩ = .error error) :
      MainMove t .enqueuePointer { t with main := .idle }
  | pollFrame (hm : t.main = .idle) : MainMove t .pollFrame { t with frames := t.frames.take.1 }
  | dropStop (hm : t.main = .idle) :
      MainMove t .dropStop { t with stopping := true, main := .stopping }
  | dropDisconnect (hm : t.main = .stopping) :
      MainMove t .dropDisconnect
        { t with connection := t.connection.disconnect, main := .disconnected }
  | dropWake (hm : t.main = .disconnected) :
      MainMove t .dropWake { t with wakes := t.wakes + 1, main := .dropped }

/-- A step of the main thread is one of its moves. -/
theorem mainStep_move {t u : Transport} {e : MainEvent} (k : mainStep t e = some u) :
    MainMove t e u := by
  cases e with
  | promote =>
      simp only [mainStep] at k
      split at k
      · next hr hm => cases k; exact .promote hr (.inl hm)
      · next v hr hm => cases k; exact .promote hr (.inr ⟨v, hm⟩)
      · cases k
  | storeViewport v =>
      simp only [mainStep] at k
      split at k
      · next hm => cases k; exact .storeViewport hm
      · cases k
  | setMailbox =>
      simp only [mainStep] at k
      split at k
      · next hm => cases k; exact .setMailbox hm
      · cases k
  | lookupViewport =>
      simp only [mainStep] at k
      split at k
      · next hm =>
          split at k
          · next hc => cases k; exact .viewportFound hm hc
          · next hc => cases k; exact .viewportOffline hm hc
      · cases k
  | enqueueViewport =>
      simp only [mainStep] at k
      split at k
      · next hm =>
          split at k
          · next hq => cases k; exact .viewportQueued hm hq
          · next hq => cases k; exact .viewportRefused hm hq
      · cases k
  | closeAfterFull =>
      simp only [mainStep] at k
      split at k
      · next hm => cases k; exact .closeAfterFull hm
      · cases k
  | lookupPointer p =>
      simp only [mainStep] at k
      split at k
      · next hm =>
          split at k
          · next hc => cases k; exact .pointerFound hm hc
          · cases k; exact .pointerOffline hm
      · cases k
  | enqueuePointer =>
      simp only [mainStep] at k
      split at k
      · next hm =>
          split at k
          · next hq => cases k; exact .pointerQueued hm hq
          · next hq => cases k; exact .pointerRefused hm hq
      · cases k
  | pollFrame =>
      simp only [mainStep] at k
      split at k
      · next hm => cases k; exact .pollFrame hm
      · cases k
  | dropStop =>
      simp only [mainStep] at k
      split at k
      · next hm => cases k; exact .dropStop hm
      · cases k
  | dropDisconnect =>
      simp only [mainStep] at k
      split at k
      · next hm => cases k; exact .dropDisconnect hm
      · cases k
  | dropWake =>
      simp only [mainStep] at k
      split at k
      · next hm => cases k; exact .dropWake hm
      · cases k

/-! ### The writer and the readers -/

/-- What the writer can do. -/
inductive WriterMove (t : Transport) : WriterEvent → Transport → Prop where
  | stop {outbound : QueuedOutbound} {queue : List QueuedOutbound} (hw : t.writer = .idle)
      (hq : t.queue = outbound :: queue) (hs : t.stopping = true) :
      WriterMove t .dequeue { t with queue, writer := .ended }
  | dequeue {outbound : QueuedOutbound} {queue : List QueuedOutbound} (hw : t.writer = .idle)
      (hq : t.queue = outbound :: queue) :
      WriterMove t .dequeue { t with queue, writer := .holding outbound }
  | cloneStream {outbound : QueuedOutbound} (hw : t.writer = .holding outbound)
      (ha : t.connection.active = some outbound.connection) :
      WriterMove t (.cloneStream true) { t with writer := .writing outbound }
  | stale {outbound : QueuedOutbound} {duplicated : Bool} (hw : t.writer = .holding outbound)
      (ha : t.connection.active ≠ some outbound.connection) :
      WriterMove t (.cloneStream duplicated) { t with writer := .idle }
  | cloneFailed {outbound : QueuedOutbound} (hw : t.writer = .holding outbound)
      (ha : t.connection.active = some outbound.connection) :
      WriterMove t (.cloneStream false) { t with writer := .idle }
  | write {outbound : QueuedOutbound} (hw : t.writer = .writing outbound) :
      WriterMove t (.write .written)
        { t with
          wire := t.wire ++
            [writeAll outbound.connection outbound.message outbound.viewport .written]
          writer := .idle }
  | fail {outbound : QueuedOutbound} {n : Nat} (hw : t.writer = .writing outbound) :
      WriterMove t (.write (.failed n))
        { t with
          wire := t.wire ++
            [writeAll outbound.connection outbound.message outbound.viewport (.failed n)]
          writer := .failed outbound.connection }
  | closeAfterFailure {token : Nat} (hw : t.writer = .failed token) :
      WriterMove t .closeAfterFailure
        { t with connection := t.connection.disconnectIfCurrent token, writer := .idle }

/-- A step of the writer is one of its moves. -/
theorem writerStep_move {t u : Transport} {e : WriterEvent} (k : writerStep t e = some u) :
    WriterMove t e u := by
  cases e with
  | dequeue =>
      simp only [writerStep] at k
      split at k
      · next hw hq =>
          split at k
          · next hs => cases k; exact .stop hw hq hs
          · cases k; exact .dequeue hw hq
      · cases k
  | cloneStream duplicated =>
      simp only [writerStep] at k
      split at k
      · next outbound hw =>
          split at k
          · next hc =>
              cases k
              obtain ⟨ha, rfl, rfl⟩ := ConnectionState.cloneStreamFor_eq_ok.mp hc
              exact .cloneStream hw ha
          · next hc =>
              cases k
              by_cases ha : t.connection.active = some outbound.connection
              · obtain rfl : duplicated = false :=
                  (ConnectionState.cloneStreamFor_eq_error hc).resolve_left (not_not.mpr ha)
                exact .cloneFailed hw ha
              · exact .stale hw ha
      · cases k
  | write outcome =>
      simp only [writerStep] at k
      split at k
      · next hw =>
          cases outcome with
          | written => cases k; exact .write hw
          | failed n => cases k; exact .fail hw
      · cases k
  | closeAfterFailure =>
      simp only [writerStep] at k
      split at k
      · next hw => cases k; exact .closeAfterFailure hw
      · cases k

/-- What a reader can do. -/
inductive ReaderMove (t : Transport) : ReaderEvent → Transport → Prop where
  | receive {frameId : UInt64} {frame : Frame} {socket : Nat} (hr : t.reader = .reading socket) :
      ReaderMove t (.receive frameId frame)
        { t with
          reader := .received socket ⟨frameId, frame, t.receivedCount⟩
          receivedCount := t.receivedCount + 1 }
  | publish {socket : Nat} {frame : ReceivedFrame} (hr : t.reader = .received socket frame) :
      ReaderMove t .publish
        { t with frames := (t.frames.publish frame).1, reader := .reading socket }
  | readerEnd {socket : Nat} (hr : t.reader = .reading socket) :
      ReaderMove t .readerEnd { t with reader := .ended, wakes := t.wakes + 1 }

/-- A step of a reader is one of its moves. -/
theorem readerStep_move {t u : Transport} {e : ReaderEvent} (k : readerStep t e = some u) :
    ReaderMove t e u := by
  cases e with
  | receive frameId frame =>
      simp only [readerStep] at k
      split at k
      · next hr => cases k; exact .receive hr
      · cases k
  | publish =>
      simp only [readerStep] at k
      split at k
      · next hr => cases k; exact .publish hr
      · cases k
  | readerEnd =>
      simp only [readerStep] at k
      split at k
      · next hr => cases k; exact .readerEnd hr
      · cases k

/-! ### The reconnector -/

/-- What the reconnector can do. -/
inductive ReconnectorMove (t : Transport) : ReconnectorEvent → Transport → Prop where
  | wake (hr : t.reconnector = .waiting) (hw : t.wakes ≠ 0) :
      ReconnectorMove t .wake { t with wakes := t.wakes - 1, reconnector := .woken }
  | join (hr : t.reconnector = .woken) (he : t.reader = .ended) :
      ReconnectorMove t .join { t with reconnector := .joined }
  | disconnect (hr : t.reconnector = .joined) :
      ReconnectorMove t .disconnect
        { t with connection := t.connection.disconnect, reconnector := .retrying }
  | giveUp (hr : t.reconnector = .retrying) (hs : t.stopping = true) :
      ReconnectorMove t .giveUp { t with reconnector := .ended }
  | connect (hr : t.reconnector = .retrying) :
      ReconnectorMove t (.connect true)
        { t with sockets := t.sockets + 1, reconnector := .connected t.sockets }
  | unconfigured (hr : t.reconnector = .retrying) :
      ReconnectorMove t (.connect false) { t with sockets := t.sockets + 1 }
  | readViewport {socket : Nat} (hr : t.reconnector = .connected socket) :
      ReconnectorMove t .readViewport
        { t with reconnector := .viewportRead socket t.remoteViewport }
  | greet {socket : Nat} {v : Viewport} (hr : t.reconnector = .viewportRead socket v) :
      ReconnectorMove t (.hello .written)
        { t with
          wire := t.wire ++ [writeAll socket (helloMessage v t.pixelFormats) v .written]
          reconnector := .greeted socket v }
  | greetFailed {socket n : Nat} {v : Viewport}
      (hr : t.reconnector = .viewportRead socket v) :
      ReconnectorMove t (.hello (.failed n))
        { t with
          wire := t.wire ++ [writeAll socket (helloMessage v t.pixelFormats) v (.failed n)]
          reconnector := .retrying }
  | cloneFailed {socket : Nat} {v : Viewport} (hr : t.reconnector = .greeted socket v) :
      ReconnectorMove t .cloneFailed { t with reconnector := .panicked }
  | stop {socket : Nat} {v : Viewport} (hr : t.reconnector = .greeted socket v)
      (hs : t.stopping = true) :
      ReconnectorMove t .install { t with reconnector := .ended }
  | install {socket : Nat} {v : Viewport} (hr : t.reconnector = .greeted socket v)
      (hs : t.stopping = false) :
      ReconnectorMove t .install
        { t with connection := t.connection.reconnect socket, reconnector := .installed socket }
  | spawnReader {socket : Nat} (hr : t.reconnector = .installed socket) :
      ReconnectorMove t .spawnReader
        { t with reader := .reading socket, reconnector := .waiting }
  | spawnFailed {socket : Nat} (hr : t.reconnector = .installed socket) :
      ReconnectorMove t .spawnFailed { t with reconnector := .panicked }

/-- A step of the reconnector is one of its moves. -/
theorem reconnectorStep_move {t u : Transport} {e : ReconnectorEvent}
    (k : reconnectorStep t e = some u) : ReconnectorMove t e u := by
  cases e with
  | wake =>
      simp only [reconnectorStep] at k
      split at k
      · next hr =>
          split at k
          · cases k
          · next hw => cases k; exact .wake hr hw
      · cases k
  | join =>
      simp only [reconnectorStep] at k
      split at k
      · next hr he => cases k; exact .join hr he
      · cases k
  | disconnect =>
      simp only [reconnectorStep] at k
      split at k
      · next hr => cases k; exact .disconnect hr
      · cases k
  | giveUp =>
      simp only [reconnectorStep] at k
      split at k
      · next hr =>
          split at k
          · next hs => cases k; exact .giveUp hr hs
          · cases k
      · cases k
  | connect configured =>
      simp only [reconnectorStep] at k
      split at k
      · next hr =>
          cases configured with
          | true => cases k; exact .connect hr
          | false => cases k; exact .unconfigured hr
      · cases k
  | readViewport =>
      simp only [reconnectorStep] at k
      split at k
      · next hr => cases k; exact .readViewport hr
      · cases k
  | hello outcome =>
      simp only [reconnectorStep] at k
      split at k
      · next hr =>
          cases outcome with
          | written => cases k; exact .greet hr
          | failed n => cases k; exact .greetFailed hr
      · cases k
  | cloneFailed =>
      simp only [reconnectorStep] at k
      split at k
      · next hr => cases k; exact .cloneFailed hr
      · cases k
  | install =>
      simp only [reconnectorStep] at k
      split at k
      · next hr =>
          split at k
          · next hs => cases k; exact .stop hr hs
          · next hs => cases k; exact .install hr (Bool.eq_false_iff.mpr hs)
      · cases k
  | spawnReader =>
      simp only [reconnectorStep] at k
      split at k
      · next hr => cases k; exact .spawnReader hr
      · cases k
  | spawnFailed =>
      simp only [reconnectorStep] at k
      split at k
      · next hr => cases k; exact .spawnFailed hr
      · cases k

/-! ### All threads -/

/-- What a step of the transport can do. -/
inductive Move (t : Transport) : TransportEvent → Transport → Prop where
  | main {e : MainEvent} {u : Transport} (m : MainMove t e u) : Move t (.main e) u
  | writer {e : WriterEvent} {u : Transport} (m : WriterMove t e u) : Move t (.writer e) u
  | reader {e : ReaderEvent} {u : Transport} (m : ReaderMove t e u) : Move t (.reader e) u
  | reconnector {e : ReconnectorEvent} {u : Transport} (m : ReconnectorMove t e u) :
      Move t (.reconnector e) u

variable {t u : Transport} {e : TransportEvent}

/-- **What a step can do.** -/
theorem transportStep_move (k : transportStep t e = some u) : Move t e u := by
  cases e with
  | main e => exact .main (mainStep_move k)
  | writer e => exact .writer (writerStep_move k)
  | reader e => exact .reader (readerStep_move k)
  | reconnector e => exact .reconnector (reconnectorStep_move k)

/-- Only `promote` brings a transport online, and `stopping` stays set. -/
theorem transportStep_absent (he : e ≠ .main .promote) (k : transportStep t e = some u) :
    (u.reconnector = .absent ↔ t.reconnector = .absent) ∧
      (u.stopping = false → t.stopping = false) := by
  cases transportStep_move k with
  | main m =>
      cases m with
      | promote => exact absurd rfl he
      | dropStop => exact ⟨Iff.rfl, nofun⟩
      | _ => exact ⟨Iff.rfl, id⟩
  | writer m => cases m <;> exact ⟨Iff.rfl, id⟩
  | reader m => cases m <;> exact ⟨Iff.rfl, id⟩
  | reconnector m =>
      cases m with
      | _ hr => exact ⟨by simp [hr], id⟩

/-- Only `drop` sets `stopping`. -/
theorem transportStep_stopping (he : e ≠ .main .dropStop) (k : transportStep t e = some u) :
    u.stopping = t.stopping := by
  cases transportStep_move k with
  | main m =>
      cases m with
      | dropStop => exact absurd rfl he
      | _ => rfl
  | writer m => cases m <;> rfl
  | reader m => cases m <;> rfl
  | reconnector m => cases m <;> rfl

end PaperPad.Device
