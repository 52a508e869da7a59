import PaperPad.Protocol.Reader

/-!
# Host — Inbound

Session and pointer framing from PaperPad: `tools/paperspoon/src/inbound.rs`.

A session is a Hello and then pointer and viewport messages.  `helloReader` and `sessionReader`
are the two session reads with the code words each accepts.
-/

namespace PaperPad.Host

open Protocol StreamReader

/-- A message of the device. -/
inductive InboundMessage where
  | hello (hello : V2Hello)
  | pointer (pointer : V2Pointer)
  | viewportChanged (viewport : V2Viewport)
  deriving DecidableEq

/-- A message behind the Hello. -/
inductive SessionMessage where
  | pointer (pointer : V2Pointer)
  | viewportChanged (viewport : V2Viewport)
  deriving DecidableEq

/-- The message as its sender has it. -/
def InboundMessage.toMessage : InboundMessage → Message
  | hello h => .hello h
  | pointer p => .pointer p
  | viewportChanged v => .viewportChanged v

/-- It is a message of the device. -/
def SessionMessage.toInbound : SessionMessage → InboundMessage
  | pointer p => .pointer p
  | viewportChanged v => .viewportChanged v

/-- `w` is the encoding of this Hello. -/
def HelloEncoding (hello : V2Hello) (w : List UInt8) : Prop := hello.encodeMessage = .ok w

/-- `w` is the encoding of this message. -/
def SessionEncoding : SessionMessage → List UInt8 → Prop
  | .pointer p, w => p.encodeMessage = .ok w
  | .viewportChanged v, w => v.encodeMessage = .ok w

section Reads

variable [Platform]

/-- `read_v2_message`. -/
def readV2Message : ByteRead InboundMessage := do
  let (message, _) ← readComplete
    ⟨.unexpectedEof, "protocol-v2 message remained incomplete after exact read"⟩
    ⟨.invalidData, "protocol-v2 decoder did not consume complete message"⟩
  match ← Read.result (invalidData V2PayloadError.display (decodeV2Payload message)) with
  | .hello hello => return .hello hello
  | .pointer pointer => return .pointer pointer
  | .viewportChanged viewport => return .viewportChanged viewport
  | .frame _ =>
      let messageType := message.messageType.debug
      throw ⟨.invalidData, s!"unexpected {messageType} message from PaperPad"⟩

/-- Read a message, or nothing where the connection was closed between two. -/
def readInboundMessage : ByteRead (Option InboundMessage) := Read.unlessEnd readV2Message

/-- Read the first message, which must be a Hello. -/
def readSessionHello : ByteRead (Option V2Hello) := do
  match ← readInboundMessage with
  | some (.hello hello) => return some hello
  | some (.pointer _) | some (.viewportChanged _) =>
      throw ⟨.invalidData, "initial PaperPad message was not Hello"⟩
  | none => return none

/-- Read a later one, which must not be. -/
def readSessionMessage : ByteRead (Option SessionMessage) := do
  match ← readInboundMessage with
  | some (.pointer pointer) => return some (.pointer pointer)
  | some (.viewportChanged viewport) => return some (.viewportChanged viewport)
  | some (.hello _) => throw ⟨.invalidData, "duplicate Hello from PaperPad"⟩
  | none => return none

/-! ### What a read accepts -/

variable {r r' : ByteReader}

/-- **One message.**  What is returned is the message whose encoding is in front. -/
theorem readV2Message_eq_ok {m : InboundMessage} :
    readV2Message r = (.ok m, r') ↔ ∃ w, m.toMessage.encode = .ok w ∧
      r.rest = w ++ r'.rest ∧ r'.asked = r.asked + w.length := by
  constructor
  · intro h
    obtain ⟨⟨msg, w⟩, r₁, hc, h⟩ := Read.bind_eq_ok.mp h
    obtain ⟨payload, r₂, hr, h⟩ := Read.bind_eq_ok.mp h
    obtain ⟨hp, rfl⟩ := Read.result_eq_ok.mp hr
    obtain ⟨rfl, rfl⟩ : payload = m.toMessage.payload ∧ r₁ = r' := by
      cases payload <;> cases h <;> exact ⟨rfl, rfl⟩
    obtain ⟨hd, hrest, hasked⟩ := readComplete_eq_ok.mp hc
    rw [hrest] at hd
    exact ⟨w, (encode_iff_decodes _).mpr ⟨msg, hd, invalidData_eq_ok.mp hp⟩, hrest, hasked⟩
  · rintro ⟨w, hw, hrest, hasked⟩
    obtain ⟨msg, hd, hp⟩ := (encode_iff_decodes r'.rest).mp hw
    rw [← hrest] at hd
    rw [readV2Message, Read.bind_of_ok (readComplete_eq_ok.mpr ⟨hd, hrest, hasked⟩)]
    dsimp only
    rw [hp]
    cases m <;> rfl

theorem readInboundMessage_eq_none :
    readInboundMessage r = (.ok none, r') ↔ r.rest = [] ∧ r' = r :=
  Read.unlessEnd_eq_none

theorem readInboundMessage_eq_some {m : InboundMessage} :
    readInboundMessage r = (.ok (some m), r') ↔ ∃ w, m.toMessage.encode = .ok w ∧
      r.rest = w ++ r'.rest ∧ r'.asked = r.asked + w.length := by
  rw [readInboundMessage, Read.unlessEnd_eq_some, readV2Message_eq_ok]
  refine Iff.intro And.right fun h => ⟨?_, h⟩
  obtain ⟨w, hw, hrest, -⟩ := h
  rw [hrest]
  exact List.append_ne_nil_of_left_ne_nil (encode_ne_nil hw) _

theorem readSessionHello_eq_none :
    readSessionHello r = (.ok none, r') ↔ r.rest = [] ∧ r' = r := by
  refine (Read.bind_eq_ok_iff fun m? s s' => ?_).trans readInboundMessage_eq_none
  rcases m? with _ | (hello | pointer | viewport) <;> simp

theorem readSessionHello_eq_some {hello : V2Hello} :
    readSessionHello r = (.ok (some hello), r') ↔
      readInboundMessage r = (.ok (some (.hello hello)), r') := by
  refine Read.bind_eq_ok_iff fun m? s s' => ?_
  rcases m? with _ | (hello | pointer | viewport) <;> simp

theorem readSessionMessage_eq_none :
    readSessionMessage r = (.ok none, r') ↔ r.rest = [] ∧ r' = r := by
  refine (Read.bind_eq_ok_iff fun m? s s' => ?_).trans readInboundMessage_eq_none
  rcases m? with _ | (hello | pointer | viewport) <;> simp

theorem readSessionMessage_eq_some {m : SessionMessage} :
    readSessionMessage r = (.ok (some m), r') ↔
      readInboundMessage r = (.ok (some m.toInbound), r') := by
  refine Read.bind_eq_ok_iff fun m? s s' => ?_
  rcases m? with _ | (hello | pointer | viewport) <;> cases m <;> simp [SessionMessage.toInbound]

/-! ### Where a read stops -/

theorem readV2Message_input (r : ByteReader) : (readV2Message r).2 = pastMessage r := by
  rw [readV2Message, Read.bind_input, readComplete_input]
  rintro ⟨message, _⟩ s
  refine (Read.bind_input fun payload s' => ?_).trans rfl
  cases payload <;> rfl

theorem readInboundMessage_input (r : ByteReader) : (readInboundMessage r).2 = pastNext r := by
  rw [readInboundMessage, Read.unlessEnd_input, readV2Message_input, pastNext]

theorem readSessionHello_confined : Confined readSessionHello :=
  .of_input fun r => (Read.bind_input fun m? _ => by
    rcases m? with _ | (hello | pointer | viewport) <;> rfl).trans (readInboundMessage_input r)

theorem readSessionMessage_confined : Confined readSessionMessage :=
  .of_input fun r => (Read.bind_input fun m? _ => by
    rcases m? with _ | (hello | pointer | viewport) <;> rfl).trans (readInboundMessage_input r)

/-! ### The session -/

/-- `read_session_hello`, with the Hello it accepts. -/
def helloReader : Reader UInt8 V2Hello IoError where
  read := readSessionHello
  Enc := HelloEncoding
  ne_nil _ _ h := encodeV2Message_ne_nil h
  ends_iff := readSessionHello_eq_none
  reads_iff := readSessionHello_eq_some.trans readInboundMessage_eq_some

/-- `read_session_message`, with the messages it accepts. -/
def sessionReader : Reader UInt8 SessionMessage IoError where
  read := readSessionMessage
  Enc := SessionEncoding
  ne_nil m _ h := by cases m <;> exact encodeV2Message_ne_nil h
  ends_iff := readSessionMessage_eq_none
  reads_iff {_ _ m} := by
    rw [readSessionMessage_eq_some, readInboundMessage_eq_some]
    cases m <;> exact Iff.rfl

/-- `read_session_hello` once, then `read_session_message` until it stops. -/
def readSession (r : ByteReader) : Outcome UInt8 (Option V2Hello × List SessionMessage) IoError :=
  helloReader.readThen sessionReader r

end Reads

end PaperPad.Host
