import PaperPad.Protocol.Incremental
import PaperPad.Protocol.RoundTrip
import PaperPad.Support.StreamReader

/-!
# Protocol — Reader

The exact read both ends of a connection make of one message: `read_v2_message` of
`tools/paperspoon/src/inbound.rs` and `read_v2_frame` of `src/net/mod.rs` read a header, ask for
what the decoder says is missing, and decode again.  They differ in the texts of two errors that
`readComplete` takes as arguments, and in what they make of the message.

Whatever the outcome, a read stops at the end of the message in front, as far as its header tells
(`readComplete_input`).
-/

namespace PaperPad.Protocol

open StreamReader

/-! ### Error texts -/

/-- `{:?}` of a message type. -/
def V2MessageType.debug : V2MessageType → String
  | .hello => "Hello"
  | .pointerDown => "PointerDown"
  | .pointerUp => "PointerUp"
  | .viewportChanged => "ViewportChanged"
  | .frame => "Frame"

/-- `{magic:02x?}`. -/
def hexBytes (bytes : List UInt8) : String :=
  "[" ++ ", ".intercalate (bytes.map hexByte) ++ "]"

/-- `{flags:04x}`. -/
def hexWord (word : UInt16) : String := hexByte (word >>> 8).toUInt8 ++ hexByte word.toUInt8

/-- `{value:x}`. -/
def hexDigits (value : UInt32) : String := String.ofList (Nat.toDigits 16 value.toNat)

/-- The `Display` text of a `V2DecodeError`. -/
def V2DecodeError.display : V2DecodeError → String
  | .invalidMagic magic => "invalid protocol-v2 magic " ++ hexBytes magic
  | .unsupportedVersion version => s!"unsupported protocol version {version}"
  | .unknownMessageType messageType => s!"unknown protocol-v2 message type {messageType}"
  | .nonZeroFlags flags => s!"protocol-v2 reserved flags must be zero, got 0x{hexWord flags}"
  | .payloadTooLarge length maximum =>
      s!"protocol-v2 payload is {length} bytes, maximum is {maximum}"

/-- The `Display` text of a `V2PayloadError`. -/
def V2PayloadError.display : V2PayloadError → String
  | .invalidLength messageType expected actual =>
      s!"{messageType.debug} payload must be {expected} bytes, got {actual}"
  | .truncatedFrameMetadata minimum actual =>
      s!"Frame payload needs at least {minimum} metadata bytes, got {actual}"
  | .helloVersion version => s!"Hello advertises unsupported version {version}"
  | .unsupportedPixelFormatMask mask =>
      s!"Hello has unsupported pixel-format mask 0x{hexByte mask}"
  | .unsupportedPixelFormat pixelFormat => s!"Frame has unsupported pixel format {pixelFormat}"
  | .nonZeroReserved messageType value =>
      s!"{messageType.debug} reserved payload bytes must be zero, got 0x{hexDigits value}"
  | .mono1 error => s!"invalid Mono1 frame payload: {error.display}"
  | .gray8 error => s!"invalid Gray8 frame payload: {error.display}"

/-! ### Reads of bytes -/

/-- The kinds the readers make. -/
inductive IoErrorKind where
  | unexpectedEof
  | invalidData
  deriving DecidableEq, Repr

/-- An error of a read. -/
structure IoError where
  kind : IoErrorKind
  message : String
  deriving DecidableEq

/-- The error of a `read_exact` that the stream ends in. -/
def failedToFill : IoError := ⟨.unexpectedEof, "failed to fill whole buffer"⟩

/-- `invalid_data`: the text of an error. -/
def invalidData {ε β : Type} (display : ε → String) (x : Except ε β) : Except IoError β :=
  x.mapError fun error => ⟨.invalidData, display error⟩

theorem invalidData_eq_ok {ε β : Type} {display : ε → String} {x : Except ε β} {b : β} :
    invalidData display x = .ok b ↔ x = .ok b := by
  rw [invalidData, Except.mapError_eq_ok]

/-- What is read from. -/
abbrev ByteReader := Input UInt8

/-- A read of bytes. -/
abbrev ByteRead (β : Type) := Read UInt8 IoError β

/-- `read_exact`. -/
def readExact (n : Nat) : ByteRead (List UInt8) := Read.exactly failedToFill n

/-- How many bytes the decoder says are missing. -/
def V2DecodeResult.additional : V2DecodeResult → Nat
  | .incomplete additional => additional
  | .complete _ _ => 0

/-- `encoded.resize` and the second exact read. -/
def readAdditional (encoded : List UInt8) (additional : Nat) : ByteRead (List UInt8) :=
  if additional > 0 then do
    let payload ← readExact additional
    return encoded ++ payload
  else pure encoded

/-- The second decoding, of all that was read. -/
def decodeWhole (remainedIncomplete notConsumed : IoError) (encoded : List UInt8) :
    Except IoError V2Message := do
  match ← invalidData V2DecodeError.display (decodeV2Message encoded) with
  | .incomplete _ => throw remainedIncomplete
  | .complete message consumed =>
      if consumed ≠ encoded.length then throw notConsumed
      return message

/-- One message and the bytes it was read from. -/
def readComplete (remainedIncomplete notConsumed : IoError) :
    ByteRead (V2Message × List UInt8) := do
  let header ← readExact V2_HEADER_LEN
  let first ← Read.result (invalidData V2DecodeError.display (decodeV2Message header))
  let encoded ← readAdditional header first.additional
  let message ← Read.result (decodeWhole remainedIncomplete notConsumed encoded)
  return (message, encoded)

/-- What is encoded is what both decoders accept, in front of anything. -/
theorem encode_iff_decodes [Platform] {m : Message} {w : List UInt8} (rest : List UInt8) :
    m.encode = .ok w ↔ ∃ msg, decodeV2Message (w ++ rest) = .ok (.complete msg w.length) ∧
      decodeV2Payload msg = .ok m.payload := by
  constructor
  · intro h
    obtain ⟨hd, ht, hl, rfl⟩ := Message.encode_eq_ok.mp h
    refine ⟨⟨hd, m.body⟩, ?_, decodeV2Payload_body m ht⟩
    rw [decodeV2Message_encode hd hl, List.length_append, V2Header.encode_length]
  · rintro ⟨msg, hc, hp⟩
    obtain ⟨-, -, hl, htake⟩ := decodeV2Message_complete hc
    obtain ⟨m', hm, ht, hb⟩ := decodeV2Payload_eq_ok hp
    obtain rfl : m = m' := payload_injective hm
    rw [List.take_left] at htake
    exact Message.encode_eq_ok.mpr ⟨msg.header, ht, by rw [hl, hb], by rw [htake, hb]⟩

theorem encode_ne_nil {m : Message} {w : List UInt8} (h : m.encode = .ok w) : w ≠ [] :=
  encodeV2Message_ne_nil (m.encode_eq ▸ h)

/-! ### The end of a message -/

/-- The end of the message in front of `stream`, as far as its header tells. -/
def messageEnd (stream : List UInt8) : Nat :=
  if stream.length < V2_HEADER_LEN then V2_HEADER_LEN
  else
    match readHeader stream with
    | .error _ => V2_HEADER_LEN
    | .ok header => header.messageLen

/-- The input with the message in front read. -/
def pastMessage (r : ByteReader) : ByteReader :=
  ⟨r.rest.drop (messageEnd r.rest), r.asked + messageEnd r.rest⟩

/-- The input after a read that looks for the end of the stream first. -/
def pastNext (r : ByteReader) : ByteReader := if r.rest = [] then r else pastMessage r

/-- A read that stays within the message in front: it asks for no more than a message can have,
and takes nothing behind the end the header tells, nor anything that follows an encoding. -/
structure Confined {β : Type} (read : ByteRead β) : Prop where
  asked_le : ∀ r, (read r).2.asked ≤ r.asked + (V2_HEADER_LEN + V2_MAX_PAYLOAD_LEN)
  consumed_le : ∀ r, ∃ n, n ≤ messageEnd r.rest ∧ (read r).2.rest = r.rest.drop n
  kept : ∀ r (m : Message) w t, m.encode = .ok w → r.rest = w ++ t → (read r).2.rest = t

theorem V2Header.messageLen_le (h : V2Header) :
    h.messageLen ≤ V2_HEADER_LEN + V2_MAX_PAYLOAD_LEN :=
  Nat.add_le_add_left h.bounded _

theorem messageEnd_le (stream : List UInt8) :
    messageEnd stream ≤ V2_HEADER_LEN + V2_MAX_PAYLOAD_LEN := by
  simp only [messageEnd]
  split
  · exact Nat.le_add_right _ _
  · split
    · exact Nat.le_add_right _ _
    · exact V2Header.messageLen_le _

/-- An encoding ends where its header says. -/
theorem messageEnd_encode {m : Message} {w : List UInt8} (h : m.encode = .ok w)
    (t : List UInt8) : messageEnd (w ++ t) = w.length := by
  let _ : Platform := .usize64
  obtain ⟨msg, hd, -⟩ := (encode_iff_decodes t).mp h
  obtain ⟨hl, hr, hn, -, -⟩ := header_of_complete hd
  rw [messageEnd, if_neg (not_lt.mpr hl), hr, hn]

theorem Confined.of_input {β : Type} {read : ByteRead β} (h : ∀ r, (read r).2 = pastNext r) :
    Confined read where
  asked_le r := by
    rw [h, pastNext]
    split_ifs
    · exact Nat.le_add_right _ _
    · exact Nat.add_le_add_left (messageEnd_le _) _
  consumed_le r := by
    rw [h, pastNext]
    split_ifs
    · exact ⟨0, Nat.zero_le _, rfl⟩
    · exact ⟨_, le_rfl, rfl⟩
  kept r m w t hw hr := by
    have hne : r.rest ≠ [] := by
      intro hnil
      rw [hr] at hnil
      exact encode_ne_nil hw (List.append_eq_nil_iff.mp hnil).1
    rw [h, pastNext, if_neg hne, pastMessage, hr, messageEnd_encode hw, List.drop_left]

section ReadComplete

variable {r : ByteReader} {remainedIncomplete notConsumed : IoError}

theorem readExact_of_le {n : Nat} (h : n ≤ r.rest.length) :
    readExact n r = (.ok (r.rest.take n), ⟨r.rest.drop n, r.asked + n⟩) := by
  rw [readExact, Read.exactly, if_pos h]

theorem readExact_of_lt {n : Nat} (h : r.rest.length < n) :
    readExact n r = (.error failedToFill, ⟨[], r.asked + n⟩) := by
  rw [readExact, Read.exactly, if_neg (not_le.mpr h)]

theorem readAdditional_of_le {encoded : List UInt8} {n : Nat} (h₀ : 0 < n)
    (h : n ≤ r.rest.length) :
    readAdditional encoded n r =
      (.ok (encoded ++ r.rest.take n), ⟨r.rest.drop n, r.asked + n⟩) := by
  rw [readAdditional, if_pos h₀, Read.bind_of_ok (readExact_of_le h)]
  rfl

theorem readAdditional_of_lt {encoded : List UInt8} {n : Nat} (h : r.rest.length < n) :
    readAdditional encoded n r = (.error failedToFill, ⟨[], r.asked + n⟩) := by
  rw [readAdditional, if_pos (Nat.zero_lt_of_lt h)]
  exact Read.bind_of_error (readExact_of_lt h)

theorem readHeader_take (h : V2_HEADER_LEN ≤ r.rest.length) :
    readHeader (r.rest.take V2_HEADER_LEN) = readHeader r.rest := by
  have hl : V2_HEADER_LEN ≤ (r.rest.take V2_HEADER_LEN).length := by
    rw [List.length_take, min_eq_left h]
  rw [← readHeader_append (r.rest.drop V2_HEADER_LEN) hl, List.take_append_drop]

/-- The stream ends in a header. -/
theorem readComplete_short (h : r.rest.length < V2_HEADER_LEN) :
    readComplete remainedIncomplete notConsumed r =
      (.error failedToFill, ⟨[], r.asked + V2_HEADER_LEN⟩) :=
  Read.bind_of_error (readExact_of_lt h)

/-- The header is rejected before any of its payload is read. -/
theorem readComplete_invalid {e : V2DecodeError} (h : V2_HEADER_LEN ≤ r.rest.length)
    (he : readHeader r.rest = .error e) :
    readComplete remainedIncomplete notConsumed r =
      (.error ⟨.invalidData, e.display⟩,
        ⟨r.rest.drop V2_HEADER_LEN, r.asked + V2_HEADER_LEN⟩) := by
  have hl : V2_HEADER_LEN ≤ (r.rest.take V2_HEADER_LEN).length := by
    rw [List.length_take, min_eq_left h]
  have hd : decodeV2Message (r.rest.take V2_HEADER_LEN) = .error e := by
    rw [decodeV2Message_eq hl, readHeader_take h, he]
    rfl
  rw [readComplete, Read.bind_of_ok (readExact_of_le h), hd]
  rfl

/-- What the decoder makes of the header alone, and of the whole message. -/
theorem decodeV2Message_take {hd : V2Header} {n : Nat} (h : V2_HEADER_LEN ≤ r.rest.length)
    (hr : readHeader r.rest = .ok hd) (hn : V2_HEADER_LEN ≤ n) :
    decodeV2Message (r.rest.take n) = .ok (framed (r.rest.take n) hd) := by
  have hl : V2_HEADER_LEN ≤ (r.rest.take n).length := by
    rw [List.length_take]
    exact le_min hn h
  have hn' : readHeader (r.rest.take n) = .ok hd := by
    rw [← readHeader_append (r.rest.drop n) hl, List.take_append_drop, hr]
  rw [decodeV2Message_eq hl, hn']
  rfl

/-- All that a header announces decodes to its message. -/
theorem decodeWhole_take {hd : V2Header} (h : V2_HEADER_LEN ≤ r.rest.length)
    (hr : readHeader r.rest = .ok hd) (hw : hd.messageLen ≤ r.rest.length) :
    decodeWhole remainedIncomplete notConsumed (r.rest.take hd.messageLen) =
      .ok ⟨hd, slice r.rest V2_HEADER_LEN hd.messageLen⟩ := by
  have hlen : (r.rest.take hd.messageLen).length = hd.messageLen := by
    rw [List.length_take, min_eq_left hw]
  have hslice : slice (r.rest.take hd.messageLen) V2_HEADER_LEN hd.messageLen =
      slice r.rest V2_HEADER_LEN hd.messageLen := by
    rw [← slice_append (r.rest.drop hd.messageLen) hlen.ge, List.take_append_drop]
  have hle : V2_HEADER_LEN ≤ hd.messageLen := Nat.le_add_right _ _
  rw [decodeWhole, decodeV2Message_take h hr hle, framed, hlen, if_neg (lt_irrefl _), hslice]
  simp [invalidData, Except.mapError, bind, Except.bind, pure, Except.pure]

/-- The read of all that a header announces. -/
theorem readComplete_of_header {hd : V2Header} (h : V2_HEADER_LEN ≤ r.rest.length)
    (hr : readHeader r.rest = .ok hd) :
    readComplete remainedIncomplete notConsumed r =
      if hd.messageLen ≤ r.rest.length then
        (.ok (⟨hd, slice r.rest V2_HEADER_LEN hd.messageLen⟩, r.rest.take hd.messageLen),
          ⟨r.rest.drop hd.messageLen, r.asked + hd.messageLen⟩)
      else (.error failedToFill, ⟨[], r.asked + hd.messageLen⟩) := by
  have hle : V2_HEADER_LEN ≤ hd.messageLen := Nat.le_add_right _ _
  have hlen : (r.rest.take V2_HEADER_LEN).length = V2_HEADER_LEN := by
    rw [List.length_take, min_eq_left h]
  have hasked : r.asked + V2_HEADER_LEN + (hd.messageLen - V2_HEADER_LEN) =
      r.asked + hd.messageLen := by omega
  have hfirst : Read.result (invalidData V2DecodeError.display
      (decodeV2Message (r.rest.take V2_HEADER_LEN)))
        ⟨r.rest.drop V2_HEADER_LEN, r.asked + V2_HEADER_LEN⟩ =
      (.ok (framed (r.rest.take V2_HEADER_LEN) hd),
        ⟨r.rest.drop V2_HEADER_LEN, r.asked + V2_HEADER_LEN⟩) := by
    rw [decodeV2Message_take h hr le_rfl]
    rfl
  rw [readComplete, Read.bind_of_ok (readExact_of_le h), Read.bind_of_ok hfirst, framed, hlen]
  by_cases hp : V2_HEADER_LEN < hd.messageLen
  · -- the header announces a payload, which is asked for
    have hadd : 0 < hd.messageLen - V2_HEADER_LEN := Nat.sub_pos_of_lt hp
    rw [if_pos hp, V2DecodeResult.additional]
    by_cases hw : hd.messageLen ≤ r.rest.length
    · have hrest : hd.messageLen - V2_HEADER_LEN ≤ (r.rest.drop V2_HEADER_LEN).length := by
        rw [List.length_drop]
        omega
      have hcat : r.rest.take V2_HEADER_LEN ++
          (r.rest.drop V2_HEADER_LEN).take (hd.messageLen - V2_HEADER_LEN) =
            r.rest.take hd.messageLen := by
        rw [← List.take_add, Nat.add_sub_cancel' hle]
      rw [if_pos hw, Read.bind_of_ok (readAdditional_of_le hadd hrest), hcat,
        decodeWhole_take h hr hw, hasked, List.drop_drop, Nat.add_sub_cancel' hle]
      rfl
    · have hrest : (r.rest.drop V2_HEADER_LEN).length < hd.messageLen - V2_HEADER_LEN := by
        rw [List.length_drop]
        omega
      rw [if_neg hw, Read.bind_of_error (readAdditional_of_lt hrest), hasked]
  · -- the header is the whole message
    have heq : V2_HEADER_LEN = hd.messageLen := by omega
    rw [if_neg hp, V2DecodeResult.additional, readAdditional, if_neg (lt_irrefl _), heq]
    rw [if_pos (heq ▸ h), Read.bind_of_ok (Read.pure_apply _), decodeWhole_take h hr (heq ▸ h),
      ← heq]
    rfl

/-- **A read stops at the end of the message**, whatever its outcome. -/
theorem readComplete_input :
    (readComplete remainedIncomplete notConsumed r).2 = pastMessage r := by
  rw [pastMessage, messageEnd]
  by_cases h : r.rest.length < V2_HEADER_LEN
  · rw [readComplete_short h, if_pos h, List.drop_eq_nil_of_le h.le]
  · have h := not_lt.mp h
    rw [if_neg (not_lt.mpr h)]
    cases hr : readHeader r.rest with
    | error e => rw [readComplete_invalid h hr]
    | ok hd =>
        rw [readComplete_of_header h hr]
        by_cases hw : hd.messageLen ≤ r.rest.length
        · rw [if_pos hw]
        · rw [if_neg hw, List.drop_eq_nil_of_le (Nat.le_of_not_le hw)]

/-- **What a read returns** is the message in front, with its bytes. -/
theorem readComplete_eq_ok {r' : ByteReader} {m : V2Message} {encoded : List UInt8} :
    readComplete remainedIncomplete notConsumed r = (.ok (m, encoded), r') ↔
      decodeV2Message r.rest = .ok (.complete m encoded.length) ∧
        r.rest = encoded ++ r'.rest ∧ r'.asked = r.asked + encoded.length := by
  constructor
  · intro hm
    by_cases h : r.rest.length < V2_HEADER_LEN
    · rw [readComplete_short h] at hm
      cases hm
    · have h := not_lt.mp h
      cases hr : readHeader r.rest with
      | error e =>
          rw [readComplete_invalid h hr] at hm
          cases hm
      | ok hd =>
          rw [readComplete_of_header h hr] at hm
          by_cases hw : hd.messageLen ≤ r.rest.length
          · rw [if_pos hw] at hm
            have hlen : (r.rest.take hd.messageLen).length = hd.messageLen := by
              rw [List.length_take, min_eq_left hw]
            cases hm
            rw [decodeV2Message_eq h, hr, hlen]
            refine ⟨?_, (List.take_append_drop _ _).symm, rfl⟩
            exact congrArg Except.ok (if_neg (not_lt.mpr hw))
          · rw [if_neg hw] at hm
            cases hm
  · rintro ⟨hm, hrest, hasked⟩
    obtain ⟨h, hr, hn, hw, hp⟩ := header_of_complete hm
    have htake : r.rest.take m.header.messageLen = encoded := by
      rw [← hn, hrest, List.take_left]
    have hdrop : r.rest.drop m.header.messageLen = r'.rest := by
      rw [← hn, hrest, List.drop_left]
    rw [readComplete_of_header h hr, if_pos (hn ▸ hw), htake, hdrop, ← hn, ← hp, ← hasked]

end ReadComplete

end PaperPad.Protocol
