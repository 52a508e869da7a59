import PaperPad.Support.BigEndian
import PaperPad.Support.Fallible

/-!
# Protocol — V2

The message framing of `crates/paper-protocol/src/v2.rs`: a twelve-byte header — magic, version,
type, reserved flags, payload length — and the payload.

A header carries the bound on its payload length, which both of its constructors check
(`V2Header.new` and `decodeV2Message`).
-/

namespace PaperPad.Protocol

/-- `*b"PPFB"`. -/
def V2_MAGIC : List UInt8 := [0x50, 0x50, 0x46, 0x42]

/-- The version of every message. -/
def V2_VERSION : UInt8 := 2

/-- The bytes of a header. -/
def V2_HEADER_LEN : Nat := 12

/-- The most a payload may take. -/
def V2_MAX_PAYLOAD_LEN : Nat := 16 * 1024 * 1024

/-- The types of messages. -/
inductive V2MessageType where
  | hello
  | pointerDown
  | pointerUp
  | viewportChanged
  | frame
  deriving DecidableEq, Repr

/-- Why a payload is not encoded. -/
inductive V2EncodeError where
  | payloadTooLarge (length maximum : Nat)
  deriving DecidableEq

/-- The `Display` text of a `V2EncodeError`. -/
def V2EncodeError.display : V2EncodeError → String
  | .payloadTooLarge length maximum =>
      s!"protocol-v2 payload is {length} bytes, maximum is {maximum}"

/-- Why bytes are no message. -/
inductive V2DecodeError where
  | invalidMagic (magic : List UInt8)
  | unsupportedVersion (version : UInt8)
  | unknownMessageType (messageType : UInt8)
  | nonZeroFlags (flags : UInt16)
  | payloadTooLarge (length maximum : Nat)
  deriving DecidableEq

namespace V2MessageType

/-- `self as u8`. -/
def toByte : V2MessageType → UInt8
  | .hello => 1
  | .pointerDown => 2
  | .pointerUp => 3
  | .viewportChanged => 4
  | .frame => 5

/-- `V2MessageType::try_from`. -/
def tryFrom (value : UInt8) : Except V2DecodeError V2MessageType :=
  if value = 1 then .ok .hello
  else if value = 2 then .ok .pointerDown
  else if value = 3 then .ok .pointerUp
  else if value = 4 then .ok .viewportChanged
  else if value = 5 then .ok .frame
  else .error (.unknownMessageType value)

@[simp] theorem tryFrom_toByte (t : V2MessageType) : tryFrom t.toByte = .ok t := by
  cases t <;> rfl

theorem toByte_of_tryFrom {value : UInt8} {t : V2MessageType} (h : tryFrom value = .ok t) :
    t.toByte = value := by
  simp only [tryFrom] at h
  split_ifs at h with h₁ h₂ h₃ h₄ h₅ <;> cases h <;> exact Eq.symm ‹_›

end V2MessageType

/-- Validated metadata of one message. -/
structure V2Header where
  messageType : V2MessageType
  payloadLen : UInt32
  bounded : payloadLen.toNat ≤ V2_MAX_PAYLOAD_LEN
  deriving DecidableEq

namespace V2Header

theorem toNat_ofNat_of_le {n : Nat} (h : n ≤ V2_MAX_PAYLOAD_LEN) : (UInt32.ofNat n).toNat = n :=
  UInt32.toNat_ofNat_of_lt' (lt_of_le_of_lt h (by decide))

/-- A header for a payload of this length. -/
def new (messageType : V2MessageType) (payloadLen : Nat) : Except V2EncodeError V2Header :=
  if h : payloadLen > V2_MAX_PAYLOAD_LEN then
    .error (.payloadTooLarge payloadLen V2_MAX_PAYLOAD_LEN)
  else
    -- the `u32::try_from` that follows cannot fail under the bound
    .ok ⟨messageType, UInt32.ofNat payloadLen, by rw [toNat_ofNat_of_le (by omega)]; omega⟩

/-- The header in network byte order. -/
def encode (h : V2Header) : List UInt8 :=
  V2_MAGIC ++ [V2_VERSION, h.messageType.toByte] ++ (0 : UInt16).toBeBytes ++ h.payloadLen.toBeBytes

@[simp] theorem encode_length (h : V2Header) : h.encode.length = V2_HEADER_LEN := by
  simp [encode, V2_MAGIC, V2_HEADER_LEN]

theorem new_eq_ok {t : V2MessageType} {n : Nat} {h : V2Header} :
    new t n = .ok h ↔
      n ≤ V2_MAX_PAYLOAD_LEN ∧ h.messageType = t ∧ h.payloadLen.toNat = n := by
  simp only [new]
  split
  · next hn => exact ⟨nofun, fun k => absurd k.1 (by omega)⟩
  · next hn =>
      have hle : n ≤ V2_MAX_PAYLOAD_LEN := by omega
      obtain ⟨mt, len, hb⟩ := h
      simp only [Except.ok.injEq, mk.injEq]
      constructor
      · rintro ⟨rfl, rfl⟩
        exact ⟨hle, rfl, toNat_ofNat_of_le hle⟩
      · rintro ⟨-, rfl, rfl⟩
        exact ⟨rfl, UInt32.ofNat_toNat⟩

end V2Header

/-- One complete message. -/
structure V2Message where
  header : V2Header
  payload : List UInt8
  deriving DecidableEq

/-- Its type. -/
def V2Message.messageType (m : V2Message) : V2MessageType := m.header.messageType

/-- A message and the bytes it took, or how many more it needs. -/
inductive V2DecodeResult where
  | incomplete (additional : Nat)
  | complete (message : V2Message) (consumed : Nat)
  deriving DecidableEq

/-- `&input[start..stop]`. -/
def slice (input : List UInt8) (start stop : Nat) : List UInt8 :=
  (input.drop start).take (stop - start)

theorem length_slice {input : List UInt8} {start stop : Nat} (h : stop ≤ input.length) :
    (slice input start stop).length = stop - start := by
  rw [slice, List.length_take, List.length_drop]
  omega

theorem getElem?_slice {input : List UInt8} {start stop i : Nat} (h : start + i < stop) :
    (slice input start stop)[i]? = input[start + i]? := by
  rw [slice, List.getElem?_take, if_pos (by omega), List.getElem?_drop]

/-- Encode one complete message. -/
def encodeV2Message (messageType : V2MessageType) (payload : List UInt8) :
    Except V2EncodeError (List UInt8) := do
  let header ← V2Header.new messageType payload.length
  return header.encode ++ payload

/-- Decode one message from the start of `input`. -/
def decodeV2Message (input : List UInt8) : Except V2DecodeError V2DecodeResult :=
  if input.length < V2_HEADER_LEN then
    .ok (.incomplete (V2_HEADER_LEN - input.length))
  else if slice input 0 4 ≠ V2_MAGIC then
    .error (.invalidMagic (slice input 0 4))
  else if input.getD 4 0 ≠ V2_VERSION then
    .error (.unsupportedVersion (input.getD 4 0))
  else
    match V2MessageType.tryFrom (input.getD 5 0) with
    | .error e => .error e
    | .ok messageType =>
        let flags := UInt16.fromBeBytes (slice input 6 8)
        if flags ≠ 0 then .error (.nonZeroFlags flags)
        else
          let payloadLen := UInt32.fromBeBytes (slice input 8 12)
          if h : payloadLen.toNat > V2_MAX_PAYLOAD_LEN then
            .error (.payloadTooLarge payloadLen.toNat V2_MAX_PAYLOAD_LEN)
          else
            let consumed := V2_HEADER_LEN + payloadLen.toNat
            if input.length < consumed then .ok (.incomplete (consumed - input.length))
            else
              let header : V2Header := ⟨messageType, payloadLen, by omega⟩
              .ok (.complete ⟨header, slice input V2_HEADER_LEN consumed⟩ consumed)

/-! ### Framing is exact -/

theorem encodeV2Message_eq_ok {t : V2MessageType} {payload w : List UInt8} :
    encodeV2Message t payload = .ok w ↔
      ∃ h : V2Header, h.messageType = t ∧ h.payloadLen.toNat = payload.length ∧
        w = h.encode ++ payload := by
  rw [encodeV2Message, Except.bind_eq_ok]
  constructor
  · rintro ⟨h, hh, hw⟩
    obtain ⟨-, ht, hn⟩ := V2Header.new_eq_ok.mp hh
    cases hw
    exact ⟨h, ht, hn, rfl⟩
  · rintro ⟨h, ht, hn, rfl⟩
    exact ⟨h, V2Header.new_eq_ok.mpr ⟨hn ▸ h.bounded, ht, hn⟩, rfl⟩

/-- Twelve bytes, then the rest. -/
theorem exists_header {input : List UInt8} (h : V2_HEADER_LEN ≤ input.length) :
    ∃ b₀ b₁ b₂ b₃ b₄ b₅ b₆ b₇ b₈ b₉ b₁₀ b₁₁ rest,
      input = b₀ :: b₁ :: b₂ :: b₃ :: b₄ :: b₅ :: b₆ :: b₇ :: b₈ :: b₉ :: b₁₀ :: b₁₁ :: rest := by
  match input, h with
  | b₀ :: b₁ :: b₂ :: b₃ :: b₄ :: b₅ :: b₆ :: b₇ :: b₈ :: b₉ :: b₁₀ :: b₁₁ :: rest, _ =>
      exact ⟨b₀, b₁, b₂, b₃, b₄, b₅, b₆, b₇, b₈, b₉, b₁₀, b₁₁, rest, rfl⟩
  | [], h | [_], h | [_, _], h | [_, _, _], h | [_, _, _, _], h | [_, _, _, _, _], h
  | [_, _, _, _, _, _], h | [_, _, _, _, _, _, _], h | [_, _, _, _, _, _, _, _], h
  | [_, _, _, _, _, _, _, _, _], h | [_, _, _, _, _, _, _, _, _, _], h
  | [_, _, _, _, _, _, _, _, _, _, _], h => simp [V2_HEADER_LEN] at h

/-- The decoder on twelve header bytes and what follows them. -/
theorem decodeV2Message_cons (b₀ b₁ b₂ b₃ b₄ b₅ b₆ b₇ b₈ b₉ b₁₀ b₁₁ : UInt8) (rest : List UInt8) :
    decodeV2Message
        (b₀ :: b₁ :: b₂ :: b₃ :: b₄ :: b₅ :: b₆ :: b₇ :: b₈ :: b₉ :: b₁₀ :: b₁₁ :: rest) =
      if [b₀, b₁, b₂, b₃] ≠ V2_MAGIC then .error (.invalidMagic [b₀, b₁, b₂, b₃])
      else if b₄ ≠ V2_VERSION then .error (.unsupportedVersion b₄)
      else
        match V2MessageType.tryFrom b₅ with
        | .error e => .error e
        | .ok t =>
            if UInt16.fromBeBytes [b₆, b₇] ≠ 0 then
              .error (.nonZeroFlags (UInt16.fromBeBytes [b₆, b₇]))
            else
              let len := UInt32.fromBeBytes [b₈, b₉, b₁₀, b₁₁]
              if h : len.toNat > V2_MAX_PAYLOAD_LEN then
                .error (.payloadTooLarge len.toNat V2_MAX_PAYLOAD_LEN)
              else if rest.length < len.toNat then .ok (.incomplete (len.toNat - rest.length))
              else
                .ok (.complete ⟨⟨t, len, by omega⟩, rest.take len.toNat⟩
                  (V2_HEADER_LEN + len.toNat)) := by
  have hlen : (b₀ :: b₁ :: b₂ :: b₃ :: b₄ :: b₅ :: b₆ :: b₇ :: b₈ :: b₉ :: b₁₀ :: b₁₁ ::
      rest).length = V2_HEADER_LEN + rest.length := by
    simp only [List.length_cons, V2_HEADER_LEN]; omega
  have hs : ∀ n,
      slice (b₀ :: b₁ :: b₂ :: b₃ :: b₄ :: b₅ :: b₆ :: b₇ :: b₈ :: b₉ :: b₁₀ :: b₁₁ :: rest)
      V2_HEADER_LEN (V2_HEADER_LEN + n) = rest.take n := fun n => by
    simp [slice, V2_HEADER_LEN]
  simp only [decodeV2Message]
  rw [hlen, if_neg (by omega)]
  simp only [hs, Nat.add_lt_add_iff_left, Nat.add_sub_add_left]
  rfl

/-- A header in front of at least as many bytes as it announces is read back with its payload. -/
theorem decodeV2Message_encode (h : V2Header) {payload : List UInt8}
    (hlen : h.payloadLen.toNat = payload.length) (rest : List UInt8) :
    decodeV2Message (h.encode ++ payload ++ rest) =
      .ok (.complete ⟨h, payload⟩ (V2_HEADER_LEN + payload.length)) := by
  obtain ⟨t, len, hb⟩ := h
  obtain ⟨b₈, b₉, b₁₀, b₁₁, hbe⟩ : ∃ b₈ b₉ b₁₀ b₁₁, len.toBeBytes = [b₈, b₉, b₁₀, b₁₁] :=
    ⟨_, _, _, _, rfl⟩
  have hlen32 : UInt32.fromBeBytes [b₈, b₉, b₁₀, b₁₁] = len := by
    rw [← hbe, UInt32.fromBeBytes_toBeBytes]
  have hcat : V2Header.encode ⟨t, len, hb⟩ ++ payload ++ rest =
      0x50 :: 0x50 :: 0x46 :: 0x42 :: 2 :: t.toByte :: 0 :: 0 :: b₈ :: b₉ :: b₁₀ :: b₁₁ ::
        (payload ++ rest) := by
    rw [V2Header.encode, hbe]; rfl
  have hflags : UInt16.fromBeBytes [0, 0] = 0 := rfl
  have hle : ¬ payload.length > V2_MAX_PAYLOAD_LEN := by rw [← hlen]; exact not_lt.mpr hb
  have hshort : ¬ payload.length + rest.length < payload.length := by omega
  rw [hcat, decodeV2Message_cons, if_neg (by simp [V2_MAGIC]), if_neg (by simp [V2_VERSION])]
  simp only [V2MessageType.tryFrom_toByte, hflags, hlen32]
  simp only at hlen
  simp [hlen, hle, hshort]

/-- **What is accepted is an encoding.**  A complete message is its header, encoded, and its
payload, and it is as long as it says. -/
theorem decodeV2Message_complete {input : List UInt8} {m : V2Message} {n : Nat}
    (h : decodeV2Message input = .ok (.complete m n)) :
    n ≤ input.length ∧ n = V2_HEADER_LEN + m.payload.length ∧
      m.header.payloadLen.toNat = m.payload.length ∧
        input.take n = m.header.encode ++ m.payload := by
  by_cases hlen : input.length < V2_HEADER_LEN
  · simp [decodeV2Message, hlen] at h
  obtain ⟨b₀, b₁, b₂, b₃, b₄, b₅, b₆, b₇, b₈, b₉, b₁₀, b₁₁, rest, rfl⟩ :=
    exists_header (not_lt.mp hlen)
  rw [decodeV2Message_cons] at h
  cases ht : V2MessageType.tryFrom b₅ with
  | error e =>
      simp only [ht] at h
      split_ifs at h
  | ok t =>
      simp only [ht] at h
      split_ifs at h with hmagic hversion hflags hlarge hshort <;> cases h
      -- all checks passed: the fixed fields are what the encoder writes
      have h6 : (0 : UInt16).toBeBytes = [b₆, b₇] := by
        rw [← not_ne_iff.mp hflags, UInt16.toBeBytes_fromBeBytes rfl]
      have h8 : (UInt32.fromBeBytes [b₈, b₉, b₁₀, b₁₁]).toBeBytes = [b₈, b₉, b₁₀, b₁₁] :=
        UInt32.toBeBytes_fromBeBytes rfl
      have hrest := not_lt.mp hshort
      refine ⟨?_, ?_, ?_, ?_⟩
      · simp only [List.length_cons, V2_HEADER_LEN]; omega
      · rw [List.length_take, min_eq_left hrest]
      · rw [List.length_take, min_eq_left hrest]
      · rw [V2Header.encode, ← not_ne_iff.mp hmagic, ← not_ne_iff.mp hversion,
          V2MessageType.toByte_of_tryFrom ht, h6, h8]
        exact @List.take_length_add_append _ [b₀, b₁, b₂, b₃, b₄, b₅, b₆, b₇, b₈, b₉, b₁₀, b₁₁]
          rest _

/-- A message is not empty. -/
theorem encodeV2Message_ne_nil {t : V2MessageType} {payload w : List UInt8}
    (h : encodeV2Message t payload = .ok w) : w ≠ [] := by
  obtain ⟨hd, -, -, rfl⟩ := encodeV2Message_eq_ok.mp h
  intro e
  have := congrArg List.length e
  simp [V2_HEADER_LEN] at this

end PaperPad.Protocol
