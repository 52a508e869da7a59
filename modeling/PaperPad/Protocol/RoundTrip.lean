import PaperPad.Protocol.Payload
import PaperPad.Support.PrefixCode

/-!
# Protocol — RoundTrip

The wire format, both layers together.  `decodeNext` is one turn of the loop the decoder's
documentation describes: frame one message, then decode its payload.

* `decodeNext_encode`: in front of any further bytes, every message's encoding is read back as
  that message, with its length.
* `decodeNext_canonical`: what is accepted is the encoding of the message reported, so the
  decoder accepts no second spelling: reserved bytes, padding bits and mask bits are all read.
* `wire_exact` puts the two together over whole streams, through `PrefixCode`.
-/

namespace PaperPad.Protocol

open PrefixCode

/-! ### Payload layouts -/

theorem requireExactLength_eq_ok {t : V2MessageType} {p : List UInt8} {n : Nat} :
    requireExactLength t p n = .ok () ↔ p.length = n := by
  simp only [requireExactLength]
  split <;> simp [*]

theorem length_eq_four {p : List UInt8} (h : p.length = 4) :
    ∃ b₀ b₁ b₂ b₃, p = [b₀, b₁, b₂, b₃] := by
  match p, h with
  | [b₀, b₁, b₂, b₃], _ => exact ⟨b₀, b₁, b₂, b₃, rfl⟩

theorem length_eq_eight {p : List UInt8} (h : p.length = 8) :
    ∃ b₀ b₁ b₂ b₃ b₄ b₅ b₆ b₇, p = [b₀, b₁, b₂, b₃, b₄, b₅, b₆, b₇] := by
  match p, h with
  | [b₀, b₁, b₂, b₃, b₄, b₅, b₆, b₇], _ => exact ⟨b₀, b₁, b₂, b₃, b₄, b₅, b₆, b₇, rfl⟩

/-- The Hello decoder on eight bytes. -/
theorem decodeHello_cons (b₀ b₁ b₂ b₃ b₄ b₅ b₆ b₇ : UInt8) :
    decodeHello [b₀, b₁, b₂, b₃, b₄, b₅, b₆, b₇] =
      if b₀ ≠ V2_VERSION then .error (.helloVersion b₀)
      else match V2PixelFormats.fromMask b₁ with
        | none => .error (.unsupportedPixelFormatMask b₁)
        | some fs =>
            if UInt16.fromBeBytes [b₂, b₃] ≠ 0 then
              .error (.nonZeroReserved .hello (UInt16.fromBeBytes [b₂, b₃]).toUInt32)
            else .ok ⟨UInt16.fromBeBytes [b₄, b₅], UInt16.fromBeBytes [b₆, b₇], fs⟩ := by
  by_cases h₀ : b₀ = V2_VERSION
  · cases h₁ : V2PixelFormats.fromMask b₁ with
    | none =>
        simp [decodeHello, requireExactLength, V2_HELLO_PAYLOAD_LEN, h₀, h₁, bind, Except.bind,
          throw, throwThe, MonadExceptOf.throw]
    | some fs =>
        by_cases h₂ : UInt16.fromBeBytes [b₂, b₃] = 0 <;>
          simp [decodeHello, requireExactLength, V2_HELLO_PAYLOAD_LEN, h₀, h₁, h₂, bind,
            Except.bind, pure, Except.pure, throw, throwThe, MonadExceptOf.throw, slice,
            V2Hello.withPixelFormats]
  · simp [decodeHello, requireExactLength, V2_HELLO_PAYLOAD_LEN, h₀, bind, Except.bind, throw,
      throwThe, MonadExceptOf.throw]

/-- **Hello.**  The decoder accepts exactly the encoded payloads. -/
theorem decodeHello_eq_ok {p : List UInt8} {h : V2Hello} :
    decodeHello p = .ok h ↔ p = h.payload := by
  constructor
  · intro hd
    by_cases hl : p.length = V2_HELLO_PAYLOAD_LEN
    · obtain ⟨b₀, b₁, b₂, b₃, b₄, b₅, b₆, b₇, rfl⟩ := length_eq_eight hl
      rw [decodeHello_cons] at hd
      by_cases h₀ : b₀ = V2_VERSION
      · cases hm : V2PixelFormats.fromMask b₁ with
        | none => simp [h₀, hm] at hd
        | some fs =>
            by_cases h₂ : UInt16.fromBeBytes [b₂, b₃] = 0
            · -- every check passes, so each checked byte is the one written
              simp only [h₀, hm, h₂, ne_eq, not_true_eq_false, if_false, Except.ok.injEq] at hd
              have hz : (0 : UInt16).toBeBytes = [b₂, b₃] := by
                rw [← h₂, UInt16.toBeBytes_fromBeBytes rfl]
              subst hd
              rw [V2Hello.payload, UInt16.toBeBytes_fromBeBytes rfl,
                UInt16.toBeBytes_fromBeBytes rfl, V2PixelFormats.mask_of_fromMask hm, h₀]
              cases hz
              rfl
            · simp [h₀, hm, h₂] at hd
      · simp [h₀] at hd
    · simp [decodeHello, requireExactLength, hl, bind, Except.bind] at hd
  · rintro rfl
    obtain ⟨w, ht, fs⟩ := h
    obtain ⟨w₀, w₁, hw⟩ : ∃ w₀ w₁, w.toBeBytes = [w₀, w₁] := ⟨_, _, rfl⟩
    obtain ⟨t₀, t₁, ht'⟩ : ∃ t₀ t₁, ht.toBeBytes = [t₀, t₁] := ⟨_, _, rfl⟩
    have hz : UInt16.fromBeBytes [0, 0] = 0 := rfl
    have hcat : V2Hello.payload ⟨w, ht, fs⟩ = [V2_VERSION, fs.mask, 0, 0, w₀, w₁, t₀, t₁] := by
      rw [V2Hello.payload, hw, ht']; rfl
    rw [hcat, decodeHello_cons, V2PixelFormats.fromMask_mask, ← hw, ← ht']
    simp [hz]

/-- Four bytes are two numbers. -/
theorem toBeBytes_slices {p : List UInt8} (h : p.length = 4) :
    (UInt16.fromBeBytes (slice p 0 2)).toBeBytes ++ (UInt16.fromBeBytes (slice p 2 4)).toBeBytes =
      p := by
  obtain ⟨b₀, b₁, b₂, b₃, rfl⟩ := length_eq_four h
  rw [UInt16.toBeBytes_fromBeBytes rfl, UInt16.toBeBytes_fromBeBytes rfl]
  rfl

/-- Two numbers in four bytes. -/
theorem fromBeBytes_slices (a b : UInt16) :
    UInt16.fromBeBytes (slice (a.toBeBytes ++ b.toBeBytes) 0 2) = a ∧
      UInt16.fromBeBytes (slice (a.toBeBytes ++ b.toBeBytes) 2 4) = b :=
  ⟨UInt16.fromBeBytes_toBeBytes a, UInt16.fromBeBytes_toBeBytes b⟩

/-- A contact is decoded from its payload alone. -/
theorem decodePointer_eq_ok {phase : V2PointerPhase} {p : List UInt8} {q : V2Pointer} :
    decodePointer phase p = .ok q ↔ q.phase = phase ∧ p = q.payload := by
  rw [decodePointer, Except.bind_eq_ok]
  constructor
  · rintro ⟨_, hl, hq⟩
    cases hq
    exact ⟨rfl, (toBeBytes_slices (requireExactLength_eq_ok.mp hl)).symm⟩
  · rintro ⟨rfl, rfl⟩
    obtain ⟨hx, hy⟩ := fromBeBytes_slices q.x q.y
    refine ⟨(), requireExactLength_eq_ok.mpr rfl, ?_⟩
    rw [V2Pointer.payload, hx, hy]
    rfl

/-- A viewport is decoded from its payload alone. -/
theorem decodeViewport_eq_ok {p : List UInt8} {v : V2Viewport} :
    decodeViewport p = .ok v ↔ p = v.payload := by
  rw [decodeViewport, Except.bind_eq_ok]
  constructor
  · rintro ⟨_, hl, hv⟩
    cases hv
    exact (toBeBytes_slices (requireExactLength_eq_ok.mp hl)).symm
  · rintro rfl
    obtain ⟨hw, hh⟩ := fromBeBytes_slices v.width v.height
    refine ⟨(), requireExactLength_eq_ok.mpr rfl, ?_⟩
    rw [V2Viewport.payload, hw, hh]
    rfl

/-- What the decoder reports of a frame. -/
def framePayload (frameId : UInt64) (f : Frame) : V2FramePayload :=
  ⟨frameId, f.width, f.height, f.pixelFormat, f.stride, f.pixels⟩

@[simp] theorem pixelFormatOfValue_value (fmt : PixelFormat) :
    pixelFormatOfValue (pixelFormatValue fmt) = .ok fmt := by
  cases fmt <;> rfl

/-- A format has one byte. -/
theorem value_of_pixelFormatOfValue {b : UInt8} {fmt : PixelFormat}
    (h : pixelFormatOfValue b = .ok fmt) : pixelFormatValue fmt = b := by
  simp only [pixelFormatOfValue] at h
  split_ifs at h with h₁ h₂ <;> cases h <;> exact Eq.symm ‹_›

/-- The pixels of a frame are valid. -/
theorem validatePixels_frame [Platform] (f : Frame) :
    validatePixels f.pixelFormat f.width f.height f.pixels = .ok f.stride := by
  cases f with
  | mono1 f => exact congrArg (Except.mapError _) (validateMono1Pixels_eq_ok.mpr f.valid)
  | gray8 f => exact congrArg (Except.mapError _) (validateGray8Pixels_eq_ok.mpr f.valid)

/-- Validated pixels are those of a frame. -/
theorem frame_of_validatePixels [Platform] {fmt : PixelFormat} {w h : UInt16} {p : List UInt8}
    {s : Nat} (hv : validatePixels fmt w h p = .ok s) :
    ∃ f, Frame.new w h fmt p = .ok f ∧ f.stride = s := by
  cases fmt with
  | mono1 =>
      have hm : validateMono1Pixels w h p = .ok s := Except.mapError_eq_ok.mp hv
      exact ⟨.mono1 ⟨w, h, s, p, validateMono1Pixels_eq_ok.mp hm⟩,
        Frame.new_eq_ok.mpr ⟨rfl, rfl, rfl, rfl⟩, rfl⟩
  | gray8 =>
      have hm : validateGray8Pixels w h p = .ok s := Except.mapError_eq_ok.mp hv
      exact ⟨.gray8 ⟨w, h, s, p, validateGray8Pixels_eq_ok.mp hm⟩,
        Frame.new_eq_ok.mpr ⟨rfl, rfl, rfl, rfl⟩, rfl⟩

@[simp] theorem framePrefix_length (frameId : UInt64) (f : Frame) :
    (framePrefix frameId f).length = V2_FRAME_PREFIX_LEN := by
  simp [framePrefix, V2_FRAME_PREFIX_LEN]

theorem length_ge_sixteen {p : List UInt8} (h : V2_FRAME_PREFIX_LEN ≤ p.length) :
    ∃ b₀ b₁ b₂ b₃ b₄ b₅ b₆ b₇ b₈ b₉ b₁₀ b₁₁ b₁₂ b₁₃ b₁₄ b₁₅ pixels, p =
      b₀ :: b₁ :: b₂ :: b₃ :: b₄ :: b₅ :: b₆ :: b₇ :: b₈ :: b₉ :: b₁₀ :: b₁₁ :: b₁₂ :: b₁₃ ::
        b₁₄ :: b₁₅ :: pixels := by
  have h12 : V2_HEADER_LEN ≤ p.length := le_trans (by decide) h
  obtain ⟨b₀, b₁, b₂, b₃, b₄, b₅, b₆, b₇, b₈, b₉, b₁₀, b₁₁, rest, rfl⟩ := exists_header h12
  match rest, h with
  | b₁₂ :: b₁₃ :: b₁₄ :: b₁₅ :: pixels, _ =>
      exact ⟨b₀, b₁, b₂, b₃, b₄, b₅, b₆, b₇, b₈, b₉, b₁₀, b₁₁, b₁₂, b₁₃, b₁₄, b₁₅, pixels, rfl⟩
  | [], h | [_], h | [_, _], h | [_, _, _], h => simp [V2_FRAME_PREFIX_LEN] at h

theorem eq_zero_of_shift16 {b : UInt8} (h : b.toUInt32 <<< 16 = 0) : b = 0 := by
  have h' := congrArg UInt32.toNat h
  simp [UInt32.toNat_shiftLeft, Nat.shiftLeft_eq] at h'
  have := b.toNat_lt
  exact UInt8.toNat_inj.mp (by simp; omega)

theorem eq_zero_of_shift8 {b : UInt8} (h : b.toUInt32 <<< 8 = 0) : b = 0 := by
  have h' := congrArg UInt32.toNat h
  simp [UInt32.toNat_shiftLeft, Nat.shiftLeft_eq] at h'
  have := b.toNat_lt
  exact UInt8.toNat_inj.mp (by simp; omega)

theorem eq_zero_of_toUInt32 {b : UInt8} (h : b.toUInt32 = 0) : b = 0 := by
  have h' := congrArg UInt32.toNat h
  exact UInt8.toNat_inj.mp (by simpa using h')

/-- The three reserved bytes of a frame, as the decoder assembles them. -/
def frameReserved (b₁₃ b₁₄ b₁₅ : UInt8) : UInt32 :=
  b₁₃.toUInt32 <<< 16 ||| b₁₄.toUInt32 <<< 8 ||| b₁₅.toUInt32

/-- The reserved bytes are zero. -/
theorem frameReserved_eq_zero {b₁₃ b₁₄ b₁₅ : UInt8} :
    frameReserved b₁₃ b₁₄ b₁₅ = 0 ↔ b₁₃ = 0 ∧ b₁₄ = 0 ∧ b₁₅ = 0 := by
  constructor
  · intro h
    obtain ⟨h', h15⟩ := UInt32.or_eq_zero_iff.mp h
    obtain ⟨h13, h14⟩ := UInt32.or_eq_zero_iff.mp h'
    exact ⟨eq_zero_of_shift16 h13, eq_zero_of_shift8 h14, eq_zero_of_toUInt32 h15⟩
  · rintro ⟨rfl, rfl, rfl⟩
    decide

/-- The Frame decoder on sixteen bytes and the pixels behind them. -/
theorem decodeFrame_cons [Platform]
    (b₀ b₁ b₂ b₃ b₄ b₅ b₆ b₇ b₈ b₉ b₁₀ b₁₁ b₁₂ b₁₃ b₁₄ b₁₅ : UInt8) (pixels : List UInt8) :
    decodeFrame (b₀ :: b₁ :: b₂ :: b₃ :: b₄ :: b₅ :: b₆ :: b₇ :: b₈ :: b₉ :: b₁₀ :: b₁₁ :: b₁₂ ::
        b₁₃ :: b₁₄ :: b₁₅ :: pixels) = (do
      let fmt ← pixelFormatOfValue b₁₂
      if frameReserved b₁₃ b₁₄ b₁₅ ≠ 0 then
        throw (.nonZeroReserved .frame (frameReserved b₁₃ b₁₄ b₁₅))
      let stride ← validatePixels fmt (UInt16.fromBeBytes [b₈, b₉])
        (UInt16.fromBeBytes [b₁₀, b₁₁]) pixels
      return ⟨UInt64.fromBeBytes [b₀, b₁, b₂, b₃, b₄, b₅, b₆, b₇], UInt16.fromBeBytes [b₈, b₉],
        UInt16.fromBeBytes [b₁₀, b₁₁], fmt, stride, pixels⟩) := by
  have hl : ¬ (b₀ :: b₁ :: b₂ :: b₃ :: b₄ :: b₅ :: b₆ :: b₇ :: b₈ :: b₉ :: b₁₀ :: b₁₁ :: b₁₂ ::
      b₁₃ :: b₁₄ :: b₁₅ :: pixels).length < V2_FRAME_PREFIX_LEN := by
    simp only [List.length_cons, V2_FRAME_PREFIX_LEN]; omega
  rw [decodeFrame, if_neg hl]
  rfl

/-- **Frame.**  The decoder accepts exactly the prefix of a valid frame followed by its pixels. -/
theorem decodeFrame_eq_ok [Platform] {p : List UInt8} {fp : V2FramePayload} :
    decodeFrame p = .ok fp ↔
      ∃ f, fp = framePayload fp.frameId f ∧ p = framePrefix fp.frameId f ++ f.pixels := by
  constructor
  · intro hd
    by_cases hl : p.length < V2_FRAME_PREFIX_LEN
    · simp [decodeFrame, hl, bind, Except.bind, throw, throwThe, MonadExceptOf.throw] at hd
    obtain ⟨b₀, b₁, b₂, b₃, b₄, b₅, b₆, b₇, b₈, b₉, b₁₀, b₁₁, b₁₂, b₁₃, b₁₄, b₁₅, pixels, rfl⟩ :=
      length_ge_sixteen (not_lt.mp hl)
    rw [decodeFrame_cons] at hd
    cases hf : pixelFormatOfValue b₁₂ with
    | error e => simp [hf, bind, Except.bind] at hd
    | ok fmt =>
        by_cases hr : frameReserved b₁₃ b₁₄ b₁₅ = 0
        · cases hv : validatePixels fmt (UInt16.fromBeBytes [b₈, b₉])
              (UInt16.fromBeBytes [b₁₀, b₁₁]) pixels with
          | error e => simp [hf, hr, hv, bind, Except.bind] at hd
          | ok stride =>
              simp only [hf, hr, hv, bind, Except.bind, pure, Except.pure, ne_eq,
                not_true_eq_false, if_false, Except.ok.injEq] at hd
              -- the pixels make a frame, of the stride the decoder reports
              obtain ⟨f, hn, hs⟩ := frame_of_validatePixels hv
              obtain ⟨hw, hh, hfmt, hp⟩ := Frame.new_eq_ok.mp hn
              obtain ⟨rfl, rfl, rfl⟩ := frameReserved_eq_zero.mp hr
              subst hd
              refine ⟨f, by simp [framePayload, hw, hh, hfmt, hp, hs], ?_⟩
              rw [framePrefix, hw, hh, hfmt, hp, value_of_pixelFormatOfValue hf,
                UInt64.toBeBytes_fromBeBytes rfl, UInt16.toBeBytes_fromBeBytes rfl,
                UInt16.toBeBytes_fromBeBytes rfl]
              rfl
        · simp [hf, hr, bind, Except.bind, throw, throwThe, MonadExceptOf.throw] at hd
  · rintro ⟨f, hfp, rfl⟩
    obtain ⟨i₀, i₁, i₂, i₃, i₄, i₅, i₆, i₇, hi⟩ :
        ∃ i₀ i₁ i₂ i₃ i₄ i₅ i₆ i₇, fp.frameId.toBeBytes = [i₀, i₁, i₂, i₃, i₄, i₅, i₆, i₇] :=
      ⟨_, _, _, _, _, _, _, _, rfl⟩
    obtain ⟨w₀, w₁, hw⟩ : ∃ w₀ w₁, f.width.toBeBytes = [w₀, w₁] := ⟨_, _, rfl⟩
    obtain ⟨t₀, t₁, ht⟩ : ∃ t₀ t₁, f.height.toBeBytes = [t₀, t₁] := ⟨_, _, rfl⟩
    have hcat : framePrefix fp.frameId f ++ f.pixels =
        i₀ :: i₁ :: i₂ :: i₃ :: i₄ :: i₅ :: i₆ :: i₇ :: w₀ :: w₁ :: t₀ :: t₁ ::
          pixelFormatValue f.pixelFormat :: 0 :: 0 :: 0 :: f.pixels := by
      rw [framePrefix, hi, hw, ht]; rfl
    have hz : frameReserved 0 0 0 = 0 := frameReserved_eq_zero.mpr ⟨rfl, rfl, rfl⟩
    rw [hcat, decodeFrame_cons, pixelFormatOfValue_value, hz, ← hi, ← hw, ← ht]
    simp only [UInt64.fromBeBytes_toBeBytes, UInt16.fromBeBytes_toBeBytes, validatePixels_frame,
      bind, Except.bind, pure, Except.pure, ne_eq, not_true_eq_false, if_false]
    exact congrArg _ hfp.symm

/-! ### Messages -/

/-- A message as its sender has it. -/
inductive Message where
  | hello (hello : V2Hello)
  | pointer (pointer : V2Pointer)
  | viewportChanged (viewport : V2Viewport)
  | frame (frameId : UInt64) (frame : Frame)
  deriving DecidableEq

namespace Message

/-- The bytes of a message. -/
def encode : Message → Except V2EncodeError (List UInt8)
  | hello h => h.encodeMessage
  | pointer p => p.encodeMessage
  | viewportChanged v => v.encodeMessage
  | frame frameId f => encodeV2Frame frameId f

/-- The message as its receiver has it. -/
def payload : Message → V2Payload
  | hello h => .hello h
  | pointer p => .pointer p
  | viewportChanged v => .viewportChanged v
  | frame frameId f => .frame (framePayload frameId f)

/-- Its type. -/
def messageType : Message → V2MessageType
  | hello _ => .hello
  | pointer p => p.phase.messageType
  | viewportChanged _ => .viewportChanged
  | frame _ _ => .frame

/-- The payload bytes. -/
def body : Message → List UInt8
  | hello h => h.payload
  | pointer p => p.payload
  | viewportChanged v => v.payload
  | frame frameId f => framePrefix frameId f ++ f.pixels

/-- The payload is within the wire limit. -/
def Fits (m : Message) : Prop := m.body.length ≤ V2_MAX_PAYLOAD_LEN

instance (m : Message) : Decidable m.Fits := inferInstanceAs (Decidable (_ ≤ _))

/-- Every message is a header and its body. -/
theorem encode_eq (m : Message) : m.encode = encodeV2Message m.messageType m.body := by
  cases m with
  | hello h => rfl
  | pointer p => rfl
  | viewportChanged v => rfl
  | frame frameId f =>
      simp only [encode, encodeV2Frame, encodeV2Message, messageType, body, List.length_append,
        framePrefix_length, List.append_assoc]

/-- What is encoded is a header of its type and length, and the body. -/
theorem encode_eq_ok {m : Message} {w : List UInt8} :
    m.encode = .ok w ↔ ∃ h : V2Header, h.messageType = m.messageType ∧
      h.payloadLen.toNat = m.body.length ∧ w = h.encode ++ m.body := by
  rw [encode_eq, encodeV2Message_eq_ok]

/-- The messages that can be encoded are those that fit. -/
theorem fits_iff {m : Message} : m.Fits ↔ ∃ w, m.encode = .ok w := by
  constructor
  · intro hf
    obtain ⟨h, hn⟩ : ∃ h, V2Header.new m.messageType m.body.length = .ok h := by
      rw [V2Header.new, dif_neg (not_lt.mpr hf)]; exact ⟨_, rfl⟩
    obtain ⟨-, ht, hl⟩ := V2Header.new_eq_ok.mp hn
    exact ⟨_, encode_eq_ok.mpr ⟨h, ht, hl, rfl⟩⟩
  · rintro ⟨w, hw⟩
    obtain ⟨h, -, hl, -⟩ := encode_eq_ok.mp hw
    rw [Fits, ← hl]; exact h.bounded

/-- Only a frame can be too long. -/
theorem fits_of_not_frame {m : Message} (h : ∀ i f, m ≠ .frame i f) : m.Fits := by
  cases m with
  | hello => exact show 8 ≤ V2_MAX_PAYLOAD_LEN by decide
  | pointer | viewportChanged => exact show 4 ≤ V2_MAX_PAYLOAD_LEN by decide
  | frame i f => exact absurd rfl (h i f)

end Message

/-- The body of a message is decoded to it. -/
theorem decodeV2Payload_body [Platform] (m : Message) {h : V2Header}
    (ht : h.messageType = m.messageType) : decodeV2Payload ⟨h, m.body⟩ = .ok m.payload := by
  have hm : V2Message.messageType ⟨h, m.body⟩ = m.messageType := ht
  simp only [decodeV2Payload]
  rw [hm]
  cases m with
  | hello h => exact congrArg (Except.map _) (decodeHello_eq_ok.mpr rfl)
  | pointer p =>
      have hp : decodePointer p.phase p.payload = .ok p := decodePointer_eq_ok.mpr ⟨rfl, rfl⟩
      obtain ⟨phase, x, y⟩ := p
      cases phase <;> exact congrArg (Except.map _) hp
  | viewportChanged v => exact congrArg (Except.map _) (decodeViewport_eq_ok.mpr rfl)
  | frame frameId f =>
      have hf : decodeFrame (framePrefix frameId f ++ f.pixels) = .ok (framePayload frameId f) :=
        decodeFrame_eq_ok.mpr ⟨f, rfl, rfl⟩
      exact congrArg (Except.map _) hf

/-- The message a decoded payload stands for. -/
def V2Payload.toMessage [Platform] : V2Payload → Except FrameError Message
  | .hello h => .ok (.hello h)
  | .pointer p => .ok (.pointer p)
  | .viewportChanged v => .ok (.viewportChanged v)
  | .frame f => f.toOwnedFrame.map (.frame f.frameId)

/-- A decoded message is the message again. -/
theorem Message.toMessage_payload [Platform] (m : Message) : m.payload.toMessage = .ok m := by
  cases m with
  | hello h => rfl
  | pointer p => rfl
  | viewportChanged v => rfl
  | frame frameId f =>
      have hn : Frame.new f.width f.height f.pixelFormat f.pixels = .ok f :=
        Frame.new_eq_ok.mpr ⟨rfl, rfl, rfl, rfl⟩
      exact congrArg (Except.map _) hn

/-- The two pointer messages, which differ in the phase their type stands for. -/
theorem pointer_of_decodePointer (phase : V2PointerPhase) {p : List UInt8} {v : V2Payload}
    (h : (decodePointer phase p).map V2Payload.pointer = .ok v) :
    ∃ m : Message, v = m.payload ∧ phase.messageType = m.messageType ∧ p = m.body := by
  cases hp : decodePointer phase p with
  | error e => simp [hp, Except.map] at h
  | ok q =>
      obtain rfl : V2Payload.pointer q = v := by simpa [hp, Except.map] using h
      obtain ⟨rfl, rfl⟩ := decodePointer_eq_ok.mp hp
      exact ⟨.pointer q, rfl, rfl, rfl⟩

/-- A payload the decoder accepts is that of the message its bytes encode. -/
theorem decodeV2Payload_eq_ok [Platform] {msg : V2Message} {v : V2Payload}
    (h : decodeV2Payload msg = .ok v) :
    ∃ m : Message, v = m.payload ∧ msg.header.messageType = m.messageType ∧
      msg.payload = m.body := by
  obtain ⟨hd, p⟩ := msg
  simp only [decodeV2Payload] at h
  cases ht : hd.messageType with
  | hello =>
      simp only [V2Message.messageType, ht] at h
      cases hp : decodeHello p with
      | error e => simp [hp, Except.map] at h
      | ok q =>
          obtain rfl : V2Payload.hello q = v := by simpa [hp, Except.map] using h
          exact ⟨.hello q, rfl, rfl, decodeHello_eq_ok.mp hp⟩
  | pointerDown =>
      simp only [V2Message.messageType, ht] at h
      exact pointer_of_decodePointer (.down) h
  | pointerUp =>
      simp only [V2Message.messageType, ht] at h
      exact pointer_of_decodePointer (.up) h
  | viewportChanged =>
      simp only [V2Message.messageType, ht] at h
      cases hp : decodeViewport p with
      | error e => simp [hp, Except.map] at h
      | ok q =>
          obtain rfl : V2Payload.viewportChanged q = v := by simpa [hp, Except.map] using h
          exact ⟨.viewportChanged q, rfl, rfl, decodeViewport_eq_ok.mp hp⟩
  | frame =>
      simp only [V2Message.messageType, ht] at h
      cases hp : decodeFrame p with
      | error e => simp [hp, Except.map] at h
      | ok q =>
          obtain rfl : V2Payload.frame q = v := by simpa [hp, Except.map] using h
          obtain ⟨f, hq, rfl⟩ := decodeFrame_eq_ok.mp hp
          exact ⟨.frame q.frameId f, congrArg V2Payload.frame hq, rfl, rfl⟩

/-! ### One message -/

/-- Frame one message at the front of `input`, then decode its payload: the payload and the
consumed offset. -/
def decodeNext [Platform] (input : List UInt8) : Option (V2Payload × Nat) :=
  match decodeV2Message input with
  | .ok (.complete message consumed) =>
      match decodeV2Payload message with
      | .ok payload => some (payload, consumed)
      | .error _ => none
  | _ => none

/-- The code words of a payload. -/
def Encodes (v : V2Payload) (w : List UInt8) : Prop :=
  ∃ m : Message, v = m.payload ∧ m.encode = .ok w

/-- What is encoded is decoded. -/
theorem decodeNext_encode [Platform] : Sound decodeNext Encodes := by
  rintro v w rest ⟨m, rfl, hw⟩
  obtain ⟨h, ht, hl, rfl⟩ := Message.encode_eq_ok.mp hw
  rw [decodeNext, decodeV2Message_encode h hl]
  simp [decodeV2Payload_body m ht]

/-- What is decoded is encoded the same. -/
theorem decodeNext_canonical [Platform] : Canonical decodeNext Encodes := by
  intro input v n h
  simp only [decodeNext] at h
  split at h
  · next msg consumed hc =>
      split at h
      · next p hp =>
          cases h
          obtain ⟨hn, -, hl, htake⟩ := decodeV2Message_complete hc
          obtain ⟨m, rfl, ht, hb⟩ := decodeV2Payload_eq_ok hp
          refine ⟨hn, m, rfl, Message.encode_eq_ok.mpr ⟨msg.header, ht, ?_, ?_⟩⟩
          · rw [hl, hb]
          · rw [htake, hb]
      · cases h
  · cases h

/-- Two messages have different payloads. -/
theorem payload_injective {m m' : Message} (h : m.payload = m'.payload) : m = m' := by
  let _ : Platform := .usize64
  have := congrArg V2Payload.toMessage h
  rw [Message.toMessage_payload, Message.toMessage_payload] at this
  exact Except.ok.inj this

/-- A message has one encoding. -/
theorem Encodes.unique {v : V2Payload} {w w' : List UInt8} (h : Encodes v w)
    (h' : Encodes v w') : w = w' := by
  obtain ⟨m, rfl, hw⟩ := h
  obtain ⟨m', hm, hw'⟩ := h'
  rw [← payload_injective hm, hw] at hw'
  exact Except.ok.inj hw'

theorem Encodes.ne_nil {v : V2Payload} {w : List UInt8} (h : Encodes v w) : w ≠ [] := by
  obtain ⟨m, -, hw⟩ := h
  exact encodeV2Message_ne_nil (m.encode_eq ▸ hw)

/-! ### Streams -/

/-- Messages that fit are encoded. -/
theorem exists_encodings {ms : List Message} (h : ∀ m ∈ ms, m.Fits) :
    ∃ ws, List.Forall₂ (fun m w => m.encode = .ok w) ms ws := by
  induction ms with
  | nil => exact ⟨[], .nil⟩
  | cons m ms ih =>
      obtain ⟨ws, hws⟩ := ih fun k hk => h k (List.mem_cons_of_mem _ hk)
      obtain ⟨w, hw⟩ := Message.fits_iff.mp (h m List.mem_cons_self)
      exact ⟨w :: ws, .cons hw hws⟩

/-- The encodings of a list of messages, as code words. -/
theorem Forall₂.codeWords {ms : List Message} {ws : List (List UInt8)}
    (h : List.Forall₂ (fun m w => m.encode = .ok w) ms ws) :
    (∀ p ∈ List.zipWith (fun m w => (Message.payload m, w)) ms ws, Encodes p.1 p.2) ∧
      (List.zipWith (fun m w => (Message.payload m, w)) ms ws).flatMap Prod.snd = ws.flatten ∧
      (List.zipWith (fun m w => (Message.payload m, w)) ms ws).map (fun p => (p.1, p.2.length)) =
        List.zipWith (fun m w => (Message.payload m, w.length)) ms ws := by
  induction h with
  | nil => simp
  | @cons m w ms ws hw _ ih =>
      obtain ⟨henc, hflat, hmap⟩ := ih
      refine ⟨?_, by simp [hflat], by simp [hmap]⟩
      intro p hp
      rcases List.mem_cons.mp hp with rfl | hp
      · exact ⟨m, rfl, hw⟩
      · exact henc p hp

/-- **The wire is exact, in both directions.**  Any messages within the wire limit, encoded one
after the other in front of bytes that hold no message, are read back in order and with their
boundaries.  Conversely the consumed bytes of an accepted message are its one encoding. -/
theorem wire_exact [Platform] :
    (∀ (ms : List Message) (rest : List UInt8), (∀ m ∈ ms, m.Fits) → decodeNext rest = none →
      ∃ ws, List.Forall₂ (fun m w => m.encode = .ok w) ms ws ∧
        decodeAll decodeNext (ws.flatten ++ rest) =
          (List.zipWith (fun m w => (m.payload, w.length)) ms ws, rest)) ∧
    (∀ (input : List UInt8) (v : V2Payload) (n : Nat), decodeNext input = some (v, n) →
      n ≤ input.length ∧ ∃ m, v.toMessage = .ok m ∧ m.encode = .ok (input.take n)) ∧
    (∀ (i₁ i₂ : List UInt8) (v : V2Payload) (n₁ n₂ : Nat), decodeNext i₁ = some (v, n₁) →
      decodeNext i₂ = some (v, n₂) → i₁.take n₁ = i₂.take n₂) := by
  refine ⟨?_, ?_, ?_⟩
  · intro ms rest hfit hrest
    obtain ⟨ws, hws⟩ := exists_encodings hfit
    obtain ⟨henc, hflat, hmap⟩ := Forall₂.codeWords hws
    refine ⟨ws, hws, ?_⟩
    have := decodeNext_encode.decodeAll_eq (fun _ _ h => h.ne_nil) hrest _ henc
    rwa [hflat, hmap] at this
  · intro input v n h
    obtain ⟨hn, m, rfl, hw⟩ := decodeNext_canonical input v n h
    exact ⟨hn, m, m.toMessage_payload, hw⟩
  · intro i₁ i₂ v n₁ n₂ h₁ h₂
    exact decodeNext_canonical.take_eq (fun _ _ _ h h' => h.unique h') h₁ h₂

/-- A press at `(3, 5)`, as it is sent. -/
def pressBytes : List UInt8 := [0x50, 0x50, 0x46, 0x42, 2, 2, 0, 0, 0, 0, 0, 4, 0, 3, 0, 5]

theorem wire_exact_press :
    (∃ ws, List.Forall₂ (fun (m : Message) w => m.encode = .ok w)
        [.hello ⟨758, 896, .GRAY8⟩, .pointer ⟨.down, 3, 5⟩] ws ∧
      decodeAll (@decodeNext .usize64) (ws.flatten ++ [0x50]) =
        (List.zipWith (fun (m : Message) (w : List UInt8) => (m.payload, w.length))
          [.hello ⟨758, 896, .GRAY8⟩, .pointer ⟨.down, 3, 5⟩] ws, [0x50])) ∧
    (∃ m, @V2Payload.toMessage .usize64 (.pointer ⟨.down, 3, 5⟩) = .ok m ∧
      m.encode = .ok (pressBytes.take 16)) ∧
    (pressBytes ++ [0x50]).take 16 = pressBytes.take 16 := by
  have h₀ : @decodeNext .usize64 [0x50] = none := rfl
  have h₁ : @decodeNext .usize64 pressBytes = some (.pointer ⟨.down, 3, 5⟩, 16) := by decide
  have h₂ : @decodeNext .usize64 (pressBytes ++ [0x50]) = some (.pointer ⟨.down, 3, 5⟩, 16) := by
    decide
  exact ⟨(@wire_exact .usize64).1 _ _ (by decide) h₀, ((@wire_exact .usize64).2.1 _ _ _ h₁).2,
    (@wire_exact .usize64).2.2 _ _ _ _ _ h₂ h₁⟩

end PaperPad.Protocol
