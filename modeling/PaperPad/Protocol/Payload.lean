import PaperPad.Protocol.Framebuffer
import PaperPad.Protocol.V2

/-!
# Protocol — Payload

The typed payloads of `crates/paper-protocol/src/v2_payload.rs`: Hello, the two pointer phases,
ViewportChanged and Frame.

`V2PixelFormats` carries the invariant of its private mask: nonempty, and no bit but the two
supported ones.
-/

namespace PaperPad.Protocol

/-- The lengths of the payloads, and of what is before the pixels of a frame. -/
def V2_HELLO_PAYLOAD_LEN : Nat := 8
def V2_POINTER_PAYLOAD_LEN : Nat := 4
def V2_VIEWPORT_PAYLOAD_LEN : Nat := 4
def V2_FRAME_PREFIX_LEN : Nat := 16

/-- No frame payload of two `u16` dimensions overflows a `usize`. -/
theorem prefix_add_lt {s : Nat} (hs : s ≤ 65535) (height : UInt16) :
    V2_FRAME_PREFIX_LEN + s * height.toNat < 2 ^ 32 := by
  have hh : height.toNat ≤ 65535 := Nat.le_of_lt_succ height.toNat_lt
  calc V2_FRAME_PREFIX_LEN + s * height.toNat
      ≤ V2_FRAME_PREFIX_LEN + 65535 * 65535 := Nat.add_le_add_left (Nat.mul_le_mul hs hh) _
    _ < 2 ^ 32 := by decide

def MONO1_FORMAT_VALUE : UInt8 := 1
def MONO1_FORMAT_MASK : UInt8 := 1
def GRAY8_FORMAT_VALUE : UInt8 := 2
def GRAY8_FORMAT_MASK : UInt8 := 2
def SUPPORTED_FORMAT_MASK : UInt8 := MONO1_FORMAT_MASK ||| GRAY8_FORMAT_MASK

/-- The bit of a format in a Hello. -/
def pixelFormatMask : PixelFormat → UInt8
  | .mono1 => MONO1_FORMAT_MASK
  | .gray8 => GRAY8_FORMAT_MASK

/-- The byte of a format in a frame. -/
def pixelFormatValue : PixelFormat → UInt8
  | .mono1 => MONO1_FORMAT_VALUE
  | .gray8 => GRAY8_FORMAT_VALUE

/-! ### Pixel format sets -/

theorem or_and_eq_zero {a b m : UInt8} (ha : a &&& m = 0) (hb : b &&& m = 0) :
    (a ||| b) &&& m = 0 := by
  apply UInt8.toBitVec_inj.mp
  have ha' : a.toBitVec &&& m.toBitVec = 0#8 := congrArg UInt8.toBitVec ha
  have hb' : b.toBitVec &&& m.toBitVec = 0#8 := congrArg UInt8.toBitVec hb
  simp [BitVec.and_or_distrib_right, ha', hb']

/-- A nonempty set of pixel formats. -/
structure V2PixelFormats where
  mask : UInt8
  nonempty : mask ≠ 0
  supported : mask &&& ~~~SUPPORTED_FORMAT_MASK = 0
  deriving DecidableEq

namespace V2PixelFormats

/-- The set of one format. -/
def new (pixelFormat : PixelFormat) : V2PixelFormats where
  mask := pixelFormatMask pixelFormat
  nonempty := by cases pixelFormat <;> decide
  supported := by cases pixelFormat <;> decide

def MONO1 : V2PixelFormats := new .mono1

def GRAY8 : V2PixelFormats := new .gray8

/-- `with`: the set with one more format. -/
def withFormat (s : V2PixelFormats) (pixelFormat : PixelFormat) : V2PixelFormats where
  mask := s.mask ||| pixelFormatMask pixelFormat
  nonempty h := s.nonempty (UInt8.or_eq_zero_iff.mp h).1
  supported := or_and_eq_zero s.supported (new pixelFormat).supported

/-- The format is in the set. -/
def supports (s : V2PixelFormats) (pixelFormat : PixelFormat) : Bool :=
  s.mask &&& pixelFormatMask pixelFormat ≠ 0

/-- The set of a byte, if it names formats there are, and one at least. -/
def fromMask (mask : UInt8) : Option V2PixelFormats :=
  if h : mask ≠ 0 ∧ mask &&& ~~~SUPPORTED_FORMAT_MASK = 0 then some ⟨mask, h.1, h.2⟩ else none

@[simp] theorem fromMask_mask (s : V2PixelFormats) : fromMask s.mask = some s :=
  dif_pos ⟨s.nonempty, s.supported⟩

theorem mask_of_fromMask {mask : UInt8} {s : V2PixelFormats} (h : fromMask mask = some s) :
    s.mask = mask := by
  simp only [fromMask] at h
  split at h <;> cases h
  rfl

end V2PixelFormats

/-! ### Frame sizes -/

/-- The pixel bytes of a frame. -/
def pixelLen : PixelFormat → UInt16 → UInt16 → Nat
  | .mono1, width, height => mono1Stride width * height.toNat
  | .gray8, width, height => gray8Stride width * height.toNat

/-- The sizes a frame can be sent in. -/
def WithinCap (fmt : PixelFormat) (width height : UInt16) : Prop :=
  width ≠ 0 ∧ height ≠ 0 ∧ V2_FRAME_PREFIX_LEN + pixelLen fmt width height ≤ V2_MAX_PAYLOAD_LEN

/-- The payload length of a format. -/
def payloadLen [Platform] : PixelFormat → UInt16 → UInt16 → Option Nat
  | .mono1 => mono1PayloadLen
  | .gray8 => gray8PayloadLen

theorem prefix_add_pixelLen_lt (fmt : PixelFormat) (width height : UInt16) :
    V2_FRAME_PREFIX_LEN + pixelLen fmt width height < 2 ^ 32 := by
  cases fmt with
  | mono1 => exact prefix_add_lt (le_trans (mono1Stride_le width) (by decide)) height
  | gray8 => exact prefix_add_lt (Nat.le_of_lt_succ width.toNat_lt) height

theorem payloadLen_eq [Platform] (fmt : PixelFormat) (width height : UInt16) :
    payloadLen fmt width height = some (pixelLen fmt width height) := by
  cases fmt with
  | mono1 => exact mono1PayloadLen_eq width height
  | gray8 => exact gray8PayloadLen_eq width height

/-- A size within the cap passes, whatever is built behind the guard. -/
theorem guarded_eq_ok {α : Type} {a : α} {fmt : PixelFormat} {width height : UInt16}
    {error : String} {build : Except String α} {built : Prop} (hw : width ≠ 0) (hh : height ≠ 0)
    (hbuild : build = .ok a ↔ built) :
    (if V2_FRAME_PREFIX_LEN + pixelLen fmt width height > V2_MAX_PAYLOAD_LEN then .error error
      else build) = .ok a ↔ WithinCap fmt width height ∧ built := by
  by_cases hcap : V2_FRAME_PREFIX_LEN + pixelLen fmt width height > V2_MAX_PAYLOAD_LEN
  · rw [if_pos hcap]
    constructor
    · intro h
      cases h
    · rintro ⟨⟨-, -, h⟩, -⟩
      exact absurd h (not_le.mpr hcap)
  · rw [if_neg hcap, hbuild]
    exact ⟨fun h => ⟨⟨hw, hh, not_lt.mp hcap⟩, h⟩, fun h => h.2⟩

/-! ### The message payloads -/

/-- The first message: the viewport and the formats of the device. -/
structure V2Hello where
  viewportWidth : UInt16
  viewportHeight : UInt16
  pixelFormats : V2PixelFormats
  deriving DecidableEq

/-- `V2Hello::with_pixel_formats`. -/
def V2Hello.withPixelFormats (viewportWidth viewportHeight : UInt16)
    (pixelFormats : V2PixelFormats) : V2Hello :=
  ⟨viewportWidth, viewportHeight, pixelFormats⟩

/-- Its bytes. -/
def V2Hello.payload (h : V2Hello) : List UInt8 :=
  [V2_VERSION, h.pixelFormats.mask, 0, 0] ++ h.viewportWidth.toBeBytes ++ h.viewportHeight.toBeBytes

/-- Its message. -/
def V2Hello.encodeMessage (h : V2Hello) : Except V2EncodeError (List UInt8) :=
  encodeV2Message .hello h.payload

/-- A changed viewport. -/
structure V2Viewport where
  width : UInt16
  height : UInt16
  deriving DecidableEq

/-- Its bytes. -/
def V2Viewport.payload (v : V2Viewport) : List UInt8 := v.width.toBeBytes ++ v.height.toBeBytes

/-- Its message. -/
def V2Viewport.encodeMessage (v : V2Viewport) : Except V2EncodeError (List UInt8) :=
  encodeV2Message .viewportChanged v.payload

/-- A contact begins or ends. -/
inductive V2PointerPhase where
  | down
  | up
  deriving DecidableEq, Repr

/-- The message it comes in. -/
def V2PointerPhase.messageType : V2PointerPhase → V2MessageType
  | .down => .pointerDown
  | .up => .pointerUp

/-- A contact, at a point of the remote viewport. -/
structure V2Pointer where
  phase : V2PointerPhase
  x : UInt16
  y : UInt16
  deriving DecidableEq, Repr

/-- Its bytes. -/
def V2Pointer.payload (p : V2Pointer) : List UInt8 := p.x.toBeBytes ++ p.y.toBeBytes

/-- Its message. -/
def V2Pointer.encodeMessage (p : V2Pointer) : Except V2EncodeError (List UInt8) :=
  encodeV2Message p.phase.messageType p.payload

/-- A frame as it is decoded. -/
structure V2FramePayload where
  frameId : UInt64
  width : UInt16
  height : UInt16
  pixelFormat : PixelFormat
  stride : Nat
  pixels : List UInt8
  deriving DecidableEq

/-- The frame. -/
def V2FramePayload.toOwnedFrame [Platform] (f : V2FramePayload) : Except FrameError Frame :=
  Frame.new f.width f.height f.pixelFormat f.pixels

/-- A payload of a known type. -/
inductive V2Payload where
  | hello (hello : V2Hello)
  | pointer (pointer : V2Pointer)
  | viewportChanged (viewport : V2Viewport)
  | frame (frame : V2FramePayload)
  deriving DecidableEq

/-- Why a payload is invalid. -/
inductive V2PayloadError where
  | invalidLength (messageType : V2MessageType) (expected actual : Nat)
  | truncatedFrameMetadata (minimum actual : Nat)
  | helloVersion (version : UInt8)
  | unsupportedPixelFormatMask (mask : UInt8)
  | unsupportedPixelFormat (pixelFormat : UInt8)
  | nonZeroReserved (messageType : V2MessageType) (value : UInt32)
  | mono1 (error : Mono1FrameError)
  | gray8 (error : Gray8FrameError)
  deriving DecidableEq

/-- The sixteen bytes in front of a frame's pixels. -/
def framePrefix (frameId : UInt64) (frame : Frame) : List UInt8 :=
  frameId.toBeBytes ++ frame.width.toBeBytes ++ frame.height.toBeBytes ++
    [pixelFormatValue frame.pixelFormat, 0, 0, 0]

/-- Encode a validated framebuffer as one complete Frame message. -/
def encodeV2Frame (frameId : UInt64) (frame : Frame) : Except V2EncodeError (List UInt8) := do
  let payloadLen := V2_FRAME_PREFIX_LEN + frame.pixels.length
  let header ← V2Header.new .frame payloadLen
  return header.encode ++ framePrefix frameId frame ++ frame.pixels

/-- Only a frame has a payload of any length. -/
def requireExactLength (messageType : V2MessageType) (payload : List UInt8) (expected : Nat) :
    Except V2PayloadError Unit :=
  if payload.length = expected then .ok ()
  else .error (.invalidLength messageType expected payload.length)

/-- The payload of a Hello. -/
def decodeHello (payload : List UInt8) : Except V2PayloadError V2Hello := do
  requireExactLength .hello payload V2_HELLO_PAYLOAD_LEN
  if payload.getD 0 0 ≠ V2_VERSION then throw (.helloVersion (payload.getD 0 0))
  let some pixelFormats := V2PixelFormats.fromMask (payload.getD 1 0)
    | throw (.unsupportedPixelFormatMask (payload.getD 1 0))
  let reserved := UInt16.fromBeBytes (slice payload 2 4)
  if reserved ≠ 0 then throw (.nonZeroReserved .hello reserved.toUInt32)
  return .withPixelFormats (UInt16.fromBeBytes (slice payload 4 6))
    (UInt16.fromBeBytes (slice payload 6 8)) pixelFormats

/-- The payload of a contact. -/
def decodePointer (phase : V2PointerPhase) (payload : List UInt8) :
    Except V2PayloadError V2Pointer := do
  requireExactLength phase.messageType payload V2_POINTER_PAYLOAD_LEN
  return ⟨phase, UInt16.fromBeBytes (slice payload 0 2), UInt16.fromBeBytes (slice payload 2 4)⟩

/-- The payload of a viewport. -/
def decodeViewport (payload : List UInt8) : Except V2PayloadError V2Viewport := do
  requireExactLength .viewportChanged payload V2_VIEWPORT_PAYLOAD_LEN
  return ⟨UInt16.fromBeBytes (slice payload 0 2), UInt16.fromBeBytes (slice payload 2 4)⟩

/-- The format a frame's format byte names. -/
def pixelFormatOfValue (value : UInt8) : Except V2PayloadError PixelFormat :=
  if value = MONO1_FORMAT_VALUE then .ok .mono1
  else if value = GRAY8_FORMAT_VALUE then .ok .gray8
  else .error (.unsupportedPixelFormat value)

/-- The row stride of a frame's pixels, validated by its format. -/
def validatePixels [Platform] (pixelFormat : PixelFormat) (width height : UInt16)
    (pixels : List UInt8) : Except V2PayloadError Nat :=
  match pixelFormat with
  | .mono1 => (validateMono1Pixels width height pixels).mapError .mono1
  | .gray8 => (validateGray8Pixels width height pixels).mapError .gray8

/-- The payload of a frame. -/
def decodeFrame [Platform] (payload : List UInt8) : Except V2PayloadError V2FramePayload := do
  if payload.length < V2_FRAME_PREFIX_LEN then
    throw (.truncatedFrameMetadata V2_FRAME_PREFIX_LEN payload.length)
  let frameId := UInt64.fromBeBytes (slice payload 0 8)
  let width := UInt16.fromBeBytes (slice payload 8 10)
  let height := UInt16.fromBeBytes (slice payload 10 12)
  let pixelFormat ← pixelFormatOfValue (payload.getD 12 0)
  let reserved := (payload.getD 13 0).toUInt32 <<< 16 ||| (payload.getD 14 0).toUInt32 <<< 8 |||
    (payload.getD 15 0).toUInt32
  if reserved ≠ 0 then throw (.nonZeroReserved .frame reserved)
  let pixels := payload.drop V2_FRAME_PREFIX_LEN
  let stride ← validatePixels pixelFormat width height pixels
  return ⟨frameId, width, height, pixelFormat, stride, pixels⟩

/-- Decode and validate the typed payload of one complete message. -/
def decodeV2Payload [Platform] (message : V2Message) : Except V2PayloadError V2Payload :=
  match message.messageType with
  | .hello => (decodeHello message.payload).map .hello
  | .pointerDown => (decodePointer .down message.payload).map .pointer
  | .pointerUp => (decodePointer .up message.payload).map .pointer
  | .viewportChanged => (decodeViewport message.payload).map .viewportChanged
  | .frame => (decodeFrame message.payload).map .frame

end PaperPad.Protocol
