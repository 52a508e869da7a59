import PaperPad.Protocol.Reader

/-!
# Device — Inbound

Frames from PaperSpoon: `read_inbound_frame` and `read_v2_frame` of `src/net/mod.rs`.

A received frame keeps its message; its pixels are the bytes behind the frame's prefix.  The time
its reception took is not kept.
-/

namespace PaperPad.Device.Inbound

open Protocol StreamReader

/-- A frame as it is read, with the bytes it came in. -/
structure ReceivedFrame where
  frameId : UInt64
  width : UInt16
  height : UInt16
  pixelFormat : PixelFormat
  stride : Nat
  encoded : List UInt8
  deriving DecidableEq

/-- The pixels in those bytes. -/
def ReceivedFrame.pixels (f : ReceivedFrame) : List UInt8 :=
  f.encoded.drop (V2_HEADER_LEN + V2_FRAME_PREFIX_LEN)

/-- The received frame is this valid frame, and `w` its encoding. -/
structure FrameEncodes (f : ReceivedFrame) (frame : Frame) (w : List UInt8) : Prop where
  encoded : encodeV2Frame f.frameId frame = .ok w
  width_eq : f.width = frame.width
  height_eq : f.height = frame.height
  pixelFormat_eq : f.pixelFormat = frame.pixelFormat
  stride_eq : f.stride = frame.stride
  pixels_eq : f.pixels = frame.pixels
  encoded_eq : f.encoded = w

/-- `w` is the encoding of a valid frame, received as `f`. -/
def FrameEncoding (f : ReceivedFrame) (w : List UInt8) : Prop := ∃ frame, FrameEncodes f frame w

/-- The message of a frame, as it is received. -/
theorem frameEncodes_of_encode {frameId : UInt64} {frame : Frame} {w : List UInt8}
    (h : encodeV2Frame frameId frame = .ok w) :
    FrameEncodes ⟨frameId, frame.width, frame.height, frame.pixelFormat, frame.stride, w⟩
      frame w := by
  have hm : Message.encode (.frame frameId frame) = .ok w := h
  obtain ⟨hd, -, -, rfl⟩ := Message.encode_eq_ok.mp hm
  refine ⟨h, rfl, rfl, rfl, rfl, ?_, rfl⟩
  have hl : (hd.encode ++ framePrefix frameId frame).length =
      V2_HEADER_LEN + V2_FRAME_PREFIX_LEN := by
    rw [List.length_append, V2Header.encode_length, framePrefix_length]
  rw [ReceivedFrame.pixels, Message.body, ← List.append_assoc, List.drop_left' hl]

/-- What is received is fixed by the frame and its encoding. -/
theorem FrameEncodes.eq {f : ReceivedFrame} {frame : Frame} {w : List UInt8}
    (h : FrameEncodes f frame w) :
    f = ⟨f.frameId, frame.width, frame.height, frame.pixelFormat, frame.stride, w⟩ := by
  obtain ⟨frameId, width, height, pixelFormat, stride, encoded⟩ := f
  obtain ⟨-, rfl, rfl, rfl, rfl, -, rfl⟩ := h
  rfl

theorem FrameEncoding.ne_nil {f : ReceivedFrame} {w : List UInt8} (h : FrameEncoding f w) :
    w ≠ [] := by
  obtain ⟨frame, hf⟩ := h
  have hm : Message.encode (.frame f.frameId frame) = .ok w := hf.encoded
  exact encode_ne_nil hm

section Reads

variable [Platform]

/-- Read one message, which must be a frame that is valid. -/
def readV2Frame : ByteRead ReceivedFrame := do
  let (message, encoded) ← readComplete
    ⟨.unexpectedEof, "incomplete protocol-v2 message"⟩
    ⟨.invalidData, "protocol-v2 reader consumed an unexpected byte count"⟩
  if message.messageType ≠ .frame then
    let messageType := message.messageType.debug
    throw ⟨.invalidData, s!"PaperSpoon sent unexpected {messageType} message"⟩
  else
    match ← Read.result (invalidData V2PayloadError.display (decodeV2Payload message)) with
    | .frame frame =>
        return ⟨frame.frameId, frame.width, frame.height, frame.pixelFormat, frame.stride, encoded⟩
    | _ => throw ⟨.invalidData, "PaperSpoon message type and typed payload disagreed"⟩

/-- Read a frame, or nothing where the connection was closed between two. -/
def readInboundFrame : ByteRead (Option ReceivedFrame) := Read.unlessEnd readV2Frame

variable {r r' : ByteReader}

/-- **One frame.**  What is returned is the valid frame whose encoding is in front. -/
theorem readV2Frame_eq_ok {f : ReceivedFrame} :
    readV2Frame r = (.ok f, r') ↔ ∃ w, FrameEncoding f w ∧
      r.rest = w ++ r'.rest ∧ r'.asked = r.asked + w.length := by
  constructor
  · intro h
    obtain ⟨⟨msg, w⟩, r₁, hc, h⟩ := Read.bind_eq_ok.mp h
    dsimp only at h
    by_cases ht : msg.messageType ≠ .frame
    · rw [if_pos ht] at h
      cases h
    · rw [if_neg ht] at h
      obtain ⟨payload, r₂, hr, h⟩ := Read.bind_eq_ok.mp h
      obtain ⟨hp, rfl⟩ := Read.result_eq_ok.mp hr
      obtain ⟨m, rfl, -, -⟩ := decodeV2Payload_eq_ok (invalidData_eq_ok.mp hp)
      obtain ⟨hd, hrest, hasked⟩ := readComplete_eq_ok.mp hc
      rw [hrest] at hd
      have hw := (encode_iff_decodes _).mpr ⟨msg, hd, invalidData_eq_ok.mp hp⟩
      cases m with
      | frame frameId frame =>
          cases h
          exact ⟨w, ⟨frame, frameEncodes_of_encode hw⟩, hrest, hasked⟩
      | hello _ | pointer _ | viewportChanged _ => cases h
  · rintro ⟨w, ⟨frame, hf⟩, hrest, hasked⟩
    have hm : Message.encode (.frame f.frameId frame) = .ok w := hf.encoded
    obtain ⟨msg, hd, hp⟩ := (encode_iff_decodes r'.rest).mp hm
    obtain ⟨m, hm, ht, -⟩ := decodeV2Payload_eq_ok hp
    obtain rfl : Message.frame f.frameId frame = m := payload_injective hm
    have ht : ¬ msg.messageType ≠ .frame := not_not.mpr ht
    rw [← hrest] at hd
    rw [readV2Frame, Read.bind_of_ok (readComplete_eq_ok.mpr ⟨hd, hrest, hasked⟩)]
    dsimp only
    rw [if_neg ht, hp]
    exact congrArg (fun f => (Except.ok f, r')) hf.eq.symm

theorem readV2Frame_input (r : ByteReader) : (readV2Frame r).2 = pastMessage r := by
  rw [readV2Frame, Read.bind_input, readComplete_input]
  rintro ⟨message, encoded⟩ s
  dsimp only
  split
  · rfl
  · refine (Read.bind_input fun payload s' => ?_).trans rfl
    cases payload <;> rfl

theorem readInboundFrame_confined : Confined readInboundFrame :=
  .of_input fun r => by rw [readInboundFrame, Read.unlessEnd_input, readV2Frame_input, pastNext]

/-- `read_inbound_frame`, with the frames it accepts. -/
def frameReader : Reader UInt8 ReceivedFrame IoError where
  read := readInboundFrame
  Enc := FrameEncoding
  ne_nil _ _ h := FrameEncoding.ne_nil h
  ends_iff := Read.unlessEnd_eq_none
  reads_iff {r r' f} := by
    rw [readInboundFrame, Read.unlessEnd_eq_some, readV2Frame_eq_ok]
    refine Iff.intro And.right fun h => ⟨?_, h⟩
    obtain ⟨w, hw, hrest, -⟩ := h
    rw [hrest]
    exact List.append_ne_nil_of_left_ne_nil hw.ne_nil _

/-- `read_inbound_frame` until it stops. -/
def readFrames (r : ByteReader) : Outcome UInt8 (List ReceivedFrame) IoError :=
  frameReader.readAll r

end Reads

end PaperPad.Device.Inbound
