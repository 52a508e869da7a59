import PaperPad.Host.ApplicationRenderer
import PaperPad.Host.Diagnostic
import PaperPad.Host.GrayRenderer
import PaperPad.Protocol.Reader

/-!
# Host — Guards

The size guards of the host's three producers and of the wire.  Each computes a payload length in
its own way, partly with checked and partly with plain additions; `LengthsExact` says that none of
them overflows for any two `u16` dimensions, so that every guard compares the same number with the
same cap (`sizeGuards_agree`), on 32 and 64 bits alike.

The mono pixels of a diagnostic are valid because its loops only paint inside the width
(`mono1Pixels_valid`); the other producers freeze a canvas that carries its validity.
-/

namespace PaperPad.Host

open Protocol Fallible

/-! ### The line the guards draw -/

/-- No length computed of a size overflows, checked or not. -/
structure LengthsExact [Platform] (fmt : PixelFormat) (width height : UInt16) : Prop where
  pixels : payloadLen fmt width height = some (pixelLen fmt width height)
  payload : checkedAdd V2_FRAME_PREFIX_LEN (pixelLen fmt width height) =
    some (V2_FRAME_PREFIX_LEN + pixelLen fmt width height)
  encoded : ∀ f : Frame, f.pixelFormat = fmt → f.width = width → f.height = height →
    f.pixels.length = pixelLen fmt width height ∧
      V2_FRAME_PREFIX_LEN + f.pixels.length < 2 ^ Platform.usizeBits
  message : ∀ header : V2Header, header.messageLen < 2 ^ Platform.usizeBits

/-- The wire carries a frame: it is encoded, and both decoders accept it as it was. -/
def Carried [Platform] (frameId : UInt64) (f : Frame) (bytes : List UInt8) : Prop :=
  encodeV2Frame frameId f = .ok bytes ∧
    ∃ message, decodeV2Message bytes = .ok (.complete message bytes.length) ∧
      decodeV2Payload message = .ok (.frame (framePayload frameId f))

theorem length_pixels (f : Frame) :
    f.pixels.length = pixelLen f.pixelFormat f.width f.height := by
  cases f with
  | mono1 f =>
      have h := f.valid.length_eq
      rw [f.valid.stride_eq] at h
      exact h
  | gray8 f =>
      have h := f.valid.length_eq
      rw [f.valid.stride_eq] at h
      exact h

theorem width_height_ne (f : Frame) : f.width ≠ 0 ∧ f.height ≠ 0 := by
  cases f with
  | mono1 f => exact ⟨f.valid.width_ne, f.valid.height_ne⟩
  | gray8 f => exact ⟨f.valid.width_ne, f.valid.height_ne⟩

theorem lengthsExact [Platform] (fmt : PixelFormat) (width height : UInt16) :
    LengthsExact fmt width height where
  pixels := payloadLen_eq fmt width height
  payload := checkedAdd_of_lt (prefix_add_pixelLen_lt fmt width height)
  encoded f hf hw hh := by
    have hlen : f.pixels.length = pixelLen fmt width height := by
      rw [length_pixels, hf, hw, hh]
    refine ⟨hlen, ?_⟩
    rw [hlen]
    exact lt_of_lt_of_le (prefix_add_pixelLen_lt fmt width height) two_pow_32_le_usize
  message header := by
    calc header.messageLen ≤ V2_HEADER_LEN + V2_MAX_PAYLOAD_LEN := header.messageLen_le
      _ < 2 ^ 32 := by decide
      _ ≤ 2 ^ Platform.usizeBits := two_pow_32_le_usize

/-! ### The wire -/

/-- What the encoder writes, both decoders read back. -/
theorem carried_of_encode [Platform] {frameId : UInt64} {f : Frame} {bytes : List UInt8}
    (h : encodeV2Frame frameId f = .ok bytes) : Carried frameId f bytes := by
  have hm : (Message.frame frameId f).encode = .ok bytes := h
  obtain ⟨message, hc, hp⟩ := (encode_iff_decodes []).mp hm
  rw [List.append_nil] at hc
  exact ⟨h, message, hc, hp⟩

/-- The encoder's own guard is the same line. -/
theorem encodeV2Frame_eq_ok_iff {frameId : UInt64} {f : Frame} :
    (∃ bytes, encodeV2Frame frameId f = .ok bytes) ↔
      WithinCap f.pixelFormat f.width f.height := by
  have hbody : (Message.frame frameId f).body.length =
      V2_FRAME_PREFIX_LEN + pixelLen f.pixelFormat f.width f.height := by
    rw [Message.body, List.length_append, framePrefix_length, length_pixels]
  have hfits := (Message.frame frameId f).fits_iff
  rw [Message.Fits, hbody] at hfits
  constructor
  · intro h
    obtain ⟨hw, hh⟩ := width_height_ne f
    exact ⟨hw, hh, hfits.mpr h⟩
  · rintro ⟨-, -, h⟩
    exact hfits.mp h

theorem carried_of_withinCap [Platform] (frameId : UInt64) {f : Frame} {fmt : PixelFormat}
    {width height : UInt16} (hf : f.pixelFormat = fmt) (hw : f.width = width)
    (hh : f.height = height) (h : WithinCap fmt width height) :
    ∃ bytes, Carried frameId f bytes := by
  obtain ⟨bytes, hb⟩ := encodeV2Frame_eq_ok_iff.mpr (hf ▸ hw ▸ hh ▸ h)
  exact ⟨bytes, carried_of_encode hb⟩

/-! ### Diagnostics -/

namespace DiagnosticFrame

theorem valid_replicate {width height : UInt16} (hw : width ≠ 0) (hh : height ≠ 0) :
    Mono1Valid width height (mono1Stride width)
      (List.replicate (mono1Stride width * height.toNat) 0) where
  width_ne := hw
  height_ne := hh
  stride_eq := rfl
  length_eq := List.length_replicate
  padding _ row _ := by
    have hzero : finalByte (mono1Stride width)
        (List.replicate (mono1Stride width * height.toNat) 0) row = 0 := by
      rw [finalByte, List.getD_eq_getElem?_getD, List.getElem?_replicate]
      split
      · rfl
      · rfl
    rw [hzero]
    exact UInt8.zero_and

/-- Every pixel that is set is inside the width, so the padding stays white. -/
theorem mono1Pixels_valid (d : DiagnosticFrame) :
    Mono1Valid d.width d.height (mono1Stride d.width)
      (d.mono1Pixels (pixelLen .mono1 d.width d.height)) := by
  obtain ⟨hw, hh⟩ := d.nonzero
  simp only [mono1Pixels, pixelLen]
  -- the outer loop over the rows, the inner one over the columns of a row
  apply List.foldlRecOn (motive := Mono1Valid d.width d.height (mono1Stride d.width))
  · exact valid_replicate hw hh
  · intro pixels hpixels y hy
    apply List.foldlRecOn (motive := Mono1Valid d.width d.height (mono1Stride d.width))
    · exact hpixels
    · intro pixels hpixels x hx
      split
      · have hxlt := List.mem_range.mp hx
        have hylt := List.mem_range.mp hy
        have hx16 : (UInt16.ofNat x).toNat = x :=
          UInt16.toNat_ofNat_of_lt' (lt_trans hxlt d.width.toNat_lt)
        have hy16 : (UInt16.ofNat y).toNat = y :=
          UInt16.toNat_ofNat_of_lt' (lt_trans hylt d.height.toNat_lt)
        have hinside : UInt16.ofNat x < d.width := by
          rw [UInt16.lt_iff_toNat_lt, hx16]
          exact hxlt
        have hmodify := valid_modify hpixels (y := UInt16.ofNat y) hinside .black
        rw [hx16, hy16] at hmodify
        exact hmodify
      · exact hpixels

theorem gray8Pixels_valid (d : DiagnosticFrame) :
    Gray8Valid d.width d.height (gray8Stride d.width) d.gray8Pixels where
  width_ne := d.nonzero.1
  height_ne := d.nonzero.2
  stride_eq := rfl
  length_eq := by
    simp only [gray8Pixels, List.length_flatMap, List.length_map, List.length_range,
      List.map_const', List.sum_replicate_nat, gray8Stride]
    exact Nat.mul_comm _ _

/-- A diagnostic has a frame if its size can be sent. -/
theorem exists_frame [Platform] {d : DiagnosticFrame}
    (h : WithinCap d.pixelFormat d.width d.height) : ∃ f, d.frame = .ok f := by
  obtain ⟨f, hf⟩ : ∃ f : Frame, f.width = d.width ∧ f.height = d.height ∧
      f.pixelFormat = d.pixelFormat ∧ f.pixels = d.pixels := by
    rw [pixels]
    cases d.pixelFormat with
    | mono1 => exact ⟨.mono1 ⟨_, _, _, _, d.mono1Pixels_valid⟩, rfl, rfl, rfl, rfl⟩
    | gray8 => exact ⟨.gray8 ⟨_, _, _, _, d.gray8Pixels_valid⟩, rfl, rfl, rfl, rfl⟩
  exact ⟨f, frame_eq_ok_iff.mpr ⟨h, hf⟩⟩

/-- An encoded diagnostic is the wire form of its frame. -/
theorem encode_carried [Platform] {d : DiagnosticFrame} {frameId : UInt64} {bytes : List UInt8}
    (h : d.encode frameId = .ok bytes) :
    WithinCap d.pixelFormat d.width d.height ∧ ∃ f, f.width = d.width ∧ f.height = d.height ∧
      f.pixelFormat = d.pixelFormat ∧ f.pixels = d.pixels ∧ Carried frameId f bytes := by
  obtain ⟨f, hf, he⟩ := encode_eq_ok.mp h
  obtain ⟨hs, hw, hh, hfmt, hp⟩ := frame_eq_ok_iff.mp hf
  exact ⟨hs, f, hw, hh, hfmt, hp, carried_of_encode he⟩

theorem encode_eq_ok_iff [Platform] {d : DiagnosticFrame} (frameId : UInt64) :
    (∃ bytes, d.encode frameId = .ok bytes) ↔ WithinCap d.pixelFormat d.width d.height := by
  constructor
  · rintro ⟨bytes, h⟩
    exact (encode_carried h).1
  · intro h
    obtain ⟨f, hf⟩ := exists_frame h
    obtain ⟨-, hw, hh, hfmt, -⟩ := frame_eq_ok_iff.mp hf
    obtain ⟨bytes, he, -⟩ := carried_of_withinCap frameId hfmt hw hh h
    exact ⟨bytes, encode_eq_ok.mpr ⟨f, hf, he⟩⟩

end DiagnosticFrame

/-- `DiagnosticFrame::encode` of any size, also of those that `parse_dimensions` rejects. -/
def encodeDiagnostic [Platform] (pattern : DiagnosticPattern) (width height : UInt16)
    (frameId : UInt64) : Fallible (List UInt8) :=
  if h : width ≠ 0 ∧ height ≠ 0 then
    ((⟨pattern, width, height, h⟩ : DiagnosticFrame).encode frameId).mapError fun error =>
      .error [error]
  else
    -- there are no pixels: the guards pass, and the constructor of the frame rejects the size
    match pattern.pixelFormat with
    | .mono1 =>
        let error := Mono1FrameError.zeroDimension width height
        .error (.error [s!"failed to build diagnostic frame: {error.display}"])
    | .gray8 =>
        let error := Gray8FrameError.zeroDimension width height
        -- `chunks_exact_mut(0)` comes before the constructor
        if width = 0 then .error .panicked
        else .error (.error [s!"failed to build diagnostic frame: {error.display}"])

theorem encodeDiagnostic_eq_ok [Platform] {pattern : DiagnosticPattern} {width height : UInt16}
    {frameId : UInt64} {bytes : List UInt8} :
    encodeDiagnostic pattern width height frameId = .ok bytes ↔
      ∃ h, (⟨pattern, width, height, h⟩ : DiagnosticFrame).encode frameId = .ok bytes := by
  simp only [encodeDiagnostic]
  by_cases h : width ≠ 0 ∧ height ≠ 0
  · rw [dif_pos h]
    constructor
    · intro he
      exact ⟨h, Except.mapError_eq_ok.mp he⟩
    · rintro ⟨_, he⟩
      exact Except.mapError_eq_ok.mpr he
  · rw [dif_neg h]
    constructor
    · intro he
      split at he
      · cases he
      · split at he <;> cases he
    · rintro ⟨hne, -⟩
      exact absurd hne h

/-! ### Canvases -/

namespace GrayCanvas

variable {width height : UInt16}

/-- **When a canvas can be made**: exactly for the sizes that can be sent. -/
theorem new_eq_ok_iff [Platform] :
    (∃ c : GrayCanvas width height, new width height (.ok ()) = .ok c) ↔
      WithinCap .gray8 width height := by
  have hlen : checkedMul width.toNat height.toNat = some (pixelLen .gray8 width height) :=
    payloadLen_eq .gray8 width height
  have hsum := checkedAdd_of_lt (prefix_add_pixelLen_lt .gray8 width height)
  simp only [new]
  by_cases hzero : width = 0 ∨ height = 0
  · rw [if_pos hzero]
    constructor
    · rintro ⟨c, hc⟩
      cases hc
    · rintro ⟨hw, hh, -⟩
      exact absurd hzero (not_or.mpr ⟨hw, hh⟩)
  · obtain ⟨hw, hh⟩ := not_or.mp hzero
    simp only [if_neg hzero, hlen, hsum, guarded_eq_ok hw hh Iff.rfl]
    constructor
    · rintro ⟨c, h, -⟩
      exact h
    · intro h
      exact ⟨_, h, rfl⟩

/-- Only a canvas whose reservation succeeds is made. -/
theorem new_of_reserve [Platform] {reserve : Except String Unit} {c : GrayCanvas width height}
    (h : new width height reserve = .ok c) : new width height (.ok ()) = .ok c := by
  cases reserve with
  | ok _ => exact h
  | error e =>
      simp only [new] at h
      split at h
      · cases h
      · split at h
        · cases h
        · split at h
          · cases h
          · split at h <;> cases h

/-- **Freezing never fails**, whatever was drawn. -/
theorem intoFrame_eq_ok [Platform] (c : GrayCanvas width height) (hw : width ≠ 0)
    (hh : height ≠ 0) :
    ∃ f, c.intoFrame = .ok f ∧ f.width = width ∧ f.height = height ∧ f.pixels = c.pixels := by
  have hvalid : Gray8Valid width height (gray8Stride width) c.pixels :=
    ⟨hw, hh, rfl, c.length_eq⟩
  have hnew : Gray8Frame.new width height c.pixels = .ok ⟨_, _, _, _, hvalid⟩ :=
    Gray8Frame.new_eq_ok.mpr ⟨rfl, rfl, rfl⟩
  rw [intoFrame, hnew]
  exact ⟨_, rfl, rfl, rfl, rfl⟩

end GrayCanvas

/-! ### All guards together -/

/-- Every producer makes a frame of a size exactly if that size can be sent, and the wire carries
what is made. -/
structure SizeGuardsAgree [Platform] (width height : UInt16) : Prop where
  lengths : ∀ fmt, LengthsExact fmt width height
  /-- The index the loops over mono pixels compute. -/
  indexed : ∀ x y, x < width → y < height →
    y.toNat * mono1Stride width + x.toNat / 8 < pixelLen .mono1 width height
  diagnostic : ∀ pattern frameId,
    (∃ bytes, encodeDiagnostic pattern width height frameId = .ok bytes) ↔
      WithinCap pattern.pixelFormat width height
  application : ∀ ui, (∃ f, renderApplicationBounded ui width height = .ok f) ↔
    WithinCap .mono1 width height
  canvas : (∃ (c : GrayCanvas width height) (f : Gray8Frame),
    GrayCanvas.new width height (.ok ()) = .ok c ∧ c.intoFrame = .ok f) ↔
      WithinCap .gray8 width height
  diagnostic_carried : ∀ pattern frameId bytes,
    encodeDiagnostic pattern width height frameId = .ok bytes →
      ∃ h f, f.width = width ∧ f.height = height ∧ f.pixelFormat = pattern.pixelFormat ∧
        f.pixels = (⟨pattern, width, height, h⟩ : DiagnosticFrame).pixels ∧
          Carried frameId f bytes
  application_carried : ∀ ui f, renderApplicationBounded ui width height = .ok f →
    f.width = width ∧ f.height = height ∧
      ∀ frameId, ∃ bytes, Carried frameId (.mono1 f) bytes
  /-- `c` is the canvas after any drawing on it. -/
  canvas_carried : ∀ reserve (made c : GrayCanvas width height),
    GrayCanvas.new width height reserve = .ok made →
      ∃ f, c.intoFrame = .ok f ∧ f.width = width ∧ f.height = height ∧ f.pixels = c.pixels ∧
        ∀ frameId, ∃ bytes, Carried frameId (.gray8 f) bytes

/-- **Size guards.**  Of every size, every producer makes a frame exactly if both dimensions are
nonzero and the payload is within the cap; every frame made is encoded and accepted as it was; and
no length overflows. -/
theorem sizeGuards_agree [Platform] (width height : UInt16) : SizeGuardsAgree width height where
  lengths fmt := lengthsExact fmt width height
  indexed _ _ hx hy := pixelIndex_lt hx hy
  diagnostic pattern frameId := by
    simp only [encodeDiagnostic_eq_ok]
    constructor
    · rintro ⟨bytes, h, he⟩
      exact (DiagnosticFrame.encode_eq_ok_iff frameId).mp ⟨bytes, he⟩
    · intro h
      obtain ⟨bytes, he⟩ := (DiagnosticFrame.encode_eq_ok_iff
        (d := ⟨pattern, width, height, h.1, h.2.1⟩) frameId).mpr h
      exact ⟨bytes, _, he⟩
  application ui := renderApplicationBounded_eq_ok_iff
  canvas := by
    rw [← GrayCanvas.new_eq_ok_iff]
    constructor
    · rintro ⟨c, f, hc, -⟩
      exact ⟨c, hc⟩
    · rintro ⟨c, hc⟩
      obtain ⟨hw, hh, -⟩ := GrayCanvas.new_eq_ok_iff.mp ⟨c, hc⟩
      obtain ⟨f, hf, -⟩ := c.intoFrame_eq_ok hw hh
      exact ⟨c, f, hc, hf⟩
  diagnostic_carried pattern frameId bytes h := by
    obtain ⟨hne, he⟩ := encodeDiagnostic_eq_ok.mp h
    obtain ⟨-, f, hf⟩ := DiagnosticFrame.encode_carried he
    exact ⟨hne, f, hf⟩
  application_carried ui f h := by
    obtain ⟨hw, hh⟩ := renderApplicationBounded_dimensions h
    have hs : WithinCap .mono1 width height := renderApplicationBounded_eq_ok_iff.mp ⟨f, h⟩
    exact ⟨hw, hh, fun frameId => carried_of_withinCap frameId rfl hw hh hs⟩
  canvas_carried reserve made c h := by
    have hs := GrayCanvas.new_eq_ok_iff.mp ⟨made, GrayCanvas.new_of_reserve h⟩
    obtain ⟨f, hf, hw, hh, hp⟩ := c.intoFrame_eq_ok hs.1 hs.2.1
    exact ⟨f, hf, hw, hh, hp, fun frameId => carried_of_withinCap frameId rfl hw hh hs⟩

end PaperPad.Host
