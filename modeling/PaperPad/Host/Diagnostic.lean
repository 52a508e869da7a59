import PaperPad.Host.MonoRenderer

/-!
# Host — Diagnostic

The host-generated test frames of `tools/paperspoon/src/diagnostic.rs`.  A `DiagnosticFrame` is a
pattern and a size; its pixels are computed each time it is encoded.  `parse_dimensions`, which
every diagnostic frame comes from, rejects zero dimensions, so the structure carries that.
-/

namespace PaperPad.Host

open Protocol

/-- The test pictures. -/
inductive DiagnosticPattern where
  | white
  | black
  | horizontal
  | checkerboard
  | border
  | corners
  | grayGradient
  | grayBars
  | gray (value : UInt8)
  deriving DecidableEq, Repr

/-- Four differently sized filled blocks make every corner distinguishable. -/
def cornerMarker (x y width height : UInt16) : Bool :=
  let largest := min (min width height) 256
  let topRight := max (largest * 3 / 4) 1
  let bottomLeft := max (largest / 2) 1
  let bottomRight := max (largest / 4) 1
  let fromRight (size : UInt16) := if size ≤ width then width - size else 0
  let fromBottom (size : UInt16) := if size ≤ height then height - size else 0
  (x < largest && y < largest) || (x ≥ fromRight topRight && y < topRight) ||
    (x < bottomLeft && y ≥ fromBottom bottomLeft) ||
    (x ≥ fromRight bottomRight && y ≥ fromBottom bottomRight)

namespace DiagnosticPattern

/-- The format a picture is sent in. -/
def pixelFormat : DiagnosticPattern → PixelFormat
  | white | black | horizontal | checkerboard | border | corners => .mono1
  | grayGradient | grayBars | gray _ => .gray8

/-- The Mono1 patterns; the source panics on the others, which it never asks for. -/
def isBlack (pattern : DiagnosticPattern) (x y width height : UInt16) : Bool :=
  match pattern with
  | white => false
  | black => true
  | horizontal => y &&& 1 == 0
  | checkerboard => (x ^^^ y) &&& 1 == 0
  | border => x == 0 || y == 0 || x == width - 1 || y == height - 1
  | corners => cornerMarker x y width height
  | grayGradient | grayBars | gray _ => false

/-- The Gray8 patterns; the source panics on the others, which it never asks for. -/
def gray8Value (pattern : DiagnosticPattern) (x width : UInt16) : UInt8 :=
  match pattern with
  | grayGradient =>
      if width = 1 then 0 else UInt8.ofNat (x.toNat * 255 / (width.toNat - 1))
  | grayBars => UInt8.ofNat (min (x.toNat * 16 / width.toNat) 15) * 17
  | gray value => value
  | white | black | horizontal | checkerboard | border | corners => 0

end DiagnosticPattern

/-- A picture and its size, which is not zero. -/
structure DiagnosticFrame where
  pattern : DiagnosticPattern
  width : UInt16
  height : UInt16
  nonzero : width ≠ 0 ∧ height ≠ 0
  deriving DecidableEq

namespace DiagnosticFrame

/-- Its size. -/
def dimensions (d : DiagnosticFrame) : UInt16 × UInt16 := (d.width, d.height)

/-- Its format. -/
def pixelFormat (d : DiagnosticFrame) : PixelFormat := d.pattern.pixelFormat

/-- The packed pixels of a Mono1 pattern. -/
def mono1Pixels (d : DiagnosticFrame) (pixelBytes : Nat) : List UInt8 :=
  let stride := mono1Stride d.width
  (List.range d.height.toNat).foldl
    (fun pixels y =>
      (List.range d.width.toNat).foldl
        (fun pixels x =>
          if d.pattern.isBlack (UInt16.ofNat x) (UInt16.ofNat y) d.width d.height then
            pixels.modify (y * stride + x / 8) fun byte => byte ||| pixelMask (UInt16.ofNat x)
          else pixels)
        pixels)
    (List.replicate pixelBytes 0)

/-- The pixels of a Gray8 pattern: every row is the same. -/
def gray8Pixels (d : DiagnosticFrame) : List UInt8 :=
  (List.range d.height.toNat).flatMap fun _ =>
    (List.range d.width.toNat).map fun x => d.pattern.gray8Value (UInt16.ofNat x) d.width

/-- The pixels of a diagnostic. -/
def pixels (d : DiagnosticFrame) : List UInt8 :=
  match d.pixelFormat with
  | .mono1 => d.mono1Pixels (pixelLen .mono1 d.width d.height)
  | .gray8 => d.gray8Pixels

/-- The frame a diagnostic stands for. -/
def frame [Platform] (d : DiagnosticFrame) : Except String Frame := do
  let lengthOf :=
    match d.pixelFormat with
    | .mono1 => mono1PayloadLen d.width d.height
    | .gray8 => gray8PayloadLen d.width d.height
  let some pixelBytes := lengthOf
    | throw "diagnostic frame dimensions overflow payload size"
  let some payloadBytes := checkedAdd V2_FRAME_PREFIX_LEN pixelBytes
    | throw "diagnostic frame payload size overflow"
  if payloadBytes > V2_MAX_PAYLOAD_LEN then
    throw s!"diagnostic frame payload is {payloadBytes} bytes; maximum is {V2_MAX_PAYLOAD_LEN}"
  match d.pixelFormat with
  | .mono1 =>
      ((Mono1Frame.new d.width d.height (d.mono1Pixels pixelBytes)).map Frame.mono1).mapError
        fun error => s!"failed to build diagnostic frame: {error.display}"
  | .gray8 =>
      ((Gray8Frame.new d.width d.height d.gray8Pixels).map Frame.gray8).mapError
        fun error => s!"failed to build diagnostic frame: {error.display}"

/-- The message with the picture, as the id'th frame. -/
def encode [Platform] (d : DiagnosticFrame) (frameId : UInt64) : Except String (List UInt8) := do
  let frame ← d.frame
  (encodeV2Frame frameId frame).mapError fun error =>
    s!"failed to encode diagnostic frame: {error.display}"

/-- What is encoded is a frame of the diagnostic, always the same. -/
theorem encode_eq_ok [Platform] {d : DiagnosticFrame} {frameId : UInt64} {bytes : List UInt8} :
    d.encode frameId = .ok bytes ↔
      ∃ f, d.frame = .ok f ∧ encodeV2Frame frameId f = .ok bytes := by
  simp only [encode, Except.bind_eq_ok, Except.mapError_eq_ok]

/-- **What a diagnostic becomes**: the frame of its size, format and pixels, if it can be sent. -/
theorem frame_eq_ok_iff [Platform] {d : DiagnosticFrame} {f : Frame} :
    d.frame = .ok f ↔ WithinCap d.pixelFormat d.width d.height ∧ f.width = d.width ∧
      f.height = d.height ∧ f.pixelFormat = d.pixelFormat ∧ f.pixels = d.pixels := by
  obtain ⟨hw, hh⟩ := d.nonzero
  have hsum := prefix_add_pixelLen_lt d.pixelFormat d.width d.height
  have hlen := payloadLen_eq d.pixelFormat d.width d.height
  simp only [frame, pixels]
  cases hf : d.pixelFormat with
  | mono1 =>
      simp only [hf, payloadLen] at hsum hlen
      simp only [hlen, checkedAdd_of_lt hsum]
      refine guarded_eq_ok hw hh ?_
      rw [Except.map_mapError_eq_ok, ← Frame.new_eq_ok, Frame.new, Except.map_mapError_eq_ok]
  | gray8 =>
      simp only [hf, payloadLen] at hsum hlen
      simp only [hlen, checkedAdd_of_lt hsum]
      refine guarded_eq_ok hw hh ?_
      rw [Except.map_mapError_eq_ok, ← Frame.new_eq_ok, Frame.new, Except.map_mapError_eq_ok]

theorem frame_dimensions [Platform] {d : DiagnosticFrame} {f : Frame} (h : d.frame = .ok f) :
    (f.width, f.height) = d.dimensions ∧ f.pixelFormat = d.pixelFormat := by
  obtain ⟨-, hw, hh, hfmt, -⟩ := frame_eq_ok_iff.mp h
  exact ⟨by rw [hw, hh]; rfl, hfmt⟩

end DiagnosticFrame

end PaperPad.Host
