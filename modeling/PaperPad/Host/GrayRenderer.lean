import PaperPad.Host.ApplicationUi
import PaperPad.Host.Font
import PaperPad.Host.MonoRenderer
import PaperPad.Protocol.Framebuffer
import PaperPad.Support.Fallible
import PaperPad.Support.Raster

/-!
# Host — GrayRenderer

The Gray8 canvas of `tools/paperspoon/src/gray_renderer.rs`.  A canvas carries the length of its
pixels.  A slice out of bounds, an arithmetic operation out of the range of its type and a
division by zero panic.  The image crate's conversion to luminance and its `resize` are a
parameter of the source image.
-/

namespace PaperPad.Host

open Protocol Fallible

/-- The most a decoded image may take. -/
def MAX_SOURCE_IMAGE_BYTES : Nat := 256 * 1024 * 1024

/-- A canvas of luminance bytes. -/
structure GrayCanvas (width height : UInt16) where
  pixels : List UInt8
  length_eq : pixels.length = width.toNat * height.toNat
  deriving DecidableEq

/-- A decoded image, with what `image::imageops::resize` of its luminance gives for a size. -/
structure SourceImage where
  width : UInt32
  height : UInt32
  byteLen : Nat
  resize : UInt32 → UInt32 → List UInt8

namespace GrayCanvas

variable {width height : UInt16}

/-- An all-white canvas; `reserve` is what reserving the pixels says. -/
def new [Platform] (width height : UInt16) (reserve : Except String Unit) :
    Except String (GrayCanvas width height) :=
  if width = 0 ∨ height = 0 then
    .error s!"Gray8 target dimensions must be nonzero, got {width}x{height}"
  else
    match checkedMul width.toNat height.toNat with
    | none => .error "Gray8 target payload size overflow"
    | some pixelBytes =>
        match checkedAdd V2_FRAME_PREFIX_LEN pixelBytes with
        | none => .error "Gray8 frame payload size overflow"
        | some payloadBytes =>
            if payloadBytes > V2_MAX_PAYLOAD_LEN then
              .error s!"Gray8 frame payload is {payloadBytes} bytes; maximum is {V2_MAX_PAYLOAD_LEN}"
            else
              match reserve with
              | .error error => .error s!"failed to allocate Gray8 framebuffer: {error}"
              | .ok () =>
                  .ok ⟨List.replicate (width.toNat * height.toNat) 255, List.length_replicate⟩

/-- `self.pixels[start..start + bytes.len()].copy_from_slice(bytes)`. -/
def writeSlice (c : GrayCanvas width height) (start : Nat) (bytes : List UInt8) :
    Fallible (GrayCanvas width height) :=
  if h : start + bytes.length ≤ c.pixels.length then
    .ok ⟨Raster.splice c.pixels start bytes, (Raster.length_splice h).trans c.length_eq⟩
  else .error .panicked

/-- `self.pixels[start..stop].fill(luminance)`. -/
def fillSlice (c : GrayCanvas width height) (start stop : Nat) (luminance : UInt8) :
    Fallible (GrayCanvas width height) := do
  inBounds (start ≤ stop)
  c.writeSlice start (List.replicate (stop - start) luminance)

/-- Set one pixel; `false` outside the canvas. -/
def setPixel [Platform] (c : GrayCanvas width height) (x y : UInt16) (luminance : UInt8) :
    Fallible (GrayCanvas width height × Bool) :=
  if x ≥ width ∨ y ≥ height then .ok (c, false)
  else do
    let index ← unsigned Platform.usizeBits (y.toNat * width.toNat + x.toNat)
    return (← c.writeSlice index [luminance], true)

/-- Fill a rectangle, clipped to the canvas. -/
def fillRect [Platform] (c : GrayCanvas width height) (x y w h : UInt16) (luminance : UInt8) :
    Fallible (GrayCanvas width height) := do
  let right := min (← unsigned 32 (x.toNat + w.toNat)) width.toNat
  let bottom := min (← unsigned 32 (y.toNat + h.toNat)) height.toNat
  let left := (min x width).toNat
  let top := min y.toNat bottom
  (List.range' top (bottom - top)).foldlM
    (fun c row => do
      let start ← unsigned Platform.usizeBits (row * width.toNat + left)
      let stop ← unsigned Platform.usizeBits (row * width.toNat + right)
      c.fillSlice start stop luminance)
    c

/-- The boundary of a rectangle, as four filled ones. -/
def outlineRect [Platform] (c : GrayCanvas width height) (x y w h : UInt16) (luminance : UInt8) :
    Fallible (GrayCanvas width height) :=
  if w = 0 ∨ h = 0 then .ok c
  else do
    let c ← c.fillRect x y w 1 luminance
    let c ← (if h > 1 then c.fillRect x (MonoCanvas.saturatingAdd16 y (h - 1)) w 1 luminance
      else .ok c)
    if h > 2 then do
      let c ← c.fillRect x (MonoCanvas.saturatingAdd16 y 1) 1 (h - 2) luminance
      c.fillRect (MonoCanvas.saturatingAdd16 x (w - 1)) (MonoCanvas.saturatingAdd16 y 1) 1 (h - 2)
        luminance
    else .ok c

/-! ### Text -/

/-- One point of a magnified column. -/
def drawCell [Platform] (c : GrayCanvas width height) (glyphX targetY scale column scaleX : Nat)
    (luminance : UInt8) : Fallible (GrayCanvas width height) := do
  let targetX ← unsigned 32 (glyphX + column * scale + scaleX)
  if targetX < width.toNat then
    return (← c.setPixel (UInt16.ofNat targetX) (UInt16.ofNat targetY) luminance).1
  else .ok c

/-- One raster row of a glyph. -/
def drawGlyphRow [Platform] (c : GrayCanvas width height) (glyphX targetY scale : Nat)
    (rowBits luminance : UInt8) : Fallible (GrayCanvas width height) :=
  (List.range Font.WIDTH).foldlM
    (fun c column =>
      let mask := (1 : UInt8) <<< UInt8.ofNat (Font.WIDTH - 1 - column)
      if rowBits &&& mask = 0 then .ok c
      else
        (List.range scale).foldlM
          (fun c scaleX => c.drawCell glyphX targetY scale column scaleX luminance) c)
    c

/-- One glyph, magnified on both axes and doubled downwards. -/
def drawGlyph [Platform] (c : GrayCanvas width height) (character : Char) (glyphX y scale : Nat)
    (luminance : UInt8) : Fallible (GrayCanvas width height) :=
  (Font.rows character).zipIdx.foldlM
    (fun c row =>
      (List.range Font.VERTICAL_SCALE).foldlM
        (fun c sourceRepeat =>
          (List.range scale).foldlM
            (fun c scaleY => do
              let targetY ← unsigned 32
                (y + (row.2 * Font.VERTICAL_SCALE + sourceRepeat) * scale + scaleY)
              if targetY ≥ height.toNat then .ok c
              else c.drawGlyphRow glyphX targetY scale row.1 luminance)
            c)
        c)
    c

/-- The glyphs of a text from a column on, up to the right edge. -/
def drawGlyphs [Platform] (y scale : Nat) (luminance : UInt8) :
    List Char → Nat → GrayCanvas width height → Fallible (GrayCanvas width height)
  | [], _, c => .ok c
  | character :: rest, glyphX, c =>
      if glyphX ≥ width.toNat then .ok c
      else do
        let c ← c.drawGlyph character glyphX y scale luminance
        let advance ← unsigned 32 (Font.ADVANCE * scale)
        -- `glyph_x.checked_add` on `u32`
        if glyphX + advance < 2 ^ 32 then drawGlyphs y scale luminance rest (glyphX + advance) c
        else .ok c

/-- Draw text at a top-left origin; `scale` expands both font axes. -/
def drawText [Platform] (c : GrayCanvas width height) (x y : UInt16) (text : String)
    (scale : UInt16) (luminance : UInt8) : Fallible (GrayCanvas width height) :=
  let scale := max scale.toNat 1
  drawGlyphs y.toNat scale luminance text.toList x.toNat c

/-! ### Images -/

end GrayCanvas

/-- The largest size of the source's proportions inside the target. -/
def fitDimensions (sourceWidth sourceHeight targetWidth targetHeight : UInt32) :
    Fallible (UInt32 × UInt32) := do
  let across ← unsigned 64 (sourceWidth.toNat * targetHeight.toNat)
  let down ← unsigned 64 (targetWidth.toNat * sourceHeight.toNat)
  if across > down then
    let product ← unsigned 64 (sourceHeight.toNat * targetWidth.toNat)
    let scaledHeight := max (← divide product sourceWidth.toNat) 1
    return (targetWidth, UInt32.ofNat scaledHeight)
  else
    let product ← unsigned 64 (sourceWidth.toNat * targetHeight.toNat)
    let scaledWidth := max (← divide product sourceHeight.toNat) 1
    return (UInt32.ofNat scaledWidth, targetHeight)

namespace GrayCanvas

variable {width height : UInt16}

/-- One row of the scaled image. -/
def copyRow [Platform] (c : GrayCanvas width height) (scaled : List UInt8)
    (offsetX offsetY scaledWidth row : Nat) : Fallible (GrayCanvas width height) := do
  let sourceStart ← unsigned Platform.usizeBits (row * scaledWidth)
  let destinationStart ← unsigned Platform.usizeBits ((offsetY + row) * width.toNat + offsetX)
  inBounds (sourceStart + scaledWidth ≤ scaled.length)
  c.writeSlice destinationStart ((scaled.drop sourceStart).take scaledWidth)

/-- Fit an image inside a clipped rectangle on a white background; a call that fails with an
error has drawn nothing. -/
def drawImageFitContain [Platform] (c : GrayCanvas width height) (source : SourceImage)
    (x y w h : UInt16) : Fallible (GrayCanvas width height) :=
  if source.width = 0 ∨ source.height = 0 then
    .error (.error ["source image dimensions must be nonzero"])
  else if source.byteLen > MAX_SOURCE_IMAGE_BYTES then
    .error (.error
      [s!"source image requires {source.byteLen} bytes; maximum is {MAX_SOURCE_IMAGE_BYTES}"])
  else
    let clippedWidth := min w (saturatingSub16 width x)
    let clippedHeight := min h (saturatingSub16 height y)
    if clippedWidth = 0 ∨ clippedHeight = 0 then .ok c
    else do
      let c ← c.fillRect x y clippedWidth clippedHeight 255
      let (scaledWidth, scaledHeight) ←
        fitDimensions source.width source.height clippedWidth.toUInt32 clippedHeight.toUInt32
      let scaled := source.resize scaledWidth scaledHeight
      inBounds (scaledWidth.toNat ≤ clippedWidth.toNat)
      let offsetX ← unsigned Platform.usizeBits
        (x.toNat + (clippedWidth.toNat - scaledWidth.toNat) / 2)
      inBounds (scaledHeight.toNat ≤ clippedHeight.toNat)
      let offsetY ← unsigned Platform.usizeBits
        (y.toNat + (clippedHeight.toNat - scaledHeight.toNat) / 2)
      (List.range scaledHeight.toNat).foldlM
        (fun c row => c.copyRow scaled offsetX offsetY scaledWidth.toNat row) c

/-- Validate and freeze the canvas. -/
def intoFrame [Platform] (c : GrayCanvas width height) : Except String Gray8Frame :=
  (Gray8Frame.new width height c.pixels).mapError fun error =>
    s!"failed to build Gray8 frame: {error.display}"

end GrayCanvas

end PaperPad.Host
