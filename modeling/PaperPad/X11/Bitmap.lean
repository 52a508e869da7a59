import PaperPad.Protocol.Framebuffer
import PaperPad.Protocol.V2
import PaperPad.Support.Raster

/-!
# X11 — Bitmap

`src/x11/framebuffer.rs`: wire `Mono1` pixels adapted to the server's native XYBitmap layout.  A
setup gives the bit order inside a scanline unit, the byte order that serializes the unit, and the
row padding.

`BitmapFormat` and `X11BitmapAdapter` carry what their constructors check, `PreparedBitmap` that
its chunks are not empty.  The rows of a bitmap are disjoint, so each row's slice still holds
zeros when its loop starts.
-/

namespace PaperPad.X11

open Protocol Raster

/-- Bytes preceding image data in a core X11 `PutImage` request. -/
def PUT_IMAGE_REQUEST_HEADER_BYTES : Nat := 24

/-- An order as a setup reports it, in one byte. -/
structure ImageOrder where
  value : UInt8
  deriving DecidableEq

namespace ImageOrder

/-- The orders a server can name. -/
def LSB_FIRST : ImageOrder := ⟨0⟩

def MSB_FIRST : ImageOrder := ⟨1⟩

/-- It is one of the two. -/
def Supported (o : ImageOrder) : Prop := o = LSB_FIRST ∨ o = MSB_FIRST

instance (o : ImageOrder) : Decidable o.Supported := inferInstanceAs (Decidable (_ ∨ _))

end ImageOrder

/-- Why there is no adapter or no bitmap. -/
inductive BitmapError where
  | unsupportedByteOrder (order : ImageOrder)
  | unsupportedBitOrder (order : ImageOrder)
  | unsupportedUnit (bits : UInt8)
  | unsupportedPad (bits : UInt8)
  | unitExceedsPad (unit pad : UInt8)
  | requestTooSmall (maximum : Nat)
  | pixels (error : Mono1FrameError)
  | rowTooLong (maximumDataBytes stride : Nat)
  deriving DecidableEq

/-- The text of a `BitmapError`; `debug` is `{:?}` of an order. -/
def BitmapError.display (debug : ImageOrder → String) : BitmapError → String
  | .unsupportedByteOrder order => "unsupported X11 image byte order " ++ debug order
  | .unsupportedBitOrder order => "unsupported X11 bitmap bit order " ++ debug order
  | .unsupportedUnit bits => s!"unsupported X11 bitmap scanline unit {bits} bits"
  | .unsupportedPad bits => s!"unsupported X11 bitmap scanline padding {bits} bits"
  | .unitExceedsPad unit pad => s!"X11 bitmap scanline unit {unit} exceeds padding {pad}"
  | .requestTooSmall maximum =>
      s!"X11 maximum request size {maximum} cannot hold PutImage header"
  | .pixels error => error.display
  | .rowTooLong maximumDataBytes stride =>
      s!"X11 maximum request payload {maximumDataBytes} cannot hold one {stride}-byte bitmap row"

/-! ### Formats -/

/-- A width of a scanline unit or of the row padding, in bits. -/
def SupportedBits (bits : Nat) : Prop := bits = 8 ∨ bits = 16 ∨ bits = 32

instance (bits : Nat) : Decidable (SupportedBits bits) := inferInstanceAs (Decidable (_ ∨ _))

/-- A setup whose bitmaps the adapter can prepare. -/
structure Supported (imageByteOrder bitmapBitOrder : ImageOrder)
    (scanlineUnitBits scanlinePadBits : Nat) : Prop where
  byteOrder : imageByteOrder.Supported
  bitOrder : bitmapBitOrder.Supported
  unit : SupportedBits scanlineUnitBits
  pad : SupportedBits scanlinePadBits
  unit_le_pad : scanlineUnitBits ≤ scanlinePadBits

/-- How the server wants its bitmaps. -/
structure BitmapFormat where
  imageByteOrder : ImageOrder
  bitmapBitOrder : ImageOrder
  scanlineUnitBits : Nat
  scanlinePadBits : Nat
  supported : Supported imageByteOrder bitmapBitOrder scanlineUnitBits scanlinePadBits

namespace BitmapFormat

/-- The format of a setup, if it is supported. -/
def new (imageByteOrder bitmapBitOrder : ImageOrder) (scanlineUnitBits scanlinePadBits : UInt8) :
    Except BitmapError BitmapFormat :=
  if h₁ : imageByteOrder.Supported then
    if h₂ : bitmapBitOrder.Supported then
      if h₃ : SupportedBits scanlineUnitBits.toNat then
        if h₄ : SupportedBits scanlinePadBits.toNat then
          if h₅ : scanlineUnitBits.toNat ≤ scanlinePadBits.toNat then
            .ok ⟨imageByteOrder, bitmapBitOrder, scanlineUnitBits.toNat, scanlinePadBits.toNat,
              ⟨h₁, h₂, h₃, h₄, h₅⟩⟩
          else .error (.unitExceedsPad scanlineUnitBits scanlinePadBits)
        else .error (.unsupportedPad scanlinePadBits)
      else .error (.unsupportedUnit scanlineUnitBits)
    else .error (.unsupportedBitOrder bitmapBitOrder)
  else .error (.unsupportedByteOrder imageByteOrder)

/-- `row_stride`. -/
def rowStride (f : BitmapFormat) (width : UInt16) : Nat :=
  (width.toNat + f.scanlinePadBits - 1) / f.scanlinePadBits * f.scanlinePadBits / 8

end BitmapFormat

/-! ### Preparing a bitmap -/

/-- A format, and the longest request. -/
structure X11BitmapAdapter where
  format : BitmapFormat
  maximumRequestBytes : Nat
  holdsHeader : PUT_IMAGE_REQUEST_HEADER_BYTES < maximumRequestBytes

/-- The rows as the server takes them, and how many go into a request. -/
structure PreparedBitmap where
  width : UInt16
  height : UInt16
  stride : Nat
  rowsPerChunk : Nat
  encoded : List UInt8
  rowsPerChunk_pos : 0 < rowsPerChunk
  deriving DecidableEq

/-- The pixels of one scanline unit, as a number. -/
def encodeUnit (sourceRow : List UInt8) (width firstPixel unitBits : Nat) (bitOrder : ImageOrder) :
    UInt32 :=
  (List.range unitBits).foldl (fun encoded offset =>
    let x := firstPixel + offset
    if x ≥ width ∨ sourceRow.getD (x / 8) 0 &&& ((0x80 : UInt8) >>> UInt8.ofNat (x % 8)) = 0 then
      encoded
    else
      let destinationBit := if bitOrder = .LSB_FIRST then offset else unitBits - 1 - offset
      encoded ||| ((1 : UInt32) <<< UInt32.ofNat destinationBit)) 0

/-- The bytes of a scanline unit. -/
def writeUnit (unit : UInt32) (byteCount : Nat) (byteOrder : ImageOrder) : List UInt8 :=
  (List.range byteCount).map fun index =>
    let significanceIndex := if byteOrder = .LSB_FIRST then index else byteCount - 1 - index
    (unit >>> UInt32.ofNat (significanceIndex * 8)).toUInt8

namespace X11BitmapAdapter

/-- The adapter of a setup, if it is supported and a request holds more than its header. -/
def new (imageByteOrder bitmapBitOrder : ImageOrder) (scanlineUnitBits scanlinePadBits : UInt8)
    (maximumRequestBytes : Nat) : Except BitmapError X11BitmapAdapter :=
  match BitmapFormat.new imageByteOrder bitmapBitOrder scanlineUnitBits scanlinePadBits with
  | .error error => .error error
  | .ok format =>
      if h : PUT_IMAGE_REQUEST_HEADER_BYTES < maximumRequestBytes then
        .ok ⟨format, maximumRequestBytes, h⟩
      else .error (.requestTooSmall maximumRequestBytes)

/-- The bytes of image data a request has room for. -/
def maximumDataBytes (a : X11BitmapAdapter) : Nat :=
  (a.maximumRequestBytes - PUT_IMAGE_REQUEST_HEADER_BYTES) / 4 * 4

/-- One row, unit by unit. -/
def encodeRow (a : X11BitmapAdapter) (width : UInt16) (sourceRow : List UInt8) : List UInt8 :=
  let stride := a.format.rowStride width
  let unitBytes := a.format.scanlineUnitBits / 8
  let unitsPerRow := stride / unitBytes
  writeRows (List.replicate stride 0) 0 unitBytes unitsPerRow fun unitIndex =>
    let firstPixel := unitIndex * a.format.scanlineUnitBits
    let unit := encodeUnit sourceRow width.toNat firstPixel a.format.scanlineUnitBits
      a.format.bitmapBitOrder
    writeUnit unit unitBytes a.format.imageByteOrder

/-- Bring valid pixels into the server's format. -/
def prepare [Platform] (a : X11BitmapAdapter) (width height : UInt16) (pixels : List UInt8) :
    Except BitmapError PreparedBitmap :=
  match validateMono1Pixels width height pixels with
  | .error error => .error (.pixels error)
  | .ok sourceStride =>
      let stride := a.format.rowStride width
      let rowsPerChunk := a.maximumDataBytes / stride
      if h : 0 < rowsPerChunk then
        .ok
          { width
            height
            stride
            rowsPerChunk := min rowsPerChunk 65535
            encoded :=
              writeRows (List.replicate (stride * height.toNat) 0) 0 stride height.toNat fun row =>
                a.encodeRow width (slice pixels (row * sourceStride) ((row + 1) * sourceStride))
            rowsPerChunk_pos := lt_min h (by decide) }
      else .error (.rowTooLong a.maximumDataBytes stride)

end X11BitmapAdapter

/-! ### Chunks -/

/-- `(y_offset, row_count, bytes)`. -/
structure Chunk where
  yOffset : UInt16
  rows : UInt16
  data : List UInt8
  deriving DecidableEq

/-- The chunks of a bitmap, each for one request. -/
def PreparedBitmap.chunks (b : PreparedBitmap) : List Chunk :=
  let height := b.height.toNat
  -- `(0..height).step_by(self.rows_per_chunk)`
  let firstRows :=
    List.range' 0 ((height + b.rowsPerChunk - 1) / b.rowsPerChunk) b.rowsPerChunk
  firstRows.map fun firstRow =>
    let rows := min b.rowsPerChunk (height - firstRow)
    let byteStart := firstRow * b.stride
    let byteEnd := byteStart + rows * b.stride
    ⟨UInt16.ofNat firstRow, UInt16.ofNat rows, slice b.encoded byteStart byteEnd⟩

end PaperPad.X11
