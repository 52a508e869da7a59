import PaperPad.Device.Display
import PaperPad.Mxcfb.Metadata
import PaperPad.Support.Raster

/-!
# Mxcfb — Pixels

Remote frames in the framebuffer's own pixels, `src/mxcfb/pixels.rs`: black is `0x00`, white is
`0xff`, and luminance bytes are copied.  `blitRemote` converts in place; `prepareRemote` does it
in a staging buffer, of which `PreparedRemote.rows` are the viewport's rows.  An addition or
multiplication that overflows a `usize` panics, and a buffer is always allocated.

A frame of the viewport's size is always prepared on accepted metadata, and its rows are its
pixels (`prepareRemote_accepted`, `getElem?_frameRow`).
-/

namespace PaperPad.Mxcfb

open Protocol Device Fallible Raster

/-- Arithmetic on `usize`. -/
def usize [Platform] (n : Nat) : Fallible Nat :=
  if n < 2 ^ Platform.usizeBits then .ok n else .error .panicked

/-! ### Conversion in place -/

/-- Column `column` of a Mono1 row, converted. -/
def monoByte (source : List UInt8) (column : Nat) : UInt8 :=
  let black := source.getD (column / 8) 0 &&& ((0x80 : UInt8) >>> UInt8.ofNat (column % 8)) ≠ 0
  if black then 0x00 else 0xff

/-- A row of the source, converted. -/
def nativeRow (pixelFormat : PixelFormat) (width : Nat) (source : List UInt8) :
    Fallible (List UInt8) :=
  match pixelFormat with
  | .mono1 => do
      inBounds (∀ column < width, column / 8 < source.length)
      return (List.range width).map (monoByte source)
  | .gray8 => do
      inBounds (source.length = width)
      return source

/-- The checks before the first byte changes; the first column and row of the destination. -/
def checkBlit [Platform] (frame : RemoteFrame) (screen : ScreenLayout) (spec : FramebufferSpec)
    (memoryLen : Nat) : Fallible (Nat × Nat) := do
  spec.validateFormat
  let (screenWidth, screenHeight) := screen.physicalSize
  ensure (spec.visibleWidth = screenWidth.toUInt32 ∧ spec.visibleHeight = screenHeight.toUInt32)
    (s!"framebuffer visible dimensions {spec.visibleWidth}x{spec.visibleHeight} " ++
      s!"do not match screen {screenWidth}x{screenHeight}")
  let region := screen.remoteViewport
  ensure (frame.width = region.width ∧ frame.height = region.height)
    (s!"remote frame {frame.width}x{frame.height} does not match viewport " ++
      s!"{region.width}x{region.height}")
  ensure (region.y.toNat + region.height.toNat ≤ screen.systemUiRegion.y.toNat)
    "remote viewport overlaps PaperPad system UI"
  let visibleRight ← required (checkedAdd32 spec.xoffset.toNat spec.visibleWidth.toNat)
    "framebuffer horizontal bounds overflow"
  let visibleBottom ← required (checkedAdd32 spec.yoffset.toNat spec.visibleHeight.toNat)
    "framebuffer vertical bounds overflow"
  ensure (visibleRight ≤ spec.virtualWidth.toNat ∧ visibleBottom ≤ spec.virtualHeight.toNat)
    "visible framebuffer lies outside virtual dimensions"
  ensure (spec.lineLength ≥ spec.virtualWidth.toNat)
    "8-bit framebuffer row is shorter than virtual width"
  let virtualBytes ← required (checkedMul spec.lineLength spec.virtualHeight.toNat)
    "framebuffer byte length overflow"
  ensure (virtualBytes ≤ spec.memoryLen) "virtual framebuffer exceeds reported memory length"
  let firstX ← required (checkedAdd spec.xoffset.toNat region.x.toNat)
    "remote framebuffer column overflow"
  let firstY ← required (checkedAdd spec.yoffset.toNat region.y.toNat)
    "remote framebuffer row overflow"
  let width := region.width.toNat
  let height := region.height.toNat
  ensure (width > 0 ∧ height > 0) "empty remote viewport"
  let lastRow ← required (checkedAdd firstY (height - 1)) "remote framebuffer row overflow"
  let stop ← required
    (((checkedMul lastRow spec.lineLength).bind (checkedAdd · firstX)).bind (checkedAdd · width))
    "remote framebuffer byte offset overflow"
  ensure (stop ≤ spec.memoryLen ∧ stop ≤ memoryLen) "remote frame exceeds mapped framebuffer memory"
  return (firstX, firstY)

/-- The destination of row `row` and its converted bytes. -/
def blitRow [Platform] (frame : RemoteFrame) (firstX firstY lineLength width memoryLen row : Nat) :
    Fallible (Nat × List UInt8) := do
  let sourceStart ← usize (row * frame.stride)
  inBounds (sourceStart + frame.stride ≤ frame.pixels.length)
  let source := slice frame.pixels sourceStart (sourceStart + frame.stride)
  let destinationStart ← usize ((firstY + row) * lineLength + firstX)
  inBounds (destinationStart + width ≤ memoryLen)
  let bytes ← nativeRow frame.pixelFormat width source
  return (destinationStart, bytes)

/-- Row `row`, converted into the memory. -/
def blitInto [Platform] (frame : RemoteFrame) (firstX firstY lineLength width : Nat)
    (memory : List UInt8) (row : Nat) : Fallible Unit × List UInt8 :=
  match blitRow frame firstX firstY lineLength width memory.length row with
  | .error e => (.error e, memory)
  | .ok (start, bytes) => (.ok (), splice memory start bytes)

/-- All checks complete before any byte of the memory changes. -/
def blitRemote [Platform] (frame : RemoteFrame) (screen : ScreenLayout) (spec : FramebufferSpec)
    (memory : List UInt8) : Fallible ScreenRect × List UInt8 :=
  match checkBlit frame screen spec memory.length with
  | .error e => (.error e, memory)
  | .ok (firstX, firstY) =>
      let region := screen.remoteViewport
      let width := region.width.toNat
      let (result, memory) :=
        sweep (blitInto frame firstX firstY spec.lineLength width) memory
          (List.range region.height.toNat)
      (result.map fun _ => region, memory)

theorem length_nativeRow {pixelFormat : PixelFormat} {width : Nat} {source bytes : List UInt8}
    (h : nativeRow pixelFormat width source = .ok bytes) : bytes.length = width := by
  cases pixelFormat with
  | mono1 =>
      obtain ⟨-, h⟩ := inBounds_bind_eq_ok.mp h
      cases h
      rw [List.length_map, List.length_range]
  | gray8 =>
      obtain ⟨hlen, h⟩ := inBounds_bind_eq_ok.mp h
      cases h
      exact hlen

/-- A converted row lies inside the memory. -/
theorem blitRow_le [Platform] {frame : RemoteFrame}
    {firstX firstY lineLength width memoryLen row start : Nat} {bytes : List UInt8}
    (h : blitRow frame firstX firstY lineLength width memoryLen row = .ok (start, bytes)) :
    start + bytes.length ≤ memoryLen := by
  simp only [blitRow] at h
  obtain ⟨_, -, h⟩ := bind_eq_ok.mp h
  obtain ⟨-, h⟩ := inBounds_bind_eq_ok.mp h
  obtain ⟨_, -, h⟩ := bind_eq_ok.mp h
  obtain ⟨hle, h⟩ := inBounds_bind_eq_ok.mp h
  obtain ⟨_, hbytes, h⟩ := bind_eq_ok.mp h
  cases h
  rwa [length_nativeRow hbytes]

/-- A memory keeps its length, whatever comes of the frame. -/
theorem length_blitRemote [Platform] (frame : RemoteFrame) (screen : ScreenLayout)
    (spec : FramebufferSpec) (memory : List UInt8) :
    (blitRemote frame screen spec memory).2.length = memory.length := by
  rw [blitRemote]
  split
  · rfl
  · refine sweep_keeps (fun m : List UInt8 => m.length = memory.length) (fun row m hm => ?_) rfl
    rw [blitInto]
    split
    · exact hm
    · next hrow => rw [length_splice (blitRow_le hrow), hm]

/-! ### Prepared rows -/

/-- Fully prepared native rows.  The rows lie inside the buffer. -/
structure PreparedRemote where
  region : ScreenRect
  spec : FramebufferSpec
  buffer : List UInt8
  firstOffset : Nat
  lineLength : Nat
  width : Nat
  height : Nat
  rows_le : (height - 1) * lineLength + firstOffset + width ≤ buffer.length

namespace PreparedRemote

/-- The length of the mapping it was prepared for. -/
def mappedLen (p : PreparedRemote) : Nat := p.buffer.length

/-- The offset of a row and its bytes. -/
def row (p : PreparedRemote) (row : Nat) : Nat × List UInt8 :=
  let offset := p.firstOffset + row * p.lineLength
  (offset, slice p.buffer offset (offset + p.width))

/-- All its rows. -/
def rows (p : PreparedRemote) : List (Nat × List UInt8) := (List.range p.height).map p.row

end PreparedRemote

/-- Where the last prepared row ends. -/
def lastEnd [Platform] (height lineLength firstOffset width : Nat) : Option Nat :=
  ((checkedMul (height - 1) lineLength).bind (checkedAdd · firstOffset)).bind (checkedAdd · width)

theorem lastEnd_eq_some [Platform] {height lineLength firstOffset width n : Nat} :
    lastEnd height lineLength firstOffset width = some n ↔
      (height - 1) * lineLength + firstOffset + width < 2 ^ Platform.usizeBits ∧
        (height - 1) * lineLength + firstOffset + width = n := by
  simp only [lastEnd, Option.bind_eq_some_iff, checkedMul_eq_some, checkedAdd_eq_some]
  constructor
  · rintro ⟨_, ⟨_, ⟨-, rfl⟩, -, rfl⟩, hlt, rfl⟩
    exact ⟨hlt, rfl⟩
  · rintro ⟨hlt, rfl⟩
    exact ⟨_, ⟨_, ⟨by omega, rfl⟩, by omega, rfl⟩, hlt, rfl⟩

theorem rows_le_of_lastEnd [Platform] {height lineLength firstOffset width n mappedLen : Nat}
    {buffer : List UInt8} (h : lastEnd height lineLength firstOffset width = some n)
    (hn : n ≤ mappedLen) (hlen : buffer.length = mappedLen) :
    (height - 1) * lineLength + firstOffset + width ≤ buffer.length := by
  rw [(lastEnd_eq_some.mp h).2, hlen]
  exact hn

/-- A staging buffer, converted into. -/
def stage [Platform] (frame : RemoteFrame) (screen : ScreenLayout) (spec : FramebufferSpec)
    (mappedLen : Nat) : Fallible ScreenRect × List UInt8 :=
  blitRemote frame screen spec (List.replicate mappedLen 0)

theorem length_stage [Platform] (frame : RemoteFrame) (screen : ScreenLayout)
    (spec : FramebufferSpec) (mappedLen : Nat) :
    (stage frame screen spec mappedLen).2.length = mappedLen := by
  rw [stage, length_blitRemote, List.length_replicate]

/-- Prepare every remote byte before a later write. -/
def prepareRemote [Platform] (frame : RemoteFrame) (screen : ScreenLayout)
    (spec : FramebufferSpec) (mappedLen : Nat) : Fallible PreparedRemote := do
  ensure (mappedLen > 0) "empty framebuffer mapping"
  let visibleBottom ← required (checkedAdd32 spec.yoffset.toNat spec.visibleHeight.toNat)
    "framebuffer vertical bounds overflow"
  let expectedLen ← required (checkedMul visibleBottom spec.lineLength)
    "framebuffer visible byte length overflow"
  ensure (mappedLen = expectedLen)
    s!"framebuffer mapping length {mappedLen} does not match visible span {expectedLen}"
  ensure (mappedLen ≤ spec.memoryLen ∧ mappedLen ≤ isizeMax) "invalid framebuffer mapping length"
  let region ← (stage frame screen spec mappedLen).1
  let firstX ← required (checkedAdd spec.xoffset.toNat region.x.toNat)
    "remote framebuffer column overflow"
  let firstY ← required (checkedAdd spec.yoffset.toNat region.y.toNat)
    "remote framebuffer row overflow"
  let firstOffset ← required ((checkedMul firstY spec.lineLength).bind (checkedAdd · firstX))
    "remote framebuffer byte offset overflow"
  let width := region.width.toNat
  let height := region.height.toNat
  match h : lastEnd height spec.lineLength firstOffset width with
  | none => .error (.error ["remote framebuffer byte offset overflow"])
  | some n =>
      if hn : n ≤ mappedLen then
        .ok
          { region
            spec
            buffer := (stage frame screen spec mappedLen).2
            firstOffset
            lineLength := spec.lineLength
            width
            height
            rows_le := rows_le_of_lastEnd h hn (length_stage frame screen spec mappedLen) }
      else .error (.error ["remote rows exceed framebuffer mapping"])

/-! ### What the checks establish -/

section Check

variable [Platform] {frame : RemoteFrame} {screen : ScreenLayout} {spec : FramebufferSpec}
  {memoryLen : Nat}

/-- What the checks establish: the viewport starts at `firstX`, `firstY` and ends at `stop`. -/
structure Blits (frame : RemoteFrame) (screen : ScreenLayout) (spec : FramebufferSpec)
    (memoryLen firstX firstY stop : Nat) : Prop where
  format : spec.Format
  visible : spec.visibleWidth = screen.physicalSize.1.toUInt32 ∧
    spec.visibleHeight = screen.physicalSize.2.toUInt32
  size : frame.width = screen.remoteViewport.width ∧ frame.height = screen.remoteViewport.height
  above : screen.remoteViewport.y.toNat + screen.remoteViewport.height.toNat ≤
    screen.systemUiRegion.y.toNat
  right_le : spec.xoffset.toNat + spec.visibleWidth.toNat ≤ spec.virtualWidth.toNat
  bottom_le : spec.yoffset.toNat + spec.visibleHeight.toNat ≤ spec.virtualHeight.toNat
  line_ge : spec.virtualWidth.toNat ≤ spec.lineLength
  bytes_lt : spec.lineLength * spec.virtualHeight.toNat < 2 ^ Platform.usizeBits
  bytes_le : spec.lineLength * spec.virtualHeight.toNat ≤ spec.memoryLen
  firstX_eq : firstX = spec.xoffset.toNat + screen.remoteViewport.x.toNat
  firstX_lt : firstX < 2 ^ Platform.usizeBits
  firstY_eq : firstY = spec.yoffset.toNat + screen.remoteViewport.y.toNat
  nonempty : 0 < screen.remoteViewport.width.toNat ∧ 0 < screen.remoteViewport.height.toNat
  lastRow_lt : firstY + (screen.remoteViewport.height.toNat - 1) < 2 ^ Platform.usizeBits
  stop_eq : stop = (firstY + (screen.remoteViewport.height.toNat - 1)) * spec.lineLength + firstX +
    screen.remoteViewport.width.toNat
  stop_lt : stop < 2 ^ Platform.usizeBits
  stop_le : stop ≤ spec.memoryLen ∧ stop ≤ memoryLen

theorem checkBlit_eq_ok {firstX firstY : Nat} :
    checkBlit frame screen spec memoryLen = .ok (firstX, firstY) ↔
      ∃ stop, Blits frame screen spec memoryLen firstX firstY stop := by
  have hx := spec.virtualWidth.toNat_lt
  have hy := spec.virtualHeight.toNat_lt
  simp only [checkBlit, FramebufferSpec.validateFormat, ensure_bind_eq_ok, required_bind_eq_ok,
    checkedAdd32_eq_some, checkedMul_eq_some, checkedAdd_eq_some, Option.bind_eq_some_iff]
  constructor
  · rintro ⟨hf, hv, hs, ha, _, ⟨-, rfl⟩, _, ⟨-, rfl⟩, ⟨hr, hb⟩, hl, _, ⟨hblt, rfl⟩, hble,
      _, ⟨hfx, rfl⟩, _, ⟨-, rfl⟩, hne, _, ⟨hlast, rfl⟩, _, ⟨_, ⟨_, ⟨-, rfl⟩, -, rfl⟩, hstop, rfl⟩,
      hle, h⟩
    cases h
    exact ⟨_, hf, hv, hs, ha, hr, hb, hl, hblt, hble, rfl, hfx, rfl, hne, hlast, rfl, hstop, hle⟩
  · rintro ⟨stop, h⟩
    have hstop := h.stop_lt
    have hlast := h.lastRow_lt
    have hfirst := h.firstX_lt
    obtain ⟨hf, hv, hs, ha, hr, hb, hl, hblt, hble, rfl, -, rfl, hne, -, rfl, -, hle⟩ := h
    exact ⟨hf, hv, hs, ha, _, ⟨lt_of_le_of_lt hr hx, rfl⟩, _, ⟨lt_of_le_of_lt hb hy, rfl⟩, ⟨hr, hb⟩,
      hl, _, ⟨hblt, rfl⟩, hble, _, ⟨hfirst, rfl⟩, _, ⟨by omega, rfl⟩, hne, _, ⟨hlast, rfl⟩,
      _, ⟨_, ⟨_, ⟨by omega, rfl⟩, by omega, rfl⟩, hstop, rfl⟩, hle, rfl⟩

end Check

/-! ### The rows of a frame -/

/-- The byte that shows a pixel: `0x00` black, `0xff` white, or its luminance. -/
def shownByte : Frame → UInt16 → UInt16 → Option UInt8
  | .mono1 f, x, y => (f.pixel x y).map fun
      | .white => 0xff
      | .black => 0x00
  | .gray8 f, x, y => f.pixel x y

/-- Row `y` of a frame, as it is stored. -/
def sourceRowOf (f : Frame) (y : Nat) : List UInt8 :=
  slice f.pixels (y * f.stride) (y * f.stride + f.stride)

/-- Row `y` of a frame, converted. -/
def frameRow : Frame → Nat → List UInt8
  | .mono1 f, y => (List.range f.width.toNat).map (monoByte (sourceRowOf (.mono1 f) y))
  | .gray8 f, y => sourceRowOf (.gray8 f) y

section Frame

variable {f : Frame} {y : Nat}

theorem length_pixels (f : Frame) : f.pixels.length = f.stride * f.height.toNat := by
  cases f with
  | mono1 f => exact f.valid.length_eq
  | gray8 f => exact f.valid.length_eq

/-- A row of a frame ends inside its pixels, which a `usize` counts. -/
theorem sourceRow_le (hy : y < f.height.toNat) :
    y * f.stride + f.stride ≤ f.pixels.length ∧ f.pixels.length < 2 ^ 32 := by
  have hend := row_end_le hy f.stride
  have hstride : f.stride ≤ 65535 := by
    cases f with
    | mono1 f =>
        have := mono1Stride_le f.width
        have := f.valid.stride_eq
        simp only [Frame.stride]
        omega
    | gray8 f =>
        have := f.width.toNat_lt
        have := f.valid.stride_eq
        simp only [Frame.stride, gray8Stride] at *
        omega
  rw [length_pixels, Nat.mul_comm f.stride]
  refine ⟨hend, ?_⟩
  rw [Nat.mul_comm]
  exact stride_mul_lt hstride f.height

theorem length_sourceRowOf (hy : y < f.height.toNat) : (sourceRowOf f y).length = f.stride := by
  rw [sourceRowOf, length_slice (sourceRow_le hy).1, Nat.add_sub_cancel_left]

theorem getElem?_sourceRowOf {i : Nat} (hi : i < f.stride) :
    (sourceRowOf f y)[i]? = f.pixels[y * f.stride + i]? :=
  getElem?_slice (Nat.add_lt_add_left hi _)

/-- A row of a frame is converted without a panic. -/
theorem nativeRow_sourceRowOf (hy : y < f.height.toNat) :
    nativeRow f.pixelFormat f.width.toNat (sourceRowOf f y) = .ok (frameRow f y) := by
  have hlen := length_sourceRowOf hy
  cases f with
  | mono1 f =>
      have hstride := f.valid.stride_eq
      simp only [Frame.stride, mono1Stride] at hlen hstride
      refine inBounds_bind (fun column hc => ?_) _
      simp only [Frame.width] at hc
      rw [hlen, hstride]
      omega
  | gray8 f => exact inBounds_bind (hlen.trans f.valid.stride_eq) _

theorem length_frameRow (hy : y < f.height.toNat) : (frameRow f y).length = f.width.toNat :=
  length_nativeRow (nativeRow_sourceRowOf hy)

theorem getElem?_frameRow_mono1 (f : Mono1Frame) {x y : UInt16} (hx : x < f.width)
    (hy : y < f.height) : (frameRow (.mono1 f) y.toNat)[x.toNat]? = shownByte (.mono1 f) x y := by
  have hx' : x.toNat < f.width.toNat := hx
  have hi : x.toNat / 8 < f.stride := by
    rw [f.valid.stride_eq, mono1Stride]
    omega
  have hbyte : (sourceRowOf (.mono1 f) y.toNat).getD (x.toNat / 8) 0 =
      f.pixels.getD (y.toNat * f.stride + x.toNat / 8) 0 := by
    rw [List.getD_eq_getElem?_getD, getElem?_sourceRowOf hi, ← List.getD_eq_getElem?_getD]
    rfl
  rw [frameRow, List.getElem?_map, List.getElem?_range hx', shownByte, Mono1Frame.pixel,
    if_neg (not_or.mpr ⟨UInt16.not_le.mpr hx, UInt16.not_le.mpr hy⟩)]
  simp only [Option.map_some, monoByte, hbyte]
  by_cases hb : f.pixels.getD (y.toNat * f.stride + x.toNat / 8) 0 &&&
      ((128 : UInt8) >>> UInt8.ofNat (x.toNat % 8)) = 0
  · rw [if_neg (not_not.mpr hb), if_pos hb]
  · rw [if_pos hb, if_neg hb]

theorem getElem?_frameRow_gray8 (f : Gray8Frame) {x y : UInt16} (hx : x < f.width)
    (hy : y < f.height) : (frameRow (.gray8 f) y.toNat)[x.toNat]? = shownByte (.gray8 f) x y := by
  have hi : x.toNat < f.stride := by
    rw [f.valid.stride_eq, gray8Stride]
    exact hx
  have hle := (sourceRow_le (f := .gray8 f) (y := y.toNat) hy).1
  have hin : y.toNat * f.stride + x.toNat < f.pixels.length := by
    simp only [Frame.stride, Frame.pixels] at hle
    omega
  rw [frameRow, getElem?_sourceRowOf hi, shownByte, Gray8Frame.pixel,
    if_neg (not_or.mpr ⟨UInt16.not_le.mpr hx, UInt16.not_le.mpr hy⟩)]
  exact (List.getElem?_eq_getElem hin).trans (congrArg some (List.getElem_eq_getD 0))

/-- **A converted row shows its pixels.** -/
theorem getElem?_frameRow {x y : UInt16} (hx : x < f.width) (hy : y < f.height) :
    (frameRow f y.toNat)[x.toNat]? = shownByte f x y := by
  cases f with
  | mono1 f => exact getElem?_frameRow_mono1 f hx hy
  | gray8 f => exact getElem?_frameRow_gray8 f hx hy

end Frame

/-! ### A valid frame is converted -/

section Blit

variable [Platform] {f : Frame} {frameId : UInt64} {screen : ScreenLayout}
  {spec : FramebufferSpec}

theorem usize_of {n : Nat} (h : n < 2 ^ Platform.usizeBits) : usize n = .ok n := if_pos h

theorem blitRow_ofFrame {firstX firstY lineLength memoryLen y : Nat} (hy : y < f.height.toNat)
    (hlt : (firstY + y) * lineLength + firstX < 2 ^ Platform.usizeBits)
    (hle : (firstY + y) * lineLength + firstX + f.width.toNat ≤ memoryLen) :
    blitRow (RemoteFrame.ofFrame frameId f) firstX firstY lineLength f.width.toNat memoryLen y =
      .ok ((firstY + y) * lineLength + firstX, frameRow f y) := by
  obtain ⟨hsource, hlen⟩ := sourceRow_le hy
  have hstart : y * (RemoteFrame.ofFrame frameId f).stride < 2 ^ Platform.usizeBits :=
    lt_of_lt_of_le (lt_of_le_of_lt (le_trans (Nat.le_add_right _ _) hsource) hlen)
      two_pow_32_le_usize
  have hin : y * (RemoteFrame.ofFrame frameId f).stride + (RemoteFrame.ofFrame frameId f).stride ≤
      (RemoteFrame.ofFrame frameId f).pixels.length := hsource
  have hrow : nativeRow (RemoteFrame.ofFrame frameId f).pixelFormat f.width.toNat
      (slice (RemoteFrame.ofFrame frameId f).pixels (y * (RemoteFrame.ofFrame frameId f).stride)
        (y * (RemoteFrame.ofFrame frameId f).stride + (RemoteFrame.ofFrame frameId f).stride)) =
      .ok (frameRow f y) := nativeRow_sourceRowOf hy
  rw [blitRow, usize_of hstart, ok_bind, inBounds_bind hin, usize_of hlt, ok_bind,
    inBounds_bind hle, hrow]
  rfl

variable {memory : List UInt8} {memoryLen firstX firstY stop : Nat}

/-- A row of the viewport ends where the last one does, or before. -/
theorem Blits.row_le
    (h : Blits (RemoteFrame.ofFrame frameId f) screen spec memoryLen firstX firstY stop)
    {y : Nat} (hy : y < f.height.toNat) :
    (firstY + y) * spec.lineLength + firstX + f.width.toNat ≤ stop := by
  have hwidth : f.width = screen.remoteViewport.width := h.size.1
  have hheight : f.height = screen.remoteViewport.height := h.size.2
  have hrow : (firstY + y) * spec.lineLength ≤
      (firstY + (f.height.toNat - 1)) * spec.lineLength :=
    Nat.mul_le_mul_right _ (by omega)
  rw [h.stop_eq, ← hwidth, ← hheight]
  omega

/-- The last row, counted from the first. -/
theorem Blits.lastRow_end {frame : RemoteFrame}
    (h : Blits frame screen spec memoryLen firstX firstY stop) :
    (screen.remoteViewport.height.toNat - 1) * spec.lineLength +
      (firstY * spec.lineLength + firstX) + screen.remoteViewport.width.toNat = stop := by
  rw [h.stop_eq, Nat.add_mul]
  omega

theorem Blits.lastEnd_eq {frame : RemoteFrame}
    (h : Blits frame screen spec memoryLen firstX firstY stop) :
    lastEnd screen.remoteViewport.height.toNat spec.lineLength
      (firstY * spec.lineLength + firstX) screen.remoteViewport.width.toNat = some stop :=
  lastEnd_eq_some.mpr ⟨by rw [h.lastRow_end]; exact h.stop_lt, h.lastRow_end⟩

/-- The rows of the viewport lie inside the memory. -/
theorem Blits.fits
    (h : Blits (RemoteFrame.ofFrame frameId f) screen spec memoryLen firstX firstY stop)
    (hlen : memory.length = memoryLen) (hwidth : f.width.toNat ≤ spec.lineLength) :
    Fits memory (firstY * spec.lineLength + firstX) spec.lineLength f.width.toNat f.height.toNat
      (frameRow f) where
  length_row _ hr := length_frameRow hr
  width_le := hwidth
  inside r hr := by
    have hrow := h.row_le hr
    rw [Nat.add_mul] at hrow
    have := h.stop_le.2
    omega

/-- **A valid frame is written, row by row**, where the checks hold. -/
theorem blitRemote_ofFrame
    (h : Blits (RemoteFrame.ofFrame frameId f) screen spec memory.length firstX firstY stop) :
    blitRemote (RemoteFrame.ofFrame frameId f) screen spec memory =
      (.ok screen.remoteViewport,
        writeRows memory (firstY * spec.lineLength + firstX) spec.lineLength f.height.toNat
          (frameRow f)) := by
  have hwidth : screen.remoteViewport.width = f.width := h.size.1.symm
  have hheight : screen.remoteViewport.height = f.height := h.size.2.symm
  have hstart (y : Nat) : (firstY + y) * spec.lineLength + firstX =
      firstY * spec.lineLength + firstX + y * spec.lineLength := by
    rw [Nat.add_mul, Nat.add_right_comm]
  have hstep : ∀ y ∈ List.range f.height.toNat, ∀ m t : List UInt8,
      m = t ∧ t.length = memory.length →
      ∃ m', blitInto (RemoteFrame.ofFrame frameId f) firstX firstY spec.lineLength f.width.toNat
          m y = (.ok (), m') ∧
        m' = splice t (firstY * spec.lineLength + firstX + y * spec.lineLength) (frameRow f y) ∧
        (splice t (firstY * spec.lineLength + firstX + y * spec.lineLength)
          (frameRow f y)).length = memory.length := by
    rintro y hy m _ ⟨rfl, hm⟩
    have hy := List.mem_range.mp hy
    have hrow := h.row_le hy
    have hlt := h.stop_lt
    have hle := h.stop_le.2
    rw [blitInto, hm, blitRow_ofFrame hy (by omega) (by omega), ← hstart]
    refine ⟨_, rfl, rfl, ?_⟩
    rw [length_splice (by rw [length_frameRow hy, hm]; omega), hm]
  obtain ⟨m, hloop, rfl, -⟩ := sweep_simulates _ _ hstep ⟨rfl, rfl⟩
  rw [blitRemote, checkBlit_eq_ok.mpr ⟨stop, h⟩]
  dsimp only
  rw [hwidth, hheight, hloop]
  rfl

/-- The staging buffer has the rows, and nothing else. -/
theorem Blits.stage_eq {mappedLen : Nat}
    (h : Blits (RemoteFrame.ofFrame frameId f) screen spec mappedLen firstX firstY stop) :
    stage (RemoteFrame.ofFrame frameId f) screen spec mappedLen =
      (.ok screen.remoteViewport, writeRows (List.replicate mappedLen 0)
        (firstY * spec.lineLength + firstX) spec.lineLength f.height.toNat (frameRow f)) := by
  have hb : Blits (RemoteFrame.ofFrame frameId f) screen spec
      (List.replicate mappedLen (0 : UInt8)).length firstX firstY stop := by
    rwa [List.length_replicate]
  exact blitRemote_ofFrame hb

/-- What was prepared of a frame for rows that start at `start`. -/
structure Prepares (f : Frame) (screen : ScreenLayout) (spec : FramebufferSpec)
    (mappedLen start : Nat) (p : PreparedRemote) : Prop where
  region_eq : p.region = screen.remoteViewport
  spec_eq : p.spec = spec
  mappedLen_eq : p.mappedLen = mappedLen
  rows_eq : p.rows =
    (List.range f.height.toNat).map fun y => (start + y * spec.lineLength, frameRow f y)

/-- The checks hold, and the staging buffer is taken as it is. -/
theorem prepareRemote_of_blits {mappedLen : Nat}
    (h : Blits (RemoteFrame.ofFrame frameId f) screen spec mappedLen firstX firstY stop)
    (hpos : 0 < mappedLen)
    (hspan : mappedLen = (spec.yoffset.toNat + spec.visibleHeight.toNat) * spec.lineLength)
    (hmemory : mappedLen ≤ spec.memoryLen) (hmax : mappedLen ≤ isizeMax)
    (hrows : (screen.remoteViewport.height.toNat - 1) * spec.lineLength +
      (firstY * spec.lineLength + firstX) + screen.remoteViewport.width.toNat ≤
      (stage (RemoteFrame.ofFrame frameId f) screen spec mappedLen).2.length) :
    prepareRemote (RemoteFrame.ofFrame frameId f) screen spec mappedLen =
      .ok
        { region := screen.remoteViewport
          spec
          buffer := (stage (RemoteFrame.ofFrame frameId f) screen spec mappedLen).2
          firstOffset := firstY * spec.lineLength + firstX
          lineLength := spec.lineLength
          width := screen.remoteViewport.width.toNat
          height := screen.remoteViewport.height.toNat
          rows_le := hrows } := by
  have hvirtual := spec.virtualHeight.toNat_lt
  have hbottom := h.bottom_le
  have hmul : (spec.yoffset.toNat + spec.visibleHeight.toNat) * spec.lineLength ≤
      spec.lineLength * spec.virtualHeight.toNat := by
    rw [Nat.mul_comm]
    exact Nat.mul_le_mul_left _ hbottom
  have hfirst : firstY * spec.lineLength + firstX < 2 ^ Platform.usizeBits := by
    have hlast := h.lastRow_end
    have hlt := h.stop_lt
    omega
  have hfirstY : spec.yoffset.toNat + screen.remoteViewport.y.toNat < 2 ^ Platform.usizeBits := by
    have hlast := h.lastRow_lt
    rw [h.firstY_eq] at hlast
    omega
  simp only [prepareRemote, ensure_bind_eq_ok, required_bind_eq_ok, checkedAdd32_eq_some,
    checkedMul_eq_some, Option.bind_eq_some_iff, checkedAdd_eq_some, h.stage_eq, ok_bind]
  refine ⟨hpos, _, ⟨by omega, rfl⟩, _, ⟨lt_of_le_of_lt hmul h.bytes_lt, rfl⟩, hspan,
    ⟨hmemory, hmax⟩, firstX, ⟨h.firstX_eq ▸ h.firstX_lt, h.firstX_eq.symm⟩, firstY,
    ⟨hfirstY, h.firstY_eq.symm⟩, _, ⟨_, ⟨by omega, rfl⟩, hfirst, rfl⟩, ?_⟩
  split
  · next hnone => rw [h.lastEnd_eq] at hnone; cases hnone
  · next n hsome =>
      obtain rfl := Option.some_inj.mp (h.lastEnd_eq.symm.trans hsome)
      exact dif_pos h.stop_le.2

/-- **A valid frame is prepared** where the checks hold. -/
theorem prepareRemote_ofFrame {mappedLen : Nat}
    (h : Blits (RemoteFrame.ofFrame frameId f) screen spec mappedLen firstX firstY stop)
    (hpos : 0 < mappedLen)
    (hspan : mappedLen = (spec.yoffset.toNat + spec.visibleHeight.toNat) * spec.lineLength)
    (hline : f.width.toNat ≤ spec.lineLength) (hmemory : mappedLen ≤ spec.memoryLen)
    (hmax : mappedLen ≤ isizeMax) :
    ∃ p, prepareRemote (RemoteFrame.ofFrame frameId f) screen spec mappedLen = .ok p ∧
      Prepares f screen spec mappedLen (firstY * spec.lineLength + firstX) p := by
  have hwidth : f.width = screen.remoteViewport.width := h.size.1
  have hheight : f.height = screen.remoteViewport.height := h.size.2
  have hbuffer : (List.replicate mappedLen (0 : UInt8)).length = mappedLen := List.length_replicate
  have hlen := length_stage (RemoteFrame.ofFrame frameId f) screen spec mappedLen
  have hrows : (screen.remoteViewport.height.toNat - 1) * spec.lineLength +
      (firstY * spec.lineLength + firstX) + screen.remoteViewport.width.toNat ≤
      (stage (RemoteFrame.ofFrame frameId f) screen spec mappedLen).2.length := by
    rw [h.lastRow_end, hlen]
    exact h.stop_le.2
  refine ⟨_, prepareRemote_of_blits h hpos hspan hmemory hmax hrows, rfl, rfl, hlen, ?_⟩
  simp only [PreparedRemote.rows, ← hheight]
  refine List.map_congr_left fun y hy => ?_
  have hrow := take_drop_writeRows (h.fits hbuffer hline) (List.mem_range.mp hy)
  simp only [PreparedRemote.row, slice, h.stage_eq, Nat.add_sub_cancel_left, ← hwidth, hrow]

end Blit

/-! ### Accepted metadata -/

section Accepted

variable [Platform] {info : FramebufferInfo} {f : Frame} {frameId : UInt64}

/-- The frame has the viewport's size. -/
def Sized (f : Frame) (screen : ScreenLayout) : Prop :=
  f.width = screen.remoteViewport.width ∧ f.height = screen.remoteViewport.height

instance (f : Frame) (screen : ScreenLayout) : Decidable (Sized f screen) :=
  inferInstanceAs (Decidable (_ ∧ _))

/-- **Every check holds** of a frame of the viewport's size. -/
theorem blits_of_accepted (h : info.Accepted) (hf : Sized f info.screen) :
    Blits (RemoteFrame.ofFrame frameId f) info.screen info.spec info.mappingLen
      info.geometry.xoffset.toNat info.geometry.yoffset.toNat
      ((info.geometry.yoffset.toNat + (info.screen.remoteViewport.height.toNat - 1)) *
        info.spec.lineLength + info.geometry.xoffset.toNat +
        info.screen.remoteViewport.width.toNat) := by
  obtain ⟨hvw, hvh, hw, hh, hx, hy, -, hl, hm⟩ := h.spec_matches
  obtain ⟨hox, hoy⟩ := h.viewport_origin
  obtain ⟨hwidth, hheight⟩ := h.viewport_size
  have hright := h.visible.right_le
  have hbottom := h.visible.bottom_le
  have hline := h.line_ge
  have hgt := h.yres_gt
  have hpos := h.visible.xres_pos
  have hbytes := h.visible.bytes_lt
  have hmemory := h.visible.bytes_le
  have hmapping := h.mappingLen_le
  -- the last row of the viewport ends before the visible span does
  have hrow := row_end_le (r := info.geometry.yoffset.toNat +
      (info.screen.remoteViewport.height.toNat - 1))
    (n := info.geometry.yoffset.toNat + info.geometry.yres.toNat) (by omega)
    info.geometry.lineLength.toNat
  have hspan := h.mappingLen_eq
  rw [Nat.mul_comm] at hspan
  have hu32 := lt_of_lt_of_le info.geometry.yresVirtual.toNat_lt (two_pow_32_le_usize)
  have hu32' := lt_of_lt_of_le info.geometry.xresVirtual.toNat_lt (two_pow_32_le_usize)
  refine
    { format := h.format
      visible :=
        ⟨hvw.trans h.physicalSize_toUInt32.1.symm, hvh.trans h.physicalSize_toUInt32.2.symm⟩
      size := hf
      above := by rw [hoy, hheight, h.strip_origin.2]; omega
      right_le := by rw [hx, hvw, hw]; exact hright
      bottom_le := by rw [hy, hvh, hh]; exact hbottom
      line_ge := by rw [hw, ← hl]; exact hline
      bytes_lt := by rw [← hl, hh]; exact hbytes
      bytes_le := by rw [← hl, hh, ← hm]; exact hmemory
      firstX_eq := by rw [hx, hox, Nat.add_zero]
      firstX_lt := by omega
      firstY_eq := by rw [hy, hoy, Nat.add_zero]
      nonempty := by omega
      lastRow_lt := by omega
      stop_eq := rfl
      stop_lt := ?_
      stop_le := ?_ }
  · rw [← hl]
    omega
  · rw [← hl, ← hm]
    omega

/-- **On accepted metadata** a frame of the viewport's size is always prepared. -/
theorem prepareRemote_accepted (h : info.Accepted) (hmax : info.mappingLen ≤ isizeMax)
    (hf : Sized f info.screen) :
    ∃ p, prepareRemote (RemoteFrame.ofFrame frameId f) info.screen info.spec info.mappingLen =
        .ok p ∧
      Prepares f info.screen info.spec info.mappingLen
        (info.geometry.yoffset.toNat * info.spec.lineLength + info.geometry.xoffset.toNat) p := by
  obtain ⟨-, hvh, -, -, -, hy, -, hl, hm⟩ := h.spec_matches
  have hwidth : f.width.toNat = info.geometry.xres.toNat := by rw [hf.1, h.viewport_size.1]
  have hright := h.visible.right_le
  have hline := h.line_ge
  refine prepareRemote_ofFrame (blits_of_accepted h hf) h.mappingLen_pos ?_ (by omega) ?_ hmax
  · rw [hy, hvh, ← hl, Nat.mul_comm]
    exact h.mappingLen_eq
  · rw [← hm]
    exact h.mappingLen_le.trans h.visible.bytes_le

end Accepted

end PaperPad.Mxcfb
