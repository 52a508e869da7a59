import PaperPad.Host.Font
import PaperPad.Protocol.Payload
import PaperPad.Support.Fallible
import PaperPad.Support.Raster

/-!
# Host — MonoRenderer

The Mono1 canvas of `tools/paperspoon/src/mono_renderer.rs`.  A canvas carries what
`Mono1Frame::new` checks: every drawing primitive keeps the row padding white, because a pixel
is only ever set inside the width.  So freezing a canvas never fails (`intoFrame_eq_ok`).  An index
out of the pixels and an arithmetic operation out of the range of its type panic.
-/

namespace PaperPad.Host

open Protocol Fallible

/-- A one-bit canvas in the protocol's MSB-first row representation. -/
structure MonoCanvas (width height : UInt16) where
  stride : Nat
  pixels : List UInt8
  valid : Mono1Valid width height stride pixels

/-! ### Setting one pixel -/

/-- `0x80 >> (x % 8)`. -/
def pixelMask (x : UInt16) : UInt8 := (128 : UInt8) >>> UInt8.ofNat (x.toNat % 8)

/-- The byte with the pixel in a color. -/
def paint (mask : UInt8) : Mono1Pixel → UInt8 → UInt8
  | .white, byte => byte &&& ~~~mask
  | .black, byte => byte ||| mask

/-- No visible pixel is a padding bit. -/
theorem pixelMask_padding {x : UInt16} {used : Nat} (hu : used < 8) (hx : x.toNat % 8 < used) :
    pixelMask x &&& paddingMask used = 0 := by
  have all : ∀ u < 8, ∀ k < u, ((128 : UInt8) >>> UInt8.ofNat k) &&& paddingMask u = 0 := by
    decide
  exact all used hu _ hx

theorem paint_padding {mask pad byte : UInt8} (color : Mono1Pixel) (hm : mask &&& pad = 0)
    (hb : byte &&& pad = 0) : paint mask color byte &&& pad = 0 := by
  cases color with
  | white =>
      rw [paint, UInt8.and_assoc, UInt8.and_comm (~~~mask) pad, ← UInt8.and_assoc, hb]
      simp
  | black => exact or_and_eq_zero hb hm

/-- Painting a visible pixel keeps pixels valid. -/
theorem valid_modify {width height : UInt16} {stride : Nat} {pixels : List UInt8}
    (h : Mono1Valid width height stride pixels) {x y : UInt16} (hx : x < width)
    (color : Mono1Pixel) :
    Mono1Valid width height stride
      (pixels.modify (y.toNat * stride + x.toNat / 8) (paint (pixelMask x) color)) where
  width_ne := h.width_ne
  height_ne := h.height_ne
  stride_eq := h.stride_eq
  length_eq := by rw [List.length_modify, h.length_eq]
  padding hu row hrow := by
    have hp := h.padding hu row hrow
    simp only [finalByte] at hp ⊢
    rw [List.getD_eq_getElem?_getD, List.getElem?_modify]
    rw [List.getD_eq_getElem?_getD] at hp
    split
    · next e =>
        -- the last byte of a row: the pixel is among its used bits
        have hs : stride = (width.toNat + 7) / 8 := h.stride_eq
        have hx' := UInt16.lt_iff_toNat_lt.mp hx
        have hxs : x.toNat / 8 < stride := by omega
        have hrow' : y.toNat = row := by
          have h₁ : (row + 1) * stride - 1 = row * stride + (stride - 1) := by
            rw [Nat.succ_mul]; omega
          rw [h₁] at e
          have h₂ := congrArg (· / stride) e
          simpa [Nat.mul_comm _ stride, Nat.mul_add_div (by omega : 0 < stride),
            Nat.div_eq_of_lt hxs, Nat.div_eq_of_lt (by omega : stride - 1 < stride)] using h₂
        have hlast : x.toNat / 8 = stride - 1 := by
          rw [hrow', Nat.succ_mul] at e; omega
        have hbit : x.toNat % 8 < width.toNat % 8 := by omega
        have hm := pixelMask_padding (Nat.mod_lt _ (by omega)) hbit
        cases hg : pixels[(row + 1) * stride - 1]? with
        | none => simp
        | some b =>
            rw [hg] at hp
            exact paint_padding color hm hp
    · simpa using hp

/-- The byte of a pixel is one of the pixels. -/
theorem pixelIndex_lt {width height x y : UInt16} (hx : x < width) (hy : y < height) :
    y.toNat * mono1Stride width + x.toNat / 8 < mono1Stride width * height.toNat := by
  have hrow := Raster.row_end_le (UInt16.lt_iff_toNat_lt.mp hy) (mono1Stride width)
  have hcolumn : x.toNat / 8 < mono1Stride width := by
    have := UInt16.lt_iff_toNat_lt.mp hx
    rw [mono1Stride]
    omega
  rw [Nat.mul_comm (mono1Stride width)]
  exact lt_of_lt_of_le (Nat.add_lt_add_left hcolumn _) hrow

/-! ### Clearing -/

/-- `u8::MAX << (8 - used_bits)`: the bits of a row's last byte inside the width. -/
def visibleMask (usedBits : Nat) : UInt8 := (255 : UInt8) <<< UInt8.ofNat (8 - usedBits)

/-- Every visible pixel in one color, every padding bit white. -/
def clearPixels [Platform] (width height : UInt16) (stride : Nat) (pixels : List UInt8) :
    Mono1Pixel → Fallible (List UInt8)
  | .white => .ok (List.replicate pixels.length 0)
  | .black =>
      let filled := List.replicate pixels.length 255
      let usedBits := width.toNat % 8
      if usedBits ≠ 0 then
        (List.range height.toNat).foldlM
          (fun pixels row => do
            let stop ← unsigned Platform.usizeBits ((row + 1) * stride)
            inBounds (1 ≤ stop)
            inBounds (stop - 1 < pixels.length)
            return pixels.set (stop - 1) (visibleMask usedBits))
          filled
      else .ok filled

/-- What clearing leaves. -/
def cleared (width height : UInt16) (stride : Nat) (pixels : List UInt8) :
    Mono1Pixel → List UInt8
  | .white => List.replicate pixels.length 0
  | .black =>
      let filled := List.replicate pixels.length 255
      if width.toNat % 8 ≠ 0 then
        (List.range height.toNat).foldl
          (fun pixels row => pixels.set ((row + 1) * stride - 1) (visibleMask (width.toNat % 8)))
          filled
      else filled

theorem length_cleared (width height : UInt16) (stride : Nat) (pixels : List UInt8)
    (color : Mono1Pixel) : (cleared width height stride pixels color).length = pixels.length := by
  cases color with
  | white => exact List.length_replicate
  | black =>
      simp only [cleared]
      split
      · rw [Raster.length_foldl_set, List.length_replicate]
      · exact List.length_replicate

/-- The last byte of a row of valid pixels is one of them. -/
theorem finalByte_lt {width height : UInt16} {stride : Nat} {pixels : List UInt8}
    (h : Mono1Valid width height stride pixels) {row : Nat} (hrow : row < height.toNat) :
    0 < (row + 1) * stride ∧ (row + 1) * stride - 1 < pixels.length := by
  have hw : 0 < width.toNat := Nat.pos_of_ne_zero fun e => h.width_ne (UInt16.toNat_inj.mp e)
  have hs : 0 < stride := by
    rw [h.stride_eq, mono1Stride]
    omega
  have hpos : 0 < (row + 1) * stride := Nat.mul_pos (Nat.succ_pos _) hs
  have hle : (row + 1) * stride ≤ height.toNat * stride := Nat.mul_le_mul_right _ hrow
  rw [h.length_eq, Nat.mul_comm stride]
  omega

/-- No index of the pixels leaves 32 bits. -/
theorem length_lt_of_valid {width height : UInt16} {stride : Nat} {pixels : List UInt8}
    (h : Mono1Valid width height stride pixels) : pixels.length < 2 ^ 32 := by
  rw [h.length_eq, h.stride_eq]
  exact stride_mul_lt (le_trans (mono1Stride_le width) (by omega)) height

theorem unsigned_usize [Platform] {n : Nat} (h : n < 2 ^ 32) :
    unsigned Platform.usizeBits n = .ok n :=
  unsigned_of (lt_of_lt_of_le h two_pow_32_le_usize)

/-- **Clearing does not panic.** -/
theorem clearPixels_eq_ok [Platform] {width height : UInt16} {stride : Nat} {pixels : List UInt8}
    (h : Mono1Valid width height stride pixels) (color : Mono1Pixel) :
    clearPixels width height stride pixels color =
      .ok (cleared width height stride pixels color) := by
  cases color with
  | white => rfl
  | black =>
      simp only [clearPixels, cleared]
      split
      · refine foldlM_of (fun p => p.length = pixels.length) (fun p hp row hrow => ⟨?_, ?_⟩)
          List.length_replicate
        · obtain ⟨hpos, hlast⟩ := finalByte_lt h (List.mem_range.mp hrow)
          have := length_lt_of_valid h
          rw [unsigned_usize (by omega), ok_bind, inBounds_bind (Nat.succ_le_of_lt hpos),
            inBounds_bind (by rw [hp]; exact hlast)]
          rfl
        · rw [List.length_set, hp]
      · rfl

/-- Clearing keeps pixels valid. -/
theorem valid_cleared {width height : UInt16} {stride : Nat} {pixels : List UInt8}
    (h : Mono1Valid width height stride pixels) (color : Mono1Pixel) :
    Mono1Valid width height stride (cleared width height stride pixels color) where
  width_ne := h.width_ne
  height_ne := h.height_ne
  stride_eq := h.stride_eq
  length_eq := by rw [length_cleared, h.length_eq]
  padding hu row hrow := by
    obtain ⟨-, hlast⟩ := finalByte_lt h hrow
    simp only [finalByte, List.getD_eq_getElem?_getD]
    cases color with
    | white =>
        rw [cleared, List.getElem?_replicate_of_lt hlast]
        exact UInt8.zero_and
    | black =>
        have masks : ∀ u < 8, visibleMask u &&& paddingMask u = 0 := by decide
        simp only [cleared, if_pos hu]
        rw [Raster.getElem?_foldl_set_of_mem ⟨row, List.mem_range.mpr hrow, rfl⟩
          (by rw [List.length_replicate]; exact hlast)]
        exact masks _ (Nat.mod_lt _ (by omega))

namespace MonoCanvas

variable {width height : UInt16}

/-- `MonoCanvas::new`: an all-white, nonempty canvas. -/
def new [Platform] (width height : UInt16) : Except Mono1FrameError (MonoCanvas width height) :=
  if h : width = 0 ∨ height = 0 then .error (.zeroDimension width height)
  else
    match hl : mono1PayloadLen width height with
    | none => .error (.payloadSizeOverflow width height)
    | some pixelLen =>
        .ok
          { stride := mono1Stride width
            pixels := List.replicate pixelLen 0
            valid :=
              { width_ne := fun e => h (.inl e)
                height_ne := fun e => h (.inr e)
                stride_eq := rfl
                length_eq := by
                  rw [mono1PayloadLen_eq] at hl
                  rw [List.length_replicate, ← Option.some.inj hl]
                padding := fun _ row _ => by
                  simp [finalByte, List.getElem?_replicate]
                  split <;> simp } }

section Draw

variable [Platform]

/-- Replace every visible pixel with one color. -/
def clear (c : MonoCanvas width height) (color : Mono1Pixel) :
    Fallible (MonoCanvas width height) :=
  match h : clearPixels width height c.stride c.pixels color with
  | .ok pixels =>
      .ok
        { stride := c.stride
          pixels := pixels
          valid := Except.ok.inj ((clearPixels_eq_ok c.valid color).symm.trans h) ▸
            valid_cleared c.valid color }
  | .error failure => .error failure

/-- Set one pixel; `false` outside the canvas. -/
def setPixel (c : MonoCanvas width height) (x y : UInt16) (color : Mono1Pixel) :
    Fallible (MonoCanvas width height × Bool) :=
  if h : x ≥ width ∨ y ≥ height then .ok (c, false)
  else do
    let byte := y.toNat * c.stride + x.toNat / 8
    let _ ← unsigned Platform.usizeBits byte
    inBounds (byte < c.pixels.length)
    return ({
      stride := c.stride
      pixels := c.pixels.modify byte (paint (pixelMask x) color)
      valid := valid_modify c.valid (UInt16.not_le.mp (not_or.mp h).1) color }, true)

/-- Fill a half-open rectangle, clipping it to the canvas. -/
def fillRect (c : MonoCanvas width height) (x y w h : UInt16) (color : Mono1Pixel) :
    Fallible (MonoCanvas width height) := do
  let right := min (← unsigned 32 (x.toNat + w.toNat)) width.toNat
  let bottom := min (← unsigned 32 (y.toNat + h.toNat)) height.toNat
  let top := min y.toNat bottom
  let left := min x.toNat right
  (List.range' top (bottom - top)).foldlM
    (fun c row =>
      (List.range' left (right - left)).foldlM
        (fun c column => do
          return (← c.setPixel (UInt16.ofNat column) (UInt16.ofNat row) color).1) c)
    c

/-- `u16::saturating_add`. -/
def saturatingAdd16 (a b : UInt16) : UInt16 :=
  if a.toNat + b.toNat < 2 ^ 16 then a + b else 65535

/-- Draw a one-pixel rectangle outline, clipping it to the canvas. -/
def outlineRect (c : MonoCanvas width height) (x y w h : UInt16) (color : Mono1Pixel) :
    Fallible (MonoCanvas width height) :=
  if w = 0 ∨ h = 0 then .ok c
  else do
    let c ← c.fillRect x y w 1 color
    let c ← (if h > 1 then c.fillRect x (saturatingAdd16 y (h - 1)) w 1 color else .ok c)
    if h > 2 then do
      let c ← c.fillRect x (saturatingAdd16 y 1) 1 (h - 2) color
      if w > 1 then
        c.fillRect (saturatingAdd16 x (w - 1)) (saturatingAdd16 y 1) 1 (h - 2) color
      else .ok c
    else .ok c

/-- One column of a raster row of a glyph. -/
def drawColumn (c : MonoCanvas width height) (glyphX : Nat) (targetY : Int) (rowBits : UInt8)
    (color : Mono1Pixel) (column : Nat) : Fallible (MonoCanvas width height) :=
  let mask := (1 : UInt8) <<< UInt8.ofNat (Font.WIDTH - 1 - column)
  if rowBits &&& mask = 0 then .ok c
  else do
    let targetX ← unsigned 32 (glyphX + column)
    if targetX < width.toNat then
      return (← c.setPixel (UInt16.ofNat targetX) (UInt16.ofNat targetY.toNat) color).1
    else .ok c

/-- One raster row of a glyph. -/
def drawGlyphRow (c : MonoCanvas width height) (glyphX : Nat) (targetY : Int) (rowBits : UInt8)
    (color : Mono1Pixel) : Fallible (MonoCanvas width height) :=
  if ¬ (0 ≤ targetY ∧ targetY < height.toNat) then .ok c
  else
    (List.range Font.WIDTH).foldlM
      (fun c column => c.drawColumn glyphX targetY rowBits color column) c

/-- One vertically doubled glyph. -/
def drawGlyph (c : MonoCanvas width height) (character : Char) (glyphX : Nat) (top : Int)
    (color : Mono1Pixel) : Fallible (MonoCanvas width height) :=
  (Font.rows character).zipIdx.foldlM
    (fun c row =>
      (List.range Font.VERTICAL_SCALE).foldlM
        (fun c rep => do
          let targetY ← signed 32 (top + (row.2 * Font.VERTICAL_SCALE : Nat) + (rep : Nat))
          c.drawGlyphRow glyphX targetY row.1 color)
        c)
    c

/-- The glyphs of a text from a column on, up to the right edge. -/
def drawGlyphs (color : Mono1Pixel) (top : Int) :
    List Char → Nat → MonoCanvas width height → Fallible (MonoCanvas width height)
  | [], _, c => .ok c
  | character :: rest, glyphX, c =>
      if glyphX ≥ width.toNat then .ok c
      else do
        let c ← c.drawGlyph character glyphX top color
        -- `glyph_x.checked_add` on `u32`
        if glyphX + Font.ADVANCE < 2 ^ 32 then
          drawGlyphs color top rest (glyphX + Font.ADVANCE) c
        else .ok c

/-- Draw text, clipping it to the canvas; `baselineY` is the last raster row of each glyph. -/
def drawText (c : MonoCanvas width height) (x baselineY : UInt16) (text : String)
    (color : Mono1Pixel) : Fallible (MonoCanvas width height) := do
  let glyphHeight := Font.HEIGHT * Font.VERTICAL_SCALE
  let top ← signed 32 (baselineY.toNat - ((glyphHeight - 1 : Nat) : Int))
  drawGlyphs color top text.toList x.toNat c

end Draw

/-- Validate and freeze the canvas. -/
def intoFrame [Platform] (c : MonoCanvas width height) : Except Mono1FrameError Mono1Frame :=
  Mono1Frame.new width height c.pixels

/-- **Freezing never fails.** -/
theorem intoFrame_eq_ok [Platform] (c : MonoCanvas width height) :
    c.intoFrame = .ok ⟨width, height, c.stride, c.pixels, c.valid⟩ :=
  Mono1Frame.new_eq_ok.mpr ⟨rfl, rfl, rfl⟩

/-- A canvas exists of every nonzero size. -/
theorem new_eq_ok [Platform] (h : width ≠ 0 ∧ height ≠ 0) :
    ∃ c : MonoCanvas width height, new width height = .ok c := by
  simp only [new]
  rw [dif_neg (not_or.mpr h)]
  split
  · next hl => rw [mono1PayloadLen_eq] at hl; cases hl
  · exact ⟨_, rfl⟩

end MonoCanvas

end PaperPad.Host
