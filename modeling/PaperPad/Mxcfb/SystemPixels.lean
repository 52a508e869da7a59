import PaperPad.Mxcfb.Metadata
import PaperPad.Support.Raster

/-!
# Mxcfb — SystemPixels

The local strip in native pixels, `src/mxcfb/system_pixels.rs`: the outline of the Exit control,
its label at the largest scale that fits, and the connection indicator.  The three loops write
black at a list of indices each, in the source's order; an index out of bounds panics, and a
buffer is always allocated.

A whole strip is rasterized exactly when there is an Exit control to draw, which is when the
screen is wider than both margins (`rasterizeSystemUi_eq_ok`, `exitBounds_eq`).
-/

namespace PaperPad.Mxcfb

open Device Fallible Raster

/-- Gray of the ground. -/
def WHITE : UInt8 := 0xff

/-- Gray of what is drawn. -/
def BLACK : UInt8 := 0x00

/-- Pixels of the border of the Exit control. -/
def BORDER_THICKNESS : Nat := 2

/-- The largest magnification of the label. -/
def MAX_GLYPH_SCALE : Nat := 5

def GLYPH_WIDTH : Nat := 5

def GLYPH_HEIGHT : Nat := 7

/-- The width of the label: four glyphs, a column between two. -/
def TEXT_UNITS : Nat := 4 * GLYPH_WIDTH + 3

/-- Five-column glyphs, top row first. -/
def EXIT_GLYPHS : List (List UInt8) :=
  [[0b11111, 0b10000, 0b10000, 0b11110, 0b10000, 0b10000, 0b11111],
    [0b10001, 0b10001, 0b01010, 0b00100, 0b01010, 0b10001, 0b10001],
    [0b11111, 0b00100, 0b00100, 0b00100, 0b00100, 0b00100, 0b11111],
    [0b11111, 0b00100, 0b00100, 0b00100, 0b00100, 0b00100, 0b00100]]

/-- The strip, and where it goes. -/
structure SystemUiPixels where
  region : ScreenRect
  stride : Nat
  bytes : List UInt8
  deriving DecidableEq

/-- `bytes[index] = BLACK`, for each index. -/
def paint (bytes : List UInt8) (indices : List Nat) : Fallible (List UInt8) :=
  indices.foldlM (fun bytes index => do
    inBounds (index < bytes.length)
    return bytes.set index BLACK) bytes

/-- The outline of the Exit control. -/
def borderIndices (left top width height stride : Nat) : List Nat :=
  (List.range' top height).flatMap fun y =>
    ((List.range' left width).filter fun x =>
      x - left < BORDER_THICKNESS ∨ left + width - 1 - x < BORDER_THICKNESS ∨
        y - top < BORDER_THICKNESS ∨ top + height - 1 - y < BORDER_THICKNESS).map fun x =>
      y * stride + x

/-- The label, each unit of a glyph a square of `scale` pixels. -/
def labelIndices (textLeft textTop scale stride : Nat) : List Nat :=
  EXIT_GLYPHS.zipIdx.flatMap fun (glyph, glyphIndex) =>
    glyph.zipIdx.flatMap fun (row, glyphY) =>
      (List.range GLYPH_WIDTH).flatMap fun glyphX =>
        if row &&& ((1 : UInt8) <<< UInt8.ofNat (GLYPH_WIDTH - 1 - glyphX)) = 0 then []
        else
          let x := textLeft + (glyphIndex * (GLYPH_WIDTH + 1) + glyphX) * scale
          let y := textTop + glyphY * scale
          (List.range' y scale).flatMap fun pixelY => List.range' (pixelY * stride + x) scale

/-- The connection indicator: a disc when connected, else a ring. -/
def indicatorIndices (left top diameter stride : Nat) (connected : Bool) : List Nat :=
  let outerDiameterSquared : Int := diameter * diameter
  let innerDiameter := diameter - BORDER_THICKNESS * 2
  let innerDiameterSquared : Int := innerDiameter * innerDiameter
  (List.range diameter).flatMap fun y =>
    let dy : Int := (2 * y + 1 : Nat) - diameter
    ((List.range diameter).filter fun x =>
      let dx : Int := (2 * x + 1 : Nat) - diameter
      let distanceSquared := dx * dx + dy * dy
      let insideOuter := distanceSquared ≤ outerDiameterSquared
      let insideInner := distanceSquared < innerDiameterSquared
      insideOuter ∧ (connected = true ∨ ¬ insideInner)).map fun x =>
      (top + y) * stride + left + x

/-- The label inside the control; very narrow screens keep the outline and lose the label. -/
def paintLabel (bytes : List UInt8) (left top width height stride : Nat) : Fallible (List UInt8) :=
  let scale := min MAX_GLYPH_SCALE ((width - 2 * BORDER_THICKNESS) / TEXT_UNITS)
  if scale > 0 then
    let textWidth := TEXT_UNITS * scale
    let textHeight := GLYPH_HEIGHT * scale
    let textLeft := left + (width - textWidth) / 2
    let textTop := top + (height - textHeight) / 2
    paint bytes (labelIndices textLeft textTop scale stride)
  else .ok bytes

/-- A disk if connected, a ring if not. -/
def paintIndicator (bytes : List UInt8) (indicator : Option LogicalRect) (region : ScreenRect)
    (stride : Nat) (connected : Bool) : Fallible (List UInt8) :=
  match indicator with
  | some indicator =>
      let indicatorLeft := (indicator.x - region.x).toNat
      let indicatorTop := (indicator.y - region.y).toNat
      let diameter := indicator.width.toNat
      paint bytes (indicatorIndices indicatorLeft indicatorTop diameter stride connected)
  | none => .ok bytes

/-- Rasterize only the local strip. -/
def rasterizeSystemUi [Platform] (screen : ScreenLayout) (connected : Bool) :
    Fallible SystemUiPixels := do
  let screenWidth := screen.physicalSize.1
  let screenHeight := screen.physicalSize.2
  let bounds ← required (exitBounds screenWidth screenHeight)
    "screen cannot contain PaperPad Exit control"
  let region := screen.systemUiRegion
  ensure (region.height = SYSTEM_UI_HEIGHT) "incomplete system UI strip"
  let stride := region.width.toNat
  let len ← required (checkedMul stride region.height.toNat) "system UI pixel length overflow"
  let bytes := List.replicate len WHITE
  let left := (bounds.x - region.x).toNat
  let top := (bounds.y - region.y).toNat
  let width := bounds.width.toNat
  let height := bounds.height.toNat
  let bytes ← paint bytes (borderIndices left top width height stride)
  let bytes ← paintLabel bytes left top width height stride
  let bytes ← paintIndicator bytes (connectionIndicatorBounds screenWidth screenHeight) region
    stride connected
  return { region, stride, bytes }

/-! ### Painting -/

theorem paint_cons {bytes : List UInt8} {index : Nat} {indices : List Nat}
    (h : index < bytes.length) :
    paint bytes (index :: indices) = paint (bytes.set index BLACK) indices := by
  rw [paint, List.foldlM_cons, inBounds_bind h]
  rfl

/-- **Painting inside the strip** succeeds. -/
theorem paint_of {bytes : List UInt8} {indices : List Nat} (h : ∀ i ∈ indices, i < bytes.length) :
    paint bytes indices = .ok (indices.foldl (fun b i => b.set i BLACK) bytes) := by
  induction indices generalizing bytes with
  | nil => rfl
  | cons i is ih =>
      rw [paint_cons (h i List.mem_cons_self), List.foldl_cons]
      refine ih fun j hj => ?_
      rw [List.length_set]
      exact h j (List.mem_cons_of_mem i hj)

theorem length_paint {bytes painted : List UInt8} {indices : List Nat}
    (h : paint bytes indices = .ok painted) : painted.length = bytes.length := by
  induction indices generalizing bytes with
  | nil => cases h; rfl
  | cons i is ih =>
      rw [paint, List.foldlM_cons, bind_eq_ok] at h
      obtain ⟨b, hb, h⟩ := h
      obtain ⟨-, hb⟩ := inBounds_bind_eq_ok.mp hb
      cases hb
      rw [ih h, List.length_set]

/-- The indices of pixels inside a rectangle of a strip. -/
def Within (left top width height stride : Nat) (indices : List Nat) : Prop :=
  ∀ i ∈ indices, ∃ x y, left ≤ x ∧ x < left + width ∧ top ≤ y ∧ y < top + height ∧
    i = y * stride + x

/-- A rectangle inside the strip. -/
theorem Within.lt {left top width height stride rows : Nat} {indices : List Nat}
    (h : Within left top width height stride indices) (hx : left + width ≤ stride)
    (hy : top + height ≤ rows) : ∀ i ∈ indices, i < stride * rows := by
  intro i hi
  obtain ⟨x, y, -, hxw, -, hyh, rfl⟩ := h i hi
  have hrow := row_end_le (lt_of_lt_of_le hyh hy) stride
  rw [Nat.mul_comm stride]
  omega

theorem Within.paint {left top width height stride rows : Nat} {bytes : List UInt8}
    {indices : List Nat} (h : Within left top width height stride indices)
    (hx : left + width ≤ stride) (hy : top + height ≤ rows) (hlen : bytes.length = stride * rows) :
    ∃ painted, paint bytes indices = .ok painted ∧ painted.length = stride * rows := by
  have hp := paint_of fun i hi => hlen ▸ h.lt hx hy i hi
  exact ⟨_, hp, (length_paint hp).trans hlen⟩

theorem within_border (left top width height stride : Nat) :
    Within left top width height stride (borderIndices left top width height stride) := by
  intro i hi
  obtain ⟨y, hy, hi⟩ := List.mem_flatMap.mp hi
  obtain ⟨x, hx, rfl⟩ := List.mem_map.mp hi
  have hx := List.mem_range'_1.mp (List.mem_of_mem_filter hx)
  have hy := List.mem_range'_1.mp hy
  exact ⟨x, y, hx.1, hx.2, hy.1, hy.2, rfl⟩

theorem within_label (textLeft textTop scale stride : Nat) :
    Within textLeft textTop (TEXT_UNITS * scale) (GLYPH_HEIGHT * scale) stride
      (labelIndices textLeft textTop scale stride) := by
  have hheight : ∀ glyph ∈ EXIT_GLYPHS, glyph.length = GLYPH_HEIGHT := by decide
  intro i hi
  obtain ⟨⟨glyph, glyphIndex⟩, hglyph, hi⟩ := List.mem_flatMap.mp hi
  obtain ⟨⟨row, glyphY⟩, hrow, hi⟩ := List.mem_flatMap.mp hi
  obtain ⟨glyphX, hglyphX, hi⟩ := List.mem_flatMap.mp hi
  have hindex : glyphIndex < 4 := (List.mem_zipIdx' hglyph).1
  have hY : glyphY < 7 := by
    have := (List.mem_zipIdx' hrow).1
    rwa [hheight glyph (List.fst_mem_of_mem_zipIdx hglyph)] at this
  have hX : glyphX < 5 := List.mem_range.mp hglyphX
  split_ifs at hi
  · exact absurd hi List.not_mem_nil
  · obtain ⟨pixelY, hpixelY, hi⟩ := List.mem_flatMap.mp hi
    obtain ⟨hlo, hhi⟩ := List.mem_range'_1.mp hpixelY
    obtain ⟨hilo, hihi⟩ := List.mem_range'_1.mp hi
    have hx := row_end_le (r := glyphIndex * (GLYPH_WIDTH + 1) + glyphX) (n := TEXT_UNITS)
      (by simp only [GLYPH_WIDTH, TEXT_UNITS]; omega) scale
    have hy := row_end_le (n := GLYPH_HEIGHT) hY scale
    refine ⟨i - pixelY * stride, pixelY, ?_, ?_, ?_, ?_, ?_⟩ <;> omega

theorem within_indicator (left top diameter stride : Nat) (connected : Bool) :
    Within left top diameter diameter stride
      (indicatorIndices left top diameter stride connected) := by
  intro i hi
  obtain ⟨y, hy, hi⟩ := List.mem_flatMap.mp hi
  obtain ⟨x, hx, rfl⟩ := List.mem_map.mp hi
  have hx := List.mem_range.mp (List.mem_of_mem_filter hx)
  have hy := List.mem_range.mp hy
  exact ⟨left + x, top + y, by omega, by omega, by omega, by omega, by omega⟩

/-! ### The bounds in a whole strip -/

section Bounds

variable {w h : UInt16} {l : ScreenLayout} (hl : ScreenLayout.new w h = some l)

include hl

theorem strip_of_new : l.systemUiRegion.x = 0 ∧ l.systemUiRegion.width = l.physicalSize.1 :=
  ⟨(ScreenLayout.sizes hl).strip_left, (ScreenLayout.sizes hl).strip_width⟩

variable (hh : l.systemUiRegion.height = SYSTEM_UI_HEIGHT)

include hh

/-- The indicator needs three margins, its diameter and one more column. -/
theorem connectionIndicatorBounds_eq :
    connectionIndicatorBounds w h =
      if l.physicalSize.1 < 85 then none
      else some ⟨20, l.systemUiRegion.y + 24, 24, 24⟩ := by
  have hmul : checkedMul16 CELL_MARGIN 3 = some 60 := by decide
  have hadd : checkedAdd16 60 CONNECTION_INDICATOR_DIAMETER = some 84 := by decide
  have hone : checkedAdd16 84 1 = some 85 := by decide
  have hwidth := (strip_of_new hl).2
  simp only [connectionIndicatorBounds, hl, hmul, hadd, hone, Option.bind_eq_bind,
    Option.bind_some, hh, hwidth]
  by_cases hw : l.physicalSize.1 < 85
  · rw [if_pos hw, if_pos (.inr (.inl hw))]
  · rw [if_neg hw, if_neg (not_or.mpr ⟨by decide, not_or.mpr ⟨hw, by decide⟩⟩)]
    rfl

/-- The left edge of the Exit control. -/
def exitLeft (width : UInt16) : UInt16 := if width < 85 then 20 else 64

/-- **There is an Exit control** on every screen wider than both margins. -/
theorem exitBounds_eq :
    exitBounds w h =
      if l.physicalSize.1 ≤ 40 then none
      else some ⟨exitLeft l.physicalSize.1, l.systemUiRegion.y,
        l.physicalSize.1 - exitLeft l.physicalSize.1 - 20, SYSTEM_UI_HEIGHT⟩ := by
  have hwidth := (strip_of_new hl).2
  simp only [exitBounds, hl, Option.bind_eq_bind, Option.bind_some, hh, hwidth,
    connectionIndicatorBounds_eq hl hh]
  by_cases hw : l.physicalSize.1 ≤ 40
  · rw [if_pos hw, if_pos (.inr hw)]
  · have hboth : ¬ (SYSTEM_UI_HEIGHT < SYSTEM_UI_HEIGHT ∨ l.physicalSize.1 ≤ CELL_MARGIN * 2) :=
      not_or.mpr ⟨by decide, hw⟩
    rw [if_neg hw, if_neg hboth]
    by_cases h85 : l.physicalSize.1 < 85
    · have hnarrow : ¬ l.physicalSize.1 ≤ (20 : UInt16) + CELL_MARGIN := hw
      simp only [if_pos h85, exitLeft]
      exact if_neg hnarrow
    · -- the control starts one margin behind the indicator
      have hwide : ¬ l.physicalSize.1 ≤ (20 : UInt16) + 24 + CELL_MARGIN + CELL_MARGIN := by
        rw [show (20 : UInt16) + 24 + CELL_MARGIN + CELL_MARGIN = 84 by decide]
        rw [UInt16.not_lt, UInt16.le_iff_toNat_le] at h85
        rw [UInt16.not_le, UInt16.lt_iff_toNat_lt]
        exact h85
      simp only [if_neg h85, exitLeft]
      exact if_neg hwide

end Bounds

/-! ### Rasterizing a strip -/

/-- The label is painted inside its control. -/
theorem paintLabel_of {bytes : List UInt8} {left top width height stride rows : Nat}
    (hx : left + width ≤ stride) (hy : top + height ≤ rows) (hheight : 35 ≤ height)
    (hlen : bytes.length = stride * rows) :
    ∃ painted, paintLabel bytes left top width height stride = .ok painted ∧
      painted.length = stride * rows := by
  have hfit : TEXT_UNITS *
      min MAX_GLYPH_SCALE ((width - 2 * BORDER_THICKNESS) / TEXT_UNITS) ≤ width :=
    (Nat.mul_le_mul_left _ (min_le_right _ _)).trans
      ((Nat.mul_div_le _ _).trans (Nat.sub_le _ _))
  have htall : GLYPH_HEIGHT *
      min MAX_GLYPH_SCALE ((width - 2 * BORDER_THICKNESS) / TEXT_UNITS) ≤ 35 :=
    Nat.mul_le_mul_left GLYPH_HEIGHT (min_le_left _ _)
  rw [paintLabel]
  dsimp only
  split
  · exact (within_label _ _ _ stride).paint (by omega) (by omega) hlen
  · exact ⟨bytes, rfl, hlen⟩

/-- The control is painted inside its strip. -/
theorem paintExit_of {left width stride : Nat} (hx : left + width ≤ stride) :
    ∃ outlined labelled,
      paint (List.replicate (stride * 72) WHITE) (borderIndices left 0 width 72 stride) =
        .ok outlined ∧
      paintLabel outlined left 0 width 72 stride = .ok labelled ∧
      labelled.length = stride * 72 := by
  have hheight : 0 + 72 ≤ 72 := by omega
  obtain ⟨outlined, h₁, hlen₁⟩ :=
    (within_border left 0 width 72 stride).paint hx hheight List.length_replicate
  obtain ⟨labelled, h₂, hlen₂⟩ := paintLabel_of hx hheight (by omega) hlen₁
  exact ⟨outlined, labelled, h₁, h₂, hlen₂⟩

section Rasterize

variable {screen : ScreenLayout}
  (hl : ScreenLayout.new screen.physicalSize.1 screen.physicalSize.2 = some screen)
  (hh : screen.systemUiRegion.height = SYSTEM_UI_HEIGHT)

include hl hh

/-- The indicator of a whole strip. -/
theorem paintIndicator_eq (bytes : List UInt8) (connected : Bool) :
    paintIndicator bytes
        (connectionIndicatorBounds screen.physicalSize.1 screen.physicalSize.2)
        screen.systemUiRegion screen.systemUiRegion.width.toNat connected =
      if 85 ≤ screen.systemUiRegion.width.toNat then
        paint bytes (indicatorIndices 20 24 24 screen.systemUiRegion.width.toNat connected)
      else .ok bytes := by
  obtain ⟨hx, hwidth⟩ := strip_of_new hl
  have hnarrow : screen.physicalSize.1 < 85 ↔ ¬ 85 ≤ screen.systemUiRegion.width.toNat := by
    rw [hwidth, not_le]
    exact UInt16.lt_iff_toNat_lt
  rw [connectionIndicatorBounds_eq hl hh]
  by_cases hw : screen.physicalSize.1 < 85
  · rw [if_pos hw, if_neg (hnarrow.mp hw)]
    rfl
  · have htop : (screen.systemUiRegion.y + 24 - screen.systemUiRegion.y).toNat = 24 := by
      rw [UInt16.add_comm, UInt16.add_sub_cancel]
      rfl
    have hleft : ((20 : UInt16) - screen.systemUiRegion.x).toNat = 20 := by
      rw [hx]
      rfl
    have hdiameter : (24 : UInt16).toNat = 24 := rfl
    rw [if_neg hw, if_pos (not_not.mp (mt hnarrow.mpr hw))]
    simp only [paintIndicator]
    rw [htop, hleft, hdiameter]

theorem paintIndicator_of {bytes : List UInt8} (connected : Bool)
    (hlen : bytes.length = screen.systemUiRegion.width.toNat * 72) :
    ∃ painted, paintIndicator bytes
        (connectionIndicatorBounds screen.physicalSize.1 screen.physicalSize.2)
        screen.systemUiRegion screen.systemUiRegion.width.toNat connected = .ok painted ∧
      painted.length = screen.systemUiRegion.width.toNat * 72 := by
  rw [paintIndicator_eq hl hh]
  split
  · exact (within_indicator 20 24 24 _ connected).paint (by omega) (by omega) hlen
  · exact ⟨bytes, rfl, hlen⟩

omit hh in
/-- Where the Exit control lies in its strip. -/
theorem exitLeft_spec (hw : 40 < screen.physicalSize.1) :
    (exitLeft screen.physicalSize.1).toNat +
      (screen.physicalSize.1 - exitLeft screen.physicalSize.1 - 20).toNat + 20 =
        screen.systemUiRegion.width.toNat := by
  have hwidth := (strip_of_new hl).2
  have hw' : 40 < screen.physicalSize.1.toNat := UInt16.lt_iff_toNat_lt.mp hw
  have hleft : (exitLeft screen.physicalSize.1).toNat + 20 < screen.physicalSize.1.toNat := by
    rw [exitLeft]
    by_cases h : screen.physicalSize.1 < 85
    · rw [if_pos h]
      exact hw'
    · rw [if_neg h]
      rw [UInt16.not_lt, UInt16.le_iff_toNat_le] at h
      exact h
  have hsub : (screen.physicalSize.1 - exitLeft screen.physicalSize.1).toNat =
      screen.physicalSize.1.toNat - (exitLeft screen.physicalSize.1).toNat :=
    UInt16.toNat_sub_of_le _ _ (UInt16.le_iff_toNat_le.mpr (by omega))
  have h20 : (20 : UInt16).toNat = 20 := rfl
  rw [hwidth, UInt16.toNat_sub_of_le _ _ (UInt16.le_iff_toNat_le.mpr (by omega)), hsub]
  omega

/-- What is left to do once there is an Exit control. -/
theorem rasterizeSystemUi_eq [Platform] (hw : 40 < screen.physicalSize.1) (connected : Bool) :
    rasterizeSystemUi screen connected = (do
      let left := (exitLeft screen.physicalSize.1).toNat
      let width := (screen.physicalSize.1 - exitLeft screen.physicalSize.1 - 20).toNat
      let stride := screen.systemUiRegion.width.toNat
      let bytes ← paint (List.replicate (stride * 72) WHITE) (borderIndices left 0 width 72 stride)
      let bytes ← paintLabel bytes left 0 width 72 stride
      let bytes ← paintIndicator bytes
        (connectionIndicatorBounds screen.physicalSize.1 screen.physicalSize.2)
        screen.systemUiRegion stride connected
      return ⟨screen.systemUiRegion, stride, bytes⟩) := by
  have hexit := exitBounds_eq hl hh
  rw [if_neg (UInt16.not_le.mpr hw)] at hexit
  have h72 : SYSTEM_UI_HEIGHT.toNat = 72 := rfl
  have hmul : checkedMul screen.systemUiRegion.width.toNat 72 =
      some (screen.systemUiRegion.width.toNat * 72) :=
    checkedMul_of_lt (Protocol.stride_mul_lt
      (by have := screen.systemUiRegion.width.toNat_lt; omega) SYSTEM_UI_HEIGHT)
  simp only [rasterizeSystemUi, hexit, required_some, ok_bind, hh, ensure_bind, hmul,
    (strip_of_new hl).1, UInt16.sub_zero, UInt16.sub_self, h72, UInt16.toNat_zero]

/-- **A strip that holds the Exit control** is rasterized, every pixel of it. -/
theorem rasterizeSystemUi_of_lt [Platform] (hw : 40 < screen.physicalSize.1) (connected : Bool) :
    ∃ bytes, rasterizeSystemUi screen connected =
        .ok ⟨screen.systemUiRegion, screen.systemUiRegion.width.toNat, bytes⟩ ∧
      bytes.length = screen.systemUiRegion.width.toNat * 72 := by
  have hspec := exitLeft_spec hl hw
  obtain ⟨outlined, labelled, h₁, h₂, hlen₂⟩ := paintExit_of (Nat.le_of_add_right_le hspec.le)
  obtain ⟨bytes, h₃, hlen₃⟩ := paintIndicator_of hl hh connected hlen₂
  refine ⟨bytes, ?_, hlen₃⟩
  simp only [rasterizeSystemUi_eq hl hh hw, h₁, h₂, h₃, ok_bind]
  rfl

/-- **Rasterizing succeeds** only on a screen that holds the Exit control. -/
theorem rasterizeSystemUi_eq_ok [Platform] {connected : Bool} :
    (∃ pixels, rasterizeSystemUi screen connected = .ok pixels) ↔ 40 < screen.physicalSize.1 := by
  constructor
  · rintro ⟨pixels, h⟩
    obtain ⟨bounds, hb, -⟩ := required_bind_eq_ok.mp h
    by_contra hw
    rw [exitBounds_eq hl hh, if_pos (UInt16.not_lt.mp hw)] at hb
    cases hb
  · intro hw
    obtain ⟨bytes, h, -⟩ := rasterizeSystemUi_of_lt hl hh hw connected
    exact ⟨_, h⟩

/-- What is rasterized is the whole strip. -/
theorem pixels_of_rasterizeSystemUi [Platform] {connected : Bool} {pixels : SystemUiPixels}
    (h : rasterizeSystemUi screen connected = .ok pixels) :
    pixels = ⟨screen.systemUiRegion, screen.systemUiRegion.width.toNat, pixels.bytes⟩ ∧
      pixels.bytes.length = screen.systemUiRegion.width.toNat * 72 := by
  have hw := (rasterizeSystemUi_eq_ok hl hh).mp ⟨pixels, h⟩
  obtain ⟨bytes, hbytes, hlen⟩ := rasterizeSystemUi_of_lt hl hh hw connected
  obtain rfl := Except.ok.inj (h.symm.trans hbytes)
  exact ⟨rfl, hlen⟩

end Rasterize

end PaperPad.Mxcfb