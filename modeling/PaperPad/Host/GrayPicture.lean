import PaperPad.Host.GrayRenderer
import PaperPad.Host.MonoPicture

/-!
# Host — GrayPicture

What a Gray8 canvas shows, and what each drawing primitive paints.  No call panics: every index
is in range, because a shape is clipped before it is indexed, and no sum of coordinates reaches
`2 ^ 32`.  Rectangles and outlines paint the point sets the Mono1 canvas paints.

An image is scaled into its clipped target by its proportions (`FitsTarget`) and centred there.
-/

namespace PaperPad.Host

open Protocol Fallible

namespace GrayCanvas

variable {width height : UInt16}

/-- What the canvas shows: its bytes, and white around them. -/
def view (c : GrayCanvas width height) (p : Nat × Nat) : UInt8 :=
  if p.1 < width.toNat ∧ p.2 < height.toNat then c.pixels.getD (p.2 * width.toNat + p.1) 0
  else 255

/-- The points of a canvas of this size. -/
abbrev canvas (width height : UInt16) : Set (Nat × Nat) := MonoCanvas.canvas width height

/-- No index of the canvas leaves 32 bits. -/
theorem index_lt {x y : Nat} (hx : x ≤ width.toNat) (hy : y < height.toNat) :
    y * width.toNat + x < 2 ^ 32 := by
  have hrow := Raster.row_end_le hy width.toNat
  have hall := stride_mul_lt (Nat.le_of_lt_succ width.toNat_lt) height
  rw [Nat.mul_comm] at hall
  omega

section Rows

variable (c : GrayCanvas width height) {x y : Nat} {bytes : List UInt8}

/-- A run inside a row is inside the pixels. -/
theorem run_le (hx : x ≤ width.toNat) (hy : y < height.toNat) :
    y * width.toNat + x ≤ c.pixels.length := by
  have := Raster.row_end_le hy width.toNat
  rw [c.length_eq, Nat.mul_comm width.toNat]
  omega

/-- A run inside a row is written, and nothing else changes. -/
theorem writeSlice_row (hx : x + bytes.length ≤ width.toNat) (hy : y < height.toNat) :
    ∃ c', c.writeSlice (y * width.toNat + x) bytes = .ok c' ∧
      ∀ p, c'.view p =
        if p.2 = y ∧ x ≤ p.1 ∧ p.1 < x + bytes.length then bytes.getD (p.1 - x) 0
        else c.view p := by
  have hle : y * width.toNat + x + bytes.length ≤ c.pixels.length := by
    rw [Nat.add_assoc]
    exact c.run_le hx hy
  refine ⟨_, dif_pos hle, fun p => ?_⟩
  by_cases hp : p.1 < width.toNat ∧ p.2 < height.toNat
  · rw [view, if_pos hp, List.getD_eq_getElem?_getD, Raster.getElem?_splice hle]
    by_cases h : p.2 = y ∧ x ≤ p.1 ∧ p.1 < x + bytes.length
    · obtain ⟨rfl, hlo, hhi⟩ := h
      rw [if_pos (by omega), if_pos ⟨rfl, hlo, hhi⟩, List.getD_eq_getElem?_getD,
        Nat.add_sub_add_left]
    · -- an index in the run is that of a point of the row
      have hout : ¬ (y * width.toNat + x ≤ p.2 * width.toNat + p.1 ∧
          p.2 * width.toNat + p.1 < y * width.toNat + x + bytes.length) := by
        intro hin
        have hk : p.2 * width.toNat + p.1 = y * width.toNat +
            (p.2 * width.toNat + p.1 - y * width.toNat) := by omega
        obtain ⟨hy', hx'⟩ := Raster.index_inj hp.1 (by omega) hk
        exact h ⟨hy', by omega, by omega⟩
      rw [if_neg hout, if_neg h, view, if_pos hp, List.getD_eq_getElem?_getD]
  · rw [view, if_neg hp, if_neg (by omega), view, if_neg hp]

end Rows

section Shapes

variable (c : GrayCanvas width height) (luminance : UInt8)

/-- A run of one luminance. -/
theorem paints_run {x y n : Nat} (hx : x + n ≤ width.toNat) (hy : y < height.toNat) :
    Picture.Paints view luminance (Picture.rect x y n 1) c
      (c.writeSlice (y * width.toNat + x) (List.replicate n luminance)) := by
  have hlen : (List.replicate n luminance).length = n := List.length_replicate
  obtain ⟨c', hc', hview⟩ :=
    @writeSlice_row _ _ c x y (List.replicate n luminance) (by rw [hlen]; exact hx) hy
  refine ⟨c', hc', funext fun p => ?_⟩
  rw [hview p, hlen]
  by_cases hp : p ∈ Picture.rect x y n 1
  · rw [Picture.paint_of_mem hp]
    rw [Picture.mem_rect] at hp
    rw [if_pos (by omega), List.getD_eq_getElem?_getD, List.getElem?_replicate_of_lt (by omega)]
    rfl
  · rw [Picture.paint_of_notMem hp]
    rw [Picture.mem_rect] at hp
    rw [if_neg (by omega)]

theorem paints_fillSlice {left right row : Nat} (hle : left ≤ right) (hr : right ≤ width.toNat)
    (hy : row < height.toNat) :
    Picture.Paints view luminance (Picture.rect left row (right - left) 1) c
      (c.fillSlice (row * width.toNat + left) (row * width.toNat + right) luminance) := by
  rw [fillSlice, inBounds_bind (by omega), Nat.add_sub_add_left]
  exact c.paints_run luminance (by omega) hy

variable [Platform]

theorem setPixel_of {x y : UInt16} (hx : x.toNat < width.toNat) (hy : y.toNat < height.toNat) :
    ∃ c', c.setPixel x y luminance = .ok (c', true) ∧
      c'.view = Picture.paint {(x.toNat, y.toNat)} luminance c.view := by
  obtain ⟨c', hc', hview⟩ := c.paints_run luminance (n := 1) hx hy
  have hin : ¬ (x ≥ width ∨ y ≥ height) := by
    rw [ge_iff_le, ge_iff_le, UInt16.le_iff_toNat_le, UInt16.le_iff_toNat_le]
    omega
  refine ⟨c', ?_, ?_⟩
  · simp only [setPixel, if_neg hin]
    rw [unsigned_usize (index_lt (Nat.le_of_lt hx) hy), ok_bind]
    rw [List.replicate_one] at hc'
    rw [hc']
    rfl
  · rw [hview]
    congr 1
    ext p
    rw [Picture.mem_rect, Set.mem_singleton_iff, Prod.ext_iff]
    omega

theorem paints_fillRect (x y w h : UInt16) :
    Picture.Paints view luminance
      (Picture.rect x.toNat y.toNat w.toNat h.toNat ∩ canvas width height) c
      (c.fillRect x y w h luminance) := by
  have hw : x.toNat + w.toNat < 2 ^ 32 := by
    have := x.toNat_lt
    have := w.toNat_lt
    omega
  have hh : y.toNat + h.toNat < 2 ^ 32 := by
    have := y.toNat_lt
    have := h.toNat_lt
    omega
  have hleft : (min x width).toNat = min x.toNat width.toNat := min16_toNat x width
  rw [fillRect, unsigned_of hw, ok_bind, unsigned_of hh, ok_bind]
  refine (Picture.Paints.foldlM (S := fun row => Picture.rect (min x.toNat width.toNat) row
    (min (x.toNat + w.toNat) width.toNat - min x.toNat width.toNat) 1) ?_ c).congr ?_
  · intro c row hrow
    rw [List.mem_range'_1] at hrow
    have hy : row < height.toNat := by omega
    rw [hleft, unsigned_usize (index_lt (Nat.min_le_right _ _) hy), ok_bind,
      unsigned_usize (index_lt (Nat.min_le_right _ _) hy), ok_bind]
    exact c.paints_fillSlice luminance (by omega) (Nat.min_le_right _ _) hy
  · ext p
    constructor
    · rintro ⟨row, hrow, hp⟩
      rw [List.mem_range'_1] at hrow
      rw [Picture.mem_rect] at hp
      refine ⟨?_, MonoCanvas.mem_canvas.mpr (by omega)⟩
      rw [Picture.mem_rect]
      omega
    · rintro ⟨hp, hc⟩
      rw [Picture.mem_rect] at hp
      rw [MonoCanvas.mem_canvas] at hc
      refine ⟨p.2, List.mem_range'_1.mpr (by omega), ?_⟩
      rw [Picture.mem_rect]
      omega

theorem paints_outlineRect (x y w h : UInt16) :
    Picture.Paints view luminance
      (Picture.outline x.toNat y.toNat w.toNat h.toNat ∩ canvas width height) c
      (c.outlineRect x y w h luminance) := by
  by_cases h₀ : w = 0 ∨ h = 0
  · rw [outlineRect, if_pos h₀]
    exact Picture.Paints.nothing.congr
      (Set.eq_empty_of_forall_notMem (MonoCanvas.notMem_outline h₀ _ _)).symm
  · obtain ⟨hw, hh⟩ := not_or.mp h₀
    rw [outlineRect, if_neg h₀]
    have corner : ∀ (c : GrayCanvas width height) {x y : UInt16} {a b : Nat},
        x.toNat = min a 65535 → y.toNat = min b 65535 → ∀ w h : UInt16,
          Picture.Paints view luminance
            (Picture.rect a b w.toNat h.toNat ∩ canvas width height) c
            (c.fillRect x y w h luminance) := fun c x y a b hx hy w h =>
      (c.paints_fillRect luminance x y w h).congr (MonoCanvas.rect_saturated hx hy _ _)
    refine ((c.paints_fillRect luminance x y w 1).andThen fun c =>
      (Picture.Paints.ite (P := h > 1) fun _ => corner c (MonoCanvas.toNat_min x)
        (MonoCanvas.saturatingAdd16_toNat y (h - 1)) w 1).andThen fun c =>
      Picture.Paints.ite (P := h > 2) fun _ => (corner c (MonoCanvas.toNat_min x)
        (MonoCanvas.saturatingAdd16_toNat y 1) 1 (h - 2)).andThen fun c =>
      corner c (MonoCanvas.saturatingAdd16_toNat x (w - 1))
        (MonoCanvas.saturatingAdd16_toNat y 1) 1 (h - 2)).congr ?_
    rw [← MonoCanvas.outline_strips (P := True) hw hh (fun _ => trivial)]
    simp only [true_and]
    rfl

end Shapes

/-! ### Text -/

section Text

variable [Platform] {glyphX scale : Nat} (luminance : UInt8)

/-- One point of a magnified column. -/
theorem paints_drawCell (c : GrayCanvas width height) (hg : glyphX < width.toNat)
    (hs : scale < 2 ^ 16) {targetY column scaleX : Nat} (hy : targetY < height.toNat)
    (hc : column < Font.WIDTH) (hi : scaleX < scale) :
    Picture.Paints view luminance
      ({p | p.2 = targetY ∧ p.1 = glyphX + column * scale + scaleX} ∩ canvas width height) c
      (c.drawCell glyphX targetY scale column scaleX luminance) := by
  have hwl := width.toNat_lt
  have hc : column < 5 := hc
  have hmul : column * scale ≤ 5 * 2 ^ 16 := Nat.mul_le_mul (Nat.le_of_lt hc) (Nat.le_of_lt hs)
  rw [drawCell, unsigned_of (by omega), ok_bind]
  by_cases hx : glyphX + column * scale + scaleX < width.toNat
  · rw [if_pos hx]
    have hx' := MonoCanvas.toNat_coordinate hx
    have hy' := MonoCanvas.toNat_coordinate hy
    obtain ⟨c', hc', hview⟩ := c.setPixel_of luminance (x := UInt16.ofNat _) (y := UInt16.ofNat _)
      (by rw [hx']; exact hx) (by rw [hy']; exact hy)
    refine ⟨c', by rw [hc']; rfl, ?_⟩
    rw [hview, hx', hy']
    congr 1
    ext p
    rw [Set.mem_singleton_iff]
    constructor
    · rintro rfl
      exact ⟨⟨rfl, rfl⟩, MonoCanvas.mem_canvas.mpr ⟨hx, hy⟩⟩
    · rintro ⟨⟨hpy, hpx⟩, -⟩
      exact Prod.ext hpx hpy
  · rw [if_neg hx]
    refine Picture.Paints.nothing.congr (Set.eq_empty_of_forall_notMem fun p hp => hx ?_).symm
    exact hp.1.2 ▸ (MonoCanvas.mem_canvas.mp hp.2).1

/-- One raster row of a glyph. -/
theorem paints_drawGlyphRow (c : GrayCanvas width height) (hg : glyphX < width.toNat)
    (hs : scale < 2 ^ 16) {targetY : Nat} (hy : targetY < height.toNat) (rowBits : UInt8) :
    Picture.Paints view luminance
      ({p | p.2 = targetY ∧ ∃ column i, Font.Inks rowBits column ∧ i < scale ∧
        p.1 = glyphX + column * scale + i} ∩ canvas width height) c
      (c.drawGlyphRow glyphX targetY scale rowBits luminance) := by
  refine (Picture.Paints.foldlM (S := fun column => {p | p.2 = targetY ∧ ∃ i,
    Font.Inks rowBits column ∧ i < scale ∧ p.1 = glyphX + column * scale + i} ∩
      canvas width height) ?_ c).congr ?_
  · intro c column hcolumn
    by_cases hink : rowBits &&& (1 : UInt8) <<< UInt8.ofNat (Font.WIDTH - 1 - column) = 0
    · simp only [if_pos hink]
      refine Picture.Paints.nothing.congr (Set.eq_empty_of_forall_notMem fun p hp => ?_).symm
      obtain ⟨⟨-, i, ⟨-, h⟩, -⟩, -⟩ := hp
      exact h hink
    · simp only [if_neg hink]
      refine (Picture.Paints.foldlM (fun c i hi => c.paints_drawCell luminance hg hs hy
        (List.mem_range.mp hcolumn) (List.mem_range.mp hi)) c).congr ?_
      ext p
      constructor
      · rintro ⟨i, hi, ⟨hpy, hpx⟩, hp⟩
        exact ⟨⟨hpy, i, ⟨List.mem_range.mp hcolumn, hink⟩, List.mem_range.mp hi, hpx⟩, hp⟩
      · rintro ⟨⟨hpy, i, -, hi, hpx⟩, hp⟩
        exact ⟨i, List.mem_range.mpr hi, ⟨hpy, hpx⟩, hp⟩
  · ext p
    constructor
    · rintro ⟨column, -, ⟨hpy, i, hink, hi, hpx⟩, hp⟩
      exact ⟨⟨hpy, column, i, hink, hi, hpx⟩, hp⟩
    · rintro ⟨⟨hpy, column, i, hink, hi, hpx⟩, hp⟩
      exact ⟨column, List.mem_range.mpr hink.1, ⟨hpy, i, hink, hi, hpx⟩, hp⟩

/-- A raster row of a glyph at one of its heights, if that is on the canvas. -/
theorem paints_repeatedRow (c : GrayCanvas width height) (hg : glyphX < width.toNat)
    (hs : scale < 2 ^ 16) {y row rep scaleY : Nat} (hy : y < 2 ^ 16) (hrow : row < Font.HEIGHT)
    (hrep : rep < Font.VERTICAL_SCALE) (hscaleY : scaleY < scale) (rowBits : UInt8) :
    Picture.Paints view luminance
      ({p | p.2 = y + (row * Font.VERTICAL_SCALE + rep) * scale + scaleY ∧ ∃ column i,
        Font.Inks rowBits column ∧ i < scale ∧ p.1 = glyphX + column * scale + i} ∩
          canvas width height) c
      (unsigned 32 (y + (row * Font.VERTICAL_SCALE + rep) * scale + scaleY) >>= fun targetY =>
        if targetY ≥ height.toNat then .ok c
        else c.drawGlyphRow glyphX targetY scale rowBits luminance) := by
  have hrow7 : row < 7 := hrow
  have hrep2 : rep < 2 := hrep
  have hmul : (row * Font.VERTICAL_SCALE + rep) * scale ≤ 14 * 2 ^ 16 :=
    Nat.mul_le_mul (by show row * 2 + rep ≤ 14; omega) (Nat.le_of_lt hs)
  rw [unsigned_of (by omega), ok_bind]
  by_cases htarget : y + (row * Font.VERTICAL_SCALE + rep) * scale + scaleY ≥ height.toNat
  · rw [if_pos htarget]
    refine Picture.Paints.nothing.congr (Set.eq_empty_of_forall_notMem fun p hp => ?_).symm
    have hpy := (MonoCanvas.mem_canvas.mp hp.2).2
    rw [hp.1.1] at hpy
    omega
  · rw [if_neg htarget]
    exact c.paints_drawGlyphRow luminance hg hs (Nat.not_le.mp htarget) rowBits

/-- One glyph paints its bitmap, magnified on both axes and doubled downwards. -/
theorem paints_drawGlyph (c : GrayCanvas width height) (character : Char)
    (hg : glyphX < width.toNat) (hs : scale < 2 ^ 16) {y : Nat} (hy : y < 2 ^ 16) :
    Picture.Paints view luminance
      (Picture.cells (Font.Bit character) glyphX y scale (Font.VERTICAL_SCALE * scale) ∩
        canvas width height) c (c.drawGlyph character glyphX y scale luminance) := by
  have row_lt : ∀ row ∈ (Font.rows character).zipIdx, row.2 < Font.HEIGHT := by
    intro row hrow
    obtain ⟨hlt, -⟩ := List.getElem?_eq_some_iff.mp (List.mem_zipIdx_iff_getElem?.mp hrow)
    exact Font.length_rows character ▸ hlt
  refine (Picture.Paints.foldlM (fun c row hrow => Picture.Paints.foldlM (fun c rep hrep =>
    Picture.Paints.foldlM (fun c scaleY hscaleY =>
      c.paints_repeatedRow luminance hg hs hy (row_lt row hrow) (List.mem_range.mp hrep)
        (List.mem_range.mp hscaleY) row.1) c) c) c).congr ?_
  have place : ∀ row rep scaleY, y + (row * Font.VERTICAL_SCALE + rep) * scale + scaleY =
      y + (row * (Font.VERTICAL_SCALE * scale) + (rep * scale + scaleY)) := fun _ _ _ => by ring
  ext p
  constructor
  · rintro ⟨⟨rowBits, row⟩, hrow, rep, hrep, scaleY, hscaleY, ⟨hpy, column, i, hink, hi, hpx⟩, hp⟩
    refine ⟨⟨row, column, i, rep * scale + scaleY,
      ⟨rowBits, List.mem_zipIdx_iff_getElem?.mp hrow, hink⟩, hi, ?_, hpx, ?_⟩, hp⟩
    · calc rep * scale + scaleY < rep * scale + scale :=
            Nat.add_lt_add_left (List.mem_range.mp hscaleY) _
        _ = (rep + 1) * scale := (Nat.succ_mul rep scale).symm
        _ ≤ Font.VERTICAL_SCALE * scale := Nat.mul_le_mul_right _ (List.mem_range.mp hrep)
    · rw [hpy, place]
      push_cast
      ring
  · rintro ⟨⟨row, column, i, j, ⟨rowBits, hbits, hink⟩, hi, hj, hpx, hpy⟩, hp⟩
    -- the repeat and the row within it, from the magnified row
    have hscale : 0 < scale := Nat.lt_of_le_of_lt (Nat.zero_le i) hi
    refine ⟨⟨rowBits, row⟩, List.mem_zipIdx_iff_getElem?.mpr hbits, j / scale,
      List.mem_range.mpr (Nat.div_lt_of_lt_mul (by rw [Nat.mul_comm]; exact hj)), j % scale,
      List.mem_range.mpr (Nat.mod_lt _ hscale), ⟨?_, column, i, hink, hi, hpx⟩, hp⟩
    rw [place, Nat.div_add_mod']
    exact Int.ofNat_inj.mp (by rw [hpy]; push_cast; rfl)

/-- The glyphs of a text from a column on. -/
theorem paints_drawGlyphs (hs : scale < 2 ^ 16) {y : Nat} (hy : y < 2 ^ 16) (text : List Char) :
    ∀ (glyphX : Nat) (c : GrayCanvas width height), Picture.Paints view luminance
      (Picture.line Font.Bit (Font.ADVANCE * scale) glyphX y scale (Font.VERTICAL_SCALE * scale)
        text ∩ canvas width height) c (drawGlyphs y scale luminance text glyphX c) := by
  induction text with
  | nil =>
      intro glyphX c
      refine Picture.Paints.nothing.congr ?_
      rw [Picture.line_nil, Set.empty_inter]
  | cons character rest ih =>
      intro glyphX c
      rw [drawGlyphs]
      split
      · next hx =>
          -- the rest of the text is right of the canvas
          refine Picture.Paints.nothing.congr (Set.eq_empty_of_forall_notMem fun p hp => ?_).symm
          have hleft := Picture.le_of_mem_line hp.1
          have hright := (MonoCanvas.mem_canvas.mp hp.2).1
          omega
      · next hx =>
          have hwl := width.toNat_lt
          have hadvance : Font.ADVANCE * scale < 2 ^ 20 := by
            show 6 * scale < 2 ^ 20
            omega
          refine ((c.paints_drawGlyph luminance character (Nat.not_le.mp hx) hs hy).andThen
            (T := Picture.line Font.Bit (Font.ADVANCE * scale) (glyphX + Font.ADVANCE * scale) y
              scale (Font.VERTICAL_SCALE * scale) rest ∩ canvas width height) fun c => ?_).congr ?_
          · rw [unsigned_of (by omega), ok_bind, if_pos (by omega)]
            exact ih _ c
          · rw [← Set.union_inter_distrib_right, ← Picture.line_cons]

theorem paints_drawText (c : GrayCanvas width height) (x y : UInt16) (text : String)
    (scale : UInt16) :
    Picture.Paints view luminance
      (Picture.line Font.Bit (Font.ADVANCE * max scale.toNat 1) x.toNat y.toNat
        (max scale.toNat 1) (Font.VERTICAL_SCALE * max scale.toNat 1) text.toList ∩
          canvas width height) c (c.drawText x y text scale luminance) := by
  have hs := scale.toNat_lt
  exact paints_drawGlyphs luminance (by omega) y.toNat_lt text.toList x.toNat c

end Text

end GrayCanvas

/-! ### Images -/

/-- A size inside the target with the proportions of the source: one side is the target's, the
other the floor of the proportional length, or one. -/
structure FitsTarget (sourceWidth sourceHeight targetWidth targetHeight w h : Nat) : Prop where
  width_pos : 0 < w
  height_pos : 0 < h
  width_le : w ≤ targetWidth
  height_le : h ≤ targetHeight
  proportional :
    w = targetWidth ∧ h = max 1 (sourceHeight * targetWidth / sourceWidth) ∨
      h = targetHeight ∧ w = max 1 (sourceWidth * targetHeight / sourceHeight)

theorem mul_lt_u64 (a b : UInt32) : a.toNat * b.toNat < 2 ^ 64 :=
  lt_of_lt_of_eq (Nat.mul_lt_mul'' a.toNat_lt b.toNat_lt) (by decide : 2 ^ 32 * 2 ^ 32 = 2 ^ 64)

theorem toNat_ofNat_of_le {n : Nat} {t : UInt32} (h : n ≤ t.toNat) : (UInt32.ofNat n).toNat = n :=
  UInt32.toNat_ofNat_of_lt' (lt_of_le_of_lt h t.toNat_lt)

/-- A proportional length that fits, made nonzero. -/
theorem scaledSide_toNat {n : Nat} {bound : UInt32} (hn : n ≤ bound.toNat)
    (hb : 0 < bound.toNat) :
    (UInt32.ofNat (max n 1)).toNat = max 1 n ∧ max 1 n ≤ bound.toNat := by
  have hle : max n 1 ≤ bound.toNat := max_le hn hb
  rw [toNat_ofNat_of_le hle, max_comm]
  exact ⟨rfl, max_comm n 1 ▸ hle⟩

theorem fitDimensions_of {sw sh tw th : UInt32} (hsw : sw ≠ 0) (hsh : sh ≠ 0)
    (htw : 0 < tw.toNat) (hth : 0 < th.toNat) :
    ∃ w h, fitDimensions sw sh tw th = .ok (w, h) ∧
      FitsTarget sw.toNat sh.toNat tw.toNat th.toNat w.toNat h.toNat := by
  have hsw : sw.toNat ≠ 0 := fun e => hsw (UInt32.toNat_inj.mp e)
  have hsh : sh.toNat ≠ 0 := fun e => hsh (UInt32.toNat_inj.mp e)
  have hone : ∀ n, 0 < max 1 n := fun n => lt_of_lt_of_le Nat.one_pos (le_max_left 1 n)
  rw [fitDimensions, unsigned_of (mul_lt_u64 sw th), ok_bind, unsigned_of (mul_lt_u64 tw sh),
    ok_bind]
  by_cases hlimited : sw.toNat * th.toNat > tw.toNat * sh.toNat
  · have hfits : sh.toNat * tw.toNat / sw.toNat ≤ th.toNat := by
      refine Nat.div_le_of_le_mul ?_
      rw [Nat.mul_comm sh.toNat]
      exact Nat.le_of_lt hlimited
    obtain ⟨hside, hle⟩ := scaledSide_toNat hfits hth
    rw [if_pos hlimited, unsigned_of (mul_lt_u64 sh tw), ok_bind, divide_of hsw, ok_bind]
    refine ⟨_, _, rfl, ?_⟩
    rw [hside]
    exact ⟨htw, hone _, le_refl _, hle, .inl ⟨rfl, rfl⟩⟩
  · have hfits : sw.toNat * th.toNat / sh.toNat ≤ tw.toNat := by
      refine Nat.div_le_of_le_mul ?_
      rw [Nat.mul_comm sh.toNat]
      exact Nat.not_lt.mp hlimited
    obtain ⟨hside, hle⟩ := scaledSide_toNat hfits htw
    rw [if_neg hlimited, ok_bind, divide_of hsh, ok_bind]
    refine ⟨_, _, rfl, ?_⟩
    rw [hside]
    exact ⟨hone _, hth, hle, le_refl _, .inr ⟨rfl, rfl⟩⟩

namespace GrayCanvas

section Image

/-- The part of a target inside the canvas. -/
theorem clipped_toNat (x w bound : UInt16) :
    (min w (saturatingSub16 bound x)).toNat = min w.toNat (bound.toNat - x.toNat) := by
  rw [min16_toNat, saturatingSub16_toNat]

theorem rect_clipped (x y w h : UInt16) :
    Picture.rect x.toNat y.toNat w.toNat h.toNat ∩ canvas width height =
      Picture.rect x.toNat y.toNat (min w.toNat (width.toNat - x.toNat))
        (min h.toNat (height.toNat - y.toNat)) := by
  ext p
  constructor
  · rintro ⟨hp, hc⟩
    rw [Picture.mem_rect] at hp ⊢
    rw [MonoCanvas.mem_canvas] at hc
    omega
  · intro hp
    rw [Picture.mem_rect] at hp
    exact ⟨by rw [Picture.mem_rect]; omega, MonoCanvas.mem_canvas.mpr (by omega)⟩

variable [Platform]

/-- The first rows of a scaled image. -/
theorem copyRows_of (left top : Nat) {w : Nat} {scaled : List UInt8}
    (hw : left + w ≤ width.toNat) (n : Nat) (hn : top + n ≤ height.toNat)
    (hlen : n * w ≤ scaled.length) (c : GrayCanvas width height) :
    ∃ c', (List.range n).foldlM (fun c row => c.copyRow scaled left top w row) c = .ok c' ∧
      (∀ p ∈ Picture.rect left top w n,
        c'.view p = scaled.getD ((p.2 - top) * w + (p.1 - left)) 0) ∧
      ∀ p, p ∉ Picture.rect left top w n → c'.view p = c.view p := by
  induction n with
  | zero =>
      refine ⟨c, rfl, fun p hp => ?_, fun p _ => rfl⟩
      rw [Picture.mem_rect] at hp
      omega
  | succ n ih =>
      rw [Nat.succ_mul] at hlen
      obtain ⟨c₁, hc₁, hin, hout⟩ := ih (by omega) (by omega)
      have hrow : ((scaled.drop (n * w)).take w).length = w := by
        rw [List.length_take, List.length_drop]
        omega
      obtain ⟨c₂, hc₂, hview⟩ := @writeSlice_row _ _ c₁ left (top + n)
        ((scaled.drop (n * w)).take w) (by rw [hrow]; exact hw) (by omega)
      have hy : top + n < height.toNat := by omega
      have hsource : n * w < 2 ^ 32 := by
        have hH := height.toNat_lt
        have hW := width.toNat_lt
        calc n * w ≤ 65535 * 65535 := Nat.mul_le_mul (by omega) (by omega)
          _ < 2 ^ 32 := by decide
      refine ⟨c₂, ?_, fun p hp => ?_, fun p hp => ?_⟩
      · rw [List.range_succ, List.foldlM_append, hc₁, ok_bind, List.foldlM_cons, copyRow,
          unsigned_usize hsource, ok_bind, unsigned_usize (index_lt (by omega) hy),
          ok_bind, inBounds_bind (by omega), hc₂]
        rfl
      · rw [hview p, hrow]
        rw [Picture.mem_rect] at hp
        by_cases hlast : p.2 = top + n
        · -- the row just copied
          have hn : p.2 - top = n := by omega
          rw [if_pos (by omega), hn, List.getD_eq_getElem?_getD, List.getD_eq_getElem?_getD,
            List.getElem?_take, if_pos (by omega), List.getElem?_drop]
        · rw [if_neg (by omega)]
          exact hin p (by rw [Picture.mem_rect]; omega)
      · rw [Picture.mem_rect] at hp
        rw [hview p, hrow, if_neg (by omega)]
        exact hout p (by rw [Picture.mem_rect]; omega)

/-- Where an image is drawn: scaled to the target's proportions, centred in it, and white around
it. -/
structure Placed (source : SourceImage) (x y targetWidth targetHeight : Nat)
    (c c' : GrayCanvas width height) (w h : UInt32) (left top : Nat) : Prop where
  fits : FitsTarget source.width.toNat source.height.toNat targetWidth targetHeight w.toNat h.toNat
  left_margin : x ≤ left ∧ left - x ≤ x + targetWidth - (left + w.toNat) ∧
    left + w.toNat ≤ x + targetWidth ∧ x + targetWidth - (left + w.toNat) ≤ left - x + 1
  top_margin : y ≤ top ∧ top - y ≤ y + targetHeight - (top + h.toNat) ∧
    top + h.toNat ≤ y + targetHeight ∧ y + targetHeight - (top + h.toNat) ≤ top - y + 1
  image : ∀ p ∈ Picture.rect left top w.toNat h.toNat,
    c'.view p = (source.resize w h).getD ((p.2 - top) * w.toNat + (p.1 - left)) 0
  white : ∀ p ∈ Picture.rect x y targetWidth targetHeight,
    p ∉ Picture.rect left top w.toNat h.toNat → c'.view p = 255
  frame : ∀ p, p ∉ Picture.rect x y targetWidth targetHeight → c'.view p = c.view p

section Source

variable {source : SourceImage} (hw : source.width ≠ 0) (hh : source.height ≠ 0)
  (hbytes : source.byteLen ≤ MAX_SOURCE_IMAGE_BYTES)

include hw hh hbytes

/-- An image whose clipped target is not empty. -/
theorem drawImageFitContain_placed
    (hresize : ∀ w h, (source.resize w h).length = w.toNat * h.toNat)
    (c : GrayCanvas width height) {x y w h : UInt16} {cw ch : Nat}
    (hcw : min w.toNat (width.toNat - x.toNat) = cw)
    (hch : min h.toNat (height.toNat - y.toNat) = ch) (hpw : 0 < cw) (hph : 0 < ch) :
    ∃ c' sw sh left top, c.drawImageFitContain source x y w h = .ok c' ∧
      Placed source x.toNat y.toNat cw ch c c' sw sh left top := by
  have hright : x.toNat + cw ≤ width.toNat := by omega
  have hbottom : y.toNat + ch ≤ height.toNat := by omega
  have hclip := @rect_clipped width height x y w h
  rw [hcw, hch] at hclip
  have hcw := (clipped_toNat x w width).trans hcw
  have hch := (clipped_toNat y h height).trans hch
  have hne : ¬ (min w (saturatingSub16 width x) = 0 ∨ min h (saturatingSub16 height y) = 0) := by
    rintro (h₀ | h₀)
    · rw [h₀] at hcw
      exact Nat.ne_of_gt hpw hcw.symm
    · rw [h₀] at hch
      exact Nat.ne_of_gt hph hch.symm
  -- the target, white
  obtain ⟨c₁, hc₁, hfill⟩ := c.paints_fillRect 255 x y (min w (saturatingSub16 width x))
    (min h (saturatingSub16 height y))
  rw [hcw, hch, ← hclip, Set.inter_assoc, Set.inter_self, hclip] at hfill
  -- the size of the image, and its rows
  obtain ⟨sw, sh, hfit, hfits⟩ := @fitDimensions_of source.width source.height
    (min w (saturatingSub16 width x)).toUInt32 (min h (saturatingSub16 height y)).toUInt32 hw hh
    (by rw [UInt16.toNat_toUInt32, hcw]; exact hpw) (by rw [UInt16.toNat_toUInt32, hch]; exact hph)
  rw [UInt16.toNat_toUInt32, UInt16.toNat_toUInt32, hcw, hch] at hfits
  have hsw := hfits.width_le
  have hsh := hfits.height_le
  have hW := width.toNat_lt
  have hH := height.toNat_lt
  obtain ⟨c₂, hc₂, himage, hrest⟩ := copyRows_of (x.toNat + (cw - sw.toNat) / 2)
    (y.toNat + (ch - sh.toNat) / 2) (w := sw.toNat) (by omega) sh.toNat (by omega)
    (Nat.le_of_eq ((Nat.mul_comm ..).trans (hresize sw sh).symm)) c₁
  have htarget : ∀ p ∈ Picture.rect (x.toNat + (cw - sw.toNat) / 2)
      (y.toNat + (ch - sh.toNat) / 2) sw.toNat sh.toNat,
      p ∈ Picture.rect x.toNat y.toNat cw ch := by
    intro p hp
    rw [Picture.mem_rect] at hp ⊢
    omega
  refine ⟨c₂, sw, sh, _, _, ?_, hfits, by omega, by omega, himage, ?_, ?_⟩
  · rw [drawImageFitContain, if_neg (not_or.mpr ⟨hw, hh⟩), if_neg (Nat.not_lt.mpr hbytes)]
    simp only [if_neg hne]
    rw [hc₁, ok_bind, hfit, ok_bind]
    simp only [hcw, hch]
    rw [inBounds_bind hsw, unsigned_usize (by omega), ok_bind, inBounds_bind hsh,
      unsigned_usize (by omega), ok_bind]
    exact hc₂
  · intro p hp hout
    rw [hrest p hout, hfill, Picture.paint_of_mem hp]
  · intro p hp
    rw [hrest p fun hin => hp (htarget p hin), hfill, Picture.paint_of_notMem hp]

/-- An image whose clipped target is empty is not drawn. -/
theorem drawImageFitContain_empty (c : GrayCanvas width height) {x y w h : UInt16}
    (h₀ : min w.toNat (width.toNat - x.toNat) = 0 ∨ min h.toNat (height.toNat - y.toNat) = 0) :
    c.drawImageFitContain source x y w h = .ok c := by
  rw [drawImageFitContain, if_neg (not_or.mpr ⟨hw, hh⟩), if_neg (Nat.not_lt.mpr hbytes)]
  rw [← clipped_toNat, ← clipped_toNat] at h₀
  exact if_pos (h₀.imp (fun e => UInt16.toNat_inj.mp e) fun e => UInt16.toNat_inj.mp e)

end Source

end Image

/-- A new canvas is white. -/
theorem view_new [Platform] {reserve : Except String Unit} {c : GrayCanvas width height}
    (h : new width height reserve = .ok c) : c.view = fun _ => 255 := by
  have hpixels : c.pixels = List.replicate (width.toNat * height.toNat) 255 := by
    simp only [new] at h
    split at h
    · cases h
    · split at h
      · cases h
      · split at h
        · cases h
        · split at h
          · cases h
          · split at h
            · cases h
            · cases h
              rfl
  funext p
  rw [view]
  split
  · next hp =>
      have hrow := Raster.row_end_le hp.2 width.toNat
      rw [hpixels, List.getD_eq_getElem?_getD, List.getElem?_replicate_of_lt (by
        rw [Nat.mul_comm width.toNat]
        omega)]
      rfl
  · rfl

/-- What the drawing calls do to a canvas, and where they put an image. -/
structure DrawsExactly [Platform] (c : GrayCanvas width height) (x y w h : UInt16)
    (luminance : UInt8) (text : String) (scale : UInt16) (source : SourceImage) : Prop where
  fillRect : ∃ c', c.fillRect x y w h luminance = .ok c' ∧
    c'.view = Picture.paint (Picture.rect x.toNat y.toNat w.toNat h.toNat ∩ canvas width height)
      luminance c.view
  outlineRect : ∃ c', c.outlineRect x y w h luminance = .ok c' ∧
    c'.view = Picture.paint
      (Picture.outline x.toNat y.toNat w.toNat h.toNat ∩ canvas width height) luminance c.view
  /-- The Mono1 canvas paints the same points. -/
  mono : ∀ (m : MonoCanvas width height) (color : Mono1Pixel),
    (∃ m', m.fillRect x y w h color = .ok m' ∧ m'.view = Picture.paint
        (Picture.rect x.toNat y.toNat w.toNat h.toNat ∩ canvas width height) color m.view) ∧
      ∃ m', m.outlineRect x y w h color = .ok m' ∧ m'.view = Picture.paint
        (Picture.outline x.toNat y.toNat w.toNat h.toNat ∩ canvas width height) color m.view
  drawText : ∃ c', c.drawText x y text scale luminance = .ok c' ∧
    ∀ p, c'.view p ≠ c.view p →
      p ∈ Picture.line Font.Bit (6 * max scale.toNat 1) x.toNat y.toNat (max scale.toNat 1)
        (2 * max scale.toNat 1) text.toList ∩ canvas width height
  image : source.width ≠ 0 → source.height ≠ 0 → source.byteLen ≤ MAX_SOURCE_IMAGE_BYTES →
    (∀ w h, (source.resize w h).length = w.toNat * h.toNat) →
      (min w.toNat (width.toNat - x.toNat) = 0 ∨ min h.toNat (height.toNat - y.toNat) = 0 →
        c.drawImageFitContain source x y w h = .ok c) ∧
      (0 < min w.toNat (width.toNat - x.toNat) → 0 < min h.toNat (height.toNat - y.toNat) →
        ∃ c' sw sh left top, c.drawImageFitContain source x y w h = .ok c' ∧
          Placed source x.toNat y.toNat (min w.toNat (width.toNat - x.toNat))
            (min h.toNat (height.toNat - y.toNat)) c c' sw sh left top)

/-- **Drawing is exact.**  No call panics, whatever its arguments: rectangles and outlines paint
their clipped shape, text paints inside its glyph cells, and an image is fitted into its clipped
target. -/
theorem draws_exactly [Platform] (c : GrayCanvas width height) (x y w h : UInt16)
    (luminance : UInt8) (text : String) (scale : UInt16) (source : SourceImage) :
    DrawsExactly c x y w h luminance text scale source where
  fillRect := c.paints_fillRect luminance x y w h
  outlineRect := c.paints_outlineRect luminance x y w h
  mono m color := ⟨m.paints_fillRect x y w h color, m.paints_outlineRect x y w h color⟩
  drawText := by
    obtain ⟨c', hc', hview⟩ := c.paints_drawText luminance x y text scale
    refine ⟨c', hc', fun p hp => ?_⟩
    by_contra hout
    exact hp ((congrFun hview p).trans (Picture.paint_of_notMem hout))
  image hw hh hbytes hresize :=
    ⟨fun h₀ => drawImageFitContain_empty hw hh hbytes c h₀,
      fun hpw hph => drawImageFitContain_placed hw hh hbytes hresize c rfl rfl hpw hph⟩

/-- A plain image of 2x1 pixels; whatever size it is scaled to, it stays plain. -/
def plainImage : SourceImage := ⟨2, 1, 2, fun w h => List.replicate (w.toNat * h.toNat) 9⟩

/-- Four white columns, three rows. -/
def whiteCanvas : GrayCanvas 4 3 := ⟨List.replicate 12 255, List.length_replicate⟩

/-- The image in a target that reaches over the right edge of the canvas. -/
theorem draws_exactly_plain :
    ∃ c sw sh left top, @drawImageFitContain _ _ .usize64 whiteCanvas plainImage 1 0 9 9 = .ok c ∧
      Placed plainImage 1 0 3 3 whiteCanvas c sw sh left top := by
  let platform : Platform := .usize64
  have himage := (draws_exactly whiteCanvas 1 0 9 9 0 "" 1 plainImage).image (by decide)
    (by decide) (by decide) fun _ _ => List.length_replicate
  exact himage.2 (by decide) (by decide)

end GrayCanvas

end PaperPad.Host
