import PaperPad.Host.MonoRenderer
import PaperPad.Support.Picture

/-!
# Host — MonoPicture

What a Mono1 canvas shows, and what each drawing primitive paints.  `MonoCanvas.view` reads the
packed bits as a picture that is white off the canvas; a primitive does not panic, and paints its
shape clipped to the canvas and nothing else (`paints_clear`, `paints_setPixel`, `paints_fillRect`,
`paints_outlineRect`, `paints_drawText`).
-/

namespace PaperPad.Host

open Protocol Fallible

/-! ### One bit of a byte -/

/-- A bit of a byte, the most significant first. -/
def bitOf (byte : UInt8) (k : Nat) : Mono1Pixel :=
  if byte &&& (128 : UInt8) >>> UInt8.ofNat k = 0 then .white else .black

theorem and_or_distrib_right8 (a b m : UInt8) : (a ||| b) &&& m = (a &&& m) ||| (b &&& m) :=
  UInt8.eq_of_toBitVec_eq (by simp [BitVec.and_or_distrib_right])

section Bit

variable {byte : UInt8} {k l : Nat}

/-- The masks of the eight pixels of a byte are apart. -/
theorem mask_disjoint (hk : k < 8) (hl : l < 8) (h : k ≠ l) :
    (128 : UInt8) >>> UInt8.ofNat k &&& (128 : UInt8) >>> UInt8.ofNat l = 0 ∧
      ~~~((128 : UInt8) >>> UInt8.ofNat k) &&& (128 : UInt8) >>> UInt8.ofNat l =
        (128 : UInt8) >>> UInt8.ofNat l := by
  have all : ∀ k < 8, ∀ l < 8, k ≠ l →
      (128 : UInt8) >>> UInt8.ofNat k &&& (128 : UInt8) >>> UInt8.ofNat l = 0 ∧
        ~~~((128 : UInt8) >>> UInt8.ofNat k) &&& (128 : UInt8) >>> UInt8.ofNat l =
          (128 : UInt8) >>> UInt8.ofNat l := by decide
  exact all k hk l hl h

theorem bitOf_paint_self (hk : k < 8) (color : Mono1Pixel) :
    bitOf (paint ((128 : UInt8) >>> UInt8.ofNat k) color byte) k = color := by
  cases color with
  | white =>
      have : byte &&& ~~~((128 : UInt8) >>> UInt8.ofNat k) &&&
          (128 : UInt8) >>> UInt8.ofNat k = 0 := by
        rw [UInt8.and_assoc, UInt8.and_comm (~~~_), UInt8.and_not_self, UInt8.and_zero]
      exact if_pos this
  | black =>
      have nonzero : ∀ k < 8, (128 : UInt8) >>> UInt8.ofNat k ≠ 0 := by decide
      have : (byte ||| (128 : UInt8) >>> UInt8.ofNat k) &&&
          (128 : UInt8) >>> UInt8.ofNat k ≠ 0 := by
        rw [and_or_distrib_right8, UInt8.and_self]
        exact fun h => nonzero k hk (UInt8.or_eq_zero_iff.mp h).2
      exact if_neg this

theorem bitOf_paint_of_ne (hk : k < 8) (hl : l < 8) (h : k ≠ l) (color : Mono1Pixel) :
    bitOf (paint ((128 : UInt8) >>> UInt8.ofNat k) color byte) l = bitOf byte l := by
  obtain ⟨hand, hnot⟩ := mask_disjoint hk hl h
  cases color with
  | white => rw [bitOf, paint, UInt8.and_assoc, hnot, bitOf]
  | black => rw [bitOf, paint, and_or_distrib_right8, hand, UInt8.or_zero, bitOf]

end Bit

namespace MonoCanvas

variable {width height : UInt16}

/-- What the canvas shows: its bits, and white around them. -/
def view (c : MonoCanvas width height) (p : Nat × Nat) : Mono1Pixel :=
  if p.1 < width.toNat ∧ p.2 < height.toNat then
    bitOf (c.pixels.getD (p.2 * c.stride + p.1 / 8) 0) (p.1 % 8)
  else .white

/-- The points of a canvas of this size. -/
abbrev canvas (width height : UInt16) : Set (Nat × Nat) :=
  Picture.rect 0 0 width.toNat height.toNat

theorem mem_canvas {p : Nat × Nat} :
    p ∈ canvas width height ↔ p.1 < width.toNat ∧ p.2 < height.toNat := by
  rw [Picture.mem_rect]
  omega

section Indices

variable (c : MonoCanvas width height) {x y : Nat}

theorem column_lt_stride (hx : x < width.toNat) : x / 8 < c.stride := by
  rw [c.valid.stride_eq, mono1Stride]
  omega

/-- The byte of a pixel is one of the canvas. -/
theorem byte_lt (hx : x < width.toNat) (hy : y < height.toNat) :
    y * c.stride + x / 8 < c.pixels.length := by
  have := Raster.row_end_le hy c.stride
  have := c.column_lt_stride hx
  rw [c.valid.length_eq, Nat.mul_comm c.stride]
  omega

end Indices

/-! ### Coordinates -/

/-- A coordinate of the canvas, as the `u16` it is drawn at. -/
theorem toNat_coordinate {n : Nat} {b : UInt16} (h : n < b.toNat) :
    (UInt16.ofNat n).toNat = n :=
  UInt16.toNat_ofNat_of_lt' (Nat.lt_trans h b.toNat_lt)

theorem saturatingAdd16_toNat (a b : UInt16) :
    (saturatingAdd16 a b).toNat = min (a.toNat + b.toNat) 65535 := by
  simp only [saturatingAdd16]
  split
  · next h =>
      rw [UInt16.toNat_add, Nat.mod_eq_of_lt h]
      omega
  · next h =>
      show 65535 = _
      omega

theorem toNat_min (a : UInt16) : a.toNat = min a.toNat 65535 := by
  have := a.toNat_lt
  omega

/-- A rectangle whose corner is saturated: what that moves is off the canvas. -/
theorem rect_saturated {x y a b : Nat} (hx : x = min a 65535) (hy : y = min b 65535) (w h : Nat) :
    Picture.rect x y w h ∩ canvas width height = Picture.rect a b w h ∩ canvas width height := by
  have hW := width.toNat_lt
  have hH := height.toNat_lt
  ext p
  refine and_congr_left fun hp => ?_
  rw [mem_canvas] at hp
  rw [Picture.mem_rect, Picture.mem_rect]
  omega

/-- The four strips of an outline; the last may be left out where it is the third. -/
theorem outline_strips {w h : UInt16} (hw : w ≠ 0) (hh : h ≠ 0) {P : Prop}
    (hP : w > 1 → P) (x y : Nat) :
    Picture.rect x y w.toNat (1 : UInt16).toNat ∩ canvas width height ∪
        ({p | h > 1 ∧ p ∈ Picture.rect x (y + (h - 1).toNat) w.toNat (1 : UInt16).toNat ∩
          canvas width height} ∪
        {p | h > 2 ∧ p ∈ Picture.rect x (y + (1 : UInt16).toNat) (1 : UInt16).toNat (h - 2).toNat ∩
          canvas width height ∪ {p | P ∧ p ∈ Picture.rect (x + (w - 1).toNat)
            (y + (1 : UInt16).toNat) (1 : UInt16).toNat (h - 2).toNat ∩ canvas width height}}) =
      Picture.outline x y w.toNat h.toNat ∩ canvas width height := by
  have hw : 0 < w.toNat := Nat.pos_of_ne_zero fun e => hw (UInt16.toNat_inj.mp e)
  have hh : 0 < h.toNat := Nat.pos_of_ne_zero fun e => hh (UInt16.toNat_inj.mp e)
  have hw₁ : (w - 1).toNat = w.toNat - 1 :=
    UInt16.toNat_sub_of_le _ _ (UInt16.le_iff_toNat_le.mpr hw)
  have hh₁ : (h - 1).toNat = h.toNat - 1 :=
    UInt16.toNat_sub_of_le _ _ (UInt16.le_iff_toNat_le.mpr hh)
  have hh₂ : 2 < h.toNat → (h - 2).toNat = h.toNat - 2 := fun h₂ =>
    UInt16.toNat_sub_of_le _ _ (UInt16.le_iff_toNat_le.mpr (Nat.le_of_lt h₂))
  have one : (1 : UInt16).toNat = 1 := rfl
  have two : (2 : UInt16).toNat = 2 := rfl
  ext p
  by_cases hp : p ∈ canvas width height
  · simp only [Set.mem_union, Set.mem_inter_iff, hp, and_true, Set.mem_ofPred_eq, gt_iff_lt,
      UInt16.lt_iff_toNat_lt, Picture.mem_outline_iff hw hh, hw₁, hh₁, one, two]
    by_cases h₂ : 2 < h.toNat
    · have h₁ : 1 < h.toNat := Nat.lt_of_succ_lt h₂
      rw [hh₂ h₂]
      simp only [h₁, h₂, true_and]
      by_cases hlast : P
      · simp only [hlast, true_and]
      · -- the rectangle is one column wide
        have hw1 : w.toNat = 1 := by
          by_contra hne
          exact hlast (hP (UInt16.lt_iff_toNat_lt.mpr (lt_of_le_of_ne hw (Ne.symm hne))))
        simp only [hlast, false_and, or_false, hw1, Nat.sub_self, Nat.add_zero, or_self]
    · have columns : ∀ a, p ∉ Picture.rect a (y + 1) 1 (h.toNat - 2) := by
        intro a hm
        rw [Picture.mem_rect] at hm
        omega
      simp only [h₂, columns, false_and, or_false]
      by_cases h₁ : 1 < h.toNat
      · simp only [h₁, true_and]
      · have hh1 : h.toNat = 1 := le_antisymm (not_lt.mp h₁) hh
        simp only [hh1, lt_irrefl, false_and, or_false, Nat.sub_self, Nat.add_zero, or_self]
  · simp only [Set.mem_union, Set.mem_inter_iff, hp, and_false, Set.mem_ofPred_eq, or_self]

/-- The outline of an empty rectangle is empty. -/
theorem notMem_outline {w h : UInt16} (h₀ : w = 0 ∨ h = 0) (x y : Nat) (p : Nat × Nat) :
    p ∉ Picture.outline x y w.toNat h.toNat ∩ canvas width height := by
  rintro ⟨hp, -⟩
  rw [Picture.mem_outline] at hp
  rcases h₀ with rfl | rfl
  · rw [UInt16.toNat_zero] at hp
    omega
  · rw [UInt16.toNat_zero] at hp
    omega

/-- A visible bit of a cleared byte has the color. -/
theorem bitOf_cleared (c : MonoCanvas width height) (color : Mono1Pixel) {x y : Nat}
    (hx : x < width.toNat) (hy : y < height.toNat) :
    bitOf ((cleared width height c.stride c.pixels color).getD (y * c.stride + x / 8) 0)
      (x % 8) = color := by
  have hlt := c.byte_lt hx hy
  have hbit : x % 8 < 8 := Nat.mod_lt _ (by omega)
  have filled : ∀ k < 8, bitOf 255 k = .black := by decide
  rw [List.getD_eq_getElem?_getD]
  cases color with
  | white =>
      rw [cleared, List.getElem?_replicate_of_lt hlt]
      exact if_pos UInt8.zero_and
  | black =>
      simp only [cleared]
      split
      · next hu =>
          have hlen : y * c.stride + x / 8 <
              (List.replicate c.pixels.length (255 : UInt8)).length := by
            rw [List.length_replicate]
            exact hlt
          have hcolumn := c.column_lt_stride hx
          have last : ∀ row, (row + 1) * c.stride - 1 = row * c.stride + (c.stride - 1) := by
            intro row
            rw [Nat.succ_mul]
            omega
          by_cases hx' : x / 8 = c.stride - 1
          · -- the last byte of the row: the pixel is among its used bits
            have hused : x % 8 < width.toNat % 8 := by
              have hs := c.valid.stride_eq
              rw [mono1Stride] at hs
              omega
            have masks : ∀ u < 8, ∀ k < u, bitOf (visibleMask u) k = .black := by decide
            rw [Raster.getElem?_foldl_set_of_mem
              ⟨y, List.mem_range.mpr hy, (last y).trans (by rw [hx'])⟩ hlen]
            exact masks _ (Nat.mod_lt _ (by omega)) _ hused
          · rw [Raster.getElem?_foldl_set_of_ne fun row _ e => hx' (Raster.index_inj
              (by omega) hcolumn ((last row).symm.trans e)).2.symm,
              List.getElem?_replicate_of_lt hlt]
            exact filled _ hbit
      · rw [List.getElem?_replicate_of_lt hlt]
        exact filled _ hbit

/-! ### Pixels and rectangles -/

variable [Platform]

/-- Where a pixel is on the canvas, setting it changes one byte. -/
theorem setPixel_of (c : MonoCanvas width height) {x y : UInt16} (hx : x.toNat < width.toNat)
    (hy : y.toNat < height.toNat) (color : Mono1Pixel) :
    ∃ c', c.setPixel x y color = .ok (c', true) ∧ c'.stride = c.stride ∧
      c'.pixels =
        c.pixels.modify (y.toNat * c.stride + x.toNat / 8) (paint (pixelMask x) color) := by
  have hin : ¬ (x ≥ width ∨ y ≥ height) := by
    rw [ge_iff_le, ge_iff_le, UInt16.le_iff_toNat_le, UInt16.le_iff_toNat_le]
    omega
  have hbyte := c.byte_lt hx hy
  refine ⟨⟨c.stride, _, valid_modify c.valid (UInt16.lt_iff_toNat_lt.mpr hx) color⟩, ?_, rfl, rfl⟩
  simp only [setPixel, dif_neg hin]
  rw [unsigned_usize (hbyte.trans (length_lt_of_valid c.valid)), ok_bind, inBounds_bind hbyte]
  rfl

/-- Setting a pixel paints its point. -/
theorem view_setPixel (c : MonoCanvas width height) {x y : UInt16} (hx : x.toNat < width.toNat)
    (hy : y.toNat < height.toNat) (color : Mono1Pixel) :
    ∃ c', c.setPixel x y color = .ok (c', true) ∧
      c'.view = Picture.paint {(x.toNat, y.toNat)} color c.view := by
  obtain ⟨c', hc', hstride, hpixels⟩ := c.setPixel_of hx hy color
  refine ⟨c', hc', funext fun p => ?_⟩
  by_cases hp : p ∈ canvas width height
  · obtain ⟨hpx, hpy⟩ := mem_canvas.mp hp
    have hbyte := List.getElem?_eq_getElem (c.byte_lt hpx hpy)
    have hview : c.view p = bitOf (c.pixels.get ⟨_, c.byte_lt hpx hpy⟩) (p.1 % 8) := by
      rw [view, if_pos (mem_canvas.mp hp), List.getD_eq_getElem?_getD, hbyte]
      rfl
    rw [view, if_pos (mem_canvas.mp hp), List.getD_eq_getElem?_getD, hstride, hpixels,
      List.getElem?_modify, hbyte]
    split
    · next e =>
        -- the byte that was painted: the pixel is the one set, or another of its eight
        obtain ⟨hrow, hcolumn⟩ :=
          Raster.index_inj (c.column_lt_stride hx) (c.column_lt_stride hpx) e
        by_cases hbit : x.toNat % 8 = p.1 % 8
        · have hself : p = (x.toNat, y.toNat) := Prod.ext (by omega) hrow.symm
          rw [Picture.paint_of_mem (Set.mem_singleton_iff.mpr hself), ← hbit]
          exact bitOf_paint_self (Nat.mod_lt _ (by omega)) color
        · have hne : p ≠ (x.toNat, y.toNat) := fun e => hbit (by rw [e])
          rw [Picture.paint_of_notMem (Set.mem_singleton_iff.not.mpr hne), hview]
          exact bitOf_paint_of_ne (Nat.mod_lt _ (by omega)) (Nat.mod_lt _ (by omega)) hbit color
    · next e =>
        have hne : p ≠ (x.toNat, y.toNat) := fun h => e (by rw [h])
        rw [Picture.paint_of_notMem (Set.mem_singleton_iff.not.mpr hne), hview]
        rfl
  · have hne : p ∉ ({(x.toNat, y.toNat)} : Set (Nat × Nat)) := by
      rintro rfl
      exact hp (mem_canvas.mpr ⟨hx, hy⟩)
    rw [Picture.paint_of_notMem hne, view, view, if_neg (mem_canvas.not.mp hp),
      if_neg (mem_canvas.not.mp hp)]

/-- The same anywhere: off the canvas nothing is set. -/
theorem paints_setPixel (c : MonoCanvas width height) (x y : UInt16) (color : Mono1Pixel) :
    Picture.Paints view color ({(x.toNat, y.toNat)} ∩ canvas width height) c
      ((c.setPixel x y color).map Prod.fst) := by
  by_cases h : x.toNat < width.toNat ∧ y.toNat < height.toNat
  · obtain ⟨c', hc', hview⟩ := c.view_setPixel h.1 h.2 color
    refine ⟨c', by rw [hc']; rfl, hview.trans ?_⟩
    congr 1
    ext p
    refine ⟨fun hp => ⟨hp, ?_⟩, fun hp => hp.1⟩
    rw [Set.mem_singleton_iff.mp hp]
    exact mem_canvas.mpr h
  · have hout : x ≥ width ∨ y ≥ height := by
      rw [ge_iff_le, ge_iff_le, UInt16.le_iff_toNat_le, UInt16.le_iff_toNat_le]
      omega
    rw [setPixel, dif_pos hout]
    refine Picture.Paints.nothing.congr (Set.eq_empty_of_forall_notMem ?_).symm
    rintro p ⟨rfl, hp⟩
    exact h (mem_canvas.mp hp)

/-- The loops set a pixel and go on with the canvas. -/
theorem paints_point (c : MonoCanvas width height) (column row : Nat) (hx : column < width.toNat)
    (hy : row < height.toNat) (color : Mono1Pixel) :
    Picture.Paints view color {(column, row)} c (do
      return (← c.setPixel (UInt16.ofNat column) (UInt16.ofNat row) color).1) := by
  have hx' := toNat_coordinate hx
  have hy' := toNat_coordinate hy
  obtain ⟨c', hc', hview⟩ := c.view_setPixel (x := UInt16.ofNat column) (y := UInt16.ofNat row)
    (by rw [hx']; exact hx) (by rw [hy']; exact hy) color
  rw [hx', hy'] at hview
  exact ⟨c', by rw [hc']; rfl, hview⟩

theorem paints_fillRect (c : MonoCanvas width height) (x y w h : UInt16) (color : Mono1Pixel) :
    Picture.Paints view color
      (Picture.rect x.toNat y.toNat w.toNat h.toNat ∩ canvas width height) c
      (c.fillRect x y w h color) := by
  have := x.toNat_lt
  have := w.toNat_lt
  have := y.toNat_lt
  have := h.toNat_lt
  rw [fillRect, unsigned_of (by omega), ok_bind, unsigned_of (by omega), ok_bind]
  refine (Picture.Paints.foldlM (fun c row hrow => Picture.Paints.foldlM (fun c column hcolumn => by
    rw [List.mem_range'_1] at hrow hcolumn
    exact c.paints_point column row (by omega) (by omega) color) c) c).congr ?_
  ext p
  constructor
  · rintro ⟨row, hrow, column, hcolumn, hp⟩
    rw [List.mem_range'_1] at hrow hcolumn
    obtain rfl := Set.mem_singleton_iff.mp hp
    refine ⟨?_, mem_canvas.mpr (by omega)⟩
    rw [Picture.mem_rect]
    omega
  · rintro ⟨hrect, hcanvas⟩
    rw [Picture.mem_rect] at hrect
    obtain ⟨hx, hy⟩ := mem_canvas.mp hcanvas
    exact ⟨p.2, List.mem_range'_1.mpr (by omega), p.1, List.mem_range'_1.mpr (by omega), rfl⟩

theorem paints_outlineRect (c : MonoCanvas width height) (x y w h : UInt16)
    (color : Mono1Pixel) :
    Picture.Paints view color
      (Picture.outline x.toNat y.toNat w.toNat h.toNat ∩ canvas width height) c
      (c.outlineRect x y w h color) := by
  by_cases h₀ : w = 0 ∨ h = 0
  · rw [outlineRect, if_pos h₀]
    exact Picture.Paints.nothing.congr
      (Set.eq_empty_of_forall_notMem (notMem_outline h₀ _ _)).symm
  · obtain ⟨hw, hh⟩ := not_or.mp h₀
    rw [outlineRect, if_neg h₀]
    have corner : ∀ (c : MonoCanvas width height) {x y : UInt16} {a b : Nat},
        x.toNat = min a 65535 → y.toNat = min b 65535 → ∀ w h : UInt16,
          Picture.Paints view color
            (Picture.rect a b w.toNat h.toNat ∩ canvas width height) c
            (c.fillRect x y w h color) := fun c x y a b hx hy w h =>
      (c.paints_fillRect x y w h color).congr (rect_saturated hx hy _ _)
    refine ((c.paints_fillRect x y w 1 color).andThen fun c =>
      (Picture.Paints.ite (P := h > 1) fun _ => corner c (toNat_min x)
        (saturatingAdd16_toNat y (h - 1)) w 1).andThen fun c =>
      Picture.Paints.ite (P := h > 2) fun _ => (corner c (toNat_min x)
        (saturatingAdd16_toNat y 1) 1 (h - 2)).andThen fun c =>
      Picture.Paints.ite (P := w > 1) fun _ => corner c (saturatingAdd16_toNat x (w - 1))
        (saturatingAdd16_toNat y 1) 1 (h - 2)).congr ?_
    rw [← outline_strips hw hh id]

/-! ### Text -/

/-- The points of one raster row of a glyph. -/
def glyphRow (rowBits : UInt8) (glyphX : Nat) (targetY : Int) : Set (Nat × Nat) :=
  {p | (p.2 : Int) = targetY ∧ ∃ column, Font.Inks rowBits column ∧ p.1 = glyphX + column}

/-- One column of a raster row: its point, if it has ink and is on the canvas. -/
theorem paints_drawColumn (c : MonoCanvas width height) {glyphX column : Nat} {targetY : Int}
    (hg : glyphX < width.toNat) (hy : 0 ≤ targetY ∧ targetY < height.toNat)
    (hcolumn : column < Font.WIDTH) (rowBits : UInt8) (color : Mono1Pixel) :
    Picture.Paints view color ({p | (p.2 : Int) = targetY ∧ Font.Inks rowBits column ∧
      p.1 = glyphX + column} ∩ canvas width height) c
      (c.drawColumn glyphX targetY rowBits color column) := by
  have hwl := width.toNat_lt
  have hcolumn5 : column < 5 := hcolumn
  rw [drawColumn]
  by_cases hink : rowBits &&& (1 : UInt8) <<< UInt8.ofNat (Font.WIDTH - 1 - column) = 0
  · rw [if_pos hink]
    exact Picture.Paints.nothing.congr
      (Set.eq_empty_of_forall_notMem fun p hp => hp.1.2.1.2 hink).symm
  · rw [if_neg hink, unsigned_of (by omega), ok_bind]
    by_cases hx : glyphX + column < width.toNat
    · rw [if_pos hx]
      refine (c.paints_point _ targetY.toNat hx (by omega) color).congr ?_
      ext p
      rw [Set.mem_singleton_iff]
      constructor
      · rintro rfl
        exact ⟨⟨Int.toNat_of_nonneg hy.1, ⟨hcolumn, hink⟩, rfl⟩, mem_canvas.mpr (by omega)⟩
      · rintro ⟨⟨hpy, -, hpx⟩, -⟩
        exact Prod.ext hpx (by omega)
    · rw [if_neg hx]
      refine Picture.Paints.nothing.congr (Set.eq_empty_of_forall_notMem fun p hp => hx ?_).symm
      exact hp.1.2.2 ▸ (mem_canvas.mp hp.2).1

theorem paints_drawGlyphRow (c : MonoCanvas width height) {glyphX : Nat}
    (hg : glyphX < width.toNat) (targetY : Int) (rowBits : UInt8) (color : Mono1Pixel) :
    Picture.Paints view color (glyphRow rowBits glyphX targetY ∩ canvas width height) c
      (c.drawGlyphRow glyphX targetY rowBits color) := by
  by_cases hy : 0 ≤ targetY ∧ targetY < height.toNat
  · rw [drawGlyphRow, if_neg (not_not.mpr hy)]
    refine (Picture.Paints.foldlM (fun c column hcolumn => c.paints_drawColumn hg hy
      (List.mem_range.mp hcolumn) rowBits color) c).congr ?_
    ext p
    constructor
    · rintro ⟨column, -, ⟨hpy, hink, hpx⟩, hcanvas⟩
      exact ⟨⟨hpy, column, hink, hpx⟩, hcanvas⟩
    · rintro ⟨⟨hpy, column, hink, hpx⟩, hcanvas⟩
      exact ⟨column, List.mem_range.mpr hink.1, ⟨hpy, hink, hpx⟩, hcanvas⟩
  · rw [drawGlyphRow, if_pos hy]
    refine Picture.Paints.nothing.congr (Set.eq_empty_of_forall_notMem fun p hp => hy ?_).symm
    obtain ⟨⟨hpy, -⟩, hcanvas⟩ := hp
    rw [mem_canvas] at hcanvas
    omega

/-- One glyph paints its bitmap, every bit doubled downwards. -/
theorem paints_drawGlyph (c : MonoCanvas width height) (character : Char) {glyphX : Nat}
    (hg : glyphX < width.toNat) {top : Int} (htop : -2 ^ 16 ≤ top ∧ top < 2 ^ 16)
    (color : Mono1Pixel) :
    Picture.Paints view color
      (Picture.cells (Font.Bit character) glyphX top 1 Font.VERTICAL_SCALE ∩ canvas width height)
      c (c.drawGlyph character glyphX top color) := by
  have row_lt : ∀ row ∈ (Font.rows character).zipIdx, row.2 < 7 := by
    intro row hrow
    obtain ⟨hlt, -⟩ := List.getElem?_eq_some_iff.mp (List.mem_zipIdx_iff_getElem?.mp hrow)
    rw [Font.length_rows character] at hlt
    exact hlt
  refine (Picture.Paints.foldlM (fun c row hrow => Picture.Paints.foldlM
    (S := fun rep : Nat => glyphRow row.1 glyphX
      (top + (row.2 * Font.VERTICAL_SCALE : Nat) + (rep : Nat)) ∩ canvas width height)
    (fun c rep hrep => by
      have hrow7 := row_lt row hrow
      have hrep2 : rep < 2 := List.mem_range.mp hrep
      have hscale : row.2 * Font.VERTICAL_SCALE = row.2 * 2 := rfl
      rw [signed_of (by rw [hscale]; push_cast; omega), ok_bind]
      exact c.paints_drawGlyphRow hg _ row.1 color) c) c).congr ?_
  ext p
  constructor
  · rintro ⟨⟨rowBits, row⟩, hrow, rep, hrep, ⟨hpy, column, hink, hpx⟩, hcanvas⟩
    have hbits : (Font.rows character)[row]? = some rowBits :=
      List.mem_zipIdx_iff_getElem?.mp hrow
    refine ⟨⟨row, column, 0, rep, ⟨rowBits, hbits, hink⟩, Nat.one_pos, List.mem_range.mp hrep,
      ?_, ?_⟩, hcanvas⟩
    · rw [hpx, Nat.mul_one, Nat.add_zero]
    · rw [hpy]
      push_cast
      ring
  · rintro ⟨⟨row, column, i, rep, ⟨rowBits, hbits, hink⟩, hi, hrep, hpx, hpy⟩, hcanvas⟩
    refine ⟨⟨rowBits, row⟩, List.mem_zipIdx_iff_getElem?.mpr hbits, rep, List.mem_range.mpr hrep,
      ⟨?_, column, hink, ?_⟩, hcanvas⟩
    · rw [hpy]
      push_cast
      ring
    · obtain rfl : i = 0 := Nat.lt_one_iff.mp hi
      rw [hpx, Nat.mul_one]
      rfl

/-- The glyphs of a text from a column on. -/
theorem paints_drawGlyphs (color : Mono1Pixel) {top : Int} (htop : -2 ^ 16 ≤ top ∧ top < 2 ^ 16)
    (text : List Char) :
    ∀ (glyphX : Nat) (c : MonoCanvas width height),
      Picture.Paints view color
        (Picture.line Font.Bit Font.ADVANCE glyphX top 1 Font.VERTICAL_SCALE text ∩
          canvas width height) c (drawGlyphs color top text glyphX c) := by
  induction text with
  | nil =>
      intro glyphX c
      refine Picture.Paints.nothing.congr ?_
      rw [Picture.line_nil, Set.empty_inter]
  | cons character rest ih =>
      intro glyphX c
      rw [drawGlyphs]
      split
      · next hx =>
          -- the rest of the text is right of the canvas
          refine Picture.Paints.nothing.congr (Set.eq_empty_of_forall_notMem fun p hp => ?_).symm
          have hleft := Picture.le_of_mem_line hp.1
          have hright := (mem_canvas.mp hp.2).1
          omega
      · next hx =>
          have hwl := width.toNat_lt
          have hnext : glyphX + Font.ADVANCE < 2 ^ 32 := by
            show glyphX + 6 < 2 ^ 32
            omega
          simp only [if_pos hnext]
          refine ((c.paints_drawGlyph character (Nat.not_le.mp hx) htop color).andThen fun c =>
            ih (glyphX + Font.ADVANCE) c).congr ?_
          rw [← Set.union_inter_distrib_right, ← Picture.line_cons]

theorem paints_drawText (c : MonoCanvas width height) (x baselineY : UInt16) (text : String)
    (color : Mono1Pixel) :
    Picture.Paints view color
      (Picture.line Font.Bit Font.ADVANCE x.toNat
        (baselineY.toNat - (Font.HEIGHT * Font.VERTICAL_SCALE - 1 : Nat)) 1 Font.VERTICAL_SCALE
          text.toList ∩ canvas width height) c (c.drawText x baselineY text color) := by
  have := baselineY.toNat_lt
  have hrows : Font.HEIGHT * Font.VERTICAL_SCALE = 14 := rfl
  have htop : -2 ^ 16 ≤ (baselineY.toNat : Int) - (Font.HEIGHT * Font.VERTICAL_SCALE - 1 : Nat) ∧
      (baselineY.toNat : Int) - (Font.HEIGHT * Font.VERTICAL_SCALE - 1 : Nat) < 2 ^ 16 := by
    rw [hrows]
    omega
  simp only [drawText]
  rw [signed_of ⟨le_trans (by norm_num) htop.1, lt_trans htop.2 (by norm_num)⟩, ok_bind]
  exact paints_drawGlyphs color htop _ _ c

/-! ### Clearing -/

/-- Clearing a canvas does not panic. -/
theorem clear_of (c : MonoCanvas width height) (color : Mono1Pixel) :
    c.clear color =
      .ok ⟨c.stride, cleared width height c.stride c.pixels color, valid_cleared c.valid color⟩ := by
  simp only [clear]
  split
  · next pixels hp =>
      obtain rfl := Except.ok.inj ((clearPixels_eq_ok c.valid color).symm.trans hp)
      rfl
  · next failure hp =>
      rw [clearPixels_eq_ok c.valid color] at hp
      cases hp

theorem paints_clear (c : MonoCanvas width height) (color : Mono1Pixel) :
    Picture.Paints view color (canvas width height) c (c.clear color) := by
  refine ⟨_, c.clear_of color, funext fun p => ?_⟩
  by_cases hp : p ∈ canvas width height
  · obtain ⟨hx, hy⟩ := mem_canvas.mp hp
    rw [Picture.paint_of_mem hp, view, if_pos ⟨hx, hy⟩]
    exact c.bitOf_cleared color hx hy
  · rw [Picture.paint_of_notMem hp, view, view, if_neg (mem_canvas.not.mp hp),
      if_neg (mem_canvas.not.mp hp)]

/-! ### A new canvas, and its frame -/

theorem view_new {c : MonoCanvas width height} (h : new width height = .ok c) :
    c.view = fun _ => .white := by
  simp only [new] at h
  split at h
  · cases h
  · split at h
    · cases h
    · cases h
      funext p
      rw [view]
      split
      · rw [List.getD_eq_getElem?_getD, List.getElem?_replicate]
        split
        · exact if_pos UInt8.zero_and
        · exact if_pos UInt8.zero_and
      · rfl

/-- The frame of a canvas shows what the canvas shows. -/
theorem pixel_intoFrame {c : MonoCanvas width height} {f : Mono1Frame}
    (h : c.intoFrame = .ok f) (x y : UInt16) :
    f.pixel x y = if x < width ∧ y < height then some (c.view (x.toNat, y.toNat)) else none := by
  obtain rfl := Except.ok.inj ((intoFrame_eq_ok c).symm.trans h)
  by_cases ho : x ≥ width ∨ y ≥ height
  · have hi : ¬ (x < width ∧ y < height) := fun hi =>
      ho.elim (UInt16.not_le.mpr hi.1) (UInt16.not_le.mpr hi.2)
    rw [if_neg hi]
    exact if_pos ho
  · obtain ⟨hx, hy⟩ := not_or.mp ho
    have hx := UInt16.not_le.mp hx
    have hy := UInt16.not_le.mp hy
    have hview : c.view (x.toNat, y.toNat) =
        bitOf (c.pixels.getD (y.toNat * c.stride + x.toNat / 8) 0) (x.toNat % 8) :=
      if_pos ⟨UInt16.lt_iff_toNat_lt.mp hx, UInt16.lt_iff_toNat_lt.mp hy⟩
    rw [if_pos ⟨hx, hy⟩, hview]
    exact if_neg ho

end MonoCanvas

/-! ### Drawing calls -/

/-- A call of a drawing primitive. -/
inductive MonoDraw where
  | clear (color : Mono1Pixel)
  | setPixel (x y : UInt16) (color : Mono1Pixel)
  | fillRect (x y w h : UInt16) (color : Mono1Pixel)
  | outlineRect (x y w h : UInt16) (color : Mono1Pixel)
  | drawText (x baselineY : UInt16) (text : String) (color : Mono1Pixel)

namespace MonoDraw

variable {width height : UInt16}

/-- The call on a canvas. -/
def apply [Platform] (c : MonoCanvas width height) : MonoDraw → Fallible (MonoCanvas width height)
  | .clear color => c.clear color
  | .setPixel x y color => (c.setPixel x y color).map Prod.fst
  | .fillRect x y w h color => c.fillRect x y w h color
  | .outlineRect x y w h color => c.outlineRect x y w h color
  | .drawText x baselineY text color => c.drawText x baselineY text color

/-- The color of the call. -/
def color : MonoDraw → Mono1Pixel
  | .clear color | .setPixel _ _ color | .fillRect _ _ _ _ color | .outlineRect _ _ _ _ color
  | .drawText _ _ _ color => color

/-- The shape the call draws on an unbounded plane. -/
def shape : MonoDraw → Set (Nat × Nat)
  | .clear _ => Set.univ
  | .setPixel x y _ => {(x.toNat, y.toNat)}
  | .fillRect x y w h _ => Picture.rect x.toNat y.toNat w.toNat h.toNat
  | .outlineRect x y w h _ => Picture.outline x.toNat y.toNat w.toNat h.toNat
  | .drawText x baselineY text _ =>
      -- seven rows, each doubled, the last of them at the baseline
      Picture.line Font.Bit 6 x.toNat (baselineY.toNat - 13) 1 2 text.toList

/-- The call on a plain picture: its shape, clipped to the canvas, in its color. -/
noncomputable def reference (width height : UInt16) (picture : Nat × Nat → Mono1Pixel)
    (draw : MonoDraw) : Nat × Nat → Mono1Pixel :=
  Picture.paint (draw.shape ∩ MonoCanvas.canvas width height) draw.color picture

/-- One call does not panic, and refines its reference. -/
theorem apply_of [Platform] (c : MonoCanvas width height) (draw : MonoDraw) :
    ∃ c', draw.apply c = .ok c' ∧ c'.view = reference width height c.view draw := by
  cases draw with
  | clear color => rw [reference, shape, Set.univ_inter]; exact c.paints_clear color
  | setPixel x y color => exact c.paints_setPixel x y color
  | fillRect x y w h color => exact c.paints_fillRect x y w h color
  | outlineRect x y w h color => exact c.paints_outlineRect x y w h color
  | drawText x baselineY text color => exact c.paints_drawText x baselineY text color

/-- Calls refine their references, one after the other. -/
theorem foldlM_apply_of [Platform] (draws : List MonoDraw) (c : MonoCanvas width height) :
    ∃ c', draws.foldlM apply c = .ok c' ∧
      c'.view = draws.foldl (reference width height) c.view := by
  induction draws generalizing c with
  | nil => exact ⟨c, rfl, rfl⟩
  | cons draw draws ih =>
      obtain ⟨c₁, hc₁, hview₁⟩ := apply_of c draw
      obtain ⟨c₂, hc₂, hview₂⟩ := ih c₁
      refine ⟨c₂, ?_, by rw [hview₂, hview₁, List.foldl_cons]⟩
      rw [List.foldlM_cons, hc₁]
      exact hc₂

/-- **A canvas is a picture.**  No call on a new canvas panics, whatever the calls before it and
its arguments: no index is out of the pixels, and no arithmetic leaves its type.  They keep the
padding white, and the canvas freezes to a frame that shows what the calls draw on a white
picture. -/
theorem refines_picture [Platform] (hw : width ≠ 0) (hh : height ≠ 0) (draws : List MonoDraw) :
    ∃ blank : MonoCanvas width height, MonoCanvas.new width height = .ok blank ∧
      (∀ done, done <+: draws → ∃ canvas, done.foldlM apply blank = .ok canvas ∧
        Mono1Valid width height canvas.stride canvas.pixels) ∧
      ∃ canvas f, draws.foldlM apply blank = .ok canvas ∧ canvas.intoFrame = .ok f ∧
        ∀ x y, f.pixel x y =
          if x < width ∧ y < height then
            some (draws.foldl (reference width height) (fun _ => .white) (x.toNat, y.toNat))
          else none := by
  obtain ⟨blank, hblank⟩ := MonoCanvas.new_eq_ok ⟨hw, hh⟩
  obtain ⟨canvas, hcanvas, hview⟩ := foldlM_apply_of draws blank
  refine ⟨blank, hblank, fun done _ => ?_, canvas, _, hcanvas, MonoCanvas.intoFrame_eq_ok _,
    fun x y => ?_⟩
  · obtain ⟨c, hc, -⟩ := foldlM_apply_of done blank
    exact ⟨c, hc, c.valid⟩
  · rw [MonoCanvas.pixel_intoFrame (MonoCanvas.intoFrame_eq_ok _), hview,
      MonoCanvas.view_new hblank]

theorem refines_picture_outline :
    ∃ blank : MonoCanvas 9 2, @MonoCanvas.new .usize64 9 2 = .ok blank ∧
      (∀ done, done <+: [.outlineRect 7 0 3 2 .black, .clear .black] → ∃ canvas,
        done.foldlM (@apply _ _ .usize64) blank = .ok canvas ∧
          Mono1Valid 9 2 canvas.stride canvas.pixels) ∧
      ∃ canvas f, [.outlineRect 7 0 3 2 .black, .clear .black].foldlM (@apply _ _ .usize64) blank =
          .ok canvas ∧ @MonoCanvas.intoFrame _ _ .usize64 canvas = .ok f ∧
        ∀ x y, f.pixel x y =
          if x < 9 ∧ y < 2 then
            some ([.outlineRect 7 0 3 2 .black, .clear .black].foldl (reference 9 2)
              (fun _ => .white) (x.toNat, y.toNat))
          else none :=
  @refines_picture _ _ .usize64 (by decide) (by decide)
    [.outlineRect 7 0 3 2 .black, .clear .black]

end MonoDraw

end PaperPad.Host
