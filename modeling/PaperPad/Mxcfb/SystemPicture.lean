import PaperPad.Mxcfb.SystemPixels
import PaperPad.Support.Picture

/-!
# Mxcfb — SystemPicture

What the rasterized strip shows.  Each of its three loops writes black at the indices of a set of
points (`Indexes`), so it paints that set (`view_paint`): the two-pixel border of the Exit
control, the label inside it, and the disc or ring of the connection indicator.  The control and
the indicator are apart, so the two connection states differ only inside the indicator.
-/

namespace PaperPad.Mxcfb

open Device Fallible Raster

/-- What the bytes of a strip show. -/
def stripView (stride : Nat) (bytes : List UInt8) (p : Nat × Nat) : Option UInt8 :=
  if p.1 < stride then bytes[p.2 * stride + p.1]? else none

/-- What a strip shows at a point of the window. -/
def SystemUiPixels.pixelAt (pixels : SystemUiPixels) (p : Nat × Nat) : Option UInt8 :=
  if pixels.region.x.toNat ≤ p.1 ∧ pixels.region.y.toNat ≤ p.2 then
    stripView pixels.stride pixels.bytes
      (p.1 - pixels.region.x.toNat, p.2 - pixels.region.y.toNat)
  else none

/-- The indices are those of the points of the set. -/
def Indexes (stride : Nat) (indices : List Nat) (S : Set (Nat × Nat)) : Prop :=
  ∀ i, i ∈ indices ↔ ∃ p ∈ S, i = p.2 * stride + p.1

/-! ### Painting a set -/

section Paint

variable {stride : Nat} {bytes painted : List UInt8} {indices : List Nat} {S : Set (Nat × Nat)}

/-- What is painted was in bounds. -/
theorem lt_of_paint (h : paint bytes indices = .ok painted) : ∀ i ∈ indices, i < bytes.length := by
  induction indices generalizing bytes with
  | nil => simp
  | cons i is ih =>
      intro j hj
      rw [paint, List.foldlM_cons, bind_eq_ok] at h
      obtain ⟨b, hb, h⟩ := h
      obtain ⟨hi, hb⟩ := inBounds_bind_eq_ok.mp hb
      cases hb
      rcases List.mem_cons.mp hj with rfl | hj
      · exact hi
      · have := ih h j hj
        rwa [List.length_set] at this

/-- **A loop over the indices of a set** paints the set. -/
theorem view_paint (hidx : Indexes stride indices S) (hS : ∀ p ∈ S, p.1 < stride)
    (h : paint bytes indices = .ok painted) :
    stripView stride painted = Picture.paint S (some BLACK) (stripView stride bytes) := by
  have hlt := lt_of_paint h
  obtain rfl := Except.ok.inj ((paint_of hlt).symm.trans h)
  funext p
  by_cases hp : p ∈ S
  · have hmem := (hidx _).mpr ⟨p, hp, rfl⟩
    rw [Picture.paint_of_mem hp, stripView, if_pos (hS p hp)]
    exact getElem?_foldl_set_of_mem ⟨_, hmem, rfl⟩ (hlt _ hmem)
  · rw [Picture.paint_of_notMem hp, stripView, stripView]
    by_cases hx : p.1 < stride
    · rw [if_pos hx, if_pos hx]
      refine getElem?_foldl_set_of_ne (fun j hj e => hp ?_) bytes
      obtain ⟨q, hq, rfl⟩ := (hidx j).mp hj
      obtain ⟨hy, hx'⟩ := index_inj (hS q hq) hx e
      rwa [← Prod.ext hx' hy]
    · rw [if_neg hx, if_neg hx]

end Paint

/-! ### The three sets -/

/-- The border of a rectangle, two pixels wide. -/
def border (left top width height : Nat) : Set (Nat × Nat) :=
  {p | p ∈ Picture.rect left top width height ∧
    p ∉ Picture.rect (left + 2) (top + 2) (width - 4) (height - 4)}

/-- The bitmap of a label glyph. -/
def GlyphBit (glyph : List UInt8) (row column : Nat) : Prop :=
  ∃ bits, glyph[row]? = some bits ∧ column < GLYPH_WIDTH ∧
    ¬ bits &&& ((1 : UInt8) <<< UInt8.ofNat (GLYPH_WIDTH - 1 - column)) = 0

/-- The label, from its top left point on. -/
def label (textLeft textTop scale : Nat) : Set (Nat × Nat) :=
  Picture.line GlyphBit ((GLYPH_WIDTH + 1) * scale) textLeft textTop scale scale EXIT_GLYPHS

/-- The point lies in the disc of the diameter; doubled, so that the center is a whole number. -/
def InsideOuter (diameter x y : Nat) : Prop :=
  ((2 * x + 1 : Nat) - diameter : Int) * ((2 * x + 1 : Nat) - diameter) +
    ((2 * y + 1 : Nat) - diameter) * ((2 * y + 1 : Nat) - diameter) ≤ diameter * diameter

/-- The point lies inside the ring. -/
def InsideInner (diameter x y : Nat) : Prop :=
  ((2 * x + 1 : Nat) - diameter : Int) * ((2 * x + 1 : Nat) - diameter) +
    ((2 * y + 1 : Nat) - diameter) * ((2 * y + 1 : Nat) - diameter) <
      (diameter - 4 : Nat) * (diameter - 4 : Nat)

/-- A disc when connected, else a ring. -/
def indicatorDisc (left top diameter : Nat) (connected : Bool) : Set (Nat × Nat) :=
  {p | p ∈ Picture.rect left top diameter diameter ∧
    InsideOuter diameter (p.1 - left) (p.2 - top) ∧
      (connected = true ∨ ¬ InsideInner diameter (p.1 - left) (p.2 - top))}

theorem indexes_border (left top width height stride : Nat) :
    Indexes stride (borderIndices left top width height stride) (border left top width height) := by
  intro i
  simp only [borderIndices, List.mem_flatMap, List.mem_map, List.mem_filter, List.mem_range'_1,
    decide_eq_true_eq]
  constructor
  · rintro ⟨y, hy, x, ⟨hx, hb⟩, rfl⟩
    refine ⟨(x, y), ⟨⟨hx, hy⟩, fun hin => ?_⟩, rfl⟩
    rw [Picture.mem_rect] at hin
    simp only [BORDER_THICKNESS] at hb
    omega
  · rintro ⟨p, ⟨hp, hout⟩, rfl⟩
    rw [Picture.mem_rect] at hp hout
    refine ⟨p.2, hp.2, p.1, ⟨hp.1, ?_⟩, rfl⟩
    simp only [BORDER_THICKNESS]
    omega

/-- Where a column of a glyph starts. -/
theorem labelColumn (textLeft k column scale : Nat) :
    textLeft + (k * (GLYPH_WIDTH + 1) + column) * scale =
      textLeft + k * ((GLYPH_WIDTH + 1) * scale) + column * scale := by ring

theorem indexes_label (textLeft textTop scale stride : Nat) :
    Indexes stride (labelIndices textLeft textTop scale stride) (label textLeft textTop scale) := by
  intro i
  simp only [labelIndices, List.mem_flatMap]
  constructor
  · rintro ⟨⟨glyph, k⟩, hglyph, ⟨bits, row⟩, hrow, column, hcolumn, hi⟩
    dsimp only at hi
    split_ifs at hi with hbit
    · cases hi
    · obtain ⟨y, hy, hi⟩ := List.mem_flatMap.mp hi
      obtain ⟨hylo, hyhi⟩ := List.mem_range'_1.mp hy
      obtain ⟨hilo, hihi⟩ := List.mem_range'_1.mp hi
      refine ⟨(i - y * stride, y), ⟨k, glyph, List.mem_zipIdx_iff_getElem?.mp hglyph, row, column,
        i - y * stride - (textLeft + (k * (GLYPH_WIDTH + 1) + column) * scale),
        y - (textTop + row * scale),
        ⟨bits, List.mem_zipIdx_iff_getElem?.mp hrow, List.mem_range.mp hcolumn, hbit⟩,
        by omega, by omega, ?_, ?_⟩, ?_⟩
      · rw [← labelColumn]
        omega
      · simp only
        omega
      · simp only
        omega
  · rintro ⟨p, ⟨k, glyph, hglyph, row, column, a, b, ⟨bits, hrow, hcolumn, hbit⟩, ha, hb, hx, hy⟩,
      rfl⟩
    refine ⟨(glyph, k), List.mem_zipIdx_iff_getElem?.mpr hglyph, (bits, row),
      List.mem_zipIdx_iff_getElem?.mpr hrow, column, List.mem_range.mpr hcolumn, ?_⟩
    dsimp only
    rw [if_neg hbit]
    rw [← labelColumn] at hx
    refine List.mem_flatMap.mpr ⟨p.2, List.mem_range'_1.mpr ⟨by omega, by omega⟩,
      List.mem_range'_1.mpr ⟨by omega, by omega⟩⟩

theorem indexes_indicator (left top diameter stride : Nat) (connected : Bool) :
    Indexes stride (indicatorIndices left top diameter stride connected)
      (indicatorDisc left top diameter connected) := by
  intro i
  simp only [indicatorIndices, List.mem_flatMap, List.mem_map, List.mem_filter, List.mem_range,
    decide_eq_true_eq]
  constructor
  · rintro ⟨y, hy, x, ⟨hx, houter, hinner⟩, rfl⟩
    refine ⟨(left + x, top + y), ⟨⟨⟨by omega, by omega⟩, by omega, by omega⟩, ?_, ?_⟩, by ring⟩
    · rwa [Nat.add_sub_cancel_left, Nat.add_sub_cancel_left]
    · rwa [Nat.add_sub_cancel_left, Nat.add_sub_cancel_left]
  · rintro ⟨⟨x, y⟩, ⟨hp, houter, hinner⟩, rfl⟩
    obtain ⟨hx, hy⟩ := Picture.mem_rect.mp hp
    refine ⟨y - top, by omega, x - left, ⟨by omega, houter, hinner⟩, ?_⟩
    rw [Nat.add_sub_cancel' hy.1, Nat.add_assoc, Nat.add_sub_cancel' hx.1]

/-! ### Where the three sets lie -/

theorem border_subset {left top width height : Nat} :
    border left top width height ⊆ Picture.rect left top width height := fun _ hp => hp.1

theorem indicatorDisc_subset {left top diameter : Nat} {connected : Bool} :
    indicatorDisc left top diameter connected ⊆ Picture.rect left top diameter diameter :=
  fun _ hp => hp.1

/-- A ring is part of its disc. -/
theorem indicatorDisc_mono {left top diameter : Nat} :
    indicatorDisc left top diameter false ⊆ indicatorDisc left top diameter true :=
  fun _ hp => ⟨hp.1, hp.2.1, .inl rfl⟩

theorem label_subset {textLeft textTop scale : Nat} :
    label textLeft textTop scale ⊆
      Picture.rect textLeft textTop (TEXT_UNITS * scale) (GLYPH_HEIGHT * scale) := by
  have hheight : ∀ glyph ∈ EXIT_GLYPHS, glyph.length = GLYPH_HEIGHT := by decide
  rintro p ⟨k, glyph, hglyph, row, column, a, b, ⟨bits, hrow, hcolumn, -⟩, ha, hb, hx, hy⟩
  obtain ⟨hk, -⟩ := List.getElem?_eq_some_iff.mp hglyph
  obtain ⟨hr, -⟩ := List.getElem?_eq_some_iff.mp hrow
  rw [hheight glyph (List.mem_of_getElem? hglyph)] at hr
  have hk : k < 4 := hk
  have hcolumn : column < 5 := hcolumn
  have hright := row_end_le (r := k * (GLYPH_WIDTH + 1) + column) (n := TEXT_UNITS)
    (by simp only [GLYPH_WIDTH, TEXT_UNITS]; omega) scale
  have hbottom := row_end_le hr scale
  rw [← labelColumn] at hx
  exact ⟨⟨by omega, by omega⟩, by omega, by omega⟩

/-- The label's scale in a control of this width; without room for one there is no label. -/
def labelScale (width : Nat) : Nat :=
  min MAX_GLYPH_SCALE ((width - 2 * BORDER_THICKNESS) / TEXT_UNITS)

/-- The scales at which the label fits inside the border of a control. -/
def FittingScale (width height scale : Nat) : Prop :=
  scale ≤ MAX_GLYPH_SCALE ∧ TEXT_UNITS * scale ≤ width - 4 ∧ GLYPH_HEIGHT * scale ≤ height - 4

/-- The label's scale is the largest that fits. -/
theorem isGreatest_labelScale (width : Nat) :
    IsGreatest {scale | FittingScale width 72 scale} (labelScale width) := by
  constructor
  · refine ⟨min_le_left _ _, ?_, ?_⟩
    · exact (Nat.mul_le_mul_left _ (min_le_right _ _)).trans (Nat.mul_div_le _ _)
    · exact (Nat.mul_le_mul_left GLYPH_HEIGHT (min_le_left _ _)).trans (by decide)
  · rintro scale ⟨hmax, hfit, -⟩
    refine le_min hmax ((Nat.le_div_iff_mul_le (by decide)).mpr ?_)
    rwa [Nat.mul_comm]

/-- The label of a control, centered. -/
def centeredLabel (left top width height scale : Nat) : Set (Nat × Nat) :=
  label (left + (width - TEXT_UNITS * scale) / 2) (top + (height - GLYPH_HEIGHT * scale) / 2) scale

theorem centeredLabel_zero {left top width height : Nat} :
    centeredLabel left top width height 0 = ∅ := by
  refine Set.eq_empty_of_forall_notMem fun p hp => ?_
  obtain ⟨⟨hlo, hhi⟩, -⟩ := Picture.mem_rect.mp (label_subset hp)
  omega

/-- **A label that fits** lies strictly inside the border. -/
theorem centeredLabel_subset {left top width height scale : Nat}
    (h : FittingScale width height scale) :
    centeredLabel left top width height scale ⊆
      Picture.rect (left + 2) (top + 2) (width - 4) (height - 4) := by
  obtain ⟨-, hwidth, hheight⟩ := h
  intro p hp
  obtain ⟨⟨hxlo, hxhi⟩, hylo, hyhi⟩ := Picture.mem_rect.mp (label_subset hp)
  exact ⟨⟨by omega, by omega⟩, by omega, by omega⟩

theorem view_paintLabel {bytes painted : List UInt8} {left top width height stride : Nat}
    (hx : left + width ≤ stride) (h72 : height = 72)
    (h : paintLabel bytes left top width height stride = .ok painted) :
    stripView stride painted =
      Picture.paint (centeredLabel left top width height (labelScale width)) (some BLACK)
        (stripView stride bytes) := by
  subst h72
  have hfit := (isGreatest_labelScale width).1
  simp only [paintLabel] at h
  split at h
  · refine view_paint (indexes_label _ _ _ stride) (fun p hp => ?_) h
    obtain ⟨⟨hlo, hhi⟩, -⟩ := Picture.mem_rect.mp (centeredLabel_subset hfit hp)
    omega
  · next hscale =>
      have hzero : labelScale width = 0 := Nat.eq_zero_of_not_pos hscale
      cases h
      rw [hzero, centeredLabel_zero, Picture.paint_empty]

/-! ### The picture of a strip -/

/-- What is black in a strip: the Exit control, from `left` on, and the indicator. -/
def stripPicture (top left width stride : Nat) (connected : Bool) : Set (Nat × Nat) :=
  border left top width 72 ∪ centeredLabel left top width 72 (labelScale width) ∪
    {p | 85 ≤ stride ∧ p ∈ indicatorDisc 20 (top + 24) 24 connected}

/-- A strip lies at the bottom of its window. -/
theorem mem_stripPicture_sub {top left width stride : Nat} {connected : Bool} {p : Nat × Nat} :
    p ∈ stripPicture top left width stride connected ↔
      top ≤ p.2 ∧ (p.1, p.2 - top) ∈ stripPicture 0 left width stride connected := by
  have hcell : ∀ t : Nat, p ∈ label (left + (width - TEXT_UNITS * labelScale width) / 2) (top + t)
      (labelScale width) ↔ top ≤ p.2 ∧ (p.1, p.2 - top) ∈
        label (left + (width - TEXT_UNITS * labelScale width) / 2) (0 + t) (labelScale width) := by
    intro t
    constructor
    · rintro ⟨k, glyph, hglyph, row, column, a, b, hbit, ha, hb, hx, hy⟩
      refine ⟨by omega, k, glyph, hglyph, row, column, a, b, hbit, ha, hb, hx, ?_⟩
      simp only
      omega
    · rintro ⟨htop, k, glyph, hglyph, row, column, a, b, hbit, ha, hb, hx, hy⟩
      simp only at hy
      exact ⟨k, glyph, hglyph, row, column, a, b, hbit, ha, hb, hx, by omega⟩
  simp only [stripPicture, Set.mem_union, centeredLabel, hcell, border, indicatorDisc,
    Set.mem_ofPred_eq, Picture.mem_rect, Nat.sub_sub, Nat.zero_add]
  constructor
  · rintro ((⟨h, hout⟩ | h) | ⟨hw, h, hdisc⟩)
    · exact ⟨by omega, .inl (.inl ⟨by omega, by omega⟩)⟩
    · exact ⟨h.1, .inl (.inr h.2)⟩
    · exact ⟨by omega, .inr ⟨hw, by omega, hdisc⟩⟩
  · rintro ⟨htop, (⟨h, hout⟩ | h) | ⟨hw, h, hdisc⟩⟩
    · exact .inl (.inl ⟨by omega, by omega⟩)
    · exact .inl (.inr ⟨htop, h⟩)
    · exact .inr ⟨hw, by omega, hdisc⟩

/-- A strip before anything is drawn in it. -/
def whiteStrip (screen : ScreenLayout) : SystemUiPixels where
  region := screen.systemUiRegion
  stride := screen.systemUiRegion.width.toNat
  bytes := List.replicate (screen.systemUiRegion.width.toNat * 72) WHITE

theorem pixelAt_whiteStrip_ne (screen : ScreenLayout) (p : Nat × Nat) :
    (whiteStrip screen).pixelAt p ≠ some BLACK := by
  intro h
  have hmem : BLACK ∈ (whiteStrip screen).bytes := by
    rw [SystemUiPixels.pixelAt] at h
    split at h
    · rw [stripView] at h
      split at h
      · exact List.mem_of_getElem? h
      · cases h
    · cases h
  exact absurd (List.eq_of_mem_replicate hmem) (by decide)

theorem pixelAt_strip {region : ScreenRect} (hx : region.x = 0) (stride : Nat)
    (bytes : List UInt8) (p : Nat × Nat) :
    SystemUiPixels.pixelAt ⟨region, stride, bytes⟩ p =
      if region.y.toNat ≤ p.2 then stripView stride bytes (p.1, p.2 - region.y.toNat)
      else none := by
  simp only [SystemUiPixels.pixelAt, hx, UInt16.toNat_zero, Nat.zero_le, true_and, Nat.sub_zero]

section Strip

variable {screen : ScreenLayout}
  (hl : ScreenLayout.new screen.physicalSize.1 screen.physicalSize.2 = some screen)
  (hh : screen.systemUiRegion.height = SYSTEM_UI_HEIGHT)

include hl hh

theorem view_paintIndicator {bytes painted : List UInt8} {connected : Bool}
    (h : paintIndicator bytes
      (connectionIndicatorBounds screen.physicalSize.1 screen.physicalSize.2)
      screen.systemUiRegion screen.systemUiRegion.width.toNat connected = .ok painted) :
    stripView screen.systemUiRegion.width.toNat painted =
      Picture.paint {p | 85 ≤ screen.systemUiRegion.width.toNat ∧
        p ∈ indicatorDisc 20 24 24 connected} (some BLACK)
        (stripView screen.systemUiRegion.width.toNat bytes) := by
  rw [paintIndicator_eq hl hh] at h
  by_cases hw : 85 ≤ screen.systemUiRegion.width.toNat
  · rw [if_pos hw] at h
    rw [view_paint (indexes_indicator 20 24 24 _ connected) (fun p hp => ?_) h]
    · congr 1
      ext p
      exact ⟨fun hp => ⟨hw, hp⟩, fun hp => hp.2⟩
    · obtain ⟨⟨-, hhi⟩, -⟩ := Picture.mem_rect.mp (indicatorDisc_subset hp)
      omega
  · rw [if_neg hw] at h
    cases h
    exact (Picture.paint_of_forall_notMem fun p hp => hw hp.1).symm

variable (hw : 40 < screen.physicalSize.1)

include hw

/-- **The picture of a strip**, over a white one. -/
theorem view_rasterizeSystemUi [Platform] {connected : Bool} {pixels : SystemUiPixels}
    (h : rasterizeSystemUi screen connected = .ok pixels) :
    stripView screen.systemUiRegion.width.toNat pixels.bytes =
      Picture.paint
        (stripPicture 0 (exitLeft screen.physicalSize.1).toNat
          (screen.physicalSize.1 - exitLeft screen.physicalSize.1 - 20).toNat
          screen.systemUiRegion.width.toNat connected) (some BLACK)
        (stripView screen.systemUiRegion.width.toNat
          (List.replicate (screen.systemUiRegion.width.toNat * 72) WHITE)) := by
  have hspec := exitLeft_spec hl hw
  rw [rasterizeSystemUi_eq hl hh hw] at h
  obtain ⟨outlined, h₁, h⟩ := bind_eq_ok.mp h
  obtain ⟨labelled, h₂, h⟩ := bind_eq_ok.mp h
  obtain ⟨bytes, h₃, h⟩ := bind_eq_ok.mp h
  cases h
  have houtlined := view_paint (indexes_border (exitLeft screen.physicalSize.1).toNat 0
    (screen.physicalSize.1 - exitLeft screen.physicalSize.1 - 20).toNat 72 _)
    (fun p hp => by
      obtain ⟨⟨-, hhi⟩, -⟩ := Picture.mem_rect.mp (border_subset hp)
      omega) h₁
  rw [view_paintIndicator hl hh h₃, view_paintLabel (by omega) rfl h₂, houtlined,
    Picture.paint_paint, Picture.paint_paint, stripPicture, Set.union_assoc]

/-- The same at the points of the window. -/
theorem pixelAt_rasterizeSystemUi [Platform] {connected : Bool} {pixels : SystemUiPixels}
    (h : rasterizeSystemUi screen connected = .ok pixels) :
    pixels.pixelAt =
      Picture.paint
        (stripPicture screen.systemUiRegion.y.toNat (exitLeft screen.physicalSize.1).toNat
          (screen.physicalSize.1 - exitLeft screen.physicalSize.1 - 20).toNat
          screen.systemUiRegion.width.toNat connected) (some BLACK)
        (whiteStrip screen).pixelAt := by
  have hview := view_rasterizeSystemUi hl hh hw h
  obtain ⟨hpixels, -⟩ := pixels_of_rasterizeSystemUi hl hh h
  have hx := (strip_of_new hl).1
  rw [hpixels]
  ext p : 1
  rw [pixelAt_strip hx]
  by_cases hp : p ∈ stripPicture screen.systemUiRegion.y.toNat
      (exitLeft screen.physicalSize.1).toNat
      (screen.physicalSize.1 - exitLeft screen.physicalSize.1 - 20).toNat
      screen.systemUiRegion.width.toNat connected
  · obtain ⟨htop, hp'⟩ := mem_stripPicture_sub.mp hp
    rw [Picture.paint_of_mem hp, if_pos htop, hview, Picture.paint_of_mem hp']
  · rw [Picture.paint_of_notMem hp, whiteStrip, pixelAt_strip hx]
    by_cases htop : screen.systemUiRegion.y.toNat ≤ p.2
    · rw [if_pos htop, if_pos htop, hview,
        Picture.paint_of_notMem fun hp' => hp (mem_stripPicture_sub.mpr ⟨htop, hp'⟩)]
    · rw [if_neg htop, if_neg htop]

end Strip

/-! ### The strip of a layout -/

/-- The point lies in the current connection indicator. -/
def Indicated (screen : ScreenLayout) (p : Nat × Nat) : Prop :=
  ∃ indicator, connectionIndicatorBounds screen.physicalSize.1 screen.physicalSize.2 =
    some indicator ∧ p ∈ indicator.points

/-- The control and the indicator are apart, and inside the strip. -/
structure StripBounds (screen : ScreenLayout) (exit : LogicalRect) : Prop where
  exit_inside : exit.points ⊆ screen.systemUiRegion.points
  indicator_inside : ∀ p, Indicated screen p → p ∈ screen.systemUiRegion.points
  apart : ∀ p, Indicated screen p → p ∉ exit.points

/-- What a rasterized strip holds and shows. -/
structure StripShown (screen : ScreenLayout) (exit : LogicalRect) (pixels : SystemUiPixels) :
    Prop where
  region : pixels.region = screen.systemUiRegion
  stride : pixels.stride = screen.systemUiRegion.width.toNat
  length : pixels.bytes.length = screen.systemUiRegion.width.toNat * 72
  border : ∀ p ∈ border exit.x.toNat exit.y.toNat exit.width.toNat exit.height.toNat,
    pixels.pixelAt p = some BLACK
  label : ∃ scale,
    IsGreatest {s | FittingScale exit.width.toNat exit.height.toNat s} scale ∧
      centeredLabel exit.x.toNat exit.y.toNat exit.width.toNat exit.height.toNat scale ⊆
        Picture.rect (exit.x.toNat + 2) (exit.y.toNat + 2) (exit.width.toNat - 4)
          (exit.height.toNat - 4) ∧
      ∀ p ∈ Picture.rect (exit.x.toNat + 2) (exit.y.toNat + 2) (exit.width.toNat - 4)
          (exit.height.toNat - 4), pixels.pixelAt p = some BLACK ↔
        p ∈ centeredLabel exit.x.toNat exit.y.toNat exit.width.toNat exit.height.toNat scale
  black : ∀ p, pixels.pixelAt p = some BLACK → p ∈ exit.points ∨ Indicated screen p

/-- A connected strip is a disconnected one with more black in its indicator. -/
structure Fills (screen : ScreenLayout) (disconnected connected : SystemUiPixels) : Prop where
  outside : ∀ p, ¬ Indicated screen p → connected.pixelAt p = disconnected.pixelAt p
  inside : ∀ p, disconnected.pixelAt p = some BLACK → connected.pixelAt p = some BLACK

section Layout

variable {screen : ScreenLayout}
  (hl : ScreenLayout.new screen.physicalSize.1 screen.physicalSize.2 = some screen)

include hl

/-- The Exit control needs a whole strip. -/
theorem height_of_exitBounds {exit : LogicalRect}
    (h : exitBounds screen.physicalSize.1 screen.physicalSize.2 = some exit) :
    screen.systemUiRegion.height = SYSTEM_UI_HEIGHT := by
  obtain ⟨l, hl', h⟩ := Option.bind_eq_some_iff.mp h
  obtain rfl := Option.some.inj (hl.symm.trans hl')
  dsimp only at h
  split at h
  · cases h
  · next hn =>
      have hle : screen.systemUiRegion.height ≤ SYSTEM_UI_HEIGHT := by
        rw [UInt16.le_iff_toNat_le, (ScreenLayout.sizes hl).strip_height]
        exact Nat.min_le_right _ _
      exact UInt16.le_antisymm hle (UInt16.not_lt.mp (not_or.mp hn).1)

variable (hh : screen.systemUiRegion.height = SYSTEM_UI_HEIGHT)

include hh

theorem lt_of_exitBounds {exit : LogicalRect}
    (h : exitBounds screen.physicalSize.1 screen.physicalSize.2 = some exit) :
    40 < screen.physicalSize.1 := by
  rw [exitBounds_eq hl hh] at h
  split at h
  · cases h
  · next hw => exact UInt16.not_le.mp hw

/-- A whole strip is nowhere near the end of the coordinates. -/
theorem strip_low : screen.systemUiRegion.y.toNat + 72 ≤ 32767 := by
  have sizes := ScreenLayout.sizes hl
  obtain ⟨-, -, hy, -⟩ := ScreenLayout.new_spec hl
  have h72 : screen.systemUiRegion.height.toNat = 72 := congrArg UInt16.toNat hh
  have hcap := sizes.height
  rw [sizes.strip_height] at h72
  rw [hy, sizes.remote_height]
  omega

theorem indicated_iff {p : Nat × Nat} :
    Indicated screen p ↔ 85 ≤ screen.systemUiRegion.width.toNat ∧
      p ∈ Picture.rect 20 (screen.systemUiRegion.y.toNat + 24) 24 24 := by
  have hlow := strip_low hl hh
  have hwidth := (strip_of_new hl).2
  have hy : (screen.systemUiRegion.y + 24).toNat = screen.systemUiRegion.y.toNat + 24 := by
    rw [UInt16.toNat_add]
    exact Nat.mod_eq_of_lt (by have : (24 : UInt16).toNat = 24 := rfl; omega)
  rw [Indicated, connectionIndicatorBounds_eq hl hh, ← hy, hwidth]
  by_cases hw : screen.physicalSize.1 < 85
  · rw [if_pos hw]
    constructor
    · rintro ⟨indicator, h, -⟩
      cases h
    · rintro ⟨h, -⟩
      exact absurd (UInt16.lt_iff_toNat_lt.mp hw) (not_lt.mpr h)
  · rw [if_neg hw]
    constructor
    · rintro ⟨indicator, h, hp⟩
      cases h
      exact ⟨not_lt.mp fun h => hw (UInt16.lt_iff_toNat_lt.mpr h), hp⟩
    · rintro ⟨-, hp⟩
      exact ⟨_, rfl, hp⟩

variable {exit : LogicalRect}
  (he : exitBounds screen.physicalSize.1 screen.physicalSize.2 = some exit)

include he

theorem exit_eq : exit = ⟨exitLeft screen.physicalSize.1, screen.systemUiRegion.y,
    screen.physicalSize.1 - exitLeft screen.physicalSize.1 - 20, SYSTEM_UI_HEIGHT⟩ := by
  have hw := lt_of_exitBounds hl hh he
  rw [exitBounds_eq hl hh, if_neg (UInt16.not_le.mpr hw)] at he
  exact (Option.some.inj he).symm

/-- The control starts right of the indicator, where there is one. -/
theorem exitLeft_of_indicator (h : 85 ≤ screen.systemUiRegion.width.toNat) :
    exit.x.toNat = 64 := by
  have hn : ¬ screen.physicalSize.1 < 85 := by
    rw [(strip_of_new hl).2] at h
    exact fun hlt => absurd (UInt16.lt_iff_toNat_lt.mp hlt) (not_lt.mpr h)
  rw [exit_eq hl hh he, exitLeft, if_neg hn]
  rfl

theorem stripBounds : StripBounds screen exit := by
  have hspec := exitLeft_spec hl (lt_of_exitBounds hl hh he)
  have hx : screen.systemUiRegion.x.toNat = 0 := congrArg UInt16.toNat (strip_of_new hl).1
  have h72 : screen.systemUiRegion.height.toNat = 72 := congrArg UInt16.toNat hh
  have hexit := exit_eq hl hh he
  constructor
  · intro p hp
    rw [hexit] at hp
    obtain ⟨⟨hxlo, hxhi⟩, hylo, hyhi⟩ := hp
    have : SYSTEM_UI_HEIGHT.toNat = 72 := rfl
    dsimp only at hxlo hxhi hylo hyhi
    exact ⟨⟨by omega, by omega⟩, by omega, by omega⟩
  · intro p hp
    obtain ⟨hw, ⟨hxlo, hxhi⟩, hylo, hyhi⟩ := (indicated_iff hl hh).mp hp
    exact ⟨⟨by omega, by omega⟩, by omega, by omega⟩
  · intro p hp hpe
    obtain ⟨hw, ⟨hxlo, hxhi⟩, hylo, hyhi⟩ := (indicated_iff hl hh).mp hp
    have hleft := exitLeft_of_indicator hl hh he hw
    have := hpe.1.1
    omega

/-- The picture of the strip, in the terms of its layout. -/
theorem mem_stripPicture_iff {connected : Bool} {p : Nat × Nat} :
    p ∈ stripPicture screen.systemUiRegion.y.toNat (exitLeft screen.physicalSize.1).toNat
        (screen.physicalSize.1 - exitLeft screen.physicalSize.1 - 20).toNat
        screen.systemUiRegion.width.toNat connected ↔
      p ∈ border exit.x.toNat exit.y.toNat exit.width.toNat exit.height.toNat ∨
        p ∈ centeredLabel exit.x.toNat exit.y.toNat exit.width.toNat exit.height.toNat
          (labelScale exit.width.toNat) ∨
        Indicated screen p ∧
          p ∈ indicatorDisc 20 (screen.systemUiRegion.y.toNat + 24) 24 connected := by
  have h72 : SYSTEM_UI_HEIGHT.toNat = 72 := rfl
  rw [exit_eq hl hh he, indicated_iff hl hh, h72, stripPicture]
  constructor
  · rintro ((hp | hp) | ⟨hwide, hp⟩)
    · exact .inl hp
    · exact .inr (.inl hp)
    · exact .inr (.inr ⟨⟨hwide, indicatorDisc_subset hp⟩, hp⟩)
  · rintro (hp | hp | ⟨⟨hwide, -⟩, hp⟩)
    · exact .inl (.inl hp)
    · exact .inl (.inr hp)
    · exact .inr ⟨hwide, hp⟩

theorem pixelAt_eq_black_iff [Platform] {connected : Bool} {pixels : SystemUiPixels}
    (h : rasterizeSystemUi screen connected = .ok pixels) {p : Nat × Nat} :
    pixels.pixelAt p = some BLACK ↔
      p ∈ border exit.x.toNat exit.y.toNat exit.width.toNat exit.height.toNat ∨
        p ∈ centeredLabel exit.x.toNat exit.y.toNat exit.width.toNat exit.height.toNat
          (labelScale exit.width.toNat) ∨
        Indicated screen p ∧
          p ∈ indicatorDisc 20 (screen.systemUiRegion.y.toNat + 24) 24 connected := by
  rw [pixelAt_rasterizeSystemUi hl hh (lt_of_exitBounds hl hh he) h,
    Picture.paint_eq_iff (pixelAt_whiteStrip_ne screen p), mem_stripPicture_iff hl hh he]

theorem stripShown [Platform] {connected : Bool} {pixels : SystemUiPixels}
    (h : rasterizeSystemUi screen connected = .ok pixels) : StripShown screen exit pixels := by
  obtain ⟨hpixels, hlen⟩ := pixels_of_rasterizeSystemUi hl hh h
  have hblack := fun p => pixelAt_eq_black_iff (p := p) hl hh he h
  have h72 : exit.height.toNat = 72 := by
    rw [exit_eq hl hh he]
    rfl
  have hgreatest := isGreatest_labelScale exit.width.toNat
  rw [← h72] at hgreatest
  have hinside := @centeredLabel_subset exit.x.toNat exit.y.toNat _ _ _ hgreatest.1
  refine ⟨by rw [hpixels], by rw [hpixels], hlen, fun p hp => (hblack p).mpr (.inl hp),
    ⟨_, hgreatest, hinside, fun p hp => ⟨fun hb => ?_, fun hp => (hblack p).mpr (.inr (.inl hp))⟩⟩,
    fun p hb => ?_⟩
  · rcases (hblack p).mp hb with hp' | hp' | ⟨hi, -⟩
    · exact absurd hp hp'.2
    · exact hp'
    · -- inside the border there is no indicator
      have hpe : p ∈ exit.points := by
        obtain ⟨⟨hxlo, hxhi⟩, hylo, hyhi⟩ := Picture.mem_rect.mp hp
        exact ⟨⟨by omega, by omega⟩, by omega, by omega⟩
      exact absurd hpe ((stripBounds hl hh he).apart p hi)
  · rcases (hblack p).mp hb with hp | hp | ⟨hi, -⟩
    · exact .inl hp.1
    · obtain ⟨⟨hxlo, hxhi⟩, hylo, hyhi⟩ := Picture.mem_rect.mp (hinside hp)
      exact .inl ⟨⟨by omega, by omega⟩, by omega, by omega⟩
    · exact .inr hi

theorem fills [Platform] {connected disconnected : SystemUiPixels}
    (hon : rasterizeSystemUi screen true = .ok connected)
    (hoff : rasterizeSystemUi screen false = .ok disconnected) :
    Fills screen disconnected connected := by
  have hw := lt_of_exitBounds hl hh he
  constructor
  · intro p hp
    rw [pixelAt_rasterizeSystemUi hl hh hw hon, pixelAt_rasterizeSystemUi hl hh hw hoff]
    refine Picture.paint_congr ?_
    rw [mem_stripPicture_iff hl hh he, mem_stripPicture_iff hl hh he]
    exact or_congr_right (or_congr_right (iff_of_false (fun h => hp h.1) fun h => hp h.1))
  · intro p hp
    rw [pixelAt_eq_black_iff hl hh he hon]
    rcases (pixelAt_eq_black_iff hl hh he hoff).mp hp with hp | hp | ⟨hi, hp⟩
    · exact .inl hp
    · exact .inr (.inl hp)
    · exact .inr (.inr ⟨hi, indicatorDisc_mono hp⟩)

end Layout

/-- What rasterizing does on a layout. -/
structure StripRasterized [Platform] (screen : ScreenLayout) : Prop where
  total : ∀ connected, rasterizeSystemUi screen connected ≠ .error .panicked
  succeeds : ∀ connected, (∃ pixels, rasterizeSystemUi screen connected = .ok pixels) ↔
    screen.systemUiRegion.height = SYSTEM_UI_HEIGHT ∧
      ∃ exit, exitBounds screen.physicalSize.1 screen.physicalSize.2 = some exit
  bounds : ∀ exit, exitBounds screen.physicalSize.1 screen.physicalSize.2 = some exit →
    StripBounds screen exit
  shown : ∀ exit, exitBounds screen.physicalSize.1 screen.physicalSize.2 = some exit →
    ∀ connected pixels, rasterizeSystemUi screen connected = .ok pixels →
      StripShown screen exit pixels
  fills : ∀ connected disconnected, rasterizeSystemUi screen true = .ok connected →
    rasterizeSystemUi screen false = .ok disconnected → Fills screen disconnected connected

end PaperPad.Mxcfb
