import Mathlib.Data.Nat.Bitwise
import PaperPad.Host.MonoPicture

/-!
# Host — Canonical

A Mono1 frame and the picture it shows determine each other, so comparing two frames byte for
byte, as `send_application` does, is comparing their pictures.  Two frames that show one picture
have the same visible bits, and no others: the padding is white (`eq_of_pixel_eq`).  Every picture
is shown, by the frame of a canvas its black points were set on (`exists_shows`).
-/

namespace PaperPad.Host

open Protocol

/-! ### The bits of a byte -/

section Byte

variable {a b byte : UInt8} {used k : Nat}

/-- The pixels of a byte are its bits, the highest first. -/
theorem bitOf_eq_white (hk : k < 8) :
    bitOf byte k = .white ↔ byte.toNat.testBit (7 - k) = false := by
  have masks : ∀ k < 8, ((128 : UInt8) >>> UInt8.ofNat k).toNat = 2 ^ (7 - k) := by decide
  have hbit : byte &&& (128 : UInt8) >>> UInt8.ofNat k = 0 ↔
      byte.toNat.testBit (7 - k) = false := by
    rw [← UInt8.toNat_inj, UInt8.toNat_and, masks k hk, Nat.and_two_pow]
    cases byte.toNat.testBit (7 - k) with
    | false => simp
    | true => simp
  rw [← hbit, bitOf]
  split
  · next h => exact iff_of_true rfl h
  · next h =>
      refine iff_of_false ?_ h
      intro e
      cases e

/-- A byte is its eight pixels. -/
theorem eq_of_bitOf_eq (h : ∀ k < 8, bitOf a k = bitOf b k) : a = b := by
  refine UInt8.toNat_inj.mp (Nat.eq_of_testBit_eq fun i => ?_)
  by_cases hi : i < 8
  · have hk : 7 - i < 8 := by omega
    have hbit : a.toNat.testBit (7 - (7 - i)) = false ↔ b.toNat.testBit (7 - (7 - i)) = false := by
      rw [← bitOf_eq_white hk, ← bitOf_eq_white hk, h _ hk]
    rw [show 7 - (7 - i) = i by omega] at hbit
    exact Bool.eq_iff_iff.mpr (by simpa using hbit.not)
  · have hpow : 2 ^ 8 ≤ 2 ^ i := Nat.pow_le_pow_right Nat.two_pos (not_lt.mp hi)
    rw [Nat.testBit_lt_two_pow (lt_of_lt_of_le a.toNat_lt hpow),
      Nat.testBit_lt_two_pow (lt_of_lt_of_le b.toNat_lt hpow)]

/-- The padding of a byte is white when its unused low bits are zero. -/
theorem and_paddingMask_eq_zero (hu : 0 < used) (hu8 : used < 8) :
    byte &&& paddingMask used = 0 ↔ ∀ bit < 8 - used, byte.toNat.testBit bit = false := by
  have masks : ∀ u < 8, 0 < u → (paddingMask u).toNat = 2 ^ (8 - u) - 1 := by decide
  rw [← UInt8.toNat_inj, UInt8.toNat_and, masks used hu8 hu, Nat.and_two_pow_sub_one_eq_mod]
  constructor
  · intro h bit hbit
    have := Nat.testBit_mod_two_pow byte.toNat (8 - used) bit
    rw [h, UInt8.toNat_zero, Nat.zero_testBit, decide_eq_true hbit, Bool.true_and] at this
    exact this.symm
  · intro h
    refine Nat.zero_of_testBit_eq_false fun bit => ?_
    rw [Nat.testBit_mod_two_pow]
    by_cases hbit : bit < 8 - used
    · rw [h bit hbit, Bool.and_false]
    · rw [decide_eq_false hbit, Bool.false_and]

/-- A padding pixel of a byte with white padding. -/
theorem bitOf_of_padding (hpad : byte &&& paddingMask used = 0) (hu : 0 < used) (hk : used ≤ k)
    (hk8 : k < 8) : bitOf byte k = .white := by
  rw [bitOf_eq_white hk8]
  exact (and_paddingMask_eq_zero hu (lt_of_le_of_lt hk hk8)).mp hpad _ (by omega)

end Byte

/-! ### What is accepted -/

/-- Bytes of a frame of this size, the low bits past the width zero in the last byte of each row. -/
structure Mono1Bytes (width height : UInt16) (pixels : List UInt8) : Prop where
  length_eq : pixels.length = (width.toNat + 7) / 8 * height.toNat
  unused : ∀ row < height.toNat, ∀ bit < 8 * ((width.toNat + 7) / 8) - width.toNat,
    (pixels.getD ((row + 1) * ((width.toNat + 7) / 8) - 1) 0).toNat.testBit bit = false

section Accepted

variable {width height : UInt16}

theorem mono1Bytes_iff {pixels : List UInt8} (hw : width ≠ 0) (hh : height ≠ 0) :
    Mono1Valid width height (mono1Stride width) pixels ↔ Mono1Bytes width height pixels := by
  have hlen : 8 * ((width.toNat + 7) / 8) - width.toNat =
      if width.toNat % 8 = 0 then 0 else 8 - width.toNat % 8 := by
    split <;> omega
  constructor
  · intro h
    refine ⟨h.length_eq, fun row hrow bit hbit => ?_⟩
    rw [hlen] at hbit
    split at hbit
    · exact absurd hbit (Nat.not_lt_zero bit)
    · next hu =>
        exact (and_paddingMask_eq_zero (Nat.pos_of_ne_zero hu) (Nat.mod_lt _ (by omega))).mp
          (h.padding hu row hrow) bit hbit
  · intro h
    refine ⟨hw, hh, rfl, h.length_eq, fun hu row hrow => ?_⟩
    refine (and_paddingMask_eq_zero (Nat.pos_of_ne_zero hu) (Nat.mod_lt _ (by omega))).mpr ?_
    intro bit hbit
    exact h.unused row hrow bit (by rw [hlen, if_neg hu]; exact hbit)

/-- What `Mono1Frame::new` accepts. -/
theorem new_eq_ok_iff [Platform] {pixels : List UInt8} (hw : width ≠ 0) (hh : height ≠ 0) :
    (∃ f, Mono1Frame.new width height pixels = .ok f) ↔ Mono1Bytes width height pixels := by
  rw [← mono1Bytes_iff hw hh]
  constructor
  · rintro ⟨f, hf⟩
    obtain ⟨rfl, rfl, rfl⟩ := Mono1Frame.new_eq_ok.mp hf
    exact f.valid.stride_eq ▸ f.valid
  · intro h
    exact ⟨⟨width, height, _, pixels, h⟩, Mono1Frame.new_eq_ok.mpr ⟨rfl, rfl, rfl⟩⟩

end Accepted

/-! ### Frames and pictures -/

section Pictures

variable {width height : UInt16}

theorem pixel_eq_some (f : Mono1Frame) {x y : UInt16} (hx : x < f.width) (hy : y < f.height) :
    f.pixel x y =
      some (bitOf (f.pixels.getD (y.toNat * f.stride + x.toNat / 8) 0) (x.toNat % 8)) := by
  rw [Mono1Frame.pixel, if_neg (not_or.mpr ⟨UInt16.not_le.mpr hx, UInt16.not_le.mpr hy⟩)]
  rfl

theorem pixel_isSome (f : Mono1Frame) {x y : UInt16} :
    (f.pixel x y).isSome ↔ x < f.width ∧ y < f.height := by
  constructor
  · intro h
    by_contra hout
    rw [not_and_or, UInt16.not_lt, UInt16.not_lt] at hout
    rw [Mono1Frame.pixel, if_pos hout] at h
    cases h
  · rintro ⟨hx, hy⟩
    rw [pixel_eq_some f hx hy]
    rfl

/-- The byte of a pixel is one of the frame. -/
theorem pixelByte_lt (f : Mono1Frame) {x y : UInt16} (hx : x < f.width) (hy : y < f.height) :
    y.toNat * f.stride + x.toNat / 8 < f.pixels.length := by
  rw [f.valid.length_eq, f.valid.stride_eq]
  exact pixelIndex_lt hx hy

/-- A bit of a frame's byte: a pixel, or white padding. -/
theorem bitOf_byte (f : Mono1Frame) {row column k : Nat} (hrow : row < f.height.toNat)
    (hcolumn : column < f.stride) (hk : k < 8) :
    bitOf (f.pixels.getD (row * f.stride + column) 0) k =
      (f.pixel (UInt16.ofNat (8 * column + k)) (UInt16.ofNat row)).getD .white ∧
        8 * column + k < f.width.toNat ∨
      bitOf (f.pixels.getD (row * f.stride + column) 0) k = .white ∧
        f.width.toNat ≤ 8 * column + k := by
  have hs := f.valid.stride_eq
  rw [mono1Stride] at hs
  by_cases hx : 8 * column + k < f.width.toNat
  · refine .inl ⟨?_, hx⟩
    have hxn := MonoCanvas.toNat_coordinate hx
    have hyn := MonoCanvas.toNat_coordinate hrow
    rw [pixel_eq_some f (UInt16.lt_iff_toNat_lt.mpr (by rw [hxn]; exact hx))
      (UInt16.lt_iff_toNat_lt.mpr (by rw [hyn]; exact hrow)), Option.getD_some, hxn, hyn,
      Nat.mul_add_div (by omega), Nat.mul_add_mod, Nat.div_eq_of_lt hk, Nat.mod_eq_of_lt hk,
      Nat.add_zero]
  · refine .inr ⟨?_, not_lt.mp hx⟩
    -- the last column, past the used bits
    have hu : 0 < f.width.toNat % 8 := by omega
    have hpad := f.valid.padding (Nat.ne_of_gt hu) row hrow
    rw [finalByte, Nat.succ_mul, Nat.add_sub_assoc (by omega),
      show f.stride - 1 = column by omega] at hpad
    exact bitOf_of_padding hpad hu (by omega) hk

/-- Frames that show the same pixels are the same frame. -/
theorem eq_of_pixel_eq {f g : Mono1Frame} (hw : f.width = g.width) (hh : f.height = g.height)
    (h : ∀ x y, f.pixel x y = g.pixel x y) : f = g := by
  have hs : f.stride = g.stride := f.valid.stride_eq.trans (hw ▸ g.valid.stride_eq.symm)
  have hlen : f.pixels.length = g.pixels.length := by
    rw [f.valid.length_eq, g.valid.length_eq, hs, hh]
  refine Mono1Frame.ext hw hh (List.ext_getElem hlen fun i hi hj => eq_of_bitOf_eq fun k hk => ?_)
  -- byte `i` is column `i % stride` of row `i / stride`
  have hi' : i < f.height.toNat * f.stride := by
    rw [Nat.mul_comm, ← f.valid.length_eq]
    exact hi
  have hpos : 0 < f.stride := Nat.pos_of_ne_zero fun e => by
    rw [e] at hi'
    omega
  have hrow : i / f.stride < f.height.toNat := Nat.div_lt_of_lt_mul (Nat.mul_comm _ _ ▸ hi')
  have hcolumn : i % f.stride < f.stride := Nat.mod_lt _ hpos
  have hindex : i / f.stride * f.stride + i % f.stride = i := Nat.div_add_mod' i f.stride
  have hf := bitOf_byte f hrow hcolumn hk
  have hg := bitOf_byte g (hh ▸ hrow) (hs ▸ hcolumn) hk
  rw [← hs, hindex, ← h, ← hw] at hg
  rw [hindex] at hf
  rw [List.getElem_eq_getD 0, List.getElem_eq_getD 0]
  rcases hf with ⟨hf, hx⟩ | ⟨hf, hx⟩
  · rcases hg with ⟨hg, -⟩ | ⟨-, hx'⟩
    · rw [hf, hg]
    · omega
  · rcases hg with ⟨-, hx'⟩ | ⟨hg, -⟩
    · omega
    · rw [hf, hg]

/-- Points set on a canvas. -/
theorem paints_setPixels [Platform] (c : MonoCanvas width height)
    (points : List (UInt16 × UInt16)) :
    Picture.Paints MonoCanvas.view .black {q | ∃ p ∈ points, q ∈ {(p.1.toNat, p.2.toNat)} ∩
      MonoCanvas.canvas width height} c
      (points.foldlM (fun c p => (c.setPixel p.1 p.2 .black).map Prod.fst) c) :=
  Picture.Paints.foldlM (S := fun p : UInt16 × UInt16 => {(p.1.toNat, p.2.toNat)} ∩
    MonoCanvas.canvas width height) (fun c p _ => c.paints_setPixel p.1 p.2 .black) c

/-- The points of a size. -/
def allPoints (width height : UInt16) : List (UInt16 × UInt16) :=
  (List.range height.toNat).flatMap fun y => (List.range width.toNat).map fun x =>
    (UInt16.ofNat x, UInt16.ofNat y)

theorem mem_allPoints {x y : UInt16} (hx : x < width) (hy : y < height) :
    (x, y) ∈ allPoints width height :=
  List.mem_flatMap.mpr ⟨y.toNat, List.mem_range.mpr (UInt16.lt_iff_toNat_lt.mp hy),
    List.mem_map.mpr ⟨x.toNat, List.mem_range.mpr (UInt16.lt_iff_toNat_lt.mp hx),
      Prod.ext UInt16.ofNat_toNat UInt16.ofNat_toNat⟩⟩

/-- Every picture is shown by a frame. -/
theorem exists_shows [Platform] (hw : width ≠ 0) (hh : height ≠ 0)
    (picture : UInt16 → UInt16 → Mono1Pixel) :
    ∃ f : Mono1Frame, f.width = width ∧ f.height = height ∧
      ∀ x y, x < width → y < height → f.pixel x y = some (picture x y) := by
  obtain ⟨blank, hblank⟩ := MonoCanvas.new_eq_ok ⟨hw, hh⟩
  obtain ⟨canvas, -, hview⟩ := paints_setPixels blank
    ((allPoints width height).filter fun p => picture p.1 p.2 = .black)
  refine ⟨⟨width, height, canvas.stride, canvas.pixels, canvas.valid⟩, rfl, rfl, ?_⟩
  intro x y hx hy
  rw [MonoCanvas.pixel_intoFrame (MonoCanvas.intoFrame_eq_ok canvas), if_pos ⟨hx, hy⟩, hview]
  have hp : (x.toNat, y.toNat) ∈ MonoCanvas.canvas width height :=
    MonoCanvas.mem_canvas.mpr ⟨UInt16.lt_iff_toNat_lt.mp hx, UInt16.lt_iff_toNat_lt.mp hy⟩
  cases hc : picture x y with
  | black =>
      rw [Picture.paint_of_mem]
      exact ⟨(x, y), List.mem_filter.mpr ⟨mem_allPoints hx hy, decide_eq_true hc⟩, rfl, hp⟩
  | white =>
      rw [Picture.paint_of_notMem, MonoCanvas.view_new hblank]
      rintro ⟨⟨x', y'⟩, hmem, heq, -⟩
      obtain ⟨hx', hy'⟩ := Prod.mk.inj heq
      obtain rfl : x = x' := UInt16.toNat_inj.mp hx'
      obtain rfl : y = y' := UInt16.toNat_inj.mp hy'
      rw [of_decide_eq_true (List.mem_filter.mp hmem).2] at hc
      cases hc

end Pictures

/-! ### The representation -/

/-- The frames of a size. -/
abbrev Mono1FrameOf (width height : UInt16) :=
  {f : Mono1Frame // f.width = width ∧ f.height = height}

/-- The pixel coordinates of a size. -/
abbrev PixelOf (width height : UInt16) :=
  {p : UInt16 × UInt16 // p.1 < width ∧ p.2 < height}

/-- The picture a frame shows. -/
def Mono1FrameOf.picture {width height : UInt16} (f : Mono1FrameOf width height)
    (p : PixelOf width height) : Mono1Pixel :=
  (f.1.pixel p.1.1 p.1.2).get ((pixel_isSome f.1).mpr (by rw [f.2.1, f.2.2]; exact p.2))

/-- A size's representation is canonical: what is accepted, where pixels are defined, and that a
frame and its picture determine each other. -/
structure CanonicalMono1 [Platform] (width height : UInt16) : Prop where
  accepted : ∀ pixels, (∃ f, Mono1Frame.new width height pixels = .ok f) ↔
    Mono1Bytes width height pixels
  defined : ∀ pixels f, Mono1Frame.new width height pixels = .ok f → ∀ x y,
    ((f.pixel x y).isSome ↔ x < width ∧ y < height) ∧
      (x < width → y < height → y.toNat * f.stride + x.toNat / 8 < pixels.length)
  bijective : Function.Bijective (@Mono1FrameOf.picture width height)
  equality : ∀ f g : Mono1FrameOf width height, f.1 = g.1 ↔
    ∀ x y, x < width → y < height → f.1.pixel x y = g.1.pixel x y

theorem pixel_eq_picture {width height : UInt16} (f : Mono1FrameOf width height)
    (p : PixelOf width height) : f.1.pixel p.1.1 p.1.2 = some (f.picture p) :=
  (Option.some_get _).symm

/-- Frames of one size that show the same picture are the same. -/
theorem picture_injective {width height : UInt16} :
    Function.Injective (@Mono1FrameOf.picture width height) := by
  intro f g h
  refine Subtype.ext (eq_of_pixel_eq (f.2.1.trans g.2.1.symm) (f.2.2.trans g.2.2.symm) ?_)
  intro x y
  by_cases hxy : x < width ∧ y < height
  · have hf := pixel_eq_picture f ⟨(x, y), hxy⟩
    have hg := pixel_eq_picture g ⟨(x, y), hxy⟩
    rw [h] at hf
    exact hf.trans hg.symm
  · have hnone : ∀ k : Mono1FrameOf width height, k.1.pixel x y = none := by
      intro k
      rw [← Option.not_isSome_iff_eq_none, pixel_isSome, k.2.1, k.2.2]
      exact hxy
    rw [hnone f, hnone g]

/-- **The Mono1 representation is canonical.** -/
theorem mono1_canonical [Platform] {width height : UInt16} (hw : width ≠ 0) (hh : height ≠ 0) :
    CanonicalMono1 width height where
  accepted _ := new_eq_ok_iff hw hh
  defined pixels f hf x y := by
    obtain ⟨rfl, rfl, rfl⟩ := Mono1Frame.new_eq_ok.mp hf
    exact ⟨pixel_isSome f, fun hx hy => pixelByte_lt f hx hy⟩
  bijective := by
    refine ⟨picture_injective, fun picture => ?_⟩
    obtain ⟨f, rfl, rfl, hf⟩ := exists_shows hw hh fun x y =>
      if h : x < width ∧ y < height then picture ⟨(x, y), h⟩ else .white
    refine ⟨⟨f, rfl, rfl⟩, funext fun p => Option.some.inj ?_⟩
    rw [← pixel_eq_picture, hf _ _ p.2.1 p.2.2, dif_pos p.2]
  equality f g := by
    refine ⟨fun h x y _ _ => by rw [h], fun h => ?_⟩
    refine congrArg Subtype.val (picture_injective (funext fun p => Option.some.inj ?_))
    rw [← pixel_eq_picture, ← pixel_eq_picture, h _ _ p.2.1 p.2.2]

/-- A width of one bit more than a byte. -/
theorem mono1_canonical_nine : @CanonicalMono1 .usize64 9 2 :=
  @mono1_canonical .usize64 9 2 (by decide) (by decide)

end PaperPad.Host
