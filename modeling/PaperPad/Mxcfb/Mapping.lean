import PaperPad.Mxcfb.Metadata
import PaperPad.Support.Raster

/-!
# Mxcfb — Mapping

The visible mapping covers the visible pixels, and no geometry is refused without a cause.  The
checks speak of the virtual area: a row of virtual pixels fits its line and all lines fit the
memory.  A visible pixel is one of the virtual area, so its last bit lies in its line
(`bit_in_line`), and its line among the first `yoffset + yres`, which are what is mapped.

The areas and the integers are not the only causes: a pixel of no bits is refused too, whatever
the areas are (`refused_without_bits`).
-/

namespace PaperPad.Mxcfb

open Fallible

/-- The bits of visible pixel `x` of a row, counted from the start of the row. -/
def PixelBit (g : FramebufferGeometry) (x bit : Nat) : Prop :=
  (g.xoffset.toNat + x) * g.bitsPerPixel.toNat ≤ bit ∧
    bit < (g.xoffset.toNat + x + 1) * g.bitsPerPixel.toNat

/-- A mapping of `n` bytes that covers the visible area. -/
structure Covers [Platform] (g : FramebufferGeometry) (n : Nat) : Prop where
  length_eq : n = g.lineLength.toNat * (g.yoffset.toNat + g.yres.toNat)
  pos : 0 < n
  le_memory : n ≤ g.smemLen.toNat
  fits : n < 2 ^ Platform.usizeBits
  pixels : ∀ x < g.xres.toNat, ∀ y < g.yres.toNat, ∀ bit, PixelBit g x bit →
    bit / 8 < g.lineLength.toNat ∧
      (g.yoffset.toNat + y) * g.lineLength.toNat + bit / 8 < n

/-- What can be wrong with the areas of a geometry, and with their sizes. -/
inductive Misplaced [Platform] (g : FramebufferGeometry) : Prop where
  | empty (h : g.xres = 0 ∨ g.yres = 0)
  | leaves (h : g.xresVirtual.toNat < g.xoffset.toNat + g.xres.toNat ∨
      g.yresVirtual.toNat < g.yoffset.toNat + g.yres.toNat)
  | row (h : 8 * g.lineLength.toNat < g.xresVirtual.toNat * g.bitsPerPixel.toNat)
  | memory (h : g.smemLen.toNat < g.lineLength.toNat * g.yresVirtual.toNat)
  | product (h : 2 ^ Platform.usizeBits ≤ g.lineLength.toNat * g.yresVirtual.toNat)

/-- Why a geometry is refused: for its areas, or because its pixels have no bits. -/
inductive Refused [Platform] (g : FramebufferGeometry) : Prop where
  | bitless (h : g.bitsPerPixel = 0)
  | misplaced (h : Misplaced g)

/-- What computing the length of a mapping says of a geometry, refused for a `cause`. -/
structure MappingSound [Platform] (cause : FramebufferGeometry → Prop) (g : FramebufferGeometry) :
    Prop where
  noPanic : NoPanic (visibleMappingLen g)
  accepted : ∀ n, visibleMappingLen g = .ok n → Covers g n
  refused : ∀ e, visibleMappingLen g = .error e → cause g

theorem toNat_pos_of_ne_zero {n : UInt32} (h : n ≠ 0) : 0 < n.toNat :=
  Nat.pos_of_ne_zero fun hn => h (UInt32.toNat_inj.mp hn)

section Sound

variable [Platform] {g : FramebufferGeometry}

theorem noPanic_visibleMappingLen (g : FramebufferGeometry) : NoPanic (visibleMappingLen g) := by
  refine (noPanic_ensure _ _).bind fun _ => ?_
  refine (noPanic_required _ _).bind fun _ => (noPanic_required _ _).bind fun _ => ?_
  refine (noPanic_ensure _ _).bind fun _ => ?_
  refine (noPanic_required _ _).bind fun _ => (noPanic_required _ _).bind fun _ => ?_
  refine (noPanic_ensure _ _).bind fun _ => (noPanic_required _ _).bind fun _ => ?_
  refine (noPanic_ensure _ _).bind fun _ => (noPanic_required _ _).bind fun _ => ?_
  exact (noPanic_ensure _ _).bind fun _ => noPanic_ok _

/-- A visible pixel's bits are in its line. -/
theorem Visible.bit_in_line (h : Visible g) {x bit : Nat} (hx : x < g.xres.toNat)
    (hbit : PixelBit g x bit) : bit / 8 < g.lineLength.toNat := by
  have hcolumn : g.xoffset.toNat + x + 1 ≤ g.xresVirtual.toNat := by
    have := h.right_le
    omega
  have hlast : bit < 8 * g.lineLength.toNat := calc
    bit < (g.xoffset.toNat + x + 1) * g.bitsPerPixel.toNat := hbit.2
    _ ≤ g.xresVirtual.toNat * g.bitsPerPixel.toNat := Nat.mul_le_mul_right _ hcolumn
    _ ≤ 8 * g.lineLength.toNat := h.row_le
  exact Nat.div_lt_of_lt_mul hlast

/-- The length of the visible rows covers them. -/
theorem Visible.covers (h : Visible g) :
    Covers g (g.lineLength.toNat * (g.yoffset.toNat + g.yres.toNat)) := by
  have hvirtual := Nat.mul_le_mul_left g.lineLength.toNat h.bottom_le
  have hrows : 0 < g.yoffset.toNat + g.yres.toNat := Nat.add_pos_right _ h.yres_pos
  refine ⟨rfl, Nat.mul_pos h.lineLength_pos hrows, le_trans hvirtual h.bytes_le,
    lt_of_le_of_lt hvirtual h.bytes_lt, ?_⟩
  intro x hx y hy bit hbit
  have hline := h.bit_in_line hx hbit
  have hrow := Raster.row_end_le (Nat.add_lt_add_left hy g.yoffset.toNat) g.lineLength.toNat
  refine ⟨hline, ?_⟩
  rw [Nat.mul_comm g.lineLength.toNat]
  exact lt_of_lt_of_le (Nat.add_lt_add_left hline _) hrow

/-- Without a cause to refuse it, a geometry is accepted. -/
theorem visible_of_not_refused (h : ¬ Refused g) : Visible g := by
  have hbits : g.bitsPerPixel ≠ 0 := mt Refused.bitless h
  have hplaced : ¬ Misplaced g := mt Refused.misplaced h
  have hempty := mt Misplaced.empty hplaced
  have hleaves := mt Misplaced.leaves hplaced
  push Not at hempty hleaves
  exact ⟨toNat_pos_of_ne_zero hempty.1, toNat_pos_of_ne_zero hempty.2, toNat_pos_of_ne_zero hbits,
    hleaves.1, hleaves.2, not_lt.mp (mt Misplaced.row hplaced),
    not_lt.mp (mt Misplaced.memory hplaced), not_le.mp (mt Misplaced.product hplaced)⟩

/-- **The visible mapping is sound**, and only refused for a cause. -/
theorem visibleMapping_sound (g : FramebufferGeometry) : MappingSound Refused g where
  noPanic := noPanic_visibleMappingLen g
  accepted n hn := by
    obtain ⟨hvisible, rfl⟩ := visibleMappingLen_eq_ok.mp hn
    exact hvisible.covers
  refused e he := by
    by_contra hnot
    have hok := visibleMappingLen_eq_ok.mpr ⟨visible_of_not_refused hnot, rfl⟩
    rw [he] at hok
    cases hok

end Sound

/-- A visible page of 1272 by 1696 pixels in a virtual area of two, of pixels without bits. -/
def bitlessPage : FramebufferGeometry where
  xres := 1272
  yres := 1696
  xresVirtual := 1272
  yresVirtual := 3392
  xoffset := 0
  yoffset := 0
  bitsPerPixel := 0
  lineLength := 1272
  smemLen := 4314624

/-- **Refused with nothing misplaced.**  The page is not empty, and it is refused. -/
theorem refused_without_bits :
    ¬ @Misplaced .usize64 bitlessPage ∧
      ¬ @MappingSound .usize64 (@Misplaced .usize64) bitlessPage := by
  have hplaced : ¬ @Misplaced .usize64 bitlessPage := by
    intro h
    cases h with
    | empty h => exact absurd h (by decide)
    | leaves h => exact absurd h (by decide)
    | row h => exact absurd h (by decide)
    | memory h => exact absurd h (by decide)
    | product h => exact absurd h (by decide)
  exact ⟨hplaced, fun h => hplaced (@MappingSound.refused .usize64 _ _ h _ rfl)⟩

end PaperPad.Mxcfb
