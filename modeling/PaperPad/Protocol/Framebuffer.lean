import Mathlib.Data.List.Basic
import Mathlib.Tactic.Ring
import Mathlib.Tactic.Linarith
import PaperPad.Support.Fallible

/-!
# Protocol — Framebuffer

The transport-independent framebuffers of `crates/paper-protocol/src/framebuffer.rs`.  A byte
vector is a `List UInt8`, a `usize` a `Nat` below `2 ^ usizeBits`, and the target's pointer
width is a parameter (`Platform`), 32 or 64 bits.

`Mono1Frame` and `Gray8Frame` carry their validity as a field.  `validateMono1Pixels` accepts
exactly what `Mono1Valid` says (`validateMono1Pixels_eq_ok`), on every platform: no frame
length of two `u16` dimensions overflows a `usize` (`mono1PayloadLen_eq`, `gray8PayloadLen_eq`).
-/

namespace PaperPad

/-- The pointer width the program is compiled for. -/
class Platform where
  usizeBits : Nat
  usizeBits_eq : usizeBits = 32 ∨ usizeBits = 64

/-- A 64-bit target. -/
@[reducible] def Platform.usize64 : Platform := ⟨64, .inr rfl⟩

/-- `usize::checked_mul`. -/
def checkedMul [Platform] (a b : Nat) : Option Nat :=
  if a * b < 2 ^ Platform.usizeBits then some (a * b) else none

/-- `usize::checked_add`. -/
def checkedAdd [Platform] (a b : Nat) : Option Nat :=
  if a + b < 2 ^ Platform.usizeBits then some (a + b) else none

theorem two_pow_32_le_usize [Platform] : 2 ^ 32 ≤ 2 ^ Platform.usizeBits := by
  rcases Platform.usizeBits_eq with h | h <;> rw [h]
  exact Nat.pow_le_pow_right (by omega) (by omega)

theorem checkedMul_of_lt [Platform] {a b : Nat} (h : a * b < 2 ^ 32) :
    checkedMul a b = some (a * b) :=
  if_pos (lt_of_lt_of_le h two_pow_32_le_usize)

theorem checkedAdd_of_lt [Platform] {a b : Nat} (h : a + b < 2 ^ 32) :
    checkedAdd a b = some (a + b) :=
  if_pos (lt_of_lt_of_le h two_pow_32_le_usize)

namespace Protocol

/-- Mono1 pixels are packed MSB-first with `0 = white`; Gray8 pixels are luminance bytes with
`0 = black`. -/
inductive PixelFormat where
  | mono1
  | gray8
  deriving DecidableEq, Repr

/-- The two colors. -/
inductive Mono1Pixel where
  | white
  | black
  deriving DecidableEq, Repr

/-- Why bytes are no Mono1 frame. -/
inductive Mono1FrameError where
  | zeroDimension (width height : UInt16)
  | payloadSizeOverflow (width height : UInt16)
  | payloadLength (expected actual : Nat)
  | nonWhitePadding (row : UInt16) (byte : UInt8)
  deriving DecidableEq

/-- Why bytes are no Gray8 frame. -/
inductive Gray8FrameError where
  | zeroDimension (width height : UInt16)
  | payloadSizeOverflow (width height : UInt16)
  | payloadLength (expected actual : Nat)
  deriving DecidableEq

/-- `{byte:02x}`. -/
def hexByte (byte : UInt8) : String :=
  String.ofList [Nat.digitChar (byte.toNat / 16), Nat.digitChar (byte.toNat % 16)]

/-- The `Display` text of a `Mono1FrameError`. -/
def Mono1FrameError.display : Mono1FrameError → String
  | .zeroDimension width height =>
      s!"Mono1 frame dimensions must be nonzero, got {width}x{height}"
  | .payloadSizeOverflow width height =>
      s!"Mono1 payload size overflows usize for {width}x{height}"
  | .payloadLength expected actual =>
      s!"Mono1 payload length mismatch: expected {expected} bytes, got {actual}"
  | .nonWhitePadding row byte =>
      s!"Mono1 row {row} has non-white trailing bits in byte 0x{hexByte byte}"

/-- The `Display` text of a `Gray8FrameError`. -/
def Gray8FrameError.display : Gray8FrameError → String
  | .zeroDimension width height =>
      s!"Gray8 frame dimensions must be nonzero, got {width}x{height}"
  | .payloadSizeOverflow width height =>
      s!"Gray8 payload size overflows usize for {width}x{height}"
  | .payloadLength expected actual =>
      s!"Gray8 payload length mismatch: expected {expected} bytes, got {actual}"

/-! ### Lengths -/

/-- Bytes of one Mono1 row: `width` bits rounded up. -/
def mono1Stride (width : UInt16) : Nat := (width.toNat + 7) / 8

/-- The bytes of a Mono1 frame, if they can be counted. -/
def mono1PayloadLen [Platform] (width height : UInt16) : Option Nat :=
  checkedMul (mono1Stride width) height.toNat

/-- The bytes of a row, one a pixel. -/
def gray8Stride (width : UInt16) : Nat := width.toNat

/-- The bytes of a Gray8 frame, if they can be counted. -/
def gray8PayloadLen [Platform] (width height : UInt16) : Option Nat :=
  checkedMul (gray8Stride width) height.toNat

theorem stride_mul_lt {s : Nat} (hs : s ≤ 65535) (height : UInt16) : s * height.toNat < 2 ^ 32 := by
  have hh : height.toNat ≤ 65535 := by have := height.toNat_lt; omega
  calc s * height.toNat ≤ 65535 * 65535 := Nat.mul_le_mul hs hh
    _ < 2 ^ 32 := by norm_num

theorem mono1Stride_le (width : UInt16) : mono1Stride width ≤ 8192 := by
  have := width.toNat_lt
  simp only [mono1Stride]
  omega

theorem mono1PayloadLen_eq [Platform] (width height : UInt16) :
    mono1PayloadLen width height = some (mono1Stride width * height.toNat) :=
  checkedMul_of_lt (stride_mul_lt (le_trans (mono1Stride_le width) (by omega)) height)

theorem gray8PayloadLen_eq [Platform] (width height : UInt16) :
    gray8PayloadLen width height = some (width.toNat * height.toNat) := by
  have hs : gray8Stride width ≤ 65535 := by
    have := width.toNat_lt
    simp only [gray8Stride]
    omega
  exact checkedMul_of_lt (stride_mul_lt hs height)

/-! ### Mono1 -/

/-- `!(u8::MAX << (8 - used_bits))`: the bits of a row's last byte past the width. -/
def paddingMask (usedBits : Nat) : UInt8 := ~~~((255 : UInt8) <<< UInt8.ofNat (8 - usedBits))

/-- The last byte of a row. -/
def finalByte (stride : Nat) (pixels : List UInt8) (row : Nat) : UInt8 :=
  pixels.getD ((row + 1) * stride - 1) 0

/-- Validate Mono1 pixels and return their row stride. -/
def validateMono1Pixels [Platform] (width height : UInt16) (pixels : List UInt8) :
    Except Mono1FrameError Nat :=
  if width = 0 ∨ height = 0 then .error (.zeroDimension width height)
  else
    let stride := mono1Stride width
    match mono1PayloadLen width height with
    | none => .error (.payloadSizeOverflow width height)
    | some expected =>
        if pixels.length ≠ expected then .error (.payloadLength expected pixels.length)
        else
          let usedBits := width.toNat % 8
          if usedBits = 0 then .ok stride
          else
            match (List.range height.toNat).find? fun row =>
                finalByte stride pixels row &&& paddingMask usedBits ≠ 0 with
            | some row => .error (.nonWhitePadding (UInt16.ofNat row) (finalByte stride pixels row))
            | none => .ok stride

/-- What Mono1 validation establishes. -/
structure Mono1Valid (width height : UInt16) (stride : Nat) (pixels : List UInt8) : Prop where
  width_ne : width ≠ 0
  height_ne : height ≠ 0
  stride_eq : stride = mono1Stride width
  length_eq : pixels.length = stride * height.toNat
  padding : width.toNat % 8 ≠ 0 → ∀ row < height.toNat,
    finalByte stride pixels row &&& paddingMask (width.toNat % 8) = 0

theorem validateMono1Pixels_eq_ok [Platform] {width height : UInt16} {pixels : List UInt8}
    {stride : Nat} :
    validateMono1Pixels width height pixels = .ok stride ↔
      Mono1Valid width height stride pixels := by
  simp only [validateMono1Pixels]
  by_cases h₀ : width = 0 ∨ height = 0
  · rw [if_pos h₀]
    exact ⟨nofun, fun h => (h₀.elim h.width_ne h.height_ne).elim⟩
  rw [if_neg h₀]
  obtain ⟨hw, hh⟩ := not_or.mp h₀
  simp only [mono1PayloadLen_eq]
  by_cases hl : pixels.length = mono1Stride width * height.toNat
  · by_cases hu : width.toNat % 8 = 0
    · simp only [ne_eq, hl, not_true_eq_false, if_false, hu, if_true, Except.ok.injEq]
      exact ⟨fun e => ⟨hw, hh, e.symm, e ▸ hl, fun h => absurd hu h⟩, fun h => h.stride_eq.symm⟩
    · simp only [ne_eq, hl, not_true_eq_false, if_false, hu]
      cases hf : (List.range height.toNat).find? fun row =>
          decide ¬finalByte (mono1Stride width) pixels row &&&
            paddingMask (width.toNat % 8) = 0 with
      | some row =>
          -- the first row whose padding is not white
          refine ⟨nofun, fun h => ?_⟩
          have hrow := List.find?_some hf
          have hmem := List.mem_range.mp (List.mem_of_find?_eq_some hf)
          exact absurd (h.stride_eq ▸ h.padding hu row hmem) (of_decide_eq_true hrow)
      | none =>
          simp only [Except.ok.injEq]
          refine ⟨fun e => ⟨hw, hh, e.symm, e ▸ hl, fun _ row hr => ?_⟩, fun h => h.stride_eq.symm⟩
          have := List.find?_eq_none.mp hf row (List.mem_range.mpr hr)
          simpa [← e] using this
  · simp only [ne_eq, hl, not_false_eq_true, if_true]
    exact ⟨nofun, fun h => absurd (h.stride_eq ▸ h.length_eq) hl⟩

/-- Row-major monochrome pixels, MSB-first in each byte, with white trailing bits. -/
structure Mono1Frame where
  width : UInt16
  height : UInt16
  stride : Nat
  pixels : List UInt8
  valid : Mono1Valid width height stride pixels
  deriving DecidableEq

namespace Mono1Frame

/-- A frame of valid pixels. -/
def new [Platform] (width height : UInt16) (pixels : List UInt8) :
    Except Mono1FrameError Mono1Frame :=
  match h : validateMono1Pixels width height pixels with
  | .ok stride => .ok ⟨width, height, stride, pixels, validateMono1Pixels_eq_ok.mp h⟩
  | .error e => .error e

/-- One in-bounds pixel, or `none` outside the frame. -/
def pixel (f : Mono1Frame) (x y : UInt16) : Option Mono1Pixel :=
  if x ≥ f.width ∨ y ≥ f.height then none
  else
    let byte := f.pixels.getD (y.toNat * f.stride + x.toNat / 8) 0
    let mask := (128 : UInt8) >>> UInt8.ofNat (x.toNat % 8)
    some (if byte &&& mask = 0 then .white else .black)

@[ext] theorem ext {f g : Mono1Frame} (hw : f.width = g.width) (hh : f.height = g.height)
    (hp : f.pixels = g.pixels) : f = g := by
  obtain ⟨w, h, s, p, hf⟩ := f
  obtain ⟨w', h', s', p', hg⟩ := g
  obtain rfl : w = w' := hw
  obtain rfl : h = h' := hh
  obtain rfl : p = p' := hp
  obtain rfl : s = s' := hf.stride_eq.trans hg.stride_eq.symm
  rfl

/-- A frame is accepted back, and nothing else is. -/
theorem new_eq_ok [Platform] {width height : UInt16} {pixels : List UInt8} {f : Mono1Frame} :
    new width height pixels = .ok f ↔
      f.width = width ∧ f.height = height ∧ f.pixels = pixels := by
  constructor
  · intro h
    simp only [new] at h
    split at h
    · cases h; exact ⟨rfl, rfl, rfl⟩
    · cases h
  · rintro ⟨rfl, rfl, rfl⟩
    simp only [new]
    split
    · exact congrArg Except.ok (ext rfl rfl rfl)
    · next e h => rw [validateMono1Pixels_eq_ok.mpr f.valid] at h; cases h

end Mono1Frame

/-! ### Gray8 -/

/-- Validate Gray8 pixels and return their row stride. -/
def validateGray8Pixels [Platform] (width height : UInt16) (pixels : List UInt8) :
    Except Gray8FrameError Nat :=
  if width = 0 ∨ height = 0 then .error (.zeroDimension width height)
  else
    match gray8PayloadLen width height with
    | none => .error (.payloadSizeOverflow width height)
    | some expected =>
        if pixels.length ≠ expected then .error (.payloadLength expected pixels.length)
        else .ok (gray8Stride width)

/-- What Gray8 validation establishes. -/
structure Gray8Valid (width height : UInt16) (stride : Nat) (pixels : List UInt8) : Prop where
  width_ne : width ≠ 0
  height_ne : height ≠ 0
  stride_eq : stride = gray8Stride width
  length_eq : pixels.length = stride * height.toNat

theorem validateGray8Pixels_eq_ok [Platform] {width height : UInt16} {pixels : List UInt8}
    {stride : Nat} :
    validateGray8Pixels width height pixels = .ok stride ↔
      Gray8Valid width height stride pixels := by
  simp only [validateGray8Pixels]
  by_cases h₀ : width = 0 ∨ height = 0
  · rw [if_pos h₀]
    exact ⟨nofun, fun h => (h₀.elim h.width_ne h.height_ne).elim⟩
  rw [if_neg h₀]
  obtain ⟨hw, hh⟩ := not_or.mp h₀
  simp only [gray8PayloadLen_eq]
  by_cases hl : pixels.length = width.toNat * height.toNat
  · simp only [ne_eq, hl, not_true_eq_false, if_false, Except.ok.injEq]
    exact ⟨fun e => ⟨hw, hh, e.symm, e ▸ hl⟩, fun h => h.stride_eq.symm⟩
  · simp only [ne_eq, hl, not_false_eq_true, if_true]
    exact ⟨nofun, fun h => absurd (h.length_eq.trans (by rw [h.stride_eq, gray8Stride])) hl⟩

/-- Row-major luminance bytes with no row padding. -/
structure Gray8Frame where
  width : UInt16
  height : UInt16
  stride : Nat
  pixels : List UInt8
  valid : Gray8Valid width height stride pixels
  deriving DecidableEq

namespace Gray8Frame

/-- A frame of valid pixels. -/
def new [Platform] (width height : UInt16) (pixels : List UInt8) :
    Except Gray8FrameError Gray8Frame :=
  match h : validateGray8Pixels width height pixels with
  | .ok stride => .ok ⟨width, height, stride, pixels, validateGray8Pixels_eq_ok.mp h⟩
  | .error e => .error e

/-- One in-bounds luminance byte, or `none` outside the frame. -/
def pixel (f : Gray8Frame) (x y : UInt16) : Option UInt8 :=
  if x ≥ f.width ∨ y ≥ f.height then none
  else some (f.pixels.getD (y.toNat * f.stride + x.toNat) 0)

@[ext] theorem ext {f g : Gray8Frame} (hw : f.width = g.width) (hh : f.height = g.height)
    (hp : f.pixels = g.pixels) : f = g := by
  obtain ⟨w, h, s, p, hf⟩ := f
  obtain ⟨w', h', s', p', hg⟩ := g
  obtain rfl : w = w' := hw
  obtain rfl : h = h' := hh
  obtain rfl : p = p' := hp
  obtain rfl : s = s' := hf.stride_eq.trans hg.stride_eq.symm
  rfl

theorem new_eq_ok [Platform] {width height : UInt16} {pixels : List UInt8} {f : Gray8Frame} :
    new width height pixels = .ok f ↔
      f.width = width ∧ f.height = height ∧ f.pixels = pixels := by
  constructor
  · intro h
    simp only [new] at h
    split at h
    · cases h; exact ⟨rfl, rfl, rfl⟩
    · cases h
  · rintro ⟨rfl, rfl, rfl⟩
    simp only [new]
    split
    · exact congrArg Except.ok (ext rfl rfl rfl)
    · next e h => rw [validateGray8Pixels_eq_ok.mpr f.valid] at h; cases h

end Gray8Frame

/-! ### Frames of either format -/

/-- Why bytes are no frame of their format. -/
inductive FrameError where
  | mono1 (error : Mono1FrameError)
  | gray8 (error : Gray8FrameError)
  deriving DecidableEq

/-- A validated remote framebuffer in one of the supported formats. -/
inductive Frame where
  | mono1 (frame : Mono1Frame)
  | gray8 (frame : Gray8Frame)
  deriving DecidableEq

namespace Frame

/-- A frame of valid pixels of this format. -/
def new [Platform] (width height : UInt16) (pixelFormat : PixelFormat) (pixels : List UInt8) :
    Except FrameError Frame :=
  match pixelFormat with
  | .mono1 => ((Mono1Frame.new width height pixels).map .mono1).mapError .mono1
  | .gray8 => ((Gray8Frame.new width height pixels).map .gray8).mapError .gray8

/-- Its width. -/
def width : Frame → UInt16
  | .mono1 f => f.width
  | .gray8 f => f.width

/-- Its height. -/
def height : Frame → UInt16
  | .mono1 f => f.height
  | .gray8 f => f.height

/-- Its format. -/
def pixelFormat : Frame → PixelFormat
  | .mono1 _ => .mono1
  | .gray8 _ => .gray8

/-- The bytes of its rows. -/
def stride : Frame → Nat
  | .mono1 f => f.stride
  | .gray8 f => f.stride

/-- Its bytes. -/
def pixels : Frame → List UInt8
  | .mono1 f => f.pixels
  | .gray8 f => f.pixels

theorem new_eq_ok [Platform] {width height : UInt16} {fmt : PixelFormat} {pixels : List UInt8}
    {f : Frame} :
    new width height fmt pixels = .ok f ↔
      f.width = width ∧ f.height = height ∧ f.pixelFormat = fmt ∧ f.pixels = pixels := by
  cases fmt with
  | mono1 =>
      simp only [new, Except.map_mapError_eq_ok, Mono1Frame.new_eq_ok]
      cases f <;> simp [Frame.width, Frame.height, Frame.pixels, Frame.pixelFormat]
  | gray8 =>
      simp only [new, Except.map_mapError_eq_ok, Gray8Frame.new_eq_ok]
      cases f <;> simp [Frame.width, Frame.height, Frame.pixels, Frame.pixelFormat]

end Frame

end Protocol

end PaperPad
