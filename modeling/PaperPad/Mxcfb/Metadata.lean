import PaperPad.Device.Screen
import PaperPad.Protocol.Framebuffer
import PaperPad.Support.Fallible

/-!
# Mxcfb — Metadata

Framebuffer metadata and what opening accepts of it: `src/mxcfb/layout.rs`, the specification of
`src/mxcfb/pixels.rs`, and `src/mxcfb/metadata.rs`.

Metadata are `u32`s of the kernel.  Sums and products are taken in `u32`, `u64` or `usize` as the
code takes them, and fail where they overflow.  `Visible` and `Accepted` say in natural numbers
what the checks establish (`visibleMappingLen_eq_ok`, `accepted_of_fromKernel`).
-/

namespace PaperPad.Mxcfb

open Device Fallible

/-- `u32::checked_add`. -/
def checkedAdd32 (a b : Nat) : Option Nat := if a + b < 2 ^ 32 then some (a + b) else none

/-- `u64::checked_add`. -/
def checkedAdd64 (a b : Nat) : Option Nat := if a + b < 2 ^ 64 then some (a + b) else none

/-- `u64::checked_mul`. -/
def checkedMul64 (a b : Nat) : Option Nat := if a * b < 2 ^ 64 then some (a * b) else none

/-- `isize::MAX`. -/
def isizeMax [Platform] : Nat := 2 ^ (Platform.usizeBits - 1) - 1

/-- `u16::try_from` of a `u32`. -/
def u16TryFrom (value : UInt32) : Fallible UInt16 :=
  if value.toNat < 2 ^ 16 then .ok value.toUInt16
  else .error (.error ["out of range integral type conversion attempted"])

/-! ### Layout -/

/-- Where the visible pixels are in the memory. -/
structure FramebufferGeometry where
  xres : UInt32
  yres : UInt32
  xresVirtual : UInt32
  yresVirtual : UInt32
  xoffset : UInt32
  yoffset : UInt32
  bitsPerPixel : UInt32
  lineLength : UInt32
  smemLen : UInt32
  deriving DecidableEq, Repr

/-- The bytes of the mapping that covers the visible rows. -/
def visibleMappingLen [Platform] (g : FramebufferGeometry) : Fallible Nat := do
  ensure (0 < g.xres ∧ 0 < g.yres ∧ 0 < g.bitsPerPixel)
    "framebuffer has empty resolution or zero bits per pixel"
  let visibleRight ← required (checkedAdd32 g.xoffset.toNat g.xres.toNat)
    "framebuffer horizontal offset overflow"
  let visibleBottom ← required (checkedAdd32 g.yoffset.toNat g.yres.toNat)
    "framebuffer vertical offset overflow"
  ensure (visibleRight ≤ g.xresVirtual.toNat ∧ visibleBottom ≤ g.yresVirtual.toNat)
    "visible framebuffer exceeds virtual dimensions"
  let rowBits ← required (checkedMul64 g.xresVirtual.toNat g.bitsPerPixel.toNat)
    "virtual framebuffer row bit count overflow"
  let rowBitsUp ← required (checkedAdd64 rowBits 7) "virtual framebuffer row byte count overflow"
  ensure (g.lineLength.toNat ≥ rowBitsUp / 8)
    "framebuffer line length is shorter than the virtual pixel row"
  let virtualBytes ← required (checkedMul g.lineLength.toNat g.yresVirtual.toNat)
    "virtual framebuffer byte count overflow"
  ensure (virtualBytes ≤ g.smemLen.toNat) "virtual framebuffer exceeds reported memory length"
  let visibleBytes ← required (checkedMul g.lineLength.toNat visibleBottom)
    "visible framebuffer byte count overflow"
  ensure (visibleBytes > 0) "empty visible framebuffer mapping"
  return visibleBytes

/-- What the layout checks establish. -/
structure Visible [Platform] (g : FramebufferGeometry) : Prop where
  xres_pos : 0 < g.xres.toNat
  yres_pos : 0 < g.yres.toNat
  bitsPerPixel_pos : 0 < g.bitsPerPixel.toNat
  right_le : g.xoffset.toNat + g.xres.toNat ≤ g.xresVirtual.toNat
  bottom_le : g.yoffset.toNat + g.yres.toNat ≤ g.yresVirtual.toNat
  row_le : g.xresVirtual.toNat * g.bitsPerPixel.toNat ≤ 8 * g.lineLength.toNat
  bytes_le : g.lineLength.toNat * g.yresVirtual.toNat ≤ g.smemLen.toNat
  bytes_lt : g.lineLength.toNat * g.yresVirtual.toNat < 2 ^ Platform.usizeBits

theorem Visible.lineLength_pos [Platform] {g : FramebufferGeometry} (h : Visible g) :
    0 < g.lineLength.toNat := by
  have hbits : 0 < g.xresVirtual.toNat * g.bitsPerPixel.toNat :=
    Nat.mul_pos (by have := h.right_le; have := h.xres_pos; omega) h.bitsPerPixel_pos
  have := h.row_le
  omega

theorem checkedAdd32_eq_some {a b c : Nat} :
    checkedAdd32 a b = some c ↔ a + b < 2 ^ 32 ∧ a + b = c := by
  rw [checkedAdd32, Option.ite_none_right_eq_some, Option.some_inj]

theorem checkedMul_eq_some [Platform] {a b c : Nat} :
    checkedMul a b = some c ↔ a * b < 2 ^ Platform.usizeBits ∧ a * b = c := by
  rw [checkedMul, Option.ite_none_right_eq_some, Option.some_inj]

theorem checkedAdd_eq_some [Platform] {a b c : Nat} :
    checkedAdd a b = some c ↔ a + b < 2 ^ Platform.usizeBits ∧ a + b = c := by
  rw [checkedAdd, Option.ite_none_right_eq_some, Option.some_inj]

/-- The bits of a row never overflow a `u64`. -/
theorem rowBits_lt (a b : UInt32) : a.toNat * b.toNat + 7 < 2 ^ 64 := by
  have ha : a.toNat ≤ 4294967295 := by have := a.toNat_lt; omega
  have hb : b.toNat ≤ 4294967295 := by have := b.toNat_lt; omega
  calc a.toNat * b.toNat + 7 ≤ 4294967295 * 4294967295 + 7 :=
        Nat.add_le_add_right (Nat.mul_le_mul ha hb) 7
    _ < 2 ^ 64 := by norm_num

/-- **What the layout checks accept**, and the length they return. -/
theorem visibleMappingLen_eq_ok [Platform] {g : FramebufferGeometry} {n : Nat} :
    visibleMappingLen g = .ok n ↔
      Visible g ∧ n = g.lineLength.toNat * (g.yoffset.toNat + g.yres.toNat) := by
  have hrow := rowBits_lt g.xresVirtual g.bitsPerPixel
  have hmul : checkedMul64 g.xresVirtual.toNat g.bitsPerPixel.toNat =
      some (g.xresVirtual.toNat * g.bitsPerPixel.toNat) := if_pos (by omega)
  have hadd : checkedAdd64 (g.xresVirtual.toNat * g.bitsPerPixel.toNat) 7 =
      some (g.xresVirtual.toNat * g.bitsPerPixel.toNat + 7) := if_pos hrow
  have hv := g.xresVirtual.toNat_lt
  have hw := g.yresVirtual.toNat_lt
  simp only [visibleMappingLen, ensure_bind_eq_ok, required_bind_eq_ok, checkedAdd32_eq_some,
    checkedMul_eq_some, hmul]
  constructor
  · rintro ⟨⟨hx, hy, hb⟩, _, ⟨-, rfl⟩, _, ⟨-, rfl⟩, ⟨hr, hd⟩, _, ⟨⟩, _, hu, hl, _, ⟨hlt, rfl⟩, hs,
      _, ⟨-, rfl⟩, -, hn⟩
    obtain rfl := Option.some_inj.mp (hadd.symm.trans hu)
    exact ⟨⟨hx, hy, hb, hr, hd, by omega, hs, hlt⟩, (Except.ok.inj hn).symm⟩
  · rintro ⟨h, rfl⟩
    have hbottom := Nat.mul_le_mul_left g.lineLength.toNat h.bottom_le
    have hbytes : 0 < g.lineLength.toNat * (g.yoffset.toNat + g.yres.toNat) :=
      Nat.mul_pos h.lineLength_pos (by have := h.yres_pos; omega)
    exact ⟨⟨h.xres_pos, h.yres_pos, h.bitsPerPixel_pos⟩,
      _, ⟨lt_of_le_of_lt h.right_le hv, rfl⟩, _, ⟨lt_of_le_of_lt h.bottom_le hw, rfl⟩,
      ⟨h.right_le, h.bottom_le⟩, _, rfl, _, hadd, by have := h.row_le; omega,
      _, ⟨h.bytes_lt, rfl⟩, h.bytes_le, _, ⟨lt_of_le_of_lt hbottom h.bytes_lt, rfl⟩, hbytes, rfl⟩

/-! ### The format -/

/-- The only supported type. -/
def FB_TYPE_PACKED_PIXELS : UInt32 := 0

/-- The only supported visual. -/
def FB_VISUAL_MONO10 : UInt32 := 1

/-- What a frame is prepared for. -/
structure FramebufferSpec where
  visibleWidth : UInt32
  visibleHeight : UInt32
  virtualWidth : UInt32
  virtualHeight : UInt32
  xoffset : UInt32
  yoffset : UInt32
  lineLength : Nat
  memoryLen : Nat
  kind : UInt32
  visual : UInt32
  bitsPerPixel : UInt32
  grayscale : UInt32
  nonstd : UInt32
  deriving DecidableEq, Repr

namespace FramebufferSpec

/-- The probed format. -/
def Format (s : FramebufferSpec) : Prop :=
  s.kind = FB_TYPE_PACKED_PIXELS ∧ s.visual = FB_VISUAL_MONO10 ∧ s.bitsPerPixel = 8 ∧
    s.grayscale = 1 ∧ s.nonstd = 0

instance (s : FramebufferSpec) : Decidable s.Format := inferInstanceAs (Decidable (_ ∧ _))

/-- One byte a pixel, gray. -/
def validateFormat (s : FramebufferSpec) : Fallible Unit :=
  ensure s.Format (s!"unsupported framebuffer format: type={s.kind} visual={s.visual} " ++
    s!"bpp={s.bitsPerPixel} grayscale={s.grayscale} nonstd={s.nonstd}")

/-- The fields a specification and a geometry share. -/
def Matches (s : FramebufferSpec) (g : FramebufferGeometry) : Prop :=
  s.visibleWidth = g.xres ∧ s.visibleHeight = g.yres ∧ s.virtualWidth = g.xresVirtual ∧
    s.virtualHeight = g.yresVirtual ∧ s.xoffset = g.xoffset ∧ s.yoffset = g.yoffset ∧
    s.bitsPerPixel = g.bitsPerPixel ∧ g.lineLength.toNat = s.lineLength ∧
    g.smemLen.toNat = s.memoryLen

instance (s : FramebufferSpec) (g : FramebufferGeometry) : Decidable (s.Matches g) :=
  inferInstanceAs (Decidable (_ ∧ _))

end FramebufferSpec

/-! ### Metadata -/

/-- What the kernel tells once. -/
structure FbFixScreeninfo where
  id : Vector UInt8 16
  smemLen : UInt32
  kind : UInt32
  visual : UInt32
  lineLength : UInt32

/-- What the kernel tells of the current mode. -/
structure FbVarScreeninfo where
  xres : UInt32
  yres : UInt32
  xresVirtual : UInt32
  yresVirtual : UInt32
  xoffset : UInt32
  yoffset : UInt32
  bitsPerPixel : UInt32
  grayscale : UInt32
  nonstd : UInt32
  rotate : UInt32

/-- What is known of an opened framebuffer. -/
structure FramebufferInfo where
  geometry : FramebufferGeometry
  spec : FramebufferSpec
  screen : ScreenLayout
  mappingLen : Nat
  deriving DecidableEq

/-- `b"hwtcon_v2"`. -/
def HWTCON_V2 : List UInt8 := [0x68, 0x77, 0x74, 0x63, 0x6f, 0x6e, 0x5f, 0x76, 0x32]

namespace FramebufferInfo

/-- `debugLossy` is `{:?}` of a lossy string. -/
def fromKernel [Platform] (debugLossy : List UInt8 → String) (fixed : FbFixScreeninfo)
    (var : FbVarScreeninfo) : Fallible FramebufferInfo := do
  let id := fixed.id.toList.takeWhile (· ≠ 0)
  ensure (id = HWTCON_V2) s!"unsupported framebuffer driver {debugLossy id}"
  ensure (var.rotate = 0) "rotated framebuffer is unsupported"
  ensure (var.xres ≤ 32767 ∧ var.yres ≤ 32767)
    "framebuffer dimensions exceed PaperPad physical coordinates"
  let width ← u16TryFrom var.xres
  let height ← u16TryFrom var.yres
  let screen ← required (ScreenLayout.new width height) "empty framebuffer screen"
  ensure (screen.systemUiRegion.height = SYSTEM_UI_HEIGHT ∧ 0 < screen.remoteViewport.height)
    "framebuffer is too short for remote content and local Exit strip"
  let geometry : FramebufferGeometry :=
    { xres := var.xres
      yres := var.yres
      xresVirtual := var.xresVirtual
      yresVirtual := var.yresVirtual
      xoffset := var.xoffset
      yoffset := var.yoffset
      bitsPerPixel := var.bitsPerPixel
      lineLength := fixed.lineLength
      smemLen := fixed.smemLen }
  let mappingLen ← context (visibleMappingLen geometry) "visible framebuffer bounds"
  let spec : FramebufferSpec :=
    { visibleWidth := var.xres
      visibleHeight := var.yres
      virtualWidth := var.xresVirtual
      virtualHeight := var.yresVirtual
      xoffset := var.xoffset
      yoffset := var.yoffset
      lineLength := fixed.lineLength.toNat
      memoryLen := fixed.smemLen.toNat
      kind := fixed.kind
      visual := fixed.visual
      bitsPerPixel := var.bitsPerPixel
      grayscale := var.grayscale
      nonstd := var.nonstd }
  spec.validateFormat
  return { geometry, spec, screen, mappingLen }

/-- The two regions of a screen that is tall enough for both. -/
def regionsOf (g : FramebufferGeometry) : ScreenLayout where
  physicalSize := (g.xres.toUInt16, g.yres.toUInt16)
  remoteViewport := ⟨0, 0, g.xres.toUInt16, g.yres.toUInt16 - SYSTEM_UI_HEIGHT⟩
  systemUiRegion :=
    ⟨0, g.yres.toUInt16 - SYSTEM_UI_HEIGHT, g.xres.toUInt16, SYSTEM_UI_HEIGHT⟩

/-- What accepted metadata are. -/
structure Accepted [Platform] (info : FramebufferInfo) : Prop where
  visible : Visible info.geometry
  mappingLen_eq : info.mappingLen =
    info.geometry.lineLength.toNat * (info.geometry.yoffset.toNat + info.geometry.yres.toNat)
  spec_matches : info.spec.Matches info.geometry
  format : info.spec.Format
  xres_le : info.geometry.xres.toNat ≤ 32767
  yres_le : info.geometry.yres.toNat ≤ 32767
  yres_gt : 72 < info.geometry.yres.toNat
  layout : ScreenLayout.new info.geometry.xres.toUInt16 info.geometry.yres.toUInt16 =
    some info.screen
  screen_eq : info.screen = regionsOf info.geometry

end FramebufferInfo

theorem u16TryFrom_of {value : UInt32} (h : value.toNat ≤ 32767) :
    u16TryFrom value = .ok value.toUInt16 :=
  if_pos (lt_of_le_of_lt h (by norm_num))

theorem u16TryFrom_bind_eq_ok {β : Type} {value : UInt32} {f : UInt16 → Fallible β} {b : β} :
    (u16TryFrom value >>= f) = .ok b ↔ value.toNat < 2 ^ 16 ∧ f value.toUInt16 = .ok b := by
  rw [u16TryFrom]
  by_cases h : value.toNat < 2 ^ 16
  · rw [if_pos h, ok_bind, and_iff_right h]
  · rw [if_neg h]
    constructor
    · intro e
      cases e
    · intro e
      exact absurd e.1 h

theorem toNat_toUInt16 {value : UInt32} (h : value.toNat ≤ 32767) :
    value.toUInt16.toNat = value.toNat := by
  rw [UInt32.toNat_toUInt16, Nat.mod_eq_of_lt (by omega)]

/-- A screen with a whole strip and some viewport above it. -/
theorem regionsOf_of_new {g : FramebufferGeometry} {l : ScreenLayout}
    (hx : g.xres.toNat ≤ 32767) (hy : g.yres.toNat ≤ 32767)
    (hl : ScreenLayout.new g.xres.toUInt16 g.yres.toUInt16 = some l)
    (hs : l.systemUiRegion.height = SYSTEM_UI_HEIGHT) (hr : 0 < l.remoteViewport.height) :
    72 < g.yres.toNat ∧ l = FramebufferInfo.regionsOf g := by
  have hwidth : min g.xres.toUInt16 I16_MAX = g.xres.toUInt16 := by
    refine if_pos (UInt16.le_iff_toNat_le.mpr ?_)
    rw [toNat_toUInt16 hx]
    exact hx
  have hheight : min g.yres.toUInt16 I16_MAX = g.yres.toUInt16 := by
    refine if_pos (UInt16.le_iff_toNat_le.mpr ?_)
    rw [toNat_toUInt16 hy]
    exact hy
  rw [ScreenLayout.new] at hl
  split_ifs at hl
  simp only [hwidth, hheight] at hl
  cases hl
  dsimp only at hs hr
  rw [hs] at hr
  have h72 : SYSTEM_UI_HEIGHT ≤ g.yres.toUInt16 := by
    by_contra h
    rw [show min g.yres.toUInt16 SYSTEM_UI_HEIGHT = g.yres.toUInt16 from
      if_pos (UInt16.le_of_lt (UInt16.not_le.mp h))] at hs
    exact h (hs ▸ UInt16.le_refl _)
  have hgt := UInt16.lt_iff_toNat_lt.mp hr
  rw [UInt16.toNat_sub_of_le _ _ h72, toNat_toUInt16 hy] at hgt
  exact ⟨Nat.lt_of_sub_pos hgt, by rw [hs]; rfl⟩

/-- **Opening accepts** only metadata of which everything the display relies on holds. -/
theorem accepted_of_fromKernel [Platform] {debugLossy : List UInt8 → String}
    {fixed : FbFixScreeninfo} {var : FbVarScreeninfo} {info : FramebufferInfo}
    (h : FramebufferInfo.fromKernel debugLossy fixed var = .ok info) : info.Accepted := by
  simp only [FramebufferInfo.fromKernel, FramebufferSpec.validateFormat, ensure_bind_eq_ok,
    u16TryFrom_bind_eq_ok, required_bind_eq_ok] at h
  obtain ⟨-, -, ⟨hx, hy⟩, -, -, screen, hscreen, ⟨hs, hr⟩, h⟩ := h
  obtain ⟨n, hn, h⟩ := bind_eq_ok.mp h
  obtain ⟨hformat, h⟩ := ensure_bind_eq_ok.mp h
  cases h
  obtain ⟨hvisible, rfl⟩ := visibleMappingLen_eq_ok.mp (context_eq_ok.mp hn)
  have hx' : var.xres.toNat ≤ 32767 := UInt32.le_iff_toNat_le.mp hx
  have hy' : var.yres.toNat ≤ 32767 := UInt32.le_iff_toNat_le.mp hy
  obtain ⟨h72, hregions⟩ := regionsOf_of_new (g := ⟨var.xres, var.yres, var.xresVirtual,
    var.yresVirtual, var.xoffset, var.yoffset, var.bitsPerPixel, fixed.lineLength,
    fixed.smemLen⟩) hx' hy' hscreen hs hr
  exact ⟨hvisible, rfl, ⟨rfl, rfl, rfl, rfl, rfl, rfl, rfl, rfl, rfl⟩, hformat, hx', hy', h72,
    hscreen, hregions⟩

/-- The size that was accepted is the one the kernel reported. -/
theorem xres_of_fromKernel [Platform] {debugLossy : List UInt8 → String}
    {fixed : FbFixScreeninfo} {var : FbVarScreeninfo} {info : FramebufferInfo}
    (h : FramebufferInfo.fromKernel debugLossy fixed var = .ok info) :
    info.geometry.xres = var.xres := by
  simp only [FramebufferInfo.fromKernel, FramebufferSpec.validateFormat, ensure_bind_eq_ok,
    u16TryFrom_bind_eq_ok, required_bind_eq_ok] at h
  obtain ⟨-, -, -, -, -, _, -, -, h⟩ := h
  obtain ⟨_, -, h⟩ := bind_eq_ok.mp h
  obtain ⟨-, h⟩ := ensure_bind_eq_ok.mp h
  cases h
  rfl

/-! ### The regions of accepted metadata -/

namespace FramebufferInfo.Accepted

variable [Platform] {info : FramebufferInfo} (h : info.Accepted)

include h

theorem viewport_origin :
    info.screen.remoteViewport.x.toNat = 0 ∧ info.screen.remoteViewport.y.toNat = 0 := by
  rw [h.screen_eq]
  exact ⟨rfl, rfl⟩

theorem height_toNat : (info.geometry.yres.toUInt16 - SYSTEM_UI_HEIGHT).toNat =
    info.geometry.yres.toNat - 72 := by
  have hyres := toNat_toUInt16 h.yres_le
  have hgt := h.yres_gt
  rw [UInt16.toNat_sub_of_le _ _ (UInt16.le_iff_toNat_le.mpr (by rw [hyres]; exact hgt.le)), hyres]
  rfl

theorem viewport_size :
    info.screen.remoteViewport.width.toNat = info.geometry.xres.toNat ∧
      info.screen.remoteViewport.height.toNat = info.geometry.yres.toNat - 72 := by
  rw [h.screen_eq]
  exact ⟨toNat_toUInt16 h.xres_le, h.height_toNat⟩

theorem strip_origin :
    info.screen.systemUiRegion.x.toNat = 0 ∧
      info.screen.systemUiRegion.y.toNat = info.geometry.yres.toNat - 72 := by
  rw [h.screen_eq]
  exact ⟨rfl, h.height_toNat⟩

theorem strip_size :
    info.screen.systemUiRegion.width.toNat = info.geometry.xres.toNat ∧
      info.screen.systemUiRegion.height = SYSTEM_UI_HEIGHT := by
  rw [h.screen_eq]
  exact ⟨toNat_toUInt16 h.xres_le, rfl⟩

theorem physicalSize_toUInt32 :
    info.screen.physicalSize.1.toUInt32 = info.geometry.xres ∧
      info.screen.physicalSize.2.toUInt32 = info.geometry.yres := by
  rw [h.screen_eq]
  constructor
  · rw [← UInt32.toNat_inj, UInt16.toNat_toUInt32]
    exact toNat_toUInt16 h.xres_le
  · rw [← UInt32.toNat_inj, UInt16.toNat_toUInt32]
    exact toNat_toUInt16 h.yres_le

/-- The screen is the layout of its own size. -/
theorem layout_self :
    ScreenLayout.new info.screen.physicalSize.1 info.screen.physicalSize.2 = some info.screen := by
  have hl := h.layout
  rw [h.screen_eq] at hl ⊢
  exact hl

/-- The width of the screen, in its own coordinates. -/
theorem physicalWidth_toNat :
    info.screen.physicalSize.1.toNat = info.geometry.xres.toNat := by
  rw [h.screen_eq]
  exact toNat_toUInt16 h.xres_le

/-- The visible span lies inside the virtual framebuffer. -/
theorem mappingLen_le :
    info.mappingLen ≤ info.geometry.lineLength.toNat * info.geometry.yresVirtual.toNat := by
  rw [h.mappingLen_eq]
  exact Nat.mul_le_mul_left _ h.visible.bottom_le

theorem mappingLen_pos : 0 < info.mappingLen := by
  have hgt := h.yres_gt
  rw [h.mappingLen_eq]
  exact Nat.mul_pos h.visible.lineLength_pos (by omega)

/-- A row of eight-bit pixels fits its line. -/
theorem line_ge : info.geometry.xresVirtual.toNat ≤ info.geometry.lineLength.toNat := by
  have hbits : info.geometry.bitsPerPixel = 8 := by
    rw [← h.spec_matches.2.2.2.2.2.2.1]
    exact h.format.2.2.1
  have hrow := h.visible.row_le
  rw [hbits, show (8 : UInt32).toNat = 8 from rfl] at hrow
  omega

end FramebufferInfo.Accepted

end PaperPad.Mxcfb
