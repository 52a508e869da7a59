import PaperPad.Mxcfb.Blit
import PaperPad.Mxcfb.Mapped

/-!
# Mxcfb — Atomic

`write_prepared` and `write_system_ui` on any writable mapping, for any prepared frame, any strip
and any specification.  The checks before the first store imply those of the stores, so a write
fails before it has changed a byte, or is done as a whole (`mapped_writes_atomic`).
-/

namespace PaperPad.Mxcfb

open Protocol Device Fallible Raster

/-- The byte of a pixel of a region of the visible page. -/
def visibleIndex (g : FramebufferGeometry) (region : ScreenRect) (x y : Nat) : Nat :=
  (g.yoffset.toNat + region.y.toNat + y) * g.lineLength.toNat +
    (g.xoffset.toNat + region.x.toNat) + x

/-- The rows of the region hold the pixels, and the rest is as it was. -/
structure Stored (g : FramebufferGeometry) (region : ScreenRect)
    (pixel : Nat → Nat → Option UInt8) (before after : List UInt8) : Prop where
  length : after.length = before.length
  inside : ∀ x y, x < region.width.toNat → y < region.height.toNat →
    visibleIndex g region x y < before.length ∧ after[visibleIndex g region x y]? = pixel x y
  outside : ∀ i, (∀ x y, x < region.width.toNat → y < region.height.toNat →
    i ≠ visibleIndex g region x y) → after[i]? = before[i]?

/-- A write to a mapping is done as a whole, or not at all. -/
structure Atomic [Platform] (m : WritableFramebuffer)
    (write : Fallible ScreenRect × WritableFramebuffer) (region : ScreenRect)
    (pixel : Nat → Nat → Option UInt8) : Prop where
  noPanic : NoPanic write.1
  unchanged : ∀ e, write.1 = .error e → write.2.bytes = m.bytes
  stored : ∀ r, write.1 = .ok r → r = region ∧ Stored m.geometry region pixel m.bytes write.2.bytes

/-- Some frame was prepared, for this framebuffer or another. -/
def PreparedRemote.Prepared [Platform] (p : PreparedRemote) : Prop :=
  ∃ w h screen, ScreenLayout.new w h = some screen ∧
    ∃ frameId width height pixelFormat stride pixels frame,
      RemoteFrame.new frameId width height pixelFormat stride pixels = .ok frame ∧
        ∃ spec mappedLen, prepareRemote frame screen spec mappedLen = .ok p

/-- Pixel `x` of row `y`. -/
def PreparedRemote.pixel (p : PreparedRemote) (x y : Nat) : Option UInt8 :=
  p.rows[y]?.bind fun (_, row) => row[x]?

/-- Pixel `x` of row `y`. -/
def SystemUiPixels.pixel (pixels : SystemUiPixels) (x y : Nat) : Option UInt8 :=
  pixels.bytes[y * pixels.stride + x]?

section Outcomes

variable [Platform] {m m' : WritableFramebuffer} {region : ScreenRect}
  {pixel : Nat → Nat → Option UInt8}

/-- A write that fails its checks. -/
theorem Atomic.failed {e : Failure} (h : NoPanic (.error e : Fallible ScreenRect)) :
    Atomic m (.error e, m) region pixel where
  noPanic := h
  unchanged _ _ := rfl
  stored r hr := by cases hr

/-- A write that is done. -/
theorem Atomic.done (h : Stored m.geometry region pixel m.bytes m'.bytes) :
    Atomic m (.ok region, m') region pixel where
  noPanic := noPanic_ok region
  unchanged e he := by cases he
  stored r hr := by
    cases hr
    exact ⟨rfl, h⟩

end Outcomes

section Stored

variable {g : FramebufferGeometry} {region : ScreenRect} {before : List UInt8}
  {row : Nat → List UInt8}

/-- Rows written where the region lies store it. -/
theorem stored_of_writeRows
    (hfit : Fits before ((g.yoffset.toNat + region.y.toNat) * g.lineLength.toNat +
      (g.xoffset.toNat + region.x.toNat)) g.lineLength.toNat region.width.toNat
      region.height.toNat row)
    {pixel : Nat → Nat → Option UInt8}
    (hpixel : ∀ x y, x < region.width.toNat → y < region.height.toNat → (row y)[x]? = pixel x y) :
    Stored g region pixel before (writeRows before
      ((g.yoffset.toNat + region.y.toNat) * g.lineLength.toNat +
        (g.xoffset.toNat + region.x.toNat)) g.lineLength.toNat region.height.toNat row) := by
  have hindex : ∀ x y, visibleIndex g region x y =
      (g.yoffset.toNat + region.y.toNat) * g.lineLength.toNat +
        (g.xoffset.toNat + region.x.toNat) + y * g.lineLength.toNat + x := by
    intro x y
    rw [visibleIndex, Nat.add_mul _ y, Nat.add_right_comm _ (y * _)]
  constructor
  case length => exact length_writeRows hfit
  case inside =>
      intro x y hx hy
      have hend := hfit.inside y hy
      rw [hindex]
      refine ⟨by omega, ?_⟩
      rw [getElem?_writeRows_inside hfit hy hx]
      exact hpixel x y hx hy
  case outside =>
      intro i hi
      refine getElem?_writeRows_of_ne hfit fun x y hx hy => ?_
      rw [← hindex]
      exact hi x y hx hy

end Stored

theorem noPanic_u16TryFrom (value : UInt32) : NoPanic (u16TryFrom value) := by
  intro h
  rw [u16TryFrom] at h
  split at h <;> cases h

theorem toNat_of_u16TryFrom {value : UInt32} {v : UInt16} (h : u16TryFrom value = .ok v) :
    v.toNat = value.toNat := by
  rw [u16TryFrom] at h
  split at h
  · next hlt =>
      rw [← Except.ok.inj h, UInt32.toNat_toUInt16]
      exact Nat.mod_eq_of_lt hlt
  · cases h

namespace WritableFramebuffer

variable [Platform] {m : WritableFramebuffer}

theorem noPanic_checkRange (m : WritableFramebuffer) (offset length : Nat) :
    NoPanic (m.checkRange offset length) :=
  (noPanic_required _ _).bind fun _ => noPanic_ensure _ _

theorem noPanic_checkPrepared (m : WritableFramebuffer) (p : PreparedRemote) :
    NoPanic (m.checkPrepared p) :=
  (noPanic_ensure _ _).bind fun _ => (noPanic_ensure _ _).bind fun _ =>
    noPanic_forM (fun _ => m.noPanic_checkRange _ _) _

theorem noPanic_checkSystemUi (m : WritableFramebuffer) (pixels : SystemUiPixels)
    (spec : FramebufferSpec) : NoPanic (m.checkSystemUi pixels spec) :=
  (noPanic_ensure _ _).bind fun _ => (noPanic_ensure _ _).bind fun _ =>
    (noPanic_u16TryFrom _).bind fun _ => (noPanic_u16TryFrom _).bind fun _ =>
    (noPanic_required _ _).bind fun _ => (noPanic_ensure _ _).bind fun _ =>
    (noPanic_ensure _ _).bind fun _ => (noPanic_required _ _).bind fun _ =>
    (noPanic_ensure _ _).bind fun _ => (noPanic_required _ _).bind fun _ =>
    (noPanic_required _ _).bind fun _ =>
    noPanic_mapM (fun _ => (noPanic_required _ _).bind fun _ =>
      (m.noPanic_checkRange _ _).bind fun _ => noPanic_ok _) _

/-! ### A prepared frame -/

theorem checkPrepared_eq_ok {p : PreparedRemote} (h : m.checkPrepared p = .ok ()) :
    p.spec.Matches m.geometry ∧ p.mappedLen = m.bytes.length := by
  obtain ⟨hmatches, h⟩ := ensure_bind_eq_ok.mp h
  obtain ⟨hlen, -⟩ := ensure_bind_eq_ok.mp h
  exact ⟨of_decide_eq_true hmatches, hlen⟩

theorem writePrepared_atomic {p : PreparedRemote} (hp : p.Prepared) :
    Atomic m (m.writePrepared p) p.region p.pixel := by
  obtain ⟨w, h, screen, hl, frameId, _, _, _, _, _, frame, hframe, spec, mappedLen, hprepare⟩ := hp
  obtain ⟨-, f, rfl⟩ := RemoteFrame.new_eq_ok.mp hframe
  obtain ⟨hlen, firstX, firstY, stop, hb⟩ := blits_of_prepareRemote hprepare
  obtain ⟨p', hp', hprepares⟩ := exists_prepares hl hlen hb
  obtain rfl := Except.ok.inj (hprepare.symm.trans hp')
  cases hc : m.checkPrepared p with
  | error e =>
      have hwrite : m.writePrepared p = (.error e, m) := by rw [writePrepared, hc]
      rw [hwrite]
      exact .failed ((m.noPanic_checkPrepared p).error hc)
  | ok _ =>
      obtain ⟨hmatches, hmapped⟩ := checkPrepared_eq_ok hc
      rw [hprepares.spec_eq] at hmatches
      obtain rfl : mappedLen = m.bytes.length := hprepares.mappedLen_eq.symm.trans hmapped
      have hfit := hb.fits rfl (by have := hb.line_ge_width hl; omega)
      obtain ⟨m', hwrite, hbytes, -⟩ := writePrepared_of hprepares hmatches hfit
      rw [hwrite, hprepares.region_eq]
      refine .done ?_
      obtain ⟨-, -, -, -, hxo, hyo, -, hline, -⟩ := hmatches
      have hwidth : f.width = screen.remoteViewport.width := hb.size.1
      have hheight : f.height = screen.remoteViewport.height := hb.size.2
      rw [hb.firstX_eq, hb.firstY_eq, hxo, hyo, ← hline] at hbytes hfit
      rw [hwidth, hheight] at hfit
      rw [hbytes, hheight]
      refine stored_of_writeRows hfit fun x y _ hy => ?_
      rw [← hheight] at hy
      rw [PreparedRemote.pixel, hprepares.rows_eq, List.getElem?_map, List.getElem?_range hy]
      rfl

/-! ### The strip -/

/-- What the checks of a strip establish. -/
structure ChecksStrip (m : WritableFramebuffer) (pixels : SystemUiPixels) (spec : FramebufferSpec)
    (offsets : List Nat) : Prop where
  spec_matches : spec.Matches m.geometry
  format : spec.Format
  width_le : pixels.region.width.toNat ≤ spec.visibleWidth.toNat
  height_eq : pixels.region.height.toNat = 72
  stride_eq : pixels.stride = pixels.region.width.toNat
  length_eq : pixels.bytes.length = pixels.region.width.toNat * 72
  offsets_eq : offsets = (List.range 72).map fun row =>
    (spec.yoffset.toNat + pixels.region.y.toNat + row) * spec.lineLength +
      (spec.xoffset.toNat + pixels.region.x.toNat)
  inside : ∀ row < 72, (spec.yoffset.toNat + pixels.region.y.toNat + row) * spec.lineLength +
    (spec.xoffset.toNat + pixels.region.x.toNat) + pixels.region.width.toNat ≤ m.bytes.length

theorem checksStrip_of_eq_ok {pixels : SystemUiPixels} {spec : FramebufferSpec}
    {offsets : List Nat} (h : m.checkSystemUi pixels spec = .ok offsets) :
    ChecksStrip m pixels spec offsets := by
  obtain ⟨hformat, h⟩ := ensure_bind_eq_ok.mp h
  obtain ⟨hmatches, h⟩ := ensure_bind_eq_ok.mp h
  obtain ⟨screenWidth, hwidth, h⟩ := bind_eq_ok.mp h
  obtain ⟨screenHeight, -, h⟩ := bind_eq_ok.mp h
  obtain ⟨screen, hl, h⟩ := required_bind_eq_ok.mp h
  obtain ⟨⟨hregion, hheight⟩, h⟩ := ensure_bind_eq_ok.mp h
  obtain ⟨hstride, h⟩ := ensure_bind_eq_ok.mp h
  obtain ⟨expected, hexpected, h⟩ := required_bind_eq_ok.mp h
  obtain ⟨hlen, h⟩ := ensure_bind_eq_ok.mp h
  obtain ⟨firstX, hx, h⟩ := required_bind_eq_ok.mp h
  obtain ⟨firstY, hy, h⟩ := required_bind_eq_ok.mp h
  obtain ⟨-, rfl⟩ := checkedMul_eq_some.mp hexpected
  obtain ⟨-, rfl⟩ := checkedAdd_eq_some.mp hx
  obtain ⟨-, rfl⟩ := checkedAdd_eq_some.mp hy
  have h72 : pixels.region.height.toNat = 72 := congrArg UInt16.toNat hheight
  rw [h72] at hlen h
  have sizes := ScreenLayout.sizes hl
  have hle := sizes.width
  rw [toNat_of_u16TryFrom hwidth] at hle
  -- a row is checked at its offset
  have hrow : ∀ row offset, (do
      let offset ← required
        (((checkedAdd (spec.yoffset.toNat + pixels.region.y.toNat) row).bind
          (checkedMul · spec.lineLength)).bind
            (checkedAdd · (spec.xoffset.toNat + pixels.region.x.toNat)))
        "system UI row offset overflow"
      m.checkRange offset pixels.region.width.toNat
      return offset) = .ok offset →
      offset = (spec.yoffset.toNat + pixels.region.y.toNat + row) * spec.lineLength +
        (spec.xoffset.toNat + pixels.region.x.toNat) ∧
      offset + pixels.region.width.toNat ≤ m.bytes.length := by
    intro row offset h
    obtain ⟨o, ho, h⟩ := required_bind_eq_ok.mp h
    obtain ⟨u, hcheck, h⟩ := bind_eq_ok.mp h
    cases h
    simp only [Option.bind_eq_some_iff, checkedAdd_eq_some, checkedMul_eq_some] at ho
    obtain ⟨_, ⟨_, ⟨-, rfl⟩, -, rfl⟩, -, rfl⟩ := ho
    exact ⟨rfl, (checkRange_eq_ok.mp hcheck).2⟩
  obtain ⟨hall, hoffsets⟩ := of_mapM (fun row offset h => (hrow row offset h).1) h
  refine ⟨of_decide_eq_true hmatches, hformat, ?_, h72, hstride, hlen, hoffsets, fun row hr => ?_⟩
  · rw [hregion, sizes.strip_width, hle]
    exact Nat.min_le_left _ _
  · exact (hrow row _ (hall row (List.mem_range.mpr hr))).2

/-- The rows of a checked strip fit the mapping. -/
theorem ChecksStrip.fits {pixels : SystemUiPixels} {spec : FramebufferSpec} {offsets : List Nat}
    (h : ChecksStrip m pixels spec offsets) :
    Fits m.bytes ((spec.yoffset.toNat + pixels.region.y.toNat) * spec.lineLength +
      (spec.xoffset.toNat + pixels.region.x.toNat)) spec.lineLength pixels.region.width.toNat 72
      (stripRow pixels.region.width.toNat pixels.bytes) where
  length_row _ hr := length_stripRow h.length_eq hr
  width_le := by
    obtain ⟨hvisible, -⟩ := visibleMappingLen_eq_ok.mp m.length_eq
    obtain ⟨hvw, -, -, -, -, -, hbits, hline, -⟩ := h.spec_matches
    have h8 : m.geometry.bitsPerPixel.toNat = 8 := by
      rw [← hbits, h.format.2.2.1]
      rfl
    have hwidth := h.width_le
    have hright := hvisible.right_le
    have hrow := hvisible.row_le
    rw [hvw] at hwidth
    rw [h8] at hrow
    omega
  inside r hr := by
    have hinside := h.inside r hr
    rw [Nat.add_mul _ r] at hinside
    omega

theorem writeSystemUi_atomic (pixels : SystemUiPixels) (spec : FramebufferSpec) :
    Atomic m (m.writeSystemUi pixels spec) pixels.region pixels.pixel := by
  cases hc : m.checkSystemUi pixels spec with
  | error e =>
      have hwrite : m.writeSystemUi pixels spec = (.error e, m) := by rw [writeSystemUi, hc]
      rw [hwrite]
      exact .failed ((m.noPanic_checkSystemUi pixels spec).error hc)
  | ok offsets =>
      have hstrip := checksStrip_of_eq_ok hc
      have hfit := hstrip.fits
      obtain ⟨m', hloop, hbytes, -⟩ := sweep_writes hfit (writeSystemUiRow pixels)
        (fun row => ((spec.yoffset.toNat + pixels.region.y.toNat + row) * spec.lineLength +
          (spec.xoffset.toNat + pixels.region.x.toNat), row)) fun r hr k => by
            rw [writeSystemUiRow_of (stripRow_le hstrip.length_eq hr), Nat.add_mul _ r,
              Nat.add_right_comm]
      have hwrite : m.writeSystemUi pixels spec = (.ok pixels.region, m') := by
        rw [writeSystemUi, hc]
        dsimp only
        rw [hstrip.offsets_eq, zipIdx_map_range, hloop]
        rfl
      rw [hwrite]
      refine .done ?_
      obtain ⟨-, -, -, -, hxo, hyo, -, hline, -⟩ := hstrip.spec_matches
      rw [hxo, hyo, ← hline] at hbytes hfit
      rw [← hstrip.height_eq] at hbytes hfit
      rw [hbytes]
      refine stored_of_writeRows hfit fun x y hx hy => ?_
      rw [SystemUiPixels.pixel, hstrip.stride_eq, stripRow]
      exact getElem?_slice (by rw [Nat.succ_mul]; omega)

end WritableFramebuffer

/-- **Mapped writes are atomic**, whatever they are given: a write fails before its first store,
or stores its region, pixel by pixel, and nothing else. -/
theorem mapped_writes_atomic [Platform] (m : WritableFramebuffer) {prepared : PreparedRemote}
    (hp : prepared.Prepared) (pixels : SystemUiPixels) (spec : FramebufferSpec) :
    Atomic m (m.writePrepared prepared) prepared.region prepared.pixel ∧
      Atomic m (m.writeSystemUi pixels spec) pixels.region pixels.pixel :=
  ⟨WritableFramebuffer.writePrepared_atomic hp,
    WritableFramebuffer.writeSystemUi_atomic pixels spec⟩

/-- The framebuffer of `pageSpec`. -/
def pageFramebuffer : @WritableFramebuffer .usize64 :=
  letI : Platform := .usize64
  { bytes := page
    geometry := ⟨10, 74, 12, 80, 1, 2, 8, 13, 1040⟩
    length_eq := by rw [page, List.length_replicate]; rfl
    length_le := by rw [page, List.length_replicate]; decide }

/-- A strip of 72 rows of ten columns. -/
def pageStrip : SystemUiPixels := ⟨⟨0, 2, 10, 72⟩, 10, (List.range 720).map UInt8.ofNat⟩

theorem prepareRemote_page {frame : RemoteFrame} (hframe : frame = grayPage ∨ frame = monoPage) :
    ∃ p, @prepareRemote .usize64 frame pageScreen pageSpec 988 = .ok p := by
  let platform : Platform := .usize64
  have hl : ScreenLayout.new 10 74 = some pageScreen := by decide
  obtain ⟨f, stop, hf, hb⟩ := blits_page hframe
  obtain ⟨p, hp, -⟩ := exists_prepares hl stagingLen_page hb
  rw [hf]
  exact ⟨p, hp⟩

/-- A frame of each format, and the strip below it. -/
theorem mapped_writes_atomic_page :
    ∃ gray mono, @prepareRemote .usize64 grayPage pageScreen pageSpec 988 = .ok gray ∧
      @prepareRemote .usize64 monoPage pageScreen pageSpec 988 = .ok mono ∧
      @Atomic .usize64 pageFramebuffer
        (@WritableFramebuffer.writePrepared .usize64 pageFramebuffer gray) gray.region gray.pixel ∧
      @Atomic .usize64 pageFramebuffer
        (@WritableFramebuffer.writePrepared .usize64 pageFramebuffer mono) mono.region mono.pixel ∧
      @Atomic .usize64 pageFramebuffer
        (@WritableFramebuffer.writeSystemUi .usize64 pageFramebuffer pageStrip pageSpec)
        pageStrip.region pageStrip.pixel := by
  obtain ⟨gray, hgray⟩ := prepareRemote_page (.inl rfl : grayPage = grayPage ∨ grayPage = monoPage)
  obtain ⟨mono, hmono⟩ := prepareRemote_page (.inr rfl : monoPage = grayPage ∨ monoPage = monoPage)
  obtain ⟨h, hstrip⟩ := @mapped_writes_atomic .usize64 pageFramebuffer gray
    ⟨10, 74, pageScreen, by decide, 7, 10, 2, .gray8, 10, grayPage.pixels, grayPage, rfl, pageSpec, 988, hgray⟩
    pageStrip pageSpec
  have h' := (@mapped_writes_atomic .usize64 pageFramebuffer mono
    ⟨10, 74, pageScreen, by decide, 8, 10, 2, .mono1, 2, monoPage.pixels, monoPage, rfl, pageSpec, 988, hmono⟩
    pageStrip pageSpec).1
  exact ⟨gray, mono, hgray, hmono, h, h', hstrip⟩

end PaperPad.Mxcfb
