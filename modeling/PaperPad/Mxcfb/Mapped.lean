import PaperPad.Mxcfb.Pixels
import PaperPad.Mxcfb.SystemPixels

/-!
# Mxcfb — Mapped

The writable mapping of the visible framebuffer, `src/mxcfb/mapped.rs`.  A `WritableFramebuffer`
is as long as its geometry says and at most `isize::MAX` bytes, which its fields carry.  The rows
of a frame and of the local strip are all checked before the first of them is written.

`writePrepared_of` and `writeSystemUi_of` say when a write succeeds and what the mapping holds
then.
-/

namespace PaperPad.Mxcfb

open Protocol Device Fallible Raster

/-- A mapping, as long as its geometry asks. -/
structure WritableFramebuffer [Platform] where
  bytes : List UInt8
  geometry : FramebufferGeometry
  length_eq : visibleMappingLen geometry = .ok bytes.length
  length_le : bytes.length ≤ isizeMax

/-- What `mmap` answers; `contents` is the memory it maps. -/
inductive MmapOutcome where
  | failed (error : String)
  | null (munmapError : Option String)
  | mapped (contents : Nat → UInt8)

theorem length_map_range (contents : Nat → UInt8) (n : Nat) :
    ((List.range n).map contents).length = n := by
  rw [List.length_map, List.length_range]

/-- Row `y` of a strip. -/
def stripRow (width : Nat) (bytes : List UInt8) (y : Nat) : List UInt8 :=
  slice bytes (y * width) ((y + 1) * width)

theorem stripRow_le {width : Nat} {bytes : List UInt8} (hlen : bytes.length = width * 72) {r : Nat}
    (hr : r < 72) : (r + 1) * width ≤ bytes.length := by
  rw [hlen, Nat.mul_comm _ 72]
  exact Nat.mul_le_mul_right _ hr

theorem length_stripRow {width : Nat} {bytes : List UInt8} (hlen : bytes.length = width * 72)
    {r : Nat} (hr : r < 72) : (stripRow width bytes r).length = width := by
  rw [stripRow, length_slice (stripRow_le hlen hr), Nat.succ_mul, Nat.add_sub_cancel_left]

theorem zipIdx_map_range {α : Type} (f : Nat → α) (n : Nat) :
    ((List.range n).map f).zipIdx = (List.range n).map fun r => (f r, r) := by
  apply List.ext_getElem?
  intro i
  by_cases hi : i < n
  · simp [hi]
  · simp [hi]

namespace WritableFramebuffer

variable [Platform]

/-- Map the visible rows, if `mmap` does. -/
def mapVisible (geometry : FramebufferGeometry) (mmap : MmapOutcome) :
    Fallible WritableFramebuffer :=
  match h : visibleMappingLen geometry with
  | .error e => context (.error e) "writable framebuffer geometry"
  | .ok len =>
      if hl : len ≤ isizeMax then
        match mmap with
        | .failed error => .error (.error ["mmap writable framebuffer", error])
        | .null (some error) => .error (.error ["munmap null framebuffer mapping", error])
        | .null none => .error (.error ["mmap returned a null framebuffer address"])
        | .mapped contents =>
            .ok
              { bytes := (List.range len).map contents
                geometry
                length_eq := by rw [length_map_range, h]
                length_le := by rwa [length_map_range] }
      else .error (.error ["framebuffer mapping too large"])

/-- The bytes to be written are in the mapping. -/
def checkRange (m : WritableFramebuffer) (offset length : Nat) : Fallible Unit := do
  let stop ← required (checkedAdd offset length) "framebuffer write offset overflow"
  ensure (stop ≤ m.bytes.length) "framebuffer write exceeds mapping"

theorem checkRange_eq_ok {m : WritableFramebuffer} {offset length : Nat} {u : Unit} :
    m.checkRange offset length = .ok u ↔
      offset + length < 2 ^ Platform.usizeBits ∧ offset + length ≤ m.bytes.length := by
  simp only [checkRange, required_bind_eq_ok, checkedAdd_eq_some, ensure_eq_ok]
  constructor
  · rintro ⟨_, ⟨hlt, rfl⟩, hle⟩
    exact ⟨hlt, hle⟩
  · rintro ⟨hlt, hle⟩
    exact ⟨_, ⟨hlt, rfl⟩, hle⟩

theorem length_store {m : WritableFramebuffer} {offset : Nat} {bytes : List UInt8} {u : Unit}
    (h : m.checkRange offset bytes.length = .ok u) :
    (splice m.bytes offset bytes).length = m.bytes.length :=
  length_splice (checkRange_eq_ok.mp h).2

/-- Write a fully in-bounds byte run.  A bad range changes no bytes. -/
def writeAt (m : WritableFramebuffer) (offset : Nat) (bytes : List UInt8) :
    Fallible Unit × WritableFramebuffer :=
  match h : m.checkRange offset bytes.length with
  | .error e => (.error e, m)
  | .ok () =>
      (.ok (),
        { m with
          bytes := splice m.bytes offset bytes
          length_eq := by rw [length_store h]; exact m.length_eq
          length_le := by rw [length_store h]; exact m.length_le })

/-- The mapping is of the framebuffer the frame was prepared for. -/
def matchesSpec (m : WritableFramebuffer) (spec : FramebufferSpec) : Bool :=
  decide (spec.Matches m.geometry)

/-- The checks before the first store of a frame. -/
def checkPrepared (m : WritableFramebuffer) (prepared : PreparedRemote) : Fallible Unit := do
  ensure (m.matchesSpec prepared.spec = true)
    "prepared frame and writable mapping geometry differ"
  ensure (prepared.mappedLen = m.bytes.length)
    "prepared frame and writable mapping lengths differ"
  prepared.rows.forM fun (offset, row) => m.checkRange offset row.length

/-- Write only the remote rows of a fully prepared frame. -/
def writePrepared (m : WritableFramebuffer) (prepared : PreparedRemote) :
    Fallible ScreenRect × WritableFramebuffer :=
  match m.checkPrepared prepared with
  | .error e => (.error e, m)
  | .ok () =>
      let (result, m) := sweep (fun m (offset, row) => m.writeAt offset row) m prepared.rows
      (result.map fun _ => prepared.region, m)

/-- The checks before the first store of the strip; the offsets of its rows. -/
def checkSystemUi (m : WritableFramebuffer) (pixels : SystemUiPixels) (spec : FramebufferSpec) :
    Fallible (List Nat) := do
  spec.validateFormat
  ensure (m.matchesSpec spec = true) "system UI and writable mapping geometry differ"
  let screenWidth ← u16TryFrom spec.visibleWidth
  let screenHeight ← u16TryFrom spec.visibleHeight
  let screen ← required (ScreenLayout.new screenWidth screenHeight) "empty system UI screen"
  ensure (pixels.region = screen.systemUiRegion ∧ pixels.region.height = SYSTEM_UI_HEIGHT)
    "system UI pixels do not cover exactly the local strip"
  let width := pixels.region.width.toNat
  let height := pixels.region.height.toNat
  ensure (pixels.stride = width) "system UI pixel stride mismatch"
  let expected ← required (checkedMul width height) "system UI byte length overflow"
  ensure (pixels.bytes.length = expected) "system UI pixel length mismatch"
  let firstX ← required (checkedAdd spec.xoffset.toNat pixels.region.x.toNat)
    "system UI horizontal offset overflow"
  let firstY ← required (checkedAdd spec.yoffset.toNat pixels.region.y.toNat)
    "system UI vertical offset overflow"
  (List.range height).mapM fun row => do
    let offset ← required
      (((checkedAdd firstY row).bind (checkedMul · spec.lineLength)).bind (checkedAdd · firstX))
      "system UI row offset overflow"
    m.checkRange offset width
    return offset

/-- Row `row` of the strip, written at its offset. -/
def writeSystemUiRow (pixels : SystemUiPixels) (m : WritableFramebuffer) :
    Nat × Nat → Fallible Unit × WritableFramebuffer
  | (offset, row) =>
      let width := pixels.region.width.toNat
      match inBounds ((row + 1) * width ≤ pixels.bytes.length) with
      | .error e => (.error e, m)
      | .ok () => m.writeAt offset (slice pixels.bytes (row * width) ((row + 1) * width))

/-- Write only the local system strip. -/
def writeSystemUi (m : WritableFramebuffer) (pixels : SystemUiPixels) (spec : FramebufferSpec) :
    Fallible ScreenRect × WritableFramebuffer :=
  match m.checkSystemUi pixels spec with
  | .error e => (.error e, m)
  | .ok offsets =>
      let (result, m) := sweep (writeSystemUiRow pixels) m offsets.zipIdx
      (result.map fun _ => pixels.region, m)

/-! ### Facts -/

variable {m : WritableFramebuffer}

theorem geometry_of_mapVisible {geometry : FramebufferGeometry} {mmap : MmapOutcome}
    (h : mapVisible geometry mmap = .ok m) : m.geometry = geometry := by
  rw [mapVisible] at h
  split at h
  · cases context_eq_ok.mp h
  · split at h
    · split at h
      · cases h
      · cases h
      · cases h
      · cases h
        rfl
    · cases h

theorem mapVisible_of {geometry : FramebufferGeometry} {bytes : List UInt8}
    (h : visibleMappingLen geometry = .ok bytes.length) (hmax : bytes.length ≤ isizeMax) :
    ∃ m, mapVisible geometry (.mapped fun i => bytes.getD i 0) = .ok m ∧ m.bytes = bytes := by
  rw [mapVisible]
  split
  · next e he =>
      rw [h] at he
      cases he
  · next len he =>
      obtain rfl := Except.ok.inj (he.symm.trans h)
      rw [dif_pos hmax]
      refine ⟨_, rfl, List.ext_getElem? fun i => ?_⟩
      by_cases hi : i < bytes.length
      · simp [hi]
      · simp [hi]

theorem geometry_writeAt (m : WritableFramebuffer) (offset : Nat) (bytes : List UInt8) :
    (m.writeAt offset bytes).2.geometry = m.geometry := by
  rw [writeAt]
  split
  · rfl
  · rfl

theorem geometry_writePrepared (m : WritableFramebuffer) (prepared : PreparedRemote) :
    (m.writePrepared prepared).2.geometry = m.geometry := by
  rw [writePrepared]
  split
  · rfl
  · refine sweep_keeps (fun k : WritableFramebuffer => k.geometry = m.geometry) (fun a k hk => ?_)
      rfl
    exact (k.geometry_writeAt _ _).trans hk

theorem geometry_writeSystemUi (m : WritableFramebuffer) (pixels : SystemUiPixels)
    (spec : FramebufferSpec) : (m.writeSystemUi pixels spec).2.geometry = m.geometry := by
  rw [writeSystemUi]
  split
  · rfl
  · refine sweep_keeps (fun k : WritableFramebuffer => k.geometry = m.geometry) (fun a k hk => ?_)
      rfl
    rw [writeSystemUiRow]
    split
    · exact hk
    · exact (k.geometry_writeAt _ _).trans hk

/-- The bytes of a mapping are counted by a `usize`. -/
theorem length_lt (m : WritableFramebuffer) : m.bytes.length < 2 ^ Platform.usizeBits := by
  obtain ⟨hv, hlen⟩ := visibleMappingLen_eq_ok.mp m.length_eq
  rw [hlen]
  exact lt_of_le_of_lt (Nat.mul_le_mul_left _ hv.bottom_le) hv.bytes_lt

theorem checkRange_of {offset length : Nat} (h : offset + length ≤ m.bytes.length) :
    m.checkRange offset length = .ok () :=
  checkRange_eq_ok.mpr ⟨lt_of_le_of_lt h m.length_lt, h⟩

/-- **A store inside the mapping** is made, and nothing else is. -/
theorem writeAt_of {offset : Nat} {bytes : List UInt8}
    (h : offset + bytes.length ≤ m.bytes.length) :
    ∃ m', m.writeAt offset bytes = (.ok (), m') ∧ m'.bytes = splice m.bytes offset bytes ∧
      m'.geometry = m.geometry := by
  rw [writeAt]
  split
  · next e he =>
      rw [checkRange_of h] at he
      cases he
  · exact ⟨_, rfl, rfl, rfl⟩

section Rows

variable {α : Type} {start line width n : Nat} {row : Nat → List UInt8}

/-- **Rows inside the mapping** are written, in whatever way the loop goes over them. -/
theorem sweep_writes (hfit : Fits m.bytes start line width n row)
    (step : WritableFramebuffer → α → Fallible Unit × WritableFramebuffer) (item : Nat → α)
    (hstep : ∀ y < n, ∀ m', step m' (item y) = m'.writeAt (start + y * line) (row y)) :
    ∃ m', sweep step m ((List.range n).map item) = (.ok (), m') ∧
      m'.bytes = writeRows m.bytes start line n row ∧ m'.geometry = m.geometry := by
  have hinv : ∀ y ∈ List.range n, ∀ (k : WritableFramebuffer) (t : List UInt8),
      k.bytes = t ∧ k.geometry = m.geometry ∧ t.length = m.bytes.length →
      ∃ k', step k (item y) = (.ok (), k') ∧ k'.bytes = splice t (start + y * line) (row y) ∧
        k'.geometry = m.geometry ∧
        (splice t (start + y * line) (row y)).length = m.bytes.length := by
    rintro y hy k _ ⟨rfl, hgeometry, hlen⟩
    have hy := List.mem_range.mp hy
    have hle : start + y * line + (row y).length ≤ k.bytes.length := by
      rw [hfit.length_row y hy, hlen]
      exact hfit.inside y hy
    obtain ⟨k', hwrite, hbytes, hsame⟩ := writeAt_of hle
    rw [hstep y hy]
    exact ⟨k', hwrite, hbytes, hsame.trans hgeometry, (length_splice hle).trans hlen⟩
  obtain ⟨m', hloop, hbytes, hgeometry, -⟩ := sweep_simulates _ _ hinv ⟨rfl, rfl, rfl⟩
  rw [sweep_map]
  exact ⟨m', hloop, hbytes, hgeometry⟩

end Rows

/-- **A prepared frame** is written where its rows fit the mapping. -/
theorem writePrepared_of {f : Frame} {screen : ScreenLayout} {spec : FramebufferSpec} {start : Nat}
    {p : PreparedRemote} (hp : Prepares f screen spec m.bytes.length start p)
    (hspec : spec.Matches m.geometry)
    (hfit : Fits m.bytes start spec.lineLength f.width.toNat f.height.toNat (frameRow f)) :
    ∃ m', m.writePrepared p = (.ok screen.remoteViewport, m') ∧
      m'.bytes = writeRows m.bytes start spec.lineLength f.height.toNat (frameRow f) ∧
      m'.geometry = m.geometry := by
  have hcheck : m.checkPrepared p = .ok () := by
    have hmatches : m.matchesSpec p.spec = true := by
      rw [hp.spec_eq]
      exact decide_eq_true hspec
    rw [checkPrepared, ensure_bind hmatches, ensure_bind hp.mappedLen_eq, hp.rows_eq]
    refine forM_of fun a ha => ?_
    obtain ⟨y, hy, rfl⟩ := List.mem_map.mp ha
    have hy := List.mem_range.mp hy
    refine checkRange_of ?_
    rw [hfit.length_row y hy]
    exact hfit.inside y hy
  obtain ⟨m', hloop, hbytes, hgeometry⟩ := sweep_writes hfit
    (fun m (offset, row) => m.writeAt offset row)
    (fun y => (start + y * spec.lineLength, frameRow f y)) fun _ _ _ => rfl
  refine ⟨m', ?_, hbytes, hgeometry⟩
  rw [writePrepared, hcheck]
  dsimp only
  rw [hp.rows_eq, hloop, ← hp.region_eq]
  rfl

/-- A row the strip has is written as it is. -/
theorem writeSystemUiRow_of {pixels : SystemUiPixels} {offset r : Nat}
    (h : (r + 1) * pixels.region.width.toNat ≤ pixels.bytes.length) :
    writeSystemUiRow pixels m (offset, r) =
      m.writeAt offset (stripRow pixels.region.width.toNat pixels.bytes r) := by
  rw [writeSystemUiRow, inBounds_of h]
  rfl

section Accepted

variable {info : FramebufferInfo} (h : info.Accepted) (hm : m.geometry = info.geometry)

include h hm

theorem length_of_accepted : m.bytes.length = info.mappingLen := by
  obtain ⟨-, hlen⟩ := visibleMappingLen_eq_ok.mp m.length_eq
  rw [hlen, h.mappingLen_eq, hm]

/-- A row of the visible screen ends inside the mapping. -/
theorem row_of_accepted {y : Nat} (hy : y < info.geometry.yres.toNat) :
    (info.geometry.yoffset.toNat + y) * info.geometry.lineLength.toNat +
      info.geometry.xoffset.toNat + info.geometry.xres.toNat ≤ m.bytes.length := by
  have hright := h.visible.right_le
  have hline := h.line_ge
  have hend := row_end_le (Nat.add_lt_add_left hy info.geometry.yoffset.toNat)
    info.geometry.lineLength.toNat
  rw [length_of_accepted h hm, h.mappingLen_eq, Nat.mul_comm info.geometry.lineLength.toNat]
  omega

/-- Rows of the visible screen lie inside the mapping. -/
theorem fits_of_accepted {y height : Nat} {row : Nat → List UInt8}
    (hrow : ∀ r < height, (row r).length = info.geometry.xres.toNat)
    (hy : y + height ≤ info.geometry.yres.toNat) :
    Fits m.bytes ((info.geometry.yoffset.toNat + y) * info.geometry.lineLength.toNat +
      info.geometry.xoffset.toNat) info.geometry.lineLength.toNat info.geometry.xres.toNat height
      row where
  length_row := hrow
  width_le := by
    have := h.visible.right_le
    have := h.line_ge
    omega
  inside r hr := by
    have hend := row_of_accepted h hm (lt_of_lt_of_le (Nat.add_lt_add_left hr y) hy)
    rw [← Nat.add_assoc, Nat.add_mul _ r] at hend
    omega

/-- The offset of a row of the visible screen does not overflow. -/
theorem offset_of_accepted {y : Nat} (hy : y < info.geometry.yres.toNat) :
    ((some (info.geometry.yoffset.toNat + y)).bind
      (checkedMul · info.geometry.lineLength.toNat)).bind
        (checkedAdd · info.geometry.xoffset.toNat) =
      some ((info.geometry.yoffset.toNat + y) * info.geometry.lineLength.toNat +
        info.geometry.xoffset.toNat) := by
  have hrow := row_of_accepted h hm hy
  have hlt := m.length_lt
  rw [Option.bind_some, checkedMul_eq_some.mpr ⟨by omega, rfl⟩, Option.bind_some]
  exact checkedAdd_eq_some.mpr ⟨by omega, rfl⟩

/-- The offsets of the strip's rows, all of them inside the mapping. -/
theorem checkSystemUi_of {bytes : List UInt8}
    (hlen : bytes.length = info.screen.systemUiRegion.width.toNat * 72) :
    m.checkSystemUi ⟨info.screen.systemUiRegion, info.screen.systemUiRegion.width.toNat, bytes⟩
        info.spec =
      .ok ((List.range 72).map fun r =>
        (info.geometry.yoffset.toNat + (info.geometry.yres.toNat - 72) + r) *
          info.geometry.lineLength.toNat + info.geometry.xoffset.toNat) := by
  obtain ⟨hvw, hvh, -, -, hxo, hyo, -, hline, -⟩ := h.spec_matches
  obtain ⟨hx, hy⟩ := h.strip_origin
  obtain ⟨hwidth, hheight⟩ := h.strip_size
  have hbottom := h.visible.bottom_le
  have hright := h.visible.right_le
  have hgt := h.yres_gt
  have hu := lt_of_lt_of_le info.geometry.yresVirtual.toNat_lt two_pow_32_le_usize
  have hv := lt_of_lt_of_le info.geometry.xresVirtual.toNat_lt two_pow_32_le_usize
  have hmatches : m.matchesSpec info.spec = true := by
    refine decide_eq_true ?_
    rw [hm]
    exact h.spec_matches
  have h72 : SYSTEM_UI_HEIGHT.toNat = 72 := rfl
  have hmul : checkedMul info.screen.systemUiRegion.width.toNat 72 =
      some (info.screen.systemUiRegion.width.toNat * 72) :=
    checkedMul_of_lt (stride_mul_lt
      (by have := info.screen.systemUiRegion.width.toNat_lt; omega) SYSTEM_UI_HEIGHT)
  have hfirstX : checkedAdd info.geometry.xoffset.toNat 0 = some info.geometry.xoffset.toNat :=
    checkedAdd_eq_some.mpr ⟨by omega, rfl⟩
  have hfirstY : checkedAdd info.geometry.yoffset.toNat (info.geometry.yres.toNat - 72) =
      some (info.geometry.yoffset.toNat + (info.geometry.yres.toNat - 72)) :=
    checkedAdd_eq_some.mpr ⟨by omega, rfl⟩
  rw [checkSystemUi, FramebufferSpec.validateFormat, ensure_bind h.format, ensure_bind hmatches,
    hvw, hvh, u16TryFrom_of h.xres_le, ok_bind, u16TryFrom_of h.yres_le, ok_bind, h.layout,
    required_some, ok_bind, ensure_bind ⟨rfl, hheight⟩]
  dsimp only
  rw [ensure_bind rfl, hheight, h72, hmul, required_some, ok_bind, ensure_bind hlen, hx, hy, hxo,
    hyo, hfirstX, hfirstY, required_some, ok_bind, required_some, ok_bind, ← hline]
  refine mapM_of fun r hr => ?_
  have hr := List.mem_range.mp hr
  have hrow : info.geometry.yres.toNat - 72 + r < info.geometry.yres.toNat := by omega
  have hadd : checkedAdd (info.geometry.yoffset.toNat + (info.geometry.yres.toNat - 72)) r =
      some (info.geometry.yoffset.toNat + (info.geometry.yres.toNat - 72 + r)) :=
    checkedAdd_eq_some.mpr ⟨by omega, Nat.add_assoc _ _ _⟩
  rw [hadd, offset_of_accepted h hm hrow, required_some, ok_bind, hwidth,
    checkRange_of (row_of_accepted h hm hrow), ok_bind, ← Nat.add_assoc]
  rfl

/-- **The strip** is written on accepted metadata. -/
theorem writeSystemUi_of {bytes : List UInt8}
    (hlen : bytes.length = info.screen.systemUiRegion.width.toNat * 72) :
    ∃ m', m.writeSystemUi ⟨info.screen.systemUiRegion, info.screen.systemUiRegion.width.toNat,
        bytes⟩ info.spec = (.ok info.screen.systemUiRegion, m') ∧
      m'.bytes = writeRows m.bytes
        ((info.geometry.yoffset.toNat + (info.geometry.yres.toNat - 72)) *
          info.geometry.lineLength.toNat + info.geometry.xoffset.toNat)
        info.geometry.lineLength.toNat 72 (stripRow info.geometry.xres.toNat bytes) ∧
      m'.geometry = m.geometry := by
  obtain ⟨hwidth, hheight⟩ := h.strip_size
  have hgt := h.yres_gt
  rw [hwidth] at hlen
  have hfit := fits_of_accepted h hm (y := info.geometry.yres.toNat - 72)
    (fun _ => length_stripRow hlen) (by omega)
  obtain ⟨m', hloop, hbytes, hgeometry⟩ := sweep_writes hfit
    (writeSystemUiRow ⟨info.screen.systemUiRegion, info.screen.systemUiRegion.width.toNat, bytes⟩)
    (fun r => ((info.geometry.yoffset.toNat + (info.geometry.yres.toNat - 72) + r) *
      info.geometry.lineLength.toNat + info.geometry.xoffset.toNat, r)) fun r hr k => by
        rw [writeSystemUiRow_of (by rw [hwidth]; exact stripRow_le hlen hr), hwidth,
          Nat.add_mul _ r, Nat.add_right_comm]
  refine ⟨m', ?_, hbytes, hgeometry⟩
  rw [writeSystemUi, checkSystemUi_of h hm (by rw [hwidth, hlen])]
  dsimp only
  rw [zipIdx_map_range, hloop]
  rfl

end Accepted

end WritableFramebuffer

end PaperPad.Mxcfb
