import PaperPad.Mxcfb.Metadata

/-!
# Mxcfb — Update

What is asked of the panel: the regions of `src/mxcfb/region.rs`, the request of
`src/mxcfb/update_abi.rs` and `src/mxcfb/update_request.rs`, the markers of
`src/mxcfb/update_marker.rs` and the submission of `src/mxcfb/controller.rs`.  A marker is never
zero, which the sequence carries.

On accepted metadata both requests are built, for their own region (`remoteUpdateRegion_accepted`,
`systemUiUpdateRegion_accepted`).
-/

namespace PaperPad.Mxcfb

open Device Fallible

/-! ### Regions -/

/-- The part of the screen to update. -/
structure UpdateRegion where
  top : UInt32
  left : UInt32
  width : UInt32
  height : UInt32
  deriving DecidableEq, Repr

/-- A part of the visible screen. -/
def checkedVisibleRegion (left top width height visibleWidth visibleHeight : UInt32) :
    Fallible UpdateRegion := do
  ensure (0 < visibleWidth ∧ 0 < visibleHeight) "empty visible screen"
  ensure (0 < width ∧ 0 < height) "empty update region"
  let right ← required (checkedAdd32 left.toNat width.toNat) "update region x overflow"
  let bottom ← required (checkedAdd32 top.toNat height.toNat) "update region y overflow"
  ensure (right ≤ visibleWidth.toNat ∧ bottom ≤ visibleHeight.toNat)
    "update region exceeds visible screen"
  return { top, left, width, height }

/-- The region of a rectangle of the screen. -/
def checkedScreenRegion (r : ScreenRect) (visibleWidth visibleHeight : UInt32) :
    Fallible UpdateRegion :=
  checkedVisibleRegion r.x.toUInt32 r.y.toUInt32 r.width.toUInt32 r.height.toUInt32 visibleWidth
    visibleHeight

/-- The entire remote viewport, never the local strip. -/
def remoteUpdateRegion (screen : ScreenLayout) (visibleWidth visibleHeight : UInt32) :
    Fallible UpdateRegion := do
  ensure (screen.physicalSize.1.toUInt32 = visibleWidth ∧
      screen.physicalSize.2.toUInt32 = visibleHeight)
    "framebuffer visible dimensions do not match PaperPad screen"
  let remote := screen.remoteViewport
  let remoteBottom ← required (checkedAdd32 remote.y.toNat remote.height.toNat)
    "remote viewport bottom overflow"
  ensure (remoteBottom ≤ screen.systemUiRegion.y.toNat)
    "remote update region overlaps PaperPad system UI"
  checkedScreenRegion remote visibleWidth visibleHeight

/-- Exactly the local strip, never remote content. -/
def systemUiUpdateRegion (screen : ScreenLayout) (visibleWidth visibleHeight : UInt32) :
    Fallible UpdateRegion := do
  ensure (screen.physicalSize.1.toUInt32 = visibleWidth ∧
      screen.physicalSize.2.toUInt32 = visibleHeight)
    "framebuffer visible dimensions do not match PaperPad screen"
  let region := screen.systemUiRegion
  ensure (region.height = SYSTEM_UI_HEIGHT) "incomplete system UI update strip"
  let remoteBottom ← required
    (checkedAdd32 screen.remoteViewport.y.toNat screen.remoteViewport.height.toNat)
    "remote viewport bottom overflow"
  ensure (remoteBottom ≤ region.y.toNat) "system UI update overlaps remote viewport"
  checkedScreenRegion region visibleWidth visibleHeight

/-! ### Markers -/

theorem max_one_ne_zero (n : UInt32) : max n 1 ≠ 0 := by
  intro h
  have hle : (1 : UInt32) ≤ max n 1 := by
    by_cases hn : n ≤ 1
    · rw [show max n 1 = 1 from if_pos hn]
      exact UInt32.le_refl 1
    · rw [show max n 1 = n from if_neg hn]
      exact UInt32.le_of_lt (UInt32.not_le.mp hn)
  rw [h] at hle
  exact absurd hle (by decide)

/-- Process-local, nonzero update markers. -/
structure UpdateMarkerSequence where
  next : UInt32
  next_ne : next ≠ 0
  deriving DecidableEq

namespace UpdateMarkerSequence

/-- The sequence from this number, or from one. -/
def fromSeed (seed : UInt32) : UpdateMarkerSequence := ⟨max seed 1, max_one_ne_zero seed⟩

/-- The next marker. -/
def nextMarker (m : UpdateMarkerSequence) : UInt32 × UpdateMarkerSequence :=
  (m.next, ⟨max (m.next + 1) 1, max_one_ne_zero (m.next + 1)⟩)

end UpdateMarkerSequence

/-! ### Requests -/

/-- The waveform of every update the backend asks for. -/
def WAVEFORM_GC16 : UInt32 := 2

def WAVEFORM_DU : UInt32 := 1

def UPDATE_MODE_FULL : UInt32 := 1

def TEMP_USE_AMBIENT : Int32 := 0x1000

/-- The alternate buffer, which is not used. -/
structure AltBufferData where
  physAddr : UInt32 := 0
  width : UInt32 := 0
  height : UInt32 := 0
  altUpdateRegion : UpdateRegion := ⟨0, 0, 0, 0⟩
  deriving DecidableEq

/-- The swipe, which is not used. -/
structure SwipeData where
  direction : UInt32 := 0
  steps : UInt32 := 0
  deriving DecidableEq

/-- An update as the kernel takes it. -/
structure UpdateDataMtk where
  updateRegion : UpdateRegion
  waveformMode : UInt32
  updateMode : UInt32
  updateMarker : UInt32
  temp : Int32
  flags : UInt32 := 0
  ditherMode : Int32 := 0
  quantBit : Int32 := 0
  altBufferData : AltBufferData := {}
  swipeData : SwipeData := {}
  histBwWaveformMode : UInt32
  histGrayWaveformMode : UInt32
  tsPxp : UInt32 := 0
  tsEpdc : UInt32 := 0
  deriving DecidableEq

/-- A full update of a region. -/
def fullGc16RequestForRegion (updateRegion : UpdateRegion) (marker : UInt32) : UpdateDataMtk where
  updateRegion := updateRegion
  waveformMode := WAVEFORM_GC16
  updateMode := UPDATE_MODE_FULL
  updateMarker := marker
  temp := TEMP_USE_AMBIENT
  histBwWaveformMode := WAVEFORM_DU
  histGrayWaveformMode := WAVEFORM_GC16

/-- A request for a region; only one that is built consumes a marker. -/
def nextFullGc16Request (region : Fallible UpdateRegion) (markers : UpdateMarkerSequence) :
    Fallible UpdateDataMtk × UpdateMarkerSequence :=
  match region with
  | .error e => (.error e, markers)
  | .ok updateRegion =>
      let (marker, markers) := markers.nextMarker
      (.ok (fullGc16RequestForRegion updateRegion marker), markers)

/-- The next update, of the remote viewport. -/
def nextFullGc16RemoteRequest (screen : ScreenLayout) (visibleWidth visibleHeight : UInt32)
    (markers : UpdateMarkerSequence) : Fallible UpdateDataMtk × UpdateMarkerSequence :=
  nextFullGc16Request (remoteUpdateRegion screen visibleWidth visibleHeight) markers

/-- The next update, of the strip. -/
def nextFullGc16SystemUiRequest (screen : ScreenLayout) (visibleWidth visibleHeight : UInt32)
    (markers : UpdateMarkerSequence) : Fallible UpdateDataMtk × UpdateMarkerSequence :=
  nextFullGc16Request (systemUiUpdateRegion screen visibleWidth visibleHeight) markers

/-! ### Submission -/

/-- What `ioctl` returns, with the error it leaves. -/
structure IoctlResult where
  value : Int32
  lastOsError : String

/-- Submit an already prepared update. -/
def submitUpdate (ioctl : UpdateDataMtk → IoctlResult) (request : UpdateDataMtk)
    (visibleWidth visibleHeight : UInt32) : Fallible Unit := do
  ensure (request.updateMarker ≠ 0) "HWTCON update marker must be nonzero"
  let region := request.updateRegion
  let _ ← context (checkedVisibleRegion region.left region.top region.width region.height
    visibleWidth visibleHeight) "HWTCON send-update region"
  let result := ioctl request
  if result.value = 0 then .ok ()
  else if result.value = -1 then .error (.error ["MXCFB_SEND_UPDATE_MTK", result.lastOsError])
  else .error (.error [s!"unexpected MXCFB_SEND_UPDATE_MTK return value {result.value}"])

/-! ### Facts -/

theorem checkedVisibleRegion_eq_ok {left top width height visibleWidth visibleHeight : UInt32}
    {r : UpdateRegion} :
    checkedVisibleRegion left top width height visibleWidth visibleHeight = .ok r ↔
      (0 < visibleWidth ∧ 0 < visibleHeight) ∧ (0 < width ∧ 0 < height) ∧
        (left.toNat + width.toNat ≤ visibleWidth.toNat ∧
          top.toNat + height.toNat ≤ visibleHeight.toNat) ∧
        r = ⟨top, left, width, height⟩ := by
  have hw := visibleWidth.toNat_lt
  have hh := visibleHeight.toNat_lt
  simp only [checkedVisibleRegion, ensure_bind_eq_ok, required_bind_eq_ok, checkedAdd32_eq_some]
  constructor
  · rintro ⟨hv, hs, _, ⟨-, rfl⟩, _, ⟨-, rfl⟩, hle, h⟩
    cases h
    exact ⟨hv, hs, hle, rfl⟩
  · rintro ⟨hv, hs, hle, rfl⟩
    exact ⟨hv, hs, _, ⟨lt_of_le_of_lt hle.1 hw, rfl⟩, _, ⟨lt_of_le_of_lt hle.2 hh, rfl⟩, hle, rfl⟩

/-- A rectangle of the screen, as a region. -/
def regionOfRect (r : ScreenRect) : UpdateRegion :=
  ⟨r.y.toUInt32, r.x.toUInt32, r.width.toUInt32, r.height.toUInt32⟩

/-- A rectangle inside the visible screen. -/
theorem checkedScreenRegion_of {r : ScreenRect} {visibleWidth visibleHeight : UInt32}
    (hw : 0 < r.width.toNat) (hh : 0 < r.height.toNat)
    (hx : r.x.toNat + r.width.toNat ≤ visibleWidth.toNat)
    (hy : r.y.toNat + r.height.toNat ≤ visibleHeight.toNat) :
    checkedScreenRegion r visibleWidth visibleHeight = .ok (regionOfRect r) := by
  rw [checkedScreenRegion, checkedVisibleRegion_eq_ok]
  simp only [UInt32.lt_iff_toNat_lt, UInt16.toNat_toUInt32, UInt32.toNat_zero]
  exact ⟨⟨by omega, by omega⟩, ⟨hw, hh⟩, ⟨hx, hy⟩, rfl⟩

/-- The request for a rectangle of the screen. -/
def requestFor (markers : UpdateMarkerSequence) (r : ScreenRect) : UpdateDataMtk :=
  fullGc16RequestForRegion (regionOfRect r) markers.next

/-- **A request for a visible rectangle** is only refused by the kernel. -/
theorem submitUpdate_requestFor {r : ScreenRect} {visibleWidth visibleHeight : UInt32}
    (hr : checkedScreenRegion r visibleWidth visibleHeight = .ok (regionOfRect r))
    (ioctl : UpdateDataMtk → IoctlResult) (markers : UpdateMarkerSequence) :
    submitUpdate ioctl (requestFor markers r) visibleWidth visibleHeight = .ok () ↔
      (ioctl (requestFor markers r)).value = 0 := by
  have hregion : checkedVisibleRegion (requestFor markers r).updateRegion.left
      (requestFor markers r).updateRegion.top (requestFor markers r).updateRegion.width
      (requestFor markers r).updateRegion.height visibleWidth visibleHeight =
        .ok (regionOfRect r) := hr
  have hmarker : (requestFor markers r).updateMarker ≠ 0 := markers.next_ne
  rw [submitUpdate, ensure_bind hmarker]
  dsimp only
  rw [hregion, context_ok, ok_bind]
  by_cases hzero : (ioctl (requestFor markers r)).value = 0
  · rw [if_pos hzero]
    exact ⟨fun _ => hzero, fun _ => rfl⟩
  · rw [if_neg hzero]
    constructor
    · intro h
      split at h
      · cases h
      · cases h
    · intro h
      exact absurd h hzero

section Accepted

variable [Platform] {info : FramebufferInfo} (h : info.Accepted)

include h

theorem screen_matches :
    info.screen.physicalSize.1.toUInt32 = info.spec.visibleWidth ∧
      info.screen.physicalSize.2.toUInt32 = info.spec.visibleHeight := by
  obtain ⟨hvw, hvh, -⟩ := h.spec_matches
  exact ⟨h.physicalSize_toUInt32.1.trans hvw.symm, h.physicalSize_toUInt32.2.trans hvh.symm⟩

/-- The viewport ends where the strip starts. -/
theorem remoteBottom_eq :
    checkedAdd32 info.screen.remoteViewport.y.toNat info.screen.remoteViewport.height.toNat =
      some info.screen.systemUiRegion.y.toNat := by
  have hlt := info.screen.systemUiRegion.y.toNat_lt
  obtain ⟨-, hy⟩ := h.viewport_origin
  obtain ⟨-, hheight⟩ := h.viewport_size
  obtain ⟨-, hstrip⟩ := h.strip_origin
  exact checkedAdd32_eq_some.mpr ⟨by omega, by omega⟩

theorem checkedScreenRegion_viewport :
    checkedScreenRegion info.screen.remoteViewport info.spec.visibleWidth info.spec.visibleHeight =
      .ok (regionOfRect info.screen.remoteViewport) := by
  obtain ⟨hvw, hvh, -⟩ := h.spec_matches
  obtain ⟨hx, hy⟩ := h.viewport_origin
  obtain ⟨hwidth, hheight⟩ := h.viewport_size
  have hpos := h.visible.xres_pos
  have hgt := h.yres_gt
  exact checkedScreenRegion_of (by omega) (by omega) (by rw [hvw]; omega) (by rw [hvh]; omega)

theorem checkedScreenRegion_strip :
    checkedScreenRegion info.screen.systemUiRegion info.spec.visibleWidth info.spec.visibleHeight =
      .ok (regionOfRect info.screen.systemUiRegion) := by
  obtain ⟨hvw, hvh, -⟩ := h.spec_matches
  obtain ⟨hx, hy⟩ := h.strip_origin
  obtain ⟨hwidth, hheight⟩ := h.strip_size
  have hpos := h.visible.xres_pos
  have hgt := h.yres_gt
  have h72 : info.screen.systemUiRegion.height.toNat = 72 := by rw [hheight]; rfl
  exact checkedScreenRegion_of (by omega) (by omega) (by rw [hvw]; omega) (by rw [hvh]; omega)

theorem remoteUpdateRegion_accepted :
    remoteUpdateRegion info.screen info.spec.visibleWidth info.spec.visibleHeight =
      .ok (regionOfRect info.screen.remoteViewport) := by
  rw [remoteUpdateRegion, ensure_bind (screen_matches h)]
  dsimp only
  rw [remoteBottom_eq h, required_some, ok_bind, ensure_bind le_rfl]
  exact checkedScreenRegion_viewport h

theorem systemUiUpdateRegion_accepted :
    systemUiUpdateRegion info.screen info.spec.visibleWidth info.spec.visibleHeight =
      .ok (regionOfRect info.screen.systemUiRegion) := by
  rw [systemUiUpdateRegion, ensure_bind (screen_matches h)]
  dsimp only
  rw [ensure_bind h.strip_size.2, remoteBottom_eq h, required_some, ok_bind, ensure_bind le_rfl]
  exact checkedScreenRegion_strip h

end Accepted

end PaperPad.Mxcfb
