import PaperPad.Mxcfb.Mapped
import PaperPad.Mxcfb.Update

/-!
# Mxcfb — Present

An opened framebuffer and what is shown on it: `src/mxcfb/opened.rs`, `src/mxcfb/present.rs` and
`src/mxcfb/backend.rs`.  The answers of the system (the metadata, the mapping, whether a request
is accepted) are arguments.

`Presented` is all a presentation leaves behind, however it ends; `submission` is the request that
reached `submit`, which is after the framebuffer write.  On an opened framebuffer a frame of the
viewport's size is always submitted (`presentRemoteWith_of`), and the local strip wherever it can
be rasterized (`presentSystemUiWith_of`).
-/

namespace PaperPad.Mxcfb

open Protocol Device Fallible Raster

/-! ### Opening -/

/-- A mapping of the framebuffer that the metadata describe. -/
structure OpenedFramebuffer [Platform] where
  mapping : WritableFramebuffer
  info : FramebufferInfo
  fromKernel : ∃ debugLossy fixed var, FramebufferInfo.fromKernel debugLossy fixed var = .ok info
  geometry_eq : mapping.geometry = info.geometry

namespace OpenedFramebuffer

variable [Platform]

/-- `fixed`, `var` and `panel` are what the three queries of the descriptor answer. -/
def fromFile (debugLossy : List UInt8 → String) (fixed : Fallible FbFixScreeninfo)
    (var : Fallible FbVarScreeninfo) (panel : Fallible Unit) (mmap : MmapOutcome) :
    Fallible OpenedFramebuffer := do
  let fixed ← context fixed "MXCFB FBIOGET_FSCREENINFO"
  let var ← context var "MXCFB FBIOGET_VSCREENINFO"
  match h : FramebufferInfo.fromKernel debugLossy fixed var with
  | .error e => context (.error e) "MXCFB framebuffer metadata"
  | .ok info =>
      context panel "MXCFB GET_PANEL_INFO_MTK"
      match hm : WritableFramebuffer.mapVisible info.geometry mmap with
      | .error e => context (.error e) "MXCFB map validated visible framebuffer"
      | .ok mapping =>
          .ok ⟨mapping, info, ⟨debugLossy, fixed, var, h⟩,
            WritableFramebuffer.geometry_of_mapVisible hm⟩

theorem accepted (o : OpenedFramebuffer) : o.info.Accepted := by
  obtain ⟨_, _, _, h⟩ := o.fromKernel
  exact accepted_of_fromKernel h

theorem fromKernel_of_fromFile {debugLossy : List UInt8 → String} {fixed : FbFixScreeninfo}
    {var : FbVarScreeninfo} {panel : Fallible Unit} {mmap : MmapOutcome} {o : OpenedFramebuffer}
    (h : fromFile debugLossy (.ok fixed) (.ok var) panel mmap = .ok o) :
    FramebufferInfo.fromKernel debugLossy fixed var = .ok o.info := by
  rw [fromFile, context_ok, ok_bind, context_ok, ok_bind] at h
  split at h
  · cases context_eq_ok.mp h
  · next info hinfo =>
      obtain ⟨_, -, h⟩ := bind_eq_ok.mp h
      split at h
      · cases context_eq_ok.mp h
      · cases h
        exact hinfo

/-- **Every accepted metadata** and every contents of its mapping are those of an opened
framebuffer, if a mapping of that length can be made. -/
theorem fromFile_of {debugLossy : List UInt8 → String} {fixed : FbFixScreeninfo}
    {var : FbVarScreeninfo} {info : FramebufferInfo}
    (h : FramebufferInfo.fromKernel debugLossy fixed var = .ok info) (bytes : List UInt8)
    (hlen : bytes.length = info.mappingLen) (hmax : bytes.length ≤ isizeMax) :
    ∃ o, fromFile debugLossy (.ok fixed) (.ok var) (.ok ()) (.mapped fun i => bytes.getD i 0) =
      .ok o ∧ o.info = info ∧ o.mapping.bytes = bytes := by
  have hok := accepted_of_fromKernel h
  have hvisible : visibleMappingLen info.geometry = .ok bytes.length :=
    visibleMappingLen_eq_ok.mpr ⟨hok.visible, hlen.trans hok.mappingLen_eq⟩
  obtain ⟨m, hm, hbytes⟩ := WritableFramebuffer.mapVisible_of hvisible hmax
  rw [fromFile, context_ok, ok_bind, context_ok, ok_bind]
  split
  · next e he =>
      rw [h] at he
      cases he
  · next info' he =>
      obtain rfl := Except.ok.inj (he.symm.trans h)
      rw [context_ok, ok_bind]
      split
      · next e he =>
          rw [hm] at he
          cases he
      · next m' he =>
          obtain rfl := Except.ok.inj (he.symm.trans hm)
          exact ⟨_, rfl, rfl, hbytes⟩

/-- The framebuffer, with the rows of a frame written. -/
def writePrepared (o : OpenedFramebuffer) (prepared : PreparedRemote) : OpenedFramebuffer :=
  { o with
    mapping := (o.mapping.writePrepared prepared).2
    geometry_eq := (o.mapping.geometry_writePrepared prepared).trans o.geometry_eq }

/-- The framebuffer, with the local strip written. -/
def writeSystemUi (o : OpenedFramebuffer) (pixels : SystemUiPixels) : OpenedFramebuffer :=
  { o with
    mapping := (o.mapping.writeSystemUi pixels o.info.spec).2
    geometry_eq := (o.mapping.geometry_writeSystemUi pixels o.info.spec).trans o.geometry_eq }

end OpenedFramebuffer

/-! ### Presenting -/

/-- What was submitted, by its marker and region. -/
structure SubmittedUpdate where
  marker : UInt32
  region : ScreenRect
  deriving DecidableEq

/-- What the kernel makes of a request, and of the visible size it is checked against. -/
abbrev SubmitUpdate := UpdateDataMtk → UInt32 → UInt32 → Fallible Unit

/-- What a presentation leaves behind. -/
structure Presented [Platform] where
  opened : OpenedFramebuffer
  markers : UpdateMarkerSequence
  /-- The request that reached `submit`. -/
  submission : Option UpdateDataMtk
  result : Fallible SubmittedUpdate

/-- The request is for the region that was written. -/
def ensureMatchingUpdateRegion (region : ScreenRect) (request : UpdateDataMtk) : Fallible Unit :=
  ensure (request.updateRegion.left = region.x.toUInt32 ∧
      request.updateRegion.top = region.y.toUInt32 ∧
      request.updateRegion.width = region.width.toUInt32 ∧
      request.updateRegion.height = region.height.toUInt32)
    "MXCFB prepared pixels and update region differ"

/-- Write a frame and submit its update. -/
def presentRemoteWith [Platform] (opened : OpenedFramebuffer) (markers : UpdateMarkerSequence)
    (frame : RemoteFrame) (submit : SubmitUpdate) : Presented :=
  let info := opened.info
  -- conversion, all bounds checks and the request come before the first store
  match context (prepareRemote frame info.screen info.spec info.mappingLen)
      "MXCFB prepare remote frame" with
  | .error e => ⟨opened, markers, none, .error e⟩
  | .ok prepared =>
      let (request, markers) := nextFullGc16RemoteRequest info.screen info.spec.visibleWidth
        info.spec.visibleHeight markers
      match context request "MXCFB prepare remote update" with
      | .error e => ⟨opened, markers, none, .error e⟩
      | .ok request =>
          let region := prepared.region
          match ensureMatchingUpdateRegion region request with
          | .error e => ⟨opened, markers, none, .error e⟩
          | .ok () =>
              let opened' := opened.writePrepared prepared
              match context (opened.mapping.writePrepared prepared).1
                  "MXCFB write remote framebuffer rows" with
              | .error e => ⟨opened', markers, none, .error e⟩
              | .ok _ =>
                  let marker := request.updateMarker
                  let submitted := submit request info.spec.visibleWidth info.spec.visibleHeight
                  ⟨opened', markers, some request,
                    (context submitted "MXCFB submit remote update").map fun _ =>
                      ⟨marker, region⟩⟩

/-- Write the strip and submit its update. -/
def presentSystemUiWith [Platform] (opened : OpenedFramebuffer) (markers : UpdateMarkerSequence)
    (connected : Bool) (submit : SubmitUpdate) : Presented :=
  let info := opened.info
  match context (rasterizeSystemUi info.screen connected)
      "MXCFB prepare local system UI pixels" with
  | .error e => ⟨opened, markers, none, .error e⟩
  | .ok pixels =>
      let (request, markers) := nextFullGc16SystemUiRequest info.screen info.spec.visibleWidth
        info.spec.visibleHeight markers
      match context request "MXCFB prepare local system UI update" with
      | .error e => ⟨opened, markers, none, .error e⟩
      | .ok request =>
          match ensureMatchingUpdateRegion pixels.region request with
          | .error e => ⟨opened, markers, none, .error e⟩
          | .ok () =>
              let opened' := opened.writeSystemUi pixels
              match context (opened.mapping.writeSystemUi pixels info.spec).1
                  "MXCFB write local system UI framebuffer rows" with
              | .error e => ⟨opened', markers, none, .error e⟩
              | .ok _ =>
                  let marker := request.updateMarker
                  let submitted := submit request info.spec.visibleWidth info.spec.visibleHeight
                  ⟨opened', markers, some request,
                    (context submitted "MXCFB submit local system UI update").map fun _ =>
                      ⟨marker, pixels.region⟩⟩

/-! ### What is presented -/

theorem ensureMatching_requestFor (markers : UpdateMarkerSequence) (r : ScreenRect) :
    ensureMatchingUpdateRegion r (requestFor markers r) = .ok () :=
  ensure_of ⟨rfl, rfl, rfl, rfl⟩

/-- A submission succeeds if the kernel accepts the request. -/
theorem submitted_iff {x : Fallible Unit} {message : String} {update : SubmittedUpdate} :
    (∃ u, ((context x message).map fun _ => update) = .ok u) ↔ x = .ok () := by
  rcases x with (_ | _) | _ <;> simp [context, Except.map]

/-- Where the first row of the visible screen starts. -/
def screenStart (g : FramebufferGeometry) : Nat :=
  g.yoffset.toNat * g.lineLength.toNat + g.xoffset.toNat

/-- Where the first row of the local strip starts. -/
def stripStart (g : FramebufferGeometry) : Nat :=
  (g.yoffset.toNat + (g.yres.toNat - 72)) * g.lineLength.toNat + g.xoffset.toNat

section Facts

variable [Platform] (o : OpenedFramebuffer) (markers : UpdateMarkerSequence) (submit : SubmitUpdate)

/-- A presentation of `r` that reached `submit`, having written `bytes`. -/
structure Reached (r : ScreenRect) (bytes : List UInt8) (p : Presented) : Prop where
  info_eq : p.opened.info = o.info
  bytes_eq : p.opened.mapping.bytes = bytes
  submission_eq : p.submission = some (requestFor markers r)
  submitted : (∃ update, p.result = .ok update) ↔
    submit (requestFor markers r) o.info.spec.visibleWidth o.info.spec.visibleHeight = .ok ()

theorem length_eq_mappingLen : o.mapping.bytes.length = o.info.mappingLen :=
  WritableFramebuffer.length_of_accepted o.accepted o.geometry_eq

/-- The viewport's rows lie inside the mapping. -/
theorem fits_viewport {f : Frame} (hf : Sized f o.info.screen) :
    Fits o.mapping.bytes (screenStart o.info.geometry) o.info.geometry.lineLength.toNat
      f.width.toNat f.height.toNat (frameRow f) := by
  obtain ⟨hwidth, hheight⟩ := o.accepted.viewport_size
  have hrow (r : Nat) (hr : r < f.height.toNat) :
      (frameRow f r).length = o.info.geometry.xres.toNat := by
    rw [length_frameRow hr, hf.1, hwidth]
  have hfit := WritableFramebuffer.fits_of_accepted o.accepted o.geometry_eq (y := 0) hrow
    (by rw [hf.2, hheight]; omega)
  rwa [Nat.add_zero, ← hwidth, ← hf.1] at hfit

/-- **A frame of the viewport's size** is written and submitted. -/
theorem presentRemoteWith_of {f : Frame} (frameId : UInt64) (hf : Sized f o.info.screen) :
    Reached o markers submit o.info.screen.remoteViewport
      (writeRows o.mapping.bytes (screenStart o.info.geometry)
        o.info.geometry.lineLength.toNat f.height.toNat (frameRow f))
      (presentRemoteWith o markers (RemoteFrame.ofFrame frameId f) submit) := by
  have hok := o.accepted
  have hlen := length_eq_mappingLen o
  have hline : o.info.geometry.lineLength.toNat = o.info.spec.lineLength :=
    hok.spec_matches.2.2.2.2.2.2.2.1
  have hprepare : ∃ p, prepareRemote (RemoteFrame.ofFrame frameId f) o.info.screen o.info.spec
      o.info.mappingLen = .ok p ∧ _ := prepareRemote_accepted hok (hlen ▸ o.mapping.length_le) hf
  obtain ⟨p, hprepare, hp⟩ := hprepare
  rw [← hlen, ← hline] at hp
  have hfit := fits_viewport o hf
  rw [hline] at hfit
  obtain ⟨m, hwrite, hbytes, -⟩ := WritableFramebuffer.writePrepared_of hp
    (o.geometry_eq ▸ hok.spec_matches) hfit
  have hrequest : nextFullGc16RemoteRequest o.info.screen o.info.spec.visibleWidth
      o.info.spec.visibleHeight markers =
      (.ok (requestFor markers o.info.screen.remoteViewport), markers.nextMarker.2) := by
    rw [nextFullGc16RemoteRequest, remoteUpdateRegion_accepted hok]
    rfl
  simp only [presentRemoteWith, hprepare, context_ok, hrequest, hp.region_eq,
    ensureMatching_requestFor, hwrite]
  refine ⟨rfl, ?_, rfl, submitted_iff⟩
  rw [hline]
  exact (congrArg (fun w => w.2.bytes) hwrite).trans hbytes

/-- The strip's rows lie inside the mapping. -/
theorem fits_strip {bytes : List UInt8}
    (hlen : bytes.length = o.info.screen.systemUiRegion.width.toNat * 72) :
    Fits o.mapping.bytes (stripStart o.info.geometry) o.info.geometry.lineLength.toNat
      o.info.geometry.xres.toNat 72 (stripRow o.info.geometry.xres.toNat bytes) := by
  have hgt := o.accepted.yres_gt
  rw [o.accepted.strip_size.1] at hlen
  exact WritableFramebuffer.fits_of_accepted o.accepted o.geometry_eq
    (fun _ => length_stripRow hlen) (by omega)

/-- **The strip** is written and submitted, if it was rasterized. -/
theorem presentSystemUiWith_of {connected : Bool} {bytes : List UInt8}
    (hpixels : rasterizeSystemUi o.info.screen connected =
      .ok ⟨o.info.screen.systemUiRegion, o.info.screen.systemUiRegion.width.toNat, bytes⟩)
    (hlen : bytes.length = o.info.screen.systemUiRegion.width.toNat * 72) :
    Reached o markers submit o.info.screen.systemUiRegion
      (writeRows o.mapping.bytes (stripStart o.info.geometry) o.info.geometry.lineLength.toNat 72
        (stripRow o.info.geometry.xres.toNat bytes))
      (presentSystemUiWith o markers connected submit) := by
  have hok := o.accepted
  obtain ⟨m, hwrite, hbytes, -⟩ := WritableFramebuffer.writeSystemUi_of hok o.geometry_eq hlen
  have hrequest : nextFullGc16SystemUiRequest o.info.screen o.info.spec.visibleWidth
      o.info.spec.visibleHeight markers =
      (.ok (requestFor markers o.info.screen.systemUiRegion), markers.nextMarker.2) := by
    rw [nextFullGc16SystemUiRequest, systemUiUpdateRegion_accepted hok]
    rfl
  simp only [presentSystemUiWith, hpixels, context_ok, hrequest, ensureMatching_requestFor, hwrite]
  exact ⟨rfl, (congrArg (fun w => w.2.bytes) hwrite).trans hbytes, rfl, submitted_iff⟩

/-- **What is written is refreshed**, unless the kernel refuses. -/
theorem presentRemoteWith_submitUpdate {f : Frame} (frameId : UInt64)
    (hf : Sized f o.info.screen) (ioctl : UpdateDataMtk → IoctlResult) :
    (∃ update, (presentRemoteWith o markers (.ofFrame frameId f) (submitUpdate ioctl)).result =
      .ok update) ↔ (ioctl (requestFor markers o.info.screen.remoteViewport)).value = 0 :=
  (presentRemoteWith_of o markers (submitUpdate ioctl) frameId hf).submitted.trans
    (submitUpdate_requestFor (checkedScreenRegion_viewport o.accepted) ioctl markers)

/-- Without a strip to draw, nothing is drawn. -/
theorem presentSystemUiWith_error {connected : Bool} {e : Failure}
    (hpixels : rasterizeSystemUi o.info.screen connected = .error e) :
    ∃ e', presentSystemUiWith o markers connected submit = ⟨o, markers, none, .error e'⟩ := by
  rcases e with chain | _
  · exact ⟨_, by rw [presentSystemUiWith, hpixels]; rfl⟩
  · exact ⟨_, by rw [presentSystemUiWith, hpixels]; rfl⟩

end Facts

/-! ### The backend -/

/-- What the framebuffer backend keeps. -/
structure MxcfbDisplayBackend [Platform] where
  opened : OpenedFramebuffer
  markers : UpdateMarkerSequence
  remoteFrameCache : RemoteFrameCache (List UInt8) := {}

namespace MxcfbDisplayBackend

variable [Platform]

/-- `seed` is the process's id. -/
def fromOpened (opened : OpenedFramebuffer) (seed : UInt32) : MxcfbDisplayBackend :=
  { opened, markers := .fromSeed seed }

/-- The pixels are copied before the frame is presented, and cached if it was submitted. -/
def displayRemoteFrame (d : MxcfbDisplayBackend) (frame : RemoteFrame) (submit : SubmitUpdate) :
    MxcfbDisplayBackend :=
  let viewport := d.opened.info.screen.remoteViewport
  if ¬ (frame.width = viewport.width ∧ frame.height = viewport.height) then d
  else
    let cachedPixels := frame.pixels
    let presented := presentRemoteWith d.opened d.markers frame submit
    match presented.result with
    | .ok _ =>
        ⟨presented.opened, presented.markers, d.remoteFrameCache.replace frame cachedPixels⟩
    | .error _ => ⟨presented.opened, presented.markers, d.remoteFrameCache⟩

/-- Present the cached frame again. -/
def redrawCachedFrame (d : MxcfbDisplayBackend) (submit : SubmitUpdate) : MxcfbDisplayBackend :=
  match d.remoteFrameCache.current with
  | none => d
  | some cached =>
      match RemoteFrame.new cached.frameId cached.width cached.height cached.pixelFormat
          cached.stride cached.payload with
      | .error _ => d
      | .ok frame =>
          let presented := presentRemoteWith d.opened d.markers frame submit
          ⟨presented.opened, presented.markers, d.remoteFrameCache⟩

/-- Present the strip. -/
def drawSystemUi (d : MxcfbDisplayBackend) (connected : Bool) (submit : SubmitUpdate) :
    Fallible Unit × MxcfbDisplayBackend :=
  let presented := presentSystemUiWith d.opened d.markers connected submit
  (presented.result.map fun _ => (), ⟨presented.opened, presented.markers, d.remoteFrameCache⟩)

end MxcfbDisplayBackend

end PaperPad.Mxcfb
