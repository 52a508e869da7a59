import PaperPad.Mxcfb.Present

/-!
# Mxcfb — TwoRegions

What the backend is for: a screen of two regions that never touch each other's pixels.  A
`TwoRegionScreen` remembers the frame its viewport shows, the strip below it, and the frame to
show again; every call replaces at most one of each.

* `two_regions`: over every sequence of calls, the backend is its two-region screen.  A byte of
  the viewport shows its pixel, a byte of the strip shows its pixel, every other byte of the
  mapping is what it was, and what is cached is the frame to show again.
-/

namespace PaperPad.Mxcfb

open Protocol Device Fallible Raster

/-! ### The screen of two regions -/

/-- A call of the backend; `outcome` is what the kernel makes of its request, if it is made. -/
inductive DisplayCall where
  | displayRemoteFrame (frameId : UInt64) (frame : Frame) (outcome : Fallible Unit)
  | redrawCachedFrame (outcome : Fallible Unit)
  | drawSystemUi (connected : Bool) (outcome : Fallible Unit)

structure TwoRegionScreen where
  /-- The frame displayed or redrawn last. -/
  remote : Option Frame := none
  /-- The strip drawn last. -/
  strip : Option (List UInt8) := none
  /-- The frame displayed last, of those that were submitted. -/
  cache : Option (UInt64 × Frame) := none

section Screen

variable [Platform]

/-- What a call does to the screen.  A strip is drawn if it can be rasterized. -/
def TwoRegionScreen.call (screen : ScreenLayout) (s : TwoRegionScreen) :
    DisplayCall → TwoRegionScreen
  | .displayRemoteFrame frameId frame outcome =>
      if Sized frame screen then
        { s with
          remote := some frame
          cache := if outcome = .ok () then some (frameId, frame) else s.cache }
      else s
  | .redrawCachedFrame _ =>
      match s.cache with
      | some (_, frame) => { s with remote := some frame }
      | none => s
  | .drawSystemUi connected _ =>
      match rasterizeSystemUi screen connected with
      | .ok pixels => { s with strip := some pixels.bytes }
      | .error _ => s

/-- A call of the backend. -/
def MxcfbDisplayBackend.call (d : MxcfbDisplayBackend) : DisplayCall → MxcfbDisplayBackend
  | .displayRemoteFrame frameId frame outcome =>
      d.displayRemoteFrame (.ofFrame frameId frame) fun _ _ _ => outcome
  | .redrawCachedFrame outcome => d.redrawCachedFrame fun _ _ _ => outcome
  | .drawSystemUi connected outcome => (d.drawSystemUi connected fun _ _ _ => outcome).2

end Screen

/-! ### What the mapping shows -/

/-- The byte of the visible pixel `x`, `y`. -/
def pixelIndex (g : FramebufferGeometry) (x y : Nat) : Nat :=
  (g.yoffset.toNat + y) * g.lineLength.toNat + g.xoffset.toNat + x

/-- A mapping that held `initial` shows the screen. -/
structure Shows (info : FramebufferInfo) (initial : List UInt8) (s : TwoRegionScreen)
    (bytes : List UInt8) : Prop where
  length_eq : bytes.length = initial.length
  remote : ∀ x y : UInt16, x < info.screen.remoteViewport.width →
    y < info.screen.remoteViewport.height →
    bytes[pixelIndex info.geometry x.toNat y.toNat]? =
      match s.remote with
      | some frame => shownByte frame x y
      | none => initial[pixelIndex info.geometry x.toNat y.toNat]?
  strip : ∀ x y : Nat, x < info.geometry.xres.toNat → y < 72 →
    bytes[pixelIndex info.geometry x (info.geometry.yres.toNat - 72 + y)]? =
      match s.strip with
      | some pixels => pixels[y * info.geometry.xres.toNat + x]?
      | none => initial[pixelIndex info.geometry x (info.geometry.yres.toNat - 72 + y)]?
  rest : ∀ i, (∀ x y, x < info.geometry.xres.toNat → y < info.geometry.yres.toNat →
    i ≠ pixelIndex info.geometry x y) → bytes[i]? = initial[i]?

/-- A frame, as the backend caches it. -/
def cachedOf : UInt64 × Frame → CachedRemoteFrame (List UInt8)
  | (frameId, f) => ⟨frameId, f.width, f.height, f.pixelFormat, f.stride, f.pixels⟩

/-- **The backend is its two-region screen.** -/
structure Refines [Platform] (info : FramebufferInfo) (initial : List UInt8) (s : TwoRegionScreen)
    (d : MxcfbDisplayBackend) : Prop where
  info_eq : d.opened.info = info
  shows : Shows info initial s d.opened.mapping.bytes
  cached : d.remoteFrameCache.current = s.cache.map cachedOf
  sized : ∀ c, s.cache = some c → Sized c.2 info.screen
  /-- A strip that can be rasterized is written, and no other. -/
  reaches : ∀ connected submit,
    (∃ request, (presentSystemUiWith d.opened d.markers connected submit).submission =
      some request) ↔ ∃ pixels, rasterizeSystemUi info.screen connected = .ok pixels

/-! ### Indices -/

section Index

variable {g : FramebufferGeometry}

theorem pixelIndex_eq_screenStart (x y : Nat) :
    pixelIndex g x y = screenStart g + y * g.lineLength.toNat + x := by
  rw [pixelIndex, screenStart, Nat.add_mul]
  omega

theorem pixelIndex_eq_stripStart (x y : Nat) :
    pixelIndex g x (g.yres.toNat - 72 + y) = stripStart g + y * g.lineLength.toNat + x := by
  rw [pixelIndex, stripStart, ← Nat.add_assoc, Nat.add_mul _ y]
  omega

/-- Two pixels of one row and column, or two indices. -/
theorem pixelIndex_ne {x y x' y' : Nat} (hx : g.xoffset.toNat + x < g.lineLength.toNat)
    (hx' : g.xoffset.toNat + x' < g.lineLength.toNat) (hy : y ≠ y') :
    pixelIndex g x y ≠ pixelIndex g x' y' := by
  have hsplit (r : Nat) : (g.yoffset.toNat + r) * g.lineLength.toNat =
      g.yoffset.toNat * g.lineLength.toNat + r * g.lineLength.toNat := Nat.add_mul _ _ _
  rw [pixelIndex, pixelIndex, hsplit, hsplit]
  rcases Nat.lt_or_gt_of_ne hy with h | h
  · have := row_end_le h g.lineLength.toNat
    omega
  · have := row_end_le h g.lineLength.toNat
    omega

end Index

/-! ### What a write shows -/

section Shows

variable [Platform] {info : FramebufferInfo} {initial bytes : List UInt8} {s : TwoRegionScreen}

/-- **A frame in the viewport** changes the viewport, and shows there. -/
theorem Shows.writeRemote (h : Shows info initial s bytes) (hok : info.Accepted) {f : Frame}
    (hf : Sized f info.screen)
    (hfit : Fits bytes (screenStart info.geometry) info.geometry.lineLength.toNat f.width.toNat
      f.height.toNat (frameRow f)) :
    Shows info initial { s with remote := some f }
      (writeRows bytes (screenStart info.geometry) info.geometry.lineLength.toNat f.height.toNat
        (frameRow f)) := by
  obtain ⟨hwidth, hheight⟩ := hok.viewport_size
  rw [← hf.1] at hwidth
  rw [← hf.2] at hheight
  have hgt := hok.yres_gt
  have hright := hok.visible.right_le
  have hline := hok.line_ge
  refine ⟨(length_writeRows hfit).trans h.length_eq, fun x y hx hy => ?_, fun x y hx hy => ?_,
    fun i hi => ?_⟩
  · rw [← hf.1] at hx
    rw [← hf.2] at hy
    have hx' : x.toNat < f.width.toNat := hx
    have hy' : y.toNat < f.height.toNat := hy
    rw [pixelIndex_eq_screenStart, getElem?_writeRows_inside hfit hy' hx']
    exact getElem?_frameRow hx hy
  · -- a pixel of the strip is in a row below the viewport
    rw [getElem?_writeRows_of_ne hfit fun x' r hx' hr => by
      rw [← pixelIndex_eq_screenStart]
      exact pixelIndex_ne (by omega) (by omega) (by omega)]
    exact h.strip x y hx hy
  · rw [getElem?_writeRows_of_ne hfit fun x r hx hr => by
      rw [← pixelIndex_eq_screenStart]
      exact hi x r (by omega) (by omega)]
    exact h.rest i hi

/-- **A strip** changes the strip, and shows there. -/
theorem Shows.writeStrip (h : Shows info initial s bytes) (hok : info.Accepted)
    {pixels : List UInt8}
    (hfit : Fits bytes (stripStart info.geometry) info.geometry.lineLength.toNat
      info.geometry.xres.toNat 72 (stripRow info.geometry.xres.toNat pixels)) :
    Shows info initial { s with strip := some pixels }
      (writeRows bytes (stripStart info.geometry) info.geometry.lineLength.toNat 72
        (stripRow info.geometry.xres.toNat pixels)) := by
  obtain ⟨hwidth, hheight⟩ := hok.viewport_size
  have hgt := hok.yres_gt
  have hright := hok.visible.right_le
  have hline := hok.line_ge
  refine ⟨(length_writeRows hfit).trans h.length_eq, fun x y hx hy => ?_, fun x y hx hy => ?_,
    fun i hi => ?_⟩
  · -- a pixel of the viewport is in a row above the strip
    have hx' : x.toNat < info.screen.remoteViewport.width.toNat := hx
    have hy' : y.toNat < info.screen.remoteViewport.height.toNat := hy
    rw [getElem?_writeRows_of_ne hfit fun c r hc hr => by
      rw [← pixelIndex_eq_stripStart]
      exact pixelIndex_ne (by omega) (by omega) (by omega)]
    exact h.remote x y hx hy
  · rw [pixelIndex_eq_stripStart, getElem?_writeRows_inside hfit hy hx]
    exact getElem?_slice (by rw [Nat.succ_mul]; omega)
  · rw [getElem?_writeRows_of_ne hfit fun x r hx hr => by
      rw [← pixelIndex_eq_stripStart]
      exact hi x _ hx (by omega)]
    exact h.rest i hi

end Shows

/-! ### The backend refines the screen -/

section Refines

variable [Platform] {info : FramebufferInfo} {initial : List UInt8} {s : TwoRegionScreen}
  {d : MxcfbDisplayBackend}

/-- **A strip reaches its write** exactly when it can be rasterized. -/
theorem submission_iff (o : OpenedFramebuffer) (markers : UpdateMarkerSequence) (connected : Bool)
    (submit : SubmitUpdate) :
    (∃ request, (presentSystemUiWith o markers connected submit).submission = some request) ↔
      ∃ pixels, rasterizeSystemUi o.info.screen connected = .ok pixels := by
  have hok := o.accepted
  cases hpixels : rasterizeSystemUi o.info.screen connected with
  | ok pixels =>
      obtain ⟨hstrip, hlen⟩ := pixels_of_rasterizeSystemUi hok.layout_self hok.strip_size.2 hpixels
      rw [hstrip] at hpixels
      have := presentSystemUiWith_of o markers submit hpixels hlen
      exact ⟨fun _ => ⟨pixels, rfl⟩, fun _ => ⟨_, this.submission_eq⟩⟩
  | error e =>
      obtain ⟨e', he'⟩ := presentSystemUiWith_error o markers submit hpixels
      rw [he']
      constructor
      · rintro ⟨_, h⟩
        cases h
      · rintro ⟨_, h⟩
        cases h

theorem Refines.accepted (h : Refines info initial s d) : info.Accepted :=
  h.info_eq ▸ d.opened.accepted

/-- A frame of the viewport's size, presented. -/
theorem Refines.presentRemote (h : Refines info initial s d) {f : Frame}
    (hf : Sized f info.screen) (frameId : UInt64) (submit : SubmitUpdate)
    {cache : RemoteFrameCache (List UInt8)} {c : Option (UInt64 × Frame)}
    (hcached : cache.current = c.map cachedOf) (hsized : ∀ k, c = some k → Sized k.2 info.screen) :
    Refines info initial { s with remote := some f, cache := c }
      ⟨(presentRemoteWith d.opened d.markers (.ofFrame frameId f) submit).opened,
        (presentRemoteWith d.opened d.markers (.ofFrame frameId f) submit).markers, cache⟩ := by
  obtain rfl := h.info_eq
  have hp := presentRemoteWith_of d.opened d.markers submit frameId hf
  refine ⟨hp.info_eq, ?_, hcached, hsized, ?_⟩
  · have hshows := h.shows.writeRemote h.accepted hf (fits_viewport d.opened hf)
    rw [← hp.bytes_eq] at hshows
    exact ⟨hshows.length_eq, hshows.remote, hshows.strip, hshows.rest⟩
  · intro connected submit'
    have hiff := submission_iff
      (presentRemoteWith d.opened d.markers (.ofFrame frameId f) submit).opened
      (presentRemoteWith d.opened d.markers (.ofFrame frameId f) submit).markers connected submit'
    rwa [hp.info_eq] at hiff

theorem Refines.displayRemoteFrame (h : Refines info initial s d) (frameId : UInt64) (f : Frame)
    (outcome : Fallible Unit) :
    Refines info initial (s.call info.screen (.displayRemoteFrame frameId f outcome))
      (d.call (.displayRemoteFrame frameId f outcome)) := by
  obtain rfl := h.info_eq
  simp only [TwoRegionScreen.call, MxcfbDisplayBackend.call, MxcfbDisplayBackend.displayRemoteFrame]
  by_cases hf : Sized f d.opened.info.screen
  · have hsize : ¬ ¬ ((RemoteFrame.ofFrame frameId f).width =
          d.opened.info.screen.remoteViewport.width ∧
        (RemoteFrame.ofFrame frameId f).height = d.opened.info.screen.remoteViewport.height) :=
      not_not.mpr hf
    rw [if_pos hf, if_neg hsize]
    have hp := presentRemoteWith_of d.opened d.markers (fun _ _ _ => outcome) frameId hf
    by_cases ho : outcome = .ok ()
    · obtain ⟨update, hr⟩ := hp.submitted.mpr ho
      rw [if_pos ho, hr]
      refine h.presentRemote hf frameId _ rfl fun k hk => ?_
      cases hk
      exact hf
    · rw [if_neg ho]
      cases hr : (presentRemoteWith d.opened d.markers (.ofFrame frameId f)
          fun _ _ _ => outcome).result with
      | ok update => exact absurd (hp.submitted.mp ⟨update, hr⟩) ho
      | error e => exact h.presentRemote hf frameId _ h.cached h.sized
  · have hsize : ¬ ((RemoteFrame.ofFrame frameId f).width =
          d.opened.info.screen.remoteViewport.width ∧
        (RemoteFrame.ofFrame frameId f).height = d.opened.info.screen.remoteViewport.height) := hf
    rw [if_neg hf, if_pos hsize]
    exact h

theorem Refines.redrawCachedFrame (h : Refines info initial s d) (outcome : Fallible Unit) :
    Refines info initial (s.call info.screen (.redrawCachedFrame outcome))
      (d.call (.redrawCachedFrame outcome)) := by
  have hcached := h.cached
  simp only [TwoRegionScreen.call, MxcfbDisplayBackend.call, MxcfbDisplayBackend.redrawCachedFrame]
  cases hc : s.cache with
  | none =>
      rw [hc] at hcached
      rw [hcached]
      exact h
  | some k =>
      obtain ⟨frameId, f⟩ := k
      rw [hc] at hcached
      have hnew : RemoteFrame.new frameId f.width f.height f.pixelFormat f.stride f.pixels =
          .ok (RemoteFrame.ofFrame frameId f) :=
        RemoteFrame.new_eq_ok.mpr ⟨rfl, f, rfl⟩
      simp only [hcached, Option.map_some, cachedOf, hnew]
      rw [← hc]
      exact h.presentRemote (h.sized _ hc) frameId (fun _ _ _ => outcome) h.cached h.sized

theorem Refines.drawSystemUi (h : Refines info initial s d) (connected : Bool)
    (outcome : Fallible Unit) :
    Refines info initial (s.call info.screen (.drawSystemUi connected outcome))
      (d.call (.drawSystemUi connected outcome)) := by
  obtain rfl := h.info_eq
  have hok := h.accepted
  simp only [TwoRegionScreen.call, MxcfbDisplayBackend.call, MxcfbDisplayBackend.drawSystemUi]
  cases hpixels : rasterizeSystemUi d.opened.info.screen connected with
  | error e =>
      obtain ⟨e', he'⟩ :=
        presentSystemUiWith_error d.opened d.markers (fun _ _ _ => outcome) hpixels
      rw [he']
      exact ⟨rfl, h.shows, h.cached, h.sized, h.reaches⟩
  | ok pixels =>
      obtain ⟨hstrip, hlen⟩ := pixels_of_rasterizeSystemUi hok.layout_self hok.strip_size.2 hpixels
      rw [hstrip] at hpixels
      have hp := presentSystemUiWith_of d.opened d.markers (fun _ _ _ => outcome) hpixels hlen
      refine ⟨hp.info_eq, ?_, h.cached, h.sized, ?_⟩
      · have hshows := h.shows.writeStrip hok (fits_strip d.opened hlen)
        rwa [← hp.bytes_eq] at hshows
      · intro connected' submit
        have hiff := submission_iff
          (presentSystemUiWith d.opened d.markers connected fun _ _ _ => outcome).opened
          (presentSystemUiWith d.opened d.markers connected fun _ _ _ => outcome).markers
          connected' submit
        rwa [hp.info_eq] at hiff

/-- **Every call** of the backend is the call of its screen. -/
theorem Refines.call (h : Refines info initial s d) (c : DisplayCall) :
    Refines info initial (s.call info.screen c) (d.call c) := by
  cases c with
  | displayRemoteFrame frameId f outcome => exact h.displayRemoteFrame frameId f outcome
  | redrawCachedFrame outcome => exact h.redrawCachedFrame outcome
  | drawSystemUi connected outcome => exact h.drawSystemUi connected outcome

/-- **Over every sequence of calls** the backend is its two-region screen. -/
theorem two_regions (o : OpenedFramebuffer) (seed : UInt32) (calls : List DisplayCall) :
    Refines o.info o.mapping.bytes (calls.foldl (TwoRegionScreen.call o.info.screen) {})
      (calls.foldl MxcfbDisplayBackend.call (.fromOpened o seed)) := by
  have hstart : Refines o.info o.mapping.bytes {} (.fromOpened o seed) := by
    refine ⟨rfl, ⟨rfl, ?_, ?_, ?_⟩, rfl, ?_, submission_iff o _⟩
    · intro _ _ _ _
      rfl
    · intro _ _ _ _
      rfl
    · intro _ _
      rfl
    · intro _ hnone
      cases hnone
  exact List.foldl_rel hstart fun c _ s d h => h.call c

end Refines

end PaperPad.Mxcfb
