import PaperPad.Device.Strip
import PaperPad.Mxcfb.Drawable
import PaperPad.Mxcfb.TwoRegions

/-!
# Mxcfb — Screen

The device with the MXCFB backend, while it runs: `event_loop` on the backend of
`src/mxcfb/backend.rs`.

* `screen_picture`: in every run, where the loop waits for an event, the framebuffer is the
  two-region screen of the calls made so far, whose frames are those handed over, in order.  Its
  strip shows the connection as this turn has found it; its viewport shows the frame handed over
  last, or the last one the kernel accepted; and the window has the framebuffer's size, or the loop
  would have ended.
-/

namespace PaperPad.Mxcfb

open Protocol Device Fallible Transition

section Constant

variable [Platform] (o : OpenedFramebuffer) (markers : UpdateMarkerSequence)

/-! ### One request a call -/

/-- Whatever the kernel makes of requests, it is asked about one. -/
theorem presentRemoteWith_outcome (frame : RemoteFrame) (submit : SubmitUpdate) :
    ∃ outcome, presentRemoteWith o markers frame submit =
      presentRemoteWith o markers frame fun _ _ _ => outcome := by
  simp only [presentRemoteWith]
  split
  · exact ⟨.ok (), rfl⟩
  · split
    · exact ⟨.ok (), rfl⟩
    · split
      · exact ⟨.ok (), rfl⟩
      · split
        · exact ⟨.ok (), rfl⟩
        · exact ⟨_, rfl⟩

theorem presentSystemUiWith_outcome (connected : Bool) (submit : SubmitUpdate) :
    ∃ outcome, presentSystemUiWith o markers connected submit =
      presentSystemUiWith o markers connected fun _ _ _ => outcome := by
  simp only [presentSystemUiWith]
  split
  · exact ⟨.ok (), rfl⟩
  · split
    · exact ⟨.ok (), rfl⟩
    · split
      · exact ⟨.ok (), rfl⟩
      · split
        · exact ⟨.ok (), rfl⟩
        · exact ⟨_, rfl⟩

theorem info_presentRemoteWith (frame : RemoteFrame) (submit : SubmitUpdate) :
    (presentRemoteWith o markers frame submit).opened.info = o.info := by
  simp only [presentRemoteWith]
  repeat' split
  all_goals rfl

theorem info_presentSystemUiWith (connected : Bool) (submit : SubmitUpdate) :
    (presentSystemUiWith o markers connected submit).opened.info = o.info := by
  simp only [presentSystemUiWith]
  repeat' split
  all_goals rfl

end Constant

/-! ### The backend as a display -/

namespace MxcfbDisplayBackend

variable [Platform]

/-- `set_dimensions`: the framebuffer keeps its size. -/
def setDimensions (d : MxcfbDisplayBackend) (dimensions : Viewport) :
    Fallible (Option CachedFrameMetadata) × MxcfbDisplayBackend :=
  let own := d.opened.info.screen.physicalSize
  ((ensure (dimensions = own)
    s!"MXCFB X11 window geometry {dimensions} differs from framebuffer {own}").map fun _ => none, d)

instance : DisplayOperations MxcfbDisplayBackend SubmitUpdate where
  dimensions d := d.opened.info.screen.physicalSize
  pixelFormats _ := V2PixelFormats.MONO1.withFormat .gray8
  setDimensions := setDimensions
  displayRemoteFrame := displayRemoteFrame
  redrawCachedFrame d _ := d.redrawCachedFrame
  drawSystemUi := drawSystemUi

theorem setDimensions_eq_ok {d d' : MxcfbDisplayBackend} {size : Viewport}
    {cached : Option CachedFrameMetadata} (h : d.setDimensions size = (.ok cached, d')) :
    d' = d ∧ size = d.opened.info.screen.physicalSize := by
  obtain ⟨hr, rfl⟩ := Prod.mk.inj h
  by_cases hs : size = d.opened.info.screen.physicalSize
  · exact ⟨rfl, hs⟩
  · rw [ensure, if_neg hs] at hr
    cases hr

instance : LawfulDisplay MxcfbDisplayBackend where
  setDimensions h := by
    obtain ⟨rfl, hsize⟩ := setDimensions_eq_ok h
    exact hsize.symm
  displayRemoteFrame d frame submit := by
    simp only [DisplayOperations.dimensions, DisplayOperations.displayRemoteFrame,
      displayRemoteFrame]
    repeat' split
    · rfl
    · exact congrArg (·.screen.physicalSize) (info_presentRemoteWith ..)
    · exact congrArg (·.screen.physicalSize) (info_presentRemoteWith ..)
  redrawCachedFrame d cause submit := by
    simp only [DisplayOperations.dimensions, DisplayOperations.redrawCachedFrame,
      redrawCachedFrame]
    repeat' split
    · rfl
    · rfl
    · exact congrArg (·.screen.physicalSize) (info_presentRemoteWith ..)
  drawSystemUi d connected submit :=
    congrArg (·.screen.physicalSize) (info_presentSystemUiWith ..)

/-- Every call is one of `TwoRegions`. -/
theorem displayRemoteFrame_call (d : MxcfbDisplayBackend) (frameId : UInt64) (f : Frame)
    (submit : SubmitUpdate) : ∃ outcome, d.displayRemoteFrame (.ofFrame frameId f) submit =
      d.call (.displayRemoteFrame frameId f outcome) := by
  obtain ⟨outcome, h⟩ :=
    presentRemoteWith_outcome d.opened d.markers (.ofFrame frameId f) submit
  exact ⟨outcome, by simp only [call, displayRemoteFrame, h]⟩

theorem redrawCachedFrame_call (d : MxcfbDisplayBackend) (submit : SubmitUpdate) :
    ∃ outcome, d.redrawCachedFrame submit = d.call (.redrawCachedFrame outcome) := by
  simp only [call, redrawCachedFrame]
  split
  · exact ⟨.ok (), rfl⟩
  · split
    · exact ⟨.ok (), rfl⟩
    · next frame _ =>
        obtain ⟨outcome, h⟩ := presentRemoteWith_outcome d.opened d.markers frame submit
        exact ⟨outcome, by rw [h]⟩

/-- A strip that is drawn was rasterized. -/
theorem drawSystemUi_call {d d' : MxcfbDisplayBackend} {connected : Bool} {submit : SubmitUpdate}
    (h : d.drawSystemUi connected submit = (.ok (), d')) :
    (∃ outcome, d' = d.call (.drawSystemUi connected outcome)) ∧
      ∃ pixels, rasterizeSystemUi d.opened.info.screen connected = .ok pixels := by
  obtain ⟨outcome, ho⟩ := presentSystemUiWith_outcome d.opened d.markers connected submit
  obtain ⟨hr, rfl⟩ := Prod.mk.inj h
  refine ⟨⟨outcome, by simp only [call, drawSystemUi, ho]⟩, ?_⟩
  cases hp : rasterizeSystemUi d.opened.info.screen connected with
  | ok pixels => exact ⟨pixels, rfl⟩
  | error e =>
      obtain ⟨e', he⟩ := presentSystemUiWith_error d.opened d.markers submit hp
      rw [he] at hr
      cases hr

end MxcfbDisplayBackend

/-! ### The frames of the calls -/

/-- The frame a call displays. -/
def DisplayCall.frame? : DisplayCall → Option (UInt64 × Frame)
  | .displayRemoteFrame frameId frame _ => some (frameId, frame)
  | _ => none

/-- A frame that was handed over, as a call has it. -/
def handedFrame (h : Handed) : UInt64 × Frame := (h.frame.frameId, h.frame.frame)

section Screen

variable [Platform] {info : FramebufferInfo}

/-- The screen after some calls. -/
def screenAfter (info : FramebufferInfo) (calls : List DisplayCall) : TwoRegionScreen :=
  calls.foldl (TwoRegionScreen.call info.screen) {}

theorem screenAfter_concat (calls : List DisplayCall) (c : DisplayCall) :
    screenAfter info (calls ++ [c]) = (screenAfter info calls).call info.screen c := by
  rw [screenAfter, List.foldl_append, List.foldl_cons, List.foldl_nil]
  rfl

/-- What is cached was displayed, and what is shown is the frame displayed last, or else the one
that is cached. -/
structure ShowsFrames (frames : List (UInt64 × Frame)) (screen : TwoRegionScreen) : Prop where
  cache : ∀ k, screen.cache = some k → k ∈ frames
  remote : screen.remote = frames.getLast?.map Prod.snd ∨
    ∃ k, screen.cache = some k ∧ frames.getLast? ≠ some k ∧ screen.remote = some k.2

/-- **The viewport of the screen** shows its frames, if they have the viewport's size. -/
theorem showsFrames (calls : List DisplayCall)
    (hs : ∀ k ∈ calls.filterMap DisplayCall.frame?, Sized k.2 info.screen) :
    ShowsFrames (calls.filterMap DisplayCall.frame?) (screenAfter info calls) := by
  induction calls using List.reverseRecOn with
  | nil => exact ⟨nofun, .inl rfl⟩
  | append_singleton calls c ih =>
      rw [List.filterMap_append] at hs ⊢
      obtain ⟨hcache, hremote⟩ := ih fun k hk => hs k (List.mem_append_left _ hk)
      rw [screenAfter_concat]
      cases c with
      | displayRemoteFrame frameId frame outcome =>
          rw [show [DisplayCall.displayRemoteFrame frameId frame outcome].filterMap
            DisplayCall.frame? = [(frameId, frame)] from rfl] at hs ⊢
          have hmem : (frameId, frame) ∈ calls.filterMap DisplayCall.frame? ++ [(frameId, frame)] :=
            List.mem_append_right _ (List.mem_singleton_self _)
          have hsize : Sized frame info.screen := hs _ hmem
          simp only [TwoRegionScreen.call, if_pos hsize]
          refine ⟨fun k hk => ?_, .inl ?_⟩
          · dsimp only at hk
            split at hk
            · exact Option.some.inj hk ▸ hmem
            · exact List.mem_append_left _ (hcache k hk)
          · rw [List.getLast?_concat]
            rfl
      | redrawCachedFrame outcome =>
          rw [show [DisplayCall.redrawCachedFrame outcome].filterMap DisplayCall.frame? = [] from rfl,
            List.append_nil]
          simp only [TwoRegionScreen.call]
          split
          · next frameId frame hc =>
              refine ⟨hcache, ?_⟩
              by_cases hlast : (calls.filterMap DisplayCall.frame?).getLast? = some (frameId, frame)
              · exact .inl (by rw [hlast]; rfl)
              · exact .inr ⟨_, hc, hlast, rfl⟩
          · exact ⟨hcache, hremote⟩
      | drawSystemUi connected outcome =>
          rw [show [DisplayCall.drawSystemUi connected outcome].filterMap DisplayCall.frame? = []
            from rfl, List.append_nil]
          simp only [TwoRegionScreen.call]
          split <;> exact ⟨hcache, hremote⟩

/-- The strip of the screen is the one for this state. -/
def ShowsStrip (info : FramebufferInfo) (screen : TwoRegionScreen) (connected : Bool) : Prop :=
  ∃ pixels, rasterizeSystemUi info.screen connected = .ok pixels ∧
    screen.strip = some pixels.bytes

/-- Only a strip that is drawn changes the strip. -/
theorem ShowsStrip.concat {calls : List DisplayCall} {connected : Bool}
    (h : ShowsStrip info (screenAfter info calls) connected) {c : DisplayCall}
    (hc : ∀ connected outcome, c ≠ .drawSystemUi connected outcome) :
    ShowsStrip info (screenAfter info (calls ++ [c])) connected := by
  obtain ⟨pixels, hpixels, hstrip⟩ := h
  refine ⟨pixels, hpixels, ?_⟩
  rw [screenAfter_concat, ← hstrip]
  cases c with
  | displayRemoteFrame => simp only [TwoRegionScreen.call]; split <;> rfl
  | redrawCachedFrame => simp only [TwoRegionScreen.call]; split <;> rfl
  | drawSystemUi connected outcome => exact absurd rfl (hc connected outcome)

end Screen

/-! ### The picture -/

section Picture

variable [Platform] {o : OpenedFramebuffer} {s u : Paperpad MxcfbDisplayBackend}
  {calls : List DisplayCall} {e : PaperpadEvent SubmitUpdate}

/-- The framebuffer is the screen of these calls. -/
structure Pictured (o : OpenedFramebuffer) (calls : List DisplayCall)
    (s : Paperpad MxcfbDisplayBackend) : Prop where
  refines : Refines o.info o.mapping.bytes (screenAfter o.info calls) s.display
  frames : calls.filterMap DisplayCall.frame? = s.handed.map handedFrame
  sized : ∀ h ∈ s.handed, Sized h.frame.frame o.info.screen
  strip : ∀ strip, s.strips.getLast? = some strip → strip.drawn = true →
    ShowsStrip o.info (screenAfter o.info calls) strip.connected

namespace Pictured

theorem start (o : OpenedFramebuffer) (seed : UInt32) (window : Nat) :
    Pictured o [] (.start window (.fromOpened o seed)) :=
  ⟨two_regions o seed [], rfl, nofun, nofun⟩

/-- A step that makes no call. -/
theorem keep (h : Pictured o calls s) (hd : u.display = s.display) (hh : u.handed = s.handed)
    (hl : u.strips = s.strips) : Pictured o calls u := by
  refine ⟨hd ▸ h.refines, by rw [hh]; exact h.frames, ?_, ?_⟩
  · rw [hh]
    exact h.sized
  · rw [hl]
    exact h.strip

/-- A strip is drawn. -/
theorem drawn (h : Pictured o calls s) {connected : Bool} {submit : SubmitUpdate}
    {d : MxcfbDisplayBackend} (hs : s.display.drawSystemUi connected submit = (.ok (), d))
    {size : Viewport} (hd : u.display = d) (hh : u.handed = s.handed)
    (hl : u.strips = s.strips ++ [⟨size, connected, true⟩]) :
    ∃ calls', Pictured o calls' u := by
  obtain ⟨⟨outcome, rfl⟩, pixels, hpixels⟩ := MxcfbDisplayBackend.drawSystemUi_call hs
  rw [h.refines.info_eq] at hpixels
  refine ⟨calls ++ [.drawSystemUi connected outcome], ?_, ?_, by rw [hh]; exact h.sized, ?_⟩
  · rw [screenAfter_concat, hd]
    exact h.refines.call _
  · rw [hh, List.filterMap_append, h.frames]
    exact List.append_nil _
  · intro strip hlast _
    rw [hl, List.getLast?_concat] at hlast
    obtain rfl := Option.some.inj hlast
    refine ⟨pixels, hpixels, ?_⟩
    simp only [screenAfter_concat, TwoRegionScreen.call, hpixels]

/-- The cached frame is put back. -/
theorem redrawn (h : Pictured o calls s) (submit : SubmitUpdate)
    (hd : u.display = s.display.redrawCachedFrame submit) (hh : u.handed = s.handed)
    (hl : u.strips = s.strips) : ∃ calls', Pictured o calls' u := by
  obtain ⟨outcome, hcall⟩ := s.display.redrawCachedFrame_call submit
  refine ⟨calls ++ [.redrawCachedFrame outcome], ?_, ?_, by rw [hh]; exact h.sized, ?_⟩
  · rw [screenAfter_concat, hd, hcall]
    exact h.refines.call _
  · rw [hh, List.filterMap_append, h.frames]
    exact List.append_nil _
  · intro strip hlast hdrawn
    exact (h.strip strip (hl ▸ hlast) hdrawn).concat (by simp)

/-- A frame is handed over. -/
theorem handed (h : Pictured o calls s) (submit : SubmitUpdate) {f : ReceivedFrame}
    {viewport : Viewport} (hf : Sized f.frame o.info.screen)
    (hd : u.display = s.display.displayRemoteFrame (.ofFrame f.frameId f.frame) submit)
    (hh : u.handed = s.handed ++ [⟨f, viewport⟩]) (hl : u.strips = s.strips) :
    ∃ calls', Pictured o calls' u := by
  obtain ⟨outcome, hcall⟩ := s.display.displayRemoteFrame_call f.frameId f.frame submit
  refine ⟨calls ++ [.displayRemoteFrame f.frameId f.frame outcome], ?_, ?_, ?_, ?_⟩
  · rw [screenAfter_concat, hd, hcall]
    exact h.refines.call _
  · rw [hh, List.filterMap_append, h.frames, List.map_append]
    rfl
  · intro k hk
    rw [hh, List.mem_append] at hk
    rcases hk with hk | hk
    · exact h.sized k hk
    · rw [List.mem_singleton.mp hk]
      exact hf
  · intro strip hlast hdrawn
    exact (h.strip strip (hl ▸ hlast) hdrawn).concat (by simp)

/-- The window has the framebuffer's size. -/
theorem size (h : Pictured o calls s) (hs : s.Sized)
    (hpc : s.pc = .polling ∨ s.pc = .waiting) : s.app.size = o.info.screen.physicalSize := by
  rw [← h.refines.info_eq]
  rcases hpc with hpc | hpc
  · simp only [Paperpad.Sized, hpc] at hs
    exact hs.symm
  · simp only [Paperpad.Sized, hpc] at hs
    exact hs.symm

theorem step (h : Pictured o calls s) (hs : s.Sized) (hi : LoopInv s.core)
    (k : PaperpadMove s e u) (hu : u.Live) : ∃ calls', Pictured o calls' u := by
  cases k with
  | indicatorDrawn _ _ _ _ hd => exact h.drawn hd rfl rfl rfl
  | @poll submit t f hpc hm hf =>
      have hready : s.core.Ready := ⟨by rw [Paperpad.core, hpc]; rfl, hm⟩
      have hdim := (hi.pending hready hf).1
      have hsize : f.dimensions = remoteViewportSize o.info.screen.physicalSize :=
        h.size hs (.inl hpc) ▸ hdim
      rw [show remoteViewportSize o.info.screen.physicalSize = _ by
        rw [remoteViewportSize, h.refines.accepted.layout_self]] at hsize
      obtain ⟨hw, hh⟩ := Prod.mk.inj hsize
      exact h.handed submit ⟨hw, hh⟩ rfl rfl rfl
  | @expose _ answers d _ hd =>
      obtain ⟨calls', hdrawn⟩ := h.drawn hd
        (u := { s with
          display := d
          strips := s.strips ++ [⟨DisplayOperations.dimensions s.display, s.connected, true⟩] })
        rfl rfl rfl
      exact hdrawn.redrawn answers.2 rfl rfl rfl
  | @setDimensions answers size cached d d' _ _ hset hd =>
      obtain ⟨rfl, -⟩ := MxcfbDisplayBackend.setDimensions_eq_ok hset
      obtain ⟨calls', hdrawn⟩ := h.drawn hd
        (u := { s with
          display := d'
          strips := s.strips ++ [⟨DisplayOperations.dimensions s.display, s.connected, true⟩] })
        rfl rfl rfl
      exact hdrawn.redrawn answers.2 rfl rfl rfl
  | failed _ _ hpc => exact absurd hpc (hu _)
  | destroyNotify => exact absurd rfl (hu _)
  | _ => exact ⟨calls, h.keep rfl rfl rfl⟩

end Pictured

theorem pictured_run {seed : UInt32} {window : Nat} {es : List (PaperpadEvent SubmitUpdate)}
    (h : Run (Fn paperpadStep) (.start window (.fromOpened o seed)) es s) (hs : s.Live) :
    ∃ calls, Pictured o calls s := by
  refine h.history (I := fun _ s => s.Live → ∃ calls, Pictured o calls s)
    (fun _ => ⟨[], .start o seed window⟩) (fun h ih k hu => ?_) hs
  have k := paperpadStep_move k
  obtain ⟨hsized, fs, hfs⟩ := core_run h
  obtain ⟨calls, hp⟩ := ih (k.live hu)
  exact hp.step hsized ((LoopInv.start _ _ _).run hfs) k hu

/-- Where the loop waits for an event. -/
theorem pictured_waiting {seed : UInt32} {window : Nat} {es : List (PaperpadEvent SubmitUpdate)}
    (h : Run (Fn paperpadStep) (.start window (.fromOpened o seed)) es s) (hw : s.pc = .waiting) :
    ∃ calls, Pictured o calls s ∧ ShowsStrip o.info (screenAfter o.info calls) s.connected ∧
      ShowsFrames (s.handed.map handedFrame) (screenAfter o.info calls) := by
  have hlive : s.Live := by
    intro r hr
    rw [hw] at hr
    cases hr
  obtain ⟨calls, hp⟩ := pictured_run h hlive
  have hstripped : Stripped s := stripped_run h hlive
  have hlast := hstripped.strip _ (hstripped.found (by simp [hw]))
  have hstrip := hp.strip _ hlast rfl
  have hframes : ∀ k ∈ calls.filterMap DisplayCall.frame?, Sized k.2 o.info.screen := by
    intro k hk
    rw [hp.frames] at hk
    obtain ⟨handed, hmem, rfl⟩ := List.mem_map.mp hk
    exact hp.sized handed hmem
  exact ⟨calls, hp, hstrip, hp.frames ▸ showsFrames calls hframes⟩

/-- The kernel accepts what it is asked. -/
def acceptAll : SubmitUpdate := fun _ _ _ => .ok ()

/-- On a framebuffer with room for the strip it can be drawn. -/
theorem drawSystemUi_wide (hw : 40 < o.info.geometry.xres.toNat) (markers : UpdateMarkerSequence)
    (connected : Bool) (cache : RemoteFrameCache (List UInt8)) :
    ∃ d, DisplayOperations.drawSystemUi (⟨o, markers, cache⟩ : MxcfbDisplayBackend) connected
      acceptAll = (.ok (), d) := by
  have hok := o.accepted
  have hwide : 40 < o.info.screen.physicalSize.1 := by
    rw [UInt16.lt_iff_toNat_lt, hok.physicalWidth_toNat]
    exact hw
  obtain ⟨bytes, hpixels, hlen⟩ :=
    rasterizeSystemUi_of_lt hok.layout_self hok.strip_size.2 hwide connected
  obtain ⟨update, hr⟩ :=
    (presentSystemUiWith_of o markers acceptAll hpixels hlen).submitted.mpr rfl
  exact ⟨_, Prod.ext (congrArg (Except.map fun _ => ()) hr) rfl⟩

end Picture

/-- A framebuffer of sixty-four columns, with one row above the strip. -/
theorem opened_wide : ∃ o : @OpenedFramebuffer .usize64,
    (@OpenedFramebuffer.info .usize64 o).screen.physicalSize = (64, 73) ∧
      40 < (@OpenedFramebuffer.info .usize64 o).geometry.xres.toNat := by
  let _ : Platform := .usize64
  obtain ⟨o, ho⟩ := opens_wide
  obtain ⟨_, _, _, hopen⟩ := ho
  have hkernel := OpenedFramebuffer.fromKernel_of_fromFile hopen
  have hsize := congrArg (Except.map (·.screen.physicalSize)) hkernel
  refine ⟨o, (Except.ok.inj hsize).symm, ?_⟩
  rw [xres_of_fromKernel hkernel]
  decide

/-- A frame for it. -/
def wideFrame : Frame := .mono1
  { width := 64
    height := 1
    stride := 8
    pixels := [0xF0, 0x0F, 0xAA, 0x55, 0xFF, 0x00, 0x81, 0x18]
    valid := ⟨by decide, by decide, rfl, rfl, by decide⟩ }

/-- Two turns on it: the first finds no connection, and is handed a frame that came with one; the
second finds the connection. -/
theorem two_turns_wide : ∃ (o : @OpenedFramebuffer .usize64) (s : Paperpad _),
    Run (Fn (@paperpadStep _ _ _ .usize64)) (.start 1 (@MxcfbDisplayBackend.fromOpened .usize64 o 7))
      (greetedTurn acceptAll 5 wideFrame ++ quietTurn acceptAll) s ∧
    s.pc = .waiting ∧ s.connected = true ∧ s.readings = [false, true] ∧ s.app.size = (64, 73) ∧
    s.handed = [⟨⟨5, wideFrame, 0⟩, (64, 1)⟩] := by
  let _ : Platform := .usize64
  obtain ⟨o, hsize, hwide⟩ := opened_wide
  have hdim : DisplayOperations.dimensions (MxcfbDisplayBackend.fromOpened o 7) = (64, 73) := hsize
  obtain ⟨d, hd⟩ : ∃ d, DisplayOperations.drawSystemUi (MxcfbDisplayBackend.fromOpened o 7) false
      acceptAll = (.ok (), d) := drawSystemUi_wide hwide ..
  have hfirst := run_greetedTurn 1 5 hd (f := wideFrame) (by rw [hdim]; rfl)
  -- what is drawn on has the same size
  obtain ⟨calls, hp⟩ := pictured_run hfirst (by simp [Paperpad.Live, greetedState, Paperpad.shown])
  obtain ⟨d', hd'⟩ := drawSystemUi_wide
    (o := (greetedState 1 (MxcfbDisplayBackend.fromOpened o 7) d acceptAll 5
      wideFrame).display.opened) (by rw [hp.refines.info_eq]; exact hwide) _ true _
  obtain ⟨s, hs, hw, hconnected, hreadings, happ, hhanded⟩ := run_quietTurn 1 5 hd'
  refine ⟨o, s, hfirst.trans hs, hw, hconnected, hreadings, ?_, ?_⟩
  · rw [happ, hdim]
    rfl
  · rw [hhanded, hdim]
    rfl

theorem strip_current_connected : ∃ (o : @OpenedFramebuffer .usize64) (s : Paperpad _),
    Run (Fn (@paperpadStep _ _ _ .usize64)) (.start 1 (@MxcfbDisplayBackend.fromOpened .usize64 o 7))
      (greetedTurn acceptAll 5 wideFrame ++ quietTurn acceptAll) s ∧
    s.strips.getLast? = some ⟨(64, 73), true, true⟩ ∧ s.indicators = [false, true] := by
  obtain ⟨o, s, h, hw, hconnected, hreadings, hsize, -⟩ := two_turns_wide
  obtain ⟨hstrip, -, hindicators, -⟩ := @strip_current _ _ _ _ .usize64 _ _ _ _ h hw
  rw [hsize, hconnected] at hstrip
  rw [hreadings] at hindicators
  exact ⟨o, s, h, hstrip, hindicators⟩

end PaperPad.Mxcfb
