import PaperPad.Device.Strip
import PaperPad.X11.Redraw

/-!
# X11 — Window

The device with the X11 backend, while it runs: `event_loop` on the backend of
`src/x11/backend.rs`, with the requests the server has accepted as a history.

* `strip_survives`: in every run, where the loop waits for an event in a window higher than the
  strip, the strip for what this turn has found was drawn whole, and every request accepted since
  lies in the remote viewport; so whatever the server draws for these, the strip is as drawn.
-/

namespace PaperPad.X11

open Protocol Device Fallible Transition

/-! ### The backend as a display -/

/-- What the server makes of the requests of a call, and whether they can be flushed. -/
structure Answers where
  accepts : Request → Bool
  flushed : Bool

/-- The backend, the adapter it keeps, and the requests accepted so far, oldest first. -/
structure X11Display where
  backend : X11DisplayBackend PreparedBitmap
  bitmapAdapter : Option X11BitmapAdapter
  adapter_eq : backend.adapter = bitmapAdapter.isSome
  sent : List Request := []

namespace X11Display

/-- `X11DisplayBackend::new`; the adapter is there if the setup is supported. -/
def new (dimensions : Viewport) (bitmapAdapter : Option X11BitmapAdapter) : X11Display where
  backend := { dimensions, adapter := bitmapAdapter.isSome }
  bitmapAdapter
  adapter_eq := rfl

/-- `prepare` and `blit`: an upload succeeds if every chunk has a destination and is accepted. -/
def upload [Platform] (adapter : X11BitmapAdapter) (dimensions : Viewport) (answers : Answers)
    (frame : RemoteFrame) : Presentation PreparedBitmap × List Request :=
  match adapter.prepare frame.width frame.height frame.pixels with
  | .error _ => (.prepareFailed, [])
  | .ok bitmap =>
      let requests := blitRequests (remoteViewportOrigin dimensions) bitmap.width bitmap.chunks
      let sent := requests.filter answers.accepts
      if requests.length = bitmap.chunks.length ∧ sent = requests ∧ answers.flushed then
        (.uploaded bitmap, sent)
      else (.uploadFailed, sent)

/-- The window has a new size. -/
def setDimensions (d : X11Display) (dimensions : Viewport) :
    Fallible (Option CachedFrameMetadata) × X11Display :=
  let r := d.backend.setDimensions dimensions
  (.ok (r.2.map fun f => ⟨f.frameId, f.dimensions, f.pixelFormat, f.stride⟩),
    { d with backend := r.1, adapter_eq := d.adapter_eq })

theorem displayRemoteFrame_adapter (d : X11DisplayBackend PreparedBitmap) (frame : RemoteFrame)
    (presentation : Presentation PreparedBitmap) :
    (d.displayRemoteFrame frame presentation).adapter = d.adapter := by
  simp only [X11DisplayBackend.displayRemoteFrame]
  repeat' split
  all_goals rfl

/-- Upload a Mono1 frame and cache it. -/
def displayRemoteFrame [Platform] (d : X11Display) (frame : RemoteFrame) (answers : Answers) :
    X11Display :=
  if frame.pixelFormat ≠ .mono1 then d
  else
    match d.bitmapAdapter with
    | none => d
    | some adapter =>
        let uploaded := upload adapter d.backend.dimensions answers frame
        { d with
          backend := d.backend.displayRemoteFrame frame uploaded.1
          adapter_eq := (displayRemoteFrame_adapter ..).trans d.adapter_eq
          sent := d.sent ++ uploaded.2 }

/-- `draw_system_ui`; without a strip to draw nothing is flushed. -/
def drawSystemUi (d : X11Display) (connected : Bool) (answers : Answers) :
    Fallible Unit × X11Display :=
  let (result, sent) := X11.drawSystemUi answers.accepts d.backend.dimensions connected
  let flushed : Fallible Unit :=
    match ScreenLayout.new d.backend.dimensions.1 d.backend.dimensions.2 with
    | none => .ok ()
    | some _ => ensure answers.flushed "failed to flush X11 draw requests"
  (result.bind fun _ => flushed, { d with sent := d.sent ++ sent })

/-- A strip that is drawn was drawn whole. -/
theorem drawSystemUi_eq_ok {d d' : X11Display} {connected : Bool} {answers : Answers}
    (h : d.drawSystemUi connected answers = (.ok (), d')) :
    (X11.drawSystemUi answers.accepts d.backend.dimensions connected).1 = .ok () ∧
      d' = { d with
        sent := d.sent ++
          (X11.drawSystemUi answers.accepts d.backend.dimensions connected).2 } := by
  obtain ⟨hr, rfl⟩ := Prod.mk.inj h
  refine ⟨?_, rfl⟩
  cases hx : (X11.drawSystemUi answers.accepts d.backend.dimensions connected).1 with
  | ok => rfl
  | error e =>
      have hr : (X11.drawSystemUi answers.accepts d.backend.dimensions connected).1.bind _ =
        .ok () := hr
      rw [hx] at hr
      cases hr

/-- A bitmap has the size of its frame. -/
theorem size_of_prepare [Platform] {a : X11BitmapAdapter} {width height : UInt16}
    {pixels : List UInt8} {b : PreparedBitmap} (h : a.prepare width height pixels = .ok b) :
    (b.width, b.height) = (width, height) := by
  simp only [X11BitmapAdapter.prepare] at h
  split at h
  · cases h
  · split at h
    · cases h
      rfl
    · cases h

/-- A request for a bitmap of this size. -/
def Blits (dimensions size : Viewport) (r : Request) : Prop :=
  ∃ b : PreparedBitmap, (b.width, b.height) = size ∧
    r ∈ blitRequests (remoteViewportOrigin dimensions) b.width b.chunks

theorem upload_spec [Platform] (a : X11BitmapAdapter) (dimensions : Viewport) (answers : Answers)
    (frame : RemoteFrame) :
    (∀ r ∈ (upload a dimensions answers frame).2, Blits dimensions frame.dimensions r) ∧
      ∀ b, (upload a dimensions answers frame).1 = .uploaded b →
        (b.width, b.height) = frame.dimensions := by
  simp only [upload]
  split
  · exact ⟨nofun, nofun⟩
  · next b hb =>
      have hsize := size_of_prepare hb
      split
      · exact ⟨fun r hr => ⟨b, hsize, List.mem_of_mem_filter hr⟩, by rintro _ ⟨⟩; exact hsize⟩
      · exact ⟨fun r hr => ⟨b, hsize, List.mem_of_mem_filter hr⟩, nofun⟩

/-- What displaying a frame sends and caches. -/
theorem displayRemoteFrame_spec [Platform] (d : X11Display) (frame : RemoteFrame)
    (answers : Answers) :
    ∃ more, (d.displayRemoteFrame frame answers).sent = d.sent ++ more ∧
      (∀ r ∈ more, Blits d.backend.dimensions frame.dimensions r) ∧
      ∀ f, (d.displayRemoteFrame frame answers).backend.remoteFrameCache.current = some f →
        d.backend.remoteFrameCache.current = some f ∨
          (f.payload.width, f.payload.height) = frame.dimensions ∧
            f.dimensions = frame.dimensions := by
  simp only [displayRemoteFrame]
  split
  · exact ⟨[], (List.append_nil _).symm, nofun, fun _ => .inl⟩
  · split
    · exact ⟨[], (List.append_nil _).symm, nofun, fun _ => .inl⟩
    · next a _ =>
        obtain ⟨hsent, hsize⟩ := upload_spec a d.backend.dimensions answers frame
        refine ⟨_, rfl, hsent, fun f hf => ?_⟩
        dsimp only [X11DisplayBackend.displayRemoteFrame] at hf
        repeat' split at hf
        · exact .inl hf
        · exact .inl hf
        · exact .inl hf
        · exact .inl hf
        · next b hb =>
            cases hf
            exact .inr ⟨hsize b hb, rfl⟩

instance displayOperations [Platform] : DisplayOperations X11Display Answers where
  dimensions d := d.backend.dimensions
  pixelFormats _ := .MONO1
  setDimensions := setDimensions
  displayRemoteFrame := displayRemoteFrame
  redrawCachedFrame d _ answers :=
    { d with sent := d.sent ++ X11.redrawCachedFrame answers.accepts d.backend }
  drawSystemUi := drawSystemUi

instance [Platform] : LawfulDisplay X11Display where
  setDimensions h := by
    obtain ⟨-, rfl⟩ := Prod.mk.inj h
    rfl
  displayRemoteFrame d frame answers := by
    simp only [DisplayOperations.dimensions, DisplayOperations.displayRemoteFrame,
      displayRemoteFrame]
    split
    · rfl
    · split
      · rfl
      · exact X11DisplayBackend.displayRemoteFrame_dimensions ..
  redrawCachedFrame _ _ _ := rfl
  drawSystemUi _ _ _ := rfl

end X11Display

/-! ### Requests above the strip -/

section Requests

variable {dimensions : Viewport} {screen : ScreenLayout}
  (hl : ScreenLayout.new dimensions.1 dimensions.2 = some screen)

include hl

/-- The chunks of a bitmap of the viewport's size go into the viewport. -/
theorem area_blit {bitmap : PreparedBitmap}
    (hb : (bitmap.width, bitmap.height) = remoteViewportSize dimensions) {r : Request}
    (h : r ∈ blitRequests (remoteViewportOrigin dimensions) bitmap.width bitmap.chunks) :
    r.area dimensions ⊆ screen.remoteViewport.points := by
  obtain ⟨hx, hy, -, hsize⟩ := ScreenLayout.new_spec hl
  have hzero : (0 : Int16).toInt = 0 := rfl
  have hx0 : screen.remoteViewport.x.toNat = 0 := congrArg UInt16.toNat hx
  have hy0 : screen.remoteViewport.y.toNat = 0 := congrArg UInt16.toNat hy
  have horigin : remoteViewportOrigin dimensions = (0, 0) := by
    simp only [remoteViewportOrigin, hl, hx, hy]
    rfl
  rw [horigin] at h
  obtain ⟨c, hc, y, hyc, rfl⟩ := mem_blitRequests h
  obtain ⟨firstRow, hrow, rfl⟩ := mem_chunks hc
  have hyc : y.toInt = (chunkAt bitmap firstRow).yOffset.toNat := by
    rw [destinationY_eq_some hyc]
    exact Int.zero_add _
  rw [hsize] at hb
  obtain ⟨hwidth, hheight⟩ := Prod.mk.inj hb
  have hend := chunkAt_rows_le hrow
  intro p hp
  obtain ⟨-, ⟨-, hxw⟩, hylo, hyh⟩ := hp
  dsimp only at hxw
  rw [hyc, chunkAt_yOffset hrow] at hyh
  rw [hwidth] at hxw
  rw [hheight] at hend
  exact ⟨⟨by omega, by omega⟩, by omega, by omega⟩

/-- A window higher than the strip has rows above it. -/
theorem viewport_height_ne (hh : 72 < dimensions.2.toNat) : screen.remoteViewport.height ≠ 0 := by
  have sizes := ScreenLayout.sizes hl
  have hremote := sizes.remote_height
  have hheight := sizes.height
  intro e
  rw [e, UInt16.toNat_zero] at hremote
  omega

end Requests

/-! ### The strip since it was drawn -/

section Run

variable {s u : Paperpad X11Display} {e : PaperpadEvent Answers}

/-- The strip was drawn whole, and what was accepted since is above it. -/
structure StripSince (size : Viewport) (connected : Bool) (sent after : List Request) : Prop where
  drawn : ∃ before accepts,
    (drawSystemUi accepts size connected).1 = .ok () ∧
      sent = before ++ (drawSystemUi accepts size connected).2 ++ after
  above : ∀ screen, ScreenLayout.new size.1 size.2 = some screen → 72 < size.2.toNat →
    ∀ r ∈ after, r.area size ⊆ screen.remoteViewport.points

theorem StripSince.append {size : Viewport} {connected : Bool} {sent after more : List Request}
    (h : StripSince size connected sent after)
    (hm : ∀ screen, ScreenLayout.new size.1 size.2 = some screen → 72 < size.2.toNat →
      ∀ r ∈ more, r.area size ⊆ screen.remoteViewport.points) :
    StripSince size connected (sent ++ more) (after ++ more) := by
  obtain ⟨before, accepts, hok, hsent⟩ := h.drawn
  refine ⟨⟨before, accepts, hok, by rw [hsent, List.append_assoc]⟩, fun screen hl hh r hr => ?_⟩
  rcases List.mem_append.mp hr with hr | hr
  · exact h.above screen hl hh r hr
  · exact hm screen hl hh r hr

/-- What the requests so far have to do with the strip. -/
structure Windowed (s : Paperpad X11Display) : Prop where
  /-- A cached bitmap has the size of its frame, and that is the viewport's. -/
  cached : ∀ f, s.display.backend.remoteFrameCache.current = some f →
    (f.payload.width, f.payload.height) = f.dimensions ∧
      f.dimensions = remoteViewportSize s.display.backend.dimensions
  strip : ∀ strip, s.strips.getLast? = some strip → strip.drawn = true →
    ∃ after, StripSince strip.size strip.connected s.display.sent after

theorem Windowed.showsViewport (h : Windowed s) : ShowsViewport s.display.backend := by
  intro f hf
  obtain ⟨hpayload, hdim⟩ := h.cached f hf
  exact hpayload.trans hdim

namespace Windowed

theorem start [Platform] (window : Nat) (size : Viewport) (adapter : Option X11BitmapAdapter) :
    Windowed (.start window (.new size adapter)) :=
  ⟨nofun, nofun⟩

/-- A step that makes no call. -/
theorem keep (h : Windowed s) (hd : u.display = s.display) (hl : u.strips = s.strips) :
    Windowed u := by
  refine ⟨hd ▸ h.cached, ?_⟩
  rw [hl, hd]
  exact h.strip

/-- The strip is drawn. -/
theorem drawn (h : Windowed s) {connected : Bool} {answers : Answers} {d : X11Display}
    (hs : s.display.drawSystemUi connected answers = (.ok (), d)) (hd : u.display = d)
    (hl : u.strips = s.strips ++ [⟨s.display.backend.dimensions, connected, true⟩]) :
    Windowed u := by
  obtain ⟨hok, rfl⟩ := X11Display.drawSystemUi_eq_ok hs
  refine ⟨by rw [hd]; exact h.cached, fun strip hlast _ => ⟨[], ⟨?_, nofun⟩⟩⟩
  rw [hl, List.getLast?_concat] at hlast
  obtain rfl := Option.some.inj hlast
  refine ⟨s.display.sent, answers.accepts, hok, ?_⟩
  rw [hd, List.append_nil]

/-- Requests above the strip. -/
theorem sends (h : Windowed s) {more : List Request}
    (hc : ∀ f, u.display.backend.remoteFrameCache.current = some f →
      (f.payload.width, f.payload.height) = f.dimensions ∧
        f.dimensions = remoteViewportSize u.display.backend.dimensions)
    (hd : u.display.sent = s.display.sent ++ more) (hl : u.strips = s.strips)
    (hsize : ∀ strip, s.strips.getLast? = some strip →
      strip.size = s.display.backend.dimensions)
    (hm : ∀ screen, ScreenLayout.new s.display.backend.dimensions.1
        s.display.backend.dimensions.2 = some screen → 72 < s.display.backend.dimensions.2.toNat →
      ∀ r ∈ more, r.area s.display.backend.dimensions ⊆ screen.remoteViewport.points) :
    Windowed u := by
  refine ⟨hc, fun strip hlast hdrawn => ?_⟩
  rw [hl] at hlast
  obtain ⟨after, hafter⟩ := h.strip strip hlast hdrawn
  rw [hd]
  exact ⟨after ++ more, hafter.append (by rw [hsize strip hlast]; exact hm)⟩

/-- The cached frame is put back. -/
theorem redrawn (h : Windowed s) (answers : Answers)
    (hd : u.display = { s.display with
      sent := s.display.sent ++ X11.redrawCachedFrame answers.accepts s.display.backend })
    (hl : u.strips = s.strips)
    (hsize : ∀ strip, s.strips.getLast? = some strip →
      strip.size = s.display.backend.dimensions) : Windowed u := by
  refine h.sends (by rw [hd]; exact h.cached) (by rw [hd]) hl hsize fun screen hs hh r hr => ?_
  exact area_redrawCachedFrame hs h.showsViewport (viewport_height_ne hs hh) hr

variable [Platform]

/-- A frame of the viewport's size is displayed. -/
theorem displayed (h : Windowed s) {frame : RemoteFrame} {answers : Answers}
    (hf : frame.dimensions = remoteViewportSize s.display.backend.dimensions)
    (hd : u.display = s.display.displayRemoteFrame frame answers) (hl : u.strips = s.strips)
    (hsize : ∀ strip, s.strips.getLast? = some strip →
      strip.size = s.display.backend.dimensions) : Windowed u := by
  obtain ⟨more, hsent, hblits, hcache⟩ := s.display.displayRemoteFrame_spec frame answers
  have hdim : (s.display.displayRemoteFrame frame answers).backend.dimensions =
      s.display.backend.dimensions := LawfulDisplay.displayRemoteFrame s.display frame answers
  refine h.sends (fun f hu => ?_) (by rw [hd, hsent]) hl hsize fun screen hs hh r hr => ?_
  · rw [hd] at hu ⊢
    rw [hdim]
    rcases hcache f hu with hold | ⟨hpayload, hframe⟩
    · exact h.cached f hold
    · exact ⟨hpayload.trans hframe.symm, hframe.trans hf⟩
  · obtain ⟨b, hb, hr⟩ := hblits r hr
    exact area_blit hs (hb.trans hf) hr

/-- A redraw: the strip, and what is above it. -/
theorem redraw (h : Windowed s) {cause : RedrawCause} {answers answers' : Answers} {d : X11Display}
    (hs : DisplayOperations.drawSystemUi s.display s.connected answers = (.ok (), d)) :
    Windowed (s.redrawn d cause answers') := by
  have hdrawn : Windowed { s with
      display := d
      strips := s.strips ++ [⟨s.display.backend.dimensions, s.connected, true⟩] } :=
    h.drawn hs rfl rfl
  refine hdrawn.redrawn answers' rfl rfl fun strip hlast => ?_
  rw [List.getLast?_concat] at hlast
  obtain rfl := Option.some.inj hlast
  exact (dimensions_drawSystemUi hs).symm

omit [Platform] in
/-- The window gets another size. -/
theorem resize (h : Windowed s) (size : Viewport) :
    Windowed { s with display := (s.display.setDimensions size).2 } := by
  refine ⟨fun f hf => ?_, h.strip⟩
  have hmatching := X11DisplayBackend.cached_setDimensions s.display.backend size f hf
  refine ⟨?_, hmatching⟩
  dsimp only [X11Display.setDimensions, X11DisplayBackend.setDimensions,
    RemoteFrameCache.invalidateMismatched] at hf
  split at hf
  · cases hf
  · exact (h.cached f hf).1

theorem step (h : Windowed s) (hs : s.Sized) (hstrip : Stripped s) (hi : LoopInv s.core)
    (k : PaperpadMove s e u) (hu : u.Live) : Windowed u := by
  -- after the first turn the strip drawn last has the display's size
  have hsize (hpc : s.pc ≠ .top) : ∀ strip, s.strips.getLast? = some strip →
      strip.size = s.display.backend.dimensions := by
    intro strip hlast
    have hd := hstrip.strip _ (hstrip.found hpc)
    rw [hd] at hlast
    exact (congrArg Strip.size (Option.some.inj hlast)).symm
  cases k with
  | indicatorDrawn _ _ _ _ hd => exact h.drawn hd rfl rfl
  | @poll answers t f hpc hm hf =>
      have hready : s.core.Ready := ⟨by rw [Paperpad.core, hpc]; rfl, hm⟩
      have hdim : (RemoteFrame.ofFrame f.frameId f.frame).dimensions =
        remoteViewportSize s.app.size := (hi.pending hready hf).1
      simp only [Paperpad.Sized, hpc] at hs
      rw [← hs] at hdim
      exact h.displayed hdim rfl rfl (hsize (by simp [hpc]))
  | expose _ hd => exact h.redraw hd
  | @setDimensions _ size _ d _ _ _ hset hd =>
      obtain rfl : (s.display.setDimensions size).2 = d := congrArg Prod.snd hset
      exact (h.resize size).redraw hd
  | failed _ _ hpc => exact absurd hpc (hu _)
  | destroyNotify => exact absurd rfl (hu _)
  | _ => exact h.keep rfl rfl

end Windowed

/-- **The strip survives.**  In every run of the device on X11, whatever the server sends and
answers and however the threads interleave: where the loop waits for an event in a window higher
than the strip, the strip for what this turn found has been drawn whole at the window's size, and
every request accepted since lies in the remote viewport; so the strip is as it was drawn. -/
theorem strip_survives [Platform] {size : Viewport} {adapter : Option X11BitmapAdapter} {window : Nat}
    {es : List (PaperpadEvent Answers)}
    (h : Run (Fn paperpadStep) (.start window (X11Display.new size adapter)) es s)
    (hw : s.pc = .waiting) {screen : ScreenLayout}
    (hl : ScreenLayout.new s.app.width s.app.height = some screen)
    (hh : 72 < s.app.height.toNat) :
    ∃ before accepts after,
      (drawSystemUi accepts s.app.size s.connected).1 = .ok () ∧
      s.display.sent = before ++ (drawSystemUi accepts s.app.size s.connected).2 ++ after ∧
      (∀ r ∈ after, r.area s.app.size ⊆ screen.remoteViewport.points) ∧
      ∀ (γ : Type) (server : Server s.app.size γ) picture, ∀ p ∈ screen.systemUiRegion.points,
        server.shown picture ((drawSystemUi accepts s.app.size s.connected).2 ++ after) p =
          server.shown picture (drawSystemUi accepts s.app.size s.connected).2 p := by
  have hlive : s.Live := by
    intro r hr
    rw [hw] at hr
    cases hr
  have hwindowed : Windowed s := by
    refine h.history (I := fun _ s => s.Live → Windowed s)
      (fun _ => .start window size adapter) (fun h ih k hu => ?_) hlive
    have k := paperpadStep_move k
    obtain ⟨hs, fs, hfs⟩ := core_run h
    have hlive := k.live hu
    exact (ih hlive).step hs (stripped_run h hlive) ((LoopInv.start _ _ _).run hfs) k hu
  have hstripped : Stripped s := stripped_run h hlive
  have hsized := (core_run h).1
  simp only [Paperpad.Sized, hw] at hsized
  have hlast := hstripped.strip _ (hstripped.found (by simp [hw]))
  rw [hsized] at hlast
  obtain ⟨after, hdrawn, habove⟩ := hwindowed.strip _ hlast rfl
  obtain ⟨before, accepts, hok, hsent⟩ := hdrawn
  have habove := habove screen hl hh
  refine ⟨before, accepts, after, hok, hsent, habove, fun γ server picture p hp => ?_⟩
  rw [Server.shown, List.foldl_append]
  exact server.shown_of_notMem
    (fun r hr hpr => notMem_strip (d := ⟨s.app.size, true, {}⟩) hl (habove r hr hpr) hp) _

end Run

/-! ### A window with a frame -/

section Whole

variable {accepts : Request → Bool}

theorem send_whole {r : Request} {rejected : String} (h : (send accepts r rejected).1 = .ok ()) :
    send accepts r rejected = send (fun _ => true) r rejected := by
  by_cases ha : accepts r = true
  · rw [send, send, if_pos ha, if_pos rfl]
  · rw [send, if_neg ha] at h
    cases h

theorem andThen_whole {a a' b b' : Sending} (h : (a.andThen b).1 = .ok ())
    (ha : a.1 = .ok () → a = a') (hb : b.1 = .ok () → b = b') : a.andThen b = a'.andThen b' := by
  obtain ⟨e | ⟨⟩, sent⟩ := a
  · cases h
  · rw [← ha rfl, hb h]

/-- A strip that was drawn whole is the same, whatever else would have been accepted. -/
theorem drawSystemUi_whole {dimensions : Viewport} {connected : Bool}
    (h : (drawSystemUi accepts dimensions connected).1 = .ok ()) :
    drawSystemUi accepts dimensions connected =
      drawSystemUi (fun _ => true) dimensions connected := by
  have htext {text : TextPlacement} (h : (imageText accepts text).1 = .ok ()) :
      imageText accepts text = imageText (fun _ => true) text := by
    by_cases hlength : text.text.length ≤ MAX_IMAGE_TEXT8_BYTES
    · simp only [imageText, if_pos hlength] at h ⊢
      exact send_whole h
    · simp only [imageText, if_neg hlength] at h
      cases h
  have hindicator {bounds : Option LayoutRect} (h : (drawIndicator accepts connected bounds).1 =
      .ok ()) : drawIndicator accepts connected bounds =
        drawIndicator (fun _ => true) connected bounds := by
    cases bounds with
    | none => rfl
    | some bounds => exact send_whole h
  simp only [drawSystemUi] at h ⊢
  split at h
  · rfl
  · split at h
    · exact send_whole h
    · next layout _ =>
        refine andThen_whole h send_whole fun h => andThen_whole h send_whole fun h =>
          andThen_whole h (fun h => ?_) hindicator
        by_cases hy : layout.text.y ≥ 0
        · simp only [if_pos hy] at h ⊢
          exact htext h
        · simp only [if_neg hy]

end Whole

/-- The server accepts every request. -/
def acceptAll : Answers := ⟨fun _ => true, true⟩

/-- Requests with room for one row of eight bytes. -/
def narrowAdapter : X11BitmapAdapter :=
  ⟨⟨.LSB_FIRST, .MSB_FIRST, 16, 32, supported_mixed⟩, 32, by decide⟩

/-- A window of sixty-four columns, with two rows above the strip. -/
def wideWindow : X11Display := .new (64, 74) (some narrowAdapter)

/-- Two rows of 64 pixels. -/
def wideFrame : Mono1Frame where
  width := 64
  height := 2
  stride := 8
  pixels := [0xF0, 0x0F, 0xAA, 0x55, 0xFF, 0x00, 0x81, 0x18, 1, 2, 3, 4, 5, 6, 7, 8]
  valid := ⟨by decide, by decide, rfl, rfl, by decide⟩

/-- The frame goes up in two requests after the strip. -/
theorem strip_survives_frame : ∃ s : Paperpad X11Display,
    Run (Fn (@paperpadStep _ _ (@X11Display.displayOperations .usize64) .usize64))
      (@Paperpad.start _ _ (@X11Display.displayOperations .usize64) 1 wideWindow)
      (greetedTurn acceptAll 5 (.mono1 wideFrame)) s ∧
    ∃ before after,
      s.display.sent = before ++ (drawSystemUi (fun _ => true) (64, 74) false).2 ++ after ∧
      after.getLast? = some (.putImage 64 1 0 1 [2, 1, 4, 3, 6, 5, 8, 7]) ∧
      ∀ r ∈ after, r.area (64, 74) ⊆ ScreenRect.points ⟨0, 0, 64, 2⟩ := by
  let _ : Platform := .usize64
  have hdraw : DisplayOperations.drawSystemUi wideWindow false acceptAll =
      (.ok (), (wideWindow.drawSystemUi false acceptAll).2) := Prod.ext (by decide +kernel) rfl
  have hs := run_greetedTurn 1 5 hdraw (f := .mono1 wideFrame) (by decide)
  have hlast : (greetedState 1 wideWindow (wideWindow.drawSystemUi false acceptAll).2 acceptAll 5
      (.mono1 wideFrame)).display.sent.getLast? =
        some (.putImage 64 1 0 1 [2, 1, 4, 3, 6, 5, 8, 7]) := by
    decide +kernel
  have hl : ScreenLayout.new 64 74 = some ⟨(64, 74), ⟨0, 0, 64, 2⟩, ⟨0, 2, 64, 72⟩⟩ := by decide
  obtain ⟨before, accepts, after, hok, hsent, habove, -⟩ := strip_survives hs rfl hl (by decide)
  rw [drawSystemUi_whole hok] at hsent
  refine ⟨_, hs, before, after, hsent, ?_, habove⟩
  -- the strip ends with its label
  rw [hsent, List.getLast?_append] at hlast
  cases ha : after.getLast? with
  | some r => rwa [ha] at hlast
  | none =>
      have hstrip : (drawSystemUi (fun _ => true) (64, 74) false).2.getLast? =
          some (.imageText8 ⟨14, 43, EXIT_TEXT⟩) := by decide +kernel
      rw [ha, Option.none_or, List.getLast?_append] at hlast
      exact absurd (hlast.symm.trans (congrArg (·.or before.getLast?) hstrip)) (by simp)

end PaperPad.X11
