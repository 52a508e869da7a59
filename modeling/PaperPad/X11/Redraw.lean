import PaperPad.Device.Display
import PaperPad.Support.Fallible
import PaperPad.X11.Upload

/-!
# X11 — Redraw

A redraw of the window on the X11 backend: `draw_surface` of `src/x11/events.rs`, with `draw` of
`src/x11/render.rs`, `draw_layout` of `src/ui/system.rs`, and `clear_remote_viewport` and
`redraw_cached_frame` of `src/x11/backend.rs`.  First the local strip is drawn, then the remote
viewport is cleared and the cached frame put into it.

The server may reject a request, which then has no effect.  What it draws is its own affair, but
it draws inside the area of the request (`Server`).  In a `ClearArea` a width or height of zero
extends the area to the window's edge, so a remote viewport without rows is cleared to the bottom
of the window: the strip survives exactly when the window is higher than the strip
(`redraw_remote_only_iff`).
-/

namespace PaperPad.X11

open Device Fallible

/-! ### Requests -/

/-- A rectangle as the server takes it. -/
structure LayoutRect where
  x : Int16
  y : Int16
  width : UInt16
  height : UInt16
  deriving DecidableEq

/-- A text and where it begins. -/
structure TextPlacement where
  x : Int16
  y : Int16
  text : List UInt8
  deriving DecidableEq

/-- An arc in its rectangle. -/
structure Arc where
  x : Int16
  y : Int16
  width : UInt16
  height : UInt16
  angle1 : Int16
  angle2 : Int16
  deriving DecidableEq

/-- A drawing request for the window. -/
inductive Request where
  | clearArea (x y : Int16) (width height : UInt16)
  | polyRectangle (rectangle : LayoutRect)
  | imageText8 (text : TextPlacement)
  | polyArc (arc : Arc)
  | polyFillArc (arc : Arc)
  | putImage (width height : UInt16) (x y : Int16) (data : List UInt8)
  deriving DecidableEq

/-- The points of a window a request may change. -/
def Request.area (window : UInt16 × UInt16) : Request → Set (Nat × Nat)
  | .clearArea x y width height =>
      -- a zero extent goes to the window's edge
      {p | p ∈ Picture.rect 0 0 window.1.toNat window.2.toNat ∧
        (x.toInt ≤ p.1 ∧ (width = 0 ∨ (p.1 : Int) < x.toInt + width.toNat)) ∧
          y.toInt ≤ p.2 ∧ (height = 0 ∨ (p.2 : Int) < y.toInt + height.toNat)}
  | .putImage width height x y _ =>
      {p | p ∈ Picture.rect 0 0 window.1.toNat window.2.toNat ∧
        (x.toInt ≤ p.1 ∧ (p.1 : Int) < x.toInt + width.toNat) ∧
          y.toInt ≤ p.2 ∧ (p.2 : Int) < y.toInt + height.toNat}
  | _ => Picture.rect 0 0 window.1.toNat window.2.toNat

/-- What a server makes of the requests for a window. -/
structure Server (window : UInt16 × UInt16) (γ : Type) where
  accepts : Request → Bool
  draw : Request → (Nat × Nat → γ) → Nat × Nat → γ
  frame : ∀ r f p, p ∉ r.area window → draw r f p = f p

/-- What the window shows after the requests. -/
def Server.shown {window : UInt16 × UInt16} {γ : Type} (s : Server window γ)
    (picture : Nat × Nat → γ) (requests : List Request) : Nat × Nat → γ :=
  requests.foldl (fun f r => s.draw r f) picture

/-- The outcome of some requests, and those of them that were accepted. -/
abbrev Sending := Fallible Unit × List Request

/-- A checked request. -/
def send (accepts : Request → Bool) (r : Request) (rejected : String) : Sending :=
  if accepts r then (.ok (), [r]) else (.error (.error [rejected]), [])

/-- `?`. -/
def Sending.andThen (a b : Sending) : Sending :=
  match a with
  | (.ok (), sent) => (b.1, sent ++ b.2)
  | (.error e, sent) => (.error e, sent)

/-! ### The local strip -/

def LABEL_TEXT_Y_OFFSET : Nat := 5

def EXIT_TEXT_X_OFFSET : Nat := 18

/-- `b"EXIT"`. -/
def EXIT_TEXT : List UInt8 := [0x45, 0x58, 0x49, 0x54]

/-- Core X11 `ImageText8` encodes string length in one byte. -/
def MAX_IMAGE_TEXT8_BYTES : Nat := 255

/-- A whole circle, in sixty-fourths of a degree. -/
def FULL_CIRCLE_ANGLE : Int16 := 360 * 64

/-- A coordinate, cut at `i16::MAX`. -/
def logicalCoordinate (value : Nat) : Int16 := Int16.ofNat (min value 32767)

/-- What is drawn of the strip. -/
structure SystemDrawLayout where
  rectangle : LayoutRect
  text : TextPlacement
  connectionIndicator : Option LayoutRect
  deriving DecidableEq

/-- A rectangle in the coordinates of requests. -/
def layoutRect (bounds : LogicalRect) : LayoutRect where
  x := logicalCoordinate bounds.x.toNat
  y := logicalCoordinate bounds.y.toNat
  width := bounds.width
  height := bounds.height

/-- Where it is drawn, if there is room for the Exit control. -/
def drawLayout (width height : UInt16) : Option SystemDrawLayout := do
  let bounds ← exitBounds width height
  let centerX := bounds.x.toNat + bounds.width.toNat / 2
  let centerY := bounds.y.toNat + bounds.height.toNat / 2
  return {
    rectangle := layoutRect bounds
    text :=
      { x := logicalCoordinate (centerX - EXIT_TEXT_X_OFFSET)
        y := logicalCoordinate (centerY + LABEL_TEXT_Y_OFFSET)
        text := EXIT_TEXT }
    connectionIndicator := (connectionIndicatorBounds width height).map layoutRect }

/-- `image_text`. -/
def imageText (accepts : Request → Bool) (text : TextPlacement) : Sending :=
  if text.text.length ≤ MAX_IMAGE_TEXT8_BYTES then
    send accepts (.imageText8 text) "X11 server rejected text draw request"
  else (.error (.error [s!"X11 ImageText8 payload exceeds {MAX_IMAGE_TEXT8_BYTES} bytes"]), [])

/-- A disk if connected, a ring if not. -/
def drawIndicator (accepts : Request → Bool) (connected : Bool) : Option LayoutRect → Sending
  | some indicator =>
      let arc : Arc :=
        { x := indicator.x, y := indicator.y, width := indicator.width, height := indicator.height
          angle1 := 0, angle2 := FULL_CIRCLE_ANGLE }
      send accepts (if connected then .polyFillArc arc else .polyArc arc)
        "X11 server rejected connection-indicator draw request"
  | none => (.ok (), [])

/-- `draw`, the local strip. -/
def drawSystemUi (accepts : Request → Bool) (dimensions : UInt16 × UInt16) (connected : Bool) :
    Sending :=
  match ScreenLayout.new dimensions.1 dimensions.2 with
  | none => (.ok (), [])
  | some screen =>
      let region := screen.systemUiRegion
      let cleared :=
        send accepts (.clearArea region.x.toInt16 region.y.toInt16 region.width region.height)
          "X11 server rejected system-strip clear-area request"
      match drawLayout dimensions.1 dimensions.2 with
      | none => cleared
      | some layout =>
          cleared.andThen
            ((send accepts (.polyRectangle layout.rectangle)
              "X11 server rejected system rectangle draw request").andThen
              ((if layout.text.y ≥ 0 then imageText accepts layout.text else (.ok (), [])).andThen
                (drawIndicator accepts connected layout.connectionIndicator)))

/-! ### The remote viewport -/

/-- The corner of the remote viewport. -/
def remoteViewportOrigin (physicalSize : UInt16 × UInt16) : Int16 × Int16 :=
  match ScreenLayout.new physicalSize.1 physicalSize.2 with
  | some layout => (layout.remoteViewport.x.toInt16, layout.remoteViewport.y.toInt16)
  | none => (0, 0)

/-- Clear the remote viewport, also one that has no height. -/
def clearRemoteViewport (accepts : Request → Bool) (dimensions : UInt16 × UInt16) : Sending :=
  match ScreenLayout.new dimensions.1 dimensions.2 with
  | none => (.ok (), [])
  | some screen =>
      let viewport := screen.remoteViewport
      send accepts (.clearArea viewport.x.toInt16 viewport.y.toInt16 viewport.width viewport.height)
        "X11 server rejected remote-viewport clear request"

/-- Where a row goes, if its coordinate can be sent. -/
def destinationY (origin : Int16) (rowOffset : UInt16) : Option Int16 :=
  let y := origin.toInt + rowOffset.toNat
  if -32768 ≤ y ∧ y ≤ 32767 then some (Int16.ofInt y) else none

/-- The requests of `blit`, up to a chunk whose destination is no coordinate. -/
def blitRequests (destination : Int16 × Int16) (width : UInt16) : List Chunk → List Request
  | [] => []
  | c :: chunks =>
      match destinationY destination.2 c.yOffset with
      | some y =>
          .putImage width c.rows destination.1 y c.data :: blitRequests destination width chunks
      | none => []

/-- All requests of `blit` are sent before the first is checked; its result is only logged. -/
def blit (accepts : Request → Bool) (destination : Int16 × Int16) (bitmap : PreparedBitmap) :
    List Request :=
  (blitRequests destination bitmap.width bitmap.chunks).filter accepts

/-- Clear the viewport and upload the cached frame again. -/
def redrawCachedFrame (accepts : Request → Bool) (d : X11DisplayBackend PreparedBitmap) :
    List Request :=
  match clearRemoteViewport accepts d.dimensions with
  | (.error _, sent) => sent
  | (.ok (), sent) =>
      match d.adapter, d.remoteFrameCache.current with
      | true, some frame =>
          sent ++ blit accepts (remoteViewportOrigin d.dimensions) frame.payload
      | _, _ => sent

/-- `draw_surface`. -/
def drawSurface (accepts : Request → Bool) (d : X11DisplayBackend PreparedBitmap)
    (connected : Bool) : Sending :=
  (drawSystemUi accepts d.dimensions connected).andThen (.ok (), redrawCachedFrame accepts d)

/-- What is cached has the size of the remote viewport. -/
def ShowsViewport (d : X11DisplayBackend PreparedBitmap) : Prop :=
  ∀ frame, d.remoteFrameCache.current = some frame →
    (frame.payload.width, frame.payload.height) = remoteViewportSize d.dimensions

/-- The remote half of a redraw stays in the remote viewport, and leaves the strip as drawn. -/
structure RemoteOnly (screen : ScreenLayout) (d : X11DisplayBackend PreparedBitmap) : Prop where
  confined : ∀ accepts, ∀ r ∈ redrawCachedFrame accepts d,
    r.area d.dimensions ⊆ screen.remoteViewport.points
  kept : ∀ (γ : Type) (server : Server d.dimensions γ) connected picture,
    ∀ p ∈ screen.systemUiRegion.points,
      server.shown picture (drawSurface server.accepts d connected).2 p =
        server.shown picture (drawSystemUi server.accepts d.dimensions connected).2 p

/-! ### Requests and their areas -/

/-- Requests away from a point leave it alone. -/
theorem Server.shown_of_notMem {window : UInt16 × UInt16} {γ : Type} (s : Server window γ)
    {requests : List Request} {p : Nat × Nat} (h : ∀ r ∈ requests, p ∉ r.area window)
    (picture : Nat × Nat → γ) : s.shown picture requests p = picture p := by
  induction requests generalizing picture with
  | nil => rfl
  | cons r requests ih =>
      rw [shown, List.foldl_cons]
      exact (ih (fun q hq => h q (List.mem_cons_of_mem _ hq)) _).trans
        (s.frame r picture p (h r (List.mem_cons_self ..)))

theorem destinationY_eq_some {origin y : Int16} {rowOffset : UInt16}
    (h : destinationY origin rowOffset = some y) : y.toInt = origin.toInt + rowOffset.toNat := by
  simp only [destinationY] at h
  split at h
  · next hrange =>
      rw [← Option.some.inj h]
      exact Int16.toInt_ofInt_of_le hrange.1 (Int.lt_of_le_sub_one hrange.2)
  · cases h

theorem mem_blitRequests {destination : Int16 × Int16} {width : UInt16} {chunks : List Chunk}
    {r : Request} (h : r ∈ blitRequests destination width chunks) :
    ∃ c ∈ chunks, ∃ y, destinationY destination.2 c.yOffset = some y ∧
      r = .putImage width c.rows destination.1 y c.data := by
  induction chunks with
  | nil => cases h
  | cons c chunks ih =>
      rw [blitRequests] at h
      split at h
      · next y hy =>
          rcases List.mem_cons.mp h with rfl | h
          · exact ⟨c, List.mem_cons_self .., y, hy, rfl⟩
          · obtain ⟨c', hc', hr⟩ := ih h
            exact ⟨c', List.mem_cons_of_mem _ hc', hr⟩
      · cases h

theorem mem_send {accepts : Request → Bool} {r sent : Request} {rejected : String}
    (h : sent ∈ (send accepts r rejected).2) : sent = r := by
  rw [send] at h
  split at h
  · exact List.mem_singleton.mp h
  · cases h

section Layout

variable {d : X11DisplayBackend PreparedBitmap} {screen : ScreenLayout}
  (hl : ScreenLayout.new d.dimensions.1 d.dimensions.2 = some screen)

include hl

/-- What a redraw sends for the remote viewport. -/
theorem mem_redrawCachedFrame {accepts : Request → Bool} {r : Request}
    (h : r ∈ redrawCachedFrame accepts d) :
    r = .clearArea 0 0 screen.remoteViewport.width screen.remoteViewport.height ∨
      ∃ frame, d.remoteFrameCache.current = some frame ∧
        ∃ c ∈ frame.payload.chunks, ∃ y : Int16, y.toInt = c.yOffset.toNat ∧
          r = .putImage frame.payload.width c.rows 0 y c.data := by
  obtain ⟨hx, hy, -⟩ := ScreenLayout.new_spec hl
  have hclear : ∀ {sent}, sent ∈ (clearRemoteViewport accepts d.dimensions).2 →
      sent = .clearArea 0 0 screen.remoteViewport.width screen.remoteViewport.height := by
    intro sent hsent
    simp only [clearRemoteViewport, hl, hx, hy] at hsent
    exact mem_send hsent
  have horigin : remoteViewportOrigin d.dimensions = (0, 0) := by
    simp only [remoteViewportOrigin, hl, hx, hy]
    rfl
  rw [redrawCachedFrame] at h
  split at h
  · next he => exact .inl (hclear (he ▸ h))
  · next hsent =>
      split at h
      · next frame _ hframe =>
          rcases List.mem_append.mp h with h | h
          · exact .inl (hclear (hsent ▸ h))
          · rw [horigin] at h
            obtain ⟨c, hc, y, hy, rfl⟩ := mem_blitRequests (List.mem_of_mem_filter h)
            have hy := destinationY_eq_some hy
            exact .inr ⟨frame, hframe, c, hc, y, by rw [hy]; exact Int.zero_add _, rfl⟩
      · exact .inl (hclear (hsent ▸ h))

/-- Above the strip, a redraw sends only requests inside the remote viewport. -/
theorem area_redrawCachedFrame (hc : ShowsViewport d)
    (hh : screen.remoteViewport.height ≠ 0) {accepts : Request → Bool} {r : Request}
    (h : r ∈ redrawCachedFrame accepts d) :
    r.area d.dimensions ⊆ screen.remoteViewport.points := by
  obtain ⟨hx, hy, -, hsize⟩ := ScreenLayout.new_spec hl
  have hzero : (0 : Int16).toInt = 0 := rfl
  have hx0 : screen.remoteViewport.x.toNat = 0 := congrArg UInt16.toNat hx
  have hy0 : screen.remoteViewport.y.toNat = 0 := congrArg UInt16.toNat hy
  have hw : screen.remoteViewport.width ≠ 0 := by
    have sizes := ScreenLayout.sizes hl
    have hwidth := sizes.width
    have hpos := sizes.width_pos
    rw [sizes.remote_width]
    intro e
    rw [e, UInt16.toNat_zero] at hwidth
    omega
  intro p hp
  rcases mem_redrawCachedFrame hl h with rfl | ⟨frame, hframe, c, hcc, y, hyc, rfl⟩
  · obtain ⟨-, ⟨-, hxw⟩, -, hyh⟩ := hp
    have hxw := hxw.resolve_left hw
    have hyh := hyh.resolve_left hh
    exact ⟨⟨by omega, by omega⟩, by omega, by omega⟩
  · obtain ⟨firstRow, hrow, rfl⟩ := mem_chunks hcc
    obtain ⟨-, ⟨-, hxw⟩, hylo, hyh⟩ := hp
    have hdims := hc frame hframe
    rw [hsize] at hdims
    obtain ⟨hwidth, hheight⟩ := Prod.mk.inj hdims
    have hend := chunkAt_rows_le hrow
    rw [hyc, chunkAt_yOffset hrow] at hyh
    rw [hwidth] at hxw
    rw [hheight] at hend
    exact ⟨⟨by omega, by omega⟩, by omega, by omega⟩

/-- The strip lies below the remote viewport. -/
theorem notMem_strip {p : Nat × Nat} (hp : p ∈ screen.remoteViewport.points) :
    p ∉ screen.systemUiRegion.points := by
  obtain ⟨-, hy, hstrip, -⟩ := ScreenLayout.new_spec hl
  have hy0 : screen.remoteViewport.y.toNat = 0 := congrArg UInt16.toNat hy
  have hs0 : screen.systemUiRegion.y.toNat = screen.remoteViewport.height.toNat :=
    congrArg UInt16.toNat hstrip
  intro hs
  have hlow := hp.2.2
  have htop := hs.2.1
  omega

theorem remoteOnly (hc : ShowsViewport d) (hh : 72 < d.dimensions.2.toNat) :
    RemoteOnly screen d := by
  have hne : screen.remoteViewport.height ≠ 0 := by
    have sizes := ScreenLayout.sizes hl
    have hremote := sizes.remote_height
    have hheight := sizes.height
    intro e
    rw [e, UInt16.toNat_zero] at hremote
    omega
  have hconfined : ∀ accepts, ∀ r ∈ redrawCachedFrame accepts d,
      r.area d.dimensions ⊆ screen.remoteViewport.points :=
    fun _ _ hr => area_redrawCachedFrame hl hc hne hr
  refine ⟨hconfined, ?_⟩
  intro γ server connected picture p hp
  simp only [drawSurface, Sending.andThen]
  split
  · next sent hsent =>
      rw [hsent, Server.shown, List.foldl_append]
      exact server.shown_of_notMem
        (fun r hr hpr => notMem_strip hl (hconfined _ r hr hpr) hp) _
  · next hsent => rw [hsent]

/-- A remote viewport without rows is cleared over the whole strip. -/
theorem clears_strip (hh : d.dimensions.2.toNat ≤ 72) :
    ∃ r ∈ redrawCachedFrame (fun _ => true) d,
      screen.systemUiRegion.points ⊆ r.area d.dimensions := by
  have sizes := ScreenLayout.sizes hl
  obtain ⟨hx, hy, hstrip, -⟩ := ScreenLayout.new_spec hl
  have hremote : screen.remoteViewport.height = 0 := by
    have hremote := sizes.remote_height
    have hheight := sizes.height
    refine UInt16.toNat_inj.mp ?_
    rw [UInt16.toNat_zero]
    omega
  refine ⟨.clearArea 0 0 screen.remoteViewport.width 0, ?_, ?_⟩
  · simp only [redrawCachedFrame, clearRemoteViewport, hl, hx, hy, hremote, send, if_true]
    split
    · exact List.mem_append_left _ (List.mem_singleton_self _)
    · exact List.mem_singleton_self _
  · intro p hp
    obtain ⟨⟨-, hxw⟩, -, hyh⟩ := hp
    have hzero : (0 : Int16).toInt = 0 := rfl
    have hs0 : screen.systemUiRegion.x.toNat = 0 := congrArg UInt16.toNat sizes.strip_left
    have hs1 : screen.systemUiRegion.y.toNat = 0 := by rw [hstrip, hremote, UInt16.toNat_zero]
    have hwidth := sizes.width
    have hheight := sizes.height
    have hstripHeight := sizes.strip_height
    rw [sizes.strip_width] at hxw
    refine ⟨⟨⟨by omega, by omega⟩, by omega, by omega⟩, ⟨by omega, .inr ?_⟩, by omega, .inl rfl⟩
    rw [sizes.remote_width]
    omega

/-- Every window has a strip. -/
theorem strip_nonempty : (0, screen.systemUiRegion.y.toNat) ∈ screen.systemUiRegion.points := by
  have sizes := ScreenLayout.sizes hl
  have hs0 : screen.systemUiRegion.x.toNat = 0 := congrArg UInt16.toNat sizes.strip_left
  have hwidth := sizes.width
  have hheight := sizes.height
  have hwpos := sizes.width_pos
  have hhpos := sizes.height_pos
  have hstripHeight := sizes.strip_height
  have hstripWidth : screen.systemUiRegion.width.toNat = screen.physicalSize.1.toNat :=
    congrArg UInt16.toNat sizes.strip_width
  exact ⟨⟨by omega, by omega⟩, by omega, by omega⟩

theorem not_remoteOnly (hh : d.dimensions.2.toNat ≤ 72) : ¬ RemoteOnly screen d := by
  intro h
  obtain ⟨r, hr, harea⟩ := clears_strip hl hh
  have hp := strip_nonempty hl
  exact notMem_strip hl (h.confined _ r hr (harea hp)) hp

/-- **The remote half of a redraw stays in the remote viewport**, and so leaves the strip as
drawn, exactly on the windows higher than the strip. -/
theorem redraw_remote_only_iff (hc : ShowsViewport d) :
    RemoteOnly screen d ↔ 72 < d.dimensions.2.toNat := by
  constructor
  · intro h
    by_contra hh
    exact not_remoteOnly hl (not_lt.mp hh) h
  · exact remoteOnly hl hc

end Layout

/-- A backend in a window of this size, with a bitmap of the size of its remote viewport. -/
def cachedBackend (window viewport : UInt16 × UInt16) : X11DisplayBackend PreparedBitmap where
  dimensions := window
  adapter := true
  remoteFrameCache :=
    ⟨some ⟨7, viewport.1, viewport.2, .mono1, 159,
      ⟨viewport.1, viewport.2, 160, 409, List.replicate 259840 0, by decide⟩⟩⟩

theorem redraw_remote_only_paperwhite :
    RemoteOnly ⟨(1272, 1696), ⟨0, 0, 1272, 1624⟩, ⟨0, 1624, 1272, 72⟩⟩
      (cachedBackend (1272, 1696) (1272, 1624)) := by
  refine (redraw_remote_only_iff (by decide) fun frame hframe => ?_).mpr (by decide)
  cases hframe
  decide

/-- **A window as high as the strip** loses the Exit control it has just drawn. -/
theorem redraw_clears_exit :
    ∃ screen d, ScreenLayout.new d.dimensions.1 d.dimensions.2 = some screen ∧ ShowsViewport d ∧
      exitBounds d.dimensions.1 d.dimensions.2 = some ⟨64, 0, 1188, 72⟩ ∧
      ¬ RemoteOnly screen d := by
  have hl : ScreenLayout.new 1272 72 = some ⟨(1272, 72), ⟨0, 0, 1272, 0⟩, ⟨0, 0, 1272, 72⟩⟩ := by
    decide
  exact ⟨_, ⟨(1272, 72), true, {}⟩, hl, nofun, by decide, not_remoteOnly hl (by decide)⟩

end PaperPad.X11
