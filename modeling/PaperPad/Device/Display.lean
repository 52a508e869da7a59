import PaperPad.Device.Connection
import PaperPad.Device.Screen

/-!
# Device — Display

The boundary between the transport and a display: `RemoteFrame` and `RemoteFrameCache` of
`src/display`, and what `X11DisplayBackend` of `src/x11/backend.rs` keeps.  The bitmaps it prepares
are of any type; whether a frame is prepared and uploaded is up to the server.
-/

namespace PaperPad.Device

open Protocol

/-! ### Remote frames -/

/-- A frame for the display, as it is handed to a backend. -/
structure RemoteFrame where
  frameId : UInt64
  width : UInt16
  height : UInt16
  pixelFormat : PixelFormat
  stride : Nat
  pixels : List UInt8
  deriving DecidableEq

/-- Why a frame cannot be displayed. -/
inductive RemoteFrameError where
  | pixels (error : V2PayloadError)
  | strideMismatch (pixelFormat : PixelFormat) (expected got : Nat)
  deriving DecidableEq

namespace RemoteFrame

/-- The pixels are those of the format and size, and the stride is the format's. -/
def new [Platform] (frameId : UInt64) (width height : UInt16) (pixelFormat : PixelFormat)
    (stride : Nat) (pixels : List UInt8) : Except RemoteFrameError RemoteFrame :=
  match validatePixels pixelFormat width height pixels with
  | .error error => .error (.pixels error)
  | .ok validatedStride =>
      if stride ≠ validatedStride then .error (.strideMismatch pixelFormat validatedStride stride)
      else .ok ⟨frameId, width, height, pixelFormat, stride, pixels⟩

/-- The frame the event loop makes of a polled one. -/
def ofReceived [Platform] (f : ReceivedFrame) : Except RemoteFrameError RemoteFrame :=
  new f.frameId f.frame.width f.frame.height f.frame.pixelFormat f.frame.stride f.frame.pixels

/-- The size of the frame. -/
def dimensions (f : RemoteFrame) : Viewport := (f.width, f.height)

/-- A received frame is valid. -/
theorem ofReceived_eq_ok [Platform] (f : ReceivedFrame) :
    ofReceived f = .ok ⟨f.frameId, f.frame.width, f.frame.height, f.frame.pixelFormat,
      f.frame.stride, f.frame.pixels⟩ := by
  simp [ofReceived, new, validatePixels_frame]

/-- A validated frame, borrowed. -/
def ofFrame (frameId : UInt64) (f : Frame) : RemoteFrame :=
  ⟨frameId, f.width, f.height, f.pixelFormat, f.stride, f.pixels⟩

/-- **Only validated frames** cross the boundary. -/
theorem new_eq_ok [Platform] {frameId : UInt64} {width height : UInt16} {fmt : PixelFormat}
    {stride : Nat} {pixels : List UInt8} {r : RemoteFrame} :
    new frameId width height fmt stride pixels = .ok r ↔
      r = ⟨frameId, width, height, fmt, stride, pixels⟩ ∧ ∃ f : Frame, r = ofFrame frameId f := by
  constructor
  · intro h
    rw [new] at h
    cases hv : validatePixels fmt width height pixels with
    | error e =>
        rw [hv] at h
        cases h
    | ok s =>
        rw [hv] at h
        dsimp only at h
        split at h
        · cases h
        · next hs =>
            obtain rfl := not_not.mp hs
            cases h
            obtain ⟨f, hf, hstride⟩ := frame_of_validatePixels hv
            obtain ⟨rfl, rfl, rfl, rfl⟩ := Frame.new_eq_ok.mp hf
            exact ⟨rfl, f, by rw [ofFrame, hstride]⟩
  · rintro ⟨rfl, f, hf⟩
    obtain ⟨rfl, rfl, rfl, rfl, rfl⟩ : width = f.width ∧ height = f.height ∧
        fmt = f.pixelFormat ∧ stride = f.stride ∧ pixels = f.pixels := by
      simpa [ofFrame] using hf
    rw [new, validatePixels_frame]
    exact if_neg (not_not.mpr rfl)

end RemoteFrame

/-! ### The cache -/

/-- A frame that was presented, with what its backend keeps to redraw it. -/
structure CachedRemoteFrame (β : Type) where
  frameId : UInt64
  width : UInt16
  height : UInt16
  pixelFormat : PixelFormat
  stride : Nat
  payload : β
  deriving DecidableEq

/-- The size of the frame. -/
def CachedRemoteFrame.dimensions {β : Type} (f : CachedRemoteFrame β) : Viewport :=
  (f.width, f.height)

/-- The frame presented last, if it still has the viewport's size. -/
structure RemoteFrameCache (β : Type) where
  current : Option (CachedRemoteFrame β) := none
  deriving DecidableEq

namespace RemoteFrameCache

variable {β : Type}

/-- The frame is the one presented last. -/
def replace (_ : RemoteFrameCache β) (frame : RemoteFrame) (payload : β) : RemoteFrameCache β :=
  ⟨some ⟨frame.frameId, frame.width, frame.height, frame.pixelFormat, frame.stride, payload⟩⟩

/-- A frame of another size is forgotten, and returned. -/
def invalidateMismatched (c : RemoteFrameCache β) (viewport : Viewport) :
    RemoteFrameCache β × Option (CachedRemoteFrame β) :=
  if c.current.any fun frame => frame.dimensions ≠ viewport then (⟨none⟩, c.current) else (c, none)

/-- What is cached has this size. -/
def Matching (c : RemoteFrameCache β) (viewport : Viewport) : Prop :=
  ∀ f, c.current = some f → f.dimensions = viewport

theorem matching_invalidateMismatched (c : RemoteFrameCache β) (viewport : Viewport) :
    (c.invalidateMismatched viewport).1.Matching viewport := by
  unfold invalidateMismatched
  split
  · exact fun _ hf => nomatch hf
  · next hn =>
      intro f hf
      by_contra hne
      exact hn ((Option.any_eq_true _ _).mpr ⟨f, hf, decide_eq_true hne⟩)

end RemoteFrameCache

/-! ### The X11 backend -/

/-- What the adapter and the server make of a frame. -/
inductive Presentation (β : Type) where
  | prepareFailed
  | uploadFailed
  | uploaded (bitmap : β)
  deriving DecidableEq

/-- What the X11 backend keeps. -/
structure X11DisplayBackend (β : Type) where
  dimensions : Viewport
  /-- `framebuffer_adapter` is there. -/
  adapter : Bool
  remoteFrameCache : RemoteFrameCache β := {}
  deriving DecidableEq

namespace X11DisplayBackend

variable {β : Type}

/-- The window has a new size. -/
def setDimensions (d : X11DisplayBackend β) (dimensions : Viewport) :
    X11DisplayBackend β × Option (CachedRemoteFrame β) :=
  let r := d.remoteFrameCache.invalidateMismatched (remoteViewportSize dimensions)
  ({ d with dimensions, remoteFrameCache := r.1 }, r.2)

/-- A Mono1 frame is uploaded and cached; without an adapter, or on a failure, it is not. -/
def displayRemoteFrame (d : X11DisplayBackend β) (frame : RemoteFrame)
    (presentation : Presentation β) : X11DisplayBackend β :=
  if frame.pixelFormat ≠ .mono1 then d
  else if d.adapter = false then d
  else
    match presentation with
    | .prepareFailed | .uploadFailed => d
    | .uploaded bitmap =>
        { d with remoteFrameCache := d.remoteFrameCache.replace frame bitmap }

/-- What is cached has the size of the remote viewport. -/
def Cached (d : X11DisplayBackend β) : Prop :=
  d.remoteFrameCache.Matching (remoteViewportSize d.dimensions)

theorem cached_setDimensions (d : X11DisplayBackend β) (dimensions : Viewport) :
    (d.setDimensions dimensions).1.Cached :=
  d.remoteFrameCache.matching_invalidateMismatched _

@[simp] theorem displayRemoteFrame_dimensions (d : X11DisplayBackend β) (frame : RemoteFrame)
    (presentation : Presentation β) :
    (d.displayRemoteFrame frame presentation).dimensions = d.dimensions := by
  simp only [displayRemoteFrame]
  split
  · rfl
  · split
    · rfl
    · split <;> rfl

/-- The backend does not look at a frame's size: it keeps the cache right only if it is given
frames of the right size. -/
theorem Cached.displayRemoteFrame {d : X11DisplayBackend β} (h : d.Cached) {frame : RemoteFrame}
    (hf : frame.dimensions = remoteViewportSize d.dimensions) (presentation : Presentation β) :
    (d.displayRemoteFrame frame presentation).Cached := by
  simp only [X11DisplayBackend.displayRemoteFrame]
  split
  · exact h
  · split
    · exact h
    · split
      · exact h
      · exact h
      · rintro _ ⟨⟩
        exact hf

end X11DisplayBackend

end PaperPad.Device
