import PaperPad.Device.LatestFrame
import PaperPad.Support.Latest

/-!
# Device — Displayable

A frame passes two filters: the mailbox accepts its size, the backend its pixel format.  The
mailbox keeps the latest it accepts and gives it to the backend at the next poll; so a frame of an
unsupported format, which the backend drops, has already replaced the one before it.

`poll_displayable`: between two polls with the same remote viewport, the backend is handed the
last frame it can display exactly if the last frame of the viewport's size is in a format it
advertises.  MXCFB advertises both formats, so there it always is (`mxcfb_poll_displayable`);
X11 advertises one (`gray_displaces_mono`).
-/

namespace PaperPad.Device

open Protocol Transition

/-! ### Backends -/

/-- The two backends. -/
inductive DisplayBackend where
  | x11
  | mxcfb
  deriving DecidableEq, Repr

/-- What a backend advertises. -/
def DisplayBackend.pixelFormats : DisplayBackend → V2PixelFormats
  | .x11 => .MONO1
  | .mxcfb => V2PixelFormats.MONO1.withFormat .gray8

/-- The frame has the size of the viewport. -/
def Sized (viewport : Viewport) (f : ReceivedFrame) : Bool := f.dimensions = viewport

/-- The format of the frame is advertised. -/
def Advertised (formats : V2PixelFormats) (f : ReceivedFrame) : Bool :=
  formats.supports f.frame.pixelFormat

theorem advertised_mxcfb (f : ReceivedFrame) :
    Advertised DisplayBackend.mxcfb.pixelFormats f = true := by
  rw [Advertised]
  cases f.frame.pixelFormat with
  | mono1 => rfl
  | gray8 => rfl

/-- A frame the backend can display. -/
def Displayable (formats : V2PixelFormats) (viewport : Viewport) (f : ReceivedFrame) : Bool :=
  Sized viewport f && Advertised formats f

/-! ### The mailbox keeps the latest of its size -/

/-- The frame the reader publishes in this step, whether or not it is accepted. -/
def Transport.published (t : Transport) : TransportEvent → List ReceivedFrame
  | .reader .publish => t.reader.frame?.toList
  | _ => []

theorem FrameMailboxState.publish_pending (m : FrameMailboxState) (f : ReceivedFrame) :
    (m.publish f).1.pending = (latest (Sized m.viewport) [f]).or m.pending := by
  by_cases h : f.dimensions = m.viewport
  · simp [FrameMailboxState.publish, latest, Sized, h]
  · simp [FrameMailboxState.publish, latest, Sized, h]

/-- Setting the viewport a mailbox has changes nothing. -/
theorem FrameMailboxState.Matching.setViewport_eq {m : FrameMailboxState} (h : m.Matching) :
    m.setViewport m.viewport = m := by
  have hpending : (m.setViewport m.viewport).pending = m.pending := by
    refine Option.ext fun f => ?_
    rw [setViewport_pending]
    exact ⟨fun hf => hf.1, fun hf => ⟨hf, h f hf⟩⟩
  exact congrArg (FrameMailboxState.mk m.viewport) hpending

/-- The transport, the mailbox and the loop have the same viewport. -/
structure Transport.Fixed (viewport : Viewport) (t : Transport) : Prop where
  remote : t.remoteViewport = viewport
  mailbox : t.frames.viewport = viewport

theorem transportStep_latest {t u : Transport} {e : TransportEvent} {viewport : Viewport}
    (hs : t.Synced) (hm : t.frames.Matching) (hf : t.Fixed viewport)
    (he : ¬ e.IsCall) (k : transportStep t e = some u) :
    u.Fixed viewport ∧
      u.frames.pending = (latest (Sized viewport) (t.published e)).or t.frames.pending := by
  have hstore : ∀ v, e ≠ .main (.storeViewport v) := by
    rintro v rfl
    exact he rfl
  obtain ⟨hremote, -⟩ := transportStep_viewport hstore k
  by_cases hp : e = .reader .publish
  · subst hp
    have m : ReaderMove t .publish u := readerStep_move k
    cases m with
    | @publish socket f hr =>
        refine ⟨⟨hf.remote, by rw [FrameMailboxState.publish_viewport, hf.mailbox]⟩, ?_⟩
        rw [FrameMailboxState.publish_pending, hf.mailbox, Transport.published, hr]
        rfl
  · -- nothing is published, and the mailbox is given the viewport it has
    have hnone : t.published e = [] := by
      unfold Transport.published
      split
      · exact absurd rfl hp
      · rfl
    have hsame : u.frames = t.frames := by
      rcases transportStep_frames k with
        h | ⟨-, -, h⟩ | ⟨-, v, previous, hv, h⟩ | ⟨rfl, -⟩ | ⟨h, -⟩
      · exact h
      · rw [h, hf.remote, ← hf.mailbox, hm.setViewport_eq]
      · rw [h, ← hs.1 v previous hv, hf.remote, ← hf.mailbox, hm.setViewport_eq]
      · exact absurd rfl he
      · exact absurd h hp
    refine ⟨⟨hremote.trans hf.remote, by rw [hsame, hf.mailbox]⟩, ?_⟩
    rw [hnone, hsame]
    rfl

/-! ### Between two polls -/

section Loop

variable {β : Type}

/-- The frame the reader publishes in a step of the loop. -/
def EventLoop.published (s : EventLoop β) : LoopEvent β → List ReceivedFrame
  | .transport event => s.transport.published event
  | _ => []

/-- The loop does not poll, and no ConfigureNotify changes the remote viewport. -/
def LoopEvent.BetweenPolls (s : EventLoop β) : LoopEvent β → Prop
  | .poll _ => False
  | .sendViewportChanged =>
      ∀ size, s.pc = .resized size → remoteViewportSize size = s.transport.remoteViewport
  | _ => True

variable {s t u v : EventLoop β}

/-- Between two calls of the loop, everything has the viewport of the application. -/
theorem LoopInv.fixed (h : LoopInv s) (hr : s.Ready) :
    s.transport.remoteViewport = remoteViewportSize s.app.size ∧
      s.transport.Fixed s.transport.remoteViewport := by
  have ha := h.agrees
  simp only [EventLoop.Agrees, hr.1] at ha
  have hmain : ∀ v previous, s.transport.main ≠ .stored v previous := by
    intro v previous hm
    rw [hr.2] at hm
    cases hm
  exact ⟨ha.2, rfl, h.synced.2 hmain⟩

variable [Platform]

/-- The frames the reader publishes in a run of the loop. -/
def published (s : EventLoop β) (es : List (LoopEvent β)) : List ReceivedFrame :=
  emitted loopStep EventLoop.published s es

theorem loopStep_latest {e : LoopEvent β} {viewport : Viewport} (h : LoopInv s)
    (hf : s.transport.Fixed viewport)
    (k : restrict (Fn loopStep) LoopEvent.BetweenPolls s e u) :
    u.transport.Fixed viewport ∧
      u.transport.frames.pending =
        (latest (Sized viewport) (s.published e)).or s.transport.frames.pending := by
  obtain ⟨hb, k⟩ := k
  cases loopStep_move k with
  | pollNone | poll => exact hb.elim
  | ignored | resized | setDimensions | button | unmapNotify => exact ⟨hf, rfl⟩
  | @sendViewportChanged size t hpc ht =>
      have m : MainMove s.transport (.storeViewport (remoteViewportSize size)) t := mainStep_move ht
      cases m with
      | storeViewport => exact ⟨⟨(hb size hpc).trans hf.remote, hf.mailbox⟩, rfl⟩
  | @pointer event p t hr ho ht =>
      have m : MainMove s.transport (.lookupPointer (pointerMessage p)) t := mainStep_move ht
      cases m with
      | pointerOffline => exact ⟨hf, rfl⟩
      | pointerFound => exact ⟨⟨hf.remote, hf.mailbox⟩, rfl⟩
  | transport he ht => exact transportStep_latest h.synced h.matching hf he ht

theorem loopStep_poll_transport {presentation : Presentation β}
    (k : loopStep s (.poll presentation) = some t) :
    s.Ready ∧ t.transport = { s.transport with frames := s.transport.frames.take.1 } := by
  cases loopStep_move k with
  | pollNone hr hf ht =>
      cases mainStep_move ht with
      | pollFrame => exact ⟨hr, rfl⟩
  | @poll _ t f hr hf ht =>
      obtain ⟨frame, -, heq⟩ := EventLoop.handOver_eq { s with transport := t } presentation f
      rw [heq]
      cases mainStep_move ht with
      | pollFrame => exact ⟨hr, rfl⟩

/-- What a run between two polls leaves in the mailbox. -/
theorem LoopInv.betweenPolls {first : Presentation β} {fs : List (LoopEvent β)} (h : LoopInv s)
    (ht : loopStep s (.poll first) = some t)
    (hu : Run (restrict (Fn loopStep) LoopEvent.BetweenPolls) t fs u) :
    LoopInv u ∧ u.transport.Fixed t.transport.remoteViewport ∧
      u.transport.frames.pending =
        latest (Sized t.transport.remoteViewport) (published t fs) := by
  obtain ⟨hr, htransport⟩ := loopStep_poll_transport ht
  obtain ⟨-, hfixed⟩ := h.fixed hr
  have hstart : t.transport.Fixed t.transport.remoteViewport := by
    rw [htransport]
    exact ⟨rfl, hfixed.mailbox⟩
  have hempty : t.transport.frames.pending = none := by
    rw [htransport]
    rfl
  obtain ⟨⟨hinv, hend⟩, hcell⟩ := Run.latest EventLoop.published
    (fun w => w.transport.frames.pending) (p := Sized t.transport.remoteViewport)
    (I := fun w => LoopInv w ∧ w.transport.Fixed t.transport.remoteViewport)
    (fun hw k => by
      obtain ⟨hk, hlatest⟩ := loopStep_latest hw.1 hw.2 k
      exact ⟨⟨hw.1.step k.2, hk⟩, hlatest⟩)
    hu ⟨h.step ht, hstart⟩
  refine ⟨hinv, hend, ?_⟩
  rw [hcell, hempty, Option.or_none]
  rfl

/-- **What the second poll hands over**: the last frame of the viewport's size. -/
theorem LoopInv.handed_latest {first last : Presentation β} {fs : List (LoopEvent β)}
    {f : ReceivedFrame} (h : LoopInv s) (ht : loopStep s (.poll first) = some t)
    (hu : Run (restrict (Fn loopStep) LoopEvent.BetweenPolls) t fs u)
    (hv : loopStep u (.poll last) = some v)
    (hf : latest (Sized t.transport.remoteViewport) (published t fs) = some f) :
    v.handed = u.handed ++ [⟨f, t.transport.remoteViewport⟩] := by
  obtain ⟨hui, hfixed, hpending⟩ := h.betweenPolls ht hu
  obtain ⟨hr, -⟩ := loopStep_poll_transport hv
  obtain ⟨hviewport, -⟩ := hui.fixed hr
  rw [loopStep_poll (hpending.trans hf) hv, ← hviewport, hfixed.remote]

/-- What X11 does not advertise, it drops: nothing changes on the display. -/
theorem loopStep_poll_unadvertised {presentation : Presentation β} {f : ReceivedFrame}
    (hf : s.transport.frames.pending = some f)
    (ha : Advertised DisplayBackend.x11.pixelFormats f = false)
    (k : loopStep s (.poll presentation) = some t) : t.display = s.display := by
  have hmono : f.frame.pixelFormat ≠ .mono1 := by
    intro hmono
    rw [Advertised, hmono] at ha
    cases ha
  cases loopStep_move k with
  | pollNone => rfl
  | @poll _ t g hr hg ht =>
      obtain rfl : f = g := Option.some.inj (hf.symm.trans hg)
      rw [EventLoop.handOver, RemoteFrame.ofReceived_eq_ok]
      exact if_pos hmono

/-- **Displayable frames.**  Along every run of the loop: of the frames published between two
polls with the same remote viewport, some of which can be displayed, the last that can is handed
over exactly if the last of the viewport's size is in an advertised format. -/
theorem poll_displayable {size : Viewport} {adapter : Bool} {formats : V2PixelFormats}
    {es fs : List (LoopEvent β)} {first last : Presentation β}
    (hs : Run (Fn loopStep) (.start size adapter formats) es s)
    (ht : loopStep s (.poll first) = some t)
    (hu : Run (restrict (Fn loopStep) LoopEvent.BetweenPolls) t fs u)
    (hv : loopStep u (.poll last) = some v)
    (hd : ∃ f ∈ published t fs, Displayable formats t.transport.remoteViewport f = true) :
    (∃ f, latest (Displayable formats t.transport.remoteViewport) (published t fs) = some f ∧
        v.handed = u.handed ++ [⟨f, t.transport.remoteViewport⟩]) ↔
      ∃ f, latest (Sized t.transport.remoteViewport) (published t fs) = some f ∧
        Advertised formats f = true := by
  have hi : LoopInv s := (LoopInv.start size adapter formats).run hs
  obtain ⟨a, ha, had⟩ := hd
  obtain ⟨hsized, hadvertised⟩ := Bool.and_eq_true_iff.mp had
  obtain ⟨g, hg⟩ := exists_latest ha hsized
  have hhanded := hi.handed_latest ht hu hv hg
  rw [← latest_and_eq_iff ⟨a, ha, hsized, hadvertised⟩]
  constructor
  · rintro ⟨f, hf, hh⟩
    have hfg : f = g := by
      rw [hhanded, List.append_cancel_left_eq] at hh
      cases hh
      rfl
    rw [hg, ← hfg]
    exact hf
  · intro he
    exact ⟨g, he.trans hg, hhanded⟩

/-- **MXCFB** is handed the last frame it can display. -/
theorem mxcfb_poll_displayable {size : Viewport} {adapter : Bool} {es fs : List (LoopEvent β)}
    {first last : Presentation β} {f : ReceivedFrame}
    (hs : Run (Fn loopStep) (.start size adapter DisplayBackend.mxcfb.pixelFormats) es s)
    (ht : loopStep s (.poll first) = some t)
    (hu : Run (restrict (Fn loopStep) LoopEvent.BetweenPolls) t fs u)
    (hv : loopStep u (.poll last) = some v)
    (hf : latest (Displayable DisplayBackend.mxcfb.pixelFormats t.transport.remoteViewport)
      (published t fs) = some f) :
    v.handed = u.handed ++ [⟨f, t.transport.remoteViewport⟩] := by
  have hi : LoopInv s := (LoopInv.start size adapter _).run hs
  refine hi.handed_latest ht hu hv ?_
  rw [← hf]
  refine congrArg List.getLast? (List.filter_congr fun g _ => ?_)
  rw [Displayable, advertised_mxcfb, Bool.and_true]

end Loop

/-- One gray luminance byte. -/
def grayDot : Gray8Frame where
  width := 1
  height := 1
  stride := 1
  pixels := [128]
  valid := ⟨by decide, by decide, rfl, rfl⟩

/-- Two frames of the same size arrive one after the other. -/
def twoDots (frame₁ frame₂ : Frame) : List (LoopEvent Unit) :=
  [.transport (.reader (.receive 7 frame₁)), .transport (.reader .publish),
    .transport (.reader (.receive 8 frame₂)), .transport (.reader .publish)]

/-- On X11, a window with room for one pixel comes online, polls and receives the two. -/
theorem twoDots_run (frame₁ frame₂ : Frame) :
    ∃ s t u v : EventLoop Unit,
      Run (Fn (@loopStep Unit .usize64)) (.start (1, 73) true DisplayBackend.x11.pixelFormats)
        [.transport (.main .promote)] s ∧
      @loopStep Unit .usize64 s (.poll .prepareFailed) = some t ∧
      Run (restrict (Fn (@loopStep Unit .usize64)) LoopEvent.BetweenPolls) t
        (twoDots frame₁ frame₂) u ∧
      @loopStep Unit .usize64 u (.poll .prepareFailed) = some v ∧
      t.transport.remoteViewport = (1, 1) ∧
      @published Unit .usize64 t (twoDots frame₁ frame₂) = [⟨7, frame₁, 0⟩, ⟨8, frame₂, 1⟩] := by
  obtain ⟨s, hs⟩ : ∃ s, exec (@loopStep Unit .usize64)
      (.start (1, 73) true DisplayBackend.x11.pixelFormats) [.transport (.main .promote)] =
        some s := ⟨_, rfl⟩
  obtain ⟨t, ht⟩ : ∃ t, @loopStep Unit .usize64 s (.poll .prepareFailed) = some t := by
    obtain rfl := Option.some.inj hs
    exact ⟨_, rfl⟩
  obtain ⟨u, hu⟩ : ∃ u, exec (@loopStep Unit .usize64) t (twoDots frame₁ frame₂) = some u := by
    obtain rfl := Option.some.inj hs
    obtain rfl := Option.some.inj ht
    exact ⟨_, rfl⟩
  obtain ⟨v, hv⟩ : ∃ v, @loopStep Unit .usize64 u (.poll .prepareFailed) = some v := by
    obtain rfl := Option.some.inj hs
    obtain rfl := Option.some.inj ht
    obtain rfl := Option.some.inj hu
    exact ⟨_, rfl⟩
  have hbetween : Run (restrict (Fn (@loopStep Unit .usize64)) LoopEvent.BetweenPolls) t
      (twoDots frame₁ frame₂) u := by
    refine (run_of_exec hu).restricted fun e he _ => ?_
    simp only [twoDots, List.mem_cons, List.not_mem_nil, or_false] at he
    rcases he with rfl | rfl | rfl | rfl <;> trivial
  refine ⟨s, t, u, v, run_of_exec hs, ht, hbetween, hv, ?_⟩
  obtain rfl := Option.some.inj hs
  obtain rfl := Option.some.inj ht
  exact ⟨rfl, rfl⟩

theorem poll_displayable_mono :
    ∃ (t u v : EventLoop Unit),
      Run (restrict (Fn (@loopStep Unit .usize64)) LoopEvent.BetweenPolls) t
        (twoDots (.gray8 grayDot) (.mono1 monoDot)) u ∧
      @loopStep Unit .usize64 u (.poll .prepareFailed) = some v ∧
      v.handed = u.handed ++ [⟨⟨8, .mono1 monoDot, 1⟩, (1, 1)⟩] := by
  obtain ⟨s, t, u, v, hs, ht, hu, hv, hviewport, hpublished⟩ :=
    twoDots_run (.gray8 grayDot) (.mono1 monoDot)
  have h := @poll_displayable Unit s t u v .usize64 _ _ _ _ _ _ _ hs ht hu hv
  rw [hviewport, hpublished] at h
  obtain ⟨f, hf, hh⟩ := (h ⟨⟨8, .mono1 monoDot, 1⟩, by decide, rfl⟩).mpr
    ⟨⟨8, .mono1 monoDot, 1⟩, rfl, rfl⟩
  obtain rfl : ⟨8, .mono1 monoDot, 1⟩ = f := Option.some.inj hf
  exact ⟨t, u, v, hu, hv, hh⟩

/-- On X11, a Gray8 frame displaces a Mono1 frame and is then not displayed. -/
theorem gray_displaces_mono :
    ∃ (s t u v : EventLoop Unit),
      Run (Fn (@loopStep Unit .usize64)) (.start (1, 73) true DisplayBackend.x11.pixelFormats)
        [.transport (.main .promote)] s ∧
      @loopStep Unit .usize64 s (.poll .prepareFailed) = some t ∧
      Run (restrict (Fn (@loopStep Unit .usize64)) LoopEvent.BetweenPolls) t
        (twoDots (.mono1 monoDot) (.gray8 grayDot)) u ∧
      @loopStep Unit .usize64 u (.poll .prepareFailed) = some v ∧
      latest (Displayable DisplayBackend.x11.pixelFormats t.transport.remoteViewport)
        (@published Unit .usize64 t (twoDots (.mono1 monoDot) (.gray8 grayDot))) =
          some ⟨7, .mono1 monoDot, 0⟩ ∧
      v.handed = u.handed ++ [⟨⟨8, .gray8 grayDot, 1⟩, (1, 1)⟩] ∧ v.display = u.display := by
  obtain ⟨s, t, u, v, hs, ht, hu, hv, hviewport, hpublished⟩ :=
    twoDots_run (.mono1 monoDot) (.gray8 grayDot)
  have hi : LoopInv s := @LoopInv.run Unit _ _ .usize64 (LoopInv.start _ _ _) _ hs
  have hlast : latest (Sized t.transport.remoteViewport)
      (@published Unit .usize64 t (twoDots (.mono1 monoDot) (.gray8 grayDot))) =
        some ⟨8, .gray8 grayDot, 1⟩ := by
    rw [hviewport, hpublished]
    rfl
  have hhanded := @LoopInv.handed_latest Unit s t u v .usize64 _ _ _ _ hi ht hu hv hlast
  have hpending := (@LoopInv.betweenPolls Unit s t u .usize64 _ _ hi ht hu).2.2.trans hlast
  rw [hviewport] at hhanded
  refine ⟨s, t, u, v, hs, ht, hu, hv, ?_, hhanded, ?_⟩
  · rw [hviewport, hpublished]
    rfl
  · exact @loopStep_poll_unadvertised Unit u v .usize64 _ _ hpending rfl hv

end PaperPad.Device
