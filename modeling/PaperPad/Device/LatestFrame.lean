import PaperPad.Device.EventLoop
import PaperPad.Device.Moves

/-!
# Device — LatestFrame

A ConfigureNotify changes the remote viewport in four places, one after the other, while a reader
publishes frames: the application state, `remote_viewport`, the mailbox and the backend.  The
backend never looks at a frame's size; it relies on the mailbox.

`latest_frame`: the backend is handed frames of its own size only, in the order they were
received, and a frame that got into the mailbox is handed over unless a later one replaced it or
the viewport became another size.
-/

namespace PaperPad.Device

open Protocol Transition

/-! ### What the transport does to the mailbox -/

/-- The mailbox has the remote viewport, unless `send_viewport_changed` is about to set it. -/
def Transport.Synced (t : Transport) : Prop :=
  (∀ v previous, t.main = .stored v previous → t.remoteViewport = v) ∧
    ((∀ v previous, t.main ≠ .stored v previous) → t.frames.viewport = t.remoteViewport)

/-- The frame the reader holds. -/
def ReaderPc.frame? : ReaderPc → Option ReceivedFrame
  | received _ frame => some frame
  | ended | reading _ => none

/-- The serial numbers of the frames on their way to the event loop, in order. -/
def Transport.serials (t : Transport) : List Nat :=
  (t.frames.pending.toList ++ t.reader.frame?.toList).map ReceivedFrame.serial

section Mailbox

variable {t u : Transport} {e : TransportEvent}

/-- Only `send_viewport_changed` stores a viewport. -/
theorem transportStep_viewport (he : ∀ v, e ≠ .main (.storeViewport v))
    (k : transportStep t e = some u) :
    u.remoteViewport = t.remoteViewport ∧
      ∀ v previous, u.main = .stored v previous → t.main = .stored v previous := by
  have hsame : t.remoteViewport = t.remoteViewport ∧
      ∀ v previous, t.main = .stored v previous → t.main = .stored v previous :=
    ⟨rfl, fun _ _ h => h⟩
  cases transportStep_move k with
  | main m =>
      cases m with
      | storeViewport => exact absurd rfl (he _)
      | setMailbox => exact ⟨rfl, fun _ _ h => by split at h <;> cases h⟩
      | promote | pointerOffline | pollFrame => exact hsame
      | _ => exact ⟨rfl, nofun⟩
  | writer m => cases m <;> exact hsame
  | reader m => cases m <;> exact hsame
  | reconnector m => cases m <;> exact hsame

/-- Outside `send_viewport_changed`, mailbox and transport say the same. -/
theorem Transport.Synced.outside (h : t.Synced) (hm : ∀ v previous, t.main ≠ .stored v previous)
    (hu : ∀ v previous, u.main ≠ .stored v previous) (hf : u.frames.viewport = t.frames.viewport)
    (hv : u.remoteViewport = t.remoteViewport) : u.Synced :=
  ⟨fun v previous hs => absurd hs (hu v previous), fun _ => by rw [hf, hv, h.2 hm]⟩

theorem Transport.Synced.step (h : t.Synced) (k : transportStep t e = some u) : u.Synced := by
  cases transportStep_move k with
  | main m =>
      cases m with
      | promote => exact ⟨h.1, fun _ => rfl⟩
      | storeViewport => exact ⟨by rintro _ _ ⟨⟩; rfl, fun hne => absurd rfl (hne _ _)⟩
      | setMailbox hm =>
          refine ⟨fun _ _ hs => ?_, fun _ => (h.1 _ _ hm).symm⟩
          split at hs <;> cases hs
      | pointerOffline | pollFrame => exact h
      | _ hm => exact h.outside (by simp [hm]) nofun rfl rfl
  | writer m => cases m <;> exact h
  | reader m =>
      cases m with
      | publish => simpa only [Synced, FrameMailboxState.publish_viewport] using h
      | _ => exact h
  | reconnector m => cases m <;> exact h

/-- What becomes of the mailbox, and which step it is. -/
theorem transportStep_frames (k : transportStep t e = some u) :
    u.frames = t.frames ∨
      (e = .main .promote ∧ (∀ v previous, t.main ≠ .stored v previous) ∧
        u.frames = t.frames.setViewport t.remoteViewport) ∨
      (e = .main .setMailbox ∧ ∃ v previous, t.main = .stored v previous ∧
        u.frames = t.frames.setViewport v) ∨
      (e = .main .pollFrame ∧ u.frames = t.frames.take.1) ∨
      (e = .reader .publish ∧ ∃ socket f, t.reader = .received socket f ∧
        u.frames = (t.frames.publish f).1) := by
  cases transportStep_move k with
  | main m =>
      cases m with
      | promote hr hm =>
          refine .inr (.inl ⟨rfl, ?_, rfl⟩)
          rcases hm with hm | ⟨v, hm⟩ <;> simp [hm]
      | setMailbox hm => exact .inr (.inr (.inl ⟨rfl, _, _, hm, rfl⟩))
      | pollFrame => exact .inr (.inr (.inr (.inl ⟨rfl, rfl⟩)))
      | _ => exact .inl rfl
  | writer m => cases m <;> exact .inl rfl
  | reader m =>
      cases m with
      | publish hr => exact .inr (.inr (.inr (.inr ⟨rfl, _, _, hr, rfl⟩)))
      | _ => exact .inl rfl
  | reconnector m => cases m <;> exact .inl rfl

theorem transportStep_matching (h : t.frames.Matching) (k : transportStep t e = some u) :
    u.frames.Matching := by
  rcases transportStep_frames k with
    hf | ⟨-, -, hf⟩ | ⟨-, _, _, -, hf⟩ | ⟨-, hf⟩ | ⟨-, _, f, -, hf⟩ <;> rw [hf]
  · exact h
  · exact .setViewport _
  · exact .setViewport _
  · exact .take
  · exact h.publish f

/-- The frame the reader holds stays, goes away or has just been received. -/
theorem transportStep_reader (k : transportStep t e = some u) :
    (u.receivedCount = t.receivedCount ∧
        (u.reader.frame? = none ∨ e ≠ .reader .publish ∧ u.reader.frame? = t.reader.frame?)) ∨
      (u.receivedCount = t.receivedCount + 1 ∧ u.frames = t.frames ∧ t.reader.frame? = none ∧
        ∃ f, u.reader.frame? = some f ∧ f.serial = t.receivedCount) := by
  cases transportStep_move k with
  | main m =>
      cases m with
      | promote => exact .inl ⟨rfl, .inl rfl⟩
      | _ => exact .inl ⟨rfl, .inr ⟨nofun, rfl⟩⟩
  | writer m => cases m <;> exact .inl ⟨rfl, .inr ⟨nofun, rfl⟩⟩
  | reader m =>
      cases m with
      | receive hr => exact .inr ⟨rfl, rfl, by rw [hr]; rfl, _, rfl, rfl⟩
      | publish | readerEnd => exact .inl ⟨rfl, .inl rfl⟩
  | reconnector m =>
      cases m with
      | spawnReader => exact .inl ⟨rfl, .inl rfl⟩
      | _ => exact .inl ⟨rfl, .inr ⟨nofun, rfl⟩⟩

/-- The pending frame stays, goes away or is the one the reader publishes. -/
theorem transportStep_pending_cases (k : transportStep t e = some u) :
    u.frames.pending = none ∨ u.frames.pending = t.frames.pending ∨
      (e = .reader .publish ∧ u.frames.pending = t.reader.frame?) := by
  rcases transportStep_frames k with
    hf | ⟨-, -, hf⟩ | ⟨-, v, _, -, hf⟩ | ⟨-, hf⟩ | ⟨he, _, f, hr, hf⟩ <;> rw [hf]
  · exact .inr (.inl rfl)
  · unfold FrameMailboxState.setViewport; grind
  · unfold FrameMailboxState.setViewport; grind
  · exact .inl rfl
  · rw [hr]
    simp only [FrameMailboxState.publish]
    split
    · exact .inr (.inl rfl)
    · exact .inr (.inr ⟨he, rfl⟩)

/-- A step adds at most the frame it receives, at the end. -/
theorem transportStep_serials (k : transportStep t e = some u) :
    (u.serials.Sublist t.serials ∧ u.receivedCount = t.receivedCount) ∨
      (u.serials = t.serials ++ [t.receivedCount] ∧ u.receivedCount = t.receivedCount + 1) := by
  simp only [Transport.serials]
  rcases transportStep_reader k with ⟨hn, hr⟩ | ⟨hn, hf, ht, f, hu, hs⟩
  · refine .inl ⟨List.Sublist.map _ ?_, hn⟩
    rcases hr with hr | ⟨hne, hr⟩
    · rcases transportStep_pending_cases k with hp | hp | ⟨-, hp⟩ <;> simp [hp, hr]
    · rcases transportStep_pending_cases k with hp | hp | ⟨he, -⟩
      · simp [hp, hr]
      · simp [hp, hr]
      · exact absurd he hne
  · refine .inr ⟨?_, hn⟩
    simp [hf, ht, hu, hs]

/-- What ends the wait of a pending frame, other than a poll: a later frame that is accepted, or
a viewport of another size. -/
def TransportEvent.Displaces (t : Transport) (f : ReceivedFrame) : TransportEvent → Prop
  | .reader .publish =>
      ∃ socket g, t.reader = .received socket g ∧ (t.frames.publish g).2 = .ok ()
  | .main .setMailbox => ∃ v previous, t.main = .stored v previous ∧ v ≠ f.dimensions
  | .main .pollFrame => True
  | _ => False

theorem transportStep_pending {f : ReceivedFrame} (hs : t.Synced) (hm : t.frames.Matching)
    (hf : t.frames.pending = some f) (he : ¬ e.Displaces t f) (k : transportStep t e = some u) :
    u.frames.pending = some f := by
  rcases transportStep_frames k with
    h | ⟨-, hv, h⟩ | ⟨rfl, v, previous, hv, h⟩ | ⟨rfl, -⟩ | ⟨rfl, socket, g, hr, h⟩
  · rw [h, hf]
  · rw [h, FrameMailboxState.setViewport_pending, ← hs.2 hv]
    exact ⟨hf, hm f hf⟩
  · rw [h, FrameMailboxState.setViewport_pending]
    refine ⟨hf, ?_⟩
    by_contra hne
    exact he ⟨v, previous, hv, Ne.symm hne⟩
  · exact absurd trivial he
  · rw [h]
    simp only [FrameMailboxState.publish]
    split
    · exact hf
    · next hd => exact absurd ⟨socket, g, hr, by rw [FrameMailboxState.publish, if_neg hd]⟩ he

end Mailbox

/-! ### The invariant -/

/-- Numbers in order, all of them given out. -/
def Ordered (l : List Nat) (count : Nat) : Prop := l.Pairwise (· < ·) ∧ ∀ n ∈ l, n < count

theorem Ordered.sublist {l l' : List Nat} {count : Nat} (h : Ordered l count)
    (hs : l'.Sublist l) : Ordered l' count :=
  ⟨h.1.sublist hs, fun n hn => h.2 n (hs.mem hn)⟩

theorem Ordered.concat {l : List Nat} {count : Nat} (h : Ordered l count) :
    Ordered (l ++ [count]) (count + 1) := by
  refine ⟨List.pairwise_append.mpr ⟨h.1, List.pairwise_singleton _ _, ?_⟩, ?_⟩
  · intro n hn m hm
    rw [List.mem_singleton.mp hm]
    exact h.2 n hn
  · intro n hn
    rcases List.mem_append.mp hn with hn | hn
    · exact Nat.lt_succ_of_lt (h.2 n hn)
    · rw [List.mem_singleton.mp hn]
      exact Nat.lt_succ_self count

section Loop

variable {β : Type}

/-- The serial numbers of the frames handed over and of those still to come. -/
def EventLoop.serials (s : EventLoop β) : List Nat :=
  s.handed.map (fun h => h.frame.serial) ++ s.transport.serials

/-- How far a ConfigureNotify has got. -/
def EventLoop.Agrees (s : EventLoop β) : Prop :=
  match s.pc with
  | .idle =>
      s.display.dimensions = s.app.size ∧
        s.transport.remoteViewport = remoteViewportSize s.app.size
  | .resized size => s.app.size = size
  | .sending size => s.app.size = size ∧ s.transport.remoteViewport = remoteViewportSize size

/-- What every step keeps. -/
structure LoopInv (s : EventLoop β) : Prop where
  synced : s.transport.Synced
  matching : s.transport.frames.Matching
  cached : s.display.Cached
  agrees : s.Agrees
  /-- A viewport is stored only in `send_viewport_changed`. -/
  stored : ∀ v previous, s.transport.main = .stored v previous → ∃ size, s.pc = .sending size
  handed : ∀ h ∈ s.handed, h.frame.dimensions = h.viewport
  ordered : Ordered s.serials s.transport.receivedCount

variable {s u : EventLoop β}

theorem LoopInv.start (size : Viewport) (adapter : Bool) (pixelFormats : V2PixelFormats) :
    LoopInv (.start size adapter pixelFormats : EventLoop β) where
  synced := ⟨nofun, fun _ => rfl⟩
  matching := nofun
  cached := nofun
  agrees := ⟨rfl, rfl⟩
  stored := nofun
  handed := nofun
  ordered := ⟨.nil, nofun⟩

/-- A step of the transport, other than the call that changes the viewport. -/
theorem LoopInv.transport (h : LoopInv s) {e : TransportEvent} {t : Transport}
    (he : ∀ v, e ≠ .main (.storeViewport v)) (k : transportStep s.transport e = some t) :
    LoopInv { s with transport := t } := by
  obtain ⟨hv, hst⟩ := transportStep_viewport he k
  refine ⟨h.synced.step k, transportStep_matching h.matching k, h.cached, ?_,
    fun v previous hm => h.stored v previous (hst v previous hm), h.handed, ?_⟩
  · have ha := h.agrees
    simp only [EventLoop.Agrees] at ha ⊢
    rw [hv]
    exact ha
  · simp only [EventLoop.serials]
    rcases transportStep_serials k with ⟨hs, hn⟩ | ⟨hs, hn⟩
    · rw [hn]
      exact h.ordered.sublist (List.Sublist.append_left hs _)
    · rw [hs, hn, ← List.append_assoc]
      exact h.ordered.concat

/-- The size of a pending frame, where the loop polls. -/
theorem LoopInv.pending (h : LoopInv s) (hr : s.Ready) {f : ReceivedFrame}
    (hf : s.transport.frames.pending = some f) :
    f.dimensions = remoteViewportSize s.app.size ∧ s.display.dimensions = s.app.size := by
  have ha := h.agrees
  simp only [EventLoop.Agrees, hr.1] at ha
  refine ⟨?_, ha.1⟩
  rw [h.matching f hf, h.synced.2 (by simp [hr.2]), ha.2]

/-- The loop hands over the pending frame. -/
theorem EventLoop.handOver_eq [Platform] (s : EventLoop β) (presentation : Presentation β)
    (f : ReceivedFrame) :
    ∃ frame : RemoteFrame, frame.dimensions = f.dimensions ∧
      s.handOver presentation f =
        { s with
          display := s.display.displayRemoteFrame frame presentation
          handed := s.handed ++ [⟨f, remoteViewportSize s.app.size⟩] } := by
  refine ⟨_, ?_, by unfold handOver; rw [RemoteFrame.ofReceived_eq_ok]⟩
  rfl

theorem LoopInv.poll [Platform] (h : LoopInv s) (hr : s.Ready) {f : ReceivedFrame} {t : Transport}
    (hf : s.transport.frames.pending = some f) (k : mainStep s.transport .pollFrame = some t)
    (presentation : Presentation β) :
    LoopInv ({ s with transport := t }.handOver presentation f) := by
  obtain ⟨hdim, hsize⟩ := h.pending hr hf
  have h' : LoopInv { s with transport := t } := h.transport (e := .main .pollFrame) nofun k
  obtain ⟨frame, hframe, heq⟩ := EventLoop.handOver_eq { s with transport := t } presentation f
  rw [heq]
  refine ⟨h'.synced, h'.matching, ?_, ?_, h'.stored, ?_, ?_⟩
  · refine h.cached.displayRemoteFrame ?_ presentation
    rw [hframe, hsize, hdim]
  · have ha := h'.agrees
    simpa only [EventLoop.Agrees, hr.1, X11DisplayBackend.displayRemoteFrame_dimensions] using ha
  · intro g hg
    rcases List.mem_append.mp hg with hg | hg
    · exact h.handed g hg
    · rw [List.mem_singleton.mp hg]
      exact hdim
  · simp only [mainStep, hr.2, Option.some.injEq] at k
    subst k
    have ho := h.ordered
    simp only [EventLoop.serials, Transport.serials, hf] at ho
    simpa [EventLoop.serials, Transport.serials, FrameMailboxState.take] using ho

/-- A change of the application state that keeps its size. -/
theorem LoopInv.app (h : LoopInv s) {a : AppState} (ha : a.size = s.app.size) :
    LoopInv { s with app := a } := by
  refine ⟨h.synced, h.matching, h.cached, ?_, h.stored, h.handed, h.ordered⟩
  simpa only [EventLoop.Agrees, ha] using h.agrees

theorem LoopInv.resized (h : LoopInv s) (hr : s.Ready) {a : AppState} {size : Viewport}
    (ha : a.size = size) : LoopInv { s with app := a, pc := .resized size } := by
  refine ⟨h.synced, h.matching, h.cached, ha, ?_, h.handed, h.ordered⟩
  simp [hr.2]

theorem LoopInv.sendViewportChanged (h : LoopInv s) {size : Viewport} {t : Transport}
    (hpc : s.pc = .resized size)
    (k : mainStep s.transport (.storeViewport (remoteViewportSize size)) = some t) :
    LoopInv { s with transport := t, pc := .sending size } := by
  have ha := h.agrees
  simp only [EventLoop.Agrees, hpc] at ha
  have hs : t.Synced := h.synced.step (e := .main (.storeViewport _)) k
  have hm := transportStep_matching (e := .main (.storeViewport _)) h.matching k
  cases mainStep_move k with
  | storeViewport =>
      exact ⟨hs, hm, h.cached, ⟨ha, rfl⟩, fun _ _ _ => ⟨size, rfl⟩, h.handed, h.ordered⟩

theorem LoopInv.setDimensions (h : LoopInv s) {size : Viewport} (hpc : s.pc = .sending size)
    (hm : s.transport.main = .idle) :
    LoopInv { s with display := (s.display.setDimensions size).1, pc := .idle } := by
  have ha := h.agrees
  simp only [EventLoop.Agrees, hpc] at ha
  refine ⟨h.synced, h.matching, s.display.cached_setDimensions size, ⟨ha.1.symm, ?_⟩, ?_, h.handed,
    h.ordered⟩
  · rw [ha.1, ha.2]
  · simp [hm]

theorem LoopInv.step [Platform] (h : LoopInv s) {e : LoopEvent β} (k : loopStep s e = some u) :
    LoopInv u := by
  cases loopStep_move k with
  | pollNone hr hf ht => exact h.transport (e := .main .pollFrame) nofun ht
  | poll hr hf ht => exact h.poll hr hf ht _
  | ignored hr => exact h
  | resized hr ha hg => exact h.resized hr ha
  | sendViewportChanged hpc ht => exact h.sendViewportChanged hpc ht
  | setDimensions hpc hm => exact h.setDimensions hpc hm
  | @button event hr ho => exact h.app (s.app.handlePointer_size event)
  | @pointer event p t hr ho ht =>
      have ha := h.app (s.app.handlePointer_size event)
      exact ha.transport (e := .main (.lookupPointer _)) nofun ht
  | unmapNotify hr => exact h.app s.app.cancelContact_size
  | transport he ht =>
      -- the calls of the main thread are the loop's own
      refine h.transport ?_ ht
      rintro v rfl
      exact he rfl

theorem LoopInv.run [Platform] (h : LoopInv s) {es : List (LoopEvent β)}
    (k : Run (Fn loopStep) s es u) : LoopInv u :=
  k.invariant (fun hi hk => hi.step hk) h

/-! ### A frame in the mailbox -/

/-- What keeps a pending frame from being handed over by the next poll. -/
def LoopEvent.Displaces (s : EventLoop β) (f : ReceivedFrame) : LoopEvent β → Prop
  | .poll _ => True
  | .transport event => event.Displaces s.transport f
  | _ => False

/-- A step of the loop other than a poll takes one step of the transport, or none. -/
theorem loopStep_transport [Platform] {e : LoopEvent β}
    (he : ∀ presentation, e ≠ .poll presentation) (k : loopStep s e = some u) :
    u.transport = s.transport ∨
      ∃ event, transportStep s.transport event = some u.transport ∧
        ∀ f, event.Displaces s.transport f → e = .transport event := by
  cases loopStep_move k with
  | pollNone | poll => exact absurd rfl (he _)
  | ignored | resized | setDimensions | button | unmapNotify => exact .inl rfl
  | sendViewportChanged hpc ht => exact .inr ⟨.main (.storeViewport _), ht, nofun⟩
  | pointer hr ho ht => exact .inr ⟨.main (.lookupPointer _), ht, nofun⟩
  | @transport e t he ht => exact .inr ⟨e, ht, fun _ _ => rfl⟩

theorem loopStep_pending [Platform] (h : LoopInv s) {f : ReceivedFrame} {e : LoopEvent β}
    (hf : s.transport.frames.pending = some f) (he : ¬ e.Displaces s f)
    (k : loopStep s e = some u) : u.transport.frames.pending = some f := by
  have hpoll : ∀ presentation, e ≠ .poll presentation := by
    rintro presentation rfl
    exact he trivial
  rcases loopStep_transport hpoll k with ht | ⟨event, ht, hd⟩
  · rw [ht, hf]
  · refine transportStep_pending h.synced h.matching hf (fun hdis => he ?_) ht
    obtain rfl := hd f hdis
    exact hdis

theorem loopStep_poll [Platform] {presentation : Presentation β} {f : ReceivedFrame}
    (hf : s.transport.frames.pending = some f) (k : loopStep s (.poll presentation) = some u) :
    u.handed = s.handed ++ [⟨f, remoteViewportSize s.app.size⟩] := by
  cases loopStep_move k with
  | pollNone hr hnone ht => rw [hnone] at hf; cases hf
  | @poll _ t g hr hf' ht =>
      obtain rfl : f = g := Option.some.inj (hf.symm.trans hf')
      obtain ⟨frame, -, heq⟩ := EventLoop.handOver_eq { s with transport := t } presentation f
      rw [heq]

/-- A frame of the size of the mailbox gets in. -/
theorem loopStep_publish [Platform] {socket : Nat} {f : ReceivedFrame}
    (hr : s.transport.reader = .received socket f) (hd : f.dimensions = s.transport.frames.viewport)
    (k : loopStep s (.transport (.reader .publish)) = some u) :
    u.transport.frames.pending = some f := by
  cases loopStep_move k with
  | @transport _ t he ht =>
      have m : ReaderMove s.transport .publish t := readerStep_move ht
      cases m with
      | publish hr' =>
          obtain ⟨-, rfl⟩ := ReaderPc.received.inj (hr.symm.trans hr')
          simp [FrameMailboxState.publish, hd]

/-- **Latest frame.**  Along every run of the loop: a frame handed to the backend has the size of
the remote viewport; frames are handed over in the order they were received, none twice; a frame
published at the size of the mailbox is what the next poll hands over, unless a later one was
accepted or the viewport became another size before; and what the backend has cached has the size
of its remote viewport, which between two ConfigureNotify is that of the application state and of
the transport. -/
theorem latest_frame [Platform] {size : Viewport} {adapter : Bool} {pixelFormats : V2PixelFormats}
    {es : List (LoopEvent β)} {s : EventLoop β}
    (h : Run (Fn loopStep) (.start size adapter pixelFormats) es s) :
    (∀ g ∈ s.handed, g.frame.dimensions = g.viewport) ∧
      s.handed.Pairwise (fun g g' => g.frame.serial < g'.frame.serial) ∧
      (∀ {socket f fs presentation} {t u v : EventLoop β},
        s.transport.reader = .received socket f →
        f.dimensions = s.transport.frames.viewport →
        loopStep s (.transport (.reader .publish)) = some t →
        Run (restrict (Fn loopStep) fun w e => ¬ e.Displaces w f) t fs u →
        loopStep u (.poll presentation) = some v →
        v.handed = u.handed ++ [⟨f, remoteViewportSize u.app.size⟩]) ∧
      s.display.Cached ∧
      (s.pc = .idle →
        s.display.dimensions = s.app.size ∧
          s.transport.remoteViewport = remoteViewportSize s.app.size) := by
  have hi : LoopInv s := (LoopInv.start size adapter pixelFormats).run h
  refine ⟨hi.handed, ?_, ?_, hi.cached, ?_⟩
  · have ho := (List.pairwise_append.mp hi.ordered.1).1
    exact List.pairwise_map.mp ho
  · -- the frame stays pending as long as nothing displaces it
    intro socket f fs presentation t u v hr hd hpub hrun hpoll
    have ht : LoopInv t := hi.step hpub
    have hf : t.transport.frames.pending = some f := loopStep_publish hr hd hpub
    have hu : LoopInv u ∧ u.transport.frames.pending = some f := by
      refine hrun.invariant (I := fun w => LoopInv w ∧ w.transport.frames.pending = some f) ?_
        ⟨ht, hf⟩
      rintro w e x ⟨hw, hp⟩ ⟨he, k⟩
      exact ⟨hw.step k, loopStep_pending hw hp he k⟩
    exact loopStep_poll hu.2 hpoll
  · intro hpc
    have ha := hi.agrees
    simpa only [EventLoop.Agrees, hpc] using ha

end Loop

/-- One black pixel. -/
def monoDot : Mono1Frame where
  width := 1
  height := 1
  stride := 1
  pixels := [128]
  valid := ⟨by decide, by decide, rfl, rfl, by decide⟩

/-- A window with room for one pixel comes online and receives it. -/
def dotReceived : List (LoopEvent Unit) :=
  [.transport (.main .promote), .transport (.reader (.receive 7 (.mono1 monoDot)))]

theorem latest_frame_polled :
    ∃ s t u : EventLoop Unit, exec (@loopStep Unit .usize64) (.start (1, 73) true .MONO1)
        dotReceived = some s ∧
      @loopStep Unit .usize64 s (.transport (.reader .publish)) = some t ∧
      @loopStep Unit .usize64 t (.poll (.uploaded ())) = some u ∧
      u.handed = [⟨⟨7, .mono1 monoDot, 0⟩, (1, 1)⟩] ∧ u.display.Cached := by
  obtain ⟨s, hs⟩ : ∃ s, exec (@loopStep Unit .usize64) (.start (1, 73) true .MONO1) dotReceived =
      some s := ⟨_, rfl⟩
  obtain ⟨t, ht⟩ : ∃ t, @loopStep Unit .usize64 s (.transport (.reader .publish)) = some t := by
    obtain rfl := Option.some.inj hs
    exact ⟨_, rfl⟩
  obtain ⟨u, hu⟩ : ∃ u, @loopStep Unit .usize64 t (.poll (.uploaded ())) = some u := by
    obtain rfl := Option.some.inj hs
    obtain rfl := Option.some.inj ht
    exact ⟨_, rfl⟩
  have h := @latest_frame Unit .usize64 _ _ _ _ _ (run_of_exec hs)
  have hr : s.transport.reader = .received 0 ⟨7, .mono1 monoDot, 0⟩ ∧
      (1, 1) = s.transport.frames.viewport := by
    obtain rfl := Option.some.inj hs
    exact ⟨rfl, rfl⟩
  have hh := h.2.2.1 hr.1 hr.2 ht (.refl t) hu
  have hc := (@latest_frame Unit .usize64 _ _ _ _ _ (.snoc (.snoc (run_of_exec hs) ht) hu)).2.2.2.1
  refine ⟨s, t, u, hs, ht, hu, ?_, hc⟩
  obtain rfl := Option.some.inj hs
  obtain rfl := Option.some.inj ht
  exact hh

end PaperPad.Device
