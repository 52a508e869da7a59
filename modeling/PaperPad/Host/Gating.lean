import PaperPad.Host.Replacement

/-!
# Host — Gating

Which picture taps are resolved against.  A pointer is handled under the viewport of the last
post, or of the last frame of the connection thread; what the device shows is the last frame on
the wire.  The two orders agree until the connection thread sends a frame while the stdin thread
owes the post of an earlier one: the post then arrives after a frame it knows nothing of.

`input_gating`: if at every frame of the connection thread the newest post still owed agrees with
what will be shown, taps are resolved against what is shown.
-/

namespace PaperPad.Host

open Protocol Transition

/-! ### What is shown, and what taps are resolved against -/

/-- The application the last frame fully written to a connection shows, if it is one. -/
def shownOn (sender : FrameSender) (token : Nat) : Option Viewport :=
  (sender.sent.filter fun d => d.token = token).getLast?.bind fun d =>
    d.source.bind AuthoritativeFrame.applicationViewport

/-- The same, if it is of the viewport last reported. -/
def shown (sender : FrameSender) (session : Session) : Option Viewport :=
  (shownOn sender session.token).filter fun v => v = session.reportedViewport

/-- The viewport of the input after a post. -/
def resolve (reportedViewport : Viewport) (post : Option Viewport) : Option Viewport :=
  (({} : ApplicationInput).setViewport (matchingApplicationViewport reportedViewport post)).viewport

/-- The newest post that is not drained. -/
def HostState.newestPost (s : HostState) : Option (Option Viewport) :=
  (s.channel ++ s.outstanding.toList).getLast?

/-- The viewport of the input once every post is drained. -/
def settled (s : HostState) (session : Session) : Option Viewport :=
  match s.newestPost with
  | some post => resolve session.reportedViewport post
  | none => session.input.viewport

/-- The newest post owed, if there is one, resolves to the picture there will be once the
connection thread has sent a frame with this descriptor or failed to.  With none owed the frame
goes out, or there is no picture of the application. -/
def Agrees (s : HostState) (session : Session) (source : AuthoritativeFrame)
    (outcome : WriteOutcome) : Prop :=
  match s.newestPost with
  | some post =>
      (Sendable s.sender source outcome → resolve session.reportedViewport post =
          source.applicationViewport.filter fun v => v = session.reportedViewport) ∧
        (¬ Sendable s.sender source outcome →
          resolve session.reportedViewport post = shown s.sender session)
  | none => Sendable s.sender source outcome ∨ shown s.sender session = none

/-- The frames of the connection thread agree with the posts owed. -/
def GateOk (s : HostState) : HostEvent → Prop
  | .helloFrame outcome => ∀ session, s.phase = .installed session →
      Agrees s session (helloSource s.sender session.reportedViewport session.pixelFormats) outcome
  | .replaceFrame outcome => ∀ session, s.phase = .viewportUpdated session →
      Agrees s session (.application session.reportedViewport) outcome
  | _ => True

/-- A post for a viewport that can be rendered resolves to it, if it is the reported one. -/
theorem resolve_eq {v : Viewport} {post : Option Viewport} (h : ∀ w, post = some w → Renderable w) :
    resolve v post = post.filter fun w => w = v := by
  simp only [resolve, matchingApplicationViewport, ApplicationInput.setViewport]
  cases post with
  | none => rfl
  | some w =>
      obtain ⟨h₁, h₂, -⟩ := h w rfl
      by_cases hw : w = v
      · subst hw
        simp [Option.filter, UInt16.pos_iff_ne_zero.mpr h₁, UInt16.pos_iff_ne_zero.mpr h₂]
      · simp [Option.filter, hw]

/-- What was sent last is shown. -/
theorem shownOn_append {s t : FrameSender} {d : Delivery} (h : t.sent = s.sent ++ [d]) :
    shownOn t d.token = d.source.bind AuthoritativeFrame.applicationViewport := by
  simp [shownOn, h]

theorem shown_congr {s t : FrameSender} (h : t.sent = s.sent) (session : Session) :
    shown t session = shown s session := by
  rw [shown, shown, shownOn, shownOn, h]

/-! ### The current connection is the session's -/

/-- The token and the formats of the connection being served. -/
def Phase.connection? (phase : Phase) : Option (Nat × V2PixelFormats) :=
  phase.session?.map fun session => (session.token, session.pixelFormats)

/-- The current connection is the one being served, and only it is given application frames. -/
structure Attached (sender : FrameSender) (served : Option (Nat × V2PixelFormats)) : Prop where
  current : ∀ a, sender.current.inner = some a → served = some (a.token, a.pixelFormats)
  supported : ∀ c, served = some c → ∀ d ∈ sender.sent, d.token = c.1 →
    ∀ v, d.source = some (.application v) → c.2.supports .mono1 = true

/-- A call that sends nothing. -/
theorem Attached.keeps {s t : FrameSender} {served : Option (Nat × V2PixelFormats)}
    {outcome : WriteOutcome} (h : Attached s served) (hk : Keeps s ⟨[], outcome⟩ t) :
    Attached t served where
  current a ha := by
    rcases hk.inner with hi | hi | hi
    · rw [hi] at ha; cases ha
    · exact h.current a (hi ▸ ha)
    · exact h.current a (by rw [hi] at ha; exact ha)
  supported := by rw [hk.sent_eq]; exact h.supported

/-- The viewport of a connection is not what it is known by. -/
theorem Attached.updateViewport {s : FrameSender} {served : Option (Nat × V2PixelFormats)}
    (h : Attached s served) (token : Nat) (v : Viewport) :
    Attached { s with current := (s.current.updateViewportIfCurrent token v).1 } served := by
  rcases s.current.updateViewportIfCurrent_cases token v with hc | ⟨a, ha, -, hc⟩
  · rw [hc]
    exact h
  · rw [hc]
    refine ⟨?_, h.supported⟩
    rintro _ ⟨⟩
    exact h.current a ha

/-- The connection that is served may be gone. -/
theorem Attached.clear {s : FrameSender} {c : Nat × V2PixelFormats} (h : Attached s (some c)) :
    Attached { s with current := (s.current.clearIfCurrent c.1).1 } none := by
  refine ⟨fun a ha => ?_, by simp⟩
  rcases s.current.clearIfCurrent_cases c.1 with ⟨hc, hne⟩ | ⟨b, -, -, hc⟩
  · rw [hc] at ha
    obtain rfl := Option.some.inj (h.current a ha)
    exact absurd rfl (hne a ha)
  · rw [hc] at ha
    cases ha

/-- Nothing is posted for a frame that was not sent. -/
theorem postNone_eq_none {α : Type} {x : Except String (Option α)} (h : ∀ r, x ≠ .ok (some r)) :
    postNone x = none := by
  rcases error_or_none h with ⟨e, rfl⟩ | rfl <;> rfl

section Gate

variable [Platform] {s t : FrameSender} {served : Option (Nat × V2PixelFormats)}
  {source : AuthoritativeFrame} {outcome : WriteOutcome}

/-- A frame goes to the connection that is served. -/
theorem Attached.sends {f : Frame} {r : SentFrame} (h : Attached s served)
    (hs : Sends s ⟨[], outcome⟩ source f r t) : Attached t served := by
  obtain ⟨a, bytes, ha, hsup, -, -, hcur, hsent⟩ := hs.delivered
  refine ⟨fun b hb => ?_, fun c hc d hd ht v hv => ?_⟩
  · rw [hcur] at hb
    exact h.current b hb
  · rw [hsent] at hd
    rcases List.mem_append.mp hd with hd | hd
    · exact h.supported c hc d hd ht v hv
    · obtain rfl := List.mem_singleton.mp hd
      obtain rfl := Option.some.inj ((h.current a ha).symm.trans hc)
      obtain rfl := Option.some.inj hv
      exact hsup

/-- A sent frame is what its connection shows. -/
theorem Attached.shownOn_sends {f : Frame} {r : SentFrame} {c : Nat × V2PixelFormats}
    (h : Attached s (some c)) (hs : Sends s ⟨[], outcome⟩ source f r t) :
    shownOn t c.1 = source.applicationViewport := by
  obtain ⟨a, bytes, ha, -, -, -, -, hsent⟩ := hs.delivered
  obtain rfl := Option.some.inj (h.current a ha)
  exact shownOn_append hsent

/-- A frame of the stdin thread is sent, and its application is owed to the channel; or neither. -/
theorem stdinSend_spec {command : StdinCommand} {post : Option (Option Viewport)}
    (h : stdinSend s command outcome = (t, post)) :
    (Keeps s ⟨[], outcome⟩ t ∧ post = none) ∨
      ∃ source f r, Sends s ⟨[], outcome⟩ source f r t ∧
        post = some source.applicationViewport := by
  cases command with
  | frame d =>
      obtain ⟨u, x, hx⟩ : ∃ u x, s.sendDiagnostic d ⟨[], outcome⟩ = (u, x) := ⟨_, _, rfl⟩
      simp only [stdinSend, hx] at h
      obtain ⟨rfl, rfl⟩ := Prod.mk.inj h
      rcases sendDiagnostic_spec hx with ⟨hk, hn⟩ | ⟨r, f, rfl, hs⟩
      · exact .inl ⟨hk, postNone_eq_none hn⟩
      · exact .inr ⟨_, f, r, hs, rfl⟩
  | jpeg g target =>
      obtain ⟨u, x, hx⟩ : ∃ u x, s.sendJpegFrame g target ⟨[], outcome⟩ = (u, x) := ⟨_, _, rfl⟩
      simp only [stdinSend, hx] at h
      obtain ⟨rfl, rfl⟩ := Prod.mk.inj h
      rcases sendTargetedFrame_spec (.inl rfl) hx with ⟨hk, hn⟩ | ⟨r, f, rfl, hs⟩
      · exact .inl ⟨hk, postNone_eq_none hn⟩
      · exact .inr ⟨_, f, r.sent, hs, rfl⟩
  | nowPlaying g target =>
      obtain ⟨u, x, hx⟩ : ∃ u x, s.sendNowPlayingFrame g target ⟨[], outcome⟩ = (u, x) :=
        ⟨_, _, rfl⟩
      simp only [stdinSend, hx] at h
      obtain ⟨rfl, rfl⟩ := Prod.mk.inj h
      rcases sendTargetedFrame_spec (.inr rfl) hx with ⟨hk, hn⟩ | ⟨r, f, rfl, hs⟩
      · exact .inl ⟨hk, postNone_eq_none hn⟩
      · exact .inr ⟨_, f, r.sent, hs, rfl⟩
  | applicationFrame v =>
      obtain ⟨u, x, hx⟩ : ∃ u x, s.sendApplication {} v ⟨[], outcome⟩ = (u, x) := ⟨_, _, rfl⟩
      simp only [stdinSend, hx] at h
      obtain ⟨rfl, rfl⟩ := Prod.mk.inj h
      rcases sendApplicationLocked_spec hx with ⟨hk, -, hn⟩ | ⟨r, g, rfl, -, hs⟩
      · refine .inl ⟨hk, ?_⟩
        split
        · next r => exact absurd rfl (hn r)
        · rfl
      · exact .inr ⟨_, _, r, hs, rfl⟩

end Gate

/-! ### The invariant -/

@[simp] theorem newestPost_outstanding {s : HostState} {post : Option Viewport}
    (h : s.outstanding = some post) : s.newestPost = some post := by
  simp [HostState.newestPost, h]

@[simp] theorem newestPost_channel {s : HostState} (h : s.outstanding = none) :
    s.newestPost = s.channel.getLast? := by
  simp [HostState.newestPost, h]

@[simp] theorem drained_token (session : Session) (channel : List (Option Viewport)) :
    (session.drained channel).token = session.token := by
  simp only [Session.drained]
  split <;> rfl

@[simp] theorem drained_pixelFormats (session : Session) (channel : List (Option Viewport)) :
    (session.drained channel).pixelFormats = session.pixelFormats := by
  simp only [Session.drained]
  split <;> rfl

@[simp] theorem drained_reportedViewport (session : Session) (channel : List (Option Viewport)) :
    (session.drained channel).reportedViewport = session.reportedViewport := by
  simp only [Session.drained]
  split <;> rfl

/-- A pointer is handled under the settled viewport if the stdin thread owes nothing. -/
theorem drained_viewport {s : HostState} (h : s.outstanding = none) (session : Session) :
    (session.drained s.channel).input.viewport = settled s session := by
  simp only [Session.drained, settled]
  rw [newestPost_channel h]
  cases s.channel.getLast? <;> rfl

/-- The application of a Hello is that of its viewport. -/
theorem helloSource_viewport {s : FrameSender} {v w : Viewport} {formats : V2PixelFormats}
    (h : (helloSource s v formats).applicationViewport = some w) : w = v := by
  simp only [helloSource] at h
  cases hr : s.retainedFrame v formats with
  | none =>
      rw [hr] at h
      exact (Option.some.inj h).symm
  | some source =>
      rw [hr] at h
      obtain ⟨-, hd⟩ := Option.filter_eq_some_iff.mp hr
      cases source with
      | application u =>
          obtain rfl := Option.some.inj h
          exact (of_decide_eq_true hd).1
      | diagnostic _ | jpeg _ | nowPlaying _ => cases h

section Invariant

variable [Platform]

/-- While messages are read, the settled viewport is the shown one. -/
structure HostInv (s : HostState) : Prop where
  sender : SenderInv s.sender
  attached : Attached s.sender s.phase.connection?
  reading : ∀ session, s.phase = .reading session → settled s session = shown s.sender session

/-- It holds before anything has happened. -/
theorem HostInv.init : HostInv {} where
  sender := .init
  attached := ⟨by simp, by simp⟩
  reading _ h := by cases h

theorem HostInv.attachedTo {s : HostState} (h : HostInv s) {phase : Phase}
    (hp : s.phase = phase) : Attached s.sender phase.connection? :=
  hp ▸ h.attached

/-- An operation on the connection keeps it. -/
theorem SenderInv.connection {s : FrameSender} (h : SenderInv s) (e : ConnectionEvent) :
    SenderInv { s with current := e.apply s.current } := by
  have hk : Keeps s ⟨[e], .accepted⟩ { s with current := e.apply s.current } :=
    .of_current (Quiet.refl.event e) (.inr rfl)
  exact h.keeps hk

theorem SenderInv.token_lt {s : FrameSender} (h : SenderInv s) {d : Delivery} (hd : d ∈ s.sent) :
    d.token < s.current.issued := by
  have hm : (⟨d.token, d.bytes, true⟩ : Write) ∈ wholeWrites s.current.wire := by
    rw [h.whole]
    exact List.mem_map.mpr ⟨d, hd, rfl⟩
  exact h.wired.wire_lt _ (List.mem_filter.mp hm).1

/-- What is shown of a frame just sent, against the viewport the input is set to. -/
theorem shown_sends {s t : FrameSender} {session : Session} {source : AuthoritativeFrame}
    {outcome : WriteOutcome} {f : Frame} {r : SentFrame}
    (ha : Attached s (some (session.token, session.pixelFormats)))
    (hs : Sends s ⟨[], outcome⟩ source f r t) :
    shown t session = resolve session.reportedViewport source.applicationViewport := by
  rw [resolve_eq hs.sendable.renderable, shown, ha.shownOn_sends hs]

/-- **One frame of the stdin thread.** -/
theorem HostInv.stdinSend {s : HostState} {command : StdinCommand} {outcome : WriteOutcome}
    {sender : FrameSender} {post : Option (Option Viewport)} (h : HostInv s)
    (ho : s.outstanding = none) (hx : Host.stdinSend s.sender command outcome = (sender, post)) :
    HostInv { s with sender, outstanding := post } := by
  rcases stdinSend_spec hx with ⟨hk, rfl⟩ | ⟨source, f, r, hs, rfl⟩
  · refine ⟨h.sender.keeps hk, h.attached.keeps hk, fun session hp => ?_⟩
    rw [shown_congr hk.sent_eq, ← h.reading session hp]
    simp [settled, HostState.newestPost, ho]
  · refine ⟨h.sender.sends hs, h.attached.sends hs, fun session hp => ?_⟩
    have ha := h.attachedTo (show s.phase = .reading session from hp)
    rw [shown_sends ha hs, settled, newestPost_outstanding rfl]

/-- **One frame of the connection thread**, with the posts owed in agreement. -/
theorem HostInv.replaced {s : HostState} {session session' : Session} {t : FrameSender}
    {source : AuthoritativeFrame} {outcome : WriteOutcome} (h : HostInv s)
    (hp : s.phase.session? = some session) (hok : Agrees s session source outcome)
    (hr : (∃ f r, Sends s.sender ⟨[], outcome⟩ source f r t ∧
        session' = { session with
          renderedViewport := source.applicationViewport
          input := session.input.setViewport source.applicationViewport }) ∨
      (¬ Sendable s.sender source outcome ∧ Keeps s.sender ⟨[], outcome⟩ t ∧
        session' = { session with
          renderedViewport := none, input := session.input.setViewport none }))
    (happ : ∀ v, source.applicationViewport = some v → v = session.reportedViewport) :
    HostInv { s with sender := t, phase := .reading session' } := by
  have ha : Attached s.sender (some (session.token, session.pixelFormats)) := by
    have := h.attached
    rwa [Phase.connection?, hp] at this
  have hnewest : ∀ phase, HostState.newestPost { s with sender := t, phase } = s.newestPost :=
    fun _ => rfl
  simp only [Agrees] at hok
  rcases hr with ⟨f, r, hs, rfl⟩ | ⟨hns, hk, rfl⟩
  · refine ⟨h.sender.sends hs, ha.sends hs, ?_⟩
    rintro _ ⟨⟩
    have hshown : shown t session =
        source.applicationViewport.filter fun v => v = session.reportedViewport := by
      rw [shown, ha.shownOn_sends hs]
    -- the frame is for the reported viewport, if it is an application
    have hkeep : source.applicationViewport.filter (fun v => v = session.reportedViewport) =
        source.applicationViewport := by
      cases hv : source.applicationViewport with
      | none => rfl
      | some v => exact Option.filter_some_pos (decide_eq_true (happ v hv))
    show _ = shown t session
    rw [settled, hnewest]
    split at hok
    · -- a post is owed, and says what the frame shows
      rw [hshown, ← hok.1 hs.sendable]
    · rw [hshown, ← resolve_eq hs.sendable.renderable, resolve, matchingApplicationViewport,
        hkeep]
      rfl
  · refine ⟨h.sender.keeps hk, ha.keeps hk, ?_⟩
    rintro _ ⟨⟩
    show _ = shown t session
    rw [settled, hnewest, shown_congr hk.sent_eq]
    split at hok
    · rw [← hok.2 hns]
    · rw [hok.resolve_left hns]
      rfl

/-- A pointer, handled once the channel is drained. -/
theorem HostInv.pointer {s : HostState} {session : Session} (h : HostInv s)
    (hp : s.phase = .reading session) (p : V2Pointer) :
    HostInv
      { s with
        channel := []
        phase := .reading
          { session.drained s.channel with
            input := ((session.drained s.channel).input.handlePointer {} p).1 } } := by
  have ha := h.attachedTo hp
  refine ⟨h.sender, by simpa [Phase.connection?, Phase.session?] using ha, ?_⟩
  rintro _ ⟨⟩
  have hshown : settled s session = shown s.sender session := h.reading session hp
  simp only [shown, drained_token, drained_reportedViewport] at hshown ⊢
  rw [← hshown]
  cases ho : s.outstanding with
  | none =>
      rw [settled, newestPost_channel rfl, ← drained_viewport ho]
      exact ApplicationInput.handlePointer_viewport
  | some post =>
      -- the post owed settles the viewport, drained or not
      rw [settled, settled, newestPost_outstanding rfl, newestPost_outstanding ho]

/-- **One step of the host.** -/
theorem HostInv.step {s t : HostState} {e : HostEvent} (h : HostInv s) (hok : GateOk s e)
    (k : Fn hostStep s e t) : HostInv t := by
  cases hostStep_move k with
  | stdinSend ho hx => exact h.stdinSend ho hx
  | stdinPost ho =>
      refine ⟨h.sender, h.attached, fun session hp => ?_⟩
      rw [← h.reading session hp]
      simp [settled, HostState.newestPost, ho]
  | accept hp =>
      have ha := h.attachedTo hp
      exact ⟨h.sender, ha, by simp⟩
  | reject hp =>
      have ha := h.attachedTo hp
      exact ⟨h.sender, ha, by simp⟩
  | @install formats v hp =>
      refine ⟨h.sender.connection (.install formats (some v)), ⟨?_, ?_⟩, by simp⟩
      · rintro a ⟨⟩
        rfl
      · -- no frame has been sent to a new token
        rintro c ⟨⟩ d hd ht
        exact absurd (h.sender.token_lt hd) (by rw [ht]; exact lt_irrefl _)
  | @helloFrame outcome session session' sender hp hx =>
      refine h.replaced (by rw [hp]; rfl) (hok session hp) ?_ ?_
      · rcases replaceHelloFrame_cases h.sender hx with ⟨_, f, r, rfl, hs, hs'⟩ | hk
        · exact .inl ⟨f, r, hs, hs'⟩
        · exact .inr hk
      · exact fun v hv => helloSource_viewport hv
  | pointer hp => exact h.pointer hp _
  | viewportChanged hp =>
      have ha := h.attachedTo hp
      exact ⟨h.sender, ha, by simp⟩
  | updateViewport hp =>
      exact ⟨h.sender.connection (.updateViewport _ _), (h.attachedTo hp).updateViewport _ _,
        by simp⟩
  | @replaceFrame outcome session session' sender hp hx =>
      refine h.replaced (by rw [hp]; rfl) (hok session hp) (replaceApplicationFrame_cases hx) ?_
      rintro v ⟨⟩
      rfl
  | disconnect hp =>
      exact ⟨h.sender.connection (.clear _), (h.attachedTo hp).clear, by simp⟩

/-- It holds in every run that meets the condition. -/
theorem hostInv {es : List HostEvent} {s : HostState}
    (h : Run (restrict (Fn hostStep) GateOk) {} es s) : HostInv s :=
  h.invariant (fun hi k => hi.step k.1 k.2) .init

/-- **Taps are resolved against what is shown.**  In every run in which the frames of the
connection thread agree with the posts owed, and whenever the stdin thread owes none, a pointer is
handled under a viewport exactly when the last frame fully written to its connection is the
application of that viewport and the viewport is the one last reported. -/
theorem input_gating {es : List HostEvent} {s : HostState} {session : Session}
    (h : Run (restrict (Fn hostStep) GateOk) {} es s) (hp : s.phase = .reading session)
    (ho : s.outstanding = none) (v : Viewport) :
    (session.drained s.channel).input.viewport = some v ↔
      shownOn s.sender session.token = some v ∧ v = session.reportedViewport := by
  rw [drained_viewport ho, (hostInv h).reading session hp, shown, Option.filter_eq_some_iff,
    decide_eq_true_eq]

end Invariant

/-- A device of one pixel gets the application. -/
def gatedRun : List HostEvent := [.accept, .install .MONO1 (1, 1), .helloFrame .accepted]

/-- A diagnostic frame is sent and its post drained; then the device gets the application of the
new viewport it reports. -/
def replacedRun : List HostEvent :=
  gatedRun ++ [.stdinSend (.frame ⟨.white, 1, 1, by decide⟩) .accepted, .stdinPost,
    .viewportChanged (2, 1), .updateViewport, .replaceFrame .accepted]

/-- Frame ids are left, and the connection takes the format of an application. -/
theorem sendable_application {s : FrameSender} {v : Viewport} (hid : s.state.nextFrameId < 4)
    (hsup : s.current.inner.any (fun a => a.pixelFormats.supports .mono1) = true)
    (hv : Renderable v) : Sendable s (.application v) .accepted := by
  refine ⟨?_, hsup, ?_, rfl⟩
  · have : s.state.nextFrameId.toNat < 4 := hid
    omega
  · rintro _ ⟨⟩
    exact hv

/-- No post is owed, and the frame goes out. -/
theorem Agrees.of_sendable {s : HostState} {session : Session} {source : AuthoritativeFrame}
    {outcome : WriteOutcome} (hn : s.newestPost = none)
    (h : Sendable s.sender source outcome) : Agrees s session source outcome := by
  rw [Agrees, hn]
  exact .inl h

theorem input_gating_replaced :
    ∃ s session, Run (restrict (Fn (@hostStep .usize64)) GateOk) {} replacedRun s ∧
      s.phase = .reading session ∧
      (session.drained s.channel).input.viewport = some (2, 1) := by
  obtain ⟨s, session, h, hp, ho, hs⟩ : ∃ s session,
      Run (restrict (Fn (@hostStep .usize64)) GateOk) {} replacedRun s ∧
        s.phase = .reading session ∧ s.outstanding = none ∧
        shownOn s.sender session.token = some (2, 1) ∧ (2, 1) = session.reportedViewport := by
    refine ⟨_, _, .cons ⟨trivial, rfl⟩ (.cons ⟨trivial, rfl⟩ (.cons ⟨?_, rfl⟩
      (.cons ⟨trivial, rfl⟩ (.cons ⟨trivial, rfl⟩ (.cons ⟨trivial, rfl⟩ (.cons ⟨trivial, rfl⟩
        (.one ⟨?_, rfl⟩))))))), rfl, rfl, rfl, rfl⟩
    · rintro _ ⟨⟩
      exact .of_sendable rfl (sendable_application (by decide) rfl (by decide))
    · rintro _ ⟨⟩
      exact .of_sendable rfl (sendable_application (by decide) rfl (by decide))
  exact ⟨s, session, h, hp, (@input_gating .usize64 _ _ _ h hp ho (2, 1)).mpr hs⟩

/-- Between a diagnostic frame and its post the device reports a new viewport and gets the
application; the post comes last. -/
def staleRun : List HostEvent :=
  gatedRun ++ [.stdinSend (.frame ⟨.white, 1, 1, by decide⟩) .accepted, .viewportChanged (2, 1),
    .updateViewport, .replaceFrame .accepted, .stdinPost]

/-- **Dead buttons.**  The application of the reported viewport is shown, and no tap counts. -/
theorem input_gating_stale :
    ¬ ∀ (es : List HostEvent) (s : HostState) (session : Session),
      Run (Fn (@hostStep .usize64)) {} es s → s.phase = .reading session → s.outstanding = none →
      ∀ v, (session.drained s.channel).input.viewport = some v ↔
        shownOn s.sender session.token = some v ∧ v = session.reportedViewport := by
  intro hall
  obtain ⟨s, hs⟩ : ∃ s, exec (@hostStep .usize64) {} staleRun = some s := ⟨_, rfl⟩
  obtain ⟨session, hp, ho, hshown, hdead⟩ : ∃ session, s.phase = .reading session ∧
      s.outstanding = none ∧
      (shownOn s.sender session.token = some (2, 1) ∧ (2, 1) = session.reportedViewport) ∧
      (session.drained s.channel).input.viewport = none := by
    obtain rfl := Option.some.inj hs
    exact ⟨_, rfl, rfl, ⟨rfl, rfl⟩, rfl⟩
  have hlive := (hall _ s session (run_of_exec hs) hp ho (2, 1)).mpr hshown
  rw [hdead] at hlive
  cases hlive

end PaperPad.Host
