import PaperPad.System.Panel

/-!
# System — Touch

A touch is a point of the device's viewport; the host reads it against the viewport it takes for
the device's.  `touch_agreement`: in every run whose connections are installed with the viewport of
their Hello, or with its change on the way, these are the same viewport, wherever the threads of
the two sides are, so a button the host activates is the button that has that point on the device.
-/

namespace PaperPad.System

open Protocol Transition StreamReader
open Device (EventLoop LoopEvent Transport TransportEvent MainPc Record AgreementInv InstallOk
  loopStep transportStep transportStep_move onToken announced announce)
open Host (HostState HostEvent Phase SenderInv SessionMessage hostStep readSession)

/-! ### Before and after the first connection -/

/-- There has been no connection. -/
structure Offline (t : Transport) : Prop where
  absent : t.reconnector = .absent
  inactive : t.connection.active = none
  wire : t.wire = []
  queue : t.queue = []
  writer : t.writer = .idle
  reader : t.reader = .ended
  sockets : t.sockets = 0
  token : t.main.token? = none
  viewport : ∀ v, t.main.viewport? = some v → t.remoteViewport = v

/-- No connection yet, or the agreement of viewports. -/
def Announces (t : Transport) : Prop := Offline t ∨ AgreementInv t

section Announces

variable {t u : Transport}

theorem Offline.start (v : Device.Viewport) (formats : V2PixelFormats) :
    Offline (.start v formats) :=
  ⟨rfl, rfl, rfl, rfl, rfl, rfl, rfl, rfl, by rintro v ⟨⟩⟩

theorem Offline.promoted (h : Offline t) : AgreementInv t.fromStream := by
  have hpending : t.pending = [] := by
    simp [Transport.pending, h.writer, h.queue, Device.WriterPc.outbound?]
  have hwire : t.fromStream.wire = [Device.writeAll 0
      (Device.helloMessage t.remoteViewport t.pixelFormats) t.remoteViewport .written] := by
    rw [Transport.fromStream, h.wire, h.sockets]
    rfl
  have hsockets : t.fromStream.sockets = 1 := congrArg (· + 1) h.sockets
  have hactive : t.fromStream.connection.active = some 0 := congrArg some h.sockets
  have hstream : t.fromStream.stream 0 = t.fromStream.wire := by
    have hp : t.fromStream.pending = [] := hpending
    rw [Transport.stream, hp, hwire]
    rfl
  refine
    { started := by rintro ⟨⟩
      main_viewport := h.viewport
      main_lt := fun k hk => absurd (h.token.symm.trans hk) (by simp)
      active_lt := fun k hk => ?_
      failed_lt := fun k hk => absurd (h.writer.symm.trans hk) (by simp)
      wire_lt := fun r hr => ?_
      pending_lt := fun r hr => ?_
      offline := by rintro ⟨⟩
      socket := by rintro k ⟨⟩
      unwritten := by rintro k ⟨⟩
      greeted := by rintro k v ⟨⟩
      live := fun k hk _ _ => ?_
      writing := fun o ho => absurd (h.writer.symm.trans ho) (by simp)
      wire := fun k => ?_ }
  · rw [hactive] at hk
    obtain rfl := Option.some.inj hk
    rw [hsockets]
    exact Nat.zero_lt_one
  · rw [hwire] at hr
    rw [List.mem_singleton.mp hr, hsockets]
    exact Nat.zero_lt_one
  · have hr : r ∈ t.pending := hr
    rw [hpending] at hr
    cases hr
  · rw [hactive] at hk
    obtain rfl := Option.some.inj hk
    refine ⟨?_, fun _ => ?_⟩
    · rw [hstream, hwire]
      exact ⟨by rintro p ⟨⟩, trivial⟩
    · rw [hstream, hwire]
      rfl
  · by_cases hk : k = 0
    · subst hk
      rw [hwire]
      exact ⟨by rintro p ⟨⟩, trivial⟩
    · have hnone : onToken k t.fromStream.wire = [] := by
        refine Device.onToken_eq_nil fun r hr he => hk ?_
        rw [hwire] at hr
        rw [List.mem_singleton.mp hr] at he
        exact he.symm
      rw [hnone]
      trivial

theorem Offline.step (h : Offline t) {e : TransportEvent} (k : transportStep t e = some u) :
    Announces u := by
  cases transportStep_move k with
  | main m =>
      cases m with
      | promote => exact .inr h.promoted
      | storeViewport =>
          refine .inl { h with token := rfl, viewport := ?_ }
          rintro v ⟨⟩
          rfl
      | @setMailbox v previous hm =>
          have hv : t.remoteViewport = v := h.viewport v (by rw [hm]; rfl)
          refine .inl { h with token := ?_, viewport := fun w hw => ?_ }
          · dsimp only
            split <;> rfl
          · dsimp only at hw
            split at hw
            · cases hw
            · obtain rfl := Option.some.inj hw
              exact hv
      | viewportFound _ hc | pointerFound _ hc =>
          rw [Device.ConnectionState.currentToken_eq_ok, h.inactive] at hc
          cases hc
      | pollFrame => exact .inl { h with }
      | viewportOffline | dropStop | dropWake =>
          exact .inl { h with token := rfl, viewport := by rintro v ⟨⟩ }
      | viewportQueued hm | viewportRefused hm | pointerQueued hm | pointerRefused hm =>
          have ht := h.token
          rw [hm] at ht
          cases ht
      | closeAfterFull | dropDisconnect =>
          refine .inl { h with inactive := ?_, token := rfl, viewport := by rintro v ⟨⟩ }
          simp
      | pointerOffline => exact .inl h
  | writer m =>
      cases m with
      | stop _ hq | dequeue _ hq => rw [h.queue] at hq; cases hq
      | cloneStream hw | stale hw | cloneFailed hw | write hw | fail hw | closeAfterFailure hw =>
          rw [h.writer] at hw
          cases hw
  | reader m =>
      cases m with
      | _ hr => rw [h.reader] at hr; cases hr
  | reconnector m =>
      cases m with
      | _ hr => rw [h.absent] at hr; cases hr

theorem Announces.step (h : Announces t) {e : TransportEvent}
    (hok : InstallOk t e ∧ Device.Duplicates e) (k : transportStep t e = some u) : Announces u :=
  h.elim (fun h => h.step k) fun h => .inr (h.step hok k)

/-- The main thread meets both conditions. -/
theorem Announces.main (h : Announces t) {e : Device.MainEvent}
    (k : Device.mainStep t e = some u) : Announces u :=
  h.step (e := .main e) ⟨by rintro ⟨⟩, by rintro ⟨⟩⟩ k

/-- The messages of a socket are coherent. -/
theorem Announces.coherent (h : Announces t) (k : Nat) : Device.Coherent none (onToken k t.wire) := by
  rcases h with h | h
  · rw [h.wire]
    trivial
  · exact h.wire k

end Announces

/-! ### What the host reads of a socket -/

/-- What a socket was given whole. -/
def written (socket : Nat) (t : Transport) : List Record :=
  (onToken socket t.wire).filter (·.whole)

theorem written_grows {t u : Transport} {es : List TransportEvent}
    (h : Run (Fn transportStep) t es u) (socket : Nat) : written socket t <+: written socket u := by
  obtain ⟨l, hl⟩ := Device.run_wire h
  rw [written, written, hl, Device.onToken_append, List.filter_append]
  exact List.prefix_append ..

/-- Only the last message of a socket may be cut short. -/
theorem given_written {g : Nat} {messages : List Device.QueuedOutbound} {l : List Record}
    (h : Device.Given g messages l) : l.filter (·.whole) <+: l := by
  have hrecords : ∀ sent : List Device.QueuedOutbound,
      (sent.map Device.QueuedOutbound.record).filter (·.whole) =
        sent.map Device.QueuedOutbound.record := by
    intro sent
    refine List.filter_eq_self.mpr fun r hr => ?_
    obtain ⟨o, -, rfl⟩ := List.mem_map.mp hr
    rfl
  rcases h with rfl | ⟨hello, v, n, rfl⟩ | ⟨sent, rest, whole, tail, -, ⟨hello, v, rfl⟩, rfl, htail⟩
  · exact List.nil_prefix
  · exact List.nil_prefix
  · have htorn : tail.filter (·.whole) = [] := by
      rcases htail with rfl | ⟨o, rest', n, -, rfl⟩ <;> rfl
    have hwhole : (Device.writeAll g (.hello hello) v .written ::
        sent.map Device.QueuedOutbound.record).filter (·.whole) =
          Device.writeAll g (.hello hello) v .written ::
            sent.map Device.QueuedOutbound.record :=
      (List.filter_cons_of_pos rfl).trans (congrArg _ (hrecords sent))
    rw [List.filter_append, htorn, List.append_nil, hwhole]
    exact List.prefix_append ..

section Reads

variable [Platform] {v : Device.Viewport} {formats : V2PixelFormats} {es : List TransportEvent}
  {t : Transport} {socket n : Nat}

/-- The Hello the host reads, and the messages behind it, are those written whole, in order. -/
theorem session_read (h : Run (Fn transportStep) (.start v formats) es t) :
    (∀ hello, (readSession ⟨(Device.bytesOn socket t.wire).take n, 0⟩).value.1 = some hello →
      ∃ r, (written socket t)[0]? = some r ∧ r.message = .hello hello) ∧
    ∀ i m, (readSession ⟨(Device.bytesOn socket t.wire).take n, 0⟩).value.2[i]? = some m →
      ∃ r, (written socket t)[i + 1]? = some r ∧ r.message = SessionMessage.toMessage m := by
  obtain ⟨done, past, inv, hpast, hsub, -⟩ := Device.outboundInv h
  obtain ⟨x, hcut, -, hwhole⟩ :=
    session_cut (inv.given socket) (done_input hpast hsub socket)
  obtain ⟨x', hx', hcut'⟩ := hcut.of_prefix (List.take_prefix n _)
  have hvalue : (readSession ⟨(Device.bytesOn socket t.wire).take n, 0⟩).value = x' :=
    Host.helloReader.readThen_cut Host.sessionReader hcut'
  have hmap : ∀ i m, (wholeMessages (onToken socket t.wire))[i]? = some m →
      ∃ r : Record, (written socket t)[i]? = some r ∧ r.message = m := fun i m hm =>
    Option.map_eq_some_iff.mp (by rwa [wholeMessages, List.getElem?_map] at hm)
  rw [hvalue]
  rcases hx' with rfl | ⟨hfirst, hrest⟩
  · exact ⟨by rintro hello ⟨⟩, by rintro i m ⟨⟩⟩
  refine ⟨fun hello hh => hmap 0 _ ?_, fun i m hm => hmap (i + 1) _ ?_⟩
  · rw [hwhole, sessionMessages, ← hfirst, hh]
    rfl
  · obtain ⟨more, hmore⟩ := hrest
    obtain ⟨hi, -⟩ := List.getElem?_eq_some_iff.mp hm
    have hm : x.2[i]? = some m := by rw [← hmore, List.getElem?_append_left hi, hm]
    cases hx : x.1 with
    | none => rw [hcut.rest_nil hx] at hm; cases hm
    | some hello =>
        rw [hwhole, sessionMessages, hx]
        simpa using ⟨m, hm, rfl⟩

/-- All that was written to a socket is read. -/
theorem session_all (h : Run (Fn transportStep) (.start v formats) es t) (socket : Nat) :
    ∃ x, (readSession ⟨Device.bytesOn socket t.wire, 0⟩).value = x ∧
      wholeMessages (onToken socket t.wire) = sessionMessages x := by
  obtain ⟨done, past, inv, hpast, hsub, -⟩ := Device.outboundInv h
  obtain ⟨x, hcut, -, hwhole⟩ :=
    session_cut (inv.given socket) (done_input hpast hsub socket)
  exact ⟨x, Host.helloReader.readThen_cut Host.sessionReader hcut, hwhole⟩

end Reads

/-- The pointers read are the messages behind the Hello. -/
theorem nth_pointer {x : Option V2Hello × List SessionMessage} {hello : V2Hello} {p : V2Pointer}
    {l : List Message} {k : Nat} (h : sessionMessages x = .hello hello :: l)
    (hk : l[k]? = some (.pointer p)) : x.2[k]? = some (.pointer p) := by
  obtain ⟨hello?, ms⟩ := x
  cases hello? with
  | none =>
      obtain ⟨m, ms', -, hm, -⟩ := List.map_eq_cons_iff.mp h
      cases m <;> cases hm
  | some hello' =>
      obtain rfl : ms.map SessionMessage.toMessage = l := (List.cons.inj h).2
      rw [List.getElem?_map] at hk
      obtain ⟨m, hm, hp⟩ := Option.map_eq_some_iff.mp hk
      cases m with
      | pointer q => cases hp; exact hm
      | viewportChanged w => cases hp

/-! ### The viewport of a session -/

/-- A host that reads resolves taps against the viewport last reported to it, or not at all. -/
def Resolves (phase : Phase) : Prop :=
  ∀ session, phase = .reading session → ∀ v, session.input.viewport = some v →
    v = session.reportedViewport

theorem setViewport_eq_some (i : Host.ApplicationInput) {w : Option Host.Viewport}
    {v : Host.Viewport} (h : (i.setViewport w).viewport = some v) : w = some v :=
  (Option.filter_eq_some_iff.mp h).1

theorem drained_resolves {session : Host.Session} (h : Resolves (.reading session))
    (channel : List (Option Host.Viewport)) {v : Host.Viewport}
    (hv : (session.drained channel).input.viewport = some v) : v = session.reportedViewport := by
  simp only [Host.Session.drained] at hv
  split at hv
  · exact h session rfl v hv
  · exact of_decide_eq_true (Option.filter_eq_some_iff.mp (setViewport_eq_some session.input hv)).2

section Session

variable [Platform] {s t : HostState} {e : HostEvent}

/-- A step that takes nothing from a connection keeps its token and the viewport reported on it. -/
theorem hostStep_session (hi : SenderInv s.sender) (he : TakesInput e = false)
    (k : hostStep s e = some t) :
    (t.phase = .accepted → s.phase = .accepted) ∧
      (∀ session, t.phase.session? = some session → ∃ session', s.phase.session? = some session' ∧
        session.token = session'.token ∧
        session.reportedViewport = session'.reportedViewport) ∧
      (Resolves s.phase → Resolves t.phase) := by
  cases Host.hostStep_move k with
  | stdinSend | stdinPost => exact ⟨id, fun session hs => ⟨session, hs, rfl, rfl⟩, id⟩
  | accept | install | pointer | viewportChanged => cases he
  | reject | disconnect =>
      exact ⟨by rintro ⟨⟩, by rintro session ⟨⟩, by rintro - session ⟨⟩⟩
  | @helloFrame outcome session session' sender hp hx =>
      have hs : s.phase.session? = some session := by rw [hp]; rfl
      rcases Host.replaceHelloFrame_cases hi hx with ⟨source, f, r, rfl, -, rfl⟩ | ⟨-, -, rfl⟩
      · refine ⟨by rintro ⟨⟩, ?_, ?_⟩
        · rintro _ ⟨⟩
          exact ⟨session, hs, rfl, rfl⟩
        · rintro - _ ⟨⟩ v hv
          exact Host.helloSource_viewport (setViewport_eq_some session.input hv)
      · refine ⟨by rintro ⟨⟩, ?_, ?_⟩
        · rintro _ ⟨⟩
          exact ⟨session, hs, rfl, rfl⟩
        · rintro - _ ⟨⟩ v hv
          cases hv
  | @updateViewport session hp =>
      refine ⟨by rintro ⟨⟩, ?_, by rintro - session ⟨⟩⟩
      rintro _ ⟨⟩
      exact ⟨session, by rw [hp]; rfl, rfl, rfl⟩
  | @replaceFrame outcome session session' sender hp hx =>
      have hs : s.phase.session? = some session := by rw [hp]; rfl
      rcases Host.replaceApplicationFrame_cases hx with ⟨f, r, -, rfl⟩ | ⟨-, -, rfl⟩
      · refine ⟨by rintro ⟨⟩, ?_, ?_⟩
        · rintro _ ⟨⟩
          exact ⟨session, hs, rfl, rfl⟩
        · rintro - _ ⟨⟩ v hv
          exact (Option.some.inj (setViewport_eq_some session.input hv)).symm
      · refine ⟨by rintro ⟨⟩, ?_, ?_⟩
        · rintro _ ⟨⟩
          exact ⟨session, hs, rfl, rfl⟩
        · rintro - _ ⟨⟩ v hv
          cases hv

end Session

/-! ### The invariant -/

theorem take_of_grows {α : Type} {l m : List α} (h : l <+: m) {n : Nat} (hn : n < l.length) :
    m.take (n + 1) = l.take (n + 1) := by
  obtain ⟨r, rfl⟩ := h
  exact List.take_append_of_le_length hn

/-- A record that was written whole announces its message. -/
theorem announced_written {socket i : Nat} {t : Transport} {r : Record}
    (hr : (written socket t)[i]? = some r) : r.whole = true ∧
      announced ((written socket t).take (i + 1)) =
        announce (announced ((written socket t).take i)) r := by
  refine ⟨(List.mem_filter.mp (List.mem_of_getElem? hr)).2, ?_⟩
  rw [List.take_add_one, hr]
  exact Device.announced_concat _ _

theorem foldl_announce_whole (l : List Record) (v : Option Device.Viewport) :
    (l.filter (·.whole)).foldl announce v = l.foldl announce v := by
  induction l generalizing v with
  | nil => rfl
  | cons r l ih =>
      cases hr : r.whole with
      | true => rw [List.filter_cons_of_pos hr, List.foldl_cons, List.foldl_cons, ih]
      | false =>
          have hkeep : announce v r = v := by simp [announce, hr]
          rw [List.filter_cons_of_neg (by simp [hr]), List.foldl_cons, ih, hkeep]

theorem applicationViewport_eq_some {source : Option Host.AuthoritativeFrame}
    {v : Host.Viewport} : source.bind Host.AuthoritativeFrame.applicationViewport = some v ↔
      source = some (.application v) := by
  rcases source with _ | (_ | _ | _ | _) <;> simp [Host.AuthoritativeFrame.applicationViewport]

theorem getLast_forall₂ {α γ : Type} {R : α → γ → Prop} {l : List α} {m : List γ}
    (h : List.Forall₂ R l m) {a : α} (ha : l.getLast? = some a) :
    ∃ b, m.getLast? = some b ∧ R a b := by
  have hlen := h.length_eq
  rw [List.getLast?_eq_getElem?] at ha ⊢
  obtain ⟨hi, rfl⟩ := List.getElem?_eq_some_iff.mp ha
  rw [← hlen]
  exact ⟨_, List.getElem?_eq_getElem (by omega), h.get hi (by omega)⟩

section Link

variable {β : Type} [Platform] {s t : Link β}

/-- The condition on a step: a connection is installed with the viewport its Hello announced, or
with a change on its way; and the writer of the device can duplicate the socket it needs. -/
def LinkOk (s : Link β) : LinkEvent β → Prop
  | .device (.transport e) => InstallOk s.device.transport e ∧ Device.Duplicates e
  | _ => True

/-- The host has the viewport that the messages it has read announce. -/
structure TouchInv (s : Link β) : Prop where
  announces : Announces s.device.transport
  sender : SenderInv s.host.sender
  fresh : s.host.phase = .accepted → s.read = 0
  reported : ∀ session, s.host.phase.session? = some session → ∃ socket, s.serving = some socket ∧
    (socket, session.token) ∈ s.pairs ∧ s.read < (written socket s.device.transport).length ∧
    announced ((written socket s.device.transport).take (s.read + 1)) =
      some session.reportedViewport
  resolves : Resolves s.host.phase

theorem loopStep_announces {d u : EventLoop β} {e : LoopEvent β} (h : Announces d.transport)
    (hok : ∀ e', e = .transport e' → InstallOk d.transport e' ∧ Device.Duplicates e')
    (k : loopStep d e = some u) : Announces u.transport := by
  cases Device.loopStep_move k with
  | pollNone _ _ ht => exact h.main ht
  | @poll presentation t f _ _ ht =>
      obtain ⟨frame, -, heq⟩ := EventLoop.handOver_eq { d with transport := t } presentation f
      rw [heq]
      exact h.main ht
  | ignored | resized | setDimensions | button | unmapNotify => exact h
  | sendViewportChanged _ ht => exact h.main ht
  | pointer _ _ ht => exact h.main ht
  | transport _ ht => exact h.step (hok _ rfl) ht

namespace TouchInv

theorem start (size : Device.Viewport) (adapter : Bool) (pixelFormats : V2PixelFormats) :
    TouchInv (.start size adapter pixelFormats : Link β) where
  announces := .inl (.start _ _)
  sender := .init
  fresh := by rintro ⟨⟩
  reported := by rintro session ⟨⟩
  resolves := by rintro session ⟨⟩

/-- The device goes on. -/
theorem device (h : TouchInv s) {e : LoopEvent β} {d : EventLoop β}
    (hok : ∀ e', e = .transport e' → InstallOk s.device.transport e' ∧ Device.Duplicates e')
    (k : loopStep s.device e = some d) (arrived : List Arrival) :
    TouchInv { s with device := d, arrived } := by
  obtain ⟨fs, hrun⟩ := loopStep_run k
  refine { h with
    announces := loopStep_announces h.announces hok k
    reported := fun session hs => ?_ }
  obtain ⟨socket, hserving, hpair, hread, hann⟩ := h.reported session hs
  have hgrows := written_grows hrun socket
  refine ⟨socket, hserving, hpair, Nat.lt_of_lt_of_le hread hgrows.length_le, ?_⟩
  rw [← hann]
  exact congrArg announced (take_of_grows hgrows hread)

theorem host (h : TouchInv s) {e : HostEvent} {host : HostState} (he : TakesInput e = false)
    (k : hostStep s.host e = some host) : TouchInv { s with host } := by
  obtain ⟨es, hrun⟩ := hostStep_sender k
  obtain ⟨haccepted, hsession, hresolves⟩ := hostStep_session h.sender he k
  refine { h with
    sender := hrun.invariant (fun hs hk => hs.step hk) h.sender
    fresh := fun hp => h.fresh (haccepted hp)
    reported := fun session hs => ?_
    resolves := hresolves h.resolves }
  obtain ⟨session', hs', htoken, hv⟩ := hsession session hs
  rw [hv, htoken]
  exact h.reported session' hs'

theorem accept (h : TouchInv s) {socket : Option Nat} {host : HostState}
    (k : hostStep s.host .accept = some host) (accepted : List Nat) :
    TouchInv { s with host, accepted, serving := socket, read := 0 } := by
  cases Host.hostStep_move k with
  | accept =>
      exact { h with
        fresh := fun _ => rfl, reported := by rintro session ⟨⟩, resolves := by rintro session ⟨⟩ }

/-- The host reads a Hello. -/
theorem hello (h : TouchInv s) {socket : Nat} {hello : V2Hello} {host : HostState} {r : Record}
    (hs : s.serving = some socket) (hr : (written socket s.device.transport)[0]? = some r)
    (hm : r.message = .hello hello)
    (k : hostStep s.host (.install hello.pixelFormats
      (hello.viewportWidth, hello.viewportHeight)) = some host) :
    TouchInv { s with host, pairs := s.pairs ++ [(socket, s.host.sender.current.issued)] } := by
  obtain ⟨es, hrun⟩ := hostStep_sender k
  have hsender := hrun.invariant (fun hs hk => hs.step hk) h.sender
  cases Host.hostStep_move k with
  | install hp =>
      refine { h with
        sender := hsender, fresh := by rintro ⟨⟩, reported := ?_, resolves := by rintro _ ⟨⟩ }
      rintro _ ⟨⟩
      obtain ⟨hwhole, hann⟩ := announced_written hr
      have hread := h.fresh hp
      refine ⟨socket, hs, List.mem_append_right _ (List.mem_singleton.mpr rfl), ?_, ?_⟩
      · rw [hread]
        exact (List.getElem?_eq_some_iff.mp hr).1
      · rw [hread, hann, announce, if_pos hwhole, hm]

/-- The host reads a message. -/
theorem message (h : TouchInv s) {socket : Nat} {m : SessionMessage} {host : HostState}
    {r : Record} (hs : s.serving = some socket)
    (hr : (written socket s.device.transport)[s.read + 1]? = some r)
    (hm : r.message = SessionMessage.toMessage m)
    (k : hostStep s.host (sessionEvent m) = some host) :
    TouchInv { s with host, read := s.read + 1 } := by
  obtain ⟨es, hrun⟩ := hostStep_sender k
  have hsender := hrun.invariant (fun hs hk => hs.step hk) h.sender
  obtain ⟨hwhole, hann⟩ := announced_written hr
  have hlen := (List.getElem?_eq_some_iff.mp hr).1
  cases m with
  | pointer p =>
      cases Host.hostStep_move k with
      | @pointer _ session hp =>
          have hsession : s.host.phase.session? = some session := by rw [hp]; rfl
          refine { h with
            sender := hsender, fresh := by rintro ⟨⟩, reported := ?_, resolves := ?_ }
          · rintro _ ⟨⟩
            obtain ⟨socket', hs', hpair, -, hold⟩ := h.reported session hsession
            obtain rfl := Option.some.inj (hs'.symm.trans hs)
            refine ⟨_, hs, by rw [Host.drained_token]; exact hpair, hlen, ?_⟩
            rw [hann, hold, announce, if_pos hwhole, hm]
            exact congrArg some (Host.drained_reportedViewport session _).symm
          · rintro _ ⟨⟩ v hv
            rw [Host.ApplicationInput.handlePointer_viewport] at hv
            have hresolves := h.resolves
            rw [hp] at hresolves
            rw [drained_resolves hresolves _ hv]
            exact (Host.drained_reportedViewport session _).symm
  | viewportChanged v =>
      cases Host.hostStep_move k with
      | @viewportChanged _ session hp =>
          refine { h with
            sender := hsender, fresh := by rintro ⟨⟩, reported := ?_
            resolves := by rintro _ ⟨⟩ }
          rintro _ ⟨⟩
          obtain ⟨socket', hs', hpair, -⟩ := h.reported session (by rw [hp]; rfl)
          obtain rfl := Option.some.inj (hs'.symm.trans hs)
          refine ⟨_, hs, hpair, hlen, ?_⟩
          rw [hann, announce, if_pos hwhole, hm]
          rfl

/-- **One step of the link.** -/
theorem step (h : TouchInv s) {size : Device.Viewport} {adapter : Bool}
    {pixelFormats : V2PixelFormats} {es : List (LinkEvent β)} {e : LinkEvent β}
    (hrun : Run (Fn linkStep) (.start size adapter pixelFormats) es s) (hok : LinkOk s e)
    (k : linkStep s e = some t) : TouchInv t := by
  obtain ⟨fs, htransport⟩ := link_transport hrun
  cases linkStep_move k with
  | @device e d _ hd =>
      refine h.device ?_ hd _
      rintro e' rfl
      exact hok
  | receive _ _ _ _ hd =>
      exact h.device (by rintro e' ⟨⟩; exact ⟨by rintro ⟨⟩, by rintro ⟨⟩⟩) hd _
  | host he hh => exact h.host he hh
  | accept _ hh => exact h.accept hh _
  | hello hs hr hh =>
      obtain ⟨r, hat, hm⟩ := (session_read htransport).1 _ hr
      exact h.hello hs hat hm hh
  | message hs hr hh =>
      obtain ⟨r, hat, hm⟩ := (session_read htransport).2 _ _ hr
      exact h.message hs hat hm hh

/-- The record of a pointer was queued under the viewport of the session. -/
theorem viewport_eq (h : TouchInv s) {size : Device.Viewport} {adapter : Bool}
    {pixelFormats : V2PixelFormats} {es : List (LinkEvent β)} {socket : Nat} {p : V2Pointer}
    {session : Host.Session} {r : Record}
    (hrun : Run (Fn linkStep) (.start size adapter pixelFormats) es s)
    (hs : s.serving = some socket) (hp : s.host.phase.session? = some session)
    (hr : (written socket s.device.transport)[s.read + 1]? = some r)
    (hm : r.message = .pointer p) : r.viewport = session.reportedViewport := by
  obtain ⟨fs, htransport⟩ := link_transport hrun
  obtain ⟨done, -, inv, -⟩ := Device.outboundInv htransport
  obtain ⟨socket', hs', -, -, hann⟩ := h.reported session hp
  obtain rfl := Option.some.inj (hs.symm.trans hs')
  obtain ⟨rest, hrest⟩ := given_written (inv.given socket)
  have hcoherent := h.announces.coherent socket
  rw [← hrest] at hcoherent
  -- the records read so far, and the one read now
  obtain ⟨hlt, rfl⟩ := List.getElem?_eq_some_iff.mp hr
  have hsplit := List.take_append_drop (s.read + 1) (written socket s.device.transport)
  rw [List.drop_eq_getElem_cons hlt] at hsplit
  have hwritten := (Device.coherent_append.mp hcoherent).1
  have hcoh : Device.Coherent none (written socket s.device.transport) := hwritten
  rw [← hsplit] at hcoh
  have hviewport := (Device.coherent_append.mp hcoh).2.1 p hm
  exact Option.some.inj (hviewport.symm.trans hann)

end TouchInv

theorem touchInv {size : Device.Viewport} {adapter : Bool} {pixelFormats : V2PixelFormats}
    {es : List (LinkEvent β)}
    (h : Run (restrict (Fn linkStep) LinkOk) (.start size adapter pixelFormats) es s) :
    Run (Fn linkStep) (.start size adapter pixelFormats) es s ∧ TouchInv s := by
  refine h.history (I := fun es s => Run (Fn linkStep) (.start size adapter pixelFormats) es s ∧
    TouchInv s) ⟨.refl _, .start ..⟩ ?_
  rintro es s e t - ⟨hrun, hi⟩ ⟨hok, k⟩
  exact ⟨.snoc hrun k, hi.step hrun hok k⟩

/-- **A touch means the same on both sides.**  In every run in which each connection is installed
with the viewport of its Hello still the device's, or with a change of it on its way, and the
writer of the device can duplicate its sockets: whenever the host handles a pointer, the message is
the next one written whole to its socket, it was queued under the viewport the host has for the
session, and a button it activates is the button at that point in the layout of that viewport. -/
theorem touch_agreement {size : Device.Viewport} {adapter : Bool} {pixelFormats : V2PixelFormats}
    {es : List (LinkEvent β)}
    (h : Run (restrict (Fn linkStep) LinkOk) (.start size adapter pixelFormats) es s)
    {socket n : Nat} {p : V2Pointer} (hs : s.serving = some socket)
    (hp : (readSession (s.input socket n)).value.2[s.read]? = some (.pointer p))
    (k : linkStep s (.message n) = some t) :
    ∃ r session, (written socket s.device.transport)[s.read + 1]? = some r ∧
      r.message = .pointer p ∧ s.host.phase = .reading session ∧
      r.viewport = session.reportedViewport ∧
      ∀ a, ((session.drained s.host.channel).input.handlePointer {} p).2 = some a →
        Host.InButton r.viewport a.buttonId p.x p.y := by
  obtain ⟨hrun, hi⟩ := touchInv h
  obtain ⟨fs, htransport⟩ := link_transport hrun
  obtain ⟨r, hr, hm⟩ := (session_read htransport).2 _ _ hp
  obtain ⟨session, hphase⟩ : ∃ session, s.host.phase = .reading session := by
    cases linkStep_move k with
    | @message _ socket' m host hs' hr' hh =>
        obtain rfl := Option.some.inj (hs.symm.trans hs')
        obtain rfl := Option.some.inj (hp.symm.trans hr')
        cases Host.hostStep_move hh with
        | pointer hp => exact ⟨_, hp⟩
  have hviewport := hi.viewport_eq hrun hs (by rw [hphase]; rfl) hr hm
  refine ⟨r, session, hr, hm, hphase, hviewport, fun a ha => ?_⟩
  cases hup : p.phase with
  | down =>
      rw [(Host.ApplicationInput.handlePointer_down hup).1] at ha
      cases ha
  | up =>
      obtain ⟨v, hv, -, hin⟩ := (Host.ApplicationInput.handlePointer_up hup).2 a ha
      have hresolves := hi.resolves
      rw [hphase] at hresolves
      rwa [hviewport, ← drained_resolves hresolves _ hv]

/-! ### At rest -/

/-- The frames of the connection thread agree with the posts owed. -/
def LinkGate (s : Link β) : LinkEvent β → Prop
  | .host e => Host.GateOk s.host e
  | _ => True

/-- Nothing is on its way between the device and the session its host serves. -/
structure AtRest (s : Link β) (socket : Nat) (session : Host.Session) : Prop where
  serving : s.serving = some socket
  reading : s.host.phase = .reading session
  settled : s.host.outstanding = none
  current : s.device.transport.connection.active = some socket
  queue : s.device.transport.queue = []
  writer : s.device.transport.writer = .idle
  main : ¬ s.device.transport.main.ChangesViewport
  read : s.read + 1 = (written socket s.device.transport).length
  received : (s.arrivedOn socket).length = (deliveries session.token s.host.sender).length

/-- The host has the viewport of a device at rest. -/
theorem TouchInv.rest (h : TouchInv s) {socket : Nat} {session : Host.Session}
    (hrest : AtRest s socket session) :
    session.reportedViewport = s.device.transport.remoteViewport := by
  obtain ⟨socket', hs', -, -, hann⟩ := h.reported session (by rw [hrest.reading]; rfl)
  obtain rfl := Option.some.inj (hrest.serving.symm.trans hs')
  rcases h.announces with hoff | hag
  · have hcurrent := hrest.current
    rw [hoff.inactive] at hcurrent
    cases hcurrent
  have hlive := hag.live socket hrest.current (by rw [hrest.writer]; simp)
    (by rw [hrest.writer]; simp)
  have hempty : s.device.transport.pending = [] := by
    simp [Transport.pending, hrest.queue, hrest.writer, Device.WriterPc.outbound?]
  have howes : ¬ s.device.transport.main.Owes socket := fun howes => hrest.main (by
    revert howes
    cases s.device.transport.main <;> first | exact fun _ => trivial | exact id)
  have hagrees := hlive.agrees howes
  have hnone : onToken socket [] = [] := rfl
  rw [Transport.stream, hempty, hnone, List.append_nil] at hagrees
  rw [hrest.read, List.take_length, written, announced, foldl_announce_whole] at hann
  exact Option.some.inj (hann.symm.trans hagrees)

theorem hostInv_of_link {size : Device.Viewport} {adapter : Bool} {pixelFormats : V2PixelFormats}
    {es : List (LinkEvent β)}
    (h : Run (restrict (Fn linkStep) LinkGate) (.start size adapter pixelFormats) es s) :
    Host.HostInv s.host := by
  obtain ⟨fs, hrun⟩ := h.project (S := restrict (Fn hostStep) Host.GateOk) Link.host (by
    rintro s e t ⟨hok, k⟩
    cases linkStep_move k with
    | device | receive => exact ⟨[], .refl _⟩
    | host _ hh => exact ⟨_, .one ⟨hok, hh⟩⟩
    | accept _ hh => exact ⟨[.accept], .one ⟨trivial, hh⟩⟩
    | hello _ _ hh => exact ⟨[.install _ _], .one ⟨trivial, hh⟩⟩
    | @message _ _ m _ _ _ hh => exact ⟨_, .one ⟨by cases m <;> trivial, hh⟩⟩)
  exact Host.hostInv hrun

/-- **At rest, a tap means what the panel got last.**  In every run whose connections are installed
with the viewport of their Hello or with its change on the way, whose sockets the writer of the
device can duplicate, and whose frames agree with the posts owed: when nothing is on its way, the
host resolves taps against the application of a viewport exactly when the last frame the device has
read is that application and the viewport is the device's. -/
theorem rest_agreement {size : Device.Viewport} {adapter : Bool} {pixelFormats : V2PixelFormats}
    {es : List (LinkEvent β)} {socket : Nat} {session : Host.Session}
    (h : Run (restrict (Fn linkStep) fun s e => LinkOk s e ∧ LinkGate s e)
      (.start size adapter pixelFormats) es s)
    (hrest : AtRest s socket session) (v : Host.Viewport) :
    (session.drained s.host.channel).input.viewport = some v ↔
      v = s.device.transport.remoteViewport ∧ ∃ a d, (s.arrivedOn socket).getLast? = some a ∧
        (deliveries session.token s.host.sender).getLast? = some d ∧ SentAs d a.frame ∧
        d.source = some (.application v) := by
  have hok : Run (restrict (Fn linkStep) LinkOk) (.start size adapter pixelFormats) es s :=
    h.weaken fun hk => ⟨hk.1.1, hk.2⟩
  have hgate : Run (restrict (Fn linkStep) LinkGate) (.start size adapter pixelFormats) es s :=
    h.weaken fun hk => ⟨hk.1.2, hk.2⟩
  obtain ⟨hrun, hi⟩ := touchInv hok
  have hhost := hostInv_of_link hgate
  have hlink : LinkInv s := (LinkInv.start size adapter pixelFormats).run hrun
  obtain ⟨socket', hs', hpair, -, -⟩ := hi.reported session (by rw [hrest.reading]; rfl)
  obtain rfl := Option.some.inj (hrest.serving.symm.trans hs')
  -- every frame of the connection has been read
  have hfirst : List.Forall₂ (fun d a => SentAs d a.frame)
      (deliveries session.token s.host.sender) (s.arrivedOn socket) := by
    have hall := hlink.first _ hpair
    rwa [hrest.received, List.take_length] at hall
  rw [Host.drained_viewport hrest.settled, hhost.reading session hrest.reading, Host.shown,
    Option.filter_eq_some_iff, decide_eq_true_eq, hi.rest hrest, and_comm]
  refine and_congr_right fun _ => ?_
  show ((deliveries session.token s.host.sender).getLast?.bind fun d =>
    d.source.bind Host.AuthoritativeFrame.applicationViewport) = some v ↔ _
  constructor
  · intro hshown
    obtain ⟨d, hd, hsource⟩ := Option.bind_eq_some_iff.mp hshown
    obtain ⟨a, ha, hsent⟩ := getLast_forall₂ hfirst hd
    exact ⟨a, d, ha, hd, hsent, applicationViewport_eq_some.mp hsource⟩
  · rintro ⟨a, d, -, hd, -, hsource⟩
    rw [hd]
    exact applicationViewport_eq_some.mpr hsource

end Link

/-- A button of the device is used, and the message written. -/
def pointed (event : Device.PointerEvent) : List (LinkEvent Unit) :=
  [.device (.button event), .device (.transport (.main .enqueuePointer)),
    .device (.transport (.writer .dequeue)), .device (.transport (.writer (.cloneStream true))),
    .device (.transport (.writer (.write .written)))]

/-- The application is sent to a window, and button 1 of it is tapped. -/
def tappedLink : List (LinkEvent Unit) :=
  greetedLink ++ pointed ⟨.press, 1, ⟨25, 65⟩⟩ ++ pointed ⟨.release, 1, ⟨25, 65⟩⟩

/-- The host, sent the application for its Hello, resolves taps against it. -/
theorem host_greeted [Platform] {s t : HostState} {session : Host.Session}
    (hi : SenderInv s.sender) (hp : s.phase = .installed session)
    (hsource : Host.helloSource s.sender session.reportedViewport session.pixelFormats =
      .application session.reportedViewport)
    (hsend : Host.Sendable s.sender (.application session.reportedViewport) .accepted)
    (h : hostStep s (.helloFrame .accepted) = some t) :
    t.phase = .reading { session with
      renderedViewport := some session.reportedViewport
      input := session.input.setViewport (some session.reportedViewport) } := by
  cases Host.hostStep_move h with
  | @helloFrame _ session₀ _ _ hp' hx =>
      obtain rfl : session = session₀ := Phase.installed.inj (hp.symm.trans hp')
      rcases Host.replaceHelloFrame_cases hi hx with ⟨source, f, r, hs, -, rfl⟩ | ⟨hn, -⟩
      · rw [hs, hsource]
        rfl
      · exact absurd (hsource ▸ hsend) hn

theorem touch_agreement_tap :
    ∃ (s t : Link Unit) (n : Nat) (r : Record),
      Run (Fn (@linkStep Unit .usize64)) (.start (160, 372) true .MONO1)
        (tappedLink ++ [.message n]) s ∧
      @linkStep Unit .usize64 s (.message n) = some t ∧ r.message = .pointer ⟨.up, 25, 65⟩ ∧
      Host.InButton r.viewport 1 25 65 := by
  let _ : Platform := .usize64
  obtain ⟨s, hs⟩ : ∃ s, exec (@linkStep Unit .usize64) (.start (160, 372) true .MONO1) tappedLink =
      some s :=
    ⟨_, rfl⟩
  have hrun : Run (restrict (Fn linkStep) LinkOk) (.start (160, 372) true .MONO1) tappedLink s := by
    refine (run_of_exec hs).restricted fun e he r => ?_
    simp only [tappedLink, greetedLink, pointed, List.cons_append, List.nil_append, List.mem_cons,
      List.not_mem_nil, or_false] at he
    rcases he with rfl | rfl | rfl | rfl | rfl | rfl | rfl | rfl | rfl | rfl | rfl | rfl | rfl | rfl
      <;> first
        | trivial
        | exact ⟨fun h => (by cases h), by rintro ⟨⟩⟩
  obtain ⟨hserving, hread, hwhole, hchannel⟩ : s.serving = some 0 ∧ s.read = 0 ∧
      wholeMessages (onToken 0 s.device.transport.wire) =
        [.hello (.withPixelFormats 160 300 .MONO1), .pointer ⟨.down, 25, 65⟩,
          .pointer ⟨.up, 25, 65⟩] ∧ s.host.channel = [] := by
    obtain rfl := Option.some.inj hs
    exact ⟨rfl, rfl, rfl, rfl⟩
  -- the host resolves taps against the application it has sent
  obtain ⟨session, hphase, hinput⟩ : ∃ session, s.host.phase = .reading session ∧
      session.input = ⟨some (160, 300), .idle⟩ := by
    obtain ⟨s₀, hs₀, hhello, hinstalled, hsource, hid, hsup⟩ : ∃ s₀,
        exec linkStep (.start (160, 372) true .MONO1) (greetedLink.take 3) = some s₀ ∧
          hostStep s₀.host (.helloFrame .accepted) = some s.host ∧
          s₀.host.phase = .installed ⟨0, .MONO1, (160, 300), {}, none⟩ ∧
          Host.helloSource s₀.host.sender (160, 300) .MONO1 = .application (160, 300) ∧
          s₀.host.sender.state.nextFrameId < 4 ∧
          s₀.host.sender.current.inner.any (fun a => a.pixelFormats.supports .mono1) = true := by
      obtain rfl := Option.some.inj hs
      exact ⟨_, rfl, rfl, rfl, rfl, by decide, rfl⟩
    have hi := (LinkInv.start (160, 372) true .MONO1).run (run_of_exec hs₀)
    exact ⟨_, host_greeted hi.sender hinstalled hsource
      (Host.sendable_application hid hsup (by decide)) hhello, by decide⟩
  -- all of it has arrived
  obtain ⟨n, hmessage⟩ : ∃ n, ∀ k p,
      [Message.pointer ⟨.down, 25, 65⟩, .pointer ⟨.up, 25, 65⟩][k]? = some (Message.pointer p) →
        (readSession (s.input 0 n)).value.2[k]? = some (SessionMessage.pointer p) := by
    obtain ⟨fs, htransport⟩ := link_transport (run_of_exec hs)
    obtain ⟨x, hx⟩ := session_all htransport 0
    refine ⟨(Device.bytesOn 0 s.device.transport.wire).length, fun k p hk => ?_⟩
    rw [Link.input, List.take_length, hx.1]
    exact nth_pointer (hx.2.symm.trans hwhole) hk
  -- it handles the press, and is armed
  obtain ⟨u, hpress, hserving', hread', hinputs, hchannel', session', hphase', harmed⟩ : ∃ u,
      linkStep s (.message n) = some u ∧ u.serving = some 0 ∧ u.read = 1 ∧
        u.input 0 n = s.input 0 n ∧ u.host.channel = [] ∧ ∃ session',
          u.host.phase = .reading session' ∧
            session'.input = (session.input.handlePointer {} ⟨.down, 25, 65⟩).1 := by
    simp only [linkStep, hserving, hread, hmessage 0 ⟨.down, 25, 65⟩ rfl, sessionEvent, hostStep,
      hphase, hchannel, Option.map_some]
    exact ⟨_, rfl, rfl, rfl, rfl, rfl, _, rfl, rfl⟩
  have hrelease : (readSession (u.input 0 n)).value.2[u.read]? =
      some (SessionMessage.pointer ⟨.up, 25, 65⟩) := by
    rw [hinputs, hread']
    exact hmessage 1 _ rfl
  obtain ⟨t, ht⟩ : ∃ t, linkStep u (.message n) = some t := by
    simp only [linkStep, hserving', hrelease, sessionEvent, hostStep, hphase', Option.map_some]
    exact ⟨_, rfl⟩
  have hrun' : Run (restrict (Fn linkStep) LinkOk) (.start (160, 372) true .MONO1)
      (tappedLink ++ [.message n]) u := .snoc hrun ⟨trivial, hpress⟩
  obtain ⟨r, session₂, -, hm, hphase₂, -, hbutton⟩ :=
    touch_agreement hrun' hserving' hrelease ht
  obtain rfl : session' = session₂ := Phase.reading.inj (hphase'.symm.trans hphase₂)
  refine ⟨u, t, n, r, hrun'.weaken And.right, ht, hm, hbutton ⟨1, "media.play_pause"⟩ ?_⟩
  rw [hchannel', Host.Session.drained, List.getLast?_nil, harmed, hinput]
  rfl

/-- Once the application has arrived, and nothing was touched, taps are resolved against it. -/
theorem rest_agreement_greeted :
    ∃ (s : Link Unit) (session : Host.Session), AtRest s 0 session ∧
      (session.drained s.host.channel).input.viewport = some (1, 1) := by
  let _ : Platform := .usize64
  obtain ⟨s, n, e, f, d, hs, hreceive, hd, hone, hsource, hsent⟩ := greetedLink_receive
  obtain ⟨s₀, hs₀, hhello, hnewest, hnone⟩ : ∃ s₀,
      exec linkStep (.start (1, 73) true .MONO1) (greetedLink.take 3) = some s₀ ∧
        linkStep s₀ (.host (.helloFrame .accepted)) = some s ∧ s₀.host.newestPost = none ∧
        s₀.host.sender.sent = [] := by
    obtain rfl := Option.some.inj hs
    exact ⟨_, rfl, rfl, rfl, rfl⟩
  obtain ⟨session, hserving, hreading, htoken, hsettled, hcurrent, hqueue, hwriter, hmain, hread,
      hwritten, hviewport⟩ : ∃ session, s.serving = some 0 ∧ s.host.phase = .reading session ∧
      session.token = 0 ∧ s.host.outstanding = none ∧
      s.device.transport.connection.active = some 0 ∧ s.device.transport.queue = [] ∧
      s.device.transport.writer = .idle ∧ s.device.transport.main = .idle ∧ s.read = 0 ∧
      (written 0 s.device.transport).length = 1 ∧
      s.device.transport.remoteViewport = (1, 1) := by
    obtain rfl := Option.some.inj hs
    exact ⟨_, rfl, rfl, rfl, rfl, rfl, rfl, rfl, rfl, rfl, rfl, rfl⟩
  -- nothing was shown before
  have hgate : Host.GateOk s₀.host (.helloFrame .accepted) := by
    intro session _
    rw [Host.Agrees, hnewest]
    refine .inr ?_
    rw [Host.shown, Host.shownOn, hnone]
    rfl
  have hrun : Run (restrict (Fn linkStep) fun s e => LinkOk s e ∧ LinkGate s e)
      (.start (1, 73) true .MONO1) (greetedLink.take 3) s₀ := by
    refine (run_of_exec hs₀).restricted fun e he r => ?_
    simp only [greetedLink, List.take_succ_cons, List.take_zero, List.mem_cons, List.not_mem_nil,
      or_false] at he
    rcases he with rfl | rfl | rfl
    · exact ⟨⟨by rintro ⟨⟩, by rintro ⟨⟩⟩, trivial⟩
    · exact ⟨trivial, trivial⟩
    · exact ⟨trivial, trivial⟩
  have hok : LinkOk s₀ (.host (.helloFrame .accepted)) ∧
      LinkGate s₀ (.host (.helloFrame .accepted)) := ⟨trivial, hgate⟩
  have hok' : LinkOk s (.receive n) ∧ LinkGate s (.receive n) := ⟨trivial, trivial⟩
  have hall := (hrun.snoc ⟨hok, hhello⟩).snoc ⟨hok', hreceive⟩
  -- reading a frame touches nothing else
  obtain ⟨hc, hq, hw, hm, hwire, hv⟩ : d.transport.connection = s.device.transport.connection ∧
      d.transport.queue = s.device.transport.queue ∧
      d.transport.writer = s.device.transport.writer ∧
      d.transport.main = s.device.transport.main ∧ d.transport.wire = s.device.transport.wire ∧
      d.transport.remoteViewport = s.device.transport.remoteViewport := by
    obtain ⟨socket, -, rfl⟩ := loopStep_receive hd
    exact ⟨rfl, rfl, rfl, rfl, rfl, rfl⟩
  have hrest : AtRest { s with device := d, arrived := [⟨0, f⟩] } 0 session :=
    { serving := hserving
      reading := hreading
      settled := hsettled
      current := hc ▸ hcurrent
      queue := hq.trans hqueue
      writer := hw.trans hwriter
      main := by
        show ¬ d.transport.main.ChangesViewport
        rw [hm, hmain]
        exact id
      read := by
        show s.read + 1 = (written 0 d.transport).length
        rw [hread, written, hwire, ← written, hwritten]
      received := by
        show _ = (deliveries session.token s.host.sender).length
        rw [htoken, hone]
        rfl }
  refine ⟨_, session, hrest, (rest_agreement hall hrest (1, 1)).mpr
    ⟨(hv.trans hviewport).symm, ⟨0, f⟩, e, rfl, ?_, hsent, hsource⟩⟩
  rw [htoken]
  show (deliveries 0 s.host.sender).getLast? = some e
  rw [hone]
  rfl

end PaperPad.System
