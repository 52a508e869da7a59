import PaperPad.Device.Outbound
import PaperPad.Host.Authority
import PaperPad.System.Readers

/-!
# System — Delivery

What one side writes to a connection, the other side reads.  A connection carries any prefix of
what was written to it, and its last write may have been cut short.

* `frames_delivered`: of what the host has sent, the device reads the frames that arrived whole,
  in order, each with its id, size, format and pixels.
* `input_delivered`: of what the device has queued, the host reads the Hello and then the messages
  that arrived whole, in order.
-/

namespace PaperPad.System

open Protocol StreamReader Transition
open Host (SenderEvent FrameSender AuthoritativeFrame Describes SenderInv senderNext senderInv
  SessionMessage HelloEncoding SessionEncoding helloReader sessionReader readSession)
open Device (Transport TransportEvent QueuedOutbound Record Viewport transportStep)
open Device.Inbound (FrameEncodes FrameEncoding frameReader readFrames frameEncodes_of_encode)

/-! ### Frames -/

section Frames

variable [Platform]

/-- What the host has sent on a connection. -/
def deliveries (token : Nat) (s : FrameSender) : List Host.Delivery :=
  s.sent.filter fun d => d.token = token

/-- A frame that was sent, as it is received. -/
structure Carries (d : Host.Delivery) (f : Device.Inbound.ReceivedFrame) : Prop where
  frameId_eq : f.frameId = d.frameId
  encoded : ∃ source frame, d.source = some source ∧ Describes frame source ∧
    FrameEncodes f frame d.bytes

theorem Carries.encoding {d : Host.Delivery} {f : Device.Inbound.ReceivedFrame}
    (h : Carries d f) : FrameEncoding f d.bytes := by
  obtain ⟨-, frame, -, -, hf⟩ := h.encoded
  exact ⟨frame, hf⟩

/-- Every frame that was sent can be received. -/
theorem exists_carries {s : FrameSender} (h : SenderInv s) {d : Host.Delivery}
    (hd : d ∈ s.sent) : ∃ f, Carries d f := by
  obtain ⟨source, frame, hs, hdesc, hf⟩ := h.encoded d hd
  exact ⟨_, rfl, source, frame, hs, hdesc, frameEncodes_of_encode hf⟩

theorem exists_received {s : FrameSender} (h : SenderInv s) {l : List Host.Delivery}
    (hl : ∀ d ∈ l, d ∈ s.sent) : ∃ fs, List.Forall₂ Carries l fs := by
  induction l with
  | nil => exact ⟨[], .nil⟩
  | cons d l ih =>
      obtain ⟨f, hf⟩ := exists_carries h (hl d List.mem_cons_self)
      obtain ⟨fs, hfs⟩ := ih fun k hk => hl k (List.mem_cons_of_mem _ hk)
      exact ⟨f :: fs, .cons hf hfs⟩

/-- What was sent on a connection is what was written whole to it. -/
theorem deliveries_bytes {s : FrameSender} (h : SenderInv s) (token : Nat) :
    (Host.wholeWrites (s.current.wire.filter fun w => w.token = token)).map (·.bytes) =
      (deliveries token s).map (·.bytes) := by
  rw [Host.wholeWrites, List.filter_comm]
  change (((Host.wholeWrites s.current.wire).filter fun w => w.token = token).map (·.bytes)) = _
  rw [h.whole, List.filter_map, List.map_map]
  rfl

/-- The bytes of a connection: the frames sent on it, and at most a part of another. -/
theorem deliveries_cut {s : FrameSender} (h : SenderInv s) (token : Nat) :
    ∃ tail, Host.bytesOn token s.current.wire =
        ((deliveries token s).map (·.bytes)).flatten ++ tail ∧
      (tail = [] ∨ Torn FrameEncoding tail) := by
  rw [← deliveries_bytes h token]
  rcases Host.whole_then_partial (h.wired.records_on token) with hall | ⟨l, w, he, hw, hall⟩
  · refine ⟨[], ?_, .inl rfl⟩
    rw [Host.bytesOn, Host.wholeWrites, List.filter_eq_self.mpr hall, List.append_nil,
      List.flatMap_def]
  · have hmem : w ∈ s.current.wire := by
      have : w ∈ s.current.wire.filter fun w => w.token = token := by rw [he]; simp
      exact (List.mem_filter.mp this).1
    refine ⟨w.bytes, ?_, .inr ?_⟩
    · have hpart : Host.wholeWrites [w] = [] := Host.wholeWrites_of_partial (by simpa using hw)
      have hwhole : Host.wholeWrites l = l := List.filter_eq_self.mpr hall
      rw [Host.bytesOn, he, Host.wholeWrites_append, hpart, hwhole, List.append_nil,
        List.flatMap_append, List.flatMap_def]
      simp
    · obtain ⟨frameId, f, whole, hf, hprefix, hne⟩ := h.truncated w hmem hw
      exact ⟨_, whole, ⟨f, frameEncodes_of_encode hf⟩, hprefix, hne⟩

theorem carries_encodings {l : List Host.Delivery} {fs : List Device.Inbound.ReceivedFrame}
    (h : List.Forall₂ Carries l fs) : List.Forall₂ FrameEncoding fs (l.map (·.bytes)) := by
  induction h with
  | nil => exact .nil
  | cons hf _ ih => exact .cons hf.encoding ih

/-- **What a connection was given** is the frames sent on it, and at most a part of another. -/
theorem frames_cut {s : FrameSender} (h : SenderInv s) (token : Nat) :
    ∃ fs tail, List.Forall₂ Carries (deliveries token s) fs ∧
      Words FrameEncoding fs ((deliveries token s).map (·.bytes)).flatten ∧
      Host.bytesOn token s.current.wire =
        ((deliveries token s).map (·.bytes)).flatten ++ tail ∧
      (tail = [] ∨ Torn FrameEncoding tail) := by
  obtain ⟨fs, hfs⟩ := exists_received h (l := deliveries token s)
    fun d hd => (List.mem_filter.mp hd).1
  obtain ⟨tail, hbytes, htail⟩ := deliveries_cut h token
  exact ⟨fs, tail, hfs, words_flatten (carries_encodings hfs), hbytes, htail⟩

/-- The device, reading a part of it, receives the first of the frames. -/
theorem readFrames_prefix {fs : List Device.Inbound.ReceivedFrame} {bytes p : List UInt8}
    (h : Cut FrameEncoding fs bytes) (hp : p <+: bytes) :
    (readFrames ⟨p, 0⟩).value <+: fs ∧ Cut FrameEncoding (readFrames ⟨p, 0⟩).value p := by
  obtain ⟨ms, hms, hcut⟩ := h.of_prefix hp
  have hvalue : (readFrames ⟨p, 0⟩).value = ms := frameReader.readAll_cut (r := ⟨p, 0⟩) hcut
  rw [hvalue]
  exact ⟨hms, hcut⟩

/-- **Frames delivered.**  In every history of the sender: the device, reading any part of what a
connection was given, receives the first of the frames sent on it, each with its id, size, format
and pixels, and none that arrived whole is missing; reading all of it, it receives all of them,
and fails exactly if a frame was cut short. -/
theorem frames_delivered {es : List SenderEvent} {s : FrameSender}
    (h : Run (Fn senderNext) {} es s) (token : Nat) :
    ∃ fs, List.Forall₂ Carries (deliveries token s) fs ∧
      (∀ p, p <+: Host.bytesOn token s.current.wire →
        (readFrames ⟨p, 0⟩).value <+: fs ∧
          ∀ k, (((deliveries token s).take k).map (·.bytes)).flatten <+: p →
            fs.take k <+: (readFrames ⟨p, 0⟩).value) ∧
      (readFrames ⟨Host.bytesOn token s.current.wire, 0⟩).value = fs ∧
      ((readFrames ⟨Host.bytesOn token s.current.wire, 0⟩).error = none ↔
        Host.bytesOn token s.current.wire = ((deliveries token s).map (·.bytes)).flatten) := by
  obtain ⟨fs, tail, hfs, hwords, hbytes, htail⟩ := frames_cut (senderInv h) token
  have hall := frameReader.readAll_torn (r := ⟨_, 0⟩) hwords htail hbytes
  refine ⟨fs, hfs, fun p hp => ?_, hall.1, hall.2.trans ?_⟩
  · obtain ⟨hms, hcut⟩ := readFrames_prefix ⟨_, tail, hwords, hbytes, htail⟩ hp
    refine ⟨hms, fun k hk => frameReader.cut_prefix hcut (words_flatten ?_) hk⟩
    rw [List.map_take]
    exact List.forall₂_take k (carries_encodings hfs)
  · rw [hbytes, List.append_right_eq_self]

end Frames

theorem frames_delivered_reset :
    ∃ s fs, exec (@senderNext .usize64) {} Host.resetRun = some s ∧
      List.Forall₂ (@Carries .usize64) (deliveries 0 s) fs ∧ fs.length = 1 ∧
      (@readFrames .usize64 ⟨Host.bytesOn 0 s.current.wire, 0⟩).value = fs := by
  obtain ⟨s, hs⟩ : ∃ s, exec (@senderNext .usize64) {} Host.resetRun = some s := ⟨_, rfl⟩
  have hone : (deliveries 0 s).length = 1 := by
    obtain rfl := Option.some.inj hs
    rfl
  obtain ⟨fs, hfs, -, hall, -⟩ := @frames_delivered .usize64 _ _ (run_of_exec hs) 0
  exact ⟨s, fs, hs, hfs, hfs.length_eq.symm.trans hone, hall⟩

/-! ### Input -/

/-- The message, as its sender has it. -/
def SessionMessage.toMessage (m : SessionMessage) : Message := m.toInbound.toMessage

/-- The device queues no Hello and no frame. -/
def Input (m : Message) : Prop := ∃ s : SessionMessage, m = SessionMessage.toMessage s

theorem accepted_input {t : Transport} {e : TransportEvent} {o : QueuedOutbound}
    (h : o ∈ Device.accepted t e) : Input o.message := by
  cases e with
  | main e =>
      cases e with
      | enqueueViewport =>
          simp only [Device.accepted] at h
          split at h
          · split at h
            · rw [List.mem_singleton.mp h]
              exact ⟨.viewportChanged _, rfl⟩
            · cases h
          · cases h
      | enqueuePointer =>
          simp only [Device.accepted] at h
          split at h
          · split at h
            · rw [List.mem_singleton.mp h]
              exact ⟨.pointer _, rfl⟩
            · cases h
          · cases h
      | _ => cases h
  | _ => cases h

theorem enqueued_input {t : Transport} {es : List TransportEvent} {o : QueuedOutbound}
    (h : o ∈ Device.enqueued t es) : Input o.message := by
  induction es generalizing t with
  | nil => cases h
  | cons e es ih =>
      rcases List.mem_append.mp h with h | h
      · exact accepted_input h
      · split at h
        · exact ih h
        · cases h

/-- Every Hello on a socket offers the formats the device was started with. -/
structure Greets (formats : V2PixelFormats) (t : Transport) : Prop where
  formats_eq : t.pixelFormats = formats
  offered : ∀ r ∈ t.wire, ∀ hello, r.message = .hello hello → hello.pixelFormats = formats

theorem Greets.concat {formats : V2PixelFormats} {t u : Transport} (h : Greets formats t)
    {r : Record} (hformats : u.pixelFormats = t.pixelFormats) (hwire : u.wire = t.wire ++ [r])
    (hr : ∀ hello, r.message = .hello hello → hello.pixelFormats = t.pixelFormats) :
    Greets formats u := by
  refine ⟨hformats.trans h.formats_eq, fun q hq hello hm => ?_⟩
  rw [hwire] at hq
  rcases List.mem_append.mp hq with hq | hq
  · exact h.offered q hq hello hm
  · obtain rfl := List.mem_singleton.mp hq
    exact (hr hello hm).trans h.formats_eq

theorem Greets.step {formats : V2PixelFormats} {t u : Transport} {e : TransportEvent}
    (h : Greets formats t) (hinput : ∀ o ∈ t.inFlight, Input o.message)
    (k : transportStep t e = some u) : Greets formats u := by
  have hhello : ∀ (g : Nat) (v : Viewport) (outcome : Device.WriteOutcome) (hello : V2Hello),
      (Device.writeAll g (Device.helloMessage v t.pixelFormats) v outcome).message = .hello hello →
        hello.pixelFormats = t.pixelFormats := by
    intro g v outcome hello hm
    rw [Device.writeAll_message] at hm
    cases hm
    rfl
  have hqueued : ∀ (o : QueuedOutbound) (outcome : Device.WriteOutcome) (hello : V2Hello),
      t.writer = .writing o →
      (Device.writeAll o.connection o.message o.viewport outcome).message = .hello hello →
        hello.pixelFormats = t.pixelFormats := by
    intro o outcome hello hw hm
    obtain ⟨s, hs⟩ := hinput o (by simp [Transport.inFlight, hw, Device.WriterPc.outbound?])
    rw [Device.writeAll_message, hs] at hm
    cases s <;> cases hm
  cases Device.transportStep_move k with
  | main m =>
      cases m with
      | promote => exact h.concat rfl rfl (hhello _ _ _)
      | _ => exact ⟨h.formats_eq, h.offered⟩
  | writer m =>
      cases m with
      | write hw => exact h.concat rfl rfl fun hello => hqueued _ _ hello hw
      | fail hw => exact h.concat rfl rfl fun hello => hqueued _ _ hello hw
      | _ => exact ⟨h.formats_eq, h.offered⟩
  | reader m => cases m <;> exact ⟨h.formats_eq, h.offered⟩
  | reconnector m =>
      cases m with
      | greet => exact h.concat rfl rfl (hhello _ _ _)
      | greetFailed => exact h.concat rfl rfl (hhello _ _ _)
      | _ => exact ⟨h.formats_eq, h.offered⟩

theorem greets {v : Viewport} {formats : V2PixelFormats} {es : List TransportEvent}
    {t : Transport} (h : Run (Fn transportStep) (.start v formats) es t) : Greets formats t := by
  refine h.history (I := fun _ t => Greets formats t) ⟨rfl, by rintro r ⟨⟩⟩ ?_
  intro es t e u hrun ih k
  obtain ⟨-, past, -, hpast, -⟩ := Device.outboundInv hrun
  exact ih.step (fun o ho => enqueued_input (hpast ▸ List.mem_append_right _ ho)) k

/-! ### The bytes of a session -/

theorem encode_messageBytes {m : Message} (h : ∀ i f, m ≠ .frame i f) :
    m.encode = .ok (Device.messageBytes m) := by
  obtain ⟨w, hw⟩ := Message.fits_iff.mp (Message.fits_of_not_frame h)
  rw [Device.messageBytes, hw]

theorem hello_encoding (hello : V2Hello) :
    HelloEncoding hello (Device.messageBytes (.hello hello)) :=
  encode_messageBytes (m := .hello hello) (by simp)

theorem encode_session (s : SessionMessage) :
    (SessionMessage.toMessage s).encode =
      .ok (Device.messageBytes (SessionMessage.toMessage s)) :=
  encode_messageBytes (by cases s <;> simp [SessionMessage.toMessage, SessionMessage.toInbound,
    Host.InboundMessage.toMessage])

theorem session_encoding (s : SessionMessage) :
    SessionEncoding s (Device.messageBytes (SessionMessage.toMessage s)) := by
  cases s with
  | pointer p => exact encode_session (.pointer p)
  | viewportChanged v => exact encode_session (.viewportChanged v)

/-- A write that failed left a part of the message. -/
theorem torn_of_failed {β : Type} {Enc : β → List UInt8 → Prop} {b : β} {m : Message}
    (henc : Enc b (Device.messageBytes m)) (hm : m.encode = .ok (Device.messageBytes m)) (g : Nat)
    (v : Viewport) (n : Nat) : Torn Enc (Device.writeAll g m v (.failed n)).bytes := by
  refine ⟨b, _, henc, List.take_prefix _ _, fun h => ?_⟩
  have hlen := congrArg List.length h
  have hpos := List.length_pos_iff.mpr (encode_ne_nil hm)
  simp only [Device.writeAll, List.length_take] at hlen
  omega

/-- The messages of the queue, as the host reads them. -/
theorem exists_session {l : List QueuedOutbound} (h : ∀ o ∈ l, Input o.message) :
    ∃ ms : List SessionMessage, ms.map SessionMessage.toMessage = l.map (·.message) ∧
      Words SessionEncoding ms (l.flatMap fun o => Device.messageBytes o.message) := by
  induction l with
  | nil => exact ⟨[], rfl, .nil⟩
  | cons o l ih =>
      obtain ⟨s, hs⟩ := h o List.mem_cons_self
      obtain ⟨ms, hms, hwords⟩ := ih fun p hp => h p (List.mem_cons_of_mem _ hp)
      refine ⟨s :: ms, by rw [List.map_cons, List.map_cons, hms, hs], ?_⟩
      rw [List.flatMap_cons, hs]
      exact .cons (session_encoding s) hwords

/-- The messages a socket was given whole. -/
def wholeMessages (l : List Record) : List Message := (l.filter (·.whole)).map (·.message)

theorem wholeMessages_append (l l' : List Record) :
    wholeMessages (l ++ l') = wholeMessages l ++ wholeMessages l' := by
  rw [wholeMessages, List.filter_append, List.map_append]
  rfl

theorem wholeMessages_records (l : List QueuedOutbound) :
    wholeMessages (l.map QueuedOutbound.record) = l.map (·.message) := by
  induction l with
  | nil => rfl
  | cons o l ih => exact congrArg (o.message :: ·) ih

/-- A Hello and the messages behind it, as they were sent. -/
def sessionMessages (x : Option V2Hello × List SessionMessage) : List Message :=
  (x.1.map Message.hello).toList ++ x.2.map SessionMessage.toMessage

/-- **What a socket was given** is a session cut short. -/
theorem session_cut {g : Nat} {messages : List QueuedOutbound} {l : List Record}
    (h : Device.Given g messages l) (hinput : ∀ o ∈ messages, Input o.message) :
    ∃ x, CutThen HelloEncoding SessionEncoding x (l.flatMap Record.bytes) ∧
      x.2.map SessionMessage.toMessage <+: messages.map (·.message) ∧
      wholeMessages l = sessionMessages x := by
  rcases h with rfl | ⟨hello, v, n, rfl⟩ | ⟨sent, rest, whole, tail, rfl, hall, rfl, htail⟩
  · exact ⟨(none, []), .nothing, List.nil_prefix, rfl⟩
  · refine ⟨(none, []), .torn ?_, List.nil_prefix, rfl⟩
    rw [List.flatMap_singleton]
    exact torn_of_failed (hello_encoding hello) (hello_encoding hello) g v n
  · obtain ⟨hello, v, rfl⟩ := hall
    obtain ⟨ms, hms, hwords⟩ :=
      exists_session fun o ho => hinput o (List.mem_append_left rest ho)
    have hpart : tail.flatMap Record.bytes = [] ∨
        Torn SessionEncoding (tail.flatMap Record.bytes) := by
      rcases htail with rfl | ⟨o, rest', n, rfl, rfl⟩
      · exact .inl rfl
      · obtain ⟨s, hs⟩ := hinput o (List.mem_append_right _ List.mem_cons_self)
        right
        rw [List.flatMap_singleton, QueuedOutbound.recordOf, hs]
        exact torn_of_failed (session_encoding s) (encode_session s) _ _ _
    have htorn : wholeMessages tail = [] := by
      rcases htail with rfl | ⟨o, rest', n, -, rfl⟩ <;> rfl
    refine ⟨(some hello, ms), ?_, ?_, ?_⟩
    · rw [List.cons_append, List.flatMap_cons, List.flatMap_append, Device.flatMap_record]
      exact .message (hello_encoding hello) ⟨_, _, hwords, rfl, hpart⟩
    · rw [hms, List.map_append]
      exact List.prefix_append ..
    · rw [wholeMessages_append, htorn, List.append_nil]
      change Message.hello hello :: wholeMessages (sent.map QueuedOutbound.record) = _
      rw [wholeMessages_records, ← hms]
      rfl

/-- What the writer is done with are pointers and viewport changes. -/
theorem done_input {v : Viewport} {formats : V2PixelFormats} {es : List TransportEvent}
    {t : Transport} {done past : List QueuedOutbound}
    (hpast : Device.enqueued (.start v formats) es = past ++ t.inFlight)
    (hsub : done.Sublist past) (g : Nat) : ∀ o ∈ Device.addressed g done, Input o.message :=
  fun _ ho => enqueued_input (hpast ▸
    List.mem_append_left _ (hsub.subset (List.mem_filter.mp ho).1))

section Sessions

variable [Platform]

/-- **Input delivered.**  In every run of the device, on every socket: what was written whole is a
session, a Hello that offers the formats of the device and messages queued for the socket, in
order; they are the first of those messages, with none left out, if every socket the writer needed
could be duplicated; and the host, reading any part of the bytes, has nothing or that Hello and
the first of those written messages, and reading them all, all of it. -/
theorem input_delivered {v : Viewport} {formats : V2PixelFormats} {es : List TransportEvent}
    {t : Transport} (h : Run (Fn transportStep) (.start v formats) es t) (g : Nat) :
    ∃ x : Option V2Hello × List SessionMessage,
      wholeMessages (Device.onToken g t.wire) = sessionMessages x ∧
      (∀ hello, x.1 = some hello → hello.pixelFormats = formats) ∧
      (x.2.map SessionMessage.toMessage).Sublist
        ((Device.addressed g (Device.enqueued (.start v formats) es)).map (·.message)) ∧
      ((∀ e ∈ es, Device.Duplicates e) → x.2.map SessionMessage.toMessage <+:
        (Device.addressed g (Device.enqueued (.start v formats) es)).map (·.message)) ∧
      (readSession ⟨Device.bytesOn g t.wire, 0⟩).value = x ∧
      ∀ p, p <+: Device.bytesOn g t.wire → (readSession ⟨p, 0⟩).value = (none, []) ∨
        (readSession ⟨p, 0⟩).value.1 = x.1 ∧ (readSession ⟨p, 0⟩).value.2 <+: x.2 := by
  obtain ⟨done, past, inv, hpast, hsub, heq⟩ := Device.outboundInv h
  obtain ⟨x, hcut, hdone, hwhole⟩ := session_cut (inv.given g) (done_input hpast hsub g)
  refine ⟨x, hwhole, fun hello hx => ?_, ?_, fun hes => ?_,
    helloReader.readThen_cut sessionReader hcut, fun p hp => ?_⟩
  · -- the Hello is on the socket
    have hmem : Message.hello hello ∈ wholeMessages (Device.onToken g t.wire) := by
      rw [hwhole, sessionMessages, hx]
      simp
    obtain ⟨r, hr, hm⟩ := List.mem_map.mp hmem
    exact (greets h).offered r (List.mem_filter.mp (List.mem_filter.mp hr).1).1 hello hm
  · rw [hpast, Device.addressed_append, List.map_append]
    exact (hdone.sublist.trans ((hsub.filter _).map _)).trans (List.sublist_append_left ..)
  · rw [hpast, Device.addressed_append, List.map_append, ← heq hes]
    exact hdone.trans (List.prefix_append ..)
  · obtain ⟨x', hx', hcut'⟩ := hcut.of_prefix hp
    rw [readSession, helloReader.readThen_cut sessionReader hcut']
    refine hx'.imp id fun h => h

end Sessions

theorem input_delivered_cut :
    ∃ t x, exec transportStep (.start (1272, 1624) .MONO1) Device.cutRelease = some t ∧
      sessionMessages x =
        [.hello (.withPixelFormats 1272 1624 .MONO1), .pointer ⟨.down, 3, 5⟩] ∧
      (@readSession .usize64 ⟨Device.bytesOn 0 t.wire, 0⟩).value = x := by
  obtain ⟨t, ht⟩ : ∃ t, exec transportStep (.start (1272, 1624) .MONO1) Device.cutRelease =
    some t := ⟨_, rfl⟩
  obtain ⟨x, hwhole, -, -, -, hread, -⟩ := @input_delivered .usize64 _ _ _ _ (run_of_exec ht) 0
  refine ⟨t, x, ht, hwhole.symm.trans ?_, hread⟩
  obtain rfl := Option.some.inj ht
  rfl

end PaperPad.System
