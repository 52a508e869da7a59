import PaperPad.System.Link

/-!
# System — Panel

What a device is given to show, against what its host has sent, over every interleaving of the two
and over every reconnection.

* `LinkInv`: on each connection the frames the device has read are the first the host sent; later
  connections have larger sockets and larger tokens, and frames of larger ids.
* `panel_frames`: so the frames handed to the backend were sent by the host, have its pixels and
  come in the order of their ids.
-/

namespace PaperPad.System

open Protocol Transition StreamReader
open Device (EventLoop LoopEvent Transport TransportEvent ReaderPc ReconnectorPc loopStep
  transportStep transportStep_move)
open Device.Inbound (FrameEncoding FrameEncodes readFrames)
open Host (HostState HostEvent FrameSender SenderInv hostStep senderNext)

/-! ### Sockets of the device -/

/-- The socket the reader reads. -/
def readerSocket? : ReaderPc → Option Nat
  | .reading socket | .received socket _ => some socket
  | .ended => none

/-- The socket the next reader will read. -/
def nextSocket? : ReconnectorPc → Option Nat
  | .connected socket | .viewportRead socket _ | .greeted socket _ | .installed socket => some socket
  | _ => none

/-- The sockets that were read are none newer than the one being read, and that is older than the
next. -/
structure Sockets (read : List Nat) (t : Transport) : Prop where
  made : ∀ k ∈ read, k < t.sockets
  reader : ∀ k, readerSocket? t.reader = some k → k < t.sockets ∧ ∀ j ∈ read, j ≤ k
  next : ∀ k, nextSocket? t.reconnector = some k → k < t.sockets ∧
    (∀ j, readerSocket? t.reader = some j → j < k) ∧ ∀ j ∈ read, j < k

namespace Sockets

variable {read : List Nat} {t u : Transport}

theorem mono (h : Sockets read t) (hs : u.sockets = t.sockets)
    (hr : ∀ k, readerSocket? u.reader = some k → readerSocket? t.reader = some k)
    (hn : ∀ k, nextSocket? u.reconnector = some k → nextSocket? t.reconnector = some k) :
    Sockets read u := by
  refine ⟨fun k hk => ?_, fun k hk => ?_, fun k hk => ?_⟩
  · rw [hs]; exact h.made k hk
  · rw [hs]; exact h.reader k (hr k hk)
  · obtain ⟨hlt, hold, hread⟩ := h.next k (hn k hk)
    rw [hs]
    exact ⟨hlt, fun j hj => hold j (hr j hj), hread⟩

/-- The reconnector goes on, with the socket it has or with none. -/
theorem setReconnector (h : Sockets read t) {pc : ReconnectorPc}
    (hn : ∀ k, nextSocket? pc = some k → nextSocket? t.reconnector = some k) :
    Sockets read { t with reconnector := pc } :=
  h.mono rfl (fun _ hk => hk) hn

theorem promoted (h : Sockets read t) : Sockets read t.fromStream := by
  refine ⟨fun k hk => Nat.lt_succ_of_lt (h.made k hk), ?_, by rintro k ⟨⟩⟩
  rintro _ ⟨⟩
  exact ⟨Nat.lt_succ_self _, fun j hj => Nat.le_of_lt (h.made j hj)⟩

/-- A socket is made, and kept or given up. -/
theorem connected (h : Sockets read t) {pc : ReconnectorPc}
    (hpc : ∀ k, nextSocket? pc = some k → k = t.sockets) :
    Sockets read { t with sockets := t.sockets + 1, reconnector := pc } := by
  refine ⟨fun k hk => Nat.lt_succ_of_lt (h.made k hk), fun k hk => ?_, fun k hk => ?_⟩
  · obtain ⟨hlt, hread⟩ := h.reader k hk
    exact ⟨Nat.lt_succ_of_lt hlt, hread⟩
  · rw [hpc k hk]
    exact ⟨Nat.lt_succ_self _, fun j hj => (h.reader j hj).1, h.made⟩

theorem spawned (h : Sockets read t) {socket : Nat} (hr : t.reconnector = .installed socket) :
    Sockets read { t with reader := .reading socket, reconnector := .waiting } := by
  refine ⟨h.made, ?_, by rintro k ⟨⟩⟩
  rintro _ ⟨⟩
  obtain ⟨hlt, -, hread⟩ := h.next socket (by rw [hr]; rfl)
  exact ⟨hlt, fun j hj => Nat.le_of_lt (hread j hj)⟩

theorem step (h : Sockets read t) {e : TransportEvent} (k : transportStep t e = some u) :
    Sockets read u := by
  have hsame : ∀ {t u : Transport}, Sockets read t → u.sockets = t.sockets →
      u.reader = t.reader → u.reconnector = t.reconnector → Sockets read u :=
    fun h hs hr hn => h.mono hs (fun _ hk => hr ▸ hk) fun _ hk => hn ▸ hk
  cases transportStep_move k with
  | main m =>
      cases m with
      | promote => exact h.promoted
      | _ => exact hsame h rfl rfl rfl
  | writer m => cases m <;> exact hsame h rfl rfl rfl
  | reader m =>
      cases m with
      | receive hr | publish hr =>
          refine h.mono rfl (fun k hk => ?_) fun _ hk => hk
          rw [hr]
          exact hk
      | readerEnd => exact h.mono rfl (by rintro k ⟨⟩) fun _ hk => hk
  | reconnector m =>
      cases m with
      | wake => exact h.mono rfl (fun _ hk => hk) (by rintro k ⟨⟩)
      | join | giveUp | stop | disconnect | cloneFailed | spawnFailed =>
          exact h.mono rfl (fun _ hk => hk) (by rintro k ⟨⟩)
      | connect => exact h.connected (by rintro k ⟨⟩; rfl)
      | unconfigured hr =>
          have hretry : Sockets read
              { t with sockets := t.sockets + 1, reconnector := .retrying } :=
            h.connected (by rintro k ⟨⟩)
          exact hsame hretry rfl rfl hr
      | readViewport hr => exact h.setReconnector fun k hk => by rw [hr]; exact hk
      | greet hr | install hr =>
          refine h.mono rfl (fun _ hk => hk) fun k hk => ?_
          rw [hr]
          exact hk
      | greetFailed => exact h.mono rfl (fun _ hk => hk) (by rintro k ⟨⟩)
      | spawnReader hr => exact h.spawned hr

/-- Another frame of the socket being read. -/
theorem concat (h : Sockets read t) {socket : Nat} (hr : readerSocket? t.reader = some socket) :
    Sockets (read ++ [socket]) t := by
  have hread := h.reader socket hr
  refine ⟨fun k hk => ?_, fun k hk => ?_, fun k hk => ?_⟩
  · rcases List.mem_append.mp hk with hk | hk
    · exact h.made k hk
    · rw [List.mem_singleton.mp hk]; exact hread.1
  · obtain rfl := Option.some.inj (hr.symm.trans hk)
    refine ⟨hread.1, fun j hj => ?_⟩
    rcases List.mem_append.mp hj with hj | hj
    · exact hread.2 j hj
    · rw [List.mem_singleton.mp hj]
  · obtain ⟨hlt, hold, hnew⟩ := h.next k hk
    refine ⟨hlt, hold, fun j hj => ?_⟩
    rcases List.mem_append.mp hj with hj | hj
    · exact hnew j hj
    · rw [List.mem_singleton.mp hj]; exact hold socket hr

theorem run (h : Sockets read t) {es : List TransportEvent}
    (k : Run (Fn transportStep) t es u) : Sockets read u :=
  k.invariant (fun hs hk => hs.step hk) h

end Sockets

/-! ### Frames on their way through the device -/

/-- In the mailbox, or with the reader. -/
def Holds (t : Transport) (f : Device.ReceivedFrame) : Prop :=
  t.frames.pending = some f ∨ t.reader.frame? = some f

/-- Handed to the backend, or on its way there. -/
def Got {β : Type} (d : EventLoop β) (f : Device.ReceivedFrame) : Prop :=
  (∃ h ∈ d.handed, h.frame = f) ∨ Holds d.transport f

/-- A step that receives nothing. -/
theorem transportStep_unread {t u : Transport} {e : TransportEvent}
    (he : ∀ i f, e ≠ .reader (.receive i f)) (k : transportStep t e = some u) :
    u.receivedCount = t.receivedCount ∧ ∀ f, Holds u f → Holds t f := by
  have hpending : ∀ f, u.frames.pending = some f → Holds t f := by
    intro f hf
    rcases Device.transportStep_pending_cases k with hp | hp | ⟨-, hp⟩
    · rw [hp] at hf; cases hf
    · exact .inl (hp ▸ hf)
    · exact .inr (hp ▸ hf)
  have hreader : u.receivedCount = t.receivedCount ∧
      ∀ f, u.reader.frame? = some f → t.reader.frame? = some f := by
    cases transportStep_move k with
    | main m =>
        cases m with
        | promote => exact ⟨rfl, by rintro f ⟨⟩⟩
        | _ => exact ⟨rfl, fun _ hf => hf⟩
    | writer m => cases m <;> exact ⟨rfl, fun _ hf => hf⟩
    | reader m =>
        cases m with
        | receive => exact absurd rfl (he _ _)
        | publish | readerEnd => exact ⟨rfl, by rintro f ⟨⟩⟩
    | reconnector m =>
        cases m with
        | spawnReader => exact ⟨rfl, by rintro f ⟨⟩⟩
        | _ => exact ⟨rfl, fun _ hf => hf⟩
  exact ⟨hreader.1, fun f hf => hf.elim (hpending f) fun h => .inr (hreader.2 f h)⟩

section Device

variable {β : Type} [Platform] {d u : EventLoop β}

theorem loopStep_unread {e : LoopEvent β} (he : Reads e = false) (k : loopStep d e = some u) :
    u.transport.receivedCount = d.transport.receivedCount ∧ ∀ f, Got u f → Got d f := by
  have hquiet : ∀ {t : Transport} {v : EventLoop β} {e : TransportEvent},
      (∀ i f, e ≠ .reader (.receive i f)) → transportStep d.transport e = some t →
      v.transport = t → v.handed = d.handed →
      v.transport.receivedCount = d.transport.receivedCount ∧ ∀ f, Got v f → Got d f := by
    rintro t v e hne ht rfl hhanded
    obtain ⟨hcount, hholds⟩ := transportStep_unread hne ht
    refine ⟨hcount, fun f hf => hf.imp (fun h => hhanded ▸ h) (hholds f)⟩
  cases Device.loopStep_move k with
  | pollNone _ _ ht => exact hquiet (e := .main .pollFrame) (by simp) ht rfl rfl
  | @poll presentation t f _ hf ht =>
      obtain ⟨frame, -, heq⟩ := EventLoop.handOver_eq { d with transport := t } presentation f
      rw [heq]
      obtain ⟨hcount, hholds⟩ := transportStep_unread (e := .main .pollFrame) (by simp) ht
      refine ⟨hcount, fun g hg => ?_⟩
      rcases hg with ⟨h, hh, rfl⟩ | hg
      · rcases List.mem_append.mp hh with hh | hh
        · exact .inl ⟨h, hh, rfl⟩
        · rw [List.mem_singleton.mp hh]
          exact .inr (.inl hf)
      · exact .inr (hholds g hg)
  | ignored | resized | setDimensions | button | unmapNotify => exact ⟨rfl, fun _ hf => hf⟩
  | sendViewportChanged _ ht => exact hquiet (e := .main (.storeViewport _)) (by simp) ht rfl rfl
  | pointer _ _ ht => exact hquiet (e := .main (.lookupPointer _)) (by simp) ht rfl rfl
  | @transport e t _ ht =>
      refine hquiet (fun i f h => ?_) ht rfl rfl
      rw [h] at he
      cases he

/-- The reader receives a frame. -/
theorem loopStep_receive {i : UInt64} {f : Frame}
    (k : loopStep d (.transport (.reader (.receive i f))) = some u) :
    ∃ socket, d.transport.reader = .reading socket ∧
      u = { d with
        transport :=
          { d.transport with
            reader := .received socket ⟨i, f, d.transport.receivedCount⟩
            receivedCount := d.transport.receivedCount + 1 } } := by
  cases Device.loopStep_move k with
  | @transport _ t _ ht =>
      have m : Device.ReaderMove d.transport (.receive i f) t := Device.readerStep_move ht
      cases m with
      | @receive _ _ socket hr => exact ⟨socket, hr, rfl⟩

/-- A reader that reads can read any frame. -/
theorem exists_loopStep_receive {socket : Nat} (hr : d.transport.reader = .reading socket)
    (i : UInt64) (f : Frame) :
    ∃ u, loopStep d (.transport (.reader (.receive i f))) = some u := by
  have hread : Device.readerStep d.transport (.receive i f) =
      some
        { d.transport with
          reader := .received socket ⟨i, f, d.transport.receivedCount⟩
          receivedCount := d.transport.receivedCount + 1 } := by simp only [Device.readerStep, hr]
  show ∃ u, (Device.readerStep d.transport (.receive i f)).map
    (fun transport => ({ d with transport } : EventLoop β)) = some u
  rw [hread]
  exact ⟨_, rfl⟩

theorem got_receive {i : UInt64} {f : Frame} {g : Device.ReceivedFrame}
    (k : loopStep d (.transport (.reader (.receive i f))) = some u) (hg : Got u g) :
    Got d g ∨ g = ⟨i, f, d.transport.receivedCount⟩ := by
  obtain ⟨socket, -, rfl⟩ := loopStep_receive k
  rcases hg with hg | hg | hg
  · exact .inl (.inl hg)
  · exact .inl (.inr (.inl hg))
  · exact .inr (Option.some.inj hg).symm

end Device

/-! ### The frames of the host -/

theorem Quiet.issued_le {c d : Host.CurrentConnection} (h : Host.Quiet c d) :
    c.issued ≤ d.issued := by
  induction h with
  | refl => exact Nat.le_refl _
  | event _ e ih => exact ih.trans (e.apply_spec _).2.1
  | failed _ _ _ _ _ ih => exact ih

theorem deliveries_prefix {s t : FrameSender} (h : s.sent <+: t.sent) (token : Nat) :
    deliveries token s <+: deliveries token t :=
  h.filter _

section Sender

variable [Platform] {s t : FrameSender}

/-- Frames are only added, and tokens only issued. -/
theorem senderRun_grows {es : List Host.SenderEvent} (k : Run (Fn senderNext) s es t) :
    s.sent <+: t.sent ∧ s.current.issued ≤ t.current.issued := by
  refine k.invariant (I := fun t => s.sent <+: t.sent ∧ s.current.issued ≤ t.current.issued) ?_
    ⟨List.prefix_rfl, Nat.le_refl _⟩
  rintro t e u ⟨hsent, hissued⟩ k
  obtain rfl := Option.some.inj k
  rcases Host.senderStep_spec t e with ⟨-, env, hk⟩ | ⟨r, env, source, f, -, hs⟩
  · rw [hk.sent_eq]
    exact ⟨hsent, hissued.trans (Quiet.issued_le hk.quiet)⟩
  · obtain ⟨a, bytes, -, -, -, -, hcur, hadd⟩ := hs.delivered
    have hle := Quiet.issued_le (Host.Quiet.refl.applyAll (c := t.current) env.between)
    rw [hcur, hadd]
    exact ⟨hsent.trans (List.prefix_append ..), hissued.trans hle⟩

/-- The frames sent, in order: larger ids, to connections none older. -/
theorem sent_ordered (h : SenderInv s) :
    s.sent.Pairwise fun d e => d.frameId < e.frameId ∧ d.token ≤ e.token := by
  refine List.pairwise_and_iff.mpr ⟨?_, ?_⟩
  · have hids : (s.sent.map (·.frameId.toNat)).Pairwise (· < ·) := by
      rw [h.ids]
      exact List.pairwise_lt_range'
    exact (List.pairwise_map.mp hids).imp UInt64.lt_iff_toNat_lt.mpr
  · have hwhole := h.wired.sorted.sublist (List.filter_sublist (p := (·.whole)))
    rw [← Host.wholeWrites, h.whole, List.pairwise_map] at hwhole
    exact hwhole

/-- A frame to a later connection has the larger id. -/
theorem id_lt_of_token_lt (h : SenderInv s) {d e : Host.Delivery} (hd : d ∈ s.sent)
    (he : e ∈ s.sent) (hlt : d.token < e.token) : d.frameId < e.frameId := by
  obtain ⟨i, hi, rfl⟩ := List.getElem_of_mem hd
  obtain ⟨j, hj, rfl⟩ := List.getElem_of_mem he
  have hord := List.pairwise_iff_getElem.mp (sent_ordered h)
  rcases Nat.lt_trichotomy i j with hij | rfl | hji
  · exact (hord i j hi hj hij).1
  · exact absurd hlt (Nat.lt_irrefl _)
  · exact absurd (hord j i hj hi hji).2 (Nat.not_le_of_lt hlt)

/-- The frame a delivery is received as. -/
structure SentAs (d : Host.Delivery) (f : Device.ReceivedFrame) : Prop where
  frameId_eq : f.frameId = d.frameId
  encoded : encodeV2Frame d.frameId f.frame = .ok d.bytes
  described : ∃ source, d.source = some source ∧ Host.Describes f.frame source

theorem FrameEncodes.new_eq_ok {f : Device.Inbound.ReceivedFrame} {frame : Frame}
    {w : List UInt8} (h : FrameEncodes f frame w) :
    Frame.new f.width f.height f.pixelFormat f.pixels = .ok frame :=
  Frame.new_eq_ok.mpr ⟨h.width_eq.symm, h.height_eq.symm, h.pixelFormat_eq.symm, h.pixels_eq.symm⟩

theorem Carries.sentAs {d : Host.Delivery} {f : Device.Inbound.ReceivedFrame} {frame : Frame}
    (h : Carries d f) (hf : Frame.new f.width f.height f.pixelFormat f.pixels = .ok frame)
    (serial : Nat) : SentAs d ⟨f.frameId, frame, serial⟩ := by
  obtain ⟨source, g, hsource, hdesc, henc⟩ := h.encoded
  obtain rfl := Except.ok.inj (hf.symm.trans (FrameEncodes.new_eq_ok henc))
  exact ⟨h.frameId_eq, h.frameId_eq ▸ henc.encoded, source, hsource, hdesc⟩

/-- What is read at a place of a connection's stream was sent at that place. -/
theorem read_sentAs (h : SenderInv s) {token m n : Nat} {f : Device.Inbound.ReceivedFrame}
    {frame : Frame} (hf : (readFrames ⟨(Host.bytesOn token s.current.wire).take n, 0⟩).value[m]? =
      some f) (hframe : Frame.new f.width f.height f.pixelFormat f.pixels = .ok frame)
    (serial : Nat) :
    ∃ d, (deliveries token s)[m]? = some d ∧ SentAs d ⟨f.frameId, frame, serial⟩ := by
  obtain ⟨fs, tail, hfs, hwords, hbytes, htail⟩ := frames_cut h token
  obtain ⟨⟨rest, hrest⟩, -⟩ :=
    readFrames_prefix ⟨_, tail, hwords, hbytes, htail⟩ (List.take_prefix n _)
  obtain ⟨hm, -⟩ := List.getElem?_eq_some_iff.mp hf
  have hat : fs[m]? = some f := by rw [← hrest, List.getElem?_append_left hm, hf]
  obtain ⟨hlt, rfl⟩ := List.getElem?_eq_some_iff.mp hat
  have hlen := hfs.length_eq
  have hc : Carries (deliveries token s)[m] fs[m] := hfs.get (by omega) hlt
  exact ⟨_, List.getElem?_eq_getElem (by omega), hc.sentAs hframe serial⟩

end Sender

/-! ### The invariant -/

section Link

variable {β : Type} [Platform] {s t : Link β}

/-- What every step keeps: the frames read from a socket are the first of those sent on the
connection it is paired with, and there is one connection for a socket, in the same order. -/
structure LinkInv (s : Link β) : Prop where
  sender : SenderInv s.host.sender
  sockets : Sockets (s.arrived.map (·.socket)) s.device.transport
  serials : s.arrived.map (·.frame.serial) = List.range s.device.transport.receivedCount
  got : ∀ f, Got s.device f → ∃ a ∈ s.arrived, a.frame = f
  serving : ∀ k ∈ s.serving, k ∈ s.accepted
  /-- A socket that is accepted and has sent no Hello is the newest. -/
  fresh : s.host.phase = .accepted → ∀ k ∈ s.serving, ∀ p ∈ s.pairs, p.1 < k
  pairs : ∀ p ∈ s.pairs, p.1 ∈ s.accepted ∧ p.2 < s.host.sender.current.issued
  ordered : s.pairs.Pairwise fun p q => p.1 < q.1 ∧ p.2 < q.2
  paired : ∀ a ∈ s.arrived, ∃ p ∈ s.pairs, p.1 = a.socket
  first : ∀ p ∈ s.pairs, List.Forall₂ (fun d a => SentAs d a.frame)
    ((deliveries p.2 s.host.sender).take (s.arrivedOn p.1).length) (s.arrivedOn p.1)
  increasing : s.arrived.Pairwise fun a b => a.frame.frameId < b.frame.frameId

namespace LinkInv

theorem start (size : Device.Viewport) (adapter : Bool) (pixelFormats : V2PixelFormats) :
    LinkInv (.start size adapter pixelFormats : Link β) where
  sender := .init
  sockets := ⟨by rintro k ⟨⟩, by rintro k ⟨⟩, by rintro k ⟨⟩⟩
  serials := rfl
  got := by rintro f (⟨h, ⟨⟩, -⟩ | ⟨⟨⟩⟩ | ⟨⟨⟩⟩)
  serving := by rintro k ⟨⟩
  fresh := by rintro ⟨⟩
  pairs := by rintro p ⟨⟩
  ordered := .nil
  paired := by rintro a ⟨⟩
  first := by rintro p ⟨⟩
  increasing := .nil

/-- The device goes on and receives nothing. -/
theorem device (h : LinkInv s) {e : LoopEvent β} {d : EventLoop β} (he : Reads e = false)
    (k : loopStep s.device e = some d) : LinkInv { s with device := d } := by
  obtain ⟨hcount, hgot⟩ := loopStep_unread he k
  obtain ⟨es, hrun⟩ := loopStep_run k
  refine { h with
    sockets := h.sockets.run hrun
    serials := by rw [hcount]; exact h.serials
    got := fun f hf => h.got f (hgot f hf) }

/-- What was received stands when the host has sent more. -/
theorem first_of_grows (h : LinkInv s) {sender : FrameSender}
    (hs : s.host.sender.sent <+: sender.sent) {p : Nat × Nat} (hp : p ∈ s.pairs) :
    List.Forall₂ (fun d a => SentAs d a.frame)
      ((deliveries p.2 sender).take (s.arrivedOn p.1).length) (s.arrivedOn p.1) := by
  have hfirst := h.first p hp
  have hlen := hfirst.length_eq
  rw [List.length_take] at hlen
  obtain ⟨more, hmore⟩ := deliveries_prefix hs p.2
  rwa [← hmore, List.take_append_of_le_length (by omega)]

/-- The host goes on, and accepts nobody. -/
theorem host (h : LinkInv s) {e : HostEvent} {host : HostState}
    (hphase : host.phase = .accepted → s.host.phase = .accepted)
    (k : hostStep s.host e = some host) (read : Nat) : LinkInv { s with host, read } := by
  obtain ⟨es, hrun⟩ := hostStep_sender k
  obtain ⟨hsent, hissued⟩ := senderRun_grows hrun
  refine { h with
    sender := hrun.invariant (fun hs hk => hs.step hk) h.sender
    fresh := fun hp => h.fresh (hphase hp)
    pairs := fun p hp => ⟨(h.pairs p hp).1, lt_of_lt_of_le (h.pairs p hp).2 hissued⟩
    first := fun p hp => h.first_of_grows hsent hp }

/-- The host accepts a connection. -/
theorem accept (h : LinkInv s) {socket : Option Nat} {host : HostState}
    (hs : ∀ k ∈ socket, ∀ j ∈ s.accepted, j < k) (k : hostStep s.host .accept = some host) :
    LinkInv
      { s with
        host, accepted := s.accepted ++ socket.toList, serving := socket, read := 0 } := by
  have hsame : host.sender = s.host.sender := by
    cases Host.hostStep_move k with
    | accept => rfl
  refine { h with
    sender := hsame ▸ h.sender
    serving := fun j hj => List.mem_append_right _ (Option.mem_toList.mpr hj)
    fresh := fun _ j hj p hp => hs j hj p.1 (h.pairs p hp).1
    pairs := fun p hp => ⟨List.mem_append_left _ (h.pairs p hp).1, hsame ▸ (h.pairs p hp).2⟩
    first := fun p hp => by
      rw [hsame]
      exact h.first p hp }

/-- The host reads a Hello: a new connection, on the newest socket. -/
theorem hello (h : LinkInv s) {socket : Nat} {formats : V2PixelFormats} {v : Host.Viewport}
    {host : HostState} (hs : s.serving = some socket)
    (k : hostStep s.host (.install formats v) = some host) :
    LinkInv { s with host, pairs := s.pairs ++ [(socket, s.host.sender.current.issued)] } := by
  obtain ⟨es, hrun⟩ := hostStep_sender k
  obtain ⟨hsent, -⟩ := senderRun_grows hrun
  obtain ⟨hphase, hafter, hissued⟩ : s.host.phase = .accepted ∧ host.phase ≠ .accepted ∧
      host.sender.current.issued = s.host.sender.current.issued + 1 := by
    cases Host.hostStep_move k with
    | install hp => exact ⟨hp, by rintro ⟨⟩, rfl⟩
  have hnew := h.fresh hphase socket hs
  have hnone : s.arrivedOn socket = [] := by
    refine List.filter_eq_nil_iff.mpr fun a ha => ?_
    obtain ⟨p, hp, hpa⟩ := h.paired a ha
    have := hnew p hp
    simp only [decide_eq_true_eq]
    omega
  refine { h with
    sender := hrun.invariant (fun hs hk => hs.step hk) h.sender
    fresh := fun hp => absurd hp hafter
    pairs := fun p hp => ?_
    ordered := ?_
    paired := fun a ha => ?_
    first := fun p hp => ?_ }
  · rw [hissued]
    rcases List.mem_append.mp hp with hp | hp
    · exact ⟨(h.pairs p hp).1, Nat.lt_succ_of_lt (h.pairs p hp).2⟩
    · rw [List.mem_singleton.mp hp]
      exact ⟨h.serving socket hs, Nat.lt_succ_self _⟩
  · refine List.pairwise_append.mpr ⟨h.ordered, List.pairwise_singleton _ _, fun p hp q hq => ?_⟩
    rw [List.mem_singleton.mp hq]
    exact ⟨hnew p hp, (h.pairs p hp).2⟩
  · obtain ⟨p, hp, hpa⟩ := h.paired a ha
    exact ⟨p, List.mem_append_left _ hp, hpa⟩
  · rcases List.mem_append.mp hp with hp | hp
    · exact h.first_of_grows hsent hp
    · obtain rfl := List.mem_singleton.mp hp
      show List.Forall₂ _ (List.take (s.arrivedOn socket).length _) (s.arrivedOn socket)
      rw [hnone]
      exact .nil

/-- Two connections are one, or the later has the larger socket and the larger token. -/
theorem pair_cases (h : LinkInv s) {p q : Nat × Nat} (hp : p ∈ s.pairs) (hq : q ∈ s.pairs) :
    p = q ∨ (p.1 < q.1 ∧ p.2 < q.2) ∨ (q.1 < p.1 ∧ q.2 < p.2) := by
  obtain ⟨i, hi, rfl⟩ := List.getElem_of_mem hp
  obtain ⟨j, hj, rfl⟩ := List.getElem_of_mem hq
  have hord := List.pairwise_iff_getElem.mp h.ordered
  rcases Nat.lt_trichotomy i j with hij | rfl | hji
  · exact .inr (.inl (hord i j hi hj hij))
  · exact .inl rfl
  · exact .inr (.inr (hord j i hj hi hji))

/-- A frame that was read was sent, among the first of its connection. -/
theorem sent_of_arrived (h : LinkInv s) {a : Arrival} (ha : a ∈ s.arrived) :
    ∃ p ∈ s.pairs, p.1 = a.socket ∧
      ∃ d ∈ (deliveries p.2 s.host.sender).take (s.arrivedOn p.1).length, SentAs d a.frame := by
  obtain ⟨p, hp, hpa⟩ := h.paired a ha
  have hmem : a ∈ s.arrivedOn p.1 := List.mem_filter.mpr ⟨ha, by simpa using hpa.symm⟩
  obtain ⟨i, hi, rfl⟩ := List.getElem_of_mem hmem
  have hfirst := h.first p hp
  have hlen := hfirst.length_eq
  exact ⟨p, hp, hpa, _, List.getElem_mem (by omega), hfirst.get (by omega) hi⟩

/-- The next frame of a connection has a larger id than every frame read before. -/
theorem next_id (h : LinkInv s) {socket token : Nat} (hr : readerSocket? s.device.transport.reader =
      some socket) (hp : (socket, token) ∈ s.pairs) {d : Host.Delivery}
    (hd : (deliveries token s.host.sender)[(s.arrivedOn socket).length]? = some d) {a : Arrival}
    (ha : a ∈ s.arrived) : a.frame.frameId < d.frameId := by
  obtain ⟨q, hq, hqa, e, he, hsent⟩ := h.sent_of_arrived ha
  rw [hsent.frameId_eq]
  have hle : a.socket ≤ socket :=
    (h.sockets.reader socket hr).2 a.socket (List.mem_map.mpr ⟨a, ha, rfl⟩)
  have hmem := List.mem_filter.mp (List.mem_of_getElem? hd)
  have hemem := List.mem_filter.mp (List.mem_of_mem_take he)
  rcases h.pair_cases hq hp with rfl | ⟨-, hlt⟩ | ⟨hlt, -⟩
  · -- the same connection: `d` is behind those read from it
    have hord : (deliveries token s.host.sender).Pairwise fun d e => d.frameId < e.frameId :=
      ((sent_ordered h.sender).imp And.left).sublist List.filter_sublist
    obtain ⟨i, hi, rfl⟩ := List.getElem_of_mem he
    obtain ⟨hm, rfl⟩ := List.getElem?_eq_some_iff.mp hd
    have hi : i < min (s.arrivedOn socket).length (deliveries token s.host.sender).length := by
      rwa [List.length_take] at hi
    rw [List.getElem_take]
    exact List.pairwise_iff_getElem.mp hord i _ (by omega) hm (by omega)
  · have htoken : e.token < d.token := by
      rw [of_decide_eq_true hemem.2, of_decide_eq_true hmem.2]
      exact hlt
    exact id_lt_of_token_lt h.sender hemem.1 hmem.1 htoken
  · have hlt : socket < q.1 := hlt
    omega

/-- The device reads a frame. -/
theorem receive (h : LinkInv s) {n socket token : Nat} {f : Device.Inbound.ReceivedFrame}
    {frame : Frame} {d : EventLoop β} (hr : s.device.transport.reader = .reading socket)
    (hp : s.pairs.lookup socket = some token)
    (hf : (readFrames (s.output token n)).value[(s.arrivedOn socket).length]? = some f)
    (hframe : Frame.new f.width f.height f.pixelFormat f.pixels = .ok frame)
    (hd : loopStep s.device (.transport (.reader (.receive f.frameId frame))) = some d) :
    LinkInv
      { s with
        device := d
        arrived := s.arrived ++ [⟨socket, f.frameId, frame,
          s.device.transport.receivedCount⟩] } := by
  have hgot : ∀ g, Got d g → Got s.device g ∨ g = _ := fun g hg => got_receive hd hg
  obtain ⟨socket', hr', rfl⟩ := loopStep_receive hd
  obtain rfl := ReaderPc.reading.inj (hr.symm.trans hr')
  obtain ⟨e, he, hsent⟩ := read_sentAs h.sender hf hframe s.device.transport.receivedCount
  have hsocket : readerSocket? s.device.transport.reader = some socket := by rw [hr]; rfl
  have hpair : (socket, token) ∈ s.pairs := by
    obtain ⟨l₁, l₂, hl, -⟩ := List.lookup_eq_some_iff.mp hp
    rw [hl]
    simp
  refine { h with
    sockets := ?_
    serials := ?_
    got := fun g hg => ?_
    paired := fun a ha => ?_
    first := fun p hmem => ?_
    increasing := ?_ }
  · rw [List.map_append]
    refine (h.sockets.concat hsocket).mono rfl (fun k hk => ?_) fun _ hk => hk
    rw [hr]
    exact hk
  · rw [List.map_append, h.serials, List.range_succ]
    rfl
  · rcases hgot g hg with hg | rfl
    · obtain ⟨a, ha, rfl⟩ := h.got g hg
      exact ⟨a, List.mem_append_left _ ha, rfl⟩
    · exact ⟨_, List.mem_append_right _ (List.mem_singleton.mpr rfl), rfl⟩
  · rcases List.mem_append.mp ha with ha | ha
    · exact h.paired a ha
    · rw [List.mem_singleton.mp ha]
      exact ⟨_, hpair, rfl⟩
  · have hold := h.first p hmem
    by_cases hk : p.1 = socket
    · obtain rfl : p = (socket, token) := by
        rcases h.pair_cases hmem hpair with rfl | ⟨hlt, -⟩ | ⟨hlt, -⟩
        · rfl
        · have hlt : p.1 < socket := hlt
          omega
        · have hlt : socket < p.1 := hlt
          omega
      have harrived : ∀ a : Arrival, a.socket = socket →
          Link.arrivedOn { s with arrived := s.arrived ++ [a] } socket =
            s.arrivedOn socket ++ [a] := by
        intro a ha
        simp [Link.arrivedOn, ha]
      show List.Forall₂ _ (List.take (Link.arrivedOn { s with arrived := _ } socket).length _)
        (Link.arrivedOn { s with arrived := _ } socket)
      rw [harrived _ rfl, List.length_append, List.length_singleton, List.take_add_one, he]
      exact List.rel_append hold (.cons hsent .nil)
    · have harrived : ∀ a : Arrival, a.socket = socket →
          Link.arrivedOn { s with arrived := s.arrived ++ [a] } p.1 = s.arrivedOn p.1 := by
        intro a ha
        simp [Link.arrivedOn, ha, Ne.symm hk]
      show List.Forall₂ _ (List.take (Link.arrivedOn { s with arrived := _ } p.1).length _)
        (Link.arrivedOn { s with arrived := _ } p.1)
      rw [harrived _ rfl]
      exact hold
  · refine List.pairwise_append.mpr ⟨h.increasing, List.pairwise_singleton _ _, fun a ha b hb => ?_⟩
    have hid : f.frameId = e.frameId := hsent.frameId_eq
    rw [List.mem_singleton.mp hb, hid]
    exact h.next_id hsocket hpair he ha

/-- **One step of the link.** -/
theorem step (h : LinkInv s) {e : LinkEvent β} (k : linkStep s e = some t) : LinkInv t := by
  cases linkStep_move k with
  | device he hd => exact h.device he hd
  | receive hr hp hf hframe hd => exact h.receive hr hp hf hframe hd
  | @host e host he hh =>
      refine h.host (fun hphase => ?_) hh s.read
      cases Host.hostStep_move hh with
      | accept => cases he
      | stdinSend | stdinPost => exact hphase
      | _ => cases hphase
  | accept hs hh => exact h.accept hs hh
  | hello hs _ hh => exact h.hello hs hh
  | @message n socket m host _ _ hh =>
      refine h.host (fun hphase => ?_) hh _
      cases m with
      | pointer p =>
          cases Host.hostStep_move hh with
          | pointer => cases hphase
      | viewportChanged v =>
          cases Host.hostStep_move hh with
          | viewportChanged => cases hphase

theorem run (h : LinkInv s) {es : List (LinkEvent β)} (k : Run (Fn linkStep) s es t) : LinkInv t :=
  k.invariant (fun hi hk => hi.step hk) h

/-- Frames are numbered in the order they were read. -/
theorem arrived_at (h : LinkInv s) {a : Arrival} (ha : a ∈ s.arrived) :
    s.arrived[a.frame.serial]? = some a := by
  obtain ⟨i, hi, rfl⟩ := List.getElem_of_mem ha
  have hserial := congrArg (·[i]?) h.serials
  have hlen : s.arrived.length = s.device.transport.receivedCount := by
    simpa using congrArg List.length h.serials
  have hi' : i < s.device.transport.receivedCount := by omega
  simp only [List.getElem?_map, List.getElem?_eq_getElem hi, Option.map_some,
    List.getElem?_range hi', Option.some.injEq] at hserial
  rw [hserial, List.getElem?_eq_getElem hi]

/-- A frame the device has was sent, and one received later has the larger id. -/
theorem handed_ordered (h : LinkInv s) (hl : Device.LoopInv s.device) :
    s.device.handed.Pairwise fun a b => a.frame.frameId < b.frame.frameId := by
  have hserials : s.device.handed.Pairwise fun a b => a.frame.serial < b.frame.serial :=
    List.pairwise_map.mp (List.pairwise_append.mp hl.ordered.1).1
  refine hserials.imp_of_mem fun {a b} ha hb hlt => ?_
  obtain ⟨x, hx, hxa⟩ := h.got a.frame (.inl ⟨a, ha, rfl⟩)
  obtain ⟨y, hy, hyb⟩ := h.got b.frame (.inl ⟨b, hb, rfl⟩)
  rw [← hxa, ← hyb] at hlt ⊢
  obtain ⟨hi, hxi⟩ := List.getElem?_eq_some_iff.mp (h.arrived_at hx)
  obtain ⟨hj, hyj⟩ := List.getElem?_eq_some_iff.mp (h.arrived_at hy)
  have hids := List.pairwise_iff_getElem.mp h.increasing _ _ hi hj hlt
  rwa [hxi, hyj] at hids

end LinkInv

/-- What the device has handed over was sent. -/
theorem LinkInv.sent_of_handed (h : LinkInv s) {a : Device.Handed} (ha : a ∈ s.device.handed) :
    ∃ d ∈ s.host.sender.sent, SentAs d a.frame := by
  obtain ⟨x, hx, hxa⟩ := h.got a.frame (.inl ⟨a, ha, rfl⟩)
  obtain ⟨p, -, -, d, hd, hsent⟩ := h.sent_of_arrived hx
  exact ⟨d, (List.mem_filter.mp (List.mem_of_mem_take hd)).1, hxa ▸ hsent⟩

/-- **The panel never goes back.**  In every run of device and host, over all their connections:
what the device hands to its backend are frames the host has sent, of the pixels, the description
and the id they were sent with and the size of the viewport, in strictly increasing order of ids;
and what it has read from a connection are the first frames the host sent on it, none of them
missing, changed or twice. -/
theorem panel_frames {size : Device.Viewport} {adapter : Bool} {pixelFormats : V2PixelFormats}
    {es : List (LinkEvent β)} (h : Run (Fn linkStep) (.start size adapter pixelFormats) es s) :
    s.device.handed.Pairwise (fun a b => a.frame.frameId < b.frame.frameId) ∧
      (∀ a ∈ s.device.handed, a.frame.dimensions = a.viewport ∧
        ∃ d ∈ s.host.sender.sent, SentAs d a.frame) ∧
      ∀ p ∈ s.pairs, ∃ n, List.Forall₂ (fun d a => SentAs d a.frame)
        ((deliveries p.2 s.host.sender).take n) (s.arrivedOn p.1) := by
  have hi : LinkInv s := (LinkInv.start size adapter pixelFormats).run h
  obtain ⟨fs, hrun⟩ := link_device h
  have hl : Device.LoopInv s.device := (Device.LoopInv.start size adapter pixelFormats).run hrun
  exact ⟨hi.handed_ordered hl, fun a ha => ⟨hl.handed a ha, hi.sent_of_handed ha⟩,
    fun p hp => ⟨_, hi.first p hp⟩⟩

/-- A device that has read nothing reads the one frame that was sent. -/
theorem LinkInv.receive_one {s : Link β} (inv : LinkInv s) {socket token : Nat} {e : Host.Delivery}
    (hr : s.device.transport.reader = .reading socket) (hp : s.pairs.lookup socket = some token)
    (ha : s.arrived = []) (he : deliveries token s.host.sender = [e]) :
    ∃ n f d, linkStep s (.receive n) = some { s with device := d, arrived := [⟨socket, f⟩] } ∧
      loopStep s.device (.transport (.reader (.receive f.frameId f.frame))) = some d ∧
      SentAs e f := by
  -- all of it has arrived
  obtain ⟨fs, tail, hfs, hwords, hbytes, htail⟩ := frames_cut inv.sender token
  rw [he] at hfs
  obtain ⟨f, rfl⟩ := List.length_eq_one_iff.mp hfs.length_eq.symm
  have hvalue : (readFrames ⟨Host.bytesOn token s.host.sender.current.wire, 0⟩).value = [f] :=
    (Device.Inbound.frameReader.readAll_torn (r := ⟨_, 0⟩) hwords htail hbytes).1
  obtain ⟨n, hfirst⟩ : ∃ n, (readFrames (s.output token n)).value[(s.arrivedOn socket).length]? =
      some f := by
    refine ⟨(Host.bytesOn token s.host.sender.current.wire).length, ?_⟩
    rw [Link.output, List.take_length, hvalue, Link.arrivedOn, ha]
    rfl
  have hc := (List.forall₂_cons.mp hfs).1
  obtain ⟨source, frame, -, -, hw⟩ := hc.encoded
  have hframe := FrameEncodes.new_eq_ok hw
  obtain ⟨d, hd⟩ := exists_loopStep_receive hr f.frameId frame
  refine ⟨n, ⟨f.frameId, frame, s.device.transport.receivedCount⟩, d, ?_, hd, hc.sentAs hframe _⟩
  simp only [linkStep, hr, hp, hfirst, hframe, hd, Option.map_some, ha, List.nil_append]

end Link

/-- A device with room for one pixel is sent the application. -/
def greetedLink : List (LinkEvent Unit) :=
  [.device (.transport (.main .promote)), .accept (some 0), .hello 20,
    .host (.helloFrame .accepted)]

/-- It reads the application. -/
theorem greetedLink_receive :
    ∃ (s : Link Unit) (n : Nat) (e : Host.Delivery) (f : Device.ReceivedFrame) (d : EventLoop Unit),
      exec (@linkStep Unit .usize64) (.start (1, 73) true .MONO1) greetedLink = some s ∧
      @linkStep Unit .usize64 s (.receive n) =
        some { s with device := d, arrived := [⟨0, f⟩] } ∧
      @loopStep Unit .usize64 s.device (.transport (.reader (.receive f.frameId f.frame))) =
        some d ∧
      deliveries 0 s.host.sender = [e] ∧ e.source = some (.application (1, 1)) ∧ @SentAs .usize64 e f := by
  let _ : Platform := .usize64
  obtain ⟨s, hs⟩ : ∃ s, exec linkStep (.start (1, 73) true .MONO1) greetedLink = some s :=
    ⟨_, rfl⟩
  have inv : LinkInv s := (LinkInv.start (1, 73) true .MONO1).run (run_of_exec hs)
  obtain ⟨hr, hp, ha⟩ : s.device.transport.reader = .reading 0 ∧ s.pairs.lookup 0 = some 0 ∧
      s.arrived = [] := by
    obtain rfl := Option.some.inj hs
    exact ⟨rfl, rfl, rfl⟩
  have hsource : (deliveries 0 s.host.sender).map (·.source) = [some (.application (1, 1))] := by
    have h : (exec linkStep (.start (1, 73) true .MONO1) greetedLink).map
        (fun s => (deliveries 0 s.host.sender).map (·.source)) =
          some [some (.application (1, 1))] := by
      decide +kernel
    rw [hs] at h
    exact Option.some.inj h
  obtain ⟨e, he, hsrc⟩ := List.map_eq_singleton_iff.mp hsource
  obtain ⟨n, f, d, hreceive, hd, hsent⟩ := inv.receive_one hr hp ha he
  exact ⟨s, n, e, f, d, hs, hreceive, hd, he, hsrc, hsent⟩

theorem panel_frames_polled :
    ∃ (s t : Link Unit) (n : Nat),
      exec (@linkStep Unit .usize64) (.start (1, 73) true .MONO1) greetedLink = some s ∧
      Run (Fn (@linkStep Unit .usize64)) s [.receive n, .device (.transport (.reader .publish)),
        .device (.poll (.uploaded ()))] t ∧
      t.device.handed.length = 1 ∧
      ∀ a ∈ t.device.handed, ∃ d ∈ t.host.sender.sent, @SentAs .usize64 d a.frame := by
  let _ : Platform := .usize64
  obtain ⟨s, n, e, f, d, hs, hreceive, hd, -, hsrc, hsent⟩ := greetedLink_receive
  obtain ⟨u, d', hu, hsize, hnone, hd'⟩ : ∃ u d',
      loopStep d (.transport (.reader .publish)) = some u ∧
        d.transport.frames.viewport = (1, 1) ∧ u.handed = [] ∧
        loopStep u (.poll (.uploaded ())) = some d' := by
    obtain rfl := Option.some.inj hs
    obtain rfl := Option.some.inj hd
    exact ⟨_, _, rfl, rfl, rfl, rfl⟩
  have hdim : Device.ReceivedFrame.dimensions
      ⟨f.frameId, f.frame, s.device.transport.receivedCount⟩ = d.transport.frames.viewport := by
    obtain ⟨source, hsource, hdesc⟩ := hsent.described
    obtain rfl := Option.some.inj (hsource.symm.trans hsrc)
    rw [hsize]
    exact hdesc.dimensions.1.symm
  obtain ⟨g, hg⟩ : ∃ g, u.transport.frames.pending = some g := by
    obtain ⟨socket, -, rfl⟩ := loopStep_receive hd
    exact ⟨_, Device.loopStep_publish (f := ⟨_, _, _⟩) rfl hdim hu⟩
  have hstep : ∀ {l : Link Unit} {e : LoopEvent Unit} {v : EventLoop Unit}, Reads e = false →
      loopStep l.device e = some v → linkStep l (.device e) = some { l with device := v } := by
    intro l e v he hv
    simp only [linkStep, he, Bool.false_eq_true, if_false, hv, Option.map_some]
  have hrun : Run (Fn linkStep) s [.receive n, .device (.transport (.reader .publish)),
      .device (.poll (.uploaded ()))] _ :=
    .cons hreceive (.cons (hstep rfl hu) (.one (hstep rfl hd')))
  have hframes := (panel_frames ((run_of_exec hs).trans hrun)).2.1
  refine ⟨s, _, n, hs, hrun, ?_, fun a ha => (hframes a ha).2⟩
  show d'.handed.length = 1
  rw [Device.loopStep_poll hg hd', hnone]
  rfl

end PaperPad.System
