import PaperPad.Device.Moves

/-!
# Device — Agreement

What the host takes for the device's viewport is the last one announced on its connection, by the
Hello or a later ViewportChanged.  While a connection is current, the messages written to it,
followed by those still on their way, announce the remote viewport, unless `send_viewport_changed`
still has to say it; and every pointer among them comes after an announcement of the viewport it
was queued under (`AgreementInv`).

The reconnector reads the viewport before it installs the connection.  A change in between that
has already looked for a connection is announced to none (`InstallOk` rules it out).  And a change
whose socket cannot be duplicated is never written (`Duplicates` rules it out).
-/

namespace PaperPad.Device

open Protocol Transition

/-! ### Announcements -/

/-- The viewport announced once a record is on a socket. -/
def announce (current : Option Viewport) (r : Record) : Option Viewport :=
  if r.whole then
    match r.message with
    | .hello h => some (h.viewportWidth, h.viewportHeight)
    | .viewportChanged v => some (v.width, v.height)
    | .pointer _ | .frame _ _ => current
  else current

/-- The last viewport announced. -/
def announced (l : List Record) : Option Viewport := l.foldl announce none

/-- Every pointer comes after an announcement of the viewport it was queued under. -/
def Coherent : Option Viewport → List Record → Prop
  | _, [] => True
  | current, r :: l =>
      (∀ p, r.message = .pointer p → current = some r.viewport) ∧ Coherent (announce current r) l

/-- What comes after is judged by what was announced before. -/
theorem coherent_append {l l' : List Record} :
    ∀ {current : Option Viewport},
      Coherent current (l ++ l') ↔ Coherent current l ∧ Coherent (l.foldl announce current) l' := by
  induction l with
  | nil => simp [Coherent]
  | cons r l ih => simp [Coherent, ih, and_assoc]

theorem coherent_singleton {current : Option Viewport} {r : Record} :
    Coherent current [r] ↔ ∀ p, r.message = .pointer p → current = some r.viewport := by
  simp [Coherent]

/-- The records of one socket. -/
def onToken (token : Nat) (l : List Record) : List Record := l.filter fun r => r.token = token

theorem onToken_append (token : Nat) (l l' : List Record) :
    onToken token (l ++ l') = onToken token l ++ onToken token l' := List.filter_append ..

theorem onToken_cons_self {token : Nat} {r : Record} (h : r.token = token) (l : List Record) :
    onToken token (r :: l) = r :: onToken token l := by
  simp [onToken, h]

theorem onToken_cons_of_ne {token : Nat} {r : Record} (h : r.token ≠ token) (l : List Record) :
    onToken token (r :: l) = onToken token l := by
  simp [onToken, h]

theorem onToken_concat_self {token : Nat} {r : Record} (h : r.token = token) (l : List Record) :
    onToken token (l ++ [r]) = onToken token l ++ [r] := by
  rw [onToken_append, onToken_cons_self h]
  rfl

theorem onToken_concat_of_ne {token : Nat} {r : Record} (h : r.token ≠ token) (l : List Record) :
    onToken token (l ++ [r]) = onToken token l := by
  rw [onToken_append, onToken_cons_of_ne h]
  exact List.append_nil _

theorem onToken_eq_nil {token : Nat} {l : List Record} (h : ∀ r ∈ l, r.token ≠ token) :
    onToken token l = [] :=
  List.filter_eq_nil_iff.mpr fun r hr => by simpa using h r hr

@[simp] theorem writeAll_token {token : Nat} {m : Message} {v : Viewport} {outcome : WriteOutcome} :
    (writeAll token m v outcome).token = token := by
  cases outcome <;> rfl

@[simp] theorem writeAll_message {token : Nat} {m : Message} {v : Viewport}
    {outcome : WriteOutcome} : (writeAll token m v outcome).message = m := by
  cases outcome <;> rfl

@[simp] theorem writeAll_viewport {token : Nat} {m : Message} {v : Viewport}
    {outcome : WriteOutcome} : (writeAll token m v outcome).viewport = v := by
  cases outcome <;> rfl

/-! ### What a state owes -/

/-- The record of a message on its way. -/
def QueuedOutbound.record (o : QueuedOutbound) : Record :=
  writeAll o.connection o.message o.viewport .written

@[simp] theorem record_token (o : QueuedOutbound) : o.record.token = o.connection := writeAll_token

/-- The message the writer holds. -/
def WriterPc.outbound? : WriterPc → Option QueuedOutbound
  | holding outbound | writing outbound => some outbound
  | idle | failed _ | ended => none

/-- The messages on their way, in order. -/
def Transport.pending (t : Transport) : List Record :=
  (t.writer.outbound?.toList ++ t.queue).map QueuedOutbound.record

/-- The viewport that `send_viewport_changed` is about. -/
def MainPc.viewport? : MainPc → Option Viewport
  | stored viewport _ | announcing viewport | announceTo viewport _ => some viewport
  | _ => none

/-- The connection the main thread has looked up. -/
def MainPc.token? : MainPc → Option Nat
  | announceTo _ token | pointerTo _ token => some token
  | _ => none

/-- A changed viewport is stored, and no connection has been looked up for it. -/
def MainPc.Unannounced : MainPc → Prop
  | stored viewport previous => viewport ≠ previous
  | announcing _ => True
  | _ => False

/-- A changed viewport is still to be announced to this connection, or the connection closed. -/
def MainPc.Owes (token : Nat) : MainPc → Prop
  | stored viewport previous => viewport ≠ previous
  | announcing _ | announceFailed => True
  | announceTo _ k => k = token
  | _ => False

/-- A change not yet looked up is owed to every connection. -/
theorem MainPc.owes_of_unannounced {pc : MainPc} {token : Nat} (h : pc.Unannounced) :
    pc.Owes token := by
  cases pc <;> first | exact h | exact h.elim

/-- The reconnector has closed the old connection and installed no new one. -/
def ReconnectorPc.Offline : ReconnectorPc → Prop
  | retrying | connected _ | viewportRead _ _ | greeted _ _ => True
  | _ => False

/-- The socket the reconnector is about to install. -/
def ReconnectorPc.socket? : ReconnectorPc → Option Nat
  | connected socket | viewportRead socket _ | greeted socket _ => some socket
  | _ => none

/-- A socket that is not installed is not current. -/
theorem ReconnectorPc.offline_of_socket {pc : ReconnectorPc} {k : Nat} (h : pc.socket? = some k) :
    pc.Offline := by
  cases pc <;> trivial

/-- The same, if it has not been written to. -/
def ReconnectorPc.unwritten? : ReconnectorPc → Option Nat
  | connected socket | viewportRead socket _ => some socket
  | _ => none

/-- The condition on a step: a connection is installed with the viewport its Hello announced, or
with a change on its way. -/
def InstallOk (t : Transport) (e : TransportEvent) : Prop :=
  e = .reconnector .install → ∀ socket viewport, t.reconnector = .greeted socket viewport →
    viewport = t.remoteViewport ∨ t.main.Unannounced

/-- The other one: the writer can duplicate the socket of the message it holds. -/
def Duplicates (e : TransportEvent) : Prop := e ≠ .writer (.cloneStream false)

instance (e : TransportEvent) : Decidable (Duplicates e) := inferInstanceAs (Decidable (e ≠ _))

theorem ReconnectorPc.socket_of_unwritten {pc : ReconnectorPc} {k : Nat}
    (h : pc.unwritten? = some k) : pc.socket? = some k := by
  cases pc <;> first | exact h | cases h

/-! ### The invariant -/

/-- What a connection has been given, and what is on its way to it. -/
def Transport.stream (t : Transport) (token : Nat) : List Record :=
  onToken token t.wire ++ onToken token t.pending

/-- The messages of a connection are coherent, and announce the remote viewport unless it is
owed. -/
structure Live (t : Transport) (token : Nat) : Prop where
  coherent : Coherent none (t.stream token)
  agrees : ¬ t.main.Owes token → announced (t.stream token) = some t.remoteViewport

theorem announced_concat (l : List Record) (r : Record) :
    announced (l ++ [r]) = announce (announced l) r :=
  List.foldl_concat ..

/-- What is queued is queued last. -/
theorem Transport.enqueueOutbound_eq_ok {t : Transport} {o : QueuedOutbound}
    {queue : List QueuedOutbound} (h : t.enqueueOutbound o = .ok queue) :
    t.queue ++ [o] = queue := by
  simp only [enqueueOutbound] at h
  split at h
  · cases h
  · split at h <;> cases h
    rfl

theorem Transport.pending_enqueue (t : Transport) (o : QueuedOutbound) (main : MainPc) :
    pending { t with queue := t.queue ++ [o], main } = t.pending ++ [o.record] := by
  simp [pending]

/-- What the writer holds comes before what is queued. -/
theorem Transport.pending_of_some {t : Transport} {o : QueuedOutbound}
    (h : t.writer.outbound? = some o) :
    t.pending = o.record :: t.queue.map QueuedOutbound.record := by
  simp [pending, h]

theorem Transport.pending_of_none {t : Transport} (h : t.writer.outbound? = none) :
    t.pending = t.queue.map QueuedOutbound.record := by
  simp [pending, h]

/-- A connection given nothing, whose viewport is announced as before. -/
theorem Live.mono {t u : Transport} {token : Nat} (h : Live t token)
    (hs : u.stream token = t.stream token) (hv : u.remoteViewport = t.remoteViewport)
    (ho : t.main.Owes token → u.main.Owes token) : Live u token where
  coherent := hs ▸ h.coherent
  agrees hu := by rw [hs, hv]; exact h.agrees (mt ho hu)

/-- The writer takes a message from the queue, or keeps the one it has. -/
theorem Live.setWriter {t : Transport} {token : Nat} (h : Live t token)
    {queue : List QueuedOutbound} {writer : WriterPc}
    (hp : Transport.pending { t with queue, writer } = t.pending) :
    Live { t with queue, writer } token :=
  h.mono (congrArg (onToken token t.wire ++ onToken token ·) hp) rfl id

/-- What every step keeps: the token of each thread is an old or the current one, and what a
connection was given, or is going to be, is coherent. -/
structure AgreementInv (t : Transport) : Prop where
  started : t.reconnector ≠ .absent
  main_viewport : ∀ v, t.main.viewport? = some v → t.remoteViewport = v
  main_lt : ∀ k, t.main.token? = some k → k < t.sockets
  active_lt : ∀ k, t.connection.active = some k → k < t.sockets
  failed_lt : ∀ k, t.writer = .failed k → k < t.sockets
  wire_lt : ∀ r ∈ t.wire, r.token < t.sockets
  pending_lt : ∀ r ∈ t.pending, r.token < t.sockets
  offline : t.reconnector.Offline → t.connection.active = none
  socket : ∀ k, t.reconnector.socket? = some k → k < t.sockets ∧ t.main.token? ≠ some k ∧
    t.writer ≠ .failed k ∧ ∀ r ∈ t.pending, r.token ≠ k
  unwritten : ∀ k, t.reconnector.unwritten? = some k → ∀ r ∈ t.wire, r.token ≠ k
  greeted : ∀ k v, t.reconnector = .greeted k v →
    onToken k t.wire = [writeAll k (helloMessage v t.pixelFormats) v .written]
  live : ∀ k, t.connection.active = some k → t.writer ≠ .failed k → t.writer ≠ .ended → Live t k
  writing : ∀ o, t.writer = .writing o →
    Coherent none (onToken o.connection t.wire ++ [o.record])
  wire : ∀ k, Coherent none (onToken k t.wire)

/-- The device once `from_stream` has succeeded. -/
def Transport.init (viewport : Viewport) (pixelFormats : V2PixelFormats) : Transport :=
  (start viewport pixelFormats).fromStream

/-- It holds of a transport that is not online yet. -/
theorem AgreementInv.init (v : Viewport) (formats : V2PixelFormats) :
    AgreementInv (.init v formats) where
  started := nofun
  main_viewport := nofun
  main_lt := nofun
  active_lt := by rintro _ ⟨⟩; exact Nat.zero_lt_one
  failed_lt := nofun
  wire_lt := by rintro _ (_ | ⟨_, ⟨⟩⟩); exact Nat.zero_lt_one
  pending_lt := nofun
  offline := nofun
  socket := nofun
  unwritten := nofun
  greeted := nofun
  live := by
    rintro _ ⟨⟩ - -
    exact ⟨⟨nofun, trivial⟩, fun _ => rfl⟩
  writing := nofun
  wire k := by
    by_cases hk : k = 0
    · subst hk; exact ⟨nofun, trivial⟩
    · have : onToken k (Transport.init v formats).wire = [] :=
        onToken_eq_nil (by rintro _ (_ | ⟨_, ⟨⟩⟩); exact fun h => hk h.symm)
      rw [this]
      trivial

/-! ### Steps -/

namespace AgreementInv

variable {t u : Transport}

/-- A message queued by the main thread, for the connection it has looked up. -/
theorem enqueue (h : AgreementInv t) {o : QueuedOutbound} {queue : List QueuedOutbound}
    (hq : t.enqueueOutbound o = .ok queue) (hm : t.main.token? = some o.connection)
    (hlive : Live t o.connection →
      Coherent none (t.stream o.connection ++ [o.record]) ∧
        announced (t.stream o.connection ++ [o.record]) = some t.remoteViewport)
    (hother : ∀ k, k ≠ o.connection → ¬ t.main.Owes k) :
    AgreementInv { t with queue, main := .idle } := by
  obtain rfl := Transport.enqueueOutbound_eq_ok hq
  have hpending : ∀ r ∈ Transport.pending { t with queue := t.queue ++ [o], main := .idle },
      r ∈ t.pending ∨ r = o.record := by
    intro r hr
    rw [Transport.pending_enqueue] at hr
    rcases List.mem_append.mp hr with hr | hr
    · exact .inl hr
    · exact .inr (List.mem_singleton.mp hr)
  refine { h with
    main_viewport := nofun
    main_lt := nofun
    pending_lt := fun r hr => ?_
    socket := fun k hk => ⟨(h.socket k hk).1, nofun, (h.socket k hk).2.2.1, fun r hr => ?_⟩
    live := fun k hk hf he => ?_ }
  · rcases hpending r hr with hr | rfl
    · exact h.pending_lt r hr
    · exact (record_token o) ▸ h.main_lt _ hm
  · rcases hpending r hr with hr | rfl
    · exact (h.socket k hk).2.2.2 r hr
    · exact fun he => (h.socket k hk).2.1 (he ▸ (record_token o).symm ▸ hm)
  · have hl := h.live k hk hf he
    by_cases hko : k = o.connection
    · subst hko
      obtain ⟨hcoh, hann⟩ := hlive hl
      have hstream : Transport.stream { t with queue := t.queue ++ [o], main := .idle }
          o.connection = t.stream o.connection ++ [o.record] := by
        rw [Transport.stream, Transport.pending_enqueue, onToken_append,
          onToken_cons_self (record_token o), ← List.append_assoc]
        rfl
      exact ⟨hstream ▸ hcoh, fun _ => hstream ▸ hann⟩
    · refine hl.mono ?_ rfl fun ho => absurd ho (hother k hko)
      rw [Transport.stream, Transport.pending_enqueue, onToken_append,
        onToken_cons_of_ne (record_token o ▸ Ne.symm hko), Transport.stream]
      exact congrArg _ (List.append_nil _)

/-- The mailbox, the reader and the wake-ups play no part. -/
theorem frame (h : AgreementInv t) (frames : FrameMailboxState) (wakes : Nat) (reader : ReaderPc)
    (receivedCount : Nat) : AgreementInv { t with frames, wakes, reader, receivedCount } :=
  { h with live := fun k hk hf he => (h.live k hk hf he).mono rfl rfl id }

/-- A connection closed, or kept. -/
theorem closed (h : AgreementInv t) {c : ConnectionState}
    (hc : ∀ k, c.active = some k → t.connection.active = some k) :
    AgreementInv { t with connection := c } :=
  { h with
    active_lt := fun k hk => h.active_lt k (hc k hk)
    offline := fun ho => by
      refine Option.eq_none_iff_forall_ne_some.mpr fun k hk => ?_
      exact absurd ((hc k hk).symm.trans (h.offline ho)) nofun
    live := fun k hk hf he => (h.live k (hc k hk) hf he).mono rfl rfl id }

/-- It holds once there is no connection. -/
theorem disconnected (h : AgreementInv t) :
    AgreementInv { t with connection := t.connection.disconnect } :=
  h.closed fun k hk => by simp at hk

/-- The main thread moves on, with what it still owes. -/
theorem setMain (h : AgreementInv t) {pc : MainPc} {stopping : Bool}
    (hv : ∀ v, pc.viewport? = some v → t.remoteViewport = v)
    (ht : ∀ k, pc.token? = some k → t.connection.active = some k)
    (ho : ∀ k, t.connection.active = some k → t.main.Owes k → pc.Owes k) :
    AgreementInv { t with main := pc, stopping } :=
  { h with
    main_viewport := hv
    main_lt := fun k hk => h.active_lt k (ht k hk)
    socket := fun k hk => by
      refine ⟨(h.socket k hk).1, fun hm => ?_, (h.socket k hk).2.2⟩
      have := h.offline (ReconnectorPc.offline_of_socket hk)
      rw [ht k hm] at this
      cases this
    live := fun k hk hf he => (h.live k hk hf he).mono rfl rfl (ho k hk) }

/-- The main thread moves on from its viewport and from the connection it looked up. -/
theorem settleMain (h : AgreementInv t) {pc : MainPc} {stopping : Bool}
    (hv : pc.viewport? = none) (ht : pc.token? = none)
    (ho : ∀ k, t.connection.active = some k → t.main.Owes k → pc.Owes k) :
    AgreementInv { t with main := pc, stopping } :=
  h.setMain (fun _ hk => by rw [hv] at hk; cases hk) (fun _ hk => by rw [ht] at hk; cases hk) ho

/-- A new remote viewport, owed from here on if it differs from the old one. -/
theorem storeViewport (h : AgreementInv t) (hm : t.main = .idle) (v : Viewport) :
    AgreementInv { t with remoteViewport := v, main := .stored v t.remoteViewport } := by
  have htoken : (MainPc.stored v t.remoteViewport).token? = none := rfl
  refine { h with
    main_viewport := ?_
    main_lt := by simp [htoken]
    socket := fun k hk => ⟨(h.socket k hk).1, by simp [htoken], (h.socket k hk).2.2⟩
    live := ?_ }
  · rintro _ ⟨⟩; rfl
  · intro k hk hf he
    obtain ⟨hcoh, hag⟩ := h.live k hk hf he
    refine ⟨hcoh, fun howes => ?_⟩
    -- the same viewport as before is owed to nobody
    have hv : v = t.remoteViewport := not_not.mp howes
    rw [hv]
    exact hag (by rw [hm]; exact not_false)

/-- A message of the main thread is accepted under the remote viewport it is queued with. -/
theorem queued (h : AgreementInv t) {token : Nat} {m : Message} {queue : List QueuedOutbound}
    (hq : t.enqueueOutbound ⟨token, m, t.remoteViewport⟩ = .ok queue)
    (hm : t.main.token? = some token)
    (hp : Live t token → ∀ p, m = .pointer p →
      announced (t.stream token) = some t.remoteViewport)
    (ha : Live t token →
      announced (t.stream token ++ [QueuedOutbound.record ⟨token, m, t.remoteViewport⟩]) =
        some t.remoteViewport)
    (ho : ∀ k, k ≠ token → ¬ t.main.Owes k) : AgreementInv { t with queue, main := .idle } :=
  h.enqueue hq hm
    (fun hl => ⟨coherent_append.mpr ⟨hl.coherent, coherent_singleton.mpr (hp hl)⟩, ha hl⟩) ho

/-- **One step of the main thread.** -/
theorem mainMove (h : AgreementInv t) {e : MainEvent} (m : MainMove t e u) : AgreementInv u := by
  cases m with
  | promote hr => exact absurd hr h.started
  | storeViewport hm => exact h.storeViewport hm _
  | @setMailbox v previous hm =>
      have hv : t.remoteViewport = v := h.main_viewport v (by rw [hm]; rfl)
      have hframe := h.frame (t.frames.setViewport v) t.wakes t.reader t.receivedCount
      refine hframe.setMain ?_ ?_ fun k _ howes => ?_
      · intro w hw
        split at hw
        · cases hw
        · obtain rfl := Option.some.inj hw
          exact hv
      · intro k hk
        split at hk <;> cases hk
      · -- a changed viewport goes on to `announcing`
        have hne : v ≠ previous := by rw [hm] at howes; exact howes
        rw [if_neg (Ne.symm hne)]
        trivial
  | @viewportFound v token hm hc =>
      have hv : t.remoteViewport = v := h.main_viewport v (by rw [hm]; rfl)
      have hactive := ConnectionState.currentToken_eq_ok.mp hc
      refine h.setMain ?_ ?_ fun k hk _ => Option.some.inj (hactive.symm.trans hk)
      · rintro _ ⟨⟩; exact hv
      · rintro _ ⟨⟩; exact hactive
  | viewportOffline hm hc =>
      -- no connection: nobody is owed the change
      have hactive := ConnectionState.currentToken_eq_error hc
      exact h.settleMain rfl rfl fun k hk => absurd (hactive.symm.trans hk) (by simp)
  | @viewportQueued v token queue hm hq =>
      have hv : t.remoteViewport = v := h.main_viewport v (by rw [hm]; rfl)
      refine h.queued hq (by rw [hm]; rfl) (fun _ p hp => nomatch hp) (fun _ => ?_) fun k hk => ?_
      · rw [announced_concat]
        exact congrArg some hv.symm
      · rw [hm]
        exact Ne.symm hk
  | viewportRefused hm hq => exact h.settleMain rfl rfl fun _ _ _ => trivial
  | closeAfterFull hm => exact h.disconnected.settleMain rfl rfl fun k hk => by simp at hk
  | pointerFound hm hc =>
      have hactive := ConnectionState.currentToken_eq_ok.mp hc
      refine h.setMain (by simp [MainPc.viewport?]) ?_ fun k _ howes => ?_
      · rintro _ ⟨⟩; exact hactive
      · rw [hm] at howes; exact howes
  | pointerOffline hm => exact h
  | @pointerQueued p token queue hm hq =>
      have hnone : ∀ k, ¬ t.main.Owes k := fun k => by rw [hm]; exact not_false
      refine h.queued hq (by rw [hm]; rfl) (fun hl _ _ => hl.agrees (hnone _)) (fun hl => ?_)
        fun k _ => hnone k
      rw [announced_concat]
      exact hl.agrees (hnone _)
  | pointerRefused hm hq =>
      exact h.settleMain rfl rfl fun k _ howes => by rw [hm] at howes; exact howes
  | pollFrame hm => exact h.frame _ _ _ _
  | dropStop hm => exact h.settleMain rfl rfl fun k _ howes => by rw [hm] at howes; exact howes
  | dropDisconnect hm => exact h.disconnected.settleMain rfl rfl fun k hk => by simp at hk
  | dropWake hm =>
      have hframe := h.frame t.frames (t.wakes + 1) t.reader t.receivedCount
      exact hframe.settleMain rfl rfl fun k _ howes => by rw [hm] at howes; exact howes

/-- The writer takes a message or lets one go. -/
theorem setWriter (h : AgreementInv t) {writer : WriterPc} {queue : List QueuedOutbound}
    (hf : ∀ k, writer ≠ .failed k)
    (hp : ∀ r ∈ Transport.pending { t with queue, writer }, r ∈ t.pending)
    (hl : ∀ k, t.connection.active = some k → writer ≠ .ended → Live { t with queue, writer } k)
    (hw : ∀ o, writer = .writing o → Coherent none (onToken o.connection t.wire ++ [o.record])) :
    AgreementInv { t with queue, writer } :=
  { h with
    failed_lt := fun k hk => absurd hk (hf k)
    pending_lt := fun r hr => h.pending_lt r (hp r hr)
    socket := fun k hk => ⟨(h.socket k hk).1, (h.socket k hk).2.1, hf k,
      fun r hr => (h.socket k hk).2.2.2 r (hp r hr)⟩
    live := fun k hk _ he => hl k hk he
    writing := hw }

/-- A record whose message is coherent on its socket. -/
theorem wire_concat (h : AgreementInv t) {r : Record}
    (hr : Coherent none (onToken r.token t.wire ++ [r])) (k : Nat) :
    Coherent none (onToken k (t.wire ++ [r])) := by
  by_cases hk : r.token = k
  · subst hk
    rw [onToken_concat_self rfl]
    exact hr
  · rw [onToken_concat_of_ne hk]
    exact h.wire k

theorem wire_concat_lt (h : AgreementInv t) {r : Record} (hr : r.token < t.sockets) :
    ∀ r' ∈ t.wire ++ [r], r'.token < t.sockets := by
  intro r' hr'
  rcases List.mem_append.mp hr' with hr' | hr'
  · exact h.wire_lt r' hr'
  · exact List.mem_singleton.mp hr' ▸ hr

/-- A message written, whole or in part, to the connection it was queued for. -/
theorem write (h : AgreementInv t) {o : QueuedOutbound} (hw : t.writer = .writing o)
    (outcome : WriteOutcome) {writer : WriterPc} (ho : writer.outbound? = none)
    (hf : ∀ k, writer = .failed k → k = o.connection)
    (hl : ∀ k, t.connection.active = some k → writer ≠ .failed k → Live t k →
      onToken k (t.wire ++ [writeAll o.connection o.message o.viewport outcome]) ++
        onToken k (t.queue.map QueuedOutbound.record) = t.stream k) :
    AgreementInv { t with
      wire := t.wire ++ [writeAll o.connection o.message o.viewport outcome], writer } := by
  have hpending : t.pending = o.record :: t.queue.map QueuedOutbound.record :=
    Transport.pending_of_some (by rw [hw]; rfl)
  have hpending' : Transport.pending { t with
      wire := t.wire ++ [writeAll o.connection o.message o.viewport outcome], writer } =
      t.queue.map QueuedOutbound.record :=
    Transport.pending_of_none ho
  have hmem : o.record ∈ t.pending := hpending ▸ List.mem_cons_self
  have hlt : o.connection < t.sockets := record_token o ▸ h.pending_lt _ hmem
  have hne : ∀ k, t.reconnector.socket? = some k → o.connection ≠ k :=
    fun k hk => record_token o ▸ (h.socket k hk).2.2.2 _ hmem
  have hcoh := h.writing o hw
  refine { h with
    failed_lt := fun k hk => hf k hk ▸ hlt
    wire_lt := h.wire_concat_lt (by rw [writeAll_token]; exact hlt)
    pending_lt := fun r hr => h.pending_lt r (hpending ▸ List.mem_cons_of_mem _ (hpending' ▸ hr))
    socket := fun k hk => ⟨(h.socket k hk).1, (h.socket k hk).2.1,
      fun he => hne k hk (hf k he).symm,
      fun r hr => (h.socket k hk).2.2.2 r
        (hpending ▸ List.mem_cons_of_mem _ (hpending' ▸ hr))⟩
    unwritten := ?_
    greeted := ?_
    live := ?_
    writing := fun o' ho' => by rw [show writer = _ from ho'] at ho; cases ho
    wire := h.wire_concat ?_ }
  · intro k hk r hr
    rcases List.mem_append.mp hr with hr | hr
    · exact h.unwritten k hk r hr
    · rw [List.mem_singleton.mp hr, writeAll_token]
      exact hne k (ReconnectorPc.socket_of_unwritten hk)
  · intro k v hk
    have hk' : t.reconnector.socket? = some k := by
      have hk : t.reconnector = .greeted k v := hk
      rw [hk]
      rfl
    show onToken k (_ ++ [_]) = _
    rw [onToken_concat_of_ne (by rw [writeAll_token]; exact hne k hk')]
    exact h.greeted k v hk
  · intro k hk hfail he
    have hlive := h.live k hk (by rw [hw]; nofun) (by rw [hw]; nofun)
    refine hlive.mono ?_ rfl id
    rw [Transport.stream, hpending']
    exact hl k hk hfail hlive
  · rw [writeAll_token]
    obtain ⟨hold, hnew⟩ := coherent_append.mp hcoh
    refine coherent_append.mpr ⟨hold, coherent_singleton.mpr fun p hp => ?_⟩
    rw [writeAll_message] at hp
    rw [writeAll_viewport]
    exact coherent_singleton.mp hnew p (writeAll_message.trans hp)

/-- **One step of the writer.** -/
theorem writerMove (h : AgreementInv t) {e : WriterEvent} (hok : Duplicates (.writer e))
    (m : WriterMove t e u) : AgreementInv u := by
  cases m with
  | @stop o queue hw hq hs =>
      have hpending : t.pending = o.record :: queue.map QueuedOutbound.record := by
        simp [Transport.pending, hw, hq, WriterPc.outbound?]
      refine h.setWriter (by simp) (fun r hr => ?_) (fun _ _ he => absurd rfl he) (by simp)
      exact hpending ▸ List.mem_cons_of_mem _ hr
  | @dequeue o queue hw hq =>
      have hpending : t.pending = o.record :: queue.map QueuedOutbound.record := by
        simp [Transport.pending, hw, hq, WriterPc.outbound?]
      refine h.setWriter (by simp) (fun r hr => hpending ▸ hr) (fun k hk _ => ?_) (by simp)
      exact (h.live k hk (by simp [hw]) (by simp [hw])).setWriter hpending.symm
  | @cloneStream o hw ha =>
      have hpending : t.pending = o.record :: t.queue.map QueuedOutbound.record :=
        Transport.pending_of_some (by rw [hw]; rfl)
      have hlive : ∀ k, t.connection.active = some k → Live t k := fun k hk =>
        h.live k hk (by simp [hw]) (by simp [hw])
      refine h.setWriter (by simp) (fun r hr => hpending ▸ hr) (fun k hk _ => ?_) ?_
      · exact (hlive k hk).setWriter hpending.symm
      · -- the message comes first of those on their way to its connection
        rintro _ ⟨⟩
        have hcoh := (hlive _ ha).coherent
        rw [Transport.stream, hpending, onToken_cons_self (record_token o),
          List.append_cons] at hcoh
        exact (coherent_append.mp hcoh).1
  | cloneFailed => exact absurd rfl hok
  | @stale o _ hw ha =>
      -- the message of another connection is dropped
      have hpending : t.pending = o.record :: t.queue.map QueuedOutbound.record :=
        Transport.pending_of_some (by rw [hw]; rfl)
      refine h.setWriter (by simp) (fun r hr => ?_) (fun k hk _ => ?_) (by simp)
      · exact hpending ▸ List.mem_cons_of_mem _ hr
      · have hne : o.record.token ≠ k := fun he => ha (hk.trans (congrArg some he.symm))
        refine (h.live k hk (by simp [hw]) (by simp [hw])).mono ?_ rfl id
        rw [Transport.stream, Transport.stream, hpending, onToken_cons_of_ne hne]
        rfl
  | @write o hw =>
      have hpending : t.pending = o.record :: t.queue.map QueuedOutbound.record :=
        Transport.pending_of_some (by rw [hw]; rfl)
      refine h.write hw .written rfl (by simp) fun k _ _ _ => ?_
      rw [Transport.stream, hpending, ← onToken_append, ← onToken_append, List.append_assoc]
      rfl
  | @fail o n hw =>
      have hpending : t.pending = o.record :: t.queue.map QueuedOutbound.record :=
        Transport.pending_of_some (by rw [hw]; rfl)
      refine h.write hw _ rfl (fun k hk => (WriterPc.failed.inj hk).symm) fun k _ hfail _ => ?_
      have hne : o.connection ≠ k := fun he => hfail (congrArg WriterPc.failed he)
      rw [Transport.stream, hpending, onToken_cons_of_ne (record_token o ▸ hne),
        onToken_concat_of_ne (by rw [writeAll_token]; exact hne)]
  | @closeAfterFailure token hw =>
      have hpending : t.pending = t.queue.map QueuedOutbound.record :=
        Transport.pending_of_none (by rw [hw]; rfl)
      have hcur : ∀ k, (t.connection.disconnectIfCurrent token).active = some k →
          t.connection.active = some k ∧ k ≠ token :=
        fun k hk => ConnectionState.disconnectIfCurrent_active.mp hk
      have hclosed := h.closed fun k hk => (hcur k hk).1
      refine hclosed.setWriter (by simp) (fun r hr => hpending ▸ hr) (fun k hk _ => ?_) (by simp)
      -- a connection that stays is not the failed one
      obtain ⟨hk, hne⟩ := hcur k hk
      refine (h.live k hk (fun he => ?_) (by simp [hw])).mono
        (congrArg (onToken k t.wire ++ onToken k ·) hpending.symm) rfl id
      exact hne (WriterPc.failed.inj (he.symm.trans hw))

/-- **One step of the reader.** -/
theorem readerMove (h : AgreementInv t) {e : ReaderEvent} (m : ReaderMove t e u) :
    AgreementInv u := by
  cases m with
  | receive | publish | readerEnd => exact h.frame _ _ _ _

/-- The reconnector moves on without a socket. -/
theorem setReconnector (h : AgreementInv t) {pc : ReconnectorPc} (hs : pc ≠ .absent)
    (ho : pc.Offline → t.connection.active = none) (hn : pc.socket? = none) :
    AgreementInv { t with reconnector := pc } :=
  { h with
    started := hs
    offline := ho
    socket := fun k hk => absurd (hk.symm.trans hn) nofun
    unwritten := fun k hk => absurd ((ReconnectorPc.socket_of_unwritten hk).symm.trans hn) nofun
    greeted := fun k v hk => by
      rw [show pc = _ from hk] at hn
      cases hn
    live := fun k hk hf he => (h.live k hk hf he).mono rfl rfl id }

/-- A socket is made. -/
theorem socketMade (h : AgreementInv t) : AgreementInv { t with sockets := t.sockets + 1 } :=
  { h with
    main_lt := fun k hk => Nat.lt_succ_of_lt (h.main_lt k hk)
    active_lt := fun k hk => Nat.lt_succ_of_lt (h.active_lt k hk)
    failed_lt := fun k hk => Nat.lt_succ_of_lt (h.failed_lt k hk)
    wire_lt := fun r hr => Nat.lt_succ_of_lt (h.wire_lt r hr)
    pending_lt := fun r hr => Nat.lt_succ_of_lt (h.pending_lt r hr)
    socket := fun k hk => ⟨Nat.lt_succ_of_lt (h.socket k hk).1, (h.socket k hk).2⟩
    live := fun k hk hf he => (h.live k hk hf he).mono rfl rfl id }

/-- A Hello written, whole or in part, to a socket that is not installed. -/
theorem hello (h : AgreementInv t) {socket : Nat} {v : Viewport}
    (hr : t.reconnector = .viewportRead socket v) (outcome : WriteOutcome) {pc : ReconnectorPc}
    (hs : pc ≠ .absent) (hpc : ∀ k, pc.socket? = some k → k = socket) (hu : pc.unwritten? = none)
    (hg : ∀ k v', pc = .greeted k v' → outcome = .written ∧ v' = v) :
    AgreementInv { t with
      wire := t.wire ++ [writeAll socket (helloMessage v t.pixelFormats) v outcome]
      reconnector := pc } := by
  have hsock : t.reconnector.socket? = some socket := by rw [hr]; rfl
  obtain ⟨hlt, hmain, hfail, hpend⟩ := h.socket socket hsock
  have hnone : t.connection.active = none := h.offline (ReconnectorPc.offline_of_socket hsock)
  have hempty : onToken socket t.wire = [] :=
    onToken_eq_nil (h.unwritten socket (by rw [hr]; rfl))
  refine { h with
    started := hs
    wire_lt := h.wire_concat_lt (by rw [writeAll_token]; exact hlt)
    offline := fun _ => hnone
    socket := fun k hk => by
      obtain rfl := hpc k hk
      exact ⟨hlt, hmain, hfail, hpend⟩
    unwritten := fun k hk => absurd (hk.symm.trans hu) nofun
    greeted := fun k v' hk => ?_
    live := fun k hk => absurd (hk.symm.trans hnone) nofun
    writing := fun o ho => ?_
    wire := h.wire_concat ?_ }
  · obtain ⟨rfl, rfl⟩ := hg k v' hk
    have hks : k = socket := hpc k (by rw [show pc = _ from hk]; rfl)
    show onToken k (_ ++ [_]) = _
    rw [hks, onToken_concat_self writeAll_token, hempty]
    rfl
  · have hmem : o.record ∈ t.pending := by
      simp [Transport.pending, show t.writer = _ from ho, WriterPc.outbound?]
    have hne : socket ≠ o.connection := fun he => hpend _ hmem (he ▸ record_token o)
    show Coherent none (onToken _ (_ ++ [_]) ++ _)
    rw [onToken_concat_of_ne (by rw [writeAll_token]; exact hne)]
    exact h.writing o ho
  · rw [writeAll_token, hempty]
    exact coherent_singleton.mpr fun p hp => by rw [writeAll_message] at hp; cases hp

/-- The reconnector has a fresh socket, and nothing is addressed to it yet. -/
theorem connected (h : AgreementInv t) (hr : t.reconnector = .retrying) :
    AgreementInv { t with sockets := t.sockets + 1, reconnector := .connected t.sockets } := by
  have hnone : t.connection.active = none := h.offline (by rw [hr]; trivial)
  refine { h.socketMade with
    started := by simp
    offline := fun _ => hnone
    socket := ?_
    unwritten := ?_
    greeted := by simp
    live := fun k hk => absurd (hk.symm.trans hnone) (by simp) }
  · rintro _ ⟨⟩
    exact ⟨Nat.lt_succ_self _, fun hm => Nat.lt_irrefl _ (h.main_lt _ hm),
      fun hf => Nat.lt_irrefl _ (h.failed_lt _ hf), fun r hr => (h.pending_lt r hr).ne⟩
  · rintro _ ⟨⟩
    exact fun r hr => (h.wire_lt r hr).ne

/-- The connection is installed, with nothing on it but its Hello. -/
theorem installed (h : AgreementInv t) {socket : Nat} {v : Viewport}
    (hr : t.reconnector = .greeted socket v)
    (hv : v = t.remoteViewport ∨ t.main.Unannounced) :
    AgreementInv
      { t with
        connection := t.connection.reconnect socket
        reconnector := .installed socket } := by
  obtain ⟨hlt, -, -, hpend⟩ := h.socket socket (by rw [hr]; rfl)
  have hstream : t.stream socket =
      [writeAll socket (helloMessage v t.pixelFormats) v .written] := by
    rw [Transport.stream, h.greeted socket v hr, onToken_eq_nil hpend]
    rfl
  have hmoved : AgreementInv { t with reconnector := .installed socket } :=
    h.setReconnector (by simp) False.elim rfl
  refine { hmoved with
    active_lt := ?_
    offline := False.elim
    live := ?_ }
  · rintro _ ⟨⟩; exact hlt
  · rintro _ ⟨⟩ - -
    refine ⟨?_, fun howes => ?_⟩
    · show Coherent none (t.stream socket)
      rw [hstream]
      exact coherent_singleton.mpr (by simp [helloMessage])
    · show announced (t.stream socket) = some t.remoteViewport
      rw [hstream]
      rcases hv with rfl | hun
      · rfl
      · exact absurd (MainPc.owes_of_unannounced hun) howes

/-- **One step of the reconnector.** -/
theorem reconnectorMove (h : AgreementInv t) {e : ReconnectorEvent}
    (hok : InstallOk t (.reconnector e)) (m : ReconnectorMove t e u) : AgreementInv u := by
  cases m with
  | wake hr hw =>
      have hframe := h.frame t.frames (t.wakes - 1) t.reader t.receivedCount
      exact hframe.setReconnector (by simp) False.elim rfl
  | join hr he => exact h.setReconnector (by simp) False.elim rfl
  | disconnect hr =>
      exact h.disconnected.setReconnector (by simp) (fun _ => t.connection.disconnect_active) rfl
  | giveUp hr hs => exact h.setReconnector (by simp) False.elim rfl
  | connect hr => exact h.connected hr
  | unconfigured hr => exact h.socketMade
  | @readViewport socket hr =>
      have hnone : t.connection.active = none := h.offline (by rw [hr]; trivial)
      exact { h with
        started := by simp
        offline := fun _ => hnone
        socket := fun k hk => h.socket k (by rw [hr]; exact hk)
        unwritten := fun k hk => h.unwritten k (by rw [hr]; exact hk)
        greeted := by simp
        live := fun k hk => absurd (hk.symm.trans hnone) (by simp) }
  | greet hr =>
      refine h.hello hr .written (by simp) ?_ rfl ?_
      · rintro _ ⟨⟩; rfl
      · rintro _ _ ⟨⟩; exact ⟨rfl, rfl⟩
  | greetFailed hr =>
      exact h.hello hr _ (by simp) (by simp [ReconnectorPc.socket?]) rfl (by simp)
  | stop | cloneFailed | spawnFailed => exact h.setReconnector (by simp) False.elim rfl
  | install hr hs => exact h.installed hr (hok rfl _ _ hr)
  | @spawnReader socket hr =>
      have hframe := h.frame t.frames t.wakes (.reading socket) t.receivedCount
      exact hframe.setReconnector (by simp) False.elim rfl

/-- **One step of the device.** -/
theorem step (h : AgreementInv t) {e : TransportEvent} (hok : InstallOk t e ∧ Duplicates e)
    (k : Fn transportStep t e u) : AgreementInv u := by
  cases transportStep_move k with
  | main m => exact h.mainMove m
  | writer m => exact h.writerMove hok.2 m
  | reader m => exact h.readerMove m
  | reconnector m => exact h.reconnectorMove hok.1 m

end AgreementInv

/-! ### Agreement -/

/-- In `send_viewport_changed`. -/
def MainPc.ChangesViewport : MainPc → Prop
  | stored _ _ | announcing _ | announceTo _ _ | announceFailed => True
  | _ => False

/-- **The host knows the viewport.**  In every run in which the writer's sockets can be duplicated
and each connection is installed with the viewport of its Hello still the remote viewport, or with
a change of it not yet looked up: every pointer on a socket was queued under the viewport last
announced on that socket before it; and while a connection is current, with nothing queued, the
writer idle and no viewport change in progress, the last viewport announced on it is the remote
viewport. -/
theorem viewport_agreement {v : Viewport} {formats : V2PixelFormats} {es : List TransportEvent}
    {t : Transport} (h : Run (restrict (Fn transportStep) fun t e => InstallOk t e ∧ Duplicates e)
      (.init v formats) es t) :
    (∀ before r after p, t.wire = before ++ r :: after → r.message = .pointer p →
      announced (onToken r.token before) = some r.viewport) ∧
    ∀ token, t.connection.active = some token → t.queue = [] → t.writer = .idle →
      ¬ t.main.ChangesViewport →
      announced (onToken token t.wire) = some t.remoteViewport := by
  have inv : AgreementInv t := h.invariant (fun hi k => hi.step k.1 k.2) (.init v formats)
  refine ⟨fun before r after p hwire hp => ?_, fun token hactive hqueue hwriter hmain => ?_⟩
  · have hcoh := inv.wire r.token
    rw [hwire, onToken_append, onToken_cons_self rfl] at hcoh
    exact (coherent_append.mp hcoh).2.1 p hp
  · have hlive := inv.live token hactive (by rw [hwriter]; nofun) (by rw [hwriter]; nofun)
    have hempty : t.pending = [] := by simp [Transport.pending, hqueue, hwriter, WriterPc.outbound?]
    have hag := hlive.agrees fun howes => hmain (by
      revert howes
      cases t.main <;> first | exact fun _ => trivial | exact id)
    rwa [Transport.stream, hempty, show onToken token [] = [] from rfl, List.append_nil] at hag

/-- A pointer is sent on the first connection. -/
def firstPointer : List TransportEvent :=
  [.main (.lookupPointer ⟨.down, 3, 5⟩), .main .enqueuePointer, .writer .dequeue,
    .writer (.cloneStream true), .writer (.write .written)]

theorem viewport_agreement_pointer :
    ∃ t before r, Run (restrict (Fn transportStep) fun t e => InstallOk t e ∧ Duplicates e)
        (.init (1272, 1624) .MONO1) firstPointer t ∧
      t.wire = before ++ [r] ∧ r.message = .pointer ⟨.down, 3, 5⟩ ∧
      announced (onToken 0 before) = some (1272, 1624) := by
  obtain ⟨t, before, r, h, hwire, hp, ht, hv⟩ : ∃ t before r,
      Run (Fn transportStep) (.init (1272, 1624) .MONO1) firstPointer t ∧
        t.wire = before ++ [r] ∧ r.message = .pointer ⟨.down, 3, 5⟩ ∧ r.token = 0 ∧
        r.viewport = (1272, 1624) :=
    ⟨_, [_], _, run_of_exec rfl, rfl, rfl, rfl, rfl⟩
  have hok : ∀ e ∈ firstPointer, e ≠ .reconnector .install ∧ Duplicates e := by decide
  have h : Run (restrict (Fn transportStep) fun t e => InstallOk t e ∧ Duplicates e)
      (.init (1272, 1624) .MONO1) firstPointer t :=
    h.restricted fun e he r => ⟨fun hi => absurd hi (hok e he).1, (hok e he).2⟩
  have hann := (viewport_agreement h).1 before r [] _ hwire hp
  rw [ht, hv] at hann
  exact ⟨t, before, r, h, hwire, hp, hann⟩

/-- The viewport changes between the reconnector's reading it and its installing the connection,
and finds no connection; then a pointer is sent. -/
def lostChange : List TransportEvent :=
  [.reader .readerEnd, .reconnector .wake, .reconnector .join, .reconnector .disconnect,
    .reconnector (.connect true), .reconnector .readViewport,
    .main (.storeViewport (800, 600)), .main .setMailbox, .main .lookupViewport,
    .reconnector (.hello .written), .reconnector .install, .reconnector .spawnReader] ++
  firstPointer

/-- **A change announced to nobody.**  The new connection is given a pointer queued under a viewport
it has not heard of, and stays without it. -/
theorem viewport_agreement_lost :
    ¬ ∀ (v : Viewport) (formats : V2PixelFormats) (es : List TransportEvent) (t : Transport),
      Run (Fn transportStep) (.init v formats) es t → (∀ e ∈ es, Duplicates e) →
      (∀ before r after p, t.wire = before ++ r :: after → r.message = .pointer p →
        announced (onToken r.token before) = some r.viewport) ∧
      ∀ token, t.connection.active = some token → t.queue = [] → t.writer = .idle →
        ¬ t.main.ChangesViewport →
        announced (onToken token t.wire) = some t.remoteViewport := by
  intro hall
  obtain ⟨t, ht⟩ : ∃ t, exec transportStep (.init (1272, 1624) .MONO1) lostChange = some t :=
    ⟨_, rfl⟩
  obtain ⟨before, r, hwire, hp, hann, hv⟩ : ∃ before r, t.wire = before ++ [r] ∧
      r.message = .pointer ⟨.down, 3, 5⟩ ∧
      announced (onToken r.token before) = some (1272, 1624) ∧ r.viewport = (800, 600) := by
    obtain rfl := Option.some.inj ht
    exact ⟨[_, _], _, rfl, rfl, rfl, rfl⟩
  have hag := (hall _ _ _ t (run_of_exec ht) (by decide)).1 before r [] _ hwire hp
  rw [hann, hv] at hag
  exact absurd hag (by decide)

end PaperPad.Device
