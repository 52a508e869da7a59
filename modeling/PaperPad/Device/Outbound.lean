import PaperPad.Device.Agreement

/-!
# Device — Outbound

What the sockets are given, against what the main thread has queued.  A message is queued with the
token of a connection, and the writer writes it to that connection or drops it: it clones the
socket of the message's token only while that token is current, and no token is current twice.

* `enqueued`: the messages of a run, in the order they were queued.
* `Delivery`: a connection has been given its Hello, the first messages queued for it, and at most
  one message that was cut short.
* `outbound_generations`: every run whose sockets can be duplicated delivers so, to every
  connection.  A message whose socket cannot be is skipped, and the connection kept.
-/

namespace PaperPad.Device

open Protocol Transition

/-! ### What has been queued -/

/-- The message a step queues. -/
def accepted (t : Transport) : TransportEvent → List QueuedOutbound
  | .main .enqueueViewport =>
      match t.main with
      | .announceTo viewport token =>
          let o : QueuedOutbound :=
            ⟨token, .viewportChanged ⟨viewport.1, viewport.2⟩, t.remoteViewport⟩
          match t.enqueueOutbound o with
          | .ok _ => [o]
          | .error _ => []
      | _ => []
  | .main .enqueuePointer =>
      match t.main with
      | .pointerTo pointer token =>
          let o : QueuedOutbound := ⟨token, .pointer pointer, t.remoteViewport⟩
          match t.enqueueOutbound o with
          | .ok _ => [o]
          | .error _ => []
      | _ => []
  | _ => []

/-- The messages queued along a run, in order. -/
def enqueued (t : Transport) : List TransportEvent → List QueuedOutbound
  | [] => []
  | e :: es =>
      accepted t e ++
        match transportStep t e with
        | some u => enqueued u es
        | none => []

/-- One more step, and what it has queued. -/
theorem enqueued_append {t u : Transport} {es : List TransportEvent} {e : TransportEvent}
    (h : Run (Fn transportStep) t es u) :
    enqueued t (es ++ [e]) = enqueued t es ++ accepted u e := by
  induction es generalizing t with
  | nil =>
      obtain rfl := Run.eq_of_nil h
      simp only [List.nil_append, enqueued]
      split <;> simp
  | cons e' es ih =>
      obtain ⟨v, hv, hrest⟩ := h.uncons
      have hv : transportStep t e' = some v := hv
      simp only [List.cons_append, enqueued, hv, ih hrest, List.append_assoc]

/-- The messages queued for a connection. -/
def addressed (g : Nat) (l : List QueuedOutbound) : List QueuedOutbound :=
  l.filter fun o => o.connection = g

theorem addressed_append (g : Nat) (l l' : List QueuedOutbound) :
    addressed g (l ++ l') = addressed g l ++ addressed g l' := List.filter_append ..

theorem addressed_concat_self {g : Nat} {o : QueuedOutbound} (h : o.connection = g)
    (l : List QueuedOutbound) : addressed g (l ++ [o]) = addressed g l ++ [o] := by
  simp [addressed, h]

theorem addressed_concat_of_ne {g : Nat} {o : QueuedOutbound} (h : o.connection ≠ g)
    (l : List QueuedOutbound) : addressed g (l ++ [o]) = addressed g l := by
  simp [addressed, h]

/-- The messages on their way, in order. -/
def Transport.inFlight (t : Transport) : List QueuedOutbound :=
  t.writer.outbound?.toList ++ t.queue

/-! ### What a connection has been given -/

/-- A message of the queue, as it was written. -/
def QueuedOutbound.recordOf (o : QueuedOutbound) (outcome : WriteOutcome) : Record :=
  writeAll o.connection o.message o.viewport outcome

/-- A Hello written whole, and all of `sent`. -/
def GivenAll (g : Nat) (sent : List QueuedOutbound) (l : List Record) : Prop :=
  ∃ h v, l = writeAll g (.hello h) v .written :: sent.map QueuedOutbound.record

/-- Nothing; or a Hello cut short; or a Hello, the first of the messages, and at most one message
cut short, the next one. -/
def Given (g : Nat) (messages : List QueuedOutbound) (l : List Record) : Prop :=
  l = [] ∨ (∃ h v n, l = [writeAll g (.hello h) v (.failed n)]) ∨
    ∃ sent rest whole tail, messages = sent ++ rest ∧ GivenAll g sent whole ∧ l = whole ++ tail ∧
      (tail = [] ∨ ∃ o rest' n, rest = o :: rest' ∧ tail = [o.recordOf (.failed n)])

/-- All of the messages are a prefix of them. -/
theorem GivenAll.given {g : Nat} {sent : List QueuedOutbound} {l : List Record}
    (h : GivenAll g sent l) : Given g sent l :=
  .inr (.inr ⟨sent, [], l, [], by simp, h, by simp, .inl rfl⟩)

/-- One more message, written whole. -/
theorem GivenAll.concat {g : Nat} {sent : List QueuedOutbound} {l : List Record}
    (h : GivenAll g sent l) (o : QueuedOutbound) : GivenAll g (sent ++ [o]) (l ++ [o.record]) := by
  obtain ⟨hello, v, rfl⟩ := h
  exact ⟨hello, v, by simp⟩

/-- The next message is cut short. -/
theorem GivenAll.cut {g : Nat} {sent : List QueuedOutbound} {l : List Record}
    (h : GivenAll g sent l) (o : QueuedOutbound) (n : Nat) :
    Given g (sent ++ [o]) (l ++ [o.recordOf (.failed n)]) :=
  .inr (.inr ⟨sent, [o], l, _, rfl, h, rfl, .inr ⟨o, [], n, rfl, rfl⟩⟩)

/-- Messages that were dropped. -/
theorem Given.append {g : Nat} {messages : List QueuedOutbound} {l : List Record}
    (h : Given g messages l) (dropped : List QueuedOutbound) : Given g (messages ++ dropped) l := by
  rcases h with h | h | ⟨sent, rest, whole, tail, rfl, hw, hl, ht⟩
  · exact .inl h
  · exact .inr (.inl h)
  · refine .inr (.inr ⟨sent, rest ++ dropped, whole, tail, by simp, hw, hl, ht.imp id ?_⟩)
    rintro ⟨o, rest', n, rfl, htail⟩
    exact ⟨o, rest' ++ dropped, n, rfl, htail⟩

/-- The messages of the queue among the records of all sockets, with their sockets. -/
def writtenMessages (l : List Record) : List (Nat × Message) :=
  l.filterMap fun r =>
    match r.message with
    | .hello _ => none
    | message => some (r.token, message)

/-- A Hello is none of the messages that were queued. -/
theorem writtenMessages_hello (l : List Record) (k : Nat) (h : V2Hello) (v : Viewport)
    (outcome : WriteOutcome) :
    writtenMessages (l ++ [writeAll k (.hello h) v outcome]) = writtenMessages l := by
  simp [writtenMessages]

/-- A socket that is not made, or that waits to be installed. -/
def Transport.Fresh (t : Transport) (k : Nat) : Prop :=
  t.sockets ≤ k ∨ t.reconnector.socket? = some k

/-- A socket nothing has been written to. -/
def Transport.Blank (t : Transport) (k : Nat) : Prop :=
  t.sockets ≤ k ∨ t.reconnector.unwritten? = some k

/-- A socket nothing has been written to is fresh. -/
theorem Transport.Blank.fresh {t : Transport} {k : Nat} (h : t.Blank k) : t.Fresh k :=
  h.imp id ReconnectorPc.socket_of_unwritten

/-- `done` are the messages the writer has written or dropped, without those it has skipped: those
of a current connection whose socket it could not duplicate. -/
structure OutboundInv (done : List QueuedOutbound) (t : Transport) : Prop where
  made : ∀ k, t.reconnector.socket? = some k → k < t.sockets
  fresh_main : ∀ k, t.Fresh k → t.main.token? ≠ some k
  fresh_message : ∀ k, t.Fresh k → ∀ o ∈ done ++ t.inFlight, o.connection ≠ k
  fresh_active : ∀ k, t.Fresh k → t.connection.active ≠ some k
  fresh_failed : ∀ k, t.Fresh k → t.writer ≠ .failed k
  blank : ∀ k, t.Blank k → onToken k t.wire = []
  greeted : ∀ k v, t.reconnector = .greeted k v → GivenAll k [] (onToken k t.wire)
  given : ∀ g, Given g (addressed g done) (onToken g t.wire)
  first : ∀ g, t.connection.active = some g → ∃ h v l,
    onToken g t.wire = writeAll g (.hello h) v .written :: l
  sent : (writtenMessages t.wire).Sublist (done.map fun o => (o.connection, o.message))
  current : ∀ g, t.connection.active = some g → t.writer ≠ .failed g → t.writer ≠ .ended →
    GivenAll g (addressed g done) (onToken g t.wire)
  writing : ∀ o, t.writer = .writing o →
    GivenAll o.connection (addressed o.connection done) (onToken o.connection t.wire)

/-! ### Steps -/

namespace OutboundInv

variable {done : List QueuedOutbound} {t u : Transport}

/-- It holds of a transport that starts. -/
theorem start (v : Viewport) (formats : V2PixelFormats) : OutboundInv [] (.start v formats) where
  made := by rintro k ⟨⟩
  fresh_main := by rintro k - ⟨⟩
  fresh_message := by rintro k - o ⟨⟩
  fresh_active := by rintro k - ⟨⟩
  fresh_failed := by rintro k - ⟨⟩
  blank := by rintro k -; rfl
  greeted := by rintro k v ⟨⟩
  given := by intro g; exact .inl rfl
  first := by rintro g ⟨⟩
  sent := .slnil
  current := by rintro g ⟨⟩
  writing := by rintro o ⟨⟩

/-- A step that writes and queues nothing, makes no socket and leaves the writer alone. -/
theorem mono (h : OutboundInv done t) (hwire : u.wire = t.wire) (hsockets : u.sockets = t.sockets)
    (hqueue : u.queue = t.queue) (hwriter : u.writer = t.writer)
    (hmain : ∀ k, u.main.token? = some k → t.main.token? = some k ∨ t.connection.active = some k)
    (hactive : ∀ k, u.connection.active = some k → t.connection.active = some k)
    (hsocket : ∀ k, u.reconnector.socket? = some k → t.reconnector.socket? = some k)
    (hunwritten : ∀ k, u.reconnector.unwritten? = some k → t.reconnector.unwritten? = some k)
    (hgreeted : ∀ k v, u.reconnector = .greeted k v → t.reconnector = .greeted k v) :
    OutboundInv done u := by
  have hfresh : ∀ k, u.Fresh k → t.Fresh k := fun k hk =>
    hk.imp (fun h => hsockets ▸ h) (hsocket k)
  have hblank : ∀ k, u.Blank k → t.Blank k := fun k hk =>
    hk.imp (fun h => hsockets ▸ h) (hunwritten k)
  have hflight : u.inFlight = t.inFlight := by simp only [Transport.inFlight, hwriter, hqueue]
  refine ⟨fun k hk => ?_, fun k hk hm => ?_, fun k hk => ?_, fun k hk ha => ?_, fun k hk => ?_,
    fun k hk => ?_, fun k v hg => ?_, fun g => ?_, fun g ha => ?_, ?_, fun g ha => ?_,
    fun o ho => ?_⟩
  · rw [hsockets]; exact h.made k (hsocket k hk)
  · rcases hmain k hm with hm | ha
    · exact h.fresh_main k (hfresh k hk) hm
    · exact h.fresh_active k (hfresh k hk) ha
  · rw [hflight]; exact h.fresh_message k (hfresh k hk)
  · exact h.fresh_active k (hfresh k hk) (hactive k ha)
  · rw [hwriter]; exact h.fresh_failed k (hfresh k hk)
  · rw [hwire]; exact h.blank k (hblank k hk)
  · rw [hwire]; exact h.greeted k v (hgreeted k v hg)
  · rw [hwire]; exact h.given g
  · rw [hwire]; exact h.first g (hactive g ha)
  · rw [hwire]; exact h.sent
  · rw [hwire, hwriter]; exact h.current g (hactive g ha)
  · rw [hwire]; exact h.writing o (hwriter ▸ ho)

/-- The main thread moves on, with no connection looked up or the current one. -/
theorem setMain (h : OutboundInv done t) {pc : MainPc}
    (hpc : ∀ k, pc.token? = some k → t.connection.active = some k) :
    OutboundInv done { t with main := pc } :=
  h.mono rfl rfl rfl rfl (fun k hk => .inr (hpc k hk)) (fun _ hk => hk) (fun _ hk => hk)
    (fun _ hk => hk) fun _ _ hk => hk

/-- The main thread moves on, with no connection looked up. -/
theorem settleMain (h : OutboundInv done t) {pc : MainPc} (hpc : pc.token? = none) :
    OutboundInv done { t with main := pc } :=
  h.setMain fun k hk => by rw [hpc] at hk; cases hk

/-- A connection closed, or kept. -/
theorem closed (h : OutboundInv done t) {c : ConnectionState}
    (hc : ∀ k, c.active = some k → t.connection.active = some k) :
    OutboundInv done { t with connection := c } :=
  h.mono rfl rfl rfl rfl (fun _ hk => .inl hk) hc (fun _ hk => hk) (fun _ hk => hk)
    fun _ _ hk => hk

/-- It holds once there is no connection. -/
theorem disconnected (h : OutboundInv done t) :
    OutboundInv done { t with connection := t.connection.disconnect } :=
  h.closed fun k hk => by simp at hk

/-- What no message depends on. -/
theorem frame (h : OutboundInv done t) (remoteViewport : Viewport) (frames : FrameMailboxState)
    (wakes : Nat) (stopping : Bool) (reader : ReaderPc) (receivedCount : Nat) :
    OutboundInv done { t with remoteViewport, frames, wakes, stopping, reader, receivedCount } :=
  h.mono rfl rfl rfl rfl (fun _ hk => .inl hk) (fun _ hk => hk) (fun _ hk => hk) (fun _ hk => hk)
    fun _ _ hk => hk

/-- A message queued for the connection the main thread has looked up. -/
theorem enqueue (h : OutboundInv done t) {o : QueuedOutbound} {queue : List QueuedOutbound}
    (hq : t.enqueueOutbound o = .ok queue) (hm : t.main.token? = some o.connection) :
    OutboundInv done { t with queue, main := .idle } := by
  obtain rfl := Transport.enqueueOutbound_eq_ok hq
  have hidle : OutboundInv done { t with main := .idle } := h.settleMain rfl
  refine { hidle with fresh_message := fun k hk o' ho' => ?_ }
  have hk : t.Fresh k := hk
  simp only [Transport.inFlight, List.mem_append, List.mem_singleton] at ho'
  rcases ho' with ho' | ho' | ho' | rfl
  · exact h.fresh_message k hk o' (by simp [ho'])
  · exact h.fresh_message k hk o' (by simp [Transport.inFlight, ho'])
  · exact h.fresh_message k hk o' (by simp [Transport.inFlight, ho'])
  · exact fun he => h.fresh_main k hk (he ▸ hm)

/-- The writer takes a message from the queue, or keeps the one it has. -/
theorem hold (h : OutboundInv done t) {queue : List QueuedOutbound} {writer : WriterPc}
    (hflight : writer.outbound?.toList ++ queue = t.inFlight)
    (hworks : t.writer ≠ .ended ∧ ∀ k, t.writer ≠ .failed k) (hfailed : ∀ k, writer ≠ .failed k)
    (hwriting : ∀ o, writer = .writing o →
      GivenAll o.connection (addressed o.connection done) (onToken o.connection t.wire)) :
    OutboundInv done { t with queue, writer } :=
  { h with
    fresh_message := fun k hk o ho => h.fresh_message k hk o (hflight ▸ ho)
    fresh_failed := fun k _ => hfailed k
    current := fun g hg _ _ => h.current g hg (hworks.2 g) hworks.1
    writing := hwriting }

/-- The writer drops its message: it has ended, or the connection of the message is gone. -/
theorem drop (h : OutboundInv done t) {o : QueuedOutbound} {queue : List QueuedOutbound}
    {writer : WriterPc} (hflight : t.inFlight = o :: queue)
    (hw : writer = .ended ∨ writer = .idle ∧ t.connection.active ≠ some o.connection ∧
      ∃ o', t.writer = .holding o') :
    OutboundInv (done ++ [o]) { t with queue, writer } := by
  have hout : writer.outbound? = none := by rcases hw with rfl | ⟨rfl, -⟩ <;> rfl
  have hfailed : ∀ k, writer ≠ .failed k := fun k => by rcases hw with rfl | ⟨rfl, -⟩ <;> simp
  have hwriting : ∀ o, writer ≠ .writing o := fun k => by rcases hw with rfl | ⟨rfl, -⟩ <;> simp
  refine { h with
    fresh_message := fun k hk o' ho' => ?_
    fresh_failed := fun k _ => hfailed k
    given := fun g => ?_
    sent := ?_
    current := fun g hg _ he => ?_
    writing := fun o' ho' => absurd ho' (hwriting o') }
  · have hmem : done ++ [o] ++ Transport.inFlight { t with queue, writer } =
        done ++ t.inFlight := by
      simp [Transport.inFlight, hout, ← hflight]
    exact h.fresh_message k hk o' (hmem ▸ ho')
  · rw [addressed_append]
    exact (h.given g).append _
  · rw [List.map_append]
    exact h.sent.trans (List.sublist_append_left _ _)
  · rcases hw with rfl | ⟨rfl, hne, o', ho'⟩
    · exact absurd rfl he
    · -- a message of another connection
      have hog : o.connection ≠ g := fun heq => hne (heq ▸ hg)
      rw [addressed_concat_of_ne hog]
      exact h.current g hg (by rw [ho']; simp) (by rw [ho']; simp)

/-- The writer skips its message. -/
theorem skip (h : OutboundInv done t) {o : QueuedOutbound} (hw : t.writer = .holding o) :
    OutboundInv done { t with writer := .idle } := by
  have hflight : t.inFlight = o :: t.queue := by simp [Transport.inFlight, hw, WriterPc.outbound?]
  refine { h with
    fresh_message := fun k hk o' ho' => h.fresh_message k hk o' ?_
    fresh_failed := by simp
    current := fun g hg _ _ => h.current g hg (by simp [hw]) (by simp [hw])
    writing := by simp }
  rw [hflight]
  rcases List.mem_append.mp ho' with ho' | ho'
  · exact List.mem_append_left _ ho'
  · exact List.mem_append_right _ (List.mem_cons_of_mem _ ho')

/-- The message the writer holds has been written, or cut short. -/
theorem write (h : OutboundInv done t) {o : QueuedOutbound} (hw : t.writer = .writing o)
    (outcome : WriteOutcome) :
    OutboundInv (done ++ [o])
      { t with
        wire := t.wire ++ [o.recordOf outcome]
        writer :=
          match outcome with
          | .written => .idle
          | .failed _ => .failed o.connection } := by
  have htoken : (o.recordOf outcome).token = o.connection := writeAll_token
  have hnot : ∀ k, t.Fresh k → o.connection ≠ k := fun k hk =>
    h.fresh_message k hk o (by simp [Transport.inFlight, hw, WriterPc.outbound?])
  have hwire : ∀ k, o.connection ≠ k →
      onToken k (t.wire ++ [o.recordOf outcome]) = onToken k t.wire := fun k hk =>
    onToken_concat_of_ne (htoken ▸ hk) _
  have hgiven := h.writing o hw
  have hself : onToken o.connection (t.wire ++ [o.recordOf outcome]) =
      onToken o.connection t.wire ++ [o.recordOf outcome] := onToken_concat_self htoken _
  refine { h with
    fresh_message := fun k hk o' ho' => ?_
    fresh_failed := fun k hk => ?_
    blank := fun k hk => (hwire k (hnot k (Transport.Blank.fresh hk))).trans (h.blank k hk)
    greeted := fun k v hk => ?_
    given := fun g => ?_
    first := fun g hg => ?_
    sent := ?_
    current := fun g hg hf he => ?_
    writing := fun o' ho' => ?_ }
  · refine h.fresh_message k hk o' ?_
    simp only [Transport.inFlight, hw, WriterPc.outbound?]
    cases outcome <;> simpa [Transport.inFlight, WriterPc.outbound?] using ho'
  · have := hnot k hk
    cases outcome <;> simp [this]
  · have hf : t.Fresh k := .inr (by rw [show t.reconnector = .greeted k v from hk]; rfl)
    rw [hwire k (hnot k hf)]
    exact h.greeted k v hk
  · by_cases hg : o.connection = g
    · subst hg
      rw [addressed_concat_self rfl, hself]
      cases outcome with
      | written => exact (hgiven.concat o).given
      | failed n => exact hgiven.cut o n
    · rw [hwire g hg, addressed_concat_of_ne hg]
      exact h.given g
  · obtain ⟨hello, v, l, hl⟩ := h.first g hg
    refine ⟨hello, v, l ++ onToken g [o.recordOf outcome], ?_⟩
    rw [onToken_append, hl, List.cons_append]
  · have hrecord : (writtenMessages [o.recordOf outcome]).Sublist [(o.connection, o.message)] := by
      simp only [writtenMessages, QueuedOutbound.recordOf, List.filterMap_cons, writeAll_message,
        writeAll_token, List.filterMap_nil]
      cases o.message <;> simp
    rw [List.map_append, writtenMessages, List.filterMap_append]
    exact h.sent.append hrecord
  · cases outcome with
    | failed n =>
        have hog : o.connection ≠ g := fun heq => hf (by rw [heq])
        rw [hwire g hog, addressed_concat_of_ne hog]
        exact h.current g hg (by rw [hw]; simp) (by rw [hw]; simp)
    | written =>
        by_cases hog : o.connection = g
        · subst hog
          rw [addressed_concat_self rfl, hself]
          exact hgiven.concat o
        · rw [hwire g hog, addressed_concat_of_ne hog]
          exact h.current g hg (by rw [hw]; simp) (by rw [hw]; simp)
  · cases outcome <;> cases ho'

/-- The writer has disconnected the connection of its failure. -/
theorem recovered (h : OutboundInv done t) {g : Nat} (hw : t.writer = .failed g) :
    OutboundInv done
      { t with connection := t.connection.disconnectIfCurrent g, writer := .idle } := by
  have hclosed : OutboundInv done
      { t with connection := t.connection.disconnectIfCurrent g } :=
    h.closed fun k hk => (ConnectionState.disconnectIfCurrent_active.mp hk).1
  refine { hclosed with
    fresh_message := fun k hk o ho => h.fresh_message k hk o ?_
    fresh_failed := by simp
    current := fun k hk _ _ => ?_
    writing := by simp }
  · simpa [Transport.inFlight, hw, WriterPc.outbound?] using ho
  · obtain ⟨ha, hne⟩ := ConnectionState.disconnectIfCurrent_active.mp hk
    refine h.current k ha ?_ (by rw [hw]; simp)
    rw [hw]
    simpa using Ne.symm hne

/-- No message has been queued for a fresh socket. -/
theorem addressed_fresh (h : OutboundInv done t) {k : Nat} (hk : t.Fresh k) :
    addressed k done = [] := by
  refine List.filter_eq_nil_iff.mpr fun o ho => ?_
  simpa using h.fresh_message k hk o (List.mem_append_left _ ho)

/-- A Hello on a blank socket. -/
theorem hello (h : OutboundInv done t) {k : Nat} (hk : t.Blank k) (hello : V2Hello) (v : Viewport)
    (outcome : WriteOutcome) {wire : List Record}
    (hwire : wire = t.wire ++ [writeAll k (.hello hello) v outcome]) :
    (∀ g, Given g (addressed g done) (onToken g wire)) ∧
      (∀ g, g ≠ k → onToken g wire = onToken g t.wire) ∧
      (outcome = .written → GivenAll k [] (onToken k wire)) := by
  subst hwire
  have hself : onToken k (t.wire ++ [writeAll k (.hello hello) v outcome]) =
      [writeAll k (.hello hello) v outcome] := by
    rw [onToken_concat_self writeAll_token, h.blank k hk, List.nil_append]
  have hother : ∀ g, g ≠ k →
      onToken g (t.wire ++ [writeAll k (.hello hello) v outcome]) = onToken g t.wire :=
    fun g hg => onToken_concat_of_ne (by rw [writeAll_token]; exact Ne.symm hg) _
  have hall : outcome = .written → GivenAll k []
      (onToken k (t.wire ++ [writeAll k (.hello hello) v outcome])) := by
    rintro rfl
    exact ⟨hello, v, hself⟩
  refine ⟨fun g => ?_, hother, hall⟩
  by_cases hg : g = k
  · subst hg
    rw [h.addressed_fresh hk.fresh]
    cases outcome with
    | written => exact (hall rfl).given
    | failed n => exact .inr (.inl ⟨hello, v, n, hself⟩)
  · rw [hother g hg]
    exact h.given g

/-- A connection made of a fresh socket that has been given its Hello, and nothing else. -/
theorem installs (h : OutboundInv done t) {k : Nat} (hk : t.Fresh k)
    (hgiven : GivenAll k [] (onToken k u.wire))
    (hwire : ∀ g, g ≠ k → onToken g u.wire = onToken g t.wire)
    (hall : ∀ g, Given g (addressed g done) (onToken g u.wire))
    (hsent : writtenMessages u.wire = writtenMessages t.wire)
    (hfresh : ∀ g, u.Fresh g → t.Fresh g ∧ g ≠ k) (hblank : ∀ g, u.Blank g → t.Blank g)
    (hmain : u.main = t.main) (hqueue : u.queue = t.queue) (hwriter : u.writer = t.writer)
    (hactive : u.connection.active = some k) (hpc : u.reconnector.socket? = none) :
    OutboundInv done u := by
  have hflight : u.inFlight = t.inFlight := by simp only [Transport.inFlight, hwriter, hqueue]
  refine ⟨fun g hg => ?_, fun g hg => ?_, fun g hg => ?_, fun g hg ha => ?_, fun g hg => ?_,
    fun g hg => ?_, fun g v hg => ?_, hall, fun g ha => ?_, hsent ▸ h.sent, fun g ha _ _ => ?_,
    fun o ho => ?_⟩
  · rw [hpc] at hg; cases hg
  · rw [hmain]; exact h.fresh_main g (hfresh g hg).1
  · rw [hflight]; exact h.fresh_message g (hfresh g hg).1
  · rw [hactive] at ha
    exact (hfresh g hg).2 (Option.some.inj ha).symm
  · rw [hwriter]; exact h.fresh_failed g (hfresh g hg).1
  · rw [hwire g (hfresh g (Transport.Blank.fresh hg)).2]
    exact h.blank g (hblank g hg)
  · rw [hg] at hpc; cases hpc
  · rw [hactive] at ha
    obtain rfl := Option.some.inj ha
    obtain ⟨hello, v, hl⟩ := hgiven
    exact ⟨hello, v, _, hl⟩
  · rw [hactive] at ha
    obtain rfl := Option.some.inj ha
    rw [h.addressed_fresh hk]
    exact hgiven
  · rw [hwriter] at ho
    have hne : o.connection ≠ k :=
      h.fresh_message k hk o (by simp [Transport.inFlight, ho, WriterPc.outbound?])
    rw [hwire _ hne]
    exact h.writing o ho

/-- `from_stream`. -/
theorem promoted (h : OutboundInv done t) : OutboundInv done t.fromStream := by
  have hk : t.Blank t.sockets := .inl (Nat.le_refl _)
  obtain ⟨hall, hother, hgiven⟩ := h.hello hk
    (.withPixelFormats t.remoteViewport.1 t.remoteViewport.2 t.pixelFormats) t.remoteViewport
    .written rfl
  refine h.installs hk.fresh (hgiven rfl) hother hall (writtenMessages_hello _ _ _ _ _)
    (fun g hg => ?_) (fun g hg => ?_) rfl rfl rfl rfl rfl
  · rcases hg with hg | hg
    · have hg : t.sockets + 1 ≤ g := hg
      exact ⟨.inl (by omega), by omega⟩
    · cases hg
  · rcases hg with hg | hg
    · have hg : t.sockets + 1 ≤ g := hg
      exact .inl (by omega)
    · cases hg

/-- `install`. -/
theorem installed (h : OutboundInv done t) {k : Nat} {v : Viewport}
    (hr : t.reconnector = .greeted k v) :
    OutboundInv done
      { t with connection := t.connection.reconnect k, reconnector := .installed k } := by
  have hk : t.Fresh k := .inr (by rw [hr]; rfl)
  refine h.installs hk (h.greeted k v hr) (fun _ _ => rfl) h.given rfl (fun g hg => ?_)
    (fun g hg => ?_) rfl rfl rfl rfl rfl
  · rcases hg with hg | hg
    · have hlt := h.made k (by rw [hr]; rfl)
      have hg : t.sockets ≤ g := hg
      exact ⟨.inl hg, by omega⟩
    · cases hg
  · rcases hg with hg | hg
    · exact .inl hg
    · cases hg

/-- The reconnector goes on, with the socket it has or with none. -/
theorem setReconnector (h : OutboundInv done t) {pc : ReconnectorPc}
    (hsocket : ∀ k, pc.socket? = some k → t.reconnector.socket? = some k)
    (hunwritten : ∀ k, pc.unwritten? = some k → t.reconnector.unwritten? = some k)
    (hgreeted : ∀ k v, pc ≠ .greeted k v) : OutboundInv done { t with reconnector := pc } :=
  h.mono rfl rfl rfl rfl (fun _ hk => .inl hk) (fun _ hk => hk) hsocket hunwritten
    fun k v hg => absurd hg (hgreeted k v)

/-- A socket is made, and kept or given up. -/
theorem connected (h : OutboundInv done t) {pc : ReconnectorPc}
    (hpc : pc = .retrying ∨ pc = .connected t.sockets) :
    OutboundInv done { t with sockets := t.sockets + 1, reconnector := pc } := by
  have hsocket : ∀ k, pc.socket? = some k → k = t.sockets := by
    rintro k hk
    rcases hpc with rfl | rfl
    · cases hk
    · exact (Option.some.inj hk).symm
  have hle : ∀ k, t.sockets + 1 ≤ k ∨ pc.socket? = some k → t.sockets ≤ k := by
    rintro k (hk | hk)
    · omega
    · exact (hsocket k hk).symm.le
  refine { h with
    made := fun k hk => ?_
    fresh_main := fun k hk => h.fresh_main k (.inl (hle k hk))
    fresh_message := fun k hk => h.fresh_message k (.inl (hle k hk))
    fresh_active := fun k hk => h.fresh_active k (.inl (hle k hk))
    fresh_failed := fun k hk => h.fresh_failed k (.inl (hle k hk))
    blank := fun k hk => h.blank k (.inl (hle k hk.fresh))
    greeted := fun k v hk => ?_ }
  · rw [hsocket k hk]; exact Nat.lt_succ_self _
  · rcases hpc with rfl | rfl <;> cases hk

/-- The reconnector writes its Hello. -/
theorem greets (h : OutboundInv done t) {k : Nat} {v : Viewport} (outcome : WriteOutcome)
    (hr : t.reconnector = .viewportRead k v) :
    OutboundInv done
      { t with
        wire := t.wire ++ [writeAll k (helloMessage v t.pixelFormats) v outcome]
        reconnector :=
          match outcome with
          | .written => .greeted k v
          | .failed _ => .retrying } := by
  have hk : t.Blank k := .inr (by rw [hr]; rfl)
  have hsocket : t.reconnector.socket? = some k := by rw [hr]; rfl
  obtain ⟨hall, hother, hgiven⟩ := h.hello hk (.withPixelFormats v.1 v.2 t.pixelFormats) v
    outcome rfl
  have hpc : ∀ g, ReconnectorPc.socket?
      (match outcome with
        | .written => .greeted k v
        | .failed _ => .retrying) = some g → t.reconnector.socket? = some g := by
    intro g hg
    cases outcome with
    | written => exact hsocket.trans hg
    | failed n => cases hg
  have hfresh : ∀ g, t.Blank g → g ≠ k → onToken g (t.wire ++
      [writeAll k (helloMessage v t.pixelFormats) v outcome]) = [] := fun g hg hne =>
    (hother g hne).trans (h.blank g hg)
  refine { h with
    made := fun g hg => h.made g (hpc g hg)
    fresh_main := fun g hg => h.fresh_main g (hg.imp id (hpc g))
    fresh_message := fun g hg => h.fresh_message g (hg.imp id (hpc g))
    fresh_active := fun g hg => h.fresh_active g (hg.imp id (hpc g))
    fresh_failed := fun g hg => h.fresh_failed g (hg.imp id (hpc g))
    blank := fun g hg => ?_
    greeted := fun g w hg => ?_
    given := hall
    first := fun g hg => ?_
    sent := (writtenMessages_hello _ _ _ _ _).symm ▸ h.sent
    current := fun g hg hf he => ?_
    writing := fun o ho => ?_ }
  · have hle : t.sockets ≤ g := by
      rcases hg with hg | hg
      · exact hg
      · cases outcome <;> cases hg
    have := h.made k hsocket
    exact hfresh g (.inl hle) (by omega)
  · cases outcome with
    | written => cases hg; exact hgiven rfl
    | failed n => cases hg
  · have hne : g ≠ k := fun heq => h.fresh_active k hk.fresh (heq ▸ hg)
    obtain ⟨hello, w, l, hl⟩ := h.first g hg
    exact ⟨hello, w, l, (hother g hne).trans hl⟩
  · have hne : g ≠ k := fun heq => h.fresh_active k hk.fresh (heq ▸ hg)
    have := h.current g hg hf he
    rwa [← hother g hne] at this
  · have hne : o.connection ≠ k := h.fresh_message k hk.fresh o (by
      rw [Transport.inFlight, show t.writer = .writing o from ho]
      simp [WriterPc.outbound?])
    have := h.writing o ho
    rwa [← hother _ hne] at this

/-- **One step of the main thread.** -/
theorem mainMove (h : OutboundInv done t) {e : MainEvent} (m : MainMove t e u) :
    OutboundInv done u ∧ u.inFlight = t.inFlight ++ accepted t (.main e) := by
  have hnone : t.inFlight = t.inFlight ++ [] := (List.append_nil _).symm
  cases m with
  | promote =>
      exact ⟨h.promoted, by simp [accepted, Transport.inFlight, Transport.fromStream]⟩
  | @storeViewport v =>
      have hframe := h.frame v t.frames t.wakes t.stopping t.reader t.receivedCount
      exact ⟨hframe.settleMain rfl, hnone⟩
  | @setMailbox v previous =>
      have hframe := h.frame t.remoteViewport (t.frames.setViewport v) t.wakes t.stopping t.reader
        t.receivedCount
      refine ⟨hframe.settleMain ?_, hnone⟩
      split <;> rfl
  | viewportFound hm hc | pointerFound hm hc =>
      refine ⟨h.setMain fun k hk => ?_, hnone⟩
      cases hk
      exact ConnectionState.currentToken_eq_ok.mp hc
  | viewportOffline => exact ⟨h.settleMain rfl, hnone⟩
  | viewportQueued hm hq | pointerQueued hm hq =>
      refine ⟨h.enqueue hq (by rw [hm]; rfl), ?_⟩
      simp [accepted, hm, hq, Transport.inFlight, ← Transport.enqueueOutbound_eq_ok hq]
  | viewportRefused hm hq | pointerRefused hm hq =>
      refine ⟨h.settleMain rfl, ?_⟩
      simp only [accepted, hm, hq]
      exact hnone
  | closeAfterFull | dropDisconnect => exact ⟨h.disconnected.settleMain rfl, hnone⟩
  | pointerOffline => exact ⟨h, hnone⟩
  | pollFrame =>
      exact ⟨h.frame t.remoteViewport t.frames.take.1 t.wakes t.stopping t.reader t.receivedCount,
        hnone⟩
  | dropStop =>
      have hframe := h.frame t.remoteViewport t.frames t.wakes true t.reader t.receivedCount
      exact ⟨hframe.settleMain rfl, hnone⟩
  | dropWake =>
      have hframe := h.frame t.remoteViewport t.frames (t.wakes + 1) t.stopping t.reader
        t.receivedCount
      exact ⟨hframe.settleMain rfl, hnone⟩

/-- **One step of the writer.**  Its message is done, or skipped if the clone fails. -/
theorem writerMove (h : OutboundInv done t) {e : WriterEvent} (m : WriterMove t e u) :
    ∃ more kept, OutboundInv (done ++ kept) u ∧ more ++ u.inFlight = t.inFlight ∧
      kept.Sublist more ∧ (Duplicates (.writer e) → kept = more) := by
  have hkeep : ∀ more : List QueuedOutbound, OutboundInv (done ++ more) u →
      more ++ u.inFlight = t.inFlight → ∃ more kept, OutboundInv (done ++ kept) u ∧
        more ++ u.inFlight = t.inFlight ∧ kept.Sublist more ∧
        (Duplicates (.writer e) → kept = more) :=
    fun _ hu hflight => ⟨_, _, hu, hflight, .refl _, fun _ => rfl⟩
  cases m with
  | @stop o queue hw hq =>
      refine hkeep [o] (h.drop ?_ (.inl rfl)) ?_
      · simp [Transport.inFlight, hw, hq, WriterPc.outbound?]
      · simp [Transport.inFlight, hw, hq, WriterPc.outbound?]
  | @dequeue o queue hw hq =>
      have hu : OutboundInv done { t with queue, writer := .holding o } :=
        h.hold (by simp [Transport.inFlight, hw, hq, WriterPc.outbound?]) (by simp [hw]) (by simp)
          (by simp)
      refine hkeep [] (by rwa [List.append_nil]) ?_
      simp [Transport.inFlight, hw, hq, WriterPc.outbound?]
  | @cloneStream o hw ha =>
      have hflight : t.inFlight = o :: t.queue := by
        simp [Transport.inFlight, hw, WriterPc.outbound?]
      have hu : OutboundInv done { t with writer := .writing o } :=
        h.hold hflight.symm (by simp [hw]) (by simp) fun o' ho' => by
          cases ho'
          exact h.current _ ha (by simp [hw]) (by simp [hw])
      refine hkeep [] (by rwa [List.append_nil]) ?_
      rw [hflight]
      rfl
  | @stale o _ hw ha =>
      have hflight : t.inFlight = o :: t.queue := by
        simp [Transport.inFlight, hw, WriterPc.outbound?]
      refine hkeep [o] (h.drop hflight (.inr ⟨rfl, ha, o, hw⟩)) ?_
      rw [hflight]
      rfl
  | @cloneFailed o hw =>
      -- nothing of it is on the socket, and the next message may be
      refine ⟨[o], [], by rw [List.append_nil]; exact h.skip hw, ?_, List.nil_sublist _,
        fun hok => absurd rfl hok⟩
      simp [Transport.inFlight, hw, WriterPc.outbound?]
  | @write o hw =>
      exact hkeep [o] (h.write hw .written)
        (by simp [Transport.inFlight, hw, WriterPc.outbound?])
  | @fail o n hw =>
      exact hkeep [o] (h.write hw (.failed n))
        (by simp [Transport.inFlight, hw, WriterPc.outbound?])
  | @closeAfterFailure token hw =>
      refine hkeep [] (by rw [List.append_nil]; exact h.recovered hw) ?_
      simp [Transport.inFlight, hw, WriterPc.outbound?]

/-- **One step of the reader.** -/
theorem readerMove (h : OutboundInv done t) {e : ReaderEvent} (m : ReaderMove t e u) :
    OutboundInv done u ∧ u.inFlight = t.inFlight := by
  cases m with
  | receive | publish | readerEnd =>
      exact ⟨h.frame t.remoteViewport _ _ t.stopping _ _, rfl⟩

/-- **One step of the reconnector.** -/
theorem reconnectorMove (h : OutboundInv done t) {e : ReconnectorEvent}
    (m : ReconnectorMove t e u) : OutboundInv done u ∧ u.inFlight = t.inFlight := by
  cases m with
  | wake =>
      have hframe := h.frame t.remoteViewport t.frames (t.wakes - 1) t.stopping t.reader
        t.receivedCount
      exact ⟨hframe.setReconnector (by rintro k ⟨⟩) (by rintro k ⟨⟩) (by simp), rfl⟩
  | join | giveUp | cloneFailed | stop | spawnFailed =>
      exact ⟨h.setReconnector (by rintro k ⟨⟩) (by rintro k ⟨⟩) (by simp), rfl⟩
  | disconnect =>
      exact ⟨h.disconnected.setReconnector (by rintro k ⟨⟩) (by rintro k ⟨⟩) (by simp), rfl⟩
  | connect => exact ⟨h.connected (.inr rfl), rfl⟩
  | unconfigured hr =>
      have hretry : OutboundInv done
          { t with sockets := t.sockets + 1, reconnector := .retrying } :=
        h.connected (.inl rfl)
      rw [← hr] at hretry
      exact ⟨hretry, rfl⟩
  | readViewport hr =>
      refine ⟨h.setReconnector (fun k hk => ?_) (fun k hk => ?_) (by simp), rfl⟩
      · rw [hr]; exact hk
      · rw [hr]; exact hk
  | greet hr => exact ⟨h.greets .written hr, rfl⟩
  | @greetFailed socket n v hr => exact ⟨h.greets (.failed n) hr, rfl⟩
  | install hr => exact ⟨h.installed hr, rfl⟩
  | @spawnReader socket =>
      have hframe := h.frame t.remoteViewport t.frames t.wakes t.stopping (.reading socket)
        t.receivedCount
      exact ⟨hframe.setReconnector (by rintro k ⟨⟩) (by rintro k ⟨⟩) (by simp), rfl⟩

/-- **One step.**  What is queued is on its way; what was on its way is so, or done or skipped. -/
theorem step (h : OutboundInv done t) {e : TransportEvent} (k : transportStep t e = some u) :
    ∃ more kept, OutboundInv (done ++ kept) u ∧
      more ++ u.inFlight = t.inFlight ++ accepted t e ∧ kept.Sublist more ∧
      (Duplicates e → kept = more) := by
  have hnone : ∀ {l : List QueuedOutbound}, OutboundInv done u → u.inFlight = t.inFlight ++ l →
      ∃ more kept, OutboundInv (done ++ kept) u ∧ more ++ u.inFlight = t.inFlight ++ l ∧
        kept.Sublist more ∧ (Duplicates e → kept = more) :=
    fun hu hflight => ⟨[], [], by rwa [List.append_nil], hflight, .slnil, fun _ => rfl⟩
  cases transportStep_move k with
  | main m => exact hnone (h.mainMove m).1 (h.mainMove m).2
  | writer m =>
      obtain ⟨more, kept, hu, hflight, hkept⟩ := h.writerMove m
      exact ⟨more, kept, hu, hflight.trans (List.append_nil _).symm, hkept⟩
  | reader m =>
      obtain ⟨hu, hflight⟩ := h.readerMove m
      exact hnone hu (hflight.trans (List.append_nil _).symm)
  | reconnector m =>
      obtain ⟨hu, hflight⟩ := h.reconnectorMove m
      exact hnone hu (hflight.trans (List.append_nil _).symm)

end OutboundInv

/-- Along a run: what has been queued is done, skipped or on its way; and nothing is skipped if
every socket can be duplicated. -/
theorem outboundInv {v : Viewport} {formats : V2PixelFormats} {es : List TransportEvent}
    {t : Transport} (h : Run (Fn transportStep) (.start v formats) es t) :
    ∃ done past, OutboundInv done t ∧ enqueued (.start v formats) es = past ++ t.inFlight ∧
      done.Sublist past ∧ ((∀ e ∈ es, Duplicates e) → done = past) := by
  refine h.history (I := fun es t => ∃ done past, OutboundInv done t ∧
    enqueued (.start v formats) es = past ++ t.inFlight ∧ done.Sublist past ∧
    ((∀ e ∈ es, Duplicates e) → done = past))
    ⟨[], [], .start v formats, rfl, .slnil, fun _ => rfl⟩ ?_
  intro es t e u hrun ih k
  obtain ⟨done, past, inv, hpast, hsub, heq⟩ := ih
  obtain ⟨more, kept, inv', hmore, hkept, hall⟩ := inv.step k
  refine ⟨done ++ kept, past ++ more, inv', ?_, hsub.append hkept, fun hes => ?_⟩
  · rw [enqueued_append hrun, hpast, List.append_assoc, List.append_assoc, hmore]
  · rw [heq fun e he => hes e (List.mem_append_left _ he), hall (hes e (by simp))]

/-! ### The bytes of a connection -/

/-- What a socket has been given, in order. -/
def bytesOn (g : Nat) (wire : List Record) : List UInt8 := (onToken g wire).flatMap Record.bytes

/-- The bytes are a Hello, a prefix of the messages and at most one message cut short, the next. -/
def Delivered (messages : List QueuedOutbound) (bytes : List UInt8) : Prop :=
  ∃ h sent rest tail, messages = sent ++ rest ∧
    bytes = messageBytes (.hello h) ++ sent.flatMap (fun o => messageBytes o.message) ++ tail ∧
    (tail = [] ∨ ∃ o rest' n, rest = o :: rest' ∧ n < (messageBytes o.message).length ∧
      tail = (messageBytes o.message).take n)

theorem flatMap_record (l : List QueuedOutbound) :
    (l.map QueuedOutbound.record).flatMap Record.bytes =
      l.flatMap fun o => messageBytes o.message := by
  induction l with
  | nil => rfl
  | cons o l ih => simp [ih, QueuedOutbound.record, writeAll]

theorem GivenAll.bytes {g : Nat} {sent : List QueuedOutbound} {l : List Record}
    (h : GivenAll g sent l) :
    ∃ hello, l.flatMap Record.bytes =
      messageBytes (.hello hello) ++ sent.flatMap fun o => messageBytes o.message := by
  obtain ⟨hello, v, rfl⟩ := h
  refine ⟨hello, ?_⟩
  rw [List.flatMap_cons, flatMap_record]
  rfl

/-- A message cut short is a part of it. -/
theorem recordOf_bytes (o : QueuedOutbound) (n : Nat) :
    (o.recordOf (.failed n)).bytes = [] ∨ ∃ m, m < (messageBytes o.message).length ∧
      (o.recordOf (.failed n)).bytes = (messageBytes o.message).take m := by
  simp only [QueuedOutbound.recordOf, writeAll]
  by_cases h : (messageBytes o.message).length = 0
  · exact .inl (by rw [List.length_eq_zero_iff.mp h, List.take_nil])
  · exact .inr ⟨_, by omega, rfl⟩

/-- Once the Hello is whole, the messages follow. -/
theorem Given.delivered {g : Nat} {messages : List QueuedOutbound} {l l' : List Record}
    {hello : V2Hello} {v : Viewport} (h : Given g messages l)
    (hl : l = writeAll g (.hello hello) v .written :: l') :
    Delivered messages (l.flatMap Record.bytes) := by
  rcases h with h | ⟨hello', v', n, h⟩ | ⟨sent, rest, whole, tail, hm, hw, rfl, ht⟩
  · rw [h] at hl; cases hl
  · rw [h] at hl
    have := congrArg Record.whole (List.cons.inj hl).1
    cases this
  · obtain ⟨hello', hbytes⟩ := hw.bytes
    rcases ht with rfl | ⟨o, rest', n, rfl, rfl⟩
    · exact ⟨hello', sent, rest, [], hm, by rw [List.append_nil, hbytes, List.append_nil],
        .inl rfl⟩
    · refine ⟨hello', sent, o :: rest', (o.recordOf (.failed n)).bytes, hm, ?_, ?_⟩
      · rw [List.flatMap_append, hbytes]
        simp
      · rcases recordOf_bytes o n with hb | ⟨m, hlt, hb⟩
        · exact .inl hb
        · exact .inr ⟨o, rest', m, rfl, hlt, hb⟩

/-- A record cut short is the last one. -/
theorem Given.last {g : Nat} {messages : List QueuedOutbound} {l l' : List Record}
    (h : Given g messages (l ++ l')) (hcut : ∃ r ∈ l, r.whole = false) : l' = [] := by
  obtain ⟨r, hr, hwhole⟩ := hcut
  rcases h with h | ⟨hello, v, n, h⟩ | ⟨sent, rest, whole, tail, -, ⟨hello, v, hw⟩, h, ht⟩
  · rw [(List.append_eq_nil_iff.mp h).1] at hr
    cases hr
  · cases l with
    | nil => cases hr
    | cons r' l => exact (List.append_eq_nil_iff.mp (List.cons.inj h).2).2
  · have hall : ∀ r ∈ whole, r.whole = true := by
      intro r hr
      rw [hw] at hr
      rcases List.mem_cons.mp hr with rfl | hr
      · rfl
      · obtain ⟨o, -, rfl⟩ := List.mem_map.mp hr
        rfl
    rcases List.eq_nil_or_concat l' with rfl | ⟨init, x, rfl⟩
    · rfl
    · -- `r` is before the last record, where all are whole
      have hmem : r ∈ whole := by
        rcases ht with rfl | ⟨o, rest', n, -, rfl⟩
        · rw [List.append_nil] at h
          exact h ▸ List.mem_append_left _ hr
        · rw [List.concat_eq_append, ← List.append_assoc] at h
          rw [← (List.append_inj' h rfl).1]
          exact List.mem_append_left _ hr
      rw [hall r hmem] at hwhole
      cases hwhole

/-- A step only appends to what the sockets have been given. -/
theorem transportStep_wire {t u : Transport} {e : TransportEvent}
    (k : transportStep t e = some u) : ∃ l, u.wire = t.wire ++ l := by
  have hnone : t.wire = t.wire ++ [] := (List.append_nil _).symm
  cases transportStep_move k with
  | main m =>
      cases m with
      | promote => exact ⟨_, rfl⟩
      | _ => exact ⟨[], hnone⟩
  | writer m =>
      cases m with
      | write | fail => exact ⟨_, rfl⟩
      | _ => exact ⟨[], hnone⟩
  | reader m => cases m <;> exact ⟨[], hnone⟩
  | reconnector m =>
      cases m with
      | greet | greetFailed => exact ⟨_, rfl⟩
      | _ => exact ⟨[], hnone⟩

/-- What is on the wire stays there. -/
theorem run_wire {t u : Transport} {es : List TransportEvent}
    (h : Run (Fn transportStep) t es u) : ∃ l, u.wire = t.wire ++ l := by
  refine h.invariant (I := fun u => ∃ l, u.wire = t.wire ++ l) (fun ih k => ?_) ⟨[], by simp⟩
  obtain ⟨l, hl⟩ := ih
  obtain ⟨l', hl'⟩ := transportStep_wire k
  exact ⟨l ++ l', by rw [hl', hl, List.append_assoc]⟩

/-- **Outbound generations.**  In every run: a connection that was current at any time has been
given one Hello, a prefix of the messages queued for it, and at most one more cut short, if every
socket the writer needed could be duplicated; no message went to another connection, and none went
twice; nothing follows a message cut short, whatever happens later; and a pointer without a
connection is queued for none. -/
theorem outbound_generations {v : Viewport} {formats : V2PixelFormats}
    {es : List TransportEvent} {t : Transport}
    (h : Run (Fn transportStep) (.start v formats) es t) :
    (∀ es₁ es₂ s g, es = es₁ ++ es₂ → Run (Fn transportStep) (.start v formats) es₁ s →
      s.connection.active = some g → (∀ e ∈ es, Duplicates e) →
      Delivered (addressed g (enqueued (.start v formats) es)) (bytesOn g t.wire)) ∧
    (writtenMessages t.wire).Sublist
      ((enqueued (.start v formats) es).map fun o => (o.connection, o.message)) ∧
    (∀ es' t' g, Run (Fn transportStep) t es' t' → (∃ r ∈ onToken g t.wire, r.whole = false) →
      bytesOn g t'.wire = bytesOn g t.wire) ∧
    ∀ p u, t.connection.active = none → transportStep t (.main (.lookupPointer p)) = some u →
      u = t ∧ accepted t (.main (.lookupPointer p)) = [] := by
  obtain ⟨done, past, inv, hpast, hsub, heq⟩ := outboundInv h
  refine ⟨fun es₁ es₂ s g he hs hg hes => ?_, ?_, fun es' t' g h' hcut => ?_, fun p u hn k => ?_⟩
  · -- the Hello was whole when the connection was current, and what followed came after it
    obtain ⟨s', hs', hrest⟩ := h.split he
    obtain rfl := hs.functional hs'
    obtain ⟨done₁, -, inv₁, -⟩ := outboundInv hs
    obtain ⟨hello, w, l, hl⟩ := inv₁.first g hg
    obtain ⟨l', hl'⟩ := run_wire hrest
    have hwire : onToken g t.wire =
        writeAll g (.hello hello) w .written :: (l ++ onToken g l') := by
      rw [hl', onToken_append, hl, List.cons_append]
    rw [hpast, ← heq hes, addressed_append]
    exact ((inv.given g).append _).delivered hwire
  · rw [hpast, List.map_append]
    exact (inv.sent.trans (hsub.map _)).trans (List.sublist_append_left _ _)
  · obtain ⟨done', -, inv', -⟩ := outboundInv (h.trans h')
    obtain ⟨l, hl⟩ := run_wire h'
    have hgiven := inv'.given g
    rw [hl, onToken_append] at hgiven
    rw [bytesOn, hl, onToken_append, hgiven.last hcut, List.append_nil]
    rfl
  · refine ⟨?_, rfl⟩
    have m : MainMove t (.lookupPointer p) u := mainStep_move k
    cases m with
    | pointerFound hm hc =>
        rw [ConnectionState.currentToken_eq_ok.mp hc] at hn
        cases hn
    | pointerOffline => rfl

/-- A press and its release are queued; the press is written and the release cut short. -/
def cutRelease : List TransportEvent :=
  [.main .promote, .main (.lookupPointer ⟨.down, 3, 5⟩), .main .enqueuePointer,
    .main (.lookupPointer ⟨.up, 3, 5⟩), .main .enqueuePointer, .writer .dequeue,
    .writer (.cloneStream true), .writer (.write .written), .writer .dequeue, .writer (.cloneStream true),
    .writer (.write (.failed 3))]

theorem outbound_generations_cut :
    ∃ t t', Run (Fn transportStep) (.start (1272, 1624) .MONO1) cutRelease t ∧
      Run (Fn transportStep) t [.writer .closeAfterFailure] t' ∧
      Delivered (addressed 0 (enqueued (.start (1272, 1624) .MONO1) cutRelease))
        (bytesOn 0 t.wire) ∧
      bytesOn 0 t'.wire = bytesOn 0 t.wire ∧
      (writtenMessages t.wire).Sublist
        ((enqueued (.start (1272, 1624) .MONO1) cutRelease).map fun o =>
          (o.connection, o.message)) := by
  obtain ⟨s, hs⟩ : ∃ s, exec transportStep (.start (1272, 1624) .MONO1) (cutRelease.take 1) =
      some s := ⟨_, rfl⟩
  obtain ⟨t, ht⟩ : ∃ t, exec transportStep (.start (1272, 1624) .MONO1) cutRelease = some t :=
    ⟨_, rfl⟩
  obtain ⟨t', ht', hcut⟩ : ∃ t', transportStep t (.writer .closeAfterFailure) = some t' ∧
      ∃ r ∈ onToken 0 t.wire, r.whole = false := by
    cases ht
    exact ⟨_, rfl, _, List.mem_of_getLast? rfl, rfl⟩
  have hrun := run_of_exec ht
  obtain ⟨hdelivered, hsent, hfinal, -⟩ := outbound_generations hrun
  refine ⟨t, t', hrun, .one ht', ?_, hfinal _ t' 0 (.one ht') hcut, hsent⟩
  exact hdelivered (cutRelease.take 1) _ s 0 rfl (run_of_exec hs) (by cases hs; rfl) (by decide)

end PaperPad.Device
