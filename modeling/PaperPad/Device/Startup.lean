import PaperPad.Device.Lifetime

/-!
# Device — Startup

How a `Paperspoon` built by `start` comes online: the startup worker of
`start_with_pixel_formats`, its channel of one update, and `promote_startup`, which every public
call of the main thread runs first (`send_viewport_changed` once it has a change).  The transport
is the one of `Device/Transport`; a promoted connection is its `promote` step.

The worker ends after one Connected update, and the reconnector exists only once `from_stream` has
succeeded on it.  `never_stranded`: if `from_stream` never fails and the reconnector never panics,
one of the two is always at work, and from every state there is a way to a connection that is read.
-/

namespace PaperPad.Device

open Protocol Transition

/-- The interval `start` passes. -/
def STARTUP_RETRY_INTERVAL_MS : Nat := 2000

/-! ### State -/

/-- What the worker sends. -/
inductive StartupUpdate where
  | connected
  | failed (retryAfter : Option Nat)
  deriving DecidableEq

/-- Where the worker is. -/
inductive StartupWorker where
  /-- In the loop, about to try. -/
  | attempting
  /-- In a `send`, which waits until the channel has room. -/
  | sending (update : StartupUpdate)
  /-- Between two attempts. -/
  | waiting
  | ended
  deriving DecidableEq

/-- How `from_stream` ends. -/
inductive FromStream where
  | ok
  | helloFailed
  | cloneFailed
  deriving DecidableEq

/-- A `Paperspoon` with its startup. -/
structure Startup where
  retryInterval : Option Nat
  worker : StartupWorker := .attempting
  channel : List StartupUpdate := []
  /-- `startup_rx` is there. -/
  receiver : Bool := true
  transport : Transport
  deriving DecidableEq

/-- A step of the worker, of `promote_startup`, or of the transport. -/
inductive StartupEvent where
  | attempt (succeeded : Bool)
  | send
  | retry
  | stop
  /-- The main thread runs `promote_startup`. -/
  | promoteStartup (result : FromStream)
  /-- Any other step of the transport. -/
  | transport (event : TransportEvent)
  deriving DecidableEq

/-! ### Steps -/

/-- `Paperspoon::start`. -/
def Startup.start (viewport : Viewport) (pixelFormats : V2PixelFormats) : Startup where
  retryInterval := some STARTUP_RETRY_INTERVAL_MS
  transport := .start viewport pixelFormats

/-- `promote_startup`: take the update that has arrived, if any, and act on it. -/
def promoteStartup (s : Startup) (result : FromStream) : Startup :=
  if s.receiver = false then s
  else
    match s.channel with
    | [] => if s.worker = .ended then { s with receiver := false } else s
    | .connected :: channel =>
        match result with
        | .ok => { s with channel, receiver := false, transport := s.transport.fromStream }
        | .helloFailed | .cloneFailed => { s with channel, receiver := false }
    | .failed retryAfter :: channel => { s with channel, receiver := retryAfter.isSome }

/-- One step. -/
def startupStep (s : Startup) : StartupEvent → Option Startup
  | .attempt succeeded =>
      match s.worker with
      | .attempting =>
          let update := if succeeded then .connected else .failed s.retryInterval
          some { s with worker := .sending update }
      | _ => none
  | .send =>
      match s.worker with
      | .sending update =>
          if s.receiver = false then some { s with worker := .ended }
          else if s.channel ≠ [] then none
          else
            let worker :=
              match update with
              | .connected | .failed none => .ended
              | .failed (some _) => .waiting
            some { s with channel := [update], worker }
      | _ => none
  | .retry =>
      match s.worker with
      | .waiting => some { s with worker := .attempting }
      | _ => none
  | .stop =>
      match s.worker with
      | .attempting | .waiting =>
          if s.transport.stopping then some { s with worker := .ended } else none
      | _ => none
  | .promoteStartup result =>
      match s.transport.main with
      | .idle | .announcing _ => some (promoteStartup s result)
      | _ => none
  | .transport event =>
      if event = .main .promote then none
      else
        -- `drop` takes `startup_rx` once it has set `stopping`
        (transportStep s.transport event).map fun transport =>
          { s with transport, receiver := s.receiver && !transport.stopping }

/-- What each event can do, with what it finds. -/
inductive StartupMove (s : Startup) : StartupEvent → Startup → Prop where
  | attempt {succeeded : Bool} (hw : s.worker = .attempting) :
      StartupMove s (.attempt succeeded)
        { s with
          worker := .sending (if succeeded then .connected else .failed s.retryInterval) }
  | unreceived (hr : s.receiver = false) : StartupMove s .send { s with worker := .ended }
  | sendLast {update : StartupUpdate} (hw : s.worker = .sending update)
      (hu : update = .connected ∨ update = .failed none) :
      StartupMove s .send { s with channel := [update], worker := .ended }
  | sendRetry {retryAfter : Nat} (hw : s.worker = .sending (.failed (some retryAfter)))
      (hr : s.receiver = true) :
      StartupMove s .send { s with channel := [.failed (some retryAfter)], worker := .waiting }
  | retry (hw : s.worker = .waiting) : StartupMove s .retry { s with worker := .attempting }
  | stop (hs : s.transport.stopping = true) : StartupMove s .stop { s with worker := .ended }
  | promoteStartup {result : FromStream}
      (hm : s.transport.main = .idle ∨ ∃ v, s.transport.main = .announcing v) :
      StartupMove s (.promoteStartup result) (promoteStartup s result)
  | transport {e : TransportEvent} {u : Transport} (he : e ≠ .main .promote)
      (hu : transportStep s.transport e = some u) :
      StartupMove s (.transport e)
        { s with transport := u, receiver := s.receiver && !u.stopping }

/-- A step is one of the moves. -/
theorem startupStep_move {s t : Startup} {e : StartupEvent} (k : startupStep s e = some t) :
    StartupMove s e t := by
  cases e with
  | attempt succeeded =>
      simp only [startupStep] at k
      split at k
      · next hw => cases k; exact .attempt hw
      · cases k
  | send =>
      simp only [startupStep] at k
      split at k
      · next update hw =>
          split at k
          · next hr => cases k; exact .unreceived hr
          · next hr =>
              split at k
              · cases k
              · cases update with
                | connected => cases k; exact .sendLast hw (.inl rfl)
                | failed retryAfter =>
                    cases retryAfter with
                    | none => cases k; exact .sendLast hw (.inr rfl)
                    | some retryAfter => cases k; exact .sendRetry hw (by simpa using hr)
      · cases k
  | retry =>
      simp only [startupStep] at k
      split at k
      · next hw => cases k; exact .retry hw
      · cases k
  | stop =>
      simp only [startupStep] at k
      split at k
      · split at k
        · next hs => cases k; exact .stop hs
        · cases k
      · split at k
        · next hs => cases k; exact .stop hs
        · cases k
      · cases k
  | promoteStartup result =>
      simp only [startupStep] at k
      split at k
      · next hm => cases k; exact .promoteStartup (.inl hm)
      · next v hm => cases k; exact .promoteStartup (.inr ⟨v, hm⟩)
      · cases k
  | transport e =>
      simp only [startupStep] at k
      split at k
      · cases k
      · next he =>
          obtain ⟨u, hu, rfl⟩ := Option.map_eq_some_iff.mp k
          exact .transport he hu

/-! ### The transport inside the startup -/

/-- While there is something to promote, nothing has been promoted. -/
def Startup.Offline (s : Startup) : Prop :=
  s.receiver = true → s.transport.reconnector = .absent

/-- A promotion leaves the transport alone, or makes it one with a connection, once. -/
theorem promoteStartup_cases (s : Startup) (result : FromStream) :
    ((promoteStartup s result).transport = s.transport ∧
        ((promoteStartup s result).receiver = true → s.receiver = true)) ∨
      (s.receiver = true ∧ (promoteStartup s result).receiver = false ∧
        (promoteStartup s result).transport = s.transport.fromStream) := by
  simp only [promoteStartup]
  by_cases hr : s.receiver = false
  · rw [if_pos hr]
    exact .inl ⟨rfl, id⟩
  · have hr' : s.receiver = true := by simpa using hr
    rw [if_neg hr]
    split
    · split
      · exact .inl ⟨rfl, fun _ => hr'⟩
      · exact .inl ⟨rfl, id⟩
    · split
      · exact .inr ⟨hr', rfl, rfl⟩
      · exact .inl ⟨rfl, fun _ => hr'⟩
      · exact .inl ⟨rfl, fun _ => hr'⟩
    · exact .inl ⟨rfl, fun _ => hr'⟩

/-- A step of the startup is one of its transport, or leaves the transport alone. -/
theorem Startup.Offline.step {s s' : Startup} {e : StartupEvent} (h : s.Offline)
    (k : startupStep s e = some s') :
    s'.Offline ∧ (s'.transport = s.transport ∨
      ∃ te, transportStep s.transport te = some s'.transport) := by
  cases startupStep_move k with
  | attempt | unreceived | sendLast | sendRetry | retry | stop => exact ⟨h, .inl rfl⟩
  | @promoteStartup result hm =>
      rcases promoteStartup_cases s result with ⟨ht, hr⟩ | ⟨hr, hr', ht⟩
      · exact ⟨fun h' => ht ▸ h (hr h'), .inl ht⟩
      · refine ⟨fun h' => absurd (hr'.symm.trans h') (by decide), .inr ⟨.main .promote, ?_⟩⟩
        rw [ht]
        rcases hm with hm | ⟨v, hm⟩ <;> simp only [transportStep, mainStep, h hr, hm]
  | transport he hu =>
      refine ⟨fun hr => ?_, .inr ⟨_, hu⟩⟩
      exact (transportStep_absent he hu).1.mpr (h (Bool.and_eq_true_iff.mp hr).1)

/-- A run of the startup, seen from its transport. -/
theorem Startup.Offline.projects {s s' : Startup} {es : List StartupEvent} (h : s.Offline)
    (k : Run (Fn startupStep) s es s') :
    s'.Offline ∧ ∃ tes, Run (Fn transportStep) s.transport tes s'.transport := by
  refine k.invariant
    (I := fun s' => s'.Offline ∧ ∃ tes, Run (Fn transportStep) s.transport tes s'.transport)
    (fun ih k => ?_) ⟨h, [], .refl _⟩
  obtain ⟨ho, tes, hrun⟩ := ih
  obtain ⟨ho', ht | ⟨te, hte⟩⟩ := ho.step k
  · exact ⟨ho', tes, ht ▸ hrun⟩
  · exact ⟨ho', _, hrun.snoc hte⟩

/-- It starts offline. -/
theorem Startup.start_offline (v : Viewport) (formats : V2PixelFormats) :
    (Startup.start v formats).Offline := fun _ => rfl

/-- It starts without a reconnector. -/
theorem Startup.start_unborn (v : Viewport) (formats : V2PixelFormats) :
    (Startup.start v formats).transport.Unborn := fun _ => rfl

/-! ### Agents -/

/-- The reconnector is there, and its thread has neither ended nor panicked. -/
def ReconnectorPc.Alive (pc : ReconnectorPc) : Prop := pc ≠ absent ∧ pc ≠ ended ∧ pc ≠ panicked

/-- Something is at work that can bring the transport online. -/
def Startup.Agent (s : Startup) : Prop :=
  (s.receiver = true ∧ (s.worker ≠ .ended ∨ .connected ∈ s.channel)) ∨
    s.transport.reconnector.Alive

/-- Before `drop`, with a current connection that is read. -/
def Startup.Online (s : Startup) : Prop :=
  s.transport.stopping = false ∧ ∃ socket, s.transport.connection.active = some socket ∧
    s.transport.reader = .reading socket

/-- A Connected update that is promoted makes a transport. -/
def PromoteOk (s : Startup) (e : StartupEvent) : Prop :=
  ∀ result, e = .promoteStartup result → s.receiver = true → s.channel.head? = some .connected →
    result = .ok

/-- The reconnector can duplicate the socket it has greeted, and gets the reader's thread. -/
def Unpanicked (e : TransportEvent) : Prop :=
  e ≠ .reconnector .cloneFailed ∧ e ≠ .reconnector .spawnFailed

/-- The condition on a step. -/
def StartupOk (s : Startup) (e : StartupEvent) : Prop :=
  PromoteOk s e ∧ ∀ e', e = .transport e' → Unpanicked e'

/-! ### Invariants -/

/-- The main thread is in `drop`. -/
def MainPc.Drops : MainPc → Prop
  | stopping | disconnected | dropped => True
  | _ => False

/-- The reconnector ends only in `drop`, and a reader that has ended has woken it. -/
structure Wakeful (t : Transport) : Prop where
  unpanicked : t.reconnector ≠ .panicked
  ended : t.reconnector = .ended → t.stopping = true
  woken : t.reconnector = .waiting → t.reader = .ended → t.wakes ≠ 0
  drops : t.main.Drops → t.stopping = true

namespace Wakeful

variable {t u : Transport}

theorem start (v : Viewport) (formats : V2PixelFormats) : Wakeful (.start v formats) where
  unpanicked := nofun
  ended := nofun
  woken := nofun
  drops := nofun

/-- `from_stream` leaves a transport that wakes its reconnector. -/
theorem fromStream (h : Wakeful t) : Wakeful t.fromStream where
  unpanicked := nofun
  ended := nofun
  woken := nofun
  drops := h.drops

/-- One step of the transport. -/
theorem step (h : Wakeful t) {e : TransportEvent} (hok : Unpanicked e)
    (k : transportStep t e = some u) : Wakeful u := by
  cases transportStep_move k with
  | main m =>
      cases m with
      | promote => exact h.fromStream
      | setMailbox hm =>
          refine { h with drops := fun hd => ?_ }
          dsimp only at hd
          split at hd <;> exact hd.elim
      | dropStop => exact { h with ended := fun _ => rfl, drops := fun _ => rfl }
      | dropDisconnect hm => exact { h with drops := fun _ => h.drops (by rw [hm]; trivial) }
      | dropWake hm =>
          exact { h with
            woken := fun _ _ => Nat.succ_ne_zero _, drops := fun _ => h.drops (by rw [hm]; trivial) }
      | pointerOffline => exact h
      | pollFrame => exact { h with }
      | _ => exact { h with drops := False.elim }
  | writer m => cases m <;> exact { h with }
  | reader m =>
      cases m with
      | receive | publish => exact { h with woken := nofun }
      | readerEnd => exact { h with woken := fun _ _ => Nat.succ_ne_zero _ }
  | reconnector m =>
      cases m with
      | giveUp _ hs | stop _ hs =>
          exact { h with unpanicked := nofun, ended := fun _ => hs, woken := nofun }
      | unconfigured => exact { h with }
      | cloneFailed => exact absurd rfl hok.1
      | spawnFailed => exact absurd rfl hok.2
      | _ => exact { h with unpanicked := nofun, ended := nofun, woken := nofun }

end Wakeful

/-- Before the transport is online and before `drop`, the worker tries on until it has sent a
Connected update, and no update of a failure ends the startup. -/
structure StartupInv (s : Startup) : Prop where
  interval : s.retryInterval ≠ none
  sending : s.worker ≠ .sending (.failed none)
  channel : .failed none ∉ s.channel
  online : s.receiver = true → s.transport.reconnector = .absent
  agent : s.transport.stopping = false → s.transport.reconnector = .absent →
    s.receiver = true ∧ (s.worker = .ended → s.channel = [.connected])
  wakeful : Wakeful s.transport

/-- It holds of what `start` builds. -/
theorem StartupInv.init (v : Viewport) (formats : V2PixelFormats) :
    StartupInv (.start v formats) where
  interval := nofun
  sending := nofun
  channel := nofun
  online _ := rfl
  agent _ _ := ⟨rfl, nofun⟩
  wakeful := .start v formats

/-- `promote_startup` keeps it, unless `from_stream` fails. -/
theorem StartupInv.promoteStartup {s : Startup} (h : StartupInv s) {result : FromStream}
    (hok : s.receiver = true → s.channel.head? = some .connected → result = .ok) :
    StartupInv (promoteStartup s result) := by
  simp only [Device.promoteStartup]
  split
  · exact h
  · next hr =>
      have hr : s.receiver = true := by simpa using hr
      have habsent := h.online hr
      split
      · next hc =>
          split
          · -- the worker ended and left nothing: only under `stopping`
            next hw =>
              refine { h with online := nofun, agent := fun hs _ => ?_ }
              have := (h.agent hs habsent).2 hw
              rw [hc] at this
              cases this
          · exact h
      · -- Connected: `from_stream` makes the transport
        next channel hc =>
          obtain rfl := hok hr (by rw [hc]; rfl)
          have hchannel : .failed none ∉ channel := fun hm =>
            h.channel (hc ▸ List.mem_cons_of_mem _ hm)
          exact ⟨h.interval, h.sending, hchannel, nofun, nofun, h.wakeful.fromStream⟩
      · -- Failed: the receiver stays as long as there is a retry
        next retryAfter channel hc =>
          have hsome : retryAfter ≠ none := fun he =>
            h.channel (hc ▸ he ▸ List.mem_cons_self)
          refine { h with
            channel := fun hm => h.channel (hc ▸ List.mem_cons_of_mem _ hm)
            online := fun _ => habsent
            agent := fun hs _ => ⟨Option.isSome_iff_ne_none.mpr hsome, fun hw => ?_⟩ }
          have := (h.agent hs habsent).2 hw
          rw [hc] at this
          cases this

/-- **One step of the startup.** -/
theorem StartupInv.step {s t : Startup} {e : StartupEvent} (h : StartupInv s)
    (hok : StartupOk s e) (k : Fn startupStep s e t) : StartupInv t := by
  cases startupStep_move k with
  | @attempt succeeded hw =>
      refine { h with sending := ?_, agent := fun hs ha => ⟨(h.agent hs ha).1, nofun⟩ }
      cases succeeded with
      | true => nofun
      | false =>
          exact fun he => h.interval (StartupUpdate.failed.inj (StartupWorker.sending.inj he))
  | unreceived hr =>
      refine { h with sending := nofun, agent := fun hs ha => ?_ }
      have := (h.agent hs ha).1
      rw [hr] at this
      cases this
  | sendLast hw hu =>
      -- a failure has a retry, so it was the Connected update
      rcases hu with rfl | rfl
      · exact { h with
          sending := nofun, channel := by simp
          agent := fun hs ha => ⟨(h.agent hs ha).1, fun _ => rfl⟩ }
      · exact absurd hw h.sending
  | sendRetry hw hr =>
      exact { h with sending := nofun, channel := by simp, agent := fun _ _ => ⟨hr, nofun⟩ }
  | retry hw =>
      exact { h with sending := nofun, agent := fun hs ha => ⟨(h.agent hs ha).1, nofun⟩ }
  | stop hs =>
      exact { h with sending := nofun, agent := fun hs' => absurd (hs.symm.trans hs') nofun }
  | @promoteStartup result hm => exact h.promoteStartup (hok.1 result rfl)
  | @transport e u he hu =>
      obtain ⟨habsent, hstop⟩ := transportStep_absent he hu
      refine { h with
        online := fun hr => habsent.mpr (h.online (Bool.and_eq_true_iff.mp hr).1)
        agent := fun hs ha => ?_
        wakeful := h.wakeful.step (hok.2 e rfl) hu }
      obtain ⟨hr, hw⟩ := h.agent (hstop hs) (habsent.mp ha)
      have hs : u.stopping = false := hs
      exact ⟨by simp [hr, hs], hw⟩

/-- Before `drop` there is an agent. -/
theorem StartupInv.hasAgent {s : Startup} (h : StartupInv s) (hs : s.transport.stopping = false) :
    s.Agent := by
  by_cases ha : s.transport.reconnector = .absent
  · obtain ⟨hr, hw⟩ := h.agent hs ha
    refine .inl ⟨hr, ?_⟩
    by_cases he : s.worker = .ended
    · rw [hw he]
      exact .inr List.mem_cons_self
    · exact .inl he
  · refine .inr ⟨ha, fun he => ?_, h.wakeful.unpanicked⟩
    rw [h.wakeful.ended he] at hs
    cases hs

/-! ### The way online -/

/-- Some run that meets the condition gets online. -/
def Startup.CanConnect (s : Startup) : Prop :=
  ∃ es u, Run (restrict (Fn startupStep) StartupOk) s es u ∧ u.Online

namespace Startup.CanConnect

variable {s t : Startup}

/-- It is there. -/
theorem of_online (h : s.Online) : s.CanConnect := ⟨[], s, .refl s, h⟩

/-- If one step leads to a way, there is one. -/
theorem step {e : StartupEvent} (h : t.CanConnect) (hok : StartupOk s e)
    (k : startupStep s e = some t) : s.CanConnect := by
  obtain ⟨es, u, hrun, hu⟩ := h
  exact ⟨e :: es, u, .cons ⟨hok, k⟩ hrun, hu⟩

/-- A step of the transport before `drop`. -/
theorem transport {u : Transport} {e : TransportEvent}
    (h : CanConnect { s with transport := u }) (hs : s.transport.stopping = false)
    (he : e ≠ .main .promote ∧ e ≠ .main .dropStop) (hok : Unpanicked e)
    (k : transportStep s.transport e = some u) : s.CanConnect := by
  refine h.step (e := .transport e) ⟨by rintro _ ⟨⟩, ?_⟩ ?_
  · rintro _ ⟨⟩
    exact hok
  · simp [startupStep, he.1, k, (transportStep_stopping he.2 k).trans hs]

/-- The main thread finishes a call. -/
theorem main {u : Transport} {e : MainEvent} (h : CanConnect { s with transport := u })
    (hs : s.transport.stopping = false) (he : e ≠ .promote ∧ e ≠ .dropStop)
    (k : mainStep s.transport e = some u) : s.CanConnect :=
  h.transport (e := .main e) hs (by simpa using he) ⟨nofun, nofun⟩ k

/-- A step of the reader leads to a way. -/
theorem reader {u : Transport} {e : ReaderEvent} (h : CanConnect { s with transport := u })
    (hs : s.transport.stopping = false) (k : readerStep s.transport e = some u) : s.CanConnect :=
  h.transport (e := .reader e) hs ⟨nofun, nofun⟩ ⟨nofun, nofun⟩ k

/-- A step of the reconnector leads to a way. -/
theorem reconnector {u : Transport} {e : ReconnectorEvent}
    (h : CanConnect { s with transport := u }) (hs : s.transport.stopping = false)
    (hok : e ≠ .cloneFailed ∧ e ≠ .spawnFailed) (k : reconnectorStep s.transport e = some u) :
    s.CanConnect :=
  h.transport (e := .reconnector e) hs ⟨nofun, nofun⟩ (by simpa [Unpanicked] using hok) k

/-- The worker, or a promotion that makes a transport of what it gets. -/
theorem worker {e : StartupEvent} (h : t.CanConnect)
    (he : e = .attempt true ∨ e = .send ∨ e = .retry ∨ e = .promoteStartup .ok)
    (k : startupStep s e = some t) : s.CanConnect := by
  refine h.step ⟨?_, ?_⟩ k
  · rintro result rfl - -
    simpa using he
  · rintro e' rfl
    simp at he

/-! #### Through the reconnector -/

/-- Greeted, it is installed. -/
theorem of_greeted {socket : Nat} {v : Viewport} (hs : s.transport.stopping = false)
    (hr : s.transport.reconnector = .greeted socket v) : s.CanConnect := by
  refine reconnector (e := .install) ?_ hs (by decide)
    (by simp only [reconnectorStep, hr]; exact if_neg (by simp [hs]))
  refine reconnector (e := .spawnReader) ?_ hs (by decide) rfl
  exact .of_online ⟨hs, socket, rfl, rfl⟩

/-- With the viewport read, the Hello is written. -/
theorem of_viewportRead {socket : Nat} {v : Viewport} (hs : s.transport.stopping = false)
    (hr : s.transport.reconnector = .viewportRead socket v) : s.CanConnect := by
  refine reconnector (e := .hello .written) ?_ hs (by decide)
    (by simp only [reconnectorStep, hr]; rfl)
  exact of_greeted hs rfl

/-- Connected, it reads the viewport. -/
theorem of_connected {socket : Nat} (hs : s.transport.stopping = false)
    (hr : s.transport.reconnector = .connected socket) : s.CanConnect := by
  refine reconnector (e := .readViewport) ?_ hs (by decide)
    (by simp only [reconnectorStep, hr]; rfl)
  exact of_viewportRead hs rfl

/-- After a failure, it connects again. -/
theorem of_retrying (hs : s.transport.stopping = false)
    (hr : s.transport.reconnector = .retrying) : s.CanConnect := by
  refine reconnector (e := .connect true) ?_ hs (by decide)
    (by simp only [reconnectorStep, hr]; rfl)
  exact of_connected hs rfl

/-- With the reader joined, it disconnects. -/
theorem of_joined (hs : s.transport.stopping = false)
    (hr : s.transport.reconnector = .joined) : s.CanConnect := by
  refine reconnector (e := .disconnect) ?_ hs (by decide) (by simp only [reconnectorStep, hr]; rfl)
  exact of_retrying hs rfl

/-- The reader ends, if it has not, and wakes the reconnector. -/
theorem reader_ends (hs : s.transport.stopping = false)
    (h : ∀ u : Transport, u.reader = .ended → u.reconnector = s.transport.reconnector →
      u.stopping = false → ((s.transport.reader = .ended → s.transport.wakes ≠ 0) → u.wakes ≠ 0) →
      CanConnect { s with transport := u }) : s.CanConnect := by
  cases hread : s.transport.reader with
  | ended => exact h s.transport hread rfl hs fun hw => hw hread
  | reading socket =>
      refine reader (e := .readerEnd) ?_ hs (by simp only [readerStep, hread]; rfl)
      exact h _ rfl rfl hs fun _ => Nat.succ_ne_zero _
  | received socket frame =>
      refine reader (e := .publish) ?_ hs (by simp only [readerStep, hread]; rfl)
      refine reader (e := .readerEnd) ?_ hs rfl
      exact h _ rfl rfl hs fun _ => Nat.succ_ne_zero _

/-- Woken, it joins the reader. -/
theorem of_woken (hs : s.transport.stopping = false)
    (hr : s.transport.reconnector = .woken) : s.CanConnect := by
  refine reader_ends hs fun u hu hr' hs' _ => ?_
  refine reconnector (e := .join) ?_ hs' (by decide)
    (by simp only [reconnectorStep, hr'.trans hr, hu]; rfl)
  exact of_joined hs' rfl

/-- Waiting, it is woken once the reader has ended. -/
theorem of_waiting (hs : s.transport.stopping = false)
    (hr : s.transport.reconnector = .waiting)
    (hw : s.transport.reader = .ended → s.transport.wakes ≠ 0) : s.CanConnect := by
  refine reader_ends hs fun u hu hr' hs' hw' => ?_
  refine reconnector (e := .wake) ?_ hs' (by decide)
    (by simp only [reconnectorStep, hr'.trans hr, if_neg (hw' hw)]; rfl)
  exact of_woken hs' rfl

/-- Installed, it gets a reader. -/
theorem of_installed {socket : Nat} (hs : s.transport.stopping = false)
    (hr : s.transport.reconnector = .installed socket) : s.CanConnect := by
  refine reconnector (e := .spawnReader) ?_ hs (by decide) (by simp only [reconnectorStep, hr]; rfl)
  exact of_waiting hs rfl (by rintro ⟨⟩)

/-- Wherever the reconnector is, it can go on to a connection. -/
theorem of_alive (hs : s.transport.stopping = false) (hr : s.transport.reconnector.Alive)
    (hw : Wakeful s.transport) : s.CanConnect := by
  cases hpc : s.transport.reconnector with
  | absent => exact absurd hpc hr.1
  | waiting => exact of_waiting hs hpc (hw.woken hpc)
  | woken => exact of_woken hs hpc
  | joined => exact of_joined hs hpc
  | retrying => exact of_retrying hs hpc
  | connected socket => exact of_connected hs hpc
  | viewportRead socket v => exact of_viewportRead hs hpc
  | greeted socket v => exact of_greeted hs hpc
  | installed socket => exact of_installed hs hpc
  | ended => exact absurd hpc hr.2.1
  | panicked => exact absurd hpc hr.2.2

/-! #### Through the startup worker -/

/-- The main thread finishes the call it is in, and can run `promote_startup`. -/
theorem main_returns (hs : s.transport.stopping = false) (hw : Wakeful s.transport)
    (h : ∀ u : Transport, u.reconnector = s.transport.reconnector → u.stopping = false →
      (u.main = .idle ∨ ∃ v, u.main = .announcing v) → CanConnect { s with transport := u }) :
    s.CanConnect := by
  have hdrops : ¬ s.transport.main.Drops := fun hd => by
    rw [hw.drops hd] at hs
    cases hs
  cases hpc : s.transport.main with
  | idle => exact h s.transport rfl hs (.inl hpc)
  | announcing v => exact h s.transport rfl hs (.inr ⟨v, hpc⟩)
  | stored v previous =>
      refine main (e := .setMailbox) ?_ hs (by decide) (by simp only [mainStep, hpc]; rfl)
      refine h _ rfl hs ?_
      dsimp only
      split
      · exact .inl rfl
      · exact .inr ⟨v, rfl⟩
  | announceTo v token =>
      cases hq : s.transport.enqueueOutbound
          ⟨token, .viewportChanged ⟨v.1, v.2⟩, s.transport.remoteViewport⟩ with
      | ok queue =>
          refine main (e := .enqueueViewport) ?_ hs (by decide)
            (by simp only [mainStep, hpc, hq]; rfl)
          exact h _ rfl hs (.inl rfl)
      | error =>
          refine main (e := .enqueueViewport) ?_ hs (by decide)
            (by simp only [mainStep, hpc, hq]; rfl)
          refine main (e := .closeAfterFull) ?_ hs (by decide) rfl
          exact h _ rfl hs (.inl rfl)
  | announceFailed =>
      refine main (e := .closeAfterFull) ?_ hs (by decide) (by simp only [mainStep, hpc]; rfl)
      exact h _ rfl hs (.inl rfl)
  | pointerTo pointer token =>
      cases hq : s.transport.enqueueOutbound
          ⟨token, .pointer pointer, s.transport.remoteViewport⟩ with
      | ok queue | error =>
          refine main (e := .enqueuePointer) ?_ hs (by decide)
            (by simp only [mainStep, hpc, hq]; rfl)
          exact h _ rfl hs (.inl rfl)
  | stopping | disconnected | dropped => exact absurd (by rw [hpc]; trivial) hdrops

/-- The main thread can promote what is in the channel. -/
structure Ready (s : Startup) : Prop where
  running : s.transport.stopping = false
  receiver : s.receiver = true
  main : s.transport.main = .idle ∨ ∃ v, s.transport.main = .announcing v

/-- The main thread runs `promote_startup`, and `from_stream` succeeds if it is run. -/
theorem promotes (hs : Ready s) (h : (promoteStartup s .ok).CanConnect) : s.CanConnect := by
  refine h.worker (e := .promoteStartup .ok) (by simp) ?_
  rcases hs.main with hm | ⟨v, hm⟩ <;> simp only [startupStep, hm]

/-- A Connected update at the head of the channel is promoted. -/
theorem of_update {channel : List StartupUpdate} (hs : Ready s)
    (hc : s.channel = .connected :: channel) : s.CanConnect := by
  refine promotes hs (of_online ?_)
  simp only [promoteStartup, hs.receiver, hc]
  exact ⟨hs.running, s.transport.sockets, rfl, rfl⟩

/-- The Connected update is sent, and can be promoted. -/
theorem of_sending (hs : Ready s) (hw : s.worker = .sending .connected) (hc : s.channel = []) :
    s.CanConnect := by
  refine worker (e := .send) (t := { s with channel := [.connected], worker := .ended }) ?_
    (by simp) (by simp [startupStep, hw, hs.receiver, hc])
  exact of_update ⟨hs.running, hs.receiver, hs.main⟩ rfl

/-- The attempt succeeds. -/
theorem of_attempting (hs : Ready s) (hw : s.worker = .attempting) (hc : s.channel = []) :
    s.CanConnect := by
  refine worker (e := .attempt true) (t := { s with worker := .sending .connected }) ?_ (by simp)
    (by simp [startupStep, hw])
  exact of_sending ⟨hs.running, hs.receiver, hs.main⟩ rfl hc

/-- The worker tries again. -/
theorem of_retry (hs : Ready s) (hw : s.worker = .waiting) (hc : s.channel = []) :
    s.CanConnect := by
  refine worker (e := .retry) (t := { s with worker := .attempting }) ?_ (by simp)
    (by simp [startupStep, hw])
  exact of_attempting ⟨hs.running, hs.receiver, hs.main⟩ rfl hc

/-- The update of a failed attempt is sent and taken, and the worker waits. -/
theorem of_failed {retryAfter : Nat} (hs : Ready s)
    (hw : s.worker = .sending (.failed (some retryAfter))) (hc : s.channel = []) :
    s.CanConnect := by
  refine worker (e := .send) (t := { s with
    channel := [.failed (some retryAfter)], worker := .waiting }) ?_ (by simp)
    (by simp [startupStep, hw, hs.receiver, hc])
  refine promotes ⟨hs.running, hs.receiver, hs.main⟩ ?_
  simp only [promoteStartup, hs.receiver]
  exact of_retry ⟨hs.running, rfl, hs.main⟩ rfl rfl

/-- The main thread takes what is in the channel. -/
theorem drains (hs : Ready s) (hf : .failed none ∉ s.channel)
    (h : CanConnect { s with channel := [] }) : s.CanConnect := by
  induction hc : s.channel generalizing s with
  | nil => rwa [← hc] at h
  | cons update channel ih =>
      cases update with
      | connected => exact of_update hs hc
      | failed retryAfter =>
          have hsome : retryAfter.isSome = true := Option.isSome_iff_ne_none.mpr (by
            rintro rfl
            exact hf (hc ▸ List.mem_cons_self))
          refine promotes hs ?_
          simp only [promoteStartup, hs.receiver, hc, Bool.true_eq_false, if_false, hsome]
          refine ih ⟨hs.running, rfl, hs.main⟩ (fun hm => hf (hc ▸ List.mem_cons_of_mem _ hm)) ?_ rfl
          rwa [← hs.receiver]

/-- While the worker is at it, it can make the connection. -/
theorem of_absent (inv : StartupInv s) (hs : s.transport.stopping = false)
    (ha : s.transport.reconnector = .absent) : s.CanConnect := by
  obtain ⟨hr, hended⟩ := inv.agent hs ha
  refine main_returns hs inv.wakeful fun u hu hs' hm => ?_
  by_cases hw : s.worker = .ended
  · exact of_update ⟨hs', hr, hm⟩ (hended hw)
  · refine drains ⟨hs', hr, hm⟩ inv.channel ?_
    cases hpc : s.worker with
    | attempting => exact of_attempting ⟨hs', hr, hm⟩ rfl rfl
    | sending update =>
        cases update with
        | connected => exact of_sending ⟨hs', hr, hm⟩ rfl rfl
        | failed retryAfter =>
            cases retryAfter with
            | none => exact absurd hpc inv.sending
            | some retryAfter => exact of_failed ⟨hs', hr, hm⟩ rfl rfl
    | waiting => exact of_retry ⟨hs', hr, hm⟩ rfl rfl
    | ended => exact absurd hpc hw

end Startup.CanConnect

/-! ### Never stranded -/

/-- **Never stranded.**  In every run of a `Paperspoon` built by `start` in which `from_stream`
succeeds whenever a Connected update is promoted and the reconnector can duplicate the sockets it
greets and gets a thread for its readers, and in every state before `drop`: the startup worker is
still trying or its Connected update is queued, with the receiver there to promote it, or the
reconnector is at work; and the transport can get online, with a current connection that is
read. -/
theorem never_stranded {v : Viewport} {formats : V2PixelFormats} {es : List StartupEvent}
    {s : Startup} (h : Run (restrict (Fn startupStep) StartupOk) (.start v formats) es s)
    (hs : s.transport.stopping = false) :
    s.Agent ∧ ∃ es' u, Run (restrict (Fn startupStep) StartupOk) s es' u ∧ u.Online := by
  have inv : StartupInv s := h.invariant (fun hi k => hi.step k.1 k.2) (.init v formats)
  refine ⟨inv.hasAgent hs, ?_⟩
  by_cases ha : s.transport.reconnector = .absent
  · exact Startup.CanConnect.of_absent inv hs ha
  · refine Startup.CanConnect.of_alive hs ⟨ha, fun he => ?_, inv.wakeful.unpanicked⟩ inv.wakeful
    rw [inv.wakeful.ended he] at hs
    cases hs

/-- One failed attempt, then one that succeeds and is promoted; the reader ends, and the
reconnector has a socket that it could not greet. -/
def retriedStartup : List StartupEvent :=
  [.attempt false, .send, .promoteStartup .ok, .retry, .attempt true, .send, .promoteStartup .ok,
    .transport (.reader .readerEnd), .transport (.reconnector .wake),
    .transport (.reconnector .join), .transport (.reconnector .disconnect),
    .transport (.reconnector (.connect true)), .transport (.reconnector .readViewport),
    .transport (.reconnector (.hello (.failed 3)))]

theorem never_stranded_retried :
    ∃ s, Run (restrict (Fn startupStep) StartupOk) (.start (1272, 1624) .MONO1) retriedStartup s ∧
      s.transport.connection.isConnected = false ∧ s.Agent ∧
      ∃ es u, Run (restrict (Fn startupStep) StartupOk) s es u ∧ u.Online := by
  obtain ⟨s, hs⟩ : ∃ s, exec startupStep (.start (1272, 1624) .MONO1) retriedStartup = some s :=
    ⟨_, rfl⟩
  have hok : ∀ e ∈ retriedStartup, (∀ result, e = .promoteStartup result → result = .ok) ∧
      ∀ e', e = .transport e' → Unpanicked e' := by
    simp [retriedStartup, Unpanicked]
  have hrun : Run (restrict (Fn startupStep) StartupOk) (.start (1272, 1624) .MONO1)
      retriedStartup s :=
    (run_of_exec hs).restricted fun e he s =>
      ⟨fun result hp _ _ => (hok e he).1 result hp, (hok e he).2⟩
  obtain ⟨hstopping, hoffline⟩ :
      s.transport.stopping = false ∧ s.transport.connection.isConnected = false := by
    obtain rfl := Option.some.inj hs
    exact ⟨rfl, rfl⟩
  exact ⟨s, hrun, hoffline, never_stranded hrun hstopping⟩

/-- The startup is over, and left no transport. -/
structure Startup.Stranded (s : Startup) : Prop where
  receiver : s.receiver = false
  absent : s.transport.reconnector = .absent
  inactive : s.transport.connection.active = none

/-- Nothing brings a stranded transport online. -/
theorem Startup.Stranded.step {s t : Startup} {e : StartupEvent} (h : s.Stranded)
    (k : startupStep s e = some t) : t.Stranded := by
  cases startupStep_move k with
  | attempt | unreceived | sendLast | retry | stop => exact ⟨h.receiver, h.absent, h.inactive⟩
  | sendRetry _ hr => exact absurd (h.receiver.symm.trans hr) nofun
  | @promoteStartup result =>
      have hsame : Device.promoteStartup s result = s := if_pos h.receiver
      rw [hsame]
      exact h
  | @transport e u he hu =>
      refine ⟨by simp [h.receiver], (transportStep_absent he hu).1.mpr h.absent, ?_⟩
      exact (transportStep_connection hu).inactive h.inactive (.inr h.absent) he

/-- The host accepts the connection and resets it before the Hello. -/
def refusedHello : List StartupEvent := [.attempt true, .send, .promoteStartup .helloFailed]

/-- **Stranded.**  The worker has ended with its Connected update, there is no reconnector, and
whatever happens later the transport is never connected. -/
theorem stranded_after_hello :
    ∃ s, exec startupStep (.start (1272, 1624) .MONO1) refusedHello = some s ∧
      s.transport.stopping = false ∧ ¬ s.Agent ∧
      ∀ es u, Run (Fn startupStep) s es u → u.transport.connection.isConnected = false := by
  refine ⟨_, rfl, rfl, ?_, fun es u hrun => ?_⟩
  · rintro (⟨hr, -⟩ | hr)
    · cases hr
    · exact hr.1 rfl
  · have hu : u.Stranded := hrun.invariant (fun hi k => hi.step k) ⟨rfl, rfl, rfl⟩
    rw [ConnectionState.isConnected, hu.inactive]
    rfl

end PaperPad.Device
