import PaperPad.Device.Startup

/-!
# Device — Shutdown

`Drop for Paperspoon`, against the startup worker, the reconnector, the readers and the writer.
The main thread sets `stopping` before it takes the lock to disconnect, and the reconnector reads
`stopping` under that lock before it installs a socket: whichever comes first, no connection is
left.

`shutdown_final` is the contract: after the disconnect section there is no connection and every
socket there ever was is shut down, and a connection the startup worker makes once `drop` has begun
is never installed.
-/

namespace PaperPad.Device

open Protocol Transition

/-- The main thread is in `drop`; past its disconnect section there is no connection. -/
structure Transport.Dropping (t : Transport) : Prop where
  stopping : t.stopping = true
  main : t.main = .stopping ∨ t.main = .disconnected ∨ t.main = .dropped
  closed : t.main ≠ .stopping → t.connection.active = none

namespace Transport.Dropping

variable {t u : Transport} {e : TransportEvent}

/-- The main thread only goes on with `drop`. -/
theorem main_step (h : t.Dropping) (k : transportStep t e = some u) :
    (u.main = t.main ∧ e ≠ .main .dropDisconnect) ∨
      (e = .main .dropDisconnect ∧ t.main = .stopping ∧ u.main = .disconnected) ∨
      (e = .main .dropWake ∧ t.main = .disconnected ∧ u.main = .dropped) := by
  have hmain := h.main
  cases transportStep_move k with
  | main m =>
      cases m with
      | dropDisconnect hm => exact .inr (.inl ⟨rfl, hm, rfl⟩)
      | dropWake hm => exact .inr (.inr ⟨rfl, hm, rfl⟩)
      | promote hr hm => exact .inl ⟨rfl, by simp⟩
      | _ hm => simp [hm] at hmain
  | writer m => cases m <;> exact .inl ⟨rfl, by simp⟩
  | reader m => cases m <;> exact .inl ⟨rfl, by simp⟩
  | reconnector m => cases m <;> exact .inl ⟨rfl, by simp⟩

/-- Nothing is promoted in `drop`. -/
theorem ne_promote (h : t.Dropping) (k : transportStep t e = some u) : e ≠ .main .promote := by
  rintro rfl
  have hmain := h.main
  have m : MainMove t .promote u := mainStep_move k
  cases m with
  | promote hr hm => rcases hm with hm | ⟨v, hm⟩ <;> simp [hm] at hmain

theorem step (h : t.Dropping) (k : transportStep t e = some u) :
    u.Dropping ∧ (t.main ≠ .stopping ∨ e = .main .dropDisconnect → u.main ≠ .stopping) := by
  have he := h.ne_promote k
  have hstop : u.stopping = true := by
    by_contra hs
    have := (transportStep_absent he k).2 (by simpa using hs)
    rw [h.stopping] at this
    cases this
  -- what was closed stays closed: an installation would have read `stopping`
  have hclosed : t.connection.active = none → u.connection.active = none := fun hn =>
    (transportStep_connection k).inactive hn (.inl h.stopping) he
  rcases h.main_step k with ⟨hm, hd'⟩ | ⟨rfl, hm, hu⟩ | ⟨rfl, hm, hu⟩
  · refine ⟨⟨hstop, hm ▸ h.main, fun hu => hclosed (h.closed (hm ▸ hu))⟩, ?_⟩
    rintro (hne | hd)
    · exact hm ▸ hne
    · exact absurd hd hd'
  · refine ⟨⟨hstop, .inr (.inl hu), fun _ => ?_⟩, fun _ => by rw [hu]; decide⟩
    have m : MainMove t .dropDisconnect u := mainStep_move k
    cases m with
    | dropDisconnect => exact ConnectionState.disconnect_active _
  · refine ⟨⟨hstop, .inr (.inr hu), fun _ => hclosed (h.closed (by rw [hm]; decide))⟩, fun _ => ?_⟩
    rw [hu]
    decide

end Transport.Dropping

/-- A startup whose main thread is in `drop`: nothing is received any more. -/
structure Startup.Dropping (s : Startup) : Prop where
  transport : s.transport.Dropping
  receiver : s.receiver = false

/-- The first section of `drop`. -/
theorem Startup.Dropping.begin {s s' : Startup}
    (k : startupStep s (.transport (.main .dropStop)) = some s') : s'.Dropping := by
  cases startupStep_move k with
  | @transport _ u he hu =>
      have m : MainMove s.transport .dropStop u := mainStep_move hu
      cases m with
      | dropStop => exact ⟨⟨rfl, .inl rfl, fun h => absurd rfl h⟩, by simp⟩

theorem Startup.Dropping.step {s s' : Startup} {e : StartupEvent} (h : s.Dropping)
    (k : startupStep s e = some s') :
    s'.Dropping ∧ (∀ result, e ≠ .promoteStartup result) ∧
      (s.transport.main ≠ .stopping ∨ e = .transport (.main .dropDisconnect) →
        s'.transport.main ≠ .stopping) := by
  cases startupStep_move k with
  | promoteStartup hm =>
      -- the main thread is not about to call it
      have hmain := h.transport.main
      rcases hm with hm | ⟨v, hm⟩ <;> simp [hm] at hmain
  | transport he hu =>
      obtain ⟨hd, hm⟩ := h.transport.step hu
      refine ⟨⟨hd, by simp [h.receiver]⟩, by simp, fun hor => hm ?_⟩
      exact hor.imp id fun he => StartupEvent.transport.inj he
  | attempt | unreceived | sendLast | sendRetry | retry | stop =>
      exact ⟨⟨h.transport, h.receiver⟩, by simp, fun hor => hor.elim id (by simp)⟩

/-- Along the events of a run of `drop`. -/
theorem Startup.Dropping.run {s s' : Startup} {es : List StartupEvent} (h : s.Dropping)
    (k : Run (Fn startupStep) s es s') :
    s'.Dropping ∧ (∀ result, .promoteStartup result ∉ es) ∧
      (.transport (.main .dropDisconnect) ∈ es → s'.transport.main ≠ .stopping) := by
  refine k.history (I := fun es s' => s'.Dropping ∧ (∀ result, .promoteStartup result ∉ es) ∧
    (.transport (.main .dropDisconnect) ∈ es → s'.transport.main ≠ .stopping))
    ⟨h, by simp, by simp⟩ fun _ ih k => ?_
  obtain ⟨hd, hpromote, hclosed⟩ := ih
  obtain ⟨hd', hne, hm⟩ := hd.step k
  refine ⟨hd', fun result hr => ?_, fun hmem => hm ?_⟩
  · rcases List.mem_append.mp hr with hr | hr
    · exact hpromote result hr
    · exact hne result (List.mem_singleton.mp hr).symm
  · rcases List.mem_append.mp hmem with hr | hr
    · exact .inl (hclosed hr)
    · exact .inr (List.mem_singleton.mp hr).symm

/-- **Shutdown is final.**  In every run of a `Paperspoon` in which `drop` has begun: no connection
of the startup worker is installed any more.  Once the disconnect section has run, there is no
connection, and every socket that was current at any time of the run is shut down. -/
theorem shutdown_final {v : Viewport} {formats : V2PixelFormats} {es es' : List StartupEvent}
    {s s₁ s' : Startup} (h : Run (Fn startupStep) (.start v formats) es s)
    (stop : startupStep s (.transport (.main .dropStop)) = some s₁)
    (h' : Run (Fn startupStep) s₁ es' s') :
    (s'.receiver = false ∧ ∀ result, .promoteStartup result ∉ es') ∧
      (.transport (.main .dropDisconnect) ∈ es' →
        s'.transport.connection.active = none ∧
        ∀ fs fs' r token, es ++ [.transport (.main .dropStop)] ++ es' = fs ++ fs' →
          Run (Fn startupStep) (.start v formats) fs r →
          r.transport.connection.active = some token →
          token ∈ s'.transport.connection.shut) := by
  obtain ⟨hd, hpromote, hclosed⟩ := (Startup.Dropping.begin stop).run h'
  refine ⟨⟨hd.receiver, hpromote⟩, fun hmem => ?_⟩
  have hnone := hd.transport.closed (hclosed hmem)
  refine ⟨hnone, fun fs fs' r token he hr htoken => ?_⟩
  -- the rest of the run, from the time the socket was current
  have hrun : Run (Fn startupStep) (.start v formats) (es ++ [.transport (.main .dropStop)] ++ es')
      s' := (h.snoc stop).trans h'
  obtain ⟨r', hr', hrest⟩ := hrun.split he
  obtain rfl : r = r' := hr.functional hr'
  obtain ⟨ho, tes, htes⟩ := (Startup.start_offline v formats).projects hr
  obtain ⟨-, tes', htes'⟩ := ho.projects hrest
  obtain ⟨hb, -⟩ := (Startup.start_unborn v formats).run htes
  exact (hb.run htes').2.shut_of_inactive hnone htoken

/-- A startup, an end of stream and a reconnection. -/
def reconnected : List StartupEvent :=
  [.attempt true, .send, .promoteStartup .ok, .transport (.reader .readerEnd),
    .transport (.reconnector .wake), .transport (.reconnector .join),
    .transport (.reconnector .disconnect), .transport (.reconnector (.connect true)),
    .transport (.reconnector .readViewport), .transport (.reconnector (.hello .written)),
    .transport (.reconnector .install), .transport (.reconnector .spawnReader)]

theorem shutdown_final_reconnected :
    ∃ s s₁ s', Run (Fn startupStep) (.start (1272, 1624) .MONO1) reconnected s ∧
      startupStep s (.transport (.main .dropStop)) = some s₁ ∧
      Run (Fn startupStep) s₁ [.transport (.main .dropDisconnect)] s' ∧
      s'.transport.connection.active = none ∧ 0 ∈ s'.transport.connection.shut ∧
      1 ∈ s'.transport.connection.shut := by
  obtain ⟨r, hr⟩ : ∃ r, exec startupStep (.start (1272, 1624) .MONO1) (reconnected.take 3) =
      some r := ⟨_, rfl⟩
  obtain ⟨s, hs⟩ : ∃ s, exec startupStep (.start (1272, 1624) .MONO1) reconnected = some s :=
    ⟨_, rfl⟩
  have hstop : ∃ s₁, startupStep s (.transport (.main .dropStop)) = some s₁ := by
    cases hs; exact ⟨_, rfl⟩
  obtain ⟨s₁, hs₁⟩ := hstop
  have hdisc : ∃ s', startupStep s₁ (.transport (.main .dropDisconnect)) = some s' := by
    cases hs; cases hs₁; exact ⟨_, rfl⟩
  obtain ⟨s', hs'⟩ := hdisc
  have hrun := run_of_exec hs
  obtain ⟨-, hfinal⟩ := shutdown_final hrun hs₁ (.one hs')
  obtain ⟨hnone, hshut⟩ := hfinal (by simp)
  refine ⟨s, s₁, s', hrun, hs₁, .one hs', hnone, ?_, ?_⟩
  · exact hshut (reconnected.take 3) _ r 0 rfl (run_of_exec hr) (by cases hr; rfl)
  · exact hshut reconnected _ s 1 rfl hrun (by cases hs; rfl)

end PaperPad.Device
