import PaperPad.Device.Lifetime

/-!
# Device — StaleFailure

The two reactions to a failure of a message queued for a connection.  The writer disconnects the
connection the message was for, if it is still the current one.  `send_viewport_changed`, whose
message did not fit the queue, disconnects whatever is current.

* `stale_failure`: a failure closes its own connection or none, as long as no connection is
  installed between the lookup of a viewport change that fails and its disconnect (`NoneBetween`).
* `stale_failure_closes`: without that condition the new connection is closed.
-/

namespace PaperPad.Device

open Protocol Transition

/-- The step closes connection `g` or nothing. -/
def ClosesOnly (g : Nat) (t u : Transport) : Prop :=
  ∀ k, t.connection.active = some k → u.connection.active = some k ∨ k = g

/-- In the runs of `R` from `t`, the reaction to a failure of a message for `g` closes `g` or
nothing: the writer's, and that of the viewport change that could not be queued. -/
def FailuresSpare (R : Transport → TransportEvent → Transport → Prop) (t : Transport) : Prop :=
  (∀ g u, t.writer = .failed g → R t (.writer .closeAfterFailure) u → ClosesOnly g t u) ∧
  ∀ v g t₁ es' t₂ u, t.main = .announceTo v g → R t (.main .enqueueViewport) t₁ →
    t₁.main = .announceFailed → Run R t₁ es' t₂ → .main .closeAfterFull ∉ es' →
    R t₂ (.main .closeAfterFull) u → ClosesOnly g t₂ u

/-- `enqueue_outbound` refuses every message. -/
def Transport.QueueRefuses (t : Transport) : Prop :=
  t.writer = .ended ∨ OUTBOUND_QUEUE_CAPACITY ≤ t.queue.length

theorem Transport.QueueRefuses.of_error {t : Transport} {o : QueuedOutbound} {error : String}
    (he : t.enqueueOutbound o = .error error) : t.QueueRefuses := by
  simp only [Transport.enqueueOutbound] at he
  by_cases hw : t.writer = .ended
  · exact .inl hw
  · rw [if_neg hw] at he
    by_cases hq : t.queue.length ≥ OUTBOUND_QUEUE_CAPACITY
    · exact .inr hq
    · rw [if_neg hq] at he; cases he

/-- The condition on a step: a viewport change that cannot be queued finds the connection it looked
up still there, or none, and no connection is installed before it has closed it. -/
def NoneBetween (t : Transport) (e : TransportEvent) : Prop :=
  (e = .main .enqueueViewport → ∀ v g, t.main = .announceTo v g → t.QueueRefuses →
    ∀ k, t.connection.active = some k → k = g) ∧
  (e = .reconnector .install → t.main ≠ .announceFailed)

/-! ### The writer -/

variable {t u : Transport} {e : TransportEvent}

/-- The writer looks again. -/
theorem closeAfterFailure_spares {g : Nat} (hw : t.writer = .failed g)
    (k : transportStep t (.writer .closeAfterFailure) = some u) : ClosesOnly g t u := by
  intro token ht
  have m : WriterMove t .closeAfterFailure u := writerStep_move k
  cases m with
  | closeAfterFailure hw' =>
      obtain rfl := WriterPc.failed.inj (hw.symm.trans hw')
      by_cases hg : token = g
      · exact .inr hg
      · exact .inl (ConnectionState.disconnectIfCurrent_active.mpr ⟨ht, hg⟩)

/-! ### The main thread -/

/-- A viewport change waits for its disconnect; the connection is the one it looked up, or none. -/
structure Refused (g : Nat) (t : Transport) : Prop where
  main : t.main = .announceFailed
  current : ∀ k, t.connection.active = some k → k = g

theorem enqueueViewport_refused {v : Viewport} {g : Nat} (hm : t.main = .announceTo v g)
    (hok : NoneBetween t (.main .enqueueViewport))
    (k : transportStep t (.main .enqueueViewport) = some u) (hu : u.main = .announceFailed) :
    Refused g u := by
  have m : MainMove t .enqueueViewport u := mainStep_move k
  cases m with
  | viewportQueued => cases hu
  | viewportRefused _ hq => exact ⟨rfl, hok.1 rfl v g hm (.of_error hq)⟩

theorem Refused.step {g : Nat} (h : Refused g t) (hok : NoneBetween t e)
    (he : e ≠ .main .closeAfterFull) (k : transportStep t e = some u) : Refused g u := by
  refine ⟨?_, ?_⟩
  · -- the main thread waits
    have hmain := h.main
    cases transportStep_move k with
    | main m =>
        cases m with
        | closeAfterFull => exact absurd rfl he
        | promote => exact hmain
        | _ hm => cases hm.symm.trans hmain
    | writer m => cases m <;> exact hmain
    | reader m => cases m <;> exact hmain
    | reconnector m => cases m <;> exact hmain
  · intro token ht
    have hc := transportStep_connection k
    generalize u.connection = c at hc ht
    cases hc with
    | keep => exact h.current token ht
    | close => rw [ConnectionState.disconnect_active] at ht; cases ht
    | fail hw => exact h.current token (ConnectionState.disconnectIfCurrent_active.mp ht).1
    | install hr hs => exact absurd h.main (hok.2 rfl)
    | promote ha hm => rcases hm with hm | ⟨v, hm⟩ <;> rw [h.main] at hm <;> cases hm

/-- **A stale failure closes no newer connection.**  In every run in which no connection is
installed between the lookup of a viewport change that cannot be queued and its disconnect. -/
theorem stale_failure {viewport : Viewport} {formats : V2PixelFormats} {es : List TransportEvent}
    {t : Transport}
    (_ : Run (restrict (Fn transportStep) NoneBetween) (.start viewport formats) es t) :
    FailuresSpare (restrict (Fn transportStep) NoneBetween) t := by
  refine ⟨fun g u hw k => closeAfterFailure_spares hw k.2, ?_⟩
  intro v g t₁ es' t₂ u hm k₁ hfail h' hnot _
  have h₁ : Refused g t₁ := enqueueViewport_refused hm k₁.1 k₁.2 hfail
  have h₂ : Refused g t₂ := by
    refine h'.history (I := fun fs s => (∀ x ∈ fs, x ∈ es') → Refused g s) (fun _ => h₁) ?_ ?_
    · intro fs s e s' _ ih k hmem
      refine (ih fun x hx => hmem x (by simp [hx])).step k.1 ?_ k.2
      rintro rfl
      exact hnot (hmem _ (by simp))
    · exact fun _ hx => hx
  exact fun token ht => .inr (h₂.current token ht)

/-! ### Failures and reconnections -/

/-- Sixteen pointers queued for the first connection, and a viewport change that looks it up. -/
def fullQueue : List TransportEvent :=
  .main .promote ::
    (List.replicate 16 [.main (.lookupPointer ⟨.down, 3, 5⟩), .main .enqueuePointer]).flatten ++
    [.main (.storeViewport (800, 600)), .main .setMailbox, .main .lookupViewport]

/-- The viewport change closes the connection whose queue is full. -/
theorem stale_failure_full :
    ∃ t t₁ u, Run (restrict (Fn transportStep) NoneBetween) (.start (1272, 1624) .MONO1) fullQueue
        t ∧ t.main = .announceTo (800, 600) 0 ∧ t₁.main = .announceFailed ∧
      t₁.connection.active = some 0 ∧ u.connection.active = none ∧ ClosesOnly 0 t₁ u := by
  obtain ⟨t, ht⟩ : ∃ t, exec transportStep (.start (1272, 1624) .MONO1) fullQueue = some t :=
    ⟨_, rfl⟩
  have h₁ : ∃ t₁, transportStep t (.main .enqueueViewport) = some t₁ := by
    cases ht; exact ⟨_, rfl⟩
  obtain ⟨t₁, ht₁⟩ := h₁
  have h₂ : ∃ u, transportStep t₁ (.main .closeAfterFull) = some u := by
    cases ht; cases ht₁; exact ⟨_, rfl⟩
  obtain ⟨u, hu⟩ := h₂
  obtain ⟨hm, hactive, hm₁, hold, hnew⟩ : t.main = .announceTo (800, 600) 0 ∧
      t.connection.active = some 0 ∧ t₁.main = .announceFailed ∧
      t₁.connection.active = some 0 ∧ u.connection.active = none := by
    cases ht; cases ht₁; cases hu; exact ⟨rfl, rfl, rfl, rfl, rfl⟩
  have hquiet : ∀ e ∈ fullQueue, e ≠ .main .enqueueViewport ∧ e ≠ .reconnector .install := by decide
  have hrun : Run (restrict (Fn transportStep) NoneBetween) (.start (1272, 1624) .MONO1)
      fullQueue t := (run_of_exec ht).restricted fun e he _ =>
    ⟨fun h => absurd h (hquiet e he).1, fun h => absurd h (hquiet e he).2⟩
  have hok : NoneBetween t (.main .enqueueViewport) := by
    refine ⟨fun _ v g hm' _ k hk => ?_, by simp⟩
    rw [hm] at hm'
    rw [hactive] at hk
    cases hm'
    exact (Option.some.inj hk).symm
  refine ⟨t, t₁, u, hrun, hm, hm₁, hold, hnew, ?_⟩
  exact (stale_failure hrun).2 _ _ t₁ [] t₁ u hm ⟨hok, ht₁⟩ hm₁ (.refl _) (by simp)
    ⟨⟨by simp, by simp⟩, hu⟩

/-- The reader ends, and the reconnector installs a new connection. -/
def replaced : List TransportEvent :=
  [.reader .readerEnd, .reconnector .wake, .reconnector .join, .reconnector .disconnect,
    .reconnector (.connect true), .reconnector .readViewport, .reconnector (.hello .written),
    .reconnector .install]

/-- **The newer connection is closed.**  The viewport change does not fit the queue of the first
connection, and disconnects the second. -/
theorem stale_failure_closes :
    ¬ ∀ viewport formats es t, Run (Fn transportStep) (.start viewport formats) es t →
      FailuresSpare (Fn transportStep) t := by
  intro hall
  obtain ⟨t, ht⟩ : ∃ t, exec transportStep (.start (1272, 1624) .MONO1) fullQueue = some t :=
    ⟨_, rfl⟩
  have h₁ : ∃ t₁, transportStep t (.main .enqueueViewport) = some t₁ := by
    cases ht; exact ⟨_, rfl⟩
  obtain ⟨t₁, ht₁⟩ := h₁
  have h₂ : ∃ t₂, exec transportStep t₁ replaced = some t₂ := by cases ht; cases ht₁; exact ⟨_, rfl⟩
  obtain ⟨t₂, ht₂⟩ := h₂
  have h₃ : ∃ u, transportStep t₂ (.main .closeAfterFull) = some u := by
    cases ht; cases ht₁; cases ht₂; exact ⟨_, rfl⟩
  obtain ⟨u, hu⟩ := h₃
  have hspares := (hall _ _ _ t (run_of_exec ht)).2 (800, 600) 0 t₁ replaced t₂ u
  have hactive : t₂.connection.active = some 1 ∧ u.connection.active = none ∧
      t.main = .announceTo (800, 600) 0 ∧ t₁.main = .announceFailed := by
    cases ht; cases ht₁; cases ht₂; cases hu; exact ⟨rfl, rfl, rfl, rfl⟩
  obtain ⟨hold, hnew, hm, hm₁⟩ := hactive
  rcases hspares hm ht₁ hm₁ (run_of_exec ht₂) (by decide) hu 1 hold with h | h
  · rw [hnew] at h; cases h
  · cases h

end PaperPad.Device
