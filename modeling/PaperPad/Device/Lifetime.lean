import PaperPad.Device.Moves

/-!
# Device — Lifetime

What happens to the connection of a transport, and to the sockets it was made of.

* `transportStep_connection`: the steps that touch the connection, and how (`Touches`).
* `Touches.kept`: a current connection stays current until it is shut down, and what is shut down
  stays so.
-/

namespace PaperPad.Device

open Protocol Transition

/-! ### What a step does to the connection -/

/-- The steps of a transport, with the connection they leave. -/
inductive Touches (t : Transport) : TransportEvent → ConnectionState → Prop where
  | keep (e : TransportEvent) : Touches t e t.connection
  | close {e : TransportEvent} (h : e = .main .closeAfterFull ∨ e = .main .dropDisconnect ∨
      e = .reconnector .disconnect) : Touches t e t.connection.disconnect
  | fail {token : Nat} (h : t.writer = .failed token) :
      Touches t (.writer .closeAfterFailure) (t.connection.disconnectIfCurrent token)
  | install {socket : Nat} {viewport : Viewport} (h : t.reconnector = .greeted socket viewport)
      (hs : t.stopping = false) :
      Touches t (.reconnector .install) (t.connection.reconnect socket)
  | promote (h : t.reconnector = .absent) (hm : t.main = .idle ∨ ∃ v, t.main = .announcing v) :
      Touches t (.main .promote) { t.connection with active := some t.sockets }

/-- What a step can do to the connection. -/
theorem transportStep_connection {t u : Transport} {e : TransportEvent}
    (k : transportStep t e = some u) : Touches t e u.connection := by
  cases transportStep_move k with
  | main m =>
      cases m with
      | promote hr hm => exact .promote hr hm
      | closeAfterFull => exact .close (.inl rfl)
      | dropDisconnect => exact .close (.inr (.inl rfl))
      | _ => exact .keep _
  | writer m =>
      cases m with
      | closeAfterFailure hw => exact .fail hw
      | _ => exact .keep _
  | reader m => cases m <;> exact .keep _
  | reconnector m =>
      cases m with
      | disconnect => exact .close (.inr (.inr rfl))
      | install hr hs => exact .install hr hs
      | _ => exact .keep _

/-- No connection is made but by an installation, which reads `stopping`, or by `promote`. -/
theorem Touches.inactive {t : Transport} {e : TransportEvent} {c : ConnectionState}
    (h : Touches t e c) (hn : t.connection.active = none)
    (hi : t.stopping = true ∨ t.reconnector = .absent) (he : e ≠ .main .promote) :
    c.active = none := by
  cases h with
  | keep => exact hn
  | close => exact ConnectionState.disconnect_active _
  | fail hw =>
      refine Option.eq_none_iff_forall_ne_some.mpr fun token ht => ?_
      rw [(ConnectionState.disconnectIfCurrent_active.mp ht).1] at hn
      cases hn
  | install hr hs =>
      rcases hi with hi | hi
      · rw [hi] at hs; cases hs
      · rw [hi] at hr; cases hr
  | promote => exact absurd rfl he

/-! ### What is kept -/

/-- The sockets of `c` in a later connection: shut down ones stay so, and the current one is
current or has been shut down. -/
structure Kept (c d : ConnectionState) : Prop where
  shut : ∀ token ∈ c.shut, token ∈ d.shut
  active : ∀ token, c.active = some token → d.active = some token ∨ token ∈ d.shut

namespace Kept

theorem refl (c : ConnectionState) : Kept c c := ⟨fun _ h => h, fun _ h => .inl h⟩

theorem trans {c d e : ConnectionState} (h : Kept c d) (k : Kept d e) : Kept c e where
  shut token ht := k.shut token (h.shut token ht)
  active token ht := by
    rcases h.active token ht with hd | hd
    · exact k.active token hd
    · exact .inr (k.shut token hd)

/-- A disconnect shuts the connection it ends. -/
theorem disconnect (c : ConnectionState) : Kept c c.disconnect := by
  simp only [ConnectionState.disconnect]
  split
  · exact refl c
  · next token hc =>
      refine ⟨fun k hk => List.mem_cons_of_mem _ hk, fun k hk => .inr ?_⟩
      obtain rfl : token = k := Option.some.inj (hc.symm.trans hk)
      exact List.mem_cons_self

/-- A closed connection has a shut down socket. -/
theorem shut_of_inactive {c d : ConnectionState} (h : Kept c d) (hd : d.active = none)
    {token : Nat} (ht : c.active = some token) : token ∈ d.shut := by
  rcases h.active token ht with hk | hk
  · rw [hd] at hk; cases hk
  · exact hk

end Kept

/-- Before `from_stream` there is no connection. -/
def Transport.Unborn (t : Transport) : Prop :=
  t.reconnector = .absent → t.connection.active = none

/-- No step forgets a socket. -/
theorem Touches.kept {t : Transport} {e : TransportEvent} {c : ConnectionState}
    (h : Touches t e c) (hb : t.Unborn) : Kept t.connection c := by
  cases h with
  | keep => exact .refl _
  | close => exact .disconnect _
  | fail hw =>
      simp only [ConnectionState.disconnectIfCurrent]
      split
      · exact .refl _
      · split
        · exact .refl _
        · exact .disconnect _
  | install hr hs =>
      have hk := Kept.disconnect t.connection
      refine ⟨hk.shut, fun token ht => .inr ?_⟩
      exact hk.shut_of_inactive (ConnectionState.disconnect_active _) ht
  | promote ha hm =>
      refine ⟨fun _ h => h, fun token ht => ?_⟩
      rw [hb ha] at ht
      cases ht

/-- Before there is a reconnector, there is no connection. -/
theorem Transport.Unborn.step {t u : Transport} {e : TransportEvent} (h : t.Unborn)
    (k : transportStep t e = some u) : u.Unborn := by
  intro hu
  by_cases he : e = .main .promote
  · subst he
    have m : MainMove t .promote u := mainStep_move k
    cases m with
    | promote => cases hu
  · have ha := (transportStep_absent he k).1.mp hu
    exact (transportStep_connection k).inactive (h ha) (.inr ha) he

/-- Along a run. -/
theorem Transport.Unborn.run {t u : Transport} {es : List TransportEvent} (h : t.Unborn)
    (k : Run (Fn transportStep) t es u) : u.Unborn ∧ Kept t.connection u.connection := by
  refine k.invariant (I := fun u => u.Unborn ∧ Kept t.connection u.connection)
    (fun ih k => ⟨ih.1.step k, ih.2.trans ((transportStep_connection k).kept ih.1)⟩)
    ⟨h, .refl _⟩

end PaperPad.Device
