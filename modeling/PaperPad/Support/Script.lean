import PaperPad.Support.Transition

/-!
# Support — Script

Scripts: programs that run commands one after another and go on by what each of them answers.
What a command does is a relation, `effect w c r w'`: in the world `w` the command `c` may answer
`r` and leave `w'`; a command that fails is one whose answer says so, and what it leaves is
whatever `effect` allows.  A script ends with a result or with an exit status, and it can be cut
after any of its commands.

`Ensures effect I Q p h w`: the script `p`, after the events `h` and in the world `w`, keeps `I`
wherever it is cut and has `Q` where it ends.  It is defined along the script; `Ensures.run`
gives it of every run, and the other rules follow the constructs a script is written with.
-/

open Transition

/-- A script of commands `κ` with answers `ρ`. -/
inductive Script (κ ρ α : Type) where
  | done (result : α)
  | exit (status : Nat)
  | run (command : κ) (next : ρ → Script κ ρ α)

namespace Script

variable {κ ρ α β σ : Type}

/-- What `p` ends with, `k` goes on from. -/
def bind : Script κ ρ α → (α → Script κ ρ β) → Script κ ρ β
  | done result, k => k result
  | exit status, _ => exit status
  | run c next, k => run c fun r => (next r).bind k

instance : Monad (Script κ ρ) where
  pure := done
  bind := bind

/-- With a trap on `EXIT`: wherever the script ends, the handler goes first. -/
def onExit : Script κ ρ α → Script κ ρ Unit → Script κ ρ α
  | done result, handler => handler >>= fun _ => done result
  | exit status, handler => handler >>= fun _ => exit status
  | run c next, handler => run c fun r => (next r).onExit handler

@[simp] theorem pure_eq (a : α) : (pure a : Script κ ρ α) = done a := rfl

@[simp] theorem done_bind (a : α) (k : α → Script κ ρ β) : (done a >>= k) = k a := rfl

@[simp] theorem exit_bind (status : Nat) (k : α → Script κ ρ β) :
    (exit status >>= k) = exit status := rfl

@[simp] theorem run_bind (c : κ) (next : ρ → Script κ ρ α) (k : α → Script κ ρ β) :
    (run c next >>= k) = run c fun r => next r >>= k := rfl

/-- A script that has ended. -/
def ended : Except Nat α → Script κ ρ α
  | .ok result => done result
  | .error status => exit status

/-! ### Runs -/

/-- The command the script is at. -/
inductive Step (effect : σ → κ → ρ → σ → Prop) :
    Script κ ρ α × σ → κ × ρ → Script κ ρ α × σ → Prop where
  | run {w w' : σ} {c : κ} {r : ρ} (next : ρ → Script κ ρ α) (h : effect w c r w') :
      Step effect (run c next, w) (c, r) (next r, w')

/-- `I` wherever the script is cut, and `Q` where it ends; `h` is what has happened so far. -/
def Ensures (effect : σ → κ → ρ → σ → Prop) (I : List (κ × ρ) → σ → Prop)
    (Q : Except Nat α → List (κ × ρ) → σ → Prop) : Script κ ρ α → List (κ × ρ) → σ → Prop
  | done result, h, w => I h w ∧ Q (.ok result) h w
  | exit status, h, w => I h w ∧ Q (.error status) h w
  | run c next, h, w =>
      I h w ∧ ∀ r w', effect w c r w' → (next r).Ensures effect I Q (h ++ [(c, r)]) w'

/-- How a script that cannot exit ends. -/
def Returns (ok : α → List (κ × ρ) → σ → Prop) : Except Nat α → List (κ × ρ) → σ → Prop
  | .ok a => ok a
  | .error _ => fun _ _ => False

/-- How a script under `set -e` ends: with `ok`, or with a status that is not 0. -/
def Ends (ok : α → List (κ × ρ) → σ → Prop) : Except Nat α → List (κ × ρ) → σ → Prop
  | .ok a => ok a
  | .error status => fun _ _ => status ≠ 0

variable {effect : σ → κ → ρ → σ → Prop} {I J : List (κ × ρ) → σ → Prop}
  {Q R : Except Nat α → List (κ × ρ) → σ → Prop} {p p' : Script κ ρ α} {h es : List (κ × ρ)}
  {w w' : σ}

namespace Ensures

theorem cut (hp : p.Ensures effect I Q h w) : I h w := by
  cases p with
  | done | exit | run => exact hp.1

/-- **Every run** of a script keeps what the script ensures. -/
theorem run (hr : Run (Step effect) (p, w) es (p', w')) (hp : p.Ensures effect I Q h w) :
    p'.Ensures effect I Q (h ++ es) w' := by
  generalize hc : (p, w) = c at hr
  generalize hc' : (p', w') = c' at hr
  induction hr generalizing p' w' with
  | refl =>
      obtain ⟨rfl, rfl⟩ := Prod.mk.inj (hc.trans hc'.symm)
      simpa using hp
  | snoc _ k ih =>
      cases k with
      | run next he =>
          obtain ⟨rfl, rfl⟩ := Prod.mk.inj hc'
          rw [← List.append_assoc]
          exact (ih rfl).2 _ _ he

/-- A run from where nothing has happened. -/
theorem start (hp : p.Ensures effect I Q [] w) (hr : Run (Step effect) (p, w) es (p', w')) :
    p'.Ensures effect I Q es w' :=
  run hr hp

theorem ended_iff {out : Except Nat α} :
    (ended out : Script κ ρ α).Ensures effect I Q h w ↔ I h w ∧ Q out h w := by
  cases out with
  | ok | error => exact .rfl

theorem mono (hp : p.Ensures effect I Q h w) (hI : ∀ h w, I h w → J h w)
    (hQ : ∀ o h w, I h w → Q o h w → R o h w) : p.Ensures effect J R h w := by
  induction p generalizing h w with
  | done | exit => exact ⟨hI _ _ hp.1, hQ _ _ _ hp.1 hp.2⟩
  | run c next ih => exact ⟨hI _ _ hp.1, fun r w' he => ih r (hp.2 r w' he)⟩

/-- What `p` ends with, `k` goes on from. -/
theorem bind {k : α → Script κ ρ β} {R : Except Nat β → List (κ × ρ) → σ → Prop}
    (hp : p.Ensures effect I (fun o h w =>
      match o with
      | .ok a => (k a).Ensures effect I R h w
      | .error status => R (.error status) h w) h w) :
    (p >>= k).Ensures effect I R h w := by
  induction p generalizing h w with
  | done => exact hp.2
  | exit => exact hp
  | run c next ih => exact ⟨hp.1, fun r w' he => ih r (hp.2 r w' he)⟩

/-- A part that can only return, and what goes on from it. -/
theorem returned {J : List (κ × ρ) → σ → Prop} {ok : α → List (κ × ρ) → σ → Prop}
    {k : α → Script κ ρ β} {R : Except Nat β → List (κ × ρ) → σ → Prop}
    (hp : p.Ensures effect I (Returns ok) h w) (hI : ∀ h w, I h w → J h w)
    (hk : ∀ a h w, I h w → ok a h w → (k a).Ensures effect J R h w) :
    (p >>= k).Ensures effect J R h w := by
  refine bind (mono hp hI ?_)
  rintro (status | a) h w hi hq
  · exact hq.elim
  · exact hk a h w hi hq

/-- A part under `set -e`, and what goes on from it. -/
theorem checked {J : List (κ × ρ) → σ → Prop} {ok : α → List (κ × ρ) → σ → Prop}
    {k : α → Script κ ρ β} {R : Except Nat β → List (κ × ρ) → σ → Prop}
    (hp : p.Ensures effect I (Ends ok) h w) (hI : ∀ h w, I h w → J h w)
    (he : ∀ status h w, I h w → status ≠ 0 → R (.error status) h w)
    (hk : ∀ a h w, I h w → ok a h w → (k a).Ensures effect J R h w) :
    (p >>= k).Ensures effect J R h w := by
  refine bind (mono hp hI ?_)
  rintro (status | a) h w hi hq
  · exact he status h w hi hq
  · exact hk a h w hi hq

/-- The handler of a trap goes on from where the script ends. -/
theorem onExit {handler : Script κ ρ Unit}
    (hp : p.Ensures effect I (fun o h w => handler.Ensures effect I (fun o' h w =>
      Q (match o' with | .ok () => o | .error status => .error status) h w) h w) h w) :
    (p.onExit handler).Ensures effect I Q h w := by
  induction p generalizing h w with
  | done result =>
      refine bind (mono hp.2 (fun _ _ hi => hi) ?_)
      rintro (status | ⟨⟩) h w hi hq
      · exact hq
      · exact ⟨hi, hq⟩
  | exit status =>
      refine bind (mono hp.2 (fun _ _ hi => hi) ?_)
      rintro (status | ⟨⟩) h w hi hq
      · exact hq
      · exact ⟨hi, hq⟩
  | run c next ih => exact ⟨hp.1, fun r w' he => ih r (hp.2 r w' he)⟩

end Ensures

/-! ### Environments that are functions -/

deriving instance DecidableEq for Except

/-- The end of a script that has ended. -/
def result : Script κ ρ α → Option (Except Nat α)
  | done result => some (.ok result)
  | exit status => some (.error status)
  | run _ _ => none

theorem eq_ended {out : Except Nat α} (hp : p.result = some out) : p = ended out := by
  cases p with
  | done | exit => cases hp; rfl
  | run => cases hp

/-- The script in an environment that answers every command in one way, up to a command it does
not answer. -/
def interpret (behave : σ → κ → Option (ρ × σ)) :
    Script κ ρ α → σ → List (κ × ρ) × Script κ ρ α × σ
  | done result, w => ([], done result, w)
  | exit status, w => ([], exit status, w)
  | run c next, w =>
      match behave w c with
      | none => ([], run c next, w)
      | some (r, w') =>
          let rest := (next r).interpret behave w'
          ((c, r) :: rest.1, rest.2)

/-- An environment whose commands do what `effect` allows has a run of every script. -/
theorem run_interpret {τ : Type} {view : τ → σ} {behave : τ → κ → Option (ρ × τ)}
    (hb : ∀ {s c r s'}, behave s c = some (r, s') → effect (view s) c r (view s'))
    (p : Script κ ρ α) (s : τ) :
    Run (Step effect) (p, view s) (p.interpret behave s).1
      ((p.interpret behave s).2.1, view (p.interpret behave s).2.2) := by
  induction p generalizing s with
  | done | exit => exact .refl _
  | run c next ih =>
      rw [interpret]
      split
      · exact .refl _
      · rename_i r s' hs
        exact .cons (.run next (hb hs)) (ih r s')

/-! ### Commands and ends -/

/-- Every command the script can give is in `P`, and every end of it in `E`. -/
def Only (P : κ → Prop) (E : Except Nat α → Prop) : Script κ ρ α → Prop
  | done result => E (.ok result)
  | exit status => E (.error status)
  | run c next => P c ∧ ∀ r, (next r).Only P E

/-- The end of a script that does not exit. -/
def Returned : Except Nat α → Prop
  | .ok _ => True
  | .error _ => False

/-- The end of a script that only exits. -/
def Exited : Except Nat α → Prop
  | .ok _ => False
  | .error _ => True

namespace Only

variable {P : κ → Prop} {E : Except Nat α → Prop} {F : Except Nat β → Prop}

theorem bind {k : α → Script κ ρ β} (hp : p.Only P fun out =>
    match out with
    | .ok a => (k a).Only P F
    | .error status => F (.error status)) : (p >>= k).Only P F := by
  induction p with
  | done | exit => exact hp
  | run c next ih => exact ⟨hp.1, fun r => ih r (hp.2 r)⟩

theorem mono {P' : κ → Prop} {E' : Except Nat α → Prop} (hp : p.Only P E)
    (hP : ∀ c, P c → P' c) (hE : ∀ out, E out → E' out) : p.Only P' E' := by
  induction p with
  | done | exit => exact hE _ hp
  | run c next ih => exact ⟨hP _ hp.1, fun r => ih r (hp.2 r)⟩

/-- One part after another that returns. -/
theorem seq {k : α → Script κ ρ β} (hp : p.Only P Returned) (hk : ∀ a, (k a).Only P F) :
    (p >>= k).Only P F := by
  refine bind (hp.mono (fun _ hc => hc) ?_)
  rintro (status | a) ho
  · exact ho.elim
  · exact hk a

/-- What every allowed command preserves holds wherever the script is. -/
theorem ensures (hp : p.Only P E)
    (step : ∀ {h w c r w'}, P c → I h w → effect w c r w' → I (h ++ [(c, r)]) w')
    (hi : I h w) : p.Ensures effect I (fun out _ _ => E out) h w := by
  induction p generalizing h w with
  | done | exit => exact ⟨hi, hp⟩
  | run c next ih => exact ⟨hi, fun r w' he => ih r (hp.2 r) (step hp.1 hi he)⟩

end Only

end Script
