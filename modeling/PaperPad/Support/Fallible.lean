import Mathlib.Algebra.Group.Int.Defs
import Mathlib.Algebra.Group.Nat.Defs
import Mathlib.Data.List.Basic

/-!
# Support — Fallible

When a chain of calls succeeds (`Except.bind_eq_ok`), and calls that fail with an error and its
contexts, or panic.  `ensure`, `required` and `context` are the three ways such code is written;
each has one lemma for what its success says and one for when it succeeds.  Code written with
these alone fails without a panic (`NoPanic`).  An index out of bounds, arithmetic that leaves its
type and a division by zero panic.

`sweep` is a loop over a state that keeps what it did before it failed.  If no step of it can
fail, it is simulated by a fold (`sweep_simulates`).
-/

theorem Except.bind_eq_ok {ε : Type*} {α β : Type} {x : Except ε α} {f : α → Except ε β} {b : β} :
    (x >>= f) = .ok b ↔ ∃ a, x = .ok a ∧ f a = .ok b := by
  cases x with
  | error e =>
      constructor
      · intro h; cases h
      · rintro ⟨a, ha, -⟩; cases ha
  | ok a =>
      constructor
      · intro h; exact ⟨a, rfl, h⟩
      · rintro ⟨a', ha, h⟩; cases ha; exact h

theorem Except.map_eq_ok {ε α β : Type*} {x : Except ε α} {f : α → β} {b : β} :
    x.map f = .ok b ↔ ∃ a, x = .ok a ∧ f a = b := by
  cases x <;> simp [Except.map]

theorem Except.mapError_eq_ok {ε ε' α : Type*} {x : Except ε α} {k : ε → ε'} {a : α} :
    x.mapError k = .ok a ↔ x = .ok a := by
  cases x <;> simp [Except.mapError]

theorem Except.map_mapError_eq_ok {ε ε' α β : Type*} {x : Except ε α} {g : α → β} {k : ε → ε'}
    {b : β} : (x.map g).mapError k = .ok b ↔ ∃ a, x = .ok a ∧ g a = b := by
  rw [mapError_eq_ok]
  cases x <;> simp [Except.map]

/-- How a call fails: the texts of its contexts and its error, outermost first, or a panic. -/
inductive Failure where
  | error (chain : List String)
  | panicked
  deriving DecidableEq

/-- What a call returns, unless it fails. -/
abbrev Fallible (β : Type) := Except Failure β

namespace Fallible

variable {β γ : Type}

/-- `ensure!(p, message)`. -/
def ensure (p : Prop) [Decidable p] (message : String) : Fallible Unit :=
  if p then .ok () else .error (.error [message])

/-- A slice or an index that must be in bounds. -/
def inBounds (p : Prop) [Decidable p] : Fallible Unit := if p then .ok () else .error .panicked

/-- Arithmetic on an unsigned type of this many bits. -/
def unsigned (bits n : Nat) : Fallible Nat := if n < 2 ^ bits then .ok n else .error .panicked

/-- Arithmetic on a signed type of this many bits. -/
def signed (bits : Nat) (n : Int) : Fallible Int :=
  if -2 ^ (bits - 1) ≤ n ∧ n < 2 ^ (bits - 1) then .ok n else .error .panicked

/-- `a / b`. -/
def divide (a b : Nat) : Fallible Nat := if b = 0 then .error .panicked else .ok (a / b)

/-- `Option::context`. -/
def required (x : Option β) (message : String) : Fallible β :=
  match x with
  | some b => .ok b
  | none => .error (.error [message])

/-- `Result::context`. -/
def context (x : Fallible β) (message : String) : Fallible β :=
  match x with
  | .ok b => .ok b
  | .error (.error chain) => .error (.error (message :: chain))
  | .error .panicked => .error .panicked

/-- A loop; it stops at the first step that fails, with the state that step left. -/
def sweep {σ α : Type} (step : σ → α → Fallible Unit × σ) (s : σ) : List α → Fallible Unit × σ
  | [] => (.ok (), s)
  | a :: as =>
      match step s a with
      | (.ok (), s') => sweep step s' as
      | (.error e, s') => (.error e, s')

theorem bind_eq_ok {x : Fallible β} {f : β → Fallible γ} {c : γ} :
    (x >>= f) = .ok c ↔ ∃ b, x = .ok b ∧ f b = .ok c :=
  Except.bind_eq_ok

theorem ensure_eq_ok {p : Prop} [Decidable p] {message : String} {u : Unit} :
    ensure p message = .ok u ↔ p := by
  by_cases h : p <;> simp [ensure, h]

theorem ensure_of {p : Prop} [Decidable p] {message : String} (h : p) :
    ensure p message = .ok () :=
  if_pos h

theorem unsigned_of {bits n : Nat} (h : n < 2 ^ bits) : unsigned bits n = .ok n := if_pos h

theorem signed_of {bits : Nat} {n : Int} (h : -2 ^ (bits - 1) ≤ n ∧ n < 2 ^ (bits - 1)) :
    signed bits n = .ok n :=
  if_pos h

theorem divide_of {a b : Nat} (h : b ≠ 0) : divide a b = .ok (a / b) := if_neg h

theorem inBounds_of {p : Prop} [Decidable p] (h : p) : inBounds p = .ok () := if_pos h

theorem required_eq_ok {x : Option β} {message : String} {b : β} :
    required x message = .ok b ↔ x = some b := by
  cases x <;> simp [required]

theorem context_eq_ok {x : Fallible β} {message : String} {b : β} :
    context x message = .ok b ↔ x = .ok b := by
  rcases x with (_ | _) | _ <;> simp [context]

@[simp] theorem context_ok (b : β) (message : String) : context (.ok b) message = .ok b := rfl

@[simp] theorem required_some (b : β) (message : String) : required (some b) message = .ok b := rfl

@[simp] theorem ok_bind (b : β) (f : β → Fallible γ) :
    ((.ok b : Fallible β) >>= f) = f b := rfl

/-- A guard that holds is passed. -/
theorem ensure_bind {p : Prop} [Decidable p] {message : String} (h : p) (f : Unit → Fallible γ) :
    (ensure p message >>= f) = f () := by
  rw [ensure_of h, ok_bind]

theorem ensure_bind_eq_ok {p : Prop} [Decidable p] {message : String} {f : Unit → Fallible γ}
    {c : γ} : (ensure p message >>= f) = .ok c ↔ p ∧ f () = .ok c := by
  rw [bind_eq_ok]
  constructor
  · rintro ⟨u, hu, h⟩
    exact ⟨ensure_eq_ok.mp hu, h⟩
  · rintro ⟨hp, h⟩
    exact ⟨(), ensure_of hp, h⟩

theorem inBounds_bind_eq_ok {p : Prop} [Decidable p] {f : Unit → Fallible γ} {c : γ} :
    (inBounds p >>= f) = .ok c ↔ p ∧ f () = .ok c := by
  by_cases h : p
  · rw [inBounds_of h, ok_bind, and_iff_right h]
  · rw [inBounds, if_neg h]
    constructor
    · intro e
      cases e
    · intro e
      exact absurd e.1 h

theorem inBounds_bind {p : Prop} [Decidable p] (h : p) (f : Unit → Fallible γ) :
    (inBounds p >>= f) = f () := by
  rw [inBounds_of h, ok_bind]

theorem required_bind_eq_ok {x : Option β} {message : String} {f : β → Fallible γ} {c : γ} :
    (required x message >>= f) = .ok c ↔ ∃ b, x = some b ∧ f b = .ok c := by
  rw [bind_eq_ok]
  simp only [required_eq_ok]

/-! ### Calls that do not panic -/

/-- The call succeeds, or fails with an error. -/
def NoPanic (x : Fallible β) : Prop := x ≠ .error .panicked

theorem noPanic_ok (b : β) : NoPanic (.ok b) := nofun

/-- An error of one call, passed on by another. -/
theorem NoPanic.error {x : Fallible β} {e : Failure} (h : NoPanic x) (hx : x = .error e) :
    NoPanic (.error e : Fallible γ) := by
  intro he
  rw [Except.error.inj he] at hx
  exact h hx

theorem NoPanic.bind {x : Fallible β} {f : β → Fallible γ} (h : NoPanic x)
    (k : ∀ b, NoPanic (f b)) : NoPanic (x >>= f) := by
  cases x with
  | error e => exact fun he => h (congrArg Except.error (Except.error.inj he))
  | ok b => exact k b

theorem noPanic_ensure (p : Prop) [Decidable p] (message : String) :
    NoPanic (ensure p message) := by
  rw [ensure]
  split <;> exact nofun

theorem noPanic_required (x : Option β) (message : String) : NoPanic (required x message) := by
  cases x <;> exact nofun

theorem noPanic_forM {α : Type} {f : α → Fallible PUnit} (h : ∀ a, NoPanic (f a))
    (as : List α) : NoPanic (as.forM f) := by
  induction as with
  | nil => exact nofun
  | cons a as ih => exact (h a).bind fun _ => ih

theorem noPanic_mapM {α : Type} {f : α → Fallible β} (h : ∀ a, NoPanic (f a)) (as : List α) :
    NoPanic (as.mapM f) := by
  induction as with
  | nil => exact nofun
  | cons a as ih =>
      rw [List.mapM_cons]
      exact (h a).bind fun _ => ih.bind fun _ => noPanic_ok _

/-! ### Loops -/

/-- A loop none of whose steps fails is a fold; `Inv` is what the steps need of the state. -/
theorem foldlM_of {σ α : Type} {step : σ → α → Fallible σ} {next : σ → α → σ} {as : List α}
    (Inv : σ → Prop) (h : ∀ s, Inv s → ∀ a ∈ as, step s a = .ok (next s a) ∧ Inv (next s a)) {s : σ}
    (hs : Inv s) : as.foldlM step s = .ok (as.foldl next s) := by
  induction as generalizing s with
  | nil => rfl
  | cons a as ih =>
      obtain ⟨hstep, hnext⟩ := h s hs a List.mem_cons_self
      rw [List.foldlM_cons, hstep, List.foldl_cons]
      exact ih (fun t ht b hb => h t ht b (List.mem_cons_of_mem a hb)) hnext

theorem forM_of {α : Type} {f : α → Fallible PUnit} {as : List α} (h : ∀ a ∈ as, f a = .ok ()) :
    as.forM f = .ok () := by
  induction as with
  | nil => rfl
  | cons a as ih =>
      change (f a >>= fun _ => as.forM f) = .ok ()
      rw [h a List.mem_cons_self]
      exact ih fun b hb => h b (List.mem_cons_of_mem a hb)

theorem mapM_of {α : Type} {f : α → Fallible β} {g : α → β} {as : List α}
    (h : ∀ a ∈ as, f a = .ok (g a)) : as.mapM f = .ok (as.map g) := by
  induction as with
  | nil => rfl
  | cons a as ih =>
      rw [List.mapM_cons, h a List.mem_cons_self,
        ih fun b hb => h b (List.mem_cons_of_mem a hb)]
      rfl

/-- A loop that succeeds has succeeded on every element. -/
theorem of_mapM {α : Type} {f : α → Fallible β} {g : α → β} (hg : ∀ a b, f a = .ok b → b = g a)
    {as : List α} {bs : List β} (h : as.mapM f = .ok bs) :
    (∀ a ∈ as, f a = .ok (g a)) ∧ bs = as.map g := by
  induction as generalizing bs with
  | nil =>
      cases h
      exact ⟨nofun, rfl⟩
  | cons a as ih =>
      rw [List.mapM_cons] at h
      obtain ⟨b, hb, h⟩ := bind_eq_ok.mp h
      obtain ⟨bs', hbs, h⟩ := bind_eq_ok.mp h
      obtain rfl := hg a b hb
      obtain ⟨hall, rfl⟩ := ih hbs
      cases h
      exact ⟨List.forall_mem_cons.mpr ⟨hb, hall⟩, rfl⟩

theorem sweep_map {σ α δ : Type} (step : σ → δ → Fallible Unit × σ) (g : α → δ) (s : σ)
    (as : List α) : sweep step s (as.map g) = sweep (fun s a => step s (g a)) s as := by
  induction as generalizing s with
  | nil => rfl
  | cons a as ih =>
      rw [List.map_cons, sweep, sweep]
      split
      · next h => exact ih _
      · rfl

/-- **A loop none of whose steps fails** is simulated by a fold, if each step simulates one. -/
theorem sweep_simulates {σ τ α : Type} {step : σ → α → Fallible Unit × σ} (R : σ → τ → Prop)
    (next : τ → α → τ) {as : List α}
    (h : ∀ a ∈ as, ∀ s t, R s t → ∃ s', step s a = (.ok (), s') ∧ R s' (next t a)) {s : σ} {t : τ}
    (hs : R s t) : ∃ s', sweep step s as = (.ok (), s') ∧ R s' (as.foldl next t) := by
  induction as generalizing s t with
  | nil => exact ⟨s, rfl, hs⟩
  | cons a as ih =>
      obtain ⟨s₁, hstep, hs₁⟩ := h a List.mem_cons_self s t hs
      rw [sweep, hstep, List.foldl_cons]
      exact ih (fun b hb => h b (List.mem_cons_of_mem a hb)) hs₁

/-- What every step keeps, a loop keeps, however it ends. -/
theorem sweep_keeps {σ α : Type} {step : σ → α → Fallible Unit × σ} (Inv : σ → Prop)
    (h : ∀ a s, Inv s → Inv (step s a).2) {as : List α} {s : σ} (hs : Inv s) :
    Inv (sweep step s as).2 := by
  induction as generalizing s with
  | nil => exact hs
  | cons a as ih =>
      have hnext := h a s hs
      rw [sweep]
      split
      · next hstep =>
          rw [hstep] at hnext
          exact ih hnext
      · next hstep =>
          rw [hstep] at hnext
          exact hnext

end Fallible
