import Mathlib.Logic.Relation

/-!
# Support — Transition

Labelled runs.  A system is a relation `R s e t`: from `s`, the event `e` may lead to `t`.
`Run R s es t` takes the events `es` in order from `s` to `t`; its last step is the outermost
constructor, so an induction on a run sees the events so far as a prefix.

A system given by a partial step function `f : σ → ε → Option σ` is the relation `Fn f`, and
`exec f` runs it on a list of events.

`restrict R ok` keeps the steps whose event `ok` allows in the state it is taken from.  A
property that needs a condition on the steps is an invariant of `restrict R ok`.
-/

namespace Transition

variable {σ ε : Type*}

/-- The events `es`, taken in order, lead from `s` to `t`. -/
inductive Run (R : σ → ε → σ → Prop) : σ → List ε → σ → Prop where
  | refl (s : σ) : Run R s [] s
  | snoc {s t u : σ} {es : List ε} {e : ε} (h : Run R s es t) (k : R t e u) :
      Run R s (es ++ [e]) u

/-- The relation of a partial step function. -/
def Fn (f : σ → ε → Option σ) (s : σ) (e : ε) (t : σ) : Prop := f s e = some t

/-- A step function on a list of events. -/
def exec (f : σ → ε → Option σ) : σ → List ε → Option σ
  | s, [] => some s
  | s, e :: es => (f s e).bind fun t => exec f t es

/-- The steps of `R` whose event `ok` allows. -/
def restrict (R : σ → ε → σ → Prop) (ok : σ → ε → Prop) (s : σ) (e : ε) (t : σ) : Prop :=
  ok s e ∧ R s e t

namespace Run

variable {R : σ → ε → σ → Prop}

theorem one {s t : σ} {e : ε} (h : R s e t) : Run R s [e] t := .snoc (.refl s) h

theorem trans {s t u : σ} {es fs : List ε} (h : Run R s es t) (k : Run R t fs u) :
    Run R s (es ++ fs) u := by
  induction k with
  | refl => rwa [List.append_nil]
  | snoc _ hr ih => rw [← List.append_assoc]; exact .snoc ih hr

theorem cons {s t u : σ} {e : ε} {es : List ε} (h : R s e t) (k : Run R t es u) :
    Run R s (e :: es) u :=
  (one h).trans k

/-- A run through a concatenation passes a state between the two. -/
theorem split {s u : σ} {fs : List ε} (h : Run R s fs u) :
    ∀ {es es' : List ε}, fs = es ++ es' → ∃ t, Run R s es t ∧ Run R t es' u := by
  induction h with
  | refl =>
      intro es es' e
      obtain ⟨rfl, rfl⟩ := List.append_eq_nil_iff.mp e.symm
      exact ⟨s, .refl s, .refl s⟩
  | @snoc t u fs e h k ih =>
      intro es es' he
      rcases List.eq_nil_or_concat es' with rfl | ⟨gs, g, rfl⟩
      · rw [List.append_nil] at he
        exact ⟨u, he ▸ .snoc h k, .refl u⟩
      · rw [List.concat_eq_append] at he ⊢
        rw [← List.append_assoc] at he
        obtain ⟨hg, hlast⟩ := List.append_inj' he rfl
        obtain rfl : e = g := by simpa using hlast
        obtain ⟨v, hv, hw⟩ := ih hg
        exact ⟨v, hv, .snoc hw k⟩

theorem eq_of_nil {s t : σ} (h : Run R s [] t) : s = t := by
  generalize he : ([] : List ε) = es at h
  cases h with
  | refl => rfl
  | snoc => simp at he

theorem unsnoc {s u : σ} {es : List ε} {e : ε} (h : Run R s (es ++ [e]) u) :
    ∃ t, Run R s es t ∧ R t e u := by
  generalize he : es ++ [e] = fs at h
  cases h with
  | refl => simp at he
  | @snoc t _ gs g h k =>
      obtain ⟨rfl, hg⟩ := List.append_inj' he rfl
      obtain rfl : e = g := by simpa using hg
      exact ⟨t, h, k⟩

theorem uncons {s u : σ} {e : ε} {es : List ε} (h : Run R s (e :: es) u) :
    ∃ t, R s e t ∧ Run R t es u := by
  obtain ⟨t, h₁, h₂⟩ := @split _ _ R s u (e :: es) h [e] es rfl
  refine ⟨t, ?_, h₂⟩
  obtain ⟨v, hv, k⟩ := @unsnoc _ _ R s t [] e h₁
  exact eq_of_nil hv ▸ k

/-- A predicate the start satisfies and every step preserves holds where a run ends. -/
theorem invariant {I : σ → Prop} (step : ∀ {s e t}, I s → R s e t → I t) {s t : σ}
    {es : List ε} (h : Run R s es t) (h₀ : I s) : I t := by
  induction h with
  | refl => exact h₀
  | snoc _ k ih => exact step ih k

/-- A relation between the events so far and the state, from the start and preserved by every
step. -/
theorem history {I : List ε → σ → Prop} {s t : σ} {es : List ε} (h : Run R s es t)
    (h₀ : I [] s) (step : ∀ {es t e u}, Run R s es t → I es t → R t e u → I (es ++ [e]) u) :
    I es t := by
  induction h with
  | refl => exact h₀
  | snoc h k ih => exact step h ih k

/-- A step function takes the same events to the same state. -/
theorem functional {f : σ → ε → Option σ} {s t u : σ} {es : List ε} (h : Run (Fn f) s es t) :
    Run (Fn f) s es u → t = u := by
  induction h generalizing u with
  | refl => exact fun k => eq_of_nil k
  | snoc _ h₂ ih =>
      intro k
      obtain ⟨v, k₁, k₂⟩ := unsnoc k
      obtain rfl := ih k₁
      exact Option.some.inj (h₂.symm.trans k₂)

/-- A run of a system is a run of a part of it, if every step is one or more or none of its. -/
theorem project {τ φ : Type*} {S : τ → φ → τ → Prop} (part : σ → τ)
    (step : ∀ {s e t}, R s e t → ∃ fs, Run S (part s) fs (part t)) {s t : σ} {es : List ε}
    (h : Run R s es t) : ∃ fs, Run S (part s) fs (part t) := by
  induction h with
  | refl => exact ⟨[], .refl _⟩
  | snoc _ k ih =>
      obtain ⟨fs, hfs⟩ := ih
      obtain ⟨gs, hgs⟩ := step k
      exact ⟨fs ++ gs, hfs.trans hgs⟩

/-- A run of a smaller relation. -/
theorem weaken {S : σ → ε → σ → Prop} (step : ∀ {s e t}, R s e t → S s e t) {s t : σ}
    {es : List ε} (h : Run R s es t) : Run S s es t := by
  induction h with
  | refl => exact .refl _
  | snoc _ k ih => exact .snoc ih (step k)

/-- A run whose events are allowed in every state. -/
theorem restricted {ok : σ → ε → Prop} {s t : σ} {es : List ε} (h : Run R s es t)
    (hok : ∀ e ∈ es, ∀ r, ok r e) : Run (restrict R ok) s es t := by
  induction h with
  | refl => exact .refl s
  | snoc _ k ih =>
      exact .snoc (ih fun e he => hok e (List.mem_append_left _ he)) ⟨hok _ (by simp) _, k⟩

end Run

theorem run_of_exec {f : σ → ε → Option σ} :
    ∀ {es : List ε} {s t : σ}, exec f s es = some t → Run (Fn f) s es t
  | [], s, t, h => by
      obtain rfl : s = t := Option.some.inj h
      exact .refl s
  | e :: es, s, t, h => by
      obtain ⟨u, hu, ht⟩ := Option.bind_eq_some_iff.mp h
      exact Run.cons hu (run_of_exec ht)

end Transition
