import Mathlib.Data.List.Basic
import PaperPad.Support.Transition

/-!
# Support — Latest

A cell that keeps the latest accepted value of what a run puts out.  `emitted` lists what the
steps of a run put out, `latest` is the last of a list that is accepted.  If every step leaves in
the cell the latest it put out, or what was there, so does a whole run (`Run.latest`).

`latest_and_eq_iff`: a second filter behind the cell loses nothing exactly if it accepts what the
first one kept last.
-/

namespace Transition

variable {σ ε α : Type*}

/-! ### The last accepted of a list -/

/-- The last of a list that is accepted. -/
def latest (accepts : α → Bool) (l : List α) : Option α := (l.filter accepts).getLast?

section Latest

variable {p q : α → Bool} {l m : List α}

theorem latest_append : latest p (l ++ m) = (latest p m).or (latest p l) := by
  rw [latest, List.filter_append, List.getLast?_append]
  rfl

theorem mem_of_latest {a : α} (h : latest p l = some a) : a ∈ l ∧ p a = true :=
  List.mem_filter.mp (List.mem_of_getLast? h)

/-- Something is accepted. -/
theorem exists_latest {a : α} (ha : a ∈ l) (hp : p a = true) : ∃ b, latest p l = some b := by
  have hmem : a ∈ l.filter p := List.mem_filter.mpr ⟨ha, hp⟩
  cases hlast : latest p l with
  | some b => exact ⟨b, rfl⟩
  | none =>
      rw [latest, List.getLast?_eq_none_iff] at hlast
      rw [hlast] at hmem
      cases hmem

/-- What comes last is the latest, if it is accepted. -/
theorem latest_of_getLast? {a : α} (h : l.getLast? = some a) (hp : p a = true) :
    latest p l = some a := by
  obtain ⟨init, rfl⟩ := List.getLast?_eq_some_iff.mp h
  rw [latest, List.filter_append, List.filter_cons_of_pos hp, List.filter_nil, List.getLast?_concat]

/-- **Two filters.**  The last that both accept is the last the first one accepts exactly if the
second accepts it too. -/
theorem latest_and_eq_iff (h : ∃ a ∈ l, p a = true ∧ q a = true) :
    latest (fun a => p a && q a) l = latest p l ↔ ∃ a, latest p l = some a ∧ q a = true := by
  obtain ⟨a, ha, hp, hq⟩ := h
  obtain ⟨b, hb⟩ := exists_latest (p := fun a => p a && q a) ha (by rw [hp, hq]; rfl)
  constructor
  · intro he
    obtain ⟨-, hpq⟩ := mem_of_latest hb
    exact ⟨b, he ▸ hb, (Bool.and_eq_true_iff.mp hpq).2⟩
  · rintro ⟨c, hc, hqc⟩
    have hfilter : l.filter (fun a => p a && q a) = (l.filter p).filter q := by
      rw [List.filter_filter]
      exact List.filter_congr fun a _ => Bool.and_comm _ _
    obtain ⟨init, hinit⟩ := List.getLast?_eq_some_iff.mp hc
    rw [hc, latest, hfilter, hinit, List.filter_append, List.filter_cons_of_pos hqc,
      List.filter_nil, List.getLast?_concat]

end Latest

/-! ### What a run puts out -/

/-- What the steps of a run put out, in order. -/
def emitted (f : σ → ε → Option σ) (out : σ → ε → List α) : σ → List ε → List α
  | _, [] => []
  | s, e :: es =>
      out s e ++
        match f s e with
        | some t => emitted f out t es
        | none => []

section Emitted

variable {f : σ → ε → Option σ} {ok : σ → ε → Prop}

theorem emitted_concat {out : σ → ε → List α} {s t : σ} {es : List ε}
    (h : Run (restrict (Fn f) ok) s es t) (e : ε) :
    emitted f out s (es ++ [e]) = emitted f out s es ++ out t e := by
  induction es generalizing s with
  | nil =>
      obtain rfl := Run.eq_of_nil h
      simp only [emitted, List.nil_append]
      split <;> rw [List.append_nil]
  | cons e' es ih =>
      obtain ⟨u, ⟨-, hu⟩, hrest⟩ := Run.uncons h
      have hu : f s e' = some u := hu
      simp only [List.cons_append, emitted, hu]
      rw [ih hrest, List.append_assoc]

/-- **The cell.**  If every step keeps the invariant and leaves the latest accepted in the cell,
a run does. -/
theorem Run.latest (out : σ → ε → List α) (cell : σ → Option α) {p : α → Bool} {I : σ → Prop}
    (step : ∀ {s e t}, I s → restrict (Fn f) ok s e t →
      I t ∧ cell t = (Transition.latest p (out s e)).or (cell s))
    {s t : σ} {es : List ε} (h : Run (restrict (Fn f) ok) s es t) (hs : I s) :
    I t ∧ cell t = (Transition.latest p (emitted f out s es)).or (cell s) := by
  induction h with
  | refl => exact ⟨hs, rfl⟩
  | @snoc t u es e h k ih =>
      obtain ⟨ht, hcell⟩ := ih
      obtain ⟨hu, hnext⟩ := step ht k
      refine ⟨hu, ?_⟩
      rw [hnext, hcell, emitted_concat h, latest_append, Option.or_assoc]

end Emitted

end Transition
