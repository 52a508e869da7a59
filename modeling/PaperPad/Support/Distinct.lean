import Mathlib.Data.List.Destutter
import Mathlib.Data.List.Lex
import Mathlib.Data.List.Sort

/-!
# Support — Distinct

What a list has, each element once and in order: sort, then drop what equals its neighbour.  The
result increases strictly (`distinct_increasing`) and has the elements of the list, no other
(`mem_distinct`), so it depends on the set of them only, not on their order or number.
-/

namespace Distinct

variable {α : Type*} [LinearOrder α] {a : α} {l : List α}

/-- `sort_unstable` and `dedup`. -/
def distinct (l : List α) : List α := (l.mergeSort (· ≤ ·)).destutter (· ≠ ·)

/-- Dropping neighbours that are equal drops no element altogether. -/
theorem mem_destutter'_ne {b : α} (h : a ∈ b :: l) : a ∈ l.destutter' (· ≠ ·) b := by
  induction l generalizing b with
  | nil => exact h
  | cons c l ih =>
      by_cases hbc : b = c
      · rw [List.destutter'_cons_neg l (not_not.mpr hbc)]
        refine ih ?_
        rw [hbc] at h ⊢
        simpa using h
      · rw [List.destutter'_cons_pos l hbc]
        rcases List.mem_cons.mp h with rfl | h
        · exact List.mem_cons_self
        · exact List.mem_cons_of_mem _ (ih h)

theorem mem_distinct : a ∈ distinct l ↔ a ∈ l := by
  rw [distinct]
  constructor
  · intro h
    exact List.mem_mergeSort.mp ((List.destutter_sublist _ _).mem h)
  · intro h
    have hsorted : a ∈ l.mergeSort (· ≤ ·) := List.mem_mergeSort.mpr h
    generalize l.mergeSort (· ≤ ·) = s at hsorted ⊢
    cases s with
    | nil => cases hsorted
    | cons b s =>
        rw [List.destutter_cons']
        exact mem_destutter'_ne hsorted

theorem distinct_increasing (l : List α) : (distinct l).Pairwise (· < ·) := by
  have hle : (distinct l).Pairwise (· ≤ ·) :=
    List.Pairwise.sublist (List.destutter_sublist _ _) List.sortedLE_mergeSort.pairwise
  have hne : (distinct l).IsChain (· ≠ ·) := List.isChain_destutter _ _
  refine List.isChain_iff_pairwise.mp ?_
  generalize distinct l = s at hle hne
  induction s with
  | nil => exact .nil
  | cons a s ih =>
      cases s with
      | nil => exact .singleton a
      | cons b s =>
          obtain ⟨hab, hle⟩ := List.pairwise_cons.mp hle
          obtain ⟨hab', hne⟩ := List.isChain_cons_cons.mp hne
          exact List.isChain_cons_cons.mpr
            ⟨lt_of_le_of_ne (hab b List.mem_cons_self) hab', ih hle hne⟩

section Concat

variable {β : Type*} [DecidableEq β]

theorem destutter'_concat (a b : β) (l : List β) :
    (l ++ [a]).destutter' (· ≠ ·) b =
      if (b :: l).getLast? = some a then l.destutter' (· ≠ ·) b
      else l.destutter' (· ≠ ·) b ++ [a] := by
  induction l generalizing b with
  | nil =>
      rw [List.nil_append, List.destutter'_singleton, List.destutter'_nil]
      by_cases hba : b = a <;> simp [hba]
  | cons c l ih =>
      rw [List.cons_append, List.getLast?_cons_cons]
      by_cases hbc : b = c
      · rw [List.destutter'_cons_neg _ (not_not.mpr hbc),
          List.destutter'_cons_neg _ (not_not.mpr hbc), hbc]
        exact ih c
      · rw [List.destutter'_cons_pos _ hbc, List.destutter'_cons_pos _ hbc, ih c]
        split <;> rfl

/-- One more element is kept if it is not the last one again. -/
theorem destutter_concat (a : β) (l : List β) :
    (l ++ [a]).destutter (· ≠ ·) =
      if l.getLast? = some a then l.destutter (· ≠ ·) else l.destutter (· ≠ ·) ++ [a] := by
  cases l with
  | nil => simp
  | cons b l => exact destutter'_concat a b l

end Concat

end Distinct
