import Mathlib.Data.List.Range

/-!
# Support — Raster

Row-major memory.  `splice` overwrites a run of a list; `writeRows` overwrites `n` runs that
start `line` apart.  When the rows fit (`Fits`), each holds what was written to it and everything
between and around them is unchanged.

`range'_chunks` is the partition of the rows into chunks of at most `k`.
-/

namespace Raster

variable {α : Type*}

/-- `mem[start..start + bytes.len()].copy_from_slice(bytes)`. -/
def splice (mem : List α) (start : Nat) (bytes : List α) : List α :=
  mem.take start ++ bytes ++ mem.drop (start + bytes.length)

/-- Row `r` written at `start + r * line`, for each of `n` rows. -/
def writeRows (mem : List α) (start line n : Nat) (row : Nat → List α) : List α :=
  (List.range n).foldl (fun m r => splice m (start + r * line) (row r)) mem

section Splice

variable {mem bytes : List α} {start : Nat}

theorem length_splice (h : start + bytes.length ≤ mem.length) :
    (splice mem start bytes).length = mem.length := by
  simp only [splice, List.length_append, List.length_take, List.length_drop]
  omega

theorem getElem?_splice (h : start + bytes.length ≤ mem.length) (i : Nat) :
    (splice mem start bytes)[i]? =
      if start ≤ i ∧ i < start + bytes.length then bytes[i - start]? else mem[i]? := by
  have hs : (mem.take start).length = start := by
    rw [List.length_take]
    omega
  rw [splice, List.append_assoc]
  by_cases h₁ : i < start
  · rw [List.getElem?_append_left (by rw [hs]; exact h₁), List.getElem?_take, if_pos h₁,
      if_neg (fun k => absurd k.1 (not_le.mpr h₁))]
  · have h₁ := not_lt.mp h₁
    rw [List.getElem?_append_right (by rw [hs]; exact h₁), hs]
    by_cases h₂ : i < start + bytes.length
    · rw [List.getElem?_append_left (by omega), if_pos ⟨h₁, h₂⟩]
    · rw [List.getElem?_append_right (by omega), List.getElem?_drop, if_neg (fun k => h₂ k.2)]
      congr 1
      omega

end Splice

/-! ### One value at many places -/

section Sets

variable {ι : Type*} {place : ι → Nat} {v : α} {i : Nat}

theorem length_foldl_set (places : List ι) (mem : List α) :
    (places.foldl (fun m j => m.set (place j) v) mem).length = mem.length := by
  induction places generalizing mem with
  | nil => rfl
  | cons j places ih => rw [List.foldl_cons, ih, List.length_set]

theorem getElem?_foldl_set_of_ne {places : List ι} (h : ∀ j ∈ places, place j ≠ i)
    (mem : List α) : (places.foldl (fun m j => m.set (place j) v) mem)[i]? = mem[i]? := by
  induction places generalizing mem with
  | nil => rfl
  | cons j places ih =>
      rw [List.foldl_cons, ih (fun k hk => h k (List.mem_cons_of_mem _ hk)),
        List.getElem?_set_ne (h j (List.mem_cons_self ..))]

theorem getElem?_foldl_set_of_mem {places : List ι} (h : ∃ j ∈ places, place j = i)
    {mem : List α} (hi : i < mem.length) :
    (places.foldl (fun m j => m.set (place j) v) mem)[i]? = some v := by
  induction places generalizing mem with
  | nil => simp at h
  | cons j places ih =>
      rw [List.foldl_cons]
      by_cases hrest : ∃ k ∈ places, place k = i
      · exact ih hrest (by rw [List.length_set]; exact hi)
      · -- the last write to the place is this one
        obtain ⟨k, hk, rfl⟩ := h
        obtain rfl : k = j := (List.mem_cons.mp hk).resolve_right fun hm => hrest ⟨k, hm, rfl⟩
        rw [getElem?_foldl_set_of_ne (fun l hl e => hrest ⟨l, hl, e⟩),
          List.getElem?_set_self hi]

end Sets

/-! ### Rows -/

/-- `n` rows of `width`, `line` apart from `start` on, lie inside the memory. -/
structure Fits (mem : List α) (start line width n : Nat) (row : Nat → List α) : Prop where
  length_row : ∀ r < n, (row r).length = width
  width_le : width ≤ line
  inside : ∀ r < n, start + r * line + width ≤ mem.length

/-- A row ends before the next one starts. -/
theorem row_end_le {r n : Nat} (h : r < n) (line : Nat) : r * line + line ≤ n * line := by
  rw [← Nat.succ_mul]
  exact Nat.mul_le_mul_right line h

/-- An index determines its row and its column. -/
theorem index_inj {a b i j s : Nat} (hi : i < s) (hj : j < s) (h : a * s + i = b * s + j) :
    a = b ∧ i = j := by
  rcases Nat.lt_trichotomy a b with hab | rfl | hab
  · have := row_end_le hab s
    omega
  · exact ⟨rfl, Nat.add_left_cancel h⟩
  · have := row_end_le hab s
    omega

section Rows

variable {mem : List α} {start line width n : Nat} {row : Nat → List α}

theorem writeRows_succ :
    writeRows mem start line (n + 1) row =
      splice (writeRows mem start line n row) (start + n * line) (row n) := by
  rw [writeRows, List.range_succ, List.foldl_append]
  rfl

theorem Fits.prev (h : Fits mem start line width (n + 1) row) :
    Fits mem start line width n row :=
  ⟨fun r hr => h.length_row r (Nat.lt_succ_of_lt hr), h.width_le,
    fun r hr => h.inside r (Nat.lt_succ_of_lt hr)⟩

theorem length_writeRows (h : Fits mem start line width n row) :
    (writeRows mem start line n row).length = mem.length := by
  induction n with
  | zero => rfl
  | succ n ih =>
      have hn := h.inside n (Nat.lt_succ_self n)
      rw [writeRows_succ, length_splice, ih h.prev]
      rw [ih h.prev, h.length_row n (Nat.lt_succ_self n)]
      exact hn

/-- What one more row changes. -/
theorem getElem?_writeRows_succ (h : Fits mem start line width (n + 1) row) (i : Nat) :
    (writeRows mem start line (n + 1) row)[i]? =
      if start + n * line ≤ i ∧ i < start + n * line + width then (row n)[i - (start + n * line)]?
      else (writeRows mem start line n row)[i]? := by
  have hn := h.inside n (Nat.lt_succ_self n)
  have hw := h.length_row n (Nat.lt_succ_self n)
  rw [writeRows_succ, getElem?_splice (by rw [length_writeRows h.prev, hw]; exact hn), hw]

/-- **Inside a row** is what was written to it. -/
theorem getElem?_writeRows_inside (h : Fits mem start line width n row) {r c : Nat} (hr : r < n)
    (hc : c < width) : (writeRows mem start line n row)[start + r * line + c]? = (row r)[c]? := by
  induction n with
  | zero => exact absurd hr (Nat.not_lt_zero r)
  | succ n ih =>
      rw [getElem?_writeRows_succ h]
      by_cases hrn : r = n
      · subst hrn
        rw [if_pos (by omega), Nat.add_sub_cancel_left]
      · -- the last row starts behind this one
        have hlt : r < n := by omega
        have := row_end_le hlt line
        have := h.width_le
        rw [if_neg (by omega), ih h.prev hlt]

/-- **Outside the rows** nothing changes. -/
theorem getElem?_writeRows_outside (h : Fits mem start line width n row) {i : Nat}
    (hi : ∀ r < n, i < start + r * line ∨ start + r * line + width ≤ i) :
    (writeRows mem start line n row)[i]? = mem[i]? := by
  induction n with
  | zero => rfl
  | succ n ih =>
      have hn := hi n (Nat.lt_succ_self n)
      rw [getElem?_writeRows_succ h, if_neg (by omega),
        ih h.prev fun r hr => hi r (Nat.lt_succ_of_lt hr)]

/-- An index of no byte of the rows lies between or around them. -/
theorem getElem?_writeRows_of_ne (h : Fits mem start line width n row) {i : Nat}
    (hi : ∀ c r, c < width → r < n → i ≠ start + r * line + c) :
    (writeRows mem start line n row)[i]? = mem[i]? := by
  refine getElem?_writeRows_outside h fun r hr => ?_
  by_contra hin
  obtain ⟨hlo, hhi⟩ := not_or.mp hin
  exact hi (i - (start + r * line)) r (by omega) hr (by omega)

/-- A row read back as a whole. -/
theorem take_drop_writeRows (h : Fits mem start line width n row) {r : Nat} (hr : r < n) :
    ((writeRows mem start line n row).drop (start + r * line)).take width = row r := by
  apply List.ext_getElem?
  intro c
  rw [List.getElem?_take]
  by_cases hc : c < width
  · rw [if_pos hc, List.getElem?_drop, getElem?_writeRows_inside h hr hc]
  · have hl := h.length_row r hr
    rw [if_neg hc, List.getElem?_eq_none (by omega)]

end Rows

/-! ### Chunks of rows -/

/-- Chunks of at most `k` rows, as many as it takes, cover the rows up to `h` in order. -/
theorem range'_chunks {k h : Nat} (n a : Nat) (hn : h ≤ a + n * k) :
    (List.range' a n k).flatMap (fun b => List.range' b (min k (h - b))) =
      List.range' a (h - a) := by
  induction n generalizing a with
  | zero =>
      have : h - a = 0 := by omega
      rw [this]
      rfl
  | succ n ih =>
      have hstep : h ≤ a + k + n * k := by
        rw [Nat.succ_mul] at hn
        omega
      rw [List.range'_succ, List.flatMap_cons, ih (a + k) hstep]
      by_cases hk : k ≤ h - a
      · have hrest : h - a = k + (h - (a + k)) := by omega
        rw [min_eq_left hk]
        conv_rhs => rw [hrest]
        exact List.range'_append_1
      · have hend : h - (a + k) = 0 := by omega
        rw [min_eq_right (by omega), hend]
        exact List.append_nil _

end Raster
