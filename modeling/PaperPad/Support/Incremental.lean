import Mathlib.Data.List.Basic

/-!
# Support — Incremental

Decoders that are called again as input arrives.  On the input so far a decoder reports an error,
one message with the length it consumed, or how many more symbols it needs at least.  A `Decoder`
carries the laws that make the answer independent of where the input is cut: what it reports
stands whatever follows, and fewer symbols than it asked for change only the number it asks for.

A caller drains its buffer after each chunk (`drain`), and may wait until it has what the decoder
asked for (`feed`).  `feedAll_eq` is the law of such callers: the messages, the error and the
bytes retained depend on the concatenation of the chunks only.
-/

namespace Incremental

variable {α β ε : Type*}

/-- What a decoder reports on input it does not reject. -/
inductive Progress (β : Type*) where
  | incomplete (additional : Nat)
  | complete (message : β) (consumed : Nat)

/-- A decoder whose reports further input does not change. -/
structure Decoder (α β ε : Type*) where
  decode : List α → Except ε (Progress β)
  error_append : ∀ {p : List α} {e : ε} (q : List α), decode p = .error e →
    decode (p ++ q) = .error e
  complete_append : ∀ {p : List α} {m : β} {n : Nat} (q : List α),
    decode p = .ok (.complete m n) → decode (p ++ q) = .ok (.complete m n)
  incomplete_append : ∀ {p : List α} {k : Nat} (q : List α), decode p = .ok (.incomplete k) →
    q.length < k → decode (p ++ q) = .ok (.incomplete (k - q.length))
  consumed_pos : ∀ {p : List α} {m : β} {n : Nat}, decode p = .ok (.complete m n) → 0 < n
  consumed_le : ∀ {p : List α} {m : β} {n : Nat}, decode p = .ok (.complete m n) → n ≤ p.length

namespace Decoder

variable (d : Decoder α β ε)

/-- The bytes a caller keeps, with what the decoder asked for. -/
structure Retained where
  bytes : List α
  missing : Nat
  incomplete : d.decode bytes = .ok (.incomplete missing)

/-- Every message at the front of the input, and the error or the bytes that end it. -/
def drain (input : List α) : List β × Except ε d.Retained :=
  match h : d.decode input with
  | .error e => ([], .error e)
  | .ok (.incomplete k) => ([], .ok ⟨input, k, h⟩)
  | .ok (.complete m n) =>
      let r := drain (input.drop n)
      (m :: r.1, r.2)
termination_by input.length
decreasing_by
  have := d.consumed_pos h
  have := d.consumed_le h
  simp only [List.length_drop]
  omega

/-- One more chunk, decoded at once. -/
def feedEager : Except ε d.Retained → List α → List β × Except ε d.Retained
  | .error e, _ => ([], .error e)
  | .ok r, chunk => d.drain (r.bytes ++ chunk)

/-- One more chunk, decoded once the decoder has as much as it asked for. -/
def feed : Except ε d.Retained → List α → List β × Except ε d.Retained
  | .error e, _ => ([], .error e)
  | .ok r, chunk =>
      if h : chunk.length < r.missing then
        ([], .ok ⟨r.bytes ++ chunk, r.missing - chunk.length,
          d.incomplete_append chunk r.incomplete h⟩)
      else d.drain (r.bytes ++ chunk)

/-- The chunks one after the other: all messages, and the state after the last chunk. -/
def feedAll (step : Except ε d.Retained → List α → List β × Except ε d.Retained)
    (s : Except ε d.Retained) : List (List α) → List β × Except ε d.Retained
  | [] => ([], s)
  | chunk :: chunks =>
      let r := step s chunk
      let rest := feedAll step r.2 chunks
      (r.1 ++ rest.1, rest.2)

variable {d}

theorem drain_of_error {input : List α} {e : ε} (h : d.decode input = .error e) :
    d.drain input = ([], .error e) := by
  rw [drain]
  split
  · next e' he => rw [h] at he; cases he; rfl
  · next k hk => rw [h] at hk; cases hk
  · next m n hm => rw [h] at hm; cases hm

theorem drain_of_incomplete {input : List α} {k : Nat}
    (h : d.decode input = .ok (.incomplete k)) :
    d.drain input = ([], .ok ⟨input, k, h⟩) := by
  rw [drain]
  split
  · next e he => rw [h] at he; cases he
  · next k' hk =>
      obtain rfl : k = k' := by rw [h] at hk; cases hk; rfl
      rfl
  · next m n hm => rw [h] at hm; cases hm

theorem drain_of_complete {input : List α} {m : β} {n : Nat}
    (h : d.decode input = .ok (.complete m n)) :
    d.drain input = (m :: (d.drain (input.drop n)).1, (d.drain (input.drop n)).2) := by
  rw [drain]
  split
  · next e he => rw [h] at he; cases he
  · next k hk => rw [h] at hk; cases hk
  · next m' n' hm => rw [h] at hm; cases hm; rfl

/-- Waiting for what the decoder asked for loses nothing. -/
theorem feed_eq_feedEager (s : Except ε d.Retained) (chunk : List α) :
    d.feed s chunk = d.feedEager s chunk := by
  cases s with
  | error e => rfl
  | ok r =>
      simp only [feed, feedEager]
      by_cases h : chunk.length < r.missing
      · rw [dif_pos h, drain_of_incomplete (d.incomplete_append chunk r.incomplete h)]
      · rw [dif_neg h]

/-- What is drained of a prefix is drained first, and the rest continues from what was kept. -/
theorem drain_append (p q : List α) :
    d.drain (p ++ q) =
      ((d.drain p).1 ++ (d.feedEager (d.drain p).2 q).1, (d.feedEager (d.drain p).2 q).2) := by
  -- on the number of bytes left to drain
  induction hl : p.length using Nat.strongRecOn generalizing p with
  | ind l ih =>
      cases h : d.decode p with
      | error e =>
          rw [drain_of_error h, drain_of_error (d.error_append q h)]
          rfl
      | ok r =>
          cases r with
          | incomplete k =>
              rw [drain_of_incomplete h]
              rfl
          | complete m n =>
              have hn := d.consumed_le h
              have h₀ := d.consumed_pos h
              have hdrop : (p ++ q).drop n = p.drop n ++ q := List.drop_append_of_le_length hn
              have := ih (p.drop n).length (by rw [List.length_drop]; omega) (p.drop n) rfl
              rw [drain_of_complete h, drain_of_complete (d.complete_append q h), hdrop, this]
              rfl

theorem feedAll_congr {f g : Except ε d.Retained → List α → List β × Except ε d.Retained}
    (h : ∀ s chunk, f s chunk = g s chunk) (s : Except ε d.Retained) (chunks : List (List α)) :
    d.feedAll f s chunks = d.feedAll g s chunks := by
  induction chunks generalizing s with
  | nil => rfl
  | cons chunk chunks ih => simp only [feedAll, h, ih]

theorem feedAll_drain (p : List α) (chunks : List (List α)) :
    d.drain (p ++ chunks.flatten) =
      ((d.drain p).1 ++ (d.feedAll d.feedEager (d.drain p).2 chunks).1,
        (d.feedAll d.feedEager (d.drain p).2 chunks).2) := by
  induction chunks generalizing p with
  | nil => simp [feedAll]
  | cons chunk chunks ih =>
      rw [List.flatten_cons, ← List.append_assoc, ih, drain_append]
      simp [feedAll]

/-- **Independence of the cuts.**  A caller that starts with nothing and is fed any chunks, eager
or patient, has drained their concatenation. -/
theorem feedAll_eq {r : d.Retained} (hr : r.bytes = []) (chunks : List (List α)) :
    d.feedAll d.feed (.ok r) chunks = d.drain chunks.flatten ∧
      d.feedAll d.feedEager (.ok r) chunks = d.drain chunks.flatten := by
  have hstart : d.drain [] = ([], .ok r) := by
    obtain ⟨bytes, missing, h⟩ := r
    subst hr
    exact drain_of_incomplete h
  have heager : d.feedAll d.feedEager (.ok r) chunks = d.drain chunks.flatten := by
    have := feedAll_drain (d := d) [] chunks
    rw [hstart] at this
    simpa using this.symm
  exact ⟨(feedAll_congr feed_eq_feedEager _ _).trans heager, heager⟩

end Decoder

end Incremental
