import Mathlib.Data.List.Basic

/-!
# Support — PrefixCode

Decoders that read one message from the front of a stream.  `decode input = some (m, n)` says
that the first `n` symbols of `input` are the message `m`; `Enc m w` that `w` is a code word of
`m`.  A decoder is *sound* for `Enc` when it reads back every code word whatever follows it,
and *canonical* when it accepts nothing else.

`decodeAll` applies a decoder again and again at the consumed offset, and reports the messages
with their lengths and what is left.
-/

namespace PrefixCode

variable {α β : Type*}

/-- Every code word is read back, with its length, in front of any further input. -/
def Sound (decode : List α → Option (β × Nat)) (Enc : β → List α → Prop) : Prop :=
  ∀ m w rest, Enc m w → decode (w ++ rest) = some (m, w.length)

/-- What is accepted is a code word. -/
def Canonical (decode : List α → Option (β × Nat)) (Enc : β → List α → Prop) : Prop :=
  ∀ input m n, decode input = some (m, n) → n ≤ input.length ∧ Enc m (input.take n)

/-- The messages at the front of `input` with their lengths, and the input after them. -/
def decodeAll (decode : List α → Option (β × Nat)) (input : List α) :
    List (β × Nat) × List α :=
  match decode input with
  | none => ([], input)
  | some (m, n) =>
      if 0 < n ∧ n ≤ input.length then
        let r := decodeAll decode (input.drop n)
        ((m, n) :: r.1, r.2)
      else ([], input)
termination_by input.length
decreasing_by simp_wf; omega

theorem decodeAll_of_none {decode : List α → Option (β × Nat)} {input : List α}
    (h : decode input = none) : decodeAll decode input = ([], input) := by
  rw [decodeAll, h]

theorem decodeAll_of_some {decode : List α → Option (β × Nat)} {input : List α} {m : β} {n : Nat}
    (h : decode input = some (m, n)) (h₀ : 0 < n) (hn : n ≤ input.length) :
    decodeAll decode input =
      ((m, n) :: (decodeAll decode (input.drop n)).1, (decodeAll decode (input.drop n)).2) := by
  rw [decodeAll, h]
  simp [h₀, hn]

/-- **A stream of code words.**  A sound decoder reads a concatenation of nonempty code words
back message by message, and stops where it no longer decodes. -/
theorem Sound.decodeAll_eq {decode : List α → Option (β × Nat)} {Enc : β → List α → Prop}
    (hs : Sound decode Enc) (hne : ∀ m w, Enc m w → w ≠ []) {rest : List α}
    (hrest : decode rest = none) :
    ∀ ws : List (β × List α), (∀ p ∈ ws, Enc p.1 p.2) →
      decodeAll decode (ws.flatMap Prod.snd ++ rest) =
        (ws.map fun p => (p.1, p.2.length), rest)
  | [], _ => by simpa using decodeAll_of_none hrest
  | (m, w) :: ws, h => by
      have hw : Enc m w := h (m, w) List.mem_cons_self
      have hd := hs m w (ws.flatMap Prod.snd ++ rest) hw
      have h₀ : 0 < w.length := List.length_pos_iff.mpr (hne m w hw)
      have ih := hs.decodeAll_eq hne hrest ws fun p hp => h p (List.mem_cons_of_mem _ hp)
      rw [List.flatMap_cons, List.append_assoc, decodeAll_of_some hd h₀ (by simp),
        List.drop_left, ih]
      simp

/-- **One message, one code word.**  If every message has one code word, two inputs whose first
messages are equal begin with the same code word. -/
theorem Canonical.take_eq {decode : List α → Option (β × Nat)} {Enc : β → List α → Prop}
    (hc : Canonical decode Enc) (huniq : ∀ m w w', Enc m w → Enc m w' → w = w')
    {i₁ i₂ : List α} {m : β} {n₁ n₂ : Nat} (h₁ : decode i₁ = some (m, n₁))
    (h₂ : decode i₂ = some (m, n₂)) : i₁.take n₁ = i₂.take n₂ :=
  huniq m _ _ (hc i₁ m n₁ h₁).2 (hc i₂ m n₂ h₂).2

end PrefixCode
