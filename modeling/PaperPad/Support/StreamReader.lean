import Mathlib.Data.List.Basic
import Mathlib.Data.List.Infix

/-!
# Support — StreamReader

Readers that take one code word after the other from a stream, until the stream ends or a read
fails.  A read is a state transformer that keeps its input also when it fails, and counts the
symbols it asked for.

A `Reader` carries its grammar: it reports the end of the stream at the end only, and a message
exactly when a code word of that message is in front.  `Accepts` says what running it should
give, and `readAll_accepts` and `readThen_accepts` that it does.
-/

namespace StreamReader

variable {α β γ ε : Type}

/-! ### Code words one after the other -/

/-- `w` is code words of these messages, one after the other. -/
inductive Words (Enc : β → List α → Prop) : List β → List α → Prop where
  | nil : Words Enc [] []
  | cons {m : β} {w : List α} {ms : List β} {ws : List α} :
      Enc m w → Words Enc ms ws → Words Enc (m :: ms) (w ++ ws)

/-- Nothing, or a code word of a first message and those of others. -/
inductive ThenWords (Enc : β → List α → Prop) (Enc' : γ → List α → Prop) :
    Option β × List γ → List α → Prop where
  | nothing : ThenWords Enc Enc' (none, []) []
  | message {m : β} {w : List α} {ms : List γ} {ws : List α} :
      Enc m w → Words Enc' ms ws → ThenWords Enc Enc' (some m, ms) (w ++ ws)

/-- Two code words in front of one stream are one. -/
def Deterministic (Enc : β → List α → Prop) : Prop :=
  ∀ ⦃m m' : β⦄ ⦃w w' u u' : List α⦄, Enc m w → Enc m' w' → w ++ u = w' ++ u' →
    m = m' ∧ w = w' ∧ u = u'

/-- No code word is in front of `t`. -/
def Stuck (Enc : β → List α → Prop) (t : List α) : Prop :=
  ∀ m w u, Enc m w → t ≠ w ++ u

section Words

variable {Enc : β → List α → Prop}

/-- Whatever is read elsewhere, nothing goes past a point where the code is stuck. -/
theorem Words.prefix_of_stuck (hd : Deterministic Enc) {xs : List β} {q : List α}
    (hq : Words Enc xs q) : ∀ {ms : List β} {p t u : List α}, Words Enc ms p → Stuck Enc t →
      p ++ t = q ++ u → q <+: p := by
  induction hq with
  | nil => intro ms p t u _ _ _; exact List.nil_prefix
  | @cons m w xs ws hm _ ih =>
      intro ms p t u hp ht h
      rw [List.append_assoc] at h
      cases hp with
      | nil => exact absurd h (ht m w _ hm)
      | @cons m' w' ms' ws' hm' hms' =>
          rw [List.append_assoc] at h
          obtain ⟨-, rfl, htail⟩ := hd hm' hm h
          exact (List.prefix_append_right_inj _).mpr (ih hms' ht htail)

/-- A stream of code words is the messages of one list. -/
theorem Words.unique (hd : Deterministic Enc) (hne : ∀ m w, Enc m w → w ≠ []) {xs : List β}
    {q : List α} (hq : Words Enc xs q) : ∀ {ys : List β}, Words Enc ys q → xs = ys := by
  induction hq with
  | nil =>
      intro ys hy
      cases ys with
      | nil => rfl
      | cons m ys =>
          generalize hw : ([] : List α) = w at hy
          cases hy with
          | cons hm _ => exact absurd (List.append_eq_nil_iff.mp hw.symm).1 (hne _ _ hm)
  | @cons m w xs ws hm _ ih =>
      intro ys hy
      generalize hv : w ++ ws = v at hy
      cases hy with
      | nil => exact absurd (List.append_eq_nil_iff.mp hv).1 (hne _ _ hm)
      | cons hm' hys =>
          obtain ⟨rfl, -, rfl⟩ := hd hm hm' hv
          rw [ih hys]

/-- The messages of a shorter stream are the first of a longer one. -/
theorem Words.prefix_of_prefix (hd : Deterministic Enc) (hne : ∀ m w, Enc m w → w ≠ [])
    {xs : List β} {q : List α} (hq : Words Enc xs q) :
    ∀ {ys : List β} {p : List α}, Words Enc ys p → q <+: p → xs <+: ys := by
  induction hq with
  | nil => intro ys p _ _; exact List.nil_prefix
  | @cons m w xs ws hm _ ih =>
      rintro ys p hp ⟨u, hu⟩
      rw [List.append_assoc] at hu
      cases hp with
      | nil => exact absurd (List.append_eq_nil_iff.mp hu).1 (hne m w hm)
      | @cons m' w' ys vs hm' hys =>
          obtain ⟨rfl, -, rfl⟩ := hd hm hm' hu
          exact (List.prefix_cons_inj m).mpr (ih hys (List.prefix_append ..))

/-- The code words of a list of messages. -/
theorem words_flatten {ms : List β} {l : List (List α)} (h : List.Forall₂ Enc ms l) :
    Words Enc ms l.flatten := by
  induction h with
  | nil => exact .nil
  | cons hm _ ih => exact .cons hm ih

end Words

/-! ### Streams cut short -/

/-- A proper part of a code word. -/
def Torn (Enc : β → List α → Prop) (t : List α) : Prop := ∃ m w, Enc m w ∧ t <+: w ∧ t ≠ w

/-- Code words of these messages, and at most a part of one more. -/
def Cut (Enc : β → List α → Prop) (ms : List β) (p : List α) : Prop :=
  ∃ ws t, Words Enc ms ws ∧ p = ws ++ t ∧ (t = [] ∨ Torn Enc t)

/-- A code word of a first message and others cut short; or less than the first. -/
inductive CutThen (Enc : β → List α → Prop) (Enc' : γ → List α → Prop) :
    Option β × List γ → List α → Prop where
  | nothing : CutThen Enc Enc' (none, []) []
  | torn {t : List α} : Torn Enc t → CutThen Enc Enc' (none, []) t
  | message {m : β} {w : List α} {ms : List γ} {p : List α} :
      Enc m w → Cut Enc' ms p → CutThen Enc Enc' (some m, ms) (w ++ p)

section Cut

variable {Enc : β → List α → Prop} {Enc' : γ → List α → Prop}

/-- No code word is in front of a part of one. -/
theorem Torn.stuck (hd : Deterministic Enc) {t : List α} (h : Torn Enc t) : Stuck Enc t := by
  obtain ⟨m, w, hm, ⟨r, rfl⟩, hne⟩ := h
  rintro m' w' u hm' rfl
  have happend : w' ++ (u ++ r) = w' ++ u ++ r ++ [] := by simp
  obtain ⟨-, hw, hr⟩ := hd hm' hm happend
  obtain ⟨-, rfl⟩ := List.append_eq_nil_iff.mp hr
  exact hne (List.append_nil _).symm

theorem Words.cut {ms : List β} {ws : List α} (h : Words Enc ms ws) : Cut Enc ms ws :=
  ⟨ws, [], h, (List.append_nil _).symm, .inl rfl⟩

theorem Cut.cons {m : β} {w : List α} {ms : List β} {p : List α} (hm : Enc m w)
    (h : Cut Enc ms p) : Cut Enc (m :: ms) (w ++ p) := by
  obtain ⟨ws, t, hws, rfl, ht⟩ := h
  exact ⟨w ++ ws, t, .cons hm hws, (List.append_assoc ..).symm, ht⟩

/-- A cut of two streams is in the first, or behind it. -/
theorem prefix_append_cases {q w u : List α} (h : q <+: w ++ u) :
    q <+: w ∨ ∃ q', q = w ++ q' ∧ q' <+: u := by
  rcases List.prefix_or_prefix_of_prefix h (List.prefix_append w u) with hq | ⟨q', rfl⟩
  · exact .inl hq
  · exact .inr ⟨q', rfl, (List.prefix_append_right_inj w).mp h⟩

/-- A part of a code word, or all of it and more. -/
theorem torn_or_prefix {m : β} {w q u : List α} (hm : Enc m w) (hq : q <+: w ++ u) :
    Torn Enc q ∨ ∃ q', q = w ++ q' ∧ q' <+: u := by
  refine (prefix_append_cases hq).elim (fun h => ?_) .inr
  by_cases he : q = w
  · exact .inr ⟨[], by rw [he, List.append_nil], List.nil_prefix⟩
  · exact .inl ⟨m, w, hm, h, he⟩

/-- **Cut anywhere**, code words are those of the first messages, and a part. -/
theorem Words.cut_of_prefix {ms : List β} {ws : List α} (h : Words Enc ms ws) :
    ∀ {q : List α}, q <+: ws → ∃ ms', ms' <+: ms ∧ Cut Enc ms' q := by
  induction h with
  | nil =>
      intro q hq
      rw [List.prefix_nil.mp hq]
      exact ⟨[], List.prefix_rfl, Words.nil.cut⟩
  | @cons m w ms ws hm _ ih =>
      intro q hq
      rcases torn_or_prefix hm hq with htorn | ⟨q', rfl, hq'⟩
      · exact ⟨[], List.nil_prefix, [], q, .nil, rfl, .inr htorn⟩
      · obtain ⟨ms', hms, hcut⟩ := ih hq'
        exact ⟨m :: ms', (List.prefix_cons_inj m).mpr hms, hcut.cons hm⟩

theorem Cut.of_prefix {ms : List β} {p q : List α} (h : Cut Enc ms p) (hq : q <+: p) :
    ∃ ms', ms' <+: ms ∧ Cut Enc ms' q := by
  obtain ⟨ws, t, hws, rfl, ht⟩ := h
  rcases prefix_append_cases hq with h | ⟨t', rfl, ht'⟩
  · exact hws.cut_of_prefix h
  · refine ⟨ms, List.prefix_rfl, ws, t', hws, rfl, ?_⟩
    rcases ht with rfl | ⟨m, w, hm, hw, hne⟩
    · exact .inl (List.prefix_nil.mp ht')
    · refine .inr ⟨m, w, hm, ht'.trans hw, ?_⟩
      rintro rfl
      exact hne (hw.eq_of_length (Nat.le_antisymm hw.length_le ht'.length_le))

/-- Without the first message there are no others. -/
theorem CutThen.rest_nil {x : Option β × List γ} {p : List α} (h : CutThen Enc Enc' x p)
    (hx : x.1 = none) : x.2 = [] := by
  cases h with
  | nothing | torn => rfl
  | message => cases hx

/-- What is left of a first message and others after a cut. -/
theorem CutThen.of_prefix {x : Option β × List γ} {p q : List α} (h : CutThen Enc Enc' x p)
    (hq : q <+: p) : ∃ x', (x' = (none, []) ∨ x'.1 = x.1 ∧ x'.2 <+: x.2) ∧ CutThen Enc Enc' x' q := by
  cases h with
  | nothing =>
      rw [List.prefix_nil.mp hq]
      exact ⟨_, .inl rfl, .nothing⟩
  | torn h =>
      obtain ⟨m, w, hm, hw, hne⟩ := h
      refine ⟨_, .inl rfl, .torn ⟨m, w, hm, hq.trans hw, ?_⟩⟩
      rintro rfl
      exact hne (hw.eq_of_length (Nat.le_antisymm hw.length_le hq.length_le))
  | message hm hcut =>
      rcases torn_or_prefix hm hq with htorn | ⟨q', rfl, hq'⟩
      · exact ⟨_, .inl rfl, .torn htorn⟩
      · obtain ⟨ms', hms, hcut'⟩ := hcut.of_prefix hq'
        exact ⟨(some _, ms'), .inr ⟨rfl, hms⟩, .message hm hcut'⟩

end Cut

/-! ### Reads -/

/-- A stream as its reader sees it: what is left of it, and the symbols asked for so far. -/
structure Input (α : Type) where
  rest : List α
  asked : Nat := 0
  deriving DecidableEq

/-- A read: its outcome, and the input it leaves. -/
abbrev Read (α ε β : Type) := ExceptT ε (StateM (Input α)) β

namespace Read

/-- The stream is at its end. -/
def atEnd : Read α ε Bool := fun r => (.ok r.rest.isEmpty, r)

/-- The next `n` symbols; a stream that ends before is used up. -/
def exactly (eof : ε) (n : Nat) : Read α ε (List α) := fun r =>
  if n ≤ r.rest.length then (.ok (r.rest.take n), ⟨r.rest.drop n, r.asked + n⟩)
  else (.error eof, ⟨[], r.asked + n⟩)

/-- An outcome that reads nothing. -/
def result (x : Except ε β) : Read α ε β := fun r => (x, r)

variable {r r' : Input α}

@[simp] theorem pure_apply (b : β) : (pure b : Read α ε β) r = (.ok b, r) := rfl

@[simp] theorem throw_apply (e : ε) : (throw e : Read α ε β) r = (.error e, r) := rfl

@[simp] theorem result_apply (x : Except ε β) : (result x : Read α ε β) r = (x, r) := rfl

@[simp] theorem atEnd_apply : (atEnd : Read α ε Bool) r = (.ok r.rest.isEmpty, r) := rfl

/-- The equations of outcomes have the type of the monad, which is not `Prod`. -/
@[simp] theorem ok_eq_ok {b c : β} :
    @Eq (Id (Except ε β × Input α)) (.ok b, r) (.ok c, r') ↔ b = c ∧ r = r' := by
  constructor
  · rintro ⟨⟩
    exact ⟨rfl, rfl⟩
  · rintro ⟨rfl, rfl⟩
    rfl

@[simp] theorem error_ne_ok {e : ε} {c : β} :
    ¬ @Eq (Id (Except ε β × Input α)) (.error e, r) (.ok c, r') := by
  rintro ⟨⟩

theorem result_eq_ok {x : Except ε β} {b : β} :
    (result x : Read α ε β) r = (.ok b, r') ↔ x = .ok b ∧ r = r' := by
  constructor
  · intro h; exact ⟨(Prod.mk.inj h).1, (Prod.mk.inj h).2⟩
  · rintro ⟨rfl, rfl⟩; rfl

theorem bind_of_ok {x : Read α ε β} {f : β → Read α ε γ} {b : β} (h : x r = (.ok b, r')) :
    (x >>= f) r = f b r' := by
  change (match x r with | (a, s) => ExceptT.bindCont f a s) = f b r'
  rw [h]
  rfl

theorem bind_of_error {x : Read α ε β} {f : β → Read α ε γ} {e : ε}
    (h : x r = (.error e, r')) : (x >>= f) r = (.error e, r') := by
  change (match x r with | (a, s) => ExceptT.bindCont f a s) = (.error e, r')
  rw [h]
  rfl

/-- What only looks at an outcome leaves the input. -/
theorem bind_input {x : Read α ε β} {f : β → Read α ε γ} (hf : ∀ b s, (f b s).2 = s) :
    ((x >>= f) r).2 = (x r).2 := by
  rcases h : x r with ⟨e | b, r₁⟩
  · rw [bind_of_error h]
  · rw [bind_of_ok h, hf]

/-- A sequence succeeds through its parts. -/
theorem bind_eq_ok {x : Read α ε β} {f : β → Read α ε γ} {c : γ} :
    (x >>= f) r = (.ok c, r') ↔ ∃ b r₁, x r = (.ok b, r₁) ∧ f b r₁ = (.ok c, r') := by
  rcases h : x r with ⟨e | b, r₁⟩
  · rw [bind_of_error h]
    constructor
    · intro hc; cases hc
    · rintro ⟨b, r₁, hb, -⟩; cases hb
  · rw [bind_of_ok h]
    constructor
    · intro hc; exact ⟨b, r₁, rfl, hc⟩
    · rintro ⟨b', r₂, hb, hc⟩; cases hb; exact hc

/-- What only looks at an outcome, and gives `c` for `b` alone. -/
theorem bind_eq_ok_iff {x : Read α ε β} {f : β → Read α ε γ} {b : β} {c : γ}
    (hf : ∀ b' s s', f b' s = (.ok c, s') ↔ b' = b ∧ s = s') :
    (x >>= f) r = (.ok c, r') ↔ x r = (.ok b, r') := by
  rw [bind_eq_ok]
  constructor
  · rintro ⟨b', r₁, hx, h⟩
    obtain ⟨rfl, rfl⟩ := (hf b' r₁ r').mp h
    exact hx
  · intro hx
    exact ⟨b, r', hx, (hf b r' r').mpr ⟨rfl, rfl⟩⟩

/-- `none` at the end of the stream, and one read elsewhere. -/
def unlessEnd (read : Read α ε β) : Read α ε (Option β) := do
  if ← atEnd then return none
  else
    let b ← read
    return some b

theorem unlessEnd_of_nil {read : Read α ε β} (h : r.rest = []) :
    unlessEnd read r = (.ok none, r) := by
  have hend : (atEnd : Read α ε Bool) r = (.ok true, r) := by
    rw [atEnd_apply, h]
    rfl
  exact bind_of_ok hend

theorem unlessEnd_of_ne {read : Read α ε β} (h : r.rest ≠ []) :
    unlessEnd read r = (read >>= fun b => pure (some b)) r := by
  have hend : (atEnd : Read α ε Bool) r = (.ok false, r) := by
    rw [atEnd_apply, List.isEmpty_eq_false_iff.mpr h]
  exact bind_of_ok hend

theorem unlessEnd_eq_none {read : Read α ε β} :
    unlessEnd read r = (.ok none, r') ↔ r.rest = [] ∧ r' = r := by
  constructor
  · intro h
    by_cases hr : r.rest = []
    · rw [unlessEnd_of_nil hr] at h
      exact ⟨hr, (Prod.mk.inj h).2.symm⟩
    · rw [unlessEnd_of_ne hr] at h
      obtain ⟨b, r₁, -, h⟩ := bind_eq_ok.mp h
      cases h
  · rintro ⟨hr, rfl⟩
    exact unlessEnd_of_nil hr

theorem unlessEnd_eq_some {read : Read α ε β} {b : β} :
    unlessEnd read r = (.ok (some b), r') ↔ r.rest ≠ [] ∧ read r = (.ok b, r') := by
  by_cases hr : r.rest = []
  · rw [unlessEnd_of_nil hr]
    constructor
    · intro h; cases h
    · rintro ⟨hne, -⟩; exact absurd hr hne
  · rw [unlessEnd_of_ne hr, bind_eq_ok_iff (b := b) fun b' s s' => by simp, and_iff_right hr]

theorem unlessEnd_input (read : Read α ε β) (r : Input α) :
    (unlessEnd read r).2 = if r.rest = [] then r else (read r).2 := by
  by_cases hr : r.rest = []
  · rw [unlessEnd_of_nil hr, if_pos hr]
  · rw [unlessEnd_of_ne hr, bind_input fun _ _ => rfl, if_neg hr]

end Read

/-! ### Readers -/

/-- A read that takes one code word of `Enc`, and reports the end of the stream there only. -/
structure Reader (α β ε : Type) where
  read : Read α ε (Option β)
  Enc : β → List α → Prop
  ne_nil : ∀ m w, Enc m w → w ≠ []
  ends_iff : ∀ {r r' : Input α}, read r = (.ok none, r') ↔ r.rest = [] ∧ r' = r
  reads_iff : ∀ {r r' : Input α} {m : β}, read r = (.ok (some m), r') ↔
    ∃ w, Enc m w ∧ r.rest = w ++ r'.rest ∧ r'.asked = r.asked + w.length

/-- How a run of reads ends: what it returned, the error that stopped it, the input left. -/
structure Outcome (α β ε : Type) where
  value : β
  error : Option ε
  input : Input α

/-- Over this stream a run stops without an error exactly on a word of the grammar, whose
messages it returns; it always returns the messages of the longest word in front. -/
structure Accepts (Word : γ → List α → Prop) (stream : List α) (out : Outcome α γ ε) : Prop where
  clean : out.error = none ↔ ∃ x, Word x stream
  value : ∀ x, Word x stream → out.value = x
  longest : ∃ p, p <+: stream ∧ Word out.value p ∧ ∀ x q, Word x q → q <+: stream → q <+: p

namespace Reader

variable (d : Reader α β ε)

theorem shrinks {r r' : Input α} {m : β} (h : d.read r = (.ok (some m), r')) :
    r'.rest.length < r.rest.length := by
  obtain ⟨w, hm, hr, -⟩ := d.reads_iff.mp h
  rw [hr, List.length_append]
  exact Nat.lt_add_of_pos_left (List.length_pos_iff.mpr (d.ne_nil m w hm))

/-- Read until the stream ends or a read fails. -/
def readAll (r : Input α) : Outcome α (List β) ε :=
  match _h : d.read r with
  | (.ok none, r') => ⟨[], none, r'⟩
  | (.error e, r') => ⟨[], some e, r'⟩
  | (.ok (some m), r') =>
      let out := readAll r'
      { out with value := m :: out.value }
termination_by r.rest.length
decreasing_by exact d.shrinks ‹_›

/-- Read one message with `d`, and the others with `k`. -/
def readThen (k : Reader α γ ε) (r : Input α) : Outcome α (Option β × List γ) ε :=
  match d.read r with
  | (.ok none, r') => ⟨(none, []), none, r'⟩
  | (.error e, r') => ⟨(none, []), some e, r'⟩
  | (.ok (some m), r') =>
      let out := k.readAll r'
      ⟨(some m, out.value), out.error, out.input⟩

variable {d}

theorem readAll_of_none {r r' : Input α} (h : d.read r = (.ok none, r')) :
    d.readAll r = ⟨[], none, r'⟩ := by
  rw [readAll]
  split
  · next r₁ h₁ => rw [h] at h₁; cases h₁; rfl
  · next e r₁ h₁ => rw [h] at h₁; cases h₁
  · next m r₁ h₁ => rw [h] at h₁; cases h₁

theorem readAll_of_error {r r' : Input α} {e : ε} (h : d.read r = (.error e, r')) :
    d.readAll r = ⟨[], some e, r'⟩ := by
  rw [readAll]
  split
  · next r₁ h₁ => rw [h] at h₁; cases h₁
  · next e' r₁ h₁ => rw [h] at h₁; cases h₁; rfl
  · next m r₁ h₁ => rw [h] at h₁; cases h₁

theorem readAll_of_some {r r' : Input α} {m : β} (h : d.read r = (.ok (some m), r')) :
    d.readAll r = { d.readAll r' with value := m :: (d.readAll r').value } := by
  rw [readAll]
  split
  · next r₁ h₁ => rw [h] at h₁; cases h₁
  · next e r₁ h₁ => rw [h] at h₁; cases h₁
  · next m' r₁ h₁ => rw [h] at h₁; cases h₁; rfl

/-! ### The grammar of a reader -/

/-- A reader reads what is in front, so what is in front is one thing. -/
theorem deterministic : Deterministic d.Enc := by
  intro m m' w w' u u' hm hm' h
  have h₁ : d.read ⟨w ++ u, 0⟩ = (.ok (some m), ⟨u, w.length⟩) :=
    d.reads_iff.mpr ⟨w, hm, rfl, (Nat.zero_add _).symm⟩
  have h₂ : d.read ⟨w ++ u, 0⟩ = (.ok (some m'), ⟨u', w'.length⟩) :=
    d.reads_iff.mpr ⟨w', hm', h, (Nat.zero_add _).symm⟩
  rw [h₁] at h₂
  obtain ⟨hok, hin⟩ := Prod.mk.inj h₂
  obtain rfl : m = m' := Option.some.inj (Except.ok.inj hok)
  obtain rfl : u = u' := congrArg Input.rest hin
  exact ⟨rfl, List.append_cancel_right h, rfl⟩

/-- At the end of the stream, and where a read fails, no code word is in front. -/
theorem stuck_of_error {r r' : Input α} {e : ε} (h : d.read r = (.error e, r')) :
    Stuck d.Enc r.rest := by
  intro m w u hm hr
  have : d.read r = (.ok (some m), ⟨u, r.asked + w.length⟩) :=
    d.reads_iff.mpr ⟨w, hm, hr, rfl⟩
  rw [h] at this
  cases this

theorem stuck_nil : Stuck d.Enc [] := by
  intro m w u hm h
  exact d.ne_nil m w hm (List.append_eq_nil_iff.mp h.symm).1

/-- **Where a run stops.**  What it returned are the messages in front of the point where it
stopped, no code word is there, and it stopped without an error exactly at the end. -/
theorem readAll_stops (r : Input α) : ∃ p t, r.rest = p ++ t ∧
    Words d.Enc (d.readAll r).value p ∧ Stuck d.Enc t ∧
      ((d.readAll r).error = none ↔ t = []) := by
  -- on the length of what is left to read
  induction hl : r.rest.length using Nat.strongRecOn generalizing r with
  | ind l ih =>
      rcases h : d.read r with ⟨e | m?, r'⟩
      · rw [readAll_of_error h]
        refine ⟨[], r.rest, rfl, .nil, stuck_of_error h, ?_⟩
        constructor
        · intro hn; cases hn
        · intro ht
          have := d.ends_iff.mpr ⟨ht, rfl⟩
          rw [h] at this
          cases this
      · cases m? with
        | none =>
            have hr := (d.ends_iff.mp h).1
            rw [readAll_of_none h]
            exact ⟨[], [], hr, .nil, stuck_nil, Iff.intro (fun _ => rfl) fun _ => rfl⟩
        | some m =>
            obtain ⟨p, t, hr', hp, ht, hn⟩ := ih _ (hl ▸ d.shrinks h) r' rfl
            obtain ⟨w, hm, hr, -⟩ := d.reads_iff.mp h
            rw [readAll_of_some h]
            exact ⟨w ++ p, t, by rw [hr, hr', List.append_assoc], .cons hm hp, ht, hn⟩

/-- What a stopped run says about its grammar. -/
theorem accepts_of_stops {Word : γ → List α → Prop} {stream p t : List α} {out : Outcome α γ ε}
    (hs : stream = p ++ t) (hp : Word out.value p) (hn : out.error = none ↔ t = [])
    (hmax : ∀ x q, Word x q → q <+: stream → q <+: p)
    (huniq : ∀ x y q, Word x q → Word y q → x = y) : Accepts Word stream out := by
  have hend : ∀ x, Word x stream → t = [] := by
    intro x hx
    have hle := (hmax x stream hx (List.prefix_refl _)).length_le
    rw [hs, List.length_append] at hle
    exact List.length_eq_zero_iff.mp (by omega)
  refine ⟨⟨?_, ?_⟩, ?_, p, ⟨t, hs.symm⟩, hp, hmax⟩
  · intro h
    rw [hs, hn.mp h, List.append_nil]
    exact ⟨_, hp⟩
  · rintro ⟨x, hx⟩
    exact hn.mpr (hend x hx)
  · intro x hx
    have := hend x hx
    rw [hs, this, List.append_nil] at hx
    exact huniq _ _ _ hp hx

/-- **A run of one reader** accepts exactly the words of its code. -/
theorem readAll_accepts (stream : List α) :
    Accepts (Words d.Enc) stream (d.readAll ⟨stream, 0⟩) := by
  obtain ⟨p, t, hs, hp, ht, hn⟩ := readAll_stops (d := d) ⟨stream, 0⟩
  refine accepts_of_stops hs hp hn ?_ fun x y q hx hy => hx.unique deterministic d.ne_nil hy
  rintro x q hq ⟨u, hu⟩
  exact hq.prefix_of_stuck deterministic hp ht (hs.symm.trans hu.symm)

/-- **A run over a stream cut short** returns its whole messages, and stops without an error exactly
when there is no part of another. -/
theorem readAll_torn {ms : List β} {ws t : List α} {r : Input α} (hws : Words d.Enc ms ws)
    (ht : t = [] ∨ Torn d.Enc t) (hr : r.rest = ws ++ t) :
    (d.readAll r).value = ms ∧ ((d.readAll r).error = none ↔ t = []) := by
  obtain ⟨p, u, hs, hp, hu, hn⟩ := readAll_stops (d := d) r
  have hstuck : Stuck d.Enc t := by
    rcases ht with rfl | ht
    · exact stuck_nil
    · exact ht.stuck deterministic
  have he : ws ++ t = p ++ u := hr.symm.trans hs
  have hle : ws <+: p := hws.prefix_of_stuck deterministic hp hu he.symm
  have hge : p <+: ws := hp.prefix_of_stuck deterministic hws hstuck he
  obtain rfl := hle.eq_of_length (Nat.le_antisymm hle.length_le hge.length_le)
  obtain rfl := List.append_cancel_left he
  exact ⟨hp.unique deterministic d.ne_nil hws, hn⟩

theorem readAll_cut {ms : List β} {r : Input α} (h : Cut d.Enc ms r.rest) :
    (d.readAll r).value = ms := by
  obtain ⟨ws, t, hws, hr, ht⟩ := h
  exact (readAll_torn hws ht hr).1

/-- Messages whose code words are in front of a cut are among those in front of it. -/
theorem cut_prefix {ms xs : List β} {p q : List α} (h : Cut d.Enc ms p) (hq : Words d.Enc xs q)
    (hqp : q <+: p) : xs <+: ms := by
  obtain ⟨ws, t, hws, rfl, ht⟩ := h
  have hstuck : Stuck d.Enc t := by
    rcases ht with rfl | ht
    · exact stuck_nil
    · exact ht.stuck deterministic
  obtain ⟨u, hu⟩ := hqp
  exact hq.prefix_of_prefix deterministic d.ne_nil hws
    (hq.prefix_of_stuck deterministic hws hstuck hu.symm)

/-- A first message and others, cut short. -/
theorem readThen_cut (k : Reader α γ ε) {x : Option β × List γ} {p : List α}
    (h : CutThen d.Enc k.Enc x p) : (d.readThen k ⟨p, 0⟩).value = x := by
  cases h with
  | nothing =>
      have hread : d.read ⟨[], 0⟩ = (.ok none, ⟨[], 0⟩) := d.ends_iff.mpr ⟨rfl, rfl⟩
      rw [readThen, hread]
  | torn htorn =>
      rcases hread : d.read ⟨p, 0⟩ with ⟨e | m?, r'⟩
      · rw [readThen, hread]
      · cases m? with
        | none => rw [readThen, hread]
        | some m =>
            obtain ⟨w, hm, hr, -⟩ := d.reads_iff.mp hread
            exact absurd hr (htorn.stuck deterministic m w _ hm)
  | @message m w ms p hm hcut =>
      have hread : d.read ⟨w ++ p, 0⟩ = (.ok (some m), ⟨p, 0 + w.length⟩) :=
        d.reads_iff.mpr ⟨w, hm, rfl, rfl⟩
      rw [readThen, hread]
      exact congrArg _ (readAll_cut (r := ⟨p, 0 + w.length⟩) hcut)

theorem thenWords_unique {k : Reader α γ ε} {x y : Option β × List γ} {q : List α}
    (hx : ThenWords d.Enc k.Enc x q) (hy : ThenWords d.Enc k.Enc y q) : x = y := by
  cases hx with
  | nothing =>
      generalize hq : ([] : List α) = q at hy
      cases hy with
      | nothing => rfl
      | message hm _ => exact absurd (List.append_eq_nil_iff.mp hq.symm).1 (d.ne_nil _ _ hm)
  | @message m w ms ws hm hms =>
      generalize hq : w ++ ws = q at hy
      cases hy with
      | nothing => exact absurd (List.append_eq_nil_iff.mp hq).1 (d.ne_nil _ _ hm)
      | message hm' hms' =>
          obtain ⟨rfl, -, rfl⟩ := deterministic hm hm' hq
          rw [hms.unique deterministic k.ne_nil hms']

/-- **A first message and the others**: the run accepts exactly their words, and the empty
stream. -/
theorem readThen_accepts (k : Reader α γ ε) (stream : List α) :
    Accepts (ThenWords d.Enc k.Enc) stream (d.readThen k ⟨stream, 0⟩) := by
  have huniq : ∀ x y q, ThenWords d.Enc k.Enc x q → ThenWords d.Enc k.Enc y q → x = y :=
    fun x y q hx hy => thenWords_unique hx hy
  rcases h : d.read ⟨stream, 0⟩ with ⟨e | m?, r'⟩
  · have hstuck : Stuck d.Enc stream := stuck_of_error h
    have hne : stream ≠ [] := by
      intro hs
      have : d.read ⟨stream, 0⟩ = (.ok none, ⟨stream, 0⟩) := d.ends_iff.mpr ⟨hs, rfl⟩
      rw [h] at this
      cases this
    rw [readThen, h]
    refine accepts_of_stops (List.nil_append _).symm .nothing ?_ ?_ huniq
    · constructor
      · intro hn; cases hn
      · intro hs; exact absurd hs hne
    · rintro x q hq ⟨u, hu⟩
      cases hq with
      | nothing => exact List.nil_prefix
      | message hm _ =>
          rw [List.append_assoc] at hu
          exact absurd hu.symm (hstuck _ _ _ hm)
  · cases m? with
    | none =>
        have hs : stream = [] := (d.ends_iff.mp h).1
        rw [readThen, h]
        refine accepts_of_stops (p := []) (t := []) hs .nothing
          (Iff.intro (fun _ => rfl) fun _ => rfl) ?_ huniq
        intro x q _ hq
        exact hs ▸ hq
    | some m =>
        obtain ⟨w, hm, hr, -⟩ := d.reads_iff.mp h
        have hs : stream = w ++ r'.rest := hr
        obtain ⟨p, t, hr', hp, ht, hn⟩ := readAll_stops (d := k) r'
        rw [readThen, h]
        refine accepts_of_stops (p := w ++ p) (t := t) (by rw [hs, hr', List.append_assoc])
          (.message hm hp) hn ?_ huniq
        rintro x q hq ⟨u, hu⟩
        cases hq with
        | nothing => exact List.nil_prefix
        | message hm' hms =>
            rw [hs, List.append_assoc] at hu
            obtain ⟨-, rfl, htail⟩ := deterministic hm' hm hu
            rw [hr'] at htail
            exact (List.prefix_append_right_inj _).mpr
              (hms.prefix_of_stuck deterministic hp ht htail.symm)

end Reader

end StreamReader
