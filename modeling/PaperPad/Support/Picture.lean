import Mathlib.Data.Set.Basic
import Mathlib.Tactic.Ring
import PaperPad.Support.Fallible

/-!
# Support — Picture

Pictures, as functions from points to colors.  `paint S c f` is the picture `f` with the points
of `S` in the color `c`.

A drawing program changes a state `s`, of which `view s` is the picture.  A call of it `Paints` a
set if it succeeds and the set is painted on what there was.  A loop whose every step paints a set
paints the union of the sets (`Paints.foldlM`), and a step that is taken on a condition paints its
set on that condition (`Paints.ite`); so what a program paints is computed along its structure.

`rect`, `outline`, `cells` and `line` are the sets of the usual shapes: a half-open rectangle,
its one-pixel boundary, a magnified bitmap, and a line of them.
-/

namespace Picture

variable {α β ι : Type*}

open Classical in
/-- The points of `S` in the color `c`, over the picture `f`. -/
noncomputable def paint (S : Set α) (c : β) (f : α → β) (p : α) : β := if p ∈ S then c else f p

section Paint

variable {S T : Set α} {c : β} {f : α → β} {p : α}

theorem paint_of_mem (h : p ∈ S) : paint S c f p = c := if_pos h

theorem paint_of_notMem (h : p ∉ S) : paint S c f p = f p := if_neg h

theorem paint_congr (h : p ∈ S ↔ p ∈ T) : paint S c f p = paint T c f p := by
  by_cases hp : p ∈ S
  · rw [paint_of_mem hp, paint_of_mem (h.mp hp)]
  · rw [paint_of_notMem hp, paint_of_notMem fun hT => hp (h.mpr hT)]

/-- Where the color is new, it tells the set. -/
theorem paint_eq_iff (h : f p ≠ c) : paint S c f p = c ↔ p ∈ S := by
  by_cases hp : p ∈ S
  · exact iff_of_true (paint_of_mem hp) hp
  · rw [paint_of_notMem hp]
    exact iff_of_false h hp

theorem paint_of_forall_notMem (h : ∀ p, p ∉ S) : paint S c f = f :=
  funext fun p => paint_of_notMem (h p)

theorem paint_empty : paint (∅ : Set α) c f = f := paint_of_forall_notMem fun _ => id

/-- Two sets in one color are their union. -/
theorem paint_paint : paint T c (paint S c f) = paint (S ∪ T) c f := by
  ext p
  by_cases hT : p ∈ T
  · rw [paint_of_mem hT, paint_of_mem (.inr hT)]
  · rw [paint_of_notMem hT]
    by_cases hS : p ∈ S
    · rw [paint_of_mem hS, paint_of_mem (.inl hS)]
    · rw [paint_of_notMem hS, paint_of_notMem fun h => h.elim hS hT]

/-- The sets of a list, the first and the rest. -/
theorem union_cons (S : ι → Set α) (i : ι) (l : List ι) :
    S i ∪ {p | ∃ j ∈ l, p ∈ S j} = {p | ∃ j ∈ i :: l, p ∈ S j} := by
  ext p
  constructor
  · rintro (hp | ⟨j, hj, hp⟩)
    · exact ⟨i, List.mem_cons_self .., hp⟩
    · exact ⟨j, List.mem_cons_of_mem _ hj, hp⟩
  · rintro ⟨j, hj, hp⟩
    rcases List.mem_cons.mp hj with rfl | hj
    · exact .inl hp
    · exact .inr ⟨j, hj, hp⟩

end Paint

/-! ### Drawing programs -/

section Paints

variable {α β σ ι : Type}

/-- The call succeeds, and paints the set on what `s` shows. -/
def Paints (view : σ → α → β) (c : β) (S : Set α) (s : σ) (call : Fallible σ) : Prop :=
  ∃ t, call = .ok t ∧ view t = paint S c (view s)

variable {view : σ → α → β} {c : β} {S T : Set α} {s : σ}

theorem Paints.nothing : Paints view c ∅ s (.ok s) := ⟨s, rfl, paint_empty.symm⟩

theorem Paints.congr {call : Fallible σ} (h : Paints view c S s call) (e : S = T) :
    Paints view c T s call :=
  e ▸ h

/-- One call after the other. -/
theorem Paints.andThen {call : Fallible σ} {next : σ → Fallible σ} (h : Paints view c S s call)
    (k : ∀ t, Paints view c T t (next t)) : Paints view c (S ∪ T) s (call >>= next) := by
  obtain ⟨t, rfl, ht⟩ := h
  obtain ⟨u, hu, hv⟩ := k t
  exact ⟨u, hu, by rw [hv, ht, paint_paint]⟩

/-- A call taken on a condition. -/
theorem Paints.ite {P : Prop} [Decidable P] {call : Fallible σ}
    (h : P → Paints view c S s call) :
    Paints view c {p | P ∧ p ∈ S} s (if P then call else .ok s) := by
  split
  · next hP => exact (h hP).congr (Set.ext fun p => ⟨fun hp => ⟨hP, hp⟩, fun hp => hp.2⟩)
  · next hP => exact ⟨s, rfl, (paint_of_forall_notMem fun p hp => hP hp.1).symm⟩

/-- **A loop** of calls that do not fail paints what its steps paint. -/
theorem Paints.foldlM {step : σ → ι → Fallible σ} {S : ι → Set α} {l : List ι}
    (h : ∀ s, ∀ i ∈ l, Paints view c (S i) s (step s i)) (s : σ) :
    Paints view c {p | ∃ i ∈ l, p ∈ S i} s (l.foldlM step s) := by
  induction l generalizing s with
  | nil => exact ⟨s, rfl, (paint_of_forall_notMem (by simp)).symm⟩
  | cons i l ih =>
      rw [List.foldlM_cons]
      exact ((h s i (List.mem_cons_self ..)).andThen
        (ih fun s j hj => h s j (List.mem_cons_of_mem _ hj))).congr (union_cons S i l)

end Paints

/-! ### Shapes -/

/-- The half-open rectangle. -/
def rect (x y w h : Nat) : Set (Nat × Nat) :=
  {p | (x ≤ p.1 ∧ p.1 < x + w) ∧ y ≤ p.2 ∧ p.2 < y + h}

/-- The one-pixel boundary of a rectangle. -/
def outline (x y w h : Nat) : Set (Nat × Nat) :=
  {p | p ∈ rect x y w h ∧ (p.1 = x ∨ p.1 + 1 = x + w ∨ p.2 = y ∨ p.2 + 1 = y + h)}

/-- A bitmap at `left` and `top`, each bit magnified to `sx` by `sy` points. -/
def cells (bit : Nat → Nat → Prop) (left : Nat) (top : Int) (sx sy : Nat) : Set (Nat × Nat) :=
  {p | ∃ row column i j, bit row column ∧ i < sx ∧ j < sy ∧ p.1 = left + column * sx + i ∧
    (p.2 : Int) = top + (row * sy + j : Nat)}

/-- The glyphs of a line of text, `advance` apart. -/
def line {χ : Type*} (glyph : χ → Nat → Nat → Prop) (advance left : Nat) (top : Int)
    (sx sy : Nat) (text : List χ) : Set (Nat × Nat) :=
  {p | ∃ k character, text[k]? = some character ∧
    p ∈ cells (glyph character) (left + k * advance) top sx sy}

theorem mem_rect {x y w h : Nat} {p : Nat × Nat} :
    p ∈ rect x y w h ↔ (x ≤ p.1 ∧ p.1 < x + w) ∧ y ≤ p.2 ∧ p.2 < y + h := Iff.rfl

theorem mem_outline {x y w h : Nat} {p : Nat × Nat} :
    p ∈ outline x y w h ↔ ((x ≤ p.1 ∧ p.1 < x + w) ∧ y ≤ p.2 ∧ p.2 < y + h) ∧
      (p.1 = x ∨ p.1 + 1 = x + w ∨ p.2 = y ∨ p.2 + 1 = y + h) := Iff.rfl

/-- A boundary, as its top and bottom rows and the columns between them. -/
theorem mem_outline_iff {x y w h : Nat} (hw : 0 < w) (hh : 0 < h) {p : Nat × Nat} :
    p ∈ outline x y w h ↔
      p ∈ rect x y w 1 ∨ p ∈ rect x (y + (h - 1)) w 1 ∨ p ∈ rect x (y + 1) 1 (h - 2) ∨
        p ∈ rect (x + (w - 1)) (y + 1) 1 (h - 2) := by
  simp only [mem_outline, mem_rect]
  omega

section Line

variable {χ : Type*} {glyph : χ → Nat → Nat → Prop} {advance left sx sy : Nat} {top : Int}

theorem line_nil : line glyph advance left top sx sy [] = ∅ := by
  ext p
  simp [line]

/-- The first glyph, and the rest one `advance` further. -/
theorem line_cons (character : χ) (text : List χ) :
    line glyph advance left top sx sy (character :: text) =
      cells (glyph character) left top sx sy ∪
        line glyph advance (left + advance) top sx sy text := by
  have place : ∀ k, left + (k + 1) * advance = left + advance + k * advance := fun k => by ring
  ext p
  constructor
  · rintro ⟨k, d, hk, hp⟩
    cases k with
    | zero =>
        obtain rfl : character = d := by simpa using hk
        exact .inl (by simpa using hp)
    | succ k => exact .inr ⟨k, d, by simpa using hk, place k ▸ hp⟩
  · rintro (hp | ⟨k, d, hk, hp⟩)
    · exact ⟨0, character, rfl, by simpa using hp⟩
    · exact ⟨k + 1, d, by simpa using hk, (place k).symm ▸ hp⟩

/-- A line lies at or right of its left edge. -/
theorem le_of_mem_line {text : List χ} {p : Nat × Nat}
    (h : p ∈ line glyph advance left top sx sy text) : left ≤ p.1 := by
  obtain ⟨k, character, -, row, column, i, j, -, -, -, hx, -⟩ := h
  omega

end Line

end Picture
