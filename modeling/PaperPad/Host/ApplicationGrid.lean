import Mathlib.Algebra.Group.Nat.Defs
import Mathlib.Data.List.Nodup
import PaperPad.Host.ApplicationUi

/-!
# Host — ApplicationGrid

The geometry of the button grid.  Columns are spread by a rounded interpolation and rows follow
at a fixed pitch; at every rounding two columns, and two rows, are at least a cell's side apart
(`columns_spaced`, `rows_spaced`), so a point lies in one cell at most (`buttonGrid_unique`).

`checkedLayout` is the layout with every operation on `u16`, and every narrowing to it, checked
for overflow.  `checkedLayout_eq`: nothing overflows.
-/

namespace PaperPad.Host

/-- The cells of the grid, by row and column. -/
theorem mem_buttonGrid_iff {w h : UInt16} {b : ButtonLayout} :
    b ∈ buttonGrid w h ↔
      ∃ side, gridCellSide w h = some side ∧ ∃ row < 3, ∃ column < 3,
        b = gridButton side (w - CELL_MARGIN * 2) (CELL_MARGIN * 2) (UInt16.ofNat row)
          (UInt16.ofNat column) := by
  simp only [buttonGrid]
  cases gridCellSide w h with
  | none => simp
  | some side =>
      simp only [List.mem_flatMap, List.mem_range, List.mem_map, Option.some.injEq]
      constructor
      · rintro ⟨row, hrow, column, hcolumn, rfl⟩
        exact ⟨side, rfl, row, hrow, column, hcolumn, rfl⟩
      · rintro ⟨side, rfl, row, hrow, column, hcolumn, rfl⟩
        exact ⟨row, hrow, column, hcolumn, rfl⟩

/-- The grid is empty, or its buttons are numbered from one to nine. -/
theorem buttonGrid_ids (w h : UInt16) :
    buttonGrid w h = [] ∨ (buttonGrid w h).map (·.id) = [1, 2, 3, 4, 5, 6, 7, 8, 9] := by
  simp only [buttonGrid]
  cases gridCellSide w h with
  | none => exact .inl rfl
  | some side => exact .inr rfl

/-- No button is there twice. -/
theorem buttonGrid_nodup (w h : UInt16) : (buttonGrid w h).Nodup := by
  rcases buttonGrid_ids w h with he | he
  · rw [he]
    exact List.nodup_nil
  · refine List.Nodup.of_map (·.id) ?_
    rw [he]
    decide

/-- A rectangle, in natural numbers. -/
theorem contains_iff {r : Rect} {x y : UInt16} :
    r.contains x y = true ↔
      (r.x.toNat ≤ x.toNat ∧ x.toNat < r.x.toNat + r.width.toNat) ∧
        r.y.toNat ≤ y.toNat ∧ y.toNat < r.y.toNat + r.height.toNat := by
  simp only [Rect.contains, decide_eq_true_eq]
  tauto

@[simp] theorem gridButton_width (side innerWidth rowGap row column : UInt16) :
    (gridButton side innerWidth rowGap row column).bounds.width = side := rfl

@[simp] theorem gridButton_height (side innerWidth rowGap row column : UInt16) :
    (gridButton side innerWidth rowGap row column).bounds.height = side := rfl

/-! ### Cells do not meet -/

section Spacing

variable {side : Nat}

/-- Places that are a side apart share no coordinate. -/
theorem eq_of_spaced {place : Nat → Nat}
    (spaced : ∀ {i j}, i < j → place i + side ≤ place j) {i j a : Nat}
    (hi : place i ≤ a ∧ a < place i + side) (hj : place j ≤ a ∧ a < place j + side) : i = j := by
  rcases Nat.lt_trichotomy i j with h | h | h
  · have := spaced h
    omega
  · exact h
  · have := spaced h
    omega

/-- Rows are a cell and a gap apart. -/
theorem rows_spaced {i j : Nat} (h : i < j) :
    60 + i * (side + 40) + side ≤ 60 + j * (side + 40) := by
  have : (i + 1) * (side + 40) ≤ j * (side + 40) := Nat.mul_le_mul_right _ h
  rw [Nat.succ_mul] at this
  omega

/-- Columns are a cell apart at least, at every rounding. -/
theorem columns_spaced {spread : Nat} (hs : 2 * side ≤ spread) {i j : Nat} (h : i < j) :
    20 + spread * i / 2 + side ≤ 20 + spread * j / 2 := by
  have : spread * (i + 1) ≤ spread * j := Nat.mul_le_mul_left _ h
  rw [Nat.mul_succ] at this
  omega

end Spacing

/-- **One button a point.**  Two buttons whose bounds share a point are one button. -/
theorem buttonGrid_unique {w h : UInt16} {a b : ButtonLayout} (ha : a ∈ buttonGrid w h)
    (hb : b ∈ buttonGrid w h) {x y : UInt16} (hax : a.bounds.contains x y = true)
    (hbx : b.bounds.contains x y = true) : a = b := by
  obtain ⟨side, hs, row, hrow, column, hcolumn, rfl⟩ := mem_buttonGrid_iff.mp ha
  obtain ⟨side', hs', row', hrow', column', hcolumn', rfl⟩ := mem_buttonGrid_iff.mp hb
  obtain rfl : side = side' := Option.some.inj (hs.symm.trans hs')
  obtain ⟨-, hw, hh⟩ := gridCellSide_bounds hs
  have hspread : 2 * side.toNat ≤ w.toNat - 40 - side.toNat := by omega
  rw [contains_iff, gridButton_x hw hcolumn, gridButton_y hh hrow, gridButton_width,
    gridButton_height] at hax
  rw [contains_iff, gridButton_x hw hcolumn', gridButton_y hh hrow', gridButton_width,
    gridButton_height] at hbx
  obtain rfl : row = row' := eq_of_spaced rows_spaced hax.2 hbx.2
  obtain rfl : column = column' := eq_of_spaced (columns_spaced hspread) hax.1 hbx.1
  rfl

/-- The buttons lie between the title and the status region. -/
theorem buttonGrid_between {w h : UInt16} {b : ButtonLayout} (hb : b ∈ buttonGrid w h) :
    60 ≤ b.bounds.y.toNat ∧ b.bounds.y.toNat + b.bounds.height.toNat + 40 ≤ h.toNat := by
  obtain ⟨side, hs, row, hrow, column, hcolumn, rfl⟩ := mem_buttonGrid_iff.mp hb
  obtain ⟨-, -, hh⟩ := gridCellSide_bounds hs
  have hy : row * (side.toNat + 40) ≤ 2 * (side.toNat + 40) :=
    Nat.mul_le_mul_right _ (by omega)
  rw [gridButton_y hh hrow, gridButton_height]
  omega

/-! ### The arithmetic of the layout -/

/-- `a + b` on `u16`. -/
def checkedAdd16 (a b : UInt16) : Option UInt16 :=
  if a.toNat + b.toNat < 2 ^ 16 then some (a + b) else none

/-- `a - b` on `u16`. -/
def checkedSub16 (a b : UInt16) : Option UInt16 :=
  if b.toNat ≤ a.toNat then some (a - b) else none

/-- `a * b` on `u16`. -/
def checkedMul16 (a b : UInt16) : Option UInt16 :=
  if a.toNat * b.toNat < 2 ^ 16 then some (a * b) else none

/-- `a as u16` of a `u32`, where it loses no bit. -/
def narrow16 (a : UInt32) : Option UInt16 := if a.toNat < 2 ^ 16 then some a.toUInt16 else none

/-- `grid_cell_side` with its `u16` operations checked. -/
def checkedGridCellSide (width height : UInt16) : Option (Option UInt16) :=
  if width = 0 ∨ height = 0 then some none
  else do
    let rowGap ← checkedMul16 CELL_MARGIN 2
    let gaps ← checkedMul16 (← checkedSub16 GRID_ROWS 1) rowGap
    let fixedVerticalOverhead ← checkedAdd16 (← checkedAdd16 GRID_TOP_INSET gaps) STATUS_BAR_HEIGHT
    let side := min (saturatingSub16 (width / GRID_COLUMNS) (← checkedMul16 CELL_MARGIN 2))
      (saturatingSub16 height fixedVerticalOverhead / GRID_ROWS)
    some (if side > 0 then some side else none)

/-- One button with its `u16` operations and narrowings checked. -/
def checkedGridButton (side innerWidth rowGap row column : UInt16) : Option ButtonLayout := do
  let spread ← checkedSub16 innerWidth side
  let x := CELL_MARGIN.toUInt32 +
    spread.toUInt32 * column.toUInt32 / (← checkedSub16 GRID_COLUMNS 1).toUInt32
  let pitch ← checkedAdd16 side rowGap
  let y ← checkedAdd16 GRID_TOP_INSET (← checkedMul16 row pitch)
  let centerX := x + side.toUInt32 / 2
  let centerY := y.toUInt32 + side.toUInt32 / 2
  let index := (← checkedAdd16 (← checkedMul16 row GRID_COLUMNS) column).toNat
  some
    { id := UInt8.ofNat index + 1
      bounds := ⟨← narrow16 x, y, side, side⟩
      label :=
        { x := ← narrow16 (saturatingSub32 centerX LABEL_TEXT_X_OFFSET.toUInt32)
          baselineY := ← narrow16 (centerY + LABEL_TEXT_Y_OFFSET.toUInt32)
          text := BUTTON_LABELS.getD index "" } }

/-- `button_grid` with its `u16` operations checked. -/
def checkedButtonGrid (width height : UInt16) : Option (List ButtonLayout) := do
  match ← checkedGridCellSide width height with
  | none => some []
  | some side =>
      let rowGap ← checkedMul16 CELL_MARGIN 2
      let innerWidth ← checkedSub16 width (← checkedMul16 CELL_MARGIN 2)
      let rows ← (List.range GRID_ROWS.toNat).mapM fun row =>
        (List.range GRID_COLUMNS.toNat).mapM fun column =>
          checkedGridButton side innerWidth rowGap (UInt16.ofNat row) (UInt16.ofNat column)
      some rows.flatten

/-- `ApplicationUi::layout` with its `u16` operations checked. -/
def ApplicationUi.checkedLayout (ui : ApplicationUi) (width height : UInt16) :
    Option (Option ApplicationLayout) :=
  if width = 0 ∨ height = 0 then some none
  else do
    let statusHeight := min STATUS_BAR_HEIGHT height
    let right ← checkedSub16 width 1
    let bottom ← checkedSub16 height 1
    some (some
      { width, height
        title := ⟨min TITLE_X right, min TITLE_BASELINE bottom, TITLE_TEXT⟩
        buttons := ← checkedButtonGrid width height
        statusRegion := ⟨0, ← checkedSub16 height statusHeight, width, statusHeight⟩
        status := ui.status.map fun text =>
          { x := min CELL_MARGIN right
            baselineY := min (saturatingSub16 height STATUS_TEXT_BOTTOM_MARGIN) bottom
            text } })

theorem checkedAdd16_of {a b : UInt16} (h : a.toNat + b.toNat < 2 ^ 16) :
    checkedAdd16 a b = some (a + b) := if_pos h

theorem checkedSub16_of {a b : UInt16} (h : b.toNat ≤ a.toNat) :
    checkedSub16 a b = some (a - b) := if_pos h

theorem checkedMul16_of {a b : UInt16} (h : a.toNat * b.toNat < 2 ^ 16) :
    checkedMul16 a b = some (a * b) := if_pos h

theorem narrow16_of {a : UInt32} (h : a.toNat < 2 ^ 16) : narrow16 a = some a.toUInt16 := if_pos h

/-- The side of a cell is computed without an overflow. -/
theorem checkedGridCellSide_eq (w h : UInt16) :
    checkedGridCellSide w h = some (gridCellSide w h) := by
  simp only [checkedGridCellSide, gridCellSide]
  split <;> rfl

theorem saturatingSub32_le (a b : UInt32) : (saturatingSub32 a b).toNat ≤ a.toNat := by
  simp only [saturatingSub32]
  split
  · next h =>
      rw [UInt32.toNat_sub_of_le _ _ h]
      exact Nat.sub_le _ _
  · exact Nat.zero_le _

theorem cellIndex_toNat {n : Nat} (h : n < 3) : (UInt16.ofNat n).toNat = n := by
  rw [UInt16.toNat_ofNat']
  omega

/-- A map that succeeds at every element. -/
theorem mapM_of_some {α β : Type} {f : α → Option β} {g : α → β} :
    ∀ {l : List α}, (∀ a ∈ l, f a = some (g a)) → l.mapM f = some (l.map g) := by
  intro l h
  induction l with
  | nil => rfl
  | cons a l ih =>
      rw [List.mapM_cons, h a (List.mem_cons_self ..),
        ih fun b hb => h b (List.mem_cons_of_mem _ hb)]
      rfl

section Cells

variable {w h side : UInt16}

theorem innerWidth_toNat (hw : 3 * side.toNat + 120 ≤ w.toNat) :
    (w - CELL_MARGIN * 2).toNat = w.toNat - 40 := by
  rw [UInt16.toNat_sub_of_le _ _ (UInt16.le_iff_toNat_le.mpr (by show 40 ≤ w.toNat; omega))]
  rfl

/-- The left edge of a cell, before it is narrowed. -/
theorem cellLeft_toNat (hw : 3 * side.toNat + 120 ≤ w.toNat) {column : Nat} (hc : column < 3) :
    (CELL_MARGIN.toUInt32 + (w - CELL_MARGIN * 2 - side).toUInt32 *
      (UInt16.ofNat column).toUInt32 / (GRID_COLUMNS - 1).toUInt32).toNat =
        20 + (w.toNat - 40 - side.toNat) * column / 2 := by
  have hwlt := w.toNat_lt
  have hprod : (w.toNat - 40 - side.toNat) * column ≤ (w.toNat - 40 - side.toNat) * 2 :=
    Nat.mul_le_mul_left _ (by omega)
  have hspread : (w - CELL_MARGIN * 2 - side).toNat = w.toNat - 40 - side.toNat := by
    rw [UInt16.toNat_sub_of_le _ _ (UInt16.le_iff_toNat_le.mpr (by
      rw [innerWidth_toNat hw]; omega)), innerWidth_toNat hw]
  simp only [UInt32.toNat_add, UInt32.toNat_div, UInt32.toNat_mul, UInt16.toNat_toUInt32, hspread,
    cellIndex_toNat hc]
  show (20 + (w.toNat - 40 - side.toNat) * column % 4294967296 / 2) % 4294967296 = _
  omega

/-- The row offset of a cell. -/
theorem cellOffset_toNat (hh : 3 * side.toNat + 180 ≤ h.toNat) {row : Nat} (hr : row < 3) :
    (UInt16.ofNat row * (side + CELL_MARGIN * 2)).toNat = row * (side.toNat + 40) := by
  have hhlt := h.toNat_lt
  have hpitch : (side + CELL_MARGIN * 2).toNat = side.toNat + 40 := by
    rw [UInt16.toNat_add, Nat.mod_eq_of_lt (by show side.toNat + 40 < 2 ^ 16; omega)]
    rfl
  have hoffset : row * (side.toNat + 40) ≤ 2 * (side.toNat + 40) :=
    Nat.mul_le_mul_right _ (by omega)
  rw [UInt16.toNat_mul, cellIndex_toNat hr, hpitch, Nat.mod_eq_of_lt (by omega)]

theorem half_toNat (side : UInt16) : (side.toUInt32 / 2).toNat = side.toNat / 2 := by
  rw [UInt32.toNat_div, UInt16.toNat_toUInt32]
  rfl

/-- The center of a cell is on the viewport. -/
theorem cellCenterX_lt (hw : 3 * side.toNat + 120 ≤ w.toNat) {column : Nat} (hc : column < 3) :
    (CELL_MARGIN.toUInt32 + (w - CELL_MARGIN * 2 - side).toUInt32 *
      (UInt16.ofNat column).toUInt32 / (GRID_COLUMNS - 1).toUInt32 + side.toUInt32 / 2).toNat <
        2 ^ 16 := by
  have hwlt := w.toNat_lt
  have hprod : (w.toNat - 40 - side.toNat) * column ≤ (w.toNat - 40 - side.toNat) * 2 :=
    Nat.mul_le_mul_left _ (by omega)
  rw [UInt32.toNat_add, cellLeft_toNat hw hc, half_toNat]
  omega

/-- So is the baseline of its label. -/
theorem cellBaseline_lt (hh : 3 * side.toNat + 180 ≤ h.toNat) {row : Nat} (hr : row < 3) :
    ((GRID_TOP_INSET + UInt16.ofNat row * (side + CELL_MARGIN * 2)).toUInt32 +
      side.toUInt32 / 2 + LABEL_TEXT_Y_OFFSET.toUInt32).toNat < 2 ^ 16 := by
  have hhlt := h.toNat_lt
  have hoff : row * (side.toNat + 40) ≤ 2 * (side.toNat + 40) :=
    Nat.mul_le_mul_right _ (by omega)
  rw [UInt32.toNat_add, UInt32.toNat_add, half_toNat, UInt16.toNat_toUInt32, UInt16.toNat_add,
    cellOffset_toNat hh hr]
  show (((60 + row * (side.toNat + 40)) % 65536 + side.toNat / 2) % 4294967296 + 5) %
    4294967296 < 65536
  omega

/-- So is every button. -/
theorem checkedGridButton_eq (hw : 3 * side.toNat + 120 ≤ w.toNat)
    (hh : 3 * side.toNat + 180 ≤ h.toNat) {row column : Nat} (hr : row < 3) (hc : column < 3) :
    checkedGridButton side (w - CELL_MARGIN * 2) (CELL_MARGIN * 2) (UInt16.ofNat row)
        (UInt16.ofNat column) =
      some (gridButton side (w - CELL_MARGIN * 2) (CELL_MARGIN * 2) (UInt16.ofNat row)
        (UInt16.ofNat column)) := by
  have hwlt := w.toNat_lt
  have hhlt := h.toNat_lt
  have hprod : (w.toNat - 40 - side.toNat) * column ≤ (w.toNat - 40 - side.toNat) * 2 :=
    Nat.mul_le_mul_left _ (by omega)
  have hoff : row * (side.toNat + 40) ≤ 2 * (side.toNat + 40) :=
    Nat.mul_le_mul_right _ (by omega)
  have hleft := cellLeft_toNat hw hc
  have hoffset := cellOffset_toNat hh hr
  -- every operation stays in range
  have h₁ : checkedSub16 (w - CELL_MARGIN * 2) side = some (w - CELL_MARGIN * 2 - side) :=
    checkedSub16_of (by rw [innerWidth_toNat hw]; omega)
  have h₂ : checkedAdd16 side (CELL_MARGIN * 2) = some (side + CELL_MARGIN * 2) :=
    checkedAdd16_of (by show side.toNat + 40 < _; omega)
  have h₃ : checkedMul16 (UInt16.ofNat row) (side + CELL_MARGIN * 2) =
      some (UInt16.ofNat row * (side + CELL_MARGIN * 2)) :=
    checkedMul16_of (by
      rw [cellIndex_toNat hr, UInt16.toNat_add]
      show row * ((side.toNat + 40) % 65536) < _
      rw [Nat.mod_eq_of_lt (by omega)]
      omega)
  have h₄ : checkedAdd16 GRID_TOP_INSET (UInt16.ofNat row * (side + CELL_MARGIN * 2)) =
      some (GRID_TOP_INSET + UInt16.ofNat row * (side + CELL_MARGIN * 2)) :=
    checkedAdd16_of (by rw [hoffset]; show 60 + _ < _; omega)
  have h₅ : checkedMul16 (UInt16.ofNat row) GRID_COLUMNS = some (UInt16.ofNat row * GRID_COLUMNS) :=
    checkedMul16_of (by rw [cellIndex_toNat hr]; show row * 3 < _; omega)
  have h₆ : checkedAdd16 (UInt16.ofNat row * GRID_COLUMNS) (UInt16.ofNat column) =
      some (UInt16.ofNat row * GRID_COLUMNS + UInt16.ofNat column) :=
    checkedAdd16_of (by
      rw [UInt16.toNat_mul, cellIndex_toNat hr, cellIndex_toNat hc]
      exact Nat.lt_of_le_of_lt (Nat.add_le_add_right (Nat.mod_le (row * 3) _) column) (by omega))
  have hgaps : checkedSub16 GRID_COLUMNS 1 = some (GRID_COLUMNS - 1) := rfl
  have h₇ := narrow16_of (Nat.lt_of_le_of_lt (Nat.le_of_eq hleft) (by omega))
  have h₈ := narrow16_of (Nat.lt_of_le_of_lt
    (saturatingSub32_le _ LABEL_TEXT_X_OFFSET.toUInt32) (cellCenterX_lt hw hc))
  simp only [checkedGridButton, gridButton, h₁, h₂, h₃, h₄, h₅, h₆, h₇, h₈, hgaps,
    narrow16_of (cellBaseline_lt hh hr), Option.bind_eq_bind, Option.bind_some]

/-- So is the grid. -/
theorem checkedButtonGrid_eq (w h : UInt16) : checkedButtonGrid w h = some (buttonGrid w h) := by
  simp only [checkedButtonGrid, checkedGridCellSide_eq, Option.bind_eq_bind, Option.bind_some,
    buttonGrid]
  cases hs : gridCellSide w h with
  | none => rfl
  | some side =>
      obtain ⟨-, hw, hh⟩ := gridCellSide_bounds hs
      have hinner : checkedSub16 w (CELL_MARGIN * 2) = some (w - CELL_MARGIN * 2) :=
        checkedSub16_of (by show 40 ≤ _; omega)
      have hgap : checkedMul16 CELL_MARGIN 2 = some (CELL_MARGIN * 2) := rfl
      have hrow : ∀ row ∈ List.range GRID_ROWS.toNat,
          ((List.range GRID_COLUMNS.toNat).mapM fun column =>
          checkedGridButton side (w - CELL_MARGIN * 2) (CELL_MARGIN * 2) (UInt16.ofNat row)
            (UInt16.ofNat column)) = some ((List.range GRID_COLUMNS.toNat).map fun column =>
          gridButton side (w - CELL_MARGIN * 2) (CELL_MARGIN * 2) (UInt16.ofNat row)
            (UInt16.ofNat column)) := fun row hr =>
        mapM_of_some fun column hc =>
          checkedGridButton_eq hw hh (List.mem_range.mp hr) (List.mem_range.mp hc)
      simp only [hgap, hinner, Option.bind_some, List.flatMap_def]
      rw [mapM_of_some hrow, Option.bind_some]

end Cells

/-- **Nothing overflows** in a layout. -/
theorem checkedLayout_eq (ui : ApplicationUi) (w h : UInt16) :
    ui.checkedLayout w h = some (ui.layout w h) := by
  simp only [ApplicationUi.checkedLayout, ApplicationUi.layout]
  split
  · rfl
  · next hne =>
      obtain ⟨hw, hh⟩ := not_or.mp hne
      have one_le : ∀ {a : UInt16}, a ≠ 0 → (1 : UInt16).toNat ≤ a.toNat := fun ha =>
        Nat.pos_of_ne_zero fun e => ha (UInt16.toNat_inj.mp e)
      have hstatus : (min STATUS_BAR_HEIGHT h).toNat ≤ h.toNat := by
        rw [min16_toNat]
        exact Nat.min_le_right _ _
      simp only [checkedSub16_of (one_le hw), checkedSub16_of (one_le hh), checkedSub16_of hstatus,
        checkedButtonGrid_eq, Option.bind_eq_bind, Option.bind_some]

end PaperPad.Host
