import Mathlib.Tactic.SplitIfs
import Mathlib.Data.List.Basic

/-!
# Host — ApplicationUi

The host-owned application layout of `tools/paperspoon/src/application_ui.rs`: a title, a
three-by-three button grid and a status line, computed from the remote viewport.

`buttonGrid_inside`: every button lies inside the viewport it is laid out for.
-/

namespace PaperPad.Host

/-- The buttons of a row. -/
def GRID_COLUMNS : UInt16 := 3

/-- The rows. -/
def GRID_ROWS : UInt16 := 3

/-- The space around a cell. -/
def CELL_MARGIN : UInt16 := 20

/-- The space above the grid, where the title is. -/
def GRID_TOP_INSET : UInt16 := 60

/-- The space below it, where the status is. -/
def STATUS_BAR_HEIGHT : UInt16 := 40

/-- From the baseline of the status to the bottom. -/
def STATUS_TEXT_BOTTOM_MARGIN : UInt16 := 10

/-- Where the title begins. -/
def TITLE_X : UInt16 := CELL_MARGIN
def TITLE_BASELINE : UInt16 := 40

/-- From the middle of a button to where its label begins. -/
def LABEL_TEXT_X_OFFSET : UInt16 := 3
def LABEL_TEXT_Y_OFFSET : UInt16 := 5

/-- The title. -/
def TITLE_TEXT : String := "Core X11 button grid: tap 1-9"

/-- The labels, by row and column. -/
def BUTTON_LABELS : List String := ["1", "2", "3", "4", "5", "6", "7", "8", "9"]

/-- `u16::saturating_sub`. -/
def saturatingSub16 (a b : UInt16) : UInt16 := if b ≤ a then a - b else 0

/-- `u32::saturating_sub`. -/
def saturatingSub32 (a b : UInt32) : UInt32 := if b ≤ a then a - b else 0

/-- Half-open rectangle in remote-viewport coordinates. -/
structure Rect where
  x : UInt16
  y : UInt16
  width : UInt16
  height : UInt16
  deriving DecidableEq, Repr

/-- The point lies in the rectangle. -/
def Rect.contains (r : Rect) (x y : UInt16) : Bool :=
  x.toNat ≥ r.x.toNat ∧ y.toNat ≥ r.y.toNat ∧
    x.toNat < r.x.toNat + r.width.toNat ∧ y.toNat < r.y.toNat + r.height.toNat

/-- Text and its baseline origin. -/
structure TextRun where
  x : UInt16
  baselineY : UInt16
  text : String
  deriving DecidableEq, Repr

/-- A button, where it is, and its label. -/
structure ButtonLayout where
  id : UInt8
  bounds : Rect
  label : TextRun
  deriving DecidableEq, Repr

/-- All there is to draw. -/
structure ApplicationLayout where
  width : UInt16
  height : UInt16
  title : TextRun
  buttons : List ButtonLayout
  statusRegion : Rect
  status : Option TextRun
  deriving DecidableEq, Repr

/-- The application: the text of its status. -/
structure ApplicationUi where
  status : Option String := none
  deriving DecidableEq, Repr

/-- The side of a cell, if there is room for nine of them. -/
def gridCellSide (width height : UInt16) : Option UInt16 :=
  if width = 0 ∨ height = 0 then none
  else
    let rowGap := CELL_MARGIN * 2
    let fixedVerticalOverhead := GRID_TOP_INSET + (GRID_ROWS - 1) * rowGap + STATUS_BAR_HEIGHT
    let side := min (saturatingSub16 (width / GRID_COLUMNS) (CELL_MARGIN * 2))
      (saturatingSub16 height fixedVerticalOverhead / GRID_ROWS)
    if side > 0 then some side else none

/-- The button of a row and a column. -/
def gridButton (side innerWidth rowGap row column : UInt16) : ButtonLayout :=
  let x := CELL_MARGIN.toUInt32 +
    (innerWidth - side).toUInt32 * column.toUInt32 / (GRID_COLUMNS - 1).toUInt32
  let y := GRID_TOP_INSET + row * (side + rowGap)
  let centerX := x + side.toUInt32 / 2
  let centerY := y.toUInt32 + side.toUInt32 / 2
  let index := (row * GRID_COLUMNS + column).toNat
  { id := UInt8.ofNat index + 1
    bounds := ⟨x.toUInt16, y, side, side⟩
    label :=
      { x := (saturatingSub32 centerX LABEL_TEXT_X_OFFSET.toUInt32).toUInt16
        baselineY := (centerY + LABEL_TEXT_Y_OFFSET.toUInt32).toUInt16
        text := BUTTON_LABELS.getD index "" } }

/-- The buttons, row by row; none if there is no room. -/
def buttonGrid (width height : UInt16) : List ButtonLayout :=
  match gridCellSide width height with
  | none => []
  | some side =>
      let rowGap := CELL_MARGIN * 2
      let innerWidth := width - CELL_MARGIN * 2
      (List.range GRID_ROWS.toNat).flatMap fun row =>
        (List.range GRID_COLUMNS.toNat).map fun column =>
          gridButton side innerWidth rowGap (UInt16.ofNat row) (UInt16.ofNat column)

namespace ApplicationUi

/-- The layout for a viewport that is not empty. -/
def layout (ui : ApplicationUi) (width height : UInt16) : Option ApplicationLayout :=
  if width = 0 ∨ height = 0 then none
  else
    let statusHeight := min STATUS_BAR_HEIGHT height
    some
      { width, height
        title := ⟨min TITLE_X (width - 1), min TITLE_BASELINE (height - 1), TITLE_TEXT⟩
        buttons := buttonGrid width height
        statusRegion := ⟨0, height - statusHeight, width, statusHeight⟩
        status := ui.status.map fun text =>
          { x := min CELL_MARGIN (width - 1)
            baselineY := min (saturatingSub16 height STATUS_TEXT_BOTTOM_MARGIN) (height - 1)
            text } }

end ApplicationUi

/-! ### The grid lies inside the viewport -/

/-- It is the subtraction of natural numbers. -/
theorem saturatingSub16_toNat (a b : UInt16) :
    (saturatingSub16 a b).toNat = a.toNat - b.toNat := by
  simp only [saturatingSub16]
  split
  · next h => rw [UInt16.toNat_sub_of_le _ _ h]
  · next h =>
      have := UInt16.le_iff_toNat_le.not.mp h
      simp only [UInt16.toNat_zero]
      omega

theorem min16_toNat (a b : UInt16) : (min a b).toNat = min a.toNat b.toNat := by
  show (if a ≤ b then a else b).toNat = _
  split
  · next h => exact (Nat.min_eq_left (UInt16.le_iff_toNat_le.mp h)).symm
  · next h => exact (Nat.min_eq_right (Nat.le_of_not_le (UInt16.le_iff_toNat_le.not.mp h))).symm

/-- A cell is at least one pixel and three of them fit, with their margins. -/
theorem gridCellSide_bounds {w h side : UInt16} (hs : gridCellSide w h = some side) :
    0 < side.toNat ∧ 3 * side.toNat + 120 ≤ w.toNat ∧ 3 * side.toNat + 180 ≤ h.toNat := by
  have hw : (saturatingSub16 (w / GRID_COLUMNS) (CELL_MARGIN * 2)).toNat = w.toNat / 3 - 40 := by
    rw [saturatingSub16_toNat, UInt16.toNat_div]
    rfl
  have hh : (saturatingSub16 h (GRID_TOP_INSET + (GRID_ROWS - 1) * (CELL_MARGIN * 2) +
      STATUS_BAR_HEIGHT) / GRID_ROWS).toNat = (h.toNat - 180) / 3 := by
    rw [UInt16.toNat_div, saturatingSub16_toNat]
    rfl
  unfold gridCellSide at hs
  split at hs
  · cases hs
  · dsimp only at hs
    split at hs
    · next hpos =>
        cases hs
        have hpos := UInt16.lt_iff_toNat_lt.mp hpos
        rw [min16_toNat, hw, hh, UInt16.toNat_zero] at hpos
        rw [min16_toNat, hw, hh]
        omega
    · cases hs

section Cells

variable {w side : UInt16}

/-- The columns are spread over the width between the margins. -/
theorem gridButton_x (hw : 3 * side.toNat + 120 ≤ w.toNat) {column : Nat} (hc : column < 3)
    (rowGap row : UInt16) :
    (gridButton side (w - CELL_MARGIN * 2) rowGap row (UInt16.ofNat column)).bounds.x.toNat =
      20 + (w.toNat - 40 - side.toNat) * column / 2 := by
  have hwlt := w.toNat_lt
  have hinner : (w - CELL_MARGIN * 2).toNat = w.toNat - 40 := by
    rw [UInt16.toNat_sub_of_le _ _ (UInt16.le_iff_toNat_le.mpr (by show 40 ≤ w.toNat; omega))]
    rfl
  have hdiff : (w - CELL_MARGIN * 2 - side).toNat = w.toNat - 40 - side.toNat := by
    rw [UInt16.toNat_sub_of_le _ _ (UInt16.le_iff_toNat_le.mpr (by rw [hinner]; omega)), hinner]
  have hcol : (UInt16.ofNat column).toUInt32.toNat = column := by
    rw [UInt16.toNat_toUInt32, UInt16.toNat_ofNat']
    omega
  have hprod : (w.toNat - 40 - side.toNat) * column ≤ (w.toNat - 40 - side.toNat) * 2 :=
    Nat.mul_le_mul_left _ (by omega)
  show ((20 : UInt32) + (w - CELL_MARGIN * 2 - side).toUInt32 *
    (UInt16.ofNat column).toUInt32 / 2).toUInt16.toNat = _
  rw [UInt32.toNat_toUInt16, UInt32.toNat_add, UInt32.toNat_div, UInt32.toNat_mul, hcol,
    UInt16.toNat_toUInt32, hdiff]
  -- neither the 32-bit sum nor its truncation to 16 bits wraps
  show (20 + (w.toNat - 40 - side.toNat) * column % 4294967296 / 2) % 4294967296 % 65536 = _
  omega

/-- The rows follow each other at a margin. -/
theorem gridButton_y {h : UInt16} (hh : 3 * side.toNat + 180 ≤ h.toNat) {row : Nat} (hr : row < 3)
    (innerWidth column : UInt16) :
    (gridButton side innerWidth (CELL_MARGIN * 2) (UInt16.ofNat row) column).bounds.y.toNat =
      60 + row * (side.toNat + 40) := by
  have hhlt := h.toNat_lt
  have hprod : row * (side.toNat + 40) ≤ 2 * (side.toNat + 40) :=
    Nat.mul_le_mul_right _ (by omega)
  show ((60 : UInt16) + UInt16.ofNat row * (side + 40)).toNat = _
  rw [UInt16.toNat_add, UInt16.toNat_mul, UInt16.toNat_add, UInt16.toNat_ofNat']
  show (60 + row % 65536 * ((side.toNat + 40) % 65536) % 65536) % 65536 = _
  rw [Nat.mod_eq_of_lt (by omega : row < 65536),
    Nat.mod_eq_of_lt (by omega : side.toNat + 40 < 65536)]
  omega

end Cells

/-- **The grid is inside.**  The bounds of every button end before the viewport does. -/
theorem buttonGrid_inside {w h : UInt16} {b : ButtonLayout} (hb : b ∈ buttonGrid w h) :
    b.bounds.x.toNat + b.bounds.width.toNat < w.toNat ∧
      b.bounds.y.toNat + b.bounds.height.toNat < h.toNat := by
  simp only [buttonGrid] at hb
  cases hs : gridCellSide w h with
  | none => simp [hs] at hb
  | some side =>
      obtain ⟨hpos, hw, hh⟩ := gridCellSide_bounds hs
      simp only [hs, List.mem_flatMap, List.mem_range, List.mem_map] at hb
      obtain ⟨row, hrow, column, hcolumn, rfl⟩ := hb
      have hrow : row < 3 := hrow
      have hcolumn : column < 3 := hcolumn
      have hx : (w.toNat - 40 - side.toNat) * column ≤ (w.toNat - 40 - side.toNat) * 2 :=
        Nat.mul_le_mul_left _ (by omega)
      have hy : row * (side.toNat + 40) ≤ 2 * (side.toNat + 40) :=
        Nat.mul_le_mul_right _ (by omega)
      rw [gridButton_x hw hcolumn, gridButton_y hh hrow]
      show _ + side.toNat < _ ∧ _ + side.toNat < _
      omega

/-- The exclusive corner of the viewport is in no button. -/
theorem buttonGrid_corner {w h : UInt16} {b : ButtonLayout} (hb : b ∈ buttonGrid w h) :
    b.bounds.contains w h = false := by
  have := buttonGrid_inside hb
  simp only [Rect.contains, decide_eq_false_iff_not]
  omega

end PaperPad.Host
