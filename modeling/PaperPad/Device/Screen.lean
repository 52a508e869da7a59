import Mathlib.Algebra.Group.Nat.Defs
import Mathlib.Tactic.SplitIfs
import PaperPad.Support.Picture

/-!
# Device — Screen

Screen ownership: `src/ui/button.rs`, `src/ui/geometry.rs`, `src/ui/screen.rs` and the bounds of
`src/ui/system.rs`.  A window is partitioned into the remote viewport, which the host draws, and
the local strip below it, which holds the Exit control and the connection indicator.

The two regions never overlap (`toRemote_eq_none_of_exit`), whatever the window's size.
-/

namespace PaperPad.Device

/-! ### Pointer records -/

/-- Core-X11 button detail representing a primary touch contact. -/
def PRIMARY_BUTTON_DETAIL : UInt8 := 1

/-- A signed window-relative coordinate. -/
structure PhysicalPoint where
  x : Int16
  y : Int16
  deriving DecidableEq, Repr

/-- A press or a release. -/
inductive PointerEventKind where
  | press
  | release
  deriving DecidableEq, Repr

/-- A button event of the window. -/
structure PointerEvent where
  kind : PointerEventKind
  detail : UInt8
  point : PhysicalPoint
  deriving DecidableEq, Repr

/-! ### Rectangles -/

/-- The margin around what the strip shows. -/
def CELL_MARGIN : UInt16 := 20

/-- Height reserved for the local strip at the bottom of the screen. -/
def SYSTEM_UI_HEIGHT : UInt16 := 72

/-- The diameter of the indicator. -/
def CONNECTION_INDICATOR_DIAMETER : UInt16 := 24

/-- `i16::MAX as u16`. -/
def I16_MAX : UInt16 := 32767

/-- Half-open rectangle in physical window coordinates. -/
structure LogicalRect where
  x : UInt16
  y : UInt16
  width : UInt16
  height : UInt16
  deriving DecidableEq, Repr

/-- The point lies in the rectangle. -/
def LogicalRect.containsPhysical (r : LogicalRect) (point : PhysicalPoint) : Bool :=
  let left : Int := r.x.toNat
  let top : Int := r.y.toNat
  let right := left + r.width.toNat
  let bottom := top + r.height.toNat
  point.x.toInt ≥ left ∧ point.x.toInt < right ∧ point.y.toInt ≥ top ∧ point.y.toInt < bottom

/-- The points of the window in a rectangle. -/
def LogicalRect.points (r : LogicalRect) : Set (Nat × Nat) :=
  Picture.rect r.x.toNat r.y.toNat r.width.toNat r.height.toNat

/-- A coordinate relative to the remote viewport. -/
structure RemotePoint where
  x : UInt16
  y : UInt16
  deriving DecidableEq, Repr

/-- A part of the screen. -/
structure ScreenRect where
  x : UInt16
  y : UInt16
  width : UInt16
  height : UInt16
  deriving DecidableEq, Repr

/-- The points of the window in a rectangle. -/
def ScreenRect.points (r : ScreenRect) : Set (Nat × Nat) :=
  Picture.rect r.x.toNat r.y.toNat r.width.toNat r.height.toNat

/-- The point, counted from the corner of the rectangle it is in. -/
def ScreenRect.toRelativePoint (r : ScreenRect) (physical : PhysicalPoint) : Option RemotePoint :=
  let x := physical.x.toInt
  let y := physical.y.toInt
  let left : Int := r.x.toNat
  let top : Int := r.y.toNat
  let right := left + r.width.toNat
  let bottom := top + r.height.toNat
  if x < left ∨ y < top ∨ x ≥ right ∨ y ≥ bottom then none
  else some ⟨UInt16.ofNat (x - left).toNat, UInt16.ofNat (y - top).toNat⟩

/-! ### The layout of a window -/

/-- The remote viewport, and the local strip below it. -/
structure ScreenLayout where
  physicalSize : UInt16 × UInt16
  remoteViewport : ScreenRect
  systemUiRegion : ScreenRect
  deriving DecidableEq, Repr

/-- The layout of a window, cut at `i16::MAX`. -/
def ScreenLayout.new (width height : UInt16) : Option ScreenLayout :=
  if width = 0 ∨ height = 0 then none
  else
    let width := min width I16_MAX
    let height := min height I16_MAX
    let systemHeight := min height SYSTEM_UI_HEIGHT
    let remoteHeight := height - systemHeight
    some
      { physicalSize := (width, height)
        remoteViewport := ⟨0, 0, width, remoteHeight⟩
        systemUiRegion := ⟨0, remoteHeight, width, systemHeight⟩ }

/-- Where a touch is in the remote viewport. -/
def ScreenLayout.physicalToRemote (l : ScreenLayout) (physical : PhysicalPoint) :
    Option RemotePoint :=
  l.remoteViewport.toRelativePoint physical

/-- `u16::checked_mul`. -/
def checkedMul16 (a b : UInt16) : Option UInt16 :=
  if a.toNat * b.toNat < 2 ^ 16 then some (a * b) else none

/-- `u16::checked_add`. -/
def checkedAdd16 (a b : UInt16) : Option UInt16 :=
  if a.toNat + b.toNat < 2 ^ 16 then some (a + b) else none

/-- Where the indicator is drawn, if there is room for it beside the Exit control. -/
def connectionIndicatorBounds (width height : UInt16) : Option LogicalRect := do
  let screen ← ScreenLayout.new width height
  let region := screen.systemUiRegion
  let margins ← checkedMul16 CELL_MARGIN 3
  let withIndicator ← checkedAdd16 margins CONNECTION_INDICATOR_DIAMETER
  let requiredWidth ← checkedAdd16 withIndicator 1
  if region.height < SYSTEM_UI_HEIGHT ∨ region.width < requiredWidth ∨
      region.height < CONNECTION_INDICATOR_DIAMETER then none
  else
    some
      { x := CELL_MARGIN
        y := region.y + (region.height - CONNECTION_INDICATOR_DIAMETER) / 2
        width := CONNECTION_INDICATOR_DIAMETER
        height := CONNECTION_INDICATOR_DIAMETER }

/-- Where the Exit control is drawn, if there is room for it. -/
def exitBounds (width height : UInt16) : Option LogicalRect := do
  let screen ← ScreenLayout.new width height
  let region := screen.systemUiRegion
  let physicalWidth := screen.physicalSize.1
  if region.height < SYSTEM_UI_HEIGHT ∨ region.width ≤ CELL_MARGIN * 2 then none
  else
    let left :=
      match connectionIndicatorBounds width height with
      | some indicator => indicator.x + indicator.width + CELL_MARGIN
      | none => CELL_MARGIN
    if physicalWidth ≤ left + CELL_MARGIN then none
    else
      some
        { x := left
          y := region.y
          width := physicalWidth - left - CELL_MARGIN
          height := region.height }

/-- The size of the remote viewport of a window, as `remote_viewport_size` computes it. -/
def remoteViewportSize (physicalSize : UInt16 × UInt16) : UInt16 × UInt16 :=
  match ScreenLayout.new physicalSize.1 physicalSize.2 with
  | some layout => (layout.remoteViewport.width, layout.remoteViewport.height)
  | none => (0, 0)

/-- The remote point a window of this size reports for a physical point. -/
def toRemote (size : UInt16 × UInt16) (point : PhysicalPoint) : Option RemotePoint :=
  (ScreenLayout.new size.1 size.2).bind fun layout => layout.physicalToRemote point

/-- The point lies in the current Exit control. -/
def InExit (size : UInt16 × UInt16) (point : PhysicalPoint) : Prop :=
  ∃ bounds, exitBounds size.1 size.2 = some bounds ∧ bounds.containsPhysical point = true

/-! ### Facts -/

/-- Everything a layout says about its window. -/
theorem ScreenLayout.new_spec {w h : UInt16} {l : ScreenLayout}
    (hl : ScreenLayout.new w h = some l) :
    l.remoteViewport.x = 0 ∧ l.remoteViewport.y = 0 ∧
      l.systemUiRegion.y = l.remoteViewport.height ∧
      remoteViewportSize (w, h) = (l.remoteViewport.width, l.remoteViewport.height) := by
  have hs : remoteViewportSize (w, h) = (l.remoteViewport.width, l.remoteViewport.height) := by
    simp only [remoteViewportSize, hl]
  simp only [ScreenLayout.new] at hl
  split_ifs at hl
  cases hl
  exact ⟨rfl, rfl, rfl, hs⟩

/-- A capped size is capped. -/
theorem min_capped (a : UInt16) : min (min a I16_MAX) I16_MAX = min a I16_MAX := by
  have hmin : ∀ a b : UInt16, min a b = if a ≤ b then a else b := fun _ _ => rfl
  rw [hmin a]
  split
  · next h => rw [hmin, if_pos h]
  · rw [hmin, if_pos (UInt16.le_refl _)]

theorem capped_ne {a : UInt16} (ha : a ≠ 0) : min a I16_MAX ≠ 0 := by
  have hmin : min a I16_MAX = if a ≤ I16_MAX then a else I16_MAX := rfl
  rw [hmin]
  split
  · exact ha
  · decide

/-- A layout is the layout of its own size. -/
theorem ScreenLayout.new_self {w h : UInt16} {l : ScreenLayout}
    (hl : ScreenLayout.new w h = some l) :
    ScreenLayout.new l.physicalSize.1 l.physicalSize.2 = some l := by
  by_cases h₀ : w = 0 ∨ h = 0
  · rw [ScreenLayout.new, if_pos h₀] at hl
    cases hl
  · obtain ⟨hw, hh⟩ := not_or.mp h₀
    rw [ScreenLayout.new, if_neg h₀] at hl
    cases hl
    rw [ScreenLayout.new, if_neg (not_or.mpr ⟨capped_ne hw, capped_ne hh⟩)]
    simp only [min_capped]

/-- The sizes of a layout, as numbers. -/
structure ScreenLayout.Sizes (l : ScreenLayout) (w h : UInt16) : Prop where
  width_pos : 0 < w.toNat
  height_pos : 0 < h.toNat
  width : l.physicalSize.1.toNat = min w.toNat 32767
  height : l.physicalSize.2.toNat = min h.toNat 32767
  remote_width : l.remoteViewport.width = l.physicalSize.1
  remote_height : l.remoteViewport.height.toNat = l.physicalSize.2.toNat - 72
  strip_left : l.systemUiRegion.x = 0
  strip_width : l.systemUiRegion.width = l.physicalSize.1
  strip_height : l.systemUiRegion.height.toNat = min l.physicalSize.2.toNat 72

theorem ScreenLayout.sizes {w h : UInt16} {l : ScreenLayout}
    (hl : ScreenLayout.new w h = some l) : l.Sizes w h := by
  have hpos : ∀ {a : UInt16}, a ≠ 0 → 0 < a.toNat := fun h =>
    Nat.pos_of_ne_zero fun e => h (UInt16.toNat_inj.mp e)
  have hmin : ∀ a b : UInt16, (min a b).toNat = min a.toNat b.toNat := fun a b => by
    rw [Nat.min_def, show min a b = if a ≤ b then a else b from rfl]
    simp only [UInt16.le_iff_toNat_le]
    split <;> rfl
  have hstrip : ∀ a : UInt16, (min a SYSTEM_UI_HEIGHT).toNat = min a.toNat 72 :=
    fun a => hmin a _
  rw [ScreenLayout.new] at hl
  split at hl
  · cases hl
  · next h₀ =>
      obtain ⟨hw, hh⟩ := not_or.mp h₀
      cases hl
      refine ⟨hpos hw, hpos hh, hmin w _, hmin h _, rfl, ?_, rfl, rfl, hstrip _⟩
      dsimp only
      rw [UInt16.toNat_sub_of_le _ _ (UInt16.le_iff_toNat_le.mpr ?_), hstrip]
      · omega
      · rw [hstrip]
        exact Nat.min_le_left _ _

/-- **Half-open.**  A remote point is strictly inside the remote viewport. -/
theorem toRemote_inside {size : UInt16 × UInt16} {point : PhysicalPoint} {p : RemotePoint}
    (h : toRemote size point = some p) :
    p.x < (remoteViewportSize size).1 ∧ p.y < (remoteViewportSize size).2 := by
  obtain ⟨l, hl, hp⟩ := Option.bind_eq_some_iff.mp h
  obtain ⟨hx, hy, -, hs⟩ := ScreenLayout.new_spec hl
  rw [hs]
  simp only [ScreenLayout.physicalToRemote, ScreenRect.toRelativePoint] at hp
  simp only [hx, hy] at hp
  split_ifs at hp with hc
  cases hp
  have hw := l.remoteViewport.width.toNat_lt
  have hh := l.remoteViewport.height.toNat_lt
  simp only [UInt16.lt_iff_toNat_lt, UInt16.toNat_ofNat', UInt16.toNat_zero] at hc ⊢
  omega

/-- **Disjoint.**  A point of the Exit control is no point of the remote viewport. -/
theorem toRemote_eq_none_of_exit {size : UInt16 × UInt16} {point : PhysicalPoint}
    (h : InExit size point) : toRemote size point = none := by
  obtain ⟨bounds, hb, hc⟩ := h
  unfold exitBounds at hb
  obtain ⟨l, hl, hb⟩ := Option.bind_eq_some_iff.mp hb
  obtain ⟨hx, hy, hr, -⟩ := ScreenLayout.new_spec hl
  have htop : bounds.y = l.remoteViewport.height := by
    dsimp only at hb
    split_ifs at hb
    cases hb
    exact hr
  simp only [LogicalRect.containsPhysical, htop, decide_eq_true_eq] at hc
  simp only [toRemote]
  rw [hl]
  simp only [Option.bind_some, ScreenLayout.physicalToRemote, ScreenRect.toRelativePoint, hx, hy,
    UInt16.toNat_zero]
  exact if_pos (by omega)

end PaperPad.Device
