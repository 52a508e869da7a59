import PaperPad.Host.ApplicationGrid
import PaperPad.Host.ApplicationRenderer

/-!
# Host — LayoutAgreement

The layout, hit testing and the rendered frame say the same of the buttons: the cells are apart
and inside the viewport, and each is outlined in black around the very rectangle that hit testing
uses.  Everything a layout draws is black, so what is drawn later never breaks an outline.
-/

namespace PaperPad.Host

open Protocol

/-- The layout of a viewport, hit testing and the rendered frame agree on the buttons. -/
structure LayoutAgrees [Platform] (ui : ApplicationUi) (w h : UInt16)
    (layout : ApplicationLayout) : Prop where
  /-- Nothing overflows in computing it. -/
  checked : ui.checkedLayout w h = some (some layout)
  ids : layout.buttons = [] ∨ layout.buttons.map (·.id) = [1, 2, 3, 4, 5, 6, 7, 8, 9]
  inside : ∀ b ∈ layout.buttons,
    b.bounds.x.toNat + b.bounds.width.toNat ≤ w.toNat ∧
      b.bounds.y.toNat + b.bounds.height.toNat ≤ h.toNat
  between : ∀ b ∈ layout.buttons,
    60 ≤ b.bounds.y.toNat ∧
      b.bounds.y.toNat + b.bounds.height.toNat ≤ layout.statusRegion.y.toNat
  disjoint : layout.buttons.Pairwise fun a b => ∀ x y,
    ¬ (a.bounds.contains x y = true ∧ b.bounds.contains x y = true)
  one_hit : ∀ a ∈ layout.buttons, ∀ b ∈ layout.buttons, ∀ x y,
    a.bounds.contains x y = true → b.bounds.contains x y = true → a = b
  off_viewport : ∀ x y, x ≥ w ∨ y ≥ h → ∀ b ∈ layout.buttons, b.bounds.contains x y = false
  outlined : ∀ f, renderApplicationBounded ui w h = .ok f → ∀ b ∈ layout.buttons,
    ∀ x y : UInt16, (x.toNat, y.toNat) ∈ b.boundary → f.pixel x y = some .black

/-- **Layout, hit testing and rendering agree.** -/
theorem layout_agreement [Platform] (ui : ApplicationUi) {w h : UInt16} (hw : w ≠ 0)
    (hh : h ≠ 0) : ∃ layout, ui.layout w h = some layout ∧ LayoutAgrees ui w h layout := by
  have hlayout : ∃ layout, ui.layout w h = some layout := ⟨_, if_neg (not_or.mpr ⟨hw, hh⟩)⟩
  obtain ⟨layout, hl⟩ := hlayout
  have hbuttons : layout.buttons = buttonGrid w h := by
    simp only [ApplicationUi.layout, if_neg (not_or.mpr ⟨hw, hh⟩), Option.some.injEq] at hl
    rw [← hl]
  have hstatus : layout.statusRegion.y = h - min STATUS_BAR_HEIGHT h := by
    simp only [ApplicationUi.layout, if_neg (not_or.mpr ⟨hw, hh⟩), Option.some.injEq] at hl
    rw [← hl]
  have unique : ∀ a ∈ layout.buttons, ∀ b ∈ layout.buttons, ∀ x y,
      a.bounds.contains x y = true → b.bounds.contains x y = true → a = b := by
    intro a ha b hb x y hax hbx
    rw [hbuttons] at ha hb
    exact buttonGrid_unique ha hb hax hbx
  refine ⟨layout, hl, ?_⟩
  constructor
  case checked => rw [checkedLayout_eq, hl]
  case ids => exact hbuttons ▸ buttonGrid_ids w h
  case inside =>
      intro b hb
      have := buttonGrid_inside (hbuttons ▸ hb)
      omega
  case between =>
      intro b hb
      have := buttonGrid_between (hbuttons ▸ hb)
      have hmin : (min STATUS_BAR_HEIGHT h).toNat = 40 := by
        rw [min16_toNat]
        exact Nat.min_eq_left (by show 40 ≤ _; omega)
      rw [hstatus, UInt16.toNat_sub_of_le _ _ (UInt16.le_iff_toNat_le.mpr (by omega)), hmin]
      omega
  case disjoint =>
      have hnodup : layout.buttons.Nodup := hbuttons ▸ buttonGrid_nodup w h
      refine hnodup.pairwise_of_forall_ne fun a ha b hb hne x y hxy => hne ?_
      exact unique a ha b hb x y hxy.1 hxy.2
  case one_hit => exact unique
  case off_viewport =>
      intro x y hxy b hb
      have := buttonGrid_inside (hbuttons ▸ hb)
      rw [ge_iff_le, ge_iff_le, UInt16.le_iff_toNat_le, UInt16.le_iff_toNat_le] at hxy
      rw [← Bool.not_eq_true, contains_iff]
      omega
  case outlined =>
      intro f hf b hb x y hp
      obtain ⟨layout', canvas, hl', hc, hfrozen⟩ :=
        renderApplication_eq_ok (renderApplicationBounded_eq_ok.mp hf).2
      obtain rfl : layout = layout' := Option.some.inj (hl.symm.trans hl')
      have hin := buttonGrid_inside (hbuttons ▸ hb)
      have hrect := hp.1
      rw [Picture.mem_rect] at hrect
      have hcanvas : (x.toNat, y.toNat) ∈ MonoCanvas.canvas w h :=
        MonoCanvas.mem_canvas.mpr ⟨by omega, by omega⟩
      obtain ⟨drawn, hdrawn, hview⟩ := paints_drawLayout canvas layout
      obtain rfl := Except.ok.inj ((drawLayout_eq_ok canvas layout).symm.trans hdrawn)
      have hink : (x.toNat, y.toNat) ∈ layout.ink := .inr (.inl ⟨b, hb, .inl hp⟩)
      rw [MonoCanvas.pixel_intoFrame hfrozen, hview, Picture.paint_of_mem (Set.mem_inter hink hcanvas), if_pos]
      exact ⟨UInt16.lt_iff_toNat_lt.mpr (by omega), UInt16.lt_iff_toNat_lt.mpr (by omega)⟩

theorem layout_agreement_paperwhite :
    ∃ layout, ApplicationUi.layout {} 1272 1624 = some layout ∧
      @LayoutAgrees .usize64 {} 1272 1624 layout :=
  @layout_agreement .usize64 {} 1272 1624 (by decide) (by decide)

end PaperPad.Host
