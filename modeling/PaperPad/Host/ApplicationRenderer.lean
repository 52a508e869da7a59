import PaperPad.Host.ApplicationUi
import PaperPad.Host.MonoPicture

/-!
# Host — ApplicationRenderer

The application frame of a viewport: `tools/paperspoon/src/application_renderer.rs`.

* `paints_drawLayout`: a layout is drawn without a panic, in black, and where.
* `renderApplicationBounded_eq_ok_iff`: a frame is rendered exactly for the nonzero viewports whose
  payload fits the wire, and it has the size of its viewport.
-/

namespace PaperPad.Host

open Protocol Fallible

section Draw

variable {width height : UInt16} [Platform]

/-- Text in black. -/
def drawTextRun (canvas : MonoCanvas width height) (text : TextRun) :
    Fallible (MonoCanvas width height) :=
  canvas.drawText text.x text.baselineY text.text .black

/-- The title, then every button with its label, then the status if there is one. -/
def drawLayout (canvas : MonoCanvas width height) (layout : ApplicationLayout) :
    Fallible (MonoCanvas width height) := do
  let canvas ← drawTextRun canvas layout.title
  let canvas ← layout.buttons.foldlM
    (fun canvas button => do
      let canvas ← canvas.outlineRect button.bounds.x button.bounds.y button.bounds.width
        button.bounds.height .black
      drawTextRun canvas button.label)
    canvas
  match layout.status with
  | some status => drawTextRun canvas status
  | none => .ok canvas

/-- The points of a text run. -/
def TextRun.ink (text : TextRun) : Set (Nat × Nat) :=
  Picture.line Font.Bit Font.ADVANCE text.x.toNat
    (text.baselineY.toNat - (Font.HEIGHT * Font.VERTICAL_SCALE - 1 : Nat)) 1 Font.VERTICAL_SCALE
    text.text.toList

/-- The outline of a button, as the set of its points. -/
def ButtonLayout.boundary (b : ButtonLayout) : Set (Nat × Nat) :=
  Picture.outline b.bounds.x.toNat b.bounds.y.toNat b.bounds.width.toNat b.bounds.height.toNat

/-- The points of a layout. -/
def ApplicationLayout.ink (layout : ApplicationLayout) : Set (Nat × Nat) :=
  layout.title.ink ∪ ({p | ∃ b ∈ layout.buttons, p ∈ b.boundary ∪ b.label.ink} ∪
    {p | ∃ status, layout.status = some status ∧ p ∈ status.ink})

theorem paints_drawTextRun (canvas : MonoCanvas width height) (text : TextRun) :
    Picture.Paints MonoCanvas.view .black (text.ink ∩ MonoCanvas.canvas width height) canvas
      (drawTextRun canvas text) :=
  canvas.paints_drawText text.x text.baselineY text.text .black

/-- **A layout is drawn.** -/
theorem paints_drawLayout (canvas : MonoCanvas width height) (layout : ApplicationLayout) :
    Picture.Paints MonoCanvas.view .black (layout.ink ∩ MonoCanvas.canvas width height) canvas
      (drawLayout canvas layout) := by
  have hstatus : ∀ canvas : MonoCanvas width height, Picture.Paints MonoCanvas.view .black
      ({p | ∃ status, layout.status = some status ∧ p ∈ status.ink} ∩
        MonoCanvas.canvas width height) canvas
      (match layout.status with
        | some status => drawTextRun canvas status
        | none => .ok canvas) := by
    intro canvas
    cases layout.status with
    | some status =>
        refine (paints_drawTextRun canvas status).congr ?_
        simp
    | none =>
        refine Picture.Paints.nothing.congr ?_
        simp
  refine ((paints_drawTextRun canvas layout.title).andThen fun canvas =>
    (Picture.Paints.foldlM (fun canvas b _ => (canvas.paints_outlineRect b.bounds.x b.bounds.y
      b.bounds.width b.bounds.height .black).andThen fun canvas =>
        paints_drawTextRun canvas b.label) canvas).andThen fun canvas => hstatus canvas).congr ?_
  ext p
  simp only [ApplicationLayout.ink, ButtonLayout.boundary, Set.mem_union, Set.mem_inter_iff,
    Set.mem_ofPred_eq]
  grind

/-- The canvas with the layout drawn. -/
def drawnLayout (canvas : MonoCanvas width height) (layout : ApplicationLayout) :
    MonoCanvas width height :=
  match h : drawLayout canvas layout with
  | .ok canvas => canvas
  | .error _ => False.elim (by
      obtain ⟨_, hc, -⟩ := paints_drawLayout canvas layout
      rw [h] at hc
      cases hc)

theorem drawLayout_eq_ok (canvas : MonoCanvas width height) (layout : ApplicationLayout) :
    drawLayout canvas layout = .ok (drawnLayout canvas layout) := by
  obtain ⟨c, hc, -⟩ := paints_drawLayout canvas layout
  simp only [drawnLayout]
  split
  · next h => exact h
  · next h =>
      rw [hc] at h
      cases h

end Draw

/-- Render one complete application viewport. Drawing does not panic, so there is no such outcome. -/
def renderApplication [Platform] (ui : ApplicationUi) (width height : UInt16) :
    Except Mono1FrameError Mono1Frame := do
  let some layout := ui.layout width height
    | throw (.zeroDimension width height)
  let canvas ← MonoCanvas.new width height
  (drawnLayout canvas layout).intoFrame

/-- Enforce the wire payload cap before rendering. -/
def renderApplicationBounded [Platform] (ui : ApplicationUi) (width height : UInt16) :
    Except String Mono1Frame :=
  match mono1PayloadLen width height with
  | none => .error "application frame dimensions overflow payload size"
  | some pixelBytes =>
      match checkedAdd V2_FRAME_PREFIX_LEN pixelBytes with
      | none => .error "application frame payload size overflow"
      | some payloadBytes =>
          if payloadBytes > V2_MAX_PAYLOAD_LEN then
            .error s!"application frame payload is {payloadBytes} bytes; maximum is {V2_MAX_PAYLOAD_LEN}"
          else
            (renderApplication ui width height).mapError fun error =>
              s!"failed to render application frame: {error.display}"

/-- What a rendered frame was drawn from. -/
theorem renderApplication_eq_ok [Platform] {ui : ApplicationUi} {width height : UInt16}
    {f : Mono1Frame} (h : renderApplication ui width height = .ok f) :
    ∃ layout canvas, ui.layout width height = some layout ∧
      MonoCanvas.new width height = .ok canvas ∧ (drawnLayout canvas layout).intoFrame = .ok f := by
  simp only [renderApplication] at h
  cases hl : ui.layout width height with
  | none => simp [hl, throw, throwThe, MonadExceptOf.throw] at h
  | some layout =>
      rw [hl] at h
      obtain ⟨canvas, hc, hf⟩ := Except.bind_eq_ok.mp h
      exact ⟨layout, canvas, rfl, hc, hf⟩

/-- The payload of an application frame of this size fits the wire. -/
def FrameFits (width height : UInt16) : Prop :=
  V2_FRAME_PREFIX_LEN + mono1Stride width * height.toNat ≤ V2_MAX_PAYLOAD_LEN

instance (width height : UInt16) : Decidable (FrameFits width height) :=
  inferInstanceAs (Decidable (_ ≤ _))

/-- The guard is in front of the rendering. -/
theorem renderApplicationBounded_eq_ok [Platform] {ui : ApplicationUi} {width height : UInt16}
    {f : Mono1Frame} : renderApplicationBounded ui width height = .ok f ↔
      FrameFits width height ∧ renderApplication ui width height = .ok f := by
  have hlen := mono1PayloadLen_eq width height
  have hsum := checkedAdd_of_lt (prefix_add_pixelLen_lt .mono1 width height)
  rw [pixelLen] at hsum
  simp only [renderApplicationBounded, hlen, hsum]
  by_cases hfits : FrameFits width height
  · rw [if_neg (not_lt.mpr hfits), Except.mapError_eq_ok]
    exact ⟨fun h => ⟨hfits, h⟩, fun h => h.2⟩
  · rw [if_pos (not_le.mp hfits)]
    constructor
    · intro h
      cases h
    · intro h
      exact absurd h.1 hfits

/-- A rendered frame has the size of its viewport. -/
theorem renderApplicationBounded_dimensions [Platform] {ui : ApplicationUi}
    {width height : UInt16} {f : Mono1Frame}
    (h : renderApplicationBounded ui width height = .ok f) :
    f.width = width ∧ f.height = height := by
  obtain ⟨layout, canvas, -, -, hf⟩ := renderApplication_eq_ok (renderApplicationBounded_eq_ok.mp h).2
  rw [MonoCanvas.intoFrame_eq_ok, Except.ok.injEq] at hf
  subst hf
  exact ⟨rfl, rfl⟩

/-- **What can be rendered.** -/
theorem renderApplicationBounded_eq_ok_iff [Platform] {ui : ApplicationUi} {width height : UInt16} :
    (∃ f, renderApplicationBounded ui width height = .ok f) ↔
      width ≠ 0 ∧ height ≠ 0 ∧ FrameFits width height := by
  constructor
  · rintro ⟨f, hf⟩
    obtain ⟨hw, hh⟩ := renderApplicationBounded_dimensions hf
    exact ⟨hw ▸ f.valid.width_ne, hh ▸ f.valid.height_ne, (renderApplicationBounded_eq_ok.mp hf).1⟩
  · rintro ⟨hw, hh, hfits⟩
    obtain ⟨canvas, hc⟩ := MonoCanvas.new_eq_ok ⟨hw, hh⟩
    obtain ⟨layout, hl⟩ : ∃ layout, ui.layout width height = some layout :=
      ⟨_, if_neg (not_or.mpr ⟨hw, hh⟩)⟩
    simp only [renderApplicationBounded_eq_ok, renderApplication, hl, hc, bind, Except.bind,
      MonoCanvas.intoFrame_eq_ok]
    exact ⟨_, hfits, rfl⟩

end PaperPad.Host
