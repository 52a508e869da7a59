import PaperPad.Mxcfb.Present

/-!
# Mxcfb — Drawable

Whether everything can be drawn on what was opened.  A frame of the viewport's size always
reaches its submission, and the local strip does wherever it holds the Exit control.

* `draws_iff`: both presentations always reach their submission on exactly the screens wider
  than forty pixels.  Opening does not ask for that width: `not_drawable_narrow` is a screen it
  accepts, on which the strip is never drawn.
-/

namespace PaperPad.Mxcfb

open Protocol Device Fallible

section Drawable

variable [Platform]

/-- No presentation fails before its submission. -/
structure Draws (o : OpenedFramebuffer) : Prop where
  systemUi : ∀ markers connected submit, ∃ request,
    (presentSystemUiWith o markers connected submit).submission = some request
  remote : ∀ markers frameId f submit, Sized f o.info.screen → ∃ request,
    (presentRemoteWith o markers (RemoteFrame.ofFrame frameId f) submit).submission = some request

/-- A framebuffer opened from these metadata, whatever its memory holds. -/
def Opens (fixed : FbFixScreeninfo) (var : FbVarScreeninfo) (o : OpenedFramebuffer) : Prop :=
  ∃ debugLossy panel mmap,
    OpenedFramebuffer.fromFile debugLossy (.ok fixed) (.ok var) panel mmap = .ok o

/-- On whatever is opened from these metadata, everything can be drawn. -/
def Drawable (fixed : FbFixScreeninfo) (var : FbVarScreeninfo) : Prop :=
  ∀ o, Opens fixed var o → Draws o

/-- Without the Exit control the strip is never submitted. -/
theorem submission_eq_none (o : OpenedFramebuffer) (hw : ¬ 40 < o.info.geometry.xres.toNat)
    (markers : UpdateMarkerSequence) (connected : Bool) (submit : SubmitUpdate) :
    (presentSystemUiWith o markers connected submit).submission = none := by
  have hok := o.accepted
  have hnarrow : ¬ 40 < o.info.screen.physicalSize.1 := by
    rw [UInt16.lt_iff_toNat_lt, hok.physicalWidth_toNat]
    exact hw
  cases hpixels : rasterizeSystemUi o.info.screen connected with
  | ok pixels =>
      exact absurd ((rasterizeSystemUi_eq_ok hok.layout_self hok.strip_size.2).mp ⟨pixels, hpixels⟩)
        hnarrow
  | error e =>
      obtain ⟨e', he'⟩ := presentSystemUiWith_error o markers submit hpixels
      rw [he']

theorem draws_iff_xres (o : OpenedFramebuffer) : Draws o ↔ 40 < o.info.geometry.xres.toNat := by
  have hok := o.accepted
  constructor
  · intro h
    by_contra hw
    obtain ⟨request, hr⟩ := h.systemUi (.fromSeed 1) true fun _ _ _ => .ok ()
    rw [submission_eq_none o hw] at hr
    cases hr
  · intro hw
    have hwide : 40 < o.info.screen.physicalSize.1 := by
      rw [UInt16.lt_iff_toNat_lt, hok.physicalWidth_toNat]
      exact hw
    refine ⟨fun markers connected submit => ?_, fun markers frameId f submit hf => ?_⟩
    · obtain ⟨bytes, hpixels, hlen⟩ :=
        rasterizeSystemUi_of_lt hok.layout_self hok.strip_size.2 hwide connected
      exact ⟨_, (presentSystemUiWith_of o markers submit hpixels hlen).submission_eq⟩
    · exact ⟨_, (presentRemoteWith_of o markers submit frameId hf).submission_eq⟩

/-- **Everything can be drawn** on exactly the screens wider than both margins. -/
theorem draws_iff {fixed : FbFixScreeninfo} {var : FbVarScreeninfo} {o : OpenedFramebuffer}
    (h : Opens fixed var o) : Draws o ↔ 40 < var.xres.toNat := by
  obtain ⟨_, _, _, hopen⟩ := h
  rw [draws_iff_xres, xres_of_fromKernel (OpenedFramebuffer.fromKernel_of_fromFile hopen)]

end Drawable

/-! ### A screen of seventy-three rows -/

/-- The fixed part of a `hwtcon_v2` framebuffer. -/
def hwtconFixed (lineLength smemLen : UInt32) : FbFixScreeninfo where
  id := #v[0x68, 0x77, 0x74, 0x63, 0x6f, 0x6e, 0x5f, 0x76, 0x32, 0, 0, 0, 0, 0, 0, 0]
  smemLen := smemLen
  kind := 0
  visual := 1
  lineLength := lineLength

/-- The variable part of one of this width, one row higher than the strip. -/
def grayVar (xres : UInt32) : FbVarScreeninfo where
  xres := xres
  yres := 73
  xresVirtual := xres
  yresVirtual := 73
  xoffset := 0
  yoffset := 0
  bitsPerPixel := 8
  grayscale := 1
  nonstd := 0
  rotate := 0

/-- Metadata that are accepted and can be mapped are opened. -/
theorem exists_opens [Platform] {fixed : FbFixScreeninfo} {var : FbVarScreeninfo}
    (h : ∃ info, FramebufferInfo.fromKernel (fun _ => "") fixed var = .ok info ∧
      info.mappingLen ≤ isizeMax) : ∃ o, Opens fixed var o := by
  obtain ⟨info, hinfo, hmax⟩ := h
  have hlen : (List.replicate info.mappingLen (0 : UInt8)).length = info.mappingLen :=
    List.length_replicate
  obtain ⟨o, ho, -⟩ := OpenedFramebuffer.fromFile_of hinfo _ hlen (by rw [hlen]; exact hmax)
  exact ⟨o, _, _, _, ho⟩

theorem opens_narrow : ∃ o, @Opens .usize64 (hwtconFixed 40 2920) (grayVar 40) o :=
  @exists_opens .usize64 _ _ ⟨_, rfl, by decide⟩

theorem opens_wide : ∃ o, @Opens .usize64 (hwtconFixed 68 4964) (grayVar 64) o :=
  @exists_opens .usize64 _ _ ⟨_, rfl, by decide⟩

/-- Forty pixels are opened, and not drawn. -/
theorem not_drawable_narrow : ¬ @Drawable .usize64 (hwtconFixed 40 2920) (grayVar 40) := by
  obtain ⟨o, ho⟩ := opens_narrow
  intro h
  have hwide := (@draws_iff_xres .usize64 o).mp (h o ho)
  obtain ⟨_, _, _, hopen⟩ := ho
  have hkernel := @OpenedFramebuffer.fromKernel_of_fromFile .usize64 _ _ _ _ _ _ hopen
  rw [@xres_of_fromKernel .usize64 _ _ _ _ hkernel] at hwide
  exact absurd hwide (by decide)

theorem draws_iff_wide : ∃ o, @Opens .usize64 (hwtconFixed 68 4964) (grayVar 64) o ∧
    (@Draws .usize64 o ↔ 40 < (grayVar 64).xres.toNat) := by
  obtain ⟨o, ho⟩ := opens_wide
  exact ⟨o, ho, @draws_iff .usize64 _ _ _ ho⟩

end PaperPad.Mxcfb
