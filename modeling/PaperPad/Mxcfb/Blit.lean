import PaperPad.Mxcfb.Pixels

/-!
# Mxcfb — Blit

`blit_remote` as a whole, and `prepare_remote` against it.  A blit either fails and changes
nothing, or puts every pixel of the frame at its place and changes nothing else (`blit_exact`).
What is prepared is what a blit would write: on a memory of the mapping's length its rows make the
same memory, whatever that holds (`staged_blit`).
-/

namespace PaperPad.Mxcfb

open Protocol Device Fallible Raster

/-- Where a blit puts a pixel of the viewport. -/
def blitIndex (spec : FramebufferSpec) (x y : Nat) : Nat :=
  (spec.yoffset.toNat + y) * spec.lineLength + spec.xoffset.toNat + x

/-- The memory shows the frame, and is else as it was. -/
structure BlitExact (f : Frame) (spec : FramebufferSpec) (memory written : List UInt8) : Prop where
  length : written.length = memory.length
  pixel : ∀ x y, x < f.width → y < f.height →
    written[blitIndex spec x.toNat y.toNat]? = shownByte f x y
  distinct : ∀ x y x' y' : UInt16, x < f.width → y < f.height → x' < f.width → y' < f.height →
    blitIndex spec x.toNat y.toNat = blitIndex spec x'.toNat y'.toNat → x = x' ∧ y = y'
  other : ∀ i, (∀ x y : UInt16, x < f.width → y < f.height → i ≠ blitIndex spec x.toNat y.toNat) →
    written[i]? = memory[i]?

theorem noPanic_checkBlit [Platform] (frame : RemoteFrame) (screen : ScreenLayout)
    (spec : FramebufferSpec) (memoryLen : Nat) :
    NoPanic (checkBlit frame screen spec memoryLen) := by
  refine (noPanic_ensure _ _).bind fun _ => (noPanic_ensure _ _).bind fun _ =>
    (noPanic_ensure _ _).bind fun _ => (noPanic_ensure _ _).bind fun _ =>
    (noPanic_required _ _).bind fun _ => (noPanic_required _ _).bind fun _ =>
    (noPanic_ensure _ _).bind fun _ => (noPanic_ensure _ _).bind fun _ =>
    (noPanic_required _ _).bind fun _ => (noPanic_ensure _ _).bind fun _ =>
    (noPanic_required _ _).bind fun _ => (noPanic_required _ _).bind fun _ =>
    (noPanic_ensure _ _).bind fun _ => (noPanic_required _ _).bind fun _ =>
    (noPanic_required _ _).bind fun _ => (noPanic_ensure _ _).bind fun _ => noPanic_ok _

section Blit

variable [Platform] {f : Frame} {frameId : UInt64} {screen : ScreenLayout}
  {spec : FramebufferSpec} {memory : List UInt8}

/-- A blit that succeeds has passed its checks. -/
theorem blits_of_blitRemote {frame : RemoteFrame} {region : ScreenRect}
    (h : (blitRemote frame screen spec memory).1 = .ok region) :
    ∃ firstX firstY stop, Blits frame screen spec memory.length firstX firstY stop := by
  rw [blitRemote] at h
  split at h
  · cases h
  · next firstX firstY hc =>
      obtain ⟨stop, hb⟩ := checkBlit_eq_ok.mp hc
      exact ⟨firstX, firstY, stop, hb⟩

section Exact

variable {w h : UInt16} (hl : ScreenLayout.new w h = some screen) {firstX firstY stop : Nat}
  (hb : Blits (RemoteFrame.ofFrame frameId f) screen spec memory.length firstX firstY stop)

include hl hb

/-- The viewport starts where the visible screen does. -/
theorem Blits.first_eq : firstX = spec.xoffset.toNat ∧ firstY = spec.yoffset.toNat := by
  obtain ⟨hx, hy, -⟩ := ScreenLayout.new_spec hl
  constructor
  · rw [hb.firstX_eq, hx, UInt16.toNat_zero, Nat.add_zero]
  · rw [hb.firstY_eq, hy, UInt16.toNat_zero, Nat.add_zero]

/-- A row of the viewport ends inside its line. -/
theorem Blits.line_ge_width : spec.xoffset.toNat + f.width.toNat ≤ spec.lineLength := by
  have hwidth : f.width = screen.physicalSize.1 :=
    hb.size.1.trans (ScreenLayout.sizes hl).remote_width
  have hvisible : spec.visibleWidth.toNat = f.width.toNat := by
    rw [hwidth, hb.visible.1]
    rfl
  have hright := hb.right_le
  have hline := hb.line_ge
  omega

/-- **What a blit writes** where its checks hold. -/
theorem Blits.exact :
    BlitExact f spec memory (writeRows memory (firstY * spec.lineLength + firstX) spec.lineLength
      f.height.toNat (frameRow f)) := by
  have hline := hb.line_ge_width hl
  obtain ⟨rfl, rfl⟩ := hb.first_eq hl
  have hfit := hb.fits rfl (by omega)
  have hindex : ∀ x y, blitIndex spec x y =
      spec.yoffset.toNat * spec.lineLength + spec.xoffset.toNat + y * spec.lineLength + x := by
    intro x y
    rw [blitIndex, Nat.add_mul]
    omega
  constructor
  case length => exact length_writeRows hfit
  case pixel =>
      intro x y hx hy
      have hrow : y.toNat < f.height.toNat := hy
      have hcolumn : x.toNat < f.width.toNat := hx
      rw [hindex, getElem?_writeRows_inside hfit hrow hcolumn]
      exact getElem?_frameRow hx hy
  case distinct =>
      intro x y x' y' hx _ hx' _ h
      have hx : x.toNat < f.width.toNat := hx
      have hx' : x'.toNat < f.width.toNat := hx'
      rw [blitIndex, blitIndex, Nat.add_assoc, Nat.add_assoc] at h
      obtain ⟨hrow, hcolumn⟩ := index_inj (by omega) (by omega) h
      exact ⟨UInt16.toNat_inj.mp (by omega), UInt16.toNat_inj.mp (by omega)⟩
  case other =>
      intro i hi
      refine getElem?_writeRows_of_ne hfit fun c r hc hr => ?_
      have hx : (UInt16.ofNat c).toNat = c :=
        UInt16.toNat_ofNat_of_lt' (hc.trans f.width.toNat_lt)
      have hy : (UInt16.ofNat r).toNat = r :=
        UInt16.toNat_ofNat_of_lt' (hr.trans f.height.toNat_lt)
      have hne := hi (UInt16.ofNat c) (UInt16.ofNat r)
        (UInt16.lt_iff_toNat_lt.mpr (by rwa [hx])) (UInt16.lt_iff_toNat_lt.mpr (by rwa [hy]))
      rwa [hx, hy, hindex] at hne

end Exact

end Blit

/-! ### Blits -/

/-- **A blit is exact, and all or nothing.**  It does not panic; a blit that fails leaves the
memory as it was, and one that succeeds puts every pixel of the frame at its place. -/
theorem blit_exact [Platform] {w h : UInt16} {screen : ScreenLayout}
    (hl : ScreenLayout.new w h = some screen) {frameId : UInt64} {width height : UInt16}
    {pixelFormat : PixelFormat} {stride : Nat} {pixels : List UInt8} {frame : RemoteFrame}
    (hframe : RemoteFrame.new frameId width height pixelFormat stride pixels = .ok frame)
    (spec : FramebufferSpec) (memory : List UInt8) :
    ∃ f : Frame, frame = .ofFrame frameId f ∧
      NoPanic (blitRemote frame screen spec memory).1 ∧
      (∀ e, (blitRemote frame screen spec memory).1 = .error e →
        (blitRemote frame screen spec memory).2 = memory) ∧
      ∀ region, (blitRemote frame screen spec memory).1 = .ok region →
        region = screen.remoteViewport ∧
          BlitExact f spec memory (blitRemote frame screen spec memory).2 := by
  obtain ⟨-, f, rfl⟩ := RemoteFrame.new_eq_ok.mp hframe
  refine ⟨f, rfl, ?_⟩
  cases hc : checkBlit (.ofFrame frameId f) screen spec memory.length with
  | error e =>
      have hblit : blitRemote (.ofFrame frameId f) screen spec memory = (.error e, memory) := by
        rw [blitRemote, hc]
      rw [hblit]
      refine ⟨(noPanic_checkBlit _ _ _ _).error hc, fun _ _ => rfl, ?_⟩
      intro region h
      cases h
  | ok first =>
      obtain ⟨stop, hb⟩ := checkBlit_eq_ok.mp hc
      rw [blitRemote_ofFrame hb]
      refine ⟨noPanic_ok _, ?_, ?_⟩
      · intro e h
        cases h
      · intro region h
        cases h
        exact ⟨rfl, hb.exact hl⟩

/-- A viewport of two rows of ten columns. -/
def pageScreen : ScreenLayout := ⟨(10, 74), ⟨0, 0, 10, 2⟩, ⟨0, 2, 10, 72⟩⟩

/-- It starts at column 1 of row 2 of lines of 13 bytes. -/
def pageSpec : FramebufferSpec where
  visibleWidth := 10
  visibleHeight := 74
  virtualWidth := 12
  virtualHeight := 80
  xoffset := 1
  yoffset := 2
  lineLength := 13
  memoryLen := 1040
  kind := FB_TYPE_PACKED_PIXELS
  visual := FB_VISUAL_MONO10
  bitsPerPixel := 8
  grayscale := 1
  nonstd := 0

/-- The visible page, all `9`. -/
def page : List UInt8 := List.replicate 988 9

/-- Two rows of ten grays. -/
def grayPage : RemoteFrame :=
  ⟨7, 10, 2, .gray8, 10, [0, 1, 2, 3, 4, 5, 6, 7, 8, 9, 10, 11, 12, 13, 14, 15, 16, 17, 18, 19]⟩

/-- Ten pixels in two bytes, and six bits that are none. -/
def monoPage : RemoteFrame := ⟨8, 10, 2, .mono1, 2, [0b10110011, 0b01000000, 0b00001111, 0b11000000]⟩

theorem length_page : page.length = 988 := List.length_replicate

/-- Both frames pass the checks of a blit. -/
theorem blits_page {frame : RemoteFrame} (hframe : frame = grayPage ∨ frame = monoPage) :
    ∃ f stop, frame = .ofFrame frame.frameId f ∧
      @Blits .usize64 (.ofFrame frame.frameId f) pageScreen pageSpec 988 1 2 stop := by
  let platform : Platform := .usize64
  obtain ⟨f, hf⟩ : ∃ f, frame = .ofFrame frame.frameId f := by
    rcases hframe with rfl | rfl
    · exact (RemoteFrame.new_eq_ok.mp (rfl : RemoteFrame.new 7 10 2 .gray8 10 grayPage.pixels =
        .ok grayPage)).2
    · exact (RemoteFrame.new_eq_ok.mp (rfl : RemoteFrame.new 8 10 2 .mono1 2 monoPage.pixels =
        .ok monoPage)).2
  have hcheck : checkBlit frame pageScreen pageSpec 988 = .ok (1, 2) := by
    rcases hframe with rfl | rfl
    · rfl
    · rfl
  obtain ⟨stop, hb⟩ := checkBlit_eq_ok.mp hcheck
  exact ⟨f, stop, hf, hf ▸ hb⟩

theorem blitRemote_page {frame : RemoteFrame} (hframe : frame = grayPage ∨ frame = monoPage) :
    (@blitRemote .usize64 frame pageScreen pageSpec page).1 = .ok pageScreen.remoteViewport := by
  let platform : Platform := .usize64
  obtain ⟨f, stop, hf, hb⟩ := blits_page hframe
  rw [← length_page] at hb
  rw [hf, blitRemote_ofFrame hb]

/-- A frame of each format. -/
theorem blit_exact_page :
    (∃ f : Frame, grayPage = .ofFrame 7 f ∧
      BlitExact f pageSpec page (@blitRemote .usize64 grayPage pageScreen pageSpec page).2) ∧
    ∃ f : Frame, monoPage = .ofFrame 8 f ∧
      BlitExact f pageSpec page (@blitRemote .usize64 monoPage pageScreen pageSpec page).2 := by
  constructor
  · obtain ⟨f, hf, -, -, hok⟩ := @blit_exact .usize64 10 74 pageScreen (by decide) 7 10 2 .gray8 10
      grayPage.pixels grayPage rfl pageSpec page
    exact ⟨f, hf, (hok _ (blitRemote_page (.inl rfl))).2⟩
  · obtain ⟨f, hf, -, -, hok⟩ := @blit_exact .usize64 10 74 pageScreen (by decide) 8 10 2 .mono1 2
      monoPage.pixels monoPage rfl pageSpec page
    exact ⟨f, hf, (hok _ (blitRemote_page (.inr rfl))).2⟩

/-! ### Staging -/

/-- The rows, written in order. -/
def PreparedRemote.writeTo (p : PreparedRemote) (memory : List UInt8) : List UInt8 :=
  p.rows.foldl (fun m (offset, row) => splice m offset row) memory

/-- The lengths `prepare_remote` asks for. -/
structure StagingLen [Platform] (spec : FramebufferSpec) (mappedLen : Nat) : Prop where
  pos : 0 < mappedLen
  span : mappedLen = (spec.yoffset.toNat + spec.visibleHeight.toNat) * spec.lineLength
  memory_le : mappedLen ≤ spec.memoryLen
  isize_le : mappedLen ≤ isizeMax

section Staging

variable [Platform] {f : Frame} {frameId : UInt64} {screen : ScreenLayout}
  {spec : FramebufferSpec} {mappedLen : Nat}

/-- What was prepared had passed the checks of a blit. -/
theorem blits_of_prepareRemote {frame : RemoteFrame} {p : PreparedRemote}
    (h : prepareRemote frame screen spec mappedLen = .ok p) :
    StagingLen spec mappedLen ∧
      ∃ firstX firstY stop, Blits frame screen spec mappedLen firstX firstY stop := by
  rw [prepareRemote] at h
  obtain ⟨hpos, h⟩ := ensure_bind_eq_ok.mp h
  obtain ⟨bottom, hbottom, h⟩ := required_bind_eq_ok.mp h
  obtain ⟨expected, hexpected, h⟩ := required_bind_eq_ok.mp h
  obtain ⟨hspan, h⟩ := ensure_bind_eq_ok.mp h
  obtain ⟨⟨hmemory, hmax⟩, h⟩ := ensure_bind_eq_ok.mp h
  obtain ⟨region, hstage, -⟩ := bind_eq_ok.mp h
  obtain ⟨-, rfl⟩ := checkedAdd32_eq_some.mp hbottom
  obtain ⟨-, rfl⟩ := checkedMul_eq_some.mp hexpected
  have hblits := blits_of_blitRemote hstage
  rw [List.length_replicate] at hblits
  exact ⟨⟨hpos, hspan, hmemory, hmax⟩, hblits⟩

variable {w h : UInt16} (hl : ScreenLayout.new w h = some screen)

include hl

theorem exists_prepares (hlen : StagingLen spec mappedLen) {firstX firstY stop : Nat}
    (hb : Blits (RemoteFrame.ofFrame frameId f) screen spec mappedLen firstX firstY stop) :
    ∃ p, prepareRemote (RemoteFrame.ofFrame frameId f) screen spec mappedLen = .ok p ∧
      Prepares f screen spec mappedLen (firstY * spec.lineLength + firstX) p := by
  have hmemory : (List.replicate mappedLen (0 : UInt8)).length = mappedLen :=
    List.length_replicate
  have hline := (hmemory.symm ▸ hb :).line_ge_width hl
  exact prepareRemote_ofFrame hb hlen.pos hlen.span (by omega) hlen.memory_le hlen.isize_le

/-- **What is prepared is what a blit would write**, to any memory of the mapping's length. -/
theorem blitRemote_of_prepareRemote {p : PreparedRemote}
    (h : prepareRemote (RemoteFrame.ofFrame frameId f) screen spec mappedLen = .ok p)
    {memory : List UInt8} (hmemory : memory.length = mappedLen) :
    blitRemote (RemoteFrame.ofFrame frameId f) screen spec memory =
      (.ok p.region, p.writeTo memory) := by
  obtain ⟨hlen, firstX, firstY, stop, hb⟩ := blits_of_prepareRemote h
  obtain ⟨p', hp', hprepares⟩ := exists_prepares hl hlen hb
  obtain rfl := Except.ok.inj (h.symm.trans hp')
  rw [blitRemote_ofFrame (hmemory.symm ▸ hb), hprepares.region_eq, PreparedRemote.writeTo,
    hprepares.rows_eq, List.foldl_map]
  rfl

end Staging

/-- **Staging agrees with the direct blit**: in what it writes, and in when it succeeds. -/
theorem staged_blit [Platform] {w h : UInt16} {screen : ScreenLayout}
    (hl : ScreenLayout.new w h = some screen) {frameId : UInt64} {width height : UInt16}
    {pixelFormat : PixelFormat} {stride : Nat} {pixels : List UInt8} {frame : RemoteFrame}
    (hframe : RemoteFrame.new frameId width height pixelFormat stride pixels = .ok frame)
    (spec : FramebufferSpec) (mappedLen : Nat) {memory : List UInt8}
    (hmemory : memory.length = mappedLen) :
    (∀ p, prepareRemote frame screen spec mappedLen = .ok p →
      blitRemote frame screen spec memory = (.ok p.region, p.writeTo memory)) ∧
    (StagingLen spec mappedLen →
      ((∃ p, prepareRemote frame screen spec mappedLen = .ok p) ↔
        ∃ region, (blitRemote frame screen spec memory).1 = .ok region)) := by
  obtain ⟨-, f, rfl⟩ := RemoteFrame.new_eq_ok.mp hframe
  refine ⟨fun p hp => blitRemote_of_prepareRemote hl hp hmemory, fun hlen => ⟨?_, ?_⟩⟩
  · rintro ⟨p, hp⟩
    exact ⟨p.region, congrArg Prod.fst (blitRemote_of_prepareRemote hl hp hmemory)⟩
  · rintro ⟨region, hblit⟩
    obtain ⟨firstX, firstY, stop, hb⟩ := blits_of_blitRemote hblit
    rw [hmemory] at hb
    obtain ⟨p, hp, -⟩ := exists_prepares hl hlen hb
    exact ⟨p, hp⟩

theorem stagingLen_page : @StagingLen .usize64 pageSpec 988 :=
  @StagingLen.mk .usize64 _ _ (by decide) (by decide) (by decide) (by decide)

/-- A frame of each format, prepared and written as it would have been blitted. -/
theorem staged_blit_page :
    (∃ p, @prepareRemote .usize64 grayPage pageScreen pageSpec 988 = .ok p ∧
      @blitRemote .usize64 grayPage pageScreen pageSpec page = (.ok p.region, p.writeTo page)) ∧
    ∃ p, @prepareRemote .usize64 monoPage pageScreen pageSpec 988 = .ok p ∧
      @blitRemote .usize64 monoPage pageScreen pageSpec page = (.ok p.region, p.writeTo page) := by
  constructor
  · obtain ⟨hwritten, hiff⟩ := @staged_blit .usize64 10 74 pageScreen (by decide) 7 10 2 .gray8 10
      grayPage.pixels grayPage rfl pageSpec 988 page length_page
    obtain ⟨p, hp⟩ := (hiff stagingLen_page).mpr ⟨_, blitRemote_page (.inl rfl)⟩
    exact ⟨p, hp, hwritten p hp⟩
  · obtain ⟨hwritten, hiff⟩ := @staged_blit .usize64 10 74 pageScreen (by decide) 8 10 2 .mono1 2
      monoPage.pixels monoPage rfl pageSpec 988 page length_page
    obtain ⟨p, hp⟩ := (hiff stagingLen_page).mpr ⟨_, blitRemote_page (.inr rfl)⟩
    exact ⟨p, hp, hwritten p hp⟩

end PaperPad.Mxcfb
