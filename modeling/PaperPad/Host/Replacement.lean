import PaperPad.Host.Authority
import PaperPad.Host.Session

/-!
# Host — Replacement

When a frame of the connection thread goes out.  The Hello frame and the replacement frame are
sends of a descriptor without a target, so whether they are sent is decided by the state before
them and by how the write ends (`Sendable`): `sendAuthoritative_sent_iff`.

`replaceHelloFrame_cases` and `replaceApplicationFrame_cases` say what is left behind either way.
-/

namespace PaperPad.Host

open Protocol

/-! ### Encodings -/

/-- The application of a viewport can be rendered. -/
def Renderable (v : Viewport) : Prop := v.1 ≠ 0 ∧ v.2 ≠ 0 ∧ FrameFits v.1 v.2

instance (v : Viewport) : Decidable (Renderable v) := inferInstanceAs (Decidable (_ ∧ _))

/-- Whether a frame can be encoded does not depend on its id. -/
theorem exists_encodeV2Frame_iff {i : UInt64} {f : Frame} :
    (∃ bytes, encodeV2Frame i f = .ok bytes) ↔
      V2_FRAME_PREFIX_LEN + f.pixels.length ≤ V2_MAX_PAYLOAD_LEN := by
  have h : (Message.frame i f).Fits ↔ ∃ bytes, encodeV2Frame i f = .ok bytes := Message.fits_iff
  rw [← h, Message.Fits, Message.body, List.length_append, framePrefix_length]

theorem mono1_fits_iff {g : Mono1Frame} :
    V2_FRAME_PREFIX_LEN + (Frame.mono1 g).pixels.length ≤ V2_MAX_PAYLOAD_LEN ↔
      FrameFits g.width g.height := by
  have hlen : (Frame.mono1 g).pixels.length = mono1Stride g.width * g.height.toNat := by
    rw [← g.valid.stride_eq]
    exact g.valid.length_eq
  rw [hlen, FrameFits]

section Encodings

variable [Platform]

/-- The frame of an application that was encoded is of a viewport that can be rendered. -/
theorem Describes.renderable {i : UInt64} {f : Frame} {v : Viewport} {bytes : List UInt8}
    (h : Describes f (.application v)) (hb : encodeV2Frame i f = .ok bytes) : Renderable v := by
  obtain ⟨g, rfl, rfl⟩ := h
  exact ⟨g.valid.width_ne, g.valid.height_ne,
    mono1_fits_iff.mp (exists_encodeV2Frame_iff.mp ⟨bytes, hb⟩)⟩

/-- A rendering can be encoded. -/
theorem exists_encodeV2Frame_application {ui : ApplicationUi} {v : Viewport} {g : Mono1Frame}
    (h : renderApplicationBounded ui v.1 v.2 = .ok g) (i : UInt64) :
    ∃ bytes, encodeV2Frame i (.mono1 g) = .ok bytes := by
  obtain ⟨hw, hh⟩ := renderApplicationBounded_dimensions h
  have hr := (renderApplicationBounded_eq_ok_iff.mp ⟨g, h⟩).2.2
  exact exists_encodeV2Frame_iff.mpr (mono1_fits_iff.mpr (by rw [hw, hh]; exact hr))

end Encodings

/-! ### When a frame goes out -/

/-- A frame with this descriptor goes out: an id is left, the current connection has the format,
an application can be rendered, and the write does not fail. -/
structure Sendable (s : FrameSender) (source : AuthoritativeFrame) (outcome : WriteOutcome) :
    Prop where
  id_lt : s.state.nextFrameId.toNat + 1 < 2 ^ 64
  supported : (s.current.inner.any fun a => a.pixelFormats.supports source.pixelFormat) = true
  renderable : ∀ v, source.applicationViewport = some v → Renderable v
  accepted : outcome = .accepted

theorem FrameSender.sendLocked_sent {s : FrameSender} {source : AuthoritativeFrame}
    {outcome : WriteOutcome} {encode : UInt64 → Except String (List UInt8)} {bytes : List UInt8}
    (h : Sendable s source outcome)
    (hb : encode s.state.nextFrameId = .ok bytes) :
    ∃ r, (s.sendLocked source.pixelFormat none encode (some source) ⟨[], outcome⟩).2 =
      .ok (some r) := by
  obtain ⟨a, ha, hsup⟩ := (Option.any_eq_true _ _).mp h.supported
  simp only [sendLocked, if_neg (not_le.mpr h.id_lt), hb, applyAll, List.foldl_nil, h.accepted,
    CurrentConnection.forwardFrameInner_accepted ha hsup]
  exact ⟨_, rfl⟩

section Sent

variable [Platform] {s t : FrameSender} {source : AuthoritativeFrame} {outcome : WriteOutcome}

theorem sendApplicationLocked_sent {ui : ApplicationUi} {v : Viewport}
    (h : Sendable s (.application v) outcome) :
    ∃ r, (s.sendApplicationLocked ui v false ⟨[], outcome⟩).2 = .ok (.sent r) := by
  obtain ⟨g, hg⟩ : ∃ g, renderApplicationBounded ui v.1 v.2 = .ok g :=
    renderApplicationBounded_eq_ok_iff.mpr (h.renderable v rfl)
  obtain ⟨bytes, hb⟩ := exists_encodeV2Frame_application hg s.state.nextFrameId
  have he : FrameSender.encodeFrame "failed to encode application frame" (.mono1 g)
      s.state.nextFrameId = .ok bytes := encodeFrame_eq_ok.mpr hb
  obtain ⟨r, hr⟩ := FrameSender.sendLocked_sent h he
  have hactive : s.current.isActive = true := by
    obtain ⟨a, ha, -⟩ := (Option.any_eq_true _ _).mp h.supported
    rw [CurrentConnection.isActive, ha]
    rfl
  generalize hl : s.sendLocked _ none _ _ _ = x at hr
  obtain ⟨u, x⟩ := x
  obtain rfl : x = .ok (some r) := hr
  have hl' : s.sendLocked .mono1 none _ _ _ = _ := hl
  simp only [FrameSender.sendApplicationLocked, hg, hactive, hl', not_true_eq_false, if_false,
    Bool.false_eq_true, false_and]
  exact ⟨r, rfl⟩

/-- What was sent could be. -/
theorem Sends.sendable {f : Frame} {r : SentFrame} (h : Sends s ⟨[], outcome⟩ source f r t) :
    Sendable s source outcome := by
  obtain ⟨a, bytes, ha, hsup, hout, hbytes, -, -⟩ := h.delivered
  refine ⟨h.id_lt, ?_, fun v hv => ?_, hout⟩
  · have ha' : s.current.inner = some a := ha
    rw [ha']
    exact hsup
  · cases source with
    | application w =>
        obtain rfl := Option.some.inj hv
        exact h.describes.renderable hbytes
    | diagnostic _ | jpeg _ | nowPlaying _ => cases hv

/-- A descriptor whose frame, if it is not the application's, was encoded before. -/
def Encoded (source : AuthoritativeFrame) : Prop :=
  source.applicationViewport = none →
    ∃ (i : UInt64) (f : Frame) (bytes : List UInt8),
      Describes f source ∧ encodeV2Frame i f = .ok bytes

/-- **A frame is sent exactly when it can be.** -/
theorem sendAuthoritative_sent_iff {ui : ApplicationUi} (hsource : Encoded source) :
    (∃ r, (s.sendAuthoritative ui source ⟨[], outcome⟩).2 = .ok (some r)) ↔
      Sendable s source outcome := by
  constructor
  · rintro ⟨r, hr⟩
    obtain ⟨t, x, h⟩ : ∃ t x, s.sendAuthoritative ui source ⟨[], outcome⟩ = (t, x) := ⟨_, _, rfl⟩
    rw [h] at hr
    rcases sendAuthoritative_spec h with ⟨-, hn⟩ | ⟨r', f, -, hs, -⟩
    · exact absurd hr (hn r)
    · exact hs.sendable
  · intro h
    -- what was encoded under one id is encoded under the next
    have again : source.applicationViewport = none →
        ∃ f bytes, Describes f source ∧ encodeV2Frame s.state.nextFrameId f = .ok bytes := by
      intro hn
      obtain ⟨i, f, b, hd, hb⟩ := hsource hn
      obtain ⟨bytes, hb⟩ := exists_encodeV2Frame_iff.mpr (exists_encodeV2Frame_iff.mp ⟨b, hb⟩)
      exact ⟨f, bytes, hd, hb⟩
    cases source with
    | application v =>
        obtain ⟨r, hr⟩ := sendApplicationLocked_sent h
        exact ⟨r, unsuppressed_eq_some.mpr hr⟩
    | diagnostic d =>
        obtain ⟨f, bytes, hd, hb⟩ := again rfl
        have he : d.encode s.state.nextFrameId = .ok bytes :=
          DiagnosticFrame.encode_eq_ok.mpr ⟨f, hd, hb⟩
        have hl := FrameSender.sendLocked_sent h he
        exact hl
    | jpeg g | nowPlaying g =>
        obtain ⟨f, bytes, rfl, hb⟩ := again rfl
        have he : FrameSender.encodeFrame "failed to encode retained Gray8 frame" (.gray8 g)
            s.state.nextFrameId = .ok bytes := encodeFrame_eq_ok.mpr hb
        have hl := FrameSender.sendLocked_sent h he
        exact hl

end Sent

/-! ### The frames of the connection thread -/

/-- What a Hello gets: the retained descriptor, or the application. -/
def helloSource (s : FrameSender) (v : Viewport) (formats : V2PixelFormats) : AuthoritativeFrame :=
  (s.retainedFrame v formats).getD (.application v)

section Replace

variable [Platform] {s t : FrameSender} {source : AuthoritativeFrame} {outcome : WriteOutcome}

theorem SenderInv.encoded_helloSource (h : SenderInv s) (v : Viewport) (formats : V2PixelFormats) :
    Encoded (helloSource s v formats) := by
  intro hn
  simp only [helloSource] at hn ⊢
  cases hr : s.retainedFrame v formats with
  | none => rw [hr] at hn; cases hn
  | some source =>
      obtain ⟨ha, -⟩ := Option.filter_eq_some_iff.mp hr
      obtain ⟨d, f, -, -, hd, hb⟩ := h.authoritative_sent ha
      exact ⟨d.frameId, f, d.bytes, hd, hb⟩

/-- The Hello frame is sent and becomes the picture taps are resolved against, or there is none. -/
theorem replaceHelloFrame_cases {session session' : Session} (hi : SenderInv s)
    (h : replaceHelloFrame s session session.reportedViewport session.pixelFormats ⟨[], outcome⟩ =
      (t, session')) :
    (∃ source f r, source = helloSource s session.reportedViewport session.pixelFormats ∧
      Sends s ⟨[], outcome⟩ source f r t ∧
      session' = { session with
        renderedViewport := source.applicationViewport
        input := session.input.setViewport source.applicationViewport }) ∨
    (¬ Sendable s (helloSource s session.reportedViewport session.pixelFormats) outcome ∧
      Keeps s ⟨[], outcome⟩ t ∧
      session' = { session with
        renderedViewport := none
        input := session.input.setViewport none }) := by
  have hsent : (∃ r, (s.sendAuthoritative {}
        (helloSource s session.reportedViewport session.pixelFormats) ⟨[], outcome⟩).2 =
          .ok (some r)) ↔
      Sendable s (helloSource s session.reportedViewport session.pixelFormats) outcome :=
    sendAuthoritative_sent_iff (hi.encoded_helloSource _ _)
  obtain ⟨u, x, hx⟩ : ∃ u x, s.sendForHello {} session.reportedViewport session.pixelFormats
      ⟨[], outcome⟩ = (u, x) := ⟨_, _, rfl⟩
  simp only [replaceHelloFrame, hx] at h
  obtain ⟨rfl, rfl⟩ := Prod.mk.inj h
  rcases sendForHello_spec hx with ⟨hk, hn⟩ | ⟨r, f, rfl, -, hframe, hs, -⟩
  · refine .inr ⟨fun hsend => ?_, hk, ?_⟩
    · obtain ⟨r, hr⟩ := hsent.mpr hsend
      have hx₂ : _ = x := congrArg Prod.snd hx
      exact hn _ (hx₂.symm.trans (map_eq_some.mpr ⟨r, hr, rfl⟩))
    · rcases error_or_none hn with ⟨e, rfl⟩ | rfl <;> rfl
  · refine .inl ⟨r.frame, f, r.sent, hframe, hs, ?_⟩
    rw [← hs.viewport_eq]
    rfl

/-- The replacement frame is sent and becomes the picture taps are resolved against, or there is
none. -/
theorem replaceApplicationFrame_cases {session session' : Session} {v : Viewport}
    (h : replaceApplicationFrame s session v ⟨[], outcome⟩ = (t, session')) :
    (∃ f r, Sends s ⟨[], outcome⟩ (.application v) f r t ∧
      session' = { session with
        renderedViewport := some v, input := session.input.setViewport (some v) }) ∨
    (¬ Sendable s (.application v) outcome ∧ Keeps s ⟨[], outcome⟩ t ∧
      session' = { session with
        renderedViewport := none
        input := session.input.setViewport none }) := by
  obtain ⟨u, x, hx⟩ : ∃ u x, s.sendApplicationForViewportChange {} v ⟨[], outcome⟩ = (u, x) :=
    ⟨_, _, rfl⟩
  simp only [replaceApplicationFrame, hx] at h
  obtain ⟨rfl, rfl⟩ := Prod.mk.inj h
  rcases sendApplicationForViewportChange_spec hx with ⟨hk, hn⟩ | ⟨r, g, rfl, -, hs⟩
  · refine .inr ⟨fun hsend => ?_, hk, ?_⟩
    · -- clearing the baseline first takes nothing away
      have hsend' : Sendable { s with state := { s.state with lastApplicationFrame := none } }
          (.application v) outcome :=
        ⟨hsend.id_lt, hsend.supported, hsend.renderable, hsend.accepted⟩
      obtain ⟨r, hr⟩ := sendApplicationLocked_sent hsend'
      have hx₂ : _ = x := congrArg Prod.snd hx
      exact hn r (hx₂.symm.trans (unsuppressed_eq_some.mpr hr))
    · rcases error_or_none hn with ⟨e, rfl⟩ | rfl <;> rfl
  · exact .inl ⟨_, r, hs, rfl⟩

end Replace

end PaperPad.Host
