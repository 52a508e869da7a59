import PaperPad.Host.Stream

/-!
# Host — Authority

What the sender retains.  The authoritative descriptor is that of the last frame fully sent, and
the comparison baseline, when there is one, is that frame; so a Hello gets back the last frame
when it is the host's own and still fits the device, and otherwise the application.
-/

namespace PaperPad.Host

open Protocol Transition

/-- An encoding determines its frame. -/
theorem encodeV2Frame_injective {i j : UInt64} {f g : Frame} {bytes : List UInt8}
    (hf : encodeV2Frame i f = .ok bytes) (hg : encodeV2Frame j g = .ok bytes) : i = j ∧ f = g := by
  let _ : Platform := .usize64
  have h₁ := decodeNext_encode (.frame (framePayload i f)) bytes [] ⟨.frame i f, rfl, hf⟩
  have h₂ := decodeNext_encode (.frame (framePayload j g)) bytes [] ⟨.frame j g, rfl, hg⟩
  have he := congrArg Prod.fst (Option.some.inj (h₁.symm.trans h₂))
  have hm : Message.frame i f = Message.frame j g := payload_injective he
  exact Message.frame.inj hm

section Retained

variable [Platform]

/-- A descriptor has the size and the format of its frame. -/
theorem Describes.dimensions {f : Frame} {source : AuthoritativeFrame} (h : Describes f source) :
    source.dimensions = (f.width, f.height) ∧ source.pixelFormat = f.pixelFormat := by
  cases source with
  | application v =>
      obtain ⟨g, rfl, rfl⟩ := h
      exact ⟨rfl, rfl⟩
  | diagnostic d =>
      obtain ⟨hd, hf⟩ := DiagnosticFrame.frame_dimensions h
      exact ⟨hd.symm, hf.symm⟩
  | jpeg g => cases h; exact ⟨rfl, rfl⟩
  | nowPlaying g => cases h; exact ⟨rfl, rfl⟩

/-- A descriptor that is no application has one frame. -/
theorem Describes.unique {f g : Frame} {source : AuthoritativeFrame}
    (hs : source.applicationViewport = none) (hf : Describes f source) (hg : Describes g source) :
    f = g := by
  cases source with
  | application v => cases hs
  | diagnostic d => exact Except.ok.inj (hf.symm.trans hg)
  | jpeg _ | nowPlaying _ => exact hf.trans hg.symm

/-- The frame was a diagnostic, a JPEG or Now Playing. -/
def Delivery.FromHost (d : Delivery) : Prop :=
  ∃ source, d.source = some source ∧ source.applicationViewport = none

/-- The last frame fully sent is the host's own, of this size and in one of these formats. -/
def Retainable (s : FrameSender) (v : Viewport) (formats : V2PixelFormats) (f : Frame) : Prop :=
  ∃ d, s.sent.getLast? = some d ∧ d.FromHost ∧ encodeV2Frame d.frameId f = .ok d.bytes ∧
    (f.width, f.height) = v ∧ formats.supports f.pixelFormat = true

/-- The retained descriptor of a reachable sender describes the last frame sent. -/
theorem SenderInv.authoritative_sent {s : FrameSender} (h : SenderInv s)
    {source : AuthoritativeFrame} (ha : s.state.authoritative = some source) :
    ∃ d f, s.sent.getLast? = some d ∧ d.source = some source ∧ Describes f source ∧
      encodeV2Frame d.frameId f = .ok d.bytes := by
  rw [h.authoritative] at ha
  obtain ⟨d, hd, hsource⟩ := Option.bind_eq_some_iff.mp ha
  obtain ⟨source', f, hs', hdesc, hf⟩ := h.encoded d (List.mem_of_getLast? hd)
  obtain rfl := Option.some.inj (hs'.symm.trans hsource)
  exact ⟨d, f, hd, hsource, hdesc, hf⟩

/-- What a Hello has back from a reachable sender. -/
theorem SenderInv.retained {s : FrameSender} (h : SenderInv s) {v : Viewport}
    {formats : V2PixelFormats} {f : Frame} {source : AuthoritativeFrame}
    (hsource : source = (s.retainedFrame v formats).getD (.application v))
    (hf : Describes f source) :
    (∀ g, Retainable s v formats g → f = g) ∧
      ((∀ g, ¬ Retainable s v formats g) → source = .application v) := by
  constructor
  · rintro g ⟨d, hd, ⟨source', hs', hhost⟩, hg, hv, hfmt⟩
    obtain ⟨source'', g', hs'', hdesc, hg'⟩ := h.encoded d (List.mem_of_getLast? hd)
    obtain rfl := Option.some.inj (hs''.symm.trans hs')
    obtain ⟨-, rfl⟩ := encodeV2Frame_injective hg' hg
    have hret : s.retainedFrame v formats = some source'' := by
      rw [FrameSender.retainedFrame, h.authoritative, hd]
      refine Option.filter_eq_some_iff.mpr ⟨hs'', ?_⟩
      rw [hdesc.dimensions.1, hdesc.dimensions.2]
      exact decide_eq_true ⟨hv, hfmt⟩
    rw [hret] at hsource
    obtain rfl : source = source'' := hsource
    exact hf.unique hhost hdesc
  · intro hnone
    cases hr : s.retainedFrame v formats with
    | none => rw [hsource, hr]; rfl
    | some source' =>
        obtain ⟨ha, hmatch⟩ := Option.filter_eq_some_iff.mp hr
        simp only [decide_eq_true_eq] at hmatch
        rw [hr] at hsource
        obtain rfl : source = source' := hsource
        cases hs : source.applicationViewport with
        | some w =>
            cases source with
            | application w => rw [← hmatch.1]; rfl
            | diagnostic _ | jpeg _ | nowPlaying _ => cases hs
        | none =>
            -- then it stands for the last frame sent, which fits
            obtain ⟨d, g, hd, hsrc, hdesc, hg⟩ := h.authoritative_sent ha
            refine absurd ⟨d, hd, ⟨source, hsrc, hs⟩, hg, ?_, ?_⟩ (hnone g)
            · rw [← hdesc.dimensions.1, hmatch.1]
            · rw [← hdesc.dimensions.2]; exact hmatch.2

/-- Every frame sent so far has an id below the next. -/
theorem SenderInv.id_lt {s : FrameSender} (h : SenderInv s) {d : Delivery} (hd : d ∈ s.sent) :
    d.frameId < s.state.nextFrameId := by
  have hm : d.frameId.toNat ∈ s.sent.map (·.frameId.toNat) := List.mem_map.mpr ⟨d, hd, rfl⟩
  rw [h.ids, List.mem_range'_1] at hm
  rw [UInt64.lt_iff_toNat_lt, h.nextId]
  omega

/-- **Reconnect receives the authoritative frame.**  In every state reached by sender operations
and connection events: an operation that sends nothing keeps the next id and the authoritative
descriptor; a comparison baseline is the last frame fully sent and the authoritative one; and a
Hello that is answered gets, under a fresh id, the last frame fully sent if that was the host's
own and fits the Hello, and the application of its viewport otherwise. -/
theorem authoritative_frame {es : List SenderEvent} {s : FrameSender}
    (h : Run (Fn senderNext) {} es s) :
    (∀ e, (senderStep s e).2.sent? = none →
      (senderStep s e).1.state.nextFrameId = s.state.nextFrameId ∧
        (senderStep s e).1.state.authoritative = s.state.authoritative) ∧
    (∀ g, s.state.lastApplicationFrame = some g →
      s.state.authoritative = some (.application (g.width, g.height)) ∧
        ∃ d, s.sent.getLast? = some d ∧ encodeV2Frame d.frameId (.mono1 g) = .ok d.bytes) ∧
    ∀ ui v formats env t r, s.sendForHello ui v formats env = (t, .ok (some r)) →
      ∃ d f, t.sent = s.sent ++ [d] ∧
        wholeWrites t.current.wire =
          wholeWrites s.current.wire ++ [⟨d.token, d.bytes, true⟩] ∧
        d.frameId = r.sent.frameId ∧ (∀ d' ∈ s.sent, d'.frameId < d.frameId) ∧
        encodeV2Frame d.frameId f = .ok d.bytes ∧
        (∀ g, Retainable s v formats g → f = g) ∧
        ((∀ g, ¬ Retainable s v formats g) →
          ∃ g, renderApplicationBounded ui v.1 v.2 = .ok g ∧ f = .mono1 g) := by
  have inv := senderInv h
  refine ⟨fun e he => ?_, fun g hg => ?_, fun ui v formats env t r hk => ?_⟩
  · rcases senderStep_spec s e with ⟨-, env, hk⟩ | ⟨r, env, source, f, hr, -⟩
    · exact ⟨hk.nextId_eq, hk.authoritative_eq⟩
    · rw [he] at hr; cases hr
  · obtain ⟨d, hd, hsource, hbytes⟩ := inv.last g hg
    refine ⟨?_, d, hd, hbytes⟩
    rw [inv.authoritative, hd]
    exact hsource
  · rcases sendForHello_spec hk with ⟨-, hn⟩ | ⟨r', f, hr, -, hframe, hs, happ⟩
    · exact absurd rfl (hn r)
    · obtain rfl := Option.some.inj (Except.ok.inj hr)
      have inv' := inv.sends hs
      obtain ⟨a, bytes, -, -, -, hbytes, -, hsent⟩ := hs.delivered
      obtain ⟨hret, hother⟩ := inv.retained hframe hs.describes
      refine ⟨_, f, hsent, ?_, hs.id_eq.symm, fun d hd => inv.id_lt hd, hbytes, hret,
        fun hnone => ?_⟩
      · rw [inv'.whole, inv.whole, hsent, List.map_append]
        rfl
      · exact happ v (hother hnone)

end Retained

/-- A Gray8 dot is sent, and its connection is replaced. -/
def dotRun : List SenderEvent :=
  [.connection (.install .GRAY8 (some (1, 1))), .jpeg grayDot ⟨0, (1, 1)⟩ {},
    .connection (.install .GRAY8 (some (1, 1)))]

theorem authoritative_frame_dot :
    ∃ s t r d, exec (@senderNext .usize64) {} dotRun = some s ∧
      @FrameSender.sendForHello .usize64 s {} (1, 1) .GRAY8 {} = (t, .ok (some r)) ∧
      t.sent = s.sent ++ [d] ∧ encodeV2Frame 2 (.gray8 grayDot) = .ok d.bytes := by
  obtain ⟨s, hs⟩ : ∃ s, exec (@senderNext .usize64) {} dotRun = some s := ⟨_, rfl⟩
  have h := @authoritative_frame .usize64 _ _ (run_of_exec hs)
  obtain ⟨t, r, hk, hid⟩ : ∃ t r, @FrameSender.sendForHello .usize64 s {} (1, 1) .GRAY8 {} =
      (t, .ok (some r)) ∧ r.sent.frameId = 2 := by
    obtain rfl := Option.some.inj hs
    exact ⟨_, _, rfl, rfl⟩
  have hret : Retainable s (1, 1) .GRAY8 (.gray8 grayDot) := by
    obtain rfl := Option.some.inj hs
    exact ⟨_, rfl, ⟨_, rfl, rfl⟩, rfl, rfl, rfl⟩
  obtain ⟨d, f, hsent, -, hd, -, hbytes, hf, -⟩ := h.2.2 {} (1, 1) .GRAY8 {} t r hk
  obtain rfl := hf _ hret
  rw [hd, hid] at hbytes
  exact ⟨s, t, r, d, hs, hk, hsent, hbytes⟩

end PaperPad.Host
