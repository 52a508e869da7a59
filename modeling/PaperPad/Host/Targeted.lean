import PaperPad.Host.Sender
import PaperPad.Support.Transition

/-!
# Host — Targeted

Frames rendered for a target.  A producer takes the token and the viewport of the current
connection, renders, which may take any time, and forwards the frame to that target.  Meanwhile
connections are installed, resized and cleared, and other frames are forwarded.

* `Past`: a token that is no longer current is never current again.
* `targeted_frames`: a frame reported sent was written to the connection of its target, current all
  the time, in a format it advertised and at its viewport; and a token of a replaced connection
  changes nothing.
-/

namespace PaperPad.Host

open Protocol Transition

/-! ### Runs of the current connection -/

/-- An operation on the current connection. -/
inductive CurrentEvent where
  | connection (event : ConnectionEvent)
  | forward (bytes : List UInt8) (pixelFormat : PixelFormat) (target : Option FrameTarget)
      (outcome : WriteOutcome)
  deriving DecidableEq

/-- The connection after the operation. -/
def CurrentEvent.apply (c : CurrentConnection) : CurrentEvent → CurrentConnection
  | connection event => event.apply c
  | forward bytes pixelFormat target outcome =>
      (c.forwardFrameInner bytes pixelFormat target outcome).1

/-- The same as a step. -/
def currentNext (c : CurrentConnection) (e : CurrentEvent) : Option CurrentConnection :=
  some (e.apply c)

/-- A frame of the size of its target. -/
structure Rendered (target : FrameTarget) where
  frame : Frame
  size : (frame.width, frame.height) = target.viewport

/-! ### Tokens -/

variable {c d : CurrentConnection}

theorem Wired.next (h : Wired c) (e : CurrentEvent) : Wired (e.apply c) := by
  cases e with
  | connection event => exact h.apply event
  | forward bytes pixelFormat target outcome => exact h.forward bytes pixelFormat target outcome

/-- The token was issued, and is not current. -/
structure Past (token : Nat) (c : CurrentConnection) : Prop where
  issued : token < c.issued
  gone : ∀ a, c.inner = some a → a.token ≠ token

theorem Past.next {token : Nat} (h : Past token c) (e : CurrentEvent) :
    Past token (e.apply c) := by
  cases e with
  | connection event =>
      obtain ⟨-, hissued, hinner⟩ := event.apply_spec c
      refine ⟨lt_of_lt_of_le h.issued hissued, fun a ha => ?_⟩
      rcases hinner a ha with ⟨-, hle⟩ | ⟨b, hb, hbt, -⟩
      · -- a new token
        have := h.issued
        omega
      · exact hbt ▸ h.gone b hb
  | forward bytes pixelFormat target outcome =>
      simp only [CurrentEvent.apply]
      rcases c.forwardFrameInner_cases bytes pixelFormat target outcome with
        ⟨r, -, hr⟩ | ⟨a, -, -, -, hr⟩ | ⟨a, written, error, -, hr⟩ <;> rw [hr]
      · exact h
      · exact ⟨h.issued, h.gone⟩
      · exact ⟨h.issued, by simp⟩

theorem Past.run {token : Nat} {es : List CurrentEvent} (h : Past token c)
    (k : Run (Fn currentNext) c es d) : Past token d :=
  k.invariant (fun ih k => Option.some.inj k ▸ ih.next _) h

/-- A token that was issued is current, or past. -/
theorem current_or_past {token : Nat} (h : token < c.issued) :
    (∃ a, c.inner = some a ∧ a.token = token) ∨ Past token c := by
  by_cases hc : ∃ a, c.inner = some a ∧ a.token = token
  · exact .inl hc
  · exact .inr ⟨h, fun a ha ht => hc ⟨a, ha, ht⟩⟩

theorem issued_run {es : List CurrentEvent} (k : Run (Fn currentNext) c es d) :
    c.issued ≤ d.issued := by
  refine k.invariant (I := fun d => c.issued ≤ d.issued) (fun {s e t} ih k => ?_) (Nat.le_refl _)
  obtain rfl := Option.some.inj k
  refine Nat.le_trans ih ?_
  cases e with
  | connection event => exact (event.apply_spec s).2.1
  | forward bytes pixelFormat target outcome =>
      simp only [CurrentEvent.apply]
      rcases s.forwardFrameInner_cases bytes pixelFormat target outcome with
        ⟨r, -, hr⟩ | ⟨a, -, -, -, hr⟩ | ⟨a, written, error, -, hr⟩ <;> rw [hr]

/-- An installation makes every earlier token past. -/
theorem Past.of_install {token : Nat} (h : token < c.issued) (formats : V2PixelFormats)
    (viewport : Option Viewport) :
    Past token ((CurrentEvent.connection (.install formats viewport)).apply c) := by
  refine ⟨Nat.lt_succ_of_lt h, fun a ha => ?_⟩
  obtain rfl := Option.some.inj ha
  exact Nat.ne_of_gt h

/-- A past token is refused. -/
theorem Past.refused {token : Nat} (h : Past token c) :
    (∀ viewport, c.updateViewportIfCurrent token viewport = (c, false)) ∧
      c.clearIfCurrent token = (c, false) := by
  cases hi : c.inner with
  | none => simp [CurrentConnection.updateViewportIfCurrent, CurrentConnection.clearIfCurrent, hi]
  | some a =>
      have hne := h.gone a hi
      simp [CurrentConnection.updateViewportIfCurrent, CurrentConnection.clearIfCurrent, hi, hne]

theorem frameTarget_eq_ok {pixelFormat : PixelFormat} {target : FrameTarget}
    (h : c.frameTarget pixelFormat = .ok target) :
    ∃ a, c.inner = some a ∧ a.token = target.token ∧ a.viewport = some target.viewport ∧
      a.pixelFormats.supports pixelFormat = true := by
  simp only [CurrentConnection.frameTarget] at h
  split at h
  · cases h
  · next a ha =>
      split at h
      · cases h
      · next hs =>
          split at h
          · cases h
          · next viewport hv => cases h; exact ⟨a, ha, rfl, hv, by simpa using hs⟩

/-- What a forward to a target that is reported sent has checked, and what it has written. -/
theorem forwardFrameInner_sent {bytes : List UInt8} {pixelFormat : PixelFormat}
    {target : FrameTarget} {outcome : WriteOutcome}
    (h : c.forwardFrameInner bytes pixelFormat (some target) outcome = (d, .ok .sent)) :
    ∃ a, c.inner = some a ∧ a.token = target.token ∧ a.viewport = some target.viewport ∧
      a.pixelFormats.supports pixelFormat = true ∧
      d = { c with wire := c.wire ++ [⟨target.token, bytes, true⟩] } := by
  simp only [CurrentConnection.forwardFrameInner] at h
  split at h
  · cases h
  · next a ha =>
      by_cases ht : a.token = target.token
      · rw [if_neg (by simpa using ht)] at h
        by_cases hv : a.viewport = some target.viewport
        · rw [if_neg (by simpa using hv)] at h
          by_cases hs : a.pixelFormats.supports pixelFormat = true
          · rw [if_neg (by simpa using hs)] at h
            cases outcome with
            | accepted => cases h; exact ⟨a, ha, ht, hv, hs, by rw [ht]⟩
            | failed written error => cases h
          · rw [if_pos hs] at h; cases h
        · rw [if_pos (by simpa using hv)] at h; cases h
      · rw [if_pos (by simpa using ht)] at h; cases h

/-! ### Targeted frames -/

/-- **Targeted frames.**  In every run: a frame rendered for a target and reported sent was written
to the target's connection, which was current from the time the target was taken, advertised the
frame's format, and has the frame's dimensions as its viewport at the write.  The token of a
replaced connection changes nothing. -/
theorem targeted_frames {es₀ : List CurrentEvent} {c₀ : CurrentConnection}
    (h₀ : Run (Fn currentNext) {} es₀ c₀) :
    (∀ target (r : Rendered target) es c bytes outcome c',
      c₀.frameTarget r.frame.pixelFormat = .ok target → Run (Fn currentNext) c₀ es c →
      c.forwardFrameInner bytes r.frame.pixelFormat (some target) outcome = (c', .ok .sent) →
      (∀ es₁ es₂ d, es = es₁ ++ es₂ → Run (Fn currentNext) c₀ es₁ d →
        ∃ a, d.inner = some a ∧ a.token = target.token) ∧
      ∃ a, c.inner = some a ∧ a.token = target.token ∧
        a.pixelFormats.supports r.frame.pixelFormat = true ∧
        a.viewport = some (r.frame.width, r.frame.height) ∧
        c' = { c with wire := c.wire ++ [⟨target.token, bytes, true⟩] }) ∧
    ∀ a es c formats viewport, c₀.inner = some a → Run (Fn currentNext) c₀ es c →
      .connection (.install formats viewport) ∈ es →
      (∀ v, c.updateViewportIfCurrent a.token v = (c, false)) ∧
        c.clearIfCurrent a.token = (c, false) := by
  have hwired : Wired c₀ := h₀.invariant (fun ih k => Option.some.inj k ▸ ih.next _) .init
  refine ⟨fun target r es c bytes outcome c' htarget h hs => ?_, ?_⟩
  · obtain ⟨a₀, ha₀, ht₀, -, -⟩ := frameTarget_eq_ok htarget
    obtain ⟨a, ha, ht, hv, hsup, hc'⟩ := forwardFrameInner_sent hs
    refine ⟨fun es₁ es₂ d he hd => ?_, a, ha, ht, hsup, by rw [hv, r.size], hc'⟩
    have hissued : target.token < d.issued :=
      lt_of_lt_of_le (ht₀ ▸ hwired.inner_lt a₀ ha₀) (issued_run hd)
    rcases current_or_past hissued with hd' | hpast
    · exact hd'
    · -- a past token would not be current at the write
      obtain ⟨d', hd', hrest⟩ := h.split he
      obtain rfl := hd.functional hd'
      exact absurd ht ((hpast.run hrest).gone a ha)
  · intro a es c formats viewport ha h hmem
    obtain ⟨es₁, es₂, rfl⟩ := List.append_of_mem hmem
    obtain ⟨d, hd, hrest⟩ := h.split rfl
    obtain ⟨d', hd', hrest⟩ := hrest.uncons
    have hissued : a.token < d.issued := lt_of_lt_of_le (hwired.inner_lt a ha) (issued_run hd)
    have hpast : Past a.token d' := Option.some.inj hd' ▸ Past.of_install hissued formats viewport
    exact (hpast.run hrest).refused

theorem renderedDot_valid : Gray8Valid 1 1 1 [0] := ⟨by decide, by decide, rfl, rfl⟩

/-- A frame rendered for a viewport of one pixel. -/
def renderedDot : Rendered ⟨0, (1, 1)⟩ := ⟨.gray8 ⟨1, 1, 1, [0], renderedDot_valid⟩, rfl⟩

/-- The dot reaches its connection, which is then replaced by one with the same viewport. -/
theorem targeted_frames_replaced :
    let c₀ := (({} : CurrentConnection).installForHello .GRAY8 (1, 1)).1
    let c₁ := (c₀.installForHello .GRAY8 (1, 1)).1
    (∃ a, c₀.inner = some a ∧ a.viewport = some (1, 1)) ∧
      c₁.updateViewportIfCurrent 0 (2, 2) = (c₁, false) ∧ c₁.clearIfCurrent 0 = (c₁, false) := by
  intro c₀ c₁
  have h₀ : Run (Fn currentNext) {} [.connection (.install .GRAY8 (some (1, 1)))] c₀ := .one rfl
  have h₁ : Run (Fn currentNext) c₀ [.connection (.install .GRAY8 (some (1, 1)))] c₁ := .one rfl
  obtain ⟨hsent, hstale⟩ := targeted_frames h₀
  obtain ⟨-, a, ha, -, -, hv, -⟩ :=
    hsent _ renderedDot [] c₀ [7] .accepted _ rfl (.refl _) rfl
  obtain ⟨hupdate, hclear⟩ :=
    hstale ⟨0, .GRAY8, some (1, 1)⟩ _ c₁ .GRAY8 (some (1, 1)) rfl h₁ (by simp)
  exact ⟨⟨a, ha, hv⟩, hupdate (2, 2), hclear⟩

end PaperPad.Host
