import PaperPad.Host.ApplicationRenderer
import PaperPad.Host.Diagnostic
import PaperPad.Host.Server
import PaperPad.Protocol.RoundTrip

/-!
# Host — Sender

`FrameSender` of `tools/paperspoon/src/main.rs`.  Each operation holds the sender's lock from
its first line to its last; the connection has a lock of its own, so other threads may install,
update or clear connections while an operation prepares its bytes.  An `Env` says which
connection events those were and how the write ended.

`sent` is the sender's history: the frames fully written, oldest first, each with the descriptor
it was sent under.  No operation reads it.
-/

namespace PaperPad.Host

open Protocol

/-! ### State -/

/-- What a frame shows: enough to make it again. -/
inductive AuthoritativeFrame where
  | application (viewport : Viewport)
  | diagnostic (frame : DiagnosticFrame)
  | jpeg (frame : Gray8Frame)
  | nowPlaying (frame : Gray8Frame)
  deriving DecidableEq

namespace AuthoritativeFrame

/-- The size of the frame. -/
def dimensions : AuthoritativeFrame → Viewport
  | application viewport => viewport
  | diagnostic frame => frame.dimensions
  | jpeg frame | nowPlaying frame => (frame.width, frame.height)

/-- The viewport of the application, if that is what it shows. -/
def applicationViewport : AuthoritativeFrame → Option Viewport
  | application viewport => some viewport
  | diagnostic _ | jpeg _ | nowPlaying _ => none

/-- The format it is sent in. -/
def pixelFormat : AuthoritativeFrame → PixelFormat
  | application _ => .mono1
  | diagnostic frame => frame.pixelFormat
  | jpeg _ | nowPlaying _ => .gray8

end AuthoritativeFrame

/-- What the sender keeps between sends. -/
structure FrameSenderState where
  nextFrameId : UInt64 := 1
  authoritative : Option AuthoritativeFrame := none
  lastApplicationFrame : Option Mono1Frame := none
  deriving DecidableEq

/-- A frame fully written to a connection. -/
structure Delivery where
  token : Nat
  frameId : UInt64
  bytes : List UInt8
  source : Option AuthoritativeFrame
  deriving DecidableEq

/-- The sender, the connection it sends to, and the history of what was sent. -/
structure FrameSender where
  current : CurrentConnection := {}
  state : FrameSenderState := {}
  sent : List Delivery := []
  deriving DecidableEq

/-- What is reported of a frame that was sent. -/
structure SentFrame where
  frameId : UInt64
  encodedLen : Nat
  applicationViewport : Option Viewport
  deriving DecidableEq

/-- `SentJpeg` and `SentNowPlaying`. -/
structure SentTargeted where
  sent : SentFrame
  viewport : Viewport
  deriving DecidableEq

/-- How sending the application ends. -/
inductive ApplicationSend where
  | sent (frame : SentFrame)
  | unchanged
  | noConnection
  deriving DecidableEq

/-- What is reported of the frame a Hello got. -/
structure HelloFrame where
  sent : SentFrame
  retained : Bool
  frame : AuthoritativeFrame
  deriving DecidableEq

/-- What other threads and the socket do during an operation. -/
structure Env where
  /-- Connection events before the bytes are forwarded. -/
  between : List ConnectionEvent := []
  outcome : WriteOutcome := .accepted
  deriving DecidableEq

/-- The connection after the events of other threads. -/
def applyAll (c : CurrentConnection) (es : List ConnectionEvent) : CurrentConnection :=
  es.foldl ConnectionEvent.apply c

/-- `{pixel_format:?}`. -/
def debugPixelFormat : PixelFormat → String
  | .mono1 => "Mono1"
  | .gray8 => "Gray8"

/-! ### Operations -/

namespace FrameSender

variable [Platform]

/-- `send_locked`: reserve an id, encode, forward, and keep what was sent. -/
def sendLocked (s : FrameSender) (pixelFormat : PixelFormat) (target : Option FrameTarget)
    (encode : UInt64 → Except String (List UInt8)) (authoritative : Option AuthoritativeFrame)
    (env : Env) : FrameSender × Except String (Option SentFrame) :=
  let frameId := s.state.nextFrameId
  -- `frame_id.checked_add(1)`
  if frameId.toNat + 1 ≥ 2 ^ 64 then (s, .error "frame ID exhausted")
  else
    match encode frameId with
    | .error error => (s, .error error)
    | .ok encoded =>
        let (current, forwarded) :=
          (applyAll s.current env.between).forwardFrameInner encoded pixelFormat target env.outcome
        let s := { s with current }
        match forwarded with
        | .error error => (s, .error s!"failed write frame: {error}")
        | .ok .noConnection => (s, .ok none)
        | .ok .unsupportedPixelFormat =>
            let pixelFormat := debugPixelFormat pixelFormat
            (s, .error s!"connected PaperPad does not support {pixelFormat} frames")
        | .ok .connectionChanged =>
            (s, .error "PaperPad connection changed while preparing frame")
        | .ok .viewportChanged => (s, .error "PaperPad viewport changed while preparing frame")
        | .ok .sent =>
            let applicationViewport := authoritative.bind AuthoritativeFrame.applicationViewport
            let clearsApplication := authoritative.any fun a => a.applicationViewport.isNone
            let token := (current.inner.map ActiveConnection.token).getD 0
            ({ s with
                state :=
                  { nextFrameId := frameId + 1
                    authoritative := authoritative.or s.state.authoritative
                    lastApplicationFrame :=
                      if clearsApplication then none else s.state.lastApplicationFrame }
                sent := s.sent ++ [⟨token, frameId, encoded, authoritative⟩] },
              .ok (some ⟨frameId, encoded.length, applicationViewport⟩))

/-- `send_diagnostic`. -/
def sendDiagnostic (s : FrameSender) (frame : DiagnosticFrame) (env : Env) :
    FrameSender × Except String (Option SentFrame) :=
  s.sendLocked frame.pixelFormat none frame.encode (some (.diagnostic frame)) env

/-- `encode_v2_frame` with a context for its error. -/
def encodeFrame (context : String) (frame : Frame) (frameId : UInt64) :
    Except String (List UInt8) :=
  (encodeV2Frame frameId frame).mapError fun error =>
    let error := error.display
    s!"{context}: {error}"

/-- A send for a target captured before the lock was taken. -/
def sendTargetedFrame (s : FrameSender) (context : String) (source : AuthoritativeFrame)
    (frame : Gray8Frame) (target : FrameTarget) (env : Env) :
    FrameSender × Except String (Option SentTargeted) :=
  let r := s.sendLocked .gray8 (some target) (encodeFrame context (.gray8 frame)) (some source) env
  (r.1, r.2.map (Option.map fun sent => ⟨sent, target.viewport⟩))

/-- The second half of `send_jpeg`. -/
def sendJpegFrame (s : FrameSender) (frame : Gray8Frame) (target : FrameTarget) (env : Env) :
    FrameSender × Except String (Option SentTargeted) :=
  s.sendTargetedFrame "failed to encode JPEG frame" (.jpeg frame) frame target env

/-- The second half of `send_now_playing_with`. -/
def sendNowPlayingFrame (s : FrameSender) (frame : Gray8Frame) (target : FrameTarget) (env : Env) :
    FrameSender × Except String (Option SentTargeted) :=
  s.sendTargetedFrame "failed to encode Now Playing frame" (.nowPlaying frame) frame target env

/-- Render the application, and send it unless the panel shows the same pixels. -/
def sendApplicationLocked (s : FrameSender) (ui : ApplicationUi) (viewport : Viewport)
    (suppressUnchanged : Bool) (env : Env) : FrameSender × Except String ApplicationSend :=
  match renderApplicationBounded ui viewport.1 viewport.2 with
  | .error error => (s, .error error)
  | .ok candidate =>
      if ¬ s.current.isActive then (s, .ok .noConnection)
      else if suppressUnchanged ∧ s.state.authoritative = some (.application viewport) ∧
          s.state.lastApplicationFrame = some candidate then
        (s, .ok .unchanged)
      else
        match s.sendLocked .mono1 none
            (encodeFrame "failed to encode application frame" (.mono1 candidate))
            (some (.application viewport)) env with
        | (s, .error error) => (s, .error error)
        | (s, .ok none) => (s, .ok .noConnection)
        | (s, .ok (some sent)) =>
            ({ s with state := { s.state with lastApplicationFrame := some candidate } },
              .ok (.sent sent))

/-- `send_application`: an unchanged picture is not sent again. -/
def sendApplication (s : FrameSender) (ui : ApplicationUi) (viewport : Viewport) (env : Env) :
    FrameSender × Except String ApplicationSend :=
  s.sendApplicationLocked ui viewport true env

/-- The result of a send that does not suppress. -/
def unsuppressed (message : String) :
    Except String ApplicationSend → Except String (Option SentFrame)
  | .error error => .error error
  | .ok (.sent sent) => .ok (some sent)
  | .ok .noConnection => .ok none
  | .ok .unchanged => .error message

/-- A new viewport gets the application whatever was sent before. -/
def sendApplicationForViewportChange (s : FrameSender) (ui : ApplicationUi) (viewport : Viewport)
    (env : Env) : FrameSender × Except String (Option SentFrame) :=
  let s := { s with state := { s.state with lastApplicationFrame := none } }
  let r := s.sendApplicationLocked ui viewport false env
  (r.1, unsuppressed "viewport replacement was unexpectedly suppressed" r.2)

/-- The descriptor a Hello with these capabilities can have back. -/
def retainedFrame (s : FrameSender) (viewport : Viewport) (pixelFormats : V2PixelFormats) :
    Option AuthoritativeFrame :=
  s.state.authoritative.filter fun frame =>
    frame.dimensions = viewport ∧ pixelFormats.supports frame.pixelFormat

/-- Send what a descriptor stands for. -/
def sendAuthoritative (s : FrameSender) (ui : ApplicationUi) (frame : AuthoritativeFrame)
    (env : Env) : FrameSender × Except String (Option SentFrame) :=
  match frame with
  | .application viewport =>
      let r := s.sendApplicationLocked ui viewport false env
      (r.1, unsuppressed "Hello replacement was unexpectedly suppressed" r.2)
  | .diagnostic diagnostic =>
      s.sendLocked diagnostic.pixelFormat none diagnostic.encode (some frame) env
  | .jpeg gray8 | .nowPlaying gray8 =>
      s.sendLocked .gray8 none
        (encodeFrame "failed to encode retained Gray8 frame" (.gray8 gray8)) (some frame) env

/-- A new connection gets the retained frame, or else the application. -/
def sendForHello (s : FrameSender) (ui : ApplicationUi) (viewport : Viewport)
    (pixelFormats : V2PixelFormats) (env : Env) :
    FrameSender × Except String (Option HelloFrame) :=
  let retained := s.retainedFrame viewport pixelFormats
  let frame := retained.getD (.application viewport)
  let r := s.sendAuthoritative ui frame env
  (r.1, r.2.map (Option.map fun sent => ⟨sent, retained.isSome, frame⟩))

end FrameSender

/-! ### What one operation does -/

/-- The context says only how it fails. -/
theorem encodeFrame_eq_ok {context : String} {frame : Frame} {frameId : UInt64}
    {bytes : List UInt8} :
    FrameSender.encodeFrame context frame frameId = .ok bytes ↔
      encodeV2Frame frameId frame = .ok bytes := by
  rw [FrameSender.encodeFrame, Except.mapError_eq_ok]

theorem map_eq_some {α β ε : Type*} {x : Except ε (Option α)} {g : α → β} {b : β} :
    x.map (Option.map g) = .ok (some b) ↔ ∃ a, x = .ok (some a) ∧ g a = b := by
  cases x <;> simp [Except.map]

/-- What reports no frame has failed or had no connection. -/
theorem error_or_none {α ε : Type*} {x : Except ε (Option α)} (h : ∀ r, x ≠ .ok (some r)) :
    (∃ e, x = .error e) ∨ x = .ok none := by
  rcases x with e | (_ | r)
  · exact .inl ⟨e, rfl⟩
  · exact .inr rfl
  · exact absurd rfl (h r)

/-- A send that does not suppress reports what was sent. -/
theorem unsuppressed_eq_some {message : String} {x : Except String ApplicationSend}
    {r : SentFrame} :
    FrameSender.unsuppressed message x = .ok (some r) ↔ x = .ok (.sent r) := by
  simp only [FrameSender.unsuppressed]
  split <;> simp

/-- Connection events and failed writes of frames: changes with no whole record. -/
inductive Quiet (c : CurrentConnection) : CurrentConnection → Prop where
  | refl : Quiet c c
  | event {d : CurrentConnection} (h : Quiet c d) (e : ConnectionEvent) : Quiet c (e.apply d)
  | failed {d : CurrentConnection} {a : ActiveConnection} {frameId : UInt64} {f : Frame}
      {bytes : List UInt8} (h : Quiet c d) (ha : d.inner = some a)
      (hf : encodeV2Frame frameId f = .ok bytes) (n : Nat) (hn : n < bytes.length) :
      Quiet c { d with inner := none, wire := d.wire ++ [⟨a.token, bytes.take n, false⟩] }

/-- Operations of other threads are quiet. -/
theorem Quiet.applyAll {c d : CurrentConnection} (h : Quiet c d) (es : List ConnectionEvent) :
    Quiet c (applyAll d es) := by
  induction es generalizing d with
  | nil => exact h
  | cons e es ih => exact ih (h.event e)

/-- The descriptor of a frame. -/
def Describes [Platform] (f : Frame) : AuthoritativeFrame → Prop
  | .application viewport => ∃ g, f = .mono1 g ∧ (g.width, g.height) = viewport
  | .diagnostic d => d.frame = .ok f
  | .jpeg g | .nowPlaying g => f = .gray8 g

/-- The application pixels a frame leaves as the comparison baseline. -/
def baseline (f : Frame) : AuthoritativeFrame → Option Mono1Frame
  | .application _ =>
      match f with
      | .mono1 g => some g
      | .gray8 _ => none
  | .diagnostic _ | .jpeg _ | .nowPlaying _ => none

/-- A whole record of a frame, on the connection then current. -/
def Delivered (s : FrameSender) (env : Env) (source : AuthoritativeFrame) (f : Frame)
    (t : FrameSender) : Prop :=
  ∃ a bytes, (applyAll s.current env.between).inner = some a ∧
    a.pixelFormats.supports source.pixelFormat = true ∧ env.outcome = .accepted ∧
    encodeV2Frame s.state.nextFrameId f = .ok bytes ∧
    t.current = { applyAll s.current env.between with
      wire := (applyAll s.current env.between).wire ++ [⟨a.token, bytes, true⟩] } ∧
    t.sent = s.sent ++ [⟨a.token, s.state.nextFrameId, bytes, some source⟩]

/-- A frame was sent, under the next id. -/
structure Sends [Platform] (s : FrameSender) (env : Env) (source : AuthoritativeFrame) (f : Frame)
    (r : SentFrame) (t : FrameSender) : Prop where
  id_eq : r.frameId = s.state.nextFrameId
  id_lt : s.state.nextFrameId.toNat + 1 < 2 ^ 64
  viewport_eq : r.applicationViewport = source.applicationViewport
  describes : Describes f source
  state_eq : t.state = ⟨s.state.nextFrameId + 1, some source, baseline f source⟩
  delivered : Delivered s env source f t

/-- No frame was sent: the id, the descriptor and the history stay. -/
structure Keeps (s : FrameSender) (env : Env) (t : FrameSender) : Prop where
  nextId_eq : t.state.nextFrameId = s.state.nextFrameId
  authoritative_eq : t.state.authoritative = s.state.authoritative
  last_eq : t.state.lastApplicationFrame = s.state.lastApplicationFrame ∨
    t.state.lastApplicationFrame = none
  sent_eq : t.sent = s.sent
  quiet : Quiet s.current t.current
  /-- Only a failed write takes the connection away. -/
  inner : t.current.inner = none ∨ t.current = s.current ∨
    t.current = applyAll s.current env.between

theorem Keeps.refl (s : FrameSender) (env : Env) : Keeps s env s :=
  ⟨rfl, rfl, .inl rfl, rfl, .refl, .inr (.inl rfl)⟩

/-- Only the connection has changed. -/
theorem Keeps.of_current {s : FrameSender} {env : Env} {c : CurrentConnection}
    (h : Quiet s.current c) (hi : c.inner = none ∨ c = applyAll s.current env.between) :
    Keeps s env { s with current := c } :=
  ⟨rfl, rfl, .inl rfl, rfl, h, hi.imp_right .inr⟩

/-- A message is not empty. -/
theorem encodeV2Frame_ne_nil {frameId : UInt64} {f : Frame} {bytes : List UInt8}
    (h : encodeV2Frame frameId f = .ok bytes) : bytes ≠ [] :=
  encodeV2Message_ne_nil ((Message.encode_eq (.frame frameId f)).symm.trans h)

/-- **One locked send.**  Whatever the other threads and the socket do, it keeps the state, or it
sends one frame of the encoder's under the next id. -/
theorem FrameSender.sendLocked_spec {s t : FrameSender} (source : AuthoritativeFrame)
    {target : Option FrameTarget} {encode : UInt64 → Except String (List UInt8)} {env : Env}
    {res : Except String (Option SentFrame)} {P : Frame → Prop}
    (he : ∀ frameId bytes, encode frameId = .ok bytes →
      ∃ f, P f ∧ encodeV2Frame frameId f = .ok bytes)
    (h : s.sendLocked source.pixelFormat target encode (some source) env = (t, res)) :
    (Keeps s env t ∧ t.state = s.state ∧ ∀ r, res ≠ .ok (some r)) ∨
      ∃ r f, res = .ok (some r) ∧ P f ∧ r.frameId = s.state.nextFrameId ∧
        s.state.nextFrameId.toNat + 1 < 2 ^ 64 ∧
        r.applicationViewport = source.applicationViewport ∧
        t.state = ⟨s.state.nextFrameId + 1, some source,
          if source.applicationViewport.isNone then none else s.state.lastApplicationFrame⟩ ∧
        Delivered s env source f t := by
  have hq : Quiet s.current (applyAll s.current env.between) := Quiet.refl.applyAll _
  simp only [sendLocked] at h
  split at h
  · cases h; exact .inl ⟨.refl s env, rfl, by simp⟩
  · next hid =>
      split at h
      · cases h; exact .inl ⟨.refl s env, rfl, by simp⟩
      · next encoded hencoded =>
          obtain ⟨f, hP, hf⟩ := he _ _ hencoded
          rcases (applyAll s.current env.between).forwardFrameInner_cases encoded
              source.pixelFormat target env.outcome with
            ⟨r, hr, hfw⟩ | ⟨a, ha, hsup, hout, hfw⟩ | ⟨a, written, error, ha, hfw⟩
          · -- nothing was written
            rw [hfw] at h
            cases r <;> simp only at h <;> first
              | exact absurd rfl hr
              | (cases h; exact .inl ⟨.of_current hq (.inr rfl), rfl, by simp⟩)
          · -- the whole frame was written
            rw [hfw] at h
            cases h
            exact .inr ⟨_, f, rfl, hP, rfl, by omega, rfl, rfl, a, encoded, ha, hsup, hout, hf, rfl,
              by simp [ha]⟩
          · -- the write failed, short of the whole frame
            rw [hfw] at h
            cases h
            have hlen : 0 < encoded.length := List.length_pos_iff.mpr (encodeV2Frame_ne_nil hf)
            exact .inl ⟨.of_current (hq.failed ha hf _ (by omega)) (.inl rfl), rfl, by simp⟩

section Operations

variable [Platform] {s t : FrameSender} {env : Env}

/-- A locked send under a descriptor that is no application. -/
theorem sends_of_sendLocked {source : AuthoritativeFrame} {target : Option FrameTarget}
    {encode : UInt64 → Except String (List UInt8)} {res : Except String (Option SentFrame)}
    (hsource : source.applicationViewport = none)
    (he : ∀ frameId bytes, encode frameId = .ok bytes →
      ∃ f, Describes f source ∧ encodeV2Frame frameId f = .ok bytes)
    (h : s.sendLocked source.pixelFormat target encode (some source) env = (t, res)) :
    (Keeps s env t ∧ ∀ r, res ≠ .ok (some r)) ∨
      ∃ r f, res = .ok (some r) ∧ Sends s env source f r t := by
  rcases FrameSender.sendLocked_spec source he h with
    ⟨hk, -, hr⟩ | ⟨r, f, hr, hd, hid, hlt, hv, hs, hdel⟩
  · exact .inl ⟨hk, hr⟩
  · refine .inr ⟨r, f, hr, hid, hlt, hv, hd, ?_, hdel⟩
    have hb : baseline f source = none := by
      cases source with
      | application viewport => cases hsource
      | diagnostic _ | jpeg _ | nowPlaying _ => rfl
    rw [hs, hb, hsource]
    rfl

/-- A diagnostic frame is sent, or nothing is. -/
theorem sendDiagnostic_spec {d : DiagnosticFrame} {res : Except String (Option SentFrame)}
    (h : s.sendDiagnostic d env = (t, res)) :
    (Keeps s env t ∧ ∀ r, res ≠ .ok (some r)) ∨
      ∃ r f, res = .ok (some r) ∧ Sends s env (.diagnostic d) f r t :=
  sends_of_sendLocked rfl (fun _ _ hb => DiagnosticFrame.encode_eq_ok.mp hb) h

/-- A send of a Gray8 frame under a descriptor of it. -/
theorem sends_of_gray8 {g : Gray8Frame} {source : AuthoritativeFrame} {context : String}
    {target : Option FrameTarget} {res : Except String (Option SentFrame)}
    (hsource : source = .jpeg g ∨ source = .nowPlaying g)
    (h : s.sendLocked .gray8 target (FrameSender.encodeFrame context (.gray8 g)) (some source) env =
      (t, res)) :
    (Keeps s env t ∧ ∀ r, res ≠ .ok (some r)) ∨
      ∃ r f, res = .ok (some r) ∧ Sends s env source f r t := by
  have hf : source.pixelFormat = .gray8 ∧ source.applicationViewport = none ∧
      Describes (.gray8 g) source := by
    rcases hsource with rfl | rfl <;> exact ⟨rfl, rfl, rfl⟩
  rw [← hf.1] at h
  exact sends_of_sendLocked hf.2.1
    (fun _ _ hb => ⟨.gray8 g, hf.2.2, encodeFrame_eq_ok.mp hb⟩) h

/-- A frame for a target is sent to it, or nothing is. -/
theorem sendTargetedFrame_spec {g : Gray8Frame} {source : AuthoritativeFrame} {context : String}
    {target : FrameTarget} {res : Except String (Option SentTargeted)}
    (hsource : source = .jpeg g ∨ source = .nowPlaying g)
    (h : s.sendTargetedFrame context source g target env = (t, res)) :
    (Keeps s env t ∧ ∀ r, res ≠ .ok (some r)) ∨
      ∃ r f, res = .ok (some r) ∧ Sends s env source f r.sent t := by
  simp only [FrameSender.sendTargetedFrame] at h
  obtain ⟨rfl, rfl⟩ := Prod.mk.inj h
  rcases sends_of_gray8 hsource rfl with ⟨hk, hn⟩ | ⟨r, f, he, hs⟩
  · refine .inl ⟨hk, fun r hres => ?_⟩
    obtain ⟨a, ha, -⟩ := map_eq_some.mp hres
    exact hn a ha
  · exact .inr ⟨⟨r, target.viewport⟩, f, map_eq_some.mpr ⟨r, he, rfl⟩, hs⟩

/-- **One application send.**  It sends the rendering, or keeps the whole sender state. -/
theorem sendApplicationLocked_spec {ui : ApplicationUi} {v : Viewport} {suppress : Bool}
    {res : Except String ApplicationSend}
    (h : s.sendApplicationLocked ui v suppress env = (t, res)) :
    (Keeps s env t ∧ t.state = s.state ∧ ∀ r, res ≠ .ok (.sent r)) ∨
      ∃ r g, res = .ok (.sent r) ∧ renderApplicationBounded ui v.1 v.2 = .ok g ∧
        Sends s env (.application v) (.mono1 g) r t := by
  simp only [FrameSender.sendApplicationLocked] at h
  split at h
  · cases h; exact .inl ⟨.refl s env, rfl, by simp⟩
  · next candidate hc =>
      split at h
      · cases h; exact .inl ⟨.refl s env, rfl, by simp⟩
      · split at h
        · cases h; exact .inl ⟨.refl s env, rfl, by simp⟩
        · obtain ⟨hw, hh⟩ := renderApplicationBounded_dimensions hc
          generalize hl : s.sendLocked .mono1 none _ _ env = x at h
          obtain ⟨u, r⟩ := x
          have hspec := FrameSender.sendLocked_spec (.application v)
            (P := fun f => f = .mono1 candidate)
            (fun _ _ hb => ⟨_, rfl, encodeFrame_eq_ok.mp hb⟩) hl
          rcases hspec with ⟨hk, hstate, hn⟩ | ⟨r', f, rfl, rfl, hid, hlt, hv, hs, hdel⟩
          · -- the baseline is set only after a send
            match r, h, hn with
            | .error e, h, _ => cases h; exact .inl ⟨hk, hstate, by simp⟩
            | .ok none, h, _ => cases h; exact .inl ⟨hk, hstate, by simp⟩
            | .ok (some r'), _, hn => exact absurd rfl (hn r')
          · cases h
            refine .inr ⟨r', candidate, rfl, hc, hid, hlt, hv, ?_, ?_, hdel⟩
            · exact ⟨candidate, rfl, by rw [hw, hh]⟩
            · simp only [hs]
              rfl

/-- What the Unchanged result says of the state. -/
theorem sendApplicationLocked_unchanged {ui : ApplicationUi} {v : Viewport} {suppress : Bool}
    (h : s.sendApplicationLocked ui v suppress env = (t, .ok .unchanged)) :
    t = s ∧ suppress = true ∧ s.current.isActive = true ∧
      s.state.authoritative = some (.application v) ∧
      ∃ g, renderApplicationBounded ui v.1 v.2 = .ok g ∧ s.state.lastApplicationFrame = some g := by
  simp only [FrameSender.sendApplicationLocked] at h
  split at h
  · cases h
  · next candidate hc =>
      split at h
      · cases h
      · next hactive =>
          split at h
          · next hu =>
              cases h
              exact ⟨rfl, hu.1, by simpa using hactive, hu.2.1, candidate, hc, hu.2.2⟩
          · split at h <;> cases h

/-- A send that clears the comparison baseline first. -/
theorem sendApplicationForViewportChange_spec {ui : ApplicationUi} {v : Viewport}
    {res : Except String (Option SentFrame)}
    (h : s.sendApplicationForViewportChange ui v env = (t, res)) :
    (Keeps s env t ∧ ∀ r, res ≠ .ok (some r)) ∨
      ∃ r g, res = .ok (some r) ∧ renderApplicationBounded ui v.1 v.2 = .ok g ∧
        Sends s env (.application v) (.mono1 g) r t := by
  simp only [FrameSender.sendApplicationForViewportChange] at h
  obtain ⟨rfl, rfl⟩ := Prod.mk.inj h
  rcases sendApplicationLocked_spec rfl with ⟨hk, hstate, hn⟩ | ⟨r, g, he, hg, hs⟩
  · refine .inl ⟨⟨hk.nextId_eq, hk.authoritative_eq, .inr ?_, hk.sent_eq, hk.quiet, hk.inner⟩,
      fun r hr => ?_⟩
    · exact congrArg FrameSenderState.lastApplicationFrame hstate
    · exact hn r (unsuppressed_eq_some.mp hr)
  · exact .inr ⟨r, g, unsuppressed_eq_some.mpr he, hg,
      hs.id_eq, hs.id_lt, hs.viewport_eq, hs.describes, hs.state_eq, hs.delivered⟩

/-- A send of what a descriptor stands for. -/
theorem sendAuthoritative_spec {ui : ApplicationUi} {source : AuthoritativeFrame}
    {res : Except String (Option SentFrame)}
    (h : s.sendAuthoritative ui source env = (t, res)) :
    (Keeps s env t ∧ ∀ r, res ≠ .ok (some r)) ∨
      ∃ r f, res = .ok (some r) ∧ Sends s env source f r t ∧
        ∀ v, source = .application v →
          ∃ g, renderApplicationBounded ui v.1 v.2 = .ok g ∧ f = .mono1 g := by
  have lift : (Keeps s env t ∧ ∀ r, res ≠ .ok (some r)) ∨
      (∃ r f, res = .ok (some r) ∧ Sends s env source f r t) →
      source.applicationViewport = none →
      (Keeps s env t ∧ ∀ r, res ≠ .ok (some r)) ∨
        ∃ r f, res = .ok (some r) ∧ Sends s env source f r t ∧
          ∀ v, source = .application v →
            ∃ g, renderApplicationBounded ui v.1 v.2 = .ok g ∧ f = .mono1 g := by
    rintro (hk | ⟨r, f, hr, hs⟩) hn
    · exact .inl hk
    · exact .inr ⟨r, f, hr, hs, fun v hv => by rw [hv] at hn; cases hn⟩
  cases source with
  | application v =>
      simp only [FrameSender.sendAuthoritative] at h
      obtain ⟨rfl, rfl⟩ := Prod.mk.inj h
      rcases sendApplicationLocked_spec rfl with ⟨hk, -, hn⟩ | ⟨r, g, he, hg, hs⟩
      · exact .inl ⟨hk, fun r hr => hn r (unsuppressed_eq_some.mp hr)⟩
      · refine .inr ⟨r, _, unsuppressed_eq_some.mpr he, hs, fun v' hv => ?_⟩
        cases hv
        exact ⟨g, hg, rfl⟩
  | diagnostic d => exact lift (sendDiagnostic_spec h) rfl
  | jpeg g => exact lift (sends_of_gray8 (.inl rfl) h) rfl
  | nowPlaying g => exact lift (sends_of_gray8 (.inr rfl) h) rfl

/-- **One Hello send.**  It sends the retained descriptor, or the application of the Hello's
viewport. -/
theorem sendForHello_spec {ui : ApplicationUi} {v : Viewport} {formats : V2PixelFormats}
    {res : Except String (Option HelloFrame)} (h : s.sendForHello ui v formats env = (t, res)) :
    (Keeps s env t ∧ ∀ r, res ≠ .ok (some r)) ∨
      ∃ r f, res = .ok (some r) ∧ r.retained = (s.retainedFrame v formats).isSome ∧
        r.frame = (s.retainedFrame v formats).getD (.application v) ∧
        Sends s env r.frame f r.sent t ∧
        ∀ w, r.frame = .application w →
          ∃ g, renderApplicationBounded ui w.1 w.2 = .ok g ∧ f = .mono1 g := by
  simp only [FrameSender.sendForHello] at h
  obtain ⟨rfl, rfl⟩ := Prod.mk.inj h
  rcases sendAuthoritative_spec rfl with ⟨hk, hn⟩ | ⟨r, f, he, hs, happ⟩
  · refine .inl ⟨hk, fun r hr => ?_⟩
    obtain ⟨a, ha, -⟩ := map_eq_some.mp hr
    exact hn a ha
  · exact .inr ⟨_, f, map_eq_some.mpr ⟨r, he, rfl⟩, rfl, rfl, hs, happ⟩

end Operations

end PaperPad.Host
