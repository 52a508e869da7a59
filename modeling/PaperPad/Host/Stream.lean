import PaperPad.Host.Sender
import PaperPad.Support.Transition

/-!
# Host — Stream

Runs of the frame sender: any order of its operations and of connection events, with any outcome
of every write.  `SenderInv` ties the sender's state to its history and to the wire; one step
keeps it because an operation either sends the next frame whole or keeps id, descriptor and
history.

`frame_stream_integrity` reads off what reaches the peers.
-/

namespace PaperPad.Host

open Protocol Transition

/-! ### Runs -/

/-- A call of the sender, or an operation on its connection. -/
inductive SenderEvent where
  | connection (event : ConnectionEvent)
  | diagnostic (frame : DiagnosticFrame) (env : Env)
  | jpeg (frame : Gray8Frame) (target : FrameTarget) (env : Env)
  | nowPlaying (frame : Gray8Frame) (target : FrameTarget) (env : Env)
  | application (ui : ApplicationUi) (viewport : Viewport) (env : Env)
  | viewportChange (ui : ApplicationUi) (viewport : Viewport) (env : Env)
  | hello (ui : ApplicationUi) (viewport : Viewport) (pixelFormats : V2PixelFormats) (env : Env)
  deriving DecidableEq

/-- What the call returns. -/
inductive SenderResult where
  | connection
  | frame (result : Except String (Option SentFrame))
  | targeted (result : Except String (Option SentTargeted))
  | application (result : Except String ApplicationSend)
  | hello (result : Except String (Option HelloFrame))

/-- The frame a result reports as sent. -/
def SenderResult.sent? : SenderResult → Option SentFrame
  | frame (.ok (some r)) => some r
  | targeted (.ok (some r)) => some r.sent
  | application (.ok (.sent r)) => some r
  | hello (.ok (some r)) => some r.sent
  | _ => none

/-- A call that does not report a frame has sent none. -/
theorem sent?_frame {x : Except String (Option SentFrame)} (h : ∀ r, x ≠ .ok (some r)) :
    (SenderResult.frame x).sent? = none := by
  rcases error_or_none h with ⟨e, rfl⟩ | rfl <;> rfl

theorem sent?_targeted {x : Except String (Option SentTargeted)} (h : ∀ r, x ≠ .ok (some r)) :
    (SenderResult.targeted x).sent? = none := by
  rcases error_or_none h with ⟨e, rfl⟩ | rfl <;> rfl

theorem sent?_application {x : Except String ApplicationSend} (h : ∀ r, x ≠ .ok (.sent r)) :
    (SenderResult.application x).sent? = none := by
  rcases x with e | (r | _ | _)
  · rfl
  · exact absurd rfl (h r)
  · rfl
  · rfl

theorem sent?_hello {x : Except String (Option HelloFrame)} (h : ∀ r, x ≠ .ok (some r)) :
    (SenderResult.hello x).sent? = none := by
  rcases error_or_none h with ⟨e, rfl⟩ | rfl <;> rfl

section Step

variable [Platform]

/-- One call. -/
def senderStep (s : FrameSender) : SenderEvent → FrameSender × SenderResult
  | .connection event => ({ s with current := event.apply s.current }, .connection)
  | .diagnostic frame env =>
      let r := s.sendDiagnostic frame env
      (r.1, .frame r.2)
  | .jpeg frame target env =>
      let r := s.sendJpegFrame frame target env
      (r.1, .targeted r.2)
  | .nowPlaying frame target env =>
      let r := s.sendNowPlayingFrame frame target env
      (r.1, .targeted r.2)
  | .application ui viewport env =>
      let r := s.sendApplication ui viewport env
      (r.1, .application r.2)
  | .viewportChange ui viewport env =>
      let r := s.sendApplicationForViewportChange ui viewport env
      (r.1, .frame r.2)
  | .hello ui viewport pixelFormats env =>
      let r := s.sendForHello ui viewport pixelFormats env
      (r.1, .hello r.2)

/-- The sender after it. -/
def senderNext (s : FrameSender) (e : SenderEvent) : Option FrameSender := some (senderStep s e).1

/-- **One operation.**  It keeps id, descriptor and history, or it sends one frame whole. -/
theorem senderStep_spec (s : FrameSender) (e : SenderEvent) :
    ((senderStep s e).2.sent? = none ∧ ∃ env, Keeps s env (senderStep s e).1) ∨
      ∃ r env source f, (senderStep s e).2.sent? = some r ∧
        Sends s env source f r (senderStep s e).1 := by
  cases e with
  | connection event =>
      exact .inl ⟨rfl, ⟨[event], .accepted⟩, .of_current (Quiet.refl.event event) (.inr rfl)⟩
  | diagnostic d env =>
      obtain ⟨t, x, h⟩ : ∃ t x, s.sendDiagnostic d env = (t, x) := ⟨_, _, rfl⟩
      simp only [senderStep, h]
      rcases sendDiagnostic_spec h with ⟨hk, hn⟩ | ⟨r, f, rfl, hs⟩
      · exact .inl ⟨sent?_frame hn, env, hk⟩
      · exact .inr ⟨r, env, _, f, rfl, hs⟩
  | jpeg g target env =>
      obtain ⟨t, x, h⟩ : ∃ t x, s.sendJpegFrame g target env = (t, x) := ⟨_, _, rfl⟩
      simp only [senderStep, h]
      rcases sendTargetedFrame_spec (.inl rfl) h with ⟨hk, hn⟩ | ⟨r, f, rfl, hs⟩
      · exact .inl ⟨sent?_targeted hn, env, hk⟩
      · exact .inr ⟨r.sent, env, _, f, rfl, hs⟩
  | nowPlaying g target env =>
      obtain ⟨t, x, h⟩ : ∃ t x, s.sendNowPlayingFrame g target env = (t, x) := ⟨_, _, rfl⟩
      simp only [senderStep, h]
      rcases sendTargetedFrame_spec (.inr rfl) h with ⟨hk, hn⟩ | ⟨r, f, rfl, hs⟩
      · exact .inl ⟨sent?_targeted hn, env, hk⟩
      · exact .inr ⟨r.sent, env, _, f, rfl, hs⟩
  | application ui v env =>
      obtain ⟨t, x, h⟩ : ∃ t x, s.sendApplication ui v env = (t, x) := ⟨_, _, rfl⟩
      simp only [senderStep, h]
      rcases sendApplicationLocked_spec h with ⟨hk, -, hn⟩ | ⟨r, g, rfl, -, hs⟩
      · exact .inl ⟨sent?_application hn, env, hk⟩
      · exact .inr ⟨r, env, _, _, rfl, hs⟩
  | viewportChange ui v env =>
      obtain ⟨t, x, h⟩ : ∃ t x, s.sendApplicationForViewportChange ui v env = (t, x) := ⟨_, _, rfl⟩
      simp only [senderStep, h]
      rcases sendApplicationForViewportChange_spec h with ⟨hk, hn⟩ | ⟨r, g, rfl, -, hs⟩
      · exact .inl ⟨sent?_frame hn, env, hk⟩
      · exact .inr ⟨r, env, _, _, rfl, hs⟩
  | hello ui v formats env =>
      obtain ⟨t, x, h⟩ : ∃ t x, s.sendForHello ui v formats env = (t, x) := ⟨_, _, rfl⟩
      simp only [senderStep, h]
      rcases sendForHello_spec h with ⟨hk, hn⟩ | ⟨r, f, rfl, -, -, hs, -⟩
      · exact .inl ⟨sent?_hello hn, env, hk⟩
      · exact .inr ⟨r.sent, env, _, f, rfl, hs⟩

end Step

/-! ### The invariant -/

/-- The frames fully written, in the order of writing. -/
def wholeWrites (wire : List Write) : List Write := wire.filter (·.whole)

/-- Everything written to one connection. -/
def bytesOn (token : Nat) (wire : List Write) : List UInt8 :=
  (wire.filter fun w => w.token = token).flatMap (·.bytes)

/-- A proper prefix of some encoded frame. -/
def Truncated (bytes : List UInt8) : Prop :=
  ∃ frameId f whole, encodeV2Frame frameId f = .ok whole ∧ bytes <+: whole ∧ bytes ≠ whole

/-- The connection stays wired. -/
theorem Quiet.wired {c d : CurrentConnection} (h : Quiet c d) (hw : Wired c) : Wired d := by
  induction h with
  | refl => exact hw
  | event _ e ih => exact ih.apply e
  | failed _ ha _ n _ ih => exact ih.write ha _ false none (by simp) fun _ => rfl

/-- What is added on the wire is cut short. -/
theorem Quiet.wire {c d : CurrentConnection} (h : Quiet c d) :
    ∃ extra, d.wire = c.wire ++ extra ∧
      ∀ w ∈ extra, w.whole = false ∧ Truncated w.bytes := by
  induction h with
  | refl => exact ⟨[], by simp, by simp⟩
  | @event d _ e ih =>
      -- connection events write nothing
      rw [(e.apply_spec d).1]
      exact ih
  | @failed d a frameId f bytes _ ha hf n hn ih =>
      obtain ⟨extra, he, hall⟩ := ih
      refine ⟨extra ++ [⟨a.token, bytes.take n, false⟩], by simp [he], fun w hw => ?_⟩
      rcases List.mem_append.mp hw with hw | hw
      · exact hall w hw
      · rw [List.mem_singleton.mp hw]
        refine ⟨rfl, frameId, f, bytes, hf, List.take_prefix n bytes, fun e => ?_⟩
        have := congrArg List.length e
        rw [List.length_take] at this
        omega

theorem wholeWrites_append (l₁ l₂ : List Write) :
    wholeWrites (l₁ ++ l₂) = wholeWrites l₁ ++ wholeWrites l₂ :=
  List.filter_append ..

/-- Messages cut short are not whole. -/
theorem wholeWrites_of_partial {l : List Write} (h : ∀ w ∈ l, w.whole = false) :
    wholeWrites l = [] := by
  refine List.filter_eq_nil_iff.mpr fun w hw => ?_
  simp [h w hw]

section Invariant

variable [Platform]

/-- The last frame sent is described by the authoritative descriptor, and is the comparison
baseline if there is one. -/
structure SenderInv (s : FrameSender) : Prop where
  wired : Wired s.current
  nextId : s.state.nextFrameId.toNat = s.sent.length + 1
  ids : s.sent.map (·.frameId.toNat) = List.range' 1 s.sent.length
  whole : wholeWrites s.current.wire = s.sent.map fun d => ⟨d.token, d.bytes, true⟩
  encoded : ∀ d ∈ s.sent, ∃ source f, d.source = some source ∧ Describes f source ∧
    encodeV2Frame d.frameId f = .ok d.bytes
  truncated : ∀ w ∈ s.current.wire, w.whole = false → Truncated w.bytes
  authoritative : s.state.authoritative = s.sent.getLast?.bind (·.source)
  last : ∀ g, s.state.lastApplicationFrame = some g → ∃ d, s.sent.getLast? = some d ∧
    d.source = some (.application (g.width, g.height)) ∧
    encodeV2Frame d.frameId (.mono1 g) = .ok d.bytes

/-- It holds of a sender that has done nothing. -/
theorem SenderInv.init : SenderInv {} where
  wired := Wired.init
  nextId := rfl
  ids := rfl
  whole := rfl
  encoded := by simp
  truncated := by simp
  authoritative := rfl
  last := by simp

/-- A call that sends nothing keeps it. -/
theorem SenderInv.keeps {s t : FrameSender} {env : Env} (h : SenderInv s) (hk : Keeps s env t) :
    SenderInv t := by
  obtain ⟨extra, hextra, hpart⟩ := hk.quiet.wire
  refine ⟨hk.quiet.wired h.wired, ?_, ?_, ?_, ?_, ?_, ?_, ?_⟩
  · rw [hk.nextId_eq, hk.sent_eq]; exact h.nextId
  · rw [hk.sent_eq]; exact h.ids
  · rw [hk.sent_eq, hextra, wholeWrites_append, wholeWrites_of_partial fun w hw => (hpart w hw).1,
      List.append_nil]
    exact h.whole
  · rw [hk.sent_eq]; exact h.encoded
  · rw [hextra]
    intro w hw hp
    rcases List.mem_append.mp hw with hw | hw
    · exact h.truncated w hw hp
    · exact (hpart w hw).2
  · rw [hk.authoritative_eq, hk.sent_eq]; exact h.authoritative
  · intro g hg
    rw [hk.sent_eq]
    rcases hk.last_eq with hl | hl
    · exact h.last g (hl ▸ hg)
    · -- the baseline is cleared
      rw [hl] at hg; cases hg

/-- A call that sends a frame keeps it. -/
theorem SenderInv.sends {s t : FrameSender} {env : Env} {source : AuthoritativeFrame} {f : Frame}
    {r : SentFrame} (h : SenderInv s) (hs : Sends s env source f r t) : SenderInv t := by
  obtain ⟨a, bytes, ha, -, -, hbytes, hcur, hsent⟩ := hs.delivered
  have hq : Quiet s.current (applyAll s.current env.between) := Quiet.refl.applyAll _
  obtain ⟨extra, hextra, hpart⟩ := hq.wire
  have hnext : (s.state.nextFrameId + 1).toNat = s.state.nextFrameId.toNat + 1 := by
    rw [UInt64.toNat_add]
    exact Nat.mod_eq_of_lt hs.id_lt
  refine ⟨?_, ?_, ?_, ?_, ?_, ?_, ?_, ?_⟩
  · rw [hcur]
    exact (hq.wired h.wired).write ha bytes true _ (fun _ => rfl) (by simp)
  · rw [hs.state_eq, hsent]
    simp only [hnext, h.nextId, List.length_append, List.length_singleton]
  · rw [hsent]
    simp only [List.map_append, h.ids, List.map_cons, List.map_nil, h.nextId, List.length_append,
      List.length_singleton, List.range'_concat, Nat.one_mul, Nat.add_comm 1]
  · rw [hcur, hsent, hextra, wholeWrites_append, wholeWrites_append,
      wholeWrites_of_partial fun w hw => (hpart w hw).1, List.append_nil, List.map_append, h.whole]
    rfl
  · rw [hsent]
    intro d hd
    rcases List.mem_append.mp hd with hd | hd
    · exact h.encoded d hd
    · rw [List.mem_singleton.mp hd]
      exact ⟨source, f, rfl, hs.describes, hbytes⟩
  · rw [hcur, hextra]
    intro w hw hp
    rcases List.mem_append.mp hw with hw | hw
    · rcases List.mem_append.mp hw with hw | hw
      · exact h.truncated w hw hp
      · exact (hpart w hw).2
    · -- the frame itself is written whole
      rw [List.mem_singleton.mp hw] at hp
      cases hp
  · rw [hs.state_eq, hsent]
    simp
  · intro g hg
    rw [hs.state_eq] at hg
    rw [hsent]
    refine ⟨⟨a.token, s.state.nextFrameId, bytes, some source⟩, by simp, ?_⟩
    have hd := hs.describes
    cases source with
    | application v =>
        obtain ⟨g', rfl, rfl⟩ := hd
        obtain rfl : g' = g := by simpa [baseline] using hg
        exact ⟨rfl, hbytes⟩
    | diagnostic _ | jpeg _ | nowPlaying _ =>
        -- the baseline is cleared
        simp [baseline] at hg

/-- Every call keeps it. -/
theorem SenderInv.step {s t : FrameSender} {e : SenderEvent} (h : SenderInv s)
    (k : Fn senderNext s e t) : SenderInv t := by
  obtain rfl := Option.some.inj k
  rcases senderStep_spec s e with ⟨-, env, hk⟩ | ⟨r, env, source, f, -, hs⟩
  · exact h.keeps hk
  · exact h.sends hs

/-- It holds in every run. -/
theorem senderInv {es : List SenderEvent} {s : FrameSender}
    (h : Run (Fn senderNext) {} es s) : SenderInv s :=
  h.invariant (fun hi k => hi.step k) .init

/-- What is on the wire stays there. -/
theorem Run.wire_prefix {s t : FrameSender} {es : List SenderEvent}
    (h : Run (Fn senderNext) s es t) : s.current.wire <+: t.current.wire := by
  induction h with
  | refl => exact List.prefix_rfl
  | @snoc t u es e _ k ih =>
      obtain rfl := Option.some.inj k
      refine ih.trans ?_
      rcases senderStep_spec t e with ⟨-, env, hk⟩ | ⟨r, env, source, f, -, hs⟩
      · obtain ⟨extra, he, -⟩ := hk.quiet.wire
        exact ⟨extra, he.symm⟩
      · obtain ⟨a, bytes, -, -, -, -, hcur, -⟩ := hs.delivered
        obtain ⟨extra, he, -⟩ := (Quiet.refl.applyAll env.between).wire
        refine ⟨extra ++ [⟨a.token, bytes, true⟩], ?_⟩
        rw [hcur, he, List.append_assoc]

end Invariant

/-! ### What reaches a connection -/

/-- Records of which only the last may be partial: whole ones, and at most one partial one. -/
theorem whole_then_partial {l : List Write} (h : l.Pairwise fun w _ => w.whole = true) :
    (∀ w ∈ l, w.whole = true) ∨
      ∃ l' w, l = l' ++ [w] ∧ w.whole = false ∧ ∀ v ∈ l', v.whole = true := by
  induction l with
  | nil => exact .inl (by simp)
  | cons w l ih =>
      obtain ⟨hw, hl⟩ := List.pairwise_cons.mp h
      rcases l with _ | ⟨v, l⟩
      · cases hb : w.whole with
        | true => exact .inl (by simp [hb])
        | false => exact .inr ⟨[], w, rfl, hb, by simp⟩
      · have hwt : w.whole = true := hw v List.mem_cons_self
        rcases ih hl with hall | ⟨l', u, he, hu, hall⟩
        · exact .inl fun x hx => (List.mem_cons.mp hx).elim (fun e => e ▸ hwt) (hall x)
        · exact .inr ⟨w :: l', u, by rw [he]; rfl, hu,
            fun x hx => (List.mem_cons.mp hx).elim (fun e => e ▸ hwt) (hall x)⟩

theorem bytesOn_append (token : Nat) (l₁ l₂ : List Write) :
    bytesOn token (l₁ ++ l₂) = bytesOn token l₁ ++ bytesOn token l₂ := by
  simp [bytesOn]

/-- On one connection, only the last message may be cut short. -/
theorem Wired.records_on {c : CurrentConnection} (h : Wired c) (token : Nat) :
    (c.wire.filter fun w => w.token = token).Pairwise fun w _ => w.whole = true := by
  refine (h.last.filter fun w => w.token = token).imp_of_mem fun {w w'} hw hw' hlast => ?_
  have ht : w'.token = w.token := by
    rw [of_decide_eq_true (List.mem_filter.mp hw').2, of_decide_eq_true (List.mem_filter.mp hw).2]
  cases hb : w.whole with
  | true => rfl
  | false => exact absurd ht (hlast hb)

section Integrity

variable [Platform]

/-- What was written whole is a frame. -/
theorem SenderInv.encoded_of_whole {s : FrameSender} (h : SenderInv s) {w : Write}
    (hw : w ∈ s.current.wire) (hb : w.whole = true) :
    ∃ frameId f, encodeV2Frame frameId f = .ok w.bytes := by
  have hm : w ∈ wholeWrites s.current.wire := List.mem_filter.mpr ⟨hw, hb⟩
  rw [h.whole] at hm
  obtain ⟨d, hd, rfl⟩ := List.mem_map.mp hm
  obtain ⟨-, f, -, -, hf⟩ := h.encoded d hd
  exact ⟨d.frameId, f, hf⟩

/-- The bytes of a connection: encoded frames, and at most one truncated one. -/
theorem SenderInv.bytesOn {s : FrameSender} (h : SenderInv s) (token : Nat) :
    ∃ (frames : List (List UInt8)) (tail : List UInt8),
      bytesOn token s.current.wire = frames.flatten ++ tail ∧
      (∀ b ∈ frames, ∃ frameId f, encodeV2Frame frameId f = .ok b) ∧
      (tail = [] ∨ Truncated tail) := by
  have enc : ∀ l : List Write, (∀ w ∈ l, w ∈ s.current.wire) → (∀ w ∈ l, w.whole = true) →
      ∀ b ∈ l.map (·.bytes), ∃ frameId f, encodeV2Frame frameId f = .ok b := by
    intro l hl hall b hb
    obtain ⟨w, hw, rfl⟩ := List.mem_map.mp hb
    exact h.encoded_of_whole (hl w hw) (hall w hw)
  have mem : ∀ w ∈ s.current.wire.filter fun w => w.token = token, w ∈ s.current.wire :=
    fun w hw => (List.mem_filter.mp hw).1
  rcases whole_then_partial (h.wired.records_on token) with hall | ⟨l, w, he, hw, hall⟩
  · exact ⟨_, [], by rw [Host.bytesOn, List.flatMap_def, List.append_nil], enc _ mem hall, .inl rfl⟩
  · rw [he] at mem
    refine ⟨l.map (·.bytes), w.bytes, ?_, enc l (fun v hv => mem v (by simp [hv])) hall, .inr ?_⟩
    · rw [Host.bytesOn, he, List.flatMap_append, List.flatMap_def]
      simp
    · exact h.truncated w (mem w (by simp)) hw

/-- **Frame stream integrity.**  In every run: the frames fully written, in the order of writing
across all connections, have the ids 1, 2, 3, …; every connection has been given encoded frames
and at most one truncated one; and after a failed write a connection is given nothing more. -/
theorem frame_stream_integrity {es : List SenderEvent} {s : FrameSender}
    (h : Run (Fn senderNext) {} es s) :
    ((wholeWrites s.current.wire).length < 2 ^ 64 ∧
      ∀ i w, (wholeWrites s.current.wire)[i]? = some w →
        ∃ f, encodeV2Frame (UInt64.ofNat (i + 1)) f = .ok w.bytes) ∧
    (∀ token, ∃ (frames : List (List UInt8)) (tail : List UInt8),
      bytesOn token s.current.wire = frames.flatten ++ tail ∧
      (∀ b ∈ frames, ∃ frameId f, encodeV2Frame frameId f = .ok b) ∧
      (tail = [] ∨ Truncated tail)) ∧
    ∀ token, (∃ w ∈ s.current.wire, w.token = token ∧ w.whole = false) →
      ∀ {fs t}, Run (Fn senderNext) s fs t →
        bytesOn token t.current.wire = bytesOn token s.current.wire := by
  have inv := senderInv h
  refine ⟨⟨?_, fun i w hw => ?_⟩, inv.bytesOn, ?_⟩
  · have := s.state.nextFrameId.toNat_lt
    rw [inv.whole, List.length_map]
    have := inv.nextId
    omega
  · rw [inv.whole, List.getElem?_map] at hw
    obtain ⟨d, hd, rfl⟩ := Option.map_eq_some_iff.mp hw
    obtain ⟨-, f, -, -, hf⟩ := inv.encoded d (List.mem_of_getElem? hd)
    have hid : d.frameId.toNat = i + 1 := by
      have := congrArg (·[i]?) inv.ids
      simp only [List.getElem?_map, hd, Option.map_some] at this
      obtain ⟨hi, -⟩ := List.getElem?_eq_some_iff.mp hd
      rw [List.getElem?_range' (by simpa using hi)] at this
      have := Option.some.inj this
      omega
    exact ⟨f, by rw [← hid, UInt64.ofNat_toNat]; exact hf⟩
  · -- after the partial record of a connection none of its records can stand
    rintro token ⟨w, hw, rfl, hp⟩ fs t k
    obtain ⟨extra, he⟩ := Run.wire_prefix k
    have hlast := (senderInv (h.trans k)).wired.last
    rw [← he] at hlast
    have hnone : extra.filter (fun v => v.token = w.token) = [] := by
      refine List.filter_eq_nil_iff.mpr fun v hv => ?_
      simpa using (List.pairwise_append.mp hlast).2.2 w hw v hv hp
    rw [← he, bytesOn_append, Host.bytesOn, Host.bytesOn, hnone]
    simp

end Integrity

/-- One black pixel. -/
def grayDot : Gray8Frame where
  width := 1
  height := 1
  stride := 1
  pixels := [0]
  valid := ⟨by decide, by decide, rfl, rfl⟩

/-- A frame is sent, and the next one fails after three bytes. -/
def resetRun : List SenderEvent :=
  [.connection (.install .GRAY8 (some (1, 1))), .jpeg grayDot ⟨0, (1, 1)⟩ {},
    .jpeg grayDot ⟨0, (1, 1)⟩ ⟨[], .failed 3 "reset"⟩]

theorem frame_stream_integrity_reset :
    ∃ s, exec (@senderNext .usize64) {} resetRun = some s ∧
      (∃ w f, (wholeWrites s.current.wire)[0]? = some w ∧ encodeV2Frame 1 f = .ok w.bytes) ∧
      ∀ t, Fn (@senderNext .usize64) s (.jpeg grayDot ⟨0, (1, 1)⟩ {}) t →
        bytesOn 0 t.current.wire = bytesOn 0 s.current.wire := by
  obtain ⟨s, hs⟩ : ∃ s, exec (@senderNext .usize64) {} resetRun = some s := ⟨_, rfl⟩
  have h := @frame_stream_integrity .usize64 _ _ (run_of_exec hs)
  have hw : ∃ w, (wholeWrites s.current.wire)[0]? = some w := by
    obtain rfl := Option.some.inj hs
    exact ⟨_, rfl⟩
  have hp : ∃ w ∈ s.current.wire, w.token = 0 ∧ w.whole = false := by
    obtain rfl := Option.some.inj hs
    exact ⟨_, .tail _ (.head _), rfl, rfl⟩
  obtain ⟨w, hw⟩ := hw
  obtain ⟨f, hf⟩ := h.1.2 0 w hw
  exact ⟨s, hs, ⟨w, f, hw, hf⟩, fun t k => h.2.2 0 hp (Run.one k)⟩

end PaperPad.Host
