import PaperPad.Device.App
import PaperPad.Host.ApplicationInput
import PaperPad.Support.Transition

/-!
# System — Tap

Touches on the device, the outbound queue, and the host's contact tracking.  A touch may produce
one pointer message, which the queue accepts or rejects; the host handles the accepted messages
in order.  The window keeps its size, and the host's active viewport is the remote viewport.

The device tracks its contact whether or not a message was accepted, so an unrestricted queue
lets the host pair a Down with an Up of another contact (`activation_without_tap`).  It cannot
when no Down is lost under an armed host (`DownKept`): `activation_is_tap`.
-/

namespace PaperPad.System

open Device Host Protocol Transition

/-! ### The system -/

/-- The device, the queue and the host. -/
structure TapState where
  app : AppState
  /-- Accepted pointer messages the host has not handled. -/
  queue : List V2Pointer
  input : ApplicationInput
  deriving DecidableEq, Repr

/-- A touch and whether its message was accepted, or a message and what it activates. -/
inductive TapEvent where
  | touch (event : PointerEvent) (accepted : Bool)
  | deliver (ui : ApplicationUi) (activation : Option ApplicationActivation)
  deriving DecidableEq, Repr

/-- One touch, or the delivery of the oldest accepted message. -/
def tapStep (s : TapState) : TapEvent → Option TapState
  | .touch event accepted =>
      let (app, outcome) := s.app.handlePointer event
      let message := (outcome.remote.map pointerMessage).toList
      some { s with app, queue := s.queue ++ if accepted then message else [] }
  | .deliver ui activation =>
      match s.queue with
      | [] => none
      | p :: queue =>
          let (input, activated) := s.input.handlePointer ui p
          if activated = activation then some { s with queue, input } else none

/-- A window of a size, an empty queue, and the host idle on its remote viewport. -/
def TapState.init (size : UInt16 × UInt16) : TapState where
  app := .new size
  queue := []
  input := ApplicationInput.setViewport {} (some (remoteViewportSize size))

/-- What a step does. -/
theorem tapStep_cases {s t : TapState} {x : TapEvent} (k : tapStep s x = some t) :
    (∃ e accepted, x = .touch e accepted ∧ t =
      { s with
        app := (s.app.handlePointer e).1
        queue := s.queue ++
          if accepted then ((s.app.handlePointer e).2.remote.map pointerMessage).toList
          else [] }) ∨
      ∃ ui p queue, x = .deliver ui (s.input.handlePointer ui p).2 ∧ s.queue = p :: queue ∧
        t = { s with queue, input := (s.input.handlePointer ui p).1 } := by
  cases x with
  | touch e accepted => exact .inl ⟨e, accepted, rfl, (Option.some.inj k).symm⟩
  | deliver ui activation =>
      cases hq : s.queue with
      | nil => simp [tapStep, hq] at k
      | cons p queue =>
          simp only [tapStep, hq] at k
          split at k
          · next ha =>
              subst ha
              exact .inr ⟨ui, p, queue, rfl, rfl, (Option.some.inj k).symm⟩
          · cases k

/-! ### Taps -/

/-- The primary touches of a history, in order. -/
def primaries (es : List TapEvent) : List PointerEvent :=
  es.filterMap fun
    | .touch e _ => if e.detail = PRIMARY_BUTTON_DETAIL then some e else none
    | .deliver _ _ => none

/-- The point lies in a button of the application shown in the window. -/
def OnButton (size : UInt16 × UInt16) (b : UInt8) (point : PhysicalPoint) : Prop :=
  ∃ p, toRemote size point = some p ∧ InButton (remoteViewportSize size) b p.x p.y

/-- A press on the button whose next primary touch is a release on it. -/
def Tapped (size : UInt16 × UInt16) (b : UInt8) (es : List TapEvent) : Prop :=
  ∃ l₁ e₁ e₂ l₂, primaries es = l₁ ++ e₁ :: e₂ :: l₂ ∧
    e₁.IsPrimary .press ∧ OnButton size b e₁.point ∧
      e₂.IsPrimary .release ∧ OnButton size b e₂.point

@[simp] theorem primaries_append (es fs : List TapEvent) :
    primaries (es ++ fs) = primaries es ++ primaries fs :=
  List.filterMap_append

theorem Tapped.append {size : UInt16 × UInt16} {b : UInt8} {es : List TapEvent}
    (h : Tapped size b es) (x : TapEvent) : Tapped size b (es ++ [x]) := by
  obtain ⟨l₁, e₁, e₂, l₂, he, hrest⟩ := h
  exact ⟨l₁, e₁, e₂, l₂ ++ primaries [x], by simp [he], hrest⟩

theorem primaries_auxiliary {e : PointerEvent} {accepted : Bool}
    (h : e.detail ≠ PRIMARY_BUTTON_DETAIL) : primaries [.touch e accepted] = [] := by
  simp [primaries, h]

theorem primaries_primary {e : PointerEvent} {accepted : Bool} {kind : PointerEventKind}
    (h : e.IsPrimary kind) : primaries [.touch e accepted] = [e] := by
  simp [primaries, h.1]

@[simp] theorem primaries_deliver {ui : ApplicationUi} {a : Option ApplicationActivation} :
    primaries [.deliver ui a] = [] := rfl

/-! ### The host once it has handled everything accepted -/

/-- The host after the messages of a queue. -/
def settle (i : ApplicationInput) (queue : List V2Pointer) : ApplicationInput :=
  queue.foldl (fun i p => (i.handlePointer {} p).1) i

/-- What the messages of a queue activate, in order. -/
def activations : ApplicationInput → List V2Pointer → List ApplicationActivation
  | _, [] => []
  | i, p :: queue =>
      (i.handlePointer {} p).2.toList ++ activations (i.handlePointer {} p).1 queue

@[simp] theorem settle_append (i : ApplicationInput) (queue : List V2Pointer) (p : V2Pointer) :
    settle i (queue ++ [p]) = ((settle i queue).handlePointer {} p).1 := by
  simp [settle]

theorem activations_append (i : ApplicationInput) (queue : List V2Pointer) (p : V2Pointer) :
    activations i (queue ++ [p]) =
      activations i queue ++ ((settle i queue).handlePointer {} p).2.toList := by
  induction queue generalizing i with
  | nil => simp [activations, settle]
  | cons q queue ih => simp [activations, settle, ih]

@[simp] theorem settle_viewport (i : ApplicationInput) (queue : List V2Pointer) :
    (settle i queue).viewport = i.viewport := by
  induction queue generalizing i with
  | nil => rfl
  | cons p queue ih => simpa [settle] using ih (i.handlePointer {} p).1

/-- **No Down is lost under an armed host.**  When the queue rejects the Down of a touch, the
host, once it has handled everything accepted, is not armed on a button the touch is off. -/
def DownKept (size : UInt16 × UInt16) (s : TapState) : TapEvent → Prop
  | .touch e accepted =>
      e.IsPrimary .press → s.app.remoteContactActive = false → (toRemote size e.point).isSome →
        accepted = false →
        ∀ b, (settle s.input s.queue).contact = .armed b → OnButton size b e.point
  | .deliver _ _ => True

/-! ### The invariant -/

/-- While the device's contact is active, its press is the last primary touch, and a settled
host that is armed is armed on that press.  What the queue will activate has been tapped. -/
structure TapInv (size : UInt16 × UInt16) (es : List TapEvent) (s : TapState) : Prop where
  size_eq : s.app.size = size
  viewport : ∀ v, s.input.viewport = some v → v = remoteViewportSize size
  last : s.app.remoteContactActive = true → ∃ l e, primaries es = l ++ [e] ∧ e.IsPrimary .press ∧
    ∀ b, (settle s.input s.queue).contact = .armed b → OnButton size b e.point
  pending : ∀ a ∈ activations s.input s.queue, Tapped size a.buttonId es

namespace TapInv

variable {size : UInt16 × UInt16} {es : List TapEvent} {s : TapState} {x : TapEvent}

/-- A message that activates only tapped buttons keeps what is pending tapped. -/
theorem pending_append (h : TapInv size es s) {p : V2Pointer}
    (hp : ∀ a, ((settle s.input s.queue).handlePointer {} p).2 = some a →
      Tapped size a.buttonId (es ++ [x])) :
    ∀ a ∈ activations s.input (s.queue ++ [p]), Tapped size a.buttonId (es ++ [x]) := by
  intro a ha
  rw [activations_append] at ha
  rcases List.mem_append.mp ha with ha | ha
  · exact (h.pending a ha).append x
  · exact hp a (Option.mem_toList.mp ha)

/-- A touch that leaves the device without a contact and the queue as it is. -/
theorem silent (h : TapInv size es s) {app : AppState} (hsize : app.size = size)
    (hact : app.remoteContactActive = false) : TapInv size (es ++ [x]) { s with app } :=
  ⟨hsize, h.viewport, by simp [hact], fun a ha => (h.pending a ha).append x⟩

/-- A release is forwarded: it completes the tap of the last press, or is off every button. -/
theorem up (h : TapInv size es s) {app : AppState} {accepted : Bool} {r : RemotePointerEvent}
    (hsize : app.size = size) (hact : app.remoteContactActive = false) (hr : r.kind = .release)
    (htap : ∀ b, (settle s.input s.queue).contact = .armed b →
      InButton (remoteViewportSize size) b r.point.x r.point.y → Tapped size b (es ++ [x])) :
    TapInv size (es ++ [x])
      { s with app, queue := s.queue ++ if accepted then [pointerMessage r] else [] } := by
  cases accepted with
  | false => simpa using h.silent hsize hact
  | true =>
      refine ⟨hsize, h.viewport, by simp [hact], h.pending_append fun a ha => ?_⟩
      have hphase : (pointerMessage r).phase = .up := by simp [pointerMessage, hr]
      obtain ⟨v, hv, harm, hin⟩ := (ApplicationInput.handlePointer_up hphase).2 a ha
      rw [settle_viewport] at hv
      rw [h.viewport v hv] at hin
      exact htap a.buttonId harm hin

/-- A press is forwarded: it is the last touch, and arms the host on itself if at all. -/
theorem down (h : TapInv size es s) {app : AppState} {accepted : Bool} {e : PointerEvent}
    {p : RemotePoint} (hsize : app.size = size) (he : e.IsPrimary .press)
    (hp : toRemote size e.point = some p)
    (hkept : accepted = false → ∀ b, (settle s.input s.queue).contact = .armed b →
      OnButton size b e.point) :
    TapInv size (es ++ [.touch e accepted])
      { s with
        app
        queue := s.queue ++ if accepted then [pointerMessage ⟨.press, p⟩] else [] } := by
  have hlast : primaries (es ++ [.touch e accepted]) = primaries es ++ [e] := by
    rw [primaries_append, primaries_primary he]
  cases accepted with
  | false =>
      simp only [Bool.false_eq_true, if_false, List.append_nil]
      exact ⟨hsize, h.viewport, fun _ => ⟨_, e, hlast, he, hkept rfl⟩,
        fun a ha => (h.pending a ha).append _⟩
  | true =>
      have hdown := @ApplicationInput.handlePointer_down {} (settle s.input s.queue)
        (pointerMessage ⟨.press, p⟩) rfl
      refine ⟨hsize, h.viewport, fun _ => ⟨_, e, hlast, he, fun b hb => ?_⟩,
        h.pending_append fun a ha => absurd (hdown.1.symm.trans ha) (by simp)⟩
      simp only [if_true, settle_append] at hb
      obtain ⟨v, hv, -, hin⟩ := hdown.2 b hb
      rw [settle_viewport] at hv
      rw [h.viewport v hv] at hin
      exact ⟨p, hp, hin⟩

theorem not_inButton_corner {b : UInt8} :
    ¬ InButton (remoteViewportSize size) b (remoteViewportSize size).1
      (remoteViewportSize size).2 := by
  rintro ⟨button, hb, -, hc⟩
  rw [buttonGrid_corner hb] at hc
  cases hc

theorem touch (h : TapInv size es s) {e : PointerEvent} {accepted : Bool}
    (hk : DownKept size s (.touch e accepted)) :
    TapInv size (es ++ [.touch e accepted])
      { s with
        app := (s.app.handlePointer e).1
        queue := s.queue ++ if accepted then
            ((s.app.handlePointer e).2.remote.map pointerMessage).toList else [] } := by
  have hsize : (s.app.handlePointer e).1.size = size := h.size_eq
  rcases e.primary_cases with hd | he | he
  · rw [handlePointer_auxiliary hd]
    refine ⟨h.size_eq, h.viewport, ?_, ?_⟩
    · simpa [primaries_append, primaries_auxiliary hd] using h.last
    · simpa using fun a ha => (h.pending a ha).append (.touch e accepted)
  · obtain ⟨-, -, hact, hremote⟩ := handlePointer_press (s := s.app) he
    rw [hremote, h.size_eq]
    rw [h.size_eq] at hact
    cases ha : s.app.remoteContactActive with
    | true =>
        -- the device cancels its contact at the exclusive corner
        simp only [if_true, Option.map_some, Option.toList_some]
        exact h.up hsize (by simp [hact, ha]) rfl fun b _ hin => absurd hin not_inButton_corner
    | false =>
        cases hp : toRemote size e.point with
        | none => simpa using h.silent hsize (by simp [hact, hp])
        | some p =>
            simp only [Bool.false_eq_true, if_false, Option.map_some, Option.toList_some]
            exact h.down hsize he hp fun hrej => hk he ha (by simp [hp]) hrej
  · obtain ⟨-, -, hact, hremote⟩ := handlePointer_release (s := s.app) he
    rw [hremote, h.size_eq]
    cases ha : s.app.remoteContactActive with
    | false => simpa using h.silent hsize hact
    | true =>
        simp only [if_true, Option.map_some, Option.toList_some]
        -- the contact was opened by the last primary touch
        refine h.up hsize hact rfl fun b harm hin => ?_
        obtain ⟨l, e', hl, he', hon⟩ := h.last ha
        cases hp : toRemote size e.point with
        | none => rw [hp] at hin; exact absurd hin not_inButton_corner
        | some p =>
            rw [hp] at hin
            refine ⟨l, e', e, [], ?_, he', hon b harm, he, p, hp, hin⟩
            simp [primaries_append, hl, primaries_primary he]

theorem step {t : TapState} (h : TapInv size es s) (hk : DownKept size s x) (k : Fn tapStep s x t) :
    TapInv size (es ++ [x]) t := by
  rcases tapStep_cases k with ⟨e, accepted, rfl, rfl⟩ | ⟨ui, p, queue, rfl, hq, rfl⟩
  · exact h.touch hk
  · have hpend := h.pending
    have hlast := h.last
    rw [hq] at hpend hlast
    rw [ApplicationInput.handlePointer_ui {}]
    refine ⟨h.size_eq, by simpa using h.viewport, fun ha => ?_, fun a ha => ?_⟩
    · obtain ⟨l, e, hl, he, hon⟩ := hlast ha
      exact ⟨l, e, by simp [primaries_append, hl], he, hon⟩
    · exact (hpend a (List.mem_append_right _ ha)).append _

/-- What the host activates on delivery has been tapped. -/
theorem deliver_tapped {t : TapState} {ui : ApplicationUi} {a : ApplicationActivation}
    (h : TapInv size es s) (k : Fn tapStep s (.deliver ui (some a)) t) :
    Tapped size a.buttonId es := by
  rcases tapStep_cases k with ⟨e, accepted, he, -⟩ | ⟨ui', p, queue, he, hq, -⟩
  · cases he
  · obtain ⟨rfl, ha⟩ := TapEvent.deliver.inj he
    have hpend := h.pending
    rw [hq] at hpend
    rw [ApplicationInput.handlePointer_ui {}] at ha
    exact hpend a (List.mem_append_left _ (by simp [← ha]))

end TapInv

theorem tapInv_init (size : UInt16 × UInt16) : TapInv size [] (.init size) where
  size_eq := rfl
  viewport v hv := by
    simp only [TapState.init, ApplicationInput.setViewport, Option.filter_eq_some_iff] at hv
    exact (Option.some.inj hv.1).symm
  last := by simp [TapState.init, AppState.new]
  pending := by simp [TapState.init, activations]

/-! ### Tap integrity -/

/-- **A tap is a tap.**  If no Down is lost under an armed host, whatever the queue rejects
otherwise, the host activates only buttons the device saw pressed and released in one contact. -/
theorem activation_is_tap {size : UInt16 × UInt16} {es : List TapEvent} {s t : TapState}
    {ui : ApplicationUi} {a : ApplicationActivation}
    (h : Run (restrict (Fn tapStep) (DownKept size)) (.init size) es s)
    (k : Fn tapStep s (.deliver ui (some a)) t) : Tapped size a.buttonId es := by
  have inv : TapInv size es s :=
    h.history (I := TapInv size) (tapInv_init size) fun _ ih k => ih.step k.1 k.2
  exact inv.deliver_tapped k

/-- A press on button 1 is accepted; its release in a gap and a second press on button 1 are
rejected; the release of that is accepted. -/
def tapAgain : List TapEvent :=
  [.touch (touch .press 100 100) true, .touch (touch .release 5 5) false,
    .touch (touch .press 100 100) false, .touch (touch .release 100 100) true, .deliver {} none]

theorem activation_is_tap_again : Tapped deviceSize 1 tapAgain := by
  have accepted : ∀ (s : TapState) (e : PointerEvent), DownKept deviceSize s (.touch e true) :=
    fun _ _ _ _ _ h => absurd h (by decide)
  have released : ∀ s : TapState, DownKept deviceSize s (.touch (touch .release 5 5) false) :=
    fun _ h => absurd h.2 (by decide)
  -- the host is armed on the button the lost press is on
  have lost : ∀ s : TapState, (settle s.input s.queue).contact = .armed 1 →
      DownKept deviceSize s (.touch (touch .press 100 100) false) := by
    intro s harmed _ _ _ _ b hb
    obtain rfl : 1 = b := ContactState.armed.inj (harmed.symm.trans hb)
    exact ⟨_, rfl, by decide⟩
  have h : Run (restrict (Fn tapStep) (DownKept deviceSize)) (.init deviceSize) tapAgain _ :=
    .cons ⟨accepted _ _, rfl⟩ (.cons ⟨released _, rfl⟩ (.cons ⟨lost _ (by decide), rfl⟩
      (.cons ⟨accepted _ _, rfl⟩ (.one ⟨trivial, rfl⟩))))
  exact @activation_is_tap _ _ _ _ {} ⟨1, "media.play_pause"⟩ h rfl

/-! ### A tap that was none -/

theorem zip_tail_of_consecutive {α : Type*} {l : List α} {l₁ : List α} {a b : α} {l₂ : List α}
    (h : l = l₁ ++ a :: b :: l₂) : (a, b) ∈ l.zip l.tail := by
  subst h
  induction l₁ with
  | nil => simp
  | cons c l₁ ih =>
      cases l₁ with
      | nil => simp
      | cons d l₁ => exact List.mem_cons_of_mem _ ih

instance (size : UInt16 × UInt16) (b : UInt8) (point : PhysicalPoint) :
    Decidable (OnButton size b point) :=
  decidable_of_iff
    ((toRemote size point).any fun p => InButton (remoteViewportSize size) b p.x p.y) (by
      simp only [OnButton]
      cases toRemote size point <;> simp)

/-- A press on button 1 is accepted; its release in a gap and the press after it, in the gap, are
rejected; the release of that, on button 1, is accepted. -/
def lostContact : List TapEvent :=
  [.touch (touch .press 100 100) true, .touch (touch .release 5 5) false,
    .touch (touch .press 5 5) false, .touch (touch .release 100 100) true, .deliver {} none]

theorem not_tapped_lostContact : ¬ Tapped deviceSize 1 lostContact := by
  rintro ⟨l₁, e₁, e₂, l₂, he, hp, hon, hr, hon'⟩
  have hmem := zip_tail_of_consecutive he
  have hall : ∀ p ∈ (primaries lostContact).zip (primaries lostContact).tail,
      ¬ (p.1.IsPrimary .press ∧ OnButton deviceSize 1 p.1.point ∧ p.2.IsPrimary .release ∧
        OnButton deviceSize 1 p.2.point) := by decide
  exact hall _ hmem ⟨hp, hon, hr, hon'⟩

/-- **Two contacts, one activation.**  The host pairs the Down of one contact with the Up of the
next. -/
theorem activation_without_tap :
    ¬ ∀ (size : UInt16 × UInt16) (es : List TapEvent) (s t : TapState) (ui : ApplicationUi)
      (a : ApplicationActivation), Run (Fn tapStep) (.init size) es s →
      Fn tapStep s (.deliver ui (some a)) t → Tapped size a.buttonId es := by
  intro hall
  obtain ⟨t, ht⟩ : ∃ t, exec tapStep (.init deviceSize)
      (lostContact ++ [.deliver {} (some ⟨1, "media.play_pause"⟩)]) = some t := ⟨_, rfl⟩
  obtain ⟨s', hs', hk⟩ := (run_of_exec ht).unsnoc
  exact not_tapped_lostContact (hall deviceSize lostContact s' t {} ⟨1, "media.play_pause"⟩ hs' hk)

end PaperPad.System
