import Mathlib.Data.List.Destutter
import PaperPad.Device.LatestFrame
import PaperPad.Device.Paperpad
import PaperPad.Support.Distinct

/-!
# Device — Strip

What holds over every run of the whole loop, on any display that keeps the size it is given.

* `core_run`: with the display forgotten, a run of the whole loop is one of `EventLoop`, so what
  was shown for that one holds.
* `strip_current`: where the loop waits for an event, the strip drawn last was drawn without a
  failure, for the window as it is and for the connection as this turn of the loop has found it;
  and the indicator was drawn once for every change of what the turns have found.
-/

namespace PaperPad.Device

open Protocol Transition DisplayOperations

section Core

variable {δ α : Type} [DisplayOperations δ α]

namespace Paperpad

/-- The part of a turn that `EventLoop` has. -/
def loopPc : PaperpadPc → LoopPc
  | .resized size => .resized size
  | .sending size => .sending size
  | _ => .idle

/-- The loop without its display. -/
def core (s : Paperpad δ) : EventLoop Unit where
  app := s.app
  display :=
    { dimensions :=
        match s.pc with
        | .resized _ | .sending _ => dimensions s.display
        | _ => s.app.size
      adapter := false }
  transport := s.transport
  pc := loopPc s.pc
  handed := s.handed

/-- The display has the window's size, except while a new one is on its way to it. -/
def Sized (s : Paperpad δ) : Prop :=
  match s.pc with
  | .resized size | .sending size => s.app.size = size
  | .exited _ => True
  | _ => dimensions s.display = s.app.size

end Paperpad

variable {s u : Paperpad δ} {e : PaperpadEvent α}

open Paperpad

theorem dimensions_drawSystemUi [LawfulDisplay δ] {d d' : δ} {connected : Bool}
    {answer : α} {result : Fallible Unit}
    (h : drawSystemUi d connected answer = (result, d')) : dimensions d' = dimensions d := by
  have hd := LawfulDisplay.drawSystemUi d connected answer
  rwa [h] at hd

theorem Paperpad.Sized.start (window : Nat) (display : δ) : (start window display).Sized := rfl

theorem Paperpad.Sized.step [LawfulDisplay δ] (h : s.Sized) (k : PaperpadMove s e u) :
    u.Sized := by
  cases k with
  | indicatorSame hpc => simpa only [Sized, hpc] using h
  | indicatorDrawn hpc _ _ _ hs =>
      simp only [Sized, hpc] at h ⊢
      exact (dimensions_drawSystemUi hs).trans h
  | pollNone hpc => simpa only [Sized, hpc] using h
  | poll hpc =>
      simp only [Sized, hpc] at h ⊢
      exact (LawfulDisplay.displayRemoteFrame ..).trans h
  | quiet hpc => simpa only [Sized, hpc] using h
  | expose hpc hs =>
      simp only [Sized, hpc, redrawn] at h ⊢
      exact (LawfulDisplay.redrawCachedFrame ..).trans
        ((dimensions_drawSystemUi hs).trans h)
  | resized _ _ ha => exact ha
  | button hpc _ hn =>
      simp only [Sized, hpc] at h
      rcases hn with rfl | rfl <;> exact h
  | pointer hpc _ hn =>
      simp only [Sized, hpc] at h
      rcases hn with rfl | rfl <;> exact h
  | unmapNotify hpc =>
      simp only [Sized, hpc] at h
      exact h
  | destroyNotify => trivial
  | sendViewportChanged hpc => simpa only [Sized, hpc] using h
  | @setDimensions _ size _ d d' hpc _ hd hs =>
      have hsize : dimensions d' = size :=
        (dimensions_drawSystemUi hs).trans (LawfulDisplay.setDimensions hd)
      simp only [Sized, hpc, redrawn] at h ⊢
      exact (LawfulDisplay.redrawCachedFrame ..).trans (hsize.trans h.symm)
  | destroyWindow hpc => simpa only [Sized, hpc] using h
  | failed _ _ hu => simp only [Sized, hu]
  | transport => exact h

/-- Between two calls of the transport. -/
theorem core_idle (hpc : loopPc s.pc = .idle) :
    s.core = ⟨s.app, { dimensions := s.app.size, adapter := false }, s.transport, .idle,
      s.handed⟩ := by
  cases hs : s.pc <;> simp_all [core, loopPc]

/-- Setting the size of the display that is forgotten. -/
theorem core_setDimensions [Platform] {size : Viewport} (h : s.app.size = size)
    (hpc : s.pc = .sending size) (hm : s.transport.main = .idle) :
    loopStep s.core .setDimensions = some
      ⟨s.app, { dimensions := s.app.size, adapter := false }, s.transport, .idle, s.handed⟩ := by
  simp only [loopStep, core, hpc, loopPc, hm, X11DisplayBackend.setDimensions, h]
  rfl

/-- **The display does not steer the loop**: a step is one of `EventLoop` or none, and one of the
transport only if it is itself. -/
theorem core_step [Platform] (h : s.Sized) (k : PaperpadMove s e u) :
    u.core = s.core ∨ ∃ f, (∀ event, f = .transport event → e = .transport event) ∧
      loopStep s.core f = some u.core := by
  have hready (hm : s.transport.main = .idle) :
      (⟨s.app, { dimensions := s.app.size, adapter := false }, s.transport, .idle,
        s.handed⟩ : EventLoop Unit).Ready := ⟨rfl, hm⟩
  cases k with
  | indicatorSame hpc | indicatorDrawn hpc | quiet hpc | expose hpc | destroyNotify hpc
  | destroyWindow hpc => exact .inl (by simp only [core, hpc, loopPc, redrawn])
  | @pollNone _ t hpc hm hf ht =>
      refine .inr ⟨.poll .prepareFailed, by simp, ?_⟩
      rw [core_idle (by rw [hpc]; rfl), core_idle rfl]
      simp only [loopStep, if_pos (hready hm), ht, Option.map_some, FrameMailboxState.take, hf]
  | @poll _ t f hpc hm hf ht =>
      refine .inr ⟨.poll .prepareFailed, by simp, ?_⟩
      rw [core_idle (by rw [hpc]; rfl), core_idle rfl]
      simp only [loopStep, if_pos (hready hm), ht, Option.map_some, FrameMailboxState.take, hf,
        EventLoop.handOver, RemoteFrame.ofReceived_eq_ok, X11DisplayBackend.displayRemoteFrame,
        ite_self]
  | @resized _ _ reported _ hpc hm ha hg =>
      refine .inr ⟨.configureNotify reported, by simp, ?_⟩
      simp only [Sized, hpc] at h
      rw [core_idle (by rw [hpc]; rfl)]
      simp only [loopStep, if_pos (hready hm), hg]
      simp only [core, loopPc, h]
  | @button _ _ event _ hpc hm hn ho =>
      refine .inr ⟨.button event, by simp, ?_⟩
      rw [core_idle (by rw [hpc]; rfl), core_idle (by rcases hn with rfl | rfl <;> rfl)]
      simp only [loopStep, if_pos (hready hm), ho, AppState.handlePointer_size]
  | @pointer _ _ event _ _ _ hpc hm hn ho ht =>
      refine .inr ⟨.button event, by simp, ?_⟩
      rw [core_idle (by rw [hpc]; rfl), core_idle (by rcases hn with rfl | rfl <;> rfl)]
      simp only [loopStep, if_pos (hready hm), ho, ht, Option.map_some,
        AppState.handlePointer_size]
  | unmapNotify hpc hm =>
      refine .inr ⟨.unmapNotify, by simp, ?_⟩
      rw [core_idle (by rw [hpc]; rfl), core_idle rfl]
      simp only [loopStep, if_pos (hready hm), AppState.cancelContact_size]
  | sendViewportChanged hpc ht =>
      refine .inr ⟨.sendViewportChanged, by simp, ?_⟩
      simp only [loopStep, core, hpc, loopPc, ht, Option.map_some]
  | setDimensions hpc hm =>
      simp only [Sized, hpc] at h
      exact .inr ⟨.setDimensions, by simp, core_setDimensions h hpc hm⟩
  | failed hm hr hu ha ht hh =>
      have hcore : u.core = ⟨s.app, { dimensions := s.app.size, adapter := false }, s.transport,
          .idle, s.handed⟩ := by rw [core_idle (by rw [hu]; rfl), ha, ht, hh]
      rw [hcore]
      cases hpc : s.pc with
      | resized size => exact absurd hpc (hr size)
      | sending size =>
          simp only [Sized, hpc] at h
          exact .inr ⟨.setDimensions, by simp, core_setDimensions h hpc (hm size hpc)⟩
      | _ => exact .inl (core_idle (by rw [hpc]; rfl)).symm
  | @transport event _ he ht =>
      refine .inr ⟨.transport event, by rintro _ ⟨⟩; rfl, ?_⟩
      simp only [loopStep, he, core, ht, Option.map_some]
      rfl

/-- **With the display forgotten**, a run of the loop is one of `EventLoop`. -/
theorem core_run [Platform] [LawfulDisplay δ] {window : Nat} {display : δ}
    {es : List (PaperpadEvent α)} (h : Run (Fn paperpadStep) (.start window display) es s) :
    s.Sized ∧ ∃ fs, Run (Fn loopStep)
      (.start (dimensions display) false (pixelFormats display)) fs s.core := by
  refine h.invariant (I := fun s => s.Sized ∧ ∃ fs, Run (Fn loopStep)
    (.start (dimensions display) false (pixelFormats display)) fs s.core) ?_
    ⟨.start window display, [], .refl _⟩
  rintro s e u ⟨hs, fs, hfs⟩ k
  have k := paperpadStep_move k
  refine ⟨hs.step k, ?_⟩
  rcases core_step hs k with hu | ⟨f, -, hf⟩
  · exact ⟨fs, hu ▸ hfs⟩
  · exact ⟨fs ++ [f], .snoc hfs hf⟩

end Core

/-! ### The strip -/

section Strip

variable {δ α : Type} [DisplayOperations δ α] {s u : Paperpad δ} {e : PaperpadEvent α}

open Paperpad

/-- The loop has not ended. -/
def Paperpad.Live (s : Paperpad δ) : Prop := ∀ r, s.pc ≠ .exited r

/-- The strip drawn last: for the window as the display has it, and for what the turn found. -/
structure Stripped (s : Paperpad δ) : Prop where
  displayed : s.displayedConnection = s.readings.getLast?
  indicators : s.indicators = s.readings.destutter (· ≠ ·)
  found : s.pc ≠ .top → s.displayedConnection = some s.connected
  strip : ∀ connected, s.displayedConnection = some connected →
    s.strips.getLast? = some ⟨dimensions s.display, connected, true⟩

namespace Stripped

theorem start (window : Nat) (display : δ) : Stripped (start window display) :=
  ⟨rfl, rfl, fun h => absurd rfl h, nofun⟩

/-- A step that draws no strip. -/
theorem keep (h : Stripped s) (hd : u.displayedConnection = s.displayedConnection)
    (hr : u.readings = s.readings) (hi : u.indicators = s.indicators)
    (hc : u.connected = s.connected) (hl : u.strips = s.strips)
    (hn : dimensions u.display = dimensions s.display) (hpc : u.pc ≠ .top → s.pc ≠ .top) :
    Stripped u := by
  refine ⟨by rw [hd, hr]; exact h.displayed, by rw [hi, hr]; exact h.indicators, ?_, ?_⟩
  · intro ht
    rw [hd, hc]
    exact h.found (hpc ht)
  · rw [hd, hl, hn]
    exact h.strip

/-- A redraw, of the strip and of what is above it. -/
theorem redraw [LawfulDisplay δ] (h : Stripped s) (hpc : s.pc ≠ .top) {d d' : δ}
    {cause : RedrawCause} {answer answer' : α}
    (hs : drawSystemUi d s.connected answer = (.ok (), d')) :
    Stripped ({ s with display := d }.redrawn d' cause answer') := by
  refine ⟨h.displayed, h.indicators, fun ht => absurd rfl ht, fun connected hd => ?_⟩
  obtain rfl : s.connected = connected := Option.some.inj ((h.found hpc).symm.trans hd)
  have hdim : dimensions (redrawCachedFrame d' cause answer') = dimensions d :=
    (LawfulDisplay.redrawCachedFrame ..).trans (dimensions_drawSystemUi hs)
  simp only [redrawn, List.getLast?_concat, hdim]

theorem step [LawfulDisplay δ] (h : Stripped s) (k : PaperpadMove s e u) (hu : u.Live) :
    Stripped u := by
  cases k with
  | @indicatorSame _ connected hpc _ _ hd =>
      have hlast : s.readings.getLast? = some connected := h.displayed.symm.trans hd
      refine ⟨?_, ?_, fun _ => hd, h.strip⟩
      · rw [List.getLast?_concat]
        exact hd
      · rw [Distinct.destutter_concat, if_pos hlast]
        exact h.indicators
  | @indicatorDrawn _ connected d hpc _ _ hd hs =>
      have hlast : ¬ s.readings.getLast? = some connected := h.displayed ▸ hd
      refine ⟨List.getLast?_concat.symm, ?_, fun _ => rfl, ?_⟩
      · rw [Distinct.destutter_concat, if_neg hlast, h.indicators]
      · rintro _ ⟨⟩
        rw [List.getLast?_concat, dimensions_drawSystemUi hs]
  | poll hpc =>
      exact h.keep rfl rfl rfl rfl rfl (LawfulDisplay.displayRemoteFrame ..)
        fun _ => by simp [hpc]
  | expose hpc hs => exact h.redraw (by simp [hpc]) hs
  | setDimensions hpc _ _ hs => exact h.redraw (by simp [hpc]) hs
  | pollNone hpc | quiet hpc | resized hpc | button hpc | pointer hpc | unmapNotify hpc
  | sendViewportChanged hpc | destroyWindow hpc =>
      exact h.keep rfl rfl rfl rfl rfl rfl fun _ => by simp [hpc]
  | destroyNotify => exact absurd rfl (hu _)
  | failed _ _ hpc => exact absurd hpc (hu _)
  | transport => exact h.keep rfl rfl rfl rfl rfl rfl id

end Stripped

/-- A loop that goes on has not ended before. -/
theorem PaperpadMove.live (k : PaperpadMove s e u) (hu : u.Live) : s.Live := by
  cases k with
  | indicatorSame hpc | indicatorDrawn hpc | pollNone hpc | poll hpc | quiet hpc | expose hpc
  | resized hpc | button hpc | pointer hpc | unmapNotify hpc | destroyNotify hpc
  | sendViewportChanged hpc | setDimensions hpc | destroyWindow hpc =>
      intro r hr
      simp [hpc] at hr
  | failed _ _ hpc => exact absurd hpc (hu _)
  | transport => exact hu

section Run

variable [Platform] [LawfulDisplay δ] {window : Nat} {display : δ}
  {es : List (PaperpadEvent α)}

theorem stripped_run (h : Run (Fn paperpadStep) (.start window display) es s) (hs : s.Live) :
    Stripped s := by
  refine h.invariant (I := fun s => s.Live → Stripped s) (fun ih k hu => ?_)
    (fun _ => .start window display) hs
  have k := paperpadStep_move k
  exact (ih (k.live hu)).step k hu

omit [LawfulDisplay δ] in
/-- What a turn has found is how the connection was at some moment of the turn. -/
theorem found_this_turn (h : Run (Fn paperpadStep) (.start window display) es s)
    (hs : s.pc = .polling ∨ s.pc = .waiting) :
    ∃ es₁ answer es₂ t, es = es₁ ++ .isConnected answer :: es₂ ∧
      Run (Fn paperpadStep) (.start window display) es₁ t ∧
      t.transport.connection.isConnected = s.connected ∧
      ∀ polled answers, .pollForEvent polled answers ∉ es₂ := by
  refine h.history (I := fun es s => s.pc = .polling ∨ s.pc = .waiting →
    ∃ es₁ answer es₂ t, es = es₁ ++ .isConnected answer :: es₂ ∧
      Run (Fn paperpadStep) (.start window display) es₁ t ∧
      t.transport.connection.isConnected = s.connected ∧
      ∀ polled answers, .pollForEvent polled answers ∉ es₂) (by simp [start])
    (fun {es s e u} h ih k hu => ?_) hs
  have k := paperpadStep_move k
  -- a step within the turn
  have hkeep (hs : s.pc = .polling ∨ s.pc = .waiting) (hc : u.connected = s.connected)
      (he : ∀ polled answers, e ≠ .pollForEvent polled answers) :
      ∃ es₁ answer es₂ t, es ++ [e] = es₁ ++ .isConnected answer :: es₂ ∧
        Run (Fn paperpadStep) (.start window display) es₁ t ∧
        t.transport.connection.isConnected = u.connected ∧
        ∀ polled answers, .pollForEvent polled answers ∉ es₂ := by
    obtain ⟨es₁, answer, es₂, t, rfl, ht, hcon, hes⟩ := ih hs
    refine ⟨es₁, answer, es₂ ++ [e], t, by simp, ht, hcon.trans hc.symm, fun polled answers hm => ?_⟩
    rcases List.mem_append.mp hm with hm | hm
    · exact hes polled answers hm
    · exact he polled answers (List.mem_singleton.mp hm).symm
  cases k with
  | indicatorSame _ _ hc | indicatorDrawn _ _ hc =>
      exact ⟨es, _, [], s, rfl, h, hc, by simp⟩
  | pollNone hpc | poll hpc => exact hkeep (.inl hpc) rfl (by simp)
  | transport => exact hkeep hu rfl (by simp)
  | button _ _ hn | pointer _ _ hn => rcases hn with rfl | rfl <;> simp at hu
  | failed _ _ hpc => simp [hpc] at hu
  | _ => simp [redrawn] at hu

/-- **The strip is current.**  On every display that keeps the size it is given, whatever the
server sends and answers and in whatever order the transport's threads run: where the loop waits
for an event, the strip drawn last was drawn without a failure, for the window as it is and for
the connection as it was at some moment of this turn; the display has the window's size; and the
indicator was drawn once at first and once for every change of what the turns have found. -/
theorem strip_current (h : Run (Fn paperpadStep) (.start window display) es s)
    (hw : s.pc = .waiting) :
    s.strips.getLast? = some ⟨s.app.size, s.connected, true⟩ ∧
      dimensions s.display = s.app.size ∧
      s.indicators = s.readings.destutter (· ≠ ·) ∧
      s.readings.getLast? = some s.connected ∧
      ∃ es₁ answer es₂ t, es = es₁ ++ .isConnected answer :: es₂ ∧
        Run (Fn paperpadStep) (.start window display) es₁ t ∧
        t.transport.connection.isConnected = s.connected ∧
        ∀ polled answers, .pollForEvent polled answers ∉ es₂ := by
  have hs : Stripped s := stripped_run h fun _ hr => by simp [hw] at hr
  have hsize : dimensions s.display = s.app.size := by
    have hsized := (core_run h).1
    simpa only [Sized, hw] using hsized
  have hfound : s.displayedConnection = some s.connected := hs.found (by simp [hw])
  exact ⟨hsize ▸ hs.strip _ hfound, hsize, hs.indicators, hs.displayed ▸ hfound,
    found_this_turn h (.inr hw)⟩

end Run

/-! ### Two turns -/

section Turns

variable {display : δ} {answer : α}

/-- The strip was drawn for another connection than the one displayed. -/
def Paperpad.indicated (s : Paperpad δ) (connected : Bool) (d : δ) : Paperpad δ :=
  { s with
    display := d
    connected
    displayedConnection := some connected
    readings := s.readings ++ [connected]
    indicators := s.indicators ++ [connected]
    strips := s.strips ++ [⟨dimensions s.display, connected, true⟩]
    pc := .polling }

/-- The frame was handed over, and the turn goes on to its wait. -/
def Paperpad.shown (s : Paperpad δ) (answer : α) (f : ReceivedFrame) : Paperpad δ :=
  { s with
    display := displayRemoteFrame s.display (.ofFrame f.frameId f.frame) answer
    transport := { s.transport with frames := s.transport.frames.take.1 }
    handed := s.handed ++ [⟨f, remoteViewportSize s.app.size⟩]
    pc := .waiting }

/-- The transport comes online and a frame of the viewport's size arrives. -/
def greeting (frameId : UInt64) (f : Frame) : List TransportEvent :=
  [.main .promote, .reader (.receive frameId f), .reader .publish]

/-- None of it is a call of the main thread. -/
theorem greeting_isCall {frameId : UInt64} {f : Frame} :
    ∀ e ∈ greeting frameId f, e.IsCall = false :=
  List.forall_mem_cons.mpr ⟨rfl, List.forall_mem_cons.mpr ⟨rfl, List.forall_mem_singleton.mpr rfl⟩⟩

/-- The transport after it. -/
def greeted (viewport : Viewport) (pixelFormats : V2PixelFormats) (frameId : UInt64) (f : Frame) :
    Transport :=
  { (Transport.start viewport pixelFormats).fromStream with
    receivedCount := 1
    frames := { viewport, pending := some ⟨frameId, f, 0⟩ } }

theorem transport_greeting {viewport : Viewport} (pixelFormats : V2PixelFormats) (frameId : UInt64)
    {f : Frame} (hf : (f.width, f.height) = viewport) :
    Run (Fn transportStep) (.start viewport pixelFormats) (greeting frameId f)
      (greeted viewport pixelFormats frameId f) := by
  refine .cons rfl (.cons rfl (.one ?_))
  have hd : (⟨frameId, f, 0⟩ : ReceivedFrame).dimensions = viewport := hf
  simp only [Fn, transportStep, readerStep, Transport.fromStream, Transport.start,
    FrameMailboxState.publish, FrameMailboxState.setViewport, hd, ne_eq, not_true_eq_false,
    if_false]
  rfl

/-- A turn that finds no connection, and in which there comes one with a frame. -/
def greetedTurn (answer : α) (frameId : UInt64) (f : Frame) : List (PaperpadEvent α) :=
  .isConnected answer :: (greeting frameId f).map .transport ++ [.pollFrame answer]

/-- A turn after it in which there is no event and no frame. -/
def quietTurn (answer : α) : List (PaperpadEvent α) :=
  [.pollForEvent (.ok none) (answer, answer), .isConnected answer, .pollFrame answer]

/-- Where the first turn waits. -/
def greetedState (window : Nat) (display d : δ) (answer : α) (frameId : UInt64) (f : Frame) :
    Paperpad δ :=
  { (start window display).indicated false d with
    transport := greeted (remoteViewportSize (dimensions display)) (pixelFormats display) frameId f
  }.shown answer ⟨frameId, f, 0⟩

variable [Platform]

theorem paperpadStep_isConnected {connected : Bool} {d : δ} (hpc : s.pc = .top)
    (hm : s.transport.main = .idle) (hc : s.transport.connection.isConnected = connected)
    (hd : s.displayedConnection ≠ some connected)
    (h : drawSystemUi s.display connected answer = (.ok (), d)) :
    paperpadStep s (.isConnected answer) = some (s.indicated connected d) := by
  subst hc
  have hi : s.indicate answer = (.ok (), { s.indicated s.transport.connection.isConnected d with pc := s.pc }) := by
    rw [indicate, connectionIndicatorChanged, if_neg hd]
    simp only [if_true, drawStrip, h]
    rfl
  simp only [paperpadStep, if_pos (And.intro hpc hm), hi]
  rfl

theorem paperpadStep_pollFrame {f : ReceivedFrame} (hpc : s.pc = .polling)
    (hm : s.transport.main = .idle) (hf : s.transport.frames.pending = some f) :
    paperpadStep s (.pollFrame answer) = some (s.shown answer f) := by
  have hpoll : mainStep s.transport .pollFrame =
      some { s.transport with frames := s.transport.frames.take.1 } := by simp only [mainStep, hm]
  have htake : s.transport.frames.take.2 = some f := hf
  simp only [paperpadStep, if_pos (And.intro hpc hm), hpoll, Option.map_some, htake, handOver,
    RemoteFrame.ofReceived_eq_ok]
  rfl

theorem paperpadStep_pollNone (hpc : s.pc = .polling) (hm : s.transport.main = .idle)
    (hf : s.transport.frames.pending = none) :
    paperpadStep s (.pollFrame answer) =
      some { s with transport := { s.transport with frames := s.transport.frames.take.1 },
                    pc := .waiting } := by
  have hpoll : mainStep s.transport .pollFrame =
      some { s.transport with frames := s.transport.frames.take.1 } := by simp only [mainStep, hm]
  have htake : s.transport.frames.take.2 = none := hf
  simp only [paperpadStep, if_pos (And.intro hpc hm), hpoll, Option.map_some, htake]

/-- The steps of the transport between two of the loop's. -/
theorem run_transport {t : Transport} {es : List TransportEvent}
    (h : Run (Fn transportStep) s.transport es t) (hes : ∀ e ∈ es, e.IsCall = false) :
    Run (Fn paperpadStep) s (es.map .transport) { s with transport := t } := by
  induction h with
  | refl => exact .refl s
  | @snoc t t' es e _ hk ih =>
      rw [List.map_append]
      refine .snoc (ih fun e he => hes e (List.mem_append_left _ he)) ?_
      have hcall : ¬ e.IsCall = true := by rw [hes e (by simp)]; decide
      simp only [Fn, paperpadStep, if_neg hcall]
      exact congrArg (Option.map _) hk

/-- A turn with a frame, if the strip can be drawn. -/
theorem run_greetedTurn (window : Nat) {d : δ} (frameId : UInt64) {f : Frame}
    (h : drawSystemUi display false answer = (.ok (), d))
    (hf : (f.width, f.height) = remoteViewportSize (dimensions display)) :
    Run (Fn paperpadStep) (start window display) (greetedTurn answer frameId f)
      (greetedState window display d answer frameId f) := by
  have hfirst : paperpadStep (start window display) (.isConnected answer) =
      some ((start window display).indicated false d) :=
    paperpadStep_isConnected rfl rfl rfl nofun h
  have hgreeting := run_transport (s := (start window display).indicated false d)
    (transport_greeting (pixelFormats display) frameId hf) greeting_isCall
  exact (Run.cons hfirst hgreeting).snoc (paperpadStep_pollFrame rfl rfl rfl)

/-- The turn after it draws the strip again, for the connection there is now. -/
theorem run_quietTurn (window : Nat) {d d' : δ} (frameId : UInt64) {f : Frame}
    (h : drawSystemUi (greetedState window display d answer frameId f).display true answer =
      (.ok (), d')) :
    ∃ s, Run (Fn paperpadStep) (greetedState window display d answer frameId f) (quietTurn answer)
        s ∧ s.pc = .waiting ∧ s.connected = true ∧ s.readings = [false, true] ∧
      s.app = .new (dimensions display) ∧
      s.handed = [⟨⟨frameId, f, 0⟩, remoteViewportSize (dimensions display)⟩] := by
  have hquiet : paperpadStep (greetedState window display d answer frameId f)
      (.pollForEvent (.ok none) (answer, answer)) =
        some { greetedState window display d answer frameId f with pc := .top } := rfl
  have hconnected : paperpadStep
      { greetedState window display d answer frameId f with pc := .top } (.isConnected answer) =
        some ({ greetedState window display d answer frameId f with pc := .top }.indicated true
          d') :=
    paperpadStep_isConnected rfl rfl rfl (by simp [greetedState, indicated, shown]) h
  have hpoll : paperpadStep
      ({ greetedState window display d answer frameId f with pc := .top }.indicated true d')
        (.pollFrame answer) = _ :=
    paperpadStep_pollNone rfl rfl rfl
  exact ⟨_, .cons hquiet (.cons hconnected (.one hpoll)), rfl, rfl, rfl, rfl, rfl⟩

end Turns

end Strip

end PaperPad.Device
