import PaperPad.Protocol.Payload

/-!
# Host — Server

The shared current connection of `tools/paperspoon/src/server.rs`.  Every operation is one section
under its lock.

A token (`Arc<()>`) is the number of tokens issued before it.  `wire` is what the sockets have
been given: one record a `write_all`, oldest first.  A failed write shuts its connection down and
clears it, and tokens are never reissued, so a connection with a partial record gets no further
one (`Wired`).
-/

namespace PaperPad.Host

open Protocol

/-- Width and height in pixels. -/
abbrev Viewport := UInt16 × UInt16

/-- The connection frames go to. -/
structure ActiveConnection where
  token : Nat
  pixelFormats : V2PixelFormats
  viewport : Option Viewport
  deriving DecidableEq

/-- The connection a frame is rendered for, and its viewport. -/
structure FrameTarget where
  token : Nat
  viewport : Viewport
  deriving DecidableEq

/-- Why there is no target. -/
inductive FrameTargetError where
  | noConnection
  | unsupportedPixelFormat
  | viewportUnavailable
  deriving DecidableEq

/-- What became of a frame. -/
inductive FrameForward where
  | sent
  | noConnection
  | unsupportedPixelFormat
  | connectionChanged
  | viewportChanged
  deriving DecidableEq

/-- The bytes one `write_all` put on a connection, and whether they were all of them. -/
structure Write where
  token : Nat
  bytes : List UInt8
  whole : Bool
  deriving DecidableEq

/-- How a `write_all` ends: it fails only with bytes left to write. -/
inductive WriteOutcome where
  | accepted
  | failed (written : Nat) (error : String)
  deriving DecidableEq

/-- The connection there is, if any, and the history of tokens and writes. -/
structure CurrentConnection where
  inner : Option ActiveConnection := none
  issued : Nat := 0
  wire : List Write := []
  deriving DecidableEq

namespace CurrentConnection

/-- There is one. -/
def isActive (c : CurrentConnection) : Bool := c.inner.isSome

/-- `install_inner`; a failed clone of the stream installs nothing. -/
def installInner (c : CurrentConnection) (pixelFormats : V2PixelFormats)
    (viewport : Option Viewport) : CurrentConnection × Nat :=
  ({ c with inner := some ⟨c.issued, pixelFormats, viewport⟩, issued := c.issued + 1 }, c.issued)

/-- Install the connection of a Hello. -/
def installForHello (c : CurrentConnection) (pixelFormats : V2PixelFormats) (viewport : Viewport) :
    CurrentConnection × Nat :=
  c.installInner pixelFormats (some viewport)

/-- The target for a format the connection has. -/
def frameTarget (c : CurrentConnection) (pixelFormat : PixelFormat) :
    Except FrameTargetError FrameTarget :=
  match c.inner with
  | none => .error .noConnection
  | some active =>
      if ¬ active.pixelFormats.supports pixelFormat then .error .unsupportedPixelFormat
      else
        match active.viewport with
        | none => .error .viewportUnavailable
        | some viewport => .ok ⟨active.token, viewport⟩

/-- Write a frame when the active peer advertised its format, and, for a target, when that
connection is still current and still has that viewport. -/
def forwardFrameInner (c : CurrentConnection) (bytes : List UInt8) (pixelFormat : PixelFormat)
    (target : Option FrameTarget) (outcome : WriteOutcome) :
    CurrentConnection × Except String FrameForward :=
  match c.inner with
  | none => (c, .ok .noConnection)
  | some active =>
      if target.any fun t => active.token ≠ t.token then (c, .ok .connectionChanged)
      else if target.any fun t => active.viewport ≠ some t.viewport then (c, .ok .viewportChanged)
      else if ¬ active.pixelFormats.supports pixelFormat then (c, .ok .unsupportedPixelFormat)
      else
        match outcome with
        | .accepted => ({ c with wire := c.wire ++ [⟨active.token, bytes, true⟩] }, .ok .sent)
        | .failed written error =>
            let start := bytes.take (min written (bytes.length - 1))
            ({ c with inner := none, wire := c.wire ++ [⟨active.token, start, false⟩] },
              .error error)

/-- The connection has a new viewport, if it is still current. -/
def updateViewportIfCurrent (c : CurrentConnection) (candidate : Nat) (viewport : Viewport) :
    CurrentConnection × Bool :=
  match c.inner with
  | none => (c, false)
  | some active =>
      if active.token ≠ candidate then (c, false)
      else ({ c with inner := some { active with viewport := some viewport } }, true)

/-- There is no connection, if this one is still current. -/
def clearIfCurrent (c : CurrentConnection) (candidate : Nat) : CurrentConnection × Bool :=
  match c.inner with
  | none => (c, false)
  | some active =>
      if active.token ≠ candidate then (c, false)
      else ({ c with inner := none }, true)

end CurrentConnection

/-- An operation of the connection thread on the current connection alone. -/
inductive ConnectionEvent where
  | install (pixelFormats : V2PixelFormats) (viewport : Option Viewport)
  | updateViewport (token : Nat) (viewport : Viewport)
  | clear (token : Nat)
  deriving DecidableEq

/-- The connection after the operation. -/
def ConnectionEvent.apply (c : CurrentConnection) : ConnectionEvent → CurrentConnection
  | install pixelFormats viewport => (c.installInner pixelFormats viewport).1
  | updateViewport token viewport => (c.updateViewportIfCurrent token viewport).1
  | clear token => (c.clearIfCurrent token).1

/-! ### What the operations do -/

/-- It changes the viewport of that connection, or nothing. -/
theorem CurrentConnection.updateViewportIfCurrent_cases (c : CurrentConnection) (token : Nat)
    (viewport : Viewport) :
    (c.updateViewportIfCurrent token viewport).1 = c ∨
      ∃ a, c.inner = some a ∧ a.token = token ∧
        (c.updateViewportIfCurrent token viewport).1 =
          { c with inner := some { a with viewport := some viewport } } := by
  unfold updateViewportIfCurrent
  cases hi : c.inner with
  | none => exact .inl rfl
  | some a =>
      by_cases ht : a.token = token
      · exact .inr ⟨a, rfl, ht, by simp [ht]⟩
      · exact .inl (by simp [ht])

/-- It clears that connection, or nothing. -/
theorem CurrentConnection.clearIfCurrent_cases (c : CurrentConnection) (token : Nat) :
    ((c.clearIfCurrent token).1 = c ∧ ∀ a, c.inner = some a → a.token ≠ token) ∨
      ∃ a, c.inner = some a ∧ a.token = token ∧
        (c.clearIfCurrent token).1 = { c with inner := none } := by
  simp only [clearIfCurrent]
  cases hi : c.inner with
  | none => exact .inl ⟨rfl, by simp⟩
  | some a =>
      by_cases ht : a.token = token
      · exact .inr ⟨a, rfl, ht, by simp [ht]⟩
      · exact .inl ⟨by simp [ht], by simp [ht]⟩

/-- A connection event writes nothing; the connection it leaves is the old one, or new. -/
theorem ConnectionEvent.apply_spec (c : CurrentConnection) (e : ConnectionEvent) :
    (e.apply c).wire = c.wire ∧ c.issued ≤ (e.apply c).issued ∧
      ∀ a, (e.apply c).inner = some a →
        a.token < (e.apply c).issued ∧ c.issued ≤ a.token ∨
          ∃ b, c.inner = some b ∧ b.token = a.token ∧ b.pixelFormats = a.pixelFormats := by
  cases e with
  | install formats viewport =>
      refine ⟨rfl, Nat.le_succ _, fun a ha => .inl ?_⟩
      obtain rfl := Option.some.inj ha
      exact ⟨Nat.lt_succ_self _, Nat.le_refl _⟩
  | updateViewport token viewport =>
      rcases c.updateViewportIfCurrent_cases token viewport with h | ⟨b, hb, -, h⟩
      · rw [apply, h]
        exact ⟨rfl, Nat.le_refl _, fun a ha => .inr ⟨a, ha, rfl, rfl⟩⟩
      · rw [apply, h]
        refine ⟨rfl, Nat.le_refl _, fun a ha => .inr ⟨b, hb, ?_⟩⟩
        obtain rfl := Option.some.inj ha
        exact ⟨rfl, rfl⟩
  | clear token =>
      rcases c.clearIfCurrent_cases token with ⟨h, -⟩ | ⟨b, -, -, h⟩
      · rw [apply, h]
        exact ⟨rfl, Nat.le_refl _, fun a ha => .inr ⟨a, ha, rfl, rfl⟩⟩
      · rw [apply, h]
        exact ⟨rfl, Nat.le_refl _, by simp⟩

/-- What a forward does: nothing, a whole record, or a partial record and no connection. -/
theorem CurrentConnection.forwardFrameInner_cases (c : CurrentConnection) (bytes : List UInt8)
    (pixelFormat : PixelFormat) (target : Option FrameTarget) (outcome : WriteOutcome) :
    (∃ r, r ≠ .sent ∧ c.forwardFrameInner bytes pixelFormat target outcome = (c, .ok r)) ∨
      (∃ a, c.inner = some a ∧ a.pixelFormats.supports pixelFormat = true ∧
        outcome = .accepted ∧
        c.forwardFrameInner bytes pixelFormat target outcome =
          ({ c with wire := c.wire ++ [⟨a.token, bytes, true⟩] }, .ok .sent)) ∨
      ∃ a written error, c.inner = some a ∧
        c.forwardFrameInner bytes pixelFormat target outcome =
          ({ c with
              inner := none
              wire := c.wire ++ [⟨a.token, bytes.take (min written (bytes.length - 1)), false⟩] },
            .error error) := by
  simp only [forwardFrameInner]
  cases hi : c.inner with
  | none => exact .inl ⟨.noConnection, by simp, rfl⟩
  | some a =>
      dsimp only
      split
      · exact .inl ⟨.connectionChanged, by simp, rfl⟩
      · split
        · exact .inl ⟨.viewportChanged, by simp, rfl⟩
        · split
          · exact .inl ⟨.unsupportedPixelFormat, by simp, rfl⟩
          · next hs =>
              cases outcome with
              | accepted => exact .inr (.inl ⟨a, rfl, by simpa using hs, rfl, rfl⟩)
              | failed written error => exact .inr (.inr ⟨a, written, error, rfl, rfl⟩)

/-- A frame without a target goes to a connection with its format. -/
theorem CurrentConnection.forwardFrameInner_accepted {c : CurrentConnection} {a : ActiveConnection}
    {pixelFormat : PixelFormat} (ha : c.inner = some a)
    (hs : a.pixelFormats.supports pixelFormat = true) (bytes : List UInt8) :
    c.forwardFrameInner bytes pixelFormat none .accepted =
      ({ c with wire := c.wire ++ [⟨a.token, bytes, true⟩] }, .ok .sent) := by
  simp [forwardFrameInner, ha, hs]

/-! ### The wire -/

/-- Records are in order of their tokens, none is newer than the current connection, and after a
partial record its connection is never current or written again. -/
structure Wired (c : CurrentConnection) : Prop where
  inner_lt : ∀ a, c.inner = some a → a.token < c.issued
  wire_lt : ∀ w ∈ c.wire, w.token < c.issued
  wire_le : ∀ w ∈ c.wire, ∀ a, c.inner = some a → w.token ≤ a.token
  sorted : c.wire.Pairwise fun w w' => w.token ≤ w'.token
  closed : ∀ w ∈ c.wire, w.whole = false → ∀ a, c.inner = some a → a.token ≠ w.token
  last : c.wire.Pairwise fun w w' => w.whole = false → w'.token ≠ w.token

namespace Wired

variable {c : CurrentConnection}

/-- It holds before there is a connection. -/
theorem init : Wired {} where
  inner_lt := by simp
  wire_lt := by simp
  wire_le := by simp
  sorted := .nil
  closed := by simp
  last := .nil

/-- Every operation keeps it. -/
theorem apply (h : Wired c) (e : ConnectionEvent) : Wired (e.apply c) := by
  obtain ⟨hwire, hissued, hinner⟩ := e.apply_spec c
  refine ⟨fun a ha => ?_, ?_, ?_, hwire ▸ h.sorted, ?_, hwire ▸ h.last⟩
  · rcases hinner a ha with ⟨hlt, -⟩ | ⟨b, hb, ht, -⟩
    · exact hlt
    · exact ht ▸ lt_of_lt_of_le (h.inner_lt b hb) hissued
  · rw [hwire]
    exact fun w hw => lt_of_lt_of_le (h.wire_lt w hw) hissued
  · rw [hwire]
    intro w hw a ha
    rcases hinner a ha with ⟨-, hle⟩ | ⟨b, hb, ht, -⟩
    · exact le_of_lt (lt_of_lt_of_le (h.wire_lt w hw) hle)
    · exact ht ▸ h.wire_le w hw b hb
  · rw [hwire]
    intro w hw hp a ha
    rcases hinner a ha with ⟨-, hle⟩ | ⟨b, hb, ht, -⟩
    · exact fun e => absurd (h.wire_lt w hw) (by omega)
    · exact ht ▸ h.closed w hw hp b hb

/-- A record on the current connection, which stays current only if the record is whole. -/
theorem write (h : Wired c) {a : ActiveConnection} (ha : c.inner = some a) (bytes : List UInt8)
    (whole : Bool) (inner : Option ActiveConnection) (hi : whole = true → inner = c.inner)
    (hn : whole = false → inner = none) :
    Wired { c with inner, wire := c.wire ++ [⟨a.token, bytes, whole⟩] } := by
  have hinner : ∀ b, inner = some b → whole = true ∧ b = a := fun b hb => by
    cases whole with
    | false => rw [hn rfl] at hb; cases hb
    | true => exact ⟨rfl, Option.some.inj (hb.symm.trans ((hi rfl).trans ha))⟩
  refine ⟨fun b hb => ?_, fun w hw => ?_, fun w hw b hb => ?_, ?_, fun w hw hp b hb => ?_, ?_⟩
  · exact (hinner b hb).2 ▸ h.inner_lt a ha
  · rcases List.mem_append.mp hw with hw | hw
    · exact h.wire_lt w hw
    · rw [List.mem_singleton.mp hw]; exact h.inner_lt a ha
  · rw [(hinner b hb).2]
    rcases List.mem_append.mp hw with hw | hw
    · exact h.wire_le w hw a ha
    · rw [List.mem_singleton.mp hw]
  · refine List.pairwise_append.mpr ⟨h.sorted, List.pairwise_singleton _ _, fun w hw w' hw' => ?_⟩
    rw [List.mem_singleton.mp hw']
    exact h.wire_le w hw a ha
  · obtain ⟨hwhole, rfl⟩ := hinner b hb
    rcases List.mem_append.mp hw with hw | hw
    · exact h.closed w hw hp b ha
    · -- a partial record leaves no connection
      rw [List.mem_singleton.mp hw] at hp
      exact absurd (hwhole.symm.trans hp) (by decide)
  · refine List.pairwise_append.mpr ⟨h.last, List.pairwise_singleton _ _, fun w hw w' hw' hp => ?_⟩
    rw [List.mem_singleton.mp hw']
    exact h.closed w hw hp a ha

/-- Forwarding a frame keeps it. -/
theorem forward (h : Wired c) (bytes : List UInt8) (pixelFormat : PixelFormat)
    (target : Option FrameTarget) (outcome : WriteOutcome) :
    Wired (c.forwardFrameInner bytes pixelFormat target outcome).1 := by
  rcases c.forwardFrameInner_cases bytes pixelFormat target outcome with
    ⟨r, -, hr⟩ | ⟨a, ha, -, -, hr⟩ | ⟨a, written, error, ha, hr⟩
  · rw [hr]; exact h
  · rw [hr]
    exact h.write ha bytes true c.inner (fun _ => rfl) (by simp)
  · rw [hr]
    exact h.write ha _ false none (by simp) (fun _ => rfl)

end Wired

end PaperPad.Host
