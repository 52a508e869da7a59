import Mathlib.Data.Nat.ModEq
import PaperPad.Mxcfb.Update

/-!
# Mxcfb — Markers

The markers of any sequence of requests.  One marker follows another on the cycle of the nonzero
`u32` values, so marker `k` has a closed form (`toNat_advance`): on the cycle, counted from zero,
it is the first marker plus `k`.  Only a request that is built moves the sequence, so request `k`
carries marker `k` (`issued_marker`), whatever calls failed between.
-/

namespace PaperPad.Mxcfb

open Device Fallible

/-- A request for the panel, with the screen and the visible size it is for. -/
inductive MarkerCall where
  | remote (screen : ScreenLayout) (visibleWidth visibleHeight : UInt32)
  | systemUi (screen : ScreenLayout) (visibleWidth visibleHeight : UInt32)

/-- What the call does with the sequence. -/
def MarkerCall.run : MarkerCall → UpdateMarkerSequence →
    Fallible UpdateDataMtk × UpdateMarkerSequence
  | .remote screen visibleWidth visibleHeight, markers =>
      nextFullGc16RemoteRequest screen visibleWidth visibleHeight markers
  | .systemUi screen visibleWidth visibleHeight, markers =>
      nextFullGc16SystemUiRequest screen visibleWidth visibleHeight markers

/-- The requests that calls return, in order, and the sequence they leave. -/
def issue : List MarkerCall → UpdateMarkerSequence → List UpdateDataMtk × UpdateMarkerSequence
  | [], markers => ([], markers)
  | call :: calls, markers =>
      match call.run markers with
      | (.error _, markers) => issue calls markers
      | (.ok request, markers) => (request :: (issue calls markers).1, (issue calls markers).2)

/-- The number of markers before the first comes again. -/
def markerPeriod : Nat := 4294967295

namespace UpdateMarkerSequence

/-- The sequence after `k` markers. -/
def advance (m : UpdateMarkerSequence) : Nat → UpdateMarkerSequence
  | 0 => m
  | k + 1 => (m.advance k).nextMarker.2

theorem one_le (m : UpdateMarkerSequence) : 1 ≤ m.next.toNat :=
  Nat.one_le_iff_ne_zero.mpr fun h => m.next_ne (UInt32.toNat_inj.mp h)

theorem le_period (m : UpdateMarkerSequence) : m.next.toNat ≤ markerPeriod :=
  Nat.le_of_lt_succ m.next.toNat_lt

/-- The next marker: one more, and after the last the first. -/
theorem toNat_nextMarker (m : UpdateMarkerSequence) :
    m.nextMarker.2.next.toNat = m.next.toNat % markerPeriod + 1 := by
  have hsum : (m.next + 1).toNat = (m.next.toNat + 1) % 4294967296 := UInt32.toNat_add m.next 1
  rcases Nat.eq_or_lt_of_le m.le_period with h | h
  · have hzero : m.next + 1 = 0 := by
      apply UInt32.toNat_inj.mp
      rw [hsum, h]
      rfl
    rw [h, Nat.mod_self]
    simp only [nextMarker, hzero]
    rfl
  · have hfits : m.next.toNat + 1 < 4294967296 := Nat.succ_lt_succ h
    rw [Nat.mod_eq_of_lt hfits] at hsum
    have hle : ¬ m.next + 1 ≤ 1 := by
      rw [UInt32.le_iff_toNat_le, hsum]
      exact Nat.not_le.mpr (Nat.lt_succ_of_le m.one_le)
    have hmax : max (m.next + 1) 1 = m.next + 1 := if_neg hle
    simp only [nextMarker, hmax]
    rw [hsum, Nat.mod_eq_of_lt h]

/-- **The closed form of the markers.** -/
theorem toNat_advance (m : UpdateMarkerSequence) (k : Nat) :
    (m.advance k).next.toNat = (m.next.toNat - 1 + k) % markerPeriod + 1 := by
  induction k with
  | zero =>
      have hlt : m.next.toNat - 1 + 0 < markerPeriod :=
        Nat.lt_of_lt_of_le (Nat.sub_lt m.one_le Nat.one_pos) m.le_period
      rw [advance, Nat.mod_eq_of_lt hlt]
      exact (Nat.sub_add_cancel m.one_le).symm
  | succ k ih => rw [advance, toNat_nextMarker, ih, Nat.mod_add_mod, Nat.add_assoc]

theorem advance_succ (m : UpdateMarkerSequence) (k : Nat) :
    m.nextMarker.2.advance k = m.advance (k + 1) := by
  induction k with
  | zero => rfl
  | succ k ih => rw [advance, ih, ← advance]

/-- Two markers of a sequence are the same exactly a whole number of periods apart. -/
theorem advance_eq_iff (m : UpdateMarkerSequence) (i j : Nat) :
    (m.advance i).next = (m.advance j).next ↔ i % markerPeriod = j % markerPeriod := by
  rw [← UInt32.toNat_inj, toNat_advance, toNat_advance, Nat.add_right_cancel_iff]
  exact Nat.ModEq.add_iff_left (Nat.ModEq.refl _)

theorem ext {m n : UpdateMarkerSequence} (h : m.next = n.next) : m = n := by
  cases m
  cases n
  cases h
  rfl

end UpdateMarkerSequence

/-! ### Calls -/

section Calls

variable {markers : UpdateMarkerSequence}

/-- A call is refused and leaves the sequence, or carries its next marker. -/
theorem MarkerCall.run_cases (call : MarkerCall) (markers : UpdateMarkerSequence) :
    (∃ e, call.run markers = (.error e, markers)) ∨
      ∃ region, call.run markers =
        (.ok (fullGc16RequestForRegion region markers.next), markers.nextMarker.2) := by
  have request : ∀ region, (∃ e, nextFullGc16Request region markers = (.error e, markers)) ∨
      ∃ r, nextFullGc16Request region markers =
        (.ok (fullGc16RequestForRegion r markers.next), markers.nextMarker.2) := by
    intro region
    cases region with
    | error e => exact .inl ⟨e, rfl⟩
    | ok r => exact .inr ⟨r, rfl⟩
  cases call with
  | remote => exact request _
  | systemUi => exact request _

/-- The sequence moves once for each request returned. -/
theorem issue_markers (calls : List MarkerCall) (markers : UpdateMarkerSequence) :
    (issue calls markers).2 = markers.advance (issue calls markers).1.length := by
  induction calls generalizing markers with
  | nil => rfl
  | cons call calls ih =>
      rcases call.run_cases markers with ⟨e, h⟩ | ⟨region, h⟩
      · simp only [issue, h]
        exact ih markers
      · simp only [issue, h, List.length_cons]
        rw [ih, UpdateMarkerSequence.advance_succ]

/-- **Request `k` carries marker `k`.** -/
theorem issued_marker {calls : List MarkerCall} {k : Nat} {request : UpdateDataMtk}
    (h : (issue calls markers).1[k]? = some request) :
    request.updateMarker = (markers.advance k).next := by
  induction calls generalizing markers k with
  | nil => cases h
  | cons call calls ih =>
      rcases call.run_cases markers with ⟨e, hrun⟩ | ⟨region, hrun⟩
      · simp only [issue, hrun] at h
        exact ih h
      · simp only [issue, hrun] at h
        cases k with
        | zero =>
            cases h
            rfl
        | succ k => rw [ih h, UpdateMarkerSequence.advance_succ]

end Calls

/-! ### The markers of a sequence -/

/-- The markers of the requests that calls return, and of the calls that return none. -/
structure MarkersExact (markers : UpdateMarkerSequence) (calls : List MarkerCall) : Prop where
  nonzero : ∀ request ∈ (issue calls markers).1, request.updateMarker ≠ 0
  distinct : ∀ (i j : Nat) (r s : UpdateDataMtk), (issue calls markers).1[i]? = some r →
    (issue calls markers).1[j]? = some s → i < j → j - i < 2 ^ 32 - 1 →
    r.updateMarker ≠ s.updateMarker
  period : ∀ (i j : Nat) (r s : UpdateDataMtk), (issue calls markers).1[i]? = some r →
    (issue calls markers).1[j]? = some s →
    (r.updateMarker = s.updateMarker ↔ i % (2 ^ 32 - 1) = j % (2 ^ 32 - 1))
  cycle : ∀ k, markers.advance k = markers ↔ 2 ^ 32 - 1 ∣ k
  consumed : (issue calls markers).2 = markers.advance (issue calls markers).1.length
  refused : ∀ (call : MarkerCall) e, (call.run (issue calls markers).2).1 = .error e →
    (call.run (issue calls markers).2).2 = (issue calls markers).2

/-- **Every marker of a sequence.** -/
theorem markers_exact (seed : UInt32) (calls : List MarkerCall) :
    MarkersExact (.fromSeed seed) calls := by
  have period : ∀ (i j : Nat) (r s : UpdateDataMtk),
      (issue calls (.fromSeed seed)).1[i]? = some r →
      (issue calls (.fromSeed seed)).1[j]? = some s →
      (r.updateMarker = s.updateMarker ↔ i % (2 ^ 32 - 1) = j % (2 ^ 32 - 1)) := by
    intro i j r s hr hs
    rw [issued_marker hr, issued_marker hs]
    exact UpdateMarkerSequence.advance_eq_iff _ i j
  refine ⟨?_, ?_, period, ?_, issue_markers calls _, ?_⟩
  · intro request h
    obtain ⟨k, hk⟩ := List.mem_iff_getElem?.mp h
    rw [issued_marker hk]
    exact UpdateMarkerSequence.next_ne _
  · intro i j r s hr hs hlt hnear heq
    have hmod : i ≡ j [MOD 2 ^ 32 - 1] := (period i j r s hr hs).mp heq
    have hdvd : 2 ^ 32 - 1 ∣ j - i := (Nat.modEq_iff_dvd' (Nat.le_of_lt hlt)).mp hmod
    exact absurd (Nat.le_of_dvd (Nat.sub_pos_of_lt hlt) hdvd) (Nat.not_le.mpr hnear)
  · intro k
    rw [Nat.dvd_iff_mod_eq_zero]
    constructor
    · intro h
      exact (UpdateMarkerSequence.advance_eq_iff _ k 0).mp (congrArg _ h)
    · intro h
      exact UpdateMarkerSequence.ext ((UpdateMarkerSequence.advance_eq_iff _ k 0).mpr h)
  · intro call e h
    rcases call.run_cases (issue calls (.fromSeed seed)).2 with ⟨e', hrun⟩ | ⟨region, hrun⟩
    · rw [hrun]
    · rw [hrun] at h
      cases h

end PaperPad.Mxcfb
