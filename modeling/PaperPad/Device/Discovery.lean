import Mathlib.Data.Set.Subsingleton
import PaperPad.Protocol.Discovery
import PaperPad.Support.Distinct

/-!
# Device — Discovery

The discovery client: the policy of `src/discovery.rs` and the probes of `src/net/discover.rs`.
What the network does is a parameter: for each probe whether the deadline has passed, what sending
to a target gives, the datagrams received in its window, and how the window ends.

The client keeps the offers of the datagrams it received, in order and with their duplicates
(`runProbes_eq_ok`).  It then sorts their endpoints and drops duplicates, so what it says depends
on the set of the offers only (`discovery_outcome`).
-/

namespace PaperPad.Device

open Distinct Net Protocol Text

/-- A datagram and where it came from. -/
abbrev Datagram := List UInt8 × SocketAddr

/-! ### Selection -/

/-- Why no endpoint is selected. -/
inductive DiscoveryError where
  | noResponder
  | ambiguous (endpoints : List SocketAddr)

/-- The endpoint of a response: where it came from, and the port it advertises. -/
def endpointOf (response : SocketAddr × UInt16) : SocketAddr :=
  SocketAddr.new response.1.ip response.2

/-- The one endpoint of all responses. -/
def selectEndpoint (responses : List (SocketAddr × UInt16)) : Except DiscoveryError SocketAddr :=
  match distinct (responses.map endpointOf) with
  | [] => .error .noResponder
  | [endpoint] => .ok endpoint
  | endpoints => .error (.ambiguous endpoints)

/-! ### Probes -/

/-- How a response window ends. -/
inductive WindowEnd (ε : Type) where
  | elapsed
  | timedOut
  | setTimeout (error : ε)
  | receive (error : ε)

/-- What one probe meets. -/
structure Probe (ε : Type) where
  expired : Bool
  sendTo : SocketAddr → Except ε Unit
  received : List Datagram
  ending : WindowEnd ε

/-- What an attempt meets. -/
structure Attempt (ε : Type) where
  bind : Except ε Unit
  setBroadcast : Except ε Unit
  localAddr : Except ε SocketAddr
  nanos : BitVec 128
  pid : UInt32
  probe : Nat → Probe ε

/-- Why discovery fails. -/
inductive DiscoverError (ε : Type) where
  | noTargets
  | io (context : String) (error : ε)
  | noResponder
  | ambiguous (endpoints : List SocketAddr)

/-- The text of an error; `debug` is `{:?}` of an address. -/
def DiscoverError.display {ε : Type} (debug : SocketAddr → String) : DiscoverError ε → String
  | .noTargets => "discovery has no probe targets"
  | .io context _ => context
  | .noResponder => "discovery failed: no valid response received"
  | .ambiguous endpoints =>
      "discovery failed: multiple PaperSpoon responders: [" ++
        ", ".intercalate (endpoints.map debug) ++ "]"

section Client

variable {ε : Type}

/-- An outcome with the context of its error. -/
def ioContext {β : Type} (context : String) (x : Except ε β) : Except (DiscoverError ε) β :=
  x.mapError (.io context)

/-- What a datagram offers an attempt, as far as it fits the buffer. -/
def offerOf (nonce : String) (datagram : Datagram) : Option (SocketAddr × UInt16) :=
  match parseHere (datagram.1.take DATAGRAM_BUFFER_LEN) with
  | none => none
  | some (responseNonce, port) =>
      if responseNonce ≠ nonce then none else some (datagram.2, port)

/-- One datagram: `responses.push`, unless it is invalid or for another attempt. -/
def receive (nonce : String) (responses : List (SocketAddr × UInt16)) (datagram : Datagram) :
    List (SocketAddr × UInt16) :=
  match offerOf nonce datagram with
  | none => responses
  | some response => responses ++ [response]

/-- Send the request to every target. -/
def sendProbe (debug : SocketAddr → String) (targets : List SocketAddr) (probe : Probe ε) :
    Except (DiscoverError ε) Unit :=
  targets.forM fun target =>
    ioContext ("discovery probe send destination=" ++ debug target) (probe.sendTo target)

/-- A window that has ended without an error lets the next probe go out. -/
def WindowEnd.check : WindowEnd ε → Except (DiscoverError ε) Unit
  | .elapsed => .ok ()
  | .timedOut => .ok ()
  | .setTimeout error => .error (.io "discovery set read timeout" error)
  | .receive error => .error (.io "discovery receive" error)

/-- The probes, until the deadline has passed. -/
def runProbes (debug : SocketAddr → String) (targets : List SocketAddr) (nonce : String) :
    List (Probe ε) → List (SocketAddr × UInt16) →
      Except (DiscoverError ε) (List (SocketAddr × UInt16))
  | [], responses => .ok responses
  | probe :: probes, responses =>
      if probe.expired then .ok responses
      else do
        sendProbe debug targets probe
        let responses := probe.received.foldl (receive nonce) responses
        probe.ending.check
        runProbes debug targets nonce probes responses

/-- `discover_paperspoon_with_targets_schedule`. -/
def discoverPaperspoon (debug : SocketAddr → String) (bindAddr : SocketAddr)
    (targets : List SocketAddr) (probeCount : Nat) (attempt : Attempt ε) :
    Except (DiscoverError ε) SocketAddr :=
  if targets.isEmpty then .error .noTargets
  else do
    ioContext ("discovery bind address=" ++ debug bindAddr) attempt.bind
    ioContext "discovery enable broadcast" attempt.setBroadcast
    let nonce := freshNonce attempt.nanos attempt.pid
    let _ ← ioContext "discovery read local address" attempt.localAddr
    let responses ← runProbes debug targets nonce
      ((List.range' 1 probeCount).map attempt.probe) []
    match selectEndpoint responses with
    | .ok endpoint => .ok endpoint
    | .error .noResponder => .error .noResponder
    | .error (.ambiguous endpoints) => .error (.ambiguous endpoints)

end Client

/-! ### What is received -/

section Received

variable {ε : Type} {debug : SocketAddr → String} {targets : List SocketAddr} {nonce : String}

/-- A probe whose socket works. -/
def Probe.Quiet (targets : List SocketAddr) (probe : Probe ε) : Prop :=
  (∀ target ∈ targets, probe.sendTo target = .ok ()) ∧
    (probe.ending = .elapsed ∨ probe.ending = .timedOut)

/-- The probes before the deadline. -/
def windows (probes : List (Probe ε)) : List (Probe ε) := probes.takeWhile fun p => !p.expired

theorem foldl_receive (datagrams : List Datagram) (responses : List (SocketAddr × UInt16)) :
    datagrams.foldl (receive nonce) responses =
      responses ++ datagrams.filterMap (offerOf nonce) := by
  induction datagrams generalizing responses with
  | nil => exact (List.append_nil _).symm
  | cons datagram datagrams ih =>
      rw [List.foldl_cons, ih, receive]
      cases h : offerOf nonce datagram with
      | none => rw [List.filterMap_cons_none h]
      | some response => rw [List.filterMap_cons_some h, List.append_assoc]; rfl

theorem sendProbe_of {probe : Probe ε} (h : ∀ target ∈ targets, probe.sendTo target = .ok ()) :
    sendProbe debug targets probe = .ok () := by
  rw [sendProbe]
  induction targets with
  | nil => rfl
  | cons target targets ih =>
      have hfirst := h target List.mem_cons_self
      have hrest := ih fun t ht => h t (List.mem_cons_of_mem _ ht)
      rw [List.forM_eq_forM] at hrest ⊢
      rw [List.forM_cons, hfirst]
      exact hrest

/-- **The client keeps every offer** of its windows. -/
theorem runProbes_eq_ok {probes : List (Probe ε)}
    (h : ∀ probe ∈ windows probes, probe.Quiet targets)
    (responses : List (SocketAddr × UInt16)) :
    runProbes debug targets nonce probes responses =
      .ok (responses ++ ((windows probes).flatMap Probe.received).filterMap (offerOf nonce)) := by
  induction probes generalizing responses with
  | nil => rw [windows, List.takeWhile_nil, List.flatMap_nil, List.filterMap_nil,
      List.append_nil, runProbes]
  | cons probe probes ih =>
      rw [runProbes]
      cases hexpired : probe.expired with
      | true =>
          have hnone : windows (probe :: probes) = [] :=
            List.takeWhile_cons_of_neg (by simp [hexpired])
          rw [hnone, List.flatMap_nil, List.filterMap_nil, List.append_nil]
          rfl
      | false =>
          have hcons : windows (probe :: probes) = probe :: windows probes :=
            List.takeWhile_cons_of_pos (by simp [hexpired])
          rw [hcons] at h ⊢
          obtain ⟨hsend, hending⟩ := h probe List.mem_cons_self
          have hcheck : probe.ending.check = .ok () := by
            rcases hending with hending | hending <;> rw [hending, WindowEnd.check]
          have hkept : probe.received.foldl (receive nonce) responses =
              responses ++ probe.received.filterMap (offerOf nonce) := foldl_receive _ _
          have hrest := ih (fun p hp => h p (List.mem_cons_of_mem _ hp))
            (responses ++ probe.received.filterMap (offerOf nonce))
          rw [if_neg Bool.false_ne_true, sendProbe_of hsend, hkept, List.flatMap_cons,
            List.filterMap_append, ← List.append_assoc, ← hrest]
          dsimp only [bind, Except.bind]
          rw [hcheck]

end Received

/-! ### What is selected -/

/-- The endpoint of an offer. -/
def offeredEndpoint (offer : IpAddr × UInt16) : SocketAddr := SocketAddr.new offer.1 offer.2

theorem offeredEndpoint_injective : Function.Injective offeredEndpoint := by
  intro a b h
  obtain ⟨hip, hport⟩ := SocketAddr.new_inj h
  exact Prod.ext hip hport

/-- What an attempt says of the distinct endpoints it was offered. -/
def verdict {ε : Type} : List SocketAddr → Except (DiscoverError ε) SocketAddr
  | [] => .error .noResponder
  | [endpoint] => .ok endpoint
  | endpoints => .error (.ambiguous endpoints)

/-- What to say of a set of offers: the one endpoint, that there is none, or all of them. -/
structure Outcome {ε : Type} (offers : Set (IpAddr × UInt16))
    (said : Except (DiscoverError ε) SocketAddr) : Prop where
  one : ∀ endpoint, said = .ok endpoint ↔ ∃ offer, offers = {offer} ∧
    endpoint = offeredEndpoint offer
  nothing : said = .error .noResponder ↔ offers = ∅
  many : (∃ endpoints, said = .error (.ambiguous endpoints)) ↔ offers.Nontrivial
  listed : ∀ endpoints, said = .error (.ambiguous endpoints) →
    endpoints.Pairwise (· < ·) ∧ ∀ e, e ∈ endpoints ↔ ∃ offer ∈ offers, offeredEndpoint offer = e

section Selected

variable {ε : Type} {offers : Set (IpAddr × UInt16)} {l m : List SocketAddr}

/-- The endpoints of the offers, each once and in order. -/
structure Endpoints (offers : Set (IpAddr × UInt16)) (l : List SocketAddr) : Prop where
  increasing : l.Pairwise (· < ·)
  mem_iff : ∀ e, e ∈ l ↔ ∃ offer ∈ offers, offeredEndpoint offer = e

theorem Endpoints.unique (hl : Endpoints offers l) (hm : Endpoints offers m) : l = m :=
  hl.increasing.eq_of_mem_iff hm.increasing fun e => (hl.mem_iff e).trans (hm.mem_iff e).symm

theorem verdict_eq_ok {e : SocketAddr} :
    (verdict l : Except (DiscoverError ε) SocketAddr) = .ok e ↔ l = [e] := by
  match l with
  | [] => exact iff_of_false nofun nofun
  | [a] =>
      rw [verdict, Except.ok.injEq, List.cons.injEq]
      exact (and_iff_left rfl).symm
  | a :: b :: l => exact iff_of_false nofun nofun

theorem verdict_eq_noResponder :
    (verdict l : Except (DiscoverError ε) SocketAddr) = .error .noResponder ↔ l = [] := by
  match l with
  | [] => exact iff_of_true rfl rfl
  | [a] => exact iff_of_false nofun nofun
  | a :: b :: l => exact iff_of_false nofun nofun

theorem verdict_eq_ambiguous :
    (verdict l : Except (DiscoverError ε) SocketAddr) = .error (.ambiguous m) ↔
      l = m ∧ 2 ≤ l.length := by
  match l with
  | [] => exact iff_of_false nofun fun h => absurd h.2 (by decide)
  | [a] => exact iff_of_false nofun fun h => absurd h.2 (Nat.not_le.mpr Nat.one_lt_two)
  | a :: b :: l =>
      have hverdict : (verdict (a :: b :: l) : Except (DiscoverError ε) SocketAddr) =
          .error (.ambiguous (a :: b :: l)) := rfl
      rw [hverdict, Except.error.injEq, DiscoverError.ambiguous.injEq]
      exact (and_iff_left (Nat.le_add_left 2 l.length)).symm

/-- Two endpoints at least, of two offers at least. -/
theorem Endpoints.two_le_iff (h : Endpoints offers l) : 2 ≤ l.length ↔ offers.Nontrivial := by
  constructor
  · intro hlen
    match l, hlen with
    | a :: b :: l, _ =>
        obtain ⟨x, hx, hxa⟩ := (h.mem_iff a).mp List.mem_cons_self
        obtain ⟨y, hy, hyb⟩ := (h.mem_iff b).mp (List.mem_cons_of_mem _ List.mem_cons_self)
        have hab : a < b := List.rel_of_pairwise_cons h.increasing List.mem_cons_self
        refine ⟨x, hx, y, hy, ?_⟩
        rintro rfl
        exact absurd (hxa.symm.trans hyb) hab.ne
  · rintro ⟨x, hx, y, hy, hne⟩
    have hxl := (h.mem_iff _).mpr ⟨x, hx, rfl⟩
    have hyl := (h.mem_iff _).mpr ⟨y, hy, rfl⟩
    match l with
    | [] => cases hxl
    | [a] =>
        have hxa := List.mem_singleton.mp hxl
        have hya := List.mem_singleton.mp hyl
        exact absurd (offeredEndpoint_injective (hxa.trans hya.symm)) hne
    | a :: b :: l => exact Nat.le_add_left 2 l.length

theorem Endpoints.outcome (h : Endpoints offers l) :
    Outcome offers (verdict l : Except (DiscoverError ε) SocketAddr) where
  one endpoint := by
    rw [verdict_eq_ok]
    constructor
    · rintro rfl
      obtain ⟨offer, hoffer, heq⟩ := (h.mem_iff endpoint).mp List.mem_cons_self
      refine ⟨offer, Set.eq_singleton_iff_unique_mem.mpr ⟨hoffer, fun b hb => ?_⟩, heq.symm⟩
      have hmem := List.mem_singleton.mp ((h.mem_iff _).mpr ⟨b, hb, rfl⟩)
      exact offeredEndpoint_injective (hmem.trans heq.symm)
    · rintro ⟨offer, rfl, rfl⟩
      refine h.unique ⟨List.pairwise_singleton _ _, fun e => ?_⟩
      rw [List.mem_singleton]
      exact ⟨fun he => ⟨offer, rfl, he.symm⟩, fun ⟨_, hb, he⟩ => he.symm.trans (by rw [hb])⟩
  nothing := by
    rw [verdict_eq_noResponder, List.eq_nil_iff_forall_not_mem, Set.eq_empty_iff_forall_notMem]
    constructor
    · intro hnone offer hoffer
      exact hnone _ ((h.mem_iff _).mpr ⟨offer, hoffer, rfl⟩)
    · intro hnone e he
      obtain ⟨offer, hoffer, -⟩ := (h.mem_iff e).mp he
      exact hnone offer hoffer
  many := by
    rw [← h.two_le_iff]
    constructor
    · rintro ⟨endpoints, hsaid⟩
      exact (verdict_eq_ambiguous.mp hsaid).2
    · intro htwo
      exact ⟨l, verdict_eq_ambiguous.mpr ⟨rfl, htwo⟩⟩
  listed endpoints hsaid := by
    obtain ⟨rfl, -⟩ := verdict_eq_ambiguous.mp hsaid
    exact ⟨h.increasing, h.mem_iff⟩

end Selected

/-! ### The client -/

section Attempt

variable {ε : Type} {probeCount : Nat} {attempt : Attempt ε}

namespace Attempt

/-- The nonce of the attempt. -/
def nonce (attempt : Attempt ε) : String := freshNonce attempt.nanos attempt.pid

/-- The probes an attempt makes. -/
def probes (attempt : Attempt ε) (probeCount : Nat) : List (Probe ε) :=
  (List.range' 1 probeCount).map attempt.probe

/-- The datagrams received in the response windows. -/
def received (attempt : Attempt ε) (probeCount : Nat) : List Datagram :=
  (windows (attempt.probes probeCount)).flatMap Probe.received

/-- The source address and the advertised port of every datagram that `parse_here` accepts with
the nonce of the attempt. -/
def offers (attempt : Attempt ε) (probeCount : Nat) : Set (IpAddr × UInt16) :=
  {offer | ∃ datagram ∈ attempt.received probeCount, datagram.2.ip = offer.1 ∧
    parseHere (datagram.1.take DATAGRAM_BUFFER_LEN) = some (attempt.nonce, offer.2)}

/-- An attempt whose socket works: its windows elapse. -/
structure Served (attempt : Attempt ε) (targets : List SocketAddr) (probeCount : Nat) :
    Prop where
  bind : attempt.bind = .ok ()
  setBroadcast : attempt.setBroadcast = .ok ()
  localAddr : ∃ address, attempt.localAddr = .ok address
  quiet : ∀ probe ∈ windows (attempt.probes probeCount), probe.Quiet targets

end Attempt

theorem offerOf_eq_some {nonce : String} {datagram : Datagram} {source : SocketAddr}
    {port : UInt16} : offerOf nonce datagram = some (source, port) ↔
      datagram.2 = source ∧
        parseHere (datagram.1.take DATAGRAM_BUFFER_LEN) = some (nonce, port) := by
  rw [offerOf]
  cases parseHere (datagram.1.take DATAGRAM_BUFFER_LEN) with
  | none => exact iff_of_false nofun nofun
  | some response =>
      dsimp only
      by_cases hnonce : response.1 = nonce
      · rw [if_neg (not_not.mpr hnonce), Option.some_inj, Option.some_inj, Prod.ext_iff,
          Prod.ext_iff]
        exact ⟨fun h => ⟨h.1, hnonce, h.2⟩, fun h => ⟨h.1, h.2.2⟩⟩
      · rw [if_pos hnonce, Option.some_inj]
        exact iff_of_false nofun fun h => hnonce (congrArg Prod.fst h.2)

/-- The endpoints the client sorts are those of the offers. -/
theorem endpoints_offers (attempt : Attempt ε) (probeCount : Nat) :
    Endpoints (attempt.offers probeCount)
      (distinct (((attempt.received probeCount).filterMap (offerOf attempt.nonce)).map
        endpointOf)) where
  increasing := distinct_increasing _
  mem_iff e := by
    rw [mem_distinct, List.mem_map]
    constructor
    · rintro ⟨⟨source, port⟩, hmem, rfl⟩
      obtain ⟨datagram, hdatagram, hoffer⟩ := List.mem_filterMap.mp hmem
      obtain ⟨rfl, hparse⟩ := offerOf_eq_some.mp hoffer
      exact ⟨(datagram.2.ip, port), ⟨datagram, hdatagram, rfl, hparse⟩, rfl⟩
    · rintro ⟨⟨ip, port⟩, ⟨datagram, hdatagram, rfl, hparse⟩, rfl⟩
      exact ⟨(datagram.2, port),
        List.mem_filterMap.mpr ⟨datagram, hdatagram, offerOf_eq_some.mpr ⟨rfl, hparse⟩⟩, rfl⟩

variable {targets : List SocketAddr} (debug : SocketAddr → String) (bindAddr : SocketAddr)

/-- What the client says: the verdict on what it was offered. -/
theorem discoverPaperspoon_eq (htargets : targets ≠ [])
    (h : attempt.Served targets probeCount) :
    discoverPaperspoon debug bindAddr targets probeCount attempt =
      verdict (distinct (((attempt.received probeCount).filterMap
        (offerOf attempt.nonce)).map endpointOf)) := by
  obtain ⟨address, hlocal⟩ := h.localAddr
  have hrun : runProbes debug targets attempt.nonce (attempt.probes probeCount) [] =
      .ok ((attempt.received probeCount).filterMap (offerOf attempt.nonce)) :=
    runProbes_eq_ok h.quiet []
  rw [discoverPaperspoon, if_neg (mt List.isEmpty_iff.mp htargets), h.bind, h.setBroadcast, hlocal]
  dsimp only [ioContext, Except.mapError, bind, Except.bind]
  rw [← Attempt.nonce, ← Attempt.probes, hrun]
  dsimp only
  rw [selectEndpoint]
  match distinct (((attempt.received probeCount).filterMap (offerOf attempt.nonce)).map
    endpointOf) with
  | [] => rfl
  | [endpoint] => rfl
  | a :: b :: l => rfl

/-- A datagram that `parse_here` accepts with the nonce of the attempt. -/
def Attempt.Valid (attempt : Attempt ε) (datagram : Datagram) : Prop :=
  ∃ port, parseHere (datagram.1.take DATAGRAM_BUFFER_LEN) = some (attempt.nonce, port)

/-- Attempts that receive the same valid datagrams, in any order and number, have the same
offers. -/
theorem offers_of_valid {a b : Attempt ε} {m n : Nat} (hnonce : a.nonce = b.nonce)
    (h : ∀ datagram, a.Valid datagram →
      (datagram ∈ a.received m ↔ datagram ∈ b.received n)) : a.offers m = b.offers n := by
  ext offer
  constructor
  · rintro ⟨datagram, hmem, hip, hparse⟩
    exact ⟨datagram, (h datagram ⟨_, hparse⟩).mp hmem, hip, hnonce ▸ hparse⟩
  · rintro ⟨datagram, hmem, hip, hparse⟩
    rw [← hnonce] at hparse
    exact ⟨datagram, (h datagram ⟨_, hparse⟩).mpr hmem, hip, hparse⟩

/-- What the client says of an attempt, and that only the offers matter for it. -/
structure DiscoveryOutcome (debug : SocketAddr → String) (bindAddr : SocketAddr)
    (targets : List SocketAddr) (probeCount : Nat) (attempt : Attempt ε) : Prop where
  outcome : Outcome (attempt.offers probeCount)
    (discoverPaperspoon debug bindAddr targets probeCount attempt)
  offers_only : ∀ (other : Attempt ε) n, other.Served targets n →
    other.offers n = attempt.offers probeCount →
    discoverPaperspoon debug bindAddr targets n other =
      discoverPaperspoon debug bindAddr targets probeCount attempt
  valid_only : ∀ (other : Attempt ε) n, other.Served targets n → other.nonce = attempt.nonce →
    (∀ datagram, other.Valid datagram →
      (datagram ∈ other.received n ↔ datagram ∈ attempt.received probeCount)) →
    discoverPaperspoon debug bindAddr targets n other =
      discoverPaperspoon debug bindAddr targets probeCount attempt

/-- **The outcome depends on the set of offers only.** -/
theorem discovery_outcome (htargets : targets ≠ []) (h : attempt.Served targets probeCount) :
    DiscoveryOutcome debug bindAddr targets probeCount attempt := by
  have same : ∀ (other : Attempt ε) n, other.Served targets n →
      other.offers n = attempt.offers probeCount →
      discoverPaperspoon debug bindAddr targets n other =
        discoverPaperspoon debug bindAddr targets probeCount attempt := by
    intro other n hother hoffers
    rw [discoverPaperspoon_eq debug bindAddr htargets hother,
      discoverPaperspoon_eq debug bindAddr htargets h]
    exact congrArg verdict (Endpoints.unique (hoffers ▸ endpoints_offers other n)
      (endpoints_offers attempt probeCount))
  refine ⟨?_, same, fun other n hother hnonce hvalid => ?_⟩
  · rw [discoverPaperspoon_eq debug bindAddr htargets h]
    exact (endpoints_offers attempt probeCount).outcome
  · exact same other n hother (offers_of_valid hnonce hvalid)

/-- An attempt that one responder answers in every window, and something else once. -/
def answeredAttempt : Attempt Unit where
  bind := .ok ()
  setBroadcast := .ok ()
  localAddr := .ok (.v4 0 5582)
  nanos := 1
  pid := 2
  probe k :=
    { expired := k = 3
      sendTo := fun _ => .ok ()
      received := [(encode (formatHere (freshNonce 1 2) 5581), .v4 3232235532 5580),
        ([255], .v4 3232235533 5580)]
      ending := .timedOut }

theorem discovery_outcome_answered :
    DiscoveryOutcome (fun _ => "") (.v4 0 5582) [.v4 4294967295 5580] 3 answeredAttempt :=
  discovery_outcome (fun _ => "") (.v4 0 5582) (by simp)
    ⟨rfl, rfl, ⟨_, rfl⟩, fun probe hprobe => by
      obtain ⟨k, -, rfl⟩ := List.mem_map.mp (List.takeWhile_subset _ hprobe)
      exact ⟨fun _ _ => rfl, .inr rfl⟩⟩

end Attempt

end PaperPad.Device
