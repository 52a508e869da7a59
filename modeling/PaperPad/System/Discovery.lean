import PaperPad.Device.Discovery

/-!
# System — Discovery

Any number of PaperSpoons answer any number of devices on one network.  What can arrive is closed
under the answers of the responders and nothing is taken away, so a datagram may arrive late, twice,
out of order, at another device than it was meant for, or never (`InFlight`).

The responder repeats the nonce of a request as it finds it, and each side reads at most 256 bytes.
An answer to a nonce with white space before it can be cut inside the port and still be read; an
answer to a word cannot, since a cut word is no answer and the client's own nonce is short
(`parseHere_answer`).  So where what is asked is asked for words, a device is offered exactly the
addresses and ports of the responders whose answer to its own nonce arrived (`discovery_found`).
-/

namespace PaperPad.System

open Device Net Protocol Text

/-- Where a responder listens and answers from. -/
def DISCOVERY_PORT : UInt16 := 5580

/-- A PaperSpoon: the addresses its answers can come from, and the port it advertises. -/
structure Responder where
  addresses : Set IpAddr
  tcpPort : UInt16

/-- As many bytes of a datagram as a reader's buffer holds. -/
def cut (d : Datagram) : List UInt8 := d.1.take DATAGRAM_BUFFER_LEN

/-- What can arrive where these responders run and this is asked. -/
inductive InFlight (responders : Set Responder) (asked : Set Datagram) : Datagram → Prop
  | asked {d : Datagram} (h : d ∈ asked) : InFlight responders asked d
  | answered {ε : Type} {r : Responder} {address : IpAddr} {request : Datagram}
      {response : List UInt8} {destination : SocketAddr} {socket : UdpSocket ε}
      (hr : r ∈ responders) (haddress : address ∈ r.addresses)
      (hrequest : InFlight responders asked request) (hrecv : socket.recvFrom = .ok request)
      (hrespond : respondOnce socket r.tcpPort = .ok (some (response, destination))) :
      InFlight responders asked (response, SocketAddr.new address DISCOVERY_PORT)

/-- Nothing a responder would say, and a request for nothing but a word. -/
structure Asks (d : Datagram) : Prop where
  notHere : parseHere (cut d) = none
  word : ∀ n, parseDiscover (cut d) = some n → IsWord n.toList

/-! ### The two prefixes -/

section Prefixes

variable {bytes : List UInt8} {n : String} {p : UInt16}

theorem prefix_of_trimEnd {s t : String} (rest : String) (hs : decode bytes = some t)
    (h : trimEnd t.toList = s.toList ++ rest.toList) : encode s <+: bytes := by
  obtain ⟨g, -, ht⟩ := exists_trimEnd t.toList
  have happend : t = s ++ (rest ++ String.ofList g) := by
    rw [← String.toList_inj, String.toList_append, String.toList_append, String.toList_ofList,
      ← List.append_assoc, ← h]
    exact ht
  rw [← encode_of_decode hs, happend, encode_append]
  exact List.prefix_append _ _

theorem prefix_of_parseDiscover (h : parseDiscover bytes = some n) :
    encode DISCOVER_PREFIX <+: bytes := by
  obtain ⟨text, htext, htrim, -⟩ := parseDiscover_eq_some_iff.mp h
  exact prefix_of_trimEnd n htext htrim

theorem prefix_of_parseHere (h : parseHere bytes = some (n, p)) : encode HERE_PREFIX <+: bytes := by
  obtain ⟨text, rest, htext, htrim, -⟩ := parseHere_eq_some_iff.mp h
  exact prefix_of_trimEnd (.ofList rest) htext (by rw [htrim, String.toList_ofList])

/-- A datagram is not both. -/
theorem not_both_prefixes (hdiscover : encode DISCOVER_PREFIX <+: bytes)
    (hhere : encode HERE_PREFIX <+: bytes) : False := by
  have hlen : (encode HERE_PREFIX).length ≤ (encode DISCOVER_PREFIX).length := by decide +kernel
  have hprefix := List.prefix_of_prefix_length_le hhere hdiscover hlen
  revert hprefix
  decide +kernel

/-- What begins a datagram, if it fits the buffer. -/
theorem prefix_take {s t : String} (h : (encode s).length ≤ DATAGRAM_BUFFER_LEN) :
    encode s <+: (encode (s ++ t)).take DATAGRAM_BUFFER_LEN := by
  rw [List.prefix_take_iff, encode_append]
  exact ⟨List.prefix_append _ _, h⟩

theorem hereFits : (encode HERE_PREFIX).length ≤ DATAGRAM_BUFFER_LEN := by decide +kernel

theorem discoverFits : (encode DISCOVER_PREFIX).length ≤ DATAGRAM_BUFFER_LEN := by decide +kernel

/-- A responder takes no answer for a request. -/
theorem parseDiscover_answer :
    parseDiscover ((encode (formatHere n p)).take DATAGRAM_BUFFER_LEN) = none := by
  refine Option.eq_none_iff_forall_ne_some.mpr fun nonce h => ?_
  refine not_both_prefixes (prefix_of_parseDiscover h) ?_
  rw [formatHere, String.append_assoc, String.append_assoc, String.append_assoc]
  exact prefix_take hereFits

/-- A device takes no request for an answer. -/
theorem parseHere_request :
    parseHere ((encode (formatDiscover n)).take DATAGRAM_BUFFER_LEN) = none := by
  refine Option.eq_none_iff_forall_ne_some.mpr fun offer h => ?_
  refine not_both_prefixes ?_ (prefix_of_parseHere (n := offer.1) (p := offer.2) h)
  rw [formatDiscover, String.append_assoc]
  exact prefix_take discoverFits

end Prefixes

/-! ### Answers -/

section Answers

variable {nanos : BitVec 128} {pid : UInt32} {n : String} {p q : UInt16}

/-- The probe of an attempt asks. -/
theorem asks_probe (source : SocketAddr) :
    Asks (encode (formatDiscover (freshNonce nanos pid)), source) := by
  have hword := isWord_freshNonce nanos pid
  refine ⟨parseHere_request, fun n hn => ?_⟩
  rw [cut, take_formatDiscover, parseDiscover_formatDiscover.mpr ⟨hword.1, hword.trimmed⟩] at hn
  cases hn
  exact hword

/-- The first word of an answer to a word, cut or not, if there is a second. -/
theorem nonce_of_start {n rest tail nonce port : List Char} (hn : IsWord n)
    (hrest : rest <+: n ++ ' ' :: tail) (hwords : words rest = [nonce, port]) : nonce = n := by
  rcases List.prefix_or_prefix_of_prefix hrest (List.prefix_append n _) with hshort | ⟨t, rfl⟩
  · have hone : words rest = if rest = [] then [] else [rest] := by
      split
      · next hnil => rw [hnil]; rfl
      · next hne => exact words_of_isWord ⟨hne, fun c hc => hn.2 c (hshort.subset hc)⟩
    rw [hwords] at hone
    split at hone <;> cases hone
  · rw [List.prefix_append_right_inj] at hrest
    cases t with
    | nil =>
        rw [List.append_nil, words_of_isWord hn] at hwords
        cases hwords
    | cons c t =>
        obtain ⟨rfl, -⟩ := List.cons_prefix_cons.mp hrest
        rw [words_append_cons n t rfl, words_of_isWord hn] at hwords
        exact (List.cons.inj hwords).1.symm

/-- **What a device reads of an answer to a word**: its own nonce and the responder's port, or
nothing. -/
theorem parseHere_answer (hn : IsWord n.toList) (hp : p ≠ 0) :
    parseHere ((encode (formatHere n p)).take DATAGRAM_BUFFER_LEN) =
      some (freshNonce nanos pid, q) ↔ n = freshNonce nanos pid ∧ q = p := by
  have hwhole : parseHere ((encode (formatHere (freshNonce nanos pid) p)).take
      DATAGRAM_BUFFER_LEN) = some (freshNonce nanos pid, p) := by
    rw [take_formatHere]
    exact parseHere_formatHere.mpr ⟨isWord_freshNonce nanos pid, hp⟩
  constructor
  · intro h
    obtain ⟨text, rest, htext, htrim, hparts⟩ := parseHere_eq_some_iff.mp h
    obtain ⟨port, hwords, -, -⟩ := parseParts_eq_some_iff.mp hparts
    have hprefix : text.toList <+: (formatHere n p).toList := by
      refine prefix_of_encode ?_
      rw [encode_of_decode htext]
      exact List.take_prefix _ _
    have hrest : rest <+: n.toList ++ ' ' :: (Nat.toDigits 10 p.toNat ++ ['\n']) := by
      obtain ⟨g, -, hg⟩ := exists_trimEnd text.toList
      have htrimmed : trimEnd text.toList <+: (formatHere n p).toList :=
        List.IsPrefix.trans ⟨g, hg.symm⟩ hprefix
      rw [htrim, toList_formatHere, List.append_assoc, List.prefix_append_right_inj] at htrimmed
      rwa [List.append_assoc, List.cons_append] at htrimmed
    have hnonce := String.toList_inj.mp (nonce_of_start hn hrest hwords)
    rw [← hnonce, hwhole] at h
    cases h
    exact ⟨hnonce.symm, rfl⟩
  · rintro ⟨rfl, rfl⟩
    exact hwhole

end Answers

/-! ### The network -/

section Network

variable {responders : Set Responder} {asked : Set Datagram} {d : Datagram}

/-- A responder's answer to a request for this nonce that has reached it. -/
structure Answers (responders : Set Responder) (asked : Set Datagram) (nonce : String)
    (d : Datagram) (r : Responder) (address : IpAddr) : Prop where
  mem : r ∈ responders
  own : address ∈ r.addresses
  port : r.tcpPort ≠ 0
  request : ∃ request, InFlight responders asked request ∧ parseDiscover (cut request) = some nonce
  datagram : d = (encode (formatHere nonce r.tcpPort), SocketAddr.new address DISCOVERY_PORT)

theorem respondOnce_eq_some {ε : Type} {socket : UdpSocket ε} {request : Datagram}
    {tcpPort : UInt16} {response : List UInt8} {destination : SocketAddr}
    (hrecv : socket.recvFrom = .ok request)
    (h : respondOnce socket tcpPort = .ok (some (response, destination))) :
    tcpPort ≠ 0 ∧ ∃ nonce, parseDiscover (cut request) = some nonce ∧
      response = encode (formatHere nonce tcpPort) := by
  rw [respondOnce] at h
  split at h
  · cases h
  next hport =>
  refine ⟨hport, ?_⟩
  rw [hrecv] at h
  dsimp only [Except.mapError, bind, Except.bind] at h
  rw [← cut] at h
  split at h
  · cases h
  next nonce hnonce =>
  refine ⟨nonce, hnonce, ?_⟩
  split at h
  · cases h
  · cases h
    rfl

/-- Everything in flight is a question or the answer to one. -/
theorem InFlight.cases (hasked : ∀ d ∈ asked, Asks d) (h : InFlight responders asked d) :
    Asks d ∨ ∃ nonce r address, IsWord nonce.toList ∧
      Answers responders asked nonce d r address := by
  induction h with
  | asked hd => exact .inl (hasked _ hd)
  | @answered _ r address request response destination socket hr haddress hrequest hrecv hrespond
      ih =>
      obtain ⟨hport, nonce, hnonce, rfl⟩ := respondOnce_eq_some hrecv hrespond
      have hword : IsWord nonce.toList := by
        rcases ih with hasks | ⟨other, r', address', -, hanswer⟩
        · exact hasks.word nonce hnonce
        · rw [hanswer.datagram, cut, parseDiscover_answer] at hnonce
          cases hnonce
      exact .inr ⟨nonce, r, address, hword, hr, haddress, hport, ⟨request, hrequest, hnonce⟩, rfl⟩

/-- What a responder says to a probe that reached it. -/
theorem InFlight.answer {nanos : BitVec 128} {pid : UInt32} {source : SocketAddr} {r : Responder}
    (address : IpAddr) (hr : r ∈ responders) (haddress : address ∈ r.addresses)
    (hport : r.tcpPort ≠ 0)
    (h : InFlight responders asked (encode (formatDiscover (freshNonce nanos pid)), source)) :
    InFlight responders asked
      (encode (formatHere (freshNonce nanos pid) r.tcpPort),
        SocketAddr.new address DISCOVERY_PORT) := by
  let socket : UdpSocket Unit :=
    ⟨.ok (encode (formatDiscover (freshNonce nanos pid)), source), fun _ _ => .ok ()⟩
  obtain ⟨response, hrespond, -⟩ : ∃ response,
      respondOnce socket r.tcpPort = .ok (some (response, source)) ∧ _ :=
    respondOnce_freshNonce nanos pid hport rfl fun _ => rfl
  obtain ⟨-, nonce, hnonce, rfl⟩ := respondOnce_eq_some rfl hrespond
  have hword := isWord_freshNonce nanos pid
  rw [cut, take_formatDiscover, parseDiscover_formatDiscover.mpr ⟨hword.1, hword.trimmed⟩] at hnonce
  cases hnonce
  exact .answered hr haddress h rfl hrespond

theorem ip_new (address : IpAddr) (port : UInt16) : (SocketAddr.new address port).ip = address := by
  cases address <;> rfl

variable {ε : Type} {attempt : Attempt ε} {probeCount : Nat}

/-- What an attempt is offered is what the responders answered it. -/
theorem offers_eq_answers (hasked : ∀ d ∈ asked, Asks d)
    (hreceived : ∀ d ∈ attempt.received probeCount, InFlight responders asked d) :
    attempt.offers probeCount = {offer | ∃ d ∈ attempt.received probeCount, ∃ r,
      Answers responders asked attempt.nonce d r offer.1 ∧ offer.2 = r.tcpPort} := by
  ext ⟨address, port⟩
  constructor
  · rintro ⟨d, hd, rfl, hparse⟩
    rcases (hreceived d hd).cases hasked with hasks | ⟨nonce, r, address, hword, hanswer⟩
    · rw [← cut, hasks.notHere] at hparse
      cases hparse
    · rw [hanswer.datagram] at hparse
      obtain ⟨rfl, rfl⟩ := (parseHere_answer hword hanswer.port).mp hparse
      refine ⟨d, hd, r, ?_, rfl⟩
      rw [show d.2.ip = address by rw [hanswer.datagram, ip_new]]
      exact hanswer
  · rintro ⟨d, hd, r, hanswer, rfl⟩
    refine ⟨d, hd, ?_, ?_⟩
    · rw [hanswer.datagram, ip_new]
    · rw [hanswer.datagram]
      exact (parseHere_answer (isWord_freshNonce _ _) hanswer.port).mpr ⟨rfl, rfl⟩

/-- **Discovery finds the responders**: an attempt whose windows receive anything that can arrive,
where every question is for a word, says of the responders' answers to its own nonce that arrived:
the one endpoint, that there is none, or that there are several and which. -/
theorem discovery_found {targets : List SocketAddr} (debug : SocketAddr → String)
    (bindAddr : SocketAddr) (htargets : targets ≠ []) (hserved : attempt.Served targets probeCount)
    (hasked : ∀ d ∈ asked, Asks d)
    (hreceived : ∀ d ∈ attempt.received probeCount, InFlight responders asked d) :
    Outcome {offer | ∃ d ∈ attempt.received probeCount, ∃ r,
        Answers responders asked attempt.nonce d r offer.1 ∧ offer.2 = r.tcpPort}
      (discoverPaperspoon debug bindAddr targets probeCount attempt) := by
  rw [discoverPaperspoon_eq debug bindAddr htargets hserved, ← offers_eq_answers hasked hreceived]
  exact (endpoints_offers attempt probeCount).outcome

/-- A PaperSpoon at one address. -/
def desk : Responder := ⟨{.v4 3232235532}, 5581⟩

/-- An attempt that receives the answer to an earlier attempt, then the one to its own. -/
def secondAttempt : Attempt Unit where
  bind := .ok ()
  setBroadcast := .ok ()
  localAddr := .ok (.v4 0 5582)
  nanos := 7
  pid := 2
  probe k :=
    { expired := k = 2
      sendTo := fun _ => .ok ()
      received := [(encode (formatHere (freshNonce 1 2) 5581), .v4 3232235532 DISCOVERY_PORT),
        (encode (formatHere (freshNonce 7 2) 5581), .v4 3232235532 DISCOVERY_PORT)]
      ending := .timedOut }

/-- The probes of both attempts. -/
def twoProbes : Set Datagram :=
  {(encode (formatDiscover (freshNonce 1 2)), .v4 3232235533 5582),
    (encode (formatDiscover (freshNonce 7 2)), .v4 3232235533 5582)}

theorem discovery_found_second :
    Outcome {offer | ∃ d ∈ secondAttempt.received 3, ∃ r,
        Answers {desk} twoProbes secondAttempt.nonce d r offer.1 ∧ offer.2 = r.tcpPort}
      (discoverPaperspoon (fun _ => "") (.v4 0 5582) [.v4 4294967295 DISCOVERY_PORT] 3
        secondAttempt) := by
  have hasked : ∀ d ∈ twoProbes, Asks d := by
    rintro d (rfl | rfl) <;> exact asks_probe _
  have hanswer : ∀ nanos : BitVec 128,
      (encode (formatDiscover (freshNonce nanos 2)), .v4 3232235533 5582) ∈ twoProbes →
      InFlight {desk} twoProbes
        (encode (formatHere (freshNonce nanos 2) 5581), .v4 3232235532 DISCOVERY_PORT) :=
    fun _ h => InFlight.answer (r := desk) (.v4 3232235532) rfl rfl (by decide)
      (.asked h)
  refine discovery_found (fun _ => "") (.v4 0 5582) (by simp)
    ⟨rfl, rfl, ⟨_, rfl⟩, fun probe hprobe => ?_⟩ hasked fun d hd => ?_
  · obtain ⟨k, -, rfl⟩ := List.mem_map.mp (List.takeWhile_subset _ hprobe)
    exact ⟨fun _ _ => rfl, .inr rfl⟩
  · obtain ⟨probe, hprobe, hd⟩ := List.mem_flatMap.mp hd
    obtain ⟨k, -, rfl⟩ := List.mem_map.mp (List.takeWhile_subset _ hprobe)
    rcases List.mem_cons.mp hd with rfl | hd
    · exact hanswer 1 (.inl rfl)
    · rw [List.mem_singleton.mp hd]
      exact hanswer 7 (.inr rfl)

end Network

end PaperPad.System
