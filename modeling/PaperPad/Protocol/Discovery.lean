import PaperPad.Support.Net
import PaperPad.Support.Text

/-!
# Protocol — Discovery

The discovery datagrams of `crates/paper-protocol/src/lib.rs`, the answer of
`tools/paperspoon/src/discovery.rs` and the nonce of `src/net/discover.rs`.

A reply's nonce is read back when it is a word, whatever else the reply is split into
(`parseHere_formatHere`); a request's when it does not end in white space
(`parseDiscover_formatDiscover`).  A nonce is hexadecimal digits, so it is both, and short enough
that neither datagram is cut by the buffer it is received into.
-/

namespace PaperPad.Protocol

open Net Text

/-- What a probe begins with. -/
def DISCOVER_PREFIX : String := "PAPERPAD DISCOVER "

/-- What an answer begins with. -/
def HERE_PREFIX : String := "PAPERSPOON HERE "

/-- `[0u8; 256]`. -/
def DATAGRAM_BUFFER_LEN : Nat := 256

/-- A probe. -/
def formatDiscover (nonce : String) : String := DISCOVER_PREFIX ++ nonce ++ "\n"

/-- The nonce of a probe. -/
def parseDiscover (datagram : List UInt8) : Option String := do
  let text ← decode datagram
  let nonce ← DISCOVER_PREFIX.toList.isPrefixOf? (trimEnd text.toList)
  if nonce.isEmpty then none else some (String.ofList nonce)

/-- The answer to a probe. -/
def formatHere (nonce : String) (tcpPort : UInt16) : String :=
  HERE_PREFIX ++ nonce ++ " " ++ toString tcpPort ++ "\n"

/-- The parts of a response after its prefix: the nonce, the port and nothing else. -/
def parseParts : List (List Char) → Option (String × UInt16)
  | nonce :: port :: parts => do
      let port ← parseU16 port
      if port = 0 ∨ parts ≠ [] then none else some (String.ofList nonce, port)
  | _ => none

/-- The nonce and the port of an answer. -/
def parseHere (datagram : List UInt8) : Option (String × UInt16) := do
  let text ← decode datagram
  let rest ← HERE_PREFIX.toList.isPrefixOf? (trimEnd text.toList)
  parseParts (words rest)

/-! ### The responder -/

/-- What a socket does: the datagram it receives next, and whether it sends one. -/
structure UdpSocket (ε : Type) where
  recvFrom : Except ε (List UInt8 × SocketAddr)
  sendTo : List UInt8 → SocketAddr → Except ε Unit

/-- Why a datagram is not answered. -/
inductive RespondError (ε : Type) where
  | invalidInput (message : String)
  | io (error : ε)

/-- Answer one datagram: what is sent, and where. -/
def respondOnce {ε : Type} (socket : UdpSocket ε) (tcpPort : UInt16) :
    Except (RespondError ε) (Option (List UInt8 × SocketAddr)) :=
  if tcpPort = 0 then .error (.invalidInput "discovery cannot advertise TCP port 0")
  else do
    let (datagram, source) ← socket.recvFrom.mapError .io
    match parseDiscover (datagram.take DATAGRAM_BUFFER_LEN) with
    | none => return none
    | some nonce => do
        let response := encode (formatHere nonce tcpPort)
        (socket.sendTo response source).mapError .io
        return some (response, source)

/-- `{n:x}`. -/
def lowerHex (n : Nat) : String := String.ofList (Nat.toDigits 16 n)

/-- The nonce of a time in nanoseconds and a process. -/
def freshNonce (nanos : BitVec 128) (pid : UInt32) : String :=
  lowerHex nanos.toNat ++ lowerHex pid.toNat

/-! ### Responses -/

section Here

variable {nonce n : String} {p port : UInt16}

theorem toList_formatHere (nonce : String) (p : UInt16) :
    (formatHere nonce p).toList =
      HERE_PREFIX.toList ++ (nonce.toList ++ ' ' :: Nat.toDigits 10 p.toNat) ++ ['\n'] := by
  have hport : (toString p).toList = Nat.toDigits 10 p.toNat := Nat.toList_repr
  simp only [formatHere, String.toList_append, hport, List.append_assoc]
  rfl

/-- A nonce and a port that is not zero. -/
theorem parseParts_eq_some_iff {parts : List (List Char)} :
    parseParts parts = some (n, p) ↔
      ∃ port, parts = [n.toList, port] ∧ parseU16 port = some p ∧ p ≠ 0 := by
  constructor
  · intro h
    match parts with
    | [] => cases h
    | [_] => cases h
    | nonce :: port :: parts =>
        obtain ⟨q, hq, h⟩ := Option.bind_eq_some_iff.mp h
        split at h
        · cases h
        · next hnot =>
            cases h
            obtain ⟨hzero, hparts⟩ := not_or.mp hnot
            exact ⟨port, by rw [String.toList_ofList, not_not.mp hparts], hq, hzero⟩
  · rintro ⟨port, rfl, hport, hzero⟩
    rw [parseParts, hport]
    exact (if_neg (by simpa using hzero)).trans (by rw [String.ofList_toList])

/-- What a response accepted is. -/
theorem parseHere_eq_some_iff {datagram : List UInt8} :
    parseHere datagram = some (n, p) ↔ ∃ text rest, decode datagram = some text ∧
      trimEnd text.toList = HERE_PREFIX.toList ++ rest ∧
      parseParts (words rest) = some (n, p) := by
  simp only [parseHere, Option.bind_eq_bind, Option.bind_eq_some_iff, isPrefixOf?_eq_some_iff]
  constructor
  · rintro ⟨text, htext, rest, hrest, h⟩
    exact ⟨text, rest, htext, hrest, h⟩
  · rintro ⟨text, rest, htext, hrest, h⟩
    exact ⟨text, htext, rest, hrest, h⟩

/-- A response ends in its port, so only the line end is trimmed. -/
theorem trimEnd_formatHere (nonce : String) (p : UInt16) :
    trimEnd (formatHere nonce p).toList =
      HERE_PREFIX.toList ++ (nonce.toList ++ ' ' :: Nat.toDigits 10 p.toNat) := by
  have hdigits := isWord_toDigits (by decide : 1 < 10) p.toNat
  have hend : HERE_PREFIX.toList ++ (nonce.toList ++ ' ' :: Nat.toDigits 10 p.toNat) =
      HERE_PREFIX.toList ++ nonce.toList ++ [' '] ++ Nat.toDigits 10 p.toNat := by
    simp only [List.append_assoc, List.singleton_append]
  rw [toList_formatHere, trimEnd_concat rfl, hend]
  exact trimEnd_of_trimmed (hdigits.trimmed.append hdigits.1)

/-- **A response is read back** exactly when its nonce is a word and its port is not zero. -/
theorem parseHere_formatHere :
    parseHere (encode (formatHere n p)) = some (n, p) ↔ IsWord n.toList ∧ p ≠ 0 := by
  have hdigits := isWord_toDigits (by decide : 1 < 10) p.toNat
  have hwords : words (n.toList ++ ' ' :: Nat.toDigits 10 p.toNat) =
      words n.toList ++ [Nat.toDigits 10 p.toNat] := by
    rw [words_append_cons _ _ rfl, words_of_isWord hdigits]
  rw [parseHere_eq_some_iff, ← words_eq_singleton_iff]
  constructor
  · rintro ⟨text, rest, htext, hrest, h⟩
    obtain rfl := Option.some.inj ((decode_encode _).symm.trans htext)
    rw [trimEnd_formatHere] at hrest
    obtain rfl := List.append_cancel_left hrest
    rw [hwords] at h
    obtain ⟨port, hparts, -, hzero⟩ := parseParts_eq_some_iff.mp h
    have hnonce : words n.toList = [n.toList] := List.append_inj_left' hparts rfl
    exact ⟨hnonce, hzero⟩
  · rintro ⟨hnonce, hzero⟩
    refine ⟨_, _, decode_encode _, trimEnd_formatHere n p, ?_⟩
    rw [hwords, hnonce]
    exact parseParts_eq_some_iff.mpr ⟨_, rfl, parseU16_toDigits p, hzero⟩

/-- Every response accepted has a word for its nonce, and a port. -/
theorem isWord_of_parseHere {datagram : List UInt8} (h : parseHere datagram = some (n, p)) :
    IsWord n.toList ∧ p ≠ 0 := by
  obtain ⟨text, rest, -, -, hparts⟩ := parseHere_eq_some_iff.mp h
  obtain ⟨port, hwords, -, hzero⟩ := parseParts_eq_some_iff.mp hparts
  exact ⟨isWord_of_mem_words (hwords ▸ List.mem_cons_self), hzero⟩

end Here

/-! ### Requests -/

section Discover

variable {n : String}

theorem toList_formatDiscover (n : String) :
    (formatDiscover n).toList = DISCOVER_PREFIX.toList ++ n.toList ++ ['\n'] := by
  simp only [formatDiscover, String.toList_append]
  rfl

/-- A probe is the prefix and a nonce, before any white space. -/
theorem parseDiscover_eq_some_iff {datagram : List UInt8} :
    parseDiscover datagram = some n ↔ ∃ text, decode datagram = some text ∧
      trimEnd text.toList = DISCOVER_PREFIX.toList ++ n.toList ∧ n.toList ≠ [] := by
  simp only [parseDiscover, Option.bind_eq_bind, Option.bind_eq_some_iff, isPrefixOf?_eq_some_iff]
  constructor
  · rintro ⟨text, htext, nonce, hnonce, h⟩
    split at h
    · cases h
    · next hne =>
        cases h
        rw [String.toList_ofList]
        exact ⟨text, htext, hnonce, fun e => hne (List.isEmpty_iff.mpr e)⟩
  · rintro ⟨text, htext, hnonce, hne⟩
    refine ⟨text, htext, n.toList, hnonce, ?_⟩
    rw [if_neg (mt List.isEmpty_iff.mp hne), String.ofList_toList]

/-- **A request is read back** exactly when its nonce does not end in white space. -/
theorem parseDiscover_formatDiscover :
    parseDiscover (encode (formatDiscover n)) = some n ↔ n.toList ≠ [] ∧ Trimmed n.toList := by
  have htrim : trimEnd (formatDiscover n).toList =
      trimEnd (DISCOVER_PREFIX.toList ++ n.toList) := by
    rw [toList_formatDiscover, trimEnd_concat rfl]
  rw [parseDiscover_eq_some_iff]
  constructor
  · rintro ⟨text, htext, hnonce, hne⟩
    obtain rfl := Option.some.inj ((decode_encode _).symm.trans htext)
    refine ⟨hne, fun c hc => ?_⟩
    refine trimEnd_trimmed (formatDiscover n).toList c ?_
    rw [hnonce, List.getLast?_append_of_ne_nil _ hne]
    exact hc
  · rintro ⟨hne, htrimmed⟩
    exact ⟨_, decode_encode _, htrim.trans (trimEnd_of_trimmed (htrimmed.append hne)), hne⟩

end Discover

/-! ### The exchange -/

section Exchange

variable (nanos : BitVec 128) (pid : UInt32)

theorem toList_freshNonce :
    (freshNonce nanos pid).toList = Nat.toDigits 16 nanos.toNat ++ Nat.toDigits 16 pid.toNat := by
  simp only [freshNonce, lowerHex, String.toList_append, String.toList_ofList]

/-- A nonce has no white space. -/
theorem isWord_freshNonce : IsWord (freshNonce nanos pid).toList := by
  rw [toList_freshNonce]
  exact (isWord_toDigits (by decide) _).append (isWord_toDigits (by decide) _)

/-- A nonce is short. -/
theorem length_freshNonce_le : (freshNonce nanos pid).toList.length ≤ 40 := by
  have hnanos : (Nat.toDigits 16 nanos.toNat).length ≤ 32 :=
    (Nat.length_toDigits_le_iff (by decide) (by decide)).mpr
      (lt_of_lt_of_eq nanos.isLt (by decide))
  have hpid : (Nat.toDigits 16 pid.toNat).length ≤ 8 :=
    (Nat.length_toDigits_le_iff (by decide) (by decide)).mpr
      (lt_of_lt_of_eq pid.toNat_lt (by decide))
  rw [toList_freshNonce, List.length_append]
  omega

/-- A request for a nonce is not cut, even at four bytes a character. -/
theorem take_formatDiscover :
    (encode (formatDiscover (freshNonce nanos pid))).take DATAGRAM_BUFFER_LEN =
      encode (formatDiscover (freshNonce nanos pid)) := by
  have hbytes := length_encode_le (formatDiscover (freshNonce nanos pid))
  have hnonce := length_freshNonce_le nanos pid
  have hprefix : DISCOVER_PREFIX.toList.length = 18 := rfl
  rw [toList_formatDiscover, List.length_append, List.length_append, hprefix,
    List.length_singleton] at hbytes
  exact List.take_of_length_le (le_trans hbytes (show _ ≤ 256 by omega))

/-- Nor is the reply. -/
theorem take_formatHere (p : UInt16) :
    (encode (formatHere (freshNonce nanos pid) p)).take DATAGRAM_BUFFER_LEN =
      encode (formatHere (freshNonce nanos pid) p) := by
  have hbytes := length_encode_le (formatHere (freshNonce nanos pid) p)
  have hnonce := length_freshNonce_le nanos pid
  have hport : (Nat.toDigits 10 p.toNat).length ≤ 5 :=
    (Nat.length_toDigits_le_iff (by decide) (by decide)).mpr
      (lt_of_lt_of_le p.toNat_lt (by decide))
  have hprefix : HERE_PREFIX.toList.length = 16 := rfl
  rw [toList_formatHere, List.length_append, List.length_append, List.length_append,
    List.length_cons, hprefix, List.length_singleton] at hbytes
  exact List.take_of_length_le (le_trans hbytes (show _ ≤ 256 by omega))

/-- **A responder's answer** to a request for a nonce is read as the nonce and the port. -/
theorem respondOnce_freshNonce {ε : Type} {p : UInt16} (hp : p ≠ 0) {socket : UdpSocket ε}
    {source : SocketAddr}
    (hrecv : socket.recvFrom = .ok (encode (formatDiscover (freshNonce nanos pid)), source))
    (hsend : ∀ response, socket.sendTo response source = .ok ()) :
    ∃ response, respondOnce socket p = .ok (some (response, source)) ∧
      parseHere (response.take DATAGRAM_BUFFER_LEN) = some (freshNonce nanos pid, p) := by
  have hword := isWord_freshNonce nanos pid
  have hrequest := parseDiscover_formatDiscover.mpr ⟨hword.1, hword.trimmed⟩
  refine ⟨encode (formatHere (freshNonce nanos pid) p), ?_, ?_⟩
  · rw [respondOnce, if_neg hp, hrecv]
    dsimp only [Except.mapError, bind, Except.bind]
    rw [take_formatDiscover, hrequest]
    dsimp only
    rw [hsend]
    rfl
  · rw [take_formatHere]
    exact parseHere_formatHere.mpr ⟨hword, hp⟩

end Exchange

/-- What the two discovery codecs read back. -/
structure DiscoveryCodec : Prop where
  here : ∀ n p, parseHere (encode (formatHere n p)) = some (n, p) ↔
    (n.toList ≠ [] ∧ ∀ c ∈ n.toList, isWhitespace c = false) ∧ p ≠ 0
  discover : ∀ n, parseDiscover (encode (formatDiscover n)) = some n ↔
    n.toList ≠ [] ∧ ∀ c, n.toList.getLast? = some c → isWhitespace c = false
  accepted : ∀ datagram n p, parseHere datagram = some (n, p) →
    (n.toList ≠ [] ∧ ∀ c ∈ n.toList, isWhitespace c = false) ∧ p ≠ 0
  exchange : ∀ {ε : Type} nanos pid (p : UInt16) (socket : UdpSocket ε) source, p ≠ 0 →
    socket.recvFrom = .ok (encode (formatDiscover (freshNonce nanos pid)), source) →
    (∀ response, socket.sendTo response source = .ok ()) →
    ∃ response, respondOnce socket p = .ok (some (response, source)) ∧
      parseHere (response.take DATAGRAM_BUFFER_LEN) = some (freshNonce nanos pid, p)

/-- **The discovery text codec.** -/
theorem discovery_codec : DiscoveryCodec where
  here _ _ := parseHere_formatHere
  discover _ := parseDiscover_formatDiscover
  accepted _ _ _ h := isWord_of_parseHere h
  exchange nanos pid _ _ _ hp hrecv hsend := respondOnce_freshNonce nanos pid hp hrecv hsend

end PaperPad.Protocol
