import PaperPad.Protocol.V2
import PaperPad.Support.Incremental

/-!
# Protocol — Incremental

`decodeV2Message` on input that arrives in pieces.  From the twelfth byte on its verdict is the
verdict on the header (`readHeader`) and a comparison of lengths, so nothing that follows the
bytes it has judged changes it.

* `decodeV2Message_stable`: an error and a complete message stand whatever follows; an incomplete
  message asks for at least one byte and for no byte too many.
* `v2Decoder` has the laws of an incremental decoder, so a caller that appends chunks and decodes
  reads the same messages and the same error for every way to cut the stream.
-/

namespace PaperPad.Protocol

/-! ### The header decides -/

/-- The checks of `decodeV2Message` on the first twelve bytes. -/
def readHeader (input : List UInt8) : Except V2DecodeError V2Header :=
  if slice input 0 4 ≠ V2_MAGIC then .error (.invalidMagic (slice input 0 4))
  else if input.getD 4 0 ≠ V2_VERSION then .error (.unsupportedVersion (input.getD 4 0))
  else
    match V2MessageType.tryFrom (input.getD 5 0) with
    | .error e => .error e
    | .ok messageType =>
        let flags := UInt16.fromBeBytes (slice input 6 8)
        if flags ≠ 0 then .error (.nonZeroFlags flags)
        else
          let payloadLen := UInt32.fromBeBytes (slice input 8 12)
          if h : payloadLen.toNat ≤ V2_MAX_PAYLOAD_LEN then .ok ⟨messageType, payloadLen, h⟩
          else .error (.payloadTooLarge payloadLen.toNat V2_MAX_PAYLOAD_LEN)

/-- The bytes of the message a header announces. -/
def V2Header.messageLen (h : V2Header) : Nat := V2_HEADER_LEN + h.payloadLen.toNat

/-- The verdict on a header in front of `input`. -/
def framed (input : List UInt8) (h : V2Header) : V2DecodeResult :=
  if input.length < h.messageLen then .incomplete (h.messageLen - input.length)
  else .complete ⟨h, slice input V2_HEADER_LEN h.messageLen⟩ h.messageLen

theorem decodeV2Message_short {input : List UInt8} (h : input.length < V2_HEADER_LEN) :
    decodeV2Message input = .ok (.incomplete (V2_HEADER_LEN - input.length)) := by
  rw [decodeV2Message, if_pos h]

/-- From the twelfth byte on, the decoder is the header and the length. -/
theorem decodeV2Message_eq {input : List UInt8} (h : V2_HEADER_LEN ≤ input.length) :
    decodeV2Message input = (readHeader input).map (framed input) := by
  simp only [decodeV2Message, readHeader]
  rw [if_neg (not_lt.mpr h)]
  by_cases hm : slice input 0 4 ≠ V2_MAGIC
  · rw [if_pos hm, if_pos hm]; rfl
  rw [if_neg hm, if_neg hm]
  by_cases hv : input.getD 4 0 ≠ V2_VERSION
  · rw [if_pos hv, if_pos hv]; rfl
  rw [if_neg hv, if_neg hv]
  cases V2MessageType.tryFrom (input.getD 5 0) with
  | error e => rfl
  | ok t =>
      dsimp only
      by_cases hf : UInt16.fromBeBytes (slice input 6 8) ≠ 0
      · rw [if_pos hf, if_pos hf]; rfl
      rw [if_neg hf, if_neg hf]
      by_cases hl : (UInt32.fromBeBytes (slice input 8 12)).toNat ≤ V2_MAX_PAYLOAD_LEN
      · rw [dif_neg (not_lt.mpr hl), dif_pos hl]
        split_ifs with hs
        · exact congrArg Except.ok (if_pos hs).symm
        · exact congrArg Except.ok (if_neg hs).symm
      · rw [dif_pos (not_le.mp hl), dif_neg hl]; rfl

theorem slice_append {p : List UInt8} (q : List UInt8) {start stop : Nat}
    (h : stop ≤ p.length) : slice (p ++ q) start stop = slice p start stop := by
  by_cases hs : start ≤ stop
  · rw [slice, slice, List.drop_append_of_le_length (by omega),
      List.take_append_of_le_length (by rw [List.length_drop]; omega)]
  · simp [slice, Nat.sub_eq_zero_of_le (Nat.le_of_not_le hs)]

theorem readHeader_append {p : List UInt8} (q : List UInt8) (h : V2_HEADER_LEN ≤ p.length) :
    readHeader (p ++ q) = readHeader p := by
  have h12 : 12 ≤ p.length := h
  have hget : ∀ i < 12, (p ++ q).getD i 0 = p.getD i 0 := fun i hi => by
    rw [List.getD_eq_getElem?_getD, List.getElem?_append_left (by omega),
      ← List.getD_eq_getElem?_getD]
  simp only [readHeader, slice_append q (show 4 ≤ p.length by omega),
    slice_append q (show 8 ≤ p.length by omega), slice_append q h12, hget 4 (by decide),
    hget 5 (by decide)]

/-! ### What follows changes nothing -/

section Append

variable {p : List UInt8}

/-- A verdict other than the wait for a header rests on a header. -/
theorem header_of_error {e : V2DecodeError} (h : decodeV2Message p = .error e) :
    V2_HEADER_LEN ≤ p.length ∧ readHeader p = .error e := by
  by_cases hl : p.length < V2_HEADER_LEN
  · rw [decodeV2Message_short hl] at h
    cases h
  · have hl := not_lt.mp hl
    rw [decodeV2Message_eq hl] at h
    cases hr : readHeader p with
    | error e' => rw [hr] at h; cases h; exact ⟨hl, rfl⟩
    | ok hd => rw [hr] at h; cases h

theorem header_of_complete {m : V2Message} {n : Nat}
    (h : decodeV2Message p = .ok (.complete m n)) :
    V2_HEADER_LEN ≤ p.length ∧ readHeader p = .ok m.header ∧ n = m.header.messageLen ∧
      n ≤ p.length ∧ m.payload = slice p V2_HEADER_LEN n := by
  by_cases hl : p.length < V2_HEADER_LEN
  · rw [decodeV2Message_short hl] at h
    cases h
  · have hl := not_lt.mp hl
    rw [decodeV2Message_eq hl] at h
    cases hr : readHeader p with
    | error e' => rw [hr] at h; cases h
    | ok hd =>
        rw [hr] at h
        simp only [Except.map, framed, Except.ok.injEq] at h
        split_ifs at h with hs
        cases h
        exact ⟨hl, rfl, rfl, not_lt.mp hs, rfl⟩

/-- An incomplete message lacks a part of its header, or of what its header announces. -/
theorem header_of_incomplete {k : Nat} (h : decodeV2Message p = .ok (.incomplete k)) :
    (p.length < V2_HEADER_LEN ∧ k = V2_HEADER_LEN - p.length) ∨
      (V2_HEADER_LEN ≤ p.length ∧ ∃ hd, readHeader p = .ok hd ∧ p.length < hd.messageLen ∧
        k = hd.messageLen - p.length) := by
  by_cases hl : p.length < V2_HEADER_LEN
  · rw [decodeV2Message_short hl] at h
    cases h
    exact .inl ⟨hl, rfl⟩
  · have hl := not_lt.mp hl
    rw [decodeV2Message_eq hl] at h
    cases hr : readHeader p with
    | error e' => rw [hr] at h; cases h
    | ok hd =>
        rw [hr] at h
        simp only [Except.map, framed, Except.ok.injEq] at h
        split_ifs at h with hs
        cases h
        exact .inr ⟨hl, hd, rfl, hs, rfl⟩

theorem decodeV2Message_of_header {hd : V2Header} (hl : V2_HEADER_LEN ≤ p.length)
    (h : readHeader p = .ok hd) (q : List UInt8) :
    decodeV2Message (p ++ q) = .ok (framed (p ++ q) hd) := by
  rw [decodeV2Message_eq (by rw [List.length_append]; omega), readHeader_append q hl, h]
  rfl

theorem decodeV2Message_error_append {e : V2DecodeError} (q : List UInt8)
    (h : decodeV2Message p = .error e) : decodeV2Message (p ++ q) = .error e := by
  obtain ⟨hl, hr⟩ := header_of_error h
  rw [decodeV2Message_eq (by rw [List.length_append]; omega), readHeader_append q hl, hr]
  rfl

theorem decodeV2Message_complete_append {m : V2Message} {n : Nat} (q : List UInt8)
    (h : decodeV2Message p = .ok (.complete m n)) :
    decodeV2Message (p ++ q) = .ok (.complete m n) := by
  obtain ⟨hl, hr, rfl, hn, hp⟩ := header_of_complete h
  have hlen : m.header.messageLen ≤ (p ++ q).length := by rw [List.length_append]; omega
  rw [decodeV2Message_of_header hl hr, framed, if_neg (not_lt.mpr hlen), slice_append q hn, ← hp]

theorem decodeV2Message_incomplete_append {k : Nat} (q : List UInt8)
    (h : decodeV2Message p = .ok (.incomplete k)) (hq : q.length < k) :
    decodeV2Message (p ++ q) = .ok (.incomplete (k - q.length)) := by
  rcases header_of_incomplete h with ⟨hl, rfl⟩ | ⟨hl, hd, hr, hlt, rfl⟩
  · rw [decodeV2Message_short (by rw [List.length_append]; omega), List.length_append,
      Nat.sub_add_eq]
  · have hlen : (p ++ q).length < hd.messageLen := by rw [List.length_append]; omega
    rw [decodeV2Message_of_header hl hr, framed, if_pos hlen, List.length_append, Nat.sub_add_eq]

/-- With its header read, a message is complete with exactly what it asked for. -/
theorem decodeV2Message_completes {k : Nat} {q : List UInt8}
    (h : decodeV2Message p = .ok (.incomplete k)) (hl : V2_HEADER_LEN ≤ p.length)
    (hq : q.length = k) : ∃ m n, decodeV2Message (p ++ q) = .ok (.complete m n) := by
  rcases header_of_incomplete h with ⟨hl', -⟩ | ⟨-, hd, hr, hlt, rfl⟩
  · exact absurd hl (not_le.mpr hl')
  · have hlen : ¬ (p ++ q).length < hd.messageLen := by rw [List.length_append]; omega
    rw [decodeV2Message_of_header hl hr, framed, if_neg hlen]
    exact ⟨_, _, rfl⟩

end Append

/-! ### Callers that append and decode -/

/-- The decoder's report, as incremental callers read it. -/
def V2DecodeResult.progress : V2DecodeResult → Incremental.Progress V2Message
  | .incomplete additional => .incomplete additional
  | .complete message consumed => .complete message consumed

theorem map_progress_incomplete {r : Except V2DecodeError V2DecodeResult} {k : Nat} :
    r.map V2DecodeResult.progress = .ok (.incomplete k) ↔ r = .ok (.incomplete k) := by
  rcases r with e | ⟨_⟩ | ⟨_, _⟩ <;> simp [Except.map, V2DecodeResult.progress]

theorem map_progress_complete {r : Except V2DecodeError V2DecodeResult} {m : V2Message}
    {n : Nat} :
    r.map V2DecodeResult.progress = .ok (.complete m n) ↔ r = .ok (.complete m n) := by
  rcases r with e | ⟨_⟩ | ⟨_, _⟩ <;> simp [Except.map, V2DecodeResult.progress]

theorem map_progress_error {r : Except V2DecodeError V2DecodeResult} {e : V2DecodeError} :
    r.map V2DecodeResult.progress = .error e ↔ r = .error e := by
  rcases r with e | ⟨_⟩ | ⟨_, _⟩ <;> simp [Except.map]

/-- `decodeV2Message` as an incremental decoder. -/
def v2Decoder : Incremental.Decoder UInt8 V2Message V2DecodeError where
  decode input := (decodeV2Message input).map V2DecodeResult.progress
  error_append q h :=
    map_progress_error.mpr (decodeV2Message_error_append q (map_progress_error.mp h))
  complete_append q h :=
    map_progress_complete.mpr (decodeV2Message_complete_append q (map_progress_complete.mp h))
  incomplete_append q h hq :=
    map_progress_incomplete.mpr
      (decodeV2Message_incomplete_append q (map_progress_incomplete.mp h) hq)
  consumed_pos h := by
    obtain ⟨-, -, hn, -, -⟩ := header_of_complete (map_progress_complete.mp h)
    rw [hn]
    exact Nat.add_pos_left (by decide) _
  consumed_le h := (header_of_complete (map_progress_complete.mp h)).2.2.2.1

/-- A caller that has read nothing. -/
def v2Start : v2Decoder.Retained := ⟨[], V2_HEADER_LEN, rfl⟩

/-- **Prefix stability.**  An error and a complete message stand whatever follows; an incomplete
one asks for what it lacks, and no byte more once its header is read.  A caller that appends
chunks and decodes, waiting for the missing bytes or not, reads the messages and the error of the
whole stream. -/
theorem decodeV2Message_stable :
    (∀ p q e, decodeV2Message p = .error e → decodeV2Message (p ++ q) = .error e) ∧
    (∀ p q m n, decodeV2Message p = .ok (.complete m n) →
      decodeV2Message (p ++ q) = .ok (.complete m n)) ∧
    (∀ p k, decodeV2Message p = .ok (.incomplete k) →
      1 ≤ k ∧
      (∀ q, q.length < k → decodeV2Message (p ++ q) = .ok (.incomplete (k - q.length))) ∧
      (V2_HEADER_LEN ≤ p.length →
        ∀ q, q.length = k → ∃ m n, decodeV2Message (p ++ q) = .ok (.complete m n))) ∧
    (∀ chunks, v2Decoder.feedAll v2Decoder.feed (.ok v2Start) chunks =
        v2Decoder.drain chunks.flatten ∧
      v2Decoder.feedAll v2Decoder.feedEager (.ok v2Start) chunks =
        v2Decoder.drain chunks.flatten) := by
  refine ⟨fun p q e h => decodeV2Message_error_append q h,
    fun p q m n h => decodeV2Message_complete_append q h, fun p k h => ⟨?_, ?_, ?_⟩,
    fun chunks => Incremental.Decoder.feedAll_eq rfl chunks⟩
  · rcases header_of_incomplete h with ⟨hl, rfl⟩ | ⟨-, hd, -, hlt, rfl⟩ <;> omega
  · exact fun q hq => decodeV2Message_incomplete_append q h hq
  · exact fun hl q hq => decodeV2Message_completes h hl hq

/-- A wrong magic, a whole Hello header without a payload, a header that announces one byte, and
the empty stream. -/
theorem decodeV2Message_stable_headers :
    let bad : List UInt8 := List.replicate 12 0
    let empty : List UInt8 := [0x50, 0x50, 0x46, 0x42, 2, 1, 0, 0, 0, 0, 0, 0]
    let short : List UInt8 := [0x50, 0x50, 0x46, 0x42, 2, 1, 0, 0, 0, 0, 0, 1]
    decodeV2Message (bad ++ [7]) = .error (.invalidMagic [0, 0, 0, 0]) ∧
      decodeV2Message (empty ++ [7]) = decodeV2Message empty ∧
      decodeV2Message (short ++ []) = .ok (.incomplete (1 - 0)) ∧
      (∃ m n, decodeV2Message (short ++ [7]) = .ok (.complete m n)) ∧
      v2Decoder.feedAll v2Decoder.feed (.ok v2Start) [short, [7]] =
        v2Decoder.drain [short, [7]].flatten := by
  intro bad empty short
  have he : decodeV2Message empty = .ok (.complete ⟨⟨.hello, 0, by decide⟩, []⟩ 12) := by decide
  have hs : decodeV2Message short = .ok (.incomplete 1) := by decide
  obtain ⟨-, hnext, hfull⟩ := decodeV2Message_stable.2.2.1 short 1 hs
  exact ⟨decodeV2Message_stable.1 bad [7] _ (by decide),
    (decodeV2Message_stable.2.1 empty [7] _ _ he).trans he.symm, hnext [] (by decide),
    hfull (by decide) [7] rfl, (decodeV2Message_stable.2.2.2 _).1⟩

end PaperPad.Protocol
