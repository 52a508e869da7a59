import Mathlib.Data.List.DropRight

/-!
# Support — Text

Texts as a program reads them: white space as Unicode has it, a text without the white space at
its end, its words, the numbers written in it, and its bytes in UTF-8.

A word has at least one character and no white space; a text is one word exactly when splitting
it gives it back (`words_eq_singleton_iff`), and every part of a split is a word
(`isWord_of_mem_words`).  A number is read back from its digits (`parseUnsigned_toDigits`), a text
from its bytes (`decode_encode`).
-/

namespace Text

/-! ### White space -/

/-- The Unicode property `White_Space`. -/
def isWhitespace (c : Char) : Bool :=
  (9 ≤ c.toNat && c.toNat ≤ 13) || c.toNat == 0x20 || c.toNat == 0x85 || c.toNat == 0xA0 ||
    c.toNat == 0x1680 || (0x2000 ≤ c.toNat && c.toNat ≤ 0x200A) || c.toNat == 0x2028 ||
    c.toNat == 0x2029 || c.toNat == 0x202F || c.toNat == 0x205F || c.toNat == 0x3000

/-- No white space at the end. -/
def Trimmed (s : List Char) : Prop := ∀ c, s.getLast? = some c → isWhitespace c = false

/-- `str::trim_end`. -/
def trimEnd (s : List Char) : List Char := s.rdropWhile isWhitespace

variable {s t w : List Char} {c : Char}

theorem trimEnd_trimmed (s : List Char) : Trimmed (trimEnd s) := by
  intro c hc
  have hne : trimEnd s ≠ [] := List.getLast?_isSome.mp (hc ▸ rfl)
  rw [List.getLast?_eq_some_getLast hne] at hc
  obtain rfl := Option.some.inj hc
  exact Bool.eq_false_iff.mpr (List.rdropWhile_last_not isWhitespace s hne)

theorem trimEnd_of_trimmed (h : Trimmed s) : trimEnd s = s := by
  refine List.rdropWhile_eq_self_iff.mpr fun hne hc => ?_
  have hlast := h _ (List.getLast?_eq_some_getLast hne)
  rw [hlast] at hc
  cases hc

theorem trimEnd_concat (hc : isWhitespace c = true) : trimEnd (s ++ [c]) = trimEnd s :=
  List.rdropWhile_concat_pos isWhitespace s c hc

/-- The end of a text that does not come to nothing. -/
theorem Trimmed.append (h : Trimmed t) (hne : t ≠ []) : Trimmed (s ++ t) := by
  intro c hc
  rw [List.getLast?_append_of_ne_nil s hne] at hc
  exact h c hc

theorem isPrefixOf?_eq_some_iff {α : Type} [DecidableEq α] {p l r : List α} :
    p.isPrefixOf? l = some r ↔ l = p ++ r := by
  induction p generalizing l with
  | nil =>
      rw [List.isPrefixOf?, Option.some_inj]
      rfl
  | cons a p ih =>
      cases l with
      | nil => exact iff_of_false nofun nofun
      | cons b l =>
          rw [List.isPrefixOf?, List.cons_append, List.cons.injEq]
          by_cases hab : a = b
          · rw [if_pos (beq_iff_eq.mpr hab), ih, and_iff_right hab.symm]
          · rw [if_neg (mt beq_iff_eq.mp hab)]
            exact iff_of_false nofun fun h => hab h.1.symm

/-! ### Words -/

/-- At least one character, no white space. -/
def IsWord (s : List Char) : Prop := s ≠ [] ∧ ∀ c ∈ s, isWhitespace c = false

instance (s : List Char) : Decidable (IsWord s) :=
  @instDecidableAnd _ _ (inferInstanceAs (Decidable (s ≠ []))) (List.decidableBAll _ s)

/-- `str::split_whitespace`. -/
def words (s : List Char) : List (List Char) :=
  (s.splitOnP isWhitespace).filter fun w => !w.isEmpty

theorem words_append_cons (s t : List Char) (hc : isWhitespace c = true) :
    words (s ++ c :: t) = words s ++ words t := by
  rw [words, List.splitOnP_append_cons s t hc, List.filter_append]
  rfl

/-- The parts of a split have none of what it splits at. -/
theorem eq_false_of_mem_splitOnP {α : Type} {p : α → Bool} {l w : List α} (h : w ∈ l.splitOnP p) :
    ∀ a ∈ w, p a = false := by
  induction l generalizing w with
  | nil =>
      rw [List.splitOnP_nil, List.mem_singleton] at h
      rw [h]
      exact fun a ha => absurd ha List.not_mem_nil
  | cons a l ih =>
      rw [List.splitOnP_cons_eq_if_modifyHead] at h
      split at h
      · rcases List.mem_cons.mp h with rfl | h
        · exact fun a ha => absurd ha List.not_mem_nil
        · exact ih h
      · next ha =>
          obtain ⟨first, rest, hsplit⟩ := List.exists_cons_of_ne_nil (List.splitOnP_ne_nil p l)
          rw [hsplit, List.modifyHead_cons] at h
          rcases List.mem_cons.mp h with rfl | h
          · intro b hb
            rcases List.mem_cons.mp hb with rfl | hb
            · exact Bool.eq_false_iff.mpr ha
            · exact ih (hsplit ▸ List.mem_cons_self) b hb
          · exact ih (hsplit ▸ List.mem_cons_of_mem _ h)

theorem isWord_of_mem_words (h : w ∈ words s) : IsWord w := by
  obtain ⟨hmem, hne⟩ := List.mem_filter.mp h
  refine ⟨?_, eq_false_of_mem_splitOnP hmem⟩
  rintro rfl
  cases hne

theorem words_of_isWord (h : IsWord s) : words s = [s] := by
  rw [words, List.splitOnP_eq_singleton h.2]
  cases s with
  | nil => exact absurd rfl h.1
  | cons c s => rfl

theorem words_eq_singleton_iff : words s = [s] ↔ IsWord s :=
  ⟨fun h => isWord_of_mem_words (h ▸ List.mem_singleton_self s), words_of_isWord⟩

theorem IsWord.append (hs : IsWord s) (ht : IsWord t) : IsWord (s ++ t) := by
  refine ⟨fun h => hs.1 (List.append_eq_nil_iff.mp h).1, fun c hc => ?_⟩
  rcases List.mem_append.mp hc with hc | hc
  · exact hs.2 c hc
  · exact ht.2 c hc

theorem IsWord.trimmed (h : IsWord s) : Trimmed s := by
  intro c hc
  exact h.2 c (List.mem_of_getLast? hc)

/-! ### Blanks -/

/-- White space and nothing else. -/
def Blank (s : List Char) : Prop := ∀ c ∈ s, isWhitespace c = true

instance (s : List Char) : Decidable (Blank s) := List.decidableBAll _ s

/-- At least one character, no white space at either end. -/
structure Bare (s : List Char) : Prop where
  ne_nil : s ≠ []
  head : ∀ c, s.head? = some c → isWhitespace c = false
  trimmed : Trimmed s

/-- `str::trim_start`. -/
def trimStart (s : List Char) : List Char := s.dropWhile isWhitespace

/-- `str::trim`. -/
def trim (s : List Char) : List Char := trimEnd (trimStart s)

/-- A text before and from the first character that `p` takes, by `str::find`. -/
def breakAt (p : Char → Bool) (s : List Char) : Option (List Char × List Char) :=
  match s.dropWhile fun c => !p c with
  | [] => none
  | c :: rest => some (s.takeWhile fun c => !p c, c :: rest)

/-- `str::split_once`. -/
def splitOnce (separator : Char) (s : List Char) : Option (List Char × List Char) :=
  (breakAt (· == separator) s).map fun parts => (parts.1, parts.2.tail)

section Blanks

variable {g g' a b : List Char} {p : Char → Bool}

theorem Blank.of_cons (h : Blank (c :: g)) : Blank g := fun d hd => h d (List.mem_cons_of_mem c hd)

theorem Blank.append (h : Blank g) (h' : Blank g') : Blank (g ++ g') := by
  intro c hc
  rcases List.mem_append.mp hc with hc | hc
  · exact h c hc
  · exact h' c hc

theorem exists_trimStart (s : List Char) : ∃ g, Blank g ∧ s = g ++ trimStart s :=
  ⟨s.takeWhile isWhitespace, fun _ hc => List.mem_takeWhile_imp hc,
    List.takeWhile_append_dropWhile.symm⟩

theorem exists_trimEnd (s : List Char) : ∃ g, Blank g ∧ s = trimEnd s ++ g :=
  ⟨s.rtakeWhile isWhitespace, fun _ hc => List.mem_rtakeWhile_imp hc,
    (List.rdropWhile_append_rtakeWhile ..).symm⟩

theorem exists_trim (s : List Char) : ∃ g g', Blank g ∧ Blank g' ∧ s = g ++ (trim s ++ g') := by
  obtain ⟨g, hg, hs⟩ := exists_trimStart s
  obtain ⟨g', hg', ht⟩ := exists_trimEnd (trimStart s)
  exact ⟨g, g', hg, hg', by rw [trim, ← ht]; exact hs⟩

theorem IsWord.bare (h : IsWord s) : Bare s :=
  ⟨h.1, fun c hc => h.2 c (List.mem_of_head? hc), h.trimmed⟩

/-- Something in between is free. -/
theorem Bare.append (hs : Bare s) (ht : Bare t) (m : List Char) : Bare (s ++ (m ++ t)) where
  ne_nil h := hs.ne_nil (List.append_eq_nil_iff.mp h).1
  head c hc := by
    rw [List.head?_append_of_ne_nil s hs.ne_nil] at hc
    exact hs.head c hc
  trimmed := by
    rw [← List.append_assoc]
    exact ht.trimmed.append ht.ne_nil

theorem trimStart_head (h : (trimStart s).head? = some c) : isWhitespace c = false := by
  have hhead := List.head?_dropWhile_not isWhitespace s
  rw [show s.dropWhile isWhitespace = trimStart s from rfl, h] at hhead
  simpa using hhead

theorem trim_bare (h : trim s ≠ []) : Bare (trim s) where
  ne_nil := h
  head c hc := by
    obtain ⟨g, -, ht⟩ := exists_trimEnd (trimStart s)
    have hhead : (trimStart s).head? = some c := by
      have hne : trimEnd (trimStart s) ≠ [] := h
      rw [ht, List.head?_append_of_ne_nil _ hne]
      exact hc
    exact trimStart_head hhead
  trimmed := trimEnd_trimmed (trimStart s)

theorem trimStart_blank_append (hg : Blank g) (h : ∀ c, s.head? = some c → isWhitespace c = false) :
    trimStart (g ++ s) = s := by
  rw [trimStart, List.dropWhile_append_of_pos hg]
  cases s with
  | nil => rfl
  | cons c s => exact List.dropWhile_cons_of_neg (by rw [h c rfl]; exact Bool.false_ne_true)

theorem trimEnd_append_blank (hg : Blank g) (s : List Char) : trimEnd (s ++ g) = trimEnd s := by
  induction g using List.reverseRecOn with
  | nil => rw [List.append_nil]
  | append_singleton g c ih =>
      rw [← List.append_assoc, trimEnd_concat (hg c (by simp))]
      exact ih fun d hd => hg d (List.mem_append_left _ hd)

theorem trim_of_bare (hs : Bare s) (hg : Blank g) (hg' : Blank g') : trim (g ++ (s ++ g')) = s := by
  have hhead : ∀ c, (s ++ g').head? = some c → isWhitespace c = false := fun c hc =>
    hs.head c (by rwa [List.head?_append_of_ne_nil s hs.ne_nil] at hc)
  rw [trim, trimStart_blank_append hg hhead, trimEnd_append_blank hg', trimEnd_of_trimmed hs.trimmed]

theorem trim_eq_nil_iff : trim s = [] ↔ Blank s := by
  constructor
  · intro h
    obtain ⟨g, g', hg, hg', hs⟩ := exists_trim s
    rw [hs, h]
    exact hg.append hg'
  · intro h
    by_contra hne
    obtain ⟨g, g', -, -, hs⟩ := exists_trim s
    have hmem : ∀ c ∈ trim s, c ∈ s := fun c hc =>
      hs ▸ List.mem_append_right g (List.mem_append_left g' hc)
    have hblank := h _ (hmem _ (List.head_mem hne))
    rw [(trim_bare hne).head _ (List.head?_eq_some_head hne)] at hblank
    cases hblank

theorem words_blank_append (hg : Blank g) (s : List Char) : words (g ++ s) = words s := by
  induction g with
  | nil => rfl
  | cons c g ih =>
      have hc : words ([] ++ c :: (g ++ s)) = words [] ++ words (g ++ s) :=
        words_append_cons [] (g ++ s) (hg c List.mem_cons_self)
      exact hc.trans (ih hg.of_cons)

theorem words_blank (hg : Blank g) : words g = [] := by
  have h := words_blank_append hg []
  rwa [List.append_nil] at h

theorem words_append_blank (hg : Blank g) (s : List Char) : words (s ++ g) = words s := by
  cases g with
  | nil => rw [List.append_nil]
  | cons c g =>
      rw [words_append_cons s g (hg c List.mem_cons_self), words_blank hg.of_cons, List.append_nil]

theorem words_trim (s : List Char) : words (trim s) = words s := by
  obtain ⟨g, g', hg, hg', hs⟩ := exists_trim s
  conv_rhs => rw [hs, words_blank_append hg, words_append_blank hg']

/-- A word, at least one white space, and the rest. -/
theorem words_cons (hw : IsWord w) (hg : Blank g) (hne : g ≠ []) (s : List Char) :
    words (w ++ (g ++ s)) = w :: words s := by
  obtain ⟨c, g, rfl⟩ := List.exists_cons_of_ne_nil hne
  rw [List.cons_append, words_append_cons w (g ++ s) (hg c List.mem_cons_self),
    words_of_isWord hw, words_blank_append hg.of_cons]
  rfl

/-- Words with a space between them. -/
theorem words_intercalate {ws : List (List Char)} (h : ∀ w ∈ ws, IsWord w) :
    words ([' '].intercalate ws) = ws := by
  induction ws with
  | nil => rfl
  | cons w ws ih =>
      have hw := h w List.mem_cons_self
      cases ws with
      | nil => rw [List.intercalate_singleton, words_of_isWord hw]
      | cons v ws =>
          have hspace : Blank [' '] := by decide
          rw [List.intercalate_cons_cons, List.append_assoc, words_cons hw hspace (by decide),
            ih fun u hu => h u (List.mem_cons_of_mem w hu)]

theorem breakAt_eq_some_iff : breakAt p s = some (a, b) ↔
    s = a ++ b ∧ (∀ c ∈ a, p c = false) ∧ ∃ c rest, b = c :: rest ∧ p c = true := by
  have hsplit := List.takeWhile_append_dropWhile (p := fun c => !p c) (l := s)
  constructor
  · intro h
    unfold breakAt at h
    split at h
    · cases h
    · next c rest hd =>
        cases h
        refine ⟨(hd ▸ hsplit).symm, fun d hm => ?_, c, rest, rfl, ?_⟩
        · simpa using List.mem_takeWhile_imp hm
        · have hhead := List.head?_dropWhile_not (fun c => !p c) s
          rw [hd] at hhead
          simpa using hhead
  · rintro ⟨rfl, ha, c, rest, rfl, hc⟩
    have ha' : ∀ d ∈ a, (!p d) = true := fun d hd => by rw [ha d hd]; rfl
    rw [breakAt, List.dropWhile_append_of_pos ha', List.takeWhile_append_of_pos ha',
      List.dropWhile_cons_of_neg (by simpa using hc), List.takeWhile_cons_of_neg (by simpa using hc),
      List.append_nil]

/-- A text breaks at the white space after its first word. -/
theorem breakAt_word (hw : IsWord w) (hg : Blank g) (hne : g ≠ []) (s : List Char) :
    breakAt isWhitespace (w ++ (g ++ s)) = some (w, g ++ s) := by
  obtain ⟨c, g, rfl⟩ := List.exists_cons_of_ne_nil hne
  exact breakAt_eq_some_iff.mpr ⟨rfl, hw.2, c, g ++ s, rfl, hg c List.mem_cons_self⟩

/-- What follows a text before its first white space: blanks, and the rest without them. -/
theorem of_breakAt_space (h : breakAt isWhitespace s = some (a, b)) :
    ∃ g, Blank g ∧ g ≠ [] ∧ b = g ++ trimStart b ∧ s = a ++ (g ++ trimStart b) := by
  obtain ⟨rfl, -, c, rest, rfl, hc⟩ := breakAt_eq_some_iff.mp h
  obtain ⟨g, hg, hb⟩ := exists_trimStart (c :: rest)
  refine ⟨g, hg, ?_, hb, by rw [← hb]⟩
  rintro rfl
  have hhead : (trimStart (c :: rest)).head? = some c := by
    rw [List.nil_append] at hb
    rw [← hb]
    rfl
  rw [trimStart_head hhead] at hc
  cases hc

theorem splitOnce_eq_some_iff {separator : Char} :
    splitOnce separator s = some (a, b) ↔ s = a ++ separator :: b ∧ separator ∉ a := by
  rw [splitOnce, Option.map_eq_some_iff]
  constructor
  · rintro ⟨⟨a', b'⟩, hbreak, hab⟩
    obtain ⟨rfl, ha, c, rest, rfl, hc⟩ := breakAt_eq_some_iff.mp hbreak
    cases hab
    refine ⟨by rw [beq_iff_eq.mp hc]; rfl, fun hmem => ?_⟩
    have hne := ha separator hmem
    rw [beq_self_eq_true] at hne
    cases hne
  · rintro ⟨rfl, ha⟩
    refine ⟨(a, separator :: b), breakAt_eq_some_iff.mpr ⟨rfl, fun c hc => ?_, separator, b, rfl,
      beq_self_eq_true separator⟩, rfl⟩
    exact beq_eq_false_iff_ne.mpr (ne_of_mem_of_not_mem hc ha)

end Blanks

/-! ### Numbers -/

/-- The digits of a number are not white space. -/
theorem isWhitespace_digitChar (d : Nat) : isWhitespace (Nat.digitChar d) = false := by
  by_cases h : d < 16
  · exact (by decide : ∀ d < 16, isWhitespace (Nat.digitChar d) = false) d h
  · unfold Nat.digitChar
    iterate 16 rw [if_neg (by omega)]
    rfl

theorem isWord_toDigits {b : Nat} (hb : 1 < b) (n : Nat) : IsWord (Nat.toDigits b n) := by
  refine ⟨Nat.toDigits_ne_nil, ?_⟩
  induction n using Nat.strong_induction_on with
  | _ n ih =>
      intro c hc
      rw [Nat.toDigits_eq_if hb] at hc
      split at hc
      · rw [List.mem_singleton.mp hc]
        exact isWhitespace_digitChar n
      · next hn =>
          rcases List.mem_append.mp hc with hc | hc
          · exact ih (n / b) (Nat.div_lt_self (by omega) hb) c hc
          · rw [List.mem_singleton.mp hc]
            exact isWhitespace_digitChar (n % b)

/-- The value of decimal digits, when the type has it. -/
def parseDigits (values : Nat) (digits : List Char) : Option Nat :=
  if digits.isEmpty || !digits.all Char.isDigit then none
  else if Nat.ofDigitChars 10 digits 0 < values then some (Nat.ofDigitChars 10 digits 0)
  else none

/-- `str::parse` at an unsigned type of so many values: an optional plus and decimal digits. -/
def parseUnsigned (values : Nat) (s : List Char) : Option Nat :=
  parseDigits values (if s.head? = some '+' then s.tail else s)

theorem parseUnsigned_toDigits {values n : Nat} (h : n < values) :
    parseUnsigned values (Nat.toDigits 10 n) = some n := by
  have hdigit : ∀ c ∈ Nat.toDigits 10 n, c.isDigit = true :=
    fun c hc => Nat.isDigit_of_mem_toDigits (by decide) (by decide) hc
  have hplus : (Nat.toDigits 10 n).head? ≠ some '+' := by
    intro hhead
    have hmem := hdigit '+' (List.mem_of_head? hhead)
    cases hmem
  have hvalid : ((Nat.toDigits 10 n).isEmpty || !(Nat.toDigits 10 n).all Char.isDigit) = false := by
    rw [List.isEmpty_eq_false_iff.mpr Nat.toDigits_ne_nil, List.all_eq_true.mpr hdigit]
    rfl
  rw [parseUnsigned, if_neg hplus, parseDigits, hvalid, if_neg Bool.false_ne_true,
    Nat.ofDigitChars_ten_toDigits, if_pos h]

/-- `str::parse::<u8>`. -/
def parseU8 (s : List Char) : Option UInt8 := (parseUnsigned 256 s).map UInt8.ofNat

theorem parseU8_toDigits (n : UInt8) : parseU8 (Nat.toDigits 10 n.toNat) = some n := by
  rw [parseU8, parseUnsigned_toDigits n.toNat_lt, Option.map_some, UInt8.ofNat_toNat]

/-- A number is written with digits and a sign. -/
theorem notMem_of_parseUnsigned {values n : Nat} (h : parseUnsigned values s = some n)
    (hc : c.isDigit = false) (hplus : c ≠ '+') : c ∉ s := by
  have hdigits : ∀ {digits : List Char}, parseDigits values digits = some n → c ∉ digits := by
    intro digits hd hmem
    rw [parseDigits] at hd
    split at hd
    · cases hd
    · next hvalid =>
        rw [Bool.or_eq_true, not_or, Bool.not_eq_true', Bool.not_eq_false, List.all_eq_true] at hvalid
        rw [hvalid.2 c hmem] at hc
        cases hc
  rw [parseUnsigned] at h
  split at h
  · next hhead =>
      cases s with
      | nil => exact List.not_mem_nil
      | cons d s =>
          cases hhead
          exact fun hmem => (List.mem_cons.mp hmem).elim hplus (hdigits h)
  · exact hdigits h

/-- `str::parse::<u16>`. -/
def parseU16 (s : List Char) : Option UInt16 := (parseUnsigned 65536 s).map UInt16.ofNat

theorem parseU16_toDigits (n : UInt16) : parseU16 (Nat.toDigits 10 n.toNat) = some n := by
  rw [parseU16, parseUnsigned_toDigits n.toNat_lt, Option.map_some, UInt16.ofNat_toNat]

/-! ### UTF-8 -/

/-- `str::as_bytes`. -/
def encode (s : String) : List UInt8 := s.toByteArray.data.toList

/-- `str::from_utf8`. -/
def decode (bytes : List UInt8) : Option String := String.fromUTF8? ⟨bytes.toArray⟩

theorem decode_encode (s : String) : decode (encode s) = some s := by
  have h : (⟨(encode s).toArray⟩ : ByteArray) = s.toByteArray := by
    rw [encode, Array.toArray_toList]
  rw [decode, h, String.fromUTF8?, dif_pos s.isValidUTF8]
  rfl

theorem encode_ofList (l : List Char) :
    encode (String.ofList l) = l.flatMap String.utf8EncodeChar := by
  rw [encode, String.toByteArray_ofList, List.utf8Encode, List.toList_data_toByteArray]

theorem encode_append (s t : String) : encode (s ++ t) = encode s ++ encode t := by
  rw [encode, encode, encode, String.toByteArray_append, ByteArray.data_append,
    Array.toList_append]

theorem encode_of_decode {bytes : List UInt8} {s : String} (h : decode bytes = some s) :
    encode s = bytes := by
  unfold decode String.fromUTF8? at h
  split at h
  · cases h
    rfl
  · cases h

/-- No character's bytes begin another's, so what begins the bytes of a text begins the text. -/
theorem prefix_of_encode {s t : String} (h : encode s <+: encode t) : s.toList <+: t.toList := by
  obtain ⟨rest, hrest⟩ := h
  refine List.isPrefix_of_utf8Encode_append_eq_utf8Encode ⟨rest.toArray⟩ ?_
  rw [String.utf8Encode_toList, String.utf8Encode_toList]
  refine ByteArray.ext (Array.toList_inj.mp ?_)
  rw [ByteArray.data_append, Array.toList_append]
  exact hrest

/-- A character has at most four bytes. -/
theorem length_encode_le (s : String) : (encode s).length ≤ 4 * s.toList.length := by
  obtain ⟨l, rfl⟩ := s.exists_eq_ofList
  rw [encode_ofList, String.toList_ofList]
  induction l with
  | nil => exact Nat.le_refl 0
  | cons c l ih =>
      have hc := c.utf8Size_le_four
      rw [List.flatMap_cons, List.length_append, List.length_cons, String.length_utf8EncodeChar]
      omega

end Text
