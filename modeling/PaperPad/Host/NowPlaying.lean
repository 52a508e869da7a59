import PaperPad.Protocol.Reader
import PaperPad.Support.Text

/-!
# Host — NowPlaying

The pipe between the Now Playing helper and its parent, of `tools/paperspoon/src/now_playing.rs`:
what `run_helper` writes, and how the parent reads it.  Acquiring the snapshot, rendering it and
the two processes are not modelled; the helper's response is a parameter.

An error is cut before the first character that does not fit, so what is sent is the longest
prefix of whole characters (`pushFitting_longest`), which is UTF-8 and within the parent's limit.
The parent checks the header before it reserves a payload, so what it does not accept costs it
nothing (`readResponse_rejected`).
-/

namespace PaperPad.Host

open Protocol Text

/-- `b"PNP1"`. -/
def HELPER_MAGIC : List UInt8 := [0x50, 0x4e, 0x50, 0x31]

/-- The magic, the status and the length. -/
def HELPER_HEADER_LEN : Nat := 9

/-- The most a message of the helper may take. -/
def HELPER_ERROR_LIMIT : Nat := 64 * 1024

/-! ### The helper -/

/-- `for character in error.chars()`: push each, until one does not fit. -/
def pushFitting (output : String) : List Char → String
  | [] => output
  | character :: characters =>
      if output.utf8ByteSize + character.utf8Size > HELPER_ERROR_LIMIT then output
      else pushFitting (output.push character) characters

/-- The longest prefix of whole characters that fits. -/
def boundedErrorBytes (error : String) : List UInt8 := encode (pushFitting "" error.toList)

/-- The status and the payload of a response. -/
def helperPayload : Except String Gray8Frame → UInt8 × List UInt8
  | .ok frame => (0, frame.pixels)
  | .error error => (1, boundedErrorBytes error)

/-- `u32::try_from(length).unwrap_or(u32::MAX)`. -/
def u32Saturating (length : Nat) : UInt32 :=
  if length < 2 ^ 32 then UInt32.ofNat length else 4294967295

/-- What `run_helper` writes. -/
def helperBytes (response : Except String Gray8Frame) : List UInt8 :=
  let (status, payload) := helperPayload response
  HELPER_MAGIC ++ [status] ++ (u32Saturating payload.length).toBeBytes ++ payload

/-! ### The parent -/

/-- The `match` on the status. -/
def checkHelperStatus (expectedPixels : Nat) (status : UInt8) (length : Nat) :
    Except String (UInt8 × Nat) :=
  if status = 0 then
    if length = expectedPixels then .ok (status, length)
    else .error s!"Now Playing helper returned {length} pixels; expected {expectedPixels}"
  else if status = 1 then
    if length ≤ HELPER_ERROR_LIMIT then .ok (status, length)
    else .error "Now Playing helper error response exceeds size limit"
  else .error s!"Now Playing helper returned invalid status {status}"

/-- `u32::from_be_bytes(header[5..9])`. -/
def helperLength (header : List UInt8) : Nat :=
  (UInt32.fromBeBytes ((header.drop 5).take 4)).toNat

/-- The status and the length of the payload, if it may be that long. -/
def decodeHelperHeader (header : List UInt8) (expectedPixels : Nat) :
    Except String (UInt8 × Nat) :=
  if header.take 4 ≠ HELPER_MAGIC then
    .error "Now Playing helper returned an invalid response magic"
  else checkHelperStatus expectedPixels (header.getD 4 0) (helperLength header)

/-- The pixels, or the error the helper tells. -/
def decodeHelperPayload (status : UInt8) (payload : List UInt8) : Except String (List UInt8) :=
  if status = 0 then .ok payload
  else
    match decode payload with
    | none => .error "Now Playing helper returned a non-UTF-8 error"
    | some message => .error message

/-- Reserve and read a payload; `reserve` is what reserving says. -/
def readPayload (reserve : Nat → Except String Unit) (status : UInt8) (length : Nat)
    (pipe : List UInt8) : Except String (List UInt8) :=
  match reserve length with
  | .error error => .error s!"failed to allocate Now Playing helper response: {error}"
  | .ok () =>
      if length ≤ pipe.length then decodeHelperPayload status (pipe.take length)
      else .error s!"failed to read Now Playing helper payload: {failedToFill.message}"

/-- The parent's reader: what it makes of the pipe, and the payload it reserved. -/
def readResponse (reserve : Nat → Except String Unit) (expectedPixels : Nat)
    (pipe : List UInt8) : Except String (List UInt8) × Option Nat :=
  if HELPER_HEADER_LEN ≤ pipe.length then
    match decodeHelperHeader (pipe.take HELPER_HEADER_LEN) expectedPixels with
    | .error error => (.error error, none)
    | .ok (status, length) =>
        (readPayload reserve status length (pipe.drop HELPER_HEADER_LEN), some length)
  else (.error s!"failed to read Now Playing helper header: {failedToFill.message}", none)

/-! ### The longest prefix that fits -/

/-- `t` is the longest prefix of whole characters of `s` of at most `limit` bytes. -/
structure LongestPrefix (limit : Nat) (s t : String) : Prop where
  isPrefix : t.toList <+: s.toList
  fits : t.utf8ByteSize ≤ limit
  longest : ∀ u : String, u.toList <+: s.toList → u.utf8ByteSize ≤ limit → u.toList <+: t.toList

theorem utf8ByteSize_ofList_cons (c : Char) (l : List Char) :
    (String.ofList (c :: l)).utf8ByteSize = c.utf8Size + (String.ofList l).utf8ByteSize := by
  rw [← List.singleton_append, String.ofList_append, ← String.singleton_eq_ofList,
    String.utf8ByteSize_append, String.utf8ByteSize_singleton]

/-- What is pushed after `output`. -/
theorem exists_pushFitting (characters : List Char) (output : String)
    (h : output.utf8ByteSize ≤ HELPER_ERROR_LIMIT) :
    ∃ t, (pushFitting output characters).toList = output.toList ++ t ∧ t <+: characters ∧
      (pushFitting output characters).utf8ByteSize ≤ HELPER_ERROR_LIMIT ∧
      ∀ u, u <+: characters →
        output.utf8ByteSize + (String.ofList u).utf8ByteSize ≤ HELPER_ERROR_LIMIT → u <+: t := by
  induction characters generalizing output with
  | nil => exact ⟨[], (List.append_nil _).symm, List.prefix_rfl, h, fun u hu _ => hu⟩
  | cons c characters ih =>
      rw [pushFitting]
      by_cases hfits : output.utf8ByteSize + c.utf8Size > HELPER_ERROR_LIMIT
      · rw [if_pos hfits]
        refine ⟨[], (List.append_nil _).symm, List.nil_prefix, h, fun u hu hsize => ?_⟩
        cases u with
        | nil => exact List.prefix_rfl
        | cons d u =>
            obtain ⟨rfl, -⟩ := List.cons_prefix_cons.mp hu
            rw [utf8ByteSize_ofList_cons] at hsize
            omega
      · rw [if_neg hfits]
        have hpush : (output.push c).utf8ByteSize = output.utf8ByteSize + c.utf8Size :=
          String.utf8ByteSize_push
        obtain ⟨t, ht, hprefix, hsize, hlongest⟩ := ih (output.push c) (by omega)
        refine ⟨c :: t, ?_, List.cons_prefix_cons.mpr ⟨rfl, hprefix⟩, hsize, fun u hu hu' => ?_⟩
        · rw [ht, String.toList_push, List.append_assoc, List.singleton_append]
        · cases u with
          | nil => exact List.nil_prefix
          | cons d u =>
              obtain ⟨rfl, hrest⟩ := List.cons_prefix_cons.mp hu
              rw [utf8ByteSize_ofList_cons] at hu'
              exact List.cons_prefix_cons.mpr ⟨rfl, hlongest u hrest (by omega)⟩

/-- **A message is cut to the longest prefix that fits.** -/
theorem pushFitting_longest (s : String) :
    LongestPrefix HELPER_ERROR_LIMIT s (pushFitting "" s.toList) := by
  obtain ⟨t, ht, hprefix, hsize, hlongest⟩ := exists_pushFitting s.toList "" (Nat.zero_le _)
  have hlist : (pushFitting "" s.toList).toList = t := ht
  refine ⟨hlist ▸ hprefix, hsize, fun u hu hfits => ?_⟩
  rw [hlist]
  refine hlongest u.toList hu ?_
  rw [String.ofList_toList]
  exact (Nat.zero_add _).symm ▸ hfits

/-! ### The pipe -/

section Pipe

variable {expectedPixels length : Nat} {status : UInt8} {header payload pipe : List UInt8}
  {reserve : Nat → Except String Unit}

/-- A status with a length that it may have. -/
def HelperLength (expectedPixels : Nat) (status : UInt8) (length : Nat) : Prop :=
  status = 0 ∧ length = expectedPixels ∨ status = 1 ∧ length ≤ HELPER_ERROR_LIMIT

theorem checkHelperStatus_of (h : HelperLength expectedPixels status length) :
    checkHelperStatus expectedPixels status length = .ok (status, length) := by
  rw [checkHelperStatus]
  rcases h with ⟨rfl, rfl⟩ | ⟨rfl, hle⟩
  · rw [if_pos rfl, if_pos rfl]
  · rw [if_neg (by decide), if_pos rfl, if_pos hle]

theorem helperLength_of_check {accepted : UInt8 × Nat}
    (h : checkHelperStatus expectedPixels status length = .ok accepted) :
    accepted = (status, length) ∧ HelperLength expectedPixels status length := by
  rw [checkHelperStatus] at h
  split_ifs at h with hzero hlength hone hlimit
  · exact ⟨(Except.ok.inj h).symm, .inl ⟨hzero, hlength⟩⟩
  · exact ⟨(Except.ok.inj h).symm, .inr ⟨hone, hlimit⟩⟩

/-- **What the parent accepts of a header.** -/
theorem decodeHelperHeader_eq_ok :
    decodeHelperHeader header expectedPixels = .ok (status, length) ↔
      header.take 4 = HELPER_MAGIC ∧ header.getD 4 0 = status ∧ helperLength header = length ∧
        HelperLength expectedPixels status length := by
  rw [decodeHelperHeader]
  constructor
  · intro h
    split at h
    · cases h
    · next hmagic =>
        obtain ⟨heq, hlength⟩ := helperLength_of_check h
        obtain ⟨rfl, rfl⟩ := Prod.mk.inj heq
        exact ⟨not_not.mp hmagic, rfl, rfl, hlength⟩
  · rintro ⟨hmagic, rfl, rfl, hlength⟩
    rw [if_neg (not_not.mpr hmagic), checkHelperStatus_of hlength]

/-- A header as the helper writes it. -/
theorem decodeHelperHeader_written (hlength : length < 2 ^ 32)
    (h : HelperLength expectedPixels status length) :
    decodeHelperHeader (HELPER_MAGIC ++ [status] ++ (u32Saturating length).toBeBytes)
      expectedPixels = .ok (status, length) := by
  have hbytes : (HELPER_MAGIC ++ [status] ++ (u32Saturating length).toBeBytes).drop 5 =
      (u32Saturating length).toBeBytes := rfl
  have htake : (u32Saturating length).toBeBytes.take 4 = (u32Saturating length).toBeBytes :=
    List.take_of_length_le (UInt32.toBeBytes_length _).le
  refine decodeHelperHeader_eq_ok.mpr ⟨rfl, rfl, ?_, h⟩
  rw [helperLength, hbytes, htake, UInt32.fromBeBytes_toBeBytes, u32Saturating, if_pos hlength]
  exact UInt32.toNat_ofNat_of_lt' hlength

/-- A pipe that starts as the helper writes it. -/
theorem readResponse_written (hlength : length < 2 ^ 32)
    (h : HelperLength expectedPixels status length) (rest : List UInt8) :
    readResponse reserve expectedPixels
        (HELPER_MAGIC ++ [status] ++ (u32Saturating length).toBeBytes ++ rest) =
      (readPayload reserve status length rest, some length) := by
  have hheader : (HELPER_MAGIC ++ [status] ++ (u32Saturating length).toBeBytes).length =
      HELPER_HEADER_LEN := by
    rw [List.length_append, UInt32.toBeBytes_length]
    rfl
  have hle : HELPER_HEADER_LEN ≤
      (HELPER_MAGIC ++ [status] ++ (u32Saturating length).toBeBytes ++ rest).length := by
    rw [List.length_append, hheader]
    exact Nat.le_add_right _ _
  rw [readResponse, if_pos hle, List.take_left' hheader, List.drop_left' hheader,
    decodeHelperHeader_written hlength h]

/-- Either nothing is reserved and reading fails, or a header is accepted. -/
theorem readResponse_cases (reserve : Nat → Except String Unit) (expectedPixels : Nat)
    (pipe : List UInt8) :
    (∃ error, readResponse reserve expectedPixels pipe = (.error error, none)) ∨
      ∃ status length, pipe.take 4 = HELPER_MAGIC ∧ pipe.getD 4 0 = status ∧
        helperLength pipe = length ∧ HelperLength expectedPixels status length ∧
        readResponse reserve expectedPixels pipe =
          (readPayload reserve status length (pipe.drop HELPER_HEADER_LEN), some length) := by
  rw [readResponse]
  split
  · cases hdecode : decodeHelperHeader (pipe.take HELPER_HEADER_LEN) expectedPixels with
    | error error => exact .inl ⟨error, rfl⟩
    | ok accepted =>
        obtain ⟨hmagic, hstatus, hlen, hlength⟩ := decodeHelperHeader_eq_ok.mp hdecode
        rw [List.take_take] at hmagic
        rw [List.getD_eq_getElem?_getD, List.getElem?_take_of_lt (by decide),
          ← List.getD_eq_getElem?_getD] at hstatus
        rw [helperLength, List.drop_take, List.take_take] at hlen
        exact .inr ⟨accepted.1, accepted.2, hmagic, hstatus, hlen, hlength, rfl⟩
  · exact .inl ⟨_, rfl⟩

/-- **A header that is not accepted costs no payload.** -/
theorem readResponse_rejected
    (h : pipe.take 4 ≠ HELPER_MAGIC ∨
      ¬ HelperLength expectedPixels (pipe.getD 4 0) (helperLength pipe)) :
    ∃ error, readResponse reserve expectedPixels pipe = (.error error, none) := by
  rcases readResponse_cases reserve expectedPixels pipe with hnone | ⟨_, _, hmagic, rfl, rfl, hl, -⟩
  · exact hnone
  · rcases h with h | h
    · exact absurd hmagic h
    · exact absurd hl h

/-- A message in UTF-8 is the error. -/
theorem decodeHelperPayload_message (message : String) :
    decodeHelperPayload 1 (encode message) = .error message := by
  rw [decodeHelperPayload, if_neg (by decide), decode_encode]

/-- A payload that is read whole. -/
theorem readPayload_of (hreserve : reserve payload.length = .ok ()) (rest : List UInt8) :
    readPayload reserve status payload.length (payload ++ rest) =
      decodeHelperPayload status payload := by
  have hle : payload.length ≤ (payload ++ rest).length := by
    rw [List.length_append]
    exact Nat.le_add_right _ _
  rw [readPayload, hreserve]
  dsimp only
  rw [if_pos hle, List.take_left]

/-- Pixels are read only as a whole payload of status 0. -/
theorem pixels_of_readPayload {pixels : List UInt8}
    (h : readPayload reserve status length pipe = .ok pixels) :
    status = 0 ∧ pixels = pipe.take length ∧ pixels.length = length := by
  rw [readPayload] at h
  split at h
  · cases h
  · split at h
    · next hle =>
        rw [decodeHelperPayload] at h
        split at h
        · next hzero =>
            cases h
            exact ⟨hzero, rfl, List.length_take_of_le hle⟩
        · split at h
          · cases h
          · cases h
    · cases h

end Pipe

/-! ### The round trip -/

section RoundTrip

variable {width height : UInt16}

/-- A response of the helper, as the parent should read it. -/
inductive PipeResult : Except String Gray8Frame → Except String (List UInt8) → Prop where
  | pixels (frame : Gray8Frame) : PipeResult (.ok frame) (.ok frame.pixels)
  | message (error cut : String) (h : LongestPrefix HELPER_ERROR_LIMIT error cut) :
      PipeResult (.error error) (.error cut)

/-- Responses for a size. -/
def Sized (width height : UInt16) : Except String Gray8Frame → Prop
  | .ok frame => frame.width = width ∧ frame.height = height
  | .error _ => True

theorem pixels_length (frame : Gray8Frame) :
    frame.pixels.length = frame.width.toNat * frame.height.toNat := by
  rw [frame.valid.length_eq, frame.valid.stride_eq]
  rfl

theorem pixelCount_lt (width height : UInt16) : width.toNat * height.toNat < 2 ^ 32 :=
  stride_mul_lt (Nat.le_of_lt_succ width.toNat_lt) height

theorem helperLength_helperPayload {response : Except String Gray8Frame}
    (h : Sized width height response) :
    HelperLength (width.toNat * height.toNat) (helperPayload response).1
      (helperPayload response).2.length := by
  cases response with
  | ok frame =>
      obtain ⟨rfl, rfl⟩ := h
      exact .inl ⟨rfl, pixels_length frame⟩
  | error error => exact .inr ⟨rfl, (pushFitting_longest error).fits⟩

/-- What is decoded of the payload that is written. -/
theorem pipeResult_helperPayload (response : Except String Gray8Frame) :
    PipeResult response
      (decodeHelperPayload (helperPayload response).1 (helperPayload response).2) := by
  cases response with
  | ok frame => exact .pixels frame
  | error error =>
      have hdecode : decodeHelperPayload (helperPayload (.error error)).1
          (helperPayload (.error error)).2 = .error (pushFitting "" error.toList) :=
        decodeHelperPayload_message _
      rw [hdecode]
      exact .message error _ (pushFitting_longest error)

/-- The pipe for frames of a size: what is written is read back, and what is accepted at all. -/
structure PipeExact [Platform] (width height : UInt16) : Prop where
  expected : checkedMul width.toNat height.toNat = some (width.toNat * height.toNat)
  delivered : ∀ response, Sized width height response → ∀ rest,
    ∃ status length read, PipeResult response read ∧
      decodeHelperHeader ((helperBytes response).take HELPER_HEADER_LEN)
        (width.toNat * height.toNat) = .ok (status, length) ∧
      decodeHelperPayload status ((helperBytes response).drop HELPER_HEADER_LEN) = read ∧
      readResponse (fun _ => .ok ()) (width.toNat * height.toNat) (helperBytes response ++ rest) =
        (read, some length)
  rebuilt : ∀ frame : Gray8Frame, frame.width = width → frame.height = height →
    Gray8Frame.new width height frame.pixels = .ok frame
  accepted : ∀ header status length,
    decodeHelperHeader header (width.toNat * height.toNat) = .ok (status, length) ↔
      header.take 4 = HELPER_MAGIC ∧ header.getD 4 0 = status ∧ helperLength header = length ∧
        (status = 0 ∧ length = width.toNat * height.toNat ∨
          status = 1 ∧ length ≤ HELPER_ERROR_LIMIT)
  pixels : ∀ reserve pipe pixels reserved,
    readResponse reserve (width.toNat * height.toNat) pipe = (.ok pixels, reserved) →
      pipe.getD 4 0 = 0 ∧ pixels.length = width.toNat * height.toNat
  rejected : ∀ reserve pipe, pipe.take 4 ≠ HELPER_MAGIC ∨
      ¬ HelperLength (width.toNat * height.toNat) (pipe.getD 4 0) (helperLength pipe) →
    ∃ error, readResponse reserve (width.toNat * height.toNat) pipe = (.error error, none)

/-- **The pipe is exact**, for frames of every size. -/
theorem pipe_exact [Platform] (width height : UInt16) : PipeExact width height where
  expected := checkedMul_of_lt (pixelCount_lt width height)
  delivered response h rest := by
    have hlength := helperLength_helperPayload h
    have hlt : (helperPayload response).2.length < 2 ^ 32 := by
      rcases hlength with ⟨-, hlength⟩ | ⟨-, hlength⟩
      · rw [hlength]
        exact pixelCount_lt width height
      · exact lt_of_le_of_lt hlength (by decide)
    have hheader : (HELPER_MAGIC ++ [(helperPayload response).1] ++
        (u32Saturating (helperPayload response).2.length).toBeBytes).length =
          HELPER_HEADER_LEN := by
      rw [List.length_append, UInt32.toBeBytes_length]
      rfl
    refine ⟨(helperPayload response).1, (helperPayload response).2.length, _,
      pipeResult_helperPayload response, ?_, ?_, ?_⟩
    · rw [helperBytes, List.take_left' hheader]
      exact decodeHelperHeader_written hlt hlength
    · rw [helperBytes, List.drop_left' hheader]
    · rw [helperBytes, List.append_assoc, readResponse_written hlt hlength, readPayload_of rfl]
  rebuilt frame hw hh := by
    exact Gray8Frame.new_eq_ok.mpr ⟨hw, hh, rfl⟩
  accepted _ _ _ := decodeHelperHeader_eq_ok
  pixels reserve pipe pixels reserved h := by
    rcases readResponse_cases reserve (width.toNat * height.toNat) pipe with
      ⟨_, hnone⟩ | ⟨status, length, -, hstatus, -, hlength, hread⟩
    · rw [hnone] at h
      cases h
    · rw [hread] at h
      obtain ⟨rfl, -, hpixels⟩ := pixels_of_readPayload (congrArg Prod.fst h)
      refine ⟨hstatus, ?_⟩
      rcases hlength with ⟨-, hlength⟩ | ⟨hone, -⟩
      · exact hpixels.trans hlength
      · exact absurd hone (by decide)
  rejected _ _ h := readResponse_rejected h

end RoundTrip

end PaperPad.Host
