import PaperPad.X11.Bitmap
import Mathlib.Data.Nat.Bitwise

/-!
# X11 — Upload

What a server makes of the chunks.  `readPixel` is the XYBitmap rule of the X11 protocol: pixel
`x` of a row is bit `x` modulo the unit, in the bit order of the setup, of unit `x` div the unit,
whose bytes are in the byte order of the setup.

* `readPixel_encodeRow`: a row read back is the row that was encoded, and zeros behind it.
* `upload_exact`: the chunks cover the rows in order, each fits a request, and read back they are
  the frame; a valid frame is rejected exactly when not one row fits.
-/

namespace PaperPad.X11

open Protocol Raster

/-! ### The server's reading -/

/-- The bytes of one row, padded. -/
def BitmapFormat.scanlineBytes (f : BitmapFormat) (width : Nat) : Nat :=
  (width + f.scanlinePadBits - 1) / f.scanlinePadBits * (f.scanlinePadBits / 8)

/-- A bit of a scanline unit, least significant first, of its bytes. -/
def BitmapFormat.readUnitBit (f : BitmapFormat) (unit : List UInt8) (bit : Nat) : Bool :=
  let significance := bit / 8
  let index :=
    if f.imageByteOrder = .LSB_FIRST then significance else unit.length - 1 - significance
  (unit.getD index 0).toNat.testBit (bit % 8)

/-- Pixel `x` of a row. -/
def BitmapFormat.readPixel (f : BitmapFormat) (row : List UInt8) (x : Nat) : Bool :=
  let unitBytes := f.scanlineUnitBits / 8
  let unit := (row.drop (x / f.scanlineUnitBits * unitBytes)).take unitBytes
  let offset := x % f.scanlineUnitBits
  f.readUnitBit unit
    (if f.bitmapBitOrder = .LSB_FIRST then offset else f.scanlineUnitBits - 1 - offset)

/-- Row `y` of the image, in the chunk that holds it. -/
def Chunk.row (c : Chunk) (scanline y : Nat) : List UInt8 :=
  (c.data.drop ((y - c.yOffset.toNat) * scanline)).take scanline

/-- Row `y` of the image is in this chunk. -/
def Chunk.Holds (c : Chunk) (y : Nat) : Prop :=
  c.yOffset.toNat ≤ y ∧ y < c.yOffset.toNat + c.rows.toNat

/-- The chunks are requests of at most `maximum` bytes that upload this frame. -/
structure Uploads (format : BitmapFormat) (maximum : Nat) (frame : Mono1Frame)
    (chunks : List Chunk) : Prop where
  covers : chunks.flatMap (fun c => List.range' c.yOffset.toNat c.rows.toNat) =
    List.range frame.height.toNat
  nonempty : ∀ c ∈ chunks, 0 < c.rows.toNat ∧ c.data ≠ []
  whole : ∀ c ∈ chunks,
    c.data.length = c.rows.toNat * format.scanlineBytes frame.width.toNat
  fits : ∀ c ∈ chunks,
    PUT_IMAGE_REQUEST_HEADER_BYTES + (c.data.length + 3) / 4 * 4 ≤ maximum
  pixel : ∀ c ∈ chunks, ∀ x y : UInt16, c.Holds y.toNat → x < frame.width →
    frame.pixel x y = some
      (if format.readPixel (c.row (format.scanlineBytes frame.width.toNat) y.toNat) x.toNat then
        .black else .white)
  padding : ∀ c ∈ chunks, ∀ x y, c.Holds y → frame.width.toNat ≤ x →
    x < 8 * format.scanlineBytes frame.width.toNat →
    format.readPixel (c.row (format.scanlineBytes frame.width.toNat) y) x = false

/-! ### Units -/

/-- Pixel `x` of a wire row is black. -/
def SourceBlack (sourceRow : List UInt8) (x : Nat) : Prop :=
  sourceRow.getD (x / 8) 0 &&& ((0x80 : UInt8) >>> UInt8.ofNat (x % 8)) ≠ 0

instance (sourceRow : List UInt8) (x : Nat) : Decidable (SourceBlack sourceRow x) :=
  inferInstanceAs (Decidable (_ ≠ _))

theorem testBit_set {e : UInt32} {d : Nat} (hd : d < 32) (b : Nat) :
    (e ||| ((1 : UInt32) <<< UInt32.ofNat d)).toNat.testBit b =
      (e.toNat.testBit b || decide (d = b)) := by
  have hshift : ((1 : UInt32) <<< UInt32.ofNat d).toNat = 2 ^ d := by
    rw [UInt32.toNat_shiftLeft, UInt32.toNat_ofNat_of_lt' (lt_of_lt_of_le hd (by decide)),
      Nat.mod_eq_of_lt hd]
    rw [UInt32.toNat_one, Nat.one_shiftLeft]
    exact Nat.mod_eq_of_lt (Nat.pow_lt_pow_right (by decide) hd)
  rw [UInt32.toNat_or, Nat.testBit_or, hshift, Nat.testBit_two_pow]

/-- The loop of `encode_unit`: the bits set are those of the pixels it does not skip. -/
theorem testBit_foldl {skip : Nat → Prop} [DecidablePred skip] {dest : Nat → Nat} {k : Nat}
    (hd : ∀ o < k, dest o < 32) (b : Nat) :
    ((List.range k).foldl (fun (e : UInt32) o =>
        if skip o then e else e ||| ((1 : UInt32) <<< UInt32.ofNat (dest o))) 0).toNat.testBit b =
      decide (∃ o < k, dest o = b ∧ ¬ skip o) := by
  induction k with
  | zero => simp
  | succ k ih =>
      have ih := ih fun o ho => hd o (Nat.lt_succ_of_lt ho)
      rw [List.range_succ, List.foldl_append, List.foldl_cons, List.foldl_nil]
      by_cases hs : skip k
      · rw [if_pos hs, ih]
        refine decide_eq_decide.mpr ⟨?_, ?_⟩
        · rintro ⟨o, ho, h⟩
          exact ⟨o, Nat.lt_succ_of_lt ho, h⟩
        · rintro ⟨o, ho, hb, hn⟩
          have hne : o ≠ k := by
            intro e
            exact hn (e ▸ hs)
          exact ⟨o, by omega, hb, hn⟩
      · rw [if_neg hs, testBit_set (hd k (Nat.lt_succ_self k)), ih, ← Bool.decide_or]
        refine decide_eq_decide.mpr ⟨?_, ?_⟩
        · rintro (⟨o, ho, h⟩ | h)
          · exact ⟨o, Nat.lt_succ_of_lt ho, h⟩
          · exact ⟨k, Nat.lt_succ_self k, h, hs⟩
        · rintro ⟨o, ho, hb, hn⟩
          by_cases e : o = k
          · exact .inr (e ▸ hb)
          · exact .inl ⟨o, by omega, hb, hn⟩

/-- The bits of a unit, each at its pixel's place. -/
theorem testBit_encodeUnit {sourceRow : List UInt8} {width firstPixel n : Nat} {o : ImageOrder}
    (hn : n ≤ 32) {offset : Nat} (ho : offset < n) :
    (encodeUnit sourceRow width firstPixel n o).toNat.testBit
        (if o = .LSB_FIRST then offset else n - 1 - offset) =
      decide (firstPixel + offset < width ∧ SourceBlack sourceRow (firstPixel + offset)) := by
  have hd : ∀ k < n, (if o = .LSB_FIRST then k else n - 1 - k) < 32 := by
    intro k hk
    split <;> omega
  rw [encodeUnit, testBit_foldl hd]
  refine decide_eq_decide.mpr ⟨?_, ?_⟩
  · rintro ⟨k, hk, hb, hs⟩
    obtain rfl : k = offset := by split at hb <;> omega
    obtain ⟨hw, hp⟩ := not_or.mp hs
    exact ⟨not_le.mp hw, hp⟩
  · rintro ⟨hw, hp⟩
    exact ⟨offset, ho, rfl, not_or.mpr ⟨not_le.mpr hw, hp⟩⟩

/-- A unit serialized and read back, bit by bit. -/
theorem readUnitBit_writeUnit (f : BitmapFormat) (unit : UInt32) {n bit : Nat} (hn : n ≤ 4)
    (hb : bit < 8 * n) :
    f.readUnitBit (writeUnit unit n f.imageByteOrder) bit = unit.toNat.testBit bit := by
  have hs : bit / 8 < n := by omega
  have hbyte : ∀ {s : Nat}, s = bit / 8 →
      ((unit >>> UInt32.ofNat (s * 8)).toUInt8.toNat).testBit (bit % 8) =
        unit.toNat.testBit bit := by
    rintro s rfl
    have hshift : (UInt32.ofNat (bit / 8 * 8)).toNat % 32 = bit / 8 * 8 := by
      rw [UInt32.toNat_ofNat_of_lt' (lt_of_lt_of_le (by omega : _ < 32) (by decide))]
      exact Nat.mod_eq_of_lt (by omega)
    rw [UInt32.toNat_toUInt8, UInt32.toNat_shiftRight, hshift, Nat.testBit_mod_two_pow,
      Nat.testBit_shiftRight, decide_eq_true (Nat.mod_lt _ (by decide)), Bool.true_and]
    congr 1
    omega
  simp only [BitmapFormat.readUnitBit, writeUnit, List.length_map, List.length_range,
    List.getD_eq_getElem?_getD, List.getElem?_map]
  by_cases ho : f.imageByteOrder = .LSB_FIRST
  · simp only [ho, if_true]
    rw [List.getElem?_range hs]
    exact hbyte rfl
  · simp only [ho, if_false]
    rw [List.getElem?_range (by omega)]
    exact hbyte (by omega)

/-! ### Rows -/

namespace BitmapFormat

variable (f : BitmapFormat)

/-- Units are whole bytes, four at most, and as wide as they are. -/
theorem unit_spec : f.scanlineUnitBits = 8 * (f.scanlineUnitBits / 8) ∧
    0 < f.scanlineUnitBits / 8 ∧ f.scanlineUnitBits / 8 ≤ 4 := by
  obtain ⟨-, -, hu, -, -⟩ := f.supported
  rcases hu with h | h | h <;> rw [h] <;> decide

theorem rowStride_eq (width : UInt16) : f.rowStride width = f.scanlineBytes width.toNat := by
  obtain ⟨-, -, -, hp, -⟩ := f.supported
  rw [rowStride, scanlineBytes]
  rcases hp with h | h | h <;> rw [h] <;> omega

/-- A row is whole units. -/
theorem unit_dvd_scanline (width : Nat) :
    f.scanlineUnitBits / 8 ∣ f.scanlineBytes width := by
  obtain ⟨-, -, hu, hp, hle⟩ := f.supported
  refine dvd_mul_of_dvd_right ?_ _
  rcases hu with h | h | h <;> rcases hp with k | k | k <;> rw [h, k] at hle ⊢ <;>
    first | decide | exact absurd hle (by decide)

theorem le_scanlineBits (width : Nat) : width ≤ 8 * f.scanlineBytes width := by
  obtain ⟨-, -, -, hp, -⟩ := f.supported
  rw [scanlineBytes]
  rcases hp with h | h | h <;> rw [h] <;> omega

theorem scanlineBytes_pos {width : Nat} (h : 0 < width) : 0 < f.scanlineBytes width := by
  have := f.le_scanlineBits width
  omega

end BitmapFormat

section Rows

variable (a : X11BitmapAdapter) (width : UInt16) (sourceRow : List UInt8)

/-- The unit `encode_row` writes at this index. -/
def unitAt (unitIndex : Nat) : List UInt8 :=
  writeUnit (encodeUnit sourceRow width.toNat (unitIndex * a.format.scanlineUnitBits)
    a.format.scanlineUnitBits a.format.bitmapBitOrder) (a.format.scanlineUnitBits / 8)
    a.format.imageByteOrder

theorem unitAt_length (unitIndex : Nat) :
    (unitAt a width sourceRow unitIndex).length = a.format.scanlineUnitBits / 8 := by
  rw [unitAt, writeUnit, List.length_map, List.length_range]

theorem fits_encodeRow : Fits (List.replicate (a.format.rowStride width) (0 : UInt8)) 0
    (a.format.scanlineUnitBits / 8) (a.format.scanlineUnitBits / 8)
    (a.format.rowStride width / (a.format.scanlineUnitBits / 8)) (unitAt a width sourceRow) where
  length_row r _ := unitAt_length a width sourceRow r
  width_le := le_rfl
  inside r hr := by
    have hdvd := a.format.unit_dvd_scanline width.toNat
    have := row_end_le hr (a.format.scanlineUnitBits / 8)
    rw [← a.format.rowStride_eq] at hdvd
    rw [Nat.div_mul_cancel hdvd] at this
    rw [List.length_replicate]
    omega

theorem encodeRow_length :
    (a.encodeRow width sourceRow).length = a.format.scanlineBytes width.toNat := by
  rw [← a.format.rowStride_eq]
  exact (length_writeRows (fits_encodeRow a width sourceRow)).trans List.length_replicate

/-- **A row read back** is the row that was encoded, and zeros behind it. -/
theorem readPixel_encodeRow {x : Nat} (hx : x < 8 * a.format.scanlineBytes width.toNat) :
    a.format.readPixel (a.encodeRow width sourceRow) x =
      decide (x < width.toNat ∧ SourceBlack sourceRow x) := by
  obtain ⟨hbits, hpos, hle⟩ := a.format.unit_spec
  have hoff : x % a.format.scanlineUnitBits < a.format.scanlineUnitBits :=
    Nat.mod_lt _ (by omega)
  have hunit : x / a.format.scanlineUnitBits <
      a.format.rowStride width / (a.format.scanlineUnitBits / 8) := by
    have hdvd := a.format.unit_dvd_scanline width.toNat
    rw [a.format.rowStride_eq]
    refine Nat.div_lt_of_lt_mul (lt_of_lt_of_eq hx ?_)
    calc 8 * a.format.scanlineBytes width.toNat
        = 8 * (a.format.scanlineUnitBits / 8 *
            (a.format.scanlineBytes width.toNat / (a.format.scanlineUnitBits / 8))) := by
          rw [Nat.mul_div_cancel' hdvd]
      _ = 8 * (a.format.scanlineUnitBits / 8) *
            (a.format.scanlineBytes width.toNat / (a.format.scanlineUnitBits / 8)) :=
          (Nat.mul_assoc _ _ _).symm
      _ = a.format.scanlineUnitBits *
            (a.format.scanlineBytes width.toNat / (a.format.scanlineUnitBits / 8)) := by
          rw [← hbits]
  have hread := take_drop_writeRows (fits_encodeRow a width sourceRow) hunit
  rw [Nat.zero_add] at hread
  have hat : x / a.format.scanlineUnitBits * a.format.scanlineUnitBits +
      x % a.format.scanlineUnitBits = x := Nat.div_add_mod' _ _
  have hbit : (if a.format.bitmapBitOrder = .LSB_FIRST then x % a.format.scanlineUnitBits
      else a.format.scanlineUnitBits - 1 - x % a.format.scanlineUnitBits) <
        8 * (a.format.scanlineUnitBits / 8) := by
    rw [← hbits]
    split <;> omega
  rw [BitmapFormat.readPixel,
    show a.encodeRow width sourceRow = writeRows _ 0 _ _ (unitAt a width sourceRow) from rfl, hread,
    unitAt, readUnitBit_writeUnit _ _ hle hbit, testBit_encodeUnit (by omega) hoff, hat]

end Rows

/-! ### Bitmaps -/

theorem scanlineBytes_frame_pos (frame : Mono1Frame) (f : BitmapFormat) :
    0 < f.scanlineBytes frame.width.toNat := by
  refine f.scanlineBytes_pos (Nat.pos_of_ne_zero fun h => ?_)
  exact frame.valid.width_ne (UInt16.toNat_inj.mp h)

section Prepare

variable [Platform] (a : X11BitmapAdapter) (frame : Mono1Frame)

/-- Row `y` of a frame, as it goes over the wire. -/
def sourceRow (y : Nat) : List UInt8 :=
  slice frame.pixels (y * frame.stride) ((y + 1) * frame.stride)

/-- What is prepared of a valid frame. -/
structure PreparesAs (b : PreparedBitmap) : Prop where
  height_eq : b.height = frame.height
  stride_eq : b.stride = a.format.scanlineBytes frame.width.toNat
  rows_eq : b.rowsPerChunk = min (a.maximumDataBytes / b.stride) 65535
  encoded_eq : b.encoded = writeRows (List.replicate (b.stride * frame.height.toNat) 0) 0 b.stride
    frame.height.toNat fun y => a.encodeRow frame.width (sourceRow frame y)

theorem prepare_frame :
    a.prepare frame.width frame.height frame.pixels =
      let stride := a.format.scanlineBytes frame.width.toNat
      if h : 0 < a.maximumDataBytes / stride then
        .ok
          { width := frame.width
            height := frame.height
            stride
            rowsPerChunk := min (a.maximumDataBytes / stride) 65535
            encoded :=
              writeRows (List.replicate (stride * frame.height.toNat) 0) 0 stride
                frame.height.toNat fun y => a.encodeRow frame.width (sourceRow frame y)
            rowsPerChunk_pos := lt_min h (by decide) }
      else .error (.rowTooLong a.maximumDataBytes stride) := by
  rw [X11BitmapAdapter.prepare, validateMono1Pixels_eq_ok.mpr frame.valid]
  simp only [a.format.rowStride_eq]
  rfl

theorem preparesAs_of_prepare {b : PreparedBitmap}
    (h : a.prepare frame.width frame.height frame.pixels = .ok b) : PreparesAs a frame b := by
  rw [prepare_frame] at h
  dsimp only at h
  split at h
  · cases h
    exact ⟨rfl, rfl, rfl, rfl⟩
  · cases h

/-- **A frame is rejected** exactly when not one row fits a request. -/
theorem prepare_error_iff :
    (∃ e, a.prepare frame.width frame.height frame.pixels = .error e) ↔
      a.maximumRequestBytes < PUT_IMAGE_REQUEST_HEADER_BYTES +
        (a.format.scanlineBytes frame.width.toNat + 3) / 4 * 4 := by
  have hpos := scanlineBytes_frame_pos frame a.format
  have hmax := a.holdsHeader
  have hrow : 0 < a.maximumDataBytes / a.format.scanlineBytes frame.width.toNat ↔
      a.format.scanlineBytes frame.width.toNat ≤ a.maximumDataBytes :=
    Nat.div_pos_iff.trans (and_iff_right hpos)
  simp only [X11BitmapAdapter.maximumDataBytes, PUT_IMAGE_REQUEST_HEADER_BYTES] at hrow hmax ⊢
  rw [prepare_frame]
  constructor
  · rintro ⟨e, he⟩
    dsimp only at he
    split at he
    · cases he
    · next h =>
        have := mt hrow.mpr h
        omega
  · intro h
    refine ⟨_, dif_neg fun k => ?_⟩
    have := hrow.mp k
    omega

end Prepare

/-! ### Chunks -/

section Chunks

/-- The first rows of the chunks are rows, and they suffice. -/
theorem firstRows_spec {h k : Nat} (hk : 0 < k) :
    h ≤ (h + k - 1) / k * k ∧ ∀ i < (h + k - 1) / k, i * k < h := by
  have hdiv := Nat.div_add_mod' (h + k - 1) k
  have hmod := Nat.mod_lt (h + k - 1) hk
  refine ⟨by omega, fun i hi => ?_⟩
  have := row_end_le hi k
  omega

/-- The chunk that starts with this row. -/
def chunkAt (b : PreparedBitmap) (firstRow : Nat) : Chunk :=
  let rows := min b.rowsPerChunk (b.height.toNat - firstRow)
  ⟨UInt16.ofNat firstRow, UInt16.ofNat rows,
    slice b.encoded (firstRow * b.stride) (firstRow * b.stride + rows * b.stride)⟩

/-- The first rows of the chunks. -/
def firstRows (b : PreparedBitmap) : List Nat :=
  List.range' 0 ((b.height.toNat + b.rowsPerChunk - 1) / b.rowsPerChunk) b.rowsPerChunk

theorem chunks_eq (b : PreparedBitmap) : b.chunks = (firstRows b).map (chunkAt b) := rfl

theorem lt_of_mem_firstRows {b : PreparedBitmap} {firstRow : Nat} (h : firstRow ∈ firstRows b) :
    firstRow < b.height.toNat := by
  obtain ⟨i, hi, rfl⟩ := List.mem_range'.mp h
  rw [Nat.zero_add, Nat.mul_comm]
  exact (firstRows_spec b.rowsPerChunk_pos).2 i hi

theorem mem_chunks {b : PreparedBitmap} {c : Chunk} (h : c ∈ b.chunks) :
    ∃ firstRow, firstRow < b.height.toNat ∧ c = chunkAt b firstRow := by
  rw [chunks_eq] at h
  obtain ⟨firstRow, hf, rfl⟩ := List.mem_map.mp h
  exact ⟨firstRow, lt_of_mem_firstRows hf, rfl⟩

variable {b : PreparedBitmap} {firstRow : Nat}

theorem chunkAt_yOffset (h : firstRow < b.height.toNat) :
    (chunkAt b firstRow).yOffset.toNat = firstRow :=
  UInt16.toNat_ofNat_of_lt' (h.trans b.height.toNat_lt)

theorem chunkAt_rows :
    (chunkAt b firstRow).rows.toNat = min b.rowsPerChunk (b.height.toNat - firstRow) := by
  refine UInt16.toNat_ofNat_of_lt' (lt_of_le_of_lt (min_le_right _ _) ?_)
  exact lt_of_le_of_lt (Nat.sub_le _ _) b.height.toNat_lt

/-- The rows of a chunk are rows of the bitmap. -/
theorem chunkAt_rows_le (h : firstRow < b.height.toNat) :
    firstRow + (chunkAt b firstRow).rows.toNat ≤ b.height.toNat := by
  rw [chunkAt_rows]
  omega

theorem chunkAt_length (hlen : b.encoded.length = b.height.toNat * b.stride)
    (h : firstRow < b.height.toNat) :
    (chunkAt b firstRow).data.length = (chunkAt b firstRow).rows.toNat * b.stride := by
  have hend := Nat.mul_le_mul_right b.stride (chunkAt_rows_le h)
  rw [Nat.add_mul, chunkAt_rows, ← hlen] at hend
  rw [chunkAt_rows]
  simp only [chunkAt]
  rw [length_slice hend, Nat.add_sub_cancel_left]

/-- A row of a chunk is the row of the bitmap. -/
theorem chunkAt_row (h : firstRow < b.height.toNat) {y : Nat}
    (hy : (chunkAt b firstRow).Holds y) :
    (chunkAt b firstRow).row b.stride y = (b.encoded.drop (y * b.stride)).take b.stride := by
  obtain ⟨hlo, hhi⟩ := hy
  rw [chunkAt_yOffset h] at hlo hhi
  rw [chunkAt_rows] at hhi
  obtain ⟨d, rfl⟩ := Nat.exists_eq_add_of_le hlo
  have hd : d < min b.rowsPerChunk (b.height.toNat - firstRow) := by omega
  have hend := row_end_le hd b.stride
  have hsplit := Nat.add_mul firstRow (min b.rowsPerChunk (b.height.toNat - firstRow)) b.stride
  rw [Chunk.row, chunkAt_yOffset h, Nat.add_sub_cancel_left]
  simp only [chunkAt, slice, List.drop_take, List.take_take, List.drop_drop, ← Nat.add_mul]
  rw [min_eq_left (by omega)]

/-- **The chunks partition the rows.** -/
theorem chunks_cover (b : PreparedBitmap) :
    b.chunks.flatMap (fun c => List.range' c.yOffset.toNat c.rows.toNat) =
      List.range b.height.toNat := by
  have hn : b.height.toNat ≤
      0 + (b.height.toNat + b.rowsPerChunk - 1) / b.rowsPerChunk * b.rowsPerChunk := by
    rw [Nat.zero_add]
    exact (firstRows_spec b.rowsPerChunk_pos).1
  have hcover := range'_chunks _ 0 hn
  rw [Nat.sub_zero, ← List.range_eq_range'] at hcover
  rw [← hcover, chunks_eq, List.flatMap_map]
  refine List.flatMap_congr fun firstRow hf => ?_
  rw [chunkAt_yOffset (lt_of_mem_firstRows hf), chunkAt_rows]

end Chunks

/-! ### The upload -/

section Upload

variable {a : X11BitmapAdapter} {frame : Mono1Frame} {b : PreparedBitmap}

theorem PreparesAs.fits (h : PreparesAs a frame b) :
    Fits (List.replicate (b.stride * frame.height.toNat) (0 : UInt8)) 0 b.stride b.stride
      frame.height.toNat fun y => a.encodeRow frame.width (sourceRow frame y) where
  length_row r _ := by rw [encodeRow_length, h.stride_eq]
  width_le := le_rfl
  inside r hr := by
    have := row_end_le hr b.stride
    rw [List.length_replicate, Nat.mul_comm b.stride]
    omega

theorem PreparesAs.length (h : PreparesAs a frame b) :
    b.encoded.length = b.height.toNat * b.stride := by
  rw [h.encoded_eq, length_writeRows h.fits, List.length_replicate, h.height_eq, Nat.mul_comm]

/-- Row `y` of the bitmap is row `y` of the frame, encoded. -/
theorem PreparesAs.row (h : PreparesAs a frame b) {y : Nat} (hy : y < frame.height.toNat) :
    (b.encoded.drop (y * b.stride)).take b.stride =
      a.encodeRow frame.width (sourceRow frame y) := by
  have := take_drop_writeRows h.fits hy
  rwa [Nat.zero_add, ← h.encoded_eq] at this

/-- A pixel of the frame is a bit of its wire row. -/
theorem pixel_eq_sourceBlack {x y : UInt16} (hx : x < frame.width) (hy : y < frame.height) :
    frame.pixel x y =
      some (if SourceBlack (sourceRow frame y.toNat) x.toNat then .black else .white) := by
  have hstride : x.toNat / 8 < frame.stride := by
    have hx' : x.toNat < frame.width.toNat := hx
    rw [frame.valid.stride_eq, mono1Stride]
    omega
  have hget : (sourceRow frame y.toNat).getD (x.toNat / 8) 0 =
      frame.pixels.getD (y.toNat * frame.stride + x.toNat / 8) 0 := by
    rw [sourceRow, List.getD_eq_getElem?_getD, getElem?_slice (by rw [Nat.succ_mul]; omega),
      ← List.getD_eq_getElem?_getD]
  rw [Mono1Frame.pixel, if_neg (not_or.mpr ⟨UInt16.not_le.mpr hx, UInt16.not_le.mpr hy⟩)]
  dsimp only
  rw [← hget]
  by_cases hb : SourceBlack (sourceRow frame y.toNat) x.toNat
  · rw [if_neg hb, if_pos hb]
  · rw [if_pos (not_not.mp hb), if_neg hb]

/-- **A prepared bitmap uploads its frame.** -/
theorem PreparesAs.uploads (h : PreparesAs a frame b) :
    Uploads a.format a.maximumRequestBytes frame b.chunks := by
  have hread : ∀ c ∈ b.chunks, ∀ y, c.Holds y → y < frame.height.toNat ∧
      c.row (a.format.scanlineBytes frame.width.toNat) y =
        a.encodeRow frame.width (sourceRow frame y) := by
    intro c hc y hy
    obtain ⟨firstRow, hf, rfl⟩ := mem_chunks hc
    have hle := chunkAt_rows_le hf
    have hlt : y < frame.height.toNat := by
      have hhi := hy.2
      rw [chunkAt_yOffset hf] at hhi
      rw [← h.height_eq]
      omega
    exact ⟨hlt, by rw [← h.stride_eq, chunkAt_row hf hy, h.row hlt]⟩
  have hlen : ∀ c ∈ b.chunks, c.data.length = c.rows.toNat * b.stride := by
    intro c hc
    obtain ⟨firstRow, hf, rfl⟩ := mem_chunks hc
    exact chunkAt_length h.length hf
  have hrows : ∀ c ∈ b.chunks, 0 < c.rows.toNat ∧ c.rows.toNat ≤ b.rowsPerChunk := by
    intro c hc
    obtain ⟨firstRow, hf, rfl⟩ := mem_chunks hc
    have hpos := b.rowsPerChunk_pos
    rw [chunkAt_rows]
    exact ⟨lt_min hpos (by omega), min_le_left _ _⟩
  have hstride : 0 < b.stride := h.stride_eq ▸ scanlineBytes_frame_pos frame a.format
  refine ⟨h.height_eq ▸ chunks_cover b, ?_, h.stride_eq ▸ hlen, ?_, ?_, ?_⟩
  · intro c hc
    refine ⟨(hrows c hc).1, fun hnil => ?_⟩
    have hpos := Nat.mul_pos (hrows c hc).1 hstride
    rw [← hlen c hc, hnil] at hpos
    exact absurd hpos (Nat.lt_irrefl 0)
  · intro c hc
    have hle : c.data.length ≤ a.maximumDataBytes := by
      calc c.data.length = c.rows.toNat * b.stride := hlen c hc
        _ ≤ a.maximumDataBytes / b.stride * b.stride := by
          refine Nat.mul_le_mul_right _ ((hrows c hc).2.trans ?_)
          rw [h.rows_eq]
          exact min_le_left _ _
        _ ≤ a.maximumDataBytes := Nat.div_mul_le_self _ _
    have hmax := a.holdsHeader
    simp only [X11BitmapAdapter.maximumDataBytes, PUT_IMAGE_REQUEST_HEADER_BYTES] at hle hmax ⊢
    omega
  · intro c hc x y hy hx
    obtain ⟨hlt, hrow⟩ := hread c hc y.toNat hy
    have hx' : x.toNat < frame.width.toNat := hx
    have hbits := a.format.le_scanlineBits frame.width.toNat
    rw [pixel_eq_sourceBlack hx hlt, hrow, readPixel_encodeRow _ _ _ (by omega)]
    simp only [decide_eq_true_eq, hx', true_and]
  · intro c hc x y hy hx hbits
    obtain ⟨-, hrow⟩ := hread c hc y hy
    rw [hrow, readPixel_encodeRow _ _ _ hbits]
    exact decide_eq_false fun k => absurd k.1 (not_lt.mpr hx)

end Upload

/-- The constructor accepts every supported setup, with room for a header. -/
theorem X11BitmapAdapter.new_eq_ok {imageByteOrder bitmapBitOrder : ImageOrder}
    {scanlineUnitBits scanlinePadBits : UInt8} {maximum : Nat}
    (hs : Supported imageByteOrder bitmapBitOrder scanlineUnitBits.toNat scanlinePadBits.toNat)
    (hmax : PUT_IMAGE_REQUEST_HEADER_BYTES < maximum) :
    X11BitmapAdapter.new imageByteOrder bitmapBitOrder scanlineUnitBits scanlinePadBits maximum =
      .ok ⟨⟨imageByteOrder, bitmapBitOrder, scanlineUnitBits.toNat, scanlinePadBits.toNat, hs⟩,
        maximum, hmax⟩ := by
  rw [X11BitmapAdapter.new, BitmapFormat.new, dif_pos hs.byteOrder, dif_pos hs.bitOrder,
    dif_pos hs.unit, dif_pos hs.pad, dif_pos hs.unit_le_pad]
  exact dif_pos hmax

/-- **The upload is exact.**  Of every supported setup, request limit and valid frame: what is
prepared is chunks that cover the rows, fit their requests and read back as the frame; and only a
frame of which no row fits is not prepared. -/
theorem upload_exact [Platform] (imageByteOrder bitmapBitOrder : ImageOrder)
    (scanlineUnitBits scanlinePadBits : UInt8) (maximum : Nat)
    (hs : Supported imageByteOrder bitmapBitOrder scanlineUnitBits.toNat scanlinePadBits.toNat)
    (hmax : PUT_IMAGE_REQUEST_HEADER_BYTES < maximum) (frame : Mono1Frame) :
    ∃ adapter,
      X11BitmapAdapter.new imageByteOrder bitmapBitOrder scanlineUnitBits scanlinePadBits
        maximum = .ok adapter ∧
      adapter.format =
        ⟨imageByteOrder, bitmapBitOrder, scanlineUnitBits.toNat, scanlinePadBits.toNat, hs⟩ ∧
      (∀ bitmap, adapter.prepare frame.width frame.height frame.pixels = .ok bitmap →
        Uploads adapter.format maximum frame bitmap.chunks) ∧
      ((∃ e, adapter.prepare frame.width frame.height frame.pixels = .error e) ↔
        maximum < PUT_IMAGE_REQUEST_HEADER_BYTES +
          (adapter.format.scanlineBytes frame.width.toNat + 3) / 4 * 4) :=
  ⟨_, X11BitmapAdapter.new_eq_ok hs hmax, rfl,
    fun _ h => (preparesAs_of_prepare _ frame h).uploads, prepare_error_iff _ frame⟩

/-- Units of sixteen bits, padded to thirty-two, with unlike orders. -/
theorem supported_mixed : Supported .LSB_FIRST .MSB_FIRST (16 : UInt8).toNat (32 : UInt8).toNat :=
  ⟨.inl rfl, .inr rfl, .inr (.inl rfl), .inr (.inr rfl), by decide⟩

/-- Nine by two pixels. -/
def nineByTwo : Mono1Frame :=
  ⟨9, 2, 2, [0xaa, 0x80, 0x55, 0x00],
    (@validateMono1Pixels_eq_ok .usize64 _ _ _ _).mp (by decide)⟩

theorem upload_exact_mixed :
    ∃ adapter, X11BitmapAdapter.new .LSB_FIRST .MSB_FIRST 16 32 29 = .ok adapter ∧
      adapter.format = ⟨.LSB_FIRST, .MSB_FIRST, (16 : UInt8).toNat, (32 : UInt8).toNat,
        supported_mixed⟩ ∧
      (∀ bitmap, @X11BitmapAdapter.prepare .usize64 adapter 9 2 nineByTwo.pixels = .ok bitmap →
        Uploads adapter.format 29 nineByTwo bitmap.chunks) ∧
      ((∃ e, @X11BitmapAdapter.prepare .usize64 adapter 9 2 nineByTwo.pixels = .error e) ↔
        29 < PUT_IMAGE_REQUEST_HEADER_BYTES + (adapter.format.scanlineBytes 9 + 3) / 4 * 4) :=
  @upload_exact .usize64 .LSB_FIRST .MSB_FIRST 16 32 29 supported_mixed (by decide) nineByTwo

end PaperPad.X11
