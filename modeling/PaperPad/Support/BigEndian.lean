import Mathlib.Tactic.Ring
import Mathlib.Tactic.Linarith

/-!
# Support — BigEndian

Unsigned numerals of a fixed number of bytes, most significant byte first.  `natToBe n v` is
the `n`-byte numeral of `v` modulo `256ⁿ`, and `beToNat` its value; between `n`-byte strings
and the numbers below `256ⁿ` they are inverse to each other.
-/

/-- The `n` low bytes of `v`, most significant first. -/
def natToBe : Nat → Nat → List UInt8
  | 0, _ => []
  | n + 1, v => UInt8.ofNat (v / 256 ^ n) :: natToBe n v

/-- The value of a byte string read as a base-256 numeral. -/
def beToNat : List UInt8 → Nat
  | [] => 0
  | b :: bs => b.toNat * 256 ^ bs.length + beToNat bs

@[simp] theorem natToBe_length (n v : Nat) : (natToBe n v).length = n := by
  induction n with
  | zero => rfl
  | succ n ih => simp [natToBe, ih]

theorem beToNat_lt (bs : List UInt8) : beToNat bs < 256 ^ bs.length := by
  induction bs with
  | nil => simp [beToNat]
  | cons b bs ih =>
      have hb : b.toNat ≤ 255 := by have := b.toNat_lt; omega
      have hm : b.toNat * 256 ^ bs.length ≤ 255 * 256 ^ bs.length := Nat.mul_le_mul_right _ hb
      simp only [beToNat, List.length_cons, Nat.pow_succ]
      omega

theorem beToNat_natToBe (n v : Nat) : beToNat (natToBe n v) = v % 256 ^ n := by
  induction n with
  | zero => simp [natToBe, beToNat, Nat.mod_one]
  | succ n ih =>
      have hb : (UInt8.ofNat (v / 256 ^ n)).toNat = v / 256 ^ n % 256 := by simp
      rw [natToBe, beToNat, natToBe_length, ih, hb, Nat.pow_succ, Nat.mod_mul]
      ring

theorem beToNat_natToBe_of_lt {n v : Nat} (h : v < 256 ^ n) : beToNat (natToBe n v) = v := by
  rw [beToNat_natToBe, Nat.mod_eq_of_lt h]

/-- The low `n` bytes of a number do not see what is above them. -/
theorem natToBe_add_mul (n v k : Nat) : natToBe n (k * 256 ^ n + v) = natToBe n v := by
  induction n generalizing k with
  | zero => rfl
  | succ n ih =>
      have hk : k * 256 ^ (n + 1) + v = (k * 256) * 256 ^ n + v := by ring
      have hd : (k * 256 * 256 ^ n + v) / 256 ^ n = k * 256 + v / 256 ^ n := by
        rw [Nat.add_comm, Nat.add_mul_div_right _ _ (by positivity), Nat.add_comm]
      simp only [natToBe]
      rw [hk, ih, hd]
      congr 1
      apply UInt8.toNat_inj.mp
      simp only [UInt8.toNat_ofNat']
      omega

theorem natToBe_beToNat (bs : List UInt8) : natToBe bs.length (beToNat bs) = bs := by
  induction bs with
  | nil => rfl
  | cons b bs ih =>
      simp only [List.length_cons, natToBe, beToNat]
      rw [natToBe_add_mul, ih, Nat.add_comm, Nat.add_mul_div_right _ _ (by positivity),
        Nat.div_eq_of_lt (beToNat_lt bs), Nat.zero_add]
      simp

/-! ### The fixed widths -/

/-- Two bytes, the high one first. -/
def UInt16.toBeBytes (x : UInt16) : List UInt8 := natToBe 2 x.toNat

/-- The number of two bytes. -/
def UInt16.fromBeBytes (bs : List UInt8) : UInt16 := UInt16.ofNat (beToNat bs)

/-- Four bytes. -/
def UInt32.toBeBytes (x : UInt32) : List UInt8 := natToBe 4 x.toNat

/-- The number of four bytes. -/
def UInt32.fromBeBytes (bs : List UInt8) : UInt32 := UInt32.ofNat (beToNat bs)

/-- Eight bytes. -/
def UInt64.toBeBytes (x : UInt64) : List UInt8 := natToBe 8 x.toNat

/-- The number of eight bytes. -/
def UInt64.fromBeBytes (bs : List UInt8) : UInt64 := UInt64.ofNat (beToNat bs)

@[simp] theorem UInt16.toBeBytes_length (x : UInt16) : x.toBeBytes.length = 2 :=
  natToBe_length 2 _

@[simp] theorem UInt32.toBeBytes_length (x : UInt32) : x.toBeBytes.length = 4 :=
  natToBe_length 4 _

@[simp] theorem UInt64.toBeBytes_length (x : UInt64) : x.toBeBytes.length = 8 :=
  natToBe_length 8 _

@[simp] theorem UInt16.fromBeBytes_toBeBytes (x : UInt16) : fromBeBytes x.toBeBytes = x := by
  have hx : x.toNat < 256 ^ 2 := x.toNat_lt
  simp [fromBeBytes, toBeBytes, beToNat_natToBe_of_lt hx]

@[simp] theorem UInt32.fromBeBytes_toBeBytes (x : UInt32) : fromBeBytes x.toBeBytes = x := by
  have hx : x.toNat < 256 ^ 4 := x.toNat_lt
  simp [fromBeBytes, toBeBytes, beToNat_natToBe_of_lt hx]

@[simp] theorem UInt64.fromBeBytes_toBeBytes (x : UInt64) : fromBeBytes x.toBeBytes = x := by
  have hx : x.toNat < 256 ^ 8 := x.toNat_lt
  simp [fromBeBytes, toBeBytes, beToNat_natToBe_of_lt hx]

theorem UInt16.toBeBytes_fromBeBytes {bs : List UInt8} (h : bs.length = 2) :
    (fromBeBytes bs).toBeBytes = bs := by
  have hlt : beToNat bs < 2 ^ 16 := by simpa [h] using beToNat_lt bs
  have hn : (UInt16.ofNat (beToNat bs)).toNat = beToNat bs := UInt16.toNat_ofNat_of_lt' hlt
  rw [toBeBytes, fromBeBytes, hn, ← h, natToBe_beToNat]

theorem UInt32.toBeBytes_fromBeBytes {bs : List UInt8} (h : bs.length = 4) :
    (fromBeBytes bs).toBeBytes = bs := by
  have hlt : beToNat bs < 2 ^ 32 := by simpa [h] using beToNat_lt bs
  have hn : (UInt32.ofNat (beToNat bs)).toNat = beToNat bs := UInt32.toNat_ofNat_of_lt' hlt
  rw [toBeBytes, fromBeBytes, hn, ← h, natToBe_beToNat]

theorem UInt64.toBeBytes_fromBeBytes {bs : List UInt8} (h : bs.length = 8) :
    (fromBeBytes bs).toBeBytes = bs := by
  have hlt : beToNat bs < 2 ^ 64 := by simpa [h] using beToNat_lt bs
  have hn : (UInt64.ofNat (beToNat bs)).toNat = beToNat bs := UInt64.toNat_ofNat_of_lt' hlt
  rw [toBeBytes, fromBeBytes, hn, ← h, natToBe_beToNat]
