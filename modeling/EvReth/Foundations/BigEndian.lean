import Mathlib.Data.List.Basic
import Mathlib.Data.Nat.Log
import Mathlib.Data.UInt

/-!
# Numbers as bytes

Natural numbers as byte strings, most significant byte first: in a fixed width, and with the leading
zeros trimmed. `value` reads either form back.
-/

namespace BigEndian

/-- The `k` low bytes of `n`. -/
def fixed : ℕ → ℕ → List UInt8
  | 0, _ => []
  -- the last byte is the least significant one
  | k + 1, n => fixed k (n / 256) ++ [UInt8.ofNat (n % 256)]

/-- The number that a byte string denotes. -/
def value (bs : List UInt8) : ℕ := bs.foldl (fun acc b => acc * 256 + b.toNat) 0

/-- The byte string without its leading zeros. -/
def trim (bs : List UInt8) : List UInt8 := bs.dropWhile (· == 0)

/-- A number below `256 ^ k` in as few bytes as it needs. -/
def minimal (k n : ℕ) : List UInt8 := trim (fixed k n)

@[simp] theorem length_fixed (k n : ℕ) : (fixed k n).length = k := by
  induction k generalizing n with
  | zero => rfl
  | succ k ih => simp [fixed, ih]

theorem value_append_singleton (bs : List UInt8) (b : UInt8) :
    value (bs ++ [b]) = value bs * 256 + b.toNat := by
  simp [value]

/-- A number that fits is the value of its bytes. -/
theorem value_fixed {k n : ℕ} (h : n < 256 ^ k) : value (fixed k n) = n := by
  induction k generalizing n with
  | zero =>
    rw [pow_zero, Nat.lt_one_iff] at h
    subst h
    rfl
  | succ k ih =>
    -- all bytes but the last denote `n / 256`
    have hdiv : n / 256 < 256 ^ k := Nat.div_lt_of_lt_mul (by rwa [pow_succ'] at h)
    have hbyte : (UInt8.ofNat (n % 256)).toNat = n % 256 := by
      rw [UInt8.toNat_ofNat']
      omega
    rw [fixed, value_append_singleton, ih hdiv, hbyte]
    omega

@[simp] theorem value_zero_cons (bs : List UInt8) : value (0 :: bs) = value bs := by
  simp [value]

/-- Leading zeros do not count. -/
@[simp] theorem value_trim (bs : List UInt8) : value (trim bs) = value bs := by
  induction bs with
  | nil => rfl
  | cons b bs ih =>
    by_cases hb : b = 0
    · subst hb
      rw [value_zero_cons, ← ih]
      rfl
    · simp [trim, hb]

theorem length_trim_le (bs : List UInt8) : (trim bs).length ≤ bs.length :=
  (List.dropWhile_suffix _).length_le

theorem head?_trim_ne_zero (bs : List UInt8) : (trim bs).head? ≠ some 0 := by
  intro h
  -- `dropWhile` stops at a byte that fails the test
  have hnot := List.head?_dropWhile_not (· == 0) bs
  rw [trim] at h
  rw [h] at hnot
  simp at hnot

/-- A number that fits is the value of its minimal bytes. -/
theorem value_minimal {k n : ℕ} (h : n < 256 ^ k) : value (minimal k n) = n := by
  rw [minimal, value_trim, value_fixed h]

theorem length_minimal_le (k n : ℕ) : (minimal k n).length ≤ k :=
  (length_trim_le _).trans (length_fixed k n).le

theorem head?_minimal_ne_zero (k n : ℕ) : (minimal k n).head? ≠ some 0 := head?_trim_ne_zero _

/-- A number that is not zero needs at least one byte. -/
theorem minimal_ne_nil {k n : ℕ} (hpos : n ≠ 0) (h : n < 256 ^ k) : minimal k n ≠ [] := by
  intro hnil
  have hvalue := value_minimal h
  rw [hnil] at hvalue
  exact hpos hvalue.symm

/-! ## From bytes to numbers and back -/

/-- Bytes have a value that fits into them. -/
theorem value_lt (bs : List UInt8) : value bs < 256 ^ bs.length := by
  induction bs using List.reverseRecOn with
  | nil => simp [value]
  | append_singleton bs b ih =>
    have hb := b.toNat_lt
    rw [value_append_singleton, List.length_append, List.length_singleton, pow_succ]
    omega

/-- A byte string is the fixed-width form of its value. -/
theorem fixed_value (bs : List UInt8) : fixed bs.length (value bs) = bs := by
  induction bs using List.reverseRecOn with
  | nil => rfl
  | append_singleton bs b ih =>
    have hb := b.toNat_lt
    have hdiv : (value bs * 256 + b.toNat) / 256 = value bs := by omega
    have hmod : (value bs * 256 + b.toNat) % 256 = b.toNat := by omega
    rw [value_append_singleton, List.length_append, List.length_singleton, fixed, hdiv, hmod, ih,
      UInt8.ofNat_toNat]

theorem fixed_succ (k n : ℕ) (h : n < 256 ^ k) : fixed (k + 1) n = 0 :: fixed k n := by
  induction k generalizing n with
  | zero =>
    rw [pow_zero, Nat.lt_one_iff] at h
    subst h
    rfl
  | succ k ih =>
    have hdiv : n / 256 < 256 ^ k := Nat.div_lt_of_lt_mul (by rwa [pow_succ'] at h)
    rw [fixed, ih _ hdiv, List.cons_append]
    rfl

/-- Leading zeros do not change the trimmed form. -/
theorem minimal_eq_trim_fixed {j k n : ℕ} (hjk : j ≤ k) (h : n < 256 ^ j) :
    minimal k n = trim (fixed j n) := by
  induction k, hjk using Nat.le_induction with
  | base => rfl
  | succ k hjk ih =>
    have hlt : n < 256 ^ k := h.trans_le (Nat.pow_le_pow_right (by decide) hjk)
    rw [← ih, minimal, fixed_succ k n hlt]
    rfl

/-- A byte string without leading zeros is the shortest form of its value. -/
theorem minimal_value {k : ℕ} {bs : List UInt8} (hlen : bs.length ≤ k)
    (hhead : bs.head? ≠ some 0) : minimal k (value bs) = bs := by
  rw [minimal_eq_trim_fixed hlen (value_lt bs), fixed_value]
  cases bs with
  | nil => rfl
  | cons b bs =>
    have hb : b ≠ 0 := fun h => hhead (by rw [h, List.head?_cons])
    simp [trim, hb]

@[simp] theorem minimal_zero (k : ℕ) : minimal k 0 = [] :=
  @minimal_value k [] (Nat.zero_le k) (fun h => nomatch h)

/-- The first byte counts most. -/
theorem value_cons (b : UInt8) (bs : List UInt8) :
    value (b :: bs) = b.toNat * 256 ^ bs.length + value bs := by
  induction bs using List.reverseRecOn with
  | nil => simp [value]
  | append_singleton bs c ih =>
    rw [← List.cons_append, value_append_singleton, ih, value_append_singleton,
      List.length_append, List.length_singleton, pow_succ, Nat.add_mul, Nat.mul_assoc,
      Nat.add_assoc]

/-- A byte string that does not begin with zero reaches the power of the number of its other
bytes. -/
theorem pow_length_le_value {b : UInt8} {bs : List UInt8} (hhead : (b :: bs).head? ≠ some 0) :
    256 ^ bs.length ≤ value (b :: bs) := by
  have hb : 0 < b.toNat := by
    refine Nat.pos_of_ne_zero fun hzero => hhead ?_
    rw [List.head?_cons, UInt8.toNat_inj.mp (hzero.trans UInt8.toNat_zero.symm)]
  rw [value_cons]
  exact (Nat.le_mul_of_pos_left _ hb).trans (Nat.le_add_right _ _)

/-- A byte string without leading zeros is no longer than its value needs. -/
theorem length_le_of_value_lt {k : ℕ} {bs : List UInt8} (hhead : bs.head? ≠ some 0)
    (h : value bs < 256 ^ k) : bs.length ≤ k := by
  cases bs with
  | nil => exact Nat.zero_le k
  | cons b bs =>
    exact (Nat.pow_lt_pow_iff_right (by decide)).mp ((pow_length_le_value hhead).trans_lt h)

/-- The number of bytes of the shortest form. -/
theorem length_minimal {k n : ℕ} (hpos : n ≠ 0) (h : n < 256 ^ k) :
    (minimal k n).length = Nat.log 256 n + 1 := by
  have hvalue := value_minimal h
  have hhead := head?_minimal_ne_zero k n
  cases hbs : minimal k n with
  | nil => exact absurd hbs (minimal_ne_nil hpos h)
  | cons b bs =>
    rw [hbs] at hvalue hhead
    have hlower : 256 ^ bs.length ≤ n := hvalue ▸ pow_length_le_value hhead
    have hupper : n < 256 ^ (bs.length + 1) := by
      rw [← hvalue]
      exact value_lt (b :: bs)
    rw [List.length_cons, Nat.log_eq_of_pow_le_of_lt_pow hlower hupper]

end BigEndian
