import EvReth.Foundations.BigEndian
import Mathlib.Data.Nat.Digits.Lemmas

/-!
# Hexadecimal strings

A hexadecimal string is a list of digits. It is read as a number, most significant digit first, and
as a byte string, two digits a byte; a string of odd length then gets a leading zero. Numbers are
written without leading zeros, or with as many as a given number of bytes needs.
-/

namespace Hex

/-- The bytes of pairs of digits. -/
def pairs : List (Fin 16) → List UInt8
  | [] => []
  | [_] => []
  | hi :: lo :: rest => UInt8.ofNat (hi.val * 16 + lo.val) :: pairs rest

/-- The bytes of a hexadecimal string. -/
def toBytes (hex : List (Fin 16)) : List UInt8 :=
  pairs (if hex.length % 2 = 1 then 0 :: hex else hex)

/-- A byte string in hexadecimal. -/
def ofBytes (bs : List UInt8) : List (Fin 16) :=
  bs.flatMap fun b => [Fin.ofNat 16 (b.toNat / 16), Fin.ofNat 16 (b.toNat % 16)]

/-- The number that a hexadecimal string denotes. -/
def value (hex : List (Fin 16)) : ℕ := hex.foldl (fun acc d => acc * 16 + d.val) 0

/-- A number in as few digits as it needs; zero has one. -/
def ofNat (n : ℕ) : List (Fin 16) :=
  if n = 0 then [0] else (Nat.digits 16 n).reverse.map (Fin.ofNat 16)

/-- A number with leading zeros for `size` bytes. -/
def sized (size n : ℕ) : List (Fin 16) :=
  List.replicate (2 * size - (ofNat n).length) 0 ++ ofNat n

/-! ## Bytes -/

theorem ofBytes_append (bs cs : List UInt8) : ofBytes (bs ++ cs) = ofBytes bs ++ ofBytes cs :=
  List.flatMap_append

theorem length_ofBytes (bs : List UInt8) : (ofBytes bs).length = 2 * bs.length := by
  induction bs with
  | nil => rfl
  | cons b bs ih =>
    rw [ofBytes, List.flatMap_cons, List.length_append, ← ofBytes, ih, List.length_cons]
    simp only [List.length_cons, List.length_nil]
    omega

/-- Two digits make a byte. -/
theorem length_pairs (hex : List (Fin 16)) : (pairs hex).length = hex.length / 2 := by
  induction hex using pairs.induct with
  | case1 => rfl
  | case2 d => simp [pairs]
  | case3 hi lo rest ih =>
    rw [pairs, List.length_cons, ih]
    simp only [List.length_cons]
    omega

theorem toBytes_of_even {hex : List (Fin 16)} (h : hex.length % 2 = 0) :
    toBytes hex = pairs hex := by
  rw [toBytes, if_neg (by omega)]

/-- The digits of bytes are read as the bytes. -/
theorem pairs_ofBytes (bs : List UInt8) : pairs (ofBytes bs) = bs := by
  induction bs with
  | nil => rfl
  | cons b bs ih =>
    have hb := b.toNat_lt
    have hhi : (Fin.ofNat 16 (b.toNat / 16)).val = b.toNat / 16 := Nat.mod_eq_of_lt (by omega)
    have hlo : (Fin.ofNat 16 (b.toNat % 16)).val = b.toNat % 16 := Nat.mod_eq_of_lt (by omega)
    have hbyte : b.toNat / 16 * 16 + b.toNat % 16 = b.toNat := by omega
    rw [ofBytes, List.flatMap_cons, ← ofBytes]
    simp only [List.cons_append, List.nil_append, pairs, ih, hhi, hlo, hbyte, UInt8.ofNat_toNat]

/-- Bytes are read back. -/
theorem toBytes_ofBytes (bs : List UInt8) : toBytes (ofBytes bs) = bs := by
  have heven : (ofBytes bs).length % 2 = 0 := by
    rw [length_ofBytes]
    omega
  rw [toBytes_of_even heven, pairs_ofBytes]

/-- A string of even length is that of its bytes. -/
theorem ofBytes_pairs {hex : List (Fin 16)} (h : hex.length % 2 = 0) :
    ofBytes (pairs hex) = hex := by
  induction hex using pairs.induct with
  | case1 => rfl
  | case2 d => cases h
  | case3 hi lo rest ih =>
    have hhi := hi.isLt
    have hlo := lo.isLt
    have hbyte : (UInt8.ofNat (hi.val * 16 + lo.val)).toNat = hi.val * 16 + lo.val := by
      rw [UInt8.toNat_ofNat']
      omega
    -- the two digits of the byte are its quotient and its remainder by 16
    have hdiv : Fin.ofNat 16 ((hi.val * 16 + lo.val) / 16) = hi := by
      refine Fin.ext ?_
      rw [Fin.val_ofNat]
      omega
    have hmod : Fin.ofNat 16 ((hi.val * 16 + lo.val) % 16) = lo := by
      refine Fin.ext ?_
      rw [Fin.val_ofNat]
      omega
    simp only [List.length_cons] at h
    rw [pairs, ofBytes, List.flatMap_cons, ← ofBytes, ih (by omega), hbyte, hdiv, hmod]
    rfl

/-! ## Numbers -/

theorem value_append_singleton (hex : List (Fin 16)) (d : Fin 16) :
    value (hex ++ [d]) = value hex * 16 + d.val := by
  simp [value]

/-- The first digit counts most. -/
theorem value_cons (d : Fin 16) (hex : List (Fin 16)) :
    value (d :: hex) = d.val * 16 ^ hex.length + value hex := by
  induction hex using List.reverseRecOn with
  | nil => simp [value]
  | append_singleton hex c ih =>
    rw [← List.cons_append, value_append_singleton, ih, value_append_singleton,
      List.length_append, List.length_singleton, pow_succ, Nat.add_mul, Nat.mul_assoc,
      Nat.add_assoc]

/-- Digits have the value of the bytes that they make. -/
theorem value_pairs {hex : List (Fin 16)} (h : hex.length % 2 = 0) :
    BigEndian.value (pairs hex) = value hex := by
  induction hex using pairs.induct with
  | case1 => rfl
  | case2 d => cases h
  | case3 hi lo rest ih =>
    have hhi := hi.isLt
    have hlo := lo.isLt
    have hbyte : (UInt8.ofNat (hi.val * 16 + lo.val)).toNat = hi.val * 16 + lo.val := by
      rw [UInt8.toNat_ofNat']
      omega
    simp only [List.length_cons] at h
    -- a byte shifts by as much as two digits
    have hpow : 256 ^ (rest.length / 2) = 16 ^ rest.length := by
      rw [show 256 = 16 ^ 2 from rfl, ← pow_mul]
      congr 1
      omega
    rw [pairs, BigEndian.value_cons, ih (by omega), length_pairs, hbyte, hpow, value_cons,
      value_cons, List.length_cons, pow_succ]
    ring

/-- The bytes of a string denote the number that it denotes. -/
theorem value_toBytes (hex : List (Fin 16)) : BigEndian.value (toBytes hex) = value hex := by
  unfold toBytes
  split_ifs with hodd
  · rw [value_pairs (by rw [List.length_cons]; omega), value_cons]
    simp
  · exact value_pairs (by omega)

theorem value_ofBytes (bs : List UInt8) : value (ofBytes bs) = BigEndian.value bs := by
  rw [← value_toBytes, toBytes_ofBytes]

/-- The digits of a number denote it. -/
theorem value_digits (n : ℕ) : value ((Nat.digits 16 n).reverse.map (Fin.ofNat 16)) = n := by
  induction n using Nat.strongRecOn with
  | ind n ih =>
    by_cases hzero : n = 0
    · subst hzero
      rfl
    · have hlast : (Fin.ofNat 16 (n % 16)).val = n % 16 := Nat.mod_eq_of_lt (by omega)
      rw [Nat.digits_def' (by decide) (Nat.pos_of_ne_zero hzero), List.reverse_cons,
        List.map_append, List.map_singleton, value_append_singleton,
        ih (n / 16) (by omega), hlast]
      omega

theorem value_ofNat (n : ℕ) : value (ofNat n) = n := by
  unfold ofNat
  split_ifs with hzero
  · rw [hzero]
    rfl
  · exact value_digits n

/-- A number other than zero does not begin with the digit zero. -/
theorem head?_ofNat_ne_zero {n : ℕ} (hn : n ≠ 0) : (ofNat n).head? ≠ some 0 := by
  have hne : Nat.digits 16 n ≠ [] := Nat.digits_ne_nil_iff_ne_zero.mpr hn
  have hlast := Nat.getLast_digit_ne_zero 16 hn
  have hlt : (Nat.digits 16 n).getLast hne < 16 :=
    Nat.digits_lt_base (by decide) (List.getLast_mem hne)
  rw [ofNat, if_neg hn, List.head?_map, List.head?_reverse, List.getLast?_eq_some_getLast hne]
  intro h
  have hzero := congrArg Fin.val (Option.some.inj h)
  rw [Fin.val_ofNat, Nat.mod_eq_of_lt hlt] at hzero
  exact hlast hzero

theorem head?_pairs_ne_zero {hex : List (Fin 16)} (h : hex.head? ≠ some 0) :
    (pairs hex).head? ≠ some 0 := by
  induction hex using pairs.induct with
  | case1 => exact fun h => nomatch h
  | case2 d => simp [pairs]
  | case3 hi lo rest ih =>
    have hhi := hi.isLt
    have hlo := lo.isLt
    intro hzero
    have hbyte := congrArg UInt8.toNat (Option.some.inj hzero)
    rw [UInt8.toNat_ofNat', UInt8.toNat_zero] at hbyte
    refine h (congrArg some (Fin.ext ?_))
    rw [Fin.val_zero]
    omega

/-- The bytes of a number that is not zero begin with a byte that is not zero. -/
theorem head?_toBytes_ofNat_ne_zero {n : ℕ} (hn : n ≠ 0) :
    (toBytes (ofNat n)).head? ≠ some 0 := by
  have hhead := head?_ofNat_ne_zero hn
  unfold toBytes
  split_ifs with hodd
  · -- a single leading digit makes up the first byte
    cases hdigits : ofNat n with
    | nil =>
      rw [hdigits] at hodd
      cases hodd
    | cons d rest =>
      rw [hdigits] at hhead
      have hd := d.isLt
      intro hzero
      have hbyte := congrArg UInt8.toNat (Option.some.inj hzero)
      rw [UInt8.toNat_ofNat', UInt8.toNat_zero, Fin.val_zero] at hbyte
      refine hhead (congrArg some (Fin.ext ?_))
      rw [Fin.val_zero]
      omega
  · exact head?_pairs_ne_zero hhead

/-- A number that fits is written in as few bytes as it needs. -/
theorem toBytes_ofNat {k n : ℕ} (hn : n ≠ 0) (h : n < 256 ^ k) :
    toBytes (ofNat n) = BigEndian.minimal k n := by
  have hvalue : BigEndian.value (toBytes (ofNat n)) = n := by rw [value_toBytes, value_ofNat]
  have hhead := head?_toBytes_ofNat_ne_zero hn
  have hlen : (toBytes (ofNat n)).length ≤ k := BigEndian.length_le_of_value_lt hhead (by omega)
  have hminimal := BigEndian.minimal_value hlen hhead
  rw [hvalue] at hminimal
  exact hminimal.symm

/-- A number that fits into bytes has at most twice as many digits. -/
theorem length_ofNat_le {size n : ℕ} (hsize : 0 < size) (h : n < 256 ^ size) :
    (ofNat n).length ≤ 2 * size := by
  unfold ofNat
  split_ifs with hzero
  · rw [List.length_singleton]
    omega
  · rw [List.length_map, List.length_reverse, Nat.digits_length_le_iff (by decide), pow_mul]
    exact h

theorem value_replicate_append (k : ℕ) (hex : List (Fin 16)) :
    value (List.replicate k 0 ++ hex) = value hex := by
  induction k with
  | zero => rfl
  | succ k ih =>
    rw [List.replicate_succ, List.cons_append, value_cons, ih]
    simp

/-- A number that fits is written in the given number of bytes. -/
theorem sized_eq_ofBytes {size n : ℕ} (hsize : 0 < size) (h : n < 256 ^ size) :
    sized size n = ofBytes (BigEndian.fixed size n) := by
  have hle := length_ofNat_le hsize h
  have hlen : (sized size n).length = 2 * size := by
    rw [sized, List.length_append, List.length_replicate]
    omega
  have heven : (sized size n).length % 2 = 0 := by omega
  have hbytes : (pairs (sized size n)).length = size := by
    rw [length_pairs, hlen]
    omega
  have hvalue : BigEndian.value (pairs (sized size n)) = n := by
    rw [value_pairs heven, sized, value_replicate_append, value_ofNat]
  -- as many bytes with the same value
  have hfixed := BigEndian.fixed_value (pairs (sized size n))
  rw [hbytes, hvalue] at hfixed
  rw [hfixed, ofBytes_pairs heven]

end Hex
