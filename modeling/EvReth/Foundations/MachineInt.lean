import Mathlib.Data.BitVec
import Mathlib.Data.Fintype.EquivFin
import Mathlib.Data.Fintype.Prod

/-!
# Fixed-width unsigned arithmetic

Checked and saturating arithmetic on `BitVec w`, the operations a systems language offers on its
unsigned integers. Each operation comes with the value it has as a natural number, so that proofs
about programs reduce to linear arithmetic over `toNat`:

* `checkedAdd`, `checkedSub`, `checkedMul` return `none` when the exact result is not
  representable;
* `saturatingAdd`, `saturatingSub`, `saturatingMul` clamp the exact result to `[0, 2 ^ w)`.

The file also records that `BitVec w` is a finite type, so that sums over all words exist.
-/

namespace BitVec

variable {w : ℕ}

instance instFintype : Fintype (BitVec w) :=
  Fintype.ofEquiv (Fin (2 ^ w)) equivFin.symm.toEquiv

/-! ## Checked operations -/

/-- Addition, or `none` when the sum does not fit. -/
def checkedAdd (a b : BitVec w) : Option (BitVec w) :=
  if a.toNat + b.toNat < 2 ^ w then some (a + b) else none

/-- Subtraction, or `none` when the difference is negative. -/
def checkedSub (a b : BitVec w) : Option (BitVec w) :=
  if b.toNat ≤ a.toNat then some (a - b) else none

/-- Multiplication, or `none` when the product does not fit. -/
def checkedMul (a b : BitVec w) : Option (BitVec w) :=
  if a.toNat * b.toNat < 2 ^ w then some (a * b) else none

theorem toNat_add_of_fits {a b : BitVec w} (h : a.toNat + b.toNat < 2 ^ w) :
    (a + b).toNat = a.toNat + b.toNat := by
  rw [BitVec.toNat_add, Nat.mod_eq_of_lt h]

theorem toNat_mul_of_fits {a b : BitVec w} (h : a.toNat * b.toNat < 2 ^ w) :
    (a * b).toNat = a.toNat * b.toNat := by
  rw [BitVec.toNat_mul, Nat.mod_eq_of_lt h]

theorem toNat_sub_of_fits {a b : BitVec w} (h : b.toNat ≤ a.toNat) :
    (a - b).toNat = a.toNat - b.toNat :=
  BitVec.toNat_sub_of_le (BitVec.le_def.mpr h)

/-- A checked addition succeeds exactly when the exact sum is representable, and returns it. -/
theorem checkedAdd_eq_some_iff {a b c : BitVec w} :
    checkedAdd a b = some c ↔ c.toNat = a.toNat + b.toNat := by
  constructor
  · intro h
    rw [checkedAdd] at h
    split at h
    next hfit =>
      obtain rfl := Option.some.inj h
      exact toNat_add_of_fits hfit
    next => cases h
  · intro h
    -- `c` is a word, so the sum it denotes is representable
    have hfit : a.toNat + b.toNat < 2 ^ w := h ▸ c.isLt
    rw [checkedAdd, if_pos hfit]
    exact congrArg some (BitVec.eq_of_toNat_eq ((toNat_add_of_fits hfit).trans h.symm))

/-- There is no sum exactly if it does not fit. -/
theorem checkedAdd_eq_none_iff {a b : BitVec w} :
    checkedAdd a b = none ↔ 2 ^ w ≤ a.toNat + b.toNat := by
  simp [checkedAdd]

/-- A checked subtraction succeeds exactly when the exact difference is representable. -/
theorem checkedSub_eq_some_iff {a b c : BitVec w} :
    checkedSub a b = some c ↔ c.toNat + b.toNat = a.toNat := by
  constructor
  · intro h
    rw [checkedSub] at h
    split at h
    next hle =>
      obtain rfl := Option.some.inj h
      rw [toNat_sub_of_fits hle]
      omega
    next => cases h
  · intro h
    have hle : b.toNat ≤ a.toNat := by omega
    rw [checkedSub, if_pos hle]
    refine congrArg some (BitVec.eq_of_toNat_eq ?_)
    rw [toNat_sub_of_fits hle]
    omega

/-- There is no difference exactly if it would be negative. -/
theorem checkedSub_eq_none_iff {a b : BitVec w} :
    checkedSub a b = none ↔ a.toNat < b.toNat := by
  simp [checkedSub]

/-- A checked multiplication succeeds exactly when the exact product is representable. -/
theorem checkedMul_eq_some_iff {a b c : BitVec w} :
    checkedMul a b = some c ↔ c.toNat = a.toNat * b.toNat := by
  constructor
  · intro h
    rw [checkedMul] at h
    split at h
    next hfit =>
      obtain rfl := Option.some.inj h
      exact toNat_mul_of_fits hfit
    next => cases h
  · intro h
    -- `c` is a word, so the product it denotes is representable
    have hfit : a.toNat * b.toNat < 2 ^ w := h ▸ c.isLt
    rw [checkedMul, if_pos hfit]
    exact congrArg some (BitVec.eq_of_toNat_eq ((toNat_mul_of_fits hfit).trans h.symm))

theorem checkedMul_eq_none_iff {a b : BitVec w} :
    checkedMul a b = none ↔ 2 ^ w ≤ a.toNat * b.toNat := by
  simp [checkedMul]

/-! ## Saturating operations -/

/-- Addition clamped to the largest word. -/
def saturatingAdd (a b : BitVec w) : BitVec w := (checkedAdd a b).getD (allOnes w)

/-- Subtraction clamped to zero. -/
def saturatingSub (a b : BitVec w) : BitVec w := (checkedSub a b).getD 0

/-- Multiplication clamped to the largest word. -/
def saturatingMul (a b : BitVec w) : BitVec w := (checkedMul a b).getD (allOnes w)

/-- A saturating sum is at most the largest word. -/
@[simp]
theorem toNat_saturatingAdd (a b : BitVec w) :
    (saturatingAdd a b).toNat = min (a.toNat + b.toNat) (2 ^ w - 1) := by
  rw [saturatingAdd, checkedAdd]
  split
  next h => rw [Option.getD_some, toNat_add_of_fits h]; omega
  next h => rw [Option.getD_none, BitVec.toNat_allOnes]; omega

/-- A saturating difference is that of natural numbers. -/
@[simp]
theorem toNat_saturatingSub (a b : BitVec w) :
    (saturatingSub a b).toNat = a.toNat - b.toNat := by
  rw [saturatingSub, checkedSub]
  split
  next h => rw [Option.getD_some, toNat_sub_of_fits h]
  next h => rw [Option.getD_none, BitVec.ofNat_eq_ofNat, BitVec.toNat_ofNat, Nat.zero_mod]; omega

/-- A saturating product is at most the largest word. -/
@[simp]
theorem toNat_saturatingMul (a b : BitVec w) :
    (saturatingMul a b).toNat = min (a.toNat * b.toNat) (2 ^ w - 1) := by
  rw [saturatingMul, checkedMul]
  split
  next h => rw [Option.getD_some, toNat_mul_of_fits h]; omega
  next h => rw [Option.getD_none, BitVec.toNat_allOnes]; omega

end BitVec
