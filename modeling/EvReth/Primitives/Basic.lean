import EvReth.Foundations.MachineInt

/-!
# Base types

The fixed-width integers, addresses and byte strings that every component of the node shares.
-/

namespace EvReth

/-- `u64`. -/
abbrev U64 := BitVec 64

/-- `u128`. -/
abbrev U128 := BitVec 128

/-- `U256`. -/
abbrev U256 := BitVec 256

/-- A 32-byte word that is not used as a number: hashes, topics, storage keys of access lists. -/
abbrev B256 := BitVec 256

/-- A 20-byte account address. -/
abbrev Address := BitVec 160

/-- A byte string. -/
abbrev Bytes := List UInt8

/-- Destination of a transaction or of a batched call. -/
inductive TxKind where
  | create
  | call (addr : Address)
  deriving DecidableEq, Repr

/-- `TxKind::is_create`. -/
def TxKind.isCreate : TxKind → Bool
  | .create => true
  | .call _ => false

/-- `TxKind::is_call`. -/
def TxKind.isCall : TxKind → Bool
  | .create => false
  | .call _ => true

@[simp]
theorem TxKind.isCall_eq_not_isCreate (k : TxKind) : k.isCall = !k.isCreate := by
  cases k <;> rfl

end EvReth
