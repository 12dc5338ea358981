import EvReth.Revm.Journal

/-!
# The state between transactions

A transaction loads accounts from the database into its journal and writes the touched ones back
when it ends. `commit` includes the state clearing of EIP-161: a touched account with zero balance,
zero nonce and empty code is deleted together with its storage.
-/

namespace EvReth

/-- An account as the database holds it. -/
structure DbAccount where
  info : AccountInfo
  storage : U256 → U256 := fun _ => 0

/-- The accounts of the database; `none` for an account that does not exist. -/
abbrev WorldState := Address → Option DbAccount

namespace WorldState

/-- The account a first load finds. -/
def loadedAccount : Option DbAccount → Account
  | none => { loadedAsNotExisting := true }
  | some d => { info := d.info, storage := d.storage }

/-- The journal with which a transaction begins. -/
def load (w : WorldState) : Journal := { accounts := fun a => loadedAccount (w a) }

/-- The database after a transaction that ends with journal `j`. -/
def commit (w : WorldState) (j : Journal) : WorldState := fun a =>
  if j.isTouched a then
    -- state clearing: storage does not keep an account alive
    if (j.accounts a).info.IsEmpty then none
    else some { info := (j.accounts a).info, storage := (j.accounts a).storage }
  else w a

variable (w : WorldState) (j : Journal) (a : Address) (k : U256)

@[simp] theorem dbError_load : w.load.dbError a = none := rfl

@[simp] theorem storageError_load : w.load.storageError a k = none := rfl

/-- A slot keeps its value over a commit if clearing its account loses nothing and an untouched
account was not written. -/
theorem storage_load_commit
    (hclear : (j.accounts a).info.IsEmpty → j.storage a k = 0)
    (huntouched : j.isTouched a = false → j.storage a k = w.load.storage a k) :
    (w.commit j).load.storage a k = j.storage a k := by
  unfold commit load Journal.storage at *
  -- written back, cleared, or kept from before the transaction
  by_cases htouched : j.isTouched a
  · by_cases hempty : (j.accounts a).info.IsEmpty
    · simpa [htouched, hempty, loadedAccount] using (hclear hempty).symm
    · simp [htouched, hempty, loadedAccount]
  · simpa [htouched] using (huntouched (by simpa using htouched)).symm

end WorldState

end EvReth
