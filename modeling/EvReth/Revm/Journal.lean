import EvReth.Primitives.Basic

/-!
# The journaled state

The account state that the handler and the stateful precompile work on. revm keeps accounts in a
map that is filled from the database on first access; here `Journal.accounts` is total and returns
what such an access would find, and `Journal.dbError` names the accounts whose first access fails.

Two flags of revm's account status are kept because the code reads them or because they decide what
is written back at the end of a transaction: `loadedAsNotExisting` (fixed when the account is
loaded) and `touched`. Access-list warmth is not modelled: no function below reads it.

`checkpoint` and `checkpointRevert` state the discipline of revm's journal: a revert restores the
accounts and logs of the moment the checkpoint was taken.
-/

namespace EvReth

/-- Balance, nonce and code of an account. Missing code and empty code are read alike. -/
structure AccountInfo where
  balance : U256 := 0
  nonce : U64 := 0
  code : Bytes := []
  deriving DecidableEq, Repr

/-- An account is empty in the sense of EIP-161: no balance, no nonce and no code. -/
def AccountInfo.IsEmpty (info : AccountInfo) : Prop :=
  info.balance = 0 ∧ info.nonce = 0 ∧ info.code = []

instance (info : AccountInfo) : Decidable info.IsEmpty := by
  unfold AccountInfo.IsEmpty
  infer_instance

/-- An account of the journal. -/
structure Account where
  info : AccountInfo := {}
  storage : U256 → U256 := fun _ => 0
  /-- The database had no such account when it was first loaded in this transaction. -/
  loadedAsNotExisting : Bool := false
  /-- The account is written back, or cleared if empty, when the transaction ends. -/
  touched : Bool := false

/-- An event emitted by a contract. -/
structure Log where
  address : Address
  topics : List B256
  data : Bytes
  deriving DecidableEq, Repr

/-- An error of the underlying database, as text. -/
abbrev DbError := String

/-- The journaled state of one transaction. -/
structure Journal where
  accounts : Address → Account
  logs : List Log := []
  /-- The error with which the first load of an account fails, if it does. -/
  dbError : Address → Option DbError := fun _ => none
  /-- The error with which the first load of a storage slot fails, if it does. -/
  storageError : Address → U256 → Option DbError := fun _ _ => none

namespace Journal

/-- The journal over a database without accounts. -/
def empty : Journal :=
  { accounts := fun _ => { loadedAsNotExisting := true } }

/-- The database does not fail: every account and every storage slot can be loaded. -/
def Readable (j : Journal) : Prop :=
  (∀ a, j.dbError a = none) ∧ ∀ a k, j.storageError a k = none

variable (j : Journal) (a b : Address)

/-! ## Observers -/

/-- Balance of an account. -/
def balance : U256 := (j.accounts a).info.balance

/-- Nonce of an account. -/
def nonce : U64 := (j.accounts a).info.nonce

/-- Code of an account. -/
def code : Bytes := (j.accounts a).info.code

/-- Value of a storage slot. -/
def storage (k : U256) : U256 := (j.accounts a).storage k

/-- The account's `loadedAsNotExisting` flag. -/
def isLoadedAsNotExisting : Bool := (j.accounts a).loadedAsNotExisting

/-- The account's `touched` flag. -/
def isTouched : Bool := (j.accounts a).touched

/-! ## Operations -/

/-- `load_account`, `load_account_mut` and `load_account_with_code_mut`: the account, or the error
of the database. -/
def loadAccount : Except DbError Account :=
  match j.dbError a with
  | some e => .error e
  | none => .ok (j.accounts a)

/-- Replace one account. -/
def modify (f : Account → Account) : Journal :=
  { j with accounts := Function.update j.accounts a (f (j.accounts a)) }

/-- `touch_account`. -/
def touch : Journal := j.modify a fun acc => { acc with touched := true }

/-- `set_nonce` of a loaded account; it also touches the account. -/
def setNonce (n : U64) : Journal :=
  j.modify a fun acc => { acc with info := { acc.info with nonce := n }, touched := true }

/-- `set_balance` of a loaded account; it also touches the account. -/
def setBalance (v : U256) : Journal :=
  j.modify a fun acc => { acc with info := { acc.info with balance := v }, touched := true }

/-- `set_code`; it also touches the account. -/
def setCode (c : Bytes) : Journal :=
  j.modify a fun acc => { acc with info := { acc.info with code := c }, touched := true }

/-- `sstore`; it does not touch the account. -/
def sstore (k v : U256) : Journal :=
  j.modify a fun acc => { acc with storage := Function.update acc.storage k v }

/-- `incr_balance` of a loaded account: `false`, and only a touch, when the balance overflows. -/
def incrBalance (amount : U256) : Bool × Journal :=
  match (j.balance a).checkedAdd amount with
  | some v => (true, j.setBalance a v)
  -- the touch comes before the check
  | none => (false, j.touch a)

/-- `decr_balance` of a loaded account: `false`, and only a touch, when the balance is too small. -/
def decrBalance (amount : U256) : Bool × Journal :=
  match (j.balance a).checkedSub amount with
  | some v => (true, j.setBalance a v)
  | none => (false, j.touch a)

/-- `transfer`: move `value`, or `none` when the sender's balance is too small or the recipient's
overflows. A transfer of nothing still touches the recipient. -/
def transfer (source dest : Address) (value : U256) : Option Journal :=
  if value = 0 then some (j.touch dest)
  else
    match (j.balance source).checkedSub value with
    | none => none
    | some v =>
      -- the recipient is read after the debit, so a transfer to oneself changes nothing
      match ((j.setBalance source v).balance dest).checkedAdd value with
      | none => none
      | some v' => some ((j.setBalance source v).setBalance dest v')

/-- What `checkpoint` remembers: the accounts and logs at that moment. -/
structure Checkpoint where
  accounts : Address → Account
  logs : List Log

/-- `checkpoint`. -/
def checkpoint : Checkpoint := ⟨j.accounts, j.logs⟩

/-- `checkpoint_revert`: undo every change made since the checkpoint. -/
def checkpointRevert (c : Checkpoint) : Journal := { j with accounts := c.accounts, logs := c.logs }

/-! ## Frame lemmas

One lemma per observer and update. An update of one field of one account leaves every other field
and every other account as it was. -/

section Frame

variable (n : U64) (v k x : U256) (c : Bytes)

/-- An update keeps what the new account shares with the old one. -/
theorem observe_modify {β : Type} (f : Account → β) {g : Account → Account}
    (hkeep : ∀ acc, f (g acc) = f acc) : f ((j.modify a g).accounts b) = f (j.accounts b) := by
  by_cases h : b = a
  · subst h
    simp [modify, hkeep]
  · simp [modify, h]

/-- An update sets what is the same in every new account. -/
theorem observe_modify_set {β : Type} (f : Account → β) {g : Account → Account} {y : β}
    (hset : ∀ acc, f (g acc) = y) :
    f ((j.modify a g).accounts b) = if b = a then y else f (j.accounts b) := by
  by_cases h : b = a
  · subst h
    simp [modify, hset]
  · simp [modify, h]

/-- An update that touches its account touches no other one. -/
theorem isTouched_modify {g : Account → Account} (htouch : ∀ acc, (g acc).touched = true) :
    (j.modify a g).isTouched b = (decide (b = a) || j.isTouched b) := by
  refine (j.observe_modify_set a b (·.touched) htouch).trans ?_
  by_cases h : b = a <;> simp [isTouched, h]

/-- A touch changes no balance. -/
@[simp] theorem balance_touch : (j.touch a).balance b = j.balance b :=
  j.observe_modify a b (·.info.balance) fun _ => rfl

/-- A touch changes no nonce. -/
@[simp] theorem nonce_touch : (j.touch a).nonce b = j.nonce b :=
  j.observe_modify a b (·.info.nonce) fun _ => rfl

@[simp] theorem code_touch : (j.touch a).code b = j.code b :=
  j.observe_modify a b (·.info.code) fun _ => rfl

@[simp] theorem storage_touch : (j.touch a).storage b k = j.storage b k :=
  j.observe_modify a b (·.storage k) fun _ => rfl

@[simp] theorem isLoadedAsNotExisting_touch :
    (j.touch a).isLoadedAsNotExisting b = j.isLoadedAsNotExisting b :=
  j.observe_modify a b (·.loadedAsNotExisting) fun _ => rfl

/-- A touch touches the account, and no other one. -/
@[simp] theorem isTouched_touch : (j.touch a).isTouched b = (decide (b = a) || j.isTouched b) :=
  j.isTouched_modify a b fun _ => rfl

/-- Setting a nonce changes no balance. -/
@[simp] theorem balance_setNonce : (j.setNonce a n).balance b = j.balance b :=
  j.observe_modify a b (·.info.balance) fun _ => rfl

/-- Setting a nonce changes that of the one account. -/
@[simp] theorem nonce_setNonce : (j.setNonce a n).nonce b = if b = a then n else j.nonce b :=
  j.observe_modify_set a b (·.info.nonce) fun _ => rfl

@[simp] theorem code_setNonce : (j.setNonce a n).code b = j.code b :=
  j.observe_modify a b (·.info.code) fun _ => rfl

@[simp] theorem storage_setNonce : (j.setNonce a n).storage b k = j.storage b k :=
  j.observe_modify a b (·.storage k) fun _ => rfl

@[simp] theorem isLoadedAsNotExisting_setNonce :
    (j.setNonce a n).isLoadedAsNotExisting b = j.isLoadedAsNotExisting b :=
  j.observe_modify a b (·.loadedAsNotExisting) fun _ => rfl

/-- Setting a nonce touches the account. -/
@[simp] theorem isTouched_setNonce :
    (j.setNonce a n).isTouched b = (decide (b = a) || j.isTouched b) :=
  j.isTouched_modify a b fun _ => rfl

/-- Setting a balance changes that of the one account. -/
@[simp] theorem balance_setBalance :
    (j.setBalance a v).balance b = if b = a then v else j.balance b :=
  j.observe_modify_set a b (·.info.balance) fun _ => rfl

/-- Setting a balance changes no nonce. -/
@[simp] theorem nonce_setBalance : (j.setBalance a v).nonce b = j.nonce b :=
  j.observe_modify a b (·.info.nonce) fun _ => rfl

@[simp] theorem code_setBalance : (j.setBalance a v).code b = j.code b :=
  j.observe_modify a b (·.info.code) fun _ => rfl

@[simp] theorem storage_setBalance : (j.setBalance a v).storage b k = j.storage b k :=
  j.observe_modify a b (·.storage k) fun _ => rfl

@[simp] theorem isLoadedAsNotExisting_setBalance :
    (j.setBalance a v).isLoadedAsNotExisting b = j.isLoadedAsNotExisting b :=
  j.observe_modify a b (·.loadedAsNotExisting) fun _ => rfl

/-- Setting a balance touches the account. -/
@[simp] theorem isTouched_setBalance :
    (j.setBalance a v).isTouched b = (decide (b = a) || j.isTouched b) :=
  j.isTouched_modify a b fun _ => rfl

/-- Setting a code changes no balance. -/
@[simp] theorem balance_setCode : (j.setCode a c).balance b = j.balance b :=
  j.observe_modify a b (·.info.balance) fun _ => rfl

/-- Setting a code changes no nonce. -/
@[simp] theorem nonce_setCode : (j.setCode a c).nonce b = j.nonce b :=
  j.observe_modify a b (·.info.nonce) fun _ => rfl

/-- Setting a code changes that of the one account. -/
@[simp] theorem code_setCode : (j.setCode a c).code b = if b = a then c else j.code b :=
  j.observe_modify_set a b (·.info.code) fun _ => rfl

@[simp] theorem storage_setCode : (j.setCode a c).storage b k = j.storage b k :=
  j.observe_modify a b (·.storage k) fun _ => rfl

@[simp] theorem isLoadedAsNotExisting_setCode :
    (j.setCode a c).isLoadedAsNotExisting b = j.isLoadedAsNotExisting b :=
  j.observe_modify a b (·.loadedAsNotExisting) fun _ => rfl

/-- Setting a code touches the account. -/
@[simp] theorem isTouched_setCode :
    (j.setCode a c).isTouched b = (decide (b = a) || j.isTouched b) :=
  j.isTouched_modify a b fun _ => rfl

/-- Writing a slot changes no balance. -/
@[simp] theorem balance_sstore : (j.sstore a k v).balance b = j.balance b :=
  j.observe_modify a b (·.info.balance) fun _ => rfl

/-- Writing a slot changes no nonce. -/
@[simp] theorem nonce_sstore : (j.sstore a k v).nonce b = j.nonce b :=
  j.observe_modify a b (·.info.nonce) fun _ => rfl

@[simp] theorem code_sstore : (j.sstore a k v).code b = j.code b :=
  j.observe_modify a b (·.info.code) fun _ => rfl

/-- Writing a slot changes the one slot of the one account. -/
@[simp] theorem storage_sstore :
    (j.sstore a k v).storage b x = if b = a ∧ x = k then v else j.storage b x := by
  by_cases h : b = a
  · subst h
    by_cases hx : x = k <;> simp [storage, sstore, modify, Function.update, hx]
  · simp [storage, sstore, modify, Function.update, h]

@[simp] theorem isLoadedAsNotExisting_sstore :
    (j.sstore a k v).isLoadedAsNotExisting b = j.isLoadedAsNotExisting b :=
  j.observe_modify a b (·.loadedAsNotExisting) fun _ => rfl

/-- Writing a slot touches no account. -/
@[simp] theorem isTouched_sstore : (j.sstore a k v).isTouched b = j.isTouched b :=
  j.observe_modify a b (·.touched) fun _ => rfl

end Frame

/-- No operation on accounts changes which loads fail. -/
@[simp] theorem dbError_modify (f : Account → Account) : (j.modify a f).dbError = j.dbError := rfl

/-- A credit does not change which accounts can be loaded. -/
@[simp] theorem dbError_incrBalance (amount : U256) :
    (j.incrBalance a amount).2.dbError = j.dbError := by
  unfold incrBalance
  cases (j.balance a).checkedAdd amount <;> rfl

/-- A credit changes no nonce. -/
@[simp] theorem nonce_incrBalance (amount : U256) :
    (j.incrBalance a amount).2.nonce b = j.nonce b := by
  unfold incrBalance
  cases (j.balance a).checkedAdd amount <;> simp

variable {j} in
/-- A transfer of nothing touches the recipient; any other moves the value between the balances. -/
theorem transfer_cases {source dest : Address} {value : U256} {j' : Journal}
    (h : j.transfer source dest value = some j') :
    value = 0 ∧ j' = j.touch dest ∨
      ∃ v v', (j.balance source).checkedSub value = some v ∧
        ((j.setBalance source v).balance dest).checkedAdd value = some v' ∧
        j' = (j.setBalance source v).setBalance dest v' := by
  rw [transfer] at h
  split at h
  next hzero => exact .inl ⟨hzero, (Option.some.inj h).symm⟩
  next =>
    split at h
    next => cases h
    next v hsub =>
      split at h
      next => cases h
      next v' hadd => exact .inr ⟨v, v', hsub, hadd, (Option.some.inj h).symm⟩

variable {j} in
/-- A transfer changes neither which loads fail nor the logs. -/
theorem frame_of_transfer {source dest : Address} {value : U256} {j' : Journal}
    (h : j.transfer source dest value = some j') :
    j'.dbError = j.dbError ∧ j'.storageError = j.storageError ∧ j'.logs = j.logs := by
  obtain ⟨-, rfl⟩ | ⟨v, v', -, -, rfl⟩ := transfer_cases h
  · exact ⟨rfl, rfl, rfl⟩
  · exact ⟨rfl, rfl, rfl⟩

variable {j} in
/-- A transfer changes no nonce. -/
theorem nonce_of_transfer {source dest : Address} {value : U256} {j' : Journal}
    (h : j.transfer source dest value = some j') (addr : Address) :
    j'.nonce addr = j.nonce addr := by
  obtain ⟨-, rfl⟩ | ⟨v, v', -, -, rfl⟩ := transfer_cases h
  · exact nonce_touch _ _ _
  · rw [nonce_setBalance, nonce_setBalance]

end Journal

end EvReth
