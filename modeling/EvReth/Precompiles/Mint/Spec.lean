import EvReth.Foundations.StateExcept
import EvReth.Precompiles.Mint.Defs

/-!
# The mint precompile, function by function

One equation per helper of `MintPrecompile`, giving its result and the journal it leaves for every
input, and from them one equation per entry point. Later modules reason about these equations and
never unfold the monadic definitions.
-/

namespace EvReth

namespace MintPrecompile

open EStateM

variable {j : Journal} {addr : Address} {e : DbError}

/-! ## `EvmInternals` -/

/-- A failing load of an account is reported with the text of the database. -/
theorem mapErr_loadAccount_of_error (h : j.dbError addr = some e) :
    mapErr (EvmInternals.loadAccount addr) j = .error (mapInternalsError e) j := by
  apply adaptExcept_of_error
  simp [EvmInternals.loadAccount, Journal.loadAccount, h]

/-- A load that does not fail gives the account as it is in the journal. -/
theorem loadAccount_of_none (h : j.dbError addr = none) :
    EvmInternals.loadAccount addr j = .ok (j.accounts addr) j := by
  simp [EvmInternals.loadAccount, Journal.loadAccount, h]

/-- `load_account` of an account that can be loaded. -/
theorem mapErr_loadAccount (h : j.dbError addr = none) :
    mapErr (EvmInternals.loadAccount addr) j = .ok (j.accounts addr) j :=
  adaptExcept_of_ok (loadAccount_of_none h)

theorem mapErr_touchAccount (h : j.dbError addr = none) :
    mapErr (EvmInternals.touchAccount addr) j = .ok () (j.touch addr) :=
  adaptExcept_of_ok (bind_of_ok (loadAccount_of_none h))

theorem mapErr_setCode (h : j.dbError addr = none) (code : Bytes) :
    mapErr (EvmInternals.setCode addr code) j = .ok () (j.setCode addr code) :=
  adaptExcept_of_ok (bind_of_ok (loadAccount_of_none h))

theorem mapErr_setNonce (h : j.dbError addr = none) (nonce : U64) :
    mapErr (EvmInternals.setNonce addr nonce) j = .ok () (j.setNonce addr nonce) :=
  adaptExcept_of_ok (bind_of_ok (loadAccount_of_none h))

/-- `incr_balance` of an account that can be loaded: an overflow is an answer, not an error. -/
theorem mapErr_incrBalance (h : j.dbError addr = none) (amount : U256) :
    mapErr (EvmInternals.incrBalance addr amount) j =
      .ok (j.incrBalance addr amount).1 (j.incrBalance addr amount).2 :=
  adaptExcept_of_ok (bind_of_ok (loadAccount_of_none h))

/-- `decr_balance` of an account that can be loaded: a shortage is an answer, not an error. -/
theorem mapErr_decrBalance (h : j.dbError addr = none) (amount : U256) :
    mapErr (EvmInternals.decrBalance addr amount) j =
      .ok (j.decrBalance addr amount).1 (j.decrBalance addr amount).2 :=
  adaptExcept_of_ok (bind_of_ok (loadAccount_of_none h))

/-- `sload` fails only if the slot cannot be loaded. -/
theorem mapErr_sload (h : j.dbError addr = none) (key : U256) :
    mapErr (EvmInternals.sload addr key) j =
      match j.storageError addr key with
      | some e => .error (mapInternalsError e) j
      | none => .ok (j.storage addr key) j := by
  have hload : EvmInternals.sload addr key j = EvmInternals.loadSlot addr key j :=
    bind_of_ok (loadAccount_of_none h)
  cases hs : j.storageError addr key with
  | some e => exact adaptExcept_of_error (by simp [hload, EvmInternals.loadSlot, hs])
  | none => exact adaptExcept_of_ok (by simp [hload, EvmInternals.loadSlot, hs])

/-- `sstore` fails only if the slot cannot be loaded. -/
theorem mapErr_sstore (h : j.dbError addr = none) (key value : U256) :
    mapErr (EvmInternals.sstore addr key value) j =
      match j.storageError addr key with
      -- the slot is loaded before it is written, and that load can fail
      | some e => .error (mapInternalsError e) j
      | none => .ok () (j.sstore addr key value) := by
  have hload := loadAccount_of_none h
  cases hs : j.storageError addr key with
  | some e =>
    refine adaptExcept_of_error ((bind_of_ok hload).trans (bind_of_error ?_))
    simp [EvmInternals.loadSlot, hs]
  | none =>
    refine adaptExcept_of_ok ((bind_of_ok hload).trans (bind_of_ok (a := j.storage addr key) ?_))
    simp [EvmInternals.loadSlot, hs]

/-! ## Account creation -/

/-- The journal after `ensure_account_created` has succeeded. -/
def ensured (j : Journal) (addr : Address) : Journal :=
  if j.isLoadedAsNotExisting addr then
    (if addr = mintPrecompileAddr then (j.setCode addr bytecode).setNonce addr 1 else j).touch addr
  else j

variable (j addr)

/-- `ensure_account_created` fails only if the account cannot be loaded, and has the effect
`ensured`. -/
theorem ensureAccountCreated_eq :
    ensureAccountCreated addr j =
      match j.dbError addr with
      | some e => .error (mapInternalsError e) j
      | none => .ok () (ensured j addr) := by
  cases hdb : j.dbError addr with
  | some e => exact bind_of_error (mapErr_loadAccount_of_error hdb)
  | none =>
    refine (bind_of_ok (mapErr_loadAccount hdb)).trans ?_
    change (if j.isLoadedAsNotExisting addr then _ else _ : MintPrecompileM Unit) j = _
    -- nothing happens to an account that exists
    by_cases hne : j.isLoadedAsNotExisting addr
    · by_cases hp : addr = mintPrecompileAddr
      · subst hp
        -- only the own account of the precompile gets code and a nonce
        have hcode := mapErr_setCode hdb bytecode
        have hnonce := mapErr_setNonce (j := j.setCode mintPrecompileAddr bytecode) hdb 1
        simp only [hne, ensured, if_true]
        refine (bind_of_ok hcode).trans ?_
        refine (bind_of_ok hnonce).trans ?_
        exact mapErr_touchAccount hdb
      · simp only [hne, hp, ensured, if_true, if_false]
        exact mapErr_touchAccount hdb
    · simp only [hne, ensured, Bool.false_eq_true, if_false]
      rfl

/-! What `ensured` leaves alone. Only the precompile's own account gets a nonce and code. -/

section Frame

variable (b : Address) (k : U256)

/-- `ensured` changes no balance. -/
@[simp] theorem balance_ensured : (ensured j addr).balance b = j.balance b := by
  unfold ensured
  split_ifs <;> simp

/-- `ensured` changes no storage. -/
@[simp] theorem storage_ensured : (ensured j addr).storage b k = j.storage b k := by
  unfold ensured
  split_ifs <;> simp

@[simp] theorem dbError_ensured : (ensured j addr).dbError = j.dbError := by
  unfold ensured
  split_ifs <;> rfl

@[simp] theorem storageError_ensured : (ensured j addr).storageError = j.storageError := by
  unfold ensured
  split_ifs <;> rfl

/-- `ensured` does not change how an account was loaded. -/
@[simp] theorem isLoadedAsNotExisting_ensured :
    (ensured j addr).isLoadedAsNotExisting b = j.isLoadedAsNotExisting b := by
  unfold ensured
  split_ifs <;> simp

/-- The only nonce that `ensured` sets is that of the precompile, if its account did not exist. -/
theorem nonce_ensured :
    (ensured j addr).nonce b =
      if b = mintPrecompileAddr ∧ addr = mintPrecompileAddr ∧
        j.isLoadedAsNotExisting mintPrecompileAddr then 1 else j.nonce b := by
  unfold ensured
  by_cases hp : addr = mintPrecompileAddr
  · subst hp
    by_cases hne : j.isLoadedAsNotExisting mintPrecompileAddr <;> simp [hne]
  · by_cases hne : j.isLoadedAsNotExisting addr <;> simp [hne, hp]

/-- The only code that `ensured` sets is that of the precompile, if its account did not exist. -/
theorem code_ensured :
    (ensured j addr).code b =
      if b = mintPrecompileAddr ∧ addr = mintPrecompileAddr ∧
        j.isLoadedAsNotExisting mintPrecompileAddr then bytecode else j.code b := by
  unfold ensured
  by_cases hp : addr = mintPrecompileAddr
  · subst hp
    by_cases hne : j.isLoadedAsNotExisting mintPrecompileAddr <;> simp [hne]
  · by_cases hne : j.isLoadedAsNotExisting addr <;> simp [hne, hp]

end Frame

/-! ## The allowlist -/

/-- Distinct addresses have distinct storage keys. -/
theorem allowlistKey_injective : Function.Injective allowlistKey := by
  intro a b h
  have h' := congrArg BitVec.toNat h
  simp only [allowlistKey, BitVec.toNat_setWidth] at h'
  have ha := a.isLt
  have hb := b.isLt
  apply BitVec.eq_of_toNat_eq
  omega

/-- The allowlist entry of `account`, as the storage holds it. -/
def allowed (j : Journal) (account : Address) : Bool :=
  j.storage mintPrecompileAddr (allowlistKey account) != 0

variable (account : Address)

/-- `is_allowlisted` reads the entry of an account, after it has ensured that the precompile exists.
-/
theorem isAllowlisted_eq :
    isAllowlisted account j =
      match j.dbError mintPrecompileAddr with
      | some e => .error (mapInternalsError e) j
      | none =>
        match j.storageError mintPrecompileAddr (allowlistKey account) with
        | some e => .error (mapInternalsError e) (ensured j mintPrecompileAddr)
        | none => .ok (allowed j account) (ensured j mintPrecompileAddr) := by
  have hcreate := ensureAccountCreated_eq j mintPrecompileAddr
  cases hdb : j.dbError mintPrecompileAddr with
  | some e =>
    simp only [hdb] at hcreate
    exact bind_of_error hcreate
  | none =>
    simp only [hdb] at hcreate
    refine (bind_of_ok hcreate).trans ?_
    -- creating the account has changed neither what can be loaded nor the slot
    have hdb' : (ensured j mintPrecompileAddr).dbError mintPrecompileAddr = none := by
      simpa using hdb
    have hload := mapErr_sload hdb' (allowlistKey account)
    simp only [storageError_ensured, storage_ensured] at hload
    cases hst : j.storageError mintPrecompileAddr (allowlistKey account) with
    | some e =>
      simp only [hst] at hload
      exact bind_of_error hload
    | none =>
      simp only [hst] at hload
      exact bind_of_ok hload

/-- The word stored for an allowlist entry. -/
def allowlistValue (value : Bool) : U256 := if value then 1 else 0

/-- `set_allowlisted` writes the entry of an account and touches the precompile. -/
theorem setAllowlisted_eq (value : Bool) :
    setAllowlisted account value j =
      match j.dbError mintPrecompileAddr with
      | some e => .error (mapInternalsError e) j
      | none =>
        match j.storageError mintPrecompileAddr (allowlistKey account) with
        | some e => .error (mapInternalsError e) (ensured j mintPrecompileAddr)
        | none => .ok () (((ensured j mintPrecompileAddr).sstore mintPrecompileAddr
            (allowlistKey account) (allowlistValue value)).touch mintPrecompileAddr) := by
  have hcreate := ensureAccountCreated_eq j mintPrecompileAddr
  cases hdb : j.dbError mintPrecompileAddr with
  | some e =>
    simp only [hdb] at hcreate
    exact bind_of_error hcreate
  | none =>
    simp only [hdb] at hcreate
    refine (bind_of_ok hcreate).trans ?_
    have hdb' : (ensured j mintPrecompileAddr).dbError mintPrecompileAddr = none := by
      simpa using hdb
    have hstore := mapErr_sstore hdb' (allowlistKey account) (allowlistValue value)
    simp only [storageError_ensured] at hstore
    cases hst : j.storageError mintPrecompileAddr (allowlistKey account) with
    | some e =>
      simp only [hst] at hstore
      exact bind_of_error hstore
    | none =>
      simp only [hst] at hstore
      refine (bind_of_ok hstore).trans ?_
      -- the account could be loaded before, so the touch does not fail
      exact mapErr_touchAccount hdb'

/-! ## Authorization -/

variable (self : MintPrecompile) (caller : Address)

/-- The error with which `ensure_authorized` rejects `caller`, if it does. -/
def authorizeError : Option MintPrecompileError :=
  if caller = self.admin then none
  else
    match j.dbError mintPrecompileAddr with
    | some e => some (mapInternalsError e)
    | none =>
      match j.storageError mintPrecompileAddr (allowlistKey caller) with
      | some e => some (mapInternalsError e)
      | none => if allowed j caller then none else some (haltStatic "unauthorized caller")

/-- The journal `ensure_authorized` leaves, whatever its verdict: looking up the allowlist creates
the precompile's account. -/
def authorizeJournal : Journal :=
  if caller = self.admin ∨ (j.dbError mintPrecompileAddr).isSome then j
  else ensured j mintPrecompileAddr

/-- `ensure_authorized` fails with `authorizeError` and has the effect `authorizeJournal` in any
case. -/
theorem ensureAuthorized_eq :
    self.ensureAuthorized caller j =
      match authorizeError j self caller with
      | some e => .error e (authorizeJournal j self caller)
      | none => .ok () (authorizeJournal j self caller) := by
  unfold ensureAuthorized
  by_cases hadmin : caller = self.admin
  · simp only [authorizeError, authorizeJournal, hadmin, if_true, true_or]
    rfl
  · simp only [authorizeError, authorizeJournal, hadmin, if_false, false_or]
    -- everyone but the admin goes through the lookup
    have hlist := isAllowlisted_eq j caller
    cases hdb : j.dbError mintPrecompileAddr with
    | some e =>
      simp only [hdb] at hlist
      exact bind_of_error hlist
    | none =>
      cases hst : j.storageError mintPrecompileAddr (allowlistKey caller) with
      | some e =>
        simp only [hdb, hst] at hlist
        exact bind_of_error hlist
      | none =>
        simp only [hdb, hst] at hlist
        refine (bind_of_ok hlist).trans ?_
        cases hallowed : allowed j caller <;> rfl

/-! What authorization leaves alone. -/

section Frame

variable (b : Address) (k : U256)

/-- The check of a caller changes no balance. -/
@[simp] theorem balance_authorizeJournal :
    (authorizeJournal j self caller).balance b = j.balance b := by
  unfold authorizeJournal
  split_ifs <;> simp

/-- The check of a caller changes no storage. -/
@[simp] theorem storage_authorizeJournal :
    (authorizeJournal j self caller).storage b k = j.storage b k := by
  unfold authorizeJournal
  split_ifs <;> simp

@[simp] theorem dbError_authorizeJournal :
    (authorizeJournal j self caller).dbError = j.dbError := by
  unfold authorizeJournal
  split_ifs <;> simp

@[simp] theorem isLoadedAsNotExisting_authorizeJournal :
    (authorizeJournal j self caller).isLoadedAsNotExisting b = j.isLoadedAsNotExisting b := by
  unfold authorizeJournal
  split_ifs <;> simp

end Frame

/-! ## Entry points -/

/-- Outcome of moving the balance of `addr` to `balance?`, or of failing with `reason` when the new
balance is not representable: the common part of `mint` and `burn` once the caller is authorized. -/
def moveBalance (j : Journal) (addr : Address) (balance? : Option U256) (reason : String) :
    EStateM.Result MintPrecompileError Journal Bytes :=
  match j.dbError addr with
  | some e => .error (mapInternalsError e) j
  | none =>
    match balance? with
    | none => .error (haltStatic reason) ((ensured j addr).touch addr)
    | some v => .ok [] (((ensured j addr).setBalance addr v).touch addr)

/-- `add_balance` halts on an overflow, and then has touched the account. -/
theorem addBalance_eq (h : j.dbError addr = none) (amount : U256) :
    addBalance addr amount j =
      match (j.balance addr).checkedAdd amount with
      | none => .error (haltStatic "balance overflow") (j.touch addr)
      | some v => .ok () (j.setBalance addr v) := by
  have hincr := mapErr_incrBalance h amount
  rw [Journal.incrBalance] at hincr
  cases hadd : (j.balance addr).checkedAdd amount <;> rw [hadd] at hincr <;> exact bind_of_ok hincr

/-- `sub_balance` halts without the funds, and then has touched the account. -/
theorem subBalance_eq (h : j.dbError addr = none) (amount : U256) :
    subBalance addr amount j =
      match (j.balance addr).checkedSub amount with
      | none => .error (haltStatic "insufficient balance") (j.touch addr)
      | some v => .ok () (j.setBalance addr v) := by
  have hdecr := mapErr_decrBalance h amount
  rw [Journal.decrBalance] at hdecr
  cases hsub : (j.balance addr).checkedSub amount <;> rw [hsub] at hdecr <;> exact bind_of_ok hdecr

/-- `mint` and `burn` differ only in the step `adjust` between creating and touching the account. -/
theorem adjust_eq_moveBalance {adjust : MintPrecompileM Unit} {balance? : Option U256}
    {reason : String}
    (hadjust : j.dbError addr = none → adjust (ensured j addr) =
      match balance? with
      | none => .error (haltStatic reason) ((ensured j addr).touch addr)
      | some v => .ok () ((ensured j addr).setBalance addr v)) :
    (do
      ensureAccountCreated addr
      adjust
      mapErr (EvmInternals.touchAccount addr)
      return [] : MintPrecompileM Bytes) j = moveBalance j addr balance? reason := by
  have hcreate := ensureAccountCreated_eq j addr
  unfold moveBalance
  cases hdb : j.dbError addr with
  | some e =>
    simp only [hdb] at hcreate
    exact bind_of_error hcreate
  | none =>
    simp only [hdb] at hcreate
    refine (bind_of_ok hcreate).trans ?_
    -- the account exists now, and its balance is still the old one
    have hadjust := hadjust hdb
    cases hb : balance? with
    | none =>
      simp only [hb] at hadjust
      exact bind_of_error hadjust
    | some v =>
      simp only [hb] at hadjust
      refine (bind_of_ok hadjust).trans ?_
      have hdb' : ((ensured j addr).setBalance addr v).dbError addr = none := by
        simpa [Journal.setBalance] using hdb
      exact bind_of_ok (mapErr_touchAccount hdb')

/-- Whatever follows `ensure_authorized` runs in the journal it leaves, or not at all. -/
theorem ensureAuthorized_bind_eq (next : MintPrecompileM Bytes) :
    (do
      self.ensureAuthorized caller
      next : MintPrecompileM Bytes) j =
      match authorizeError j self caller with
      | some e => .error e (authorizeJournal j self caller)
      | none => next (authorizeJournal j self caller) := by
  have hauth := ensureAuthorized_eq j self caller
  cases herr : authorizeError j self caller with
  | some e =>
    simp only [herr] at hauth
    exact bind_of_error hauth
  | none =>
    simp only [herr] at hauth
    exact bind_of_ok hauth

/-- `mint`: the caller is checked first, then the recipient is credited. -/
theorem dispatch_mint_eq (dest : Address) (amount : U256) :
    self.dispatch caller (.mint dest amount) j =
      match authorizeError j self caller with
      | some e => .error e (authorizeJournal j self caller)
      | none => moveBalance (authorizeJournal j self caller) dest
          ((j.balance dest).checkedAdd amount) "balance overflow" := by
  refine (ensureAuthorized_bind_eq j self caller _).trans ?_
  cases authorizeError j self caller with
  | some e => rfl
  | none =>
    refine adjust_eq_moveBalance _ _ fun hdb => ?_
    -- neither authorization nor account creation has changed the balance that is read here
    rw [addBalance_eq _ _ (by simpa using hdb), balance_ensured, balance_authorizeJournal]
    cases (j.balance dest).checkedAdd amount <;> rfl

/-- `burn`: the caller is checked first, then the account is debited. It need not be the caller's.
-/
theorem dispatch_burn_eq (source : Address) (amount : U256) :
    self.dispatch caller (.burn source amount) j =
      match authorizeError j self caller with
      | some e => .error e (authorizeJournal j self caller)
      | none => moveBalance (authorizeJournal j self caller) source
          ((j.balance source).checkedSub amount) "insufficient balance" := by
  refine (ensureAuthorized_bind_eq j self caller _).trans ?_
  cases authorizeError j self caller with
  | some e => rfl
  | none =>
    refine adjust_eq_moveBalance _ _ fun hdb => ?_
    rw [subBalance_eq _ _ (by simpa using hdb), balance_ensured, balance_authorizeJournal]
    cases (j.balance source).checkedSub amount <;> rfl

/-- Outcome of an `addToAllowList` or `removeFromAllowList` call. -/
def editAllowlist (value : Bool) : EStateM.Result MintPrecompileError Journal Bytes :=
  if caller = self.admin then
    match setAllowlisted account value j with
    | .ok _ j' => .ok [] j'
    | .error e j' => .error e j'
  else .error (haltStatic "unauthorized caller") j

/-- The entry point that writes `value` for `account`. -/
def editCall (value : Bool) : INativeTokenCalls :=
  if value then .addToAllowList account else .removeFromAllowList account

/-- Both edits of the allowlist are `editAllowlist` with the value that they write. -/
theorem dispatch_editCall_eq (value : Bool) :
    self.dispatch caller (editCall account value) j =
      editAllowlist j account self caller value := by
  -- both edits are the same program, up to the value they store
  have hdispatch : self.dispatch caller (editCall account value) =
      (do self.ensureAdmin caller; setAllowlisted account value; return []) := by
    cases value <;> rfl
  rw [hdispatch, editAllowlist]
  by_cases hadmin : caller = self.admin
  · have hok : self.ensureAdmin caller j = .ok () j := by simp [ensureAdmin, hadmin, pure_apply]
    rw [if_pos hadmin]
    refine (bind_of_ok hok).trans ?_
    cases hset : setAllowlisted account value j with
    | ok _ j' => exact bind_of_ok hset
    | error e j' => exact bind_of_error hset
  · have herr : self.ensureAdmin caller j = .error (haltStatic "unauthorized caller") j := by
      simp [ensureAdmin, hadmin, throw_apply]
    rw [if_neg hadmin]
    exact bind_of_error herr

/-- `addToAllowList` writes `true`. -/
theorem dispatch_addToAllowList_eq :
    self.dispatch caller (.addToAllowList account) j =
      editAllowlist j account self caller true :=
  dispatch_editCall_eq j account self caller true

/-- `removeFromAllowList` writes `false`. -/
theorem dispatch_removeFromAllowList_eq :
    self.dispatch caller (.removeFromAllowList account) j =
      editAllowlist j account self caller false :=
  dispatch_editCall_eq j account self caller false

/-- `allowlist` returns the entry of an account, whoever asks. -/
theorem dispatch_allowlist_eq :
    self.dispatch caller (.allowlist account) j =
      match isAllowlisted account j with
      | .ok b j' => .ok (abiEncodeBool b) j'
      | .error e j' => .error e j' := by
  cases hlist : isAllowlisted account j with
  | ok b j' => exact bind_of_ok hlist
  | error e j' => exact bind_of_error hlist

/-- The journal `call` leaves is the one its dispatch leaves. -/
theorem journal_call (abiDecode : Bytes → Except String INativeTokenCalls)
    (input : PrecompileInput) :
    (self.call abiDecode input).2 =
      match abiDecode input.data with
      | .error _ => input.internals
      | .ok op => (self.dispatch input.caller op input.internals).state := by
  unfold call
  cases abiDecode input.data with
  | error e => rfl
  | ok op =>
    simp only
    rcases self.dispatch input.caller op input.internals with ⟨bytes, j'⟩ | ⟨_ | _, j'⟩ <;> rfl

/-! ## The mark of a created account

Nonce `1` and the code `0xFE`: once the precompile's account carries them, no call removes them. -/

/-- The precompile's account carries the nonce and code that creation gives it. -/
def Marked : Prop := j.nonce mintPrecompileAddr = 1 ∧ j.code mintPrecompileAddr = bytecode

instance : Decidable (Marked j) := by
  unfold Marked
  infer_instance

variable {j}

/-- What keeps nonce and code of the precompile keeps its mark. -/
theorem Marked.of_frame {j' : Journal} (h : Marked j)
    (hnonce : j'.nonce mintPrecompileAddr = j.nonce mintPrecompileAddr)
    (hcode : j'.code mintPrecompileAddr = j.code mintPrecompileAddr) : Marked j' :=
  ⟨hnonce.trans h.1, hcode.trans h.2⟩

/-- A marked precompile stays marked when an account is ensured. -/
theorem Marked.ensured (h : Marked j) (addr : Address) : Marked (ensured j addr) := by
  unfold Marked
  rw [nonce_ensured, code_ensured]
  split_ifs
  · exact ⟨rfl, rfl⟩
  · exact h

/-- To ensure the precompile marks it, if its account did not exist. -/
theorem marked_ensured (h : j.isLoadedAsNotExisting mintPrecompileAddr = true) :
    Marked (MintPrecompile.ensured j mintPrecompileAddr) := by
  simp [Marked, nonce_ensured, code_ensured, h]

/-- A marked precompile stays marked when a balance is moved. -/
theorem Marked.moveBalance (h : Marked j) (addr : Address) (balance? : Option U256)
    (reason : String) : Marked (moveBalance j addr balance? reason).state := by
  unfold MintPrecompile.moveBalance
  cases j.dbError addr with
  | some e => exact h
  -- neither a new balance nor a touch changes nonce or code
  | none => cases balance? <;> exact (h.ensured addr).of_frame (by simp) (by simp)

end MintPrecompile

end EvReth
