import EvReth.Revm.Handler.Transfers
import EvReth.Revm.Handler.Validation
import EvReth.Revm.Recovered
import EvReth.Revm.WorldState

/-!
# The transaction pool

`EvTransactionValidator` (`crates/node/src/txpool.rs`): the checks that the pool adds to reth's
validator for EvNode transactions, on the shape of a batch, the sponsor's signature and the funds of
sender and sponsor. They are written independently of those of the handler, and agree with them.
-/

namespace EvReth

open EStateM

/-- `EvTxPoolError`. -/
inductive EvTxPoolError where
  | emptyCalls
  | invalidCreatePosition
  | invalidSponsorSignature
  | stateProvider (msg : String)
  | deployNotAllowed
  deriving DecidableEq, Repr

/-- `InvalidPoolTransactionError`, as far as it occurs here. -/
inductive InvalidPoolTransactionError where
  | overdraft (cost balance : U256)
  | intrinsicGasTooLow
  | other (e : EvTxPoolError)
  deriving DecidableEq, Repr

/-- `AccountInfoReader::basic_account`. -/
abbrev StateReader := Address → Except String (Option AccountInfo)

/-- What the validator reads from the client. -/
structure PoolClient where
  latest : Except String StateReader
  bestBlockNumber : Except String U64

/-- A check of the pool. The state is the reader that an earlier check has opened. -/
abbrev PoolM := EStateM InvalidPoolTransactionError (Option StateReader)

/-- The cost of an EvNode transaction: all gas at the maximal price, and the value, saturating. -/
def EvNodeTransaction.cost (tx : EvNodeTransaction) : U256 :=
  ((tx.maxFeePerGas.setWidth 256 : U256).saturatingMul (tx.gasLimit.setWidth 256)).saturatingAdd
    tx.value

/-- `EvPooledTransaction`, without the sidecar of a blob transaction. -/
structure EvPooledTransaction (Payload : TxType → Type) where
  transaction : EvTxEnvelope Payload
  signer : Address

/-- `cost`. -/
def EvPooledTransaction.cost {Payload : TxType → Type} (eth : EthereumSupport Payload)
    (pooled : EvPooledTransaction Payload) : U256 :=
  match pooled.transaction with
  | .ethereum tx => eth.cost tx
  | .evNode tx _ => tx.cost

/-- `EvTransactionValidator`, without the validator it wraps. -/
structure EvTransactionValidator where
  client : PoolClient
  deployAllowlist : Option DeployAllowlistSettings

/-- A provider error, as the pool reports it. -/
def liftProvider {α : Type} (x : Except String α) : PoolM α := fun state =>
  match x with
  | .ok a => .ok a state
  | .error e => .error (.other (.stateProvider e)) state

namespace EvTransactionValidator

variable {Payload : TxType → Type} (self : EvTransactionValidator) (eth : EthereumSupport Payload)
  (crypto : Crypto)

/-- `check_sender_overdraft`. -/
def checkSenderOverdraft (pooled : EvPooledTransaction Payload) (senderBalance : U256) :
    PoolM Unit := do
  if senderBalance.toNat < (pooled.cost eth).toNat then
    throw (.overdraft (pooled.cost eth) senderBalance)

/-- `validate_evnode_calls`. -/
def validateEvnodeCalls (tx : EvNodeTransaction) : PoolM Unit := do
  if tx.calls.isEmpty then
    throw (.other .emptyCalls)
  if (tx.calls.drop 1).any (·.dest.isCreate) then
    throw (.other .invalidCreatePosition)

/-- `ensure_state`: open the latest state unless a state is open. -/
def ensureState : PoolM StateReader := do
  match (← get) with
  | some reader => return reader
  | none =>
    let reader ← liftProvider self.client.latest
    set (some reader)
    return reader

/-- `validate_sponsor_balance`. -/
def validateSponsorBalance (sponsor : Address) (gasCost : U256) : PoolM U256 := do
  let reader ← self.ensureState
  let account ← liftProvider (reader sponsor)
  let balance := (account.getD {}).balance
  if balance.toNat < gasCost.toNat then
    throw (.overdraft gasCost balance)
  return balance

/-- The deploy check of `validate_evnode`, made for standard and EvNode transactions. -/
def ensureDeployAllowed (pooled : EvPooledTransaction Payload) : PoolM Unit := do
  match self.deployAllowlist with
  | none => return
  | some settings =>
    let isTopLevelCreate := match pooled.transaction with
      | .ethereum tx => (eth.kind tx).isCreate
      | .evNode tx _ => (tx.calls.head?.map (·.dest.isCreate)).getD false
    let blockNumber ← liftProvider self.client.bestBlockNumber
    match checkDeployAllowed (some settings) pooled.signer isTopLevelCreate blockNumber with
    | .error _ => throw (.other .deployNotAllowed)
    | .ok _ => return

/-- The checks of `validate_evnode` on the funds of sender and sponsor of an EvNode transaction. -/
def validateEvnodeFunds (pooled : EvPooledTransaction Payload) (tx : EvNodeTransaction)
    (senderBalance : U256) : PoolM (Option U256) :=
  match tx.feePayerSignature with
  | some signature =>
    match tx.recoverSponsor crypto pooled.signer signature with
    | none => throw (.other .invalidSponsorSignature)
    | some sponsor => do
      let gasCost : U256 :=
        (tx.maxFeePerGas.setWidth 256 : U256).saturatingMul (tx.gasLimit.setWidth 256)
      let sponsorBalance ← self.validateSponsorBalance sponsor gasCost
      -- the sender pays the values of the calls
      let callValue := tx.value
      if callValue ≠ 0 ∧ senderBalance.toNat < callValue.toNat then
        throw (.overdraft callValue senderBalance)
      return some sponsorBalance
  | none => do
    checkSenderOverdraft eth pooled senderBalance
    return none

/-- `validate_evnode`: the balance of the sponsor, if there is one. -/
def validateEvnode (pooled : EvPooledTransaction Payload) (senderBalance : U256) :
    PoolM (Option U256) := do
  self.ensureDeployAllowed eth pooled
  match pooled.transaction with
  | .ethereum _ =>
    checkSenderOverdraft eth pooled senderBalance
    return none
  | .evNode tx _ =>
    validateEvnodeCalls tx
    self.validateEvnodeFunds eth crypto pooled tx senderBalance

/-! ## What the pool accepts -/

/-- The accounts of a state, as the pool reads them. -/
def stateReader (w : WorldState) : StateReader := fun addr => .ok ((w addr).map DbAccount.info)

/-- The pool reads from the state `w`: it is open already, or it is the latest one. -/
def Reads (w : WorldState) (state : Option StateReader) : Prop :=
  state = some (stateReader w) ∨ state = none ∧ self.client.latest = .ok (stateReader w)

variable {self eth crypto} {w : WorldState} {state : Option StateReader}

theorem balance_getD (w : WorldState) (addr : Address) :
    (((w addr).map DbAccount.info).getD {}).balance = w.load.balance addr := by
  simp only [WorldState.load, Journal.balance]
  cases w addr <;> rfl

/-- The state is opened once, and is the one that the pool reads. -/
theorem ensureState_eq (hreads : self.Reads w state) :
    self.ensureState state = .ok (stateReader w) (some (stateReader w)) := by
  rcases hreads with rfl | ⟨rfl, hlatest⟩
  · rfl
  · refine bind_get.trans ?_
    simp only [hlatest]
    rfl

/-- The sponsor's balance is compared with the cost of the gas. -/
theorem validateSponsorBalance_eq (hreads : self.Reads w state) (sponsor : Address)
    (gasCost : U256) :
    self.validateSponsorBalance sponsor gasCost state =
      if (w.load.balance sponsor).toNat < gasCost.toNat then
        .error (.overdraft gasCost (w.load.balance sponsor)) (some (stateReader w))
      else .ok (w.load.balance sponsor) (some (stateReader w)) := by
  refine (bind_of_ok (ensureState_eq hreads)).trans ?_
  have hread : liftProvider (stateReader w sponsor) (some (stateReader w)) =
      .ok ((w sponsor).map DbAccount.info) (some (stateReader w)) := rfl
  refine (bind_of_ok hread).trans ?_
  simp only [balance_getD]
  split_ifs <;> rfl

/-- The shape of the calls is checked: at least one, and no creation but the first. -/
theorem validateEvnodeCalls_eq (tx : EvNodeTransaction) :
    validateEvnodeCalls tx state =
      if tx.calls.isEmpty then .error (.other .emptyCalls) state
      else if (tx.calls.drop 1).any (·.dest.isCreate) then
        .error (.other .invalidCreatePosition) state
      else .ok () state := by
  unfold validateEvnodeCalls
  split_ifs <;> rfl

/-- The sender's balance is compared with the cost of the transaction. -/
theorem checkSenderOverdraft_eq (pooled : EvPooledTransaction Payload) (senderBalance : U256) :
    checkSenderOverdraft eth pooled senderBalance state =
      if senderBalance.toNat < (pooled.cost eth).toNat then
        .error (.overdraft (pooled.cost eth) senderBalance) state
      else .ok () state := by
  unfold checkSenderOverdraft
  split_ifs <;> rfl

/-- The product of a `u128` and a `u64` does not saturate as a `U256`. -/
theorem toNat_gasCost (tx : EvNodeTransaction) :
    ((tx.maxFeePerGas.setWidth 256 : U256).saturatingMul (tx.gasLimit.setWidth 256)).toNat =
      tx.gasLimit.toNat * tx.maxFeePerGas.toNat := by
  rw [BitVec.toNat_saturatingMul, Nat.mul_comm, ← BitVec.toNat_saturatingMul,
    toNat_saturatingMul_setWidth]

variable {tx : EvNodeTransaction} {executorSignature : Signature} {sender : Address}

/-- The sponsor of a transaction: its signature is there and recovers to an address. -/
def recoveredSponsor (crypto : Crypto) (tx : EvNodeTransaction) (sender : Address) :
    Option Address :=
  tx.feePayerSignature.bind fun signature => tx.recoverSponsor crypto sender signature

/-- The funds that the checks ask for. -/
def Funded (crypto : Crypto) (w : WorldState) (tx : EvNodeTransaction) (sender : Address) : Prop :=
  match tx.feePayerSignature with
  | none => tx.cost.toNat ≤ (w.load.balance sender).toNat
  | some signature => ∃ sponsor, tx.recoverSponsor crypto sender signature = some sponsor ∧
      tx.gasLimit.toNat * tx.maxFeePerGas.toNat ≤ (w.load.balance sponsor).toNat ∧
      tx.value.toNat ≤ (w.load.balance sender).toNat

/-- With a valid sponsor, the sponsor has to cover the gas and the sender the values. -/
theorem validateEvnodeFunds_of_sponsor (hreads : self.Reads w state) {signature : Signature}
    (hsig : tx.feePayerSignature = some signature) {sponsor : Address}
    (hsponsor : tx.recoverSponsor crypto sender signature = some sponsor) :
    self.validateEvnodeFunds eth crypto ⟨.evNode tx executorSignature, sender⟩ tx
        (w.load.balance sender) state =
      if (w.load.balance sponsor).toNat < tx.gasLimit.toNat * tx.maxFeePerGas.toNat then
        .error (.overdraft
          ((tx.maxFeePerGas.setWidth 256 : U256).saturatingMul (tx.gasLimit.setWidth 256))
          (w.load.balance sponsor)) (some (stateReader w))
      else if (w.load.balance sender).toNat < tx.value.toNat then
        .error (.overdraft tx.value (w.load.balance sender)) (some (stateReader w))
      else .ok (some (w.load.balance sponsor)) (some (stateReader w)) := by
  have hbalance := validateSponsorBalance_eq hreads sponsor
    ((tx.maxFeePerGas.setWidth 256 : U256).saturatingMul (tx.gasLimit.setWidth 256))
  rw [toNat_gasCost] at hbalance
  simp only [validateEvnodeFunds, hsig, hsponsor]
  by_cases hgas : (w.load.balance sponsor).toNat < tx.gasLimit.toNat * tx.maxFeePerGas.toNat
  · rw [if_pos hgas] at hbalance ⊢
    exact bind_of_error hbalance
  · rw [if_neg hgas] at hbalance ⊢
    refine (bind_of_ok hbalance).trans ?_
    -- a value that is too large is not zero
    have hvalue : (tx.value ≠ 0 ∧ (w.load.balance sender).toNat < tx.value.toNat) ↔
        (w.load.balance sender).toNat < tx.value.toNat := by
      refine and_iff_right_of_imp fun hlt hzero => ?_
      rw [hzero] at hlt
      exact Nat.not_lt_zero _ hlt
    simp only [hvalue]
    split_ifs <;> rfl

/-- Without a sponsor, the sender has to cover everything. -/
theorem validateEvnodeFunds_of_none (hsig : tx.feePayerSignature = none) :
    self.validateEvnodeFunds eth crypto ⟨.evNode tx executorSignature, sender⟩ tx
        (w.load.balance sender) state =
      if (w.load.balance sender).toNat < tx.cost.toNat then
        .error (.overdraft tx.cost (w.load.balance sender)) state
      else .ok none state := by
  have hcheck : checkSenderOverdraft eth
      (⟨.evNode tx executorSignature, sender⟩ : EvPooledTransaction Payload)
      (w.load.balance sender) state = _ := checkSenderOverdraft_eq _ _
  have hcost : EvPooledTransaction.cost eth ⟨.evNode tx executorSignature, sender⟩ = tx.cost := rfl
  rw [hcost] at hcheck
  simp only [validateEvnodeFunds, hsig]
  by_cases hfunds : (w.load.balance sender).toNat < tx.cost.toNat
  · rw [if_pos hfunds] at hcheck ⊢
    exact bind_of_error hcheck
  · rw [if_neg hfunds] at hcheck ⊢
    exact bind_of_ok hcheck

/-- The funds are checked exactly; the balance that is returned is that of the sponsor. -/
theorem validateEvnodeFunds_cases (hreads : self.Reads w state) :
    (Funded crypto w tx sender ∧
        ∃ state', self.validateEvnodeFunds eth crypto ⟨.evNode tx executorSignature, sender⟩ tx
            (w.load.balance sender) state =
          .ok ((recoveredSponsor crypto tx sender).map w.load.balance) state') ∨
      (¬ Funded crypto w tx sender ∧
        ∃ e state', self.validateEvnodeFunds eth crypto ⟨.evNode tx executorSignature, sender⟩ tx
          (w.load.balance sender) state = .error e state') := by
  unfold Funded recoveredSponsor
  cases hsig : tx.feePayerSignature with
  | none =>
    rw [validateEvnodeFunds_of_none hsig]
    split_ifs with hfunds
    · exact .inr ⟨Nat.not_le.mpr hfunds, _, _, rfl⟩
    · exact .inl ⟨Nat.le_of_not_lt hfunds, _, rfl⟩
  | some signature =>
    cases hsponsor : tx.recoverSponsor crypto sender signature with
    | none =>
      refine .inr ⟨?_, .other .invalidSponsorSignature, state, ?_⟩
      · rintro ⟨sponsor, hrecover, -⟩
        rw [hsponsor] at hrecover
        cases hrecover
      · simp only [validateEvnodeFunds, hsig, hsponsor]
        rfl
    | some sponsor =>
      -- the sponsor must have the gas and the sender the values
      rw [validateEvnodeFunds_of_sponsor hreads hsig hsponsor]
      split_ifs with hgas hvalue
      · refine .inr ⟨?_, _, _, rfl⟩
        rintro ⟨sponsor', hrecover, hle, -⟩
        obtain rfl := Option.some.inj (hsponsor.symm.trans hrecover)
        omega
      · refine .inr ⟨?_, _, _, rfl⟩
        rintro ⟨-, -, -, hle⟩
        omega
      · refine .inl ⟨⟨sponsor, hsponsor, by omega, by omega⟩, some (stateReader w), ?_⟩
        simp only [Option.bind_some, hsponsor, Option.map_some]

/-- The shape that a batch must have. -/
def WellShaped (calls : List Call) : Prop :=
  calls.isEmpty = false ∧ (calls.drop 1).any (·.dest.isCreate) = false

/-- Without an allowlist, an EvNode transaction is accepted exactly if it has the right shape and is
funded. -/
theorem validateEvnode_cases (hallow : self.deployAllowlist = none) (hreads : self.Reads w state) :
    (WellShaped tx.calls ∧ Funded crypto w tx sender ∧
        ∃ state', self.validateEvnode eth crypto ⟨.evNode tx executorSignature, sender⟩
            (w.load.balance sender) state =
          .ok ((recoveredSponsor crypto tx sender).map w.load.balance) state') ∨
      (¬ (WellShaped tx.calls ∧ Funded crypto w tx sender) ∧
        ∃ e state', self.validateEvnode eth crypto ⟨.evNode tx executorSignature, sender⟩
          (w.load.balance sender) state = .error e state') := by
  have hdeploy : self.ensureDeployAllowed eth
      (⟨.evNode tx executorSignature, sender⟩ : EvPooledTransaction Payload) state =
        .ok () state := by
    unfold ensureDeployAllowed
    rw [hallow]
    rfl
  have hbegin : self.validateEvnode eth crypto ⟨.evNode tx executorSignature, sender⟩
      (w.load.balance sender) state =
        (validateEvnodeCalls tx >>= fun _ => self.validateEvnodeFunds eth crypto
          ⟨.evNode tx executorSignature, sender⟩ tx (w.load.balance sender)) state :=
    bind_of_ok hdeploy
  have hcalls : validateEvnodeCalls tx state = _ := validateEvnodeCalls_eq tx
  rw [hbegin]
  -- the checks in the order of the source: no call, a later creation, the funds
  by_cases hempty : tx.calls.isEmpty = true
  · rw [if_pos hempty] at hcalls
    exact .inr ⟨fun h => by simp [WellShaped, hempty] at h, _, _, bind_of_error hcalls⟩
  rw [if_neg hempty] at hcalls
  by_cases hcreate : (tx.calls.drop 1).any (·.dest.isCreate) = true
  · rw [if_pos hcreate] at hcalls
    refine .inr ⟨fun h => ?_, _, _, bind_of_error hcalls⟩
    rw [WellShaped, hcreate] at h
    exact Bool.noConfusion h.1.2
  rw [if_neg hcreate] at hcalls
  have hshape : WellShaped tx.calls := ⟨by simpa using hempty, by simpa using hcreate⟩
  rw [bind_of_ok hcalls]
  rcases validateEvnodeFunds_cases hreads with ⟨hfunds, hok⟩ | ⟨hfunds, herr⟩
  · exact .inl ⟨hshape, hfunds, hok⟩
  · exact .inr ⟨fun h => hfunds h.2, herr⟩

/-! ## The handler makes the same decisions -/

section Handler

open EvHandler EvTxEnvelope

variable {handler : EvHandler} {inner : Mainnet} {ctx : Ctx}

/-- `validate_initial_tx_gas` past the checks of the shape: the gas of a batch, or of one call. -/
def initialGasOfCalls (inner : Mainnet) (calls : List Call) : HandlerM InitialAndFloorGas := do
  let ctx ← get
  if 1 < calls.length then
    match validateBatchInitialTxGas inner ctx.cfg ctx.tx.inner calls with
    | .error e => throw (.error (.transaction e))
    | .ok gas => return gas
  else inner.validateInitialTxGas

/-- Calls of the right shape are judged by their gas. -/
theorem validateInitialTxGas_of_shape {calls : List Call} (hcalls : ctx.tx.batchCalls = some calls)
    (hshape : WellShaped calls) :
    validateInitialTxGas inner ctx = initialGasOfCalls inner calls ctx := by
  obtain ⟨hempty, hcreate⟩ := hshape
  refine bind_get.trans ?_
  simp only [hcalls, hempty, hcreate, Bool.false_eq_true, if_false]
  rfl

/-- Calls of the wrong shape are refused. -/
theorem validateInitialTxGas_of_not_shape {calls : List Call}
    (hcalls : ctx.tx.batchCalls = some calls) (hshape : ¬ WellShaped calls) :
    ∃ msg, validateInitialTxGas inner ctx = .error (.error (.custom msg)) ctx := by
  by_cases hempty : calls.isEmpty = true
  · refine ⟨"evnode transaction must include at least one call", bind_get.trans ?_⟩
    simp only [hcalls, hempty, if_true]
    rfl
  · have hcreate : (calls.drop 1).any (·.dest.isCreate) = true := by
      by_contra hnot
      exact hshape ⟨by simpa using hempty, by simpa using hnot⟩
    refine ⟨"only the first call may be CREATE", bind_get.trans ?_⟩
    simp only [hcalls, hempty, hcreate, if_true, Bool.false_eq_true, if_false]
    rfl

/-- The deduction of a sponsored transaction with the right nonce, where all accounts load. -/
theorem deduct_of_sponsor {j : Journal} {sponsor : Address}
    (hsponsor : ctx.tx.sponsor = some sponsor) (hdb : ∀ a, j.dbError a = none)
    (hcheck : ctx.cfg.isBalanceCheckDisabled = false)
    (hnonce : ctx.tx.inner.nonce = j.nonce ctx.tx.inner.caller) :
    (RefusedAsContract (j.accounts ctx.tx.inner.caller).info ctx.cfg.isEip3607Disabled →
        deduct ctx j = .error (.error (.transaction .rejectCallerWithCode)) j) ∧
      (¬ RefusedAsContract (j.accounts ctx.tx.inner.caller).info ctx.cfg.isEip3607Disabled →
        ((∃ j', deduct ctx j = .ok () j') ↔
          ctx.tx.batchTotalValue.toNat ≤ (j.balance ctx.tx.inner.caller).toNat ∧
            ctx.tx.inner.gasLimit.toNat * ctx.tx.inner.maxFeePerGas.toNat ≤
              (j.balance sponsor).toNat)) := by
  have hmax : (maxGasCost ctx.tx.inner).toNat =
      ctx.tx.inner.gasLimit.toNat * ctx.tx.inner.maxFeePerGas.toNat :=
    toNat_saturatingMul_setWidth _ _
  have hval := validateAccountNonceAndCode_of_nonce hnonce ctx.cfg.isEip3607Disabled
    ctx.cfg.isNonceCheckDisabled
  simp only [deduct, hsponsor]
  rw [validateAndDeductSponsoredTx_eq, hval]
  simp only [hdb, hcheck]
  constructor
  · intro hcode
    rw [if_pos hcode]
  · intro hcode
    simp only [if_neg hcode, Bool.not_false, Bool.true_and, decide_eq_true_eq]
    have hcaller : (j.accounts ctx.tx.inner.caller).info.balance =
        j.balance ctx.tx.inner.caller := rfl
    rw [hcaller, deductSponsor_eq]
    -- the increment of the nonce changes no balance
    have hbump : ((bumpIfCall ctx.tx.inner.kind.isCall ctx.tx.inner.caller j).accounts
        sponsor).info.balance = j.balance sponsor := balance_bumpIfCall _ _ _ _
    simp only [dbError_bumpIfCall, hdb, hbump, hmax, Bool.not_false, Bool.true_and,
      decide_eq_true_eq]
    split_ifs with hvalue hgas
    · refine iff_of_false ?_ (by omega)
      rintro ⟨j', h⟩
      cases h
    · refine iff_of_false ?_ (by omega)
      rintro ⟨j', h⟩
      cases h
    · exact iff_of_true ⟨_, rfl⟩ ⟨by omega, by omega⟩

/-- The deduction of a normal transaction with the right nonce, of a caller who has the payment. -/
theorem deduct_of_no_sponsor {j : Journal} (hsponsor : ctx.tx.sponsor = none)
    (hdb : ∀ a, j.dbError a = none)
    (hnonce : ctx.tx.inner.nonce = j.nonce ctx.tx.inner.caller)
    (hblob : ctx.tx.inner.txType ≠ .eip4844)
    (hbound : (j.balance ctx.tx.inner.caller).toNat < 2 ^ 128)
    (hfunds : ctx.tx.inner.gasLimit.toNat * ctx.tx.inner.maxFeePerGas.toNat +
      ctx.tx.inner.value.toNat ≤ (j.balance ctx.tx.inner.caller).toNat) :
    (RefusedAsContract (j.accounts ctx.tx.inner.caller).info ctx.cfg.isEip3607Disabled →
        deduct ctx j = .error (.error (.transaction .rejectCallerWithCode)) j) ∧
      (¬ RefusedAsContract (j.accounts ctx.tx.inner.caller).info ctx.cfg.isEip3607Disabled →
        ∃ j', deduct ctx j = .ok () j') := by
  have hval := validateAccountNonceAndCode_of_nonce hnonce ctx.cfg.isEip3607Disabled
    ctx.cfg.isNonceCheckDisabled
  -- the effective price is at most the one that the funds were checked for
  have hprice := Nat.mul_le_mul_left ctx.tx.inner.gasLimit.toNat
    (ctx.tx.inner.effectiveGasPrice_le_maxFeePerGas (ctx.block.basefee.setWidth 128))
  have hcost : blobCost ctx.tx.inner (ctx.block.blobGasprice.getD 0) = 0 := if_neg hblob
  obtain ⟨v, hfee⟩ : ∃ v, calculateCallerFee (j.balance ctx.tx.inner.caller) ctx.tx.inner
      (ctx.block.basefee.setWidth 128) (ctx.block.blobGasprice.getD 0)
      ctx.cfg.isBalanceCheckDisabled = .ok v :=
    calculateCallerFee_of_le _ _ _ _ (by omega) (by omega)
  have hcaller : (j.accounts ctx.tx.inner.caller).info.balance =
      j.balance ctx.tx.inner.caller := rfl
  simp only [deduct, hsponsor]
  rw [validateAndDeductNormalTx_eq, hval, hcaller, hfee]
  simp only [hdb]
  constructor
  · intro hcode
    rw [if_pos hcode]
  · intro hcode
    rw [if_neg hcode]
    exact ⟨_, rfl⟩

/-- The handler begins with the environment of the transaction on the state `w`. -/
structure Executes (eth : EthereumSupport Payload) (crypto : Crypto) (w : WorldState)
    (tx : EvNodeTransaction) (executorSignature : Signature) (sender : Address) (ctx : Ctx) :
    Prop where
  tx_eq : ctx.tx = EvTxEnv.fromRecoveredTx eth crypto (.evNode tx executorSignature) sender
  journal_eq : ctx.journal = w.load
  balanceCheck : ctx.cfg.isBalanceCheckDisabled = false

/-- The sponsor of the environment is the one that was recovered. -/
theorem sponsor_fromRecoveredTx :
    (EvTxEnv.fromRecoveredTx eth crypto (.evNode tx executorSignature) sender).sponsor =
      recoveredSponsor crypto tx sender := by
  simp only [EvTxEnv.fromRecoveredTx, EvTxEnv.fromEvNode, recoveredSponsor]
  cases tx.feePayerSignature with
  | none => rfl
  | some signature =>
    simp only [Option.bind_some]
    cases tx.recoverSponsor crypto sender signature <;> rfl

/-- The sponsor's signature is invalid if it is there and nobody is recovered from it. -/
theorem sponsorSignatureInvalid_fromRecoveredTx :
    (EvTxEnv.fromRecoveredTx eth crypto (.evNode tx executorSignature)
        sender).sponsorSignatureInvalid =
      (tx.feePayerSignature.isSome && (recoveredSponsor crypto tx sender).isNone) := by
  simp only [EvTxEnv.fromRecoveredTx, EvTxEnv.fromEvNode, recoveredSponsor]
  cases tx.feePayerSignature with
  | none => rfl
  | some signature =>
    simp only [Option.bind_some]
    cases tx.recoverSponsor crypto sender signature <;> rfl

/-- The cost is the exact sum, or the largest word. -/
theorem toNat_cost (tx : EvNodeTransaction) :
    tx.cost.toNat =
      min (tx.gasLimit.toNat * tx.maxFeePerGas.toNat + tx.value.toNat) (2 ^ 256 - 1) := by
  rw [EvNodeTransaction.cost, BitVec.toNat_saturatingAdd, toNat_gasCost]

/-- The check of the handler against the state is its deduction, unless the sponsor's signature is
invalid. -/
theorem validateAgainstState_of_executes (hhandler : handler.deployAllowlist = none)
    (hexec : Executes eth crypto w tx executorSignature sender ctx) :
    handler.validateAgainstStateAndDeductCaller ctx =
      if tx.feePayerSignature.isSome && (recoveredSponsor crypto tx sender).isNone then
        .error (.error (.custom "invalid sponsor signature")) ctx
      else onJournal (deduct ctx) ctx := by
  have hinvalid : ctx.tx.sponsorSignatureInvalid = _ :=
    hexec.tx_eq ▸ sponsorSignatureInvalid_fromRecoveredTx
  rw [validateAgainstStateAndDeductCaller_eq, if_neg (not_deployDenied hhandler), hinvalid]

theorem onJournal_ok_iff {x : JournalM Unit} :
    (∃ ctx', onJournal x ctx = .ok () ctx') ↔ ∃ j', x ctx.journal = .ok () j' := by
  unfold onJournal
  cases x ctx.journal with
  | ok u j => exact iff_of_true ⟨_, rfl⟩ ⟨_, rfl⟩
  | error e j => exact iff_of_false (fun ⟨_, h⟩ => by cases h) fun ⟨_, h⟩ => by cases h

theorem onJournal_of_error {x : JournalM Unit} {f : Failure}
    (h : x ctx.journal = .error f ctx.journal) : onJournal x ctx = .error f ctx := by
  simp only [onJournal, h]

/-- A funded transaction with the right nonce passes the deduction, unless its sender is a
contract. -/
theorem deduct_of_funded (hexec : Executes eth crypto w tx executorSignature sender ctx)
    (hnonce : tx.nonce = w.load.nonce sender) (hbalances : ∀ a, (w.load.balance a).toNat < 2 ^ 128)
    (hfunds : Funded crypto w tx sender) :
    (RefusedAsContract (w.load.accounts sender).info ctx.cfg.isEip3607Disabled →
        deduct ctx ctx.journal =
          .error (.error (.transaction .rejectCallerWithCode)) ctx.journal) ∧
      (¬ RefusedAsContract (w.load.accounts sender).info ctx.cfg.isEip3607Disabled →
        ∃ j', deduct ctx ctx.journal = .ok () j') := by
  obtain ⟨htx, hjournal, hcheck⟩ := hexec
  have hsponsor : ctx.tx.sponsor = recoveredSponsor crypto tx sender :=
    htx ▸ sponsor_fromRecoveredTx
  have hcaller : ctx.tx.inner.caller = sender := by rw [htx]; rfl
  have hnonce' : ctx.tx.inner.nonce = tx.nonce := by rw [htx]; rfl
  have hgas : ctx.tx.inner.gasLimit = tx.gasLimit := by rw [htx]; rfl
  have hprice : ctx.tx.inner.maxFeePerGas = tx.maxFeePerGas := by rw [htx]; rfl
  have hvalue : ctx.tx.inner.value = tx.value := by rw [htx]; rfl
  have htotal : ctx.tx.batchTotalValue = tx.value := by rw [htx]; rfl
  have htype : ctx.tx.inner.txType = .eip1559 := by rw [htx]; rfl
  rw [hjournal]
  cases hsig : tx.feePayerSignature with
  | none =>
    -- the sum of gas and value is below `2 ^ 128`, so it has not saturated
    simp only [Funded, hsig, toNat_cost] at hfunds
    have hbound := hbalances sender
    have hnone : ctx.tx.sponsor = none := by rw [hsponsor, recoveredSponsor, hsig]; rfl
    have h := deduct_of_no_sponsor (j := w.load) hnone (fun _ => rfl)
      (by rw [hcaller, hnonce', hnonce]) (by rw [htype]; exact nofun)
      (by rw [hcaller]; exact hbound) (by rw [hcaller, hgas, hprice, hvalue]; omega)
    rw [hcaller] at h
    exact h
  | some signature =>
    simp only [Funded, hsig] at hfunds
    obtain ⟨sponsor, hrecover, hle, hpays⟩ := hfunds
    have hsome : ctx.tx.sponsor = some sponsor := by
      rw [hsponsor, recoveredSponsor, hsig]
      exact hrecover
    have h := deduct_of_sponsor (j := w.load) hsome (fun _ => rfl) hcheck
      (by rw [hcaller, hnonce', hnonce])
    rw [hcaller, htotal, hgas, hprice] at h
    exact ⟨h.1, fun hcode => (h.2 hcode).mpr ⟨hpays, hle⟩⟩

/-- The deduction of a sponsored transaction asks for what the pool asks for. -/
theorem funded_of_deduct (hexec : Executes eth crypto w tx executorSignature sender ctx)
    (hnonce : tx.nonce = w.load.nonce sender) (hsome : tx.feePayerSignature.isSome = true)
    (hrecovered : (recoveredSponsor crypto tx sender).isSome = true)
    (h : ∃ j', deduct ctx ctx.journal = .ok () j') : Funded crypto w tx sender := by
  obtain ⟨htx, hjournal, hcheck⟩ := hexec
  obtain ⟨signature, hsig⟩ := Option.isSome_iff_exists.mp hsome
  obtain ⟨sponsor, hrecover⟩ := Option.isSome_iff_exists.mp hrecovered
  have hsponsor : ctx.tx.sponsor = some sponsor := by
    rw [htx, sponsor_fromRecoveredTx, hrecover]
  have hcaller : ctx.tx.inner.caller = sender := by rw [htx]; rfl
  obtain ⟨hcode, hfunds⟩ := deduct_of_sponsor (j := w.load) hsponsor (fun _ => rfl) hcheck
    (by rw [htx]; exact hnonce)
  rw [hjournal] at h
  -- a deduction that succeeds has not refused the sender for its code
  have hok : ¬ RefusedAsContract (w.load.accounts ctx.tx.inner.caller).info
      ctx.cfg.isEip3607Disabled := by
    intro hrefused
    obtain ⟨j', hj'⟩ := h
    rw [hcode hrefused] at hj'
    cases hj'
  obtain ⟨hvalue, hgas⟩ := (hfunds hok).mp h
  rw [recoveredSponsor, hsig] at hrecover
  simp only [Funded, hsig]
  rw [htx] at hvalue hgas
  exact ⟨sponsor, hrecover, hgas, hvalue⟩

/-- A funded transaction that has a sponsor's signature has a sponsor. -/
theorem isSome_recoveredSponsor (hfunds : Funded crypto w tx sender) :
    (recoveredSponsor crypto tx sender).isSome = tx.feePayerSignature.isSome := by
  unfold Funded at hfunds
  unfold recoveredSponsor
  cases hsig : tx.feePayerSignature with
  | none => rfl
  | some signature =>
    simp only [hsig] at hfunds
    obtain ⟨sponsor, hrecover, -⟩ := hfunds
    simp only [Option.bind_some, hrecover, Option.isSome_some]

/-- What the handler does against the state with a funded transaction. -/
theorem validateAgainstState_of_funded (hhandler : handler.deployAllowlist = none)
    (hexec : Executes eth crypto w tx executorSignature sender ctx)
    (hnonce : tx.nonce = w.load.nonce sender) (hbalances : ∀ a, (w.load.balance a).toNat < 2 ^ 128)
    (hfunds : Funded crypto w tx sender) :
    (RefusedAsContract (w.load.accounts sender).info ctx.cfg.isEip3607Disabled →
        handler.validateAgainstStateAndDeductCaller ctx =
          .error (.error (.transaction .rejectCallerWithCode)) ctx) ∧
      (¬ RefusedAsContract (w.load.accounts sender).info ctx.cfg.isEip3607Disabled →
        ∃ ctx', handler.validateAgainstStateAndDeductCaller ctx = .ok () ctx') := by
  have hvalid : ¬ (tx.feePayerSignature.isSome &&
      (recoveredSponsor crypto tx sender).isNone) = true := by
    rw [← isSome_recoveredSponsor hfunds]
    cases recoveredSponsor crypto tx sender <;> simp
  obtain ⟨hcode, hcharged⟩ := deduct_of_funded hexec hnonce hbalances hfunds
  rw [validateAgainstState_of_executes hhandler hexec, if_neg hvalid]
  exact ⟨fun hrefused => onJournal_of_error (hcode hrefused),
    fun hrefused => onJournal_ok_iff.mpr (hcharged hrefused)⟩

/-- A sponsored transaction that is not funded is refused by the handler. -/
theorem validateAgainstState_of_not_funded (hhandler : handler.deployAllowlist = none)
    (hexec : Executes eth crypto w tx executorSignature sender ctx)
    (hnonce : tx.nonce = w.load.nonce sender) (hsome : tx.feePayerSignature.isSome = true)
    (hfunds : ¬ Funded crypto w tx sender) :
    ∃ f ctx', handler.validateAgainstStateAndDeductCaller ctx = .error f ctx' := by
  rw [validateAgainstState_of_executes hhandler hexec, hsome, Bool.true_and]
  cases hrecovered : recoveredSponsor crypto tx sender with
  | none => exact ⟨_, _, rfl⟩
  | some sponsor =>
    -- a deduction that goes through would have found the funds
    have hfails : ¬ ∃ ctx', onJournal (deduct ctx) ctx = .ok () ctx' := fun hok =>
      hfunds (funded_of_deduct hexec hnonce hsome (by rw [hrecovered]; rfl)
        (onJournal_ok_iff.mp hok))
    simp only [Option.isNone_some, Bool.false_eq_true, if_false]
    cases hrun : onJournal (deduct ctx) ctx with
    | ok u ctx' => exact absurd ⟨ctx', hrun⟩ hfails
    | error f ctx' => exact ⟨f, ctx', rfl⟩

/-- Pool and handler agree. What the pool accepts on a state has the right shape for the handler and
is charged by it on that state, with the same sponsor, unless the sender is a contract; a sponsored
transaction that the pool refuses is refused by the handler too. -/
theorem validateEvnode_agrees (hpool : self.deployAllowlist = none)
    (hhandler : handler.deployAllowlist = none) (hreads : self.Reads w state)
    (hexec : Executes eth crypto w tx executorSignature sender ctx)
    (hnonce : tx.nonce = w.load.nonce sender)
    (hbalances : ∀ a, (w.load.balance a).toNat < 2 ^ 128) :
    (∀ sponsorBalance state',
      self.validateEvnode eth crypto ⟨.evNode tx executorSignature, sender⟩
          (w.load.balance sender) state = .ok sponsorBalance state' →
        validateInitialTxGas inner ctx = initialGasOfCalls inner tx.calls ctx ∧
        (RefusedAsContract (w.load.accounts sender).info ctx.cfg.isEip3607Disabled →
          handler.validateAgainstStateAndDeductCaller ctx =
            .error (.error (.transaction .rejectCallerWithCode)) ctx) ∧
        (¬ RefusedAsContract (w.load.accounts sender).info ctx.cfg.isEip3607Disabled →
          ∃ ctx', handler.validateAgainstStateAndDeductCaller ctx = .ok () ctx') ∧
        ctx.tx.sponsor = recoveredSponsor crypto tx sender ∧
        ctx.tx.sponsor.isSome = tx.feePayerSignature.isSome ∧
        sponsorBalance = ctx.tx.sponsor.map w.load.balance) ∧
    (tx.feePayerSignature.isSome = true → ∀ e state',
      self.validateEvnode eth crypto ⟨.evNode tx executorSignature, sender⟩
          (w.load.balance sender) state = .error e state' →
        (∃ f ctx', validateInitialTxGas inner ctx = .error f ctx') ∨
          ∃ f ctx', handler.validateAgainstStateAndDeductCaller ctx = .error f ctx') := by
  have hcalls : ctx.tx.batchCalls = some tx.calls := by rw [hexec.tx_eq]; rfl
  have hsponsor : ctx.tx.sponsor = recoveredSponsor crypto tx sender :=
    hexec.tx_eq ▸ sponsor_fromRecoveredTx
  -- the pool accepts exactly what has the right shape and is funded, and the handler asks the same
  rcases @validateEvnode_cases Payload self eth crypto w state tx executorSignature sender hpool
    hreads with ⟨hshape, hfunds, state₁, hok⟩ | ⟨hnot, e₁, state₁, herr⟩
  · refine ⟨fun sponsorBalance state' h => ?_, fun _ e state' h => ?_⟩
    · rw [hok] at h
      obtain ⟨rfl, -⟩ := EStateM.Result.ok.inj h
      obtain ⟨hcode, hcharged⟩ := validateAgainstState_of_funded hhandler hexec hnonce hbalances
        hfunds
      exact ⟨validateInitialTxGas_of_shape hcalls hshape, hcode, hcharged, hsponsor,
        by rw [hsponsor, isSome_recoveredSponsor hfunds], by rw [hsponsor]⟩
    · rw [hok] at h
      cases h
  · refine ⟨fun sponsorBalance state' h => ?_, fun hsome e state' h => ?_⟩
    · rw [herr] at h
      cases h
    · by_cases hshape : WellShaped tx.calls
      · exact .inr (validateAgainstState_of_not_funded hhandler hexec hnonce hsome
          fun hfunds => hnot ⟨hshape, hfunds⟩)
      · obtain ⟨msg, hmsg⟩ : ∃ msg, validateInitialTxGas inner ctx =
            .error (.error (.custom msg)) ctx := validateInitialTxGas_of_not_shape hcalls hshape
        exact .inl ⟨_, _, hmsg⟩

/-- A state with the sender and the sponsor of `wirePayment`. -/
def paymentWorld (sponsorBalance : U256) : WorldState := fun a =>
  if a = paymentSender then some { info := { balance := 9, nonce := 7 } }
  else if a = paymentSponsor then some { info := { balance := sponsorBalance } }
  else none

/-- The pool on `paymentWorld`. -/
def paymentValidator (sponsorBalance : U256) : EvTransactionValidator :=
  { client :=
      { latest := .ok (stateReader (paymentWorld sponsorBalance)), bestBlockNumber := .ok 0 }
    deployAllowlist := none }

/-- The context in which `wirePayment` is executed on `paymentWorld`. -/
def paymentCtx (sponsorBalance : U256) : Ctx :=
  { block := { number := 1, beneficiary := 0xBE, basefee := 1 }
    tx := EvTxEnv.fromRecoveredTx EthereumSupport.none paymentCrypto
      (.evNode EvNodeTransaction.wirePayment unitSignature) paymentSender
    journal := (paymentWorld sponsorBalance).load }

theorem balance_paymentWorld {sponsorBalance : U256} (h : sponsorBalance.toNat < 2 ^ 128)
    (a : Address) : ((paymentWorld sponsorBalance).load.balance a).toNat < 2 ^ 128 := by
  simp only [WorldState.load, Journal.balance, paymentWorld]
  split_ifs
  · exact (by decide : (9 : U256).toNat < 2 ^ 128)
  · exact h
  · exact (by decide : (0 : U256).toNat < 2 ^ 128)

/-- With `60000` wei the sponsor of `wirePayment` can pay, with `59999` it cannot. -/
theorem validateEvnode_agrees_payment :
    (∃ ctx', EvHandler.validateAgainstStateAndDeductCaller ⟨none, none⟩ (paymentCtx 60000) =
        .ok () ctx') ∧
      ((∃ f ctx', validateInitialTxGas Transfers.mainnetOfCA (paymentCtx 59999) = .error f ctx') ∨
        ∃ f ctx', EvHandler.validateAgainstStateAndDeductCaller ⟨none, none⟩ (paymentCtx 59999) =
          .error f ctx') := by
  have hexec (b : U256) : Executes EthereumSupport.none paymentCrypto (paymentWorld b)
      EvNodeTransaction.wirePayment unitSignature paymentSender (paymentCtx b) :=
    ⟨rfl, rfl, rfl⟩
  have hagrees (b : U256) (hb : b.toNat < 2 ^ 128) :=
    @validateEvnode_agrees _ (paymentValidator b) EthereumSupport.none paymentCrypto
      (paymentWorld b) none EvNodeTransaction.wirePayment unitSignature paymentSender ⟨none, none⟩
      Transfers.mainnetOfCA (paymentCtx b) rfl rfl (.inr ⟨rfl, rfl⟩) (hexec b) rfl
      (balance_paymentWorld hb)
  refine ⟨((hagrees 60000 (by decide)).1 (some 60000) (some (stateReader (paymentWorld 60000)))
    rfl).2.2.1 (by decide +kernel), (hagrees 59999 (by decide)).2 rfl
    (.overdraft 60000 59999) (some (stateReader (paymentWorld 59999))) rfl⟩

end Handler

end EvTransactionValidator

end EvReth
