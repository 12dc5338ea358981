import EvReth.Revm.Handler.Context

/-!
# The handler

`EvHandler` (`crates/ev-revm/src/handler.rs`) wraps revm's mainnet handler: it gates contract
creation, lets a sponsor pay the gas, executes a batch of calls as one atomic transaction, and
credits the base fee to a sink (`crates/ev-revm/src/base_fee.rs`). `EvEvm::transact_one` and
`EvEvm::inspect_one_tx` (`crates/ev-revm/src/api/exec.rs`) are its two entry points.
-/

namespace EvReth

/-- `BaseFeeRedirect`. -/
structure BaseFeeRedirect where
  feeSink : Address
  deriving DecidableEq, Repr

/-- `BaseFeeRedirect::apply`: credit the base fee of `gasUsed` to the sink. -/
def BaseFeeRedirect.apply (self : BaseFeeRedirect) (gasUsed : U64) : HandlerM U256 := do
  let ctx ← get
  let baseFee := ctx.block.basefee
  if gasUsed = 0 ∨ baseFee = 0 then
    return 0
  let amount : U256 := baseFee.setWidth 256 * gasUsed.setWidth 256
  if amount = 0 then
    return amount
  onJournal do
    let _ ← loadAccount self.feeSink
    -- `balance_incr` drops the result of `incr_balance`
    let _ ← modifyGet fun j : Journal => j.incrBalance self.feeSink amount
    return amount

/-- `EvHandler`, without the mainnet handler it wraps. -/
structure EvHandler where
  redirect : Option BaseFeeRedirect
  deployAllowlist : Option DeployAllowlistSettings

/-! ## Checks of a transaction -/

/-- A bytecode is an EIP-7702 delegation: magic, version and a 20-byte address. -/
def isEip7702 (code : Bytes) : Bool := code.length == 23 && code.take 3 == [0xef, 0x01, 0x00]

/-- `validate_account_nonce_and_code`. -/
def validateAccountNonceAndCode (callerInfo : AccountInfo) (tx : TxEnv)
    (isEip3607Disabled isNonceCheckDisabled : Bool) : Except InvalidTransaction Unit :=
  -- EIP-3607: no transactions from contracts, delegations apart
  if !isEip3607Disabled && !callerInfo.code.isEmpty && !isEip7702 callerInfo.code then
    .error .rejectCallerWithCode
  else if !isNonceCheckDisabled then
    if callerInfo.nonce.toNat < tx.nonce.toNat then
      .error (.nonceTooHigh tx.nonce callerInfo.nonce)
    else if tx.nonce.toNat < callerInfo.nonce.toNat then
      .error (.nonceTooLow tx.nonce callerInfo.nonce)
    else .ok ()
  else .ok ()

/-- `calculate_caller_fee`. The `expect` and the subtraction can panic. -/
def calculateCallerFee (balance : U256) (tx : TxEnv) (basefee blobPrice : U128)
    (isBalanceCheckDisabled : Bool) : Except Failure U256 :=
  match tx.effectiveBalanceSpending basefee blobPrice with
  | .error _ =>
    .error (.panic "effective balance is always smaller than max balance so it can't overflow")
  | .ok effectiveBalanceSpending =>
    -- gas, value and blobs are checked together
    if !isBalanceCheckDisabled && balance.toNat < effectiveBalanceSpending.toNat then
      .error (.error (.transaction (.lackOfFundForMaxFee effectiveBalanceSpending balance)))
    else
      -- the value is not deducted here but moved by the frame
      match effectiveBalanceSpending.checkedSub tx.value with
      | none => .error (.panic "attempt to subtract with overflow")
      | some gasBalanceSpending =>
        let newBalance := balance.saturatingSub gasBalanceSpending
        .ok (if isBalanceCheckDisabled && newBalance.toNat < tx.value.toNat then tx.value
          else newBalance)

/-- `nonce.saturating_add(1)`, written to the account. -/
def Journal.bumpNonce (j : Journal) (addr : Address) : Journal :=
  j.setNonce addr ((j.nonce addr).saturatingAdd 1)

/-- `?` on the result of a check. -/
def liftInvalid {α : Type} (x : Except InvalidTransaction α) : JournalM α :=
  ofExcept (x.mapError fun e => .error (.transaction e))

/-- `validate_and_deduct_sponsored_tx`: the sponsor pays the gas, the caller the value. -/
def validateAndDeductSponsoredTx (tx : TxEnv) (callerAddress sponsor : Address) (totalValue : U256)
    (isCall : Bool) (basefee : U128)
    (isBalanceCheckDisabled isEip3607Disabled isNonceCheckDisabled : Bool) : JournalM Unit := do
  let caller ← loadAccount callerAddress
  liftInvalid (validateAccountNonceAndCode caller.info tx isEip3607Disabled isNonceCheckDisabled)
  let balance := caller.info.balance
  if !isBalanceCheckDisabled && balance.toNat < totalValue.toNat then
    throw (.error (.transaction (.lackOfFundForMaxFee totalValue balance)))
  -- a `CREATE` spends its nonce in its frame
  if isCall then
    modify (·.bumpNonce callerAddress)
  -- the sponsor is checked for the maximal price and charged the effective one
  let sponsorAccount ← loadAccount sponsor
  let sponsorBalance := sponsorAccount.info.balance
  let maxGasCost : U256 :=
    (tx.gasLimit.setWidth 256 : U256).saturatingMul (tx.maxFeePerGas.setWidth 256)
  if !isBalanceCheckDisabled && sponsorBalance.toNat < maxGasCost.toNat then
    throw (.error (.transaction (.lackOfFundForMaxFee maxGasCost sponsorBalance)))
  let gasCost : U256 :=
    (tx.gasLimit.setWidth 256 : U256).saturatingMul ((tx.effectiveGasPrice basefee).setWidth 256)
  let newSponsorBalance := sponsorBalance.saturatingSub gasCost
  modify (·.setBalance sponsor
    (if isBalanceCheckDisabled && newSponsorBalance.toNat < gasCost.toNat then gasCost
      else newSponsorBalance))

/-- `validate_and_deduct_normal_tx`: the caller pays gas and value. -/
def validateAndDeductNormalTx (tx : TxEnv) (callerAddress : Address) (isCall : Bool)
    (basefee blobPrice : U128)
    (isBalanceCheckDisabled isEip3607Disabled isNonceCheckDisabled : Bool) : JournalM Unit := do
  let caller ← loadAccount callerAddress
  liftInvalid (validateAccountNonceAndCode caller.info tx isEip3607Disabled isNonceCheckDisabled)
  let newCallerBalance ← ofExcept
    (calculateCallerFee caller.info.balance tx basefee blobPrice isBalanceCheckDisabled)
  modify (·.setBalance callerAddress newCallerBalance)
  if isCall then
    modify (·.bumpNonce callerAddress)

/-- `ACCESS_LIST_ADDRESS`. -/
def accessListAddress : U64 := 2400

/-- `ACCESS_LIST_STORAGE_KEY`. -/
def accessListStorageKey : U64 := 1900

/-- `eip7702::PER_EMPTY_ACCOUNT_COST`. -/
def perEmptyAccountCost : U64 := 25000

/-- The gas that `validate_batch_initial_tx_gas` adds up for a batch. -/
def batchInitialGas (inner : Mainnet) (cfg : Cfg) (tx : TxEnv) (calls : List Call) :
    InitialAndFloorGas :=
  -- intrinsic gas is due for each call, the access list once
  let perCall := calls.foldl (fun acc call =>
    let callGas := inner.calculateInitialTxGas cfg call.input call.dest.isCreate
    { acc with
      initialTotalGas := acc.initialTotalGas.saturatingAdd callGas.initialTotalGas
      initialStateGas := acc.initialStateGas.saturatingAdd callGas.initialStateGas
      floorGas := acc.floorGas.saturatingAdd callGas.floorGas })
    ({ initialTotalGas := 0, initialStateGas := 0, floorGas := 0 } : InitialAndFloorGas)
  let listed : U64 × U64 :=
    if tx.txType ≠ .legacy then
      tx.accessList.foldl (fun (acc, stor) item =>
        (acc.saturatingAdd 1, stor.saturatingAdd (BitVec.ofNat 64 item.storageKeys.length))) (0, 0)
    else (0, 0)
  let withList := (perCall.initialTotalGas.saturatingAdd
      (listed.1.saturatingMul accessListAddress)).saturatingAdd
    (listed.2.saturatingMul accessListStorageKey)
  let authStateGas : U64 :=
    (BitVec.ofNat 64 tx.authorizationListLen).saturatingMul perEmptyAccountCost
  { initialTotalGas :=
      if cfg.isPragueEnabled then withList.saturatingAdd authStateGas else withList
    initialStateGas :=
      if cfg.isPragueEnabled then perCall.initialStateGas.saturatingAdd authStateGas
      else perCall.initialStateGas
    floorGas := if !cfg.isPragueEnabled || cfg.isEip7623Disabled then 0 else perCall.floorGas
    eip7702ReservoirRefund := 0 }

/-- The checks of `validate_batch_initial_tx_gas`, which are those of revm, on the sums. -/
def checkInitialGas (cfg : Cfg) (gasLimit : U64) (gas : InitialAndFloorGas) :
    Except InvalidTransaction InitialAndFloorGas :=
  if gasLimit.toNat < gas.initialTotalGas.toNat then
    .error (.callGasCostMoreThanGasLimit gasLimit gas.initialTotalGas)
  else if cfg.isPragueEnabled && gasLimit.toNat < gas.floorGas.toNat then
    .error (.gasFloorMoreThanGasLimit gas.floorGas gasLimit)
  else
    let regular := gas.initialTotalGas.saturatingSub gas.initialStateGas
    let minRegularGas := if regular.toNat < gas.floorGas.toNat then gas.floorGas else regular
    if cfg.isAmsterdamEip8037Enabled && cfg.txGasLimitCap.toNat < gasLimit.toNat &&
        cfg.txGasLimitCap.toNat < minRegularGas.toNat then
      .error (.gasFloorMoreThanGasLimit minRegularGas cfg.txGasLimitCap)
    else .ok gas

/-- `validate_batch_initial_tx_gas`. -/
def validateBatchInitialTxGas (inner : Mainnet) (cfg : Cfg) (tx : TxEnv) (calls : List Call) :
    Except InvalidTransaction InitialAndFloorGas :=
  checkInitialGas cfg tx.gasLimit (batchInitialGas inner cfg tx calls)

/-! ## Execution of a batch -/

/-- `finalize_batch_gas`. -/
def finalizeBatchGas (frameResult : FrameResult)
    (txGasLimit remainingGas reservoir stateGasSpent : U64) (refund : ℤ) : FrameResult :=
  let spent := Gas.newSpent txGasLimit
  -- a halt keeps nothing of the gas
  let gas := if frameResult.result.isOkOrRevert then spent.eraseCost remainingGas else spent
  { frameResult with gas :=
      if frameResult.result.isOk then
        ((gas.recordRefund refund).setStateGasSpent stateGasSpent).setReservoir reservoir
      -- the state changes are undone, so their gas goes back to the reservoir
      else (gas.setStateGasSpent 0).setReservoir (reservoir.saturatingAdd stateGasSpent) }

/-- What the loop over the calls of a batch carries from one call to the next. -/
structure BatchState where
  remainingGas : U64
  reservoir : U64
  totalRefunded : ℤ := 0
  totalStateGasSpent : U64 := 0
  deriving DecidableEq, Repr

/-- The update of the loop's variables after a call. -/
def BatchState.record (s : BatchState) (gas : Gas) : BatchState :=
  { remainingGas := gas.remaining
    reservoir := gas.reservoir
    totalRefunded := saturatingAddI64 s.totalRefunded gas.refunded
    totalStateGasSpent := s.totalStateGasSpent.saturatingAdd gas.stateGasSpent }

namespace EvHandler

variable (self : EvHandler) (inner : Mainnet)

/-- `deploy_allowlist_for_block`. -/
def deployAllowlistForBlock (blockNumber : U64) : Option DeployAllowlistSettings :=
  self.deployAllowlist.filter (·.isActive blockNumber)

/-- The block number as a `u64`, or `u64::MAX` when it does not fit. -/
def blockNumberU64 (block : BlockEnv) : U64 :=
  if block.number.toNat < 2 ^ 64 then block.number.setWidth 64 else BitVec.allOnes 64

/-- `ensure_deploy_allowed`. -/
def ensureDeployAllowed : HandlerM Unit := do
  let ctx ← get
  let blockNumber := blockNumberU64 ctx.block
  let settings := self.deployAllowlistForBlock blockNumber
  -- only the kind of the transaction is looked at, which is that of its first call
  match checkDeployAllowed settings ctx.tx.inner.caller ctx.tx.inner.kind.isCreate blockNumber with
  | .error _ => throw (.error (.custom "contract deployment not allowed"))
  | .ok _ => return

/-- `validate_initial_tx_gas`. -/
def validateInitialTxGas : HandlerM InitialAndFloorGas := do
  let ctx ← get
  match ctx.tx.batchCalls with
  | some calls =>
    -- the checks on the shape of a batch are made here
    if calls.isEmpty then
      throw (.error (.custom "evnode transaction must include at least one call"))
    else if (calls.drop 1).any (·.dest.isCreate) then
      throw (.error (.custom "only the first call may be CREATE"))
    else if 1 < calls.length then
      match validateBatchInitialTxGas inner ctx.cfg ctx.tx.inner calls with
      | .error e => throw (.error (.transaction e))
      | .ok gas => return gas
    else inner.validateInitialTxGas
  | none => inner.validateInitialTxGas

/-- `validate_against_state_and_deduct_caller`. -/
def validateAgainstStateAndDeductCaller : HandlerM Unit := do
  self.ensureDeployAllowed
  let ctx ← get
  if ctx.tx.sponsorSignatureInvalid then
    throw (.error (.custom "invalid sponsor signature"))
  let tx := ctx.tx.inner
  let basefee : U128 := ctx.block.basefee.setWidth 128
  match ctx.tx.sponsor with
  | some sponsor =>
    onJournal (validateAndDeductSponsoredTx tx tx.caller sponsor ctx.tx.batchTotalValue
      tx.kind.isCall basefee ctx.cfg.isBalanceCheckDisabled ctx.cfg.isEip3607Disabled
      ctx.cfg.isNonceCheckDisabled)
  | none =>
    onJournal (validateAndDeductNormalTx tx tx.caller tx.kind.isCall basefee
      (ctx.block.blobGasprice.getD 0) ctx.cfg.isBalanceCheckDisabled ctx.cfg.isEip3607Disabled
      ctx.cfg.isNonceCheckDisabled)

/-- `evm.ctx_mut().set_tx(tx)`. -/
def setTx (tx : EvTxEnv) : HandlerM Unit := modify fun ctx => { ctx with tx }

/-- One iteration of the loop over the calls: the frame of `call`, on the gas that is left. -/
def runCall (baseTx : EvTxEnv) (remainingGas reservoir : U64) (call : Call) :
    HandlerM FrameResult := do
  setTx (baseTx.setBatchCall call)
  let frameInput ← inner.firstFrameInput remainingGas reservoir
  inner.runExecLoop frameInput

/-- The end of a failed batch: the journal goes back to the checkpoint, and a batch that begins with
`CREATE` gets its nonce increment back. A failing load of the caller is ignored. -/
def revertBatch (baseTx : EvTxEnv) (firstIsCreate : Bool) (checkpoint : Journal.Checkpoint) :
    HandlerM Unit :=
  modify fun ctx =>
    let journal := ctx.journal.checkpointRevert checkpoint
    { ctx with journal :=
        if firstIsCreate && (journal.dbError baseTx.inner.caller).isNone then
          journal.bumpNonce baseTx.inner.caller
        else journal }

/-- The loop over the calls of a batch. `last` is the result of the preceding call. -/
def batchLoop (baseTx : EvTxEnv) (firstIsCreate : Bool) (checkpoint : Journal.Checkpoint) :
    List Call → BatchState → Option FrameResult → HandlerM FrameResult
  | [], s, last =>
    match last with
    | some frameResult =>
      return finalizeBatchGas frameResult baseTx.inner.gasLimit s.remainingGas s.reservoir
        s.totalStateGasSpent s.totalRefunded
    | none => throw (.panic "batch execution requires at least one call")
  | call :: calls, s, _ => do
    let frameResult ← runCall inner baseTx s.remainingGas s.reservoir call
    -- the variables are updated before the status is looked at
    let s := s.record frameResult.gas
    if !frameResult.result.isOk then
      revertBatch baseTx firstIsCreate checkpoint
      return finalizeBatchGas frameResult baseTx.inner.gasLimit s.remainingGas s.reservoir
        s.totalStateGasSpent 0
    else batchLoop baseTx firstIsCreate checkpoint calls s (some frameResult)

/-- `execution`. A commit of the batch's checkpoint leaves the journal as it is. -/
def execution (gas : InitialAndFloorGas) : HandlerM FrameResult := do
  let ctx ← get
  match ctx.tx.batchCalls with
  | some [] => throw (.error (.custom "evnode transaction must include at least one call"))
  | some (first :: second :: rest) =>
    let (remainingGas, reservoir) :=
      inner.initialGasAndReservoir gas ctx.tx.inner.gasLimit ctx.cfg
    batchLoop inner ctx.tx first.dest.isCreate ctx.journal.checkpoint (first :: second :: rest)
      { remainingGas, reservoir } none
  -- no batch, or a batch of one call
  | _ => inner.execution gas

/-! ## Fees -/

/-- `reimburse_caller`: the sponsor of a sponsored transaction gets the unused gas back. -/
def reimburseCaller (execResult : FrameResult) : HandlerM Unit := do
  let ctx ← get
  match ctx.tx.sponsor with
  | some sponsor =>
    let gas := execResult.gas
    let effectiveGasPrice := ctx.tx.inner.effectiveGasPrice (ctx.block.basefee.setWidth 128)
    let reimbursement : U256 :=
      (effectiveGasPrice.saturatingMul
        ((gas.remaining + gas.refundedU64).setWidth 128)).setWidth 256
    onJournal do
      let sponsorAccount ← loadAccount sponsor
      modify (·.setBalance sponsor (sponsorAccount.info.balance.saturatingAdd reimbursement))
  | none => inner.reimburseCaller execResult

/-- `reward_beneficiary`: the base fee goes to the sink, if there is one, before the beneficiary is
rewarded. -/
def rewardBeneficiary (execResult : FrameResult) : HandlerM Unit := do
  let gas := execResult.gas
  let spent := gas.spentSubRefunded
  match self.redirect with
  | some redirect =>
    -- a failing credit of the sink fails the transaction
    if spent ≠ 0 then
      let _ ← redirect.apply spent
  | none => pure ()
  inner.rewardBeneficiary gas

/-! ## The whole transaction -/

/-- `Handler::validate` and `Handler::pre_execution`: the phases before the frames run. -/
def preExecution : HandlerM (InitialAndFloorGas × U64) := do
  inner.validateEnv
  let gas ← validateInitialTxGas inner
  self.validateAgainstStateAndDeductCaller
  inner.loadAccounts
  let (refund, gas) ← inner.applyEip7702AuthList gas
  return (gas, refund)

/-- `Handler::post_execution` and `execution_result`: the phases after the frames have run. -/
def postExecution (gas : InitialAndFloorGas) (eip7702Refund : U64) (execResult : FrameResult) :
    HandlerM ExecutionResult := do
  let execResult := inner.refund (← get) execResult eip7702Refund
  let resultGas := inner.buildResultGas execResult.gas gas
  let execResult := inner.eip7623CheckGasFloor (← get) execResult gas
  reimburseCaller inner execResult
  self.rewardBeneficiary inner execResult
  inner.executionResult execResult resultGas

/-- `Handler::run_without_catch_error`, with the execution phase as a parameter: `inspect_run`
differs from `run` only in it. -/
def runWith (execution : InitialAndFloorGas → HandlerM FrameResult) : HandlerM ExecutionResult := do
  let (gas, refund) ← self.preExecution inner
  let execResult ← execution gas
  self.postExecution inner gas refund execResult

/-- `Handler::catch_error`: an error discards the changes of the transaction. -/
def catchError {α : Type} (x : HandlerM α) : HandlerM α := fun ctx =>
  match x ctx with
  | .ok a ctx' => .ok a ctx'
  | .error e ctx' => .error e { ctx' with journal := ctx.journal }

/-- `Handler::run`. -/
def run : HandlerM ExecutionResult := catchError (self.runWith inner (execution inner))

/-- `InspectorHandler::inspect_execution` as revm provides it, which `EvHandler` does not override:
one frame for the whole transaction, in the inspected frame loop `inspectRunExecLoop`. -/
def inspectExecution (inspectRunExecLoop : FrameInit → HandlerM FrameResult)
    (gas : InitialAndFloorGas) : HandlerM FrameResult :=
  Mainnet.execution { inner with runExecLoop := inspectRunExecLoop } gas

/-- `InspectorHandler::inspect_run`. -/
def inspectRun (inspectRunExecLoop : FrameInit → HandlerM FrameResult) : HandlerM ExecutionResult :=
  catchError (self.runWith inner (inspectExecution inner inspectRunExecLoop))

/-- `EvEvm::transact_one`. -/
def transactOne (tx : EvTxEnv) : HandlerM ExecutionResult := do
  setTx tx
  self.run inner

/-- `EvEvm::inspect_one_tx`. -/
def inspectOneTx (inspectRunExecLoop : FrameInit → HandlerM FrameResult) (tx : EvTxEnv) :
    HandlerM ExecutionResult := do
  setTx tx
  self.inspectRun inner inspectRunExecLoop

end EvHandler

end EvReth
