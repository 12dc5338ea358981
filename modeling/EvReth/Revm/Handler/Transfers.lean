import EvReth.Revm.Handler.Defs

/-!
# The mainnet phases for transactions that run no code

A concrete `Mainnet`: revm's phases as they act on transactions whose frames only move value, that
is on calls of accounts without code and on contract creations with empty init code, without input
data. The results about `EvHandler` hold for every `Mainnet`; concrete runs use this one, or
`Transfers.storing`, which adds the gas of EIP-8037.
-/

namespace EvReth

namespace Transfers

open EStateM

/-- `first_frame_input`: the frame of the transaction that the context holds. -/
def firstFrameInput (gasLimit reservoir : U64) : HandlerM FrameInit := do
  let ctx ← get
  return { caller := ctx.tx.inner.caller
           kind := ctx.tx.inner.kind
           value := ctx.tx.inner.value
           data := ctx.tx.inner.data
           gasLimit
           reservoir }

/-- A frame that spends nothing of its gas. -/
def frameResult (init : FrameInit) (result : InstructionResult) (createdAddress : Option Address) :
    FrameResult :=
  { result
    output := []
    createdAddress
    gas :=
      { limit := init.gasLimit
        remaining := init.gasLimit
        refunded := 0
        reservoir := init.reservoir
        stateGasSpent := 0 } }

/-- The status of a frame whose transfer is refused: a revert when the funds are short, and a halt
when the recipient's balance overflows. -/
def refusedTransfer (init : FrameInit) (j : Journal) : InstructionResult :=
  if (j.balance init.caller).toNat < init.value.toNat then .outOfFunds else .halt 1

/-- A `CALL` of an account without code: a transfer of its value. -/
def callFrame (init : FrameInit) (dest : Address) (j : Journal) : FrameResult × Journal :=
  match j.transfer init.caller dest init.value with
  | some j' => (frameResult init .stop none, j')
  | none => (frameResult init (refusedTransfer init j) none, j)

/-- A `CREATE` with empty init code: nothing without the funds or without a nonce to spend;
otherwise the caller's nonce is spent, and the new account, unless it is in use, begins with nonce
one and the value. -/
def createFrame (createAddress : Address → U64 → Address) (init : FrameInit) (j : Journal) :
    FrameResult × Journal :=
  if (j.balance init.caller).toNat < init.value.toNat then (frameResult init .outOfFunds none, j)
  else
    match (j.nonce init.caller).checkedAdd 1 with
    -- the nonce is exhausted
    | none => (frameResult init .ret none, j)
    | some nonce =>
      let created := createAddress init.caller (j.nonce init.caller)
      let j' := j.setNonce init.caller nonce
      if j'.nonce created ≠ 0 ∨ j'.code created ≠ [] then (frameResult init (.halt 0) none, j')
      else
        match (j'.setNonce created 1).transfer init.caller created init.value with
        | some j'' => (frameResult init .stop (some created), j'')
        | none => (frameResult init (refusedTransfer init j') none, j')

/-- `run_exec_loop`. -/
def runExecLoop (createAddress : Address → U64 → Address) (init : FrameInit) :
    HandlerM FrameResult := fun ctx =>
  let (result, journal) :=
    match init.kind with
    | .call dest => callFrame init dest ctx.journal
    | .create => createFrame createAddress init ctx.journal
  .ok result { ctx with journal }

/-- `last_frame_result`: the gas of the transaction, with what the frame has left. -/
def lastFrameResult (result : FrameResult) : HandlerM FrameResult := do
  let ctx ← get
  let spent := Gas.newSpent ctx.tx.inner.gasLimit
  let gas := if result.result.isOkOrRevert then spent.eraseCost result.gas.remaining else spent
  return { result with gas :=
    if result.result.isOk then gas.recordRefund result.gas.refunded else gas }

/-- `refund`: at most a fifth of what was spent. -/
def refund (result : FrameResult) (eip7702Refund : U64) : FrameResult :=
  let gas := result.gas.recordRefund eip7702Refund.toNat
  { result with gas :=
    { gas with refunded := (min gas.refundedU64.toNat (gas.spent.toNat / 5) : ℕ) } }

/-- `eip7623_check_gas_floor`. -/
def eip7623CheckGasFloor (result : FrameResult) (gas : InitialAndFloorGas) : FrameResult :=
  if result.gas.spentSubRefunded.toNat < gas.floorGas.toNat then
    { result with gas :=
      { result.gas with
        remaining := result.gas.limit.saturatingSub gas.floorGas
        refunded := 0 } }
  else result

/-- `load_account_mut(addr)?.incr_balance(amount)`. -/
def credit (addr : Address) (amount : U256) : HandlerM Unit :=
  onJournal do
    let _ ← loadAccount addr
    let _ ← modifyGet fun j : Journal => j.incrBalance addr amount

/-- `reimburse_caller`. -/
def reimburseCaller (result : FrameResult) : HandlerM Unit := do
  let ctx ← get
  let price := ctx.tx.inner.effectiveGasPrice (ctx.block.basefee.setWidth 128)
  let unused := (result.gas.remaining + result.gas.refundedU64).setWidth 128
  credit ctx.tx.inner.caller ((price.saturatingMul unused).setWidth 256)

/-- `reward_beneficiary`: the price above the base fee. -/
def rewardBeneficiary (gas : Gas) : HandlerM Unit := do
  let ctx ← get
  let basefee : U128 := ctx.block.basefee.setWidth 128
  let price := (ctx.tx.inner.effectiveGasPrice basefee).saturatingSub basefee
  credit ctx.block.beneficiary ((price * gas.spentSubRefunded.setWidth 128).setWidth 256)

/-- `execution_result`. -/
def executionResult (result : FrameResult) (gas : ResultGas) : HandlerM ExecutionResult := do
  let ctx ← get
  return { result := result.result
           gas
           logs := ctx.journal.logs
           output := result.output
           createdAddress := result.createdAddress }

/-- `calculate_initial_tx_gas` without input data. -/
def initialGas (isCreate : Bool) : InitialAndFloorGas :=
  { initialTotalGas := if isCreate then 53000 else 21000, initialStateGas := 0, floorGas := 21000 }

/-- The phases, given the address that a creation derives from sender and nonce. -/
def mainnet (createAddress : Address → U64 → Address) : Mainnet :=
  { validateEnv := pure ()
    validateInitialTxGas := fun ctx => .ok (initialGas ctx.tx.inner.kind.isCreate) ctx
    calculateInitialTxGas := fun _ _ isCreate => initialGas isCreate
    loadAccounts := pure ()
    applyEip7702AuthList := fun gas => pure (0, gas)
    initialGasAndReservoir := fun gas limit _ => (limit.saturatingSub gas.initialTotalGas, 0)
    firstFrameInput
    runExecLoop := runExecLoop createAddress
    lastFrameResult
    refund := fun _ => refund
    buildResultGas := fun gas init =>
      { gasUsed := gas.spentSubRefunded, refunded := gas.refundedU64, floorGas := init.floorGas }
    eip7623CheckGasFloor := fun _ => eip7623CheckGasFloor
    reimburseCaller
    rewardBeneficiary
    executionResult }

/-- The phases for runs in which at most `0xCA` creates a contract, with its first nonce. -/
def mainnetOfCA : Mainnet := mainnet fun _ _ => 0x0df8e22177567f0ae77e5a0ed75c81bceb2c311c

/-- The journal of a database that holds `0xCA` with a balance, and no other account. -/
def funded (balance : U256) : Journal :=
  { accounts := fun a =>
      if a = 0xCA then { info := { balance } } else { loadedAsNotExisting := true } }

/-! ## Gas in two dimensions -/

/-- `validate_env`: without EIP-8037 no gas limit is above the cap. -/
def validateEnv : HandlerM Unit := fun ctx =>
  if ctx.cfg.isAmsterdamEip8037Enabled = false ∧
      ctx.cfg.txGasLimitCap.toNat < ctx.tx.inner.gasLimit.toNat then
    .error (.error (.transaction (.other "tx gas limit greater than cap"))) ctx
  else .ok () ctx

/-- `initial_gas_and_reservoir`: with EIP-8037 the cap bounds the regular gas, and the gas above it
is the reservoir. -/
def initialGasAndReservoir (gas : InitialAndFloorGas) (limit : U64) (cfg : Cfg) : U64 × U64 :=
  let executionGas := limit.saturatingSub gas.initialTotalGas
  if cfg.isAmsterdamEip8037Enabled then
    let regularGas := cfg.txGasLimitCap.saturatingSub
      (gas.initialTotalGas.saturatingSub gas.initialStateGas)
    let remaining := if regularGas.toNat < executionGas.toNat then regularGas else executionGas
    (remaining, executionGas - remaining)
  else (executionGas, 0)

/-- The gas of a frame after state was written, as far as the reservoir goes. -/
def storeState (stateGas : U64) (gas : Gas) : Gas :=
  let spent := if gas.reservoir.toNat < stateGas.toNat then gas.reservoir else stateGas
  { gas with reservoir := gas.reservoir - spent, stateGasSpent := spent }

/-- `reimburse_caller`: all gas that is left, in full precision. -/
def reimburseUnspent (result : FrameResult) : HandlerM Unit := do
  let ctx ← get
  let price := ctx.tx.inner.effectiveGasPrice (ctx.block.basefee.setWidth 128)
  let unspent : U256 := result.gas.remaining.setWidth 256 + result.gas.reservoir.setWidth 256 +
    result.gas.refundedU64.setWidth 256
  credit ctx.tx.inner.caller (price.setWidth 256 * unspent)

/-- `reward_beneficiary`: the price above the base fee, for the gas that was used. What is left of
the reservoir is not used. -/
def rewardUsed (gas : Gas) : HandlerM Unit := do
  let ctx ← get
  let basefee : U128 := ctx.block.basefee.setWidth 128
  let price := (ctx.tx.inner.effectiveGasPrice basefee).saturatingSub basefee
  let used := (gas.spent.saturatingSub gas.reservoir).saturatingSub gas.refundedU64
  credit ctx.block.beneficiary ((price * used.setWidth 128).setWidth 256)

/-- The phases of payments whose frames write state for `stateGas`, as a contract does that fills
its storage. -/
def storing (stateGas : U64) : Mainnet :=
  { mainnetOfCA with
    validateEnv
    initialGasAndReservoir
    runExecLoop := fun init ctx =>
      match mainnetOfCA.runExecLoop init ctx with
      | .ok result ctx => .ok { result with gas := storeState stateGas result.gas } ctx
      | .error e ctx => .error e ctx
    lastFrameResult := fun result => do
      let ctx ← get
      return finalizeBatchGas result ctx.tx.inner.gasLimit result.gas.remaining
        result.gas.reservoir result.gas.stateGasSpent result.gas.refunded
    buildResultGas := fun gas init =>
      let spent := gas.spent.saturatingSub gas.reservoir
      let blockStateGasUsed := gas.stateGasSpent + init.initialStateGas
      { gasUsed := spent.saturatingSub gas.refundedU64
        refunded := gas.refundedU64
        floorGas := init.floorGas
        blockRegularGasUsed := spent.saturatingSub blockStateGasUsed
        blockStateGasUsed }
    reimburseCaller := reimburseUnspent
    rewardBeneficiary := rewardUsed }

variable (createAddress : Address → U64 → Address) (init : FrameInit) (j : Journal)

/-- A `CALL` of an account without code leaves the journal alone or transfers its value. -/
theorem callFrame_cases (dest : Address) :
    ∃ r j', callFrame init dest j = (frameResult init r none, j') ∧
      (j' = j ∨ j.transfer init.caller dest init.value = some j') := by
  rw [callFrame]
  cases h : j.transfer init.caller dest init.value with
  | none => exact ⟨_, _, rfl, .inl rfl⟩
  | some j' => exact ⟨_, _, rfl, .inr rfl⟩

/-- A creation leaves the journal alone without the funds or a nonce to spend. Otherwise it spends
the nonce, and it can go on only if the new account has none yet. -/
theorem createFrame_cases :
    ∃ r created j', createFrame createAddress init j = (frameResult init r created, j') ∧
      (j' = j ∧ ((j.balance init.caller).toNat < init.value.toNat ∨
          (j.nonce init.caller).checkedAdd 1 = none) ∨
        ∃ nonce, (j.nonce init.caller).checkedAdd 1 = some nonce ∧
          (j' = j.setNonce init.caller nonce ∨
            (j.setNonce init.caller nonce).nonce
                (createAddress init.caller (j.nonce init.caller)) = 0 ∧
              ((j.setNonce init.caller nonce).setNonce
                  (createAddress init.caller (j.nonce init.caller)) 1).transfer init.caller
                (createAddress init.caller (j.nonce init.caller)) init.value = some j')) := by
  rw [createFrame]
  by_cases hfunds : (j.balance init.caller).toNat < init.value.toNat
  · exact ⟨_, _, _, if_pos hfunds, .inl ⟨rfl, .inl hfunds⟩⟩
  rw [if_neg hfunds]
  cases hnext : (j.nonce init.caller).checkedAdd 1 with
  | none => exact ⟨_, _, _, rfl, .inl ⟨rfl, .inr rfl⟩⟩
  | some nonce =>
    simp only
    split_ifs with hused
    · exact ⟨_, _, _, rfl, .inr ⟨nonce, rfl, .inl rfl⟩⟩
    -- the new account is not in use: it has no nonce
    · have hfree := not_not.mp (not_or.mp hused).1
      split
      next j' htransfer => exact ⟨_, _, _, rfl, .inr ⟨nonce, rfl, .inr ⟨hfree, htransfer⟩⟩⟩
      next => exact ⟨_, _, _, rfl, .inr ⟨nonce, rfl, .inl rfl⟩⟩

/-- A `CALL` does not change which loads fail. -/
theorem loads_callFrame (dest : Address) :
    (callFrame init dest j).2.dbError = j.dbError ∧
      (callFrame init dest j).2.storageError = j.storageError := by
  obtain ⟨r, j', heq, rfl | htransfer⟩ := callFrame_cases init j dest
  · rw [heq]
    exact ⟨rfl, rfl⟩
  · obtain ⟨hdb, hstorage, -⟩ := Journal.frame_of_transfer htransfer
    rw [heq]
    exact ⟨hdb, hstorage⟩

/-- A `CREATE` does not change which loads fail. -/
theorem loads_createFrame :
    (createFrame createAddress init j).2.dbError = j.dbError ∧
      (createFrame createAddress init j).2.storageError = j.storageError := by
  obtain ⟨r, created, j', heq, ⟨rfl, -⟩ | ⟨nonce, -, rfl | ⟨-, htransfer⟩⟩⟩ :=
    createFrame_cases createAddress init j
  · rw [heq]
    exact ⟨rfl, rfl⟩
  · rw [heq]
    exact ⟨rfl, rfl⟩
  · obtain ⟨hdb, hstorage, -⟩ := Journal.frame_of_transfer htransfer
    rw [heq]
    exact ⟨hdb, hstorage⟩

/-- A `CALL` of an account without code changes no nonce. -/
theorem nonce_callFrame (dest addr : Address) :
    (callFrame init dest j).2.nonce addr = j.nonce addr := by
  obtain ⟨r, j', heq, rfl | htransfer⟩ := callFrame_cases init j dest
  · rw [heq]
  · rw [heq]
    exact Journal.nonce_of_transfer htransfer addr

/-- A creation with the funds for its value spends a nonce of its caller, if one is left. -/
theorem nonce_createFrame (hfunds : init.value.toNat ≤ (j.balance init.caller).toNat) :
    min ((j.nonce init.caller).toNat + 1) (2 ^ 64 - 1) ≤
      ((createFrame createAddress init j).2.nonce init.caller).toNat := by
  have hone : (1 : U64).toNat = 1 := by decide
  obtain ⟨r, created, j', heq, ⟨rfl, hshort | hspent⟩ | ⟨nonce, hnext, hj'⟩⟩ :=
    createFrame_cases createAddress init j
  · omega
  -- no nonce is left to spend
  · rw [BitVec.checkedAdd_eq_none_iff] at hspent
    rw [heq]
    simp only
    omega
  · have hnonce : nonce.toNat = (j.nonce init.caller).toNat + 1 :=
      BitVec.checkedAdd_eq_some_iff.mp hnext
    rw [heq]
    rcases hj' with rfl | ⟨hfree, htransfer⟩
    · simp [hnonce]
    · -- the new account has no nonce yet, so it is not the caller
      have hne : init.caller ≠ createAddress init.caller (j.nonce init.caller) := by
        intro hself
        rw [← hself, Journal.nonce_setNonce, if_pos rfl] at hfree
        rw [hfree] at hnonce
        simp at hnonce
      simp only
      rw [Journal.nonce_of_transfer htransfer, Journal.nonce_setNonce, if_neg hne,
        Journal.nonce_setNonce, if_pos rfl, hnonce]
      exact min_le_left _ _

/-- A `CALL` of an account without code gives back all of its gas. -/
theorem gas_callFrame (dest : Address) :
    ∃ r created, (callFrame init dest j).1 = frameResult init r created := by
  obtain ⟨r, j', heq, -⟩ := callFrame_cases init j dest
  exact ⟨r, none, congrArg Prod.fst heq⟩

/-- A `CREATE` with empty init code gives back all of its gas. -/
theorem gas_createFrame : ∃ r created, (createFrame createAddress init j).1 =
    frameResult init r created := by
  obtain ⟨r, created, j', heq, -⟩ := createFrame_cases createAddress init j
  exact ⟨r, created, congrArg Prod.fst heq⟩

/-- Frames always run to a result, and change neither which accounts can be loaded nor which slots.
-/
theorem runExecLoop_ok (ctx : Ctx) :
    ∃ result ctx', runExecLoop createAddress init ctx = .ok result ctx' ∧
      ctx'.journal.dbError = ctx.journal.dbError ∧
      ctx'.journal.storageError = ctx.journal.storageError := by
  refine ⟨_, _, rfl, ?_⟩
  simp only
  cases init.kind with
  | call dest => exact loads_callFrame init ctx.journal dest
  | create => exact loads_createFrame createAddress init ctx.journal

end Transfers

end EvReth
