import EvReth.Node.EvmEnv
import EvReth.Revm.Recovered

/-!
# The block executor

`EvBlockExecutor` (`crates/node/src/evm_executor.rs`): admits a transaction by the gas that is left
in the block, runs it in the EVM of the block, and commits its state, its receipt and its gas.

A transaction that is not admitted or fails leaves no trace in the executor but the transaction that
its EVM holds, on which no later one depends.
-/

namespace EvReth

open EStateM

/-- `EthBlockExecutionCtx`. -/
structure EthBlockExecutionCtx where
  parentHash : B256
  parentBeaconBlockRoot : Option B256
  withdrawals : Option (List Withdrawal)
  extraData : Bytes
  slotNumber : Option U64
  deriving DecidableEq, Repr

/-- `Receipt`. -/
structure Receipt where
  txType : EvTxType
  success : Bool
  cumulativeGasUsed : U64
  logs : List Log
  deriving DecidableEq, Repr

/-- `BlockExecutionResult`. -/
structure BlockExecutionResult where
  receipts : List Receipt
  requests : List Bytes
  gasUsed : U64
  blobGasUsed : U64
  deriving DecidableEq, Repr

/-- `BlockExecutionError`, without the hash of the transaction. -/
inductive BlockExecutionError where
  | transactionGasLimitMoreThanAvailableBlockGas (transactionGasLimit blockAvailableGas : U64)
  | evm (e : HandlerError)
  | incrementBalanceFailed
  | other (msg : String)
  deriving DecidableEq, Repr

/-- How the execution of a block fails: with an error that is returned, or by a panic. -/
inductive BlockFailure where
  | error (e : BlockExecutionError)
  | panic (msg : String)
  deriving DecidableEq, Repr

/-- A transaction and its signer. -/
structure Recovered (Payload : TxType → Type) where
  tx : EvTxEnvelope Payload
  signer : Address

/-- `ResultAndState` with what the receipt needs of the transaction (`EvTxResult`). -/
structure EvTxResult where
  result : ResultAndState
  blobGasUsed : U64
  txType : EvTxType

/-- `GasOutput`. -/
structure GasOutput where
  txGasUsed : U64
  stateGasUsed : U64
  deriving DecidableEq, Repr

/-- What alloy and reth do to the state before and after the transactions of a block. -/
structure SystemCalls where
  applyBlockhashesContractCall : B256 → EvmEnv → WorldState → Except String WorldState
  applyBeaconRootContractCall : Option B256 → EvmEnv → WorldState → Except String WorldState
  parseDepositsFromReceipts : List Receipt → Except String Bytes
  appendPostExecutionChanges : EvmEnv → WorldState → Except String (List Bytes × WorldState)
  postBlockBalanceIncrements : EvmEnv → EthBlockExecutionCtx → List (Address × U128)
  /-- `drain_balances` of the accounts of the DAO fork. -/
  drainDaoBalances : WorldState → Except String (List U128 × WorldState)
  incrementBalances : List (Address × U128) → WorldState → Except String WorldState

/-- `DEPOSIT_REQUEST_TYPE`. -/
def depositRequestType : UInt8 := 0x00

/-- `DAO_HARDFORK_BENEFICIARY`. -/
def daoHardforkBeneficiary : Address := 0xbf4ed7b27f1d666546e30d74d50d173d20bca754

/-- What the block assembler of reth puts a block together from. -/
structure AssemblerInput (Payload : TxType → Type) where
  env : EvmEnv
  ctx : EthBlockExecutionCtx
  transactions : List (EvTxEnvelope Payload)
  result : BlockExecutionResult
  stateRoot : B256

/-- `EvEvmConfig`, with what the node takes from its dependencies. -/
structure EvEvmConfig (Payload : TxType → Type) where
  chainSpec : ChainSpec
  evmFactory : EvTxEvmFactory
  /-- revm's phases under the environment of a block. -/
  mainnet : EvmEnv → Mainnet
  eth : EthereumSupport Payload
  crypto : Crypto
  systemCalls : SystemCalls
  /-- The state root after changes that lead from one state to another. -/
  stateRoot : WorldState → WorldState → Except String B256
  /-- The fields of a header that no environment depends on: the roots, the gas used and so on. -/
  assembleRest : AssemblerInput Payload → Header
  /-- The withdrawals in the body of the block. -/
  assembleWithdrawals : AssemblerInput Payload → Option (List Withdrawal) :=
    fun input => input.ctx.withdrawals
  /-- The hash of a header. -/
  hashSlow : Header → B256

/-- `EvBlockExecutor`. Chain specification and receipt builder are those of the configuration. -/
structure EvBlockExecutor where
  ctx : EthBlockExecutionCtx
  evm : EvEvm
  receipts : List Receipt := []
  cumulativeTxGasUsed : U64 := 0
  blockRegularGasUsed : U64 := 0
  blockStateGasUsed : U64 := 0
  blobGasUsed : U64 := 0

/-- Replace the database of an EVM. -/
def EvEvm.setDb (self : EvEvm) (db : WorldState) : EvEvm :=
  { self with db, ctx := { self.ctx with journal := db.load }, journal_eq := rfl }

namespace EvBlockExecutor

variable {Payload : TxType → Type} (config : EvEvmConfig Payload)

/-- `new`. -/
def new (evm : EvEvm) (ctx : EthBlockExecutionCtx) : EvBlockExecutor := { evm, ctx }

/-- `max_block_gas_used`. -/
def maxBlockGasUsed (self : EvBlockExecutor) : U64 :=
  if self.blockStateGasUsed.toNat < self.blockRegularGasUsed.toNat then self.blockRegularGasUsed
  else self.blockStateGasUsed

/-- A failing call into alloy, as an error of the block. -/
def ofSystem {α : Type} (x : Except String α) : Except BlockExecutionError α :=
  x.mapError .other

/-- `apply_pre_execution_changes`. -/
def applyPreExecutionChanges (self : EvBlockExecutor) :
    Except BlockExecutionError EvBlockExecutor := do
  let db ← ofSystem
    (config.systemCalls.applyBlockhashesContractCall self.ctx.parentHash self.evm.env self.evm.db)
  let db ← ofSystem
    (config.systemCalls.applyBeaconRootContractCall self.ctx.parentBeaconBlockRoot self.evm.env db)
  return { self with evm := self.evm.setDb db }

/-- The most gas that a transaction is counted with before it runs. -/
def maxTxGasUsage (env : EvmEnv) (tx : EvTxEnvelope Payload) : U64 :=
  let gasLimit := tx.gasLimit config.eth
  match env.cfgEnv.txGasLimitCap with
  | some cap => if cap.toNat < gasLimit.toNat then cap else gasLimit
  | none => gasLimit

/-- The gas that is left in the block. The subtraction wraps around. -/
def blockAvailableGas (self : EvBlockExecutor) : U64 :=
  let blockGasUsed :=
    if self.evm.env.cfgEnv.enableAmsterdamEip8037 then self.blockRegularGasUsed
    else self.cumulativeTxGasUsed
  self.evm.env.blockEnv.gasLimit - blockGasUsed

/-- A failure of the EVM, as one of the block. -/
def ofFailure : Failure → BlockFailure
  | .error e => .error (.evm e)
  | .panic msg => .panic msg

/-- `evm.transact(tx_env)`: run the transaction under the policies of the block. -/
def transact (recovered : Recovered Payload) : EStateM Failure EvEvm ResultAndState := fun evm =>
  EvEvm.transact (config.evmFactory.handlerFor evm.env) (config.mainnet evm.env)
    (EvTxEnv.fromRecoveredTx config.eth config.crypto recovered.tx recovered.signer) evm

/-- The result of a transaction, as it is committed. -/
def txResult (recovered : Recovered Payload) (result : ResultAndState) : EvTxResult :=
  { result
    blobGasUsed := (recovered.tx.blobGasUsed config.eth).getD 0
    txType := recovered.tx.txType }

/-- `execute_transaction_without_commit`. -/
def executeTransactionWithoutCommit (recovered : Recovered Payload) :
    EStateM BlockFailure EvBlockExecutor EvTxResult := fun self =>
  let maxTxGasUsage := maxTxGasUsage config self.evm.env recovered.tx
  if self.blockAvailableGas.toNat < maxTxGasUsage.toNat then
    .error (.error (.transactionGasLimitMoreThanAvailableBlockGas maxTxGasUsage
      self.blockAvailableGas)) self
  else
    match transact config recovered self.evm with
    | .ok result evm => .ok (txResult config recovered result) { self with evm }
    | .error e evm => .error (ofFailure e) { self with evm }

/-- `commit_transaction`. The counters wrap around, that of the blob gas apart. -/
def commitTransaction (output : EvTxResult) (self : EvBlockExecutor) :
    GasOutput × EvBlockExecutor :=
  let result := output.result.result
  let cumulativeTxGasUsed := self.cumulativeTxGasUsed + result.gas.gasUsed
  let isCancun := config.chainSpec.isCancunActiveAtTimestamp
    (saturatingToU64 self.evm.env.blockEnv.timestamp)
  let receipt : Receipt :=
    { txType := output.txType
      success := result.result.isOk
      cumulativeGasUsed := cumulativeTxGasUsed
      logs := result.logs }
  ({ txGasUsed := result.gas.gasUsed, stateGasUsed := result.gas.blockStateGasUsed },
    { self with
      blockRegularGasUsed := self.blockRegularGasUsed + result.gas.blockRegularGasUsed
      blockStateGasUsed := self.blockStateGasUsed + result.gas.blockStateGasUsed
      cumulativeTxGasUsed
      -- of the sums only this one saturates
      blobGasUsed := if isCancun then self.blobGasUsed.saturatingAdd output.blobGasUsed
        else self.blobGasUsed
      receipts := self.receipts ++ [receipt]
      evm := self.evm.commit output.result.state })

/-- `execute_transaction`: execute and commit. -/
def executeTransaction (recovered : Recovered Payload) :
    EStateM BlockFailure EvBlockExecutor GasOutput := fun self =>
  match executeTransactionWithoutCommit config recovered self with
  | .ok output self =>
    let (gas, self) := commitTransaction config output self
    .ok gas self
  | .error e self => .error e self

/-- `entry(address).or_default() += amount`. -/
def addIncrement (address : Address) (amount : U128) :
    List (Address × U128) → List (Address × U128)
  | [] => [(address, amount)]
  | (a, b) :: increments =>
    if a = address then (a, b + amount) :: increments
    else (a, b) :: addIncrement address amount increments

/-- The requests of the block, and the state after the calls that make them. -/
def finishRequests (self : EvBlockExecutor) :
    Except BlockExecutionError (List Bytes × WorldState) := do
  let timestamp := saturatingToU64 self.evm.env.blockEnv.timestamp
  if config.chainSpec.isPragueActiveAtTimestamp timestamp then
    let deposits ← ofSystem (config.systemCalls.parseDepositsFromReceipts self.receipts)
    let depositRequests := if deposits.isEmpty then [] else [depositRequestType :: deposits]
    let (requests, db) ← ofSystem
      (config.systemCalls.appendPostExecutionChanges self.evm.env self.evm.db)
    return (depositRequests ++ requests, db)
  else return ([], self.evm.db)

/-- A failing change of balances. -/
def ofBalances {α : Type} (x : Except String α) : Except BlockExecutionError α :=
  x.mapError fun _ => .incrementBalanceFailed

/-- The balances to be increased after the block. The DAO fork moves those of its accounts. -/
def finishIncrements (self : EvBlockExecutor) (db : WorldState) :
    Except BlockExecutionError (List (Address × U128) × WorldState) := do
  let increments := config.systemCalls.postBlockBalanceIncrements self.evm.env self.ctx
  if config.chainSpec.daoTransitionsAtBlock (saturatingToU64 self.evm.env.blockEnv.number) then
    let (drained, db) ← ofBalances (config.systemCalls.drainDaoBalances db)
    return (addIncrement daoHardforkBeneficiary drained.sum increments, db)
  else return (increments, db)

/-- `finish`: the state after the block, and its result. -/
def finish (self : EvBlockExecutor) :
    Except BlockExecutionError (WorldState × BlockExecutionResult) := do
  let (requests, db) ← finishRequests config self
  let (increments, db) ← finishIncrements config self db
  let db ← ofBalances (config.systemCalls.incrementBalances increments db)
  return (db,
    { receipts := self.receipts
      requests
      gasUsed := if self.evm.env.cfgEnv.enableAmsterdamEip8037 then self.maxBlockGasUsed
        else self.cumulativeTxGasUsed
      blobGasUsed := self.blobGasUsed })

/-! ## Rejected transactions leave no trace -/

/-- Two executors that differ at most in the transaction that they have executed last. -/
structure Same (a b : EvBlockExecutor) : Prop where
  evm : a.evm.Same b.evm
  ctx : a.ctx = b.ctx
  receipts : a.receipts = b.receipts
  cumulativeTxGasUsed : a.cumulativeTxGasUsed = b.cumulativeTxGasUsed
  blockRegularGasUsed : a.blockRegularGasUsed = b.blockRegularGasUsed
  blockStateGasUsed : a.blockStateGasUsed = b.blockStateGasUsed
  blobGasUsed : a.blobGasUsed = b.blobGasUsed

variable {config} {recovered : Recovered Payload} {a b c : EvBlockExecutor}

theorem Same.refl (a : EvBlockExecutor) : Same a a :=
  ⟨.refl _, rfl, rfl, rfl, rfl, rfl, rfl⟩

theorem Same.symm (h : Same a b) : Same b a :=
  ⟨h.evm.symm, h.ctx.symm, h.receipts.symm, h.cumulativeTxGasUsed.symm, h.blockRegularGasUsed.symm,
    h.blockStateGasUsed.symm, h.blobGasUsed.symm⟩

theorem Same.trans (h : Same a b) (h' : Same b c) : Same a c :=
  ⟨h.evm.trans h'.evm, h.ctx.trans h'.ctx, h.receipts.trans h'.receipts,
    h.cumulativeTxGasUsed.trans h'.cumulativeTxGasUsed,
    h.blockRegularGasUsed.trans h'.blockRegularGasUsed,
    h.blockStateGasUsed.trans h'.blockStateGasUsed, h.blobGasUsed.trans h'.blobGasUsed⟩

theorem Same.blockAvailableGas (h : Same a b) : a.blockAvailableGas = b.blockAvailableGas := by
  simp only [EvBlockExecutor.blockAvailableGas, h.evm.env, h.cumulativeTxGasUsed,
    h.blockRegularGasUsed]

/-- A transaction is refused if its gas does not fit into the block; otherwise it is run, and
committed if it has a result. -/
theorem executeTransaction_eq :
    executeTransaction config recovered a =
      if a.blockAvailableGas.toNat < (maxTxGasUsage config a.evm.env recovered.tx).toNat then
        .error (.error (.transactionGasLimitMoreThanAvailableBlockGas
          (maxTxGasUsage config a.evm.env recovered.tx) a.blockAvailableGas)) a
      else
        match transact config recovered a.evm with
        | .ok result evm =>
          .ok (commitTransaction config (txResult config recovered result) { a with evm }).1
            (commitTransaction config (txResult config recovered result) { a with evm }).2
        | .error e evm => .error (ofFailure e) { a with evm } := by
  unfold executeTransaction executeTransactionWithoutCommit
  by_cases hgas :
      a.blockAvailableGas.toNat < (maxTxGasUsage config a.evm.env recovered.tx).toNat
  · simp only [hgas, if_true]
  · simp only [hgas, if_false]
    cases transact config recovered a.evm <;> rfl

/-- The system calls before the transactions keep environment and context. -/
theorem applyPreExecutionChanges_keeps {a' : EvBlockExecutor}
    (h : applyPreExecutionChanges config a = .ok a') : a'.evm.env = a.evm.env ∧ a'.ctx = a.ctx := by
  simp only [applyPreExecutionChanges, Except.bind_eq_ok_iff] at h
  obtain ⟨-, -, db, -, h⟩ := h
  rw [← Except.ok.inj h]
  exact ⟨rfl, rfl⟩

/-- A transaction runs in the environment and in the context of its block. -/
theorem executeTransaction_keeps :
    (executeTransaction config recovered a).state.evm.env = a.evm.env ∧
      (executeTransaction config recovered a).state.ctx = a.ctx := by
  have henv : (transact config recovered a.evm).state.env = a.evm.env := EvEvm.env_transact
  rw [executeTransaction_eq]
  split_ifs
  · exact ⟨rfl, rfl⟩
  · cases hrun : transact config recovered a.evm with
    | ok result evm =>
      rw [hrun] at henv
      exact ⟨henv, rfl⟩
    | error e evm =>
      rw [hrun] at henv
      exact ⟨henv, rfl⟩

variable (config recovered a) in
/-- The transaction is admitted, and its payment does not fit when its fees are checked. -/
def Overflows : Prop :=
  ¬ a.blockAvailableGas.toNat < (maxTxGasUsage config a.evm.env recovered.tx).toNat ∧
    (config.evmFactory.handlerFor a.evm.env).ReachesOverflow (config.mainnet a.evm.env)
      { a.evm.ctx with
        tx := EvTxEnv.fromRecoveredTx config.eth config.crypto recovered.tx recovered.signer }

/-- Executing a transaction panics exactly if its fees overflow. -/
theorem executeTransaction_panics_iff (hinner : ∀ env, (config.mainnet env).NeverPanics) :
    (∃ msg a', executeTransaction config recovered a = .error (.panic msg) a') ↔
      Overflows config recovered a := by
  have hpanics : (∃ msg evm, transact config recovered a.evm = .error (.panic msg) evm) ↔ _ :=
    EvEvm.transact_panics_iff (hinner a.evm.env)
  rw [executeTransaction_eq, Overflows, ← hpanics]
  split_ifs with hgas
  · exact iff_of_false (fun ⟨_, _, h⟩ => nomatch h) fun h => h.1 hgas
  · rcases hrun : transact config recovered a.evm with ⟨result, evm⟩ | ⟨_ | msg, evm⟩
    · exact iff_of_false (fun ⟨_, _, h⟩ => nomatch h) fun ⟨_, _, _, h⟩ => nomatch h
    · exact iff_of_false (fun ⟨_, _, h⟩ => nomatch h) fun ⟨_, _, _, h⟩ => nomatch h
    · exact iff_of_true ⟨msg, _, rfl⟩ ⟨hgas, msg, evm, rfl⟩

/-- An executor that has rejected a transaction is the same as before. -/
theorem same_of_executeTransaction_error (hinner : ∀ env, (config.mainnet env).KeepsSetup)
    {e : BlockFailure} {a' : EvBlockExecutor}
    (h : executeTransaction config recovered a = .error e a') : Same a a' := by
  have hsame : a.evm.Same (transact config recovered a.evm).state :=
    EvEvm.same_transact (hinner a.evm.env)
  rw [executeTransaction_eq] at h
  split_ifs at h with hgas
  · obtain ⟨-, rfl⟩ := EStateM.Result.error.inj h
    exact .refl a
  · cases hrun : transact config recovered a.evm with
    | ok result evm =>
      rw [hrun] at h
      cases h
    | error e₁ evm =>
      rw [hrun] at h hsame
      obtain ⟨-, rfl⟩ := EStateM.Result.error.inj h
      exact ⟨hsame, rfl, rfl, rfl, rfl, rfl, rfl⟩

/-- Equal executors run a transaction alike. -/
theorem transact_of_same (h : a.evm.Same b.evm) :
    transact config recovered a.evm = transact config recovered b.evm := by
  unfold transact
  rw [h.env]
  exact EvEvm.transact_eq_of_same h

/-- A transaction that one of two same executors accepts is accepted by the other, with the same
outcome. -/
theorem executeTransaction_of_same (hsame : Same a b) {gas : GasOutput} {a' : EvBlockExecutor}
    (h : executeTransaction config recovered a = .ok gas a') :
    executeTransaction config recovered b = .ok gas a' := by
  rw [executeTransaction_eq] at h ⊢
  rw [← hsame.blockAvailableGas, ← hsame.evm.env, ← transact_of_same hsame.evm]
  split_ifs at h with hgas
  rw [if_neg hgas]
  cases hrun : transact config recovered a.evm with
  | error e evm =>
    rw [hrun] at h
    cases h
  | ok result evm =>
    -- once the transaction has run, the two executors are equal
    have heq : ({ a with evm } : EvBlockExecutor) = { b with evm } := by
      rw [EvBlockExecutor.mk.injEq]
      exact ⟨hsame.ctx, rfl, hsame.receipts, hsame.cumulativeTxGasUsed, hsame.blockRegularGasUsed,
        hsame.blockStateGasUsed, hsame.blobGasUsed⟩
    simp only [hrun] at h ⊢
    rw [← heq]
    exact h

/-- Same executors finish alike. -/
theorem finish_of_same (hsame : Same a b) : finish config a = finish config b := by
  obtain ⟨ctx, evm, receipts, cumulative, regular, state, blob⟩ := a
  obtain ⟨ctx', evm', receipts', cumulative', regular', state', blob'⟩ := b
  obtain ⟨⟨henv, hdb, -⟩, rfl, rfl, rfl, rfl, rfl, rfl⟩ := hsame
  simp only [finish, finishRequests, finishIncrements, maxBlockGasUsed] at henv hdb ⊢
  rw [henv, hdb]

end EvBlockExecutor

/-- State access, system calls and the computation of the state root do not fail. -/
structure EvEvmConfig.Reliable {Payload : TxType → Type} (config : EvEvmConfig Payload) : Prop where
  applyBlockhashes : ∀ hash env db,
    (config.systemCalls.applyBlockhashesContractCall hash env db).Succeeds
  applyBeaconRoot : ∀ root env db,
    (config.systemCalls.applyBeaconRootContractCall root env db).Succeeds
  parseDeposits : ∀ receipts, (config.systemCalls.parseDepositsFromReceipts receipts).Succeeds
  appendPostExecution : ∀ env db, (config.systemCalls.appendPostExecutionChanges env db).Succeeds
  drainDao : ∀ db, (config.systemCalls.drainDaoBalances db).Succeeds
  incrementBalances : ∀ increments db,
    (config.systemCalls.incrementBalances increments db).Succeeds
  stateRoot : ∀ base db, (config.stateRoot base db).Succeeds

namespace EvBlockExecutor

variable {Payload : TxType → Type} {config : EvEvmConfig Payload}

/-- On a reliable database the system calls before the transactions succeed. -/
theorem applyPreExecutionChanges_succeeds (h : config.Reliable) (a : EvBlockExecutor) :
    (applyPreExecutionChanges config a).Succeeds :=
  ((h.applyBlockhashes _ _ _).mapError _).bind fun _ =>
    ((h.applyBeaconRoot _ _ _).mapError _).bind fun _ => Except.succeeds_pure

theorem finish_succeeds (h : config.Reliable) (a : EvBlockExecutor) :
    (finish config a).Succeeds := by
  have hrequests : (finishRequests config a).Succeeds :=
    Except.Succeeds.ite
      (((h.parseDeposits _).mapError _).bind fun _ =>
        ((h.appendPostExecution _ _).mapError _).bind fun _ => Except.succeeds_pure)
      Except.succeeds_pure
  have hincrements (db : WorldState) : (finishIncrements config a db).Succeeds :=
    Except.Succeeds.ite (((h.drainDao _).mapError _).bind fun _ => Except.succeeds_pure)
      Except.succeeds_pure
  exact hrequests.bind fun _ => (hincrements _).bind fun _ =>
    ((h.incrementBalances _ _).mapError _).bind fun _ => Except.succeeds_pure

end EvBlockExecutor

end EvReth
