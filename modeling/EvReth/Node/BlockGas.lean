import EvReth.Foundations.Run
import EvReth.Node.Builder
import EvReth.Revm.Handler.Phases

/-!
# The gas of a block

`EvBlockExecutor` (`crates/node/src/evm_executor.rs`) keeps three counters of gas: what the receipts
count, and the regular and the state gas of EIP-8037. A transaction is admitted by one of them, and
by its gas limit clipped to the cap.

A caller may execute a transaction and commit its result later, or not at all. `Session` is an
executor together with the results that its caller holds; the runs of this file are sequences of
executions and commits. A result that is committed after another one was committed has been admitted
by counters that are out of date; without such commits the counter of admission never exceeds the
gas limit of the block.
-/

namespace EvReth

open EStateM Run

variable {Payload : TxType → Type}

namespace EvBlockExecutor

/-- The gas that counts for admission. -/
def blockGasUsed (self : EvBlockExecutor) : U64 :=
  if self.evm.env.cfgEnv.enableAmsterdamEip8037 then self.blockRegularGasUsed
  else self.cumulativeTxGasUsed

theorem blockAvailableGas_eq (a : EvBlockExecutor) :
    a.blockAvailableGas = a.evm.env.blockEnv.gasLimit - a.blockGasUsed := rfl

/-- The gas of a transaction that counts for admission. -/
def admissionGas (env : EvmEnv) (output : EvTxResult) : U64 :=
  if env.cfgEnv.enableAmsterdamEip8037 then output.result.result.gas.blockRegularGasUsed
  else output.result.result.gas.gasUsed

end EvBlockExecutor

open EvBlockExecutor

/-! ## Sessions -/

/-- A result that is held by the caller. -/
structure Executed where
  output : EvTxResult
  /-- The number of transactions that were committed when it was executed. -/
  position : ℕ

/-- An executor, the results that its caller holds, and those that were committed. -/
structure Session where
  executor : EvBlockExecutor
  executed : List Executed := []
  committed : List EvTxResult := []

/-- What a caller does: execute a transaction without a commit, or commit one of the results. -/
inductive Action (Payload : TxType → Type) where
  | execute (recovered : Recovered Payload)
  | commit (index : ℕ)

namespace Session

variable (config : EvEvmConfig Payload)

/-- The session of a new executor. -/
def new (evm : EvEvm) (ctx : EthBlockExecutionCtx) : Session :=
  { executor := EvBlockExecutor.new evm ctx }

/-- One action of the caller, with the failure that it returns, if any. -/
def step (self : Session) : Action Payload → Option BlockFailure × Session
  | .execute recovered =>
    match executeTransactionWithoutCommit config recovered self.executor with
    | .ok output executor =>
      (none, { self with
        executor
        executed := self.executed ++ [⟨output, self.committed.length⟩] })
    | .error e executor => (some e, { self with executor })
  | .commit index =>
    match self.executed[index]? with
    | none => (none, self)
    | some e =>
      (none,
        { executor := (commitTransaction config e.output self.executor).2
          -- a result is given away when it is committed
          executed := self.executed.eraseIdx index
          committed := self.committed ++ [e.output] })

end Session

/-- A commit is in time if no other result was committed since the transaction was executed. -/
def InTime (t : Transition Session (Action Payload) (Option BlockFailure)) : Prop :=
  match t.input with
  | .execute _ => True
  | .commit index => ∀ e, t.pre.executed[index]? = some e → e.position = t.pre.committed.length

instance (t : Transition Session (Action Payload) (Option BlockFailure)) : Decidable (InTime t) :=
  match h : t.input with
  | .execute _ => .isTrue (by rw [InTime, h]; trivial)
  | .commit index =>
    decidable_of_iff (t.pre.executed[index]?.all (·.position == t.pre.committed.length) = true)
      (by simp [InTime, h, Option.all_eq_true])

/-! ## What is relied on of revm -/

/-- The gas that revm reports for a transaction is at most its limit, and the regular gas is also at
most the cap. -/
structure ResultGas.WithinLimit (gas : ResultGas) (env : EvmEnv) (gasLimit : U64) : Prop where
  gasUsed_le : gas.gasUsed.toNat ≤ gasLimit.toNat
  regular_le : gas.blockRegularGasUsed.toNat ≤ gasLimit.toNat
  regular_le_cap : ∀ cap, env.cfgEnv.txGasLimitCap = some cap →
    gas.blockRegularGasUsed.toNat ≤ cap.toNat

instance (gas : ResultGas) (env : EvmEnv) (gasLimit : U64) :
    Decidable (gas.WithinLimit env gasLimit) :=
  decidable_of_iff (gas.gasUsed.toNat ≤ gasLimit.toNat ∧
      gas.blockRegularGasUsed.toNat ≤ gasLimit.toNat ∧
      env.cfgEnv.txGasLimitCap.all (gas.blockRegularGasUsed.toNat ≤ ·.toNat) = true)
    ⟨fun h => ⟨h.1, h.2.1, by simpa [Option.all_eq_true] using h.2.2⟩,
      fun h => ⟨h.gasUsed_le, h.regular_le, by simpa [Option.all_eq_true] using h.regular_le_cap⟩⟩

/-- The gas that the run of a transaction reports, if it runs. -/
def reportedGas (config : EvEvmConfig Payload) (recovered : Recovered Payload) (evm : EvEvm) :
    Option ResultGas :=
  match transact config recovered evm with
  | .ok result _ => some result.result.gas
  | .error _ _ => none

/-- What a transaction reports is the gas of its result. -/
theorem reportedGas_of_ok {config : EvEvmConfig Payload} {recovered : Recovered Payload}
    {evm evm' : EvEvm} {result : ResultAndState}
    (h : transact config recovered evm = .ok result evm') :
    reportedGas config recovered evm = some result.result.gas := by
  rw [reportedGas, h]

/-- The execution of this step reports gas within the limits. -/
def ReportsWithinLimit (config : EvEvmConfig Payload)
    (t : Transition Session (Action Payload) (Option BlockFailure)) : Prop :=
  match t.input with
  | .execute recovered =>
    ∀ gas ∈ reportedGas config recovered t.pre.executor.evm,
      gas.WithinLimit t.pre.executor.evm.env (recovered.tx.gasLimit config.eth)
  | .commit _ => True

instance (config : EvEvmConfig Payload)
    (t : Transition Session (Action Payload) (Option BlockFailure)) :
    Decidable (ReportsWithinLimit config t) :=
  match h : t.input with
  | .execute recovered =>
    decidable_of_iff (∀ gas ∈ reportedGas config recovered t.pre.executor.evm,
        gas.WithinLimit t.pre.executor.evm.env (recovered.tx.gasLimit config.eth))
      (by rw [ReportsWithinLimit, h])
  | .commit _ => .isTrue (by rw [ReportsWithinLimit, h]; trivial)

/-- Without EIP-8037 `validate_env` rejects a gas limit above the cap. -/
def Mainnet.ChecksCap (inner : Mainnet) (env : EvmEnv) : Prop :=
  ∀ ctx, ctx.cfg = env.handlerCfg → ctx.cfg.isAmsterdamEip8037Enabled = false →
    ctx.cfg.txGasLimitCap.toNat < ctx.tx.inner.gasLimit.toNat →
    ∃ e ctx', inner.validateEnv ctx = .error e ctx'

/-- The environment of a standard transaction has its gas limit. -/
def EthereumSupport.CopiesGasLimit (eth : EthereumSupport Payload) : Prop :=
  ∀ tx sender, (eth.toTxEnv tx sender).gasLimit = eth.gasLimit tx

/-- What is relied on in every transaction of a block with this environment. -/
structure EvEvmConfig.ChecksGas (config : EvEvmConfig Payload) (env : EvmEnv) : Prop where
  copiesGasLimit : config.eth.CopiesGasLimit
  checksCap : (config.mainnet env).ChecksCap env
  keepsSetup : (config.mainnet env).KeepsSetup

/-! ## Steps -/

section Steps

variable {config : EvEvmConfig Payload} {recovered : Recovered Payload} {a a' : EvBlockExecutor}

/-- A transaction is executed if its gas fits into the block, and only the EVM changes. -/
theorem executeTransactionWithoutCommit_eq_ok {output : EvTxResult}
    (h : executeTransactionWithoutCommit config recovered a = .ok output a') :
    ∃ result evm, transact config recovered a.evm = .ok result evm ∧
      output = txResult config recovered result ∧ a' = { a with evm } ∧
      (maxTxGasUsage config a.evm.env recovered.tx).toNat ≤ a.blockAvailableGas.toNat := by
  simp only [executeTransactionWithoutCommit] at h
  split_ifs at h with hgas
  cases hrun : transact config recovered a.evm with
  | error e evm =>
    rw [hrun] at h
    cases h
  | ok result evm =>
    rw [hrun] at h
    obtain ⟨rfl, rfl⟩ := EStateM.Result.ok.inj h
    exact ⟨result, evm, rfl, rfl, rfl, Nat.le_of_not_lt hgas⟩

/-- A transaction that fails has changed nothing but the EVM. -/
theorem executeTransactionWithoutCommit_eq_error {e : BlockFailure}
    (h : executeTransactionWithoutCommit config recovered a = .error e a') :
    a' = a ∨ ∃ f evm, transact config recovered a.evm = .error f evm ∧ a' = { a with evm } := by
  simp only [executeTransactionWithoutCommit] at h
  split_ifs at h with hgas
  · exact .inl (EStateM.Result.error.inj h).2.symm
  · cases hrun : transact config recovered a.evm with
    | ok result evm =>
      rw [hrun] at h
      cases h
    | error f evm =>
      rw [hrun] at h
      exact .inr ⟨f, evm, rfl, (EStateM.Result.error.inj h).2.symm⟩

/-- Executing a transaction changes nothing but the EVM, which keeps the environment of the block
and its configuration. -/
theorem executeTransactionWithoutCommit_keeps :
    ∃ evm, (executeTransactionWithoutCommit config recovered a).state = { a with evm } ∧
      evm.env = a.evm.env ∧
      ((config.mainnet a.evm.env).KeepsSetup → evm.ctx.cfg = a.evm.ctx.cfg) := by
  have henv : (transact config recovered a.evm).state.env = a.evm.env := EvEvm.env_transact
  have hcfg (hkeeps : (config.mainnet a.evm.env).KeepsSetup) :
      (transact config recovered a.evm).state.ctx.cfg = a.evm.ctx.cfg := by
    have hsame : a.evm.Same (transact config recovered a.evm).state := EvEvm.same_transact hkeeps
    exact (Prod.mk.inj hsame.setup).2.symm
  cases h : executeTransactionWithoutCommit config recovered a with
  | ok output a' =>
    obtain ⟨result, evm, hrun, -, rfl, -⟩ := executeTransactionWithoutCommit_eq_ok h
    rw [hrun] at henv hcfg
    exact ⟨evm, rfl, henv, hcfg⟩
  | error e a' =>
    rcases executeTransactionWithoutCommit_eq_error h with rfl | ⟨f, evm, hrun, rfl⟩
    · exact ⟨a'.evm, rfl, rfl, fun _ => rfl⟩
    · rw [hrun] at henv hcfg
      exact ⟨evm, rfl, henv, hcfg⟩

/-- Without EIP-8037 a transaction that runs has a gas limit within the cap. -/
theorem gasLimit_le_cap (heth : config.eth.CopiesGasLimit)
    (hcap : (config.mainnet a.evm.env).ChecksCap a.evm.env)
    (hcfg : a.evm.ctx.cfg = a.evm.env.handlerCfg)
    (hoff : a.evm.env.cfgEnv.enableAmsterdamEip8037 = false) {result : ResultAndState} {evm : EvEvm}
    (h : transact config recovered a.evm = .ok result evm) {cap : U64}
    (hsome : a.evm.env.cfgEnv.txGasLimitCap = some cap) :
    (recovered.tx.gasLimit config.eth).toNat ≤ cap.toNat := by
  obtain ⟨ctx, hrun⟩ := EvEvm.run_of_transact h
  obtain ⟨gas, refund, -, entry, -, hpre, -⟩ := EvHandler.run_eq_ok hrun
  obtain ⟨t⟩ := EvHandler.preTrace_of_ok hpre
  have hlimit : (EvTxEnv.fromRecoveredTx config.eth config.crypto recovered.tx
      recovered.signer).inner.gasLimit = recovered.tx.gasLimit config.eth := by
    cases recovered.tx with
    | ethereum tx => exact heth tx _
    | evNode tx signature => rfl
  by_contra hlt
  -- the first phase would have rejected the transaction
  obtain ⟨e, ctx', herror⟩ := hcap
    { a.evm.ctx with
      tx := EvTxEnv.fromRecoveredTx config.eth config.crypto recovered.tx recovered.signer }
    hcfg (by rw [hcfg]; exact hoff)
    (by
      rw [hcfg, hlimit, EvmEnv.handlerCfg, hsome]
      exact Nat.lt_of_not_le hlt)
  rw [t.hEnv] at herror
  cases herror

variable {s : Session}

/-- What one action can do to a session: a rejected transaction changes the EVM at most, an accepted
one adds a result, and a commit gives one of the results away. -/
theorem Session.step_cases (action : Action Payload) :
    (∃ evm, (step config s action).2 = { s with executor := { s.executor with evm } } ∧
        evm.env = s.executor.evm.env ∧
        ((config.mainnet s.executor.evm.env).KeepsSetup →
          evm.ctx.cfg = s.executor.evm.ctx.cfg)) ∨
      (∃ recovered result evm, action = .execute recovered ∧
        transact config recovered s.executor.evm = .ok result evm ∧
        (maxTxGasUsage config s.executor.evm.env recovered.tx).toNat ≤
          s.executor.blockAvailableGas.toNat ∧
        (step config s action).2 =
          { s with
            executor := { s.executor with evm }
            executed := s.executed ++ [⟨txResult config recovered result, s.committed.length⟩] } ∧
        evm.env = s.executor.evm.env ∧
        ((config.mainnet s.executor.evm.env).KeepsSetup →
          evm.ctx.cfg = s.executor.evm.ctx.cfg)) ∨
      ∃ index e, action = .commit index ∧ s.executed[index]? = some e ∧
        (step config s action).2 =
          { executor := (commitTransaction config e.output s.executor).2
            executed := s.executed.eraseIdx index
            committed := s.committed ++ [e.output] } := by
  cases action with
  | execute recovered =>
    obtain ⟨evm, hstate, henv, hcfg⟩ :=
      @executeTransactionWithoutCommit_keeps _ config recovered s.executor
    cases h : executeTransactionWithoutCommit config recovered s.executor with
    | error e a' =>
      -- a rejected transaction leaves no result
      rw [h] at hstate
      refine .inl ⟨evm, ?_, henv, hcfg⟩
      simp only [step, h]
      rw [show a' = _ from hstate]
    | ok output a' =>
      obtain ⟨result, evm', hrun, rfl, rfl, hgas⟩ := executeTransactionWithoutCommit_eq_ok h
      rw [h] at hstate
      obtain rfl : evm' = evm := congrArg EvBlockExecutor.evm hstate
      refine .inr (.inl ⟨recovered, result, evm', rfl, hrun, hgas, ?_, henv, hcfg⟩)
      simp only [step, h]
  | commit index =>
    cases h : s.executed[index]? with
    | none =>
      -- there is no such result: nothing happens
      refine .inl ⟨s.executor.evm, ?_, rfl, fun _ => rfl⟩
      simp only [step, h]
    | some e =>
      refine .inr (.inr ⟨index, e, rfl, h, ?_⟩)
      simp only [step, h]

end Steps

/-! ## Receipts -/

/-- The gas that the transactions have used. -/
def gasUsedSum (outputs : List EvTxResult) : ℕ :=
  (outputs.map fun output => output.result.result.gas.gasUsed.toNat).sum

theorem gasUsedSum_append (outputs : List EvTxResult) (output : EvTxResult) :
    gasUsedSum (outputs ++ [output]) =
      gasUsedSum outputs + output.result.result.gas.gasUsed.toNat := by
  simp [gasUsedSum]

/-- Some of the results have used no more gas than all of them. -/
theorem gasUsedSum_take_le (outputs : List EvTxResult) (i : ℕ) :
    gasUsedSum (outputs.take i) ≤ gasUsedSum outputs := by
  have hsplit : gasUsedSum (outputs.take i) + gasUsedSum (outputs.drop i) = gasUsedSum outputs := by
    rw [gasUsedSum, gasUsedSum, ← List.sum_append, ← List.map_append, List.take_append_drop,
      gasUsedSum]
  omega

/-- There is a receipt for each committed transaction, and it counts the gas up to it; the counter
wraps around. -/
structure Session.Receipts (s : Session) : Prop where
  cumulative_eq : s.executor.cumulativeTxGasUsed.toNat = gasUsedSum s.committed % 2 ^ 64
  length_eq : s.executor.receipts.length = s.committed.length
  receipt_eq : ∀ i receipt, s.executor.receipts[i]? = some receipt →
    receipt.cumulativeGasUsed.toNat = gasUsedSum (s.committed.take (i + 1)) % 2 ^ 64

namespace Session.Receipts

variable {config : EvEvmConfig Payload} {s : Session}

theorem new (evm : EvEvm) (ctx : EthBlockExecutionCtx) : (Session.new evm ctx).Receipts := by
  refine ⟨rfl, rfl, fun i receipt h => ?_⟩
  simp [Session.new, EvBlockExecutor.new] at h

/-- A commit appends the receipt of its transaction. -/
theorem commit (h : s.Receipts) (output : EvTxResult) (executed : List Executed) :
    Session.Receipts
      { executor := (commitTransaction config output s.executor).2
        executed
        committed := s.committed ++ [output] } := by
  have hcumulative : (s.executor.cumulativeTxGasUsed + output.result.result.gas.gasUsed).toNat =
      gasUsedSum (s.committed ++ [output]) % 2 ^ 64 := by
    rw [BitVec.toNat_add, h.cumulative_eq, gasUsedSum_append, Nat.mod_add_mod]
  refine ⟨hcumulative, ?_, fun i receipt hreceipt => ?_⟩
  · simp only [commitTransaction, List.length_append, List.length_singleton, h.length_eq]
  · simp only [commitTransaction, List.getElem?_append] at hreceipt
    split_ifs at hreceipt with hi
    · rw [h.length_eq] at hi
      rw [h.receipt_eq i receipt hreceipt, List.take_append_of_le_length (by omega)]
    · -- the new receipt is the last one
      rw [List.getElem?_singleton] at hreceipt
      split_ifs at hreceipt with hlast
      rw [h.length_eq] at hi hlast
      obtain rfl : i = s.committed.length := by omega
      rw [← Option.some.inj hreceipt, List.take_of_length_le (by simp)]
      exact hcumulative

/-- Every action keeps the receipts in order. -/
theorem step (h : s.Receipts) (action : Action Payload) : (s.step config action).2.Receipts := by
  -- an execution that is rejected, one that is accepted, and a commit
  rcases @Session.step_cases _ config s action with
    ⟨evm, hstep, -⟩ | ⟨recovered, result, evm, -, -, -, hstep, -⟩ | ⟨index, e, -, -, hstep⟩
  · rw [hstep]
    exact ⟨h.cumulative_eq, h.length_eq, h.receipt_eq⟩
  · rw [hstep]
    exact ⟨h.cumulative_eq, h.length_eq, h.receipt_eq⟩
  · rw [hstep]
    exact h.commit e.output _

end Session.Receipts

/-! ## Admission -/

/-- The gas of the transactions that counts for admission. -/
def admissionSum (env : EvmEnv) (outputs : List EvTxResult) : ℕ :=
  (outputs.map fun output => (admissionGas env output).toNat).sum

theorem admissionSum_append (env : EvmEnv) (outputs : List EvTxResult) (output : EvTxResult) :
    admissionSum env (outputs ++ [output]) =
      admissionSum env outputs + (admissionGas env output).toNat := by
  simp [admissionSum]

/-- The counter of admission counts exactly, it is within the gas limit of the block, and it stays
within it when a result that is still in time is committed. -/
structure Session.Admits (env : EvmEnv) (s : Session) : Prop where
  env_eq : s.executor.evm.env = env
  cfg_eq : s.executor.evm.ctx.cfg = env.handlerCfg
  used_eq : s.executor.blockGasUsed.toNat = admissionSum env s.committed
  used_le : s.executor.blockGasUsed.toNat ≤ env.blockEnv.gasLimit.toNat
  position_le : ∀ e ∈ s.executed, e.position ≤ s.committed.length
  fits : ∀ e ∈ s.executed, e.position = s.committed.length →
    s.executor.blockGasUsed.toNat + (admissionGas env e.output).toNat ≤
      env.blockEnv.gasLimit.toNat

section Admission

variable {config : EvEvmConfig Payload} {env : EvmEnv} {s : Session} {a : EvBlockExecutor}

/-- A commit adds the gas of its result to that of the block. -/
theorem blockGasUsed_commit (output : EvTxResult) :
    (commitTransaction config output a).2.blockGasUsed =
      a.blockGasUsed + admissionGas a.evm.env output := by
  have henv : (commitTransaction config output a).2.evm.env = a.evm.env := rfl
  rw [blockGasUsed, blockGasUsed, admissionGas, henv]
  split_ifs <;> rfl

theorem blockGasUsed_of_env {evm : EvEvm} (h : evm.env = a.evm.env) :
    ({ a with evm } : EvBlockExecutor).blockGasUsed = a.blockGasUsed := by
  simp only [blockGasUsed, h]

/-- The regular gas of a transaction is at most what it was admitted with. -/
theorem ResultGas.WithinLimit.regular_le_maxTxGasUsage {gas : ResultGas} {tx : EvTxEnvelope Payload}
    (h : gas.WithinLimit env (tx.gasLimit config.eth)) :
    gas.blockRegularGasUsed.toNat ≤ (maxTxGasUsage config env tx).toNat := by
  simp only [maxTxGasUsage]
  cases hsome : env.cfgEnv.txGasLimitCap with
  | none => exact h.regular_le
  | some cap =>
    simp only
    split_ifs
    · exact h.regular_le_cap cap hsome
    · exact h.regular_le

/-- What a transaction counts for admission is at most what it was admitted with. -/
theorem admissionGas_le {recovered : Recovered Payload} {result : ResultAndState}
    (hgas : result.result.gas.WithinLimit env (recovered.tx.gasLimit config.eth))
    (hcap : env.cfgEnv.enableAmsterdamEip8037 = false → ∀ cap,
      env.cfgEnv.txGasLimitCap = some cap →
        (recovered.tx.gasLimit config.eth).toNat ≤ cap.toNat) :
    (admissionGas env (txResult config recovered result)).toNat ≤
      (maxTxGasUsage config env recovered.tx).toNat := by
  rw [admissionGas]
  split_ifs with hmode
  · exact hgas.regular_le_maxTxGasUsage
  · simp only [maxTxGasUsage]
    cases hsome : env.cfgEnv.txGasLimitCap with
    | none => exact hgas.gasUsed_le
    | some cap =>
      -- the limit is within the cap, so it is not clipped
      have hle := hcap (Bool.eq_false_iff.mpr hmode) cap hsome
      simp only
      rw [if_neg (Nat.not_lt.mpr hle)]
      exact hgas.gasUsed_le

namespace Session.Admits

/-- A new session has its receipts in order. -/
theorem new {evm : EvEvm} (henv : evm.env = env) (hcfg : evm.ctx.cfg = env.handlerCfg)
    (ctx : EthBlockExecutionCtx) : (Session.new evm ctx).Admits env := by
  have hzero : (EvBlockExecutor.new evm ctx).blockGasUsed.toNat = 0 := by
    rw [blockGasUsed]
    split_ifs <;> rfl
  exact ⟨henv, hcfg, hzero, hzero.trans_le (Nat.zero_le _), nofun, nofun⟩

/-- The subtraction in the check of admission does not underflow. -/
theorem available_eq (h : s.Admits env) : s.executor.blockAvailableGas.toNat =
    env.blockEnv.gasLimit.toNat - s.executor.blockGasUsed.toNat := by
  rw [blockAvailableGas_eq, h.env_eq, BitVec.toNat_sub_of_le h.used_le]

/-- An execution within the gas that is left keeps the bound. -/
theorem execute (h : s.Admits env) {recovered : Recovered Payload} {result : ResultAndState}
    {evm : EvEvm} (henv : evm.env = env) (hcfg : evm.ctx.cfg = env.handlerCfg)
    (hadmitted : (maxTxGasUsage config env recovered.tx).toNat ≤
      s.executor.blockAvailableGas.toNat)
    (hgas : (admissionGas env (txResult config recovered result)).toNat ≤
      (maxTxGasUsage config env recovered.tx).toNat) :
    Session.Admits env
      { s with
        executor := { s.executor with evm }
        executed := s.executed ++ [⟨txResult config recovered result, s.committed.length⟩] } := by
  -- an execution does not count as used before it is committed
  have hused : ({ s.executor with evm } : EvBlockExecutor).blockGasUsed =
      s.executor.blockGasUsed := blockGasUsed_of_env (henv.trans h.env_eq.symm)
  rw [h.available_eq] at hadmitted
  have hle := h.used_le
  refine ⟨henv, hcfg, by rw [hused]; exact h.used_eq, by rw [hused]; exact hle, ?_, ?_⟩
  · intro e he
    rcases List.mem_append.mp he with he | he
    · exact h.position_le e he
    · obtain rfl := List.mem_singleton.mp he
      exact le_rfl
  · intro e he hposition
    simp only [hused]
    rcases List.mem_append.mp he with he | he
    · exact h.fits e he hposition
    · obtain rfl := List.mem_singleton.mp he
      simp only
      omega

/-- A commit in time keeps the bound. -/
theorem commit (h : s.Admits env) {index : ℕ} {e : Executed}
    (he : s.executed[index]? = some e) (hintime : e.position = s.committed.length) :
    Session.Admits env
      { executor := (commitTransaction config e.output s.executor).2
        executed := s.executed.eraseIdx index
        committed := s.committed ++ [e.output] } := by
  have hfits := h.fits e (List.mem_of_getElem? he) hintime
  have hused : (commitTransaction config e.output s.executor).2.blockGasUsed.toNat =
      s.executor.blockGasUsed.toNat + (admissionGas env e.output).toNat := by
    have hlt := env.blockEnv.gasLimit.isLt
    rw [blockGasUsed_commit, h.env_eq, BitVec.toNat_add_of_fits (by omega)]
  -- the results that are left are out of date
  have hposition : ∀ e' ∈ s.executed.eraseIdx index, e'.position ≤ s.committed.length :=
    fun e' he' => h.position_le e' (List.mem_of_mem_eraseIdx he')
  refine ⟨h.env_eq, h.cfg_eq, ?_, ?_, ?_, ?_⟩
  · rw [hused, admissionSum_append, h.used_eq]
  · rw [hused]
    exact hfits
  · intro e' he'
    have hle := hposition e' he'
    simp only [List.length_append, List.length_singleton]
    omega
  · intro e' he' heq
    have hle := hposition e' he'
    simp only [List.length_append, List.length_singleton] at heq
    omega

/-- Every action keeps the counter of admission within the gas limit, as long as what is committed
is in time. -/
theorem step (h : s.Admits env) (hrevm : config.ChecksGas env) (action : Action Payload)
    (hgas : ReportsWithinLimit config (Transition.of (Session.step config) s action))
    (hintime : InTime (Transition.of (Session.step config) s action)) :
    (s.step config action).2.Admits env := by
  have hcfg := h.cfg_eq
  obtain rfl := h.env_eq
  rcases @Session.step_cases _ config s action with
    ⟨evm, hstep, henv, hkeeps⟩ |
      ⟨recovered, result, evm, rfl, hrun, hadmitted, hstep, henv, hkeeps⟩ |
      ⟨index, e, rfl, he, hstep⟩
  · rw [hstep]
    have hused : ({ s.executor with evm } : EvBlockExecutor).blockGasUsed =
      s.executor.blockGasUsed := blockGasUsed_of_env henv
    exact ⟨henv, (hkeeps hrevm.keepsSetup).trans hcfg, by rw [hused]; exact h.used_eq,
      by rw [hused]; exact h.used_le, h.position_le, by simp only [hused]; exact h.fits⟩
  · rw [hstep]
    refine h.execute henv ((hkeeps hrevm.keepsSetup).trans hcfg) hadmitted ?_
    exact admissionGas_le (hgas _ (reportedGas_of_ok hrun)) fun hoff cap hsome =>
      gasLimit_le_cap hrevm.copiesGasLimit hrevm.checksCap hcfg hoff hrun hsome
  · rw [hstep]
    exact h.commit he (hintime e he)

end Session.Admits

end Admission

/-! ## Runs -/

/-- The result of a block reports the gas of its executor. -/
theorem finish_gasUsed {config : EvEvmConfig Payload} {a : EvBlockExecutor} {db : WorldState}
    {result : BlockExecutionResult} (h : finish config a = .ok (db, result)) :
    result.gasUsed = if a.evm.env.cfgEnv.enableAmsterdamEip8037 then a.maxBlockGasUsed
      else a.cumulativeTxGasUsed := by
  simp only [finish, Except.bind_eq_ok_iff] at h
  obtain ⟨⟨requests, db₁⟩, -, ⟨increments, db₂⟩, -, db₃, -, h⟩ := h
  rw [← (Prod.mk.inj (Except.ok.inj h)).2]

/-- The last receipt has the whole gas. -/
theorem Session.Receipts.last_eq {s : Session} (h : s.Receipts) :
    s.executor.cumulativeTxGasUsed =
      (s.executor.receipts.getLast?.map Receipt.cumulativeGasUsed).getD 0 := by
  rw [List.getLast?_eq_getElem?]
  cases hlast : s.executor.receipts[s.executor.receipts.length - 1]? with
  | none =>
    -- nothing was committed
    have hnone : s.committed = [] := by
      rw [← List.length_eq_zero_iff, ← h.length_eq]
      have hle := List.getElem?_eq_none_iff.mp hlast
      omega
    apply BitVec.eq_of_toNat_eq
    rw [h.cumulative_eq, hnone]
    rfl
  | some receipt =>
    have hpos := (List.getElem?_eq_some_iff.mp hlast).1
    have heq := h.receipt_eq _ receipt hlast
    rw [List.take_of_length_le (by rw [h.length_eq] at hpos ⊢; omega)] at heq
    exact BitVec.eq_of_toNat_eq (h.cumulative_eq.trans heq.symm)

/-- The gas of a block is accounted for: the counter of admission is exact and within the gas limit,
so that what is left of the block is their difference; there is a receipt for each transaction that
was committed, with the gas up to it; and without EIP-8037 the gas of the block is that of the last
receipt. -/
structure Session.AccountsForGas (config : EvEvmConfig Payload) (env : EvmEnv) (s : Session) :
    Prop where
  used_le : s.executor.blockGasUsed.toNat ≤ env.blockEnv.gasLimit.toNat
  used_eq : s.executor.blockGasUsed.toNat = admissionSum env s.committed
  available_eq : s.executor.blockAvailableGas.toNat =
    env.blockEnv.gasLimit.toNat - s.executor.blockGasUsed.toNat
  receipts_length : s.executor.receipts.length = s.committed.length
  receipt_eq : ∀ i receipt, s.executor.receipts[i]? = some receipt →
    gasUsedSum (s.committed.take (i + 1)) < 2 ^ 64 →
    receipt.cumulativeGasUsed.toNat = gasUsedSum (s.committed.take (i + 1))
  receipts_mono : gasUsedSum s.committed < 2 ^ 64 →
    ∀ (i j : ℕ) (receipt receipt' : Receipt), i ≤ j →
    s.executor.receipts[i]? = some receipt → s.executor.receipts[j]? = some receipt' →
    receipt.cumulativeGasUsed.toNat ≤ receipt'.cumulativeGasUsed.toNat
  finish_eq : env.cfgEnv.enableAmsterdamEip8037 = false → ∀ db result,
    finish config s.executor = .ok (db, result) →
    result.gasUsed = (s.executor.receipts.getLast?.map Receipt.cumulativeGasUsed).getD 0 ∧
      result.gasUsed.toNat ≤ env.blockEnv.gasLimit.toNat

/-- A session that admits what fits and keeps receipts accounts for its gas. -/
theorem Session.Admits.accountsForGas {config : EvEvmConfig Payload} {env : EvmEnv} {s : Session}
    (h : s.Admits env) (hreceipts : s.Receipts) : s.AccountsForGas config env := by
  -- a receipt is exact as long as the sum that it reports fits
  have hexact : ∀ i receipt, s.executor.receipts[i]? = some receipt →
      gasUsedSum (s.committed.take (i + 1)) < 2 ^ 64 →
      receipt.cumulativeGasUsed.toNat = gasUsedSum (s.committed.take (i + 1)) := by
    intro i receipt hreceipt hfits
    rw [hreceipts.receipt_eq i receipt hreceipt, Nat.mod_eq_of_lt hfits]
  refine ⟨h.used_le, h.used_eq, h.available_eq, hreceipts.length_eq, hexact, ?_, ?_⟩
  · intro hfits i j receipt receipt' hle hi hj
    have hall (k : ℕ) : gasUsedSum (s.committed.take k) < 2 ^ 64 :=
      lt_of_le_of_lt (gasUsedSum_take_le _ k) hfits
    rw [hexact i receipt hi (hall _), hexact j receipt' hj (hall _)]
    calc gasUsedSum (s.committed.take (i + 1))
        = gasUsedSum ((s.committed.take (j + 1)).take (i + 1)) := by
          rw [List.take_take, min_eq_left (by omega)]
      _ ≤ gasUsedSum (s.committed.take (j + 1)) := gasUsedSum_take_le _ _
  · intro hoff db result hfinish
    have hused := h.used_le
    rw [finish_gasUsed hfinish, h.env_eq, hoff, if_neg Bool.false_ne_true]
    refine ⟨hreceipts.last_eq, ?_⟩
    rwa [blockGasUsed, h.env_eq, hoff, if_neg Bool.false_ne_true] at hused

/-- The gas of a block is accounted for after every sequence of executions and commits, with any mix
of accepted and rejected transactions, as long as no result is committed after another one was. -/
theorem gas_accounting {config : EvEvmConfig Payload} {evm : EvEvm}
    (hcfg : evm.ctx.cfg = evm.env.handlerCfg) (hrevm : config.ChecksGas evm.env)
    (ctx : EthBlockExecutionCtx) (actions : List (Action Payload))
    (hgas : ∀ t ∈ transitions (Session.step config) (Session.new evm ctx) actions,
      ReportsWithinLimit config t)
    (hintime : ∀ t ∈ transitions (Session.step config) (Session.new evm ctx) actions, InTime t) :
    (finalState (Session.step config) (Session.new evm ctx) actions).AccountsForGas config
      evm.env := by
  have hinv : ∀ s action, s.Admits evm.env ∧ s.Receipts →
      ReportsWithinLimit config (Transition.of (Session.step config) s action) ∧
        InTime (Transition.of (Session.step config) s action) →
      (Session.step config s action).2.Admits evm.env ∧
        (Session.step config s action).2.Receipts := by
    rintro s action ⟨hadmits, hreceipts⟩ ⟨hstep, htime⟩
    exact ⟨hadmits.step hrevm action hstep htime, hreceipts.step action⟩
  obtain ⟨hadmits, hreceipts⟩ := finalState_of_invariant
    (I := fun s => s.Admits evm.env ∧ s.Receipts)
    (C := fun t => ReportsWithinLimit config t ∧ InTime t) hinv
    ⟨Session.Admits.new rfl hcfg ctx, Session.Receipts.new evm ctx⟩
    fun t ht => ⟨hgas t ht, hintime t ht⟩
  exact hadmits.accountsForGas hreceipts

/-! ## Payments in a block -/

open EvolvePayloadBuilder (paymentBuilder)

/-- A node whose transactions are payments that write state. -/
def storingConfig (stateGas : U64) : EvEvmConfig fun _ => Empty :=
  { paymentBuilder.evmConfig with mainnet := fun _ => Transfers.storing stateGas }

/-- A block under the cap of Osaka. -/
def cappedBlock (gasLimit : U64) (enableAmsterdamEip8037 : Bool) : EvmEnv :=
  { cfgEnv :=
      { chainId := 1
        spec := .osaka
        txGasLimitCap := some maxTxGasLimitOsaka
        enableAmsterdamEip8037 }
    blockEnv :=
      { number := 11
        beneficiary := 0xFE
        timestamp := 1710338136
        difficulty := 0
        prevrandao := some 0
        gasLimit
        basefee := 1
        blobExcessGasAndPrice := none
        slotNum := 0 } }

/-- A state in which the sender of the payments is wealthy. -/
def wealthyWorld : WorldState := fun a =>
  if a = EvTxEnvelope.paymentSender then some { info := { balance := 1000000000, nonce := 7 } }
  else none

/-- The beginning of a block on `wealthyWorld`. -/
def cappedSession (gasLimit : U64) (enableAmsterdamEip8037 : Bool) : Session :=
  Session.new (EvEvm.new (cappedBlock gasLimit enableAmsterdamEip8037) wealthyWorld)
    { parentHash := 0xAA
      parentBeaconBlockRoot := none
      withdrawals := none
      extraData := []
      slotNumber := none }

/-- A payment with its nonce and gas limit. -/
def recoveredPayment (nonce gasLimit : U64) : Recovered fun _ => Empty :=
  { tx := .evNode
      { EvNodeTransaction.wirePayment with nonce, gasLimit, feePayerSignature := none }
      EvTxEnvelope.unitSignature
    signer := EvTxEnvelope.paymentSender }

theorem checksGas_storingConfig (stateGas : U64) (env : EvmEnv) :
    (storingConfig stateGas).ChecksGas env := by
  refine ⟨fun tx => tx.tx.elim, fun ctx _ hoff hlt => ?_, Transfers.keepsSetup_storing stateGas⟩
  exact ⟨_, _, if_pos ⟨hoff, hlt⟩⟩

/-- In a block with gas for one payment, one of two results is committed; with EIP-8037 two payments
are committed whose gas limits are that of the block. -/
theorem gas_accounting_payments :
    (finalState (Session.step (storingConfig 0)) (cappedSession 30000 false)
        [.execute (recoveredPayment 7 30000), .execute (recoveredPayment 7 30000),
          .commit 1]).AccountsForGas (storingConfig 0) (cappedBlock 30000 false) ∧
      (finalState (Session.step (storingConfig 1000000)) (cappedSession 40000000 true)
        [.execute (recoveredPayment 7 40000000), .commit 0,
          .execute (recoveredPayment 8 40000000), .commit 0]).AccountsForGas
        (storingConfig 1000000) (cappedBlock 40000000 true) := by
  constructor
  · refine @gas_accounting _ (storingConfig 0) (EvEvm.new (cappedBlock 30000 false) wealthyWorld)
      rfl (checksGas_storingConfig _ _) _ _ ?_ ?_
    · decide +kernel
    · decide +kernel
  · refine @gas_accounting _ (storingConfig 1000000)
      (EvEvm.new (cappedBlock 40000000 true) wealthyWorld) rfl (checksGas_storingConfig _ _) _ _
      ?_ ?_
    · decide +kernel
    · decide +kernel

/-- Two results of the same block, both admitted before one of them is committed: the second commit
exceeds the gas limit, and what is left of the block wraps around. -/
theorem late_commit_exceeds_limit :
    (storingConfig 0).ChecksGas (cappedBlock 30000 false) ∧
      (∀ t ∈ transitions (Session.step (storingConfig 0)) (cappedSession 30000 false)
        [.execute (recoveredPayment 7 30000), .execute (recoveredPayment 7 30000), .commit 0,
          .commit 0], ReportsWithinLimit (storingConfig 0) t) ∧
      let s := finalState (Session.step (storingConfig 0)) (cappedSession 30000 false)
        [.execute (recoveredPayment 7 30000), .execute (recoveredPayment 7 30000), .commit 0,
          .commit 0]
      (cappedBlock 30000 false).blockEnv.gasLimit.toNat < s.executor.blockGasUsed.toNat ∧
        s.executor.blockAvailableGas.toNat = 2 ^ 64 - 12000 :=
  ⟨checksGas_storingConfig _ _, by decide +kernel, by decide +kernel⟩

end EvReth
