import EvReth.Node.BlockGas

/-!
# Blocks with state gas

A block is built and executed by executing its transactions one after the other and committing those
that are accepted. With EIP-8037 the gas of the block is the larger of its regular and its state
gas; the check of admission of `EvBlockExecutor` (`crates/node/src/evm_executor.rs`) looks at the
regular gas only.
-/

namespace EvReth

open EStateM Run EvBlockExecutor

variable {Payload : TxType → Type} {config : EvEvmConfig Payload} {recovered : Recovered Payload}
  {a : EvBlockExecutor}

namespace EvBlockExecutor

/-- Execute a transaction and commit it; a transaction that is rejected is passed over. -/
def blockStep (config : EvEvmConfig Payload) (self : EvBlockExecutor)
    (recovered : Recovered Payload) : Option BlockFailure × EvBlockExecutor :=
  match executeTransaction config recovered self with
  | .ok _ self => (none, self)
  | .error e self => (some e, self)

/-- The steps of the run of an executor over transactions. -/
abbrev BlockTransition (Payload : TxType → Type) :=
  Transition EvBlockExecutor (Recovered Payload) (Option BlockFailure)

/-- The gas of the transaction fits into what the block has left for admission. -/
def Admits (config : EvEvmConfig Payload) (self : EvBlockExecutor)
    (recovered : Recovered Payload) : Prop :=
  (maxTxGasUsage config self.evm.env recovered.tx).toNat ≤ self.blockAvailableGas.toNat

instance (self : EvBlockExecutor) : Decidable (self.Admits config recovered) :=
  inferInstanceAs (Decidable (_ ≤ _))

/-- What one transaction can do to the executor: if it is rejected the EVM changes at most, and if
it is accepted its result is committed. -/
theorem blockStep_cases (config : EvEvmConfig Payload) (a : EvBlockExecutor)
    (recovered : Recovered Payload) :
    (∃ evm, (blockStep config a recovered).2 = { a with evm } ∧ evm.env = a.evm.env) ∨
      ∃ result evm, transact config recovered a.evm = .ok result evm ∧ a.Admits config recovered ∧
        (blockStep config a recovered).2 =
          (commitTransaction config (txResult config recovered result) { a with evm }).2 ∧
        evm.env = a.evm.env := by
  obtain ⟨evm, hstate, henv, -⟩ := @executeTransactionWithoutCommit_keeps _ config recovered a
  cases h : executeTransactionWithoutCommit config recovered a with
  | error e a' =>
    rw [h] at hstate
    obtain rfl : a' = { a with evm } := hstate
    exact .inl ⟨evm, by simp only [blockStep, executeTransaction, h], henv⟩
  | ok output a' =>
    obtain ⟨result, evm', hrun, rfl, rfl, hgas⟩ := executeTransactionWithoutCommit_eq_ok h
    rw [h] at hstate
    obtain rfl : evm' = evm := congrArg EvBlockExecutor.evm hstate
    exact .inr ⟨result, evm', hrun, hgas, by simp only [blockStep, executeTransaction, h], henv⟩

end EvBlockExecutor

/-! ## State gas -/

/-- With EIP-8037 the regular and the state gas that revm reports for a transaction are together at
most its limit. -/
def ReportsBothWithinLimit (config : EvEvmConfig Payload) (t : BlockTransition Payload) : Prop :=
  ∀ gas ∈ reportedGas config t.input t.pre.evm,
    gas.WithinLimit t.pre.evm.env (t.input.tx.gasLimit config.eth) ∧
      gas.blockRegularGasUsed.toNat + gas.blockStateGasUsed.toNat ≤
        (t.input.tx.gasLimit config.eth).toNat

/-- The check that is missing for state gas: a transaction that is admitted fits into what the block
has left of it. -/
def StateGasFits (config : EvEvmConfig Payload) (t : BlockTransition Payload) : Prop :=
  t.pre.Admits config t.input →
    t.pre.blockStateGasUsed.toNat + (t.input.tx.gasLimit config.eth).toNat ≤
      t.pre.evm.env.blockEnv.gasLimit.toNat

instance (t : BlockTransition Payload) : Decidable (ReportsBothWithinLimit config t) :=
  inferInstanceAs (Decidable (∀ gas ∈ reportedGas config t.input t.pre.evm, _ ∧ _ ≤ _))

instance (t : BlockTransition Payload) : Decidable (StateGasFits config t) :=
  inferInstanceAs (Decidable (_ → _ ≤ _))

/-- Both counters of EIP-8037 are within the gas limit of the block. -/
structure EvBlockExecutor.WithinBlock (env : EvmEnv) (a : EvBlockExecutor) : Prop where
  env_eq : a.evm.env = env
  regular_le : a.blockRegularGasUsed.toNat ≤ env.blockEnv.gasLimit.toNat
  state_le : a.blockStateGasUsed.toNat ≤ env.blockEnv.gasLimit.toNat

namespace EvBlockExecutor.WithinBlock

variable {env : EvmEnv}

/-- With EIP-8037 the regular gas that a block has left is the difference. -/
theorem available_eq (h : a.WithinBlock env) (hon : env.cfgEnv.enableAmsterdamEip8037 = true) :
    a.blockAvailableGas.toNat = env.blockEnv.gasLimit.toNat - a.blockRegularGasUsed.toNat := by
  have hused : a.blockGasUsed = a.blockRegularGasUsed := by
    rw [blockGasUsed, h.env_eq, hon, if_pos rfl]
  rw [blockAvailableGas_eq, hused, h.env_eq, BitVec.toNat_sub_of_le h.regular_le]

/-- A transaction whose state gas fits keeps the gas of the block within its limit. -/
theorem step (h : a.WithinBlock env) (hon : env.cfgEnv.enableAmsterdamEip8037 = true)
    (recovered : Recovered Payload)
    (hgas : ReportsBothWithinLimit config (Transition.of (blockStep config) a recovered))
    (hfits : StateGasFits config (Transition.of (blockStep config) a recovered)) :
    (blockStep config a recovered).2.WithinBlock env := by
  rcases blockStep_cases config a recovered with
    ⟨evm, hstep, henv⟩ | ⟨result, evm, hrun, hadmits, hstep, henv⟩
  · rw [hstep]
    exact ⟨henv.trans h.env_eq, h.regular_le, h.state_le⟩
  · rw [hstep]
    -- neither counter wraps, as both stay within a limit of 64 bits
    have hlt := env.blockEnv.gasLimit.isLt
    obtain ⟨hwithin, hboth⟩ := hgas _ (reportedGas_of_ok hrun)
    have hstate := hfits hadmits
    have havailable := h.available_eq hon
    have hle := h.regular_le
    -- the regular gas is within what the transaction was admitted with
    have hregular := hwithin.regular_le_maxTxGasUsage.trans hadmits
    obtain rfl := h.env_eq
    simp only [Transition.of] at hregular hboth hstate
    refine ⟨henv, ?_, ?_⟩
    · change (a.blockRegularGasUsed + result.result.gas.blockRegularGasUsed).toNat ≤ _
      rw [BitVec.toNat_add_of_fits (by omega)]
      omega
    · change (a.blockStateGasUsed + result.result.gas.blockStateGasUsed).toNat ≤ _
      rw [BitVec.toNat_add_of_fits (by omega)]
      omega

end EvBlockExecutor.WithinBlock

/-- With EIP-8037 the gas of a block is at most its gas limit, after every sequence of transactions
that are executed and committed, as long as the gas limit of each that is admitted fits into the
state gas that the block has left. -/
theorem gasUsed_le_of_stateGasFits {evm : EvEvm}
    (hon : evm.env.cfgEnv.enableAmsterdamEip8037 = true) (ctx : EthBlockExecutionCtx)
    (txs : List (Recovered Payload))
    (hgas : ∀ t ∈ transitions (blockStep config) (EvBlockExecutor.new evm ctx) txs,
      ReportsBothWithinLimit config t)
    (hfits : ∀ t ∈ transitions (blockStep config) (EvBlockExecutor.new evm ctx) txs,
      StateGasFits config t) {db : WorldState} {result : BlockExecutionResult}
    (hfinish : finish config (finalState (blockStep config) (EvBlockExecutor.new evm ctx) txs) =
      .ok (db, result)) :
    result.gasUsed.toNat ≤ evm.env.blockEnv.gasLimit.toNat := by
  have hwithin : (finalState (blockStep config) (EvBlockExecutor.new evm ctx) txs).WithinBlock
      evm.env := by
    refine finalState_of_invariant (I := EvBlockExecutor.WithinBlock evm.env)
      (C := fun t => ReportsBothWithinLimit config t ∧ StateGasFits config t) ?_
      ⟨rfl, Nat.zero_le _, Nat.zero_le _⟩ fun t ht => ⟨hgas t ht, hfits t ht⟩
    rintro a recovered h ⟨hgas, hfits⟩
    exact h.step hon recovered hgas hfits
  -- the block reports the larger counter
  rw [finish_gasUsed hfinish, hwithin.env_eq, hon, if_pos rfl, maxBlockGasUsed]
  split_ifs
  · exact hwithin.regular_le
  · exact hwithin.state_le

/-- The run of payments in a block of `40000000` gas with EIP-8037. -/
def storingRun (stateGas : U64) (txs : List (Recovered fun _ => Empty)) : EvBlockExecutor :=
  finalState (blockStep (storingConfig stateGas)) (cappedSession 40000000 true).executor txs

/-- The gas of a finished block. -/
def finishedGas (config : EvEvmConfig Payload) (a : EvBlockExecutor) : Option U64 :=
  (finish config a).toOption.map (·.2.gasUsed)

/-- Two payments that write state for `1000000` gas each. The gas limit of the second leaves out
what the first has written. -/
theorem gasUsed_le_of_stateGasFits_payments :
    ∃ db result, finish (storingConfig 1000000) (storingRun 1000000
        [recoveredPayment 7 40000000, recoveredPayment 8 39000000]) = .ok (db, result) ∧
      result.gasUsed = 2000000 ∧
      result.gasUsed.toNat ≤ (cappedBlock 40000000 true).blockEnv.gasLimit.toNat := by
  have hgas : finishedGas (storingConfig 1000000) (storingRun 1000000
      [recoveredPayment 7 40000000, recoveredPayment 8 39000000]) = some 2000000 := by
    decide +kernel
  unfold finishedGas at hgas
  cases hfinish : finish (storingConfig 1000000) (storingRun 1000000
      [recoveredPayment 7 40000000, recoveredPayment 8 39000000]) with
  | error e =>
    rw [hfinish] at hgas
    cases hgas
  | ok outcome =>
    rw [hfinish] at hgas
    refine ⟨outcome.1, outcome.2, rfl, Option.some.inj hgas, ?_⟩
    exact @gasUsed_le_of_stateGasFits _ (storingConfig 1000000)
      (EvEvm.new (cappedBlock 40000000 true) wealthyWorld) rfl _ _ (by decide +kernel)
      (by decide +kernel) _ _ hfinish

/-- Two payments that write as much state as their gas limits allow. Each is admitted, as its
regular gas fits into the block; the state gas of both is more than the gas limit of the block. -/
theorem state_gas_exceeds_limit :
    (∀ t ∈ transitions (blockStep (storingConfig 100000000)) (cappedSession 40000000 true).executor
        [recoveredPayment 7 40000000, recoveredPayment 8 40000000],
      ReportsBothWithinLimit (storingConfig 100000000) t) ∧
      finishedGas (storingConfig 100000000) (storingRun 100000000
        [recoveredPayment 7 40000000, recoveredPayment 8 40000000]) = some 46445568 ∧
      (cappedBlock 40000000 true).blockEnv.gasLimit.toNat < (46445568 : U64).toNat :=
  ⟨by decide +kernel, by decide +kernel, by decide⟩

end EvReth
