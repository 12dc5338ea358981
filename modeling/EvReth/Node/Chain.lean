import EvReth.Node.BlockRuns
import EvReth.Revm.Handler.PhaseCosts

/-!
# Chains of blocks

A chain is built block by block: each block begins with the state in which the one before it has
ended, and its executor (`crates/node/src/evm_executor.rs`) applies the changes before and after the
transactions. What holds of a chain holds of every one that the node can build or import, whatever
the environments of its blocks are, and whichever transactions it rejects.

A transaction that is accepted has the nonce of its sender and spends it, so that the accepted
transactions of a sender have increasing nonces along the whole chain. The exception is a single
contract creation that its sender sponsors without the funds for it.
-/

namespace EvReth

open EStateM Run Graded EvBlockExecutor

variable {Payload : TxType → Type} {config : EvEvmConfig Payload} {recovered : Recovered Payload}
  {a : EvBlockExecutor} {db db' : WorldState} {steps : List (BlockTransition Payload)}

/-! ## One transaction -/

/-- The transaction as the EVM gets it. -/
def EvEvmConfig.txEnv (config : EvEvmConfig Payload) (recovered : Recovered Payload) : EvTxEnv :=
  .fromRecoveredTx config.eth config.crypto recovered.tx recovered.signer

/-- Every transaction environment of a block was built by the node. -/
theorem built_txEnv (config : EvEvmConfig Payload) (recovered : Recovered Payload) :
    (config.txEnv recovered).Built := by
  obtain ⟨tx | ⟨tx, signature⟩, signer⟩ := recovered
  · exact .new (config.eth.toTxEnv tx signer)
  · rw [EvEvmConfig.txEnv, EvTxEnv.fromRecoveredTx]
    exact .fromEvNode _ tx signer

namespace EvBlockExecutor

/-- The context in which the executor runs the transaction. -/
def ctxFor (config : EvEvmConfig Payload) (self : EvBlockExecutor)
    (recovered : Recovered Payload) : Ctx :=
  { self.evm.ctx with tx := config.txEnv recovered }

/-- The EVM is set up for its environment. -/
def Configured (self : EvBlockExecutor) : Prop := self.evm.ctx.cfg = self.evm.env.handlerCfg

/-- A transaction that runs in the EVM of a block leaves the database alone, and its journal is what
the handler has left. -/
theorem transact_eq_ok {result : ResultAndState} {evm : EvEvm}
    (h : transact config recovered a.evm = .ok result evm) :
    ∃ ctx', (config.evmFactory.handlerFor a.evm.env).run (config.mainnet a.evm.env)
        (a.ctxFor config recovered) = .ok result.result ctx' ∧
      result.state = ctx'.journal ∧ evm.db = a.evm.db := by
  rw [transact] at h
  cases hrun : (config.evmFactory.handlerFor a.evm.env).transactOne (config.mainnet a.evm.env)
      (config.txEnv recovered) a.evm.ctx with
  | error e ctx =>
    rw [← EvEvmConfig.txEnv, EvEvm.transact_of_error hrun] at h
    cases h
  | ok out ctx =>
    rw [← EvEvmConfig.txEnv, EvEvm.transact_of_ok hrun] at h
    obtain ⟨rfl, rfl⟩ := EStateM.Result.ok.inj h
    exact ⟨ctx, hrun, rfl, rfl⟩

/-- A transaction that is not committed leaves the database. -/
theorem db_transact : (transact config recovered a.evm).state.db = a.evm.db := by
  rw [transact]
  cases hrun : (config.evmFactory.handlerFor a.evm.env).transactOne (config.mainnet a.evm.env)
      (config.txEnv recovered) a.evm.ctx with
  | ok result ctx => rw [← EvEvmConfig.txEnv, EvEvm.transact_of_ok hrun]; rfl
  | error e ctx => rw [← EvEvmConfig.txEnv, EvEvm.transact_of_error hrun]; rfl

/-- What a transaction does to the database: nothing if it is rejected, and what its journal says if
it is accepted. -/
theorem blockStep_db (config : EvEvmConfig Payload) (a : EvBlockExecutor)
    (recovered : Recovered Payload) :
    ((blockStep config a recovered).1 ≠ none ∧
        (blockStep config a recovered).2.evm.db = a.evm.db) ∨
      ∃ out ctx', (blockStep config a recovered).1 = none ∧
        (config.evmFactory.handlerFor a.evm.env).run (config.mainnet a.evm.env)
          (a.ctxFor config recovered) = .ok out ctx' ∧
        (blockStep config a recovered).2.evm.db = a.evm.db.commit ctx'.journal := by
  -- what is rejected is not committed
  cases h : executeTransactionWithoutCommit config recovered a with
  | error e a' =>
    refine .inl ?_
    simp only [blockStep, executeTransaction, h]
    refine ⟨Option.some_ne_none _, ?_⟩
    rcases executeTransactionWithoutCommit_eq_error h with rfl | ⟨f, evm, hrun, rfl⟩
    · rfl
    · have hdb : (transact config recovered a.evm).state.db = a.evm.db := db_transact
      rw [hrun] at hdb
      exact hdb
  | ok output a' =>
    obtain ⟨result, evm, hrun, rfl, rfl, -⟩ := executeTransactionWithoutCommit_eq_ok h
    obtain ⟨ctx', hrun', hstate, hdb⟩ := transact_eq_ok hrun
    refine .inr ⟨result.result, ctx', ?_, hrun', ?_⟩
    · simp only [blockStep, executeTransaction, h]
    · simp only [blockStep, executeTransaction, h]
      rw [← hstate, ← hdb]
      rfl

/-- A step keeps the configuration of the EVM. -/
theorem configured_blockStep (hinner : ∀ env, (config.mainnet env).KeepsSetup)
    (h : a.Configured) : (blockStep config a recovered).2.Configured := by
  obtain ⟨evm, hstate, henv, hcfg⟩ := @executeTransactionWithoutCommit_keeps _ config recovered a
  replace hcfg := hcfg (hinner _)
  -- executor and receipts aside, only the EVM may have changed
  have hkeeps : ({ a with evm } : EvBlockExecutor).Configured := by
    show evm.ctx.cfg = evm.env.handlerCfg
    rw [hcfg, henv]
    exact h
  cases h : executeTransactionWithoutCommit config recovered a with
  | error e a' =>
    rw [h] at hstate
    obtain rfl : a' = { a with evm } := hstate
    simp only [blockStep, executeTransaction, h]
    exact hkeeps
  | ok output a' =>
    rw [h] at hstate
    obtain rfl : a' = { a with evm } := hstate
    simp only [blockStep, executeTransaction, h]
    exact hkeeps

end EvBlockExecutor

/-! ## Chains -/

/-- The states before and after the blocks of a chain, and the steps in which their transactions are
executed, those that are rejected among them. -/
inductive Chain (config : EvEvmConfig Payload) :
    WorldState → List (BlockTransition Payload) → WorldState → Prop
  | nil (db : WorldState) : Chain config db [] db
  | block {db db₁ db₂ : WorldState} {env : EvmEnv} {ctx : EthBlockExecutionCtx}
      {a : EvBlockExecutor} {txs : List (Recovered Payload)} {result : BlockExecutionResult}
      {steps : List (BlockTransition Payload)}
      (hpre : applyPreExecutionChanges config (.new (.new env db) ctx) = .ok a)
      (hfinish : finish config (finalState (blockStep config) a txs) = .ok (db₁, result))
      (hrest : Chain config db₁ steps db₂) :
      Chain config db (transitions (blockStep config) a txs ++ steps) db₂

/-- What happens to the state before and after the transactions of a block is free. -/
structure SystemCalls.Spares (calls : SystemCalls) (R : Graded ℕ WorldState) : Prop where
  applyBlockhashes : ∀ hash env db db',
    calls.applyBlockhashesContractCall hash env db = .ok db' → R.rel 0 db db'
  applyBeaconRoot : ∀ root env db db',
    calls.applyBeaconRootContractCall root env db = .ok db' → R.rel 0 db db'
  appendPostExecution : ∀ env db requests db',
    calls.appendPostExecutionChanges env db = .ok (requests, db') → R.rel 0 db db'
  drainDao : ∀ db drained db', calls.drainDaoBalances db = .ok (drained, db') → R.rel 0 db db'
  incrementBalances : ∀ increments db db',
    calls.incrementBalances increments db = .ok db' → R.rel 0 db db'

/-- Without system contracts nothing happens to it. -/
theorem spares_withoutSystemContracts (R : Graded ℕ WorldState) :
    EvolvePayloadBuilder.withoutSystemContracts.Spares R := by
  have hsame : ∀ db db' : WorldState, (.ok db : Except String WorldState) = .ok db' →
      R.rel 0 db db' := by
    intro db db' h
    rw [Except.ok.inj h]
    exact R.refl db'
  refine ⟨fun _ _ => hsame, fun _ _ => hsame, fun _ db _ db' h => ?_, fun db _ db' h => ?_,
    fun _ => hsame⟩
  · rw [(Prod.mk.inj (Except.ok.inj h)).2]
    exact R.refl db'
  · rw [(Prod.mk.inj (Except.ok.inj h)).2]
    exact R.refl db'

namespace Chain

variable {R : Graded ℕ WorldState}

/-- The system calls before the transactions cost nothing if none of them does. -/
theorem free_applyPreExecutionChanges (hcalls : config.systemCalls.Spares R) {a' : EvBlockExecutor}
    (h : applyPreExecutionChanges config a = .ok a') : R.rel 0 a.evm.db a'.evm.db := by
  simp only [applyPreExecutionChanges, Except.bind_eq_ok_iff, ofSystem,
    Except.mapError_eq_ok_iff] at h
  obtain ⟨db₁, hhashes, db₂, hroot, h⟩ := h
  rw [← Except.ok.inj h]
  exact free_trans (hcalls.applyBlockhashes _ _ _ _ hhashes) (hcalls.applyBeaconRoot _ _ _ _ hroot)

/-- The collection of requests costs nothing if the system calls do not. -/
theorem free_finishRequests (hcalls : config.systemCalls.Spares R) {requests : List Bytes}
    (h : finishRequests config a = .ok (requests, db)) : R.rel 0 a.evm.db db := by
  simp only [finishRequests] at h
  split_ifs at h
  · simp only [Except.bind_eq_ok_iff, ofSystem, Except.mapError_eq_ok_iff] at h
    obtain ⟨deposits, -, ⟨requests₁, db₁⟩, happend, h⟩ := h
    rw [← (Prod.mk.inj (Except.ok.inj h)).2]
    exact hcalls.appendPostExecution _ _ _ _ happend
  · rw [← (Prod.mk.inj (Except.ok.inj h)).2]
    exact R.refl _

/-- The rewards at the end cost nothing if the system calls do not. -/
theorem free_finishIncrements (hcalls : config.systemCalls.Spares R)
    {increments : List (Address × U128)}
    (h : finishIncrements config a db = .ok (increments, db')) : R.rel 0 db db' := by
  simp only [finishIncrements] at h
  split_ifs at h
  · simp only [Except.bind_eq_ok_iff, ofBalances, Except.mapError_eq_ok_iff] at h
    obtain ⟨⟨drained, db₁⟩, hdrain, h⟩ := h
    rw [← (Prod.mk.inj (Except.ok.inj h)).2]
    exact hcalls.drainDao _ _ _ hdrain
  · rw [← (Prod.mk.inj (Except.ok.inj h)).2]
    exact R.refl _

/-- The end of a block costs nothing if the system calls do not. -/
theorem free_finish (hcalls : config.systemCalls.Spares R) {result : BlockExecutionResult}
    (h : finish config a = .ok (db, result)) : R.rel 0 a.evm.db db := by
  simp only [finish, Except.bind_eq_ok_iff, ofBalances, Except.mapError_eq_ok_iff] at h
  obtain ⟨⟨requests, db₁⟩, hrequests, ⟨increments, db₂⟩, hincrements, db₃, hbalances, h⟩ := h
  rw [← (Prod.mk.inj (Except.ok.inj h)).1]
  exact free_trans (free_trans (free_finishRequests hcalls hrequests)
    (free_finishIncrements hcalls hincrements)) (hcalls.incrementBalances _ _ _ hbalances)

/-- The steps of a chain are linked by what happens between the transactions. -/
theorem linked (hcalls : config.systemCalls.Spares R) (h : Chain config db steps db') :
    R.Linked (fun t => t.pre.evm.db) (fun t => t.post.evm.db) db steps db' := by
  induction h with
  | nil db => exact .nil (R.refl db)
  | @block _ _ _ _ _ a txs _ _ hpre hfinish _ ih =>
    have hblock := linked_transitions R (fun a : EvBlockExecutor => a.evm.db) (blockStep config) a
      txs
    exact (hblock.of_free (free_applyPreExecutionChanges hcalls hpre)).append
      (ih.of_free (free_finish hcalls hfinish))

/-- Every transaction of a chain is executed by an executor that is set up for its block. -/
theorem configured (hinner : ∀ env, (config.mainnet env).KeepsSetup)
    (h : Chain config db steps db') :
    ∀ t ∈ steps, t = Transition.of (blockStep config) t.pre t.input ∧ t.pre.Configured := by
  induction h with
  | nil => exact fun t ht => absurd ht List.not_mem_nil
  | block hpre _ _ ih =>
    intro t ht
    rcases List.mem_append.mp ht with ht | ht
    · refine ⟨eq_of_mem_transitions ht, ?_⟩
      refine pre_of_invariant (I := Configured) (C := fun _ => True)
        (fun a recovered ha _ => configured_blockStep hinner ha) ?_ (fun _ _ => trivial) t ht
      simp only [applyPreExecutionChanges, Except.bind_eq_ok_iff] at hpre
      obtain ⟨-, -, db, -, hpre⟩ := hpre
      rw [← Except.ok.inj hpre]
      rfl
    · exact ih t ht

end Chain

end EvReth
