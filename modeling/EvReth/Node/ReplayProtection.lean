import EvReth.Node.Chain

/-!
# No transaction is accepted twice

The nonce of a transaction is checked and spent by `EvHandler` (`crates/ev-revm/src/handler.rs`),
each time for one transaction. Nothing in a block lowers a nonce, so along a whole chain the
accepted transactions of one sender have increasing nonces. The exception is a contract creation
that its sender sponsors and cannot pay for: it is accepted and leaves the nonce as it was.
-/

namespace EvReth

open EStateM Run Graded EvBlockExecutor

variable {Payload : TxType → Type}

/-- What revm, alloy and the system contracts do to nonces. -/
structure EvEvmConfig.RaisesNonces (config : EvEvmConfig Payload) : Prop where
  keepsSetup : ∀ env, (config.mainnet env).KeepsSetup
  keepsEnvironment : ∀ env, (config.mainnet env).KeepsEnvironment
  keepsNonces : ∀ env, (config.mainnet env).KeepsNonces
  frameNonces : ∀ env, (config.mainnet env).FrameNonces
  keepsStatus : ∀ env, (config.mainnet env).KeepsStatus
  phasesSpare : ∀ env addr, (config.mainnet env).PhasesSpare (AccountCost.lostNonces.ctx addr)
  framesSpare : ∀ env addr, (config.mainnet env).FramesSpare (AccountCost.lostNonces.ctx addr)
  systemCalls : ∀ addr, config.systemCalls.Spares (AccountCost.lostNonces.world addr)

/-- The steps in which a transaction is accepted. -/
def acceptedSteps (steps : List (BlockTransition Payload)) : List (BlockTransition Payload) :=
  steps.filter (·.output.isNone)

namespace EvEvmConfig

variable (config : EvEvmConfig Payload)

/-- The account that sends the transaction of a step. -/
def sender (t : BlockTransition Payload) : Address := (config.txEnv t.input).inner.caller

/-- The nonce of the transaction. -/
def txNonce (t : BlockTransition Payload) : U64 := (config.txEnv t.input).inner.nonce

/-- The transaction is a single creation whose sender sponsors itself and cannot pay gas and value
together. -/
def LeavesNonce (t : BlockTransition Payload) : Prop :=
  ¬ (config.txEnv t.input).IsBatch ∧ (config.txEnv t.input).inner.kind = .create ∧
    EvHandler.ShortSelfSponsor (t.pre.ctxFor config t.input)

end EvEvmConfig

section Steps

variable {config : EvEvmConfig Payload} {t : BlockTransition Payload}

/-- An accepted transaction has run to a result, which is committed. -/
theorem run_of_accepted (hstep : t = Transition.of (blockStep config) t.pre t.input)
    (haccepted : t.output = none) :
    ∃ out ctx', (config.evmFactory.handlerFor t.pre.evm.env).run (config.mainnet t.pre.evm.env)
        (t.pre.ctxFor config t.input) = .ok out ctx' ∧
      t.post.evm.db = t.pre.evm.db.commit ctx'.journal := by
  have houtput : (blockStep config t.pre t.input).1 = none := by
    rw [← haccepted, hstep]
    rfl
  have hpost : t.post = (blockStep config t.pre t.input).2 := congrArg Transition.post hstep
  rw [hpost]
  rcases blockStep_db config t.pre t.input with ⟨hrejected, -⟩ | ⟨out, ctx', -, hrun, hdb⟩
  · exact absurd houtput hrejected
  · exact ⟨out, ctx', hrun, hdb⟩

/-- What a step costs an account: nothing if the transaction is rejected. -/
theorem rel_of_step {cost : AccountCost} {addr : Address} {n : ℕ}
    (hstep : t = Transition.of (blockStep config) t.pre t.input)
    (hrejected : t.output ≠ none → n = 0)
    (hrun : t.output = none → ∀ out ctx', (config.evmFactory.handlerFor t.pre.evm.env).run
      (config.mainnet t.pre.evm.env) (t.pre.ctxFor config t.input) = .ok out ctx' →
        (cost.ctx addr).rel (cost.charge n) (t.pre.ctxFor config t.input) ctx') :
    (cost.world addr).rel (cost.charge n) t.pre.evm.db t.post.evm.db := by
  have hpost : t.post = (blockStep config t.pre t.input).2 := congrArg Transition.post hstep
  have houtput : t.output = (blockStep config t.pre t.input).1 := congrArg Transition.output hstep
  rw [houtput] at hrejected hrun
  rw [hpost]
  rcases blockStep_db config t.pre t.input with ⟨hnone, hdb⟩ | ⟨out, ctx', haccepted, hok, hdb⟩
  · rw [hdb, hrejected hnone, map_zero]
    exact (cost.world addr).refl _
  · rw [hdb]
    refine AccountCost.world_commit ?_
    rw [← t.pre.evm.journal_eq]
    exact hrun haccepted out ctx' hok

/-- A transaction lowers no nonce. -/
theorem free_lostNonces_run {self : EvHandler} {inner : Mainnet} {addr : Address}
    (hphases : inner.PhasesSpare (AccountCost.lostNonces.ctx addr))
    (hframes : inner.FramesSpare (AccountCost.lostNonces.ctx addr))
    (henv : inner.KeepsEnvironment) {ctx ctx' : Ctx} {out : ExecutionResult}
    (h : self.run inner ctx = .ok out ctx') :
    (AccountCost.lostNonces.ctx addr).rel 0 ctx ctx' := by
  obtain ⟨t⟩ := EvHandler.runTrace_of_ok h
  have hexec := EvHandler.free_execution hframes (EvHandler.batchCalls_ne_nil henv t.hPre) t.hExec
  exact t.rel hphases (Nat.le_add_left _ _) hexec

end Steps

namespace EvEvmConfig.RaisesNonces

variable {config : EvEvmConfig Payload} {t : BlockTransition Payload} {db db' : WorldState}
  {steps : List (BlockTransition Payload)}

/-- No step of a block lowers a nonce. -/
theorem free_step (hconfig : config.RaisesNonces)
    (hstep : t = Transition.of (blockStep config) t.pre t.input) (addr : Address) :
    (AccountCost.lostNonces.world addr).rel 0 t.pre.evm.db t.post.evm.db := by
  refine rel_of_step (n := 0) hstep (fun _ => rfl) fun _ out ctx' hrun => ?_
  exact free_lostNonces_run (hconfig.phasesSpare _ addr) (hconfig.framesSpare _ addr)
    (hconfig.keepsEnvironment _) hrun

/-- An accepted transaction has the nonce that its sender has. -/
theorem txNonce_eq (hconfig : config.RaisesNonces)
    (hstep : t = Transition.of (blockStep config) t.pre t.input) (hcfg : t.pre.Configured)
    (haccepted : t.output = none) :
    config.txNonce t = t.pre.evm.db.load.nonce (config.sender t) := by
  obtain ⟨out, ctx', hrun, -⟩ := run_of_accepted hstep haccepted
  obtain ⟨gas, refund, -, entry, -, hpre, -, -⟩ := EvHandler.run_eq_ok hrun
  have hcheck : (t.pre.ctxFor config t.input).cfg.isNonceCheckDisabled = false := by
    show t.pre.evm.ctx.cfg.isNonceCheckDisabled = false
    rw [hcfg]
    rfl
  rw [← t.pre.evm.journal_eq]
  exact EvHandler.txNonce_of_preExecution (hconfig.keepsEnvironment _) (hconfig.keepsNonces _)
    hcheck hpre

/-- And spends it. -/
theorem nonce_lt (hconfig : config.RaisesNonces)
    (hstep : t = Transition.of (blockStep config) t.pre t.input) (hcfg : t.pre.Configured)
    (haccepted : t.output = none) (hspends : ¬ config.LeavesNonce t)
    (hmax : (config.txNonce t).toNat < 2 ^ 64 - 2) :
    (config.txNonce t).toNat < (t.post.evm.db.load.nonce (config.sender t)).toNat := by
  have hnonce := hconfig.txNonce_eq hstep hcfg haccepted
  obtain ⟨out, ctx', hrun, hdb⟩ := run_of_accepted hstep haccepted
  have hcheck : (t.pre.ctxFor config t.input).cfg.isBalanceCheckDisabled = false := by
    show t.pre.evm.ctx.cfg.isBalanceCheckDisabled = false
    rw [hcfg]
    rfl
  have hjournal : (t.pre.ctxFor config t.input).journal = t.pre.evm.db.load := t.pre.evm.journal_eq
  have hbefore : ((t.pre.ctxFor config t.input).journal.nonce (config.sender t)).toNat <
      2 ^ 64 - 2 := by
    rw [hjournal, ← hnonce]
    exact hmax
  obtain ⟨hbatch, hsingle⟩ := EvHandler.nonce_of_run (hconfig.keepsEnvironment _)
    (hconfig.keepsNonces _) (hconfig.frameNonces _) (hconfig.keepsStatus _)
    (built_txEnv config t.input) hcheck hbefore hrun
  -- what the transaction leaves is what the database has afterwards
  have hfree : (AccountCost.lostNonces.journal (config.sender t)).rel 0 t.pre.evm.db.load
      ctx'.journal := by
    rw [← hjournal]
    exact free_lostNonces_run (hconfig.phasesSpare _ _) (hconfig.framesSpare _ _)
      (hconfig.keepsEnvironment _) hrun
  have hcommit : t.post.evm.db.load.nonce (config.sender t) =
      ctx'.journal.nonce (config.sender t) := by
    rw [hdb]
    exact congrArg AccountInfo.nonce (AccountCost.info_commit hfree)
  rw [hcommit, hnonce, ← hjournal]
  by_cases h : (config.txEnv t.input).IsBatch
  · exact (hbatch h).1
  · exact (hsingle h).mpr fun hbad => hspends ⟨h, hbad⟩

/-- Along a chain every nonce is spent before the same sender's next transaction is accepted. -/
theorem pairwise_nonce (hconfig : config.RaisesNonces) (hchain : Chain config db steps db')
    (hmax : ∀ t ∈ steps, (config.txNonce t).toNat < 2 ^ 64 - 2) :
    (acceptedSteps steps).Pairwise fun t t' => config.sender t = config.sender t' →
      ¬ config.LeavesNonce t → (config.txNonce t).toNat < (config.txNonce t').toNat := by
  have hsteps := hchain.configured hconfig.keepsSetup
  -- from a transaction to a later one no nonce gets lower
  have hlinked := hchain.linked (R := .all fun addr => AccountCost.lostNonces.world addr)
    ⟨fun _ _ _ _ h addr => (hconfig.systemCalls addr).applyBlockhashes _ _ _ _ h,
      fun _ _ _ _ h addr => (hconfig.systemCalls addr).applyBeaconRoot _ _ _ _ h,
      fun _ _ _ _ h addr => (hconfig.systemCalls addr).appendPostExecution _ _ _ _ h,
      fun _ _ _ h addr => (hconfig.systemCalls addr).drainDao _ _ _ h,
      fun _ _ _ h addr => (hconfig.systemCalls addr).incrementBalances _ _ _ h⟩
  have hkept := hlinked.pairwise fun t ht addr => hconfig.free_step (hsteps t ht).1 addr
  refine (hkept.filter (·.output.isNone)).imp_of_mem fun {t t'} ht ht' hle hsender hspends => ?_
  obtain ⟨hmem, haccepted⟩ := List.mem_filter.mp ht
  obtain ⟨hmem', haccepted'⟩ := List.mem_filter.mp ht'
  rw [Option.isNone_iff_eq_none] at haccepted haccepted'
  obtain ⟨hstep, hcfg⟩ := hsteps t hmem
  obtain ⟨hstep', hcfg'⟩ := hsteps t' hmem'
  calc (config.txNonce t).toNat
      < (t.post.evm.db.load.nonce (config.sender t)).toNat :=
        hconfig.nonce_lt hstep hcfg haccepted hspends (hmax t hmem)
    _ ≤ (t'.pre.evm.db.load.nonce (config.sender t)).toNat := hle (config.sender t)
    _ = (config.txNonce t').toNat := by
        rw [hsender, hconfig.txNonce_eq hstep' hcfg' haccepted']

end EvEvmConfig.RaisesNonces

open EvolvePayloadBuilder (paymentBuilder withoutSystemContracts)

/-- The node of the example never lowers a nonce. -/
theorem raisesNonces_paymentBuilder (crypto : Crypto) :
    { paymentBuilder.evmConfig with crypto }.RaisesNonces where
  keepsSetup _ := Transfers.keepsSetup _
  keepsEnvironment _ := Transfers.keepsEnvironment _
  keepsNonces _ := Transfers.keepsNonces _
  frameNonces _ := Transfers.frameNonces _
  keepsStatus _ := Transfers.keepsStatus _
  phasesSpare _ _ := Transfers.phasesSpare
  framesSpare _ _ := Transfers.framesSpare fun _ => rfl
  systemCalls _ := spares_withoutSystemContracts _

/-- A block without calls into the system on a state. -/
def plainBlock (db : WorldState) : EvBlockExecutor :=
  { ctx :=
      { parentHash := 0xAA
        parentBeaconBlockRoot := none
        withdrawals := none
        extraData := []
        slotNumber := none }
    evm := (EvEvm.new (cappedBlock 40000000 false) db).setDb db }

/-- The steps of such a block. -/
def plainSteps (db : WorldState) (txs : List (Recovered fun _ => Empty)) :
    List (BlockTransition fun _ => Empty) :=
  transitions (blockStep paymentBuilder.evmConfig) (plainBlock db) txs

/-- The state after it. -/
def plainState (db : WorldState) (txs : List (Recovered fun _ => Empty)) : WorldState :=
  (finalState (blockStep paymentBuilder.evmConfig) (plainBlock db) txs).evm.db

theorem chain_plainSteps (db : WorldState) (txs : List (Recovered fun _ => Empty))
    {steps : List (BlockTransition fun _ => Empty)} {db' : WorldState}
    (hrest : Chain paymentBuilder.evmConfig (plainState db txs) steps db') :
    Chain paymentBuilder.evmConfig db (plainSteps db txs ++ steps) db' :=
  .block rfl rfl hrest

end EvReth
