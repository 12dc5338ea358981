import EvReth.Primitives.Block
import EvReth.Revm.Handler.Frame
import EvReth.Revm.WorldState

/-!
# The EVM of a block

`EvTxEvmFactory` and `EvEvm` (`crates/ev-revm/src/factory.rs`, `crates/ev-revm/src/evm.rs`): the
environment of a block together with the policies that are active in it, and the execution of one
transaction after the other on a database. Between transactions the journal is the one of the
database; `EvEvm` carries this as a field.
-/

namespace EvReth

open EStateM

/-- The fields of `CfgEnv` that the node sets or reads. The others have the values of
`CfgEnv::new`, and the gas parameters are those of the spec. -/
structure CfgEnv where
  chainId : U64
  spec : SpecId
  maxBlobsPerTx : Option U64 := none
  txGasLimitCap : Option U64 := none
  enableAmsterdamEip8037 : Bool := false
  deriving DecidableEq, Repr

/-- `BlobExcessGasAndPrice`. -/
structure BlobExcessGasAndPrice where
  excessBlobGas : U64
  blobGasprice : U128
  deriving DecidableEq, Repr

/-- All fields of revm's `BlockEnv`. -/
structure FullBlockEnv where
  number : U256
  beneficiary : Address
  timestamp : U256
  difficulty : U256
  prevrandao : Option B256
  gasLimit : U64
  basefee : U64
  blobExcessGasAndPrice : Option BlobExcessGasAndPrice
  slotNum : U64
  deriving DecidableEq, Repr

/-- `EvmEnv`. -/
structure EvmEnv where
  cfgEnv : CfgEnv
  blockEnv : FullBlockEnv
  deriving DecidableEq, Repr

namespace EvmEnv

variable (self : EvmEnv)

/-- The configuration as the handler reads it. -/
def handlerCfg : Cfg :=
  { isPragueEnabled := self.cfgEnv.spec.isEnabledIn .prague
    isAmsterdamEip8037Enabled := self.cfgEnv.enableAmsterdamEip8037
    txGasLimitCap := self.cfgEnv.txGasLimitCap.getD (BitVec.allOnes 64) }

/-- The block as the handler reads it. -/
def handlerBlock : BlockEnv :=
  { number := self.blockEnv.number
    beneficiary := self.blockEnv.beneficiary
    basefee := self.blockEnv.basefee
    blobGasprice := self.blockEnv.blobExcessGasAndPrice.map (·.blobGasprice) }

end EvmEnv

/-! ## The factory -/

/-- `BaseFeeRedirectSettings`. -/
structure BaseFeeRedirectSettings where
  redirect : BaseFeeRedirect
  activationHeight : U64
  deriving DecidableEq, Repr

/-- `EvTxEvmFactory`, without the settings of the precompile and of the code size, which act inside
of frames. -/
structure EvTxEvmFactory where
  redirect : Option BaseFeeRedirectSettings
  deployAllowlist : Option DeployAllowlistSettings

namespace EvTxEvmFactory

variable (self : EvTxEvmFactory)

/-- `redirect_for_block`. -/
def redirectForBlock (blockNumber : U256) : Option BaseFeeRedirect :=
  match self.redirect with
  | some settings =>
    if settings.activationHeight.toNat ≤ blockNumber.toNat then some settings.redirect else none
  | none => none

/-- The handler of an EVM for the environment. The allowlist looks at the block by itself. -/
def handlerFor (env : EvmEnv) : EvHandler :=
  { redirect := self.redirectForBlock env.blockEnv.number, deployAllowlist := self.deployAllowlist }

end EvTxEvmFactory

/-! ## The EVM -/

/-- `EvEvm`: the environment, the database, and the context between two transactions. -/
structure EvEvm where
  env : EvmEnv
  db : WorldState
  ctx : Ctx
  journal_eq : ctx.journal = db.load

/-- `ResultAndState`. The state is the journal with which the transaction has ended. -/
structure ResultAndState where
  result : ExecutionResult
  state : Journal

namespace EvEvm

/-- `create_evm`. -/
def new (env : EvmEnv) (db : WorldState) : EvEvm :=
  { env
    db
    ctx :=
      { cfg := env.handlerCfg
        block := env.handlerBlock
        tx := EvTxEnv.new {}
        journal := db.load }
    journal_eq := rfl }

/-- `transact_raw`: the journal is taken out of the context when the transaction has ended, and is
discarded when it fails. -/
def transact (handler : EvHandler) (inner : Mainnet) (tx : EvTxEnv) :
    EStateM Failure EvEvm ResultAndState := fun self =>
  match h : handler.transactOne inner tx self.ctx with
  | .ok result ctx =>
    .ok { result, state := ctx.journal }
      { self with ctx := { ctx with journal := self.db.load }, journal_eq := rfl }
  | .error e ctx =>
    .error e { self with
      ctx
      journal_eq := (EvHandler.journal_of_transactOne_error h).trans self.journal_eq }

/-- `replay`: the transaction that the context holds. -/
def replay (handler : EvHandler) (inner : Mainnet) : EStateM Failure EvEvm ResultAndState :=
  fun self =>
    match h : handler.run inner self.ctx with
    | .ok result ctx =>
      .ok { result, state := ctx.journal }
        { self with ctx := { ctx with journal := self.db.load }, journal_eq := rfl }
    | .error e ctx =>
      have hrun : handler.transactOne inner self.ctx.tx self.ctx = .error e ctx := h
      .error e { self with
        ctx
        journal_eq := (EvHandler.journal_of_transactOne_error hrun).trans self.journal_eq }

/-- `db_mut().commit(state)`. -/
def commit (self : EvEvm) (state : Journal) : EvEvm :=
  { self with
    db := self.db.commit state
    ctx := { self.ctx with journal := (self.db.commit state).load }
    journal_eq := rfl }

/-- Two EVMs that differ at most in the transaction that they have executed last. -/
structure Same (a b : EvEvm) : Prop where
  env : a.env = b.env
  db : a.db = b.db
  setup : a.ctx.setup = b.ctx.setup

variable {handler : EvHandler} {inner : Mainnet} {tx : EvTxEnv} {a b c : EvEvm}

theorem Same.refl (a : EvEvm) : Same a a := ⟨rfl, rfl, rfl⟩

theorem Same.symm (h : Same a b) : Same b a := ⟨h.env.symm, h.db.symm, h.setup.symm⟩

theorem Same.trans (h : Same a b) (h' : Same b c) : Same a c :=
  ⟨h.env.trans h'.env, h.db.trans h'.db, h.setup.trans h'.setup⟩

/-- A transaction with a result leaves its journal to be committed. -/
theorem transact_of_ok {result : ExecutionResult} {ctx : Ctx}
    (h : handler.transactOne inner tx a.ctx = .ok result ctx) :
    transact handler inner tx a = .ok { result, state := ctx.journal }
      { a with ctx := { ctx with journal := a.db.load }, journal_eq := rfl } := by
  unfold transact
  split
  next result' ctx' h' =>
    obtain ⟨rfl, rfl⟩ := EStateM.Result.ok.inj (h.symm.trans h')
    rfl
  next e ctx' h' => cases h.symm.trans h'

/-- A transaction that fails leaves the journal as it was. -/
theorem transact_of_error {e : Failure} {ctx : Ctx}
    (h : handler.transactOne inner tx a.ctx = .error e ctx) :
    transact handler inner tx a = .error e { a with
      ctx
      journal_eq := (EvHandler.journal_of_transactOne_error h).trans a.journal_eq } := by
  unfold transact
  split
  next result' ctx' h' => cases h.symm.trans h'
  next e' ctx' h' =>
    obtain ⟨rfl, rfl⟩ := EStateM.Result.error.inj (h.symm.trans h')
    rfl

/-- The result of a transaction is that of its run by the handler. -/
theorem run_of_transact {result : ResultAndState} (h : transact handler inner tx a = .ok result b) :
    ∃ ctx, handler.run inner { a.ctx with tx } = .ok result.result ctx := by
  cases hrun : handler.transactOne inner tx a.ctx with
  | error e ctx =>
    rw [transact_of_error hrun] at h
    cases h
  | ok out ctx =>
    rw [transact_of_ok hrun] at h
    obtain ⟨rfl, -⟩ := EStateM.Result.ok.inj h
    exact ⟨ctx, hrun⟩

theorem env_transact : (transact handler inner tx a).state.env = a.env := by
  cases hrun : handler.transactOne inner tx a.ctx with
  | ok result ctx => rw [transact_of_ok hrun]; rfl
  | error e ctx => rw [transact_of_error hrun]; rfl

/-- A transaction that does not commit leaves the EVM as it was, whether it succeeds or fails. -/
theorem same_transact (hinner : inner.KeepsSetup) :
    Same a (transact handler inner tx a).state := by
  have hkeeps : (handler.transactOne inner tx a.ctx).state.setup = a.ctx.setup :=
    EvHandler.keeps_setup_transactOne hinner tx a.ctx
  -- in both cases only context and journal are replaced
  cases hrun : handler.transactOne inner tx a.ctx with
  | ok result ctx =>
    rw [transact_of_ok hrun]
    rw [hrun] at hkeeps
    exact ⟨rfl, rfl, hkeeps.symm⟩
  | error e ctx =>
    rw [transact_of_error hrun]
    rw [hrun] at hkeeps
    exact ⟨rfl, rfl, hkeeps.symm⟩

/-- A transaction does not depend on the one that was executed last. -/
theorem transact_eq_of_same (h : Same a b) :
    transact handler inner tx a = transact handler inner tx b := by
  have hjournal : a.ctx.journal = b.ctx.journal := by rw [a.journal_eq, b.journal_eq, h.db]
  have hrun : handler.transactOne inner tx a.ctx = handler.transactOne inner tx b.ctx :=
    EvHandler.transactOne_eq_of_setup tx h.setup hjournal
  -- the journals are equal as both are loads of the same database
  obtain ⟨env, db, ctx, hctx⟩ := a
  obtain ⟨env', db', ctx', hctx'⟩ := b
  obtain ⟨rfl, rfl, -⟩ := h
  cases hb : handler.transactOne inner tx ctx' with
  | ok result ctx₁ => rw [transact_of_ok (hrun.trans hb), transact_of_ok hb]
  | error e ctx₁ => rw [transact_of_error (hrun.trans hb), transact_of_error hb]

/-- A transaction panics exactly if it reaches the overflow of its fees. -/
theorem transact_panics_iff (hinner : inner.NeverPanics) :
    (∃ msg b, transact handler inner tx a = .error (.panic msg) b) ↔
      handler.ReachesOverflow inner { a.ctx with tx } := by
  rw [← EvHandler.transactOne_panics_iff hinner tx]
  cases hrun : handler.transactOne inner tx a.ctx with
  | ok result ctx =>
    rw [transact_of_ok hrun]
    exact iff_of_false (fun ⟨_, _, h⟩ => nomatch h) fun ⟨_, _, h⟩ => nomatch h
  | error e ctx =>
    rw [transact_of_error hrun]
    constructor
    · rintro ⟨msg, b, h⟩
      obtain ⟨rfl, -⟩ := EStateM.Result.error.inj h
      exact ⟨msg, ctx, rfl⟩
    · rintro ⟨msg, ctx', h⟩
      obtain ⟨rfl, -⟩ := EStateM.Result.error.inj h
      exact ⟨msg, _, rfl⟩

end EvEvm

end EvReth
