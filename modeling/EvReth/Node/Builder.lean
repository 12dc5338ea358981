import EvReth.Foundations.SkipLoop
import EvReth.Node.BlockExecutor
import EvReth.Revm.Handler.Transfers

/-!
# The payload builder

`EvolvePayloadBuilder::build_payload` (`crates/node/src/builder.rs`) builds a block on a parent from
a list of transactions. It asks its client twice, for the latest state and for the header of the
parent. The two calls are steps of their own here, since the canonical head may change between them.

Transactions that fail are left out of the block, and the block is the one of the others alone.
-/

namespace EvReth

/-! ## Attributes -/

/-- `EvolvePayloadAttributes` (`crates/evolve/src/types.rs`). -/
structure EvolvePayloadAttributes (Payload : TxType → Type) where
  transactions : List (EvTxEnvelope Payload)
  gasLimit : Option U64
  timestamp : U64
  prevRandao : B256
  suggestedFeeRecipient : Address
  parentHash : B256
  blockNumber : U64
  slotNumber : Option U64

/-- `PayloadAttributesError`. -/
inductive PayloadAttributesError where
  | emptyTransactions
  | invalidGasLimit
  | transactionValidation (msg : String)
  deriving DecidableEq, Repr

/-- `validate`. An empty list of transactions is valid. -/
def EvolvePayloadAttributes.validate {Payload : TxType → Type}
    (self : EvolvePayloadAttributes Payload) : Except PayloadAttributesError Unit :=
  if self.gasLimit = some 0 then .error .invalidGasLimit else .ok ()

/-- `PayloadBuilderError`. -/
inductive PayloadBuilderError where
  /-- `Internal(RethError::Other(..))` of invalid attributes. -/
  | attributes (e : PayloadAttributesError)
  /-- `Internal(RethError::Other(..))` of a text. -/
  | internal (msg : String)
  /-- An error of the execution of the block. -/
  | execution (e : BlockExecutionError)
  /-- An error of the provider. -/
  | other (msg : String)
  deriving DecidableEq, Repr

/-- How building a payload fails: with an error that is returned, or by a panic. -/
inductive BuildFailure where
  | error (e : PayloadBuilderError)
  | panic (msg : String)
  deriving DecidableEq, Repr

/-- The client, as the builder uses it. A state is known by its accounts. -/
structure Client where
  latest : Except String WorldState
  header : B256 → Except String (Option Header)

/-- `EvolvePayloadBuilderConfig`, as far as the builder reads it. -/
structure EvolvePayloadBuilderConfig where
  baseFeeSink : Option Address
  baseFeeRedirectActivationHeight : Option U64
  deriving DecidableEq, Repr

/-- `base_fee_sink_for_block`. -/
def EvolvePayloadBuilderConfig.baseFeeSinkForBlock (self : EvolvePayloadBuilderConfig)
    (blockNumber : U64) : Option Address :=
  match self.baseFeeSink with
  | some sink =>
    if (self.baseFeeRedirectActivationHeight.getD 0).toNat ≤ blockNumber.toNat then some sink
    else none
  | none => none

/-- The suggested recipient, or the base-fee sink of the block when the suggestion is zero. Both
builders resolve it. -/
def EvolvePayloadBuilderConfig.resolveFeeRecipient (self : EvolvePayloadBuilderConfig)
    (suggested : Address) (blockNumber : U64) : Address :=
  if suggested ≠ 0 then suggested else (self.baseFeeSinkForBlock blockNumber).getD suggested

/-! ## Building a block -/

/-- A block with its hash. -/
structure SealedBlock (Payload : TxType → Type) where
  header : Header
  hash : B256
  transactions : List (EvTxEnvelope Payload)
  withdrawals : Option (List Withdrawal)

/-- `BlockBuilderOutcome`, as far as it is used. -/
structure BlockBuilderOutcome (Payload : TxType → Type) where
  executionResult : BlockExecutionResult
  block : SealedBlock Payload

/-- reth's block builder: the executor, and the transactions that it has accepted. -/
structure BlockBuilder (Payload : TxType → Type) where
  executor : EvBlockExecutor
  transactions : List (EvTxEnvelope Payload) := []

/-- `EvolvePayloadBuilder`, without its client. -/
structure EvolvePayloadBuilder (Payload : TxType → Type) where
  evmConfig : EvEvmConfig Payload
  config : EvolvePayloadBuilderConfig

/-- An error of the block executor, as one of the builder. -/
def BuildFailure.ofExecution : BlockExecutionError → BuildFailure := fun e => .error (.execution e)

/-- A failing call of the provider. -/
def BuildFailure.ofProvider {α : Type} (x : Except String α) : Except BuildFailure α :=
  x.mapError fun msg => .error (.other msg)

namespace EvolvePayloadBuilder

variable {Payload : TxType → Type} (self : EvolvePayloadBuilder Payload)

/-- The first steps of `build_payload`: check the attributes and fetch the latest state. -/
def openState (client : Client) (attributes : EvolvePayloadAttributes Payload) :
    Except BuildFailure WorldState := do
  match attributes.validate with
  | .error e => throw (.error (.attributes e))
  | .ok _ => BuildFailure.ofProvider client.latest

/-- The next step of `build_payload`: fetch the header of the parent. -/
def fetchParent (client : Client) (attributes : EvolvePayloadAttributes Payload) :
    Except BuildFailure Header := do
  match (← BuildFailure.ofProvider (client.header attributes.parentHash)) with
  | some header => return header
  | none => throw (.error (.internal "Parent header not found"))

/-- `next_block_attrs`. -/
def nextBlockAttributes (parent : Header) (attributes : EvolvePayloadAttributes Payload) :
    Except BuildFailure NextBlockEnvAttributes :=
  match attributes.gasLimit with
  | none => .error (.error (.internal "Gas limit is required for evolve payloads"))
  | some gasLimit => .ok
    { timestamp := attributes.timestamp
      suggestedFeeRecipient :=
        self.config.resolveFeeRecipient attributes.suggestedFeeRecipient (parent.number + 1)
      prevRandao := attributes.prevRandao
      gasLimit
      parentBeaconBlockRoot := some 0
      withdrawals := some []
      extraData := []
      slotNumber := attributes.slotNumber }

/-- `context_for_next_block`. -/
def contextForNextBlock (parentHash : B256) (attributes : NextBlockEnvAttributes) :
    EthBlockExecutionCtx :=
  { parentHash
    parentBeaconBlockRoot := attributes.parentBeaconBlockRoot
    withdrawals := attributes.withdrawals
    extraData := attributes.extraData
    slotNumber := attributes.slotNumber }

/-- `builder_for_next_block`, on the database of a state. -/
def builderForNextBlock (base : WorldState) (parent : Header) (parentHash : B256)
    (attributes : NextBlockEnvAttributes) : BlockBuilder Payload :=
  { executor := .new (.new (self.evmConfig.chainSpec.nextEvmEnv parent attributes) base)
      (contextForNextBlock parentHash attributes) }

/-- `recover_signer` of a transaction of the payload. -/
def signer (tx : EvTxEnvelope Payload) : Option Address :=
  tx.recoverSigner self.evmConfig.crypto self.evmConfig.eth.signingFields

/-- An iteration of the loop over the transactions. A transaction that fails is logged and left
out; one whose signer cannot be recovered ends the build. -/
def processTransaction (tx : EvTxEnvelope Payload) (builder : BlockBuilder Payload) :
    SkipLoop.Outcome BuildFailure (BlockBuilder Payload) :=
  match self.signer tx with
  | none => .aborted (.error (.internal "Failed to recover transaction"))
  | some signer =>
    match builder.executor.executeTransaction self.evmConfig ⟨tx, signer⟩ with
    | .ok _ executor => .accepted { executor, transactions := builder.transactions ++ [tx] }
    | .error (.error _) executor => .skipped { builder with executor }
    | .error (.panic msg) _ => .aborted (.panic msg)

/-- `finish`: the state root is computed over the state that the block was built on. -/
def finish (base : WorldState) (parent : Header) (attributes : NextBlockEnvAttributes)
    (builder : BlockBuilder Payload) : Except BuildFailure (BlockBuilderOutcome Payload) := do
  let env := builder.executor.evm.env
  let (db, executionResult) ←
    (builder.executor.finish self.evmConfig).mapError BuildFailure.ofExecution
  let stateRoot ← BuildFailure.ofProvider (self.evmConfig.stateRoot base db)
  let input : AssemblerInput Payload :=
    { env
      ctx := builder.executor.ctx
      transactions := builder.transactions
      result := executionResult
      stateRoot }
  let rest := self.evmConfig.assembleRest input
  -- the parent's hash is that of the context, not one that is computed from the parent
  let header := self.evmConfig.chainSpec.assembleHeader parent attributes env
    { rest with parentHash := builder.executor.ctx.parentHash, stateRoot }
  return { executionResult
           block :=
            { header
              hash := self.evmConfig.hashSlow header
              transactions := builder.transactions
              withdrawals := self.evmConfig.assembleWithdrawals input } }

/-- The block builder before the first transaction. -/
def begin (base : WorldState) (parent : Header) (parentHash : B256)
    (attributes : NextBlockEnvAttributes) : Except BuildFailure (BlockBuilder Payload) := do
  let builder := self.builderForNextBlock base parent parentHash attributes
  let executor ←
    (builder.executor.applyPreExecutionChanges self.evmConfig).mapError BuildFailure.ofExecution
  return { builder with executor }

/-- The rest of `build_payload`, once state and parent are there. -/
def buildOn (base : WorldState) (parent : Header) (attributes : EvolvePayloadAttributes Payload) :
    Except BuildFailure (BlockBuilderOutcome Payload) := do
  let nextAttributes ← self.nextBlockAttributes parent attributes
  let builder ← self.begin base parent attributes.parentHash nextAttributes
  let builder ← SkipLoop.run self.processTransaction attributes.transactions builder
  self.finish base parent nextAttributes builder

/-- `build_payload`, with the execution result that it drops. -/
def buildOutcome (client : Client) (attributes : EvolvePayloadAttributes Payload) :
    Except BuildFailure (BlockBuilderOutcome Payload) := do
  let base ← openState client attributes
  let parent ← fetchParent client attributes
  self.buildOn base parent attributes

/-- `build_payload`. -/
def buildPayload (client : Client) (attributes : EvolvePayloadAttributes Payload) :
    Except BuildFailure (SealedBlock Payload) :=
  (self.buildOutcome client attributes).map (·.block)

end EvolvePayloadBuilder

/-! ## Transactions that are left out -/

namespace EvolvePayloadBuilder

variable {Payload : TxType → Type} (self : EvolvePayloadBuilder Payload)

/-- The transactions of the attributes whose execution succeeds in `buildOn`, in order. -/
def acceptedOn (base : WorldState) (parent : Header)
    (attributes : EvolvePayloadAttributes Payload) : List (EvTxEnvelope Payload) :=
  match self.nextBlockAttributes parent attributes with
  | .error _ => []
  | .ok nextAttributes =>
    match self.begin base parent attributes.parentHash nextAttributes with
    | .error _ => []
    | .ok builder => SkipLoop.accepted self.processTransaction attributes.transactions builder

/-- Two builders that differ at most in the transaction that they have executed last. -/
def SameBuilder (a b : BlockBuilder Payload) : Prop :=
  a.executor.Same b.executor ∧ a.transactions = b.transactions

variable {self} {tx : EvTxEnvelope Payload} {a b : BlockBuilder Payload}

variable (self tx a) in
/-- What an iteration can do. -/
theorem processTransaction_cases :
    (self.signer tx = none ∧ self.processTransaction tx a =
        .aborted (.error (.internal "Failed to recover transaction"))) ∨
      ∃ signer, self.signer tx = some signer ∧
        ((∃ gas executor,
            a.executor.executeTransaction self.evmConfig ⟨tx, signer⟩ = .ok gas executor ∧
              self.processTransaction tx a =
                .accepted { executor, transactions := a.transactions ++ [tx] }) ∨
          (∃ e executor,
            a.executor.executeTransaction self.evmConfig ⟨tx, signer⟩ = .error (.error e) executor ∧
              self.processTransaction tx a = .skipped { a with executor }) ∨
          ∃ msg executor,
            a.executor.executeTransaction self.evmConfig ⟨tx, signer⟩ =
                .error (.panic msg) executor ∧
              self.processTransaction tx a = .aborted (.panic msg)) := by
  -- no signer ends the build, an error of the execution only skips the transaction
  unfold processTransaction
  cases self.signer tx with
  | none => exact .inl ⟨rfl, rfl⟩
  | some signer =>
    refine .inr ⟨signer, rfl, ?_⟩
    rcases hrun : a.executor.executeTransaction self.evmConfig ⟨tx, signer⟩ with
      ⟨gas, executor⟩ | ⟨e | msg, executor⟩
    · exact .inl ⟨gas, executor, rfl, by simp only [hrun]⟩
    · exact .inr (.inl ⟨e, executor, rfl, by simp only [hrun]⟩)
    · exact .inr (.inr ⟨msg, executor, rfl, by simp only [hrun]⟩)

/-- A transaction is accepted if it has a signer and is executed. -/
theorem processTransaction_eq_accepted {a' : BlockBuilder Payload}
    (h : self.processTransaction tx a = .accepted a') :
    ∃ signer gas, self.signer tx = some signer ∧
      a.executor.executeTransaction self.evmConfig ⟨tx, signer⟩ = .ok gas a'.executor ∧
      a'.transactions = a.transactions ++ [tx] := by
  rcases self.processTransaction_cases tx a with ⟨-, h'⟩ | ⟨signer, hsigner,
    ⟨gas, executor, hrun, h'⟩ | ⟨_, _, -, h'⟩ | ⟨_, _, -, h'⟩⟩
  · cases h.symm.trans h'
  · obtain rfl := SkipLoop.Outcome.accepted.inj (h.symm.trans h')
    exact ⟨signer, gas, hsigner, hrun, rfl⟩
  · cases h.symm.trans h'
  · cases h.symm.trans h'

/-- A transaction is skipped if it has a signer and its execution fails. -/
theorem processTransaction_eq_skipped {a' : BlockBuilder Payload}
    (h : self.processTransaction tx a = .skipped a') :
    ∃ signer e, self.signer tx = some signer ∧
      a.executor.executeTransaction self.evmConfig ⟨tx, signer⟩ = .error (.error e) a'.executor ∧
      a'.transactions = a.transactions := by
  rcases self.processTransaction_cases tx a with ⟨-, h'⟩ | ⟨signer, hsigner,
    ⟨_, _, -, h'⟩ | ⟨e, executor, hrun, h'⟩ | ⟨_, _, -, h'⟩⟩
  · cases h.symm.trans h'
  · cases h.symm.trans h'
  · obtain rfl := SkipLoop.Outcome.skipped.inj (h.symm.trans h')
    exact ⟨signer, e, hsigner, hrun, rfl⟩
  · cases h.symm.trans h'

/-- A transaction ends the build exactly if it has no signer or its fees overflow. -/
theorem processTransaction_aborted_iff (hinner : ∀ env, (self.evmConfig.mainnet env).NeverPanics) :
    (∃ e, self.processTransaction tx a = .aborted e) ↔
      self.signer tx = none ∨
        ∃ signer, self.signer tx = some signer ∧
          EvBlockExecutor.Overflows self.evmConfig ⟨tx, signer⟩ a.executor := by
  unfold processTransaction
  cases self.signer tx with
  | none => simp
  | some signer =>
    have hpanics : (∃ msg executor, a.executor.executeTransaction self.evmConfig ⟨tx, signer⟩ =
        .error (.panic msg) executor) ↔ _ :=
      EvBlockExecutor.executeTransaction_panics_iff hinner
    simp only [reduceCtorEq, Option.some.injEq, exists_eq_left', false_or, ← hpanics]
    rcases a.executor.executeTransaction self.evmConfig ⟨tx, signer⟩ with
      ⟨gas, executor⟩ | ⟨_ | msg, executor⟩ <;> simp

/-- A transaction that is left out is invisible to the rest of the loop. -/
theorem invisible_processTransaction
    (hinner : ∀ env, (self.evmConfig.mainnet env).KeepsSetup) :
    SkipLoop.Invisible self.processTransaction SameBuilder where
  symm := fun h => ⟨h.1.symm, h.2.symm⟩
  trans := fun h h' => ⟨h.1.trans h'.1, h.2.trans h'.2⟩
  skip := by
    intro tx a a' h
    obtain ⟨signer, e, -, hrun, htxs⟩ := processTransaction_eq_skipped h
    exact ⟨EvBlockExecutor.same_of_executeTransaction_error hinner hrun, htxs.symm⟩
  accept := by
    intro tx a b a' hsame h
    obtain ⟨signer, gas, hsigner, hrun, htxs⟩ := processTransaction_eq_accepted h
    have hrun' := EvBlockExecutor.executeTransaction_of_same hsame.1 hrun
    refine ⟨a', ?_, .refl _, rfl⟩
    simp only [processTransaction, hsigner, hrun', ← hsame.2, ← htxs]

/-- Builders that are the same finish alike. -/
theorem finish_of_sameBuilder {base : WorldState} {parent : Header}
    {attributes : NextBlockEnvAttributes} (h : SameBuilder a b) :
    self.finish base parent attributes a = self.finish base parent attributes b := by
  unfold finish
  rw [EvBlockExecutor.finish_of_same h.1, h.1.evm.env, h.1.ctx, h.2]

section BuildOn

variable {base : WorldState} {parent : Header} {client : Client}
  {attributes : EvolvePayloadAttributes Payload} {outcome : BlockBuilderOutcome Payload}

/-- A block is built exactly if every step of the build succeeds. -/
theorem buildOn_eq_ok_iff :
    self.buildOn base parent attributes = .ok outcome ↔
      ∃ nextAttributes, self.nextBlockAttributes parent attributes = .ok nextAttributes ∧
        ∃ builder, self.begin base parent attributes.parentHash nextAttributes = .ok builder ∧
        ∃ builder', SkipLoop.run self.processTransaction attributes.transactions builder =
          .ok builder' ∧
          self.finish base parent nextAttributes builder' = .ok outcome := by
  simp only [buildOn, Except.bind_eq_ok_iff]

/-- A build opens the state, fetches the parent and builds on both. -/
theorem buildOutcome_eq_ok_iff :
    self.buildOutcome client attributes = .ok outcome ↔
      ∃ base, openState client attributes = .ok base ∧
        ∃ parent, fetchParent client attributes = .ok parent ∧
          self.buildOn base parent attributes = .ok outcome := by
  simp only [buildOutcome, Except.bind_eq_ok_iff]

/-- The state is the latest one, if the attributes are valid. -/
theorem openState_eq_ok_iff : openState client attributes = .ok base ↔
    attributes.validate = .ok () ∧ client.latest = .ok base := by
  rw [openState]
  cases attributes.validate with
  | error e => exact iff_of_false (fun h => nomatch h) fun h => nomatch h.1
  | ok _ => exact Except.mapError_eq_ok_iff.trans (and_iff_right rfl).symm

/-- The parent is the header of the hash in the attributes. -/
theorem fetchParent_eq_ok_iff : fetchParent client attributes = .ok parent ↔
    client.header attributes.parentHash = .ok (some parent) := by
  rw [fetchParent]
  rcases client.header attributes.parentHash with msg | _ | header
  · exact iff_of_false (fun h => nomatch h) (fun h => nomatch h)
  · exact iff_of_false (fun h => nomatch h) (fun h => nomatch h)
  · show (Except.ok header : Except BuildFailure Header) = .ok parent ↔ _
    simp only [Except.ok.injEq, Option.some.injEq]

/-- With the state and the parent at hand, the build is that on the two. -/
theorem buildOutcome_eq_buildOn (hopen : openState client attributes = .ok base)
    (hfetch : fetchParent client attributes = .ok parent) :
    self.buildOutcome client attributes = self.buildOn base parent attributes := by
  rw [buildOutcome, hopen]
  show (fetchParent client attributes >>= _) = _
  rw [hfetch]
  rfl

/-- What is accepted is what the loop accepts. -/
theorem acceptedOn_eq {nextAttributes : NextBlockEnvAttributes} {builder : BlockBuilder Payload}
    (hattributes : self.nextBlockAttributes parent attributes = .ok nextAttributes)
    (hbegin : self.begin base parent attributes.parentHash nextAttributes = .ok builder) :
    self.acceptedOn base parent attributes =
      SkipLoop.accepted self.processTransaction attributes.transactions builder := by
  simp only [acceptedOn, hattributes, hbegin]

variable (self base parent attributes) in
/-- The transaction gets its turn in the loop when the block builder is `builder`. -/
def AtTurn (tx : EvTxEnvelope Payload) (builder : BlockBuilder Payload) : Prop :=
  ∃ nextAttributes, self.nextBlockAttributes parent attributes = .ok nextAttributes ∧
    ∃ first, self.begin base parent attributes.parentHash nextAttributes = .ok first ∧
    ∃ pre post, attributes.transactions = pre ++ tx :: post ∧
      SkipLoop.run self.processTransaction pre first = .ok builder

/-- The builder is at work on the block after `parent` that the attributes describe. -/
structure WorksOn (chainSpec : ChainSpec) (parent : Header) (parentHash : B256)
    (nextAttributes : NextBlockEnvAttributes) (builder : BlockBuilder Payload) : Prop where
  env : builder.executor.evm.env = chainSpec.nextEvmEnv parent nextAttributes
  ctx : builder.executor.ctx = contextForNextBlock parentHash nextAttributes

section WorksOn

variable {nextAttributes : NextBlockEnvAttributes} {parentHash : B256}

/-- The builder begins in the environment of the next block. -/
theorem worksOn_begin (h : self.begin base parent parentHash nextAttributes = .ok a) :
    WorksOn self.evmConfig.chainSpec parent parentHash nextAttributes a := by
  simp only [begin, Except.bind_eq_ok_iff, Except.mapError_eq_ok_iff] at h
  obtain ⟨executor, hpre, h⟩ := h
  obtain ⟨henv, hctx⟩ := EvBlockExecutor.applyPreExecutionChanges_keeps hpre
  rw [← Except.ok.inj h]
  exact ⟨henv, hctx⟩

/-- An execution keeps the environment. -/
theorem WorksOn.executed {recovered : Recovered Payload}
    (ha : WorksOn self.evmConfig.chainSpec parent parentHash nextAttributes a)
    (hrun : (a.executor.executeTransaction self.evmConfig recovered).state = b.executor) :
    WorksOn self.evmConfig.chainSpec parent parentHash nextAttributes b := by
  obtain ⟨henv, hctx⟩ :
      _ ∧ (a.executor.executeTransaction self.evmConfig recovered).state.ctx = _ :=
    EvBlockExecutor.executeTransaction_keeps
  rw [hrun] at henv hctx
  exact ⟨henv.trans ha.env, hctx.trans ha.ctx⟩

/-- The loop keeps the environment. -/
theorem WorksOn.run {txs : List (EvTxEnvelope Payload)}
    (ha : WorksOn self.evmConfig.chainSpec parent parentHash nextAttributes a)
    (h : SkipLoop.run self.processTransaction txs a = .ok b) :
    WorksOn self.evmConfig.chainSpec parent parentHash nextAttributes b := by
  refine SkipLoop.invariant_of_run ?_ ?_ ha h
  · intro tx a a' ha haccepted
    obtain ⟨signer, gas, -, hrun, -⟩ := processTransaction_eq_accepted haccepted
    exact ha.executed (congrArg EStateM.Result.state hrun)
  · intro tx a a' ha hskipped
    obtain ⟨signer, e, -, hrun, -⟩ := processTransaction_eq_skipped hskipped
    exact ha.executed (congrArg EStateM.Result.state hrun)

/-- The block is put together from the input of the assembler. -/
structure AssembledFrom (config : EvEvmConfig Payload) (parent : Header)
    (nextAttributes : NextBlockEnvAttributes) (input : AssemblerInput Payload)
    (outcome : BlockBuilderOutcome Payload) : Prop where
  header : outcome.block.header = config.chainSpec.assembleHeader parent nextAttributes input.env
    { config.assembleRest input with
      parentHash := input.ctx.parentHash
      stateRoot := input.stateRoot }
  hash : outcome.block.hash = config.hashSlow outcome.block.header
  transactions : outcome.block.transactions = input.transactions
  withdrawals : outcome.block.withdrawals = config.assembleWithdrawals input
  result : outcome.executionResult = input.result

/-- A built block is put together in the environment and the context that were made for it. -/
theorem assembledFrom_of_buildOn
    (hnext : self.nextBlockAttributes parent attributes = .ok nextAttributes)
    (h : self.buildOn base parent attributes = .ok outcome) :
    ∃ input, AssembledFrom self.evmConfig parent nextAttributes input outcome ∧
      input.env = self.evmConfig.chainSpec.nextEvmEnv parent nextAttributes ∧
      input.ctx = contextForNextBlock attributes.parentHash nextAttributes := by
  obtain ⟨next, hnext', builder, hbegin, builder', hrun, hfinish⟩ := buildOn_eq_ok_iff.mp h
  obtain rfl := Except.ok.inj (hnext.symm.trans hnext')
  have hworks := (worksOn_begin hbegin).run hrun
  simp only [finish, Except.bind_eq_ok_iff] at hfinish
  obtain ⟨⟨db, result⟩, -, stateRoot, -, hfinish⟩ := hfinish
  rw [← Except.ok.inj hfinish]
  exact ⟨{ env := _, ctx := _, transactions := _, result := _, stateRoot },
    ⟨rfl, rfl, rfl, rfl, rfl⟩, hworks.env, hworks.ctx⟩

/-- The header of a built block is the one of the environment that was made for it. -/
theorem header_of_buildOn (hnext : self.nextBlockAttributes parent attributes = .ok nextAttributes)
    (h : self.buildOn base parent attributes = .ok outcome) :
    ∃ rest : Header, rest.parentHash = attributes.parentHash ∧
      outcome.block.header = self.evmConfig.chainSpec.assembleHeader parent nextAttributes
        (self.evmConfig.chainSpec.nextEvmEnv parent nextAttributes) rest := by
  obtain ⟨input, hassembled, henv, hctx⟩ := assembledFrom_of_buildOn hnext h
  rw [hassembled.header, henv, hctx]
  exact ⟨_, rfl, rfl⟩

end WorksOn

/-- The accepted transactions of a block are collected in order. -/
theorem transactions_of_finish {nextAttributes : NextBlockEnvAttributes}
    (h : self.finish base parent nextAttributes a = .ok outcome) :
    outcome.block.transactions = a.transactions := by
  simp only [finish, Except.bind_eq_ok_iff] at h
  obtain ⟨⟨db, result⟩, -, stateRoot, -, h⟩ := h
  rw [← Except.ok.inj h]

theorem transactions_of_begin {nextAttributes : NextBlockEnvAttributes} {parentHash : B256}
    (h : self.begin base parent parentHash nextAttributes = .ok a) : a.transactions = [] := by
  simp only [begin, Except.bind_eq_ok_iff] at h
  obtain ⟨executor, -, h⟩ := h
  rw [← Except.ok.inj h]
  rfl

/-- The loop adds what it accepts, in order. -/
theorem transactions_of_run {txs : List (EvTxEnvelope Payload)}
    (h : SkipLoop.run self.processTransaction txs a = .ok b) :
    b.transactions = a.transactions ++ SkipLoop.accepted self.processTransaction txs a := by
  have haccept (tx : EvTxEnvelope Payload) (a a' : BlockBuilder Payload)
      (h : self.processTransaction tx a = .accepted a') :
      a'.transactions = a.transactions ++ [tx] := by
    obtain ⟨-, -, -, -, htransactions⟩ := processTransaction_eq_accepted h
    exact htransactions
  have hskip (tx : EvTxEnvelope Payload) (a a' : BlockBuilder Payload)
      (h : self.processTransaction tx a = .skipped a') : a'.transactions = a.transactions := by
    obtain ⟨-, -, -, -, htransactions⟩ := processTransaction_eq_skipped h
    exact htransactions
  exact SkipLoop.record_of_run haccept hskip h

/-- Every transaction of a built block has a signer. -/
theorem signer_of_buildOn (h : self.buildOn base parent attributes = .ok outcome) :
    ∀ tx ∈ outcome.block.transactions, (self.signer tx).isSome := by
  obtain ⟨next, -, builder, hbegin, builder', hrun, hfinish⟩ := buildOn_eq_ok_iff.mp h
  rw [transactions_of_finish hfinish]
  -- the loop keeps that all of its transactions have signers
  refine SkipLoop.invariant_of_run
    (I := fun b : BlockBuilder Payload => ∀ tx ∈ b.transactions, (self.signer tx).isSome)
    ?_ ?_ ?_ hrun
  · intro tx a a' ha haccepted
    obtain ⟨signer, -, hsigner, -, htransactions⟩ := processTransaction_eq_accepted haccepted
    rw [htransactions]
    refine List.forall_mem_append.mpr ⟨ha, List.forall_mem_singleton.mpr ?_⟩
    rw [hsigner]
    rfl
  · intro tx a a' ha hskipped
    obtain ⟨-, -, -, -, htransactions⟩ := processTransaction_eq_skipped hskipped
    rw [htransactions]
    exact ha
  · rw [transactions_of_begin hbegin]
    exact fun tx hmem => absurd hmem List.not_mem_nil

/-- A built block holds the accepted transactions, and is built from them alone as well. -/
theorem buildOn_accepted (hinner : ∀ env, (self.evmConfig.mainnet env).KeepsSetup)
    (h : self.buildOn base parent attributes = .ok outcome) :
    outcome.block.transactions = self.acceptedOn base parent attributes ∧
      self.acceptedOn base parent
          { attributes with transactions := self.acceptedOn base parent attributes } =
        self.acceptedOn base parent attributes ∧
      self.buildOn base parent
          { attributes with transactions := self.acceptedOn base parent attributes } =
        .ok outcome := by
  obtain ⟨next, hnext, builder, hbegin, builder', hrun, hfinish⟩ := buildOn_eq_ok_iff.mp h
  have haccepted := acceptedOn_eq hnext hbegin
  -- the shorter list starts from the same builder
  have hnext' : self.nextBlockAttributes parent
      { attributes with transactions := self.acceptedOn base parent attributes } = .ok next := hnext
  obtain ⟨builder'', hrun', hsame, hall⟩ :=
    SkipLoop.run_accepted (invisible_processTransaction hinner) hrun ⟨.refl _, rfl⟩
  refine ⟨?_, ?_, ?_⟩
  · rw [transactions_of_finish hfinish, transactions_of_run hrun, transactions_of_begin hbegin,
      List.nil_append, haccepted]
  · rw [acceptedOn_eq hnext' hbegin, haccepted, hall]
  · refine buildOn_eq_ok_iff.mpr ⟨next, hnext', builder, hbegin, builder'', ?_, ?_⟩
    · rw [haccepted]
      exact hrun'
    · rw [← hfinish]
      exact finish_of_sameBuilder ⟨hsame.1.symm, hsame.2.symm⟩

/-- Transactions that are left out leave no trace: the block holds those that were accepted, and
building from these alone accepts all of them and gives the same block with the same receipts. -/
theorem buildOutcome_accepted (hinner : ∀ env, (self.evmConfig.mainnet env).KeepsSetup)
    (h : self.buildOutcome client attributes = .ok outcome) :
    ∃ base parent, openState client attributes = .ok base ∧
      fetchParent client attributes = .ok parent ∧
      outcome.block.transactions = self.acceptedOn base parent attributes ∧
      (self.acceptedOn base parent attributes).Sublist attributes.transactions ∧
      self.acceptedOn base parent
          { attributes with transactions := self.acceptedOn base parent attributes } =
        self.acceptedOn base parent attributes ∧
      self.buildOutcome client
          { attributes with transactions := self.acceptedOn base parent attributes } =
        .ok outcome := by
  obtain ⟨base, hopen, parent, hfetch, hbuild⟩ := buildOutcome_eq_ok_iff.mp h
  obtain ⟨htransactions, hall, hagain⟩ := buildOn_accepted hinner hbuild
  refine ⟨base, parent, hopen, hfetch, htransactions, ?_, hall, ?_⟩
  · obtain ⟨next, hnext, builder, hbegin, -⟩ := buildOn_eq_ok_iff.mp hbuild
    rw [acceptedOn_eq hnext hbegin]
    exact SkipLoop.accepted_sublist _ _
  · exact buildOutcome_eq_ok_iff.mpr ⟨base, hopen, parent, hfetch, hagain⟩

/-! ## Transactions that end the build -/

theorem begin_succeeds (h : self.evmConfig.Reliable) (parentHash : B256)
    (nextAttributes : NextBlockEnvAttributes) :
    (self.begin base parent parentHash nextAttributes).Succeeds :=
  ((EvBlockExecutor.applyPreExecutionChanges_succeeds h _).mapError _).bind
    fun _ => Except.succeeds_pure

theorem finish_succeeds (h : self.evmConfig.Reliable) (nextAttributes : NextBlockEnvAttributes)
    (builder : BlockBuilder Payload) :
    (self.finish base parent nextAttributes builder).Succeeds :=
  ((EvBlockExecutor.finish_succeeds h _).mapError _).bind fun _ =>
    ((h.stateRoot _ _).mapError _).bind fun _ => Except.succeeds_pure

/-- Where nothing around the transactions fails, a block is built exactly if the loop over them is
not aborted. -/
theorem buildOn_succeeds_iff_completes (hreliable : self.evmConfig.Reliable)
    {nextAttributes : NextBlockEnvAttributes}
    (hnext : self.nextBlockAttributes parent attributes = .ok nextAttributes)
    (hbegin : self.begin base parent attributes.parentHash nextAttributes = .ok a) :
    (self.buildOn base parent attributes).Succeeds ↔
      SkipLoop.Completes self.processTransaction attributes.transactions a := by
  constructor
  · rintro ⟨outcome, h⟩
    obtain ⟨next, hnext', builder, hbegin', builder', hrun, -⟩ := buildOn_eq_ok_iff.mp h
    obtain rfl := Except.ok.inj (hnext.symm.trans hnext')
    obtain rfl := Except.ok.inj (hbegin.symm.trans hbegin')
    exact SkipLoop.run_eq_ok_iff.mp ⟨builder', hrun⟩
  · intro h
    obtain ⟨builder', hrun⟩ := SkipLoop.run_eq_ok_iff.mpr h
    obtain ⟨outcome, hfinish⟩ := finish_succeeds hreliable nextAttributes builder'
    exact ⟨outcome, buildOn_eq_ok_iff.mpr ⟨_, hnext, a, hbegin, builder', hrun, hfinish⟩⟩

/-- The loop over the transactions is aborted exactly by one that has no signer or whose fees
overflow when it gets its turn. -/
theorem completes_processTransaction_iff
    (hinner : ∀ env, (self.evmConfig.mainnet env).NeverPanics)
    {txs : List (EvTxEnvelope Payload)} :
    SkipLoop.Completes self.processTransaction txs a ↔
      (∀ tx ∈ txs, (self.signer tx).isSome) ∧
        ∀ pre tx post builder, txs = pre ++ tx :: post →
          SkipLoop.run self.processTransaction pre a = .ok builder →
          ∀ signer, self.signer tx = some signer →
            ¬ EvBlockExecutor.Overflows self.evmConfig ⟨tx, signer⟩ builder.executor := by
  constructor
  · intro h
    have hturn := SkipLoop.completes_iff.mp h
    refine ⟨fun tx htx => ?_, fun pre tx post builder htxs hrun signer hsigner hoverflow => ?_⟩
    · obtain ⟨pre, post, rfl⟩ := List.append_of_mem htx
      -- a transaction of a loop that completes gets its turn
      obtain ⟨builder, hrun⟩ := SkipLoop.run_eq_ok_iff.mpr h.of_append
      rw [Option.isSome_iff_ne_none]
      intro hsigner
      obtain ⟨e, haborted⟩ :=
        (processTransaction_aborted_iff (a := builder) hinner).mpr (.inl hsigner)
      exact hturn pre tx post builder rfl hrun e haborted
    · obtain ⟨e, haborted⟩ :=
        (processTransaction_aborted_iff hinner).mpr (.inr ⟨signer, hsigner, hoverflow⟩)
      exact hturn pre tx post builder htxs hrun e haborted
  · rintro ⟨hsigners, hfits⟩
    refine SkipLoop.completes_iff.mpr fun pre tx post builder htxs hrun e haborted => ?_
    rcases (processTransaction_aborted_iff hinner).mp ⟨e, haborted⟩ with
      hnone | ⟨signer, hsigner, hoverflow⟩
    · have hmem : tx ∈ txs := by
        rw [htxs]
        exact List.mem_append_right _ List.mem_cons_self
      exact Option.isSome_iff_ne_none.mp (hsigners tx hmem) hnone
    · exact hfits pre tx post builder htxs hrun signer hsigner hoverflow

/-- Where nothing around the transactions fails, a block is built exactly if every transaction has a
signer and the fees of none overflow at its turn. -/
theorem buildOn_succeeds_iff (hinner : ∀ env, (self.evmConfig.mainnet env).NeverPanics)
    (hreliable : self.evmConfig.Reliable) (hgas : attributes.gasLimit.isSome) :
    (self.buildOn base parent attributes).Succeeds ↔
      (∀ tx ∈ attributes.transactions, (self.signer tx).isSome) ∧
        ∀ tx builder, self.AtTurn base parent attributes tx builder →
          ∀ signer, self.signer tx = some signer →
            ¬ EvBlockExecutor.Overflows self.evmConfig ⟨tx, signer⟩ builder.executor := by
  obtain ⟨gasLimit, hgasLimit⟩ := Option.isSome_iff_exists.mp hgas
  obtain ⟨next, hnext⟩ : (self.nextBlockAttributes parent attributes).Succeeds :=
    ⟨_, by simp only [nextBlockAttributes, hgasLimit]; rfl⟩
  obtain ⟨first, hbegin⟩ : (self.begin base parent attributes.parentHash next).Succeeds :=
    begin_succeeds hreliable attributes.parentHash next
  rw [buildOn_succeeds_iff_completes hreliable hnext hbegin,
    completes_processTransaction_iff hinner]
  refine and_congr_right fun _ => ⟨?_, ?_⟩
  · rintro h tx builder ⟨next', hnext', first', hbegin', pre, post, htxs, hrun⟩
    obtain rfl := Except.ok.inj (hnext.symm.trans hnext')
    obtain rfl := Except.ok.inj (hbegin.symm.trans hbegin')
    exact h pre tx post builder htxs hrun
  · intro h pre tx post builder htxs hrun
    exact h tx builder ⟨next, hnext, first, hbegin, pre, post, htxs, hrun⟩

end BuildOn

/-! ## A block with a payment -/

/-- A state without system contracts is left alone by the calls before and after a block. -/
def withoutSystemContracts : SystemCalls :=
  { applyBlockhashesContractCall := fun _ _ db => .ok db
    applyBeaconRootContractCall := fun _ _ db => .ok db
    parseDepositsFromReceipts := fun _ => .ok []
    appendPostExecutionChanges := fun _ db => .ok ([], db)
    postBlockBalanceIncrements := fun _ _ => []
    drainDaoBalances := fun db => .ok ([], db)
    incrementBalances := fun _ db => .ok db }

/-- A node whose transactions are plain payments. Its roots and hashes are all zero. -/
def paymentBuilder : EvolvePayloadBuilder fun _ => Empty :=
  { evmConfig :=
      { chainSpec := { ChainSpec.cancunFromGenesis with chainId := 1 }
        evmFactory := { redirect := none, deployAllowlist := none }
        mainnet := fun _ => Transfers.mainnetOfCA
        eth := EthereumSupport.none
        crypto := EvTxEnvelope.paymentCrypto
        systemCalls := withoutSystemContracts
        stateRoot := fun _ _ => .ok 0
        assembleRest := fun input => { gasUsed := input.result.gasUsed }
        hashSlow := fun _ => 0 }
    config := { baseFeeSink := none, baseFeeRedirectActivationHeight := none } }

/-- A state in which the sender of `wirePayment` can pay for gas, and its sponsor cannot. -/
def senderWorld : WorldState := fun a =>
  if a = EvTxEnvelope.paymentSender then some { info := { balance := 100000, nonce := 7 } }
  else none

/-- A block that uses no blob gas. -/
def paymentParent : Header := { ChainSpec.parentUsingBlobGas 0 with baseFeePerGas := some 1 }

/-- A client that knows one block, whose state is `senderWorld`. -/
def paymentClient : Client :=
  { latest := .ok senderWorld
    header := fun hash => .ok (if hash = 0xAA then some paymentParent else none) }

/-- The payment of `wirePayment`, with its sponsor or without. -/
def payment (feePayerSignature : Option Signature) : EvTxEnvelope fun _ => Empty :=
  .evNode { EvNodeTransaction.wirePayment with feePayerSignature } EvTxEnvelope.unitSignature

/-- Attributes of a block on the one that `paymentClient` knows. -/
def paymentAttributes (transactions : List (EvTxEnvelope fun _ => Empty)) :
    EvolvePayloadAttributes fun _ => Empty :=
  { transactions
    gasLimit := some 30000000
    timestamp := 1710338136
    prevRandao := 0
    suggestedFeeRecipient := 0xFE
    parentHash := 0xAA
    blockNumber := 11
    slotNumber := none }

/-- The sponsored payment is rejected after the nonce of its sender was incremented; the same
payment without the sponsor is accepted after it, and makes the same block by itself. -/
theorem buildOutcome_accepted_payment :
    ∃ outcome base parent,
      paymentBuilder.buildOutcome paymentClient
          (paymentAttributes [payment (some ⟨1, 2, true⟩), payment none]) = .ok outcome ∧
        (paymentBuilder.acceptedOn base parent
          (paymentAttributes [payment (some ⟨1, 2, true⟩), payment none])).length = 1 ∧
        paymentBuilder.buildOutcome paymentClient (paymentAttributes (paymentBuilder.acceptedOn base
          parent (paymentAttributes [payment (some ⟨1, 2, true⟩), payment none]))) =
            .ok outcome := by
  have hlength : ((paymentBuilder.buildOutcome paymentClient (paymentAttributes
      [payment (some ⟨1, 2, true⟩), payment none])).toOption.map
        (·.block.transactions.length)) = some 1 := by
    decide +kernel
  cases houtcome : paymentBuilder.buildOutcome paymentClient
      (paymentAttributes [payment (some ⟨1, 2, true⟩), payment none]) with
  | error e =>
    rw [houtcome] at hlength
    cases hlength
  | ok outcome =>
    rw [houtcome] at hlength
    obtain ⟨base, parent, -, -, htransactions, -, -, hagain⟩ :=
      buildOutcome_accepted (fun _ => Transfers.keepsSetup _) houtcome
    refine ⟨outcome, base, parent, rfl, ?_, hagain⟩
    rw [← htransactions]
    exact Option.some.inj hlength

end EvolvePayloadBuilder

end EvReth
