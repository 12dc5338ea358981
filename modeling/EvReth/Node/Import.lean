import EvReth.Evolve.Consensus
import EvReth.Node.PayloadTypes

/-!
# Importing what was built

A block that one node has built is imported by every other one, and by the node itself when the
block comes back. It is checked by the consensus (`crates/evolve/src/consensus.rs`), before it is
executed and afterwards, and it is executed again in the environment and the context of its header
(`evm_env`, `context_for_block`) or of its payload (`evm_env_for_payload`, `context_for_payload` in
`crates/node/src/executor.rs`). Here no transaction may fail, and the state must have the stated
root. The builder skips what fails, in an environment that it derives from the parent; so it is a
property of the whole node that the two agree, block by block and along a chain. What the builder
does not look at are the rules of the consensus for timestamps and gas limits: they alone, and the
checks of reth that the consensus passes a block on to, can refuse it.
-/

namespace EvReth

variable {Payload : TxType → Type}

/-! ## Executing a block -/

/-- `context_for_block`. -/
def contextForBlock (block : SealedBlock Payload) : EthBlockExecutionCtx :=
  { parentHash := block.header.parentHash
    parentBeaconBlockRoot := block.header.parentBeaconBlockRoot
    withdrawals := block.withdrawals
    extraData := block.header.extraData
    slotNumber := block.header.slotNumber }

/-- `context_for_payload`. -/
def contextForPayload (data : ExecutionData) : EthBlockExecutionCtx :=
  { parentHash := data.payload.asV1.parentHash
    parentBeaconBlockRoot := data.sidecar.parentBeaconBlockRoot
    withdrawals := data.payload.withdrawals
    extraData := data.payload.asV1.extraData
    slotNumber := data.payload.slotNumber }

/-- The fields of a payload that its environment is made of. -/
def ExecutionPayload.ofEngine (payload : EnginePayload) : ExecutionPayload :=
  { timestamp := payload.asV1.timestamp
    blockNumber := payload.asV1.blockNumber
    feeRecipient := payload.asV1.feeRecipient
    prevRandao := payload.asV1.prevRandao
    gasLimit := payload.asV1.gasLimit
    baseFeePerGas := payload.asV1.baseFeePerGas
    excessBlobGas := payload.excessBlobGas
    slotNumber := payload.slotNumber }

namespace EvBlockExecutor

variable (config : EvEvmConfig Payload)

/-- A transaction of a block. -/
def runTransaction (self : EvBlockExecutor) (recovered : Recovered Payload) :
    Except BlockFailure EvBlockExecutor :=
  match executeTransaction config recovered self with
  | .ok _ executor => .ok executor
  | .error e _ => .error e

/-- `execute_block`: the transactions between what comes before and after them. The first that fails
ends it. -/
def executeBlock (self : EvBlockExecutor) (txs : List (Recovered Payload)) :
    Except BlockFailure (WorldState × BlockExecutionResult) := do
  let executor ← (applyPreExecutionChanges config self).mapError .error
  let executor ← txs.foldlM (runTransaction config) executor
  (finish config executor).mapError .error

end EvBlockExecutor

namespace EvolveEngineValidator

variable (self : EvolveEngineValidator Payload)

/-- How an import fails. -/
inductive ImportError where
  | newPayload (e : NewPayloadError)
  | conversion (e : TxConversionError)
  | parent (e : ConsensusError)
  | consensus (msg : String)
  | execution (e : BlockFailure)
  | provider (msg : String)
  | stateRoot (computed stated : B256)
  deriving DecidableEq, Repr

/-- What an import leaves: the block to build on, the state after it, and its result. -/
structure Imported where
  head : SealedHeader
  state : WorldState
  result : BlockExecutionResult

variable (consensus : FullConsensus Payload)

/-- What the consensus asks of a block before it is executed. -/
def checkBeforeExecution (parent : SealedHeader) (block : SealedBlock Payload) :
    Except ImportError Unit := do
  (consensus.validateHeader block.sealedHeader).mapError .consensus
  (consensus.validateHeaderAgainstParent block.sealedHeader parent).mapError .parent
  (consensus.validateBlockPreExecution block).mapError .consensus

/-- What it asks afterwards. -/
def checkAfterExecution (block : SealedBlock Payload) (result : BlockExecutionResult) :
    Except ImportError Unit :=
  (consensus.validateBlockPostExecution block result).mapError .consensus

/-- The state after a block must have the root that the header states. -/
def checkStateRoot (base : WorldState) (header : Header)
    (executed : WorldState × BlockExecutionResult) :
    Except ImportError (WorldState × BlockExecutionResult) := do
  let root ← (self.evmConfig.stateRoot base executed.1).mapError .provider
  if root = header.stateRoot then return executed
  else throw (.stateRoot root header.stateRoot)

/-- A block is checked and executed on the state of its parent. -/
def insertBlock (base : WorldState) (parent : SealedHeader) (block : SealedBlock Payload)
    (execution : Except BlockFailure (WorldState × BlockExecutionResult)) :
    Except ImportError Imported := do
  checkBeforeExecution consensus parent block
  let executed ← execution.mapError .execution
  checkAfterExecution consensus block executed.2
  let (state, result) ← self.checkStateRoot base block.header executed
  return { head := block.sealedHeader, state, result }

/-- The import of a block. -/
def importBlock (base : WorldState) (parent : SealedHeader) (block : SealedBlock Payload) :
    Except ImportError Imported := do
  let b ← (self.tryRecover block).mapError .newPayload
  let executor : EvBlockExecutor :=
    .new (.new (self.evmConfig.chainSpec.evmEnv block.header) base) (contextForBlock block)
  self.insertBlock consensus base parent block (executor.executeBlock self.evmConfig
    (List.zipWith Recovered.mk b.block.transactions b.senders))

/-- The import of a payload. -/
def importPayload (base : WorldState) (parent : SealedHeader) (data : ExecutionData) :
    Except ImportError Imported := do
  let b ← (self.ensureWellFormedPayload data).mapError .newPayload
  let txs ← (self.txIteratorForPayload data).mapM fun tx => tx.mapError .conversion
  let executor : EvBlockExecutor :=
    .new (.new (self.evmConfig.chainSpec.evmEnvForPayload (.ofEngine data.payload)) base)
      (contextForPayload data)
  self.insertBlock consensus base parent b.block (executor.executeBlock self.evmConfig txs)

end EvolveEngineValidator

/-! ## What the builder has executed -/

namespace EvolvePayloadBuilder

variable {self : EvolvePayloadBuilder Payload} {base : WorldState} {parent : Header}
  {attributes : EvolvePayloadAttributes Payload} {outcome : BlockBuilderOutcome Payload}

/-- The state that the builder has reached with a block. -/
structure ReachedBy (builder : EvolvePayloadBuilder Payload) (base : WorldState) (parent : Header)
    (attributes : EvolvePayloadAttributes Payload) (outcome : BlockBuilderOutcome Payload)
    (db : WorldState) : Prop where
  built : builder.buildOn base parent attributes = .ok outcome
  reached : ∃ nextAttributes first last,
    builder.nextBlockAttributes parent attributes = .ok nextAttributes ∧
      builder.begin base parent attributes.parentHash nextAttributes = .ok first ∧
      SkipLoop.run builder.processTransaction attributes.transactions first = .ok last ∧
      EvBlockExecutor.finish builder.evmConfig last.executor = .ok (db, outcome.executionResult)

/-- Every build that succeeds has reached a state, and this has the root that the header states. -/
theorem exists_reachedBy (h : self.buildOn base parent attributes = .ok outcome) :
    ∃ db, self.ReachedBy base parent attributes outcome db ∧
      self.evmConfig.stateRoot base db = .ok outcome.block.header.stateRoot := by
  obtain ⟨next, hnext, first, hbegin, last, hrun, hfinish⟩ := buildOn_eq_ok_iff.mp h
  simp only [finish, Except.bind_eq_ok_iff, BuildFailure.ofProvider,
    Except.mapError_eq_ok_iff] at hfinish
  obtain ⟨⟨db, result⟩, hdb, root, hroot, hfinish⟩ := hfinish
  rw [← Except.ok.inj hfinish] at h ⊢
  exact ⟨db, ⟨h, next, first, last, hnext, hbegin, hrun, hdb⟩, hroot⟩

/-- There is only one. -/
theorem ReachedBy.unique {db db' : WorldState}
    (h : self.ReachedBy base parent attributes outcome db)
    (h' : self.ReachedBy base parent attributes outcome db') : db = db' := by
  obtain ⟨next, first, last, hnext, hbegin, hrun, hfinish⟩ := h.reached
  obtain ⟨next', first', last', hnext', hbegin', hrun', hfinish'⟩ := h'.reached
  obtain rfl := Except.ok.inj (hnext.symm.trans hnext')
  obtain rfl := Except.ok.inj (hbegin.symm.trans hbegin')
  obtain rfl := Except.ok.inj (hrun.symm.trans hrun')
  exact (Prod.mk.inj (Except.ok.inj (hfinish.symm.trans hfinish'))).1

variable {nextAttributes : NextBlockEnvAttributes} {db : WorldState}

variable (self) in
/-- The transactions have the signers that the node recovers. -/
def Recovers (txs : List (EvTxEnvelope Payload)) (recovered : List (Recovered Payload)) : Prop :=
  List.Forall₂ (fun tx r => r.tx = tx ∧ self.signer tx = some r.signer) txs recovered

/-- What the builder asks of the next block, whatever the attributes are. -/
theorem nextBlockAttributes_eq_ok
    (h : self.nextBlockAttributes parent attributes = .ok nextAttributes) :
    nextAttributes.timestamp = attributes.timestamp ∧
      nextAttributes.slotNumber = attributes.slotNumber ∧
      nextAttributes.parentBeaconBlockRoot = some 0 ∧ nextAttributes.withdrawals = some [] ∧
      nextAttributes.extraData = [] := by
  rw [nextBlockAttributes] at h
  split at h
  · cases h
  · rw [← Except.ok.inj h]
    exact ⟨rfl, rfl, rfl, rfl, rfl⟩

/-- The transactions that the builder has kept can be executed without failure, in the environment
that it has worked in, and lead to the state and the result that it has reached. -/
theorem ReachedBy.executeBlock (h : self.ReachedBy base parent attributes outcome db)
    (hinner : ∀ env, (self.evmConfig.mainnet env).KeepsSetup)
    (hnext : self.nextBlockAttributes parent attributes = .ok nextAttributes)
    {recovered : List (Recovered Payload)}
    (hrecovers : self.Recovers outcome.block.transactions recovered) :
    EvBlockExecutor.executeBlock self.evmConfig
      (.new (.new (self.evmConfig.chainSpec.nextEvmEnv parent nextAttributes) base)
        (contextForNextBlock attributes.parentHash nextAttributes)) recovered =
      .ok (db, outcome.executionResult) := by
  obtain ⟨next, first, last, hnext', hbegin, hrun, hfinish⟩ := h.reached
  obtain rfl := Except.ok.inj (hnext'.symm.trans hnext)
  -- what is in the block is what the loop has accepted
  have htransactions : outcome.block.transactions =
      SkipLoop.accepted self.processTransaction attributes.transactions first := by
    rw [(buildOn_accepted hinner h.built).1, acceptedOn_eq hnext' hbegin]
  rw [Recovers, htransactions] at hrecovers
  have hloop : ∃ executor, recovered.foldlM (EvBlockExecutor.runTransaction self.evmConfig)
      first.executor = .ok executor ∧ last.executor.Same executor := by
    refine SkipLoop.foldlM_of_run (R := fun builder executor => builder.executor.Same executor)
      (fun hsame hskipped => ?_) (fun hsame hrecovered haccepted => ?_) hrun (.refl _) hrecovers
    · obtain ⟨signer, e, -, hfailed, -⟩ := processTransaction_eq_skipped hskipped
      exact (EvBlockExecutor.same_of_executeTransaction_error hinner hfailed).symm.trans hsame
    · obtain ⟨signer, gas, hsigner, hexecuted, -⟩ := processTransaction_eq_accepted haccepted
      obtain ⟨rfl, hsigner'⟩ := hrecovered
      obtain rfl := Option.some.inj (hsigner.symm.trans hsigner')
      have hexecuted' := EvBlockExecutor.executeTransaction_of_same hsame hexecuted
      refine ⟨_, ?_, .refl _⟩
      rw [EvBlockExecutor.runTransaction, hexecuted']
  obtain ⟨executor, hloop, hsame⟩ := hloop
  simp only [begin, Except.bind_eq_ok_iff, Except.mapError_eq_ok_iff] at hbegin
  obtain ⟨executor₀, hpre, hbegin⟩ := hbegin
  rw [← Except.ok.inj hbegin] at hloop
  simp only [EvBlockExecutor.executeBlock, Except.bind_eq_ok_iff, Except.mapError_eq_ok_iff]
  refine ⟨executor₀, hpre, executor, hloop, ?_⟩
  rw [← EvBlockExecutor.finish_of_same hsame]
  exact hfinish

end EvolvePayloadBuilder

/-! ## Blocks that come back -/

/-- The attributes make a block whose header determines the environment that it was built in. -/
structure ChainSpec.Repeatable (chainSpec : ChainSpec) (parent : Header)
    (attributes : EvolvePayloadAttributes Payload) : Prop where
  merge : (chainSpec.specByTimestampAndBlockNumber attributes.timestamp
    (parent.number + 1)).isEnabledIn .merge = true
  cancun : chainSpec.isCancunActiveAtTimestamp attributes.timestamp = true
  slotNumber : attributes.slotNumber.getD 0 = 0
  blobGas : chainSpec.BlobGasSteady parent attributes.timestamp

namespace EvolveEngineValidator

/-- What the node takes from its dependencies for its imports. It asks for no extra data. -/
structure Conforms (validator : EvolveEngineValidator Payload)
    (blobVersionedHashes : EvTxEnvelope Payload → List B256) : Prop where
  keepsSetup : ∀ env, (validator.evmConfig.mainnet env).KeepsSetup
  codec : validator.StandardCodec
  writes : ∀ tx, validator.evmConfig.eth.decode2718 (validator.encodeEthereum tx) = .ok tx []
  assembles : ∀ input, validator.evmConfig.chainSpec.isCancunActiveAtTimestamp
    (saturatingToU64 input.env.blockEnv.timestamp) = true → input.ctx.extraData = [] →
      validator.AssemblesCancunBlock input
  extraData : ∀ input, input.ctx.extraData = [] →
    (validator.evmConfig.assembleRest input).extraData = []
  acceptsFields : validator.AcceptsFields blobVersionedHashes

variable {self : EvolveEngineValidator Payload}
  {blobVersionedHashes : EvTxEnvelope Payload → List B256} {builder : EvolvePayloadBuilder Payload}
  {base db : WorldState} {parent : Header} {attributes : EvolvePayloadAttributes Payload}
  {outcome : BlockBuilderOutcome Payload}

/-- A block with its senders is executed as the builder has executed it. -/
theorem recovers_zipWith (hconfig : builder.evmConfig = self.evmConfig)
    {txs : List (EvTxEnvelope Payload)} {senders : List Address}
    (h : List.Forall₂ (fun tx sender => self.signer tx = some sender) txs senders) :
    builder.Recovers txs (List.zipWith Recovered.mk txs senders) := by
  induction h with
  | nil => exact .nil
  | cons hsigner _ ih =>
    refine .cons ⟨rfl, ?_⟩ ih
    rw [EvolvePayloadBuilder.signer, hconfig]
    exact hsigner

section BuiltBlock

variable (hconforms : self.Conforms blobVersionedHashes)
  (hconfig : builder.evmConfig = self.evmConfig)
  (h : builder.buildOn base parent attributes = .ok outcome)
  (hrepeatable : self.evmConfig.chainSpec.Repeatable parent attributes)
  {nextAttributes : NextBlockEnvAttributes}
  (hnext : builder.nextBlockAttributes parent attributes = .ok nextAttributes)

include hconforms hconfig h hrepeatable hnext

/-- A block that was built has the parts that a builder gives it, and says with what it is to be
executed again. -/
theorem isBuilt_of_buildOn : self.IsBuilt outcome.executionResult.requests outcome.block ∧
    outcome.block.header.timestamp = attributes.timestamp ∧
    contextForBlock outcome.block =
      EvolvePayloadBuilder.contextForNextBlock attributes.parentHash nextAttributes := by
  obtain ⟨input, hassembled, henv, hctx⟩ :=
    EvolvePayloadBuilder.assembledFrom_of_buildOn hnext h
  obtain ⟨htimestamp, hslot, hroot, hwithdrawals, hextra⟩ :=
    EvolvePayloadBuilder.nextBlockAttributes_eq_ok hnext
  rw [hconfig] at hassembled henv
  -- the timestamp of the block comes back from a 256-bit field
  have htime : saturatingToU64 input.env.blockEnv.timestamp = attributes.timestamp := by
    rw [henv, ← htimestamp]
    exact saturatingToU64_setWidth _
  have hnone : input.ctx.extraData = [] := by
    rw [hctx]
    exact hextra
  have hassembles := hconforms.assembles input (by rw [htime]; exact hrepeatable.cancun) hnone
  have hisBuilt := isBuilt_of_assembledFrom hassembled henv hctx hroot hwithdrawals hassembles
  refine ⟨hisBuilt, ?_, ?_⟩
  · rw [hassembled.header]
    exact htime
  · -- the assembler copies the context into the header
    rw [contextForBlock, hisBuilt.parentBeaconBlockRoot, hisBuilt.withdrawals, hassembled.header]
    show EthBlockExecutionCtx.mk input.ctx.parentHash (some 0) (some [])
      (self.evmConfig.assembleRest input).extraData nextAttributes.slotNumber = _
    rw [hconforms.extraData input hnone, hctx, EvolvePayloadBuilder.contextForNextBlock, hroot,
      hwithdrawals, hextra]

omit hconforms in
/-- The environments that are derived from the header of a built block and from a payload with its
fields are those that it was built in. -/
theorem env_of_buildOn :
    builder.evmConfig.chainSpec.nextEvmEnv parent nextAttributes =
        self.evmConfig.chainSpec.evmEnv outcome.block.header ∧
      builder.evmConfig.chainSpec.nextEvmEnv parent nextAttributes =
        self.evmConfig.chainSpec.evmEnvForPayload (.ofHeader outcome.block.header) := by
  obtain ⟨rest, -, hheader⟩ := EvolvePayloadBuilder.header_of_buildOn hnext h
  obtain ⟨htimestamp, hslot, -⟩ := EvolvePayloadBuilder.nextBlockAttributes_eq_ok hnext
  rw [hheader, hconfig]
  refine (ChainSpec.nextEvmEnv_eq_iff rest ?_).mpr ⟨?_, ?_⟩
  · rw [htimestamp]
    exact hrepeatable.merge
  · rw [hslot]
    exact hrepeatable.slotNumber
  · rw [htimestamp]
    exact hrepeatable.blobGas

end BuiltBlock

/-! ## Imports -/

/-- A block, or the payload of one, arrives at a node. -/
inductive Arrival (Payload : TxType → Type) where
  | block (block : SealedBlock Payload)
  | payload (data : ExecutionData)

variable (self) in
/-- Either is imported. -/
def importArrival (consensus : FullConsensus Payload) (base : WorldState) (parent : SealedHeader) :
    Arrival Payload → Except ImportError Imported
  | .block block => self.importBlock consensus base parent block
  | .payload data => self.importPayload consensus base parent data

variable (self blobVersionedHashes) in
/-- The ways in which a built block arrives: as it is, or as a payload in a version that it
survives. -/
inductive Arrives (outcome : BlockBuilderOutcome Payload) : Arrival Payload → Prop
  | block : Arrives outcome (.block outcome.block)
  | payload (version : EnvelopeVersion) (id : U64) (fees : U256) {data : ExecutionData}
      (hdata : self.resubmitted blobVersionedHashes version (.new id outcome.block fees none) =
        .ok data)
      (hversion : version.hasRequests =
        self.evmConfig.chainSpec.isPragueActiveAtTimestamp outcome.block.header.timestamp)
      (hsize : ∀ tx ∈ outcome.block.transactions, (self.encode2718 tx).length < 2 ^ 64)
      (hsurvives : self.Survives version outcome.block.header outcome.executionResult.requests) :
      Arrives outcome (.payload data)

/-- A payload states an excess blob gas, zero if its block has none. -/
theorem excessBlobGas_dataOf (version : EnvelopeVersion) (block : SealedBlock Payload) :
    (self.dataOf blobVersionedHashes version block).payload.excessBlobGas =
      some (block.header.excessBlobGas.getD 0) := by
  cases version <;> rfl

section Payload

variable {version : EnvelopeVersion} {block : SealedBlock Payload} {requests : List Bytes}
  (hsurvives : self.Survives version block.header requests)

include hsurvives

/-- A payload states the slot of its block. -/
theorem slotNumber_dataOf : (self.dataOf blobVersionedHashes version block).payload.slotNumber =
    block.header.slotNumber := by
  obtain ⟨-, -, hslot⟩ := hsurvives
  cases version with
  | v3 | v4 | v5 => exact hslot.2.symm
  | v6 => exact some_getD_eq_iff.mpr hslot.2

/-- The payload of a block that survives has what the environment depends on. -/
theorem ofEngine_dataOf :
    ExecutionPayload.ofEngine (self.dataOf blobVersionedHashes version block).payload =
      .ofHeader block.header := by
  rw [ExecutionPayload.ofEngine, asV1_dataOf, excessBlobGas_dataOf,
    some_getD_eq_iff.mpr hsurvives.1, slotNumber_dataOf hsurvives]
  rfl

/-- Block and payload are executed in the same context. -/
theorem contextForPayload_dataOf (h : self.IsBuilt requests block) :
    contextForPayload (self.dataOf blobVersionedHashes version block) = contextForBlock block := by
  rw [contextForPayload, contextForBlock, asV1_dataOf, withdrawals_dataOf h,
    slotNumber_dataOf hsurvives, h.parentBeaconBlockRoot, h.withdrawals]
  rfl

end Payload

/-- A transaction that the node writes is written exactly. -/
theorem writtenExactly_encode2718 (hconforms : self.Conforms blobVersionedHashes)
    {tx : EvTxEnvelope Payload} (hsize : (self.encode2718 tx).length < 2 ^ 64) :
    self.WrittenExactly (self.encode2718 tx) := by
  have hread := decode2718_encode2718 hconforms.codec hconforms.writes hsize
  exact ⟨⟨tx, hread⟩, (encode2718_eq_iff hconforms.codec hread).mp rfl⟩

/-! ### What the consensus decides -/

/-- The consensus has refused a block. -/
def ImportError.IsConsensus : ImportError → Prop
  | .parent _ | .consensus _ => True
  | _ => False

/-- An import gives its value if it is acceptable to the consensus, and else it is refused by the
consensus. There is no other way in which it fails. -/
def UpToConsensus {α : Type} (acceptable : Prop) (x : Except ImportError α) (a : α) : Prop :=
  (acceptable → x = .ok a) ∧ (¬ acceptable → ∃ e : ImportError, x = .error e ∧ e.IsConsensus)

/-- A built block is acceptable on its parent: its timestamp is not before that of the parent, its
gas limit is within the bounds that the parent sets, and reth accepts its header, its body, and what
it has led to. -/
structure Acceptable (consensus : FullConsensus Payload) (parent : SealedHeader)
    (outcome : BlockBuilderOutcome Payload) : Prop where
  timestamp : parent.header.timestamp.toNat ≤ outcome.block.header.timestamp.toNat
  gasLimit : GasLimitBounded
    (consensus.chainSpec.gasLimitAt outcome.block.header.number outcome.block.header.timestamp
      parent.header.gasLimit) outcome.block.header.gasLimit
  header : consensus.validateHeader outcome.block.sealedHeader = .ok ()
  body : consensus.validateBlockPreExecution outcome.block = .ok ()
  result : consensus.validateBlockPostExecution outcome.block outcome.executionResult = .ok ()

section Checks

variable {consensus : FullConsensus Payload} {parent : SealedHeader} {block : SealedBlock Payload}
  {result : BlockExecutionResult}

/-- A check whose error is one of the consensus, in front of others. -/
theorem isConsensus_of_check {ε : Type} {check : Except ε Unit} {f : ε → ImportError}
    (hf : ∀ e, (f e).IsConsensus) {rest : Except ImportError Unit}
    (hrest : ∀ e, rest = .error e → e.IsConsensus) {e : ImportError}
    (h : (check.mapError f >>= fun _ => rest) = .error e) : e.IsConsensus := by
  cases check with
  | ok => exact hrest e h
  | error e' =>
    obtain rfl := Except.error.inj h
    exact hf e'

theorem isConsensus_of_checkAfterExecution {e : ImportError}
    (h : checkAfterExecution consensus block result = .error e) : e.IsConsensus := by
  obtain ⟨msg, -, rfl⟩ := Except.mapError_eq_error_iff.mp h
  exact trivial

theorem isConsensus_of_checkBeforeExecution {e : ImportError}
    (h : checkBeforeExecution consensus parent block = .error e) : e.IsConsensus := by
  refine isConsensus_of_check (f := .consensus) (fun _ => trivial) (fun e h => ?_) h
  refine isConsensus_of_check (f := .parent) (fun _ => trivial) (fun e h => ?_) h
  obtain ⟨msg, -, rfl⟩ := Except.mapError_eq_error_iff.mp h
  exact trivial

/-- Before execution the consensus judges the header, the header against its parent, and the body.
-/
theorem checkBeforeExecution_eq_ok_iff :
    checkBeforeExecution consensus parent block = .ok () ↔
      consensus.validateHeader block.sealedHeader = .ok () ∧
        consensus.validateHeaderAgainstParent block.sealedHeader parent = .ok () ∧
        consensus.validateBlockPreExecution block = .ok () := by
  rw [checkBeforeExecution, Except.check_eq_ok_iff, Except.check_eq_ok_iff,
    Except.mapError_eq_ok_iff, Except.mapError_eq_ok_iff, Except.mapError_eq_ok_iff]

variable (consensus parent) in
/-- Where the execution succeeds and the state root is right, only the consensus can refuse. -/
theorem upToConsensus_insertBlock {base db : WorldState}
    (hroot : self.checkStateRoot base block.header (db, result) = .ok (db, result)) :
    UpToConsensus
      (checkBeforeExecution consensus parent block = .ok () ∧
        checkAfterExecution consensus block result = .ok ())
      (self.insertBlock consensus base parent block (.ok (db, result)))
      { head := block.sealedHeader, state := db, result } := by
  cases hbefore : checkBeforeExecution consensus parent block with
  | error e =>
    refine ⟨fun h => ?_, fun _ => ⟨e, ?_, isConsensus_of_checkBeforeExecution hbefore⟩⟩
    · cases h.1
    · rw [insertBlock, hbefore]
      rfl
  | ok =>
    have hinsert : self.insertBlock consensus base parent block (.ok (db, result)) =
        (do checkAfterExecution consensus block result
            let (state, result) ← self.checkStateRoot base block.header (db, result)
            return { head := block.sealedHeader, state, result }) := by
      rw [insertBlock, hbefore]
      rfl
    rw [hinsert, hroot]
    cases hafter : checkAfterExecution consensus block result with
    | error e =>
      refine ⟨fun h => ?_, fun _ => ⟨e, rfl, isConsensus_of_checkAfterExecution hafter⟩⟩
      cases h.2
    | ok => exact ⟨fun _ => rfl, fun h => absurd ⟨rfl, rfl⟩ h⟩

end Checks

/-- What the consensus asks of a built block are the rules for its timestamp and its gas limit, and
the checks of reth: hash, number and base fee follow from the parent. -/
theorem acceptable_iff {consensus : FullConsensus Payload}
    (hspec : consensus.chainSpec = self.evmConfig.chainSpec)
    (hstandard : consensus.checks.Standard) (hconfig : builder.evmConfig = self.evmConfig)
    {parent : SealedHeader}
    (h : builder.buildOn base parent.header attributes = .ok outcome)
    {nextAttributes : NextBlockEnvAttributes}
    (hnext : builder.nextBlockAttributes parent.header attributes = .ok nextAttributes)
    (hparent : attributes.parentHash = parent.hash)
    (hvalid : consensus.chainSpec.ValidParent parent.header attributes.timestamp) :
    (checkBeforeExecution consensus parent outcome.block = .ok () ∧
        checkAfterExecution consensus outcome.block outcome.executionResult = .ok ()) ↔
      Acceptable consensus parent outcome := by
  obtain ⟨rest, hrest, hheader⟩ := EvolvePayloadBuilder.header_of_buildOn hnext h
  obtain ⟨htimestamp, -⟩ := EvolvePayloadBuilder.nextBlockAttributes_eq_ok hnext
  rw [hconfig, ← hspec] at hheader
  have hsealed : outcome.block.sealedHeader.header =
      consensus.chainSpec.assembleHeader parent.header nextAttributes
        (consensus.chainSpec.nextEvmEnv parent.header nextAttributes) rest := hheader
  -- hash, number and base fee are right by construction, so timestamp and gas limit are left
  have hagainst := EvolveConsensus.validateHeaderAgainstParent_assembled_iff hstandard
    (htimestamp ▸ hvalid) hsealed
  rw [hrest, hparent] at hagainst
  have hnumber : outcome.block.header.number = parent.header.number + 1 := by
    rw [hheader, ChainSpec.number_assembleHeader]
  have htime : outcome.block.header.timestamp = nextAttributes.timestamp := by
    rw [hheader, ChainSpec.timestamp_assembleHeader]
  have hgasLimit : outcome.block.header.gasLimit = consensus.chainSpec.gasLimitAt
      (parent.header.number + 1) nextAttributes.timestamp nextAttributes.gasLimit := by
    rw [hheader]
    rfl
  rw [checkBeforeExecution_eq_ok_iff, checkAfterExecution, Except.mapError_eq_ok_iff, hagainst]
  constructor
  · rintro ⟨⟨hvalidHeader, ⟨hle, hbounded⟩, hbody⟩, hresult⟩
    refine ⟨?_, ?_, hvalidHeader, hbody, hresult⟩
    · rw [htime]
      exact hle
    · rw [hnumber, htime, hgasLimit]
      exact hbounded
  · rintro ⟨hle, hbounded, hvalidHeader, hbody, hresult⟩
    rw [htime] at hle
    rw [hnumber, htime, hgasLimit] at hbounded
    exact ⟨⟨hvalidHeader, ⟨hle, hbounded⟩, hbody⟩, hresult⟩

/-- A built block is imported with the state and the result that its builder has reached, unless the
consensus refuses it. -/
theorem upToConsensus_importArrival {consensus : FullConsensus Payload}
    (hconforms : self.Conforms blobVersionedHashes)
    (hspec : consensus.chainSpec = self.evmConfig.chainSpec)
    (hstandard : consensus.checks.Standard) (hconfig : builder.evmConfig = self.evmConfig)
    {parent : SealedHeader} (h : builder.ReachedBy base parent.header attributes outcome db)
    (hparent : attributes.parentHash = parent.hash)
    (hvalid : consensus.chainSpec.ValidParent parent.header attributes.timestamp)
    (hrepeatable : self.evmConfig.chainSpec.Repeatable parent.header attributes)
    {arrival : Arrival Payload} (harrives : self.Arrives blobVersionedHashes outcome arrival) :
    UpToConsensus (Acceptable consensus parent outcome)
      (self.importArrival consensus base parent arrival)
      { head := outcome.block.sealedHeader, state := db, result := outcome.executionResult } := by
  obtain ⟨next, -, -, hnext, -⟩ := h.reached
  obtain ⟨hisBuilt, htimestamp, hcontext⟩ :=
    isBuilt_of_buildOn hconforms hconfig h.built hrepeatable hnext
  obtain ⟨henv, henv'⟩ := env_of_buildOn hconfig h.built hrepeatable hnext
  have hsigner : ∀ tx ∈ outcome.block.transactions, (self.signer tx).isSome := by
    intro tx hmem
    have hsome := EvolvePayloadBuilder.signer_of_buildOn h.built tx hmem
    rw [EvolvePayloadBuilder.signer, hconfig] at hsome
    exact hsome
  -- whatever the senders are recovered to, the execution is that of the builder
  have hexecuted : ∀ senders, List.Forall₂ (fun tx sender => self.signer tx = some sender)
      outcome.block.transactions senders →
      EvBlockExecutor.executeBlock self.evmConfig
        (.new (.new (builder.evmConfig.chainSpec.nextEvmEnv parent.header next) base)
          (contextForBlock outcome.block))
        (List.zipWith Recovered.mk outcome.block.transactions senders) =
          .ok (db, outcome.executionResult) := by
    intro senders hsenders
    rw [hcontext, ← hconfig]
    refine h.executeBlock (fun env => ?_) hnext (recovers_zipWith hconfig hsenders)
    rw [hconfig]
    exact hconforms.keepsSetup env
  have hroot : self.checkStateRoot base outcome.block.header (db, outcome.executionResult) =
      .ok (db, outcome.executionResult) := by
    obtain ⟨db', h', hroot⟩ := EvolvePayloadBuilder.exists_reachedBy h.built
    obtain rfl := h.unique h'
    rw [hconfig] at hroot
    simp only [checkStateRoot, Except.bind_eq_ok_iff, Except.mapError_eq_ok_iff]
    exact ⟨_, hroot, if_pos rfl⟩
  -- so an import comes down to the two checks of the consensus
  rw [← acceptable_iff hspec hstandard hconfig h.built hnext hparent hvalid]
  have hinsert := upToConsensus_insertBlock consensus parent hroot
  suffices himport : self.importArrival consensus base parent arrival =
      self.insertBlock consensus base parent outcome.block
        (.ok (db, outcome.executionResult)) by
    rw [himport]
    exact hinsert
  cases harrives with
  | block =>
    obtain ⟨senders, hsenders⟩ := List.exists_forall₂_iff.mpr fun tx hmem =>
      Option.isSome_iff_exists.mp (hsigner tx hmem)
    have hrecovered : self.tryRecover outcome.block = .ok ⟨outcome.block, senders⟩ :=
      tryRecover_eq_ok_iff.mpr ⟨rfl, hsenders⟩
    rw [importArrival, importBlock, hrecovered, ← hexecuted senders hsenders, henv]
    rfl
  | @payload version id fees data hdata hversion hsize hsurvives =>
    obtain ⟨data', b, hdata', hb, hblock⟩ := (roundTrips_new_iff hconforms.codec hconforms.writes
      hconforms.acceptsFields hisBuilt (htimestamp ▸ hrepeatable.cancun) hversion hsize hsigner id
      fees).mpr hsurvives
    obtain rfl := Except.ok.inj (hdata.symm.trans hdata')
    obtain rfl := Except.ok.inj ((resubmitted_new id fees).symm.trans hdata)
    replace hblock : b.block = outcome.block := hblock
    obtain ⟨-, hsenders⟩ := transactions_of_ensureWellFormedPayload hconforms.codec hb
    have hwritten : ∀ bytes ∈ (self.dataOf blobVersionedHashes version
        outcome.block).payload.transactions, self.WrittenExactly bytes := by
      rw [EnginePayload.transactions, asV1_dataOf]
      intro bytes hmem
      obtain ⟨tx, htx, rfl⟩ := List.mem_map.mp hmem
      exact writtenExactly_encode2718 hconforms (hsize tx htx)
    have htxs := ((executesBlock_iff hconforms.codec hb).mpr hwritten).1
    rw [hblock] at hsenders htxs
    have hmap : (self.txIteratorForPayload (self.dataOf blobVersionedHashes version
        outcome.block)).mapM (fun tx => tx.mapError ImportError.conversion) =
          .ok (List.zipWith Recovered.mk outcome.block.transactions b.senders) := by
      rw [htxs, Except.mapM_eq_ok_iff, List.forall₂_map_left_iff, List.forall₂_same]
      exact fun _ _ => rfl
    rw [importArrival, importPayload, hb, hmap, ofEngine_dataOf hsurvives,
      contextForPayload_dataOf hsurvives hisBuilt, ← henv', ← hexecuted b.senders hsenders,
      ← hblock]
    rfl

/-! ## Chains -/

variable (self) in
/-- Blocks are imported one after the other; the state after the last one, and the results. -/
def importAll (consensus : FullConsensus Payload) (base : WorldState) (parent : SealedHeader) :
    List (Arrival Payload) → Except ImportError (WorldState × List BlockExecutionResult)
  | [] => .ok (base, [])
  | arrival :: arrivals => do
    let imported ← self.importArrival consensus base parent arrival
    let (db, results) ← importAll consensus imported.state imported.head arrivals
    return (db, imported.result :: results)

section ImportAll

variable {consensus : FullConsensus Payload} {parent : SealedHeader} {arrival : Arrival Payload}
  {arrivals : List (Arrival Payload)}

/-- Behind a block that is imported the next one is imported on its state. -/
theorem importAll_cons_of_ok {imported : Imported}
    (h : self.importArrival consensus base parent arrival = .ok imported) :
    self.importAll consensus base parent (arrival :: arrivals) =
      (self.importAll consensus imported.state imported.head arrivals).map fun rest =>
        (rest.1, imported.result :: rest.2) := by
  rw [importAll, h]
  change (self.importAll consensus imported.state imported.head arrivals >>= fun rest =>
    pure (rest.1, imported.result :: rest.2)) = _
  cases self.importAll consensus imported.state imported.head arrivals <;> rfl

theorem importAll_cons_of_error {e : ImportError}
    (h : self.importArrival consensus base parent arrival = .error e) :
    self.importAll consensus base parent (arrival :: arrivals) = .error e := by
  rw [importAll, h]
  rfl

end ImportAll

variable (self builder) in
/-- Blocks that are built one on the other, and the states before the first and after the last. -/
inductive BuiltChain :
    WorldState → SealedHeader → List (BlockBuilderOutcome Payload) → WorldState → Prop
  | nil (base : WorldState) (parent : SealedHeader) : BuiltChain base parent [] base
  | block {base db db' : WorldState} {parent : SealedHeader}
      {attributes : EvolvePayloadAttributes Payload} {outcome : BlockBuilderOutcome Payload}
      {outcomes : List (BlockBuilderOutcome Payload)}
      (hreached : builder.ReachedBy base parent.header attributes outcome db)
      (hparent : attributes.parentHash = parent.hash)
      (hvalid : self.evmConfig.chainSpec.ValidParent parent.header attributes.timestamp)
      (hrepeatable : self.evmConfig.chainSpec.Repeatable parent.header attributes)
      (hrest : BuiltChain db outcome.block.sealedHeader outcomes db') :
      BuiltChain base parent (outcome :: outcomes) db'

/-- All blocks of a chain are acceptable, each on the one before it. -/
def AllAcceptable (consensus : FullConsensus Payload) :
    SealedHeader → List (BlockBuilderOutcome Payload) → Prop
  | _, [] => True
  | parent, outcome :: outcomes => Acceptable consensus parent outcome ∧
      AllAcceptable consensus outcome.block.sealedHeader outcomes

/-- A chain that one node has built is imported by every other one, block by block, whether the
blocks arrive as they are or as payloads, with the states, receipts, requests and gas that their
builder has reached, whatever transactions it has skipped: exactly if the consensus accepts each
block on the one before it. No transaction fails, and no state root differs. -/
theorem imports_built_chain (hconforms : self.Conforms blobVersionedHashes)
    {consensus : FullConsensus Payload}
    (hspec : consensus.chainSpec = self.evmConfig.chainSpec)
    (hstandard : consensus.checks.Standard) (hconfig : builder.evmConfig = self.evmConfig)
    {parent : SealedHeader} {outcomes : List (BlockBuilderOutcome Payload)}
    {arrivals : List (Arrival Payload)}
    (hchain : self.BuiltChain builder base parent outcomes db)
    (harrive : List.Forall₂ (self.Arrives blobVersionedHashes) outcomes arrivals) :
    UpToConsensus (AllAcceptable consensus parent outcomes)
      (self.importAll consensus base parent arrivals)
      (db, outcomes.map (·.executionResult)) := by
  induction hchain generalizing arrivals with
  | nil base parent =>
    obtain rfl := List.forall₂_nil_left_iff.mp harrive
    exact ⟨fun _ => rfl, fun h => absurd trivial h⟩
  | @block base db db' parent attributes outcome outcomes hreached hparent hvalid hrepeatable _
      ih =>
    obtain ⟨arrival, arrivals', harrives, hrest, rfl⟩ := List.forall₂_cons_left_iff.mp harrive
    obtain ⟨haccepted, hrefused⟩ := upToConsensus_importArrival hconforms hspec hstandard hconfig
      hreached hparent (hspec ▸ hvalid) hrepeatable harrives
    by_cases hfirst : Acceptable consensus parent outcome
    · obtain ⟨haccepted', hrefused'⟩ := ih hrest
      rw [importAll_cons_of_ok (haccepted hfirst)]
      refine ⟨fun h => ?_, fun h => ?_⟩
      · rw [haccepted' h.2]
        rfl
      · obtain ⟨e, he, hconsensus⟩ := hrefused' fun hall => h ⟨hfirst, hall⟩
        rw [he]
        exact ⟨e, rfl, hconsensus⟩
    · obtain ⟨e, he, hconsensus⟩ := hrefused hfirst
      rw [importAll_cons_of_error he]
      exact ⟨fun h => absurd h.1 hfirst, fun _ => ⟨e, rfl, hconsensus⟩⟩

/-! ## A block that comes back -/

open EvolvePayloadBuilder (payment senderWorld paymentParent paymentAttributes)

/-- The builder of `pragueService`. -/
def pragueBuilder : EvolvePayloadBuilder fun _ => Empty := (pragueService []).evolveBuilder

theorem conforms_pragueValidator : (pragueValidator []).Conforms fun _ => [] where
  keepsSetup _ := Transfers.keepsSetup _
  codec := standardCodec_pragueValidator []
  writes tx := tx.tx.elim
  assembles input _ _ := assemblesCancunBlock_pragueValidator [] input
  extraData _ _ := rfl
  acceptsFields := acceptsFields_pragueValidator []

/-- The consensus of `pragueValidator`, with checks of gas, extra data and transactions. -/
def pragueConsensus : FullConsensus fun _ => Empty :=
  { chainSpec := (pragueValidator []).evmConfig.chainSpec
    checks := EvolveConsensus.rethChecks
    inner :=
      { validateHeader := fun header =>
          if header.header.gasLimit.toNat < header.header.gasUsed.toNat then
            .error "block used gas is greater than gas limit"
          else if maximumExtraDataSize < header.header.extraData.length then
            .error "extra data exceeds max length"
          else .ok ()
        validateBlockPreExecution := fun block =>
          if block.header.transactionsRoot ≠
              (pragueValidator []).calculateTransactionRoot block.transactions then
            .error "mismatched block transaction root"
          else .ok ()
        validateBlockPostExecution := fun block result =>
          if block.header.gasUsed ≠ result.gasUsed then .error "block gas used mismatch"
          else .ok () } }

/-- A payment, and the same payment once more, in a block with a gas limit. -/
def twicePaid (gasLimit : U64) : EvolvePayloadAttributes fun _ => Empty :=
  { paymentAttributes [payment none, payment none] with gasLimit := some gasLimit }

/-- `paymentParent` with its hash. -/
def sealedPaymentParent : SealedHeader := ⟨paymentParent, 0xAA⟩

theorem repeatable_twicePaid (gasLimit : U64) :
    (pragueValidator []).evmConfig.chainSpec.Repeatable paymentParent (twicePaid gasLimit) where
  merge := rfl
  cancun := rfl
  slotNumber := rfl
  blobGas := by
    have hsteady : (pragueValidator []).evmConfig.chainSpec.BlobGasSteady paymentParent
        1710338136 := .inr ⟨rfl, by decide⟩
    exact hsteady

theorem validParent_twicePaid (gasLimit : U64) :
    (pragueValidator []).evmConfig.chainSpec.ValidParent paymentParent
      (twicePaid gasLimit).timestamp where
  number := by decide
  gasLimit := by
    have hlimit : minimumGasLimit ≤ (30000000 : U64).toNat := by decide
    exact hlimit
  baseFee := rfl

/-- A block of `twicePaid` makes a chain. -/
theorem builtChain_twicePaid {gasLimit : U64} {outcome : BlockBuilderOutcome fun _ => Empty}
    (h : pragueBuilder.buildOn senderWorld paymentParent (twicePaid gasLimit) = .ok outcome) :
    ∃ db, (pragueValidator []).BuiltChain pragueBuilder senderWorld sealedPaymentParent [outcome]
      db := by
  obtain ⟨db, hreached, -⟩ := EvolvePayloadBuilder.exists_reachedBy h
  exact ⟨db, .block hreached rfl (validParent_twicePaid gasLimit) (repeatable_twicePaid gasLimit)
    (.nil db _)⟩

/-- The block has one of the two payments, and the consensus accepts it. -/
theorem exists_buildOn_twicePaid : ∃ outcome,
    pragueBuilder.buildOn senderWorld paymentParent (twicePaid 30000000) = .ok outcome ∧
      outcome.block.transactions.length = 1 ∧
      (∀ tx ∈ outcome.block.transactions, ((pragueValidator []).encode2718 tx).length < 2 ^ 64) ∧
      (pragueValidator []).Survives .v4 outcome.block.header outcome.executionResult.requests ∧
      AllAcceptable pragueConsensus sealedPaymentParent [outcome] := by
  have hfacts : (pragueBuilder.buildOn senderWorld paymentParent (twicePaid 30000000)).toOption.map
      (fun outcome => decide (outcome.block.transactions.length = 1 ∧
        (∀ tx ∈ outcome.block.transactions,
          ((pragueValidator []).encode2718 tx).length < 2 ^ 64) ∧
        outcome.executionResult.requests = [] ∧
        outcome.block.header.excessBlobGas.isSome = true ∧
        outcome.block.header.blockAccessListHash = none ∧
        outcome.block.header.slotNumber = none ∧
        (paymentParent.timestamp.toNat ≤ outcome.block.header.timestamp.toNat ∧
          GasLimitBounded 30000000 outcome.block.header.gasLimit) ∧
        pragueConsensus.validateHeader outcome.block.sealedHeader = .ok () ∧
        pragueConsensus.validateBlockPreExecution outcome.block = .ok () ∧
        pragueConsensus.validateBlockPostExecution outcome.block outcome.executionResult =
          .ok ())) = some true := by
    decide +kernel
  -- the block is built once, and all that is to be known of it is decided together
  cases houtcome : pragueBuilder.buildOn senderWorld paymentParent (twicePaid 30000000) with
  | error e =>
    rw [houtcome] at hfacts
    cases hfacts
  | ok outcome =>
    rw [houtcome] at hfacts
    obtain ⟨hlength, hsize, hrequests, hexcess, hlist, hslot, ⟨htime, hgas⟩, hheader, hbody,
      hresult⟩ := of_decide_eq_true (Option.some.inj hfacts)
    exact ⟨outcome, rfl, hlength, hsize, ⟨hexcess, fun _ => by rw [hrequests], hlist, hslot⟩,
      ⟨htime, hgas, hheader, hbody, hresult⟩, trivial⟩

/-- With twice the gas limit of its parent the block is built all the same. -/
theorem exists_buildOn_doubledGasLimit : ∃ outcome,
    pragueBuilder.buildOn senderWorld paymentParent (twicePaid 60000000) = .ok outcome ∧
      ¬ AllAcceptable pragueConsensus sealedPaymentParent [outcome] := by
  have hfacts : (pragueBuilder.buildOn senderWorld paymentParent (twicePaid 60000000)).toOption.map
      (fun outcome => decide (GasLimitBounded 30000000 outcome.block.header.gasLimit)) =
        some false := by
    decide +kernel
  cases houtcome : pragueBuilder.buildOn senderWorld paymentParent (twicePaid 60000000) with
  | error e =>
    rw [houtcome] at hfacts
    cases hfacts
  | ok outcome =>
    rw [houtcome] at hfacts
    exact ⟨outcome, rfl, fun h =>
      of_decide_eq_false (Option.some.inj hfacts) h.1.gasLimit⟩

/-- The block is imported as it is and as a payload, with the same state. A block with twice the gas
limit of its parent is refused. -/
theorem imports_built_chain_payment :
    (∃ outcome db data, (pragueValidator []).BuiltChain pragueBuilder senderWorld
        sealedPaymentParent [outcome] db ∧
      outcome.block.transactions.length = 1 ∧
      (pragueValidator []).importAll pragueConsensus senderWorld sealedPaymentParent
        [.block outcome.block] = .ok (db, [outcome.executionResult]) ∧
      (pragueValidator []).importAll pragueConsensus senderWorld sealedPaymentParent
        [.payload data] = .ok (db, [outcome.executionResult])) ∧
    ∃ outcome e, pragueBuilder.buildOn senderWorld paymentParent (twicePaid 60000000) =
        .ok outcome ∧
      (pragueValidator []).importAll pragueConsensus senderWorld sealedPaymentParent
        [.block outcome.block] = .error e ∧ e.IsConsensus := by
  refine ⟨?_, ?_⟩
  · obtain ⟨outcome, houtcome, hlength, hsize, hsurvives, hacceptable⟩ := exists_buildOn_twicePaid
    obtain ⟨db, hchain⟩ := builtChain_twicePaid houtcome
    have hpayload : (pragueValidator []).Arrives (fun _ => []) outcome
        (.payload ((pragueValidator []).dataOf (fun _ => []) .v4 outcome.block)) :=
      .payload .v4 1 0 (resubmitted_new 1 0) rfl hsize hsurvives
    refine ⟨outcome, db, (pragueValidator []).dataOf (fun _ => []) .v4 outcome.block, hchain,
      hlength, ?_, ?_⟩
    · exact (imports_built_chain conforms_pragueValidator rfl EvolveConsensus.standard_rethChecks
        rfl hchain (.cons .block .nil)).1 hacceptable
    · exact (imports_built_chain conforms_pragueValidator rfl EvolveConsensus.standard_rethChecks
        rfl hchain (.cons hpayload .nil)).1 hacceptable
  · obtain ⟨outcome, houtcome, hrefused⟩ := exists_buildOn_doubledGasLimit
    obtain ⟨db, hchain⟩ := builtChain_twicePaid houtcome
    obtain ⟨e, he, hconsensus⟩ := (imports_built_chain conforms_pragueValidator rfl
      EvolveConsensus.standard_rethChecks rfl hchain (.cons .block .nil)).2 hrefused
    exact ⟨outcome, e, houtcome, he, hconsensus⟩

end EvolveEngineValidator

end EvReth
