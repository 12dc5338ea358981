import EvReth.Node.Validator

/-!
# Built payloads and their envelopes

`EvBuiltPayload` (`crates/node/src/payload_types.rs`) is handed out in the envelope of a version of
the Engine API, and comes back as an execution payload with a sidecar. A block survives this round
trip if nothing that it has outside of the payload is lost: the requests of its execution, the hash
of its block access list and its slot number.
-/

namespace EvReth

variable {Payload : TxType → Type}

/-! ## Envelopes -/

section Blocks

variable (encode2718 : EvTxEnvelope Payload → Bytes) (block : SealedBlock Payload)

/-- `from_block_unchecked`. -/
def ExecutionPayloadV1.fromBlockUnchecked : ExecutionPayloadV1 :=
  { parentHash := block.header.parentHash
    feeRecipient := block.header.beneficiary
    stateRoot := block.header.stateRoot
    receiptsRoot := block.header.receiptsRoot
    logsBloom := block.header.logsBloom
    prevRandao := block.header.mixHash
    blockNumber := block.header.number
    gasLimit := block.header.gasLimit
    gasUsed := block.header.gasUsed
    timestamp := block.header.timestamp
    extraData := block.header.extraData
    baseFeePerGas := (block.header.baseFeePerGas.getD 0).setWidth 256
    blockHash := block.hash
    transactions := block.transactions.map encode2718 }

/-- `from_block_unchecked`. -/
def ExecutionPayloadV2.fromBlockUnchecked : ExecutionPayloadV2 :=
  { payloadInner := .fromBlockUnchecked encode2718 block
    withdrawals := block.withdrawals.getD [] }

/-- `from_block_unchecked`. -/
def ExecutionPayloadV3.fromBlockUnchecked : ExecutionPayloadV3 :=
  { payloadInner := .fromBlockUnchecked encode2718 block
    blobGasUsed := block.header.blobGasUsed.getD 0
    excessBlobGas := block.header.excessBlobGas.getD 0 }

end Blocks

/-- `ExecutionPayloadEnvelopeV3`. -/
structure ExecutionPayloadEnvelopeV3 where
  executionPayload : ExecutionPayloadV3
  blockValue : U256
  shouldOverrideBuilder : Bool
  blobsBundle : BlobsBundle
  deriving DecidableEq, Repr

/-- `ExecutionPayloadEnvelopeV4`. -/
structure ExecutionPayloadEnvelopeV4 where
  executionRequests : List Bytes
  envelopeInner : ExecutionPayloadEnvelopeV3
  deriving DecidableEq, Repr

/-- `ExecutionPayloadEnvelopeV5`. -/
structure ExecutionPayloadEnvelopeV5 where
  executionPayload : ExecutionPayloadV3
  blockValue : U256
  shouldOverrideBuilder : Bool
  blobsBundle : BlobsBundle
  executionRequests : List Bytes
  deriving DecidableEq, Repr

/-- `ExecutionPayloadEnvelopeV6`. -/
structure ExecutionPayloadEnvelopeV6 where
  executionPayload : ExecutionPayloadV4
  blockValue : U256
  shouldOverrideBuilder : Bool
  blobsBundle : BlobsBundle
  executionRequests : List Bytes
  deriving DecidableEq, Repr

/-- `EvBuiltPayloadConversionError`. -/
inductive EvBuiltPayloadConversionError where
  | unexpectedEip7594Sidecars
  | unexpectedEip4844Sidecars
  deriving DecidableEq, Repr

/-- `EMPTY_BLOCK_ACCESS_LIST_HASH`. -/
def emptyBlockAccessListHash : B256 :=
  0x1dcc4de8dec75d7aab85b567b6ccd41ad312451b948a7413f0a142fd40d49347

namespace BlobSidecars

/-- The bundle of an envelope before Osaka. -/
def intoBundleV1 : BlobSidecars → Except EvBuiltPayloadConversionError BlobsBundle
  | .empty => .ok {}
  | .eip4844 bundle => .ok bundle
  | .eip7594 _ => .error .unexpectedEip7594Sidecars

/-- The bundle of an envelope from Osaka on. -/
def intoBundleV2 : BlobSidecars → Except EvBuiltPayloadConversionError BlobsBundle
  | .empty => .ok {}
  | .eip7594 bundle => .ok bundle
  | .eip4844 _ => .error .unexpectedEip4844Sidecars

end BlobSidecars

namespace EvBuiltPayload

variable (encode2718 : EvTxEnvelope Payload → Bytes) (self : EvBuiltPayload Payload)

/-- `try_into_v3`. -/
def tryIntoV3 : Except EvBuiltPayloadConversionError ExecutionPayloadEnvelopeV3 := do
  let blobsBundle ← self.sidecars.intoBundleV1
  return { executionPayload := .fromBlockUnchecked encode2718 self.block
           blockValue := self.fees
           shouldOverrideBuilder := false
           blobsBundle }

/-- `try_into_v4`. -/
def tryIntoV4 : Except EvBuiltPayloadConversionError ExecutionPayloadEnvelopeV4 := do
  let executionRequests := self.requests.getD []
  let envelopeInner ← self.tryIntoV3 encode2718
  return { executionRequests, envelopeInner }

/-- `try_into_v5`. -/
def tryIntoV5 : Except EvBuiltPayloadConversionError ExecutionPayloadEnvelopeV5 := do
  let blobsBundle ← self.sidecars.intoBundleV2
  return { executionPayload := .fromBlockUnchecked encode2718 self.block
           blockValue := self.fees
           shouldOverrideBuilder := false
           blobsBundle
           executionRequests := self.requests.getD [] }

/-- The conversion to `ExecutionPayloadEnvelopeV6`. In place of the block access list it has the
bytes of the hash of one. -/
def tryIntoV6 : Except EvBuiltPayloadConversionError ExecutionPayloadEnvelopeV6 := do
  let blobsBundle ← self.sidecars.intoBundleV2
  let blockAccessList :=
    wordBytes (self.block.header.blockAccessListHash.getD emptyBlockAccessListHash)
  let slotNumber := self.block.header.slotNumber.getD 0
  return { executionPayload :=
            { payloadInner := .fromBlockUnchecked encode2718 self.block
              blockAccessList
              slotNumber }
           blockValue := self.fees
           shouldOverrideBuilder := false
           blobsBundle
           executionRequests := self.requests.getD [] }

end EvBuiltPayload

/-! ## The round trip -/

/-- The versions of the Engine API in which a built payload is handed out. -/
inductive EnvelopeVersion where
  | v3
  | v4
  | v5
  | v6
  deriving DecidableEq, Repr

/-- The version has a field for execution requests. -/
def EnvelopeVersion.hasRequests : EnvelopeVersion → Bool
  | .v3 => false
  | .v4 | .v5 | .v6 => true

/-- The attributes with which `try_build` calls the builder. -/
def EvolveEnginePayloadBuilder.builderAttributes (self : EvolveEnginePayloadBuilder Payload)
    (config : PayloadConfig) : EvolvePayloadAttributes Payload :=
  self.evolveAttributes config
    (if self.devMode then self.pendingTransactions
    else self.decodeTransactions (config.attributes.transactions.getD []))

namespace EvolveEngineValidator

variable (self : EvolveEngineValidator Payload)
  (blobVersionedHashes : EvTxEnvelope Payload → List B256)

/-- The Cancun fields of a block that is sent back: the beacon root is zero, the versioned hashes
are those of its transactions. -/
def cancunFieldsOf (block : SealedBlock Payload) : CancunPayloadFields :=
  { parentBeaconBlockRoot := 0
    versionedHashes := block.transactions.flatMap blobVersionedHashes }

/-- What is sent back of an envelope: its payload and its execution requests. -/
def resubmitted (version : EnvelopeVersion) (payload : EvBuiltPayload Payload) :
    Except EvBuiltPayloadConversionError ExecutionData :=
  let cancun := some (cancunFieldsOf blobVersionedHashes payload.block)
  match version with
  | .v3 => do
    let envelope ← payload.tryIntoV3 self.encode2718
    return { payload := .v3 envelope.executionPayload, sidecar := { cancun } }
  | .v4 => do
    let envelope ← payload.tryIntoV4 self.encode2718
    return { payload := .v3 envelope.envelopeInner.executionPayload
             sidecar := { cancun, prague := some ⟨.requests envelope.executionRequests⟩ } }
  | .v5 => do
    let envelope ← payload.tryIntoV5 self.encode2718
    return { payload := .v3 envelope.executionPayload
             sidecar := { cancun, prague := some ⟨.requests envelope.executionRequests⟩ } }
  | .v6 => do
    let envelope ← payload.tryIntoV6 self.encode2718
    return { payload := .v4 envelope.executionPayload
             sidecar := { cancun, prague := some ⟨.requests envelope.executionRequests⟩ } }

/-- The block of a payload comes back as it was: with its header, its hash and its body. -/
def RoundTrips (version : EnvelopeVersion) (payload : EvBuiltPayload Payload) : Prop :=
  ∃ data b, self.resubmitted blobVersionedHashes version payload = .ok data ∧
    self.ensureWellFormedPayload data = .ok b ∧ b.block = payload.block

/-! ## What comes back -/

/-- What is sent back of a block without requests. -/
def dataOf (version : EnvelopeVersion) (block : SealedBlock Payload) : ExecutionData :=
  let payload := ExecutionPayloadV3.fromBlockUnchecked self.encode2718 block
  { payload :=
      match version with
      | .v3 | .v4 | .v5 => .v3 payload
      | .v6 => .v4
        { payloadInner := payload
          blockAccessList :=
            wordBytes (block.header.blockAccessListHash.getD emptyBlockAccessListHash)
          slotNumber := block.header.slotNumber.getD 0 }
    sidecar :=
      { cancun := some (cancunFieldsOf blobVersionedHashes block)
        prague := if version.hasRequests then some ⟨.requests []⟩ else none } }

/-- What the node writes into every block that it builds under the rules of Cancun, given the
requests of its execution. -/
structure IsBuilt (validator : EvolveEngineValidator Payload) (requests : List Bytes)
    (block : SealedBlock Payload) : Prop where
  hash : block.hash = validator.evmConfig.hashSlow block.header
  ommersHash : block.header.ommersHash = emptyOmmerRootHash
  transactionsRoot :
    block.header.transactionsRoot = validator.calculateTransactionRoot block.transactions
  difficulty : block.header.difficulty = 0
  nonce : block.header.nonce = 0
  extraData : block.header.extraData.length ≤ maximumExtraDataSize
  baseFeePerGas : block.header.baseFeePerGas.isSome
  blobGasUsed : block.header.blobGasUsed.isSome
  parentBeaconBlockRoot : block.header.parentBeaconBlockRoot = some 0
  withdrawals : block.withdrawals = some []
  withdrawalsRoot :
    block.header.withdrawalsRoot = some (validator.calculateWithdrawalsRoot [])
  requestsHash : block.header.requestsHash =
    if validator.evmConfig.chainSpec.isPragueActiveAtTimestamp block.header.timestamp then
      some (validator.requestsHash requests)
    else none

variable {self blobVersionedHashes} {version : EnvelopeVersion} {block : SealedBlock Payload}
  {requests : List Bytes}

/-- A payload that was just built is handed out as its block says. -/
theorem resubmitted_new (id : U64) (fees : U256) :
    self.resubmitted blobVersionedHashes version (.new id block fees none) =
      .ok (self.dataOf blobVersionedHashes version block) := by
  cases version <;> rfl

/-- What is handed out states the block. -/
theorem asV1_dataOf : (self.dataOf blobVersionedHashes version block).payload.asV1 =
    .fromBlockUnchecked self.encode2718 block := by
  cases version <;> rfl

theorem withdrawals_dataOf (h : self.IsBuilt requests block) :
    (self.dataOf blobVersionedHashes version block).payload.withdrawals = some [] := by
  have hget : block.withdrawals.getD [] = [] := by rw [h.withdrawals]; rfl
  cases version <;> exact congrArg some hget

/-- The header that comes back differs from the built one at most in the requests, the block access
list, the slot number and the excess blob gas. -/
theorem headerOf_dataOf (h : self.IsBuilt requests block) :
    self.headerOf (self.dataOf blobVersionedHashes version block)
        (self.calculateTransactionRoot block.transactions) =
      { block.header with
        excessBlobGas := some (block.header.excessBlobGas.getD 0)
        requestsHash := if version.hasRequests then some (self.requestsHash []) else none
        blockAccessListHash := (self.dataOf blobVersionedHashes version block).payload.balHash
          self.evmConfig.crypto.keccak256
        slotNumber := (self.dataOf blobVersionedHashes version block).payload.slotNumber } := by
  obtain ⟨baseFee, hbaseFee⟩ := Option.isSome_iff_exists.mp h.baseFeePerGas
  obtain ⟨blobGasUsed, hblobGasUsed⟩ := Option.isSome_iff_exists.mp h.blobGasUsed
  have hfee : (self.dataOf blobVersionedHashes version block).payload.saturatedBaseFeePerGas =
      baseFee := by
    rw [EnginePayload.saturatedBaseFeePerGas, asV1_dataOf]
    simp only [ExecutionPayloadV1.fromBlockUnchecked, hbaseFee, Option.getD_some]
    exact saturatingToU64_setWidth baseFee
  have hused : (self.dataOf blobVersionedHashes version block).payload.blobGasUsed =
      some blobGasUsed := by
    have hget : block.header.blobGasUsed.getD 0 = blobGasUsed := by rw [hblobGasUsed]; rfl
    cases version <;> exact congrArg some hget
  simp only [headerOf, asV1_dataOf, hfee, withdrawals_dataOf h, hused,
    ExecutionPayloadV1.fromBlockUnchecked, h.ommersHash, h.transactionsRoot, h.difficulty, h.nonce,
    hbaseFee, hblobGasUsed, h.parentBeaconBlockRoot, h.withdrawalsRoot]
  cases version <;> rfl

variable (self) in
/-- What a block must be like to survive the round trip in a version. Its excess blob gas is there.
Its requests hash like none, in the versions that have requests. Before version `6` it has no slot
number and no block access list; in version `6` it has both, and the hash of its list is the hash of
its own bytes. -/
def Survives (version : EnvelopeVersion) (header : Header) (requests : List Bytes) : Prop :=
  header.excessBlobGas.isSome ∧
    (version.hasRequests → self.requestsHash requests = self.requestsHash []) ∧
    match version with
    | .v3 | .v4 | .v5 => header.blockAccessListHash = none ∧ header.slotNumber = none
    | .v6 =>
      (∃ hash, header.blockAccessListHash = some hash ∧
        self.evmConfig.crypto.keccak256 (wordBytes hash) = hash) ∧
      header.slotNumber.isSome

theorem some_getD_eq_iff {α : Type} {x : Option α} {a : α} : some (x.getD a) = x ↔ x.isSome := by
  cases x <;> simp

/-- The header that comes back is the built one exactly if the block is fit to survive. -/
theorem headerOf_dataOf_eq_iff (h : self.IsBuilt requests block)
    (hversion : version.hasRequests =
      self.evmConfig.chainSpec.isPragueActiveAtTimestamp block.header.timestamp) :
    self.headerOf (self.dataOf blobVersionedHashes version block)
        (self.calculateTransactionRoot block.transactions) = block.header ↔
      self.Survives version block.header requests := by
  -- four fields are compared
  have hfour (header : Header) (excess : Option U64) (requestsHash listHash : Option B256)
      (slot : Option U64) :
      { header with
        excessBlobGas := excess
        requestsHash := requestsHash
        blockAccessListHash := listHash
        slotNumber := slot } = header ↔
        excess = header.excessBlobGas ∧ requestsHash = header.requestsHash ∧
          listHash = header.blockAccessListHash ∧ slot = header.slotNumber := by
    cases header
    simp only [Header.mk.injEq, true_and]
  have hrequests : (if version.hasRequests then some (self.requestsHash []) else none) =
      block.header.requestsHash ↔
      (version.hasRequests → self.requestsHash requests = self.requestsHash []) := by
    rw [h.requestsHash, ← hversion]
    cases version.hasRequests with
    | false => simp
    | true => simpa using eq_comm
  rw [headerOf_dataOf h, hfour, some_getD_eq_iff, hrequests]
  refine and_congr_right fun _ => and_congr_right fun _ => ?_
  -- nothing is sent back before version `6`, and a hash of a hash from then on
  have hlist : some (self.evmConfig.crypto.keccak256 (wordBytes
      (block.header.blockAccessListHash.getD emptyBlockAccessListHash))) =
        block.header.blockAccessListHash ↔
      ∃ hash, block.header.blockAccessListHash = some hash ∧
        self.evmConfig.crypto.keccak256 (wordBytes hash) = hash := by
    cases block.header.blockAccessListHash with
    | none => simp
    | some hash => simp
  cases version with
  | v3 | v4 | v5 => exact and_congr eq_comm eq_comm
  | v6 => exact and_congr hlist some_getD_eq_iff

/-! ## Blocks of the node itself -/

/-- What reth's assembler makes of its input under the rules of Cancun. -/
structure AssemblesCancunBlock (validator : EvolveEngineValidator Payload)
    (input : AssemblerInput Payload) : Prop where
  ommersHash : (validator.evmConfig.assembleRest input).ommersHash = emptyOmmerRootHash
  transactionsRoot : (validator.evmConfig.assembleRest input).transactionsRoot =
    validator.calculateTransactionRoot input.transactions
  nonce : (validator.evmConfig.assembleRest input).nonce = 0
  extraData :
    (validator.evmConfig.assembleRest input).extraData.length ≤ maximumExtraDataSize
  blobGasUsed : (validator.evmConfig.assembleRest input).blobGasUsed.isSome
  parentBeaconBlockRoot : (validator.evmConfig.assembleRest input).parentBeaconBlockRoot =
    input.ctx.parentBeaconBlockRoot
  withdrawals : validator.evmConfig.assembleWithdrawals input =
    some (input.ctx.withdrawals.getD [])
  withdrawalsRoot : (validator.evmConfig.assembleRest input).withdrawalsRoot =
    some (validator.calculateWithdrawalsRoot (input.ctx.withdrawals.getD []))
  requestsHash : (validator.evmConfig.assembleRest input).requestsHash =
    if validator.evmConfig.chainSpec.isPragueActiveAtTimestamp
        (saturatingToU64 input.env.blockEnv.timestamp) then
      some (validator.requestsHash input.result.requests)
    else none

/-- What the assembler makes in the environment and the context of the next block is as the node
writes it. -/
theorem isBuilt_of_assembledFrom {parent : Header} {nextAttributes : NextBlockEnvAttributes}
    {parentHash : B256} {input : AssemblerInput Payload} {outcome : BlockBuilderOutcome Payload}
    (hassembled : EvolvePayloadBuilder.AssembledFrom self.evmConfig parent nextAttributes input
      outcome)
    (henv : input.env = self.evmConfig.chainSpec.nextEvmEnv parent nextAttributes)
    (hctx : input.ctx = EvolvePayloadBuilder.contextForNextBlock parentHash nextAttributes)
    (hroot : nextAttributes.parentBeaconBlockRoot = some 0)
    (hwithdrawals : nextAttributes.withdrawals = some [])
    (h : self.AssemblesCancunBlock input) :
    self.IsBuilt outcome.executionResult.requests outcome.block := by
  have hempty : input.ctx.withdrawals.getD [] = [] := by
    rw [hctx, EvolvePayloadBuilder.contextForNextBlock, hwithdrawals]
    rfl
  -- the attributes name no withdrawals, so that the block has an empty list of them
  have hwithdrawals' := h.withdrawals
  have hwithdrawalsRoot := h.withdrawalsRoot
  rw [hempty] at hwithdrawals' hwithdrawalsRoot
  refine
    { hash := hassembled.hash
      ommersHash := ?_
      transactionsRoot := ?_
      difficulty := ?_
      nonce := ?_
      extraData := ?_
      baseFeePerGas := ?_
      blobGasUsed := ?_
      parentBeaconBlockRoot := ?_
      withdrawals := hassembled.withdrawals.trans hwithdrawals'
      withdrawalsRoot := ?_
      requestsHash := ?_ }
  all_goals rw [hassembled.header]
  · exact h.ommersHash
  · rw [hassembled.transactions]
    exact h.transactionsRoot
  · rw [henv]
    rfl
  · exact h.nonce
  · exact h.extraData
  · rfl
  · exact h.blobGasUsed
  · refine h.parentBeaconBlockRoot.trans ?_
    rw [hctx]
    exact hroot
  · exact hwithdrawalsRoot
  · rw [hassembled.result]
    exact h.requestsHash

variable (self blobVersionedHashes) in
/-- reth's checks accept a block under the rules of Cancun that has its withdrawals, its blob fields
and its beacon root, with the versioned hashes of its transactions, and with requests exactly under
the rules of Prague. -/
def AcceptsFields : Prop :=
  ∀ block sidecar,
    self.evmConfig.chainSpec.isCancunActiveAtTimestamp block.header.timestamp = true →
    block.withdrawals.isSome → block.header.blobGasUsed.isSome →
    block.header.excessBlobGas.isSome → block.header.parentBeaconBlockRoot.isSome →
    sidecar.cancun.map (·.versionedHashes) =
      some (block.transactions.flatMap blobVersionedHashes) →
    sidecar.prague.isSome =
      self.evmConfig.chainSpec.isPragueActiveAtTimestamp block.header.timestamp →
    self.ensureWellFormedFields block sidecar = .ok ()

/-- A transaction is read back from its encoding. -/
theorem decode2718_encode2718 (hcodec : self.StandardCodec)
    (hwrites : ∀ tx, self.evmConfig.eth.decode2718 (self.encodeEthereum tx) = .ok tx [])
    {tx : EvTxEnvelope Payload} (hsize : (self.encode2718 tx).length < 2 ^ 64) :
    self.decode2718 (self.encode2718 tx) = .ok tx [] := by
  cases tx with
  | ethereum tx => exact EvTxEnvelope.decode2718_of_standard hcodec.rejectsEvNode (hwrites tx)
  | evNode tx signature =>
    have hread := tx.eip2718Decode_encode signature hsize []
    rw [List.append_nil] at hread
    exact EvTxEnvelope.decode2718_of_evNode hread

/-- A block as the node builds it comes back as it was, exactly if it is fit to survive. -/
theorem roundTrips_new_iff (hcodec : self.StandardCodec)
    (hwrites : ∀ tx, self.evmConfig.eth.decode2718 (self.encodeEthereum tx) = .ok tx [])
    (haccepts : self.AcceptsFields blobVersionedHashes) (h : self.IsBuilt requests block)
    (hcancun :
      self.evmConfig.chainSpec.isCancunActiveAtTimestamp block.header.timestamp = true)
    (hversion : version.hasRequests =
      self.evmConfig.chainSpec.isPragueActiveAtTimestamp block.header.timestamp)
    (hsize : ∀ tx ∈ block.transactions, (self.encode2718 tx).length < 2 ^ 64)
    (hsigner : ∀ tx ∈ block.transactions, (self.signer tx).isSome) (id : U64) (fees : U256) :
    self.RoundTrips blobVersionedHashes version (.new id block fees none) ↔
      self.Survives version block.header requests := by
  have hraw : block.transactions.map self.encode2718 =
      (self.dataOf blobVersionedHashes version block).payload.transactions := by
    rw [EnginePayload.transactions, asV1_dataOf]
    rfl
  have hread : List.Forall₂ (fun bytes tx => self.decode2718 bytes = .ok tx [])
      (self.dataOf blobVersionedHashes version block).payload.transactions
      block.transactions := by
    rw [← hraw, List.forall₂_map_left_iff, List.forall₂_same]
    exact fun tx hmem => decode2718_encode2718 hcodec hwrites (hsize tx hmem)
  obtain ⟨senders, hsenders⟩ := List.exists_forall₂_iff.mpr fun tx hmem =>
    Option.isSome_iff_exists.mp (hsigner tx hmem)
  have hcheck : checkHeader (self.dataOf blobVersionedHashes version block) = .ok () := by
    unfold checkHeader
    simp only [asV1_dataOf, ExecutionPayloadV1.fromBlockUnchecked]
    have hfee : ((block.header.baseFeePerGas.getD 0).setWidth 256 : U256).toNat < 2 ^ 64 := by
      rw [BitVec.toNat_setWidth_of_le (by omega)]
      exact (block.header.baseFeePerGas.getD 0).isLt
    rw [if_neg (not_lt.mpr h.extraData), if_neg (not_le.mpr hfee)]
  have hfields : self.ensureWellFormedFields
      (self.sealSlow (self.dataOf blobVersionedHashes version block)
        (self.calculateTransactionRoot block.transactions) block.transactions)
      (self.dataOf blobVersionedHashes version block).sidecar = .ok () := by
    cases version <;> exact haccepts _ _ hcancun rfl rfl rfl rfl rfl hversion
  -- the payload is read as the block it was made of; what may differ is the header
  have hensure := ensureWellFormedPayload_of_written hcodec hcheck hread hraw hsenders hfields
  rw [← headerOf_dataOf_eq_iff h hversion]
  constructor
  · rintro ⟨data, b, hdata, hb, hblock⟩
    obtain rfl := Except.ok.inj (resubmitted_new id fees ▸ hdata)
    obtain rfl := Except.ok.inj (hensure.symm.trans hb)
    exact congrArg SealedBlock.header hblock
  · intro hheader
    refine ⟨_, _, resubmitted_new id fees, hensure, ?_⟩
    simp only [sealSlow, hheader, withdrawals_dataOf h, ← h.hash, ← h.withdrawals]
    rfl

/-- A payload that the node has built under the rules of Cancun or later comes back as it was, in
the version of its fork, exactly if it is fit to survive: `try_build` drops the requests, and no
version carries what makes up the hash of a block access list. -/
theorem roundTrips_iff {service : EvolveEnginePayloadBuilder Payload} {client : Client}
    {config : PayloadConfig} {payload : EvBuiltPayload Payload} {gasLimit gasLimit' : U64}
    {outcome : BlockBuilderOutcome Payload}
    (hconfig : self.evmConfig = service.evolveBuilder.evmConfig) (hcodec : self.StandardCodec)
    (hwrites : ∀ tx, self.evmConfig.eth.decode2718 (self.encodeEthereum tx) = .ok tx [])
    (hassembles : ∀ input,
      self.evmConfig.chainSpec.isCancunActiveAtTimestamp
        (saturatingToU64 input.env.blockEnv.timestamp) = true → self.AssemblesCancunBlock input)
    (haccepts : self.AcceptsFields blobVersionedHashes)
    (hbuilt : service.tryBuild client config gasLimit = .ok payload gasLimit')
    (houtcome : service.evolveBuilder.buildOutcome client (service.builderAttributes config) =
      .ok outcome)
    (hcancun : self.evmConfig.chainSpec.isCancunActiveAtTimestamp
      config.attributes.inner.timestamp = true)
    (hversion : version.hasRequests =
      self.evmConfig.chainSpec.isPragueActiveAtTimestamp config.attributes.inner.timestamp)
    (hsize : ∀ tx ∈ payload.block.transactions, (self.encode2718 tx).length < 2 ^ 64) :
    self.RoundTrips blobVersionedHashes version payload ↔
      self.Survives version payload.block.header outcome.executionResult.requests := by
  obtain ⟨block, hblock, rfl, -⟩ := EvolveEnginePayloadBuilder.buildFrom_eq_ok_iff.mp hbuilt
  obtain ⟨outcome', houtcome', rfl⟩ := Except.map_eq_ok_iff.mp hblock
  obtain rfl := Except.ok.inj (houtcome'.symm.trans houtcome)
  obtain ⟨base, -, parent, -, hbuild⟩ := EvolvePayloadBuilder.buildOutcome_eq_ok_iff.mp houtcome
  obtain ⟨next, hnext, -⟩ := EvolvePayloadBuilder.buildOn_eq_ok_iff.mp hbuild
  obtain ⟨input, hassembled, henv, hctx⟩ :=
    EvolvePayloadBuilder.assembledFrom_of_buildOn hnext hbuild
  have hsigner := EvolvePayloadBuilder.signer_of_buildOn hbuild
  obtain rfl := Except.ok.inj hnext
  rw [← hconfig] at hassembled henv
  -- the block is built at the timestamp of the attributes
  have htimestamp : saturatingToU64 input.env.blockEnv.timestamp =
      config.attributes.inner.timestamp := by
    rw [henv]
    exact saturatingToU64_setWidth _
  have hheader : outcome'.block.header.timestamp = config.attributes.inner.timestamp := by
    rw [hassembled.header]
    exact htimestamp
  have hisBuilt := isBuilt_of_assembledFrom hassembled henv hctx rfl rfl
    (hassembles input (htimestamp ▸ hcancun))
  refine roundTrips_new_iff hcodec hwrites haccepts hisBuilt (hheader ▸ hcancun)
    (hheader ▸ hversion) hsize ?_ _ _
  intro tx hmem
  have := hsigner tx hmem
  rw [EvolvePayloadBuilder.signer, ← hconfig] at this
  exact this

/-! ## A payment and a withdrawal request -/

section Payment

open EvolvePayloadBuilder (paymentBuilder paymentClient withoutSystemContracts)
open EvolveEnginePayloadBuilder (paymentService paymentConfig rawPayment)

/-- A withdrawal request of EIP-7002. -/
def withdrawalRequest : Bytes := 0x01 :: List.replicate 76 0

/-- `requests_hash`, of no request and of the withdrawal request. -/
def pragueRequestsHash (requests : List Bytes) : B256 :=
  if requests = [withdrawalRequest] then
    0xfab2f777d6e196f334fb27495aa31c6fe5a2158af402f065ff5406eceb604aef
  else 0xe3b0c44298fc1c149afbf4c8996fb92427ae41e4649b934ca495991b7852b855

/-- The node of `paymentBuilder` under the rules of Prague. The execution of a block ends with the
given requests. -/
def pragueConfig (requests : List Bytes) : EvEvmConfig fun _ => Empty :=
  { paymentBuilder.evmConfig with
    chainSpec :=
      { paymentBuilder.evmConfig.chainSpec with
        specByTimestampAndBlockNumber := fun _ _ => .prague
        isPragueActiveAtTimestamp := fun _ => true }
    systemCalls :=
      { withoutSystemContracts with
        appendPostExecutionChanges := fun _ db => .ok (requests, db) }
    assembleRest := fun input =>
      { ommersHash := emptyOmmerRootHash
        transactionsRoot := paymentValidator.calculateTransactionRoot input.transactions
        logsBloom := List.replicate 256 0
        gasUsed := input.result.gasUsed
        withdrawalsRoot := some (paymentValidator.calculateWithdrawalsRoot
          (input.ctx.withdrawals.getD []))
        blobGasUsed := some input.result.blobGasUsed
        parentBeaconBlockRoot := input.ctx.parentBeaconBlockRoot
        requestsHash := some (pragueRequestsHash input.result.requests) }
    assembleWithdrawals := fun input => some (input.ctx.withdrawals.getD [])
    hashSlow := fun header =>
      if header.requestsHash = some (pragueRequestsHash []) then
        0xb5ae6c86156b48973a09b06089b4b8cd0169e5bd2a8d313eada49453a0ba5d0a
      else 0xa3a2469ab2c7544039b79a83a0b37154672c149a8839be794291ee8ba86fe592 }

/-- The service of `pragueConfig`. -/
def pragueService (requests : List Bytes) : EvolveEnginePayloadBuilder fun _ => Empty :=
  { paymentService with
    evolveBuilder := { paymentBuilder with evmConfig := pragueConfig requests } }

/-- The validator of `pragueConfig`. -/
def pragueValidator (requests : List Bytes) : EvolveEngineValidator fun _ => Empty :=
  { paymentValidator with
    evmConfig := pragueConfig requests
    requestsHash := pragueRequestsHash
    ensureWellFormedFields := ensureFieldsWithoutBlobs true }

/-- What `pragueService` builds of a payment. -/
def buildPayment (requests : List Bytes) :
    EStateM.Result BuildFailure U64 (EvBuiltPayload fun _ => Empty) :=
  (pragueService requests).tryBuild paymentClient
    (paymentConfig [rawPayment EvTxEnvelope.unitSignature]) 0

/-- The requests hash of the block with a payment, and that of the block that comes back of it. -/
def requestsHashes (version : EnvelopeVersion) (requests : List Bytes) :
    Option (Option B256 × Option B256) :=
  match buildPayment requests with
  | .error _ _ => none
  | .ok payload _ =>
    match (pragueValidator requests).resubmitted (fun _ => []) version payload with
    | .error _ => none
    | .ok data =>
      match (pragueValidator requests).ensureWellFormedPayload data with
      | .error _ => none
      | .ok b => some (payload.block.header.requestsHash, b.block.header.requestsHash)

theorem standardCodec_pragueValidator (requests : List Bytes) :
    (pragueValidator requests).StandardCodec where
  rejectsEvNode bytes := ⟨_, bytes, rfl, rfl⟩
  canonical _ tx _ _ := tx.tx.elim

/-- The assembler of the example assembles blocks of Cancun. -/
theorem assemblesCancunBlock_pragueValidator (requests : List Bytes)
    (input : AssemblerInput fun _ => Empty) :
    (pragueValidator requests).AssemblesCancunBlock input where
  ommersHash := rfl
  transactionsRoot := rfl
  nonce := rfl
  extraData := Nat.zero_le _
  blobGasUsed := rfl
  parentBeaconBlockRoot := rfl
  withdrawals := rfl
  withdrawalsRoot := rfl
  requestsHash := rfl

/-- The validator of the example accepts the fields of every fork. -/
theorem acceptsFields_pragueValidator (requests : List Bytes) :
    (pragueValidator requests).AcceptsFields fun _ => [] := by
  intro block sidecar _ hwithdrawals hused hexcess hroot hhashes hprague
  have hnone : block.transactions.flatMap (fun _ => ([] : List B256)) = [] := by simp
  rw [hnone] at hhashes
  have hpresent : sidecar.prague.isSome = true := hprague
  show ensureFieldsWithoutBlobs true block sidecar = .ok ()
  unfold ensureFieldsWithoutBlobs
  rw [if_neg (Option.isSome_iff_ne_none.mp hwithdrawals), if_neg, hhashes, hpresent]
  · rfl
  · rintro (h | h | h)
    · exact Option.isSome_iff_ne_none.mp hused h
    · exact Option.isSome_iff_ne_none.mp hexcess h
    · exact Option.isSome_iff_ne_none.mp hroot h

/-- A payment comes back as it was, in version `4`, if the execution of its block made no
requests. -/
theorem roundTrips_payment :
    ∃ payload gasLimit', buildPayment [] = .ok payload gasLimit' ∧
      payload.block.transactions.length = 1 ∧
      (pragueValidator []).RoundTrips (fun _ => []) .v4 payload := by
  have hfacts : ((pragueService []).evolveBuilder.buildOutcome paymentClient
      ((pragueService []).builderAttributes
        (paymentConfig [rawPayment EvTxEnvelope.unitSignature]))).toOption.map (fun outcome =>
        decide (outcome.block.transactions.length = 1 ∧
          (∀ tx ∈ outcome.block.transactions,
            ((pragueValidator []).encode2718 tx).length < 2 ^ 64) ∧
          outcome.executionResult.requests = [] ∧
          outcome.block.header.excessBlobGas.isSome = true ∧
          outcome.block.header.blockAccessListHash = none ∧
          outcome.block.header.slotNumber = none)) = some true := by
    decide +kernel
  -- from here on the outcome is a name: only the facts about it are evaluated
  cases houtcome : (pragueService []).evolveBuilder.buildOutcome paymentClient
      ((pragueService []).builderAttributes
        (paymentConfig [rawPayment EvTxEnvelope.unitSignature])) with
  | error e =>
    rw [houtcome] at hfacts
    cases hfacts
  | ok outcome =>
    rw [houtcome] at hfacts
    obtain ⟨hlength, hsize, hrequests, hexcess, hlist, hslot⟩ :=
      of_decide_eq_true (Option.some.inj hfacts)
    have hbuilt : buildPayment [] = .ok (.new 1 outcome.block
        (outcome.block.header.gasUsed.setWidth 256) none) 30000000 :=
      EvolveEnginePayloadBuilder.buildFrom_eq_ok_iff.mpr
        ⟨outcome.block, Except.map_eq_ok_iff.mpr ⟨outcome, houtcome, rfl⟩, rfl, rfl⟩
    refine ⟨_, _, hbuilt, hlength, ?_⟩
    refine (roundTrips_iff rfl (standardCodec_pragueValidator []) (fun tx => tx.tx.elim)
      (fun input _ => assemblesCancunBlock_pragueValidator [] input)
      (acceptsFields_pragueValidator []) hbuilt houtcome rfl rfl hsize).mpr ?_
    exact ⟨hexcess, fun _ => by rw [hrequests], hlist, hslot⟩

section RequestsHashes

variable {version : EnvelopeVersion} {requests : List Bytes} {gasLimit' : U64}

/-- Without a payload there are no hashes to compare. -/
theorem requestsHashes_of_error {e : BuildFailure}
    (hbuilt : buildPayment requests = .error e gasLimit') :
    requestsHashes version requests = none := by
  unfold requestsHashes
  rw [hbuilt]

/-- A block that comes back as it was has its requests hash. -/
theorem requestsHashes_of_roundTrips {payload : EvBuiltPayload fun _ => Empty}
    (hbuilt : buildPayment requests = .ok payload gasLimit')
    (h : (pragueValidator requests).RoundTrips (fun _ => []) version payload) :
    requestsHashes version requests =
      some (payload.block.header.requestsHash, payload.block.header.requestsHash) := by
  obtain ⟨data, b, hdata, hb, hblock⟩ := h
  unfold requestsHashes
  rw [hbuilt]
  simp only
  rw [hdata]
  simp only
  rw [hb]
  simp only [hblock]

end RequestsHashes

/-- With a withdrawal request, a block comes back in version `4` whose requests are none. -/
theorem loses_requests :
    requestsHashes .v4 [withdrawalRequest] =
        some (some (pragueRequestsHash [withdrawalRequest]), some (pragueRequestsHash [])) ∧
      ∃ payload gasLimit', buildPayment [withdrawalRequest] = .ok payload gasLimit' ∧
        ¬ (pragueValidator [withdrawalRequest]).RoundTrips (fun _ => []) .v4 payload := by
  have hhashes : requestsHashes .v4 [withdrawalRequest] =
      some (some (pragueRequestsHash [withdrawalRequest]), some (pragueRequestsHash [])) := by
    decide +kernel
  have hne : pragueRequestsHash [withdrawalRequest] ≠ pragueRequestsHash [] := by decide +kernel
  refine ⟨hhashes, ?_⟩
  cases hbuilt : buildPayment [withdrawalRequest] with
  | error e gasLimit' => cases (requestsHashes_of_error hbuilt).symm.trans hhashes
  | ok payload gasLimit' =>
    refine ⟨payload, gasLimit', rfl, fun h => ?_⟩
    have hsame := (requestsHashes_of_roundTrips hbuilt h).symm.trans hhashes
    obtain ⟨hsent, hreturned⟩ := Prod.mk.inj (Option.some.inj hsame)
    exact hne (Option.some.inj (hsent.symm.trans hreturned))

end Payment

end EvolveEngineValidator

end EvReth
