import EvReth.Revm.Evm

/-!
# The environment of a block

`EvEvmConfig` (`crates/node/src/executor.rs`) derives the environment in which the transactions of a
block run from three different inputs: from the parent and the attributes when the block is built
(`next_evm_env`), from the header when it is executed again (`evm_env`), and from the Engine API
payload when it is received (`evm_env_for_payload`).

The header of a built block is put together by reth's block assembler. `assembleHeader` states what
it takes from the environment, the parent and the attributes; roots, gas and the like are parameters
of the header that no environment depends on.
-/

namespace EvReth

/-- `NextBlockEnvAttributes`. -/
structure NextBlockEnvAttributes where
  timestamp : U64
  suggestedFeeRecipient : Address
  prevRandao : B256
  gasLimit : U64
  parentBeaconBlockRoot : Option B256
  withdrawals : Option (List Withdrawal)
  extraData : Bytes
  slotNumber : Option U64
  deriving DecidableEq, Repr

/-- The fields of an Engine API payload that make its environment. -/
structure ExecutionPayload where
  timestamp : U64
  blockNumber : U64
  feeRecipient : Address
  prevRandao : B256
  gasLimit : U64
  baseFeePerGas : U256
  excessBlobGas : Option U64
  slotNumber : Option U64
  deriving DecidableEq, Repr

/-- `saturated_base_fee_per_gas`. -/
def ExecutionPayload.saturatedBaseFeePerGas (self : ExecutionPayload) : U64 :=
  saturatingToU64 self.baseFeePerGas

/-- `MAX_TX_GAS_LIMIT_OSAKA`. -/
def maxTxGasLimitOsaka : U64 := 16777216

/-- `INITIAL_BASE_FEE` of EIP-1559. -/
def initialBaseFee : U64 := 1000000000

namespace ChainSpec

variable (self : ChainSpec)

/-- The configuration that all three functions make for a spec and a timestamp. -/
def cfgEnvAt (spec : SpecId) (timestamp : U64) : CfgEnv :=
  { chainId := self.chainId
    spec
    maxBlobsPerTx := (self.blobParamsAtTimestamp timestamp).map (·.maxBlobsPerTx)
    txGasLimitCap :=
      if self.isOsakaActiveAtTimestamp timestamp then some maxTxGasLimitOsaka else none }

/-- The blob gas and its price for an excess, if there is one and blobs have parameters. -/
def blobExcessGasAndPriceAt (excessBlobGas : Option U64) (timestamp : U64) :
    Option BlobExcessGasAndPrice :=
  match excessBlobGas, self.blobParamsAtTimestamp timestamp with
  | some excessBlobGas, some params =>
    some { excessBlobGas, blobGasprice := params.calcBlobFee excessBlobGas }
  | _, _ => none

/-- `evm_env`. -/
def evmEnv (header : Header) : EvmEnv :=
  let spec := self.revmSpec header
  { cfgEnv := self.cfgEnvAt spec header.timestamp
    blockEnv :=
      { number := header.number.setWidth 256
        beneficiary := header.beneficiary
        timestamp := header.timestamp.setWidth 256
        difficulty := if spec.isEnabledIn .merge then 0 else header.difficulty
        prevrandao := if spec.isEnabledIn .merge then some header.mixHash else none
        gasLimit := header.gasLimit
        basefee := header.baseFeePerGas.getD 0
        blobExcessGasAndPrice := self.blobExcessGasAndPriceAt header.excessBlobGas header.timestamp
        -- the header's slot number is not read
        slotNum := 0 } }

/-- `next_evm_env`. -/
def nextEvmEnv (parent : Header) (attributes : NextBlockEnvAttributes) : EvmEnv :=
  let spec := self.specByTimestampAndBlockNumber attributes.timestamp (parent.number + 1)
  -- at the London boundary the gas limit is scaled and the base fee starts
  let atLondon := self.londonTransitionsAtBlock (parent.number + 1)
  let basefee := if atLondon then some initialBaseFee
    else self.nextBlockBaseFee parent attributes.timestamp
  let gasLimit := if atLondon then
      attributes.gasLimit * (self.elasticityMultiplierAtTimestamp attributes.timestamp).setWidth 64
    else attributes.gasLimit
  { cfgEnv := self.cfgEnvAt spec attributes.timestamp
    blockEnv :=
      { number := (parent.number + 1).setWidth 256
        beneficiary := attributes.suggestedFeeRecipient
        timestamp := attributes.timestamp.setWidth 256
        difficulty := 0
        prevrandao := some attributes.prevRandao
        gasLimit
        basefee := basefee.getD 0
        -- the parent's own excess, not the one of the block to be built
        blobExcessGasAndPrice :=
          self.blobExcessGasAndPriceAt parent.excessBlobGas attributes.timestamp
        slotNum := attributes.slotNumber.getD 0 } }

/-- `evm_env_for_payload`. -/
def evmEnvForPayload (payload : ExecutionPayload) : EvmEnv :=
  let spec := self.specByTimestampAndBlockNumber payload.timestamp payload.blockNumber
  { cfgEnv := self.cfgEnvAt spec payload.timestamp
    blockEnv :=
      { number := payload.blockNumber.setWidth 256
        beneficiary := payload.feeRecipient
        timestamp := payload.timestamp.setWidth 256
        difficulty := if spec.isEnabledIn .merge then 0 else payload.prevRandao
        prevrandao := if spec.isEnabledIn .merge then some payload.prevRandao else none
        gasLimit := payload.gasLimit
        basefee := payload.saturatedBaseFeePerGas
        blobExcessGasAndPrice :=
          self.blobExcessGasAndPriceAt payload.excessBlobGas payload.timestamp
        slotNum := payload.slotNumber.getD 0 } }

/-! ## The header of a built block -/

/-- The excess blob gas that the assembler writes: none before Cancun, zero in the first Cancun
block, and the next value of EIP-4844 from then on. -/
def assembledExcessBlobGas (parent : Header) (timestamp : U64) : Option U64 :=
  if self.isCancunActiveAtTimestamp timestamp then
    if self.isCancunActiveAtTimestamp parent.timestamp then
      match self.blobParamsAtTimestamp timestamp, parent.excessBlobGas, parent.blobGasUsed with
      | some params, some excess, some used => some (params.nextBlockExcessBlobGas excess used)
      | _, _, _ => none
    else some 0
  else none

/-- The header of a block that was built in the environment `env`. Everything that no environment
depends on is taken from `rest`. -/
def assembleHeader (parent : Header) (attributes : NextBlockEnvAttributes) (env : EvmEnv)
    (rest : Header) : Header :=
  { rest with
    number := saturatingToU64 env.blockEnv.number
    timestamp := saturatingToU64 env.blockEnv.timestamp
    beneficiary := env.blockEnv.beneficiary
    difficulty := env.blockEnv.difficulty
    mixHash := env.blockEnv.prevrandao.getD 0
    gasLimit := env.blockEnv.gasLimit
    baseFeePerGas := some env.blockEnv.basefee
    excessBlobGas := self.assembledExcessBlobGas parent attributes.timestamp
    slotNumber := attributes.slotNumber }

end ChainSpec

/-- The payload of a block with the given header. -/
def ExecutionPayload.ofHeader (header : Header) : ExecutionPayload :=
  { timestamp := header.timestamp
    blockNumber := header.number
    feeRecipient := header.beneficiary
    prevRandao := header.mixHash
    gasLimit := header.gasLimit
    baseFeePerGas := (header.baseFeePerGas.getD 0).setWidth 256
    excessBlobGas := header.excessBlobGas
    slotNumber := header.slotNumber }

/-! ## When the environments agree -/

namespace ChainSpec

variable (self : ChainSpec) (parent : Header) (attributes : NextBlockEnvAttributes) (rest : Header)

/-- The block after `parent` has the parent's excess blob gas: blobs have no parameters, or the
parent was a Cancun block that used exactly the target, or at most the target without an excess. -/
def BlobGasSteady (timestamp : U64) : Prop :=
  match self.blobParamsAtTimestamp timestamp with
  | none => True
  | some params =>
    if self.isCancunActiveAtTimestamp timestamp then
      if self.isCancunActiveAtTimestamp parent.timestamp then
        match parent.excessBlobGas, parent.blobGasUsed with
        | none, _ => True
        | some _, none => False
        | some excess, some used =>
          (used = params.targetBlobGasPerBlock ∧ excess.toNat + used.toNat < 2 ^ 64) ∨
            (excess = 0 ∧ used.toNat ≤ params.targetBlobGasPerBlock.toNat)
      -- a parent from before Cancun has no excess to compare with zero
      else parent.excessBlobGas = some 0
    else parent.excessBlobGas = none

/-- The excess blob gas matters wherever there are blobs. -/
theorem blobExcessGasAndPriceAt_eq_iff {excess excess' : Option U64} {timestamp : U64} :
    self.blobExcessGasAndPriceAt excess timestamp = self.blobExcessGasAndPriceAt excess' timestamp ↔
      self.blobParamsAtTimestamp timestamp = none ∨ excess = excess' := by
  unfold blobExcessGasAndPriceAt
  cases self.blobParamsAtTimestamp timestamp with
  | none => cases excess <;> cases excess' <;> simp
  | some params =>
    -- the price is determined by the excess
    have hprice (a b : U64) : a = b ∧ params.calcBlobFee a = params.calcBlobFee b ↔ a = b :=
      and_iff_left_of_imp fun h => congrArg params.calcBlobFee h
    cases excess <;> cases excess' <;> simp [hprice]

/-- The excess that the builder works with is that of the built block exactly when it is steady. -/
theorem blobGasSteady_iff {timestamp : U64} :
    self.BlobGasSteady parent timestamp ↔
      self.blobParamsAtTimestamp timestamp = none ∨
        parent.excessBlobGas = self.assembledExcessBlobGas parent timestamp := by
  unfold BlobGasSteady assembledExcessBlobGas
  cases self.blobParamsAtTimestamp timestamp with
  | none => simp
  | some params =>
    simp only [reduceCtorEq, false_or]
    split_ifs
    · cases parent.excessBlobGas with
      | none => simp
      | some excess =>
        -- the next excess is the parent's exactly if the parent has used its target
        cases parent.blobGasUsed with
        | none => simp
        | some used =>
          simp only [Option.some.injEq]
          rw [← params.nextBlockExcessBlobGas_eq_iff]
          exact eq_comm
    · rfl
    · rfl

theorem number_assembleHeader :
    (self.assembleHeader parent attributes (self.nextEvmEnv parent attributes) rest).number =
      parent.number + 1 :=
  saturatingToU64_setWidth _

theorem timestamp_assembleHeader :
    (self.assembleHeader parent attributes (self.nextEvmEnv parent attributes) rest).timestamp =
      attributes.timestamp :=
  saturatingToU64_setWidth _

section Assembled

variable {self parent attributes}
  (hmerge : (self.specByTimestampAndBlockNumber attributes.timestamp
    (parent.number + 1)).isEnabledIn .merge = true)

include hmerge

/-- Executing a built block again differs from building it in the blob gas and the slot number
only. -/
theorem evmEnv_assembleHeader :
    self.evmEnv (self.assembleHeader parent attributes (self.nextEvmEnv parent attributes) rest) =
      { self.nextEvmEnv parent attributes with blockEnv :=
        { (self.nextEvmEnv parent attributes).blockEnv with
          blobExcessGasAndPrice := self.blobExcessGasAndPriceAt
            (self.assembledExcessBlobGas parent attributes.timestamp) attributes.timestamp
          slotNum := 0 } } := by
  simp only [evmEnv, revmSpec, number_assembleHeader, timestamp_assembleHeader, hmerge, if_true]
  rfl

/-- Executing the payload of a built block differs from building it in the blob gas only. -/
theorem evmEnvForPayload_assembleHeader :
    self.evmEnvForPayload (.ofHeader
        (self.assembleHeader parent attributes (self.nextEvmEnv parent attributes) rest)) =
      { self.nextEvmEnv parent attributes with blockEnv :=
        { (self.nextEvmEnv parent attributes).blockEnv with
          blobExcessGasAndPrice := self.blobExcessGasAndPriceAt
            (self.assembledExcessBlobGas parent attributes.timestamp) attributes.timestamp } } := by
  have hbasefee : (ExecutionPayload.ofHeader (self.assembleHeader parent attributes
      (self.nextEvmEnv parent attributes) rest)).saturatedBaseFeePerGas =
        (self.nextEvmEnv parent attributes).blockEnv.basefee := saturatingToU64_setWidth _
  simp only [evmEnvForPayload, hbasefee]
  simp only [ExecutionPayload.ofHeader, number_assembleHeader, timestamp_assembleHeader, hmerge,
    if_true]
  rfl

/-- The environment in which a block is built is that of its header and that of its payload exactly
when the slot number is zero or absent and the blob gas is steady. -/
theorem nextEvmEnv_eq_iff :
    (self.nextEvmEnv parent attributes =
        self.evmEnv (self.assembleHeader parent attributes (self.nextEvmEnv parent attributes)
          rest) ∧
      self.nextEvmEnv parent attributes =
        self.evmEnvForPayload (.ofHeader
          (self.assembleHeader parent attributes (self.nextEvmEnv parent attributes) rest))) ↔
      attributes.slotNumber.getD 0 = 0 ∧ self.BlobGasSteady parent attributes.timestamp := by
  rw [evmEnv_assembleHeader rest hmerge, evmEnvForPayload_assembleHeader rest hmerge,
    blobGasSteady_iff, ← blobExcessGasAndPriceAt_eq_iff]
  -- both sides compare the two fields in which the environments can differ
  have hblob : (self.nextEvmEnv parent attributes).blockEnv.blobExcessGasAndPrice =
      self.blobExcessGasAndPriceAt parent.excessBlobGas attributes.timestamp := rfl
  have hslot : (self.nextEvmEnv parent attributes).blockEnv.slotNum =
      attributes.slotNumber.getD 0 := rfl
  generalize self.nextEvmEnv parent attributes = env at *
  rw [← hblob, ← hslot]
  obtain ⟨cfgEnv, blockEnv⟩ := env
  obtain ⟨number, beneficiary, timestamp, difficulty, prevrandao, gasLimit, basefee, blob,
    slotNum⟩ := blockEnv
  simp only [EvmEnv.mk.injEq, FullBlockEnv.mk.injEq, true_and, and_true]
  tauto

end Assembled

/-- A chain with the rules and blob parameters of Cancun at all times. Blobs that are cheaper than
two wei are as cheap as they get. -/
def cancunFromGenesis : ChainSpec :=
  { chainId := 1234
    specByTimestampAndBlockNumber := fun _ _ => .cancun
    blobParamsAtTimestamp := fun _ =>
      some { targetBlobGasPerBlock := 393216, maxBlobsPerTx := 6, calcBlobFee := fun _ => 1 }
    isCancunActiveAtTimestamp := fun _ => true
    isPragueActiveAtTimestamp := fun _ => false
    isOsakaActiveAtTimestamp := fun _ => false
    nextBlockBaseFee := fun parent _ => parent.baseFeePerGas
    londonTransitionsAtBlock := fun _ => false
    daoTransitionsAtBlock := fun _ => false
    elasticityMultiplierAtTimestamp := fun _ => 2 }

/-- A block without an excess of blob gas. -/
def parentUsingBlobGas (used : U64) : Header :=
  { number := 10
    timestamp := 1710338135
    gasLimit := 30000000
    gasUsed := 15000000
    baseFeePerGas := some 7
    excessBlobGas := some 0
    blobGasUsed := some used }

/-- The attributes of a block one second later. -/
def attributesAtSlot (slotNumber : Option U64) : NextBlockEnvAttributes :=
  { timestamp := 1710338136
    suggestedFeeRecipient := 0xFE
    prevRandao := 0xAB
    gasLimit := 30000000
    parentBeaconBlockRoot := some 0
    withdrawals := some []
    extraData := []
    slotNumber }

/-- After a block with three blobs, the next one is built in the environment of its header. -/
theorem nextEvmEnv_eq_evmEnv_of_target :
    cancunFromGenesis.nextEvmEnv (parentUsingBlobGas 393216) (attributesAtSlot none) =
      cancunFromGenesis.evmEnv (cancunFromGenesis.assembleHeader (parentUsingBlobGas 393216)
        (attributesAtSlot none)
        (cancunFromGenesis.nextEvmEnv (parentUsingBlobGas 393216) (attributesAtSlot none)) {}) :=
  have hsteady : cancunFromGenesis.BlobGasSteady (parentUsingBlobGas 393216) 1710338136 :=
    .inl ⟨rfl, by decide⟩
  ((nextEvmEnv_eq_iff {} (by decide)).mpr ⟨rfl, hsteady⟩).1

/-- After a block with six blobs, and with a slot number, the next one is built in another
environment than that of its header. -/
theorem nextEvmEnv_ne_evmEnv :
    cancunFromGenesis.nextEvmEnv (parentUsingBlobGas 786432) (attributesAtSlot none) ≠
        cancunFromGenesis.evmEnv (cancunFromGenesis.assembleHeader (parentUsingBlobGas 786432)
          (attributesAtSlot none)
          (cancunFromGenesis.nextEvmEnv (parentUsingBlobGas 786432) (attributesAtSlot none)) {}) ∧
      cancunFromGenesis.nextEvmEnv (parentUsingBlobGas 0) (attributesAtSlot (some 5)) ≠
        cancunFromGenesis.evmEnv (cancunFromGenesis.assembleHeader (parentUsingBlobGas 0)
          (attributesAtSlot (some 5))
          (cancunFromGenesis.nextEvmEnv (parentUsingBlobGas 0) (attributesAtSlot (some 5)))
          {}) := by
  decide

end ChainSpec

end EvReth
