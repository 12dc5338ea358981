import EvReth.Node.PayloadService

/-!
# The consensus of the node

`EvolveConsensus` (`crates/evolve/src/consensus.rs`) checks a header against its parent with three
functions of reth and a timestamp rule of its own: blocks may share a timestamp. The node checks the
blocks that it has built itself as well. Neither the Engine API nor the payload builder hold the
attributes of a payload against these rules.
-/

namespace EvReth

/-- `SealedHeader`. -/
structure SealedHeader where
  header : Header
  hash : B256
  deriving DecidableEq, Repr

/-- `ConsensusError`, as far as a header is checked against its parent. -/
inductive ConsensusError where
  | parentHashMismatch (got expected : B256)
  | parentBlockNumberMismatch (parentBlockNumber blockNumber : U64)
  | timestampIsInPast (parentTimestamp timestamp : U64)
  | gasLimitInvalidIncrease (parentGasLimit childGasLimit : U64)
  | gasLimitInvalidDecrease (parentGasLimit childGasLimit : U64)
  | gasLimitInvalidMinimum (childGasLimit : U64)
  | baseFeeMissing
  | baseFeeDiff (got expected : U64)
  | blobGasUsedMissing
  | excessBlobGasMissing
  | excessBlobGasDiff (got expected parentExcessBlobGas parentBlobGasUsed : U64)
  deriving DecidableEq, Repr

/-- The functions of reth that check a header against its parent. -/
structure ParentChecks where
  validateAgainstParentHashNumber : Header → SealedHeader → Except ConsensusError Unit
  validateAgainstParentGasLimit :
    SealedHeader → SealedHeader → ChainSpec → Except ConsensusError Unit
  validateAgainstParentEip1559BaseFee : Header → Header → ChainSpec → Except ConsensusError Unit

/-- `EvolveConsensus`. -/
structure EvolveConsensus where
  chainSpec : ChainSpec
  checks : ParentChecks

/-- `validate_header_against_parent`. -/
def EvolveConsensus.validateHeaderAgainstParent (self : EvolveConsensus)
    (header parent : SealedHeader) : Except ConsensusError Unit := do
  self.checks.validateAgainstParentHashNumber header.header parent
  if header.header.timestamp.toNat < parent.header.timestamp.toNat then
    throw (.timestampIsInPast parent.header.timestamp header.header.timestamp)
  else
    self.checks.validateAgainstParentGasLimit header parent self.chainSpec
    self.checks.validateAgainstParentEip1559BaseFee header.header parent.header self.chainSpec

/-! ## Whole blocks -/

/-- The functions of `EthBeaconConsensus` that `EvolveConsensus` passes the rest of a block on to.
Their errors are texts here. -/
structure InnerConsensus (Payload : TxType → Type) where
  validateHeader : SealedHeader → Except String Unit
  validateBlockPreExecution : SealedBlock Payload → Except String Unit
  validateBlockPostExecution : SealedBlock Payload → BlockExecutionResult → Except String Unit

/-- `EvolveConsensus` as a `FullConsensus`. -/
structure FullConsensus (Payload : TxType → Type) extends EvolveConsensus where
  inner : InnerConsensus Payload

namespace FullConsensus

variable {Payload : TxType → Type} (self : FullConsensus Payload)

/-- `validate_header`. -/
def validateHeader (header : SealedHeader) : Except String Unit :=
  self.inner.validateHeader header

/-- `validate_block_pre_execution`. -/
def validateBlockPreExecution (block : SealedBlock Payload) : Except String Unit :=
  self.inner.validateBlockPreExecution block

/-- `validate_block_post_execution`. -/
def validateBlockPostExecution (block : SealedBlock Payload) (result : BlockExecutionResult) :
    Except String Unit :=
  self.inner.validateBlockPostExecution block result

end FullConsensus

/-- The header of a block with its hash. -/
def SealedBlock.sealedHeader {Payload : TxType → Type} (block : SealedBlock Payload) :
    SealedHeader :=
  { header := block.header, hash := block.hash }

/-- `InvalidPayloadAttributesError`, as far as attributes are checked against a header. -/
inductive InvalidPayloadAttributesError where
  | invalidTimestamp
  deriving DecidableEq, Repr

/-- `validate_payload_attributes_against_header` (`crates/node/src/validator.rs`): the timestamp of
the attributes is not checked. -/
def validatePayloadAttributesAgainstHeader (_attr : EvolveEnginePayloadAttributes)
    (_header : Header) : Except InvalidPayloadAttributesError Unit :=
  .ok ()

/-! ## What reth checks -/

/-- `MINIMUM_GAS_LIMIT`. -/
def minimumGasLimit : ℕ := 5000

/-- `GAS_LIMIT_BOUND_DIVISOR`. -/
def gasLimitBoundDivisor : ℕ := 1024

/-- The gas limit `child` may follow `parent`. -/
def GasLimitBounded (parent child : U64) : Prop :=
  child.toNat < parent.toNat + parent.toNat / gasLimitBoundDivisor ∧
    parent.toNat < child.toNat + parent.toNat / gasLimitBoundDivisor ∧
    minimumGasLimit ≤ child.toNat

instance (parent child : U64) : Decidable (GasLimitBounded parent child) :=
  inferInstanceAs (Decidable (_ ∧ _ ∧ _))

namespace ChainSpec

variable (self : ChainSpec)

/-- A gas limit as it counts for the block with a number: at the London boundary it is scaled. -/
def gasLimitAt (number timestamp gasLimit : U64) : U64 :=
  if self.londonTransitionsAtBlock number then
    gasLimit * (self.elasticityMultiplierAtTimestamp timestamp).setWidth 64
  else gasLimit

/-- The base fee of the block after `parent` that has a number and a timestamp. -/
def baseFeeAfter (parent : Header) (number timestamp : U64) : Option U64 :=
  if self.londonTransitionsAtBlock number then some initialBaseFee
  else self.nextBlockBaseFee parent timestamp

end ChainSpec

/-- A header that a block with the timestamp can follow: its number is not the last one, its gas
limit is valid, and it has a base fee to derive the next one from. -/
structure ChainSpec.ValidParent (chainSpec : ChainSpec) (parent : Header) (timestamp : U64) :
    Prop where
  number : parent.number.toNat + 1 < 2 ^ 64
  gasLimit : minimumGasLimit ≤
    (chainSpec.gasLimitAt (parent.number + 1) timestamp parent.gasLimit).toNat
  baseFee : (chainSpec.baseFeeAfter parent (parent.number + 1) timestamp).isSome

/-- What is relied on of reth: hash, number and base fee are accepted when they are those that
follow from the parent, and the gas limit when it is within its bounds. -/
structure ParentChecks.Standard (checks : ParentChecks) : Prop where
  hashNumber : ∀ header parent, header.parentHash = parent.hash →
    header.number.toNat = parent.header.number.toNat + 1 →
    checks.validateAgainstParentHashNumber header parent = .ok ()
  gasLimit : ∀ header parent chainSpec,
    minimumGasLimit ≤ (chainSpec.gasLimitAt header.header.number header.header.timestamp
      parent.header.gasLimit).toNat →
    (checks.validateAgainstParentGasLimit header parent chainSpec = .ok () ↔
      GasLimitBounded (chainSpec.gasLimitAt header.header.number header.header.timestamp
        parent.header.gasLimit) header.header.gasLimit)
  baseFee : ∀ header parent chainSpec baseFee,
    chainSpec.baseFeeAfter parent header.number header.timestamp = some baseFee →
    header.baseFeePerGas = some baseFee →
    checks.validateAgainstParentEip1559BaseFee header parent chainSpec = .ok ()

namespace EvolveConsensus

variable {self : EvolveConsensus} {header parent : SealedHeader}

/-- A header is accepted exactly if the three checks and the timestamp rule accept it. -/
theorem validateHeaderAgainstParent_eq_ok_iff :
    self.validateHeaderAgainstParent header parent = .ok () ↔
      self.checks.validateAgainstParentHashNumber header.header parent = .ok () ∧
        parent.header.timestamp.toNat ≤ header.header.timestamp.toNat ∧
        self.checks.validateAgainstParentGasLimit header parent self.chainSpec = .ok () ∧
        self.checks.validateAgainstParentEip1559BaseFee header.header parent.header self.chainSpec =
          .ok () := by
  rw [validateHeaderAgainstParent, Except.check_eq_ok_iff]
  refine and_congr_right fun _ => ?_
  split_ifs with htime
  · exact iff_of_false (fun h => nomatch h) fun h => absurd h.1 (not_le.mpr htime)
  · rw [Except.check_eq_ok_iff]
    exact ⟨fun h => ⟨not_lt.mp htime, h⟩, fun h => h.2⟩

/-- The header of the next block, as it is built, follows its parent in hash, number and base fee;
timestamp and gas limit are those of the attributes. -/
theorem validateHeaderAgainstParent_assembled_iff (hstandard : self.checks.Standard)
    {parentHeader rest : Header} {attributes : NextBlockEnvAttributes}
    (hvalid : self.chainSpec.ValidParent parentHeader attributes.timestamp)
    (hheader : header.header = self.chainSpec.assembleHeader parentHeader attributes
      (self.chainSpec.nextEvmEnv parentHeader attributes) rest) :
    self.validateHeaderAgainstParent header ⟨parentHeader, rest.parentHash⟩ = .ok () ↔
      parentHeader.timestamp.toNat ≤ attributes.timestamp.toNat ∧
        GasLimitBounded
          (self.chainSpec.gasLimitAt (parentHeader.number + 1) attributes.timestamp
            parentHeader.gasLimit)
          (self.chainSpec.gasLimitAt (parentHeader.number + 1) attributes.timestamp
            attributes.gasLimit) := by
  -- the fields of the assembled header that the checks read
  have hnumber : header.header.number = parentHeader.number + 1 := by
    rw [hheader, ChainSpec.number_assembleHeader]
  have htimestamp : header.header.timestamp = attributes.timestamp := by
    rw [hheader, ChainSpec.timestamp_assembleHeader]
  have hgasLimit : header.header.gasLimit = self.chainSpec.gasLimitAt (parentHeader.number + 1)
      attributes.timestamp attributes.gasLimit := by
    rw [hheader]
    rfl
  have hparentHash : header.header.parentHash = rest.parentHash := by
    rw [hheader]
    rfl
  have hbaseFee : header.header.baseFeePerGas =
      some ((self.chainSpec.baseFeeAfter parentHeader (parentHeader.number + 1)
        attributes.timestamp).getD 0) := by
    rw [hheader]
    rfl
  -- hash, number and base fee follow the parent in any case
  have hhash : self.checks.validateAgainstParentHashNumber header.header
      ⟨parentHeader, rest.parentHash⟩ = .ok () := by
    refine hstandard.hashNumber _ _ hparentHash ?_
    have := hvalid.number
    rw [hnumber, BitVec.toNat_add]
    exact Nat.mod_eq_of_lt this
  have hfee : self.checks.validateAgainstParentEip1559BaseFee header.header parentHeader
      self.chainSpec = .ok () := by
    obtain ⟨baseFee, hsome⟩ := Option.isSome_iff_exists.mp hvalid.baseFee
    refine hstandard.baseFee _ _ _ baseFee ?_ ?_
    · rw [hnumber, htimestamp, hsome]
    · rw [hbaseFee, hsome]
      rfl
  have hgas := hstandard.gasLimit header ⟨parentHeader, rest.parentHash⟩ self.chainSpec
    (by rw [hnumber, htimestamp]; exact hvalid.gasLimit)
  rw [validateHeaderAgainstParent_eq_ok_iff, hgas, hnumber, htimestamp, hgasLimit]
  exact ⟨fun h => ⟨h.2.1, h.2.2.1⟩, fun h => ⟨hhash, h.1, h.2, hfee⟩⟩

/-! ## Blocks of the node itself -/

section OwnBlocks

variable {Payload : TxType → Type} {service : EvolveEnginePayloadBuilder Payload} {client : Client}
  {config : PayloadConfig} {payload : EvBuiltPayload Payload} {gasLimit gasLimit' : U64}

/-- The header of a payload is assembled from the parent and the attributes. -/
theorem header_of_tryBuild
    (hparent : client.header config.parentHash = .ok (some config.parentHeader))
    (h : service.tryBuild client config gasLimit = .ok payload gasLimit') :
    ∃ attributes rest, attributes.timestamp = config.attributes.inner.timestamp ∧
      attributes.gasLimit = config.attributes.gasLimit.getD config.parentHeader.gasLimit ∧
      rest.parentHash = config.parentHash ∧
      payload.block.header =
        service.evolveBuilder.evmConfig.chainSpec.assembleHeader config.parentHeader attributes
          (service.evolveBuilder.evmConfig.chainSpec.nextEvmEnv config.parentHeader attributes)
          rest := by
  obtain ⟨block, hblock, rfl, -⟩ := EvolveEnginePayloadBuilder.buildFrom_eq_ok_iff.mp h
  obtain ⟨outcome, houtcome, rfl⟩ := Except.map_eq_ok_iff.mp hblock
  obtain ⟨base, -, parent, hfetch, hbuild⟩ :=
    EvolvePayloadBuilder.buildOutcome_eq_ok_iff.mp houtcome
  obtain rfl : parent = config.parentHeader :=
    Except.ok.inj (hfetch.symm.trans (EvolvePayloadBuilder.fetchParent_eq_ok_iff.mpr hparent))
  obtain ⟨next, hnext, -⟩ := EvolvePayloadBuilder.buildOn_eq_ok_iff.mp hbuild
  obtain ⟨rest, hrest, hheader⟩ := EvolvePayloadBuilder.header_of_buildOn hnext hbuild
  obtain rfl := Except.ok.inj hnext
  exact ⟨_, rest, rfl, rfl, hrest, hheader⟩

/-- The node accepts a block that it has built exactly if the timestamp of the attributes is not
before that of the parent, and their gas limit is within the bounds that the parent sets. -/
theorem accepts_tryBuild_iff (hspec : self.chainSpec = service.evolveBuilder.evmConfig.chainSpec)
    (hstandard : self.checks.Standard)
    (hparent : client.header config.parentHash = .ok (some config.parentHeader))
    (hvalid : self.chainSpec.ValidParent config.parentHeader config.attributes.inner.timestamp)
    (hbuilt : service.tryBuild client config gasLimit = .ok payload gasLimit') :
    self.validateHeaderAgainstParent ⟨payload.block.header, payload.block.hash⟩
        ⟨config.parentHeader, config.parentHash⟩ = .ok () ↔
      config.parentHeader.timestamp.toNat ≤ config.attributes.inner.timestamp.toNat ∧
        GasLimitBounded
          (self.chainSpec.gasLimitAt (config.parentHeader.number + 1)
            config.attributes.inner.timestamp config.parentHeader.gasLimit)
          (self.chainSpec.gasLimitAt (config.parentHeader.number + 1)
            config.attributes.inner.timestamp
            (config.attributes.gasLimit.getD config.parentHeader.gasLimit)) := by
  obtain ⟨attributes, rest, htimestamp, hgasLimit, hparentHash, hheader⟩ :=
    header_of_tryBuild hparent hbuilt
  rw [← hspec] at hheader
  rw [← htimestamp] at hvalid ⊢
  rw [← hgasLimit, ← hparentHash]
  exact validateHeaderAgainstParent_assembled_iff hstandard hvalid hheader

end OwnBlocks

/-- A valid gas limit may follow itself. -/
theorem gasLimitBounded_self {gasLimit : U64} (h : minimumGasLimit ≤ gasLimit.toNat) :
    GasLimitBounded gasLimit gasLimit := by
  unfold minimumGasLimit at h
  unfold GasLimitBounded gasLimitBoundDivisor minimumGasLimit
  omega

/-- The checks as reth documents them. -/
def rethChecks : ParentChecks :=
  { validateAgainstParentHashNumber := fun header parent =>
      if header.parentHash ≠ parent.hash then
        .error (.parentHashMismatch header.parentHash parent.hash)
      else if header.number.toNat ≠ parent.header.number.toNat + 1 then
        .error (.parentBlockNumberMismatch parent.header.number header.number)
      else .ok ()
    validateAgainstParentGasLimit := fun header parent chainSpec =>
      let gasLimit := header.header.gasLimit
      let parentGasLimit := chainSpec.gasLimitAt header.header.number header.header.timestamp
        parent.header.gasLimit
      let bound := parentGasLimit.toNat / gasLimitBoundDivisor
      if parentGasLimit.toNat < gasLimit.toNat then
        if bound ≤ gasLimit.toNat - parentGasLimit.toNat then
          .error (.gasLimitInvalidIncrease parentGasLimit gasLimit)
        else .ok ()
      else if bound ≤ parentGasLimit.toNat - gasLimit.toNat then
        .error (.gasLimitInvalidDecrease parentGasLimit gasLimit)
      else if gasLimit.toNat < minimumGasLimit then .error (.gasLimitInvalidMinimum gasLimit)
      else .ok ()
    validateAgainstParentEip1559BaseFee := fun header parent chainSpec =>
      match header.baseFeePerGas,
        chainSpec.baseFeeAfter parent header.number header.timestamp with
      | some baseFee, some expected =>
        if baseFee ≠ expected then .error (.baseFeeDiff baseFee expected) else .ok ()
      | _, _ => .error .baseFeeMissing }

/-- The checks of the example are those of reth. -/
theorem standard_rethChecks : rethChecks.Standard where
  hashNumber := by
    intro header parent hhash hnumber
    simp [rethChecks, hhash, hnumber]
  gasLimit := by
    intro header parent chainSpec hminimum
    simp only [rethChecks, GasLimitBounded]
    generalize (chainSpec.gasLimitAt header.header.number header.header.timestamp
      parent.header.gasLimit) = parentGasLimit at *
    split_ifs with hincrease hfar hfar hsmall
    · exact iff_of_false (fun h => nomatch h) (by omega)
    -- what is above a valid gas limit is above the minimum
    · exact iff_of_true rfl (by omega)
    · exact iff_of_false (fun h => nomatch h) (by omega)
    · exact iff_of_false (fun h => nomatch h) (by omega)
    · exact iff_of_true rfl (by omega)
  baseFee := by
    intro header parent chainSpec baseFee hexpected hbaseFee
    simp [rethChecks, hexpected, hbaseFee]

/-- A consensus for the chain of `paymentService`. -/
def paymentConsensus : EvolveConsensus :=
  { chainSpec := EvolveEnginePayloadBuilder.paymentService.evolveBuilder.evmConfig.chainSpec
    checks := rethChecks }

/-- An empty payload on `paymentParent`. -/
def emptyConfig (timestamp : U64) (gasLimit : Option U64) : PayloadConfig :=
  let config := EvolveEnginePayloadBuilder.paymentConfig []
  { config with
    attributes :=
      { config.attributes with inner := { config.attributes.inner with timestamp }, gasLimit } }

/-- What is built for `emptyConfig`. -/
def buildEmpty (timestamp : U64) (gasLimit : Option U64) :
    EStateM.Result BuildFailure U64 (EvBuiltPayload fun _ => Empty) :=
  EvolveEnginePayloadBuilder.paymentService.tryBuild EvolvePayloadBuilder.paymentClient
    (emptyConfig timestamp gasLimit) 0

/-- The check of the block that is built for `emptyConfig`. -/
def validateEmpty (timestamp : U64) (gasLimit : Option U64) :
    Option (Except ConsensusError Unit) :=
  match buildEmpty timestamp gasLimit with
  | .ok payload _ => some (paymentConsensus.validateHeaderAgainstParent
      ⟨payload.block.header, payload.block.hash⟩ ⟨EvolvePayloadBuilder.paymentParent, 0xAA⟩)
  | .error _ _ => none

theorem validParent_paymentParent (timestamp : U64) :
    paymentConsensus.chainSpec.ValidParent EvolvePayloadBuilder.paymentParent timestamp where
  number := by decide
  gasLimit := by
    have hlimit : minimumGasLimit ≤ (30000000 : U64).toNat := by decide
    exact hlimit
  baseFee := rfl

/-- A block with the timestamp of its parent, and with its gas limit, is accepted. -/
theorem accepts_tryBuild_sameTimestamp : validateEmpty 1710338135 none = some (.ok ()) := by
  have hvalid := validParent_paymentParent 1710338135
  cases hbuilt : buildEmpty 1710338135 none with
  | error e gasLimit' => cases hbuilt
  | ok payload gasLimit' =>
    simp only [validateEmpty, hbuilt, Option.some.injEq]
    exact (accepts_tryBuild_iff rfl standard_rethChecks rfl hvalid hbuilt).mpr
      ⟨by decide, gasLimitBounded_self hvalid.gasLimit⟩

/-- On a valid parent, attributes with twice its gas limit and attributes with an earlier timestamp
are accepted and built, and the node rejects both blocks. -/
theorem rejects_own_blocks :
    (∀ timestamp, paymentConsensus.chainSpec.ValidParent EvolvePayloadBuilder.paymentParent
      timestamp) ∧
    (validatePayloadAttributesAgainstHeader (emptyConfig 1710338136 (some 60000000)).attributes
        EvolvePayloadBuilder.paymentParent = .ok () ∧
      validateEmpty 1710338136 (some 60000000) =
        some (.error (.gasLimitInvalidIncrease 30000000 60000000))) ∧
    validatePayloadAttributesAgainstHeader (emptyConfig 1710338134 none).attributes
        EvolvePayloadBuilder.paymentParent = .ok () ∧
      validateEmpty 1710338134 none =
        some (.error (.timestampIsInPast 1710338135 1710338134)) :=
  ⟨validParent_paymentParent, ⟨rfl, rfl⟩, rfl, rfl⟩

end EvolveConsensus

end EvReth
