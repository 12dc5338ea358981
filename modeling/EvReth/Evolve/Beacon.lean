import EvReth.Evolve.Consensus

/-!
# The consensus of the node and that of the beacon chain

`EvolveConsensus` wraps reth's `EthBeaconConsensus` and is documented to change its timestamp rule
only. It does not call the header check of the wrapped consensus, however, but lists the functions
that this check consists of once more, and the list stops before the blob gas of EIP-4844.
-/

namespace EvReth

/-- The functions of reth that `EthBeaconConsensus` checks a header against its parent with. -/
structure BeaconChecks extends ParentChecks where
  validateAgainstParentTimestamp : Header → Header → Except ConsensusError Unit
  validateAgainstParent4844 : Header → Header → BlobParams → Except ConsensusError Unit

/-- `EthBeaconConsensus`. -/
structure EthBeaconConsensus where
  chainSpec : ChainSpec
  checks : BeaconChecks

namespace EthBeaconConsensus

/-- `validate_header_against_parent`, the conjunction that reth documents. -/
def validateHeaderAgainstParent (self : EthBeaconConsensus) (header parent : SealedHeader) :
    Except ConsensusError Unit := do
  self.checks.validateAgainstParentHashNumber header.header parent
  self.checks.validateAgainstParentTimestamp header.header parent.header
  self.checks.validateAgainstParentGasLimit header parent self.chainSpec
  self.checks.validateAgainstParentEip1559BaseFee header.header parent.header self.chainSpec
  match self.chainSpec.blobParamsAtTimestamp header.header.timestamp with
  | some blobParams =>
    self.checks.validateAgainstParent4844 header.header parent.header blobParams
  | none => pure ()

/-- The timestamp rule of the node: a block may have the timestamp of its parent. -/
def timestampNotBeforeParent (header parent : Header) : Except ConsensusError Unit :=
  if header.timestamp.toNat < parent.timestamp.toNat then
    .error (.timestampIsInPast parent.timestamp header.timestamp)
  else .ok ()

/-- The beacon consensus with the timestamp rule of the node in place of its own. -/
def withEqualTimestamps (self : EthBeaconConsensus) : EthBeaconConsensus :=
  { self with checks :=
    { self.checks with validateAgainstParentTimestamp := timestampNotBeforeParent } }

/-- The rules on hash and number, timestamps, gas limit and base fee hold of a header and its
parent. -/
structure OtherRules (consensus : EthBeaconConsensus) (header parent : SealedHeader) : Prop where
  hashNumber : consensus.checks.validateAgainstParentHashNumber header.header parent = .ok ()
  timestamp : parent.header.timestamp.toNat ≤ header.header.timestamp.toNat
  gasLimit : consensus.checks.validateAgainstParentGasLimit header parent consensus.chainSpec =
    .ok ()
  baseFee : consensus.checks.validateAgainstParentEip1559BaseFee header.header parent.header
    consensus.chainSpec = .ok ()

/-- The blob gas of a header follows from its parent, where blob parameters are active. -/
def BlobGasFollows (self : EthBeaconConsensus) (header parent : SealedHeader) : Prop :=
  ∀ blobParams, self.chainSpec.blobParamsAtTimestamp header.header.timestamp = some blobParams →
    self.checks.validateAgainstParent4844 header.header parent.header blobParams = .ok ()

variable {self : EthBeaconConsensus} {header parent : SealedHeader}

/-- A timestamp may be that of the parent. -/
theorem timestampNotBeforeParent_eq_ok_iff {header parent : Header} :
    timestampNotBeforeParent header parent = .ok () ↔
      parent.timestamp.toNat ≤ header.timestamp.toNat := by
  rw [timestampNotBeforeParent]
  split_ifs with htime
  · exact iff_of_false (fun h => nomatch h) (not_le.mpr htime)
  · exact iff_of_true rfl (not_lt.mp htime)

/-- Up to the timestamp, the beacon consensus asks for the other rules and the blob gas. -/
theorem withEqualTimestamps_eq_ok_iff :
    self.withEqualTimestamps.validateHeaderAgainstParent header parent = .ok () ↔
      self.OtherRules header parent ∧ self.BlobGasFollows header parent := by
  simp only [validateHeaderAgainstParent, Except.check_eq_ok_iff, withEqualTimestamps,
    timestampNotBeforeParent_eq_ok_iff]
  -- without blob parameters there is nothing to follow
  have hblob : (match self.chainSpec.blobParamsAtTimestamp header.header.timestamp with
      | some blobParams =>
        self.checks.validateAgainstParent4844 header.header parent.header blobParams
      | none => pure ()) = .ok () ↔ self.BlobGasFollows header parent := by
    rw [BlobGasFollows]
    cases self.chainSpec.blobParamsAtTimestamp header.header.timestamp with
    | none => exact iff_of_true rfl fun _ h => nomatch h
    | some blobParams =>
      exact ⟨fun h _ hparams => Option.some.inj hparams ▸ h, fun h => h _ rfl⟩
  rw [hblob]
  exact ⟨fun ⟨h₁, h₂, h₃, h₄, h₅⟩ => ⟨⟨h₁, h₂, h₃, h₄⟩, h₅⟩,
    fun ⟨h, h₅⟩ => ⟨h.hashNumber, h.timestamp, h.gasLimit, h.baseFee, h₅⟩⟩

end EthBeaconConsensus

namespace EvolveConsensus

/-- `EvolveConsensus` around a beacon consensus. -/
def new (inner : EthBeaconConsensus) : EvolveConsensus :=
  { chainSpec := inner.chainSpec, checks := inner.checks.toParentChecks }

variable {inner : EthBeaconConsensus} {header parent : SealedHeader}

/-- The node asks for the other rules and leaves out the blob gas. -/
theorem new_eq_ok_iff :
    (new inner).validateHeaderAgainstParent header parent = .ok () ↔
      inner.OtherRules header parent := by
  rw [validateHeaderAgainstParent_eq_ok_iff]
  exact ⟨fun ⟨h₁, h₂, h₃, h₄⟩ => ⟨h₁, h₂, h₃, h₄⟩,
    fun h => ⟨h.hashNumber, h.timestamp, h.gasLimit, h.baseFee⟩⟩

/-- The node and the beacon consensus with the node's timestamp rule decide a header and its parent
alike exactly if the blob gas follows from the parent, or another rule is broken. -/
theorem accepts_iff_withEqualTimestamps_iff (inner : EthBeaconConsensus)
    (header parent : SealedHeader) :
    ((new inner).validateHeaderAgainstParent header parent = .ok () ↔
        inner.withEqualTimestamps.validateHeaderAgainstParent header parent = .ok ()) ↔
      inner.BlobGasFollows header parent ∨ ¬ inner.OtherRules header parent := by
  rw [new_eq_ok_iff, EthBeaconConsensus.withEqualTimestamps_eq_ok_iff]
  tauto

/-- The checks as reth documents them. Before Osaka, the excess of blob gas is that of EIP-4844. -/
def rethBeaconChecks : BeaconChecks :=
  { rethChecks with
    validateAgainstParentTimestamp := fun header parent =>
      if header.timestamp.toNat ≤ parent.timestamp.toNat then
        .error (.timestampIsInPast parent.timestamp header.timestamp)
      else .ok ()
    validateAgainstParent4844 := fun header parent blobParams =>
      let parentBlobGasUsed := parent.blobGasUsed.getD 0
      let parentExcessBlobGas := parent.excessBlobGas.getD 0
      match header.blobGasUsed, header.excessBlobGas with
      | none, _ => .error .blobGasUsedMissing
      | some _, none => .error .excessBlobGasMissing
      | some _, some excessBlobGas =>
        let expected := blobParams.nextBlockExcessBlobGas parentExcessBlobGas parentBlobGasUsed
        if expected ≠ excessBlobGas then
          .error (.excessBlobGasDiff excessBlobGas expected parentExcessBlobGas parentBlobGasUsed)
        else .ok () }

/-- The beacon consensus of a chain with the rules of Cancun. -/
def cancunConsensus : EthBeaconConsensus :=
  { chainSpec := ChainSpec.cancunFromGenesis, checks := rethBeaconChecks }

/-- A block after `parentUsingBlobGas` that states an excess of blob gas. -/
def childWithExcess (excessBlobGas : U64) : SealedHeader :=
  { header :=
      { ChainSpec.parentUsingBlobGas 0 with
        parentHash := 0xAA
        number := 11
        timestamp := 1710338136
        excessBlobGas := some excessBlobGas }
    hash := 0xBB }

/-- After a parent with neither blobs nor an excess, the node accepts a header that states an excess
of one blob. The beacon consensus rejects it, also with the timestamp rule of the node. -/
theorem accepts_wrong_excessBlobGas :
    (new cancunConsensus).validateHeaderAgainstParent (childWithExcess 131072)
        ⟨ChainSpec.parentUsingBlobGas 0, 0xAA⟩ = .ok () ∧
      cancunConsensus.withEqualTimestamps.validateHeaderAgainstParent (childWithExcess 131072)
        ⟨ChainSpec.parentUsingBlobGas 0, 0xAA⟩ = .error (.excessBlobGasDiff 131072 0 0 0) :=
  ⟨rfl, rfl⟩

end EvolveConsensus

end EvReth
