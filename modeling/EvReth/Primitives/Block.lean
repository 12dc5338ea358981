import EvReth.Primitives.Transaction

/-!
# Headers and chain specifications

The header of a block and the questions that the node asks a chain specification: which rules are
active at a timestamp and a block number, and what the base fee and the blob parameters are. Both
types belong to reth; a chain specification is known here by its answers.
-/

namespace EvReth

/-- `saturating_to::<u64>`. -/
def saturatingToU64 (x : U256) : U64 :=
  if x.toNat < 2 ^ 64 then x.setWidth 64 else BitVec.allOnes 64

theorem saturatingToU64_setWidth (x : U64) : saturatingToU64 (x.setWidth 256) = x := by
  have hx : (x.setWidth 256 : U256).toNat = x.toNat := BitVec.toNat_setWidth_of_le (by omega)
  rw [saturatingToU64, if_pos (hx ▸ x.isLt)]
  exact BitVec.eq_of_toNat_eq (by simp)

/-- `SpecId`, in the order of activation. -/
inductive SpecId where
  | frontier
  | frontierThawing
  | homestead
  | daoFork
  | tangerine
  | spuriousDragon
  | byzantium
  | constantinople
  | petersburg
  | istanbul
  | muirGlacier
  | berlin
  | london
  | arrowGlacier
  | grayGlacier
  | merge
  | shanghai
  | cancun
  | prague
  | osaka
  | amsterdam
  deriving DecidableEq, Repr

/-- `is_enabled_in`: the rules of `other` are in force. -/
def SpecId.isEnabledIn (self other : SpecId) : Bool := other.ctorIdx ≤ self.ctorIdx

/-- A withdrawal of the beacon chain. -/
structure Withdrawal where
  index : U64
  validatorIndex : U64
  address : Address
  amount : U64
  deriving DecidableEq, Repr

/-- `Header`. -/
structure Header where
  parentHash : B256 := 0
  ommersHash : B256 := 0
  beneficiary : Address := 0
  stateRoot : B256 := 0
  transactionsRoot : B256 := 0
  receiptsRoot : B256 := 0
  logsBloom : Bytes := []
  difficulty : U256 := 0
  number : U64 := 0
  gasLimit : U64 := 0
  gasUsed : U64 := 0
  timestamp : U64 := 0
  extraData : Bytes := []
  mixHash : B256 := 0
  nonce : U64 := 0
  baseFeePerGas : Option U64 := none
  withdrawalsRoot : Option B256 := none
  blobGasUsed : Option U64 := none
  excessBlobGas : Option U64 := none
  parentBeaconBlockRoot : Option B256 := none
  requestsHash : Option B256 := none
  blockAccessListHash : Option B256 := none
  slotNumber : Option U64 := none
  deriving DecidableEq, Repr

/-- `BlobParams`. -/
structure BlobParams where
  targetBlobGasPerBlock : U64
  maxBlobsPerTx : U64
  calcBlobFee : U64 → U128

/-- The excess blob gas of EIP-4844 after a block with excess `excess` that used `used`. -/
def BlobParams.nextBlockExcessBlobGas (self : BlobParams) (excess used : U64) : U64 :=
  (excess + used).saturatingSub self.targetBlobGasPerBlock

/-- A block leaves the excess as it was exactly when it used the target, or when there was no excess
and it used no more than that. -/
theorem BlobParams.nextBlockExcessBlobGas_eq_iff (self : BlobParams) (excess used : U64) :
    self.nextBlockExcessBlobGas excess used = excess ↔
      (used = self.targetBlobGasPerBlock ∧ excess.toNat + used.toNat < 2 ^ 64) ∨
        (excess = 0 ∧ used.toNat ≤ self.targetBlobGasPerBlock.toNat) := by
  have hexcess := excess.isLt
  have hused := used.isLt
  have hzero : (0 : U64).toNat = 0 := rfl
  simp only [BitVec.toNat_eq, nextBlockExcessBlobGas, BitVec.toNat_saturatingSub, BitVec.toNat_add,
    hzero]
  -- a sum that wraps around is smaller than each summand
  by_cases hfits : excess.toNat + used.toNat < 2 ^ 64
  · rw [Nat.mod_eq_of_lt hfits]
    omega
  · have hwrap : (excess.toNat + used.toNat) % 2 ^ 64 = excess.toNat + used.toNat - 2 ^ 64 := by
      omega
    rw [hwrap]
    omega

/-- A chain specification, by what the node asks it. -/
structure ChainSpec where
  chainId : U64
  specByTimestampAndBlockNumber : U64 → U64 → SpecId
  blobParamsAtTimestamp : U64 → Option BlobParams
  isCancunActiveAtTimestamp : U64 → Bool
  isPragueActiveAtTimestamp : U64 → Bool
  isOsakaActiveAtTimestamp : U64 → Bool
  /-- The base fee of the block after a header, at a timestamp. -/
  nextBlockBaseFee : Header → U64 → Option U64
  /-- London is activated at a block and by its number. -/
  londonTransitionsAtBlock : U64 → Bool
  daoTransitionsAtBlock : U64 → Bool
  /-- `base_fee_params_at_timestamp(..).elasticity_multiplier`. -/
  elasticityMultiplierAtTimestamp : U64 → U128

/-- `revm_spec`. -/
def ChainSpec.revmSpec (self : ChainSpec) (header : Header) : SpecId :=
  self.specByTimestampAndBlockNumber header.timestamp header.number

end EvReth
