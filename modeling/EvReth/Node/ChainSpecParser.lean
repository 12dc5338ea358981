import EvReth.Evolve.Consensus

/-!
# The parser of chain specifications and the base fee

`EvolveChainSpecParser` (`crates/node/src/chainspec.rs`) reads parameters of EIP-1559 from the
`evolve` field of a genesis and asks each of them to be positive. The base fee of the next block
divides by the gas target of its parent, which is the parent's gas limit divided by the elasticity
multiplier. A multiplier above the gas limit makes the target zero.

Errors are `eyre` reports: the messages, the outermost one first.
-/

namespace EvReth

/-! ## The parser -/

/-- `eyre::Report`. -/
abbrev Report := List String

/-- `EvolveEip1559Config`. -/
structure EvolveEip1559Config where
  baseFeeMaxChangeDenominator : Option U64 := none
  baseFeeElasticityMultiplier : Option U64 := none
  initialBaseFeePerGas : Option U64 := none
  deriving DecidableEq, Repr

/-- `has_base_fee_overrides`. -/
def EvolveEip1559Config.hasBaseFeeOverrides (self : EvolveEip1559Config) : Bool :=
  self.baseFeeMaxChangeDenominator.isSome || self.baseFeeElasticityMultiplier.isSome

/-- `Genesis`, by what the parser and the base fee read. The `evolve` field of the configuration is
there as serde reads it. -/
structure Genesis where
  londonBlock : Option U64
  timestamp : U64 := 0
  baseFeePerGas : Option U128 := none
  evolve : Option (Except String EvolveEip1559Config) := none

/-- `BaseFeeParams`. -/
structure BaseFeeParams where
  maxChangeDenominator : U128
  elasticityMultiplier : U128
  deriving DecidableEq, Repr

/-- `BaseFeeParams::ethereum`. -/
def BaseFeeParams.ethereum : BaseFeeParams :=
  { maxChangeDenominator := 8, elasticityMultiplier := 2 }

/-- `BaseFeeParamsKind`. Parameters that change with forks are known by their value at a time. -/
inductive BaseFeeParamsKind where
  | constant (params : BaseFeeParams)
  | variable (paramsAt : U64 → BaseFeeParams)

/-- reth's `ChainSpec`, by what the parser writes and the base fee reads. -/
structure ParsedChainSpec where
  genesis : Genesis
  baseFeeParams : BaseFeeParamsKind

namespace ParsedChainSpec

/-- `ChainSpec::from` a genesis. -/
def ofGenesis (genesis : Genesis) : ParsedChainSpec :=
  { genesis, baseFeeParams := .constant .ethereum }

/-- `base_fee_params_at_timestamp`. -/
def baseFeeParamsAtTimestamp (self : ParsedChainSpec) (timestamp : U64) : BaseFeeParams :=
  match self.baseFeeParams with
  | .constant params => params
  | .variable paramsAt => paramsAt timestamp

end ParsedChainSpec

/-- `parse_eip1559_overrides`. -/
def parseEip1559Overrides (genesis : Genesis) : Except Report EvolveEip1559Config :=
  match genesis.evolve with
  | some (.ok config) => .ok config
  | some (.error err) => .error ["Invalid evolve extras in chainspec", err]
  | none => .ok {}

/-- `apply_genesis_overrides`. -/
def applyGenesisOverrides (genesis : Genesis) (overrides : EvolveEip1559Config) :
    Except Report Genesis := do
  match overrides.initialBaseFeePerGas with
  | none => return genesis
  | some initialBaseFee =>
    if genesis.londonBlock ≠ some 0 then
      throw ["initialBaseFeePerGas requires londonBlock set to 0 in the chainspec config"]
    else
      let initialBaseFee : U128 := initialBaseFee.setWidth 128
      if genesis.baseFeePerGas.all (· = initialBaseFee) then
        return { genesis with baseFeePerGas := some initialBaseFee }
      else
        throw ["initialBaseFeePerGas conflicts with baseFeePerGas in genesis (" ++
          toString initialBaseFee.toNat ++ " != " ++
          toString ((genesis.baseFeePerGas.map (·.toNat)).getD 0) ++ ")"]

/-- A parameter must be positive if it is there. -/
def ensurePositive (name : String) (value : Option U64) : Except Report Unit :=
  if value = some 0 then .error [name ++ " must be greater than 0, got: 0"] else .ok ()

/-- `apply_chain_spec_overrides`. -/
def applyChainSpecOverrides (chainSpec : ParsedChainSpec) (overrides : EvolveEip1559Config) :
    Except Report ParsedChainSpec := do
  ensurePositive "baseFeeMaxChangeDenominator" overrides.baseFeeMaxChangeDenominator
  ensurePositive "baseFeeElasticityMultiplier" overrides.baseFeeElasticityMultiplier
  if !overrides.hasBaseFeeOverrides then
    return chainSpec
  else
    let params := chainSpec.baseFeeParamsAtTimestamp chainSpec.genesis.timestamp
    let params : BaseFeeParams :=
      { maxChangeDenominator :=
          (overrides.baseFeeMaxChangeDenominator.map (·.setWidth 128)).getD
            params.maxChangeDenominator
        elasticityMultiplier :=
          (overrides.baseFeeElasticityMultiplier.map (·.setWidth 128)).getD
            params.elasticityMultiplier }
    return { chainSpec with baseFeeParams := .constant params }

/-- `parse_custom_chain_spec`, given `parse_genesis`. -/
def parseCustomChainSpec (parseGenesis : String → Except Report Genesis) (input : String) :
    Except Report ParsedChainSpec := do
  let genesis ← (parseGenesis input).mapError ("Failed to parse genesis config" :: ·)
  let overrides ← parseEip1559Overrides genesis
  let genesis ← applyGenesisOverrides genesis overrides
  applyChainSpecOverrides (.ofGenesis genesis) overrides

/-! ## The base fee -/

/-- The panic of a division. -/
structure DivisionByZero where
  deriving DecidableEq, Repr

/-- Division as Rust has it. -/
def divide {w : ℕ} (a b : BitVec w) : Except DivisionByZero (BitVec w) :=
  if b = 0 then .error ⟨⟩ else .ok (a / b)

/-- `calc_next_block_base_fee` of alloy. -/
def calcNextBlockBaseFee (gasUsed gasLimit baseFee : U64) (params : BaseFeeParams) :
    Except DivisionByZero U64 := do
  let gasTarget ← divide gasLimit (params.elasticityMultiplier.setWidth 64)
  let divisor : U128 := gasTarget.setWidth 128 * params.maxChangeDenominator
  if gasUsed = gasTarget then
    return baseFee
  else if gasTarget.toNat < gasUsed.toNat then
    let delta ← divide (baseFee.setWidth 128 * (gasUsed - gasTarget).setWidth 128) divisor
    -- the base fee rises by one at least
    return baseFee + (if delta = 0 then 1 else delta.setWidth 64)
  else
    let delta ← divide (baseFee.setWidth 128 * (gasTarget - gasUsed).setWidth 128) divisor
    return baseFee.saturatingSub (delta.setWidth 64)

namespace ParsedChainSpec

variable (self : ParsedChainSpec)

/-- `next_block_base_fee`. -/
def nextBlockBaseFee (parent : Header) (timestamp : U64) :
    Except DivisionByZero (Option U64) :=
  match parent.baseFeePerGas with
  | none => .ok none
  | some baseFee =>
    (calcNextBlockBaseFee parent.gasUsed parent.gasLimit baseFee
      (self.baseFeeParamsAtTimestamp timestamp)).map some

/-- London is active at a block. -/
def isLondonActiveAtBlock (number : U64) : Bool :=
  self.genesis.londonBlock.any (·.toNat ≤ number.toNat)

/-- London is activated at a block. -/
def londonTransitionsAtBlock (number : U64) : Bool := self.genesis.londonBlock = some number

/-- The answers of the chain specification, where it gives one. Those that do not concern the base
fee are the ones of `rest`. -/
def answers (rest : ChainSpec) : ChainSpec :=
  { rest with
    nextBlockBaseFee := fun parent timestamp =>
      (self.nextBlockBaseFee parent timestamp).toOption.join
    londonTransitionsAtBlock := self.londonTransitionsAtBlock
    elasticityMultiplierAtTimestamp := fun timestamp =>
      (self.baseFeeParamsAtTimestamp timestamp).elasticityMultiplier }

/-- `next_evm_env`, in which the base fee is computed before the London boundary is considered. -/
def nextEvmEnv (rest : ChainSpec) (parent : Header) (attributes : NextBlockEnvAttributes) :
    Except DivisionByZero EvmEnv := do
  let _ ← self.nextBlockBaseFee parent attributes.timestamp
  return (self.answers rest).nextEvmEnv parent attributes

/-- `validate_against_parent_eip1559_base_fee` of reth. -/
def validateAgainstParentEip1559BaseFee (header parent : Header) :
    Except DivisionByZero (Except ConsensusError Unit) := do
  if self.isLondonActiveAtBlock header.number then
    match header.baseFeePerGas with
    | none => return .error .baseFeeMissing
    | some baseFee =>
      let expected ← if self.londonTransitionsAtBlock header.number then .ok (some initialBaseFee)
        else self.nextBlockBaseFee parent header.timestamp
      return match expected with
        | none => .error .baseFeeMissing
        | some expected =>
          if expected ≠ baseFee then .error (.baseFeeDiff baseFee expected) else .ok ()
  else return .ok ()

end ParsedChainSpec

/-! ## What the parser accepts -/

/-- Parameters of EIP-1559 that are positive and fit into a `u64`. -/
structure BaseFeeParams.Positive (params : BaseFeeParams) : Prop where
  denominator_pos : 0 < params.maxChangeDenominator.toNat
  denominator_lt : params.maxChangeDenominator.toNat < 2 ^ 64
  elasticity_pos : 0 < params.elasticityMultiplier.toNat
  elasticity_lt : params.elasticityMultiplier.toNat < 2 ^ 64

theorem BaseFeeParams.positive_ethereum : BaseFeeParams.ethereum.Positive :=
  ⟨by decide, by decide, by decide, by decide⟩

/-- What passes is not zero. -/
theorem ensurePositive_eq_ok {name : String} {value : Option U64}
    (h : ensurePositive name value = .ok ()) : value ≠ some 0 := by
  unfold ensurePositive at h
  split_ifs at h with hzero
  exact hzero

/-- A positive `u64` in place of a positive parameter. -/
theorem positive_getD {value : Option U64} {param : U128} (hvalue : value ≠ some 0)
    (hpos : 0 < param.toNat) (hlt : param.toNat < 2 ^ 64) :
    0 < ((value.map (·.setWidth 128)).getD param).toNat ∧
      ((value.map (·.setWidth 128)).getD param).toNat < 2 ^ 64 := by
  cases value with
  | none => exact ⟨hpos, hlt⟩
  | some x =>
    have hx := x.isLt
    have hne : x.toNat ≠ 0 := fun h => hvalue (congrArg some (BitVec.eq_of_toNat_eq h))
    have hwide : (x.setWidth 128).toNat = x.toNat := by
      rw [BitVec.toNat_setWidth]
      exact Nat.mod_eq_of_lt (by omega)
    simp only [Option.map_some, Option.getD_some, hwide]
    omega

/-- The parameters of an accepted genesis are positive at all times. -/
theorem positive_of_parseCustomChainSpec {parseGenesis : String → Except Report Genesis}
    {input : String} {chainSpec : ParsedChainSpec}
    (h : parseCustomChainSpec parseGenesis input = .ok chainSpec) (timestamp : U64) :
    (chainSpec.baseFeeParamsAtTimestamp timestamp).Positive := by
  obtain ⟨genesis, -, h⟩ := Except.bind_eq_ok_iff.mp h
  obtain ⟨overrides, -, h⟩ := Except.bind_eq_ok_iff.mp h
  obtain ⟨genesis', -, h⟩ := Except.bind_eq_ok_iff.mp h
  obtain ⟨⟨⟩, hdenominator, h⟩ := Except.bind_eq_ok_iff.mp h
  obtain ⟨⟨⟩, helasticity, h⟩ := Except.bind_eq_ok_iff.mp h
  have hethereum := BaseFeeParams.positive_ethereum
  split_ifs at h with hoverrides
  · obtain rfl := Except.ok.inj h
    exact hethereum
  · obtain rfl := Except.ok.inj h
    obtain ⟨hdpos, hdlt⟩ := positive_getD (ensurePositive_eq_ok hdenominator)
      hethereum.denominator_pos hethereum.denominator_lt
    obtain ⟨hepos, helt⟩ := positive_getD (ensurePositive_eq_ok helasticity)
      hethereum.elasticity_pos hethereum.elasticity_lt
    exact ⟨hdpos, hdlt, hepos, helt⟩

/-! ## When the base fee is defined -/

/-- A division fails exactly if it is by zero. -/
theorem divide_succeeds_iff {w : ℕ} {a b : BitVec w} : (∃ q, divide a b = .ok q) ↔ b ≠ 0 := by
  unfold divide
  split_ifs with hzero
  · exact iff_of_false (by rintro ⟨q, h⟩; cases h) (not_not.mpr hzero)
  · exact iff_of_true ⟨_, rfl⟩ hzero

/-- A computation that is followed by a total one succeeds if it does. -/
theorem bind_succeeds_iff {ε α β : Type} {x : Except ε α} {f : α → β} :
    (∃ b, (x >>= fun a => Except.ok (f a)) = .ok b) ↔ ∃ a, x = .ok a := by
  cases x with
  | error e => exact iff_of_false (by rintro ⟨b, h⟩; cases h) (by rintro ⟨a, h⟩; cases h)
  | ok a => exact iff_of_true ⟨f a, rfl⟩ ⟨a, rfl⟩

section Defined

variable {params : BaseFeeParams}

/-- The gas target is the gas limit divided by the elasticity multiplier. -/
theorem divide_elasticity (hparams : params.Positive) (gasLimit : U64) :
    ∃ gasTarget, divide gasLimit (params.elasticityMultiplier.setWidth 64) = .ok gasTarget ∧
      gasTarget.toNat = gasLimit.toNat / params.elasticityMultiplier.toNat := by
  have hnarrow : (params.elasticityMultiplier.setWidth 64).toNat =
      params.elasticityMultiplier.toNat := by
    rw [BitVec.toNat_setWidth]
    exact Nat.mod_eq_of_lt hparams.elasticity_lt
  have hne : params.elasticityMultiplier.setWidth 64 ≠ 0 := by
    intro hzero
    have hpos := hparams.elasticity_pos
    rw [hzero] at hnarrow
    exact absurd hnarrow (by simpa using Nat.ne_of_lt hpos)
  refine ⟨gasLimit / params.elasticityMultiplier.setWidth 64, if_neg hne, ?_⟩
  rw [BitVec.toNat_udiv, hnarrow]

/-- The divisor is zero exactly if the gas target is. -/
theorem divisor_eq_zero_iff (hparams : params.Positive) (gasTarget : U64) :
    gasTarget.setWidth 128 * params.maxChangeDenominator = 0 ↔ gasTarget = 0 := by
  have hwide : (gasTarget.setWidth 128).toNat = gasTarget.toNat := by
    rw [BitVec.toNat_setWidth]
    exact Nat.mod_eq_of_lt (gasTarget.isLt.trans (by decide))
  have hproduct : gasTarget.toNat * params.maxChangeDenominator.toNat < 2 ^ 128 := by
    have htarget := gasTarget.isLt
    calc gasTarget.toNat * params.maxChangeDenominator.toNat
        < 2 ^ 64 * 2 ^ 64 := Nat.mul_lt_mul'' htarget hparams.denominator_lt
      _ = 2 ^ 128 := by decide
  have hpos := hparams.denominator_pos
  rw [BitVec.toNat_eq, BitVec.toNat_mul, hwide, Nat.mod_eq_of_lt hproduct, BitVec.toNat_eq]
  simp only [BitVec.ofNat_eq_ofNat, BitVec.toNat_ofNat, Nat.zero_mod, Nat.mul_eq_zero]
  omega

/-- With positive parameters, the base fee is defined exactly if no gas was used or the gas limit is
at least the elasticity multiplier. -/
theorem calcNextBlockBaseFee_succeeds_iff (hparams : params.Positive)
    (gasUsed gasLimit baseFee : U64) :
    (∃ fee, calcNextBlockBaseFee gasUsed gasLimit baseFee params = .ok fee) ↔
      gasUsed = 0 ∨ params.elasticityMultiplier.toNat ≤ gasLimit.toNat := by
  obtain ⟨gasTarget, hdivide, htarget⟩ := divide_elasticity hparams gasLimit
  have htarget_iff : gasTarget = 0 ↔ gasLimit.toNat < params.elasticityMultiplier.toNat := by
    rw [BitVec.toNat_eq, htarget]
    exact Nat.div_eq_zero_iff_lt hparams.elasticity_pos
  have hdivisor := divisor_eq_zero_iff hparams gasTarget
  rw [calcNextBlockBaseFee, hdivide]
  show (∃ fee, (if gasUsed = gasTarget then Except.ok baseFee
    else if gasTarget.toNat < gasUsed.toNat then
      divide (baseFee.setWidth 128 * (gasUsed - gasTarget).setWidth 128)
        (gasTarget.setWidth 128 * params.maxChangeDenominator) >>= fun delta =>
          .ok (baseFee + (if delta = 0 then 1 else delta.setWidth 64))
    else
      divide (baseFee.setWidth 128 * (gasTarget - gasUsed).setWidth 128)
        (gasTarget.setWidth 128 * params.maxChangeDenominator) >>= fun delta =>
          .ok (baseFee.saturatingSub (delta.setWidth 64))) = Except.ok fee) ↔ _
  split_ifs with hequal hgreater
  · refine iff_of_true ⟨baseFee, rfl⟩ ?_
    rw [hequal, htarget_iff]
    omega
  · rw [bind_succeeds_iff, divide_succeeds_iff, Ne, hdivisor, htarget_iff]
    have hused : gasUsed ≠ 0 := by
      rintro rfl
      exact absurd hgreater (Nat.not_lt_zero _)
    simp only [hused, false_or, not_lt]
  · rw [bind_succeeds_iff, divide_succeeds_iff, Ne, hdivisor, htarget_iff]
    -- less gas than the target was used, so there is a target
    have htarget_ne : gasTarget ≠ 0 := by
      rintro rfl
      have hzero : (0 : U64).toNat = 0 := rfl
      exact hequal (BitVec.eq_of_toNat_eq (by omega))
    have hlimit := (not_congr htarget_iff).mp htarget_ne
    exact iff_of_true hlimit (.inr (not_lt.mp hlimit))

end Defined

namespace ParsedChainSpec

variable {self : ParsedChainSpec}

/-- A parent without a base fee hands none on, one that used no gas hands its own on, and one whose
gas limit is at least the elasticity multiplier has a gas target. -/
def HasNextBaseFee (self : ParsedChainSpec) (parent : Header) (timestamp : U64) : Prop :=
  parent.baseFeePerGas = none ∨ parent.gasUsed = 0 ∨
    (self.baseFeeParamsAtTimestamp timestamp).elasticityMultiplier.toNat ≤ parent.gasLimit.toNat

/-- The check of a header looks at the base fee of the parent. -/
def ComparesBaseFee (self : ParsedChainSpec) (header : Header) : Prop :=
  self.isLondonActiveAtBlock header.number = true ∧ header.baseFeePerGas ≠ none ∧
    self.londonTransitionsAtBlock header.number = false

/-- The next base fee exists exactly if its parent has one. -/
theorem nextBlockBaseFee_succeeds_iff {timestamp : U64}
    (hparams : (self.baseFeeParamsAtTimestamp timestamp).Positive) (parent : Header) :
    (∃ fee, self.nextBlockBaseFee parent timestamp = .ok fee) ↔
      self.HasNextBaseFee parent timestamp := by
  unfold nextBlockBaseFee HasNextBaseFee
  cases parent.baseFeePerGas with
  | none => exact iff_of_true ⟨none, rfl⟩ (.inl rfl)
  | some baseFee =>
    have hcalc := calcNextBlockBaseFee_succeeds_iff hparams parent.gasUsed parent.gasLimit baseFee
    simp only [Except.map_eq_ok_iff, reduceCtorEq, false_or, ← hcalc]
    exact ⟨fun ⟨_, fee, h, _⟩ => ⟨fee, h⟩, fun ⟨fee, h⟩ => ⟨some fee, fee, h, rfl⟩⟩

/-- The check of a base fee is defined if it does not look at the parent, or the parent has a next
base fee. -/
theorem validateBaseFee_succeeds_iff {header : Header}
    (hparams : (self.baseFeeParamsAtTimestamp header.timestamp).Positive) (parent : Header) :
    (∃ result, self.validateAgainstParentEip1559BaseFee header parent = .ok result) ↔
      (self.ComparesBaseFee header → self.HasNextBaseFee parent header.timestamp) := by
  have hnext := nextBlockBaseFee_succeeds_iff hparams parent
  unfold validateAgainstParentEip1559BaseFee ComparesBaseFee
  cases self.isLondonActiveAtBlock header.number with
  | false => exact iff_of_true ⟨_, rfl⟩ fun h => absurd h.1 Bool.false_ne_true
  | true =>
    cases header.baseFeePerGas with
    | none => exact iff_of_true ⟨_, rfl⟩ fun h => absurd rfl h.2.1
    | some baseFee =>
      cases self.londonTransitionsAtBlock header.number with
      | true => exact iff_of_true ⟨_, rfl⟩ fun h => absurd h.2.2 Bool.true_eq_false_eq_False
      | false =>
        refine bind_succeeds_iff.trans (hnext.trans ?_)
        exact ⟨fun h _ => h, fun h => h ⟨rfl, nofun, rfl⟩⟩

/-- From London on, a check that is defined is the one of the answers that the chain specification
gives. -/
theorem validateBaseFee_eq_rethChecks {header parent : Header} {rest : ChainSpec}
    {result : Except ConsensusError Unit}
    (hlondon : self.isLondonActiveAtBlock header.number = true)
    (h : self.validateAgainstParentEip1559BaseFee header parent = .ok result) :
    result = EvolveConsensus.rethChecks.validateAgainstParentEip1559BaseFee header parent
      (self.answers rest) := by
  unfold validateAgainstParentEip1559BaseFee at h
  rw [if_pos hlondon] at h
  simp only [EvolveConsensus.rethChecks, answers, ChainSpec.baseFeeAfter]
  cases hbaseFee : header.baseFeePerGas with
  | none =>
    rw [hbaseFee] at h
    exact (Except.ok.inj h).symm
  | some baseFee =>
    simp only [hbaseFee] at h
    -- at the London block the fee is the initial one, behind it that which follows from the parent
    split_ifs at h ⊢ with htransition
    · obtain rfl := Except.ok.inj h
      simp only [ne_comm]
    · obtain ⟨expected, hexpected, h⟩ := Except.bind_eq_ok_iff.mp h
      obtain rfl := Except.ok.inj h
      rw [hexpected]
      cases expected with
      | none => rfl
      | some expected => simp only [ne_comm, Except.toOption, Option.join_some]

/-- For a genesis that is accepted, the base fee of the next block and the check of a base fee are
defined exactly if the parent has a next base fee. All parents with a valid gas limit have one
exactly if the elasticity multiplier is at most the smallest valid gas limit. -/
theorem baseFee_defined_iff {parseGenesis : String → Except Report Genesis} {input : String}
    (h : parseCustomChainSpec parseGenesis input = .ok self) :
    (∀ rest parent attributes, (∃ env, self.nextEvmEnv rest parent attributes = .ok env) ↔
        self.HasNextBaseFee parent attributes.timestamp) ∧
      (∀ header parent,
        (∃ result, self.validateAgainstParentEip1559BaseFee header parent = .ok result) ↔
          (self.ComparesBaseFee header → self.HasNextBaseFee parent header.timestamp)) ∧
      ∀ timestamp,
        (∀ parent : Header, minimumGasLimit ≤ parent.gasLimit.toNat →
          parent.gasUsed.toNat ≤ parent.gasLimit.toNat → self.HasNextBaseFee parent timestamp) ↔
          (self.baseFeeParamsAtTimestamp timestamp).elasticityMultiplier.toNat ≤
            minimumGasLimit := by
  have hparams := positive_of_parseCustomChainSpec h
  refine ⟨fun rest parent attributes => ?_, fun header parent => ?_, fun timestamp => ?_⟩
  · exact bind_succeeds_iff.trans (nextBlockBaseFee_succeeds_iff (hparams _) parent)
  · exact validateBaseFee_succeeds_iff (hparams _) parent
  · constructor
    · intro hall
      -- the smallest gas limit, with some gas used
      rcases hall { gasLimit := 5000, gasUsed := 1, baseFeePerGas := some 0 } le_rfl
        (by decide) with hnone | hused | hle
      · cases hnone
      · exact absurd hused (by decide)
      · exact hle
    · intro hle parent hlimit _
      exact .inr (.inr (hle.trans hlimit))

/-- A genesis with an elasticity multiplier, and London from the start. -/
def elasticGenesis (elasticity : U64) : Genesis :=
  { londonBlock := some 0
    evolve := some (.ok { baseFeeElasticityMultiplier := some elasticity }) }

/-- The chain specification of `elasticGenesis`. -/
def elasticChain (elasticity : U64) : ParsedChainSpec :=
  { genesis := elasticGenesis elasticity
    baseFeeParams := .constant
      { maxChangeDenominator := 8, elasticityMultiplier := elasticity.setWidth 128 } }

/-- With the elasticity multiplier `10` the block after one with a transfer has a base fee. -/
theorem baseFee_defined_ten :
    ∃ env, (elasticChain 10).nextEvmEnv ChainSpec.cancunFromGenesis
      { gasLimit := 30000000, gasUsed := 21000, baseFeePerGas := some 7 }
      (ChainSpec.attributesAtSlot none) = .ok env := by
  have hparse : parseCustomChainSpec (fun _ => .ok (elasticGenesis 10)) "genesis.json" =
      .ok (elasticChain 10) := rfl
  exact ((baseFee_defined_iff hparse).1 ChainSpec.cancunFromGenesis _ _).mpr
    (.inr (.inr (by decide)))

/-- A genesis whose elasticity multiplier is one above the gas limit is accepted. After a block with
a transfer, neither the next environment nor the check of a base fee is defined. -/
theorem baseFee_undefined_elastic :
    parseCustomChainSpec (fun _ => .ok (elasticGenesis 30000001)) "genesis.json" =
        .ok (elasticChain 30000001) ∧
      (elasticChain 30000001).nextEvmEnv ChainSpec.cancunFromGenesis
          { gasLimit := 30000000, gasUsed := 21000, baseFeePerGas := some 7 }
          (ChainSpec.attributesAtSlot none) = .error ⟨⟩ ∧
      (elasticChain 30000001).validateAgainstParentEip1559BaseFee
          { number := 1, baseFeePerGas := some 7 }
          { gasLimit := 30000000, gasUsed := 21000, baseFeePerGas := some 7 } = .error ⟨⟩ :=
  ⟨rfl, rfl, rfl⟩

end ParsedChainSpec

end EvReth
