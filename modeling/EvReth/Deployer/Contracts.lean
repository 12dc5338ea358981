import EvReth.Deployer.Config

/-!
# The contracts of the deployer

`bin/ev-deployer/src/contracts`: the contracts as they stand in a genesis, and the runtime bytecode
that Permit2 has on a chain. Solidity's immutables are part of the bytecode; the deployer writes
them over the zeros of the compiled one.
-/

namespace EvReth.Deployer

/-- The compiled contracts that the sources embed, and Keccak-256. -/
structure Artifacts where
  keccak256 : Bytes → B256
  adminProxyBytecode : Bytes
  permit2Bytecode : Bytes
  permit2Initcode : Bytes

/-- `DETERMINISTIC_DEPLOYER_BYTECODE`. -/
def deterministicDeployerBytecode : Bytes :=
  wordBytes (0x7fffffffffffffffffffffffffffffffffffffffffffffffffffffffffffffffe0 : BitVec 264) ++
    wordBytes (0x3601600081602082378035828234f58015156039 : BitVec 160) ++
    wordBytes (0x578182fd5b80825250506014600cf3 : BitVec 120)

/-! ## Immutables -/

/-- `ImmutableRef`. -/
structure ImmutableRef where
  start : ℕ
  length : ℕ
  deriving DecidableEq, Repr

/-- `patch_bytes`. Copying a word over a slice of another length panics. -/
def patchBytes (bytecode : Bytes) (value : B256) : List ImmutableRef → Except Failure Bytes
  | [] => .ok bytecode
  | r :: refs =>
    if bytecode.length < r.start + r.length then
      .error (.panic ("immutable ref out of bounds: start=" ++ toString r.start ++
        " length=" ++ toString r.length ++ " bytecode_len=" ++ toString bytecode.length))
    else if (wordBytes value).length ≠ r.length then
      .error (.panic "source slice length does not match destination slice length")
    else
      patchBytes (bytecode.take r.start ++ wordBytes value ++ bytecode.drop (r.start + r.length))
        value refs

/-- `CACHED_CHAIN_ID_REFS`. -/
def cachedChainIdRefs : List ImmutableRef := [⟨6945, 32⟩]

/-- `CACHED_DOMAIN_SEPARATOR_REFS`. -/
def cachedDomainSeparatorRefs : List ImmutableRef := [⟨6983, 32⟩]

/-- `EIP712_TYPE_HASH`. -/
def eip712TypeHash : B256 := 0x8cad95687ba82c2ce50e74f7b754645e5117c3a5bec8151c0726d5857980a866

/-- `HASHED_NAME`. -/
def hashedName : B256 := 0x9ac997416e8ff9d2ff6bebeb7149f65cdae5e32e2b90440b566bb3044041d36a

namespace Artifacts

variable (artifacts : Artifacts)

/-- The domain separator of Permit2. -/
def domainSeparator (chainId : U64) (address : Address) : B256 :=
  artifacts.keccak256 (wordBytes eip712TypeHash ++ wordBytes hashedName ++
    wordBytes (chainId.setWidth 256) ++ wordBytes (address.setWidth 256))

/-- `expected_runtime_bytecode`. -/
def expectedRuntimeBytecode (chainId : U64) (address : Address) : Except Failure Bytes := do
  let bytecode ←
    patchBytes artifacts.permit2Bytecode (chainId.setWidth 256) cachedChainIdRefs
  patchBytes bytecode (artifacts.domainSeparator chainId address) cachedDomainSeparatorRefs

end Artifacts

/-- A word that fits is written over the bytes in its place. -/
theorem patchBytes_singleton {bytecode : Bytes} (value : B256) {start : ℕ}
    (h : start + 32 ≤ bytecode.length) :
    ∃ patched, patchBytes bytecode value [⟨start, 32⟩] = .ok patched ∧
      patched.length = bytecode.length := by
  have hword : (wordBytes value).length = 32 := length_wordBytes value
  refine ⟨bytecode.take start ++ wordBytes value ++ bytecode.drop (start + 32), ?_, ?_⟩
  · simp only [patchBytes]
    rw [if_neg (by omega), if_neg (by omega)]
  · simp only [List.length_append, List.length_take, List.length_drop, hword]
    omega

/-- The bytecode that the sources embed is long enough for both immutables, so that patching it
does not panic. -/
theorem Artifacts.expectedRuntimeBytecode_succeeds {artifacts : Artifacts} {chainId : U64}
    {address : Address} (h : 7015 ≤ artifacts.permit2Bytecode.length) :
    ∃ runtime, artifacts.expectedRuntimeBytecode chainId address = .ok runtime ∧
      runtime.length = artifacts.permit2Bytecode.length := by
  obtain ⟨patched, hpatched, hlength⟩ := patchBytes_singleton (chainId.setWidth 256)
    (show 6945 + 32 ≤ artifacts.permit2Bytecode.length by omega)
  obtain ⟨runtime, hruntime, hlength'⟩ := patchBytes_singleton
    (artifacts.domainSeparator chainId address)
    (show 6983 + 32 ≤ patched.length by omega)
  exact ⟨runtime, Except.bind_eq_ok_iff.mpr ⟨patched, hpatched, hruntime⟩, hlength'.trans hlength⟩

/-- A patch within the bytecode keeps its length. -/
theorem patchBytes_singleton_eq_ok {bytecode patched : Bytes} {value : B256} {start : ℕ}
    (h : patchBytes bytecode value [⟨start, 32⟩] = .ok patched) :
    start + 32 ≤ patched.length ∧ patched.length = bytecode.length := by
  by_cases hfits : start + 32 ≤ bytecode.length
  · obtain ⟨patched', hpatched, hlength⟩ := patchBytes_singleton value hfits
    obtain rfl := Except.ok.inj (hpatched.symm.trans h)
    exact ⟨hlength ▸ hfits, hlength⟩
  · simp only [patchBytes] at h
    rw [if_pos (by omega)] at h
    cases h

/-- An account without code does not have the expected bytecode. -/
theorem Artifacts.expectedRuntimeBytecode_ne_nil {artifacts : Artifacts} {chainId : U64}
    {address : Address} {runtime : Bytes}
    (h : artifacts.expectedRuntimeBytecode chainId address = .ok runtime) : runtime ≠ [] := by
  obtain ⟨patched, -, hruntime⟩ := Except.bind_eq_ok_iff.mp h
  have hlength := (patchBytes_singleton_eq_ok hruntime).1
  rintro rfl
  cases hlength

/-! ## Contracts at genesis -/

/-- `GenesisContract`. The storage lists a sorted map. -/
structure GenesisContract where
  address : Address
  code : Bytes
  storage : List (B256 × B256)

/-- `expect("address required for genesis")`. -/
def expectAddress : Option Address → Except Failure Address
  | some address => .ok address
  | none => .error (.panic "address required for genesis")

namespace Artifacts

variable (artifacts : Artifacts)

/-- `admin_proxy::build`. -/
def buildAdminProxy (config : AdminProxyConfig) : Except Failure GenesisContract := do
  let address ← expectAddress config.address
  return { address, code := artifacts.adminProxyBytecode,
           -- slot `0` is the owner
           storage := [(0, config.owner.setWidth 256)] }

/-- `permit2::build`. -/
def buildPermit2 (config : Permit2Config) (chainId : U64) : Except Failure GenesisContract := do
  let address ← expectAddress config.address
  let code ← artifacts.expectedRuntimeBytecode chainId address
  return { address, code, storage := [] }

end Artifacts

/-- `deterministic_deployer::build`. -/
def buildDeterministicDeployer (config : DeterministicDeployerConfig) :
    Except Failure GenesisContract := do
  let address ← expectAddress config.address
  return { address, code := deterministicDeployerBytecode, storage := [] }

/-- A contract that is not configured is not built. -/
def buildConfigured {α : Type} (build : α → Except Failure GenesisContract) :
    Option α → Except Failure (List GenesisContract)
  | none => .ok []
  | some config => (build config).map ([·])

/-- The contracts of a configuration, as `build_alloc` builds them. -/
def Artifacts.genesisContracts (artifacts : Artifacts) (config : DeployConfig) :
    Except Failure (List GenesisContract) := do
  let adminProxy ← buildConfigured artifacts.buildAdminProxy config.contracts.adminProxy
  let permit2 ← buildConfigured (artifacts.buildPermit2 · config.chain.chainId)
    config.contracts.permit2
  let deterministicDeployer ←
    buildConfigured buildDeterministicDeployer config.contracts.deterministicDeployer
  return adminProxy ++ permit2 ++ deterministicDeployer

theorem expectAddress_eq_ok_iff {configured : Option Address} {address : Address} :
    expectAddress configured = .ok address ↔ configured = some address := by
  cases configured <;> simp [expectAddress]

/-- A contract is placed at its configured address. -/
theorem buildConfigured_addresses {α : Type} {build : α → Except Failure GenesisContract}
    {address : α → Option Address}
    (hbuild : ∀ config contract, build config = .ok contract →
      address config = some contract.address)
    {configured : Option α} {contracts : List GenesisContract}
    (h : buildConfigured build configured = .ok contracts) :
    contracts.map (·.address) = (configured.bind address).toList := by
  cases configured with
  | none =>
    obtain rfl := Except.ok.inj h
    rfl
  | some config =>
    obtain ⟨contract, hcontract, rfl⟩ := Except.map_eq_ok_iff.mp h
    simp [hbuild config contract hcontract]

/-- The contracts stand at the configured addresses, in their order. -/
theorem Artifacts.genesisContracts_addresses {artifacts : Artifacts} {config : DeployConfig}
    {contracts : List GenesisContract} (h : artifacts.genesisContracts config = .ok contracts) :
    contracts.map (·.address) = config.contracts.allAddresses := by
  simp only [genesisContracts, Except.bind_eq_ok_iff] at h
  obtain ⟨adminProxy, hadmin, permit2, hpermit2, deployer, hdeployer, h⟩ := h
  obtain rfl := Except.ok.inj h
  rw [List.map_append, List.map_append, ContractsConfig.allAddresses]
  -- contract by contract: what is built stands at the address that was expected
  congr 1
  · congr 1
    · refine buildConfigured_addresses (fun config contract hbuild => ?_) hadmin
      obtain ⟨address, haddress, hbuild⟩ := Except.bind_eq_ok_iff.mp hbuild
      obtain rfl := Except.ok.inj hbuild
      exact expectAddress_eq_ok_iff.mp haddress
    · refine buildConfigured_addresses (fun config contract hbuild => ?_) hpermit2
      obtain ⟨address, haddress, hbuild⟩ := Except.bind_eq_ok_iff.mp hbuild
      obtain ⟨code, -, hbuild⟩ := Except.bind_eq_ok_iff.mp hbuild
      obtain rfl := Except.ok.inj hbuild
      exact expectAddress_eq_ok_iff.mp haddress
  · refine buildConfigured_addresses (fun config contract hbuild => ?_) hdeployer
    obtain ⟨address, haddress, hbuild⟩ := Except.bind_eq_ok_iff.mp hbuild
    obtain rfl := Except.ok.inj hbuild
    exact expectAddress_eq_ok_iff.mp haddress

theorem expectAddress_succeeds {configured : Option Address} (h : configured.isSome) :
    (expectAddress configured).Succeeds := by
  obtain ⟨address, rfl⟩ := Option.isSome_iff_exists.mp h
  exact ⟨address, rfl⟩

/-- What is not configured is not built; what is, can be. -/
theorem buildConfigured_succeeds {α : Type} {build : α → Except Failure GenesisContract}
    {configured : Option α} (h : ∀ config ∈ configured, (build config).Succeeds) :
    (buildConfigured build configured).Succeeds := by
  cases configured with
  | none => exact Except.succeeds_pure
  | some config =>
    obtain ⟨contract, hcontract⟩ := h config rfl
    exact ⟨[contract], Except.map_eq_ok_iff.mpr ⟨contract, hcontract, rfl⟩⟩

/-- What `validate_for_genesis` accepts is built without a panic. -/
theorem Artifacts.genesisContracts_succeeds {artifacts : Artifacts} {config : DeployConfig}
    (hlength : 7015 ≤ artifacts.permit2Bytecode.length)
    (h : config.validateForGenesis = .ok ()) : (artifacts.genesisContracts config).Succeeds := by
  obtain ⟨hadmin, hpermit2, hdeployer⟩ := DeployConfig.validateForGenesis_eq_ok_iff.mp h
  -- an address that is set is all that a contract needs, but for the patched code of Permit2
  refine (buildConfigured_succeeds fun config hconfig => ?_).bind fun adminProxy =>
    (buildConfigured_succeeds fun config hconfig => ?_).bind fun permit2 =>
      (buildConfigured_succeeds fun config hconfig => ?_).bind fun deployer =>
        Except.succeeds_pure
  · exact (expectAddress_succeeds (hadmin config hconfig)).bind fun _ => Except.succeeds_pure
  · refine (expectAddress_succeeds (hpermit2 config hconfig)).bind fun address => ?_
    obtain ⟨runtime, hruntime, -⟩ := expectedRuntimeBytecode_succeeds hlength
    exact Except.Succeeds.bind ⟨runtime, hruntime⟩ fun _ => Except.succeeds_pure
  · exact (expectAddress_succeeds (hdeployer config hconfig)).bind fun _ => Except.succeeds_pure

end EvReth.Deployer
