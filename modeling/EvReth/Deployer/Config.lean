import EvReth.Foundations.Hex
import EvReth.Foundations.StateExcept
import EvReth.Primitives.Encoding

/-!
# The deploy configuration

`bin/ev-deployer/src/config.rs`, with the text of addresses that its messages and the genesis
builder write. Text is a list of characters. An `eyre` report is its message, and a failed
`assert!` or `expect` a panic.
-/

namespace EvReth.Deployer

/-- Text. -/
abbrev Text := List Char

/-- How a function of the deployer fails: with a report that is returned, or by a panic. -/
inductive Failure where
  | report (msg : String)
  | panic (msg : String)
  deriving DecidableEq, Repr

/-- `eyre::ensure!`. -/
def ensure (p : Prop) [Decidable p] (msg : String) : Except Failure Unit :=
  if p then .ok () else .error (.report msg)

theorem ensure_eq_ok_iff {p : Prop} [Decidable p] {msg : String} : ensure p msg = .ok () ↔ p := by
  unfold ensure
  split_ifs with h <;> simp [h]

/-- `hex::encode`. -/
def hexEncode (bs : Bytes) : Text := (Hex.ofBytes bs).map fun d => Nat.digitChar d.val

/-! ## The text of an address -/

/-- An address in lower case, without `0x`. -/
@[irreducible] def addressHex (address : Address) : Text := hexEncode (wordBytes address)

/-- `Display` of an address: the checksum capitalises a letter if the digit of the hash in its place
is at least eight. -/
def displayAddress (keccak256 : Bytes → B256) (address : Address) : Text :=
  let digits := addressHex address
  let hash := keccak256 (digits.map fun c => UInt8.ofNat c.toNat)
  '0' :: 'x' :: List.zipWith (fun c d => if 8 ≤ d.val then c.toUpper else c) digits
    (Hex.ofBytes (wordBytes hash))

theorem digitChar_injective : Function.Injective fun d : Fin 16 => Nat.digitChar d.val := by
  decide

theorem hexEncode_injective : Function.Injective hexEncode := by
  intro bs cs h
  have hdigits := List.map_injective_iff.mpr digitChar_injective h
  rw [← Hex.toBytes_ofBytes bs, hdigits, Hex.toBytes_ofBytes]

/-- Different addresses are written differently. -/
theorem addressHex_injective : Function.Injective addressHex := by
  intro a b h
  rw [addressHex, addressHex] at h
  have hbytes := hexEncode_injective h
  rw [← wordOfBytes_wordBytes (k := 20) rfl a, hbytes, wordOfBytes_wordBytes (k := 20) rfl]

/-- A digit does not look like the `x` of `0x`, and neither of its cases is lost. -/
theorem digitChar_facts (d : Fin 16) :
    d.val.digitChar ≠ 'x' ∧ d.val.digitChar.toNat < 128 ∧
      d.val.digitChar.toUpper.toNat < 128 ∧ d.val.digitChar.toLower = d.val.digitChar ∧
      d.val.digitChar.toUpper.toLower = d.val.digitChar := by
  revert d
  decide

/-! ## The configuration -/

/-- `ChainConfig`. -/
structure ChainConfig where
  chainId : U64
  deriving DecidableEq, Repr

/-- `AdminProxyConfig`. -/
structure AdminProxyConfig where
  address : Option Address
  owner : Address
  deriving DecidableEq, Repr

/-- `Permit2Config`. -/
structure Permit2Config where
  address : Option Address
  deriving DecidableEq, Repr

/-- `DeterministicDeployerConfig`. -/
structure DeterministicDeployerConfig where
  address : Option Address
  deriving DecidableEq, Repr

/-- `ContractsConfig`. -/
structure ContractsConfig where
  adminProxy : Option AdminProxyConfig := none
  permit2 : Option Permit2Config := none
  deterministicDeployer : Option DeterministicDeployerConfig := none
  deriving DecidableEq, Repr

/-- `all_addresses`. -/
def ContractsConfig.allAddresses (self : ContractsConfig) : List Address :=
  (self.adminProxy.bind (·.address)).toList ++ (self.permit2.bind (·.address)).toList ++
    (self.deterministicDeployer.bind (·.address)).toList

/-- `DeployConfig`. -/
structure DeployConfig where
  chain : ChainConfig
  contracts : ContractsConfig := {}
  deriving DecidableEq, Repr

namespace DeployConfig

/-- A contract's field is checked if the contract is configured. -/
def ensureField {α : Type} (contract : Option α) (p : α → Prop) [DecidablePred p] (msg : String) :
    Except Failure Unit :=
  ensure (∀ c ∈ contract, p c) msg

/-- The loop of `validate` over all addresses, after those that were seen. -/
def ensureDistinct (keccak256 : Bytes → B256) :
    List Address → List Address → Except Failure Unit
  | _, [] => .ok ()
  | seen, address :: rest => do
    ensure (¬seen.contains address)
      ("duplicate deploy address: " ++ String.ofList (displayAddress keccak256 address))
    ensureDistinct keccak256 (address :: seen) rest

/-- `validate`. -/
def validate (self : DeployConfig) (keccak256 : Bytes → B256) : Except Failure Unit := do
  ensureField self.contracts.adminProxy (·.owner ≠ 0)
    "admin_proxy.owner must not be the zero address"
  ensureField self.contracts.permit2 (·.address ≠ some 0)
    "permit2.address must not be the zero address"
  ensureField self.contracts.deterministicDeployer (·.address ≠ some 0)
    "deterministic_deployer.address must not be the zero address"
  ensureDistinct keccak256 [] self.contracts.allAddresses

/-- `validate_for_genesis`. -/
def validateForGenesis (self : DeployConfig) : Except Failure Unit := do
  ensureField self.contracts.adminProxy (·.address.isSome)
    "admin_proxy.address is required for genesis mode"
  ensureField self.contracts.permit2 (·.address.isSome)
    "permit2.address is required for genesis mode"
  ensureField self.contracts.deterministicDeployer (·.address.isSome)
    "deterministic_deployer.address is required for genesis mode"

/-- The check passes if no address occurs twice or was seen before. -/
theorem ensureDistinct_eq_ok_iff {keccak256 : Bytes → B256} {seen addresses : List Address} :
    ensureDistinct keccak256 seen addresses = .ok () ↔
      addresses.Nodup ∧ ∀ address ∈ addresses, address ∉ seen := by
  induction addresses generalizing seen with
  | nil => simp [ensureDistinct]
  | cons address rest ih =>
    rw [ensureDistinct, Except.check_eq_ok_iff, ensure_eq_ok_iff, ih, List.nodup_cons,
      List.contains_iff_mem]
    simp only [List.mem_cons, not_or]
    grind

/-- A contract that is not configured passes every check. -/
theorem ensureField_eq_ok_iff {α : Type} {contract : Option α} {p : α → Prop} [DecidablePred p]
    {msg : String} : ensureField contract p msg = .ok () ↔ ∀ c ∈ contract, p c :=
  ensure_eq_ok_iff

/-- What a validated configuration satisfies. -/
theorem validate_eq_ok_iff {self : DeployConfig} {keccak256 : Bytes → B256} :
    self.validate keccak256 = .ok () ↔
      (∀ ap ∈ self.contracts.adminProxy, ap.owner ≠ 0) ∧
      (∀ p2 ∈ self.contracts.permit2, p2.address ≠ some 0) ∧
      (∀ dd ∈ self.contracts.deterministicDeployer, dd.address ≠ some 0) ∧
      self.contracts.allAddresses.Nodup := by
  simp [validate, Except.check_eq_ok_iff, ensureField_eq_ok_iff, ensureDistinct_eq_ok_iff]

/-- What a configuration for genesis mode satisfies. -/
theorem validateForGenesis_eq_ok_iff {self : DeployConfig} :
    self.validateForGenesis = .ok () ↔
      (∀ ap ∈ self.contracts.adminProxy, ap.address.isSome) ∧
      (∀ p2 ∈ self.contracts.permit2, p2.address.isSome) ∧
      (∀ dd ∈ self.contracts.deterministicDeployer, dd.address.isSome) := by
  simp [validateForGenesis, Except.check_eq_ok_iff, ensureField_eq_ok_iff]

end DeployConfig

end EvReth.Deployer
