import EvReth.Deployer.Config
import Mathlib.Order.Basic

/-!
# The state file of a deployment

`bin/ev-deployer/src/deploy/state.rs`: what the deploy pipeline records between runs, and the check
of a later configuration against the one of the first run.
-/

namespace EvReth.Deployer

/-- `STATE_VERSION`. -/
def stateVersion : ℕ := 1

/-- `ContractStatus`. -/
inductive ContractStatus where
  | pending
  | deployed
  | verified
  deriving DecidableEq, Repr

namespace ContractStatus

/-- The place of a status in the order of their declaration. -/
def rank : ContractStatus → ℕ
  | pending => 0
  | deployed => 1
  | verified => 2

/-- Different states of a contract have different ranks. -/
theorem rank_injective : Function.Injective rank := by
  intro a b h
  cases a <;> cases b <;> first | rfl | cases h

instance : PartialOrder ContractStatus := .lift rank rank_injective

instance : DecidableLE ContractStatus := fun a b => inferInstanceAs (Decidable (a.rank ≤ b.rank))

theorem le_verified (status : ContractStatus) : status ≤ verified := by
  cases status <;> decide

/-- A contract is not deployed again exactly if its status is one of two. -/
theorem deployed_le_iff {status : ContractStatus} :
    deployed ≤ status ↔ status = deployed ∨ status = verified := by
  cases status <;> decide

end ContractStatus

/-- `ContractState`. -/
structure ContractState where
  status : ContractStatus
  address : Address
  deployTx : Option B256
  deriving DecidableEq, Repr

/-- `ContractStates`. -/
structure ContractStates where
  permit2 : Option ContractState := none
  deriving DecidableEq, Repr

/-- `AppliedPermit2`. -/
structure AppliedPermit2 where
  deriving DecidableEq, Repr

/-- `AppliedIntent`. -/
structure AppliedIntent where
  chainId : U64
  permit2 : Option AppliedPermit2
  deriving DecidableEq, Repr

/-- `from_config`. -/
def AppliedIntent.fromConfig (config : DeployConfig) : AppliedIntent where
  chainId := config.chain.chainId
  permit2 := config.contracts.permit2.map fun _ => {}

/-- `DeployState`. -/
structure DeployState where
  version : ℕ
  create2Salt : B256
  appliedIntent : AppliedIntent
  contracts : ContractStates := {}
  deriving DecidableEq, Repr

namespace DeployState

/-- `DeployState::new`, with the random salt. -/
def new (config : DeployConfig) (salt : B256) : DeployState where
  version := stateVersion
  create2Salt := salt
  appliedIntent := .fromConfig config

/-- The check of `load`. -/
def checkVersion (state : DeployState) : Except Failure DeployState := do
  ensure (state.version = stateVersion)
    ("unsupported state version: " ++ toString state.version ++ " (expected " ++
      toString stateVersion ++ ")")
  return state

/-- `validate_immutability`. -/
def validateImmutability (self : DeployState) (config : DeployConfig) : Except Failure Unit := do
  let current := self.appliedIntent
  ensure (config.chain.chainId = current.chainId)
    ("immutability violation: chain_id changed from " ++ toString current.chainId.toNat ++
      " to " ++ toString config.chain.chainId.toNat)
  if current.permit2.isSome then
    ensure config.contracts.permit2.isSome
      "immutability violation: permit2 was configured but is now missing"

/-- A configuration is rejected exactly if it is for another chain or lacks a contract of the first
one. -/
theorem validateImmutability_eq_ok_iff {self : DeployState} {config : DeployConfig} :
    self.validateImmutability config = .ok () ↔
      config.chain.chainId = self.appliedIntent.chainId ∧
        (self.appliedIntent.permit2.isSome → config.contracts.permit2.isSome) := by
  rw [validateImmutability, Except.check_eq_ok_iff, ensure_eq_ok_iff]
  refine and_congr_right fun _ => ?_
  split_ifs with h
  · simp only [ensure_eq_ok_iff, h, forall_const]
  · simp only [h, Bool.false_eq_true, false_implies, iff_true]
    rfl

/-- In a rejection the reports are those of the two rules. -/
theorem validateImmutability_eq_error_iff {self : DeployState} {config : DeployConfig}
    {e : Failure} : self.validateImmutability config = .error e ↔
      (config.chain.chainId ≠ self.appliedIntent.chainId ∧
        e = .report ("immutability violation: chain_id changed from " ++
          toString self.appliedIntent.chainId.toNat ++ " to " ++
          toString config.chain.chainId.toNat)) ∨
      (config.chain.chainId = self.appliedIntent.chainId ∧
        self.appliedIntent.permit2.isSome ∧ ¬config.contracts.permit2.isSome ∧
        e = .report "immutability violation: permit2 was configured but is now missing") := by
  rw [validateImmutability]
  by_cases hchain : config.chain.chainId = self.appliedIntent.chainId <;>
    by_cases hintent : self.appliedIntent.permit2.isSome <;>
      by_cases hconfig : config.contracts.permit2.isSome <;>
        simp [ensure, hchain, hintent, hconfig, bind, Except.bind, pure, Except.pure, eq_comm]

end DeployState

end EvReth.Deployer
