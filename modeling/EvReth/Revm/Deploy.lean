import EvReth.Foundations.BinarySearch
import EvReth.Primitives.Basic

/-!
# The deploy allowlist

`crates/ev-revm/src/deploy.rs`: contract creation by a transaction can be restricted to a list of
callers from an activation height on.
-/

namespace EvReth

/-- `DeployAllowlistSettings`. The list is sorted. -/
structure DeployAllowlistSettings where
  allowlist : List Address
  activationHeight : U64
  sorted : allowlist.Pairwise (fun a b => a.toNat ≤ b.toNat)

namespace DeployAllowlistSettings

variable (self : DeployAllowlistSettings)

/-- `new`. -/
def new (allowlist : List Address) (activationHeight : U64) : DeployAllowlistSettings :=
  { allowlist := allowlist.mergeSort (fun a b => a.toNat ≤ b.toNat)
    activationHeight
    sorted := by
      have h : (allowlist.mergeSort (fun a b => a.toNat ≤ b.toNat)).Pairwise
          (fun a b => decide (a.toNat ≤ b.toNat) = true) := List.pairwise_mergeSort
        (fun _ _ _ hab hbc => by simp only [decide_eq_true_eq] at *; omega)
        (fun _ _ => by simp only [Bool.or_eq_true, decide_eq_true_eq]; omega) allowlist
      simpa using h }

/-- `is_active`. -/
def isActive (blockNumber : U64) : Bool := self.activationHeight.toNat ≤ blockNumber.toNat

/-- `is_allowed`. -/
def isAllowed (caller : Address) : Bool :=
  self.allowlist.isEmpty ||
    (self.allowlist.binarySearchBy fun a => compare a.toNat caller.toNat).isSome

/-- The binary search of the sorted list is a membership test. -/
theorem isAllowed_iff {caller : Address} :
    self.isAllowed caller = true ↔ self.allowlist = [] ∨ caller ∈ self.allowlist := by
  have hsorted : self.allowlist.SortedBy fun a => compare a.toNat caller.toNat := by
    refine self.sorted.imp fun {a b} hab => ⟨fun hlt => ?_, fun hgt => ?_⟩
    · rw [compare_lt_iff_lt] at hlt ⊢
      omega
    · rw [compare_gt_iff_gt] at hgt ⊢
      omega
  rw [isAllowed, Bool.or_eq_true, List.isEmpty_iff, List.isSome_binarySearchBy_iff hsorted]
  refine or_congr_right ⟨?_, fun hmem => ⟨caller, hmem, compare_eq_iff_eq.mpr rfl⟩⟩
  rintro ⟨a, hmem, heq⟩
  obtain rfl : a = caller := BitVec.eq_of_toNat_eq (compare_eq_iff_eq.mp heq)
  exact hmem

theorem mem_new {allowlist : List Address} {activationHeight : U64} {a : Address} :
    a ∈ (new allowlist activationHeight).allowlist ↔ a ∈ allowlist :=
  List.mem_mergeSort

/-- Sorting does not change who is allowed. -/
theorem isAllowed_new_iff {allowlist : List Address} {activationHeight : U64} {caller : Address} :
    (new allowlist activationHeight).isAllowed caller = true ↔
      allowlist = [] ∨ caller ∈ allowlist := by
  rw [isAllowed_iff, mem_new, List.eq_nil_iff_forall_not_mem, List.eq_nil_iff_forall_not_mem]
  simp only [mem_new]

end DeployAllowlistSettings

/-- `DeployCheckError`. -/
inductive DeployCheckError where
  | notAllowed
  deriving DecidableEq, Repr

/-- `check_deploy_allowed`. -/
def checkDeployAllowed (settings : Option DeployAllowlistSettings) (caller : Address)
    (isTopLevelCreate : Bool) (blockNumber : U64) : Except DeployCheckError Unit :=
  if !isTopLevelCreate then .ok ()
  else
    match settings with
    | none => .ok ()
    | some settings =>
      if !settings.isActive blockNumber then .ok ()
      else if settings.isAllowed caller then .ok ()
      else .error .notAllowed

end EvReth
