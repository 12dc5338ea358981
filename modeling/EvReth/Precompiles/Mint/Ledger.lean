import EvReth.Foundations.Run
import EvReth.Precompiles.Mint.Spec
import Mathlib.Algebra.BigOperators.Group.Finset.Piecewise
import Mathlib.Algebra.Order.BigOperators.Group.Finset

/-!
# The mint precompile as a token ledger

`Ledger` is what the precompile is for: native balances and a set of allowlisted accounts, where an
authorized caller mints and burns and the admin edits the allowlist. `dispatch_refines` shows that a
successful call of the precompile is a successful step of this ledger, and that a failed call leaves
the ledger alone. The behaviour of whole runs of direct calls follows by the rules of `Run`.
-/

namespace EvReth

/-! ## The abstract ledger -/

/-- Native balances and allowlist entries. -/
@[ext]
structure Ledger where
  balance : Address → U256
  allowed : Address → Bool

namespace Ledger

/-- The admin and the allowlisted accounts may mint and burn. -/
def Authorized (admin : Address) (l : Ledger) (caller : Address) : Prop :=
  caller = admin ∨ l.allowed caller = true

instance (admin : Address) (l : Ledger) (caller : Address) :
    Decidable (l.Authorized admin caller) := by
  unfold Authorized
  infer_instance

/-- One call of `caller`, or `none` when the ledger refuses it. -/
def apply (admin : Address) (l : Ledger) (caller : Address) : INativeTokenCalls → Option Ledger
  | .mint dest amount =>
    if l.Authorized admin caller then
      ((l.balance dest).checkedAdd amount).map fun v =>
        { l with balance := Function.update l.balance dest v }
    else none
  | .burn source amount =>
    if l.Authorized admin caller then
      ((l.balance source).checkedSub amount).map fun v =>
        { l with balance := Function.update l.balance source v }
    else none
  | .addToAllowList account =>
    if caller = admin then some { l with allowed := Function.update l.allowed account true }
    else none
  | .removeFromAllowList account =>
    if caller = admin then some { l with allowed := Function.update l.allowed account false }
    else none
  | .allowlist _ => some l

end Ledger

/-! ## What a call does to the balances and the allowlist -/

namespace INativeTokenCalls

/-- The amount a call credits to `a`. -/
def minted (a : Address) : INativeTokenCalls → ℕ
  | .mint dest amount => if dest = a then amount.toNat else 0
  | _ => 0

/-- The amount a call debits from `a`. -/
def burned (a : Address) : INativeTokenCalls → ℕ
  | .burn source amount => if source = a then amount.toNat else 0
  | _ => 0

/-- The amount a call adds to the supply. -/
def mintedTotal : INativeTokenCalls → ℕ
  | .mint _ amount => amount.toNat
  | _ => 0

/-- The amount a call removes from the supply. -/
def burnedTotal : INativeTokenCalls → ℕ
  | .burn _ amount => amount.toNat
  | _ => 0

/-- The allowlist entry a call writes for `a`, if it names `a`. -/
def edit (a : Address) : INativeTokenCalls → Option Bool
  | .addToAllowList account => if account = a then some true else none
  | .removeFromAllowList account => if account = a then some false else none
  | _ => none

theorem sum_minted (op : INativeTokenCalls) : ∑ a, op.minted a = op.mintedTotal := by
  cases op <;> simp [minted, mintedTotal]

theorem sum_burned (op : INativeTokenCalls) : ∑ a, op.burned a = op.burnedTotal := by
  cases op <;> simp [burned, burnedTotal]

end INativeTokenCalls

namespace Ledger

variable {admin caller : Address} {l l' : Ledger} {op : INativeTokenCalls}

/-- A step moves each balance by exactly what the call names. -/
theorem balance_apply (h : l.apply admin caller op = some l') (a : Address) :
    (l'.balance a).toNat + op.burned a = (l.balance a).toNat + op.minted a := by
  cases op with
  | mint dest amount =>
    simp only [apply, Option.ite_none_right_eq_some, Option.map_eq_some_iff] at h
    obtain ⟨-, v, hv, rfl⟩ := h
    -- the checked sum is the exact sum
    have hsum := BitVec.checkedAdd_eq_some_iff.mp hv
    by_cases ha : dest = a
    · subst ha
      simp [INativeTokenCalls.minted, INativeTokenCalls.burned, hsum]
    · simp [INativeTokenCalls.minted, INativeTokenCalls.burned, ha,
        Function.update_of_ne (Ne.symm ha)]
  | burn source amount =>
    simp only [apply, Option.ite_none_right_eq_some, Option.map_eq_some_iff] at h
    obtain ⟨-, v, hv, rfl⟩ := h
    -- the checked difference is the exact difference
    have hsum := BitVec.checkedSub_eq_some_iff.mp hv
    by_cases ha : source = a
    · subst ha
      simp [INativeTokenCalls.minted, INativeTokenCalls.burned, hsum]
    · simp [INativeTokenCalls.minted, INativeTokenCalls.burned, ha,
        Function.update_of_ne (Ne.symm ha)]
  | addToAllowList account =>
    simp only [apply, Option.ite_none_right_eq_some, Option.some.injEq] at h
    obtain ⟨-, rfl⟩ := h
    rfl
  | removeFromAllowList account =>
    simp only [apply, Option.ite_none_right_eq_some, Option.some.injEq] at h
    obtain ⟨-, rfl⟩ := h
    rfl
  | allowlist account =>
    obtain rfl := Option.some.inj h
    rfl

/-- A step changes each allowlist entry exactly as the call names it. -/
theorem allowed_apply (h : l.apply admin caller op = some l') (a : Address) :
    l'.allowed a = (op.edit a).getD (l.allowed a) := by
  -- mints and burns write balances, edits write one entry
  cases op with
  | mint dest amount =>
    simp only [apply, Option.ite_none_right_eq_some, Option.map_eq_some_iff] at h
    obtain ⟨-, v, -, rfl⟩ := h
    rfl
  | burn source amount =>
    simp only [apply, Option.ite_none_right_eq_some, Option.map_eq_some_iff] at h
    obtain ⟨-, v, -, rfl⟩ := h
    rfl
  | addToAllowList account =>
    simp only [apply, Option.ite_none_right_eq_some, Option.some.injEq] at h
    obtain ⟨-, rfl⟩ := h
    by_cases ha : account = a
    · subst ha
      simp [INativeTokenCalls.edit]
    · simp [INativeTokenCalls.edit, ha, Function.update_of_ne (Ne.symm ha)]
  | removeFromAllowList account =>
    simp only [apply, Option.ite_none_right_eq_some, Option.some.injEq] at h
    obtain ⟨-, rfl⟩ := h
    by_cases ha : account = a
    · subst ha
      simp [INativeTokenCalls.edit]
    · simp [INativeTokenCalls.edit, ha, Function.update_of_ne (Ne.symm ha)]
  | allowlist account =>
    obtain rfl := Option.some.inj h
    rfl

/-- Only the admin edits the allowlist. -/
theorem admin_of_edit (h : l.apply admin caller op = some l') {a : Address} {b : Bool}
    (hedit : op.edit a = some b) : caller = admin := by
  cases op <;> simp_all [apply, INativeTokenCalls.edit]

/-- `account` may perform the operation: minting and burning is for authorized accounts, edits are
for the admin, and anyone may query. -/
def Permits (admin : Address) (l : Ledger) (account : Address) : INativeTokenCalls → Prop
  | .mint _ _ | .burn _ _ => l.Authorized admin account
  | .addToAllowList _ | .removeFromAllowList _ => account = admin
  | .allowlist _ => True

/-- The ledger performs only what it permits to the caller. -/
theorem permits_of_apply (h : l.apply admin caller op = some l') : l.Permits admin caller op := by
  cases op with
  | mint dest amount =>
    simp only [apply, Option.ite_none_right_eq_some] at h
    exact h.1
  | burn source amount =>
    simp only [apply, Option.ite_none_right_eq_some] at h
    exact h.1
  | addToAllowList account =>
    simp only [apply, Option.ite_none_right_eq_some] at h
    exact h.1
  | removeFromAllowList account =>
    simp only [apply, Option.ite_none_right_eq_some] at h
    exact h.1
  | allowlist account => trivial

/-- Whoever is permitted an operation that moved a balance is authorized. -/
theorem authorized_of_balance_ne {account a : Address} (h : l.apply admin caller op = some l')
    (hpermits : l.Permits admin account op) (hmove : l'.balance a ≠ l.balance a) :
    l.Authorized admin account := by
  have hbal := balance_apply h a
  cases op with
  | mint dest amount => exact hpermits
  | burn source amount => exact hpermits
  -- the other calls move no balance
  | addToAllowList | removeFromAllowList | allowlist =>
    exact absurd (BitVec.eq_of_toNat_eq hbal) hmove

/-- Whoever is permitted an operation that changed an allowlist entry is the admin. -/
theorem admin_of_allowed_ne {account a : Address} (h : l.apply admin caller op = some l')
    (hpermits : l.Permits admin account op) (hedit : l'.allowed a ≠ l.allowed a) :
    account = admin := by
  have hallowed := allowed_apply h a
  cases op with
  | addToAllowList => exact hpermits
  | removeFromAllowList => exact hpermits
  -- the other calls edit no entry
  | mint | burn | allowlist => exact absurd hallowed hedit

end Ledger

/-! ## Refinement -/

namespace MintPrecompile

/-- The ledger a journal represents. -/
def ledger (j : Journal) : Ledger := ⟨j.balance, allowed j⟩

/-- The ledger consists of balances and slots. -/
theorem ledger_eq_of_frame {j j' : Journal} (hbal : ∀ a, j'.balance a = j.balance a)
    (hst : ∀ k, j'.storage mintPrecompileAddr k = j.storage mintPrecompileAddr k) :
    ledger j' = ledger j := by
  ext a : 2
  · exact hbal a
  · simp [ledger, allowed, hst]

/-- Writing an allowlist slot updates the entry of its account and no other. -/
theorem allowed_sstore (j : Journal) (account : Address) (value : Bool) :
    allowed (j.sstore mintPrecompileAddr (allowlistKey account) (allowlistValue value)) =
      Function.update (allowed j) account value := by
  funext a
  -- other accounts have other slots
  by_cases ha : a = account
  · subst ha
    cases value <;> simp [allowed, allowlistValue]
  · simp [allowed, ha, allowlistKey_injective.ne ha]

variable (self : MintPrecompile) (caller : Address) (j : Journal)

/-- The relation between a call of the precompile and a step of the ledger: success is a step,
and a failure leaves the ledger alone; a halt occurs only where the ledger refuses. -/
def Refines (op : INativeTokenCalls) (r : EStateM.Result MintPrecompileError Journal Bytes) :
    Prop :=
  match r with
  | .ok _ j' => (ledger j).apply self.admin caller op = some (ledger j')
  | .error (.halt _) j' => (ledger j).apply self.admin caller op = none ∧ ledger j' = ledger j
  | .error (.fatal _) j' => ledger j' = ledger j

theorem ledger_authorizeJournal : ledger (authorizeJournal j self caller) = ledger j :=
  ledger_eq_of_frame (by simp) (by simp)

/-- `ensure_authorized` rejects with a halt exactly the callers the ledger does not authorize. -/
theorem authorizeError_cases :
    (authorizeError j self caller = none ∧ (ledger j).Authorized self.admin caller) ∨
      (∃ r, authorizeError j self caller = some (.halt r) ∧
        ¬ (ledger j).Authorized self.admin caller) ∨
      ∃ e, authorizeError j self caller = some (.fatal e) := by
  unfold authorizeError Ledger.Authorized
  by_cases hadmin : caller = self.admin
  · exact .inl (by simp [hadmin])
  · cases hdb : j.dbError mintPrecompileAddr with
    | some e => exact .inr (.inr ⟨.fatal e, by simp [hadmin, mapInternalsError]⟩)
    | none =>
      cases hst : j.storageError mintPrecompileAddr (allowlistKey caller) with
      | some e => exact .inr (.inr ⟨.fatal e, by simp [hadmin, mapInternalsError]⟩)
      | none =>
        cases hall : allowed j caller with
        | true => exact .inl (by simp [hadmin, ledger, hall])
        | false =>
          exact .inr (.inl ⟨.other "unauthorized caller",
            by simp [hadmin, ledger, hall, haltStatic]⟩)

/-- The balance move of `mint` and `burn` refines the corresponding ledger step. -/
theorem moveBalance_refines {op : INativeTokenCalls} {addr : Address} {balance? : Option U256}
    {reason : String} {j₁ : Journal} (hj₁ : ledger j₁ = ledger j)
    (happly : (ledger j).apply self.admin caller op = balance?.map fun v =>
      { ledger j with balance := Function.update j.balance addr v }) :
    Refines self caller j op (moveBalance j₁ addr balance? reason) := by
  unfold moveBalance
  cases hdb : j₁.dbError addr with
  -- nothing was done
  | some e => exact hj₁
  | none =>
    cases balance? with
    | none =>
      -- a touch is invisible to the ledger
      refine ⟨by simpa using happly, ?_⟩
      exact (ledger_eq_of_frame (by simp) (by simp)).trans hj₁
    | some v =>
      -- balances and entries of both sides agree account by account
      refine happly.trans (congrArg some ?_)
      have hbal : j₁.balance = j.balance := congrArg Ledger.balance hj₁
      have hall : allowed j₁ = allowed j := congrArg Ledger.allowed hj₁
      ext a : 2
      · by_cases ha : a = addr
        · simp [ledger, ha]
        · simp [ledger, ha, ← hbal]
      · simp only [ledger, ← hall, allowed]
        simp

/-- `mint` and `burn` refine a ledger step that asks for the same authorization. -/
theorem authorized_move_refines {op : INativeTokenCalls} {addr : Address} {balance? : Option U256}
    {reason : String}
    (happly : (ledger j).apply self.admin caller op =
      if (ledger j).Authorized self.admin caller then
        balance?.map fun v => { ledger j with balance := Function.update j.balance addr v }
      else none) :
    Refines self caller j op
      (match authorizeError j self caller with
        | some e => .error e (authorizeJournal j self caller)
        | none => moveBalance (authorizeJournal j self caller) addr balance? reason) := by
  have hsame := ledger_authorizeJournal self caller j
  rcases authorizeError_cases self caller j with ⟨herr, hauth⟩ | ⟨r, herr, hauth⟩ | ⟨e, herr⟩
  -- let through, refused as the ledger does, and stopped by the database
  · rw [herr]
    rw [if_pos hauth] at happly
    exact moveBalance_refines self caller j hsame happly
  · rw [herr]
    rw [if_neg hauth] at happly
    exact ⟨happly, hsame⟩
  · rw [herr]
    exact hsame

/-- An edit of the allowlist does to the journal what it does to the ledger. -/
theorem editAllowlist_refines (account : Address) (value : Bool) :
    Refines self caller j (editCall account value) (editAllowlist j account self caller value) := by
  -- the ledger steps of the two edits are one
  have happly : (ledger j).apply self.admin caller (editCall account value) =
      if caller = self.admin then
        some { ledger j with allowed := Function.update (allowed j) account value }
      else none := by
    cases value <;> rfl
  unfold editAllowlist
  by_cases hadmin : caller = self.admin
  · rw [if_pos hadmin] at happly ⊢
    rw [setAllowlisted_eq]
    cases hdb : j.dbError mintPrecompileAddr with
    | some e => exact rfl
    | none =>
      cases hst : j.storageError mintPrecompileAddr (allowlistKey account) with
      | some e => exact ledger_eq_of_frame (by simp) (by simp)
      | none =>
        refine happly.trans (congrArg some ?_)
        -- creating the account writes no slot
        have hsame : allowed (ensured j mintPrecompileAddr) = allowed j := by
          funext a
          simp [allowed]
        ext a : 2
        · simp [ledger]
        · rw [← hsame, ← allowed_sstore]
          simp [ledger, allowed]
  · rw [if_neg hadmin] at happly ⊢
    exact ⟨happly, rfl⟩

/-- A call of the precompile refines a step of the ledger. -/
theorem dispatch_refines (op : INativeTokenCalls) :
    Refines self caller j op (self.dispatch caller op j) := by
  cases op with
  | mint dest amount =>
    rw [dispatch_mint_eq]
    exact authorized_move_refines self caller j rfl
  | burn source amount =>
    rw [dispatch_burn_eq]
    exact authorized_move_refines self caller j rfl
  | addToAllowList account =>
    rw [dispatch_addToAllowList_eq]
    exact editAllowlist_refines self caller j account true
  | removeFromAllowList account =>
    rw [dispatch_removeFromAllowList_eq]
    exact editAllowlist_refines self caller j account false
  | allowlist account =>
    -- a query changes at most the account of the precompile itself, and not its slots
    have hsame : ledger (ensured j mintPrecompileAddr) = ledger j :=
      ledger_eq_of_frame (by simp) (by simp)
    rw [dispatch_allowlist_eq, isAllowlisted_eq]
    cases hdb : j.dbError mintPrecompileAddr with
    | some e => exact rfl
    | none =>
      cases hst : j.storageError mintPrecompileAddr (allowlistKey account) with
      | some e => exact hsame
      | none => exact congrArg some hsame.symm

end MintPrecompile

end EvReth
