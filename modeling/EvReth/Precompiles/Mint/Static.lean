import EvReth.Precompiles.Mint.Spec

/-!
# Static calls of the mint precompile

`MintPrecompile.call` does not read `is_static`. This module determines exactly which static calls
leave every balance, nonce, code and storage slot as they were.
-/

namespace EvReth

/-- Two journals agree on every account's balance, nonce, code and storage. -/
def Journal.SameState (j j' : Journal) : Prop :=
  ∀ a, j'.balance a = j.balance a ∧ j'.nonce a = j.nonce a ∧ j'.code a = j.code a ∧
    ∀ k, j'.storage a k = j.storage a k

theorem Journal.SameState.refl (j : Journal) : j.SameState j :=
  fun _ => ⟨rfl, rfl, rfl, fun _ => rfl⟩

/-- Two journals of the same state are compared alike with others. -/
theorem Journal.SameState.left_iff {j j₁ j₂ : Journal} (h : j.SameState j₁) :
    j.SameState j₂ ↔ j₁.SameState j₂ := by
  constructor
  · intro h' a
    obtain ⟨hb, hn, hc, hs⟩ := h a
    obtain ⟨hb', hn', hc', hs'⟩ := h' a
    exact ⟨hb'.trans hb.symm, hn'.trans hn.symm, hc'.trans hc.symm,
      fun k => (hs' k).trans (hs k).symm⟩
  · intro h' a
    obtain ⟨hb, hn, hc, hs⟩ := h a
    obtain ⟨hb', hn', hc', hs'⟩ := h' a
    exact ⟨hb'.trans hb, hn'.trans hn, hc'.trans hc, fun k => (hs' k).trans (hs k)⟩

namespace MintPrecompile

variable (self : MintPrecompile) (caller : Address) (j : Journal)

/-! ## The calls that write nothing -/

/-- Creating the precompile's account would write its nonce or its code. -/
def Uncreated : Prop := j.isLoadedAsNotExisting mintPrecompileAddr = true ∧ ¬ Marked j

/-- A lookup of the allowlist would create the precompile's account. -/
def LookupWrites : Prop := j.dbError mintPrecompileAddr = none ∧ Uncreated j

/-- `ensure_authorized` lets `caller` through: it is the admin, or the lookup of its allowlist entry
succeeds and finds it set. -/
def Authorizes : Prop :=
  caller = self.admin ∨
    (j.dbError mintPrecompileAddr = none ∧
      j.storageError mintPrecompileAddr (allowlistKey caller) = none ∧ allowed j caller = true)

/-- An authorized move of the balance of `addr` by `amount` writes nothing: `addr` cannot be loaded,
or it needs no creation and the amount is zero or the move fails. -/
def MoveWritesNothing (addr : Address) (amount : U256) (fails : Prop) : Prop :=
  j.dbError addr = none →
    ¬ (addr = mintPrecompileAddr ∧ Uncreated j) ∧ (amount = 0 ∨ fails)

/-- The admin's edit of the entry of `account` writes nothing: the precompile's account cannot be
loaded, or it exists and the slot cannot be loaded or already holds the value. -/
def EditWritesNothing (account : Address) (value : Bool) : Prop :=
  j.dbError mintPrecompileAddr = none →
    ¬ Uncreated j ∧
      (j.storageError mintPrecompileAddr (allowlistKey account) = none →
        j.storage mintPrecompileAddr (allowlistKey account) = allowlistValue value)

/-- The decoded call writes nothing: what it looks up exists, and it is a query, is refused, moves
nothing or stores what is stored. -/
def WritesNothing : INativeTokenCalls → Prop
  | .mint dest amount =>
    (caller ≠ self.admin → ¬ LookupWrites j) ∧
      (Authorizes self caller j →
        MoveWritesNothing j dest amount (2 ^ 256 ≤ (j.balance dest).toNat + amount.toNat))
  | .burn source amount =>
    (caller ≠ self.admin → ¬ LookupWrites j) ∧
      (Authorizes self caller j →
        MoveWritesNothing j source amount ((j.balance source).toNat < amount.toNat))
  | .addToAllowList account => caller = self.admin → EditWritesNothing j account true
  | .removeFromAllowList account => caller = self.admin → EditWritesNothing j account false
  | .allowlist _ => ¬ LookupWrites j

/-! ## Which helpers write -/

variable {self caller j}

/-- A caller passes exactly if it is authorized and its entry can be read. -/
theorem authorizeError_eq_none_iff :
    authorizeError j self caller = none ↔ Authorizes self caller j := by
  unfold authorizeError Authorizes
  by_cases hadmin : caller = self.admin
  · simp [hadmin]
  · cases hdb : j.dbError mintPrecompileAddr with
    | some e => simp [hadmin]
    | none =>
      cases hst : j.storageError mintPrecompileAddr (allowlistKey caller) <;> simp [hadmin]

/-- To ensure an account writes only for the precompile, and only if it is not there yet. -/
theorem sameState_ensured_iff (addr : Address) :
    j.SameState (ensured j addr) ↔ ¬ (addr = mintPrecompileAddr ∧ Uncreated j) := by
  unfold Journal.SameState Uncreated
  simp only [balance_ensured, storage_ensured, nonce_ensured, code_ensured, implies_true, and_true,
    true_and]
  constructor
  -- creation leaves the mark, which was not there
  · rintro h ⟨rfl, hne, hmarked⟩
    have hp := h mintPrecompileAddr
    simp only [hne, and_self, if_true] at hp
    exact hmarked ⟨hp.1.symm, hp.2.symm⟩
  · intro h a
    by_cases hc : a = mintPrecompileAddr ∧ addr = mintPrecompileAddr ∧
        j.isLoadedAsNotExisting mintPrecompileAddr = true
    -- the mark is written over itself
    · have hmarked : Marked j := by
        by_contra hm
        exact h ⟨hc.2.1, hc.2.2, hm⟩
      simp [hc, hmarked.1, hmarked.2]
    · simp [hc]

/-- Touching an account and storing into the precompile are invisible to nonces and codes. -/
theorem not_sameState_of_marked {j' : Journal} (h : ¬ Marked j) (h' : Marked j') :
    ¬ j.SameState j' := fun hsame =>
  h (h'.of_frame (hsame mintPrecompileAddr).2.1.symm (hsame mintPrecompileAddr).2.2.1.symm)

/-- A move writes nothing exactly if it moves nothing or fails, and the account is there. -/
theorem sameState_moveBalance_iff {addr : Address} {amount : U256} {balance? : Option U256}
    {fails : Prop} {reason : String}
    (hsame : (∀ v, balance? = some v → v = j.balance addr) ↔ amount = 0 ∨ fails) :
    j.SameState (moveBalance j addr balance? reason).state ↔
      MoveWritesNothing j addr amount fails := by
  unfold moveBalance MoveWritesNothing
  rw [← hsame, ← sameState_ensured_iff]
  cases hdb : j.dbError addr with
  | some e => simpa using Journal.SameState.refl j
  | none =>
    cases balance? with
    | none =>
      -- the move fails: all that is left is the creation of the account
      simp only [EStateM.Result.state_error, reduceCtorEq, false_implies, implies_true, and_true,
        forall_const]
      exact forall_congr' fun a => by simp
    | some v =>
      simp only [EStateM.Result.state_ok, Option.some.injEq, forall_eq', forall_const]
      constructor
      · intro h
        -- the balance of `addr` itself tells whether the move was one
        have hv : v = j.balance addr := by simpa using (h addr).1
        exact ⟨fun a => by simpa [hv] using h a |>.2, hv⟩
      · rintro ⟨h, hv⟩ a
        have ha := h a
        by_cases haddr : a = addr
        · subst haddr
          simpa [hv] using ha
        · simpa [haddr] using ha

/-- The lookup that authorizes a caller writes exactly when it creates the precompile's account. -/
theorem sameState_authorizeJournal (h : caller ≠ self.admin → ¬ LookupWrites j) :
    j.SameState (authorizeJournal j self caller) := by
  unfold authorizeJournal
  split_ifs with hc
  · exact Journal.SameState.refl j
  · simp only [not_or, Option.not_isSome_iff_eq_none] at hc
    rw [sameState_ensured_iff]
    rintro ⟨-, hcreate⟩
    exact h hc.1 ⟨hc.2, hcreate⟩

/-- A lookup that writes leaves the precompile marked. -/
theorem marked_authorizeJournal (hadmin : caller ≠ self.admin) (h : LookupWrites j) :
    Marked (authorizeJournal j self caller) := by
  simpa [authorizeJournal, hadmin, h.1] using marked_ensured h.2.1

/-- A check that writes nothing does not change what a move writes. -/
theorem moveWritesNothing_authorizeJournal {addr : Address} {amount : U256} {fails : Prop}
    (h : j.SameState (authorizeJournal j self caller)) :
    MoveWritesNothing (authorizeJournal j self caller) addr amount fails ↔
      MoveWritesNothing j addr amount fails := by
  obtain ⟨-, hnonce, hcode, -⟩ := h mintPrecompileAddr
  simp [MoveWritesNothing, Uncreated, Marked, hnonce, hcode]

/-- `mint` and `burn`: the lookup that authorizes the caller writes, or the move does. -/
theorem sameState_authorized_move_iff {addr : Address} {amount : U256} {balance? : Option U256}
    {fails : Prop} {reason : String}
    (hsame : (∀ v, balance? = some v → v = j.balance addr) ↔ amount = 0 ∨ fails) :
    j.SameState
        (match authorizeError j self caller with
          | some e => EStateM.Result.error e (authorizeJournal j self caller)
          | none => moveBalance (authorizeJournal j self caller) addr balance? reason).state ↔
      (caller ≠ self.admin → ¬ LookupWrites j) ∧
        (Authorizes self caller j → MoveWritesNothing j addr amount fails) := by
  -- the lookup that authorizes may write by itself, so its case comes first
  rw [← authorizeError_eq_none_iff]
  by_cases hlookup : caller ≠ self.admin ∧ LookupWrites j
  · -- the account has just been created, and the move does not undo that
    have hmarked := marked_authorizeJournal hlookup.1 hlookup.2
    refine iff_of_false ?_ fun h => h.1 hlookup.1 hlookup.2
    apply not_sameState_of_marked hlookup.2.2.2
    cases authorizeError j self caller with
    | some e => exact hmarked
    | none => exact hmarked.moveBalance _ _ _
  · have hquiet : caller ≠ self.admin → ¬ LookupWrites j := fun h h' => hlookup ⟨h, h'⟩
    have hstate := sameState_authorizeJournal hquiet
    cases authorizeError j self caller with
    | some e => exact iff_of_true hstate ⟨hquiet, fun h => by cases h⟩
    | none =>
      simp only [hstate.left_iff, forall_const, and_iff_right hquiet]
      rw [sameState_moveBalance_iff (by simpa using hsame)]
      exact moveWritesNothing_authorizeJournal hstate

/-- An edit writes nothing exactly if the caller is not the admin or the entry is the same. -/
theorem sameState_editAllowlist_iff {account : Address} {value : Bool} :
    j.SameState (editAllowlist j account self caller value).state ↔
      (caller = self.admin → EditWritesNothing j account value) := by
  unfold editAllowlist EditWritesNothing
  by_cases hadmin : caller = self.admin
  · simp only [hadmin, if_true, forall_const]
    rw [setAllowlisted_eq]
    cases hdb : j.dbError mintPrecompileAddr with
    | some e => simpa using Journal.SameState.refl j
    | none =>
      have hensured := sameState_ensured_iff (j := j) mintPrecompileAddr
      simp only [true_and] at hensured
      rw [← hensured]
      cases hst : j.storageError mintPrecompileAddr (allowlistKey account) with
      | some e => simp
      | none =>
        simp only [EStateM.Result.state_ok, forall_const]
        constructor
        · intro h
          -- the slot that is written tells whether it held the value
          have hslot := (h mintPrecompileAddr).2.2.2 (allowlistKey account)
          have hv : j.storage mintPrecompileAddr (allowlistKey account) = allowlistValue value := by
            simpa using hslot.symm
          refine ⟨fun a => ⟨by simp, ?_, ?_, by simp⟩, hv⟩
          · simpa using (h a).2.1
          · simpa using (h a).2.2.1
        · rintro ⟨h, hv⟩ a
          refine ⟨by simp, by simpa using (h a).2.1, by simpa using (h a).2.2.1, fun k => ?_⟩
          by_cases hk : a = mintPrecompileAddr ∧ k = allowlistKey account
          · simp [hk, hv]
          · simp [hk]
  · simp only [hadmin, if_false, EStateM.Result.state_error, false_implies, iff_true]
    exact Journal.SameState.refl j

/-- A lookup writes nothing exactly if the precompile is there. -/
theorem sameState_isAllowlisted_iff (account : Address) :
    j.SameState (isAllowlisted account j).state ↔ ¬ LookupWrites j := by
  rw [isAllowlisted_eq, LookupWrites]
  have hensured := sameState_ensured_iff (j := j) mintPrecompileAddr
  simp only [true_and] at hensured
  cases hdb : j.dbError mintPrecompileAddr with
  | some e => simpa using Journal.SameState.refl j
  | none =>
    cases j.storageError mintPrecompileAddr (allowlistKey account) <;> simpa using hensured

/-! ## Entry points -/

/-- A sum is the first summand exactly if the second is zero, or there is no sum. -/
theorem checkedAdd_unchanged_iff {x y : U256} :
    (∀ v, x.checkedAdd y = some v → v = x) ↔ y = 0 ∨ 2 ^ 256 ≤ x.toNat + y.toNat := by
  rw [← BitVec.checkedAdd_eq_none_iff]
  cases hadd : x.checkedAdd y with
  | none => simp
  | some v =>
    -- a sum equals its first term only if the second is zero
    have hv := BitVec.checkedAdd_eq_some_iff.mp hadd
    simp only [Option.some.injEq, forall_eq', reduceCtorEq, or_false]
    rw [BitVec.toNat_eq, BitVec.toNat_eq, hv]
    exact Nat.add_eq_left

/-- A difference is the minuend exactly if the subtrahend is zero, or there is no difference. -/
theorem checkedSub_unchanged_iff {x y : U256} :
    (∀ v, x.checkedSub y = some v → v = x) ↔ y = 0 ∨ x.toNat < y.toNat := by
  rw [← BitVec.checkedSub_eq_none_iff]
  cases hsub : x.checkedSub y with
  | none => simp
  | some v =>
    -- a difference equals its first term only if the second is zero
    have hv := BitVec.checkedSub_eq_some_iff.mp hsub
    simp only [Option.some.injEq, forall_eq', reduceCtorEq, or_false]
    rw [BitVec.toNat_eq, BitVec.toNat_eq, ← hv]
    exact Nat.left_eq_add

/-- A call writes nothing exactly under the condition of its operation. -/
theorem sameState_dispatch_iff (op : INativeTokenCalls) :
    j.SameState (self.dispatch caller op j).state ↔ WritesNothing self caller j op := by
  cases op with
  | mint dest amount =>
    rw [dispatch_mint_eq]
    exact sameState_authorized_move_iff checkedAdd_unchanged_iff
  | burn source amount =>
    rw [dispatch_burn_eq]
    exact sameState_authorized_move_iff checkedSub_unchanged_iff
  | addToAllowList account =>
    rw [dispatch_addToAllowList_eq]
    exact sameState_editAllowlist_iff
  | removeFromAllowList account =>
    rw [dispatch_removeFromAllowList_eq]
    exact sameState_editAllowlist_iff
  | allowlist account =>
    rw [dispatch_allowlist_eq, WritesNothing, ← sameState_isAllowlisted_iff account]
    cases isAllowlisted account j <;> rfl

/-- A static call leaves every account's balance, nonce, code and storage unchanged exactly when its
calldata does not decode or the decoded call writes nothing anyway. -/
theorem static_call_unchanged_iff (self : MintPrecompile)
    (abiDecode : Bytes → Except String INativeTokenCalls) (input : PrecompileInput) :
    input.internals.SameState (self.call abiDecode { input with isStatic := true }).2 ↔
      ∀ op, abiDecode input.data = .ok op →
        WritesNothing self input.caller input.internals op := by
  rw [journal_call]
  cases hop : abiDecode input.data with
  | error e => simpa using Journal.SameState.refl input.internals
  | ok op => simpa using sameState_dispatch_iff op

/-- A static call about the account `0x05`, in a world without accounts. -/
def staticInput (caller : Address) (selector : Bytes) (amount : UInt8) : PrecompileInput :=
  { data := selector ++ (List.replicate 31 0 ++ [5]) ++ (List.replicate 31 0 ++ [amount])
    gas := 100000
    reservoir := 0
    caller
    value := 0
    targetAddress := mintPrecompileAddr
    isStatic := true
    bytecodeAddress := mintPrecompileAddr
    internals := Journal.empty }

/-- A static `mint` by the admin takes effect, and the static query `allowlist` of an unprivileged
caller creates the precompile's account. -/
theorem static_call_writes :
    (MintPrecompile.call ⟨0xAD⟩ INativeTokenCalls.solDecode
        (staticInput 0xAD [0x40, 0xc1, 0x0f, 0x19] 7)).2.balance 0x05 = 7 ∧
      (MintPrecompile.call ⟨0xAD⟩ INativeTokenCalls.solDecode
        (staticInput 0xBB [0xa7, 0xcd, 0x52, 0xcb] 0)).2.nonce mintPrecompileAddr = 1 ∧
      ¬ (∀ input : PrecompileInput, input.isStatic = true → input.internals.SameState
        (MintPrecompile.call ⟨0xAD⟩ INativeTokenCalls.solDecode input).2) := by
  have hmint : (MintPrecompile.call ⟨0xAD⟩ INativeTokenCalls.solDecode
      (staticInput 0xAD [0x40, 0xc1, 0x0f, 0x19] 7)).2.balance 0x05 = 7 := by decide
  refine ⟨hmint, by decide, fun h => ?_⟩
  -- the mint contradicts the general statement
  have hsame := (h (staticInput 0xAD [0x40, 0xc1, 0x0f, 0x19] 7) rfl 0x05).1
  rw [hmint] at hsame
  revert hsame
  decide

end MintPrecompile

end EvReth
