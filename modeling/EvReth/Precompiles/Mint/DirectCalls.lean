import EvReth.Precompiles.Mint.Ledger

/-!
# Runs of direct calls of the mint precompile

A direct call reaches the precompile by `CALL` from its caller, outside a static context. A run of
direct calls is a run of the ledger: balances move by exactly the amounts of the successful mints
and burns, and an allowlist entry holds the value of the last successful edit that names it.
-/

namespace EvReth

namespace MintPrecompile

open Run

/-- A direct, non-static call of the precompile. -/
structure DirectCall where
  caller : Address
  data : Bytes
  value : U256 := 0
  gas : U64 := 0
  reservoir : U64 := 0

/-- The input the EVM builds for a direct call. -/
def DirectCall.input (c : DirectCall) (j : Journal) : PrecompileInput :=
  { data := c.data
    gas := c.gas
    reservoir := c.reservoir
    caller := c.caller
    value := c.value
    targetAddress := mintPrecompileAddr
    isStatic := false
    bytecodeAddress := mintPrecompileAddr
    internals := j }

variable (self : MintPrecompile) (abiDecode : Bytes → Except String INativeTokenCalls)

/-- One direct call as a step of the journal. -/
def directStep (j : Journal) (c : DirectCall) : PrecompileResult × Journal :=
  self.call abiDecode (c.input j)

/-- The decoded operation of a call that succeeded. -/
def executed (data : Bytes) (r : PrecompileResult) : Option INativeTokenCalls :=
  match r, abiDecode data with
  -- a halt is reported as `.ok` with another status
  | .ok out, .ok op => if out.status = .success then some op else none
  | _, _ => none

/-- The operation a step of a run has carried out, if its call succeeded. -/
def operation (t : Transition Journal DirectCall PrecompileResult) : Option INativeTokenCalls :=
  executed abiDecode t.input.data t.output

/-- A call that completed with a halt. -/
def Halted (r : PrecompileResult) : Prop :=
  ∃ out reason, r = .ok out ∧ out.status = .halt reason

/-- What was carried out is what the calldata decodes to. -/
theorem decoded_of_executed {data : Bytes} {r : PrecompileResult} {op : INativeTokenCalls}
    (h : executed abiDecode data r = some op) : abiDecode data = .ok op := by
  unfold executed at h
  split at h
  next out op' _ hdec =>
    rw [Option.ite_none_right_eq_some] at h
    rw [hdec, Option.some.inj h.2]
  next => cases h

/-- A call that succeeded is a dispatch that succeeded. -/
theorem dispatch_of_executed (input : PrecompileInput) {op : INativeTokenCalls}
    (h : executed abiDecode input.data (self.call abiDecode input).1 = some op) :
    ∃ bytes, self.dispatch input.caller op input.internals =
      .ok bytes (self.call abiDecode input).2 := by
  have hdec := decoded_of_executed abiDecode h
  unfold call executed at *
  simp only [hdec] at h ⊢
  cases hrun : self.dispatch input.caller op input.internals with
  | ok bytes j' => exact ⟨bytes, rfl⟩
  -- a dispatch that fails is reported as a halt or as an error
  | error err j' =>
    rw [hrun] at h
    cases err <;> simp [PrecompileOutput.halt] at h

/-- A successful call performs the ledger step of its operation. -/
theorem apply_of_executed (input : PrecompileInput) {op : INativeTokenCalls}
    (h : executed abiDecode input.data (self.call abiDecode input).1 = some op) :
    (ledger input.internals).apply self.admin input.caller op =
      some (ledger (self.call abiDecode input).2) := by
  obtain ⟨bytes, hrun⟩ := dispatch_of_executed self abiDecode input h
  have href := dispatch_refines self input.caller input.internals op
  rwa [hrun] at href

/-- A call that does not succeed leaves the ledger alone. -/
theorem ledger_of_not_executed (input : PrecompileInput)
    (h : executed abiDecode input.data (self.call abiDecode input).1 = none) :
    ledger (self.call abiDecode input).2 = ledger input.internals := by
  unfold call executed at *
  cases hdec : abiDecode input.data with
  -- calldata that does not decode: the journal is returned as it came
  | error e => rfl
  | ok op =>
    have href := dispatch_refines self input.caller input.internals op
    simp only [hdec] at h ⊢
    cases hrun : self.dispatch input.caller op input.internals with
    | ok bytes j' => simp [hrun, PrecompileOutput.new] at h
    | error err j' =>
      rw [hrun] at href
      cases err with
      | halt reason => exact href.2
      | fatal err => exact href

/-- A halted call has carried out no operation. -/
theorem executed_of_halted {data : Bytes} {r : PrecompileResult} (h : Halted r) :
    executed abiDecode data r = none := by
  obtain ⟨out, reason, rfl, hout⟩ := h
  unfold executed
  cases abiDecode data <;> simp [hout]

/-! ## One step -/

/-- The amount a step has credited to `a`. -/
def stepMinted (a : Address) (t : Transition Journal DirectCall PrecompileResult) : ℕ :=
  (operation abiDecode t).elim 0 (·.minted a)

/-- The amount a step has debited from `a`. -/
def stepBurned (a : Address) (t : Transition Journal DirectCall PrecompileResult) : ℕ :=
  (operation abiDecode t).elim 0 (·.burned a)

/-- The amount a step has added to the supply. -/
def stepMintedTotal (t : Transition Journal DirectCall PrecompileResult) : ℕ :=
  (operation abiDecode t).elim 0 (·.mintedTotal)

/-- The amount a step has removed from the supply. -/
def stepBurnedTotal (t : Transition Journal DirectCall PrecompileResult) : ℕ :=
  (operation abiDecode t).elim 0 (·.burnedTotal)

/-- The allowlist entry a step has written for `a`, if any. -/
def stepEdit (a : Address) (t : Transition Journal DirectCall PrecompileResult) : Option Bool :=
  (operation abiDecode t).bind (·.edit a)

section Step

variable (j : Journal) (c : DirectCall)

/-- A call changes a balance by what it mints and burns there. -/
theorem balance_directStep (a : Address) :
    ((self.directStep abiDecode j c).2.balance a).toNat +
        stepBurned abiDecode a (.of (self.directStep abiDecode) j c) =
      (j.balance a).toNat + stepMinted abiDecode a (.of (self.directStep abiDecode) j c) := by
  unfold stepBurned stepMinted
  cases hop : operation abiDecode (.of (self.directStep abiDecode) j c) with
  | none =>
    have h := ledger_of_not_executed self abiDecode (c.input j) hop
    exact congrArg BitVec.toNat (congrFun (congrArg Ledger.balance h) a)
  | some op => exact Ledger.balance_apply (apply_of_executed self abiDecode (c.input j) hop) a

/-- A call changes the entry that it edits, and no other. -/
theorem allowed_directStep (a : Address) :
    allowed (self.directStep abiDecode j c).2 a =
      (stepEdit abiDecode a (.of (self.directStep abiDecode) j c)).getD (allowed j a) := by
  unfold stepEdit
  cases hop : operation abiDecode (.of (self.directStep abiDecode) j c) with
  | none =>
    have h := ledger_of_not_executed self abiDecode (c.input j) hop
    exact congrFun (congrArg Ledger.allowed h) a
  | some op => exact Ledger.allowed_apply (apply_of_executed self abiDecode (c.input j) hop) a

/-- Only the admin edits. -/
theorem admin_of_stepEdit {a : Address} {b : Bool}
    (hedit : stepEdit abiDecode a (.of (self.directStep abiDecode) j c) = some b) :
    c.caller = self.admin := by
  obtain ⟨op, hop, hedit⟩ := Option.bind_eq_some_iff.mp hedit
  exact Ledger.admin_of_edit (apply_of_executed self abiDecode (c.input j) hop) hedit

/-- The supply moves with the balances. -/
theorem supply_directStep :
    (∑ a, ((self.directStep abiDecode j c).2.balance a).toNat) +
        stepBurnedTotal abiDecode (.of (self.directStep abiDecode) j c) =
      (∑ a, (j.balance a).toNat) +
        stepMintedTotal abiDecode (.of (self.directStep abiDecode) j c) := by
  -- sum the balance equations over all addresses
  have hsum := Finset.sum_congr (rfl : (Finset.univ : Finset Address) = Finset.univ)
    fun a _ => balance_directStep self abiDecode j c a
  rw [Finset.sum_add_distrib, Finset.sum_add_distrib] at hsum
  unfold stepBurned stepMinted at hsum
  unfold stepBurnedTotal stepMintedTotal
  cases hop : operation abiDecode (.of (self.directStep abiDecode) j c) with
  | none => simpa [hop] using hsum
  | some op => simpa [hop, INativeTokenCalls.sum_minted, INativeTokenCalls.sum_burned] using hsum

end Step

/-! ## Whole runs -/

/-- Ledger semantics of every run of direct calls, from every journal.

An account is allowlisted afterwards iff the last successful edit that names it was an addition, or
there was none and it was allowlisted before; every successful edit was made by the admin, and
distinct accounts have distinct slots. Each balance, and the sum of all balances, moves by exactly
the amounts of the successful mints and burns that name it. A halted call changes no balance and no
allowlist entry. -/
theorem directCalls_ledger_semantics (j : Journal) (calls : List DirectCall) :
    let run := transitions (self.directStep abiDecode) j calls
    let j' := finalState (self.directStep abiDecode) j calls
    let edits (a : Address) := run.filterMap (stepEdit abiDecode a)
    ((∀ a, allowed j' a = true ↔
        (edits a).getLast? = some true ∨ ((edits a).getLast? = none ∧ allowed j a = true)) ∧
      (∀ t ∈ run, ∀ a b, stepEdit abiDecode a t = some b → t.input.caller = self.admin) ∧
      Function.Injective allowlistKey) ∧
    ((∀ a, (j'.balance a).toNat + (run.map (stepBurned abiDecode a)).sum =
        (j.balance a).toNat + (run.map (stepMinted abiDecode a)).sum) ∧
      (∑ a, (j'.balance a).toNat) + (run.map (stepBurnedTotal abiDecode)).sum =
        (∑ a, (j.balance a).toNat) + (run.map (stepMintedTotal abiDecode)).sum) ∧
    (∀ t ∈ run, Halted t.output →
      (∀ a, t.post.balance a = t.pre.balance a) ∧ ∀ a, allowed t.post a = allowed t.pre a) := by
  intro run j' edits
  -- each part is one of the rules for runs, applied to the lemma about one step
  refine ⟨⟨fun a => ?_, ?_, allowlistKey_injective⟩, ⟨fun a => ?_, ?_⟩, ?_⟩
  · have hlast : allowed j' a = (edits a).getLast?.getD (allowed j a) :=
      lastWrite (fun s => allowed s a) (stepEdit abiDecode a)
        fun s c => allowed_directStep self abiDecode s c a
    rw [hlast]
    cases (edits a).getLast? <;> simp
  · exact forall_mem_transitions fun s c a b hedit => admin_of_stepEdit self abiDecode s c hedit
  · exact conservation (fun s : Journal => (s.balance a).toNat) (stepMinted abiDecode a)
      (stepBurned abiDecode a) fun s c => balance_directStep self abiDecode s c a
  · exact conservation (fun s : Journal => ∑ a, (s.balance a).toNat) (stepMintedTotal abiDecode)
      (stepBurnedTotal abiDecode) fun s c => supply_directStep self abiDecode s c
  · refine forall_mem_transitions fun s c hhalt => ?_
    have h := ledger_of_not_executed self abiDecode (c.input s) (executed_of_halted abiDecode hhalt)
    exact ⟨congrFun (congrArg Ledger.balance h), congrFun (congrArg Ledger.allowed h)⟩

end MintPrecompile

end EvReth
