import EvReth.Precompiles.Mint.DirectCalls

/-!
# Authority over the mint precompile across call schemes

Contract code reaches the precompile by `CALL`, `CALLCODE`, `DELEGATECALL` or `STATICCALL`. The
precompile decides authority from `PrecompileInput.caller` alone, and for `DELEGATECALL` that is not
the account that executes the call but the sender of the frame it executes in.

The runs here interleave calls of the precompile, by any frame and any scheme, with arbitrary other
changes of the journal: value transfers, other contracts, reverted frames.
-/

namespace EvReth

namespace MintPrecompile

open Run

/-- The call instructions of the EVM. -/
inductive CallScheme where
  | call
  | callCode
  | delegateCall
  | staticCall
  deriving DecidableEq, Repr

/-- The frame that issues a call: the account that executes, and the sender it was called by. -/
structure CallingFrame where
  address : Address
  caller : Address
  isStatic : Bool := false

/-- A call instruction with the precompile's code as its target. -/
structure SchemeCall where
  scheme : CallScheme
  frame : CallingFrame
  data : Bytes
  value : U256 := 0
  gas : U64 := 0
  reservoir : U64 := 0

/-- The caller that the EVM presents to the precompile. -/
def SchemeCall.caller (c : SchemeCall) : Address :=
  match c.scheme with
  | .delegateCall => c.frame.caller
  | .call | .callCode | .staticCall => c.frame.address

/-- The account in whose context the EVM runs the precompile. -/
def SchemeCall.targetAddress (c : SchemeCall) : Address :=
  match c.scheme with
  | .callCode | .delegateCall => c.frame.address
  | .call | .staticCall => mintPrecompileAddr

/-- The input the EVM builds for a call of the precompile. -/
def SchemeCall.input (c : SchemeCall) (j : Journal) : PrecompileInput :=
  { data := c.data
    gas := c.gas
    reservoir := c.reservoir
    caller := c.caller
    value := c.value
    targetAddress := c.targetAddress
    isStatic := c.frame.isStatic || c.scheme == .staticCall
    bytecodeAddress := mintPrecompileAddr
    internals := j }

/-- What happens to the journal in a run: a call of the precompile, or anything else. -/
inductive EvmEvent where
  | precompile (c : SchemeCall)
  | other (f : Journal → Journal)

variable (self : MintPrecompile) (abiDecode : Bytes → Except String INativeTokenCalls)

/-- One event as a step of the journal. -/
def evmStep (j : Journal) : EvmEvent → Option PrecompileResult × Journal
  | .precompile c => ((self.call abiDecode (c.input j)).1, (self.call abiDecode (c.input j)).2)
  -- whatever else runs, it runs to completion between two calls of the precompile
  | .other f => (none, f j)

/-! ## Authority -/

/-- A call of the precompile respects the authority of the account that issues it: balances change
only if that account is the admin or allowlisted, and the allowlist only if it is the admin. -/
def RespectsAuthority (t : Transition Journal EvmEvent (Option PrecompileResult)) : Prop :=
  ∀ c, t.input = .precompile c →
    ((∃ a, t.post.balance a ≠ t.pre.balance a) →
        (ledger t.pre).Authorized self.admin c.frame.address) ∧
      ((∃ a, allowed t.post a ≠ allowed t.pre a) → c.frame.address = self.admin)

/-- A `DELEGATECALL` of the precompile gains nothing from the sender it inherits: what the sender of
the frame is permitted, the account of the frame is permitted as well. -/
def NoInheritedAuthority (t : Transition Journal EvmEvent (Option PrecompileResult)) : Prop :=
  ∀ c op, t.input = .precompile c → c.scheme = .delegateCall → abiDecode c.data = .ok op →
    (ledger t.pre).Permits self.admin c.frame.caller op →
    (ledger t.pre).Permits self.admin c.frame.address op

variable {self abiDecode}

/-- Outside `DELEGATECALL` the caller presented to the precompile is the account that executes. -/
theorem SchemeCall.caller_of_ne_delegateCall {c : SchemeCall} (h : c.scheme ≠ .delegateCall) :
    c.caller = c.frame.address := by
  unfold SchemeCall.caller
  cases hs : c.scheme <;> simp_all

/-- The account that issued a successful call is permitted its operation. -/
theorem permits_of_executed {j : Journal} {c : SchemeCall} {op : INativeTokenCalls}
    (hcond : NoInheritedAuthority self abiDecode
      (.of (self.evmStep abiDecode) j (.precompile c)))
    (h : executed abiDecode c.data (self.call abiDecode (c.input j)).1 = some op) :
    (ledger j).Permits self.admin c.frame.address op := by
  have hpermits : (ledger j).Permits self.admin c.caller op :=
    Ledger.permits_of_apply (apply_of_executed self abiDecode (c.input j) h)
  by_cases hs : c.scheme = .delegateCall
  -- a delegated call ran with the authority of the sender of the frame
  · have hop : abiDecode c.data = .ok op := decoded_of_executed abiDecode h
    have hcaller : c.caller = c.frame.caller := by simp [SchemeCall.caller, hs]
    exact hcond c op rfl hs hop (hcaller ▸ hpermits)
  · rwa [SchemeCall.caller_of_ne_delegateCall hs] at hpermits

/-- One event whose `DELEGATECALL` inherits no authority respects authority. -/
theorem respectsAuthority_of (j : Journal) (event : EvmEvent)
    (hcond : NoInheritedAuthority self abiDecode (.of (self.evmStep abiDecode) j event)) :
    RespectsAuthority self (.of (self.evmStep abiDecode) j event) := by
  rintro c rfl
  cases hop : executed abiDecode c.data (self.call abiDecode (c.input j)).1 with
  | none =>
    -- nothing was executed, so neither balances nor entries have changed
    have hsame := ledger_of_not_executed self abiDecode (c.input j) hop
    constructor
    · rintro ⟨a, ha⟩
      exact absurd (congrFun (congrArg Ledger.balance hsame) a) ha
    · rintro ⟨a, ha⟩
      exact absurd (congrFun (congrArg Ledger.allowed hsame) a) ha
  | some op =>
    -- the ledger step was made by the presented caller, and the issuer is permitted it as well
    have happly := apply_of_executed self abiDecode (c.input j) hop
    have hpermits := permits_of_executed hcond hop
    exact ⟨fun ⟨a, ha⟩ => Ledger.authorized_of_balance_ne happly hpermits ha,
      fun ⟨a, ha⟩ => Ledger.admin_of_allowed_ne happly hpermits ha⟩

/-! ## Whole runs -/

variable (self abiDecode)

/-- A step of a run that leaves the allowlist alone: a call that respects an authority other than
the admin's, or another event that changes no entry. -/
def KeepsAllowlist (t : Transition Journal EvmEvent (Option PrecompileResult)) : Prop :=
  RespectsAuthority self t ∧
    (∀ c, t.input = .precompile c → c.frame.address ≠ self.admin) ∧
    ∀ f, t.input = .other f → allowed t.post = allowed t.pre

variable {self} in
/-- A step that keeps the slots of the allowlist keeps the allowlist. -/
theorem allowed_of_keepsAllowlist (t : Transition Journal EvmEvent (Option PrecompileResult))
    (h : KeepsAllowlist self t) : allowed t.post = allowed t.pre := by
  obtain ⟨hrespects, hissuer, hother⟩ := h
  cases hi : t.input with
  | other f => exact hother f hi
  | precompile c =>
    funext a
    -- a changed entry would make the issuer the admin
    by_contra hne
    exact hissuer c hi ((hrespects c hi).2 ⟨a, hne⟩)

/-- In every run without inherited authority, each call of the precompile respects the authority of
the account that issued it. Hence a run in which the admin issues no call, and whose other events
keep the allowlist, ends with the allowlist it began with; and if no issuer was allowlisted either,
no call of the run has changed a balance. -/
theorem authority_of_noInheritedAuthority (j : Journal) (events : List EvmEvent)
    (hrun : ∀ t ∈ transitions (self.evmStep abiDecode) j events,
      NoInheritedAuthority self abiDecode t) :
    let run := transitions (self.evmStep abiDecode) j events
    (∀ t ∈ run, RespectsAuthority self t) ∧
      ((∀ t ∈ run, ∀ c, t.input = .precompile c → c.frame.address ≠ self.admin) →
        (∀ t ∈ run, ∀ f, t.input = .other f → allowed t.post = allowed t.pre) →
        allowed (finalState (self.evmStep abiDecode) j events) = allowed j ∧
          ((∀ t ∈ run, ∀ c, t.input = .precompile c → allowed j c.frame.address = false) →
            ∀ t ∈ run, ∀ c, t.input = .precompile c → t.post.balance = t.pre.balance)) := by
  intro run
  have hrespects : ∀ t ∈ run, RespectsAuthority self t := fun t ht =>
    forall_mem_transitions
      (P := fun t => NoInheritedAuthority self abiDecode t → RespectsAuthority self t)
      respectsAuthority_of t ht (hrun t ht)
  refine ⟨hrespects, fun hissuer hother => ?_⟩
  -- the allowlist is the initial one before every step and at the end
  have hstep : ∀ s i, allowed s = allowed j →
      KeepsAllowlist self (.of (self.evmStep abiDecode) s i) →
      allowed (self.evmStep abiDecode s i).2 = allowed j :=
    fun s i hs hkeeps => (allowed_of_keepsAllowlist _ hkeeps).trans hs
  have hkeeps : ∀ t ∈ run, KeepsAllowlist self t :=
    fun t ht => ⟨hrespects t ht, hissuer t ht, hother t ht⟩
  refine ⟨finalState_of_invariant hstep rfl hkeeps, fun hunlisted t ht c hc => ?_⟩
  have hpre : allowed t.pre = allowed j := pre_of_invariant hstep rfl hkeeps t ht
  funext a
  by_contra hne
  -- a changed balance would make the issuer the admin or allowlisted
  rcases (hrespects t ht c hc).1 ⟨a, hne⟩ with hadmin | hlisted
  · exact hissuer t ht c hc hadmin
  · have hlisted : allowed t.pre c.frame.address = true := hlisted
    rw [hpre, hunlisted t ht c hc] at hlisted
    cases hlisted

/-- Code of the contract `0xC0`, which the admin `0xAD` happens to call, issues a `DELEGATECALL` of
the precompile with the calldata of `mint(0x05, 7)`. -/
def delegatedMint : SchemeCall :=
  { scheme := .delegateCall
    frame := { address := 0xC0, caller := 0xAD }
    data := [0x40, 0xc1, 0x0f, 0x19] ++ (List.replicate 31 0 ++ [5]) ++
      (List.replicate 31 0 ++ [7]) }

/-- The admin `0xAD` calls `addToAllowList(0xC0)`. -/
def adminAdds : SchemeCall :=
  { scheme := .call
    frame := { address := 0xAD, caller := 0xAD }
    data := [0x31, 0xf5, 0x91, 0x02] ++ (List.replicate 31 0 ++ [0xC0]) }

/-- Once the admin has allowlisted `0xC0`, its delegated call mints with authority of its own. -/
theorem authority_of_allowlisted_delegate :
    let run := transitions (MintPrecompile.evmStep ⟨0xAD⟩ INativeTokenCalls.solDecode) Journal.empty
      [.precompile adminAdds, .precompile delegatedMint]
    (∀ t ∈ run, RespectsAuthority ⟨0xAD⟩ t) ∧
      (finalState (MintPrecompile.evmStep ⟨0xAD⟩ INativeTokenCalls.solDecode) Journal.empty
        [.precompile adminAdds, .precompile delegatedMint]).balance 0x05 = 7 := by
  refine ⟨(authority_of_noInheritedAuthority ⟨0xAD⟩ INativeTokenCalls.solDecode Journal.empty
    [.precompile adminAdds, .precompile delegatedMint] ?_).1, by decide⟩
  intro t ht c op hc hscheme hop _
  simp only [transitions, List.mem_cons, List.not_mem_nil, or_false] at ht
  rcases ht with rfl | rfl
  -- the first call is not delegated
  · obtain rfl := EvmEvent.precompile.inj hc
    cases hscheme
  · obtain rfl := EvmEvent.precompile.inj hc
    -- the second one mints, and the first has allowlisted its issuer
    have hmint : INativeTokenCalls.solDecode delegatedMint.data = .ok (.mint 0x05 7) := by decide
    obtain rfl := Except.ok.inj (hmint.symm.trans hop)
    refine Or.inr ?_
    decide

/-- The call of `delegatedMint` mints, although its issuer is neither admin nor allowlisted. -/
theorem delegatedMint_mints :
    ¬ ∀ t ∈ transitions (MintPrecompile.evmStep ⟨0xAD⟩ INativeTokenCalls.solDecode) Journal.empty
        [.precompile delegatedMint], RespectsAuthority ⟨0xAD⟩ t := by
  intro h
  have hstep := (h _ List.mem_cons_self delegatedMint rfl).1
  have hmint : (MintPrecompile.call ⟨0xAD⟩ INativeTokenCalls.solDecode
      (delegatedMint.input Journal.empty)).2.balance 0x05 = 7 := by decide
  have hauth := hstep ⟨0x05, fun hsame => absurd (hmint.symm.trans hsame) (by decide)⟩
  revert hauth
  decide

end MintPrecompile

end EvReth
