import EvReth.Revm.Handler.Batch
import EvReth.Revm.Handler.Validation

/-!
# The phases of a transaction

What revm documents about the environment its phases run in, and the decomposition of a transaction
into the phases before, during and after execution.
-/

namespace EvReth

open EStateM

/-- A phase that succeeds leaves the transaction, the block and the configuration as they were, and
does not change which accounts can be loaded. -/
structure Ctx.SameEnv (ctx ctx' : Ctx) : Prop where
  tx : ctx'.tx = ctx.tx
  block : ctx'.block = ctx.block
  cfg : ctx'.cfg = ctx.cfg
  dbError : ctx'.journal.dbError = ctx.journal.dbError

theorem Ctx.SameEnv.refl (ctx : Ctx) : ctx.SameEnv ctx := ⟨rfl, rfl, rfl, rfl⟩

theorem Ctx.SameEnv.trans {ctx₁ ctx₂ ctx₃ : Ctx} (h : ctx₁.SameEnv ctx₂) (h' : ctx₂.SameEnv ctx₃) :
    ctx₁.SameEnv ctx₃ :=
  ⟨h'.tx.trans h.tx, h'.block.trans h.block, h'.cfg.trans h.cfg, h'.dbError.trans h.dbError⟩

/-- The phase keeps the environment when it succeeds. -/
def KeepsEnv {α : Type} (x : HandlerM α) : Prop :=
  ∀ ctx a ctx', x ctx = .ok a ctx' → ctx.SameEnv ctx'

/-- revm's phases keep the environment; frames are considered separately. -/
structure Mainnet.KeepsEnvironment (inner : Mainnet) : Prop where
  validateEnv : KeepsEnv inner.validateEnv
  validateInitialTxGas : KeepsEnv inner.validateInitialTxGas
  loadAccounts : KeepsEnv inner.loadAccounts
  applyEip7702AuthList : ∀ gas, KeepsEnv (inner.applyEip7702AuthList gas)
  firstFrameInput : ∀ g r, KeepsEnv (inner.firstFrameInput g r)
  lastFrameResult : ∀ result, KeepsEnv (inner.lastFrameResult result)
  reimburseCaller : ∀ result, KeepsEnv (inner.reimburseCaller result)
  rewardBeneficiary : ∀ gas, KeepsEnv (inner.rewardBeneficiary gas)

namespace EvHandler

variable {self : EvHandler} {inner : Mainnet} {ctx ctx' : Ctx}

/-! ## Before execution -/

/-- The contexts between the phases before execution. -/
structure PreTrace (handler : EvHandler) (inner : Mainnet) (ctx : Ctx) (gas : InitialAndFloorGas)
    (refund : U64) (ctx' : Ctx) where
  afterEnv : Ctx
  afterGas : Ctx
  afterDeduct : Ctx
  afterLoad : Ctx
  initial : InitialAndFloorGas
  hEnv : inner.validateEnv ctx = .ok () afterEnv
  hGas : validateInitialTxGas inner afterEnv = .ok initial afterGas
  hDeduct : handler.validateAgainstStateAndDeductCaller afterGas = .ok () afterDeduct
  hLoad : inner.loadAccounts afterDeduct = .ok () afterLoad
  hAuth : inner.applyEip7702AuthList initial afterLoad = .ok (refund, gas) ctx'

/-- The phases before the frames have run one after the other. -/
theorem preTrace_of_ok {gas : InitialAndFloorGas} {refund : U64}
    (h : self.preExecution inner ctx = .ok (gas, refund) ctx') :
    Nonempty (PreTrace self inner ctx gas refund ctx') := by
  obtain ⟨⟨⟩, afterEnv, hEnv, h⟩ := bind_eq_ok h
  obtain ⟨initial, afterGas, hGas, h⟩ := bind_eq_ok h
  obtain ⟨⟨⟩, afterDeduct, hDeduct, h⟩ := bind_eq_ok h
  obtain ⟨⟨⟩, afterLoad, hLoad, h⟩ := bind_eq_ok h
  obtain ⟨⟨refund', gas'⟩, ctx'', hAuth, h⟩ := bind_eq_ok h
  obtain ⟨hout, rfl⟩ := EStateM.Result.ok.inj h
  obtain ⟨rfl, rfl⟩ := Prod.mk.inj hout
  exact ⟨⟨afterEnv, afterGas, afterDeduct, afterLoad, initial, hEnv, hGas, hDeduct, hLoad, hAuth⟩⟩

/-- The gas check returns the context as it found it, or what the mainnet check returns. -/
theorem validateInitialTxGas_cases {gas : InitialAndFloorGas}
    (h : validateInitialTxGas inner ctx = .ok gas ctx') :
    ctx.tx.batchCalls ≠ some [] ∧
      (∀ calls, ctx.tx.batchCalls = some calls → (calls.drop 1).any (·.dest.isCreate) = false) ∧
      (ctx' = ctx ∨ inner.validateInitialTxGas ctx = .ok gas ctx') := by
  replace h := bind_get.symm.trans h
  cases hcalls : ctx.tx.batchCalls with
  | none =>
    simp only [hcalls] at h
    exact ⟨by simp, by simp, .inr h⟩
  | some calls =>
    simp only [hcalls] at h
    -- no calls, a misplaced `CREATE`, a batch, a single call
    split_ifs at h with hempty hcreate hlen
    · cases h
    · cases h
    · refine ⟨?_, ?_, .inl ?_⟩
      · rintro hnil
        simp [Option.some.inj hnil] at hempty
      · rintro _ ⟨⟩
        simpa using hcreate
      · cases hgas : validateBatchInitialTxGas inner ctx.cfg ctx.tx.inner calls with
        | error e =>
          rw [hgas] at h
          cases h
        | ok g =>
          rw [hgas] at h
          exact (EStateM.Result.ok.inj h).2.symm
    · refine ⟨?_, ?_, .inr h⟩
      · rintro hnil
        simp [Option.some.inj hnil] at hempty
      · rintro _ ⟨⟩
        simpa using hcreate

theorem keepsEnv_validateInitialTxGas (hinner : inner.KeepsEnvironment) :
    KeepsEnv (validateInitialTxGas inner) := by
  intro ctx gas ctx' h
  obtain ⟨-, -, rfl | h⟩ := validateInitialTxGas_cases h
  · exact Ctx.SameEnv.refl _
  · exact hinner.validateInitialTxGas _ _ _ h

/-- The deduction keeps the environment. -/
theorem keepsEnv_validateAgainstState : KeepsEnv (self.validateAgainstStateAndDeductCaller) := by
  intro ctx _ ctx' h
  obtain ⟨j, hd, rfl⟩ := deduct_of_validate self ctx h
  exact ⟨rfl, rfl, rfl, dbError_deduct ctx hd⟩

theorem PreTrace.sameEnv_afterGas (hinner : inner.KeepsEnvironment) {gas : InitialAndFloorGas}
    {refund : U64} (t : PreTrace self inner ctx gas refund ctx') : ctx.SameEnv t.afterGas :=
  (hinner.validateEnv _ _ _ t.hEnv).trans (keepsEnv_validateInitialTxGas hinner _ _ _ t.hGas)

/-- The phases before the frames keep the environment. -/
theorem keepsEnv_preExecution (hinner : inner.KeepsEnvironment) :
    KeepsEnv (self.preExecution inner) := by
  rintro ctx ⟨gas, refund⟩ ctx' h
  obtain ⟨t⟩ := preTrace_of_ok h
  exact (((t.sameEnv_afterGas hinner).trans (keepsEnv_validateAgainstState _ _ _ t.hDeduct)).trans
    (hinner.loadAccounts _ _ _ t.hLoad)).trans (hinner.applyEip7702AuthList _ _ _ _ t.hAuth)

/-- A transaction without calls does not reach execution. -/
theorem batchCalls_ne_nil (hinner : inner.KeepsEnvironment) {gas : InitialAndFloorGas}
    {refund : U64} (h : self.preExecution inner ctx = .ok (gas, refund) ctx') :
    ctx'.tx.batchCalls ≠ some [] := by
  obtain ⟨t⟩ := preTrace_of_ok h
  -- the gas check refuses an empty list, and the phases keep the transaction
  have hafter := (validateInitialTxGas_cases t.hGas).1
  rw [(hinner.validateEnv _ _ _ t.hEnv).tx] at hafter
  rwa [(keepsEnv_preExecution hinner _ _ _ h).tx]

/-! ## The whole transaction -/

theorem catchError_of_ok {α : Type} {x : HandlerM α} {a : α} {ctx' : Ctx} (h : x ctx = .ok a ctx') :
    catchError x ctx = .ok a ctx' := by
  simp [catchError, h]

theorem catchError_congr {α : Type} {x y : HandlerM α} (h : x ctx = y ctx) :
    catchError x ctx = catchError y ctx := by
  rw [catchError, catchError, h]

/-- A transaction that runs to a result has passed through all phases. -/
theorem run_eq_ok {out : ExecutionResult} (h : self.run inner ctx = .ok out ctx') :
    ∃ gas refund result ctx₁ ctx₂, self.preExecution inner ctx = .ok (gas, refund) ctx₁ ∧
      execution inner gas ctx₁ = .ok result ctx₂ ∧
      self.postExecution inner gas refund result ctx₂ = .ok out ctx' := by
  -- `catch_error` turns no error into a result
  have hrun : self.runWith inner (execution inner) ctx = .ok out ctx' := by
    unfold run catchError at h
    cases hwith : self.runWith inner (execution inner) ctx with
    | ok a ctx₁ =>
      rw [hwith] at h
      exact h
    | error e ctx₁ =>
      rw [hwith] at h
      cases h
  obtain ⟨⟨gas, refund⟩, ctx₁, hpre, hrun⟩ := bind_eq_ok hrun
  obtain ⟨result, ctx₂, hexec, hpost⟩ := bind_eq_ok hrun
  exact ⟨gas, refund, result, ctx₁, ctx₂, hpre, hexec, hpost⟩

/-- The contexts between the phases of a transaction. -/
structure RunTrace (handler : EvHandler) (inner : Mainnet) (ctx : Ctx) (out : ExecutionResult)
    (ctx' : Ctx) where
  gas : InitialAndFloorGas
  refund : U64
  entry : Ctx
  execResult : FrameResult
  exit : Ctx
  billed : FrameResult
  afterReimburse : Ctx
  afterReward : Ctx
  pre : PreTrace handler inner ctx gas refund entry
  hPre : handler.preExecution inner ctx = .ok (gas, refund) entry
  hExec : execution inner gas entry = .ok execResult exit
  hBilled : billed = inner.eip7623CheckGasFloor exit (inner.refund exit execResult refund) gas
  hReimburse : reimburseCaller inner billed exit = .ok () afterReimburse
  hReward : handler.rewardBeneficiary inner billed afterReimburse = .ok () afterReward
  hResult : inner.executionResult billed
    (inner.buildResultGas (inner.refund exit execResult refund).gas gas) afterReward = .ok out ctx'

/-- A run that succeeds has gone through all phases. -/
theorem runTrace_of_ok {out : ExecutionResult} (h : self.run inner ctx = .ok out ctx') :
    Nonempty (RunTrace self inner ctx out ctx') := by
  obtain ⟨gas, refund, result, entry, exit, hpre, hexec, hpost⟩ := run_eq_ok h
  obtain ⟨pre⟩ := preTrace_of_ok hpre
  -- the two reads of the context before refund and floor
  replace hpost := bind_get.symm.trans hpost
  replace hpost := bind_get.symm.trans hpost
  obtain ⟨⟨⟩, afterReimburse, hreimburse, hpost⟩ := bind_eq_ok hpost
  obtain ⟨⟨⟩, afterReward, hreward, hout⟩ := bind_eq_ok hpost
  exact ⟨⟨gas, refund, entry, result, exit, _, afterReimburse, afterReward, pre, hpre, hexec, rfl,
    hreimburse, hreward, hout⟩⟩

end EvHandler

namespace Transfers

/-- A credit succeeds only if the account can be loaded. -/
theorem credit_eq (addr : Address) (amount : U256) (ctx : Ctx) :
    credit addr amount ctx =
      match ctx.journal.dbError addr with
      | some e => .error (.error (.database e)) ctx
      | none => .ok () { ctx with journal := (ctx.journal.incrBalance addr amount).2 } := by
  unfold credit onJournal
  cases hdb : ctx.journal.dbError addr with
  | some e => rw [bind_of_error (loadAccount_of_error hdb)]
  | none =>
    rw [bind_of_ok (loadAccount_of_none hdb)]
    rfl

/-- A credit changes the journal, and nothing else. -/
theorem credit_eq_ok {addr : Address} {amount : U256} {ctx ctx' : Ctx}
    (h : credit addr amount ctx = .ok () ctx') :
    ctx' = { ctx with journal := (ctx.journal.incrBalance addr amount).2 } := by
  rw [credit_eq] at h
  cases hdb : ctx.journal.dbError addr with
  | some e =>
    rw [hdb] at h
    cases h
  | none =>
    rw [hdb] at h
    exact (EStateM.Result.ok.inj h).2.symm

theorem keepsEnv_credit (addr : Address) (amount : U256) : KeepsEnv (credit addr amount) := by
  intro ctx _ ctx' h
  rw [credit_eq_ok h]
  exact ⟨rfl, rfl, rfl, ctx.journal.dbError_incrBalance addr amount⟩

/-- Payments keep the environment. -/
theorem keepsEnvironment (createAddress : Address → U64 → Address) :
    (mainnet createAddress).KeepsEnvironment := by
  -- the phases that only read the context return it
  have hpure : ∀ {α : Type} {a b : α} {ctx ctx' : Ctx},
      (EStateM.Result.ok a ctx : EStateM.Result Failure Ctx α) = .ok b ctx' → ctx.SameEnv ctx' := by
    intro α a b ctx ctx' h
    obtain ⟨-, rfl⟩ := EStateM.Result.ok.inj h
    exact Ctx.SameEnv.refl ctx
  refine ⟨?_, ?_, ?_, ?_, ?_, ?_, ?_, ?_⟩
  · exact fun _ _ _ h => hpure h
  · exact fun _ _ _ h => hpure h
  · exact fun _ _ _ h => hpure h
  · exact fun _ _ _ _ h => hpure h
  · exact fun _ _ _ _ _ h => hpure h
  · exact fun _ _ _ _ h => hpure h
  · exact fun _ _ _ _ h => keepsEnv_credit _ _ _ _ _ h
  · exact fun _ _ _ _ h => keepsEnv_credit _ _ _ _ _ h

end Transfers

end EvReth
