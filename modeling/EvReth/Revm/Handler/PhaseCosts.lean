import EvReth.Revm.Handler.AccountCost
import EvReth.Revm.Handler.Nonce

/-!
# The phases that cost nothing

Outside of its frames, a transaction costs an account nothing but what the deduction takes: the
phases of revm around the frames take nothing from anyone. What the frames cost is counted
separately; they may cost nothing, and a batch that fails restores what it has taken.
-/

namespace EvReth

open EStateM Graded

/-- The phases of revm around the frames are free. -/
structure Mainnet.PhasesSpare (inner : Mainnet) (R : Graded ℕ Ctx) : Prop where
  validateEnv : R.Free inner.validateEnv
  validateInitialTxGas : R.Free inner.validateInitialTxGas
  loadAccounts : R.Free inner.loadAccounts
  applyEip7702AuthList : ∀ gas, R.Free (inner.applyEip7702AuthList gas)
  reimburseCaller : ∀ result, R.Free (inner.reimburseCaller result)
  rewardBeneficiary : ∀ gas, R.Free (inner.rewardBeneficiary gas)
  executionResult : ∀ result gas, R.Free (inner.executionResult result gas)

/-- The frames of revm are free. -/
structure Mainnet.FramesSpare (inner : Mainnet) (R : Graded ℕ Ctx) : Prop where
  firstFrameInput : ∀ g r, R.Free (inner.firstFrameInput g r)
  runExecLoop : ∀ init, R.Free (inner.runExecLoop init)
  lastFrameResult : ∀ result, R.Free (inner.lastFrameResult result)

namespace EvHandler

variable {self : EvHandler} {inner : Mainnet} {cost : AccountCost} {addr : Address}
  {ctx ctx' : Ctx} {baseTx : EvTxEnv}

/-! ## Before execution -/

/-- The gas check of the handler is free where that of revm is. -/
theorem free_validateInitialTxGas (hinner : inner.PhasesSpare (cost.ctx addr)) :
    (cost.ctx addr).Free (validateInitialTxGas inner) := by
  intro ctx gas ctx' h
  obtain ⟨-, -, rfl | h⟩ := validateInitialTxGas_cases h
  · exact (cost.ctx addr).refl _
  · exact hinner.validateInitialTxGas _ _ _ h

/-- The nonce that a call spends is not lost. -/
theorem free_bumpIfCall (isCall : Bool) (caller : Address) (j : Journal) :
    (cost.journal addr).rel 0 j (bumpIfCall isCall caller j) := by
  rw [bumpIfCall]
  split_ifs
  · exact AccountCost.free_bumpNonce
  · exact (cost.journal addr).refl j

/-- The deduction costs what it takes from the funds. -/
theorem rel_deduct {j j' : Journal} {n : ℕ} (h : deduct ctx j = .ok () j')
    (hpaid : (j.balance addr).toNat ≤ (j'.balance addr).toNat + n) :
    (cost.journal addr).rel (cost.charge n) j j' := by
  obtain ⟨-, ⟨-, v, -, rfl⟩ | ⟨sponsor, -, -, rfl⟩⟩ := deduct_cases ctx h
  · refine rel_free (AccountCost.rel_setBalance ?_) (free_bumpIfCall _ _ _)
    rintro rfl
    rwa [balance_bumpIfCall, Journal.balance_setBalance, if_pos rfl] at hpaid
  · refine free_rel (free_bumpIfCall _ _ _) (AccountCost.rel_setBalance ?_)
    rintro rfl
    rw [balance_bumpIfCall]
    rwa [Journal.balance_setBalance, if_pos rfl] at hpaid

/-- Before the frames run, an account pays what the deduction takes. -/
theorem PreTrace.rel (hinner : inner.PhasesSpare (cost.ctx addr)) {gas : InitialAndFloorGas}
    {refund : U64} (t : PreTrace self inner ctx gas refund ctx') {n : ℕ}
    (hpaid : (t.afterGas.journal.balance addr).toNat ≤
      (t.afterDeduct.journal.balance addr).toNat + n) :
    (cost.ctx addr).rel (cost.charge n) ctx ctx' := by
  have hgas : (cost.ctx addr).rel 0 ctx t.afterGas :=
    free_trans (hinner.validateEnv _ _ _ t.hEnv) (free_validateInitialTxGas hinner _ _ _ t.hGas)
  have hdeduct : (cost.ctx addr).rel (cost.charge n) t.afterGas t.afterDeduct := by
    obtain ⟨j, hd, heq⟩ := deduct_of_validate self _ t.hDeduct
    rw [heq] at hpaid ⊢
    exact rel_deduct hd hpaid
  have hauth : (cost.ctx addr).rel 0 t.afterDeduct ctx' :=
    free_trans (hinner.loadAccounts _ _ _ t.hLoad) (hinner.applyEip7702AuthList _ _ _ _ t.hAuth)
  exact rel_free (free_rel hgas hdeduct) hauth

/-! ## Execution -/

/-- A call of a batch is free where the frames are. -/
theorem free_runCall (hinner : inner.FramesSpare (cost.ctx addr)) (g r : U64) (call : Call) :
    (cost.ctx addr).Free (runCall inner baseTx g r call) := by
  intro ctx result ctx' h
  obtain ⟨init, ctx₁, hinit, hloop⟩ := runCall_eq_ok h
  have hset := hinner.firstFrameInput g r _ _ _ hinit
  -- the call that the context is set to does not show in the journal
  show (cost.journal addr).rel 0 ctx.journal ctx'.journal
  exact free_trans hset (hinner.runExecLoop init _ _ _ hloop)

/-- A batch that fails leaves nothing lost. -/
theorem free_reverted (firstIsCreate : Bool) (entry ctx : Ctx) :
    (cost.ctx addr).rel 0 entry (reverted baseTx firstIsCreate entry ctx) := by
  have hrevert : (cost.journal addr).rel 0 entry.journal
      (ctx.journal.checkpointRevert entry.journal.checkpoint) :=
    AccountCost.free_checkpointRevert
  show (cost.journal addr).rel 0 entry.journal (reverted baseTx firstIsCreate entry ctx).journal
  rw [reverted]
  split_ifs
  · exact free_trans hrevert AccountCost.free_bumpNonce
  · exact hrevert

/-- The execution of a transaction is free where the frames are. -/
theorem free_execution (hinner : inner.FramesSpare (cost.ctx addr)) {gas : InitialAndFloorGas}
    {result : FrameResult} (hcalls : ctx.tx.batchCalls ≠ some [])
    (h : execution inner gas ctx = .ok result ctx') : (cost.ctx addr).rel 0 ctx ctx' := by
  by_cases hbatch : ctx.tx.IsBatch
  · obtain ⟨calls, hcalls, hlen⟩ := hbatch
    match calls, hlen with
    | first :: second :: rest, _ =>
      rw [execution_eq_batchLoop hcalls] at h
      rcases batchLoop_cases h nofun with
        ⟨results, r, hruns, -⟩ | ⟨before, call, after, results, failed, ctx₁, -, -, -, -, rfl, -⟩
      · exact hruns.rel (R := (cost.ctx addr).rel 0) (cost.ctx addr).refl
          (fun _ _ _ => free_trans) fun g r call => free_runCall hinner g r call
      · exact free_reverted _ _ _
  · rw [execution_eq_of_not_batch gas hcalls hbatch] at h
    obtain ⟨init, ctx₁, frame, ctx₂, hinit, hloop, hlast⟩ := mainnet_execution_eq_ok h
    have hbefore := hinner.firstFrameInput _ _ _ _ _ hinit
    have hrun := hinner.runExecLoop init _ _ _ hloop
    exact free_trans (free_trans hbefore hrun) (hinner.lastFrameResult _ _ _ _ hlast)

variable (self inner addr ctx) in
/-- What the balance of an account falls by while the frames of a transaction run. -/
def takenByFrames : ℕ :=
  match self.preExecution inner ctx with
  | .ok (gas, _) entry =>
    match execution inner gas entry with
    | .ok _ exit => (entry.journal.balance addr).toNat - (exit.journal.balance addr).toNat
    | .error _ _ => 0
  | .error _ _ => 0

/-- What the frames take is the difference of the balances around them. -/
theorem RunTrace.takenByFrames_eq {out : ExecutionResult}
    (t : RunTrace self inner ctx out ctx') : self.takenByFrames inner addr ctx =
      (t.entry.journal.balance addr).toNat - (t.exit.journal.balance addr).toNat := by
  simp only [takenByFrames, t.hPre, t.hExec]

/-- Frames that touch what they change cost an account what they take from it. -/
theorem RunTrace.rel_takenByFrames (hinner : inner.FramesSpare (AccountCost.nothing.ctx addr))
    (henv : inner.KeepsEnvironment) {out : ExecutionResult} (t : RunTrace self inner ctx out ctx') :
    (AccountCost.lostFunds.ctx addr).rel (self.takenByFrames inner addr ctx) t.entry t.exit := by
  rw [t.takenByFrames_eq]
  exact AccountCost.rel_lostFunds
    (free_execution hinner (batchCalls_ne_nil henv t.hPre) t.hExec)

/-! ## After execution -/

/-- Whoever has paid for the gas gets back what is left. -/
theorem free_reimburseCaller (hinner : inner.PhasesSpare (cost.ctx addr))
    (result : FrameResult) : (cost.ctx addr).Free (reimburseCaller inner result) := by
  intro ctx _ ctx' h
  cases hsponsor : ctx.tx.sponsor with
  | none =>
    rw [reimburseCaller_normal inner result ctx hsponsor] at h
    exact hinner.reimburseCaller _ _ _ _ h
  | some sponsor =>
    rw [reimburseCaller_eq_ok hsponsor h]
    refine AccountCost.free_setBalance ?_
    rw [BitVec.toNat_saturatingAdd]
    have hlt := (ctx.journal.balance sponsor).isLt
    omega

/-- The redirected fee costs nobody anything. -/
theorem free_redirected (gasUsed : U64) :
    (cost.ctx addr).rel 0 ctx (self.redirected ctx gasUsed) := by
  unfold redirected BaseFeeRedirect.credited
  cases self.redirect with
  | none => exact (cost.ctx addr).refl ctx
  | some redirect =>
    simp only
    split_ifs
    · exact (cost.ctx addr).refl ctx
    · exact AccountCost.free_incrBalance

/-- The base fee and the tip are credited only. -/
theorem free_rewardBeneficiary (hinner : inner.PhasesSpare (cost.ctx addr))
    (result : FrameResult) : (cost.ctx addr).Free (self.rewardBeneficiary inner result) := by
  intro ctx _ ctx' h
  exact free_trans (free_redirected _)
    (hinner.rewardBeneficiary _ _ _ _ (rewardBeneficiary_eq_ok h))

/-- What a transaction costs an account is what the deduction takes from its funds, and what the
frames cost. -/
theorem RunTrace.rel (hinner : inner.PhasesSpare (cost.ctx addr)) {out : ExecutionResult}
    (t : RunTrace self inner ctx out ctx') {n k : ℕ}
    (hpaid : (t.pre.afterGas.journal.balance addr).toNat ≤
      (t.pre.afterDeduct.journal.balance addr).toNat + n)
    (hexec : (cost.ctx addr).rel k t.entry t.exit) :
    (cost.ctx addr).rel (cost.charge n + k) ctx ctx' := by
  have hentry := t.pre.rel hinner hpaid
  have hpost : (cost.ctx addr).rel 0 t.exit ctx' :=
    free_trans (free_trans (free_reimburseCaller hinner _ _ _ _ t.hReimburse)
      (free_rewardBeneficiary hinner _ _ _ _ t.hReward))
      (hinner.executionResult _ _ _ _ _ t.hResult)
  exact rel_free ((cost.ctx addr).trans hentry hexec) hpost

end EvHandler

/-! ## Frames that run no code -/

namespace Transfers

variable {createAddress : Address → U64 → Address} {cost : AccountCost} {addr : Address}
  {ctx ctx' : Ctx}

theorem free_credit (a : Address) (amount : U256) : (cost.ctx addr).Free (credit a amount) := by
  intro ctx _ ctx' h
  rw [credit_eq_ok h]
  exact AccountCost.free_incrBalance

/-- A frame costs its caller at most the value that it moves, and nobody else anything. -/
theorem rel_runExecLoop {init : FrameInit} {result : FrameResult}
    (h : runExecLoop createAddress init ctx = .ok result ctx') :
    (cost.ctx addr).rel (cost.charge init.value.toNat) ctx ctx' := by
  obtain ⟨-, rfl⟩ := EStateM.Result.ok.inj h
  show (cost.journal addr).rel (cost.charge init.value.toNat) ctx.journal _
  -- a call transfers its value; a creation counts up the nonce of the caller before it does
  cases init.kind with
  | call dest =>
    obtain ⟨r, j', heq, rfl | htransfer⟩ := callFrame_cases init ctx.journal dest
    · simp only [heq]
      exact AccountCost.rel_paid_nothing _
    · simp only [heq]
      exact AccountCost.rel_transfer (fun _ => le_rfl) htransfer
  | create =>
    obtain ⟨r, created, j', heq, ⟨rfl, -⟩ | ⟨nonce, hnext, hj'⟩⟩ :=
      createFrame_cases createAddress init ctx.journal
    · simp only [heq]
      exact AccountCost.rel_paid_nothing _
    · simp only [heq]
      have hspent : (cost.journal addr).rel 0 ctx.journal
          (ctx.journal.setNonce init.caller nonce) := by
        refine AccountCost.free_setNonce ?_
        rw [BitVec.checkedAdd_eq_some_iff.mp hnext]
        exact Nat.le_add_right _ _
      rcases hj' with rfl | ⟨hfree, htransfer⟩
      · exact free_rel hspent (AccountCost.rel_paid_nothing _)
      · -- the new account has had no nonce
        have hcreated : (cost.journal addr).rel 0 (ctx.journal.setNonce init.caller nonce)
            ((ctx.journal.setNonce init.caller nonce).setNonce
              (createAddress init.caller (ctx.journal.nonce init.caller)) 1) := by
          refine AccountCost.free_setNonce ?_
          rw [hfree]
          exact Nat.zero_le _
        exact free_rel (free_trans hspent hcreated)
          (AccountCost.rel_transfer (fun _ => le_rfl) htransfer)

/-- A phase that only reads the context is free. -/
theorem free_of_read {α : Type} {x : HandlerM α} (hx : ∀ ctx, (x ctx).state = ctx) :
    (cost.ctx addr).Free x := by
  refine free_of_state fun ctx a ctx' h => ?_
  have hstate := hx ctx
  rw [h] at hstate
  exact hstate

/-- The phases of payments take nothing. -/
theorem phasesSpare : (mainnet createAddress).PhasesSpare (cost.ctx addr) where
  validateEnv := free_of_read fun _ => rfl
  validateInitialTxGas := free_of_read fun _ => rfl
  loadAccounts := free_of_read fun _ => rfl
  applyEip7702AuthList _ := free_of_read fun _ => rfl
  reimburseCaller _ _ _ _ h := free_credit _ _ _ _ _ h
  rewardBeneficiary _ _ _ _ h := free_credit _ _ _ _ _ h
  executionResult _ _ := free_of_read fun _ => rfl

/-- Where funds are not counted, the frames are free. -/
theorem framesSpare (hcharge : ∀ n, cost.charge n = 0) :
    (mainnet createAddress).FramesSpare (cost.ctx addr) where
  firstFrameInput _ _ := free_of_read fun _ => rfl
  runExecLoop init _ _ _ h := by
    rw [← hcharge init.value.toNat]
    exact rel_runExecLoop h
  lastFrameResult _ := free_of_read fun _ => rfl

end Transfers

end EvReth
