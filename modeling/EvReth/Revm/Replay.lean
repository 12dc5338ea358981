import EvReth.Revm.Evm
import EvReth.Revm.SingleCall

/-!
# The transaction that is left in the context

`EvHandler::execution` (`crates/ev-revm/src/handler.rs`) sets the transaction of the context to each
call of a batch in turn, and leaves the last one there. `EvEvm::replay`
(`crates/ev-revm/src/api/exec.rs`) runs the transaction that the context holds: after a batch this
is the batch with the kind, value and data of the call that was executed last.
-/

namespace EvReth

open EStateM

/-- Every call of the transaction is the one that its `TxEnv` shows. -/
def EvTxEnv.ShowsEveryCall (tx : EvTxEnv) : Prop := ∀ call ∈ tx.calls, tx.setBatchCall call = tx

theorem EvTxEnv.calls_eq {tx : EvTxEnv} {calls : List Call} (h : tx.batchCalls = some calls) :
    tx.calls = calls := by
  unfold EvTxEnv.batchCalls at h
  split_ifs at h
  exact Option.some.inj h

theorem outsideJournal_tx : OutsideJournal Ctx.tx := fun _ _ => rfl

/-- Phases that read no more than revm shows them leave the transaction. -/
theorem Mainnet.ReadsInner.keepsPart_tx {inner : Mainnet} (h : inner.ReadsInner) :
    inner.KeepsPart Ctx.tx :=
  ⟨h.validateEnv.keeps_tx, h.validateInitialTxGas.keeps_tx, h.loadAccounts.keeps_tx,
    fun _ => (h.applyEip7702AuthList _).keeps_tx, fun _ _ => (h.firstFrameInput _ _).keeps_tx,
    fun _ => (h.runExecLoop _).keeps_tx, fun _ => (h.lastFrameResult _).keeps_tx,
    fun _ => (h.reimburseCaller _).keeps_tx, fun _ => (h.rewardBeneficiary _).keeps_tx,
    fun _ _ => (h.executionResult _ _).keeps_tx⟩

namespace EvHandler

variable {self : EvHandler} {inner : Mainnet} {ctx ctx' : Ctx} {baseTx : EvTxEnv}

/-- A call leaves itself in the context, whatever its outcome. -/
theorem tx_runCall (hinner : inner.KeepsPart Ctx.tx) (g r : U64) (call : Call) (ctx : Ctx) :
    (runCall inner baseTx g r call ctx).state.tx = baseTx.setBatchCall call := by
  have hframe : Keeps Ctx.tx (inner.firstFrameInput g r >>= inner.runExecLoop) :=
    (hinner.firstFrameInput g r).bind hinner.runExecLoop
  exact hframe { ctx with tx := baseTx.setBatchCall call }

/-- The loop leaves one of its calls in the context, if it has any. -/
theorem tx_batchLoop (hinner : inner.KeepsPart Ctx.tx) (firstIsCreate : Bool)
    (checkpoint : Journal.Checkpoint) (calls : List Call) (s : BatchState)
    (last : Option FrameResult) (ctx : Ctx) :
    (batchLoop inner baseTx firstIsCreate checkpoint calls s last ctx).state.tx = ctx.tx ∨
      ∃ call ∈ calls, (batchLoop inner baseTx firstIsCreate checkpoint calls s last ctx).state.tx =
        baseTx.setBatchCall call := by
  induction calls generalizing s last ctx with
  | nil => cases last <;> exact .inl rfl
  | cons call calls ih =>
    have hcall : (runCall inner baseTx s.remainingGas s.reservoir call ctx).state.tx =
        baseTx.setBatchCall call := tx_runCall hinner _ _ call ctx
    cases hrun : runCall inner baseTx s.remainingGas s.reservoir call ctx with
    | error e ctx₁ =>
      rw [hrun] at hcall
      refine .inr ⟨call, List.mem_cons_self, ?_⟩
      rw [batchLoop, bind_of_error hrun]
      exact hcall
    | ok result ctx₁ =>
      rw [hrun] at hcall
      cases hok : result.result.isOk with
      | false =>
        refine .inr ⟨call, List.mem_cons_self, ?_⟩
        rw [batchLoop, bind_of_ok hrun]
        simp only [hok, Bool.not_false, if_true]
        exact hcall
      | true =>
        rw [batchLoop_cons_of_ok checkpoint hrun hok]
        -- what the rest of the batch leaves is this call or a later one
        rcases ih (s.record result.gas) (some result) ctx₁ with h | ⟨call', hmem, h⟩
        · exact .inr ⟨call, List.mem_cons_self, h.trans hcall⟩
        · exact .inr ⟨call', List.mem_cons_of_mem _ hmem, h⟩

/-- Execution leaves the transaction as it was, or with a call of its batch in its `TxEnv`. -/
theorem tx_execution (hinner : inner.KeepsPart Ctx.tx) (gas : InitialAndFloorGas) (ctx : Ctx) :
    (execution inner gas ctx).state.tx = ctx.tx ∨
      ctx.tx.IsBatch ∧ ∃ call ∈ ctx.tx.calls,
        (execution inner gas ctx).state.tx = ctx.tx.setBatchCall call := by
  have hmainnet := keeps_mainnet_execution hinner gas ctx
  -- only a batch of two calls or more goes through the loop, all others through revm's execution
  cases hcalls : ctx.tx.batchCalls with
  | none =>
    rw [execution, bind_get]
    simp only [hcalls]
    exact .inl hmainnet
  | some calls =>
    match calls with
    | [] =>
      rw [execution, bind_get]
      simp only [hcalls]
      exact .inl rfl
    | [call] =>
      rw [execution, bind_get]
      simp only [hcalls]
      exact .inl hmainnet
    | first :: second :: rest =>
      rw [execution_eq_batchLoop hcalls, EvTxEnv.calls_eq hcalls]
      refine (tx_batchLoop hinner _ _ _ _ _ _).imp_right fun h => ⟨⟨_, hcalls, by simp⟩, h⟩

/-- What a transaction leaves in the context, whatever its outcome. -/
theorem tx_run (hinner : inner.KeepsPart Ctx.tx) (ctx : Ctx) :
    (self.run inner ctx).state.tx = ctx.tx ∨
      ctx.tx.IsBatch ∧ ∃ call ∈ ctx.tx.calls,
        (self.run inner ctx).state.tx = ctx.tx.setBatchCall call := by
  have hcatch : (self.run inner ctx).state.tx =
      (self.runWith inner (execution inner) ctx).state.tx := by
    unfold run catchError
    cases self.runWith inner (execution inner) ctx <;> rfl
  rw [hcatch]
  have hpre : (self.preExecution inner ctx).state.tx = ctx.tx :=
    keeps_preExecution outsideJournal_tx hinner ctx
  cases hrun : self.preExecution inner ctx with
  | error e ctx₁ =>
    rw [hrun] at hpre
    rw [runWith, bind_of_error hrun]
    exact .inl hpre
  | ok out ctx₁ =>
    obtain ⟨gas, refund⟩ := out
    rw [hrun] at hpre
    rw [runWith, bind_of_ok hrun]
    have hexec := tx_execution hinner gas ctx₁
    rw [show ctx₁.tx = ctx.tx from hpre] at hexec
    -- the phases after execution leave what it has left
    have hpost : ((execution inner gas >>= self.postExecution inner gas refund) ctx₁).state.tx =
        (execution inner gas ctx₁).state.tx :=
      Keeps.state_bind fun _ => keeps_postExecution outsideJournal_tx hinner _ _ _
    change ((execution inner gas >>= self.postExecution inner gas refund) ctx₁).state.tx = _ ∨ _ ∧
      ∃ call ∈ _, ((execution inner gas >>= self.postExecution inner gas refund) ctx₁).state.tx = _
    rw [hpost]
    exact hexec

/-! ## Frames that fail where the call changes -/

/-- Frames that succeed exactly if their call is the one that the transaction shows. -/
def shownFrames (tx : EvTxEnv) (init : FrameInit) : HandlerM FrameResult := fun ctx =>
  .ok (Transfers.frameResult init
    (if tx.setBatchCall ⟨init.kind, init.value, init.data⟩ = tx then .stop else .revert) none) ctx

/-- The payments of `mainnetOfCA` with these frames. -/
def shownOnly (tx : EvTxEnv) : Mainnet := Transfers.mainnetOfCA.withFrames (shownFrames tx)

/-- Frames that return what they are shown keep the setup. -/
theorem keepsSetup_shownOnly (tx : EvTxEnv) : (shownOnly tx).KeepsSetup := by
  have h : Transfers.mainnetOfCA.KeepsSetup := Transfers.keepsSetup _
  exact ⟨h.validateEnv, h.validateInitialTxGas, h.loadAccounts, h.applyEip7702AuthList,
    h.firstFrameInput, fun _ _ => rfl, h.lastFrameResult, h.reimburseCaller, h.rewardBeneficiary,
    h.executionResult⟩

/-- Frames that return what they are shown look at nothing else. -/
theorem readsInner_shownOnly (tx : EvTxEnv) : (shownOnly tx).ReadsInner := by
  have h : Transfers.mainnetOfCA.ReadsInner := Transfers.readsInner _
  have hframes : ∀ init, ReadsInner (shownFrames tx init) := by
    rintro init a b - ctx _ ⟨rfl, rfl⟩
    exact ⟨rfl, rfl, rfl⟩
  exact ⟨h.validateEnv, h.validateInitialTxGas, h.loadAccounts, h.applyEip7702AuthList,
    h.firstFrameInput, hframes, h.lastFrameResult, h.refund, h.eip7623CheckGasFloor,
    h.reimburseCaller, h.rewardBeneficiary, h.executionResult⟩

/-- A batch with a call that the transaction does not show leaves such a call in the context. -/
theorem batchLoop_shownOnly {tx : EvTxEnv} {calls : List Call} {call : Call} (hmem : call ∈ calls)
    (hcall : tx.setBatchCall call ≠ tx) (firstIsCreate : Bool) (entry ctx : Ctx) (s : BatchState)
    (last : Option FrameResult) :
    ∃ result ctx', batchLoop (shownOnly tx) tx firstIsCreate entry.journal.checkpoint calls s last
      ctx = .ok result ctx' ∧ ctx'.tx ≠ tx := by
  -- on the calls: the first one that does not show the transaction as it is reverts and stays
  induction calls generalizing s ctx last with
  | nil => cases hmem
  | cons first calls ih =>
    have hrun : ∃ result, runCall (shownOnly tx) tx s.remainingGas s.reservoir first ctx =
        .ok result { ctx with tx := tx.setBatchCall first } ∧
        result.result = if tx.setBatchCall first = tx then .stop else .revert :=
      ⟨_, rfl, rfl⟩
    obtain ⟨result, hrun, hresult⟩ := hrun
    by_cases hfirst : tx.setBatchCall first = tx
    · rw [if_pos hfirst] at hresult
      have htail : call ∈ calls := by
        refine (List.mem_cons.mp hmem).resolve_left ?_
        rintro rfl
        exact hcall hfirst
      rw [batchLoop_cons_of_ok _ hrun (by rw [hresult]; rfl)]
      exact ih htail _ _ _
    · rw [if_neg hfirst] at hresult
      rw [batchLoop_cons_of_fail hrun (by rw [hresult]; rfl)]
      exact ⟨_, _, rfl, hfirst⟩

/-- Execution leaves the transaction of the context in place, whatever revm does in it. -/
def LeavesTx (tx : EvTxEnv) : Prop :=
  ∀ inner : Mainnet, inner.KeepsSetup → inner.ReadsInner → ∀ gas ctx result ctx', ctx.tx = tx →
    execution inner gas ctx = .ok result ctx' → ctx'.tx = tx

/-- The transactions that execution leaves in place: those without a batch, and batches of one and
the same call. -/
theorem leavesTx_iff {tx : EvTxEnv} : LeavesTx tx ↔ ¬ tx.IsBatch ∨ tx.ShowsEveryCall := by
  constructor
  · intro h
    by_contra hcontra
    obtain ⟨hbatch, hshows⟩ := not_or.mp hcontra
    obtain ⟨calls, hcalls, hlen⟩ := not_not.mp hbatch
    obtain ⟨call, hmem, hcall⟩ : ∃ call ∈ tx.calls, tx.setBatchCall call ≠ tx := by
      simpa [EvTxEnv.ShowsEveryCall] using hshows
    rw [EvTxEnv.calls_eq hcalls] at hmem
    match calls, hlen with
    | first :: second :: rest, _ =>
      -- frames that return what they are shown expose the transaction of the last call
      let ctx : Ctx := { block := { number := 1, beneficiary := 0xBE, basefee := 1 }, tx,
                         journal := Journal.empty }
      obtain ⟨result, ctx', hrun, hne⟩ := batchLoop_shownOnly hmem hcall first.dest.isCreate ctx ctx
        (batchEntry (shownOnly tx) (Transfers.initialGas false) ctx) none
      refine hne (h (shownOnly tx) (keepsSetup_shownOnly tx) (readsInner_shownOnly tx)
        (Transfers.initialGas false) ctx result ctx' rfl ?_)
      rw [execution_eq_batchLoop (show ctx.tx.batchCalls = _ from hcalls)]
      exact hrun
  · rintro h inner - hinner gas ctx result ctx' rfl hexec
    have htx := tx_execution hinner.keepsPart_tx gas ctx
    rw [hexec] at htx
    rcases htx with htx | ⟨hbatch, call, hmem, htx⟩
    · exact htx
    · exact htx.trans (h.resolve_left (not_not.mpr hbatch) call hmem)

end EvHandler

/-! ## Replay -/

namespace EvEvm

variable {handler : EvHandler} {inner : Mainnet} {tx : EvTxEnv} {a : EvEvm}

/-- A replay runs the transaction that is in the context. -/
theorem replay_eq_transact : replay handler inner a = transact handler inner a.ctx.tx a := rfl

/-- The context keeps the transaction that was run last. -/
theorem tx_transact : (transact handler inner tx a).state.ctx.tx =
    (handler.transactOne inner tx a.ctx).state.tx := by
  cases hrun : handler.transactOne inner tx a.ctx with
  | ok result ctx => rw [transact_of_ok hrun]; rfl
  | error e ctx => rw [transact_of_error hrun]; rfl

/-- On the same database, `replay` does what the transaction has done before: the same result and
state, or the same error. -/
def ReplaysAlike (tx : EvTxEnv) : Prop :=
  ∀ (handler : EvHandler) (inner : Mainnet), inner.KeepsSetup → inner.ReadsInner → ∀ a : EvEvm,
    replay handler inner (transact handler inner tx a).state = transact handler inner tx a

/-- A transaction that is left in the context is replayed as it was run. -/
theorem replaysAlike_of_shows (h : ¬ tx.IsBatch ∨ tx.ShowsEveryCall) : ReplaysAlike tx := by
  intro handler inner hsetup hinner a
  have htx : (transact handler inner tx a).state.ctx.tx = tx := by
    rw [tx_transact]
    rcases @EvHandler.tx_run handler inner hinner.keepsPart_tx { a.ctx with tx } with
      hrun | ⟨hbatch, call, hmem, hrun⟩
    · exact hrun
    · exact hrun.trans (h.resolve_left (not_not.mpr hbatch) call hmem)
  rw [replay_eq_transact, htx]
  exact transact_eq_of_same (same_transact hsetup).symm

/-- Execution leaves the transaction in place and replay repeats it, for exactly the transactions
that are no batch and the batches that make one and the same call. -/
theorem leavesTx_and_replaysAlike_iff (tx : EvTxEnv) :
    EvHandler.LeavesTx tx ∧ ReplaysAlike tx ↔ ¬ tx.IsBatch ∨ tx.ShowsEveryCall := by
  constructor
  · rintro ⟨hleaves, -⟩
    exact EvHandler.leavesTx_iff.mp hleaves
  · intro h
    exact ⟨EvHandler.leavesTx_iff.mpr h, replaysAlike_of_shows h⟩

/-- The payments and creations of `0xCA` with its first two nonces. -/
def twoCreations : Mainnet := Transfers.mainnet fun _ nonce =>
  if nonce = 0 then 0x0df8e22177567f0ae77e5a0ed75c81bceb2c311c
  else 0xa9fcd6e4aed94905465784cbe6d4f99a2ad04be6

/-- The EVM of a block in which `0xCA` has a balance and has not sent a transaction yet. -/
def fundedEvm : EvEvm :=
  EvEvm.new
    { cfgEnv := { chainId := 1, spec := .prague }
      blockEnv :=
        { number := 1
          beneficiary := 0xBE
          timestamp := 1710338136
          difficulty := 0
          prevrandao := some 0
          gasLimit := 30000000
          basefee := 1
          blobExcessGasAndPrice := none
          slotNum := 0 } }
    fun a => if a = 0xCA then some { info := { balance := 1000000 } } else none

/-- The nonce with which a transaction has left an account. -/
def nonceAfter (outcome : EStateM.Result Failure EvEvm ResultAndState) (addr : Address) :
    Option U64 :=
  match outcome with
  | .ok out _ => some (out.state.nonce addr)
  | .error _ _ => none

/-- A creation followed by a payment succeeds and leaves the payment in the context. Its replay on
the same state takes the batch for one that begins with a call: it spends a nonce before the
creation, which spends another one. -/
theorem replay_spends_two_nonces :
    let outcome := transact ⟨none, none⟩ twoCreations (EvHandler.createThenPay 0).tx fundedEvm
    twoCreations.KeepsSetup ∧ twoCreations.ReadsInner ∧ nonceAfter outcome 0xCA = some 1 ∧
      outcome.state.ctx.tx ≠ (EvHandler.createThenPay 0).tx ∧
      nonceAfter (replay ⟨none, none⟩ twoCreations outcome.state) 0xCA = some 2 := by
  refine ⟨Transfers.keepsSetup _, Transfers.readsInner _, ?_, ?_, ?_⟩
  · decide +kernel
  · decide +kernel
  · decide +kernel

end EvEvm

end EvReth
