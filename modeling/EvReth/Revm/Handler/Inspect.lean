import EvReth.Revm.Handler.Fees

/-!
# Inspected and plain execution

`EvEvm::inspect_one_tx` runs the same phases as `EvEvm::transact_one`, except that its execution
phase is the one revm provides: a single frame, built from the kind, value and data of the
transaction. For a batch that is the first call with the value of all calls together.
-/

namespace EvReth

open EStateM

/-- Two runs agree: on the result and the journal, or on the error and the journal. -/
def Agree {α : Type} : EStateM.Result Failure Ctx α → EStateM.Result Failure Ctx α → Prop
  | .ok a ctx, .ok b ctx' => a = b ∧ ctx.journal = ctx'.journal
  | .error e ctx, .error e' ctx' => e = e' ∧ ctx.journal = ctx'.journal
  | _, _ => False

theorem Agree.refl {α : Type} (r : EStateM.Result Failure Ctx α) : Agree r r := by
  cases r <;> exact ⟨rfl, rfl⟩

/-- Runs after which an account has different balances do not agree. -/
theorem not_agree_of_balance {α : Type} {r r' : EStateM.Result Failure Ctx α} (a : Address)
    (h : r.state.journal.balance a ≠ r'.state.journal.balance a) : ¬ Agree r r' := by
  intro hagree
  refine h (congrArg (Journal.balance · a) ?_)
  cases r with
  | ok out ctx =>
    cases r' with
    | ok out' ctx' => exact hagree.2
    | error e ctx' => exact hagree.elim
  | error e ctx =>
    cases r' with
    | ok out' ctx' => exact hagree.elim
    | error e' ctx' => exact hagree.2

/-- No load of an account fails. -/
def Ctx.Loads (ctx : Ctx) : Prop := ∀ a, ctx.journal.dbError a = none

/-- Phases that keep the environment keep which accounts can be loaded. -/
theorem Ctx.Loads.of_sameEnv {ctx ctx' : Ctx} (h : ctx.Loads) (hsame : ctx.SameEnv ctx') :
    ctx'.Loads := fun a => by rw [hsame.dbError, h a]

/-- revm's phases after the checks fail only when the database does, and keep the status of the
result; building the first frame emits no log. -/
structure Mainnet.Completes (inner : Mainnet) : Prop where
  firstFrameInput : ∀ g r ctx, Ctx.Loads ctx → ∃ init ctx',
    inner.firstFrameInput g r ctx = .ok init ctx' ∧ ctx'.journal.logs = ctx.journal.logs
  lastFrameResult : ∀ result ctx, Ctx.Loads ctx → ∃ result' ctx',
    inner.lastFrameResult result ctx = .ok result' ctx' ∧ result'.result = result.result
  refund : ∀ ctx result r, (inner.refund ctx result r).result = result.result
  eip7623CheckGasFloor : ∀ ctx result gas,
    (inner.eip7623CheckGasFloor ctx result gas).result = result.result
  reimburseCaller : ∀ result ctx, Ctx.Loads ctx → ∃ ctx',
    inner.reimburseCaller result ctx = .ok () ctx'
  rewardBeneficiary : ∀ gas ctx, Ctx.Loads ctx → ∃ ctx',
    inner.rewardBeneficiary gas ctx = .ok () ctx'
  executionResult : ∀ result gas ctx, Ctx.Loads ctx → ∃ out ctx',
    inner.executionResult result gas ctx = .ok out ctx' ∧ out.result = result.result

/-- The phases of payments fail with the database only. -/
theorem Transfers.completes (createAddress : Address → U64 → Address) :
    (Transfers.mainnet createAddress).Completes := by
  have hcredit : ∀ (addr : Address) (amount : U256) (ctx : Ctx), ctx.Loads →
      ∃ ctx', Transfers.credit addr amount ctx = .ok () ctx' := by
    intro addr amount ctx hloads
    rw [Transfers.credit_eq, hloads addr]
    exact ⟨_, rfl⟩
  refine ⟨?_, ?_, ?_, ?_, ?_, ?_, ?_⟩
  · exact fun _ _ ctx _ => ⟨_, ctx, rfl, rfl⟩
  · exact fun _ ctx _ => ⟨_, ctx, rfl, rfl⟩
  · exact fun _ _ _ => rfl
  · intro _ result gas
    change (Transfers.eip7623CheckGasFloor result gas).result = result.result
    unfold Transfers.eip7623CheckGasFloor
    split_ifs <;> rfl
  · exact fun _ _ hloads => hcredit _ _ _ hloads
  · exact fun _ _ hloads => hcredit _ _ _ hloads
  · exact fun _ _ ctx _ => ⟨_, ctx, rfl, rfl⟩

/-- The handler with another frame loop. -/
def Mainnet.withFrames (inner : Mainnet) (frames : FrameInit → HandlerM FrameResult) : Mainnet :=
  { inner with runExecLoop := frames }

namespace EvHandler

variable {self : EvHandler} {inner : Mainnet} {ctx : Ctx}

/-- The phases before execution accept the transaction. -/
def Passes (self : EvHandler) (inner : Mainnet) (ctx : Ctx) : Prop :=
  ∃ out ctx', self.preExecution inner ctx = .ok out ctx'

/-! ## Where the two executions are the same -/

/-- Executions that agree behind the checks make runs that agree. -/
theorem runWith_congr {exec exec' : InitialAndFloorGas → HandlerM FrameResult}
    (h : ∀ gas refund ctx', self.preExecution inner ctx = .ok (gas, refund) ctx' →
      exec gas ctx' = exec' gas ctx') :
    self.runWith inner exec ctx = self.runWith inner exec' ctx := by
  refine bind_congr_of_ok fun out ctx' hpre => ?_
  obtain ⟨gas, refund⟩ := out
  -- the phases after execution see the same result in the same context
  exact bind_congr_left (h gas refund ctx' hpre)

/-- A transaction that is not a batch, or does not pass the checks, runs the same way inspected. -/
theorem inspectOneTx_eq_transactOne (self : EvHandler) (ctx : Ctx) (tx : EvTxEnv)
    (henv : inner.KeepsEnvironment) (h : ¬ (tx.IsBatch ∧ self.Passes inner { ctx with tx })) :
    self.inspectOneTx inner inner.runExecLoop tx ctx = self.transactOne inner tx ctx := by
  refine catchError_congr (runWith_congr fun gas refund ctx' hpre => ?_)
  have hsame := keepsEnv_preExecution henv _ _ _ hpre
  -- the transaction that reaches execution is the one that was set
  have hbatch : ¬ ctx'.tx.IsBatch := by
    rw [hsame.tx]
    exact fun hb => h ⟨hb, _, _, hpre⟩
  exact (execution_eq_of_not_batch gas (batchCalls_ne_nil henv hpre) hbatch).symm

/-! ## Where they differ -/

/-- The reimbursement fails with the database only. -/
theorem reimburseCaller_ok (henv : inner.KeepsEnvironment) (hcomplete : inner.Completes)
    (result : FrameResult) (hloads : ctx.Loads) :
    ∃ ctx', reimburseCaller inner result ctx = .ok () ctx' ∧ ctx.SameEnv ctx' := by
  cases hsponsor : ctx.tx.sponsor with
  | none =>
    obtain ⟨ctx', h⟩ := hcomplete.reimburseCaller result ctx hloads
    exact ⟨ctx', (reimburseCaller_normal inner result ctx hsponsor).trans h,
      henv.reimburseCaller _ _ _ _ h⟩
  | some sponsor =>
    have h : reimburseCaller inner result ctx = .ok () (reimbursed ctx sponsor result.gas) := by
      rw [reimburseCaller_sponsored inner result ctx hsponsor, hloads sponsor]
    exact ⟨_, h, keepsEnv_reimburseCaller henv _ _ _ _ h⟩

/-- The reward fails with the database only. -/
theorem rewardBeneficiary_ok (henv : inner.KeepsEnvironment) (hcomplete : inner.Completes)
    (result : FrameResult) (hloads : ctx.Loads) :
    ∃ ctx', self.rewardBeneficiary inner result ctx = .ok () ctx' ∧ ctx.SameEnv ctx' := by
  have hsame : ctx.SameEnv (self.redirected ctx result.gas.spentSubRefunded) := sameEnv_redirected _
  obtain ⟨ctx', h⟩ := hcomplete.rewardBeneficiary result.gas _ (hloads.of_sameEnv hsame)
  refine ⟨ctx', ?_, hsame.trans (henv.rewardBeneficiary _ _ _ _ h)⟩
  -- the sink can be loaded like any account
  have herror : self.sinkError ctx result.gas.spentSubRefunded = none := by
    unfold sinkError
    cases self.redirect with
    | none => rfl
    | some redirect => simp [hloads redirect.feeSink]
  rw [rewardBeneficiary_eq, herror]
  exact h

/-- With a reliable database the phases after execution succeed and report the frame's status. -/
theorem postExecution_ok (self : EvHandler) (henv : inner.KeepsEnvironment)
    (hcomplete : inner.Completes) (gas : InitialAndFloorGas) (refund : U64) (result : FrameResult)
    (hloads : ctx.Loads) :
    ∃ out ctx', self.postExecution inner gas refund result ctx = .ok out ctx' ∧
      out.result = result.result := by
  have hstatus : (inner.eip7623CheckGasFloor ctx (inner.refund ctx result refund) gas).result =
      result.result := by rw [hcomplete.eip7623CheckGasFloor, hcomplete.refund]
  obtain ⟨ctx₁, hreimburse, hsame₁⟩ := reimburseCaller_ok henv hcomplete
    (inner.eip7623CheckGasFloor ctx (inner.refund ctx result refund) gas) hloads
  obtain ⟨ctx₂, hreward, hsame₂⟩ := rewardBeneficiary_ok henv hcomplete
    (inner.eip7623CheckGasFloor ctx (inner.refund ctx result refund) gas) (hloads.of_sameEnv hsame₁)
  obtain ⟨out, ctx₃, hout, hresult⟩ := hcomplete.executionResult
    (inner.eip7623CheckGasFloor ctx (inner.refund ctx result refund) gas)
    (inner.buildResultGas (inner.refund ctx result refund).gas gas) ctx₂
    ((hloads.of_sameEnv hsame₁).of_sameEnv hsame₂)
  refine ⟨out, ctx₃, ?_, hresult.trans hstatus⟩
  refine bind_get.trans (bind_get.trans ?_)
  refine (bind_of_ok hreimburse).trans ((bind_of_ok hreward).trans ?_)
  exact hout

/-- A run whose phases succeed succeeds. -/
theorem runWith_of_ok {exec : InitialAndFloorGas → HandlerM FrameResult} {gas : InitialAndFloorGas}
    {refund : U64} {result : FrameResult} {out : ExecutionResult} {ctx₁ ctx₂ ctx₃ : Ctx}
    (hpre : self.preExecution inner ctx = .ok (gas, refund) ctx₁)
    (hexec : exec gas ctx₁ = .ok result ctx₂)
    (hpost : self.postExecution inner gas refund result ctx₂ = .ok out ctx₃) :
    self.runWith inner exec ctx = .ok out ctx₃ :=
  (bind_of_ok hpre).trans ((bind_of_ok hexec).trans hpost)

/-- A frame loop whose first frame succeeds and emits a log, and whose later frames revert. -/
def oneSuccess (entryLogs : List Log) (init : FrameInit) : HandlerM FrameResult := fun ctx =>
  if ctx.journal.logs = entryLogs then
    .ok (Transfers.frameResult init .stop none)
      { ctx with journal := { ctx.journal with logs := ⟨0, [], []⟩ :: entryLogs } }
  else .ok (Transfers.frameResult init .revert none) ctx

theorem withFrames_keepsEnvironment (henv : inner.KeepsEnvironment)
    (frames : FrameInit → HandlerM FrameResult) : (inner.withFrames frames).KeepsEnvironment :=
  ⟨henv.validateEnv, henv.validateInitialTxGas, henv.loadAccounts, henv.applyEip7702AuthList,
    henv.firstFrameInput, henv.lastFrameResult, henv.reimburseCaller, henv.rewardBeneficiary⟩

/-- Another frame loop leaves the other phases as they are: they fail with the database only. -/
theorem withFrames_completes (hcomplete : inner.Completes)
    (frames : FrameInit → HandlerM FrameResult) : (inner.withFrames frames).Completes :=
  ⟨hcomplete.firstFrameInput, hcomplete.lastFrameResult, hcomplete.refund,
    hcomplete.eip7623CheckGasFloor, hcomplete.reimburseCaller, hcomplete.rewardBeneficiary,
    hcomplete.executionResult⟩

section OneSuccess

variable {entryLogs : List Log} {g r : U64}

/-- The first frame of `oneSuccess`, run after the frame input has been built. -/
theorem oneSuccess_first (henv : inner.KeepsEnvironment) (hcomplete : inner.Completes)
    (hloads : ctx.Loads) (hlogs : ctx.journal.logs = entryLogs) :
    ∃ result ctx', (inner.firstFrameInput g r >>= oneSuccess entryLogs) ctx = .ok result ctx' ∧
      result.result = .stop ∧ ctx'.journal.logs ≠ entryLogs ∧ ctx.SameEnv ctx' := by
  obtain ⟨init, ctx₁, hinit, hlogs₁⟩ := hcomplete.firstFrameInput g r ctx hloads
  have hsame := henv.firstFrameInput _ _ _ _ _ hinit
  refine ⟨_, _, (bind_of_ok hinit).trans (if_pos (hlogs₁.trans hlogs)), rfl, ?_, ?_⟩
  · exact List.cons_ne_self _ _
  · exact ⟨hsame.tx, hsame.block, hsame.cfg, hsame.dbError⟩

/-- A later frame of `oneSuccess`. -/
theorem oneSuccess_later (henv : inner.KeepsEnvironment) (hcomplete : inner.Completes)
    (hloads : ctx.Loads) (hlogs : ctx.journal.logs ≠ entryLogs) :
    ∃ result ctx', (inner.firstFrameInput g r >>= oneSuccess entryLogs) ctx = .ok result ctx' ∧
      result.result = .revert ∧ ctx.SameEnv ctx' := by
  obtain ⟨init, ctx₁, hinit, hlogs₁⟩ := hcomplete.firstFrameInput g r ctx hloads
  exact ⟨_, ctx₁, (bind_of_ok hinit).trans (if_neg (hlogs₁ ▸ hlogs)), rfl,
    henv.firstFrameInput _ _ _ _ _ hinit⟩

/-- A batch under `oneSuccess` reverts at its second call. -/
theorem execution_oneSuccess (henv : inner.KeepsEnvironment) (hcomplete : inner.Completes)
    (gas : InitialAndFloorGas) (hloads : ctx.Loads) (hbatch : ctx.tx.IsBatch) :
    ∃ result ctx', execution (inner.withFrames (oneSuccess ctx.journal.logs)) gas ctx =
        .ok result ctx' ∧ result.result = .revert ∧ ctx'.Loads := by
  obtain ⟨calls, hcalls, hlen⟩ := hbatch
  match calls, hlen with
  | first :: second :: rest, _ =>
    rw [execution_eq_batchLoop hcalls]
    set entry := batchEntry (inner.withFrames (oneSuccess ctx.journal.logs)) gas ctx
    have hloads₁ : Ctx.Loads { ctx with tx := ctx.tx.setBatchCall first } := hloads
    obtain ⟨r₁, ctx₁, hrun₁, hok, hlogs₁, hsame₁⟩ :=
      oneSuccess_first (g := entry.remainingGas) (r := entry.reservoir) henv hcomplete hloads₁ rfl
    -- the first call succeeds and leaves a log behind
    have hcall₁ : runCall (inner.withFrames (oneSuccess ctx.journal.logs)) ctx.tx entry.remainingGas
        entry.reservoir first ctx = .ok r₁ ctx₁ := hrun₁
    have hloads₂ : Ctx.Loads { ctx₁ with tx := ctx.tx.setBatchCall second } :=
      fun a => hloads₁.of_sameEnv hsame₁ a
    obtain ⟨r₂, ctx₂, hrun₂, hrevert, hsame₂⟩ :=
      oneSuccess_later (g := (entry.record r₁.gas).remainingGas)
        (r := (entry.record r₁.gas).reservoir) henv hcomplete hloads₂ hlogs₁
    -- so the second one reverts
    have hcall₂ : runCall (inner.withFrames (oneSuccess ctx.journal.logs)) ctx.tx
        (entry.record r₁.gas).remainingGas (entry.record r₁.gas).reservoir second ctx₁ =
        .ok r₂ ctx₂ := hrun₂
    rw [batchLoop_cons_of_ok _ hcall₁ (by rw [hok]; rfl),
      batchLoop_cons_of_fail hcall₂ (by rw [hrevert]; rfl)]
    refine ⟨_, _, rfl, hrevert, fun a => ?_⟩
    have hdb := hloads₂.of_sameEnv hsame₂ a
    unfold reverted
    simp only
    split_ifs <;> exact hdb

/-- Inspected, the same batch is one frame that succeeds. -/
theorem inspectExecution_oneSuccess (henv : inner.KeepsEnvironment) (hcomplete : inner.Completes)
    (gas : InitialAndFloorGas) (hloads : ctx.Loads) :
    ∃ result ctx', inspectExecution (inner.withFrames (oneSuccess ctx.journal.logs))
        (oneSuccess ctx.journal.logs) gas ctx = .ok result ctx' ∧ result.result = .stop ∧
      ctx'.Loads := by
  have hbuild := oneSuccess_first
    (g := (inner.initialGasAndReservoir gas ctx.tx.inner.gasLimit ctx.cfg).1)
    (r := (inner.initialGasAndReservoir gas ctx.tx.inner.gasLimit ctx.cfg).2) henv hcomplete hloads
    rfl
  obtain ⟨r₁, ctx₁, hrun, hstop, -, hsame⟩ := hbuild
  obtain ⟨r₂, ctx₂, hlast, hstatus⟩ :=
    hcomplete.lastFrameResult r₁ ctx₁ (hloads.of_sameEnv hsame)
  have hsame₂ := henv.lastFrameResult _ _ _ _ hlast
  refine ⟨r₂, ctx₂, ?_, hstatus.trans hstop, (hloads.of_sameEnv hsame).of_sameEnv hsame₂⟩
  obtain ⟨init, ctx₀, hinit, hframe⟩ := bind_eq_ok hrun
  exact bind_get.trans ((bind_of_ok hinit).trans ((bind_of_ok hframe).trans hlast))

end OneSuccess

/-- Inspected and plain execution of a transaction agree, whatever its frames do and for every
inspector that leaves the frames alone, exactly when the transaction is not a batch that passes the
checks before execution. -/
theorem inspect_agrees_iff (self : EvHandler) (inner : Mainnet) (tx : EvTxEnv) (ctx : Ctx)
    (henv : inner.KeepsEnvironment) (hcomplete : inner.Completes) (hloads : ctx.Loads) :
    (∀ frames : FrameInit → HandlerM FrameResult,
        Agree (self.inspectOneTx (inner.withFrames frames) frames tx ctx)
          (self.transactOne (inner.withFrames frames) tx ctx)) ↔
      ¬ (tx.IsBatch ∧ self.Passes inner { ctx with tx }) := by
  constructor
  · rintro hagree ⟨hbatch, ⟨gas, refund⟩, ctx₁, hpre⟩
    have hsame := keepsEnv_preExecution henv _ _ _ hpre
    have hloads₁ : ctx₁.Loads := fun a => (congrFun hsame.dbError a).trans (hloads a)
    have hbatch₁ : ctx₁.tx.IsBatch := by rwa [hsame.tx]
    -- a frame loop that tells the first frame of a transaction from the second
    have henv' := withFrames_keepsEnvironment henv (oneSuccess ctx₁.journal.logs)
    have hcomplete' := withFrames_completes hcomplete (oneSuccess ctx₁.journal.logs)
    obtain ⟨r, ctx₂, hexec, hrevert, hloads₂⟩ :=
      execution_oneSuccess henv hcomplete gas hloads₁ hbatch₁
    obtain ⟨r', ctx₂', hinspect, hstop, hloads₂'⟩ :=
      inspectExecution_oneSuccess henv hcomplete gas hloads₁
    obtain ⟨out, ctx₃, hpost, hout⟩ :=
      postExecution_ok self henv' hcomplete' gas refund r hloads₂
    obtain ⟨out', ctx₃', hpost', hout'⟩ :=
      postExecution_ok self henv' hcomplete' gas refund r' hloads₂'
    -- the phases before execution do not run frames
    have hpre' : self.preExecution (inner.withFrames (oneSuccess ctx₁.journal.logs))
        { ctx with tx } = .ok (gas, refund) ctx₁ := hpre
    have hplain : self.transactOne (inner.withFrames (oneSuccess ctx₁.journal.logs)) tx ctx =
        .ok out ctx₃ := catchError_of_ok (runWith_of_ok hpre' hexec hpost)
    have hinspected : self.inspectOneTx (inner.withFrames (oneSuccess ctx₁.journal.logs))
        (oneSuccess ctx₁.journal.logs) tx ctx = .ok out' ctx₃' :=
      catchError_of_ok (runWith_of_ok hpre' hinspect hpost')
    have hfalse := hagree (oneSuccess ctx₁.journal.logs)
    rw [hplain, hinspected] at hfalse
    -- one status is that of a revert, the other that of a success
    have hstatus := congrArg ExecutionResult.result hfalse.1
    rw [hout, hout', hrevert, hstop] at hstatus
    cases hstatus
  · intro h frames
    have heq := inspectOneTx_eq_transactOne self ctx tx (withFrames_keepsEnvironment henv frames) h
    exact heq ▸ Agree.refl _

/-- `0xCA` pays `1` wei to `0x01` and `2` wei to `0x02`. -/
def payTwice : EvNodeTransaction :=
  { chainId := 1
    nonce := 0
    maxPriorityFeePerGas := 1
    maxFeePerGas := 2
    gasLimit := 100000
    calls := [⟨.call 0x01, 1, []⟩, ⟨.call 0x02, 2, []⟩]
    accessList := []
    feePayerSignature := none }

/-- A block in which `0xCA` is funded and `tx` is next. -/
def fundedCtx (tx : EvNodeTransaction) : Ctx :=
  { block := { number := 1, beneficiary := 0xBE, basefee := 1 }
    tx := EvTxEnv.fromEvNode (fun _ _ _ => none) tx 0xCA
    journal := Transfers.funded 1000000 }

/-- Inspected, the batch `payTwice` pays `0x01` all three wei. -/
theorem inspect_payTwice_disagrees :
    ¬ Agree
      (EvHandler.inspectOneTx ⟨none, none⟩ Transfers.mainnetOfCA Transfers.mainnetOfCA.runExecLoop
        (fundedCtx payTwice).tx (fundedCtx payTwice))
      (EvHandler.transactOne ⟨none, none⟩ Transfers.mainnetOfCA (fundedCtx payTwice).tx
        (fundedCtx payTwice)) := by
  have hplain : (EvHandler.transactOne ⟨none, none⟩ Transfers.mainnetOfCA (fundedCtx payTwice).tx
      (fundedCtx payTwice)).state.journal.balance 0x01 = 1 := by
    decide +kernel
  have hinspect : (EvHandler.inspectOneTx ⟨none, none⟩ Transfers.mainnetOfCA
      Transfers.mainnetOfCA.runExecLoop (fundedCtx payTwice).tx
      (fundedCtx payTwice)).state.journal.balance 0x01 = 3 := by
    decide +kernel
  apply not_agree_of_balance 0x01
  rw [hinspect, hplain]
  decide

/-- The first payment of `payTwice` alone runs the same way inspected. -/
theorem inspect_payOnce_agrees :
    Transfers.mainnetOfCA.KeepsEnvironment ∧ Transfers.mainnetOfCA.Completes ∧
      ∀ frames : FrameInit → HandlerM FrameResult,
        Agree
          (EvHandler.inspectOneTx ⟨none, none⟩ (Transfers.mainnetOfCA.withFrames frames) frames
            (fundedCtx { payTwice with calls := [⟨.call 0x01, 1, []⟩] }).tx (fundedCtx payTwice))
          (EvHandler.transactOne ⟨none, none⟩ (Transfers.mainnetOfCA.withFrames frames)
            (fundedCtx { payTwice with calls := [⟨.call 0x01, 1, []⟩] }).tx
            (fundedCtx payTwice)) := by
  have henv : Transfers.mainnetOfCA.KeepsEnvironment := Transfers.keepsEnvironment _
  have hcomplete : Transfers.mainnetOfCA.Completes := Transfers.completes _
  refine ⟨henv, hcomplete, (inspect_agrees_iff ⟨none, none⟩ Transfers.mainnetOfCA
    (fundedCtx { payTwice with calls := [⟨.call 0x01, 1, []⟩] }).tx (fundedCtx payTwice) henv
    hcomplete fun _ => rfl).mpr ?_⟩
  rintro ⟨⟨calls, hcalls, hlen⟩, -⟩
  obtain rfl : [⟨.call 0x01, 1, []⟩] = calls := Option.some.inj hcalls
  exact absurd hlen (by decide)

end EvHandler

end EvReth
