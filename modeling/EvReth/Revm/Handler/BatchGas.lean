import EvReth.Revm.Handler.Accounting
import EvReth.Revm.Handler.Inspect

/-!
# The gas of a batch

`EvHandler::execution` (`crates/ev-revm/src/handler.rs`) hands the gas of a batch from call to call,
and `finalize_batch_gas` makes the gas of the transaction from what is left. Without EIP-8037 every
call starts with the gas limit less the initial gas and what the calls before it have spent, and so
does the end of the batch, unless a call halts.
-/

namespace EvReth

open EStateM

/-! ## Initial gas -/

/-- Gas that passes the checks is within the limit. -/
theorem checkInitialGas_eq_ok {cfg : Cfg} {gasLimit : U64} {gas gas' : InitialAndFloorGas}
    (h : checkInitialGas cfg gasLimit gas = .ok gas') :
    gas' = gas ∧ gas.initialTotalGas.toNat ≤ gasLimit.toNat := by
  unfold checkInitialGas at h
  split_ifs at h with hinitial hfloor
  simp only at h
  split_ifs at h
  all_goals exact ⟨(Except.ok.inj h).symm, Nat.le_of_not_lt hinitial⟩

/-! ## Calls -/

/-- A call of a batch that has run, with the gas that it started with. -/
structure CallRun where
  call : Call
  budget : U64
  result : FrameResult

/-- The gas that the call has spent. -/
def CallRun.spent (self : CallRun) : ℕ := self.budget.toNat - self.result.gas.remaining.toNat

/-- The calls of a batch with their results. Each starts with what the one before it has left. -/
def callRuns : U64 → List Call → List FrameResult → List CallRun
  | budget, call :: calls, result :: results =>
    ⟨call, budget, result⟩ :: callRuns result.gas.remaining calls results
  | _, _, _ => []

/-- The gas that calls have spent together. -/
def spentSum (runs : List CallRun) : ℕ := (runs.map CallRun.spent).sum

/-- The refunds of calls, added up as `i64`s. -/
def saturatingRefunds (results : List FrameResult) : ℤ :=
  results.foldl (fun total result => saturatingAddI64 total result.gas.refunded) 0

/-- The sums of the first refunds fit into an `i64`. -/
def RefundsFit (results : List FrameResult) : Prop :=
  ∀ k, -2 ^ 63 ≤ ((results.take k).map (·.gas.refunded)).sum ∧
    ((results.take k).map (·.gas.refunded)).sum < 2 ^ 63

/-- Without EIP-8037 the first frame starts with the gas limit less the initial gas, and nothing is
put aside. -/
def Mainnet.StartsWithRest (inner : Mainnet) : Prop :=
  ∀ gas limit cfg, Cfg.isAmsterdamEip8037Enabled cfg = false →
    gas.initialTotalGas.toNat ≤ limit.toNat →
    inner.initialGasAndReservoir gas limit cfg = (limit - gas.initialTotalGas, 0)

/-- Refunds whose sums fit are added up exactly. -/
theorem saturatingRefunds_eq {results : List FrameResult} (h : RefundsFit results) :
    saturatingRefunds results = (results.map (·.gas.refunded)).sum := by
  induction results using List.reverseRecOn with
  | nil => rfl
  | append_singleton results result ih =>
    have hprefix : RefundsFit results := by
      intro k
      have hk := h (min k results.length)
      rwa [List.take_append_of_le_length (min_le_right _ _), ← List.take_eq_take_min] at hk
    have hall := h (results.length + 1)
    rw [List.take_of_length_le (by simp)] at hall
    rw [saturatingRefunds, List.foldl_append]
    change saturatingAddI64 (saturatingRefunds results) result.gas.refunded = _
    rw [ih hprefix, saturatingAddI64]
    simp only [List.map_append, List.map_cons, List.map_nil, List.sum_append, List.sum_cons,
      List.sum_nil, add_zero] at hall ⊢
    omega

namespace BatchState

/-- The refunds of the calls are added up in order. -/
theorem totalRefunded_recordAll (s : BatchState) (results : List FrameResult) :
    (s.recordAll results).totalRefunded =
      results.foldl (fun total result => saturatingAddI64 total result.gas.refunded)
        s.totalRefunded := by
  induction results generalizing s with
  | nil => rfl
  | cons result results ih => exact ih (s.record result.gas)

end BatchState

namespace EvHandler

variable {inner : Mainnet} {ctx ctx' : Ctx} {gas : InitialAndFloorGas} {result : FrameResult}
  {baseTx : EvTxEnv}

/-- The gas of calls that run in order: each starts with the gas of the first less what the calls
before it have spent, and so does what is left at the end. -/
theorem RunsInOrder.gas_eq (henv : inner.KeepsEnvironment) (hgas : inner.GasRules)
    {s : BatchState} {calls : List Call} {results : List FrameResult}
    (h : RunsInOrder inner baseTx s.remainingGas s.reservoir ctx calls results ctx')
    (hoff : ctx.cfg.isAmsterdamEip8037Enabled = false) (hreservoir : s.reservoir = 0) :
    (∀ pre run post, callRuns s.remainingGas calls results = pre ++ run :: post →
        run.budget.toNat + spentSum pre = s.remainingGas.toNat) ∧
      (s.recordAll results).remainingGas.toNat +
        spentSum (callRuns s.remainingGas calls results) = s.remainingGas.toNat := by
  induction results generalizing s ctx calls with
  | nil =>
    cases h
    refine ⟨fun pre run post hsplit => ?_, rfl⟩
    simp [callRuns] at hsplit
  | cons result results ih =>
    cases h with
    | @cons _ _ _ ctx₁ _ call calls _ _ hrun hrest =>
      obtain ⟨-, -, hcfg, hbound⟩ := gas_of_runCall henv hgas hrun
      obtain ⟨hle, hzero, -⟩ := hbound hoff hreservoir
      -- the rest of the batch starts with what this call has left
      obtain ⟨hbudgets, hleft⟩ := @ih ctx₁ (s.record result.gas) calls hrest
        (by rw [hcfg]; exact hoff) hzero
      have hremaining : (s.record result.gas).remainingGas = result.gas.remaining := rfl
      rw [hremaining] at hbudgets hleft
      have hspent : CallRun.spent ⟨call, s.remainingGas, result⟩ + result.gas.remaining.toNat =
          s.remainingGas.toNat := Nat.sub_add_cancel hle
      constructor
      · intro pre run post hsplit
        cases pre with
        | nil =>
          obtain ⟨rfl, -⟩ := List.cons.inj hsplit
          rfl
        | cons first pre =>
          obtain ⟨rfl, hrest⟩ := List.cons.inj hsplit
          have hbudget := hbudgets pre run post hrest
          simp only [spentSum, List.map_cons, List.sum_cons] at hbudget ⊢
          omega
      · simp only [callRuns, spentSum, List.map_cons, List.sum_cons] at hleft ⊢
        change ((s.record result.gas).recordAll results).remainingGas.toNat + _ = _
        omega

/-- A batch whose initial gas is checked can pay for it. -/
theorem initialTotalGas_le_of_batch {first second : Call} {rest : List Call}
    (hcalls : ctx.tx.batchCalls = some (first :: second :: rest))
    (h : validateInitialTxGas inner ctx = .ok gas ctx') :
    gas.initialTotalGas.toNat ≤ ctx.tx.inner.gasLimit.toNat := by
  replace h := bind_get.symm.trans h
  simp only [hcalls] at h
  split_ifs at h with hempty hcreate hlen
  · cases h
  · cases h
  · cases hgas : validateBatchInitialTxGas inner ctx.cfg ctx.tx.inner (first :: second :: rest) with
    | error e =>
      rw [hgas] at h
      cases h
    | ok g =>
      rw [hgas] at h
      obtain ⟨rfl, -⟩ := EStateM.Result.ok.inj h
      rw [validateBatchInitialTxGas] at hgas
      obtain ⟨rfl, hle⟩ := checkInitialGas_eq_ok hgas
      exact hle
  · simp at hlen

/-- A batch that succeeds refunds what it has added up. -/
theorem refunded_finalizeBatchGas_of_ok {txGasLimit remainingGas reservoir stateGasSpent : U64}
    {refund : ℤ} (hok : result.result.isOk = true) :
    (finalizeBatchGas result txGasLimit remainingGas reservoir stateGasSpent refund).gas.refunded =
      refund := by
  simp only [finalizeBatchGas, hok, if_true]
  split_ifs <;> exact zero_add _

/-- The account of a batch that ends with `result`: every call starts with the gas limit less the
initial gas and what the calls before it have spent, and so does the end unless a call halts. The
refunds count only if all calls succeed. -/
structure BatchAccount (limit initial : U64) (calls : List Call) (results : List FrameResult)
    (result : FrameResult) : Prop where
  budget : ∀ pre run post, callRuns (limit - initial) calls results = pre ++ run :: post →
    initial.toNat + spentSum pre + run.budget.toNat = limit.toNat
  settled : result.result.isOkOrRevert = true →
    initial.toNat + spentSum (callRuns (limit - initial) calls results) +
      result.gas.remaining.toNat = limit.toNat
  halted : result.result.isOkOrRevert = false → result.gas.remaining = 0
  cost_ge : initial.toNat + result.gas.remaining.toNat ≤ limit.toNat
  refunded : result.gas.refunded = if result.result.isOk then saturatingRefunds results else 0
  refunded_sum : result.result.isOk = true → RefundsFit results →
    result.gas.refunded = (results.map (·.gas.refunded)).sum

/-- Calls that run in order on the rest of the gas are accounted for by `finalize_batch_gas`. -/
theorem RunsInOrder.batchAccount (henv : inner.KeepsEnvironment) (hgas : inner.GasRules)
    {s : BatchState} {limit initial reservoir stateGasSpent : U64} {calls : List Call}
    {results : List FrameResult} {refund : ℤ}
    (h : RunsInOrder inner baseTx s.remainingGas s.reservoir ctx calls results ctx')
    (hoff : ctx.cfg.isAmsterdamEip8037Enabled = false) (hle : initial.toNat ≤ limit.toNat)
    (hremaining : s.remainingGas = limit - initial) (hreservoir : s.reservoir = 0)
    (hrefund : result.result.isOk = true → refund = saturatingRefunds results) :
    BatchAccount limit initial calls results
      (finalizeBatchGas result limit (s.recordAll results).remainingGas reservoir stateGasSpent
        refund) := by
  -- everything follows from the budgets of the calls and from what the last one leaves
  obtain ⟨hbudgets, hleft⟩ := h.gas_eq henv hgas hoff hreservoir
  have hstart : s.remainingGas.toNat + initial.toNat = limit.toNat := by
    rw [hremaining, BitVec.toNat_sub_of_le (BitVec.le_def.mpr hle)]
    omega
  rw [hremaining] at hbudgets hleft
  rw [hremaining] at hstart
  refine ⟨?_, ?_, ?_, ?_, ?_, ?_⟩
  · -- a call starts with what the calls before it have left
    intro pre run post hsplit
    have hbudget := hbudgets pre run post hsplit
    omega
  · intro (hend : result.result.isOkOrRevert = true)
    rw [remaining_finalizeBatchGas, if_pos hend]
    omega
  · intro (hhalt : result.result.isOkOrRevert = false)
    rw [remaining_finalizeBatchGas, hhalt]
    rfl
  · rw [remaining_finalizeBatchGas]
    split_ifs
    · omega
    · simpa using hle
  · change _ = if result.result.isOk then _ else _
    split_ifs with hok
    · exact (refunded_finalizeBatchGas_of_ok hok).trans (hrefund hok)
    · exact refunded_finalizeBatchGas (by simpa using hok)
  · intro (hok : result.result.isOk = true) hfit
    rw [refunded_finalizeBatchGas_of_ok hok, hrefund hok]
    exact saturatingRefunds_eq hfit

/-- The gas of a batch is accounted for, whatever its calls do. -/
theorem batch_gas_accounted (inner : Mainnet) (ctx ctx₀ ctx₁ ctx' : Ctx) (calls : List Call)
    (gas : InitialAndFloorGas) (result : FrameResult) (henv : inner.KeepsEnvironment)
    (hgas : inner.GasRules) (hrest : inner.StartsWithRest)
    (hcalls : ctx.tx.batchCalls = some calls) (hlen : 2 ≤ calls.length)
    (hoff : ctx.cfg.isAmsterdamEip8037Enabled = false) (htx : ctx₀.tx = ctx.tx)
    (hvalid : validateInitialTxGas inner ctx₀ = .ok gas ctx₁)
    (h : execution inner gas ctx = .ok result ctx') :
    ∃ ran results ctx₂, ran <+: calls ∧ (result.result.isOk = true → ran = calls) ∧
      RunsInOrder inner ctx.tx (ctx.tx.inner.gasLimit - gas.initialTotalGas) 0 ctx ran results
        ctx₂ ∧
      BatchAccount ctx.tx.inner.gasLimit gas.initialTotalGas ran results result := by
  match calls, hlen with
  | first :: second :: rest, _ =>
    have hle := initialTotalGas_le_of_batch (htx ▸ hcalls) hvalid
    rw [htx] at hle
    have hentry := hrest gas ctx.tx.inner.gasLimit ctx.cfg hoff hle
    have hremaining : (batchEntry inner gas ctx).remainingGas =
        ctx.tx.inner.gasLimit - gas.initialTotalGas := congrArg Prod.fst hentry
    have hreservoir : (batchEntry inner gas ctx).reservoir = 0 := congrArg Prod.snd hentry
    rw [execution_eq_batchLoop hcalls] at h
    -- the loop ends behind the last call, or at the first one that fails
    rcases batchLoop_cases h (by simp) with ⟨results, last, hruns, -, hok, rfl⟩ |
      ⟨before, call, after, results, failed, ctx₂, hsplit, hruns, -, hfail, -, rfl⟩
    · refine ⟨_, results, ctx', List.prefix_rfl, fun _ => rfl, ?_, ?_⟩
      · rw [← hremaining, ← hreservoir]
        exact hruns
      · exact hruns.batchAccount henv hgas hoff hle hremaining hreservoir fun _ =>
          BatchState.totalRefunded_recordAll _ _
    · refine ⟨before ++ [call], results ++ [failed], ctx₂, ?_, ?_, ?_, ?_⟩
      · exact ⟨after, by rw [hsplit, List.append_assoc, List.singleton_append]⟩
      · intro hok
        rw [show (finalizeBatchGas failed _ _ _ _ _).result = failed.result from rfl, hfail] at hok
        cases hok
      · rw [← hremaining, ← hreservoir]
        exact hruns
      · exact hruns.batchAccount henv hgas hoff hle hremaining hreservoir fun hok => by
          rw [hfail] at hok
          cases hok

end EvHandler

namespace Transfers

/-- The payments of `mainnetOfCA`, each with a refund, as a contract has it that clears storage. -/
def refunding (refund : ℤ) : Mainnet :=
  { mainnetOfCA with
    runExecLoop := fun init ctx =>
      match mainnetOfCA.runExecLoop init ctx with
      | .ok result ctx => .ok { result with gas := result.gas.recordRefund refund } ctx
      | .error e ctx => .error e ctx }

theorem keepsEnvironment_refunding (refund : ℤ) : (refunding refund).KeepsEnvironment := by
  have h : mainnetOfCA.KeepsEnvironment := keepsEnvironment _
  exact ⟨h.validateEnv, h.validateInitialTxGas, h.loadAccounts, h.applyEip7702AuthList,
    h.firstFrameInput, h.lastFrameResult, h.reimburseCaller, h.rewardBeneficiary⟩

/-- Payments with refunds follow the rules for gas. -/
theorem gasRules_refunding (refund : ℤ) : (refunding refund).GasRules := by
  have h : mainnetOfCA.GasRules := gasRules _
  refine ⟨h.initial, h.input, ?_, h.last, h.refund, h.floor⟩
  intro init ctx result ctx' hrun
  -- the refund leaves the rest of the gas as the frame has it
  obtain ⟨plain, ctx₁, hplain, -⟩ := runExecLoop_ok _ init ctx
  have hframe := h.frame init ctx plain ctx₁ hplain
  have hrefund : (refunding refund).runExecLoop init ctx =
      .ok { plain with gas := plain.gas.recordRefund refund } ctx₁ := by
    simp only [refunding]
    rw [show mainnetOfCA.runExecLoop init ctx = .ok plain ctx₁ from hplain]
  obtain ⟨rfl, rfl⟩ := EStateM.Result.ok.inj (hrefund.symm.trans hrun)
  exact hframe

/-- Payments with refunds start with what the initial gas leaves. -/
theorem startsWithRest_refunding (refund : ℤ) : (refunding refund).StartsWithRest := by
  intro gas limit cfg _ hle
  change (limit.saturatingSub gas.initialTotalGas, (0 : U64)) = _
  congr 1
  apply BitVec.eq_of_toNat_eq
  rw [BitVec.toNat_saturatingSub, BitVec.toNat_sub_of_le (BitVec.le_def.mpr hle)]

end Transfers

namespace EvHandler

/-- The gas of `payTwice`, whose calls get a refund of `4800` each, is accounted for. -/
theorem batch_gas_accounted_payTwice :
    ∃ gas ctx₁ result ctx',
      validateInitialTxGas (Transfers.refunding 4800) (fundedCtx payTwice) = .ok gas ctx₁ ∧
      execution (Transfers.refunding 4800) gas (fundedCtx payTwice) = .ok result ctx' ∧
      result.gas.remaining = 58000 ∧ result.gas.refunded = 9600 ∧
      ∃ ran results,
        BatchAccount (fundedCtx payTwice).tx.inner.gasLimit gas.initialTotalGas ran results
          result := by
  refine ⟨_, _, _, _, rfl, rfl, by decide, by decide, ?_⟩
  obtain ⟨ran, results, -, -, -, -, haccount⟩ := batch_gas_accounted (Transfers.refunding 4800)
    (fundedCtx payTwice) (fundedCtx payTwice) _ _ _ _ _ (Transfers.keepsEnvironment_refunding _)
    (Transfers.gasRules_refunding _) (Transfers.startsWithRest_refunding _) rfl (by decide) rfl rfl
    rfl rfl
  exact ⟨ran, results, haccount⟩

/-- Refunds are added up as `i64`s: two of `2 ^ 62` are not recorded as their sum. -/
theorem refunds_saturate :
    (Transfers.refunding (2 ^ 62)).KeepsEnvironment ∧ (Transfers.refunding (2 ^ 62)).GasRules ∧
      (Transfers.refunding (2 ^ 62)).StartsWithRest ∧
      ∃ gas ctx₁ result ctx' results,
        validateInitialTxGas (Transfers.refunding (2 ^ 62)) (fundedCtx payTwice) = .ok gas ctx₁ ∧
        execution (Transfers.refunding (2 ^ 62)) gas (fundedCtx payTwice) = .ok result ctx' ∧
        result.result.isOk = true ∧
        RunsInOrder (Transfers.refunding (2 ^ 62)) (fundedCtx payTwice).tx 58000 0
          (fundedCtx payTwice) [⟨.call 0x01, 1, []⟩, ⟨.call 0x02, 2, []⟩] results ctx' ∧
        result.gas.refunded ≠ (results.map (·.gas.refunded)).sum := by
  refine ⟨Transfers.keepsEnvironment_refunding _, Transfers.gasRules_refunding _,
    Transfers.startsWithRest_refunding _, _, _, _, _, [_, _], rfl, rfl, by decide,
    .cons rfl (.cons rfl (.nil _ _ _)), by decide⟩

end EvHandler

end EvReth
