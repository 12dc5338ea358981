import EvReth.Revm.Handler.Fees
import Mathlib.Algebra.BigOperators.Group.Finset.Piecewise

/-!
# Fees are a closed loop

A transaction moves fees four times: the deduction before execution, and after it the reimbursement
of unused gas, the credit of the base fee to its sink and the reward of the beneficiary. This file
follows the gas of a transaction to its final value and adds the four up, whichever of the accounts
involved coincide.
-/

namespace EvReth

open EStateM

/-! ## What revm documents about gas -/

/-- The gas a transaction ends with: nothing is left beyond its limit, and no state gas is held. -/
structure Gas.Settled (gas : Gas) (limit : U64) : Prop where
  limit_eq : gas.limit = limit
  remaining_le : gas.remaining.toNat ≤ limit.toNat
  reservoir_eq : gas.reservoir = 0

/-- The gas a transaction is billed for: what is left and what is refunded are within its limit. -/
structure Gas.Final (gas : Gas) (limit : U64) : Prop where
  limit_eq : gas.limit = limit
  refunded_nonneg : 0 ≤ gas.refunded
  unused_le : gas.remaining.toNat + gas.refunded ≤ limit.toNat
  reservoir_eq : gas.reservoir = 0

/-- The gas that is given back: what is left, and the refund. -/
def Gas.unused (gas : Gas) : U64 := gas.remaining + gas.refundedU64

/-- A refund that is neither negative nor too large survives the cast to `u64`. -/
theorem Gas.toNat_refundedU64 {gas : Gas} (hnonneg : 0 ≤ gas.refunded)
    (hlt : gas.refunded < 2 ^ 64) : gas.refundedU64.toNat = gas.refunded.toNat := by
  rw [Gas.refundedU64, BitVec.toNat_ofInt]
  omega

/-- Gas that is billed and gas that is given back make up the limit. -/
theorem Gas.Final.used_add_unused {gas : Gas} {limit : U64} (h : gas.Final limit) :
    gas.spentSubRefunded.toNat + gas.unused.toNat = limit.toNat := by
  have hnonneg := h.refunded_nonneg
  have hle := h.unused_le
  have hlt := limit.isLt
  have hbits := Gas.toNat_refundedU64 hnonneg (by omega)
  have hunused : gas.unused.toNat = gas.remaining.toNat + gas.refunded.toNat := by
    rw [Gas.unused, BitVec.toNat_add_of_fits (by omega), hbits]
  rw [hunused, Gas.spentSubRefunded, BitVec.toNat_saturatingSub, Gas.spent,
    BitVec.toNat_saturatingSub, hbits, h.limit_eq]
  omega

/-- Without EIP-8037, gas only decreases: the first frame gets at most the limit of the transaction,
a frame returns at most what it got, and the phases after it return at most what is left. The refund
is bounded by what was spent, and the gas floor replaces it. -/
structure Mainnet.GasRules (inner : Mainnet) : Prop where
  initial : ∀ gas limit cfg, Cfg.isAmsterdamEip8037Enabled cfg = false →
    (inner.initialGasAndReservoir gas limit cfg).1.toNat ≤ limit.toNat ∧
      (inner.initialGasAndReservoir gas limit cfg).2 = 0
  input : ∀ g r ctx init ctx', inner.firstFrameInput g r ctx = .ok init ctx' →
    init.gasLimit = g ∧ init.reservoir = r
  frame : ∀ init ctx result ctx', inner.runExecLoop init ctx = .ok result ctx' →
    ctx.SameEnv ctx' ∧ (ctx.cfg.isAmsterdamEip8037Enabled = false → init.reservoir = 0 →
      result.gas.remaining.toNat ≤ init.gasLimit.toNat ∧ result.gas.reservoir = 0 ∧
        result.gas.stateGasSpent = 0)
  last : ∀ result ctx result' ctx', inner.lastFrameResult result ctx = .ok result' ctx' →
    result'.gas.limit = ctx.tx.inner.gasLimit ∧
      result'.gas.remaining.toNat ≤ result.gas.remaining.toNat ∧
      (result.gas.reservoir = 0 → result.gas.stateGasSpent = 0 → result'.gas.reservoir = 0)
  refund : ∀ ctx result r,
    let gas := (inner.refund ctx result r).gas
    gas.limit = result.gas.limit ∧ gas.remaining = result.gas.remaining ∧
      gas.reservoir = result.gas.reservoir ∧ 0 ≤ gas.refunded ∧ gas.refunded ≤ gas.spent.toNat
  floor : ∀ ctx result initial,
    let gas := (inner.eip7623CheckGasFloor ctx result initial).gas
    gas = result.gas ∨ gas = { result.gas with
      remaining := result.gas.limit.saturatingSub initial.floorGas
      refunded := 0 }

/-- What the loop over the calls keeps of its gas: at most what it began with, and no state gas. -/
structure BatchState.Bounded (s : BatchState) (limit : U64) : Prop where
  remaining_le : s.remainingGas.toNat ≤ limit.toNat
  reservoir_eq : s.reservoir = 0
  stateGas_eq : s.totalStateGasSpent = 0

/-- Gas within its bounds is settled at the end of a batch. -/
theorem BatchState.Bounded.settled {s : BatchState} {limit : U64} (h : s.Bounded limit)
    (frameResult : FrameResult) (refund : ℤ) :
    (finalizeBatchGas frameResult limit s.remainingGas s.reservoir s.totalStateGasSpent
      refund).gas.Settled limit := by
  refine ⟨limit_finalizeBatchGas, ?_, ?_⟩
  · rw [remaining_finalizeBatchGas]
    split_ifs
    · exact h.remaining_le
    · exact Nat.zero_le _
  · rw [reservoir_finalizeBatchGas, h.reservoir_eq, h.stateGas_eq]
    split_ifs <;> decide

namespace EvHandler

variable {self : EvHandler} {inner : Mainnet} {ctx ctx' : Ctx}

/-! ## Gas during execution -/

section Execution

variable {baseTx : EvTxEnv} {g r : U64} {call : Call} {result : FrameResult}

/-- One call of a batch leaves at most the gas it got, and changes kind, value and data of the
transaction only. -/
theorem gas_of_runCall (henv : inner.KeepsEnvironment) (hgas : inner.GasRules)
    (h : runCall inner baseTx g r call ctx = .ok result ctx') :
    ctx'.tx = baseTx.setBatchCall call ∧ ctx'.block = ctx.block ∧ ctx'.cfg = ctx.cfg ∧
      (ctx.cfg.isAmsterdamEip8037Enabled = false → r = 0 →
        result.gas.remaining.toNat ≤ g.toNat ∧ result.gas.reservoir = 0 ∧
          result.gas.stateGasSpent = 0) := by
  obtain ⟨init, ctx₁, hinit, hloop⟩ := runCall_eq_ok h
  have hsame := henv.firstFrameInput _ _ _ _ _ hinit
  obtain ⟨rfl, rfl⟩ := hgas.input _ _ _ _ _ hinit
  obtain ⟨hsame', hframe⟩ := hgas.frame _ _ _ _ hloop
  refine ⟨hsame'.tx.trans hsame.tx, hsame'.block.trans hsame.block, hsame'.cfg.trans hsame.cfg, ?_⟩
  intro hoff hres
  exact hframe (by rw [hsame.cfg]; exact hoff) hres

/-- The context keeps block and configuration, and the transaction up to the call it holds. -/
def KeepsFees (baseTx : EvTxEnv) (ctx ctx' : Ctx) : Prop :=
  (∃ call, ctx'.tx = baseTx.setBatchCall call) ∧ ctx'.block = ctx.block ∧ ctx'.cfg = ctx.cfg

/-- The gas of a batch that returns is settled. -/
theorem gas_of_batchLoop (henv : inner.KeepsEnvironment) (hgas : inner.GasRules)
    {firstIsCreate : Bool} {entry : Ctx} {calls : List Call} {s : BatchState}
    {last : Option FrameResult} (hs : s.Bounded baseTx.inner.gasLimit)
    (htx : ∃ call, ctx.tx = baseTx.setBatchCall call)
    (hoff : ctx.cfg.isAmsterdamEip8037Enabled = false)
    (h : batchLoop inner baseTx firstIsCreate entry.journal.checkpoint calls s last ctx =
      .ok result ctx') :
    result.gas.Settled baseTx.inner.gasLimit ∧ KeepsFees baseTx ctx ctx' := by
  induction calls generalizing s ctx last with
  | nil =>
    cases last with
    | none => cases h
    | some frameResult =>
      obtain ⟨rfl, rfl⟩ := EStateM.Result.ok.inj h
      exact ⟨hs.settled _ _, htx, rfl, rfl⟩
  | cons call calls ih =>
    obtain ⟨frameResult, ctx₁, hrun, -⟩ := bind_eq_ok h
    obtain ⟨htx₁, hblock, hcfg, hbound⟩ := gas_of_runCall henv hgas hrun
    obtain ⟨hremaining, hreservoir, hstate⟩ := hbound hoff hs.reservoir_eq
    -- the invariant of the loop, after this call
    have hs₁ : (s.record frameResult.gas).Bounded baseTx.inner.gasLimit := by
      refine ⟨hremaining.trans hs.remaining_le, hreservoir, ?_⟩
      change s.totalStateGasSpent.saturatingAdd frameResult.gas.stateGasSpent = 0
      rw [hs.stateGas_eq, hstate]
      decide
    cases hok : frameResult.result.isOk with
    -- the revert of the journal leaves transaction, block and configuration alone
    | false =>
      rw [batchLoop_cons_of_fail hrun hok] at h
      obtain ⟨rfl, rfl⟩ := EStateM.Result.ok.inj h
      exact ⟨hs₁.settled _ _, ⟨_, htx₁⟩, hblock, hcfg⟩
    | true =>
      rw [batchLoop_cons_of_ok _ hrun hok] at h
      obtain ⟨hsettled, htx₂, hblock₂, hcfg₂⟩ := ih hs₁ ⟨_, htx₁⟩ (by rw [hcfg]; exact hoff) h
      exact ⟨hsettled, htx₂, hblock₂.trans hblock, hcfg₂.trans hcfg⟩

/-- The gas of a single frame is settled. -/
theorem gas_of_mainnet_execution (henv : inner.KeepsEnvironment) (hgas : inner.GasRules)
    {gas : InitialAndFloorGas} (hoff : ctx.cfg.isAmsterdamEip8037Enabled = false)
    (h : inner.execution gas ctx = .ok result ctx') :
    result.gas.Settled ctx.tx.inner.gasLimit ∧ ctx.SameEnv ctx' := by
  obtain ⟨init, ctx₁, frame, ctx₂, hinit, hloop, hlast⟩ := mainnet_execution_eq_ok h
  have hsame₁ := henv.firstFrameInput _ _ _ _ _ hinit
  obtain ⟨hlimit, hreservoir⟩ := hgas.input _ _ _ _ _ hinit
  obtain ⟨hsame₂, hbound⟩ := hgas.frame _ _ _ _ hloop
  -- the limit bounds the first frame, the frame its result, and the result what is left
  obtain ⟨hinitial, hzero⟩ := hgas.initial gas ctx.tx.inner.gasLimit ctx.cfg hoff
  obtain ⟨hremaining, hres, hstate⟩ :=
    hbound (by rw [hsame₁.cfg]; exact hoff) (hreservoir.trans hzero)
  obtain ⟨hlimit', hle, hres'⟩ := hgas.last _ _ _ _ hlast
  have hsame := hsame₁.trans hsame₂
  refine ⟨⟨?_, ?_, hres' hres hstate⟩, hsame.trans (henv.lastFrameResult _ _ _ _ hlast)⟩
  · rw [hlimit', hsame.tx]
  · rw [hlimit] at hremaining
    exact hle.trans (hremaining.trans hinitial)

theorem setBatchCall_self (tx : EvTxEnv) :
    tx.setBatchCall ⟨tx.inner.kind, tx.inner.value, tx.inner.data⟩ = tx := rfl

/-- The gas of a transaction that runs is settled after execution, and what fees depend on is as
before. -/
theorem gas_of_execution (henv : inner.KeepsEnvironment) (hgas : inner.GasRules)
    {gas : InitialAndFloorGas} (hoff : ctx.cfg.isAmsterdamEip8037Enabled = false)
    (hne : ctx.tx.batchCalls ≠ some []) (h : execution inner gas ctx = .ok result ctx') :
    result.gas.Settled ctx.tx.inner.gasLimit ∧ KeepsFees ctx.tx ctx ctx' := by
  by_cases hbatch : ctx.tx.IsBatch
  · obtain ⟨calls, hcalls, hlen⟩ := hbatch
    match calls, hlen with
    | first :: second :: rest, _ =>
      rw [execution_eq_batchLoop hcalls] at h
      obtain ⟨hinitial, hzero⟩ := hgas.initial gas ctx.tx.inner.gasLimit ctx.cfg hoff
      -- the loop begins within the limit
      have hentry : (batchEntry inner gas ctx).Bounded ctx.tx.inner.gasLimit :=
        ⟨hinitial, hzero, rfl⟩
      exact gas_of_batchLoop henv hgas hentry ⟨_, (setBatchCall_self _).symm⟩ hoff h
  · rw [execution_eq_of_not_batch gas hne hbatch] at h
    obtain ⟨hsettled, hsame⟩ := gas_of_mainnet_execution henv hgas hoff h
    exact ⟨hsettled, ⟨_, hsame.tx.trans (setBatchCall_self _).symm⟩, hsame.block, hsame.cfg⟩

end Execution

/-- After refund and floor the gas is that which is billed. -/
theorem final_of_settled (hgas : inner.GasRules) {limit : U64} {result : FrameResult}
    (h : result.gas.Settled limit) (refund : U64) (initial : InitialAndFloorGas) :
    (inner.eip7623CheckGasFloor ctx (inner.refund ctx result refund) initial).gas.Final limit := by
  obtain ⟨hlimit, hremaining, hreservoir, hnonneg, hspent⟩ := hgas.refund ctx result refund
  have hle := h.remaining_le
  rw [Gas.spent, BitVec.toNat_saturatingSub, hlimit, hremaining, h.limit_eq] at hspent
  -- the refund is at most what was spent
  have hrefund : (inner.refund ctx result refund).gas.Final limit := by
    refine ⟨hlimit.trans h.limit_eq, hnonneg, ?_, hreservoir.trans h.reservoir_eq⟩
    rw [hremaining]
    omega
  -- the floor replaces what is left and drops the refund
  rcases hgas.floor ctx (inner.refund ctx result refund) initial with hfloor | hfloor
  · rw [hfloor]
    exact hrefund
  · rw [hfloor]
    refine ⟨hrefund.limit_eq, le_rfl, ?_, hrefund.reservoir_eq⟩
    simp only [BitVec.toNat_saturatingSub, hrefund.limit_eq]
    omega

end EvHandler

/-! ## Moves of balances -/

/-- Only the balance of `addr` changes, by `amount`. -/
def Moves (j j' : Journal) (addr : Address) (amount : ℤ) : Prop :=
  ∀ a, ((j'.balance a).toNat : ℤ) - (j.balance a).toNat = if a = addr then amount else 0

/-- A move of one balance moves the sum of all balances by the same amount. -/
theorem Moves.sum {j j' : Journal} {addr : Address} {amount : ℤ} (h : Moves j j' addr amount) :
    ∑ a, (((j'.balance a).toNat : ℤ) - (j.balance a).toNat) = amount := by
  rw [Finset.sum_congr rfl fun a _ => h a]
  simp

/-- To set a balance moves the difference. -/
theorem moves_setBalance {j : Journal} {addr : Address} {v : U256} {amount : ℤ}
    (h : (v.toNat : ℤ) = (j.balance addr).toNat + amount) :
    Moves j (j.setBalance addr v) addr amount := by
  intro a
  by_cases ha : a = addr
  · subst ha
    simp [h]
  · simp [ha]

/-- A credit that does not overflow moves the balance by its amount. -/
theorem moves_incrBalance {j : Journal} {addr : Address} {amount : U256}
    (h : (j.balance addr).toNat + amount.toNat < 2 ^ 256) :
    Moves j (j.incrBalance addr amount).2 addr amount.toNat := by
  unfold Journal.incrBalance
  cases hadd : (j.balance addr).checkedAdd amount with
  -- an overflow would only have touched the account
  | none => exact absurd (BitVec.checkedAdd_eq_none_iff.mp hadd) (Nat.not_le.mpr h)
  | some v =>
    refine moves_setBalance ?_
    rw [BitVec.checkedAdd_eq_some_iff.mp hadd]
    push_cast
    rfl

/-- The effective gas price of the transaction in a context. -/
def Ctx.price (ctx : Ctx) : ℕ :=
  (ctx.tx.inner.effectiveGasPrice (ctx.block.basefee.setWidth 128)).toNat

/-- The reimbursement does not saturate while the whole gas limit at this price fits in a `u128`. -/
theorem Gas.Final.toNat_reimbursement {ctx : Ctx} {gas : Gas} {limit : U64} (h : gas.Final limit)
    (hprice : ctx.price * limit.toNat < 2 ^ 128) :
    (EvHandler.reimbursement ctx gas).toNat = ctx.price * gas.unused.toNat := by
  have hunused := h.used_add_unused
  have hle : ctx.price * gas.unused.toNat ≤ ctx.price * limit.toNat :=
    Nat.mul_le_mul_left _ (by omega)
  rw [EvHandler.reimbursement, BitVec.toNat_setWidth_of_le (by omega), BitVec.toNat_saturatingMul,
    BitVec.toNat_setWidth_of_le (by omega)]
  change min (ctx.price * gas.unused.toNat) _ = _
  omega

/-- The account that pays for gas: the sponsor, or the caller if there is none. -/
def EvTxEnv.payer (tx : EvTxEnv) : Address := tx.sponsor.getD tx.inner.caller

/-- revm gives the caller the unused gas at the effective price, and the beneficiary what that price
is above the base fee for the gas used, as long as nothing overflows. -/
structure Mainnet.FeeRules (inner : Mainnet) : Prop where
  reimburseCaller : ∀ result ctx ctx' limit, inner.reimburseCaller result ctx = .ok () ctx' →
    result.gas.Final limit → ctx.price * limit.toNat < 2 ^ 128 →
    (ctx.journal.balance ctx.tx.inner.caller).toNat + ctx.price * result.gas.unused.toNat <
      2 ^ 256 →
    Moves ctx.journal ctx'.journal ctx.tx.inner.caller (ctx.price * result.gas.unused.toNat : ℕ)
  rewardBeneficiary : ∀ gas ctx ctx' limit, inner.rewardBeneficiary gas ctx = .ok () ctx' →
    gas.Final limit → ctx.price * limit.toNat < 2 ^ 128 →
    (ctx.journal.balance ctx.block.beneficiary).toNat +
      (ctx.price - ctx.block.basefee.toNat) * gas.spentSubRefunded.toNat < 2 ^ 256 →
    Moves ctx.journal ctx'.journal ctx.block.beneficiary
      ((ctx.price - ctx.block.basefee.toNat) * gas.spentSubRefunded.toNat : ℕ)

namespace Transfers

variable (createAddress : Address → U64 → Address)

/-- Payments follow the rules for gas. -/
theorem gasRules : (mainnet createAddress).GasRules := by
  refine ⟨?_, ?_, ?_, ?_, ?_, ?_⟩
  · intro gas limit cfg _
    refine ⟨?_, rfl⟩
    change (limit.saturatingSub gas.initialTotalGas).toNat ≤ limit.toNat
    rw [BitVec.toNat_saturatingSub]
    exact Nat.sub_le _ _
  · intro g r ctx init ctx' h
    obtain ⟨rfl, -⟩ := EStateM.Result.ok.inj h
    exact ⟨rfl, rfl⟩
  · intro init ctx result ctx' h
    obtain ⟨result', ctx'', hrun, hdb, -⟩ := runExecLoop_ok createAddress init ctx
    obtain ⟨-, rfl⟩ := EStateM.Result.ok.inj (hrun.symm.trans h)
    obtain ⟨hresult, hctx⟩ := EStateM.Result.ok.inj h
    -- every frame returns the gas it got
    have hgas : ∃ r created, result = frameResult init r created := by
      rw [← hresult]
      cases init.kind with
      | call dest => exact gas_callFrame init ctx.journal dest
      | create => exact gas_createFrame createAddress init ctx.journal
    obtain ⟨r, created, rfl⟩ := hgas
    refine ⟨⟨?_, ?_, ?_, hdb⟩, fun _ hreservoir => ⟨le_rfl, hreservoir, rfl⟩⟩
    · rw [← hctx]
    · rw [← hctx]
    · rw [← hctx]
  · intro result ctx result' ctx' h
    obtain ⟨rfl, -⟩ := EStateM.Result.ok.inj h
    refine ⟨?_, ?_, fun _ _ => ?_⟩
    · simp only
      split_ifs <;> rfl
    · simp only
      split_ifs <;> simp [Gas.recordRefund, Gas.eraseCost, Gas.newSpent]
    · simp only
      split_ifs <;> rfl
  · intro ctx result r
    have hspent : ∀ n : ℤ, (result.gas.recordRefund n).spent = result.gas.spent := fun _ => rfl
    refine ⟨rfl, rfl, rfl, Int.natCast_nonneg _, ?_⟩
    change ((min _ (result.gas.spent.toNat / 5) : ℕ) : ℤ) ≤ (result.gas.spent.toNat : ℤ)
    omega
  · intro ctx result initial
    change (eip7623CheckGasFloor result initial).gas = _ ∨
      (eip7623CheckGasFloor result initial).gas = _
    unfold eip7623CheckGasFloor
    split_ifs
    · exact .inr rfl
    · exact .inl rfl

/-- A credit that fits moves its amount. -/
theorem moves_credit {addr : Address} {amount : U256} {ctx ctx' : Ctx}
    (hfits : (ctx.journal.balance addr).toNat + amount.toNat < 2 ^ 256)
    (h : credit addr amount ctx = .ok () ctx') :
    Moves ctx.journal ctx'.journal addr amount.toNat := by
  rw [credit_eq_ok h]
  exact moves_incrBalance hfits

/-- Payments follow the rules for fees. -/
theorem feeRules : (mainnet createAddress).FeeRules := by
  constructor
  · intro result ctx ctx' limit h hfinal hprice hfits
    rw [← hfinal.toNat_reimbursement hprice] at hfits ⊢
    exact moves_credit hfits h
  · intro gas ctx ctx' limit h hfinal hprice hfits
    have hused := hfinal.used_add_unused
    have hle : (ctx.price - ctx.block.basefee.toNat) * gas.spentSubRefunded.toNat ≤
        ctx.price * limit.toNat := Nat.mul_le_mul (Nat.sub_le _ _) (by omega)
    have hbase : (ctx.block.basefee.setWidth 128 : U128).toNat = ctx.block.basefee.toNat :=
      BitVec.toNat_setWidth_of_le (by omega)
    have hgas : (gas.spentSubRefunded.setWidth 128 : U128).toNat = gas.spentSubRefunded.toNat :=
      BitVec.toNat_setWidth_of_le (by omega)
    -- the share of the price above the base fee
    have htip : ((ctx.tx.inner.effectiveGasPrice (ctx.block.basefee.setWidth 128)).saturatingSub
        (ctx.block.basefee.setWidth 128)).toNat = ctx.price - ctx.block.basefee.toNat := by
      rw [BitVec.toNat_saturatingSub, hbase, Ctx.price]
    have hamount : ((((ctx.tx.inner.effectiveGasPrice
        (ctx.block.basefee.setWidth 128)).saturatingSub (ctx.block.basefee.setWidth 128)) *
        gas.spentSubRefunded.setWidth 128).setWidth 256 : U256).toNat =
        (ctx.price - ctx.block.basefee.toNat) * gas.spentSubRefunded.toNat := by
      rw [BitVec.toNat_setWidth_of_le (by omega),
        BitVec.toNat_mul_of_fits (by rw [htip, hgas]; omega), htip, hgas]
    rw [← hamount] at hfits ⊢
    exact moves_credit hfits h

end Transfers

namespace EvHandler

variable {self : EvHandler} {inner : Mainnet} {ctx ctx' : Ctx}

/-- The deduction charges the payer for the whole gas limit. -/
theorem moves_deduct {j j' : Journal} (h : deduct ctx j = .ok () j')
    (hcheck : ctx.cfg.isBalanceCheckDisabled = false) (hblob : ctx.tx.inner.txType ≠ .eip4844) :
    Moves j j' ctx.tx.payer (-(ctx.price * ctx.tx.inner.gasLimit.toNat : ℕ)) := by
  obtain ⟨-, ⟨hnone, v, hfee, rfl⟩ | ⟨sponsor, hsponsor, hfunds, rfl⟩⟩ := deduct_cases ctx h
  · rw [hcheck] at hfee
    obtain ⟨-, -, hv⟩ := calculateCallerFee_ok _ _ _ hfee
    have hpayer : ctx.tx.payer = ctx.tx.inner.caller := by simp [EvTxEnv.payer, hnone]
    -- without blobs, the gas is all that the caller is charged
    have hmove : Moves j (j.setBalance ctx.tx.inner.caller v) ctx.tx.inner.caller
        (-(ctx.price * ctx.tx.inner.gasLimit.toNat : ℕ)) := by
      refine moves_setBalance ?_
      rw [blobCost, if_neg hblob, add_zero] at hv
      rw [Nat.mul_comm] at hv
      rw [Ctx.price]
      omega
    intro a
    rw [hpayer, balance_bumpIfCall]
    exact hmove a
  · obtain ⟨-, hgas⟩ := hfunds hcheck
    have hpayer : ctx.tx.payer = sponsor := by simp [EvTxEnv.payer, hsponsor]
    -- the sponsor has the maximal cost, so the subtraction does not saturate
    have hcost := gasCost_le_maxGasCost ctx.tx.inner (ctx.block.basefee.setWidth 128)
    rw [toNat_gasCost] at hcost
    have hmove : Moves (bumpIfCall ctx.tx.inner.kind.isCall ctx.tx.inner.caller j)
        ((bumpIfCall ctx.tx.inner.kind.isCall ctx.tx.inner.caller j).setBalance sponsor
          (newSponsorBalance ctx.tx.inner (ctx.block.basefee.setWidth 128)
            ctx.cfg.isBalanceCheckDisabled (j.balance sponsor))) sponsor
        (-(ctx.price * ctx.tx.inner.gasLimit.toNat : ℕ)) := by
      refine moves_setBalance ?_
      rw [hcheck, toNat_newSponsorBalance, balance_bumpIfCall, Ctx.price,
        Nat.mul_comm ctx.tx.inner.gasLimit.toNat]
      rw [Nat.mul_comm] at hcost
      omega
    intro a
    have ha := hmove a
    rw [hpayer]
    rwa [balance_bumpIfCall] at ha

/-- The reimbursement gives the payer the unused gas at the effective price. -/
theorem moves_reimburseCaller (hfees : inner.FeeRules) {result : FrameResult} {limit : U64}
    (hfinal : result.gas.Final limit) (hprice : ctx.price * limit.toNat < 2 ^ 128)
    (hfits : (ctx.journal.balance ctx.tx.payer).toNat + ctx.price * result.gas.unused.toNat <
      2 ^ 256)
    (h : reimburseCaller inner result ctx = .ok () ctx') :
    Moves ctx.journal ctx'.journal ctx.tx.payer (ctx.price * result.gas.unused.toNat : ℕ) := by
  cases hsponsor : ctx.tx.sponsor with
  | none =>
    have hpayer : ctx.tx.payer = ctx.tx.inner.caller := by simp [EvTxEnv.payer, hsponsor]
    rw [reimburseCaller_normal inner result ctx hsponsor] at h
    rw [hpayer] at hfits ⊢
    exact hfees.reimburseCaller _ _ _ _ h hfinal hprice hfits
  | some sponsor =>
    have hpayer : ctx.tx.payer = sponsor := by simp [EvTxEnv.payer, hsponsor]
    rw [hpayer] at hfits ⊢
    rw [reimburseCaller_eq_ok hsponsor h]
    refine moves_setBalance ?_
    rw [BitVec.toNat_saturatingAdd, hfinal.toNat_reimbursement hprice]
    omega

/-- The redirect credits the sink with the base fee of the gas used. -/
theorem moves_redirected {redirect : BaseFeeRedirect} (hredirect : self.redirect = some redirect)
    {gasUsed : U64}
    (hfits : (ctx.journal.balance redirect.feeSink).toNat +
      ctx.block.basefee.toNat * gasUsed.toNat < 2 ^ 256) :
    Moves ctx.journal (self.redirected ctx gasUsed).journal redirect.feeSink
      (ctx.block.basefee.toNat * gasUsed.toNat : ℕ) := by
  rw [← toNat_redirectAmount] at hfits ⊢
  simp only [redirected, hredirect, BaseFeeRedirect.credited]
  split_ifs with hzero
  · intro a
    simp [hzero]
  · exact moves_incrBalance hfits

/-! ## The whole transaction -/

namespace RunTrace

variable {out : ExecutionResult} (t : RunTrace self inner ctx out ctx')

/-- The gas that the transaction is billed for. -/
def used : ℕ := t.billed.gas.spentSubRefunded.toNat

/-- What deduction and reimbursement do to a balance. -/
def gasCharge (a : Address) : ℤ :=
  ((t.pre.afterDeduct.journal.balance a).toNat - (t.pre.afterGas.journal.balance a).toNat : ℤ) +
    ((t.afterReimburse.journal.balance a).toNat - (t.exit.journal.balance a).toNat : ℤ)

/-- What deduction, reimbursement, redirect and reward do to a balance. -/
def feeChange (a : Address) : ℤ :=
  ((t.pre.afterDeduct.journal.balance a).toNat - (t.pre.afterGas.journal.balance a).toNat : ℤ) +
    ((t.afterReward.journal.balance a).toNat - (t.exit.journal.balance a).toNat : ℤ)

/-- No credit of the transaction exceeds the range of a balance. -/
def NoOverflow : Prop :=
  (t.exit.journal.balance ctx.tx.payer).toNat + ctx.price * t.billed.gas.unused.toNat < 2 ^ 256 ∧
    (∀ redirect, self.redirect = some redirect →
      (t.afterReimburse.journal.balance redirect.feeSink).toNat +
        ctx.block.basefee.toNat * t.used < 2 ^ 256) ∧
    ((self.redirected t.afterReimburse t.billed.gas.spentSubRefunded).journal.balance
      ctx.block.beneficiary).toNat + (ctx.price - ctx.block.basefee.toNat) * t.used < 2 ^ 256

/-- At the end of execution, what fees depend on is as at the beginning of the transaction, and the
gas billed is within the limit. -/
theorem exit_facts (henv : inner.KeepsEnvironment) (hgas : inner.GasRules)
    (hoff : ctx.cfg.isAmsterdamEip8037Enabled = false) :
    (∃ call, t.exit.tx = ctx.tx.setBatchCall call) ∧ t.exit.block = ctx.block ∧
      t.billed.gas.Final ctx.tx.inner.gasLimit := by
  have hentry := keepsEnv_preExecution henv _ _ _ t.hPre
  obtain ⟨hsettled, htx, hblock, -⟩ := gas_of_execution henv hgas (by rw [hentry.cfg]; exact hoff)
    (batchCalls_ne_nil henv t.hPre) t.hExec
  -- transaction and block at entry are those of the beginning
  rw [hentry.tx] at htx hsettled
  refine ⟨htx, hblock.trans hentry.block, ?_⟩
  rw [t.hBilled]
  exact final_of_settled hgas hsettled _ _

/-- The four moves of a transaction's fees. -/
theorem moves (henv : inner.KeepsEnvironment) (hgas : inner.GasRules) (hfees : inner.FeeRules)
    (hcheck : ctx.cfg.isBalanceCheckDisabled = false)
    (hoff : ctx.cfg.isAmsterdamEip8037Enabled = false)
    (hblob : ctx.tx.inner.txType ≠ .eip4844)
    (hprice : ctx.price * ctx.tx.inner.gasLimit.toNat < 2 ^ 128) (hfits : t.NoOverflow) :
    Moves t.pre.afterGas.journal t.pre.afterDeduct.journal ctx.tx.payer
        (-(ctx.price * ctx.tx.inner.gasLimit.toNat : ℕ)) ∧
      Moves t.exit.journal t.afterReimburse.journal ctx.tx.payer
        (ctx.price * t.billed.gas.unused.toNat : ℕ) ∧
      Moves (self.redirected t.afterReimburse t.billed.gas.spentSubRefunded).journal
        t.afterReward.journal ctx.block.beneficiary
        ((ctx.price - ctx.block.basefee.toNat) * t.used : ℕ) := by
  obtain ⟨⟨call, htx⟩, hblock, hfinal⟩ := t.exit_facts henv hgas hoff
  -- the environment of each of the three phases
  have hgasEnv := t.pre.sameEnv_afterGas henv
  have hreimburseEnv := keepsEnv_reimburseCaller henv _ _ _ _ t.hReimburse
  have hrewardEnv : t.exit.SameEnv
      (self.redirected t.afterReimburse t.billed.gas.spentSubRefunded) :=
    hreimburseEnv.trans (sameEnv_redirected _)
  have hexitPrice : t.exit.price = ctx.price := by rw [Ctx.price, htx, hblock]; rfl
  have hexitPayer : t.exit.tx.payer = ctx.tx.payer := by rw [htx]; rfl
  refine ⟨?_, ?_, ?_⟩
  · obtain ⟨j, hd, hafter⟩ := deduct_of_validate self _ t.pre.hDeduct
    have hmove := moves_deduct hd (by rw [hgasEnv.cfg]; exact hcheck)
      (by rw [hgasEnv.tx]; exact hblob)
    rw [Ctx.price, hgasEnv.tx, hgasEnv.block] at hmove
    rw [hafter]
    exact hmove
  · have hmove := moves_reimburseCaller hfees hfinal (by rw [hexitPrice]; exact hprice)
      (by rw [hexitPrice, hexitPayer]; exact hfits.1) t.hReimburse
    rwa [hexitPrice, hexitPayer] at hmove
  · have hrewardPrice : (self.redirected t.afterReimburse t.billed.gas.spentSubRefunded).price =
        ctx.price := by
      rw [Ctx.price, hrewardEnv.tx, hrewardEnv.block]
      exact hexitPrice
    have hrewardBlock := hrewardEnv.block.trans hblock
    have hmove := hfees.rewardBeneficiary _ _ _ _ (rewardBeneficiary_eq_ok t.hReward) hfinal
      (by rw [hrewardPrice]; exact hprice) (by rw [hrewardPrice, hrewardBlock]; exact hfits.2.2)
    rwa [hrewardPrice, hrewardBlock] at hmove

end RunTrace

/-- What the redirect adds to the sum of all balances. -/
theorem sum_redirected {gasUsed : U64}
    (hfits : ∀ redirect, self.redirect = some redirect →
      (ctx.journal.balance redirect.feeSink).toNat + ctx.block.basefee.toNat * gasUsed.toNat <
        2 ^ 256) :
    ∑ a, (((self.redirected ctx gasUsed).journal.balance a).toNat -
        (ctx.journal.balance a).toNat : ℤ) =
      if self.redirect.isSome then ((ctx.block.basefee.toNat * gasUsed.toNat : ℕ) : ℤ) else 0 := by
  cases hredirect : self.redirect with
  | none => simp [redirected, hredirect]
  | some redirect => exact (moves_redirected hredirect (hfits redirect hredirect)).sum

/-- Closed-loop accounting. For every transaction that runs, without blobs and with the balance
check, whatever its gas outcome and whichever of the accounts coincide: the moves of its fees add up
to zero when the base fee is redirected, and to the base fee burned when it is not; the payer is
charged the effective price for the gas used, and deduction and reimbursement leave every other
account alone. -/
theorem fees_closed_loop (self : EvHandler) (inner : Mainnet) (ctx ctx' : Ctx)
    (out : ExecutionResult) (henv : inner.KeepsEnvironment) (hgas : inner.GasRules)
    (hfees : inner.FeeRules)
    (hcheck : ctx.cfg.isBalanceCheckDisabled = false)
    (hoff : ctx.cfg.isAmsterdamEip8037Enabled = false)
    (hblob : ctx.tx.inner.txType ≠ .eip4844)
    (hprice : ctx.price * ctx.tx.inner.gasLimit.toNat < 2 ^ 128)
    (hbasefee : ctx.block.basefee.toNat ≤ ctx.price) (hrun : self.run inner ctx = .ok out ctx') :
    Nonempty (RunTrace self inner ctx out ctx') ∧
      ∀ t : RunTrace self inner ctx out ctx', t.NoOverflow →
        ∑ a, t.feeChange a =
            (if self.redirect.isSome then 0 else -((ctx.block.basefee.toNat * t.used : ℕ) : ℤ)) ∧
          t.gasCharge ctx.tx.payer = -((ctx.price * t.used : ℕ) : ℤ) ∧
          ∀ a, a ≠ ctx.tx.payer → t.gasCharge a = 0 := by
  refine ⟨runTrace_of_ok hrun, fun t hfits => ?_⟩
  obtain ⟨hdeduct, hreimburse, hreward⟩ := t.moves henv hgas hfees hcheck hoff hblob hprice hfits
  obtain ⟨-, hblock, hfinal⟩ := t.exit_facts henv hgas hoff
  replace hblock : t.afterReimburse.block = ctx.block :=
    (keepsEnv_reimburseCaller henv _ _ _ _ t.hReimburse).block.trans hblock
  -- the gas limit splits into gas used and unused, the price into base fee and tip
  have hlimit : ctx.price * ctx.tx.inner.gasLimit.toNat =
      ctx.price * t.used + ctx.price * t.billed.gas.unused.toNat := by
    rw [← Nat.mul_add, RunTrace.used, hfinal.used_add_unused]
  have hshares : (ctx.price - ctx.block.basefee.toNat) * t.used + ctx.block.basefee.toNat * t.used =
      ctx.price * t.used := by
    rw [← Nat.add_mul, Nat.sub_add_cancel hbasefee]
  -- the payer has paid for the limit and got the unused part back
  have hcharge : ∀ a, t.gasCharge a =
      if a = ctx.tx.payer then -((ctx.price * t.used : ℕ) : ℤ) else 0 := by
    intro a
    rw [RunTrace.gasCharge, hdeduct a, hreimburse a]
    split_ifs <;> omega
  refine ⟨?_, by rw [hcharge, if_pos rfl], fun a ha => by rw [hcharge, if_neg ha]⟩
  have hsink : ∑ a, (((self.redirected t.afterReimburse
        t.billed.gas.spentSubRefunded).journal.balance a).toNat -
        (t.afterReimburse.journal.balance a).toNat : ℤ) =
      if self.redirect.isSome then ((ctx.block.basefee.toNat * t.used : ℕ) : ℤ) else 0 := by
    have hredirect := hfits.2.1
    rw [← hblock] at hredirect ⊢
    exact sum_redirected hredirect
  -- the change of a balance is the sum of the four moves
  have hchange : ∀ a, t.feeChange a = t.gasCharge a +
      ((((self.redirected t.afterReimburse t.billed.gas.spentSubRefunded).journal.balance a).toNat -
          (t.afterReimburse.journal.balance a).toNat : ℤ) +
        ((t.afterReward.journal.balance a).toNat -
          ((self.redirected t.afterReimburse t.billed.gas.spentSubRefunded).journal.balance
            a).toNat : ℤ)) := by
    intro a
    rw [RunTrace.feeChange, RunTrace.gasCharge]
    omega
  rw [Finset.sum_congr rfl fun a _ => hchange a, Finset.sum_add_distrib, Finset.sum_add_distrib,
    hsink, hreward.sum, Finset.sum_congr rfl fun a _ => hcharge a, Finset.sum_ite_eq' Finset.univ,
    if_pos (Finset.mem_univ _)]
  split_ifs <;> omega

/-- A payment of `5` wei by `0xCA`, sponsored by `0x5A`. -/
def sponsoredPayment : Ctx :=
  { block := { number := 1, beneficiary := 0xBE, basefee := 1 }
    tx := EvTxEnv.fromEvNode (fun _ _ _ => some 0x5A)
      { chainId := 1
        nonce := 0
        maxPriorityFeePerGas := 1
        maxFeePerGas := 2
        gasLimit := 100000
        calls := [⟨.call 0x01, 5, []⟩]
        accessList := []
        feePayerSignature := some ⟨1, 1, false⟩ } 0xCA
    journal := (Transfers.funded 1000000).setBalance 0x5A 1000000 }

/-- The fees of `sponsoredPayment` go to the sink `0x51` and to the beneficiary. -/
theorem fees_closed_loop_sponsored :
    ∃ out ctx', EvHandler.run ⟨some ⟨0x51⟩, none⟩ Transfers.mainnetOfCA sponsoredPayment =
        .ok out ctx' ∧
      ∃ t : RunTrace ⟨some ⟨0x51⟩, none⟩ Transfers.mainnetOfCA sponsoredPayment out ctx',
        t.NoOverflow ∧ ∑ a, t.feeChange a = 0 ∧ t.gasCharge 0x5A = -42000 := by
  -- the run is evaluated once, with the intermediate states that its trace names
  have htrace : ∃ out ctx', EvHandler.run ⟨some ⟨0x51⟩, none⟩ Transfers.mainnetOfCA
      sponsoredPayment = .ok out ctx' ∧
      ∃ t : RunTrace ⟨some ⟨0x51⟩, none⟩ Transfers.mainnetOfCA sponsoredPayment out ctx',
        t.NoOverflow ∧ t.used = 21000 := by
    refine ⟨_, _, rfl, ⟨_, _, _, _, _, _, _, _, ⟨_, _, _, _, _, rfl, rfl, rfl, rfl, rfl⟩, rfl, rfl,
      rfl, rfl, rfl, rfl⟩, ⟨?_, ?_, ?_⟩, ?_⟩
    · decide
    · rintro _ ⟨⟩
      decide
    · decide
    · decide
  obtain ⟨out, ctx', hrun, t, hfits, hused⟩ := htrace
  obtain ⟨-, hall⟩ := fees_closed_loop _ Transfers.mainnetOfCA _ ctx' out
    (Transfers.keepsEnvironment _) (Transfers.gasRules _) (Transfers.feeRules _) rfl rfl (by decide)
    (by decide) (by decide) hrun
  obtain ⟨hsum, hcharge, -⟩ := hall t hfits
  refine ⟨out, ctx', hrun, t, hfits, hsum, ?_⟩
  rw [hused] at hcharge
  exact hcharge

end EvHandler

end EvReth
