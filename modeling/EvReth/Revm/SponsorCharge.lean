import EvReth.Revm.Handler.Accounting
import EvReth.Revm.Replay

/-!
# What a sponsor pays

For a sponsored transaction `EvHandler` (`crates/ev-revm/src/handler.rs`) makes the deduction and
the reimbursement by itself. The deduction is the product of gas limit and price as a `U256`; the
reimbursement is a saturating product of `u128`s, and it leaves out the reservoir of EIP-8037. This
file compares what a sponsor pays with what a caller pays for the same transaction.
-/

namespace EvReth

open EStateM

/-- The gas that a transaction has not spent: what is left, what is put aside, and the refund. -/
def Gas.left (gas : Gas) : ℕ :=
  gas.remaining.toNat + gas.reservoir.toNat + gas.refunded.toNat

/-- The gas with which a transaction ends: what it has not spent is within its limit. -/
structure Gas.Outcome (gas : Gas) (limit : U64) : Prop where
  refunded_nonneg : 0 ≤ gas.refunded
  left_le : gas.left ≤ limit.toNat

/-- The amount that a transaction owes for its gas. -/
def Gas.owed (gas : Gas) (price : ℕ) (limit : U64) : ℕ := price * (limit.toNat - gas.left)

/-- revm gives the caller all gas that was not spent at the effective price, in full precision. -/
def Mainnet.ReimbursesInFull (inner : Mainnet) : Prop :=
  ∀ result ctx ctx' limit, inner.reimburseCaller result ctx = .ok () ctx' →
    result.gas.Outcome limit →
    (ctx.journal.balance ctx.tx.inner.caller).toNat + ctx.price * result.gas.left < 2 ^ 256 →
    Moves ctx.journal ctx'.journal ctx.tx.inner.caller (ctx.price * result.gas.left : ℕ)

/-- The same transaction, sent without a sponsor. -/
def EvTxEnv.withoutSponsor (tx : EvTxEnv) : EvTxEnv :=
  { tx with sponsor := none, sponsorSignatureInvalid := false }

/-- Sponsored transactions are EIP-1559 transactions for revm. -/
theorem EvTxEnv.Built.txType_eq {tx : EvTxEnv} (h : tx.Built) (hsponsor : tx.sponsor.isSome) :
    tx.inner.txType = .eip1559 := by
  cases h with
  | new inner => cases hsponsor
  | fromEvNode recoverSponsor tx sender => rfl

namespace Gas.Outcome

variable {gas : Gas} {limit : U64} (h : gas.Outcome limit)
include h

theorem toNat_refundedU64 : gas.refundedU64.toNat = gas.refunded.toNat := by
  have hnonneg := h.refunded_nonneg
  have hle := h.left_le
  have hlt := limit.isLt
  rw [Gas.left] at hle
  exact Gas.toNat_refundedU64 hnonneg (by omega)

theorem toNat_unused : gas.unused.toNat = gas.remaining.toNat + gas.refunded.toNat := by
  have hbits := h.toNat_refundedU64
  have hle := h.left_le
  have hlt := limit.isLt
  rw [Gas.left] at hle
  rw [Gas.unused, BitVec.toNat_add_of_fits (by omega), hbits]

/-- The reimbursement of a sponsor saturates at the largest `u128`. -/
theorem toNat_reimbursement (ctx : Ctx) :
    (EvHandler.reimbursement ctx gas).toNat =
      min (ctx.price * (gas.remaining.toNat + gas.refunded.toNat)) (2 ^ 128 - 1) := by
  rw [EvHandler.reimbursement, BitVec.toNat_setWidth_of_le (by omega), BitVec.toNat_saturatingMul,
    BitVec.toNat_setWidth_of_le (by omega), ← h.toNat_unused]
  rfl

/-- The gas limit splits into what is owed, the unused gas and the reservoir. -/
theorem price_mul_limit (price : ℕ) : price * limit.toNat = gas.owed price limit +
    (price * (gas.remaining.toNat + gas.refunded.toNat) + price * gas.reservoir.toNat) := by
  have hle := h.left_le
  rw [Gas.owed, ← Nat.mul_add, ← Nat.mul_add]
  congr 1
  rw [Gas.left] at hle ⊢
  omega

end Gas.Outcome

namespace EvHandler

variable {self : EvHandler} {inner : Mainnet} {ctx ctx' : Ctx}

namespace RunTrace

/-- The sponsor is charged as a caller is: exactly what the transaction owes, which is neither
negative nor above the maximal cost, and what the caller is charged for the same transaction and
the same gas without a sponsor. -/
structure ChargesLikeCaller {handler : EvHandler} {out : ExecutionResult}
    (t : RunTrace handler inner ctx out ctx') (sponsor : Address) : Prop where
  charge_eq : -t.gasCharge sponsor = (t.billed.gas.owed ctx.price ctx.tx.inner.gasLimit : ℕ)
  charge_nonneg : 0 ≤ -t.gasCharge sponsor
  charge_le : -t.gasCharge sponsor ≤
    (ctx.tx.inner.gasLimit.toNat * ctx.tx.inner.maxFeePerGas.toNat : ℕ)
  caller_eq : ∀ (handler : EvHandler) (ctx₂ ctx₂' : Ctx) (out₂ : ExecutionResult)
    (t₂ : RunTrace handler inner ctx₂ out₂ ctx₂'), ctx₂.tx = ctx.tx.withoutSponsor →
    ctx₂.block = ctx.block → ctx₂.cfg = ctx.cfg → t₂.billed.gas = t.billed.gas →
    (t₂.exit.journal.balance ctx.tx.inner.caller).toNat + ctx.price * t.billed.gas.left < 2 ^ 256 →
    t₂.gasCharge ctx.tx.inner.caller = t.gasCharge sponsor

variable {out : ExecutionResult} (t : RunTrace self inner ctx out ctx')

/-- The deduction sees the transaction and the block of the beginning. -/
theorem afterGas_eq (hsetup : inner.KeepsSetup) (hread : inner.ReadsInner) :
    t.pre.afterGas.tx = ctx.tx ∧ t.pre.afterGas.setup = ctx.setup := by
  have htx := hread.keepsPart_tx
  constructor
  · exact ((keeps_validateInitialTxGas htx).of_ok t.pre.hGas).trans
      (htx.validateEnv.of_ok t.pre.hEnv)
  · exact ((keeps_validateInitialTxGas hsetup.keepsPart).of_ok t.pre.hGas).trans
      (hsetup.validateEnv.of_ok t.pre.hEnv)

/-- The reimbursement sees them too, up to the call that the transaction shows. -/
theorem exit_eq (hsetup : inner.KeepsSetup) (hread : inner.ReadsInner) :
    (∃ call, t.exit.tx = ctx.tx.setBatchCall call) ∧ t.exit.setup = ctx.setup := by
  have htx : t.entry.tx = ctx.tx :=
    (keeps_preExecution outsideJournal_tx hread.keepsPart_tx).of_ok t.hPre
  have hentry : t.entry.setup = ctx.setup :=
    (keeps_preExecution outsideJournal_setup hsetup.keepsPart).of_ok t.hPre
  refine ⟨?_, ((keeps_setup_execution hsetup t.gas).of_ok t.hExec).trans hentry⟩
  have hexit := tx_execution hread.keepsPart_tx t.gas t.entry
  rw [t.hExec, htx] at hexit
  rcases hexit with hexit | ⟨-, call, -, hexit⟩
  · exact ⟨_, hexit.trans (setBatchCall_self ctx.tx).symm⟩
  · exact ⟨call, hexit⟩

/-- The payer is charged the whole gas limit before execution. -/
theorem moves_afterDeduct (hsetup : inner.KeepsSetup) (hread : inner.ReadsInner)
    (hcheck : ctx.cfg.isBalanceCheckDisabled = false) (hblob : ctx.tx.inner.txType ≠ .eip4844) :
    Moves t.pre.afterGas.journal t.pre.afterDeduct.journal ctx.tx.payer
      (-(ctx.price * ctx.tx.inner.gasLimit.toNat : ℕ)) := by
  obtain ⟨htx, henv⟩ := t.afterGas_eq hsetup hread
  obtain ⟨hblock, hcfg⟩ := Prod.mk.inj henv
  obtain ⟨j, hdeduct, hafter⟩ := deduct_of_validate self _ t.pre.hDeduct
  have hmove := moves_deduct hdeduct (by rw [hcfg]; exact hcheck) (by rw [htx]; exact hblob)
  rw [Ctx.price, htx, hblock] at hmove
  rw [hafter]
  exact hmove

theorem exit_price (hsetup : inner.KeepsSetup) (hread : inner.ReadsInner) :
    t.exit.price = ctx.price := by
  obtain ⟨⟨call, htx⟩, henv⟩ := t.exit_eq hsetup hread
  rw [Ctx.price, htx, (Prod.mk.inj henv).1]
  rfl

/-- A caller without a sponsor pays what the transaction owes. -/
theorem gasCharge_caller (hsetup : inner.KeepsSetup) (hread : inner.ReadsInner)
    (hfull : inner.ReimbursesInFull) (hsponsor : ctx.tx.sponsor = none)
    (hcheck : ctx.cfg.isBalanceCheckDisabled = false) (hblob : ctx.tx.inner.txType ≠ .eip4844)
    (hgas : t.billed.gas.Outcome ctx.tx.inner.gasLimit)
    (hfits : (t.exit.journal.balance ctx.tx.inner.caller).toNat +
      ctx.price * t.billed.gas.left < 2 ^ 256) :
    t.gasCharge ctx.tx.inner.caller =
      -(t.billed.gas.owed ctx.price ctx.tx.inner.gasLimit : ℕ) := by
  have hpayer : ctx.tx.payer = ctx.tx.inner.caller := by simp [EvTxEnv.payer, hsponsor]
  have hdeduct := t.moves_afterDeduct hsetup hread hcheck hblob ctx.tx.payer
  obtain ⟨⟨call, htx⟩, -⟩ := t.exit_eq hsetup hread
  have hprice := t.exit_price hsetup hread
  have hcaller : t.exit.tx.inner.caller = ctx.tx.inner.caller := by rw [htx]; rfl
  have hexit : t.exit.tx.sponsor = none := by rw [htx]; exact hsponsor
  have hreimburse := t.hReimburse
  rw [reimburseCaller_normal inner _ _ hexit] at hreimburse
  have hmove := hfull _ _ _ _ hreimburse hgas (by rw [hcaller, hprice]; exact hfits)
    ctx.tx.inner.caller
  have hlimit := hgas.price_mul_limit ctx.price
  -- what revm gives back includes the reservoir
  have hleft : ctx.price * t.billed.gas.left =
      ctx.price * (t.billed.gas.remaining.toNat + t.billed.gas.refunded.toNat) +
        ctx.price * t.billed.gas.reservoir.toNat := by
    rw [← Nat.mul_add, Gas.left]
    congr 1
    omega
  rw [hpayer, if_pos rfl] at hdeduct
  rw [hcaller, hprice, if_pos rfl] at hmove
  rw [RunTrace.gasCharge, hdeduct, hmove]
  omega

/-- A sponsor pays the gas limit less a reimbursement that saturates twice: at the largest `u128`
as a product, and at the largest `U256` as a balance. -/
theorem gasCharge_sponsor (hsetup : inner.KeepsSetup) (hread : inner.ReadsInner)
    {sponsor : Address} (hsponsor : ctx.tx.sponsor = some sponsor)
    (hcheck : ctx.cfg.isBalanceCheckDisabled = false) (hblob : ctx.tx.inner.txType ≠ .eip4844)
    (hgas : t.billed.gas.Outcome ctx.tx.inner.gasLimit) :
    t.gasCharge sponsor + (ctx.price * ctx.tx.inner.gasLimit.toNat : ℕ) +
        (t.exit.journal.balance sponsor).toNat =
      (min ((t.exit.journal.balance sponsor).toNat +
        min (ctx.price * (t.billed.gas.remaining.toNat + t.billed.gas.refunded.toNat))
          (2 ^ 128 - 1)) (2 ^ 256 - 1) : ℕ) := by
  have hpayer : ctx.tx.payer = sponsor := by simp [EvTxEnv.payer, hsponsor]
  have hdeduct := t.moves_afterDeduct hsetup hread hcheck hblob ctx.tx.payer
  obtain ⟨⟨call, htx⟩, -⟩ := t.exit_eq hsetup hread
  have hexit : t.exit.tx.sponsor = some sponsor := by rw [htx]; exact hsponsor
  have hafter : (t.afterReimburse.journal.balance sponsor).toNat =
      min ((t.exit.journal.balance sponsor).toNat +
        min (ctx.price * (t.billed.gas.remaining.toNat + t.billed.gas.refunded.toNat))
          (2 ^ 128 - 1)) (2 ^ 256 - 1) := by
    rw [reimburseCaller_eq_ok hexit t.hReimburse, reimbursed, Journal.balance_setBalance,
      if_pos rfl, BitVec.toNat_saturatingAdd, hgas.toNat_reimbursement,
      t.exit_price hsetup hread]
  rw [hpayer, if_pos rfl] at hdeduct
  rw [RunTrace.gasCharge, hdeduct, hafter]
  omega

/-- The reimbursement leaves nothing out: there is no reservoir to give back, and neither the
product nor the new balance saturates. -/
def ReimbursesExactly (sponsor : Address) : Prop :=
  (ctx.price = 0 ∨ t.billed.gas.reservoir = 0) ∧
    ctx.price * (t.billed.gas.remaining.toNat + t.billed.gas.refunded.toNat) < 2 ^ 128 ∧
    (t.exit.journal.balance sponsor).toNat +
      ctx.price * (t.billed.gas.remaining.toNat + t.billed.gas.refunded.toNat) < 2 ^ 256

/-- A sponsor is charged as a caller is exactly if the reimbursement leaves nothing out. -/
theorem chargesLikeCaller_iff (hsetup : inner.KeepsSetup) (hread : inner.ReadsInner)
    (hfull : inner.ReimbursesInFull) (hbuilt : ctx.tx.Built) {sponsor : Address}
    (hsponsor : ctx.tx.sponsor = some sponsor) (hcheck : ctx.cfg.isBalanceCheckDisabled = false)
    (hgas : t.billed.gas.Outcome ctx.tx.inner.gasLimit) :
    t.ChargesLikeCaller sponsor ↔ t.ReimbursesExactly sponsor := by
  have htype := hbuilt.txType_eq (by rw [hsponsor]; rfl)
  have hblob : ctx.tx.inner.txType ≠ .eip4844 := by rw [htype]; exact nofun
  have hcharge := t.gasCharge_sponsor hsetup hread hsponsor hcheck hblob hgas
  have hlimit := hgas.price_mul_limit ctx.price
  have hlt := (t.exit.journal.balance sponsor).isLt
  have hreservoir : ctx.price * t.billed.gas.reservoir.toNat = 0 ↔
      ctx.price = 0 ∨ t.billed.gas.reservoir = 0 := by
    rw [Nat.mul_eq_zero]
    exact or_congr_right ⟨fun h => BitVec.eq_of_toNat_eq h, fun h => by rw [h]; rfl⟩
  rw [ReimbursesExactly, ← hreservoir]
  -- from here on it is arithmetic on what was taken and what was given back
  constructor
  · intro h
    have heq := h.charge_eq
    omega
  · rintro ⟨hzero, hproduct, hbalance⟩
    have heq : -t.gasCharge sponsor =
        (t.billed.gas.owed ctx.price ctx.tx.inner.gasLimit : ℕ) := by omega
    refine ⟨heq, by omega, ?_, ?_⟩
    · have hprice : ctx.price ≤ ctx.tx.inner.maxFeePerGas.toNat :=
        ctx.tx.inner.effectiveGasPrice_le_maxFeePerGas _
      have hmax : ctx.price * ctx.tx.inner.gasLimit.toNat ≤
          ctx.tx.inner.gasLimit.toNat * ctx.tx.inner.maxFeePerGas.toNat := by
        rw [Nat.mul_comm]
        exact Nat.mul_le_mul_left _ hprice
      omega
    · -- any run of the same transaction in which the caller pays itself
      intro handler ctx₂ ctx₂' out₂ t₂ htx₂ hblock₂ hcfg₂ hgas₂ hfits
      have hinner : ctx₂.tx.inner = ctx.tx.inner := by rw [htx₂]; rfl
      have hprice : ctx₂.price = ctx.price := by rw [Ctx.price, hinner, hblock₂, Ctx.price]
      have hcaller := t₂.gasCharge_caller hsetup hread hfull (by rw [htx₂]; rfl)
        (by rw [hcfg₂]; exact hcheck) (by rw [hinner]; exact hblob)
        (by rw [hgas₂, hinner]; exact hgas) (by rw [hinner, hprice, hgas₂]; exact hfits)
      rw [hinner, hprice, hgas₂] at hcaller
      rw [hcaller]
      omega

end RunTrace

end EvHandler

namespace Transfers

/-- Payments that write state look at no more of the transaction than revm shows them. -/
theorem readsInner_storing (stateGas : U64) : (storing stateGas).ReadsInner := by
  have h : mainnetOfCA.ReadsInner := readsInner _
  refine ⟨?_, h.validateInitialTxGas, h.loadAccounts, h.applyEip7702AuthList, h.firstFrameInput, ?_,
    ?_, h.refund, h.eip7623CheckGasFloor, ?_, ?_, h.executionResult⟩
  · rintro a b htx ctx _ ⟨rfl, rfl⟩
    change Result.Related _ (validateEnv ctx) (validateEnv { ctx with tx := b })
    simp only [validateEnv, htx]
    split_ifs
    · exact ⟨rfl, rfl, rfl⟩
    · exact ⟨rfl, rfl, rfl⟩
  · rintro init a b htx ctx _ ⟨rfl, rfl⟩
    exact ⟨rfl, rfl, rfl⟩
  · rintro result a b htx ctx _ ⟨rfl, rfl⟩
    refine ⟨?_, rfl, rfl⟩
    simp only [htx]
  -- the last two read the price from the transaction and then credit an account
  · intro result a b htx
    refine RunsAlike.get_bind ?_
    rintro ctx _ ⟨rfl, rfl⟩
    simp only [htx]
    exact readsInner_credit _ _ _ _ htx _ _ ⟨rfl, rfl⟩
  · intro gas a b htx
    refine RunsAlike.get_bind ?_
    rintro ctx _ ⟨rfl, rfl⟩
    simp only [htx]
    exact readsInner_credit _ _ _ _ htx _ _ ⟨rfl, rfl⟩

/-- Payments that write state reimburse all that is left, the reservoir included. -/
theorem reimbursesInFull_storing (stateGas : U64) : (storing stateGas).ReimbursesInFull := by
  intro result ctx ctx' limit h hgas hfits
  have hle := hgas.left_le
  have hlt := limit.isLt
  have hrefunded := hgas.toNat_refundedU64
  -- the sum is within the gas limit, and its product with a `u128` fits into a `U256`
  have hunspent : (result.gas.remaining.setWidth 256 + result.gas.reservoir.setWidth 256 +
      result.gas.refundedU64.setWidth 256 : U256).toNat = result.gas.left := by
    rw [Gas.left] at hle
    simp only [BitVec.toNat_add, BitVec.toNat_setWidth, hrefunded]
    rw [Gas.left]
    omega
  have hprice : ((ctx.tx.inner.effectiveGasPrice (ctx.block.basefee.setWidth 128)).setWidth 256 :
      U256).toNat = ctx.price := BitVec.toNat_setWidth_of_le (by omega)
  have hamount : ((ctx.tx.inner.effectiveGasPrice (ctx.block.basefee.setWidth 128)).setWidth 256 *
      (result.gas.remaining.setWidth 256 + result.gas.reservoir.setWidth 256 +
        result.gas.refundedU64.setWidth 256) : U256).toNat = ctx.price * result.gas.left := by
    rw [BitVec.toNat_mul_of_fits (by rw [hprice, hunspent]; omega), hprice, hunspent]
  rw [← hamount] at hfits ⊢
  exact moves_credit hfits h

end Transfers

namespace EvHandler

/-- `sponsoredPayment` under EIP-8037, where a transaction has at most `60000` regular gas. -/
def reservedPayment : Ctx :=
  { sponsoredPayment with cfg := { isAmsterdamEip8037Enabled := true, txGasLimitCap := 60000 } }

theorem built_sponsoredPayment : sponsoredPayment.tx.Built := by
  simp only [sponsoredPayment]
  apply EvTxEnv.Built.fromEvNode

/-- Without EIP-8037 the sponsor of `sponsoredPayment` is charged as a caller is. -/
theorem chargesLikeCaller_payment :
    ∃ out ctx', ∃ t : RunTrace ⟨none, none⟩ (Transfers.storing 0) sponsoredPayment out ctx',
      t.gasCharge 0x5A = -42000 ∧ t.ChargesLikeCaller 0x5A := by
  have htrace : ∃ out ctx', ∃ t : RunTrace ⟨none, none⟩ (Transfers.storing 0) sponsoredPayment out
      ctx', t.gasCharge 0x5A = -42000 ∧ t.billed.gas = ⟨100000, 79000, 0, 0, 0⟩ ∧
        (t.exit.journal.balance 0x5A).toNat = 800000 := by
    refine ⟨_, _, ⟨_, _, _, _, _, _, _, _, ⟨_, _, _, _, _, rfl, rfl, rfl, rfl, rfl⟩, rfl, rfl, rfl,
      rfl, rfl, rfl⟩, ?_, ?_, ?_⟩
    · decide
    · decide
    · decide
  obtain ⟨out, ctx', t, hcharge, hgas, hbalance⟩ := htrace
  refine ⟨out, ctx', t, hcharge, ?_⟩
  refine (t.chargesLikeCaller_iff (Transfers.keepsSetup_storing 0) (Transfers.readsInner_storing 0)
    (Transfers.reimbursesInFull_storing 0) built_sponsoredPayment rfl rfl ?_).mpr ?_
  · rw [hgas]
    exact ⟨by decide, by decide⟩
  · rw [RunTrace.ReimbursesExactly, hgas, hbalance]
    decide

/-- With EIP-8037 the `40000` gas above the cap are put aside and not spent, and the sponsor does
not get them back: it pays `122000` wei instead of `42000`. -/
theorem sponsor_pays_for_reservoir :
    (Transfers.storing 0).KeepsSetup ∧ (Transfers.storing 0).ReadsInner ∧
      (Transfers.storing 0).ReimbursesInFull ∧ ∃ out ctx',
      ∃ t : RunTrace ⟨none, none⟩ (Transfers.storing 0) reservedPayment out ctx',
        t.billed.gas.Outcome reservedPayment.tx.inner.gasLimit ∧
        t.billed.gas.owed reservedPayment.price reservedPayment.tx.inner.gasLimit = 42000 ∧
        t.gasCharge 0x5A = -122000 ∧ ¬ t.ChargesLikeCaller 0x5A := by
  have htrace : ∃ out ctx', ∃ t : RunTrace ⟨none, none⟩ (Transfers.storing 0) reservedPayment out
      ctx', t.gasCharge 0x5A = -122000 ∧ t.billed.gas = ⟨100000, 39000, 0, 40000, 0⟩ := by
    refine ⟨_, _, ⟨_, _, _, _, _, _, _, _, ⟨_, _, _, _, _, rfl, rfl, rfl, rfl, rfl⟩, rfl, rfl, rfl,
      rfl, rfl, rfl⟩, ?_, ?_⟩
    · decide
    · decide
  obtain ⟨out, ctx', t, hcharge, hgas⟩ := htrace
  have howed : t.billed.gas.owed reservedPayment.price reservedPayment.tx.inner.gasLimit =
      42000 := by
    rw [hgas]
    decide
  refine ⟨Transfers.keepsSetup_storing 0, Transfers.readsInner_storing 0,
    Transfers.reimbursesInFull_storing 0, out, ctx', t, ?_, howed, hcharge, ?_⟩
  · rw [hgas]
    exact ⟨by decide, by decide⟩
  · intro h
    have heq := h.charge_eq
    rw [hcharge, howed] at heq
    cases heq

end EvHandler

end EvReth
