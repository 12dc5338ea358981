import EvReth.Revm.Handler.Transfers
import EvReth.Revm.Handler.Validation

/-!
# Affordability of standard transactions

Before it deducts the fees at the effective price, revm's mainnet handler asks a caller for the
price that the transaction states: `ensure_enough_balance` compares the balance with
`max_balance_spending`. `calculate_caller_fee` (`crates/ev-revm/src/handler.rs`) compares it with
`effective_balance_spending` instead. Where the balance lies between the two, one of the handlers
accepts what the other rejects.

`MainnetHandler` below states what revm does, to be compared with `EvHandler`.
-/

namespace EvReth

open EStateM

namespace TxEnv

variable (tx : TxEnv)

/-- `max_balance_spending`: gas at the stated price in checked `u128`, then value and the stated
price of the blobs in checked `U256`. -/
def maxBalanceSpending : Except InvalidTransaction U256 :=
  match (tx.gasLimit.setWidth 128).checkedMul tx.maxFeePerGas with
  | none => .error .overflowPaymentInTransaction
  | some gasCost =>
    match (gasCost.setWidth 256).checkedAdd tx.value with
    | none => .error .overflowPaymentInTransaction
    | some spending =>
      if tx.txType = .eip4844 then
        let dataFee := tx.maxFeePerBlobGas.saturatingMul (tx.totalBlobGas.setWidth 128)
        match spending.checkedAdd (dataFee.setWidth 256) with
        | none => .error .overflowPaymentInTransaction
        | some spending => .ok spending
      else .ok spending

/-- `ensure_enough_balance`. -/
def ensureEnoughBalance (balance : U256) : Except InvalidTransaction Unit :=
  match tx.maxBalanceSpending with
  | .error e => .error e
  | .ok spending =>
    if balance.toNat < spending.toNat then .error (.lackOfFundForMaxFee spending balance)
    else .ok ()

end TxEnv

namespace MainnetHandler

/-- `calculate_caller_fee` of revm. -/
def calculateCallerFee (balance : U256) (tx : TxEnv) (basefee blobPrice : U128)
    (isBalanceCheckDisabled : Bool) : Except Failure U256 :=
  match if isBalanceCheckDisabled then .ok () else tx.ensureEnoughBalance balance with
  | .error e => .error (.error (.transaction e))
  | .ok _ =>
    match tx.effectiveBalanceSpending basefee blobPrice with
    | .error _ =>
      .error (.panic "effective balance is always smaller than max balance so it can't overflow")
    | .ok effectiveBalanceSpending =>
      match effectiveBalanceSpending.checkedSub tx.value with
      | none => .error (.panic "attempt to subtract with overflow")
      | some gasBalanceSpending =>
        let newBalance := balance.saturatingSub gasBalanceSpending
        .ok (if isBalanceCheckDisabled && newBalance.toNat < tx.value.toNat then tx.value
          else newBalance)

/-- What revm does to the journal. -/
def deduct (tx : TxEnv) (basefee blobPrice : U128)
    (isBalanceCheckDisabled isEip3607Disabled isNonceCheckDisabled : Bool) : JournalM Unit :=
  deductFee tx tx.caller tx.kind.isCall isEip3607Disabled isNonceCheckDisabled fun balance =>
    calculateCallerFee balance tx basefee blobPrice isBalanceCheckDisabled

/-- `validate_against_state_and_deduct_caller` of revm. -/
def validateAgainstStateAndDeductCaller : HandlerM Unit := do
  let ctx ← get
  onJournal (deduct ctx.tx.inner (ctx.block.basefee.setWidth 128) (ctx.block.blobGasprice.getD 0)
    ctx.cfg.isBalanceCheckDisabled ctx.cfg.isEip3607Disabled ctx.cfg.isNonceCheckDisabled)

end MainnetHandler

/-! ## What the two prices ask for -/

section Costs

variable (tx : TxEnv) (basefee blobPrice : U128)

/-- Gas at the effective price, value, and blobs at the price of the block. -/
def effectiveCost : ℕ :=
  tx.gasLimit.toNat * (tx.effectiveGasPrice basefee).toNat + tx.value.toNat + blobCost tx blobPrice

/-- Gas at the stated price, value, and blobs at the stated price. -/
def maxCost : ℕ :=
  tx.gasLimit.toNat * tx.maxFeePerGas.toNat + tx.value.toNat + blobCost tx tx.maxFeePerBlobGas

/-- `max_balance_spending` is the exact amount, or fails. -/
theorem maxBalanceSpending_eq_ok_iff {spending : U256} :
    tx.maxBalanceSpending = .ok spending ↔
      tx.gasLimit.toNat * tx.maxFeePerGas.toNat < 2 ^ 128 ∧ spending.toNat = maxCost tx := by
  -- without a priority fee the effective price is the stated one
  let stated : TxEnv := { tx with gasPriorityFee := none }
  have hprice : stated.effectiveGasPrice 0 = tx.maxFeePerGas := by
    unfold TxEnv.effectiveGasPrice TxEnv.maxFeePerGas
    exact ite_self _
  have hstated : tx.maxBalanceSpending = stated.effectiveBalanceSpending 0 tx.maxFeePerBlobGas := by
    unfold TxEnv.maxBalanceSpending TxEnv.effectiveBalanceSpending
    rw [hprice]
    rfl
  rw [hstated, effectiveBalanceSpending_eq_ok_iff, hprice]
  rfl

/-- With the balance check, the node accepts a caller that can pay the effective prices. -/
theorem calculateCallerFee_succeeds_iff {balance : U256} :
    (∃ v, calculateCallerFee balance tx basefee blobPrice false = .ok v) ↔
      tx.gasLimit.toNat * (tx.effectiveGasPrice basefee).toNat < 2 ^ 128 ∧
        effectiveCost tx basefee blobPrice ≤ balance.toNat := by
  constructor
  · rintro ⟨v, h⟩
    obtain ⟨hfits, hfunds, -⟩ := calculateCallerFee_ok tx basefee blobPrice h
    exact ⟨hfits, hfunds⟩
  · rintro ⟨hfits, hfunds⟩
    exact calculateCallerFee_of_le tx basefee blobPrice false hfits hfunds

/-- revm lets a sender pass that covers the maximal cost, if the price of the gas does not overflow.
-/
theorem ensureEnoughBalance_eq_ok_iff {balance : U256} :
    tx.ensureEnoughBalance balance = .ok () ↔
      tx.gasLimit.toNat * tx.maxFeePerGas.toNat < 2 ^ 128 ∧ maxCost tx ≤ balance.toNat := by
  unfold TxEnv.ensureEnoughBalance
  cases hspending : tx.maxBalanceSpending with
  | error e =>
    refine iff_of_false (fun h => nomatch h) ?_
    rintro ⟨hfits, hfunds⟩
    -- an amount within the balance is a word
    have hword : (BitVec.ofNat 256 (maxCost tx)).toNat = maxCost tx := by
      rw [BitVec.toNat_ofNat, Nat.mod_eq_of_lt (hfunds.trans_lt balance.isLt)]
    have hok := (maxBalanceSpending_eq_ok_iff tx).mpr ⟨hfits, hword⟩
    rw [hspending] at hok
    cases hok
  | ok spending =>
    obtain ⟨hfits, heq⟩ := (maxBalanceSpending_eq_ok_iff tx).mp hspending
    simp only
    split_ifs with hfunds
    · exact iff_of_false (fun h => nomatch h) fun h => by omega
    · exact iff_of_true rfl ⟨hfits, by omega⟩

/-- With the balance check, revm accepts a caller that can pay the stated prices, and leaves it all
but the cost of gas and blobs at the effective ones. -/
theorem mainnet_calculateCallerFee_eq_ok_iff {balance v : U256} :
    MainnetHandler.calculateCallerFee balance tx basefee blobPrice false = .ok v ↔
      tx.gasLimit.toNat * tx.maxFeePerGas.toNat < 2 ^ 128 ∧ maxCost tx ≤ balance.toNat ∧
        effectiveCost tx basefee blobPrice < 2 ^ 256 ∧
        v.toNat = balance.toNat - (effectiveCost tx basefee blobPrice - tx.value.toNat) := by
  unfold MainnetHandler.calculateCallerFee
  simp only [Bool.false_eq_true, if_false, Bool.false_and]
  have hcheck := @ensureEnoughBalance_eq_ok_iff tx balance
  cases henough : tx.ensureEnoughBalance balance with
  | error e =>
    refine iff_of_false (fun h => nomatch h) ?_
    rintro ⟨hfits, hfunds, -⟩
    have hok := hcheck.mpr ⟨hfits, hfunds⟩
    rw [henough] at hok
    cases hok
  | ok _ =>
    obtain ⟨hfits, hfunds⟩ := hcheck.mp henough
    -- gas that fits at the stated price fits at the effective one
    have hgas := (Nat.mul_le_mul_left tx.gasLimit.toNat
      (tx.effectiveGasPrice_le_maxFeePerGas basefee)).trans_lt hfits
    have hspend := effectiveBalanceSpending_ok_iff tx basefee blobPrice
    cases hspending : tx.effectiveBalanceSpending basefee blobPrice with
    | error e =>
      refine iff_of_false (fun h => nomatch h) ?_
      rintro ⟨-, -, hlt, -⟩
      obtain ⟨spending, hok⟩ := hspend.mpr ⟨hgas, hlt⟩
      rw [hspending] at hok
      cases hok
    | ok spending =>
      have heq : spending.toNat = effectiveCost tx basefee blobPrice :=
        ((effectiveBalanceSpending_eq_ok_iff tx basefee blobPrice).mp hspending).2
      have hlt : effectiveCost tx basefee blobPrice < 2 ^ 256 := heq ▸ spending.isLt
      have hvalue : tx.value.toNat ≤ effectiveCost tx basefee blobPrice := by
        unfold effectiveCost
        omega
      simp only [hfits, hfunds, hlt, true_and]
      cases hsub : spending.checkedSub tx.value with
      | none =>
        rw [BitVec.checkedSub_eq_none_iff] at hsub
        omega
      | some gasSpending =>
        have hrest := BitVec.checkedSub_eq_some_iff.mp hsub
        simp only [Except.ok.injEq]
        rw [BitVec.toNat_eq, BitVec.toNat_saturatingSub, eq_comm]
        have hcost : gasSpending.toNat = effectiveCost tx basefee blobPrice - tx.value.toNat := by
          omega
        rw [hcost]

/-- revm charges a sender that passes, unless the effective cost overflows. -/
theorem mainnet_calculateCallerFee_succeeds_iff {balance : U256} :
    (∃ v, MainnetHandler.calculateCallerFee balance tx basefee blobPrice false = .ok v) ↔
      tx.gasLimit.toNat * tx.maxFeePerGas.toNat < 2 ^ 128 ∧ maxCost tx ≤ balance.toNat ∧
        effectiveCost tx basefee blobPrice < 2 ^ 256 := by
  simp only [mainnet_calculateCallerFee_eq_ok_iff]
  constructor
  · rintro ⟨v, hfits, hfunds, hlt, -⟩
    exact ⟨hfits, hfunds, hlt⟩
  · rintro ⟨hfits, hfunds, hlt⟩
    refine ⟨BitVec.ofNat 256 (balance.toNat - (effectiveCost tx basefee blobPrice -
      tx.value.toNat)), hfits, hfunds, hlt, ?_⟩
    -- what is left of a balance is a word
    rw [BitVec.toNat_ofNat, Nat.mod_eq_of_lt ((Nat.sub_le _ _).trans_lt balance.isLt)]

/-- Where both accept a caller, they leave it the same balance. -/
theorem calculateCallerFee_eq_of_ok {balance v v' : U256}
    (h : calculateCallerFee balance tx basefee blobPrice false = .ok v)
    (h' : MainnetHandler.calculateCallerFee balance tx basefee blobPrice false = .ok v') :
    v = v' := by
  obtain ⟨-, -, hleft⟩ := calculateCallerFee_ok tx basefee blobPrice h
  obtain ⟨-, -, -, hleft'⟩ := (mainnet_calculateCallerFee_eq_ok_iff tx basefee blobPrice).mp h'
  refine BitVec.eq_of_toNat_eq ?_
  rw [hleft', effectiveCost]
  omega

/-- With blobs that are not dearer than the transaction states, the effective prices ask for no more
than the stated ones. -/
theorem effectiveCost_le_maxCost (hblob : blobPrice.toNat ≤ tx.maxFeePerBlobGas.toNat) :
    effectiveCost tx basefee blobPrice ≤ maxCost tx := by
  have hgas := Nat.mul_le_mul_left tx.gasLimit.toNat
    (tx.effectiveGasPrice_le_maxFeePerGas basefee)
  have hblobs : blobCost tx blobPrice ≤ blobCost tx tx.maxFeePerBlobGas := by
    unfold blobCost
    split_ifs
    · exact min_le_min_right _ (Nat.mul_le_mul_right _ hblob)
    · exact le_rfl
  unfold effectiveCost maxCost
  omega

end Costs

/-! ## The two handlers -/

section Handlers

variable {handler : EvHandler} {ctx : Ctx} {tx : TxEnv}

/-- The caller can be loaded and passes the checks of nonce and code. -/
def CallerPasses (ctx : Ctx) : Prop :=
  ctx.journal.dbError ctx.tx.inner.caller = none ∧
    validateAccountNonceAndCode (ctx.journal.accounts ctx.tx.inner.caller).info ctx.tx.inner
      ctx.cfg.isEip3607Disabled ctx.cfg.isNonceCheckDisabled = .ok ()

/-- The context after the caller was charged: it has a new balance, and the next nonce after a
call. -/
def Ctx.charged (ctx : Ctx) (v : U256) : Ctx :=
  { ctx with
    journal := bumpIfCall ctx.tx.inner.kind.isCall ctx.tx.inner.caller
      (ctx.journal.setBalance ctx.tx.inner.caller v) }

/-- A deduction goes through exactly if the caller passes and its fee does. -/
theorem deductFee_eq_ok_iff {fee : U256 → Except Failure U256} {ctx' : Ctx} :
    onJournal (deductFee ctx.tx.inner ctx.tx.inner.caller ctx.tx.inner.kind.isCall
        ctx.cfg.isEip3607Disabled ctx.cfg.isNonceCheckDisabled fee) ctx = .ok () ctx' ↔
      CallerPasses ctx ∧ ∃ v, fee (ctx.journal.balance ctx.tx.inner.caller) = .ok v ∧
        ctx' = ctx.charged v := by
  unfold onJournal CallerPasses Ctx.charged
  rw [deductFee_eq]
  have hbalance : (ctx.journal.accounts ctx.tx.inner.caller).info.balance =
    ctx.journal.balance ctx.tx.inner.caller := rfl
  cases ctx.journal.dbError ctx.tx.inner.caller with
  | some err => simp
  | none =>
    simp only [true_and, hbalance]
    cases validateAccountNonceAndCode (ctx.journal.accounts ctx.tx.inner.caller).info ctx.tx.inner
      ctx.cfg.isEip3607Disabled ctx.cfg.isNonceCheckDisabled with
    | error err => simp
    | ok _ =>
      simp only [true_and]
      cases fee (ctx.journal.balance ctx.tx.inner.caller) with
      | error f => simp
      | ok v => simp [eq_comm]

/-- Without an allowlist, the node charges a standard transaction by `calculate_caller_fee`. -/
theorem validateAgainstState_eq_ok_iff (hallow : handler.deployAllowlist = none)
    (htx : ctx.tx = EvTxEnv.new tx) (hcheck : ctx.cfg.isBalanceCheckDisabled = false)
    {ctx' : Ctx} :
    handler.validateAgainstStateAndDeductCaller ctx = .ok () ctx' ↔
      CallerPasses ctx ∧ ∃ v, calculateCallerFee (ctx.journal.balance tx.caller) tx
        (ctx.block.basefee.setWidth 128) (ctx.block.blobGasprice.getD 0) false = .ok v ∧
          ctx' = ctx.charged v := by
  have hinner : ctx.tx.inner = tx := by rw [htx]; rfl
  have hsignature : ctx.tx.sponsorSignatureInvalid = false := by rw [htx]; rfl
  have hsponsor : ctx.tx.sponsor = none := by rw [htx]; rfl
  have hdeduct : EvHandler.deduct ctx =
      deductFee ctx.tx.inner ctx.tx.inner.caller ctx.tx.inner.kind.isCall
        ctx.cfg.isEip3607Disabled ctx.cfg.isNonceCheckDisabled fun balance =>
          calculateCallerFee balance ctx.tx.inner (ctx.block.basefee.setWidth 128)
            (ctx.block.blobGasprice.getD 0) ctx.cfg.isBalanceCheckDisabled := by
    rw [EvHandler.deduct, hsponsor]
    rfl
  rw [EvHandler.validateAgainstStateAndDeductCaller_eq,
    if_neg (EvHandler.not_deployDenied hallow), hsignature, if_neg Bool.false_ne_true, hdeduct,
    deductFee_eq_ok_iff, hinner, hcheck]

/-- revm charges a standard transaction by its own `calculate_caller_fee`. -/
theorem mainnet_validateAgainstState_eq_ok_iff (htx : ctx.tx = EvTxEnv.new tx)
    (hcheck : ctx.cfg.isBalanceCheckDisabled = false) {ctx' : Ctx} :
    MainnetHandler.validateAgainstStateAndDeductCaller ctx = .ok () ctx' ↔
      CallerPasses ctx ∧ ∃ v, MainnetHandler.calculateCallerFee (ctx.journal.balance tx.caller) tx
        (ctx.block.basefee.setWidth 128) (ctx.block.blobGasprice.getD 0) false = .ok v ∧
          ctx' = ctx.charged v := by
  have hinner : ctx.tx.inner = tx := by rw [htx]; rfl
  rw [MainnetHandler.validateAgainstStateAndDeductCaller, bind_get, MainnetHandler.deduct,
    deductFee_eq_ok_iff, hinner, hcheck]

/-- The node accepts a standard transaction whose caller passes and can pay the effective prices. -/
theorem validateAgainstState_succeeds_iff (hallow : handler.deployAllowlist = none)
    (htx : ctx.tx = EvTxEnv.new tx) (hcheck : ctx.cfg.isBalanceCheckDisabled = false) :
    (∃ ctx', handler.validateAgainstStateAndDeductCaller ctx = .ok () ctx') ↔
      CallerPasses ctx ∧
        tx.gasLimit.toNat * (tx.effectiveGasPrice (ctx.block.basefee.setWidth 128)).toNat <
          2 ^ 128 ∧
        effectiveCost tx (ctx.block.basefee.setWidth 128) (ctx.block.blobGasprice.getD 0) ≤
          (ctx.journal.balance tx.caller).toNat := by
  simp only [validateAgainstState_eq_ok_iff hallow htx hcheck]
  rw [← calculateCallerFee_succeeds_iff]
  constructor
  · rintro ⟨ctx', hpasses, v, hv, -⟩
    exact ⟨hpasses, v, hv⟩
  · rintro ⟨hpasses, v, hv⟩
    exact ⟨_, hpasses, v, hv, rfl⟩

/-- revm accepts a standard transaction whose caller passes and can pay the stated prices. -/
theorem mainnet_validateAgainstState_succeeds_iff (htx : ctx.tx = EvTxEnv.new tx)
    (hcheck : ctx.cfg.isBalanceCheckDisabled = false) :
    (∃ ctx', MainnetHandler.validateAgainstStateAndDeductCaller ctx = .ok () ctx') ↔
      CallerPasses ctx ∧ tx.gasLimit.toNat * tx.maxFeePerGas.toNat < 2 ^ 128 ∧
        maxCost tx ≤ (ctx.journal.balance tx.caller).toNat ∧
        effectiveCost tx (ctx.block.basefee.setWidth 128) (ctx.block.blobGasprice.getD 0) <
          2 ^ 256 := by
  simp only [mainnet_validateAgainstState_eq_ok_iff htx hcheck]
  rw [← mainnet_calculateCallerFee_succeeds_iff]
  constructor
  · rintro ⟨ctx', hpasses, v, hv, -⟩
    exact ⟨hpasses, v, hv⟩
  · rintro ⟨hpasses, v, hv⟩
    exact ⟨_, hpasses, v, hv, rfl⟩

/-- The node and revm make the same decision, and where they accept, the caller has the same balance
and nonce after it. -/
structure AgreesWithMainnet (handler : EvHandler) (ctx : Ctx) : Prop where
  accepts : (∃ ctx', handler.validateAgainstStateAndDeductCaller ctx = .ok () ctx') ↔
    ∃ ctx', MainnetHandler.validateAgainstStateAndDeductCaller ctx = .ok () ctx'
  deducts : ∀ ctx₁ ctx₂, handler.validateAgainstStateAndDeductCaller ctx = .ok () ctx₁ →
    MainnetHandler.validateAgainstStateAndDeductCaller ctx = .ok () ctx₂ →
    ctx₁.journal.balance ctx.tx.inner.caller = ctx₂.journal.balance ctx.tx.inner.caller ∧
      ctx₁.journal.nonce ctx.tx.inner.caller = ctx₂.journal.nonce ctx.tx.inner.caller

/-- The balance is not between what the two handlers ask for: if it covers the effective prices, it
covers the stated ones, in a `u128` for the gas; and the other way round. -/
structure OutsideWindow (tx : TxEnv) (basefee blobPrice : U128) (balance : U256) : Prop where
  upper : tx.gasLimit.toNat * (tx.effectiveGasPrice basefee).toNat < 2 ^ 128 →
    effectiveCost tx basefee blobPrice ≤ balance.toNat →
    tx.gasLimit.toNat * tx.maxFeePerGas.toNat < 2 ^ 128 ∧ maxCost tx ≤ balance.toNat
  lower : tx.gasLimit.toNat * tx.maxFeePerGas.toNat < 2 ^ 128 → maxCost tx ≤ balance.toNat →
    effectiveCost tx basefee blobPrice < 2 ^ 256 →
    effectiveCost tx basefee blobPrice ≤ balance.toNat

/-- For a standard transaction without a policy, the node agrees with revm exactly if the caller
fails the checks of nonce and code, or its balance is outside the window. -/
theorem agreesWithMainnet_iff (hallow : handler.deployAllowlist = none)
    (htx : ctx.tx = EvTxEnv.new tx) (hcheck : ctx.cfg.isBalanceCheckDisabled = false) :
    AgreesWithMainnet handler ctx ↔
      (CallerPasses ctx → OutsideWindow tx (ctx.block.basefee.setWidth 128)
        (ctx.block.blobGasprice.getD 0) (ctx.journal.balance tx.caller)) := by
  have hev := validateAgainstState_succeeds_iff hallow htx hcheck
  have hmainnet := mainnet_validateAgainstState_succeeds_iff htx hcheck
  constructor
  · intro hagrees hpasses
    have haccepts := hagrees.accepts
    rw [hev, hmainnet, and_congr_right_iff] at haccepts
    have hboth := haccepts hpasses
    refine ⟨fun hfits hfunds => ?_, fun hfits hfunds hlt => ?_⟩
    · obtain ⟨hfits', hfunds', -⟩ := hboth.mp ⟨hfits, hfunds⟩
      exact ⟨hfits', hfunds'⟩
    · exact (hboth.mpr ⟨hfits, hfunds, hlt⟩).2
  · intro hwindow
    refine ⟨?_, fun ctx₁ ctx₂ h₁ h₂ => ?_⟩
    · rw [hev, hmainnet]
      refine and_congr_right fun hpasses => ⟨?_, ?_⟩
      · rintro ⟨hfits, hfunds⟩
        obtain ⟨hfits', hfunds'⟩ := (hwindow hpasses).upper hfits hfunds
        exact ⟨hfits', hfunds', hfunds.trans_lt (BitVec.isLt _)⟩
      · rintro ⟨hfits, hfunds, hlt⟩
        -- the effective price is at most the stated one
        have hgas := Nat.mul_le_mul_left tx.gasLimit.toNat
          (tx.effectiveGasPrice_le_maxFeePerGas (ctx.block.basefee.setWidth 128))
        exact ⟨hgas.trans_lt hfits, (hwindow hpasses).lower hfits hfunds hlt⟩
    · -- where both accept, they charge the same
      obtain ⟨-, v, hv, rfl⟩ := (validateAgainstState_eq_ok_iff hallow htx hcheck).mp h₁
      obtain ⟨-, v', hv', rfl⟩ := (mainnet_validateAgainstState_eq_ok_iff htx hcheck).mp h₂
      rw [calculateCallerFee_eq_of_ok _ _ _ hv hv']
      exact ⟨rfl, rfl⟩

/-- An EIP-1559 payment of nine wei by `0xCA`, which states a price of two wei. -/
def statedPayment : TxEnv :=
  { txType := .eip1559
    caller := 0xCA
    gasLimit := 21000
    gasPrice := 2
    gasPriorityFee := some 0
    kind := .call 0xB0
    value := 9 }

/-- Its execution at a base fee of one wei, with a balance of the caller. -/
def statedPaymentCtx (balance : U256) : Ctx :=
  { block := { number := 1, beneficiary := 0xBE, basefee := 1 }
    tx := EvTxEnv.new statedPayment
    journal := Transfers.funded balance }

/-- With the stated price at hand, both handlers accept the payment. -/
theorem agreesWithMainnet_of_max : AgreesWithMainnet ⟨none, none⟩ (statedPaymentCtx 42009) :=
  (agreesWithMainnet_iff rfl rfl rfl).mpr fun _ =>
    ⟨fun _ _ => ⟨by decide, by decide⟩, fun _ hfunds _ =>
      (effectiveCost_le_maxCost statedPayment _ _ (by decide)).trans hfunds⟩

/-- With a wei less than that, the node accepts the payment and leaves its caller with `21008` wei.
revm rejects it. -/
theorem accepts_below_max :
    (∃ ctx', EvHandler.validateAgainstStateAndDeductCaller ⟨none, none⟩ (statedPaymentCtx 42008) =
        .ok () ctx' ∧ ctx'.journal.balance 0xCA = 21008) ∧
      MainnetHandler.validateAgainstStateAndDeductCaller (statedPaymentCtx 42008) =
        .error (.error (.transaction (.lackOfFundForMaxFee 42009 42008)))
          (statedPaymentCtx 42008) :=
  ⟨⟨_, rfl, rfl⟩, rfl⟩

end Handlers

end EvReth
