import EvReth.Revm.Handler.Defs

/-!
# Validation against the state and deduction of fees

One equation for each of the two deductions of `validate_against_state_and_deduct_caller`, what an
accepted deduction has checked and written, and the exact condition under which the phase panics.
-/

namespace EvReth

open EStateM

/-! ## Panics -/

/-- The outcome is a panic. -/
def IsPanic {σ α : Type} : EStateM.Result Failure σ α → Prop
  | .error (.panic _) _ => True
  | _ => False

instance {σ α : Type} (r : EStateM.Result Failure σ α) : Decidable (IsPanic r) :=
  match r with
  | .ok _ _ => inferInstanceAs (Decidable False)
  | .error (.error _) _ => inferInstanceAs (Decidable False)
  | .error (.panic _) _ => inferInstanceAs (Decidable True)

theorem isPanic_onJournal {α : Type} (x : JournalM α) (ctx : Ctx) :
    IsPanic (onJournal x ctx) ↔ IsPanic (x ctx.journal) := by
  unfold onJournal
  rcases x ctx.journal with _ | ⟨_ | _, _⟩ <;> rfl

/-! ## Loading accounts and checks -/

variable {j : Journal} {addr : Address}

theorem loadAccount_of_error {e : DbError} (h : j.dbError addr = some e) :
    loadAccount addr j = .error (.error (.database e)) j := by
  simp [loadAccount, Journal.loadAccount, h]

theorem loadAccount_of_none (h : j.dbError addr = none) :
    loadAccount addr j = .ok (j.accounts addr) j := by
  simp [loadAccount, Journal.loadAccount, h]

theorem ofExcept_ok {α : Type} (a : α) : ofExcept (.ok a) j = .ok a j := rfl

theorem ofExcept_error {α : Type} (f : Failure) :
    (ofExcept (.error f) : JournalM α) j = .error f j := rfl

/-- The nonce increment of a transaction whose first frame is a `CALL`. -/
def bumpIfCall (isCall : Bool) (caller : Address) (j : Journal) : Journal :=
  if isCall then j.bumpNonce caller else j

@[simp] theorem balance_bumpIfCall (isCall : Bool) (caller a : Address) (j : Journal) :
    (bumpIfCall isCall caller j).balance a = j.balance a := by
  cases isCall <;> simp [bumpIfCall, Journal.bumpNonce]

@[simp] theorem dbError_bumpIfCall (isCall : Bool) (caller : Address) (j : Journal) :
    (bumpIfCall isCall caller j).dbError = j.dbError := by
  cases isCall <;> rfl

/-- The nonce of the caller counts calls here; a creation is counted in its frame. -/
theorem nonce_bumpIfCall (isCall : Bool) (caller a : Address) (j : Journal) :
    (bumpIfCall isCall caller j).nonce a =
      if isCall ∧ a = caller then (j.nonce caller).saturatingAdd 1 else j.nonce a := by
  cases isCall <;> simp [bumpIfCall, Journal.bumpNonce]

/-! ## The two deductions -/

variable (tx : TxEnv) (caller sponsor : Address) (totalValue : U256) (isCall : Bool)
  (basefee blobPrice : U128) (isBalanceCheckDisabled isEip3607Disabled isNonceCheckDisabled : Bool)
  (j)

/-- A deduction from the caller: the checks of nonce and code, a fee on its balance, and the nonce
of a call. -/
def deductFee (fee : U256 → Except Failure U256) : JournalM Unit := do
  let account ← loadAccount caller
  liftInvalid (validateAccountNonceAndCode account.info tx isEip3607Disabled isNonceCheckDisabled)
  let newCallerBalance ← ofExcept (fee account.info.balance)
  modify (·.setBalance caller newCallerBalance)
  if isCall then
    modify (·.bumpNonce caller)

/-- The checks and the deduction of a fee, case by case. -/
theorem deductFee_eq (fee : U256 → Except Failure U256) :
    deductFee tx caller isCall isEip3607Disabled isNonceCheckDisabled fee j =
      match j.dbError caller with
      | some err => .error (.error (.database err)) j
      | none =>
        match validateAccountNonceAndCode (j.accounts caller).info tx isEip3607Disabled
          isNonceCheckDisabled with
        | .error err => .error (.error (.transaction err)) j
        | .ok _ =>
          match fee (j.accounts caller).info.balance with
          | .error f => .error f j
          | .ok v => .ok () (bumpIfCall isCall caller (j.setBalance caller v)) := by
  unfold deductFee
  -- each check is passed or ends the phase with the journal as it was
  cases hdb : j.dbError caller with
  | some err => exact bind_of_error (loadAccount_of_error hdb)
  | none =>
    refine (bind_of_ok (loadAccount_of_none hdb)).trans ?_
    unfold liftInvalid
    cases validateAccountNonceAndCode (j.accounts caller).info tx isEip3607Disabled
        isNonceCheckDisabled with
    | error err => exact bind_of_error (ofExcept_error _)
    | ok _ =>
      refine (bind_of_ok (ofExcept_ok _)).trans ?_
      cases fee (j.accounts caller).info.balance with
      | error f => exact bind_of_error (ofExcept_error f)
      | ok v =>
        refine (bind_of_ok (ofExcept_ok v)).trans ?_
        cases isCall <;> rfl

/-- `validate_and_deduct_normal_tx`, case by case. -/
theorem validateAndDeductNormalTx_eq :
    validateAndDeductNormalTx tx caller isCall basefee blobPrice isBalanceCheckDisabled
        isEip3607Disabled isNonceCheckDisabled j =
      match j.dbError caller with
      | some err => .error (.error (.database err)) j
      | none =>
        match validateAccountNonceAndCode (j.accounts caller).info tx isEip3607Disabled
          isNonceCheckDisabled with
        | .error err => .error (.error (.transaction err)) j
        | .ok _ =>
          match calculateCallerFee (j.accounts caller).info.balance tx basefee blobPrice
            isBalanceCheckDisabled with
          | .error f => .error f j
          | .ok v => .ok () (bumpIfCall isCall caller (j.setBalance caller v)) :=
  deductFee_eq j tx caller isCall isEip3607Disabled isNonceCheckDisabled fun balance =>
    calculateCallerFee balance tx basefee blobPrice isBalanceCheckDisabled

/-- The most that the gas of a transaction can cost. -/
def maxGasCost : U256 :=
  (tx.gasLimit.setWidth 256 : U256).saturatingMul (tx.maxFeePerGas.setWidth 256)

/-- The gas of a transaction at its effective price. -/
def gasCost : U256 :=
  (tx.gasLimit.setWidth 256 : U256).saturatingMul ((tx.effectiveGasPrice basefee).setWidth 256)

/-- The sponsor's balance after the deduction. -/
def newSponsorBalance (balance : U256) : U256 :=
  if isBalanceCheckDisabled && (balance.saturatingSub (gasCost tx basefee)).toNat <
      (gasCost tx basefee).toNat then gasCost tx basefee
  else balance.saturatingSub (gasCost tx basefee)

/-- The part of the sponsored deduction that is about the sponsor. -/
def deductSponsor : JournalM Unit := do
  let sponsorAccount ← loadAccount sponsor
  let sponsorBalance := sponsorAccount.info.balance
  if !isBalanceCheckDisabled && sponsorBalance.toNat < (maxGasCost tx).toNat then
    throw (.error (.transaction (.lackOfFundForMaxFee (maxGasCost tx) sponsorBalance)))
  modify (·.setBalance sponsor (newSponsorBalance tx basefee isBalanceCheckDisabled sponsorBalance))

/-- The deduction from the sponsor, case by case. -/
theorem deductSponsor_eq :
    deductSponsor tx sponsor basefee isBalanceCheckDisabled j =
      match j.dbError sponsor with
      | some err => .error (.error (.database err)) j
      | none =>
        if !isBalanceCheckDisabled &&
          (j.accounts sponsor).info.balance.toNat < (maxGasCost tx).toNat
        then .error (.error (.transaction
          (.lackOfFundForMaxFee (maxGasCost tx) (j.accounts sponsor).info.balance))) j
        else .ok () (j.setBalance sponsor
          (newSponsorBalance tx basefee isBalanceCheckDisabled
            (j.accounts sponsor).info.balance)) := by
  unfold deductSponsor
  cases hdb : j.dbError sponsor with
  | some err => exact bind_of_error (loadAccount_of_error hdb)
  | none =>
    refine (bind_of_ok (loadAccount_of_none hdb)).trans ?_
    simp only
    split_ifs <;> rfl

variable {tx sponsor basefee isBalanceCheckDisabled j} in
/-- A sponsor that is charged had the maximal cost, unless balances are not checked. -/
theorem deductSponsor_ok {j' : Journal}
    (h : deductSponsor tx sponsor basefee isBalanceCheckDisabled j = .ok () j') :
    (isBalanceCheckDisabled = false → (maxGasCost tx).toNat ≤ (j.balance sponsor).toNat) ∧
      j' = j.setBalance sponsor
        (newSponsorBalance tx basefee isBalanceCheckDisabled (j.balance sponsor)) := by
  rw [deductSponsor_eq] at h
  cases hdb : j.dbError sponsor with
  | some e => simp [hdb] at h
  | none =>
    simp only [hdb] at h
    split_ifs at h with hgas
    refine ⟨fun hcheck => ?_, (EStateM.Result.ok.inj h).2.symm⟩
    simpa [hcheck, Journal.balance] using hgas

/-- `validate_and_deduct_sponsored_tx`, case by case. -/
theorem validateAndDeductSponsoredTx_eq :
    validateAndDeductSponsoredTx tx caller sponsor totalValue isCall basefee isBalanceCheckDisabled
        isEip3607Disabled isNonceCheckDisabled j =
      match j.dbError caller with
      | some err => .error (.error (.database err)) j
      | none =>
        match validateAccountNonceAndCode (j.accounts caller).info tx isEip3607Disabled
          isNonceCheckDisabled with
        | .error err => .error (.error (.transaction err)) j
        | .ok _ =>
          if !isBalanceCheckDisabled && (j.accounts caller).info.balance.toNat < totalValue.toNat
          then .error (.error (.transaction
            (.lackOfFundForMaxFee totalValue (j.accounts caller).info.balance))) j
          else deductSponsor tx sponsor basefee isBalanceCheckDisabled
            (bumpIfCall isCall caller j) := by
  unfold validateAndDeductSponsoredTx bumpIfCall
  -- as for a normal transaction, up to the check of the value
  cases hdb : j.dbError caller with
  | some err => exact bind_of_error (loadAccount_of_error hdb)
  | none =>
    refine (bind_of_ok (loadAccount_of_none hdb)).trans ?_
    unfold liftInvalid
    cases validateAccountNonceAndCode (j.accounts caller).info tx isEip3607Disabled
        isNonceCheckDisabled with
    | error err => exact bind_of_error (ofExcept_error _)
    | ok _ =>
      refine (bind_of_ok (ofExcept_ok _)).trans ?_
      simp only
      split_ifs <;> cases isCall <;> rfl

/-- With the nonce check, an accepted transaction carries the nonce of its caller. -/
theorem nonce_eq_of_validate {info : AccountInfo} {tx : TxEnv} {isEip3607Disabled : Bool}
    (h : validateAccountNonceAndCode info tx isEip3607Disabled false = .ok ()) :
    tx.nonce = info.nonce := by
  unfold validateAccountNonceAndCode at h
  simp only [Bool.not_false, if_true] at h
  -- neither too high nor too low
  split_ifs at h
  exact BitVec.eq_of_toNat_eq (by omega)

/-- EIP-3607 refuses the account as a sender: it is a contract. -/
def RefusedAsContract (info : AccountInfo) (isEip3607Disabled : Bool) : Prop :=
  (!isEip3607Disabled && !info.code.isEmpty && !isEip7702 info.code) = true

instance (info : AccountInfo) (b : Bool) : Decidable (RefusedAsContract info b) := by
  unfold RefusedAsContract
  infer_instance

/-- A transaction with the nonce of its caller is refused here only if the caller is a contract. -/
theorem validateAccountNonceAndCode_of_nonce {info : AccountInfo} {tx : TxEnv}
    (h : tx.nonce = info.nonce) (isEip3607Disabled isNonceCheckDisabled : Bool) :
    validateAccountNonceAndCode info tx isEip3607Disabled isNonceCheckDisabled =
      if RefusedAsContract info isEip3607Disabled then .error .rejectCallerWithCode
      else .ok () := by
  unfold validateAccountNonceAndCode RefusedAsContract
  simp only [h, Nat.lt_irrefl, if_false, ite_self]

/-! ## When the phase panics -/

/-- The blob cost that `effective_balance_spending` adds. -/
def blobCost : ℕ :=
  if tx.txType = .eip4844 then min (blobPrice.toNat * tx.totalBlobGas.toNat) (2 ^ 128 - 1) else 0

/-- Gas at the effective price fits in a `u128`, and with value and blob cost in a `U256`. -/
def PaymentFits : Prop :=
  tx.gasLimit.toNat * (tx.effectiveGasPrice basefee).toNat < 2 ^ 128 ∧
    tx.gasLimit.toNat * (tx.effectiveGasPrice basefee).toNat + tx.value.toNat +
      blobCost tx blobPrice < 2 ^ 256

/-- `effective_balance_spending` is the exact amount, or fails. -/
theorem effectiveBalanceSpending_eq_ok_iff {spending : U256} :
    tx.effectiveBalanceSpending basefee blobPrice = .ok spending ↔
      tx.gasLimit.toNat * (tx.effectiveGasPrice basefee).toNat < 2 ^ 128 ∧
        spending.toNat = tx.gasLimit.toNat * (tx.effectiveGasPrice basefee).toNat +
          tx.value.toNat + blobCost tx blobPrice := by
  -- widening changes no value, so each checked step is a fact about naturals
  have hgas : ((tx.gasLimit.setWidth 128 : U128)).toNat = tx.gasLimit.toNat :=
    BitVec.toNat_setWidth_of_le (by omega)
  unfold TxEnv.effectiveBalanceSpending blobCost
  cases hmul : (tx.gasLimit.setWidth 128 : U128).checkedMul (tx.effectiveGasPrice basefee) with
  | none =>
    rw [BitVec.checkedMul_eq_none_iff, hgas] at hmul
    exact iff_of_false (fun h => by cases h) fun h => absurd h.1 (Nat.not_lt.mpr hmul)
  | some gasCost =>
    have hcost := BitVec.checkedMul_eq_some_iff.mp hmul
    rw [hgas] at hcost
    have hfits : tx.gasLimit.toNat * (tx.effectiveGasPrice basefee).toNat < 2 ^ 128 :=
      hcost ▸ gasCost.isLt
    have hwide : (gasCost.setWidth 256 : U256).toNat = gasCost.toNat :=
      BitVec.toNat_setWidth_of_le (by omega)
    -- the blob cost saturates as a `u128` before it is widened
    have hblob :
        ((blobPrice.saturatingMul (tx.totalBlobGas.setWidth 128)).setWidth 256 : U256).toNat =
        min (blobPrice.toNat * tx.totalBlobGas.toNat) (2 ^ 128 - 1) := by
      rw [BitVec.toNat_setWidth_of_le (by omega), BitVec.toNat_saturatingMul,
        BitVec.toNat_setWidth_of_le (by omega)]
    simp only [hfits, true_and]
    cases hadd : (gasCost.setWidth 256 : U256).checkedAdd tx.value with
    | none =>
      rw [BitVec.checkedAdd_eq_none_iff, hwide, hcost] at hadd
      exact iff_of_false (fun h => by cases h) fun h => by have := spending.isLt; omega
    | some paid =>
      have hpaid := BitVec.checkedAdd_eq_some_iff.mp hadd
      rw [hwide, hcost] at hpaid
      simp only
      split_ifs with hblobTx
      · cases hadd' : paid.checkedAdd
            ((blobPrice.saturatingMul (tx.totalBlobGas.setWidth 128)).setWidth 256) with
        | none =>
          rw [BitVec.checkedAdd_eq_none_iff, hblob, hpaid] at hadd'
          exact iff_of_false (fun h => by cases h) fun h => by have := spending.isLt; omega
        | some total =>
          have htotal := BitVec.checkedAdd_eq_some_iff.mp hadd'
          rw [hblob, hpaid] at htotal
          simp only [Except.ok.injEq]
          rw [BitVec.toNat_eq, htotal, eq_comm]
      · simp only [Except.ok.injEq, add_zero]
        rw [BitVec.toNat_eq, hpaid, eq_comm]

/-- The payment is computed exactly when it fits. -/
theorem effectiveBalanceSpending_ok_iff :
    (∃ spending, tx.effectiveBalanceSpending basefee blobPrice = .ok spending) ↔
      PaymentFits tx basefee blobPrice := by
  simp only [effectiveBalanceSpending_eq_ok_iff, PaymentFits]
  constructor
  -- a word holds the exact sum, so the sum is in range
  · rintro ⟨spending, hfits, hspending⟩
    exact ⟨hfits, hspending ▸ spending.isLt⟩
  · rintro ⟨hfits, hlt⟩
    exact ⟨BitVec.ofNat 256 _, hfits, by rw [BitVec.toNat_ofNat, Nat.mod_eq_of_lt hlt]⟩

/-- The caller's fee panics exactly when the payment does not fit: the subtraction of the value from
the payment never fails. -/
theorem calculateCallerFee_panic_iff (balance : U256) :
    (∃ msg, calculateCallerFee balance tx basefee blobPrice isBalanceCheckDisabled =
        .error (.panic msg)) ↔ ¬ PaymentFits tx basefee blobPrice := by
  rw [← effectiveBalanceSpending_ok_iff]
  unfold calculateCallerFee
  cases hspending : tx.effectiveBalanceSpending basefee blobPrice with
  | error e => simp
  | ok spending =>
    -- the payment includes the value
    have hvalue : tx.value.toNat ≤ spending.toNat := by
      have h := ((effectiveBalanceSpending_eq_ok_iff tx basefee blobPrice).mp hspending).2
      omega
    have hsub : spending.checkedSub tx.value ≠ none := by
      rw [Ne, BitVec.checkedSub_eq_none_iff]
      omega
    obtain ⟨gasSpending, hgas⟩ := Option.ne_none_iff_exists'.mp hsub
    simp only [hgas, Except.ok.injEq, exists_eq', not_true_eq_false, iff_false, not_exists]
    intro msg
    split_ifs <;> simp

/-- With the balance check, an accepted caller can pay gas, value and blobs, and is left with all
but the cost of gas and blobs. -/
theorem calculateCallerFee_ok {balance v : U256}
    (h : calculateCallerFee balance tx basefee blobPrice false = .ok v) :
    tx.gasLimit.toNat * (tx.effectiveGasPrice basefee).toNat < 2 ^ 128 ∧
      tx.gasLimit.toNat * (tx.effectiveGasPrice basefee).toNat + tx.value.toNat +
        blobCost tx blobPrice ≤ balance.toNat ∧
      v.toNat + (tx.gasLimit.toNat * (tx.effectiveGasPrice basefee).toNat + blobCost tx blobPrice) =
        balance.toNat := by
  unfold calculateCallerFee at h
  cases hspending : tx.effectiveBalanceSpending basefee blobPrice with
  | error e => simp [hspending] at h
  | ok spending =>
    obtain ⟨hfits, heq⟩ := (effectiveBalanceSpending_eq_ok_iff tx basefee blobPrice).mp hspending
    simp only [hspending, Bool.not_false, Bool.true_and, Bool.false_and, decide_eq_true_eq,
      Bool.false_eq_true, if_false] at h
    by_cases hfunds : balance.toNat < spending.toNat
    · rw [if_pos hfunds] at h
      cases h
    · rw [if_neg hfunds] at h
      cases hsub : spending.checkedSub tx.value with
      | none =>
        rw [hsub] at h
        cases h
      | some gasSpending =>
        -- what is left after the value is taken out of the payment is the cost of gas and blobs
        have hgas := BitVec.checkedSub_eq_some_iff.mp hsub
        simp only [hsub, Except.ok.injEq] at h
        rw [← h, BitVec.toNat_saturatingSub]
        omega

/-- A caller that can pay gas, value and blobs is accepted if the gas fits in a `u128`. -/
theorem calculateCallerFee_of_le {balance : U256}
    (hfits : tx.gasLimit.toNat * (tx.effectiveGasPrice basefee).toNat < 2 ^ 128)
    (hfunds : tx.gasLimit.toNat * (tx.effectiveGasPrice basefee).toNat + tx.value.toNat +
      blobCost tx blobPrice ≤ balance.toNat) :
    ∃ v, calculateCallerFee balance tx basefee blobPrice isBalanceCheckDisabled = .ok v := by
  have hpayment : PaymentFits tx basefee blobPrice := ⟨hfits, hfunds.trans_lt balance.isLt⟩
  obtain ⟨spending, hspending⟩ :=
    (effectiveBalanceSpending_ok_iff tx basefee blobPrice).mpr hpayment
  obtain ⟨-, heq⟩ := (effectiveBalanceSpending_eq_ok_iff tx basefee blobPrice).mp hspending
  -- the payment is within the balance, and the value within the payment
  have hcheck : ¬ (!isBalanceCheckDisabled && decide (balance.toNat < spending.toNat)) = true := by
    simp only [Bool.and_eq_true, decide_eq_true_eq, not_and]
    omega
  have hsub : spending.checkedSub tx.value ≠ none := by
    rw [Ne, BitVec.checkedSub_eq_none_iff]
    omega
  obtain ⟨gasSpending, hgas⟩ := Option.ne_none_iff_exists'.mp hsub
  simp only [calculateCallerFee, hspending, hgas, if_neg hcheck]
  exact ⟨_, rfl⟩

/-- The product of a `u64` and a `u128` does not saturate as a `U256`. -/
theorem toNat_saturatingMul_setWidth (gas : U64) (price : U128) :
    ((gas.setWidth 256 : U256).saturatingMul (price.setWidth 256)).toNat =
      gas.toNat * price.toNat := by
  have hfits : gas.toNat * price.toNat < 2 ^ 64 * 2 ^ 128 := Nat.mul_lt_mul'' gas.isLt price.isLt
  rw [BitVec.toNat_saturatingMul, BitVec.toNat_setWidth_of_le (by omega),
    BitVec.toNat_setWidth_of_le (by omega)]
  omega

/-- The cost of the gas does not saturate. -/
theorem toNat_gasCost :
    (gasCost tx basefee).toNat = tx.gasLimit.toNat * (tx.effectiveGasPrice basefee).toNat :=
  toNat_saturatingMul_setWidth _ _

/-- The sponsor is charged at most what it is checked for. -/
theorem gasCost_le_maxGasCost : (gasCost tx basefee).toNat ≤ (maxGasCost tx).toNat := by
  have hmax : (maxGasCost tx).toNat = tx.gasLimit.toNat * tx.maxFeePerGas.toNat :=
    toNat_saturatingMul_setWidth _ _
  rw [toNat_gasCost, hmax]
  -- the sponsor was checked for the higher of the two
  exact Nat.mul_le_mul_left _ (tx.effectiveGasPrice_le_maxFeePerGas basefee)

/-- With the balance check, the sponsor is left with all but the cost of gas. -/
theorem toNat_newSponsorBalance (balance : U256) :
    (newSponsorBalance tx basefee false balance).toNat =
      balance.toNat - tx.gasLimit.toNat * (tx.effectiveGasPrice basefee).toNat := by
  simp [newSponsorBalance, toNat_gasCost]

namespace EvHandler

variable (self : EvHandler) (ctx : Ctx)

/-- The deploy allowlist refuses the transaction. -/
def DeployDenied : Prop :=
  checkDeployAllowed (self.deployAllowlistForBlock (blockNumberU64 ctx.block)) ctx.tx.inner.caller
    ctx.tx.inner.kind.isCreate (blockNumberU64 ctx.block) ≠ .ok ()

instance : Decidable (self.DeployDenied ctx) := by
  unfold DeployDenied
  infer_instance

variable {self ctx} in
/-- Without an allowlist, no transaction is refused as a deployment. -/
theorem not_deployDenied (h : self.deployAllowlist = none) : ¬ self.DeployDenied ctx := by
  simp [DeployDenied, deployAllowlistForBlock, h, checkDeployAllowed]

/-- The deduction that the phase runs once the deploy and signature checks have passed. -/
def deduct : JournalM Unit :=
  match ctx.tx.sponsor with
  | some sponsor =>
    validateAndDeductSponsoredTx ctx.tx.inner ctx.tx.inner.caller sponsor ctx.tx.batchTotalValue
      ctx.tx.inner.kind.isCall (ctx.block.basefee.setWidth 128) ctx.cfg.isBalanceCheckDisabled
      ctx.cfg.isEip3607Disabled ctx.cfg.isNonceCheckDisabled
  | none =>
    validateAndDeductNormalTx ctx.tx.inner ctx.tx.inner.caller ctx.tx.inner.kind.isCall
      (ctx.block.basefee.setWidth 128) (ctx.block.blobGasprice.getD 0)
      ctx.cfg.isBalanceCheckDisabled ctx.cfg.isEip3607Disabled ctx.cfg.isNonceCheckDisabled

/-- The deploy check only reads the context. -/
theorem ensureDeployAllowed_eq :
    self.ensureDeployAllowed ctx =
      if self.DeployDenied ctx then .error (.error (.custom "contract deployment not allowed")) ctx
      else .ok () ctx := by
  refine bind_get.trans ?_
  cases hcheck : checkDeployAllowed (self.deployAllowlistForBlock (blockNumberU64 ctx.block))
    ctx.tx.inner.caller ctx.tx.inner.kind.isCreate (blockNumberU64 ctx.block) with
  | error e =>
    rw [if_pos (by simp [DeployDenied, hcheck])]
    rfl
  | ok _ =>
    rw [if_neg (by simp [DeployDenied, hcheck])]
    rfl

/-- `validate_against_state_and_deduct_caller`: the deploy gate, the sponsor's signature, the
deduction. -/
theorem validateAgainstStateAndDeductCaller_eq :
    self.validateAgainstStateAndDeductCaller ctx =
      if self.DeployDenied ctx then .error (.error (.custom "contract deployment not allowed")) ctx
      else if ctx.tx.sponsorSignatureInvalid then
        .error (.error (.custom "invalid sponsor signature")) ctx
      else onJournal (deduct ctx) ctx := by
  have hdeploy := self.ensureDeployAllowed_eq ctx
  by_cases hdenied : self.DeployDenied ctx
  · rw [if_pos hdenied] at hdeploy ⊢
    exact bind_of_error hdeploy
  · rw [if_neg hdenied] at hdeploy ⊢
    refine (bind_of_ok hdeploy).trans (bind_get.trans ?_)
    unfold deduct
    cases ctx.tx.sponsorSignatureInvalid with
    | true => rfl
    | false => cases ctx.tx.sponsor <;> rfl

/-- What an accepted deduction has checked and written. The caller of a normal transaction pays for
gas and blobs and keeps the value; the sponsor of a sponsored one pays for gas. -/
theorem deduct_cases {j j' : Journal} (h : deduct ctx j = .ok () j') :
    validateAccountNonceAndCode (j.accounts ctx.tx.inner.caller).info ctx.tx.inner
        ctx.cfg.isEip3607Disabled ctx.cfg.isNonceCheckDisabled = .ok () ∧
      ((ctx.tx.sponsor = none ∧ ∃ v,
          calculateCallerFee (j.balance ctx.tx.inner.caller) ctx.tx.inner
            (ctx.block.basefee.setWidth 128) (ctx.block.blobGasprice.getD 0)
            ctx.cfg.isBalanceCheckDisabled = .ok v ∧
          j' = bumpIfCall ctx.tx.inner.kind.isCall ctx.tx.inner.caller
            (j.setBalance ctx.tx.inner.caller v)) ∨
        ∃ sponsor, ctx.tx.sponsor = some sponsor ∧
          (ctx.cfg.isBalanceCheckDisabled = false →
            ctx.tx.batchTotalValue.toNat ≤ (j.balance ctx.tx.inner.caller).toNat ∧
            (maxGasCost ctx.tx.inner).toNat ≤ (j.balance sponsor).toNat) ∧
          j' = (bumpIfCall ctx.tx.inner.kind.isCall ctx.tx.inner.caller j).setBalance sponsor
            (newSponsorBalance ctx.tx.inner (ctx.block.basefee.setWidth 128)
              ctx.cfg.isBalanceCheckDisabled (j.balance sponsor))) := by
  unfold deduct at h
  cases hsponsor : ctx.tx.sponsor with
  | none =>
    simp only [hsponsor] at h
    rw [validateAndDeductNormalTx_eq] at h
    cases hdb : j.dbError ctx.tx.inner.caller with
    | some e => simp [hdb] at h
    | none =>
      simp only [hdb] at h
      cases hval : validateAccountNonceAndCode (j.accounts ctx.tx.inner.caller).info ctx.tx.inner
          ctx.cfg.isEip3607Disabled ctx.cfg.isNonceCheckDisabled with
      | error e => simp [hval] at h
      | ok _ =>
        simp only [hval] at h
        cases hfee : calculateCallerFee (j.accounts ctx.tx.inner.caller).info.balance ctx.tx.inner
            (ctx.block.basefee.setWidth 128) (ctx.block.blobGasprice.getD 0)
            ctx.cfg.isBalanceCheckDisabled with
        | error e =>
          rw [hfee] at h
          cases h
        | ok v =>
          simp only [hfee] at h
          exact ⟨rfl, .inl ⟨rfl, v, hfee, (EStateM.Result.ok.inj h).2.symm⟩⟩
  | some sponsor =>
    simp only [hsponsor] at h
    rw [validateAndDeductSponsoredTx_eq] at h
    cases hdb : j.dbError ctx.tx.inner.caller with
    | some e => simp [hdb] at h
    | none =>
      simp only [hdb] at h
      cases hval : validateAccountNonceAndCode (j.accounts ctx.tx.inner.caller).info ctx.tx.inner
          ctx.cfg.isEip3607Disabled ctx.cfg.isNonceCheckDisabled with
      | error e => simp [hval] at h
      | ok _ =>
        simp only [hval] at h
        by_cases hvalue : (!ctx.cfg.isBalanceCheckDisabled &&
            decide ((j.accounts ctx.tx.inner.caller).info.balance.toNat <
              ctx.tx.batchTotalValue.toNat)) = true
        · rw [if_pos hvalue] at h
          cases h
        · rw [if_neg hvalue] at h
          -- the nonce increment of the caller is invisible to the check of the sponsor
          obtain ⟨hgas, hj'⟩ := deductSponsor_ok h
          refine ⟨rfl, .inr ⟨sponsor, rfl, fun hcheck => ⟨?_, ?_⟩, ?_⟩⟩
          · simpa [hcheck, Journal.balance] using hvalue
          · rw [← balance_bumpIfCall ctx.tx.inner.kind.isCall ctx.tx.inner.caller]
            exact hgas hcheck
          · rw [hj', balance_bumpIfCall]

/-- The deduction does not change which accounts can be loaded. -/
theorem dbError_deduct {j j' : Journal} (h : deduct ctx j = .ok () j') :
    j'.dbError = j.dbError := by
  obtain ⟨-, ⟨-, v, -, rfl⟩ | ⟨sponsor, -, -, rfl⟩⟩ := deduct_cases ctx h
  · simp [Journal.setBalance]
  · simp [Journal.setBalance]

/-- An accepted deduction has loaded the caller. -/
theorem caller_loads_of_deduct {j j' : Journal} (h : deduct ctx j = .ok () j') :
    j.dbError ctx.tx.inner.caller = none := by
  unfold deduct at h
  cases hdb : j.dbError ctx.tx.inner.caller with
  | none => rfl
  | some e =>
    -- both deductions load the caller first
    cases hsponsor : ctx.tx.sponsor with
    | none => simp [hsponsor, validateAndDeductNormalTx_eq, hdb] at h
    | some sponsor => simp [hsponsor, validateAndDeductSponsoredTx_eq, hdb] at h

/-- The phase accepts a transaction only through its deduction. -/
theorem deduct_of_validate {ctx' : Ctx}
    (h : self.validateAgainstStateAndDeductCaller ctx = .ok () ctx') :
    ∃ j, deduct ctx ctx.journal = .ok () j ∧ ctx' = { ctx with journal := j } := by
  rw [validateAgainstStateAndDeductCaller_eq] at h
  split_ifs at h
  unfold onJournal at h
  cases hd : deduct ctx ctx.journal with
  | error e j =>
    rw [hd] at h
    cases h
  | ok u j =>
    rw [hd] at h
    exact ⟨j, rfl, (EStateM.Result.ok.inj h).2.symm⟩

/-- The caller cannot be loaded, or its nonce or code is not acceptable. -/
def CallerRejected : Prop :=
  (ctx.journal.dbError ctx.tx.inner.caller).isSome ∨
    validateAccountNonceAndCode (ctx.journal.accounts ctx.tx.inner.caller).info ctx.tx.inner
      ctx.cfg.isEip3607Disabled ctx.cfg.isNonceCheckDisabled ≠ .ok ()

theorem not_isPanic_deductSponsor (tx : TxEnv) (sponsor : Address) (basefee : U128) (b : Bool)
    (j : Journal) : ¬ IsPanic (deductSponsor tx sponsor basefee b j) := by
  rw [deductSponsor_eq]
  cases j.dbError sponsor with
  | some e => exact id
  | none =>
    simp only
    split_ifs <;> exact id

/-- No sponsored transaction makes the deduction panic. -/
theorem not_isPanic_deduct_sponsored {sponsor : Address} (h : ctx.tx.sponsor = some sponsor) :
    ¬ IsPanic (deduct ctx ctx.journal) := by
  simp only [deduct, h]
  rw [validateAndDeductSponsoredTx_eq]
  cases ctx.journal.dbError ctx.tx.inner.caller with
  | some e => exact id
  | none =>
    cases validateAccountNonceAndCode (ctx.journal.accounts ctx.tx.inner.caller).info ctx.tx.inner
        ctx.cfg.isEip3607Disabled ctx.cfg.isNonceCheckDisabled with
    | error e => exact id
    | ok _ =>
      simp only
      split_ifs
      · exact id
      · exact not_isPanic_deductSponsor _ _ _ _ _

/-- The deduction from a caller panics exactly if the caller passes its checks and the sum
overflows. -/
theorem isPanic_deduct_normal_iff (h : ctx.tx.sponsor = none) :
    IsPanic (deduct ctx ctx.journal) ↔
      ¬ CallerRejected ctx ∧ ¬ PaymentFits ctx.tx.inner (ctx.block.basefee.setWidth 128)
        (ctx.block.blobGasprice.getD 0) := by
  simp only [deduct, h]
  rw [validateAndDeductNormalTx_eq, CallerRejected,
    ← calculateCallerFee_panic_iff _ _ _ ctx.cfg.isBalanceCheckDisabled
      (ctx.journal.accounts ctx.tx.inner.caller).info.balance]
  cases ctx.journal.dbError ctx.tx.inner.caller with
  | some e => simp [IsPanic]
  | none =>
    cases validateAccountNonceAndCode (ctx.journal.accounts ctx.tx.inner.caller).info ctx.tx.inner
        ctx.cfg.isEip3607Disabled ctx.cfg.isNonceCheckDisabled with
    | error e => simp [IsPanic]
    | ok _ =>
      simp only
      rcases calculateCallerFee (ctx.journal.accounts ctx.tx.inner.caller).info.balance ctx.tx.inner
        (ctx.block.basefee.setWidth 128) (ctx.block.blobGasprice.getD 0)
        ctx.cfg.isBalanceCheckDisabled with (_ | msg) | v <;> simp [IsPanic]

/-- The transaction has no sponsor, gets to the fees, and its payment does not fit. -/
def FeesOverflow : Prop :=
  ¬ self.DeployDenied ctx ∧ ctx.tx.sponsorSignatureInvalid = false ∧ ctx.tx.sponsor = none ∧
    ¬ CallerRejected ctx ∧
    ¬ PaymentFits ctx.tx.inner (ctx.block.basefee.setWidth 128) (ctx.block.blobGasprice.getD 0)

/-- The phase panics exactly on an overflow of the fees. -/
theorem isPanic_validateAgainstState_iff :
    IsPanic (self.validateAgainstStateAndDeductCaller ctx) ↔ self.FeesOverflow ctx := by
  rw [validateAgainstStateAndDeductCaller_eq, FeesOverflow]
  split_ifs with hdenied hsig
  · simp [hdenied, IsPanic]
  · simp [hsig, IsPanic]
  -- past the first two checks the phase is its deduction
  · rw [isPanic_onJournal]
    cases hsponsor : ctx.tx.sponsor with
    | some sponsor => simp [not_isPanic_deduct_sponsored ctx hsponsor]
    | none =>
      rw [isPanic_deduct_normal_iff ctx hsponsor]
      simp [hdenied, hsig]

/-- Fee validation panics on no transaction that is refused by an earlier check, has a sponsor, or
whose payment fits; and on every other one. -/
theorem validateAgainstState_not_panic_iff :
    ¬ IsPanic (self.validateAgainstStateAndDeductCaller ctx) ↔
      self.DeployDenied ctx ∨ ctx.tx.sponsorSignatureInvalid = true ∨ ctx.tx.sponsor.isSome = true ∨
        CallerRejected ctx ∨
        PaymentFits ctx.tx.inner (ctx.block.basefee.setWidth 128)
          (ctx.block.blobGasprice.getD 0) := by
  rw [isPanic_validateAgainstState_iff, FeesOverflow, ← Option.not_isSome_iff_eq_none,
    ← Bool.not_eq_true]
  tauto

/-- Two calls whose values sum to more than a `U256` holds, at one wei per unit of gas. -/
def overflowingBatch : EvNodeTransaction :=
  { chainId := 1
    nonce := 0
    maxPriorityFeePerGas := 1
    maxFeePerGas := 1
    gasLimit := 100000
    calls := [⟨.call 0x01, BitVec.allOnes 256, []⟩, ⟨.call 0x02, 1, []⟩]
    accessList := []
    feePayerSignature := none }

/-- The batch of `overflowingBatch`, sent without a sponsor on an empty state. -/
def overflowingCtx : Ctx :=
  { block := { number := 1, beneficiary := 0xBE, basefee := 1 }
    tx := EvTxEnv.fromEvNode (fun _ _ _ => none) overflowingBatch 0xCA
    journal := Journal.empty }

/-- With the balance check enabled, validating `overflowingBatch` panics. -/
theorem validateAgainstState_panics :
    overflowingCtx.cfg.isBalanceCheckDisabled = false ∧
      IsPanic (EvHandler.validateAgainstStateAndDeductCaller ⟨none, none⟩ overflowingCtx) := by
  decide

end EvHandler

end EvReth
