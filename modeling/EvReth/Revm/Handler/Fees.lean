import EvReth.Revm.Handler.Phases

/-!
# Reimbursement and reward

One equation for each of the two phases that move fees after execution: the sponsor's reimbursement
and the credit of the base fee to its sink.
-/

namespace EvReth

open EStateM

/-- The base fee of `gasUsed`, as `BaseFeeRedirect::apply` computes it. -/
def redirectAmount (block : BlockEnv) (gasUsed : U64) : U256 :=
  block.basefee.setWidth 256 * gasUsed.setWidth 256

/-- The product of two `u64` does not wrap. -/
theorem toNat_redirectAmount (block : BlockEnv) (gasUsed : U64) :
    (redirectAmount block gasUsed).toNat = block.basefee.toNat * gasUsed.toNat := by
  have hfee : (block.basefee.setWidth 256 : U256).toNat = block.basefee.toNat :=
    BitVec.toNat_setWidth_of_le (by omega)
  have hgas : (gasUsed.setWidth 256 : U256).toNat = gasUsed.toNat :=
    BitVec.toNat_setWidth_of_le (by omega)
  have hfits : block.basefee.toNat * gasUsed.toNat < 2 ^ 256 :=
    calc block.basefee.toNat * gasUsed.toNat
        < 2 ^ 64 * 2 ^ 64 := Nat.mul_lt_mul'' block.basefee.isLt gasUsed.isLt
      _ ≤ 2 ^ 256 := by decide
  rw [redirectAmount, BitVec.toNat_mul_of_fits (by rwa [hfee, hgas]), hfee, hgas]

/-- The context after the sink has been credited. -/
def BaseFeeRedirect.credited (self : BaseFeeRedirect) (ctx : Ctx) (gasUsed : U64) : Ctx :=
  if redirectAmount ctx.block gasUsed = 0 then ctx
  else { ctx with journal :=
    (ctx.journal.incrBalance self.feeSink (redirectAmount ctx.block gasUsed)).2 }

/-- The redirect credits the sink, unless there is nothing to credit. -/
theorem BaseFeeRedirect.apply_eq (self : BaseFeeRedirect) (gasUsed : U64) (ctx : Ctx) :
    self.apply gasUsed ctx =
      if redirectAmount ctx.block gasUsed = 0 then .ok 0 ctx
      else
        match ctx.journal.dbError self.feeSink with
        | some e => .error (.error (.database e)) ctx
        | none => .ok (redirectAmount ctx.block gasUsed) (self.credited ctx gasUsed) := by
  refine bind_get.trans ?_
  -- the shortcuts of the source are taken for amounts of zero only
  have hzero : gasUsed = 0 ∨ ctx.block.basefee = 0 → redirectAmount ctx.block gasUsed = 0 := by
    rintro (rfl | h)
    · simp [redirectAmount]
    · simp [redirectAmount, h]
  by_cases hz : gasUsed = 0 ∨ ctx.block.basefee = 0
  · simp only [hz, if_true, hzero hz]
    rfl
  · simp only [hz, if_false]
    change (if redirectAmount ctx.block gasUsed = 0 then
      (pure (redirectAmount ctx.block gasUsed) : HandlerM U256) else _) ctx = _
    by_cases hamount : redirectAmount ctx.block gasUsed = 0
    · rw [if_pos hamount, if_pos hamount, hamount]
      rfl
    · rw [if_neg hamount, if_neg hamount, BaseFeeRedirect.credited, if_neg hamount]
      unfold onJournal
      cases hdb : ctx.journal.dbError self.feeSink with
      | some e => rw [bind_of_error (loadAccount_of_error hdb)]
      | none =>
        rw [bind_of_ok (loadAccount_of_none hdb)]
        rfl

namespace EvHandler

variable (self : EvHandler) (inner : Mainnet) (result : FrameResult) (ctx : Ctx)

/-- The context after the base fee of `gasUsed` has gone to the sink, if there is one. -/
def redirected (gasUsed : U64) : Ctx :=
  match self.redirect with
  | none => ctx
  | some redirect => redirect.credited ctx gasUsed

/-- The error with which the credit of the sink fails, if it does. -/
def sinkError (gasUsed : U64) : Option DbError :=
  match self.redirect with
  | none => none
  | some redirect =>
    if redirectAmount ctx.block gasUsed = 0 then none else ctx.journal.dbError redirect.feeSink

/-- The sink is credited first; if it cannot be loaded, the beneficiary gets nothing. -/
theorem rewardBeneficiary_eq :
    self.rewardBeneficiary inner result ctx =
      match self.sinkError ctx result.gas.spentSubRefunded with
      | some e => .error (.error (.database e)) ctx
      | none => inner.rewardBeneficiary result.gas
          (self.redirected ctx result.gas.spentSubRefunded) := by
  unfold rewardBeneficiary sinkError redirected
  cases hredirect : self.redirect with
  | none => rfl
  | some redirect =>
    have happly := redirect.apply_eq result.gas.spentSubRefunded ctx
    simp only
    -- gas of zero is not passed on to the redirect
    by_cases hspent : result.gas.spentSubRefunded = 0
    · have hzero : redirectAmount ctx.block 0 = 0 := by simp [redirectAmount]
      simp only [hspent, ne_eq, not_true_eq_false, if_false, hzero, if_true,
        BaseFeeRedirect.credited]
    · simp only [hspent, ne_eq, not_false_eq_true, if_true]
      by_cases hamount : redirectAmount ctx.block result.gas.spentSubRefunded = 0
      · rw [if_pos hamount] at happly ⊢
        rw [BaseFeeRedirect.credited, if_pos hamount]
        exact bind_of_ok happly
      · rw [if_neg hamount] at happly ⊢
        cases hdb : ctx.journal.dbError redirect.feeSink with
        | some e =>
          simp only [hdb] at happly
          exact bind_of_error happly
        | none =>
          simp only [hdb] at happly
          exact bind_of_ok happly

/-- The unused gas at the effective price, which the sponsor gets back. -/
def reimbursement (gas : Gas) : U256 :=
  ((ctx.tx.inner.effectiveGasPrice (ctx.block.basefee.setWidth 128)).saturatingMul
    ((gas.remaining + gas.refundedU64).setWidth 128)).setWidth 256

/-- The context after the sponsor has been reimbursed. -/
def reimbursed (sponsor : Address) (gas : Gas) : Ctx :=
  { ctx with
    journal := ctx.journal.setBalance sponsor
      ((ctx.journal.balance sponsor).saturatingAdd (reimbursement ctx gas)) }

theorem reimburseCaller_normal (h : ctx.tx.sponsor = none) :
    reimburseCaller inner result ctx = inner.reimburseCaller result ctx := by
  refine bind_get.trans ?_
  simp only [h]

/-- With a sponsor the handler reimburses it by itself. -/
theorem reimburseCaller_sponsored {sponsor : Address} (h : ctx.tx.sponsor = some sponsor) :
    reimburseCaller inner result ctx =
      match ctx.journal.dbError sponsor with
      | some e => .error (.error (.database e)) ctx
      | none => .ok () (reimbursed ctx sponsor result.gas) := by
  refine bind_get.trans ?_
  simp only [h, onJournal]
  cases hdb : ctx.journal.dbError sponsor with
  | some e => rw [bind_of_error (loadAccount_of_error hdb)]
  | none =>
    rw [bind_of_ok (loadAccount_of_none hdb)]
    rfl

variable {self inner ctx}

variable {result} in
/-- A reimbursement that succeeds has credited the sponsor. -/
theorem reimburseCaller_eq_ok {sponsor : Address} (hsponsor : ctx.tx.sponsor = some sponsor)
    {ctx' : Ctx} (h : reimburseCaller inner result ctx = .ok () ctx') :
    ctx' = reimbursed ctx sponsor result.gas := by
  rw [reimburseCaller_sponsored inner result ctx hsponsor] at h
  cases hdb : ctx.journal.dbError sponsor with
  | some e =>
    rw [hdb] at h
    cases h
  | none =>
    rw [hdb] at h
    exact (EStateM.Result.ok.inj h).2.symm

/-- The redirected fee keeps the environment. -/
theorem sameEnv_redirected (gasUsed : U64) : ctx.SameEnv (self.redirected ctx gasUsed) := by
  unfold redirected BaseFeeRedirect.credited
  -- at most a balance changes
  cases self.redirect with
  | none => exact Ctx.SameEnv.refl ctx
  | some redirect =>
    simp only
    split_ifs
    · exact Ctx.SameEnv.refl ctx
    · exact ⟨rfl, rfl, rfl, Journal.dbError_incrBalance _ _ _⟩

/-- The reimbursement keeps the environment. -/
theorem keepsEnv_reimburseCaller (hinner : inner.KeepsEnvironment) (result : FrameResult) :
    KeepsEnv (reimburseCaller inner result) := by
  intro ctx _ ctx' h
  cases hsponsor : ctx.tx.sponsor with
  | none =>
    rw [reimburseCaller_normal inner result ctx hsponsor] at h
    exact hinner.reimburseCaller _ _ _ _ h
  | some sponsor =>
    rw [reimburseCaller_eq_ok hsponsor h]
    exact ⟨rfl, rfl, rfl, rfl⟩

variable {result} in
/-- A reward that succeeds is the one of the mainnet handler, after the redirect. -/
theorem rewardBeneficiary_eq_ok {ctx' : Ctx}
    (h : self.rewardBeneficiary inner result ctx = .ok () ctx') :
    inner.rewardBeneficiary result.gas (self.redirected ctx result.gas.spentSubRefunded) =
      .ok () ctx' := by
  rw [rewardBeneficiary_eq] at h
  cases herror : self.sinkError ctx result.gas.spentSubRefunded with
  | some e =>
    rw [herror] at h
    cases h
  | none =>
    rw [herror] at h
    exact h

end EvHandler

end EvReth
