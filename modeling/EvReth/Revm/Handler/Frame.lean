import EvReth.Revm.Handler.Transfers
import EvReth.Revm.Handler.Validation

/-!
# What a transaction leaves alone

Block and configuration are the same after a transaction as before it, on every path through the
handler, and so is the journal if the transaction fails. The transaction that the context holds is
replaced when the next one begins. A failed transaction is therefore invisible to all later ones.

The same walk over the phases shows where the handler panics: in the check of the fees and nowhere
else.
-/

namespace EvReth

open EStateM

/-- The part of the context that no transaction changes. -/
def Ctx.setup (ctx : Ctx) : BlockEnv × Cfg := (ctx.block, ctx.cfg)

/-- revm's phases change neither block nor configuration, whether they succeed or fail. -/
structure Mainnet.KeepsSetup (inner : Mainnet) : Prop where
  validateEnv : Keeps Ctx.setup inner.validateEnv
  validateInitialTxGas : Keeps Ctx.setup inner.validateInitialTxGas
  loadAccounts : Keeps Ctx.setup inner.loadAccounts
  applyEip7702AuthList : ∀ gas, Keeps Ctx.setup (inner.applyEip7702AuthList gas)
  firstFrameInput : ∀ g r, Keeps Ctx.setup (inner.firstFrameInput g r)
  runExecLoop : ∀ init, Keeps Ctx.setup (inner.runExecLoop init)
  lastFrameResult : ∀ result, Keeps Ctx.setup (inner.lastFrameResult result)
  reimburseCaller : ∀ result, Keeps Ctx.setup (inner.reimburseCaller result)
  rewardBeneficiary : ∀ gas, Keeps Ctx.setup (inner.rewardBeneficiary gas)
  executionResult : ∀ result gas, Keeps Ctx.setup (inner.executionResult result gas)

/-- revm's phases leave the part `f` of the context alone, whether they succeed or fail. -/
structure Mainnet.KeepsPart {γ : Type} (f : Ctx → γ) (inner : Mainnet) : Prop where
  validateEnv : Keeps f inner.validateEnv
  validateInitialTxGas : Keeps f inner.validateInitialTxGas
  loadAccounts : Keeps f inner.loadAccounts
  applyEip7702AuthList : ∀ gas, Keeps f (inner.applyEip7702AuthList gas)
  firstFrameInput : ∀ g r, Keeps f (inner.firstFrameInput g r)
  runExecLoop : ∀ init, Keeps f (inner.runExecLoop init)
  lastFrameResult : ∀ result, Keeps f (inner.lastFrameResult result)
  reimburseCaller : ∀ result, Keeps f (inner.reimburseCaller result)
  rewardBeneficiary : ∀ gas, Keeps f (inner.rewardBeneficiary gas)
  executionResult : ∀ result gas, Keeps f (inner.executionResult result gas)

/-- Phases that keep the setup keep it as a part of the context. -/
theorem Mainnet.KeepsSetup.keepsPart {inner : Mainnet} (h : inner.KeepsSetup) :
    inner.KeepsPart Ctx.setup :=
  ⟨h.validateEnv, h.validateInitialTxGas, h.loadAccounts, h.applyEip7702AuthList,
    h.firstFrameInput, h.runExecLoop, h.lastFrameResult, h.reimburseCaller, h.rewardBeneficiary,
    h.executionResult⟩

/-- The part of the context is none of the journal. -/
def OutsideJournal {γ : Type} (f : Ctx → γ) : Prop :=
  ∀ ctx journal, f { ctx with journal } = f ctx

theorem outsideJournal_setup : OutsideJournal Ctx.setup := fun _ _ => rfl

/-- What works on the journal keeps what is outside of it. -/
theorem keeps_onJournal {γ α : Type} {f : Ctx → γ} (hf : OutsideJournal f) (x : JournalM α) :
    Keeps f (onJournal x) := by
  intro ctx
  unfold onJournal
  cases x ctx.journal with
  | ok a j => exact hf ctx j
  | error e j => exact hf ctx j

namespace EvHandler

variable {self : EvHandler} {inner : Mainnet} {ctx ctx' : Ctx}

section Phases

variable {γ : Type} {f : Ctx → γ}

/-- The check of the initial gas keeps what revm's phases keep. -/
theorem keeps_validateInitialTxGas (hinner : inner.KeepsPart f) :
    Keeps f (validateInitialTxGas inner) := by
  refine keeps_get.bind fun ctx => ?_
  cases ctx.tx.batchCalls with
  | none => exact hinner.validateInitialTxGas
  | some calls =>
    refine keeps_throw.ite (keeps_throw.ite (Keeps.ite ?_ hinner.validateInitialTxGas))
    cases validateBatchInitialTxGas inner ctx.cfg ctx.tx.inner calls with
    | error e => exact keeps_throw
    | ok gas => exact keeps_pure

/-- The deduction keeps what is outside of the journal. -/
theorem keeps_validateAgainstState (hf : OutsideJournal f) :
    Keeps f self.validateAgainstStateAndDeductCaller := by
  intro ctx
  rw [validateAgainstStateAndDeductCaller_eq]
  split_ifs
  · rfl
  · rfl
  · exact keeps_onJournal hf _ _

/-- The phases before the frames keep what is outside of the journal. -/
theorem keeps_preExecution (hf : OutsideJournal f) (hinner : inner.KeepsPart f) :
    Keeps f (self.preExecution inner) := by
  refine hinner.validateEnv.bind fun _ => ?_
  refine (keeps_validateInitialTxGas hinner).bind fun gas => ?_
  refine (keeps_validateAgainstState hf).bind fun _ => hinner.loadAccounts.bind fun _ => ?_
  exact (hinner.applyEip7702AuthList gas).bind fun _ => keeps_pure

/-- revm's execution keeps what its phases keep. -/
theorem keeps_mainnet_execution (hinner : inner.KeepsPart f) (gas : InitialAndFloorGas) :
    Keeps f (inner.execution gas) :=
  keeps_get.bind fun _ => (hinner.firstFrameInput _ _).bind fun init =>
    (hinner.runExecLoop init).bind hinner.lastFrameResult

/-- The phases behind the frames keep what is outside of the journal. -/
theorem keeps_postExecution (hf : OutsideJournal f) (hinner : inner.KeepsPart f)
    (gas : InitialAndFloorGas) (refund : U64) (execResult : FrameResult) :
    Keeps f (self.postExecution inner gas refund execResult) := by
  have hreimburse (result : FrameResult) : Keeps f (reimburseCaller inner result) := by
    refine keeps_get.bind fun ctx => ?_
    cases ctx.tx.sponsor with
    | none => exact hinner.reimburseCaller result
    | some sponsor => exact keeps_onJournal hf _
  have happly (redirect : BaseFeeRedirect) (spent : U64) : Keeps f (redirect.apply spent) :=
    keeps_get.bind fun ctx => keeps_pure.ite (keeps_pure.ite (keeps_onJournal hf _))
  have hreward (result : FrameResult) : Keeps f (self.rewardBeneficiary inner result) := by
    unfold rewardBeneficiary
    cases self.redirect with
    | none => exact hinner.rewardBeneficiary _
    | some redirect =>
      exact Keeps.ite ((happly _ _).bind fun _ => hinner.rewardBeneficiary _)
        (hinner.rewardBeneficiary _)
  refine keeps_get.bind fun _ => keeps_get.bind fun _ => (hreimburse _).bind fun _ => ?_
  exact (hreward _).bind fun _ => hinner.executionResult _ _

end Phases

theorem keeps_setup_setTx (tx : EvTxEnv) : Keeps Ctx.setup (setTx tx) := keeps_modify fun _ => rfl

/-- The loop over the calls of a batch keeps the setup. -/
theorem keeps_setup_batchLoop (hinner : inner.KeepsSetup) (baseTx : EvTxEnv)
    (firstIsCreate : Bool) (checkpoint : Journal.Checkpoint) (calls : List Call) (s : BatchState)
    (last : Option FrameResult) :
    Keeps Ctx.setup (batchLoop inner baseTx firstIsCreate checkpoint calls s last) := by
  induction calls generalizing s last with
  | nil =>
    cases last with
    | none => exact keeps_throw
    | some frameResult => exact keeps_pure
  | cons call calls ih =>
    have hcall : Keeps Ctx.setup (runCall inner baseTx s.remainingGas s.reservoir call) :=
      (keeps_setup_setTx _).bind fun _ => (hinner.firstFrameInput _ _).bind hinner.runExecLoop
    have hrevert : Keeps Ctx.setup (revertBatch baseTx firstIsCreate checkpoint) :=
      keeps_modify fun _ => rfl
    refine hcall.bind fun frameResult => ?_
    exact Keeps.ite (hrevert.bind fun _ => keeps_pure) (ih _ _)

/-- Execution keeps the setup, batch or not. -/
theorem keeps_setup_execution (hinner : inner.KeepsSetup) (gas : InitialAndFloorGas) :
    Keeps Ctx.setup (execution inner gas) := by
  have hmainnet := keeps_mainnet_execution hinner.keepsPart gas
  refine keeps_get.bind fun ctx => ?_
  match ctx.tx.batchCalls with
  | none => exact hmainnet
  | some [] => exact keeps_throw
  | some [_] => exact hmainnet
  | some (first :: second :: rest) => exact keeps_setup_batchLoop hinner _ _ _ _ _ _

/-- Block and configuration are the same after a transaction, whatever its outcome. -/
theorem keeps_setup_transactOne (hinner : inner.KeepsSetup) (tx : EvTxEnv) :
    Keeps Ctx.setup (self.transactOne inner tx) := by
  refine (keeps_setup_setTx tx).bind fun _ ctx => ?_
  have hrun : Keeps Ctx.setup (self.runWith inner (execution inner)) :=
    (keeps_preExecution outsideJournal_setup hinner.keepsPart).bind fun _ =>
      (keeps_setup_execution hinner _).bind fun _ =>
        keeps_postExecution outsideJournal_setup hinner.keepsPart _ _ _
  unfold run catchError
  cases hout : self.runWith inner (execution inner) ctx with
  | ok result ctx' => exact hrun.of_ok hout
  | error e ctx' =>
    have hsetup : ctx'.setup = ctx.setup := hrun.of_error hout
    exact hsetup

/-- A failed transaction leaves the journal as it was. -/
theorem journal_of_transactOne_error {tx : EvTxEnv} {e : Failure}
    (h : self.transactOne inner tx ctx = .error e ctx') : ctx'.journal = ctx.journal := by
  have hset : setTx tx ctx = .ok () { ctx with tx } := rfl
  rw [transactOne, bind_of_ok hset, run, catchError] at h
  cases hout : self.runWith inner (execution inner) { ctx with tx } with
  | ok result ctx₁ =>
    rw [hout] at h
    cases h
  | error e₁ ctx₁ =>
    rw [hout] at h
    obtain ⟨-, rfl⟩ := EStateM.Result.error.inj h
    rfl

/-- A transaction does not depend on the one that the context held before it. -/
theorem transactOne_eq_of_setup (tx : EvTxEnv) {ctx₁ ctx₂ : Ctx} (hsetup : ctx₁.setup = ctx₂.setup)
    (hjournal : ctx₁.journal = ctx₂.journal) :
    self.transactOne inner tx ctx₁ = self.transactOne inner tx ctx₂ := by
  obtain ⟨hblock, hcfg⟩ := Prod.mk.inj hsetup
  have hctx : ({ ctx₁ with tx } : Ctx) = { ctx₂ with tx } := by
    rw [Ctx.mk.injEq]
    exact ⟨hcfg, hblock, rfl, hjournal⟩
  change self.run inner { ctx₁ with tx } = self.run inner { ctx₂ with tx }
  rw [hctx]

end EvHandler

/-! ## Panics -/

/-- The failure is an error that is returned, not a panic. -/
def Failure.IsError : Failure → Prop
  | .error _ => True
  | .panic _ => False

/-- revm's phases return their errors and do not panic. -/
structure Mainnet.NeverPanics (inner : Mainnet) : Prop where
  validateEnv : OnlyThrows Failure.IsError inner.validateEnv
  validateInitialTxGas : OnlyThrows Failure.IsError inner.validateInitialTxGas
  loadAccounts : OnlyThrows Failure.IsError inner.loadAccounts
  applyEip7702AuthList : ∀ gas, OnlyThrows Failure.IsError (inner.applyEip7702AuthList gas)
  firstFrameInput : ∀ g r, OnlyThrows Failure.IsError (inner.firstFrameInput g r)
  runExecLoop : ∀ init, OnlyThrows Failure.IsError (inner.runExecLoop init)
  lastFrameResult : ∀ result, OnlyThrows Failure.IsError (inner.lastFrameResult result)
  reimburseCaller : ∀ result, OnlyThrows Failure.IsError (inner.reimburseCaller result)
  rewardBeneficiary : ∀ gas, OnlyThrows Failure.IsError (inner.rewardBeneficiary gas)
  executionResult : ∀ result gas, OnlyThrows Failure.IsError (inner.executionResult result gas)

/-- What works on the journal panics only if its own code does. -/
theorem onlyErrors_onJournal {α : Type} {x : JournalM α} (hx : OnlyThrows Failure.IsError x) :
    OnlyThrows Failure.IsError (onJournal x) := by
  intro ctx e ctx' h
  unfold onJournal at h
  cases hrun : x ctx.journal with
  | ok a j =>
    rw [hrun] at h
    cases h
  | error e₁ j =>
    rw [hrun] at h
    exact (EStateM.Result.error.inj h).1 ▸ hx _ _ _ hrun

/-- A load of an account does not panic. -/
theorem onlyErrors_loadAccount (addr : Address) :
    OnlyThrows Failure.IsError (loadAccount addr) := by
  intro j e j' h
  cases hdb : j.dbError addr with
  | none =>
    rw [loadAccount_of_none hdb] at h
    cases h
  | some err =>
    rw [loadAccount_of_error hdb] at h
    exact (EStateM.Result.error.inj h).1 ▸ trivial

namespace EvHandler

variable {self : EvHandler} {inner : Mainnet} {ctx ctx' : Ctx}

/-- The check of the initial gas does not panic. -/
theorem onlyErrors_validateInitialTxGas (hinner : inner.NeverPanics) :
    OnlyThrows Failure.IsError (validateInitialTxGas inner) := by
  refine onlyThrows_get.bind fun ctx => ?_
  cases ctx.tx.batchCalls with
  | none => exact hinner.validateInitialTxGas
  | some calls =>
    refine (onlyThrows_throw trivial).ite ((onlyThrows_throw trivial).ite
      (OnlyThrows.ite ?_ hinner.validateInitialTxGas))
    cases validateBatchInitialTxGas inner ctx.cfg ctx.tx.inner calls with
    | error e => exact onlyThrows_throw trivial
    | ok gas => exact onlyThrows_pure

/-- A batch that has a call, or has executed one, ends without a panic. -/
theorem onlyErrors_batchLoop (hinner : inner.NeverPanics) (baseTx : EvTxEnv)
    (firstIsCreate : Bool) (checkpoint : Journal.Checkpoint) (calls : List Call) (s : BatchState)
    (last : Option FrameResult) (hcalls : calls ≠ [] ∨ last.isSome = true) :
    OnlyThrows Failure.IsError
      (batchLoop inner baseTx firstIsCreate checkpoint calls s last) := by
  induction calls generalizing s last with
  | nil =>
    cases last with
    | none => simp at hcalls
    | some frameResult => exact onlyThrows_pure
  | cons call calls ih =>
    have hcall : OnlyThrows Failure.IsError
        (runCall inner baseTx s.remainingGas s.reservoir call) :=
      onlyThrows_modify.bind fun _ => (hinner.firstFrameInput _ _).bind hinner.runExecLoop
    refine hcall.bind fun frameResult => ?_
    exact OnlyThrows.ite (onlyThrows_modify.bind fun _ => onlyThrows_pure) (ih _ _ (.inr rfl))

/-- Execution does not panic: the loop over a batch is never entered without a call. -/
theorem onlyErrors_execution (hinner : inner.NeverPanics) (gas : InitialAndFloorGas) :
    OnlyThrows Failure.IsError (execution inner gas) := by
  have hmainnet : OnlyThrows Failure.IsError (inner.execution gas) :=
    onlyThrows_get.bind fun _ => (hinner.firstFrameInput _ _).bind fun init =>
      (hinner.runExecLoop init).bind hinner.lastFrameResult
  refine onlyThrows_get.bind fun ctx => ?_
  match ctx.tx.batchCalls with
  | none => exact hmainnet
  | some [] => exact onlyThrows_throw trivial
  | some [_] => exact hmainnet
  | some (first :: second :: rest) =>
    exact onlyErrors_batchLoop hinner _ _ _ _ _ _ (.inl (List.cons_ne_nil _ _))

/-- The phases behind the frames do not panic. -/
theorem onlyErrors_postExecution (hinner : inner.NeverPanics) (gas : InitialAndFloorGas)
    (refund : U64) (execResult : FrameResult) :
    OnlyThrows Failure.IsError (self.postExecution inner gas refund execResult) := by
  -- the two phases that this handler has changed; the others are revm's
  have hreimburse (result : FrameResult) :
      OnlyThrows Failure.IsError (reimburseCaller inner result) := by
    refine onlyThrows_get.bind fun ctx => ?_
    cases ctx.tx.sponsor with
    | none => exact hinner.reimburseCaller result
    | some sponsor =>
      exact onlyErrors_onJournal ((onlyErrors_loadAccount _).bind fun _ => onlyThrows_modify)
  have happly (redirect : BaseFeeRedirect) (spent : U64) :
      OnlyThrows Failure.IsError (redirect.apply spent) := by
    refine onlyThrows_get.bind fun ctx => onlyThrows_pure.ite (onlyThrows_pure.ite ?_)
    refine onlyErrors_onJournal ((onlyErrors_loadAccount _).bind fun _ => ?_)
    exact OnlyThrows.bind (fun _ _ _ h => nomatch h) fun _ => onlyThrows_pure
  have hreward (result : FrameResult) :
      OnlyThrows Failure.IsError (self.rewardBeneficiary inner result) := by
    unfold rewardBeneficiary
    cases self.redirect with
    | none => exact hinner.rewardBeneficiary _
    | some redirect =>
      exact OnlyThrows.ite ((happly _ _).bind fun _ => hinner.rewardBeneficiary _)
        (hinner.rewardBeneficiary _)
  refine onlyThrows_get.bind fun _ => onlyThrows_get.bind fun _ => (hreimburse _).bind fun _ => ?_
  exact (hreward _).bind fun _ => hinner.executionResult _ _

/-- The transaction passes the checks before the fees, and there its payment does not fit. -/
def ReachesOverflow (self : EvHandler) (inner : Mainnet) (ctx : Ctx) : Prop :=
  ∃ ctx₁ gas ctx₂, inner.validateEnv ctx = .ok () ctx₁ ∧
    validateInitialTxGas inner ctx₁ = .ok gas ctx₂ ∧ self.FeesOverflow ctx₂

/-- A run that panics has ended with a text. -/
theorem panic_of_isPanic {α : Type} {r : EStateM.Result Failure Ctx α} (h : IsPanic r) :
    ∃ msg ctx', r = .error (.panic msg) ctx' := by
  rcases r with _ | ⟨_ | msg, ctx'⟩
  · exact h.elim
  · exact h.elim
  · exact ⟨msg, ctx', rfl⟩

/-- A transaction panics exactly if it reaches the overflow of its fees. -/
theorem transactOne_panics_iff (hinner : inner.NeverPanics) (tx : EvTxEnv) :
    (∃ msg ctx', self.transactOne inner tx ctx = .error (.panic msg) ctx') ↔
      self.ReachesOverflow inner { ctx with tx } := by
  have hset : setTx tx ctx = .ok () { ctx with tx } := rfl
  rw [transactOne, bind_of_ok hset]
  have hcatch : (∃ msg ctx', self.run inner { ctx with tx } = .error (.panic msg) ctx') ↔
      ∃ msg ctx', self.runWith inner (execution inner) { ctx with tx } =
        .error (.panic msg) ctx' := by
    unfold run catchError
    cases self.runWith inner (execution inner) { ctx with tx } with
    | ok result ctx' =>
      constructor
      · rintro ⟨msg, ctx₁, h⟩
        cases h
      · rintro ⟨msg, ctx₁, h⟩
        cases h
    | error e ctx' =>
      constructor
      · rintro ⟨msg, ctx₁, h⟩
        obtain ⟨rfl, -⟩ := EStateM.Result.error.inj h
        exact ⟨msg, ctx', rfl⟩
      · rintro ⟨msg, ctx₁, h⟩
        obtain ⟨rfl, -⟩ := EStateM.Result.error.inj h
        exact ⟨msg, _, rfl⟩
  rw [hcatch]
  constructor
  · rintro ⟨msg, ctx', h⟩
    -- only the check of the fees can have panicked
    rcases bind_eq_error h with hpre | ⟨_, _, -, h⟩
    · rcases bind_eq_error hpre with h | ⟨⟨⟩, ctx₁, henv, hpre⟩
      · exact (hinner.validateEnv _ _ _ h).elim
      rcases bind_eq_error hpre with h | ⟨gas, ctx₂, hgas, hpre⟩
      · exact (onlyErrors_validateInitialTxGas hinner _ _ _ h).elim
      rcases bind_eq_error hpre with hfees | ⟨_, ctx₃, -, hpre⟩
      · have hpanic : IsPanic (self.validateAgainstStateAndDeductCaller ctx₂) := by
          rw [hfees]
          trivial
        exact ⟨ctx₁, gas, ctx₂, henv, hgas,
          (isPanic_validateAgainstState_iff self ctx₂).mp hpanic⟩
      refine (hinner.loadAccounts.bind (fun _ => ?_) _ _ _ hpre).elim
      exact (hinner.applyEip7702AuthList gas).bind fun _ => onlyThrows_pure
    · rcases bind_eq_error h with h | ⟨_, _, -, h⟩
      · exact (onlyErrors_execution hinner _ _ _ _ h).elim
      · exact (onlyErrors_postExecution hinner _ _ _ _ _ _ h).elim
  · rintro ⟨ctx₁, gas, ctx₂, henv, hgas, hoverflow⟩
    obtain ⟨msg, ctx', hfees⟩ :=
      panic_of_isPanic ((isPanic_validateAgainstState_iff self ctx₂).mpr hoverflow)
    refine ⟨msg, ctx', bind_of_error ?_⟩
    exact (bind_of_ok henv).trans ((bind_of_ok hgas).trans (bind_of_error hfees))

end EvHandler

namespace Transfers

/-- Payments keep the setup. -/
theorem keepsSetup (createAddress : Address → U64 → Address) :
    (mainnet createAddress).KeepsSetup where
  validateEnv := keeps_pure
  validateInitialTxGas := fun _ => rfl
  loadAccounts := keeps_pure
  applyEip7702AuthList := fun _ => keeps_pure
  firstFrameInput := fun _ _ => keeps_get.bind fun _ => keeps_pure
  runExecLoop := fun _ _ => rfl
  lastFrameResult := fun _ => keeps_get.bind fun _ => keeps_pure
  reimburseCaller := fun _ => keeps_get.bind fun _ => keeps_onJournal outsideJournal_setup _
  rewardBeneficiary := fun _ => keeps_get.bind fun _ => keeps_onJournal outsideJournal_setup _
  executionResult := fun _ _ => keeps_get.bind fun _ => keeps_pure

/-- Payments that write state keep the setup. -/
theorem keepsSetup_storing (stateGas : U64) : (storing stateGas).KeepsSetup := by
  have hplain : mainnetOfCA.KeepsSetup := keepsSetup _
  refine ⟨?_, hplain.validateInitialTxGas, hplain.loadAccounts, hplain.applyEip7702AuthList,
    hplain.firstFrameInput, fun _ _ => rfl, fun _ => keeps_get.bind fun _ => keeps_pure,
    fun _ => keeps_get.bind fun _ => keeps_onJournal outsideJournal_setup _,
    fun _ => keeps_get.bind fun _ => keeps_onJournal outsideJournal_setup _,
    hplain.executionResult⟩
  intro ctx
  change (validateEnv ctx).state.setup = ctx.setup
  unfold validateEnv
  split_ifs <;> rfl

/-- A credit does not panic. -/
theorem onlyErrors_credit (addr : Address) (amount : U256) :
    OnlyThrows Failure.IsError (credit addr amount) :=
  onlyErrors_onJournal ((onlyErrors_loadAccount _).bind fun _ =>
    OnlyThrows.bind (fun _ _ _ h => nomatch h) fun _ => onlyThrows_pure)

/-- The phases of payments do not panic. -/
theorem neverPanics (createAddress : Address → U64 → Address) :
    (mainnet createAddress).NeverPanics where
  validateEnv := onlyThrows_pure
  validateInitialTxGas := fun _ _ _ h => nomatch h
  loadAccounts := onlyThrows_pure
  applyEip7702AuthList := fun _ => onlyThrows_pure
  firstFrameInput := fun _ _ => onlyThrows_get.bind fun _ => onlyThrows_pure
  runExecLoop := fun _ _ _ _ h => nomatch h
  lastFrameResult := fun _ => onlyThrows_get.bind fun _ => onlyThrows_pure
  reimburseCaller := fun _ => onlyThrows_get.bind fun _ => onlyErrors_credit _ _
  rewardBeneficiary := fun _ => onlyThrows_get.bind fun _ => onlyErrors_credit _ _
  executionResult := fun _ _ => onlyThrows_get.bind fun _ => onlyThrows_pure

end Transfers

end EvReth
