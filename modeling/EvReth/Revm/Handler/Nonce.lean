import EvReth.Revm.Handler.Fees

/-!
# A transaction consumes its nonce

The caller's nonce is incremented in three places: before execution for a `CALL`, inside the frame
of a `CREATE`, and by hand after a reverted batch that begins with `CREATE`. This file follows the
nonce through a whole transaction and states exactly when it is consumed.
-/

namespace EvReth

open EStateM

/-! ## What revm documents about nonces -/

/-- The phase changes no nonce when it succeeds. -/
def SameNonces {α : Type} (x : HandlerM α) : Prop :=
  ∀ ctx a ctx', x ctx = .ok a ctx' → ∀ addr, ctx'.journal.nonce addr = ctx.journal.nonce addr

/-- The phase changes neither nonces nor balances when it succeeds. -/
def SameFunds {α : Type} (x : HandlerM α) : Prop :=
  SameNonces x ∧
    ∀ ctx a ctx', x ctx = .ok a ctx' → ∀ addr, ctx'.journal.balance addr = ctx.journal.balance addr

/-- Outside frames only an EIP-7702 authorization list changes nonces, and it only raises them. No
phase before the frames moves funds, apart from the deduction of fees. -/
structure Mainnet.KeepsNonces (inner : Mainnet) : Prop where
  validateEnv : SameFunds inner.validateEnv
  validateInitialTxGas : SameFunds inner.validateInitialTxGas
  loadAccounts : SameFunds inner.loadAccounts
  applyEip7702AuthList : ∀ gas ctx out ctx', inner.applyEip7702AuthList gas ctx = .ok out ctx' →
    ∀ addr, ctx'.journal.balance addr = ctx.journal.balance addr ∧
      (ctx.journal.nonce addr).toNat ≤ (ctx'.journal.nonce addr).toNat ∧
      (ctx.tx.inner.txType ≠ .eip7702 → ctx'.journal.nonce addr = ctx.journal.nonce addr)
  firstFrameInput : ∀ g r, SameFunds (inner.firstFrameInput g r)
  lastFrameResult : ∀ result, SameNonces (inner.lastFrameResult result)
  reimburseCaller : ∀ result, SameNonces (inner.reimburseCaller result)
  rewardBeneficiary : ∀ gas, SameNonces (inner.rewardBeneficiary gas)
  executionResult : ∀ result gas, SameNonces (inner.executionResult result gas)

/-- The first frame is that of the transaction in the context. A `CALL` frame does not lower the
nonce of its caller. A `CREATE` frame without the funds for its value ends at once; otherwise it
spends a nonce of its caller, whether or not the creation succeeds. -/
structure Mainnet.FrameNonces (inner : Mainnet) : Prop where
  input : ∀ g r ctx init ctx', inner.firstFrameInput g r ctx = .ok init ctx' →
    init.caller = ctx.tx.inner.caller ∧ init.kind = ctx.tx.inner.kind ∧
      init.value = ctx.tx.inner.value
  call : ∀ init ctx result ctx', init.kind.isCreate = false →
    inner.runExecLoop init ctx = .ok result ctx' →
    (ctx.journal.nonce init.caller).toNat ≤ (ctx'.journal.nonce init.caller).toNat
  createWithoutFunds : ∀ init ctx result ctx', init.kind = .create →
    (ctx.journal.balance init.caller).toNat < init.value.toNat →
    inner.runExecLoop init ctx = .ok result ctx' →
    result.result = .outOfFunds ∧ ctx'.journal.nonce init.caller = ctx.journal.nonce init.caller
  create : ∀ init ctx result ctx', init.kind = .create →
    init.value.toNat ≤ (ctx.journal.balance init.caller).toNat →
    inner.runExecLoop init ctx = .ok result ctx' →
    min ((ctx.journal.nonce init.caller).toNat + 1) (2 ^ 64 - 1) ≤
      (ctx'.journal.nonce init.caller).toNat
  dbError : ∀ init ctx result ctx', inner.runExecLoop init ctx = .ok result ctx' →
    ctx'.journal.dbError = ctx.journal.dbError

/-- The phases after execution report the status of the frame. -/
structure Mainnet.KeepsStatus (inner : Mainnet) : Prop where
  refund : ∀ ctx result r, (inner.refund ctx result r).result = result.result
  eip7623CheckGasFloor : ∀ ctx result gas,
    (inner.eip7623CheckGasFloor ctx result gas).result = result.result
  executionResult : ∀ result gas ctx out ctx', inner.executionResult result gas ctx = .ok out ctx' →
    out.result = result.result

namespace Transfers

variable (createAddress : Address → U64 → Address)

theorem sameNonces_credit (addr : Address) (amount : U256) : SameNonces (credit addr amount) := by
  intro ctx _ ctx' h a
  rw [credit_eq_ok h]
  exact Journal.nonce_incrBalance _ _ _ _

/-- The phases of payments change no nonce. -/
theorem keepsNonces : (mainnet createAddress).KeepsNonces := by
  have hsame : ∀ {α : Type} {a b : α} {ctx ctx' : Ctx},
      (EStateM.Result.ok a ctx : EStateM.Result Failure Ctx α) = .ok b ctx' → ctx = ctx' :=
    fun h => (EStateM.Result.ok.inj h).2
  refine ⟨⟨?_, ?_⟩, ⟨?_, ?_⟩, ⟨?_, ?_⟩, ?_, fun _ _ => ⟨?_, ?_⟩, ?_, ?_, ?_, ?_⟩
  · exact fun _ _ _ h _ => by rw [hsame h]
  · exact fun _ _ _ h _ => by rw [hsame h]
  · exact fun _ _ _ h _ => by rw [hsame h]
  · exact fun _ _ _ h _ => by rw [hsame h]
  · exact fun _ _ _ h _ => by rw [hsame h]
  · exact fun _ _ _ h _ => by rw [hsame h]
  · exact fun _ _ _ _ h _ => by rw [hsame h]; exact ⟨rfl, le_rfl, fun _ => rfl⟩
  · exact fun _ _ _ h _ => by rw [hsame h]
  · exact fun _ _ _ h _ => by rw [hsame h]
  · exact fun _ _ _ _ h _ => by rw [hsame h]
  · exact fun _ _ _ _ h _ => sameNonces_credit _ _ _ _ _ h _
  · exact fun _ _ _ _ h _ => sameNonces_credit _ _ _ _ _ h _
  · exact fun _ _ _ _ _ h _ => by rw [hsame h]

/-- The frames of payments count creations and nothing else. -/
theorem frameNonces : (mainnet createAddress).FrameNonces := by
  -- the first frame, calls, creations without and with the funds for their value, and the loads
  refine ⟨?_, ?_, ?_, ?_, ?_⟩
  · intro _ _ _ _ _ h
    obtain ⟨rfl, -⟩ := EStateM.Result.ok.inj h
    exact ⟨rfl, rfl, rfl⟩
  · intro init ctx result ctx' hkind h
    obtain ⟨-, rfl⟩ := EStateM.Result.ok.inj h
    cases hk : init.kind with
    | create =>
      rw [hk] at hkind
      cases hkind
    | call dest => exact (congrArg BitVec.toNat (nonce_callFrame init ctx.journal dest _)).ge
  · intro init ctx result ctx' hkind hfunds h
    obtain ⟨rfl, rfl⟩ := EStateM.Result.ok.inj h
    simp [hkind, createFrame, hfunds, frameResult]
  · intro init ctx result ctx' hkind hfunds h
    obtain ⟨-, rfl⟩ := EStateM.Result.ok.inj h
    simp only [hkind]
    exact nonce_createFrame createAddress init ctx.journal hfunds
  · intro init ctx result ctx' h
    obtain ⟨result', ctx'', hrun, hdb, -⟩ := runExecLoop_ok createAddress init ctx
    obtain ⟨-, rfl⟩ := EStateM.Result.ok.inj (hrun.symm.trans h)
    exact hdb

/-- The phases of payments keep the status of the result. -/
theorem keepsStatus : (mainnet createAddress).KeepsStatus := by
  refine ⟨fun _ _ _ => rfl, ?_, ?_⟩
  · intro _ result gas
    change (eip7623CheckGasFloor result gas).result = result.result
    unfold eip7623CheckGasFloor
    split_ifs <;> rfl
  · intro _ _ _ _ _ h
    obtain ⟨rfl, -⟩ := EStateM.Result.ok.inj h
    rfl

end Transfers

namespace EvHandler

variable {self : EvHandler} {inner : Mainnet} {ctx ctx' : Ctx}

/-! ## Frames -/

section Frames

variable {baseTx : EvTxEnv} {g r : U64} {call : Call} {result : FrameResult}

/-- What one call of a batch does to the caller's nonce: it is not lowered, and a `CREATE` that
succeeds spends one. -/
theorem nonce_of_runCall (hphases : inner.KeepsNonces) (hframes : inner.FrameNonces)
    (h : runCall inner baseTx g r call ctx = .ok result ctx') :
    (ctx.journal.nonce baseTx.inner.caller).toNat ≤
        (ctx'.journal.nonce baseTx.inner.caller).toNat ∧
      (call.dest = .create → result.result.isOk = true →
        min ((ctx.journal.nonce baseTx.inner.caller).toNat + 1) (2 ^ 64 - 1) ≤
          (ctx'.journal.nonce baseTx.inner.caller).toNat) := by
  obtain ⟨init, ctx₁, hinit, hloop⟩ := runCall_eq_ok h
  obtain ⟨hcaller, hkind, -⟩ := hframes.input _ _ _ _ _ hinit
  replace hcaller : init.caller = baseTx.inner.caller := hcaller
  replace hkind : init.kind = call.dest := hkind
  have hnonce : ctx₁.journal.nonce baseTx.inner.caller = ctx.journal.nonce baseTx.inner.caller :=
    (hphases.firstFrameInput g r).1 _ _ _ hinit _
  rw [← hnonce, ← hcaller, ← hkind]
  cases hk : init.kind with
  | call dest => exact ⟨hframes.call _ _ _ _ (by rw [hk]; rfl) hloop, nofun⟩
  | create =>
    -- a creation without funds spends no nonce, but it does not succeed either
    by_cases hfunds : (ctx₁.journal.balance init.caller).toNat < init.value.toNat
    · obtain ⟨hout, hsame⟩ := hframes.createWithoutFunds _ _ _ _ hk hfunds hloop
      refine ⟨by rw [hsame], fun _ hok => ?_⟩
      rw [hout] at hok
      cases hok
    · have hspent := hframes.create _ _ _ _ hk (Nat.le_of_not_lt hfunds) hloop
      have hlt := (ctx₁.journal.nonce init.caller).isLt
      exact ⟨by omega, fun _ _ => hspent⟩

/-- A call does not change which accounts can be loaded. -/
theorem dbError_of_runCall (henv : inner.KeepsEnvironment) (hframes : inner.FrameNonces)
    (h : runCall inner baseTx g r call ctx = .ok result ctx') :
    ctx'.journal.dbError = ctx.journal.dbError := by
  obtain ⟨init, ctx₁, hinit, hloop⟩ := runCall_eq_ok h
  exact (hframes.dbError _ _ _ _ hloop).trans (henv.firstFrameInput _ _ _ _ _ hinit).dbError

/-- Over the calls of a batch the caller's nonce is not lowered. -/
theorem RunsInOrder.nonce_le (hphases : inner.KeepsNonces) (hframes : inner.FrameNonces)
    {calls : List Call} {results : List FrameResult}
    (h : RunsInOrder inner baseTx g r ctx calls results ctx') :
    (ctx.journal.nonce baseTx.inner.caller).toNat ≤
      (ctx'.journal.nonce baseTx.inner.caller).toNat :=
  h.rel (R := fun ctx ctx' => (ctx.journal.nonce baseTx.inner.caller).toNat ≤
      (ctx'.journal.nonce baseTx.inner.caller).toNat) (fun _ => le_rfl) (fun _ _ _ => le_trans)
    fun _ _ _ _ _ _ hrun => (nonce_of_runCall hphases hframes hrun).1

end Frames

/-! ## Before execution -/

/-- The increment that a transaction gets before its frames run. -/
def bumpBeforeFrames (ctx : Ctx) : ℕ := if ctx.tx.inner.kind.isCreate then 0 else 1

/-- The deduction counts a call. -/
theorem nonce_deduct {j j' : Journal} (h : deduct ctx j = .ok () j')
    (hmax : (j.nonce ctx.tx.inner.caller).toNat < 2 ^ 64 - 2) :
    (j'.nonce ctx.tx.inner.caller).toNat =
      (j.nonce ctx.tx.inner.caller).toNat + bumpBeforeFrames ctx := by
  -- below the last two nonces the increment does not saturate
  have hbump : ∀ j₁ : Journal, (j₁.nonce ctx.tx.inner.caller) = j.nonce ctx.tx.inner.caller →
      ((bumpIfCall ctx.tx.inner.kind.isCall ctx.tx.inner.caller j₁).nonce
          ctx.tx.inner.caller).toNat =
        (j.nonce ctx.tx.inner.caller).toNat + bumpBeforeFrames ctx := by
    intro j₁ hj₁
    rw [nonce_bumpIfCall, hj₁, bumpBeforeFrames]
    cases hk : ctx.tx.inner.kind with
    | create => simp [TxKind.isCreate]
    | call dest =>
      simp only [TxKind.isCall, TxKind.isCreate, and_self, if_true, BitVec.toNat_saturatingAdd]
      have hone : (1 : U64).toNat = 1 := by decide
      simp only [hone, Bool.false_eq_true, if_false]
      omega
  obtain ⟨-, ⟨-, v, -, rfl⟩ | ⟨sponsor, -, -, rfl⟩⟩ := deduct_cases ctx h
  · exact hbump _ (Journal.nonce_setBalance _ _ _ _)
  · rw [Journal.nonce_setBalance]
    exact hbump j rfl

/-- The caller is its own sponsor and cannot pay gas and value together. -/
def ShortSelfSponsor (ctx : Ctx) : Prop :=
  ctx.tx.sponsor = some ctx.tx.inner.caller ∧
    (ctx.journal.balance ctx.tx.inner.caller).toNat <
      ctx.tx.inner.gasLimit.toNat *
        (ctx.tx.inner.effectiveGasPrice (ctx.block.basefee.setWidth 128)).toNat +
      ctx.tx.inner.value.toNat

/-- After the deduction the caller still has the value of the transaction, unless it sponsors itself
and is short of funds: the two balances are checked one by one. -/
theorem value_le_balance_deduct {j' : Journal} (h : deduct ctx ctx.journal = .ok () j')
    (hcheck : ctx.cfg.isBalanceCheckDisabled = false)
    (hvalue : ctx.tx.batchTotalValue = ctx.tx.inner.value) :
    ctx.tx.inner.value.toNat ≤ (j'.balance ctx.tx.inner.caller).toNat ↔ ¬ ShortSelfSponsor ctx := by
  unfold ShortSelfSponsor
  obtain ⟨-, ⟨hnone, v, hfee, rfl⟩ | ⟨sponsor, hsponsor, hfunds, rfl⟩⟩ := deduct_cases ctx h
  · rw [hcheck] at hfee
    -- a normal transaction has been checked for gas and value together
    obtain ⟨-, hpay, hv⟩ := calculateCallerFee_ok _ _ _ hfee
    simp only [balance_bumpIfCall, Journal.balance_setBalance, if_true, hnone, reduceCtorEq,
      false_and, not_false_eq_true, iff_true]
    omega
  · obtain ⟨hcaller, hgas⟩ := hfunds hcheck
    rw [hvalue] at hcaller
    have hcost := gasCost_le_maxGasCost ctx.tx.inner (ctx.block.basefee.setWidth 128)
    rw [toNat_gasCost] at hcost
    -- sponsor and caller may be one account, checked twice and charged once
    by_cases hself : sponsor = ctx.tx.inner.caller
    · subst hself
      simp only [Journal.balance_setBalance, if_true, hcheck, toNat_newSponsorBalance, hsponsor,
        true_and]
      omega
    · have hne : ctx.tx.inner.caller ≠ sponsor := fun h => hself h.symm
      simp only [Journal.balance_setBalance, hne, if_false, balance_bumpIfCall, hsponsor,
        Option.some.injEq, hself, false_and, not_false_eq_true, iff_true]
      exact hcaller

/-- The check of the initial gas changes neither nonces nor balances. -/
theorem sameFunds_validateInitialTxGas (hphases : inner.KeepsNonces) :
    SameFunds (validateInitialTxGas inner) := by
  constructor
  · intro ctx gas ctx' h
    obtain ⟨-, -, rfl | h⟩ := validateInitialTxGas_cases h
    · exact fun _ => rfl
    · exact hphases.validateInitialTxGas.1 _ _ _ h
  · intro ctx gas ctx' h
    obtain ⟨-, -, rfl | h⟩ := validateInitialTxGas_cases h
    · exact fun _ => rfl
    · exact hphases.validateInitialTxGas.2 _ _ _ h

/-- A transaction that reaches execution carries the nonce of its caller. -/
theorem txNonce_of_preExecution (henv : inner.KeepsEnvironment) (hphases : inner.KeepsNonces)
    (hnonceCheck : ctx.cfg.isNonceCheckDisabled = false) {gas : InitialAndFloorGas} {refund : U64}
    (h : self.preExecution inner ctx = .ok (gas, refund) ctx') :
    ctx.tx.inner.nonce = ctx.journal.nonce ctx.tx.inner.caller := by
  obtain ⟨t⟩ := preTrace_of_ok h
  have hsame := t.sameEnv_afterGas henv
  obtain ⟨j, hd, -⟩ := deduct_of_validate self _ t.hDeduct
  have hchecked := (deduct_cases _ hd).1
  rw [hsame.tx, hsame.cfg, hnonceCheck] at hchecked
  calc ctx.tx.inner.nonce
      = t.afterGas.journal.nonce ctx.tx.inner.caller := nonce_eq_of_validate hchecked
    _ = t.afterEnv.journal.nonce ctx.tx.inner.caller :=
      (sameFunds_validateInitialTxGas hphases).1 _ _ _ t.hGas _
    _ = ctx.journal.nonce ctx.tx.inner.caller := hphases.validateEnv.1 _ _ _ t.hEnv _

/-- What holds of the caller when the frames begin. -/
structure Entry (ctx ctx₁ : Ctx) : Prop where
  sameEnv : ctx.SameEnv ctx₁
  loads : ctx₁.journal.dbError ctx.tx.inner.caller = none
  nonce_le : (ctx.journal.nonce ctx.tx.inner.caller).toNat + bumpBeforeFrames ctx ≤
    (ctx₁.journal.nonce ctx.tx.inner.caller).toNat
  nonce_eq : ctx.tx.inner.txType ≠ .eip7702 → (ctx₁.journal.nonce ctx.tx.inner.caller).toNat =
    (ctx.journal.nonce ctx.tx.inner.caller).toNat + bumpBeforeFrames ctx
  value_le : ctx.tx.inner.value.toNat ≤ (ctx₁.journal.balance ctx.tx.inner.caller).toNat ↔
    ¬ ShortSelfSponsor ctx

/-- What the frames find: the nonce is counted for a call, and the caller has the values. -/
theorem entry_of_preExecution (henv : inner.KeepsEnvironment) (hphases : inner.KeepsNonces)
    (hbalanceCheck : ctx.cfg.isBalanceCheckDisabled = false)
    (hvalue : ctx.tx.batchTotalValue = ctx.tx.inner.value)
    (hmax : (ctx.journal.nonce ctx.tx.inner.caller).toNat < 2 ^ 64 - 2)
    {gas : InitialAndFloorGas} {refund : U64}
    (h : self.preExecution inner ctx = .ok (gas, refund) ctx') : Entry ctx ctx' := by
  obtain ⟨t⟩ := preTrace_of_ok h
  -- the state in which the deduction is made has the funds of the initial one
  have hsame := t.sameEnv_afterGas henv
  have hgas := sameFunds_validateInitialTxGas hphases
  have hnonce : ∀ a, t.afterGas.journal.nonce a = ctx.journal.nonce a := fun a =>
    (hgas.1 _ _ _ t.hGas a).trans (hphases.validateEnv.1 _ _ _ t.hEnv a)
  have hbalance : ∀ a, t.afterGas.journal.balance a = ctx.journal.balance a := fun a =>
    (hgas.2 _ _ _ t.hGas a).trans (hphases.validateEnv.2 _ _ _ t.hEnv a)
  obtain ⟨j, hd, hafter⟩ := deduct_of_validate self _ t.hDeduct
  have hbumped := nonce_deduct hd (by rw [hsame.tx, hnonce]; exact hmax)
  have hfunds := value_le_balance_deduct hd (by rw [hsame.cfg]; exact hbalanceCheck)
    (by rw [hsame.tx]; exact hvalue)
  have hloads := caller_loads_of_deduct _ hd
  have hshort : ShortSelfSponsor t.afterGas ↔ ShortSelfSponsor ctx := by
    unfold ShortSelfSponsor
    rw [hsame.tx, hsame.block, hbalance]
  have hbump : bumpBeforeFrames t.afterGas = bumpBeforeFrames ctx := by
    unfold bumpBeforeFrames
    rw [hsame.tx]
  rw [hsame.tx] at hloads hfunds hbumped
  rw [hnonce, hbump] at hbumped
  rw [hshort] at hfunds
  -- and what follows the deduction keeps what it has written
  have hdeducted : t.afterDeduct.journal = j := by rw [hafter]
  have hloadNonce := hphases.loadAccounts.1 _ _ _ t.hLoad ctx.tx.inner.caller
  have hloadBalance := hphases.loadAccounts.2 _ _ _ t.hLoad ctx.tx.inner.caller
  rw [hdeducted] at hloadNonce hloadBalance
  obtain ⟨hauthBalance, hauthLe, hauthEq⟩ :=
    hphases.applyEip7702AuthList _ _ _ _ t.hAuth ctx.tx.inner.caller
  have hloadTx : t.afterLoad.tx = ctx.tx := by
    rw [(henv.loadAccounts _ _ _ t.hLoad).tx, hafter]
    exact hsame.tx
  have hpre := keepsEnv_preExecution henv _ _ _ h
  refine ⟨hpre, ?_, ?_, ?_, ?_⟩
  · rw [hpre.dbError, ← hsame.dbError]
    exact hloads
  · rw [hloadNonce] at hauthLe
    omega
  · intro htype
    rw [hauthEq (by rw [hloadTx]; exact htype), hloadNonce]
    exact hbumped
  · rw [hauthBalance, hloadBalance]
    exact hfunds

/-! ## Execution -/

section Execution

variable {gas : InitialAndFloorGas} {result : FrameResult}

/-- The nonce of the caller after a single frame. -/
theorem nonce_of_mainnet_execution (hphases : inner.KeepsNonces) (hframes : inner.FrameNonces)
    (h : inner.execution gas ctx = .ok result ctx') :
    let before := (ctx.journal.nonce ctx.tx.inner.caller).toNat
    let after := (ctx'.journal.nonce ctx.tx.inner.caller).toNat
    (ctx.tx.inner.kind.isCreate = false → before ≤ after) ∧
      (ctx.tx.inner.kind.isCreate = true →
        (ctx.tx.inner.value.toNat ≤ (ctx.journal.balance ctx.tx.inner.caller).toNat →
          min (before + 1) (2 ^ 64 - 1) ≤ after) ∧
        ((ctx.journal.balance ctx.tx.inner.caller).toNat < ctx.tx.inner.value.toNat →
          after = before)) := by
  obtain ⟨init, ctx₁, frame, ctx₂, hinit, hloop, hlast⟩ := mainnet_execution_eq_ok h
  obtain ⟨hcaller, hkind, hvalue⟩ := hframes.input _ _ _ _ _ hinit
  -- the phases around the frame do not count, so the frame decides
  rw [← hcaller, ← hkind, ← hvalue, hphases.lastFrameResult _ _ _ _ hlast,
    ← (hphases.firstFrameInput _ _).1 _ _ _ hinit, ← (hphases.firstFrameInput _ _).2 _ _ _ hinit]
  cases hk : init.kind with
  | call dest =>
    exact ⟨fun _ => hframes.call _ _ _ _ (by rw [hk]; rfl) hloop, nofun⟩
  | create =>
    refine ⟨nofun, fun _ => ⟨fun hfunds => ?_, fun hfunds => ?_⟩⟩
    · exact hframes.create _ _ _ _ hk hfunds hloop
    · rw [(hframes.createWithoutFunds _ _ _ _ hk hfunds hloop).2]

/-- A failed batch is counted once. -/
theorem nonce_reverted (baseTx : EvTxEnv) (firstIsCreate : Bool) (entry : Ctx)
    (hloads : ctx.journal.dbError baseTx.inner.caller = none)
    (hmax : (entry.journal.nonce baseTx.inner.caller).toNat < 2 ^ 64 - 1) :
    ((reverted baseTx firstIsCreate entry ctx).journal.nonce baseTx.inner.caller).toNat =
      (entry.journal.nonce baseTx.inner.caller).toNat + if firstIsCreate then 1 else 0 := by
  unfold reverted
  cases firstIsCreate with
  | false => rfl
  | true =>
    -- the revert undoes what the frames did to the nonce
    have hrestored : (ctx.journal.checkpointRevert entry.journal.checkpoint).nonce
        baseTx.inner.caller = entry.journal.nonce baseTx.inner.caller := rfl
    have hone : (1 : U64).toNat = 1 := by decide
    simp only [hloads, Option.isNone_none, Bool.and_self, if_true, Journal.bumpNonce,
      Journal.nonce_setNonce, hrestored, BitVec.toNat_saturatingAdd, hone]
    omega

/-- The nonce of the caller after a batch: a batch that fails has spent exactly the nonce of its
first call, a batch that succeeds at least that. -/
theorem nonce_of_batch (henv : inner.KeepsEnvironment) (hphases : inner.KeepsNonces)
    (hframes : inner.FrameNonces) {first second : Call} {rest : List Call}
    (hcalls : ctx.tx.batchCalls = some (first :: second :: rest))
    (hloads : ctx.journal.dbError ctx.tx.inner.caller = none)
    (hmax : (ctx.journal.nonce ctx.tx.inner.caller).toNat < 2 ^ 64 - 1)
    (h : execution inner gas ctx = .ok result ctx') :
    let spent :=
      (ctx.journal.nonce ctx.tx.inner.caller).toNat + if first.dest.isCreate then 1 else 0
    spent ≤ (ctx'.journal.nonce ctx.tx.inner.caller).toNat ∧
      (result.result.isOk = false → (ctx'.journal.nonce ctx.tx.inner.caller).toNat = spent) := by
  rw [execution_eq_batchLoop hcalls] at h
  rcases batchLoop_cases h nofun with
    ⟨results, r, hruns, hoks, hok, rfl⟩ |
      ⟨before, call, after, results, failed, ctx₁, -, hruns, -, -, rfl, -⟩
  · refine ⟨?_, fun hfail => by rw [show r.result.isOk = false from hfail] at hok; cases hok⟩
    cases hruns with
    | cons hrun hrest =>
      have hstep := nonce_of_runCall hphases hframes hrun
      have hrun := hrest.nonce_le hphases hframes
      cases hdest : first.dest with
      | call dest => exact hstep.1.trans hrun
      -- the first call has succeeded, so it has spent its nonce
      | create =>
        have hspent := hstep.2 hdest (hoks _ List.mem_cons_self)
        simp only [TxKind.isCreate, if_true]
        omega
  -- the caller can still be loaded, so the increment by hand is made
  · have hdb : ctx₁.journal.dbError ctx.tx.inner.caller = none := by
      rw [hruns.dbError_eq fun _ _ _ _ _ _ h => dbError_of_runCall henv hframes h]
      exact hloads
    have hnonce := nonce_reverted ctx.tx first.dest.isCreate ctx hdb hmax
    exact ⟨hnonce.ge, fun _ => hnonce⟩

end Execution

/-! ## After execution -/

/-- The reimbursement changes no nonce. -/
theorem sameNonces_reimburseCaller (hphases : inner.KeepsNonces) (result : FrameResult) :
    SameNonces (reimburseCaller inner result) := by
  intro ctx _ ctx' h addr
  cases hsponsor : ctx.tx.sponsor with
  | none =>
    rw [reimburseCaller_normal inner result ctx hsponsor] at h
    exact hphases.reimburseCaller _ _ _ _ h addr
  | some sponsor =>
    rw [reimburseCaller_eq_ok hsponsor h]
    exact Journal.nonce_setBalance _ _ _ _

/-- The redirected base fee changes no nonce. -/
theorem nonce_redirected (gasUsed : U64) (addr : Address) :
    (self.redirected ctx gasUsed).journal.nonce addr = ctx.journal.nonce addr := by
  unfold redirected BaseFeeRedirect.credited
  cases self.redirect with
  | none => rfl
  | some redirect =>
    simp only
    split_ifs
    · rfl
    · exact Journal.nonce_incrBalance _ _ _ _

theorem sameNonces_rewardBeneficiary (hphases : inner.KeepsNonces) (result : FrameResult) :
    SameNonces (self.rewardBeneficiary inner result) := by
  intro ctx _ ctx' h addr
  rw [hphases.rewardBeneficiary _ _ _ _ (rewardBeneficiary_eq_ok h), nonce_redirected]

/-- The phases after execution keep the nonces. -/
theorem RunTrace.nonce_eq (hphases : inner.KeepsNonces) {out : ExecutionResult}
    (t : RunTrace self inner ctx out ctx') (addr : Address) :
    ctx'.journal.nonce addr = t.exit.journal.nonce addr := by
  rw [hphases.executionResult _ _ _ _ _ t.hResult,
    sameNonces_rewardBeneficiary hphases _ _ _ _ t.hReward,
    sameNonces_reimburseCaller hphases _ _ _ _ t.hReimburse]

/-- They report the status of the frame. -/
theorem RunTrace.result_eq (hstatus : inner.KeepsStatus) {out : ExecutionResult}
    (t : RunTrace self inner ctx out ctx') : out.result = t.execResult.result := by
  rw [hstatus.executionResult _ _ _ _ _ t.hResult, t.hBilled, hstatus.eip7623CheckGasFloor,
    hstatus.refund]

/-! ## The whole transaction -/

/-- The transaction of `ctx`, run to `out` and `ctx'`, has consumed its nonce: the caller's nonce is
higher, by exactly one after a failed batch, and no later state accepts the transaction again. -/
def ConsumesNonce (self : EvHandler) (inner : Mainnet) (ctx : Ctx) (out : ExecutionResult)
    (ctx' : Ctx) : Prop :=
  let before := (ctx.journal.nonce ctx.tx.inner.caller).toNat
  let after := (ctx'.journal.nonce ctx.tx.inner.caller).toNat
  before + 1 ≤ after ∧ (ctx.tx.IsBatch → out.result.isOk = false → after = before + 1) ∧
    ∀ later : Ctx, later.tx = ctx.tx → later.cfg.isNonceCheckDisabled = false →
      after ≤ (later.journal.nonce ctx.tx.inner.caller).toNat →
      ∀ out' later', self.run inner later ≠ .ok out' later'

/-- A state in which the caller's nonce is higher does not accept the transaction. -/
theorem not_accepted_again (henv : inner.KeepsEnvironment) (hphases : inner.KeepsNonces)
    {later later' : Ctx} {out : ExecutionResult}
    (hnonceCheck : later.cfg.isNonceCheckDisabled = false)
    (hnonce : later.tx.inner.nonce.toNat < (later.journal.nonce later.tx.inner.caller).toNat) :
    self.run inner later ≠ .ok out later' := by
  intro hrun
  obtain ⟨gas, refund, result, ctx₁, ctx₂, hpre, -, -⟩ := run_eq_ok hrun
  rw [txNonce_of_preExecution henv hphases hnonceCheck hpre] at hnonce
  exact lt_irrefl _ hnonce

/-- The caller's nonce after a transaction. It is not higher exactly for a single creation whose
caller sponsors itself without the funds for gas and value together. -/
theorem nonce_of_run (henv : inner.KeepsEnvironment) (hphases : inner.KeepsNonces)
    (hframes : inner.FrameNonces) (hstatus : inner.KeepsStatus) (hbuilt : ctx.tx.Built)
    (hbalanceCheck : ctx.cfg.isBalanceCheckDisabled = false)
    (hmax : (ctx.journal.nonce ctx.tx.inner.caller).toNat < 2 ^ 64 - 2) {out : ExecutionResult}
    (hrun : self.run inner ctx = .ok out ctx') :
    let before := (ctx.journal.nonce ctx.tx.inner.caller).toNat
    let after := (ctx'.journal.nonce ctx.tx.inner.caller).toNat
    (ctx.tx.IsBatch → before + 1 ≤ after ∧ (out.result.isOk = false → after = before + 1)) ∧
      (¬ ctx.tx.IsBatch →
        (before + 1 ≤ after ↔ ¬ (ctx.tx.inner.kind = .create ∧ ShortSelfSponsor ctx))) := by
  obtain ⟨t⟩ := runTrace_of_ok hrun
  have hexec := t.hExec
  have hentry := entry_of_preExecution henv hphases hbalanceCheck hbuilt.batchTotalValue_eq hmax
    t.hPre
  have htx := hentry.sameEnv.tx
  simp only [t.nonce_eq hphases, t.result_eq hstatus]
  constructor
  · rintro ⟨calls, hcalls, hlen⟩
    match calls, hlen with
    | first :: second :: rest, _ =>
      have hbefore := hentry.nonce_eq (hbuilt.txType_ne_eip7702 (.inl (by rw [hcalls]; rfl)))
      -- a batch gets its increment before the frames or with its first call, never twice
      have hkind : bumpBeforeFrames ctx + (if first.dest.isCreate then 1 else 0) = 1 := by
        unfold bumpBeforeFrames
        rw [hbuilt.kind_eq hcalls]
        cases first.dest.isCreate <;> rfl
      have hcalls₁ : t.entry.tx.batchCalls = some (first :: second :: rest) := by
        rw [htx]
        exact hcalls
      have hbatch := nonce_of_batch henv hphases hframes hcalls₁ (by rw [htx]; exact hentry.loads)
        (by rw [htx]; omega) hexec
      rw [htx] at hbatch
      simp only at hbatch
      exact ⟨by omega, fun hfail => by have := hbatch.2 hfail; omega⟩
  · intro hsingle
    rw [execution_eq_of_not_batch _ (batchCalls_ne_nil henv t.hPre) (by rwa [htx])] at hexec
    obtain ⟨hcall, hcreate⟩ := nonce_of_mainnet_execution hphases hframes hexec
    rw [htx] at hcall hcreate
    have hle := hentry.nonce_le
    have hvalue := hentry.value_le
    unfold bumpBeforeFrames at hle
    cases hkind : ctx.tx.inner.kind with
    | call dest =>
      have hmono := hcall (by rw [hkind]; rfl)
      rw [hkind] at hle
      simp only [TxKind.isCreate, Bool.false_eq_true, if_false] at hle
      simp only [reduceCtorEq, false_and, not_false_eq_true, iff_true]
      omega
    | create =>
      obtain ⟨hfunds, hshort⟩ := hcreate (by rw [hkind]; rfl)
      -- a single creation: its frame decides
      by_cases h : ShortSelfSponsor ctx
      · have hbefore := hentry.nonce_eq (hbuilt.txType_ne_eip7702 (.inr (by rw [h.1]; rfl)))
        have hafter := hshort (by simpa [h] using hvalue)
        unfold bumpBeforeFrames at hbefore
        simp only [hkind, TxKind.isCreate, if_true] at hbefore
        simp only [h, and_self, not_true_eq_false, iff_false]
        omega
      · have hafter := hfunds (hvalue.mpr h)
        simp only [h, and_false, not_false_eq_true, iff_true]
        omega

/-- Every transaction that runs to a result consumes its nonce, except a single contract creation
whose caller is its own sponsor and has the funds for gas and for the value, but not for both. The
creation then fails for lack of funds without spending the nonce. -/
theorem consumesNonce_iff (self : EvHandler) (inner : Mainnet) (ctx ctx' : Ctx)
    (out : ExecutionResult) (henv : inner.KeepsEnvironment) (hphases : inner.KeepsNonces)
    (hframes : inner.FrameNonces)
    (hstatus : inner.KeepsStatus) (hbuilt : ctx.tx.Built)
    (hnonceCheck : ctx.cfg.isNonceCheckDisabled = false)
    (hbalanceCheck : ctx.cfg.isBalanceCheckDisabled = false)
    (hmax : (ctx.journal.nonce ctx.tx.inner.caller).toNat < 2 ^ 64 - 2)
    (hrun : self.run inner ctx = .ok out ctx') :
    self.ConsumesNonce inner ctx out ctx' ↔
      ¬ (¬ ctx.tx.IsBatch ∧ ctx.tx.inner.kind = .create ∧ ShortSelfSponsor ctx) := by
  obtain ⟨hbatch, hsingle⟩ :=
    nonce_of_run henv hphases hframes hstatus hbuilt hbalanceCheck hmax hrun
  constructor
  · rintro ⟨hspent, -, -⟩ ⟨hnot, hbad⟩
    exact (hsingle hnot).mp hspent hbad
  · intro hgood
    have hspent : (ctx.journal.nonce ctx.tx.inner.caller).toNat + 1 ≤
        (ctx'.journal.nonce ctx.tx.inner.caller).toNat := by
      by_cases hb : ctx.tx.IsBatch
      · exact (hbatch hb).1
      · exact (hsingle hb).mpr fun hbad => hgood ⟨hb, hbad⟩
    refine ⟨hspent, fun hb => (hbatch hb).2, fun later htx hcheck hlater out' later' => ?_⟩
    -- the nonce of the transaction is the one it found, which later states have passed
    obtain ⟨gas, refund, result, ctx₁, ctx₂, hpre, -, -⟩ := run_eq_ok hrun
    have hnonce := txNonce_of_preExecution henv hphases hnonceCheck hpre
    refine not_accepted_again henv hphases hcheck ?_
    rw [htx, hnonce]
    omega

/-- A creation by `0xCA` that sends `700000` wei and is sponsored by the given account. -/
def sponsoredCreate (sponsor : Address) : Ctx :=
  { block := { number := 1, beneficiary := 0xBE, basefee := 1 }
    tx := EvTxEnv.fromEvNode (fun _ _ _ => some sponsor)
      { chainId := 1
        nonce := 0
        maxPriorityFeePerGas := 1
        maxFeePerGas := 2
        gasLimit := 200000
        calls := [⟨.create, 700000, []⟩]
        accessList := []
        feePayerSignature := some ⟨1, 1, false⟩ } 0xCA
    journal := (Transfers.funded 1000000).setBalance 0x5A 1000000 }

/-- Sponsored by another account, the creation consumes the nonce of its caller. -/
theorem consumesNonce_sponsoredCreate :
    ∃ out ctx', EvHandler.run ⟨none, none⟩ Transfers.mainnetOfCA (sponsoredCreate 0x5A) =
        .ok out ctx' ∧
      EvHandler.ConsumesNonce ⟨none, none⟩ Transfers.mainnetOfCA (sponsoredCreate 0x5A) out
        ctx' := by
  have hrun : ∃ out ctx', EvHandler.run ⟨none, none⟩ Transfers.mainnetOfCA (sponsoredCreate 0x5A) =
      .ok out ctx' := ⟨_, _, rfl⟩
  obtain ⟨out, ctx', hrun⟩ := hrun
  have hbuilt : (sponsoredCreate 0x5A).tx.Built := by
    dsimp only [sponsoredCreate]
    exact .fromEvNode _ _ _
  refine ⟨out, ctx', hrun, (consumesNonce_iff _ Transfers.mainnetOfCA _ ctx' out
    (Transfers.keepsEnvironment _) (Transfers.keepsNonces _) (Transfers.frameNonces _)
    (Transfers.keepsStatus _) hbuilt rfl rfl (by decide) hrun).mpr ?_⟩
  rintro ⟨-, -, hself, -⟩
  exact absurd hself (by decide)

/-- Sponsored by its caller, who cannot pay gas and value together, the creation returns a result
and leaves the nonce as it was. -/
theorem nonce_not_consumed_selfSponsored :
    ∃ out ctx', EvHandler.run ⟨none, none⟩ Transfers.mainnetOfCA (sponsoredCreate 0xCA) =
        .ok out ctx' ∧
      ctx'.journal.nonce 0xCA = (sponsoredCreate 0xCA).journal.nonce 0xCA ∧
      ¬ EvHandler.ConsumesNonce ⟨none, none⟩ Transfers.mainnetOfCA (sponsoredCreate 0xCA) out
        ctx' := by
  have hrun : ∃ out ctx', EvHandler.run ⟨none, none⟩ Transfers.mainnetOfCA (sponsoredCreate 0xCA) =
      .ok out ctx' ∧ ctx'.journal.nonce 0xCA = (sponsoredCreate 0xCA).journal.nonce 0xCA :=
    ⟨_, _, rfl, by decide⟩
  obtain ⟨out, ctx', hrun, hnonce⟩ := hrun
  refine ⟨out, ctx', hrun, hnonce, ?_⟩
  rintro ⟨hspent, -, -⟩
  change _ ≤ (ctx'.journal.nonce 0xCA).toNat at hspent
  rw [hnonce] at hspent
  exact absurd hspent (by decide)

end EvHandler

end EvReth
