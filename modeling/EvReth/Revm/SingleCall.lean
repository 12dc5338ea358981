import EvReth.Revm.Handler.Inspect
import EvReth.Revm.Recovered

/-!
# EvNode transactions with one call

An EvNode transaction with one call and no sponsor is an EIP-1559 transaction: `EvHandler` takes
different branches for the two and does the same. revm reads a transaction through its `TxEnv`, and
`from_recovered_tx` (`crates/ev-revm/src/tx_env.rs`) builds the same one for both.
-/

namespace EvReth

open EStateM

/-! ## What revm reads of a transaction -/

/-- The contexts hold `a` and `b`, and are the same otherwise. -/
structure Ctx.Swapped (a b : EvTxEnv) (ctx ctx' : Ctx) : Prop where
  tx_eq : ctx.tx = a
  eq : ctx' = { ctx with tx := b }

/-- The phase runs alike on transactions with the same `TxEnv`. -/
def ReadsInner {α : Type} (x : HandlerM α) : Prop :=
  ∀ a b : EvTxEnv, a.inner = b.inner → RunsAlike (Ctx.Swapped a b) x x

/-- revm reads a transaction through its `TxEnv`, and leaves it where it is. -/
structure Mainnet.ReadsInner (inner : Mainnet) : Prop where
  validateEnv : EvReth.ReadsInner inner.validateEnv
  validateInitialTxGas : EvReth.ReadsInner inner.validateInitialTxGas
  loadAccounts : EvReth.ReadsInner inner.loadAccounts
  applyEip7702AuthList : ∀ gas, EvReth.ReadsInner (inner.applyEip7702AuthList gas)
  firstFrameInput : ∀ g r, EvReth.ReadsInner (inner.firstFrameInput g r)
  runExecLoop : ∀ init, EvReth.ReadsInner (inner.runExecLoop init)
  lastFrameResult : ∀ result, EvReth.ReadsInner (inner.lastFrameResult result)
  refund : ∀ ctx tx, tx.inner = ctx.tx.inner → inner.refund { ctx with tx } = inner.refund ctx
  eip7623CheckGasFloor : ∀ ctx tx, tx.inner = ctx.tx.inner →
    inner.eip7623CheckGasFloor { ctx with tx } = inner.eip7623CheckGasFloor ctx
  reimburseCaller : ∀ result, EvReth.ReadsInner (inner.reimburseCaller result)
  rewardBeneficiary : ∀ gas, EvReth.ReadsInner (inner.rewardBeneficiary gas)
  executionResult : ∀ result gas, EvReth.ReadsInner (inner.executionResult result gas)

/-- A phase that reads the `TxEnv` only leaves the transaction where it is. -/
theorem ReadsInner.keeps_tx {α : Type} {x : HandlerM α} (h : ReadsInner x) : Keeps Ctx.tx x := by
  intro ctx
  have hrun := h ctx.tx ctx.tx rfl ctx ctx ⟨rfl, rfl⟩
  cases hx : x ctx with
  | ok a ctx' =>
    rw [hx] at hrun
    exact hrun.2.tx_eq
  | error e ctx' =>
    rw [hx] at hrun
    exact hrun.2.tx_eq

/-- What works on the journal does not see the transaction. -/
theorem runsAlike_onJournal {α : Type} {a b : EvTxEnv} (x : JournalM α) :
    RunsAlike (Ctx.Swapped a b) (onJournal x) (onJournal x) := by
  rintro ctx _ ⟨rfl, rfl⟩
  simp only [onJournal]
  cases x ctx.journal with
  | ok _ j => exact ⟨rfl, rfl, rfl⟩
  | error e j => exact ⟨rfl, rfl, rfl⟩

/-- A transaction without sponsor and with at most one call. -/
structure EvTxEnv.IsPlain (tx : EvTxEnv) : Prop where
  sponsor_eq : tx.sponsor = none
  signature_valid : tx.sponsorSignatureInvalid = false
  calls_eq : tx.batchCalls = none ∨ ∃ call, tx.batchCalls = some [call]

namespace EvHandler

variable {self : EvHandler} {inner : Mainnet} {ctx : Ctx} {a b : EvTxEnv}

/-- The initial gas of a plain transaction is checked by revm. -/
theorem validateInitialTxGas_of_isPlain (h : ctx.tx.IsPlain) :
    validateInitialTxGas inner ctx = inner.validateInitialTxGas ctx := by
  refine bind_get.trans ?_
  rcases h.calls_eq with hcalls | ⟨call, hcalls⟩
  · simp only [hcalls]
  · simp only [hcalls]
    rfl

/-- A plain transaction is executed by revm. -/
theorem execution_of_isPlain (h : ctx.tx.IsPlain) (gas : InitialAndFloorGas) :
    execution inner gas ctx = inner.execution gas ctx := by
  have hcalls : ∀ calls, ctx.tx.batchCalls = some calls → calls.length = 1 := by
    intro calls hsome
    rcases h.calls_eq with hnone | ⟨call, hone⟩
    · cases hnone.symm.trans hsome
    · obtain rfl := Option.some.inj (hone.symm.trans hsome)
      rfl
  refine execution_eq_of_not_batch gas (fun hnil => ?_) fun ⟨calls, hsome, hlen⟩ => ?_
  · cases hcalls [] hnil
  · rw [hcalls calls hsome] at hlen
    omega

section Alike

variable (hinner : inner.ReadsInner) (htx : a.inner = b.inner)
include hinner htx

/-- The one frame of a transaction, in any frame loop that reads the `TxEnv` only. -/
theorem runsAlike_mainnet_execution {frames : FrameInit → HandlerM FrameResult}
    (hframes : ∀ init, ReadsInner (frames init)) (gas : InitialAndFloorGas) :
    RunsAlike (Ctx.Swapped a b) (Mainnet.execution { inner with runExecLoop := frames } gas)
      (Mainnet.execution { inner with runExecLoop := frames } gas) := by
  refine RunsAlike.get_bind ?_
  rintro ctx _ ⟨rfl, rfl⟩
  simp only [htx]
  refine ((hinner.firstFrameInput _ _ _ _ htx).bind fun init => ?_) _ _ ⟨rfl, rfl⟩
  exact (hframes init _ _ htx).bind fun result => hinner.lastFrameResult result _ _ htx

/-- The reward does not see which of the two transactions it is for. -/
theorem runsAlike_rewardBeneficiary (result : FrameResult) :
    RunsAlike (Ctx.Swapped a b) (self.rewardBeneficiary inner result)
      (self.rewardBeneficiary inner result) := by
  have hreward := hinner.rewardBeneficiary result.gas _ _ htx
  -- the redirect looks at the block only
  have happly (redirect : BaseFeeRedirect) (spent : U64) :
      RunsAlike (Ctx.Swapped a b) (redirect.apply spent) (redirect.apply spent) := by
    refine RunsAlike.get_bind ?_
    rintro ctx _ ⟨rfl, rfl⟩
    simp only
    split_ifs
    · exact runsAlike_pure _ _ ⟨rfl, rfl⟩
    · exact runsAlike_pure _ _ ⟨rfl, rfl⟩
    · exact runsAlike_onJournal _ _ _ ⟨rfl, rfl⟩
  unfold rewardBeneficiary
  cases self.redirect with
  | none => exact hreward
  | some redirect =>
    simp only
    split_ifs
    · exact (happly _ _).bind fun _ => hreward
    · exact hreward

variable (ha : a.IsPlain) (hb : b.IsPlain)
include ha hb

theorem runsAlike_validateInitialTxGas :
    RunsAlike (Ctx.Swapped a b) (validateInitialTxGas inner) (validateInitialTxGas inner) := by
  rintro ctx _ ⟨rfl, rfl⟩
  rw [validateInitialTxGas_of_isPlain ha, validateInitialTxGas_of_isPlain hb]
  exact hinner.validateInitialTxGas _ _ htx _ _ ⟨rfl, rfl⟩

omit hinner in
theorem runsAlike_validateAgainstState :
    RunsAlike (Ctx.Swapped a b) self.validateAgainstStateAndDeductCaller
      self.validateAgainstStateAndDeductCaller := by
  rintro ctx _ ⟨rfl, rfl⟩
  -- both checks look at the same `TxEnv`
  have hdenied : self.DeployDenied { ctx with tx := b } ↔ self.DeployDenied ctx := by
    simp only [DeployDenied, htx]
  have hdeduct : deduct { ctx with tx := b } = deduct ctx := by
    simp only [deduct, ha.sponsor_eq, hb.sponsor_eq, htx]
  rw [validateAgainstStateAndDeductCaller_eq, validateAgainstStateAndDeductCaller_eq]
  by_cases hcase : self.DeployDenied ctx
  · rw [if_pos hcase, if_pos (hdenied.mpr hcase)]
    exact ⟨rfl, rfl, rfl⟩
  · rw [if_neg hcase, if_neg (mt hdenied.mp hcase), if_neg (by simp [ha.signature_valid]),
      if_neg (by simp [hb.signature_valid]), hdeduct]
    exact runsAlike_onJournal _ _ _ ⟨rfl, rfl⟩

/-- The phases before the frames do not see which of the two transactions they run. -/
theorem runsAlike_preExecution :
    RunsAlike (Ctx.Swapped a b) (self.preExecution inner) (self.preExecution inner) := by
  refine (hinner.validateEnv _ _ htx).bind fun _ => ?_
  refine (runsAlike_validateInitialTxGas hinner htx ha hb).bind fun gas => ?_
  refine (runsAlike_validateAgainstState htx ha hb).bind fun _ => ?_
  refine (hinner.loadAccounts _ _ htx).bind fun _ => ?_
  exact (hinner.applyEip7702AuthList gas _ _ htx).bind fun _ => runsAlike_pure

theorem runsAlike_execution (gas : InitialAndFloorGas) :
    RunsAlike (Ctx.Swapped a b) (execution inner gas) (execution inner gas) := by
  rintro ctx _ ⟨rfl, rfl⟩
  rw [execution_of_isPlain ha, execution_of_isPlain hb]
  exact runsAlike_mainnet_execution hinner htx hinner.runExecLoop gas _ _ ⟨rfl, rfl⟩

theorem runsAlike_reimburseCaller (result : FrameResult) :
    RunsAlike (Ctx.Swapped a b) (reimburseCaller inner result) (reimburseCaller inner result) := by
  rintro ctx _ ⟨rfl, rfl⟩
  rw [reimburseCaller_normal inner result ctx ha.sponsor_eq,
    reimburseCaller_normal inner result _ hb.sponsor_eq]
  exact hinner.reimburseCaller result _ _ htx _ _ ⟨rfl, rfl⟩

/-- The phases behind the frames do not see which of the two transactions they run. -/
theorem runsAlike_postExecution (gas : InitialAndFloorGas) (refund : U64) (result : FrameResult) :
    RunsAlike (Ctx.Swapped a b) (self.postExecution inner gas refund result)
      (self.postExecution inner gas refund result) := by
  rintro ctx _ ⟨rfl, rfl⟩
  -- the context is read for refund and floor, and both see the same `TxEnv`
  have hpost (c : Ctx) : self.postExecution inner gas refund result c =
      (reimburseCaller inner (inner.eip7623CheckGasFloor c (inner.refund c result refund) gas) >>=
        fun _ => self.rewardBeneficiary inner
          (inner.eip7623CheckGasFloor c (inner.refund c result refund) gas) >>=
        fun _ => inner.executionResult
          (inner.eip7623CheckGasFloor c (inner.refund c result refund) gas)
          (inner.buildResultGas (inner.refund c result refund).gas gas)) c := rfl
  rw [hpost, hpost, hinner.refund ctx b htx.symm, hinner.eip7623CheckGasFloor ctx b htx.symm]
  refine ((runsAlike_reimburseCaller hinner htx ha hb _).bind fun _ => ?_) _ _ ⟨rfl, rfl⟩
  exact (runsAlike_rewardBeneficiary hinner htx _).bind fun _ =>
    hinner.executionResult _ _ _ _ htx

/-- Two transactions with the same `TxEnv` and at most one call have the same outcome. -/
theorem agree_of_runsAlike {exec : InitialAndFloorGas → HandlerM FrameResult}
    (hexec : ∀ gas, RunsAlike (Ctx.Swapped a b) (exec gas) (exec gas)) (ctx : Ctx) :
    Agree (catchError (self.runWith inner exec) { ctx with tx := a })
      (catchError (self.runWith inner exec) { ctx with tx := b }) := by
  -- phase by phase; the errors that are caught at the end are equal, too
  have hrun : RunsAlike (Ctx.Swapped a b) (self.runWith inner exec) (self.runWith inner exec) :=
    (runsAlike_preExecution hinner htx ha hb).bind fun _ =>
      (hexec _).bind fun result => runsAlike_postExecution hinner htx ha hb _ _ result
  have hout := hrun { ctx with tx := a } { ctx with tx := b } ⟨rfl, rfl⟩
  unfold catchError
  generalize self.runWith inner exec { ctx with tx := a } = out at *
  generalize self.runWith inner exec { ctx with tx := b } = out' at *
  cases out with
  | ok r c =>
    cases out' with
    | ok r' c' => exact ⟨hout.1, by rw [hout.2.eq]⟩
    | error e c' => exact hout
  | error e c =>
    cases out' with
    | ok r' c' => exact hout
    | error e' c' => exact ⟨hout.1, rfl⟩

end Alike

end EvHandler

/-! ## EIP-1559 -/

/-- `TxEip1559`. -/
structure TxEip1559 where
  chainId : U64
  nonce : U64
  gasLimit : U64
  maxFeePerGas : U128
  maxPriorityFeePerGas : U128
  dest : TxKind
  value : U256
  accessList : AccessList
  input : Bytes
  deriving DecidableEq, Repr

/-- `from_recovered_tx` of alloy, for an EIP-1559 transaction. -/
def TxEip1559.toTxEnv (self : TxEip1559) (sender : Address) : TxEnv :=
  { txType := .eip1559
    caller := sender
    gasLimit := self.gasLimit
    gasPrice := self.maxFeePerGas
    kind := self.dest
    value := self.value
    data := self.input
    nonce := self.nonce
    chainId := some self.chainId
    gasPriorityFee := some self.maxPriorityFeePerGas
    accessList := self.accessList }

/-- The environment of an EIP-1559 transaction has its fields. -/
def EthereumSupport.ConvertsEip1559 {Payload : TxType → Type} (eth : EthereumSupport Payload)
    (fields : Payload .eip1559 → TxEip1559) : Prop :=
  ∀ payload signature sender,
    eth.toTxEnv ⟨.eip1559, payload, signature⟩ sender = (fields payload).toTxEnv sender

/-- The EIP-1559 transaction that makes one call with the fields of an EvNode transaction. -/
def EvNodeTransaction.asEip1559 (self : EvNodeTransaction) (call : Call) : TxEip1559 :=
  { chainId := self.chainId
    nonce := self.nonce
    gasLimit := self.gasLimit
    maxFeePerGas := self.maxFeePerGas
    maxPriorityFeePerGas := self.maxPriorityFeePerGas
    dest := call.dest
    value := call.value
    accessList := self.accessList
    input := call.input }

section Eip1559

variable {Payload : TxType → Type} {eth : EthereumSupport Payload} {crypto : Crypto}
  {tx : EvNodeTransaction} {call : Call} {signature : Signature} {sender : Address}

theorem isPlain_new (env : TxEnv) : (EvTxEnv.new env).IsPlain := ⟨rfl, rfl, .inl rfl⟩

/-- An unsponsored transaction with one call is plain. -/
theorem isPlain_fromRecoveredTx (hcalls : tx.calls = [call])
    (hsponsor : tx.feePayerSignature = none) :
    (EvTxEnv.fromRecoveredTx eth crypto (.evNode tx signature) sender).IsPlain := by
  refine ⟨?_, ?_, .inr ⟨call, congrArg some hcalls⟩⟩
  · simp only [EvTxEnv.fromRecoveredTx, EvTxEnv.fromEvNode, hsponsor]
  · simp only [EvTxEnv.fromRecoveredTx, EvTxEnv.fromEvNode, hsponsor]

theorem saturatingValueSum_singleton (call : Call) : saturatingValueSum [call] = call.value := by
  apply BitVec.eq_of_toNat_eq
  change ((0 : U256).saturatingAdd call.value).toNat = _
  have hlt := call.value.isLt
  rw [BitVec.toNat_saturatingAdd, show (0 : U256).toNat = 0 from rfl]
  omega

/-- An unsponsored transaction with one call is, to revm, an EIP-1559 transaction. -/
theorem inner_fromRecoveredTx (hcalls : tx.calls = [call]) :
    (EvTxEnv.fromRecoveredTx eth crypto (.evNode tx signature) sender).inner =
      (tx.asEip1559 call).toTxEnv sender := by
  simp [EvTxEnv.fromRecoveredTx, EvTxEnv.fromEvNode, TxEip1559.toTxEnv,
    EvNodeTransaction.asEip1559, EvNodeTransaction.kind, EvNodeTransaction.input,
    EvNodeTransaction.firstCall, hcalls, saturatingValueSum_singleton]

/-- An EvNode transaction with one call and without sponsor has the outcome of the EIP-1559
transaction with the same fields: the same error, or the same result and state, on every state,
under every policy, plain and inspected. -/
theorem single_call_agrees_with_eip1559 (self : EvHandler) (inner : Mainnet)
    (inspectRunExecLoop : FrameInit → HandlerM FrameResult) (hinner : inner.ReadsInner)
    (hframes : ∀ init, ReadsInner (inspectRunExecLoop init))
    (fields : Payload .eip1559 → TxEip1559) (heth : eth.ConvertsEip1559 fields)
    (hcalls : tx.calls = [call]) (hsponsor : tx.feePayerSignature = none)
    (payload : Payload .eip1559) (hfields : fields payload = tx.asEip1559 call)
    (signature' : Signature) (ctx : Ctx) :
    let evNode := EvTxEnv.fromRecoveredTx eth crypto (.evNode tx signature) sender
    let eip1559 :=
      EvTxEnv.fromRecoveredTx eth crypto (.ethereum ⟨.eip1559, payload, signature'⟩) sender
    Agree (self.transactOne inner evNode ctx) (self.transactOne inner eip1559 ctx) ∧
      Agree (self.inspectOneTx inner inspectRunExecLoop evNode ctx)
        (self.inspectOneTx inner inspectRunExecLoop eip1559 ctx) := by
  intro evNode eip1559
  have hplain : evNode.IsPlain := isPlain_fromRecoveredTx hcalls hsponsor
  have hplain' : eip1559.IsPlain := isPlain_new _
  -- revm sees the same fields in both
  have htx : evNode.inner = eip1559.inner := by
    change _ = eth.toTxEnv ⟨.eip1559, payload, signature'⟩ sender
    rw [heth payload signature' sender, hfields]
    exact inner_fromRecoveredTx hcalls
  constructor
  · exact EvHandler.agree_of_runsAlike hinner htx hplain hplain'
      (EvHandler.runsAlike_execution hinner htx hplain hplain') ctx
  · exact EvHandler.agree_of_runsAlike hinner htx hplain hplain'
      (EvHandler.runsAlike_mainnet_execution hinner htx hframes) ctx

end Eip1559

namespace Transfers

theorem readsInner_credit (addr : Address) (amount : U256) : ReadsInner (credit addr amount) :=
  fun _ _ _ => runsAlike_onJournal _

/-- The phases of payments look at no more of the transaction than revm shows them. -/
theorem readsInner (createAddress : Address → U64 → Address) :
    (mainnet createAddress).ReadsInner where
  validateEnv := fun _ _ _ => runsAlike_pure
  validateInitialTxGas := by
    rintro a b htx ctx _ ⟨rfl, rfl⟩
    exact ⟨congrArg (fun tx : TxEnv => initialGas tx.kind.isCreate) htx, rfl, rfl⟩
  loadAccounts := fun _ _ _ => runsAlike_pure
  applyEip7702AuthList := fun _ _ _ _ => runsAlike_pure
  firstFrameInput := by
    rintro g r a b htx ctx _ ⟨rfl, rfl⟩
    refine ⟨?_, rfl, rfl⟩
    simp only [htx]
  runExecLoop := by
    rintro init a b htx ctx _ ⟨rfl, rfl⟩
    exact ⟨rfl, rfl, rfl⟩
  lastFrameResult := by
    rintro result a b htx ctx _ ⟨rfl, rfl⟩
    refine ⟨?_, rfl, rfl⟩
    simp only [htx]
  refund := fun _ _ _ => rfl
  eip7623CheckGasFloor := fun _ _ _ => rfl
  -- these two read the price from the transaction and then credit an account
  reimburseCaller := by
    intro result a b htx
    refine RunsAlike.get_bind ?_
    rintro ctx _ ⟨rfl, rfl⟩
    simp only [htx]
    exact readsInner_credit _ _ _ _ htx _ _ ⟨rfl, rfl⟩
  rewardBeneficiary := by
    intro gas a b htx
    refine RunsAlike.get_bind ?_
    rintro ctx _ ⟨rfl, rfl⟩
    simp only [htx]
    exact readsInner_credit _ _ _ _ htx _ _ ⟨rfl, rfl⟩
  executionResult := by
    rintro result gas a b htx ctx _ ⟨rfl, rfl⟩
    exact ⟨rfl, rfl, rfl⟩

end Transfers

/-- The support for transactions that are all EIP-1559 transactions. -/
def EthereumSupport.eip1559 : EthereumSupport fun _ => TxEip1559 :=
  { signingFields := fun _ _ => []
    typedDecode := fun _ => throw (.rlpError (.custom "unexpected tx type"))
    fallbackDecode := throw (.rlpError .unexpectedLength)
    toTxEnv := fun tx sender => tx.tx.toTxEnv sender
    kind := fun tx => tx.tx.dest
    gasLimit := fun tx => tx.tx.gasLimit
    blobGasUsed := fun _ => .none
    cost := fun tx => ((tx.tx.gasLimit.setWidth 256).saturatingMul
      (tx.tx.maxFeePerGas.setWidth 256)).saturatingAdd tx.tx.value }

/-- `0xCA` pays `1` wei to `0x01`. -/
def payOnce : EvNodeTransaction := { EvHandler.payTwice with calls := [⟨.call 0x01, 1, []⟩] }

open EvTxEnvelope (paymentCrypto unitSignature) in
/-- `payOnce` succeeds, as the EIP-1559 payment does. -/
theorem single_call_agrees_payOnce :
    let evNode :=
      EvTxEnv.fromRecoveredTx .eip1559 paymentCrypto (.evNode payOnce unitSignature) 0xCA
    let eip1559 := EvTxEnv.fromRecoveredTx .eip1559 paymentCrypto
      (.ethereum ⟨.eip1559, payOnce.asEip1559 ⟨.call 0x01, 1, []⟩, unitSignature⟩) 0xCA
    (∃ out ctx', EvHandler.transactOne ⟨none, none⟩ Transfers.mainnetOfCA evNode
        (EvHandler.fundedCtx payOnce) = .ok out ctx' ∧ out.result = .stop ∧
        out.gas.gasUsed = 21000) ∧
      Agree (EvHandler.transactOne ⟨none, none⟩ Transfers.mainnetOfCA evNode
          (EvHandler.fundedCtx payOnce))
        (EvHandler.transactOne ⟨none, none⟩ Transfers.mainnetOfCA eip1559
          (EvHandler.fundedCtx payOnce)) := by
  refine ⟨⟨_, _, rfl, rfl, by decide⟩, ?_⟩
  have hread : Transfers.mainnetOfCA.ReadsInner := Transfers.readsInner _
  exact (@single_call_agrees_with_eip1559 _ .eip1559 paymentCrypto payOnce ⟨.call 0x01, 1, []⟩
    unitSignature 0xCA ⟨none, none⟩ Transfers.mainnetOfCA Transfers.mainnetOfCA.runExecLoop hread
    hread.runExecLoop id (fun _ _ _ => rfl) rfl rfl (payOnce.asEip1559 ⟨.call 0x01, 1, []⟩) rfl
    unitSignature (EvHandler.fundedCtx payOnce)).1

end EvReth
