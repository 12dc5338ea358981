import EvReth.Node.TxPool
import EvReth.Revm.Handler.BatchGas

/-!
# Admission to the pool and execution in the next block

Two checks of the pool look at something else than the handler does in the block after the head:

* the deploy allowlist is consulted at the number of the head, so the pool still admits a deployment
  that the allowlist forbids from the next block on;
* the gas that a transaction needs before its execution is computed by reth's validator, which sees
  the first call of a batch.
-/

namespace EvReth

open EStateM

/-! ## The deploy allowlist -/

/-- What is relied on of revm: the environment of a standard transaction has its sender and its
kind. -/
structure EthereumSupport.CopiesKind {Payload : TxType → Type} (eth : EthereumSupport Payload) :
    Prop where
  caller : ∀ tx sender, (eth.toTxEnv tx sender).caller = sender
  kind : ∀ tx sender, (eth.toTxEnv tx sender).kind = eth.kind tx

/-- The settings forbid the caller to deploy in the block with a number. -/
def DeployAllowlistSettings.Forbids (settings : DeployAllowlistSettings) (caller : Address)
    (blockNumber : U64) : Prop :=
  settings.isActive blockNumber = true ∧ settings.isAllowed caller = false

/-- The gate refuses creations, by those whom the settings forbid them. -/
theorem checkDeployAllowed_ne_ok_iff {settings : Option DeployAllowlistSettings} {caller : Address}
    {isTopLevelCreate : Bool} {blockNumber : U64} :
    checkDeployAllowed settings caller isTopLevelCreate blockNumber ≠ .ok () ↔
      isTopLevelCreate = true ∧ ∃ s, settings = some s ∧ s.Forbids caller blockNumber := by
  unfold checkDeployAllowed DeployAllowlistSettings.Forbids
  cases isTopLevelCreate with
  | false => simp
  | true =>
    cases settings with
    | none => simp
    | some s =>
      cases s.isActive blockNumber <;> cases s.isAllowed caller <;> simp

namespace EvTransactionValidator

variable {Payload : TxType → Type} {self : EvTransactionValidator} {eth : EthereumSupport Payload}
  {crypto : Crypto} {pooled : EvPooledTransaction Payload} {state : Option StateReader}

/-- `is_top_level_create`, as `validate_evnode` computes it. -/
def isTopLevelCreate (eth : EthereumSupport Payload) : EvTxEnvelope Payload → Bool
  | .ethereum tx => (eth.kind tx).isCreate
  | .evNode tx _ => (tx.calls.head?.map (·.dest.isCreate)).getD false

/-- A standard transaction, or an EvNode transaction with at least one call. -/
def HasCall : EvTxEnvelope Payload → Prop
  | .ethereum _ => True
  | .evNode tx _ => tx.calls ≠ []

/-- The pool rejects a transaction as a deployment that is not allowed. -/
def RejectsDeploy (self : EvTransactionValidator) (eth : EthereumSupport Payload) (crypto : Crypto)
    (pooled : EvPooledTransaction Payload) (senderBalance : U256) (state : Option StateReader) :
    Prop :=
  ∃ state', self.validateEvnode eth crypto pooled senderBalance state =
    .error (.other .deployNotAllowed) state'

/-- The deploy check of the pool, at the number of the head. -/
theorem ensureDeployAllowed_eq {head : U64} (hhead : self.client.bestBlockNumber = .ok head) :
    self.ensureDeployAllowed eth pooled state =
      if checkDeployAllowed self.deployAllowlist pooled.signer
          (isTopLevelCreate eth pooled.transaction) head = .ok () then .ok () state
      else .error (.other .deployNotAllowed) state := by
  unfold ensureDeployAllowed
  -- without a list the head is not read
  cases self.deployAllowlist with
  | none => cases isTopLevelCreate eth pooled.transaction <;> rfl
  | some settings =>
    have hread : liftProvider self.client.bestBlockNumber state = .ok head state := by
      rw [hhead]
      rfl
    refine (bind_of_ok hread).trans ?_
    cases hcheck : checkDeployAllowed (some settings) pooled.signer
      (isTopLevelCreate eth pooled.transaction) head with
    | error e =>
      cases htx : pooled.transaction
      all_goals
        simp only [htx, isTopLevelCreate] at hcheck
        simp only [hcheck]
        rfl
    | ok _ =>
      cases htx : pooled.transaction
      all_goals
        simp only [htx, isTopLevelCreate] at hcheck
        simp only [hcheck]
        rfl

/-- The errors of the checks that follow the one of the allowlist. -/
def IsNotDeploy (e : InvalidPoolTransactionError) : Prop := e ≠ .other .deployNotAllowed

/-- An error of the provider is none of the gate. -/
theorem onlyThrows_liftProvider {α : Type} (x : Except String α) :
    OnlyThrows IsNotDeploy (liftProvider x) := by
  intro s e s' h
  cases x with
  | ok a => cases h
  | error msg =>
    cases h
    exact nofun

theorem onlyThrows_checkSenderOverdraft (senderBalance : U256) :
    OnlyThrows IsNotDeploy (checkSenderOverdraft eth pooled senderBalance) := by
  intro s e s' h
  rw [checkSenderOverdraft_eq] at h
  split_ifs at h
  cases h
  exact nofun

theorem onlyThrows_validateEvnodeCalls (tx : EvNodeTransaction) :
    OnlyThrows IsNotDeploy (validateEvnodeCalls tx) := by
  intro s e s' h
  rw [validateEvnodeCalls_eq] at h
  split_ifs at h
  · cases h
    exact nofun
  · cases h
    exact nofun

theorem onlyThrows_validateSponsorBalance (sponsor : Address) (gasCost : U256) :
    OnlyThrows IsNotDeploy (self.validateSponsorBalance sponsor gasCost) := by
  have hstate : OnlyThrows IsNotDeploy self.ensureState := by
    refine OnlyThrows.bind onlyThrows_get fun opened => ?_
    cases opened with
    | some reader => exact onlyThrows_pure
    | none =>
      refine OnlyThrows.bind (onlyThrows_liftProvider _) fun reader => ?_
      exact OnlyThrows.bind (fun _ _ _ h => nomatch h) fun _ => onlyThrows_pure
  refine OnlyThrows.bind hstate fun reader => ?_
  refine OnlyThrows.bind (onlyThrows_liftProvider _) fun account => ?_
  exact OnlyThrows.ite (OnlyThrows.bind (onlyThrows_throw nofun) fun _ => onlyThrows_pure)
    onlyThrows_pure

/-- Missing funds are no error of the gate. -/
theorem onlyThrows_validateEvnodeFunds (tx : EvNodeTransaction) (senderBalance : U256) :
    OnlyThrows IsNotDeploy (self.validateEvnodeFunds eth crypto pooled tx senderBalance) := by
  unfold validateEvnodeFunds
  cases tx.feePayerSignature with
  | none =>
    exact OnlyThrows.bind (onlyThrows_checkSenderOverdraft senderBalance) fun _ => onlyThrows_pure
  | some signature =>
    simp only
    cases tx.recoverSponsor crypto pooled.signer signature with
    | none => exact onlyThrows_throw nofun
    | some sponsor =>
      refine OnlyThrows.bind (onlyThrows_validateSponsorBalance _ _) fun _ => ?_
      exact OnlyThrows.ite (OnlyThrows.bind (onlyThrows_throw nofun) fun _ => onlyThrows_pure)
        onlyThrows_pure

/-- The pool rejects a deployment exactly if the allowlist forbids it at the head. -/
theorem rejectsDeploy_iff {head : U64} (hhead : self.client.bestBlockNumber = .ok head)
    (senderBalance : U256) :
    self.RejectsDeploy eth crypto pooled senderBalance state ↔
      isTopLevelCreate eth pooled.transaction = true ∧
        ∃ s, self.deployAllowlist = some s ∧ s.Forbids pooled.signer head := by
  have hdeploy := @ensureDeployAllowed_eq Payload self eth pooled state head hhead
  rw [← checkDeployAllowed_ne_ok_iff]
  by_cases hcheck : checkDeployAllowed self.deployAllowlist pooled.signer
      (isTopLevelCreate eth pooled.transaction) head = .ok ()
  · rw [if_pos hcheck] at hdeploy
    refine iff_of_false ?_ (not_not.mpr hcheck)
    rintro ⟨state', h⟩
    rw [validateEvnode, bind_of_ok hdeploy] at h
    -- no later check has this error
    cases htx : pooled.transaction with
    | ethereum tx =>
      rw [htx] at h
      exact OnlyThrows.bind (onlyThrows_checkSenderOverdraft senderBalance)
        (fun _ => onlyThrows_pure) _ _ _ h rfl
    | evNode tx signature =>
      rw [htx] at h
      exact OnlyThrows.bind (onlyThrows_validateEvnodeCalls tx)
        (fun _ => onlyThrows_validateEvnodeFunds tx senderBalance) _ _ _ h rfl
  · rw [if_neg hcheck] at hdeploy
    exact iff_of_true ⟨state, bind_of_error hdeploy⟩ hcheck

section Handler

variable {handler : EvHandler} {ctx : Ctx}

/-- The handler rejects a deployment exactly if the allowlist forbids it in the block. -/
theorem deployDenied_iff :
    handler.DeployDenied ctx ↔
      ctx.tx.inner.kind.isCreate = true ∧ ∃ s, handler.deployAllowlist = some s ∧
        s.Forbids ctx.tx.inner.caller (EvHandler.blockNumberU64 ctx.block) := by
  rw [EvHandler.DeployDenied, checkDeployAllowed_ne_ok_iff]
  simp only [EvHandler.deployAllowlistForBlock, Option.filter_eq_some_iff,
    DeployAllowlistSettings.Forbids, and_assoc, and_self_left]

/-- The handler refuses a deployment exactly if it is denied. -/
theorem ensureDeployAllowed_fails_iff :
    (∃ f ctx', handler.ensureDeployAllowed ctx = .error f ctx') ↔ handler.DeployDenied ctx := by
  rw [handler.ensureDeployAllowed_eq ctx]
  split_ifs with hdenied
  · exact iff_of_true ⟨_, _, rfl⟩ hdenied
  · refine iff_of_false ?_ hdenied
    rintro ⟨f, ctx', h⟩
    cases h

/-- Pool and handler take the same transactions for deployments, of the same caller. -/
theorem kind_fromRecoveredTx (heth : eth.CopiesKind) {tx : EvTxEnvelope Payload}
    (hcall : HasCall tx) (sender : Address) :
    (EvTxEnv.fromRecoveredTx eth crypto tx sender).inner.kind.isCreate = isTopLevelCreate eth tx ∧
      (EvTxEnv.fromRecoveredTx eth crypto tx sender).inner.caller = sender := by
  cases tx with
  | ethereum tx => exact ⟨congrArg TxKind.isCreate (heth.kind tx sender), heth.caller tx sender⟩
  | evNode tx signature =>
    obtain ⟨first, rest, hcalls⟩ := List.exists_cons_of_ne_nil hcall
    refine ⟨?_, rfl⟩
    change tx.kind.isCreate = (tx.calls.head?.map (·.dest.isCreate)).getD false
    simp [EvNodeTransaction.kind, EvNodeTransaction.firstCall, hcalls]

/-- A block number beyond `u64` counts as the largest one, at which all settings are active. -/
theorem isActive_blockNumberU64_iff {settings : DeployAllowlistSettings} {block : BlockEnv} :
    settings.isActive (EvHandler.blockNumberU64 block) = true ↔
      settings.activationHeight.toNat ≤ block.number.toNat := by
  have hheight := settings.activationHeight.isLt
  rw [DeployAllowlistSettings.isActive, EvHandler.blockNumberU64, decide_eq_true_eq]
  split_ifs with hfits
  · rw [BitVec.toNat_setWidth, Nat.mod_eq_of_lt hfits]
  · rw [BitVec.toNat_allOnes]
    omega

/-- Settings are active in the next block, and not yet at the head, if that is their height. -/
theorem isActive_next_iff {settings : DeployAllowlistSettings} {head : U64} {block : BlockEnv}
    (hnext : block.number.toNat = head.toNat + 1) :
    settings.isActive (EvHandler.blockNumberU64 block) = true ↔
      settings.isActive head = true ∨ settings.activationHeight.toNat = head.toNat + 1 := by
  rw [isActive_blockNumberU64_iff, DeployAllowlistSettings.isActive, decide_eq_true_eq]
  omega

/-- At a head, the pool rejects a deployment exactly if the handler rejects it in the next block,
unless the allowlist becomes active there and forbids it. -/
theorem rejectsDeploy_agrees_iff {head : U64} {senderBalance : U256}
    (hsame : handler.deployAllowlist = self.deployAllowlist)
    (hhead : self.client.bestBlockNumber = .ok head)
    (hnext : ctx.block.number.toNat = head.toNat + 1)
    (htx : ctx.tx = EvTxEnv.fromRecoveredTx eth crypto pooled.transaction pooled.signer)
    (heth : eth.CopiesKind) (hcall : HasCall pooled.transaction) :
    (self.RejectsDeploy eth crypto pooled senderBalance state ↔
        ∃ f ctx', handler.ensureDeployAllowed ctx = .error f ctx') ↔
      ∀ settings, self.deployAllowlist = some settings →
        settings.activationHeight.toNat = head.toNat + 1 →
        isTopLevelCreate eth pooled.transaction = true →
        settings.isAllowed pooled.signer = true := by
  obtain ⟨hkind, hcaller⟩ := @kind_fromRecoveredTx Payload eth crypto heth pooled.transaction
    hcall pooled.signer
  rw [rejectsDeploy_iff hhead, ensureDeployAllowed_fails_iff, deployDenied_iff, hsame, htx, hkind,
    hcaller]
  cases hallow : self.deployAllowlist with
  | none => simp
  | some settings =>
    simp only [Option.some.injEq, DeployAllowlistSettings.Forbids, exists_eq_left',
      isActive_next_iff hnext]
    constructor
    · rintro hagree settings' rfl hheight hcreate
      -- at its own height the allowlist forbids the deployment, and not at the head
      by_contra hforbids
      have hactive := (hagree.mpr ⟨hcreate, .inr hheight, by simpa using hforbids⟩).2.1
      simp only [DeployAllowlistSettings.isActive, decide_eq_true_eq] at hactive
      omega
    · intro hallowed
      constructor
      · rintro ⟨hcreate, hactive, hforbids⟩
        exact ⟨hcreate, .inl hactive, hforbids⟩
      · rintro ⟨hcreate, hactive | hheight, hforbids⟩
        · exact ⟨hcreate, hactive, hforbids⟩
        · rw [hallowed settings rfl hheight hcreate] at hforbids
          cases hforbids

open EvTxEnvelope (paymentSender paymentCrypto unitSignature)

/-- Standard transactions that are known by their kind, with gas for it. -/
def kindsOnly : EthereumSupport fun _ => TxKind :=
  { signingFields := fun _ _ => []
    typedDecode := fun _ => throw (.rlpError (.custom "unexpected tx type"))
    fallbackDecode := throw (.rlpError .unexpectedLength)
    toTxEnv := fun tx sender => { caller := sender, kind := tx.tx, gasLimit := 60000 }
    kind := fun tx => tx.tx
    gasLimit := fun _ => 60000
    blobGasUsed := fun _ => none
    cost := fun _ => 60000 }

/-- A deployment by the sender of `wirePayment`, as a standard transaction. -/
def legacyDeployment : EvTxEnvelope fun _ => TxKind := .ethereum ⟨.legacy, .create, unitSignature⟩

/-- The same as an EvNode transaction. -/
def evNodeDeployment : EvTxEnvelope fun _ => TxKind :=
  .evNode
    { EvNodeTransaction.wirePayment with
      calls := [{ dest := .create, value := 0, input := [] }]
      gasLimit := 60000
      feePayerSignature := none }
    unitSignature

/-- From a height on, `0xA1` alone may deploy. -/
def onlyA1 (activationHeight : U64) : DeployAllowlistSettings :=
  { allowlist := [0xA1], activationHeight, sorted := List.pairwise_singleton _ _ }

/-- A pool at block `10`. -/
def poolAtTen (activationHeight : U64) : EvTransactionValidator :=
  { client := { latest := .error "no state", bestBlockNumber := .ok 10 }
    deployAllowlist := some (onlyA1 activationHeight) }

/-- The execution of a deployment in block `11`. -/
def deploymentCtx (tx : EvTxEnvelope fun _ => TxKind) : Ctx :=
  { block := { number := 11, beneficiary := 0xBE, basefee := 1 }
    tx := EvTxEnv.fromRecoveredTx kindsOnly paymentCrypto tx paymentSender
    journal := Transfers.funded 0 }

/-- Pool and handler reject both deployments where the allowlist has been active before. -/
theorem rejectsDeploy_agrees_active :
    (∃ f ctx', EvHandler.ensureDeployAllowed ⟨none, some (onlyA1 10)⟩
        (deploymentCtx legacyDeployment) = .error f ctx') ∧
      ∃ f ctx', EvHandler.ensureDeployAllowed ⟨none, some (onlyA1 10)⟩
        (deploymentCtx evNodeDeployment) = .error f ctx' := by
  have hagrees (tx : EvTxEnvelope fun _ => TxKind) (hcall : HasCall tx) :=
    (@rejectsDeploy_agrees_iff _ (poolAtTen 10) kindsOnly paymentCrypto ⟨tx, paymentSender⟩ none
      ⟨none, some (onlyA1 10)⟩ (deploymentCtx tx) 10 1000000 rfl rfl rfl rfl
      ⟨fun _ _ => rfl, fun _ _ => rfl⟩ hcall).mpr fun settings hsettings hheight => by
        obtain rfl := Option.some.inj hsettings
        exact absurd hheight (by decide)
  exact ⟨(hagrees legacyDeployment trivial).mp ⟨none, rfl⟩,
    (hagrees evNodeDeployment nofun).mp ⟨none, rfl⟩⟩

/-- At block `10` the pool admits both deployments. The allowlist is active from block `11` on, in
which the handler rejects them. -/
theorem admits_forbidden_deployment :
    (poolAtTen 11).validateEvnode kindsOnly paymentCrypto ⟨legacyDeployment, paymentSender⟩
        1000000 none = .ok none none ∧
      (poolAtTen 11).validateEvnode kindsOnly paymentCrypto ⟨evNodeDeployment, paymentSender⟩
        1000000 none = .ok none none ∧
      (∃ ctx', EvHandler.ensureDeployAllowed ⟨none, some (onlyA1 11)⟩
        (deploymentCtx legacyDeployment) =
          .error (.error (.custom "contract deployment not allowed")) ctx') ∧
      ∃ ctx', EvHandler.ensureDeployAllowed ⟨none, some (onlyA1 11)⟩
        (deploymentCtx evNodeDeployment) =
          .error (.error (.custom "contract deployment not allowed")) ctx' :=
  ⟨rfl, rfl, ⟨_, rfl⟩, _, rfl⟩

end Handler

end EvTransactionValidator

/-! ## Initial gas -/

/-- The gas that calls need before their execution, over the natural numbers. -/
structure GasNeed where
  initial : ℕ
  state : ℕ
  floor : ℕ
  deriving DecidableEq, Repr

namespace GasNeed

variable (inner : Mainnet) (cfg : Cfg)

/-- A part of the initial gas, summed over calls. -/
def ofCalls (part : InitialAndFloorGas → U64) (calls : List Call) : ℕ :=
  (calls.map fun call =>
    (part (inner.calculateInitialTxGas cfg call.input call.dest.isCreate)).toNat).sum

/-- The gas of an access list: that of its addresses and that of its storage slots, each counted as
a `u64`. -/
def ofAccessList (accessList : AccessList) : ℕ :=
  accessListAddress.toNat * accessList.length +
    accessListStorageKey.toNat *
      (accessList.map fun item => item.storageKeys.length % 2 ^ 64).sum

/-- The need of calls and an access list. No sum exceeds the largest `u64`. -/
def total (accessList : AccessList) (calls : List Call) : GasNeed :=
  { initial := min (ofCalls inner cfg (·.initialTotalGas) calls + ofAccessList accessList)
      (2 ^ 64 - 1)
    state := min (ofCalls inner cfg (·.initialStateGas) calls) (2 ^ 64 - 1)
    floor :=
      if !cfg.isPragueEnabled || cfg.isEip7623Disabled then 0
      else min (ofCalls inner cfg (·.floorGas) calls) (2 ^ 64 - 1) }

/-- The gas limit covers the initial gas and the floor of EIP-7623. -/
def Covered (need : GasNeed) (gasLimit : U64) : Prop :=
  need.initial ≤ gasLimit.toNat ∧ need.floor ≤ gasLimit.toNat

/-- With EIP-8037, what a gas limit above the cap buys is state: the rest is within the cap. -/
def WithinCap (need : GasNeed) (cfg : Cfg) (gasLimit : U64) : Prop :=
  cfg.isAmsterdamEip8037Enabled = true → cfg.txGasLimitCap.toNat < gasLimit.toNat →
    max (need.initial - need.state) need.floor ≤ cfg.txGasLimitCap.toNat

instance (need : GasNeed) (gasLimit : U64) : Decidable (need.Covered gasLimit) :=
  inferInstanceAs (Decidable (_ ∧ _))

instance (need : GasNeed) (cfg : Cfg) (gasLimit : U64) :
    Decidable (need.WithinCap cfg gasLimit) :=
  inferInstanceAs (Decidable (_ → _ → _))

end GasNeed

section Batch

variable {inner : Mainnet} {cfg : Cfg} {tx : TxEnv} {calls : List Call}

theorem min_add_min (a b c bound : ℕ) :
    min (min (a + b) bound + c) bound = min (a + (b + c)) bound := by
  omega

theorem min_add_both (a b bound : ℕ) :
    min (min a bound + min b bound) bound = min (a + b) bound := by
  omega

/-- A saturated factor makes the same saturated product. -/
theorem min_mul (n factor bound : ℕ) (hfactor : 0 < factor) :
    min (min n bound * factor) bound = min (factor * n) bound := by
  rcases le_total n bound with hn | hn
  · rw [min_eq_left hn, Nat.mul_comm]
  · have hbound : bound ≤ bound * factor := Nat.le_mul_of_pos_right bound hfactor
    have hlarge : bound * factor ≤ factor * n := by
      rw [Nat.mul_comm]
      exact Nat.mul_le_mul_left factor hn
    rw [min_eq_right hn, min_eq_right hbound, min_eq_right (hbound.trans hlarge)]

/-- The saturating sums of a batch are the sums of its calls, clamped. -/
theorem foldl_callGas (acc : InitialAndFloorGas) :
    let sums := calls.foldl (fun acc call =>
      let callGas := inner.calculateInitialTxGas cfg call.input call.dest.isCreate
      { acc with
        initialTotalGas := acc.initialTotalGas.saturatingAdd callGas.initialTotalGas
        initialStateGas := acc.initialStateGas.saturatingAdd callGas.initialStateGas
        floorGas := acc.floorGas.saturatingAdd callGas.floorGas }) acc
    sums.initialTotalGas.toNat =
        min (acc.initialTotalGas.toNat + GasNeed.ofCalls inner cfg (·.initialTotalGas) calls)
          (2 ^ 64 - 1) ∧
      sums.initialStateGas.toNat =
        min (acc.initialStateGas.toNat + GasNeed.ofCalls inner cfg (·.initialStateGas) calls)
          (2 ^ 64 - 1) ∧
      sums.floorGas.toNat =
        min (acc.floorGas.toNat + GasNeed.ofCalls inner cfg (·.floorGas) calls) (2 ^ 64 - 1) := by
  -- the induction is on the calls, for any sums so far
  induction calls generalizing acc with
  | nil =>
    have htotal := acc.initialTotalGas.isLt
    have hstate := acc.initialStateGas.isLt
    have hfloor := acc.floorGas.isLt
    simp only [List.foldl_nil, GasNeed.ofCalls, List.map_nil, List.sum_nil]
    omega
  | cons call calls ih =>
    obtain ⟨htotal, hstate, hfloor⟩ := ih
      { acc with
        initialTotalGas := acc.initialTotalGas.saturatingAdd
          (inner.calculateInitialTxGas cfg call.input call.dest.isCreate).initialTotalGas
        initialStateGas := acc.initialStateGas.saturatingAdd
          (inner.calculateInitialTxGas cfg call.input call.dest.isCreate).initialStateGas
        floorGas := acc.floorGas.saturatingAdd
          (inner.calculateInitialTxGas cfg call.input call.dest.isCreate).floorGas }
    simp only [BitVec.toNat_saturatingAdd, min_add_min] at htotal hstate hfloor
    simp only [List.foldl_cons, GasNeed.ofCalls, List.map_cons, List.sum_cons]
    exact ⟨htotal, hstate, hfloor⟩

/-- The counters of an access list are the numbers of its addresses and slots, clamped. -/
theorem foldl_accessList (accessList : AccessList) (accounts storages : U64) :
    let counts := accessList.foldl (fun (acc, stor) item =>
      (acc.saturatingAdd 1, stor.saturatingAdd (BitVec.ofNat 64 item.storageKeys.length)))
      (accounts, storages)
    counts.1.toNat = min (accounts.toNat + accessList.length) (2 ^ 64 - 1) ∧
      counts.2.toNat = min (storages.toNat +
        (accessList.map fun item => item.storageKeys.length % 2 ^ 64).sum) (2 ^ 64 - 1) := by
  -- both counters saturate once, whatever they start from
  induction accessList generalizing accounts storages with
  | nil =>
    have haccounts := accounts.isLt
    have hstorages := storages.isLt
    simp only [List.foldl_nil, List.length_nil, List.map_nil, List.sum_nil]
    omega
  | cons item rest ih =>
    obtain ⟨haccounts, hstorages⟩ := ih (accounts.saturatingAdd 1)
      (storages.saturatingAdd (BitVec.ofNat 64 item.storageKeys.length))
    have hone : (1 : U64).toNat = 1 := rfl
    simp only [BitVec.toNat_saturatingAdd, hone, min_add_min] at haccounts
    simp only [BitVec.toNat_saturatingAdd, BitVec.toNat_ofNat, min_add_min] at hstorages
    simp only [List.foldl_cons, List.length_cons, List.map_cons, List.sum_cons]
    rw [Nat.add_comm rest.length]
    exact ⟨haccounts, hstorages⟩

/-- The gas of a batch without authorizations is what its calls and its access list need. -/
theorem toNat_batchInitialGas (htype : tx.txType ≠ .legacy) (hauth : tx.authorizationListLen = 0) :
    (⟨(batchInitialGas inner cfg tx calls).initialTotalGas.toNat,
      (batchInitialGas inner cfg tx calls).initialStateGas.toNat,
      (batchInitialGas inner cfg tx calls).floorGas.toNat⟩ : GasNeed) =
      GasNeed.total inner cfg tx.accessList calls := by
  obtain ⟨htotal, hstate, hfloor⟩ := @foldl_callGas inner cfg calls ⟨0, 0, 0, 0⟩
  obtain ⟨haccounts, hslots⟩ := foldl_accessList tx.accessList 0 0
  have hnone : ((BitVec.ofNat 64 0 : U64).saturatingMul perEmptyAccountCost).toNat = 0 := rfl
  have hzero : (0 : U64).toNat = 0 := rfl
  unfold batchInitialGas GasNeed.total GasNeed.ofAccessList
  simp only [htype, ne_eq, not_false_eq_true, if_true, hauth]
  -- the two loops are known by their results only
  generalize calls.foldl _ _ = perCall at *
  generalize tx.accessList.foldl _ _ = listed at *
  simp only [hzero, Nat.zero_add] at htotal hstate hfloor haccounts hslots
  simp only [GasNeed.mk.injEq]
  refine ⟨?_, ?_, ?_⟩
  · have hlist : ((perCall.initialTotalGas.saturatingAdd
        (listed.1.saturatingMul accessListAddress)).saturatingAdd
          (listed.2.saturatingMul accessListStorageKey)).toNat =
        min (GasNeed.ofCalls inner cfg (·.initialTotalGas) calls +
          (accessListAddress.toNat * tx.accessList.length + accessListStorageKey.toNat *
            (tx.accessList.map fun item => item.storageKeys.length % 2 ^ 64).sum))
          (2 ^ 64 - 1) := by
      have haddress : 0 < accessListAddress.toNat := by decide
      have hkey : 0 < accessListStorageKey.toNat := by decide
      simp only [BitVec.toNat_saturatingAdd, BitVec.toNat_saturatingMul, htotal, haccounts, hslots,
        min_mul _ _ _ haddress, min_mul _ _ _ hkey, min_add_both, Nat.add_assoc]
    split_ifs
    · rw [BitVec.toNat_saturatingAdd, hlist, hnone]
      omega
    · exact hlist
  · split_ifs
    · rw [BitVec.toNat_saturatingAdd, hstate, hnone]
      omega
    · exact hstate
  · split_ifs
    · rfl
    · exact hfloor

/-- The gas is checked exactly against the limit, and with EIP-8037 against the cap. -/
theorem checkInitialGas_succeeds_iff {gasLimit : U64} {gas : InitialAndFloorGas}
    (hfloor : cfg.isPragueEnabled = false → gas.floorGas = 0) :
    (∃ gas', checkInitialGas cfg gasLimit gas = .ok gas') ↔
      GasNeed.Covered ⟨gas.initialTotalGas.toNat, gas.initialStateGas.toNat, gas.floorGas.toNat⟩
          gasLimit ∧
        GasNeed.WithinCap ⟨gas.initialTotalGas.toNat, gas.initialStateGas.toNat,
          gas.floorGas.toNat⟩ cfg gasLimit := by
  have hfloor' : cfg.isPragueEnabled = false → gas.floorGas.toNat = 0 := fun h => by
    rw [hfloor h]
    rfl
  have hregular : (if (gas.initialTotalGas.saturatingSub gas.initialStateGas).toNat <
      gas.floorGas.toNat then gas.floorGas
      else gas.initialTotalGas.saturatingSub gas.initialStateGas).toNat =
        max (gas.initialTotalGas.toNat - gas.initialStateGas.toNat) gas.floorGas.toNat := by
    split_ifs with h
    · rw [BitVec.toNat_saturatingSub] at h
      omega
    · rw [BitVec.toNat_saturatingSub] at h ⊢
      omega
  unfold checkInitialGas GasNeed.Covered GasNeed.WithinCap
  simp only
  generalize (if (gas.initialTotalGas.saturatingSub gas.initialStateGas).toNat <
    gas.floorGas.toNat then gas.floorGas
    else gas.initialTotalGas.saturatingSub gas.initialStateGas) = minRegularGas at *
  rw [← hregular]
  split_ifs with hinitial hlow hcap
  · refine iff_of_false (fun ⟨_, h⟩ => nomatch h) (by omega)
  · simp only [Bool.and_eq_true, decide_eq_true_eq] at hlow
    refine iff_of_false (fun ⟨_, h⟩ => nomatch h) (by omega)
  · simp only [Bool.and_eq_true, decide_eq_true_eq] at hcap
    refine iff_of_false (fun ⟨_, h⟩ => nomatch h) fun h => ?_
    have := h.2 hcap.1.1 hcap.1.2
    omega
  · simp only [Bool.and_eq_true, decide_eq_true_eq, not_and, not_lt] at hlow hcap
    refine iff_of_true ⟨gas, rfl⟩ ⟨⟨by omega, ?_⟩, fun h8037 habove => hcap ⟨h8037, habove⟩⟩
    -- without Prague there is no floor
    cases hprague : cfg.isPragueEnabled with
    | true => exact hlow hprague
    | false =>
      rw [hfloor' hprague]
      exact Nat.zero_le _

/-- A batch without authorizations is accepted exactly if its gas limit covers what its calls and
its access list need, within the cap of EIP-8037. -/
theorem validateBatchInitialTxGas_succeeds_iff (htype : tx.txType ≠ .legacy)
    (hauth : tx.authorizationListLen = 0) :
    (∃ gas, validateBatchInitialTxGas inner cfg tx calls = .ok gas) ↔
      (GasNeed.total inner cfg tx.accessList calls).Covered tx.gasLimit ∧
        (GasNeed.total inner cfg tx.accessList calls).WithinCap cfg tx.gasLimit := by
  have hfloor : cfg.isPragueEnabled = false →
      (batchInitialGas inner cfg tx calls).floorGas = 0 := by
    intro hprague
    simp [batchInitialGas, hprague]
  rw [validateBatchInitialTxGas, checkInitialGas_succeeds_iff hfloor,
    toNat_batchInitialGas htype hauth]

end Batch

/-- `TransactionOrigin`. -/
inductive TransactionOrigin where
  | localTx
  | external
  | privateTx
  deriving DecidableEq, Repr

/-- `TransactionValidationOutcome`. -/
inductive TransactionValidationOutcome (Payload : TxType → Type) where
  | valid (balance : U256) (stateNonce : U64) (bytecodeHash : Option B256)
      (transaction : EvPooledTransaction Payload) (propagate : Bool)
      (authorities : Option (List Address))
  | invalid (transaction : EvPooledTransaction Payload) (e : InvalidPoolTransactionError)
  | error (hash : B256) (msg : String)

/-- reth's `EthTransactionValidator::validate_one_with_state`. -/
abbrev ValidateOne (Payload : TxType → Type) :=
  TransactionOrigin → EvPooledTransaction Payload → Option StateReader →
    TransactionValidationOutcome Payload × Option StateReader

/-- The call that the accessors of an EvNode transaction describe. -/
def EvNodeTransaction.accessedCall (tx : EvNodeTransaction) : Call := ⟨tx.kind, tx.value, tx.input⟩

/-- What is relied on of reth: a valid transaction is passed on as it is, and its gas limit covers
what the call of its accessors and its access list need. -/
def ValidateOne.ChecksAccessedCall {Payload : TxType → Type} (validateOne : ValidateOne Payload)
    (inner : Mainnet) (cfg : Cfg) : Prop :=
  ∀ origin pooled state balance stateNonce bytecodeHash transaction propagate authorities state',
    validateOne origin pooled state =
      (.valid balance stateNonce bytecodeHash transaction propagate authorities, state') →
    transaction = pooled ∧ ∀ tx signature, pooled.transaction = .evNode tx signature →
      (GasNeed.total inner cfg tx.accessList [tx.accessedCall]).Covered tx.gasLimit

/-- What is relied on of revm: the gas of an EIP-1559 transaction with one call is checked as that
of a batch is. -/
def Mainnet.ChecksInitialGas (inner : Mainnet) : Prop :=
  ∀ ctx, ctx.tx.inner.txType = .eip1559 →
    ((∃ gas ctx', inner.validateInitialTxGas ctx = .ok gas ctx') ↔
      (GasNeed.total inner ctx.cfg ctx.tx.inner.accessList
          [⟨ctx.tx.inner.kind, ctx.tx.inner.value, ctx.tx.inner.data⟩]).Covered
            ctx.tx.inner.gasLimit ∧
        (GasNeed.total inner ctx.cfg ctx.tx.inner.accessList
          [⟨ctx.tx.inner.kind, ctx.tx.inner.value, ctx.tx.inner.data⟩]).WithinCap ctx.cfg
            ctx.tx.inner.gasLimit)

namespace EvTransactionValidator

variable {Payload : TxType → Type}

/-- `validate_transaction`. -/
def validateTransaction (self : EvTransactionValidator) (eth : EthereumSupport Payload)
    (crypto : Crypto) (validateOne : ValidateOne Payload) (origin : TransactionOrigin)
    (transaction : EvPooledTransaction Payload) : TransactionValidationOutcome Payload :=
  match validateOne origin transaction none with
  | (.valid balance stateNonce bytecodeHash transaction propagate authorities, state) =>
    match self.validateEvnode eth crypto transaction balance state with
    | .ok overrideBalance _ =>
      .valid (overrideBalance.getD balance) stateNonce bytecodeHash transaction propagate
        authorities
    | .error e _ => .invalid transaction e
  | (other, _) => other

variable {self : EvTransactionValidator} {eth : EthereumSupport Payload} {crypto : Crypto}
  {validateOne : ValidateOne Payload} {origin : TransactionOrigin} {tx : EvNodeTransaction}
  {signature : Signature} {sender : Address}

/-- What `validate_evnode` accepts has the right shape. -/
theorem wellShaped_of_validateEvnode {senderBalance : U256} {state state' : Option StateReader}
    {overrideBalance : Option U256}
    (h : self.validateEvnode eth crypto ⟨.evNode tx signature, sender⟩ senderBalance state =
      .ok overrideBalance state') :
    WellShaped tx.calls := by
  obtain ⟨_, state₁, -, h⟩ := bind_eq_ok h
  obtain ⟨_, state₂, hcalls, -⟩ := bind_eq_ok h
  rw [validateEvnodeCalls_eq] at hcalls
  split_ifs at hcalls with hempty hcreate
  exact ⟨by simpa using hempty, by simpa using hcreate⟩

/-- A transaction that the pool finds valid has the right shape, and gas for the call of its
accessors. -/
theorem of_validateTransaction {inner : Mainnet} {cfg : Cfg}
    (hreth : validateOne.ChecksAccessedCall inner cfg) {balance : U256} {stateNonce : U64}
    {bytecodeHash : Option B256} {transaction : EvPooledTransaction Payload} {propagate : Bool}
    {authorities : Option (List Address)}
    (hvalid : self.validateTransaction eth crypto validateOne origin
      ⟨.evNode tx signature, sender⟩ =
        .valid balance stateNonce bytecodeHash transaction propagate authorities) :
    WellShaped tx.calls ∧
      (GasNeed.total inner cfg tx.accessList [tx.accessedCall]).Covered tx.gasLimit := by
  unfold validateTransaction at hvalid
  cases hone : validateOne origin ⟨.evNode tx signature, sender⟩ none with
  | mk outcome state =>
    rw [hone] at hvalid
    cases outcome with
    | invalid transaction e => cases hvalid
    | error hash msg => cases hvalid
    | valid balance stateNonce bytecodeHash transaction propagate authorities =>
      obtain ⟨rfl, hgas⟩ := hreth _ _ _ _ _ _ _ _ _ _ hone
      simp only at hvalid
      cases hev : self.validateEvnode eth crypto ⟨.evNode tx signature, sender⟩ balance state with
      | ok overrideBalance state' =>
        exact ⟨wellShaped_of_validateEvnode hev, hgas tx signature rfl⟩
      | error e state' =>
        rw [hev] at hvalid
        cases hvalid

/-- The need of a single call is that of the call of the accessors. -/
theorem total_accessedCall {inner : Mainnet} {cfg : Cfg} {call : Call}
    (hcalls : tx.calls = [call]) :
    GasNeed.total inner cfg tx.accessList [tx.accessedCall] =
      GasNeed.total inner cfg tx.accessList tx.calls := by
  have hkind : tx.kind = call.dest := by
    simp [EvNodeTransaction.kind, EvNodeTransaction.firstCall, hcalls]
  have hinput : tx.input = call.input := by
    simp [EvNodeTransaction.input, EvNodeTransaction.firstCall, hcalls]
  simp only [GasNeed.total, GasNeed.ofCalls, EvNodeTransaction.accessedCall, hcalls, hkind, hinput,
    List.map_cons, List.map_nil]

/-- The gas of several calls is checked as that of a batch. -/
theorem initialGasOfCalls_succeeds_iff {inner : Mainnet} {ctx : Ctx} {calls : List Call}
    (h : 1 < calls.length) :
    (∃ gas ctx', initialGasOfCalls inner calls ctx = .ok gas ctx') ↔
      ∃ gas, validateBatchInitialTxGas inner ctx.cfg ctx.tx.inner calls = .ok gas := by
  unfold initialGasOfCalls
  rw [bind_get, if_pos h]
  cases validateBatchInitialTxGas inner ctx.cfg ctx.tx.inner calls with
  | error e =>
    refine iff_of_false ?_ ?_
    · rintro ⟨gas, ctx', h⟩
      cases h
    · rintro ⟨gas, h⟩
      cases h
  | ok gas => exact iff_of_true ⟨gas, ctx, rfl⟩ ⟨gas, rfl⟩

/-- The gas of one call is checked by revm. -/
theorem initialGasOfCalls_singleton {inner : Mainnet} {ctx : Ctx} (call : Call) :
    initialGasOfCalls inner [call] ctx = inner.validateInitialTxGas ctx :=
  rfl

/-- The handler accepts the initial gas of a transaction of the right shape exactly if its gas limit
covers what its calls and its access list need, within the cap of EIP-8037. -/
theorem validateInitialTxGas_of_shape_iff {inner : Mainnet} {ctx : Ctx}
    (hrevm : inner.ChecksInitialGas)
    (htx : ctx.tx = EvTxEnv.fromRecoveredTx eth crypto (.evNode tx signature) sender)
    (hshape : WellShaped tx.calls) :
    (∃ gas ctx', EvHandler.validateInitialTxGas inner ctx = .ok gas ctx') ↔
      (GasNeed.total inner ctx.cfg tx.accessList tx.calls).Covered tx.gasLimit ∧
        (GasNeed.total inner ctx.cfg tx.accessList tx.calls).WithinCap ctx.cfg tx.gasLimit := by
  have hcalls : ctx.tx.batchCalls = some tx.calls := by rw [htx]; rfl
  rw [validateInitialTxGas_of_shape hcalls hshape]
  by_cases hlength : 1 < tx.calls.length
  · rw [initialGasOfCalls_succeeds_iff hlength, validateBatchInitialTxGas_succeeds_iff
      (by rw [htx]; exact nofun) (by rw [htx]; rfl), htx]
    rfl
  · obtain ⟨call, hsingle⟩ : ∃ call, tx.calls = [call] := by
      have hne : tx.calls ≠ [] := by simpa using hshape.1
      have hpos := List.length_pos_of_ne_nil hne
      exact List.length_eq_one_iff.mp (by omega)
    -- revm checks the need of the call of the accessors, which is the only one
    have hrun : (∃ gas ctx', inner.validateInitialTxGas ctx = .ok gas ctx') ↔
        (GasNeed.total inner ctx.cfg tx.accessList [tx.accessedCall]).Covered tx.gasLimit ∧
          (GasNeed.total inner ctx.cfg tx.accessList [tx.accessedCall]).WithinCap ctx.cfg
            tx.gasLimit := by
      have hstandard := hrevm ctx (by rw [htx]; rfl)
      rw [htx] at hstandard
      exact hstandard
    rw [total_accessedCall hsingle] at hrun
    rw [hsingle, initialGasOfCalls_singleton, ← hsingle, hrun]

/-- The handler accepts the initial gas of a transaction that the pool has found valid exactly if it
has one call only, or its gas limit covers the calls after the first one too; and, with EIP-8037, if
the gas is within the cap. -/
theorem validateInitialTxGas_of_valid_iff {inner : Mainnet} {ctx : Ctx}
    (hreth : validateOne.ChecksAccessedCall inner ctx.cfg) (hrevm : inner.ChecksInitialGas)
    (htx : ctx.tx = EvTxEnv.fromRecoveredTx eth crypto (.evNode tx signature) sender)
    {balance : U256} {stateNonce : U64} {bytecodeHash : Option B256}
    {transaction : EvPooledTransaction Payload} {propagate : Bool}
    {authorities : Option (List Address)}
    (hvalid : self.validateTransaction eth crypto validateOne origin
      ⟨.evNode tx signature, sender⟩ =
        .valid balance stateNonce bytecodeHash transaction propagate authorities) :
    (∃ gas ctx', EvHandler.validateInitialTxGas inner ctx = .ok gas ctx') ↔
      (tx.calls.length = 1 ∨
        (GasNeed.total inner ctx.cfg tx.accessList tx.calls).Covered tx.gasLimit) ∧
      (GasNeed.total inner ctx.cfg tx.accessList tx.calls).WithinCap ctx.cfg tx.gasLimit := by
  obtain ⟨hshape, hcovered⟩ := of_validateTransaction hreth hvalid
  rw [validateInitialTxGas_of_shape_iff hrevm htx hshape]
  refine and_congr_left' (iff_or_self.mpr fun hlength => ?_)
  -- what the pool has checked is the need of the only call
  obtain ⟨call, hsingle⟩ := List.length_eq_one_iff.mp hlength
  rwa [total_accessedCall hsingle] at hcovered

open EvTxEnvelope (paymentSender paymentCrypto unitSignature)

/-- Plain payments, whose initial gas is checked. -/
def checkedTransfers : Mainnet :=
  { Transfers.mainnetOfCA with
    validateInitialTxGas := fun ctx =>
      let gas := Transfers.initialGas ctx.tx.inner.kind.isCreate
      let need := GasNeed.total Transfers.mainnetOfCA ctx.cfg ctx.tx.inner.accessList
        [⟨ctx.tx.inner.kind, ctx.tx.inner.value, ctx.tx.inner.data⟩]
      if need.Covered ctx.tx.inner.gasLimit ∧ need.WithinCap ctx.cfg ctx.tx.inner.gasLimit then
        .ok gas ctx
      else
        .error (.error (.transaction (.callGasCostMoreThanGasLimit ctx.tx.inner.gasLimit
          gas.initialTotalGas))) ctx }

/-- A validator on the accounts of `w` that checks the gas of the call that it sees, and nothing
else. -/
def validateOneCall (w : WorldState) : ValidateOne fun _ => Empty := fun _ pooled _ =>
  match pooled.transaction with
  | .ethereum tx => tx.tx.elim
  | .evNode tx _ =>
    if (GasNeed.total checkedTransfers {} tx.accessList [tx.accessedCall]).Covered tx.gasLimit then
      (.valid (w.load.balance pooled.signer) (w.load.nonce pooled.signer) none pooled true none,
        some (stateReader w))
    else (.invalid pooled .intrinsicGasTooLow, some (stateReader w))

/-- The validator of the example covers the call that it sees. -/
theorem checksAccessedCall_validateOneCall (w : WorldState) :
    (validateOneCall w).ChecksAccessedCall checkedTransfers {} := by
  intro origin pooled state balance stateNonce bytecodeHash transaction propagate authorities state'
    h
  obtain ⟨envelope, sender⟩ := pooled
  cases envelope with
  | ethereum tx => exact tx.tx.elim
  | evNode tx signature =>
    simp only [validateOneCall] at h
    split_ifs at h with hcovered
    · cases h
      refine ⟨rfl, ?_⟩
      rintro tx' signature' htx
      cases htx
      exact hcovered
    · cases h

/-- The phases of the example check the gas of a single call as revm does. -/
theorem checksInitialGas_checkedTransfers : checkedTransfers.ChecksInitialGas := by
  intro ctx htype
  simp only [checkedTransfers]
  split_ifs with hgas
  · exact iff_of_true ⟨_, _, rfl⟩ hgas
  · refine iff_of_false ?_ hgas
    rintro ⟨gas, ctx', h⟩
    cases h

/-- Two payments in one transaction. -/
def twoPayments (gasLimit : U64) : EvNodeTransaction :=
  { EvNodeTransaction.wirePayment with
    calls := [⟨.call 0xB0, 9, []⟩, ⟨.call 0xB1, 9, []⟩]
    gasLimit
    feePayerSignature := none }

/-- A state in which the sender of the payments has funds for them. -/
def fundedWorld : WorldState := fun a =>
  if a = paymentSender then some { info := { balance := 1000000, nonce := 7 } } else none

/-- The execution of `twoPayments` on `fundedWorld`. -/
def twoPaymentsCtx (gasLimit : U64) : Ctx :=
  { block := { number := 1, beneficiary := 0xBE, basefee := 1 }
    tx := EvTxEnv.fromRecoveredTx EthereumSupport.none paymentCrypto
      (.evNode (twoPayments gasLimit) unitSignature) paymentSender
    journal := fundedWorld.load }

/-- The pool on `fundedWorld`. -/
def fundedValidator : EvTransactionValidator :=
  { client := { latest := .ok (stateReader fundedWorld), bestBlockNumber := .ok 0 }
    deployAllowlist := none }

/-- The check of `twoPayments` by the pool. -/
def admitTwoPayments (gasLimit : U64) : TransactionValidationOutcome fun _ => Empty :=
  fundedValidator.validateTransaction EthereumSupport.none paymentCrypto
    (validateOneCall fundedWorld) .external
    ⟨.evNode (twoPayments gasLimit) unitSignature, paymentSender⟩

/-- With gas for both payments the transaction is accepted by pool and handler. -/
theorem validateInitialTxGas_twoPayments :
    ∃ gas ctx', EvHandler.validateInitialTxGas checkedTransfers (twoPaymentsCtx 42000) =
      .ok gas ctx' := by
  have hvalid : admitTwoPayments 42000 = .valid 1000000 7 none
      ⟨.evNode (twoPayments 42000) unitSignature, paymentSender⟩ true none := rfl
  have hcovered :
      (GasNeed.total checkedTransfers {} [] (twoPayments 42000).calls).Covered 42000 := by
    decide
  have haccepts := @validateInitialTxGas_of_valid_iff _ fundedValidator EthereumSupport.none
    paymentCrypto (validateOneCall fundedWorld) .external (twoPayments 42000) unitSignature
    paymentSender checkedTransfers (twoPaymentsCtx 42000)
    (checksAccessedCall_validateOneCall fundedWorld) checksInitialGas_checkedTransfers rfl
    _ _ _ _ _ _ hvalid
  exact haccepts.mpr ⟨.inr hcovered, fun h8037 => nomatch h8037⟩

/-- With gas for one of the payments only, the pool finds the transaction valid, and the handler
rejects it. -/
theorem admits_batch_without_gas :
    admitTwoPayments 41999 = .valid 1000000 7 none
        ⟨.evNode (twoPayments 41999) unitSignature, paymentSender⟩ true none ∧
      EvHandler.validateInitialTxGas checkedTransfers (twoPaymentsCtx 41999) =
        .error (.error (.transaction (.callGasCostMoreThanGasLimit 41999 42000)))
          (twoPaymentsCtx 41999) :=
  ⟨rfl, rfl⟩

end EvTransactionValidator

end EvReth
