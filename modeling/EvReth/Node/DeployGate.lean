import EvReth.Node.Admission
import EvReth.Node.Builder

/-!
# From the chain spec to the deploy allowlist

`EvolvePayloadBuilderConfig::from_chain_spec` (`crates/node/src/config.rs`) reads the settings of a
chain, `validate_deploy_allowlist` checks its list of deployers, and `build_evm_config`
(`crates/node/src/executor.rs`) hands the list to the EVM of every block. This file follows the list
from the chain spec to the frames that the handler runs.
-/

namespace EvReth

open EStateM

/-! ## The settings of a chain -/

/-- `ChainspecEvolveConfig`. -/
structure ChainspecEvolveConfig where
  baseFeeSink : Option Address := none
  baseFeeRedirectActivationHeight : Option U64 := none
  mintAdmin : Option Address := none
  mintPrecompileActivationHeight : Option U64 := none
  contractSizeLimit : Option ℕ := none
  contractSizeLimitActivationHeight : Option U64 := none
  deployAllowlist : Option (List Address) := none
  deployAllowlistActivationHeight : Option U64 := none
  deriving DecidableEq, Repr

/-- `EvolvePayloadBuilderConfig`, with the fields that the builder does not read. -/
structure EvolveConfig extends EvolvePayloadBuilderConfig where
  mintAdmin : Option Address
  mintPrecompileActivationHeight : Option U64
  contractSizeLimit : Option ℕ
  contractSizeLimitActivationHeight : Option U64
  deployAllowlist : List Address
  deployAllowlistActivationHeight : Option U64
  deriving DecidableEq, Repr

/-- `ConfigError`. -/
inductive ConfigError where
  | invalidConfig
  | invalidExtras (msg : String)
  | invalidDeployAllowlist (msg : String)
  deriving DecidableEq, Repr

/-- `MAX_DEPLOY_ALLOWLIST_LEN`. -/
def maxDeployAllowlistLen : ℕ := 1024

namespace EvolveConfig

/-- `default`. -/
def default : EvolveConfig :=
  { baseFeeSink := none
    baseFeeRedirectActivationHeight := none
    mintAdmin := none
    mintPrecompileActivationHeight := none
    contractSizeLimit := none
    contractSizeLimitActivationHeight := none
    deployAllowlist := []
    deployAllowlistActivationHeight := none }

/-- An activation height that is not set is `0` where there is something to activate. -/
def heightOrZero (present : Bool) (height : Option U64) : Option U64 :=
  if present && height.isNone then some 0 else height

/-- `from_chain_spec`, given what serde reads from the `evolve` field of the chain spec. -/
def fromChainSpec (extra : Option (Except String ChainspecEvolveConfig)) :
    Except ConfigError EvolveConfig :=
  match extra with
  | none => .ok default
  | some (.error msg) => .error (.invalidExtras msg)
  | some (.ok extras) =>
    -- the zero address is no admin
    let mintAdmin := extras.mintAdmin.filter (· ≠ 0)
    let config : EvolveConfig :=
      { default with
        baseFeeSink := extras.baseFeeSink
        baseFeeRedirectActivationHeight := heightOrZero extras.baseFeeSink.isSome
          extras.baseFeeRedirectActivationHeight
        mintAdmin
        mintPrecompileActivationHeight := heightOrZero mintAdmin.isSome
          extras.mintPrecompileActivationHeight
        contractSizeLimit := extras.contractSizeLimit
        contractSizeLimitActivationHeight := extras.contractSizeLimitActivationHeight }
    match extras.deployAllowlist with
    | none => .ok config
    | some allowlist => .ok
        { config with
          deployAllowlist := allowlist
          deployAllowlistActivationHeight := heightOrZero (!allowlist.isEmpty)
            extras.deployAllowlistActivationHeight }

variable (self : EvolveConfig)

/-- `deploy_allowlist_settings`. -/
def deployAllowlistSettings : Option (List Address × U64) :=
  if self.deployAllowlist.isEmpty then none
  else some (self.deployAllowlist, self.deployAllowlistActivationHeight.getD 0)

/-- `base_fee_redirect_settings`. -/
def baseFeeRedirectSettings : Option (Address × U64) :=
  self.baseFeeSink.map fun sink => (sink, self.baseFeeRedirectActivationHeight.getD 0)

/-- The loop of `validate_deploy_allowlist` over the addresses; `seen` are those before. -/
def checkDeployers (seen : List Address) : List Address → Except ConfigError Unit
  | [] => .ok ()
  | addr :: rest =>
    if addr = 0 then .error (.invalidDeployAllowlist "deployAllowlist contains zero address")
    else if addr ∈ seen then
      .error (.invalidDeployAllowlist "deployAllowlist contains duplicate entries")
    else checkDeployers (addr :: seen) rest

/-- `validate_deploy_allowlist`. -/
def validateDeployAllowlist : Except ConfigError Unit :=
  let allowlistLen := self.deployAllowlist.length
  if maxDeployAllowlistLen < allowlistLen then
    .error (.invalidDeployAllowlist
      s!"deployAllowlist has {allowlistLen} entries (max {maxDeployAllowlistLen})")
  else checkDeployers [] self.deployAllowlist

/-- `validate`. -/
def validate : Except ConfigError Unit := self.validateDeployAllowlist

end EvolveConfig

/-- `build_evm_config`, as far as the handler of a block depends on it. -/
def buildEvmConfig (extra : Option (Except String ChainspecEvolveConfig)) :
    Except ConfigError EvTxEvmFactory := do
  let config ← EvolveConfig.fromChainSpec extra
  config.validate
  return { redirect := config.baseFeeRedirectSettings.map fun (sink, activation) =>
             ⟨⟨sink⟩, activation⟩
           deployAllowlist := config.deployAllowlistSettings.map fun (allowlist, activation) =>
             .new allowlist activation }

namespace EvolveConfig

/-- The list passes without the zero address, without repetition, and without what was seen before.
-/
theorem checkDeployers_eq_ok_iff {seen addresses : List Address} :
    checkDeployers seen addresses = .ok () ↔
      0 ∉ addresses ∧ addresses.Nodup ∧ ∀ a ∈ addresses, a ∉ seen := by
  -- on the list, for any addresses that were seen before
  induction addresses generalizing seen with
  | nil => simp [checkDeployers]
  | cons addr rest ih =>
    rw [checkDeployers]
    split_ifs with hzero hseen
    · simp [hzero]
    · simp [hseen]
    · rw [ih]
      constructor
      · rintro ⟨hnonzero, hnodup, hfresh⟩
        refine ⟨?_, List.nodup_cons.mpr ⟨?_, hnodup⟩, ?_⟩
        · exact fun hmem => (List.mem_cons.mp hmem).elim (fun h => hzero h.symm) hnonzero
        · exact fun hmem => hfresh addr hmem List.mem_cons_self
        · refine List.forall_mem_cons.mpr ⟨hseen, fun a hmem hold => ?_⟩
          exact hfresh a hmem (List.mem_cons_of_mem _ hold)
      · rintro ⟨hnonzero, hnodup, hfresh⟩
        obtain ⟨hnew, hnodup⟩ := List.nodup_cons.mp hnodup
        refine ⟨fun hmem => hnonzero (List.mem_cons_of_mem _ hmem), hnodup, fun a hmem hold => ?_⟩
        rcases List.mem_cons.mp hold with rfl | hold
        · exact hnew hmem
        · exact hfresh a (List.mem_cons_of_mem _ hmem) hold

/-- The lists that are accepted: at most `1024` different addresses, the zero address not among
them. -/
theorem validate_eq_ok_iff {config : EvolveConfig} :
    config.validate = .ok () ↔ config.deployAllowlist.length ≤ maxDeployAllowlistLen ∧
      0 ∉ config.deployAllowlist ∧ config.deployAllowlist.Nodup := by
  unfold validate validateDeployAllowlist
  simp only
  split_ifs with hlen
  · exact iff_of_false (fun h => nomatch h) fun h => absurd h.1 (Nat.not_le.mpr hlen)
  · rw [checkDeployers_eq_ok_iff]
    simp [Nat.not_lt.mp hlen]

end EvolveConfig

/-- The allowlist of a chain spec and its activation height; the list is empty if none is set. -/
def deployersOf : Option (Except String ChainspecEvolveConfig) → List Address × U64
  | some (.ok extras) =>
    (extras.deployAllowlist.getD [], extras.deployAllowlistActivationHeight.getD 0)
  | _ => ([], 0)

/-- The settings of a chain are those of its chain spec, unless the list is empty. -/
theorem deployAllowlistSettings_of_fromChainSpec
    {extra : Option (Except String ChainspecEvolveConfig)} {config : EvolveConfig}
    (h : EvolveConfig.fromChainSpec extra = .ok config) :
    config.deployAllowlistSettings =
      if (deployersOf extra).1.isEmpty then none else some (deployersOf extra) := by
  match extra with
  | none =>
    rw [← Except.ok.inj h]
    rfl
  | some (.error msg) => cases h
  | some (.ok extras) =>
    rw [EvolveConfig.fromChainSpec] at h
    cases hlist : extras.deployAllowlist with
    | none =>
      simp only [hlist] at h
      rw [← Except.ok.inj h, deployersOf, hlist]
      rfl
    | some allowlist =>
      simp only [hlist] at h
      rw [← Except.ok.inj h, deployersOf, hlist]
      simp only [EvolveConfig.deployAllowlistSettings, Option.getD_some]
      split_ifs with hempty
      · rfl
      · -- a list that is not empty is active from its height on, or from the first block
        cases extras.deployAllowlistActivationHeight <;>
          simp [EvolveConfig.heightOrZero, hempty]

/-- The factory has the sorted list of the chain spec, unless it is empty. -/
theorem deployAllowlist_of_buildEvmConfig {extra : Option (Except String ChainspecEvolveConfig)}
    {factory : EvTxEvmFactory} (h : buildEvmConfig extra = .ok factory) :
    factory.deployAllowlist = if (deployersOf extra).1.isEmpty then none
      else some (.new (deployersOf extra).1 (deployersOf extra).2) := by
  obtain ⟨config, hconfig, h⟩ := Except.bind_eq_ok_iff.mp h
  obtain ⟨-, h⟩ := Except.check_eq_ok_iff.mp h
  rw [← Except.ok.inj h]
  change config.deployAllowlistSettings.map _ = _
  rw [deployAllowlistSettings_of_fromChainSpec hconfig]
  split_ifs <;> rfl

/-- The list of a chain spec is active in the block, not empty, and without the sender. -/
def Excludes (extra : Option (Except String ChainspecEvolveConfig)) (block : BlockEnv)
    (sender : Address) : Prop :=
  (deployersOf extra).2.toNat ≤ block.number.toNat ∧ (deployersOf extra).1 ≠ [] ∧
    sender ∉ (deployersOf extra).1

instance (extra : Option (Except String ChainspecEvolveConfig)) (block : BlockEnv)
    (sender : Address) : Decidable (Excludes extra block sender) :=
  inferInstanceAs (Decidable (_ ∧ _ ∧ _))

/-- The settings that the factory has forbid a deployment exactly to those whom the list of the
chain spec excludes, in whatever order it names the others. -/
theorem forbids_iff {extra : Option (Except String ChainspecEvolveConfig)}
    {factory : EvTxEvmFactory} (h : buildEvmConfig extra = .ok factory) {caller : Address}
    {block : BlockEnv} :
    (∃ s, factory.deployAllowlist = some s ∧ s.Forbids caller (EvHandler.blockNumberU64 block)) ↔
      Excludes extra block caller := by
  rw [Excludes]
  rw [deployAllowlist_of_buildEvmConfig h]
  by_cases hempty : (deployersOf extra).1 = []
  · simp [hempty]
  · rw [if_neg (by simpa using hempty)]
    simp only [Option.some.injEq, exists_eq_left', DeployAllowlistSettings.Forbids,
      EvTransactionValidator.isActive_blockNumberU64_iff, ← Bool.not_eq_true,
      DeployAllowlistSettings.isAllowed_new_iff, hempty, false_or, ne_eq, not_false_eq_true,
      true_and]
    rfl

/-! ## Frames -/

/-- revm builds the frame of the transaction that the context holds. -/
def Mainnet.FramesShowKind (inner : Mainnet) : Prop :=
  ∀ g r ctx init ctx', inner.firstFrameInput g r ctx = .ok init ctx' →
    init.kind.isCreate = ctx.tx.inner.kind.isCreate

/-- The frames of payments are of the kind that their transaction shows. -/
theorem Transfers.framesShowKind (createAddress : Address → U64 → Address) :
    (Transfers.mainnet createAddress).FramesShowKind := by
  intro g r ctx init ctx' h
  obtain ⟨rfl, -⟩ := EStateM.Result.ok.inj h
  rfl

/-- Two frame loops that may differ in the creation of contracts only. -/
def SameButCreate (frames frames' : FrameInit → HandlerM FrameResult) : Prop :=
  ∀ init, init.kind.isCreate = false → frames' init = frames init

namespace EvHandler

variable {self : EvHandler} {inner : Mainnet} {ctx : Ctx} {baseTx : EvTxEnv}
  {frames frames' : FrameInit → HandlerM FrameResult}

/-- A call that creates nothing runs the same in both loops. -/
theorem runCall_congr (hkind : inner.FramesShowKind) (hsame : SameButCreate frames frames')
    {call : Call} (hcall : call.dest.isCreate = false) (g r : U64) :
    runCall (inner.withFrames frames') baseTx g r call =
      runCall (inner.withFrames frames) baseTx g r call := by
  funext ctx
  change (inner.firstFrameInput g r >>= frames') { ctx with tx := baseTx.setBatchCall call } =
    (inner.firstFrameInput g r >>= frames) { ctx with tx := baseTx.setBatchCall call }
  refine bind_congr_of_ok fun init ctx' hinit => ?_
  rw [hsame init ((hkind _ _ _ _ _ hinit).trans hcall)]

/-- Calls that create nothing do not see how frames create. -/
theorem batchLoop_congr (hkind : inner.FramesShowKind) (hsame : SameButCreate frames frames')
    {calls : List Call} (hcalls : ∀ call ∈ calls, call.dest.isCreate = false)
    (firstIsCreate : Bool) (checkpoint : Journal.Checkpoint) (s : BatchState)
    (last : Option FrameResult) :
    batchLoop (inner.withFrames frames') baseTx firstIsCreate checkpoint calls s last =
      batchLoop (inner.withFrames frames) baseTx firstIsCreate checkpoint calls s last := by
  induction calls generalizing s last with
  | nil => rfl
  | cons call calls ih =>
    obtain ⟨hcall, hrest⟩ := List.forall_mem_cons.mp hcalls
    rw [batchLoop, batchLoop, runCall_congr hkind hsame hcall]
    simp only [ih hrest]

/-- A transaction that creates nothing does not see how frames create. -/
theorem mainnet_execution_congr (hkind : inner.FramesShowKind)
    (hsame : SameButCreate frames frames') (htx : ctx.tx.inner.kind.isCreate = false)
    (gas : InitialAndFloorGas) :
    (inner.withFrames frames').execution gas ctx = (inner.withFrames frames).execution gas ctx := by
  let g := (inner.initialGasAndReservoir gas ctx.tx.inner.gasLimit ctx.cfg).1
  let r := (inner.initialGasAndReservoir gas ctx.tx.inner.gasLimit ctx.cfg).2
  change (inner.firstFrameInput g r >>= fun init => frames' init >>= inner.lastFrameResult) ctx =
    (inner.firstFrameInput g r >>= fun init => frames init >>= inner.lastFrameResult) ctx
  refine bind_congr_of_ok fun init ctx' hinit => ?_
  rw [hsame init ((hkind _ _ _ _ _ hinit).trans htx)]

/-- The transaction shows no creation, neither in its kind nor in a call of its batch. -/
def CreatesNothing (tx : EvTxEnv) : Prop :=
  tx.inner.kind.isCreate = false ∧
    ∀ calls, tx.batchCalls = some calls → ∀ call ∈ calls, call.dest.isCreate = false

/-- Neither does a batch. -/
theorem execution_congr (hkind : inner.FramesShowKind) (hsame : SameButCreate frames frames')
    (htx : CreatesNothing ctx.tx) (gas : InitialAndFloorGas) :
    execution (inner.withFrames frames') gas ctx = execution (inner.withFrames frames) gas ctx := by
  have hmainnet := mainnet_execution_congr hkind hsame htx.1 gas
  cases hcalls : ctx.tx.batchCalls with
  | none =>
    rw [execution, execution, bind_get, bind_get]
    simp only [hcalls]
    exact hmainnet
  | some calls =>
    match calls with
    | [] =>
      rw [execution, execution, bind_get, bind_get]
      simp only [hcalls]
    | [call] =>
      rw [execution, execution, bind_get, bind_get]
      simp only [hcalls]
      exact hmainnet
    | first :: second :: rest =>
      rw [execution_eq_batchLoop hcalls, execution_eq_batchLoop hcalls]
      exact congrFun (batchLoop_congr hkind hsame (htx.2 _ hcalls) _ _ _ _) ctx

/-- What a sender sends who may not deploy does not reach execution with a creation in it. -/
theorem createsNothing_of_forbids (henv : inner.KeepsEnvironment) (hbuilt : ctx.tx.Built)
    (hforbids : ∃ s, self.deployAllowlist = some s ∧
      s.Forbids ctx.tx.inner.caller (blockNumberU64 ctx.block))
    {gas : InitialAndFloorGas} {refund : U64} {ctx' : Ctx}
    (h : self.preExecution inner ctx = .ok (gas, refund) ctx') : CreatesNothing ctx'.tx := by
  rw [(keepsEnv_preExecution henv _ _ _ h).tx]
  obtain ⟨t⟩ := preTrace_of_ok h
  have hafterEnv := henv.validateEnv _ _ _ t.hEnv
  have hafterGas := t.sameEnv_afterGas henv
  -- the deploy check has looked at the kind, and the gas check at the calls after the first
  have hkind : ctx.tx.inner.kind.isCreate = false := by
    by_contra hcreate
    have hdenied : self.DeployDenied t.afterGas := by
      rw [EvTransactionValidator.deployDenied_iff, hafterGas.tx, hafterGas.block]
      exact ⟨by simpa using hcreate, hforbids⟩
    have hdeduct := t.hDeduct
    rw [validateAgainstStateAndDeductCaller_eq, if_pos hdenied] at hdeduct
    cases hdeduct
  refine ⟨hkind, fun calls hcalls => ?_⟩
  obtain ⟨hne, hlater, -⟩ := validateInitialTxGas_cases t.hGas
  rw [hafterEnv.tx] at hne hlater
  obtain ⟨first, rest, rfl⟩ := List.exists_cons_of_ne_nil fun hnil => hne (hnil ▸ hcalls)
  refine List.forall_mem_cons.mpr ⟨?_, ?_⟩
  · rwa [← hbuilt.kind_eq hcalls]
  · simpa using hlater _ hcalls

/-- No frame that such a sender's transaction runs is a creation. -/
theorem run_congr_of_forbids (henv : inner.KeepsEnvironment) (hkind : inner.FramesShowKind)
    {tx : EvTxEnv} (hbuilt : tx.Built)
    (hforbids : ∃ s, self.deployAllowlist = some s ∧
      s.Forbids tx.inner.caller (blockNumberU64 ctx.block))
    (hsame : SameButCreate frames frames') :
    self.transactOne (inner.withFrames frames') tx ctx =
        self.transactOne (inner.withFrames frames) tx ctx ∧
      self.inspectOneTx inner frames' tx ctx = self.inspectOneTx inner frames tx ctx := by
  have hnone {gas : InitialAndFloorGas} {refund : U64} {ctx' : Ctx}
      (h : self.preExecution inner { ctx with tx } = .ok (gas, refund) ctx') :
      CreatesNothing ctx'.tx := createsNothing_of_forbids henv hbuilt hforbids h
  constructor
  · have hrun : self.runWith inner (execution (inner.withFrames frames')) { ctx with tx } =
        self.runWith inner (execution (inner.withFrames frames)) { ctx with tx } :=
      runWith_congr fun gas _ _ hpre => execution_congr hkind hsame (hnone hpre) gas
    exact catchError_congr hrun
  · have hrun : self.runWith inner (inspectExecution inner frames') { ctx with tx } =
        self.runWith inner (inspectExecution inner frames) { ctx with tx } :=
      runWith_congr fun gas _ _ hpre => mainnet_execution_congr hkind hsame (hnone hpre).1 gas
    exact catchError_congr hrun

/-- A transaction that the deploy check accepts runs as without an allowlist, whatever its frames
create. -/
theorem runWith_of_not_deployDenied (henv : inner.KeepsEnvironment)
    (hallowed : ¬ self.DeployDenied ctx) (exec : InitialAndFloorGas → HandlerM FrameResult) :
    self.runWith inner exec ctx = runWith { self with deployAllowlist := none } inner exec ctx := by
  have hpre : self.preExecution inner ctx =
      preExecution { self with deployAllowlist := none } inner ctx := by
    refine bind_congr_of_ok fun _ afterEnv hEnv => bind_congr_of_ok fun gas afterGas hGas => ?_
    -- the check sees the transaction and the block from before
    have hsame := (henv.validateEnv _ _ _ hEnv).trans
      (keepsEnv_validateInitialTxGas henv _ _ _ hGas)
    have hafter : ¬ self.DeployDenied afterGas := by
      rw [EvTransactionValidator.deployDenied_iff] at hallowed ⊢
      rwa [hsame.tx, hsame.block]
    have hbare : ¬ DeployDenied { self with deployAllowlist := none } afterGas := by
      simp [EvTransactionValidator.deployDenied_iff]
    have hdeduct : self.validateAgainstStateAndDeductCaller afterGas =
        validateAgainstStateAndDeductCaller { self with deployAllowlist := none } afterGas := by
      rw [validateAgainstStateAndDeductCaller_eq, validateAgainstStateAndDeductCaller_eq,
        if_neg hafter, if_neg hbare]
    exact bind_congr_left hdeduct
  exact bind_congr_left hpre

end EvHandler

section Gate

open EvTransactionValidator (HasCall isTopLevelCreate kind_fromRecoveredTx)

variable {Payload : TxType → Type} {eth : EthereumSupport Payload} {crypto : Crypto}

/-- A recovered transaction has an environment that the node has built. -/
theorem built_fromRecoveredTx (tx : EvTxEnvelope Payload) (sender : Address) :
    (EvTxEnv.fromRecoveredTx eth crypto tx sender).Built := by
  cases tx with
  | ethereum tx => exact .new _
  | evNode tx signature => apply EvTxEnv.Built.fromEvNode

/-- The gate from the chain spec to the frames. The handler rejects exactly the creations of senders
whom the list excludes; no transaction of such a sender runs the frame of a creation, wherever its
calls may ask for one; and what the handler does not reject runs as without a list, whatever the
code of its frames creates. -/
theorem deploy_gate_exact {extra : Option (Except String ChainspecEvolveConfig)}
    {factory : EvTxEvmFactory} (hfactory : buildEvmConfig extra = .ok factory) (env : EvmEnv)
    {inner : Mainnet} (henv : inner.KeepsEnvironment) (hkind : inner.FramesShowKind)
    (heth : eth.CopiesKind) {tx : EvTxEnvelope Payload} (hcall : HasCall tx) (sender : Address)
    (ctx : Ctx) :
    let evTx := EvTxEnv.fromRecoveredTx eth crypto tx sender
    let handler := factory.handlerFor env
    let Rejects := ∃ f ctx', handler.ensureDeployAllowed { ctx with tx := evTx } = .error f ctx'
    (Rejects ↔ isTopLevelCreate eth tx = true ∧ Excludes extra ctx.block sender) ∧
      (Excludes extra ctx.block sender → ∀ frames frames', SameButCreate frames frames' →
        handler.transactOne (inner.withFrames frames') evTx ctx =
            handler.transactOne (inner.withFrames frames) evTx ctx ∧
          handler.inspectOneTx inner frames' evTx ctx =
            handler.inspectOneTx inner frames evTx ctx) ∧
      (¬ Rejects → ∀ frames,
        handler.transactOne (inner.withFrames frames) evTx ctx =
            EvHandler.transactOne { handler with deployAllowlist := none }
              (inner.withFrames frames) evTx ctx ∧
          handler.inspectOneTx inner frames evTx ctx =
            EvHandler.inspectOneTx { handler with deployAllowlist := none } inner frames evTx
              ctx) := by
  intro evTx handler Rejects
  obtain ⟨hcreate, hcaller⟩ := @kind_fromRecoveredTx Payload eth crypto heth tx hcall sender
  -- both questions are asked of the same check, on the transaction as the node has built it
  have hrejects : Rejects ↔ handler.DeployDenied { ctx with tx := evTx } :=
    EvTransactionValidator.ensureDeployAllowed_fails_iff
  refine ⟨?_, fun hexcluded frames frames' hsame => ?_, fun haccepted frames => ?_⟩
  · -- what the handler looks up in its list is what the chain spec lists
    rw [hrejects, EvTransactionValidator.deployDenied_iff]
    change evTx.inner.kind.isCreate = true ∧ (∃ s, factory.deployAllowlist = some s ∧
      s.Forbids evTx.inner.caller _) ↔ _
    rw [hcreate, hcaller, forbids_iff hfactory]
  · have hforbids : ∃ s, handler.deployAllowlist = some s ∧
        s.Forbids evTx.inner.caller (EvHandler.blockNumberU64 ctx.block) := by
      rw [hcaller]
      exact (forbids_iff hfactory).mpr hexcluded
    exact EvHandler.run_congr_of_forbids henv hkind (built_fromRecoveredTx tx sender) hforbids hsame
  · -- the list is looked at in one place only, before any frame runs
    rw [hrejects] at haccepted
    have hframes := EvHandler.withFrames_keepsEnvironment henv frames
    exact ⟨EvHandler.catchError_congr (EvHandler.runWith_of_not_deployDenied hframes haccepted _),
      EvHandler.catchError_congr (EvHandler.runWith_of_not_deployDenied henv haccepted _)⟩

open EvTransactionValidator (legacyDeployment deploymentCtx kindsOnly)
open EvTxEnvelope (paymentSender paymentCrypto unitSignature)

/-- A chain spec whose list is not sorted, and active from block `11` on. -/
def twoDeployers : ChainspecEvolveConfig :=
  { deployAllowlist := some [0xA2, 0xA1], deployAllowlistActivationHeight := some 11 }

/-- Block `11`. -/
def blockEleven : EvmEnv :=
  { cfgEnv := { chainId := 1, spec := .prague }
    blockEnv :=
      { number := 11
        beneficiary := 0xBE
        timestamp := 11
        difficulty := 0
        prevrandao := some 0
        gasLimit := 30000000
        basefee := 1
        blobExcessGasAndPrice := none
        slotNum := 0 } }

/-- A batch that asks for a creation in its second call. -/
def lateDeployment : EvTxEnvelope fun _ => TxKind :=
  .evNode
    { EvNodeTransaction.wirePayment with
      calls := [{ dest := .call 0xC1, value := 0, input := [] },
        { dest := .create, value := 0, input := [] }]
      gasLimit := 60000
      feePayerSignature := none }
    unitSignature

/-- In block `11` a sender who is not in the list cannot create a contract, neither directly nor in
the second call of a batch; one who is in the list can. -/
theorem deploy_gate_exact_twoDeployers :
    ∃ factory, buildEvmConfig (some (.ok twoDeployers)) = .ok factory ∧
      (∃ f ctx', (factory.handlerFor blockEleven).ensureDeployAllowed
        (deploymentCtx legacyDeployment) = .error f ctx') ∧
      (∀ frames frames', SameButCreate frames frames' →
        (factory.handlerFor blockEleven).transactOne (Transfers.mainnetOfCA.withFrames frames')
            (EvTxEnv.fromRecoveredTx kindsOnly paymentCrypto lateDeployment paymentSender)
            (deploymentCtx lateDeployment) =
          (factory.handlerFor blockEleven).transactOne (Transfers.mainnetOfCA.withFrames frames)
            (EvTxEnv.fromRecoveredTx kindsOnly paymentCrypto lateDeployment paymentSender)
            (deploymentCtx lateDeployment)) ∧
      ¬ ∃ f ctx', (factory.handlerFor blockEleven).ensureDeployAllowed
        { deploymentCtx legacyDeployment with
          tx := EvTxEnv.fromRecoveredTx kindsOnly paymentCrypto legacyDeployment 0xA1 } =
        .error f ctx' := by
  obtain ⟨factory, hfactory⟩ : ∃ factory, buildEvmConfig (some (.ok twoDeployers)) = .ok factory :=
    ⟨_, rfl⟩
  have hgate (tx : EvTxEnvelope fun _ => TxKind)
      (hcall : EvTransactionValidator.HasCall tx) (sender : Address) :=
    @deploy_gate_exact _ kindsOnly paymentCrypto _ factory hfactory blockEleven
      Transfers.mainnetOfCA (Transfers.keepsEnvironment _) (Transfers.framesShowKind _)
      ⟨fun _ _ => rfl, fun _ _ => rfl⟩ tx hcall sender (deploymentCtx tx)
  refine ⟨factory, hfactory, ?_, fun frames frames' hsame => ?_, ?_⟩
  · exact (hgate legacyDeployment trivial paymentSender).1.mpr (by decide)
  · exact ((hgate lateDeployment nofun paymentSender).2.1 (by decide) frames frames' hsame).1
  · exact fun hrejects => absurd ((hgate legacyDeployment trivial 0xA1).1.mp hrejects) (by decide)

end Gate

end EvReth
