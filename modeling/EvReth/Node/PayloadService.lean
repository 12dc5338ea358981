import EvReth.Node.Builder

/-!
# Payloads of the Engine API

`EvolveEnginePayloadBuilder::try_build` (`crates/node/src/payload_service.rs`) builds a payload from
the attributes that arrive over the Engine API. Their transactions are byte strings that may be
anything: some do not decode, some have no signer, some fail. The first and the last kind are left
out; the second kind ends the build.
-/

namespace EvReth

/-- `PayloadAttributes` of the Engine API. -/
structure RpcPayloadAttributes where
  timestamp : U64
  prevRandao : B256
  suggestedFeeRecipient : Address
  withdrawals : Option (List Withdrawal)
  parentBeaconBlockRoot : Option B256
  slotNumber : Option U64
  deriving DecidableEq, Repr

/-- `EvolveEnginePayloadAttributes` (`crates/node/src/attributes.rs`). -/
structure EvolveEnginePayloadAttributes where
  inner : RpcPayloadAttributes
  transactions : Option (List Bytes)
  gasLimit : Option U64
  deriving DecidableEq, Repr

/-- `BlobsBundleV1` and `BlobsBundleV2`. -/
structure BlobsBundle where
  commitments : List Bytes := []
  proofs : List Bytes := []
  blobs : List Bytes := []
  deriving DecidableEq, Repr

/-- `BlobSidecars`, by the bundle that is made of them. -/
inductive BlobSidecars where
  | empty
  | eip4844 (bundle : BlobsBundle)
  | eip7594 (bundle : BlobsBundle)
  deriving DecidableEq, Repr

/-- `EvBuiltPayload` (`crates/node/src/payload_types.rs`). -/
structure EvBuiltPayload (Payload : TxType → Type) where
  id : U64
  block : SealedBlock Payload
  fees : U256
  sidecars : BlobSidecars
  requests : Option (List Bytes)

/-- `new`: a payload without sidecars. -/
def EvBuiltPayload.new {Payload : TxType → Type} (id : U64) (block : SealedBlock Payload)
    (fees : U256) (requests : Option (List Bytes)) : EvBuiltPayload Payload :=
  { id, block, fees, sidecars := .empty, requests }

/-- `PayloadConfig`: what a payload is built from. -/
structure PayloadConfig where
  parentHeader : Header
  parentHash : B256
  attributes : EvolveEnginePayloadAttributes
  payloadId : U64

/-- `EvolveEnginePayloadBuilder`. The pool is known by its pending transactions. -/
structure EvolveEnginePayloadBuilder (Payload : TxType → Type) where
  evolveBuilder : EvolvePayloadBuilder Payload
  config : EvolvePayloadBuilderConfig
  pendingTransactions : List (EvTxEnvelope Payload)
  devMode : Bool

namespace EvolveEnginePayloadBuilder

variable {Payload : TxType → Type} (self : EvolveEnginePayloadBuilder Payload)

/-- A raw transaction, if it decodes. -/
def decodeTransaction (bytes : Bytes) : Option (EvTxEnvelope Payload) :=
  (EvTxEnvelope.decode2718Exact self.evolveBuilder.evmConfig.eth bytes).toOption

/-- The raw transactions of the attributes that decode, in order. -/
def decodeTransactions (raw : List Bytes) : List (EvTxEnvelope Payload) :=
  raw.filterMap self.decodeTransaction

/-- The attributes with which `try_build` and `build_empty_payload` call the builder. -/
def evolveAttributes (config : PayloadConfig) (transactions : List (EvTxEnvelope Payload)) :
    EvolvePayloadAttributes Payload :=
  let blockNumber := config.parentHeader.number + 1
  { transactions
    gasLimit := some (config.attributes.gasLimit.getD config.parentHeader.gasLimit)
    timestamp := config.attributes.inner.timestamp
    prevRandao := config.attributes.inner.prevRandao
    suggestedFeeRecipient :=
      self.config.resolveFeeRecipient config.attributes.inner.suggestedFeeRecipient blockNumber
    parentHash := config.parentHash
    blockNumber
    slotNumber := config.attributes.inner.slotNumber }

/-- Build a block and make a payload of it. The state is the gas limit that is published for the
RPC. -/
def buildFrom (client : Client) (config : PayloadConfig)
    (transactions : List (EvTxEnvelope Payload)) :
    EStateM BuildFailure U64 (EvBuiltPayload Payload) := do
  set (config.attributes.gasLimit.getD config.parentHeader.gasLimit)
  match self.evolveBuilder.buildPayload client (self.evolveAttributes config transactions) with
  | .error e => throw e
  | .ok block =>
    return .new config.payloadId block (block.header.gasUsed.setWidth 256) none

/-- The attributes of `try_build` outside of dev mode: the raw transactions are decoded. -/
def decodedAttributes (config : PayloadConfig) : EvolvePayloadAttributes Payload :=
  self.evolveAttributes config
    (self.decodeTransactions (config.attributes.transactions.getD []))

/-- `try_build`. In dev mode the transactions are those of the pool, otherwise those of the
attributes that decode. -/
def tryBuild (client : Client) (config : PayloadConfig) :
    EStateM BuildFailure U64 (EvBuiltPayload Payload) :=
  self.buildFrom client config
    (if self.devMode then self.pendingTransactions
    else self.decodeTransactions (config.attributes.transactions.getD []))

/-- `build_empty_payload`. -/
def buildEmptyPayload (client : Client) (config : PayloadConfig) :
    EStateM BuildFailure U64 (EvBuiltPayload Payload) :=
  self.buildFrom client config []

/-! ## Bad transactions -/

/-- The configuration with other raw transactions. -/
def withTransactions (config : PayloadConfig) (raw : List Bytes) : PayloadConfig :=
  { config with attributes := { config.attributes with transactions := some raw } }

/-- The raw transactions that belong into the block: those that decode, have a signer and execute on
what the ones before them have left. -/
def keptOn (base : WorldState) (parent : Header) (config : PayloadConfig) : List Bytes :=
  match self.evolveBuilder.nextBlockAttributes parent (self.decodedAttributes config) with
  | .error _ => []
  | .ok nextAttributes =>
    match self.evolveBuilder.begin base parent (self.decodedAttributes config).parentHash
        nextAttributes with
    | .error _ => []
    | .ok builder =>
      SkipLoop.accepted
        (SkipLoop.dropping
          (SkipLoop.decoding self.evolveBuilder.processTransaction self.decodeTransaction))
        (config.attributes.transactions.getD []) builder

/-- A payload is built of the transactions that belong into the block, and is the one that they make
by themselves. -/
def Delivers (client : Client) (base : WorldState) (parent : Header) (config : PayloadConfig)
    (gasLimit : U64) : Prop :=
  ∃ payload gasLimit', self.tryBuild client config gasLimit = .ok payload gasLimit' ∧
    payload.block.transactions = self.decodeTransactions (self.keptOn base parent config) ∧
    self.tryBuild client (withTransactions config (self.keptOn base parent config)) gasLimit =
      .ok payload gasLimit'

variable {self} {client : Client} {base : WorldState} {parent : Header} {config : PayloadConfig}
  {gasLimit gasLimit' : U64}

/-- A build that fails has published its gas limit nevertheless. -/
theorem buildFrom_of_error {transactions : List (EvTxEnvelope Payload)} {e : BuildFailure}
    (h : self.evolveBuilder.buildPayload client (self.evolveAttributes config transactions) =
      .error e) :
    self.buildFrom client config transactions gasLimit =
      .error e (config.attributes.gasLimit.getD config.parentHeader.gasLimit) := by
  rw [buildFrom, EStateM.bind_of_ok EStateM.set_apply, h]
  rfl

/-- A payload is built exactly if a block is. -/
theorem buildFrom_eq_ok_iff {transactions : List (EvTxEnvelope Payload)}
    {payload : EvBuiltPayload Payload} :
    self.buildFrom client config transactions gasLimit = .ok payload gasLimit' ↔
      ∃ block, self.evolveBuilder.buildPayload client (self.evolveAttributes config transactions) =
          .ok block ∧
        payload = .new config.payloadId block (block.header.gasUsed.setWidth 256) none ∧
        gasLimit' = config.attributes.gasLimit.getD config.parentHeader.gasLimit := by
  rw [buildFrom, EStateM.bind_of_ok EStateM.set_apply]
  cases self.evolveBuilder.buildPayload client (self.evolveAttributes config transactions) with
  | error e => exact iff_of_false (fun h => nomatch h) fun ⟨_, h, _⟩ => nomatch h
  | ok block =>
    constructor
    · intro h
      obtain ⟨rfl, rfl⟩ := EStateM.Result.ok.inj h
      exact ⟨block, rfl, rfl, rfl⟩
    · rintro ⟨block', hblock, rfl, rfl⟩
      rw [Except.ok.inj hblock]
      rfl

section Deliver

/- What is assumed of the client: the latest state and the parent are there. -/
variable (hlatest : client.latest = .ok base)
  (hparent : client.header config.parentHash = .ok (some parent))
  (hgas : config.attributes.gasLimit.getD config.parentHeader.gasLimit ≠ 0)

include hlatest hparent hgas in
/-- With the state and the parent at hand, the build is that on the two. -/
theorem buildOutcome_eq (transactions : List (EvTxEnvelope Payload)) :
    self.evolveBuilder.buildOutcome client (self.evolveAttributes config transactions) =
      self.evolveBuilder.buildOn base parent (self.evolveAttributes config transactions) := by
  have hvalid : (self.evolveAttributes config transactions).validate = .ok () := by
    rw [EvolvePayloadAttributes.validate, if_neg]
    exact fun h => hgas (Option.some.inj h)
  have hopen : EvolvePayloadBuilder.openState client (self.evolveAttributes config transactions) =
      .ok base := EvolvePayloadBuilder.openState_eq_ok_iff.mpr ⟨hvalid, hlatest⟩
  exact EvolvePayloadBuilder.buildOutcome_eq_buildOn hopen
    (EvolvePayloadBuilder.fetchParent_eq_ok_iff.mpr hparent)

variable (config) in
include hlatest hparent hgas in
/-- The payload of a block that is built on the state and the parent. -/
theorem buildFrom_of_buildOn {transactions : List (EvTxEnvelope Payload)}
    {outcome : BlockBuilderOutcome Payload}
    (h : self.evolveBuilder.buildOn base parent (self.evolveAttributes config transactions) =
      .ok outcome) :
    self.buildFrom client config transactions gasLimit =
      .ok (.new config.payloadId outcome.block (outcome.block.header.gasUsed.setWidth 256) none)
        (config.attributes.gasLimit.getD config.parentHeader.gasLimit) := by
  refine buildFrom_eq_ok_iff.mpr ⟨outcome.block, ?_, rfl, rfl⟩
  rw [EvolvePayloadBuilder.buildPayload, buildOutcome_eq hlatest hparent hgas, h]
  rfl

include hlatest hparent hgas in
/-- A payload is built exactly if the block is built on the state and the parent. -/
theorem buildFrom_succeeds_iff {transactions : List (EvTxEnvelope Payload)} :
    (∃ payload gasLimit',
      self.buildFrom client config transactions gasLimit = .ok payload gasLimit') ↔
      (self.evolveBuilder.buildOn base parent
        (self.evolveAttributes config transactions)).Succeeds := by
  simp only [buildFrom_eq_ok_iff, EvolvePayloadBuilder.buildPayload, Except.map_eq_ok_iff,
    buildOutcome_eq hlatest hparent hgas]
  constructor
  · rintro ⟨-, -, -, ⟨outcome, hbuild, -⟩, -⟩
    exact ⟨outcome, hbuild⟩
  · rintro ⟨outcome, hbuild⟩
    exact ⟨_, _, outcome.block, ⟨outcome, hbuild, rfl⟩, rfl, rfl⟩

/-- Where the block is built, the transactions that belong into it are those that are accepted. -/
theorem decodeTransactions_keptOn (hreliable : self.evolveBuilder.evmConfig.Reliable)
    (hbuild :
      (self.evolveBuilder.buildOn base parent (self.decodedAttributes config)).Succeeds) :
    self.decodeTransactions (self.keptOn base parent config) =
      self.evolveBuilder.acceptedOn base parent (self.decodedAttributes config) := by
  obtain ⟨outcome, h⟩ := hbuild
  obtain ⟨next, hnext, first, hbegin, -⟩ := EvolvePayloadBuilder.buildOn_eq_ok_iff.mp h
  have hcompletes := (EvolvePayloadBuilder.buildOn_succeeds_iff_completes hreliable hnext
    hbegin).mp ⟨outcome, h⟩
  rw [EvolvePayloadBuilder.acceptedOn_eq hnext hbegin]
  simp only [keptOn, hnext, hbegin]
  rw [SkipLoop.accepted_dropping ((SkipLoop.completes_decoding _).mpr hcompletes)]
  exact SkipLoop.accepted_decoding _ _ _

/-- A build leaves out what does not decode and what is rejected, and goes on, exactly if every
transaction that decodes has a signer and the fees of none overflow at its turn. -/
theorem tryBuild_delivers_iff (hdev : self.devMode = false) (hlatest : client.latest = .ok base)
    (hparent : client.header config.parentHash = .ok (some parent))
    (hgas : config.attributes.gasLimit.getD config.parentHeader.gasLimit ≠ 0)
    (hkeeps : ∀ env, (self.evolveBuilder.evmConfig.mainnet env).KeepsSetup)
    (hpanics : ∀ env, (self.evolveBuilder.evmConfig.mainnet env).NeverPanics)
    (hreliable : self.evolveBuilder.evmConfig.Reliable) :
    self.Delivers client base parent config gasLimit ↔
      (∀ tx ∈ (self.decodedAttributes config).transactions,
        (self.evolveBuilder.signer tx).isSome) ∧
      ∀ tx builder,
        self.evolveBuilder.AtTurn base parent (self.decodedAttributes config) tx builder →
        ∀ signer, self.evolveBuilder.signer tx = some signer →
          ¬ EvBlockExecutor.Overflows self.evolveBuilder.evmConfig ⟨tx, signer⟩
            builder.executor := by
  have htry (config : PayloadConfig) : self.tryBuild client config =
      self.buildFrom client config (self.decodedAttributes config).transactions := by
    simp only [tryBuild, hdev, Bool.false_eq_true, if_false]
    rfl
  refine Iff.trans ?_ (EvolvePayloadBuilder.buildOn_succeeds_iff hpanics hreliable rfl)
  constructor
  · rintro ⟨payload, gasLimit', hbuilt, -, -⟩
    rw [htry] at hbuilt
    exact (buildFrom_succeeds_iff hlatest hparent hgas).mp ⟨payload, gasLimit', hbuilt⟩
  · intro hbuild
    have hkept := decodeTransactions_keptOn hreliable hbuild
    obtain ⟨outcome, h⟩ := hbuild
    obtain ⟨htransactions, -, hagain⟩ := EvolvePayloadBuilder.buildOn_accepted hkeeps h
    refine ⟨.new config.payloadId outcome.block (outcome.block.header.gasUsed.setWidth 256) none,
      config.attributes.gasLimit.getD config.parentHeader.gasLimit, ?_,
      htransactions.trans hkept.symm, ?_⟩
    · rw [htry]
      exact buildFrom_of_buildOn config hlatest hparent hgas h
    · rw [htry]
      -- the kept transactions decode to the accepted ones
      rw [← hkept] at hagain
      exact buildFrom_of_buildOn (withTransactions config _) hlatest hparent hgas hagain

end Deliver

section Payment

open EvolvePayloadBuilder (paymentBuilder paymentClient paymentParent senderWorld)

/-- The service of `paymentBuilder`. -/
def paymentService : EvolveEnginePayloadBuilder fun _ => Empty :=
  { evolveBuilder := paymentBuilder
    config := paymentBuilder.config
    pendingTransactions := []
    devMode := false }

/-- A payload of raw transactions on the block that `paymentClient` knows. -/
def paymentConfig (raw : List Bytes) : PayloadConfig :=
  { parentHeader := paymentParent
    parentHash := 0xAA
    attributes :=
      { inner :=
          { timestamp := 1710338136
            prevRandao := 0
            suggestedFeeRecipient := 0xFE
            withdrawals := some []
            parentBeaconBlockRoot := some 0
            slotNumber := none }
        transactions := some raw
        gasLimit := none }
    payloadId := 1 }

/-- The bytes of a payment without sponsor, under a signature. -/
def rawPayment (signature : Signature) : Bytes :=
  { EvNodeTransaction.wirePayment with feePayerSignature := none }.eip2718Encode signature

/-- Bytes that do not decode, a payment that its sponsor cannot pay for, and one that its sender
pays for. -/
def mixedPayments : List Bytes :=
  [[0xde, 0xad, 0xbe, 0xef],
    EvNodeTransaction.wirePayment.eip2718Encode EvTxEnvelope.unitSignature,
    rawPayment EvTxEnvelope.unitSignature]

theorem reliable_paymentService : paymentService.evolveBuilder.evmConfig.Reliable :=
  ⟨fun _ _ _ => ⟨_, rfl⟩, fun _ _ _ => ⟨_, rfl⟩, fun _ => ⟨_, rfl⟩, fun _ _ => ⟨_, rfl⟩,
    fun _ => ⟨_, rfl⟩, fun _ _ => ⟨_, rfl⟩, fun _ _ => ⟨_, rfl⟩⟩

/-- Bytes that do not decode and a payment that cannot be paid for are left out; the payment after
them is built into a block. -/
theorem tryBuild_delivers_payment :
    paymentService.Delivers paymentClient senderWorld paymentParent
        (paymentConfig mixedPayments) 0 ∧
      paymentService.keptOn senderWorld paymentParent (paymentConfig mixedPayments) =
        [rawPayment EvTxEnvelope.unitSignature] := by
  have hbuild : (paymentService.evolveBuilder.buildOn senderWorld paymentParent
      (paymentService.decodedAttributes (paymentConfig mixedPayments))).toOption.isSome = true := by
    decide +kernel
  -- the condition holds since the block is built
  have hgood := (EvolvePayloadBuilder.buildOn_succeeds_iff (fun _ => Transfers.neverPanics _)
    reliable_paymentService rfl).mp (Except.succeeds_of_isSome hbuild)
  refine ⟨(tryBuild_delivers_iff rfl rfl rfl (by decide) (fun _ => Transfers.keepsSetup _)
    (fun _ => Transfers.neverPanics _) reliable_paymentService).mpr hgood, ?_⟩
  decide +kernel

/-- A payment whose signature recovers to nobody stops the build, and the good payment before it
makes no block. -/
theorem tryBuild_stopped :
    paymentService.keptOn senderWorld paymentParent
        (paymentConfig [rawPayment EvTxEnvelope.unitSignature, rawPayment ⟨0, 0, false⟩]) =
        [rawPayment EvTxEnvelope.unitSignature] ∧
      paymentService.tryBuild paymentClient
          (paymentConfig [rawPayment EvTxEnvelope.unitSignature, rawPayment ⟨0, 0, false⟩]) 0 =
        .error (.error (.internal "Failed to recover transaction")) 30000000 ∧
      ¬ paymentService.Delivers paymentClient senderWorld paymentParent
        (paymentConfig [rawPayment EvTxEnvelope.unitSignature, rawPayment ⟨0, 0, false⟩]) 0 := by
  have hstopped : paymentService.tryBuild paymentClient
      (paymentConfig [rawPayment EvTxEnvelope.unitSignature, rawPayment ⟨0, 0, false⟩]) 0 =
      .error (.error (.internal "Failed to recover transaction")) 30000000 := rfl
  refine ⟨by decide +kernel, hstopped, ?_⟩
  rintro ⟨payload, gasLimit', h, -⟩
  cases hstopped.symm.trans h

end Payment

end EvolveEnginePayloadBuilder

end EvReth
