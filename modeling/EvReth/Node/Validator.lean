import EvReth.Node.EnginePayload

/-!
# The engine validator

`EvolveEngineValidator` (`crates/node/src/validator.rs`) makes a block of an execution payload. It
asks reth's validator first, which knows the standard transactions only. Two of its errors are
bypassed, a wrong block hash and an unknown transaction type: then `parse_evolve_payload` puts the
block together by itself. The strict converter is reth's validator for the transactions of the node.

The second parser leaves out more than the comparison of hashes. It reads a transaction without
looking at what is behind it, computes the transactions root of what it would write itself, and
checks no field that belongs to a fork.
-/

namespace EvReth

open EStateM

/-! ## Reading transactions -/

variable {Payload : TxType → Type}

/-- `decode_2718` of the standard transactions. -/
def EthereumSupport.decode2718 (eth : EthereumSupport Payload) :
    EStateM Eip2718Error Bytes (EthereumTransaction Payload) := do
  match (← get) with
  | ty :: rest =>
    if ty.toNat < 0x80 then
      set rest
      eth.typedDecode ty
    else eth.fallbackDecode
  | [] => eth.fallbackDecode

/-- `decode_2718_exact`, for what `decode_2718` reads. -/
def decodeExact {T : Type} (decode2718 : EStateM Eip2718Error Bytes T) (bytes : Bytes) :
    Except Eip2718Error T :=
  match decode2718 bytes with
  | .ok tx rest => if rest.isEmpty then .ok tx else .error (.rlpError .unexpectedLength)
  | .error e _ => .error e

/-- `decode_2718` of bytes of which the rest is dropped. -/
def decodeStart {T : Type} (decode2718 : EStateM Eip2718Error Bytes T) (bytes : Bytes) :
    Except Eip2718Error T :=
  match decode2718 bytes with
  | .ok tx _ => .ok tx
  | .error e _ => .error e

/-- `encode_2718`, given that of the standard transactions. -/
def EvTxEnvelope.encode2718 (encodeEthereum : EthereumTransaction Payload → Bytes) :
    EvTxEnvelope Payload → Bytes
  | .ethereum tx => encodeEthereum tx
  | .evNode tx signature => tx.eip2718Encode signature

/-! ## Errors -/

/-- What reth finds wrong with the fields of a fork: withdrawals, blob fields, requests or versioned
hashes. -/
inductive PayloadFieldsError where
  | shanghai (msg : String)
  | cancun (msg : String)
  | prague (msg : String)
  deriving DecidableEq, Repr

/-- `PayloadError`. -/
inductive PayloadError where
  | extraData (extraData : Bytes)
  | baseFee (baseFeePerGas : U256)
  | decode (e : Rlp.Error)
  | blockHash (execution consensus : B256)
  | fields (e : PayloadFieldsError)
  deriving DecidableEq, Repr

/-- `alloy_rlp::Error::from`. -/
def Eip2718Error.toRlpError : Eip2718Error → Rlp.Error
  | .rlpError e => e
  | .unexpectedType _ => .custom "Unexpected type flag"

/-- `UNKNOWN_TX_TYPE_ERROR_MSG`. -/
def unknownTxTypeErrorMsg : String := "unexpected tx type"

/-- `is_unknown_tx_type_error`. The texts of the errors that are not custom have no such part. -/
def PayloadError.isUnknownTxTypeError : PayloadError → Bool
  | .decode (.custom msg) => decide (unknownTxTypeErrorMsg.toList <:+: msg.toList)
  | _ => false

/-- `should_bypass`. -/
def PayloadError.shouldBypass : PayloadError → Bool
  | .blockHash _ _ => true
  | err => err.isUnknownTxTypeError

/-- `NewPayloadError`. -/
inductive NewPayloadError where
  | eth (e : PayloadError)
  /-- `other` of an error of the strict converter. -/
  | payload (e : PayloadError)
  /-- `Other` of a transaction that does not decode. -/
  | decode (e : Eip2718Error)
  /-- `Other` of a block with a transaction that has no signer. -/
  | recovery
  deriving DecidableEq, Repr

/-! ## The validator -/

/-- `RecoveredBlock`. -/
structure RecoveredBlock (Payload : TxType → Type) where
  block : SealedBlock Payload
  senders : List Address

/-- `EvolveEngineValidator`, with what the node takes from its dependencies. -/
structure EvolveEngineValidator (Payload : TxType → Type) where
  evmConfig : EvEvmConfig Payload
  /-- `encode_2718` of a standard transaction. -/
  encodeEthereum : EthereumTransaction Payload → Bytes
  /-- The root of the trie of a list of encodings. -/
  orderedTrieRoot : List Bytes → B256
  calculateWithdrawalsRoot : List Withdrawal → B256
  /-- `requests_hash` of a list of requests. -/
  requestsHash : List Bytes → B256
  /-- reth's checks of the fields that belong to Shanghai, Cancun and Prague. -/
  ensureWellFormedFields :
    SealedBlock Payload → ExecutionPayloadSidecar → Except PayloadFieldsError Unit

/-- `EMPTY_OMMER_ROOT_HASH`. -/
def emptyOmmerRootHash : B256 :=
  0x1dcc4de8dec75d7aab85b567b6ccd41ad312451b948a7413f0a142fd40d49347

/-- `MAXIMUM_EXTRA_DATA_SIZE`. -/
def maximumExtraDataSize : ℕ := 32

namespace EvolveEngineValidator

variable (self : EvolveEngineValidator Payload)

/-- `encode_2718`. -/
def encode2718 : EvTxEnvelope Payload → Bytes := EvTxEnvelope.encode2718 self.encodeEthereum

/-- `decode_2718`. -/
def decode2718 : EStateM Eip2718Error Bytes (EvTxEnvelope Payload) :=
  EvTxEnvelope.decode2718 self.evmConfig.eth

/-- `calculate_transaction_root`. -/
def calculateTransactionRoot (transactions : List (EvTxEnvelope Payload)) : B256 :=
  self.orderedTrieRoot (transactions.map self.encode2718)

/-- The header of a payload with the given transactions root. -/
def headerOf (data : ExecutionData) (transactionsRoot : B256) : Header :=
  let v1 := data.payload.asV1
  { parentHash := v1.parentHash
    ommersHash := emptyOmmerRootHash
    beneficiary := v1.feeRecipient
    stateRoot := v1.stateRoot
    transactionsRoot
    receiptsRoot := v1.receiptsRoot
    logsBloom := v1.logsBloom
    difficulty := 0
    number := v1.blockNumber
    gasLimit := v1.gasLimit
    gasUsed := v1.gasUsed
    timestamp := v1.timestamp
    extraData := v1.extraData
    mixHash := v1.prevRandao
    nonce := 0
    baseFeePerGas := some data.payload.saturatedBaseFeePerGas
    withdrawalsRoot := data.payload.withdrawals.map self.calculateWithdrawalsRoot
    blobGasUsed := data.payload.blobGasUsed
    excessBlobGas := data.payload.excessBlobGas
    blockAccessListHash := data.payload.balHash self.evmConfig.crypto.keccak256
    parentBeaconBlockRoot := data.sidecar.parentBeaconBlockRoot
    requestsHash := data.sidecar.requestsHash self.requestsHash
    slotNumber := data.payload.slotNumber }

/-- `seal_slow` of the block that a payload, a transactions root and transactions make. -/
def sealSlow (data : ExecutionData) (transactionsRoot : B256)
    (transactions : List (EvTxEnvelope Payload)) : SealedBlock Payload :=
  let header := self.headerOf data transactionsRoot
  { header
    hash := self.evmConfig.hashSlow header
    transactions
    withdrawals := data.payload.withdrawals }

/-- The signer of a transaction. -/
def signer (tx : EvTxEnvelope Payload) : Option Address :=
  tx.recoverSigner self.evmConfig.crypto self.evmConfig.eth.signingFields

/-- The signer of a transaction, or an error. -/
def recoverSigner {ε : Type} (e : ε) (tx : EvTxEnvelope Payload) : Except ε Address :=
  match self.signer tx with
  | some signer => .ok signer
  | none => .error e

/-- `try_recover`. -/
def tryRecover (block : SealedBlock Payload) : Except NewPayloadError (RecoveredBlock Payload) := do
  let senders ← block.transactions.mapM (self.recoverSigner .recovery)
  return { block, senders }

/-- alloy's checks of a payload before its transactions are read: the extra data is short and the
base fee a `u64`. -/
def checkHeader (data : ExecutionData) : Except PayloadError Unit :=
  let v1 := data.payload.asV1
  if maximumExtraDataSize < v1.extraData.length then .error (.extraData v1.extraData)
  else if 2 ^ 64 ≤ v1.baseFeePerGas.toNat then .error (.baseFee v1.baseFeePerGas)
  else .ok ()

/-- reth's checks of the block that a payload makes: the stated hash, then the fields of forks. -/
def checkBlock (data : ExecutionData) (block : SealedBlock Payload) : Except PayloadError Unit :=
  if data.payload.blockHash ≠ block.hash then
    .error (.blockHash block.hash data.payload.blockHash)
  else (self.ensureWellFormedFields block data.sidecar).mapError .fields

/-- reth's `ensure_well_formed_payload` for transactions of type `T`, which are put into the
envelope as `convert_sealed_block` does it. The transactions root is that of the bytes of the
payload. -/
def ensureWellFormedPayloadOf {T : Type} (decode2718 : EStateM Eip2718Error Bytes T)
    (wrap : T → EvTxEnvelope Payload) (data : ExecutionData) :
    Except PayloadError (SealedBlock Payload) := do
  checkHeader data
  let transactions ← data.payload.transactions.mapM fun tx =>
    (decodeExact decode2718 tx).mapError fun e => .decode e.toRlpError
  let block := self.sealSlow data (self.orderedTrieRoot data.payload.transactions)
    (transactions.map wrap)
  self.checkBlock data block
  return block

/-- The inner validator: reth's, for the standard transactions. -/
def inner (data : ExecutionData) : Except PayloadError (SealedBlock Payload) :=
  self.ensureWellFormedPayloadOf self.evmConfig.eth.decode2718 .ethereum data

/-- `convert_payload_to_block`. -/
def convertPayloadToBlock (data : ExecutionData) : Except NewPayloadError (SealedBlock Payload) :=
  (self.ensureWellFormedPayloadOf self.decode2718 id data).mapError .payload

/-- `parse_evolve_payload`. -/
def parseEvolvePayload (data : ExecutionData) :
    Except NewPayloadError (SealedBlock Payload) := do
  let transactions ← data.payload.transactions.mapM fun tx =>
    (decodeStart self.decode2718 tx).mapError .decode
  return self.sealSlow data (self.calculateTransactionRoot transactions) transactions

/-- `ensure_well_formed_payload`. -/
def ensureWellFormedPayload (data : ExecutionData) :
    Except NewPayloadError (RecoveredBlock Payload) :=
  match self.inner data with
  | .ok block => self.tryRecover block
  | .error err =>
    if err.shouldBypass then do
      let block ← self.parseEvolvePayload data
      self.tryRecover block
    else .error (.eth err)

/-- How a raw transaction fails to become one that can be executed. -/
inductive TxConversionError where
  | decode (e : Eip2718Error)
  | recovery
  deriving DecidableEq, Repr

/-- The closure `convert` of `tx_iterator_for_payload` (`crates/node/src/executor.rs`). -/
def convert (bytes : Bytes) : Except TxConversionError (Recovered Payload) := do
  let tx ← (decodeExact self.decode2718 bytes).mapError .decode
  let signer ← self.recoverSigner .recovery tx
  return ⟨tx, signer⟩

/-- `tx_iterator_for_payload`: what is executed of a payload. -/
def txIteratorForPayload (data : ExecutionData) :
    List (Except TxConversionError (Recovered Payload)) :=
  data.payload.transactions.map self.convert

end EvolveEngineValidator

/-! ## What the decoders have in common -/

section Decoders

variable {T : Type} {read : EStateM Eip2718Error Bytes T} {bytes rest : Bytes}
  {eth : EthereumSupport Payload}

/-- Exact decoding reads to the end. -/
theorem decodeExact_eq_ok_iff {tx : T} :
    decodeExact read bytes = .ok tx ↔ read bytes = .ok tx [] := by
  unfold decodeExact
  cases read bytes with
  | ok tx' rest => cases rest <;> simp
  | error e rest => simp

/-- Decoding without a check of the rest accepts any rest. -/
theorem decodeStart_eq_ok_iff {tx : T} :
    decodeStart read bytes = .ok tx ↔ ∃ rest, read bytes = .ok tx rest := by
  unfold decodeStart
  cases read bytes with
  | ok tx' rest => simp
  | error e rest => simp

/-- The standard decoder does not know EvNode transactions, and says so with the text that
`is_unknown_tx_type_error` looks for. -/
def EthereumSupport.RejectsEvNode (eth : EthereumSupport Payload) : Prop :=
  ∀ bytes, ∃ e rest, eth.typedDecode evnodeTxTypeId bytes = .error e rest ∧
    e.toRlpError = .custom unknownTxTypeErrorMsg

/-- Behind another byte than that of EvNode transactions, the two decoders read the same. -/
theorem EvTxEnvelope.decode2718_standard (h : bytes.head? ≠ some evnodeTxTypeId) :
    EvTxEnvelope.decode2718 eth bytes = (EvTxEnvelope.ethereum <$> eth.decode2718) bytes := by
  cases bytes with
  | nil => rfl
  | cons ty tail =>
    have hty : ty ≠ evnodeTxTypeId := fun heq => h (congrArg some heq)
    rw [map_eq_pure_bind, EvTxEnvelope.decode2718, EthereumSupport.decode2718, bind_get]
    simp only [bind_assoc, hty, if_false]
    rw [bind_get]
    simp only
    split_ifs <;> rfl

/-- Behind the byte of EvNode transactions, the standard decoder fails. -/
theorem EthereumSupport.decode2718_evNode (hrejects : eth.RejectsEvNode)
    (h : bytes.head? = some evnodeTxTypeId) :
    ∃ e rest, eth.decode2718 bytes = .error e rest ∧
      e.toRlpError = .custom unknownTxTypeErrorMsg := by
  cases bytes with
  | nil => cases h
  | cons ty tail =>
    obtain rfl := Option.some.inj h
    exact hrejects tail

/-- What the standard decoder reads, the decoder of the node reads. -/
theorem EvTxEnvelope.decode2718_of_standard (hrejects : eth.RejectsEvNode)
    {tx : EthereumTransaction Payload} (h : eth.decode2718 bytes = .ok tx rest) :
    EvTxEnvelope.decode2718 eth bytes = .ok (.ethereum tx) rest := by
  have hhead : bytes.head? ≠ some evnodeTxTypeId := by
    intro heq
    obtain ⟨e, rest', herror, -⟩ := EthereumSupport.decode2718_evNode hrejects heq
    cases herror.symm.trans h
  rw [EvTxEnvelope.decode2718_standard hhead, map_eq_pure_bind, bind_of_ok h]
  rfl

/-- What is read as an EvNode transaction, the decoder of the node reads. -/
theorem EvTxEnvelope.decode2718_of_evNode {tx : EvNodeTransaction} {signature : Signature}
    (h : EvNodeTransaction.eip2718Decode bytes = .ok (tx, signature) rest) :
    EvTxEnvelope.decode2718 eth bytes = .ok (.evNode tx signature) rest := by
  obtain ⟨htype, hrecord⟩ := EvNodeTransaction.eip2718Decode_eq_ok h
  rw [htype]
  exact bind_of_ok (adaptExcept_of_ok hrecord)

/-- Where the standard decoder fails for another reason than the type, the decoder of the node
fails. -/
theorem EvTxEnvelope.unknownType_of_decode2718 (hrejects : eth.RejectsEvNode) {e : Eip2718Error}
    (h : decodeExact eth.decode2718 bytes = .error e) {tx : EvTxEnvelope Payload}
    (htx : EvTxEnvelope.decode2718 eth bytes = .ok tx []) :
    (PayloadError.decode e.toRlpError).isUnknownTxTypeError = true := by
  by_cases hhead : bytes.head? = some evnodeTxTypeId
  · obtain ⟨e', rest', herror, htext⟩ := EthereumSupport.decode2718_evNode hrejects hhead
    rw [decodeExact, herror] at h
    obtain rfl := Except.error.inj h
    rw [htext]
    exact decide_eq_true (List.infix_refl unknownTxTypeErrorMsg.toList)
  · rw [EvTxEnvelope.decode2718_standard hhead, map_eq_pure_bind] at htx
    obtain ⟨tx', rest', hread, hpure⟩ := bind_eq_ok htx
    obtain ⟨-, rfl⟩ := EStateM.Result.ok.inj hpure
    rw [decodeExact_eq_ok_iff.mpr hread] at h
    cases h

end Decoders

/-! ## How transactions are written -/

/-- alloy's codec of the standard transactions: EvNode transactions are none of them, and what is
read is what is written, in front of the rest. -/
structure EvolveEngineValidator.StandardCodec (validator : EvolveEngineValidator Payload) :
    Prop where
  rejectsEvNode : validator.evmConfig.eth.RejectsEvNode
  canonical : ∀ bytes tx rest, validator.evmConfig.eth.decode2718 bytes = .ok tx rest →
    bytes = validator.encodeEthereum tx ++ rest

namespace EvolveEngineValidator

variable (self : EvolveEngineValidator Payload)

/-- A raw transaction is read to its end, and is the one that the node writes: the sponsor's
signature of an EvNode transaction ends in one of the two `v` values that are written. -/
def WrittenExactly (bytes : Bytes) : Prop :=
  (∃ tx, self.decode2718 bytes = .ok tx []) ∧
    (bytes.head? = some evnodeTxTypeId → EvNodeTransaction.SponsorFieldWritten bytes.tail)

variable {self} {bytes : Bytes} {tx : EvTxEnvelope Payload}

/-- A transaction that is read to its end is written back as it was, exactly if its sponsor field
is. -/
theorem encode2718_eq_iff (hcodec : self.StandardCodec)
    (h : self.decode2718 bytes = .ok tx []) :
    self.encode2718 tx = bytes ↔
      (bytes.head? = some evnodeTxTypeId →
        EvNodeTransaction.SponsorFieldWritten bytes.tail) := by
  by_cases hhead : bytes.head? = some evnodeTxTypeId
  · cases bytes with
    | nil => cases hhead
    | cons ty tail =>
      obtain rfl := Option.some.inj hhead
      -- behind the type byte, both decoders of EvNode transactions run the same program
      obtain ⟨signed, rest', hread, hpure⟩ := bind_eq_ok (s := tail) h
      obtain ⟨rfl, rfl⟩ := EStateM.Result.ok.inj hpure
      have hdecode : EvNodeTransaction.eip2718Decode (evnodeTxTypeId :: tail) =
          .ok (signed.1, signed.2) [] := hread
      rw [← EvNodeTransaction.eip2718Encode_eq_iff_of_decode hdecode]
      exact ⟨fun heq _ => heq, fun heq => heq rfl⟩
  · refine iff_of_true ?_ fun heq => absurd heq hhead
    unfold decode2718 at h
    rw [EvTxEnvelope.decode2718_standard hhead, map_eq_pure_bind] at h
    obtain ⟨tx', rest', hread, hpure⟩ := bind_eq_ok h
    obtain ⟨rfl, rfl⟩ := EStateM.Result.ok.inj hpure
    exact ((hcodec.canonical bytes tx' [] hread).trans (List.append_nil _)).symm

/-! ## When the parsers succeed -/

variable {data : ExecutionData} {block : SealedBlock Payload} {b : RecoveredBlock Payload}

/-- A transaction has the signer that is recovered. -/
theorem recoverSigner_eq_ok_iff {ε : Type} {e : ε} {sender : Address} :
    self.recoverSigner e tx = .ok sender ↔ self.signer tx = some sender := by
  unfold recoverSigner
  cases self.signer tx <;> simp

/-- A block is recovered if each of its transactions has a signer. -/
theorem tryRecover_eq_ok_iff : self.tryRecover block = .ok b ↔
    b.block = block ∧
      List.Forall₂ (fun tx sender => self.signer tx = some sender) block.transactions
        b.senders := by
  unfold tryRecover
  rw [Except.bind_eq_ok_iff]
  simp only [Except.mapM_eq_ok_iff, recoverSigner_eq_ok_iff]
  constructor
  · rintro ⟨senders, hsenders, hb⟩
    obtain rfl := Except.ok.inj hb
    exact ⟨rfl, hsenders⟩
  · rintro ⟨rfl, hsenders⟩
    exact ⟨b.senders, hsenders, rfl⟩

/-- A block passes if its hash is the stated one and its fields belong to its fork. -/
theorem checkBlock_eq_ok_iff :
    self.checkBlock data block = .ok () ↔
      data.payload.blockHash = block.hash ∧
        self.ensureWellFormedFields block data.sidecar = .ok () := by
  unfold checkBlock
  split_ifs with hhash
  · exact iff_of_false (fun h => nomatch h) fun h => hhash h.1
  · rw [Except.mapError_eq_ok_iff, not_not.mp hhash]
    exact (and_iff_right rfl).symm

/-- A payload becomes the block of its transactions, if each is read to its end and the block
passes. -/
theorem ensureWellFormedPayloadOf_eq_ok_iff {T : Type} {read : EStateM Eip2718Error Bytes T}
    {wrap : T → EvTxEnvelope Payload} :
    self.ensureWellFormedPayloadOf read wrap data = .ok block ↔
      checkHeader data = .ok () ∧
      ∃ transactions,
        List.Forall₂ (fun bytes tx => read bytes = .ok tx []) data.payload.transactions
          transactions ∧
        block = self.sealSlow data (self.orderedTrieRoot data.payload.transactions)
          (transactions.map wrap) ∧
        data.payload.blockHash = block.hash ∧
        self.ensureWellFormedFields block data.sidecar = .ok () := by
  unfold ensureWellFormedPayloadOf
  rw [Except.check_eq_ok_iff, Except.bind_eq_ok_iff]
  simp only [Except.mapM_eq_ok_iff, Except.mapError_eq_ok_iff, decodeExact_eq_ok_iff]
  refine and_congr_right fun _ => exists_congr fun transactions => and_congr_right fun _ => ?_
  rw [Except.check_eq_ok_iff, ← checkBlock_eq_ok_iff]
  constructor
  · rintro ⟨hchecked, hblock⟩
    obtain rfl := Except.ok.inj hblock
    exact ⟨rfl, hchecked⟩
  · rintro ⟨rfl, hchecked⟩
    exact ⟨hchecked, rfl⟩

/-- How a payload fails: by its header, by one of its transactions, by its hash, or by a field that
belongs to a fork. -/
theorem ensureWellFormedPayloadOf_eq_error {T : Type} {read : EStateM Eip2718Error Bytes T}
    {wrap : T → EvTxEnvelope Payload} {err : PayloadError}
    (h : self.ensureWellFormedPayloadOf read wrap data = .error err) :
    checkHeader data = .error err ∨
      checkHeader data = .ok () ∧
        ((∃ bytes ∈ data.payload.transactions, ∃ e, decodeExact read bytes = .error e ∧
            err = .decode e.toRlpError) ∨
          ∃ transactions,
            List.Forall₂ (fun bytes tx => read bytes = .ok tx []) data.payload.transactions
              transactions ∧
            ((∃ execution consensus, err = .blockHash execution consensus) ∨
              ∃ e, self.ensureWellFormedFields (self.sealSlow data
                (self.orderedTrieRoot data.payload.transactions) (transactions.map wrap))
                data.sidecar = .error e)) := by
  unfold ensureWellFormedPayloadOf at h
  -- one step of the validator after the other: the first that fails names the error
  obtain hcheck | ⟨_, hcheck, h⟩ := Except.bind_eq_error_iff.mp h
  · exact .inl hcheck
  refine .inr ⟨hcheck, ?_⟩
  obtain hread | ⟨transactions, hread, h⟩ := Except.bind_eq_error_iff.mp h
  · obtain ⟨bytes, hmem, hbytes⟩ := Except.mapM_eq_error hread
    exact .inl ⟨bytes, hmem, Except.mapError_eq_error_iff.mp hbytes⟩
  simp only [Except.mapM_eq_ok_iff, Except.mapError_eq_ok_iff, decodeExact_eq_ok_iff] at hread
  refine .inr ⟨transactions, hread, ?_⟩
  obtain hchecked | ⟨-, -, hpure⟩ := Except.bind_eq_error_iff.mp h
  · unfold checkBlock at hchecked
    split_ifs at hchecked
    · exact .inl ⟨_, _, (Except.error.inj hchecked).symm⟩
    · obtain ⟨e, hfields, -⟩ := Except.mapError_eq_error_iff.mp hchecked
      exact .inr ⟨e, hfields⟩
  · cases hpure

/-- The second parser makes the block of what it reads, whatever stands behind it. -/
theorem parseEvolvePayload_eq_ok_iff :
    self.parseEvolvePayload data = .ok block ↔
      ∃ transactions,
        List.Forall₂ (fun bytes tx => ∃ rest, self.decode2718 bytes = .ok tx rest)
          data.payload.transactions transactions ∧
        block = self.sealSlow data (self.calculateTransactionRoot transactions) transactions := by
  unfold parseEvolvePayload
  rw [Except.bind_eq_ok_iff]
  simp only [Except.mapM_eq_ok_iff, Except.mapError_eq_ok_iff, decodeStart_eq_ok_iff]
  refine exists_congr fun transactions => and_congr_right fun _ => ?_
  exact ⟨fun h => (Except.ok.inj h).symm, fun h => congrArg Except.ok h.symm⟩

/-- The transactions of an accepted block are read from those of the payload, and its senders are
their signers. -/
theorem transactions_of_ensureWellFormedPayload (hcodec : self.StandardCodec)
    (h : self.ensureWellFormedPayload data = .ok b) :
    List.Forall₂ (fun bytes tx => ∃ rest, self.decode2718 bytes = .ok tx rest)
        data.payload.transactions b.block.transactions ∧
      List.Forall₂ (fun tx sender => self.signer tx = some sender) b.block.transactions
        b.senders := by
  unfold ensureWellFormedPayload at h
  -- the standard validation has read the transactions, or the bypass has read them again
  cases hinner : self.inner data with
  | ok block =>
    simp only [hinner] at h
    obtain ⟨rfl, hsenders⟩ := tryRecover_eq_ok_iff.mp h
    obtain ⟨-, transactions, hread, hblock, -⟩ :=
      ensureWellFormedPayloadOf_eq_ok_iff.mp hinner
    rw [hblock] at hsenders ⊢
    refine ⟨List.forall₂_map_right_iff.mpr (hread.imp fun bytes tx htx => ⟨[], ?_⟩), hsenders⟩
    exact EvTxEnvelope.decode2718_of_standard hcodec.rejectsEvNode htx
  | error err =>
    simp only [hinner] at h
    split_ifs at h
    obtain ⟨block, hparse, hrecover⟩ := Except.bind_eq_ok_iff.mp h
    obtain ⟨rfl, hsenders⟩ := tryRecover_eq_ok_iff.mp hrecover
    obtain ⟨transactions, hread, hblock⟩ := parseEvolvePayload_eq_ok_iff.mp hparse
    rw [hblock] at hsenders ⊢
    exact ⟨hread, hsenders⟩

/-! ## What is executed -/

/-- What is executed is read to its end and has a signer. -/
theorem convert_eq_ok_iff {sender : Address} :
    self.convert bytes = .ok ⟨tx, sender⟩ ↔
      self.decode2718 bytes = .ok tx [] ∧ self.signer tx = some sender := by
  unfold convert
  simp only [Except.bind_eq_ok_iff, Except.mapError_eq_ok_iff, decodeExact_eq_ok_iff,
    recoverSigner_eq_ok_iff]
  constructor
  · rintro ⟨tx', hread, sender', hsigner, hpair⟩
    obtain ⟨rfl, rfl⟩ := Recovered.mk.inj (Except.ok.inj hpair)
    exact ⟨hread, hsigner⟩
  · rintro ⟨hread, hsigner⟩
    exact ⟨tx, hread, sender, hsigner, rfl⟩

/-- A transaction that is read is executed as it was read and written back, exactly if it was
written so. -/
theorem convert_and_encode2718_iff (hcodec : self.StandardCodec) {rest : Bytes} {sender : Address}
    (hread : self.decode2718 bytes = .ok tx rest) (hsigner : self.signer tx = some sender) :
    (self.convert bytes = .ok ⟨tx, sender⟩ ∧ self.encode2718 tx = bytes) ↔
      self.WrittenExactly bytes := by
  rw [convert_eq_ok_iff]
  constructor
  · rintro ⟨⟨hexact, -⟩, hencode⟩
    exact ⟨⟨tx, hexact⟩, (encode2718_eq_iff hcodec hexact).mp hencode⟩
  · rintro ⟨⟨tx', hexact⟩, hwritten⟩
    obtain ⟨rfl, rfl⟩ := EStateM.Result.ok.inj (hread.symm.trans hexact)
    exact ⟨⟨hexact, hsigner⟩, (encode2718_eq_iff hcodec hexact).mpr hwritten⟩

/-- The same for a list of transactions. -/
theorem map_convert_and_encode2718_iff (hcodec : self.StandardCodec) {raw : List Bytes}
    {transactions : List (EvTxEnvelope Payload)} {senders : List Address}
    (hread : List.Forall₂ (fun bytes tx => ∃ rest, self.decode2718 bytes = .ok tx rest) raw
      transactions)
    (hsigners : List.Forall₂ (fun tx sender => self.signer tx = some sender) transactions
      senders) :
    (raw.map self.convert = (List.zipWith Recovered.mk transactions senders).map .ok ∧
        transactions.map self.encode2718 = raw) ↔
      ∀ bytes ∈ raw, self.WrittenExactly bytes := by
  induction hread generalizing senders with
  | nil =>
    obtain rfl := List.forall₂_nil_left_iff.mp hsigners
    simp
  | @cons bytes tx raw transactions hread _ ih =>
    obtain ⟨rest, hread⟩ := hread
    cases hsigners with
    | @cons _ sender _ senders hsigner hsigners =>
      simp only [List.map_cons, List.zipWith_cons_cons, List.cons.injEq, List.forall_mem_cons]
      rw [and_and_and_comm, convert_and_encode2718_iff hcodec hread hsigner, ih hsigners]

variable (self) in
/-- What is executed of a payload is the block: its transactions with their senders, in order; and
they are written as the payload has them. -/
def ExecutesBlock (data : ExecutionData) (b : RecoveredBlock Payload) : Prop :=
  self.txIteratorForPayload data =
      (List.zipWith Recovered.mk b.block.transactions b.senders).map .ok ∧
    b.block.transactions.map self.encode2718 = data.payload.transactions

/-- What is executed of an accepted payload is its block, exactly if every transaction was written
as the node writes it, with nothing behind it. -/
theorem executesBlock_iff (hcodec : self.StandardCodec)
    (h : self.ensureWellFormedPayload data = .ok b) :
    self.ExecutesBlock data b ↔
      ∀ bytes ∈ data.payload.transactions, self.WrittenExactly bytes := by
  obtain ⟨hread, hsigners⟩ := transactions_of_ensureWellFormedPayload hcodec h
  exact map_convert_and_encode2718_iff hcodec hread hsigners

/-! ## What the bypass relaxes -/

variable (self) in
/-- The payload with the hash of its own header in place of the stated one. -/
def restated (data : ExecutionData) : ExecutionData :=
  { data with
    payload := data.payload.mapV1 fun v1 =>
      { v1 with
        blockHash := self.evmConfig.hashSlow
          (self.headerOf data (self.orderedTrieRoot data.payload.transactions)) } }

variable (self) in
/-- A payload becomes a block exactly if the strict converter makes this block of it once its hash
is right, and its signers recover. -/
def RelaxesHashOnly (data : ExecutionData) : Prop :=
  ∀ b, self.ensureWellFormedPayload data = .ok b ↔
    self.convertPayloadToBlock (self.restated data) = .ok b.block ∧
      self.tryRecover b.block = .ok b

variable (self) in
/-- The inner validator fails with an error that is bypassed. -/
def Bypasses (data : ExecutionData) : Prop :=
  ∃ err, self.inner data = .error err ∧ err.shouldBypass = true

variable (self) in
/-- Every transaction of a payload can be read, up to what is behind it, and has a signer. -/
def Readable (data : ExecutionData) : Prop :=
  ∀ bytes ∈ data.payload.transactions, ∃ tx rest, self.decode2718 bytes = .ok tx rest ∧
    (self.signer tx).isSome

variable (self) in
/-- The fields of a payload that belong to a fork are well-formed. -/
def FieldsWellFormed (data : ExecutionData) : Prop :=
  ∀ block, self.parseEvolvePayload data = .ok block →
    self.ensureWellFormedFields block data.sidecar = .ok ()

/-- The stated hash is not part of the block. -/
theorem sealSlow_restated (root : B256) (transactions : List (EvTxEnvelope Payload)) :
    self.sealSlow (self.restated data) root transactions =
      self.sealSlow data root transactions := by
  obtain ⟨payload, sidecar⟩ := data
  cases payload <;> rfl

/-- The strict converter accepts a payload with the right hash if it passes every other check. -/
theorem convertPayloadToBlock_restated_eq_ok_iff :
    self.convertPayloadToBlock (self.restated data) = .ok block ↔
      checkHeader data = .ok () ∧
      ∃ transactions,
        List.Forall₂ (fun bytes tx => self.decode2718 bytes = .ok tx []) data.payload.transactions
          transactions ∧
        block = self.sealSlow data (self.orderedTrieRoot data.payload.transactions) transactions ∧
        self.ensureWellFormedFields block data.sidecar = .ok () := by
  have hcheck : checkHeader (self.restated data) = checkHeader data := by
    unfold checkHeader restated
    simp only [EnginePayload.asV1_mapV1]
  have hraw : (self.restated data).payload.transactions = data.payload.transactions := by
    unfold EnginePayload.transactions restated
    simp only [EnginePayload.asV1_mapV1]
  have hhash : (self.restated data).payload.blockHash = self.evmConfig.hashSlow
      (self.headerOf data (self.orderedTrieRoot data.payload.transactions)) := by
    unfold EnginePayload.blockHash restated
    simp only [EnginePayload.asV1_mapV1]
  rw [convertPayloadToBlock, Except.mapError_eq_ok_iff, ensureWellFormedPayloadOf_eq_ok_iff, hcheck,
    hraw, hhash]
  simp only [sealSlow_restated, List.map_id]
  refine and_congr_right fun _ => exists_congr fun transactions => and_congr_right fun _ =>
    and_congr_right fun hblock => ?_
  rw [hblock]
  exact and_iff_right rfl

/-- The checks before the transactions are not bypassed. -/
theorem checkHeader_of_bypasses (h : self.Bypasses data) : checkHeader data = .ok () := by
  obtain ⟨err, hinner, hbypass⟩ := h
  obtain hcheck | ⟨hcheck, -⟩ := ensureWellFormedPayloadOf_eq_error hinner
  · unfold checkHeader at hcheck
    simp only at hcheck
    split_ifs at hcheck
    · obtain rfl := Except.error.inj hcheck
      cases hbypass
    · obtain rfl := Except.error.inj hcheck
      cases hbypass
  · exact hcheck

/-- What the strict converter accepts, the inner validator accepts too or fails with an error that
is bypassed. -/
theorem inner_of_convertPayloadToBlock (hcodec : self.StandardCodec)
    (h : self.convertPayloadToBlock (self.restated data) = .ok block) :
    self.inner data = .ok block ∨ self.Bypasses data := by
  obtain ⟨hcheck, transactions, hread, hblock, hfields⟩ :=
    convertPayloadToBlock_restated_eq_ok_iff.mp h
  -- what the inner validator reads, it reads as the converter does
  have hsame {standard : List (EthereumTransaction Payload)}
      (hstandard : List.Forall₂ (fun bytes tx => self.evmConfig.eth.decode2718 bytes = .ok tx [])
        data.payload.transactions standard) : standard.map .ethereum = transactions := by
    have hread' := hstandard.imp fun bytes tx htx =>
      EvTxEnvelope.decode2718_of_standard hcodec.rejectsEvNode htx
    refine List.right_unique_forall₂' ?_ (List.forall₂_map_right_iff.mpr hread') hread
    intro bytes tx tx' htx htx'
    exact (EStateM.Result.ok.inj (htx.symm.trans htx')).1
  cases hinner : self.inner data with
  | ok block' =>
    obtain ⟨-, standard, hstandard, hblock', -⟩ := ensureWellFormedPayloadOf_eq_ok_iff.mp hinner
    rw [hblock', hsame hstandard, ← hblock]
    exact .inl rfl
  | error err =>
    refine .inr ⟨err, hinner, ?_⟩
    obtain hfail | ⟨-, ⟨bytes, hmem, e, hbytes, rfl⟩ | ⟨standard, hstandard, ⟨_, _, rfl⟩ |
      ⟨e, hfail⟩⟩⟩ := ensureWellFormedPayloadOf_eq_error hinner
    · cases hfail.symm.trans hcheck
    · obtain ⟨tx, htx⟩ := List.exists_forall₂_iff.mp ⟨transactions, hread⟩ bytes hmem
      exact EvTxEnvelope.unknownType_of_decode2718 hcodec.rejectsEvNode hbytes htx
    · rfl
    · rw [hsame hstandard, ← hblock] at hfail
      cases hfail.symm.trans hfields

/-- What is read to its end is written back as it was, exactly if it was written so. -/
theorem map_encode2718_eq_iff (hcodec : self.StandardCodec) {raw : List Bytes}
    {transactions : List (EvTxEnvelope Payload)}
    (hread : List.Forall₂ (fun bytes tx => self.decode2718 bytes = .ok tx []) raw transactions) :
    transactions.map self.encode2718 = raw ↔ ∀ bytes ∈ raw, self.WrittenExactly bytes := by
  induction hread with
  | nil => simp
  | @cons bytes tx raw transactions htx _ ih =>
    rw [List.map_cons, List.cons.injEq, List.forall_mem_cons, ih, encode2718_eq_iff hcodec htx]
    exact and_congr_left fun _ => (and_iff_right ⟨tx, htx⟩).symm

/-- The transactions of a payload can be read and have signers exactly if the second parser makes a
block of them whose signers recover. -/
theorem readable_iff : self.Readable data ↔
    ∃ block b, self.parseEvolvePayload data = .ok block ∧ self.tryRecover block = .ok b := by
  have hlists : self.Readable data ↔ ∃ transactions,
      List.Forall₂ (fun bytes tx => ∃ rest, self.decode2718 bytes = .ok tx rest)
        data.payload.transactions transactions ∧
      ∃ senders, List.Forall₂ (fun tx sender => self.signer tx = some sender) transactions
        senders := by
    simp only [List.exists_forall₂_iff, ← List.forall₂_and_right, Readable,
      ← Option.isSome_iff_exists, exists_and_right]
  rw [hlists]
  simp only [parseEvolvePayload_eq_ok_iff, tryRecover_eq_ok_iff]
  constructor
  · rintro ⟨transactions, hread, senders, hsigners⟩
    exact ⟨_, ⟨self.sealSlow data (self.calculateTransactionRoot transactions) transactions,
      senders⟩, ⟨transactions, hread, rfl⟩, rfl, hsigners⟩
  · rintro ⟨_, b, ⟨transactions, hread, rfl⟩, -, hsigners⟩
    exact ⟨transactions, hread, b.senders, hsigners⟩

/-- Without a bypass nothing is relaxed. -/
theorem relaxesHashOnly_of_not_bypasses (hcodec : self.StandardCodec)
    (h : ¬ self.Bypasses data) : self.RelaxesHashOnly data := by
  intro b
  unfold ensureWellFormedPayload
  cases hinner : self.inner data with
  | ok block =>
    simp only
    have hconvert : self.convertPayloadToBlock (self.restated data) = .ok block := by
      obtain ⟨hcheck, standard, hstandard, hblock, -, hfields⟩ :=
        ensureWellFormedPayloadOf_eq_ok_iff.mp hinner
      refine convertPayloadToBlock_restated_eq_ok_iff.mpr
        ⟨hcheck, standard.map .ethereum, ?_, hblock, hfields⟩
      refine List.forall₂_map_right_iff.mpr (hstandard.imp fun bytes tx htx => ?_)
      exact EvTxEnvelope.decode2718_of_standard hcodec.rejectsEvNode htx
    rw [hconvert]
    constructor
    · intro hrecover
      obtain ⟨hblock, -⟩ := tryRecover_eq_ok_iff.mp hrecover
      rw [hblock]
      exact ⟨rfl, hrecover⟩
    · rintro ⟨hblock, hrecover⟩
      rw [Except.ok.inj hblock]
      exact hrecover
  | error err =>
    -- the inner error is final, and the converter would have run into it as well
    have hstop : err.shouldBypass = false := by
      rw [← Bool.not_eq_true]
      exact fun hbypass => h ⟨err, hinner, hbypass⟩
    simp only [hstop, Bool.false_eq_true, if_false]
    refine iff_of_false (fun h => nomatch h) ?_
    rintro ⟨hconvert, -⟩
    obtain hok | hbypasses := inner_of_convertPayloadToBlock hcodec hconvert
    · cases hinner.symm.trans hok
    · exact h hbypasses

/-- A payload without a defect becomes the block of its transactions, whether an error is bypassed
on the way or not. -/
theorem ensureWellFormedPayload_of_written (hcodec : self.StandardCodec)
    (hcheck : checkHeader data = .ok ()) {transactions : List (EvTxEnvelope Payload)}
    {senders : List Address}
    (hread : List.Forall₂ (fun bytes tx => self.decode2718 bytes = .ok tx [])
      data.payload.transactions transactions)
    (hencode : transactions.map self.encode2718 = data.payload.transactions)
    (hsigners : List.Forall₂ (fun tx sender => self.signer tx = some sender) transactions senders)
    (hfields : self.ensureWellFormedFields
      (self.sealSlow data (self.calculateTransactionRoot transactions) transactions) data.sidecar =
        .ok ()) :
    self.ensureWellFormedPayload data =
      .ok ⟨self.sealSlow data (self.calculateTransactionRoot transactions) transactions,
        senders⟩ := by
  have hroot : self.calculateTransactionRoot transactions =
      self.orderedTrieRoot data.payload.transactions := congrArg self.orderedTrieRoot hencode
  have hrecover : self.tryRecover
      (self.sealSlow data (self.calculateTransactionRoot transactions) transactions) =
        .ok ⟨_, senders⟩ :=
    tryRecover_eq_ok_iff.mpr ⟨rfl, hsigners⟩
  have hconvert : self.convertPayloadToBlock (self.restated data) =
      .ok (self.sealSlow data (self.calculateTransactionRoot transactions) transactions) :=
    convertPayloadToBlock_restated_eq_ok_iff.mpr
      ⟨hcheck, transactions, hread, by rw [hroot], hfields⟩
  unfold ensureWellFormedPayload
  -- the inner validator accepts the payload, or fails with an error that is bypassed
  obtain hinner | ⟨err, hinner, hbypass⟩ := inner_of_convertPayloadToBlock hcodec hconvert
  · simp only [hinner]
    exact hrecover
  · have hparse : self.parseEvolvePayload data =
        .ok (self.sealSlow data (self.calculateTransactionRoot transactions) transactions) :=
      parseEvolvePayload_eq_ok_iff.mpr
        ⟨transactions, hread.imp fun bytes tx htx => ⟨[], htx⟩, rfl⟩
    simp only [hinner, hbypass, if_true, hparse]
    exact hrecover

/-- On a payload that is written as the node writes it, with well-formed fields, the second parser
and the strict converter agree. -/
theorem parseEvolvePayload_eq_ok_iff_of_written (hcodec : self.StandardCodec)
    (hcheck : checkHeader data = .ok ())
    (hwritten : ∀ bytes ∈ data.payload.transactions, self.WrittenExactly bytes)
    (hfields : self.FieldsWellFormed data) :
    self.parseEvolvePayload data = .ok block ↔
      self.convertPayloadToBlock (self.restated data) = .ok block := by
  -- the root of what is written again is that of what was received
  have hroot {transactions : List (EvTxEnvelope Payload)}
      (hread : List.Forall₂ (fun bytes tx => self.decode2718 bytes = .ok tx [])
        data.payload.transactions transactions) :
      self.calculateTransactionRoot transactions =
        self.orderedTrieRoot data.payload.transactions :=
    congrArg self.orderedTrieRoot ((map_encode2718_eq_iff hcodec hread).mpr hwritten)
  rw [convertPayloadToBlock_restated_eq_ok_iff]
  constructor
  · intro hparse
    obtain ⟨transactions, hread, hblock⟩ := parseEvolvePayload_eq_ok_iff.mp hparse
    have hexact : List.Forall₂ (fun bytes tx => self.decode2718 bytes = .ok tx [])
        data.payload.transactions transactions := by
      refine ((List.forall₂_and_left _ _).mpr ⟨hwritten, hread⟩).imp ?_
      rintro bytes tx ⟨⟨⟨tx', hexact⟩, -⟩, rest, hread⟩
      obtain ⟨rfl, -⟩ := EStateM.Result.ok.inj (hexact.symm.trans hread)
      exact hexact
    refine ⟨hcheck, transactions, hexact, ?_, hfields block hparse⟩
    rw [hblock, hroot hexact]
  · rintro ⟨-, transactions, hread, hblock, -⟩
    refine parseEvolvePayload_eq_ok_iff.mpr ⟨transactions, ?_, ?_⟩
    · exact hread.imp fun bytes tx htx => ⟨[], htx⟩
    · rw [hblock, hroot hread]

/-- A wrong hash is all that is tolerated, exactly if an error is not bypassed, or a transaction
cannot be read or has no signer, or everything else is right: every transaction was written as the
node writes it, with nothing behind it, and the fields of the forks are well-formed. -/
theorem relaxesHashOnly_iff (hcodec : self.StandardCodec)
    (hcollision : ∀ transactions,
      List.Forall₂ (fun bytes tx => self.decode2718 bytes = .ok tx []) data.payload.transactions
        transactions →
      self.calculateTransactionRoot transactions =
        self.orderedTrieRoot data.payload.transactions →
      transactions.map self.encode2718 = data.payload.transactions) :
    self.RelaxesHashOnly data ↔
      (self.Bypasses data → self.Readable data →
        (∀ bytes ∈ data.payload.transactions, self.WrittenExactly bytes) ∧
          self.FieldsWellFormed data) := by
  by_cases hbypasses : self.Bypasses data
  swap
  · exact iff_of_true (relaxesHashOnly_of_not_bypasses hcodec hbypasses)
      fun h => absurd h hbypasses
  have hcheck := checkHeader_of_bypasses hbypasses
  have hensure {b : RecoveredBlock Payload} : self.ensureWellFormedPayload data = .ok b ↔
      ∃ block, self.parseEvolvePayload data = .ok block ∧ self.tryRecover block = .ok b := by
    obtain ⟨err, hinner, hbypass⟩ := hbypasses
    rw [← Except.bind_eq_ok_iff, ensureWellFormedPayload]
    simp only [hinner, hbypass, if_true]
  constructor
  · intro h _ hreadable
    obtain ⟨block, b, hparse, hrecover⟩ := readable_iff.mp hreadable
    obtain ⟨hconvert, -⟩ := (h b).mp (hensure.mpr ⟨block, hparse, hrecover⟩)
    rw [(tryRecover_eq_ok_iff.mp hrecover).1] at hconvert
    obtain ⟨-, transactions, hread, hblock, hfields⟩ :=
      convertPayloadToBlock_restated_eq_ok_iff.mp hconvert
    obtain ⟨transactions', -, hblock'⟩ := parseEvolvePayload_eq_ok_iff.mp hparse
    -- two equal blocks have the same transactions and the same root
    have hsame : transactions = transactions' :=
      congrArg SealedBlock.transactions (hblock.symm.trans hblock')
    have hroot : self.orderedTrieRoot data.payload.transactions =
        self.calculateTransactionRoot transactions' :=
      congrArg (fun block => block.header.transactionsRoot) (hblock.symm.trans hblock')
    refine ⟨(map_encode2718_eq_iff hcodec hread).mp (hcollision transactions hread ?_), ?_⟩
    · rw [hsame, hroot]
    · intro block' hparse'
      rw [← Except.ok.inj (hparse.symm.trans hparse')]
      exact hfields
  · intro h b
    rw [hensure]
    constructor
    · rintro ⟨block, hparse, hrecover⟩
      obtain ⟨hwritten, hfields⟩ := h hbypasses (readable_iff.mpr ⟨block, b, hparse, hrecover⟩)
      rw [(tryRecover_eq_ok_iff.mp hrecover).1]
      exact ⟨(parseEvolvePayload_eq_ok_iff_of_written hcodec hcheck hwritten hfields).mp hparse,
        hrecover⟩
    · rintro ⟨hconvert, hrecover⟩
      obtain ⟨-, transactions, hread, hblock, -⟩ :=
        convertPayloadToBlock_restated_eq_ok_iff.mp hconvert
      obtain ⟨-, hsigners⟩ := tryRecover_eq_ok_iff.mp hrecover
      rw [hblock] at hsigners
      -- the second parser reads the same transactions, whatever root it computes
      have hreadable : self.Readable data := readable_iff.mpr
        ⟨_, ⟨self.sealSlow data (self.calculateTransactionRoot transactions) transactions,
          b.senders⟩,
          parseEvolvePayload_eq_ok_iff.mpr
            ⟨transactions, hread.imp fun bytes tx htx => ⟨[], htx⟩, rfl⟩,
          tryRecover_eq_ok_iff.mpr ⟨rfl, hsigners⟩⟩
      obtain ⟨hwritten, hfields⟩ := h hbypasses hreadable
      exact ⟨b.block, (parseEvolvePayload_eq_ok_iff_of_written hcodec hcheck hwritten hfields).mpr
        hconvert, hrecover⟩

/-! ## A payment over the Engine API -/

section Payment

open EvolvePayloadBuilder (paymentBuilder)
open EvolveEnginePayloadBuilder (rawPayment)

/-- reth's checks of blocks without blobs under the rules of Cancun, or of Prague. -/
def ensureFieldsWithoutBlobs (prague : Bool) (block : SealedBlock fun _ => Empty)
    (sidecar : ExecutionPayloadSidecar) : Except PayloadFieldsError Unit :=
  if block.withdrawals = none then .error (.shanghai "missing withdrawals")
  else if block.header.blobGasUsed = none ∨ block.header.excessBlobGas = none ∨
      block.header.parentBeaconBlockRoot = none then
    .error (.cancun "missing field")
  else if (sidecar.cancun.map (·.versionedHashes)) ≠ some [] then
    .error (.cancun "mismatched versioned hashes")
  else if sidecar.prague.isSome ≠ prague then .error (.prague "missing or unexpected requests")
  else .ok ()

/-- A validator that knows the roots and hashes of `paymentData` for a payment, with a zero behind
it and without. -/
def paymentValidator : EvolveEngineValidator fun _ => Empty :=
  { evmConfig :=
      { paymentBuilder.evmConfig with
        hashSlow := fun header =>
          if header.transactionsRoot =
              0xa81346a9f855f71e8a3425af0d2e9603fc3d9e624f05cafc34ddc92630840927 then
            0x288f7fd17861da1224be52583ff83deb46769d7e5f4765fcac7adafade4cc019
          else 0xe2364461c09dea598d80114c4836649590a667e22748d8e927cc48feda4ff9bb }
    encodeEthereum := fun tx => tx.tx.elim
    orderedTrieRoot := fun raw =>
      if raw = [rawPayment EvTxEnvelope.unitSignature] then
        0xa81346a9f855f71e8a3425af0d2e9603fc3d9e624f05cafc34ddc92630840927
      else 0x4fc5ffd0ee9192c4bc058603fad4d33fae33b4eeff11e2e1fcaff5a0dcf6d97a
    calculateWithdrawalsRoot := fun _ =>
      0x56e81f171bcc55a6ff8345e692c0f86e5b48e01b996cadc001622fb5e363b421
    requestsHash := fun _ => 0xe3b0c44298fc1c149afbf4c8996fb92427ae41e4649b934ca495991b7852b855
    ensureWellFormedFields := ensureFieldsWithoutBlobs false }

/-- A payload of one payment under a stated hash, with bytes behind the payment. -/
def paymentData (blockHash : B256) (behind : Bytes) : ExecutionData :=
  { payload := .v3
      { payloadInner :=
          { payloadInner :=
              { parentHash := 0xAA
                feeRecipient := 0xFE
                stateRoot := 0
                receiptsRoot := 0
                logsBloom := List.replicate 256 0
                prevRandao := 0
                blockNumber := 11
                gasLimit := 30000000
                gasUsed := 21000
                timestamp := 1710338136
                extraData := []
                baseFeePerGas := 1
                blockHash
                transactions := [rawPayment EvTxEnvelope.unitSignature ++ behind] }
            withdrawals := [] }
        blobGasUsed := 0
        excessBlobGas := 0 }
    sidecar := { cancun := some { parentBeaconBlockRoot := 0, versionedHashes := [] } } }

/-- Without standard transactions there is nothing to be read as one. -/
theorem standardCodec_paymentValidator : paymentValidator.StandardCodec where
  rejectsEvNode bytes := ⟨_, bytes, rfl, rfl⟩
  canonical _ tx _ _ := tx.tx.elim

/-- The payment is written as the node writes it. -/
theorem writtenExactly_payment :
    ∀ bytes ∈ (paymentData 0xBB []).payload.transactions,
      paymentValidator.WrittenExactly bytes := by
  intro bytes hmem
  obtain rfl := List.mem_singleton.mp hmem
  exact ⟨⟨_, rfl⟩, fun _ => by decide +kernel⟩

/-- Under a wrong hash, the payment is accepted, with a byte behind it and without. -/
theorem accepts_paymentData {behind : Bytes} (h : behind = [] ∨ behind = [0]) :
    ∃ b, paymentValidator.ensureWellFormedPayload (paymentData 0xBB behind) = .ok b ∧
      b.block.transactions.length = 1 := by
  have hlength : (paymentValidator.ensureWellFormedPayload
      (paymentData 0xBB behind)).toOption.map (·.block.transactions.length) = some 1 := by
    rcases h with rfl | rfl
    · decide +kernel
    · decide +kernel
  cases hb : paymentValidator.ensureWellFormedPayload (paymentData 0xBB behind) with
  | error e =>
    rw [hb] at hlength
    cases hlength
  | ok b =>
    rw [hb] at hlength
    exact ⟨b, rfl, Option.some.inj hlength⟩

/-- A wrong hash is tolerated for a payload that has no other defect. -/
theorem relaxesHashOnly_payment :
    (paymentValidator.ensureWellFormedPayload (paymentData 0xBB [])).toOption.isSome = true ∧
      paymentValidator.RelaxesHashOnly (paymentData 0xBB []) := by
  obtain ⟨b, hb, -⟩ := accepts_paymentData (.inl rfl)
  refine ⟨by rw [hb]; rfl, ?_⟩
  refine (relaxesHashOnly_iff standardCodec_paymentValidator ?_).mpr ?_
  · intro transactions hread _
    exact (map_encode2718_eq_iff standardCodec_paymentValidator hread).mpr writtenExactly_payment
  · refine fun _ _ => ⟨writtenExactly_payment, fun block hparse => ?_⟩
    obtain rfl := Except.ok.inj hparse
    rfl

/-- A payment with a byte behind it is accepted, although the strict converter rejects it whatever
hash is stated. -/
theorem accepts_trailing_byte :
    (paymentValidator.ensureWellFormedPayload (paymentData 0xBB [0])).toOption.isSome = true ∧
      paymentValidator.convertPayloadToBlock
          (paymentValidator.restated (paymentData 0xBB [0])) =
        .error (.payload (.decode .unexpectedLength)) ∧
      ¬ paymentValidator.RelaxesHashOnly (paymentData 0xBB [0]) := by
  obtain ⟨b, hb, -⟩ := accepts_paymentData (.inr rfl)
  have hrejected : paymentValidator.convertPayloadToBlock
      (paymentValidator.restated (paymentData 0xBB [0])) =
        .error (.payload (.decode .unexpectedLength)) := rfl
  refine ⟨by rw [hb]; rfl, hrejected, fun h => ?_⟩
  obtain ⟨hconvert, -⟩ := (h b).mp hb
  cases hrejected.symm.trans hconvert

/-- What is executed of the payload of a payment is its block. -/
theorem executesBlock_payment :
    ∃ b, paymentValidator.ensureWellFormedPayload (paymentData 0xBB []) = .ok b ∧
      paymentValidator.ExecutesBlock (paymentData 0xBB []) b := by
  obtain ⟨b, hb, -⟩ := accepts_paymentData (.inl rfl)
  exact ⟨b, hb,
    (executesBlock_iff standardCodec_paymentValidator hb).mpr writtenExactly_payment⟩

/-- With a byte behind the payment, the payload is accepted with a block of one transaction, and
cannot be executed. -/
theorem accepts_and_cannot_execute :
    ∃ b, paymentValidator.ensureWellFormedPayload (paymentData 0xBB [0]) = .ok b ∧
      b.block.transactions.length = 1 ∧
      paymentValidator.txIteratorForPayload (paymentData 0xBB [0]) =
        [.error (.decode (.rlpError .unexpectedLength))] ∧
      ¬ paymentValidator.ExecutesBlock (paymentData 0xBB [0]) b := by
  obtain ⟨b, hb, hlength⟩ := accepts_paymentData (.inr rfl)
  have hfails : paymentValidator.txIteratorForPayload (paymentData 0xBB [0]) =
      [.error (.decode (.rlpError .unexpectedLength))] := rfl
  refine ⟨b, hb, hlength, hfails, ?_⟩
  rintro ⟨hexecuted, -⟩
  rw [hfails] at hexecuted
  cases hzip : List.zipWith Recovered.mk b.block.transactions b.senders with
  | nil =>
    rw [hzip] at hexecuted
    cases hexecuted
  | cons tx txs =>
    rw [hzip] at hexecuted
    cases (List.cons.inj hexecuted).1

end Payment

end EvolveEngineValidator

end EvReth
