import EvReth.Clients.Agreement
import EvReth.Clients.Estimate
import EvReth.Node.Validator

/-!
# Signing and sending

How the client signs a transaction for its executor and its sponsor (`clients/src/signing.ts`) and
what it sends to the node (`clients/src/client.ts`). A signer is asked for the signature of a hash;
the hash of the executor leaves out the sponsor's signature, so that a sponsor can sign later, on
its own.
-/

namespace EvReth.Clients

/-! ## Signers -/

/-- `HashSigner`. -/
structure HashSigner where
  address : Hex
  signHash : B256 → Except String Signature

/-- The cryptography that the client takes from viem. -/
structure ViemCrypto where
  keccak256 : Bytes → B256
  recoverAddress : B256 → NormalizedSignature → Except String Hex

variable (viem : Viem) (viemCrypto : ViemCrypto)

/-- `hashSignerFromRpcClient`, given what the client is answered to `eth_sign`. An answer that is
not hexadecimal is `none`. -/
def hashSignerFromRpcClient (ethSign : Hex → B256 → Except String (Option Hex)) (address : Hex) :
    HashSigner :=
  { address
    signHash := fun hash => do
      match ← ethSign address hash with
      | none => throw "eth_sign returned non-hex signature"
      | some signature => (viem.hexToSignature signature).map .object }

/-- `recoverExecutor`. -/
def recoverExecutor (signedTx : EvNodeSignedTransaction) : Except String Hex := do
  let hash ← computeExecutorSigningHash viem viemCrypto.keccak256 signedTx.transaction
  let signature ← normalizeSignature viem signedTx.executorSignature
  viemCrypto.recoverAddress hash signature

/-- `recoverSponsor`. -/
def recoverSponsor (tx : EvNodeTransaction) (executorAddress : Hex) :
    Except String (Option Hex) := do
  match tx.feePayerSignature with
  | none => return none
  | some signature =>
    let hash ← computeSponsorSigningHash viem viemCrypto.keccak256 tx executorAddress
    let signature ← normalizeSignature viem signature
    return some (← viemCrypto.recoverAddress hash signature)

/-- `signAsExecutor`. -/
def signAsExecutor (tx : EvNodeTransaction) (signer : HashSigner) : Except String Signature := do
  let hash ← computeExecutorSigningHash viem viemCrypto.keccak256 tx
  signer.signHash hash

/-- `signAsSponsor`. -/
def signAsSponsor (tx : EvNodeTransaction) (executorAddress : Hex) (signer : HashSigner) :
    Except String Signature := do
  let hash ← computeSponsorSigningHash viem viemCrypto.keccak256 tx executorAddress
  signer.signHash hash

/-! ## Actions -/

/-- `SponsorableIntent`. -/
structure SponsorableIntent where
  tx : EvNodeTransaction
  executorSignature : Signature
  executorAddress : Hex

/-- `EvnodeSendArgs`. -/
structure SendArgs where
  calls : List Call
  executor : Option HashSigner := none
  overrides : Overrides := {}

/-- `EvnodeSponsorArgs`. -/
structure SponsorArgs where
  intent : SponsorableIntent
  sponsor : Option HashSigner := none

/-- What the node answers to `eth_sendRawTransaction`. -/
abbrev SendRawTransaction := Hex → Except String Hex

variable (client : Client) (request : SendRawTransaction)

/-- `sendEvNodeTransaction`. -/
def sendEvNodeTransaction (executor : HashSigner) (args : SendArgs) : Except String Hex := do
  let tx ← prepareTx client executor.address args.overrides args.calls
  let executorSignature ← signAsExecutor viem viemCrypto tx executor
  let serialized ← encodeSignedTransaction viem { transaction := tx, executorSignature }
  request serialized

/-- `createSponsorableIntent`. -/
def createSponsorableIntent (executor : HashSigner) (args : SendArgs) :
    Except String SponsorableIntent := do
  let tx ← prepareTx client executor.address args.overrides args.calls
  let executorSignature ← signAsExecutor viem viemCrypto tx executor
  return { tx, executorSignature, executorAddress := executor.address }

/-- `sponsorIntent`. -/
def sponsorIntent (intent : SponsorableIntent) (sponsor : HashSigner) :
    Except String EvNodeSignedTransaction := do
  let sponsorSignature ← signAsSponsor viem viemCrypto intent.tx intent.executorAddress sponsor
  return { transaction := { intent.tx with feePayerSignature := some sponsorSignature }
           executorSignature := intent.executorSignature }

/-- `createEvnodeClient`, with the default signers that its setters replace. -/
structure EvnodeClient where
  client : Client
  request : SendRawTransaction
  defaultExecutor : Option HashSigner
  defaultSponsor : Option HashSigner

namespace EvnodeClient

variable (self : EvnodeClient)

/-- `requireExecutor`. -/
def requireExecutor (executor : Option HashSigner) : Except String HashSigner :=
  match executor.or self.defaultExecutor with
  | some resolved => .ok resolved
  | none => .error "Executor signer is required"

/-- `requireSponsor`. -/
def requireSponsor (sponsor : Option HashSigner) : Except String HashSigner :=
  match sponsor.or self.defaultSponsor with
  | some resolved => .ok resolved
  | none => .error "Sponsor signer is required"

/-- `send`. -/
def send (args : SendArgs) : Except String Hex := do
  let executor ← self.requireExecutor args.executor
  sendEvNodeTransaction viem viemCrypto self.client self.request executor args

/-- `createIntent`. -/
def createIntent (args : SendArgs) : Except String SponsorableIntent := do
  let executor ← self.requireExecutor args.executor
  createSponsorableIntent viem viemCrypto self.client executor args

/-- `sponsorAndSend`. -/
def sponsorAndSend (args : SponsorArgs) : Except String Hex := do
  let sponsor ← self.requireSponsor args.sponsor
  let signed ← sponsorIntent viem viemCrypto args.intent sponsor
  let serialized ← encodeSignedTransaction viem signed
  self.request serialized

end EvnodeClient

/-! ## What signers and viem are relied on for -/

/-- viem computes the hash of the node and recovers the address that the node recovers. -/
structure ViemCrypto.Agrees (viemCrypto : ViemCrypto) (crypto : Crypto) : Prop where
  keccak256_eq : viemCrypto.keccak256 = crypto.keccak256
  recoverAddress_eq_ok_iff : ∀ (hash : B256) (sig : EvReth.Signature) (hex : Hex),
    viemCrypto.recoverAddress hash (.ofNode sig) = .ok hex ↔
      ∃ a, hex = wordHex a ∧ sig.recoverAddressFromPrehash crypto hash = some a

/-- The signer has the key of an address: its signatures are recovered to it. -/
structure HashSigner.SignsFor (signer : HashSigner) (crypto : Crypto) (a : Address) : Prop where
  address_eq : signer.address = wordHex a
  signHash : ∀ hash signature, signer.signHash hash = .ok signature →
    ∃ sig, signature.Denotes sig ∧ sig.recoverAddressFromPrehash crypto hash = some a

section Signatures

variable {viem : Viem} {viemCrypto : ViemCrypto} {crypto : Crypto} {tx : EvNodeTransaction}
  {nodeTx : EvReth.EvNodeTransaction} {signer : HashSigner} {a : Address} {signature : Signature}

/-- A signer behind an RPC client signs for the address whose key the other side holds. -/
theorem signsFor_hashSignerFromRpcClient (hviem : viem.Lawful)
    {ethSign : Hex → B256 → Except String (Option Hex)}
    (hsign : ∀ hash hex, ethSign (wordHex a) hash = .ok (some hex) →
      ∃ sig, Signature.Denotes (.string hex) sig ∧
        sig.recoverAddressFromPrehash crypto hash = some a) :
    (hashSignerFromRpcClient viem ethSign (wordHex a)).SignsFor crypto a := by
  constructor
  · rw [hashSignerFromRpcClient]
  · intro hash signature h
    simp only [hashSignerFromRpcClient] at h
    obtain ⟨answer, hanswer, h⟩ := Except.bind_eq_ok_iff.mp h
    cases answer with
    | none => cases h
    | some hex =>
      obtain ⟨parsed, hparsed, rfl⟩ := Except.map_eq_ok_iff.mp h
      obtain ⟨sig, hdenotes, hrecover⟩ := hsign hash hex hanswer
      exact ⟨sig, .object (hviem.hexToSignature hdenotes hparsed), hrecover⟩

/-- Client and node compute the same hash for the executor. -/
theorem computeExecutorSigningHash_eq (hcrypto : viemCrypto.Agrees crypto)
    (htx : tx.Represents nodeTx) :
    computeExecutorSigningHash viem viemCrypto.keccak256 tx =
      .ok (nodeTx.executorSigningHash crypto) := by
  rw [computeExecutorSigningHash, executorSigningPreimage_eq htx, hcrypto.keccak256_eq]
  simp only [Except.map, Hex.toBytes_ofBytes]
  rfl

/-- Client and node compute the same hash for the sponsor. -/
theorem computeSponsorSigningHash_eq (hcrypto : viemCrypto.Agrees crypto)
    (htx : tx.Represents nodeTx) (executor : Address) :
    computeSponsorSigningHash viem viemCrypto.keccak256 tx (wordHex executor) =
      .ok (nodeTx.sponsorSigningHash crypto executor) := by
  rw [computeSponsorSigningHash, sponsorSigningPreimage_eq htx, hcrypto.keccak256_eq]
  simp only [Except.map, Hex.toBytes_ofBytes]
  rfl

/-- The signature of an executor is one that the node recovers to its address. -/
theorem recovers_of_signAsExecutor (hcrypto : viemCrypto.Agrees crypto)
    (hsigner : signer.SignsFor crypto a) (htx : tx.Represents nodeTx)
    (h : signAsExecutor viem viemCrypto tx signer = .ok signature) :
    ∃ sig, signature.Denotes sig ∧ nodeTx.recoverExecutor crypto sig = some a := by
  rw [signAsExecutor, computeExecutorSigningHash_eq hcrypto htx] at h
  exact hsigner.signHash _ _ h

/-- So is the signature of a sponsor, given the executor for whom it signs. -/
theorem recovers_of_signAsSponsor (hcrypto : viemCrypto.Agrees crypto)
    (hsigner : signer.SignsFor crypto a) (htx : tx.Represents nodeTx) {executor : Address}
    (h : signAsSponsor viem viemCrypto tx (wordHex executor) signer = .ok signature) :
    ∃ sig, signature.Denotes sig ∧ nodeTx.recoverSponsor crypto executor sig = some a := by
  rw [signAsSponsor, computeSponsorSigningHash_eq hcrypto htx] at h
  exact hsigner.signHash _ _ h

end Signatures

/-! ## From the client to the node -/

section Received

variable {Payload : TxType → Type} (eth : EthereumSupport Payload) (crypto : Crypto)

/-- The node reads the bytes as a transaction of the executor, for which the sponsor pays if there
is one. -/
def Received (bytes : Bytes) (nodeTx : EvReth.EvNodeTransaction) (executor : Address)
    (sponsor : Option Address) : Prop :=
  ∃ sig, EvTxEnvelope.decode2718Exact eth bytes = .ok (.evNode nodeTx sig) ∧
    (EvTxEnvelope.evNode nodeTx sig : EvTxEnvelope Payload).recoverSigner crypto
      eth.signingFields = some executor ∧
    let env := EvTxEnv.fromRecoveredTx eth crypto (.evNode nodeTx sig) executor
    env.inner.caller = executor ∧ env.sponsor = sponsor ∧ env.sponsorSignatureInvalid = false

variable {eth crypto} {viem : Viem} {viemCrypto : ViemCrypto} {tx : EvNodeTransaction}
  {nodeTx : EvReth.EvNodeTransaction} {signature : Signature} {sig : EvReth.Signature} {hex : Hex}
  {executor : Address}

/-- The node decodes what the client encodes, to the end. -/
theorem decode2718Exact_encodeSignedTransaction (hviem : viem.Lawful) (htx : tx.Represents nodeTx)
    (hsig : signature.Denotes sig) (hhex : encodeSignedTransaction viem ⟨tx, signature⟩ = .ok hex)
    (hsize : (Hex.toBytes hex).length < 2 ^ 64) :
    EvTxEnvelope.decode2718Exact eth (Hex.toBytes hex) = .ok (.evNode nodeTx sig) := by
  have hread := eip2718Decode_encodeSignedTransaction hviem htx hsig hhex hsize
  rw [EvTxEnvelope.decode2718Exact, EvTxEnvelope.decode2718_of_evNode hread]
  rfl

/-- A transaction that the client has encoded is received as one of its executor, without a
sponsor. -/
theorem received_of_unsponsored (hviem : viem.Lawful) (htx : tx.Represents nodeTx)
    (hnone : nodeTx.feePayerSignature = none) (hsig : signature.Denotes sig)
    (hexecutor : nodeTx.recoverExecutor crypto sig = some executor)
    (hhex : encodeSignedTransaction viem ⟨tx, signature⟩ = .ok hex)
    (hsize : (Hex.toBytes hex).length < 2 ^ 64) :
    Received eth crypto (Hex.toBytes hex) nodeTx executor none := by
  refine ⟨sig, decode2718Exact_encodeSignedTransaction hviem htx hsig hhex hsize, hexecutor, rfl,
    ?_⟩
  simp only [EvTxEnv.fromRecoveredTx, EvTxEnv.fromEvNode, hnone, and_self]

/-- One that carries a sponsor's signature is received with this sponsor. -/
theorem received_of_sponsored (hviem : viem.Lawful) (htx : tx.Represents nodeTx)
    {sponsorSig : EvReth.Signature} (hsome : nodeTx.feePayerSignature = some sponsorSig)
    (hsig : signature.Denotes sig) (hexecutor : nodeTx.recoverExecutor crypto sig = some executor)
    {sponsor : Address}
    (hsponsor : nodeTx.recoverSponsor crypto executor sponsorSig = some sponsor)
    (hhex : encodeSignedTransaction viem ⟨tx, signature⟩ = .ok hex)
    (hsize : (Hex.toBytes hex).length < 2 ^ 64) :
    Received eth crypto (Hex.toBytes hex) nodeTx executor (some sponsor) := by
  refine ⟨sig, decode2718Exact_encodeSignedTransaction hviem htx hsig hhex hsize, hexecutor, rfl,
    ?_⟩
  simp only [EvTxEnv.fromRecoveredTx, EvTxEnv.fromEvNode, hsome, hsponsor, and_self]

end Received

section Flows

variable {Payload : TxType → Type} {eth : EthereumSupport Payload} {crypto : Crypto} {viem : Viem}
  {viemCrypto : ViemCrypto} {user service : EvnodeClient} {executor sponsor : HashSigner}
  {e s : Address} {args : SendArgs}

/-- What the user of a client asks for is a transaction of the node. It is if it is in range. -/
def PreparesNodeTx (client : Client) (executor : HashSigner) (args : SendArgs) : Prop :=
  ∀ tx, prepareTx client executor.address args.overrides args.calls = .ok tx →
    ∃ nodeTx, tx.Represents nodeTx

/-- A prepared transaction has no sponsor, and neither has the one that it represents. -/
theorem represents_of_prepareTx {client : Client} (hrange : PreparesNodeTx client executor args)
    {tx : EvNodeTransaction}
    (hprepare : prepareTx client executor.address args.overrides args.calls = .ok tx) :
    ∃ nodeTx, tx.Represents nodeTx ∧ nodeTx.feePayerSignature = none := by
  obtain ⟨nodeTx, htx⟩ := hrange tx hprepare
  refine ⟨nodeTx, htx, ?_⟩
  obtain ⟨_, -, hprepare⟩ := Except.bind_eq_ok_iff.mp hprepare
  obtain ⟨⟨⟩, -, hprepare⟩ := Except.bind_eq_ok_iff.mp hprepare
  obtain rfl := Except.ok.inj hprepare
  have hsponsor := htx.feePayerSignature
  cases hnode : nodeTx.feePayerSignature with
  | none => rfl
  | some sig =>
    rw [hnode] at hsponsor
    cases hsponsor

/-- What a sponsor adds leaves the other fields as they are. -/
theorem EvNodeTransaction.Represents.sponsored {tx : EvNodeTransaction}
    {nodeTx : EvReth.EvNodeTransaction} (htx : tx.Represents nodeTx) {signature : Signature}
    {sig : EvReth.Signature} (hsig : signature.Denotes sig) :
    { tx with feePayerSignature := some signature : EvNodeTransaction }.Represents
      { nodeTx with feePayerSignature := some sig } :=
  { htx with feePayerSignature := .some hsig }

/-- What a user sends reaches the node as the transaction that the user has asked for: signed by its
executor, without a sponsor, or, if a sponsor has signed the intent later and elsewhere, with this
sponsor as the one who pays. -/
theorem transactions_received (hviem : viem.Lawful) (hcrypto : viemCrypto.Agrees crypto)
    (hexecutor : user.requireExecutor args.executor = .ok executor)
    (hsigns : executor.SignsFor crypto e)
    (hrange : PreparesNodeTx user.client executor args) :
    (∀ hash, user.send viem viemCrypto args = .ok hash →
      ∃ raw tx nodeTx, user.request raw = .ok hash ∧
        prepareTx user.client executor.address args.overrides args.calls = .ok tx ∧
        tx.Represents nodeTx ∧
        ((Hex.toBytes raw).length < 2 ^ 64 →
          Received eth crypto (Hex.toBytes raw) nodeTx e none)) ∧
      ∀ intent requested hash, user.createIntent viem viemCrypto args = .ok intent →
        service.requireSponsor requested = .ok sponsor → sponsor.SignsFor crypto s →
        service.sponsorAndSend viem viemCrypto { intent, sponsor := requested } = .ok hash →
        ∃ raw nodeTx sponsorSig, service.request raw = .ok hash ∧
          prepareTx user.client executor.address args.overrides args.calls = .ok intent.tx ∧
          intent.tx.Represents nodeTx ∧
          ((Hex.toBytes raw).length < 2 ^ 64 →
            Received eth crypto (Hex.toBytes raw)
              { nodeTx with feePayerSignature := some sponsorSig } e (some s)) := by
  refine ⟨fun hash h => ?_, fun intent requested hash hintent hsponsor hsponsors h => ?_⟩
  · obtain ⟨required, hrequired, h⟩ := Except.bind_eq_ok_iff.mp h
    obtain rfl := Except.ok.inj (hexecutor.symm.trans hrequired)
    obtain ⟨tx, hprepare, h⟩ := Except.bind_eq_ok_iff.mp h
    obtain ⟨signature, hsign, h⟩ := Except.bind_eq_ok_iff.mp h
    obtain ⟨raw, hraw, h⟩ := Except.bind_eq_ok_iff.mp h
    obtain ⟨nodeTx, htx, hnone⟩ := represents_of_prepareTx hrange hprepare
    obtain ⟨sig, hsig, hrecover⟩ := recovers_of_signAsExecutor hcrypto hsigns htx hsign
    exact ⟨raw, tx, nodeTx, h, hprepare, htx,
      received_of_unsponsored hviem htx hnone hsig hrecover hraw⟩
  · obtain ⟨required, hrequired, hintent⟩ := Except.bind_eq_ok_iff.mp hintent
    obtain rfl := Except.ok.inj (hexecutor.symm.trans hrequired)
    obtain ⟨tx, hprepare, hintent⟩ := Except.bind_eq_ok_iff.mp hintent
    obtain ⟨signature, hsign, hintent⟩ := Except.bind_eq_ok_iff.mp hintent
    obtain rfl := Except.ok.inj hintent
    obtain ⟨nodeTx, htx, -⟩ := represents_of_prepareTx hrange hprepare
    obtain ⟨sig, hsig, hrecover⟩ := recovers_of_signAsExecutor hcrypto hsigns htx hsign
    -- the sponsor signs the transaction for the executor that the intent names
    obtain ⟨required, hrequired, h⟩ := Except.bind_eq_ok_iff.mp h
    obtain rfl := Except.ok.inj (hsponsor.symm.trans hrequired)
    obtain ⟨signed, hsigned, hsend⟩ := Except.bind_eq_ok_iff.mp h
    obtain ⟨raw, hraw, hrequest⟩ := Except.bind_eq_ok_iff.mp hsend
    rw [sponsorIntent] at hsigned
    obtain ⟨sponsorSignature, hsponsorSign, hsigned⟩ := Except.bind_eq_ok_iff.mp hsigned
    obtain rfl := Except.ok.inj hsigned
    replace hsponsorSign : signAsSponsor viem viemCrypto tx (wordHex e) sponsor =
        .ok sponsorSignature := by
      rw [← hsigns.address_eq]
      exact hsponsorSign
    obtain ⟨sponsorSig, hsponsorSig, hsponsorRecover⟩ :=
      recovers_of_signAsSponsor hcrypto hsponsors htx hsponsorSign
    -- neither preimage contains the sponsor's signature
    exact ⟨raw, nodeTx, sponsorSig, hrequest, hprepare, htx,
      received_of_sponsored hviem (htx.sponsored hsponsorSig) rfl hsig hrecover hsponsorRecover
        hraw⟩

end Flows

/-! ## A sponsored payment -/

/-- The signature of which this is the normal form. -/
def NormalizedSignature.toNode (signature : NormalizedSignature) : EvReth.Signature :=
  { r := BitVec.ofNat 256 (Hex.value signature.r)
    s := BitVec.ofNat 256 (Hex.value signature.s)
    yParity := signature.yParity = 1 }

/-- A signature of the node is taken over as it is. -/
theorem NormalizedSignature.toNode_ofNode (sig : EvReth.Signature) :
    (NormalizedSignature.ofNode sig).toNode = sig := by
  obtain ⟨r, s, yParity⟩ := sig
  have hword : ∀ x : U256, BitVec.ofNat 256 (Hex.value (wordHex x)) = x := by
    intro x
    rw [value_wordHex (k := 32) rfl, BitVec.ofNat_toNat, BitVec.setWidth_eq]
  simp only [toNode, ofNode, hword, EvReth.Signature.mk.injEq, true_and]
  cases yParity <;> rfl

/-- A viem that recovers what the node recovers. -/
def ViemCrypto.reference (crypto : Crypto) : ViemCrypto where
  keccak256 := crypto.keccak256
  recoverAddress hash signature :=
    match signature.toNode.recoverAddressFromPrehash crypto hash with
    | some a => .ok (wordHex a)
    | none => .error "invalid signature"

/-- The reference functions of the client are those of the node. -/
theorem ViemCrypto.reference_agrees (crypto : Crypto) : (reference crypto).Agrees crypto where
  keccak256_eq := rfl
  recoverAddress_eq_ok_iff hash sig hex := by
    simp only [reference, NormalizedSignature.toNode_ofNode]
    cases sig.recoverAddressFromPrehash crypto hash with
    | none => simp
    | some a => simp [eq_comm]

/-- A signer that has signed one hash. -/
def recordedSigner (a : Address) (hash : B256) (sig : EvReth.Signature) : HashSigner :=
  { address := wordHex a
    signHash := fun asked =>
      if asked = hash then .ok (.object (.ofNode sig)) else .error "not signed" }

/-- A signer that returns a recorded signature signs for the account that it recovers to. -/
theorem signsFor_recordedSigner {crypto : Crypto} {a : Address} {hash : B256}
    {sig : EvReth.Signature} (h : sig.recoverAddressFromPrehash crypto hash = some a) :
    (recordedSigner a hash sig).SignsFor crypto a := by
  constructor
  · rw [recordedSigner]
  · intro asked signature hsign
    simp only [recordedSigner] at hsign
    split_ifs at hsign with heq
    obtain rfl := Except.ok.inj hsign
    rw [heq]
    exact ⟨sig, .object (SignatureObject.denotes_ofNode sig), h⟩

open EvReth.EvNodeTransaction (wirePayment)
open EvReth.EvTxEnvelope (paymentCrypto paymentSender paymentSponsor unitSignature)

/-- What the user of a payment asks for. -/
def paymentArgs : SendArgs :=
  { calls := (EvNodeTransaction.ofNode wirePayment).calls
    overrides :=
      { allButGasLimit (.ofNode wirePayment) with gasLimit := some wirePayment.gasLimit.toNat } }

/-- The client of the executor or of the sponsor of a payment. The node answers with what it is
sent. -/
def paymentClient : EvnodeClient :=
  { client := offline
    request := .ok
    defaultExecutor := some
      (recordedSigner paymentSender (wirePayment.executorSigningHash paymentCrypto) unitSignature)
    defaultSponsor := some (recordedSigner paymentSponsor
      (wirePayment.sponsorSigningHash paymentCrypto paymentSender) ⟨1, 2, true⟩) }

/-- The intent of the executor. -/
def paymentIntent : Except String SponsorableIntent :=
  paymentClient.createIntent .reference (.reference paymentCrypto) paymentArgs

/-- What the sponsor sends for it. -/
def sponsoredPaymentHex : Except String Hex := do
  let intent ← paymentIntent
  paymentClient.sponsorAndSend .reference (.reference paymentCrypto) { intent }

/-- The client of the example prepares a transaction of the node. -/
theorem preparesNodeTx_payment :
    PreparesNodeTx offline
      (recordedSigner paymentSender (wirePayment.executorSigningHash paymentCrypto) unitSignature)
      paymentArgs := by
  intro tx hprepare
  obtain rfl := Except.ok.inj hprepare
  exact ⟨_, EvNodeTransaction.represents_ofNode { wirePayment with feePayerSignature := none }⟩

/-- A payment whose intent goes from the user to the sponsor is received with both. -/
theorem transactions_received_payment :
    ∃ raw, ∃ nodeTx : EvReth.EvNodeTransaction, ∃ sponsorSig, sponsoredPaymentHex = .ok raw ∧
      Received EthereumSupport.none paymentCrypto (Hex.toBytes raw)
        { nodeTx with feePayerSignature := some sponsorSig } paymentSender
        (some paymentSponsor) := by
  have hlength : sponsoredPaymentHex.toOption.map (·.length) = some 212 := by decide +kernel
  cases hhex : sponsoredPaymentHex with
  | error e =>
    rw [hhex] at hlength
    cases hlength
  | ok hash =>
    rw [hhex] at hlength
    obtain ⟨intent, hintent, hsend⟩ := Except.bind_eq_ok_iff.mp hhex
    have hsponsor : (unitSignature.recoverAddressFromPrehash paymentCrypto
        (wirePayment.executorSigningHash paymentCrypto)) = some paymentSender := by decide +kernel
    have hexecutor : (⟨1, 2, true⟩ : EvReth.Signature).recoverAddressFromPrehash paymentCrypto
        (wirePayment.sponsorSigningHash paymentCrypto paymentSender) = some paymentSponsor := by
      decide +kernel
    obtain ⟨raw, nodeTx, sponsorSig, hrequest, -, -, hreceived⟩ :=
      (transactions_received Viem.reference_lawful (ViemCrypto.reference_agrees paymentCrypto) rfl
        (signsFor_recordedSigner hsponsor) preparesNodeTx_payment).2 intent none hash hintent rfl
        (signsFor_recordedSigner hexecutor) hsend
    obtain rfl := Except.ok.inj hrequest
    refine ⟨raw, nodeTx, sponsorSig, rfl, hreceived ?_⟩
    have hlen : raw.length = 212 := Option.some.inj hlength
    rw [Hex.toBytes_of_even (by rw [hlen]), Hex.length_pairs, hlen]
    decide

end EvReth.Clients
