import EvReth.Sponsor.Requests

/-!
# What reaches the node

A transaction that is given to the service reaches the node as its executor has signed it. One with
a sponsor is passed on as it is; to any other the service adds its own signature, and the node takes
the service for the one who pays.
-/

namespace EvReth.Sponsor

open Clients

namespace SponsorService

/-- The service has the key of an address. -/
structure SignsFor (service : SponsorService) (crypto : Crypto) (s : Address) : Prop where
  address_eq : service.sponsorAddress = wordHex s
  signHash : ∀ hash, ∃ sig, (Clients.Signature.object (service.signHash hash)).Denotes sig ∧
    sig.recoverAddressFromPrehash crypto hash = some s

variable {self : SponsorService} {crypto : Crypto} {s e : Address} {rawTx : JsString}
  {nodeTx : EvReth.EvNodeTransaction} {sig : EvReth.Signature}

/-- The service reads what the node writes. -/
theorem decodeRaw_eq (hviem : self.viem.Lawful)
    (hraw : self.hexDigits rawTx = .ok (Hex.ofBytes (nodeTx.eip2718Encode sig)))
    (hsize : (nodeTx.eip2718Encode sig).length < 2 ^ 64) :
    self.decodeRaw rawTx = .ok ⟨.ofNode nodeTx, .object (.ofNode sig)⟩ := by
  rw [decodeRaw, hraw]
  exact decodeEvNodeTransaction_encode hviem nodeTx sig hsize

/-- viem recovers the executor that the node recovers, and no other. -/
theorem recoverExecutor_ofNode_iff {viem : Viem} {viemCrypto : ViemCrypto}
    (hcrypto : viemCrypto.Agrees crypto) {hex : Hex} :
    recoverExecutor viem viemCrypto ⟨.ofNode nodeTx, .object (.ofNode sig)⟩ = .ok hex ↔
      ∃ e, hex = wordHex e ∧ nodeTx.recoverExecutor crypto sig = some e := by
  rw [recoverExecutor,
    computeExecutorSigningHash_eq hcrypto (EvNodeTransaction.represents_ofNode nodeTx),
    normalizeSignature_object viem (SignatureObject.denotes_ofNode sig)]
  exact hcrypto.recoverAddress_eq_ok_iff _ _ _

/-- The intent in a transaction of the node: its fields, and the executor that it is signed by. -/
theorem exists_executor_of_requests (hviem : self.viem.Lawful)
    (hcrypto : self.viemCrypto.Agrees crypto)
    (hraw : self.hexDigits rawTx = .ok (Hex.ofBytes (nodeTx.eip2718Encode sig)))
    (hsize : (nodeTx.eip2718Encode sig).length < 2 ^ 64) {intent : SponsorableIntent}
    (h : self.Requests rawTx intent) :
    ∃ e, nodeTx.recoverExecutor crypto sig = some e ∧
      intent = ⟨.ofNode nodeTx, .object (.ofNode sig), wordHex e⟩ := by
  obtain ⟨signedTx, hdecode, -, hintent⟩ := h
  obtain rfl := Except.ok.inj ((decodeRaw_eq hviem hraw hsize).symm.trans hdecode)
  rw [intentOf, Except.bind_eq_ok_iff] at hintent
  obtain ⟨hex, hrecover, hintent⟩ := hintent
  obtain ⟨e, heq, hexecutor⟩ := (recoverExecutor_ofNode_iff hcrypto).mp hrecover
  rw [heq] at hintent
  exact ⟨e, hexecutor, (Except.ok.inj hintent).symm⟩

/-- The intent in a transaction whose executor is known. -/
theorem eq_of_requests (hviem : self.viem.Lawful) (hcrypto : self.viemCrypto.Agrees crypto)
    (hraw : self.hexDigits rawTx = .ok (Hex.ofBytes (nodeTx.eip2718Encode sig)))
    (hsize : (nodeTx.eip2718Encode sig).length < 2 ^ 64)
    (hexecutor : nodeTx.recoverExecutor crypto sig = some e) {intent : SponsorableIntent}
    (h : self.Requests rawTx intent) :
    intent = ⟨.ofNode nodeTx, .object (.ofNode sig), wordHex e⟩ := by
  obtain ⟨e', hexecutor', heq⟩ := exists_executor_of_requests hviem hcrypto hraw hsize h
  obtain rfl := Option.some.inj (hexecutor.symm.trans hexecutor')
  exact heq

/-- The transaction that the service sends for one of the node is received as one that the service
pays for. -/
theorem received_of_sponsored {Payload : TxType → Type} {eth : EthereumSupport Payload}
    (hviem : self.viem.Lawful) (hcrypto : self.viemCrypto.Agrees crypto)
    (hkey : self.SignsFor crypto s) (hexecutor : nodeTx.recoverExecutor crypto sig = some e)
    {hash : B256}
    (hhash : self.SigningHash ⟨.ofNode nodeTx, .object (.ofNode sig), wordHex e⟩ hash) {hex : Hex}
    (hhex : self.sponsored ⟨.ofNode nodeTx, .object (.ofNode sig), wordHex e⟩
      (self.signHash hash) = .ok hex) (hsize : (Hex.toBytes hex).length < 2 ^ 64) :
    ∃ sponsorSig, Received eth crypto (Hex.toBytes hex)
      { nodeTx with feePayerSignature := some sponsorSig } e (some s) := by
  obtain ⟨sponsorSig, hdenotes, hrecover⟩ := hkey.signHash hash
  have htx := EvNodeTransaction.represents_ofNode nodeTx
  simp only [SigningHash] at hhash
  rw [computeSponsorSigningHash_eq hcrypto htx] at hhash
  obtain rfl := Except.ok.inj hhash
  have hsponsor : nodeTx.recoverSponsor crypto e sponsorSig = some s := hrecover
  rw [sponsored] at hhex
  exact ⟨sponsorSig, Clients.received_of_sponsored hviem (htx.sponsored hdenotes) rfl
    (.object (SignatureObject.denotes_ofNode sig)) hexecutor hsponsor hhex hsize⟩

/-- If the service has answered a request to send a transaction with a hash, then this is what the
node has responded to the same transaction with a sponsor: to the transaction itself if it has one,
and else to one that the node receives from the same executor with the service as its sponsor, whose
key it has. The service has done this for its own chain and within its limits only. -/
theorem delivered_to_node {Payload : TxType → Type} (eth : EthereumSupport Payload)
    (hviem : self.viem.Lawful) (hcrypto : self.viemCrypto.Agrees crypto)
    {asked : Request → Prop} {c : ServicePool asked}
    (hreaches : self.machine.PoolReaches (self.serveAsked asked) ⟨{}, fun _ => none⟩ c) {n : ℕ}
    {body : Json} {id result : Option Json} {hasked : asked (.jsonRpc (some body))}
    (hanswered : c.running n =
      some (⟨.jsonRpc (some body), hasked⟩, .done (.ok (.jsonRpc (.ok id result)))))
    (hparam : self.rawParam body = some (.string rawTx))
    (hraw : self.hexDigits rawTx = .ok (Hex.ofBytes (nodeTx.eip2718Encode sig)))
    (hsize : (nodeTx.eip2718Encode sig).length < 2 ^ 64) :
    id = body.field "id" ∧
      (nodeTx.feePayerSignature.isSome = true →
        self.Responded c.world.log "eth_sendRawTransaction" [.string rawTx] result) ∧
      (nodeTx.feePayerSignature = none → ∃ e hex, nodeTx.recoverExecutor crypto sig = some e ∧
        self.Responded c.world.log "eth_sendRawTransaction" [.string (hexString hex)] result ∧
        (∀ s, self.SignsFor crypto s → (Hex.toBytes hex).length < 2 ^ 64 →
          ∃ sponsorSig, Received eth crypto (Hex.toBytes hex)
            { nodeTx with feePayerSignature := some sponsorSig } e (some s)) ∧
        (nodeTx.chainId.toNat : ℤ) = self.config.chainId ∧
        (nodeTx.gasLimit.toNat : ℤ) ≤ self.config.maxGasLimitPerTx ∧
        (nodeTx.maxFeePerGas.toNat : ℤ) ≤ self.config.maxFeePerGasLimit) := by
  have hdecode := decodeRaw_eq hviem hraw hsize
  have hsafe := (sound_serveAsked self asked).safe_of_poolReaches
    (Machine.poolSafe_of_none inv_initial) hreaches
  obtain ⟨request, rawTx', hbody, hid, hraw', sent, hsent, hresponded⟩ := hsafe.post hanswered
  obtain rfl := Option.some.inj hbody
  obtain rfl := Json.string.inj (Option.some.inj (hparam.symm.trans hraw'))
  -- what was sent is the transaction itself exactly if it had a sponsor
  refine ⟨hid, fun hsome => ?_, fun hnone => ?_⟩
  · cases hsent with
    | forwarded => exact hresponded
    | sponsored hrequests =>
      obtain ⟨signedTx, hdecode', hnone, -⟩ := hrequests
      obtain rfl := Except.ok.inj (hdecode.symm.trans hdecode')
      rw [EvNodeTransaction.ofNode, Option.map_eq_none_iff] at hnone
      rw [hnone] at hsome
      cases hsome
  · cases hsent with
    | forwarded hsponsor =>
      obtain ⟨signedTx, hdecode', hsome⟩ := hsponsor
      obtain rfl := Except.ok.inj (hdecode.symm.trans hdecode')
      rw [EvNodeTransaction.ofNode, hnone] at hsome
      cases hsome
    | @sponsored intent hash hex hrequests happroves hhash hsigned hhex =>
      obtain ⟨e, hexecutor, rfl⟩ :=
        exists_executor_of_requests hviem hcrypto hraw hsize hrequests
      exact ⟨e, hex, hexecutor, hresponded,
        fun s hkey => received_of_sponsored hviem hcrypto hkey hexecutor hhash hhex,
        happroves.chainId, happroves.gasLimit, happroves.maxFeePerGas⟩

/-! ## A payment that is sponsored -/

open EvReth.EvNodeTransaction (wirePayment)
open EvReth.EvTxEnvelope (paymentCrypto paymentSender paymentSponsor unitSignature)

/-- The digit of a character. -/
def unitDigit (unit : UInt16) : Option (Fin 16) :=
  (List.finRange 16).find? fun d => digitUnit d = unit

/-- `paymentCrypto` with a signature that `paymentSponsor` makes for every hash. -/
def keyCrypto : Crypto :=
  { paymentCrypto with
    recoverKey := fun prehash signature =>
      if signature = ⟨1, 2, true⟩ then some paymentSponsor
      else paymentCrypto.recoverKey prehash signature }

/-- The service of `paymentSponsor`. -/
def paymentService : SponsorService :=
  { config :=
      { chainId := wirePayment.chainId.toNat
        maxGasLimitPerTx := 500000
        maxFeePerGasLimit := 100000000000
        minSponsorBalance := 1 }
    sponsorAddress := wordHex paymentSponsor
    signHash := fun _ => .ofNode ⟨1, 2, true⟩
    js :=
      { bigInt := fun _ => .ok 1
        toText := fun _ => "undefined"
        isZero := fun literal => literal = "0"
        isAtLeastFour := fun _ => true
        nullError := "null is not an object"
        methodError := "rawTx.slice is not a function" }
    viem := .reference
    viemCrypto := .reference keyCrypto
    hexDigits := fun s =>
      match (s.drop 2).mapM unitDigit with
      | some digits => .ok digits
      | none => .error "Invalid byte sequence" }

/-- The service of the example signs for the sponsor. -/
theorem signsFor_paymentService : paymentService.SignsFor keyCrypto paymentSponsor := by
  refine ⟨rfl, fun hash => ⟨⟨1, 2, true⟩, .object (SignatureObject.denotes_ofNode _), ?_⟩⟩
  have hscalars : (⟨1, 2, true⟩ : EvReth.Signature).normalizedS.IsScalarPair := by decide +kernel
  have hlow : (⟨1, 2, true⟩ : EvReth.Signature).normalizedS = ⟨1, 2, true⟩ := by decide +kernel
  rw [EvReth.Signature.recoverAddressFromPrehash]
  simp only [hscalars, if_true]
  rw [hlow]
  simp only [keyCrypto, if_true]

/-- `wirePayment` without its sponsor. -/
def unsponsoredPayment : EvReth.EvNodeTransaction := { wirePayment with feePayerSignature := none }

/-- Its encoding. -/
def paymentRaw : JsString :=
  hexString (Hex.ofBytes (unsponsoredPayment.eip2718Encode unitSignature))

/-- A request to send it. -/
def paymentBody : Json :=
  .object [("jsonrpc", .string (.ofAscii "2.0")), ("id", .number "1"),
    ("method", .string (.ofAscii "eth_sendRawTransaction")),
    ("params", .array [.string paymentRaw])]

/-- A node that responds with the same result to everything. -/
def oneResult (w : World) : (o : Op) → Except Empty (Op.Res o) × World
  | .call method params =>
    (.ok w.nextId, { nextId := w.nextId + 1, log := w.log ++ [.called w.nextId method params] })
  | .proxy body => (.ok (), { w with log := w.log ++ [.proxied body] })
  | .response id =>
    let response := .json (.object [("result", .string (.ofAscii "0x01"))])
    (.ok response, { w with log := w.log ++ [.responded id response] })
  | .sign hash => (.ok (paymentService.signHash hash), { w with log := w.log ++ [.signed hash] })

/-- The service has answered with a hash; the number of its steps, and what it has signed. -/
def stepsTaken (outcome : Except Empty (Except Failure Answer) × World) : Option (ℕ × List B256) :=
  match outcome with
  | (.ok (.ok (.jsonRpc (.ok _ _))), w) => some (w.log.length, signedHashes w.log)
  | _ => none

/-- What the world of the example answers is possible. -/
theorem perform_oneResult (w : World) (o : Op) :
    paymentService.machine.perform w o (oneResult w o).1 (oneResult w o).2 := by
  cases o with
  | call method params => exact ⟨_, rfl, rfl, rfl⟩
  | proxy body => exact ⟨_, rfl, trivial, rfl⟩
  | response id => exact ⟨_, rfl, trivial, rfl⟩
  | sign hash => exact ⟨_, rfl, rfl, rfl⟩

/-- Nothing else is asked. -/
def PaymentAsked (request : Request) : Prop := request = .jsonRpc (some paymentBody)

/-- The request that is asked. -/
def paymentRequest : {request // PaymentAsked request} := ⟨.jsonRpc (some paymentBody), rfl⟩

/-- The service takes the five steps of a sponsored payment. -/
theorem poolReaches_payment : ∃ (c : ServicePool PaymentAsked) (id result : Option Json),
    paymentService.machine.PoolReaches (paymentService.serveAsked PaymentAsked)
        ⟨{}, fun _ => none⟩ c ∧
      c.running 0 = some (paymentRequest, .done (.ok (.jsonRpc (.ok id result)))) ∧
      c.world.log.length = 5 ∧
      signedHashes c.world.log = [wirePayment.sponsorSigningHash keyCrypto paymentSender] := by
  have htaken : stepsTaken (Machine.answers oneResult
      (paymentService.serveAsked PaymentAsked paymentRequest) {}) =
        some (5, [wirePayment.sponsorSigningHash keyCrypto paymentSender]) := by decide +kernel
  generalize paymentRequest = request at htaken ⊢
  have hstarted : Function.update (fun _ : ℕ => none) 0
      (some (request, paymentService.serveAsked PaymentAsked request)) 0 =
        some (request, paymentService.serveAsked PaymentAsked request) := rfl
  have hanswers := Machine.poolReaches_answers (paymentService.serveAsked PaymentAsked)
    perform_oneResult (paymentService.serveAsked PaymentAsked request) {} hstarted
  rcases hrun : Machine.answers oneResult (paymentService.serveAsked PaymentAsked request) {} with
    ⟨outcome, w⟩
  rw [hrun] at htaken hanswers
  match outcome, htaken with
  | .ok (.ok (.jsonRpc (.ok id result))), htaken =>
    obtain ⟨hlength, hsigned⟩ := Prod.mk.inj (Option.some.inj htaken)
    exact ⟨_, id, result, .head (.start 0 request rfl) hanswers, rfl, hlength, hsigned⟩

/-- The signature of a payment is justified by the balance before it, and its answer by what was
sent. -/
theorem requests_justified_payment :
    ∃ (c : ServicePool PaymentAsked) (id result : Option Json),
    c.world.log.length = 5 ∧ paymentService.Justified PaymentAsked c.world.log ∧
      paymentService.Answered c.world.log (.jsonRpc (some paymentBody))
        (.jsonRpc (.ok id result)) := by
  obtain ⟨c, id, result, hreaches, hdone, hlength, -⟩ := poolReaches_payment
  obtain ⟨hjustified, -, hanswered, -⟩ := requests_justified hreaches
  exact ⟨c, id, result, hlength, hjustified, hanswered 0 _ _ hdone⟩

/-- The payment reaches the node with its sponsor. -/
theorem delivered_to_node_payment : ∃ (log : List Event) (result : Option Json) (hex : Hex),
    paymentService.Responded log "eth_sendRawTransaction" [.string (hexString hex)] result ∧
      ((Hex.toBytes hex).length < 2 ^ 64 → ∃ sponsorSig, Received EthereumSupport.none keyCrypto
        (Hex.toBytes hex) { unsponsoredPayment with feePayerSignature := some sponsorSig }
        paymentSender (some paymentSponsor)) := by
  obtain ⟨c, id, result, hreaches, hdone, -⟩ := poolReaches_payment
  have hexecutor : unsponsoredPayment.recoverExecutor keyCrypto unitSignature =
      some paymentSender := by decide +kernel
  have hraw : paymentService.hexDigits paymentRaw =
      .ok (Hex.ofBytes (unsponsoredPayment.eip2718Encode unitSignature)) := by decide +kernel
  obtain ⟨-, -, hdelivered⟩ := delivered_to_node EthereumSupport.none Viem.reference_lawful
    (ViemCrypto.reference_agrees keyCrypto) hreaches hdone rfl hraw (by decide +kernel)
  obtain ⟨e, hex, hexecutor', hresponded, hreceived, -⟩ := hdelivered rfl
  obtain rfl := Option.some.inj (hexecutor.symm.trans hexecutor')
  exact ⟨c.world.log, result, hex, hresponded, hreceived _ signsFor_paymentService⟩

end SponsorService

end EvReth.Sponsor
