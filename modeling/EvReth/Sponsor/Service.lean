import EvReth.Foundations.Parallel
import EvReth.Sponsor.PolicyEngine

/-!
# The sponsor service

What the service does for a request (`bin/sponsor-service/src/services/rpc-client.ts`,
`bin/sponsor-service/src/services/sponsor-service.ts`, `bin/sponsor-service/src/routes`). A request
is a program: it asks the node, and it asks the service's key for signatures. Any number of requests
are served side by side. Nothing is kept between two requests but the number of the next call.
-/

namespace EvReth.Sponsor

open Clients

/-! ## JavaScript -/

/-- A string, as its code units. -/
abbrev JsString := List UInt16

/-- A text of ASCII characters. -/
def JsString.ofAscii (text : String) : JsString := text.toList.map fun c => c.toNat.toUInt16

/-- The character of a digit. -/
def digitUnit (d : Fin 16) : UInt16 :=
  if d.val < 10 then (48 + d.val).toUInt16 else (87 + d.val).toUInt16

/-- The string of a `Hex`, which has `0x` in front of its digits. -/
def hexString (hex : Hex) : JsString := JsString.ofAscii "0x" ++ hex.map digitUnit

/-- What `JSON.parse` returns. A number is its literal. -/
inductive Json where
  | null
  | bool (b : Bool)
  | number (literal : String)
  | string (s : JsString)
  | array (items : List Json)
  | object (fields : List (String × Json))

namespace Json

/-- A property that is no index; `none` is `undefined`. Of two fields with one name the last one
counts. -/
def field (key : String) : Json → Option Json
  | .object fields => (fields.reverse.find? (·.1 = key)).map (·.2)
  | _ => none

/-- `value?.[0]`. -/
def first : Json → Option Json
  | .array items => items.head?
  | .string s => s.head?.map fun unit => .string [unit]
  | .object fields => field "0" (.object fields)
  | _ => none

end Json

/-- The conversions of JavaScript between values. Nothing that the service promises depends on
them. -/
structure JavaScript where
  /-- `BigInt(value)`. -/
  bigInt : Option Json → Except String ℤ
  /-- The text of a value in a template. -/
  toText : Option Json → String
  /-- The number is falsy. -/
  isZero : String → Bool
  /-- `value >= 4`. -/
  isAtLeastFour : Json → Bool
  /-- The message of the error that a property of `null` throws. -/
  nullError : String
  /-- The message of the error that the call of a method throws that is not there. -/
  methodError : String

/-- The value is truthy. -/
def JavaScript.truthy (js : JavaScript) : Json → Bool
  | .null => false
  | .bool b => b
  | .number literal => !js.isZero literal
  | .string s => !s.isEmpty
  | .array _ => true
  | .object _ => true

/-! ## The service -/

/-- The outcome of a `fetch` from the node. -/
inductive Response where
  | unreachable (message : String)
  | notJson (status : ℕ) (message : String)
  | json (value : Json)

/-- The steps in which a request is served: to send a call to the node under the next number, to
send a body as it is, to wait for the response to one of them, and to sign with the key of the
service. -/
inductive Op where
  | call (method : String) (params : List Json)
  | proxy (body : Json)
  | response (id : Option ℕ)
  | sign (hash : B256)

/-- The results of the steps. A call has the number under which it was sent. -/
abbrev Op.Res : Op → Type
  | .call _ _ => ℕ
  | .proxy _ => Unit
  | .response _ => Response
  | .sign _ => SignatureObject

/-- Programs of the service. -/
abbrev ServiceM (α : Type) := ExceptT Failure (Prog Empty Op Op.Res) α

/-- A single step. -/
def perform (o : Op) : ServiceM (Op.Res o) := ExceptT.lift (.op o)

/-- An error of a library is its message. -/
def fromLibrary {α : Type} (x : Except String α) : ServiceM α :=
  liftExcept (x.mapError Failure.other)

/-- `SponsorService`, with what it uses. -/
structure SponsorService where
  config : SponsorConfig
  /-- `sponsorSigner.address`. -/
  sponsorAddress : Hex
  /-- `sponsorSigner.signHash`. -/
  signHash : B256 → SignatureObject
  js : JavaScript
  viem : Viem
  viemCrypto : ViemCrypto
  /-- The digits that viem reads in a string. -/
  hexDigits : JsString → Except String Hex

/-- `SponsorResult`. -/
structure SponsorResult where
  txHash : Option Json
  sponsorAddress : Hex

namespace SponsorService

variable (self : SponsorService)

/-! ### `RpcClient` -/

/-- What `call` makes of an answer. -/
def result (data : Json) : Except Failure (Option Json) :=
  match data with
  | .null => .error (.other self.js.nullError)
  | data =>
    match data.field "error" with
    | some error =>
      if self.js.truthy error then
        .error (.sponsor (nodeError (self.js.toText (error.field "message"))))
      else .ok (data.field "result")
    | none => .ok (data.field "result")

/-- What `call` makes of a response. -/
def received : Response → Except Failure (Option Json)
  | .unreachable message => .error (.other message)
  | .notJson _ message => .error (.other message)
  | .json data => self.result data

/-- `call`. -/
def call (method : String) (params : List Json) : ServiceM (Option Json) := do
  let id ← perform (.call method params)
  let response ← perform (.response (some id))
  liftExcept (self.received response)

/-- `getBalance`. -/
def getBalance (address : Hex) : ServiceM ℤ := do
  let result ← self.call "eth_getBalance"
    [.string (hexString address), .string (.ofAscii "latest")]
  fromLibrary (self.js.bigInt result)

/-- `isConnected`. -/
def isConnected : ServiceM Bool :=
  tryCatch (do
    let result ← self.call "net_version" []
    return result.any self.js.truthy) fun _ => return false

/-- `sendRawTransaction`. -/
def sendRawTransaction (encoded : JsString) : ServiceM (Option Json) :=
  self.call "eth_sendRawTransaction" [.string encoded]

/-- What `proxy` makes of a response. -/
def proxied : Response → Except Failure Json
  | .unreachable message => .error (.other message)
  | .notJson status _ => .error (.sponsor (nodeError
      ("upstream returned non-JSON response (status " ++ toString status ++ ")")))
  | .json value => .ok value

/-- `proxy`. -/
def proxy (body : Json) : ServiceM Json := do
  perform (.proxy body)
  let response ← perform (.response none)
  liftExcept (proxied response)

/-! ### `SponsorService` -/

/-- `signAsSponsor` with the key of the service. -/
def signAsSponsor (tx : Clients.EvNodeTransaction) (executorAddress : Hex) :
    ServiceM SignatureObject := do
  let hash ← fromLibrary
    (computeSponsorSigningHash self.viem self.viemCrypto.keccak256 tx executorAddress)
  perform (.sign hash)

/-- The transaction that is sent for an intent, given the service's signature. -/
def sponsored (intent : SponsorableIntent) (feePayerSignature : SignatureObject) :
    Except String Hex :=
  encodeSignedTransaction self.viem
    { transaction := { intent.tx with feePayerSignature := some (.object feePayerSignature) }
      executorSignature := intent.executorSignature }

/-- `sponsorIntent`. -/
def sponsorIntent (intent : SponsorableIntent) : ServiceM SponsorResult := do
  liftExcept (validate self.viem self.viemCrypto self.config intent)
  let balance ← self.getBalance self.sponsorAddress
  -- nothing is signed below the minimum
  if balance < self.config.minSponsorBalance then
    throw (.sponsor sponsorBalanceLow)
  else
    let feePayerSignature ← self.signAsSponsor intent.tx intent.executorAddress
    let encoded ← fromLibrary (self.sponsored intent feePayerSignature)
    let txHash ← self.sendRawTransaction (hexString encoded)
    return { txHash, sponsorAddress := self.sponsorAddress }

/-! ### Routes -/

/-- `EVNODE_TX_TYPE_HEX`. -/
def evnodeTxTypeHex : JsString := .ofAscii "76"

/-- `isEvNodeTx`. What is not a string may have a length, but no `toLowerCase`; the two digits are
the same in both cases. -/
def isEvNodeTx : Json → Except String Bool
  | .string rawTx => .ok (4 ≤ rawTx.length && (rawTx.drop 2).take 2 = evnodeTxTypeHex)
  | .array items => if 4 ≤ items.length then .error self.js.methodError else .ok false
  | .object fields =>
    if (Json.field "length" (.object fields)).any self.js.isAtLeastFour then
      .error self.js.methodError
    else .ok false
  | .null => .error self.js.nullError
  | .bool _ => .ok false
  | .number _ => .ok false

/-- `sponsorErrorToRpcCode`. -/
def sponsorErrorToRpcCode (e : SponsorError) : ℤ :=
  if e.statusCode = 429 then -32005
  else if e.statusCode = 502 ∨ e.statusCode = 503 then -32003
  else -32602

/-- The transaction in a string. -/
def decodeRaw (rawTx : JsString) : Except String EvNodeSignedTransaction := do
  let hex ← self.hexDigits rawTx
  decodeEvNodeTransaction self.viem hex

/-- The intent in a transaction without a sponsor. -/
def intentOf (signedTx : EvNodeSignedTransaction) : Except String SponsorableIntent := do
  let executorAddress ← recoverExecutor self.viem self.viemCrypto signedTx
  return { tx := signedTx.transaction
           executorSignature := signedTx.executorSignature
           executorAddress }

/-- `handleEvNodeSendRaw`. -/
def handleEvNodeSendRaw (rawTx : JsString) : ServiceM (Option Json) := do
  let signedTx ← fromLibrary (self.decodeRaw rawTx)
  match signedTx.transaction.feePayerSignature with
  -- with a sponsor the transaction is sent as it has come
  | some _ => self.sendRawTransaction rawTx
  | none =>
    let intent ← fromLibrary (self.intentOf signedTx)
    let result ← self.sponsorIntent intent
    return result.txHash

/-- What the route of JSON-RPC replies: `jsonRpcOk`, `jsonRpcError`, or what the node has
replied. -/
inductive Reply where
  | ok (id result : Option Json)
  | error (id : Option Json) (code : ℤ) (message : String)
  | proxied (value : Json)

/-- The error of a failure. -/
def Reply.ofFailure (id : Option Json) : Failure → Reply
  | .sponsor e => .error id (sponsorErrorToRpcCode e) e.message
  | .other message => .error id (-32000) message

/-- Pass a request on to the node. -/
def proxyRoute (body : Json) : ServiceM Reply :=
  tryCatch (do
    let proxyResult ← proxy body
    return .proxied proxyResult)
    fun _ => return .error (body.field "id") (-32003) "Unable to connect to upstream node"

/-- The parameter of a request that sends a transaction, unless it is falsy. -/
def rawParam (body : Json) : Option Json :=
  match body.field "method" with
  | some (.string method) =>
    if method = .ofAscii "eth_sendRawTransaction" then
      ((body.field "params").bind Json.first).filter (self.js.truthy ·)
    else none
  | _ => none

/-- `registerJsonRpcRoute`. What it throws itself is the message of an error of the server. -/
def jsonRpcRoute (body : Option Json) : ServiceM Reply := do
  match body with
  | some (.array items) => proxyRoute (.array items)
  | some (.object fields) =>
    let body := Json.object fields
    match self.rawParam body with
    | none => proxyRoute body
    | some rawTx =>
      -- this test is not among what the route catches
      let isEvNode ← fromLibrary (self.isEvNodeTx rawTx)
      match isEvNode, rawTx with
      | true, .string rawTx =>
        tryCatch (do
          let txHash ← self.handleEvNodeSendRaw rawTx
          return .ok (body.field "id") txHash)
          fun e => return .ofFailure (body.field "id") e
      | _, _ => proxyRoute body
  | _ => return .error none (-32600) "Invalid Request"

/-- `status` of the health route. -/
inductive Status where
  | healthy
  | degraded
  | unhealthy
  deriving DecidableEq, Repr

/-- What the health route replies. -/
structure Health where
  httpStatus : ℕ
  status : Status
  sponsorBalance : Option ℤ
  nodeConnected : Bool
  deriving DecidableEq, Repr

/-- `registerHealthRoute`. -/
def healthRoute : ServiceM Health := do
  -- the two questions of `Promise.allSettled`, one after the other
  let sponsorBalance ← tryCatch (some <$> self.getBalance self.sponsorAddress) fun _ => return none
  let connected ← self.isConnected
  let status :=
    if !connected then Status.unhealthy
    else if sponsorBalance.isNone then .degraded
    else .healthy
  let httpStatus := if status = .unhealthy then 503 else 200
  return { httpStatus, status, sponsorBalance, nodeConnected := connected }

/-- What the policy route replies. -/
structure Policy where
  chainId : ℤ
  sponsorAddress : Hex
  maxGasPerTx : ℤ
  maxFeePerGas : ℤ
  deriving DecidableEq, Repr

/-- `registerPolicyRoute`. -/
def policyRoute : Policy :=
  { chainId := self.config.chainId
    sponsorAddress := self.sponsorAddress
    maxGasPerTx := self.config.maxGasLimitPerTx
    maxFeePerGas := self.config.maxFeePerGasLimit }

/-! ## Requests -/

/-- A request to the server. -/
inductive Request where
  | jsonRpc (body : Option Json)
  | health
  | policy

/-- What it is answered. -/
inductive Answer where
  | jsonRpc (reply : Reply)
  | health (health : Health)
  | policy (policy : Policy)

/-- The program of a request. -/
def serve : Request → ServiceM Answer
  | .jsonRpc body => .jsonRpc <$> self.jsonRpcRoute body
  | .health => .health <$> self.healthRoute
  | .policy => return .policy self.policyRoute

end SponsorService

end EvReth.Sponsor
