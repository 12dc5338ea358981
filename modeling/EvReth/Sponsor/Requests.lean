import EvReth.Sponsor.Service

/-!
# Requests side by side

The node may answer anything, and requests are served in any interleaving: the steps of one may come
between two steps of another, and the service may stop at any point. The log has every step of every
request. What stands in it is justified by a request that is asked and by what stands before it: a
signature by the policy and by a balance that the node has reported, a transaction that is sent by
the service's signature for it, or by the sponsor that it has already, and every other call by a
request that needs its answer. What the service answers is what the log says, and each of its
errors has a reason there.
-/

namespace EvReth.Sponsor

open Clients

/-! ## The log -/

/-- What the requests have done. -/
inductive Event where
  | called (id : ℕ) (method : String) (params : List Json)
  | proxied (body : Json)
  | responded (id : Option ℕ) (response : Response)
  | signed (hash : B256)

/-- The event of a step. -/
def Op.event : (o : Op) → Op.Res o → Event
  | .call method params, id => .called id method params
  | .proxy body, _ => .proxied body
  | .response id, r => .responded id r
  | .sign hash, _ => .signed hash

/-- What the requests share: the number of the next call, and the log. -/
structure World where
  nextId : ℕ := 1
  log : List Event := []

/-- The number of the call after a step. -/
def Op.nextId (nextId : ℕ) : Op → ℕ
  | .call _ _ => nextId + 1
  | .proxy _ => nextId
  | .response _ => nextId
  | .sign _ => nextId

/-- The requests that are being served, among those that are asked, and the log. -/
abbrev ServicePool (asked : SponsorService.Request → Prop) :=
  Pool Empty Op Op.Res World {request // asked request} (Except Failure SponsorService.Answer)

/-- The numbers of the calls. -/
def callIds (log : List Event) : List ℕ :=
  log.filterMap fun
    | .called id _ _ => some id
    | _ => none

/-- The hashes that the service has signed. -/
def signedHashes (log : List Event) : List B256 :=
  log.filterMap fun
    | .signed hash => some hash
    | _ => none

/-- Every call has its own number. -/
structure World.Numbered (w : World) : Prop where
  lt : ∀ id ∈ callIds w.log, id < w.nextId
  nodup : (callIds w.log).Nodup

namespace SponsorService

variable (self : SponsorService)

/-- The results that a step can have. The node responds with anything. -/
def Results (w : World) : (o : Op) → Op.Res o → Prop
  | .call _ _, id => id = w.nextId
  | .proxy _, _ => True
  | .response _, _ => True
  | .sign hash, signature => signature = self.signHash hash

/-- The machine on which the requests run. -/
def machine : Machine Empty Op Op.Res World where
  perform w o r w' := ∃ a, r = .ok a ∧ self.Results w o a ∧
    w' = { nextId := o.nextId w.nextId, log := w.log ++ [o.event a] }
  env _ _ := False

/-- The programs of the requests that are asked. -/
def serveAsked (asked : Request → Prop) (request : {request // asked request}) : ServiceM Answer :=
  self.serve request.val

/-! ## What is justified -/

variable (asked : Request → Prop)

/-- A request to send the transaction is asked. -/
def Asked (rawTx : JsString) : Prop :=
  ∃ body, asked (.jsonRpc (some body)) ∧ self.rawParam body = some (.string rawTx)

/-- The string has an intent to be sponsored. -/
def Requests (rawTx : JsString) (intent : SponsorableIntent) : Prop :=
  ∃ signedTx, self.decodeRaw rawTx = .ok signedTx ∧
    signedTx.transaction.feePayerSignature = none ∧ self.intentOf signedTx = .ok intent

/-- The string has a transaction with a sponsor. -/
def HasSponsor (rawTx : JsString) : Prop :=
  ∃ signedTx, self.decodeRaw rawTx = .ok signedTx ∧
    signedTx.transaction.feePayerSignature.isSome = true

/-- The policy approves of the intent. -/
abbrev Approves (intent : SponsorableIntent) : Prop :=
  Approved self.viem self.viemCrypto self.config intent

/-- What the sponsor of an intent has to sign. -/
def SigningHash (intent : SponsorableIntent) (hash : B256) : Prop :=
  computeSponsorSigningHash self.viem self.viemCrypto.keccak256 intent.tx
    intent.executorAddress = .ok hash

/-- The node has responded to a call, and this is what the service has received. -/
def Settled (log : List Event) (method : String) (params : List Json)
    (received : Except Failure (Option Json)) : Prop :=
  ∃ id response, .called id method params ∈ log ∧ .responded (some id) response ∈ log ∧
    self.received response = received

/-- The service has asked for its balance, and this is what it has read in the response. -/
def BalanceRead (log : List Event) (balance : Except Failure ℤ) : Prop :=
  ∃ received, self.Settled log "eth_getBalance"
      [.string (hexString self.sponsorAddress), .string (.ofAscii "latest")] received ∧
    (received >>= fun result => (self.js.bigInt result).mapError .other) = balance

/-- The node has reported a balance of the sponsor that is large enough. -/
def BalanceReported (log : List Event) : Prop :=
  ∃ balance, self.BalanceRead log (.ok balance) ∧ self.config.minSponsorBalance ≤ balance

/-- A request needs the balance of the sponsor: one for the health of the service, or one to send a
transaction that the policy approves of. -/
def NeedsBalance : Prop :=
  asked .health ∨
    ∃ rawTx intent, self.Asked asked rawTx ∧ self.Requests rawTx intent ∧ self.Approves intent

/-- What may be sent for a transaction: itself, if it has a sponsor, and else the transaction with
the service's signature. -/
inductive SentFor (log : List Event) (rawTx : JsString) : JsString → Prop
  | forwarded (h : self.HasSponsor rawTx) : SentFor log rawTx rawTx
  | sponsored {intent hash hex} (hrequests : self.Requests rawTx intent)
      (happroves : self.Approves intent) (hhash : self.SigningHash intent hash)
      (hsigned : .signed hash ∈ log)
      (hhex : self.sponsored intent (self.signHash hash) = .ok hex) :
      SentFor log rawTx (hexString hex)

/-- A body that is passed on is an array, or has no transaction that the route would handle. -/
def PassesOn (body : Json) : Prop :=
  (∃ items, body = .array items) ∨
    (∃ fields, body = .object fields) ∧
      ∀ rawTx, self.rawParam body = some rawTx → self.isEvNodeTx rawTx = .ok false

/-- What justifies an event. The node responds to what it was sent. -/
inductive Allowed (log : List Event) : Event → Prop
  | balance (id : ℕ) (h : self.NeedsBalance asked) : Allowed log (.called id "eth_getBalance"
      [.string (hexString self.sponsorAddress), .string (.ofAscii "latest")])
  | version (id : ℕ) (hasked : asked .health) : Allowed log (.called id "net_version" [])
  | sent (id : ℕ) {rawTx sent} (hasked : self.Asked asked rawTx)
      (h : self.SentFor log rawTx sent) :
      Allowed log (.called id "eth_sendRawTransaction" [.string sent])
  | proxied {body} (hasked : asked (.jsonRpc (some body))) (h : self.PassesOn body) :
      Allowed log (.proxied body)
  | responded {id method params} (response : Response) (hcalled : .called id method params ∈ log) :
      Allowed log (.responded (some id) response)
  | passedBack {body} (response : Response) (hproxied : .proxied body ∈ log) :
      Allowed log (.responded none response)
  | signed {rawTx intent hash} (hasked : self.Asked asked rawTx)
      (hrequests : self.Requests rawTx intent) (happroves : self.Approves intent)
      (hhash : self.SigningHash intent hash) (hbalance : self.BalanceReported log) :
      Allowed log (.signed hash)

/-- Every event is justified by those before it. -/
def Justified (log : List Event) : Prop :=
  ∀ before e, before ++ [e] <+: log → self.Allowed asked before e

/-- The invariant of the service. -/
def Inv (w : World) : Prop := self.Justified asked w.log ∧ w.Numbered

/-- What a step of any request does. -/
def Guar (w w' : World) : Prop :=
  (∃ e, w'.log = w.log ++ [e] ∧ self.Allowed asked w.log e) ∧ (w.Numbered → w'.Numbered)

/-! ## What is answered -/

/-- The node has responded to a call with a result. -/
def Responded (log : List Event) (method : String) (params : List Json) (result : Option Json) :
    Prop :=
  self.Settled log method params (.ok result)

/-- The node has taken what was sent for a transaction. -/
def Delivered (log : List Event) (rawTx : JsString) (result : Option Json) : Prop :=
  ∃ sent, self.SentFor log rawTx sent ∧
    self.Responded log "eth_sendRawTransaction" [.string sent] result

/-- The policy has refused a transaction. -/
def Refused (rawTx : JsString) (e : SponsorError) : Prop :=
  ∃ intent, self.Requests rawTx intent ∧
    validate self.viem self.viemCrypto self.config intent = .error (.sponsor e)

/-- Why a transaction is not delivered: it has no intent, the policy refuses it, the sponsor's
balance is not known or too low, the sponsored transaction cannot be made, or the node has not taken
what was sent. -/
inductive Fails (log : List Event) (rawTx : JsString) : Failure → Prop
  | undecodable {message} (h : self.decodeRaw rawTx = .error message) :
      Fails log rawTx (.other message)
  | noIntent {signedTx message} (hdecode : self.decodeRaw rawTx = .ok signedTx)
      (hsponsor : signedTx.transaction.feePayerSignature = none)
      (h : self.intentOf signedTx = .error message) : Fails log rawTx (.other message)
  | refused {intent e} (hrequests : self.Requests rawTx intent)
      (h : validate self.viem self.viemCrypto self.config intent = .error e) : Fails log rawTx e
  | balanceUnknown {intent e} (hrequests : self.Requests rawTx intent)
      (happroves : self.Approves intent) (h : self.BalanceRead log (.error e)) : Fails log rawTx e
  | balanceLow {intent balance} (hrequests : self.Requests rawTx intent)
      (happroves : self.Approves intent) (hread : self.BalanceRead log (.ok balance))
      (h : balance < self.config.minSponsorBalance) :
      Fails log rawTx (.sponsor sponsorBalanceLow)
  | noHash {intent message} (hrequests : self.Requests rawTx intent)
      (happroves : self.Approves intent) (hbalance : self.BalanceReported log)
      (h : computeSponsorSigningHash self.viem self.viemCrypto.keccak256 intent.tx
        intent.executorAddress = .error message) : Fails log rawTx (.other message)
  | notEncoded {intent hash message} (hrequests : self.Requests rawTx intent)
      (happroves : self.Approves intent) (hhash : self.SigningHash intent hash)
      (hsigned : .signed hash ∈ log)
      (h : self.sponsored intent (self.signHash hash) = .error message) :
      Fails log rawTx (.other message)
  | notTaken {sent e} (hsent : self.SentFor log rawTx sent)
      (h : self.Settled log "eth_sendRawTransaction" [.string sent] (.error e)) : Fails log rawTx e

/-- The body of a request is an array or an object. -/
def IsRequest (body : Option Json) : Prop :=
  (∃ items, body = some (.array items)) ∨ ∃ fields, body = some (.object fields)

/-- What stands behind an error: the body is no request, the transaction in it is not delivered, or
the node has not responded to what was passed on. -/
inductive ErrorOf (log : List Event) : Option Json → Option Json → ℤ → String → Prop
  | invalid {body} (h : ¬ IsRequest body) : ErrorOf log body none (-32600) "Invalid Request"
  | undelivered {request rawTx e id code message}
      (hraw : self.rawParam request = some (.string rawTx)) (h : self.Fails log rawTx e)
      (hreply : .error id code message = Reply.ofFailure (request.field "id") e) :
      ErrorOf log (some request) id code message
  | disconnected {request response e} (hpasses : self.PassesOn request)
      (hproxied : .proxied request ∈ log) (hresponded : .responded none response ∈ log)
      (h : proxied response = .error e) :
      ErrorOf log (some request) (request.field "id") (-32003)
        "Unable to connect to upstream node"

/-- What stands behind a reply. -/
def Accounted (log : List Event) (body : Option Json) : Reply → Prop
  | .ok id result => ∃ request rawTx, body = some request ∧ id = request.field "id" ∧
      self.rawParam request = some (.string rawTx) ∧ self.Delivered log rawTx result
  | .error id code message => self.ErrorOf log body id code message
  | .proxied value => ∃ request response, body = some request ∧ self.PassesOn request ∧
      .proxied request ∈ log ∧ .responded none response ∈ log ∧ proxied response = .ok value

/-- The node is reported as connected if it has responded with a version. -/
def ConnectedIs (log : List Event) (connected : Bool) : Prop :=
  ∃ received, self.Settled log "net_version" [] received ∧
    (connected = true ↔ ∃ result, received = .ok (some result) ∧ self.js.truthy result = true)

/-- What stands behind a report of health: the balance and the version that the node has responded
with. -/
structure Observed (log : List Event) (health : Health) : Prop where
  sponsorBalance : ∃ balance, self.BalanceRead log balance ∧
    health.sponsorBalance = balance.toOption
  nodeConnected : self.ConnectedIs log health.nodeConnected
  status : health.status =
    if health.nodeConnected = false then .unhealthy
    else if health.sponsorBalance = none then .degraded
    else .healthy
  httpStatus : health.httpStatus = if health.status = .unhealthy then 503 else 200

/-- What the route of JSON-RPC throws: the test of a parameter that is no string. -/
def Throws (body : Option Json) (e : Failure) : Prop :=
  ∃ request rawTx message, body = some request ∧ self.rawParam request = some rawTx ∧
    self.isEvNodeTx rawTx = .error message ∧ e = .other message

/-- What stands behind the answer to a request. -/
def Answered (log : List Event) : Request → Answer → Prop
  | .jsonRpc body, .jsonRpc reply => self.Accounted log body reply
  | .health, .health health => self.Observed log health
  | .policy, .policy policy => policy = self.policyRoute
  | _, _ => False

/-- What a request throws. -/
def Thrown : Request → Failure → Prop
  | .jsonRpc body, e => self.Throws body e
  | .health, _ => False
  | .policy, _ => False

/-! ## Rules -/

/-- An assertion about the log that holds on. -/
def Lasting (p : List Event → Prop) : Prop := ∀ log log', log <+: log' → p log → p log'

theorem lasting_true : Lasting fun _ => True := fun _ _ _ _ => trivial

/-- An event stays in the log. -/
theorem lasting_mem (e : Event) : Lasting (e ∈ ·) := fun _ _ h he => h.subset he

theorem Lasting.and {p q : List Event → Prop} (hp : Lasting p) (hq : Lasting q) :
    Lasting fun log => p log ∧ q log :=
  fun log log' h hlog => ⟨hp log log' h hlog.1, hq log log' h hlog.2⟩

section Lasting

variable {self}

/-- A response that has been received stays received. -/
theorem lasting_settled (method : String) (params : List Json)
    (received : Except Failure (Option Json)) :
    Lasting (self.Settled · method params received) := by
  rintro log log' h ⟨id, response, hcalled, hresponded, hreceived⟩
  exact ⟨id, response, h.subset hcalled, h.subset hresponded, hreceived⟩

theorem lasting_balanceRead (balance : Except Failure ℤ) :
    Lasting (self.BalanceRead · balance) := by
  rintro log log' h ⟨received, hsettled, hbalance⟩
  exact ⟨received, lasting_settled _ _ _ _ _ h hsettled, hbalance⟩

theorem lasting_balanceReported : Lasting self.BalanceReported := by
  rintro log log' h ⟨balance, hread, hle⟩
  exact ⟨balance, lasting_balanceRead _ _ _ h hread, hle⟩

/-- A hash that has been signed stays signed. -/
theorem lasting_signed (intent : SponsorableIntent) (signature : SignatureObject) :
    Lasting fun log => ∃ hash, self.SigningHash intent hash ∧ .signed hash ∈ log ∧
      signature = self.signHash hash := by
  rintro log log' h ⟨hash, hhash, hsigned, heq⟩
  exact ⟨hash, hhash, h.subset hsigned, heq⟩

theorem lasting_sentFor (rawTx sent : JsString) : Lasting (self.SentFor · rawTx sent) := by
  intro log log' hlog h
  cases h with
  | forwarded h => exact .forwarded h
  | sponsored hrequests happroves hhash hsigned hhex =>
    exact .sponsored hrequests happroves hhash (hlog.subset hsigned) hhex

/-- A reason for a failure stays one. -/
theorem lasting_fails (rawTx : JsString) (e : Failure) : Lasting (self.Fails · rawTx e) := by
  intro log log' hlog h
  cases h with
  | undecodable h => exact .undecodable h
  | noIntent hdecode hsponsor h => exact .noIntent hdecode hsponsor h
  | refused hrequests h => exact .refused hrequests h
  | balanceUnknown hrequests happroves h =>
    exact .balanceUnknown hrequests happroves (lasting_balanceRead _ _ _ hlog h)
  | balanceLow hrequests happroves hread h =>
    exact .balanceLow hrequests happroves (lasting_balanceRead _ _ _ hlog hread) h
  | noHash hrequests happroves hbalance h =>
    exact .noHash hrequests happroves (lasting_balanceReported _ _ hlog hbalance) h
  | notEncoded hrequests happroves hhash hsigned h =>
    exact .notEncoded hrequests happroves hhash (hlog.subset hsigned) h
  | notTaken hsent h =>
    exact .notTaken (lasting_sentFor _ _ _ _ hlog hsent) (lasting_settled _ _ _ _ _ hlog h)

/-- The reason of an error stays its reason. -/
theorem lasting_errorOf (body id : Option Json) (code : ℤ) (message : String) :
    Lasting (self.ErrorOf · body id code message) := by
  intro log log' hlog h
  cases h with
  | invalid h => exact .invalid h
  | undelivered hraw h hreply => exact .undelivered hraw (lasting_fails _ _ _ _ hlog h) hreply
  | disconnected hpasses hproxied hresponded h =>
    exact .disconnected hpasses (hlog.subset hproxied) (hlog.subset hresponded) h

theorem lasting_connectedIs (connected : Bool) : Lasting (self.ConnectedIs · connected) := by
  rintro log log' h ⟨received, hsettled, hconnected⟩
  exact ⟨received, lasting_settled _ _ _ _ _ h hsettled, hconnected⟩

/-- What stands behind an answer stays there. -/
theorem lasting_answered (request : Request) (answer : Answer) :
    Lasting fun log => self.Answered log request answer := by
  intro log log' hlog h
  match request, answer, h with
  | .jsonRpc body, .jsonRpc (.ok id result), h =>
    obtain ⟨asked, rawTx, hbody, hid, hraw, sent, hsent, hresponded⟩ := h
    exact ⟨asked, rawTx, hbody, hid, hraw, sent, lasting_sentFor _ _ _ _ hlog hsent,
      lasting_settled _ _ _ _ _ hlog hresponded⟩
  | .jsonRpc body, .jsonRpc (.error id code message), h =>
    exact lasting_errorOf _ _ _ _ _ _ hlog h
  | .jsonRpc body, .jsonRpc (.proxied value), h =>
    obtain ⟨asked, response, hbody, hpasses, hproxied, hresponded, hvalue⟩ := h
    exact ⟨asked, response, hbody, hpasses, hlog.subset hproxied, hlog.subset hresponded, hvalue⟩
  | .health, .health health, h =>
    obtain ⟨⟨balance, hread, heq⟩, hconnected, hstatus, hhttp⟩ := h
    exact ⟨⟨balance, lasting_balanceRead _ _ _ hlog hread, heq⟩,
      lasting_connectedIs _ _ _ hlog hconnected, hstatus, hhttp⟩
  | .policy, .policy _, h => exact h

end Lasting

/-- How a program ends: with a value or a failure, and what the log then has. -/
def Outcome {α : Type} (ok : α → List Event → Prop) (fails : Failure → List Event → Prop) :
    Except Failure α → World → Prop
  | .ok a, w => ok a w.log
  | .error e, w => fails e w.log

/-- The program, started when `p` holds of the log, justifies its steps and ends so, whatever the
other requests do. -/
def Meets {α : Type} (p : List Event → Prop) (x : ServiceM α) (ok : α → List Event → Prop)
    (fails : Failure → List Event → Prop) : Prop :=
  (self.machine.among fun _ : {request // asked request} => self.Guar asked).Triple
    (self.Inv asked) (self.Guar asked)
    (fun w => p w.log) x (Outcome ok fails)

variable {self asked}

/-- What lasts is stable under the events of other requests. -/
theorem stable_of_lasting {p : List Event → Prop} (hp : Lasting p) :
    (self.machine.among fun _ : {request // asked request} => self.Guar asked).Stable
      fun w => p w.log := by
  rintro w w' (h | ⟨-, ⟨e, hlog, -⟩, -⟩) hw
  · exact h.elim
  · exact hp _ _ ⟨[e], hlog.symm⟩ hw

/-- A step that is justified keeps the log justified. -/
theorem Justified.append {log : List Event} (h : self.Justified asked log) {e : Event}
    (he : self.Allowed asked log e) : self.Justified asked (log ++ [e]) := by
  intro before e' hprefix
  rcases List.prefix_concat_iff.mp hprefix with heq | hprefix
  · obtain ⟨rfl, hlast⟩ := List.append_inj' heq rfl
    obtain rfl := List.head_eq_of_cons_eq hlast
    exact he
  · exact h before e' hprefix

/-- A new call has a number that no other one has. -/
theorem numbered_step {w : World} (h : w.Numbered) {o : Op} {a : Op.Res o}
    (ha : self.Results w o a) :
    World.Numbered { nextId := o.nextId w.nextId, log := w.log ++ [o.event a] } := by
  -- a step that makes no call changes neither the counter nor the numbers in the log
  have hsame : callIds [o.event a] = [] → o.nextId w.nextId = w.nextId →
      World.Numbered { nextId := o.nextId w.nextId, log := w.log ++ [o.event a] } := by
    intro hevent hid
    have hids : callIds (w.log ++ [o.event a]) = callIds w.log := by
      rw [callIds, List.filterMap_append, ← callIds, ← callIds, hevent, List.append_nil]
    constructor
    · rw [hids, hid]
      exact h.lt
    · rw [hids]
      exact h.nodup
  cases o with
  | call method params =>
    obtain rfl : a = w.nextId := ha
    have hids : callIds (w.log ++ [.called w.nextId method params]) =
        callIds w.log ++ [w.nextId] := by
      rw [callIds, List.filterMap_append]
      rfl
    constructor
    · intro id hid
      change id ∈ callIds (w.log ++ [.called w.nextId method params]) at hid
      show id < w.nextId + 1
      rw [hids, List.mem_append, List.mem_singleton] at hid
      rcases hid with hid | rfl
      · exact Nat.lt_succ_of_lt (h.lt id hid)
      · exact Nat.lt_succ_self _
    · show (callIds (w.log ++ [.called w.nextId method params])).Nodup
      rw [hids, List.nodup_append_comm]
      exact List.nodup_cons.mpr ⟨fun hmem => lt_irrefl _ (h.lt _ hmem), h.nodup⟩
  | proxy body => exact hsame rfl rfl
  | response id => exact hsame rfl rfl
  | sign hash => exact hsame rfl rfl

section Rules

variable {α β : Type} {p : List Event → Prop} {ok : α → List Event → Prop}
  {fails r : Failure → List Event → Prop}

theorem meets_pure {a : α} (h : ∀ log, p log → ok a log) :
    self.Meets asked p (pure a) ok fails :=
  Machine.triple_return fun w _ hw => h w.log hw

theorem meets_throw {e : Failure} (h : ∀ log, p log → fails e log) :
    self.Meets asked p (throw e) ok fails :=
  Machine.triple_throw fun w _ hw => h w.log hw

/-- The second part begins where the first has ended. -/
theorem meets_seq {x : ServiceM β} {f : β → ServiceM α} {q : β → List Event → Prop}
    (hx : self.Meets asked p x q fails) (hf : ∀ b, self.Meets asked (q b) (f b) ok fails) :
    self.Meets asked p (x >>= f) ok fails :=
  Machine.triple_seq hx (fun _ _ _ h => h) hf

/-- A failure that is caught goes to its handler, with what the log then has. -/
theorem meets_catch {x : ServiceM α} {handle : Failure → ServiceM α}
    (hx : self.Meets asked p x ok r)
    (hhandle : ∀ e, self.Meets asked (r e) (handle e) ok fails) :
    self.Meets asked p (tryCatch x handle) ok fails :=
  Machine.triple_catch hx (fun _ _ _ h => h) hhandle

theorem Meets.imp {x : ServiceM α} {q : α → List Event → Prop}
    (h : self.Meets asked p x q r) (hok : ∀ a log, q a log → ok a log)
    (hfails : ∀ e log, r e log → fails e log) : self.Meets asked p x ok fails :=
  h.imp_post fun
    | .ok a, w => hok a w.log
    | .error e, w => hfails e w.log

theorem Meets.of_imp {x : ServiceM α} {p' : List Event → Prop}
    (h : self.Meets asked p x ok fails) (hp : ∀ log, p' log → p log) :
    self.Meets asked p' x ok fails :=
  Machine.Triple.of_imp h fun w _ hw => hp w.log hw

/-- A computation goes on with what is known of its value. -/
theorem meets_liftExcept {x : Except Failure β} {f : β → ServiceM α}
    (herror : ∀ e, x = .error e → ∀ log, p log → fails e log)
    (hok : ∀ b, x = .ok b → self.Meets asked p (f b) ok fails) :
    self.Meets asked p (liftExcept x >>= f) ok fails := by
  cases x with
  | ok b => exact hok b rfl
  | error e => exact meets_throw (herror e rfl)

/-- A call into a library either fails with its message or goes on with its value. -/
theorem meets_fromLibrary {x : Except String β} {f : β → ServiceM α}
    (herror : ∀ message, x = .error message → ∀ log, p log → fails (.other message) log)
    (hok : ∀ b, x = .ok b → self.Meets asked p (f b) ok fails) :
    self.Meets asked p (fromLibrary x >>= f) ok fails := by
  cases x with
  | ok b => exact hok b rfl
  | error message => exact meets_throw (herror message rfl)

/-- A computation at the end of a program gives its value or its failure. -/
theorem meets_liftExcept_end {x : Except Failure α}
    (herror : ∀ e, x = .error e → ∀ log, p log → fails e log)
    (hok : ∀ a, x = .ok a → ∀ log, p log → ok a log) :
    self.Meets asked p (liftExcept x) ok fails := by
  cases x with
  | ok a => exact meets_pure (hok a rfl)
  | error e => exact meets_throw (herror e rfl)

theorem meets_map {x : ServiceM β} {f : β → α} {q : β → List Event → Prop}
    (hx : self.Meets asked p x q fails) (hf : ∀ b log, q b log → ok (f b) log) :
    self.Meets asked p (f <$> x) ok fails :=
  Machine.triple_bind hx fun
    | .ok b => fun w _ hw => hf b w.log hw
    | .error _ => fun _ _ hw => hw

/-- A step that is justified is in the log from then on, and has one of its results. -/
theorem meets_perform_results {o : Op} (hp : Lasting p)
    (hallowed : ∀ log a, p log → self.Allowed asked log (o.event a)) :
    self.Meets asked p (perform o)
      (fun a log => p log ∧ o.event a ∈ log ∧ ∃ w, self.Results w o a) fails := by
  refine Machine.triple_lift_op (stable_of_lasting hp) ?_
  rintro w r w' hinv hw ⟨a, rfl, ha, rfl⟩
  have hallow := hallowed w.log a hw
  refine ⟨⟨hinv.1.append hallow, numbered_step hinv.2 ha⟩,
    ⟨⟨o.event a, rfl, hallow⟩, fun h => numbered_step h ha⟩, fun b hb => ?_⟩
  obtain rfl := Except.ok.inj hb
  exact ⟨hp _ _ (List.prefix_append _ _) hw, List.mem_append_right _ List.mem_cons_self, w, ha⟩

/-- An operation that is allowed whenever it is made is in the log behind it. -/
theorem meets_perform {o : Op} (hp : Lasting p)
    (hallowed : ∀ log a, p log → self.Allowed asked log (o.event a)) :
    self.Meets asked p (perform o) (fun a log => p log ∧ o.event a ∈ log) fails :=
  Meets.imp (r := fails) (meets_perform_results hp hallowed) (fun _ _ h => ⟨h.1, h.2.1⟩)
    fun _ _ h => h

end Rules

/-! ## The programs -/

section Programs

variable {p : List Event → Prop} {fails : Failure → List Event → Prop}

/-- A call is settled with what the service has received for it. -/
theorem meets_call {method : String} {params : List Json} (hp : Lasting p)
    (hallowed : ∀ log id, p log → self.Allowed asked log (.called id method params)) :
    self.Meets asked p (self.call method params)
      (fun result log => p log ∧ self.Responded log method params result)
      fun e log => p log ∧ self.Settled log method params (.error e) := by
  refine meets_seq (meets_perform hp hallowed) fun id => ?_
  refine meets_seq (meets_perform (hp.and (lasting_mem _)) fun log response h =>
    .responded response h.2) fun response => ?_
  exact meets_liftExcept_end
    (fun e he log h => ⟨h.1.1, id, response, h.1.2, h.2, he⟩)
    fun result hresult log h => ⟨h.1.1, id, response, h.1.2, h.2, hresult⟩

/-- The balance is read in what the node has responded. -/
theorem meets_getBalance (hp : Lasting p) (hneeds : self.NeedsBalance asked) :
    self.Meets asked p (self.getBalance self.sponsorAddress)
      (fun balance log => p log ∧ self.BalanceRead log (.ok balance))
      fun e log => p log ∧ self.BalanceRead log (.error e) := by
  refine meets_seq ((meets_call hp fun _ id _ => .balance id hneeds).imp (fun _ _ h => h)
    fun e log h => ⟨h.1, _, h.2, rfl⟩) fun result => ?_
  refine meets_liftExcept_end (fun e he log h => ⟨h.1, _, h.2, he⟩)
    fun balance hbalance log h => ⟨h.1, _, h.2, hbalance⟩

/-- The connection is checked for a request of the health route. -/
theorem meets_isConnected (hasked : asked .health) (hp : Lasting p) :
    self.Meets asked p self.isConnected
      (fun connected log => p log ∧ self.ConnectedIs log connected) fails := by
  refine meets_catch (r := fun e log => p log ∧ self.Settled log "net_version" [] (.error e)) ?_
    fun e => meets_pure fun log h => ⟨h.1, _, h.2, ?_⟩
  · refine meets_seq (meets_call hp fun _ id _ => .version id hasked) fun result =>
      meets_pure fun log h => ⟨h.1, _, h.2, ?_⟩
    rw [Option.any_eq_true]
    exact ⟨fun ⟨r, hr, htruthy⟩ => ⟨r, congrArg Except.ok hr, htruthy⟩,
      fun ⟨r, hr, htruthy⟩ => ⟨r, Except.ok.inj hr, htruthy⟩⟩
  · exact iff_of_false Bool.false_ne_true fun ⟨_, h, _⟩ => by cases h

/-- A transaction is sent for a request that asked for it. -/
theorem meets_sendRawTransaction {sent rawTx : JsString} (hasked : self.Asked asked rawTx)
    (hp : Lasting p) (hsent : ∀ log, p log → self.SentFor log rawTx sent) :
    self.Meets asked p (self.sendRawTransaction sent)
      (fun result log => self.Delivered log rawTx result) fun e log => self.Fails log rawTx e :=
  (meets_call hp fun log id hlog => .sent id hasked (hsent log hlog)).imp
    (fun _ log h => ⟨sent, hsent log h.1, h.2⟩) fun _ log h => .notTaken (hsent log h.1) h.2

/-- An intent is sponsored if the policy approves of it and the balance suffices, and its
transaction is sent with the signature. -/
theorem meets_sponsorIntent {rawTx : JsString} {intent : SponsorableIntent}
    (hasked : self.Asked asked rawTx) (hrequests : self.Requests rawTx intent) :
    self.Meets asked (fun _ => True) (self.sponsorIntent intent)
      (fun result log => self.Delivered log rawTx result.txHash)
      fun e log => self.Fails log rawTx e := by
  -- the policy comes first, the balance is asked for behind it only
  refine meets_liftExcept (fun e he _ _ => .refused hrequests he) fun _ happroved => ?_
  have happroves := validate_eq_ok_iff.mp happroved
  refine meets_seq ((meets_getBalance lasting_true (.inr ⟨rawTx, intent, hasked, hrequests,
    happroves⟩)).imp (fun _ _ h => h.2) fun _ _ h => .balanceUnknown hrequests happroves h.2)
    fun balance => ?_
  split_ifs with hbalance
  · exact meets_throw fun log hread => .balanceLow hrequests happroves hread hbalance
  · -- the balance that has been reported justifies the signature
    refine Meets.of_imp (p := self.BalanceReported) ?_ fun log h =>
      ⟨balance, h, not_lt.mp hbalance⟩
    refine meets_seq (q := fun signature log => ∃ hash, self.SigningHash intent hash ∧
      .signed hash ∈ log ∧ signature = self.signHash hash) ?_ fun signature => ?_
    · refine meets_fromLibrary (fun _ he log h => .noHash hrequests happroves h he)
        fun hash hhash => ?_
      -- the service signs itself: the step cannot fail, and the signature is that of the hash
      refine Meets.imp (r := fun e log => self.Fails log rawTx e) (meets_perform_results
        lasting_balanceReported fun _ _ h => .signed hasked hrequests happroves hhash h) ?_
        fun _ _ h => h
      rintro signature log ⟨-, hsigned, w, hresult⟩
      exact ⟨hash, hhash, hsigned, hresult⟩
    · refine meets_fromLibrary (fun message he log h => ?_) fun hex hhex => ?_
      · obtain ⟨hash, hhash, hsigned, rfl⟩ := h
        exact .notEncoded hrequests happroves hhash hsigned he
      · refine meets_seq (meets_sendRawTransaction hasked (lasting_signed intent signature)
          fun log h => ?_) fun txHash => meets_pure fun _ h => h
        obtain ⟨hash, hhash, hsigned, rfl⟩ := h
        exact .sponsored hrequests happroves hhash hsigned hhex

/-- A transaction is delivered, or there is a reason why it is not. -/
theorem meets_handleEvNodeSendRaw {rawTx : JsString} (hasked : self.Asked asked rawTx) :
    self.Meets asked (fun _ => True) (self.handleEvNodeSendRaw rawTx)
      (fun result log => self.Delivered log rawTx result)
      fun e log => self.Fails log rawTx e := by
  refine meets_fromLibrary (fun _ he _ _ => .undecodable he) fun signedTx hdecode => ?_
  cases hsponsor : signedTx.transaction.feePayerSignature with
  | some signature =>
    have hforwarded : self.HasSponsor rawTx := ⟨signedTx, hdecode, by rw [hsponsor]; rfl⟩
    exact meets_sendRawTransaction hasked lasting_true fun _ _ => .forwarded hforwarded
  | none =>
    refine meets_fromLibrary (fun _ he _ _ => .noIntent hdecode hsponsor he)
      fun intent hintent => ?_
    have hrequests : self.Requests rawTx intent := ⟨signedTx, hdecode, hsponsor, hintent⟩
    exact meets_seq (meets_sponsorIntent hasked hrequests) fun result => meets_pure fun _ h => h

/-- What is passed on comes back as the node has responded, or the node is not there. -/
theorem meets_proxyRoute {request : Json} (hasked : asked (.jsonRpc (some request)))
    (hpasses : self.PassesOn request) :
    self.Meets asked (fun _ => True) (proxyRoute request)
      (fun reply log => self.Accounted log (some request) reply) fails := by
  refine meets_catch (r := fun e log => ∃ response, .proxied request ∈ log ∧
    .responded none response ∈ log ∧ proxied response = .error e) ?_ fun e =>
      meets_pure fun log h => ?_
  · refine meets_seq (q := fun value log => ∃ response, .proxied request ∈ log ∧
      .responded none response ∈ log ∧ proxied response = .ok value) ?_ fun value =>
        meets_pure fun log h => ?_
    · refine meets_seq (meets_perform lasting_true fun _ _ _ => .proxied hasked hpasses) fun _ => ?_
      refine meets_seq (meets_perform (lasting_true.and (lasting_mem _)) fun _ response h =>
        .passedBack response h.2) fun response => ?_
      exact meets_liftExcept_end (fun e he log h => ⟨response, h.1.2, h.2, he⟩)
        fun value hvalue log h => ⟨response, h.1.2, h.2, hvalue⟩
    · obtain ⟨response, h⟩ := h
      exact ⟨request, response, rfl, hpasses, h⟩
  · obtain ⟨response, hproxied, hresponded, he⟩ := h
    exact .disconnected hpasses hproxied hresponded he

/-- Only strings pass the test. -/
theorem eq_string_of_isEvNodeTx {param : Json} (h : self.isEvNodeTx param = .ok true) :
    ∃ rawTx, param = .string rawTx := by
  cases param with
  | string rawTx => exact ⟨rawTx, rfl⟩
  | array items =>
    rw [isEvNodeTx, Except.ite_error_eq_ok_iff] at h
    cases h.2
  | object fields =>
    rw [isEvNodeTx, Except.ite_error_eq_ok_iff] at h
    cases h.2
  | null => cases h
  | bool b => cases h
  | number literal => cases h

/-- The route of JSON-RPC accounts for what it replies. -/
theorem meets_jsonRpcRoute {body : Option Json} (hasked : asked (.jsonRpc body)) :
    self.Meets asked (fun _ => True) (self.jsonRpcRoute body)
      (fun reply log => self.Accounted log body reply) fun e _ => self.Throws body e := by
  have hinvalid : ¬ IsRequest body → self.Meets asked (fun _ => True)
      (pure (.error none (-32600) "Invalid Request"))
      (fun reply log => self.Accounted log body reply) fun e _ => self.Throws body e :=
    fun hbody => meets_pure fun _ _ => .invalid hbody
  -- what the body is decides the route; only an object can have a transaction
  match body with
  | none => exact hinvalid (by simp [IsRequest])
  | some .null => exact hinvalid (by simp [IsRequest])
  | some (.bool b) => exact hinvalid (by simp [IsRequest])
  | some (.number literal) => exact hinvalid (by simp [IsRequest])
  | some (.string s) => exact hinvalid (by simp [IsRequest])
  | some (.array items) => exact meets_proxyRoute hasked (.inl ⟨items, rfl⟩)
  | some (.object fields) =>
    rw [jsonRpcRoute]
    cases hraw : self.rawParam (.object fields) with
    | none =>
      exact meets_proxyRoute hasked
        (.inr ⟨⟨fields, rfl⟩, fun rawTx h => by rw [hraw] at h; cases h⟩)
    | some param =>
      dsimp only
      -- the test of the parameter throws outside of the handler that makes errors into replies
      refine meets_fromLibrary
        (fun message htest _ _ => ⟨_, param, message, rfl, hraw, htest, rfl⟩)
        fun isEvNode htest => ?_
      cases isEvNode with
      | false =>
        refine meets_proxyRoute hasked (.inr ⟨⟨fields, rfl⟩, fun param' hparam' => ?_⟩)
        obtain rfl := Option.some.inj (hraw.symm.trans hparam')
        exact htest
      | true =>
        obtain ⟨rawTx, rfl⟩ := eq_string_of_isEvNodeTx htest
        refine meets_catch (r := fun e log => self.Fails log rawTx e) ?_ fun e =>
          meets_pure fun log h => ?_
        · refine meets_seq (meets_handleEvNodeSendRaw ⟨_, hasked, hraw⟩) fun result => ?_
          exact meets_pure fun log h => ⟨_, rawTx, rfl, rfl, hraw, h⟩
        · cases e with
          | other message => exact .undelivered hraw h rfl
          | sponsor s => exact .undelivered hraw h rfl

/-- The health route reports what the node has responded. -/
theorem meets_healthRoute (hasked : asked .health) :
    self.Meets asked (fun _ => True) self.healthRoute (fun health log => self.Observed log health)
      fails := by
  refine meets_seq (q := fun sponsorBalance log => ∃ balance, self.BalanceRead log balance ∧
    sponsorBalance = balance.toOption) ?_ fun sponsorBalance => ?_
  · refine meets_catch (r := fun e log => self.BalanceRead log (.error e)) ?_ fun e =>
      meets_pure fun log h => ⟨_, h, rfl⟩
    exact meets_map ((meets_getBalance lasting_true (.inl hasked)).imp (fun _ _ h => h.2)
      fun _ _ h => h.2) fun balance log h => ⟨_, h, rfl⟩
  · have hlasting : Lasting fun log => ∃ balance, self.BalanceRead log balance ∧
        sponsorBalance = balance.toOption := fun log log' h ⟨balance, hread, heq⟩ =>
      ⟨balance, lasting_balanceRead _ _ _ h hread, heq⟩
    refine meets_seq (meets_isConnected hasked hlasting) fun connected =>
      meets_pure fun log h => ⟨h.1, h.2, ?_, rfl⟩
    cases connected <;> cases sponsorBalance <;> rfl

/-- Every request accounts for its answer. -/
theorem meets_serve (request : Request) (hasked : asked request) :
    self.Meets asked (fun _ => True) (self.serve request)
      (fun answer log => self.Answered log request answer) fun e _ => self.Thrown request e := by
  cases request with
  | jsonRpc body => exact meets_map (meets_jsonRpcRoute hasked) fun _ _ h => h
  | health => exact meets_map (meets_healthRoute hasked) fun _ _ h => h
  | policy => exact meets_pure fun _ _ => rfl

end Programs

/-! ## Errors -/

/-- A failure of the node has the code of one. -/
theorem statusCode_of_received {response : Response} {e : SponsorError}
    (h : self.received response = .error (.sponsor e)) : e.statusCode = 502 := by
  cases response with
  | unreachable message => cases h
  | notJson status message => cases h
  | json data =>
    change self.result data = .error (.sponsor e) at h
    unfold result at h
    split at h
    next => cases h
    next =>
      split at h
      next error _ =>
        by_cases herror : self.js.truthy error = true
        · rw [if_pos herror] at h
          rw [← Failure.sponsor.inj (Except.error.inj h)]
          rfl
        · rw [if_neg herror] at h
          cases h
      next => cases h

/-- What the service throws itself for a transaction is a refusal of the policy, or has the code of
a failure of the node or of its own. -/
theorem Fails.cases_sponsor {log : List Event} {rawTx : JsString} {e : SponsorError}
    (h : self.Fails log rawTx (.sponsor e)) :
    self.Refused rawTx e ∨ e.statusCode = 502 ∨ e.statusCode = 503 := by
  cases h with
  | refused hrequests h => exact .inl ⟨_, hrequests, h⟩
  | balanceUnknown hrequests happroves h =>
    obtain ⟨received, ⟨id, response, -, -, rfl⟩, hbalance⟩ := h
    cases hreceived : self.received response with
    | ok result =>
      rw [hreceived] at hbalance
      obtain ⟨message, -, hmessage⟩ := Except.mapError_eq_error_iff.mp hbalance
      cases hmessage
    | error e' =>
      rw [hreceived] at hbalance
      obtain rfl := Except.error.inj hbalance
      exact .inr (.inl (statusCode_of_received hreceived))
  | balanceLow => exact .inr (.inr rfl)
  | notTaken hsent h =>
    obtain ⟨id, response, -, -, hreceived⟩ := h
    exact .inr (.inl (statusCode_of_received hreceived))

/-- The code for invalid parameters is given for transactions that the policy has refused, with its
message, and for nothing else. -/
theorem refused_of_errorOf {log : List Event} {body id : Option Json} {message : String}
    (h : self.ErrorOf log body id (-32602) message) :
    ∃ request rawTx e, body = some request ∧ self.rawParam request = some (.string rawTx) ∧
      self.Refused rawTx e ∧ message = e.message := by
  cases h with
  | @undelivered request rawTx e _ _ _ hraw h hreply =>
    cases e with
    | other other => cases hreply
    | sponsor e =>
      obtain ⟨-, hcode, rfl⟩ := Reply.error.inj hreply
      rcases h.cases_sponsor with hrefused | hstatus
      · exact ⟨request, rawTx, e, rfl, hraw, hrefused, rfl⟩
      · rw [sponsorErrorToRpcCode] at hcode
        rcases hstatus with hstatus | hstatus
        · rw [hstatus] at hcode
          exact absurd hcode (by decide)
        · rw [hstatus] at hcode
          exact absurd hcode (by decide)

/-! ## All interleavings -/

/-- In the beginning nothing has been done. -/
theorem inv_initial : self.Inv asked {} := by
  refine ⟨fun before e h => ?_, fun id hid => absurd hid List.not_mem_nil, List.nodup_nil⟩
  have hlen := h.length_le
  rw [List.length_append] at hlen
  cases hlen

variable (self asked) in
/-- The programs keep what they guarantee. -/
theorem sound_serveAsked :
    (self.machine.among fun _ : {request // asked request} => self.Guar asked).Sound
      (self.serveAsked asked) (self.Inv asked) (fun _ => self.Guar asked)
      (fun request => Outcome (fun answer log => self.Answered log request.val answer)
        fun e _ => self.Thrown request.val e) where
  env w w' hinv h := by
    rcases h with h | ⟨-, ⟨e, hlog, hallowed⟩, hnumbered⟩
    · exact h.elim
    · rw [Inv, hlog]
      exact ⟨hinv.1.append hallowed, hnumbered hinv.2⟩
  triple request := meets_serve request.val request.property
  stable request outcome := by
    cases outcome with
    | ok answer => exact stable_of_lasting (lasting_answered request.val answer)
    | error e => exact fun _ _ _ h => h

/-- In every interleaving of any number of requests, with any responses of the node, what the
service has done is justified by a request that is asked and by what came before, no two of its
calls have one number, and its answers are accounted for, errors and reports of health included. -/
theorem requests_justified {c : ServicePool asked}
    (h : self.machine.PoolReaches (self.serveAsked asked) ⟨{}, fun _ => none⟩ c) :
    self.Justified asked c.world.log ∧ (callIds c.world.log).Nodup ∧
      (∀ n request answer, c.running n = some (request, .done (.ok answer)) →
        self.Answered c.world.log request.val answer) ∧
      ∀ n request e, c.running n = some (request, .done (.error e)) →
        self.Thrown request.val e := by
  have hsafe := (sound_serveAsked self asked).safe_of_poolReaches
    (Machine.poolSafe_of_none inv_initial) h
  exact ⟨hsafe.1.1, hsafe.1.2.nodup, fun n request answer hdone => hsafe.post hdone,
    fun n request e hdone => hsafe.post hdone⟩

end SponsorService

end EvReth.Sponsor
