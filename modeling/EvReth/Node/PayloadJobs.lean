import EvReth.Foundations.Run
import EvReth.Node.PayloadService

/-!
# Payload ids

A forkchoice update with attributes starts a payload job, and the payload is fetched later by the id
that the update was answered with. The id of `EvolveEnginePayloadAttributes`
(`crates/node/src/attributes.rs`) is that of the standard attributes within them: the transactions
and the gas limit, of which the block depends as much, do not enter it.
-/

namespace EvReth

/-- A forkchoice update with payload attributes. -/
structure ForkchoiceCall where
  parentHeader : Header
  parentHash : B256
  attributes : EvolveEnginePayloadAttributes
  deriving DecidableEq, Repr

section Ids

/- reth's hash of a parent and standard attributes. -/
variable (rethPayloadId : B256 → RpcPayloadAttributes → U64)

/-- `payload_id`. -/
def EvolveEnginePayloadAttributes.payloadId (self : EvolveEnginePayloadAttributes)
    (parentHash : B256) : U64 :=
  rethPayloadId parentHash self.inner

namespace ForkchoiceCall

/-- What the payload of a call is built from. -/
def config (self : ForkchoiceCall) : PayloadConfig :=
  { parentHeader := self.parentHeader
    parentHash := self.parentHash
    attributes := self.attributes
    payloadId := self.attributes.payloadId rethPayloadId self.parentHash }

/-- reth starts a job for the call unless there is one with its id, and answers with the id. -/
def newPayload (jobs : List PayloadConfig) (call : ForkchoiceCall) : U64 × List PayloadConfig :=
  let config := call.config rethPayloadId
  (config.payloadId,
    if jobs.any (·.payloadId == config.payloadId) then jobs else config :: jobs)

/-- The jobs after a run of calls. -/
def jobsAfter (calls : List ForkchoiceCall) : List PayloadConfig :=
  Run.finalState (newPayload rethPayloadId) [] calls

end ForkchoiceCall

end Ids

/-- The job with an id. -/
def findJob (jobs : List PayloadConfig) (id : U64) : Option PayloadConfig :=
  jobs.find? (·.payloadId == id)

namespace EvolveEnginePayloadBuilder

variable {Payload : TxType → Type}

/-- The service answers a request for an id with a payload, whatever gas limit it published last. -/
def Answers (self : EvolveEnginePayloadBuilder Payload) (client : Client)
    (jobs : List PayloadConfig) (id : U64) (payload : EvBuiltPayload Payload) : Prop :=
  ∃ config gasLimit gasLimit', findJob jobs id = some config ∧
    self.tryBuild client config gasLimit = .ok payload gasLimit'

variable {self : EvolveEnginePayloadBuilder Payload} {client : Client}
  {jobs : List PayloadConfig} {id : U64} {payload : EvBuiltPayload Payload}

/-- The payload that is fetched by an id has that id. -/
theorem Answers.id_eq (h : self.Answers client jobs id payload) : payload.id = id := by
  obtain ⟨config, gasLimit, gasLimit', hfind, hbuilt⟩ := h
  obtain ⟨-, -, rfl, -⟩ := buildFrom_eq_ok_iff.mp hbuilt
  rw [findJob] at hfind
  exact eq_of_beq (List.find?_some (p := fun job : PayloadConfig => job.payloadId == id) hfind)

end EvolveEnginePayloadBuilder

/-- Two requests on a parent are told apart: if they differ, so do their ids, and no payload is the
answer to both. -/
def EvolveEnginePayloadAttributes.ToldApart (rethPayloadId : B256 → RpcPayloadAttributes → U64)
    (parentHash : B256) (a b : EvolveEnginePayloadAttributes) : Prop :=
  a ≠ b →
    a.payloadId rethPayloadId parentHash ≠ b.payloadId rethPayloadId parentHash ∧
    ∀ (Payload : TxType → Type) (service : EvolveEnginePayloadBuilder Payload) (client : Client)
      (calls : List ForkchoiceCall) (payload : EvBuiltPayload Payload),
      ¬ (service.Answers client (ForkchoiceCall.jobsAfter rethPayloadId calls)
          (a.payloadId rethPayloadId parentHash) payload ∧
        service.Answers client (ForkchoiceCall.jobsAfter rethPayloadId calls)
          (b.payloadId rethPayloadId parentHash) payload)

namespace EvolveEnginePayloadAttributes

/-- Two requests on a parent are told apart exactly if they differ in a standard field, or not at
all. -/
theorem toldApart_iff {rethPayloadId : B256 → RpcPayloadAttributes → U64} {parentHash : B256}
    {a b : EvolveEnginePayloadAttributes}
    (hcollision : rethPayloadId parentHash a.inner = rethPayloadId parentHash b.inner →
      a.inner = b.inner) :
    ToldApart rethPayloadId parentHash a b ↔ a.inner ≠ b.inner ∨ a = b := by
  constructor
  · intro h
    by_cases heq : a = b
    · exact .inr heq
    -- equal standard fields give equal ids
    · exact .inl fun hinner => (h heq).1 (congrArg (rethPayloadId parentHash) hinner)
  · intro h hne
    have hids : a.payloadId rethPayloadId parentHash ≠ b.payloadId rethPayloadId parentHash :=
      fun hid => (h.resolve_right hne) (hcollision hid)
    refine ⟨hids, fun _ _ _ _ payload hboth => hids ?_⟩
    rw [← hboth.1.id_eq, ← hboth.2.id_eq]

open EvolveEnginePayloadBuilder (paymentService paymentConfig rawPayment)
open EvolvePayloadBuilder (paymentClient paymentParent)

/-- The first eight bytes of the SHA-256 hashes of `0xAA` and the standard attributes of
`paymentConfig`, with its timestamp and with the next one. -/
def paymentPayloadId (_parentHash : B256) (inner : RpcPayloadAttributes) : U64 :=
  if inner.timestamp = 1710338136 then 0x42fbb57c3765d47f else 0x97e1fe02fd7fcd0a

/-- An update that asks for raw transactions and a gas limit on `paymentParent`. -/
def paymentCall (raw : List Bytes) (gasLimit : Option U64) : ForkchoiceCall :=
  { parentHeader := paymentParent
    parentHash := 0xAA
    attributes := { (paymentConfig raw).attributes with gasLimit } }

/-- Requests one second apart are told apart. -/
theorem toldApart_of_timestamp :
    ToldApart paymentPayloadId 0xAA (paymentCall [] none).attributes
      { (paymentCall [] none).attributes with
        inner := { (paymentCall [] none).attributes.inner with timestamp := 1710338137 } } :=
  (toldApart_iff (by decide)).mpr (.inl (by decide))

/-- The number of transactions and the gas limit of the block that is built for a job. -/
def blockShape (job : Option PayloadConfig) : Option (ℕ × U64) :=
  match job.map fun config => paymentService.tryBuild paymentClient config 0 with
  | some (.ok payload _) =>
    some (payload.block.transactions.length, payload.block.header.gasLimit)
  | _ => none

/-- A request for an empty block and one for a payment under another gas limit have the same id. The
second is answered with the empty block of the first. -/
theorem not_toldApart :
    (paymentCall [] none).attributes ≠
        (paymentCall [rawPayment EvTxEnvelope.unitSignature] (some 30001000)).attributes ∧
      (paymentCall [] none).attributes.payloadId paymentPayloadId 0xAA =
        (paymentCall [rawPayment EvTxEnvelope.unitSignature] (some 30001000)).attributes.payloadId
          paymentPayloadId 0xAA ∧
      blockShape ((paymentCall [rawPayment EvTxEnvelope.unitSignature] (some 30001000)).config
        paymentPayloadId) = some (1, 30001000) ∧
      blockShape (findJob
        (ForkchoiceCall.jobsAfter paymentPayloadId [paymentCall [] none,
          paymentCall [rawPayment EvTxEnvelope.unitSignature] (some 30001000)])
        ((paymentCall [rawPayment EvTxEnvelope.unitSignature] (some 30001000)).attributes.payloadId
          paymentPayloadId 0xAA)) = some (0, 30000000) := by
  refine ⟨?_, rfl, ?_, ?_⟩
  · exact fun h => nomatch congrArg (·.gasLimit) h
  · decide +kernel
  · decide +kernel

end EvolveEnginePayloadAttributes

end EvReth
