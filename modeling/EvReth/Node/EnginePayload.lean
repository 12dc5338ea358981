import EvReth.Node.PayloadService

/-!
# Blocks over the Engine API

An execution payload is a block on its way through the Engine API, in one of four versions: its
transactions are byte strings, its hash is stated and not computed, and what a block has outside of
the payload travels in a sidecar. The types are alloy's; accessors that a version cannot answer
return nothing.
-/

namespace EvReth

/-! ## Payloads -/

/-- `ExecutionPayloadV1`. -/
structure ExecutionPayloadV1 where
  parentHash : B256
  feeRecipient : Address
  stateRoot : B256
  receiptsRoot : B256
  logsBloom : Bytes
  prevRandao : B256
  blockNumber : U64
  gasLimit : U64
  gasUsed : U64
  timestamp : U64
  extraData : Bytes
  baseFeePerGas : U256
  blockHash : B256
  transactions : List Bytes
  deriving DecidableEq, Repr

/-- `ExecutionPayloadV2`, of Shanghai. -/
structure ExecutionPayloadV2 where
  payloadInner : ExecutionPayloadV1
  withdrawals : List Withdrawal
  deriving DecidableEq, Repr

/-- `ExecutionPayloadV3`, of Cancun. -/
structure ExecutionPayloadV3 where
  payloadInner : ExecutionPayloadV2
  blobGasUsed : U64
  excessBlobGas : U64
  deriving DecidableEq, Repr

/-- `ExecutionPayloadV4`, of Amsterdam. -/
structure ExecutionPayloadV4 where
  payloadInner : ExecutionPayloadV3
  blockAccessList : Bytes
  slotNumber : U64
  deriving DecidableEq, Repr

/-- alloy's `ExecutionPayload`. -/
inductive EnginePayload where
  | v1 (payload : ExecutionPayloadV1)
  | v2 (payload : ExecutionPayloadV2)
  | v3 (payload : ExecutionPayloadV3)
  | v4 (payload : ExecutionPayloadV4)
  deriving DecidableEq, Repr

namespace EnginePayload

/-- `as_v1`. -/
def asV1 : EnginePayload → ExecutionPayloadV1
  | .v1 payload => payload
  | .v2 payload => payload.payloadInner
  | .v3 payload => payload.payloadInner.payloadInner
  | .v4 payload => payload.payloadInner.payloadInner.payloadInner

/-- `withdrawals`. -/
def withdrawals : EnginePayload → Option (List Withdrawal)
  | .v1 _ => none
  | .v2 payload => some payload.withdrawals
  | .v3 payload => some payload.payloadInner.withdrawals
  | .v4 payload => some payload.payloadInner.payloadInner.withdrawals

/-- `blob_gas_used`. -/
def blobGasUsed : EnginePayload → Option U64
  | .v1 _ | .v2 _ => none
  | .v3 payload => some payload.blobGasUsed
  | .v4 payload => some payload.payloadInner.blobGasUsed

/-- `excess_blob_gas`. -/
def excessBlobGas : EnginePayload → Option U64
  | .v1 _ | .v2 _ => none
  | .v3 payload => some payload.excessBlobGas
  | .v4 payload => some payload.payloadInner.excessBlobGas

/-- `block_access_list`. -/
def blockAccessList : EnginePayload → Option Bytes
  | .v1 _ | .v2 _ | .v3 _ => none
  | .v4 payload => some payload.blockAccessList

/-- `slot_number`. -/
def slotNumber : EnginePayload → Option U64
  | .v1 _ | .v2 _ | .v3 _ => none
  | .v4 payload => some payload.slotNumber

/-- `bal_hash`. -/
def balHash (self : EnginePayload) (keccak256 : Bytes → B256) : Option B256 :=
  self.blockAccessList.map keccak256

/-- `transactions`. -/
def transactions (self : EnginePayload) : List Bytes := self.asV1.transactions

/-- `block_hash`: the hash that the payload states. -/
def blockHash (self : EnginePayload) : B256 := self.asV1.blockHash

/-- `saturated_base_fee_per_gas`. -/
def saturatedBaseFeePerGas (self : EnginePayload) : U64 :=
  saturatingToU64 self.asV1.baseFeePerGas

/-- The payload with another version `1` inside. -/
def mapV1 (f : ExecutionPayloadV1 → ExecutionPayloadV1) : EnginePayload → EnginePayload
  | .v1 payload => .v1 (f payload)
  | .v2 payload => .v2 { payload with payloadInner := f payload.payloadInner }
  | .v3 payload => .v3
    { payload with
      payloadInner :=
        { payload.payloadInner with payloadInner := f payload.payloadInner.payloadInner } }
  | .v4 payload => .v4
    { payload with
      payloadInner :=
        { payload.payloadInner with
          payloadInner :=
            { payload.payloadInner.payloadInner with
              payloadInner := f payload.payloadInner.payloadInner.payloadInner } } }

@[simp]
theorem asV1_mapV1 (self : EnginePayload) (f : ExecutionPayloadV1 → ExecutionPayloadV1) :
    (self.mapV1 f).asV1 = f self.asV1 := by
  cases self <;> rfl

end EnginePayload

/-! ## Sidecars -/

/-- `RequestsOrHash`. -/
inductive RequestsOrHash where
  | requests (requests : List Bytes)
  | hash (hash : B256)
  deriving DecidableEq, Repr

/-- `CancunPayloadFields`. -/
structure CancunPayloadFields where
  parentBeaconBlockRoot : B256
  versionedHashes : List B256
  deriving DecidableEq, Repr

/-- `PraguePayloadFields`. -/
structure PraguePayloadFields where
  requests : RequestsOrHash
  deriving DecidableEq, Repr

/-- `ExecutionPayloadSidecar`. -/
structure ExecutionPayloadSidecar where
  cancun : Option CancunPayloadFields := none
  prague : Option PraguePayloadFields := none
  deriving DecidableEq, Repr

/-- `parent_beacon_block_root`. -/
def ExecutionPayloadSidecar.parentBeaconBlockRoot (self : ExecutionPayloadSidecar) : Option B256 :=
  self.cancun.map (·.parentBeaconBlockRoot)

/-- `requests_hash`, given the hash of a list of requests. -/
def ExecutionPayloadSidecar.requestsHash (self : ExecutionPayloadSidecar)
    (hashRequests : List Bytes → B256) : Option B256 :=
  self.prague.map fun fields =>
    match fields.requests with
    | .requests requests => hashRequests requests
    | .hash hash => hash

/-- `ExecutionData`. -/
structure ExecutionData where
  payload : EnginePayload
  sidecar : ExecutionPayloadSidecar
  deriving DecidableEq, Repr

end EvReth
