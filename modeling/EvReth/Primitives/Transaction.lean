import EvReth.Primitives.Basic

/-!
# Transactions

The batch and sponsorship transaction of `crates/ev-primitives/src/tx.rs`: an EIP-1559 transaction
with a list of calls in place of one, and an optional signature of a sponsor who pays the fees. The
envelope holds such a transaction or a standard Ethereum one.
-/

namespace EvReth

/-- A single call of an EvNode transaction (`Call`, whose field `to` is `dest` here). -/
structure Call where
  dest : TxKind
  value : U256
  input : Bytes
  deriving DecidableEq, Repr

/-- An entry of an EIP-2930 access list. -/
structure AccessListItem where
  address : Address
  storageKeys : List B256
  deriving DecidableEq, Repr

/-- `AccessList`. -/
abbrev AccessList := List AccessListItem

/-- A secp256k1 signature with the parity of its nonce point. -/
structure Signature where
  r : U256
  s : U256
  yParity : Bool
  deriving DecidableEq, Repr

/-- `EVNODE_TX_TYPE_ID`. -/
def evnodeTxTypeId : UInt8 := 0x76

/-- `EVNODE_SPONSOR_DOMAIN`. -/
def evnodeSponsorDomain : UInt8 := 0x78

/-- `EvNodeTransaction`. -/
structure EvNodeTransaction where
  chainId : U64
  nonce : U64
  maxPriorityFeePerGas : U128
  maxFeePerGas : U128
  gasLimit : U64
  calls : List Call
  accessList : AccessList
  feePayerSignature : Option Signature
  deriving DecidableEq, Repr

/-- The saturating sum of the values of a list of calls. -/
def saturatingValueSum (calls : List Call) : U256 :=
  calls.foldl (fun acc call => acc.saturatingAdd call.value) 0

namespace EvNodeTransaction

variable (self : EvNodeTransaction)

/-- `first_call`. -/
def firstCall : Option Call := self.calls.head?

/-- `kind`. -/
def kind : TxKind := (self.firstCall.map (·.dest)).getD .create

/-- `value`. -/
def value : U256 := saturatingValueSum self.calls

/-- `input`. -/
def input : Bytes := (self.firstCall.map (·.input)).getD []

end EvNodeTransaction

/-! ## Envelopes -/

/-- The types of Ethereum transactions (`TxType`). -/
inductive TxType where
  | legacy
  | eip2930
  | eip1559
  | eip4844
  | eip7702
  deriving DecidableEq, Repr

/-- A signed Ethereum transaction. The payload of each type is left open. -/
structure EthereumTransaction (Payload : TxType → Type) where
  txType : TxType
  tx : Payload txType
  signature : Signature

/-- `EvTxEnvelope`. The hash of a signed transaction is derived from it and not a field. -/
inductive EvTxEnvelope (Payload : TxType → Type) where
  | ethereum (tx : EthereumTransaction Payload)
  | evNode (tx : EvNodeTransaction) (signature : Signature)

/-- `EvTxType`. -/
inductive EvTxType where
  | ethereum (inner : TxType)
  | evNode
  deriving DecidableEq, Repr

namespace EvTxEnvelope

variable {Payload : TxType → Type}

/-- `signature`. -/
def signature : EvTxEnvelope Payload → Signature
  | .ethereum tx => tx.signature
  | .evNode _ signature => signature

/-- `tx_type`. -/
def txType : EvTxEnvelope Payload → EvTxType
  | .ethereum tx => .ethereum tx.txType
  | .evNode _ _ => .evNode

end EvTxEnvelope

end EvReth
