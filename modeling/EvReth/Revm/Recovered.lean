import EvReth.Primitives.Recovery
import EvReth.Revm.TxEnv

/-!
# Received transactions

The way of a transaction from the wire into the EVM: `decode_2718` of the envelope
(`crates/ev-primitives/src/tx.rs`), the recovery of its signer, and the transaction environment that
is built from both (`crates/ev-revm/src/tx_env.rs`). What alloy and revm provide for the standard
transaction types are the fields of `EthereumSupport`.
-/

namespace EvReth

/-- What alloy and revm provide for standard transactions. -/
structure EthereumSupport (Payload : TxType → Type) where
  /-- The encodings of the signed fields, in a row. -/
  signingFields : (ty : TxType) → Payload ty → Bytes
  /-- `typed_decode` behind a type byte. -/
  typedDecode : UInt8 → EStateM Eip2718Error Bytes (EthereumTransaction Payload)
  /-- `fallback_decode` of a legacy transaction. -/
  fallbackDecode : EStateM Eip2718Error Bytes (EthereumTransaction Payload)
  /-- `TxEnv::from_recovered_tx`. -/
  toTxEnv : EthereumTransaction Payload → Address → TxEnv
  kind : EthereumTransaction Payload → TxKind
  gasLimit : EthereumTransaction Payload → U64
  blobGasUsed : EthereumTransaction Payload → Option U64
  /-- The cost that the pool computes for a transaction. -/
  cost : EthereumTransaction Payload → U256

/-- The support for transactions that are all EvNode transactions. -/
def EthereumSupport.none : EthereumSupport fun _ => Empty :=
  { signingFields := fun _ fields => fields.elim
    typedDecode := fun _ => throw (.rlpError (.custom "unexpected tx type"))
    fallbackDecode := throw (.rlpError .unexpectedLength)
    toTxEnv := fun tx _ => tx.tx.elim
    kind := fun tx => tx.tx.elim
    gasLimit := fun tx => tx.tx.elim
    blobGasUsed := fun tx => tx.tx.elim
    cost := fun tx => tx.tx.elim }

variable {Payload : TxType → Type} (eth : EthereumSupport Payload) (crypto : Crypto)

namespace EvTxEnvelope

/-- `decode_2718`. -/
def decode2718 : EStateM Eip2718Error Bytes (EvTxEnvelope Payload) := do
  match (← get) with
  | ty :: rest =>
    -- bytes from `0x80` on are no transaction types
    if ty.toNat < 0x80 then
      set rest
      if ty = evnodeTxTypeId then
        let (tx, signature) ←
          EvNodeTransaction.rlpDecodeWithSignature.adaptExcept Eip2718Error.rlpError
        return .evNode tx signature
      else return .ethereum (← eth.typedDecode ty)
    else return .ethereum (← eth.fallbackDecode)
  | [] => return .ethereum (← eth.fallbackDecode)

/-- `decode_2718_exact`. -/
def decode2718Exact (bytes : Bytes) : Except Eip2718Error (EvTxEnvelope Payload) :=
  match decode2718 eth bytes with
  | .ok tx rest => if rest.isEmpty then .ok tx else .error (.rlpError .unexpectedLength)
  | .error e _ => .error e

/-- `gas_limit`. -/
def gasLimit : EvTxEnvelope Payload → U64
  | .ethereum tx => eth.gasLimit tx
  | .evNode tx _ => tx.gasLimit

/-- `blob_gas_used`: EvNode transactions carry no blobs. -/
def blobGasUsed : EvTxEnvelope Payload → Option U64
  | .ethereum tx => eth.blobGasUsed tx
  | .evNode _ _ => none

end EvTxEnvelope

/-- `from_recovered_tx`. -/
def EvTxEnv.fromRecoveredTx : EvTxEnvelope Payload → Address → EvTxEnv
  | .ethereum tx, sender => EvTxEnv.new (eth.toTxEnv tx sender)
  | .evNode tx _, sender =>
    EvTxEnv.fromEvNode (fun tx executor signature => tx.recoverSponsor crypto executor signature)
      tx sender

end EvReth
