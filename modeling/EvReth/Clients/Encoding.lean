import EvReth.Foundations.Hex
import EvReth.Foundations.RlpItem
import EvReth.Primitives.Transaction

/-!
# The TypeScript client

How the client encodes, decodes and hashes EvNode transactions (`clients/src/encoding.ts`). Its
values are hexadecimal strings and big integers; a string is here the list of its digits, without
the `0x` in front of them. Strings become bytes only in viem, which fills up one of odd length with
a leading zero.

What the client throws is the text of the error.
-/

namespace EvReth.Clients

/-! ## viem -/

/-- `Hex`. -/
abbrev Hex := List (Fin 16)

/-- `RlpValue`. -/
abbrev RlpValue := Rlp.Item Hex

/-- viem's `Signature`. -/
structure SignatureObject where
  r : Hex
  s : Hex
  yParity : Option ℕ
  v : Option ℕ
  deriving DecidableEq, Repr

/-- A signature that the client is given: viem's, or a string of bytes. -/
inductive Signature where
  | object (signature : SignatureObject)
  | string (hex : Hex)
  deriving DecidableEq, Repr

/-- The functions of viem of which the client only knows what they do. -/
structure Viem where
  fromRlp : Hex → Except String RlpValue
  hexToSignature : Hex → Except String SignatureObject

/-- `toRlp`. -/
def toRlp (value : RlpValue) : Hex := Hex.ofBytes (value.encode Hex.toBytes)

/-- `toHex` of a number. -/
def toHex (value : ℕ) : Hex := Hex.ofNat value

/-- `toHex` with a size. -/
def toHexSized (size value : ℕ) : Except String Hex :=
  if value < 256 ^ size then .ok (Hex.sized size value) else .error "IntegerOutOfRangeError"

/-- `hexToBigInt`. -/
def hexToBigInt (hex : Hex) : ℕ := Hex.value hex

/-- `concat`. -/
def concat (values : List Hex) : Hex := values.flatten

/-! ## Types -/

/-- `Call`, whose `to` is `dest` here. -/
structure Call where
  dest : Option Hex
  value : ℕ
  data : Hex
  deriving DecidableEq, Repr

/-- An item of viem's `AccessList`. -/
structure AccessListItem where
  address : Hex
  storageKeys : List Hex
  deriving DecidableEq, Repr

/-- `EvNodeTransaction`. -/
structure EvNodeTransaction where
  chainId : ℕ
  nonce : ℕ
  maxPriorityFeePerGas : ℕ
  maxFeePerGas : ℕ
  gasLimit : ℕ
  calls : List Call
  accessList : List AccessListItem
  feePayerSignature : Option Signature
  deriving DecidableEq, Repr

/-- `EvNodeSignedTransaction`. -/
structure EvNodeSignedTransaction where
  transaction : EvNodeTransaction
  executorSignature : Signature
  deriving DecidableEq, Repr

/-! ## Numbers and signatures -/

/-- `rlpHexFromBigInt`. -/
def rlpHexFromBigInt (value : ℕ) : Hex := if value = 0 then [] else toHex value

/-- `hexToBigIntSafe`. -/
def hexToBigIntSafe : RlpValue → Except String ℕ
  | .leaf hex => .ok (if hex = [] then 0 else hexToBigInt hex)
  | .list _ => .error "Invalid hex value"

/-- `padTo32Bytes`. -/
def padTo32Bytes (value : Hex) : Except String Hex := do
  let n ← hexToBigIntSafe (.leaf value)
  toHexSized 32 n

/-- What `normalizeSignature` returns. -/
structure NormalizedSignature where
  yParity : ℕ
  r : Hex
  s : Hex
  deriving DecidableEq, Repr

/-- The part of `normalizeSignature` behind the parsing of a string. -/
def SignatureObject.normalize (parsed : SignatureObject) : Except String NormalizedSignature := do
  -- a number that is not there is none of the four
  match parsed.v.or parsed.yParity with
  | none => throw "Invalid signature v value"
  | some v =>
    let normalizedV := if v = 27 ∨ v = 28 then v - 27 else v
    if normalizedV ≠ 0 ∧ normalizedV ≠ 1 then
      throw "Invalid signature v value"
    let r ← padTo32Bytes parsed.r
    let s ← padTo32Bytes parsed.s
    return { yParity := normalizedV, r, s }

variable (viem : Viem)

/-- `normalizeSignature`, which is also `normalizeSignatureForRlp`. -/
def normalizeSignature : Signature → Except String NormalizedSignature
  | .string hex => do
    let parsed ← viem.hexToSignature hex
    parsed.normalize
  | .object parsed => parsed.normalize

/-- `encodeSponsorSignature`. -/
def encodeSponsorSignature : Signature → Except String RlpValue
  | .string hex => .ok (.leaf hex)
  | .object parsed => do
    let normalized ← normalizeSignature viem (.object parsed)
    let vByte ← toHexSized 1 normalized.yParity
    return .leaf (concat [normalized.r, normalized.s, vByte])

/-! ## Encoding -/

/-- A call of `encodeCalls`. -/
def encodeCall (call : Call) : RlpValue :=
  .list [.leaf (call.dest.getD []), .leaf (rlpHexFromBigInt call.value), .leaf call.data]

/-- `encodeCalls`. -/
def encodeCalls (calls : List Call) : List RlpValue := calls.map encodeCall

/-- An item of `encodeAccessList`. -/
def encodeAccessListItem (item : AccessListItem) : RlpValue :=
  .list [.leaf item.address, .list (item.storageKeys.map .leaf)]

/-- `encodeAccessList`. -/
def encodeAccessList (accessList : List AccessListItem) : List RlpValue :=
  accessList.map encodeAccessListItem

/-- The fields of a transaction with the given sponsor field. -/
def payloadFields (tx : EvNodeTransaction) (sponsorField : RlpValue) : List RlpValue :=
  [.leaf (rlpHexFromBigInt tx.chainId), .leaf (rlpHexFromBigInt tx.nonce),
    .leaf (rlpHexFromBigInt tx.maxPriorityFeePerGas), .leaf (rlpHexFromBigInt tx.maxFeePerGas),
    .leaf (rlpHexFromBigInt tx.gasLimit), .list (encodeCalls tx.calls),
    .list (encodeAccessList tx.accessList), sponsorField]

/-- The sponsor field: empty, or the signature if it is there and to be included. -/
def sponsorField (tx : EvNodeTransaction) (includeSponsorSig : Bool) : Except String RlpValue :=
  match includeSponsorSig, tx.feePayerSignature with
  | true, some signature => encodeSponsorSignature viem signature
  | _, _ => .ok (.leaf [])

/-- `buildPayloadFields`. -/
def buildPayloadFields (tx : EvNodeTransaction) (includeSponsorSig : Bool) :
    Except String (List RlpValue) := do
  let sponsor ← sponsorField viem tx includeSponsorSig
  return payloadFields tx sponsor

/-- `encodePayloadFieldsNoList`. -/
def encodePayloadFieldsNoList (tx : EvNodeTransaction) (includeSponsorSig : Bool) :
    Except String Hex := do
  let fields ← buildPayloadFields viem tx includeSponsorSig
  return concat (fields.map toRlp)

/-- `TX_TYPE_HEX` and `EXECUTOR_DOMAIN_HEX`. -/
def txTypeHex : Hex := Hex.ofBytes [evnodeTxTypeId]

/-- `SPONSOR_DOMAIN_HEX`. -/
def sponsorDomainHex : Hex := Hex.ofBytes [evnodeSponsorDomain]

/-- The fields of the executor's signature. -/
def signatureFields (execSig : NormalizedSignature) : List RlpValue :=
  [.leaf (rlpHexFromBigInt execSig.yParity), .leaf (rlpHexFromBigInt (hexToBigInt execSig.r)),
    .leaf (rlpHexFromBigInt (hexToBigInt execSig.s))]

/-- `encodeSignedTransaction`. -/
def encodeSignedTransaction (signedTx : EvNodeSignedTransaction) : Except String Hex := do
  let fields ← buildPayloadFields viem signedTx.transaction true
  let execSig ← normalizeSignature viem signedTx.executorSignature
  let envelope := toRlp (.list (fields ++ signatureFields execSig))
  return concat [txTypeHex, envelope]

/-- What `computeExecutorSigningHash` hashes. -/
def executorSigningPreimage (tx : EvNodeTransaction) : Except String Hex := do
  let fields ← buildPayloadFields viem tx false
  return concat [txTypeHex, toRlp (.list fields)]

/-- What `computeSponsorSigningHash` hashes. -/
def sponsorSigningPreimage (tx : EvNodeTransaction) (executorAddress : Hex) :
    Except String Hex := do
  let payload ← encodePayloadFieldsNoList viem tx false
  return concat [sponsorDomainHex, executorAddress, payload]

section Hashes

variable (keccak256 : Bytes → B256)

/-- `computeExecutorSigningHash`. -/
def computeExecutorSigningHash (tx : EvNodeTransaction) : Except String B256 :=
  (executorSigningPreimage viem tx).map fun hex => keccak256 (Hex.toBytes hex)

/-- `computeSponsorSigningHash`. -/
def computeSponsorSigningHash (tx : EvNodeTransaction) (executorAddress : Hex) :
    Except String B256 :=
  (sponsorSigningPreimage viem tx executorAddress).map fun hex => keccak256 (Hex.toBytes hex)

/-- `computeTxHash`. -/
def computeTxHash (signedTx : EvNodeSignedTransaction) : Except String B256 :=
  (encodeSignedTransaction viem signedTx).map fun hex => keccak256 (Hex.toBytes hex)

end Hashes

/-! ## Decoding -/

/-- A call of `decodeCalls`. -/
def decodeCall : RlpValue → Except String Call
  | .list [.leaf dest, .leaf val, .leaf data] => do
    let value ← hexToBigIntSafe (.leaf val)
    return { dest := if dest = [] then none else some dest, value, data }
  | .list [_, _, _] => .error "Invalid EvNode call values"
  | _ => .error "Invalid EvNode call encoding"

/-- `decodeCalls`. -/
def decodeCalls : RlpValue → Except String (List Call)
  | .list calls => calls.mapM decodeCall
  | .leaf _ => .error "Invalid EvNode calls encoding"

/-- A storage key of `decodeAccessList`. -/
def decodeStorageKey : RlpValue → Except String Hex
  | .leaf key => .ok key
  | .list _ => .error "Invalid storage key"

/-- An item of `decodeAccessList`. -/
def decodeAccessListItem : RlpValue → Except String AccessListItem
  | .list [.leaf address, .list keys] => do
    let storageKeys ← keys.mapM decodeStorageKey
    return { address, storageKeys }
  | .list [_, _] => .error "Invalid access list values"
  | _ => .error "Invalid access list item encoding"

/-- `decodeAccessList`. -/
def decodeAccessList : RlpValue → Except String (List AccessListItem)
  | .list items => items.mapM decodeAccessListItem
  | .leaf _ => .error "Invalid access list encoding"

/-- `signatureFromBytes`. -/
def signatureFromBytes (value : Hex) : Except String Signature := do
  let bytes := Hex.toBytes value
  if bytes.length ≠ 65 then
    throw "Invalid sponsor signature length"
  let vRaw := (bytes.getD 64 0).toNat
  let v := if vRaw = 27 ∨ vRaw = 28 then vRaw - 27 else vRaw
  if v ≠ 0 ∧ v ≠ 1 then
    throw "Invalid signature v value"
  let r ← padTo32Bytes (Hex.ofBytes (bytes.take 32))
  let s ← padTo32Bytes (Hex.ofBytes ((bytes.drop 32).take 32))
  return .object { r, s, yParity := some v, v := some v }

/-- `signatureFromParts`. -/
def signatureFromParts : RlpValue → RlpValue → RlpValue → Except String Signature
  | .leaf v, .leaf r, .leaf s => do
    let vNumber ← hexToBigIntSafe (.leaf v)
    if vNumber ≠ 0 ∧ vNumber ≠ 1 then
      throw "Invalid signature v value"
    let r ← padTo32Bytes r
    let s ← padTo32Bytes s
    return .object { r, s, yParity := some vNumber, v := some vNumber }
  | _, _, _ => .error "Invalid signature fields"

/-- `decodeSignature`. -/
def decodeSignature : RlpValue → Except String (Option Signature)
  | .leaf [] => .ok none
  | .leaf value => (signatureFromBytes value).map some
  | .list [v, r, s] => (signatureFromParts v r s).map some
  | .list _ => .error "Invalid sponsor signature encoding"

/-- The part of `decodeEvNodeTransaction` behind `fromRlp`. -/
def decodeFields : RlpValue → Except String EvNodeSignedTransaction
  | .leaf _ => throw "Invalid EvNode transaction payload"
  | .list [chainId, nonce, maxPriorityFeePerGas, maxFeePerGas, gasLimit, calls, accessList,
      feePayerSignature, v, r, s] => do
    let transaction : EvNodeTransaction :=
      { chainId := ← hexToBigIntSafe chainId
        nonce := ← hexToBigIntSafe nonce
        maxPriorityFeePerGas := ← hexToBigIntSafe maxPriorityFeePerGas
        maxFeePerGas := ← hexToBigIntSafe maxFeePerGas
        gasLimit := ← hexToBigIntSafe gasLimit
        calls := ← decodeCalls calls
        accessList := ← decodeAccessList accessList
        feePayerSignature := ← decodeSignature feePayerSignature }
    let executorSignature ← signatureFromParts v r s
    return { transaction, executorSignature }
  | .list _ => throw "Invalid EvNode transaction length"

/-- `decodeEvNodeTransaction`. -/
def decodeEvNodeTransaction (encoded : Hex) : Except String EvNodeSignedTransaction := do
  let bytes := Hex.toBytes encoded
  -- a string without a first byte is refused here too
  if bytes.head? ≠ some evnodeTxTypeId then
    throw "Invalid EvNode transaction type"
  let decoded ← viem.fromRlp (Hex.ofBytes (bytes.drop 1))
  decodeFields decoded

end EvReth.Clients
