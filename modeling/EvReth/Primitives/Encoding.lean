import EvReth.Foundations.Rlp
import EvReth.Primitives.Transaction

/-!
# The RLP encoding of EvNode transactions

The wire format of `crates/ev-primitives/src/tx.rs`: the eight fields of a transaction as an RLP
list, with an empty string in place of a missing sponsor signature. Integers, addresses, byte
strings and lists are encoded as `alloy_rlp` encodes them; `length()` of such a value is the length
of its encoding.
-/

namespace EvReth

open Rlp (Decoder Decodes)

/-! ## Words -/

section Words

variable {w k : ℕ}

/-- An unsigned integer of `w` bits. -/
def encodeWord (x : BitVec w) : Bytes := Rlp.encodeUint (w / 8) x.toNat

/-- Read an unsigned integer of `w` bits. -/
def decodeWord (w : ℕ) : Decoder (BitVec w) := do
  let n ← Rlp.decodeUint (w / 8)
  return BitVec.ofNat w n

/-- The bytes of an address or a hash. -/
def wordBytes (x : BitVec w) : Bytes := BigEndian.fixed (w / 8) x.toNat

/-- The word that `w / 8` bytes denote. -/
def wordOfBytes (w : ℕ) (bs : Bytes) : BitVec w := BitVec.ofNat w (BigEndian.value bs)

/-- An address or a hash: a byte string of fixed length. -/
def encodeFixed (x : BitVec w) : Bytes := Rlp.encodeBytes (wordBytes x)

/-- Read an address or a hash. -/
def decodeFixed (w : ℕ) : Decoder (BitVec w) := do
  let bs ← Rlp.decodeFixed (w / 8)
  return wordOfBytes w bs

/-- A word fits into its bytes. -/
theorem toNat_lt_of_width (hw : w = 8 * k) (x : BitVec w) : x.toNat < 256 ^ (w / 8) := by
  -- a width of whole bytes, so both sides are the same power of two
  have hpow : (256 : ℕ) ^ (w / 8) = 2 ^ w := by
    rw [show (256 : ℕ) = 2 ^ 8 from rfl, ← pow_mul]
    congr 1
    omega
  rw [hpow]
  exact x.isLt

@[simp] theorem length_wordBytes (x : BitVec w) : (wordBytes x).length = w / 8 :=
  BigEndian.length_fixed _ _

theorem wordOfBytes_wordBytes (hw : w = 8 * k) (x : BitVec w) :
    wordOfBytes w (wordBytes x) = x := by
  rw [wordOfBytes, wordBytes, BigEndian.value_fixed (toNat_lt_of_width hw x)]
  simp

theorem decodeWord_encodeWord (hw : w = 8 * k) (hsize : k < 2 ^ 64) (x : BitVec w) :
    Decodes (decodeWord w) (encodeWord x) x := by
  refine (Rlp.decodeUint_encodeUint (toNat_lt_of_width hw x) (by omega)).bind_pure fun buf => ?_
  rw [BitVec.ofNat_toNat, BitVec.setWidth_eq]
  rfl

theorem decodeFixed_encodeFixed (hw : w = 8 * k) (hsize : k < 2 ^ 64) (x : BitVec w) :
    Decodes (decodeFixed w) (encodeFixed x) x := by
  refine (Rlp.decodeFixed_encodeBytes (length_wordBytes x) (by omega)).bind_pure fun buf => ?_
  rw [wordOfBytes_wordBytes hw]
  rfl

end Words

/-! ## Calls and access lists -/

/-- A destination: an address, or the empty string for `CREATE`. -/
def TxKind.encode : TxKind → Bytes
  | .create => [0x80]
  | .call addr => encodeFixed addr

/-- Read a destination. -/
def TxKind.decode : Decoder TxKind := do
  match (← get) with
  | [] => throw .inputTooShort
  | first :: rest =>
    -- the empty string is consumed here; an address keeps its first byte
    if first = 0x80 then
      set rest
      return .create
    else
      let addr ← decodeFixed 160
      return .call addr

/-- The fields of a `Call` in order. -/
def Call.encodeFields (call : Call) : Bytes :=
  call.dest.encode ++ (encodeWord call.value ++ Rlp.encodeBytes call.input)

/-- The derived encoding of `Call`. -/
def Call.encode (call : Call) : Bytes := Rlp.encodeList call.encodeFields

/-- The derived decoding of `Call`. -/
def Call.decode : Decoder Call := Rlp.decodeRecord .listLengthMismatch do
  let dest ← TxKind.decode
  let value ← decodeWord 256
  let input ← Rlp.decodeBytes
  return { dest, value, input }

/-- The fields of an `AccessListItem` in order. -/
def AccessListItem.encodeFields (item : AccessListItem) : Bytes :=
  encodeFixed item.address ++ Rlp.encodeVec encodeFixed item.storageKeys

/-- The derived encoding of `AccessListItem`. -/
def AccessListItem.encode (item : AccessListItem) : Bytes := Rlp.encodeList item.encodeFields

/-- The derived decoding of `AccessListItem`. -/
def AccessListItem.decode : Decoder AccessListItem := Rlp.decodeRecord .listLengthMismatch do
  let address ← decodeFixed 160
  let storageKeys ← Rlp.decodeVec (decodeFixed 256)
  return { address, storageKeys }

/-! ## Signatures -/

namespace Signature

/-- `as_bytes`: `r`, `s` and `27` or `28` for the parity. -/
def asBytes (self : Signature) : Bytes :=
  wordBytes self.r ++ (wordBytes self.s ++ [if self.yParity then 28 else 27])

/-- `normalize_v`: the parity that a `v` value stands for. -/
def normalizeV (v : UInt8) : Option Bool :=
  if v = 0 ∨ v = 27 then some false
  else if v = 1 ∨ v = 28 then some true
  else if 35 ≤ v.toNat then some ((v.toNat - 35) % 2 ≠ 0)
  else none

/-- `from_raw_array` of `65` bytes. -/
def fromRawArray (bytes : Bytes) : Option Signature :=
  (normalizeV (bytes.getD 64 0)).map fun yParity =>
    { r := wordOfBytes 256 (bytes.take 32)
      s := wordOfBytes 256 ((bytes.drop 32).take 32)
      yParity }

theorem length_asBytes (self : Signature) : self.asBytes.length = 65 := by
  simp [asBytes]

/-- Two words and a `v` value are the signature of the parity that the `v` value stands for. -/
theorem fromRawArray_append (r s : U256) {v : UInt8} {yParity : Bool}
    (hv : normalizeV v = some yParity) :
    fromRawArray (wordBytes r ++ (wordBytes s ++ [v])) = some ⟨r, s, yParity⟩ := by
  have hr : (wordBytes r).length = 32 := length_wordBytes r
  have hs : (wordBytes s).length = 32 := length_wordBytes s
  -- the parity is the last of the 65 bytes, after two words of 32
  have hlast : (wordBytes r ++ (wordBytes s ++ [v])).getD 64 0 = v := by
    simp
  have htake : (wordBytes r ++ (wordBytes s ++ [v])).take 32 = wordBytes r := by
    rw [← hr, List.take_left]
  have hdrop : ((wordBytes r ++ (wordBytes s ++ [v])).drop 32).take 32 = wordBytes s := by
    rw [← hr, List.drop_left, hr, ← hs, List.take_left]
  rw [fromRawArray, hlast, hv, htake, hdrop, Option.map_some,
    wordOfBytes_wordBytes (k := 32) rfl, wordOfBytes_wordBytes (k := 32) rfl]

/-- A signature is read back from its bytes. -/
theorem fromRawArray_asBytes (self : Signature) : fromRawArray self.asBytes = some self := by
  have hparity : normalizeV (if self.yParity then 28 else 27) = some self.yParity := by
    cases self.yParity <;> decide
  exact fromRawArray_append self.r self.s hparity

end Signature

/-- `encode_optional_signature`. -/
def encodeOptionalSignature : Option Signature → Bytes
  | some signature => Rlp.encodeBytes signature.asBytes
  | none => [0x80]

/-- `optional_signature_length`. -/
def optionalSignatureLength : Option Signature → ℕ
  | some signature => (Rlp.encodeBytes signature.asBytes).length
  | none => 1

/-- `decode_optional_signature`. -/
def decodeOptionalSignature : Decoder (Option Signature) := do
  let bytes ← Rlp.decodeBytes
  -- the empty string stands for a missing signature
  if bytes.isEmpty then
    return none
  if bytes.length ≠ 65 then
    throw .unexpectedLength
  match Signature.fromRawArray bytes with
  | some signature => return some signature
  | none => throw (.custom "invalid signature bytes")

/-! ## Transactions -/

namespace EvNodeTransaction

variable (self : EvNodeTransaction)

/-- `encode_payload_fields`. -/
def encodePayloadFields (feePayerSignature : Option Signature) : Bytes :=
  encodeWord self.chainId ++ (encodeWord self.nonce ++ (encodeWord self.maxPriorityFeePerGas ++
    (encodeWord self.maxFeePerGas ++ (encodeWord self.gasLimit ++
      (Rlp.encodeVec Call.encode self.calls ++
        (Rlp.encodeVec AccessListItem.encode self.accessList ++
          encodeOptionalSignature feePayerSignature))))))

/-- The fields in front of the sponsor's. -/
def unsponsoredFields (self : EvNodeTransaction) : Bytes :=
  encodeWord self.chainId ++ (encodeWord self.nonce ++ (encodeWord self.maxPriorityFeePerGas ++
    (encodeWord self.maxFeePerGas ++ (encodeWord self.gasLimit ++
      (Rlp.encodeVec Call.encode self.calls ++
        Rlp.encodeVec AccessListItem.encode self.accessList)))))

/-- `payload_fields_length`. -/
def payloadFieldsLength (feePayerSignature : Option Signature) : ℕ :=
  (encodeWord self.chainId).length + (encodeWord self.nonce).length +
    (encodeWord self.maxPriorityFeePerGas).length + (encodeWord self.maxFeePerGas).length +
    (encodeWord self.gasLimit).length + (Rlp.encodeVec Call.encode self.calls).length +
    (Rlp.encodeVec AccessListItem.encode self.accessList).length +
    optionalSignatureLength feePayerSignature

/-- `encode`: a list header of the announced length, and the fields. -/
def encode : Bytes :=
  Rlp.Header.encode
      { list := true, payloadLength := self.payloadFieldsLength self.feePayerSignature } ++
    self.encodePayloadFields self.feePayerSignature

/-- `rlp_decode_fields`. -/
def rlpDecodeFields : Decoder EvNodeTransaction := do
  let chainId ← decodeWord 64
  let nonce ← decodeWord 64
  let maxPriorityFeePerGas ← decodeWord 128
  let maxFeePerGas ← decodeWord 128
  let gasLimit ← decodeWord 64
  let calls ← Rlp.decodeVec Call.decode
  let accessList ← Rlp.decodeVec AccessListItem.decode
  let feePayerSignature ← decodeOptionalSignature
  return { chainId, nonce, maxPriorityFeePerGas, maxFeePerGas, gasLimit, calls, accessList,
           feePayerSignature }

/-- `decode`, which is `rlp_decode` of `alloy_consensus`. -/
def decode : Decoder EvNodeTransaction :=
  Rlp.decodeRecord (fun _ _ => .unexpectedLength) rlpDecodeFields

end EvNodeTransaction

/-! ## Round trips -/

/-- The encoding of an address begins with `0x94`. -/
theorem encodeFixed_address (addr : Address) : encodeFixed addr = 0x94 :: wordBytes addr := by
  have hlen : (wordBytes addr).length = 20 := length_wordBytes addr
  have hheader : Rlp.Header.encode { list := false, payloadLength := 20 } = [0x94] := by decide
  rw [encodeFixed, Rlp.encodeBytes_of_length_ne_one (by omega), hlen, hheader,
    List.singleton_append]

theorem TxKind.decode_encode (kind : TxKind) : Decodes TxKind.decode kind.encode kind := by
  intro rest
  refine EStateM.bind_get.trans ?_
  cases kind with
  | create => rfl
  | call addr =>
    -- the header byte `0x94` is not the one that stands for `CREATE`
    have hdecode := decodeFixed_encodeFixed (k := 20) rfl (by decide) addr rest
    rw [TxKind.encode]
    rw [encodeFixed_address] at hdecode ⊢
    exact EStateM.bind_of_ok hdecode

/-- Calls round trip. -/
theorem Call.decode_encode (call : Call) (hsize : call.encode.length < 2 ^ 64) :
    Decodes Call.decode call.encode call := by
  have hfields : call.encodeFields.length < 2 ^ 64 :=
    (Rlp.length_le_encodeList _).trans_lt hsize
  -- each part is no longer than the whole, so its header is readable too
  have hinput : call.input.length < 2 ^ 64 := by
    have hle := Rlp.length_le_encodeBytes call.input
    simp only [Call.encodeFields, List.length_append] at hfields
    omega
  refine Rlp.decodeRecord_encodeList ?_ hfields
  -- field by field, in the order in which they were written
  refine (TxKind.decode_encode call.dest).bind ?_
  refine (decodeWord_encodeWord (k := 32) rfl (by decide) call.value).bind ?_
  exact (Rlp.decodeBytes_encodeBytes hinput).bind_pure fun _ => rfl

/-- Items of an access list round trip. -/
theorem AccessListItem.decode_encode (item : AccessListItem) (hsize : item.encode.length < 2 ^ 64) :
    Decodes AccessListItem.decode item.encode item := by
  have hfields : item.encodeFields.length < 2 ^ 64 :=
    (Rlp.length_le_encodeList _).trans_lt hsize
  have hkeys : (item.storageKeys.flatMap encodeFixed).length < 2 ^ 64 := by
    have hle := Rlp.length_le_encodeList (item.storageKeys.flatMap encodeFixed)
    simp only [AccessListItem.encodeFields, Rlp.encodeVec, List.length_append] at hfields
    omega
  refine Rlp.decodeRecord_encodeList ?_ hfields
  refine (decodeFixed_encodeFixed (k := 20) rfl (by decide) item.address).bind ?_
  refine (Rlp.decodeVec_encodeVec (fun key _ => ⟨?_, ?_⟩) hkeys).bind_pure fun _ => rfl
  · exact decodeFixed_encodeFixed (k := 32) rfl (by decide) key
  · exact Rlp.encodeBytes_ne_nil _

/-- The raw content of the sponsor field and the signature it stands for. -/
inductive SponsorFieldReads : Bytes → Option Signature → Prop
  | absent : SponsorFieldReads [] none
  | present {raw : Bytes} {signature : Signature} (hlen : raw.length = 65)
      (h : Signature.fromRawArray raw = some signature) : SponsorFieldReads raw (some signature)

/-- A string that is read as a sponsor field decodes to it. -/
theorem SponsorFieldReads.decodes {raw : Bytes} {signature : Option Signature}
    (h : SponsorFieldReads raw signature) :
    Decodes decodeOptionalSignature (Rlp.encodeBytes raw) signature := by
  cases h with
  | absent =>
    have hempty : Decodes Rlp.decodeBytes [0x80] [] := fun _ => rfl
    exact hempty.bind_pure fun _ => rfl
  | @present raw signature hlen h =>
    have hbytes : Decodes Rlp.decodeBytes (Rlp.encodeBytes raw) raw :=
      Rlp.decodeBytes_encodeBytes (by omega)
    -- 65 bytes are not mistaken for a missing signature
    have hempty : raw.isEmpty = false := by
      rw [List.isEmpty_eq_false_iff]
      rintro rfl
      cases hlen
    refine hbytes.bind_pure fun buf => ?_
    simp only [hempty, hlen, h]
    rfl

/-- Sponsor fields round trip. -/
theorem decodeOptionalSignature_encode (signature : Option Signature) :
    Decodes decodeOptionalSignature (encodeOptionalSignature signature) signature := by
  cases signature with
  | none => exact SponsorFieldReads.absent.decodes
  | some signature =>
    exact (SponsorFieldReads.present signature.length_asBytes
      signature.fromRawArray_asBytes).decodes

namespace EvNodeTransaction

variable (self : EvNodeTransaction)

/-- The announced length is that of the fields. -/
theorem payloadFieldsLength_eq (feePayerSignature : Option Signature) :
    self.payloadFieldsLength feePayerSignature =
      (self.encodePayloadFields feePayerSignature).length := by
  -- the only field whose length is not computed from its encoding
  have hsignature : optionalSignatureLength feePayerSignature =
      (encodeOptionalSignature feePayerSignature).length := by
    cases feePayerSignature <;> rfl
  simp only [payloadFieldsLength, encodePayloadFields, hsignature, List.length_append]
  omega

theorem encode_eq : self.encode =
    Rlp.encodeList (self.encodePayloadFields self.feePayerSignature) := by
  rw [encode, payloadFieldsLength_eq, Rlp.encodeList]

/-- The sponsor field is written last. -/
theorem encodePayloadFields_eq (signature : Option Signature) :
    self.encodePayloadFields signature =
      self.unsponsoredFields ++ encodeOptionalSignature signature := by
  simp only [encodePayloadFields, unsponsoredFields, List.append_assoc]

/-- The fields are read back, with the sponsor signature that the last of them stands for. -/
theorem decodes_fields {field : Bytes} {feePayerSignature : Option Signature}
    (hfield : Decodes decodeOptionalSignature field feePayerSignature)
    (hsize : (self.unsponsoredFields ++ field).length < 2 ^ 64) :
    Decodes rlpDecodeFields (self.unsponsoredFields ++ field) { self with feePayerSignature } := by
  simp only [unsponsoredFields, List.append_assoc, List.length_append] at hsize ⊢
  -- the lists of calls and of access list items fit in the payload
  have hcalls : (self.calls.flatMap Call.encode).length < 2 ^ 64 := by
    have hle := Rlp.length_le_encodeList (self.calls.flatMap Call.encode)
    simp only [Rlp.encodeVec] at hsize
    omega
  have haccess : (self.accessList.flatMap AccessListItem.encode).length < 2 ^ 64 := by
    have hle := Rlp.length_le_encodeList (self.accessList.flatMap AccessListItem.encode)
    simp only [Rlp.encodeVec] at hsize
    omega
  -- the eight fields in order
  refine (decodeWord_encodeWord (k := 8) rfl (by decide) self.chainId).bind ?_
  refine (decodeWord_encodeWord (k := 8) rfl (by decide) self.nonce).bind ?_
  refine (decodeWord_encodeWord (k := 16) rfl (by decide) self.maxPriorityFeePerGas).bind ?_
  refine (decodeWord_encodeWord (k := 16) rfl (by decide) self.maxFeePerGas).bind ?_
  refine (decodeWord_encodeWord (k := 8) rfl (by decide) self.gasLimit).bind ?_
  refine (Rlp.decodeVec_encodeVec (fun call hcall => ⟨?_, ?_⟩) hcalls).bind ?_
  · exact call.decode_encode ((Rlp.length_le_flatMap hcall).trans_lt hcalls)
  · exact Rlp.encodeList_ne_nil _
  refine (Rlp.decodeVec_encodeVec (fun item hitem => ⟨?_, ?_⟩) haccess).bind ?_
  · exact item.decode_encode ((Rlp.length_le_flatMap hitem).trans_lt haccess)
  · exact Rlp.encodeList_ne_nil _
  exact hfield.bind_pure fun _ => rfl

/-- The fields are read back, with the sponsor signature that was written. -/
theorem decodes_payloadFields (feePayerSignature : Option Signature)
    (hsize : (self.encodePayloadFields feePayerSignature).length < 2 ^ 64) :
    Decodes rlpDecodeFields (self.encodePayloadFields feePayerSignature)
      { self with feePayerSignature } := by
  rw [encodePayloadFields_eq] at hsize ⊢
  exact self.decodes_fields (decodeOptionalSignature_encode feePayerSignature) hsize

/-- A transaction is read back from its encoding, in front of anything. -/
theorem decodes_encode (hsize : self.encode.length < 2 ^ 64) :
    Decodes decode self.encode self := by
  rw [encode_eq] at hsize ⊢
  have hfields := (Rlp.length_le_encodeList _).trans_lt hsize
  exact Rlp.decodeRecord_encodeList (self.decodes_payloadFields self.feePayerSignature hfields)
    hfields

end EvNodeTransaction

end EvReth
