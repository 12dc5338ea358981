import EvReth.Primitives.Signing

/-!
# The wire format

The signed form of an EvNode transaction, `0x76 || rlp([fields..., v, r, s])`, and the two laws of
the format: what is written is read back, and what is accepted was written.

The second law has a gap. The sponsor's signature is stored as `65` raw bytes, of which the last may
be any `v` value that `Signature::from_raw_array` normalises, while `27` or `28` is written.
-/

namespace EvReth

open Rlp (Decoder Decodes Canonical ReadsItem)
open EStateM

/-! ## Signed transactions -/

/-- A `bool`, as an integer. -/
def encodeBool (b : Bool) : Bytes := Rlp.encodeUint 1 (if b then 1 else 0)

/-- Read a `bool`. -/
def decodeBool : Decoder Bool := do
  let n ← Rlp.decodeUint 1
  if n = 0 then
    return false
  else if n = 1 then
    return true
  else throw (.custom "invalid bool value, must be 0 or 1")

namespace Signature

variable (self : Signature)

/-- `write_rlp_vrs`, with the parity as `v`. -/
def writeRlpVrs : Bytes :=
  encodeBool self.yParity ++ (encodeWord self.r ++ encodeWord self.s)

/-- `rlp_rs_len`. -/
def rlpRsLen : ℕ := (encodeWord self.r).length + (encodeWord self.s).length

/-- `decode_rlp_vrs`. -/
def decodeRlpVrs : Decoder Signature := do
  let yParity ← decodeBool
  let r ← decodeWord 256
  let s ← decodeWord 256
  return { r, s, yParity }

end Signature

/-- `Eip2718Error`. -/
inductive Eip2718Error where
  | rlpError (e : Rlp.Error)
  | unexpectedType (ty : UInt8)
  deriving DecidableEq, Repr

namespace EvNodeTransaction

variable (self : EvNodeTransaction) (signature : Signature)

/-- `rlp_encoded_fields_length`. -/
def rlpEncodedFieldsLength : ℕ := self.payloadFieldsLength self.feePayerSignature

/-- `rlp_encode_fields`. -/
def rlpEncodeFields : Bytes := self.encodePayloadFields self.feePayerSignature

/-- `Encodable::length`. -/
def length : ℕ :=
  Rlp.Header.lengthWithPayload { list := true, payloadLength := self.rlpEncodedFieldsLength }

/-- `rlp_encode_signed`. -/
def rlpEncodeSigned : Bytes :=
  Rlp.Header.encode
      { list := true
        payloadLength := self.rlpEncodedFieldsLength + signature.rlpRsLen +
          (encodeBool signature.yParity).length } ++
    (self.rlpEncodeFields ++ signature.writeRlpVrs)

/-- `rlp_decode_with_signature`. -/
def rlpDecodeWithSignature : Decoder (EvNodeTransaction × Signature) :=
  Rlp.decodeRecord .listLengthMismatch do
    let tx ← rlpDecodeFields
    let signature ← Signature.decodeRlpVrs
    return (tx, signature)

/-- `eip2718_encode`. -/
def eip2718Encode : Bytes := evnodeTxTypeId :: self.rlpEncodeSigned signature

/-- `eip2718_decode`. -/
def eip2718Decode : EStateM Eip2718Error Bytes (EvNodeTransaction × Signature) := do
  match (← get) with
  | [] => throw (.rlpError .inputTooShort)
  | ty :: rest =>
    set rest
    if ty ≠ evnodeTxTypeId then
      throw (.unexpectedType ty)
    rlpDecodeWithSignature.adaptExcept .rlpError

/-- The hash of a signed transaction, which the node computes by encoding it. -/
def txHash (keccak256 : Bytes → B256) : B256 := keccak256 (self.eip2718Encode signature)

end EvNodeTransaction

/-! ## Round trips -/

/-- Booleans round trip. -/
theorem decodeBool_encodeBool (b : Bool) : Decodes decodeBool (encodeBool b) b := by
  cases b with
  | false =>
    have hread := Rlp.decodeUint_encodeUint (k := 1) (n := 0) (by decide) (by decide)
    exact hread.bind_pure fun _ => rfl
  | true =>
    have hread := Rlp.decodeUint_encodeUint (k := 1) (n := 1) (by decide) (by decide)
    exact hread.bind_pure fun _ => rfl

theorem Signature.decodes_writeRlpVrs (signature : Signature) :
    Decodes Signature.decodeRlpVrs signature.writeRlpVrs signature := by
  refine (decodeBool_encodeBool signature.yParity).bind ?_
  refine (decodeWord_encodeWord (k := 32) rfl (by decide) signature.r).bind ?_
  exact (decodeWord_encodeWord (k := 32) rfl (by decide) signature.s).bind_pure fun _ => rfl

namespace EvNodeTransaction

variable (self : EvNodeTransaction) (signature : Signature)

/-- A signed transaction is written as a list, whatever its length. -/
theorem rlpEncodeSigned_eq : self.rlpEncodeSigned signature =
    Rlp.encodeList (self.rlpEncodeFields ++ signature.writeRlpVrs) := by
  have hlen : self.rlpEncodedFieldsLength + signature.rlpRsLen +
      (encodeBool signature.yParity).length =
      (self.rlpEncodeFields ++ signature.writeRlpVrs).length := by
    simp only [rlpEncodedFieldsLength, payloadFieldsLength_eq, Signature.rlpRsLen, rlpEncodeFields,
      Signature.writeRlpVrs, List.length_append]
    omega
  rw [rlpEncodeSigned, hlen, Rlp.encodeList]

/-- A signed transaction that fits in memory has fields that do. -/
theorem length_signedFields_lt (hsize : (self.eip2718Encode signature).length < 2 ^ 64) :
    (self.rlpEncodeFields ++ signature.writeRlpVrs).length < 2 ^ 64 := by
  have hle := Rlp.length_le_encodeList (self.rlpEncodeFields ++ signature.writeRlpVrs)
  rw [eip2718Encode, rlpEncodeSigned_eq, List.length_cons] at hsize
  omega

/-- Behind the type byte, a signed transaction is a record. -/
theorem eip2718Decode_cons (buf : Bytes) :
    eip2718Decode (evnodeTxTypeId :: buf) = rlpDecodeWithSignature.adaptExcept .rlpError buf :=
  rfl

/-- A signed transaction is read from its fields, whichever way its sponsor field is written. -/
theorem eip2718Decode_fields {field : Bytes}
    (hfield : Decodes decodeOptionalSignature field self.feePayerSignature)
    (hsize : (self.unsponsoredFields ++ field ++ signature.writeRlpVrs).length < 2 ^ 64)
    (rest : Bytes) :
    eip2718Decode (evnodeTxTypeId ::
        Rlp.encodeList (self.unsponsoredFields ++ field ++ signature.writeRlpVrs) ++ rest) =
      .ok (self, signature) rest := by
  have hfields : (self.unsponsoredFields ++ field).length < 2 ^ 64 := by
    rw [List.length_append] at hsize
    omega
  -- the fields, then the executor's signature
  have hread : Decodes rlpDecodeWithSignature
      (Rlp.encodeList (self.unsponsoredFields ++ field ++ signature.writeRlpVrs))
      (self, signature) := by
    refine Rlp.decodeRecord_encodeList ?_ hsize
    refine (self.decodes_fields hfield hfields).bind ?_
    exact signature.decodes_writeRlpVrs.bind_pure fun _ => rfl
  rw [List.cons_append, eip2718Decode_cons]
  exact adaptExcept_of_ok (hread rest)

/-- A signed transaction is read back from its encoding, in front of anything. -/
theorem eip2718Decode_encode (hsize : (self.eip2718Encode signature).length < 2 ^ 64)
    (rest : Bytes) :
    eip2718Decode (self.eip2718Encode signature ++ rest) = .ok (self, signature) rest := by
  have hpayload := self.length_signedFields_lt signature hsize
  rw [eip2718Encode, rlpEncodeSigned_eq]
  rw [rlpEncodeFields, encodePayloadFields_eq] at hpayload ⊢
  exact self.eip2718Decode_fields signature
    (decodeOptionalSignature_encode self.feePayerSignature) hpayload rest

/-- The announced length is that of what is written. -/
theorem length_eq (hfields : self.rlpEncodeFields.length < 2 ^ 64) :
    self.length = self.encode.length := by
  have hlen : self.rlpEncodedFieldsLength = self.rlpEncodeFields.length :=
    self.payloadFieldsLength_eq self.feePayerSignature
  rw [length, Rlp.Header.lengthWithPayload, Rlp.Header.length_eq (hlen ▸ hfields), encode_eq,
    Rlp.encodeList, hlen, List.length_append]
  rfl

/-- Transactions, signed or not, survive the wire. The header of the list announces what follows it,
and lengths are computed as they are written. -/
theorem wire_roundTrip (keccak256 : Bytes → B256) (rest : Bytes)
    (hsize : (self.eip2718Encode signature).length < 2 ^ 64) :
    (decode (self.encode ++ rest) = .ok self rest ∧
        Rlp.Header.decode (self.encode ++ rest) =
          .ok { list := true, payloadLength := self.rlpEncodeFields.length }
            (self.rlpEncodeFields ++ rest) ∧
        self.length = self.encode.length) ∧
      ∃ decoded, eip2718Decode (self.eip2718Encode signature ++ rest) = .ok decoded rest ∧
        decoded = (self, signature) ∧
        decoded.1.txHash decoded.2 keccak256 = self.txHash signature keccak256 := by
  have hpayload := self.length_signedFields_lt signature hsize
  have hfields : self.rlpEncodeFields.length < 2 ^ 64 := by
    rw [List.length_append] at hpayload
    omega
  refine ⟨⟨?_, ?_, self.length_eq hfields⟩, (self, signature),
    self.eip2718Decode_encode signature hsize rest, rfl, rfl⟩
  · rw [encode_eq]
    exact Rlp.decodeRecord_encodeList
      (self.decodes_payloadFields self.feePayerSignature hfields) hfields rest
  · rw [encode_eq, Rlp.encodeList, List.append_assoc]
    exact Rlp.Header.decode_encode hfields (fun hlist => by cases hlist) rest

/-- A sponsored payment whose payload is longer than `55` bytes. -/
def wirePayment : EvNodeTransaction :=
  { chainId := 1
    nonce := 7
    maxPriorityFeePerGas := 1
    maxFeePerGas := 2
    gasLimit := 30000
    calls := [⟨.call 0xB0, 9, []⟩]
    accessList := []
    feePayerSignature := some ⟨1, 2, true⟩ }

/-- A sponsored payment round trips in front of another byte. -/
theorem wire_roundTrip_payment :
    55 < wirePayment.rlpEncodeFields.length ∧
      decode (wirePayment.encode ++ [0xFF]) = .ok wirePayment [0xFF] :=
  ⟨by decide, (wire_roundTrip wirePayment ⟨3, 4, false⟩ (fun _ => 0) [0xFF] (by decide)).1.1⟩

end EvNodeTransaction

/-! ## Canonicity -/

section Words

variable {w k : ℕ}

theorem pow_width (hw : w = 8 * k) : (256 : ℕ) ^ (w / 8) = 2 ^ w := by
  rw [show (256 : ℕ) = 2 ^ 8 from rfl, ← pow_mul]
  congr 1
  omega

/-- Words are read only as they are written. -/
theorem decodeWord_canonical (hw : w = 8 * k) : Canonical (decodeWord w) encodeWord := by
  intro buf x rest h
  obtain ⟨n, tail, hn, h⟩ := bind_eq_ok h
  obtain ⟨rfl, rfl⟩ := EStateM.Result.ok.inj h
  obtain ⟨hlt, rfl⟩ := Rlp.decodeUint_eq_ok hn
  rw [pow_width hw] at hlt
  rw [encodeWord, BitVec.toNat_ofNat, Nat.mod_eq_of_lt hlt]

/-- Bytes of the right number are those of the word that they make. -/
theorem wordBytes_wordOfBytes (hw : w = 8 * k) {bs : Bytes} (hlen : bs.length = w / 8) :
    wordBytes (wordOfBytes w bs) = bs := by
  have hlt := BigEndian.value_lt bs
  rw [hlen, pow_width hw] at hlt
  rw [wordBytes, wordOfBytes, BitVec.toNat_ofNat, Nat.mod_eq_of_lt hlt, ← hlen,
    BigEndian.fixed_value]

/-- Words of fixed length are read only as they are written. -/
theorem decodeFixed_canonical (hw : w = 8 * k) : Canonical (decodeFixed w) encodeFixed := by
  intro buf x rest h
  obtain ⟨bs, tail, hbs, h⟩ := bind_eq_ok h
  obtain ⟨rfl, rfl⟩ := EStateM.Result.ok.inj h
  obtain ⟨hlen, rfl⟩ := Rlp.decodeFixed_eq_ok hbs
  rw [encodeFixed, wordBytes_wordOfBytes hw hlen]

end Words

theorem TxKind.decode_canonical : Canonical TxKind.decode TxKind.encode := by
  intro buf kind rest h
  rw [TxKind.decode, bind_get] at h
  cases buf with
  | nil => cases h
  | cons first tail =>
    simp only at h
    by_cases hfirst : first = 0x80
    · subst hfirst
      simp only [if_true] at h
      obtain ⟨rfl, rfl⟩ := EStateM.Result.ok.inj h
      rfl
    · simp only [hfirst, if_false] at h
      obtain ⟨addr, tail', haddr, h⟩ := bind_eq_ok h
      obtain ⟨rfl, rfl⟩ := EStateM.Result.ok.inj h
      exact decodeFixed_canonical (k := 20) rfl haddr

/-- Calls are read only as they are written. -/
theorem Call.decode_canonical : Canonical Call.decode Call.encode := by
  refine Rlp.decodeRecord_canonical (show Canonical _ Call.encodeFields from ?_)
  intro buf call rest h
  obtain ⟨dest, buf₁, hdest, h⟩ := bind_eq_ok h
  obtain ⟨value, buf₂, hvalue, h⟩ := bind_eq_ok h
  obtain ⟨input, buf₃, hinput, h⟩ := bind_eq_ok h
  obtain ⟨rfl, rfl⟩ := EStateM.Result.ok.inj h
  rw [TxKind.decode_canonical hdest, decodeWord_canonical (k := 32) rfl hvalue,
    Rlp.decodeBytes_canonical hinput, Call.encodeFields]
  simp only [List.append_assoc]

theorem AccessListItem.decode_canonical :
    Canonical AccessListItem.decode AccessListItem.encode := by
  refine Rlp.decodeRecord_canonical (show Canonical _ AccessListItem.encodeFields from ?_)
  intro buf item rest h
  obtain ⟨address, buf₁, haddress, h⟩ := bind_eq_ok h
  obtain ⟨storageKeys, buf₂, hkeys, h⟩ := bind_eq_ok h
  obtain ⟨rfl, rfl⟩ := EStateM.Result.ok.inj h
  rw [decodeFixed_canonical (k := 20) rfl haddress,
    Rlp.decodeVec_canonical (decodeFixed_canonical (k := 32) rfl) hkeys,
    AccessListItem.encodeFields]
  simp only [List.append_assoc]

/-- Booleans are read only as they are written. -/
theorem decodeBool_canonical : Canonical decodeBool encodeBool := by
  intro buf b rest hdec
  obtain ⟨n, tail, hn, h⟩ := bind_eq_ok hdec
  obtain ⟨-, rfl⟩ := Rlp.decodeUint_eq_ok hn
  by_cases hzero : n = 0
  · rw [if_pos hzero] at h
    obtain ⟨rfl, rfl⟩ := EStateM.Result.ok.inj h
    rw [hzero, encodeBool, if_neg Bool.false_ne_true]
  · rw [if_neg hzero] at h
    by_cases hone : n = 1
    · rw [if_pos hone] at h
      obtain ⟨rfl, rfl⟩ := EStateM.Result.ok.inj h
      rw [hone, encodeBool, if_pos rfl]
    · rw [if_neg hone] at h
      cases h

/-- Signatures are read only as they are written. -/
theorem Signature.decodeRlpVrs_canonical :
    Canonical Signature.decodeRlpVrs Signature.writeRlpVrs := by
  intro buf signature rest h
  obtain ⟨yParity, buf₁, hparity, h⟩ := bind_eq_ok h
  obtain ⟨r, buf₂, hr, h⟩ := bind_eq_ok h
  obtain ⟨s, buf₃, hs, h⟩ := bind_eq_ok h
  obtain ⟨rfl, rfl⟩ := EStateM.Result.ok.inj h
  rw [decodeBool_canonical hparity, decodeWord_canonical (k := 32) rfl hr,
    decodeWord_canonical (k := 32) rfl hs, Signature.writeRlpVrs]
  simp only [List.append_assoc]

/-! ### The sponsor field -/

/-- The parity that is written back is that of the `v` value that was read. -/
theorem Signature.normalizeV_eq_some {v : UInt8} {yParity : Bool}
    (h : Signature.normalizeV v = some yParity) :
    (if yParity then 28 else 27) = v ↔ v = 27 ∨ v = 28 := by
  constructor
  · rintro rfl
    cases yParity <;> decide
  · rintro (rfl | rfl)
    · obtain rfl := Option.some.inj h
      rfl
    · obtain rfl := Option.some.inj h
      rfl

/-- The `65` bytes of a signature are two words and a `v` value. -/
theorem Signature.rawBytes_eq {raw : Bytes} (hlen : raw.length = 65) :
    wordBytes (wordOfBytes 256 (raw.take 32)) ++
      (wordBytes (wordOfBytes 256 ((raw.drop 32).take 32)) ++ [raw.getD 64 0]) = raw := by
  have hr : (raw.take 32).length = 32 := by
    rw [List.length_take]
    omega
  have hs : ((raw.drop 32).take 32).length = 32 := by
    rw [List.length_take, List.length_drop]
    omega
  have hlast : raw.drop 64 = [raw.getD 64 0] := by
    rw [List.drop_eq_getElem_cons (by omega), List.drop_eq_nil_of_le (by omega),
      List.getD_eq_getElem?_getD, List.getElem?_eq_getElem (by omega), Option.getD_some]
  rw [wordBytes_wordOfBytes (k := 32) rfl hr, wordBytes_wordOfBytes (k := 32) rfl hs, ← hlast,
    show 64 = 32 + 32 from rfl, ← List.drop_drop, List.take_append_drop, List.take_append_drop]

/-- A signature is written back as it was read exactly if its `v` value was `27` or `28`. -/
theorem Signature.asBytes_eq_iff {raw : Bytes} {signature : Signature} (hlen : raw.length = 65)
    (h : Signature.fromRawArray raw = some signature) :
    signature.asBytes = raw ↔ raw.getD 64 0 = 27 ∨ raw.getD 64 0 = 28 := by
  unfold Signature.fromRawArray at h
  obtain ⟨yParity, hparity, rfl⟩ := Option.map_eq_some_iff.mp h
  have hraw := Signature.rawBytes_eq hlen
  rw [← Signature.normalizeV_eq_some hparity, Signature.asBytes]
  constructor
  · intro heq
    have hcancel := List.append_cancel_left (List.append_cancel_left (heq.trans hraw.symm))
    exact (List.cons.inj hcancel).1
  · intro hv
    rw [hv]
    exact hraw

/-- The sponsor field is a string that is read as a signature or as none. -/
theorem decodeOptionalSignature_eq_ok {buf rest : Bytes} {signature : Option Signature}
    (hdec : decodeOptionalSignature buf = .ok signature rest) :
    ∃ raw, Rlp.decodeBytes buf = .ok raw rest ∧ SponsorFieldReads raw signature := by
  obtain ⟨raw, tail, hraw, h⟩ := bind_eq_ok hdec
  -- nothing, or exactly 65 bytes
  cases raw with
  | nil =>
    obtain ⟨rfl, rfl⟩ := EStateM.Result.ok.inj h
    exact ⟨[], hraw, .absent⟩
  | cons b bs =>
    by_cases hlen : (b :: bs).length = 65
    · cases hsig : Signature.fromRawArray (b :: bs) with
      | none =>
        simp only [List.isEmpty_cons, hlen, hsig] at h
        cases h
      | some sig =>
        simp only [List.isEmpty_cons, hlen, hsig] at h
        obtain ⟨rfl, rfl⟩ := EStateM.Result.ok.inj h
        exact ⟨b :: bs, hraw, .present hlen hsig⟩
    · simp only [List.isEmpty_cons, Bool.false_eq_true, if_false, hlen, ne_eq, not_false_eq_true,
        if_true] at h
      cases h

variable {raw : Bytes} {signature : Option Signature}

/-- What is written for the sponsor is as long as what was read. -/
theorem SponsorFieldReads.length_eq (h : SponsorFieldReads raw signature) :
    (encodeOptionalSignature signature).length = (Rlp.encodeBytes raw).length := by
  cases h with
  | absent => rfl
  | @present raw signature hlen h =>
    have hbytes := signature.length_asBytes
    rw [encodeOptionalSignature, Rlp.encodeBytes_of_length_ne_one (by omega),
      Rlp.encodeBytes_of_length_ne_one (by omega), hlen, hbytes, List.length_append,
      List.length_append, hlen, hbytes]

/-- What is written for the sponsor is what was read, exactly if the field was empty or its `v`
value one of the two that are written. -/
theorem SponsorFieldReads.encode_eq_iff (h : SponsorFieldReads raw signature) :
    encodeOptionalSignature signature = Rlp.encodeBytes raw ↔
      raw = [] ∨ raw.getD 64 0 = 27 ∨ raw.getD 64 0 = 28 := by
  cases h with
  | absent => exact iff_of_true rfl (.inl rfl)
  | @present raw signature hlen h =>
    have hbytes := signature.length_asBytes
    have hne : raw ≠ [] := by
      rintro rfl
      cases hlen
    rw [encodeOptionalSignature, or_iff_right hne, ← Signature.asBytes_eq_iff hlen h]
    refine ⟨fun heq => ?_, fun heq => by rw [heq]⟩
    exact (Rlp.decodeBytes_encodeBytes (by omega)).eq_of_eq
      (Rlp.decodeBytes_encodeBytes (by omega)) heq

namespace EvNodeTransaction

/-- The content of the sponsor field, the eighth item behind the list header. -/
def sponsorField : Decoder Bytes := do
  let _ ← Rlp.Header.decode
  Rlp.skipItems 7
  Rlp.decodeBytes

/-- The sponsor field of an encoded transaction, signed or not, is empty or ends in one of the two
`v` values that are written. -/
def SponsorFieldWritten (bytes : Bytes) : Prop :=
  match sponsorField bytes with
  | .ok raw _ => raw = [] ∨ raw.getD 64 0 = 27 ∨ raw.getD 64 0 = 28
  | .error _ _ => False

instance (bytes : Bytes) : Decidable (SponsorFieldWritten bytes) := by
  unfold SponsorFieldWritten
  split <;> infer_instance

theorem readsItem_decodeWord (w : ℕ) : ReadsItem (decodeWord w) :=
  (Rlp.readsItem_decodeUint (w / 8)).bind fun h => (EStateM.Result.ok.inj h).2.symm

/-- Fields that are accepted are those of the transaction, up to the content of the sponsor
field. -/
theorem rlpDecodeFields_eq_ok {buf rest : Bytes} {t : EvNodeTransaction}
    (hdec : rlpDecodeFields buf = .ok t rest) :
    ∃ raw mid, Rlp.skipItems 7 buf = .ok () mid ∧ Rlp.decodeBytes mid = .ok raw rest ∧
      SponsorFieldReads raw t.feePayerSignature ∧
      buf = t.unsponsoredFields ++ Rlp.encodeBytes raw ++ rest := by
  obtain ⟨chainId, buf₁, h₁, hdec⟩ := bind_eq_ok hdec
  obtain ⟨nonce, buf₂, h₂, hdec⟩ := bind_eq_ok hdec
  obtain ⟨maxPriorityFeePerGas, buf₃, h₃, hdec⟩ := bind_eq_ok hdec
  obtain ⟨maxFeePerGas, buf₄, h₄, hdec⟩ := bind_eq_ok hdec
  obtain ⟨gasLimit, buf₅, h₅, hdec⟩ := bind_eq_ok hdec
  obtain ⟨calls, buf₆, h₆, hdec⟩ := bind_eq_ok hdec
  obtain ⟨accessList, buf₇, h₇, hdec⟩ := bind_eq_ok hdec
  obtain ⟨signature, buf₈, h₈, hdec⟩ := bind_eq_ok hdec
  obtain ⟨rfl, rfl⟩ := EStateM.Result.ok.inj hdec
  obtain ⟨raw, hraw, hreads⟩ := decodeOptionalSignature_eq_ok h₈
  refine ⟨raw, buf₇, ?_, hraw, hreads, ?_⟩
  -- seven items are skipped as they were read
  · refine Rlp.skipItems_succ_of_ok (readsItem_decodeWord 64 h₁) ?_
    refine Rlp.skipItems_succ_of_ok (readsItem_decodeWord 64 h₂) ?_
    refine Rlp.skipItems_succ_of_ok (readsItem_decodeWord 128 h₃) ?_
    refine Rlp.skipItems_succ_of_ok (readsItem_decodeWord 128 h₄) ?_
    refine Rlp.skipItems_succ_of_ok (readsItem_decodeWord 64 h₅) ?_
    refine Rlp.skipItems_succ_of_ok (Rlp.readsItem_decodeVec _ h₆) ?_
    exact Rlp.skipItems_succ_of_ok (Rlp.readsItem_decodeVec _ h₇) rfl
  · rw [decodeWord_canonical (k := 8) rfl h₁, decodeWord_canonical (k := 8) rfl h₂,
      decodeWord_canonical (k := 16) rfl h₃, decodeWord_canonical (k := 16) rfl h₄,
      decodeWord_canonical (k := 8) rfl h₅, Rlp.decodeVec_canonical Call.decode_canonical h₆,
      Rlp.decodeVec_canonical AccessListItem.decode_canonical h₇,
      Rlp.decodeBytes_canonical hraw]
    simp only [unsponsoredFields, List.append_assoc]

/-- The sponsor field of an accepted record is found by skipping the fields before it. -/
theorem sponsorField_eq {header : Rlp.Header} {buf started mid raw rest : Bytes}
    (hheader : Rlp.Header.decode buf = .ok header started)
    (hskip : Rlp.skipItems 7 started = .ok () mid) (hraw : Rlp.decodeBytes mid = .ok raw rest) :
    sponsorField buf = .ok raw rest :=
  (bind_of_ok hheader).trans ((bind_of_ok hskip).trans hraw)

/-- A record of the eight fields and more is written back as it was read, exactly if its sponsor
field is. -/
theorem encodeList_eq_iff {t : EvNodeTransaction} {raw more : Bytes}
    (hreads : SponsorFieldReads raw t.feePayerSignature) :
    Rlp.encodeList (t.encodePayloadFields t.feePayerSignature ++ more) =
        Rlp.encodeList (t.unsponsoredFields ++ Rlp.encodeBytes raw ++ more) ↔
      raw = [] ∨ raw.getD 64 0 = 27 ∨ raw.getD 64 0 = 28 := by
  have hlen : (t.encodePayloadFields t.feePayerSignature ++ more).length =
      (t.unsponsoredFields ++ Rlp.encodeBytes raw ++ more).length := by
    simp only [encodePayloadFields_eq, List.length_append, hreads.length_eq]
  rw [Rlp.encodeList_inj_of_length hlen, List.append_cancel_right_eq, encodePayloadFields_eq,
    List.append_cancel_left_eq, hreads.encode_eq_iff]

/-- A transaction that is accepted is written back as it was received, exactly if its sponsor field
is. -/
theorem encode_eq_iff_of_decode {bytes : Bytes} {t : EvNodeTransaction}
    (h : decode bytes = .ok t []) : t.encode = bytes ↔ SponsorFieldWritten bytes := by
  obtain ⟨header, started, hlist, hheader, hfields, hconsumed⟩ := Rlp.decodeRecord_eq_ok h
  obtain ⟨raw, mid, hskip, hraw, hreads, rfl⟩ := rlpDecodeFields_eq_ok hfields
  have hbytes := Rlp.decodeRecord_payload hlist hheader hconsumed
  rw [SponsorFieldWritten, sponsorField_eq hheader hskip hraw, encode_eq, hbytes, List.append_nil]
  have hiff : Rlp.encodeList (t.encodePayloadFields t.feePayerSignature ++ []) =
      Rlp.encodeList (t.unsponsoredFields ++ Rlp.encodeBytes raw ++ []) ↔ _ :=
    encodeList_eq_iff hreads
  simpa only [List.append_nil] using hiff

/-- What is decoded begins with the type byte. -/
theorem eip2718Decode_eq_ok {bytes rest : Bytes} {signed : EvNodeTransaction × Signature}
    (h : eip2718Decode bytes = .ok signed rest) :
    bytes = evnodeTxTypeId :: bytes.tail ∧
      rlpDecodeWithSignature bytes.tail = .ok signed rest := by
  rw [eip2718Decode, bind_get] at h
  cases bytes with
  | nil => cases h
  | cons ty tail =>
    by_cases hty : ty = evnodeTxTypeId
    · subst hty
      cases hread : rlpDecodeWithSignature tail with
      | ok a buf =>
        have h' := (adaptExcept_of_ok (g := Eip2718Error.rlpError) hread).symm.trans h
        obtain ⟨rfl, rfl⟩ := EStateM.Result.ok.inj h'
        exact ⟨rfl, hread⟩
      | error e buf =>
        have h' := (adaptExcept_of_error (g := Eip2718Error.rlpError) hread).symm.trans h
        cases h'
    · simp only [ne_eq, hty, not_false_eq_true, if_true] at h
      cases h

/-- The same for a signed transaction. -/
theorem eip2718Encode_eq_iff_of_decode {bytes : Bytes} {t : EvNodeTransaction}
    {signature : Signature} (h : eip2718Decode bytes = .ok (t, signature) []) :
    t.eip2718Encode signature = bytes ↔ SponsorFieldWritten bytes.tail := by
  obtain ⟨htype, hrecord⟩ := eip2718Decode_eq_ok h
  obtain ⟨header, started, hlist, hheader, hread, hconsumed⟩ := Rlp.decodeRecord_eq_ok hrecord
  -- the fields, then the executor's signature
  obtain ⟨t', buf₁, hfields, hread⟩ := bind_eq_ok hread
  obtain ⟨signature', buf₂, hvrs, hread⟩ := bind_eq_ok hread
  obtain ⟨hpair, rfl⟩ := EStateM.Result.ok.inj hread
  obtain ⟨rfl, rfl⟩ := Prod.mk.inj hpair
  obtain ⟨raw, mid, hskip, hraw, hreads, rfl⟩ := rlpDecodeFields_eq_ok hfields
  obtain rfl := Signature.decodeRlpVrs_canonical hvrs
  rw [← List.append_assoc] at hheader hconsumed
  have hbytes := Rlp.decodeRecord_payload hlist hheader hconsumed
  rw [List.append_nil] at hbytes
  rw [← List.append_assoc] at hskip
  rw [SponsorFieldWritten, sponsorField_eq hheader hskip hraw, eip2718Encode, rlpEncodeSigned_eq,
    htype, hbytes, List.cons_inj_right]
  exact encodeList_eq_iff hreads

/-- What is accepted is written back as it was received, and hashed as it was received, exactly if
the sponsor field is empty or ends in `27` or `28`. Every other part of the format has one form. -/
theorem decode_canonical_iff (keccak256 : Bytes → B256) (bytes : Bytes) :
    (∀ t, decode bytes = .ok t [] → (t.encode = bytes ↔ SponsorFieldWritten bytes)) ∧
      ∀ t signature, eip2718Decode bytes = .ok (t, signature) [] →
        (t.eip2718Encode signature = bytes ↔ SponsorFieldWritten bytes.tail) ∧
          (SponsorFieldWritten bytes.tail → t.txHash signature keccak256 = keccak256 bytes) := by
  refine ⟨fun t h => encode_eq_iff_of_decode h, fun t signature h => ?_⟩
  have hiff := eip2718Encode_eq_iff_of_decode h
  exact ⟨hiff, fun hwritten => congrArg keccak256 (hiff.mpr hwritten)⟩

/-- The bytes of the sponsored payment, for the last byte of its sponsor field. -/
def paymentBytes (v : UInt8) : Bytes :=
  [0xF8, 100, 1, 7, 1, 2, 0x82, 0x75, 0x30] ++
    ([0xD8, 0xD7, 0x94] ++ List.replicate 19 0 ++ [0xB0, 9, 0x80]) ++ [0xC0] ++
    ([0xB8, 65] ++ List.replicate 31 0 ++ [1] ++ List.replicate 31 0 ++ [2, v])

/-- With `28` as the last byte, the payment is received as it is written. -/
theorem decode_canonical_payment :
    decode (paymentBytes 28) = .ok wirePayment [] ∧ SponsorFieldWritten (paymentBytes 28) ∧
      wirePayment.encode = paymentBytes 28 := by
  have hread : decode (paymentBytes 28) = .ok wirePayment [] := rfl
  have hwritten : SponsorFieldWritten (paymentBytes 28) := by decide +kernel
  exact ⟨hread, hwritten, ((decode_canonical_iff (fun _ => 0) (paymentBytes 28)).1 wirePayment
    hread).mpr hwritten⟩

/-- With `1`, it is received as the same transaction and written in another way. -/
theorem decode_not_canonical :
    decode (paymentBytes 1) = .ok wirePayment [] ∧ wirePayment.encode ≠ paymentBytes 1 :=
  ⟨rfl, by decide +kernel⟩

end EvNodeTransaction

end EvReth
