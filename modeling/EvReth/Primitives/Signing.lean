import EvReth.Foundations.RlpCanonical
import EvReth.Primitives.Encoding

/-!
# Signing preimages

What the two signatures of an EvNode transaction are over (`crates/ev-primitives/src/tx.rs`). The
executor signs the transaction with an empty sponsor field as an RLP list; the sponsor signs the
executor's address and the same fields without a list header. Each preimage begins with a byte of
its own, so that no signature is valid for another purpose.
-/

namespace EvReth

open Rlp (Decodes)

namespace EvNodeTransaction

variable (self : EvNodeTransaction)

/-- `encoded_payload`. -/
def encodedPayload (feePayerSignature : Option Signature) : Bytes :=
  Rlp.Header.encode
      { list := true, payloadLength := self.payloadFieldsLength feePayerSignature } ++
    self.encodePayloadFields feePayerSignature

/-- `encoded_payload_with_executor`. -/
def encodedPayloadWithExecutor (executor : Address) : Bytes :=
  -- the sponsor field is left empty here too
  wordBytes executor ++ self.encodePayloadFields none

/-- The bytes that `executor_signing_hash` hashes. -/
def executorPreimage : Bytes := evnodeTxTypeId :: self.encodedPayload none

/-- The bytes that `sponsor_signing_hash` hashes. -/
def sponsorPreimage (executor : Address) : Bytes :=
  evnodeSponsorDomain :: self.encodedPayloadWithExecutor executor

/-- `encode_for_signing`. -/
def encodeForSigning : Bytes :=
  let payloadLen := self.payloadFieldsLength none
  [evnodeTxTypeId] ++ Rlp.Header.encode { list := true, payloadLength := payloadLen } ++
    self.encodePayloadFields none

/-- `payload_len_for_signature`. -/
def payloadLenForSignature : ℕ :=
  1 + Rlp.Header.lengthWithPayload
    { list := true, payloadLength := self.payloadFieldsLength none }

end EvNodeTransaction

/-- The byte in front of a standard transaction; a legacy one has none. -/
def TxType.typeByte : TxType → Bytes
  | .legacy => []
  | .eip2930 => [0x01]
  | .eip1559 => [0x02]
  | .eip4844 => [0x03]
  | .eip7702 => [0x04]

/-- `encode_for_signing` of a standard transaction, given the encodings of the fields to be signed
in a row. -/
def EthereumTransaction.encodeForSigning {Payload : TxType → Type}
    (signingFields : (ty : TxType) → Payload ty → Bytes) (tx : EthereumTransaction Payload) :
    Bytes :=
  tx.txType.typeByte ++ Rlp.encodeList (signingFields tx.txType tx.tx)

namespace EvNodeTransaction

variable (self : EvNodeTransaction)

/-! ## The executor's preimage -/

/-- The two encoders of the executor's preimage write the same bytes. -/
theorem executorPreimage_eq_encodeForSigning : self.executorPreimage = self.encodeForSigning := by
  rw [executorPreimage, encodedPayload, encodeForSigning, List.append_assoc,
    List.singleton_append]

theorem executorPreimage_eq :
    self.executorPreimage = evnodeTxTypeId :: Rlp.encodeList (self.encodePayloadFields none) := by
  rw [executorPreimage, encodedPayload, payloadFieldsLength_eq, Rlp.encodeList]

/-- A sponsor field is never written as nothing. -/
theorem encodeOptionalSignature_ne_nil (feePayerSignature : Option Signature) :
    encodeOptionalSignature feePayerSignature ≠ [] := by
  cases feePayerSignature with
  | none => exact List.cons_ne_nil _ _
  | some signature => exact Rlp.encodeBytes_ne_nil signature.asBytes

/-- An empty sponsor field is the shortest one. -/
theorem length_encodePayloadFields_none_le (feePayerSignature : Option Signature) :
    (self.encodePayloadFields none).length ≤
      (self.encodePayloadFields feePayerSignature).length := by
  have hnone : (encodeOptionalSignature none).length = 1 := rfl
  have hpos := List.length_pos_iff.mpr (encodeOptionalSignature_ne_nil feePayerSignature)
  simp only [encodePayloadFields, List.length_append]
  omega

/-- A transaction that can be encoded can be signed. -/
theorem length_encodePayloadFields_none_lt (hsize : self.encode.length < 2 ^ 64) :
    (self.encodePayloadFields none).length < 2 ^ 64 := by
  rw [encode_eq] at hsize
  have hle := self.length_encodePayloadFields_none_le self.feePayerSignature
  have hlist := Rlp.length_le_encodeList (self.encodePayloadFields self.feePayerSignature)
  omega

/-- The text for signing is as long as it says. -/
theorem length_encodeForSigning (hsize : self.encode.length < 2 ^ 64) :
    self.encodeForSigning.length = self.payloadLenForSignature := by
  have hfields := self.length_encodePayloadFields_none_lt hsize
  have hheader : Rlp.Header.length ⟨true, (self.encodePayloadFields none).length⟩ =
      (Rlp.Header.encode ⟨true, (self.encodePayloadFields none).length⟩).length :=
    Rlp.Header.length_eq hfields
  rw [encodeForSigning, payloadLenForSignature, Rlp.Header.lengthWithPayload,
    payloadFieldsLength_eq, hheader]
  simp only [List.length_append, List.length_singleton]
  omega

/-! ## What the preimages determine -/

/-- The fields, written in a row with an empty sponsor field, determine the transaction up to the
sponsor's signature. -/
theorem eq_of_encodePayloadFields_none {t t' : EvNodeTransaction}
    (hsize : t.encode.length < 2 ^ 64) (hsize' : t'.encode.length < 2 ^ 64)
    (h : t.encodePayloadFields none = t'.encodePayloadFields none) :
    t' = { t with feePayerSignature := t'.feePayerSignature } := by
  have hread := t.decodes_payloadFields none (t.length_encodePayloadFields_none_lt hsize)
  have hread' := t'.decodes_payloadFields none (t'.length_encodePayloadFields_none_lt hsize')
  have heq := hread.eq_of_eq hread' h
  obtain ⟨chainId, nonce, maxPriorityFeePerGas, maxFeePerGas, gasLimit, calls, accessList, sig⟩ :=
    t'
  simp only [EvNodeTransaction.mk.injEq] at heq ⊢
  obtain ⟨h₁, h₂, h₃, h₄, h₅, h₆, h₇, -⟩ := heq
  exact ⟨h₁.symm, h₂.symm, h₃.symm, h₄.symm, h₅.symm, h₆.symm, h₇.symm, trivial⟩

/-- What the executor signs fixes the transaction but for its sponsor. -/
theorem eq_of_executorPreimage {t t' : EvNodeTransaction} (hsize : t.encode.length < 2 ^ 64)
    (hsize' : t'.encode.length < 2 ^ 64) (h : t.executorPreimage = t'.executorPreimage) :
    t' = { t with feePayerSignature := t'.feePayerSignature } := by
  rw [executorPreimage_eq, executorPreimage_eq] at h
  -- the two lists are read back to the same payload
  have hread := Rlp.decodePayload_encodeList (t.length_encodePayloadFields_none_lt hsize)
  have hread' := Rlp.decodePayload_encodeList (t'.length_encodePayloadFields_none_lt hsize')
  exact eq_of_encodePayloadFields_none hsize hsize' (hread.eq_of_eq hread' (List.cons.inj h).2)

/-- What the sponsor signs fixes the executor, and the transaction but for the sponsor's own
signature. -/
theorem eq_of_sponsorPreimage {t t' : EvNodeTransaction} {e e' : Address}
    (hsize : t.encode.length < 2 ^ 64) (hsize' : t'.encode.length < 2 ^ 64)
    (h : t.sponsorPreimage e = t'.sponsorPreimage e') :
    e = e' ∧ t' = { t with feePayerSignature := t'.feePayerSignature } := by
  -- the executor takes up twenty bytes, and the fields are all that follows
  have hlen : (wordBytes e).length = (wordBytes e').length := by
    rw [length_wordBytes, length_wordBytes]
  obtain ⟨hexecutor, hfields⟩ := List.append_inj (List.cons.inj h).2 hlen
  refine ⟨?_, eq_of_encodePayloadFields_none hsize hsize' hfields⟩
  rw [← wordOfBytes_wordBytes (k := 20) rfl e, hexecutor, wordOfBytes_wordBytes (k := 20) rfl e']

/-! ## Domains -/

/-- No text is signed in both roles. -/
theorem executorPreimage_ne_sponsorPreimage (t t' : EvNodeTransaction) (e : Address) :
    t.executorPreimage ≠ t'.sponsorPreimage e := by
  intro h
  have hdomain : evnodeTxTypeId = evnodeSponsorDomain := (List.cons.inj h).1
  exact absurd hdomain (by decide)

/-- A list header is never the type byte of an EvNode transaction. -/
theorem head?_encodeList_ne (payload : Bytes) :
    (Rlp.encodeList payload).head? ≠ some evnodeTxTypeId := by
  unfold Rlp.encodeList Rlp.Header.encode
  have hle := BigEndian.length_minimal_le 8 payload.length
  simp only [if_true]
  split_ifs with hshort
  · simp only [List.singleton_append, List.head?_cons, ne_eq, Option.some.injEq]
    intro h
    have hbyte := congrArg UInt8.toNat h
    rw [UInt8.toNat_ofNat'] at hbyte
    simp only [evnodeTxTypeId, UInt8.reduceToNat] at hbyte
    omega
  · simp only [List.cons_append, List.head?_cons, ne_eq, Option.some.injEq]
    intro h
    have hbyte := congrArg UInt8.toNat h
    rw [UInt8.toNat_ofNat'] at hbyte
    simp only [evnodeTxTypeId, UInt8.reduceToNat] at hbyte
    omega

/-- No text of a standard transaction is signed for an EvNode transaction. -/
theorem executorPreimage_ne_encodeForSigning {Payload : TxType → Type}
    (signingFields : (ty : TxType) → Payload ty → Bytes) (t : EvNodeTransaction)
    (tx : EthereumTransaction Payload) :
    t.executorPreimage ≠ tx.encodeForSigning signingFields := by
  intro h
  have hhead := congrArg List.head? h
  obtain ⟨ty, payload, signature⟩ := tx
  cases ty with
  -- a legacy transaction begins with a list header, any other with its type
  | legacy => exact head?_encodeList_ne _ hhead.symm
  | eip2930 | eip1559 | eip4844 | eip7702 =>
    have htype := Option.some.inj hhead
    exact absurd htype (by decide)

/-! ## The binding of signatures -/

/-- Each preimage determines all that its signer is to agree to, and serves no other purpose. -/
theorem preimages_bind {Payload : TxType → Type}
    (signingFields : (ty : TxType) → Payload ty → Bytes) (t t' : EvNodeTransaction)
    (e e' : Address) (hsize : t.encode.length < 2 ^ 64) (hsize' : t'.encode.length < 2 ^ 64) :
    ((∀ signature, { t with feePayerSignature := signature }.executorPreimage =
          t.executorPreimage) ∧
        t.executorPreimage = t.encodeForSigning ∧
        t.encodeForSigning.length = t.payloadLenForSignature ∧
        (t.executorPreimage = t'.executorPreimage →
          t' = { t with feePayerSignature := t'.feePayerSignature })) ∧
      (t.sponsorPreimage e = t'.sponsorPreimage e' →
        e = e' ∧ t' = { t with feePayerSignature := t'.feePayerSignature }) ∧
      t.executorPreimage ≠ t'.sponsorPreimage e' ∧
      ∀ tx : EthereumTransaction Payload,
        t.executorPreimage ≠ tx.encodeForSigning signingFields := by
  refine ⟨⟨fun _ => rfl, t.executorPreimage_eq_encodeForSigning, t.length_encodeForSigning hsize,
    eq_of_executorPreimage hsize hsize'⟩, eq_of_sponsorPreimage hsize hsize',
    executorPreimage_ne_sponsorPreimage t t' e', ?_⟩
  exact executorPreimage_ne_encodeForSigning signingFields t

/-- A payment with an access list. -/
def signedPayment : EvNodeTransaction :=
  { chainId := 1
    nonce := 7
    maxPriorityFeePerGas := 1
    maxFeePerGas := 2
    gasLimit := 30000
    calls := [⟨.call 0x05, 9, []⟩]
    accessList := [⟨0x05, [3]⟩]
    feePayerSignature := none }

/-- The sponsor of one payment has not agreed to another with a higher nonce. -/
theorem preimages_bind_payment :
    signedPayment.sponsorPreimage 0xCA ≠
      { signedPayment with nonce := 8 }.sponsorPreimage 0xCA := by
  intro h
  have hbound := (preimages_bind (fun _ (fields : Bytes) => fields) signedPayment
    { signedPayment with nonce := 8 } 0xCA 0xCA (by decide) (by decide)).2.1 h
  exact absurd (congrArg nonce hbound.2) (by decide)

end EvNodeTransaction

end EvReth
