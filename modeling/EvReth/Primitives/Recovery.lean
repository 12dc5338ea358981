import EvReth.Primitives.Wire

/-!
# Recovery of signers

`recover_signer` of the transaction envelope and the recovery of executor and sponsor of an EvNode
transaction (`crates/ev-primitives/src/tx.rs`). Every signature has a complement with the same `r`,
the other parity and the other square root `n - s`. The standard transactions of the envelope accept
at most one of the two; EvNode transactions accept both.
-/

namespace EvReth

/-- The cryptography that the node calls. -/
structure Crypto where
  keccak256 : Bytes → B256
  /-- The address of the key that signed a hash, given a signature of two scalars with low `s`. -/
  recoverKey : B256 → Signature → Option Address

/-- The order of secp256k1. -/
def secp256k1N : U256 := 0xFFFFFFFFFFFFFFFFFFFFFFFFFFFFFFFEBAAEDCE6AF48A03BBFD25E8CD0364141

/-- `SECP256K1N_HALF`. -/
def secp256k1NHalf : U256 := 0x7FFFFFFFFFFFFFFFFFFFFFFFFFFFFFFF5D576E7357A4501DDFE92F46681B20A0

namespace Signature

variable (self : Signature)

/-- The other signature of the same message by the same key. -/
def complement : Signature :=
  { self with s := secp256k1N - self.s, yParity := !self.yParity }

/-- `normalized_s`: the one of the two signatures with low `s`. -/
def normalizedS : Signature :=
  if secp256k1NHalf.toNat < self.s.toNat then self.complement else self

/-- `to_k256` accepts the signature: both parts are scalars other than zero. -/
def IsScalarPair : Prop :=
  (0 < self.r.toNat ∧ self.r.toNat < secp256k1N.toNat) ∧
    0 < self.s.toNat ∧ self.s.toNat < secp256k1N.toNat

instance : Decidable self.IsScalarPair := by
  unfold IsScalarPair
  infer_instance

/-- `recover_address_from_prehash`. -/
def recoverAddressFromPrehash (crypto : Crypto) (prehash : B256) : Option Address :=
  let this := self.normalizedS
  if this.IsScalarPair then crypto.recoverKey prehash this else none

end Signature

namespace EvNodeTransaction

variable (self : EvNodeTransaction) (crypto : Crypto)

/-- `executor_signing_hash`. -/
def executorSigningHash : B256 := crypto.keccak256 self.executorPreimage

/-- `sponsor_signing_hash`. -/
def sponsorSigningHash (executor : Address) : B256 :=
  crypto.keccak256 (self.sponsorPreimage executor)

/-- `recover_executor`. -/
def recoverExecutor (signature : Signature) : Option Address :=
  signature.recoverAddressFromPrehash crypto (self.executorSigningHash crypto)

/-- `recover_sponsor`. -/
def recoverSponsor (executor : Address) (signature : Signature) : Option Address :=
  signature.recoverAddressFromPrehash crypto (self.sponsorSigningHash crypto executor)

end EvNodeTransaction

/-- `recover_signer` of a standard transaction: EIP-2 forbids high `s`. -/
def EthereumTransaction.recoverSigner {Payload : TxType → Type} (crypto : Crypto)
    (signingFields : (ty : TxType) → Payload ty → Bytes) (tx : EthereumTransaction Payload) :
    Option Address :=
  if secp256k1NHalf.toNat < tx.signature.s.toNat then none
  else tx.signature.recoverAddressFromPrehash crypto
    (crypto.keccak256 (tx.encodeForSigning signingFields))

/-- `recover_signer`. -/
def EvTxEnvelope.recoverSigner {Payload : TxType → Type} (crypto : Crypto)
    (signingFields : (ty : TxType) → Payload ty → Bytes) : EvTxEnvelope Payload → Option Address
  | .ethereum tx => tx.recoverSigner crypto signingFields
  | .evNode tx signature =>
    signature.recoverAddressFromPrehash crypto (tx.executorSigningHash crypto)

/-! ## Complementary signatures -/

namespace Signature

variable {self : Signature} {crypto : Crypto} {prehash : B256} {a : Address}

theorem toNat_secp256k1N : secp256k1N.toNat = 2 * secp256k1NHalf.toNat + 1 := by
  decide +kernel

/-- `n - s` wraps around when `s` is not below `n`, and then is not below `n` either. -/
theorem lt_of_toNat_sub {n s : U256} (hpos : 0 < (n - s).toNat) (hlt : (n - s).toNat < n.toNat) :
    s.toNat < n.toNat := by
  have hn := n.isLt
  have hs := s.isLt
  rw [BitVec.toNat_sub] at hpos hlt
  omega

/-- The low form of a signature is a pair of scalars only if `s` was a scalar. -/
theorem toNat_s_of_isScalarPair (h : self.normalizedS.IsScalarPair) :
    self.s.toNat < secp256k1N.toNat := by
  unfold normalizedS at h
  split_ifs at h with hhigh
  · exact lt_of_toNat_sub h.2.1 h.2.2
  · exact h.2.2

/-- The complement of a signature has the other `s`. -/
theorem toNat_complement_s (h : self.s.toNat < secp256k1N.toNat) :
    self.complement.s.toNat = secp256k1N.toNat - self.s.toNat :=
  BitVec.toNat_sub_of_fits h.le

/-- The complement of the complement is the signature. -/
theorem complement_complement : self.complement.complement = self := by
  have hs : secp256k1N - (secp256k1N - self.s) = self.s := by
    rw [BitVec.sub_eq_iff_eq_add, BitVec.add_comm, BitVec.sub_add_cancel]
  rw [complement, complement, hs, Bool.not_not]

/-- The order is odd, so exactly one of a signature and its complement is high. -/
theorem high_complement_iff (hlt : self.s.toNat < secp256k1N.toNat) :
    secp256k1NHalf.toNat < self.complement.s.toNat ↔ ¬ secp256k1NHalf.toNat < self.s.toNat := by
  have horder := toNat_secp256k1N
  rw [toNat_complement_s hlt]
  generalize secp256k1N.toNat = n at *
  generalize secp256k1NHalf.toNat = half at *
  omega

/-- A signature and its complement have one low form. -/
theorem normalizedS_complement (hlt : self.s.toNat < secp256k1N.toNat) :
    self.complement.normalizedS = self.normalizedS := by
  have hiff := high_complement_iff hlt
  unfold normalizedS
  by_cases hhigh : secp256k1NHalf.toNat < self.s.toNat
  · rw [if_pos hhigh, if_neg (mt hiff.mp (not_not_intro hhigh))]
  · rw [if_neg hhigh, if_pos (hiff.mpr hhigh), complement_complement]

/-- A recovered address is recovered from the complement too. -/
theorem recoverAddressFromPrehash_complement
    (h : self.recoverAddressFromPrehash crypto prehash = some a) :
    self.complement.recoverAddressFromPrehash crypto prehash = some a := by
  unfold recoverAddressFromPrehash at h ⊢
  by_cases hscalars : self.normalizedS.IsScalarPair
  · rw [normalizedS_complement (toNat_s_of_isScalarPair hscalars)]
    exact h
  · simp only [hscalars, if_false] at h
    cases h

end Signature

namespace EvTxEnvelope

variable {Payload : TxType → Type} {crypto : Crypto}
  {signingFields : (ty : TxType) → Payload ty → Bytes}

/-- The signer of an EvNode transaction is recovered from the executor's hash. -/
theorem recoverSigner_evNode (tx : EvNodeTransaction) (signature : Signature) :
    recoverSigner crypto signingFields (.evNode tx signature) =
      signature.recoverAddressFromPrehash crypto (tx.executorSigningHash crypto) := rfl

/-- Of a standard transaction, the complement of an accepted signature is refused. -/
theorem ethereum_complement_refused {tx : EthereumTransaction Payload} {a : Address}
    (h : recoverSigner crypto signingFields (.ethereum tx) = some a) :
    recoverSigner crypto signingFields
      (.ethereum { tx with signature := tx.signature.complement }) = none := by
  simp only [recoverSigner, EthereumTransaction.recoverSigner] at h ⊢
  split_ifs at h with hlow
  have hscalars : tx.signature.normalizedS.IsScalarPair := by
    by_contra hnot
    simp only [Signature.recoverAddressFromPrehash, hnot, if_false] at h
    cases h
  have hlt := Signature.toNat_s_of_isScalarPair hscalars
  rw [if_pos ((Signature.high_complement_iff hlt).mpr hlow)]

/-- Of an EvNode transaction, the complement of an accepted signature is accepted, for the same
signer and the same payload but with other bytes to be hashed. -/
theorem evNode_complement_accepted {tx : EvNodeTransaction} {signature : Signature} {a : Address}
    (hsize : (tx.eip2718Encode signature).length < 2 ^ 64)
    (hsize' : (tx.eip2718Encode signature.complement).length < 2 ^ 64)
    (h : recoverSigner crypto signingFields (.evNode tx signature) = some a) :
    recoverSigner crypto signingFields (.evNode tx signature.complement) = some a ∧
      tx.eip2718Encode signature.complement ≠ tx.eip2718Encode signature := by
  rw [recoverSigner_evNode] at h ⊢
  refine ⟨Signature.recoverAddressFromPrehash_complement h, fun heq => ?_⟩
  -- equal bytes would be read back to equal signatures
  have hread := tx.eip2718Decode_encode signature hsize []
  rw [← heq, tx.eip2718Decode_encode signature.complement hsize' []] at hread
  have hsignature := (Prod.mk.inj (EStateM.Result.ok.inj hread).1).2
  have hparity : (!signature.yParity) = signature.yParity := congrArg Signature.yParity hsignature
  exact Bool.not_ne_self _ hparity

/-- A signature with `r` and `s` equal to one. -/
def unitSignature : Signature := { r := 1, s := 1, yParity := false }

/-- The sender of `wirePayment` under the signature `unitSignature`. -/
def paymentSender : Address := 0x4dd80d954b3e6c96f8f5997a4987ba603ab8f35e

/-- The sponsor of `wirePayment` if it is sent by `paymentSender`. -/
def paymentSponsor : Address := 0xab2957a62ef5b6d39e0448ae69d60420e96b4ca6

/-- Hash and recovery as they are at the two signatures of `wirePayment`. -/
def paymentCrypto : Crypto :=
  { keccak256 := fun bytes =>
      if bytes = EvNodeTransaction.wirePayment.executorPreimage then
        0x30ff476c8c0fd70b0054b4a11293012e8effbf6e1163f44e295b3d4ec5d472d4
      else if bytes = EvNodeTransaction.wirePayment.sponsorPreimage paymentSender then
        0x62f3319c8070c5bbc673eefa13721037dca4bcb38cc5ccc620a315fbe74bbe76
      else 0
    recoverKey := fun prehash signature =>
      if prehash = 0x30ff476c8c0fd70b0054b4a11293012e8effbf6e1163f44e295b3d4ec5d472d4 ∧
          signature = unitSignature then
        some paymentSender
      else if prehash = 0x62f3319c8070c5bbc673eefa13721037dca4bcb38cc5ccc620a315fbe74bbe76 ∧
          signature = ⟨1, 2, true⟩ then
        some paymentSponsor
      else none }

/-- The signer of `wirePayment` under a signature. -/
def paymentSigner (signature : Signature) : Option Address :=
  recoverSigner paymentCrypto (fun _ fields => fields)
    (.evNode EvNodeTransaction.wirePayment signature : EvTxEnvelope fun _ => Bytes)

/-- The complement of `unitSignature` is accepted. -/
theorem complement_accepted_payment :
    paymentSigner unitSignature.complement = some paymentSender := by
  have h : paymentSigner unitSignature = some paymentSender := by decide +kernel
  exact (evNode_complement_accepted (by decide +kernel) (by decide +kernel) h).1

/-- Two signatures, two byte strings, one signer. -/
theorem both_signatures_accepted :
    paymentSigner unitSignature = some paymentSender ∧
      paymentSigner unitSignature.complement = some paymentSender ∧
      EvNodeTransaction.wirePayment.eip2718Encode unitSignature.complement ≠
        EvNodeTransaction.wirePayment.eip2718Encode unitSignature := by
  decide +kernel

end EvTxEnvelope

end EvReth
