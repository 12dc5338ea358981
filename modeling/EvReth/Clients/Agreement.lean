import EvReth.Clients.Representation

/-!
# The client and the node

What the client signs and sends (`clients/src/encoding.ts`) against what the node hashes and reads
(`crates/ev-primitives/src/tx.rs`).

The two sign the same bytes and read each other's transactions. They write the same bytes, and so
compute the same transaction hash, only up to the sponsor's signature: the client ends it in `0` or
`1`, the node in `27` or `28`.
-/

namespace EvReth.Clients

variable {viem : Viem}

/-! ## What is signed and sent -/

/-- Hex strings of bytes are put together as the bytes are. -/
theorem concat_map_ofBytes (parts : List Bytes) :
    concat (parts.map Hex.ofBytes) = Hex.ofBytes parts.flatten := by
  induction parts with
  | nil => rfl
  | cons bs parts ih =>
    rw [List.flatten_cons, Hex.ofBytes_append, ← ih]
    rfl

theorem concat_cons (b : UInt8) (bs : Bytes) :
    concat [Hex.ofBytes [b], Hex.ofBytes bs] = Hex.ofBytes (b :: bs) :=
  concat_map_ofBytes [[b], bs] |>.trans (by simp)

/-- What is signed has an empty sponsor field. -/
theorem buildPayloadFields_false (tx : EvNodeTransaction) :
    buildPayloadFields viem tx false = .ok (payloadFields tx (.leaf (Hex.ofBytes []))) := by
  unfold buildPayloadFields sponsorField
  cases tx.feePayerSignature <;> rfl

section Signed

variable {tx : EvNodeTransaction} {nodeTx : EvReth.EvNodeTransaction}

/-- The executor signs the bytes that the node hashes. -/
theorem executorSigningPreimage_eq (h : tx.Represents nodeTx) :
    executorSigningPreimage viem tx = .ok (Hex.ofBytes nodeTx.executorPreimage) := by
  rw [executorSigningPreimage, buildPayloadFields_false, nodeTx.executorPreimage_eq,
    nodeTx.encodePayloadFields_eq]
  show Except.ok (concat [txTypeHex, Hex.ofBytes (Rlp.Item.encode _ _)]) = _
  rw [Rlp.Item.encode, h.encodeAll_payloadFields, txTypeHex, concat_cons]
  rfl

/-- The sponsor signs the bytes that the node hashes. -/
theorem sponsorSigningPreimage_eq (h : tx.Represents nodeTx) (executor : Address) :
    sponsorSigningPreimage viem tx (wordHex executor) =
      .ok (Hex.ofBytes (nodeTx.sponsorPreimage executor)) := by
  have hfields : concat ((payloadFields tx (.leaf (Hex.ofBytes []))).map toRlp) =
      Hex.ofBytes (nodeTx.encodePayloadFields none) := by
    have hconcat := concat_map_ofBytes
      ((payloadFields tx (.leaf (Hex.ofBytes []))).map (Rlp.Item.encode Hex.toBytes))
    rw [List.map_map, ← List.flatMap_def, ← Rlp.Item.encodeAll_eq_flatMap,
      h.encodeAll_payloadFields] at hconcat
    rw [nodeTx.encodePayloadFields_eq]
    exact hconcat
  rw [sponsorSigningPreimage, encodePayloadFieldsNoList, buildPayloadFields_false]
  show Except.ok (concat [sponsorDomainHex, wordHex executor,
    concat ((payloadFields tx (.leaf (Hex.ofBytes []))).map toRlp)]) = _
  rw [hfields]
  -- the domain byte, the executor's address and the fields
  have hconcat := concat_map_ofBytes
    [[evnodeSponsorDomain], wordBytes executor, nodeTx.encodePayloadFields none]
  refine congrArg Except.ok (hconcat.trans ?_)
  rw [List.flatten_cons, List.flatten_cons, List.flatten_cons, List.flatten_nil, List.append_nil,
    List.singleton_append]
  rfl

/-- A signed transaction is sent with its fields, a sponsor field that the node reads and the
executor's signature. -/
theorem encodeSignedTransaction_eq (h : tx.Represents nodeTx) {signature : Signature}
    {sig : EvReth.Signature}
    (hnormalized : normalizeSignature viem signature = .ok (.ofNode sig)) :
    ∃ raw, encodeSignedTransaction viem ⟨tx, signature⟩ = .ok (Hex.ofBytes (evnodeTxTypeId ::
        Rlp.encodeList (nodeTx.unsponsoredFields ++ Rlp.encodeBytes raw ++ sig.writeRlpVrs))) ∧
      SponsorFieldReads raw nodeTx.feePayerSignature ∧
      (raw = [] ∨ raw.getD 64 0 = 27 ∨ raw.getD 64 0 = 28 ↔ tx.SponsorAsWritten) := by
  obtain ⟨raw, hsponsor, hreads, hwritten⟩ := h.sponsorField_eq viem
  refine ⟨raw, ?_, hreads, hwritten⟩
  rw [encodeSignedTransaction, buildPayloadFields, hsponsor, hnormalized]
  show Except.ok (concat [txTypeHex, Hex.ofBytes (Rlp.Item.encode _ _)]) = _
  rw [h.encode_signed, txTypeHex, concat_cons]

end Signed

/-! ## What is received -/

/-- What is read back from a value that was written: strings of whole bytes. -/
def received (value : RlpValue) : RlpValue := (value.map Hex.toBytes).map Hex.ofBytes

theorem received_leaf (hex : Hex) : received (.leaf hex) = .leaf (Hex.ofBytes (Hex.toBytes hex)) :=
  rfl

theorem received_ofBytes (bs : Bytes) :
    received (.leaf (Hex.ofBytes bs)) = .leaf (Hex.ofBytes bs) := by
  rw [received_leaf, Hex.toBytes_ofBytes]

theorem received_wordHex {w : ℕ} (x : BitVec w) :
    received (.leaf (wordHex x)) = .leaf (wordHex x) := by
  rw [wordHex, received_ofBytes]

theorem received_list (items : List RlpValue) :
    received (.list items) = .list (items.map received) := by
  rw [received, Rlp.Item.map, Rlp.Item.map, Rlp.Item.mapAll_eq_map, Rlp.Item.mapAll_eq_map,
    List.map_map]
  rfl

/-- Values are read back. -/
theorem Viem.Lawful.fromRlp_toRlp (hviem : viem.Lawful) {value : RlpValue}
    (hsize : (value.encode Hex.toBytes).length < 2 ^ 64) :
    viem.fromRlp (Hex.ofBytes (value.encode Hex.toBytes)) = .ok (received value) := by
  have hbytes : (value.map Hex.toBytes).encode id = value.encode Hex.toBytes :=
    Rlp.Item.encode_map id Hex.toBytes value
  rw [← hbytes] at hsize ⊢
  exact hviem.fromRlp _ hsize

/-- Numbers are received as they are sent. -/
theorem hexToBigIntSafe_received (n : ℕ) :
    hexToBigIntSafe (received (.leaf (rlpHexFromBigInt n))) = .ok n := by
  have hvalue : Hex.value (rlpHexFromBigInt n) = n := by
    unfold rlpHexFromBigInt
    split_ifs with hzero
    · rw [hzero]
      rfl
    · exact Hex.value_ofNat n
  rw [received_leaf, hexToBigIntSafe_leaf, Hex.value_ofBytes, Hex.value_toBytes, hvalue]

/-- A call is received as it is sent. -/
theorem decodeCall_received (call : EvReth.Call) :
    decodeCall (received (encodeCall (Call.ofNode call))) = .ok (Call.ofNode call) := by
  -- an empty destination is received as a creation, and no address is empty
  have hdest : ∃ hex, received (.leaf ((destHex call.dest).getD [])) = .leaf hex ∧
      (if hex = [] then none else some hex) = destHex call.dest := by
    cases call.dest with
    | create => exact ⟨[], rfl, rfl⟩
    | call addr =>
      have hne : wordHex addr ≠ [] := by
        intro hnil
        have hlen := congrArg List.length hnil
        rw [wordHex, Hex.length_ofBytes, length_wordBytes] at hlen
        cases hlen
      refine ⟨wordHex addr, ?_, ?_⟩
      · rw [destHex, Option.getD_some, received_wordHex]
      · rw [if_neg hne, destHex]
  obtain ⟨hex, hreceived, hdest⟩ := hdest
  have hvalue := hexToBigIntSafe_received call.value.toNat
  rw [received_leaf] at hvalue
  rw [encodeCall, received_list]
  simp only [List.map_cons, List.map_nil, Call.ofNode, hreceived, received_ofBytes]
  rw [received_leaf, decodeCall, hvalue, ← hdest]
  rfl

/-- An item of an access list is received as it is sent. -/
theorem decodeAccessListItem_received (item : EvReth.AccessListItem) :
    decodeAccessListItem (received (encodeAccessListItem (AccessListItem.ofNode item))) =
      .ok (AccessListItem.ofNode item) := by
  have hkeys : ((item.storageKeys.map wordHex).map Rlp.Item.leaf).map received =
      item.storageKeys.map fun key => .leaf (wordHex key) := by
    rw [List.map_map, List.map_map]
    exact List.map_congr_left fun key _ => received_wordHex key
  have hread : (item.storageKeys.map fun key => Rlp.Item.leaf (wordHex key)).mapM
      decodeStorageKey = .ok (item.storageKeys.map wordHex) :=
    Except.mapM_map_eq_ok (fun key => by rw [decodeStorageKey]) _
  rw [encodeAccessListItem, received_list]
  simp only [List.map_cons, List.map_nil, AccessListItem.ofNode, received_list, received_wordHex,
    hkeys]
  rw [decodeAccessListItem, hread]
  rfl

theorem decodeCalls_received (calls : List EvReth.Call) :
    decodeCalls (received (.list (encodeCalls (calls.map Call.ofNode)))) =
      .ok (calls.map Call.ofNode) := by
  rw [received_list, decodeCalls, encodeCalls, List.map_map, List.map_map]
  exact Except.mapM_map_eq_ok decodeCall_received calls

theorem decodeAccessList_received (accessList : EvReth.AccessList) :
    decodeAccessList (received (.list (encodeAccessList (accessList.map AccessListItem.ofNode)))) =
      .ok (accessList.map AccessListItem.ofNode) := by
  rw [received_list, decodeAccessList, encodeAccessList, List.map_map, List.map_map]
  exact Except.mapM_map_eq_ok decodeAccessListItem_received accessList

/-- The parts of a signature are read back. -/
theorem signatureFromParts_received (sig : EvReth.Signature) :
    signatureFromParts (received (.leaf (rlpHexFromBigInt (parityNumber sig.yParity))))
        (received (.leaf (rlpHexFromBigInt (hexToBigInt (wordHex sig.r)))))
        (received (.leaf (rlpHexFromBigInt (hexToBigInt (wordHex sig.s))))) =
      .ok (.object (.ofNode sig)) := by
  have hparity := hexToBigIntSafe_received (parityNumber sig.yParity)
  -- a word that was written without leading zeros is padded again
  have hword : ∀ x : U256, padTo32Bytes (Hex.ofBytes (Hex.toBytes (rlpHexFromBigInt
      (hexToBigInt (wordHex x))))) = .ok (wordHex x) := by
    intro x
    have hvalue := hexToBigIntSafe_received x.toNat
    rw [received_leaf, hexToBigIntSafe_leaf] at hvalue
    rw [hexToBigInt, value_wordHex (k := 32) rfl]
    exact padTo32Bytes_eq (Except.ok.inj hvalue)
  rw [received_leaf] at hparity
  rw [received_leaf, received_leaf, received_leaf, signatureFromParts, hparity]
  show (if _ then _ else _) = _
  rw [if_neg (parityNumber_valid sig.yParity), hword, hword]
  rfl

/-- The bytes of a signature are read back. -/
theorem signatureFromBytes_asBytes (sig : EvReth.Signature) :
    signatureFromBytes (Hex.ofBytes sig.asBytes) = .ok (.object (.ofNode sig)) := by
  have htake : sig.asBytes.take 32 = wordBytes sig.r := take_signatureBytes sig _
  have hdrop : (sig.asBytes.drop 32).take 32 = wordBytes sig.s := take_drop_signatureBytes sig _
  have hlast : sig.asBytes.getD 64 0 = if sig.yParity then 28 else 27 :=
    getD_signatureBytes sig _
  have hv : (if (sig.asBytes.getD 64 0).toNat = 27 ∨ (sig.asBytes.getD 64 0).toNat = 28 then
      (sig.asBytes.getD 64 0).toNat - 27 else (sig.asBytes.getD 64 0).toNat) =
      parityNumber sig.yParity := by
    rw [hlast]
    cases sig.yParity <;> rfl
  have hword : ∀ x : U256, padTo32Bytes (Hex.ofBytes (wordBytes x)) = .ok (wordHex x) :=
    fun x => padTo32Bytes_eq (value_wordHex (k := 32) rfl x)
  unfold signatureFromBytes
  simp only [Hex.toBytes_ofBytes, sig.length_asBytes, hv, htake, hdrop, hword,
    if_neg (parityNumber_valid sig.yParity)]
  rfl

/-- The sponsor field that the node writes. -/
theorem decodeSignature_received (feePayerSignature : Option EvReth.Signature) :
    ∃ raw, encodeOptionalSignature feePayerSignature = Rlp.encodeBytes raw ∧
      decodeSignature (received (.leaf (Hex.ofBytes raw))) =
        .ok (feePayerSignature.map fun sig => .object (.ofNode sig)) := by
  cases feePayerSignature with
  | none => exact ⟨[], rfl, rfl⟩
  | some sig =>
    refine ⟨sig.asBytes, rfl, ?_⟩
    have hread := signatureFromBytes_asBytes sig
    rw [received_ofBytes]
    cases hhex : Hex.ofBytes sig.asBytes with
    | nil =>
      have hlen := congrArg List.length hhex
      rw [Hex.length_ofBytes, sig.length_asBytes] at hlen
      cases hlen
    | cons d hex =>
      rw [hhex] at hread
      rw [decodeSignature, hread]
      · rfl
      · exact List.cons_ne_nil d hex

/-- The fields of a signed transaction are read back. -/
theorem decodeFields_received (nodeTx : EvReth.EvNodeTransaction) (sig : EvReth.Signature)
    {sponsor : RlpValue} (hsponsor : decodeSignature (received sponsor) =
      .ok (nodeTx.feePayerSignature.map fun sig => .object (.ofNode sig))) :
    decodeFields (received (.list
        (payloadFields (.ofNode nodeTx) sponsor ++ signatureFields (.ofNode sig)))) =
      .ok ⟨.ofNode nodeTx, .object (.ofNode sig)⟩ := by
  rw [received_list, payloadFields, signatureFields]
  simp only [List.cons_append, List.nil_append, List.map_cons, List.map_nil,
    EvNodeTransaction.ofNode, NormalizedSignature.ofNode]
  rw [decodeFields, hexToBigIntSafe_received, hexToBigIntSafe_received, hexToBigIntSafe_received,
    hexToBigIntSafe_received, hexToBigIntSafe_received, decodeCalls_received,
    decodeAccessList_received, hsponsor, signatureFromParts_received]
  rfl

/-- The client reads what the node writes. -/
theorem decodeEvNodeTransaction_encode (hviem : viem.Lawful) (nodeTx : EvReth.EvNodeTransaction)
    (sig : EvReth.Signature) (hsize : (nodeTx.eip2718Encode sig).length < 2 ^ 64) :
    decodeEvNodeTransaction viem (Hex.ofBytes (nodeTx.eip2718Encode sig)) =
      .ok ⟨.ofNode nodeTx, .object (.ofNode sig)⟩ := by
  obtain ⟨raw, hfield, hsponsor⟩ := decodeSignature_received nodeTx.feePayerSignature
  -- the client would have written the same bytes for the same sponsor field
  have hbytes : nodeTx.rlpEncodeSigned sig =
      (Rlp.Item.list (payloadFields (.ofNode nodeTx) (.leaf (Hex.ofBytes raw)) ++
        signatureFields (.ofNode sig))).encode Hex.toBytes := by
    rw [(EvNodeTransaction.represents_ofNode nodeTx).encode_signed, nodeTx.rlpEncodeSigned_eq,
      EvReth.EvNodeTransaction.rlpEncodeFields, nodeTx.encodePayloadFields_eq, hfield]
  rw [EvReth.EvNodeTransaction.eip2718Encode, hbytes] at hsize ⊢
  have hread := hviem.fromRlp_toRlp (Nat.lt_of_succ_lt hsize)
  rw [decodeEvNodeTransaction, Hex.toBytes_ofBytes, List.head?_cons, List.drop_one, List.tail_cons,
    if_neg (fun htype => htype rfl)]
  exact Except.bind_eq_ok_iff.mpr ⟨_, hread, decodeFields_received nodeTx sig hsponsor⟩

/-! ## Agreement -/

section Agreement

variable {tx : EvNodeTransaction} {nodeTx : EvReth.EvNodeTransaction} {signature : Signature}
  {sig : EvReth.Signature} {hex : Hex}

/-- What the client sends, whichever form the executor's signature has. -/
theorem encodeSignedTransaction_eq_ok (hviem : viem.Lawful) (htx : tx.Represents nodeTx)
    (hsig : signature.Denotes sig)
    (hhex : encodeSignedTransaction viem ⟨tx, signature⟩ = .ok hex) :
    ∃ raw, Hex.toBytes hex = evnodeTxTypeId ::
        Rlp.encodeList (nodeTx.unsponsoredFields ++ Rlp.encodeBytes raw ++ sig.writeRlpVrs) ∧
      SponsorFieldReads raw nodeTx.feePayerSignature ∧
      (raw = [] ∨ raw.getD 64 0 = 27 ∨ raw.getD 64 0 = 28 ↔ tx.SponsorAsWritten) := by
  have hnormalized : normalizeSignature viem signature = .ok (.ofNode sig) := by
    obtain ⟨_, -, hhex⟩ := Except.bind_eq_ok_iff.mp hhex
    obtain ⟨normalized, hnormalized, -⟩ := Except.bind_eq_ok_iff.mp hhex
    rw [hnormalized, normalizeSignature_eq_ok hviem hsig hnormalized]
  obtain ⟨raw, hencode, hreads, hwritten⟩ := encodeSignedTransaction_eq htx hnormalized
  obtain rfl := Except.ok.inj (hhex.symm.trans hencode)
  exact ⟨raw, Hex.toBytes_ofBytes _, hreads, hwritten⟩

/-- What the client sends is read by the node. -/
theorem eip2718Decode_encodeSignedTransaction (hviem : viem.Lawful) (htx : tx.Represents nodeTx)
    (hsig : signature.Denotes sig)
    (hhex : encodeSignedTransaction viem ⟨tx, signature⟩ = .ok hex)
    (hsize : (Hex.toBytes hex).length < 2 ^ 64) :
    EvReth.EvNodeTransaction.eip2718Decode (Hex.toBytes hex) = .ok (nodeTx, sig) [] := by
  obtain ⟨raw, hbytes, hreads, -⟩ := encodeSignedTransaction_eq_ok hviem htx hsig hhex
  have hpayload : (nodeTx.unsponsoredFields ++ Rlp.encodeBytes raw ++ sig.writeRlpVrs).length <
      2 ^ 64 := by
    have hle := Rlp.length_le_encodeList
      (nodeTx.unsponsoredFields ++ Rlp.encodeBytes raw ++ sig.writeRlpVrs)
    rw [hbytes, List.length_cons] at hsize
    omega
  have hread := nodeTx.eip2718Decode_fields sig hreads.decodes hpayload []
  rwa [List.append_nil, ← hbytes] at hread

/-- The client sends the bytes that the node writes exactly if it was handed the sponsor's signature
in the form in which the node writes it. -/
theorem toBytes_eq_eip2718Encode_iff (hviem : viem.Lawful) (htx : tx.Represents nodeTx)
    (hsig : signature.Denotes sig)
    (hhex : encodeSignedTransaction viem ⟨tx, signature⟩ = .ok hex) :
    Hex.toBytes hex = nodeTx.eip2718Encode sig ↔ tx.SponsorAsWritten := by
  obtain ⟨raw, hbytes, hreads, hwritten⟩ := encodeSignedTransaction_eq_ok hviem htx hsig hhex
  rw [hbytes, EvReth.EvNodeTransaction.eip2718Encode, nodeTx.rlpEncodeSigned_eq,
    List.cons_inj_right, eq_comm, ← hwritten]
  exact EvReth.EvNodeTransaction.encodeList_eq_iff hreads

end Agreement

/-- The client and the node sign the same bytes and read each other's transactions. -/
theorem signing_and_wire_agree (hviem : viem.Lawful) (keccak256 : Bytes → B256) :
    (∀ tx : EvNodeTransaction, tx.InRange → ∃ nodeTx, tx.Represents nodeTx) ∧
      (∀ (tx : EvNodeTransaction) (nodeTx : EvReth.EvNodeTransaction), tx.Represents nodeTx →
        ((executorSigningPreimage viem tx).map Hex.toBytes = .ok nodeTx.executorPreimage ∧
          computeExecutorSigningHash viem keccak256 tx =
            .ok (keccak256 nodeTx.executorPreimage)) ∧
        ∀ executor : Address,
          (sponsorSigningPreimage viem tx (wordHex executor)).map Hex.toBytes =
            .ok (nodeTx.sponsorPreimage executor) ∧
          computeSponsorSigningHash viem keccak256 tx (wordHex executor) =
            .ok (keccak256 (nodeTx.sponsorPreimage executor))) ∧
      (∀ (tx : EvNodeTransaction) (nodeTx : EvReth.EvNodeTransaction) (signature : Signature)
        (sig : EvReth.Signature), tx.Represents nodeTx → signature.Denotes sig →
        ((∃ parsed, signature = .object parsed) →
          ∃ hex, encodeSignedTransaction viem ⟨tx, signature⟩ = .ok hex) ∧
        ∀ hex, encodeSignedTransaction viem ⟨tx, signature⟩ = .ok hex →
          (Hex.toBytes hex).length < 2 ^ 64 →
          EvReth.EvNodeTransaction.eip2718Decode (Hex.toBytes hex) = .ok (nodeTx, sig) []) ∧
      ∀ (nodeTx : EvReth.EvNodeTransaction) (sig : EvReth.Signature),
        (nodeTx.eip2718Encode sig).length < 2 ^ 64 →
        ∃ signedTx, decodeEvNodeTransaction viem (Hex.ofBytes (nodeTx.eip2718Encode sig)) =
            .ok signedTx ∧
          signedTx.transaction.Represents nodeTx ∧ signedTx.executorSignature.Denotes sig := by
  refine ⟨fun tx h => h.exists_represents, fun tx nodeTx htx => ⟨?_, fun executor => ?_⟩,
    fun tx nodeTx signature sig htx hsig => ⟨?_, ?_⟩, fun nodeTx sig hsize => ?_⟩
  · rw [computeExecutorSigningHash, executorSigningPreimage_eq htx]
    simp only [Except.map, Hex.toBytes_ofBytes, and_self]
  · rw [computeSponsorSigningHash, sponsorSigningPreimage_eq htx]
    simp only [Except.map, Hex.toBytes_ofBytes, and_self]
  · rintro ⟨parsed, rfl⟩
    -- a signature that is an object is always encoded, one that is text is parsed by viem
    cases hsig with
    | object hdenotes =>
      obtain ⟨_, hencode, -, -⟩ :=
        encodeSignedTransaction_eq htx (normalizeSignature_object viem hdenotes)
      exact ⟨_, hencode⟩
  · exact fun hex hhex hsize =>
      eip2718Decode_encodeSignedTransaction hviem htx hsig hhex hsize
  · exact ⟨_, decodeEvNodeTransaction_encode hviem nodeTx sig hsize,
      EvNodeTransaction.represents_ofNode nodeTx, .object (SignatureObject.denotes_ofNode sig)⟩

/-- A viem that reads values with the decoder for them and takes a signature apart at its words. -/
def Viem.reference : Viem where
  fromRlp hex :=
    match Rlp.Item.decode (Hex.toBytes hex).length (Hex.toBytes hex) with
    | .ok item _ => .ok (item.map Hex.ofBytes)
    | .error _ _ => .error "Invalid RLP"
  hexToSignature hex :=
    let bytes := Hex.toBytes hex
    let r := Hex.ofBytes (bytes.take 32)
    let s := Hex.ofBytes ((bytes.drop 32).take 32)
    let yParityOrV := bytes.getD 64 0
    if yParityOrV = 0 ∨ yParityOrV = 1 then
      .ok { r, s, yParity := some yParityOrV.toNat, v := none }
    else if yParityOrV = 27 ∨ yParityOrV = 28 then
      .ok { r, s, yParity := some (yParityOrV.toNat - 27), v := some yParityOrV.toNat }
    else .error "Invalid yParityOrV value"

theorem Viem.reference_lawful : Viem.reference.Lawful where
  fromRlp item hsize := by
    have hread := @Rlp.Item.decodes_encode _ item le_rfl hsize []
    rw [List.append_nil] at hread
    unfold Viem.reference
    simp only [Hex.toBytes_ofBytes, hread]
  hexToSignature hdenotes hok := by
    obtain ⟨v, hparity, hhex⟩ := hdenotes.string_inv
    unfold Viem.reference at hok
    simp only [hhex, Hex.toBytes_ofBytes, getD_signatureBytes, take_signatureBytes,
      take_drop_signatureBytes] at hok
    have hword : ∀ x : U256, Hex.value (Hex.ofBytes (wordBytes x)) = x.toNat := by
      intro x
      rw [← wordHex, value_wordHex (k := 32) rfl]
    -- the number is the last byte, in one of the two places
    split_ifs at hok with hlow hhigh
    · obtain rfl := Except.ok.inj hok
      refine ⟨?_, by simp only [hword], by simp only [hword]⟩
      simp only [Option.none_or, Option.bind_some]
      exact parityOf_toNat hparity (hlow.imp_right .inl)
    · obtain rfl := Except.ok.inj hok
      refine ⟨?_, by simp only [hword], by simp only [hword]⟩
      simp only [Option.some_or, Option.bind_some]
      exact parityOf_toNat hparity (.inr (.inr hhigh))

/-- The bytes of the sponsored payment, signed by the executor, for the last byte of its sponsor
field. -/
def signedPaymentBytes (v : UInt8) : Bytes :=
  [evnodeTxTypeId, 0xF8, 103] ++ (EvReth.EvNodeTransaction.paymentBytes v).drop 2 ++ [0x80, 3, 4]

/-- With a signature object for the sponsor, the client ends the sponsor field in `1`. -/
theorem encodeSignedTransaction_payment :
    encodeSignedTransaction .reference
        ⟨.ofNode EvReth.EvNodeTransaction.wirePayment, .object (.ofNode ⟨3, 4, false⟩)⟩ =
      .ok (Hex.ofBytes (signedPaymentBytes 1)) := by
  decide +kernel

/-- The executor and the sponsor of a payment sign what the node hashes, the node reads what the
client sends and the client what the node writes. -/
theorem signing_and_wire_agree_payment :
    (executorSigningPreimage .reference (.ofNode EvReth.EvNodeTransaction.wirePayment)).map
        Hex.toBytes = .ok EvReth.EvNodeTransaction.wirePayment.executorPreimage ∧
      (sponsorSigningPreimage .reference (.ofNode EvReth.EvNodeTransaction.wirePayment)
        (wordHex (0xCA : Address))).map Hex.toBytes =
        .ok (EvReth.EvNodeTransaction.wirePayment.sponsorPreimage 0xCA) ∧
      EvReth.EvNodeTransaction.eip2718Decode (signedPaymentBytes 1) =
        .ok (EvReth.EvNodeTransaction.wirePayment, ⟨3, 4, false⟩) [] ∧
      ∃ signedTx, decodeEvNodeTransaction .reference
          (Hex.ofBytes (EvReth.EvNodeTransaction.wirePayment.eip2718Encode ⟨3, 4, false⟩)) =
          .ok signedTx ∧
        signedTx.transaction.Represents EvReth.EvNodeTransaction.wirePayment := by
  obtain ⟨-, hsigning, hsent, hread⟩ :=
    signing_and_wire_agree Viem.reference_lawful (fun _ => 0)
  have htx := EvNodeTransaction.represents_ofNode EvReth.EvNodeTransaction.wirePayment
  obtain ⟨⟨hexecutor, -⟩, hsponsor⟩ := hsigning _ _ htx
  have hreceived := (hsent _ _ _ _ htx
    (.object (SignatureObject.denotes_ofNode ⟨3, 4, false⟩))).2 _ encodeSignedTransaction_payment
  rw [Hex.toBytes_ofBytes] at hreceived
  obtain ⟨signedTx, hdecode, hrepresents, -⟩ :=
    hread EvReth.EvNodeTransaction.wirePayment ⟨3, 4, false⟩ (by decide)
  exact ⟨hexecutor, (hsponsor 0xCA).1, hreceived (by decide +kernel), signedTx, hdecode,
    hrepresents⟩

/-- The client computes the hash of the node exactly if it was handed no sponsor signature, or one
in the form in which the node writes it. The node reads the transaction in any case. -/
theorem txHash_agrees_iff (hviem : viem.Lawful) (keccak256 : Bytes → B256)
    {tx : EvNodeTransaction} {nodeTx : EvReth.EvNodeTransaction} {signature : Signature}
    {sig : EvReth.Signature} {hex : Hex} (htx : tx.Represents nodeTx)
    (hsig : signature.Denotes sig)
    (hhex : encodeSignedTransaction viem ⟨tx, signature⟩ = .ok hex)
    (hsize : (Hex.toBytes hex).length < 2 ^ 64) :
    EvReth.EvNodeTransaction.eip2718Decode (Hex.toBytes hex) = .ok (nodeTx, sig) [] ∧
      (Hex.toBytes hex = nodeTx.eip2718Encode sig ∧
          computeTxHash viem keccak256 ⟨tx, signature⟩ = .ok (nodeTx.txHash sig keccak256) ↔
        tx.SponsorAsWritten) := by
  refine ⟨eip2718Decode_encodeSignedTransaction hviem htx hsig hhex hsize, ?_⟩
  rw [← toBytes_eq_eip2718Encode_iff hviem htx hsig hhex]
  refine ⟨fun h => h.1, fun hbytes => ⟨hbytes, ?_⟩⟩
  rw [computeTxHash, hhex, EvReth.EvNodeTransaction.txHash, ← hbytes]
  rfl

/-- The payment with the bytes of its sponsor's signature. -/
def stringPayment (v : UInt8) : EvNodeTransaction :=
  { EvNodeTransaction.ofNode EvReth.EvNodeTransaction.wirePayment with
    feePayerSignature := some (.string (Hex.ofBytes (wordBytes (1 : U256) ++
      (wordBytes (2 : U256) ++ [v])))) }

/-- With the `65` bytes of the sponsor's signature as the node writes them, the hashes are the
same. -/
theorem txHash_agrees_payment :
    (stringPayment 28).SponsorAsWritten ∧
      computeTxHash .reference (fun bytes => BitVec.ofNat 256 (BigEndian.value bytes))
          ⟨stringPayment 28, .object (.ofNode ⟨3, 4, false⟩)⟩ =
        .ok (EvReth.EvNodeTransaction.wirePayment.txHash ⟨3, 4, false⟩
          fun bytes => BitVec.ofNat 256 (BigEndian.value bytes)) := by
  have htx : (stringPayment 28).Represents EvReth.EvNodeTransaction.wirePayment :=
    { EvNodeTransaction.represents_ofNode EvReth.EvNodeTransaction.wirePayment with
      feePayerSignature := .some (@Signature.Denotes.string 28 ⟨1, 2, true⟩ rfl) }
  have hhex : encodeSignedTransaction .reference
      ⟨stringPayment 28, .object (.ofNode ⟨3, 4, false⟩)⟩ =
      .ok (Hex.ofBytes (signedPaymentBytes 28)) := by decide +kernel
  have hwritten : (stringPayment 28).SponsorAsWritten := by
    rintro _ ⟨⟩
    decide +kernel
  exact ⟨hwritten, ((txHash_agrees_iff Viem.reference_lawful _ htx
    (.object (SignatureObject.denotes_ofNode ⟨3, 4, false⟩)) hhex
    (by decide +kernel)).2.mpr hwritten).2⟩

/-- With a signature object for the same sponsor, the node reads the same transaction, and its hash
is that of other bytes. -/
theorem txHash_differs :
    ∃ hex, encodeSignedTransaction .reference
        ⟨.ofNode EvReth.EvNodeTransaction.wirePayment, .object (.ofNode ⟨3, 4, false⟩)⟩ = .ok hex ∧
      EvReth.EvNodeTransaction.eip2718Decode (Hex.toBytes hex) =
        .ok (EvReth.EvNodeTransaction.wirePayment, ⟨3, 4, false⟩) [] ∧
      Hex.toBytes hex ≠ EvReth.EvNodeTransaction.wirePayment.eip2718Encode ⟨3, 4, false⟩ ∧
      ∃ keccak256 : Bytes → B256, computeTxHash .reference keccak256
          ⟨.ofNode EvReth.EvNodeTransaction.wirePayment, .object (.ofNode ⟨3, 4, false⟩)⟩ ≠
        .ok (EvReth.EvNodeTransaction.wirePayment.txHash ⟨3, 4, false⟩ keccak256) := by
  refine ⟨Hex.ofBytes (signedPaymentBytes 1), encodeSignedTransaction_payment, ?_, ?_, ?_⟩
  · rw [Hex.toBytes_ofBytes]
    rfl
  · rw [Hex.toBytes_ofBytes]
    decide +kernel
  · exact ⟨fun bytes => BitVec.ofNat 256 (BigEndian.value bytes), by decide +kernel⟩

end EvReth.Clients
