import EvReth.Clients.Signing

/-!
# What a sponsor has signed

A sponsor signs what the client has decoded (`clients/src/encoding.ts`), and nothing says that this
is a transaction of the node: a number may be too large, an address too short. Still its signature
commits it to the fields that it has seen. If the node ever finds the same bytes to be those that a
sponsor has to sign, then its transaction has these fields, and the same executor.
-/

namespace EvReth.Clients

/-! ## Agreement of fields -/

/-- The bytes of the destination of a call. -/
def destBytes : TxKind → Bytes
  | .create => []
  | .call addr => wordBytes addr

structure Call.Matches (call : Call) (nodeCall : EvReth.Call) : Prop where
  dest : Hex.toBytes (call.dest.getD []) = destBytes nodeCall.dest
  value : call.value = nodeCall.value.toNat
  data : Hex.toBytes call.data = nodeCall.input

structure AccessListItem.Matches (item : AccessListItem) (nodeItem : EvReth.AccessListItem) :
    Prop where
  address : Hex.toBytes item.address = wordBytes nodeItem.address
  storageKeys : item.storageKeys.map Hex.toBytes = nodeItem.storageKeys.map wordBytes

/-- A transaction of the client has the fields of one of the node, the sponsor's signature apart. Of
a string only the bytes count. -/
structure EvNodeTransaction.Matches (tx : EvNodeTransaction) (nodeTx : EvReth.EvNodeTransaction) :
    Prop where
  chainId : tx.chainId = nodeTx.chainId.toNat
  nonce : tx.nonce = nodeTx.nonce.toNat
  maxPriorityFeePerGas : tx.maxPriorityFeePerGas = nodeTx.maxPriorityFeePerGas.toNat
  maxFeePerGas : tx.maxFeePerGas = nodeTx.maxFeePerGas.toNat
  gasLimit : tx.gasLimit = nodeTx.gasLimit.toNat
  calls : List.Forall₂ Call.Matches tx.calls nodeTx.calls
  accessList : List.Forall₂ AccessListItem.Matches tx.accessList nodeTx.accessList

/-! ## Injectivity -/

/-- Whatever its size, a number is determined by the bytes that are written for it. -/
theorem value_toBytes_rlpHexFromBigInt (n : ℕ) :
    BigEndian.value (Hex.toBytes (rlpHexFromBigInt n)) = n := by
  rw [Hex.value_toBytes, rlpHexFromBigInt]
  split_ifs with hzero
  · rw [hzero]
    rfl
  · rw [toHex, Hex.value_ofNat]

theorem eq_of_rlpHexFromBigInt {m n : ℕ}
    (h : (Rlp.Item.leaf (rlpHexFromBigInt m)).map Hex.toBytes =
      (Rlp.Item.leaf (rlpHexFromBigInt n)).map Hex.toBytes) : m = n := by
  rw [← value_toBytes_rlpHexFromBigInt m, Rlp.Item.leaf.inj h, value_toBytes_rlpHexFromBigInt]

/-- A destination is written as an address, or as nothing. -/
theorem toBytes_destHex (kind : TxKind) :
    Hex.toBytes ((destHex kind).getD []) = destBytes kind := by
  cases kind with
  | create => rfl
  | call addr =>
    rw [destHex, Option.getD_some, wordHex, Hex.toBytes_ofBytes, destBytes]

/-- Calls that are written alike match. -/
theorem Call.matches_of_encodeCall {call : Call} {nodeCall : EvReth.Call}
    (h : (encodeCall call).map Hex.toBytes = (encodeCall (.ofNode nodeCall)).map Hex.toBytes) :
    call.Matches nodeCall := by
  simp only [encodeCall, Rlp.Item.map, Rlp.Item.mapAll, Rlp.Item.list.injEq, List.cons.injEq,
    Rlp.Item.leaf.injEq, and_true] at h
  obtain ⟨hdest, hvalue, hdata⟩ := h
  refine ⟨hdest.trans (toBytes_destHex nodeCall.dest), ?_, ?_⟩
  · exact eq_of_rlpHexFromBigInt (congrArg Rlp.Item.leaf hvalue)
  · rw [hdata, Call.ofNode, Hex.toBytes_ofBytes]

/-- So do items of access lists. -/
theorem AccessListItem.matches_of_encodeAccessListItem {item : AccessListItem}
    {nodeItem : EvReth.AccessListItem}
    (h : (encodeAccessListItem item).map Hex.toBytes =
      (encodeAccessListItem (.ofNode nodeItem)).map Hex.toBytes) : item.Matches nodeItem := by
  simp only [encodeAccessListItem, Rlp.Item.map, Rlp.Item.mapAll, Rlp.Item.mapAll_eq_map,
    List.map_map, Rlp.Item.list.injEq, List.cons.injEq, Rlp.Item.leaf.injEq, and_true] at h
  obtain ⟨haddress, hkeys⟩ := h
  have hleaf : (Rlp.Item.map Hex.toBytes ∘ Rlp.Item.leaf : Hex → Rlp.Item Bytes) =
      Rlp.Item.leaf ∘ Hex.toBytes := rfl
  rw [hleaf, ← List.map_map, ← List.map_map] at hkeys
  refine ⟨?_, ?_⟩
  · rw [haddress, AccessListItem.ofNode, wordHex, Hex.toBytes_ofBytes]
  · have hinjective : Function.Injective (Rlp.Item.leaf : Bytes → Rlp.Item Bytes) :=
      fun _ _ h => Rlp.Item.leaf.inj h
    have hbytes := List.map_injective_iff.mpr hinjective hkeys
    rw [hbytes, AccessListItem.ofNode, List.map_map]
    refine List.map_congr_left fun key _ => ?_
    rw [Function.comp_apply, wordHex, Hex.toBytes_ofBytes]

/-- Lists that are equal after two maps match element by element. -/
theorem forall₂_of_map_eq {α β γ : Type} {f : α → γ} {g : β → γ} {xs : List α} {ys : List β}
    (h : xs.map f = ys.map g) : List.Forall₂ (fun x y => f x = g y) xs ys := by
  rw [← List.forall₂_eq_eq_eq, List.forall₂_map_left_iff, List.forall₂_map_right_iff] at h
  exact h

/-- A transaction whose fields are written as those of one of the node matches it. -/
theorem EvNodeTransaction.matches_of_encodeAll {tx : EvNodeTransaction}
    {nodeTx : EvReth.EvNodeTransaction} (hsize : nodeTx.encode.length < 2 ^ 64)
    (h : Rlp.Item.encodeAll Hex.toBytes (payloadFields tx (.leaf (Hex.ofBytes []))) =
      nodeTx.encodePayloadFields none) : tx.Matches nodeTx := by
  -- the client has the transaction of the node as well, and writes it in the same way
  have hnode : Rlp.Item.encodeAll Hex.toBytes (payloadFields (.ofNode nodeTx)
      (.leaf (Hex.ofBytes []))) = nodeTx.encodePayloadFields none := by
    rw [(EvNodeTransaction.represents_ofNode nodeTx).encodeAll_payloadFields,
      nodeTx.encodePayloadFields_eq]
    rfl
  have hlen := nodeTx.length_encodePayloadFields_none_lt hsize
  have hids : ∀ items : List RlpValue, Rlp.Item.encodeAll Hex.toBytes items =
      Rlp.Item.encodeAll id (Rlp.Item.mapAll Hex.toBytes items) := fun items =>
    (Rlp.Item.encodeAll_mapAll id Hex.toBytes items).symm
  rw [← hnode, hids, hids] at h
  rw [← hnode, hids, ← h] at hlen
  have hfields := Rlp.Item.encodeAll_injective hlen h
  simp only [payloadFields, Rlp.Item.mapAll, List.cons.injEq] at hfields
  obtain ⟨hchainId, hnonce, hpriority, hmaxFee, hgasLimit, hcalls, haccess, -⟩ := hfields
  refine ⟨eq_of_rlpHexFromBigInt hchainId, eq_of_rlpHexFromBigInt hnonce,
    eq_of_rlpHexFromBigInt hpriority, eq_of_rlpHexFromBigInt hmaxFee,
    eq_of_rlpHexFromBigInt hgasLimit, ?_, ?_⟩
  · simp only [encodeCalls, ofNode, Rlp.Item.map, Rlp.Item.mapAll_eq_map, List.map_map,
      Rlp.Item.list.injEq] at hcalls
    exact (forall₂_of_map_eq hcalls).imp fun _ _ => Call.matches_of_encodeCall
  · simp only [encodeAccessList, ofNode, Rlp.Item.map, Rlp.Item.mapAll_eq_map, List.map_map,
      Rlp.Item.list.injEq] at haccess
    exact (forall₂_of_map_eq haccess).imp fun _ _ =>
      AccessListItem.matches_of_encodeAccessListItem

/-- What a sponsor is asked to sign for any transaction and executor, in bytes. -/
theorem toBytes_sponsorSigningPreimage (viem : Viem) (tx : EvNodeTransaction)
    (executor : Address) : (sponsorSigningPreimage viem tx (wordHex executor)).map Hex.toBytes =
      .ok (evnodeSponsorDomain :: (wordBytes executor ++
        Rlp.Item.encodeAll Hex.toBytes (payloadFields tx (.leaf (Hex.ofBytes []))))) := by
  have hfields : concat ((payloadFields tx (.leaf (Hex.ofBytes []))).map toRlp) = Hex.ofBytes
      (Rlp.Item.encodeAll Hex.toBytes (payloadFields tx (.leaf (Hex.ofBytes [])))) := by
    have hconcat := concat_map_ofBytes
      ((payloadFields tx (.leaf (Hex.ofBytes []))).map (Rlp.Item.encode Hex.toBytes))
    rw [List.map_map, ← List.flatMap_def, ← Rlp.Item.encodeAll_eq_flatMap] at hconcat
    exact hconcat
  rw [sponsorSigningPreimage, encodePayloadFieldsNoList, buildPayloadFields_false]
  show Except.ok (Hex.toBytes (concat [sponsorDomainHex, wordHex executor,
    concat ((payloadFields tx (.leaf (Hex.ofBytes []))).map toRlp)])) = _
  have hconcat := concat_map_ofBytes [[evnodeSponsorDomain], wordBytes executor,
    Rlp.Item.encodeAll Hex.toBytes (payloadFields tx (.leaf (Hex.ofBytes [])))]
  rw [hfields, sponsorDomainHex, wordHex]
  refine congrArg Except.ok ((congrArg Hex.toBytes hconcat).trans ?_)
  rw [Hex.toBytes_ofBytes, List.flatten_cons, List.flatten_cons, List.flatten_cons,
    List.flatten_nil, List.append_nil, List.singleton_append]

/-- A sponsor has signed the transaction of the node for this executor and for no other, and has
signed the fields that it has seen. -/
theorem matches_of_sponsorPreimage (viem : Viem) {tx : EvNodeTransaction}
    {nodeTx : EvReth.EvNodeTransaction} {e e' : Address} (hsize : nodeTx.encode.length < 2 ^ 64)
    (h : (sponsorSigningPreimage viem tx (wordHex e)).map Hex.toBytes =
      .ok (nodeTx.sponsorPreimage e')) : e = e' ∧ tx.Matches nodeTx := by
  rw [toBytes_sponsorSigningPreimage] at h
  have hlen : (wordBytes e).length = (wordBytes e').length := by
    rw [length_wordBytes, length_wordBytes]
  obtain ⟨hexecutor, hfields⟩ := List.append_inj (List.cons.inj (Except.ok.inj h)).2 hlen
  refine ⟨?_, EvNodeTransaction.matches_of_encodeAll hsize hfields⟩
  rw [← wordOfBytes_wordBytes (k := 20) rfl e, hexecutor, wordOfBytes_wordBytes (k := 20) rfl e']

end EvReth.Clients
