import EvReth.Clients.Encoding
import EvReth.Primitives.Wire

/-!
# Transactions of the client and of the node

A transaction of the client (`clients/src/encoding.ts`) represents one of the node
(`crates/ev-primitives/src/tx.rs`) if its numbers are the same and its strings those of the node's
bytes. Its fields are then written as the node writes them, up to the sponsor's signature. Every
transaction in range represents one of the node, and every one of the node is represented.
-/

namespace EvReth.Clients

/-! ## Representation -/

/-- The parity that the number in a signature stands for. -/
def parityOf (v : ℕ) : Option Bool :=
  if v = 0 ∨ v = 27 then some false
  else if v = 1 ∨ v = 28 then some true
  else none

/-- The string of an address or a hash. -/
def wordHex {w : ℕ} (x : BitVec w) : Hex := Hex.ofBytes (wordBytes x)

/-- The number for a parity. -/
def parityNumber (yParity : Bool) : ℕ := if yParity then 1 else 0

structure SignatureObject.Denotes (parsed : SignatureObject) (sig : EvReth.Signature) : Prop where
  parity : (parsed.v.or parsed.yParity).bind parityOf = some sig.yParity
  r : Hex.value parsed.r = sig.r.toNat
  s : Hex.value parsed.s = sig.s.toNat

/-- A signature of the client is one of the node. A string holds its `65` bytes, with any `v` value
that the node reads. -/
inductive Signature.Denotes : Signature → EvReth.Signature → Prop
  | object {parsed : SignatureObject} {sig : EvReth.Signature} (h : parsed.Denotes sig) :
      Signature.Denotes (.object parsed) sig
  | string {v : UInt8} {sig : EvReth.Signature}
      (h : EvReth.Signature.normalizeV v = some sig.yParity) :
      Signature.Denotes (.string (Hex.ofBytes (wordBytes sig.r ++ (wordBytes sig.s ++ [v])))) sig

/-- A string that denotes a signature has its two words and one of the `v` bytes for its parity. -/
theorem Signature.Denotes.string_inv {hex : Hex} {sig : EvReth.Signature}
    (h : Signature.Denotes (.string hex) sig) :
    ∃ v, EvReth.Signature.normalizeV v = some sig.yParity ∧
      hex = Hex.ofBytes (wordBytes sig.r ++ (wordBytes sig.s ++ [v])) := by
  generalize hsignature : Signature.string hex = signature at h
  cases h with
  | object h => cases hsignature
  | @string v sig h => exact ⟨v, h, Signature.string.inj hsignature⟩

/-- The destination of a call: the string of an address, or none for `CREATE`. -/
def destHex : TxKind → Option Hex
  | .create => none
  | .call addr => some (wordHex addr)

structure Call.Represents (call : Call) (nodeCall : EvReth.Call) : Prop where
  dest : call.dest = destHex nodeCall.dest
  value : call.value = nodeCall.value.toNat
  data : Hex.toBytes call.data = nodeCall.input

structure AccessListItem.Represents (item : AccessListItem) (nodeItem : EvReth.AccessListItem) :
    Prop where
  address : item.address = wordHex nodeItem.address
  storageKeys : item.storageKeys = nodeItem.storageKeys.map wordHex

/-- A transaction of the client is one of the node. -/
structure EvNodeTransaction.Represents (tx : EvNodeTransaction)
    (nodeTx : EvReth.EvNodeTransaction) : Prop where
  chainId : tx.chainId = nodeTx.chainId.toNat
  nonce : tx.nonce = nodeTx.nonce.toNat
  maxPriorityFeePerGas : tx.maxPriorityFeePerGas = nodeTx.maxPriorityFeePerGas.toNat
  maxFeePerGas : tx.maxFeePerGas = nodeTx.maxFeePerGas.toNat
  gasLimit : tx.gasLimit = nodeTx.gasLimit.toNat
  calls : List.Forall₂ Call.Represents tx.calls nodeTx.calls
  accessList : List.Forall₂ AccessListItem.Represents tx.accessList nodeTx.accessList
  feePayerSignature :
    Option.Rel Signature.Denotes tx.feePayerSignature nodeTx.feePayerSignature

/-- What the client relies on in viem: values are read back, and the string of a signature is parsed
to this signature if it is parsed at all. -/
structure Viem.Lawful (viem : Viem) : Prop where
  fromRlp : ∀ item : Rlp.Item Bytes, (item.encode id).length < 2 ^ 64 →
    viem.fromRlp (Hex.ofBytes (item.encode id)) = .ok (item.map Hex.ofBytes)
  hexToSignature : ∀ {hex : Hex} {parsed : SignatureObject} {sig : EvReth.Signature},
    Signature.Denotes (.string hex) sig → viem.hexToSignature hex = .ok parsed →
      parsed.Denotes sig

/-! ## Numbers -/

/-- Numbers are written without leading zeros, zero as nothing. -/
theorem toBytes_rlpHexFromBigInt {k n : ℕ} (h : n < 256 ^ k) :
    Hex.toBytes (rlpHexFromBigInt n) = BigEndian.minimal k n := by
  unfold rlpHexFromBigInt
  split_ifs with hzero
  · rw [hzero, BigEndian.minimal_zero]
    rfl
  · exact Hex.toBytes_ofNat hzero h

/-- A number is written as the node writes it. -/
theorem encode_rlpHexFromBigInt {w k : ℕ} (hw : w = 8 * k) (x : BitVec w) :
    (Rlp.Item.leaf (rlpHexFromBigInt x.toNat)).encode Hex.toBytes = encodeWord x := by
  rw [Rlp.Item.encode, toBytes_rlpHexFromBigInt (toNat_lt_of_width hw x), encodeWord,
    Rlp.encodeUint]

/-- An address or a hash is written as the node writes it. -/
theorem encode_wordHex {w : ℕ} (x : BitVec w) :
    (Rlp.Item.leaf (wordHex x)).encode Hex.toBytes = encodeFixed x := by
  rw [Rlp.Item.encode, wordHex, Hex.toBytes_ofBytes, encodeFixed]

theorem hexToBigIntSafe_leaf (hex : Hex) : hexToBigIntSafe (.leaf hex) = .ok (Hex.value hex) := by
  rw [hexToBigIntSafe]
  split_ifs with hempty
  · rw [hempty]
    rfl
  · rfl

/-- Thirty-two bytes hold any word. -/
theorem padTo32Bytes_eq {hex : Hex} {x : U256} (h : Hex.value hex = x.toNat) :
    padTo32Bytes hex = .ok (wordHex x) := by
  have hlt : x.toNat < 256 ^ 32 := toNat_lt_of_width (k := 32) rfl x
  rw [padTo32Bytes, hexToBigIntSafe_leaf, h]
  show toHexSized 32 x.toNat = _
  rw [toHexSized, if_pos hlt, Hex.sized_eq_ofBytes (by decide) hlt]
  rfl

theorem value_wordHex {w k : ℕ} (hw : w = 8 * k) (x : BitVec w) :
    Hex.value (wordHex x) = x.toNat := by
  rw [wordHex, Hex.value_ofBytes, wordBytes, BigEndian.value_fixed (toNat_lt_of_width hw x)]

/-! ## Signatures -/

/-- A `v` value that stands for a parity is normalized to it. -/
theorem parityOf_eq_some {v : ℕ} {yParity : Bool} (h : parityOf v = some yParity) :
    (if v = 27 ∨ v = 28 then v - 27 else v) = parityNumber yParity := by
  unfold parityOf at h
  split_ifs at h with hfalse htrue
  · obtain rfl := Option.some.inj h
    rcases hfalse with rfl | rfl <;> rfl
  · obtain rfl := Option.some.inj h
    rcases htrue with rfl | rfl <;> rfl

/-- The client and the node agree on the numbers that both know. -/
theorem parityOf_toNat {v : UInt8} {yParity : Bool}
    (h : EvReth.Signature.normalizeV v = some yParity)
    (hv : v = 0 ∨ v = 1 ∨ v = 27 ∨ v = 28) : parityOf v.toNat = some yParity := by
  rcases hv with rfl | rfl | rfl | rfl
  all_goals
    rw [← h]
    rfl

theorem parityNumber_valid (yParity : Bool) :
    ¬ (parityNumber yParity ≠ 0 ∧ parityNumber yParity ≠ 1) := by
  cases yParity <;> decide

theorem parityNumber_lt (yParity : Bool) : parityNumber yParity < 256 ^ 1 := by
  cases yParity <;> decide

/-- A signature is normalised to its parity and two padded words. -/
def NormalizedSignature.ofNode (sig : EvReth.Signature) : NormalizedSignature :=
  { yParity := parityNumber sig.yParity
    r := wordHex sig.r
    s := wordHex sig.s }

/-- Whatever form it has, an object that denotes a signature is normalized to that of the node. -/
theorem SignatureObject.Denotes.normalize_eq {parsed : SignatureObject} {sig : EvReth.Signature}
    (h : parsed.Denotes sig) : parsed.normalize = .ok (.ofNode sig) := by
  obtain ⟨v, hv, hparity⟩ := Option.bind_eq_some_iff.mp h.parity
  unfold SignatureObject.normalize
  simp only [hv, parityOf_eq_some hparity, if_neg (parityNumber_valid sig.yParity),
    padTo32Bytes_eq h.r, padTo32Bytes_eq h.s]
  rfl

variable {viem : Viem}

theorem normalizeSignature_object (viem : Viem) {parsed : SignatureObject} {sig : EvReth.Signature}
    (h : parsed.Denotes sig) : normalizeSignature viem (.object parsed) = .ok (.ofNode sig) :=
  h.normalize_eq

/-- A signature in either form is normalised in the same way, if its string is parsed. -/
theorem normalizeSignature_eq_ok (hviem : viem.Lawful) {signature : Signature}
    {sig : EvReth.Signature} (h : signature.Denotes sig) {normalized : NormalizedSignature}
    (hok : normalizeSignature viem signature = .ok normalized) :
    normalized = .ofNode sig := by
  cases h with
  | object h => exact Except.ok.inj (hok.symm.trans h.normalize_eq)
  | string h =>
    obtain ⟨parsed, hparsed, hok⟩ := Except.bind_eq_ok_iff.mp hok
    have hdenotes := hviem.hexToSignature (.string h) hparsed
    exact Except.ok.inj (hok.symm.trans hdenotes.normalize_eq)

/-- The executor's signature is written as the node writes it. -/
theorem encodeAll_signatureFields (sig : EvReth.Signature) :
    Rlp.Item.encodeAll Hex.toBytes (signatureFields (.ofNode sig)) = sig.writeRlpVrs := by
  have hparity : (Rlp.Item.leaf (rlpHexFromBigInt (parityNumber sig.yParity))).encode Hex.toBytes =
      encodeBool sig.yParity := by
    rw [Rlp.Item.encode, toBytes_rlpHexFromBigInt (parityNumber_lt sig.yParity)]
    rfl
  rw [signatureFields, NormalizedSignature.ofNode, hexToBigInt, hexToBigInt,
    value_wordHex (k := 32) rfl, value_wordHex (k := 32) rfl]
  simp only [Rlp.Item.encodeAll, hparity, encode_rlpHexFromBigInt (w := 256) (k := 32) rfl,
    EvReth.Signature.writeRlpVrs, List.append_nil]

/-- A signature that is handed over as a string that ends in `27` or `28`. -/
def Signature.AsWritten : Signature → Prop
  | .object _ => False
  | .string hex => (Hex.toBytes hex).getD 64 0 = 27 ∨ (Hex.toBytes hex).getD 64 0 = 28

instance (signature : Signature) : Decidable signature.AsWritten := by
  cases signature <;> unfold Signature.AsWritten <;> infer_instance

/-- The sponsor's signature is handed over in the form in which the node writes it, if it is handed
over at all. -/
def EvNodeTransaction.SponsorAsWritten (tx : EvNodeTransaction) : Prop :=
  ∀ signature ∈ tx.feePayerSignature, signature.AsWritten

theorem length_signatureBytes (sig : EvReth.Signature) (v : UInt8) :
    (wordBytes sig.r ++ (wordBytes sig.s ++ [v])).length = 65 := by
  simp

theorem getD_signatureBytes (sig : EvReth.Signature) (v : UInt8) :
    (wordBytes sig.r ++ (wordBytes sig.s ++ [v])).getD 64 0 = v := by
  simp

theorem take_signatureBytes (sig : EvReth.Signature) (v : UInt8) :
    (wordBytes sig.r ++ (wordBytes sig.s ++ [v])).take 32 = wordBytes sig.r := by
  have hr : (wordBytes sig.r).length = 32 := length_wordBytes sig.r
  rw [← hr, List.take_left]

theorem take_drop_signatureBytes (sig : EvReth.Signature) (v : UInt8) :
    ((wordBytes sig.r ++ (wordBytes sig.s ++ [v])).drop 32).take 32 = wordBytes sig.s := by
  have hr : (wordBytes sig.r).length = 32 := length_wordBytes sig.r
  have hs : (wordBytes sig.s).length = 32 := length_wordBytes sig.s
  rw [← hr, List.drop_left, hr, ← hs, List.take_left]

/-- The sponsor's signature is written as two words and a `v` value that the node reads. -/
theorem encodeSponsorSignature_eq (viem : Viem) {signature : Signature} {sig : EvReth.Signature}
    (h : signature.Denotes sig) :
    ∃ v, encodeSponsorSignature viem signature =
        .ok (.leaf (Hex.ofBytes (wordBytes sig.r ++ (wordBytes sig.s ++ [v])))) ∧
      EvReth.Signature.normalizeV v = some sig.yParity ∧
      (v = 27 ∨ v = 28 ↔ signature.AsWritten) := by
  -- an object is normalized and gets 0 or 1 as its last byte; a string is written as it is
  cases h with
  | @object parsed sig h =>
    refine ⟨UInt8.ofNat (parityNumber sig.yParity), ?_, ?_, ?_⟩
    · have hlt := parityNumber_lt sig.yParity
      have hfixed : BigEndian.fixed 1 (parityNumber sig.yParity) =
          [UInt8.ofNat (parityNumber sig.yParity)] := by
        cases sig.yParity <;> rfl
      rw [encodeSponsorSignature, normalizeSignature_object viem h]
      show (toHexSized 1 (parityNumber sig.yParity) >>= _) = _
      rw [toHexSized, if_pos hlt, Hex.sized_eq_ofBytes (by decide) hlt, hfixed, Hex.ofBytes_append,
        Hex.ofBytes_append]
      show Except.ok (Rlp.Item.leaf (concat _)) = _
      simp only [concat, List.flatten_cons, List.flatten_nil, List.append_nil,
        NormalizedSignature.ofNode, wordHex]
    · cases sig.yParity <;> decide
    · have hne : ¬ (UInt8.ofNat (parityNumber sig.yParity) = 27 ∨
          UInt8.ofNat (parityNumber sig.yParity) = 28) := by
        cases sig.yParity <;> decide
      exact iff_of_false hne id
  | @string v sig h =>
    refine ⟨v, rfl, h, ?_⟩
    rw [Signature.AsWritten, Hex.toBytes_ofBytes, getD_signatureBytes]

/-! ## Transactions -/

/-- Client and node encode a call alike. -/
theorem Call.Represents.encode_eq {call : Call} {nodeCall : EvReth.Call}
    (h : call.Represents nodeCall) :
    (encodeCall call).encode Hex.toBytes = nodeCall.encode := by
  have hdest : (Rlp.Item.leaf (call.dest.getD [])).encode Hex.toBytes = nodeCall.dest.encode := by
    rw [h.dest]
    cases nodeCall.dest with
    | create => rfl
    | call addr => rw [destHex, Option.getD_some, encode_wordHex, TxKind.encode]
  have hdata : (Rlp.Item.leaf call.data).encode Hex.toBytes = Rlp.encodeBytes nodeCall.input := by
    rw [Rlp.Item.encode, h.data]
  rw [encodeCall, Rlp.Item.encode, h.value]
  simp only [Rlp.Item.encodeAll, hdest, encode_rlpHexFromBigInt (w := 256) (k := 32) rfl, hdata,
    List.append_nil, EvReth.Call.encode, EvReth.Call.encodeFields]

/-- Client and node encode an item of an access list alike. -/
theorem AccessListItem.Represents.encode_eq {item : AccessListItem}
    {nodeItem : EvReth.AccessListItem} (h : item.Represents nodeItem) :
    (encodeAccessListItem item).encode Hex.toBytes = nodeItem.encode := by
  have hkeys : (Rlp.Item.list (item.storageKeys.map .leaf)).encode Hex.toBytes =
      Rlp.encodeVec encodeFixed nodeItem.storageKeys := by
    rw [Rlp.Item.encode_list, h.storageKeys, Rlp.encodeVec, Rlp.encodeVec, List.map_map,
      List.flatMap_map]
    simp only [Function.comp_apply, encode_wordHex]
  rw [encodeAccessListItem, Rlp.Item.encode, h.address]
  simp only [Rlp.Item.encodeAll, encode_wordHex, hkeys, List.append_nil,
    EvReth.AccessListItem.encode, EvReth.AccessListItem.encodeFields]

namespace EvNodeTransaction.Represents

variable {tx : EvNodeTransaction} {nodeTx : EvReth.EvNodeTransaction}

/-- The fields are written as the node writes them, whatever the sponsor field holds. -/
theorem encodeAll_payloadFields (h : tx.Represents nodeTx) (raw : Bytes) :
    Rlp.Item.encodeAll Hex.toBytes (payloadFields tx (.leaf (Hex.ofBytes raw))) =
      nodeTx.unsponsoredFields ++ Rlp.encodeBytes raw := by
  have hcalls : (Rlp.Item.list (encodeCalls tx.calls)).encode Hex.toBytes =
      Rlp.encodeVec EvReth.Call.encode nodeTx.calls := by
    rw [Rlp.Item.encode_list, encodeCalls]
    refine Rlp.encodeVec_eq_of_forall₂ (List.forall₂_map_left_iff.mpr ?_)
    exact h.calls.imp fun _ _ hcall => hcall.encode_eq
  have haccess : (Rlp.Item.list (encodeAccessList tx.accessList)).encode Hex.toBytes =
      Rlp.encodeVec EvReth.AccessListItem.encode nodeTx.accessList := by
    rw [Rlp.Item.encode_list, encodeAccessList]
    refine Rlp.encodeVec_eq_of_forall₂ (List.forall₂_map_left_iff.mpr ?_)
    exact h.accessList.imp fun _ _ hitem => hitem.encode_eq
  have hsponsor : (Rlp.Item.leaf (Hex.ofBytes raw)).encode Hex.toBytes = Rlp.encodeBytes raw := by
    rw [Rlp.Item.encode, Hex.toBytes_ofBytes]
  -- the numbers of the client are those of the node
  rw [payloadFields, h.chainId, h.nonce, h.maxPriorityFeePerGas, h.maxFeePerGas, h.gasLimit]
  simp only [Rlp.Item.encodeAll, encode_rlpHexFromBigInt (k := 8) rfl nodeTx.chainId,
    encode_rlpHexFromBigInt (k := 8) rfl nodeTx.nonce,
    encode_rlpHexFromBigInt (k := 16) rfl nodeTx.maxPriorityFeePerGas,
    encode_rlpHexFromBigInt (k := 16) rfl nodeTx.maxFeePerGas,
    encode_rlpHexFromBigInt (k := 8) rfl nodeTx.gasLimit, hcalls, haccess, hsponsor,
    List.append_nil, EvReth.EvNodeTransaction.unsponsoredFields, List.append_assoc]

/-- The sponsor field is one that the node reads as the sponsor's signature. -/
theorem sponsorField_eq (viem : Viem) (h : tx.Represents nodeTx) :
    ∃ raw, sponsorField viem tx true = .ok (.leaf (Hex.ofBytes raw)) ∧
      SponsorFieldReads raw nodeTx.feePayerSignature ∧
      (raw = [] ∨ raw.getD 64 0 = 27 ∨ raw.getD 64 0 = 28 ↔ tx.SponsorAsWritten) := by
  have hsponsor := h.feePayerSignature
  unfold sponsorField EvNodeTransaction.SponsorAsWritten
  -- the field depends on the two signatures only
  generalize tx.feePayerSignature = signature at hsponsor ⊢
  generalize nodeTx.feePayerSignature = sig at hsponsor ⊢
  cases hsponsor with
  | none => exact ⟨[], rfl, .absent, iff_of_true (.inl rfl) (fun _ hmem => nomatch hmem)⟩
  | @some signature sig hdenotes =>
    obtain ⟨v, hencode, hparity, hwritten⟩ := encodeSponsorSignature_eq viem hdenotes
    have hlen := length_signatureBytes sig v
    have hne : wordBytes sig.r ++ (wordBytes sig.s ++ [v]) ≠ [] := by
      intro hnil
      rw [hnil] at hlen
      cases hlen
    refine ⟨_, hencode,
      .present hlen (EvReth.Signature.fromRawArray_append sig.r sig.s hparity), ?_⟩
    rw [or_iff_right hne, getD_signatureBytes, hwritten]
    simp only [Option.mem_some_iff, forall_eq']

/-- A signed transaction is written as the node writes it, whatever the sponsor field holds. -/
theorem encode_signed (h : tx.Represents nodeTx) (raw : Bytes) (sig : EvReth.Signature) :
    (Rlp.Item.list (payloadFields tx (.leaf (Hex.ofBytes raw)) ++
        signatureFields (.ofNode sig))).encode Hex.toBytes =
      Rlp.encodeList (nodeTx.unsponsoredFields ++ Rlp.encodeBytes raw ++ sig.writeRlpVrs) := by
  rw [Rlp.Item.encode, Rlp.Item.encodeAll_eq_flatMap, List.flatMap_append,
    ← Rlp.Item.encodeAll_eq_flatMap, ← Rlp.Item.encodeAll_eq_flatMap, h.encodeAll_payloadFields,
    encodeAll_signatureFields]

end EvNodeTransaction.Represents

/-! ## Transactions of the node -/

/-- A call of the node, as the client has it. -/
def Call.ofNode (call : EvReth.Call) : Call :=
  { dest := destHex call.dest
    value := call.value.toNat
    data := Hex.ofBytes call.input }

/-- An access list item of the node, as the client has it. -/
def AccessListItem.ofNode (item : EvReth.AccessListItem) : AccessListItem :=
  { address := wordHex item.address
    storageKeys := item.storageKeys.map wordHex }

/-- A signature of the node, as the client has it. -/
def SignatureObject.ofNode (sig : EvReth.Signature) : SignatureObject :=
  { r := wordHex sig.r
    s := wordHex sig.s
    yParity := some (parityNumber sig.yParity)
    v := some (parityNumber sig.yParity) }

/-- A transaction of the node, as the client has it. -/
def EvNodeTransaction.ofNode (tx : EvReth.EvNodeTransaction) : EvNodeTransaction :=
  { chainId := tx.chainId.toNat
    nonce := tx.nonce.toNat
    maxPriorityFeePerGas := tx.maxPriorityFeePerGas.toNat
    maxFeePerGas := tx.maxFeePerGas.toNat
    gasLimit := tx.gasLimit.toNat
    calls := tx.calls.map Call.ofNode
    accessList := tx.accessList.map AccessListItem.ofNode
    feePayerSignature := tx.feePayerSignature.map fun sig => .object (.ofNode sig) }

/-- The object of a signature denotes it. -/
theorem SignatureObject.denotes_ofNode (sig : EvReth.Signature) :
    (SignatureObject.ofNode sig).Denotes sig where
  parity := by
    obtain ⟨r, s, yParity⟩ := sig
    cases yParity <;> rfl
  r := by rw [SignatureObject.ofNode, value_wordHex (k := 32) rfl]
  s := by rw [SignatureObject.ofNode, value_wordHex (k := 32) rfl]

theorem Call.represents_ofNode (call : EvReth.Call) : (Call.ofNode call).Represents call where
  dest := by rw [Call.ofNode]
  value := by rw [Call.ofNode]
  data := by rw [Call.ofNode, Hex.toBytes_ofBytes]

theorem AccessListItem.represents_ofNode (item : EvReth.AccessListItem) :
    (AccessListItem.ofNode item).Represents item where
  address := by rw [AccessListItem.ofNode]
  storageKeys := by rw [AccessListItem.ofNode]

/-- The client's form of a transaction represents it. -/
theorem EvNodeTransaction.represents_ofNode (tx : EvReth.EvNodeTransaction) :
    (EvNodeTransaction.ofNode tx).Represents tx where
  chainId := by rw [EvNodeTransaction.ofNode]
  nonce := by rw [EvNodeTransaction.ofNode]
  maxPriorityFeePerGas := by rw [EvNodeTransaction.ofNode]
  maxFeePerGas := by rw [EvNodeTransaction.ofNode]
  gasLimit := by rw [EvNodeTransaction.ofNode]
  calls := by
    rw [EvNodeTransaction.ofNode, List.forall₂_map_left_iff, List.forall₂_same]
    exact fun call _ => Call.represents_ofNode call
  accessList := by
    rw [EvNodeTransaction.ofNode, List.forall₂_map_left_iff, List.forall₂_same]
    exact fun item _ => AccessListItem.represents_ofNode item
  feePayerSignature := by
    rw [EvNodeTransaction.ofNode]
    cases tx.feePayerSignature with
    | none => exact .none
    | some sig => exact .some (.object (SignatureObject.denotes_ofNode sig))

/-! ## Transactions in range -/

def Call.InRange (call : Call) : Prop :=
  (∀ hex ∈ call.dest, hex.length = 40) ∧ call.value < 2 ^ 256

def AccessListItem.InRange (item : AccessListItem) : Prop :=
  item.address.length = 40 ∧ ∀ key ∈ item.storageKeys, key.length = 64

def Signature.InRange : Signature → Prop
  | .object parsed => ((parsed.v.or parsed.yParity).bind parityOf).isSome ∧
      Hex.value parsed.r < 2 ^ 256 ∧ Hex.value parsed.s < 2 ^ 256
  | .string hex => hex.length = 130 ∧
      (EvReth.Signature.normalizeV ((Hex.toBytes hex).getD 64 0)).isSome

/-- The numbers fit in the integers of the node, addresses have `20` bytes and storage keys `32`,
and the sponsor's signature is one. -/
structure EvNodeTransaction.InRange (tx : EvNodeTransaction) : Prop where
  chainId : tx.chainId < 2 ^ 64
  nonce : tx.nonce < 2 ^ 64
  maxPriorityFeePerGas : tx.maxPriorityFeePerGas < 2 ^ 128
  maxFeePerGas : tx.maxFeePerGas < 2 ^ 128
  gasLimit : tx.gasLimit < 2 ^ 64
  calls : ∀ call ∈ tx.calls, call.InRange
  accessList : ∀ item ∈ tx.accessList, item.InRange
  feePayerSignature : ∀ signature ∈ tx.feePayerSignature, signature.InRange

theorem exists_toNat_eq {w n : ℕ} (h : n < 2 ^ w) : ∃ x : BitVec w, n = x.toNat :=
  ⟨BitVec.ofNat w n, by rw [BitVec.toNat_ofNat, Nat.mod_eq_of_lt h]⟩

/-- A hex string of the right length is that of a word. -/
theorem exists_wordHex_eq {w k : ℕ} (hw : w = 8 * k) {hex : Hex} (h : hex.length = 2 * (w / 8)) :
    ∃ x : BitVec w, hex = wordHex x := by
  have heven : hex.length % 2 = 0 := by omega
  have hlen : (Hex.pairs hex).length = w / 8 := by
    rw [Hex.length_pairs]
    omega
  refine ⟨wordOfBytes w (Hex.pairs hex), ?_⟩
  rw [wordHex, wordBytes_wordOfBytes hw hlen, Hex.ofBytes_pairs heven]

/-- A call in range represents one of the node. -/
theorem Call.InRange.exists_represents {call : Call} (h : call.InRange) :
    ∃ nodeCall, call.Represents nodeCall := by
  obtain ⟨hdest, hvalue⟩ := h
  obtain ⟨value, hvalue⟩ := exists_toNat_eq hvalue
  have hkind : ∃ kind, call.dest = destHex kind := by
    cases hcall : call.dest with
    | none => exact ⟨.create, by rw [destHex]⟩
    | some hex =>
      obtain ⟨addr, haddr⟩ := exists_wordHex_eq (w := 160) (k := 20) rfl (hdest hex hcall)
      exact ⟨.call addr, by rw [destHex, haddr]⟩
  obtain ⟨kind, hkind⟩ := hkind
  exact ⟨⟨kind, value, Hex.toBytes call.data⟩, hkind, hvalue, rfl⟩

/-- An item in range represents one of the node. -/
theorem AccessListItem.InRange.exists_represents {item : AccessListItem} (h : item.InRange) :
    ∃ nodeItem, item.Represents nodeItem := by
  obtain ⟨haddress, hkeys⟩ := h
  obtain ⟨address, haddress⟩ := exists_wordHex_eq (w := 160) (k := 20) rfl haddress
  obtain ⟨keys, hkeys⟩ := List.exists_forall₂_iff.mpr fun key hmem =>
    exists_wordHex_eq (w := 256) (k := 32) rfl (hkeys key hmem)
  rw [← List.forall₂_map_right_iff, List.forall₂_eq_eq_eq] at hkeys
  exact ⟨⟨address, keys⟩, haddress, hkeys⟩

/-- 65 bytes with a valid last one denote a signature. -/
theorem Signature.denotes_ofBytes {raw : Bytes} {yParity : Bool} (hlen : raw.length = 65)
    (hparity : EvReth.Signature.normalizeV (raw.getD 64 0) = some yParity) :
    Signature.Denotes (.string (Hex.ofBytes raw))
      ⟨wordOfBytes 256 (raw.take 32), wordOfBytes 256 ((raw.drop 32).take 32), yParity⟩ := by
  have hstring := @Signature.Denotes.string (raw.getD 64 0) ⟨wordOfBytes 256 (raw.take 32),
    wordOfBytes 256 ((raw.drop 32).take 32), yParity⟩ hparity
  simp only [EvReth.Signature.rawBytes_eq hlen] at hstring
  exact hstring

/-- A signature in range denotes one of the node. -/
theorem Signature.InRange.exists_denotes {signature : Signature} (h : signature.InRange) :
    ∃ sig, signature.Denotes sig := by
  cases signature with
  | object parsed =>
    obtain ⟨hparity, hr, hs⟩ := h
    obtain ⟨yParity, hparity⟩ := Option.isSome_iff_exists.mp hparity
    obtain ⟨r, hr⟩ := exists_toNat_eq hr
    obtain ⟨s, hs⟩ := exists_toNat_eq hs
    exact ⟨⟨r, s, yParity⟩, .object ⟨hparity, hr, hs⟩⟩
  | string hex =>
    obtain ⟨hlen, hparity⟩ := h
    obtain ⟨yParity, hparity⟩ := Option.isSome_iff_exists.mp hparity
    have heven : hex.length % 2 = 0 := by omega
    have hbytes : (Hex.toBytes hex).length = 65 := by
      rw [Hex.toBytes_of_even heven, Hex.length_pairs, hlen]
    have hhex : Hex.ofBytes (Hex.toBytes hex) = hex := by
      rw [Hex.toBytes_of_even heven, Hex.ofBytes_pairs heven]
    have hdenotes := Signature.denotes_ofBytes hbytes hparity
    rw [hhex] at hdenotes
    exact ⟨_, hdenotes⟩

/-- A transaction in range is one of the node. -/
theorem EvNodeTransaction.InRange.exists_represents {tx : EvNodeTransaction} (h : tx.InRange) :
    ∃ nodeTx, tx.Represents nodeTx := by
  obtain ⟨chainId, hchainId⟩ := exists_toNat_eq h.chainId
  obtain ⟨nonce, hnonce⟩ := exists_toNat_eq h.nonce
  obtain ⟨maxPriorityFeePerGas, hpriority⟩ := exists_toNat_eq h.maxPriorityFeePerGas
  obtain ⟨maxFeePerGas, hmaxFee⟩ := exists_toNat_eq h.maxFeePerGas
  obtain ⟨gasLimit, hgasLimit⟩ := exists_toNat_eq h.gasLimit
  obtain ⟨calls, hcalls⟩ := List.exists_forall₂_iff.mpr fun call hmem =>
    (h.calls call hmem).exists_represents
  obtain ⟨accessList, haccess⟩ := List.exists_forall₂_iff.mpr fun item hmem =>
    (h.accessList item hmem).exists_represents
  have hsponsor : ∃ sig, Option.Rel Signature.Denotes tx.feePayerSignature sig := by
    cases hsig : tx.feePayerSignature with
    | none => exact ⟨none, .none⟩
    | some signature =>
      obtain ⟨sig, hdenotes⟩ := (h.feePayerSignature signature hsig).exists_denotes
      exact ⟨some sig, .some hdenotes⟩
  obtain ⟨sig, hsponsor⟩ := hsponsor
  exact ⟨⟨chainId, nonce, maxPriorityFeePerGas, maxFeePerGas, gasLimit, calls, accessList, sig⟩,
    hchainId, hnonce, hpriority, hmaxFee, hgasLimit, hcalls, haccess, hsponsor⟩

end EvReth.Clients
