import EvReth.Primitives.Encoding

/-!
# The database codec

How transactions are stored (`Compact`, `Compress` and `Decompress` in
`crates/ev-primitives/src/tx.rs`). An envelope is stored as a byte of flags, the signature, and the
type and payload of the transaction, compressed when its input has at least `32` bytes. What
`reth_codecs` provides is a parameter: the codecs of signatures, byte vectors and Ethereum payloads,
and the compression.

Decoding trusts the database and panics on data it does not understand. A stored transaction is read
back unless its type is one of the two that the type codec writes but does not read.
-/

namespace EvReth

/-- A panic while decoding. -/
inductive Panic where
  /-- `get_u8` on an empty buffer. -/
  | bufferExhausted
  /-- An identifier that `TxType::from_compact` does not know. -/
  | unsupportedTxType (identifier : ℕ)
  /-- "failed to decode EvTxType from database: unknown identifier". -/
  | unknownIdentifier (extendedIdentifier : UInt8)
  /-- "failed to decode EvNodeTransaction from database". -/
  | invalidTransaction (e : Rlp.Error)
  deriving DecidableEq, Repr

/-- `get_u8`. -/
def getU8 : Bytes → Except Panic (UInt8 × Bytes)
  | [] => .error .bufferExhausted
  | b :: rest => .ok (b, rest)

/-- What `reth_codecs` provides. -/
structure RethCodecs (Payload : TxType → Type) where
  /-- The bytes of a signature, and the bit that goes into the flags. -/
  signatureToCompact : Signature → Bytes × Bool
  signatureFromCompact : Bytes → Bool → Signature × Bytes
  zstdCompress : Bytes → Bytes
  zstdDecompress : Bytes → Bytes
  vecToCompact : Bytes → Bytes
  vecFromCompact : Bytes → ℕ → Bytes × Bytes
  /-- The calldata of an Ethereum payload. -/
  payloadInput : ∀ {ty}, Payload ty → Bytes
  payloadToCompact : ∀ {ty}, Payload ty → Bytes
  payloadFromCompact : ∀ ty, Bytes → Payload ty × Bytes

/-- The codecs of `reth_codecs` read back what they have written. -/
structure RethCodecs.RoundTrip {Payload : TxType → Type} (codecs : RethCodecs Payload) : Prop where
  signature : ∀ signature rest, codecs.signatureFromCompact
    ((codecs.signatureToCompact signature).1 ++ rest) (codecs.signatureToCompact signature).2 =
      (signature, rest)
  zstd : ∀ bs, codecs.zstdDecompress (codecs.zstdCompress bs) = bs
  vec : ∀ bs, codecs.vecFromCompact (codecs.vecToCompact bs) (codecs.vecToCompact bs).length =
    (bs, [])
  payload : ∀ ty (tx : Payload ty),
    codecs.payloadFromCompact ty (codecs.payloadToCompact tx) = (tx, [])

/-! ## Transaction types -/

/-- `COMPACT_EXTENDED_IDENTIFIER_FLAG`: the identifier is in the next byte. -/
def compactExtendedIdentifierFlag : ℕ := 3

/-- `TxType::to_compact`: the bytes written, and the identifier. -/
def TxType.toCompact : TxType → Bytes × ℕ
  | .legacy => ([], 0)
  | .eip2930 => ([], 1)
  | .eip1559 => ([], 2)
  | .eip4844 => ([0x03], compactExtendedIdentifierFlag)
  | .eip7702 => ([0x04], compactExtendedIdentifierFlag)

/-- `TxType::from_compact`. -/
def TxType.fromCompact (buf : Bytes) (identifier : ℕ) : Except Panic (TxType × Bytes) :=
  if identifier = 0 then .ok (.legacy, buf)
  else if identifier = 1 then .ok (.eip2930, buf)
  else if identifier = 2 then .ok (.eip1559, buf)
  -- EIP-4844 and EIP-7702 do not fit in the two bits and take a byte of their own
  else if identifier = compactExtendedIdentifierFlag then do
    let (extendedIdentifier, buf) ← getU8 buf
    if extendedIdentifier = 0x03 then .ok (.eip4844, buf)
    else if extendedIdentifier = 0x04 then .ok (.eip7702, buf)
    else .error (.unsupportedTxType extendedIdentifier.toNat)
  else .error (.unsupportedTxType identifier)

/-- `to_compact` of `EvTxType`. -/
def EvTxType.toCompact : EvTxType → Bytes × ℕ
  | .ethereum inner => inner.toCompact
  | .evNode => ([evnodeTxTypeId], compactExtendedIdentifierFlag)

/-- `from_compact` of `EvTxType`. Of the extended identifiers only that of an EvNode transaction is
known. -/
def EvTxType.fromCompact (buf : Bytes) (identifier : ℕ) : Except Panic (EvTxType × Bytes) :=
  if identifier = compactExtendedIdentifierFlag then do
    let (extendedIdentifier, buf) ← getU8 buf
    if extendedIdentifier = evnodeTxTypeId then .ok (.evNode, buf)
    else .error (.unknownIdentifier extendedIdentifier)
  else do
    let (inner, buf) ← TxType.fromCompact buf identifier
    .ok (.ethereum inner, buf)

/-! ## Transactions and envelopes -/

section Codec

variable {Payload : TxType → Type} (codecs : RethCodecs Payload)

/-- `to_compact` of `EvNodeTransaction`: its RLP encoding as a byte vector. -/
def EvNodeTransaction.toCompact (tx : EvNodeTransaction) : Bytes := codecs.vecToCompact tx.encode

/-- `from_compact` of `EvNodeTransaction`. -/
def EvNodeTransaction.fromCompact (buf : Bytes) (len : ℕ) :
    Except Panic (EvNodeTransaction × Bytes) :=
  let (bytes, buf) := codecs.vecFromCompact buf len
  match EvNodeTransaction.decode bytes with
  | .ok decoded _ => .ok (decoded, buf)
  | .error e _ => .error (.invalidTransaction e)

namespace EvTxEnvelope

/-- `input`: the calldata, of the first call in an EvNode transaction. -/
def input : EvTxEnvelope Payload → Bytes
  | .ethereum tx => codecs.payloadInput tx.tx
  | .evNode tx _ => tx.input

/-- `to_tx_compact`. -/
def toTxCompact : EvTxEnvelope Payload → Bytes
  | .ethereum tx => codecs.payloadToCompact tx.tx
  | .evNode tx _ => tx.toCompact codecs

/-- `from_tx_compact`. -/
def fromTxCompact (buf : Bytes) (txType : EvTxType) (signature : Signature) :
    Except Panic (EvTxEnvelope Payload × Bytes) :=
  match txType with
  | .ethereum inner =>
    let (tx, buf) := codecs.payloadFromCompact inner buf
    .ok (.ethereum { txType := inner, tx, signature }, buf)
  | .evNode => do
    -- the length passed on is that of all that is left
    let (tx, buf) ← EvNodeTransaction.fromCompact codecs buf buf.length
    .ok (.evNode tx signature, buf)

/-- The flags of a stored envelope: signature, two bits of type, compression. -/
def compactFlags (signatureBit : Bool) (txBits : ℕ) (zstdBit : Bool) : UInt8 :=
  signatureBit.toUInt8 ||| (UInt8.ofNat txBits <<< 1) ||| (zstdBit.toUInt8 <<< 3)

/-- `CompactEnvelope::to_compact`. -/
def toCompact (self : EvTxEnvelope Payload) : Bytes :=
  let (signature, signatureBit) := codecs.signatureToCompact self.signature
  -- inputs from 32 bytes on are compressed
  let zstdBit : Bool := 32 ≤ (self.input codecs).length
  let (txType, txBits) := self.txType.toCompact
  let tx := txType ++ self.toTxCompact codecs
  compactFlags signatureBit txBits zstdBit ::
    (signature ++ if zstdBit then codecs.zstdCompress tx else tx)

/-- `CompactEnvelope::from_compact`. -/
def fromCompact (buf : Bytes) : Except Panic (EvTxEnvelope Payload × Bytes) := do
  let (flags, buf) ← getU8 buf
  let signatureBit : Bool := flags &&& 1 ≠ 0
  -- bits 1 and 2, then bit 3
  let txBits := ((flags &&& 6) >>> 1).toNat
  let zstdBit : Bool := flags >>> 3 ≠ 0
  let (signature, buf) := codecs.signatureFromCompact buf signatureBit
  if zstdBit then
    let decompressed := codecs.zstdDecompress buf
    let (txType, txBuf) ← EvTxType.fromCompact decompressed txBits
    let (tx, _) ← fromTxCompact codecs txBuf txType signature
    -- what follows the compressed part is not looked at
    .ok (tx, buf)
  else
    let (txType, buf) ← EvTxType.fromCompact buf txBits
    fromTxCompact codecs buf txType signature

/-- `compress`. -/
def compress (self : EvTxEnvelope Payload) : Bytes := self.toCompact codecs

/-- `decompress`: the envelope, unless decoding panics. -/
def decompress (value : Bytes) : Except Panic (EvTxEnvelope Payload) := do
  let (obj, _) ← fromCompact codecs value
  .ok obj

end EvTxEnvelope

/-! ## What is read back -/

/-- The type codec does not read back the extended identifiers of Ethereum types. -/
def EvTxType.ReadBack (ty : EvTxType) : Prop := ty ≠ .ethereum .eip4844 ∧ ty ≠ .ethereum .eip7702

/-- The identifier of a type fits into two bits. -/
theorem EvTxType.toCompact_lt (ty : EvTxType) : ty.toCompact.2 < 4 := by
  rcases ty with (_ | _ | _ | _ | _) | _ <;> decide

/-- The types that can be read back are read back. -/
theorem EvTxType.fromCompact_toCompact {ty : EvTxType} (h : ty.ReadBack) (rest : Bytes) :
    EvTxType.fromCompact (ty.toCompact.1 ++ rest) ty.toCompact.2 = .ok (ty, rest) := by
  rcases ty with (_ | _ | _ | _ | _) | _
  · rfl
  · rfl
  · rfl
  -- the two types whose extended identifier is not read
  · exact absurd rfl h.1
  · exact absurd rfl h.2
  · rfl

/-- The other types are written, and nothing reads them. -/
theorem EvTxType.fromCompact_panics {ty : EvTxType} (h : ¬ ty.ReadBack) (rest : Bytes) :
    ∃ id, EvTxType.fromCompact (ty.toCompact.1 ++ rest) ty.toCompact.2 =
      .error (.unknownIdentifier id) := by
  rcases ty with (_ | _ | _ | _ | _) | _
  · exact absurd ⟨nofun, nofun⟩ h
  · exact absurd ⟨nofun, nofun⟩ h
  · exact absurd ⟨nofun, nofun⟩ h
  · exact ⟨0x03, rfl⟩
  · exact ⟨0x04, rfl⟩
  · exact absurd ⟨nofun, nofun⟩ h

variable {codecs}

/-- EvNode transactions are read back. -/
theorem EvNodeTransaction.fromCompact_toCompact (hcodecs : codecs.RoundTrip)
    (tx : EvNodeTransaction) (hsize : tx.encode.length < 2 ^ 64) :
    EvNodeTransaction.fromCompact codecs (tx.toCompact codecs) (tx.toCompact codecs).length =
      .ok (tx, []) := by
  have hdecode := tx.decodes_encode hsize []
  rw [List.append_nil] at hdecode
  simp only [EvNodeTransaction.fromCompact, EvNodeTransaction.toCompact, hcodecs.vec, hdecode]

namespace EvTxEnvelope

/-- The flags are read back. -/
theorem compactFlags_bits (signatureBit zstdBit : Bool) {txBits : ℕ} (h : txBits < 4) :
    decide (compactFlags signatureBit txBits zstdBit &&& 1 ≠ 0) = signatureBit ∧
      ((compactFlags signatureBit txBits zstdBit &&& 6) >>> 1).toNat = txBits ∧
      decide (compactFlags signatureBit txBits zstdBit >>> 3 ≠ 0) = zstdBit := by
  -- sixteen combinations
  have hall : ∀ (n : Fin 4) (s z : Bool),
      decide (compactFlags s n z &&& 1 ≠ 0) = s ∧
        ((compactFlags s n z &&& 6) >>> 1).toNat = n ∧
        decide (compactFlags s n z >>> 3 ≠ 0) = z := by
    decide
  exact hall ⟨txBits, h⟩ signatureBit zstdBit

/-- Transactions of every type are read back, given their type. -/
theorem fromTxCompact_toTxCompact (hcodecs : codecs.RoundTrip) (t : EvTxEnvelope Payload)
    (hsize : ∀ tx signature, t = .evNode tx signature → tx.encode.length < 2 ^ 64) :
    fromTxCompact codecs (t.toTxCompact codecs) t.txType t.signature = .ok (t, []) := by
  cases t with
  | ethereum tx => simp only [fromTxCompact, toTxCompact, txType, signature, hcodecs.payload]
  | evNode tx sig =>
    simp only [fromTxCompact, toTxCompact, txType, signature]
    rw [EvNodeTransaction.fromCompact_toCompact hcodecs tx (hsize tx sig rfl)]
    rfl

/-- Decompression reads the type and the transaction from what was stored, compressed or not. -/
theorem decompress_compress_eq (hcodecs : codecs.RoundTrip) (t : EvTxEnvelope Payload) :
    decompress codecs (t.compress codecs) = (do
      let (txType, buf) ←
        EvTxType.fromCompact (t.txType.toCompact.1 ++ t.toTxCompact codecs) t.txType.toCompact.2
      let (tx, _) ← fromTxCompact codecs buf txType t.signature
      .ok tx) := by
  obtain ⟨hsig, htype, hzstd⟩ := compactFlags_bits (codecs.signatureToCompact t.signature).2
    (decide (32 ≤ (t.input codecs).length)) t.txType.toCompact_lt
  simp only [decompress, compress, toCompact, fromCompact, getU8, bind, Except.bind, hsig, htype,
    hzstd, hcodecs.signature]
  -- with and without compression the same bytes reach the two decoders
  by_cases hlong : 32 ≤ (t.input codecs).length
  · simp only [hlong, decide_true, if_true, hcodecs.zstd]
    cases EvTxType.fromCompact (t.txType.toCompact.1 ++ t.toTxCompact codecs)
        t.txType.toCompact.2 with
    | error e => rfl
    | ok out =>
      simp only
      cases fromTxCompact codecs out.2 out.1 t.signature <;> rfl
  · simp only [hlong, decide_false, Bool.false_eq_true, if_false]
    cases EvTxType.fromCompact (t.txType.toCompact.1 ++ t.toTxCompact codecs)
        t.txType.toCompact.2 <;> rfl

/-- Every stored transaction is read back, compressed or not, except those of EIP-4844 and EIP-7702:
the type codec delegates writing their extended identifiers but reads only that of EvNode
transactions. -/
theorem decompress_compress_iff (codecs : RethCodecs Payload) (hcodecs : codecs.RoundTrip)
    (t : EvTxEnvelope Payload)
    (hsize : ∀ tx signature, t = .evNode tx signature → tx.encode.length < 2 ^ 64) :
    decompress codecs (t.compress codecs) = .ok t ↔
      t.txType ≠ .ethereum .eip4844 ∧ t.txType ≠ .ethereum .eip7702 := by
  change _ ↔ t.txType.ReadBack
  rw [decompress_compress_eq hcodecs]
  constructor
  · intro h
    -- a type that is not read back makes the type decoder panic, so nothing is returned
    by_contra hpanics
    obtain ⟨id, hid⟩ := EvTxType.fromCompact_panics hpanics (t.toTxCompact codecs)
    rw [hid] at h
    cases h
  · intro h
    rw [EvTxType.fromCompact_toCompact h]
    change (fromTxCompact codecs (t.toTxCompact codecs) t.txType t.signature >>= fun out =>
      .ok out.1) = .ok t
    rw [fromTxCompact_toTxCompact hcodecs t hsize]
    rfl

end EvTxEnvelope

end Codec

/-! ## The layout of stored bytes

Concrete codecs with the byte layout of `reth_codecs` for signatures and byte vectors, for Ethereum
payloads that consist of their input alone and transactions that are not compressed. -/

/-- `encode_varuint`: seven bits in each byte, lowest first. -/
def encodeVaruint (n : ℕ) : Bytes :=
  if n < 0x80 then [UInt8.ofNat n] else UInt8.ofNat (n % 128 + 128) :: encodeVaruint (n / 128)

/-- `decode_varuint`. -/
def decodeVaruint : Bytes → ℕ × Bytes
  | [] => (0, [])
  | b :: rest =>
    if b.toNat < 0x80 then (b.toNat, rest)
    else (b.toNat - 128 + 128 * (decodeVaruint rest).1, (decodeVaruint rest).2)

/-- `to_compact` of a `u8`: nothing for zero. -/
def byteToCompact (b : UInt8) : Bytes := if b = 0 then [] else [b]

/-- `from_compact` of a `u8`, from all bytes of its encoding. -/
def byteFromCompact (bs : Bytes) : UInt8 := bs.headD 0

/-- The elements of a byte vector, each with its length. -/
def elementToCompact (b : UInt8) : Bytes :=
  encodeVaruint (byteToCompact b).length ++ byteToCompact b

/-- Read `n` elements of a byte vector. -/
def elementsFromCompact : ℕ → Bytes → Bytes × Bytes
  | 0, buf => ([], buf)
  | n + 1, buf =>
    let (length, buf) := decodeVaruint buf
    let (bs, rest) := elementsFromCompact n (buf.drop length)
    (byteFromCompact (buf.take length) :: bs, rest)

/-- The codecs. -/
def layoutCodecs : RethCodecs (fun _ => Bytes) :=
  { signatureToCompact := fun signature =>
      ((wordBytes signature.r).reverse ++ (wordBytes signature.s).reverse, signature.yParity)
    signatureFromCompact := fun buf yParity =>
      ({ r := wordOfBytes 256 (buf.take 32).reverse
         s := wordOfBytes 256 ((buf.drop 32).take 32).reverse
         yParity }, buf.drop 64)
    zstdCompress := id
    zstdDecompress := id
    vecToCompact := fun bs => encodeVaruint bs.length ++ bs.flatMap elementToCompact
    vecFromCompact := fun buf _ => elementsFromCompact (decodeVaruint buf).1 (decodeVaruint buf).2
    payloadInput := fun tx => tx
    payloadToCompact := fun tx => tx
    payloadFromCompact := fun _ buf => (buf, []) }

/-- Lengths are read back. -/
theorem decodeVaruint_encodeVaruint (n : ℕ) (rest : Bytes) :
    decodeVaruint (encodeVaruint n ++ rest) = (n, rest) := by
  induction n using Nat.strongRecOn with
  | ind n ih =>
    rw [encodeVaruint]
    -- by induction on the value: each byte but the last divides it by 128
    by_cases hsmall : n < 0x80
    · have hbyte : (UInt8.ofNat n).toNat = n := by
        rw [UInt8.toNat_ofNat']
        omega
      rw [if_pos hsmall, List.singleton_append, decodeVaruint, hbyte, if_pos hsmall]
    · have hbyte : (UInt8.ofNat (n % 128 + 128)).toNat = n % 128 + 128 := by
        rw [UInt8.toNat_ofNat']
        omega
      rw [if_neg hsmall, List.cons_append, decodeVaruint, hbyte, if_neg (by omega),
        ih (n / 128) (by omega)]
      simp only [Nat.add_sub_cancel, Prod.mk.injEq, and_true]
      omega

/-- Lists of bytes are read back. -/
theorem elementsFromCompact_flatMap (bs rest : Bytes) :
    elementsFromCompact bs.length (bs.flatMap elementToCompact ++ rest) = (bs, rest) := by
  induction bs with
  | nil => rfl
  | cons b bs ih =>
    -- a zero byte is stored as nothing and read as the default
    have hbyte : byteFromCompact (byteToCompact b) = b := by
      unfold byteToCompact byteFromCompact
      split_ifs with hzero
      · exact hzero.symm
      · rfl
    have hcons : elementToCompact b =
        encodeVaruint (byteToCompact b).length ++ byteToCompact b := rfl
    rw [List.flatMap_cons, hcons]
    simp only [List.length_cons, List.append_assoc, elementsFromCompact,
      decodeVaruint_encodeVaruint, List.take_left, List.drop_left, hbyte, ih]

/-- Signatures are read back. -/
theorem layoutCodecs_signature (signature : Signature) (rest : Bytes) :
    layoutCodecs.signatureFromCompact ((layoutCodecs.signatureToCompact signature).1 ++ rest)
      (layoutCodecs.signatureToCompact signature).2 = (signature, rest) := by
  have hr : (wordBytes signature.r).reverse.length = 32 := by simp
  have hs : (wordBytes signature.s).reverse.length = 32 := by simp
  have hbuf : (layoutCodecs.signatureToCompact signature).1 ++ rest =
      (wordBytes signature.r).reverse ++ ((wordBytes signature.s).reverse ++ rest) :=
    List.append_assoc _ _ _
  have htake : ((layoutCodecs.signatureToCompact signature).1 ++ rest).take 32 =
      (wordBytes signature.r).reverse := by
    rw [hbuf, ← hr, List.take_left]
  have hdrop : ((layoutCodecs.signatureToCompact signature).1 ++ rest).drop 32 =
      (wordBytes signature.s).reverse ++ rest := by
    rw [hbuf, ← hr, List.drop_left]
  have hdrop' : ((layoutCodecs.signatureToCompact signature).1 ++ rest).drop 64 = rest := by
    rw [show 64 = 32 + 32 from rfl, ← List.drop_drop, hdrop, ← hs, List.drop_left]
  have hmiddle : ((wordBytes signature.s).reverse ++ rest).take 32 =
      (wordBytes signature.s).reverse := by
    rw [← hs, List.take_left]
  simp only [layoutCodecs] at htake hdrop hdrop' ⊢
  rw [htake, hdrop, hdrop', hmiddle, List.reverse_reverse, List.reverse_reverse,
    wordOfBytes_wordBytes (k := 32) rfl, wordOfBytes_wordBytes (k := 32) rfl]

theorem layoutCodecs_roundTrip : layoutCodecs.RoundTrip := by
  refine ⟨layoutCodecs_signature, fun _ => rfl, fun bs => ?_, fun _ _ => rfl⟩
  have hread := decodeVaruint_encodeVaruint bs.length (bs.flatMap elementToCompact)
  have helements := elementsFromCompact_flatMap bs []
  rw [List.append_nil] at helements
  simp only [layoutCodecs]
  rw [hread, helements]

namespace EvTxEnvelope

/-- A sponsored contract creation. -/
def storedEvNode : EvTxEnvelope fun _ => Bytes :=
  .evNode
    { chainId := 1
      nonce := 1
      maxPriorityFeePerGas := 1
      maxFeePerGas := 2
      gasLimit := 30000
      calls := [⟨.create, 1, []⟩]
      accessList := []
      feePayerSignature := some ⟨1, 2, true⟩ } ⟨3, 4, false⟩

/-- A blob transaction. -/
def storedBlob : EvTxEnvelope fun _ => Bytes :=
  .ethereum { txType := .eip4844, tx := [], signature := ⟨3, 4, false⟩ }

/-- The stored creation is read back. -/
theorem decompress_compress_evNode :
    layoutCodecs.RoundTrip ∧
      decompress layoutCodecs (storedEvNode.compress layoutCodecs) = .ok storedEvNode := by
  refine ⟨layoutCodecs_roundTrip, (decompress_compress_iff layoutCodecs layoutCodecs_roundTrip
    storedEvNode ?_).mpr ⟨nofun, nofun⟩⟩
  rintro _ _ ⟨⟩
  decide

/-- Reading the stored blob transaction panics. -/
theorem decompress_compress_blob :
    layoutCodecs.RoundTrip ∧
      decompress layoutCodecs (storedBlob.compress layoutCodecs) =
        .error (.unknownIdentifier 0x03) :=
  ⟨layoutCodecs_roundTrip, rfl⟩

end EvTxEnvelope

end EvReth
