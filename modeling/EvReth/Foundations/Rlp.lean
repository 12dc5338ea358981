import EvReth.Foundations.BigEndian
import EvReth.Foundations.StateExcept

/-!
# Recursive length prefix encoding

RLP encodes byte strings and lists of encodings, each behind a header that states its kind and
length. Encoders return byte strings; a `Decoder` reads from the front of a buffer and leaves the
rest, or fails with an `Error`. Decoding is strict: it accepts the shortest header only, and
integers without leading zeros.

`Decodes dec bytes a` says that `dec` reads `bytes` as `a` in front of anything. Its rules follow
the structure of encodings, so that a round trip is proved one field at a time.
-/

namespace Rlp

open EStateM

/-- Errors of decoding. -/
inductive Error where
  | overflow
  | leadingZero
  | inputTooShort
  | nonCanonicalSingleByte
  | nonCanonicalSize
  | unexpectedLength
  | unexpectedString
  | unexpectedList
  | listLengthMismatch (expected got : ℕ)
  | custom (msg : String)
  deriving DecidableEq, Repr

/-- A decoder works on the part of the input that is not read yet. -/
abbrev Decoder := EStateM Error (List UInt8)

/-! ## Headers -/

/-- The header of an encoding. -/
structure Header where
  list : Bool
  payloadLength : ℕ
  deriving DecidableEq, Repr

/-- Lengths below `56` are part of the first byte; others follow it in as few bytes as they need. -/
def Header.encode (header : Header) : List UInt8 :=
  if header.payloadLength < 56 then
    [UInt8.ofNat ((if header.list then 0xC0 else 0x80) + header.payloadLength)]
  else
    let lenBytes := BigEndian.minimal 8 header.payloadLength
    UInt8.ofNat ((if header.list then 0xF7 else 0xB7) + lenBytes.length) :: lenBytes

/-- The number that at most `k` bytes without leading zeros denote. -/
def uintOfBytes (k : ℕ) (bs : List UInt8) : Except Error ℕ :=
  if k < bs.length then .error .overflow
  else if bs.head? = some 0 then .error .leadingZero
  else .ok (BigEndian.value bs)

/-- Return the header if the rest of the input is long enough for its payload. -/
def Header.checked (header : Header) : Decoder Header := fun buf =>
  if buf.length < header.payloadLength then .error .inputTooShort buf else .ok header buf

/-- Read a header. A byte below `0x80` is its own encoding and is left in the input. -/
def Header.decode : Decoder Header
  | [] => .error .inputTooShort []
  | b :: rest =>
    -- a single byte
    if b.toNat < 0x80 then .ok { list := false, payloadLength := 1 } (b :: rest)
    -- a short string
    else if b.toNat < 0xB8 then
      let header : Header := { list := false, payloadLength := b.toNat - 0x80 }
      -- a byte that needs no header must not have one
      if header.payloadLength = 1 then
        match rest with
        | [] => .error .inputTooShort []
        | c :: _ =>
          if c.toNat < 0x80 then .error .nonCanonicalSingleByte rest else header.checked rest
      else header.checked rest
    -- a long string or a long list: the length of the length, then the length
    else if b.toNat < 0xC0 ∨ 0xF8 ≤ b.toNat then
      let list : Bool := 0xF8 ≤ b.toNat
      let lenOfLen := b.toNat - if list then 0xF7 else 0xB7
      if rest.length < lenOfLen then .error .inputTooShort rest
      else
        match uintOfBytes 8 (rest.take lenOfLen) with
        | .error e => .error e (rest.drop lenOfLen)
        | .ok payloadLength =>
          if payloadLength < 56 then .error .nonCanonicalSize (rest.drop lenOfLen)
          else Header.checked { list, payloadLength } (rest.drop lenOfLen)
    -- a short list
    else Header.checked { list := true, payloadLength := b.toNat - 0xC0 } rest

/-! ## Strings, integers and lists -/

/-- Read `n` bytes. -/
def take (n : ℕ) : Decoder (List UInt8) := fun buf => .ok (buf.take n) (buf.drop n)

/-- Read a header of the given kind and the payload behind it. -/
def decodePayload (list : Bool) : Decoder (List UInt8) := do
  let header ← Header.decode
  if header.list ≠ list then
    throw (if list then .unexpectedString else .unexpectedList)
  take header.payloadLength

/-- A byte string. A single byte below `0x80` has no header. -/
def encodeBytes : List UInt8 → List UInt8
  | [b] =>
    if b.toNat < 0x80 then [b] else Header.encode { list := false, payloadLength := 1 } ++ [b]
  | bs => Header.encode { list := false, payloadLength := bs.length } ++ bs

/-- Read a byte string. -/
def decodeBytes : Decoder (List UInt8) := decodePayload false

/-- Read a byte string of `n` bytes. -/
def decodeFixed (n : ℕ) : Decoder (List UInt8) := do
  let bs ← decodeBytes
  if bs.length ≠ n then
    throw .unexpectedLength
  return bs

/-- An unsigned integer of `k` bytes, without leading zeros. -/
def encodeUint (k n : ℕ) : List UInt8 := encodeBytes (BigEndian.minimal k n)

/-- Read an unsigned integer of at most `k` bytes. -/
def decodeUint (k : ℕ) : Decoder ℕ := do
  let bs ← decodeBytes
  match uintOfBytes k bs with
  | .error e => throw e
  | .ok n => return n

/-- A list, given the concatenated encodings of its elements. -/
def encodeList (payload : List UInt8) : List UInt8 :=
  Header.encode { list := true, payloadLength := payload.length } ++ payload

/-- A list of values of one type. -/
def encodeVec {α : Type} (encode : α → List UInt8) (xs : List α) : List UInt8 :=
  encodeList (xs.flatMap encode)

/-- Read values until the input is empty. `fuel` bounds their number; the length of the input is
enough, since no encoding is empty. -/
def decodeItems {α : Type} (decode : Decoder α) : ℕ → Decoder (List α)
  | 0 => do
    if !(← get).isEmpty then
      throw .inputTooShort
    return []
  | fuel + 1 => do
    if (← get).isEmpty then
      return []
    let x ← decode
    let xs ← decodeItems decode fuel
    return x :: xs

/-- Read a list of values of one type. -/
def decodeVec {α : Type} (decode : Decoder α) : Decoder (List α) := do
  let payload ← decodePayload true
  match decodeItems decode payload.length payload with
  | .error e _ => throw e
  | .ok xs _ => return xs

/-- Read a list whose elements are the fields of a record; they must take up its payload exactly. -/
def decodeRecord {α : Type} (mismatch : ℕ → ℕ → Error) (fields : Decoder α) : Decoder α := do
  let header ← Header.decode
  if !header.list then
    throw .unexpectedString
  let started ← get
  let record ← fields
  let consumed := started.length - (← get).length
  if consumed ≠ header.payloadLength then
    throw (mismatch header.payloadLength consumed)
  return record

/-! ## Round trips -/

/-- The decoder reads `bytes`, in front of anything, as `a`. -/
def Decodes {α : Type} (dec : Decoder α) (bytes : List UInt8) (a : α) : Prop :=
  ∀ rest, dec (bytes ++ rest) = .ok a rest

section Rules

variable {α β : Type} {bs cs : List UInt8}

/-- What two decoders read one after the other. -/
theorem Decodes.bind {dec : Decoder α} {f : α → Decoder β} {a : α} {b : β} (h : Decodes dec bs a)
    (hf : Decodes (f a) cs b) : Decodes (dec >>= f) (bs ++ cs) b := by
  intro rest
  rw [List.append_assoc, bind_of_ok (h (cs ++ rest))]
  exact hf rest

/-- A last step that reads nothing. -/
theorem Decodes.bind_pure {dec : Decoder α} {f : α → Decoder β} {a : α} {b : β}
    (h : Decodes dec bs a) (hf : ∀ buf, f a buf = .ok b buf) : Decodes (dec >>= f) bs b := by
  intro rest
  rw [bind_of_ok (h rest)]
  exact hf rest

end Rules

theorem Header.checked_of_le {header : Header} {buf : List UInt8}
    (h : header.payloadLength ≤ buf.length) : header.checked buf = .ok header buf :=
  if_neg (Nat.not_lt.mpr h)

/-- The minimal bytes of a number are read as the number. -/
theorem uintOfBytes_minimal {k n : ℕ} (h : n < 256 ^ k) :
    uintOfBytes k (BigEndian.minimal k n) = .ok n := by
  rw [uintOfBytes, if_neg (Nat.not_lt.mpr (BigEndian.length_minimal_le k n)),
    if_neg (BigEndian.head?_minimal_ne_zero k n), BigEndian.value_minimal h]

/-- A header of one byte is read back, unless the payload is its own header. -/
theorem Header.decode_encode_short {list : Bool} {payload : List UInt8} (hlen : payload.length < 56)
    (hsingle : list = false → ∀ b, payload = [b] → 0x80 ≤ b.toNat) (rest : List UInt8) :
    Header.decode (Header.encode { list, payloadLength := payload.length } ++ (payload ++ rest)) =
      .ok { list, payloadLength := payload.length } (payload ++ rest) := by
  -- the check behind the header passes, whatever its kind
  have hchecked : ∀ list,
      Header.checked { list, payloadLength := payload.length } (payload ++ rest) =
        .ok { list, payloadLength := payload.length } (payload ++ rest) :=
    fun _ => Header.checked_of_le (by simp)
  rw [Header.encode, if_pos hlen]
  cases list with
  | true =>
    have hbyte : (UInt8.ofNat (0xC0 + payload.length)).toNat = 0xC0 + payload.length := by
      rw [UInt8.toNat_ofNat']
      omega
    simp only [if_true, List.singleton_append, Header.decode, hbyte]
    rw [if_neg (by omega), if_neg (by omega), if_neg (by omega), Nat.add_sub_cancel_left]
    exact hchecked true
  | false =>
    have hbyte : (UInt8.ofNat (0x80 + payload.length)).toNat = 0x80 + payload.length := by
      rw [UInt8.toNat_ofNat']
      omega
    simp only [Bool.false_eq_true, if_false, List.singleton_append, Header.decode, hbyte,
      Nat.add_sub_cancel_left]
    rw [if_neg (by omega), if_pos (by omega)]
    -- one byte: the canonicity check is the only one that can fail
    by_cases hone : payload.length = 1
    · obtain ⟨b, rfl⟩ := List.length_eq_one_iff.mp hone
      rw [if_pos hone]
      simp only [List.singleton_append]
      rw [if_neg (Nat.not_lt.mpr (hsingle rfl b rfl))]
      exact hchecked false
    · rw [if_neg hone]
      exact hchecked false

/-- A header with a length of its own is read back. -/
theorem Header.decode_encode_long {list : Bool} {payload : List UInt8} (hlong : 56 ≤ payload.length)
    (hlen : payload.length < 2 ^ 64) (rest : List UInt8) :
    Header.decode (Header.encode { list, payloadLength := payload.length } ++ (payload ++ rest)) =
      .ok { list, payloadLength := payload.length } (payload ++ rest) := by
  have hlen' : payload.length < 256 ^ 8 := by omega
  have hle := BigEndian.length_minimal_le 8 payload.length
  have hpos : 0 < (BigEndian.minimal 8 payload.length).length :=
    List.length_pos_iff.mpr (BigEndian.minimal_ne_nil (by omega) hlen')
  have hvalue := uintOfBytes_minimal hlen'
  rw [Header.encode, if_neg (Nat.not_lt.mpr hlong)]
  -- the first byte, for either kind
  obtain ⟨code, hcode, hlist⟩ : ∃ code, code = (if list then 0xF7 else 0xB7) ∧
      (list = true ∧ code = 0xF7 ∨ list = false ∧ code = 0xB7) := by
    cases list <;> simp
  have hbyte : (UInt8.ofNat (code + (BigEndian.minimal 8 payload.length).length)).toNat =
      code + (BigEndian.minimal 8 payload.length).length := by
    rw [UInt8.toNat_ofNat']
    omega
  -- the first byte tells the two kinds apart
  have hkind : decide (0xF8 ≤ code + (BigEndian.minimal 8 payload.length).length) = list := by
    rcases hlist with ⟨rfl, rfl⟩ | ⟨rfl, rfl⟩
    · simp only [decide_eq_true_eq]
      omega
    · simp only [decide_eq_false_iff_not]
      omega
  simp only [← hcode, List.cons_append, Header.decode, hbyte, hkind, Nat.add_sub_cancel_left,
    List.take_left, List.drop_left, hvalue]
  rw [if_neg (by omega), if_neg (by omega), if_pos (by omega), if_neg (by simp), if_neg (by omega)]
  exact Header.checked_of_le (by simp)

/-- The header of a payload of less than `2 ^ 64` bytes is read back. A string of one byte has a
header only if the byte is at least `0x80`. -/
theorem Header.decode_encode {list : Bool} {payload : List UInt8} (hlen : payload.length < 2 ^ 64)
    (hsingle : list = false → ∀ b, payload = [b] → 0x80 ≤ b.toNat) (rest : List UInt8) :
    Header.decode (Header.encode { list, payloadLength := payload.length } ++ (payload ++ rest)) =
      .ok { list, payloadLength := payload.length } (payload ++ rest) := by
  by_cases hshort : payload.length < 56
  · exact Header.decode_encode_short hshort hsingle rest
  · exact Header.decode_encode_long (Nat.le_of_not_lt hshort) hlen rest

/-- Behind its header a payload is read as long as it is. -/
theorem decodePayload_of_header {list : Bool} {payload buf rest : List UInt8}
    (h : Header.decode buf = .ok { list, payloadLength := payload.length } (payload ++ rest)) :
    decodePayload list buf = .ok payload rest := by
  unfold decodePayload
  rw [bind_of_ok h]
  simp only [ne_eq, not_true_eq_false, if_false]
  simp [take]

/-- A list is read back. -/
theorem decodePayload_encodeList {payload : List UInt8} (h : payload.length < 2 ^ 64) :
    Decodes (decodePayload true) (encodeList payload) payload := by
  intro rest
  refine decodePayload_of_header ?_
  rw [encodeList, List.append_assoc]
  exact Header.decode_encode h (fun hlist => by cases hlist) rest

/-- A string of another length than one is written behind a header. -/
theorem encodeBytes_of_length_ne_one {bs : List UInt8} (h : bs.length ≠ 1) :
    encodeBytes bs = Header.encode { list := false, payloadLength := bs.length } ++ bs := by
  match bs with
  | [] => rfl
  | [b] => exact absurd rfl h
  | _ :: _ :: _ => rfl

/-- Byte strings are read back. -/
theorem decodeBytes_encodeBytes {bs : List UInt8} (h : bs.length < 2 ^ 64) :
    Decodes decodeBytes (encodeBytes bs) bs := by
  intro rest
  refine decodePayload_of_header ?_
  by_cases hone : bs.length = 1
  · obtain ⟨b, rfl⟩ := List.length_eq_one_iff.mp hone
    rw [encodeBytes]
    split_ifs with hb
    -- no header: the byte is its own encoding
    · simp [Header.decode, hb]
    · have hsingle : ∀ c, [b] = [c] → 0x80 ≤ c.toNat := by
        rintro _ ⟨⟩
        exact Nat.le_of_not_lt hb
      rw [List.append_assoc]
      exact Header.decode_encode h (fun _ => hsingle) rest
  · rw [encodeBytes_of_length_ne_one hone, List.append_assoc]
    refine Header.decode_encode h (fun _ b hb => ?_) rest
    exact absurd (congrArg List.length hb) hone

/-- A string of fixed length is read back. -/
theorem decodeFixed_encodeBytes {n : ℕ} {bs : List UInt8} (hn : bs.length = n) (h : n < 2 ^ 64) :
    Decodes (decodeFixed n) (encodeBytes bs) bs := by
  refine (decodeBytes_encodeBytes (hn ▸ h)).bind_pure fun buf => ?_
  simp only [hn, ne_eq, not_true_eq_false, if_false]
  rfl

/-- Integers that fit are read back. -/
theorem decodeUint_encodeUint {k n : ℕ} (hn : n < 256 ^ k) (h : k < 2 ^ 64) :
    Decodes (decodeUint k) (encodeUint k n) n := by
  have hlen := BigEndian.length_minimal_le k n
  refine (decodeBytes_encodeBytes (by omega)).bind_pure fun buf => ?_
  rw [uintOfBytes_minimal hn]
  rfl

/-- Items that are read back one by one are read back in a row. -/
theorem decodeItems_flatMap {α : Type} {dec : Decoder α} {enc : α → List UInt8} {xs : List α}
    (h : ∀ x ∈ xs, Decodes dec (enc x) x ∧ enc x ≠ []) {fuel : ℕ}
    (hfuel : (xs.flatMap enc).length ≤ fuel) :
    decodeItems dec fuel (xs.flatMap enc) = .ok xs [] := by
  induction xs generalizing fuel with
  | nil => cases fuel <;> rfl
  | cons x xs ih =>
    obtain ⟨hx, hne⟩ := h x List.mem_cons_self
    have hpos := List.length_pos_iff.mpr hne
    rw [List.flatMap_cons, List.length_append] at hfuel
    rw [List.flatMap_cons]
    cases fuel with
    -- an encoding is not empty, so the fuel is not used up before the input
    | zero => omega
    | succ fuel =>
      have hempty : ¬ (enc x ++ xs.flatMap enc).isEmpty := by simp [hne]
      refine bind_get.trans ?_
      simp only [hempty, Bool.false_eq_true, if_false]
      -- the first item, then the others by the induction hypothesis
      rw [bind_of_ok (hx _),
        bind_of_ok (ih (fun y hy => h y (List.mem_cons_of_mem _ hy)) (by omega))]
      rfl

/-- Lists are read back when their elements are. -/
theorem decodeVec_encodeVec {α : Type} {dec : Decoder α} {enc : α → List UInt8} {xs : List α}
    (h : ∀ x ∈ xs, Decodes dec (enc x) x ∧ enc x ≠ []) (hlen : (xs.flatMap enc).length < 2 ^ 64) :
    Decodes (decodeVec dec) (encodeVec enc xs) xs := by
  refine (decodePayload_encodeList hlen).bind_pure fun buf => ?_
  rw [decodeItems_flatMap h le_rfl]
  rfl

/-- Records are read back when their fields are. -/
theorem decodeRecord_encodeList {α : Type} {mismatch : ℕ → ℕ → Error} {fields : Decoder α}
    {payload : List UInt8} {a : α} (h : Decodes fields payload a) (hlen : payload.length < 2 ^ 64) :
    Decodes (decodeRecord mismatch fields) (encodeList payload) a := by
  intro rest
  have hheader : Header.decode (encodeList payload ++ rest) =
      .ok { list := true, payloadLength := payload.length } (payload ++ rest) := by
    rw [encodeList, List.append_assoc]
    exact Header.decode_encode hlen (fun hlist => by cases hlist) rest
  unfold decodeRecord
  rw [bind_of_ok hheader]
  simp only [Bool.not_true, Bool.false_eq_true, if_false]
  refine bind_get.trans ?_
  rw [bind_of_ok (h rest)]
  refine bind_get.trans ?_
  -- the fields were all that was read since the header
  have hconsumed : (payload ++ rest).length - rest.length = payload.length := by simp
  simp only [hconsumed, ne_eq, not_true_eq_false, if_false]
  rfl

theorem encodeList_ne_nil (payload : List UInt8) : encodeList payload ≠ [] := by
  unfold encodeList Header.encode
  split_ifs <;> simp

theorem encodeBytes_ne_nil (bs : List UInt8) : encodeBytes bs ≠ [] := by
  unfold encodeBytes Header.encode
  split
  · split_ifs <;> simp
  · split_ifs <;> simp

/-! ## Lengths -/

theorem length_le_encodeList (payload : List UInt8) :
    payload.length ≤ (encodeList payload).length := by
  simp [encodeList]

/-- A list is longer than its payload, by its header. -/
theorem length_lt_encodeList (payload : List UInt8) :
    payload.length < (encodeList payload).length := by
  have hheader : Header.encode { list := true, payloadLength := payload.length } ≠ [] := by
    unfold Header.encode
    split_ifs <;> simp
  have hpos := List.length_pos_iff.mpr hheader
  rw [encodeList, List.length_append]
  omega

theorem length_le_encodeBytes (bs : List UInt8) : bs.length ≤ (encodeBytes bs).length := by
  unfold encodeBytes
  split
  · split_ifs <;> simp
  · simp

theorem length_le_flatMap {α : Type} {enc : α → List UInt8} {xs : List α} {x : α} (h : x ∈ xs) :
    (enc x).length ≤ (xs.flatMap enc).length := by
  rw [List.flatMap_def]
  exact (List.sublist_flatten_of_mem (List.mem_map_of_mem h)).length_le

end Rlp
