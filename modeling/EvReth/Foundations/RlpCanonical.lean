import EvReth.Foundations.Rlp

/-!
# Canonicity of recursive length prefix encoding

Three facts about RLP beyond its round trips:

* unique readability: what one decoder reads in front of anything, it reads in one way only, so
  that encodings can be concatenated without a header (`Decodes.eq_of_append`);
* canonicity: a decoder accepts nothing but encodings (`Canonical`);
* lengths: the length of a header can be computed without writing it (`Header.length_eq`).
-/

namespace Rlp

open EStateM

/-! ## Unique readability -/

section Unique

variable {α : Type} {dec : Decoder α} {bs cs r r' : List UInt8} {a b : α}

/-- What is read in front of anything is read in one way. -/
theorem Decodes.eq_of_append (h : Decodes dec bs a) (h' : Decodes dec cs b)
    (heq : bs ++ r = cs ++ r') : a = b ∧ r = r' := by
  have hread := h r
  rw [heq, h' r'] at hread
  obtain ⟨rfl, rfl⟩ := EStateM.Result.ok.inj hread
  exact ⟨rfl, rfl⟩

theorem Decodes.eq_of_eq (h : Decodes dec bs a) (h' : Decodes dec cs b) (heq : bs = cs) : a = b :=
  (h.eq_of_append h' (congrArg (· ++ []) heq)).1

end Unique

/-! ## Lengths of headers -/

/-- `length_of_length`: the number of bytes of a header. The leading zeros of a `usize` are those of
its `64` bits. -/
def lengthOfLength (payloadLength : ℕ) : ℕ :=
  if payloadLength < 56 then 1 else 1 + 64 / 8 - (63 - Nat.log 2 payloadLength) / 8

/-- `Header::length`. -/
def Header.length (header : Header) : ℕ := lengthOfLength header.payloadLength

/-- `Header::length_with_payload`. -/
def Header.lengthWithPayload (header : Header) : ℕ := header.length + header.payloadLength

/-- The length of a header is computed without writing it. -/
theorem Header.length_eq {header : Header} (h : header.payloadLength < 2 ^ 64) :
    header.length = header.encode.length := by
  unfold Header.length Header.encode lengthOfLength
  by_cases hshort : header.payloadLength < 56
  · rw [if_pos hshort, if_pos hshort]
    rfl
  · rw [if_neg hshort, if_neg hshort, List.length_cons,
      BigEndian.length_minimal (by omega) (by omega)]
    -- a byte has eight bits
    have hlog : Nat.log 256 header.payloadLength = Nat.log 2 header.payloadLength / 8 :=
      Nat.log_pow_left 2 8 header.payloadLength
    have hlt : Nat.log 2 header.payloadLength < 64 := Nat.log_lt_of_lt_pow (by omega) h
    omega

/-! ## Canonicity -/

/-- The decoder accepts nothing but encodings. -/
def Canonical {α : Type} (dec : Decoder α) (enc : α → List UInt8) : Prop :=
  ∀ ⦃buf : List UInt8⦄ ⦃a : α⦄ ⦃rest : List UInt8⦄, dec buf = .ok a rest → buf = enc a ++ rest

/-- A header is accepted if its payload is there. -/
theorem Header.checked_eq_ok {header header' : Header} {buf rest : List UInt8}
    (h : header.checked buf = .ok header' rest) :
    header' = header ∧ rest = buf ∧ header.payloadLength ≤ buf.length := by
  unfold Header.checked at h
  split_ifs at h with hlen
  obtain ⟨rfl, rfl⟩ := EStateM.Result.ok.inj h
  exact ⟨rfl, rfl, Nat.le_of_not_lt hlen⟩

/-- Bytes that are read as a number are not too many and have no leading zero. -/
theorem uintOfBytes_eq_ok {k n : ℕ} {bs : List UInt8} (h : uintOfBytes k bs = .ok n) :
    bs.length ≤ k ∧ bs.head? ≠ some 0 ∧ n = BigEndian.value bs := by
  unfold uintOfBytes at h
  split_ifs at h with hlen hzero
  exact ⟨Nat.le_of_not_lt hlen, hzero, (Except.ok.inj h).symm⟩

section DecodeHeader

variable {b : UInt8} {tail rest : List UInt8} {header : Header}

/-- A header of a short string. -/
theorem Header.decode_shortString (hb : 0x80 ≤ b.toNat ∧ b.toNat < 0xB8)
    (h : Header.decode (b :: tail) = .ok header rest) :
    b :: tail = header.encode ++ rest ∧ header.payloadLength ≤ rest.length ∧
      (header.payloadLength = 1 → ∃ c tail, rest = c :: tail ∧ 0x80 ≤ c.toNat) := by
  have hencode : Header.encode { list := false, payloadLength := b.toNat - 0x80 } = [b] := by
    rw [Header.encode, if_pos (by simp only; omega)]
    simp only [Bool.false_eq_true, if_false]
    rw [Nat.add_sub_cancel' hb.1, UInt8.ofNat_toNat]
  rw [Header.decode, if_neg (by omega), if_pos hb.2] at h
  simp only at h
  by_cases hone : b.toNat - 0x80 = 1
  -- one byte: it must be one that needs the header
  · rw [if_pos hone] at h
    cases tail with
    | nil => cases h
    | cons c tail =>
      simp only at h
      split_ifs at h with hc
      obtain ⟨rfl, rfl, hlen⟩ := Header.checked_eq_ok h
      exact ⟨by rw [hencode, List.singleton_append], hlen,
        fun _ => ⟨c, tail, rfl, Nat.le_of_not_lt hc⟩⟩
  · rw [if_neg hone] at h
    obtain ⟨rfl, rfl, hlen⟩ := Header.checked_eq_ok h
    exact ⟨by rw [hencode, List.singleton_append], hlen, fun heq => absurd heq hone⟩

/-- A header of a long string or of a long list. -/
theorem Header.decode_long (hb : 0xB8 ≤ b.toNat ∧ b.toNat < 0xC0 ∨ 0xF8 ≤ b.toNat)
    (h : Header.decode (b :: tail) = .ok header rest) :
    b :: tail = header.encode ++ rest ∧ header.payloadLength ≤ rest.length ∧
      56 ≤ header.payloadLength := by
  rw [Header.decode, if_neg (by omega), if_neg (by omega), if_pos (by omega)] at h
  simp only at h
  generalize hn : (b.toNat - if decide (0xF8 ≤ b.toNat) = true then 0xF7 else 0xB7) = n at h
  split_ifs at h with hshort
  cases huint : uintOfBytes 8 (tail.take n) with
  | error e => simp [huint] at h
  | ok payloadLength =>
    simp only [huint] at h
    split_ifs at h with hsize
    obtain ⟨rfl, rfl, hlen⟩ := Header.checked_eq_ok h
    obtain ⟨htake, hhead, hvalue⟩ := uintOfBytes_eq_ok huint
    -- the length was written without leading zeros, so its bytes are the shortest ones
    have hmin : BigEndian.minimal 8 payloadLength = tail.take n := by
      rw [hvalue, BigEndian.minimal_value htake hhead]
    have hcount : (tail.take n).length = n := by
      rw [List.length_take]
      omega
    have hbyte : (if decide (0xF8 ≤ b.toNat) = true then 0xF7 else 0xB7) + n = b.toNat := by
      rw [← hn]
      split_ifs with hlist
      · rw [decide_eq_true_eq] at hlist
        omega
      · rw [decide_eq_true_eq] at hlist
        omega
    refine ⟨?_, hlen, Nat.le_of_not_lt hsize⟩
    rw [Header.encode, if_neg hsize]
    simp only [hmin, hcount, hbyte, UInt8.ofNat_toNat, List.cons_append, List.take_append_drop]

/-- A header of a short list. -/
theorem Header.decode_shortList (hb : 0xC0 ≤ b.toNat ∧ b.toNat < 0xF8)
    (h : Header.decode (b :: tail) = .ok header rest) :
    b :: tail = header.encode ++ rest ∧ header.payloadLength ≤ rest.length ∧
      header.list = true := by
  rw [Header.decode, if_neg (by omega), if_neg (by omega), if_neg (by omega)] at h
  obtain ⟨rfl, rfl, hlen⟩ := Header.checked_eq_ok h
  refine ⟨?_, hlen, rfl⟩
  rw [Header.encode, if_pos (by simp only; omega)]
  simp only [if_true]
  rw [Nat.add_sub_cancel' hb.1, UInt8.ofNat_toNat, List.singleton_append]

/-- A header that is read either is left out, in front of a single byte, or is the encoding of what
it says. -/
theorem Header.decode_cases {buf : List UInt8} (h : Header.decode buf = .ok header rest) :
    (∃ b tail, buf = b :: tail ∧ b.toNat < 0x80 ∧ header = { list := false, payloadLength := 1 } ∧
        rest = b :: tail) ∨
      (buf = header.encode ++ rest ∧ header.payloadLength ≤ rest.length ∧
        (header = { list := false, payloadLength := 1 } →
          ∃ c tail, rest = c :: tail ∧ 0x80 ≤ c.toNat)) := by
  -- by the first byte: a byte of its own, short strings, short lists, and the two long forms
  cases buf with
  | nil => cases h
  | cons b tail =>
    rcases Nat.lt_or_ge b.toNat 0x80 with hsingle | hheader
    · rw [Header.decode, if_pos hsingle] at h
      obtain ⟨rfl, rfl⟩ := EStateM.Result.ok.inj h
      exact .inl ⟨b, tail, rfl, hsingle, rfl, rfl⟩
    right
    rcases Nat.lt_or_ge b.toNat 0xB8 with hshort | hlong
    · obtain ⟨heq, hlen, hone⟩ := Header.decode_shortString ⟨hheader, hshort⟩ h
      exact ⟨heq, hlen, fun hh => hone (by rw [hh])⟩
    by_cases hlist : 0xC0 ≤ b.toNat ∧ b.toNat < 0xF8
    · obtain ⟨heq, hlen, hkind⟩ := Header.decode_shortList hlist h
      exact ⟨heq, hlen, fun hh => by rw [hh] at hkind; cases hkind⟩
    · obtain ⟨heq, hlen, hsize⟩ := Header.decode_long (by omega) h
      exact ⟨heq, hlen, fun hh => by rw [hh] at hsize; simp at hsize⟩

end DecodeHeader

/-! ### Strings, integers and lists -/

/-- A payload that was read stands behind its header. -/
theorem decodePayload_eq_ok {list : Bool} {buf payload rest : List UInt8}
    (h : decodePayload list buf = .ok payload rest) :
    ∃ tail, Header.decode buf = .ok { list, payloadLength := payload.length } tail ∧
      tail = payload ++ rest := by
  obtain ⟨header, tail, hheader, h⟩ := bind_eq_ok h
  have hlen : header.payloadLength ≤ tail.length := by
    rcases Header.decode_cases hheader with ⟨b, tl, -, -, rfl, rfl⟩ | ⟨-, hlen, -⟩
    · simp
    · exact hlen
  by_cases hkind : header.list = list
  · simp only [hkind, ne_eq, not_true_eq_false, if_false] at h
    obtain ⟨rfl, rfl⟩ := EStateM.Result.ok.inj h
    refine ⟨tail, ?_, (List.take_append_drop _ _).symm⟩
    rw [hheader, List.length_take, Nat.min_eq_left hlen, ← hkind]
  · simp only [hkind, ne_eq, not_false_eq_true, if_true] at h
    cases h

/-- Strings are read only as they are written. -/
theorem decodeBytes_canonical : Canonical decodeBytes encodeBytes := by
  intro buf bs rest h
  obtain ⟨tail, hheader, rfl⟩ := decodePayload_eq_ok h
  rcases Header.decode_cases hheader with ⟨b, tl, rfl, hb, hheader, htail⟩ | ⟨rfl, -, hone⟩
  -- a byte without a header
  · have hlen : bs.length = 1 := congrArg Header.payloadLength hheader
    obtain ⟨c, rfl⟩ := List.length_eq_one_iff.mp hlen
    obtain ⟨rfl, rfl⟩ := List.cons.inj htail
    simp [encodeBytes, hb]
  · rw [← List.append_assoc]
    congr 1
    by_cases hlen : bs.length = 1
    · obtain ⟨c, tl, htail, hc⟩ := hone (by rw [hlen])
      obtain ⟨d, rfl⟩ := List.length_eq_one_iff.mp hlen
      obtain ⟨rfl, -⟩ := List.cons.inj htail
      rw [encodeBytes, if_neg (Nat.not_lt.mpr hc)]
      rfl
    · exact (encodeBytes_of_length_ne_one hlen).symm

/-- Lists are read only as they are written. -/
theorem decodePayload_list_canonical : Canonical (decodePayload true) encodeList := by
  intro buf payload rest h
  obtain ⟨tail, hheader, rfl⟩ := decodePayload_eq_ok h
  rcases Header.decode_cases hheader with ⟨b, tl, -, -, hheader, -⟩ | ⟨rfl, -, -⟩
  · cases congrArg Header.list hheader
  · rw [encodeList, List.append_assoc]

/-- A string of fixed length is read only as it is written. -/
theorem decodeFixed_eq_ok {n : ℕ} {buf bs rest : List UInt8}
    (h : decodeFixed n buf = .ok bs rest) : bs.length = n ∧ buf = encodeBytes bs ++ rest := by
  obtain ⟨bs', tail, hbytes, h⟩ := bind_eq_ok h
  by_cases hlen : bs'.length = n
  · simp only [hlen, ne_eq, not_true_eq_false, if_false] at h
    obtain ⟨rfl, rfl⟩ := EStateM.Result.ok.inj h
    exact ⟨hlen, decodeBytes_canonical hbytes⟩
  · simp only [hlen, ne_eq, not_false_eq_true, if_true] at h
    cases h

/-- A number is read only as it is written. -/
theorem decodeUint_eq_ok {k n : ℕ} {buf rest : List UInt8} (h : decodeUint k buf = .ok n rest) :
    n < 256 ^ k ∧ buf = encodeUint k n ++ rest := by
  obtain ⟨bs, tail, hbytes, h⟩ := bind_eq_ok h
  cases huint : uintOfBytes k bs with
  | error e => simp [huint, throw_apply] at h
  | ok n' =>
    simp only [huint] at h
    obtain ⟨rfl, rfl⟩ := EStateM.Result.ok.inj h
    obtain ⟨hlen, hhead, rfl⟩ := uintOfBytes_eq_ok huint
    refine ⟨(BigEndian.value_lt bs).trans_le (Nat.pow_le_pow_right (by decide) hlen), ?_⟩
    rw [encodeUint, BigEndian.minimal_value hlen hhead]
    exact decodeBytes_canonical hbytes

/-- Items that are accepted in a row are encodings in a row, and nothing is left. -/
theorem decodeItems_eq_ok {α : Type} {dec : Decoder α} {enc : α → List UInt8}
    (hdec : Canonical dec enc) {fuel : ℕ} {buf rest : List UInt8} {xs : List α}
    (h : decodeItems dec fuel buf = .ok xs rest) : rest = [] ∧ buf = xs.flatMap enc := by
  -- on the fuel, the length of the payload; it is only used up with the payload
  induction fuel generalizing buf xs with
  | zero =>
    rw [decodeItems, bind_get] at h
    cases buf with
    | nil =>
      obtain ⟨rfl, rfl⟩ := EStateM.Result.ok.inj h
      exact ⟨rfl, rfl⟩
    | cons b buf => cases h
  | succ fuel ih =>
    rw [decodeItems, bind_get] at h
    cases buf with
    | nil =>
      obtain ⟨rfl, rfl⟩ := EStateM.Result.ok.inj h
      exact ⟨rfl, rfl⟩
    | cons b buf =>
      simp only [List.isEmpty_cons, Bool.false_eq_true, if_false] at h
      obtain ⟨x, tail, hx, h⟩ := bind_eq_ok h
      obtain ⟨ys, tail', hys, h⟩ := bind_eq_ok h
      obtain ⟨rfl, rfl⟩ := EStateM.Result.ok.inj h
      obtain ⟨rfl, rfl⟩ := ih hys
      exact ⟨rfl, hdec hx⟩

/-- A list of items is a list whose payload consists of them. -/
theorem decodeVec_eq_ok {α : Type} {dec : Decoder α} {buf rest : List UInt8} {xs : List α}
    (h : decodeVec dec buf = .ok xs rest) :
    ∃ payload tail, decodePayload true buf = .ok payload rest ∧
      decodeItems dec payload.length payload = .ok xs tail := by
  obtain ⟨payload, tail, hpayload, h⟩ := bind_eq_ok h
  cases hitems : decodeItems dec payload.length payload with
  | error e tail' => simp [hitems, throw_apply] at h
  | ok ys tail' =>
    simp only [hitems] at h
    obtain ⟨rfl, rfl⟩ := EStateM.Result.ok.inj h
    exact ⟨payload, tail', hpayload, hitems⟩

/-- A list of items that are read only as they are written is read only so. -/
theorem decodeVec_canonical {α : Type} {dec : Decoder α} {enc : α → List UInt8}
    (hdec : Canonical dec enc) : Canonical (decodeVec dec) (encodeVec enc) := by
  intro buf xs rest h
  obtain ⟨payload, tail, hpayload, hitems⟩ := decodeVec_eq_ok h
  obtain ⟨-, rfl⟩ := decodeItems_eq_ok hdec hitems
  exact decodePayload_list_canonical hpayload

/-- A record that is accepted is a list header in front of exactly what its fields have read. -/
theorem decodeRecord_eq_ok {α : Type} {mismatch : ℕ → ℕ → Error} {fields : Decoder α}
    {buf rest : List UInt8} {a : α} (h : decodeRecord mismatch fields buf = .ok a rest) :
    ∃ header started, header.list = true ∧ Header.decode buf = .ok header started ∧
      fields started = .ok a rest ∧ started.length - rest.length = header.payloadLength := by
  obtain ⟨header, started, hheader, h⟩ := bind_eq_ok h
  cases hlist : header.list with
  | false =>
    simp only [hlist, Bool.not_false, if_true] at h
    cases h
  | true =>
    simp only [hlist, Bool.not_true, Bool.false_eq_true, if_false] at h
    rw [bind_get] at h
    obtain ⟨a', tail, hfields, h⟩ := bind_eq_ok h
    rw [bind_get] at h
    by_cases hconsumed : started.length - tail.length = header.payloadLength
    · simp only [hconsumed, ne_eq, not_true_eq_false, if_false] at h
      obtain ⟨rfl, rfl⟩ := EStateM.Result.ok.inj h
      exact ⟨header, started, hlist, hheader, hfields, hconsumed⟩
    · simp only [hconsumed, ne_eq, not_false_eq_true, if_true] at h
      cases h

/-- What stands behind the header of an accepted record is the payload that the header announces. -/
theorem decodeRecord_payload {header : Header} {buf payload rest : List UInt8}
    (hlist : header.list = true) (hheader : Header.decode buf = .ok header (payload ++ rest))
    (hconsumed : (payload ++ rest).length - rest.length = header.payloadLength) :
    buf = encodeList payload ++ rest := by
  have hlen : payload.length = header.payloadLength := by
    rw [← hconsumed, List.length_append, Nat.add_sub_cancel]
  rcases Header.decode_cases hheader with ⟨b, tl, -, -, rfl, -⟩ | ⟨rfl, -, -⟩
  · cases hlist
  · rw [encodeList, hlen, List.append_assoc, ← hlist]

/-- A record of fields that are read only as they are written is read only so. -/
theorem decodeRecord_canonical {α : Type} {mismatch : ℕ → ℕ → Error} {fields : Decoder α}
    {enc : α → List UInt8} (hfields : Canonical fields enc) :
    Canonical (decodeRecord mismatch fields) fun a => encodeList (enc a) := by
  intro buf a rest h
  obtain ⟨header, started, hlist, hheader, hread, hconsumed⟩ := decodeRecord_eq_ok h
  obtain rfl := hfields hread
  exact decodeRecord_payload hlist hheader hconsumed

/-! ### Skipping items -/

/-- Read a header and drop its payload. -/
def skipItem : Decoder Unit := do
  let header ← Header.decode
  let _ ← take header.payloadLength

/-- Skip `n` items. -/
def skipItems : ℕ → Decoder Unit
  | 0 => pure ()
  | n + 1 => do
    skipItem
    skipItems n

/-- The decoder reads one item, whatever its result. -/
def ReadsItem {α : Type} (dec : Decoder α) : Prop :=
  ∀ ⦃buf : List UInt8⦄ ⦃a : α⦄ ⦃rest : List UInt8⦄, dec buf = .ok a rest →
    skipItem buf = .ok () rest

theorem readsItem_decodePayload (list : Bool) : ReadsItem (decodePayload list) := by
  intro buf payload rest h
  obtain ⟨tail, hheader, rfl⟩ := decodePayload_eq_ok h
  refine (bind_of_ok hheader).trans ?_
  simp [take, bind, EStateM.bind, pure, EStateM.pure]

/-- A decoder that works on the result of another reads the same item. -/
theorem ReadsItem.bind {α β : Type} {dec : Decoder α} {f : α → Decoder β} (hdec : ReadsItem dec)
    (hf : ∀ {a buf b rest}, f a buf = .ok b rest → rest = buf) : ReadsItem (dec >>= f) := by
  intro buf b rest h
  obtain ⟨a, tail, ha, h⟩ := bind_eq_ok h
  rw [hf h]
  exact hdec ha

theorem readsItem_decodeUint (k : ℕ) : ReadsItem (decodeUint k) := by
  refine (readsItem_decodePayload false).bind fun {bs buf n rest} h => ?_
  cases huint : uintOfBytes k bs with
  | error e => simp [huint, throw_apply] at h
  | ok m =>
    simp only [huint] at h
    exact (EStateM.Result.ok.inj h).2.symm

theorem readsItem_decodeVec {α : Type} (dec : Decoder α) : ReadsItem (decodeVec dec) := by
  intro buf xs rest h
  obtain ⟨payload, -, hpayload, -⟩ := decodeVec_eq_ok h
  exact readsItem_decodePayload true hpayload

theorem skipItems_succ_of_ok {n : ℕ} {buf tail rest : List UInt8} (h : skipItem buf = .ok () tail)
    (h' : skipItems n tail = .ok () rest) : skipItems (n + 1) buf = .ok () rest :=
  (bind_of_ok h).trans h'

/-! ### Payloads of equal length -/

/-- Lists of payloads of one length are written differently if the payloads differ. -/
theorem encodeList_inj_of_length {p q : List UInt8} (hlen : p.length = q.length) :
    encodeList p = encodeList q ↔ p = q := by
  rw [encodeList, encodeList, hlen, List.append_cancel_left_eq]

end Rlp
