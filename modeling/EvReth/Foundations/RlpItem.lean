import EvReth.Foundations.Rlp
import Mathlib.Data.List.Forall2

/-!
# RLP values without a type

A value of RLP is a leaf or a list of values. A decoder that does not know what it reads returns
such a value; it tells the two kinds apart by the first byte.
-/

namespace Rlp

/-- A leaf, or a list of items. -/
inductive Item (α : Type) where
  | leaf (a : α)
  | list (items : List (Item α))

namespace Item

variable {α β : Type}

mutual

/-- The encoding of an item, given the bytes of its leaves. -/
def encode (bytes : α → List UInt8) : Item α → List UInt8
  | .leaf a => encodeBytes (bytes a)
  | .list items => encodeList (encodeAll bytes items)

/-- The encodings of items, in a row. -/
def encodeAll (bytes : α → List UInt8) : List (Item α) → List UInt8
  | [] => []
  | item :: items => encode bytes item ++ encodeAll bytes items

end

mutual

/-- Change the leaves of an item. -/
def map (f : α → β) : Item α → Item β
  | .leaf a => .leaf (f a)
  | .list items => .list (mapAll f items)

/-- Change the leaves of items. -/
def mapAll (f : α → β) : List (Item α) → List (Item β)
  | [] => []
  | item :: items => map f item :: mapAll f items

end

/-- Read an item. `fuel` bounds the depth of lists; the length of the input is enough. -/
def decode : ℕ → Decoder (Item (List UInt8))
  | 0 => throw .inputTooShort
  | fuel + 1 => do
    match (← get) with
    | [] => throw .inputTooShort
    | b :: _ =>
      if 0xC0 ≤ b.toNat then
        let items ← decodeVec (decode fuel)
        return .list items
      else
        let bs ← decodeBytes
        return .leaf bs

theorem encodeAll_eq_flatMap (bytes : α → List UInt8) (items : List (Item α)) :
    encodeAll bytes items = items.flatMap (encode bytes) := by
  induction items with
  | nil => rfl
  | cons item items ih => rw [encodeAll, ih, List.flatMap_cons]

theorem mapAll_eq_map (f : α → β) (items : List (Item α)) : mapAll f items = items.map (map f) := by
  induction items with
  | nil => rfl
  | cons item items ih => rw [mapAll, ih, List.map_cons]

mutual

/-- The bytes of the leaves may be taken first. -/
theorem encode_map (bytes : β → List UInt8) (f : α → β) (item : Item α) :
    encode bytes (map f item) = encode (fun a => bytes (f a)) item :=
  match item with
  | .leaf a => rfl
  | .list items => by rw [map, encode, encode, encodeAll_mapAll]

theorem encodeAll_mapAll (bytes : β → List UInt8) (f : α → β) (items : List (Item α)) :
    encodeAll bytes (mapAll f items) = encodeAll (fun a => bytes (f a)) items :=
  match items with
  | [] => rfl
  | item :: items => by rw [mapAll, encodeAll, encodeAll, encode_map, encodeAll_mapAll]

end

/-- A list of items is encoded as a list of values. -/
theorem encode_list (bytes : α → List UInt8) (items : List (Item α)) :
    encode bytes (.list items) = encodeVec (encode bytes) items := by
  rw [encode, encodeAll_eq_flatMap, encodeVec]

/-- No item is written as nothing. -/
theorem encode_ne_nil (bytes : α → List UInt8) (item : Item α) : encode bytes item ≠ [] := by
  cases item with
  | leaf a =>
    rw [encode]
    exact encodeBytes_ne_nil _
  | list items =>
    rw [encode]
    exact encodeList_ne_nil _

end Item

/-- Lists whose elements are written alike are written alike. -/
theorem encodeVec_eq_of_forall₂ {α β : Type} {enc : α → List UInt8} {enc' : β → List UInt8}
    {xs : List α} {ys : List β} (h : List.Forall₂ (fun x y => enc x = enc' y) xs ys) :
    encodeVec enc xs = encodeVec enc' ys := by
  have hflat : xs.flatMap enc = ys.flatMap enc' := by
    induction h with
    | nil => rfl
    | cons hxy _ ih => rw [List.flatMap_cons, List.flatMap_cons, hxy, ih]
  rw [encodeVec, encodeVec, hflat]

/-- The first byte of a header tells lists and strings apart. -/
theorem Header.head_encode (header : Header) :
    ∃ b rest, header.encode = b :: rest ∧
      if header.list then 0xC0 ≤ b.toNat else 0x80 ≤ b.toNat ∧ b.toNat < 0xC0 := by
  have hle := BigEndian.length_minimal_le 8 header.payloadLength
  unfold Header.encode
  split_ifs
  all_goals
    refine ⟨_, _, rfl, ?_⟩
    rw [UInt8.toNat_ofNat']
    omega

/-- The first byte of a list is at least `0xC0`. -/
theorem head_encodeList (payload : List UInt8) :
    ∃ b rest, encodeList payload = b :: rest ∧ 0xC0 ≤ b.toNat := by
  obtain ⟨b, rest, hheader, hb⟩ :=
    Header.head_encode { list := true, payloadLength := payload.length }
  exact ⟨b, rest ++ payload, by rw [encodeList, hheader, List.cons_append], hb⟩

/-- The first byte of a byte string is below `0xC0`. -/
theorem head_encodeBytes (bs : List UInt8) :
    ∃ b rest, encodeBytes bs = b :: rest ∧ b.toNat < 0xC0 := by
  obtain ⟨b, rest, hheader, hb⟩ :=
    Header.head_encode { list := false, payloadLength := bs.length }
  by_cases hone : bs.length = 1
  · obtain ⟨c, rfl⟩ := List.length_eq_one_iff.mp hone
    rw [encodeBytes]
    split_ifs with hc
    · exact ⟨c, [], rfl, by omega⟩
    · exact ⟨b, rest ++ [c], by rw [← List.cons_append, ← hheader]; rfl, hb.2⟩
  · exact ⟨b, rest ++ bs, by rw [encodeBytes_of_length_ne_one hone, hheader, List.cons_append],
      hb.2⟩

namespace Item

/-- Items are read back. -/
theorem decodes_encode {fuel : ℕ} {item : Item (List UInt8)}
    (hfuel : (encode id item).length ≤ fuel) (hlen : (encode id item).length < 2 ^ 64) :
    Decodes (decode fuel) (encode id item) item := by
  induction fuel generalizing item with
  | zero =>
    have hpos := List.length_pos_iff.mpr (encode_ne_nil id item)
    omega
  | succ fuel ih =>
    intro rest
    refine EStateM.bind_get.trans ?_
    cases item with
    | leaf bs =>
      rw [encode, id] at hlen ⊢
      obtain ⟨b, tail, hhead, hb⟩ := head_encodeBytes bs
      have hle := length_le_encodeBytes bs
      have hbytes : Decodes decodeBytes (encodeBytes bs) bs := decodeBytes_encodeBytes (by omega)
      have hread := hbytes rest
      rw [hhead, List.cons_append] at hread ⊢
      simp only [show ¬ 0xC0 ≤ b.toNat by omega, if_false]
      rw [EStateM.bind_of_ok hread]
      rfl
    | list items =>
      have hpayload : (items.flatMap (encode id)).length < (encode id (.list items)).length := by
        rw [encode_list, encodeVec]
        exact length_lt_encodeList _
      obtain ⟨b, tail, hhead, hb⟩ := head_encodeList (items.flatMap (encode id))
      -- what is inside a list is shorter than the list
      have hvec : Decodes (decodeVec (decode fuel)) (encodeVec (encode id) items) items := by
        refine decodeVec_encodeVec (fun item hmem => ?_) (by omega)
        have hle : (encode id item).length ≤ (items.flatMap (encode id)).length :=
          length_le_flatMap hmem
        exact ⟨ih (by omega) (by omega), encode_ne_nil id item⟩
      have hread := hvec rest
      rw [encode_list]
      rw [encodeVec, hhead, List.cons_append] at hread ⊢
      simp only [hb, if_true]
      rw [EStateM.bind_of_ok hread]
      rfl

/-- No item is written as the beginning of another one. -/
theorem eq_of_encode_append {x y : Item (List UInt8)} {rest rest' : List UInt8}
    (hx : (encode id x).length < 2 ^ 64) (hy : (encode id y).length < 2 ^ 64)
    (h : encode id x ++ rest = encode id y ++ rest') : x = y ∧ rest = rest' := by
  -- one decoder reads both
  have hread := decodes_encode (le_max_left (encode id x).length (encode id y).length) hx rest
  have hread' := decodes_encode (le_max_right (encode id x).length (encode id y).length) hy rest'
  rw [h, hread'] at hread
  obtain ⟨rfl, rfl⟩ := EStateM.Result.ok.inj hread
  exact ⟨rfl, rfl⟩

/-- Items in a row are determined by what is written. -/
theorem encodeAll_injective {xs ys : List (Item (List UInt8))}
    (hlen : (encodeAll id xs).length < 2 ^ 64) (h : encodeAll id xs = encodeAll id ys) :
    xs = ys := by
  induction xs generalizing ys with
  | nil =>
    cases ys with
    | nil => rfl
    | cons y ys =>
      rw [encodeAll, encodeAll] at h
      exact absurd (List.append_eq_nil_iff.mp h.symm).1 (encode_ne_nil id y)
  | cons x xs ih =>
    cases ys with
    | nil =>
      rw [encodeAll, encodeAll] at h
      exact absurd (List.append_eq_nil_iff.mp h).1 (encode_ne_nil id x)
    | cons y ys =>
      -- items are cut off one by one, since none is the beginning of another
      have hlen' := hlen
      rw [h] at hlen'
      rw [encodeAll, List.length_append] at hlen hlen'
      rw [encodeAll, encodeAll] at h
      obtain ⟨rfl, hrest⟩ := eq_of_encode_append (by omega) (by omega) h
      rw [ih (by omega) hrest]

end Item

/-- The header of a list begins with a byte from `0xC0` on. -/
theorem exists_encodeList_eq_cons (payload : List UInt8) :
    ∃ b rest, encodeList payload = b :: rest ∧ 0xC0 ≤ b.toNat := by
  have hle := BigEndian.length_minimal_le 8 payload.length
  rw [encodeList, Header.encode]
  simp only [if_true]
  split_ifs with hshort
  · refine ⟨_, _, List.singleton_append, ?_⟩
    rw [UInt8.toNat_ofNat']
    omega
  · refine ⟨_, _, List.cons_append, ?_⟩
    rw [UInt8.toNat_ofNat']
    omega

end Rlp
