import EvReth.Deployer.Contracts
import EvReth.Foundations.OrderedMap

/-!
# Merging the contracts into a genesis

`bin/ev-deployer/src/genesis.rs`. The keys of an `alloc` object are addresses in any spelling: with
or without `0x`, in any case. The merge looks an address up by its normalised text and replaces the
first key that it meets. The objects are JSON maps of any order of iteration.
-/

namespace EvReth.Deployer

open OrderedMap

/-! ## JSON -/

/-- `serde_json::Value`. -/
inductive Value where
  | null
  | bool (b : Bool)
  | number (text : Text)
  | string (text : Text)
  | array (items : List Value)
  | object (members : List (Text × Value))

/-- A genesis file: the object that its `alloc` field holds, if it holds one. -/
structure GenesisFile (M : Type) where
  alloc : Option M

/-! ## Spellings of an address -/

/-- `str::to_lowercase`. On ASCII text it lowers each letter, elsewhere it is Unicode's. -/
structure Lowercase where
  toLowercase : Text → Text
  of_ascii : ∀ s : Text, (∀ c ∈ s, c.toNat < 128) → toLowercase s = s.map Char.toLower

/-- The text after `0x`, if it starts so. -/
def afterHexMark : Text → Text
  | '0' :: 'x' :: rest => rest
  | addr => addr

/-- `normalize_addr`. -/
def Lowercase.normalizeAddr (lowercase : Lowercase) (addr : Text) : Text :=
  lowercase.toLowercase (afterHexMark addr)

section Spellings

variable (lowercase : Lowercase)

theorem Lowercase.toLowercase_hexEncode (bs : Bytes) :
    lowercase.toLowercase (hexEncode bs) = hexEncode bs := by
  rw [lowercase.of_ascii, hexEncode, List.map_map]
  · exact List.map_congr_left fun d _ => (digitChar_facts d).2.2.2.1
  · intro c hc
    obtain ⟨d, -, rfl⟩ := List.mem_map.mp hc
    exact (digitChar_facts d).2.1

/-- The normalised text of an address is normalised. -/
theorem Lowercase.normalizeAddr_addressHex (address : Address) :
    lowercase.normalizeAddr (addressHex address) = addressHex address := by
  have hmark : afterHexMark (addressHex address) = addressHex address := by
    unfold afterHexMark
    split
    · -- the second digit would be an `x`
      rename_i rest heq
      have hx : 'x' ∈ addressHex address := heq ▸ by simp
      rw [addressHex, hexEncode] at hx
      obtain ⟨d, -, hd⟩ := List.mem_map.mp hx
      exact absurd hd (digitChar_facts d).1
    · rfl
  rw [normalizeAddr, hmark, addressHex, toLowercase_hexEncode]

/-- Capitalised letters are found again in lower case. -/
theorem map_toLower_capitalised (digits hash : List (Fin 16)) (h : digits.length ≤ hash.length) :
    (List.zipWith (fun c (d : Fin 16) => if 8 ≤ d.val then c.toUpper else c)
      (digits.map fun d => d.val.digitChar) hash).map Char.toLower =
        digits.map fun d => d.val.digitChar := by
  induction digits generalizing hash with
  | nil => rfl
  | cons d digits ih =>
    cases hash with
    | nil => simp at h
    | cons n hash =>
      obtain ⟨-, -, -, hlower, hupper⟩ := digitChar_facts d
      rw [List.map_cons, List.zipWith_cons_cons, List.map_cons, ih hash (by simpa using h)]
      split_ifs
      · rw [hupper]
      · rw [hlower]

/-- The normalised text of an address is that of its display. -/
theorem Lowercase.normalizeAddr_displayAddress (keccak256 : Bytes → B256) (address : Address) :
    lowercase.normalizeAddr (displayAddress keccak256 address) = addressHex address := by
  simp only [displayAddress, normalizeAddr, afterHexMark]
  rw [lowercase.of_ascii, addressHex, hexEncode]
  · refine map_toLower_capitalised _ _ ?_
    rw [Hex.length_ofBytes, Hex.length_ofBytes, length_wordBytes, length_wordBytes]
    decide
  · intro c hc
    rw [List.mem_iff_getElem] at hc
    obtain ⟨i, hi, rfl⟩ := hc
    rw [List.getElem_zipWith]
    simp only [addressHex, hexEncode, List.getElem_map]
    split_ifs
    · exact (digitChar_facts _).2.2.1
    · exact (digitChar_facts _).2.1

end Spellings

/-! ## Building and merging -/

/-- `Display` of a word, and `format_slot_key`. -/
def displayWord (word : B256) : Text := '0' :: 'x' :: hexEncode (wordBytes word)

/-- The entry of a contract, with its code and storage. -/
def GenesisContract.entry (self : GenesisContract) : Value :=
  .object [
    ("balance".toList, .string "0x0".toList),
    ("code".toList, .string ('0' :: 'x' :: hexEncode self.code)),
    ("storage".toList, .object (self.storage.map fun (slot, value) =>
      (displayWord slot, .string (displayWord value))))]

section Merge

variable (artifacts : Artifacts) (lowercase : Lowercase) {M : Type} [OrderedMap M Text Value]

/-- `insert_contract`. -/
def insertContract (alloc : M) (contract : GenesisContract) : M :=
  insert alloc (lowercase.normalizeAddr (displayAddress artifacts.keccak256 contract.address))
    contract.entry

/-- `build_alloc`. -/
def buildAlloc (config : DeployConfig) : Except Failure M :=
  (artifacts.genesisContracts config).map
    (·.foldl (insertContract artifacts lowercase) empty)

/-- The first key that spells an address. -/
def existingKey (m : M) (canonical : Text) : Option Text :=
  (keys m).find? fun k => lowercase.normalizeAddr k = canonical

/-- One round of the loop of `merge_alloc`. -/
def mergeEntry (force : Bool) (m : M) (addr : Text) (entry : Value) : Except Failure M :=
  let canonical := lowercase.normalizeAddr addr
  let existingKey := existingKey lowercase m canonical
  if existingKey.isSome && !force then
    .error (.report ("address collision at " ++ String.ofList addr ++ "; use --force to overwrite"))
  else
    -- a second spelling stays where it is
    let m := existingKey.elim m (remove m)
    .ok (insert m canonical entry)

/-- The loop of `merge_alloc`. -/
def mergeEntries (force : Bool) (m : M) (newEntries : List (Text × Value)) : Except Failure M :=
  newEntries.foldlM (fun m (addr, entry) => mergeEntry lowercase force m addr entry) m

/-- `merge_alloc`. -/
def mergeAlloc (config : DeployConfig) (genesis : GenesisFile M) (force : Bool) :
    Except Failure (GenesisFile M) := do
  let alloc : M ← buildAlloc artifacts lowercase config
  match genesis.alloc with
  | none => throw (.report "genesis JSON missing 'alloc' object")
  | some genesisAlloc =>
    let merged ← mergeEntries lowercase force genesisAlloc (entries alloc)
    return { genesis with alloc := some merged }

end Merge

section Spec

variable {artifacts : Artifacts} {lowercase : Lowercase} {M : Type} [OrderedMap M Text Value]
variable {config : DeployConfig} {force : Bool} {m m' : M} {addr : Text} {entry : Value}

/-- The key of a contract is the normalised text of its address. -/
theorem insertContract_eq : (insertContract artifacts lowercase : M → GenesisContract → M) =
    fun alloc contract => insert alloc (addressHex contract.address) contract.entry := by
  funext alloc contract
  rw [insertContract, lowercase.normalizeAddr_displayAddress]

/-- The entries that stand for contracts, one for each. -/
structure Represents (newEntries : List (Text × Value)) (contracts : List GenesisContract) :
    Prop where
  nodup : (newEntries.map Prod.fst).Nodup
  mem_iff : ∀ addr entry, (addr, entry) ∈ newEntries ↔
    ∃ contract ∈ contracts, addr = addressHex contract.address ∧ entry = contract.entry

/-- What is built for a validated configuration: one entry for each contract. -/
theorem represents_buildAlloc {alloc : M} (hvalid : config.validate artifacts.keccak256 = .ok ())
    (h : buildAlloc artifacts lowercase config = .ok alloc) :
    ∃ contracts, artifacts.genesisContracts config = .ok contracts ∧
      Represents (entries alloc) contracts := by
  obtain ⟨contracts, hcontracts, rfl⟩ := Except.map_eq_ok_iff.mp h
  have haddresses := Artifacts.genesisContracts_addresses hcontracts
  have hnodup : (contracts.map fun contract => addressHex contract.address).Nodup := by
    have hdistinct := (DeployConfig.validate_eq_ok_iff.mp hvalid).2.2.2
    rw [← haddresses] at hdistinct
    have hmap := (List.nodup_map_iff addressHex_injective).mpr hdistinct
    simpa only [List.map_map, Function.comp_def] using hmap
  refine ⟨contracts, hcontracts, nodup_keys _, fun addr entry => ?_⟩
  rw [insertContract_eq, ← get_eq_some_iff, get_foldl_insert_eq_some_iff hnodup, get_empty]
  simp only [reduceCtorEq, and_false, or_false]

/-- An entry is merged if its address is free or overwritten by force: another spelling of it goes,
and the entry is put in. -/
theorem mergeEntry_eq_ok_iff :
    mergeEntry lowercase force m addr entry = .ok m' ↔
      (force = false → existingKey lowercase m (lowercase.normalizeAddr addr) = none) ∧
      m' = insert ((existingKey lowercase m (lowercase.normalizeAddr addr)).elim m (remove m))
        (lowercase.normalizeAddr addr) entry := by
  cases force <;>
    cases h : existingKey lowercase m (lowercase.normalizeAddr addr) <;>
      simp [mergeEntry, h, eq_comm]

/-- A round writes the contract's entry and removes the first key that spells its address. -/
theorem get_mergeEntry (hcanonical : lowercase.normalizeAddr addr = addr)
    (h : mergeEntry lowercase force m addr entry = .ok m') (k : Text) :
    get m' k = if k = addr then some entry
      else if existingKey lowercase m addr = some k then none else get m k := by
  obtain ⟨-, rfl⟩ := mergeEntry_eq_ok_iff.mp h
  rw [hcanonical, get_insert]
  cases hexisting : existingKey lowercase m addr with
  | none => simp
  | some key =>
    rw [Option.elim_some, get_remove]
    simp only [Option.some.injEq, @eq_comm _ k key]

/-- The key that is found is a spelling of the address. -/
theorem normalizeAddr_of_existingKey {k : Text} (h : existingKey lowercase m addr = some k) :
    lowercase.normalizeAddr k = addr := by
  simpa using List.find?_some h

/-- No key is found exactly if none is a spelling of the address. -/
theorem existingKey_eq_none_iff :
    existingKey lowercase m addr = none ↔ ∀ k ∈ keys m, lowercase.normalizeAddr k ≠ addr := by
  simp [existingKey]

/-- A round does not touch the spellings of another address. -/
theorem get_mergeEntry_of_ne (hcanonical : lowercase.normalizeAddr addr = addr)
    (h : mergeEntry lowercase force m addr entry = .ok m') {k : Text}
    (hk : lowercase.normalizeAddr k ≠ addr) : get m' k = get m k := by
  rw [get_mergeEntry hcanonical h, if_neg, if_neg]
  · exact fun hexisting => hk (normalizeAddr_of_existingKey hexisting)
  · rintro rfl
    exact hk hcanonical

/-- The entries are merged one after the other. -/
theorem mergeEntries_cons_eq_ok_iff {rest : List (Text × Value)} :
    mergeEntries lowercase force m ((addr, entry) :: rest) = .ok m' ↔
      ∃ m₁, mergeEntry lowercase force m addr entry = .ok m₁ ∧
        mergeEntries lowercase force m₁ rest = .ok m' :=
  Except.bind_eq_ok_iff

/-- With `force`, the loop does not fail. -/
theorem mergeEntries_forced_succeeds (lowercase : Lowercase) (m : M)
    (newEntries : List (Text × Value)) :
    (mergeEntries lowercase true m newEntries).Succeeds := by
  induction newEntries generalizing m with
  | nil => exact Except.succeeds_pure
  | cons e rest ih =>
    obtain ⟨m', hrest⟩ := ih _
    exact ⟨m', mergeEntries_cons_eq_ok_iff.mpr
      ⟨_, mergeEntry_eq_ok_iff.mpr ⟨fun h => absurd h (by decide), rfl⟩, hrest⟩⟩

/-- A round adds no key but the one it writes. -/
theorem mem_keys_of_mergeEntry (hcanonical : lowercase.normalizeAddr addr = addr)
    (h : mergeEntry lowercase force m addr entry = .ok m') {k : Text} (hk : k ∈ keys m') :
    k = addr ∨ k ∈ keys m := by
  obtain ⟨v, hv⟩ := mem_keys_iff.mp hk
  rw [get_mergeEntry hcanonical h] at hv
  split_ifs at hv with haddr
  · exact .inl haddr
  · exact .inr (mem_keys_iff.mpr ⟨v, hv⟩)

theorem mergeEntries_append_eq_ok_iff {front back : List (Text × Value)} :
    mergeEntries lowercase force m (front ++ back) = .ok m' ↔
      ∃ m₁, mergeEntries lowercase force m front = .ok m₁ ∧
        mergeEntries lowercase force m₁ back = .ok m' := by
  rw [mergeEntries, List.foldlM_append]
  exact Except.bind_eq_ok_iff

/-- The loop does not touch the spellings of an address that it does not write. -/
theorem get_mergeEntries_of_notMem {newEntries : List (Text × Value)}
    (hcanonical : ∀ addr ∈ newEntries.map Prod.fst, lowercase.normalizeAddr addr = addr)
    (h : mergeEntries lowercase force m newEntries = .ok m') {k : Text}
    (hk : lowercase.normalizeAddr k ∉ newEntries.map Prod.fst) : get m' k = get m k := by
  induction newEntries generalizing m with
  | nil =>
    obtain rfl := Except.ok.inj h
    rfl
  | cons e rest ih =>
    obtain ⟨addr, entry⟩ := e
    obtain ⟨m₁, hround, hrest⟩ := mergeEntries_cons_eq_ok_iff.mp h
    rw [List.map_cons, List.mem_cons, not_or] at hk
    rw [List.map_cons, List.forall_mem_cons] at hcanonical
    rw [ih hcanonical.2 hrest hk.2]
    exact get_mergeEntry_of_ne hcanonical.1 hround hk.1

/-- The loop adds no key but those it writes. -/
theorem mem_keys_of_mergeEntries {newEntries : List (Text × Value)}
    (hcanonical : ∀ addr ∈ newEntries.map Prod.fst, lowercase.normalizeAddr addr = addr)
    (h : mergeEntries lowercase force m newEntries = .ok m') {k : Text} (hk : k ∈ keys m') :
    k ∈ newEntries.map Prod.fst ∨ k ∈ keys m := by
  induction newEntries generalizing m with
  | nil =>
    obtain rfl := Except.ok.inj h
    exact .inr hk
  | cons e rest ih =>
    obtain ⟨addr, entry⟩ := e
    obtain ⟨m₁, hround, hrest⟩ := mergeEntries_cons_eq_ok_iff.mp h
    rw [List.map_cons, List.forall_mem_cons] at hcanonical
    rw [List.map_cons, List.mem_cons, or_assoc]
    rcases ih hcanonical.2 hrest with hlater | hbefore
    · exact .inr (.inl hlater)
    · exact (mem_keys_of_mergeEntry hcanonical.1 hround hbefore).imp_right .inr

end Spec

/-! ## A configuration with a proxy -/

/-- Lower case, for text whose only letters are ASCII's. -/
def Lowercase.ascii : Lowercase := ⟨List.map Char.toLower, fun _ _ => rfl⟩

/-- Contracts without code. -/
def emptyArtifacts : Artifacts where
  keccak256 _ := 0
  adminProxyBytecode := []
  permit2Bytecode := []
  permit2Initcode := []

/-- A proxy at `0xad00`. -/
def proxyConfig : DeployConfig where
  chain := ⟨1234⟩
  contracts := { adminProxy := some ⟨some 0xad00, 0xf39fd6e51aad88f6f4ce6ab8827279cffFb92266⟩ }

/-- An `alloc` object that does not have the proxy's address. -/
def freshAlloc : IndexMap Text Value where
  entries := [("0x000000000000000000000000000000000000dEaD".toList, .object [])]
  nodup := by decide

/-- An `alloc` object with two spellings of the proxy's address. -/
def twoSpellings : IndexMap Text Value where
  entries :=
    [("0x000000000000000000000000000000000000ad00".toList, .object []),
      ("000000000000000000000000000000000000AD00".toList, .object [])]
  nodup := by decide

/-! ## One entry for each contract -/

section OneEntry

variable {artifacts : Artifacts} (lowercase : Lowercase) {M : Type} [OrderedMap M Text Value]

/-- The keys that spell an address, given by its normalised text. -/
def spellings (m : M) (addr : Text) : List Text :=
  (keys m).filter fun k => lowercase.normalizeAddr k = addr

/-- Exactly one key spells the address, and it holds the entry. -/
def OneEntry (m : M) (addr : Text) (entry : Value) : Prop :=
  ∃ key, spellings lowercase m addr = [key] ∧ get m key = some entry

/-- Every key that spells the address is its normalised text or the first one that is met. -/
def FirstOrNormalised (m : M) (addr : Text) : Prop :=
  ∀ k ∈ keys m, lowercase.normalizeAddr k = addr → k = addr ∨ existingKey lowercase m addr = some k

/-- What merging the contracts into an `alloc` object should have done. -/
structure Merged (contracts : List GenesisContract) (force : Bool) (m m' : M) : Prop where
  one : ∀ contract ∈ contracts, OneEntry lowercase m' (addressHex contract.address) contract.entry
  others : ∀ k, (∀ contract ∈ contracts, lowercase.normalizeAddr k ≠ addressHex contract.address) →
    get m' k = get m k
  added : ∀ k ∈ keys m', k ∈ keys m ∨ ∃ contract ∈ contracts, k = addressHex contract.address
  collisions : force = false →
    ∀ contract ∈ contracts, spellings lowercase m (addressHex contract.address) = []

variable {lowercase} {config : DeployConfig} {force : Bool} {m m' : M} {addr key : Text}
variable {entry : Value} {newEntries : List (Text × Value)}

/-- A key is the only spelling of an address if all others are of other addresses. -/
theorem spellings_eq_singleton_iff :
    spellings lowercase m addr = [key] ↔ (key ∈ keys m ∧ lowercase.normalizeAddr key = addr) ∧
      ∀ k ∈ keys m, lowercase.normalizeAddr k = addr → k = key := by
  rw [spellings, filter_keys_eq_singleton_iff]
  simp only [decide_eq_true_eq]

theorem spellings_eq_nil_iff :
    spellings lowercase m addr = [] ↔ ∀ k ∈ keys m, lowercase.normalizeAddr k ≠ addr := by
  simp [spellings]

/-- Whether an address has one entry is a matter of the keys that spell it. -/
theorem OneEntry.of_agree (h : ∀ k, lowercase.normalizeAddr k = addr → get m' k = get m k)
    (hone : OneEntry lowercase m addr entry) : OneEntry lowercase m' addr entry := by
  obtain ⟨key, hkey, hentry⟩ := hone
  obtain ⟨⟨hmem, hspells⟩, huniq⟩ := spellings_eq_singleton_iff.mp hkey
  refine ⟨key, spellings_eq_singleton_iff.mpr ⟨⟨?_, hspells⟩, fun k hk hka => ?_⟩, ?_⟩
  · exact (mem_keys_congr (h key hspells)).mpr hmem
  · exact huniq k ((mem_keys_congr (h k hka)).mp hk) hka
  · rw [h key hspells, hentry]

/-- A round leaves one entry for its address exactly if no spelling other than the first one met and
the normalised text was there. -/
theorem oneEntry_mergeEntry_iff (hcanonical : lowercase.normalizeAddr addr = addr)
    (h : mergeEntry lowercase force m addr entry = .ok m') :
    OneEntry lowercase m' addr entry ↔ FirstOrNormalised lowercase m addr := by
  have hget := get_mergeEntry hcanonical h
  have haddr : get m' addr = some entry := by rw [hget, if_pos rfl]
  constructor
  · rintro ⟨key, hkey, -⟩ k hk hka
    obtain ⟨-, huniq⟩ := spellings_eq_singleton_iff.mp hkey
    -- a spelling that was not the one found would have stayed beside the new key
    by_contra hother
    obtain ⟨hne, hfirst⟩ := not_or.mp hother
    have hkept : get m' k = get m k := by rw [hget, if_neg hne, if_neg hfirst]
    have hk' := huniq k ((mem_keys_congr hkept).mpr hk) hka
    have haddr' := huniq addr (mem_keys_iff.mpr ⟨entry, haddr⟩) hcanonical
    exact hne (hk'.trans haddr'.symm)
  · intro hfirst
    refine ⟨addr, spellings_eq_singleton_iff.mpr ⟨⟨?_, hcanonical⟩, fun k hk hka => ?_⟩, haddr⟩
    · exact mem_keys_iff.mpr ⟨entry, haddr⟩
    · by_contra hne
      obtain ⟨v, hv⟩ := mem_keys_iff.mp hk
      rw [hget, if_neg hne] at hv
      split_ifs at hv with hexisting
      exact (hfirst k (mem_keys_iff.mpr ⟨v, hv⟩) hka).elim hne hexisting

/-- What the loop does with one of its addresses is decided by the round that writes it. -/
theorem mergeEntries_at {front back : List (Text × Value)}
    (hcanonical : ∀ addr ∈ newEntries.map Prod.fst, lowercase.normalizeAddr addr = addr)
    (hnodup : (newEntries.map Prod.fst).Nodup)
    (hsplit : newEntries = front ++ (addr, entry) :: back)
    (h : mergeEntries lowercase force m newEntries = .ok m') :
    ∃ m₁, mergeEntries lowercase force m front = .ok m₁ ∧
      (∀ k, lowercase.normalizeAddr k = addr → get m₁ k = get m k) ∧
      (OneEntry lowercase m' addr entry ↔ FirstOrNormalised lowercase m₁ addr) ∧
      (force = false → spellings lowercase m addr = [] ∧
        FirstOrNormalised lowercase m₁ addr) := by
  subst hsplit
  obtain ⟨m₁, hfront, h⟩ := mergeEntries_append_eq_ok_iff.mp h
  obtain ⟨m₂, hround, hback⟩ := mergeEntries_cons_eq_ok_iff.mp h
  simp only [List.map_append, List.map_cons, List.mem_append, List.mem_cons] at hcanonical
  rw [List.map_append, List.map_cons, List.nodup_middle, List.nodup_cons, List.mem_append,
    not_or] at hnodup
  obtain ⟨⟨hnotFront, hnotBack⟩, -⟩ := hnodup
  have haddr := hcanonical addr (.inr (.inl rfl))
  -- the other rounds leave the spellings of this address alone
  have hbefore : ∀ k, lowercase.normalizeAddr k = addr → get m₁ k = get m k := fun k hk =>
    get_mergeEntries_of_notMem (fun a ha => hcanonical a (.inl ha)) hfront (hk ▸ hnotFront)
  have hafter : ∀ k, lowercase.normalizeAddr k = addr → get m' k = get m₂ k := fun k hk =>
    get_mergeEntries_of_notMem (fun a ha => hcanonical a (.inr (.inr ha))) hback (hk ▸ hnotBack)
  refine ⟨m₁, hfront, hbefore, ?_, fun hforce => ?_⟩
  · rw [← oneEntry_mergeEntry_iff haddr hround]
    exact ⟨.of_agree fun k hk => (hafter k hk).symm, .of_agree hafter⟩
  · have hnone := (mergeEntry_eq_ok_iff.mp hround).1 hforce
    rw [haddr] at hnone
    have habsent := existingKey_eq_none_iff.mp hnone
    refine ⟨spellings_eq_nil_iff.mpr fun k hk hka => ?_, fun k hk hka => ?_⟩
    · exact habsent k ((mem_keys_congr (hbefore k hka)).mpr hk) hka
    · exact absurd hka (habsent k hk)

variable {contracts : List GenesisContract}

/-- The new addresses are those of the contracts. -/
theorem Represents.mem_addresses_iff (h : Represents newEntries contracts) :
    addr ∈ newEntries.map Prod.fst ↔
      ∃ contract ∈ contracts, addr = addressHex contract.address := by
  simp only [List.mem_map, Prod.exists, h.mem_iff]
  grind

/-- The new addresses are spelled as they are looked for. -/
theorem Represents.canonical (h : Represents newEntries contracts) :
    ∀ addr ∈ newEntries.map Prod.fst, lowercase.normalizeAddr addr = addr := by
  intro addr haddr
  obtain ⟨contract, -, rfl⟩ := h.mem_addresses_iff.mp haddr
  exact lowercase.normalizeAddr_addressHex _

/-- Each contract has its round in the loop. -/
theorem Represents.exists_split (h : Represents newEntries contracts) {contract : GenesisContract}
    (hcontract : contract ∈ contracts) :
    ∃ front back,
      newEntries = front ++ (addressHex contract.address, contract.entry) :: back := by
  obtain ⟨front, back, hsplit⟩ :=
    List.append_of_mem ((h.mem_iff _ _).mpr ⟨contract, hcontract, rfl, rfl⟩)
  exact ⟨front, back, hsplit⟩

variable (lowercase) in
/-- In every round, all that spells the address is its normalised text or the first key met. -/
def EveryRoundClean (force : Bool) (m : M) (newEntries : List (Text × Value)) : Prop :=
  ∀ front addr entry back m₁, newEntries = front ++ (addr, entry) :: back →
    mergeEntries lowercase force m front = .ok m₁ → FirstOrNormalised lowercase m₁ addr

/-- The round of an entry is the round of its contract. -/
theorem Represents.round {front back : List (Text × Value)} {m₁ : M}
    (hrepr : Represents newEntries contracts)
    (hsplit : newEntries = front ++ (addr, entry) :: back)
    (hfront : mergeEntries lowercase force m front = .ok m₁)
    (h : mergeEntries lowercase force m newEntries = .ok m') :
    ∃ contract ∈ contracts, addr = addressHex contract.address ∧ entry = contract.entry ∧
      (∀ k, lowercase.normalizeAddr k = addr → get m₁ k = get m k) ∧
      (OneEntry lowercase m' addr entry ↔ FirstOrNormalised lowercase m₁ addr) := by
  have hmem : (addr, entry) ∈ newEntries := by
    rw [hsplit]
    exact List.mem_append_right _ List.mem_cons_self
  obtain ⟨contract, hcontract, haddr, hentry⟩ := (hrepr.mem_iff addr entry).mp hmem
  obtain ⟨m₂, hfront', hbefore, hone, -⟩ := mergeEntries_at hrepr.canonical hrepr.nodup hsplit h
  obtain rfl := Except.ok.inj (hfront.symm.trans hfront')
  exact ⟨contract, hcontract, haddr, hentry, hbefore, hone⟩

/-- The loop merges the contracts exactly if it does not overwrite or its rounds are clean. -/
theorem mergeEntries_merged_iff (hrepr : Represents newEntries contracts)
    (h : mergeEntries lowercase force m newEntries = .ok m') :
    Merged lowercase contracts force m m' ↔
      force = false ∨ EveryRoundClean lowercase force m newEntries := by
  -- each round writes one contract, so its property is that of its round
  constructor
  · intro hmerged
    refine .inr fun front addr entry back m₁ hsplit hfront => ?_
    obtain ⟨contract, hcontract, rfl, rfl, -, hone⟩ := hrepr.round hsplit hfront h
    exact hone.mp (hmerged.one contract hcontract)
  · intro hclean
    refine ⟨fun contract hcontract => ?_, fun k hk => ?_, fun k hk => ?_,
      fun hforce contract hcontract => ?_⟩
    · -- without `force` the address was not there, with it the round was clean
      obtain ⟨front, back, hsplit⟩ := hrepr.exists_split hcontract
      obtain ⟨m₁, hfront, -, hone, hforced⟩ :=
        mergeEntries_at hrepr.canonical hrepr.nodup hsplit h
      refine hone.mpr (hclean.elim (fun hforce => (hforced hforce).2) fun hclean => ?_)
      exact hclean front _ _ back m₁ hsplit hfront
    · refine get_mergeEntries_of_notMem hrepr.canonical h fun hmem => ?_
      obtain ⟨contract, hcontract, heq⟩ := hrepr.mem_addresses_iff.mp hmem
      exact hk contract hcontract heq
    · rcases mem_keys_of_mergeEntries hrepr.canonical h hk with hnew | hold
      · exact .inr (hrepr.mem_addresses_iff.mp hnew)
      · exact .inl hold
    · obtain ⟨front, back, hsplit⟩ := hrepr.exists_split hcontract
      obtain ⟨m₁, -, -, -, hforced⟩ := mergeEntries_at hrepr.canonical hrepr.nodup hsplit h
      exact (hforced hforce).1

/-- A genesis in which no contract's address has two spellings is merged into as it should be. -/
theorem merged_of_unique_spellings (hrepr : Represents newEntries contracts)
    (h : mergeEntries lowercase force m newEntries = .ok m')
    (huniq : ∀ contract ∈ contracts,
      ∃ key, spellings lowercase m (addressHex contract.address) ⊆ [key]) :
    Merged lowercase contracts force m m' := by
  refine (mergeEntries_merged_iff hrepr h).mpr (.inr ?_)
  intro front addr entry back m₁ hsplit hfront k hk hka
  obtain ⟨contract, hcontract, rfl, rfl, hbefore, -⟩ := hrepr.round hsplit hfront h
  -- what spells the address before its round has done so from the start
  have hspells : ∀ k ∈ keys m₁, lowercase.normalizeAddr k = addressHex contract.address →
      k ∈ spellings lowercase m (addressHex contract.address) := fun k hk hka =>
    List.mem_filter.mpr ⟨(mem_keys_congr (hbefore k hka)).mp hk, decide_eq_true hka⟩
  refine .inr ?_
  cases hexisting : existingKey lowercase m₁ (addressHex contract.address) with
  | none => exact absurd hka (existingKey_eq_none_iff.mp hexisting k hk)
  | some first =>
    have hfirst := hspells first (List.mem_of_find?_eq_some hexisting)
      (normalizeAddr_of_existingKey hexisting)
    obtain ⟨key, honly⟩ := huniq contract hcontract
    rw [List.mem_singleton.mp (honly hfirst), List.mem_singleton.mp (honly (hspells k hk hka))]

/-- One with two spellings that are both not the normalised text is not. -/
theorem not_merged_of_two_spellings (hrepr : Represents newEntries contracts)
    (h : mergeEntries lowercase true m newEntries = .ok m') {contract : GenesisContract}
    (hcontract : contract ∈ contracts) {k k' : Text}
    (hk : k ∈ spellings lowercase m (addressHex contract.address))
    (hk' : k' ∈ spellings lowercase m (addressHex contract.address))
    (hne : k ≠ k') (hkne : k ≠ addressHex contract.address)
    (hkne' : k' ≠ addressHex contract.address) :
    ¬Merged lowercase contracts true m m' := by
  intro hmerged
  obtain ⟨front, back, hsplit⟩ := hrepr.exists_split hcontract
  obtain ⟨m₁, -, hbefore, hone, -⟩ := mergeEntries_at hrepr.canonical hrepr.nodup hsplit h
  have hfirst := hone.mp (hmerged.one contract hcontract)
  -- both spellings would have to be the first one that is met
  have hexisting : ∀ j ∈ spellings lowercase m (addressHex contract.address),
      j ≠ addressHex contract.address →
        existingKey lowercase m₁ (addressHex contract.address) = some j := by
    intro j hj hjne
    obtain ⟨hmem, hja⟩ := List.mem_filter.mp hj
    have hja := of_decide_eq_true hja
    exact (hfirst j ((mem_keys_congr (hbefore j hja)).mpr hmem) hja).resolve_left hjne
  exact hne (Option.some.inj ((hexisting k hk hkne).symm.trans (hexisting k' hk' hkne')))

/-- The alloc is built, and its entries are merged into that of the genesis file. -/
theorem mergeAlloc_eq_ok_iff {genesis genesis' : GenesisFile M} :
    mergeAlloc artifacts lowercase config genesis force = .ok genesis' ↔
      ∃ alloc m m' : M, buildAlloc artifacts lowercase config = .ok alloc ∧
        genesis.alloc = some m ∧ mergeEntries lowercase force m (entries alloc) = .ok m' ∧
        genesis' = ⟨some m'⟩ := by
  constructor
  · intro h
    obtain ⟨alloc, halloc, h⟩ := Except.bind_eq_ok_iff.mp h
    cases hm : genesis.alloc with
    | none =>
      rw [hm] at h
      cases h
    | some m =>
      rw [hm] at h
      obtain ⟨m', hmerge, h⟩ := Except.bind_eq_ok_iff.mp h
      obtain rfl := Except.ok.inj h
      exact ⟨alloc, m, m', halloc, rfl, hmerge, rfl⟩
  · rintro ⟨alloc, m, m', halloc, hm, hmerge, rfl⟩
    refine Except.bind_eq_ok_iff.mpr ⟨alloc, halloc, ?_⟩
    rw [hm]
    exact Except.bind_eq_ok_iff.mpr ⟨m', hmerge, rfl⟩

/-- A merge that succeeds leaves one entry for each contract, its own, and the rest of the genesis
as it was, exactly if it did not overwrite or each of its rounds was clean. -/
theorem mergeAlloc_merged_iff {genesis genesis' : GenesisFile M}
    (hvalid : config.validate artifacts.keccak256 = .ok ())
    (h : mergeAlloc artifacts lowercase config genesis force = .ok genesis') :
    ∃ (alloc m m' : M) (contracts : List GenesisContract),
      buildAlloc artifacts lowercase config = .ok alloc ∧
      artifacts.genesisContracts config = .ok contracts ∧
      genesis.alloc = some m ∧ genesis'.alloc = some m' ∧
      (Merged lowercase contracts force m m' ↔
        force = false ∨ EveryRoundClean lowercase force m (entries alloc)) := by
  obtain ⟨alloc, m, m', halloc, hm, hmerge, rfl⟩ := mergeAlloc_eq_ok_iff.mp h
  obtain ⟨contracts, hcontracts, hrepr⟩ := represents_buildAlloc hvalid halloc
  exact ⟨alloc, m, m', contracts, halloc, hcontracts, hm, rfl, mergeEntries_merged_iff hrepr hmerge⟩

/-- Into an alloc without the proxy, the proxy is merged. -/
theorem mergeAlloc_fresh :
    ∃ (genesis' : GenesisFile (IndexMap Text Value)) (m' : IndexMap Text Value)
      (contracts : List GenesisContract),
      mergeAlloc emptyArtifacts .ascii proxyConfig ⟨some freshAlloc⟩ false = .ok genesis' ∧
      emptyArtifacts.genesisContracts proxyConfig = .ok contracts ∧
      genesis'.alloc = some m' ∧ Merged .ascii contracts false freshAlloc m' := by
  have hvalid : proxyConfig.validate emptyArtifacts.keccak256 = .ok () := by decide +kernel
  have hsome : (mergeAlloc emptyArtifacts .ascii proxyConfig ⟨some freshAlloc⟩
      false).toOption.isSome := by decide +kernel
  obtain ⟨genesis', h⟩ := Except.succeeds_of_isSome hsome
  obtain ⟨alloc, m, m', contracts, -, hcontracts, hm, hm', hiff⟩ := mergeAlloc_merged_iff hvalid h
  obtain rfl := Option.some.inj hm
  exact ⟨genesis', m', contracts, h, hcontracts, hm', hiff.mpr (.inl rfl)⟩

/-- Two spellings of one address: the merge with `force` leaves the second one. -/
theorem mergeAlloc_twoSpellings :
    ∃ (genesis' : GenesisFile (IndexMap Text Value)) (m' : IndexMap Text Value)
      (contracts : List GenesisContract),
      proxyConfig.validate emptyArtifacts.keccak256 = .ok () ∧
      proxyConfig.validateForGenesis = .ok () ∧
      mergeAlloc emptyArtifacts .ascii proxyConfig ⟨some twoSpellings⟩ true = .ok genesis' ∧
      emptyArtifacts.genesisContracts proxyConfig = .ok contracts ∧
      genesis'.alloc = some m' ∧ ¬Merged .ascii contracts true twoSpellings m' := by
  have hvalid : proxyConfig.validate emptyArtifacts.keccak256 = .ok () := by decide +kernel
  have hbuilt : emptyArtifacts.genesisContracts proxyConfig = .ok [⟨0xad00, [], _⟩] := rfl
  have halloc : buildAlloc (M := IndexMap Text Value) emptyArtifacts .ascii proxyConfig = .ok _ :=
    Except.map_eq_ok_iff.mpr ⟨_, hbuilt, rfl⟩
  obtain ⟨contracts, hcontracts, hrepr⟩ := represents_buildAlloc hvalid halloc
  obtain rfl := Except.ok.inj (hbuilt.symm.trans hcontracts)
  obtain ⟨m', hmerge⟩ := mergeEntries_forced_succeeds .ascii twoSpellings _
  have hmarked : "0x000000000000000000000000000000000000ad00".toList ∈
      spellings .ascii twoSpellings (addressHex 0xad00) := by decide +kernel
  have hupper : "000000000000000000000000000000000000AD00".toList ∈
      spellings .ascii twoSpellings (addressHex 0xad00) := by decide +kernel
  refine ⟨⟨some m'⟩, m', _, hvalid, by decide +kernel, ?_, hcontracts, rfl, ?_⟩
  · exact mergeAlloc_eq_ok_iff.mpr ⟨_, twoSpellings, m', halloc, rfl, hmerge, rfl⟩
  · exact not_merged_of_two_spellings hrepr hmerge List.mem_cons_self hmarked hupper (by decide)
      (by decide +kernel) (by decide +kernel)

end OneEntry

end EvReth.Deployer
