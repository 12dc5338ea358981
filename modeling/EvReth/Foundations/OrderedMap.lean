import Mathlib.Data.List.Induction
import Mathlib.Data.List.Nodup
import Mathlib.Data.List.Perm.Basic
import Std.Data.TreeMap.Lemmas

/-!
# Maps with an order of iteration

A map that lists its entries in some order. Which order, and what an insertion or a removal does to
it, is the implementation's choice: a sorted map (`Std.TreeMap`) keeps its keys in their order, and
an indexed map (`IndexMap`) appends a new key and fills the place of a removed one with its last
entry. What is proved from the laws of `OrderedMap` holds of both.
-/

/-- A map that can be iterated over, with the laws of a finite map. -/
class OrderedMap (M : Type) (K V : outParam Type) [DecidableEq K] where
  empty : M
  entries : M → List (K × V)
  get : M → K → Option V
  insert : M → K → V → M
  remove : M → K → M
  nodup_entries : ∀ m, ((entries m).map Prod.fst).Nodup
  get_eq_some_iff : ∀ {m k v}, get m k = some v ↔ (k, v) ∈ entries m
  get_empty : ∀ k, get empty k = none
  get_insert : ∀ m k v k', get (insert m k v) k' = if k' = k then some v else get m k'
  get_remove : ∀ m k k', get (remove m k) k' = if k' = k then none else get m k'

namespace OrderedMap

variable {M K V : Type} [DecidableEq K] [OrderedMap M K V] {m : M} {k : K}

/-- The keys, in the order of iteration. -/
def keys (m : M) : List K := (entries m).map Prod.fst

theorem nodup_keys (m : M) : (keys m).Nodup := nodup_entries m

/-- The keys are those that have a value. -/
theorem mem_keys_iff : k ∈ keys m ↔ ∃ v, get m k = some v := by
  simp [keys, get_eq_some_iff]

theorem mem_keys_congr {m' : M} (h : get m' k = get m k) : k ∈ keys m' ↔ k ∈ keys m := by
  rw [mem_keys_iff, mem_keys_iff, h]

/-- Exactly one key satisfies `p` if and only if the keys that do are a list of one. -/
theorem filter_keys_eq_singleton_iff {p : K → Bool} :
    (keys m).filter p = [k] ↔ (k ∈ keys m ∧ p k) ∧ ∀ k' ∈ keys m, p k' → k' = k := by
  have hnodup : ((keys m).filter p).Nodup := (nodup_keys m).filter p
  constructor
  · intro h
    have hmem : ∀ k', k' ∈ keys m ∧ p k' ↔ k' = k := fun k' => by
      rw [← List.mem_filter, h, List.mem_singleton]
    exact ⟨(hmem k).mpr rfl, fun k' hk' hp => (hmem k').mp ⟨hk', hp⟩⟩
  · rintro ⟨hk, huniq⟩
    have hperm : ((keys m).filter p).Perm [k] := by
      refine (List.perm_ext_iff_of_nodup hnodup (List.nodup_singleton k)).mpr fun k' => ?_
      rw [List.mem_filter, List.mem_singleton]
      constructor
      · rintro ⟨hk', hp⟩
        exact huniq k' hk' hp
      · rintro rfl
        exact hk
    exact List.perm_singleton.mp hperm

/-- Entries with distinct keys, inserted one after the other. -/
theorem get_foldl_insert_eq_some_iff {α : Type} {key : α → K} {value : α → V} {xs : List α} {v : V}
    (h : (xs.map key).Nodup) :
    get (xs.foldl (fun m x => insert m (key x) (value x)) m) k = some v ↔
      (∃ x ∈ xs, k = key x ∧ v = value x) ∨ k ∉ xs.map key ∧ get m k = some v := by
  induction xs generalizing m with
  | nil => simp
  | cons x xs ih =>
    obtain ⟨hx, hxs⟩ := List.nodup_cons.mp h
    rw [List.foldl_cons, ih hxs, get_insert]
    by_cases hk : k = key x
    · subst hk
      rw [if_pos rfl]
      have hfresh : ¬∃ y ∈ xs, key x = key y ∧ v = value y := by
        rintro ⟨y, hy, hkey, -⟩
        exact hx (hkey ▸ List.mem_map_of_mem hy)
      grind
    · rw [if_neg hk]
      grind

end OrderedMap

/-! ## Sorted maps -/

/-- A sorted map lists its entries by their keys. -/
instance {K V : Type} [DecidableEq K] [Ord K] [Std.TransOrd K] [Std.LawfulEqOrd K] :
    OrderedMap (Std.TreeMap K V) K V where
  empty := ∅
  entries m := m.toList
  get m k := m[k]?
  insert m k v := m.insert k v
  remove m k := m.erase k
  nodup_entries m := by
    rw [Std.TreeMap.map_fst_toList_eq_keys]
    exact Std.TreeMap.nodup_keys
  get_eq_some_iff := Std.TreeMap.mem_toList_iff_getElem?_eq_some.symm
  get_empty k := Std.TreeMap.getElem?_emptyc
  get_insert m k v k' := by
    rw [Std.TreeMap.getElem?_insert]
    simp only [Std.LawfulEqCmp.compare_eq_iff_eq, @eq_comm _ k k']
  get_remove m k k' := by
    rw [Std.TreeMap.getElem?_erase]
    simp only [Std.LawfulEqCmp.compare_eq_iff_eq, @eq_comm _ k k']

/-! ## Indexed maps -/

/-- A map that lists its entries as they were inserted, until one is removed. -/
structure IndexMap (K V : Type) where
  entries : List (K × V)
  nodup : (entries.map Prod.fst).Nodup

namespace IndexMap

variable {K V : Type} {k k' : K} {v v' : V} {l : List (K × V)}

/-- Moves the last entry to the front. -/
def lastFirst (l : List (K × V)) : List (K × V) := l.getLast?.toList ++ l.dropLast

theorem lastFirst_perm (l : List (K × V)) : (lastFirst l).Perm l := by
  induction l using List.reverseRecOn with
  | nil => exact .nil
  | append_singleton l e =>
    rw [lastFirst, List.getLast?_concat, List.dropLast_concat]
    exact List.perm_append_comm

variable [DecidableEq K]

/-- Writes an entry in its place, or at the end. -/
def insertEntry (k : K) (v : V) : List (K × V) → List (K × V)
  | [] => [(k, v)]
  | e :: rest => if e.1 = k then (k, v) :: rest else e :: insertEntry k v rest

/-- Removes the entry of a key; the last entry takes its place. -/
def swapRemove (k : K) : List (K × V) → List (K × V)
  | [] => []
  | e :: rest => if e.1 = k then lastFirst rest else e :: swapRemove k rest

/-- A removal leaves the other entries, in some order. -/
theorem swapRemove_perm (h : (l.map Prod.fst).Nodup) :
    (swapRemove k l).Perm (l.filter (·.1 ≠ k)) := by
  induction l with
  | nil => exact .nil
  | cons e rest ih =>
    obtain ⟨hnotMem, hrest⟩ := List.nodup_cons.mp h
    by_cases hk : e.1 = k
    · subst hk
      -- the key is not listed twice, so the filter takes nothing from the rest
      have hkeep : rest.filter (·.1 ≠ e.1) = rest := by
        refine List.filter_eq_self.mpr fun f hf => ?_
        exact decide_eq_true fun heq => hnotMem (heq ▸ List.mem_map_of_mem hf)
      rw [swapRemove, if_pos rfl, List.filter_cons_of_neg (by simp), hkeep]
      exact lastFirst_perm rest
    · rw [swapRemove, if_neg hk, List.filter_cons_of_pos (by simpa using hk)]
      exact (ih hrest).cons e

theorem mem_swapRemove_iff (h : (l.map Prod.fst).Nodup) :
    (k', v) ∈ swapRemove k l ↔ k' ≠ k ∧ (k', v) ∈ l := by
  rw [(swapRemove_perm h).mem_iff, List.mem_filter, decide_eq_true_eq, and_comm]

theorem nodup_swapRemove (h : (l.map Prod.fst).Nodup) :
    ((swapRemove k l).map Prod.fst).Nodup := by
  rw [((swapRemove_perm h).map Prod.fst).nodup_iff]
  exact h.sublist (List.filter_sublist.map Prod.fst)

/-- An insertion replaces the entry of its key, and leaves the others. -/
theorem mem_insertEntry_iff (h : (l.map Prod.fst).Nodup) :
    (k', v') ∈ insertEntry k v l ↔ k' = k ∧ v' = v ∨ k' ≠ k ∧ (k', v') ∈ l := by
  induction l with
  | nil => simp [insertEntry]
  | cons e rest ih =>
    obtain ⟨hnotMem, hrest⟩ := List.nodup_cons.mp h
    obtain ⟨k₀, v₀⟩ := e
    have hfresh : ∀ w, (k₀, w) ∉ rest := fun w hw => hnotMem (List.mem_map.mpr ⟨_, hw, rfl⟩)
    by_cases hk : k₀ = k
    · subst hk
      rw [insertEntry, if_pos rfl, List.mem_cons, List.mem_cons]
      grind
    · rw [insertEntry, if_neg hk, List.mem_cons, List.mem_cons, ih hrest]
      grind

/-- An insertion adds its key. -/
theorem mem_map_insertEntry_iff :
    k' ∈ (insertEntry k v l).map Prod.fst ↔ k' = k ∨ k' ∈ l.map Prod.fst := by
  induction l with
  | nil => simp [insertEntry]
  | cons e rest ih =>
    by_cases hk : e.1 = k
    · rw [insertEntry, if_pos hk]
      simp [hk]
    · rw [insertEntry, if_neg hk, List.map_cons, List.mem_cons, ih, List.map_cons, List.mem_cons]
      tauto

theorem nodup_insertEntry (h : (l.map Prod.fst).Nodup) :
    ((insertEntry k v l).map Prod.fst).Nodup := by
  induction l with
  | nil => exact List.nodup_singleton k
  | cons e rest ih =>
    obtain ⟨hnotMem, hrest⟩ := List.nodup_cons.mp h
    by_cases hk : e.1 = k
    · rw [insertEntry, if_pos hk, List.map_cons]
      exact List.nodup_cons.mpr ⟨hk ▸ hnotMem, hrest⟩
    -- the rest has got no key but the one that was inserted
    · rw [insertEntry, if_neg hk, List.map_cons]
      refine List.nodup_cons.mpr ⟨fun hmem => ?_, ih hrest⟩
      exact (mem_map_insertEntry_iff.mp hmem).elim hk hnotMem

/-- The value of a key. -/
def get (m : IndexMap K V) (k : K) : Option V := (m.entries.find? (·.1 = k)).map Prod.snd

/-- The value of a key is that of its entry. -/
theorem get_eq_some_iff {m : IndexMap K V} : m.get k = some v ↔ (k, v) ∈ m.entries := by
  obtain ⟨l, hl⟩ := m
  simp only [get]
  -- on the entries: the search stops at the first of a key, and there is no second
  induction l with
  | nil => simp
  | cons e rest ih =>
    obtain ⟨hnotMem, hrest⟩ := List.nodup_cons.mp hl
    obtain ⟨k₀, v₀⟩ := e
    by_cases hk : k₀ = k
    · subst hk
      have hfresh : (k₀, v) ∉ rest := fun hw => hnotMem (List.mem_map.mpr ⟨_, hw, rfl⟩)
      simp [hfresh, eq_comm]
    · rw [List.find?_cons_of_neg (by simpa using hk), ih hrest, List.mem_cons]
      simp [Ne.symm hk]

instance : OrderedMap (IndexMap K V) K V where
  empty := ⟨[], List.nodup_nil⟩
  entries m := m.entries
  get := get
  insert m k v := ⟨insertEntry k v m.entries, nodup_insertEntry m.nodup⟩
  remove m k := ⟨swapRemove k m.entries, nodup_swapRemove m.nodup⟩
  nodup_entries m := m.nodup
  get_eq_some_iff := get_eq_some_iff
  get_empty _ := rfl
  get_insert m k v k' := by
    ext w
    rw [get_eq_some_iff, mem_insertEntry_iff m.nodup]
    split_ifs with hk <;> simp [hk, get_eq_some_iff, eq_comm]
  get_remove m k k' := by
    ext w
    rw [get_eq_some_iff, mem_swapRemove_iff m.nodup]
    split_ifs with hk <;> simp [hk, get_eq_some_iff]

end IndexMap
