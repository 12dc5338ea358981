import Mathlib.Order.Compare

/-!
# Binary search

The search of a sorted slice as Rust's standard library makes it: the range in which an element can
be found is halved until one position is left, and that one is compared. `SortedBy` is what the
search needs of a list; on such a list it finds an element exactly if there is one.
-/

namespace List

variable {α : Type} (f : α → Ordering) (xs : List α)

/-- The position that is left when a range of `size` positions from `base` on has been halved
`fuel` times. -/
def searchBase : ℕ → ℕ → ℕ → ℕ
  | 0, base, _ => base
  | fuel + 1, base, size =>
    if 1 < size then
      let half := size / 2
      let mid := base + half
      let base := if xs[mid]?.map f = some .gt then base else mid
      searchBase fuel base (size - half)
    else base

/-- `binary_search_by`: the position of an element that `f` calls equal, if one is found. A range is
halved at most as often as it has elements. -/
def binarySearchBy : Option ℕ :=
  let base := searchBase f xs xs.length 0 xs.length
  match xs[base]? with
  | some x => if f x = .eq then some base else none
  | none => none

/-- The list is sorted as `f` sees it: first what is less, then what is equal, then what is greater.
-/
def SortedBy : Prop :=
  xs.Pairwise fun x y => (f y = .lt → f x = .lt) ∧ (f x = .gt → f y = .gt)

variable {f xs}

/-- What lies before a smaller element is smaller, and what lies behind a larger one is larger. -/
theorem SortedBy.of_lt (h : SortedBy f xs) {i j : ℕ} {x y : α} (hij : i < j)
    (hx : xs[i]? = some x) (hy : xs[j]? = some y) :
    (f y = .lt → f x = .lt) ∧ (f x = .gt → f y = .gt) := by
  obtain ⟨hi, rfl⟩ := List.getElem?_eq_some_iff.mp hx
  obtain ⟨hj, rfl⟩ := List.getElem?_eq_some_iff.mp hy
  exact List.pairwise_iff_getElem.mp h i j hi hj hij

/-- The range keeps a position with an equal element, if it has one. -/
theorem searchBase_eq (h : SortedBy f xs) {fuel base size i : ℕ} {x : α} (hfuel : size ≤ fuel + 1)
    (hrange : base + size ≤ xs.length) (hle : base ≤ i) (hlt : i < base + size)
    (hx : xs[i]? = some x) (heq : f x = .eq) :
    ∃ y, xs[searchBase f xs fuel base size]? = some y ∧ f y = .eq := by
  -- the position that is kept may change: any equal element will do
  induction fuel generalizing base size i x with
  | zero =>
    obtain rfl : i = base := by omega
    exact ⟨x, hx, heq⟩
  | succ fuel ih =>
    rw [searchBase]
    split_ifs with hsize
    · obtain ⟨y, hy⟩ : ∃ y, xs[base + size / 2]? = some y :=
        ⟨_, List.getElem?_eq_getElem (by omega)⟩
      simp only [hy, Option.map_some, Option.some.injEq]
      split_ifs with hgt
      · -- what comes behind the middle is greater, so the equal element is before it
        have hbefore : i < base + size / 2 := by
          by_contra hnot
          rcases Nat.lt_or_eq_of_le (Nat.not_lt.mp hnot) with hlt' | rfl
          · rw [(h.of_lt hlt' hy hx).2 hgt] at heq
            cases heq
          · rw [hy] at hx
            obtain rfl := Option.some.inj hx
            rw [hgt] at heq
            cases heq
        exact ih (by omega) (by omega) hle (by omega) hx heq
      · by_cases hbehind : base + size / 2 ≤ i
        · exact ih (by omega) (by omega) hbehind (by omega) hx heq
        · -- an equal element before the middle makes the middle equal too
          have hmid : f y = .eq := by
            have hnlt : f y ≠ .lt := by
              intro hlt'
              rw [(h.of_lt (Nat.lt_of_not_le hbehind) hx hy).1 hlt'] at heq
              cases heq
            cases hf : f y with
            | lt => exact absurd hf hnlt
            | eq => rfl
            | gt => exact absurd hf hgt
          exact ih (by omega) (by omega) (Nat.le_refl _) (by omega) hy hmid
    · obtain rfl : i = base := by omega
      exact ⟨x, hx, heq⟩

/-- A search of a sorted list finds something exactly if there is an equal element. -/
theorem isSome_binarySearchBy_iff (h : SortedBy f xs) :
    (binarySearchBy f xs).isSome = true ↔ ∃ x ∈ xs, f x = .eq := by
  constructor
  · intro hsome
    unfold binarySearchBy at hsome
    simp only at hsome
    split at hsome
    next x hx =>
      split_ifs at hsome with heq
      · exact ⟨x, List.mem_of_getElem? hx, heq⟩
      · cases hsome
    next => cases hsome
  · rintro ⟨x, hmem, heq⟩
    obtain ⟨i, hi⟩ := List.mem_iff_getElem?.mp hmem
    have hlt := (List.getElem?_eq_some_iff.mp hi).1
    obtain ⟨y, hy, hfy⟩ := @searchBase_eq _ _ _ h xs.length 0 xs.length i x
      (by omega) (by omega) (Nat.zero_le i) (by omega) hi heq
    simp only [binarySearchBy, hy, hfy, if_true, Option.isSome_some]

end List
