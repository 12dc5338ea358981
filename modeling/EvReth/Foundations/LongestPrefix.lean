import Mathlib.Data.List.Infix

/-!
# Longest prefixes

The longest prefix of a list with a property that passes to prefixes. A loop that takes one element
after the other, and stops at the first that would break the property, finds it.
-/

namespace List

variable {α : Type} {P : List α → Prop} {x : α} {xs p : List α}

/-- A property that passes to prefixes. -/
def PrefixClosed (P : List α → Prop) : Prop := ∀ p q, p <+: q → P q → P p

/-- `p` is the longest prefix of `xs` with the property. -/
structure LongestPrefix (P : List α → Prop) (xs p : List α) : Prop where
  isPrefix : p <+: xs
  holds : P p
  length_le : ∀ q, q <+: xs → P q → q.length ≤ p.length

namespace LongestPrefix

theorem nil (h : P []) : LongestPrefix P [] [] :=
  ⟨prefix_rfl, h, fun _ hq _ => hq.length_le⟩

/-- The loop stops where the next element breaks the property. -/
theorem stop (hclosed : PrefixClosed P) (h : P []) (hx : ¬ P [x]) :
    LongestPrefix P (x :: xs) [] := by
  have hnil : [] <+: x :: xs := nil_prefix
  refine ⟨hnil, h, fun q hq hP => ?_⟩
  cases q with
  | nil => exact le_rfl
  | cons y q =>
    obtain ⟨rfl, -⟩ := cons_prefix_cons.mp hq
    exact absurd (hclosed [y] (y :: q) (by simp) hP) hx

/-- The loop goes on with what may follow the element. -/
theorem cons (h : LongestPrefix (fun q => P (x :: q)) xs p) :
    LongestPrefix P (x :: xs) (x :: p) := by
  refine ⟨cons_prefix_cons.mpr ⟨rfl, h.isPrefix⟩, h.holds, fun q hq hP => ?_⟩
  cases q with
  | nil => exact Nat.zero_le _
  | cons y q =>
    obtain ⟨rfl, htail⟩ := cons_prefix_cons.mp hq
    exact Nat.succ_le_succ (h.length_le q htail hP)

end LongestPrefix

end List
