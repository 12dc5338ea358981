import EvReth.Foundations.Run
import EvReth.Foundations.StateExcept

/-!
# Costs that add up

A graded relation says from where to where one can come at a cost of at most so much: nothing is
free of charge but to stay, and the costs of two steps add up. A program is free if it never costs
anything. Steps are linked if one comes to each of them for free from the one before; the costs of
linked steps add up, and where all of them are free, so is the way from each to every later one.
-/

/-- From `a` one can come to `b` at a cost of at most `k`. -/
structure Graded (M α : Type) [AddMonoid M] where
  rel : M → α → α → Prop
  refl : ∀ a, rel 0 a a
  trans : ∀ {k l a b c}, rel k a b → rel l b c → rel (k + l) a c

namespace Graded

variable {M α β σ ε τ ι : Type} [AddMonoid M] {R : Graded M α}

/-- The costs that show in a part of the state. -/
def comap (R : Graded M α) (f : β → α) : Graded M β where
  rel k b b' := R.rel k (f b) (f b')
  refl b := R.refl (f b)
  trans h h' := R.trans h h'

/-- The costs in each of several respects. -/
def all (R : ι → Graded M α) : Graded M α where
  rel k a b := ∀ i, (R i).rel k a b
  refl a i := (R i).refl a
  trans h h' i := (R i).trans (h i) (h' i)

theorem free_trans {a b c : α} (h : R.rel 0 a b) (h' : R.rel 0 b c) : R.rel 0 a c := by
  have hsum := R.trans h h'
  rwa [add_zero] at hsum

theorem rel_free {k : M} {a b c : α} (h : R.rel k a b) (h' : R.rel 0 b c) : R.rel k a c := by
  have hsum := R.trans h h'
  rwa [add_zero] at hsum

theorem free_rel {k : M} {a b c : α} (h : R.rel 0 a b) (h' : R.rel k b c) : R.rel k a c := by
  have hsum := R.trans h h'
  rwa [zero_add] at hsum

/-! ## Programs -/

/-- Whenever the program returns, it has cost nothing. -/
def Free (R : Graded M σ) (x : EStateM ε σ α) : Prop :=
  ∀ s a s', x s = .ok a s' → R.rel 0 s s'

variable {S : Graded M σ} {x : EStateM ε σ α} {f : α → EStateM ε σ β}

/-- A program that leaves the state alone is free. -/
theorem free_of_state (h : ∀ s a s', x s = .ok a s' → s' = s) : S.Free x := by
  intro s a s' hx
  rw [h s a s' hx]
  exact S.refl s

theorem Free.bind (hx : S.Free x) (hf : ∀ a, S.Free (f a)) : S.Free (x >>= f) := by
  intro s b s' h
  obtain ⟨a, s₁, hstart, hrest⟩ := EStateM.bind_eq_ok h
  exact free_trans (hx s a s₁ hstart) (hf a s₁ b s' hrest)

/-! ## Linked steps -/

/-- One comes for free from `a` to where the first step begins, from where each step ends to where
the next begins, and from where the last ends to `b`. -/
inductive Linked (R : Graded M α) (pre post : τ → α) : α → List τ → α → Prop
  | nil {a b : α} (h : R.rel 0 a b) : Linked R pre post a [] b
  | cons {a b : α} {t : τ} {ts : List τ} (h : R.rel 0 a (pre t))
      (hrest : Linked R pre post (post t) ts b) : Linked R pre post a (t :: ts) b

variable {pre post : τ → α} {a b c : α} {ts ts' : List τ}

theorem Linked.of_free (h : R.rel 0 a b) (hts : R.Linked pre post b ts c) :
    R.Linked pre post a ts c := by
  cases hts with
  | nil h' => exact .nil (free_trans h h')
  | cons h' hrest => exact .cons (free_trans h h') hrest

theorem Linked.append (hts : R.Linked pre post a ts b) (hts' : R.Linked pre post b ts' c) :
    R.Linked pre post a (ts ++ ts') c := by
  induction hts with
  | nil h => exact hts'.of_free h
  | cons h _ ih => exact .cons h (ih hts')

/-- The costs of linked steps add up. -/
theorem Linked.rel_sum {cost : τ → M} (hts : R.Linked pre post a ts b)
    (hcost : ∀ t ∈ ts, R.rel (cost t) (pre t) (post t)) : R.rel (ts.map cost).sum a b := by
  induction hts with
  | nil h => exact h
  | cons h _ ih =>
    rw [List.map_cons, List.sum_cons]
    -- the free way to the step is charged with it
    have hstep := free_rel h (hcost _ List.mem_cons_self)
    exact R.trans hstep (ih fun t ht => hcost t (List.mem_cons_of_mem _ ht))

/-- From linked steps that are free one comes for free to where any of them begins. -/
theorem Linked.rel_pre (hts : R.Linked pre post a ts b)
    (hfree : ∀ t ∈ ts, R.rel 0 (pre t) (post t)) : ∀ t ∈ ts, R.rel 0 a (pre t) := by
  induction hts with
  | nil => exact fun t ht => absurd ht List.not_mem_nil
  | cons h _ ih =>
    intro t ht
    rcases List.mem_cons.mp ht with rfl | ht
    · exact h
    -- over the first step, which is free, to the others
    · have hrest := ih (fun t ht => hfree t (List.mem_cons_of_mem _ ht)) t ht
      exact free_trans (free_trans h (hfree _ List.mem_cons_self)) hrest

/-- Between two linked steps that are free nothing is lost. -/
theorem Linked.pairwise (hts : R.Linked pre post a ts b)
    (hfree : ∀ t ∈ ts, R.rel 0 (pre t) (post t)) :
    ts.Pairwise fun t t' => R.rel 0 (post t) (pre t') := by
  induction hts with
  | nil => exact .nil
  | cons _ hrest ih =>
    have htail : ∀ t ∈ _, R.rel 0 (pre t) (post t) := fun t ht =>
      hfree t (List.mem_cons_of_mem _ ht)
    exact .cons (hrest.rel_pre htail) (ih htail)

/-- The steps of a run are linked. -/
theorem linked_transitions {κ ο : Type} (R : Graded M α) (f : σ → α) (step : σ → κ → ο × σ) (s : σ)
    (inputs : List κ) : R.Linked (fun t : Run.Transition σ κ ο => f t.pre) (fun t => f t.post) (f s)
      (Run.transitions step s inputs) (f (Run.finalState step s inputs)) := by
  induction inputs generalizing s with
  | nil => exact .nil (R.refl _)
  | cons i inputs ih => exact .cons (R.refl _) (ih (step s i).2)

end Graded
