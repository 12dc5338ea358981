import Mathlib.Algebra.BigOperators.Group.List.Basic
import Mathlib.Algebra.Group.Basic
import Mathlib.Algebra.GroupWithZero.Nat

/-!
# Runs of a deterministic machine with outputs

A machine is a step function `step : σ → ι → ο × σ`. `transitions` lists the steps of its run on a
list of inputs and `finalState` is the state after it. The rules below lift a fact about one step to
whole runs:

* `forall_mem_transitions`: what holds of every step holds of every step of a run;
* `finalState_of_invariant`: an invariant kept by the steps of a run holds at its end;
* `finalState_of_established`: so does a property that some step of the run establishes;
* `conservation`: a quantity whose change in each step is a gain minus a loss changes over a run by
  the sum of the gains minus the sum of the losses;
* `lastWrite`: a cell that each step either writes or leaves alone holds the last value written;
* `used_add_cost_le`: where each step uses at most its cost, every input of a run finds its cost
  within the sum of all costs.
-/

namespace Run

variable {σ ι ο : Type}

/-- One step of a run. -/
structure Transition (σ ι ο : Type) where
  pre : σ
  input : ι
  output : ο
  post : σ

/-- The step a machine takes in `s` on input `i`. -/
def Transition.of (step : σ → ι → ο × σ) (s : σ) (i : ι) : Transition σ ι ο :=
  ⟨s, i, (step s i).1, (step s i).2⟩

variable (step : σ → ι → ο × σ)

/-- The steps of the run from `s` on a list of inputs, in order. -/
def transitions : σ → List ι → List (Transition σ ι ο)
  | _, [] => []
  | s, i :: is => Transition.of step s i :: transitions (step s i).2 is

/-- The state after the run. -/
def finalState : σ → List ι → σ
  | s, [] => s
  | s, i :: is => finalState (step s i).2 is

variable {step} {s : σ} {is : List ι}

/-- What holds of every step of the machine holds of every step of a run. -/
theorem forall_mem_transitions {P : Transition σ ι ο → Prop}
    (hstep : ∀ s i, P (Transition.of step s i)) : ∀ t ∈ transitions step s is, P t := by
  induction is generalizing s with
  | nil => simp [transitions]
  | cons i is ih =>
    intro t ht
    rcases List.mem_cons.mp ht with rfl | ht
    · exact hstep s i
    · exact ih t ht

theorem eq_of_mem_transitions {t : Transition σ ι ο} (ht : t ∈ transitions step s is) :
    t = Transition.of step t.pre t.input :=
  forall_mem_transitions (P := fun t => t = Transition.of step t.pre t.input) (fun _ _ => rfl) t ht

/-- A transition of a run is on one of the inputs. -/
theorem input_mem_of_mem_transitions {t : Transition σ ι ο} (ht : t ∈ transitions step s is) :
    t.input ∈ is := by
  induction is generalizing s with
  | nil => simp [transitions] at ht
  | cons i is ih =>
    rcases List.mem_cons.mp ht with rfl | ht
    · exact List.mem_cons_self
    · exact List.mem_cons_of_mem _ (ih ht)

/-- The last step of a run starts in the state after the others. -/
theorem last_mem_transitions (step : σ → ι → ο × σ) (s : σ) (is : List ι) (i : ι) :
    Transition.of step (finalState step s is) i ∈ transitions step s (is ++ [i]) := by
  induction is generalizing s with
  | nil => exact List.mem_cons_self
  | cons j is ih => exact List.mem_cons_of_mem _ (ih (step s j).2)

theorem finalState_append_singleton (step : σ → ι → ο × σ) (s : σ) (is : List ι) (i : ι) :
    finalState step s (is ++ [i]) = (step (finalState step s is) i).2 := by
  induction is generalizing s with
  | nil => rfl
  | cons j is ih => exact ih (step s j).2

/-- A run starts with the steps of the runs on the prefixes of its inputs. -/
theorem transitions_subset_of_isPrefix {js : List ι} (h : js <+: is) :
    transitions step s js ⊆ transitions step s is := by
  induction js generalizing s is with
  | nil => exact List.nil_subset _
  | cons j js ih =>
    obtain ⟨rest, rfl⟩ := h
    exact List.cons_subset_cons _ (ih (List.prefix_append js rest))

/-- Every step of a run starts in a state that satisfies an invariant kept by the run's steps. -/
theorem pre_of_invariant {I : σ → Prop} {C : Transition σ ι ο → Prop}
    (hstep : ∀ s i, I s → C (Transition.of step s i) → I (step s i).2) (hinit : I s)
    (hrun : ∀ t ∈ transitions step s is, C t) : ∀ t ∈ transitions step s is, I t.pre := by
  induction is generalizing s with
  | nil => simp [transitions]
  | cons i is ih =>
    intro t ht
    have hi : C (Transition.of step s i) := hrun _ List.mem_cons_self
    rcases List.mem_cons.mp ht with rfl | ht
    · exact hinit
    · exact ih (hstep s i hinit hi) (fun u hu => hrun u (List.mem_cons_of_mem _ hu)) t ht

/-- An invariant kept by the steps of a run holds at its end. -/
theorem finalState_of_invariant {I : σ → Prop} {C : Transition σ ι ο → Prop}
    (hstep : ∀ s i, I s → C (Transition.of step s i) → I (step s i).2) (hinit : I s)
    (hrun : ∀ t ∈ transitions step s is, C t) : I (finalState step s is) := by
  induction is generalizing s with
  | nil => exact hinit
  | cons i is ih =>
    have hi : C (Transition.of step s i) := hrun _ List.mem_cons_self
    exact ih (hstep s i hinit hi) fun u hu => hrun u (List.mem_cons_of_mem _ hu)

/-- A property that every step keeps holds at the end of a run in which some step establishes it. -/
theorem finalState_of_established {I : σ → Prop} (hkeep : ∀ s i, I s → I (step s i).2)
    (h : ∃ t ∈ transitions step s is, I t.post) : I (finalState step s is) := by
  induction is generalizing s with
  | nil => simp [transitions] at h
  | cons i is ih =>
    obtain ⟨t, ht, hpost⟩ := h
    rcases List.mem_cons.mp ht with rfl | ht
    -- established here: the rest of the run only has to keep it
    · have hpost : I (step s i).2 := hpost
      exact finalState_of_invariant (s := (step s i).2) (C := fun _ => True)
        (fun s i hs _ => hkeep s i hs) hpost fun _ _ => trivial
    -- established later
    · exact ih ⟨t, ht, hpost⟩

/-- A quantity that each step moves by a gain and a loss moves over a run by their sums. -/
theorem conservation {M : Type} [AddCommMonoid M] (μ : σ → M) (gain loss : Transition σ ι ο → M)
    (hstep : ∀ s i, μ (step s i).2 + loss (Transition.of step s i) =
      μ s + gain (Transition.of step s i)) :
    μ (finalState step s is) + ((transitions step s is).map loss).sum =
      μ s + ((transitions step s is).map gain).sum := by
  induction is generalizing s with
  | nil => simp [finalState, transitions]
  | cons i is ih =>
    simp only [finalState, transitions, List.map_cons, List.sum_cons]
    -- the induction hypothesis accounts for the tail, `hstep` for the first step
    calc μ (finalState step (step s i).2 is) +
          (loss (Transition.of step s i) + ((transitions step (step s i).2 is).map loss).sum)
        = (μ (finalState step (step s i).2 is) +
            ((transitions step (step s i).2 is).map loss).sum) +
            loss (Transition.of step s i) := by
          rw [add_comm (loss _), add_assoc]
      _ = (μ (step s i).2 + loss (Transition.of step s i)) +
            ((transitions step (step s i).2 is).map gain).sum := by
          rw [ih, add_right_comm]
      _ = μ s + (gain (Transition.of step s i) +
            ((transitions step (step s i).2 is).map gain).sum) := by
          rw [hstep, add_assoc]

/-- A cell to which each step writes a list of values in turn, as long as the run keeps an
invariant, holds after the run the last value written, or its initial value when there was none. -/
theorem lastWrite_of_invariant {V : Type} (cell : σ → V) (writes : Transition σ ι ο → List V)
    {I : σ → Prop} {C : Transition σ ι ο → Prop}
    (hinv : ∀ s i, I s → C (Transition.of step s i) → I (step s i).2)
    (hstep : ∀ s i, I s → C (Transition.of step s i) →
      cell (step s i).2 = (writes (Transition.of step s i)).getLast?.getD (cell s))
    (hinit : I s) (hrun : ∀ t ∈ transitions step s is, C t) :
    cell (finalState step s is) =
      ((transitions step s is).flatMap writes).getLast?.getD (cell s) := by
  induction is generalizing s with
  | nil => rfl
  | cons i is ih =>
    have hi : C (Transition.of step s i) := hrun _ List.mem_cons_self
    simp only [finalState, transitions, List.flatMap_cons, List.getLast?_append]
    rw [ih (hinv s i hinit hi) fun u hu => hrun u (List.mem_cons_of_mem _ hu), hstep s i hinit hi]
    -- a write in the tail hides the ones of the first step
    cases ((transitions step (step s i).2 is).flatMap writes).getLast? <;> rfl

/-- A cell that each step either writes or leaves alone holds, after a run, the last value written,
or its initial value when no step wrote it. -/
theorem lastWrite {V : Type} (cell : σ → V) (write : Transition σ ι ο → Option V)
    (hstep : ∀ s i, cell (step s i).2 = (write (Transition.of step s i)).getD (cell s)) :
    cell (finalState step s is) =
      ((transitions step s is).filterMap write).getLast?.getD (cell s) := by
  -- a step that writes at most one value writes a list of at most one
  rw [List.filterMap_eq_flatMap_toList]
  refine lastWrite_of_invariant (I := fun _ => True) (C := fun _ => True) cell
    (fun t => (write t).toList) (fun _ _ _ _ => trivial) (fun s i _ _ => ?_) trivial
    fun _ _ => trivial
  rw [hstep]
  cases write (Transition.of step s i) <;> rfl

/-- Where each step uses at most the cost of its input, what is used before an input and its cost
are together at most the costs of all inputs. -/
theorem used_add_cost_le (used : σ → ℕ) (cost : ι → ℕ) {C : Transition σ ι ο → Prop}
    (hstep : ∀ s i, C (Transition.of step s i) → used (step s i).2 ≤ used s + cost i)
    (hrun : ∀ t ∈ transitions step s is, C t) :
    ∀ t ∈ transitions step s is, used t.pre + cost t.input ≤ used s + (is.map cost).sum := by
  induction is generalizing s with
  | nil => simp [transitions]
  | cons i is ih =>
    intro t ht
    have hi : C (Transition.of step s i) := hrun _ List.mem_cons_self
    rw [List.map_cons, List.sum_cons]
    rcases List.mem_cons.mp ht with rfl | ht
    · show used s + cost i ≤ _
      omega
    · -- the first step has used up at most its own cost
      have htail := ih (fun u hu => hrun u (List.mem_cons_of_mem _ hu)) t ht
      have hfirst := hstep s i hi
      omega

end Run
