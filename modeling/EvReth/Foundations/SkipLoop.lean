import Mathlib.Data.List.Basic
import Mathlib.Data.List.Forall2

/-!
# Loops that leave out what is rejected

A loop over a list in which every element is accepted, skipped or aborts the whole loop. If skipping
is invisible, up to a relation that acceptance respects, then the loop does the same on the elements
it accepts as on the whole list, and accepts all of them again.
-/

/-- What a loop does with an element. A skipped element may still leave its mark on the state. -/
inductive SkipLoop.Outcome (ε σ : Type) where
  | accepted (s : σ)
  | skipped (s : σ)
  | aborted (e : ε)

namespace SkipLoop

variable {ε σ ι κ : Type} (step : ι → σ → Outcome ε σ)

/-- The loop: the state after the last element, or the error of the first that aborts it. -/
def run : List ι → σ → Except ε σ
  | [], s => .ok s
  | x :: xs, s =>
    match step x s with
    | .accepted s' => run xs s'
    | .skipped s' => run xs s'
    | .aborted e => .error e

/-- The elements that are accepted, in order. -/
def accepted : List ι → σ → List ι
  | [], _ => []
  | x :: xs, s =>
    match step x s with
    | .accepted s' => x :: accepted xs s'
    | .skipped s' => accepted xs s'
    | .aborted _ => []

/-- No element aborts the loop. -/
def Completes : List ι → σ → Prop
  | [], _ => True
  | x :: xs, s =>
    match step x s with
    | .accepted s' => Completes xs s'
    | .skipped s' => Completes xs s'
    | .aborted _ => False

/-- The loop over encoded elements: what does not decode is skipped. -/
def decoding (decode : κ → Option ι) (k : κ) (s : σ) : Outcome ε σ :=
  match decode k with
  | some x => step x s
  | none => .skipped s

/-- The loop that no element aborts: what would abort it is skipped. -/
def dropping (x : ι) (s : σ) : Outcome ε σ :=
  match step x s with
  | .accepted s' => .accepted s'
  | .skipped s' => .skipped s'
  | .aborted _ => .skipped s

variable {step}

/-- A loop that ends has accepted or skipped its first element. -/
theorem run_cons_eq_ok {x : ι} {xs : List ι} {s s' : σ} (h : run step (x :: xs) s = .ok s') :
    (∃ s₁, step x s = .accepted s₁ ∧ run step xs s₁ = .ok s') ∨
      ∃ s₁, step x s = .skipped s₁ ∧ run step xs s₁ = .ok s' := by
  simp only [run] at h
  cases hstep : step x s with
  | accepted s₁ => exact .inl ⟨s₁, rfl, by simpa only [hstep] using h⟩
  | skipped s₁ => exact .inr ⟨s₁, rfl, by simpa only [hstep] using h⟩
  | aborted e =>
    simp only [hstep] at h
    cases h

/-- The loop returns a state exactly if it is never stopped. -/
theorem run_eq_ok_iff {xs : List ι} {s : σ} :
    (∃ s', run step xs s = .ok s') ↔ Completes step xs s := by
  induction xs generalizing s with
  | nil => exact iff_of_true ⟨s, rfl⟩ trivial
  | cons x xs ih =>
    simp only [run, Completes]
    cases step x s with
    | accepted s' => exact ih
    | skipped s' => exact ih
    | aborted e => exact iff_of_false (fun ⟨_, h⟩ => nomatch h) id

/-- The loop completes exactly if no element aborts it in the state after those before it. -/
theorem completes_iff {xs : List ι} {s : σ} :
    Completes step xs s ↔ ∀ pre x post s', xs = pre ++ x :: post → run step pre s = .ok s' →
      ∀ e, step x s' ≠ .aborted e := by
  induction xs generalizing s with
  | nil => simp [Completes]
  | cons x xs ih =>
    -- the first element is at its turn in `s`, every other one behind it
    have hsplit : (∀ pre y post s', x :: xs = pre ++ y :: post → run step pre s = .ok s' →
        ∀ e, step y s' ≠ .aborted e) ↔ (∀ e, step x s ≠ .aborted e) ∧
          ∀ pre y post s', xs = pre ++ y :: post → run step (x :: pre) s = .ok s' →
            ∀ e, step y s' ≠ .aborted e := by
      constructor
      · intro h
        refine ⟨h [] x xs s rfl rfl, fun pre y post s' hxs hrun => ?_⟩
        exact h (x :: pre) y post s' (by rw [hxs, List.cons_append]) hrun
      · rintro ⟨hfirst, hrest⟩ (_ | ⟨z, pre⟩) y post s' hxs hrun
        · obtain ⟨rfl, -⟩ := List.cons.inj hxs
          exact Except.ok.inj hrun ▸ hfirst
        · obtain ⟨rfl, hrest'⟩ := List.cons.inj hxs
          exact hrest pre y post s' hrest' hrun
    rw [hsplit]
    simp only [Completes, run]
    cases step x s with
    | accepted s₁ => simpa using ih
    | skipped s₁ => simpa using ih
    | aborted e => simp

/-- A loop that is not stopped is not stopped before. -/
theorem Completes.of_append {pre post : List ι} {s : σ} (h : Completes step (pre ++ post) s) :
    Completes step pre s := by
  rw [completes_iff] at h ⊢
  intro pre' x post' s' hxs
  exact h pre' x (post' ++ post) s' (by rw [hxs, List.append_assoc, List.cons_append])

/-- A loop that is not aborted accepts the same elements as the loop that cannot be. -/
theorem accepted_dropping {xs : List ι} {s : σ} (h : Completes step xs s) :
    accepted (dropping step) xs s = accepted step xs s := by
  induction xs generalizing s with
  | nil => rfl
  | cons x xs ih =>
    simp only [accepted, dropping, Completes] at h ⊢
    cases hstep : step x s with
    | accepted s' =>
      simp only [hstep] at h ⊢
      rw [ih h]
    | skipped s' =>
      simp only [hstep] at h ⊢
      exact ih h
    | aborted e =>
      rw [hstep] at h
      exact h.elim

/-- A loop over encodings completes exactly if the loop over the elements does. -/
theorem completes_decoding (decode : κ → Option ι) {ks : List κ} {s : σ} :
    Completes (decoding step decode) ks s ↔ Completes step (ks.filterMap decode) s := by
  induction ks generalizing s with
  | nil => rfl
  | cons k ks ih =>
    cases hdecode : decode k with
    | none => simpa [Completes, decoding, hdecode] using ih
    | some x =>
      simp only [Completes, decoding, hdecode, List.filterMap_cons]
      cases step x s with
      | accepted s' => exact ih
      | skipped s' => exact ih
      | aborted e => rfl

/-- The elements that a loop over encodings accepts are the encodings of those that the loop over
the elements accepts. -/
theorem accepted_decoding (decode : κ → Option ι) (ks : List κ) (s : σ) :
    (accepted (decoding step decode) ks s).filterMap decode =
      accepted step (ks.filterMap decode) s := by
  induction ks generalizing s with
  | nil => rfl
  | cons k ks ih =>
    cases hdecode : decode k with
    | none => simpa [accepted, decoding, hdecode] using ih s
    | some x =>
      simp only [accepted, decoding, hdecode, List.filterMap_cons]
      cases step x s with
      | accepted s' => simpa [hdecode] using ih s'
      | skipped s' => simpa using ih s'
      | aborted e => rfl

/-- What is accepted keeps its order. -/
theorem accepted_sublist (xs : List ι) (s : σ) : (accepted step xs s).Sublist xs := by
  induction xs generalizing s with
  | nil => exact .slnil
  | cons x xs ih =>
    simp only [accepted]
    cases step x s with
    | accepted s' => exact (ih s').cons_cons x
    | skipped s' => exact (ih s').cons x
    | aborted e => exact List.nil_sublist _

/-- What every accepted and every skipped element keeps is kept by the loop. -/
theorem invariant_of_run {I : σ → Prop} (haccept : ∀ x s s', I s → step x s = .accepted s' → I s')
    (hskip : ∀ x s s', I s → step x s = .skipped s' → I s') {xs : List ι} {s s' : σ} (hs : I s)
    (h : run step xs s = .ok s') : I s' := by
  induction xs generalizing s with
  | nil => exact Except.ok.inj h ▸ hs
  | cons x xs ih =>
    rcases run_cons_eq_ok h with ⟨s₁, hstep, h⟩ | ⟨s₁, hstep, h⟩
    · exact ih (haccept x s s₁ hs hstep) h
    · exact ih (hskip x s s₁ hs hstep) h

/-- A record of the accepted elements holds exactly them. -/
theorem record_of_run {record : σ → List ι}
    (haccept : ∀ x s s', step x s = .accepted s' → record s' = record s ++ [x])
    (hskip : ∀ x s s', step x s = .skipped s' → record s' = record s) {xs : List ι} {s s' : σ}
    (h : run step xs s = .ok s') : record s' = record s ++ accepted step xs s := by
  induction xs generalizing s with
  | nil => simpa [accepted] using congrArg record (Except.ok.inj h).symm
  | cons x xs ih =>
    rcases run_cons_eq_ok h with ⟨s₁, hstep, h⟩ | ⟨s₁, hstep, h⟩
    · simp only [accepted, hstep]
      rw [ih h, haccept x s s₁ hstep, List.append_assoc, List.singleton_append]
    · simp only [accepted, hstep]
      rw [ih h, hskip x s s₁ hstep]

variable (step) in
/-- Skipping an element is invisible: up to `R` it changes nothing, and what is accepted in one
state is accepted in every related one. -/
structure Invisible (R : σ → σ → Prop) : Prop where
  symm : ∀ {s t}, R s t → R t s
  trans : ∀ {s t u}, R s t → R t u → R s u
  skip : ∀ {x s s'}, step x s = .skipped s' → R s s'
  accept : ∀ {x s t s'}, R s t → step x s = .accepted s' →
    ∃ t', step x t = .accepted t' ∧ R s' t'

/-- The loop on the accepted elements accepts all of them and ends as the loop on all elements. -/
theorem run_accepted {R : σ → σ → Prop} (hinv : Invisible step R) {xs : List ι} {s s' t : σ}
    (h : run step xs s = .ok s') (hR : R s t) :
    ∃ t', run step (accepted step xs s) t = .ok t' ∧ R s' t' ∧
      accepted step (accepted step xs s) t = accepted step xs s := by
  induction xs generalizing s t with
  | nil => exact ⟨t, rfl, (Except.ok.inj h) ▸ hR, rfl⟩
  | cons x xs ih =>
    rcases run_cons_eq_ok h with ⟨s₁, hstep, h⟩ | ⟨s₁, hstep, h⟩
    · obtain ⟨t₁, ht, hR₁⟩ := hinv.accept hR hstep
      obtain ⟨t', hrun, hR', hall⟩ := ih h hR₁
      refine ⟨t', ?_, hR', ?_⟩
      · simpa only [accepted, hstep, run, ht] using hrun
      · simp only [accepted, hstep, ht, hall]
    -- the state after the skip is still related to `t`
    · have hR₁ : R s₁ t := hinv.trans (hinv.symm (hinv.skip hstep)) hR
      simpa only [accepted, hstep] using ih h hR₁

/-- A loop that stops at the first failure follows a loop that skips, if it does with what the other
accepts as the other does: it runs through all that is accepted. -/
theorem foldlM_of_run {δ τ : Type} {next : τ → κ → Except δ τ} {R : σ → τ → Prop}
    {P : ι → κ → Prop} (hskip : ∀ {x s s' t}, R s t → step x s = .skipped s' → R s' t)
    (haccept : ∀ {x k s s' t}, R s t → P x k → step x s = .accepted s' →
      ∃ t', next t k = .ok t' ∧ R s' t') {xs : List ι} {ks : List κ} {s s' : σ} {t : τ}
    (h : run step xs s = .ok s') (hR : R s t) (hks : List.Forall₂ P (accepted step xs s) ks) :
    ∃ t', ks.foldlM next t = .ok t' ∧ R s' t' := by
  induction xs generalizing s t ks with
  | nil =>
    obtain rfl := List.forall₂_nil_left_iff.mp hks
    exact ⟨t, rfl, Except.ok.inj h ▸ hR⟩
  | cons x xs ih =>
    rcases run_cons_eq_ok h with ⟨s₁, hstep, h⟩ | ⟨s₁, hstep, h⟩
    · simp only [accepted, hstep] at hks
      obtain ⟨k, ks', hxk, hks', rfl⟩ := List.forall₂_cons_left_iff.mp hks
      obtain ⟨t₁, ht, hR₁⟩ := haccept hR hxk hstep
      obtain ⟨t', hrest, hR'⟩ := ih h hR₁ hks'
      refine ⟨t', ?_, hR'⟩
      rw [List.foldlM_cons, ht]
      exact hrest
    · simp only [accepted, hstep] at hks
      exact ih h (hskip hR hstep) hks

end SkipLoop
