import EvReth.Foundations.Interference
import Mathlib.Data.Nat.Notation
import Mathlib.Logic.Function.Basic

/-!
# Programs that run side by side

Any number of programs run at the same time and perform their operations in any order; they may be
started and may stop at any point. To each of them the others are a part of the environment: what
they guarantee, it relies on. So triples that are proved in this larger environment hold of every
program of a pool.

A program that catches what it throws has its exceptions as values: the rules at the end are those
of `ExceptT` over programs.
-/

/-- The world, and the programs that are running with their labels. -/
structure Pool (ε Op : Type) (Res : Op → Type) (σ ι α : Type) where
  world : σ
  running : ℕ → Option (ι × Prog ε Op Res α)

namespace Machine

variable {ε Op σ ι α : Type} {Res : Op → Type} (M : Machine ε Op Res σ)
variable (program : ι → Prog ε Op Res α)

/-- A step of a pool: of the environment, the start of a program, an operation of one that is
running, or its end. -/
inductive PoolStep : Pool ε Op Res σ ι α → Pool ε Op Res σ ι α → Prop
  | env {w w' running} (h : M.env w w') : PoolStep ⟨w, running⟩ ⟨w', running⟩
  | start {w running} (n i) (h : running n = none) :
      PoolStep ⟨w, running⟩ ⟨w, Function.update running n (some (i, program i))⟩
  | answered {w w' running n i o k r} (h : running n = some (i, .call o k))
      (hperform : M.perform w o (.ok r) w') :
      PoolStep ⟨w, running⟩ ⟨w', Function.update running n (some (i, k r))⟩
  | refused {w w' running n i o k e} (h : running n = some (i, .call o k))
      (hperform : M.perform w o (.error e) w') :
      PoolStep ⟨w, running⟩ ⟨w', Function.update running n (some (i, .fail e))⟩
  | stop {w running} (n) : PoolStep ⟨w, running⟩ ⟨w, Function.update running n none⟩

/-- Any number of steps. -/
abbrev PoolReaches : Pool ε Op Res σ ι α → Pool ε Op Res σ ι α → Prop :=
  Relation.ReflTransGen (M.PoolStep program)

/-- The machine to whose environment the programs belong. -/
def among (Guar : ι → σ → σ → Prop) : Machine ε Op Res σ :=
  { M with env := fun w w' => M.env w w' ∨ ∃ i, Guar i w w' }

variable (Inv : σ → Prop)

/-- The invariant holds, and every running program keeps it. -/
def PoolSafe (Guar : ι → σ → σ → Prop) (Post : ι → α → σ → Prop) (c : Pool ε Op Res σ ι α) : Prop :=
  Inv c.world ∧ ∀ n i p, c.running n = some (i, p) →
    (M.among Guar).Guarded Inv (Guar i) (Post i) p c.world

variable {M program Inv} {Guar : ι → σ → σ → Prop} {Post : ι → α → σ → Prop}
  {c c' : Pool ε Op Res σ ι α}

/-- After a step of one program, each of the others is guarded as before, and it is so itself. -/
theorem PoolSafe.update {w w' : σ} {running : ℕ → Option (ι × Prog ε Op Res α)} {n : ℕ} {i : ι}
    {p : Prog ε Op Res α} (hstable : ∀ i a, (M.among Guar).Stable (Post i a))
    (hrunning : ∀ n i p, running n = some (i, p) →
      (M.among Guar).Guarded Inv (Guar i) (Post i) p w)
    (henv : (M.among Guar).env w w') (hinv : Inv w')
    (hp : (M.among Guar).Guarded Inv (Guar i) (Post i) p w') :
    M.PoolSafe Inv Guar Post ⟨w', Function.update running n (some (i, p))⟩ := by
  refine ⟨hinv, fun m j q hq => ?_⟩
  -- for the others the step of this program is one of the environment
  by_cases hm : m = n
  · rw [hm] at hq
    simp only [Function.update_self, Option.some.injEq, Prod.mk.injEq] at hq
    obtain ⟨rfl, rfl⟩ := hq
    exact hp
  · simp only [Function.update_of_ne hm] at hq
    exact (hrunning m j q hq).of_env (hstable j) henv

/-- One step keeps safety, and changes the world as the environment or one of the programs may. -/
theorem Sound.pool_step (hsound : (M.among Guar).Sound program Inv Guar Post)
    (hc : M.PoolSafe Inv Guar Post c) (h : M.PoolStep program c c') :
    M.PoolSafe Inv Guar Post c' ∧
      (c'.world = c.world ∨ M.env c.world c'.world ∨ ∃ i, Guar i c.world c'.world) := by
  obtain ⟨hinv, hrunning⟩ := hc
  cases h with
  | env h =>
    have henv := hsound.env _ _ hinv (.inl h)
    refine ⟨⟨henv, fun n i p hp => ?_⟩, .inr (.inl h)⟩
    exact (hrunning n i p hp).of_env (hsound.stable i) (.inl h)
  | @start w running n i h =>
    refine ⟨⟨hinv, fun m j q hq => ?_⟩, .inl rfl⟩
    by_cases hm : m = n
    · rw [hm] at hq
      simp only [Function.update_self, Option.some.injEq, Prod.mk.injEq] at hq
      obtain ⟨rfl, rfl⟩ := hq
      exact hsound.triple i w hinv trivial
    · simp only [Function.update_of_ne hm] at hq
      exact hrunning m j q hq
  -- the answer leads on to a program whose precondition now holds
  | answered h hperform =>
    obtain ⟨hinv', hguar, hresult⟩ := hrunning _ _ _ h _ .refl hinv _ _ hperform
    exact ⟨.update hsound.stable hrunning (.inr ⟨_, hguar⟩) hinv' (hresult _ rfl),
      .inr (.inr ⟨_, hguar⟩)⟩
  | refused h hperform =>
    -- the program ends, but its last operation has kept the guarantee
    obtain ⟨hinv', hguar, -⟩ := hrunning _ _ _ h _ .refl hinv _ _ hperform
    exact ⟨.update hsound.stable hrunning (.inr ⟨_, hguar⟩) hinv' trivial,
      .inr (.inr ⟨_, hguar⟩)⟩
  | @stop w running n =>
    refine ⟨⟨hinv, fun m j q hq => ?_⟩, .inl rfl⟩
    by_cases hm : m = n
    · rw [hm] at hq
      simp only [Function.update_self, reduceCtorEq] at hq
    · simp only [Function.update_of_ne hm] at hq
      exact hrunning m j q hq

/-- All pools that a safe one reaches are safe. -/
theorem Sound.safe_of_poolReaches (hsound : (M.among Guar).Sound program Inv Guar Post)
    (hc : M.PoolSafe Inv Guar Post c) (h : M.PoolReaches program c c') :
    M.PoolSafe Inv Guar Post c' := by
  induction h with
  | refl => exact hc
  | tail _ hstep ih => exact (hsound.pool_step ih hstep).1

/-- A pool without programs is safe if the invariant holds. -/
theorem poolSafe_of_none {w : σ} (hinv : Inv w) : M.PoolSafe Inv Guar Post ⟨w, fun _ => none⟩ :=
  ⟨hinv, fun _ _ _ h => by cases h⟩

/-- A program that has returned did so in its postcondition, which has held since. -/
theorem PoolSafe.post {n : ℕ} {i : ι} {a : α} (hc : M.PoolSafe Inv Guar Post c)
    (h : c.running n = some (i, .done a)) : Post i a c.world := hc.2 n i _ h

variable (program) in
/-- A program runs with possible answers while the others wait. -/
theorem poolReaches_answers {answer : σ → (o : Op) → Except ε (Res o) × σ}
    (hanswer : ∀ w o, M.perform w o (answer w o).1 (answer w o).2) {i : ι} {n : ℕ}
    (p : Prog ε Op Res α) (w : σ) {running : ℕ → Option (ι × Prog ε Op Res α)}
    (h : running n = some (i, p)) :
    M.PoolReaches program ⟨w, running⟩ ⟨(answers answer p w).2,
      Function.update running n (some (i, .ofExcept (answers answer p w).1))⟩ := by
  -- on the program; each answer writes its place in the pool once more
  induction p generalizing w running with
  | done a =>
    rw [answers, Prog.ofExcept, ← h, Function.update_eq_self]
  | fail e =>
    rw [answers, Prog.ofExcept, ← h, Function.update_eq_self]
  | call o k ih =>
    have hperform := hanswer w o
    rw [answers]
    rcases hresult : answer w o with ⟨e | r, w'⟩
    · rw [hresult] at hperform
      exact .single (.refused h hperform)
    · rw [hresult] at hperform
      have hrest := ih r w' (Function.update_self n (some (i, k r)) running)
      rw [Function.update_idem] at hrest
      exact .head (.answered h hperform) hrest

/-! ## Exceptions -/

section Exceptions

variable {ε' β : Type} {Guar : σ → σ → Prop} {P : σ → Prop} {Q : Except ε' α → σ → Prop}
  {R : Except ε' β → σ → Prop}

theorem triple_return {a : α} (h : ∀ w, Inv w → P w → Q (.ok a) w) :
    M.Triple Inv Guar P (pure a : ExceptT ε' (Prog ε Op Res) α) Q := h

theorem triple_throw {e : ε'} (h : ∀ w, Inv w → P w → Q (.error e) w) :
    M.Triple Inv Guar P (throw e : ExceptT ε' (Prog ε Op Res) α) Q := h

/-- An exception of the first part is one of the whole. -/
theorem triple_seq {p : ExceptT ε' (Prog ε Op Res) β} {f : β → ExceptT ε' (Prog ε Op Res) α}
    (hp : M.Triple Inv Guar P p R) (herror : ∀ e w, Inv w → R (.error e) w → Q (.error e) w)
    (hf : ∀ b, M.Triple Inv Guar (R (.ok b)) (f b) Q) :
    M.Triple Inv Guar P (p >>= f : ExceptT ε' (Prog ε Op Res) α) Q :=
  triple_bind hp fun
    | .ok b => hf b
    | .error e => herror e

/-- An exception that is caught goes to its handler. -/
theorem triple_catch {p : ExceptT ε' (Prog ε Op Res) α}
    {handle : ε' → ExceptT ε' (Prog ε Op Res) α} {R : Except ε' α → σ → Prop}
    (hp : M.Triple Inv Guar P p R) (hok : ∀ a w, Inv w → R (.ok a) w → Q (.ok a) w)
    (hhandle : ∀ e, M.Triple Inv Guar (R (.error e)) (handle e) Q) :
    M.Triple Inv Guar P (tryCatch p handle : ExceptT ε' (Prog ε Op Res) α) Q :=
  triple_bind hp fun
    | .ok a => hok a
    | .error e => hhandle e

/-- An operation throws nothing. -/
theorem triple_lift_op {o : Op} {Q : Except ε' (Res o) → σ → Prop} (hP : M.Stable P)
    (hop : ∀ w r w', Inv w → P w → M.perform w o r w' →
      Inv w' ∧ Guar w w' ∧ ∀ a, r = .ok a → Q (.ok a) w') :
    M.Triple Inv Guar P (ExceptT.lift (.op o) : ExceptT ε' (Prog ε Op Res) (Res o)) Q :=
  triple_bind (triple_op hP hop) fun _ => triple_done

end Exceptions

end Machine
