import Mathlib.Logic.Relation

/-!
# Programs that may stop anywhere, in a world that moves

A program performs operations on a world one at a time. Between two operations the environment may
change the world, and the program may stop for good. Programs are run one after the other. An
operation that fails ends its program.

The proof rules are those of rely and guarantee. `Inv` is an invariant of the world and `Guar` says
how an operation may change it. A triple `{P} p {Q}` says that `p`, started in `P`, keeps `Inv` and
`Guar` with every operation, whatever the environment does, and ends in `Q` if it returns. The
assertions of a triple are stable: the environment keeps them. `Config.Safe` and the theorems about
`Reaches` lift the triples of the programs to all their runs.
-/

/-- A program. The continuation of an operation takes its result. -/
inductive Prog (ε Op : Type) (Res : Op → Type) (α : Type) where
  | done (a : α)
  | fail (e : ε)
  | call (o : Op) (k : Res o → Prog ε Op Res α)

namespace Prog

variable {ε Op α β : Type} {Res : Op → Type}

/-- Sequencing. -/
def bind : Prog ε Op Res α → (α → Prog ε Op Res β) → Prog ε Op Res β
  | .done a, f => f a
  | .fail e, _ => .fail e
  | .call o k, f => .call o fun r => (k r).bind f

instance : Monad (Prog ε Op Res) where
  pure := .done
  bind := .bind

/-- A program of one operation. -/
def op (o : Op) : Prog ε Op Res (Res o) := .call o .done

/-- A computation that may fail. -/
def ofExcept : Except ε α → Prog ε Op Res α
  | .ok a => .done a
  | .error e => .fail e

theorem bind_assoc {γ : Type} (p : Prog ε Op Res α) (f : α → Prog ε Op Res β)
    (g : β → Prog ε Op Res γ) : p >>= f >>= g = p >>= fun a => f a >>= g := by
  induction p with
  | done a => rfl
  | fail e => rfl
  | call o k ih => exact congrArg (Prog.call o) (funext ih)

end Prog

/-- What operations do to the world, and what the environment does. -/
structure Machine (ε Op : Type) (Res : Op → Type) (σ : Type) where
  perform : σ → (o : Op) → Except ε (Res o) → σ → Prop
  env : σ → σ → Prop

/-- The world, and the program that is running with its label. -/
structure Config (ε Op : Type) (Res : Op → Type) (σ ι α : Type) where
  world : σ
  current : Option (ι × Prog ε Op Res α)

namespace Machine

variable {ε Op σ ι α β : Type} {Res : Op → Type} (M : Machine ε Op Res σ)
variable (program : ι → Prog ε Op Res α)

/-- A step: of the environment, the start of a program, an operation of the running program, or its
end, which may come at any point. -/
inductive Step : Config ε Op Res σ ι α → Config ε Op Res σ ι α → Prop
  | env {w w' current} (h : M.env w w') : Step ⟨w, current⟩ ⟨w', current⟩
  | start (w i) : Step ⟨w, none⟩ ⟨w, some (i, program i)⟩
  | answered {w w' i o k r} (h : M.perform w o (.ok r) w') :
      Step ⟨w, some (i, .call o k)⟩ ⟨w', some (i, k r)⟩
  | refused {w w' i o k e} (h : M.perform w o (.error e) w') :
      Step ⟨w, some (i, .call o k)⟩ ⟨w', some (i, .fail e)⟩
  | stop (w i p) : Step ⟨w, some (i, p)⟩ ⟨w, none⟩

/-- Any number of steps. -/
abbrev Reaches : Config ε Op Res σ ι α → Config ε Op Res σ ι α → Prop :=
  Relation.ReflTransGen (M.Step program)

/-- The environment keeps an assertion. -/
def Stable (P : σ → Prop) : Prop := ∀ w w', M.env w w' → P w → P w'

variable (Inv : σ → Prop) (Guar : σ → σ → Prop)

/-- Every operation that the program can still perform keeps `Inv` and `Guar`, and what it returns
satisfies `Q`. -/
def Guarded (Q : α → σ → Prop) : Prog ε Op Res α → σ → Prop
  | .done a, w => Q a w
  | .fail _, _ => True
  | .call o k, w => ∀ w₁, Relation.ReflTransGen M.env w w₁ → Inv w₁ →
      ∀ r w₂, M.perform w₁ o r w₂ →
        Inv w₂ ∧ Guar w₁ w₂ ∧ ∀ a, r = .ok a → Guarded Q (k a) w₂

/-- `{P} p {Q}`. -/
def Triple (P : σ → Prop) (p : Prog ε Op Res α) (Q : α → σ → Prop) : Prop :=
  ∀ w, Inv w → P w → M.Guarded Inv Guar Q p w

variable {M program Inv Guar}

/-- What one step of the environment keeps, any number of them keeps. -/
theorem Stable.of_refl_trans {P : σ → Prop} (hP : M.Stable P) {w w' : σ}
    (h : Relation.ReflTransGen M.env w w') (hw : P w) : P w' := by
  induction h with
  | refl => exact hw
  | tail _ hstep ih => exact hP _ _ hstep ih

/-- Two stable assertions are stable together. -/
theorem Stable.and {P P' : σ → Prop} (hP : M.Stable P) (hP' : M.Stable P') :
    M.Stable fun w => P w ∧ P' w :=
  fun w w' h hw => ⟨hP w w' h hw.1, hP' w w' h hw.2⟩

/-! ## Rules for triples -/

variable {P P' : σ → Prop} {Q Q' : α → σ → Prop} {R : β → σ → Prop}

theorem triple_done {a : α} : M.Triple Inv Guar (Q a) (.done a) Q := fun _ _ hw => hw

theorem triple_pure {a : α} (h : ∀ w, Inv w → P w → Q a w) :
    M.Triple Inv Guar P (pure a : Prog ε Op Res α) Q := h

theorem triple_fail {e : ε} : M.Triple Inv Guar P (.fail e) Q := fun _ _ _ => trivial

/-- An operation is judged in a world that satisfies its precondition, since that is stable. -/
theorem triple_call {o : Op} {k : Res o → Prog ε Op Res α} {S : Res o → σ → Prop}
    (hP : M.Stable P)
    (hop : ∀ w r w', Inv w → P w → M.perform w o r w' →
      Inv w' ∧ Guar w w' ∧ ∀ a, r = .ok a → S a w')
    (hk : ∀ a, M.Triple Inv Guar (S a) (k a) Q) : M.Triple Inv Guar P (.call o k) Q := by
  intro w _ hw w₁ henv hinv r w₂ hperform
  obtain ⟨hinv', hguar, hresult⟩ := hop w₁ r w₂ hinv (hP.of_refl_trans henv hw) hperform
  exact ⟨hinv', hguar, fun a ha => hk a w₂ hinv' (hresult a ha)⟩

theorem triple_op {o : Op} {S : Res o → σ → Prop} (hP : M.Stable P)
    (hop : ∀ w r w', Inv w → P w → M.perform w o r w' →
      Inv w' ∧ Guar w w' ∧ ∀ a, r = .ok a → S a w') :
    M.Triple Inv Guar P (.op o) S :=
  triple_call hP hop fun _ => triple_done

/-- A guarded program may be followed by one whose triple begins where it ends. -/
theorem Guarded.bind {p : Prog ε Op Res β} {f : β → Prog ε Op Res α} {w : σ} (hinv : Inv w)
    (hp : M.Guarded Inv Guar R p w) (hf : ∀ b, M.Triple Inv Guar (R b) (f b) Q) :
    M.Guarded Inv Guar Q (p.bind f) w := by
  induction p generalizing w with
  | done b => exact hf b w hinv hp
  | fail e => exact trivial
  | call o k ih =>
    -- the induction is on the program, under its first operation
    intro w₁ henv hinv₁ r w₂ hperform
    obtain ⟨hinv₂, hguar, hresult⟩ := hp w₁ henv hinv₁ r w₂ hperform
    exact ⟨hinv₂, hguar, fun a ha => ih a hinv₂ (hresult a ha)⟩

/-- The rule of composition. -/
theorem triple_bind {p : Prog ε Op Res β} {f : β → Prog ε Op Res α}
    (hp : M.Triple Inv Guar P p R) (hf : ∀ b, M.Triple Inv Guar (R b) (f b) Q) :
    M.Triple Inv Guar P (p >>= f) Q :=
  fun w hinv hw => (hp w hinv hw).bind hinv hf

theorem Triple.of_imp {p : Prog ε Op Res α} (h : M.Triple Inv Guar P p Q)
    (hP : ∀ w, Inv w → P' w → P w) : M.Triple Inv Guar P' p Q :=
  fun w hinv hw => h w hinv (hP w hinv hw)

/-- Postconditions may be weakened. -/
theorem Triple.imp_post {p : Prog ε Op Res α} (h : M.Triple Inv Guar P p Q)
    (hQ : ∀ a w, Q a w → Q' a w) : M.Triple Inv Guar P p Q' := by
  intro w hinv hw
  have hguarded := h w hinv hw
  clear h hw
  induction p generalizing w with
  | done a => exact hQ a w hguarded
  | fail e => exact trivial
  | call o k ih =>
    intro w₁ henv hinv₁ r w₂ hperform
    obtain ⟨hinv₂, hguar, hresult⟩ := hguarded w₁ henv hinv₁ r w₂ hperform
    exact ⟨hinv₂, hguar, fun a ha => ih a w₂ hinv₂ (hresult a ha)⟩

/-- A failure of a computation ends the program. -/
theorem triple_ofExcept {x : Except ε α} (h : ∀ w, Inv w → P w → ∀ a, x = .ok a → Q a w) :
    M.Triple Inv Guar P (.ofExcept x) Q := by
  intro w hinv hw
  cases x with
  | ok a => exact h w hinv hw a rfl
  | error e => exact trivial

/-! ## All runs -/

variable (M program Inv) in
/-- What is to be proved of the programs: the environment keeps the invariant, and every program
keeps its guarantee and returns in a world that satisfies its postcondition, a stable one. -/
structure Sound (Guar : ι → σ → σ → Prop) (Post : ι → α → σ → Prop) : Prop where
  env : ∀ w w', Inv w → M.env w w' → Inv w'
  triple : ∀ i, M.Triple Inv (Guar i) (fun _ => True) (program i) (Post i)
  stable : ∀ i a, M.Stable (Post i a)

variable (M Inv) in
/-- The invariant holds, and the running program keeps it. -/
def Safe (Guar : ι → σ → σ → Prop) (Post : ι → α → σ → Prop) (c : Config ε Op Res σ ι α) : Prop :=
  Inv c.world ∧ ∀ i p, c.current = some (i, p) → M.Guarded Inv (Guar i) (Post i) p c.world

variable {Guar : ι → σ → σ → Prop} {Post : ι → α → σ → Prop} {c c' : Config ε Op Res σ ι α}

/-- A program that is guarded stays so when the environment moves. -/
theorem Guarded.of_env {i : ι} {p : Prog ε Op Res α} {w w' : σ}
    (hstable : ∀ a, M.Stable (Post i a)) (h : M.Guarded Inv (Guar i) (Post i) p w)
    (henv : M.env w w') : M.Guarded Inv (Guar i) (Post i) p w' := by
  cases p with
  | done a => exact hstable a w w' henv h
  | fail e => exact trivial
  | call o k => exact fun w₁ henv₁ => h w₁ (.head henv henv₁)

/-- One step keeps safety, and changes the world as the environment or the running program may. -/
theorem Sound.step (hsound : M.Sound program Inv Guar Post) (hc : M.Safe Inv Guar Post c)
    (h : M.Step program c c') :
    M.Safe Inv Guar Post c' ∧
      (c'.world = c.world ∨ M.env c.world c'.world ∨
        ∃ i p, c.current = some (i, p) ∧ Guar i c.world c'.world) := by
  obtain ⟨hinv, hguarded⟩ := hc
  cases h with
  | env h =>
    refine ⟨⟨hsound.env _ _ hinv h, fun i p hp => ?_⟩, .inr (.inl h)⟩
    exact (hguarded i p hp).of_env (hsound.stable i) h
  | start w i =>
    -- every program may be started in a world that satisfies the invariant
    refine ⟨⟨hinv, fun j p hp => ?_⟩, .inl rfl⟩
    obtain ⟨rfl, rfl⟩ := Prod.mk.inj (Option.some.inj hp)
    exact hsound.triple i w hinv trivial
  | answered h =>
    obtain ⟨hinv', hguar, hresult⟩ := hguarded _ _ rfl _ .refl hinv _ _ h
    refine ⟨⟨hinv', fun j p hp => ?_⟩, .inr (.inr ⟨_, _, rfl, hguar⟩)⟩
    obtain ⟨rfl, rfl⟩ := Prod.mk.inj (Option.some.inj hp)
    exact hresult _ rfl
  | refused h =>
    -- the operation keeps the invariant although it fails, and nothing comes after it
    obtain ⟨hinv', hguar, -⟩ := hguarded _ _ rfl _ .refl hinv _ _ h
    refine ⟨⟨hinv', fun j p hp => ?_⟩, .inr (.inr ⟨_, _, rfl, hguar⟩)⟩
    obtain ⟨rfl, rfl⟩ := Prod.mk.inj (Option.some.inj hp)
    exact trivial
  | stop w i p =>
    refine ⟨⟨hinv, fun j q hq => ?_⟩, .inl rfl⟩
    cases hq

/-- All configurations that a safe one reaches are safe. -/
theorem Sound.safe_of_reaches (hsound : M.Sound program Inv Guar Post)
    (hc : M.Safe Inv Guar Post c) (h : M.Reaches program c c') : M.Safe Inv Guar Post c' := by
  induction h with
  | refl => exact hc
  | tail _ hstep ih => exact (hsound.step ih hstep).1

/-- What the environment and every program keep is kept by every run of steps. -/
theorem Sound.rel_of_reaches {R : σ → σ → Prop} (hsound : M.Sound program Inv Guar Post)
    (hrefl : ∀ w, R w w) (htrans : ∀ w₁ w₂ w₃, R w₁ w₂ → R w₂ w₃ → R w₁ w₃)
    (henv : ∀ w w', M.env w w' → R w w') (hguar : ∀ i w w', Guar i w w' → R w w')
    (hc : M.Safe Inv Guar Post c) (h : M.Reaches program c c') : R c.world c'.world := by
  induction h with
  | refl => exact hrefl _
  | @tail c₁ c₂ hreach hstep ih =>
    refine htrans _ _ _ ih ?_
    rcases (hsound.step (hsound.safe_of_reaches hc hreach) hstep).2 with heq | h | ⟨i, p, -, h⟩
    · exact heq ▸ hrefl _
    · exact henv _ _ h
    · exact hguar i _ _ h

/-- A program that has returned did so in its postcondition. -/
theorem Safe.post {i : ι} {a : α} (hc : M.Safe Inv Guar Post c)
    (h : c.current = some (i, .done a)) : Post i a c.world := hc.2 i _ h

/-! ## A run with given answers -/

/-- Runs a program with the answers of a function. -/
def answers (answer : σ → (o : Op) → Except ε (Res o) × σ) :
    Prog ε Op Res α → σ → Except ε α × σ
  | .done a, w => (.ok a, w)
  | .fail e, w => (.error e, w)
  | .call o k, w =>
    match answer w o with
    | (.ok r, w') => answers answer (k r) w'
    | (.error e, w') => (.error e, w')

@[simp]
theorem answers_op (answer : σ → (o : Op) → Except ε (Res o) × σ) (o : Op) (w : σ) :
    answers answer (.op o) w = answer w o := by
  rw [Prog.op, answers]
  rcases answer w o with ⟨e | r, w'⟩ <;> rfl

@[simp]
theorem answers_ofExcept (answer : σ → (o : Op) → Except ε (Res o) × σ) (x : Except ε α) (w : σ) :
    answers answer (.ofExcept x) w = (x, w) := by
  cases x <;> rfl

@[simp]
theorem answers_pure (answer : σ → (o : Op) → Except ε (Res o) × σ) (a : α) (w : σ) :
    answers answer (pure a) w = (.ok a, w) := rfl

/-- A sequence goes on where its first part has succeeded. -/
theorem answers_bind (answer : σ → (o : Op) → Except ε (Res o) × σ) (p : Prog ε Op Res β)
    (f : β → Prog ε Op Res α) (w : σ) :
    answers answer (p >>= f) w =
      match answers answer p w with
      | (.ok b, w') => answers answer (f b) w'
      | (.error e, w') => (.error e, w') := by
  induction p generalizing w with
  | done b => rfl
  | fail e => rfl
  | call o k ih =>
    change answers answer (.call o fun r => (k r).bind f) w = _
    rw [answers, answers]
    rcases answer w o with ⟨e | r, w'⟩
    · rfl
    · exact ih r w'

/-- The environment may move before an operation. -/
theorem reaches_of_env {w w' : σ} (current : Option (ι × Prog ε Op Res α))
    (h : Relation.ReflTransGen M.env w w') : M.Reaches program ⟨w, current⟩ ⟨w', current⟩ :=
  h.lift (fun w => (⟨w, current⟩ : Config ε Op Res σ ι α)) fun _ _ h => .env h

/-- If the answers are possible, so is the run. -/
theorem reaches_answers {answer : σ → (o : Op) → Except ε (Res o) × σ}
    (hanswer : ∀ w o, ∃ w₁, Relation.ReflTransGen M.env w w₁ ∧
      M.perform w₁ o (answer w o).1 (answer w o).2) (i : ι) (p : Prog ε Op Res α) (w : σ) :
    M.Reaches program ⟨w, some (i, p)⟩
      ⟨(answers answer p w).2, some (i, .ofExcept (answers answer p w).1)⟩ := by
  induction p generalizing w with
  | done a => exact .refl
  | fail e => exact .refl
  | call o k ih =>
    obtain ⟨w₁, henv, hperform⟩ := hanswer w o
    have hbefore : M.Reaches program _ _ := reaches_of_env (some (i, .call o k)) henv
    rw [answers]
    rcases hresult : answer w o with ⟨e | r, w'⟩
    · rw [hresult] at hperform
      exact hbefore.tail (.refused hperform)
    · rw [hresult] at hperform
      exact (hbefore.tail (.answered hperform)).trans (ih r w')

/-- A run reaches the second part of a sequence. -/
theorem reaches_answers_bind {answer : σ → (o : Op) → Except ε (Res o) × σ}
    (hanswer : ∀ w o, ∃ w₁, Relation.ReflTransGen M.env w w₁ ∧
      M.perform w₁ o (answer w o).1 (answer w o).2) (i : ι) {p : Prog ε Op Res β}
    (f : β → Prog ε Op Res α) {w w' : σ} {b : β} (h : answers answer p w = (.ok b, w')) :
    M.Reaches program ⟨w, some (i, p >>= f)⟩ ⟨w', some (i, f b)⟩ := by
  induction p generalizing w with
  | done a =>
    obtain ⟨hb, rfl⟩ := Prod.mk.inj h
    obtain rfl := Except.ok.inj hb
    exact .refl
  | fail e => cases h
  | call o k ih =>
    obtain ⟨w₁, henv, hperform⟩ := hanswer w o
    have hbefore : M.Reaches program _ _ := reaches_of_env (some (i, .call o k >>= f)) henv
    rw [answers] at h
    rcases hresult : answer w o with ⟨e | r, w₂⟩
    · rw [hresult] at h
      cases h
    · rw [hresult] at h hperform
      exact (hbefore.tail (.answered hperform)).trans (ih r h)

end Machine
