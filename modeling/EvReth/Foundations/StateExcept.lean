import Mathlib.Data.List.Forall2

/-!
# Running stateful programs that may fail

`EStateM ε σ` keeps the state reached when an error is thrown. These rules run a program one bind at
a time: each takes the outcome of the first part as a hypothesis, so that a proof names the state
after every step and never unfolds the monad. A second set of rules is about what a program leaves
alone on every path, those that end in an error included. Checks that keep no state have rules of
their own, with one for a check of every element of a list.
-/

namespace EStateM

variable {ε ε' σ α β : Type} {x : EStateM ε σ α} {f : α → EStateM ε σ β} {s s' : σ} {a : α} {e : ε}

/-- After a success the second computation runs on its value, in its state. -/
theorem bind_of_ok (h : x s = .ok a s') : (x >>= f) s = f a s' := by
  simp [bind, EStateM.bind, h]

/-- After a failure the second computation does not run. -/
theorem bind_of_error (h : x s = .error e s') : (x >>= f) s = .error e s' := by
  simp [bind, EStateM.bind, h]

/-- A sequence of two programs succeeds only if both do. -/
theorem bind_eq_ok {b : β} (h : (x >>= f) s = .ok b s') :
    ∃ a s₁, x s = .ok a s₁ ∧ f a s₁ = .ok b s' := by
  cases hx : x s with
  | ok a s₁ => exact ⟨a, s₁, rfl, (bind_of_ok hx).symm.trans h⟩
  | error e s₁ =>
    rw [bind_of_error hx] at h
    cases h

/-- A sequence of two programs fails where one of them does. -/
theorem bind_eq_error (h : (x >>= f) s = .error e s') :
    x s = .error e s' ∨ ∃ a s₁, x s = .ok a s₁ ∧ f a s₁ = .error e s' := by
  cases hx : x s with
  | ok a s₁ => exact .inr ⟨a, s₁, rfl, (bind_of_ok hx).symm.trans h⟩
  | error e₁ s₁ =>
    rw [bind_of_error hx] at h
    obtain ⟨rfl, rfl⟩ := EStateM.Result.error.inj h
    exact .inl rfl

theorem bind_congr_left {y : EStateM ε σ α} (h : x s = y s) : (x >>= f) s = (y >>= f) s := by
  cases hy : y s with
  | ok a s' => rw [bind_of_ok (h.trans hy), bind_of_ok hy]
  | error e s' => rw [bind_of_error (h.trans hy), bind_of_error hy]

/-- Two programs that start alike run alike if they agree where the start succeeds. -/
theorem bind_congr_of_ok {g : α → EStateM ε σ β}
    (h : ∀ a s', x s = .ok a s' → f a s' = g a s') : (x >>= f) s = (x >>= g) s := by
  cases hx : x s with
  | ok a s' => rw [bind_of_ok hx, bind_of_ok hx, h a s' hx]
  | error e s' => rw [bind_of_error hx, bind_of_error hx]

theorem adaptExcept_of_ok {g : ε → ε'} (h : x s = .ok a s') : x.adaptExcept g s = .ok a s' := by
  simp [EStateM.adaptExcept, h]

theorem adaptExcept_of_error {g : ε → ε'} (h : x s = .error e s') :
    x.adaptExcept g s = .error (g e) s' := by
  simp [EStateM.adaptExcept, h]

/-- A computation that reads the state first runs on what it reads. -/
theorem bind_get {g : σ → EStateM ε σ β} : (get >>= g) s = g s s := rfl

theorem pure_apply : (pure a : EStateM ε σ α) s = .ok a s := rfl

theorem set_apply : (set s' : EStateM ε σ PUnit) s = .ok ⟨⟩ s' := rfl

theorem throw_apply : (throw e : EStateM ε σ α) s = .error e s := rfl

/-- The state a run ends in, whatever its outcome. -/
def Result.state : Result ε σ α → σ
  | .ok _ s => s
  | .error _ s => s

@[simp] theorem Result.state_ok : (Result.ok a s : Result ε σ α).state = s := rfl

@[simp] theorem Result.state_error : (Result.error e s : Result ε σ α).state = s := rfl

/-! ## What a program keeps

A frame rule for programs that may fail: `Keeps f x` says that `x` never changes the part `f` of the
state, neither when it returns nor when it throws. The rules follow the structure of a program. -/

section Keeps

variable {γ : Type} {f : σ → γ}

/-- The program leaves the part `f` of the state as it was, whatever its outcome. -/
def Keeps (f : σ → γ) (x : EStateM ε σ α) : Prop := ∀ s, f (x s).state = f s

theorem Keeps.of_ok (hx : Keeps f x) (h : x s = .ok a s') : f s' = f s := by
  simpa [h] using hx s

theorem Keeps.of_error (hx : Keeps f x) (h : x s = .error e s') : f s' = f s := by
  simpa [h] using hx s

theorem keeps_pure : Keeps f (pure a : EStateM ε σ α) := fun _ => rfl

theorem keeps_throw : Keeps f (throw e : EStateM ε σ α) := fun _ => rfl

theorem keeps_get : Keeps f (get : EStateM ε σ σ) := fun _ => rfl

theorem keeps_modify {g : σ → σ} (h : ∀ s, f (g s) = f s) :
    Keeps f (modify g : EStateM ε σ PUnit) := fun s => h s

/-- One computation after another keeps what both keep. -/
theorem Keeps.bind {k : α → EStateM ε σ β} (hx : Keeps f x) (hk : ∀ a, Keeps f (k a)) :
    Keeps f (x >>= k) := by
  intro s
  cases hrun : x s with
  | ok a s₁ =>
    rw [bind_of_ok hrun, hk a s₁]
    exact hx.of_ok hrun
  | error e s₁ =>
    rw [bind_of_error hrun]
    exact hx.of_error hrun

/-- Behind another program, a program that keeps the part `f` leaves it as the first has left it. -/
theorem Keeps.state_bind {k : α → EStateM ε σ β} (hk : ∀ a, Keeps f (k a)) :
    f ((x >>= k) s).state = f (x s).state := by
  cases hrun : x s with
  | ok a s₁ =>
    rw [bind_of_ok hrun]
    exact hk a s₁
  | error e s₁ => rw [bind_of_error hrun]; rfl

theorem Keeps.ite {p : Prop} [Decidable p] {y : EStateM ε σ α} (hx : Keeps f x) (hy : Keeps f y) :
    Keeps f (if p then x else y) := by
  split
  · exact hx
  · exact hy

end Keeps

/-! ## Which errors a program throws -/

section Throws

variable {p : ε → Prop}

/-- Every error that the program throws has the property `p`. -/
def OnlyThrows (p : ε → Prop) (x : EStateM ε σ α) : Prop := ∀ s e s', x s = .error e s' → p e

theorem onlyThrows_pure : OnlyThrows p (pure a : EStateM ε σ α) := fun _ _ _ h => nomatch h

theorem onlyThrows_throw (h : p e) : OnlyThrows p (throw e : EStateM ε σ α) :=
  fun _ _ _ hthrow => (EStateM.Result.error.inj hthrow).1 ▸ h

theorem onlyThrows_get : OnlyThrows p (get : EStateM ε σ σ) := fun _ _ _ h => nomatch h

theorem onlyThrows_modify {g : σ → σ} : OnlyThrows p (modify g : EStateM ε σ PUnit) :=
  fun _ _ _ h => nomatch h

/-- One computation after another fails as one of them fails. -/
theorem OnlyThrows.bind {k : α → EStateM ε σ β} (hx : OnlyThrows p x)
    (hk : ∀ a, OnlyThrows p (k a)) : OnlyThrows p (x >>= k) := by
  intro s e s' h
  cases hrun : x s with
  | ok a s₁ => exact hk a s₁ e s' ((bind_of_ok hrun).symm.trans h)
  | error e₁ s₁ =>
    rw [bind_of_error hrun] at h
    exact (EStateM.Result.error.inj h).1 ▸ hx _ _ _ hrun

theorem OnlyThrows.ite {q : Prop} [Decidable q] {y : EStateM ε σ α} (hx : OnlyThrows p x)
    (hy : OnlyThrows p y) : OnlyThrows p (if q then x else y) := by
  split
  · exact hx
  · exact hy

end Throws

/-! ## Two programs side by side

`RunsAlike R x y` is a simulation: from states that are related by `R` the two programs return the
same or throw the same, and leave related states. -/

section Alike

variable {R : σ → σ → Prop} {y : EStateM ε σ α} {g : α → EStateM ε σ β} {t : σ}

/-- The same outcome, in related states. -/
def Result.Related (R : σ → σ → Prop) : Result ε σ α → Result ε σ α → Prop
  | .ok a s, .ok b t => a = b ∧ R s t
  | .error e s, .error e' t => e = e' ∧ R s t
  | _, _ => False

/-- From related states the programs have the same outcome. -/
def RunsAlike (R : σ → σ → Prop) (x y : EStateM ε σ α) : Prop :=
  ∀ s t, R s t → (x s).Related R (y t)

theorem runsAlike_pure : RunsAlike R (pure a : EStateM ε σ α) (pure a) :=
  fun _ _ h => ⟨rfl, h⟩

/-- What runs alike runs alike in front of computations that run alike. -/
theorem RunsAlike.bind (hx : RunsAlike R x y) (hf : ∀ a, RunsAlike R (f a) (g a)) :
    RunsAlike R (x >>= f) (y >>= g) := by
  intro s t h
  -- the two runs end alike, so in two of the four cases there is nothing to show
  have hrun := hx s t h
  cases hxs : x s with
  | ok a s₁ =>
    cases hyt : y t with
    | ok b t₁ =>
      rw [hxs, hyt] at hrun
      obtain ⟨rfl, hrel⟩ := hrun
      rw [bind_of_ok hxs, bind_of_ok hyt]
      exact hf a s₁ t₁ hrel
    | error e t₁ =>
      rw [hxs, hyt] at hrun
      exact hrun.elim
  | error e s₁ =>
    cases hyt : y t with
    | ok b t₁ =>
      rw [hxs, hyt] at hrun
      exact hrun.elim
    | error e' t₁ =>
      rw [hxs, hyt] at hrun
      rw [bind_of_error hxs, bind_of_error hyt]
      exact hrun

/-- Programs that begin with a look at the state run alike if their rests do, on what they see. -/
theorem RunsAlike.get_bind {f g : σ → EStateM ε σ β}
    (h : ∀ s t, R s t → (f s s).Related R (g t t)) : RunsAlike R (get >>= f) (get >>= g) :=
  h

end Alike

end EStateM

/-- A list is related to another one exactly if each of its elements is related to something. -/
theorem List.exists_forall₂_iff {α β : Type} {R : α → β → Prop} {xs : List α} :
    (∃ ys, List.Forall₂ R xs ys) ↔ ∀ x ∈ xs, ∃ y, R x y := by
  induction xs with
  | nil => exact iff_of_true ⟨[], .nil⟩ fun x hx => absurd hx List.not_mem_nil
  | cons x xs ih =>
    rw [List.forall_mem_cons, ← ih]
    constructor
    · rintro ⟨_, hys⟩
      obtain ⟨y, ys, hy, hys, -⟩ := List.forall₂_cons_left_iff.mp hys
      exact ⟨⟨y, hy⟩, ys, hys⟩
    · rintro ⟨⟨y, hy⟩, ys, hys⟩
      exact ⟨y :: ys, .cons hy hys⟩

/-- The counterpart of `List.forall₂_and_left` for the second list. -/
theorem List.forall₂_and_right {α β : Type} {R : α → β → Prop} {p : β → Prop} {xs : List α}
    {ys : List β} :
    List.Forall₂ (fun x y => R x y ∧ p y) xs ys ↔ List.Forall₂ R xs ys ∧ ∀ y ∈ ys, p y := by
  constructor
  · intro h
    have hflip : List.Forall₂ (fun y x => p y ∧ R x y) ys xs := (h.imp fun _ _ h => h.symm).flip
    obtain ⟨hp, hR⟩ := (List.forall₂_and_left ys xs).mp hflip
    exact ⟨hR.flip, hp⟩
  · rintro ⟨hR, hp⟩
    have hflip := (List.forall₂_and_left ys xs).mpr ⟨hp, List.Forall₂.flip hR⟩
    exact hflip.flip.imp fun _ _ h => h.symm

namespace Except

variable {ε ε' α β : Type}

/-- A sequence of two checks succeeds exactly if both do. -/
theorem bind_eq_ok_iff {x : Except ε α} {f : α → Except ε β} {b : β} :
    (x >>= f) = .ok b ↔ ∃ a, x = .ok a ∧ f a = .ok b := by
  cases x with
  | error e => exact iff_of_false (fun h => nomatch h) fun ⟨_, h, _⟩ => nomatch h
  | ok a => exact ⟨fun h => ⟨a, rfl, h⟩, fun ⟨_, h, h'⟩ => Except.ok.inj h ▸ h'⟩

/-- It fails exactly if one of the two does, the first one first. -/
theorem bind_eq_error_iff {x : Except ε α} {f : α → Except ε β} {e : ε} :
    (x >>= f) = .error e ↔ x = .error e ∨ ∃ a, x = .ok a ∧ f a = .error e := by
  cases x with
  | error e' => exact ⟨fun h => .inl (congrArg Except.error (Except.error.inj h)),
      fun h => h.elim (fun h => congrArg Except.error (Except.error.inj h))
        fun ⟨_, h, _⟩ => nomatch h⟩
  | ok a => exact ⟨fun h => .inr ⟨a, rfl, h⟩,
      fun h => h.elim (fun h => nomatch h) fun ⟨_, h, h'⟩ => Except.ok.inj h ▸ h'⟩

/-- A check before another program. -/
theorem check_eq_ok_iff {x : Except ε Unit} {y : Unit → Except ε β} {b : β} :
    (x >>= y) = .ok b ↔ x = .ok () ∧ y () = .ok b :=
  bind_eq_ok_iff.trans ⟨fun ⟨_, h, h'⟩ => ⟨h, h'⟩, fun ⟨h, h'⟩ => ⟨(), h, h'⟩⟩

/-- A refusal before another program. -/
theorem ite_error_eq_ok_iff {p : Prop} [Decidable p] {e : ε} {x : Except ε α} {a : α} :
    (if p then .error e else x) = .ok a ↔ ¬p ∧ x = .ok a := by
  by_cases hp : p
  · rw [if_pos hp]
    exact iff_of_false (fun h => by cases h) fun h => h.1 hp
  · rw [if_neg hp]
    exact ⟨fun h => ⟨hp, h⟩, fun h => h.2⟩

/-- A mapped result is a success with a mapped value. -/
theorem map_eq_ok_iff {x : Except ε α} {f : α → β} {b : β} :
    x.map f = .ok b ↔ ∃ a, x = .ok a ∧ f a = b := by
  cases x with
  | error e => exact iff_of_false (fun h => nomatch h) fun ⟨_, h, _⟩ => nomatch h
  | ok a =>
    exact ⟨fun h => ⟨a, rfl, Except.ok.inj h⟩,
      fun ⟨_, h, h'⟩ => Except.ok.inj h ▸ congrArg Except.ok h'⟩

/-- To rename errors does not change a success. -/
theorem mapError_eq_ok_iff {x : Except ε α} {f : ε → ε'} {a : α} :
    x.mapError f = .ok a ↔ x = .ok a := by
  cases x with
  | error e => exact iff_of_false (fun h => nomatch h) fun h => nomatch h
  | ok b => exact ⟨fun h => congrArg Except.ok (Except.ok.inj h),
      fun h => congrArg Except.ok (Except.ok.inj h)⟩

/-- A renamed error comes from an error. -/
theorem mapError_eq_error_iff {x : Except ε α} {f : ε → ε'} {e : ε'} :
    x.mapError f = .error e ↔ ∃ e', x = .error e' ∧ e = f e' := by
  cases x with
  | error e' =>
    exact ⟨fun h => ⟨e', rfl, (Except.error.inj h).symm⟩,
      fun ⟨_, h, h'⟩ => h' ▸ Except.error.inj h ▸ rfl⟩
  | ok b => exact iff_of_false (fun h => nomatch h) fun ⟨_, h, _⟩ => nomatch h

/-- A check of every element succeeds exactly if it does on each, and returns the results in
order. -/
theorem mapM_eq_ok_iff {f : α → Except ε β} {xs : List α} {ys : List β} :
    xs.mapM f = .ok ys ↔ List.Forall₂ (fun x y => f x = .ok y) xs ys := by
  induction xs generalizing ys with
  | nil =>
    rw [List.mapM_nil, List.forall₂_nil_left_iff]
    exact ⟨fun h => (Except.ok.inj h).symm, fun h => congrArg Except.ok h.symm⟩
  | cons x xs ih =>
    rw [List.mapM_cons, bind_eq_ok_iff, List.forall₂_cons_left_iff]
    refine exists_congr fun y => ?_
    rw [bind_eq_ok_iff, ← exists_and_left]
    refine exists_congr fun ys' => and_congr_right fun _ => and_congr ih ?_
    exact ⟨fun h => (Except.ok.inj h).symm, fun h => congrArg Except.ok h.symm⟩

/-- It fails as it does on one of them. -/
theorem mapM_eq_error {f : α → Except ε β} {xs : List α} {e : ε} (h : xs.mapM f = .error e) :
    ∃ x ∈ xs, f x = .error e := by
  induction xs with
  | nil => cases h
  | cons x xs ih =>
    rw [List.mapM_cons, bind_eq_error_iff] at h
    obtain hx | ⟨y, -, hxs⟩ := h
    · exact ⟨x, List.mem_cons_self, hx⟩
    · obtain hxs | ⟨ys, -, hpure⟩ := bind_eq_error_iff.mp hxs
      · obtain ⟨x', hmem, hx'⟩ := ih hxs
        exact ⟨x', List.mem_cons_of_mem x hmem, hx'⟩
      · cases hpure

/-- What is read one by one is read in a list. -/
theorem mapM_map_eq_ok {γ : Type} {f : γ → α} {dec : α → Except ε β} {g : γ → β}
    (h : ∀ x, dec (f x) = .ok (g x)) (xs : List γ) : (xs.map f).mapM dec = .ok (xs.map g) := by
  rw [mapM_eq_ok_iff, List.forall₂_map_left_iff, List.forall₂_map_right_iff, List.forall₂_same]
  exact fun x _ => h x

/-- The check succeeds. -/
def Succeeds (x : Except ε α) : Prop := ∃ a, x = .ok a

theorem succeeds_pure {a : α} : Succeeds (pure a : Except ε α) := ⟨a, rfl⟩

theorem succeeds_of_isSome {x : Except ε α} (h : x.toOption.isSome) : x.Succeeds := by
  cases x with
  | error e => cases h
  | ok a => exact ⟨a, rfl⟩

theorem Succeeds.bind {x : Except ε α} {f : α → Except ε β} (hx : x.Succeeds)
    (hf : ∀ a, (f a).Succeeds) : (x >>= f).Succeeds := by
  obtain ⟨a, rfl⟩ := hx
  exact hf a

theorem Succeeds.mapError {x : Except ε α} (hx : x.Succeeds) (f : ε → ε') :
    (x.mapError f).Succeeds := by
  obtain ⟨a, rfl⟩ := hx
  exact ⟨a, rfl⟩

theorem Succeeds.ite {p : Prop} [Decidable p] {x y : Except ε α} (hx : x.Succeeds)
    (hy : y.Succeeds) : (if p then x else y).Succeeds := by
  split
  · exact hx
  · exact hy

end Except
