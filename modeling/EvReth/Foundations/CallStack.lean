import Mathlib.Logic.Relation

/-!
# Calls that are undone when they fail

Parties call each other with messages. The code of a call works on a common world, calls further,
and returns or fails. A call that fails leaves the world as it has found it, whatever its code and
the calls within it have done. Between two outermost calls the world may change by itself.

`Step` runs such a platform one action at a time, so that what a call does to the others that are
still open is seen in the middle of their code. The rules are:

* `Reaches.worlds`: what holds of the first world, and is kept by every change of a world, holds of
  the present world and of all those that a failure can bring back; where some changes do not keep
  it, there was one of them before (`Reaches.worlds_or`);
* `Sound.safe_of_reaches`: if each call keeps to its own invariant and makes only calls that it may
  make, then each open call is the last of a chain of such calls (`Traced`).
-/

namespace CallStack

/-- What the code of a call does next. -/
inductive Act (σ Msg Ans κ : Type) where
  /-- It works on the world and goes on. -/
  | work (w : σ) (code : κ)
  /-- It calls, and goes on with the outcome. -/
  | call (m : Msg) (resume : Except Ans Ans → κ)
  | ret (a : Ans)
  | fail (a : Ans)

/-- What can happen: the changes of the world between calls, the messages from outside, what a call
begins with, and what its code does. -/
structure Platform (σ Msg Ans κ : Type) where
  idle : σ → σ → Prop
  sends : Msg → Prop
  enter : σ → Msg → σ → κ → Prop
  act : Msg → κ → σ → Act σ Msg Ans κ → Prop

/-- The running call, with the world that it has found. -/
structure Frame (σ Msg κ : Type) where
  msg : Msg
  saved : σ
  code : κ

/-- A call that waits for one that it has made. -/
structure Caller (σ Msg Ans κ : Type) where
  msg : Msg
  saved : σ
  resume : Except Ans Ans → κ

/-- The world and the open calls, innermost first. -/
structure Config (σ Msg Ans κ : Type) where
  world : σ
  running : Option (Frame σ Msg κ × List (Caller σ Msg Ans κ))

variable {σ Msg Ans κ : Type}

/-- A call has ended with an outcome: the one that waits for it goes on. -/
def resume (w : σ) (r : Except Ans Ans) : List (Caller σ Msg Ans κ) → Config σ Msg Ans κ
  | [] => ⟨w, none⟩
  | c :: cs => ⟨w, some (⟨c.msg, c.saved, c.resume r⟩, cs)⟩

/-- The world that the outermost call has found. -/
def outermost (s : σ) : List (Caller σ Msg Ans κ) → σ
  | [] => s
  | c :: cs => outermost c.saved cs

variable (P : Platform σ Msg Ans κ)

/-- One action. A call may be refused before its code runs, and everything may be given up. -/
inductive Step : Config σ Msg Ans κ → Config σ Msg Ans κ → Prop
  | idle {w w'} (h : P.idle w w') : Step ⟨w, none⟩ ⟨w', none⟩
  | start {w m w' code} (hsends : P.sends m) (h : P.enter w m w' code) :
      Step ⟨w, none⟩ ⟨w', some (⟨m, w, code⟩, [])⟩
  | work {m s code w cs w' code'} (h : P.act m code w (.work w' code')) :
      Step ⟨w, some (⟨m, s, code⟩, cs)⟩ ⟨w', some (⟨m, s, code'⟩, cs)⟩
  | call {m s code w cs m' k w' code'} (h : P.act m code w (.call m' k))
      (henter : P.enter w m' w' code') :
      Step ⟨w, some (⟨m, s, code⟩, cs)⟩ ⟨w', some (⟨m', w, code'⟩, ⟨m, s, k⟩ :: cs)⟩
  | refused {m s code w cs m' k} (h : P.act m code w (.call m' k)) (a : Ans) :
      Step ⟨w, some (⟨m, s, code⟩, cs)⟩ ⟨w, some (⟨m, s, k (.error a)⟩, cs)⟩
  | ret {m s code w cs a} (h : P.act m code w (.ret a)) :
      Step ⟨w, some (⟨m, s, code⟩, cs)⟩ (resume w (.ok a) cs)
  | fail {m s code w cs a} (h : P.act m code w (.fail a)) :
      Step ⟨w, some (⟨m, s, code⟩, cs)⟩ (resume s (.error a) cs)
  | abort {m s code w cs} : Step ⟨w, some (⟨m, s, code⟩, cs)⟩ ⟨outermost s cs, none⟩

/-- Any number of actions. -/
abbrev Reaches : Config σ Msg Ans κ → Config σ Msg Ans κ → Prop := Relation.ReflTransGen (Step P)

/-! ## Worlds -/

/-- A property of the present world and of all those that a failure can bring back. -/
structure Config.Worlds (c : Config σ Msg Ans κ) (Q : σ → Prop) : Prop where
  world : Q c.world
  saved : ∀ f cs, c.running = some (f, cs) → Q f.saved ∧ ∀ caller ∈ cs, Q caller.saved

variable {P} {Q : σ → Prop} {c c' : Config σ Msg Ans κ} {f : Frame σ Msg κ}
  {cs : List (Caller σ Msg Ans κ)}

theorem Config.Worlds.mono {Q' : σ → Prop} (h : c.Worlds Q) (hmono : ∀ w, Q w → Q' w) :
    c.Worlds Q' where
  world := hmono _ h.world
  saved f cs hrunning := by
    obtain ⟨hf, hcs⟩ := h.saved f cs hrunning
    exact ⟨hmono _ hf, fun caller hmem => hmono _ (hcs caller hmem)⟩

theorem Config.worlds_idle {w : σ} (h : Q w) :
    Config.Worlds (⟨w, none⟩ : Config σ Msg Ans κ) Q where
  world := h
  saved f cs hrunning := by cases hrunning

theorem Config.worlds_running {w : σ} (h : Q w) (hf : Q f.saved)
    (hcs : ∀ caller ∈ cs, Q caller.saved) : Config.Worlds ⟨w, some (f, cs)⟩ Q where
  world := h
  saved f' cs' hrunning := by
    obtain ⟨rfl, rfl⟩ := Prod.mk.inj (Option.some.inj hrunning)
    exact ⟨hf, hcs⟩

/-- When a call has ended, the others have found what they have found. -/
theorem worlds_resume {w : σ} {r : Except Ans Ans} (h : Q w) (hcs : ∀ caller ∈ cs, Q caller.saved) :
    (resume w r cs).Worlds Q := by
  cases cs with
  | nil => exact Config.worlds_idle h
  | cons c cs =>
    obtain ⟨hc, hcs⟩ := List.forall_mem_cons.mp hcs
    exact Config.worlds_running h hc hcs

theorem outermost_of_forall {s : σ} (h : Q s) (hcs : ∀ caller ∈ cs, Q caller.saved) :
    Q (outermost s cs) := by
  induction cs generalizing s with
  | nil => exact h
  | cons c cs ih =>
    obtain ⟨hc, hcs⟩ := List.forall_mem_cons.mp hcs
    exact ih hc hcs

/-- A step keeps a property of worlds if every change of the present world keeps it. -/
theorem Config.Worlds.step (h : c.Worlds Q) (hstep : Step P c c')
    (hidle : ∀ w', Q c.world → P.idle c.world w' → Q w')
    (henter : ∀ m w' code, Q c.world → P.enter c.world m w' code → Q w')
    (hwork : ∀ f cs w' code', c.running = some (f, cs) →
      c' = ⟨w', some (⟨f.msg, f.saved, code'⟩, cs)⟩ → Q c.world →
      P.act f.msg f.code c.world (.work w' code') → Q w') : c'.Worlds Q := by
  obtain ⟨hworld, hsaved⟩ := h
  cases hstep with
  | idle h => exact worlds_idle (hidle _ hworld h)
  | start _ h => exact worlds_running (henter _ _ _ hworld h) hworld (List.forall_mem_nil _)
  | work h =>
    obtain ⟨hf, hcs⟩ := hsaved _ _ rfl
    exact worlds_running (hwork _ _ _ _ rfl rfl hworld h) hf hcs
  | call _ h =>
    -- the callee finds the present world, which a failure of its will bring back
    obtain ⟨hf, hcs⟩ := hsaved _ _ rfl
    exact worlds_running (henter _ _ _ hworld h) hworld (List.forall_mem_cons.mpr ⟨hf, hcs⟩)
  | refused _ a =>
    obtain ⟨hf, hcs⟩ := hsaved _ _ rfl
    exact worlds_running hworld hf hcs
  | ret _ => exact worlds_resume hworld (hsaved _ _ rfl).2
  | fail _ =>
    obtain ⟨hf, hcs⟩ := hsaved _ _ rfl
    exact worlds_resume hf hcs
  | abort =>
    obtain ⟨hf, hcs⟩ := hsaved _ _ rfl
    exact worlds_idle (outermost_of_forall hf hcs)

/-- What every change of a world keeps, but for the steps that are a cause, holds of all worlds of a
run, or one of its steps was a cause. -/
theorem Reaches.worlds_or {w₀ : σ} (Cause : Config σ Msg Ans κ → Config σ Msg Ans κ → Prop)
    (h : Reaches P ⟨w₀, none⟩ c) (hinit : Q w₀) (hidle : ∀ w w', Q w → P.idle w w' → Q w')
    (henter : ∀ w m w' code, Q w → P.enter w m w' code → Q w')
    (hwork : ∀ f cs w w' code', Reaches P ⟨w₀, none⟩ ⟨w, some (f, cs)⟩ → Q w →
      P.act f.msg f.code w (.work w' code') →
      Q w' ∨ Cause ⟨w, some (f, cs)⟩ ⟨w', some (⟨f.msg, f.saved, code'⟩, cs)⟩) :
    c.Worlds Q ∨ ∃ x x', Reaches P ⟨w₀, none⟩ x ∧ Step P x x' ∧ Cause x x' ∧ Reaches P x' c := by
  induction h with
  | refl => exact .inl (Config.worlds_idle hinit)
  | @tail c c' hreaches hstep ih =>
    rcases ih.symm with ⟨x, x', hx, hxx', hcause, hx'⟩ | hworlds
    · exact .inr ⟨x, x', hx, hxx', hcause, hx'.tail hstep⟩
    by_cases hcause : Cause c c'
    · exact .inr ⟨c, c', hreaches, hstep, hcause, .refl⟩
    refine .inl (hworlds.step hstep (hidle _) (henter _) ?_)
    rintro f cs w' code' hrunning rfl hworld hact
    obtain ⟨w, running⟩ := c
    obtain rfl : running = some (f, cs) := hrunning
    exact (hwork f cs w w' code' hreaches hworld hact).resolve_right hcause

/-- What every change of a world keeps holds of all worlds of a run. -/
theorem Reaches.worlds {w₀ : σ} (h : Reaches P ⟨w₀, none⟩ c) (hinit : Q w₀)
    (hidle : ∀ w w', Q w → P.idle w w' → Q w')
    (henter : ∀ w m w' code, Q w → P.enter w m w' code → Q w')
    (hwork : ∀ f cs w w' code', Reaches P ⟨w₀, none⟩ ⟨w, some (f, cs)⟩ → Q w →
      P.act f.msg f.code w (.work w' code') → Q w') : c.Worlds Q := by
  rcases h.worlds_or (fun _ _ => False) hinit hidle henter
    (fun f cs w w' code' hreaches hw hact => .inl (hwork f cs w w' code' hreaches hw hact))
    with hworlds | ⟨x, x', -, -, hfalse, -⟩
  · exact hworlds
  · exact hfalse.elim

/-! ## Open calls -/

variable (P) in
/-- The calls that have led to a call: each was made by the one before it, the first from
outside. -/
def Traced (Asks : Msg → σ → Msg → Prop) : Msg → List (Caller σ Msg Ans κ) → Prop
  | m, [] => P.sends m
  | m, c :: cs => Asks c.msg c.saved m ∧ Traced Asks c.msg cs

variable (P) in
/-- What is to be proved of the code: it keeps the invariant of the worlds, it goes on as `Holds`
says, and it makes only calls that `Asks` allows, with messages that are `Good`. -/
structure Sound (Inv : σ → Prop) (Good : Msg → Prop) (Asks : Msg → σ → Msg → Prop)
    (Holds : Msg → σ → κ → σ → Prop) : Prop where
  idle : ∀ w w', Inv w → P.idle w w' → Inv w'
  sends : ∀ m, P.sends m → Good m
  enter : ∀ w m w' code, Inv w → Good m → P.enter w m w' code → Inv w' ∧ Holds m w code w'
  work : ∀ m s code w w' code', Inv s → Inv w → Good m → Holds m s code w →
    P.act m code w (.work w' code') → Inv w' ∧ Holds m s code' w'
  call : ∀ m s code w m' k, Inv s → Inv w → Good m → Holds m s code w →
    P.act m code w (.call m' k) → Good m' ∧ Asks m s m' ∧ ∀ r w', Inv w' → Holds m s (k r) w'

/-- A call that waits goes on well with every outcome, in every world. -/
structure Waits (Inv : σ → Prop) (Good : Msg → Prop) (Holds : Msg → σ → κ → σ → Prop)
    (caller : Caller σ Msg Ans κ) : Prop where
  saved : Inv caller.saved
  good : Good caller.msg
  holds : ∀ r w, Inv w → Holds caller.msg caller.saved (caller.resume r) w

/-- The running call is in order, and so are those that wait. -/
structure Running (Inv : σ → Prop) (Good : Msg → Prop) (Holds : Msg → σ → κ → σ → Prop)
    (w : σ) (f : Frame σ Msg κ) (cs : List (Caller σ Msg Ans κ)) : Prop where
  saved : Inv f.saved
  good : Good f.msg
  holds : Holds f.msg f.saved f.code w
  waits : ∀ caller ∈ cs, Waits Inv Good Holds caller

variable (P) in
/-- The invariant holds, and the open calls are in order. -/
structure Safe (Inv : σ → Prop) (Good : Msg → Prop) (Asks : Msg → σ → Msg → Prop)
    (Holds : Msg → σ → κ → σ → Prop) (c : Config σ Msg Ans κ) : Prop where
  world : Inv c.world
  running : ∀ f cs, c.running = some (f, cs) →
    Running Inv Good Holds c.world f cs ∧ Traced P Asks f.msg cs

variable {Inv : σ → Prop} {Good : Msg → Prop} {Asks : Msg → σ → Msg → Prop}
  {Holds : Msg → σ → κ → σ → Prop}

theorem Safe.worlds (h : Safe P Inv Good Asks Holds c) : c.Worlds Inv where
  world := h.world
  saved f cs hrunning := by
    obtain ⟨hrunning, -⟩ := h.running f cs hrunning
    exact ⟨hrunning.saved, fun caller hmem => (hrunning.waits caller hmem).saved⟩

theorem safe_idle {w : σ} (h : Inv w) : Safe P Inv Good Asks Holds ⟨w, none⟩ where
  world := h
  running f cs hrunning := by cases hrunning

theorem safe_of_running {w : σ} (hworld : Inv w) (h : Running Inv Good Holds w f cs)
    (htraced : Traced P Asks f.msg cs) : Safe P Inv Good Asks Holds ⟨w, some (f, cs)⟩ where
  world := hworld
  running f' cs' hrunning := by
    obtain ⟨rfl, rfl⟩ := Prod.mk.inj (Option.some.inj hrunning)
    exact ⟨h, htraced⟩

/-- When a call has ended, the one that waits for it is in order. -/
theorem safe_resume {w : σ} {m : Msg} {r : Except Ans Ans} (hworld : Inv w)
    (hcs : ∀ caller ∈ cs, Waits Inv Good Holds caller) (htraced : Traced P Asks m cs) :
    Safe P Inv Good Asks Holds (resume w r cs) := by
  cases cs with
  | nil => exact safe_idle hworld
  | cons c cs =>
    obtain ⟨hc, hcs⟩ := List.forall_mem_cons.mp hcs
    exact safe_of_running hworld ⟨hc.saved, hc.good, hc.holds r w hworld, hcs⟩ htraced.2

/-- One action keeps safety. -/
theorem Sound.step (hsound : Sound P Inv Good Asks Holds) (hc : Safe P Inv Good Asks Holds c)
    (h : Step P c c') : Safe P Inv Good Asks Holds c' := by
  obtain ⟨hworld, hrunning⟩ := hc
  cases h with
  | idle h => exact safe_idle (hsound.idle _ _ hworld h)
  | start hsends h =>
    have hgood := hsound.sends _ hsends
    obtain ⟨hworld', hholds⟩ := hsound.enter _ _ _ _ hworld hgood h
    exact safe_of_running hworld' ⟨hworld, hgood, hholds, List.forall_mem_nil _⟩ hsends
  | work h =>
    obtain ⟨⟨hsaved, hgood, hholds, hwaits⟩, htraced⟩ := hrunning _ _ rfl
    obtain ⟨hworld', hholds'⟩ := hsound.work _ _ _ _ _ _ hsaved hworld hgood hholds h
    exact safe_of_running hworld' ⟨hsaved, hgood, hholds', hwaits⟩ htraced
  | call h henter =>
    obtain ⟨⟨hsaved, hgood, hholds, hwaits⟩, htraced⟩ := hrunning _ _ rfl
    obtain ⟨hgood', hasks, hresume⟩ := hsound.call _ _ _ _ _ _ hsaved hworld hgood hholds h
    obtain ⟨hworld', hholds'⟩ := hsound.enter _ _ _ _ hworld hgood' henter
    refine safe_of_running hworld' ⟨hworld, hgood', hholds', ?_⟩ ⟨hasks, htraced⟩
    exact List.forall_mem_cons.mpr ⟨⟨hsaved, hgood, hresume⟩, hwaits⟩
  | refused h a =>
    obtain ⟨⟨hsaved, hgood, hholds, hwaits⟩, htraced⟩ := hrunning _ _ rfl
    obtain ⟨-, -, hresume⟩ := hsound.call _ _ _ _ _ _ hsaved hworld hgood hholds h
    exact safe_of_running hworld ⟨hsaved, hgood, hresume _ _ hworld, hwaits⟩ htraced
  | ret h =>
    obtain ⟨⟨-, -, -, hwaits⟩, htraced⟩ := hrunning _ _ rfl
    exact safe_resume hworld hwaits htraced
  | fail h =>
    -- the world is again the one that the call has found
    obtain ⟨⟨hsaved, -, -, hwaits⟩, htraced⟩ := hrunning _ _ rfl
    exact safe_resume hsaved hwaits htraced
  | abort =>
    obtain ⟨⟨hsaved, -, -, hwaits⟩, -⟩ := hrunning _ _ rfl
    exact safe_idle (outermost_of_forall hsaved fun caller hmem => (hwaits caller hmem).saved)

/-- All runs are safe. -/
theorem Sound.safe_of_reaches (hsound : Sound P Inv Good Asks Holds)
    (hc : Safe P Inv Good Asks Holds c) (h : Reaches P c c') :
    Safe P Inv Good Asks Holds c' := by
  induction h with
  | refl => exact hc
  | tail _ hstep ih => exact hsound.step ih hstep

end CallStack
