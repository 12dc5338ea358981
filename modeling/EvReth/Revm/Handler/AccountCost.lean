import EvReth.Foundations.Graded
import EvReth.Revm.Handler.Accounting
import EvReth.Revm.WorldState

/-!
# What a transaction costs an account

A transaction takes a nonce or funds from an account at few places: the deduction takes the fees
from the payer, and frames take value from the one who calls. What it costs any one account is
graded here, once for its nonce and once for its funds, and followed through all phases of a
transaction.
-/

namespace EvReth

open EStateM

/-! ## Costs for an account -/

/-- What becomes of an account, graded by its cost. It costs nothing to keep the code and not to
lower the nonce, and to take `n` from the funds costs `charge n`. -/
structure AccountCost extends Graded ℕ AccountInfo where
  charge : ℕ →+ ℕ
  paid : ∀ {n : ℕ} {i i' : AccountInfo}, i'.code = i.code → i.nonce.toNat ≤ i'.nonce.toNat →
    i.balance.toNat ≤ i'.balance.toNat + n → rel (charge n) i i'

namespace AccountCost

/-- The nonces that an account has lost. -/
def lostNonces : AccountCost where
  rel k i i' := i.nonce.toNat ≤ i'.nonce.toNat + k
  refl _ := le_rfl
  trans h h' := by omega
  charge := 0
  paid _ hnonce _ := hnonce

/-- The funds that an account has lost. -/
def lostFunds : AccountCost where
  rel k i i' := i.balance.toNat ≤ i'.balance.toNat + k
  refl _ := le_rfl
  trans h h' := by omega
  charge := AddMonoidHom.id ℕ
  paid _ _ hbalance := hbalance

/-- Nothing is counted. In a journal, what has changed is touched all the same. -/
def nothing : AccountCost where
  rel _ _ _ := True
  refl _ := trivial
  trans _ _ := trivial
  charge := 0
  paid _ _ _ := trivial

variable (self : AccountCost) (addr : Address)

/-- The cost for an account of the journal. The account is touched if it has changed. -/
def journal : Graded ℕ Journal where
  rel k j j' := self.rel k (j.accounts addr).info (j'.accounts addr).info ∧
    (j'.isTouched addr = false → j.isTouched addr = false ∧
      (j'.accounts addr).info = (j.accounts addr).info)
  refl _ := ⟨self.refl _, fun h => ⟨h, rfl⟩⟩
  trans h h' := by
    refine ⟨self.trans h.1 h'.1, fun huntouched => ?_⟩
    obtain ⟨huntouched, hinfo'⟩ := h'.2 huntouched
    obtain ⟨huntouched, hinfo⟩ := h.2 huntouched
    exact ⟨huntouched, hinfo'.trans hinfo⟩

/-- The cost for an account of the journal in a context. -/
def ctx : Graded ℕ Ctx := (self.journal addr).comap Ctx.journal

/-- The cost for an account of the database. -/
def world : Graded ℕ WorldState :=
  self.toGraded.comap fun db => (db.load.accounts addr).info

variable {self addr} {j j' : Journal}

/-- From one journal to another the account loses what its balance falls by, if it is touched when
it changes. -/
theorem rel_lostFunds (h : (nothing.journal addr).rel 0 j j') :
    (lostFunds.journal addr).rel ((j.balance addr).toNat - (j'.balance addr).toNat) j j' := by
  -- only the touch is taken over; the loss is the difference itself
  refine ⟨?_, h.2⟩
  show (j.balance addr).toNat ≤
    (j'.balance addr).toNat + ((j.balance addr).toNat - (j'.balance addr).toNat)
  omega

/-- What the operations of the handler cost: the account keeps its code and its nonce is not
lowered. -/
theorem journal_paid {n : ℕ} (hcode : j'.code addr = j.code addr)
    (hnonce : (j.nonce addr).toNat ≤ (j'.nonce addr).toNat)
    (hbalance : (j.balance addr).toNat ≤ (j'.balance addr).toNat + n)
    (htouched : j'.isTouched addr = true ∨ j'.accounts addr = j.accounts addr) :
    (self.journal addr).rel (self.charge n) j j' := by
  refine ⟨self.paid hcode hnonce hbalance, fun huntouched => ?_⟩
  -- an account that is not touched must be the one that was loaded
  rcases htouched with htouched | hsame
  · rw [htouched] at huntouched
    cases huntouched
  · rw [Journal.isTouched, hsame] at huntouched
    exact ⟨huntouched, congrArg Account.info hsame⟩

/-- An account that keeps its code, does not lose nonce or balance, and is written back if it
changes, is charged nothing. -/
theorem journal_free (hcode : j'.code addr = j.code addr)
    (hnonce : (j.nonce addr).toNat ≤ (j'.nonce addr).toNat)
    (hbalance : (j.balance addr).toNat ≤ (j'.balance addr).toNat)
    (htouched : j'.isTouched addr = true ∨ j'.accounts addr = j.accounts addr) :
    (self.journal addr).rel 0 j j' := by
  rw [← map_zero self.charge]
  exact journal_paid hcode hnonce hbalance htouched

/-- Nothing needs to be paid. -/
theorem rel_paid_nothing {n : ℕ} (j : Journal) : (self.journal addr).rel (self.charge n) j j :=
  journal_paid rfl le_rfl (Nat.le_add_right _ _) (.inr rfl)

/-- An update touches the account or leaves it alone. -/
theorem isTouched_or_eq_modify {a : Address} {f : Account → Account}
    (htouch : ∀ acc, (f acc).touched = true) :
    (j.modify a f).isTouched addr = true ∨ (j.modify a f).accounts addr = j.accounts addr := by
  rcases eq_or_ne addr a with rfl | hne
  · refine .inl ?_
    rw [j.isTouched_modify addr addr htouch, decide_eq_true rfl, Bool.true_or]
  · exact .inr (Function.update_of_ne hne _ _)

/-- A smaller balance is charged for. -/
theorem rel_setBalance {a : Address} {v : U256} {n : ℕ}
    (h : addr = a → (j.balance a).toNat ≤ v.toNat + n) :
    (self.journal addr).rel (self.charge n) j (j.setBalance a v) := by
  refine journal_paid (j.code_setBalance a addr v) ?_ ?_ (isTouched_or_eq_modify fun _ => rfl)
  · rw [Journal.nonce_setBalance]
  · rw [Journal.balance_setBalance]
    split_ifs with heq
    · rw [heq]
      exact h heq
    · exact Nat.le_add_right _ _

/-- A balance that does not shrink costs nothing. -/
theorem free_setBalance {a : Address} {v : U256} (h : (j.balance a).toNat ≤ v.toNat) :
    (self.journal addr).rel 0 j (j.setBalance a v) := by
  rw [← map_zero self.charge]
  exact rel_setBalance fun _ => h

/-- A nonce that does not shrink costs nothing. -/
theorem free_setNonce {a : Address} {n : U64} (h : (j.nonce a).toNat ≤ n.toNat) :
    (self.journal addr).rel 0 j (j.setNonce a n) := by
  refine journal_free (j.code_setNonce a addr n) ?_ ?_ (isTouched_or_eq_modify fun _ => rfl)
  · rw [Journal.nonce_setNonce]
    split_ifs with heq
    · rw [heq]
      exact h
    · exact le_rfl
  · rw [Journal.balance_setNonce]

/-- To count a transaction costs nothing. -/
theorem free_bumpNonce {a : Address} : (self.journal addr).rel 0 j (j.bumpNonce a) := by
  have hone : (1 : U64).toNat = 1 := by decide
  have hlt := (j.nonce a).isLt
  refine free_setNonce ?_
  rw [BitVec.toNat_saturatingAdd, hone]
  omega

theorem free_touch {a : Address} : (self.journal addr).rel 0 j (j.touch a) := by
  refine journal_free (j.code_touch a addr) ?_ ?_ (isTouched_or_eq_modify fun _ => rfl)
  · rw [Journal.nonce_touch]
  · rw [Journal.balance_touch]

/-- A credit costs nothing. -/
theorem free_incrBalance {a : Address} {amount : U256} :
    (self.journal addr).rel 0 j (j.incrBalance a amount).2 := by
  rw [Journal.incrBalance]
  -- a credit that overflows leaves the balance and touches the account
  cases hadd : (j.balance a).checkedAdd amount with
  | none => exact free_touch
  | some v =>
    refine free_setBalance ?_
    rw [BitVec.checkedAdd_eq_some_iff.mp hadd]
    exact Nat.le_add_right _ _

/-- A transfer costs only the one it comes from. -/
theorem rel_transfer {source dest : Address} {value : U256} {n : ℕ}
    (hpaid : addr = source → value.toNat ≤ n) (h : j.transfer source dest value = some j') :
    (self.journal addr).rel (self.charge n) j j' := by
  obtain ⟨-, rfl⟩ | ⟨v, v', hsub, hadd, rfl⟩ := Journal.transfer_cases h
  · exact Graded.rel_free (rel_paid_nothing j) free_touch
  -- the debit is charged for, the credit is free
  · refine Graded.rel_free (rel_setBalance fun heq => ?_) (free_setBalance ?_)
    · have hv := BitVec.checkedSub_eq_some_iff.mp hsub
      have hvalue := hpaid heq
      omega
    · rw [BitVec.checkedAdd_eq_some_iff.mp hadd]
      exact Nat.le_add_right _ _

/-- A revert restores every account of the checkpoint. -/
theorem free_checkpointRevert : (self.journal addr).rel 0 j (j'.checkpointRevert j.checkpoint) :=
  journal_free rfl le_rfl le_rfl (.inr rfl)

/-- What a transaction leaves of an account is written back when it ends. -/
theorem info_commit {db : WorldState} {k : ℕ} (h : (self.journal addr).rel k db.load j) :
    ((db.commit j).load.accounts addr).info = (j.accounts addr).info := by
  show (WorldState.loadedAccount (db.commit j addr)).info = _
  rw [WorldState.commit]
  split_ifs with htouched hempty
  · -- an account that is cleared has had nothing
    obtain ⟨hbalance, hnonce, hcode⟩ := hempty
    show AccountInfo.mk 0 0 [] = ⟨_, _, _⟩
    rw [hbalance, hnonce, hcode]
  · rfl
  · exact (h.2 (Bool.not_eq_true _ ▸ htouched)).2.symm

/-- What a transaction costs in the journal it costs in the database. -/
theorem world_commit {db : WorldState} {k : ℕ} (h : (self.journal addr).rel k db.load j) :
    (self.world addr).rel k db (db.commit j) := by
  show self.rel k (db.load.accounts addr).info ((db.commit j).load.accounts addr).info
  rw [info_commit h]
  exact h.1

end AccountCost

end EvReth
