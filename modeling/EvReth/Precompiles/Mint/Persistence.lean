import EvReth.Precompiles.Mint.DirectCalls
import EvReth.Revm.WorldState

/-!
# Persistence of the allowlist across transactions

A run is a sequence of transactions, each made of precompile calls and value transfers, with EIP-161
state clearing after each. The allowlist lives in the storage of the account `0xF100`, so it
survives as long as that account is never empty when it is cleared. `ensure_account_created` gives
the account a nonce and code for this purpose, but only when the database did not have the account:
an account that was funded before its first use by the precompile stays without.
-/

namespace EvReth

namespace MintPrecompile

open Run

/-! ## Transactions -/

/-- What a transaction does. -/
inductive Action where
  | precompile (c : DirectCall)
  | transfer (source dest : Address) (value : U256)

variable (self : MintPrecompile) (abiDecode : Bytes → Except String INativeTokenCalls)

/-- One action: the precompile operation it carried out, if any, and the journal it leaves. The EVM
moves the call's value first, and undoes both when the call does not succeed. -/
def actionStep (j : Journal) : Action → Option INativeTokenCalls × Journal
  | .precompile c =>
    match j.transfer c.caller mintPrecompileAddr c.value with
    | none => (none, j)
    | some j₁ =>
      let (result, j₂) := self.directStep abiDecode j₁ c
      match executed abiDecode c.data result with
      | some op => (some op, j₂)
      -- the frame of a call that does not succeed is undone, the transfer of its value included
      | none => (none, j₂.checkpointRevert j.checkpoint)
  | .transfer source dest value => (none, (j.transfer source dest value).getD j)

/-- One transaction: the precompile operations it carried out, and the database after it. -/
def transactionStep (w : WorldState) (actions : List Action) :
    List INativeTokenCalls × WorldState :=
  ((transitions (self.actionStep abiDecode) w.load actions).filterMap (·.output),
    w.commit (finalState (self.actionStep abiDecode) w.load actions))

/-- What a query of `account` reports in a new transaction. -/
def reported (w : WorldState) (account : Address) : Bool :=
  match isAllowlisted account w.load with
  | .ok b _ => b
  | .error _ _ => false

/-- What is reported is the entry in the database. -/
theorem reported_eq (w : WorldState) (account : Address) :
    reported w account = allowed w.load account := by
  simp [reported, isAllowlisted_eq]

/-- The account of the precompile has no storage. -/
def Fresh (w : WorldState) : Prop := ∀ k, w.load.storage mintPrecompileAddr k = 0

/-- The account of the precompile carries a nonce or code, so that clearing spares it. -/
def Anchored (j : Journal) : Prop :=
  j.nonce mintPrecompileAddr ≠ 0 ∨ j.code mintPrecompileAddr ≠ []

/-- The account exists in the database, but only with a balance. -/
def Bare (w : WorldState) : Prop :=
  w.load.isLoadedAsNotExisting mintPrecompileAddr = false ∧ ¬ Anchored w.load

/-- An operation that puts an account on the allowlist. -/
def IsAdd : INativeTokenCalls → Prop
  | .addToAllowList _ => True
  | _ => False

/-- A call by the admin whose calldata asks to allowlist an account. -/
def RequestsAdd (i : Action) : Prop :=
  ∃ c account, i = .precompile c ∧ c.caller = self.admin ∧
    abiDecode c.data = .ok (.addToAllowList account)

/-- A transaction in which the admin does not ask to allowlist an account while the precompile's
account is bare. -/
def NoAddToBare (t : Transition WorldState (List Action) (List INativeTokenCalls)) : Prop :=
  Bare t.pre → ∀ i ∈ t.input, ¬ RequestsAdd self abiDecode i

/-- A transaction that allowlists no account while the precompile's account is bare. -/
def AddsAnchored (t : Transition WorldState (List Action) (List INativeTokenCalls)) : Prop :=
  Bare t.pre → ∀ op ∈ t.output, ¬ IsAdd op

/-! ## What one call does to the precompile's account -/

variable {self} {j : Journal} {caller : Address} {op : INativeTokenCalls}

/-- A property of the accounts that the updates of the precompile and of transfers preserve, stores
apart. -/
structure ClosedUnderUpdates (K : Journal → Prop) : Prop where
  ensured : ∀ j addr, K j → K (ensured j addr)
  touch : ∀ j addr, K j → K (j.touch addr)
  setBalance : ∀ j addr v, K j → K (j.setBalance addr v)
  congr : ∀ j j' : Journal, j'.accounts = j.accounts → K j → K j'

/-- A property preserved by writing `value` as the allowlist entry of `account`. -/
def ClosedUnderEdit (K : Journal → Prop) (account : Address) (value : Bool) : Prop :=
  ∀ j, K j → K ((j.sstore mintPrecompileAddr (allowlistKey account) (allowlistValue value)).touch
    mintPrecompileAddr)

variable {K : Journal → Prop}

/-- A closed property holds after `mint` and `burn`. -/
theorem ClosedUnderUpdates.authorized_move (hK : ClosedUnderUpdates K) (h : K j) (addr : Address)
    (balance? : Option U256) (reason : String) :
    K (match authorizeError j self caller with
      | some e => EStateM.Result.error e (authorizeJournal j self caller)
      | none => moveBalance (authorizeJournal j self caller) addr balance? reason).state := by
  -- authorization creates the account of the precompile at most
  have hauthorize : K (authorizeJournal j self caller) := by
    unfold authorizeJournal
    split_ifs
    · exact h
    · exact hK.ensured j _ h
  cases authorizeError j self caller with
  | some e => exact hauthorize
  | none =>
    simp only [moveBalance]
    cases (authorizeJournal j self caller).dbError addr with
    | some e => exact hauthorize
    | none =>
      cases balance? with
      | none => exact hK.touch _ _ (hK.ensured _ _ hauthorize)
      | some v => exact hK.touch _ _ (hK.setBalance _ _ _ (hK.ensured _ _ hauthorize))

/-- A closed property that the edit preserves holds after it. -/
theorem ClosedUnderUpdates.editAllowlist (hK : ClosedUnderUpdates K) (h : K j) {account : Address}
    {value : Bool} (hedit : ClosedUnderEdit K account value) :
    K (editAllowlist j account self caller value).state := by
  unfold MintPrecompile.editAllowlist
  split_ifs
  · rw [setAllowlisted_eq]
    cases j.dbError mintPrecompileAddr with
    | some e => exact h
    | none =>
      cases j.storageError mintPrecompileAddr (allowlistKey account) with
      | some e => exact hK.ensured _ _ h
      | none => exact hedit _ (hK.ensured _ _ h)
  · exact h

/-- A closed property holds after every call of the precompile. -/
theorem ClosedUnderUpdates.dispatch (hK : ClosedUnderUpdates K) (h : K j)
    (hedit : ∀ account value, op = editCall account value → ClosedUnderEdit K account value) :
    K (self.dispatch caller op j).state := by
  -- a move writes one balance, an edit one slot, and a lookup at most marks the account
  cases op with
  | mint dest amount =>
    rw [dispatch_mint_eq]
    exact hK.authorized_move h _ _ _
  | burn source amount =>
    rw [dispatch_burn_eq]
    exact hK.authorized_move h _ _ _
  | addToAllowList account =>
    rw [dispatch_addToAllowList_eq]
    exact hK.editAllowlist h (hedit account true rfl)
  | removeFromAllowList account =>
    rw [dispatch_removeFromAllowList_eq]
    exact hK.editAllowlist h (hedit account false rfl)
  | allowlist account =>
    rw [dispatch_allowlist_eq, isAllowlisted_eq]
    cases j.dbError mintPrecompileAddr with
    | some e => exact h
    | none =>
      cases j.storageError mintPrecompileAddr (allowlistKey account) <;> exact hK.ensured _ _ h

/-- A closed property holds after a transfer. -/
theorem ClosedUnderUpdates.transfer (hK : ClosedUnderUpdates K) (h : K j) {source dest : Address}
    {value : U256} {j' : Journal} (htransfer : j.transfer source dest value = some j') : K j' := by
  obtain ⟨-, rfl⟩ | ⟨v, v', -, -, rfl⟩ := Journal.transfer_cases htransfer
  · exact hK.touch _ _ h
  · exact hK.setBalance _ _ _ (hK.setBalance _ _ _ h)

/-- What an action carried out is what its call decodes to, run after the transfer of its value. -/
theorem actionStep_cases (self : MintPrecompile)
    (abiDecode : Bytes → Except String INativeTokenCalls) (j : Journal) (i : Action) :
    (∃ c j₁ op, i = .precompile c ∧ j.transfer c.caller mintPrecompileAddr c.value = some j₁ ∧
        executed abiDecode c.data (self.directStep abiDecode j₁ c).1 = some op ∧
        self.actionStep abiDecode j i = (some op, (self.directStep abiDecode j₁ c).2)) ∨
      (self.actionStep abiDecode j i).1 = none ∧
        ((self.actionStep abiDecode j i).2.accounts = j.accounts ∨
          ∃ source dest value,
            j.transfer source dest value = some (self.actionStep abiDecode j i).2) := by
  cases i with
  | transfer source dest value =>
    refine .inr ⟨rfl, ?_⟩
    simp only [actionStep]
    cases htransfer : j.transfer source dest value with
    | none => exact .inl rfl
    | some j' => exact .inr ⟨source, dest, value, htransfer⟩
  | precompile c =>
    simp only [actionStep]
    cases htransfer : j.transfer c.caller mintPrecompileAddr c.value with
    | none => exact .inr ⟨rfl, .inl rfl⟩
    | some j₁ =>
      cases hop : executed abiDecode c.data (self.directStep abiDecode j₁ c).1 with
      | none => exact .inr ⟨by simp [hop], .inl (by simp [hop]; rfl)⟩
      | some op => exact .inl ⟨c, j₁, op, rfl, htransfer, hop, by simp [hop]⟩

variable {abiDecode} {i : Action}

/-- A closed property holds after every action. -/
theorem ClosedUnderUpdates.actionStep (hK : ClosedUnderUpdates K) (h : K j)
    (hedit : ∀ account value, (self.actionStep abiDecode j i).1 = some (editCall account value) →
      ClosedUnderEdit K account value) :
    K (self.actionStep abiDecode j i).2 := by
  obtain ⟨c, j₁, op, -, htransfer, hop, hstep⟩ | ⟨-, hsame | ⟨source, dest, value, htransfer⟩⟩ :=
    actionStep_cases self abiDecode j i
  -- a call that succeeded, one that left the accounts as they were, and a transfer
  · rw [hstep] at hedit ⊢
    obtain ⟨bytes, hrun⟩ := dispatch_of_executed self abiDecode (c.input j₁) hop
    have hK' : K (self.dispatch (c.input j₁).caller op (c.input j₁).internals).state :=
      hK.dispatch (hK.transfer h htransfer) fun account value heq =>
        hedit account value (congrArg some heq)
    rwa [hrun] at hK'
  · exact hK.congr _ _ hsame h
  · exact hK.transfer h htransfer

/-! ## The properties that a transaction keeps -/

/-- An anchored account stays anchored. -/
theorem closed_anchored : ClosedUnderUpdates Anchored where
  ensured j addr h := by
    unfold Anchored
    rw [nonce_ensured, code_ensured]
    split_ifs
    · exact .inl (by decide)
    · exact h
  touch j addr h := by simpa [Anchored] using h
  setBalance j addr v h := by simpa [Anchored] using h
  congr j j' hacc h := by simpa [Anchored, Journal.nonce, Journal.code, hacc] using h

theorem closedUnderEdit_anchored (account : Address) (value : Bool) :
    ClosedUnderEdit Anchored account value := fun j h => by simpa [Anchored] using h

/-- How an account was loaded is fixed for the transaction. -/
theorem closed_loadedAsNotExisting (b : Bool) :
    ClosedUnderUpdates (fun j => j.isLoadedAsNotExisting mintPrecompileAddr = b) where
  ensured j addr h := by simpa using h
  touch j addr h := by simpa using h
  setBalance j addr v h := by simpa using h
  congr j j' hacc h := by simpa [Journal.isLoadedAsNotExisting, hacc] using h

/-- The slots of the precompile hold `slots`. -/
def HasSlots (slots : U256 → U256) (j : Journal) : Prop :=
  ∀ k, j.storage mintPrecompileAddr k = slots k

/-- Only an edit of the allowlist writes slots. -/
theorem closed_hasSlots (slots : U256 → U256) : ClosedUnderUpdates (HasSlots slots) where
  ensured j addr h := by simpa [HasSlots] using h
  touch j addr h := by simpa [HasSlots] using h
  setBalance j addr v h := by simpa [HasSlots] using h
  congr j j' hacc h := by simpa [HasSlots, Journal.storage, hacc] using h

/-- No slot of the precompile is set. -/
def NoEntries : Journal → Prop := HasSlots fun _ => 0

/-- A removal sets no slot. -/
theorem closedUnderEdit_noEntries (account : Address) :
    ClosedUnderEdit NoEntries account false := by
  intro j h k
  simpa [allowlistValue] using fun _ => h k

theorem closed_touched : ClosedUnderUpdates (fun j => j.isTouched mintPrecompileAddr = true) where
  ensured j addr h := by
    unfold ensured
    split_ifs <;> simp [h]
  touch j addr h := by simp [h]
  setBalance j addr v h := by simp [h]
  congr j j' hacc h := by simpa [Journal.isTouched, hacc] using h

theorem ClosedUnderUpdates.or {K' : Journal → Prop} (hK : ClosedUnderUpdates K)
    (hK' : ClosedUnderUpdates K') : ClosedUnderUpdates fun j => K j ∨ K' j where
  ensured j addr h := h.imp (hK.ensured j addr) (hK'.ensured j addr)
  touch j addr h := h.imp (hK.touch j addr) (hK'.touch j addr)
  setBalance j addr v h := h.imp (hK.setBalance j addr v) (hK'.setBalance j addr v)
  congr j j' hacc h := h.imp (hK.congr j j' hacc) (hK'.congr j j' hacc)

/-- The slots of the precompile are those of `w`, or its account will be written back. -/
def TouchedOrSame (w : WorldState) (j : Journal) : Prop :=
  j.isTouched mintPrecompileAddr = true ∨ HasSlots (w.load.storage mintPrecompileAddr) j

/-- Slots that have changed will be written back. -/
theorem closed_touchedOrSame (w : WorldState) : ClosedUnderUpdates (TouchedOrSame w) :=
  closed_touched.or (closed_hasSlots _)

/-- An edit of the allowlist touches the account. -/
theorem closedUnderEdit_touchedOrSame (w : WorldState) (account : Address) (value : Bool) :
    ClosedUnderEdit (TouchedOrSame w) account value := fun j _ => .inl (by simp)

/-- The journal of a successful addition. -/
theorem journal_of_dispatch_add {account : Address} {bytes : Bytes} {j' : Journal}
    (hrun : self.dispatch caller (.addToAllowList account) j = .ok bytes j') :
    j' = ((ensured j mintPrecompileAddr).sstore mintPrecompileAddr (allowlistKey account)
      (allowlistValue true)).touch mintPrecompileAddr := by
  rw [dispatch_addToAllowList_eq, editAllowlist, setAllowlisted_eq] at hrun
  split_ifs at hrun
  cases hdb : j.dbError mintPrecompileAddr with
  | some e => simp [hdb] at hrun
  | none =>
    cases hst : j.storageError mintPrecompileAddr (allowlistKey account) with
    | some e => simp [hdb, hst] at hrun
    | none =>
      simp only [hdb, hst, EStateM.Result.ok.injEq] at hrun
      exact hrun.2.symm

/-- An addition to the allowlist touches the precompile's account, and anchors it if it was anchored
or the database did not have it. -/
theorem anchored_of_add {account : Address}
    (hkind : j.isLoadedAsNotExisting mintPrecompileAddr = true ∨ Anchored j)
    (hop : (self.actionStep abiDecode j i).1 = some (.addToAllowList account)) :
    Anchored (self.actionStep abiDecode j i).2 ∧
      (self.actionStep abiDecode j i).2.isTouched mintPrecompileAddr = true := by
  obtain ⟨c, j₁, op, -, htransfer, hexec, hstep⟩ | ⟨hnone, -⟩ :=
    actionStep_cases self abiDecode j i
  · rw [hstep] at hop ⊢
    obtain rfl := Option.some.inj hop
    obtain ⟨bytes, hrun⟩ := dispatch_of_executed self abiDecode (c.input j₁) hexec
    have hpost : (self.directStep abiDecode j₁ c).2 = _ := journal_of_dispatch_add hrun
    -- a missing account is created with nonce and code, any other keeps what anchored it
    have hensured : Anchored (ensured j₁ mintPrecompileAddr) := by
      rcases hkind with hnew | hanchored
      · have hnew₁ := (closed_loadedAsNotExisting true).transfer hnew htransfer
        exact .inl (by rw [(marked_ensured hnew₁).1]; decide)
      · exact closed_anchored.ensured _ _ (closed_anchored.transfer hanchored htransfer)
    simp only [hpost]
    exact ⟨closedUnderEdit_anchored account true _ hensured, by simp⟩
  · rw [hnone] at hop
    cases hop

/-! ## One transaction -/

variable {w : WorldState}

/-- What holds throughout a transaction that starts from `w`: an account that began anchored stays
so, an account that is not anchored has no entries, and entries are written only to an account that
will be written back. -/
structure Secured (w : WorldState) (j : Journal) : Prop where
  loadedAsNotExisting :
    j.isLoadedAsNotExisting mintPrecompileAddr = w.load.isLoadedAsNotExisting mintPrecompileAddr
  anchored : Anchored w.load → Anchored j
  entries : Anchored j ∨ NoEntries j
  touched : TouchedOrSame w j

/-- An addition to the allowlist leaves the account anchored and touched, unless it began bare. -/
theorem Secured.anchored_of_add (h : Secured w j) (hbare : ¬ Bare w) {account : Address}
    (hop : (self.actionStep abiDecode j i).1 = some (.addToAllowList account)) :
    Anchored (self.actionStep abiDecode j i).2 ∧
      (self.actionStep abiDecode j i).2.isTouched mintPrecompileAddr = true := by
  refine MintPrecompile.anchored_of_add ?_ hop
  rw [h.loadedAsNotExisting]
  -- neither missing nor anchored is what bare means
  by_contra hkind
  rw [not_or] at hkind
  exact hbare ⟨by simpa using hkind.1, fun hw => hkind.2 (h.anchored hw)⟩

/-- An action keeps the precompile secured, unless it adds to a bare account. -/
theorem Secured.actionStep (h : Secured w j)
    (hadd : Bare w → ∀ op, (self.actionStep abiDecode j i).1 = some op → ¬ IsAdd op) :
    Secured w (self.actionStep abiDecode j i).2 where
  loadedAsNotExisting :=
    (closed_loadedAsNotExisting _).actionStep h.loadedAsNotExisting
      fun _ _ _ _ h => by simpa using h
  anchored hw := closed_anchored.actionStep (h.anchored hw) fun _ _ _ =>
    closedUnderEdit_anchored _ _
  touched := (closed_touchedOrSame w).actionStep h.touched fun _ _ _ =>
    closedUnderEdit_touchedOrSame w _ _
  entries := by
    -- only an addition can end the absence of entries
    rcases h.entries with hanchored | hnone
    · exact .inl (closed_anchored.actionStep hanchored fun _ _ _ => closedUnderEdit_anchored _ _)
    · by_cases hop : ∃ account, (self.actionStep abiDecode j i).1 = some (.addToAllowList account)
      · obtain ⟨account, hop⟩ := hop
        exact .inl (h.anchored_of_add (fun hbare => hadd hbare _ hop trivial) hop).1
      · refine .inr ((closed_hasSlots _).actionStep hnone fun account value heq => ?_)
        cases value with
        | false => exact closedUnderEdit_noEntries account
        | true => exact absurd ⟨account, heq⟩ hop

/-- Between transactions the precompile's account is anchored or without entries. -/
def WorldSecured (w : WorldState) : Prop := Anchored w.load ∨ Fresh w

/-- A transaction begins on a secured state. -/
theorem Secured.load (h : WorldSecured w) : Secured w w.load :=
  ⟨rfl, id, h, .inr fun _ => rfl⟩

/-- The slots of a secured precompile are those that the transaction leaves. -/
theorem Secured.storage_commit (h : Secured w j) (k : U256) :
    (w.commit j).load.storage mintPrecompileAddr k = j.storage mintPrecompileAddr k := by
  apply WorldState.storage_load_commit
  -- cleared: the account was not anchored, so it had no entries to lose
  · rintro ⟨-, hnonce, hcode⟩
    rcases h.entries with hanchored | hnone
    · exact absurd hanchored (by simp [Anchored, Journal.nonce, Journal.code, hnonce, hcode])
    · exact hnone k
  -- not written back: the slots are those of the database
  · intro huntouched
    rcases h.touched with htouched | hsame
    · rw [huntouched] at htouched
      cases htouched
    · exact hsame k

/-- An account that is anchored at the end is so in the database, if it is written back or was so
before. -/
theorem anchored_commit (h : Anchored j)
    (hkept : j.isTouched mintPrecompileAddr = true ∨ Anchored w.load) :
    Anchored (w.commit j).load := by
  by_cases htouched : j.isTouched mintPrecompileAddr = true
  · have hempty : ¬ (j.accounts mintPrecompileAddr).info.IsEmpty := fun hempty =>
      h.elim (absurd hempty.2.1) (absurd hempty.2.2)
    simpa [Anchored, WorldState.commit, WorldState.load, WorldState.loadedAccount, htouched,
      hempty, Journal.nonce, Journal.code] using h
  · have hsame : (w.commit j).load.accounts mintPrecompileAddr =
        w.load.accounts mintPrecompileAddr := by
      simp [WorldState.commit, WorldState.load, htouched]
    simpa [Anchored, Journal.nonce, Journal.code, hsame] using hkept.resolve_left htouched

/-- A transaction that leaves the precompile secured leaves a secured state. -/
theorem Secured.commit (hw : WorldSecured w) (h : Secured w j) : WorldSecured (w.commit j) := by
  rcases h.entries with hanchored | hnone
  -- anchored in the journal: written back, or nothing was written at all
  · rcases h.touched with htouched | hsame
    · exact .inl (anchored_commit hanchored (.inl htouched))
    · exact hw.imp (fun hw => anchored_commit hanchored (.inr hw))
        fun hfresh k => ((h.storage_commit k).trans (hsame k)).trans (hfresh k)
  · exact .inr fun k => (h.storage_commit k).trans (hnone k)

/-- The allowlist is read from the slots. -/
theorem allowed_of_hasSlots {j j' : Journal} (h : HasSlots (j.storage mintPrecompileAddr) j') :
    allowed j' = allowed j := by
  funext a
  simp [allowed, h (allowlistKey a)]

/-- An action changes the entry that its operation edits, and no other. -/
theorem allowed_actionStep (j : Journal) (i : Action) (a : Address) :
    allowed (self.actionStep abiDecode j i).2 a =
      ((self.actionStep abiDecode j i).1.bind (·.edit a)).getD (allowed j a) := by
  have hclosed := closed_hasSlots (j.storage mintPrecompileAddr)
  obtain ⟨c, j₁, op, -, htransfer, hop, hstep⟩ |
      ⟨hnone, hsame | ⟨source, dest, value, htransfer⟩⟩ :=
    actionStep_cases self abiDecode j i
  -- the transfer of the value writes no slot
  · have hslots := allowed_of_hasSlots (hclosed.transfer (fun _ => rfl) htransfer)
    have happly := apply_of_executed self abiDecode (c.input j₁) hop
    rw [hstep, ← hslots]
    exact Ledger.allowed_apply happly a
  · rw [hnone, allowed_of_hasSlots (hclosed.congr _ _ hsame fun _ => rfl)]
    rfl
  · rw [hnone, allowed_of_hasSlots (hclosed.transfer (fun _ => rfl) htransfer)]
    rfl

section Transaction

variable (self abiDecode) (w) (actions : List Action)

/-- The journal with which a transaction ends. -/
def endJournal : Journal := finalState (self.actionStep abiDecode) w.load actions

variable {self abiDecode w actions}

/-- Only a request of the admin allowlists an account. -/
theorem requestsAdd_of_isAdd (h : (self.actionStep abiDecode j i).1 = some op) (hadd : IsAdd op) :
    RequestsAdd self abiDecode i := by
  obtain ⟨c, j₁, op', hi, -, hexec, hstep⟩ | ⟨hnone, -⟩ :=
    actionStep_cases self abiDecode j i
  · rw [hstep] at h
    obtain rfl := Option.some.inj h
    have happly := apply_of_executed self abiDecode (c.input j₁) hexec
    cases op' with
    -- the ledger permits an addition to the admin only
    | addToAllowList account =>
      exact ⟨c, account, hi, Ledger.permits_of_apply happly, decoded_of_executed abiDecode hexec⟩
    | mint | burn | removeFromAllowList | allowlist => cases hadd
  · rw [hnone] at h
    cases h

/-- Where the admin asks for no addition to a bare account, none is made. -/
theorem NoAddToBare.addsAnchored
    (h : NoAddToBare self abiDecode (.of (self.transactionStep abiDecode) w actions)) :
    AddsAnchored (.of (self.transactionStep abiDecode) w actions) := by
  intro hbare op hop hadd
  obtain ⟨t, ht, hout⟩ := List.mem_filterMap.mp hop
  have hout' := hout
  rw [eq_of_mem_transitions ht] at hout'
  exact h hbare _ (input_mem_of_mem_transitions ht) (requestsAdd_of_isAdd hout' hadd)

/-- No action of the transaction allowlists an account while the precompile's account is bare. -/
theorem actions_of_addsAnchored
    (hadds : AddsAnchored (.of (self.transactionStep abiDecode) w actions)) :
    ∀ t ∈ transitions (self.actionStep abiDecode) w.load actions,
      Bare w → ∀ op, t.output = some op → ¬ IsAdd op :=
  fun t ht hbare op hop => hadds hbare op (List.mem_filterMap.mpr ⟨t, ht, hop⟩)

/-- A transaction without an addition to a bare account ends with a secured precompile. -/
theorem secured_endJournal (hw : WorldSecured w)
    (hadds : AddsAnchored (.of (self.transactionStep abiDecode) w actions)) :
    Secured w (endJournal self abiDecode w actions) :=
  finalState_of_invariant (fun _ _ hj hadd => hj.actionStep hadd) (Secured.load hw)
    (actions_of_addsAnchored hadds)

/-- A transaction without an addition to a bare account leaves a secured state. -/
theorem worldSecured_transactionStep (hw : WorldSecured w)
    (hadds : AddsAnchored (.of (self.transactionStep abiDecode) w actions)) :
    WorldSecured (self.transactionStep abiDecode w actions).2 :=
  Secured.commit hw (secured_endJournal hw hadds)

/-- A transaction leaves each allowlist entry at the last value it wrote. -/
theorem allowed_transactionStep (hw : WorldSecured w)
    (hadds : AddsAnchored (.of (self.transactionStep abiDecode) w actions)) (a : Address) :
    allowed (self.transactionStep abiDecode w actions).2.load a =
      (((self.transactionStep abiDecode w actions).1.filterMap (·.edit a)).getLast?).getD
        (allowed w.load a) := by
  have hsecured := secured_endJournal hw hadds
  -- clearing loses no entry
  have hcommit : allowed (self.transactionStep abiDecode w actions).2.load =
      allowed (endJournal self abiDecode w actions) :=
    allowed_of_hasSlots fun k => hsecured.storage_commit k
  -- within the transaction the last edit wins
  have hlast : allowed (endJournal self abiDecode w actions) a =
      ((transitions (self.actionStep abiDecode) w.load actions).filterMap
        fun t => t.output.bind (·.edit a)).getLast?.getD (allowed w.load a) :=
    lastWrite (fun j => allowed j a) _ fun j i => allowed_actionStep j i a
  rw [hcommit]
  simpa [transactionStep, endJournal, List.filterMap_filterMap] using hlast

/-- An anchored account stays anchored. -/
theorem anchored_transactionStep (hw : Anchored w.load) :
    Anchored (self.transactionStep abiDecode w actions).2.load := by
  have hend : Anchored (endJournal self abiDecode w actions) :=
    finalState_of_invariant (C := fun _ => True)
      (fun j i hj _ => closed_anchored.actionStep hj fun _ _ _ => closedUnderEdit_anchored _ _) hw
      fun _ _ => trivial
  exact anchored_commit hend (.inr hw)

/-- A transaction that allowlists an account leaves the precompile's account anchored. -/
theorem anchored_of_add_mem (hw : WorldSecured w)
    (hadds : AddsAnchored (.of (self.transactionStep abiDecode) w actions))
    {op : INativeTokenCalls} (hop : op ∈ (self.transactionStep abiDecode w actions).1)
    (hadd : IsAdd op) :
    Anchored (self.transactionStep abiDecode w actions).2.load := by
  obtain ⟨t, ht, hout⟩ := List.mem_filterMap.mp hop
  have hnot : ¬ Bare w := fun hbare => hadds hbare op hop hadd
  have hpre : Secured w t.pre :=
    pre_of_invariant (fun _ _ hj hadd => hj.actionStep hadd) (Secured.load hw)
      (actions_of_addsAnchored hadds) t ht
  -- the addition anchors and touches the account, and later actions keep both
  have hend : Anchored (endJournal self abiDecode w actions) ∧
      (endJournal self abiDecode w actions).isTouched mintPrecompileAddr = true := by
    refine finalState_of_established
      (I := fun j => Anchored j ∧ j.isTouched mintPrecompileAddr = true)
      (fun j i hj => ⟨?_, ?_⟩) ⟨t, ht, ?_⟩
    · exact closed_anchored.actionStep hj.1 fun _ _ _ => closedUnderEdit_anchored _ _
    · exact closed_touched.actionStep hj.2 fun _ _ _ _ _ => by simp
    · rw [eq_of_mem_transitions ht] at hout ⊢
      cases op with
      | addToAllowList account => exact hpre.anchored_of_add hnot hout
      | mint | burn | removeFromAllowList | allowlist => cases hadd
  exact anchored_commit hend.1 (.inl hend.2)

end Transaction

/-! ## Whole runs -/

/-- An anchored account exists and is not empty, so that clearing spares it. -/
theorem anchored_present {w : WorldState} (h : Anchored w.load) :
    ∃ d, w mintPrecompileAddr = some d ∧ ¬ d.info.IsEmpty := by
  unfold Anchored Journal.nonce Journal.code WorldState.load at h
  cases hd : w mintPrecompileAddr with
  | none => simp [hd, WorldState.loadedAccount] at h
  | some d =>
    refine ⟨d, rfl, fun hempty => ?_⟩
    simp [hd, WorldState.loadedAccount, hempty.2.1, hempty.2.2] at h

variable (self abiDecode)

/-- Persistence of the allowlist over every run that starts without entries and in which the admin
asks for no addition while the precompile's account is bare: an account is reported as allowlisted
exactly when the last successful edit that names it was an addition, and once an account has been
allowlisted the precompile's account exists and is not empty. -/
theorem allowlist_persists (w : WorldState) (transactions : List (List Action)) (hfresh : Fresh w)
    (hrun : ∀ t ∈ transitions (self.transactionStep abiDecode) w transactions,
      NoAddToBare self abiDecode t) :
    let run := transitions (self.transactionStep abiDecode) w transactions
    let w' := finalState (self.transactionStep abiDecode) w transactions
    (∀ a, reported w' a = true ↔
        ((run.flatMap (·.output)).filterMap (·.edit a)).getLast? = some true) ∧
      ((∃ op ∈ run.flatMap (·.output), IsAdd op) →
        ∃ d, w' mintPrecompileAddr = some d ∧ ¬ d.info.IsEmpty) := by
  intro run w'
  have hrun : ∀ t ∈ run, AddsAnchored t := by
    intro t ht
    have hadds := hrun t ht
    rw [eq_of_mem_transitions ht] at hadds ⊢
    exact hadds.addsAnchored
  have hinv : ∀ s i, WorldSecured s →
      AddsAnchored (.of (self.transactionStep abiDecode) s i) →
      WorldSecured (self.transactionStep abiDecode s i).2 :=
    fun s i => worldSecured_transactionStep
  refine ⟨fun a => ?_, fun ⟨op, hop, hadd⟩ => ?_⟩
  · have hlast : allowed w'.load a =
        (run.flatMap fun t => t.output.filterMap (·.edit a)).getLast?.getD (allowed w.load a) :=
      lastWrite_of_invariant (fun s : WorldState => allowed s.load a) _ hinv
        (fun s i hs hadds => allowed_transactionStep hs hadds a) (.inr hfresh) hrun
    -- no entry is set at the beginning
    have hinit : allowed w.load a = false := by simp [allowed, hfresh (allowlistKey a)]
    rw [reported_eq, hlast, hinit, List.filterMap_flatMap]
    cases (run.flatMap fun t => t.output.filterMap (·.edit a)).getLast? <;> simp
  · obtain ⟨t, ht, hop⟩ := List.mem_flatMap.mp hop
    -- the transaction of the addition anchors the account, and later ones keep it so
    have hanchored : Anchored w'.load := by
      refine finalState_of_established (I := fun s : WorldState => Anchored s.load)
        (fun s i => anchored_transactionStep) ⟨t, ht, ?_⟩
      have hpre : WorldSecured t.pre := pre_of_invariant hinv (.inr hfresh) hrun t ht
      have hadds := hrun t ht
      rw [eq_of_mem_transitions ht] at hop hadds ⊢
      exact anchored_of_add_mem hpre hadds hop hadd
    exact anchored_present hanchored

/-! ## Additions to a bare account are lost -/

variable {self abiDecode}

/-- A call without value whose dispatch succeeds is an action that succeeds. -/
theorem actionStep_of_dispatch {data : Bytes} {bytes : Bytes} {j' : Journal}
    (hdecoded : abiDecode data = .ok op)
    (hrun : self.dispatch caller op (j.touch mintPrecompileAddr) = .ok bytes j') :
    self.actionStep abiDecode j (.precompile { caller, data }) = (some op, j') := by
  simp [actionStep, Journal.transfer, directStep, DirectCall.input, call, hdecoded, hrun, executed,
    PrecompileOutput.new]

/-- The journal after the admin has allowlisted `account` in a bare account. -/
def bareAdded (w : WorldState) (account : Address) : Journal :=
  ((w.load.touch mintPrecompileAddr).sstore mintPrecompileAddr (allowlistKey account)
    (allowlistValue true)).touch mintPrecompileAddr

/-- An addition to a bare account succeeds, and marks nothing. -/
theorem dispatch_add_of_bare (hbare : Bare w) (account : Address) :
    self.dispatch self.admin (.addToAllowList account) (w.load.touch mintPrecompileAddr) =
      .ok [] (bareAdded w account) := by
  -- the account exists, so it is left without nonce and code
  have hensured : ensured (w.load.touch mintPrecompileAddr) mintPrecompileAddr =
      w.load.touch mintPrecompileAddr := by
    simp [ensured, hbare.1]
  have hdb : (w.load.touch mintPrecompileAddr).dbError mintPrecompileAddr = none := rfl
  have hst : (w.load.touch mintPrecompileAddr).storageError mintPrecompileAddr
      (allowlistKey account) = none := rfl
  rw [dispatch_addToAllowList_eq, editAllowlist, if_pos rfl, setAllowlisted_eq]
  simp only [hdb, hst, hensured]
  rfl

/-- The journal after the admin has burned the balance of that account. -/
def bareBurned (w : WorldState) (account : Address) : Journal :=
  (((bareAdded w account).touch mintPrecompileAddr).setBalance mintPrecompileAddr 0).touch
    mintPrecompileAddr

/-- Behind it, all of the balance of the bare account can be burned. -/
theorem dispatch_burn_of_bare (hbare : Bare w) (account : Address) :
    self.dispatch self.admin (.burn mintPrecompileAddr (w.load.balance mintPrecompileAddr))
      ((bareAdded w account).touch mintPrecompileAddr) = .ok [] (bareBurned w account) := by
  have hensured : ensured ((bareAdded w account).touch mintPrecompileAddr) mintPrecompileAddr =
      (bareAdded w account).touch mintPrecompileAddr := by
    simp [ensured, bareAdded, hbare.1]
  have hdb : ((bareAdded w account).touch mintPrecompileAddr).dbError mintPrecompileAddr = none :=
    rfl
  have hsub : (((bareAdded w account).touch mintPrecompileAddr).balance
      mintPrecompileAddr).checkedSub (w.load.balance mintPrecompileAddr) = some 0 := by
    rw [BitVec.checkedSub_eq_some_iff]
    simp [bareAdded]
  rw [dispatch_burn_eq, hsub]
  simp only [authorizeError, authorizeJournal, if_true, true_or, moveBalance, hdb, hensured]
  rfl

/-- From every bare account, one transaction of the admin allowlists any account and loses the entry
again: it burns the balance, and state clearing deletes the account with its storage. -/
theorem add_to_bare_is_lost (hbare : Bare w) {account : Address} {add burn : Bytes}
    (hadd : abiDecode add = .ok (.addToAllowList account))
    (hburn : abiDecode burn = .ok (.burn mintPrecompileAddr (w.load.balance mintPrecompileAddr))) :
    let t := self.transactionStep abiDecode w
      [.precompile { caller := self.admin, data := add },
        .precompile { caller := self.admin, data := burn }]
    t.1 = [.addToAllowList account, .burn mintPrecompileAddr (w.load.balance mintPrecompileAddr)] ∧
      reported t.2 account = false := by
  intro t
  have hfirst : self.actionStep abiDecode w.load
      (.precompile { caller := self.admin, data := add }) =
      (some (.addToAllowList account), bareAdded w account) :=
    actionStep_of_dispatch hadd (dispatch_add_of_bare hbare account)
  have hsecond : self.actionStep abiDecode (bareAdded w account)
      (.precompile { caller := self.admin, data := burn }) =
      (some (.burn mintPrecompileAddr (w.load.balance mintPrecompileAddr)),
        bareBurned w account) :=
    actionStep_of_dispatch hburn (dispatch_burn_of_bare hbare account)
  have ht : t = ([.addToAllowList account,
      .burn mintPrecompileAddr (w.load.balance mintPrecompileAddr)],
      w.commit (bareBurned w account)) := by
    simp only [t, transactionStep, transitions, finalState, Transition.of, hfirst, hsecond]
    rfl
  -- no balance, no nonce and no code: the account is deleted
  have hcleared : w.commit (bareBurned w account) mintPrecompileAddr = none := by
    have hnonce : w.load.nonce mintPrecompileAddr = 0 := by
      by_contra h
      exact hbare.2 (.inl h)
    have hcode : w.load.code mintPrecompileAddr = [] := by
      by_contra h
      exact hbare.2 (.inr h)
    have hempty : ((bareBurned w account).accounts mintPrecompileAddr).info.IsEmpty := by
      change (bareBurned w account).balance _ = 0 ∧ (bareBurned w account).nonce _ = 0 ∧
        (bareBurned w account).code _ = []
      simp [bareBurned, bareAdded, hnonce, hcode]
    have htouched : (bareBurned w account).isTouched mintPrecompileAddr = true := by
      simp [bareBurned]
    simp [WorldState.commit, htouched, hempty]
  rw [ht]
  refine ⟨rfl, ?_⟩
  rw [reported_eq]
  simp [allowed, Journal.storage, WorldState.load, hcleared, WorldState.loadedAccount]

/-- The account of the precompile holds `3` wei and nothing else. -/
def prefunded : WorldState := fun a =>
  if a = mintPrecompileAddr then some { info := { balance := 3 } } else none

/-- The admin `0xAD` calls the precompile with a selector and arguments that fit in a byte pair and
a byte. -/
def adminCall (selector : Bytes) (account : UInt8 × UInt8) (amount : UInt8) : Action :=
  .precompile
    { caller := 0xAD
      data := selector ++ (List.replicate 30 0 ++ [account.1, account.2]) ++
        (List.replicate 31 0 ++ [amount]) }

/-- On a prefunded account: the admin allowlists `0xC0`, and in a later transaction burns the `3`
wei of the precompile's account. -/
def addThenBurn : List (List Action) :=
  [[adminCall [0x31, 0xf5, 0x91, 0x02] (0, 0xC0) 0],
    [adminCall [0x9d, 0xc2, 0x9f, 0xac] (0xF1, 0) 3]]

/-- The last edit of `0xC0` was its addition, but it is no longer reported as allowlisted. -/
theorem prefunded_entry_lost :
    Fresh prefunded ∧
      (((transitions (MintPrecompile.transactionStep ⟨0xAD⟩ INativeTokenCalls.solDecode) prefunded
        addThenBurn).flatMap (·.output)).filterMap (·.edit 0xC0)).getLast? = some true ∧
      reported (finalState (MintPrecompile.transactionStep ⟨0xAD⟩ INativeTokenCalls.solDecode)
        prefunded addThenBurn) 0xC0 = false := by
  refine ⟨fun k => rfl, by decide, by decide⟩

/-- On an absent account the same transactions keep the entry: the burn of the missing `3` wei
fails, and the account has been anchored. -/
theorem absent_entry_persists :
    Fresh (fun _ => none) ∧
      reported (finalState (MintPrecompile.transactionStep ⟨0xAD⟩ INativeTokenCalls.solDecode)
        (fun _ => none) addThenBurn) 0xC0 = true := by
  have hfresh : Fresh (fun _ => none) := fun k => rfl
  refine ⟨hfresh, ((allowlist_persists ⟨0xAD⟩ INativeTokenCalls.solDecode _ addThenBurn hfresh
    ?_).1 0xC0).mpr (by decide)⟩
  intro t ht hbare
  simp only [addThenBurn, transitions, List.mem_cons, List.not_mem_nil, or_false] at ht
  -- the account is missing before the first transaction and anchored before the second
  rcases ht with rfl | rfl
  · exact absurd hbare.1 (by decide)
  · exact absurd (Or.inl (by decide)) hbare.2

end MintPrecompile

end EvReth
