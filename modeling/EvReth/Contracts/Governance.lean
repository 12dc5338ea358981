import EvReth.Contracts.AdminProxy
import EvReth.Foundations.CallStack
import EvReth.Precompiles.Mint.DirectCalls
import EvReth.Precompiles.Mint.Persistence

/-!
# Who governs the native token

The mint precompile obeys its admin and those whom the admin has allowlisted. The admin is the
`AdminProxy`, which obeys its owner. The contracts that they call, and those that call them, are
arbitrary code, which may call back at any time.

* `Governance.platform` is the whole: the proxy runs its program, the precompile its own code, and
  any other account does what it likes with what is its own. Any call may run out of gas at any
  point. What a failed call has done is undone, logs included.
* `Handover` is what the ownership of the proxy is for. The logs of the proxy are a history of it
  (`ownership_follows_log`).
* Whatever the proxy does to others, it does for its owner (`ForOwner`), so that each account on the
  allowlist was put there for the owner of the time.
* An owner that never calls locks the proxy for good (`locked_iff`).

The logs of a journal are here those of the whole chain.
-/

namespace EvReth.Contracts

open AdminProxy CallStack MintPrecompile

/-! ## Handing over in two steps -/

/-- An owner, and whom it has nominated. -/
@[ext]
structure Handover (α : Type) where
  owner : α
  nominee : Option α
  deriving DecidableEq, Repr

/-- A step of a handover. -/
inductive HandoverEvent (α : Type) where
  | nominated (owner nominee : α)
  | accepted (previous next : α)
  deriving DecidableEq, Repr

namespace Handover

variable {α : Type} [DecidableEq α]

/-- The owner nominates, and the nominee accepts. -/
def apply (h : Handover α) : HandoverEvent α → Option (Handover α)
  | .nominated owner nominee => if owner = h.owner then some ⟨owner, some nominee⟩ else none
  | .accepted previous next =>
    if previous = h.owner ∧ h.nominee = some next then some ⟨next, none⟩ else none

/-- A history, or `none` if it is not one. -/
def replay (h : Handover α) (events : List (HandoverEvent α)) : Option (Handover α) :=
  events.foldlM apply h

variable {h h' : Handover α} {events : List (HandoverEvent α)}

/-- A longer history is a history with one more step. -/
theorem replay_concat_iff {event : HandoverEvent α} :
    h.replay (events ++ [event]) = some h' ↔
      ∃ h₁, h.replay events = some h₁ ∧ h₁.apply event = some h' := by
  simp only [replay, List.foldlM_append, List.foldlM_cons, List.foldlM_nil, bind_pure]
  exact Option.bind_eq_some_iff

/-- Whoever is nominated after a history was nominated last, by the owner. -/
theorem last_of_nominee {nominee : α} (hreplay : h.replay events = some h')
    (hnone : h.nominee = none) (hnominee : h'.nominee = some nominee) :
    ∃ before, events = before ++ [.nominated h'.owner nominee] := by
  rcases List.eq_nil_or_concat events with rfl | ⟨before, last, rfl⟩
  · obtain rfl := Option.some.inj hreplay
    rw [hnone] at hnominee
    cases hnominee
  · rw [List.concat_eq_append] at hreplay ⊢
    obtain ⟨h₁, -, hlast⟩ := replay_concat_iff.mp hreplay
    refine ⟨before, ?_⟩
    -- after an acceptance nobody is nominated
    cases last with
    | nominated owner nominee' =>
      rw [apply, Option.ite_none_right_eq_some] at hlast
      obtain ⟨-, hlast⟩ := hlast
      obtain rfl := Option.some.inj hlast
      obtain rfl := Option.some.inj hnominee
      rfl
    | accepted previous next =>
      rw [apply, Option.ite_none_right_eq_some] at hlast
      obtain ⟨-, hlast⟩ := hlast
      obtain rfl := Option.some.inj hlast
      cases hnominee

/-- In a history, every new owner was nominated just before, by the previous one. -/
theorem nominated_of_accepted {before after : List (HandoverEvent α)} {previous next : α}
    (hreplay : h.replay (before ++ .accepted previous next :: after) = some h')
    (hnone : h.nominee = none) : ∃ first, before = first ++ [.nominated previous next] := by
  rw [replay, List.foldlM_append] at hreplay
  obtain ⟨h₁, hbefore, hreplay⟩ := Option.bind_eq_some_iff.mp hreplay
  rw [List.foldlM_cons] at hreplay
  obtain ⟨h₂, haccepted, -⟩ := Option.bind_eq_some_iff.mp hreplay
  rw [apply, Option.ite_none_right_eq_some] at haccepted
  obtain ⟨⟨rfl, hnominee⟩, -⟩ := haccepted
  exact last_of_nominee hbefore hnone hnominee

end Handover

/-! ## The logs of the precompile -/

section Logs

variable (self : MintPrecompile) (caller : Address) (j : Journal)

theorem logs_ensured (addr : Address) : (ensured j addr).logs = j.logs := by
  unfold ensured
  split_ifs <;> rfl

/-- Neither the check of a caller nor the move of a balance logs anything. -/
theorem logs_authorized_move (addr : Address) (balance? : Option U256) (reason : String) :
    (match authorizeError j self caller with
      | some e => EStateM.Result.error e (authorizeJournal j self caller)
      | none => moveBalance (authorizeJournal j self caller) addr balance? reason).state.logs =
        j.logs := by
  have hauthorize : (authorizeJournal j self caller).logs = j.logs := by
    unfold authorizeJournal
    split_ifs
    · rfl
    · exact logs_ensured j _
  cases authorizeError j self caller with
  | some e => exact hauthorize
  | none =>
    simp only [moveBalance]
    cases (authorizeJournal j self caller).dbError addr with
    | some e => exact hauthorize
    | none => cases balance? <;> exact (logs_ensured _ _).trans hauthorize

theorem logs_editAllowlist (account : Address) (value : Bool) :
    (editAllowlist j account self caller value).state.logs = j.logs := by
  unfold editAllowlist
  split_ifs
  · rw [setAllowlisted_eq]
    cases j.dbError mintPrecompileAddr with
    | some e => rfl
    | none =>
      cases j.storageError mintPrecompileAddr (allowlistKey account) <;> exact logs_ensured _ _
  · rfl

/-- The precompile logs nothing. -/
theorem logs_dispatch (op : INativeTokenCalls) :
    (self.dispatch caller op j).state.logs = j.logs := by
  cases op with
  | mint dest amount =>
    rw [dispatch_mint_eq]
    exact logs_authorized_move self caller j _ _ _
  | burn source amount =>
    rw [dispatch_burn_eq]
    exact logs_authorized_move self caller j _ _ _
  | addToAllowList account =>
    rw [dispatch_addToAllowList_eq]
    exact logs_editAllowlist self caller j account true
  | removeFromAllowList account =>
    rw [dispatch_removeFromAllowList_eq]
    exact logs_editAllowlist self caller j account false
  | allowlist account =>
    rw [dispatch_allowlist_eq, isAllowlisted_eq]
    cases j.dbError mintPrecompileAddr with
    | some e => rfl
    | none =>
      cases j.storageError mintPrecompileAddr (allowlistKey account) <;> exact logs_ensured _ _

end Logs

/-! ## The platform -/

/-- A call. For a `DELEGATECALL` of the precompile, the sender is the one of the frame. -/
structure Message where
  sender : Address
  target : Address
  value : U256
  data : Bytes
  deriving DecidableEq, Repr

/-- The call as the precompile gets it, as far as it reads it. -/
def Message.direct (m : Message) : DirectCall :=
  { caller := m.sender, data := m.data, value := m.value }

/-- The code that runs. -/
inductive Code where
  | proxy (program : ProxyM Bytes)
  /-- The precompile, and the data that it returns when it is done. -/
  | precompile (returned : Option Bytes)
  | foreign

/-- The deployed proxy and the precompile, with the decoders of their calldata. -/
structure Governance where
  proxy : Address
  mint : MintPrecompile
  decode : Bytes → Option AdminProxyCall
  abiDecode : Bytes → Except String INativeTokenCalls
  proxy_ne_zero : proxy ≠ 0
  proxy_ne_mint : proxy ≠ mintPrecompileAddr

namespace Governance

variable (self : Governance)

/-- The owner of the proxy. -/
def owner (j : Journal) : Address := ownerOf self.proxy j

/-- Whom the owner has nominated. -/
def pendingOwner (j : Journal) : Address := pendingOwnerOf self.proxy j

/-- The code of an account. -/
def codeAt (m : Message) : Code :=
  if m.target = self.proxy then .proxy (main self.decode m.sender m.value m.data)
  else if m.target = mintPrecompileAddr then .precompile none
  else .foreign

/-- What other code can do by itself: nothing to the storage of others, and nothing in their
name. -/
structure Foreign (target : Address) (j j' : Journal) : Prop where
  storage : ∀ a ≠ target, ∀ k, j'.storage a k = j.storage a k
  logs : ∃ logs : List Log, (∀ log ∈ logs, log.address = target) ∧ j'.logs = j.logs ++ logs

/-- What happens between transactions: fees, system calls, the clearing of empty accounts, which may
take the allowlist with it. -/
structure Idle (g : Governance) (j j' : Journal) : Prop where
  storage : ∀ k, j'.storage g.proxy k = j.storage g.proxy k
  allowed : ∀ a, allowed j' a = true → allowed j a = true
  logs : ∃ logs : List Log, (∀ log ∈ logs, log.address ≠ g.proxy) ∧ j'.logs = j.logs ++ logs

/-- Accounts with a key send transactions. A batch of calls is a call of the account of its sender,
which makes them. -/
def Sends (m : Message) : Prop :=
  m.sender ≠ 0 ∧ m.sender ≠ self.proxy ∧ m.sender ≠ mintPrecompileAddr

/-- The value of a call is moved before its code runs. -/
def Enter (j : Journal) (m : Message) (j' : Journal) (code : Code) : Prop :=
  j.transfer m.sender m.target m.value = some j' ∧ code = self.codeAt m

/-- What code does next. -/
inductive Acts (m : Message) : Code → Journal → Act Journal Message Bytes Code → Prop where
  | advances (p : ProxyM Bytes) (j : Journal) :
      Acts m (.proxy p) j (.work (advance self.proxy p j).1 (.proxy (advance self.proxy p j).2))
  | executes (target : Address) (value : U256) (data : Bytes) (k : _) (j : Journal) :
      Acts m (.proxy (.call (.call target value data) k)) j
        (.call ⟨self.proxy, target, value, data⟩ fun r => .proxy (k r))
  | returns (a : Bytes) (j : Journal) : Acts m (.proxy (.done a)) j (.ret a)
  | reverts (e : Bytes) (j : Journal) : Acts m (.proxy (.fail e)) j (.fail e)
  | mints {j j' : Journal} {out : PrecompileOutput}
      (h : self.mint.call self.abiDecode (m.direct.input j) = (.ok out, j'))
      (hsuccess : out.status = .success) :
      Acts m (.precompile none) j (.work j' (.precompile (some out.bytes)))
  | answers (a : Bytes) (j : Journal) : Acts m (.precompile (some a)) j (.ret a)
  | works {j j' : Journal} (h : Foreign m.target j j') : Acts m .foreign j (.work j' .foreign)
  /-- The zero address has no code. -/
  | calls {m' : Message} (hsender : m'.sender = m.target) (hcode : m.target ≠ 0) (j : Journal) :
      Acts m .foreign j (.call m' fun _ => .foreign)
  | delegates {m' : Message} (hsender : m'.sender = m.sender)
      (htarget : m'.target = mintPrecompileAddr) (hvalue : m'.value = 0) (j : Journal) :
      Acts m .foreign j (.call m' fun _ => .foreign)
  | ends (a : Bytes) (j : Journal) : Acts m .foreign j (.ret a)
  | gives (a : Bytes) (j : Journal) : Acts m .foreign j (.fail a)
  /-- Without gas, and where the precompile halts. -/
  | halts (code : Code) (j : Journal) : Acts m code j (.fail [])

/-- All accounts together. -/
def platform : Platform Journal Message Bytes Code where
  idle := self.Idle
  sends := self.Sends
  enter := self.Enter
  act := self.Acts

/-! ## What a frame does -/

/-- The logged steps of the handover. -/
def handoverEvent (log : Log) : Option (HandoverEvent Address) :=
  if log.address = self.proxy then
    match log.topics with
    | [topic, first, second] =>
      if topic = AdminProxyEvent.startedTopic then
        some (.nominated (first.setWidth 160) (second.setWidth 160))
      else if topic = AdminProxyEvent.transferredTopic then
        some (.accepted (first.setWidth 160) (second.setWidth 160))
      else none
    | _ => none
  else none

/-- The history of the handover in the logs. -/
def history (j : Journal) : List (HandoverEvent Address) := j.logs.filterMap self.handoverEvent

/-- The proxy is as it was. -/
structure Unmoved (g : Governance) (j j' : Journal) : Prop where
  storage : ∀ k, j'.storage g.proxy k = j.storage g.proxy k
  history : g.history j' = g.history j

/-- A frame has done something: nothing that concerns the proxy or the allowlist, a step of the
handover, or an operation of the precompile. -/
inductive Worked (m : Message) (j j' : Journal) : Prop where
  | aside (htarget : m.target ≠ mintPrecompileAddr) (hunmoved : self.Unmoved j j')
      (hallowed : allowed j' = allowed j)
  | hands (htarget : m.target = self.proxy) (h : Hands self.proxy m.sender j j')
  | mints (htarget : m.target = mintPrecompileAddr) (hunmoved : self.Unmoved j j')
      {op : INativeTokenCalls} (hdecode : self.abiDecode m.data = .ok op)
      (happly : (ledger j).apply self.mint.admin m.sender op = some (ledger j'))

/-- The owner has asked for these calls as the last ones of its own. -/
def Requested (m : Message) (s : Journal) (calls : List Outgoing) : Prop :=
  m.target = self.proxy ∧ m.sender = self.owner s ∧
    ∃ call made, self.decode m.data = some call ∧ call.asked = made ++ calls

/-- What a frame that was entered with a message in a world still does: the proxy begins, or it
makes the calls that its owner has requested. -/
def Holds (m : Message) (s : Journal) : Code → Journal → Prop
  | .proxy p, j => m.target = self.proxy ∧
    (p = main self.decode m.sender m.value m.data ∧
        (∀ k, j.storage self.proxy k = s.storage self.proxy k) ∨
      ∃ calls, Serves p calls ∧ (calls ≠ [] → self.Requested m s calls))
  | .precompile _, _ => m.target = mintPrecompileAddr
  | .foreign, _ => m.target ≠ self.proxy ∧ m.target ≠ mintPrecompileAddr

/-- A frame that was entered with a message in a world may make a call: the proxy a requested one,
any other account in its own name, or of the precompile in the name of its caller. -/
inductive Asks (m : Message) (s : Journal) (m' : Message) : Prop where
  | requested {calls : List Outgoing} (hsender : m'.sender = self.proxy)
      (h : self.Requested m s (⟨m'.target, m'.value, m'.data⟩ :: calls))
  | own (hforeign : m.target ≠ self.proxy) (hcode : m.target ≠ 0)
      (hmint : m.target ≠ mintPrecompileAddr) (hsender : m'.sender = m.target)
  | delegated (hforeign : m.target ≠ self.proxy) (hsender : m'.sender = m.sender)
      (htarget : m'.target = mintPrecompileAddr)

variable {self} {m m' : Message} {s j j' : Journal} {code code' : Code}

/-- The value of a call moves between balances only. -/
theorem storage_of_enter (h : self.Enter j m j' code) (a : Address) (k : U256) :
    j'.storage a k = j.storage a k := by
  obtain ⟨htransfer, -⟩ := h
  obtain ⟨-, rfl⟩ | ⟨v, v', -, -, rfl⟩ := Journal.transfer_cases htransfer
  · exact Journal.storage_touch ..
  · rw [Journal.storage_setBalance, Journal.storage_setBalance]

theorem unmoved_of_enter (h : self.Enter j m j' code) : self.Unmoved j j' where
  storage := storage_of_enter h self.proxy
  history := by rw [history, history, (Journal.frame_of_transfer h.1).2.2]

/-- The allowlist is read from the storage of the precompile. -/
theorem allowed_congr (h : ∀ k, j'.storage mintPrecompileAddr k = j.storage mintPrecompileAddr k) :
    allowed j' = allowed j := by
  funext a
  rw [allowed, allowed, h]

/-- Every call begins as it should: with the code of its account. -/
theorem holds_of_enter (h : self.Enter j m j' code) : self.Holds m j code j' := by
  have hstorage := storage_of_enter h self.proxy
  obtain ⟨-, rfl⟩ := h
  rw [codeAt]
  split_ifs with hproxy hmint
  · exact ⟨hproxy, .inl ⟨rfl, hstorage⟩⟩
  · exact hmint
  · exact ⟨hproxy, hmint⟩

/-! What a frame does by itself. -/

/-- Logs of others are no steps of the handover. -/
theorem handoverEvent_of_ne {log : Log} (h : log.address ≠ self.proxy) :
    self.handoverEvent log = none := if_neg h

theorem handoverEvent_executed (target : Address) (data result : Bytes) :
    self.handoverEvent ((AdminProxyEvent.executed target data result).toLog self.proxy) = none :=
  if_pos rfl

/-- Logs that are no steps of the handover. -/
theorem history_append {logs : List Log} (hlogs : j'.logs = j.logs ++ logs)
    (h : ∀ log ∈ logs, self.handoverEvent log = none) : self.history j' = self.history j := by
  rw [history, history, hlogs, List.filterMap_append, List.filterMap_eq_nil_iff.mpr h,
    List.append_nil]

/-- What the proxy logs about executed calls does not concern the handover. -/
theorem unmoved_of_executes (h : Executes self.proxy j j') : self.Unmoved j j' where
  storage := h.storage
  history := by
    obtain ⟨logs, hlogs, rfl⟩ := h
    refine history_append rfl fun log hmem => ?_
    obtain ⟨target, data, result, rfl⟩ := hlogs log hmem
    exact handoverEvent_executed target data result

/-- The log of an executed call concerns neither the handover nor the allowlist. -/
theorem worked_of_executes (htarget : m.target = self.proxy) (h : Executes self.proxy j j') :
    self.Worked m j j' := by
  refine .aside ?_ (unmoved_of_executes h) (allowed_congr h.storage)
  rw [htarget]
  exact self.proxy_ne_mint

/-- What other accounts do by themselves concerns neither the proxy nor the allowlist. -/
theorem worked_of_foreign (hproxy : m.target ≠ self.proxy) (hmint : m.target ≠ mintPrecompileAddr)
    (h : Foreign m.target j j') : self.Worked m j j' := by
  refine .aside hmint ⟨h.storage _ hproxy.symm, ?_⟩ (allowed_congr (h.storage _ hmint.symm))
  obtain ⟨logs, hlogs, heq⟩ := h.logs
  refine history_append heq fun log hmem => handoverEvent_of_ne ?_
  rw [hlogs log hmem]
  exact hproxy

variable (self) in
/-- The slots of the proxy are kept by the updates of the precompile. -/
theorem closed_storage (slots : U256 → U256) :
    ClosedUnderUpdates fun j => ∀ k, j.storage self.proxy k = slots k where
  ensured j addr h k := (storage_ensured j addr _ _).trans (h k)
  touch j addr h k := (Journal.storage_touch ..).trans (h k)
  setBalance j addr v h k := (Journal.storage_setBalance ..).trans (h k)
  congr j j' hacc h k := by
    rw [Journal.storage, hacc]
    exact h k

/-- No operation of the precompile writes to the proxy. -/
theorem storage_dispatch (caller : Address) (op : INativeTokenCalls) (j : Journal) (k : U256) :
    (self.mint.dispatch caller op j).state.storage self.proxy k = j.storage self.proxy k := by
  refine (closed_storage self (j.storage self.proxy)).dispatch (fun _ => rfl)
    (fun account value _ j h k => ?_) k
  rw [Journal.storage_touch, Journal.storage_sstore, if_neg fun h => self.proxy_ne_mint h.1]
  exact h k

/-- The precompile carries out an operation, and leaves the proxy alone. -/
theorem worked_of_mints {out : PrecompileOutput} (htarget : m.target = mintPrecompileAddr)
    (h : self.mint.call self.abiDecode (m.direct.input j) = (.ok out, j'))
    (hsuccess : out.status = .success) : self.Worked m j j' := by
  cases hdecode : self.abiDecode m.data with
  | error e =>
    -- calldata that does not decode is a halt
    rw [MintPrecompile.call, show self.abiDecode (m.direct.input j).data = .error e from hdecode]
      at h
    obtain rfl := Except.ok.inj (Prod.mk.inj h).1
    cases hsuccess
  | ok op =>
    have hexecuted : executed self.abiDecode (m.direct.input j).data
        (self.mint.call self.abiDecode (m.direct.input j)).1 = some op := by
      rw [h]
      unfold executed
      rw [show self.abiDecode (m.direct.input j).data = .ok op from hdecode]
      exact if_pos hsuccess
    have happly := apply_of_executed self.mint self.abiDecode (m.direct.input j) hexecuted
    have hjournal := journal_call self.mint self.abiDecode (m.direct.input j)
    rw [show self.abiDecode (m.direct.input j).data = .ok op from hdecode] at hjournal
    rw [h] at happly hjournal
    obtain rfl : j' = (self.mint.dispatch m.sender op j).state := hjournal
    refine .mints htarget ⟨storage_dispatch m.sender op j, ?_⟩ hdecode happly
    rw [history, history, logs_dispatch]

/-- What a frame does by itself is one of three things. -/
theorem worked (hholds : self.Holds m s code j) (h : self.Acts m code j (.work j' code')) :
    self.Worked m j j' := by
  cases h with
  | advances p =>
    obtain ⟨htarget, ⟨rfl, -⟩ | ⟨calls, hserves, -⟩⟩ := hholds
    · generalize hadvance : advance self.proxy (main _ _ _ _) j = r
      cases hadvance ▸ begins_main self.decode self.proxy m.sender m.value m.data j with
      | nothing => exact worked_of_executes htarget (.refl j)
      | hands hhands => exact .hands htarget hhands
      | serves _ _ hexecutes => exact worked_of_executes htarget hexecutes
    · exact worked_of_executes htarget (hserves.advance j).1
  | mints h hsuccess => exact worked_of_mints hholds h hsuccess
  | works h => exact worked_of_foreign hholds.1 hholds.2 h

/-- When the proxy begins, it serves what its owner has requested. -/
theorem serves_of_begins {r : Journal × ProxyM Bytes} (htarget : m.target = self.proxy)
    (hstorage : ∀ k, j.storage self.proxy k = s.storage self.proxy k)
    (h : Begins self.decode self.proxy m.sender m.data j r) :
    ∃ calls, Serves r.2 calls ∧ (calls ≠ [] → self.Requested m s calls) := by
  cases h with
  | nothing h => exact ⟨[], h, fun hne => absurd rfl hne⟩
  | hands _ h => exact ⟨[], h, fun hne => absurd rfl hne⟩
  | @serves _ _ call howner hdecode _ h =>
    refine ⟨call.asked, h, fun _ => ⟨htarget, ?_, call, [], hdecode, rfl⟩⟩
    exact howner.trans (ownerOf_congr hstorage)

/-- A frame goes on as it should after it has worked. -/
theorem holds_of_work (hholds : self.Holds m s code j)
    (h : self.Acts m code j (.work j' code')) : self.Holds m s code' j' := by
  cases h with
  | advances p =>
    obtain ⟨htarget, ⟨rfl, hstorage⟩ | ⟨calls, hserves, hrequested⟩⟩ := hholds
    · exact ⟨htarget, .inr (serves_of_begins htarget hstorage (begins_main ..))⟩
    · exact ⟨htarget, .inr ⟨calls, (hserves.advance j).2, hrequested⟩⟩
  | mints => exact hholds
  | works => exact hholds

/-- A call that the proxy makes is the next one that was requested. -/
theorem asks_of_executes {target : Address} {value : U256} {data : Bytes}
    {k : Except Bytes Bytes → ProxyM Bytes} (htarget : m.target = self.proxy)
    (h : ∃ calls, Serves (.call (.call target value data) k) calls ∧
      (calls ≠ [] → self.Requested m s calls)) :
    self.Asks m s ⟨self.proxy, target, value, data⟩ ∧
      ∀ r j', self.Holds m s (.proxy (k r)) j' := by
  obtain ⟨-, ⟨rest, rfl, hok, herror⟩, hrequested⟩ := h
  have hrequest := hrequested (List.cons_ne_nil _ _)
  refine ⟨.requested rfl hrequest, fun r j' => ⟨htarget, .inr ?_⟩⟩
  cases r with
  | error a =>
    obtain ⟨e, he⟩ := herror a
    rw [he]
    exact ⟨[], trivial, fun hne => absurd rfl hne⟩
  | ok a =>
    obtain ⟨-, howner, call, made, hdecode, hasked⟩ := hrequest
    refine ⟨rest, hok a, fun _ => ⟨htarget, howner, call, made ++ [⟨target, value, data⟩],
      hdecode, ?_⟩⟩
    rw [hasked, List.append_assoc]
    rfl

/-- A frame makes only calls that it may make, and goes on as it should with every outcome. -/
theorem asks_of_call {k : Except Bytes Bytes → Code} (hholds : self.Holds m s code j)
    (h : self.Acts m code j (.call m' k)) :
    self.Asks m s m' ∧ ∀ r j', self.Holds m s (k r) j' := by
  cases h with
  | executes target value data k =>
    obtain ⟨htarget, ⟨hmain, hstorage⟩ | hserves⟩ := hholds
    · -- a program that has not begun does not stop at a call
      have hbegins := begins_main self.decode self.proxy m.sender m.value m.data j
      rw [← hmain] at hbegins
      exact asks_of_executes htarget (serves_of_begins htarget hstorage hbegins)
    · exact asks_of_executes htarget hserves
  | calls hsender hcode => exact ⟨.own hholds.1 hcode hholds.2 hsender, fun _ _ => hholds⟩
  | delegates hsender htarget =>
    exact ⟨.delegated hholds.1 hsender htarget, fun _ _ => hholds⟩

/-! ## Using the proxy -/

variable (self) in
/-- An account that makes no calls of its own. -/
def Mute (a : Address) : Prop := a = 0 ∨ a = self.proxy ∨ a = mintPrecompileAddr

variable {sender : Address} {data : Bytes}

/-- Whoever makes calls can call the proxy, which runs up to its first call. -/
theorem reaches_advance {call : AdminProxyCall} (hsender : ¬ self.Mute sender) (hne : data ≠ [])
    (hdecode : self.decode data = some call) (j : Journal) :
    Reaches self.platform ⟨j, none⟩
      ⟨(advance self.proxy (run sender call) (j.touch self.proxy)).1,
        some (⟨⟨sender, self.proxy, 0, data⟩, j,
          .proxy (advance self.proxy (run sender call) (j.touch self.proxy)).2⟩, [])⟩ := by
  have hsends : Sends self ⟨sender, self.proxy, 0, data⟩ :=
    ⟨fun h => hsender (.inl h), fun h => hsender (.inr (.inl h)), fun h => hsender (.inr (.inr h))⟩
  have henter : self.Enter j ⟨sender, self.proxy, 0, data⟩ (j.touch self.proxy)
      (.proxy (run sender call)) := by
    refine ⟨if_pos rfl, ?_⟩
    rw [codeAt, if_pos rfl, main_of_decode hne hdecode]
  exact .tail (.single (.start hsends henter)) (.work (.advances _ _))

theorem storage_touch_proxy (j : Journal) (k : U256) :
    (j.touch self.proxy).storage self.proxy k = j.storage self.proxy k :=
  Journal.storage_touch ..

/-- The owner can have the proxy call whom it likes. -/
theorem reaches_execute {target : Address} {payload : Bytes} (hsender : ¬ self.Mute sender)
    (howner : sender = self.owner j) (hne : data ≠ [])
    (hdecode : self.decode data = some (.execute target payload)) :
    ∃ k, Reaches self.platform ⟨j, none⟩
      ⟨(j.touch self.proxy).touch target,
        some (⟨⟨self.proxy, target, 0, payload⟩, j.touch self.proxy,
          self.codeAt ⟨self.proxy, target, 0, payload⟩⟩,
          [⟨⟨sender, self.proxy, 0, data⟩, j, k⟩])⟩ := by
  have hreaches := reaches_advance hsender hne hdecode j
  have howner' : sender = ownerOf self.proxy (j.touch self.proxy) :=
    howner.trans (ownerOf_congr (storage_touch_proxy j)).symm
  obtain ⟨k, hadvance⟩ := advance_execute target payload howner'
  rw [hadvance] at hreaches
  exact ⟨_, hreaches.tail (.call (.executes ..) ⟨if_pos rfl, rfl⟩)⟩

/-- The nominee can become the owner. -/
theorem reaches_accept (hsender : ¬ self.Mute sender) (hpending : sender = self.pendingOwner j)
    (hne : data ≠ []) (hdecode : self.decode data = some .acceptOwnership) :
    ∃ j', Reaches self.platform ⟨j, none⟩ ⟨j', none⟩ ∧ self.owner j' = sender ∧
      self.pendingOwner j' = 0 := by
  have hreaches := reaches_advance hsender hne hdecode j
  rw [advance_acceptOwnership (hpending.trans (pendingOwnerOf_congr (storage_touch_proxy j)).symm)]
    at hreaches
  refine ⟨_, hreaches.tail (.ret (.returns ..)), ?_, ?_⟩
  · rw [owner, ownerOf_sstore_pendingOwnerSlot, ownerOf_sstore_ownerSlot]
  · exact pendingOwnerOf_sstore_pendingOwnerSlot ..

/-! A proxy that `0xA1` owns. -/

/-- A proxy that is the admin of the precompile, with the decoders of Solidity. -/
def deployed : Governance where
  proxy := 0xAD
  mint := ⟨0xAD⟩
  decode := AdminProxyCall.solDecode
  abiDecode := INativeTokenCalls.solDecode
  proxy_ne_zero := by decide
  proxy_ne_mint := by decide

/-- A world with an owner of the proxy and without a nominee. -/
def ownedWorld (owner : Address) : Journal :=
  Journal.empty.sstore deployed.proxy ownerSlot (owner.setWidth 256)

/-- Calldata of `addToAllowList` for `0xC0`. -/
def additionData : Bytes := [0x31, 0xf5, 0x91, 0x02] ++ Abi.word 0xC0

/-- Calldata of `execute` for it. -/
def executionData : Bytes :=
  [0x1c, 0xff, 0x79, 0xcd] ++ Abi.word 0xF100 ++ Abi.word 64 ++ Abi.bytesTail additionData

theorem executionData_ne_nil : executionData ≠ [] := List.cons_ne_nil _ _

/-- The calldata of the example asks the proxy to add an account to the allowlist. -/
theorem solDecode_executionData :
    AdminProxyCall.solDecode executionData = some (.execute mintPrecompileAddr additionData) := by
  decide +kernel

theorem owner_ownedWorld (owner : Address) : deployed.owner (ownedWorld owner) = owner :=
  ownerOf_sstore_ownerSlot owner

/-- Nobody is nominated in the first world. -/
theorem pendingOwner_ownedWorld (owner : Address) :
    deployed.pendingOwner (ownedWorld owner) = 0 := by
  rw [pendingOwner, pendingOwnerOf, ownedWorld, Journal.storage_sstore,
    if_neg fun h => absurd h.2 (by decide)]
  rfl

theorem not_mute_firstOwner : ¬ deployed.Mute 0xA1 := by
  simp only [Mute]
  decide

/-- The owner has the precompile called. -/
theorem reaches_addition :
    ∃ k, Reaches deployed.platform ⟨ownedWorld 0xA1, none⟩
      ⟨((ownedWorld 0xA1).touch deployed.proxy).touch mintPrecompileAddr,
        some (⟨⟨deployed.proxy, mintPrecompileAddr, 0, additionData⟩,
          (ownedWorld 0xA1).touch deployed.proxy, .precompile none⟩,
          [⟨⟨0xA1, deployed.proxy, 0, executionData⟩, ownedWorld 0xA1, k⟩])⟩ :=
  reaches_execute not_mute_firstOwner (owner_ownedWorld 0xA1).symm executionData_ne_nil
    solDecode_executionData

/-! ## For the owner -/

variable (self) in
/-- A call that is made for the owner of the proxy: one that the owner has requested, or a
`DELEGATECALL` of the precompile by a contract that was called so. -/
inductive ForOwner : Message → List (Caller Journal Message Bytes Code) → Prop where
  | requested {m : Message} {c : Caller Journal Message Bytes Code}
      {cs : List (Caller Journal Message Bytes Code)} {calls : List Outgoing}
      (hsender : m.sender = self.proxy)
      (h : self.Requested c.msg c.saved (⟨m.target, m.value, m.data⟩ :: calls)) :
      ForOwner m (c :: cs)
  | delegated {m : Message} {c : Caller Journal Message Bytes Code}
      {cs : List (Caller Journal Message Bytes Code)} (hforeign : c.msg.target ≠ self.proxy)
      (hsender : m.sender = c.msg.sender) (htarget : m.target = mintPrecompileAddr)
      (h : ForOwner c.msg cs) : ForOwner m (c :: cs)

variable {w₀ : Journal} {c : Config Journal Message Bytes Code} {f : Frame Journal Message Code}
  {cs : List (Caller Journal Message Bytes Code)}

/-- Every call in the name of the proxy is made for its owner. -/
theorem forOwner_of_traced (h : Traced self.platform self.Asks m cs)
    (hsender : m.sender = self.proxy) :
    self.ForOwner m cs := by
  -- along the open calls, from the innermost one to the transaction
  induction cs generalizing m with
  | nil =>
    -- the proxy sends no transaction
    exact absurd hsender h.2.1
  | cons c cs ih =>
    obtain ⟨hasks, htraced⟩ := h
    cases hasks with
    | requested _ hrequested => exact .requested hsender hrequested
    | own hforeign _ _ hown => exact absurd (hown.symm.trans hsender) hforeign
    | delegated hforeign hdelegated htarget =>
      exact .delegated hforeign hdelegated htarget (ih htraced (hdelegated.symm.trans hsender))

/-- A frame keeps to what it holds in every run. -/
theorem sound_platform : Sound self.platform (fun _ => True) (fun m => m.sender ≠ 0) self.Asks
    self.Holds where
  idle _ _ _ _ := trivial
  sends m h := h.1
  enter j m j' code _ _ h := ⟨trivial, holds_of_enter h⟩
  work m s code j j' code' _ _ _ hholds h := ⟨trivial, holds_of_work hholds h⟩
  call m s code j m' k _ _ hgood hholds h := by
    obtain ⟨hasks, hresume⟩ := asks_of_call hholds h
    refine ⟨?_, hasks, fun r j' _ => hresume r j'⟩
    cases hasks with
    | requested hsender _ =>
      rw [hsender]
      exact self.proxy_ne_zero
    | own _ hcode _ hsender =>
      rw [hsender]
      exact hcode
    | delegated _ hsender _ =>
      rw [hsender]
      exact hgood

/-- In every run, the frames are in order. -/
theorem running_of_reaches (h : Reaches self.platform ⟨w₀, none⟩ ⟨j, some (f, cs)⟩) :
    f.msg.sender ≠ 0 ∧ self.Holds f.msg f.saved f.code j ∧
      Traced self.platform self.Asks f.msg cs := by
  obtain ⟨-, hrunning⟩ := sound_platform.safe_of_reaches (safe_idle trivial) h
  obtain ⟨⟨-, hgood, hholds, -⟩, htraced⟩ := hrunning f cs rfl
  exact ⟨hgood, hholds, htraced⟩

/-- Every call in the name of the proxy, whatever calls back meanwhile, is one that the owner of the
time has asked for, or one of the precompile on behalf of such a call. -/
theorem calls_for_owner (h : Reaches self.platform ⟨w₀, none⟩ ⟨j, some (f, cs)⟩)
    (hsender : f.msg.sender = self.proxy) :
    self.ForOwner f.msg cs :=
  forOwner_of_traced (running_of_reaches h).2.2 hsender

/-- The owner's addition to the allowlist is made for it. -/
theorem calls_for_owner_addition :
    ∃ k, deployed.ForOwner ⟨deployed.proxy, mintPrecompileAddr, 0, additionData⟩
      [⟨⟨0xA1, deployed.proxy, 0, executionData⟩, ownedWorld 0xA1, k⟩] := by
  obtain ⟨k, h⟩ := reaches_addition
  exact ⟨k, calls_for_owner h rfl⟩

/-! ## The ownership of the proxy -/

theorem handoverEvent_started (previous next : Address) :
    self.handoverEvent ((AdminProxyEvent.ownershipTransferStarted previous next).toLog self.proxy) =
      some (.nominated previous next) := by
  refine (if_pos rfl).trans ((if_pos rfl).trans ?_)
  rw [setWidth_setWidth, setWidth_setWidth]

theorem handoverEvent_transferred (previous next : Address) :
    self.handoverEvent ((AdminProxyEvent.ownershipTransferred previous next).toLog self.proxy) =
      some (.accepted previous next) := by
  refine (if_pos rfl).trans ((if_neg (by decide)).trans ((if_pos rfl).trans ?_))
  rw [setWidth_setWidth, setWidth_setWidth]

/-- A logged step makes the history longer. -/
theorem history_emitLog {event : AdminProxyEvent} {step : HandoverEvent Address}
    (h : self.handoverEvent (event.toLog self.proxy) = some step) :
    self.history (emitLog self.proxy j event) = self.history j ++ [step] := by
  rw [history, history, emitLog, List.filterMap_append]
  exact congrArg _ (by rw [List.filterMap_cons, h, List.filterMap_nil])

variable (self) in
/-- The logs are a history of the handover, from an owner to the present one. Whoever may accept was
nominated last. -/
def Custody (first : Address) (j : Journal) : Prop :=
  ∃ h, Handover.replay ⟨first, none⟩ (self.history j) = some h ∧ h.owner = self.owner j ∧
    (self.pendingOwner j = 0 ∨ h.nominee = some (self.pendingOwner j))

variable {first : Address}

/-- Where the proxy is as it was, the history still leads to its owner. -/
theorem Custody.of_unmoved (hcustody : self.Custody first j) (h : self.Unmoved j j') :
    self.Custody first j' := by
  obtain ⟨handover, hreplay, howner, hpending⟩ := hcustody
  refine ⟨handover, ?_, ?_, ?_⟩
  · rw [h.history]
    exact hreplay
  · rw [owner, ownerOf_congr h.storage]
    exact howner
  · rw [pendingOwner, pendingOwnerOf_congr h.storage]
    exact hpending

/-- A step of the handover is one in its history, or it takes a nomination back. -/
theorem Custody.of_hands {sender : Address} (hcustody : self.Custody first j)
    (h : Hands self.proxy sender j j') (hsender : sender ≠ 0) : self.Custody first j' := by
  obtain ⟨handover, hreplay, howner, hpending⟩ := hcustody
  cases h with
  | @nominates newOwner _ _ =>
    -- a nomination takes the place of an earlier one
    refine ⟨⟨self.owner j, some newOwner⟩, ?_, ?_, .inr ?_⟩
    · rw [history_emitLog (handoverEvent_started ..)]
      refine Handover.replay_concat_iff.mpr ⟨handover, hreplay, ?_⟩
      rw [Handover.apply, howner]
      exact if_pos rfl
    · exact (ownerOf_sstore_pendingOwnerSlot ..).symm
    · rw [pendingOwner, pendingOwnerOf_emitLog, pendingOwnerOf_sstore_pendingOwnerSlot,
        setWidth_setWidth]
  | accepts haccepts =>
    refine ⟨⟨sender, none⟩, ?_, ?_, .inl ?_⟩
    · -- the zero address does not send, so that the pending owner is the nominee
      have hnominee : handover.nominee = some sender := by
        rcases hpending with hzero | hnominee
        · exact absurd (haccepts.trans hzero) hsender
        · rw [hnominee, pendingOwner, ← haccepts]
      have hevent : self.history (emitLog self.proxy j _) = self.history j ++ [_] :=
        history_emitLog (handoverEvent_transferred (ownerOf self.proxy j) sender)
      refine (congrArg _ hevent).trans ?_
      refine Handover.replay_concat_iff.mpr ⟨handover, hreplay, if_pos ⟨?_, hnominee⟩⟩
      exact howner.symm
    · rw [owner, ownerOf_sstore_pendingOwnerSlot, ownerOf_sstore_ownerSlot]
    · exact pendingOwnerOf_sstore_pendingOwnerSlot ..
  | cancels _ =>
    -- it is not logged, so that the history still has a nominee
    refine ⟨handover, hreplay, ?_, .inl ?_⟩
    · exact howner.trans (ownerOf_sstore_pendingOwnerSlot ..).symm
    · exact pendingOwnerOf_sstore_pendingOwnerSlot ..

/-- What happens between transactions does not concern the proxy. -/
theorem unmoved_of_idle (h : self.Idle j j') : self.Unmoved j j' where
  storage := h.storage
  history := by
    obtain ⟨logs, hlogs, heq⟩ := h.logs
    exact history_append heq fun log hmem => handoverEvent_of_ne (hlogs log hmem)

/-- Whatever a frame does, the history leads to the owner that the proxy then has. -/
theorem Custody.of_worked (hcustody : self.Custody first j) (h : self.Worked m j j')
    (hsender : m.sender ≠ 0) : self.Custody first j' := by
  cases h with
  | aside _ hunmoved _ => exact hcustody.of_unmoved hunmoved
  | hands _ h => exact hcustody.of_hands h hsender
  | mints _ hunmoved _ _ => exact hcustody.of_unmoved hunmoved

/-- What a frame works in a run, it works for the message that it was entered with. -/
theorem worked_of_reaches (h : Reaches self.platform ⟨w₀, none⟩ ⟨j, some (f, cs)⟩)
    (hact : self.Acts f.msg f.code j (.work j' code')) :
    f.msg.sender ≠ 0 ∧ self.Worked f.msg j j' := by
  obtain ⟨hsender, hholds, -⟩ := running_of_reaches h
  exact ⟨hsender, worked hholds hact⟩

/-- In every run, in each of its worlds, the logs of the proxy are a history of the handover from
the first owner to the present one. Whoever may accept was nominated last, and each new owner was
nominated by the one before it, just before it accepted. -/
theorem ownership_follows_log (hpending : self.pendingOwner w₀ = 0)
    (hhistory : self.history w₀ = []) (h : Reaches self.platform ⟨w₀, none⟩ c) :
    c.Worlds fun j =>
      (∃ handover, Handover.replay ⟨self.owner w₀, none⟩ (self.history j) = some handover ∧
        handover.owner = self.owner j ∧
        (self.pendingOwner j = 0 ∨ handover.nominee = some (self.pendingOwner j))) ∧
      ∀ before previous next after, self.history j = before ++ .accepted previous next :: after →
        ∃ first, before = first ++ [.nominated previous next] := by
  have hinit : self.Custody (self.owner w₀) w₀ :=
    ⟨⟨self.owner w₀, none⟩, by rw [hhistory]; rfl, rfl, .inl hpending⟩
  -- a failed call brings a world back in which the logs are such a history, too
  have hworlds : c.Worlds (self.Custody (self.owner w₀)) := by
    refine h.worlds hinit (fun j j' hcustody hidle => hcustody.of_unmoved (unmoved_of_idle hidle))
      (fun j m j' code hcustody henter => hcustody.of_unmoved (unmoved_of_enter henter)) ?_
    intro f cs j j' code' hreaches hcustody hact
    obtain ⟨hsender, hworked⟩ := worked_of_reaches hreaches hact
    exact hcustody.of_worked hworked hsender
  refine hworlds.mono fun j hcustody => ⟨hcustody, fun before previous next after hsplit => ?_⟩
  obtain ⟨handover, hreplay, -⟩ := hcustody
  rw [hsplit] at hreplay
  exact Handover.nominated_of_accepted hreplay rfl

/-- After a nomination, the history is one of the handover. -/
theorem ownership_follows_log_nomination :
    ∃ c, Reaches deployed.platform ⟨ownedWorld 0xA1, none⟩ c ∧
      deployed.history c.world = [.nominated 0xA1 0xB2] ∧
      ∃ handover, Handover.replay ⟨0xA1, none⟩ (deployed.history c.world) = some handover ∧
        handover.owner = deployed.owner c.world ∧
        (deployed.pendingOwner c.world = 0 ∨
          handover.nominee = some (deployed.pendingOwner c.world)) := by
  have hreaches := reaches_advance not_mute_firstOwner (transferOwnershipData_ne_nil 0xB2)
    (solDecode_transferOwnershipData 0xB2) (ownedWorld 0xA1)
  have howner : 0xA1 = ownerOf deployed.proxy ((ownedWorld 0xA1).touch deployed.proxy) :=
    (owner_ownedWorld 0xA1).symm.trans (ownerOf_congr (storage_touch_proxy _)).symm
  refine ⟨_, hreaches, ?_, ?_⟩
  · rw [advance_transferOwnership howner (by decide), ← howner]
    exact history_emitLog (handoverEvent_started _ _)
  · have h := (ownership_follows_log (pendingOwner_ownedWorld 0xA1) rfl hreaches).world.1
    rwa [owner_ownedWorld] at h

/-! ## The allowlist and the balances -/

variable (self) in
/-- In a step the precompile puts an account on the allowlist, as it was asked to do for the owner
of the proxy. -/
def AddsForOwner (a : Address) (x x' : Config Journal Message Bytes Code) : Prop :=
  allowed x.world a = false ∧ allowed x'.world a = true ∧
    ∃ f cs, x.running = some (f, cs) ∧ f.msg.target = mintPrecompileAddr ∧
      f.msg.sender = self.proxy ∧ self.abiDecode f.msg.data = .ok (.addToAllowList a) ∧
      self.ForOwner f.msg cs

/-- Only `addToAllowList` puts an account on the allowlist. -/
theorem addToAllowList_of_edit {op : INativeTokenCalls} {a : Address}
    (h : op.edit a = some true) : op = .addToAllowList a := by
  cases op with
  | addToAllowList account =>
    rw [INativeTokenCalls.edit, Option.ite_none_right_eq_some] at h
    rw [h.1]
  | removeFromAllowList account =>
    rw [INativeTokenCalls.edit, Option.ite_none_right_eq_some] at h
    cases h.2
  | mint | burn | allowlist => cases h

/-- An account on the allowlist was there at first, or it was put there for the owner. -/
theorem allowed_or_adds (hadmin : self.mint.admin = self.proxy)
    (h : Reaches self.platform ⟨w₀, none⟩ c) (a : Address) (hallowed : allowed c.world a = true) :
    allowed w₀ a = true ∨
      ∃ x x', Reaches self.platform ⟨w₀, none⟩ x ∧ Step self.platform x x' ∧
        self.AddsForOwner a x x' ∧ Reaches self.platform x' c := by
  refine or_iff_not_imp_left.mpr fun hinit => ?_
  -- the account is not allowlisted in any world before the first addition
  refine (h.worlds_or (self.AddsForOwner a) (Q := fun j => ¬ allowed j a = true) hinit
    (fun j j' hj hidle hj' => hj (hidle.allowed a hj')) ?_ ?_).resolve_left
      fun hworlds => hworlds.world hallowed
  · intro j m j' code hj henter
    rwa [allowed_congr (storage_of_enter henter mintPrecompileAddr)]
  · intro f cs j j' code' hreaches hj hact
    obtain ⟨-, hholds, htraced⟩ := running_of_reaches hreaches
    cases worked hholds hact with
    | aside _ _ hallowed => exact .inl (by rwa [hallowed])
    | hands _ h =>
      refine .inl ?_
      rwa [allowed_congr (h.storage_of_ne self.proxy_ne_mint.symm)]
    | @mints htarget _ op hdecode happly =>
      have hallowed' : allowed j' a = (op.edit a).getD (allowed j a) :=
        Ledger.allowed_apply happly a
      by_cases hedit : op.edit a = some true
      · -- only the admin, which is the proxy, edits the allowlist
        have hsender := (Ledger.admin_of_edit happly hedit).trans hadmin
        rw [hedit] at hallowed'
        refine .inr ⟨Bool.eq_false_of_not_eq_true hj, hallowed', f, cs, rfl, htarget, hsender, ?_,
          forOwner_of_traced htraced hsender⟩
        rw [hdecode, addToAllowList_of_edit hedit]
      · refine .inl fun hj' => ?_
        rw [hallowed'] at hj'
        cases hop : op.edit a with
        | none =>
          rw [hop] at hj'
          exact hj hj'
        | some b =>
          rw [hop] at hj'
          exact hedit (hop.trans (congrArg some hj'))

/-- The precompile changes the allowlist for the owner of the proxy, and a balance for the owner or
for an account that was allowlisted at first or was added for the owner before. -/
theorem governed_by_owner (hadmin : self.mint.admin = self.proxy)
    (h : Reaches self.platform ⟨w₀, none⟩ ⟨j, some (f, cs)⟩)
    (htarget : f.msg.target = mintPrecompileAddr)
    (hact : self.Acts f.msg f.code j (.work j' code')) :
    (∀ a, allowed j' a ≠ allowed j a → self.ForOwner f.msg cs) ∧
      ∀ a, j'.balance a ≠ j.balance a → self.ForOwner f.msg cs ∨
        allowed w₀ f.msg.sender = true ∨
          ∃ x x', Reaches self.platform ⟨w₀, none⟩ x ∧ Step self.platform x x' ∧
            self.AddsForOwner f.msg.sender x x' ∧
            Reaches self.platform x' ⟨j, some (f, cs)⟩ := by
  obtain ⟨-, hholds, htraced⟩ := running_of_reaches h
  have hforOwner : f.msg.sender = self.mint.admin → self.ForOwner f.msg cs := fun hsender =>
    forOwner_of_traced htraced (hsender.trans hadmin)
  cases worked hholds hact with
  -- the code of the precompile runs in this frame
  | aside hne => exact absurd htarget hne
  | hands hproxy => exact absurd (hproxy.symm.trans htarget) self.proxy_ne_mint
  | mints _ _ _ happly =>
    have hpermits := Ledger.permits_of_apply happly
    refine ⟨fun a hedit => hforOwner (Ledger.admin_of_allowed_ne happly hpermits hedit),
      fun a hmove => ?_⟩
    rcases Ledger.authorized_of_balance_ne happly hpermits hmove with hadmin' | hallowed
    · exact .inl (hforOwner hadmin')
    · exact .inr (allowed_or_adds hadmin h _ hallowed)

/-- The precompile adds an account for the owner. -/
theorem governed_by_owner_addition :
    ∃ j j' k, allowed j 0xC0 = false ∧ allowed j' 0xC0 = true ∧
      deployed.ForOwner ⟨deployed.proxy, mintPrecompileAddr, 0, additionData⟩
        [⟨⟨0xA1, deployed.proxy, 0, executionData⟩, ownedWorld 0xA1, k⟩] := by
  obtain ⟨k, h⟩ := reaches_addition
  let j := ((ownedWorld 0xA1).touch deployed.proxy).touch mintPrecompileAddr
  let m : Message := ⟨deployed.proxy, mintPrecompileAddr, 0, additionData⟩
  obtain ⟨out, hout, hsuccess⟩ : ∃ out, (deployed.mint.call deployed.abiDecode
      (m.direct.input j)).1 = .ok out ∧ out.status = .success := ⟨_, rfl, rfl⟩
  have hact : deployed.Acts m (.precompile none) j (.work _ (.precompile (some out.bytes))) :=
    .mints (Prod.ext hout rfl) hsuccess
  have hbefore : allowed j 0xC0 = false := by decide
  have hafter :
      allowed (deployed.mint.call deployed.abiDecode (m.direct.input j)).2 0xC0 = true := by
    decide
  exact ⟨_, _, k, hbefore, hafter, (governed_by_owner rfl h rfl hact).1 0xC0
    (by rw [hbefore, hafter]; decide)⟩

/-! ## Losing the proxy -/

variable (self) in
/-- No account that makes calls owns the proxy or may accept it. -/
def Locked (j : Journal) : Prop := self.Mute (self.owner j) ∧ self.Mute (self.pendingOwner j)

variable (self) in
/-- The storage of the proxy is as in another journal. -/
def Frozen (j₀ j : Journal) : Prop := ∀ k, j.storage self.proxy k = j₀.storage self.proxy k

/-- A locked proxy is not handed over: whoever calls it is neither its owner nor its nominee. -/
theorem Locked.not_hands {sender : Address} (hlocked : self.Locked w₀) (hfrozen : self.Frozen w₀ j)
    (hsender : ¬ self.Mute sender) (h : Hands self.proxy sender j j') : False := by
  have howner : ¬ sender = ownerOf self.proxy j := by
    rw [ownerOf_congr hfrozen]
    rintro rfl
    exact hsender hlocked.1
  cases h with
  | nominates h _ => exact howner h
  | accepts h =>
    rw [pendingOwnerOf_congr hfrozen] at h
    exact hsender (h ▸ hlocked.2)
  | cancels h => exact howner h

/-- Nothing in a locked proxy changes, and no call is made in its name. -/
theorem Locked.sound (hlocked : self.Locked w₀) :
    Sound self.platform (self.Frozen w₀) (fun m => ¬ self.Mute m.sender) self.Asks self.Holds where
  idle j j' hj h k := (h.storage k).trans (hj k)
  sends m h hmute := by
    obtain ⟨hzero, hproxy, hmint⟩ := h
    rcases hmute with hmute | hmute | hmute
    · exact hzero hmute
    · exact hproxy hmute
    · exact hmint hmute
  enter j m j' code hj _ h :=
    ⟨fun k => (storage_of_enter h self.proxy k).trans (hj k), holds_of_enter h⟩
  work m s code j j' code' _ hj hgood hholds h := by
    refine ⟨?_, holds_of_work hholds h⟩
    cases worked hholds h with
    | aside _ hunmoved _ => exact fun k => (hunmoved.storage k).trans (hj k)
    | hands _ hhands => exact (hlocked.not_hands hj hgood hhands).elim
    | mints _ hunmoved _ _ => exact fun k => (hunmoved.storage k).trans (hj k)
  call m s code j m' k hs _ hgood hholds h := by
    obtain ⟨hasks, hresume⟩ := asks_of_call hholds h
    refine ⟨?_, hasks, fun r j' _ => hresume r j'⟩
    cases hasks with
    | requested _ hrequested =>
      -- only the owner requests calls, and it makes none
      obtain ⟨-, howner, -⟩ := hrequested
      rw [howner, owner, ownerOf_congr hs] at hgood
      exact absurd hlocked.1 hgood
    | own hforeign hcode hmint hsender =>
      rw [hsender]
      rintro (hmute | hmute | hmute)
      · exact hcode hmute
      · exact hforeign hmute
      · exact hmint hmute
    | delegated _ hsender _ =>
      rw [hsender]
      exact hgood

/-- The decoder reads the calls by which the proxy is used and handed over. -/
structure Speaks (g : Governance) : Prop where
  transferOwnership : ∀ newOwner, ∃ data ≠ [], g.decode data = some (.transferOwnership newOwner)
  acceptOwnership : ∃ data ≠ [], g.decode data = some .acceptOwnership
  execute : ∃ data ≠ [], ∃ target payload, g.decode data = some (.execute target payload)

/-- The owner can change whom it has nominated. -/
theorem reaches_nomination (hspeaks : self.Speaks) (howner : ¬ self.Mute (self.owner j)) :
    ∃ c, Reaches self.platform ⟨j, none⟩ c ∧ self.pendingOwner c.world ≠ self.pendingOwner j := by
  obtain ⟨newOwner, hzero, hother⟩ : ∃ newOwner : Address, newOwner ≠ 0 ∧
      newOwner ≠ self.pendingOwner j := by
    by_cases hone : self.pendingOwner j = 1
    · exact ⟨2, by decide, by rw [hone]; decide⟩
    · exact ⟨1, by decide, fun h => hone h.symm⟩
  obtain ⟨data, hne, hdecode⟩ := hspeaks.transferOwnership newOwner
  have hreaches := reaches_advance howner hne hdecode j
  have howner' : self.owner j = ownerOf self.proxy (j.touch self.proxy) :=
    (ownerOf_congr (storage_touch_proxy j)).symm
  rw [advance_transferOwnership howner' hzero] at hreaches
  refine ⟨_, hreaches, ?_⟩
  rwa [pendingOwner, pendingOwnerOf_emitLog, pendingOwnerOf_sstore_pendingOwnerSlot,
    setWidth_setWidth]

/-- The proxy is locked exactly if its storage never changes again, and exactly if it never calls
again. -/
theorem locked_iff (hspeaks : self.Speaks) (w₀ : Journal) :
    (self.Locked w₀ ↔
      ∀ c, Reaches self.platform ⟨w₀, none⟩ c → c.Worlds (self.Frozen w₀)) ∧
    (self.Locked w₀ ↔
      ∀ c f cs, Reaches self.platform ⟨w₀, none⟩ c → c.running = some (f, cs) →
        f.msg.sender ≠ self.proxy) := by
  have hsafe : self.Locked w₀ → ∀ c, Reaches self.platform ⟨w₀, none⟩ c → Safe self.platform
      (self.Frozen w₀) (fun m => ¬ self.Mute m.sender) self.Asks self.Holds c := fun hlocked c h =>
    hlocked.sound.safe_of_reaches (safe_idle fun _ => rfl) h
  -- against a proxy that is not locked there is a run in which its owner or its nominee acts
  obtain ⟨acceptance, hne, haccept⟩ := hspeaks.acceptOwnership
  refine ⟨⟨fun hlocked c h => (hsafe hlocked c h).worlds, fun hfrozen => ⟨?_, ?_⟩⟩,
    ⟨fun hlocked c f cs h hrunning hsender => ?_, fun hsilent => ?_⟩⟩
  · by_contra howner
    obtain ⟨c, h, hchanged⟩ := reaches_nomination hspeaks howner
    exact hchanged (pendingOwnerOf_congr (hfrozen c h).world)
  · by_contra hpending
    obtain ⟨j', h, -, hnone⟩ := reaches_accept hpending rfl hne haccept
    have hsame : self.pendingOwner j' = self.pendingOwner w₀ :=
      pendingOwnerOf_congr (hfrozen _ h).world
    exact hpending (.inl (hsame.symm.trans hnone))
  · obtain ⟨hrunning, -⟩ := (hsafe hlocked c h).running f cs hrunning
    exact hrunning.good (.inr (.inl hsender))
  · -- whoever owns the proxy could have it call
    obtain ⟨data, hdata, target, payload, hexecute⟩ := hspeaks.execute
    have hmute : ∀ j, Reaches self.platform ⟨w₀, none⟩ ⟨j, none⟩ → self.Mute (self.owner j) := by
      intro j hreaches
      by_contra howner
      obtain ⟨k, h⟩ := reaches_execute howner rfl hdata hexecute
      exact hsilent _ _ _ (hreaches.trans h) rfl rfl
    refine ⟨hmute w₀ .refl, ?_⟩
    by_contra hpending
    obtain ⟨j', h, howner, -⟩ := reaches_accept hpending rfl hne haccept
    exact hpending (howner ▸ hmute j' h)

/-- The decoder of the deployed proxy reads all of its calls. -/
theorem speaks_deployed : deployed.Speaks where
  transferOwnership newOwner := ⟨transferOwnershipData newOwner,
    transferOwnershipData_ne_nil newOwner, solDecode_transferOwnershipData newOwner⟩
  acceptOwnership := ⟨[0x79, 0xba, 0x50, 0x97], List.cons_ne_nil _ _, by decide⟩
  execute := ⟨executionData, executionData_ne_nil, _, _, solDecode_executionData⟩

/-- A proxy that owns itself is locked. -/
theorem locked_iff_selfOwned :
    deployed.Locked (ownedWorld deployed.proxy) ∧
      ∀ c, Reaches deployed.platform ⟨ownedWorld deployed.proxy, none⟩ c →
        c.Worlds (deployed.Frozen (ownedWorld deployed.proxy)) := by
  have hlocked : deployed.Locked (ownedWorld deployed.proxy) :=
    ⟨.inr (.inl (owner_ownedWorld _)), .inl (pendingOwner_ownedWorld _)⟩
  exact ⟨hlocked, (locked_iff speaks_deployed _).1.mp hlocked⟩

end Governance

end EvReth.Contracts
