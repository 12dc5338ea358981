import EvReth.Foundations.StateExcept
import EvReth.Primitives.Basic

/-!
# The fee vault

`FeeVault` (`contracts/src/FeeVault.sol`) collects fees and distributes them to two recipients. A
recipient runs code when it receives its share, and this code may do anything: call the vault again,
also in the name of its owner, send it ether, or fail.

* `FeeVault.distribute` takes what the code of the two recipients does as parameters.
* `Script` describes what code does to the vault, calls within calls included; `Script.exec` runs
  it. A call that fails leaves the vault as it was.
* The amounts of `distribute` are fixed before the first transfer. Whatever the code of the
  recipients does, `distribute` succeeds only if nothing else has left the vault, because what comes
  in and what goes out add up (`FeeVault.Follows`).
-/

namespace EvReth.Contracts

/-! ## The state -/

/-- The events of the vault. -/
inductive VaultEvent where
  | fundsDistributed (total bridgeAmount otherAmount : U256)
  | ownershipTransferred (previousOwner newOwner : Address)
  | bridgeRecipientUpdated (bridgeRecipient : Address)
  | minimumAmountUpdated (minimumAmount : U256)
  | callFeeUpdated (callFee : U256)
  | bridgeShareUpdated (bridgeShareBps : U256)
  | otherRecipientUpdated (otherRecipient : Address)
  deriving DecidableEq, Repr

/-- Which of the two shares is paid. -/
inductive Share where
  | other
  | bridge
  deriving DecidableEq, Repr

/-- A transfer of the vault. -/
structure Transfer where
  share : Share
  recipient : Address
  amount : U256
  deriving DecidableEq, Repr

/-- The storage of the vault with its balance and events, the transfers that it has made, and the
ether that has come in. -/
structure FeeVault where
  owner : Address
  bridgeRecipient : Address
  otherRecipient : Address
  minimumAmount : U256
  callFee : U256
  bridgeShareBps : U256
  balance : U256
  events : List VaultEvent
  sent : List Transfer
  received : ℕ
  deriving DecidableEq, Repr

/-- `require`. -/
def require (condition : Bool) (message : String) : Except String Unit :=
  if condition then .ok () else .error message

/-- Checked arithmetic of Solidity, which panics. -/
def checked (result : Option U256) : Except String U256 :=
  match result with
  | some value => .ok value
  | none => .error "Panic(0x11)"

namespace FeeVault

/-- `constructor`, at an address that may have a balance already. -/
def construct (owner : Address) (minimumAmount callFee bridgeShareBps : U256)
    (otherRecipient : Address) (balance : U256) : Except String FeeVault := do
  require (owner ≠ 0) "FeeVault: owner is the zero address"
  require (bridgeShareBps ≤ 10000) "FeeVault: invalid bps"
  return { owner
           bridgeRecipient := 0
           otherRecipient
           minimumAmount
           callFee
           bridgeShareBps := if bridgeShareBps = 0 then 10000 else bridgeShareBps
           balance
           events := [.ownershipTransferred 0 owner]
           sent := []
           received := 0 }

/-- `emit`. -/
def emit (self : FeeVault) (event : VaultEvent) : FeeVault :=
  { self with events := self.events ++ [event] }

/-- Ether comes in: `receive`, and the value of a call. -/
def enter (self : FeeVault) (value : U256) : Except String FeeVault :=
  match self.balance.checkedAdd value with
  | some balance => .ok { self with balance, received := self.received + value.toNat }
  | none => .error "OverflowPayment"

/-! ## `distribute` -/

/-- The two shares of a balance. -/
structure Split where
  bridgeAmount : U256
  otherAmount : U256
  deriving DecidableEq, Repr

/-- `distribute` up to the first transfer: the vault with the value of the call, and the shares. -/
def prepare (self : FeeVault) (value : U256) : Except String (FeeVault × Split) := do
  let self ← self.enter value
  require (self.bridgeRecipient ≠ 0) "FeeVault: bridge recipient not set"
  require (self.callFee ≤ value) "FeeVault: insufficient fee"
  let currentBalance := self.balance
  let product ← checked (currentBalance.checkedMul self.bridgeShareBps)
  let bridgeAmount := product / 10000
  let otherAmount ← checked (currentBalance.checkedSub bridgeAmount)
  require (self.minimumAmount ≤ bridgeAmount) "FeeVault: minimum amount not met"
  return (self.emit (.fundsDistributed currentBalance bridgeAmount otherAmount),
    { bridgeAmount, otherAmount })

/-- The vault as the code of a recipient finds it: the amount has left. -/
def debit (self : FeeVault) (share : Share) (recipient : Address) (amount : U256) :
    Except String FeeVault :=
  match self.balance.checkedSub amount with
  | some balance => .ok { self with balance, sent := self.sent ++ [⟨share, recipient, amount⟩] }
  | none => .error "OutOfFunds"

/-- `recipient.call` with a value, from the vault at `address`. The code of a recipient runs; the
vault itself takes the amount with its `receive`. -/
def transfer (self : FeeVault) (address : Address) (share : Share) (recipient : Address)
    (amount : U256) (code : FeeVault → Except String FeeVault) : Except String FeeVault := do
  let self ← self.debit share recipient amount
  if recipient = address then self.enter amount else code self

/-- The transfer to the other recipient, if any. -/
def payOther (self : FeeVault) (address : Address) (otherAmount : U256)
    (code : FeeVault → Except String FeeVault) : Except String FeeVault := do
  if 0 < otherAmount then
    require (self.otherRecipient ≠ 0) "FeeVault: other recipient not set"
    (self.transfer address .other self.otherRecipient otherAmount code).mapError
      fun _ => "FeeVault: transfer failed"
  else return self

/-- The transfer to the bridge recipient. -/
def payBridge (self : FeeVault) (address : Address) (bridgeAmount : U256)
    (code : FeeVault → Except String FeeVault) : Except String FeeVault :=
  (self.transfer address .bridge self.bridgeRecipient bridgeAmount code).mapError
    fun _ => "FeeVault: bridge transfer failed"

/-- `distribute`, called with a value, when the recipients run the given code. -/
def distribute (self : FeeVault) (address : Address) (value : U256)
    (otherCode bridgeCode : FeeVault → Except String FeeVault) : Except String FeeVault := do
  let (self, split) ← self.prepare value
  let self ← self.payOther address split.otherAmount otherCode
  -- the bridge recipient is read again
  self.payBridge address split.bridgeAmount bridgeCode

end FeeVault

/-! ## The owner's functions -/

/-- A call of one of the owner's functions. -/
inductive Setter where
  | transferOwnership (newOwner : Address)
  | setBridgeRecipient (bridgeRecipient : Address)
  | setMinimumAmount (minimumAmount : U256)
  | setCallFee (callFee : U256)
  | setBridgeShare (bridgeShareBps : U256)
  | setOtherRecipient (otherRecipient : Address)
  deriving DecidableEq, Repr

/-- A function with the modifier `onlyOwner`. -/
def FeeVault.onlyOwner (self : FeeVault) (sender : Address)
    (body : Except String FeeVault) : Except String FeeVault := do
  require (sender = self.owner) "FeeVault: caller is not the owner"
  body

/-- The owner's functions. -/
def Setter.apply (setter : Setter) (sender : Address) (vault : FeeVault) :
    Except String FeeVault :=
  vault.onlyOwner sender <|
    match setter with
    | .transferOwnership newOwner => do
      require (newOwner ≠ 0) "FeeVault: new owner is the zero address"
      return { vault.emit (.ownershipTransferred vault.owner newOwner) with owner := newOwner }
    | .setBridgeRecipient bridgeRecipient => do
      require (bridgeRecipient ≠ 0) "FeeVault: zero address"
      return { vault with bridgeRecipient }.emit (.bridgeRecipientUpdated bridgeRecipient)
    -- these two are set without a check
    | .setMinimumAmount minimumAmount =>
      .ok ({ vault with minimumAmount }.emit (.minimumAmountUpdated minimumAmount))
    | .setCallFee callFee => .ok ({ vault with callFee }.emit (.callFeeUpdated callFee))
    | .setBridgeShare bridgeShareBps => do
      require (bridgeShareBps ≤ 10000) "FeeVault: invalid bps"
      return { vault with bridgeShareBps }.emit (.bridgeShareUpdated bridgeShareBps)
    | .setOtherRecipient otherRecipient => do
      require (otherRecipient ≠ 0) "FeeVault: zero address"
      return { vault with otherRecipient }.emit (.otherRecipientUpdated otherRecipient)

/-! ## Arbitrary code -/

/-- What code does to the vault, in order. -/
inductive Script where
  /-- It returns. -/
  | done
  /-- It fails. -/
  | revert
  /-- It calls one of the owner's functions, in the name of a sender. -/
  | setter (setter : Setter) (sender : Address) (rest : Script)
  /-- It sends ether. -/
  | deposit (value : U256) (rest : Script)
  /-- It calls `distribute`, which runs further code. -/
  | distribute (value : U256) (otherCode bridgeCode rest : Script)
  /-- It calls other code, which may fail on its own. -/
  | call (inner rest : Script)
  deriving DecidableEq, Repr

/-- The vault after a call: one that fails leaves it as it was. -/
def FeeVault.after (self : FeeVault) (result : Except String FeeVault) : FeeVault :=
  match result with
  | .ok vault => vault
  | .error _ => self

/-- A run of some code, for the vault at `address`. -/
def Script.exec (address : Address) : Script → FeeVault → Except String FeeVault
  | .done, vault => .ok vault
  | .revert, _ => .error "reverted"
  | .setter op sender rest, vault => rest.exec address (vault.after (op.apply sender vault))
  | .deposit value rest, vault => rest.exec address (vault.after (vault.enter value))
  | .distribute value otherCode bridgeCode rest, vault =>
    rest.exec address (vault.after
      (vault.distribute address value (otherCode.exec address) (bridgeCode.exec address)))
  | .call inner rest, vault => rest.exec address (vault.after (inner.exec address vault))

/-- The states of a vault at `address`: after its constructor, after any code, and within
`distribute`, when one of the recipients has been paid and its code starts. -/
inductive Reachable (address : Address) : FeeVault → Prop
  | constructed {owner otherRecipient : Address}
      {minimumAmount callFee bridgeShareBps balance : U256} {vault : FeeVault}
      (h : FeeVault.construct owner minimumAmount callFee bridgeShareBps otherRecipient balance =
        .ok vault) : Reachable address vault
  | ran {vault vault' : FeeVault} (script : Script) (h : Reachable address vault)
      (hrun : script.exec address vault = .ok vault') : Reachable address vault'
  | paidOther {vault entered vault' : FeeVault} {value : U256} {split : FeeVault.Split}
      (h : Reachable address vault) (hprepare : vault.prepare value = .ok (entered, split))
      (hdebit : entered.debit .other entered.otherRecipient split.otherAmount = .ok vault') :
      Reachable address vault'
  | paidBridge {vault entered between vault' : FeeVault} {value : U256} {split : FeeVault.Split}
      (otherCode : Script) (h : Reachable address vault)
      (hprepare : vault.prepare value = .ok (entered, split))
      (hother : entered.payOther address split.otherAmount (otherCode.exec address) = .ok between)
      (hdebit : between.debit .bridge between.bridgeRecipient split.bridgeAmount = .ok vault') :
      Reachable address vault'

/-! ## What comes in and what goes out -/

/-- The ether of some transfers. -/
def amounts (transfers : List Transfer) : ℕ := (transfers.map (·.amount.toNat)).sum

@[simp] theorem amounts_append (xs ys : List Transfer) :
    amounts (xs ++ ys) = amounts xs + amounts ys := by
  rw [amounts, List.map_append, List.sum_append, amounts, amounts]

namespace FeeVault

/-- A later state of the vault: further transfers, and a balance that accounts for them. The share
of the bridge stays within its bound. -/
structure Follows (earlier later : FeeVault) : Prop where
  sent : earlier.sent <+: later.sent
  received : earlier.received ≤ later.received
  conserved : later.balance.toNat + amounts later.sent + earlier.received =
    earlier.balance.toNat + amounts earlier.sent + later.received
  share : earlier.bridgeShareBps.toNat ≤ 10000 → later.bridgeShareBps.toNat ≤ 10000

theorem Follows.refl (vault : FeeVault) : vault.Follows vault :=
  ⟨List.prefix_rfl, le_rfl, rfl, id⟩

theorem Follows.trans {vault₁ vault₂ vault₃ : FeeVault} (h₁₂ : vault₁.Follows vault₂)
    (h₂₃ : vault₂.Follows vault₃) : vault₁.Follows vault₃ where
  sent := h₁₂.sent.trans h₂₃.sent
  received := h₁₂.received.trans h₂₃.received
  conserved := by
    have h := h₁₂.conserved
    have h' := h₂₃.conserved
    omega
  share := h₂₃.share ∘ h₁₂.share

/-- Code whose runs lead to later states. -/
def Accounted (code : FeeVault → Except String FeeVault) : Prop :=
  ∀ vault vault', code vault = .ok vault' → vault.Follows vault'

/-- The state after a call follows the one before it, whether it fails or not. -/
theorem follows_after {vault : FeeVault} {result : Except String FeeVault}
    (h : ∀ vault', result = .ok vault' → vault.Follows vault') :
    vault.Follows (vault.after result) := by
  cases result with
  | error e => exact .refl vault
  | ok vault' => exact h vault' rfl

/-- `require` passes exactly if its condition holds. -/
theorem require_eq_ok_iff {condition : Bool} {message : String} :
    require condition message = .ok () ↔ condition = true := by
  unfold require
  cases condition <;> simp

/-- What comes in is on the balance. -/
theorem enter_eq_ok {vault vault' : FeeVault} {value : U256} (h : vault.enter value = .ok vault') :
    ∃ balance : U256, balance.toNat = vault.balance.toNat + value.toNat ∧
      vault' = { vault with balance, received := vault.received + value.toNat } := by
  unfold enter at h
  cases hsum : vault.balance.checkedAdd value with
  | none =>
    rw [hsum] at h
    cases h
  | some balance =>
    rw [hsum] at h
    exact ⟨balance, BitVec.checkedAdd_eq_some_iff.mp hsum, (Except.ok.inj h).symm⟩

/-- To receive value leaves the books in order. -/
theorem follows_enter {vault vault' : FeeVault} {value : U256}
    (h : vault.enter value = .ok vault') : vault.Follows vault' := by
  obtain ⟨balance, hbalance, rfl⟩ := enter_eq_ok h
  exact ⟨List.prefix_rfl, by simp, by simp only; omega, id⟩

/-- What goes out was on the balance. -/
theorem debit_eq_ok {vault vault' : FeeVault} {share : Share} {recipient : Address} {amount : U256}
    (h : vault.debit share recipient amount = .ok vault') :
    ∃ balance : U256, balance.toNat + amount.toNat = vault.balance.toNat ∧
      vault' = { vault with balance, sent := vault.sent ++ [⟨share, recipient, amount⟩] } := by
  unfold debit at h
  cases hrest : vault.balance.checkedSub amount with
  | none =>
    rw [hrest] at h
    cases h
  | some balance =>
    rw [hrest] at h
    exact ⟨balance, BitVec.checkedSub_eq_some_iff.mp hrest, (Except.ok.inj h).symm⟩

/-- To pay leaves the books in order. -/
theorem follows_debit {vault vault' : FeeVault} {share : Share} {recipient : Address}
    {amount : U256} (h : vault.debit share recipient amount = .ok vault') :
    vault.Follows vault' := by
  obtain ⟨balance, hbalance, rfl⟩ := debit_eq_ok h
  refine ⟨List.prefix_append _ _, le_rfl, ?_, id⟩
  have hlast : amounts [(⟨share, recipient, amount⟩ : Transfer)] = amount.toNat := by
    simp [amounts]
  simp only [amounts_append, hlast]
  omega

/-- The shares of a call: the bridge's is rounded down, and the other one is the rest. -/
structure Prepared (vault : FeeVault) (value : U256) (entered : FeeVault) (split : Split) :
    Prop where
  balance : entered.balance.toNat = vault.balance.toNat + value.toNat
  received : entered.received = vault.received + value.toNat
  sent : entered.sent = vault.sent
  share : entered.bridgeShareBps = vault.bridgeShareBps
  otherRecipient : entered.otherRecipient = vault.otherRecipient
  bridgeAmount : split.bridgeAmount.toNat =
    entered.balance.toNat * vault.bridgeShareBps.toNat / 10000
  otherAmount : split.otherAmount.toNat + split.bridgeAmount.toNat = entered.balance.toNat

theorem checked_eq_ok_iff {result : Option U256} {value : U256} :
    checked result = .ok value ↔ result = some value := by
  unfold checked
  cases result <;> simp

/-- What `distribute` prepares is prepared as `Prepared` says. -/
theorem prepared_of_prepare {vault entered : FeeVault} {value : U256} {split : Split}
    (h : vault.prepare value = .ok (entered, split)) : vault.Prepared value entered split := by
  obtain ⟨vault₁, henter, h⟩ := Except.bind_eq_ok_iff.mp h
  obtain ⟨⟨⟩, -, h⟩ := Except.bind_eq_ok_iff.mp h
  obtain ⟨⟨⟩, -, h⟩ := Except.bind_eq_ok_iff.mp h
  obtain ⟨product, hproduct, h⟩ := Except.bind_eq_ok_iff.mp h
  obtain ⟨otherAmount, hother, h⟩ := Except.bind_eq_ok_iff.mp h
  obtain ⟨⟨⟩, -, h⟩ := Except.bind_eq_ok_iff.mp h
  obtain ⟨balance, hbalance, rfl⟩ := enter_eq_ok henter
  have hmul := BitVec.checkedMul_eq_some_iff.mp (checked_eq_ok_iff.mp hproduct)
  have hsub := BitVec.checkedSub_eq_some_iff.mp (checked_eq_ok_iff.mp hother)
  obtain ⟨rfl, rfl⟩ := Prod.mk.inj (Except.ok.inj h)
  refine ⟨hbalance, rfl, rfl, rfl, rfl, ?_, hsub⟩
  show (product / 10000).toNat = _
  rw [BitVec.toNat_udiv, hmul]
  rfl

/-- To prepare a distribution leaves the books in order. -/
theorem Prepared.follows {vault entered : FeeVault} {value : U256} {split : Split}
    (h : vault.Prepared value entered split) : vault.Follows entered where
  sent := by rw [h.sent]
  received := by
    rw [h.received]
    exact Nat.le_add_right _ _
  conserved := by
    rw [h.balance, h.received, h.sent]
    omega
  share := by
    rw [h.share]
    exact id

/-! ## What the code of the recipients can do -/

section Code

variable {vault vault' : FeeVault} {address : Address}
  {code otherCode bridgeCode : FeeVault → Except String FeeVault}

/-- A transfer is a debit, followed by what the recipient makes of it. -/
theorem follows_transfer {share : Share} {recipient : Address} {amount : U256}
    (hcode : Accounted code)
    (h : vault.transfer address share recipient amount code = .ok vault') :
    ∃ debited, vault.debit share recipient amount = .ok debited ∧ debited.Follows vault' := by
  obtain ⟨debited, hdebit, h⟩ := Except.bind_eq_ok_iff.mp h
  refine ⟨debited, hdebit, ?_⟩
  split_ifs at h
  · exact follows_enter h
  · exact hcode debited vault' h

/-- The bridge is debited once, whatever it does when it is paid. -/
theorem follows_payBridge {bridgeAmount : U256} (hcode : Accounted code)
    (h : vault.payBridge address bridgeAmount code = .ok vault') :
    ∃ debited, vault.debit .bridge vault.bridgeRecipient bridgeAmount = .ok debited ∧
      debited.Follows vault' :=
  follows_transfer hcode (Except.mapError_eq_ok_iff.mp h)

/-- The other recipient is debited once if there is anything to pay, whatever it does when it is
paid. -/
theorem follows_payOther {otherAmount : U256} (hcode : Accounted code)
    (h : vault.payOther address otherAmount code = .ok vault') :
    (otherAmount = 0 ∧ vault' = vault) ∨
      ∃ debited, vault.debit .other vault.otherRecipient otherAmount = .ok debited ∧
        debited.Follows vault' := by
  unfold payOther at h
  split_ifs at h with hpos
  · obtain ⟨⟨⟩, -, h⟩ := Except.bind_eq_ok_iff.mp h
    exact .inr (follows_transfer hcode (Except.mapError_eq_ok_iff.mp h))
  · refine .inl ⟨?_, (Except.ok.inj h).symm⟩
    simpa [BitVec.lt_def, BitVec.toNat_eq] using hpos

/-- To pay the other recipient leaves the books in order. -/
theorem payOther_follows {otherAmount : U256} (hcode : Accounted code)
    (h : vault.payOther address otherAmount code = .ok vault') : vault.Follows vault' := by
  rcases follows_payOther hcode h with ⟨-, rfl⟩ | ⟨debited, hdebit, hfollows⟩
  · exact .refl _
  · exact (follows_debit hdebit).trans hfollows

/-- `distribute` prepares, pays the other recipient, then the bridge. -/
theorem distribute_eq_ok_iff {value : U256} :
    vault.distribute address value otherCode bridgeCode = .ok vault' ↔
      ∃ entered split between, vault.prepare value = .ok (entered, split) ∧
        entered.payOther address split.otherAmount otherCode = .ok between ∧
        between.payBridge address split.bridgeAmount bridgeCode = .ok vault' := by
  rw [distribute, Except.bind_eq_ok_iff]
  constructor
  · rintro ⟨⟨entered, split⟩, hprepare, h⟩
    obtain ⟨between, hother, h⟩ := Except.bind_eq_ok_iff.mp h
    exact ⟨entered, split, between, hprepare, hother, h⟩
  · rintro ⟨entered, split, between, hprepare, hother, h⟩
    exact ⟨(entered, split), hprepare, Except.bind_eq_ok_iff.mpr ⟨between, hother, h⟩⟩

/-- A distribution leaves the books in order, whatever the recipients do. -/
theorem follows_distribute {value : U256} (hother : Accounted otherCode)
    (hbridge : Accounted bridgeCode)
    (h : vault.distribute address value otherCode bridgeCode = .ok vault') :
    vault.Follows vault' := by
  obtain ⟨entered, split, between, hprepare, hpaidOther, hpaidBridge⟩ :=
    distribute_eq_ok_iff.mp h
  obtain ⟨debited, hdebit, hfollows⟩ := follows_payBridge hbridge hpaidBridge
  exact (prepared_of_prepare hprepare).follows.trans
    ((payOther_follows hother hpaidOther).trans ((follows_debit hdebit).trans hfollows))

end Code

/-- What leaves balance, transfers and ether alone, and the share within its bound. -/
theorem follows_of_eq {vault vault' : FeeVault} (hbalance : vault'.balance = vault.balance)
    (hsent : vault'.sent = vault.sent) (hreceived : vault'.received = vault.received)
    (hshare : vault.bridgeShareBps.toNat ≤ 10000 → vault'.bridgeShareBps.toNat ≤ 10000) :
    vault.Follows vault' where
  sent := by rw [hsent]
  received := by rw [hreceived]
  conserved := by rw [hbalance, hsent, hreceived]
  share := hshare

end FeeVault

open FeeVault (Follows Accounted)

/-- A setter leaves the books in order. -/
theorem Setter.follows {setter : Setter} {sender : Address} {vault vault' : FeeVault}
    (h : setter.apply sender vault = .ok vault') : vault.Follows vault' := by
  obtain ⟨⟨⟩, -, h⟩ := Except.bind_eq_ok_iff.mp h
  cases setter with
  | transferOwnership newOwner =>
    obtain ⟨⟨⟩, -, h⟩ := Except.bind_eq_ok_iff.mp h
    obtain rfl := Except.ok.inj h
    exact FeeVault.follows_of_eq rfl rfl rfl id
  | setBridgeRecipient bridgeRecipient =>
    obtain ⟨⟨⟩, -, h⟩ := Except.bind_eq_ok_iff.mp h
    obtain rfl := Except.ok.inj h
    exact FeeVault.follows_of_eq rfl rfl rfl id
  | setMinimumAmount minimumAmount =>
    obtain rfl := Except.ok.inj h
    exact FeeVault.follows_of_eq rfl rfl rfl id
  | setCallFee callFee =>
    obtain rfl := Except.ok.inj h
    exact FeeVault.follows_of_eq rfl rfl rfl id
  | setBridgeShare bridgeShareBps =>
    obtain ⟨⟨⟩, hbound, h⟩ := Except.bind_eq_ok_iff.mp h
    obtain rfl := Except.ok.inj h
    -- the one setter whose check the invariant needs
    have hle : bridgeShareBps.toNat ≤ 10000 := by
      simpa [BitVec.le_def] using FeeVault.require_eq_ok_iff.mp hbound
    exact FeeVault.follows_of_eq rfl rfl rfl fun _ => hle
  | setOtherRecipient otherRecipient =>
    obtain ⟨⟨⟩, -, h⟩ := Except.bind_eq_ok_iff.mp h
    obtain rfl := Except.ok.inj h
    exact FeeVault.follows_of_eq rfl rfl rfl id

/-- Whatever code does to the vault, what comes in and what goes out add up. -/
theorem Script.accounted (address : Address) (script : Script) :
    Accounted (script.exec address) := by
  -- over what the other code does; a distribution runs the code of both recipients inside
  induction script with
  | done =>
    intro vault vault' h
    obtain rfl := Except.ok.inj h
    exact .refl _
  | revert =>
    intro vault vault' h
    cases h
  | setter op sender rest ih =>
    intro vault vault' h
    exact (FeeVault.follows_after fun _ => Setter.follows).trans (ih _ _ h)
  | deposit value rest ih =>
    intro vault vault' h
    exact (FeeVault.follows_after fun _ => FeeVault.follows_enter).trans (ih _ _ h)
  | distribute value otherCode bridgeCode rest ihOther ihBridge ih =>
    intro vault vault' h
    exact (FeeVault.follows_after fun _ => FeeVault.follows_distribute ihOther ihBridge).trans
      (ih _ _ h)
  | call inner rest ihInner ih =>
    intro vault vault' h
    exact (FeeVault.follows_after fun vault₁ => ihInner vault vault₁).trans (ih _ _ h)

/-- The share of the bridge is within its bound in every state. -/
theorem Reachable.share_le {address : Address} {vault : FeeVault} (h : Reachable address vault) :
    vault.bridgeShareBps.toNat ≤ 10000 := by
  -- the constructor and the setter check the bound, payments do not touch the share
  induction h with
  | constructed h =>
    obtain ⟨⟨⟩, -, h⟩ := Except.bind_eq_ok_iff.mp h
    obtain ⟨⟨⟩, hbound, h⟩ := Except.bind_eq_ok_iff.mp h
    obtain rfl := Except.ok.inj h
    simp only
    split_ifs
    · exact le_rfl
    · simpa [BitVec.le_def] using FeeVault.require_eq_ok_iff.mp hbound
  | ran script _ hrun ih => exact (script.accounted address _ _ hrun).share ih
  | paidOther _ hprepare hdebit ih =>
    exact ((FeeVault.prepared_of_prepare hprepare).follows.trans
      (FeeVault.follows_debit hdebit)).share ih
  | paidBridge otherCode _ hprepare hother hdebit ih =>
    exact ((FeeVault.prepared_of_prepare hprepare).follows.trans
      ((FeeVault.payOther_follows (otherCode.accounted address) hother).trans
        (FeeVault.follows_debit hdebit))).share ih

/-! ## `distribute` -/

/-- Transfers of something. -/
def payments (transfers : List Transfer) : List Transfer := transfers.filter (·.amount ≠ 0)

theorem payments_append (xs ys : List Transfer) :
    payments (xs ++ ys) = payments xs ++ payments ys := List.filter_append ..

/-- Transfers that add up to nothing pay nothing. -/
theorem payments_eq_nil {transfers : List Transfer} (h : amounts transfers = 0) :
    payments transfers = [] := by
  rw [payments, List.filter_eq_nil_iff]
  intro transfer hmem
  have hzero : transfer.amount.toNat = 0 :=
    List.sum_eq_zero_iff_forall_eq_nat.mp h _ (List.mem_map_of_mem hmem)
  simpa [BitVec.toNat_eq] using hzero

namespace FeeVault

variable {address : Address} {vault vault' entered between : FeeVault} {value : U256}
  {split : Split} {otherCode bridgeCode : FeeVault → Except String FeeVault}

/-- If no ether came in, the code of the other recipient has left the share of the bridge, and made
no payment. -/
theorem sent_of_payOther (hcode : Accounted otherCode)
    (hprepared : vault.Prepared value entered split)
    (hother : entered.payOther address split.otherAmount otherCode = .ok between)
    (henough : split.bridgeAmount.toNat ≤ between.balance.toNat)
    (hreceived : between.received ≤ entered.received) :
    between.balance = split.bridgeAmount ∧ ∃ new, between.sent = entered.sent ++ new ∧
      payments new = payments [⟨.other, entered.otherRecipient, split.otherAmount⟩] := by
  have hsplit := hprepared.otherAmount
  rcases follows_payOther hcode hother with ⟨hzero, rfl⟩ | ⟨debited, hdebit, hfollows⟩
  · have hnone : split.otherAmount.toNat = 0 := by rw [hzero]; rfl
    refine ⟨BitVec.eq_of_toNat_eq (by omega), [], (List.append_nil _).symm, ?_⟩
    simp [payments, hzero]
  · obtain ⟨balance, hbalance, rfl⟩ := debit_eq_ok hdebit
    obtain ⟨new, hnew⟩ := hfollows.sent
    have hconserved := hfollows.conserved
    have hmore := hfollows.received
    simp only [← hnew, amounts_append] at hconserved hmore hbalance
    have hnothing : amounts new = 0 := by omega
    refine ⟨BitVec.eq_of_toNat_eq (by omega), _, by rw [← hnew, List.append_assoc], ?_⟩
    rw [payments_append, payments_eq_nil hnothing, List.append_nil]

/-- If no ether came in, the code of the bridge recipient has left nothing, and made no payment. -/
theorem sent_of_payBridge {bridgeAmount : U256} (hcode : Accounted bridgeCode)
    (hbridge : between.payBridge address bridgeAmount bridgeCode = .ok vault')
    (hbalance : between.balance = bridgeAmount) (hreceived : vault'.received ≤ between.received) :
    vault'.balance = 0 ∧ ∃ new, vault'.sent = between.sent ++ new ∧
      payments new = payments [⟨.bridge, between.bridgeRecipient, bridgeAmount⟩] := by
  obtain ⟨debited, hdebit, hfollows⟩ := follows_payBridge hcode hbridge
  obtain ⟨balance, hrest, rfl⟩ := debit_eq_ok hdebit
  obtain ⟨new, hnew⟩ := hfollows.sent
  have hconserved := hfollows.conserved
  have hmore := hfollows.received
  simp only [← hnew, amounts_append, hbalance] at hconserved hmore hrest
  have hnothing : amounts new = 0 := by omega
  refine ⟨BitVec.eq_of_toNat_eq (by simp; omega), _, by rw [← hnew, List.append_assoc], ?_⟩
  rw [payments_append, payments_eq_nil hnothing, List.append_nil]

/-- A `distribute` that succeeds, while no ether comes in but its own, pays out everything: the
bridge's share of the balance, rounded down, and the rest. -/
theorem distribute_pays_out (hother : Accounted otherCode) (hbridge : Accounted bridgeCode)
    (h : vault.distribute address value otherCode bridgeCode = .ok vault')
    (hreceived : vault'.received = vault.received + value.toNat) :
    ∃ entered split between new, vault.prepare value = .ok (entered, split) ∧
      entered.payOther address split.otherAmount otherCode = .ok between ∧
      split.bridgeAmount.toNat =
        (vault.balance.toNat + value.toNat) * vault.bridgeShareBps.toNat / 10000 ∧
      split.otherAmount.toNat + split.bridgeAmount.toNat = vault.balance.toNat + value.toNat ∧
      vault'.sent = vault.sent ++ new ∧
      payments new = payments [⟨.other, vault.otherRecipient, split.otherAmount⟩,
        ⟨.bridge, between.bridgeRecipient, split.bridgeAmount⟩] ∧
      vault'.balance = 0 := by
  obtain ⟨entered, split, between, hprepare, hpaidOther, hpaidBridge⟩ :=
    distribute_eq_ok_iff.mp h
  have hprepared := prepared_of_prepare hprepare
  -- nothing came in during either transfer
  have hmiddle := (payOther_follows hother hpaidOther).received
  obtain ⟨debited, hdebit, hfollows⟩ := follows_payBridge hbridge hpaidBridge
  have hlast := ((follows_debit hdebit).trans hfollows).received
  have hentered := hprepared.received
  obtain ⟨balance, hbalance, -⟩ := debit_eq_ok hdebit
  obtain ⟨hleft, newOther, hsentOther, hpaymentOther⟩ :=
    sent_of_payOther hother hprepared hpaidOther (by omega) (by omega)
  obtain ⟨hempty, newBridge, hsentBridge, hpaymentBridge⟩ :=
    sent_of_payBridge hbridge hpaidBridge hleft (by omega)
  refine ⟨entered, split, between, newOther ++ newBridge, hprepare, hpaidOther, ?_, ?_, ?_, ?_,
    hempty⟩
  · rw [hprepared.bridgeAmount, hprepared.balance]
  · rw [hprepared.otherAmount, hprepared.balance]
  · rw [hsentBridge, hsentOther, hprepared.sent, List.append_assoc]
  · rw [payments_append, hpaymentOther, hpaymentBridge, hprepared.otherRecipient,
      ← payments_append]
    rfl

/-- If one of the transfers fails, so does the call. -/
theorem distribute_fails (hprepare : vault.prepare value = .ok (entered, split))
    (hfails : (∃ e, entered.payOther address split.otherAmount otherCode = .error e) ∨
      ∃ between e, entered.payOther address split.otherAmount otherCode = .ok between ∧
        between.payBridge address split.bridgeAmount bridgeCode = .error e) :
    ∃ e, vault.distribute address value otherCode bridgeCode = .error e := by
  rcases hfails with ⟨e, hother⟩ | ⟨between, e, hother, hbridge⟩
  · refine ⟨e, Except.bind_eq_error_iff.mpr (.inr ⟨_, hprepare, ?_⟩)⟩
    exact Except.bind_eq_error_iff.mpr (.inl hother)
  · refine ⟨e, Except.bind_eq_error_iff.mpr (.inr ⟨_, hprepare, ?_⟩)⟩
    exact Except.bind_eq_error_iff.mpr (.inr ⟨between, hother, hbridge⟩)

end FeeVault

/-- In every state the share of the bridge is at most the whole, so the other share does not
underflow. A `distribute` that succeeds, while no ether comes in but its own, pays the bridge its
share of the balance, rounded down, and the other recipient the rest, once, whatever their code
does, and leaves nothing. If a transfer fails, nothing changes. -/
theorem distribute_exactly_once {address : Address} {vault : FeeVault}
    (hreachable : Reachable address vault) :
    vault.bridgeShareBps.toNat ≤ 10000 ∧
      (∀ balance product : U256, balance.checkedMul vault.bridgeShareBps = some product →
        ∃ otherAmount, balance.checkedSub (product / 10000) = some otherAmount) ∧
      ∀ value otherCode bridgeCode,
        (∀ vault', vault.distribute address value (Script.exec address otherCode)
            (Script.exec address bridgeCode) = .ok vault' →
          vault'.received = vault.received + value.toNat →
          ∃ entered split between new, vault.prepare value = .ok (entered, split) ∧
            entered.payOther address split.otherAmount (otherCode.exec address) = .ok between ∧
            split.bridgeAmount.toNat =
              (vault.balance.toNat + value.toNat) * vault.bridgeShareBps.toNat / 10000 ∧
            split.otherAmount.toNat + split.bridgeAmount.toNat =
              vault.balance.toNat + value.toNat ∧
            vault'.sent = vault.sent ++ new ∧
            payments new = payments [⟨.other, vault.otherRecipient, split.otherAmount⟩,
              ⟨.bridge, between.bridgeRecipient, split.bridgeAmount⟩] ∧
            vault'.balance = 0) ∧
        ∀ entered split, vault.prepare value = .ok (entered, split) →
          ((∃ e, entered.payOther address split.otherAmount (otherCode.exec address) = .error e) ∨
            ∃ between e,
              entered.payOther address split.otherAmount (otherCode.exec address) = .ok between ∧
              between.payBridge address split.bridgeAmount (bridgeCode.exec address) = .error e) →
          vault.after (vault.distribute address value (otherCode.exec address)
            (bridgeCode.exec address)) = vault := by
  refine ⟨hreachable.share_le, fun balance product hproduct => ?_,
    fun value otherCode bridgeCode => ⟨fun vault' h hreceived => ?_, fun entered split hprepare
      hfails => ?_⟩⟩
  · -- a share of at most the whole is at most the balance
    have hmul := BitVec.checkedMul_eq_some_iff.mp hproduct
    have hle : (product / 10000).toNat ≤ balance.toNat := by
      rw [BitVec.toNat_udiv, hmul]
      exact Nat.div_le_of_le_mul (by
        rw [Nat.mul_comm]
        exact Nat.mul_le_mul_right _ hreachable.share_le)
    exact ⟨_, if_pos hle⟩
  · -- the code of either recipient may call the vault again, but each transfer is made once
    exact FeeVault.distribute_pays_out (otherCode.accounted address)
      (bridgeCode.accounted address) h hreceived
  · obtain ⟨e, h⟩ := FeeVault.distribute_fails hprepare hfails
    rw [h]
    rfl

/-- The vault of `0x0A` as it is deployed, with an even split and a fee of one wei. -/
def deployedVault : FeeVault :=
  { owner := 0x0A
    bridgeRecipient := 0
    otherRecipient := 0x99
    minimumAmount := 0
    callFee := 1
    bridgeShareBps := 5000
    balance := 0
    events := [.ownershipTransferred 0 0x0A]
    sent := []
    received := 0 }

/-- The owner names the bridge recipient, and ether comes in. -/
def funding : Script := .setter (.setBridgeRecipient 0x42) 0x0A (.deposit 10 .done)

/-- Code that calls `distribute` without the fee, tries to change the share, and fails within a call
of its own. -/
def reentering : Script :=
  .distribute 0 .done .done (.setter (.setBridgeShare 1) 0x99 (.call .revert .done))

/-- Eleven wei are split and paid out once, although the other recipient calls `distribute`
again. -/
theorem distribute_reentered :
    ∃ vault vault', Reachable 0xFE vault ∧
      vault.distribute 0xFE 1 (reentering.exec 0xFE) (reentering.exec 0xFE) = .ok vault' ∧
      vault'.balance = 0 ∧
      vault'.sent = [⟨.other, 0x99, 6⟩, ⟨.bridge, 0x42, 5⟩] := by
  have hconstruct : FeeVault.construct 0x0A 0 1 5000 0x99 0 = .ok deployedVault := by
    decide +kernel
  have hreachable : Reachable 0xFE (deployedVault.after (funding.exec 0xFE deployedVault)) :=
    .ran funding (.constructed hconstruct) (by decide +kernel)
  have hrun : ∃ vault', (deployedVault.after (funding.exec 0xFE deployedVault)).distribute 0xFE 1
      (reentering.exec 0xFE) (reentering.exec 0xFE) = .ok vault' ∧
      vault'.received = (deployedVault.after (funding.exec 0xFE deployedVault)).received + 1 ∧
      vault'.sent = [⟨.other, 0x99, 6⟩, ⟨.bridge, 0x42, 5⟩] :=
    ⟨_, rfl, by decide +kernel, by decide +kernel⟩
  obtain ⟨vault', h, hreceived, hsent⟩ := hrun
  obtain ⟨-, -, hall⟩ := distribute_exactly_once hreachable
  obtain ⟨-, -, -, -, -, -, -, -, -, -, hempty⟩ :=
    (hall 1 reentering reentering).1 vault' h hreceived
  exact ⟨_, vault', hreachable, h, hempty, hsent⟩

end EvReth.Contracts
