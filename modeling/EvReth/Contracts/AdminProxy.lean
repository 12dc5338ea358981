import EvReth.Foundations.BigEndian
import EvReth.Foundations.Interference
import EvReth.Revm.Journal

/-!
# The admin proxy

`AdminProxy` (`contracts/src/AdminProxy.sol`) is the admin of the mint precompile and the owner of
the fee vault. It forwards the calls of its owner, and its ownership is handed over in two steps.

A function of the contract is a program over its own storage, its events and calls of other
contracts (`ProxyM`). The program stops at a call: what is called may do anything before it answers,
also call the contract again. `advance` runs a program up to its next call, and `Serves` says which
calls a program still makes.

The decoder of calldata is a parameter of `main`.
-/

namespace EvReth.Contracts

/-! ## The interface -/

/-- The functions of the contract. -/
inductive AdminProxyCall where
  | owner
  | pendingOwner
  | transferOwnership (newOwner : Address)
  | acceptOwnership
  | cancelTransfer
  | execute (target : Address) (data : Bytes)
  | executeBatch (targets : List Address) (datas : List Bytes)
  | executeWithValue (target : Address) (data : Bytes) (value : U256)
  deriving DecidableEq, Repr

/-- The errors of the contract. -/
inductive AdminProxyError where
  | notOwner
  | notPendingOwner
  | callFailed (reason : Bytes)
  | lengthMismatch
  | zeroAddress
  deriving DecidableEq, Repr

/-- The events of the contract. -/
inductive AdminProxyEvent where
  | ownershipTransferStarted (previousOwner newOwner : Address)
  | ownershipTransferred (previousOwner newOwner : Address)
  | executed (target : Address) (data result : Bytes)
  deriving DecidableEq, Repr

/-- A call that the contract makes. -/
structure Outgoing where
  target : Address
  value : U256
  data : Bytes
  deriving DecidableEq, Repr

/-- The calls that a function is asked to make. -/
def AdminProxyCall.asked : AdminProxyCall → List Outgoing
  | .execute target data => [⟨target, 0, data⟩]
  | .executeBatch targets datas =>
    (targets.zip datas).map fun (target, data) => ⟨target, 0, data⟩
  | .executeWithValue target data value => [⟨target, value, data⟩]
  | _ => []

/-! ## Encoding -/

namespace Abi

/-- A word of 32 bytes. -/
def word (n : ℕ) : Bytes := BigEndian.fixed 32 n

/-- `bytes` as the tail of an argument: the length and the padded content. -/
def bytesTail (data : Bytes) : Bytes :=
  word data.length ++ data ++ List.replicate ((32 - data.length % 32) % 32) 0

/-- Arguments of dynamic types, given by their tails: the offsets, then the tails. -/
def dynamicArgs (tails : List Bytes) : Bytes :=
  let offsets := tails.scanl (fun offset tail => offset + tail.length) (32 * tails.length)
  (offsets.dropLast.flatMap word) ++ tails.flatten

/-- `bytes[]` as the tail of an argument. -/
def bytesArrayTail (datas : List Bytes) : Bytes :=
  word datas.length ++ dynamicArgs (datas.map bytesTail)

/-- The word at an offset, if the data reaches that far. -/
def wordAt (args : Bytes) (offset : ℕ) : Option ℕ :=
  if offset + 32 ≤ args.length then some (BigEndian.value ((args.drop offset).take 32)) else none

/-- The address at an offset; the other bits of its word must be zero. -/
def addressAt (args : Bytes) (offset : ℕ) : Option Address := do
  let n ← wordAt args offset
  if n < 2 ^ 160 then some (BitVec.ofNat 160 n) else none

/-- The `bytes` at an offset. -/
def bytesAt (args : Bytes) (offset : ℕ) : Option Bytes := do
  let length ← wordAt args offset
  if offset + 32 + length ≤ args.length then some ((args.drop (offset + 32)).take length) else none

/-- The array at an offset, with the decoder of its elements: they are read relative to the end of
the length. -/
def arrayAt {α : Type} (element : Bytes → ℕ → Option α) (args : Bytes) (offset : ℕ) :
    Option (List α) := do
  let length ← wordAt args offset
  if offset + 32 + 32 * length ≤ args.length then
    (List.range length).mapM fun i => element (args.drop (offset + 32)) (32 * i)
  else none

/-- An argument of a dynamic type, whose offset is at an offset. -/
def dynamicAt {α : Type} (tail : Bytes → ℕ → Option α) (args : Bytes) (offset : ℕ) : Option α := do
  tail args (← wordAt args offset)

end Abi

/-- Solidity's ABI for the functions. It is the decoder that concrete examples use; the results
about `AdminProxy.main` hold for any. -/
def AdminProxyCall.solDecode (data : Bytes) : Option AdminProxyCall :=
  let args := data.drop 4
  match data.take 4 with
  | [0x8d, 0xa5, 0xcb, 0x5b] => some .owner
  | [0xe3, 0x0c, 0x39, 0x78] => some .pendingOwner
  | [0xf2, 0xfd, 0xe3, 0x8b] => do
    let newOwner ← Abi.addressAt args 0
    return .transferOwnership newOwner
  | [0x79, 0xba, 0x50, 0x97] => some .acceptOwnership
  | [0x8b, 0x52, 0x98, 0x54] => some .cancelTransfer
  | [0x1c, 0xff, 0x79, 0xcd] => do
    let target ← Abi.addressAt args 0
    let data ← Abi.dynamicAt Abi.bytesAt args 32
    return .execute target data
  | [0x18, 0xdf, 0xb3, 0xc7] => do
    let targets ← Abi.dynamicAt (Abi.arrayAt Abi.addressAt) args 0
    let datas ← Abi.dynamicAt (Abi.arrayAt (Abi.dynamicAt Abi.bytesAt)) args 32
    return .executeBatch targets datas
  | [0xfa, 0x4b, 0xb7, 0x9d] => do
    let target ← Abi.addressAt args 0
    let data ← Abi.dynamicAt Abi.bytesAt args 32
    let value ← Abi.wordAt args 64
    return .executeWithValue target data (BitVec.ofNat 256 value)
  | _ => none

/-- An address is read from the word that encodes it. -/
theorem Abi.addressAt_word (address : Address) :
    Abi.addressAt (Abi.word address.toNat) 0 = some address := by
  have hlt : address.toNat < 2 ^ 160 := address.isLt
  have hword : Abi.wordAt (Abi.word address.toNat) 0 = some address.toNat := by
    have hlength : (Abi.word address.toNat).length = 32 := BigEndian.length_fixed ..
    rw [Abi.wordAt, if_pos hlength.ge, List.drop_zero, List.take_of_length_le hlength.le,
      Abi.word, BigEndian.value_fixed (hlt.trans (by decide))]
  rw [Abi.addressAt, hword]
  refine (if_pos hlt).trans ?_
  rw [BitVec.ofNat_toNat, BitVec.setWidth_eq]

/-- Calldata of `transferOwnership`. -/
def transferOwnershipData (newOwner : Address) : Bytes :=
  [0xf2, 0xfd, 0xe3, 0x8b] ++ Abi.word newOwner.toNat

theorem transferOwnershipData_ne_nil (newOwner : Address) : transferOwnershipData newOwner ≠ [] :=
  List.cons_ne_nil _ _

/-- The calldata of `transferOwnership` is decoded to the call that it was made for. -/
theorem solDecode_transferOwnershipData (newOwner : Address) :
    AdminProxyCall.solDecode (transferOwnershipData newOwner) =
      some (.transferOwnership newOwner) := by
  have hselected (args : Bytes) : AdminProxyCall.solDecode ([0xf2, 0xfd, 0xe3, 0x8b] ++ args) =
      (Abi.addressAt args 0).map .transferOwnership := by
    show (Abi.addressAt args 0).bind _ = _
    cases Abi.addressAt args 0 <;> rfl
  rw [transferOwnershipData, hselected, Abi.addressAt_word]
  rfl

/-- The revert data of an error. -/
def AdminProxyError.encode : AdminProxyError → Bytes
  | .notOwner => [0x30, 0xcd, 0x74, 0x71]
  | .notPendingOwner => [0x18, 0x53, 0x97, 0x1c]
  | .callFailed reason => [0xa5, 0xfa, 0x8d, 0x2b] ++ Abi.dynamicArgs [Abi.bytesTail reason]
  | .lengthMismatch => [0xff, 0x63, 0x3a, 0x38]
  | .zeroAddress => [0xd9, 0x2e, 0x23, 0x3d]

namespace AdminProxyEvent

/-- The signature of `OwnershipTransferStarted`. -/
def startedTopic : B256 := 0x38d16b8cac22d99fc7c124b9cd0de2d3fa1faef420bfe791d8c362d765e22700

/-- The signature of `OwnershipTransferred`. -/
def transferredTopic : B256 := 0x8be0079c531659141344cd1fd0a4f28419497f9722a3daafe3b4186f6b6457e0

/-- The signature of `Executed`. -/
def executedTopic : B256 := 0xc96720f35dd524e76ea92971ce13d08e9a17816bf3b0008a7083e6032354ebb5

/-- The log of an event; the indexed arguments are topics. -/
def toLog (address : Address) : AdminProxyEvent → Log
  | ownershipTransferStarted previousOwner newOwner =>
    ⟨address, [startedTopic, previousOwner.setWidth 256, newOwner.setWidth 256], []⟩
  | ownershipTransferred previousOwner newOwner =>
    ⟨address, [transferredTopic, previousOwner.setWidth 256, newOwner.setWidth 256], []⟩
  | executed target data result =>
    ⟨address, [executedTopic, target.setWidth 256],
      Abi.dynamicArgs [Abi.bytesTail data, Abi.bytesTail result]⟩

end AdminProxyEvent

/-! ## The functions -/

namespace AdminProxy

/-- What the code of the contract does. -/
inductive Op where
  | sload (key : U256)
  | sstore (key value : U256)
  | log (event : AdminProxyEvent)
  | call (target : Address) (value : U256) (data : Bytes)
  deriving DecidableEq, Repr

/-- What it gets back. A call has the data that was returned, or the data of its failure. -/
abbrev Res : Op → Type
  | .sload _ => U256
  | .sstore _ _ => Unit
  | .log _ => Unit
  | .call _ _ _ => Except Bytes Bytes

/-- A program of the contract, which reverts with data. -/
abbrev ProxyM := Prog Bytes Op Res

/-- `revert`. -/
def revert {α : Type} (e : AdminProxyError) : ProxyM α := .fail e.encode

/-- `emit`. -/
def emit (event : AdminProxyEvent) : ProxyM Unit := .op (Op.log event)

/-- The slot of `owner`. -/
def ownerSlot : U256 := 0

/-- The slot of `pendingOwner`. -/
def pendingOwnerSlot : U256 := 1

/-- An address in storage. -/
def loadAddress (slot : U256) : ProxyM Address := do
  let value : U256 ← Prog.op (Op.sload slot)
  return value.setWidth 160

/-- An address is written to its slot, which holds nothing else. -/
def storeAddress (slot : U256) (address : Address) : ProxyM Unit :=
  .op (Op.sstore slot (address.setWidth 256))

/-- `owner`. -/
def owner : ProxyM Address := loadAddress ownerSlot

/-- `pendingOwner`. -/
def pendingOwner : ProxyM Address := loadAddress pendingOwnerSlot

/-- The modifier `onlyOwner`. -/
def onlyOwner (sender : Address) : ProxyM Unit := do
  let current ← owner
  if sender = current then return else revert .notOwner

/-- `transferOwnership`. -/
def transferOwnership (sender newOwner : Address) : ProxyM Unit := do
  onlyOwner sender
  if newOwner = 0 then revert .zeroAddress
  else
    storeAddress pendingOwnerSlot newOwner
    let current ← owner
    emit (.ownershipTransferStarted current newOwner)

/-- `acceptOwnership`. -/
def acceptOwnership (sender : Address) : ProxyM Unit := do
  let pending ← pendingOwner
  if sender = pending then
    let current ← owner
    emit (.ownershipTransferred current sender)
    storeAddress ownerSlot sender
    storeAddress pendingOwnerSlot 0
  else revert .notPendingOwner

/-- `cancelTransfer`. -/
def cancelTransfer (sender : Address) : ProxyM Unit := do
  onlyOwner sender
  storeAddress pendingOwnerSlot 0

/-- A call of a target, which must succeed. -/
def callTarget (target : Address) (data : Bytes) (value : U256) : ProxyM Bytes := do
  let result : Except Bytes Bytes ← Prog.op (Op.call target value data)
  match result with
  | .error returnData => revert (.callFailed returnData)
  | .ok returnData =>
    emit (.executed target data returnData)
    return returnData

/-- `execute`. -/
def execute (sender target : Address) (data : Bytes) : ProxyM Bytes := do
  onlyOwner sender
  callTarget target data 0

/-- The loop of `executeBatch`, with the results so far. -/
def executeEach : List (Address × Bytes) → List Bytes → ProxyM (List Bytes)
  | [], results => return results
  | (target, data) :: rest, results => do
    let returnData ← callTarget target data 0
    executeEach rest (results ++ [returnData])

/-- `executeBatch`. -/
def executeBatch (sender : Address) (targets : List Address) (datas : List Bytes) :
    ProxyM (List Bytes) := do
  onlyOwner sender
  if targets.length = datas.length then executeEach (targets.zip datas) []
  else revert .lengthMismatch

/-- `executeWithValue`. -/
def executeWithValue (sender target : Address) (data : Bytes) (value : U256) : ProxyM Bytes := do
  onlyOwner sender
  callTarget target data value

/-- A function with its returned data. -/
def run (sender : Address) : AdminProxyCall → ProxyM Bytes
  | .owner => do
    let current ← owner
    return Abi.word current.toNat
  | .pendingOwner => do
    let pending ← pendingOwner
    return Abi.word pending.toNat
  | .transferOwnership newOwner => do
    transferOwnership sender newOwner
    return []
  | .acceptOwnership => do
    acceptOwnership sender
    return []
  | .cancelTransfer => do
    cancelTransfer sender
    return []
  | .execute target data => do
    let result ← execute sender target data
    return Abi.dynamicArgs [Abi.bytesTail result]
  | .executeBatch targets datas => do
    let results ← executeBatch sender targets datas
    return Abi.dynamicArgs [Abi.bytesArrayTail results]
  | .executeWithValue target data value => do
    let result ← executeWithValue sender target data value
    return Abi.dynamicArgs [Abi.bytesTail result]

/-- The contract. Without calldata it only takes the value (`receive`); its functions take none. -/
def main (decode : Bytes → Option AdminProxyCall) (sender : Address) (value : U256)
    (data : Bytes) : ProxyM Bytes :=
  if data = [] then return []
  else
    match decode data with
    | none => .fail []
    | some call => if value = 0 then run sender call else .fail []

/-! ## Running the functions -/

/-- An event is logged. -/
def emitLog (address : Address) (j : Journal) (event : AdminProxyEvent) : Journal :=
  { j with logs := j.logs ++ [event.toLog address] }

/-- Works on the storage and the logs of the contract at an address, up to the next call or the
end. -/
def advance {α : Type} (address : Address) : ProxyM α → Journal → Journal × ProxyM α
  | .done a, j => (j, .done a)
  | .fail e, j => (j, .fail e)
  | .call (.sload key) k, j => advance address (k (j.storage address key)) j
  | .call (.sstore key value) k, j => advance address (k ()) (j.sstore address key value)
  | .call (.log event) k, j => advance address (k ()) (emitLog address j event)
  | .call (.call target value data) k, j => (j, .call (.call target value data) k)

/-- The owner in a journal. -/
def ownerOf (address : Address) (j : Journal) : Address :=
  (j.storage address ownerSlot).setWidth 160

/-- The pending owner in a journal. -/
def pendingOwnerOf (address : Address) (j : Journal) : Address :=
  (j.storage address pendingOwnerSlot).setWidth 160

variable {α β : Type} {address : Address} {j : Journal}

/-- A sequence goes on where its first part has ended. -/
theorem advance_bind (p : ProxyM α) (f : α → ProxyM β) (j : Journal) :
    advance address (p >>= f) j =
      match advance address p j with
      | (j', .done a) => advance address (f a) j'
      | (j', .fail e) => (j', .fail e)
      | (j', .call o k) => (j', .call o fun r => k r >>= f) := by
  induction p generalizing j with
  | done a => rfl
  | fail e => rfl
  | call o k ih =>
    cases o with
    | sload key => exact ih _ _
    | sstore key value => exact ih _ _
    | log event => exact ih _ _
    | call target value data => rfl

/-- To write the pending owner does not change the owner. -/
@[simp]
theorem ownerOf_sstore_pendingOwnerSlot (j : Journal) (value : U256) :
    ownerOf address (j.sstore address pendingOwnerSlot value) = ownerOf address j := by
  rw [ownerOf, ownerOf, Journal.storage_sstore, if_neg fun h => absurd h.2 (by decide)]

/-- Behind `onlyOwner` the program goes on for the owner, and fails for anyone else. -/
theorem advance_onlyOwner_bind (sender : Address) (f : Unit → ProxyM α) :
    advance address (onlyOwner sender >>= f) j =
      if sender = ownerOf address j then advance address (f ()) j
      else (j, .fail AdminProxyError.notOwner.encode) := by
  rw [advance_bind]
  have hcheck : advance address (onlyOwner sender) j =
      (j, if sender = ownerOf address j then .done ()
        else .fail AdminProxyError.notOwner.encode) := by
    show advance address (if sender = ownerOf address j then _ else _) j = _
    split_ifs <;> rfl
  rw [hcheck]
  split_ifs <;> rfl

/-! ## The calls of a program -/

/-- The program makes these calls, in this order, unless one fails, which ends it. Otherwise it only
logs executions. -/
def Serves : ProxyM α → List Outgoing → Prop
  | .done _, calls => calls = []
  | .fail _, _ => True
  | .call (.sload _) k, calls => ∀ value, Serves (k value) calls
  | .call (.sstore _ _) _, _ => False
  | .call (.log event) k, calls =>
    (∃ target data result, event = .executed target data result) ∧ Serves (k ()) calls
  | .call (.call target value data) k, calls =>
    ∃ rest, calls = ⟨target, value, data⟩ :: rest ∧ (∀ a, Serves (k (.ok a)) rest) ∧
      ∀ a, ∃ e, k (.error a) = .fail e

/-- One program after another makes the calls of both, in order. -/
theorem Serves.bind {p : ProxyM α} {f : α → ProxyM β} {calls calls' : List Outgoing}
    (hp : Serves p calls) (hf : ∀ a, Serves (f a) calls') :
    Serves (p >>= f) (calls ++ calls') := by
  show Serves (p.bind f) _
  -- on the first program; where a call of it fails, it fails as a whole
  induction p generalizing calls with
  | done a =>
    obtain rfl : calls = [] := hp
    exact hf a
  | fail e => trivial
  | call o k ih =>
    cases o with
    | sload key => exact fun value => ih _ (hp value)
    | sstore key value => exact hp.elim
    | log event => exact ⟨hp.1, ih _ hp.2⟩
    | call target value data =>
      obtain ⟨rest, rfl, hok, herror⟩ := hp
      refine ⟨rest ++ calls', rfl, fun a => ih _ (hok a), fun a => ?_⟩
      obtain ⟨e, he⟩ := herror a
      refine ⟨e, ?_⟩
      show (k (.error a)).bind f = .fail e
      rw [he]
      rfl

theorem serves_pure (a : α) : Serves (pure a : ProxyM α) [] := rfl

/-- `_call` makes the one call that it was asked for. -/
theorem serves_callTarget (target : Address) (data : Bytes) (value : U256) :
    Serves (callTarget target data value) [⟨target, value, data⟩] :=
  ⟨[], rfl, fun _ => ⟨⟨_, _, _, rfl⟩, rfl⟩, fun _ => ⟨_, rfl⟩⟩

/-- The loop of `executeBatch` makes its calls in order, without value. -/
theorem serves_executeEach (calls : List (Address × Bytes)) (results : List Bytes) :
    Serves (executeEach calls results) (calls.map fun (target, data) => ⟨target, 0, data⟩) := by
  induction calls generalizing results with
  | nil => exact serves_pure _
  | cons call rest ih =>
    obtain ⟨target, data⟩ := call
    exact (serves_callTarget target data 0).bind fun returnData => ih _

/-- Nothing changes but the logs of executions. -/
def Executes (address : Address) (j j' : Journal) : Prop :=
  ∃ logs : List Log, (∀ log ∈ logs, ∃ target data result,
    log = (AdminProxyEvent.executed target data result).toLog address) ∧
      j' = { j with logs := j.logs ++ logs }

theorem Executes.refl (j : Journal) : Executes address j j :=
  ⟨[], List.forall_mem_nil _, by rw [List.append_nil]⟩

/-- What a program does before its next call, and what it still does then. -/
theorem Serves.advance {p : ProxyM α} {calls : List Outgoing} (h : Serves p calls) (j : Journal) :
    Executes address j (advance address p j).1 ∧ Serves (advance address p j).2 calls := by
  induction p generalizing j with
  | done a => exact ⟨.refl j, h⟩
  | fail e => exact ⟨.refl j, h⟩
  | call o k ih =>
    cases o with
    | sload key => exact ih _ (h _) j
    | sstore key value => exact h.elim
    | log event =>
      obtain ⟨⟨target, data, result, rfl⟩, hrest⟩ := h
      obtain ⟨⟨logs, hlogs, heq⟩, hserves⟩ := ih () hrest (emitLog address j _)
      refine ⟨⟨_ :: logs, List.forall_mem_cons.mpr ⟨⟨target, data, result, rfl⟩, hlogs⟩, ?_⟩,
        hserves⟩
      refine heq.trans ?_
      rw [emitLog, List.append_assoc]
      rfl
    | call target value data => exact ⟨.refl j, h⟩

/-! ## What the owner and its nominee can do -/

variable {decode : Bytes → Option AdminProxyCall} {sender : Address} {value : U256} {data : Bytes}

/-- Calldata that decodes runs the function that it stands for. -/
theorem main_of_decode {call : AdminProxyCall} (hne : data ≠ [])
    (hdecode : decode data = some call) :
    main decode sender 0 data = run sender call := by
  rw [main, if_neg hne, hdecode]
  exact if_pos rfl

/-- The owner nominates: the log is written, and the nominee is stored. -/
theorem advance_transferOwnership {newOwner : Address} (howner : sender = ownerOf address j)
    (hzero : newOwner ≠ 0) :
    advance address (run sender (.transferOwnership newOwner)) j =
      (emitLog address (j.sstore address pendingOwnerSlot (newOwner.setWidth 256))
        (.ownershipTransferStarted (ownerOf address j) newOwner), .done []) := by
  rw [run, transferOwnership, Prog.bind_assoc, advance_onlyOwner_bind, if_pos howner, if_neg hzero]
  rw [← ownerOf_sstore_pendingOwnerSlot j (newOwner.setWidth 256)]
  rfl

/-- The nominee accepts: the log is written, the owner is replaced, and nobody is nominated any
more. -/
theorem advance_acceptOwnership (hpending : sender = pendingOwnerOf address j) :
    advance address (run sender .acceptOwnership) j =
      (((emitLog address j (.ownershipTransferred (ownerOf address j) sender)).sstore address
        ownerSlot (sender.setWidth 256)).sstore address pendingOwnerSlot 0, .done []) := by
  rw [run, acceptOwnership, Prog.bind_assoc]
  show advance address ((if sender = pendingOwnerOf address j then _ else _) >>= _) j = _
  rw [if_pos hpending]
  rfl

/-- Asked by the owner, the proxy makes the call of `execute`. -/
theorem advance_execute (target : Address) (payload : Bytes)
    (howner : sender = ownerOf address j) :
    ∃ k, advance address (run sender (.execute target payload)) j =
      (j, .call (.call target 0 payload) k) := by
  rw [run, execute, Prog.bind_assoc, advance_onlyOwner_bind, if_pos howner]
  exact ⟨_, rfl⟩

/-! ## What a call of the contract does -/

/-- A step of the handover of the contract at an address, by a sender. -/
inductive Hands (address sender : Address) (j : Journal) : Journal → Prop where
  | nominates {newOwner : Address} (howner : sender = ownerOf address j) (hne : newOwner ≠ 0) :
      Hands address sender j (emitLog address
        (j.sstore address pendingOwnerSlot (newOwner.setWidth 256))
        (.ownershipTransferStarted (ownerOf address j) newOwner))
  | accepts (hpending : sender = pendingOwnerOf address j) :
      Hands address sender j
        (((emitLog address j (.ownershipTransferred (ownerOf address j) sender)).sstore address
          ownerSlot (sender.setWidth 256)).sstore address pendingOwnerSlot 0)
  | cancels (howner : sender = ownerOf address j) :
      Hands address sender j (j.sstore address pendingOwnerSlot 0)

/-- What a call of the contract does before it calls further: nothing, a step of the handover, or
what its owner asks for. -/
inductive Begins (decode : Bytes → Option AdminProxyCall) (address sender : Address) (data : Bytes)
    (j : Journal) : Journal × ProxyM Bytes → Prop where
  | nothing {p} (h : Serves p []) : Begins decode address sender data j (j, p)
  | hands {j' p} (hhands : Hands address sender j j') (h : Serves p []) :
      Begins decode address sender data j (j', p)
  | serves {j' p call} (howner : sender = ownerOf address j) (hdecode : decode data = some call)
      (hexecutes : Executes address j j') (h : Serves p call.asked) :
      Begins decode address sender data j (j', p)

theorem begins_fail (e : Bytes) : Begins decode address sender data j (j, .fail e) :=
  .nothing trivial

/-- A function behind `onlyOwner` does what its owner has asked for, or fails. -/
theorem begins_of_onlyOwner {call : AdminProxyCall} {f : Unit → ProxyM Bytes}
    (hdecode : decode data = some call) (hf : Serves (f ()) call.asked) :
    Begins decode address sender data j (advance address (onlyOwner sender >>= f) j) := by
  rw [advance_onlyOwner_bind]
  split_ifs with howner
  · obtain ⟨hexecutes, hserves⟩ := hf.advance j
    exact .serves howner hdecode hexecutes hserves
  · exact .nothing trivial

/-- Whatever the proxy is called with, it fails, hands over, or makes the calls that its owner has
asked for. -/
theorem begins_main (decode : Bytes → Option AdminProxyCall) (address sender : Address)
    (value : U256) (data : Bytes) (j : Journal) :
    Begins decode address sender data j (advance address (main decode sender value data) j) := by
  -- empty calldata is for `receive`, which does nothing
  by_cases hempty : data = []
  · rw [main, if_pos hempty]
    exact .nothing rfl
  rw [main, if_neg hempty]
  cases hdecode : decode data with
  | none => exact .nothing trivial
  | some call =>
    show Begins decode address sender data j
      (advance address (if value = 0 then run sender call else .fail []) j)
    -- no function is payable: a value is refused before the function runs
    by_cases hvalue : value = 0
    swap
    · rw [if_neg hvalue]
      exact .nothing trivial
    rw [if_pos hvalue]
    cases call with
    | owner => exact .nothing rfl
    | pendingOwner => exact .nothing rfl
    | transferOwnership newOwner =>
      by_cases howner : sender = ownerOf address j
      · by_cases hzero : newOwner = 0
        · rw [run, transferOwnership, Prog.bind_assoc, advance_onlyOwner_bind, if_pos howner,
            if_pos hzero]
          exact begins_fail _
        · rw [advance_transferOwnership howner hzero]
          exact .hands (.nominates howner hzero) rfl
      · rw [run, transferOwnership, Prog.bind_assoc, advance_onlyOwner_bind, if_neg howner]
        exact begins_fail _
    | acceptOwnership =>
      by_cases hpending : sender = pendingOwnerOf address j
      · rw [advance_acceptOwnership hpending]
        exact .hands (.accepts hpending) rfl
      · rw [run, acceptOwnership, Prog.bind_assoc]
        -- the sender is compared before anything is written
        show Begins decode address sender data j
          (advance address ((if sender = pendingOwnerOf address j then _ else _) >>= _) j)
        rw [if_neg hpending]
        exact begins_fail _
    | cancelTransfer =>
      rw [run, cancelTransfer, Prog.bind_assoc, advance_onlyOwner_bind]
      by_cases howner : sender = ownerOf address j
      · rw [if_pos howner]
        exact .hands (.cancels howner) rfl
      · rw [if_neg howner]
        exact begins_fail _
    | execute target data =>
      rw [run, execute, Prog.bind_assoc]
      exact begins_of_onlyOwner hdecode ((serves_callTarget _ _ _).bind fun _ => serves_pure _)
    | executeBatch targets datas =>
      rw [run, executeBatch, Prog.bind_assoc]
      refine begins_of_onlyOwner hdecode ?_
      -- the lengths are compared before the first call is made
      by_cases hlength : targets.length = datas.length
      · rw [if_pos hlength]
        have hserves := (serves_executeEach (targets.zip datas) []).bind fun results =>
          serves_pure (Abi.dynamicArgs [Abi.bytesArrayTail results])
        rwa [List.append_nil] at hserves
      · rw [if_neg hlength]
        trivial
    | executeWithValue target data value =>
      rw [run, executeWithValue, Prog.bind_assoc]
      exact begins_of_onlyOwner hdecode ((serves_callTarget _ _ _).bind fun _ => serves_pure _)

/-! ## What a step of the handover changes -/

variable {j' : Journal} {a : Address}

/-- The owner is read from the storage of the proxy. -/
theorem ownerOf_congr (h : ∀ k, j'.storage address k = j.storage address k) :
    ownerOf address j' = ownerOf address j := by
  rw [ownerOf, ownerOf, h]

/-- The pending owner is read from the storage of the proxy. -/
theorem pendingOwnerOf_congr (h : ∀ k, j'.storage address k = j.storage address k) :
    pendingOwnerOf address j' = pendingOwnerOf address j := by
  rw [pendingOwnerOf, pendingOwnerOf, h]

/-- An address is read back from its slot. -/
theorem setWidth_setWidth (addr : Address) : (addr.setWidth 256).setWidth 160 = addr :=
  (BitVec.setWidth_setWidth_of_le addr (by decide)).trans (BitVec.setWidth_eq addr)

@[simp]
theorem ownerOf_emitLog (event : AdminProxyEvent) :
    ownerOf address (emitLog a j event) = ownerOf address j := rfl

/-- The owner is the one that was stored. -/
@[simp]
theorem ownerOf_sstore_ownerSlot (value : Address) :
    ownerOf address (j.sstore address ownerSlot (value.setWidth 256)) = value := by
  rw [ownerOf, Journal.storage_sstore, if_pos ⟨rfl, rfl⟩, setWidth_setWidth]

@[simp]
theorem pendingOwnerOf_emitLog (event : AdminProxyEvent) :
    pendingOwnerOf address (emitLog a j event) = pendingOwnerOf address j := rfl

/-- The pending owner is the one that was stored. -/
@[simp]
theorem pendingOwnerOf_sstore_pendingOwnerSlot (value : U256) :
    pendingOwnerOf address (j.sstore address pendingOwnerSlot value) = value.setWidth 160 := by
  rw [pendingOwnerOf, Journal.storage_sstore, if_pos ⟨rfl, rfl⟩]

/-- What is executed without a call changes no storage. -/
theorem Executes.storage (h : Executes address j j') (k : U256) :
    j'.storage a k = j.storage a k := by
  obtain ⟨logs, -, rfl⟩ := h
  rfl

/-- A step of the handover changes the storage of the proxy only. -/
theorem Hands.storage_of_ne (h : Hands address sender j j') (hne : a ≠ address) (k : U256) :
    j'.storage a k = j.storage a k := by
  have hsstore : ∀ (j : Journal) slot value,
      (j.sstore address slot value).storage a k = j.storage a k := by
    intro j slot value
    rw [Journal.storage_sstore, if_neg fun h => hne h.1]
  cases h with
  | nominates howner hzero => exact hsstore j _ _
  | accepts hpending => exact (hsstore _ _ _).trans (hsstore _ _ _)
  | cancels howner => exact hsstore j _ _

end AdminProxy

end EvReth.Contracts
