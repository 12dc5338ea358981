import EvReth.Foundations.StateExcept
import EvReth.Revm.Deploy
import EvReth.Revm.Journal
import EvReth.Revm.TxEnv

/-!
# The context of the handler

What `EvHandler` (`crates/ev-revm/src/handler.rs`) works on: configuration, block, transaction and
journal, the gas bookkeeping of a frame, and the phases of revm's mainnet handler.

revm is not part of this repository. Its phases are the fields of `Mainnet`, and the results about
`EvHandler` hold for every choice of them that has the documented behaviour a result names. What the
code of this repository does with them is written out.

A handler function may fail with an error of the transaction or of the database, or panic; the two
are kept apart by `Failure`.
-/

namespace EvReth

/-- The options of the configuration that the handler reads. -/
structure Cfg where
  isPragueEnabled : Bool := true
  isBalanceCheckDisabled : Bool := false
  isEip3607Disabled : Bool := false
  isNonceCheckDisabled : Bool := false
  isEip7623Disabled : Bool := false
  isAmsterdamEip8037Enabled : Bool := false
  txGasLimitCap : U64 := BitVec.allOnes 64
  deriving DecidableEq, Repr

/-- The fields of the block environment that the handler reads. -/
structure BlockEnv where
  number : U256
  beneficiary : Address
  basefee : U64
  blobGasprice : Option U128 := none
  deriving DecidableEq, Repr

/-- The context: everything a phase of the handler may read or write. -/
structure Ctx where
  cfg : Cfg := {}
  block : BlockEnv
  tx : EvTxEnv
  journal : Journal

/-- `EVMError`, as far as it occurs here. -/
inductive HandlerError where
  | transaction (e : InvalidTransaction)
  | database (e : DbError)
  | custom (msg : String)
  deriving DecidableEq, Repr

/-- How a handler function fails: with an error that it returns, or by a panic. -/
inductive Failure where
  | error (e : HandlerError)
  | panic (msg : String)
  deriving DecidableEq, Repr

/-- A phase of the handler. -/
abbrev HandlerM := EStateM Failure Ctx

/-- A function that works on the journal only. -/
abbrev JournalM := EStateM Failure Journal

/-- Run a function on the journal of the context. -/
def onJournal {α : Type} (x : JournalM α) : HandlerM α := fun ctx =>
  match x ctx.journal with
  | .ok a j => .ok a { ctx with journal := j }
  | .error e j => .error e { ctx with journal := j }

/-- `load_account_mut(addr)?` and `load_account_with_code_mut(addr)?`. -/
def loadAccount (addr : Address) : JournalM Account := fun j =>
  match j.loadAccount addr with
  | .ok account => .ok account j
  | .error e => .error (.error (.database e)) j

/-- Return the outcome of a check, without a change of the journal. -/
def ofExcept {α : Type} (x : Except Failure α) : JournalM α := fun j =>
  match x with
  | .ok a => .ok a j
  | .error e => .error e j

/-! ## Gas -/

/-- `Gas`: the gas bookkeeping of a frame or of a whole transaction. -/
structure Gas where
  limit : U64
  remaining : U64
  /-- An `i64`. -/
  refunded : ℤ
  reservoir : U64
  stateGasSpent : U64
  deriving DecidableEq, Repr

namespace Gas

/-- `Gas::new_spent`: nothing is left. -/
def newSpent (limit : U64) : Gas :=
  { limit, remaining := 0, refunded := 0, reservoir := 0, stateGasSpent := 0 }

variable (self : Gas)

/-- `erase_cost`. -/
def eraseCost (returned : U64) : Gas := { self with remaining := self.remaining + returned }

/-- `record_refund`. -/
def recordRefund (refund : ℤ) : Gas := { self with refunded := self.refunded + refund }

/-- `set_state_gas_spent`. -/
def setStateGasSpent (spent : U64) : Gas := { self with stateGasSpent := spent }

/-- `set_reservoir`. -/
def setReservoir (reservoir : U64) : Gas := { self with reservoir }

/-- `spent`. -/
def spent : U64 := self.limit.saturatingSub self.remaining

/-- `refunded() as u64`. -/
def refundedU64 : U64 := BitVec.ofInt 64 self.refunded

/-- `spent_sub_refunded`. -/
def spentSubRefunded : U64 := self.spent.saturatingSub self.refundedU64

end Gas

/-- `i64::saturating_add`. -/
def saturatingAddI64 (a b : ℤ) : ℤ := max (-2 ^ 63) (min (2 ^ 63 - 1) (a + b))

/-- `InitialAndFloorGas`. -/
structure InitialAndFloorGas where
  initialTotalGas : U64
  initialStateGas : U64
  floorGas : U64
  eip7702ReservoirRefund : U64 := 0
  deriving DecidableEq, Repr

/-- `ResultGas`: the gas figures of an execution result, as `tx_gas_used`, `block_regular_gas_used`
and `block_state_gas_used` report them. -/
structure ResultGas where
  gasUsed : U64
  refunded : U64
  floorGas : U64
  blockRegularGasUsed : U64 := gasUsed
  blockStateGasUsed : U64 := 0
  deriving DecidableEq, Repr

/-! ## Frames -/

/-- `InstructionResult`: how a frame has ended. Every result that is neither a success nor one of
the reverting ones is an exceptional halt; the handler does not tell these apart. -/
inductive InstructionResult where
  | stop
  | ret
  | selfDestruct
  | revert
  | callTooDeep
  | outOfFunds
  | createInitCodeStartingEF00
  | invalidEOFInitCode
  | invalidExtDelegateCallTarget
  | halt (code : UInt8)
  deriving DecidableEq, Repr

namespace InstructionResult

/-- `is_ok`. -/
def isOk : InstructionResult → Bool
  | .stop | .ret | .selfDestruct => true
  | _ => false

/-- `is_revert`. -/
def isRevert : InstructionResult → Bool
  | .revert | .callTooDeep | .outOfFunds | .createInitCodeStartingEF00 | .invalidEOFInitCode
  | .invalidExtDelegateCallTarget => true
  | _ => false

/-- `is_ok_or_revert`. -/
def isOkOrRevert (r : InstructionResult) : Bool := r.isOk || r.isRevert

end InstructionResult

/-- `FrameInit`: the first frame of a transaction or of a batched call. -/
structure FrameInit where
  caller : Address
  kind : TxKind
  value : U256
  data : Bytes
  gasLimit : U64
  reservoir : U64
  deriving DecidableEq, Repr

/-- `FrameResult`. -/
structure FrameResult where
  result : InstructionResult
  output : Bytes
  createdAddress : Option Address
  gas : Gas
  deriving DecidableEq, Repr

/-- `ExecutionResult`: status, gas, logs and output of a transaction. -/
structure ExecutionResult where
  result : InstructionResult
  gas : ResultGas
  logs : List Log
  output : Bytes
  createdAddress : Option Address
  deriving DecidableEq, Repr

/-! ## The mainnet handler -/

/-- The phases of revm's `MainnetHandler` and the functions of revm that `EvHandler` calls. -/
structure Mainnet where
  validateEnv : HandlerM Unit
  validateInitialTxGas : HandlerM InitialAndFloorGas
  /-- `calculate_initial_tx_gas` of the configured spec, for input and kind alone. -/
  calculateInitialTxGas : Cfg → Bytes → Bool → InitialAndFloorGas
  loadAccounts : HandlerM Unit
  /-- The refund, and the initial gas with its reservoir refund set. -/
  applyEip7702AuthList : InitialAndFloorGas → HandlerM (U64 × InitialAndFloorGas)
  /-- `initial_gas_and_reservoir` for a gas limit, under a configuration. -/
  initialGasAndReservoir : InitialAndFloorGas → U64 → Cfg → U64 × U64
  firstFrameInput : U64 → U64 → HandlerM FrameInit
  runExecLoop : FrameInit → HandlerM FrameResult
  lastFrameResult : FrameResult → HandlerM FrameResult
  refund : Ctx → FrameResult → U64 → FrameResult
  buildResultGas : Gas → InitialAndFloorGas → ResultGas
  eip7623CheckGasFloor : Ctx → FrameResult → InitialAndFloorGas → FrameResult
  reimburseCaller : FrameResult → HandlerM Unit
  rewardBeneficiary : Gas → HandlerM Unit
  executionResult : FrameResult → ResultGas → HandlerM ExecutionResult

/-- `Handler::execution` as revm provides it: one frame for the whole transaction. -/
def Mainnet.execution (inner : Mainnet) (gas : InitialAndFloorGas) : HandlerM FrameResult := do
  let ctx ← get
  -- the whole gas of the transaction goes to the one frame
  let (gasLimit, reservoir) :=
    inner.initialGasAndReservoir gas ctx.tx.inner.gasLimit ctx.cfg
  let frameInput ← inner.firstFrameInput gasLimit reservoir
  let frameResult ← inner.runExecLoop frameInput
  inner.lastFrameResult frameResult

end EvReth
