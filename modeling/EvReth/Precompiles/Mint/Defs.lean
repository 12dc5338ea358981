import EvReth.Revm.Journal

/-!
# The mint precompile

The stateful precompile at `0xF100` (`crates/ev-precompiles/src/mint.rs`): five ABI entry points
that mint and burn the native token and edit an allowlist kept in the precompile's own storage.

The functions run in `EStateM`, which keeps the journal as it stands when an error is thrown: the
source works through `&mut EvmInternals`, so whatever was written before a `?` stays written. What
an error undoes is decided by the caller of the precompile, not here.

The ABI decoder comes from the `sol!` macro and is a parameter of `MintPrecompile.call`.
-/

namespace EvReth

/-- The calls of the `INativeToken` interface. -/
inductive INativeTokenCalls where
  | mint (dest : Address) (amount : U256)
  | burn (source : Address) (amount : U256)
  | addToAllowList (account : Address)
  | removeFromAllowList (account : Address)
  | allowlist (account : Address)
  deriving DecidableEq, Repr

/-- `PrecompileError`: an error that aborts the transaction. -/
inductive PrecompileError where
  | fatal (msg : String)
  deriving DecidableEq, Repr

/-- `PrecompileHalt`: a failure of the call that the EVM reports to its caller. -/
inductive PrecompileHalt where
  | other (msg : String)
  deriving DecidableEq, Repr

/-- Status of a completed precompile call. -/
inductive PrecompileStatus where
  | success
  | halt (reason : PrecompileHalt)
  deriving DecidableEq, Repr

/-- `PrecompileOutput`. -/
structure PrecompileOutput where
  gasUsed : U64
  bytes : Bytes
  reservoir : U64
  status : PrecompileStatus
  deriving DecidableEq, Repr

/-- `PrecompileOutput::new`. -/
def PrecompileOutput.new (gasUsed : U64) (bytes : Bytes) (reservoir : U64) : PrecompileOutput :=
  { gasUsed, bytes, reservoir, status := .success }

/-- `PrecompileOutput::halt`. -/
def PrecompileOutput.halt (reason : PrecompileHalt) (reservoir : U64) : PrecompileOutput :=
  { gasUsed := 0, bytes := [], reservoir, status := .halt reason }

/-- `PrecompileResult`. -/
abbrev PrecompileResult := Except PrecompileError PrecompileOutput

/-- `PrecompileInput`: the call as the EVM presents it to a precompile. -/
structure PrecompileInput where
  data : Bytes
  gas : U64
  reservoir : U64
  caller : Address
  value : U256
  targetAddress : Address
  isStatic : Bool
  bytecodeAddress : Address
  internals : Journal

/-- `MintPrecompileError`. -/
inductive MintPrecompileError where
  | fatal (err : PrecompileError)
  | halt (reason : PrecompileHalt)
  deriving DecidableEq, Repr

/-- `MintPrecompileResult`, with the `&mut EvmInternals` that every helper threads. -/
abbrev MintPrecompileM := EStateM MintPrecompileError Journal

/-! ## The ABI of the interface -/

namespace INativeTokenCalls

/-- The 32-byte argument word at position `i`, as a number. -/
def argumentWord (data : Bytes) (i : ℕ) : ℕ :=
  (((data.drop (4 + 32 * i)).take 32).foldl (fun acc byte => 256 * acc + byte.toNat) 0)

/-- Solidity's ABI for the five calls: a four-byte selector and one 32-byte word per argument. It is
the decoder that concrete examples use; the results about `MintPrecompile.call` hold for any. -/
def solDecode (data : Bytes) : Except String INativeTokenCalls :=
  if data.length < 36 then .error "calldata too short"
  else
    -- the first argument of every call is an address, in the low bytes of its word
    let account : Address := BitVec.ofNat 160 (argumentWord data 0)
    let amount : U256 := BitVec.ofNat 256 (argumentWord data 1)
    match data.take 4 with
    | [0x40, 0xc1, 0x0f, 0x19] =>
      if data.length < 68 then .error "calldata too short" else .ok (.mint account amount)
    | [0x9d, 0xc2, 0x9f, 0xac] =>
      if data.length < 68 then .error "calldata too short" else .ok (.burn account amount)
    | [0x31, 0xf5, 0x91, 0x02] => .ok (.addToAllowList account)
    | [0xeb, 0xa8, 0xda, 0xbc] => .ok (.removeFromAllowList account)
    | [0xa7, 0xcd, 0x52, 0xcb] => .ok (.allowlist account)
    | _ => .error "unknown selector"

end INativeTokenCalls

/-! ## `EvmInternals` -/

namespace EvmInternals

/-- `load_account`. -/
def loadAccount (addr : Address) : EStateM DbError Journal Account := fun j =>
  match j.loadAccount addr with
  | .ok account => .ok account j
  | .error e => .error e j

/-- `touch_account`. -/
def touchAccount (addr : Address) : EStateM DbError Journal Unit := do
  let _ ← loadAccount addr
  modify (·.touch addr)

/-- `set_code`. -/
def setCode (addr : Address) (code : Bytes) : EStateM DbError Journal Unit := do
  let _ ← loadAccount addr
  modify (·.setCode addr code)

/-- `load_account_mut(addr)?.set_nonce(nonce)`. -/
def setNonce (addr : Address) (nonce : U64) : EStateM DbError Journal Unit := do
  let _ ← loadAccount addr
  modify (·.setNonce addr nonce)

/-- `load_account_mut(addr)?.incr_balance(amount)`. -/
def incrBalance (addr : Address) (amount : U256) : EStateM DbError Journal Bool := do
  let _ ← loadAccount addr
  modifyGet (·.incrBalance addr amount)

/-- `load_account_mut(addr)?.decr_balance(amount)`. -/
def decrBalance (addr : Address) (amount : U256) : EStateM DbError Journal Bool := do
  let _ ← loadAccount addr
  modifyGet (·.decrBalance addr amount)

/-- Fail when the first load of a storage slot fails. -/
def loadSlot (addr : Address) (key : U256) : EStateM DbError Journal U256 := fun j =>
  match j.storageError addr key with
  | some e => .error e j
  | none => .ok (j.storage addr key) j

/-- `sload`. -/
def sload (addr : Address) (key : U256) : EStateM DbError Journal U256 := do
  let _ ← loadAccount addr
  loadSlot addr key

/-- `sstore`; the slot's present value is read before it is replaced. -/
def sstore (addr : Address) (key value : U256) : EStateM DbError Journal Unit := do
  let _ ← loadAccount addr
  let _ ← loadSlot addr key
  modify (·.sstore addr key value)

end EvmInternals

/-! ## `MintPrecompile` -/

/-- `MINT_PRECOMPILE_ADDR`. -/
def mintPrecompileAddr : Address := 0xF100

/-- The precompile, with its configured admin. -/
structure MintPrecompile where
  admin : Address
  deriving DecidableEq, Repr

namespace MintPrecompile

/-- The code installed at the precompile's address. -/
def bytecode : Bytes := [0xFE]

/-- `MintPrecompileError::halt_static`. -/
def haltStatic (reason : String) : MintPrecompileError := .halt (.other reason)

/-- `map_internals_error`. -/
def mapInternalsError (err : DbError) : MintPrecompileError := .fatal (.fatal err)

/-- `.map_err(Self::map_internals_error)`. -/
def mapErr {α : Type} (x : EStateM DbError Journal α) : MintPrecompileM α :=
  x.adaptExcept mapInternalsError

/-- `ensure_account_created`. -/
def ensureAccountCreated (addr : Address) : MintPrecompileM Unit := do
  let account ← mapErr (EvmInternals.loadAccount addr)
  if account.loadedAsNotExisting then
    if addr = mintPrecompileAddr then
      -- keep the account non-empty, so that state clearing does not drop its storage
      mapErr (EvmInternals.setCode addr bytecode)
      mapErr (EvmInternals.setNonce addr 1)
    mapErr (EvmInternals.touchAccount addr)

/-- `add_balance`. -/
def addBalance (addr : Address) (amount : U256) : MintPrecompileM Unit := do
  if !(← mapErr (EvmInternals.incrBalance addr amount)) then
    throw (haltStatic "balance overflow")

/-- `sub_balance`. -/
def subBalance (addr : Address) (amount : U256) : MintPrecompileM Unit := do
  if !(← mapErr (EvmInternals.decrBalance addr amount)) then
    throw (haltStatic "insufficient balance")

/-- `allowlist_key`: the address, zero-extended to a storage key. -/
def allowlistKey (addr : Address) : U256 := addr.setWidth 256

/-- `is_allowlisted`. -/
def isAllowlisted (addr : Address) : MintPrecompileM Bool := do
  ensureAccountCreated mintPrecompileAddr
  let value ← mapErr (EvmInternals.sload mintPrecompileAddr (allowlistKey addr))
  return value != 0

/-- `set_allowlisted`. -/
def setAllowlisted (addr : Address) (allowed : Bool) : MintPrecompileM Unit := do
  ensureAccountCreated mintPrecompileAddr
  let value : U256 := if allowed then 1 else 0
  mapErr (EvmInternals.sstore mintPrecompileAddr (allowlistKey addr) value)
  -- without the touch the slot would not be written back
  mapErr (EvmInternals.touchAccount mintPrecompileAddr)

/-- Solidity's ABI encoding of a `bool` return value: one 32-byte word. -/
def abiEncodeBool (b : Bool) : Bytes := List.replicate 31 0 ++ [if b then 1 else 0]

variable (self : MintPrecompile)

/-- `ensure_admin`. -/
def ensureAdmin (caller : Address) : MintPrecompileM Unit :=
  if caller = self.admin then pure () else throw (haltStatic "unauthorized caller")

/-- `ensure_authorized`. -/
def ensureAuthorized (caller : Address) : MintPrecompileM Unit := do
  if caller = self.admin then
    return
  -- the lookup may create the account of the precompile, even if it then refuses
  if !(← isAllowlisted caller) then
    throw (haltStatic "unauthorized caller")

/-- The closure of `call` that dispatches a decoded call. -/
def dispatch (caller : Address) : INativeTokenCalls → MintPrecompileM Bytes
  | .mint dest amount => do
    -- the caller is checked before the account is loaded
    self.ensureAuthorized caller
    ensureAccountCreated dest
    addBalance dest amount
    mapErr (EvmInternals.touchAccount dest)
    return []
  | .burn source amount => do
    self.ensureAuthorized caller
    ensureAccountCreated source
    subBalance source amount
    mapErr (EvmInternals.touchAccount source)
    return []
  | .addToAllowList account => do
    self.ensureAdmin caller
    setAllowlisted account true
    return []
  | .removeFromAllowList account => do
    self.ensureAdmin caller
    setAllowlisted account false
    return []
  | .allowlist account => do
    -- anyone may ask
    return abiEncodeBool (← isAllowlisted account)

/-- `call`: decode, dispatch, and report the outcome together with the journal it leaves. -/
def call (abiDecode : Bytes → Except String INativeTokenCalls) (input : PrecompileInput) :
    PrecompileResult × Journal :=
  match abiDecode input.data with
  -- undecodable calldata is a halt of the call, not an error of the transaction
  | .error e => (.ok (.halt (.other e) input.reservoir), input.internals)
  | .ok decoded =>
    match self.dispatch input.caller decoded input.internals with
    | .ok bytes j => (.ok (.new 0 bytes input.reservoir), j)
    | .error (.halt reason) j => (.ok (.halt reason input.reservoir), j)
    | .error (.fatal err) j => (.error err, j)

end MintPrecompile

end EvReth
