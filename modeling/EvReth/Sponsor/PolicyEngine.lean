import EvReth.Clients.SignedFields

/-!
# The policy of the sponsor service

`PolicyEngine` (`bin/sponsor-service/src/services/policy-engine.ts`) decides which intents the
service sponsors: those of its chain, signed by the executor that they name, within the limits for
gas and fee. An error has a code and an HTTP status (`bin/sponsor-service/src/errors.ts`).
-/

namespace EvReth.Sponsor

open Clients

/-! ## Errors -/

/-- `SponsorError`. -/
structure SponsorError where
  code : String
  message : String
  statusCode : ℕ := 400
  deriving DecidableEq, Repr

/-- What the service throws: an error of its own, or one of what it calls, by its message. -/
inductive Failure where
  | sponsor (e : SponsorError)
  | other (message : String)
  deriving DecidableEq, Repr

/-- `INVALID_INTENT`. -/
def invalidIntent (detail : String) : SponsorError :=
  { code := "INVALID_INTENT", message := "Invalid intent: " ++ detail }

/-- `INVALID_EXECUTOR_SIGNATURE`. -/
def invalidExecutorSignature : SponsorError :=
  { code := "INVALID_EXECUTOR_SIGNATURE"
    message := "Executor signature does not match declared executor address" }

/-- `CHAIN_ID_MISMATCH`. -/
def chainIdMismatch (expected got : ℤ) : SponsorError :=
  { code := "CHAIN_ID_MISMATCH"
    message := "Chain ID mismatch: expected " ++ toString expected ++ ", got " ++ toString got }

/-- `GAS_LIMIT_EXCEEDED`. -/
def gasLimitExceeded (max got : ℤ) : SponsorError :=
  { code := "GAS_LIMIT_EXCEEDED"
    message := "Gas limit " ++ toString got ++ " exceeds max " ++ toString max }

/-- `FEE_TOO_HIGH`. -/
def feeTooHigh (max got : ℤ) : SponsorError :=
  { code := "FEE_TOO_HIGH"
    message := "Max fee per gas " ++ toString got ++ " exceeds limit " ++ toString max }

/-- `SPONSOR_BALANCE_LOW`. -/
def sponsorBalanceLow : SponsorError :=
  { code := "SPONSOR_BALANCE_LOW"
    message := "Sponsor balance too low to guarantee gas payment"
    statusCode := 503 }

/-- `NODE_ERROR`. -/
def nodeError (detail : String) : SponsorError :=
  { code := "NODE_ERROR", message := "Node error: " ++ detail, statusCode := 502 }

/-! ## The policy -/

/-- `SponsorConfig`, as far as decisions depend on it. A `BigInt` of the environment may be
negative. -/
structure SponsorConfig where
  chainId : ℤ
  maxGasLimitPerTx : ℤ
  maxFeePerGasLimit : ℤ
  minSponsorBalance : ℤ
  deriving DecidableEq, Repr

variable (viem : Viem) (viemCrypto : ViemCrypto) (config : SponsorConfig)

/-- `PolicyEngine.validate`. Addresses are compared without regard to case, as digits are here. -/
def validate (intent : SponsorableIntent) : Except Failure Unit := do
  (validateEvNodeTx intent.tx).mapError fun e => .sponsor (invalidIntent e)
  if (intent.tx.chainId : ℤ) ≠ config.chainId then
    .error (.sponsor (chainIdMismatch config.chainId intent.tx.chainId))
  else
    -- viem throws if the signature recovers to nobody
    let recoveredExecutor ←
      (recoverExecutor viem viemCrypto
        { transaction := intent.tx, executorSignature := intent.executorSignature }).mapError .other
    if recoveredExecutor ≠ intent.executorAddress then
      .error (.sponsor invalidExecutorSignature)
    else if config.maxGasLimitPerTx < intent.tx.gasLimit then
      .error (.sponsor (gasLimitExceeded config.maxGasLimitPerTx intent.tx.gasLimit))
    else if config.maxFeePerGasLimit < intent.tx.maxFeePerGas then
      .error (.sponsor (feeTooHigh config.maxFeePerGasLimit intent.tx.maxFeePerGas))
    else
      .ok ()

/-- What the service stands for with its signature. -/
structure Approved (intent : SponsorableIntent) : Prop where
  shape : validateEvNodeTx intent.tx = .ok ()
  chainId : (intent.tx.chainId : ℤ) = config.chainId
  executor : recoverExecutor viem viemCrypto
    { transaction := intent.tx, executorSignature := intent.executorSignature } =
      .ok intent.executorAddress
  gasLimit : (intent.tx.gasLimit : ℤ) ≤ config.maxGasLimitPerTx
  maxFeePerGas : (intent.tx.maxFeePerGas : ℤ) ≤ config.maxFeePerGasLimit

variable {viem viemCrypto config} {intent : SponsorableIntent}

/-- The policy lets pass what is approved, and nothing else. -/
theorem validate_eq_ok_iff :
    validate viem viemCrypto config intent = .ok () ↔ Approved viem viemCrypto config intent := by
  rw [validate, Except.check_eq_ok_iff, Except.mapError_eq_ok_iff, Except.ite_error_eq_ok_iff,
    Except.bind_eq_ok_iff, not_not]
  simp only [Except.mapError_eq_ok_iff, Except.ite_error_eq_ok_iff, not_not, not_lt, and_true]
  -- the conjunction is in the order of the checks
  constructor
  · rintro ⟨hshape, hchain, executor, hrecover, rfl, hgas, hfee⟩
    exact ⟨hshape, hchain, hrecover, hgas, hfee⟩
  · intro h
    exact ⟨h.shape, h.chainId, _, h.executor, rfl, h.gasLimit, h.maxFeePerGas⟩

end EvReth.Sponsor
