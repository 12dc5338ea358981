import EvReth.Primitives.Transaction

/-!
# The transaction environment

`TxEnv` is revm's transaction environment with the default methods of its `Transaction` trait that
the handler calls; `EvTxEnv` (`crates/ev-revm/src/tx_env.rs`) wraps it with the sponsor and the
calls of an EvNode transaction.
-/

namespace EvReth

/-- `TransactionType`. -/
inductive TransactionType where
  | legacy
  | eip2930
  | eip1559
  | eip4844
  | eip7702
  | custom
  deriving DecidableEq, Repr

/-- revm's `TxEnv`. Of the authorization list only its length is read here. -/
structure TxEnv where
  txType : TransactionType := .legacy
  caller : Address := 0
  gasLimit : U64 := 30000000
  gasPrice : U128 := 0
  kind : TxKind := .call 0
  value : U256 := 0
  data : Bytes := []
  nonce : U64 := 0
  chainId : Option U64 := some 1
  accessList : AccessList := []
  gasPriorityFee : Option U128 := none
  blobHashes : List B256 := []
  maxFeePerBlobGas : U128 := 0
  authorizationListLen : ℕ := 0
  deriving DecidableEq, Repr

/-- Errors of transaction validation (`InvalidTransaction`). -/
inductive InvalidTransaction where
  | rejectCallerWithCode
  | nonceTooHigh (tx state : U64)
  | nonceTooLow (tx state : U64)
  | lackOfFundForMaxFee (fee balance : U256)
  | overflowPaymentInTransaction
  | callGasCostMoreThanGasLimit (gasLimit initialGas : U64)
  | gasFloorMoreThanGasLimit (gasFloor gasLimit : U64)
  | other (msg : String)
  deriving DecidableEq, Repr

namespace TxEnv

variable (tx : TxEnv)

/-- `max_fee_per_gas`. -/
def maxFeePerGas : U128 := tx.gasPrice

/-- `effective_gas_price`. From EIP-1559 on, `gas_price` is the maximal price. -/
def effectiveGasPrice (basefee : U128) : U128 :=
  if tx.txType = .legacy ∨ tx.txType = .eip2930 then tx.gasPrice
  else
    match tx.gasPriorityFee with
    | none => tx.gasPrice
    | some priority =>
      -- the base fee and the tip, capped by the stated price
      let price := basefee.saturatingAdd priority
      if tx.gasPrice ≤ price then tx.gasPrice else price

/-- `total_blob_gas`: `2 ^ 17` for each blob. -/
def totalBlobGas : U64 := 131072 * BitVec.ofNat 64 tx.blobHashes.length

/-- `effective_balance_spending`: gas at the effective price in checked `u128`, then value and blob
cost in checked `U256`. -/
def effectiveBalanceSpending (basefee blobPrice : U128) : Except InvalidTransaction U256 :=
  match (tx.gasLimit.setWidth 128).checkedMul (tx.effectiveGasPrice basefee) with
  | none => .error .overflowPaymentInTransaction
  | some gasCost =>
    match (gasCost.setWidth 256).checkedAdd tx.value with
    | none => .error .overflowPaymentInTransaction
    | some spending =>
      -- blob gas is charged to blob transactions only
      if tx.txType = .eip4844 then
        let blobCost := blobPrice.saturatingMul (tx.totalBlobGas.setWidth 128)
        match spending.checkedAdd (blobCost.setWidth 256) with
        | none => .error .overflowPaymentInTransaction
        | some spending => .ok spending
      else .ok spending

/-- The effective price is at most the price that the transaction states. -/
theorem effectiveGasPrice_le_maxFeePerGas (basefee : U128) :
    (tx.effectiveGasPrice basefee).toNat ≤ tx.maxFeePerGas.toNat := by
  unfold effectiveGasPrice maxFeePerGas
  split_ifs
  · exact le_rfl
  · cases tx.gasPriorityFee with
    | none => exact le_rfl
    -- the minimum of the stated price and another one
    | some priority =>
      simp only
      split_ifs with h
      · exact le_rfl
      · exact (not_le.mp (mt BitVec.le_def.mpr h)).le

end TxEnv

/-- `EvTxEnv`. -/
structure EvTxEnv where
  inner : TxEnv
  sponsor : Option Address
  sponsorSignatureInvalid : Bool
  calls : List Call
  batchValue : U256
  isEvnode : Bool
  deriving DecidableEq, Repr

namespace EvTxEnv

/-- `new`: a standard transaction. -/
def new (inner : TxEnv) : EvTxEnv :=
  { inner
    sponsor := none
    sponsorSignatureInvalid := false
    calls := []
    batchValue := inner.value
    isEvnode := false }

/-- The EvNode case of `from_recovered_tx`. `recoverSponsor` is the recovery of the sponsor's
address from its signature over the sponsor preimage. -/
def fromEvNode (recoverSponsor : EvNodeTransaction → Address → Signature → Option Address)
    (tx : EvNodeTransaction) (sender : Address) : EvTxEnv :=
  let recovered :=
    match tx.feePayerSignature with
    | some signature =>
      match recoverSponsor tx sender signature with
      | some sponsor => (some sponsor, false)
      -- a signature without a signer is only marked here; the handler refuses the transaction
      | none => (none, true)
    | none => (none, false)
  { inner :=
      { caller := sender
        gasLimit := tx.gasLimit
        gasPrice := tx.maxFeePerGas
        gasPriorityFee := some tx.maxPriorityFeePerGas
        kind := tx.kind
        value := saturatingValueSum tx.calls
        data := tx.input
        nonce := tx.nonce
        chainId := some tx.chainId
        accessList := tx.accessList
        txType := .eip1559 }
    sponsor := recovered.1
    sponsorSignatureInvalid := recovered.2
    calls := tx.calls
    batchValue := saturatingValueSum tx.calls
    isEvnode := true }

variable (self : EvTxEnv)

/-- `set_call`. -/
def setCall (call : Call) : EvTxEnv :=
  -- the calls and the batch value stay those of the whole batch
  { self with inner :=
    { self.inner with kind := call.dest, value := call.value, data := call.input } }

/-- `batch_calls`. -/
def batchCalls : Option (List Call) :=
  -- an EvNode transaction has a list of calls even if it is empty
  if self.isEvnode || !self.calls.isEmpty then some self.calls else none

/-- `batch_total_value`. -/
def batchTotalValue : U256 := self.batchValue

/-- `set_batch_call`. -/
def setBatchCall (call : Call) : EvTxEnv := self.setCall call

/-- The environments that the node builds: from a standard transaction, or from an EvNode
transaction and its sender. -/
inductive Built : EvTxEnv → Prop
  | new (inner : TxEnv) : Built (EvTxEnv.new inner)
  | fromEvNode (recoverSponsor : EvNodeTransaction → Address → Signature → Option Address)
      (tx : EvNodeTransaction) (sender : Address) :
      Built (EvTxEnv.fromEvNode recoverSponsor tx sender)

/-- The batch of the environment has at least two calls. -/
def IsBatch : Prop := ∃ calls, self.batchCalls = some calls ∧ 2 ≤ calls.length

variable {self}

/-- The value of a built environment is that of all its calls. -/
theorem Built.batchTotalValue_eq (h : self.Built) : self.batchTotalValue = self.inner.value := by
  cases h <;> rfl

/-- Batches and sponsored transactions carry no EIP-7702 authorizations. -/
theorem Built.txType_ne_eip7702 (h : self.Built)
    (hev : self.batchCalls.isSome ∨ self.sponsor.isSome) : self.inner.txType ≠ .eip7702 := by
  cases h with
  -- a standard transaction has neither calls nor a sponsor
  | new inner => rcases hev with hev | hev <;> cases hev
  | fromEvNode recoverSponsor tx sender => exact nofun

/-- The kind of a batch is that of its first call. -/
theorem Built.kind_eq (h : self.Built) {first : Call} {rest : List Call}
    (hcalls : self.batchCalls = some (first :: rest)) : self.inner.kind = first.dest := by
  cases h with
  | new inner => cases hcalls
  | fromEvNode recoverSponsor tx sender =>
    have hcalls' : tx.calls = first :: rest := Option.some.inj hcalls
    change tx.kind = first.dest
    simp [EvNodeTransaction.kind, EvNodeTransaction.firstCall, hcalls']

end EvTxEnv

end EvReth
