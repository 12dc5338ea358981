import EvReth.Clients.Representation
import EvReth.Node.Admission

/-!
# The client's default gas limit

A transaction for which the user names no gas limit gets the one of `estimateIntrinsicGas`
(`clients/src/encoding.ts`, `clients/src/client.ts`). The estimate counts a base cost for the
transaction and one for each call, where the node counts the latter only. It leaves out the access
list, the words of init code and the floor of EIP-7623, and covers what the node asks for exactly if
these fit into the base cost.
-/

namespace EvReth

/-! ## What the node asks for -/

/-- The bytes of some data that are zero. -/
def zeroBytes (data : Bytes) : ℕ := data.countP (· = 0)

/-- The bytes of some data that are not zero. -/
def nonZeroBytes (data : Bytes) : ℕ := data.countP (· ≠ 0)

/-- Two gas for each word of init code (EIP-3860). -/
def initCodeGas (input : Bytes) (isCreate : Bool) : ℕ :=
  if isCreate then 2 * ((input.length + 31) / 32) else 0

/-- The initial gas of a call under Prague. -/
def pragueInitialGas (input : Bytes) (isCreate : Bool) : ℕ :=
  21000 + 4 * zeroBytes input + 16 * nonZeroBytes input + (if isCreate then 32000 else 0) +
    initCodeGas input isCreate

/-- The floor of EIP-7623: a byte that is not zero is four tokens. -/
def pragueFloorGas (input : Bytes) : ℕ := 21000 + 10 * (zeroBytes input + 4 * nonZeroBytes input)

/-- What is relied on of revm: `calculate_initial_tx_gas` uses the constants of Prague. Gas beyond
the largest `u64`, which no input that fits into memory needs, counts as that. -/
def Mainnet.CountsPragueGas (inner : Mainnet) : Prop :=
  ∀ cfg input isCreate, Cfg.isPragueEnabled cfg = true →
    (inner.calculateInitialTxGas cfg input isCreate).initialTotalGas.toNat =
        min (pragueInitialGas input isCreate) (2 ^ 64 - 1) ∧
      (inner.calculateInitialTxGas cfg input isCreate).floorGas.toNat =
        min (pragueFloorGas input) (2 ^ 64 - 1)

/-- The rules of Prague, with EIP-7623 and without EIP-8037. -/
structure Cfg.IsPrague (cfg : Cfg) : Prop where
  prague : cfg.isPragueEnabled = true
  eip7623 : cfg.isEip7623Disabled = false
  eip8037 : cfg.isAmsterdamEip8037Enabled = false

/-- A clamped sum does not change if its parts are clamped before. -/
theorem min_sum_map_min {α : Type} (f : α → ℕ) (xs : List α) (rest bound : ℕ) :
    min ((xs.map fun x => min (f x) bound).sum + rest) bound =
      min ((xs.map f).sum + rest) bound := by
  induction xs generalizing rest with
  | nil => rfl
  | cons x xs ih =>
    have htail := ih (f x + rest)
    simp only [List.map_cons, List.sum_cons]
    omega

/-- The need of calls under Prague. -/
theorem total_of_prague {inner : Mainnet} {cfg : Cfg} (hcounts : inner.CountsPragueGas)
    (hrules : cfg.IsPrague) (accessList : AccessList) (calls : List Call) :
    (GasNeed.total inner cfg accessList calls).initial =
        min ((calls.map fun call => pragueInitialGas call.input call.dest.isCreate).sum +
          GasNeed.ofAccessList accessList) (2 ^ 64 - 1) ∧
      (GasNeed.total inner cfg accessList calls).floor =
        min (calls.map fun call => pragueFloorGas call.input).sum (2 ^ 64 - 1) := by
  have hinitial (call : Call) := (hcounts cfg call.input call.dest.isCreate hrules.prague).1
  have hfloor (call : Call) := (hcounts cfg call.input call.dest.isCreate hrules.prague).2
  simp only [GasNeed.total, GasNeed.ofCalls, hrules.prague, hrules.eip7623, hinitial, hfloor]
  refine ⟨min_sum_map_min _ calls _ _, ?_⟩
  exact min_sum_map_min (fun call : Call => pragueFloorGas call.input) calls 0 _

end EvReth

namespace EvReth.Clients

/-! ## The estimate -/

/-- `BASE_TX_GAS`. -/
def baseTxGas : ℕ := 21000

/-- `CREATE_GAS`. -/
def createGas : ℕ := 32000

/-- `isCreateCall`. -/
def isCreateCall (call : Call) : Bool := call.dest.isNone

/-- `estimateIntrinsicGas`. -/
def estimateIntrinsicGas (calls : List Call) : ℕ :=
  calls.foldl (fun gas call =>
    let gas := gas + baseTxGas
    let gas := if isCreateCall call then gas + createGas else gas
    (Hex.toBytes call.data).foldl (fun gas byte => if byte = 0 then gas + 4 else gas + 16) gas)
    baseTxGas

/-- `validateEvNodeTx`. -/
def validateEvNodeTx (tx : EvNodeTransaction) : Except String Unit :=
  if tx.calls.length = 0 then
    .error "EvNode transaction must include at least one call"
  else if (tx.calls.drop 1).any isCreateCall then
    .error "Only the first call may be CREATE"
  else .ok ()

/-! ## The fields that a user may leave out -/

/-- viem's `Client`: what the node answers to a request, if the request succeeds. An answer that is
not hexadecimal is `none`. -/
structure Client where
  ethChainId : Except String (Option Hex)
  ethGetTransactionCount : Hex → String → Except String (Option Hex)
  ethMaxPriorityFeePerGas : Except String (Option Hex)
  ethGasPrice : Except String (Option Hex)

/-- A number that is fetched with a method. -/
def fetchNumber (method : String) (request : Except String (Option Hex)) : Except String ℕ := do
  match ← request with
  | none => throw (method ++ " returned non-hex")
  | some result => hexToBigIntSafe (.leaf result)

/-- `fetchChainId`. -/
def fetchChainId (client : Client) : Except String ℕ := fetchNumber "eth_chainId" client.ethChainId

/-- `fetchNonce`. -/
def fetchNonce (client : Client) (address : Hex) : Except String ℕ :=
  fetchNumber "eth_getTransactionCount" (client.ethGetTransactionCount address "pending")

/-- `fetchMaxPriorityFee`. Whatever goes wrong, there is no tip. -/
def fetchMaxPriorityFee (client : Client) : Except String ℕ :=
  tryCatch (fetchNumber "eth_maxPriorityFeePerGas" client.ethMaxPriorityFeePerGas) fun _ => pure 0

/-- `fetchGasPrice`. -/
def fetchGasPrice (client : Client) : Except String ℕ :=
  fetchNumber "eth_gasPrice" client.ethGasPrice

/-- The `overrides` of `resolveBaseFields`. -/
structure Overrides where
  chainId : Option ℕ := none
  nonce : Option ℕ := none
  maxFeePerGas : Option ℕ := none
  maxPriorityFeePerGas : Option ℕ := none
  gasLimit : Option ℕ := none
  accessList : Option (List AccessListItem) := none

/-- What `resolveBaseFields` returns. -/
structure BaseFields where
  chainId : ℕ
  nonce : ℕ
  maxPriorityFeePerGas : ℕ
  maxFeePerGas : ℕ
  gasLimit : ℕ
  accessList : List AccessListItem

/-- `resolveBaseFields`. -/
def resolveBaseFields (client : Client) (address : Hex) (overrides : Overrides)
    (calls : List Call) : Except String BaseFields := do
  let chainId ← overrides.chainId.elim (fetchChainId client) pure
  let nonce ← overrides.nonce.elim (fetchNonce client address) pure
  let maxPriorityFeePerGas ← overrides.maxPriorityFeePerGas.elim (fetchMaxPriorityFee client) pure
  let maxFeePerGas ← overrides.maxFeePerGas.elim (fetchGasPrice client) pure
  let gasLimit := overrides.gasLimit.getD (estimateIntrinsicGas calls)
  let accessList := overrides.accessList.getD []
  return { chainId, nonce, maxPriorityFeePerGas, maxFeePerGas, gasLimit, accessList }

/-- The transaction that `sendEvNodeTransaction` and `createSponsorableIntent` sign. -/
def prepareTx (client : Client) (address : Hex) (overrides : Overrides) (calls : List Call) :
    Except String EvNodeTransaction := do
  let base ← resolveBaseFields client address overrides calls
  let tx : EvNodeTransaction :=
    { chainId := base.chainId
      nonce := base.nonce
      maxPriorityFeePerGas := base.maxPriorityFeePerGas
      maxFeePerGas := base.maxFeePerGas
      gasLimit := base.gasLimit
      accessList := base.accessList
      calls
      feePayerSignature := none }
  validateEvNodeTx tx
  return tx

/-- A transaction that is signed has the calls of the user, is valid, and has the estimate for its
gas limit if the user names none. -/
theorem of_prepareTx {client : Client} {address : Hex} {overrides : Overrides} {calls : List Call}
    {tx : EvNodeTransaction} (h : prepareTx client address overrides calls = .ok tx) :
    tx.calls = calls ∧ validateEvNodeTx tx = .ok () ∧
      tx.gasLimit = overrides.gasLimit.getD (estimateIntrinsicGas tx.calls) ∧
      tx.accessList = overrides.accessList.getD [] := by
  obtain ⟨base, hbase, h⟩ := Except.bind_eq_ok_iff.mp h
  obtain ⟨⟨⟩, hvalid, h⟩ := Except.bind_eq_ok_iff.mp h
  obtain rfl := Except.ok.inj h
  obtain ⟨chainId, -, hbase⟩ := Except.bind_eq_ok_iff.mp hbase
  obtain ⟨nonce, -, hbase⟩ := Except.bind_eq_ok_iff.mp hbase
  obtain ⟨maxPriorityFeePerGas, -, hbase⟩ := Except.bind_eq_ok_iff.mp hbase
  obtain ⟨maxFeePerGas, -, hbase⟩ := Except.bind_eq_ok_iff.mp hbase
  obtain rfl := Except.ok.inj hbase
  exact ⟨rfl, hvalid, rfl, rfl⟩

/-! ## What the estimate leaves out -/

/-- The gas of the client's access list. -/
def accessListGas (accessList : List AccessListItem) : ℕ :=
  accessListAddress.toNat * accessList.length +
    accessListStorageKey.toNat *
      (accessList.map fun item => item.storageKeys.length % 2 ^ 64).sum

/-- The bytes of a call's data. -/
def Call.bytes (call : Call) : Bytes := Hex.toBytes call.data

/-- The initial gas of a transaction under Prague. -/
def EvNodeTransaction.initialGas (tx : EvNodeTransaction) : ℕ :=
  (tx.calls.map fun call => pragueInitialGas call.bytes (isCreateCall call)).sum +
    accessListGas tx.accessList

/-- The floor of a transaction under Prague. -/
def EvNodeTransaction.floorGas (tx : EvNodeTransaction) : ℕ :=
  (tx.calls.map fun call => pragueFloorGas call.bytes).sum

/-- The base cost that the estimate counts for the transaction makes up for what it leaves out. -/
structure EvNodeTransaction.FitsEstimate (tx : EvNodeTransaction) : Prop where
  /-- The access list and the words of init code cost no more than the base cost. -/
  initial : accessListGas tx.accessList +
    (tx.calls.map fun call => initCodeGas call.bytes (isCreateCall call)).sum ≤ baseTxGas
  /-- The floor exceeds the gas of the data by no more than the base cost and that of `CREATE`. -/
  floor : (tx.calls.map fun call => 6 * zeroBytes call.bytes + 24 * nonZeroBytes call.bytes).sum ≤
    baseTxGas + createGas * tx.calls.countP isCreateCall

/-- The data adds `4` for each zero byte and `16` for each other one. -/
theorem foldl_bytes (data : Bytes) (gas : ℕ) :
    data.foldl (fun gas byte => if byte = 0 then gas + 4 else gas + 16) gas =
      gas + 4 * zeroBytes data + 16 * nonZeroBytes data := by
  induction data generalizing gas with
  | nil => rfl
  | cons byte data ih =>
    rw [List.foldl_cons, ih]
    by_cases hbyte : byte = 0
    · simp only [zeroBytes, nonZeroBytes, List.countP_cons, hbyte, ne_eq, not_true_eq_false,
        decide_true, decide_false, Bool.false_eq_true, if_true, if_false]
      omega
    · simp only [zeroBytes, nonZeroBytes, List.countP_cons, hbyte, ne_eq, not_false_eq_true,
        decide_true, decide_false, Bool.false_eq_true, if_true, if_false]
      omega

/-- The estimate of a call. -/
def Call.estimate (call : Call) : ℕ :=
  baseTxGas + (if isCreateCall call then createGas else 0) + 4 * zeroBytes call.bytes +
    16 * nonZeroBytes call.bytes

/-- The estimate is a base cost and the sum over the calls. -/
theorem estimateIntrinsicGas_eq (calls : List Call) :
    estimateIntrinsicGas calls = baseTxGas + (calls.map Call.estimate).sum := by
  have hfold (gas : ℕ) : calls.foldl (fun gas call =>
      let gas := gas + baseTxGas
      let gas := if isCreateCall call then gas + createGas else gas
      (Hex.toBytes call.data).foldl (fun gas byte => if byte = 0 then gas + 4 else gas + 16) gas)
      gas = gas + (calls.map Call.estimate).sum := by
    induction calls generalizing gas with
    | nil => rfl
    | cons call calls ih =>
      rw [List.foldl_cons, ih, List.map_cons, List.sum_cons, foldl_bytes, Call.estimate, Call.bytes]
      split_ifs <;> omega
  exact hfold baseTxGas

/-- The initial gas of calls is their estimate and the words of their init code. -/
theorem sum_pragueInitialGas (calls : List Call) :
    (calls.map fun call => pragueInitialGas call.bytes (isCreateCall call)).sum =
      (calls.map Call.estimate).sum +
        (calls.map fun call => initCodeGas call.bytes (isCreateCall call)).sum := by
  induction calls with
  | nil => rfl
  | cons call calls ih =>
    rw [List.map_cons, List.sum_cons, ih, List.map_cons, List.sum_cons, List.map_cons,
      List.sum_cons]
    simp only [pragueInitialGas, Call.estimate, baseTxGas, createGas]
    omega

/-- The floor of calls, with the cost of `CREATE`, is their estimate and what the floor counts more
for their data. -/
theorem sum_pragueFloorGas (calls : List Call) :
    (calls.map fun call => pragueFloorGas call.bytes).sum +
        createGas * calls.countP isCreateCall =
      (calls.map Call.estimate).sum +
        (calls.map fun call => 6 * zeroBytes call.bytes + 24 * nonZeroBytes call.bytes).sum := by
  induction calls with
  | nil => rfl
  | cons call calls ih =>
    simp only [List.map_cons, List.sum_cons, List.countP_cons, pragueFloorGas, Call.estimate,
      baseTxGas, createGas] at ih ⊢
    split_ifs <;> omega

/-- The estimate covers the initial gas and the floor exactly if what it leaves out fits. -/
theorem fitsEstimate_iff {tx : EvNodeTransaction} :
    tx.FitsEstimate ↔ tx.initialGas ≤ estimateIntrinsicGas tx.calls ∧
      tx.floorGas ≤ estimateIntrinsicGas tx.calls := by
  have hinitial := sum_pragueInitialGas tx.calls
  have hfloor := sum_pragueFloorGas tx.calls
  rw [estimateIntrinsicGas_eq, EvNodeTransaction.initialGas, EvNodeTransaction.floorGas]
  constructor
  · rintro ⟨hleft, hdata⟩
    exact ⟨by omega, by omega⟩
  · rintro ⟨hleft, hdata⟩
    exact ⟨by omega, by omega⟩

/-! ## The check of the node -/

section Node

variable {tx : EvNodeTransaction} {nodeTx : EvReth.EvNodeTransaction}

/-- Lists that are related item by item have the same image under functions that agree on related
items. -/
theorem map_eq_map_of_forall₂ {α β γ : Type} {R : α → β → Prop} {f : α → γ} {g : β → γ}
    {xs : List α} {ys : List β} (h : List.Forall₂ R xs ys) (hfg : ∀ x y, R x y → f x = g y) :
    xs.map f = ys.map g := by
  rw [← List.forall₂_eq_eq_eq, List.forall₂_map_left_iff, List.forall₂_map_right_iff]
  exact h.imp hfg

theorem Call.Represents.isCreate_eq {call : Call} {nodeCall : EvReth.Call}
    (h : call.Represents nodeCall) : isCreateCall call = nodeCall.dest.isCreate := by
  rw [isCreateCall, h.dest]
  cases nodeCall.dest <;> rfl

/-- The client refuses what the node refuses for its shape. -/
theorem wellShaped_of_validateEvNodeTx (hrep : tx.Represents nodeTx)
    (hvalid : validateEvNodeTx tx = .ok ()) :
    EvTransactionValidator.WellShaped nodeTx.calls := by
  -- the node's calls create where the client's do
  have hcreate : nodeTx.calls.map (·.dest.isCreate) = tx.calls.map isCreateCall :=
    (map_eq_map_of_forall₂ hrep.calls fun _ _ h => h.isCreate_eq).symm
  have hlength := hrep.calls.length_eq
  unfold validateEvNodeTx at hvalid
  split_ifs at hvalid with hempty hlater
  refine ⟨?_, ?_⟩
  · rw [List.isEmpty_eq_false_iff, ← List.length_pos_iff]
    omega
  · have hany : ((nodeTx.calls.map (·.dest.isCreate)).drop 1).any id =
        ((tx.calls.map isCreateCall).drop 1).any id := by rw [hcreate]
    simp only [← List.map_drop, List.any_map, Function.id_comp] at hany
    rw [hany]
    simpa using hlater

/-- The need of the node's transaction is that of the client's. -/
theorem total_of_represents {inner : Mainnet} {cfg : Cfg} (hcounts : inner.CountsPragueGas)
    (hrules : cfg.IsPrague) (hrep : tx.Represents nodeTx) :
    (GasNeed.total inner cfg nodeTx.accessList nodeTx.calls).initial =
        min tx.initialGas (2 ^ 64 - 1) ∧
      (GasNeed.total inner cfg nodeTx.accessList nodeTx.calls).floor =
        min tx.floorGas (2 ^ 64 - 1) := by
  have hinitial : tx.calls.map (fun call => pragueInitialGas call.bytes (isCreateCall call)) =
      nodeTx.calls.map fun call => pragueInitialGas call.input call.dest.isCreate :=
    map_eq_map_of_forall₂ hrep.calls fun _ _ h => by rw [Call.bytes, h.data, h.isCreate_eq]
  have hfloor : tx.calls.map (fun call => pragueFloorGas call.bytes) =
      nodeTx.calls.map fun call => pragueFloorGas call.input :=
    map_eq_map_of_forall₂ hrep.calls fun _ _ h => by rw [Call.bytes, h.data]
  have hslots : tx.accessList.map (fun item => item.storageKeys.length % 2 ^ 64) =
      nodeTx.accessList.map fun item => item.storageKeys.length % 2 ^ 64 :=
    map_eq_map_of_forall₂ hrep.accessList fun _ _ h => by rw [h.storageKeys, List.length_map]
  have hlist : accessListGas tx.accessList = GasNeed.ofAccessList nodeTx.accessList := by
    rw [accessListGas, GasNeed.ofAccessList, hslots, hrep.accessList.length_eq]
  rw [EvNodeTransaction.initialGas, EvNodeTransaction.floorGas, hinitial, hfloor, hlist]
  exact total_of_prague hcounts hrules nodeTx.accessList nodeTx.calls

/-- The estimate as gas limit is accepted by the node under Prague exactly if it makes up for the
access list, the words of init code and the floor that it leaves out, or is the largest `u64`. -/
theorem validateInitialTxGas_of_estimate_iff {Payload : TxType → Type}
    {eth : EthereumSupport Payload} {crypto : Crypto} {signature : EvReth.Signature}
    {sender : Address} {inner : Mainnet} {ctx : Ctx} (hcounts : inner.CountsPragueGas)
    (hrevm : inner.ChecksInitialGas) (hrules : ctx.cfg.IsPrague)
    (hvalid : validateEvNodeTx tx = .ok ())
    (hestimate : tx.gasLimit = estimateIntrinsicGas tx.calls) (hrep : tx.Represents nodeTx)
    (htx : ctx.tx = EvTxEnv.fromRecoveredTx eth crypto (.evNode nodeTx signature) sender) :
    (∃ gas ctx', EvHandler.validateInitialTxGas inner ctx = .ok gas ctx') ↔
      tx.FitsEstimate ∨ tx.gasLimit = 2 ^ 64 - 1 := by
  have hshape := wellShaped_of_validateEvNodeTx hrep hvalid
  obtain ⟨hinitial, hfloor⟩ := total_of_represents hcounts hrules hrep
  have hlimit := hrep.gasLimit
  have hbound := nodeTx.gasLimit.isLt
  -- a need that exceeds the largest `u64` counts as that, and so does a limit of that size
  rw [EvTransactionValidator.validateInitialTxGas_of_shape_iff hrevm htx hshape,
    GasNeed.Covered, GasNeed.WithinCap, hrules.eip8037, hinitial, hfloor, fitsEstimate_iff,
    ← hestimate, ← hlimit]
  simp only [Bool.false_eq_true, false_implies, and_true]
  omega

open EvTxEnvelope (paymentSender paymentCrypto unitSignature)
open EvTransactionValidator (fundedWorld)

/-- `validate_initial_tx_gas` of revm for an EIP-1559 transaction, which has no authorizations: the
checks of a batch of one call. -/
def checkSingleCall (inner : Mainnet) : HandlerM InitialAndFloorGas := fun ctx =>
  match validateBatchInitialTxGas inner ctx.cfg { ctx.tx.inner with authorizationListLen := 0 }
    [⟨ctx.tx.inner.kind, ctx.tx.inner.value, ctx.tx.inner.data⟩] with
  | .ok gas => .ok gas ctx
  | .error e => .error (.error (.transaction e)) ctx

/-- A single call is accepted as a batch of one is. -/
theorem checkSingleCall_succeeds_iff {inner : Mainnet} {ctx : Ctx} :
    (∃ gas ctx', checkSingleCall inner ctx = .ok gas ctx') ↔
      ∃ gas, validateBatchInitialTxGas inner ctx.cfg
        { ctx.tx.inner with authorizationListLen := 0 }
        [⟨ctx.tx.inner.kind, ctx.tx.inner.value, ctx.tx.inner.data⟩] = .ok gas := by
  unfold checkSingleCall
  cases validateBatchInitialTxGas inner ctx.cfg _ _ with
  | ok gas => exact iff_of_true ⟨gas, ctx, rfl⟩ ⟨gas, rfl⟩
  | error e =>
    refine iff_of_false ?_ ?_
    · rintro ⟨gas, ctx', h⟩
      cases h
    · rintro ⟨gas, h⟩
      cases h

/-- A single call is refused as a batch of one is. -/
theorem checkSingleCall_of_error {inner : Mainnet} {ctx : Ctx} {e : InvalidTransaction}
    (h : validateBatchInitialTxGas inner ctx.cfg { ctx.tx.inner with authorizationListLen := 0 }
      [⟨ctx.tx.inner.kind, ctx.tx.inner.value, ctx.tx.inner.data⟩] = .error e) :
    checkSingleCall inner ctx = .error (.error (.transaction e)) ctx := by
  rw [checkSingleCall, h]

/-- Plain payments with the constants of Prague. -/
def countingTransfers : Mainnet :=
  { Transfers.mainnetOfCA with
    calculateInitialTxGas := fun _ input isCreate =>
      { initialTotalGas := BitVec.ofNat 64 (min (pragueInitialGas input isCreate) (2 ^ 64 - 1))
        initialStateGas := 0
        floorGas := BitVec.ofNat 64 (min (pragueFloorGas input) (2 ^ 64 - 1)) } }

/-- Plain payments with the constants and the check of Prague. -/
def pragueTransfers : Mainnet :=
  { countingTransfers with validateInitialTxGas := checkSingleCall countingTransfers }

/-- The phases of the example count gas as Prague does. -/
theorem countsPragueGas_pragueTransfers : pragueTransfers.CountsPragueGas := by
  intro cfg input isCreate _
  have hinitial : min (pragueInitialGas input isCreate) (2 ^ 64 - 1) < 2 ^ 64 := by omega
  have hfloor : min (pragueFloorGas input) (2 ^ 64 - 1) < 2 ^ 64 := by omega
  simp only [pragueTransfers, countingTransfers, BitVec.toNat_ofNat, Nat.mod_eq_of_lt hinitial,
    Nat.mod_eq_of_lt hfloor, and_self]

theorem checksInitialGas_pragueTransfers : pragueTransfers.ChecksInitialGas := by
  intro ctx htype
  refine checkSingleCall_succeeds_iff.trans ?_
  exact validateBatchInitialTxGas_succeeds_iff (by simp [htype]) rfl

/-- A payment with data and an access list. -/
def dataPayment (data : Bytes) (accessList : AccessList) (gasLimit : U64) :
    EvReth.EvNodeTransaction :=
  { EvReth.EvNodeTransaction.wirePayment with
    calls := [⟨.call 0xB0, 9, data⟩]
    accessList
    gasLimit
    feePayerSignature := none }

/-- The execution of a payment. -/
def dataPaymentCtx (payment : EvReth.EvNodeTransaction) : Ctx :=
  { block := { number := 1, beneficiary := 0xBE, basefee := 1 }
    tx := EvTxEnv.fromRecoveredTx EthereumSupport.none paymentCrypto
      (.evNode payment unitSignature) paymentSender
    journal := fundedWorld.load }

/-- A payment whose gas is refused is refused by the handler. -/
theorem validateInitialTxGas_dataPayment {data : Bytes} {accessList : AccessList} {gasLimit : U64}
    {e : InvalidTransaction} {ctx : Ctx}
    (hctx : ctx = dataPaymentCtx (dataPayment data accessList gasLimit))
    (h : validateBatchInitialTxGas countingTransfers ctx.cfg
      { ctx.tx.inner with authorizationListLen := 0 }
      [⟨ctx.tx.inner.kind, ctx.tx.inner.value, ctx.tx.inner.data⟩] = .error e) :
    EvHandler.validateInitialTxGas pragueTransfers ctx = .error (.error (.transaction e)) ctx := by
  have hcalls : ctx.tx.batchCalls = some [⟨.call 0xB0, 9, data⟩] := by
    rw [hctx]
    rfl
  rw [EvTransactionValidator.validateInitialTxGas_of_shape hcalls ⟨rfl, rfl⟩,
    EvTransactionValidator.initialGasOfCalls_singleton]
  exact checkSingleCall_of_error h

/-- A client that is told everything but the gas limit, and asks for nothing. -/
def offline : Client :=
  { ethChainId := .error "offline"
    ethGetTransactionCount := fun _ _ => .error "offline"
    ethMaxPriorityFeePerGas := .error "offline"
    ethGasPrice := .error "offline" }

/-- What the user of `offline` names. -/
def allButGasLimit (payment : EvNodeTransaction) : Overrides :=
  { chainId := some payment.chainId
    nonce := some payment.nonce
    maxFeePerGas := some payment.maxFeePerGas
    maxPriorityFeePerGas := some payment.maxPriorityFeePerGas
    accessList := some payment.accessList }

/-- With little data and a short access list, the estimate is accepted. -/
theorem estimate_accepted :
    ∃ gas ctx', EvHandler.validateInitialTxGas pragueTransfers
      (dataPaymentCtx (dataPayment [1, 0] [⟨0xA0, [7]⟩] 42020)) = .ok gas ctx' := by
  have hfits : (EvNodeTransaction.ofNode (dataPayment [1, 0] [⟨0xA0, [7]⟩] 42020)).FitsEstimate :=
    ⟨by decide +kernel, by decide +kernel⟩
  have hrules : Cfg.IsPrague (dataPaymentCtx (dataPayment [1, 0] [⟨0xA0, [7]⟩] 42020)).cfg :=
    ⟨rfl, rfl, rfl⟩
  exact (@validateInitialTxGas_of_estimate_iff _ _ _ EthereumSupport.none paymentCrypto
    unitSignature paymentSender _ _ countsPragueGas_pragueTransfers
    checksInitialGas_pragueTransfers hrules rfl (by decide +kernel)
    (EvNodeTransaction.represents_ofNode _) rfl).mpr (.inl hfits)

/-- `876` bytes of data, at the estimate. -/
def longPayment : EvReth.EvNodeTransaction := dataPayment (List.replicate 876 1) [] 56016

/-- Nine addresses in the access list, at the estimate. -/
def listPayment : EvReth.EvNodeTransaction := dataPayment [] (List.replicate 9 ⟨0xA0, []⟩) 42000

/-- Under the rules of Prague, `876` bytes of data put the estimate below the floor, and nine
addresses in the access list put it below the initial gas. The node rejects what the client
prepares. -/
theorem estimate_rejected :
    pragueTransfers.CountsPragueGas ∧
      (prepareTx offline [] (allButGasLimit (.ofNode longPayment)) (longPayment.calls.map .ofNode) =
          .ok (.ofNode longPayment) ∧
        EvHandler.validateInitialTxGas pragueTransfers (dataPaymentCtx longPayment) =
          .error (.error (.transaction (.gasFloorMoreThanGasLimit 56040 56016)))
            (dataPaymentCtx longPayment)) ∧
      prepareTx offline [] (allButGasLimit (.ofNode listPayment)) (listPayment.calls.map .ofNode) =
        .ok (.ofNode listPayment) ∧
      EvHandler.validateInitialTxGas pragueTransfers (dataPaymentCtx listPayment) =
        .error (.error (.transaction (.callGasCostMoreThanGasLimit 42000 42600)))
          (dataPaymentCtx listPayment) := by
  refine ⟨countsPragueGas_pragueTransfers, ⟨?_, ?_⟩, ?_, ?_⟩
  · decide +kernel
  · exact validateInitialTxGas_dataPayment rfl (by decide +kernel)
  · decide +kernel
  · exact validateInitialTxGas_dataPayment rfl (by decide +kernel)

end Node

end EvReth.Clients
