import Mathlib.Algebra.Order.BigOperators.Group.List
import Mathlib.Algebra.Order.Group.Nat
import EvReth.Foundations.LongestPrefix
import EvReth.Node.BlockRuns
import EvReth.Node.TxPool
import EvReth.Node.Validator

/-!
# Transactions for the next block

`get_txs` (`crates/evolve/src/rpc/txpool.rs`) takes transactions from the pool, best first, until
the next one would exceed the byte cap or the gas limit that the payload builder has published. In a
block with this gas limit, `EvBlockExecutor` has gas left for each of them when it gets its turn.
-/

namespace EvReth

open EStateM Run EvBlockExecutor

variable {Payload : TxType → Type}

/-- A transaction of the pool as `best_transactions` yields it, with the length that the pool has
noted for it. -/
structure BestTransaction (Payload : TxType → Type) extends EvPooledTransaction Payload where
  encodedLength : U64

/-- The transaction with its signer, as the block executor gets it. -/
def BestTransaction.recovered (self : BestTransaction Payload) : Recovered Payload :=
  ⟨self.transaction, self.signer⟩

/-- `EvolveTxpoolApiImpl`, with what alloy provides for the transactions of its pool. -/
structure EvolveTxpoolApiImpl (Payload : TxType → Type) where
  eth : EthereumSupport Payload
  encodeEthereum : EthereumTransaction Payload → Bytes
  maxBytes : U64

namespace EvolveTxpoolApiImpl

variable (self : EvolveTxpoolApiImpl Payload)

/-- `gas_limit` of a pooled transaction. -/
def gasLimit (tx : BestTransaction Payload) : U64 := tx.transaction.gasLimit self.eth

/-- `encoded_bytes` of `into_consensus_with2718`. -/
def encodedBytes (tx : BestTransaction Payload) : Bytes :=
  tx.transaction.encode2718 self.encodeEthereum

/-- The loop of `get_txs`. -/
def selectTxs (gasCap : U64) :
    List (BestTransaction Payload) → U64 → U64 → List Bytes → List Bytes
  | [], _, _, selectedTxs => selectedTxs
  | bestTx :: bestTxs, totalBytes, totalGas, selectedTxs =>
    let sz := bestTx.encodedLength
    let gas := self.gasLimit bestTx
    -- a cap of `0` is no cap
    if 0 < self.maxBytes.toNat ∧ self.maxBytes.toNat < (totalBytes + sz).toNat then selectedTxs
    else if 0 < gasCap.toNat ∧ gasCap.toNat < (totalGas + gas).toNat then selectedTxs
    else selectTxs gasCap bestTxs (totalBytes + sz) (totalGas + gas)
      (selectedTxs ++ [self.encodedBytes bestTx])

/-- `get_txs`. The state is the gas limit that is published. -/
def getTxs (bestTransactions : List (BestTransaction Payload)) : StateM U64 (List Bytes) := do
  let gasCap ← get
  return self.selectTxs gasCap bestTransactions 0 0 []

/-! ## The selection -/

/-- The bytes that the pool has noted for transactions. -/
def bytesSum (txs : List (BestTransaction Payload)) : ℕ :=
  (txs.map (·.encodedLength.toNat)).sum

/-- The gas limits of transactions. -/
def gasSum (txs : List (BestTransaction Payload)) : ℕ :=
  (txs.map fun tx => (self.gasLimit tx).toNat).sum

/-- The transactions are within the caps. -/
def Fits (gasCap : U64) (txs : List (BestTransaction Payload)) : Prop :=
  (self.maxBytes = 0 ∨ bytesSum txs ≤ self.maxBytes.toNat) ∧
    (gasCap = 0 ∨ self.gasSum txs ≤ gasCap.toNat)

variable {self} {gasCap : U64} {before txs best : List (BestTransaction Payload)}

theorem bytesSum_append (before txs : List (BestTransaction Payload)) :
    bytesSum (before ++ txs) = bytesSum before + bytesSum txs := by
  simp [bytesSum]

theorem gasSum_append (before txs : List (BestTransaction Payload)) :
    self.gasSum (before ++ txs) = self.gasSum before + self.gasSum txs := by
  simp [gasSum]

theorem bytesSum_singleton (tx : BestTransaction Payload) :
    bytesSum [tx] = tx.encodedLength.toNat := by
  simp [bytesSum]

theorem gasSum_singleton (tx : BestTransaction Payload) :
    self.gasSum [tx] = (self.gasLimit tx).toNat := by
  simp [gasSum]

/-- The test of the loop: a cap that is set is exceeded. -/
theorem exceeds_iff {cap : U64} {sum : ℕ} :
    (0 < cap.toNat ∧ cap.toNat < sum) ↔ ¬ (cap = 0 ∨ sum ≤ cap.toNat) := by
  rw [not_or, Nat.not_le, Nat.pos_iff_ne_zero, ne_eq, ← BitVec.toNat_inj]
  rfl

theorem Fits.of_append (h : self.Fits gasCap (before ++ txs)) : self.Fits gasCap before := by
  rw [Fits, bytesSum_append, gasSum_append] at h
  exact ⟨h.1.imp_right (by omega), h.2.imp_right (by omega)⟩

/-- To fit is closed under prefixes, behind the same transactions. -/
theorem prefixClosed_fits (before : List (BestTransaction Payload)) :
    List.PrefixClosed fun txs => self.Fits gasCap (before ++ txs) := by
  rintro p - ⟨rest, rfl⟩ h
  rw [← List.append_assoc] at h
  exact h.of_append

/-- The loop selects the longest continuation that is within the caps. -/
theorem selectTxs_longestPrefix {totalBytes totalGas : U64} (selectedTxs : List Bytes)
    (htotalBytes : totalBytes.toNat = bytesSum before)
    (htotalGas : totalGas.toNat = self.gasSum before)
    (hbytes : bytesSum (before ++ best) < 2 ^ 64) (hgas : self.gasSum (before ++ best) < 2 ^ 64)
    (hfits : self.Fits gasCap before) :
    ∃ selected, best.LongestPrefix (fun txs => self.Fits gasCap (before ++ txs)) selected ∧
      self.selectTxs gasCap best totalBytes totalGas selectedTxs =
        selectedTxs ++ selected.map self.encodedBytes := by
  induction best generalizing before totalBytes totalGas selectedTxs with
  | nil =>
    rw [← List.append_nil before] at hfits
    exact ⟨[], .nil hfits, (List.append_nil _).symm⟩
  | cons bestTx best ih =>
    rw [List.append_cons] at hbytes hgas
    have hbytesLe := hbytes
    have hgasLe := hgas
    rw [bytesSum_append, bytesSum_append, bytesSum_singleton] at hbytesLe
    rw [gasSum_append, gasSum_append, gasSum_singleton] at hgasLe
    -- the sums do not wrap around
    have hbytes' : (totalBytes + bestTx.encodedLength).toNat = bytesSum (before ++ [bestTx]) := by
      rw [BitVec.toNat_add_of_fits (by omega), htotalBytes, bytesSum_append, bytesSum_singleton]
    have hgas' : (totalGas + self.gasLimit bestTx).toNat = self.gasSum (before ++ [bestTx]) := by
      rw [BitVec.toNat_add_of_fits (by omega), htotalGas, gasSum_append, gasSum_singleton]
    have hnil : self.Fits gasCap (before ++ []) := by rwa [List.append_nil]
    rw [selectTxs]
    simp only [hbytes', hgas']
    split_ifs with hoverBytes hoverGas
    · refine ⟨[], .stop (prefixClosed_fits before) hnil ?_, (List.append_nil _).symm⟩
      exact fun hnext => exceeds_iff.mp hoverBytes hnext.1
    · refine ⟨[], .stop (prefixClosed_fits before) hnil ?_, (List.append_nil _).symm⟩
      exact fun hnext => exceeds_iff.mp hoverGas hnext.2
    · have hnext : self.Fits gasCap (before ++ [bestTx]) :=
        ⟨not_not.mp (mt exceeds_iff.mpr hoverBytes), not_not.mp (mt exceeds_iff.mpr hoverGas)⟩
      obtain ⟨selected, hlongest, hselect⟩ :=
        ih (selectedTxs ++ [self.encodedBytes bestTx]) hbytes' hgas' hbytes hgas hnext
      refine ⟨bestTx :: selected, .cons ?_, ?_⟩
      · simpa only [List.append_assoc, List.singleton_append] using hlongest
      · exact hselect.trans (List.append_cons _ _ _).symm

/-- `get_txs` returns the encodings of the longest prefix that is within the caps, and publishes
nothing. -/
theorem getTxs_longestPrefix (hbytes : bytesSum best < 2 ^ 64) (hgas : self.gasSum best < 2 ^ 64) :
    ∃ selected, best.LongestPrefix (self.Fits gasCap) selected ∧
      self.getTxs best gasCap = (selected.map self.encodedBytes, gasCap) := by
  obtain ⟨selected, hlongest, hselect⟩ :=
    @selectTxs_longestPrefix _ self gasCap [] best 0 0 [] rfl rfl hbytes hgas
      ⟨.inr (Nat.zero_le _), .inr (Nat.zero_le _)⟩
  exact ⟨selected, hlongest, congrArg (·, gasCap) hselect⟩

end EvolveTxpoolApiImpl

/-! ## The block -/

namespace EvBlockExecutor

variable {config : EvEvmConfig Payload} {a : EvBlockExecutor} {env : EvmEnv}

/-- The gas that revm reports for a transaction is at most its limit, as is the regular gas of
EIP-8037. -/
def ReportsGasWithinLimit (config : EvEvmConfig Payload) (t : BlockTransition Payload) : Prop :=
  ∀ gas ∈ reportedGas config t.input t.pre.evm,
    gas.gasUsed.toNat ≤ (t.input.tx.gasLimit config.eth).toNat ∧
      gas.blockRegularGasUsed.toNat ≤ (t.input.tx.gasLimit config.eth).toNat

instance (t : BlockTransition Payload) : Decidable (ReportsGasWithinLimit config t) :=
  inferInstanceAs (Decidable (∀ gas ∈ reportedGas config t.input t.pre.evm, _ ≤ _ ∧ _ ≤ _))

/-- The transaction is rejected because the block has not enough gas left for it. -/
def RejectsForGas (t : BlockTransition Payload) : Prop :=
  ∃ transactionGasLimit blockAvailableGas, t.output = some (.error
    (.transactionGasLimitMoreThanAvailableBlockGas transactionGasLimit blockAvailableGas))

/-- A transaction is admitted for at most its gas limit. -/
theorem maxTxGasUsage_le (tx : EvTxEnvelope Payload) :
    (maxTxGasUsage config env tx).toNat ≤ (tx.gasLimit config.eth).toNat := by
  unfold maxTxGasUsage
  cases env.cfgEnv.txGasLimitCap with
  | none => exact le_rfl
  | some cap =>
    show (if cap.toNat < _ then cap else _ : U64).toNat ≤ _
    split_ifs with hcap
    · exact hcap.le
    · exact le_rfl

/-- Only a transaction that does not fit into what is left is rejected for its gas. -/
theorem not_rejectsForGas {recovered : Recovered Payload} (h : a.Admits config recovered) :
    ¬ RejectsForGas (Transition.of (blockStep config) a recovered) := by
  rintro ⟨limit, available, houtput⟩
  have hadmits := Nat.not_lt.mpr h
  simp only [Transition.of, blockStep, executeTransaction, executeTransactionWithoutCommit,
    if_neg hadmits] at houtput
  cases hrun : transact config recovered a.evm with
  | ok result evm =>
    rw [hrun] at houtput
    cases houtput
  | error e evm =>
    rw [hrun] at houtput
    cases e <;> cases houtput

/-- A transaction uses up at most its gas limit of what counts for admission. -/
theorem blockGasUsed_blockStep_le {recovered : Recovered Payload}
    (h : ReportsGasWithinLimit config (Transition.of (blockStep config) a recovered)) :
    (blockStep config a recovered).2.blockGasUsed.toNat ≤
      a.blockGasUsed.toNat + (recovered.tx.gasLimit config.eth).toNat := by
  rcases blockStep_cases config a recovered with
    ⟨evm, hstep, henv⟩ | ⟨result, evm, hrun, -, hstep, henv⟩
  · rw [hstep, blockGasUsed_of_env henv]
    exact Nat.le_add_right _ _
  · obtain ⟨hused, hregular⟩ := h _ (reportedGas_of_ok hrun)
    rw [hstep, blockGasUsed_commit, blockGasUsed_of_env henv, BitVec.toNat_add]
    have hgas : (admissionGas evm.env (txResult config recovered result)).toNat ≤
        (recovered.tx.gasLimit config.eth).toNat := by
      rw [admissionGas]
      split_ifs
      · exact hregular
      · exact hused
    -- if the counter wraps around it is even smaller
    exact (Nat.mod_le _ _).trans (Nat.add_le_add_left hgas _)

/-- To execute a transaction keeps the environment of the block. -/
theorem env_blockStep (recovered : Recovered Payload) :
    (blockStep config a recovered).2.evm.env = a.evm.env := by
  rcases blockStep_cases config a recovered with
    ⟨evm, hstep, henv⟩ | ⟨result, evm, -, -, hstep, henv⟩
  · rw [hstep]
    exact henv
  · rw [hstep]
    exact henv

/-- In a block with gas for the limits of all transactions none is rejected for its gas. -/
theorem not_rejectsForGas_of_fits {txs : List (Recovered Payload)}
    (hfits : a.blockGasUsed.toNat + (txs.map fun r => (r.tx.gasLimit config.eth).toNat).sum ≤
      a.evm.env.blockEnv.gasLimit.toNat)
    (hgas : ∀ t ∈ transitions (blockStep config) a txs, ReportsGasWithinLimit config t) :
    ∀ t ∈ transitions (blockStep config) a txs, ¬ RejectsForGas t := by
  intro t ht
  have henv : t.pre.evm.env = a.evm.env :=
    pre_of_invariant (I := fun b => b.evm.env = a.evm.env) (C := fun _ => True)
      (fun b r h _ => (env_blockStep r).trans h) rfl (fun _ _ => trivial) t ht
  have hle := used_add_cost_le (fun b => b.blockGasUsed.toNat)
    (fun r => (r.tx.gasLimit config.eth).toNat) (fun b r h => blockGasUsed_blockStep_le h) hgas t ht
  have hadmits : t.pre.Admits config t.input := by
    have husage := @maxTxGasUsage_le _ config t.pre.evm.env t.input.tx
    have hused : t.pre.blockGasUsed.toNat ≤ t.pre.evm.env.blockEnv.gasLimit.toNat := by
      rw [henv]
      omega
    rw [Admits, blockAvailableGas_eq, BitVec.toNat_sub_of_le hused, henv]
    rw [henv] at husage
    omega
  rw [eq_of_mem_transitions ht]
  exact not_rejectsForGas hadmits

/-- The calls into the system contracts use no gas of the block. -/
theorem blockGasUsed_applyPreExecutionChanges {evm : EvEvm} {ctx : EthBlockExecutionCtx}
    (h : (new evm ctx).applyPreExecutionChanges config = .ok a) : a.blockGasUsed = 0 := by
  simp only [applyPreExecutionChanges, Except.bind_eq_ok_iff] at h
  obtain ⟨-, -, db, -, h⟩ := h
  rw [← Except.ok.inj h, blockGasUsed]
  split_ifs <;> rfl

end EvBlockExecutor

/-- In a block with the gas limit none of the transactions is rejected for its gas, whatever becomes
of the others. -/
def FitIntoBlock (eth : EthereumSupport Payload) (gasLimit : U64) (txs : List (Recovered Payload)) :
    Prop :=
  ∀ (config : EvEvmConfig Payload) (evm : EvEvm) (ctx : EthBlockExecutionCtx) (a : EvBlockExecutor),
    config.eth = eth → evm.env.blockEnv.gasLimit = gasLimit →
    (EvBlockExecutor.new evm ctx).applyPreExecutionChanges config = .ok a →
    (∀ t ∈ transitions (blockStep config) a txs, ReportsGasWithinLimit config t) →
    ∀ t ∈ transitions (blockStep config) a txs, ¬ RejectsForGas t

namespace EvolveTxpoolApiImpl

variable {self : EvolveTxpoolApiImpl Payload} {gasCap : U64}
  {best selected : List (BestTransaction Payload)}

/-- What fits under a published cap fits into a block of that gas limit. -/
theorem fitIntoBlock_of_fits (hcap : gasCap ≠ 0) (h : self.Fits gasCap selected) :
    FitIntoBlock self.eth gasCap (selected.map (·.recovered)) := by
  intro config evm ctx a heth hlimit hpre hgas
  obtain ⟨henv, -⟩ := applyPreExecutionChanges_keeps hpre
  refine not_rejectsForGas_of_fits ?_ hgas
  have hsum := h.2.resolve_left hcap
  rw [gasSum] at hsum
  rw [blockGasUsed_applyPreExecutionChanges hpre, henv, List.map_map, heth]
  show 0 + _ ≤ evm.env.blockEnv.gasLimit.toNat
  rw [hlimit, Nat.zero_add]
  exact hsum

/-- The encodings take at most the bytes that the pool has noted for them. -/
theorem length_encodedBytes_le
    (hlength : ∀ tx ∈ selected, (self.encodedBytes tx).length ≤ tx.encodedLength.toNat) :
    (selected.map fun tx => (self.encodedBytes tx).length).sum ≤ bytesSum selected :=
  List.sum_le_sum hlength

/-- `get_txs` returns the encodings of the longest prefix of the pool's transactions that is within
the caps; the bytes that it returns are within the byte cap, and in a block whose gas limit is the
published one none of the transactions is rejected for its gas. -/
theorem getTxs_fit_next_block (hbytes : bytesSum best < 2 ^ 64) (hgas : self.gasSum best < 2 ^ 64)
    (hlength : ∀ tx ∈ best, (self.encodedBytes tx).length ≤ tx.encodedLength.toNat) :
    ∃ selected, best.LongestPrefix (self.Fits gasCap) selected ∧
      self.getTxs best gasCap = (selected.map self.encodedBytes, gasCap) ∧
      (self.maxBytes ≠ 0 →
        (selected.map fun tx => (self.encodedBytes tx).length).sum ≤ self.maxBytes.toNat) ∧
      (gasCap ≠ 0 → FitIntoBlock self.eth gasCap (selected.map (·.recovered))) := by
  obtain ⟨selected, hlongest, hselect⟩ := getTxs_longestPrefix hbytes hgas
  refine ⟨selected, hlongest, hselect, fun hmax => ?_, fun hcap => ?_⟩
  · have hle := length_encodedBytes_le fun tx hmem =>
      hlength tx (hlongest.isPrefix.subset hmem)
    exact hle.trans (hlongest.holds.1.resolve_left hmax)
  · exact fitIntoBlock_of_fits hcap hlongest.holds

/-- A byte cap over the pool of a node whose transactions are all EvNode transactions. -/
def paymentApi (maxBytes : U64) : EvolveTxpoolApiImpl fun _ => Empty :=
  { eth := EthereumSupport.none, encodeEthereum := fun tx => tx.tx.elim, maxBytes }

/-- A payment in the pool. Its encoding has less than the noted `50` bytes. -/
def pooledPayment (nonce : U64) : BestTransaction fun _ => Empty :=
  { transaction := (recoveredPayment nonce 30000).tx
    signer := (recoveredPayment nonce 30000).signer
    encodedLength := 50 }

/-- Of three payments two are within `120` bytes, and within a gas limit of `60000`, which they
claim completely. Neither is rejected for its gas. -/
theorem getTxs_fit_next_block_payments :
    ((paymentApi 120).getTxs [pooledPayment 7, pooledPayment 8, pooledPayment 9] 60000).1 =
        [pooledPayment 7, pooledPayment 8].map (paymentApi 120).encodedBytes ∧
      ∀ t ∈ transitions (blockStep (storingConfig 0)) (cappedSession 60000 false).executor
        [recoveredPayment 7 30000, recoveredPayment 8 30000], ¬ RejectsForGas t := by
  obtain ⟨selected, hlongest, hselect, -, hblock⟩ :=
    @getTxs_fit_next_block _ (paymentApi 120) 60000
      [pooledPayment 7, pooledPayment 8, pooledPayment 9] (by decide) (by decide) (by decide)
  have htwo : ((paymentApi 120).getTxs [pooledPayment 7, pooledPayment 8, pooledPayment 9]
      60000).1 = [pooledPayment 7, pooledPayment 8].map (paymentApi 120).encodedBytes := by
    decide
  have hlength : selected.length = 2 := by
    simpa using (congrArg (·.1.length) hselect).symm.trans (congrArg List.length htwo)
  have hselected := List.prefix_iff_eq_take.mp hlongest.isPrefix
  rw [hlength] at hselected
  refine ⟨htwo, ?_⟩
  rw [hselected] at hblock
  exact hblock (by decide) (storingConfig 0) (EvEvm.new (cappedBlock 60000 false) wealthyWorld) _ _
    rfl rfl rfl (by decide +kernel)

end EvolveTxpoolApiImpl

end EvReth
