import EvReth.Node.ReplayProtection

/-!
# What a sponsor loses

Outside of the frames of transactions, an account that sends none itself has its funds taken in one
place only, the deduction of fees from a sponsor in `EvHandler` (`crates/ev-revm/src/handler.rs`).
So along a chain it loses at most the fees of the accepted transactions that it sponsors, and what
frames take from it: the mint precompile burns from any account, and an EIP-7702 list may have given
it code.
-/

namespace EvReth

open EStateM Run Graded EvBlockExecutor

variable {Payload : TxType → Type}

/-- What revm, alloy and the system contracts do to an account that is not the caller: they take
nothing from it outside of frames, and frames touch what they change. -/
structure EvEvmConfig.SparesFunds (config : EvEvmConfig Payload) (addr : Address) : Prop where
  keepsSetup : ∀ env, (config.mainnet env).KeepsSetup
  keepsEnvironment : ∀ env, (config.mainnet env).KeepsEnvironment
  phasesSpare : ∀ env, (config.mainnet env).PhasesSpare (AccountCost.lostFunds.ctx addr)
  framesTouch : ∀ env, (config.mainnet env).FramesSpare (AccountCost.nothing.ctx addr)
  systemCalls : config.systemCalls.Spares (AccountCost.lostFunds.world addr)

namespace EvEvmConfig

variable (config : EvEvmConfig Payload)

/-- The fees of the transaction of a step for its whole gas limit, at the price of its block. -/
def maxFees (t : BlockTransition Payload) : ℕ :=
  (t.pre.ctxFor config t.input).price * (config.txEnv t.input).inner.gasLimit.toNat

/-- The transaction is accepted and the account is its sponsor. -/
def PaidBy (addr : Address) (t : BlockTransition Payload) : Prop :=
  t.output = none ∧ (config.txEnv t.input).sponsor = some addr

instance (addr : Address) (t : BlockTransition Payload) : Decidable (config.PaidBy addr t) :=
  decidable_of_iff (t.output.isNone = true ∧ (config.txEnv t.input).sponsor = some addr)
    (and_congr_left' Option.isNone_iff_eq_none)

/-- What the frames of an accepted transaction take from an account. -/
def takenByFrames (addr : Address) (t : BlockTransition Payload) : ℕ :=
  if t.output.isNone then
    (config.evmFactory.handlerFor t.pre.evm.env).takenByFrames (config.mainnet t.pre.evm.env) addr
      (t.pre.ctxFor config t.input)
  else 0

/-- What frames take from an account along a chain. -/
def totalTaken (addr : Address) (steps : List (BlockTransition Payload)) : ℕ :=
  (steps.map (config.takenByFrames addr)).sum

end EvEvmConfig

namespace EvHandler

variable {self : EvHandler} {inner : Mainnet} {ctx ctx' : Ctx} {addr : Address}

/-- The deduction takes the fees from the sponsor, and nothing from anyone but the caller and the
sponsor. -/
theorem balance_le_deduct {j j' : Journal} (h : deduct ctx j = .ok () j')
    (hcheck : ctx.cfg.isBalanceCheckDisabled = false) (hne : ctx.tx.inner.caller ≠ addr) :
    (j.balance addr).toNat ≤ (j'.balance addr).toNat +
      if ctx.tx.sponsor = some addr then ctx.price * ctx.tx.inner.gasLimit.toNat else 0 := by
  obtain ⟨-, ⟨-, v, -, rfl⟩ | ⟨sponsor, hsponsor, -, rfl⟩⟩ := deduct_cases ctx h
  · rw [balance_bumpIfCall, Journal.balance_setBalance, if_neg hne.symm]
    exact Nat.le_add_right _ _
  · rw [Journal.balance_setBalance, hsponsor]
    rcases eq_or_ne addr sponsor with rfl | hother
    · rw [if_pos rfl, if_pos rfl, hcheck, toNat_newSponsorBalance, Ctx.price, Nat.mul_comm]
      omega
    · rw [if_neg hother, balance_bumpIfCall]
      exact Nat.le_add_right _ _

/-- A transaction costs an account that is not the caller at most the fees that it sponsors and what
the frames take from it. -/
theorem rel_lostFunds_run (hphases : inner.PhasesSpare (AccountCost.lostFunds.ctx addr))
    (hframes : inner.FramesSpare (AccountCost.nothing.ctx addr))
    (henv : inner.KeepsEnvironment) (hcheck : ctx.cfg.isBalanceCheckDisabled = false)
    (hne : ctx.tx.inner.caller ≠ addr) {out : ExecutionResult}
    (h : self.run inner ctx = .ok out ctx') :
    (AccountCost.lostFunds.ctx addr).rel
      ((if ctx.tx.sponsor = some addr then ctx.price * ctx.tx.inner.gasLimit.toNat else 0) +
        self.takenByFrames inner addr ctx) ctx ctx' := by
  obtain ⟨t⟩ := runTrace_of_ok h
  refine t.rel hphases ?_ (t.rel_takenByFrames hframes henv)
  have hsame := t.pre.sameEnv_afterGas henv
  obtain ⟨j, hd, heq⟩ := deduct_of_validate self _ t.pre.hDeduct
  have hcheck' : t.pre.afterGas.cfg.isBalanceCheckDisabled = false := by
    rw [hsame.cfg]
    exact hcheck
  have hne' : t.pre.afterGas.tx.inner.caller ≠ addr := by
    rw [hsame.tx]
    exact hne
  have hle := balance_le_deduct hd hcheck' hne'
  rw [Ctx.price, hsame.tx, hsame.block] at hle
  rw [heq]
  exact hle

end EvHandler

namespace EvEvmConfig.SparesFunds

variable {config : EvEvmConfig Payload} {addr : Address} {t : BlockTransition Payload}
  {db db' : WorldState} {steps : List (BlockTransition Payload)}

/-- What one step costs the account. -/
theorem rel_step (hconfig : config.SparesFunds addr)
    (hstep : t = Transition.of (blockStep config) t.pre t.input) (hcfg : t.pre.Configured)
    (hne : config.sender t ≠ addr) :
    (AccountCost.lostFunds.world addr).rel
      ((if config.PaidBy addr t then config.maxFees t else 0) + config.takenByFrames addr t)
      t.pre.evm.db t.post.evm.db := by
  refine rel_of_step hstep (fun hrejected => ?_) fun haccepted out ctx' hrun => ?_
  · rw [if_neg fun hpaid => hrejected hpaid.1, takenByFrames, if_neg]
    rwa [Option.isNone_iff_eq_none]
  · have hcheck : (t.pre.ctxFor config t.input).cfg.isBalanceCheckDisabled = false := by
      show t.pre.evm.ctx.cfg.isBalanceCheckDisabled = false
      rw [hcfg]
      rfl
    have hsponsor : config.PaidBy addr t ↔ (config.txEnv t.input).sponsor = some addr :=
      and_iff_right haccepted
    show (AccountCost.lostFunds.ctx addr).rel
      ((if config.PaidBy addr t then _ else 0) + config.takenByFrames addr t) _ ctx'
    rw [if_congr hsponsor rfl rfl, takenByFrames, if_pos (Option.isNone_iff_eq_none.mpr haccepted)]
    exact EvHandler.rel_lostFunds_run (hconfig.phasesSpare _) (hconfig.framesTouch _)
      (hconfig.keepsEnvironment _) hcheck hne hrun

/-- Along a chain an account loses at most the fees that it sponsors and what frames take. -/
theorem rel_chain (hconfig : config.SparesFunds addr) (hchain : Chain config db steps db')
    (hsends : ∀ t ∈ steps, config.sender t ≠ addr) :
    (AccountCost.lostFunds.world addr).rel
      (((steps.filter (config.PaidBy addr ·)).map config.maxFees).sum +
        config.totalTaken addr steps) db db' := by
  have hsteps := hchain.configured hconfig.keepsSetup
  have hsum := (hchain.linked hconfig.systemCalls).rel_sum fun t ht =>
    hconfig.rel_step (hsteps t ht).1 (hsteps t ht).2 (hsends t ht)
  rw [List.sum_map_add, List.sum_map_ite, List.map_const', List.sum_replicate, nsmul_zero,
    add_zero] at hsum
  exact hsum

end EvEvmConfig.SparesFunds

/-- In every chain of blocks, an account that sends no transaction loses at most the fees of the
accepted transactions that it sponsors, and what their frames and those of others take from it. So
an account that sponsors nothing loses nothing but to frames. -/
theorem lostFunds_le_sponsored (config : EvEvmConfig Payload) {addr : Address}
    (hconfig : config.SparesFunds addr) {db db' : WorldState}
    {steps : List (BlockTransition Payload)} (hchain : Chain config db steps db')
    (hsends : ∀ t ∈ steps, config.sender t ≠ addr) :
    (db.load.balance addr).toNat ≤ (db'.load.balance addr).toNat +
      (((steps.filter (config.PaidBy addr ·)).map config.maxFees).sum +
        config.totalTaken addr steps) :=
  hconfig.rel_chain hchain hsends

/-! ## A payment with a sponsor -/

open EvolvePayloadBuilder (paymentBuilder)
open EvTxEnvelope (paymentSender paymentSponsor)

/-- The node of the example spares every account. -/
theorem sparesFunds_paymentBuilder (crypto : Crypto) (addr : Address) :
    { paymentBuilder.evmConfig with crypto }.SparesFunds addr where
  keepsSetup _ := Transfers.keepsSetup _
  keepsEnvironment _ := Transfers.keepsEnvironment _
  phasesSpare _ := Transfers.phasesSpare
  framesTouch _ := Transfers.framesSpare fun _ => rfl
  systemCalls := spares_withoutSystemContracts _

/-- A state in which the sender of the payments and their sponsor are wealthy. -/
def sponsoredWorld : WorldState := fun a =>
  if a = paymentSponsor then some { info := { balance := 1000000000 } } else wealthyWorld a

/-- The payment with its sponsor. -/
def recoveredSponsored : Recovered fun _ => Empty :=
  { tx := EvolvePayloadBuilder.payment (some ⟨1, 2, true⟩), signer := paymentSender }

/-- Of two payments in a block the sponsor pays for one, and frames take nothing from it. -/
theorem lostFunds_le_sponsored_payments :
    ∃ steps db', Chain paymentBuilder.evmConfig sponsoredWorld steps db' ∧ steps.length = 2 ∧
      ((steps.filter (paymentBuilder.evmConfig.PaidBy paymentSponsor ·)).map
        paymentBuilder.evmConfig.maxFees) = [60000] ∧
      paymentBuilder.evmConfig.totalTaken paymentSponsor steps = 0 ∧
      1000000000 ≤ (db'.load.balance paymentSponsor).toNat + 60000 := by
  have hchain := chain_plainSteps sponsoredWorld [recoveredSponsored, recoveredPayment 8 30000]
    (.nil _)
  have hfees :
      ((plainSteps sponsoredWorld [recoveredSponsored, recoveredPayment 8 30000] ++ []).filter
        (paymentBuilder.evmConfig.PaidBy paymentSponsor ·)).map
          paymentBuilder.evmConfig.maxFees = [60000] := by
    decide +kernel
  have htaken : paymentBuilder.evmConfig.totalTaken paymentSponsor
      (plainSteps sponsoredWorld [recoveredSponsored, recoveredPayment 8 30000] ++ []) = 0 := by
    decide +kernel
  have hbalance : (sponsoredWorld.load.balance paymentSponsor).toNat = 1000000000 := by
    decide +kernel
  refine ⟨_, _, hchain, by decide +kernel, hfees, htaken, ?_⟩
  have hle := lostFunds_le_sponsored paymentBuilder.evmConfig
    (sparesFunds_paymentBuilder paymentBuilder.evmConfig.crypto paymentSponsor) hchain
    (by decide +kernel)
  rwa [hfees, htaken, hbalance, List.sum_singleton] at hle

end EvReth
