import EvReth.Revm.Handler.Defs
import EvReth.Revm.Handler.Transfers

/-!
# Batches run in order and all or nothing

`RunsInOrder` is what a batch is for: its calls run one after the other, each on the gas that its
predecessor left. The loop of `EvHandler::execution` follows it up to the first call that fails, and
then puts accounts and logs back to where they were at entry.
-/

namespace EvReth

open EStateM

/-- The loop's variables after a list of results. -/
def BatchState.recordAll (s : BatchState) (results : List FrameResult) : BatchState :=
  results.foldl (fun s result => s.record result.gas) s

section FinalizeBatchGas

variable {result : FrameResult} {txGasLimit remainingGas reservoir stateGasSpent : U64} {refund : ℤ}

/-- The gas of a batch has the limit of the transaction. -/
theorem limit_finalizeBatchGas :
    (finalizeBatchGas result txGasLimit remainingGas reservoir stateGasSpent refund).gas.limit =
      txGasLimit := by
  simp only [finalizeBatchGas]
  split_ifs <;> rfl

/-- What is left over is kept, unless the batch halts. -/
theorem remaining_finalizeBatchGas :
    (finalizeBatchGas result txGasLimit remainingGas reservoir stateGasSpent refund).gas.remaining =
      if result.result.isOkOrRevert then remainingGas else 0 := by
  simp only [finalizeBatchGas]
  split_ifs <;> simp [Gas.setReservoir, Gas.setStateGasSpent, Gas.recordRefund, Gas.eraseCost,
    Gas.newSpent]

/-- A failed batch puts the gas of its state changes back into the reservoir. -/
theorem reservoir_finalizeBatchGas :
    (finalizeBatchGas result txGasLimit remainingGas reservoir stateGasSpent refund).gas.reservoir =
      if result.result.isOk then reservoir else reservoir.saturatingAdd stateGasSpent := by
  simp only [finalizeBatchGas]
  split_ifs <;> rfl

/-- A failed batch refunds nothing. -/
theorem refunded_finalizeBatchGas (hfail : result.result.isOk = false) :
    (finalizeBatchGas result txGasLimit remainingGas reservoir stateGasSpent refund).gas.refunded =
      0 := by
  simp only [finalizeBatchGas, hfail, Bool.false_eq_true, if_false]
  split_ifs <;> rfl

end FinalizeBatchGas

namespace EvHandler

variable (inner : Mainnet) (baseTx : EvTxEnv)

/-- The calls run one after the other from `ctx`, with these results, and leave the last context. -/
inductive RunsInOrder : U64 → U64 → Ctx → List Call → List FrameResult → Ctx → Prop
  | nil (remainingGas reservoir : U64) (ctx : Ctx) :
      RunsInOrder remainingGas reservoir ctx [] [] ctx
  | cons {remainingGas reservoir : U64} {ctx ctx₁ ctx₂ : Ctx} {call : Call} {calls : List Call}
      {result : FrameResult} {results : List FrameResult}
      (hrun : runCall inner baseTx remainingGas reservoir call ctx = .ok result ctx₁)
      (hrest : RunsInOrder result.gas.remaining result.gas.reservoir ctx₁ calls results ctx₂) :
      RunsInOrder remainingGas reservoir ctx (call :: calls) (result :: results) ctx₂

/-- Frames fail with the database only: where it does not fail, every frame runs to a result, and
the database does not fail behind it either. -/
def FramesComplete : Prop :=
  ∀ remainingGas reservoir call ctx, ctx.journal.Readable → ∃ result ctx',
    runCall inner baseTx remainingGas reservoir call ctx = .ok result ctx' ∧ ctx'.journal.Readable

variable {inner baseTx}

/-- A call that runs to a result has built a frame for it and run the frame. -/
theorem runCall_eq_ok {g r : U64} {call : Call} {ctx ctx' : Ctx} {result : FrameResult}
    (h : runCall inner baseTx g r call ctx = .ok result ctx') :
    ∃ init ctx₁,
      inner.firstFrameInput g r { ctx with tx := baseTx.setBatchCall call } = .ok init ctx₁ ∧
      inner.runExecLoop init ctx₁ = .ok result ctx' :=
  bind_eq_ok (show (inner.firstFrameInput g r >>= inner.runExecLoop)
    { ctx with tx := baseTx.setBatchCall call } = .ok result ctx' from h)

/-- A reflexive and transitive relation that every call respects holds between the ends of a batch.
-/
theorem RunsInOrder.rel {R : Ctx → Ctx → Prop} (hrefl : ∀ ctx, R ctx ctx)
    (htrans : ∀ ctx₁ ctx₂ ctx₃, R ctx₁ ctx₂ → R ctx₂ ctx₃ → R ctx₁ ctx₃)
    (hcall : ∀ g r call ctx result ctx', runCall inner baseTx g r call ctx = .ok result ctx' →
      R ctx ctx')
    {remainingGas reservoir : U64} {ctx ctx' : Ctx} {calls : List Call} {results : List FrameResult}
    (h : RunsInOrder inner baseTx remainingGas reservoir ctx calls results ctx') : R ctx ctx' := by
  induction h with
  | nil => exact hrefl _
  | cons hrun _ ih => exact htrans _ _ _ (hcall _ _ _ _ _ _ hrun) ih

/-- The calls of a batch that runs in order do not change which accounts can be loaded. -/
theorem RunsInOrder.dbError_eq
    (hcall : ∀ g r call ctx result ctx', runCall inner baseTx g r call ctx = .ok result ctx' →
      ctx'.journal.dbError = ctx.journal.dbError)
    {remainingGas reservoir : U64} {ctx ctx' : Ctx} {calls : List Call} {results : List FrameResult}
    (h : RunsInOrder inner baseTx remainingGas reservoir ctx calls results ctx') :
    ctx'.journal.dbError = ctx.journal.dbError :=
  h.rel (R := fun ctx ctx' => ctx'.journal.dbError = ctx.journal.dbError) (fun _ => rfl)
    (fun _ _ _ h h' => h'.trans h) hcall

/-- The last context of a failed batch. -/
def reverted (baseTx : EvTxEnv) (firstIsCreate : Bool) (entry ctx : Ctx) : Ctx :=
  { ctx with journal :=
      if firstIsCreate && (ctx.journal.dbError baseTx.inner.caller).isNone then
        (ctx.journal.checkpointRevert entry.journal.checkpoint).bumpNonce baseTx.inner.caller
      else ctx.journal.checkpointRevert entry.journal.checkpoint }

section Loop

variable {firstIsCreate : Bool} {entry ctx ctx' : Ctx} {s : BatchState} {call : Call}
  {calls : List Call} {result : FrameResult} {results : List FrameResult}
  {last : Option FrameResult}

/-- Behind a call that succeeds the loop goes on. -/
theorem batchLoop_cons_of_ok (checkpoint : Journal.Checkpoint)
    (hrun : runCall inner baseTx s.remainingGas s.reservoir call ctx = .ok result ctx')
    (hok : result.result.isOk = true) :
    batchLoop inner baseTx firstIsCreate checkpoint (call :: calls) s last ctx =
      batchLoop inner baseTx firstIsCreate checkpoint calls (s.record result.gas) (some result)
        ctx' := by
  refine (bind_of_ok hrun).trans ?_
  simp [hok]

/-- At a call that fails the loop reverts and stops. -/
theorem batchLoop_cons_of_fail
    (hrun : runCall inner baseTx s.remainingGas s.reservoir call ctx = .ok result ctx')
    (hfail : result.result.isOk = false) :
    batchLoop inner baseTx firstIsCreate entry.journal.checkpoint (call :: calls) s last ctx =
      .ok (finalizeBatchGas result baseTx.inner.gasLimit (s.record result.gas).remainingGas
        (s.record result.gas).reservoir (s.record result.gas).totalStateGasSpent 0)
        (reverted baseTx firstIsCreate entry ctx') := by
  refine (bind_of_ok hrun).trans ?_
  simp only [hfail, Bool.not_false, if_true]
  rfl

/-- The loop over calls that all succeed runs them in order and returns the last result. -/
theorem batchLoop_of_ok (checkpoint : Journal.Checkpoint)
    (h : RunsInOrder inner baseTx s.remainingGas s.reservoir ctx calls results ctx')
    (hok : ∀ r ∈ results, r.result.isOk = true) (hlast : (results.getLast?).or last = some result) :
    batchLoop inner baseTx firstIsCreate checkpoint calls s last ctx =
      .ok (finalizeBatchGas result baseTx.inner.gasLimit (s.recordAll results).remainingGas
        (s.recordAll results).reservoir (s.recordAll results).totalStateGasSpent
        (s.recordAll results).totalRefunded) ctx' := by
  induction results generalizing s ctx calls last with
  | nil =>
    cases h
    obtain rfl : last = some result := by simpa using hlast
    rfl
  | cons r results ih =>
    cases h with
    | cons hrun hrest =>
      rw [batchLoop_cons_of_ok checkpoint hrun (hok r List.mem_cons_self)]
      -- the loop goes on with the result of this call as the last one
      refine ih hrest (fun r' hr' => hok r' (List.mem_cons_of_mem _ hr')) ?_
      rw [← hlast, List.getLast?_cons]
      cases results.getLast? <;> rfl

/-- The loop runs the calls in order up to the first that fails, and reverts. -/
theorem batchLoop_of_fail {ctx₁ : Ctx} (rest : List Call)
    (h : RunsInOrder inner baseTx s.remainingGas s.reservoir ctx calls results ctx₁)
    (hok : ∀ r ∈ results, r.result.isOk = true)
    (hrun : runCall inner baseTx (s.recordAll results).remainingGas (s.recordAll results).reservoir
      call ctx₁ = .ok result ctx')
    (hfail : result.result.isOk = false) :
    batchLoop inner baseTx firstIsCreate entry.journal.checkpoint (calls ++ call :: rest) s last
        ctx =
      .ok (finalizeBatchGas result baseTx.inner.gasLimit
        (s.recordAll (results ++ [result])).remainingGas
        (s.recordAll (results ++ [result])).reservoir
        (s.recordAll (results ++ [result])).totalStateGasSpent 0)
        (reverted baseTx firstIsCreate entry ctx') := by
  induction results generalizing s ctx calls last with
  | nil =>
    cases h
    -- the failing call is the next one
    exact batchLoop_cons_of_fail hrun hfail
  | cons r results ih =>
    cases h with
    | cons hrun' hrest =>
      rw [List.cons_append, batchLoop_cons_of_ok _ hrun' (hok r List.mem_cons_self)]
      exact ih hrest (fun r' hr' => hok r' (List.mem_cons_of_mem _ hr')) hrun

/-- A loop that returns has run all calls, each with success, or it has run them up to the first one
that fails and reverted. -/
theorem batchLoop_cases {last : Option FrameResult}
    (h : batchLoop inner baseTx firstIsCreate entry.journal.checkpoint calls s last ctx =
      .ok result ctx')
    (hlast : ∀ r, last = some r → r.result.isOk = true) :
    (∃ results r, RunsInOrder inner baseTx s.remainingGas s.reservoir ctx calls results ctx' ∧
        (∀ r ∈ results, r.result.isOk = true) ∧ r.result.isOk = true ∧
        result = finalizeBatchGas r baseTx.inner.gasLimit (s.recordAll results).remainingGas
          (s.recordAll results).reservoir (s.recordAll results).totalStateGasSpent
          (s.recordAll results).totalRefunded) ∨
      ∃ before call after results failed ctx₁, calls = before ++ call :: after ∧
        RunsInOrder inner baseTx s.remainingGas s.reservoir ctx (before ++ [call])
          (results ++ [failed]) ctx₁ ∧
        (∀ r ∈ results, r.result.isOk = true) ∧ failed.result.isOk = false ∧
        ctx' = reverted baseTx firstIsCreate entry ctx₁ ∧
        result = finalizeBatchGas failed baseTx.inner.gasLimit
          (s.recordAll (results ++ [failed])).remainingGas
          (s.recordAll (results ++ [failed])).reservoir
          (s.recordAll (results ++ [failed])).totalStateGasSpent 0 := by
  induction calls generalizing s ctx last with
  | nil =>
    cases hl : last with
    | none =>
      rw [hl] at h
      cases h
    | some r =>
      rw [hl] at h
      obtain ⟨rfl, rfl⟩ := EStateM.Result.ok.inj h
      exact .inl ⟨[], r, .nil _ _ _, by simp, hlast r hl, rfl⟩
  | cons call calls ih =>
    -- the loop returns, so this call has run to a result
    obtain ⟨r, ctx₁, hrun, -⟩ := bind_eq_ok h
    cases hok : r.result.isOk with
    | false =>
      rw [batchLoop_cons_of_fail hrun hok] at h
      obtain ⟨rfl, rfl⟩ := EStateM.Result.ok.inj h
      exact .inr ⟨[], call, calls, [], r, ctx₁, rfl, .cons hrun (.nil _ _ _), by simp, hok, rfl,
        rfl⟩
    | true =>
      rw [batchLoop_cons_of_ok _ hrun hok] at h
      have hsome : ∀ r', some r = some r' → r'.result.isOk = true := by
        rintro _ ⟨⟩
        exact hok
      rcases ih h hsome with ⟨results, r', hruns, hoks, hr', rfl⟩ |
        ⟨before, c, after, results, failed, ctx₂, rfl, hruns, hoks, hfail, hrev, rfl⟩
      · exact .inl ⟨r :: results, r', .cons hrun hruns, List.forall_mem_cons.mpr ⟨hok, hoks⟩, hr',
          rfl⟩
      · exact .inr ⟨call :: before, c, after, r :: results, failed, ctx₂, rfl, .cons hrun hruns,
          List.forall_mem_cons.mpr ⟨hok, hoks⟩, hfail, hrev, rfl⟩

end Loop

/-! ## Every batch runs in order up to its first failure -/

/-- One more call runs on what the others have left. -/
theorem RunsInOrder.snoc {s : BatchState} {ctx ctx₁ ctx₂ : Ctx} {calls : List Call}
    {results : List FrameResult} {call : Call} {result : FrameResult}
    (h : RunsInOrder inner baseTx s.remainingGas s.reservoir ctx calls results ctx₁)
    (hrun : runCall inner baseTx (s.recordAll results).remainingGas (s.recordAll results).reservoir
      call ctx₁ = .ok result ctx₂) :
    RunsInOrder inner baseTx s.remainingGas s.reservoir ctx (calls ++ [call])
      (results ++ [result]) ctx₂ := by
  induction results generalizing s ctx calls with
  | nil =>
    cases h
    exact .cons hrun (.nil _ _ _)
  | cons r results ih =>
    cases h with
    | cons hrun' hrest => exact .cons hrun' (ih (s := s.record r.gas) hrest hrun)

/-- Either all calls succeed in order, or there is a first one that fails, and the database has not
failed up to there. -/
theorem runsInOrder_or_fails (hframes : FramesComplete inner baseTx) (s : BatchState) (ctx : Ctx)
    (calls : List Call) (hread : ctx.journal.Readable) :
    (∃ results ctx', RunsInOrder inner baseTx s.remainingGas s.reservoir ctx calls results ctx' ∧
        ∀ r ∈ results, r.result.isOk = true) ∨
      ∃ before call after results result ctx₁ ctx₂, calls = before ++ call :: after ∧
        RunsInOrder inner baseTx s.remainingGas s.reservoir ctx before results ctx₁ ∧
        (∀ r ∈ results, r.result.isOk = true) ∧
        runCall inner baseTx (s.recordAll results).remainingGas (s.recordAll results).reservoir call
          ctx₁ = .ok result ctx₂ ∧ result.result.isOk = false ∧ ctx₂.journal.Readable := by
  induction calls generalizing s ctx with
  | nil => exact .inl ⟨[], ctx, .nil _ _ _, by simp⟩
  | cons call calls ih =>
    -- every frame runs to a result; its status decides
    obtain ⟨result, ctx₁, hrun, hread₁⟩ := hframes s.remainingGas s.reservoir call ctx hread
    cases hok : result.result.isOk with
    | false =>
      exact .inr ⟨[], call, calls, [], result, ctx, ctx₁, rfl, .nil _ _ _, by simp, hrun, hok,
        hread₁⟩
    | true =>
      rcases ih (s.record result.gas) ctx₁ hread₁ with ⟨results, ctx', hruns, hoks⟩ |
        ⟨before, c, after, results, r, ctx₂, ctx₃, rfl, hruns, hoks, hrun', hfail⟩
      · exact .inl ⟨result :: results, ctx', .cons hrun hruns, List.forall_mem_cons.mpr ⟨hok, hoks⟩⟩
      · exact .inr ⟨call :: before, c, after, result :: results, r, ctx₂, ctx₃, rfl,
          .cons hrun hruns, List.forall_mem_cons.mpr ⟨hok, hoks⟩, hrun', hfail⟩

/-! ## Atomicity -/

section Atomicity

variable {ctx : Ctx} {first second : Call} {rest : List Call} {gas : InitialAndFloorGas}

/-- The loop's variables at entry. -/
def batchEntry (inner : Mainnet) (gas : InitialAndFloorGas) (ctx : Ctx) : BatchState :=
  { remainingGas := (inner.initialGasAndReservoir gas ctx.tx.inner.gasLimit ctx.cfg).1
    reservoir := (inner.initialGasAndReservoir gas ctx.tx.inner.gasLimit ctx.cfg).2 }

/-- A batch is executed by the loop, from the gas that the initial gas leaves. -/
theorem execution_eq_batchLoop (hcalls : ctx.tx.batchCalls = some (first :: second :: rest)) :
    execution inner gas ctx =
      batchLoop inner ctx.tx first.dest.isCreate ctx.journal.checkpoint (first :: second :: rest)
        (batchEntry inner gas ctx) none ctx := by
  refine bind_get.trans ?_
  simp only [hcalls]
  rfl

/-- A single frame that runs to a result has been built, run and closed. -/
theorem mainnet_execution_eq_ok {ctx' : Ctx} {result : FrameResult}
    (h : inner.execution gas ctx = .ok result ctx') :
    ∃ init ctx₁ frame ctx₂,
      inner.firstFrameInput (inner.initialGasAndReservoir gas ctx.tx.inner.gasLimit ctx.cfg).1
        (inner.initialGasAndReservoir gas ctx.tx.inner.gasLimit ctx.cfg).2 ctx = .ok init ctx₁ ∧
      inner.runExecLoop init ctx₁ = .ok frame ctx₂ ∧
      inner.lastFrameResult frame ctx₂ = .ok result ctx' := by
  replace h := bind_get.symm.trans h
  obtain ⟨init, ctx₁, hinit, h⟩ := bind_eq_ok h
  obtain ⟨frame, ctx₂, hloop, hlast⟩ := bind_eq_ok h
  exact ⟨init, ctx₁, frame, ctx₂, hinit, hloop, hlast⟩

/-- Outside batches the handler executes what revm executes. -/
theorem execution_eq_of_not_batch (gas : InitialAndFloorGas) (hne : ctx.tx.batchCalls ≠ some [])
    (hbatch : ¬ ctx.tx.IsBatch) : execution inner gas ctx = inner.execution gas ctx := by
  refine bind_get.trans ?_
  cases hcalls : ctx.tx.batchCalls with
  | none => rfl
  | some calls =>
    match calls with
    | [] => exact absurd hcalls hne
    -- a single call is run by the mainnet handler, with the kind and data of the transaction
    | [call] => rfl
    | first :: second :: rest => exact absurd ⟨_, hcalls, by simp⟩ hbatch

/-- What a failed batch leaves in the journal: the accounts and logs of the entry, with the caller's
nonce incremented if the first call is `CREATE`. -/
def RestoresEntry (ctx : Ctx) (calls : List Call) (journal : Journal) : Prop :=
  journal.logs = ctx.journal.logs ∧
    journal.accounts =
      if calls.head?.any (·.dest.isCreate) then
        (ctx.journal.setNonce ctx.tx.inner.caller
          ((ctx.journal.nonce ctx.tx.inner.caller).saturatingAdd 1)).accounts
      else ctx.journal.accounts

/-- The end of a failed batch restores its entry. -/
theorem restoresEntry_reverted {ctx' : Ctx}
    (hdb : ctx'.journal.dbError ctx.tx.inner.caller = none) :
    RestoresEntry ctx (first :: second :: rest)
      (reverted ctx.tx first.dest.isCreate ctx ctx').journal := by
  unfold RestoresEntry reverted
  cases hcreate : first.dest.isCreate with
  | false => simp [hcreate, Journal.checkpointRevert, Journal.checkpoint]
  | true =>
    simp [hcreate, hdb, Journal.bumpNonce, Journal.setNonce, Journal.checkpointRevert,
      Journal.checkpoint, Journal.modify, Journal.nonce]

/-- Atomicity and sequencing of every batch, for every outcome of its frames.

If all calls succeed, the context is the one that running them in order leaves. Otherwise some call
is the first to fail: the calls up to it have run in order, the journal has the accounts and logs of
the entry again, except that a `CREATE` batch has its caller's nonce incremented (saturating), the
result carries the status of that call and no refund, and whatever follows it in the batch makes no
difference. -/
theorem batch_atomic_and_sequential (inner : Mainnet) (ctx : Ctx) (calls : List Call)
    (gas : InitialAndFloorGas) (hcalls : ctx.tx.batchCalls = some calls) (hlen : 2 ≤ calls.length)
    (hframes : FramesComplete inner ctx.tx) (hread : ctx.journal.Readable) :
    let entry := batchEntry inner gas ctx
    ∃ result ctx', execution inner gas ctx = .ok result ctx' ∧
      ((∃ results,
          RunsInOrder inner ctx.tx entry.remainingGas entry.reservoir ctx calls results ctx' ∧
          (∀ r ∈ results, r.result.isOk = true) ∧
          results.getLast?.map (·.result) = some result.result) ∨
        ∃ before call after results failed ctx₁ journal, calls = before ++ call :: after ∧
          RunsInOrder inner ctx.tx entry.remainingGas entry.reservoir ctx (before ++ [call])
            (results ++ [failed]) ctx₁ ∧
          (∀ r ∈ results, r.result.isOk = true) ∧ failed.result.isOk = false ∧
          ctx' = { ctx₁ with journal } ∧ RestoresEntry ctx calls journal ∧
          result.result = failed.result ∧ result.gas.refunded = 0 ∧
          ∀ after', batchLoop inner ctx.tx (calls.head?.any (·.dest.isCreate))
            ctx.journal.checkpoint (before ++ call :: after') entry none ctx =
              .ok result ctx') := by
  intro entry
  match calls, hlen with
  | first :: second :: rest, _ =>
    rw [execution_eq_batchLoop hcalls]
    rcases runsInOrder_or_fails hframes entry ctx (first :: second :: rest) hread with
      ⟨results, ctx', hruns, hoks⟩ |
      ⟨before, call, after, results, failed, ctx₁, ctx₂, hsplit, hruns, hoks, hrun, hfail, hread₂⟩
    -- a batch is not empty, so there is a last result
    · have hne : results ≠ [] := by
        rintro rfl
        cases hruns
      obtain ⟨last, hlast⟩ := Option.ne_none_iff_exists'.mp (mt List.getLast?_eq_none_iff.mp hne)
      refine ⟨_, ctx', batchLoop_of_ok _ hruns hoks (by rw [hlast]; rfl),
        .inl ⟨results, hruns, hoks, ?_⟩⟩
      rw [hlast]
      rfl
    · have hruns' := hruns.snoc hrun
      -- the loop stops at the failing call, whatever stands behind it
      have hloop : ∀ after', batchLoop inner ctx.tx first.dest.isCreate ctx.journal.checkpoint
          (before ++ call :: after') entry none ctx = .ok _
            (reverted ctx.tx first.dest.isCreate ctx ctx₂) :=
        fun after' => batchLoop_of_fail after' hruns hoks hrun hfail
      have hexec := hloop after
      rw [← hsplit] at hexec
      refine ⟨_, _, hexec, .inr ?_⟩
      exact ⟨before, call, after, results, failed, ctx₂,
        (reverted ctx.tx first.dest.isCreate ctx ctx₂).journal, hsplit, hruns', hoks, hfail, rfl,
        restoresEntry_reverted (hread₂.1 _), rfl, refunded_finalizeBatchGas hfail, hloop⟩

/-- The frames of payments always run to a result. -/
theorem framesComplete_transfers (createAddress : Address → U64 → Address) (baseTx : EvTxEnv) :
    FramesComplete (Transfers.mainnet createAddress) baseTx := by
  intro remainingGas reservoir call ctx hread
  obtain ⟨result, ctx', hrun, hdb, hstorage⟩ := Transfers.runExecLoop_ok createAddress _
    { ctx with tx := baseTx.setBatchCall call }
  refine ⟨result, ctx', hrun, fun a => ?_, fun a k => ?_⟩
  · rw [hdb]
    exact hread.1 a
  · rw [hstorage]
    exact hread.2 a k

/-- The caller `0xCA` with funds and the given nonce, and the account `0x02`, which has all the wei
that a balance can hold. -/
def journalWithNonce (nonce : U64) : Journal :=
  ((Journal.empty.setNonce 0xCA nonce).setBalance 0xCA 1000000).setBalance 0x02 (BitVec.allOnes 256)

/-- A creation followed by a transfer of `1` wei to `0x02`, by `0xCA`. The nonce of the transaction
is `0`; that of `0xCA` is another one where nonces are not checked. -/
def createThenPay (nonce : U64) : Ctx :=
  { cfg := { isNonceCheckDisabled := true }
    block := { number := 1, beneficiary := 0xBE, basefee := 1 }
    tx := EvTxEnv.fromEvNode (fun _ _ _ => none)
      { chainId := 1
        nonce := 0
        maxPriorityFeePerGas := 1
        maxFeePerGas := 2
        gasLimit := 100000
        calls := [⟨.create, 0, []⟩, ⟨.call 0x02, 1, []⟩]
        accessList := []
        feePayerSignature := none } 0xCA
    journal := journalWithNonce nonce }

theorem readable_createThenPay (nonce : U64) : (createThenPay nonce).journal.Readable :=
  ⟨fun _ => rfl, fun _ _ => rfl⟩

/-- The batch of `createThenPay 0` runs and is atomic. -/
theorem batch_atomic_createThenPay :
    FramesComplete Transfers.mainnetOfCA (createThenPay 0).tx ∧
      (createThenPay 0).journal.Readable ∧
      ∃ result ctx', execution Transfers.mainnetOfCA (Transfers.initialGas true) (createThenPay 0) =
        .ok result ctx' := by
  have hframes : FramesComplete Transfers.mainnetOfCA (createThenPay 0).tx :=
    framesComplete_transfers _ _
  have hread := readable_createThenPay 0
  obtain ⟨result, ctx', hexec, -⟩ := batch_atomic_and_sequential Transfers.mainnetOfCA
    (createThenPay 0) _ (Transfers.initialGas true) rfl (by decide) hframes hread
  exact ⟨hframes, hread, result, ctx', hexec⟩

/-- Where nonces are not checked, an account with the largest one may send a batch: it passes all
checks, fails at its second call, and leaves a nonce that is not one higher. -/
theorem nonce_not_higher_at_max :
    FramesComplete Transfers.mainnetOfCA (createThenPay (BitVec.allOnes 64)).tx ∧
      ∃ gas refund ctx, preExecution ⟨none, none⟩ Transfers.mainnetOfCA
          (createThenPay (BitVec.allOnes 64)) = .ok (gas, refund) ctx ∧
        ctx.tx = (createThenPay (BitVec.allOnes 64)).tx ∧ ctx.journal.Readable ∧
        ∃ result ctx', execution Transfers.mainnetOfCA gas ctx = .ok result ctx' ∧
          result.result.isOk = false ∧
          (ctx'.journal.nonce 0xCA).toNat ≠ (ctx.journal.nonce 0xCA).toNat + 1 :=
  ⟨framesComplete_transfers _ _, _, _, _, rfl, rfl, ⟨fun _ => rfl, fun _ _ => rfl⟩, _, _, rfl,
    by decide, by decide⟩

end Atomicity

end EvHandler

end EvReth
