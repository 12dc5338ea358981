import EvReth.Evolve.Selection
import EvReth.Node.PayloadService

/-!
# The published gas limit

`try_build` and `build_empty_payload` (`crates/node/src/payload_service.rs`) publish the gas limit
of their request in `CURRENT_BLOCK_GAS_LIMIT` (`crates/evolve/src/config.rs`), from where `get_txs`
takes its gas cap. They do so before the request is validated: what a request leaves behind that
cannot be built caps the selection as well, and a gas limit of `0` is no cap.
-/

namespace EvReth

open EStateM Run

variable {Payload : TxType → Type}

/-- `DEFAULT_MAX_TXPOOL_GAS`, with which `CURRENT_BLOCK_GAS_LIMIT` starts. -/
def defaultMaxTxpoolGas : U64 := 30000000

/-! ## Calls -/

/-- The calls that write or read the published gas limit, with what they find in the node. -/
inductive CapCall (Payload : TxType → Type) where
  | tryBuild (service : EvolveEnginePayloadBuilder Payload) (client : Client)
      (config : PayloadConfig)
  | buildEmptyPayload (service : EvolveEnginePayloadBuilder Payload) (client : Client)
      (config : PayloadConfig)
  | getTxs (api : EvolveTxpoolApiImpl Payload) (bestTransactions : List (BestTransaction Payload))

/-- What a call returns. -/
inductive CapOutput (Payload : TxType → Type) where
  | built (payload : EvBuiltPayload Payload)
  | failed (e : BuildFailure)
  | selected (txs : List Bytes)

/-- The outcome of a build, and the gas limit that is published after it. -/
def CapOutput.ofBuild :
    EStateM.Result BuildFailure U64 (EvBuiltPayload Payload) → CapOutput Payload × U64
  | .ok payload gasLimit => (.built payload, gasLimit)
  | .error e gasLimit => (.failed e, gasLimit)

/-- A call, and the gas limit that is published after it. -/
def capStep (gasLimit : U64) : CapCall Payload → CapOutput Payload × U64
  | .tryBuild service client config => CapOutput.ofBuild (service.tryBuild client config gasLimit)
  | .buildEmptyPayload service client config =>
    CapOutput.ofBuild (service.buildEmptyPayload client config gasLimit)
  | .getTxs api bestTransactions =>
    let (txs, gasLimit) := api.getTxs bestTransactions gasLimit
    (.selected txs, gasLimit)

/-- The steps of a run of calls. -/
abbrev CapTransition (Payload : TxType → Type) :=
  Transition U64 (CapCall Payload) (CapOutput Payload)

/-- The request of a block, as the builder gets it. -/
structure BuildRequest (Payload : TxType → Type) where
  service : EvolveEnginePayloadBuilder Payload
  client : Client
  config : PayloadConfig
  transactions : List (EvTxEnvelope Payload)

/-- The request of a call, if it makes one. -/
def CapCall.request : CapCall Payload → Option (BuildRequest Payload)
  | .tryBuild service client config =>
    some ⟨service, client, config, if service.devMode then service.pendingTransactions
      else service.decodeTransactions (config.attributes.transactions.getD [])⟩
  | .buildEmptyPayload service client config => some ⟨service, client, config, []⟩
  | .getTxs _ _ => none

namespace BuildRequest

variable (self : BuildRequest Payload)

/-- `effective_gas_limit`. -/
def effectiveGasLimit : U64 :=
  self.config.attributes.gasLimit.getD self.config.parentHeader.gasLimit

/-- The attributes that `build_payload` gets. -/
def attributes : EvolvePayloadAttributes Payload :=
  self.service.evolveAttributes self.config self.transactions

/-- What it takes to build the block: a gas limit, the latest state and the header of the parent,
and a start, transactions and an end on these that nothing aborts. -/
def Buildable : Prop :=
  self.attributes.validate = .ok () ∧
    ∃ base, self.client.latest = .ok base ∧
    ∃ parent, self.client.header self.attributes.parentHash = .ok (some parent) ∧
    ∃ next, self.service.evolveBuilder.nextBlockAttributes parent self.attributes = .ok next ∧
    ∃ first, self.service.evolveBuilder.begin base parent self.attributes.parentHash next =
        .ok first ∧
      SkipLoop.Completes self.service.evolveBuilder.processTransaction self.attributes.transactions
        first ∧
      ∀ last, SkipLoop.run self.service.evolveBuilder.processTransaction
          self.attributes.transactions first = .ok last →
        (self.service.evolveBuilder.finish base parent next last).Succeeds

variable {self} {call : CapCall Payload} {gasLimit : U64} {r : BuildRequest Payload}

/-- A validated request has a gas limit. -/
theorem validate_eq_ok_iff : self.attributes.validate = .ok () ↔ self.effectiveGasLimit ≠ 0 := by
  have hgas : self.attributes.gasLimit = some self.effectiveGasLimit := rfl
  simp only [EvolvePayloadAttributes.validate, hgas, Option.some.injEq]
  split_ifs with hzero
  · exact iff_of_false (by simp) (not_not.mpr hzero)
  · exact iff_of_true rfl hzero

/-- The block of a request is built exactly if nothing aborts one of the steps. -/
theorem buildable_iff : self.Buildable ↔
    (self.service.evolveBuilder.buildPayload self.client self.attributes).Succeeds := by
  -- the parts of the condition are the steps of the build, one for one
  constructor
  · rintro ⟨hvalid, base, hlatest, parent, hparent, next, hnext, first, hbegin, hcompletes, hend⟩
    obtain ⟨last, hrun⟩ := SkipLoop.run_eq_ok_iff.mpr hcompletes
    obtain ⟨outcome, hfinish⟩ := hend last hrun
    have hbuild := EvolvePayloadBuilder.buildOutcome_eq_ok_iff.mpr ⟨base,
      EvolvePayloadBuilder.openState_eq_ok_iff.mpr ⟨hvalid, hlatest⟩, parent,
      EvolvePayloadBuilder.fetchParent_eq_ok_iff.mpr hparent,
      EvolvePayloadBuilder.buildOn_eq_ok_iff.mpr ⟨next, hnext, first, hbegin, last, hrun, hfinish⟩⟩
    exact ⟨outcome.block, Except.map_eq_ok_iff.mpr ⟨outcome, hbuild, rfl⟩⟩
  · rintro ⟨block, h⟩
    obtain ⟨outcome, hbuild, -⟩ := Except.map_eq_ok_iff.mp h
    obtain ⟨base, hopen, parent, hfetch, hbuild⟩ :=
      EvolvePayloadBuilder.buildOutcome_eq_ok_iff.mp hbuild
    obtain ⟨next, hnext, first, hbegin, last, hrun, hfinish⟩ :=
      EvolvePayloadBuilder.buildOn_eq_ok_iff.mp hbuild
    obtain ⟨hvalid, hlatest⟩ := EvolvePayloadBuilder.openState_eq_ok_iff.mp hopen
    refine ⟨hvalid, base, hlatest, parent, EvolvePayloadBuilder.fetchParent_eq_ok_iff.mp hfetch,
      next, hnext, first, hbegin, SkipLoop.run_eq_ok_iff.mp ⟨last, hrun⟩, fun last' hrun' => ?_⟩
    obtain rfl := Except.ok.inj (hrun.symm.trans hrun')
    exact ⟨outcome, hfinish⟩

end BuildRequest

/-! ## Steps -/

section Steps

variable {call : CapCall Payload} {gasLimit : U64} {r : BuildRequest Payload}

theorem capStep_eq_ofBuild (h : call.request = some r) :
    capStep gasLimit call =
      CapOutput.ofBuild (r.service.buildFrom r.client r.config r.transactions gasLimit) := by
  cases call with
  | tryBuild service client config =>
    obtain rfl := Option.some.inj h
    rfl
  | buildEmptyPayload service client config =>
    obtain rfl := Option.some.inj h
    rfl
  | getTxs api bestTransactions => cases h

/-- A request publishes its gas limit, whatever becomes of it, and fails if its block cannot be
built. -/
theorem capStep_of_request (h : call.request = some r) :
    (capStep gasLimit call).2 = r.effectiveGasLimit ∧
      ((∃ e, (capStep gasLimit call).1 = .failed e) ↔ ¬ r.Buildable) := by
  rw [capStep_eq_ofBuild h, BuildRequest.buildable_iff]
  cases hbuild : r.service.evolveBuilder.buildPayload r.client r.attributes with
  | error e =>
    rw [EvolveEnginePayloadBuilder.buildFrom_of_error hbuild]
    exact ⟨rfl, iff_of_true ⟨e, rfl⟩ (by simp [Except.Succeeds])⟩
  | ok block =>
    rw [EvolveEnginePayloadBuilder.buildFrom_eq_ok_iff.mpr ⟨block, hbuild, rfl, rfl⟩]
    exact ⟨rfl, iff_of_false (by simp [CapOutput.ofBuild]) (not_not.mpr ⟨block, rfl⟩)⟩

/-- The other calls leave the published gas limit as it is, and do not fail. -/
theorem capStep_of_no_request (h : call.request = none) :
    (capStep gasLimit call).2 = gasLimit ∧ ∀ e, (capStep gasLimit call).1 ≠ .failed e := by
  cases call with
  | tryBuild service client config => cases h
  | buildEmptyPayload service client config => cases h
  | getTxs api bestTransactions => exact ⟨rfl, nofun⟩

end Steps

/-! ## Runs -/

/-- The gas limit is the initial one or that of a validated request, and it is a cap. -/
def Accepted (before : List (CapCall Payload)) (gasLimit : U64) : Prop :=
  gasLimit ≠ 0 ∧
    (gasLimit = defaultMaxTxpoolGas ∨ ∃ call ∈ before, ∃ r, call.request = some r ∧
      r.attributes.validate = .ok () ∧ gasLimit = r.effectiveGasLimit)

theorem Accepted.append {before : List (CapCall Payload)} {gasLimit : U64}
    (h : Accepted before gasLimit) (after : List (CapCall Payload)) :
    Accepted (before ++ after) gasLimit := by
  refine ⟨h.1, h.2.imp_right ?_⟩
  rintro ⟨call, hmem, horigin⟩
  exact ⟨call, List.mem_append_left _ hmem, horigin⟩

/-- A request with valid attributes is accepted. -/
theorem accepted_of_validates {before : List (CapCall Payload)} {call : CapCall Payload}
    {r : BuildRequest Payload} (hmem : call ∈ before) (hrequest : call.request = some r)
    (hvalid : r.attributes.validate = .ok ()) : Accepted before r.effectiveGasLimit :=
  ⟨BuildRequest.validate_eq_ok_iff.mp hvalid, .inr ⟨call, hmem, r, hrequest, hvalid, rfl⟩⟩

/-- In a run of calls the published gas limit follows the accepted requests: it is always the
initial one or that of a validated request, it is never `0`, and a call that fails leaves it as it
was. -/
structure FollowsAccepted (calls : List (CapCall Payload)) : Prop where
  accepted : ∀ before, before <+: calls →
    Accepted before (finalState capStep defaultMaxTxpoolGas before)
  kept : ∀ t ∈ transitions capStep defaultMaxTxpoolGas calls,
    (∃ e, t.output = .failed e) → t.post = t.pre

/-- A request asks for the gas limit that is published, or its block can be built. -/
def KeepsOrBuilds (t : CapTransition Payload) : Prop :=
  ∀ r, t.input.request = some r → r.effectiveGasLimit = t.pre ∨ r.Buildable

/-- The published gas limit follows the accepted requests exactly if each request asks for the gas
limit that is published or its block can be built. -/
theorem followsAccepted_iff {calls : List (CapCall Payload)} :
    FollowsAccepted calls ↔
      ∀ t ∈ transitions capStep defaultMaxTxpoolGas calls, KeepsOrBuilds t := by
  constructor
  · -- a request whose block cannot be built fails, and must have left the cap as it was
    intro h t ht r hr
    by_cases hbuild : r.Buildable
    · exact .inr hbuild
    · obtain ⟨hpost, hfails⟩ := @capStep_of_request _ t.input t.pre r hr
      have hkept := h.kept t ht
      rw [eq_of_mem_transitions ht] at hkept
      exact .inl (hpost.symm.trans (hkept (hfails.mpr hbuild)))
  · intro h
    refine ⟨fun before hbefore => ?_, fun t ht hfails => ?_⟩
    · -- the induction adds a call at the end of the run
      induction before using List.reverseRecOn with
      | nil =>
        rw [finalState]
        exact ⟨by decide, .inl rfl⟩
      | append_singleton before call ih =>
        have haccepted := ih ((List.prefix_append _ _).trans hbefore)
        have hstep := h _ (transitions_subset_of_isPrefix hbefore
          (last_mem_transitions capStep defaultMaxTxpoolGas before call))
        rw [finalState_append_singleton]
        cases hrequest : call.request with
        | none =>
          rw [(capStep_of_no_request hrequest).1]
          exact haccepted.append _
        | some r =>
          rw [(capStep_of_request hrequest).1]
          rcases hstep r hrequest with hsame | hbuild
          · -- the request asks for what is published
            rw [hsame]
            exact haccepted.append _
          · exact accepted_of_validates (List.mem_append_right _ List.mem_cons_self) hrequest
              hbuild.1
    · have hstep := h t ht
      rw [eq_of_mem_transitions ht] at hfails ⊢
      cases hrequest : t.input.request with
      | none =>
        obtain ⟨e, hfails⟩ := hfails
        exact absurd hfails ((capStep_of_no_request hrequest).2 e)
      | some r =>
        obtain ⟨hpost, hnotBuilt⟩ := @capStep_of_request _ t.input t.pre r hrequest
        exact hpost.trans ((hstep r hrequest).resolve_right (hnotBuilt.mp hfails))

section Payment

open EvolveEnginePayloadBuilder (paymentService paymentConfig)
open EvolvePayloadBuilder (paymentClient)
open EvolveTxpoolApiImpl (paymentApi pooledPayment)

/-- A request with a gas limit of `0`. -/
def requestWithoutGas : CapCall fun _ => Empty :=
  let config := paymentConfig []
  .tryBuild paymentService paymentClient
    { config with attributes := { config.attributes with gasLimit := some 0 } }

/-- Two payments of `20000000` gas each. -/
def largePayments : List (BestTransaction fun _ => Empty) :=
  [7, 8].map fun nonce =>
    { pooledPayment nonce with transaction := (recoveredPayment nonce 20000000).tx }

/-- A request with a gas limit of `0` fails and leaves no cap: before it one of the payments is
selected, and after it both are. -/
theorem request_without_gas_lifts_cap :
    ¬ FollowsAccepted [requestWithoutGas] ∧
      ((paymentApi 0).getTxs largePayments defaultMaxTxpoolGas).1.length = 1 ∧
      ((paymentApi 0).getTxs largePayments
        (finalState capStep defaultMaxTxpoolGas [requestWithoutGas])).1.length = 2 := by
  have hpublished : finalState capStep defaultMaxTxpoolGas [requestWithoutGas] = 0 := by decide
  refine ⟨fun h => ?_, by decide, ?_⟩
  · exact (h.accepted [requestWithoutGas] List.prefix_rfl).1 hpublished
  · rw [hpublished]
    decide

end Payment

end EvReth
