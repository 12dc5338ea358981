import EvReth.Deployer.Pipeline

/-!
# Runs on a chain that answers

On a chain and a file system on which every operation succeeds, a run of the deploy pipeline
completes: a first run creates the state file, and a run with Permit2 deploys and verifies it.
-/

namespace EvReth.Deployer

open Relation Machine

/-! ## The answers -/

section Cooperative

variable (artifacts : Artifacts) (chainId : U64)

/-- The first pending transaction is mined and creates the expected contract. -/
def World.deployNext (w : World) (tx : SentTx) : World :=
  let address := artifacts.factoryAddress tx.input
  let runtime := ((artifacts.expectedRuntimeBytecode chainId address).toOption).getD []
  { (w.mine tx true).create address runtime with
    deployments := readFactoryCalldata tx.input :: w.deployments }

/-- The answers of a chain and a file system on which everything succeeds. -/
def cooperative (w : World) : (o : Op) → Except Failure o.Res × World
  | .chainId => (.ok chainId, w)
  | .getCode address => (.ok ((w.code address).getD []), w)
  | .sendTransaction target input =>
    (.ok 1, { w with pending := ⟨1, target, input⟩ :: w.pending })
  | .getReceipt hash =>
    match w.pending with
    | [] => (.error (.report "no transaction"), w)
    | tx :: _ =>
      if tx.hash = hash ∧ tx.target = deterministicDeployer ∧
          w.code (artifacts.factoryAddress tx.input) = none then
        (.ok ⟨hash, true⟩, w.deployNext artifacts chainId tx)
      else (.error (.report "no receipt"), w)
  | .randomSalt => (.ok 7, w)
  | .fileExists path => (.ok (w.files path).isSome, w)
  | .readState path =>
    match w.files path with
    | some (.state state) => (.ok state, w)
    | _ => (.error (.report "no state"), w)
  | .write path content => (.ok (), w.write path content)
  | .rename source target =>
    match w.files source with
    | some content => (.ok (), w.move source target content)
    | none => (.error (.report "no file"), w)

/-- What a cooperative world answers is possible. -/
theorem cooperative_possible (w : World) (o : Op) :
    ∃ w₁, ReflTransGen (machine artifacts chainId).env w w₁ ∧
      (machine artifacts chainId).perform w₁ o (cooperative artifacts chainId w o).1
        (cooperative artifacts chainId w o).2 := by
  cases o with
  | chainId => exact ⟨w, .refl, rfl, fun _ h => (Except.ok.inj h).symm⟩
  | getCode address => exact ⟨w, .refl, rfl, fun _ h => (Except.ok.inj h).symm⟩
  | sendTransaction target input =>
    exact ⟨w, .refl, .inr ⟨1, rfl, fun _ h => (Except.ok.inj h).symm⟩⟩
  | getReceipt hash =>
    -- only here does the chain move: the deployment that is pending may have to happen first
    cases hpending : w.pending with
    | nil =>
      refine ⟨w, .refl, ?_⟩
      simp [cooperative, hpending, machine, perform]
    | cons tx rest =>
      by_cases hmined : tx.hash = hash ∧ tx.target = deterministicDeployer ∧
          w.code (artifacts.factoryAddress tx.input) = none
      · -- the transaction is mined before the receipt is asked for
        refine ⟨w.deployNext artifacts chainId tx,
          .single (.deploys ?_ hmined.2.1 _ hmined.2.2), ?_⟩
        · rw [hpending]
          exact List.mem_cons_self
        · simp only [cooperative, hpending, if_pos hmined]
          refine ⟨rfl, fun receipt h => ?_⟩
          obtain rfl := Except.ok.inj h
          refine ⟨?_, rfl⟩
          rw [← hmined.1]
          exact List.mem_cons_self
      · refine ⟨w, .refl, ?_⟩
        simp [cooperative, hpending, if_neg hmined, machine, perform]
  | randomSalt => exact ⟨w, .refl, rfl, 7, rfl⟩
  | fileExists path => exact ⟨w, .refl, rfl, rfl⟩
  | readState path =>
    refine ⟨w, .refl, ?_⟩
    rcases hfile : w.files path with _ | state | _ | _ <;>
      simp [cooperative, hfile, machine, perform]
  | write path content => exact ⟨w, .refl, .inl ⟨rfl, rfl⟩⟩
  | rename source target =>
    refine ⟨w, .refl, ?_⟩
    cases hfile : w.files source <;> simp [cooperative, hfile, machine, perform]

end Cooperative

/-! ## The parts of a run -/

section Progress

variable {artifacts : Artifacts} {chainId : U64} {w : World} {state : DeployState}
variable {config : DeployConfig} {cfg : PipelineConfig} {runtime : Bytes} {path : PathBuf}

/-- The world after a state was saved. -/
def World.saved (w : World) (path : PathBuf) (state : DeployState) : World :=
  let tmp := path.withExtension "tmp"
  (w.write tmp (.state state)).move tmp path (.state state)

@[simp] theorem World.code_saved (w : World) (path : PathBuf) (state : DeployState) :
    (w.saved path state).code = w.code := rfl

theorem World.records_saved (w : World) (path : PathBuf) (state : DeployState) :
    (w.saved path state).Records path state :=
  World.files_move ..

/-- The world after the manifest was written, if there is a path for it. -/
def World.withManifest (w : World) (addressesOut : Option PathBuf) (manifest : Value) : World :=
  match addressesOut with
  | none => w
  | some path => w.write path (.manifest manifest)

/-- The world after the contract was deployed with a salt. -/
def World.withDeployment (w : World) (artifacts : Artifacts) (chainId : U64) (salt : B256) :
    World :=
  let tx : SentTx :=
    ⟨1, deterministicDeployer, buildFactoryCalldata salt artifacts.permit2Initcode⟩
  { w with pending := [tx] }.deployNext artifacts chainId tx

theorem save_answers (state : DeployState) (path : PathBuf) (w : World) :
    answers (cooperative artifacts chainId) (state.save path) w = (.ok (), w.saved path state) := by
  simp [DeployState.save, ask, answers_bind, cooperative, World.saved]

theorem getCode_answers (address : Address) (w : World) :
    answers (cooperative artifacts chainId) (getCode address) w =
      (.ok ((w.code address).getD []), w) := by
  simp [getCode, ask, cooperative]

/-- To the configured chain with the factory the pipeline connects. -/
theorem connect_answers {code : Bytes} (hchain : config.chain.chainId = chainId)
    (hcode : w.code deterministicDeployer = some code) (hne : code ≠ []) :
    answers (cooperative artifacts chainId) (connect artifacts config) w = (.ok chainId, w) := by
  simp [connect, getChainId, ask, answers_bind, getCode_answers, cooperative, ensure, hchain,
    hcode, hne]

theorem create_answers (hnone : w.files cfg.statePath = none) :
    answers (cooperative artifacts chainId) (loadOrCreate cfg) w =
      (.ok (.new cfg.config 7), w.saved cfg.statePath (.new cfg.config 7)) := by
  simp [loadOrCreate, ask, answers_bind, cooperative, hnone, save_answers]

/-- With a state file that fits the configuration the pipeline goes on from it. -/
theorem load_answers (hrecords : w.Records cfg.statePath state)
    (hversion : state.version = stateVersion)
    (hvalid : state.validateImmutability cfg.config = .ok ()) :
    answers (cooperative artifacts chainId) (loadOrCreate cfg) w = (.ok state, w) := by
  rw [World.Records] at hrecords
  have hload : state.checkVersion = .ok state := by
    simp [DeployState.checkVersion, ensure, hversion]
  simp [loadOrCreate, DeployState.load, ask, answers_bind, cooperative, hrecords, hvalid, hload]

/-- A cooperative world mines the deployment. -/
theorem deployCreate2_answers {salt : B256} (hpending : w.pending = [])
    (hfree : w.code (artifacts.permit2Address salt) = none) :
    answers (cooperative artifacts chainId) (deployCreate2 salt artifacts.permit2Initcode) w =
      (.ok ⟨1, true⟩, w.withDeployment artifacts chainId salt) := by
  have hfree' : w.code (artifacts.factoryAddress
      (buildFactoryCalldata salt artifacts.permit2Initcode)) = none := by
    rw [factoryAddress_buildFactoryCalldata, hfree]
  simp only [deployCreate2, ask, answers_bind, answers_op, cooperative, hpending]
  rw [if_pos ⟨trivial, trivial, hfree'⟩]
  rfl

/-- Permit2 is deployed and recorded as such. -/
theorem deployPermit2_answers (hconfig : cfg.config.contracts.permit2.isSome)
    (hpending : w.pending = []) (hnone : state.contracts.permit2 = none)
    (hfree : w.code (artifacts.permit2Address state.create2Salt) = none)
    (hruntime : artifacts.expectedRuntimeBytecode chainId
      (artifacts.permit2Address state.create2Salt) = .ok runtime) :
    let deployed := state.withPermit2
      ⟨.deployed, artifacts.permit2Address state.create2Salt, some 1⟩
    answers (cooperative artifacts chainId) (deployPermit2 artifacts cfg chainId state) w =
      (.ok deployed,
        (w.withDeployment artifacts chainId state.create2Salt).saved cfg.statePath deployed) := by
  have hgo : ¬(getContractStatus state "permit2").any (ContractStatus.deployed ≤ ·) := by
    simp [getContractStatus, hnone]
  have hset : ∀ cs, setContractState state "permit2" cs = state.withPermit2 cs := fun _ => rfl
  simp only
  rw [deployPermit2, if_pos hconfig, answers_bind, ← Artifacts.permit2Address, hruntime,
    answers_ofExcept]
  simp only
  rw [deployContract, if_neg hgo, answers_bind, getCode_answers, hfree]
  simp only [Option.getD_none, ne_eq, not_true_eq_false, if_false]
  rw [answers_bind, deployCreate2_answers hpending hfree]
  simp only [ensure, if_true, answers_bind, answers_ofExcept, hset, save_answers, answers_pure]

/-- The deployed contract has the expected bytecode. -/
theorem code_withDeployment {salt : B256}
    (hruntime : artifacts.expectedRuntimeBytecode chainId (artifacts.permit2Address salt) =
      .ok runtime) :
    (w.withDeployment artifacts chainId salt).code (artifacts.permit2Address salt) =
      some runtime := by
  simp only [World.withDeployment, World.deployNext, World.create,
    factoryAddress_buildFactoryCalldata, hruntime]
  exact Function.update_self ..

/-- What is saved at the end, and the manifest of it. -/
def World.finished (w : World) (artifacts : Artifacts) (cfg : PipelineConfig)
    (state : DeployState) : World :=
  (w.saved cfg.statePath state).withManifest cfg.addressesOut (buildDeployManifest artifacts state)

/-- The manifest leaves the state file as it is. -/
theorem World.records_finished (w : World) (artifacts : Artifacts) (state : DeployState)
    (hout : cfg.addressesOut ≠ some cfg.statePath) :
    (w.finished artifacts cfg state).Records cfg.statePath state := by
  rw [finished]
  cases hpath : cfg.addressesOut with
  | none => exact records_saved ..
  | some path =>
    have hne : cfg.statePath ≠ path := fun heq => hout (hpath.trans (congrArg some heq.symm))
    exact (files_write_of_ne hne.symm _ _).trans (records_saved ..)

/-- What was verified is saved, and the manifest is written. -/
theorem finish_answers_of_verify {verified : DeployState}
    (hverify : answers (cooperative artifacts chainId) (verifyAll artifacts state chainId) w =
      (.ok verified, w)) :
    answers (cooperative artifacts chainId) (finish artifacts cfg chainId state) w =
      (.ok (), w.finished artifacts cfg verified) := by
  cases hout : cfg.addressesOut <;>
    simp [finish, ask, answers_bind, hverify, save_answers, hout, cooperative, World.finished,
      World.withManifest]

theorem verifyAll_answers_of_none (hnone : state.contracts.permit2 = none) :
    answers (cooperative artifacts chainId) (verifyAll artifacts state chainId) w =
      (.ok state, w) := by
  simp [verifyAll, hnone]

/-- A deployed contract with the expected code is verified. -/
theorem verifyAll_answers_of_deployed {cs : ContractState}
    (hcs : state.contracts.permit2 = some cs) (hstatus : cs.status = .deployed)
    (hruntime : artifacts.expectedRuntimeBytecode chainId cs.address = .ok runtime)
    (hcode : w.code cs.address = some runtime) :
    answers (cooperative artifacts chainId) (verifyAll artifacts state chainId) w =
      (.ok (state.withPermit2 { cs with status := .verified }), w) := by
  simp [verifyAll, hcs, hstatus, answers_bind, getCode_answers, hruntime, hcode, ensure,
    DeployState.withPermit2]

/-- A first run without Permit2 creates the state file. -/
theorem run_creates {code : Bytes} (hchain : cfg.config.chain.chainId = chainId)
    (hcode : w.code deterministicDeployer = some code) (hne : code ≠ [])
    (hfile : w.files cfg.statePath = none) (hconfig : cfg.config.contracts.permit2 = none) :
    answers (cooperative artifacts chainId) (run artifacts cfg) w =
      (.ok (), (w.saved cfg.statePath (.new cfg.config 7)).finished artifacts cfg
        (.new cfg.config 7)) := by
  rw [run, answers_bind, connect_answers hchain hcode hne]
  simp only
  rw [answers_bind, create_answers hfile]
  simp only [answers_bind, deployPermit2, hconfig, Option.isSome_none, Bool.false_eq_true, if_false,
    answers_pure]
  exact finish_answers_of_verify (verifyAll_answers_of_none rfl)

/-- A later run with Permit2 deploys and verifies it. -/
theorem run_deploys {code : Bytes} (hchain : cfg.config.chain.chainId = chainId)
    (hcode : w.code deterministicDeployer = some code) (hne : code ≠ [])
    (hrecords : w.Records cfg.statePath state) (hversion : state.version = stateVersion)
    (hvalid : state.validateImmutability cfg.config = .ok ())
    (hconfig : cfg.config.contracts.permit2.isSome) (hnone : state.contracts.permit2 = none)
    (hpending : w.pending = [])
    (hfree : w.code (artifacts.permit2Address state.create2Salt) = none)
    (hruntime : artifacts.expectedRuntimeBytecode chainId
      (artifacts.permit2Address state.create2Salt) = .ok runtime) :
    ∃ w' : World, answers (cooperative artifacts chainId) (run artifacts cfg) w =
      (.ok (), w'.finished artifacts cfg (state.withPermit2
        ⟨.verified, artifacts.permit2Address state.create2Salt, some 1⟩)) := by
  rw [run, answers_bind, connect_answers hchain hcode hne]
  simp only
  rw [answers_bind, load_answers hrecords hversion hvalid]
  simp only
  rw [answers_bind, deployPermit2_answers hconfig hpending hnone hfree hruntime]
  simp only
  refine ⟨_, finish_answers_of_verify ?_⟩
  have hcs : (state.withPermit2 ⟨.deployed, artifacts.permit2Address state.create2Salt,
    some 1⟩).contracts.permit2 = some ⟨.deployed, _, some 1⟩ := rfl
  refine verifyAll_answers_of_deployed hcs rfl hruntime ?_
  rw [World.code_saved]
  exact code_withDeployment hruntime

/-- A run that completes on these answers is one of the runs that there are. -/
theorem leads_of_answers {allowed : PipelineConfig → Prop} {cfg : { cfg // allowed cfg }}
    {w' : World}
    (h : answers (cooperative artifacts chainId) (run artifacts cfg.1) w = (.ok (), w')) :
    Leads artifacts chainId (.start w) ⟨w', some (cfg, .done ())⟩ := by
  have hrun : Leads artifacts chainId ⟨w, some (cfg, run artifacts cfg.1)⟩
      ⟨(answers (cooperative artifacts chainId) (run artifacts cfg.1) w).2, some (cfg,
        .ofExcept (answers (cooperative artifacts chainId) (run artifacts cfg.1) w).1)⟩ :=
    reaches_answers (cooperative_possible artifacts chainId) cfg (run artifacts cfg.1) w
  rw [h] at hrun
  exact .head (.start w cfg) hrun

end Progress

/-! ## An example -/

/-- Contracts without code, but for a Permit2 of zeros. -/
def blankArtifacts : Artifacts where
  keccak256 _ := 0
  adminProxyBytecode := []
  permit2Bytecode := List.replicate 7015 0
  permit2Initcode := []

/-- A chain with the factory alone. -/
def freshWorld : World where
  code a := if a = deterministicDeployer then some [1] else none

/-- A state file. -/
def deployState : PathBuf := ⟨".", "deploy-state.json".toList⟩

/-- A run without Permit2. -/
def bareRun : PipelineConfig where
  config := { chain := ⟨1234⟩ }
  statePath := deployState

/-- A run with Permit2. -/
def permit2Run (addressesOut : Option PathBuf) : PipelineConfig where
  config := { chain := ⟨1234⟩, contracts := { permit2 := some ⟨none⟩ } }
  statePath := deployState
  addressesOut := addressesOut

/-- The state in which Permit2 was added by a second run. -/
def addedPermit2 : DeployState :=
  (DeployState.new bareRun.config 7).withPermit2
    ⟨.verified, blankArtifacts.permit2Address 7, some 1⟩

theorem freshWorld_initial (path : PathBuf) : freshWorld.Initial path := ⟨rfl, rfl, rfl⟩

theorem code_freshWorld : freshWorld.code deterministicDeployer = some [1] := by decide

/-- After a first run without Permit2, a second run deploys it. -/
theorem permit2Runs_complete {allowed : PipelineConfig → Prop} (hbare : allowed bareRun)
    {addressesOut : Option PathBuf} (hpermit2 : allowed (permit2Run addressesOut)) :
    ∃ w : World, Leads blankArtifacts 1234 (.start freshWorld)
      ⟨w.finished blankArtifacts (permit2Run addressesOut) addedPermit2,
        some (⟨permit2Run addressesOut, hpermit2⟩, .done ())⟩ := by
  -- the world after the first run is named, not unfolded
  obtain ⟨created, hcreated⟩ : ∃ w', w' = (freshWorld.saved deployState
    (.new bareRun.config 7)).finished blankArtifacts bareRun (.new bareRun.config 7) := ⟨_, rfl⟩
  have hfirst : Leads blankArtifacts 1234 (.start freshWorld)
      ⟨created, some (⟨bareRun, hbare⟩, .done ())⟩ := by
    rw [hcreated]
    exact leads_of_answers (run_creates rfl code_freshWorld (by decide) rfl rfl)
  have hrecords : created.Records deployState (.new bareRun.config 7) := by
    rw [hcreated]
    exact World.records_finished _ _ _ nofun
  have hcode : created.code deterministicDeployer = some [1] := by
    rw [hcreated]
    exact code_freshWorld
  have hfree : created.code (blankArtifacts.permit2Address 7) = none := by
    rw [hcreated]
    decide
  have hpending : created.pending = [] := by
    rw [hcreated]
    rfl
  have hlength : 7015 ≤ blankArtifacts.permit2Bytecode.length := List.length_replicate.ge
  obtain ⟨runtime, hruntime, -⟩ := Artifacts.expectedRuntimeBytecode_succeeds hlength
  obtain ⟨w, hanswers⟩ : ∃ w : World,
      answers (cooperative blankArtifacts 1234) (run blankArtifacts (permit2Run addressesOut))
        created = (.ok (), w.finished blankArtifacts (permit2Run addressesOut) addedPermit2) :=
    run_deploys rfl hcode (by decide) hrecords rfl rfl rfl rfl hpending hfree hruntime
  have hstop : Leads blankArtifacts 1234 (.start freshWorld) (.start created) :=
    hfirst.tail (.stop ..)
  exact ⟨w, hstop.trans (leads_of_answers hanswers)⟩

end EvReth.Deployer
