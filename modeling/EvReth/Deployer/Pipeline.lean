import EvReth.Deployer.Genesis
import EvReth.Deployer.State
import EvReth.Foundations.Interference

/-!
# The deploy pipeline

`bin/ev-deployer/src/deploy`: `run` deploys Permit2 to a live chain through the deterministic
deployer, a factory that calls CREATE2 with the salt and the initcode of its calldata, and keeps its
progress in the state file. It is a program over the operations of the chain's RPC and of the file
system. Between two operations the chain goes on, and the process may stop.

The world is one chain and the files. Of the chain it has the code of the contracts that were
created, which never changes, and the transactions that the pipeline sent. They stay pending until
they are mined or dropped, which may be long after the process that sent them has stopped. A call of
the factory creates the contract only if its address is free. A write to a file may be torn, a
rename is atomic.
-/

namespace EvReth.Deployer

/-! ## CREATE2 -/

/-- `DETERMINISTIC_DEPLOYER`. -/
def deterministicDeployer : Address := 0x4e59b44847b379578588920ca78fbf26c0b4956c

/-- `compute_address`. -/
def Artifacts.computeAddress (artifacts : Artifacts) (salt : B256) (initcode : Bytes) : Address :=
  let initCodeHash := artifacts.keccak256 initcode
  (artifacts.keccak256 (0xff :: wordBytes deterministicDeployer ++ wordBytes salt ++
    wordBytes initCodeHash)).setWidth 160

/-- `build_factory_calldata`. -/
def buildFactoryCalldata (salt : B256) (initcode : Bytes) : Bytes := wordBytes salt ++ initcode

/-- The salt and the initcode that the factory reads from its calldata. -/
def readFactoryCalldata (calldata : Bytes) : B256 × Bytes :=
  (wordOfBytes 256 (calldata.take 32), calldata.drop 32)

/-- The factory reads the salt and the init code that it is sent. -/
@[simp]
theorem readFactoryCalldata_buildFactoryCalldata (salt : B256) (initcode : Bytes) :
    readFactoryCalldata (buildFactoryCalldata salt initcode) = (salt, initcode) := by
  have hlength : (wordBytes salt).length = 32 := length_wordBytes salt
  rw [readFactoryCalldata, buildFactoryCalldata, List.take_left' hlength, List.drop_left' hlength,
    wordOfBytes_wordBytes (k := 32) rfl]

/-! ## Files -/

/-- `PathBuf`, of a file: its directory and its name. -/
structure PathBuf where
  directory : String
  name : List Char
  deriving DecidableEq, Repr

namespace PathBuf

/-- `file_stem`: the name up to its last dot, or all of it if nothing is before that dot. -/
def fileStem (path : PathBuf) : List Char :=
  let before := ((path.name.reverse.dropWhile (· ≠ '.')).drop 1).reverse
  if before = [] then path.name else before

/-- `with_extension`, for an extension that is not empty. -/
def withExtension (path : PathBuf) (extension : String) : PathBuf :=
  { path with name := path.fileStem ++ '.' :: extension.toList }

/-- The temporary file of a path is the file itself exactly if that has the extension. -/
theorem withExtension_tmp_eq_iff {path : PathBuf} :
    path.withExtension "tmp" = path ↔ ∃ stem, stem ≠ [] ∧ path.name = stem ++ ".tmp".toList := by
  have hname : path.withExtension "tmp" = path ↔ path.fileStem ++ ".tmp".toList = path.name :=
    ⟨congrArg name, congrArg (mk path.directory)⟩
  rw [hname, fileStem]
  constructor
  · intro h
    split_ifs at h with hbefore
    · exact absurd (congrArg List.length h) (by simp)
    · exact ⟨_, hbefore, h.symm⟩
  · rintro ⟨stem, hstem, hname⟩
    simp [hname, hstem]

end PathBuf

/-! ## The world -/

/-- A transaction that was sent to the chain. -/
structure SentTx where
  hash : B256
  target : Address
  input : Bytes
  deriving DecidableEq, Repr

/-- `TxReceipt`. -/
structure TxReceipt where
  txHash : B256
  success : Bool
  deriving DecidableEq, Repr

/-- What a file holds: the JSON of a state or of a manifest, or what a torn write has left. -/
inductive FileContent where
  | state (state : DeployState)
  | manifest (manifest : Value)
  | torn

/-- The chain and the files. `deployments` are the calls of the factory by transactions of the
pipeline that created a contract: their salts and initcodes. -/
structure World where
  code : Address → Option Bytes
  pending : List SentTx := []
  receipts : List TxReceipt := []
  deployments : List (B256 × Bytes) := []
  files : PathBuf → Option FileContent := fun _ => none

/-- No run has been there: there is no state file and no transaction of the pipeline. -/
structure World.Initial (w : World) (path : PathBuf) : Prop where
  stateFile : w.files path = none
  pending : w.pending = []
  deployments : w.deployments = []

/-- A contract is created at an address. -/
def World.create (w : World) (address : Address) (runtime : Bytes) : World :=
  { w with code := Function.update w.code address (some runtime) }

/-- A pending transaction is mined. -/
def World.mine (w : World) (tx : SentTx) (success : Bool) : World :=
  { w with pending := w.pending.erase tx, receipts := ⟨tx.hash, success⟩ :: w.receipts }

/-- A file is written. -/
def World.write (w : World) (path : PathBuf) (content : FileContent) : World :=
  { w with files := Function.update w.files path (some content) }

@[simp]
theorem World.files_write (w : World) (path : PathBuf) (content : FileContent) :
    (w.write path content).files path = some content :=
  Function.update_self ..

theorem World.files_write_of_ne {path path' : PathBuf} (h : path' ≠ path) (w : World)
    (content : FileContent) : (w.write path' content).files path = w.files path :=
  Function.update_of_ne h.symm ..

/-- A file is moved over another one. -/
def World.move (w : World) (source target : PathBuf) (content : FileContent) : World :=
  { w with files := Function.update (Function.update w.files source none) target (some content) }

@[simp]
theorem World.files_move (w : World) (source target : PathBuf) (content : FileContent) :
    (w.move source target content).files target = some content :=
  Function.update_self ..

/-- The address at which a call of the factory creates its contract. -/
def Artifacts.factoryAddress (artifacts : Artifacts) (calldata : Bytes) : Address :=
  artifacts.computeAddress (readFactoryCalldata calldata).1 (readFactoryCalldata calldata).2

/-- What happens on the chain between two operations of the pipeline. A transaction that creates
nothing may be mined with any receipt. -/
inductive Env (artifacts : Artifacts) : World → World → Prop
  | deploys {w : World} {tx : SentTx} (htx : tx ∈ w.pending)
      (htarget : tx.target = deterministicDeployer) (runtime : Bytes)
      (hfree : w.code (artifacts.factoryAddress tx.input) = none) :
      Env artifacts w
        { (w.mine tx true).create (artifacts.factoryAddress tx.input) runtime with
          deployments := readFactoryCalldata tx.input :: w.deployments }
  | mines {w : World} {tx : SentTx} (htx : tx ∈ w.pending) (success : Bool) :
      Env artifacts w (w.mine tx success)
  | drops {w : World} (tx : SentTx) : Env artifacts w { w with pending := w.pending.erase tx }
  | creates {w : World} {address : Address} (runtime : Bytes) (hfree : w.code address = none) :
      Env artifacts w (w.create address runtime)

/-! ## Operations -/

/-- What the pipeline asks of the chain and of the file system. -/
inductive Op where
  | chainId
  | getCode (address : Address)
  | sendTransaction (target : Address) (input : Bytes)
  | getReceipt (hash : B256)
  | randomSalt
  | fileExists (path : PathBuf)
  | readState (path : PathBuf)
  | write (path : PathBuf) (content : FileContent)
  | rename (source target : PathBuf)

/-- What the operations return. -/
@[reducible]
def Op.Res : Op → Type
  | chainId => U64
  | getCode _ => Bytes
  | sendTransaction _ _ => B256
  | getReceipt _ => TxReceipt
  | randomSalt => B256
  | fileExists _ => Bool
  | readState _ => DeployState
  | write _ _ => Unit
  | rename _ _ => Unit

/-- What an operation does. Each but the existence check and the choice of the salt may fail: a
transaction that could not be sent may be on its way nevertheless, and a failed write may be torn.
Only the JSON of a state can be read as a state. -/
def perform (chainId : U64) (w : World) : (o : Op) → Except Failure o.Res → World → Prop
  | .chainId, r, w' => w' = w ∧ ∀ id, r = .ok id → id = chainId
  | .getCode address, r, w' => w' = w ∧ ∀ code, r = .ok code → code = (w.code address).getD []
  | .sendTransaction target input, r, w' =>
    -- an error may also come after the transaction has reached the chain
    (w' = w ∧ ∃ e, r = .error e) ∨
      ∃ hash, w' = { w with pending := ⟨hash, target, input⟩ :: w.pending } ∧
        ∀ hash', r = .ok hash' → hash' = hash
  | .getReceipt hash, r, w' =>
    w' = w ∧ ∀ receipt, r = .ok receipt → receipt ∈ w.receipts ∧ receipt.txHash = hash
  | .randomSalt, r, w' => w' = w ∧ ∃ salt, r = .ok salt
  | .fileExists path, r, w' => w' = w ∧ r = .ok (w.files path).isSome
  | .readState path, r, w' =>
    w' = w ∧ ∀ state, r = .ok state → w.files path = some (.state state)
  | .write path content, r, w' =>
    (r = .ok () ∧ w' = w.write path content) ∨
      (∃ e, r = .error e) ∧ (w' = w ∨ w' = w.write path .torn)
  | .rename source target, r, w' =>
    (∃ content, w.files source = some content ∧ r = .ok () ∧
        w' = w.move source target content) ∨
      (∃ e, r = .error e) ∧ w' = w

/-- The chain and the files under the operations of the pipeline. -/
def machine (artifacts : Artifacts) (chainId : U64) : Machine Failure Op Op.Res World where
  perform := perform chainId
  env := Env artifacts

/-! ## The pipeline -/

/-- A part of the pipeline. -/
abbrev Pipeline := Prog Failure Op Op.Res

/-- One operation. -/
def ask (o : Op) : Pipeline o.Res := .op o

/-- `eyre::bail!`. -/
def bail {α : Type} (msg : String) : Pipeline α := .fail (.report msg)

/-- `chain_id`. -/
def getChainId : Pipeline U64 := ask .chainId

/-- `get_code`. -/
def getCode (address : Address) : Pipeline Bytes := ask (.getCode address)

/-- `deploy_create2`. -/
def deployCreate2 (salt : B256) (initcode : Bytes) : Pipeline TxReceipt := do
  let calldata := buildFactoryCalldata salt initcode
  let pending ← ask (.sendTransaction deterministicDeployer calldata)
  ask (.getReceipt pending)

/-- `DeployState::load`. -/
def DeployState.load (path : PathBuf) : Pipeline DeployState := do
  let state ← ask (.readState path)
  .ofExcept state.checkVersion

/-- `save`. -/
def DeployState.save (state : DeployState) (path : PathBuf) : Pipeline Unit := do
  let tmp := path.withExtension "tmp"
  ask (.write tmp (.state state))
  ask (.rename tmp path)

/-- `PipelineConfig`. -/
structure PipelineConfig where
  config : DeployConfig
  statePath : PathBuf
  addressesOut : Option PathBuf := none

/-- `DeployContractParams`. -/
structure DeployContractParams where
  name : String
  address : Address
  salt : B256
  initcode : Bytes
  expectedRuntime : Bytes
  statePath : PathBuf

/-- `get_contract_status`. -/
def getContractStatus (state : DeployState) (name : String) : Option ContractStatus :=
  if name = "permit2" then state.contracts.permit2.map (·.status) else none

/-- `set_contract_state`. -/
def setContractState (state : DeployState) (name : String) (cs : ContractState) : DeployState :=
  if name = "permit2" then { state with contracts := { permit2 := some cs } } else state

section Run

variable (artifacts : Artifacts)

/-- `deploy_contract`. It returns the state it has written. -/
def deployContract (state : DeployState) (params : DeployContractParams) :
    Pipeline DeployState := do
  if (getContractStatus state params.name).any (ContractStatus.deployed ≤ ·) then
    return state
  else
    let existingCode ← getCode params.address
    -- an earlier run may have stopped between the transaction and the save
    if existingCode ≠ [] then
      if existingCode = params.expectedRuntime then
        let state := setContractState state params.name
          { status := .deployed, address := params.address, deployTx := none }
        state.save params.statePath
        return state
      else
        bail ("unexpected bytecode at " ++
          String.ofList (displayAddress artifacts.keccak256 params.address) ++ ": expected " ++
          toString params.expectedRuntime.length ++ " bytes, found " ++
          toString existingCode.length ++ " bytes")
    else
      let receipt ← deployCreate2 params.salt params.initcode
      .ofExcept (ensure receipt.success
        ("CREATE2 deploy tx reverted for " ++ params.name ++ ": tx=" ++
          String.ofList (displayWord receipt.txHash)))
      let state := setContractState state params.name
        { status := .deployed, address := params.address, deployTx := some receipt.txHash }
      state.save params.statePath
      return state

/-- `verify_all`. -/
def verifyAll (state : DeployState) (chainId : U64) : Pipeline DeployState := do
  match state.contracts.permit2 with
  | none => return state
  | some cs =>
    -- what is verified is not looked at again
    if cs.status = .deployed then
      let onChain ← getCode cs.address
      let expected ← .ofExcept (artifacts.expectedRuntimeBytecode chainId cs.address)
      .ofExcept (ensure (onChain = expected)
        ("bytecode mismatch at " ++
          String.ofList (displayAddress artifacts.keccak256 cs.address) ++ ": expected " ++
          toString expected.length ++ " bytes, got " ++ toString onChain.length ++ " bytes"))
      return { state with contracts := { permit2 := some { cs with status := .verified } } }
    else
      return state

/-- `build_deploy_manifest`. -/
def buildDeployManifest (state : DeployState) : Value :=
  .object (state.contracts.permit2.toList.map fun cs =>
    ("permit2".toList, .string (displayAddress artifacts.keccak256 cs.address)))

/-- The first step of `run`: the chain must be the configured one and have the factory. -/
def connect (config : DeployConfig) : Pipeline U64 := do
  let chainId ← getChainId
  .ofExcept (ensure (chainId = config.chain.chainId)
    ("chain_id mismatch: config says " ++ toString config.chain.chainId.toNat ++
      ", RPC reports " ++ toString chainId.toNat))
  let deployerCode ← getCode deterministicDeployer
  .ofExcept (ensure (deployerCode ≠ [])
    ("deterministic deployer not found at " ++
      String.ofList (displayAddress artifacts.keccak256 deterministicDeployer) ++
      " -- deploy it before running ev-deployer deploy"))
  return chainId

/-- The second step: the state is loaded and checked, or created. -/
def loadOrCreate (cfg : PipelineConfig) : Pipeline DeployState := do
  let stateExists ← ask (.fileExists cfg.statePath)
  if stateExists then
    let state ← DeployState.load cfg.statePath
    .ofExcept (state.validateImmutability cfg.config)
    return state
  else
    let salt ← ask .randomSalt
    let state := DeployState.new cfg.config salt
    state.save cfg.statePath
    return state

/-- The third step: Permit2 is deployed if it is configured. -/
def deployPermit2 (cfg : PipelineConfig) (chainId : U64) (state : DeployState) :
    Pipeline DeployState := do
  if cfg.config.contracts.permit2.isSome then
    -- the configured address is ignored in this mode
    let salt := state.create2Salt
    let initcode := artifacts.permit2Initcode
    let address := artifacts.computeAddress salt initcode
    let expectedRuntime ← .ofExcept (artifacts.expectedRuntimeBytecode chainId address)
    deployContract artifacts state
      { name := "permit2", address, salt, initcode, expectedRuntime, statePath := cfg.statePath }
  else
    return state

/-- The last step: what is deployed is verified, and the manifest written. -/
def finish (cfg : PipelineConfig) (chainId : U64) (state : DeployState) : Pipeline Unit := do
  let state ← verifyAll artifacts state chainId
  state.save cfg.statePath
  match cfg.addressesOut with
  | none => return ()
  | some path => ask (.write path (.manifest (buildDeployManifest artifacts state)))

/-- `run`. -/
def run (cfg : PipelineConfig) : Pipeline Unit := do
  let chainId ← connect artifacts cfg.config
  let state ← loadOrCreate cfg
  let state ← deployPermit2 artifacts cfg chainId state
  finish artifacts cfg chainId state

end Run

/-! ## Sequences of runs -/

/-- The world and the run that is going on, one of some configurations. -/
abbrev Deployment (allowed : PipelineConfig → Prop) :=
  Config Failure Op Op.Res World { cfg // allowed cfg } Unit

/-- Before the first run, and between two runs. -/
def Deployment.start {allowed : PipelineConfig → Prop} (w : World) : Deployment allowed := ⟨w, none⟩

/-- Runs with the configurations, one after the other, on one chain. -/
abbrev Leads (artifacts : Artifacts) (chainId : U64) {allowed : PipelineConfig → Prop} :
    Deployment allowed → Deployment allowed → Prop :=
  (machine artifacts chainId).Reaches fun cfg => run artifacts cfg.1

/-- The runs on one state file. -/
def OnFile (path : PathBuf) (cfg : PipelineConfig) : Prop := cfg.statePath = path

/-- The runs on one state file that do not write their manifest over it. -/
def KeepsFile (path : PathBuf) (cfg : PipelineConfig) : Prop :=
  cfg.statePath = path ∧ cfg.addressesOut ≠ some path

/-- The file holds a state. -/
def World.Records (w : World) (path : PathBuf) (state : DeployState) : Prop :=
  w.files path = some (.state state)

/-- The state with Permit2 recorded. -/
def DeployState.withPermit2 (state : DeployState) (cs : ContractState) : DeployState :=
  { state with contracts := { permit2 := some cs } }

/-- Where Permit2 is deployed with a salt. -/
def Artifacts.permit2Address (artifacts : Artifacts) (salt : B256) : Address :=
  artifacts.computeAddress salt artifacts.permit2Initcode

/-- The factory creates Permit2 where the pipeline expects it. -/
@[simp]
theorem factoryAddress_buildFactoryCalldata {artifacts : Artifacts} (salt : B256) :
    artifacts.factoryAddress (buildFactoryCalldata salt artifacts.permit2Initcode) =
      artifacts.permit2Address salt := by
  rw [Artifacts.factoryAddress, readFactoryCalldata_buildFactoryCalldata, Artifacts.permit2Address]

end EvReth.Deployer
