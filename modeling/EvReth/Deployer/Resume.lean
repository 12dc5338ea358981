import EvReth.Deployer.Progress

/-!
# Resuming a deployment

What holds of the chain and the state file over every sequence of runs of the deploy pipeline,
whichever of them stop halfway and whatever the chain does in between. The file's salt and the
address that it records are fixed, the status only goes up, all transactions of all runs call the
factory with one salt, and what is recorded as verified is on the chain.

That is so unless the pipeline writes something else over the state file: the temporary file, if the
state file has the extension of it, or the address manifest, if its path is that of the state file.
-/

namespace EvReth.Deployer

open Relation Machine

/-! ## The state file over time -/

/-- How the recorded state may change: the salt, the intent and a recorded address stay, and a
recorded status does not go down. -/
structure DeployState.EvolvesTo (state state' : DeployState) : Prop where
  salt : state'.create2Salt = state.create2Salt
  intent : state'.appliedIntent = state.appliedIntent
  contract : ∀ cs, state.contracts.permit2 = some cs → ∃ cs', state'.contracts.permit2 = some cs' ∧
    cs'.address = cs.address ∧ cs.status ≤ cs'.status

theorem DeployState.EvolvesTo.refl (state : DeployState) : state.EvolvesTo state :=
  ⟨rfl, rfl, fun cs hcs => ⟨cs, hcs, rfl, le_rfl⟩⟩

theorem DeployState.EvolvesTo.trans {state₁ state₂ state₃ : DeployState}
    (h : state₁.EvolvesTo state₂) (h' : state₂.EvolvesTo state₃) : state₁.EvolvesTo state₃ where
  salt := h'.salt.trans h.salt
  intent := h'.intent.trans h.intent
  contract cs hcs := by
    obtain ⟨cs₂, hcs₂, haddress, hstatus⟩ := h.contract cs hcs
    obtain ⟨cs₃, hcs₃, haddress', hstatus'⟩ := h'.contract cs₂ hcs₂
    exact ⟨cs₃, hcs₃, haddress'.trans haddress, hstatus.trans hstatus'⟩

/-- How the world may change: code stays, and so does the state file, but for the progress that it
records. -/
structure World.EvolvesTo (path : PathBuf) (w w' : World) : Prop where
  code : ∀ address runtime, w.code address = some runtime → w'.code address = some runtime
  file : ∀ state, w.Records path state → ∃ state', w'.Records path state' ∧ state.EvolvesTo state'

theorem World.EvolvesTo.refl (path : PathBuf) (w : World) : w.EvolvesTo path w :=
  ⟨fun _ _ h => h, fun state h => ⟨state, h, .refl state⟩⟩

theorem World.EvolvesTo.trans {path : PathBuf} {w₁ w₂ w₃ : World} (h : w₁.EvolvesTo path w₂)
    (h' : w₂.EvolvesTo path w₃) : w₁.EvolvesTo path w₃ where
  code address runtime hcode := h'.code _ _ (h.code _ _ hcode)
  file state hstate := by
    obtain ⟨state₂, hstate₂, hevolves⟩ := h.file state hstate
    obtain ⟨state₃, hstate₃, hevolves'⟩ := h'.file state₂ hstate₂
    exact ⟨state₃, hstate₃, hevolves.trans hevolves'⟩

/-! ## What the chain does -/

section Chain

variable {artifacts : Artifacts} {w w' : World} {address : Address} {runtime : Bytes}

theorem World.code_create_of_some (h : w.code address = none) {a : Address} {c : Bytes}
    (ha : w.code a = some c) : (w.create address runtime).code a = some c := by
  have hne : a ≠ address := by
    rintro rfl
    rw [h] at ha
    cases ha
  exact (Function.update_of_ne hne _ _).trans ha

/-- The chain leaves the files alone. -/
theorem Env.files (h : Env artifacts w w') : w'.files = w.files := by
  cases h <;> rfl

/-- Code on the chain does not change. -/
theorem Env.code (h : Env artifacts w w') {a : Address} {c : Bytes} (ha : w.code a = some c) :
    w'.code a = some c := by
  cases h with
  | deploys htx htarget runtime hfree => exact World.code_create_of_some hfree ha
  | mines htx success => exact ha
  | drops tx => exact ha
  | creates runtime hfree => exact World.code_create_of_some hfree ha

/-- No transaction is sent but by the pipeline. -/
theorem Env.pending (h : Env artifacts w w') : ∀ tx ∈ w'.pending, tx ∈ w.pending := by
  cases h with
  | creates runtime hfree => exact fun tx htx => htx
  | deploys htx htarget runtime hfree => exact fun tx htx => List.mem_of_mem_erase htx
  | mines htx success => exact fun tx htx => List.mem_of_mem_erase htx
  | drops tx => exact fun tx htx => List.mem_of_mem_erase htx

/-- A deployment is that of a pending transaction, at an address that was free. -/
theorem Env.deployments (h : Env artifacts w w') :
    w'.deployments = w.deployments ∨ ∃ tx ∈ w.pending,
      w'.deployments = readFactoryCalldata tx.input :: w.deployments ∧
        w.code (artifacts.factoryAddress tx.input) = none ∧
        w'.code (artifacts.factoryAddress tx.input) ≠ none := by
  cases h with
  | deploys htx htarget runtime hfree =>
    refine .inr ⟨_, htx, rfl, hfree, ?_⟩
    simp [World.create]
  | mines htx success => exact .inl rfl
  | drops tx => exact .inl rfl
  | creates runtime hfree => exact .inl rfl

theorem Env.records (h : Env artifacts w w') {path : PathBuf} {state : DeployState} :
    w'.Records path state ↔ w.Records path state := by
  rw [World.Records, World.Records, h.files]

/-- What the chain does lets the world evolve. -/
theorem Env.evolves (h : Env artifacts w w') (path : PathBuf) : w.EvolvesTo path w' where
  code _ _ ha := h.code ha
  file state hstate := ⟨state, h.records.mpr hstate, .refl state⟩

end Chain

/-! ## The invariant -/

section Invariant

variable (artifacts : Artifacts) (chainId : U64)

/-- The expected runtime bytecode is at an address. -/
def World.HasExpected (w : World) (address : Address) : Prop :=
  ∃ runtime, artifacts.expectedRuntimeBytecode chainId address = .ok runtime ∧
    w.code address = some runtime

/-- What a recorded state says is true. -/
structure World.Fits (w : World) (state : DeployState) : Prop where
  version : state.version = stateVersion
  address : ∀ cs, state.contracts.permit2 = some cs →
    cs.address = artifacts.permit2Address state.create2Salt ∧ .deployed ≤ cs.status
  verified : ∀ cs, state.contracts.permit2 = some cs → cs.status = .verified →
    w.HasExpected artifacts chainId cs.address

/-- The invariant: the state file is readable and right, and all transactions ever sent call the
factory with its salt; at most one of them has created the contract. Without a state file none was
sent. -/
structure World.Inv (path : PathBuf) (w : World) : Prop where
  file : ∀ content, w.files path = some content →
    ∃ state, content = .state state ∧ w.Fits artifacts chainId state
  fresh : w.files path = none → w.pending = [] ∧ w.deployments = []
  sent : ∀ state, w.Records path state → ∀ tx ∈ w.pending,
    tx.input = buildFactoryCalldata state.create2Salt artifacts.permit2Initcode
  deployed : ∀ state, w.Records path state → w.deployments = [] ∨
    w.deployments = [(state.create2Salt, artifacts.permit2Initcode)] ∧
      w.code (artifacts.permit2Address state.create2Salt) ≠ none

variable {artifacts chainId} {path : PathBuf} {w w' : World}

/-- A world without a state file and without transactions satisfies the invariant. -/
theorem World.Initial.inv (h : w.Initial path) : w.Inv artifacts chainId path where
  file content hcontent := by
    rw [h.stateFile] at hcontent
    cases hcontent
  fresh _ := ⟨h.pending, h.deployments⟩
  sent state hstate := by
    rw [Records, h.stateFile] at hstate
    cases hstate
  deployed state hstate := .inl h.deployments

/-- A file holds one state. -/
theorem World.Records.eq {state state' : DeployState} (h : w.Records path state)
    (h' : w.Records path state') : state = state' :=
  FileContent.state.inj (Option.some.inj (h.symm.trans h'))

theorem World.Records.ne_none {state : DeployState} (h : w.Records path state) :
    w.files path ≠ none :=
  Option.ne_none_iff_exists'.mpr ⟨_, h⟩

/-- What the state file records is true. -/
theorem World.Inv.fits {state : DeployState} (hinv : w.Inv artifacts chainId path)
    (h : w.Records path state) : w.Fits artifacts chainId state := by
  obtain ⟨state', heq, hfits⟩ := hinv.file _ h
  obtain rfl := FileContent.state.inj heq
  exact hfits

/-- Expected code stays expected while code only grows. -/
theorem World.HasExpected.of_code {address : Address} (h : w.HasExpected artifacts chainId address)
    (hcode : ∀ a c, w.code a = some c → w'.code a = some c) :
    w'.HasExpected artifacts chainId address := by
  obtain ⟨runtime, hruntime, hat⟩ := h
  exact ⟨runtime, hruntime, hcode _ _ hat⟩

/-- What a state says stays true while code only grows. -/
theorem World.Fits.of_code {state : DeployState} (h : w.Fits artifacts chainId state)
    (hcode : ∀ a c, w.code a = some c → w'.code a = some c) : w'.Fits artifacts chainId state where
  version := h.version
  address := h.address
  verified cs hcs hverified := (h.verified cs hcs hverified).of_code hcode

/-- The chain keeps the invariant. -/
theorem Env.inv (h : Env artifacts w w') (hinv : w.Inv artifacts chainId path) :
    w'.Inv artifacts chainId path where
  file content hcontent := by
    rw [h.files] at hcontent
    obtain ⟨state, rfl, hfits⟩ := hinv.file content hcontent
    exact ⟨state, rfl, hfits.of_code fun _ _ => h.code⟩
  fresh hnone := by
    rw [h.files] at hnone
    obtain ⟨hpending, hdeployments⟩ := hinv.fresh hnone
    refine ⟨List.eq_nil_iff_forall_not_mem.mpr fun tx htx => ?_, ?_⟩
    · have := h.pending tx htx
      rw [hpending] at this
      cases this
    · rcases h.deployments with heq | ⟨tx, htx, -⟩
      · rw [heq, hdeployments]
      · rw [hpending] at htx
        cases htx
  sent state hstate tx htx := hinv.sent state (h.records.mp hstate) tx (h.pending tx htx)
  deployed state hstate := by
    rw [h.records] at hstate
    have hold := hinv.deployed state hstate
    rcases h.deployments with heq | ⟨tx, htx, heq, hfree, hcode⟩
    · -- nothing was deployed, and code stays
      rw [heq]
      refine hold.imp_right (And.imp_right fun hcode hnone => ?_)
      obtain ⟨c, hc⟩ := Option.ne_none_iff_exists'.mp hcode
      rw [h.code hc] at hnone
      cases hnone
    · -- the second call with the same salt would have found its address taken
      rw [hinv.sent state hstate tx htx] at heq hfree hcode
      rw [factoryAddress_buildFactoryCalldata] at hfree hcode
      rw [readFactoryCalldata_buildFactoryCalldata] at heq
      rcases hold with hnone | ⟨-, hcode'⟩
      · exact .inr ⟨by rw [heq, hnone], hcode⟩
      · exact absurd hfree hcode'

end Invariant

/-! ## The parts of the pipeline -/

section Triples

variable {artifacts : Artifacts} {chainId : U64} {w w' : World}

/-- A run's operations let the world evolve, and a state file that it creates has the intent of its
configuration. -/
def Guarantee (cfg : PipelineConfig) (w w' : World) : Prop :=
  w.EvolvesTo cfg.statePath w' ∧ ∀ state, w.files cfg.statePath = none →
    w'.Records cfg.statePath state → state.appliedIntent = .fromConfig cfg.config

/-- A triple about a part of a run. -/
abbrev RunTriple (artifacts : Artifacts) (chainId : U64) (cfg : PipelineConfig) {α : Type}
    (P : World → Prop) (p : Pipeline α) (Q : α → World → Prop) : Prop :=
  (machine artifacts chainId).Triple (World.Inv artifacts chainId cfg.statePath) (Guarantee cfg)
    P p Q

variable {cfg : PipelineConfig} {state state' : DeployState} {P : World → Prop} {path : PathBuf}

/-- What concerns only the files is stable. -/
theorem stable_of_files (h : ∀ w w' : World, w'.files = w.files → P w → P w') :
    (machine artifacts chainId).Stable P :=
  fun w w' henv hw => h w w' (Env.files henv) hw

theorem stable_records : (machine artifacts chainId).Stable fun w => w.Records path state :=
  fun _ _ henv h => (Env.records henv).mpr h

theorem stable_fits : (machine artifacts chainId).Stable
    fun w => w.Fits artifacts chainId state :=
  fun _ _ henv h => h.of_code fun _ _ => Env.code henv

theorem stable_const {p : Prop} : (machine artifacts chainId).Stable fun _ => p :=
  fun _ _ _ h => h

/-- An operation that changes neither code nor the state file keeps to the guarantee. -/
theorem guarantee_of_unchanged (hcode : w'.code = w.code)
    (hfile : w'.files cfg.statePath = w.files cfg.statePath) : Guarantee cfg w w' where
  left :=
    ⟨fun _ _ h => hcode ▸ h, fun state h => ⟨state, hfile.trans h, .refl state⟩⟩
  right _ hnone hstate := absurd (hfile.trans hnone) hstate.ne_none

theorem guarantee_refl : Guarantee cfg w w := guarantee_of_unchanged rfl rfl

/-- An operation that changes nothing. -/
theorem ask_triple {o : Op} {S : o.Res → World → Prop}
    (hP : (machine artifacts chainId).Stable P)
    (hread : ∀ w r w', perform chainId w o r w' → w' = w)
    (hresult : ∀ w a, w.Inv artifacts chainId cfg.statePath → P w →
      perform chainId w o (.ok a) w → S a w) :
    RunTriple artifacts chainId cfg P (ask o) S := by
  refine triple_op hP fun w r w' hinv hw hperform => ?_
  obtain rfl := hread w r w' hperform
  refine ⟨hinv, guarantee_refl, ?_⟩
  rintro a rfl
  exact hresult _ a hinv hw hperform

/-- The invariant does not look at other files. -/
theorem World.Inv.of_file (hinv : w.Inv artifacts chainId path)
    {files : PathBuf → Option FileContent} (hfile : files path = w.files path) :
    World.Inv artifacts chainId path { w with files } where
  file content hcontent := by
    obtain ⟨state, heq, hfits⟩ := hinv.file content (hfile.symm.trans hcontent)
    exact ⟨state, heq, hfits.of_code fun _ _ h => h⟩
  fresh hnone := hinv.fresh (hfile.symm.trans hnone)
  sent state hstate := hinv.sent state (hfile.symm.trans hstate)
  deployed state hstate := hinv.deployed state (hfile.symm.trans hstate)

/-- Writing another file than the state file. -/
theorem write_triple {content : FileContent} (hne : path ≠ cfg.statePath)
    (hP : (machine artifacts chainId).Stable P)
    (hfiles : ∀ w content, P w → P (w.write path content)) :
    RunTriple artifacts chainId cfg P (ask (.write path content))
      fun _ w => P w ∧ w.files path = some content := by
  have hother := World.files_write_of_ne hne
  refine triple_op hP ?_
  rintro w r w' hinv hw (⟨rfl, rfl⟩ | ⟨⟨e, rfl⟩, rfl | rfl⟩)
  · refine ⟨hinv.of_file (hother w content), guarantee_of_unchanged rfl (hother w content), ?_⟩
    exact fun _ _ => ⟨hfiles w content hw, World.files_write ..⟩
  · exact ⟨hinv, guarantee_refl, fun a h => by cases h⟩
  · refine ⟨hinv.of_file (hother w .torn), guarantee_of_unchanged rfl (hother w .torn), ?_⟩
    exact fun a h => by cases h

/-- What a run may save in place of what the state file holds. -/
def MaySave (artifacts : Artifacts) (chainId : U64) (cfg : PipelineConfig) (state' : DeployState)
    (w : World) : Prop :=
  w.Fits artifacts chainId state' ∧
    (∀ state, w.Records cfg.statePath state → state.EvolvesTo state') ∧
    (w.files cfg.statePath = none → state'.appliedIntent = .fromConfig cfg.config)

theorem stable_maySave : (machine artifacts chainId).Stable
    (MaySave artifacts chainId cfg state') := by
  refine stable_fits.and (stable_of_files fun w w' hfiles h => ?_)
  simpa only [World.Records, hfiles] using h

theorem MaySave.write (hne : path ≠ cfg.statePath) {content : FileContent}
    (h : MaySave artifacts chainId cfg state' w) :
    MaySave artifacts chainId cfg state' (w.write path content) := by
  have hother := World.files_write_of_ne hne w content
  refine ⟨h.1.of_code fun _ _ h => h, ?_⟩
  simpa only [World.Records, hother] using h.2

/-- Saving keeps the invariant: the new state has the salt of the old one, or no transaction was
sent yet. -/
theorem inv_of_save (hinv : w.Inv artifacts chainId cfg.statePath)
    (hsave : MaySave artifacts chainId cfg state' w) (source : PathBuf) :
    (w.move source cfg.statePath (.state state')).Inv artifacts chainId cfg.statePath := by
  obtain ⟨hfits, hevolves, -⟩ := hsave
  have hrecords : (w.move source cfg.statePath (.state state')).Records cfg.statePath state' :=
    World.files_move ..
  -- a state file that is replaced has fixed the salt, and before the first one nothing was sent
  have hsalt : w.pending = [] ∧ w.deployments = [] ∨
      ∃ state, w.Records cfg.statePath state ∧ state'.create2Salt = state.create2Salt := by
    cases hfile : w.files cfg.statePath with
    | none => exact .inl (hinv.fresh hfile)
    | some content =>
      obtain ⟨state, rfl, -⟩ := hinv.file content hfile
      exact .inr ⟨state, hfile, (hevolves state hfile).salt⟩
  refine ⟨fun content hcontent => ?_, fun hnone => absurd hnone hrecords.ne_none,
    fun state₁ hstate₁ tx htx => ?_, fun state₁ hstate₁ => ?_⟩
  · obtain rfl := Option.some.inj (hrecords.symm.trans hcontent)
    exact ⟨state', rfl, hfits.of_code fun _ _ h => h⟩
  · obtain rfl := hrecords.eq hstate₁
    rcases hsalt with ⟨hpending, -⟩ | ⟨state, hstate, hsalt⟩
    · have htx' : tx ∈ w.pending := htx
      rw [hpending] at htx'
      cases htx'
    · rw [hsalt]
      exact hinv.sent state hstate tx htx
  · obtain rfl := hrecords.eq hstate₁
    rcases hsalt with ⟨-, hdeployments⟩ | ⟨state, hstate, hsalt⟩
    · exact .inl hdeployments
    · rw [hsalt]
      exact hinv.deployed state hstate

/-- Saving. -/
theorem save_triple (htmp : cfg.statePath.withExtension "tmp" ≠ cfg.statePath) :
    RunTriple artifacts chainId cfg (MaySave artifacts chainId cfg state')
      (state'.save cfg.statePath) fun _ w => w.Records cfg.statePath state' := by
  refine triple_bind (write_triple htmp stable_maySave fun w content => .write htmp) fun _ =>
    triple_op ?_ ?_
  · exact stable_maySave.and (stable_of_files fun _ _ hfiles h => (congrFun hfiles _).trans h)
  · -- the rename puts the written state in place, in one step
    rintro w r w' hinv ⟨hsave, hwritten⟩ (⟨content, hcontent, rfl, rfl⟩ | ⟨⟨e, rfl⟩, rfl⟩)
    · obtain rfl := Option.some.inj (hwritten.symm.trans hcontent)
      have hrecords : (w.move (cfg.statePath.withExtension "tmp") cfg.statePath
        (.state state')).Records cfg.statePath state' := World.files_move ..
      refine ⟨inv_of_save hinv hsave _, ⟨⟨fun _ _ h => h, fun state hstate => ?_⟩,
        fun state hnone hstate => ?_⟩, fun _ _ => hrecords⟩
      · exact ⟨state', hrecords, hsave.2.1 state hstate⟩
      · obtain rfl := hrecords.eq hstate
        exact hsave.2.2 hnone
    · exact ⟨hinv, guarantee_refl, fun a h => by cases h⟩

/-- Reading code. -/
theorem getCode_triple (hP : (machine artifacts chainId).Stable P) {address : Address} :
    RunTriple artifacts chainId cfg P (getCode address)
      fun code w => P w ∧ code = (w.code address).getD [] :=
  ask_triple hP (fun _ _ _ h => h.1) fun _ code _ hw h => ⟨hw, h.2 code rfl⟩

/-- Connecting. -/
theorem connect_triple :
    RunTriple artifacts chainId cfg (fun _ => True) (connect artifacts cfg.config)
      fun id _ => id = chainId ∧ id = cfg.config.chain.chainId := by
  refine triple_bind (R := fun id _ => id = chainId)
    (ask_triple stable_const (fun _ _ _ h => h.1) fun w id _ _ h => h.2 id rfl) fun id => ?_
  refine triple_bind (R := fun _ _ => id = chainId ∧ id = cfg.config.chain.chainId)
    (triple_ofExcept fun w _ hid _ hcheck => ⟨hid, ensure_eq_ok_iff.mp hcheck⟩) fun _ => ?_
  refine triple_bind (getCode_triple stable_const) fun code => ?_
  exact triple_bind (R := fun _ _ => id = chainId ∧ id = cfg.config.chain.chainId)
    (triple_ofExcept fun _ _ hid _ _ => hid.1) fun _ => triple_pure fun _ _ hid => hid

/-- The state that a run goes on with: the one that the file holds, which accepts its
configuration. -/
def Resumes (cfg : PipelineConfig) (state : DeployState) (w : World) : Prop :=
  w.Records cfg.statePath state ∧ state.validateImmutability cfg.config = .ok ()

theorem stable_resumes : (machine artifacts chainId).Stable (Resumes cfg state) :=
  stable_records.and stable_const

/-- The intent of a configuration accepts the configuration. -/
theorem validateImmutability_new (config : DeployConfig) (salt : B256) :
    (DeployState.new config salt).validateImmutability config = .ok () := by
  rw [DeployState.validateImmutability_eq_ok_iff]
  refine ⟨rfl, fun h => ?_⟩
  simpa [DeployState.new, AppliedIntent.fromConfig] using h

/-- Loading the state. -/
theorem load_triple :
    RunTriple artifacts chainId cfg (fun _ => True) (DeployState.load cfg.statePath)
      fun state w => w.Records cfg.statePath state := by
  refine triple_bind (R := fun state w => w.Records cfg.statePath state)
    (ask_triple stable_const (fun _ _ _ h => h.1) fun w state _ _ h => h.2 state rfl)
    fun state => triple_ofExcept fun w _ hrecords state' hversion => ?_
  obtain ⟨-, hstate⟩ := Except.check_eq_ok_iff.mp hversion
  obtain rfl := Except.ok.inj hstate
  exact hrecords

/-- Without a state file, a new state may be saved. -/
theorem maySave_new {salt : B256} (h : w.files cfg.statePath = none) :
    MaySave artifacts chainId cfg (.new cfg.config salt) w := by
  refine ⟨⟨rfl, fun cs hcs => ?_, fun cs hcs => ?_⟩, fun state hstate => ?_, fun _ => rfl⟩
  · cases hcs
  · cases hcs
  · exact absurd h hstate.ne_none

/-- Loading the state, or creating it. -/
theorem loadOrCreate_triple (htmp : cfg.statePath.withExtension "tmp" ≠ cfg.statePath) :
    RunTriple artifacts chainId cfg (fun _ => True) (loadOrCreate cfg) (Resumes cfg) := by
  refine triple_bind (R := fun stateExists w => stateExists = (w.files cfg.statePath).isSome)
    (ask_triple stable_const (fun _ _ _ h => h.1) fun w a _ _ h => Except.ok.inj h.2) fun b => ?_
  cases b with
  | true =>
    refine triple_bind (load_triple.of_imp fun _ _ _ => trivial) fun state => ?_
    refine triple_bind (R := fun _ => Resumes cfg state) ?_ fun _ => triple_pure fun _ _ h => h
    exact triple_ofExcept fun w _ hrecords _ hvalid => ⟨hrecords, hvalid⟩
  | false =>
    have hnew : (machine artifacts chainId).Stable fun w => w.files cfg.statePath = none :=
      stable_of_files fun _ _ hfiles h => (congrFun hfiles _).trans h
    refine Triple.of_imp (P := fun w => w.files cfg.statePath = none) ?_ fun w _ h =>
      Option.not_isSome_iff_eq_none.mp (by simp [← h])
    refine triple_bind (R := fun _ w => w.files cfg.statePath = none)
      (ask_triple hnew (fun _ _ _ h => h.1) fun w _ _ hnone _ => hnone) fun salt => ?_
    refine triple_bind ((save_triple htmp).of_imp fun w _ => maySave_new) fun _ => ?_
    exact triple_pure fun w _ h => ⟨h, validateImmutability_new cfg.config salt⟩

/-- Sending the transaction and waiting for its receipt. -/
theorem deployCreate2_triple :
    RunTriple artifacts chainId cfg (Resumes cfg state)
      (deployCreate2 state.create2Salt artifacts.permit2Initcode)
      fun _ => Resumes cfg state := by
  refine triple_bind (R := fun _ => Resumes cfg state) (triple_op stable_resumes ?_) fun hash =>
    ask_triple stable_resumes (fun _ _ _ h => h.1) fun _ _ _ hw _ => hw
  -- the transaction is sent or not, and what is returned does not tell which
  rintro w r w' hinv hw (⟨rfl, e, rfl⟩ | ⟨hash, rfl, -⟩)
  · exact ⟨hinv, guarantee_refl, fun a h => by cases h⟩
  · refine ⟨⟨fun content hcontent => ?_, fun hnone => ?_, fun state' hstate' tx htx => ?_,
      hinv.deployed⟩, guarantee_of_unchanged rfl rfl, fun _ _ => hw⟩
    · obtain ⟨state', heq, hfits⟩ := hinv.file content hcontent
      exact ⟨state', heq, hfits.of_code fun _ _ h => h⟩
    · exact absurd hnone hw.1.ne_none
    · obtain rfl := hw.1.eq hstate'
      rcases List.mem_cons.mp htx with rfl | htx
      · rfl
      · exact hinv.sent state hw.1 tx htx

/-- The check of immutability reads the intent alone. -/
theorem validateImmutability_congr {config : DeployConfig}
    (h : state'.appliedIntent = state.appliedIntent) :
    state'.validateImmutability config = .ok () ↔ state.validateImmutability config = .ok () := by
  rw [DeployState.validateImmutability_eq_ok_iff, DeployState.validateImmutability_eq_ok_iff, h]

/-- A contract that is not recorded yet may be recorded as deployed. -/
theorem maySave_deployed {deployTx : Option B256} (hinv : w.Inv artifacts chainId cfg.statePath)
    (hw : w.Records cfg.statePath state) (hnone : state.contracts.permit2 = none) :
    MaySave artifacts chainId cfg (state.withPermit2
      ⟨.deployed, artifacts.permit2Address state.create2Salt, deployTx⟩) w := by
  refine ⟨⟨(hinv.fits hw).version, fun cs hcs => ?_, fun cs hcs hverified => ?_⟩,
    fun state₁ hstate₁ => ?_, fun hfile => absurd hfile hw.ne_none⟩
  · obtain rfl := Option.some.inj hcs
    exact ⟨rfl, le_rfl⟩
  · obtain rfl := Option.some.inj hcs
    cases hverified
  · obtain rfl := hw.eq hstate₁
    refine ⟨rfl, rfl, fun cs hcs => ?_⟩
    rw [hnone] at hcs
    cases hcs

/-- Recording the contract as deployed. -/
theorem saveDeployed_triple (htmp : cfg.statePath.withExtension "tmp" ≠ cfg.statePath)
    {deployTx : Option B256} (hnone : state.contracts.permit2 = none) :
    RunTriple artifacts chainId cfg (Resumes cfg state)
      (do
        let state := setContractState state "permit2"
          ⟨.deployed, artifacts.permit2Address state.create2Salt, deployTx⟩
        state.save cfg.statePath
        return state)
      fun state' w => Resumes cfg state' w ∧ state'.contracts.permit2.isSome := by
  intro w hinv hw
  refine triple_bind (P := fun w => w.Records cfg.statePath state)
    (R := fun _ w => w.Records cfg.statePath (state.withPermit2
      ⟨.deployed, artifacts.permit2Address state.create2Salt, deployTx⟩))
    ?_ (fun _ => ?_) w hinv hw.1
  · exact (save_triple htmp).of_imp fun w hinv h => maySave_deployed hinv h hnone
  · exact triple_pure fun w _ h => ⟨⟨h, (validateImmutability_congr rfl).mpr hw.2⟩, rfl⟩

/-- Deploying the contract. -/
theorem deployContract_triple (htmp : cfg.statePath.withExtension "tmp" ≠ cfg.statePath)
    {runtime : Bytes} :
    RunTriple artifacts chainId cfg (Resumes cfg state)
      (deployContract artifacts state
        { name := "permit2", address := artifacts.permit2Address state.create2Salt
          salt := state.create2Salt, initcode := artifacts.permit2Initcode
          expectedRuntime := runtime, statePath := cfg.statePath })
      fun state' w => Resumes cfg state' w ∧ state'.contracts.permit2.isSome := by
  intro w hinv hw
  cases hnone : state.contracts.permit2 with
  | some cs =>
    have hstatus := ((hinv.fits hw.1).address cs hnone).2
    -- recorded means deployed: the run goes on with the state it has
    have hskip : (getContractStatus state "permit2").any (ContractStatus.deployed ≤ ·) := by
      simpa [getContractStatus, hnone] using hstatus
    rw [deployContract, if_pos hskip]
    exact ⟨hw, by rw [hnone]; rfl⟩
  | none =>
    have hgo : ¬(getContractStatus state "permit2").any (ContractStatus.deployed ≤ ·) := by
      simp [getContractStatus, hnone]
    rw [deployContract, if_neg hgo]
    refine triple_bind (getCode_triple stable_resumes) (fun code => ?_) w hinv hw
    split_ifs
    · exact (saveDeployed_triple htmp hnone).of_imp fun _ _ h => h.1
    · exact triple_fail
    · refine triple_bind (deployCreate2_triple.of_imp fun _ _ h => h.1) fun receipt => ?_
      refine triple_bind (R := fun _ => Resumes cfg state) ?_ fun _ =>
        saveDeployed_triple htmp hnone
      exact triple_ofExcept fun _ _ h _ _ => h

/-- Permit2 is recorded after its step, if it is configured. -/
theorem deployPermit2_triple (htmp : cfg.statePath.withExtension "tmp" ≠ cfg.statePath) :
    RunTriple artifacts chainId cfg (Resumes cfg state) (deployPermit2 artifacts cfg chainId state)
      fun state' w => Resumes cfg state' w ∧
        (cfg.config.contracts.permit2.isSome → state'.contracts.permit2.isSome) := by
  rw [deployPermit2]
  split_ifs with hconfig
  · refine triple_bind (R := fun _ => Resumes cfg state)
      (triple_ofExcept fun _ _ h _ _ => h) fun runtime => ?_
    exact (deployContract_triple htmp).imp_post fun state' w h => ⟨h.1, fun _ => h.2⟩
  · exact triple_pure fun w _ h => ⟨h, fun hconfig' => absurd hconfig' hconfig⟩

/-- The recorded contract is verified. -/
def DeployState.Verified (state : DeployState) : Prop :=
  ∃ cs, state.contracts.permit2 = some cs ∧ cs.status = .verified

/-- A state that the file holds may be saved again. -/
theorem maySave_self (hinv : w.Inv artifacts chainId cfg.statePath)
    (hw : w.Records cfg.statePath state) : MaySave artifacts chainId cfg state w := by
  refine ⟨hinv.fits hw, fun state₁ hstate₁ => ?_, fun hnone => absurd hnone hw.ne_none⟩
  obtain rfl := hw.eq hstate₁
  exact .refl _

/-- A contract whose bytecode was found may be recorded as verified. -/
theorem maySave_verified {cs : ContractState} (hinv : w.Inv artifacts chainId cfg.statePath)
    (hw : w.Records cfg.statePath state) (hcs : state.contracts.permit2 = some cs)
    (hcode : w.HasExpected artifacts chainId cs.address) :
    MaySave artifacts chainId cfg (state.withPermit2 { cs with status := .verified }) w := by
  have hfits := hinv.fits hw
  refine ⟨⟨hfits.version, fun cs' hcs' => ?_, fun cs' hcs' _ => ?_⟩, fun state₁ hstate₁ => ?_,
    fun hfile => absurd hfile hw.ne_none⟩
  · obtain rfl := Option.some.inj hcs'
    exact ⟨(hfits.address cs hcs).1, ContractStatus.le_verified _⟩
  · obtain rfl := Option.some.inj hcs'
    exact hcode
  · obtain rfl := hw.eq hstate₁
    refine ⟨rfl, rfl, fun cs₁ hcs₁ => ?_⟩
    obtain rfl := Option.some.inj (hcs.symm.trans hcs₁)
    exact ⟨_, rfl, rfl, ContractStatus.le_verified _⟩

/-- Verifying what is deployed. -/
theorem verifyAll_triple :
    RunTriple artifacts chainId cfg (Resumes cfg state) (verifyAll artifacts state chainId)
      fun state' w => MaySave artifacts chainId cfg state' w ∧
        state'.validateImmutability cfg.config = .ok () ∧
        (state.contracts.permit2.isSome → state'.Verified) := by
  intro w hinv hw
  rw [verifyAll]
  -- without a recorded contract nothing is verified
  cases hcs : state.contracts.permit2 with
  | none =>
    refine triple_pure (P := Resumes cfg state) (fun w hinv hw => ?_) w hinv hw
    exact ⟨maySave_self hinv hw.1, hw.2, fun h => by cases h⟩
  | some cs =>
    simp only
    -- the code is read, what is expected is computed, and the two are compared
    split_ifs with hstatus
    · refine triple_bind (getCode_triple stable_resumes) (fun onChain => ?_) w hinv hw
      refine triple_bind (R := fun expected w => (Resumes cfg state w ∧
          onChain = (w.code cs.address).getD []) ∧
          artifacts.expectedRuntimeBytecode chainId cs.address = .ok expected)
        (triple_ofExcept fun _ _ h _ hexpected => ⟨h, hexpected⟩) fun expected => ?_
      refine triple_bind (R := fun _ w => Resumes cfg state w ∧
          w.HasExpected artifacts chainId cs.address) (triple_ofExcept ?_) fun _ => ?_
      · -- code that was found is still there, and no code is not what is expected
        rintro w _ ⟨⟨hw, honChain⟩, hexpected⟩ _ hcheck
        obtain rfl := ensure_eq_ok_iff.mp hcheck
        have hne := Artifacts.expectedRuntimeBytecode_ne_nil hexpected
        cases hcode : w.code cs.address with
        | none =>
          rw [hcode] at honChain
          exact absurd honChain hne
        | some code =>
          rw [hcode, Option.getD_some] at honChain
          exact ⟨hw, onChain, hexpected, hcode.trans (congrArg some honChain.symm)⟩
      · refine triple_pure fun w hinv h => ?_
        exact ⟨maySave_verified hinv h.1.1 hcs h.2, (validateImmutability_congr rfl).mpr h.1.2,
          fun _ => ⟨_, rfl, rfl⟩⟩
    · -- a recorded contract is never pending
      have hverified : cs.status = .verified :=
        (ContractStatus.deployed_le_iff.mp ((hinv.fits hw.1).address cs hcs).2).resolve_left hstatus
      refine triple_pure (P := Resumes cfg state) (fun w hinv hw => ?_) w hinv hw
      exact ⟨maySave_self hinv hw.1, hw.2, fun _ => ⟨cs, hcs, hverified⟩⟩

/-- What a run has reached when it returns `Ok`. -/
def Completed (cfg : PipelineConfig) (w : World) : Prop :=
  ∃ state, Resumes cfg state w ∧ (cfg.config.contracts.permit2.isSome → state.Verified)

theorem stable_completed : (machine artifacts chainId).Stable (Completed cfg) :=
  stable_of_files fun w w' hfiles h => by
    simpa only [Completed, Resumes, World.Records, hfiles] using h

/-- The manifest does not touch the completed state. -/
theorem Completed.write (hne : path ≠ cfg.statePath) {content : FileContent}
    (h : Completed cfg w) : Completed cfg (w.write path content) := by
  have hother := World.files_write_of_ne hne w content
  simpa only [Completed, Resumes, World.Records, hother] using h

/-- Verifying, saving and writing the manifest. -/
theorem finish_triple (htmp : cfg.statePath.withExtension "tmp" ≠ cfg.statePath)
    (hout : cfg.addressesOut ≠ some cfg.statePath)
    (hrecorded : cfg.config.contracts.permit2.isSome → state.contracts.permit2.isSome) :
    RunTriple artifacts chainId cfg (Resumes cfg state) (finish artifacts cfg chainId state)
      fun _ => Completed cfg := by
  refine triple_bind verifyAll_triple fun state' => ?_
  refine triple_bind (R := fun _ => Completed cfg) ?_ fun _ => ?_
  · rintro w hinv ⟨hsave, hvalid, hverified⟩
    refine (save_triple htmp).imp_post (fun _ w h => ?_) w hinv hsave
    exact ⟨state', ⟨h, hvalid⟩, fun hconfig => hverified (hrecorded hconfig)⟩
  · cases hpath : cfg.addressesOut with
    | none => exact triple_pure fun _ _ h => h
    | some path =>
      have hne : path ≠ cfg.statePath := fun heq => hout (hpath.trans (congrArg some heq))
      exact (write_triple hne stable_completed fun _ _ => .write hne).imp_post fun _ _ h => h.1

/-- A run. -/
theorem run_triple (htmp : cfg.statePath.withExtension "tmp" ≠ cfg.statePath)
    (hout : cfg.addressesOut ≠ some cfg.statePath) :
    RunTriple artifacts chainId cfg (fun _ => True) (run artifacts cfg) fun _ => Completed cfg := by
  refine triple_bind connect_triple fun id => ?_
  rintro w hinv ⟨rfl, -⟩
  refine triple_bind (loadOrCreate_triple htmp) (fun state => ?_) w hinv trivial
  refine triple_bind (deployPermit2_triple htmp) fun state' w hinv hw => ?_
  exact finish_triple htmp hout hw.2 w hinv hw.1

end Triples

/-! ## All runs -/

section Runs

variable {artifacts : Artifacts} {chainId : U64} {path : PathBuf}

/-- Every run that leaves the state file to itself keeps the invariant and its guarantee, and is
completed when it returns. -/
theorem sound (htmp : path.withExtension "tmp" ≠ path) :
    (machine artifacts chainId).Sound
      (fun cfg : { cfg // KeepsFile path cfg } => run artifacts cfg.1)
      (World.Inv artifacts chainId path) (fun cfg => Guarantee cfg.1)
      fun cfg _ => Completed cfg.1 where
  env _ _ hinv h := Env.inv h hinv
  triple := by
    rintro ⟨cfg, rfl, hout⟩
    exact run_triple htmp hout
  stable _ _ := stable_completed

/-- Everything is in order in a world. -/
abbrev Deployment.Safe (artifacts : Artifacts) (chainId : U64) (c : Deployment (KeepsFile path)) :
    Prop :=
  (machine artifacts chainId).Safe (World.Inv artifacts chainId path) (fun cfg => Guarantee cfg.1)
    (fun cfg _ => Completed cfg.1) c

variable {w₀ : World} {c c' : Deployment (KeepsFile path)}

/-- In every sequence of runs everything is in order. -/
theorem safe_of_leads (htmp : path.withExtension "tmp" ≠ path) (hinit : w₀.Initial path)
    (h : Leads artifacts chainId (.start w₀) c) : c.Safe artifacts chainId :=
  (sound htmp).safe_of_reaches ⟨hinit.inv, fun _ _ hp => by cases hp⟩ h

/-- Over every sequence of runs the world evolves. -/
theorem evolves_of_leads (htmp : path.withExtension "tmp" ≠ path) (hc : c.Safe artifacts chainId)
    (h : Leads artifacts chainId c c') : c.world.EvolvesTo path c'.world := by
  refine (sound htmp).rel_of_reaches (.refl path) (fun _ _ _ h h' => h.trans h')
    (fun _ _ h => Env.evolves h path) ?_ hc h
  rintro ⟨cfg, rfl, hout⟩ w w' h
  exact h.1

/-- What is to hold in every sequence of runs on a state file: it stays once it is there, with its
salt and the address it has recorded, and its status does not go down; at most one deployment takes
effect; and a run that returns `Ok` with Permit2 configured leaves it verified, with the expected
bytecode at the recorded address. -/
def ResumeSafe (artifacts : Artifacts) (chainId : U64) (path : PathBuf)
    (allowed : PipelineConfig → Prop) : Prop :=
  ∀ (w₀ : World) (c c' : Deployment allowed), w₀.Initial path →
    Leads artifacts chainId (.start w₀) c → Leads artifacts chainId c c' →
    (∀ content, c.world.files path = some content → ∃ state state', content = .state state ∧
      c'.world.Records path state' ∧ state.EvolvesTo state') ∧
    c.world.deployments.length ≤ 1 ∧
    ∀ cfg, c.current = some (cfg, .done ()) → cfg.1.config.contracts.permit2.isSome →
      ∃ state cs, c.world.Records path state ∧ state.contracts.permit2 = some cs ∧
        cs.status = .verified ∧ c.world.HasExpected artifacts chainId cs.address

/-- The runs are safe on a state file whose temporary file is another one, unless a run's manifest
is written over it. -/
theorem resume_safe (htmp : path.withExtension "tmp" ≠ path) :
    ResumeSafe artifacts chainId path (KeepsFile path) := by
  intro w₀ c c' hinit hc hc'
  -- all of it follows from the invariant of the world and the postconditions of the runs
  have hsafe := safe_of_leads htmp hinit hc
  refine ⟨fun content hcontent => ?_, ?_, fun cfg hdone hconfig => ?_⟩
  · obtain ⟨state, rfl, -⟩ := hsafe.1.file content hcontent
    obtain ⟨state', hstate', hevolves⟩ := (evolves_of_leads htmp hsafe hc').file state hcontent
    exact ⟨state, state', rfl, hstate', hevolves⟩
  · cases hfile : c.world.files path with
    | none => simp [(hsafe.1.fresh hfile).2]
    | some content =>
      obtain ⟨state, rfl, -⟩ := hsafe.1.file content hfile
      rcases hsafe.1.deployed state hfile with hnone | ⟨hone, -⟩
      · simp [hnone]
      · simp [hone]
  · obtain ⟨cfg, rfl, hout⟩ := cfg
    obtain ⟨state, ⟨hrecords, -⟩, hverified⟩ := hsafe.post hdone
    obtain ⟨cs, hcs, hstatus⟩ := hverified hconfig
    exact ⟨state, cs, hrecords, hcs, hstatus, (hsafe.1.fits hrecords).verified cs hcs hstatus⟩

end Runs

/-! ## Files that are written over -/

theorem deployState_tmp_ne : deployState.withExtension "tmp" ≠ deployState := by decide

theorem keepsFile_bareRun : KeepsFile deployState bareRun := ⟨rfl, by decide⟩

theorem keepsFile_permit2Run : KeepsFile deployState (permit2Run none) := ⟨rfl, by decide⟩

/-- A first run without Permit2, then one with it. -/
theorem resume_safe_example :
    ∃ (w : World) (state : DeployState) (cs : ContractState),
      Leads blankArtifacts 1234 (.start freshWorld)
        ⟨w, some (⟨permit2Run none, keepsFile_permit2Run⟩, .done ())⟩ ∧
      w.deployments.length ≤ 1 ∧ w.Records deployState state ∧
      state.contracts.permit2 = some cs ∧ cs.status = .verified ∧
      w.HasExpected blankArtifacts 1234 cs.address := by
  obtain ⟨w, hruns⟩ := permit2Runs_complete keepsFile_bareRun keepsFile_permit2Run
  obtain ⟨-, hone, hok⟩ :=
    resume_safe deployState_tmp_ne freshWorld _ _ (freshWorld_initial _) hruns .refl
  obtain ⟨state, cs, hstate⟩ := hok _ rfl rfl
  exact ⟨_, state, cs, hruns, hone, hstate⟩

/-- A state file with the extension of its temporary file. -/
def deployTmp : PathBuf := ⟨".", "deploy.tmp".toList⟩

/-- A run on it. -/
def tmpRun : PipelineConfig := { bareRun with statePath := deployTmp }

theorem keepsFile_tmpRun : KeepsFile deployTmp tmpRun := ⟨rfl, by decide⟩

/-- The first save of a run on that file may leave it torn. -/
theorem tmpRun_torn :
    Leads blankArtifacts 1234 (.start freshWorld) ⟨freshWorld.write deployTmp .torn,
      some (⟨tmpRun, keepsFile_tmpRun⟩, .fail (.report "no space left"))⟩ := by
  have hstart : Leads blankArtifacts 1234 (.start freshWorld)
      ⟨freshWorld, some (⟨tmpRun, keepsFile_tmpRun⟩, run blankArtifacts tmpRun)⟩ :=
    .single (.start ..)
  have hconnected := hstart.trans (reaches_answers_bind (cooperative_possible blankArtifacts 1234)
    _ _ (connect_answers rfl code_freshWorld (by decide)))
  have hexists : (machine blankArtifacts 1234).perform freshWorld (.fileExists deployTmp)
      (.ok false) freshWorld := ⟨rfl, rfl⟩
  have hsalt : (machine blankArtifacts 1234).perform freshWorld .randomSalt (.ok (7 : B256))
      freshWorld := ⟨rfl, 7, rfl⟩
  have hwrite : (machine blankArtifacts 1234).perform freshWorld
      (.write deployTmp (.state (.new tmpRun.config 7))) (.error (.report "no space left"))
      (freshWorld.write deployTmp .torn) := .inr ⟨⟨_, rfl⟩, .inr rfl⟩
  exact ((hconnected.tail (.answered hexists)).tail (.answered hsalt)).tail (.refused hwrite)

/-- A manifest that is written over the state file leaves a run that returned `Ok` without a state,
and on a file with the extension of its temporary file a save is not atomic. -/
theorem resume_unsafe :
    ¬ResumeSafe blankArtifacts 1234 deployState (OnFile deployState) ∧
      ¬ResumeSafe blankArtifacts 1234 deployTmp (KeepsFile deployTmp) := by
  constructor
  · intro hsafe
    have hbare : OnFile deployState bareRun := rfl
    have hpermit2 : OnFile deployState (permit2Run (some deployState)) := rfl
    obtain ⟨w, hruns⟩ := permit2Runs_complete hbare hpermit2
    obtain ⟨-, -, hok⟩ := hsafe freshWorld _ _ (freshWorld_initial _) hruns .refl
    obtain ⟨state, cs, hrecords, -⟩ := hok _ rfl rfl
    have hmanifest : (w.finished blankArtifacts (permit2Run (some deployState))
        addedPermit2).files deployState =
      some (.manifest (buildDeployManifest blankArtifacts addedPermit2)) := World.files_write ..
    cases Option.some.inj (hmanifest.symm.trans hrecords)
  · intro hsafe
    obtain ⟨hfile, -⟩ := hsafe freshWorld _ _ (freshWorld_initial _) tmpRun_torn .refl
    obtain ⟨state, state', hstate, -⟩ := hfile _ (World.files_write ..)
    cases hstate

end EvReth.Deployer
