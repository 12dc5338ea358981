import EvReth.Deployer.Resume

/-!
# The intent of the first run

The state file has a snapshot of the configuration of the run that created it, and no later run
writes it anew. A later configuration must be for the same chain and keep the contracts of the
first one. Contracts that were added in between are not in the snapshot.
-/

namespace EvReth.Deployer

open Machine

variable {artifacts : Artifacts} {chainId : U64} {path : PathBuf} {w₀ : World}
variable {c c₁ c' : Deployment (KeepsFile path)} {cfg : { cfg // KeepsFile path cfg }}

/-- A configuration that drops what another one fixes: the chain, or Permit2. -/
def DeployConfig.Drops (config first : DeployConfig) : Prop :=
  config.chain.chainId ≠ first.chain.chainId ∨
    first.contracts.permit2.isSome ∧ ¬config.contracts.permit2.isSome

/-- The intent of a configuration rejects exactly the configurations that drop a part of it. -/
theorem validateImmutability_of_fromConfig {state : DeployState} {config first : DeployConfig}
    (h : state.appliedIntent = .fromConfig first) :
    (state.validateImmutability config = .ok () ↔ ¬config.Drops first) ∧
      (config.Drops first → ∃ msg, state.validateImmutability config = .error (.report msg)) := by
  have hchain : state.appliedIntent.chainId = first.chain.chainId := by rw [h]; rfl
  have hpermit2 : state.appliedIntent.permit2.isSome = first.contracts.permit2.isSome := by
    rw [h, AppliedIntent.fromConfig, Option.isSome_map]
  constructor
  · rw [DeployState.validateImmutability_eq_ok_iff, hchain, hpermit2, DeployConfig.Drops]
    tauto
  · intro hdrops
    by_cases heq : config.chain.chainId = state.appliedIntent.chainId
    · have hdropped := hdrops.resolve_left (not_not.mpr (heq.trans hchain))
      exact ⟨_, DeployState.validateImmutability_eq_error_iff.mpr
        (.inr ⟨heq, hpermit2.trans hdropped.1, hdropped.2, rfl⟩)⟩
    · exact ⟨_, DeployState.validateImmutability_eq_error_iff.mpr (.inl ⟨heq, rfl⟩)⟩

/-- The state that a run creates has the intent of its configuration. -/
theorem intent_of_created (htmp : path.withExtension "tmp" ≠ path) (hinit : w₀.Initial path)
    (hc : Leads artifacts chainId (.start w₀) c) {p : Pipeline Unit}
    (hrun : c.current = some (cfg, p)) (hnone : c.world.files path = none)
    (hstep : (machine artifacts chainId).Step (fun cfg => run artifacts cfg.1) c c₁)
    {state : DeployState} (hstate : c₁.world.Records path state) :
    state.appliedIntent = .fromConfig cfg.1.config := by
  -- neither a start or a stop nor the chain creates the file: it is an operation of the run
  rcases ((sound htmp).step (safe_of_leads htmp hinit hc) hstep).2 with
    heq | henv | ⟨cfg', p', hrun', hguar⟩
  · rw [World.Records, heq, hnone] at hstate
    cases hstate
  · exact absurd hnone ((Env.records henv).mp hstate).ne_none
  · obtain ⟨rfl, rfl⟩ := Prod.mk.inj (Option.some.inj (hrun.symm.trans hrun'))
    obtain ⟨cfg, rfl, hout⟩ := cfg
    exact hguar.2 state hnone hstate

/-- From the step on by which a run creates the state file, the file rejects every configuration
that is for another chain or lacks Permit2 although that run had it, and no run with such a
configuration completes. -/
theorem intent_kept (htmp : path.withExtension "tmp" ≠ path) (hinit : w₀.Initial path)
    (hc : Leads artifacts chainId (.start w₀) c) {p : Pipeline Unit}
    (hrun : c.current = some (cfg, p)) (hnone : c.world.files path = none)
    (hstep : (machine artifacts chainId).Step (fun cfg => run artifacts cfg.1) c c₁)
    (hcreated : (c₁.world.files path).isSome) (hlater : Leads artifacts chainId c₁ c') :
    ∃ state, c'.world.Records path state ∧
      (∀ config, DeployConfig.Drops config cfg.1.config →
        ∃ msg, state.validateImmutability config = .error (.report msg)) ∧
      ∀ cfg', c'.current = some (cfg', .done ()) →
        ¬DeployConfig.Drops cfg'.1.config cfg.1.config := by
  have hsafe := safe_of_leads htmp hinit (hc.tail hstep)
  obtain ⟨content, hcontent⟩ := Option.isSome_iff_exists.mp hcreated
  obtain ⟨state, rfl, -⟩ := hsafe.1.file content hcontent
  have hintent := intent_of_created htmp hinit hc hrun hnone hstep hcontent
  obtain ⟨state', hstate', hevolves⟩ := (evolves_of_leads htmp hsafe hlater).file state hcontent
  have hintent' := hevolves.intent.trans hintent
  refine ⟨state', hstate', fun config => (validateImmutability_of_fromConfig hintent').2,
    fun cfg' hdone => ?_⟩
  have hcompleted := ((sound htmp).safe_of_reaches hsafe hlater).post hdone
  -- a run that has completed has passed the check against the state that is still recorded
  obtain ⟨cfg', rfl, hout⟩ := cfg'
  obtain ⟨state'', ⟨hstate'', hvalid⟩, -⟩ := hcompleted
  obtain rfl := hstate'.eq hstate''
  exact (validateImmutability_of_fromConfig hintent').1.mp hvalid

/-- A first run may come to the point where it has written its new state beside the state file. -/
theorem permit2Run_writes :
    ∃ k : Unit → Pipeline Unit, Leads blankArtifacts 1234 (.start freshWorld)
      ⟨freshWorld.write (deployState.withExtension "tmp")
          (.state (.new (permit2Run none).config 7)),
        some (⟨permit2Run none, keepsFile_permit2Run⟩,
          ask (.rename (deployState.withExtension "tmp") deployState) >>= k)⟩ := by
  have hstart : Leads blankArtifacts 1234 (.start freshWorld)
      ⟨freshWorld, some (⟨permit2Run none, keepsFile_permit2Run⟩,
        run blankArtifacts (permit2Run none))⟩ := .single (.start ..)
  have hconnected := hstart.trans (reaches_answers_bind (cooperative_possible blankArtifacts 1234)
    _ _ (connect_answers rfl code_freshWorld (by decide)))
  have hexists : (machine blankArtifacts 1234).perform freshWorld (.fileExists deployState)
      (.ok false) freshWorld := ⟨rfl, rfl⟩
  have hsalt : (machine blankArtifacts 1234).perform freshWorld .randomSalt (.ok (7 : B256))
      freshWorld := ⟨rfl, 7, rfl⟩
  have hwrite : (machine blankArtifacts 1234).perform freshWorld
      (.write (deployState.withExtension "tmp") (.state (.new (permit2Run none).config 7)))
      (.ok ()) (freshWorld.write (deployState.withExtension "tmp")
        (.state (.new (permit2Run none).config 7))) := .inl ⟨rfl, rfl⟩
  exact ⟨_, ((hconnected.tail (.answered hexists)).tail (.answered hsalt)).tail (.answered hwrite)⟩

/-- The step by which a run with Permit2 creates the state file. -/
theorem intent_kept_example :
    ∃ (c c₁ : Deployment (KeepsFile deployState)) (p : Pipeline Unit) (state : DeployState),
      Leads blankArtifacts 1234 (.start freshWorld) c ∧
      c.current = some (⟨permit2Run none, keepsFile_permit2Run⟩, p) ∧
      c.world.files deployState = none ∧
      (machine blankArtifacts 1234).Step (fun cfg => run blankArtifacts cfg.1) c c₁ ∧
      c₁.world.Records deployState state ∧
      ∃ msg, state.validateImmutability bareRun.config = .error (.report msg) := by
  obtain ⟨k, hwritten⟩ := permit2Run_writes
  let created : DeployState := .new (permit2Run none).config 7
  have hrename : (machine blankArtifacts 1234).perform
      (freshWorld.write (deployState.withExtension "tmp") (.state created))
      (.rename (deployState.withExtension "tmp") deployState) (.ok ())
      (freshWorld.saved deployState created) := .inl ⟨_, World.files_write .., rfl, rfl⟩
  have hnone : (freshWorld.write (deployState.withExtension "tmp") (.state created)).files
      deployState = none := World.files_write_of_ne deployState_tmp_ne _ _
  have hcreated : ((freshWorld.saved deployState created).files deployState).isSome := by
    rw [World.records_saved]
    rfl
  obtain ⟨state, hstate, hrejects, -⟩ := intent_kept deployState_tmp_ne (freshWorld_initial _)
    hwritten rfl hnone (.answered hrename) hcreated .refl
  have hdrops : DeployConfig.Drops bareRun.config (permit2Run none).config := .inr ⟨rfl, by decide⟩
  exact ⟨_, _, _, state, hwritten, rfl, hnone, .answered hrename, hstate,
    hrejects bareRun.config hdrops⟩

/-- Permit2 that was added by a second run, which completed, may be dropped again. -/
theorem added_permit2_dropped :
    ∃ (w : World) (state : DeployState),
      Leads blankArtifacts 1234 (.start freshWorld)
        ⟨w, some (⟨permit2Run none, keepsFile_permit2Run⟩, .done ())⟩ ∧
      (permit2Run none).config.contracts.permit2.isSome ∧
      ¬bareRun.config.contracts.permit2.isSome ∧
      w.Records deployState state ∧ state.validateImmutability bareRun.config = .ok () := by
  obtain ⟨w, hruns⟩ := permit2Runs_complete keepsFile_bareRun keepsFile_permit2Run
  have haccepted : addedPermit2.validateImmutability bareRun.config = .ok () :=
    DeployState.validateImmutability_eq_ok_iff.mpr ⟨rfl, by decide⟩
  exact ⟨_, addedPermit2, hruns, rfl, by decide, World.records_finished _ _ _ (by decide),
    haccepted⟩

end EvReth.Deployer
