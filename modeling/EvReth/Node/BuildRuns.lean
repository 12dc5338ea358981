import EvReth.Foundations.Run
import EvReth.Node.Builder

/-!
# Builds while the canonical head changes

The payload builder asks its client twice: for the latest state, and for the header of the parent. A
node imports blocks and moves its head at any time, also between the two calls of a build and
between the calls of several builds. The events of this module are these steps in any order.

A build executes its transactions on the state of the block that was the head when it asked for the
latest state. Nothing compares this block with the parent.
-/

namespace EvReth

/-! ## The tree of known blocks -/

/-- A known block and the state after it. -/
structure KnownBlock where
  header : Header
  postState : WorldState

/-- The parent of a block is among the blocks, one below it. -/
def KnownBlock.HasParent (block : KnownBlock) (blocks : B256 → Option KnownBlock) : Prop :=
  ∃ parent, blocks block.header.parentHash = some parent ∧
    block.header.number.toNat = parent.header.number.toNat + 1

instance (block : KnownBlock) (blocks : B256 → Option KnownBlock) :
    Decidable (block.HasParent blocks) :=
  match h : blocks block.header.parentHash with
  | none => isFalse fun ⟨_, h', _⟩ => nomatch h.symm.trans h'
  | some parent =>
    decidable_of_iff (block.header.number.toNat = parent.header.number.toNat + 1)
      ⟨fun hnumber => ⟨parent, h, hnumber⟩,
        fun ⟨_, h', hnumber⟩ => Option.some.inj (h.symm.trans h') ▸ hnumber⟩

/-- The known blocks by their hashes, and the canonical head. Every block but the first has a
parent. -/
structure BlockTree where
  blocks : B256 → Option KnownBlock
  root : B256
  head : B256
  head_known : (blocks head).isSome
  parent_known : ∀ hash block, blocks hash = some block → hash = root ∨ block.HasParent blocks

namespace BlockTree

variable {tree : BlockTree} {hash hash' : B256} {block block' : KnownBlock}

/-- A new block replaces no other. -/
theorem update_of_known (hnew : tree.blocks hash = none) (h : tree.blocks hash' = some block') :
    Function.update tree.blocks hash (some block) hash' = some block' := by
  have hne : hash' ≠ hash := by
    rintro rfl
    cases hnew.symm.trans h
  rw [Function.update_of_ne hne, h]

/-- Import a block under a new hash, if its parent is known. -/
def importBlock (tree : BlockTree) (hash : B256) (block : KnownBlock) : BlockTree :=
  match hnew : tree.blocks hash with
  | some _ => tree
  | none =>
    if hparent : block.HasParent tree.blocks then
      { tree with
        blocks := Function.update tree.blocks hash (some block)
        head_known := by
          obtain ⟨head, hhead⟩ := Option.isSome_iff_exists.mp tree.head_known
          rw [update_of_known hnew hhead]
          rfl
        parent_known := by
          have hgrows {child : KnownBlock} (h : child.HasParent tree.blocks) :
              child.HasParent (Function.update tree.blocks hash (some block)) := by
            obtain ⟨parent, hknown, hnumber⟩ := h
            exact ⟨parent, update_of_known hnew hknown, hnumber⟩
          intro hash' block' h
          by_cases heq : hash' = hash
          · rw [heq, Function.update_self] at h
            exact .inr (Option.some.inj h ▸ hgrows hparent)
          · rw [Function.update_of_ne heq] at h
            exact (tree.parent_known hash' block' h).imp_right hgrows }
    else tree

/-- Make a known block the head. -/
def setHead (tree : BlockTree) (hash : B256) : BlockTree :=
  if h : (tree.blocks hash).isSome then { tree with head := hash, head_known := h } else tree

/-- The block at the head. -/
def headBlock (tree : BlockTree) : KnownBlock := (tree.blocks tree.head).get tree.head_known

/-- The client of a node: its latest state is that of the head, and it finds every known block. -/
def client (tree : BlockTree) : Client :=
  { latest := .ok tree.headBlock.postState
    header := fun hash => .ok ((tree.blocks hash).map (·.header)) }

theorem blocks_head : tree.blocks tree.head = some tree.headBlock :=
  (Option.some_get tree.head_known).symm

/-- A known block stays as it is when another one is imported. -/
theorem blocks_importBlock (h : tree.blocks hash' = some block') :
    (tree.importBlock hash block).blocks hash' = some block' := by
  unfold importBlock
  split
  · exact h
  · split_ifs
    · exact update_of_known ‹_› h
    · exact h

theorem blocks_setHead (h : tree.blocks hash' = some block') :
    (tree.setHead hash).blocks hash' = some block' := by
  unfold setHead
  split_ifs
  · exact h
  · exact h

end BlockTree

/-! ## Builds as tasks -/

/-- A build that has asked for the latest state, and perhaps for its parent. The head of that moment
is kept for the statements below. -/
structure BuildTask (Payload : TxType → Type) where
  attributes : EvolvePayloadAttributes Payload
  openedAt : B256
  base : WorldState
  parent : Option Header

/-- A finished build: the state that its transactions were executed on, and the one that its state
root was computed over. -/
structure BuildReport (Payload : TxType → Type) where
  attributes : EvolvePayloadAttributes Payload
  openedAt : B256
  preState : WorldState
  rootBase : WorldState
  outcome : BlockBuilderOutcome Payload

/-- A node: the blocks that it knows, and the builds that are under way. -/
structure BuildNode (Payload : TxType → Type) where
  tree : BlockTree
  tasks : ℕ → Option (BuildTask Payload)

/-- What happens in a node. -/
inductive NodeEvent (Payload : TxType → Type) where
  | importBlock (hash : B256) (block : KnownBlock)
  | setHead (hash : B256)
  | openState (id : ℕ) (attributes : EvolvePayloadAttributes Payload)
  | fetchParent (id : ℕ)
  | finish (id : ℕ)

/-- A node before its first build. -/
def BuildNode.idle {Payload : TxType → Type} (tree : BlockTree) : BuildNode Payload :=
  { tree, tasks := fun _ => none }

/-- Replace the task with a number. -/
def BuildNode.setTask {Payload : TxType → Type} (node : BuildNode Payload) (id : ℕ)
    (task : Option (BuildTask Payload)) : BuildNode Payload :=
  { node with tasks := Function.update node.tasks id task }

namespace EvolvePayloadBuilder

variable {Payload : TxType → Type} (self : EvolvePayloadBuilder Payload)

/-- Start a build: check its attributes and ask for the latest state. -/
def stepOpen (node : BuildNode Payload) (id : ℕ) (attributes : EvolvePayloadAttributes Payload) :
    BuildNode Payload :=
  match node.tasks id, openState node.tree.client attributes with
  | none, .ok base =>
    node.setTask id (some { attributes, openedAt := node.tree.head, base, parent := none })
  | _, _ => node

/-- Ask for the parent of a build. A build whose parent is not found ends. -/
def stepFetch (node : BuildNode Payload) (id : ℕ) : BuildNode Payload :=
  match node.tasks id with
  | some { attributes, openedAt, base, parent := none } =>
    match fetchParent node.tree.client attributes with
    | .ok parent => node.setTask id (some { attributes, openedAt, base, parent := some parent })
    | .error _ => node.setTask id none
  | _ => node

/-- The rest of a build. -/
def stepFinish (node : BuildNode Payload) (id : ℕ) :
    Option (BuildReport Payload) × BuildNode Payload :=
  match node.tasks id with
  | some { attributes, openedAt, base, parent := some parent } =>
    match self.nextBlockAttributes parent attributes, self.buildOn base parent attributes with
    | .ok nextAttributes, .ok outcome =>
      (some
        { attributes
          openedAt
          preState := (self.builderForNextBlock base parent attributes.parentHash
            nextAttributes).executor.evm.db
          rootBase := base
          outcome }, node.setTask id none)
    | _, _ => (none, node.setTask id none)
  | _ => (none, node)

/-- One event of a node. -/
def nodeStep (node : BuildNode Payload) :
    NodeEvent Payload → Option (BuildReport Payload) × BuildNode Payload
  | .importBlock hash block => (none, { node with tree := node.tree.importBlock hash block })
  | .setHead hash => (none, { node with tree := node.tree.setHead hash })
  | .openState id attributes => (none, stepOpen node id attributes)
  | .fetchParent id => (none, stepFetch node id)
  | .finish id => self.stepFinish node id

end EvolvePayloadBuilder

/-! ## What every run keeps -/

/-- The state of a build is the one after the block that was the head, and its parent is known. -/
structure BuildTask.Sound {Payload : TxType → Type} (task : BuildTask Payload) (tree : BlockTree) :
    Prop where
  base : ∃ head, tree.blocks task.openedAt = some head ∧ task.base = head.postState
  parent : ∀ header, task.parent = some header →
    ∃ parent, tree.blocks task.attributes.parentHash = some parent ∧ parent.header = header

/-- Every build of the node is sound. -/
def BuildNode.Sound {Payload : TxType → Type} (node : BuildNode Payload) : Prop :=
  ∀ id task, node.tasks id = some task → task.Sound node.tree

section Sound

variable {Payload : TxType → Type} {node : BuildNode Payload} {task : BuildTask Payload}
  {tree tree' : BlockTree} {id : ℕ}

/-- A sound task stays sound while the tree grows. -/
theorem BuildTask.Sound.mono
    (hgrows : ∀ hash block, tree.blocks hash = some block → tree'.blocks hash = some block)
    (h : task.Sound tree) : task.Sound tree' where
  base := by
    obtain ⟨head, hhead, hbase⟩ := h.base
    exact ⟨head, hgrows _ _ hhead, hbase⟩
  parent := by
    intro header hheader
    obtain ⟨parent, hparent, heq⟩ := h.parent header hheader
    exact ⟨parent, hgrows _ _ hparent, heq⟩

/-- A node stays sound when a task is replaced by a sound one. -/
theorem BuildNode.Sound.setTask {newTask : Option (BuildTask Payload)} (h : node.Sound)
    (hnew : ∀ task, newTask = some task → task.Sound node.tree) :
    (node.setTask id newTask).Sound := by
  intro id' task htask
  have htask : Function.update node.tasks id newTask id' = some task := htask
  by_cases heq : id' = id
  · rw [heq, Function.update_self] at htask
    exact hnew task htask
  · rw [Function.update_of_ne heq] at htask
    exact h id' task htask

end Sound

namespace EvolvePayloadBuilder

variable {Payload : TxType → Type} {self : EvolvePayloadBuilder Payload} {node : BuildNode Payload}
  {id : ℕ} {attributes : EvolvePayloadAttributes Payload}

/-- The latest state of a node is that of its head. -/
theorem base_of_openState {tree : BlockTree} {base : WorldState}
    (h : openState tree.client attributes = .ok base) : base = tree.headBlock.postState := by
  obtain ⟨-, hlatest⟩ := openState_eq_ok_iff.mp h
  exact (Except.ok.inj hlatest).symm

/-- A parent that is found is a known block. -/
theorem parent_of_fetchParent {tree : BlockTree} {header : Header}
    (h : fetchParent tree.client attributes = .ok header) :
    ∃ parent, tree.blocks attributes.parentHash = some parent ∧ parent.header = header := by
  have hfound : (tree.blocks attributes.parentHash).map (·.header) = some header :=
    Except.ok.inj (fetchParent_eq_ok_iff.mp h)
  exact Option.map_eq_some_iff.mp hfound

/-- To open the state keeps the node sound. -/
theorem sound_stepOpen (h : node.Sound) : (stepOpen node id attributes).Sound := by
  unfold stepOpen
  split
  next hopen =>
    refine h.setTask fun task htask => ?_
    obtain rfl := Option.some.inj htask
    exact ⟨⟨node.tree.headBlock, BlockTree.blocks_head, base_of_openState hopen⟩,
      fun _ hnone => nomatch hnone⟩
  next => exact h

/-- To fetch the parent keeps the node sound. -/
theorem sound_stepFetch (h : node.Sound) : (stepFetch node id).Sound := by
  unfold stepFetch
  split
  next attributes openedAt base htask =>
    split
    next parent hfetch =>
      refine h.setTask fun task hnew => ?_
      obtain rfl := Option.some.inj hnew
      refine ⟨(h id _ htask).base, fun header hheader => ?_⟩
      obtain rfl := Option.some.inj hheader
      exact parent_of_fetchParent hfetch
    next => exact h.setTask fun _ hnone => nomatch hnone
  next => exact h

/-- To finish a build keeps the node sound. -/
theorem sound_stepFinish (h : node.Sound) : (self.stepFinish node id).2.Sound := by
  unfold stepFinish
  split
  next =>
    split
    next => exact h.setTask fun _ hnone => nomatch hnone
    next => exact h.setTask fun _ hnone => nomatch hnone
  next => exact h

/-- To finish a build does not change the tree. -/
theorem tree_stepFinish : (self.stepFinish node id).2.tree = node.tree := by
  unfold stepFinish
  split
  next =>
    split
    next => rfl
    next => rfl
  next => rfl

/-- Every event keeps the builds of a node sound. -/
theorem sound_nodeStep (h : node.Sound) (event : NodeEvent Payload) :
    (self.nodeStep node event).2.Sound := by
  cases event with
  | importBlock hash block =>
    exact fun id task htask => (h id task htask).mono fun _ _ => BlockTree.blocks_importBlock
  | setHead hash =>
    exact fun id task htask => (h id task htask).mono fun _ _ => BlockTree.blocks_setHead
  | openState id attributes => exact sound_stepOpen h
  | fetchParent id => exact sound_stepFetch h
  | finish id => exact sound_stepFinish h

/-- A build that finishes in a sound node was executed on the state of the block that was the
head when it began, with the header of its parent. -/
theorem report_of_stepFinish (h : node.Sound) {report : BuildReport Payload}
    (hreport : (self.stepFinish node id).1 = some report) :
    ∃ head parent, (self.stepFinish node id).2.tree.blocks report.openedAt = some head ∧
      (self.stepFinish node id).2.tree.blocks report.attributes.parentHash = some parent ∧
      self.buildOn head.postState parent.header report.attributes = .ok report.outcome ∧
      report.preState = head.postState ∧ report.rootBase = head.postState := by
  rw [tree_stepFinish]
  unfold stepFinish at hreport
  split at hreport
  next attributes openedAt base header htask =>
    obtain ⟨⟨head, hhead, hbase⟩, hparent⟩ := h id _ htask
    obtain ⟨parent, hknown, hheader⟩ := hparent header rfl
    split at hreport
    next nextAttributes outcome hnext hbuild =>
      obtain rfl := Option.some.inj hreport
      refine ⟨head, parent, hhead, hknown, ?_, hbase, hbase⟩
      rw [← hbase, hheader]
      exact hbuild
    next => cases hreport
  next => cases hreport

/-- The build was executed on the state after its parent, and its state root computed over it. -/
def BuiltOnParent (tree : BlockTree) (report : BuildReport Payload) : Prop :=
  ∃ parent, tree.blocks report.attributes.parentHash = some parent ∧
    report.preState = parent.postState ∧ report.rootBase = parent.postState

/-- In every run of a node, a finished build was executed on the state of the block that was the
head when it asked for the latest state; so it was executed on the state after its parent exactly if
the two states are the same. -/
theorem builtOnParent_iff (tree : BlockTree) (events : List (NodeEvent Payload)) :
    ∀ t ∈ Run.transitions self.nodeStep (.idle tree) events, ∀ report, t.output = some report →
      ∃ head parent, t.post.tree.blocks report.openedAt = some head ∧
        t.post.tree.blocks report.attributes.parentHash = some parent ∧
        self.buildOn head.postState parent.header report.attributes = .ok report.outcome ∧
        (BuiltOnParent t.post.tree report ↔ head.postState = parent.postState) := by
  intro t ht report hreport
  have hidle : (BuildNode.idle tree : BuildNode Payload).Sound := fun _ _ h => nomatch h
  have hsound : t.pre.Sound :=
    Run.pre_of_invariant (I := BuildNode.Sound) (C := fun _ => True)
      (fun node event h _ => sound_nodeStep h event) hidle (fun _ _ => trivial) t ht
  obtain ⟨pre, event, output, post⟩ := t
  obtain ⟨rfl, rfl⟩ :
      output = (self.nodeStep pre event).1 ∧ post = (self.nodeStep pre event).2 := by
    have hstep := Run.eq_of_mem_transitions ht
    exact ⟨congrArg Run.Transition.output hstep, congrArg Run.Transition.post hstep⟩
  -- the last step of a build is the only one that reports
  cases event with
  | finish id =>
    obtain ⟨head, parent, hhead, hparent, hbuild, hpre, hroot⟩ :=
      report_of_stepFinish hsound hreport
    refine ⟨head, parent, hhead, hparent, hbuild, ?_⟩
    constructor
    · rintro ⟨parent', hparent', hpre', -⟩
      obtain rfl := Option.some.inj (hparent.symm.trans hparent')
      exact hpre.symm.trans hpre'
    · intro hsame
      exact ⟨parent, hparent, hpre.trans hsame, hroot.trans hsame⟩
  | importBlock hash block => cases hreport
  | setHead hash => cases hreport
  | openState id attributes => cases hreport
  | fetchParent id => cases hreport

/-- Without events in between, the three steps of a build are `build_payload`. -/
theorem outcome_of_steps (hfree : node.tasks id = none) :
    (self.stepFinish (stepFetch (stepOpen node id attributes) id) id).1.map (·.outcome) =
      (self.buildOutcome node.tree.client attributes).toOption := by
  cases hopen : openState node.tree.client attributes with
  | error e =>
    simp only [stepOpen, hfree, hopen, stepFetch, stepFinish, buildOutcome]
    rfl
  | ok base =>
    have htask : (stepOpen node id attributes).tasks id =
        some { attributes, openedAt := node.tree.head, base, parent := none } := by
      simp only [stepOpen, hfree, hopen, BuildNode.setTask, Function.update_self]
    have htree : (stepOpen node id attributes).tree = node.tree := by
      simp only [stepOpen, hfree, hopen, BuildNode.setTask]
    cases hfetch : fetchParent node.tree.client attributes with
    | error e =>
      simp only [stepFetch, htask, htree, hfetch, stepFinish, BuildNode.setTask,
        Function.update_self, buildOutcome, hopen]
      rfl
    | ok parent =>
      rw [buildOutcome_eq_buildOn hopen hfetch]
      simp only [stepFetch, htask, htree, hfetch, stepFinish, BuildNode.setTask,
        Function.update_self]
      cases hbuild : self.buildOn base parent attributes with
      | error e => cases self.nextBlockAttributes parent attributes <;> rfl
      | ok outcome =>
        -- a block that is built has a gas limit
        obtain ⟨next, hnext, -⟩ := buildOn_eq_ok_iff.mp hbuild
        rw [hnext]
        rfl

/-! ## A head that is not the parent -/

/-- The tree of the one block that `paymentClient` knows. -/
def paymentTree : BlockTree :=
  { blocks := fun hash => if hash = 0xAA then some ⟨paymentParent, senderWorld⟩ else none
    root := 0xAA
    head := 0xAA
    head_known := rfl
    parent_known := by
      intro hash block h
      by_cases heq : hash = 0xAA
      · exact .inl heq
      · rw [if_neg heq] at h
        cases h }

/-- A block on it, after which no account is left. -/
def emptyingBlock : KnownBlock :=
  { header := { paymentParent with parentHash := 0xAA, number := 11 }, postState := fun _ => none }

/-- A build on the first block has asked for the latest state when the second becomes the head. -/
def headMovesDuringBuild : List (NodeEvent fun _ => Empty) :=
  [.openState 0 (paymentAttributes [payment none]), .importBlock 0xBB emptyingBlock, .setHead 0xBB,
    .fetchParent 0]

/-- A build on the first block asks for the latest state when the second has become the head. -/
def headMovesBeforeBuild : List (NodeEvent fun _ => Empty) :=
  [.importBlock 0xBB emptyingBlock, .setHead 0xBB,
    .openState 0 (paymentAttributes [payment none]), .fetchParent 0]

/-- A build whose parent was the head is not disturbed when the head moves on. -/
theorem builtOnParent_of_head :
    ∃ t ∈ Run.transitions paymentBuilder.nodeStep (.idle paymentTree)
        (headMovesDuringBuild ++ [.finish 0]),
      ∃ report, t.output = some report ∧ BuiltOnParent t.post.tree report := by
  have hmem := Run.last_mem_transitions paymentBuilder.nodeStep (.idle paymentTree)
    headMovesDuringBuild (.finish 0)
  have hopened : ((Run.Transition.of paymentBuilder.nodeStep (Run.finalState
      paymentBuilder.nodeStep (.idle paymentTree) headMovesDuringBuild) (.finish 0)).output.map
        fun report => (report.openedAt, report.attributes.parentHash)) = some (0xAA, 0xAA) := by
    decide +kernel
  obtain ⟨report, hreport, hhashes⟩ := Option.map_eq_some_iff.mp hopened
  obtain ⟨hopenedAt, hparentHash⟩ := Prod.mk.inj hhashes
  obtain ⟨head, parent, hhead, hparent, -, hiff⟩ :=
    builtOnParent_iff paymentTree _ _ hmem report hreport
  refine ⟨_, hmem, report, hreport, hiff.mpr ?_⟩
  rw [hopenedAt] at hhead
  rw [hparentHash] at hparent
  rw [Option.some.inj (hhead.symm.trans hparent)]

/-- A build whose parent was no longer the head is executed on the state of the new head, and leaves
out a payment that the state after the parent pays for. -/
theorem not_builtOnParent :
    ∃ t ∈ Run.transitions paymentBuilder.nodeStep (.idle paymentTree)
        (headMovesBeforeBuild ++ [.finish 0]),
      ∃ report, t.output = some report ∧ report.attributes.parentHash = 0xAA ∧
        ¬ BuiltOnParent t.post.tree report ∧ report.outcome.block.transactions.length = 0 ∧
        ((paymentBuilder.buildOn senderWorld paymentParent report.attributes).toOption.map
          (·.block.transactions.length)) = some 1 := by
  have hmem := Run.last_mem_transitions paymentBuilder.nodeStep (.idle paymentTree)
    headMovesBeforeBuild (.finish 0)
  have hbuilt : ((Run.Transition.of paymentBuilder.nodeStep (Run.finalState
      paymentBuilder.nodeStep (.idle paymentTree) headMovesBeforeBuild) (.finish 0)).output.map
        fun report => (report.attributes.parentHash,
          (report.preState EvTxEnvelope.paymentSender).isSome,
          report.outcome.block.transactions.length,
          (paymentBuilder.buildOn senderWorld paymentParent report.attributes).toOption.map
            (·.block.transactions.length))) = some (0xAA, false, 0, some 1) := by
    decide +kernel
  obtain ⟨report, hreport, hvalues⟩ := Option.map_eq_some_iff.mp hbuilt
  obtain ⟨hparentHash, hvalues⟩ := Prod.mk.inj hvalues
  obtain ⟨hsender, hvalues⟩ := Prod.mk.inj hvalues
  obtain ⟨hlength, hlength'⟩ := Prod.mk.inj hvalues
  refine ⟨_, hmem, report, hreport, hparentHash, ?_, hlength, hlength'⟩
  rintro ⟨parent, hparent, hpre, -⟩
  rw [hparentHash] at hparent
  -- the sender has an account in the state after the parent
  have hknown : parent.postState = senderWorld := by
    have hblock : some parent = some ⟨paymentParent, senderWorld⟩ := hparent.symm.trans rfl
    rw [Option.some.inj hblock]
  rw [hpre, hknown] at hsender
  cases hsender

end EvolvePayloadBuilder

end EvReth
