import Stratum.Ports.PipelineConditions
import Stratum.Verified.LinkedForest
import Stratum.Verified.OrderedContainers

/-!
# The pipeline graph that `ProcessControlBlock` builds

`ApplyTable` only ever adds a node for a table not applied yet, at the end of
`table_to_node_` and at the end of the subtables of a parent already there.
So the nodes, each with the table ID of its parent, are a forest grown one
node at a time (`Stratum.Verified.LinkedForest`), and the subtables of every
node, and of the root, are its children in that forest. `GraphOk` says so,
and every run of the processing keeps it.

The processing is a mutual recursion over blocks, statements and optional
blocks. `RunKeeps` says what a run of it keeps; `runKeeps_processControlBlock`
gives it for every block from what one `ApplyTable`, one hit branch and one
is-valid branch keep, and the invariants below are its instances.

Main results:

* `applyTable_ok`: what a successful `ApplyTable` can do;
* `GraphOk.addNode`: a node added under a parent that is there, for a table
  not applied yet, keeps the graph invariant;
* `runKeeps_processControlBlock`: the run rule of the processing;
* `graphOk_processControlBlock`, `conditionsHold_processControlBlock`,
  `parentsApplied_processControlBlock`: the processing keeps the graph
  invariant, the header rules of every node's conditions, and the parent of
  every node either the default or a table applied.
-/

namespace Stratum.Ports.Pipeline

open Stratum.Ports.Status Stratum.Verified.LinkedForest Stratum.Verified.OrderedContainers
open Stratum.Ports.BcmUdfManager (P4HeaderType)

/-! ## The forest of the nodes -/

/-- The forest of a node map: each table ID with the table ID of its
parent, for a node that has one. -/
def forestOf (tableToNode : List (Nat × PipelineNode)) : List (Nat × Option Nat) :=
  tableToNode.map fun entry => (entry.1, entry.2.parentId)

@[simp] theorem map_fst_forestOf (tableToNode : List (Nat × PipelineNode)) :
    (forestOf tableToNode).map Prod.fst = tableToNode.map Prod.fst := by
  simp [forestOf]

@[simp] theorem labels_forestOf (tableToNode : List (Nat × PipelineNode)) :
    labels (forestOf tableToNode) = tableToNode.map Prod.fst :=
  map_fst_forestOf tableToNode

@[simp] theorem length_forestOf (tableToNode : List (Nat × PipelineNode)) :
    (forestOf tableToNode).length = tableToNode.length := by
  simp [forestOf]

theorem forestOf_append_singleton (tableToNode : List (Nat × PipelineNode)) (id : Nat)
    (node : PipelineNode) :
    forestOf (tableToNode ++ [(id, node)]) = forestOf tableToNode ++ [(id, node.parentId)] := by
  simp [forestOf]

/-- Changing nodes but not their parents keeps the forest. -/
theorem forestOf_modifyNode {f : PipelineNode → PipelineNode} (hf : ∀ node, (f node).parent = node.parent)
    (tableToNode : List (Nat × PipelineNode)) (id : Nat) :
    forestOf (modifyNode tableToNode id f) = forestOf tableToNode := by
  unfold forestOf modifyNode
  rw [List.map_map]
  apply List.map_congr_left
  intro entry _
  by_cases h : entry.1 = id <;> simp [h, PipelineNode.parentId, PipelineNode.hasParent, hf]

@[simp] theorem map_fst_modifyNode (tableToNode : List (Nat × PipelineNode)) (id : Nat)
    (f : PipelineNode → PipelineNode) :
    (modifyNode tableToNode id f).map Prod.fst = tableToNode.map Prod.fst := by
  unfold modifyNode
  rw [List.map_map]
  apply List.map_congr_left
  intro entry _
  by_cases h : entry.1 = id <;> simp [h]

/-- The invariant of the pipeline graph: the nodes are a forest grown one
node at a time, each under the table ID it is kept at, and the subtables of
the root and of every node are its children in that forest, in the order
they were added. -/
structure GraphOk (pp : PipelineProcessor) : Prop where
  grown : Grown (forestOf pp.tableToNode)
  keys : ∀ entry ∈ pp.tableToNode, entry.2.table.tableId = entry.1
  rootSubtables : pp.root.subtables = children (forestOf pp.tableToNode) none
  subtables : ∀ entry ∈ pp.tableToNode,
    entry.2.subtables = children (forestOf pp.tableToNode) (some entry.1)

theorem GraphOk.new : GraphOk PipelineProcessor.new :=
  ⟨.nil, fun _ h => by simp [PipelineProcessor.new] at h, rfl,
    fun _ h => by simp [PipelineProcessor.new] at h⟩

/-! ## Adding a node -/

section AddNode

variable {pp : PipelineProcessor} {id : Nat} {node : PipelineNode}

@[simp] theorem physicalPipeline_addNode (parentId : Option Nat) :
    (pp.addNode parentId id node).physicalPipeline = pp.physicalPipeline := by
  cases parentId <;> rfl

@[simp] theorem map_fst_addNode (parentId : Option Nat) :
    (pp.addNode parentId id node).tableToNode.map Prod.fst = pp.tableToNode.map Prod.fst ++ [id] := by
  cases parentId <;> simp [PipelineProcessor.addNode]

/-- The forest after a node is added: the node, under the parent it was
added with. -/
theorem forestOf_addNode :
    forestOf (pp.addNode node.parentId id node).tableToNode =
      forestOf pp.tableToNode ++ [(id, node.parentId)] := by
  cases hparent : node.parentId with
  | none => simp [PipelineProcessor.addNode, forestOf_append_singleton, hparent]
  | some p =>
    simp only [PipelineProcessor.addNode]
    rw [forestOf_modifyNode (f := fun parentNode => { parentNode with subtables := parentNode.subtables ++ [id] })
      (fun _ => rfl), forestOf_append_singleton, hparent]

/-- Adding a node changes no other entry but in its subtables. -/
theorem mem_addNode {parentId : Option Nat} {entry : Nat × PipelineNode}
    (h : entry ∈ (pp.addNode parentId id node).tableToNode) :
    ∃ e ∈ pp.tableToNode ++ [(id, node)],
      entry.1 = e.1 ∧ entry.2 = { e.2 with subtables := entry.2.subtables } := by
  cases parentId with
  | none => exact ⟨entry, h, rfl, rfl⟩
  | some p =>
    obtain ⟨e, he, rfl⟩ := List.mem_map.mp h
    refine ⟨e, he, ?_⟩
    by_cases hp : e.1 = p <;> simp [hp]

/-- A node added under a parent that is there, for a table not applied yet,
with no subtables, keeps the graph invariant. -/
theorem GraphOk.addNode (hok : GraphOk pp) (hfresh : pp.tableToNode.lookup id = none)
    (hparent : ∀ p, node.parentId = some p → p ∈ pp.tableToNode.map Prod.fst)
    (hkey : node.table.tableId = id) (hleaf : node.subtables = []) :
    GraphOk (pp.addNode node.parentId id node) := by
  have hnew : id ∉ pp.tableToNode.map Prod.fst := lookup_eq_none_iff.mp hfresh
  have hnoChildren : children (forestOf pp.tableToNode) (some id) = [] :=
    children_eq_nil_of_not_mem hok.grown (by simpa using hnew)
  have hforest : forestOf (pp.addNode node.parentId id node).tableToNode =
      forestOf pp.tableToNode ++ [(id, node.parentId)] := forestOf_addNode
  refine ⟨?_, ?_, ?_, ?_⟩
  · -- the new node is not there yet, and its parent is
    rw [hforest]
    exact hok.grown.snoc (by simpa using hnew) fun q hq => by simpa using hparent q hq
  · intro entry hentry
    obtain ⟨e, he, hkey', hnode⟩ := mem_addNode hentry
    rw [hkey', hnode]
    rcases List.mem_append.mp he with he | he
    · exact hok.keys e he
    · rw [List.mem_singleton.mp he]
      exact hkey
  · -- the root gains the node exactly when it has no parent
    rw [hforest, children_append_singleton]
    cases hp : node.parentId with
    | none => simp [PipelineProcessor.addNode, hok.rootSubtables]
    | some p => simp [PipelineProcessor.addNode, hok.rootSubtables]
  · intro entry hentry
    rw [hforest, children_append_singleton]
    cases hp : node.parentId with
    | none =>
      simp only [hp, PipelineProcessor.addNode] at hentry
      rcases List.mem_append.mp hentry with he | he
      · simp [hok.subtables entry he]
      · rw [List.mem_singleton.mp he]
        simp [hleaf, hnoChildren]
    | some p =>
      simp only [hp, PipelineProcessor.addNode, modifyNode, List.mem_map] at hentry
      obtain ⟨e, he, rfl⟩ := hentry
      have hpNew : p ≠ id := fun h => hnew (h ▸ hparent p hp)
      rcases List.mem_append.mp he with he | he
      · -- the parent gains the node at the end of its subtables
        by_cases hep : e.1 = p
        · simp [hep, hok.subtables e he]
        · simp [hep, hok.subtables e he, Ne.symm hep]
      · rw [List.mem_singleton.mp he]
        simp [hpNew, Ne.symm hpNew, hleaf, hnoChildren]

end AddNode

/-! ## The steps of the processing -/

section Steps

variable {hashOrder : List (P4HeaderType × Bool) → List (P4HeaderType × Bool)}

/-- The parent a node goes under is a table applied, for a node that has one. -/
theorem mem_keys_of_parentNode {pp : PipelineProcessor} {node parent : PipelineNode}
    (h : pp.parentNode node = some parent) {p : Nat} (hp : node.parentId = some p) :
    p ∈ pp.tableToNode.map Prod.fst := by
  unfold PipelineNode.parentId at hp
  split_ifs at hp with hhas
  cases hp
  rw [PipelineProcessor.parentNode, if_pos hhas] at h
  exact List.mem_map.mpr ⟨_, mem_of_lookup_eq_some h, rfl⟩

/-- What a successful `ApplyTable` can do: nothing, when the table's
conditions conflict with its parent's; or add the table's node, with its
conditions merged with the parent's, under a parent that is there and in the
same stage, when the table was not applied yet. -/
theorem applyTable_ok {table : P4ControlTableRef} {node : PipelineNode} {pp pp' : PipelineProcessor}
    (h : applyTable hashOrder table node pp = .ok pp') :
    pp' = pp ∨ ∃ parent validConditions, pp.parentNode node = some parent ∧
      (node.hasParent → node.parent.pipelineStage = table.pipelineStage) ∧
      (hashOrder parent.validConditions.elems).foldlM (insertIfNotConflicting hashOrder)
        node.validConditions = .ok validConditions ∧
      pp.tableToNode.lookup table.tableId = none ∧
      pp' = pp.addNode node.parentId table.tableId
        { node with table := table, validConditions := validConditions, subtables := [] } := by
  unfold applyTable at h
  cases hparent : pp.parentNode node with
  | none => rw [hparent] at h; cases h
  | some parent =>
    rw [hparent] at h
    dsimp only at h
    by_cases hstage : node.hasParent = true ∧ node.parent.pipelineStage ≠ table.pipelineStage
    · rw [if_pos hstage] at h
      cases h
    rw [if_neg hstage] at h
    cases hmerge : (hashOrder parent.validConditions.elems).foldlM (insertIfNotConflicting hashOrder)
        node.validConditions with
    | error e =>
      -- a table whose conditions conflict with its parent's is skipped
      rw [hmerge] at h
      cases h
      exact Or.inl rfl
    | ok validConditions =>
      rw [hmerge] at h
      dsimp only at h
      split_ifs at h with happlied
      cases h
      refine Or.inr ⟨parent, validConditions, rfl, fun hhas => ?_, hmerge,
        Option.not_isSome_iff_eq_none.mp happlied, rfl⟩
      by_contra hne
      exact hstage ⟨hhas, hne⟩

/-- What a successful hit branch checks, and the node it goes on with: the
base node with the hit table as its parent. -/
theorem hitBranchNode_ok {pp : PipelineProcessor} {hitTable : P4ControlTableRef}
    {notOperator hasTrueBlock hasFalseBlock : Bool} {node node' : PipelineNode}
    (h : hitBranchNode pp hitTable notOperator hasTrueBlock hasFalseBlock node = .ok node') :
    (∃ hitNode, pp.tableToNode.lookup hitTable.tableId = some hitNode ∧
      (node.hasParent → node.parent.tableId = hitNode.parent.tableId)) ∧
      node' = { node with parent := hitTable } := by
  unfold hitBranchNode at h
  cases hhit : pp.tableToNode.lookup hitTable.tableId with
  | none => rw [hhit] at h; cases h
  | some hitNode =>
    rw [hhit] at h
    dsimp only at h
    split_ifs at h with hconsistent
    cases h
    refine ⟨⟨hitNode, rfl, fun hhas => ?_⟩, rfl⟩
    by_contra hne
    exact hconsistent ⟨hhas, hne⟩

/-- The node an is-valid branch goes on with: the base node with the
header's validity inserted into its conditions. -/
theorem isValidBranchNode_some {headerType : P4HeaderType} {isValid : Bool}
    {statements : List P4ControlStatement} {node node' : PipelineNode}
    (h : isValidBranchNode hashOrder headerType isValid statements node = some node') :
    ∃ validConditions, insertIfNotConflicting hashOrder node.validConditions (headerType, isValid) =
      .ok validConditions ∧ node' = { node with validConditions := validConditions } := by
  unfold isValidBranchNode at h
  split_ifs at h
  split at h
  · cases h
  · rename_i validConditions hinsert
    cases h
    exact ⟨validConditions, hinsert, rfl⟩

theorem GraphOk.applyTable {pp pp' : PipelineProcessor} (hok : GraphOk pp)
    {table : P4ControlTableRef} {node : PipelineNode}
    (h : applyTable hashOrder table node pp = .ok pp') : GraphOk pp' := by
  rcases applyTable_ok h with rfl | ⟨parent, validConditions, hparent, -, -, hfresh, rfl⟩
  · exact hok
  · exact @GraphOk.addNode pp table.tableId
      { node with table := table, validConditions := validConditions, subtables := [] } hok hfresh
      (fun p hp => mem_keys_of_parentNode hparent hp) rfl rfl

end Steps

/-! ## Runs of the processing -/

section Run

variable (hashOrder : List (P4HeaderType × Bool) → List (P4HeaderType × Bool))
  (P : PipelineProcessor → Prop) (Q : PipelineNode → PipelineProcessor → Prop)

/-- A run of the processing from a base node keeps `P` of the processor, and
`Q` of every node it held of. -/
def RunKeeps (run : PipelineNode → PipelineProcessor → StatusOr PipelineProcessor) : Prop :=
  ∀ node pp pp', P pp → Q node pp → run node pp = .ok pp' →
    P pp' ∧ ∀ node', Q node' pp → Q node' pp'

variable {P Q}

variable (P Q) in
/-- What every `ApplyTable` has to keep. -/
def ApplyKeeps : Prop := ∀ table, RunKeeps P Q (applyTable hashOrder table)

variable (P Q) in
/-- What the node every on-miss branch goes on with has to keep. -/
def HitKeeps : Prop :=
  ∀ pp hitTable notOperator hasTrueBlock hasFalseBlock node node', P pp → Q node pp →
    hitBranchNode pp hitTable notOperator hasTrueBlock hasFalseBlock node = .ok node' → Q node' pp

variable (P Q) in
/-- What the node every is-valid branch goes on with has to keep. -/
def ValidKeeps : Prop :=
  ∀ headerType isValid statements node node' pp, P pp → Q node pp →
    isValidBranchNode hashOrder headerType isValid statements node = some node' → Q node' pp

/-- A run that returns the processor it was given keeps everything. -/
theorem runKeeps_of_returns {run : PipelineNode → PipelineProcessor → StatusOr PipelineProcessor}
    (hrun : ∀ node pp pp', run node pp = .ok pp' → pp' = pp) : RunKeeps P Q run := by
  intro node pp pp' hP _ h
  rw [hrun node pp pp' h]
  exact ⟨hP, fun _ hQ => hQ⟩

/-- Two runs one after the other from the same base node. -/
theorem RunKeeps.seq {run first second : PipelineNode → PipelineProcessor → StatusOr PipelineProcessor}
    (hfirst : RunKeeps P Q first) (hsecond : RunKeeps P Q second)
    (hrun : ∀ node pp pp', run node pp = .ok pp' → ∃ mid, first node pp = .ok mid ∧ second node mid = .ok pp') :
    RunKeeps P Q run := by
  intro node pp pp' hP hQ h
  obtain ⟨mid, hmid, hrest⟩ := hrun node pp pp' h
  obtain ⟨hPmid, hQmid⟩ := hfirst node pp mid hP hQ hmid
  obtain ⟨hP', hQ'⟩ := hsecond node mid pp' hPmid (hQmid node hQ) hrest
  exact ⟨hP', fun node' hnode' => hQ' node' (hQmid node' hnode')⟩

theorem runKeeps_cons {statement : P4ControlStatement} {rest : List P4ControlStatement}
    (hstatement : RunKeeps P Q (processStatement hashOrder statement))
    (hrest : RunKeeps P Q (processControlBlock hashOrder rest)) :
    RunKeeps P Q (processControlBlock hashOrder (statement :: rest)) := by
  refine RunKeeps.seq hstatement hrest fun node pp pp' h => ?_
  simp only [processControlBlock] at h
  cases hfirst : processStatement hashOrder statement node pp with
  | error e => rw [hfirst] at h; cases h
  | ok mid =>
    rw [hfirst] at h
    exact ⟨mid, rfl, h⟩

/-- An on-miss branch keeps what the processing of its on-miss block keeps,
from every node the branch check can give it. -/
theorem runKeeps_hitBranch (hhit : HitKeeps P Q)
    {notOperator : Bool} {hitTable : P4ControlTableRef} {trueBlock falseBlock : Option (List P4ControlStatement)}
    (htrue : RunKeeps P Q (processBlock hashOrder trueBlock))
    (hfalse : RunKeeps P Q (processBlock hashOrder falseBlock)) :
    RunKeeps P Q (processStatement hashOrder (.branch notOperator (.hit hitTable) trueBlock falseBlock)) := by
  intro node pp pp' hP hQ h
  simp only [processStatement] at h
  cases hbranch : hitBranchNode pp hitTable notOperator trueBlock.isSome falseBlock.isSome node with
  | error e => rw [hbranch] at h; cases h
  | ok branchNode =>
    rw [hbranch] at h
    dsimp only at h
    have hQbranch := hhit pp hitTable notOperator _ _ node branchNode hP hQ hbranch
    cases notOperator
    · exact hfalse branchNode pp pp' hP hQbranch h
    · exact htrue branchNode pp pp' hP hQbranch h

/-- An is-valid branch runs the block for a valid header and then the block
for an invalid one, from the same base node. -/
theorem runKeeps_isValidBranch {notOperator : Bool} {headerType : P4HeaderType}
    {trueBlock falseBlock : Option (List P4ControlStatement)}
    (hvalidBlock : RunKeeps P Q
      (processIsValidBranch hashOrder headerType true (if notOperator then falseBlock else trueBlock)))
    (hinvalidBlock : RunKeeps P Q
      (processIsValidBranch hashOrder headerType false (if notOperator then trueBlock else falseBlock))) :
    RunKeeps P Q
      (processStatement hashOrder (.branch notOperator (.isValid headerType) trueBlock falseBlock)) := by
  refine RunKeeps.seq hvalidBlock hinvalidBlock fun node pp pp' h => ?_
  cases notOperator <;>
  · simp only [processStatement] at h
    split at h
    · cases h
    · exact ⟨_, by assumption, h⟩

theorem runKeeps_someBlock {statements : List P4ControlStatement}
    (hblock : RunKeeps P Q (processControlBlock hashOrder statements)) :
    RunKeeps P Q (processBlock hashOrder (some statements)) := by
  intro node pp pp' hP hQ h
  simp only [processBlock] at h
  exact hblock node pp pp' hP hQ h

theorem runKeeps_someIsValidBlock (hvalid : ValidKeeps hashOrder P Q)
    {headerType : P4HeaderType} {isValid : Bool} {statements : List P4ControlStatement}
    (hblock : RunKeeps P Q (processControlBlock hashOrder statements)) :
    RunKeeps P Q (processIsValidBranch hashOrder headerType isValid (some statements)) := by
  intro node pp pp' hP hQ h
  simp only [processIsValidBranch] at h
  cases hnode : isValidBranchNode hashOrder headerType isValid statements node with
  | none =>
    rw [hnode] at h
    cases h
    exact ⟨hP, fun _ hQ' => hQ'⟩
  | some node' =>
    rw [hnode] at h
    exact hblock node' pp pp' hP (hvalid headerType isValid statements node node' pp hP hQ hnode) h

mutual

/-- The run rule of the processing: what every `ApplyTable` keeps, and every
node a branch check gives keeps, every block keeps. -/
theorem runKeeps_processControlBlock (happly : ApplyKeeps hashOrder P Q) (hhit : HitKeeps P Q)
    (hvalid : ValidKeeps hashOrder P Q) : ∀ block, RunKeeps P Q (processControlBlock hashOrder block)
  | [] => runKeeps_of_returns fun _ _ _ h => by
      simp only [processControlBlock, Except.ok.injEq] at h
      exact h.symm
  | statement :: rest => runKeeps_cons hashOrder (runKeeps_processStatement happly hhit hvalid statement)
      (runKeeps_processControlBlock happly hhit hvalid rest)

theorem runKeeps_processStatement (happly : ApplyKeeps hashOrder P Q) (hhit : HitKeeps P Q)
    (hvalid : ValidKeeps hashOrder P Q) : ∀ statement, RunKeeps P Q (processStatement hashOrder statement)
  | .apply table => by
      intro node pp pp' hP hQ h
      simp only [processStatement] at h
      exact happly table node pp pp' hP hQ h
  | .branch _ (.hit _) trueBlock falseBlock =>
      runKeeps_hitBranch hashOrder hhit (runKeeps_processBlock happly hhit hvalid trueBlock)
        (runKeeps_processBlock happly hhit hvalid falseBlock)
  | .branch false (.isValid headerType) trueBlock falseBlock =>
      runKeeps_isValidBranch hashOrder (runKeeps_processIsValidBranch happly hhit hvalid headerType true trueBlock)
        (runKeeps_processIsValidBranch happly hhit hvalid headerType false falseBlock)
  | .branch true (.isValid headerType) trueBlock falseBlock =>
      runKeeps_isValidBranch hashOrder (runKeeps_processIsValidBranch happly hhit hvalid headerType true falseBlock)
        (runKeeps_processIsValidBranch happly hhit hvalid headerType false trueBlock)
  | .branch _ .unknown _ _ | .branch _ .conditionNotSet _ _ | .drop | .returnStatement | .exit
    | .fixedPipeline | .other | .statementNotSet => runKeeps_of_returns fun _ _ _ h => by
      simp only [processStatement, Except.ok.injEq] at h
      exact h.symm

theorem runKeeps_processBlock (happly : ApplyKeeps hashOrder P Q) (hhit : HitKeeps P Q)
    (hvalid : ValidKeeps hashOrder P Q) : ∀ block, RunKeeps P Q (processBlock hashOrder block)
  | none => runKeeps_of_returns fun _ _ _ h => by
      simp only [processBlock, Except.ok.injEq] at h
      exact h.symm
  | some statements => runKeeps_someBlock hashOrder (runKeeps_processControlBlock happly hhit hvalid statements)

theorem runKeeps_processIsValidBranch (happly : ApplyKeeps hashOrder P Q) (hhit : HitKeeps P Q)
    (hvalid : ValidKeeps hashOrder P Q) (headerType : P4HeaderType) (isValid : Bool) : ∀ block, RunKeeps P Q (processIsValidBranch hashOrder headerType isValid block)
  | none => runKeeps_of_returns fun _ _ _ h => by
      simp only [processIsValidBranch, Except.ok.injEq] at h
      exact h.symm
  | some statements =>
      runKeeps_someIsValidBlock hashOrder hvalid (runKeeps_processControlBlock happly hhit hvalid statements)

end

end Run

/-! ## What the processing keeps -/

/-- Every node's conditions keep the header rules. -/
def ConditionsHold (pp : PipelineProcessor) : Prop :=
  ∀ entry ∈ pp.tableToNode, HeaderRulesHold entry.2.validConditions

/-- The parent of a node is the default one, or a table applied. -/
def ParentApplied (tableToNode : List (Nat × PipelineNode)) (node : PipelineNode) : Prop :=
  node.parent = noTable ∨ node.parent.tableId ∈ tableToNode.map Prod.fst

/-- The parent of every node is the default one, or a table applied. -/
def ParentsApplied (pp : PipelineProcessor) : Prop :=
  ∀ entry ∈ pp.tableToNode, ParentApplied pp.tableToNode entry.2

theorem ParentApplied.mono {tableToNode tableToNode' : List (Nat × PipelineNode)} {node : PipelineNode}
    (h : ParentApplied tableToNode node)
    (hkeys : ∀ k ∈ tableToNode.map Prod.fst, k ∈ tableToNode'.map Prod.fst) :
    ParentApplied tableToNode' node :=
  h.imp id (hkeys _)

section Invariants

variable {hashOrder : List (P4HeaderType × Bool) → List (P4HeaderType × Bool)}
  {block : List P4ControlStatement} {node : PipelineNode} {pp pp' : PipelineProcessor}

/-- `ApplyTable` loses no table. -/
theorem mem_keys_applyTable {table : P4ControlTableRef} {node : PipelineNode}
    (h : applyTable hashOrder table node pp = .ok pp') :
    ∀ k ∈ pp.tableToNode.map Prod.fst, k ∈ pp'.tableToNode.map Prod.fst := by
  rcases applyTable_ok h with rfl | ⟨_, _, -, -, -, -, rfl⟩
  · exact fun _ hk => hk
  · intro k hk
    rw [map_fst_addNode]
    exact List.mem_append_left _ hk

/-- The processing keeps the graph invariant. -/
theorem graphOk_processControlBlock (hok : GraphOk pp)
    (h : processControlBlock hashOrder block node pp = .ok pp') : GraphOk pp' :=
  (runKeeps_processControlBlock hashOrder (P := GraphOk) (Q := fun _ _ => True)
    (fun _ _ _ _ hP _ happly => ⟨hP.applyTable happly, fun _ _ => trivial⟩)
    (fun _ _ _ _ _ _ _ _ _ _ => trivial) (fun _ _ _ _ _ _ _ _ _ => trivial)
    block node pp pp' hok trivial h).1

/-- The processing leaves the physical pipeline alone. -/
theorem physicalPipeline_processControlBlock
    (h : processControlBlock hashOrder block node pp = .ok pp') :
    pp'.physicalPipeline = pp.physicalPipeline := by
  refine (runKeeps_processControlBlock hashOrder
    (P := fun q => q.physicalPipeline = pp.physicalPipeline) (Q := fun _ _ => True) ?_
    (fun _ _ _ _ _ _ _ _ _ _ => trivial) (fun _ _ _ _ _ _ _ _ _ => trivial)
    block node pp pp' rfl trivial h).1
  intro table node q q' hq _ happly
  refine ⟨?_, fun _ _ => trivial⟩
  rcases applyTable_ok happly with rfl | ⟨_, _, -, -, -, -, rfl⟩
  · exact hq
  · rw [physicalPipeline_addNode]
    exact hq

/-- The processing keeps the header rules of every node's conditions, when
the hash order visits every entry. -/
theorem conditionsHold_processControlBlock (hperm : ∀ l, (hashOrder l).Perm l)
    (hok : ConditionsHold pp) (hnode : HeaderRulesHold node.validConditions)
    (h : processControlBlock hashOrder block node pp = .ok pp') : ConditionsHold pp' := by
  refine (runKeeps_processControlBlock hashOrder (P := ConditionsHold)
    (Q := fun node _ => HeaderRulesHold node.validConditions) ?_ ?_ ?_
    block node pp pp' hok hnode h).1
  · -- a new node merges its parent's conditions into its own
    intro table node q q' hq hnode happly
    refine ⟨?_, fun _ hnode' => hnode'⟩
    rcases applyTable_ok happly with rfl | ⟨_, _, -, -, hmerge, -, rfl⟩
    · exact hq
    · intro entry hentry
      obtain ⟨e, he, -, hentryNode⟩ := mem_addNode hentry
      rw [hentryNode]
      rcases List.mem_append.mp he with he | he
      · exact hq e he
      · rw [List.mem_singleton.mp he]
        exact headerRulesHold_foldlM_insertIfNotConflicting hperm hnode hmerge
  · intro q hitTable notOperator hasTrueBlock hasFalseBlock node node' _ hnode hbranch
    rw [(hitBranchNode_ok hbranch).2]
    exact hnode
  · intro headerType isValid statements node node' q _ _ hbranch
    obtain ⟨validConditions, hinsert, rfl⟩ := isValidBranchNode_some hbranch
    exact headerRulesHold_insertIfNotConflicting hperm hinsert

/-- The processing keeps the parent of every node the default one or a table
applied: a hit branch goes on only for a table already applied. -/
theorem parentsApplied_processControlBlock (hok : ParentsApplied pp)
    (hnode : ParentApplied pp.tableToNode node)
    (h : processControlBlock hashOrder block node pp = .ok pp') : ParentsApplied pp' := by
  refine (runKeeps_processControlBlock hashOrder (P := ParentsApplied)
    (Q := fun node q => ParentApplied q.tableToNode node) ?_ ?_ ?_
    block node pp pp' hok hnode h).1
  · intro table node q q' hq hnode happly
    have hkeys := mem_keys_applyTable happly
    refine ⟨?_, fun _ hnode' => hnode'.mono hkeys⟩
    rcases applyTable_ok happly with rfl | ⟨_, _, -, -, -, -, rfl⟩
    · exact hq
    · -- the new node keeps the parent of the base node
      intro entry hentry
      obtain ⟨e, he, -, hentryNode⟩ := mem_addNode hentry
      rcases List.mem_append.mp he with he | he
      · exact ParentApplied.mono (by rw [hentryNode]; exact hq e he) hkeys
      · rw [List.mem_singleton.mp he] at hentryNode
        exact ParentApplied.mono (by rw [hentryNode]; exact hnode) hkeys
  · intro q hitTable notOperator hasTrueBlock hasFalseBlock node node' _ _ hbranch
    obtain ⟨⟨hitNode, hlookup, -⟩, rfl⟩ := hitBranchNode_ok hbranch
    exact Or.inr (List.mem_map.mpr ⟨_, mem_of_lookup_eq_some hlookup, rfl⟩)
  · intro headerType isValid statements node node' q _ hnode hbranch
    obtain ⟨validConditions, -, rfl⟩ := isValidBranchNode_some hbranch
    exact hnode

end Invariants

end Stratum.Ports.Pipeline
