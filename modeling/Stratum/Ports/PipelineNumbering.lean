import Stratum.Ports.PipelineGraph
import Stratum.Verified.PairedMaps

/-!
# Priorities and physical tables

`SetPriority` and `AppendToPhysicalTable` are both recursions that visit a
node and then its subtables from the last to the first. On a graph that
keeps `GraphOk` the subtables are the children in the forest of the nodes,
so both are folds along the walks of that forest
(`Stratum.Verified.LinkedForest.eq_foldlM_walk`, `eq_foldl_walk`): the
priorities count down along `walkAll` from the number of tables, and every
physical table is the `tree` of a table under the root. The counter never
runs out, so the internal error of `SetPriority` is never returned.

Main results:

* `setPriority_eq_foldlM`: `SetPriority` numbers the nodes along `walk`;
* `foldlM_numberStep`: with enough priorities left, numbering along a list
  never fails and gives each table its position counted down;
* `setPriorities_eq`: `SetPriorities` succeeds on every graph that keeps
  `GraphOk`, and numbers the tables along `walkAll`;
* `appendToPhysicalTable_eq`: a physical table is the walk of a tree;
* `createInstance_eq`: `CreateInstance` is the processing of the control
  block followed by `laidOut`, and fails exactly when the processing does.
-/

namespace Stratum.Ports.Pipeline

open Stratum.Ports.Status Stratum.Verified.LinkedForest Stratum.Verified.OrderedContainers
open Stratum.Ports.BcmUdfManager (P4HeaderType)

/-! ## Lookups after changes in place -/

theorem lookup_modifyNode (tableToNode : List (Nat × PipelineNode)) (id k : Nat)
    (f : PipelineNode → PipelineNode) :
    (modifyNode tableToNode id f).lookup k =
      (tableToNode.lookup k).map fun node => if k = id then f node else node := by
  unfold modifyNode
  rw [Stratum.Verified.PairedMaps.lookup_map_of_fst_eq (fun e => by by_cases h : e.1 = id <;> simp [h])]
  congr 1
  funext node
  by_cases h : k = id <;> simp [h]

@[simp] theorem subtablesOf_setNodePriority (tableToNode : List (Nat × PipelineNode)) (id : Nat)
    (priority : Int) (k : Nat) :
    subtablesOf (setNodePriority tableToNode id priority) k = subtablesOf tableToNode k := by
  unfold subtablesOf setNodePriority
  rw [lookup_modifyNode, Option.map_map]
  congr 2
  funext node
  by_cases h : k = id <;> simp [h]

/-- In a graph that keeps `GraphOk`, the subtables of every table ID are its
children in the forest. -/
theorem GraphOk.subtablesOf_eq {pp : PipelineProcessor} (hok : GraphOk pp) (k : Nat) :
    subtablesOf pp.tableToNode k = children (forestOf pp.tableToNode) (some k) := by
  have hnodup : (pp.tableToNode.map Prod.fst).Nodup := by simpa using hok.grown.nodup
  unfold subtablesOf
  cases hk : pp.tableToNode.lookup k with
  | none =>
    rw [children_eq_nil_of_not_mem hok.grown (by simpa using lookup_eq_none_iff.mp hk)]
    rfl
  | some node => exact hok.subtables (k, node) (mem_of_lookup_eq_some hk)

/-! ## Numbering -/

/-- One table numbered by `SetPriority`: the counter goes to the node and
goes down, unless it has run out. -/
def numberStep (acc : Int × List (Nat × PipelineNode)) (id : Nat) :
    StatusOr (Int × List (Nat × PipelineNode)) :=
  if acc.1 ≤ 0 then .error tooManyTables else .ok (acc.1 - 1, setNodePriority acc.2 id acc.1)

/-- The node map with every table of `order` given its position in `order`
counted down from `priority`. -/
def numbered (order : List Nat) (priority : Int) (tableToNode : List (Nat × PipelineNode)) :
    List (Nat × PipelineNode) :=
  tableToNode.map fun entry =>
    if entry.1 ∈ order then (entry.1, { entry.2 with priority := priority - order.idxOf entry.1 })
    else entry

theorem lookup_numbered (order : List Nat) (priority : Int) (tableToNode : List (Nat × PipelineNode))
    (k : Nat) :
    (numbered order priority tableToNode).lookup k = (tableToNode.lookup k).map fun node =>
      if k ∈ order then { node with priority := priority - order.idxOf k } else node := by
  unfold numbered
  rw [Stratum.Verified.PairedMaps.lookup_map_of_fst_eq (fun e => by by_cases h : e.1 ∈ order <;> simp [h])]
  congr 1
  funext node
  by_cases h : k ∈ order <;> simp [h]

/-- Numbering changes the priorities only. -/
theorem numbered_eq_map (order : List Nat) (priority : Int) (tableToNode : List (Nat × PipelineNode)) :
    numbered order priority tableToNode = tableToNode.map fun entry =>
      (entry.1, { entry.2 with priority := (if entry.1 ∈ order then
        priority - order.idxOf entry.1 else entry.2.priority) }) := by
  unfold numbered
  apply List.map_congr_left
  intro entry _
  by_cases h : entry.1 ∈ order <;> simp [h]

/-- Numbering along a list with enough priorities left never fails, and
gives each table its position counted down. -/
theorem foldlM_numberStep :
    ∀ {order : List Nat} {priority : Int} {tableToNode : List (Nat × PipelineNode)},
      order.Nodup → (order.length : Int) ≤ priority →
      order.foldlM numberStep (priority, tableToNode) =
        .ok (priority - order.length, numbered order priority tableToNode)
  | [], priority, tableToNode, _, _ => by
    simp [numbered, pure, Except.pure]
  | x :: rest, priority, tableToNode, hnodup, hlength => by
    rw [List.nodup_cons] at hnodup
    have hpos : ¬priority ≤ 0 := by
      simp only [List.length_cons, Nat.cast_add, Nat.cast_one] at hlength
      omega
    rw [List.foldlM_cons, numberStep, if_neg hpos]
    show rest.foldlM numberStep (priority - 1, setNodePriority tableToNode x priority) = _
    rw [foldlM_numberStep hnodup.2 (by simp only [List.length_cons, Nat.cast_add, Nat.cast_one] at hlength; omega)]
    congr 2
    · simp only [List.length_cons, Nat.cast_add, Nat.cast_one]
      omega
    -- the head gets the counter, and every other table one place further down
    unfold numbered setNodePriority modifyNode
    rw [List.map_map]
    apply List.map_congr_left
    intro entry _
    by_cases hx : entry.1 = x
    · simp [hx, hnodup.1]
    · by_cases hrest : entry.1 ∈ rest
      · have hidx : (x :: rest).idxOf entry.1 = rest.idxOf entry.1 + 1 :=
          List.idxOf_cons_ne rest (Ne.symm hx)
        simp only [Function.comp_apply, hx, if_false, hrest, if_true, List.mem_cons, or_true, hidx,
          Nat.cast_add, Nat.cast_one]
        congr 2
        omega
      · simp [hx, hrest]

/-! ## `SetPriority` and `SetPriorities` -/

section Walks

variable {forest : List (Nat × Option Nat)}

/-- The invariant of the numbering: the subtables are the children in the
forest. -/
def SubtablesAre (forest : List (Nat × Option Nat)) (acc : Int × List (Nat × PipelineNode)) : Prop :=
  ∀ k, subtablesOf acc.2 k = children forest (some k)

theorem subtablesAre_numberStep {acc acc' : Int × List (Nat × PipelineNode)} {id : Nat}
    (hacc : SubtablesAre forest acc) (h : numberStep acc id = .ok acc') : SubtablesAre forest acc' := by
  unfold numberStep at h
  split_ifs at h
  cases h
  intro k
  rw [subtablesOf_setNodePriority]
  exact hacc k

/-- One level of `SetPriority`: number the node, then its subtables, which
are its children, from the last to the first. -/
theorem setPriority_succ (fuel id : Nat) {acc : Int × List (Nat × PipelineNode)}
    (hacc : SubtablesAre forest acc) :
    setPriority (fuel + 1) acc.1 id acc.2 = numberStep acc id >>= fun acc' =>
      (children forest (some id)).reverse.foldlM (fun acc c => setPriority fuel acc.1 c acc.2) acc' := by
  simp only [setPriority, numberStep]
  split_ifs
  · rfl
  · simp only [subtablesOf_setNodePriority, hacc id, bind, Except.bind]

/-- `SetPriority` is the numbering fold along the walk of the node. -/
theorem setPriority_eq_foldlM :
    ∀ (fuel : Nat) (id : Nat) (acc : Int × List (Nat × PipelineNode)), id ∈ labels forest →
      SubtablesAre forest acc →
      setPriority fuel acc.1 id acc.2 = (walk forest fuel id).foldlM numberStep acc :=
  eq_foldlM_walk (SubtablesAre forest) numberStep (fun fuel id acc => setPriority fuel acc.1 id acc.2)
    (fun _ _ _ hacc h => subtablesAre_numberStep hacc h) (fun _ _ => rfl)
    (fun fuel id _ _ hacc => setPriority_succ fuel id hacc)

/-- `SetPriority` over a list of nodes from the last to the first, as a
numbering fold along their walks. -/
theorem foldlM_setPriority_eq (fuel : Nat) :
    ∀ (ids : List Nat) (acc : Int × List (Nat × PipelineNode)), (∀ id ∈ ids, id ∈ labels forest) →
      SubtablesAre forest acc →
      ids.foldlM (fun acc id => setPriority fuel acc.1 id acc.2) acc =
        (ids.flatMap (walk forest fuel)).foldlM numberStep acc :=
  foldlM_eq_foldlM_flatMap_walk (SubtablesAre forest) numberStep
    (fun fuel id acc => setPriority fuel acc.1 id acc.2)
    (fun _ _ _ hacc h => subtablesAre_numberStep hacc h) (fun _ _ => rfl)
    (fun fuel id _ _ hacc => setPriority_succ fuel id hacc) fuel

end Walks

/-- `SetPriorities` succeeds on every graph that keeps `GraphOk`: the
counter starts at the number of tables, and the walk of the forest visits
each table once, so it numbers the tables along `walkAll`. -/
theorem setPriorities_eq {pp : PipelineProcessor} (hok : GraphOk pp) :
    pp.setPriorities = .ok { pp with
      tableToNode := numbered (walkAll (forestOf pp.tableToNode)) pp.tableToNode.length pp.tableToNode } := by
  set forest := forestOf pp.tableToNode with hforest
  have hsubtables : SubtablesAre forest ((pp.tableToNode.length : Int), pp.tableToNode) :=
    fun k => hok.subtablesOf_eq k
  have hroots : ∀ c ∈ (children forest none).reverse, c ∈ labels forest :=
    fun c hc => mem_labels_of_mem (mem_children.mp (List.mem_reverse.mp hc))
  have hlength : (walkAll forest).length = pp.tableToNode.length := by
    rw [(walkAll_perm hok.grown).length_eq, labels_forestOf, List.length_map]
  -- the roots one after another, each with its tree: the walk of the forest
  have hwalk : (children forest none).reverse.flatMap (walk forest pp.tableToNode.length) =
      walkAll forest := by
    rw [walkAll]
    congr 1
    funext root
    rw [tree, hforest, length_forestOf]
  have hfold := foldlM_setPriority_eq pp.tableToNode.length _ _ hroots hsubtables
  rw [hwalk, foldlM_numberStep (nodup_walkAll hok.grown) (by rw [hlength])] at hfold
  unfold PipelineProcessor.setPriorities
  rw [hok.rootSubtables, ← hforest, hfold]
  rfl

@[simp] theorem subtablesOf_numbered (order : List Nat) (priority : Int)
    (tableToNode : List (Nat × PipelineNode)) (k : Nat) :
    subtablesOf (numbered order priority tableToNode) k = subtablesOf tableToNode k := by
  unfold subtablesOf
  rw [lookup_numbered, Option.map_map]
  congr 2
  funext node
  by_cases h : k ∈ order <;> simp [h]

/-! ## Physical tables -/

/-- The entry of the physical pipeline for a table ID: the table of its
node. -/
def tableEntry (tableToNode : List (Nat × PipelineNode)) (id : Nat) : Option PipelineTable :=
  (tableToNode.lookup id).map nodeToTable

/-- Appending the entries of a list one by one appends the entries there are. -/
theorem foldl_append_toList {α β : Type} (f : α → Option β) :
    ∀ (l : List α) (acc : List β), l.foldl (fun acc a => acc ++ (f a).toList) acc = acc ++ l.filterMap f
  | [], acc => by simp
  | a :: l, acc => by
    rw [List.foldl_cons, foldl_append_toList f l, List.filterMap_cons]
    cases f a <;> simp

/-- In a node map whose subtables are the children in a forest over its
table IDs, `AppendToPhysicalTable` appends the entries of the walk of the
node. -/
theorem appendToPhysicalTable_eq {tableToNode : List (Nat × PipelineNode)}
    {forest : List (Nat × Option Nat)}
    (hsub : ∀ k, subtablesOf tableToNode k = children forest (some k))
    (hkeys : ∀ x ∈ labels forest, (tableToNode.lookup x).isSome) (fuel x : Nat)
    (acc : List PipelineTable) (hx : x ∈ labels forest) :
    appendToPhysicalTable tableToNode fuel x acc =
      acc ++ (walk forest fuel x).filterMap (tableEntry tableToNode) := by
  rw [eq_foldl_walk (fun acc id => acc ++ (tableEntry tableToNode id).toList)
    (fun fuel x acc => appendToPhysicalTable tableToNode fuel x acc) (fun _ _ => rfl) ?_ fuel x acc hx,
    foldl_append_toList]
  -- the node is there, and its subtables are its children
  intro fuel x acc hx
  obtain ⟨node, hnode⟩ := Option.isSome_iff_exists.mp (hkeys x hx)
  have hchildren : node.subtables = children forest (some x) := by
    have hx' := hsub x
    simp only [subtablesOf, hnode, Option.map_some, Option.getD_some] at hx'
    exact hx'
  simp only [appendToPhysicalTable, hnode, tableEntry, hchildren, Option.map_some, Option.toList_some]

/-- What `SetPriorities` and `PopulatePhysicalPipeline` make of a processed
graph: the tables numbered down along the walk of the forest, and for each
table under the root, in the order it was applied, the entries of its
tree. -/
def laidOut (pp : PipelineProcessor) : PipelineProcessor :=
  let forest := forestOf pp.tableToNode
  let tableToNode := numbered (walkAll forest) pp.tableToNode.length pp.tableToNode
  { pp with
    tableToNode := tableToNode
    physicalPipeline := pp.physicalPipeline ++
      (children forest none).map fun root => (tree forest root).filterMap (tableEntry tableToNode) }

/-- On a graph that keeps `GraphOk`, `SetPriorities` and then
`PopulatePhysicalPipeline` lay the graph out. -/
theorem populatePhysicalPipeline_setPriorities {pp : PipelineProcessor} (hok : GraphOk pp) :
    (do let pp ← pp.setPriorities; pure pp.populatePhysicalPipeline : StatusOr PipelineProcessor) =
      .ok (laidOut pp) := by
  set forest := forestOf pp.tableToNode with hforest
  set tableToNode := numbered (walkAll forest) pp.tableToNode.length pp.tableToNode with htable
  have hsub : ∀ k, subtablesOf tableToNode k = children forest (some k) := fun k => by
    rw [htable, subtablesOf_numbered]
    exact hok.subtablesOf_eq k
  have hkeys : ∀ x ∈ labels forest, (tableToNode.lookup x).isSome := fun x hx => by
    rw [htable, lookup_numbered, Option.isSome_map]
    rw [hforest, labels_forestOf] at hx
    obtain ⟨entry, hentry, rfl⟩ := List.mem_map.mp hx
    exact Option.isSome_iff_exists.mpr
      ⟨entry.2, lookup_eq_some_of_mem (by simpa using hok.grown.nodup) hentry⟩
  have hlength : tableToNode.length = forest.length := by simp [htable, hforest, numbered]
  -- every physical table is the walk of the tree of a table under the root
  have hphysical : (children forest none).map (fun subtable =>
      appendToPhysicalTable tableToNode tableToNode.length subtable []) =
      (children forest none).map fun root => (tree forest root).filterMap (tableEntry tableToNode) := by
    apply List.map_congr_left
    intro root hroot
    rw [hlength, appendToPhysicalTable_eq hsub hkeys _ _ _
      (mem_labels_of_mem (mem_children.mp hroot)), List.nil_append, tree]
  rw [setPriorities_eq hok]
  simp only [bind, Except.bind, pure, Except.pure, PipelineProcessor.populatePhysicalPipeline, laidOut,
    ← hforest, ← htable]
  rw [hok.rootSubtables, ← hforest, hphysical]

/-- `CreateInstance` is the processing of the control block followed by the
layout: it fails exactly when the processing does, with its error, and the
internal error of `SetPriorities` is never returned. -/
theorem createInstance_eq (hashOrder : List (P4HeaderType × Bool) → List (P4HeaderType × Bool))
    (block : List P4ControlStatement) :
    createInstance hashOrder block =
      (processControlBlock hashOrder block PipelineProcessor.new.root PipelineProcessor.new).map laidOut := by
  unfold createInstance
  cases hproc : processControlBlock hashOrder block PipelineProcessor.new.root PipelineProcessor.new with
  | error e => rfl
  | ok pp =>
    show (do let pp ← pp.setPriorities; pure pp.populatePhysicalPipeline) = Except.ok (laidOut pp)
    exact populatePhysicalPipeline_setPriorities (graphOk_processControlBlock GraphOk.new hproc)

end Stratum.Ports.Pipeline
