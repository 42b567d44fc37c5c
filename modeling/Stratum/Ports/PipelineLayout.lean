import Stratum.Ports.PipelineNumbering

/-!
# The layout of the ACL pipeline

What `PhysicalPipeline()` holds after `CreateInstance`, stated on the tables
`ApplyTable` recorded and on the on-miss parent recorded with each: every
table once, with the priorities `1` to the number of tables; one physical
table for each table applied outside every `if (!t.hit)` block, in apply
order, holding it and the tables applied inside the on-miss blocks of its
tables; priorities that go down along a physical table, from a table to the
tables under it, and from a later sibling to an earlier one and everything
under it; and conditions that keep the header rules.

The on-miss parent of a table is the table of the innermost `if (!t.hit)`
block it was applied in, which `ProcessHitBranch` stores as the node's
`parent`; outside such blocks the node keeps the default parent of the root.
The code itself tells the two apart by `has_parent()`, a nonzero table ID, so
the layout follows the on-miss blocks as long as no table applied has table
ID 0 (`layout_breaks_on_table_id_zero`).

Main results:

* `layoutWellFormed_laidOut`: the layout of every graph the processing
  builds;
* `acl_pipeline_layout`: the layout of every pipeline `CreateInstance`
  returns whose tables have nonzero IDs.
-/

namespace Stratum.Ports.Pipeline

open Stratum.Ports.Status Stratum.Verified.LinkedForest Stratum.Verified.OrderedContainers
open Stratum.Ports.BcmUdfManager (P4HeaderType)

/-! ## What the layout is stated on -/

/-- The tables `ApplyTable` recorded, in the order it recorded them. -/
def PipelineProcessor.appliedTables (pp : PipelineProcessor) : List P4ControlTableRef :=
  pp.tableToNode.map fun entry => entry.2.table

/-- The on-miss parent recorded with a node: the table ID of its `parent`,
unless that is the default parent of the root. -/
def PipelineNode.missParent (node : PipelineNode) : Option Nat :=
  if node.parent = noTable then none else some node.parent.tableId

/-- The on-miss parent of the table with ID `id`. -/
def PipelineProcessor.missParent (pp : PipelineProcessor) (id : Nat) : Option Nat :=
  (pp.tableToNode.lookup id).bind PipelineNode.missParent

/-- Table `d` was applied inside the on-miss blocks of table `a`, directly or
through other tables. -/
def PipelineProcessor.IsMissDescendant (pp : PipelineProcessor) (d a : Nat) : Prop :=
  Relation.TransGen (fun c p => pp.missParent c = some p) d a

/-- The tables of all the physical tables. -/
def PipelineProcessor.physicalTables (pp : PipelineProcessor) : List PipelineTable :=
  pp.physicalPipeline.flatten

/-- The layout of the physical pipeline. -/
structure LayoutWellFormed (pp : PipelineProcessor) : Prop where
  tables_perm : (pp.physicalTables.map PipelineTable.table).Perm pp.appliedTables
  tables_nodup : pp.appliedTables.Nodup
  priorities_perm : (pp.physicalTables.map PipelineTable.priority).Perm
    ((List.range' 1 pp.appliedTables.length).map fun (i : Nat) => (i : Int))
  physical_tables : ∀ physicalTable ∈ pp.physicalPipeline, ∃ first rest,
    physicalTable = first :: rest ∧ pp.missParent first.table.tableId = none ∧
    ∀ t ∈ pp.appliedTables, t ∈ physicalTable.map PipelineTable.table ↔
      t = first.table ∨ pp.IsMissDescendant t.tableId first.table.tableId
  first_tables : pp.physicalPipeline.map (fun physicalTable => physicalTable.head?.map PipelineTable.table) =
    (pp.appliedTables.filter fun t => pp.missParent t.tableId = none).map some
  priorities_decrease : ∀ physicalTable ∈ pp.physicalPipeline,
    (physicalTable.map PipelineTable.priority).Pairwise (· > ·)
  ancestors_higher : ∀ a ∈ pp.physicalTables, ∀ d ∈ pp.physicalTables,
    pp.IsMissDescendant d.table.tableId a.table.tableId → d.priority < a.priority
  later_siblings_higher : ∀ a ∈ pp.physicalTables, ∀ b ∈ pp.physicalTables,
    pp.missParent a.table.tableId = pp.missParent b.table.tableId →
    [a.table, b.table].Sublist pp.appliedTables →
    ∀ d ∈ pp.physicalTables, (d.table = a.table ∨ pp.IsMissDescendant d.table.tableId a.table.tableId) →
      d.priority < b.priority
  header_rules : ∀ t ∈ pp.physicalTables, HeaderRulesHold t.validConditions

/-! ## The laid-out graph -/

/-- The table the layout makes of a table ID: the table and conditions of
its node, with its position in the walk of the forest counted down from the
number of tables. -/
def placedTable (graph : PipelineProcessor) (id : Nat) : PipelineTable :=
  let node := (graph.tableToNode.lookup id).getD .empty
  ⟨node.table, node.validConditions,
    graph.tableToNode.length - (walkAll (forestOf graph.tableToNode)).idxOf id⟩

/-- Where the layout places a table ID: its position in the walk of the
forest, counted down from the number of tables. -/
theorem placedTable_priority (graph : PipelineProcessor) (id : Nat) :
    (placedTable graph id).priority =
      graph.tableToNode.length - (walkAll (forestOf graph.tableToNode)).idxOf id := rfl

section LaidOut

variable {graph : PipelineProcessor} (hok : GraphOk graph)
include hok

theorem GraphOk.nodup_keys : (graph.tableToNode.map Prod.fst).Nodup := by
  simpa using hok.grown.nodup

theorem GraphOk.lookup_of_mem {entry : Nat × PipelineNode} (h : entry ∈ graph.tableToNode) :
    graph.tableToNode.lookup entry.1 = some entry.2 :=
  lookup_eq_some_of_mem hok.nodup_keys h

/-- A table ID of the graph is the ID of the table of its node. -/
theorem GraphOk.tableId_placedTable {id : Nat} (hid : id ∈ labels (forestOf graph.tableToNode)) :
    (placedTable graph id).table.tableId = id := by
  rw [labels_forestOf] at hid
  obtain ⟨entry, hentry, rfl⟩ := List.mem_map.mp hid
  simp [placedTable, hok.lookup_of_mem hentry, hok.keys entry hentry]

/-- The layout's entry for every table ID of the graph is its placed table. -/
theorem GraphOk.tableEntry_laidOut {id : Nat} (hid : id ∈ labels (forestOf graph.tableToNode)) :
    tableEntry (laidOut graph).tableToNode id = some (placedTable graph id) := by
  have hwalk : id ∈ walkAll (forestOf graph.tableToNode) := (mem_walkAll hok.grown).mpr hid
  rw [labels_forestOf] at hid
  obtain ⟨entry, hentry, rfl⟩ := List.mem_map.mp hid
  simp [laidOut, tableEntry, lookup_numbered, hok.lookup_of_mem hentry, hwalk, placedTable, nodeToTable]

/-- The tree of a node of the forest holds nodes of the forest only. -/
theorem GraphOk.mem_labels_of_mem_tree {root id : Nat} (hroot : root ∈ labels (forestOf graph.tableToNode))
    (hid : id ∈ tree (forestOf graph.tableToNode) root) : id ∈ labels (forestOf graph.tableToNode) := by
  rcases (mem_tree hok.grown hroot).mp hid with rfl | hdesc
  · exact hroot
  · obtain ⟨c, hc, _⟩ := Relation.TransGen.head'_iff.mp hdesc
    exact mem_labels_of_mem hc

/-- The physical pipeline of the layout: for each table under the root, the
placed tables of its tree. -/
theorem GraphOk.physicalPipeline_laidOut (hempty : graph.physicalPipeline = []) :
    (laidOut graph).physicalPipeline = (children (forestOf graph.tableToNode) none).map fun root =>
      (tree (forestOf graph.tableToNode) root).map (placedTable graph) := by
  simp only [laidOut, hempty, List.nil_append]
  apply List.map_congr_left
  intro root hroot
  have hrootLabel := mem_labels_of_mem (mem_children.mp hroot)
  exact List.filterMap_eq_map_iff_forall_eq_some.mpr fun id hid =>
    hok.tableEntry_laidOut (hok.mem_labels_of_mem_tree hrootLabel hid)

theorem GraphOk.physicalTables_laidOut (hempty : graph.physicalPipeline = []) :
    (laidOut graph).physicalTables =
      ((children (forestOf graph.tableToNode) none).flatMap (tree (forestOf graph.tableToNode))).map
        (placedTable graph) := by
  rw [PipelineProcessor.physicalTables, hok.physicalPipeline_laidOut hempty, List.map_flatMap,
    List.flatMap_def]

/-- Every table of the layout is the placed table of a table ID of the
graph. -/
theorem GraphOk.mem_physicalTables_laidOut (hempty : graph.physicalPipeline = []) {t : PipelineTable}
    (ht : t ∈ (laidOut graph).physicalTables) :
    t.table.tableId ∈ labels (forestOf graph.tableToNode) ∧ t = placedTable graph t.table.tableId := by
  rw [hok.physicalTables_laidOut hempty] at ht
  obtain ⟨id, hid, rfl⟩ := List.mem_map.mp ht
  obtain ⟨root, hroot, hidRoot⟩ := List.mem_flatMap.mp hid
  have hidLabel := hok.mem_labels_of_mem_tree (mem_labels_of_mem (mem_children.mp hroot)) hidRoot
  rw [hok.tableId_placedTable hidLabel]
  exact ⟨hidLabel, rfl⟩

/-- The table ID of the placed table of a table ID is the table ID. -/
theorem GraphOk.map_tableId_placedTable :
    (labels (forestOf graph.tableToNode)).map
      (P4ControlTableRef.tableId ∘ fun id => (placedTable graph id).table) =
      labels (forestOf graph.tableToNode) := by
  conv_rhs => rw [← List.map_id (labels (forestOf graph.tableToNode))]
  exact List.map_congr_left fun id hid => hok.tableId_placedTable hid

theorem GraphOk.appliedTables_laidOut :
    (laidOut graph).appliedTables = (labels (forestOf graph.tableToNode)).map fun id =>
      (placedTable graph id).table := by
  rw [labels_forestOf, List.map_map]
  simp only [PipelineProcessor.appliedTables, laidOut, numbered_eq_map, List.map_map]
  apply List.map_congr_left
  intro entry hentry
  simp [placedTable, hok.lookup_of_mem hentry]

/-- The tables of the layout are the tables of the graph. -/
theorem GraphOk.mem_appliedTables_laidOut {entry : Nat × PipelineNode} (hentry : entry ∈ graph.tableToNode) :
    entry.2.table ∈ (laidOut graph).appliedTables := by
  rw [hok.appliedTables_laidOut, labels_forestOf, List.map_map]
  exact List.mem_map.mpr ⟨entry, hentry, by simp [placedTable, hok.lookup_of_mem hentry]⟩

theorem tables_nodup_laidOut : (laidOut graph).appliedTables.Nodup := by
  rw [hok.appliedTables_laidOut]
  refine List.Nodup.of_map P4ControlTableRef.tableId ?_
  rw [List.map_map, hok.map_tableId_placedTable]
  exact hok.grown.nodup

end LaidOut

/-! ## The on-miss parents of the layout -/

section MissParents

variable {graph : PipelineProcessor} (hok : GraphOk graph) (hparents : ParentsApplied graph)
  (hnonzero : ∀ entry ∈ graph.tableToNode, entry.1 ≠ 0)
include hok hparents hnonzero

omit hok in
/-- With no table ID 0 applied, the on-miss parent recorded with a node is the
parent the code goes by. -/
theorem missParent_eq_parentId {entry : Nat × PipelineNode} (hentry : entry ∈ graph.tableToNode) :
    entry.2.missParent = entry.2.parentId := by
  unfold PipelineNode.missParent PipelineNode.parentId PipelineNode.hasParent
  rcases hparents entry hentry with hdefault | happlied
  · simp [hdefault, noTable]
  · -- the parent is a table applied, so its table ID is not 0
    obtain ⟨parentEntry, hparentEntry, hkey⟩ := List.mem_map.mp happlied
    have hne : entry.2.parent.tableId ≠ 0 := hkey ▸ hnonzero parentEntry hparentEntry
    have hnotDefault : entry.2.parent ≠ noTable := fun h => hne (by rw [h]; rfl)
    simp [hnotDefault, hne]

/-- The on-miss parent relation of the layout is the parent relation of the
forest. -/
theorem missParent_laidOut_eq_some_iff {c p : Nat} :
    (laidOut graph).missParent c = some p ↔ (c, some p) ∈ forestOf graph.tableToNode := by
  have hmissParent : (laidOut graph).missParent c =
      (graph.tableToNode.lookup c).bind PipelineNode.parentId := by
    simp only [PipelineProcessor.missParent, laidOut, lookup_numbered, Option.bind_map]
    cases hc : graph.tableToNode.lookup c with
    | none => rfl
    | some node =>
      have hentry : (c, node) ∈ graph.tableToNode := mem_of_lookup_eq_some hc
      simp only [Option.bind_some, Function.comp_apply]
      split_ifs <;> exact missParent_eq_parentId hparents hnonzero hentry
  rw [hmissParent, forestOf, List.mem_map]
  constructor
  · intro h
    obtain ⟨node, hc, hp⟩ := Option.bind_eq_some_iff.mp h
    exact ⟨(c, node), mem_of_lookup_eq_some hc, by simp [hp]⟩
  · rintro ⟨entry, hentry, heq⟩
    rw [Prod.mk.injEq] at heq
    rw [← heq.1, hok.lookup_of_mem hentry]
    exact heq.2

theorem isMissDescendant_laidOut_iff {d a : Nat} :
    (laidOut graph).IsMissDescendant d a ↔ IsDescendant (forestOf graph.tableToNode) d a := by
  unfold PipelineProcessor.IsMissDescendant IsDescendant
  have hrel : (fun c p => (laidOut graph).missParent c = some p) =
      fun c p => (c, some p) ∈ forestOf graph.tableToNode := by
    funext c p
    exact propext (missParent_laidOut_eq_some_iff hok hparents hnonzero)
  rw [hrel]

/-- The on-miss parent of a table of the layout is its parent in the forest. -/
theorem missParent_laidOut_of_mem {c : Nat} {q : Option Nat} (h : (c, q) ∈ forestOf graph.tableToNode) :
    (laidOut graph).missParent c = q := by
  cases q with
  | some p => exact (missParent_laidOut_eq_some_iff hok hparents hnonzero).mpr h
  | none =>
    cases hc : (laidOut graph).missParent c with
    | none => rfl
    | some p =>
      have hp := (missParent_laidOut_eq_some_iff hok hparents hnonzero).mp hc
      exact absurd (parent_unique hok.grown h hp) (by simp)

end MissParents

/-! ## The layout of a processed graph -/

/-- Counting down from `n` gives `n, …, 1`. -/
theorem map_range_countdown (n : Nat) :
    (List.range n).map (fun (i : Nat) => (n : Int) - i) =
      ((List.range' 1 n).map fun (i : Nat) => (i : Int)).reverse := by
  induction n with
  | zero => rfl
  | succ n ih =>
    rw [List.range_succ_eq_map, List.map_cons, List.map_map, List.range'_concat, List.map_append,
      List.reverse_append, ← ih]
    -- one more table shifts every later position by one
    have hshift : ((fun (i : Nat) => ((n + 1 : Nat) : Int) - i) ∘ Nat.succ) =
        fun (i : Nat) => (n : Int) - i := by
      funext i
      simp only [Function.comp_apply, Nat.cast_succ]
      omega
    rw [hshift]
    simp only [List.map_cons, List.map_nil, List.reverse_cons, List.reverse_nil, List.nil_append,
      List.singleton_append, Nat.cast_zero, Int.sub_zero]
    congr 1
    omega

section Layout

variable {graph : PipelineProcessor} (hok : GraphOk graph)
  (hempty : graph.physicalPipeline = [])
include hok hempty

theorem tables_perm_laidOut :
    ((laidOut graph).physicalTables.map PipelineTable.table).Perm (laidOut graph).appliedTables := by
  rw [hok.physicalTables_laidOut hempty, hok.appliedTables_laidOut, List.map_map]
  exact (flatMap_tree_perm_walkAll.trans (walkAll_perm hok.grown)).map _

theorem priorities_perm_laidOut :
    ((laidOut graph).physicalTables.map PipelineTable.priority).Perm
      ((List.range' 1 (laidOut graph).appliedTables.length).map fun (i : Nat) => (i : Int)) := by
  have hlength : (walkAll (forestOf graph.tableToNode)).length = graph.tableToNode.length := by
    rw [(walkAll_perm hok.grown).length_eq, labels_forestOf, List.length_map]
  have happlied : (laidOut graph).appliedTables.length = graph.tableToNode.length := by
    rw [hok.appliedTables_laidOut, List.length_map, labels_forestOf, List.length_map]
  -- the walk of the forest, read off position by position, counts down from the number of tables
  have hcount : (walkAll (forestOf graph.tableToNode)).map (fun id => (placedTable graph id).priority) =
      (List.range graph.tableToNode.length).map fun (i : Nat) => (graph.tableToNode.length : Int) - i := by
    have hpositions := map_idxOf_eq_map_range (fun (i : Nat) => (graph.tableToNode.length : Int) - i)
      (nodup_walkAll hok.grown)
    rw [hlength] at hpositions
    exact hpositions
  rw [hok.physicalTables_laidOut hempty, List.map_map, happlied]
  refine (flatMap_tree_perm_walkAll.map _).trans ?_
  rw [Function.comp_def, hcount, map_range_countdown]
  exact List.reverse_perm _

theorem priorities_decrease_laidOut :
    ∀ physicalTable ∈ (laidOut graph).physicalPipeline,
      (physicalTable.map PipelineTable.priority).Pairwise (· > ·) := by
  intro physicalTable hphysical
  rw [hok.physicalPipeline_laidOut hempty] at hphysical
  obtain ⟨root, hroot, rfl⟩ := List.mem_map.mp hphysical
  have hrootLabel := mem_labels_of_mem (mem_children.mp hroot)
  -- a tree is a contiguous part of the walk, so its positions go up along it
  have hpositions := pairwise_idxOf_lt_of_infix (nodup_walkAll hok.grown) (infix_walkAll hok.grown hrootLabel)
  rw [List.map_map, List.pairwise_map]
  refine hpositions.imp fun hlt => ?_
  simp only [Function.comp_apply, placedTable_priority]
  omega

theorem header_rules_laidOut (hconditions : ConditionsHold graph) :
    ∀ t ∈ (laidOut graph).physicalTables, HeaderRulesHold t.validConditions := by
  intro t ht
  obtain ⟨hid, ht'⟩ := hok.mem_physicalTables_laidOut hempty ht
  rw [labels_forestOf] at hid
  obtain ⟨entry, hentry, hkey⟩ := List.mem_map.mp hid
  have hlookup : graph.tableToNode.lookup t.table.tableId = some entry.2 := by
    rw [← hkey]
    exact hok.lookup_of_mem hentry
  rw [ht']
  simp only [placedTable, hlookup, Option.getD_some]
  exact hconditions entry hentry

variable (hparents : ParentsApplied graph) (hnonzero : ∀ entry ∈ graph.tableToNode, entry.1 ≠ 0)
include hparents hnonzero

theorem physical_tables_laidOut :
    ∀ physicalTable ∈ (laidOut graph).physicalPipeline, ∃ first rest,
      physicalTable = first :: rest ∧ (laidOut graph).missParent first.table.tableId = none ∧
      ∀ t ∈ (laidOut graph).appliedTables, t ∈ physicalTable.map PipelineTable.table ↔
        t = first.table ∨ (laidOut graph).IsMissDescendant t.tableId first.table.tableId := by
  intro physicalTable hphysical
  rw [hok.physicalPipeline_laidOut hempty] at hphysical
  obtain ⟨root, hroot, rfl⟩ := List.mem_map.mp hphysical
  have hrootForest := mem_children.mp hroot
  have hrootLabel := mem_labels_of_mem hrootForest
  have hrootId := hok.tableId_placedTable hrootLabel
  rw [tree_eq hok.grown hrootLabel, List.map_cons]
  refine ⟨placedTable graph root, _, rfl, ?_, ?_⟩
  · rw [hrootId]
    exact missParent_laidOut_of_mem hok hparents hnonzero hrootForest
  · -- a table applied is in the physical table exactly when its ID is in the tree
    intro t ht
    rw [hok.appliedTables_laidOut] at ht
    obtain ⟨k, hk, rfl⟩ := List.mem_map.mp ht
    have hkId := hok.tableId_placedTable hk
    have htableEq : ∀ {a b : Nat}, a ∈ labels (forestOf graph.tableToNode) →
        b ∈ labels (forestOf graph.tableToNode) →
        ((placedTable graph a).table = (placedTable graph b).table ↔ a = b) := by
      intro a b ha hb
      refine ⟨fun h => ?_, fun h => h ▸ rfl⟩
      rw [← hok.tableId_placedTable ha, ← hok.tableId_placedTable hb, h]
    rw [← List.map_cons, ← tree_eq hok.grown hrootLabel, List.map_map, hkId, hrootId,
      isMissDescendant_laidOut_iff hok hparents hnonzero, htableEq hk hrootLabel,
      ← mem_tree hok.grown hrootLabel]
    constructor
    · intro hmem
      obtain ⟨id, hid, heq⟩ := List.mem_map.mp hmem
      rw [Function.comp_apply, htableEq (hok.mem_labels_of_mem_tree hrootLabel hid) hk] at heq
      exact heq ▸ hid
    · intro hmem
      exact List.mem_map.mpr ⟨k, hmem, rfl⟩

theorem first_tables_laidOut :
    (laidOut graph).physicalPipeline.map (fun physicalTable => physicalTable.head?.map PipelineTable.table) =
      ((laidOut graph).appliedTables.filter fun t => (laidOut graph).missParent t.tableId = none).map some := by
  set forest := forestOf graph.tableToNode with hforest
  rw [hok.physicalPipeline_laidOut hempty, hok.appliedTables_laidOut, List.map_map, List.filter_map,
    List.map_map]
  -- the tables applied with no on-miss parent are the roots of the forest
  have hroots : (labels forest).filter ((fun t => decide ((laidOut graph).missParent t.tableId = none)) ∘
      fun id => (placedTable graph id).table) = children forest none := by
    rw [labels, children, List.filter_map]
    congr 1
    apply List.filter_congr
    intro entry hentry
    have hlabel : entry.1 ∈ labels forest := mem_labels_of_mem hentry
    simp only [Function.comp_apply, hok.tableId_placedTable hlabel,
      missParent_laidOut_of_mem hok hparents hnonzero hentry]
    cases entry.2 <;> simp
  rw [hroots]
  apply List.map_congr_left
  intro root hroot
  simp only [Function.comp_apply]
  rw [tree_eq hok.grown (mem_labels_of_mem (mem_children.mp hroot))]
  rfl

theorem ancestors_higher_laidOut :
    ∀ a ∈ (laidOut graph).physicalTables, ∀ d ∈ (laidOut graph).physicalTables,
      (laidOut graph).IsMissDescendant d.table.tableId a.table.tableId → d.priority < a.priority := by
  intro a ha d hd hdesc
  obtain ⟨-, ha'⟩ := hok.mem_physicalTables_laidOut hempty ha
  obtain ⟨-, hd'⟩ := hok.mem_physicalTables_laidOut hempty hd
  rw [isMissDescendant_laidOut_iff hok hparents hnonzero] at hdesc
  -- an ancestor comes before its descendants in the walk of the forest
  have hlt := idxOf_lt_of_isDescendant_walkAll hok.grown hdesc
  rw [ha', hd', placedTable_priority, placedTable_priority]
  omega

theorem later_siblings_higher_laidOut :
    ∀ a ∈ (laidOut graph).physicalTables, ∀ b ∈ (laidOut graph).physicalTables,
      (laidOut graph).missParent a.table.tableId = (laidOut graph).missParent b.table.tableId →
      [a.table, b.table].Sublist (laidOut graph).appliedTables →
      ∀ d ∈ (laidOut graph).physicalTables,
        (d.table = a.table ∨ (laidOut graph).IsMissDescendant d.table.tableId a.table.tableId) →
        d.priority < b.priority := by
  intro a ha b hb hparent hsub d hd hbelow
  obtain ⟨haLabel, ha'⟩ := hok.mem_physicalTables_laidOut hempty ha
  obtain ⟨hbLabel, hb'⟩ := hok.mem_physicalTables_laidOut hempty hb
  obtain ⟨hdLabel, hd'⟩ := hok.mem_physicalTables_laidOut hempty hd
  set x := a.table.tableId
  set y := b.table.tableId
  set z := d.table.tableId
  -- both tables are children of the same node, `a` first
  obtain ⟨⟨x', q⟩, hxq, hx'⟩ := List.mem_map.mp haLabel
  dsimp only at hx'
  subst hx'
  obtain ⟨⟨y', r⟩, hyr, hy'⟩ := List.mem_map.mp hbLabel
  dsimp only at hy'
  have hqr : q = r := by
    rw [← missParent_laidOut_of_mem hok hparents hnonzero hxq,
      ← missParent_laidOut_of_mem hok hparents hnonzero hyr, hy']
    exact hparent
  rw [hy', ← hqr] at hyr
  have hids : [x, y].Sublist (labels (forestOf graph.tableToNode)) := by
    have hmap := hsub.map P4ControlTableRef.tableId
    rw [hok.appliedTables_laidOut, List.map_map, hok.map_tableId_placedTable] at hmap
    exact hmap
  have hsiblings : [x, y].Sublist (children (forestOf graph.tableToNode) q) := by
    refine sublist_children hok.grown hids fun c hc => ?_
    rcases List.mem_pair.mp hc with rfl | rfl
    · exact hxq
    · exact hyr
  -- everything under the earlier sibling comes after the later one in the walk
  have hzTree : z ∈ tree (forestOf graph.tableToNode) x := by
    rw [mem_tree hok.grown (mem_labels_of_mem hxq)]
    rcases hbelow with heq | hdesc
    · exact Or.inl (congrArg P4ControlTableRef.tableId heq)
    · exact Or.inr ((isMissDescendant_laidOut_iff hok hparents hnonzero).mp hdesc)
  have hyTree : y ∈ tree (forestOf graph.tableToNode) y := (mem_tree hok.grown (mem_labels_of_mem hyr)).mpr (Or.inl rfl)
  have hlt := idxOf_lt_of_siblings hok.grown hsiblings hyTree hzTree
  rw [hd', hb', placedTable_priority, placedTable_priority]
  omega

/-- The layout of every graph the processing builds, when no table applied
has table ID 0. -/
theorem layoutWellFormed_laidOut (hconditions : ConditionsHold graph) :
    LayoutWellFormed (laidOut graph) where
  tables_perm := tables_perm_laidOut hok hempty
  tables_nodup := tables_nodup_laidOut hok
  priorities_perm := priorities_perm_laidOut hok hempty
  physical_tables := physical_tables_laidOut hok hempty hparents hnonzero
  first_tables := first_tables_laidOut hok hempty hparents hnonzero
  priorities_decrease := priorities_decrease_laidOut hok hempty
  ancestors_higher := ancestors_higher_laidOut hok hempty hparents hnonzero
  later_siblings_higher := later_siblings_higher_laidOut hok hempty hparents hnonzero
  header_rules := header_rules_laidOut hok hempty hconditions

end Layout

/-! ## The layout `CreateInstance` returns -/

theorem acl_pipeline_layout (hashOrder : List (P4HeaderType × Bool) → List (P4HeaderType × Bool))
    (hperm : ∀ l, (hashOrder l).Perm l) (block : List P4ControlStatement) (pp : PipelineProcessor)
    (hcreate : createInstance hashOrder block = .ok pp)
    (hnonzero : ∀ t ∈ pp.appliedTables, t.tableId ≠ 0) : LayoutWellFormed pp := by
  rw [createInstance_eq] at hcreate
  cases hprocess : processControlBlock hashOrder block PipelineProcessor.new.root PipelineProcessor.new with
  | error e =>
    rw [hprocess] at hcreate
    cases hcreate
  | ok graph =>
    rw [hprocess] at hcreate
    have hpp : laidOut graph = pp := Except.ok.inj hcreate
    subst hpp
    -- what the processing keeps, from the new processor with its default root
    have hok : GraphOk graph := graphOk_processControlBlock GraphOk.new hprocess
    have hempty : graph.physicalPipeline = [] := physicalPipeline_processControlBlock hprocess
    have hconditions : ConditionsHold graph :=
      conditionsHold_processControlBlock hperm (fun _ h => by simp [PipelineProcessor.new] at h)
        headerRulesHold_empty hprocess
    have hparents : ParentsApplied graph :=
      parentsApplied_processControlBlock (fun _ h => by simp [PipelineProcessor.new] at h) (Or.inl rfl)
        hprocess
    have hkeys : ∀ entry ∈ graph.tableToNode, entry.1 ≠ 0 := fun entry hentry =>
      hok.keys entry hentry ▸ hnonzero _ (hok.mem_appliedTables_laidOut hentry)
    exact layoutWellFormed_laidOut hok hempty hparents hkeys hconditions

/-- An ACL control block: a table with two more chained on its miss, a table
of its own, and a table applied to IPv4 packets only. -/
def exampleAclBlock : List P4ControlStatement :=
  [.apply ⟨"acl_1", 1, .ingressAcl⟩,
   .branch true (.hit ⟨"acl_1", 1, .ingressAcl⟩)
     (some [.apply ⟨"acl_2", 2, .ingressAcl⟩,
       .branch true (.hit ⟨"acl_2", 2, .ingressAcl⟩) (some [.apply ⟨"acl_3", 3, .ingressAcl⟩]) none])
     none,
   .apply ⟨"acl_4", 4, .ingressAcl⟩,
   .branch false (.isValid .ipv4) (some [.apply ⟨"acl_5", 5, .ingressAcl⟩]) none]

/-- The pipeline `CreateInstance` builds from `exampleAclBlock`. -/
def examplePipeline : PipelineProcessor :=
  (createInstance id exampleAclBlock).toOption.getD PipelineProcessor.new

theorem acl_pipeline_layout_example : LayoutWellFormed examplePipeline :=
  acl_pipeline_layout id (fun l => List.Perm.refl l) exampleAclBlock examplePipeline rfl (by decide)

example : examplePipeline.physicalPipeline.map (fun physicalTable =>
    physicalTable.map fun t => (t.table.tableId, t.priority)) =
    [[(1, 3), (2, 2), (3, 1)], [(4, 4)], [(5, 5)]] := by
  decide

/-- A table with table ID 0, and a table applied on its miss. -/
def zeroIdBlock : List P4ControlStatement :=
  [.apply ⟨"acl_0", 0, .ingressAcl⟩,
   .branch true (.hit ⟨"acl_0", 0, .ingressAcl⟩) (some [.apply ⟨"acl_5", 5, .ingressAcl⟩]) none]

/-- The pipeline `CreateInstance` builds from `zeroIdBlock`. -/
def zeroIdPipeline : PipelineProcessor :=
  (createInstance id zeroIdBlock).toOption.getD PipelineProcessor.new

/-- With a table of ID 0, `has_parent()` is false for the table applied on
its miss: that table gets a physical table of its own, with the higher
priority. -/
theorem layout_breaks_on_table_id_zero :
    createInstance id zeroIdBlock = .ok zeroIdPipeline ∧
      zeroIdPipeline.physicalPipeline.map (fun physicalTable =>
        physicalTable.map fun t => (t.table.tableId, t.priority)) = [[(0, 1)], [(5, 2)]] ∧
      zeroIdPipeline.missParent 5 = some 0 ∧ ¬LayoutWellFormed zeroIdPipeline :=
  ⟨rfl, by decide, by decide, fun hlayout => absurd hlayout.first_tables (by decide)⟩

end Stratum.Ports.Pipeline
