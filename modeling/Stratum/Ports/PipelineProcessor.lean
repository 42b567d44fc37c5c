import Stratum.Ports.Status
import Stratum.Ports.BcmUdfManager
import Stratum.Verified.KeyedSet

/-!
# The ACL pipeline of `PipelineProcessor`

`stratum/hal/lib/bcm/pipeline_processor.cc` turns the control block of an ACL
bank into physical tables. `ProcessControlBlock` walks the statements: an
`apply` adds a node for the table to `table_to_node_`, under the root or
under the table whose `if (!t.hit)` block it is in; an `if (h.isValid())`
branch processes each block with the header's validity added to the node's
conditions, and skips a block whose conditions conflict. `SetPriorities`
numbers the nodes down from the number of tables, visiting a node before its
subtables and the subtables from the last to the first, and
`PopulatePhysicalPipeline` makes a physical table of every table under the
root, with its subtables in the same order.

What is ported: the statements of a control block, `ValidConditionMap` with
`CollapseValidConditionMap` and `InsertIfNotConflicting`, `PipelineNode`,
`ApplyTable`, `ProcessControlBlock` with `ProcessHitBranch` and
`ProcessIsValidBranch`, `SetPriorities` and `SetPriority`,
`PopulatePhysicalPipeline`, `AppendToPhysicalTable`, `NodeToTable` and
`CreateInstance`.

The pointers between nodes are the table IDs of the nodes they point to:
`table_to_node_` is a `node_hash_map` keyed by table ID, so a pointer to a
node and its key name the same node as long as the node lives, which is as
long as the processor. The two recursive walks over those pointers take fuel,
the number of tables; `PipelineProcessorLayout` shows that it is enough. The
order in which a `flat_hash_map` of conditions visits its entries is a
parameter, `hashOrder`. The `ShortDebugString()` dumps in error texts and the
`LOG` and `VLOG` lines are left out.
-/

namespace Stratum.Ports.Pipeline

open Stratum.Ports.Status Stratum.Verified.KeyedSet
open Stratum.Ports.BcmUdfManager (P4HeaderType)

/-! ## Control blocks -/

/-- `P4Annotation::PipelineStage`. -/
inductive PipelineStage
  | defaultStage
  | vlanAcl
  | l2
  | l3Lpm
  | ingressAcl
  | egressAcl
  | encap
  | decap
  | hidden
  deriving DecidableEq, Repr

/-- `P4ControlTableRef`. -/
structure P4ControlTableRef where
  tableName : String
  tableId : Nat
  pipelineStage : PipelineStage
  deriving DecidableEq, Repr

/-- The default `P4ControlTableRef`: the `parent` of a node without one. -/
def noTable : P4ControlTableRef := ⟨"", 0, .defaultStage⟩

/-- The `condition` of a `P4BranchCondition`; of an `is_valid` condition, the
header type. -/
inductive BranchCondition
  | hit (table : P4ControlTableRef)
  | isValid (headerType : P4HeaderType)
  | unknown
  | conditionNotSet
  deriving DecidableEq, Repr

/-- `P4ControlStatement`, with a `P4IfStatement` inline: its condition with
`not_operator`, and its two blocks, each absent or the statements of a
`P4ControlBlock`. -/
inductive P4ControlStatement
  | apply (table : P4ControlTableRef)
  | branch (notOperator : Bool) (condition : BranchCondition)
      (trueBlock falseBlock : Option (List P4ControlStatement))
  | drop
  | returnStatement
  | exit
  | fixedPipeline
  | other
  | statementNotSet
  deriving Repr

/-! ## Valid conditions -/

/-- `P4HeaderType_Name`. -/
def p4HeaderTypeName : P4HeaderType → String
  | .unknown => "P4_HEADER_UNKNOWN"
  | .arp => "P4_HEADER_ARP"
  | .ethernet => "P4_HEADER_ETHERNET"
  | .gre => "P4_HEADER_GRE"
  | .icmp => "P4_HEADER_ICMP"
  | .ipv4 => "P4_HEADER_IPV4"
  | .ipv6 => "P4_HEADER_IPV6"
  | .packetIn => "P4_HEADER_PACKET_IN"
  | .packetOut => "P4_HEADER_PACKET_OUT"
  | .tcp => "P4_HEADER_TCP"
  | .udp => "P4_HEADER_UDP"
  | .vlan => "P4_HEADER_VLAN"
  | .udpPayload => "P4_HEADER_UDP_PAYLOAD"
  | .erspan => "P4_HEADER_ERSPAN"
  | .dns => "P4_HEADER_DNS"
  | .l4Payload => "P4_HEADER_L4_PAYLOAD"

/-- `ValidConditionMap`: whether a header type must be valid, one entry per
header type. -/
abbrev ValidConditionMap := KeyedSet (Prod.fst : P4HeaderType × Bool → P4HeaderType)

/-- The L3 headers, of which one at most can be valid. -/
def l3Headers : List P4HeaderType := [.arp, .ipv4, .ipv6]

/-- The L4 headers, of which one at most can be valid, but for UDP with its
payload. -/
def l4Headers : List P4HeaderType := [.gre, .icmp, .tcp, .udp, .udpPayload]

/-- One turn of the loop of `CollapseValidConditionMap`: the L3 and the L4
header found valid so far (`unknown` for none). -/
def collapseStep (found : P4HeaderType × P4HeaderType) (condition : P4HeaderType × Bool) :
    StatusOr (P4HeaderType × P4HeaderType) :=
  let header := condition.1
  if !condition.2 then .ok found
  else if header ∈ l3Headers then
    if found.1 ≠ .unknown then
      .error ⟨.errInvalidParam, "Conflicting L3 headers (" ++ p4HeaderTypeName found.1 ++ ", " ++
        p4HeaderTypeName header ++ ") cannot be valid at once."⟩
    else .ok (header, found.2)
  else if header ∈ l4Headers then
    if found.2 ≠ .unknown then
      -- UDP and its payload are valid together
      if (found.2 = .udp ∧ header = .udpPayload) ∨ (found.2 = .udpPayload ∧ header = .udp) then
        .ok found
      else
        .error ⟨.errInvalidParam, "Conflicting L4 headers (" ++ p4HeaderTypeName found.2 ++ ", " ++
          p4HeaderTypeName header ++ ") cannot be valid at once."⟩
    else .ok (found.1, header)
  else .ok found

/-- Whether a map expects UDP and its payload differently. -/
def udpInconsistent (conditions : ValidConditionMap) : Bool :=
  match conditions.find .udpPayload, conditions.find .udp with
  | some udpPayload, some udp => udpPayload.2 != udp.2
  | _, _ => false

section HashOrder

-- the order in which a `flat_hash_map` of conditions visits its entries
variable (hashOrder : List (P4HeaderType × Bool) → List (P4HeaderType × Bool))

/-- `CollapseValidConditionMap`: an error for conditions that cannot hold
together, or the map without the conditions that a valid L3 or L4 header
makes redundant. -/
def collapseValidConditionMap (conditions : ValidConditionMap) : StatusOr ValidConditionMap := do
  if udpInconsistent conditions then
    throw ⟨.errInvalidParam, "Inconsistent UDP Header/UDP Payload expectations."⟩
  let found ← (hashOrder conditions.elems).foldlM collapseStep (.unknown, .unknown)
  let conditions := if found.1 ≠ .unknown then
    conditions.filter fun condition => condition.1 ∉ l3Headers.erase found.1 else conditions
  let conditions := if found.2 ≠ .unknown then
    conditions.filter fun condition => condition.1 ∉ l4Headers.erase found.2 else conditions
  pure conditions

/-- `InsertIfNotConflicting`: the map with the condition, collapsed, or an
error if the map expects the header the other way or the result conflicts. -/
def insertIfNotConflicting (destination : ValidConditionMap) (condition : P4HeaderType × Bool) :
    StatusOr ValidConditionMap :=
  if (destination.find condition.1).any fun lookup => lookup.2 != condition.2 then
    .error ⟨.errInvalidParam, "Conflicting value for header type " ++
      p4HeaderTypeName condition.1 ++ " already exists."⟩
  else collapseValidConditionMap hashOrder (destination.insert condition).1

end HashOrder

/-! ## The pipeline graph -/

/-- `PipelineNode`; `subtables` holds the table IDs of the nodes its pointers
point to. -/
structure PipelineNode where
  table : P4ControlTableRef
  validConditions : ValidConditionMap
  parent : P4ControlTableRef
  priority : Int
  subtables : List Nat

/-- `has_parent()`. -/
def PipelineNode.hasParent (node : PipelineNode) : Bool := node.parent.tableId != 0

/-- The table ID of the parent, for a node that has one. -/
def PipelineNode.parentId (node : PipelineNode) : Option Nat :=
  if node.hasParent then some node.parent.tableId else none

/-- A node as the default constructor makes it: the root of a new processor. -/
def PipelineNode.empty : PipelineNode := ⟨noTable, .empty, noTable, 0, []⟩

/-- `PipelineTable`. -/
structure PipelineTable where
  table : P4ControlTableRef
  validConditions : ValidConditionMap
  priority : Int

/-- The state of a `PipelineProcessor`: `root_`, `table_to_node_` in the order
its nodes went in, and `physical_pipeline_`. -/
structure PipelineProcessor where
  root : PipelineNode
  tableToNode : List (Nat × PipelineNode)
  physicalPipeline : List (List PipelineTable)

/-- The processor the hidden constructor makes. -/
def PipelineProcessor.new : PipelineProcessor := ⟨.empty, [], []⟩

/-- The node with table ID `id`, changed by `f`. -/
def modifyNode (tableToNode : List (Nat × PipelineNode)) (id : Nat) (f : PipelineNode → PipelineNode) :
    List (Nat × PipelineNode) :=
  tableToNode.map fun entry => if entry.1 = id then (entry.1, f entry.2) else entry

/-- The node a table goes under: the root for a node without a parent, else
the node of the parent table, if there is one. -/
def PipelineProcessor.parentNode (pp : PipelineProcessor) (node : PipelineNode) :
    Option PipelineNode :=
  if node.hasParent then pp.tableToNode.lookup node.parent.tableId else some pp.root

/-- `table_to_node_.emplace` and `parent->subtables.push_back`: the new node
goes into the map and at the end of the subtables of its parent. -/
def PipelineProcessor.addNode (pp : PipelineProcessor) (parentId : Option Nat) (id : Nat)
    (node : PipelineNode) : PipelineProcessor :=
  match parentId with
  | none => { pp with
      root := { pp.root with subtables := pp.root.subtables ++ [id] },
      tableToNode := pp.tableToNode ++ [(id, node)] }
  | some parent => { pp with
      tableToNode := modifyNode (pp.tableToNode ++ [(id, node)]) parent
        fun parentNode => { parentNode with subtables := parentNode.subtables ++ [id] } }

section HashOrder

variable (hashOrder : List (P4HeaderType × Bool) → List (P4HeaderType × Bool))

/-- `ApplyTable`: the node of the table, with the conditions of its parent
added, goes under the parent; a table whose conditions conflict with its
parent's is skipped. -/
def applyTable (table : P4ControlTableRef) (node : PipelineNode) (pp : PipelineProcessor) :
    StatusOr PipelineProcessor :=
  match pp.parentNode node with
  | none => .error ⟨.errInternal,
      "Failed to lookup parent table () while applying table. This is a bug."⟩
  | some parent =>
    if node.hasParent ∧ node.parent.pipelineStage ≠ table.pipelineStage then
      .error ⟨.errInvalidParam, "Pipeline stage mismatch for parent table (" ++
        toString parent.table.tableId ++ ")."⟩
    else
      match (hashOrder parent.validConditions.elems).foldlM (insertIfNotConflicting hashOrder)
          node.validConditions with
      | .error _ => .ok pp
      | .ok validConditions =>
        if (pp.tableToNode.lookup table.tableId).isSome then
          .error ⟨.errInvalidParam, "Cannot apply a table more than once."⟩
        else .ok (pp.addNode node.parentId table.tableId
          { node with table := table, validConditions := validConditions, subtables := [] })

/-- The checks of `ProcessHitBranch`, and the node it processes the on-miss
block with: the base node with the hit table as its parent. -/
def hitBranchNode (pp : PipelineProcessor) (hitTable : P4ControlTableRef)
    (notOperator hasTrueBlock hasFalseBlock : Bool) (baseNode : PipelineNode) :
    StatusOr PipelineNode :=
  match pp.tableToNode.lookup hitTable.tableId with
  | none => .error ⟨.errInvalidParam, "Cannot branch on a table before it is applied."⟩
  | some hitNode =>
    if baseNode.hasParent ∧ baseNode.parent.tableId ≠ hitNode.parent.tableId then
      .error ⟨.errInvalidParam,
        "Inconsistent dependency relationships between table apply and on-miss conditional."⟩
    else if (hasFalseBlock ∧ notOperator) ∨ (hasTrueBlock ∧ !notOperator) then
      .error ⟨.errInvalidParam, "On-hit actions are not supported by Stratum."⟩
    else .ok { baseNode with parent := hitTable }

/-- The checks of one call of `ProcessIsValidBranch` on the statements of the
block it picked: the node it processes them with, or none when it skips them
(no statements, an unknown header, or a condition that conflicts with the
node's). -/
def isValidBranchNode (headerType : P4HeaderType) (isValid : Bool)
    (statements : List P4ControlStatement) (node : PipelineNode) : Option PipelineNode :=
  if statements.isEmpty then none
  else if headerType = .unknown then none
  else
    match insertIfNotConflicting hashOrder node.validConditions (headerType, isValid) with
    | .error _ => none
    | .ok validConditions => some { node with validConditions := validConditions }

/-- What `RETURN_IF_ERROR_WITH_APPEND` adds to the error of a statement. -/
def statementError : String := " Failed to process statement ()."

mutual

/-- `ProcessControlBlock`, over the statements of a block. -/
def processControlBlock : List P4ControlStatement → PipelineNode → PipelineProcessor →
    StatusOr PipelineProcessor
  | [], _, pp => .ok pp
  | statement :: rest, baseNode, pp =>
    match processStatement statement baseNode pp with
    | .error error => .error (error.append statementError)
    | .ok pp => processControlBlock rest baseNode pp

/-- One statement of `ProcessControlBlock`: `ApplyTable`, `ProcessHitBranch`,
or `ProcessIsValidBranch` for a valid and then an invalid header; the other
statements are ignored. -/
def processStatement : P4ControlStatement → PipelineNode → PipelineProcessor →
    StatusOr PipelineProcessor
  | .apply table, baseNode, pp => applyTable hashOrder table baseNode pp
  | .branch notOperator (.hit hitTable) trueBlock falseBlock, baseNode, pp =>
    match hitBranchNode pp hitTable notOperator trueBlock.isSome falseBlock.isSome baseNode with
    | .error error => .error error
    | .ok branchNode =>
      if notOperator then processBlock trueBlock branchNode pp
      else processBlock falseBlock branchNode pp
  -- `ProcessIsValidBranch` takes the false block when `is_valid == not_operator`
  | .branch false (.isValid headerType) trueBlock falseBlock, node, pp =>
    match processIsValidBranch headerType true trueBlock node pp with
    | .error error => .error error
    | .ok pp => processIsValidBranch headerType false falseBlock node pp
  | .branch true (.isValid headerType) trueBlock falseBlock, node, pp =>
    match processIsValidBranch headerType true falseBlock node pp with
    | .error error => .error error
    | .ok pp => processIsValidBranch headerType false trueBlock node pp
  | .branch _ .unknown _ _, _, pp => .ok pp
  | .branch _ .conditionNotSet _ _, _, pp => .ok pp
  | .drop, _, pp => .ok pp
  | .returnStatement, _, pp => .ok pp
  | .exit, _, pp => .ok pp
  | .fixedPipeline, _, pp => .ok pp
  | .other, _, pp => .ok pp
  | .statementNotSet, _, pp => .ok pp

/-- `ProcessControlBlock` on a block of a branch; an absent block has no
statements. -/
def processBlock : Option (List P4ControlStatement) → PipelineNode → PipelineProcessor →
    StatusOr PipelineProcessor
  | none, _, pp => .ok pp
  | some statements, node, pp => processControlBlock statements node pp

/-- `ProcessIsValidBranch` on the block it picked. -/
def processIsValidBranch (headerType : P4HeaderType) (isValid : Bool) :
    Option (List P4ControlStatement) → PipelineNode → PipelineProcessor →
    StatusOr PipelineProcessor
  | none, _, pp => .ok pp
  | some statements, node, pp =>
    match isValidBranchNode hashOrder headerType isValid statements node with
    | none => .ok pp
    | some node => processControlBlock statements node pp

end

end HashOrder

/-! ## Priorities and physical tables -/

/-- The node with table ID `id` with its priority set. -/
def setNodePriority (tableToNode : List (Nat × PipelineNode)) (id : Nat) (priority : Int) :
    List (Nat × PipelineNode) :=
  modifyNode tableToNode id fun node => { node with priority := priority }

/-- The subtables of the node with table ID `id`. -/
def subtablesOf (tableToNode : List (Nat × PipelineNode)) (id : Nat) : List Nat :=
  ((tableToNode.lookup id).map PipelineNode.subtables).getD []

/-- The error of `SetPriority` when the counter has run out. -/
def tooManyTables : UtilError :=
  ⟨.errInternal, "There are more tables in the pipeline graph than tables that " ++
    "have been allocated. This is a bug."⟩

/-- `SetPriority`, `fuel` levels deep at most: the node gets the counter, the
counter goes down, and the subtables follow from the last to the first. -/
def setPriority : Nat → Int → Nat → List (Nat × PipelineNode) →
    StatusOr (Int × List (Nat × PipelineNode))
  | 0, priority, _, tableToNode => .ok (priority, tableToNode)
  | fuel + 1, priority, id, tableToNode =>
    if priority ≤ 0 then .error tooManyTables
    else
      let tableToNode := setNodePriority tableToNode id priority
      (subtablesOf tableToNode id).reverse.foldlM
        (fun acc subtable => setPriority fuel acc.1 subtable acc.2) (priority - 1, tableToNode)

/-- `SetPriorities`: the counter starts at the number of tables, and the
subtables of the root are numbered from the last to the first. -/
def PipelineProcessor.setPriorities (pp : PipelineProcessor) : StatusOr PipelineProcessor := do
  let numbered ← pp.root.subtables.reverse.foldlM
    (fun acc subtable => setPriority pp.tableToNode.length acc.1 subtable acc.2)
    ((pp.tableToNode.length : Int), pp.tableToNode)
  pure { pp with tableToNode := numbered.2 }

/-- `NodeToTable`. -/
def nodeToTable (node : PipelineNode) : PipelineTable :=
  ⟨node.table, node.validConditions, node.priority⟩

/-- `AppendToPhysicalTable`, `fuel` levels deep at most: the node, then its
subtables from the last to the first. -/
def appendToPhysicalTable (tableToNode : List (Nat × PipelineNode)) :
    Nat → Nat → List PipelineTable → List PipelineTable
  | 0, _, physicalTable => physicalTable
  | fuel + 1, id, physicalTable =>
    match tableToNode.lookup id with
    | none => physicalTable
    | some node => node.subtables.reverse.foldl
        (fun physicalTable subtable => appendToPhysicalTable tableToNode fuel subtable physicalTable)
        (physicalTable ++ [nodeToTable node])

/-- `PopulatePhysicalPipeline`: a physical table for each subtable of the
root. -/
def PipelineProcessor.populatePhysicalPipeline (pp : PipelineProcessor) : PipelineProcessor :=
  { pp with physicalPipeline := pp.physicalPipeline ++ pp.root.subtables.map fun subtable =>
      appendToPhysicalTable pp.tableToNode pp.tableToNode.length subtable [] }

/-- `PipelineProcessor::CreateInstance`, on the statements of the control
block. -/
def createInstance (hashOrder : List (P4HeaderType × Bool) → List (P4HeaderType × Bool))
    (controlBlock : List P4ControlStatement) : StatusOr PipelineProcessor := do
  let pp ← processControlBlock hashOrder controlBlock PipelineProcessor.new.root PipelineProcessor.new
  let pp ← pp.setPriorities
  pure pp.populatePhysicalPipeline

end Stratum.Ports.Pipeline
