import Stratum.Ports.PipelineLayout
import Stratum.Ports.P4TableMapperFlows

/-!
# The physical ACL tables of a pipeline (`BcmAclManager`)

`stratum/hal/lib/bcm/bcm_acl_manager.cc` turns the physical pipeline that
`PipelineProcessor::CreateInstance` lays out into the ACL tables of the BCM
chip. `PhysicalAclTablesFromPipeline` makes one `PhysicalAclTable` per
physical table whose first table is in an ACL stage, with one `AclTable` per
logical table: the P4 table `P4TableMapper::LookupTable` finds for it, the
first table's stage, and the table's priority and valid conditions (its
const conditions). `InstallPhysicalTable` creates the BCM table with the
priority of the first logical table, which the code takes to be the highest,
and qualifies it on the fields `BcmTableManager::ConstConditionsToBcmFields`
derives from the const conditions: an `IP_TYPE` for a valid L3 header, an
`IP_PROTO_NEXT_HDR` for a valid L4 header.

`GetTableMatchTypes` adds the BCM type of every match field the table mapper
maps (`P4TableMapper::MapMatchField`, `BcmTableManager::GetBcmFieldType`).
The table mapper's maps and the SDK are parameters. The results rest on the
layout of `PipelineLayout`:

* `createInstance_physicalPipeline` — every physical table of a created
  pipeline is non-empty, its priorities go down, and its tables keep the
  header rules;
* `acl_tables_from_pipeline` — so `PhysicalAclTablesFromPipeline` never
  reports an empty physical table, and the ACL tables it returns have their
  highest priority first and const conditions that keep the header rules;
* `constConditionsToBcmFields_consistent` — the qualifiers of const
  conditions that keep the header rules never contradict each other;
* `install_priority_highest` — `InstallPhysicalTable` gives every physical
  ACL table of a pipeline the highest priority of its logical tables;
* `installed_table_fields` — and, when the table mapper maps every match
  field, qualifies it on exactly the known types of the match fields and the
  const qualifiers of its logical tables, each once and none `UNKNOWN`.
-/

namespace Stratum.Ports.BcmAclManager

open Stratum.Ports.Status Stratum.Ports.P4Runtime Stratum.Verified.Run Stratum.Verified.KeyedSet
open Stratum.Verified.LinkedForest Stratum.Ports.Pipeline
open Stratum.Ports.BcmUdfManager (P4HeaderType BcmAclStage)
open Stratum.Ports.P4TableMapper (P4FieldType FlowMaps mapMatchField aclFlowMaps)

/-! ## ACL tables -/

/-- `AclTable::P4PipelineToBcmAclStage`. -/
def p4PipelineToBcmAclStage : PipelineStage → BcmAclStage
  | .ingressAcl => .ifp
  | .vlanAcl => .vfp
  | .egressAcl => .efp
  | _ => .unknown

/-- The parts of an `AclTable` that `PhysicalAclTablesFromPipeline` sets and
`InstallPhysicalTable` reads: the P4 table it is built from, its stage, its
priority and its const conditions. -/
structure AclTable where
  table : P4Info.Table
  stage : BcmAclStage
  priority : Int
  constConditions : ValidConditionMap

/-- `BcmAclManager::PhysicalAclTable`. -/
structure PhysicalAclTable where
  stage : BcmAclStage
  logicalTables : List AclTable

/-- `GeneratePhysicalAclTables`: an `AclTable` in `stage` for each logical
table, in the order of the physical table. -/
def generatePhysicalAclTables (lookupTable : Nat → StatusOr P4Info.Table) (stage : BcmAclStage)
    (physicalTable : List PipelineTable) : StatusOr PhysicalAclTable := do
  let logicalTables ← physicalTable.mapM fun pipelineTable => do
    let p4Table ← lookupTable pipelineTable.table.tableId
    pure (⟨p4Table, stage, pipelineTable.priority, pipelineTable.validConditions⟩ : AclTable)
  pure ⟨stage, logicalTables⟩

/-- The error of `PhysicalAclTablesFromPipeline` for an empty physical table. -/
def emptyPhysicalTable : UtilError :=
  ⟨.errInternal, "Physical pipeline contains an empty physical table. This is a bug."⟩

/-- The loop of `PhysicalAclTablesFromPipeline` over the physical pipeline; a
physical table whose first table is in no ACL stage is skipped. -/
def physicalAclTablesLoop (lookupTable : Nat → StatusOr P4Info.Table) :
    List (List PipelineTable) → StatusOr (List PhysicalAclTable)
  | [] => .ok []
  | [] :: _ => .error emptyPhysicalTable
  | (first :: rest) :: physicalTables =>
      let aclStage := p4PipelineToBcmAclStage first.table.pipelineStage
      if aclStage = .unknown then physicalAclTablesLoop lookupTable physicalTables
      else do
        let physicalAclTable ← generatePhysicalAclTables lookupTable aclStage (first :: rest)
        let others ← physicalAclTablesLoop lookupTable physicalTables
        pure (physicalAclTable :: others)

/-- `BcmAclManager::PhysicalAclTablesFromPipeline`. -/
def physicalAclTablesFromPipeline (hashOrder : List (P4HeaderType × Bool) → List (P4HeaderType × Bool))
    (lookupTable : Nat → StatusOr P4Info.Table) (controlBlock : List P4ControlStatement) :
    StatusOr (List PhysicalAclTable) := do
  let pipelineProcessor ← createInstance hashOrder controlBlock
  physicalAclTablesLoop lookupTable pipelineProcessor.physicalPipeline

/-! ## Qualifiers of const conditions -/

/-- `BcmField::Type`. -/
inductive BcmFieldType
  | unknown
  | inPort
  | inPortBitmap
  | outPort
  | ethType
  | ipType
  | ethSrc
  | ethDst
  | vlanVid
  | vlanPcp
  | ipv4Src
  | ipv4Dst
  | ipv6Src
  | ipv6Dst
  | ipv6SrcUpper64
  | ipv6DstUpper64
  | vrf
  | ipDscpTrafClass
  | ipTtlHopLimit
  | ipProtoNextHdr
  | l4Src
  | l4Dst
  | tcpFlags
  | icmpTypeCode
  | vfpDstClassId
  | l3DstClassId
  | clonePort
  deriving DecidableEq, Repr

/-- A `BcmField` as `ConstConditionsToBcmFields` fills it: its type and the
`u32` of its value. -/
structure BcmField where
  type : BcmFieldType
  value : Nat
  deriving DecidableEq, Repr

/-- `kEtherTypeIPv4` (`stratum/hal/lib/common/constants.h`). -/
def kEtherTypeIPv4 : Nat := 0x0800
/-- `kEtherTypeIPv6`. -/
def kEtherTypeIPv6 : Nat := 0x86dd
/-- `kEtherTypeArp`. -/
def kEtherTypeArp : Nat := 0x0806
/-- `kIpProtoIcmp`. -/
def kIpProtoIcmp : Nat := 1
/-- `kIpProtoIPv6Icmp`. -/
def kIpProtoIPv6Icmp : Nat := 58
/-- `kIpProtoTcp`. -/
def kIpProtoTcp : Nat := 6
/-- `kIpProtoUdp`. -/
def kIpProtoUdp : Nat := 17
/-- `kIpProtoGre`. -/
def kIpProtoGre : Nat := 47

/-- The switch of `ConstConditionsToBcmFields` on the header of a valid
condition; ICMP is ICMPv6 when the conditions expect IPv6. -/
def constConditionField (conditions : ValidConditionMap) (tableName : String) :
    P4HeaderType → StatusOr BcmField
  | .arp => .ok ⟨.ipType, kEtherTypeArp⟩
  | .ipv4 => .ok ⟨.ipType, kEtherTypeIPv4⟩
  | .ipv6 => .ok ⟨.ipType, kEtherTypeIPv6⟩
  | .tcp => .ok ⟨.ipProtoNextHdr, kIpProtoTcp⟩
  | .udp | .udpPayload => .ok ⟨.ipProtoNextHdr, kIpProtoUdp⟩
  | .gre => .ok ⟨.ipProtoNextHdr, kIpProtoGre⟩
  | .icmp =>
      if (conditions.find .ipv6).any (·.2) then .ok ⟨.ipProtoNextHdr, kIpProtoIPv6Icmp⟩
      else .ok ⟨.ipProtoNextHdr, kIpProtoIcmp⟩
  | header => .error ⟨.errOperNotSupported, "Validity check for header type: " ++
      p4HeaderTypeName header ++ " in table " ++ tableName ++ " is not supported."⟩

/-- `BcmTableManager::ConstConditionsToBcmFields`: a field for each condition
that expects a header valid, in the hash order of the map; conditions that
expect a header invalid are skipped. -/
def constConditionsToBcmFields (hashOrder : List (P4HeaderType × Bool) → List (P4HeaderType × Bool))
    (table : AclTable) : StatusOr (List BcmField) :=
  ((hashOrder table.constConditions.elems).filter (·.2)).mapM fun condition =>
    constConditionField table.constConditions table.table.name condition.1

/-! ## `InstallPhysicalTable` -/

/-- The `BcmAclTable` that `InstallPhysicalTable` asks the SDK to create. -/
structure BcmAclTable where
  priority : Int
  fields : List BcmFieldType
  stage : BcmAclStage

/-- The error of `InstallPhysicalTable` for a physical table with no logical
table. -/
def emptyInstall : UtilError :=
  ⟨.errInternal, "We tried to create an empty physical table. This is likely a bug."⟩

/-- One turn of the loop of `InstallPhysicalTable` over the logical tables:
the table's match types, then the types of its const qualifiers, are
inserted into the set of field types (`l ∪ s` inserts each element of `l`
into `s`). -/
def installFieldsStep (hashOrder : List (P4HeaderType × Bool) → List (P4HeaderType × Bool))
    (tableMatchTypes : AclTable → StatusOr (List BcmFieldType)) (fields : List BcmFieldType)
    (table : AclTable) : StatusOr (List BcmFieldType) := do
  let matchTypes ← tableMatchTypes table
  let constFields ← constConditionsToBcmFields hashOrder table
  pure (constFields.map BcmField.type ∪ (matchTypes ∪ fields))

/-- `BcmAclManager::InstallPhysicalTable`. `tableMatchTypes` is
`GetTableMatchTypes`, which the manager runs with its table mapper
(`getTableMatchTypes`); the SDK's `CreateAclTable` is a parameter. The set of
field types grows in the order of the logical tables, and `fieldOrder` is
the hash order in which the set is read back. -/
def installPhysicalTable (hashOrder : List (P4HeaderType × Bool) → List (P4HeaderType × Bool))
    (fieldOrder : List BcmFieldType → List BcmFieldType)
    (tableMatchTypes : AclTable → StatusOr (List BcmFieldType))
    (createAclTable : BcmAclTable → StatusOr Int) (unit : Int)
    (physicalAclTable : PhysicalAclTable) : StatusOr Int :=
  match physicalAclTable.logicalTables with
  | [] => .error emptyInstall
  | first :: _ => do
      let bcmFields ← physicalAclTable.logicalTables.foldlM
        (installFieldsStep hashOrder tableMatchTypes) []
      -- the first logical table always has the highest priority
      let bcmAclTable : BcmAclTable := ⟨first.priority, fieldOrder bcmFields, physicalAclTable.stage⟩
      (createAclTable bcmAclTable).mapError fun e =>
        e.append (" Failed to install physical table in unit " ++ toString unit ++ ". Table: .")

/-! ## `GetTableMatchTypes` -/

/-- `GetBcmFieldType` of `bcm_table_manager.cc`: the BCM type of a P4 field
type, by the number of its enumerator. The types its map marks unsupported,
and those it does not list, are `UNKNOWN`. -/
def getBcmFieldType (p4FieldType : P4FieldType) : BcmFieldType :=
  match p4FieldType.number with
  | 2 => .ethSrc
  | 3 => .ethDst
  | 4 => .ethType
  | 5 => .vlanVid
  | 6 => .vlanPcp
  | 7 => .ipv4Src
  | 8 => .ipv4Dst
  | 9 => .ipProtoNextHdr
  | 10 => .ipDscpTrafClass
  | 14 => .ipTtlHopLimit
  | 15 => .ipv6SrcUpper64
  | 16 => .ipv6DstUpper64
  | 17 => .ipProtoNextHdr
  | 18 => .ipDscpTrafClass
  | 20 => .icmpTypeCode
  | 21 => .l4Src
  | 22 => .l4Dst
  | 24 => .vrf
  | 25 => .vfpDstClassId
  | 27 => .outPort
  | 28 => .inPort
  | 45 => .icmpTypeCode
  | 48 => .l3DstClassId
  | 49 => .clonePort
  | _ => .unknown

/-- `BcmTableManager::P4FieldTypeToBcmFieldType`. -/
def p4FieldTypeToBcmFieldType (p4FieldType : P4FieldType) : BcmFieldType :=
  getBcmFieldType p4FieldType

/-- `AclTable::MatchFields()`: the set of the IDs of the P4 table's match
fields, read in its hash order `idOrder`. -/
def AclTable.matchFields (idOrder : List Nat → List Nat) (table : AclTable) : List Nat :=
  idOrder (table.table.matchFields.map P4Info.MatchField.id).dedup

/-- One turn of the loop of `GetTableMatchTypes`: the table mapper maps the
field, and its BCM type joins the set unless it is `UNKNOWN`, which is only
logged. -/
def getTableMatchTypesStep (maps : FlowMaps) (table : AclTable) (bcmFields : List BcmFieldType)
    (fieldId : Nat) : StatusOr (List BcmFieldType) := do
  let field ← (mapMatchField maps table.table.id fieldId).mapError fun e =>
    e.append (" Failed to get match types for table " ++ toString table.table.id ++ ".")
  let bcmType := p4FieldTypeToBcmFieldType field.type
  if bcmType = .unknown then pure bcmFields else pure (bcmFields.insert bcmType)

/-- `BcmAclManager::GetTableMatchTypes`. -/
def getTableMatchTypes (idOrder : List Nat → List Nat) (maps : FlowMaps) (table : AclTable) :
    StatusOr (List BcmFieldType) :=
  (table.matchFields idOrder).foldlM (getTableMatchTypesStep maps table) []

/-! ## The physical pipeline of a created pipeline -/

section HashOrder

variable {hashOrder : List (P4HeaderType × Bool) → List (P4HeaderType × Bool)}
  (hperm : ∀ l, (hashOrder l).Perm l)
include hperm

/-- Every physical table of a pipeline `CreateInstance` returns starts with a
table, has its priorities going down, and holds tables whose valid conditions
keep the header rules. -/
theorem createInstance_physicalPipeline {block : List P4ControlStatement} {pp : PipelineProcessor}
    (hcreate : createInstance hashOrder block = .ok pp) :
    ∀ physicalTable ∈ pp.physicalPipeline, physicalTable ≠ [] ∧
      (physicalTable.map PipelineTable.priority).Pairwise (· > ·) ∧
      ∀ t ∈ physicalTable, HeaderRulesHold t.validConditions := by
  obtain ⟨graph, hprocess, rfl⟩ := map_eq_ok.mp ((createInstance_eq hashOrder block).symm.trans hcreate)
  have hok : GraphOk graph := graphOk_processControlBlock GraphOk.new hprocess
  have hempty : graph.physicalPipeline = [] := physicalPipeline_processControlBlock hprocess
  have hconditions : ConditionsHold graph :=
    conditionsHold_processControlBlock hperm (fun _ h => by simp [PipelineProcessor.new] at h)
      headerRulesHold_empty hprocess
  intro physicalTable hphysical
  refine ⟨?_, priorities_decrease_laidOut hok hempty physicalTable hphysical,
    fun t ht => header_rules_laidOut hok hempty hconditions t (List.mem_flatten_of_mem hphysical ht)⟩
  -- a physical table is the walk of a tree, which starts at its root
  rw [hok.physicalPipeline_laidOut hempty] at hphysical
  obtain ⟨root, hroot, rfl⟩ := List.mem_map.mp hphysical
  rw [tree_eq hok.grown (mem_labels_of_mem (mem_children.mp hroot))]
  simp

end HashOrder

/-! ## `PhysicalAclTablesFromPipeline` -/

/-- An ACL table built for a logical table: the table mapper's P4 table, the
stage it is given, and the logical table's priority and conditions. -/
def BuiltFrom (lookupTable : Nat → StatusOr P4Info.Table) (stage : BcmAclStage)
    (pipelineTable : PipelineTable) (table : AclTable) : Prop :=
  lookupTable pipelineTable.table.tableId = .ok table.table ∧ table.stage = stage ∧
    table.priority = pipelineTable.priority ∧ table.constConditions = pipelineTable.validConditions

theorem generatePhysicalAclTables_ok {lookupTable : Nat → StatusOr P4Info.Table}
    {stage : BcmAclStage} {physicalTable : List PipelineTable} {acl : PhysicalAclTable}
    (h : generatePhysicalAclTables lookupTable stage physicalTable = .ok acl) :
    acl.stage = stage ∧ List.Forall₂ (BuiltFrom lookupTable stage) physicalTable acl.logicalTables := by
  unfold generatePhysicalAclTables at h
  rw [bind_eq_ok] at h
  obtain ⟨logicalTables, hloop, h⟩ := h
  cases h
  refine ⟨rfl, (mapM_eq_ok_iff.mp hloop).imp fun pipelineTable table hbuilt => ?_⟩
  rw [bind_eq_ok] at hbuilt
  obtain ⟨p4Table, hlookup, hpure⟩ := hbuilt
  cases hpure
  exact ⟨hlookup, rfl, rfl, rfl⟩

theorem generatePhysicalAclTables_error {lookupTable : Nat → StatusOr P4Info.Table}
    {stage : BcmAclStage} {physicalTable : List PipelineTable} {e : UtilError}
    (h : generatePhysicalAclTables lookupTable stage physicalTable = .error e) :
    ∃ pipelineTable ∈ physicalTable, lookupTable pipelineTable.table.tableId = .error e := by
  unfold generatePhysicalAclTables at h
  rcases bind_eq_error.mp h with hloop | ⟨_, -, hpure⟩
  · obtain ⟨pipelineTable, hmem, hbuilt⟩ := mapM_eq_error hloop
    rcases bind_eq_error.mp hbuilt with hlookup | ⟨_, -, hpure⟩
    · exact ⟨pipelineTable, hmem, hlookup⟩
    · cases hpure
  · cases hpure

section Loop

variable {lookupTable : Nat → StatusOr P4Info.Table}

/-- Every ACL table of the loop comes from a physical table in an ACL stage,
with a logical table built from each of its tables. -/
theorem physicalAclTablesLoop_ok :
    ∀ {physicalTables : List (List PipelineTable)} {acls : List PhysicalAclTable},
      physicalAclTablesLoop lookupTable physicalTables = .ok acls →
      ∀ acl ∈ acls, ∃ physicalTable ∈ physicalTables, acl.stage ≠ .unknown ∧
        List.Forall₂ (BuiltFrom lookupTable acl.stage) physicalTable acl.logicalTables
  | [], acls, h => by
      cases h
      simp
  | [] :: _, _, h => by cases h
  | (first :: rest) :: physicalTables, acls, h => by
      unfold physicalAclTablesLoop at h
      dsimp only at h
      split_ifs at h with hstage
      · -- a table in no ACL stage is skipped
        intro acl hacl
        obtain ⟨physicalTable, hmem, hbuilt⟩ := physicalAclTablesLoop_ok h acl hacl
        exact ⟨physicalTable, List.mem_cons_of_mem _ hmem, hbuilt⟩
      · rw [bind_eq_ok] at h
        obtain ⟨physicalAclTable, hgenerate, h⟩ := h
        rw [bind_eq_ok] at h
        obtain ⟨others, hothers, h⟩ := h
        cases h
        intro acl hacl
        rcases List.mem_cons.mp hacl with rfl | hacl
        · obtain ⟨hstageEq, hbuilt⟩ := generatePhysicalAclTables_ok hgenerate
          rw [hstageEq]
          exact ⟨first :: rest, List.mem_cons_self, hstage, hbuilt⟩
        · obtain ⟨physicalTable, hmem, hbuilt⟩ := physicalAclTablesLoop_ok hothers acl hacl
          exact ⟨physicalTable, List.mem_cons_of_mem _ hmem, hbuilt⟩

/-- The loop fails on an empty physical table, or with the table mapper's
error. -/
theorem physicalAclTablesLoop_error :
    ∀ {physicalTables : List (List PipelineTable)} {e : UtilError},
      physicalAclTablesLoop lookupTable physicalTables = .error e →
      ([] ∈ physicalTables ∧ e = emptyPhysicalTable) ∨
        ∃ physicalTable ∈ physicalTables, ∃ pipelineTable ∈ physicalTable,
          lookupTable pipelineTable.table.tableId = .error e
  | [], _, h => by cases h
  | [] :: _, _, h => by
      cases h
      exact Or.inl ⟨List.mem_cons_self, rfl⟩
  | (first :: rest) :: physicalTables, e, h => by
      -- what goes wrong further on, in the tail of the pipeline
      have hlater : physicalAclTablesLoop lookupTable physicalTables = .error e →
          ([] ∈ (first :: rest) :: physicalTables ∧ e = emptyPhysicalTable) ∨
            ∃ physicalTable ∈ (first :: rest) :: physicalTables, ∃ pipelineTable ∈ physicalTable,
              lookupTable pipelineTable.table.tableId = .error e := by
        intro hrest
        rcases physicalAclTablesLoop_error hrest with ⟨hempty, he⟩ | ⟨physicalTable, hmem, hlookup⟩
        · exact Or.inl ⟨List.mem_cons_of_mem _ hempty, he⟩
        · exact Or.inr ⟨physicalTable, List.mem_cons_of_mem _ hmem, hlookup⟩
      unfold physicalAclTablesLoop at h
      dsimp only at h
      split_ifs at h with hstage
      · exact hlater h
      · rcases bind_eq_error.mp h with hgenerate | ⟨_, -, h⟩
        · exact Or.inr ⟨first :: rest, List.mem_cons_self, generatePhysicalAclTables_error hgenerate⟩
        · rcases bind_eq_error.mp h with hrest | ⟨_, -, hpure⟩
          · exact hlater hrest
          · cases hpure

end Loop

/-- Built tables carry the priorities of the tables they are built from. -/
theorem map_priority_of_forall₂ {lookupTable : Nat → StatusOr P4Info.Table} {stage : BcmAclStage}
    {physicalTable : List PipelineTable} {logicalTables : List AclTable}
    (h : List.Forall₂ (BuiltFrom lookupTable stage) physicalTable logicalTables) :
    logicalTables.map AclTable.priority = physicalTable.map PipelineTable.priority := by
  induction h with
  | nil => rfl
  | cons hbuilt _ ih => rw [List.map_cons, List.map_cons, hbuilt.2.2.1, ih]

section Pipeline

variable {hashOrder : List (P4HeaderType × Bool) → List (P4HeaderType × Bool)}
  (hperm : ∀ l, (hashOrder l).Perm l) (lookupTable : Nat → StatusOr P4Info.Table)
  (block : List P4ControlStatement)
include hperm

/-- The errors of `PhysicalAclTablesFromPipeline` are those of
`CreateInstance` and of the table mapper. -/
theorem physicalAclTablesFromPipeline_error {e : UtilError}
    (h : physicalAclTablesFromPipeline hashOrder lookupTable block = .error e) :
    createInstance hashOrder block = .error e ∨ ∃ id, lookupTable id = .error e := by
  unfold physicalAclTablesFromPipeline at h
  rcases bind_eq_error.mp h with hcreate | ⟨pp, hcreate, hloop⟩
  · exact Or.inl hcreate
  · rcases physicalAclTablesLoop_error hloop with ⟨hemptyTable, -⟩ | ⟨_, -, pipelineTable, -, hlookup⟩
    · -- no physical table of a created pipeline is empty
      exact absurd rfl ((createInstance_physicalPipeline hperm hcreate [] hemptyTable).1)
    · exact Or.inr ⟨_, hlookup⟩

/-- The ACL tables `PhysicalAclTablesFromPipeline` returns. -/
theorem physicalAclTablesFromPipeline_ok {acls : List PhysicalAclTable}
    (h : physicalAclTablesFromPipeline hashOrder lookupTable block = .ok acls) :
    ∀ acl ∈ acls, acl.stage ≠ .unknown ∧ acl.logicalTables ≠ [] ∧
      (acl.logicalTables.map AclTable.priority).Pairwise (· > ·) ∧
      ∀ t ∈ acl.logicalTables, t.stage = acl.stage ∧ HeaderRulesHold t.constConditions := by
  intro acl hacl
  unfold physicalAclTablesFromPipeline at h
  rw [bind_eq_ok] at h
  obtain ⟨pp, hcreate, hloop⟩ := h
  obtain ⟨physicalTable, hmem, hstage, hbuilt⟩ := physicalAclTablesLoop_ok hloop acl hacl
  obtain ⟨hnonempty, hdecrease, hrules⟩ := createInstance_physicalPipeline hperm hcreate _ hmem
  refine ⟨hstage, ?_, ?_, ?_⟩
  · intro hnil
    rw [hnil, List.forall₂_nil_right_iff] at hbuilt
    exact hnonempty hbuilt
  · rw [map_priority_of_forall₂ hbuilt]
    exact hdecrease
  · intro t ht
    obtain ⟨pipelineTable, hpipeline, hfrom⟩ := exists_of_forall₂_of_mem hbuilt ht
    exact ⟨hfrom.2.1, hfrom.2.2.2 ▸ hrules pipelineTable hpipeline⟩

/-- `PhysicalAclTablesFromPipeline` never reports an empty physical table:
it fails only with the error of `CreateInstance` or of the table mapper. Every
physical ACL table it returns is in an ACL stage and has logical tables, the
first of the highest priority and the priorities going down along them; every
logical table is in the stage of its physical table and has const conditions
that keep the header rules. -/
theorem acl_tables_from_pipeline :
    (∀ e, physicalAclTablesFromPipeline hashOrder lookupTable block = .error e →
      createInstance hashOrder block = .error e ∨ ∃ id, lookupTable id = .error e) ∧
    ∀ acls, physicalAclTablesFromPipeline hashOrder lookupTable block = .ok acls →
      ∀ acl ∈ acls, acl.stage ≠ .unknown ∧ acl.logicalTables ≠ [] ∧
        (acl.logicalTables.map AclTable.priority).Pairwise (· > ·) ∧
        ∀ t ∈ acl.logicalTables, t.stage = acl.stage ∧ HeaderRulesHold t.constConditions :=
  ⟨fun _ h => physicalAclTablesFromPipeline_error hperm lookupTable block h,
    fun _ h => physicalAclTablesFromPipeline_ok hperm lookupTable block h⟩

end Pipeline

/-- A block with an L3 table, an ingress ACL table for IPv4 packets with
another for UDP over IPv4 chained on it, and an egress ACL table. -/
def aclExampleBlock : List P4ControlStatement :=
  [.apply ⟨"l3_fib", 10, .l3Lpm⟩,
   .branch false (.isValid .ipv4)
     (some [.apply ⟨"acl_ipv4", 1, .ingressAcl⟩,
       .branch false (.isValid .udp) (some [.apply ⟨"acl_udp", 2, .ingressAcl⟩]) none]) none,
   .apply ⟨"acl_egress", 3, .egressAcl⟩]

/-- A table mapper that knows every table. -/
def aclExampleLookup (id : Nat) : StatusOr P4Info.Table :=
  .ok ⟨id, "table_" ++ toString id, [], false⟩

/-- The ACL tables of `aclExampleBlock`. -/
def aclExampleTables : List PhysicalAclTable :=
  (physicalAclTablesFromPipeline id aclExampleLookup aclExampleBlock).toOption.getD []

theorem acl_tables_from_pipeline_aclExample :
    (∀ e, physicalAclTablesFromPipeline id aclExampleLookup aclExampleBlock = .error e →
      createInstance id aclExampleBlock = .error e ∨ ∃ id, aclExampleLookup id = .error e) ∧
    ∀ acls, physicalAclTablesFromPipeline id aclExampleLookup aclExampleBlock = .ok acls →
      ∀ acl ∈ acls, acl.stage ≠ .unknown ∧ acl.logicalTables ≠ [] ∧
        (acl.logicalTables.map AclTable.priority).Pairwise (· > ·) ∧
        ∀ t ∈ acl.logicalTables, t.stage = acl.stage ∧ HeaderRulesHold t.constConditions :=
  acl_tables_from_pipeline (fun l => List.Perm.refl l) aclExampleLookup aclExampleBlock

/-- The L3 table is left out; the two ingress tables are physical tables of
their own (the second is chained on no miss), in the order they were applied. -/
example : aclExampleTables.map (fun acl => (acl.stage, acl.logicalTables.map fun t =>
    (t.table.id, t.priority))) = [(.ifp, [(1, 2)]), (.ifp, [(2, 3)]), (.efp, [(3, 4)])] := by
  decide

/-! ## The qualifiers of const conditions -/

/-- The type of a qualifier tells the layer of its header. -/
theorem constConditionField_ok {conditions : ValidConditionMap} {tableName : String}
    {header : P4HeaderType} {field : BcmField}
    (h : constConditionField conditions tableName header = .ok field) :
    (field.type = .ipType ∧ header ∈ l3Headers) ∨
      (field.type = .ipProtoNextHdr ∧ header ∈ l4Headers) := by
  cases header
  case arp | ipv4 | ipv6 =>
    simp only [constConditionField, Except.ok.injEq] at h
    subst h
    exact Or.inl ⟨rfl, by decide⟩
  case tcp | udp | udpPayload | gre =>
    simp only [constConditionField, Except.ok.injEq] at h
    subst h
    exact Or.inr ⟨rfl, by decide⟩
  case icmp =>
    simp only [constConditionField] at h
    split at h <;>
    · simp only [Except.ok.injEq] at h
      subst h
      exact Or.inr ⟨rfl, by decide⟩
  -- every other header is refused
  all_goals simp [constConditionField] at h

/-- UDP and its payload have one qualifier. -/
theorem constConditionField_eq_of_isUdpPair (conditions : ValidConditionMap) (tableName : String)
    {a b : P4HeaderType} (hpair : IsUdpPair a b) :
    constConditionField conditions tableName a = constConditionField conditions tableName b := by
  rcases hpair with ⟨rfl, rfl⟩ | ⟨rfl, rfl⟩ <;> rfl

/-- Const conditions that keep the header rules give qualifiers that never
contradict each other: two qualifiers of one type are the same. -/
theorem constConditionsToBcmFields_consistent
    {hashOrder : List (P4HeaderType × Bool) → List (P4HeaderType × Bool)}
    (hperm : ∀ l, (hashOrder l).Perm l) {table : AclTable}
    (hrules : HeaderRulesHold table.constConditions) {fields : List BcmField}
    (h : constConditionsToBcmFields hashOrder table = .ok fields) :
    ∀ f₁ ∈ fields, ∀ f₂ ∈ fields, f₁.type = f₂.type → f₁ = f₂ := by
  -- each field is the qualifier of a valid condition of the table
  have hsource : ∀ f ∈ fields, ∃ c ∈ table.constConditions.elems, c.2 = true ∧
      constConditionField table.constConditions table.table.name c.1 = .ok f := by
    intro f hf
    obtain ⟨c, hc, hfield⟩ := exists_of_forall₂_of_mem (mapM_eq_ok_iff.mp h) hf
    rw [List.mem_filter] at hc
    exact ⟨c, (hperm _).mem_iff.mp hc.1, hc.2, hfield⟩
  intro f₁ h₁ f₂ h₂ htype
  obtain ⟨c₁, hc₁, hvalid₁, hfield₁⟩ := hsource f₁ h₁
  obtain ⟨c₂, hc₂, hvalid₂, hfield₂⟩ := hsource f₂ h₂
  obtain ⟨-, hl3, hl4⟩ := hrules c₁ hc₁ c₂ hc₂
  have hsame : c₁.1 = c₂.1 ∨ IsUdpPair c₁.1 c₂.1 → f₁ = f₂ := by
    intro hheader
    have hfield : constConditionField table.constConditions table.table.name c₁.1 =
        constConditionField table.constConditions table.table.name c₂.1 := by
      rcases hheader with hheader | hpair
      · rw [hheader]
      · exact constConditionField_eq_of_isUdpPair _ _ hpair
    exact Except.ok.inj (hfield₁.symm.trans (hfield.trans hfield₂))
  rcases constConditionField_ok hfield₁ with ⟨htype₁, hl3₁⟩ | ⟨htype₁, hl4₁⟩ <;>
    rcases constConditionField_ok hfield₂ with ⟨htype₂, hl3₂⟩ | ⟨htype₂, hl4₂⟩
  · exact hsame (Or.inl (hl3 hvalid₁ hvalid₂ hl3₁ hl3₂))
  · rw [htype₁, htype₂] at htype
    cases htype
  · rw [htype₁, htype₂] at htype
    cases htype
  · exact hsame (hl4 hvalid₁ hvalid₂ hl4₁ hl4₂)

/-- For every control block, every ACL table `PhysicalAclTablesFromPipeline`
builds has const qualifiers that never contradict each other: at most one
value of `IP_TYPE` and one of `IP_PROTO_NEXT_HDR`. -/
theorem acl_const_qualifiers_consistent
    {hashOrder : List (P4HeaderType × Bool) → List (P4HeaderType × Bool)}
    (hperm : ∀ l, (hashOrder l).Perm l) (lookupTable : Nat → StatusOr P4Info.Table)
    {block : List P4ControlStatement} {acls : List PhysicalAclTable}
    (h : physicalAclTablesFromPipeline hashOrder lookupTable block = .ok acls) :
    ∀ acl ∈ acls, ∀ t ∈ acl.logicalTables, ∀ fields,
      constConditionsToBcmFields hashOrder t = .ok fields →
      ∀ f₁ ∈ fields, ∀ f₂ ∈ fields, f₁.type = f₂.type → f₁ = f₂ := by
  intro acl hacl t ht fields hfields
  have hrules := ((physicalAclTablesFromPipeline_ok hperm lookupTable block h acl hacl).2.2.2 t ht).2
  exact constConditionsToBcmFields_consistent hperm hrules hfields

theorem acl_const_qualifiers_consistent_aclExample :
    physicalAclTablesFromPipeline id aclExampleLookup aclExampleBlock = .ok aclExampleTables ∧
      ∀ acl ∈ aclExampleTables, ∀ t ∈ acl.logicalTables, ∀ fields,
        constConditionsToBcmFields id t = .ok fields →
        ∀ f₁ ∈ fields, ∀ f₂ ∈ fields, f₁.type = f₂.type → f₁ = f₂ :=
  ⟨rfl, @acl_const_qualifiers_consistent id (fun l => List.Perm.refl l) aclExampleLookup aclExampleBlock
    aclExampleTables rfl⟩

/-- The UDP table is qualified on IPv4 and on UDP. -/
example : (aclExampleTables.flatMap PhysicalAclTable.logicalTables).map
    (constConditionsToBcmFields id) =
    [.ok [⟨.ipType, kEtherTypeIPv4⟩], .ok [⟨.ipType, kEtherTypeIPv4⟩, ⟨.ipProtoNextHdr, kIpProtoUdp⟩],
      .ok []] := by
  decide

/-! ## The priority of an installed table -/

/-- The first of a list of priorities going down is at least every one. -/
theorem le_head_of_pairwise_gt {first : Int} {rest : List Int}
    (h : (first :: rest).Pairwise (· > ·)) : ∀ p ∈ first :: rest, p ≤ first := by
  intro p hp
  rcases List.mem_cons.mp hp with rfl | hp
  · exact le_refl p
  · exact le_of_lt (List.rel_of_pairwise_cons h hp)

/-- `InstallPhysicalTable` gives every physical ACL table of a pipeline the
highest priority of its logical tables, and the stage of the physical table:
the table the SDK creates is the one whose ID it returns. -/
theorem install_priority_highest
    {hashOrder : List (P4HeaderType × Bool) → List (P4HeaderType × Bool)}
    (hperm : ∀ l, (hashOrder l).Perm l) (lookupTable : Nat → StatusOr P4Info.Table)
    (fieldOrder : List BcmFieldType → List BcmFieldType)
    (tableMatchTypes : AclTable → StatusOr (List BcmFieldType))
    (createAclTable : BcmAclTable → StatusOr Int) (unit : Int)
    {block : List P4ControlStatement} {acls : List PhysicalAclTable}
    (h : physicalAclTablesFromPipeline hashOrder lookupTable block = .ok acls) :
    ∀ acl ∈ acls, ∀ id,
      installPhysicalTable hashOrder fieldOrder tableMatchTypes createAclTable unit acl = .ok id →
      ∃ bcmAclTable, createAclTable bcmAclTable = .ok id ∧ bcmAclTable.stage = acl.stage ∧
        bcmAclTable.priority ∈ acl.logicalTables.map AclTable.priority ∧
        ∀ t ∈ acl.logicalTables, t.priority ≤ bcmAclTable.priority := by
  intro acl hacl id hinstall
  obtain ⟨-, hnonempty, hdecrease, -⟩ := physicalAclTablesFromPipeline_ok hperm lookupTable block h acl hacl
  obtain ⟨first, rest, hcons⟩ := List.exists_cons_of_ne_nil hnonempty
  unfold installPhysicalTable at hinstall
  rw [hcons] at hinstall
  dsimp only at hinstall
  rw [bind_eq_ok] at hinstall
  obtain ⟨bcmFields, -, hcreate⟩ := hinstall
  refine ⟨⟨first.priority, fieldOrder bcmFields, acl.stage⟩, ?_, rfl, ?_, ?_⟩
  · cases hresult : createAclTable ⟨first.priority, fieldOrder bcmFields, acl.stage⟩ with
    | error e =>
        rw [hresult] at hcreate
        cases hcreate
    | ok id' =>
        rw [hresult] at hcreate
        cases hcreate
        rfl
  · rw [hcons]
    exact List.mem_map_of_mem List.mem_cons_self
  · rw [hcons, List.map_cons] at hdecrease
    intro t ht
    rw [hcons] at ht
    exact le_head_of_pairwise_gt hdecrease t.priority (List.mem_map_of_mem ht)

theorem install_priority_highest_aclExample :
    physicalAclTablesFromPipeline id aclExampleLookup aclExampleBlock = .ok aclExampleTables ∧
      ∀ acl ∈ aclExampleTables, ∀ tableId,
        installPhysicalTable id id (fun _ => .ok []) (fun table => .ok table.priority) 0 acl =
          .ok tableId →
        ∃ bcmAclTable : BcmAclTable, (.ok bcmAclTable.priority : StatusOr Int) = .ok tableId ∧
          bcmAclTable.stage = acl.stage ∧
          bcmAclTable.priority ∈ acl.logicalTables.map AclTable.priority ∧
          ∀ t ∈ acl.logicalTables, t.priority ≤ bcmAclTable.priority :=
  ⟨rfl, @install_priority_highest id (fun l => List.Perm.refl l) aclExampleLookup id (fun _ => .ok [])
    (fun table => .ok table.priority) 0 aclExampleBlock aclExampleTables rfl⟩

/-! ## The fields of an installed table -/

/-- A known BCM type of a match field of `table`: not `UNKNOWN`, and the type
of the field the table mapper maps one of its match fields to. -/
def KnownMatchType (maps : FlowMaps) (table : AclTable) (type : BcmFieldType) : Prop :=
  type ≠ .unknown ∧ ∃ matchField ∈ table.table.matchFields, ∃ lookup,
    maps.fieldConvertByTable (table.table.id, matchField.id) = some lookup ∧
    p4FieldTypeToBcmFieldType lookup.mappedField.type = type

theorem getTableMatchTypesStep_eq_ok {maps : FlowMaps} {table : AclTable}
    {bcmFields r : List BcmFieldType} {fieldId : Nat} :
    getTableMatchTypesStep maps table bcmFields fieldId = .ok r ↔
      ∃ lookup, maps.fieldConvertByTable (table.table.id, fieldId) = some lookup ∧
        r = if p4FieldTypeToBcmFieldType lookup.mappedField.type = .unknown then bcmFields
          else bcmFields.insert (p4FieldTypeToBcmFieldType lookup.mappedField.type) := by
  unfold getTableMatchTypesStep mapMatchField
  cases hlookup : maps.fieldConvertByTable (table.table.id, fieldId) with
  | none => simp [Except.mapError, bind, Except.bind]
  | some lookup =>
      simp only [Except.mapError, bind, Except.bind, Option.some.injEq, exists_eq_left']
      split <;> simp [pure, Except.pure, eq_comm]

/-- A turn adds to the set the known type of its field. -/
theorem mem_of_getTableMatchTypesStep {maps : FlowMaps} {table : AclTable}
    {bcmFields r : List BcmFieldType} {fieldId : Nat}
    (h : getTableMatchTypesStep maps table bcmFields fieldId = .ok r) (type : BcmFieldType) :
    type ∈ r ↔ type ∈ bcmFields ∨ type ≠ .unknown ∧ ∃ lookup,
      maps.fieldConvertByTable (table.table.id, fieldId) = some lookup ∧
      p4FieldTypeToBcmFieldType lookup.mappedField.type = type := by
  obtain ⟨lookup, hlookup, rfl⟩ := getTableMatchTypesStep_eq_ok.mp h
  simp only [hlookup, Option.some.injEq, exists_eq_left']
  split_ifs with hunknown
  · -- an unknown type is left out
    constructor
    · exact Or.inl
    · rintro (hmem | ⟨hne, htype⟩)
      · exact hmem
      · exact absurd (htype.symm.trans hunknown) hne
  · rw [List.mem_insert_iff]
    constructor
    · rintro (rfl | hmem)
      · exact Or.inr ⟨hunknown, rfl⟩
      · exact Or.inl hmem
    · rintro (hmem | ⟨-, rfl⟩)
      · exact Or.inr hmem
      · exact Or.inl rfl

theorem mem_matchFields {idOrder : List Nat → List Nat} (hidOrder : ∀ l, (idOrder l).Perm l)
    (table : AclTable) (fieldId : Nat) :
    fieldId ∈ table.matchFields idOrder ↔
      ∃ matchField ∈ table.table.matchFields, matchField.id = fieldId := by
  rw [AclTable.matchFields, (hidOrder _).mem_iff, List.mem_dedup, List.mem_map]

/-- When the table mapper maps every match field of a table,
`GetTableMatchTypes` returns its known BCM types, once each. -/
theorem getTableMatchTypes_eq_ok {idOrder : List Nat → List Nat}
    (hidOrder : ∀ l, (idOrder l).Perm l) {maps : FlowMaps} {table : AclTable}
    (hmapped : ∀ matchField ∈ table.table.matchFields,
      (maps.fieldConvertByTable (table.table.id, matchField.id)).isSome) :
    ∃ types, getTableMatchTypes idOrder maps table = .ok types ∧ types.Nodup ∧
      ∀ type, type ∈ types ↔ KnownMatchType maps table type := by
  -- every turn succeeds and keeps the set free of repeats
  obtain ⟨types, hloop, hnodup⟩ := exists_foldlM_eq_ok (f := getTableMatchTypesStep maps table)
    List.Nodup (table.matchFields idOrder) []
    List.nodup_nil fun acc fieldId hacc hfield => by
      obtain ⟨matchField, hmem, rfl⟩ := (mem_matchFields hidOrder table fieldId).mp hfield
      obtain ⟨lookup, hlookup⟩ := Option.isSome_iff_exists.mp (hmapped matchField hmem)
      refine ⟨_, getTableMatchTypesStep_eq_ok.mpr ⟨lookup, hlookup, rfl⟩, ?_⟩
      split_ifs
      · exact hacc
      · exact hacc.insert
  refine ⟨types, hloop, hnodup, fun type => ?_⟩
  -- each turn adds the known type of its field
  rw [foldlM_holds_iff (f := getTableMatchTypesStep maps table) (fun l type => type ∈ l)
    (fun fieldId type => type ≠ .unknown ∧ ∃ lookup,
      maps.fieldConvertByTable (table.table.id, fieldId) = some lookup ∧
      p4FieldTypeToBcmFieldType lookup.mappedField.type = type)
    (fun _ _ _ type h => mem_of_getTableMatchTypesStep h type) _ [] types hloop type]
  simp only [List.not_mem_nil, false_or, KnownMatchType, mem_matchFields hidOrder]
  constructor
  · rintro ⟨fieldId, ⟨matchField, hmem, rfl⟩, hne, lookup, hlookup, htype⟩
    exact ⟨hne, matchField, hmem, lookup, hlookup, htype⟩
  · rintro ⟨hne, matchField, hmem, lookup, hlookup, htype⟩
    exact ⟨matchField.id, ⟨matchField, hmem, rfl⟩, hne, lookup, hlookup, htype⟩

theorem mem_getTableMatchTypes_iff {idOrder : List Nat → List Nat}
    (hidOrder : ∀ l, (idOrder l).Perm l) {maps : FlowMaps} {table : AclTable}
    (hmapped : ∀ matchField ∈ table.table.matchFields,
      (maps.fieldConvertByTable (table.table.id, matchField.id)).isSome) (type : BcmFieldType) :
    (∃ types, getTableMatchTypes idOrder maps table = .ok types ∧ type ∈ types) ↔
      KnownMatchType maps table type := by
  obtain ⟨types, htypes, -, hmem⟩ := getTableMatchTypes_eq_ok hidOrder hmapped
  rw [htypes]
  simp only [Except.ok.injEq, exists_eq_left']
  exact hmem type

/-- One turn of the install loop adds the table's match types and the types
of its const qualifiers. -/
theorem mem_of_installFieldsStep
    {hashOrder : List (P4HeaderType × Bool) → List (P4HeaderType × Bool)}
    {tableMatchTypes : AclTable → StatusOr (List BcmFieldType)} {fields r : List BcmFieldType}
    {table : AclTable} (h : installFieldsStep hashOrder tableMatchTypes fields table = .ok r)
    (type : BcmFieldType) :
    type ∈ r ↔ type ∈ fields ∨ ((∃ types, tableMatchTypes table = .ok types ∧ type ∈ types) ∨
      ∃ consts, constConditionsToBcmFields hashOrder table = .ok consts ∧
        type ∈ consts.map BcmField.type) := by
  unfold installFieldsStep at h
  obtain ⟨types, htypes, h⟩ := bind_eq_ok.mp h
  obtain ⟨consts, hconsts, h⟩ := bind_eq_ok.mp h
  cases h
  simp only [htypes, hconsts, Except.ok.injEq, exists_eq_left', List.mem_union_iff]
  constructor
  · rintro (hconst | htype | hfield)
    · exact .inr (.inr hconst)
    · exact .inr (.inl htype)
    · exact .inl hfield
  · rintro (hfield | htype | hconst)
    · exact .inr (.inr hfield)
    · exact .inr (.inl htype)
    · exact .inl hconst

/-- When the match types and the const qualifiers of every logical table are
found, `InstallPhysicalTable` asks the SDK for the table of the first logical
table's priority and the physical table's stage, whose fields are the types
found, each once. -/
theorem installPhysicalTable_eq_of_found
    {hashOrder : List (P4HeaderType × Bool) → List (P4HeaderType × Bool)}
    (fieldOrder : List BcmFieldType → List BcmFieldType)
    {tableMatchTypes : AclTable → StatusOr (List BcmFieldType)}
    (createAclTable : BcmAclTable → StatusOr Int) (unit : Int) {acl : PhysicalAclTable}
    {first : AclTable} {rest : List AclTable} (hfirst : acl.logicalTables = first :: rest)
    (hfound : ∀ t ∈ acl.logicalTables, (∃ types, tableMatchTypes t = .ok types) ∧
      ∃ consts, constConditionsToBcmFields hashOrder t = .ok consts) :
    ∃ fields : List BcmFieldType, fields.Nodup ∧
      (∀ type, type ∈ fields ↔ ∃ t ∈ acl.logicalTables,
        (∃ types, tableMatchTypes t = .ok types ∧ type ∈ types) ∨
        ∃ consts, constConditionsToBcmFields hashOrder t = .ok consts ∧
          type ∈ consts.map BcmField.type) ∧
      installPhysicalTable hashOrder fieldOrder tableMatchTypes createAclTable unit acl =
        (createAclTable ⟨first.priority, fieldOrder fields, acl.stage⟩).mapError fun e =>
          e.append (" Failed to install physical table in unit " ++ toString unit ++ ". Table: .") := by
  -- every turn succeeds, and the set never holds a type twice
  obtain ⟨fields, hloop, hnodup⟩ := exists_foldlM_eq_ok
    (f := installFieldsStep hashOrder tableMatchTypes) List.Nodup acl.logicalTables []
    List.nodup_nil fun acc t hacc ht => by
      obtain ⟨⟨types, htypes⟩, consts, hconsts⟩ := hfound t ht
      refine ⟨consts.map BcmField.type ∪ (types ∪ acc), ?_, (hacc.union types).union _⟩
      rw [installFieldsStep, htypes, hconsts]
      rfl
  refine ⟨fields, hnodup, fun type => ?_, ?_⟩
  · rw [foldlM_holds_iff (f := installFieldsStep hashOrder tableMatchTypes)
      (fun l type => type ∈ l) _ (fun _ _ _ type h => mem_of_installFieldsStep h type) _ [] fields
      hloop type]
    simp only [List.not_mem_nil, false_or]
  · unfold installPhysicalTable
    split
    · rename_i hnil
      rw [hfirst] at hnil
      cases hnil
    · rename_i first' rest' hcons
      rw [hfirst, List.cons.injEq] at hcons
      obtain ⟨rfl, -⟩ := hcons
      rw [hloop]
      rfl

/-- A const qualifier is an `IP_TYPE` or an `IP_PROTO_NEXT_HDR`, never
`UNKNOWN`. -/
theorem type_ne_unknown_of_constConditionsToBcmFields
    {hashOrder : List (P4HeaderType × Bool) → List (P4HeaderType × Bool)} {table : AclTable}
    {consts : List BcmField} (h : constConditionsToBcmFields hashOrder table = .ok consts) :
    ∀ field ∈ consts, field.type ≠ .unknown := by
  intro field hfield
  obtain ⟨c, -, hconst⟩ := exists_of_forall₂_of_mem (mapM_eq_ok_iff.mp h) hfield
  rcases constConditionField_ok hconst with ⟨htype, -⟩ | ⟨htype, -⟩ <;>
  · rw [htype]
    decide

/-- For every physical ACL table whose logical tables the table mapper maps
field by field and whose const conditions give qualifiers,
`InstallPhysicalTable`, with `GetTableMatchTypes` asking the table mapper,
asks the SDK to create the table of the first logical table's priority and
the physical table's stage whose fields are each known BCM type of a match
field of a logical table and each type of a const qualifier, once each, and
never `UNKNOWN`. -/
theorem installed_table_fields {idOrder : List Nat → List Nat} (hidOrder : ∀ l, (idOrder l).Perm l)
    {fieldOrder : List BcmFieldType → List BcmFieldType} (hfieldOrder : ∀ l, (fieldOrder l).Perm l)
    (hashOrder : List (P4HeaderType × Bool) → List (P4HeaderType × Bool)) (maps : FlowMaps)
    (createAclTable : BcmAclTable → StatusOr Int) (unit : Int) {acl : PhysicalAclTable}
    {first : AclTable} {rest : List AclTable} (hfirst : acl.logicalTables = first :: rest)
    (hmapped : ∀ t ∈ acl.logicalTables, ∀ matchField ∈ t.table.matchFields,
      (maps.fieldConvertByTable (t.table.id, matchField.id)).isSome)
    (hconst : ∀ t ∈ acl.logicalTables, ∃ consts, constConditionsToBcmFields hashOrder t = .ok consts) :
    ∃ fields : List BcmFieldType, fields.Nodup ∧ BcmFieldType.unknown ∉ fields ∧
      (∀ type, type ∈ fields ↔ ∃ t ∈ acl.logicalTables, KnownMatchType maps t type ∨
        ∃ consts, constConditionsToBcmFields hashOrder t = .ok consts ∧
          type ∈ consts.map BcmField.type) ∧
      installPhysicalTable hashOrder fieldOrder (getTableMatchTypes idOrder maps) createAclTable unit
          acl =
        (createAclTable ⟨first.priority, fields, acl.stage⟩).mapError fun e =>
          e.append (" Failed to install physical table in unit " ++ toString unit ++ ". Table: .") := by
  have hfound : ∀ t ∈ acl.logicalTables, (∃ types, getTableMatchTypes idOrder maps t = .ok types) ∧
      ∃ consts, constConditionsToBcmFields hashOrder t = .ok consts := by
    intro t ht
    obtain ⟨types, htypes, -⟩ := getTableMatchTypes_eq_ok hidOrder (hmapped t ht)
    exact ⟨⟨types, htypes⟩, hconst t ht⟩
  obtain ⟨fields, hnodup, hmem, hinstall⟩ :=
    installPhysicalTable_eq_of_found fieldOrder createAclTable unit hfirst hfound
  -- the SDK reads the set in its hash order
  have hmem' : ∀ type, type ∈ fieldOrder fields ↔ ∃ t ∈ acl.logicalTables,
      KnownMatchType maps t type ∨ ∃ consts, constConditionsToBcmFields hashOrder t = .ok consts ∧
        type ∈ consts.map BcmField.type := by
    intro type
    rw [(hfieldOrder fields).mem_iff, hmem]
    exact exists_congr fun t => and_congr_right fun ht =>
      or_congr_left (mem_getTableMatchTypes_iff hidOrder (hmapped t ht) type)
  refine ⟨fieldOrder fields, (hfieldOrder fields).nodup_iff.mpr hnodup, fun hunknown => ?_, hmem',
    hinstall⟩
  obtain ⟨t, -, hknown | ⟨consts, hconsts, hfield⟩⟩ := (hmem' _).mp hunknown
  · exact hknown.1 rfl
  · obtain ⟨field, hfield, htype⟩ := List.mem_map.mp hfield
    exact type_ne_unknown_of_constConditionsToBcmFields hconsts field hfield htype

/-- An ingress ACL table on the P4 table of `aclFlowMaps`, matching an IPv4
destination and an L4 destination port of IPv4 packets. -/
def aclIngressTable : AclTable :=
  ⟨⟨0x02000001, "acl_ingress", [⟨1, none, 32, .exact⟩, ⟨2, none, 16, .ternary⟩], false⟩, .ifp, 1,
    ⟨[(.ipv4, true)], List.nodup_singleton _⟩⟩

/-- The physical table of that one logical table. -/
def aclIngressPhysical : PhysicalAclTable := ⟨.ifp, [aclIngressTable]⟩

/-- An SDK that gives a created table its priority as ID. -/
def priorityIdSdk (table : BcmAclTable) : StatusOr Int := .ok table.priority

theorem installed_table_fields_aclIngress :
    aclIngressPhysical.logicalTables = aclIngressTable :: [] ∧
      (∀ t ∈ aclIngressPhysical.logicalTables, ∀ matchField ∈ t.table.matchFields,
        (aclFlowMaps.fieldConvertByTable (t.table.id, matchField.id)).isSome) ∧
      (∀ t ∈ aclIngressPhysical.logicalTables, ∃ consts, constConditionsToBcmFields id t = .ok consts) ∧
      ∃ fields : List BcmFieldType, fields.Nodup ∧ BcmFieldType.unknown ∉ fields ∧
        (∀ type, type ∈ fields ↔ ∃ t ∈ aclIngressPhysical.logicalTables,
          KnownMatchType aclFlowMaps t type ∨ ∃ consts, constConditionsToBcmFields id t = .ok consts ∧
            type ∈ consts.map BcmField.type) ∧
        installPhysicalTable id id (getTableMatchTypes id aclFlowMaps) priorityIdSdk 0
            aclIngressPhysical =
          (priorityIdSdk ⟨aclIngressTable.priority, fields, aclIngressPhysical.stage⟩).mapError
            fun e => e.append (" Failed to install physical table in unit " ++ toString 0 ++
              ". Table: .") := by
  have hconst : ∀ t ∈ aclIngressPhysical.logicalTables,
      ∃ consts, constConditionsToBcmFields id t = .ok consts := by
    intro t ht
    rw [show t = aclIngressTable from List.mem_singleton.mp ht]
    exact ⟨_, rfl⟩
  have hmapped : ∀ t ∈ aclIngressPhysical.logicalTables, ∀ matchField ∈ t.table.matchFields,
      (aclFlowMaps.fieldConvertByTable (t.table.id, matchField.id)).isSome := by
    decide
  exact ⟨rfl, hmapped, hconst, installed_table_fields (fun l => List.Perm.refl l)
    (fun l => List.Perm.refl l) id aclFlowMaps priorityIdSdk 0 rfl hmapped hconst⟩

/-- The table is created with the IPv4 destination, the L4 destination port
and the `IP_TYPE` of its const condition. -/
example : installPhysicalTable id id (getTableMatchTypes id aclFlowMaps)
    (fun table => .ok table.fields.length) 0 aclIngressPhysical = .ok 3 := by
  decide

end Stratum.Ports.BcmAclManager
