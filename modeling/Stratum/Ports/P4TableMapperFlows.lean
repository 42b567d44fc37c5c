import Stratum.Ports.P4TableMapper
import Stratum.Ports.P4MatchKey
import Stratum.Ports.PipelineProcessor
import Stratum.Verified.Run

set_option linter.dupNamespace false

/-!
# Table entries in `P4TableMapper`

`P4TableMapper::MapFlowEntry` (`stratum/hal/lib/p4/p4_table_mapper.cc`)
turns a P4Runtime `TableEntry` into the `CommonFlowEntry` a switch's table
managers program. After the checks that end it early (a P4 configuration, a
table the P4Info knows, match fields that `PrepareMatchFields` accepts, an
action on insert), it makes every effort to fill the entry: the table ID, each
match field and the action are processed in turn, each adding its output to
the entry whatever the others did, and the statuses are accumulated by
`APPEND_STATUS_IF_ERROR`.

The maps that `PushForwardingPipelineConfig` builds are the state
`FlowMaps`: the P4Info's tables, the table map's descriptors by P4 object ID,
the conversion of each match field of each table, and the three maps of the
`P4ActionParamMapper`.

`ProcessMatchField` calls `P4MatchKey::CreateInstance`, which returns
`nullptr` for an `optional` match and for any match kind it does not know,
and then calls `Convert` on that pointer. The model returns `none` for that
null dereference.

Main results:

* `optional_match_dereferences_null_key` — the mapping dereferences the null
  match key exactly when, past the early checks, the entry requests an
  `optional` or unknown match on a field its table converts;
* `mapped_entry_well_formed` — an entry mapped without error passed the early
  checks, and holds the table's descriptor information, its internal fields
  followed by every prepared match field converted in order, the mapped
  action, and the request's priority and metadata;
* `table_action_maps_by_assignments` — when an action maps, and the action it
  maps to: the assignments of its parameters and constants, in order, then
  the descriptor's primitives;
* `prepareMatchFields_eq_ok_iff` — the prepared fields are the requested
  ones, followed by a don't-care match for each P4Info field not requested.
-/

namespace Stratum.Ports.P4TableMapper

open Stratum.Ports.Status Stratum.Ports.P4Runtime Stratum.Ports.P4Utils
open Stratum.Ports.P4MatchKey (P4FieldConversionEntry P4MatchKey MappedValue)
open Stratum.Ports.Pipeline (PipelineStage)
open Stratum.Ports.BcmUdfManager (P4HeaderType)
open Stratum.Verified.BigEndian (ByteString)

/-! ## Enumerations of `p4_table_defs.proto` -/

/-- `P4TableType`, by the number of its enumerator. -/
structure P4TableType where
  number : Nat
  deriving DecidableEq, Repr

/-- `P4_TABLE_UNKNOWN`, the default. -/
def P4TableType.p4TableUnknown : P4TableType := ⟨0⟩

/-- `P4ActionType`, by the number of its enumerator. -/
structure P4ActionType where
  number : Nat
  deriving DecidableEq, Repr

/-- `P4_ACTION_TYPE_UNKNOWN`, the default. -/
def P4ActionType.p4ActionTypeUnknown : P4ActionType := ⟨0⟩

/-- `P4_ACTION_TYPE_PROFILE_MEMBER_ID`. -/
def P4ActionType.p4ActionTypeProfileMemberId : P4ActionType := ⟨2⟩

/-- `P4_ACTION_TYPE_PROFILE_GROUP_ID`. -/
def P4ActionType.p4ActionTypeProfileGroupId : P4ActionType := ⟨3⟩

/-- `P4ActionOp`, by the number of its enumerator. -/
structure P4ActionOp where
  number : Nat
  deriving DecidableEq, Repr

/-- `P4MeterColor`, by the number of its enumerator. -/
structure P4MeterColor where
  number : Nat
  deriving DecidableEq, Repr

/-! ## `CommonFlowEntry` (`common_flow_entry.proto`) -/

/-- `P4TableInfo`, without its annotations. -/
structure P4TableInfo where
  id : Nat
  name : String
  type : P4TableType
  pipelineStage : PipelineStage
  deriving DecidableEq, Repr

/-- The cleared `P4TableInfo`. -/
def P4TableInfo.default : P4TableInfo := ⟨0, "", .p4TableUnknown, .defaultStage⟩

/-- `MappedField`: the value and mask that `P4MatchKey::Convert` writes, with
the field's type, place and header. -/
structure MappedField where
  type : P4FieldType
  key : P4MatchKey.MappedField
  bitOffset : Nat
  bitWidth : Nat
  headerType : P4HeaderType
  deriving DecidableEq, Repr

/-- The `MappedField` that `add_fields()` appends. -/
def MappedField.default : MappedField :=
  ⟨.p4FieldTypeUnknown, ⟨.notSet, .notSet⟩, 0, 0, .unknown⟩

/-- The `value` oneof of `P4ActionFunction::P4ActionFields`. -/
inductive P4ActionFields.Value
  | u32 (value : Nat)
  | u64 (value : Nat)
  | b (bytes : ByteString)
  | notSet
  deriving DecidableEq, Repr

/-- `P4ActionFunction::P4ActionFields`: a header field an action modifies, with
its value. -/
structure P4ActionFields where
  type : P4FieldType
  value : P4ActionFields.Value
  deriving DecidableEq, Repr

/-- `P4ActionFunction::P4ActionPrimitive`. -/
structure P4ActionPrimitive where
  opCode : P4ActionOp
  meterColors : List P4MeterColor
  deriving DecidableEq, Repr

/-- `P4ActionFunction`. -/
structure P4ActionFunction where
  modifyFields : List P4ActionFields
  primitives : List P4ActionPrimitive
  deriving DecidableEq, Repr

/-- The `action_value` oneof of `MappedAction`. -/
inductive MappedAction.Value
  | function (function : P4ActionFunction)
  | profileMemberId (memberId : Nat)
  | profileGroupId (groupId : Nat)
  | notSet
  deriving DecidableEq, Repr

/-- `MappedAction`. -/
structure MappedAction where
  type : P4ActionType
  value : MappedAction.Value
  deriving DecidableEq, Repr

/-- The cleared `MappedAction`. -/
def MappedAction.default : MappedAction := ⟨.p4ActionTypeUnknown, .notSet⟩

/-- `function()`: the default function unless the `function` case is set. -/
def MappedAction.function (action : MappedAction) : P4ActionFunction :=
  match action.value with
  | .function function => function
  | _ => ⟨[], []⟩

/-- A change made through `mutable_function()`, which sets the `function`
case. -/
def MappedAction.modifyFunction (action : MappedAction)
    (f : P4ActionFunction → P4ActionFunction) : MappedAction :=
  { action with value := .function (f action.function) }

/-- `CommonFlowEntry`. -/
structure CommonFlowEntry where
  tableInfo : P4TableInfo
  fields : List MappedField
  action : MappedAction
  priority : Int
  controllerMetadata : Nat
  deriving DecidableEq, Repr

/-- The entry `Clear()` leaves. -/
def CommonFlowEntry.default : CommonFlowEntry := ⟨.default, [], .default, 0, 0⟩

/-! ## The table map (`p4_table_map.proto`) -/

/-- `P4TableDescriptor`, with the fields `ProcessTableID` reads. -/
structure P4TableDescriptor where
  type : P4TableType
  pipelineStage : PipelineStage
  hasStaticEntries : Bool
  internalMatchFields : List MappedField
  deriving DecidableEq, Repr

/-- `P4AssignSourceValue`: its `source_value` oneof. -/
inductive P4AssignSourceValue
  | parameterName (name : String)
  | constantParam (value : Int)
  | sourceFieldName (name : String)
  | sourceHeaderName (name : String)
  | notSet
  deriving DecidableEq, Repr

/-- `constant_param()`: zero unless that case is set. -/
def P4AssignSourceValue.getConstantParam : P4AssignSourceValue → Int
  | .constantParam value => value
  | _ => 0

/-- `P4ActionDescriptor::P4ActionInstructions`, with the fields the mapping
reads. -/
structure P4ActionInstructions where
  assignedValue : P4AssignSourceValue
  primitives : List P4ActionOp
  deriving DecidableEq, Repr

/-- `P4ActionDescriptor::P4MeterColorAction`. -/
structure P4MeterColorAction where
  colors : List P4MeterColor
  ops : List P4ActionInstructions
  deriving DecidableEq, Repr

/-- `P4ActionDescriptor`, with the fields `ProcessActionFunction` reads. -/
structure P4ActionDescriptor where
  type : P4ActionType
  primitiveOps : List P4ActionOp
  colorActions : List P4MeterColorAction
  deriving DecidableEq, Repr

/-- The `descriptor` oneof of a `P4TableMapValue` of `global_id_table_map_`:
the table and action descriptors the mapping reads, any other case as
`other`. -/
inductive P4TableMapEntry
  | tableDescriptor (descriptor : P4TableDescriptor)
  | actionDescriptor (descriptor : P4ActionDescriptor)
  | other
  deriving DecidableEq, Repr

/-- `table_descriptor()`: the default descriptor for another case. -/
def P4TableMapEntry.getTableDescriptor : P4TableMapEntry → P4TableDescriptor
  | .tableDescriptor descriptor => descriptor
  | _ => ⟨.p4TableUnknown, .defaultStage, false, []⟩

/-- `action_descriptor()`: the default descriptor for another case. -/
def P4TableMapEntry.getActionDescriptor : P4TableMapEntry → P4ActionDescriptor
  | .actionDescriptor descriptor => descriptor
  | _ => ⟨.p4ActionTypeUnknown, [], []⟩

/-! ## The mapper's state -/

/-- The fields of a P4Info `Table` the mapping reads: its preamble's ID and
name, the IDs of its match fields and its const default action. -/
structure TableP4Info where
  id : Nat
  name : String
  matchFieldIds : List Nat
  constDefaultActionId : Nat
  deriving DecidableEq, Repr

/-- `P4FieldConvertValue`: how a match field of a table converts, and the
type, place and header its mapped field gets. -/
structure P4FieldConvertValue where
  conversionEntry : P4FieldConversionEntry
  mappedField : MappedField
  deriving DecidableEq, Repr

/-- `P4ActionParamMapper::P4ActionParamEntry`, with the instructions its
`param_descriptor` points to. -/
structure P4ActionParamEntry where
  fieldTypes : List P4FieldType
  bitWidth : Int
  paramDescriptor : P4ActionInstructions
  deriving DecidableEq, Repr

/-- The maps of `P4ActionParamMapper`: the valid `(table, action)` pairs, the
entry of each `(action, parameter)` and the constant assignments of each
action. -/
structure P4ActionParamMapper where
  validTableActions : List (Nat × Nat)
  actionParamMap : Nat × Nat → Option P4ActionParamEntry
  actionConstantMap : Nat → Option (List P4ActionParamEntry)

/-- The members of `P4TableMapper` that `MapFlowEntry` reads:
`p4_info_manager_` by its `FindTableByID`, `global_id_table_map_`,
`field_convert_by_table_`, `param_mapper_`, `static_table_updates_enabled_`,
and `FLAGS_enforce_bytestring_length`. -/
structure FlowMaps where
  p4InfoManager : Option (Nat → StatusOr TableP4Info)
  globalIdTableMap : Nat → Option P4TableMapEntry
  fieldConvertByTable : Nat × Nat → Option P4FieldConvertValue
  paramMapper : P4ActionParamMapper
  staticTableUpdatesEnabled : Bool
  enforceBytestringLength : Bool

/-! ## The action parameter mapper -/

section ParamMapper

variable (paramMapper : P4ActionParamMapper)

/-- `ConvertParamValue`: a parameter of at most 32 or 64 bits is read as an
integer by `ByteStreamToUint`, a wider one is kept as bytes. -/
def convertParamValue (param : Param) (bitWidth : Int) : P4ActionFields.Value :=
  if bitWidth ≤ 32 then .u32 (byteStreamToUint 4 param.value)
  else if bitWidth ≤ 64 then .u64 (byteStreamToUint 8 param.value)
  else .b param.value

/-- `MapActionAssignment`: a modified field of each of the entry's field
types, then a primitive of each of its descriptor's primitives. -/
def mapActionAssignment (paramMapEntry : P4ActionParamEntry) (paramValue : P4ActionFields.Value)
    (mappedAction : MappedAction) : MappedAction :=
  mappedAction.modifyFunction fun function =>
    ⟨function.modifyFields ++ paramMapEntry.fieldTypes.map (⟨·, paramValue⟩),
      function.primitives ++ paramMapEntry.paramDescriptor.primitives.map (⟨·, []⟩)⟩

/-- `MapActionParam`. -/
def mapActionParam (actionId : Nat) (param : Param) (mappedAction : MappedAction) :
    StatusOr Unit × MappedAction :=
  match paramMapper.actionParamMap (actionId, param.paramId) with
  | some paramMapEntry =>
      (.ok (), mapActionAssignment paramMapEntry
        (convertParamValue param paramMapEntry.bitWidth) mappedAction)
  | none =>
      (appendStatusIfError (.ok ()) (.error ⟨.errOperNotSupported,
        "P4 action parameter  has no mapping descriptor or is not" ++
        " a recognized parameter for action ID " ++ printP4ObjectId actionId⟩), mappedAction)

/-- The constant of an assignment as the `uint64` the code reads it into,
written as a `fixed32` or a `fixed64`. -/
def constantValue (paramMapEntry : P4ActionParamEntry) : Option P4ActionFields.Value :=
  let constantParam := paramMapEntry.paramDescriptor.assignedValue.getConstantParam
  if paramMapEntry.bitWidth ≤ 32 then some (.u32 (constantParam % 2 ^ 32).toNat)
  else if paramMapEntry.bitWidth ≤ 64 then some (.u64 (constantParam % 2 ^ 64).toNat)
  else none

/-- The loop of `MapActionConstants`: it returns at the first constant wider
than 64 bits, with the assignments of the constants before it made. -/
def mapConstants (actionId : Nat) :
    List P4ActionParamEntry → MappedAction → StatusOr Unit × MappedAction
  | [], mappedAction => (.ok (), mappedAction)
  | paramMapEntry :: rest, mappedAction =>
      match constantValue paramMapEntry with
      | some value => mapConstants actionId rest (mapActionAssignment paramMapEntry value mappedAction)
      | none =>
          (.error ⟨.errOperNotSupported, "P4 action ID " ++ printP4ObjectId actionId ++
            " constant bit width " ++ toString paramMapEntry.bitWidth ++
            " exceeds maximum size (64)"⟩, mappedAction)

/-- `MapActionConstants`: an action without constants does no assignment. -/
def mapActionConstants (actionId : Nat) (mappedAction : MappedAction) :
    StatusOr Unit × MappedAction :=
  match paramMapper.actionConstantMap actionId with
  | some paramMapList => mapConstants actionId paramMapList mappedAction
  | none => (.ok (), mappedAction)

/-- `IsActionInTableInfo`. -/
def isActionInTableInfo (tableId actionId : Nat) : StatusOr Unit :=
  if (tableId, actionId) ∈ paramMapper.validTableActions then .ok ()
  else .error ⟨.errOperNotSupported, "P4 action ID " ++ printP4ObjectId actionId ++
    " is not a recognized action for table ID " ++ printP4ObjectId tableId⟩

end ParamMapper

/-! ## `MapFlowEntry` and its steps -/

section Mapping

variable (maps : FlowMaps)

/-- The error of `PrepareMatchFields` for a second match of one field. -/
def multipleMatchError (tableName : String) (fieldId : Nat) : UtilError :=
  ⟨.errInvalidParam, "P4 TableEntry update of table " ++ tableName ++
    " has multiple match field entries for field_id " ++ toString fieldId ++ ". "⟩

/-- One pass of the request loop of `PrepareMatchFields`: a field ID must be
non-zero and new to `requested_field_ids`. -/
def prepareStep (tableName : String) (acc : List Nat × List FieldMatch)
    (matchField : FieldMatch) : StatusOr (List Nat × List FieldMatch) :=
  if matchField.fieldId = 0 then
    .error ⟨.errInvalidParam, "P4 TableEntry match field has no field_id. "⟩
  else if matchField.fieldId ∈ acc.1 then .error (multipleMatchError tableName matchField.fieldId)
  else .ok (matchField.fieldId :: acc.1, acc.2 ++ [matchField])

/-- `PrepareMatchFields`: the requested fields, then a don't-care match for
each match field of the P4Info table not requested. An entry without match
fields sets the default action, which a const default action forbids. -/
def prepareMatchFields (tableP4Info : TableP4Info) (tableEntry : TableEntry) :
    StatusOr (List FieldMatch) :=
  if tableEntry.fieldMatches = [] then
    if tableP4Info.constDefaultActionId ≠ 0 then
      .error ⟨.errInvalidParam, "P4 TableEntry update attempts to change default action " ++
        "of table " ++ tableP4Info.name ++ " with a const default action"⟩
    else .ok []
  else do
    let (requestedFieldIds, allMatchFields) ←
      tableEntry.fieldMatches.foldlM (prepareStep tableP4Info.name) ([], [])
    pure (allMatchFields ++ (tableP4Info.matchFieldIds.filter (· ∉ requestedFieldIds)).map
      (⟨·, .notSet⟩))

/-- `IsTableUpdateAllowed`. -/
def isTableUpdateAllowed (tableP4Info : TableP4Info) (descriptor : P4TableDescriptor) :
    StatusOr Unit :=
  if descriptor.hasStaticEntries then
    if !maps.staticTableUpdatesEnabled then
      .error ⟨.errInvalidParam, "Updates to P4 table " ++ tableP4Info.name ++
        " with static entries are not allowed"⟩
    else .ok ()
  else if descriptor.pipelineStage = .hidden then
    .error ⟨.errInvalidParam, "Updates to hidden P4 table " ++ tableP4Info.name ++
      " are not allowed"⟩
  else .ok ()

/-- `ProcessTableID`: the table's ID and name, then its type, stage and
internal match fields from its descriptor. -/
def processTableID (tableP4Info : TableP4Info) (tableId : Nat) (flowEntry : CommonFlowEntry) :
    StatusOr Unit × CommonFlowEntry :=
  let flowEntry := { flowEntry with tableInfo := { flowEntry.tableInfo with
    id := tableId
    name := tableP4Info.name } }
  match maps.globalIdTableMap tableId with
  | none =>
      (.error ⟨.errOperNotSupported, "P4 table ID " ++ toString tableId ++
        " is missing a table descriptor."⟩,
        { flowEntry with tableInfo := { flowEntry.tableInfo with type := .p4TableUnknown } })
  | some value =>
      let descriptor := value.getTableDescriptor
      match isTableUpdateAllowed maps tableP4Info descriptor with
      | .error e => (.error e, flowEntry)
      | .ok () =>
          (.ok (), { flowEntry with
            tableInfo := { flowEntry.tableInfo with
              type := descriptor.type
              pipelineStage := descriptor.pipelineStage }
            fields := descriptor.internalMatchFields })

/-- `P4TableMapper::MapMatchField`: the mapped field `field_convert_by_table_`
holds for a match field of a table. -/
def mapMatchField (tableId fieldId : Nat) : StatusOr MappedField :=
  match maps.fieldConvertByTable (tableId, fieldId) with
  | none => .error ⟨.errEntryNotFound, "Unrecognized field id " ++ toString fieldId ++
      " from table " ++ printP4ObjectId tableId ++ "."⟩
  | some lookup => .ok lookup.mappedField

/-- The field `ProcessMatchField` appends: converted, it gets the type,
place and header of the table's conversion; else it is of unknown type. -/
def mappedFieldOf (conversion : P4FieldConvertValue) (status : StatusOr Unit)
    (key : P4MatchKey.MappedField) : MappedField :=
  match status with
  | .ok () => { conversion.mappedField with key := key }
  | .error _ => { MappedField.default with key := key }

/-- `ProcessMatchField`, with `none` where it calls `Convert` on the null
match key `P4MatchKey::CreateInstance` returns. -/
def processMatchField (tableP4Info : TableP4Info) (matchField : FieldMatch)
    (flowEntry : CommonFlowEntry) : Option (StatusOr Unit × CommonFlowEntry) :=
  match maps.fieldConvertByTable (tableP4Info.id, matchField.fieldId) with
  | none =>
      some (.error ⟨.errOperNotSupported, "P4 TableEntry match field ID " ++
        printP4ObjectId matchField.fieldId ++ " is not recognized in table " ++
        tableP4Info.name⟩, flowEntry)
  | some conversion => do
      let matchKey ← P4MatchKey.createInstance matchField
      let (status, key) := matchKey.convert maps.enforceBytestringLength
        conversion.conversionEntry conversion.mappedField.bitWidth ⟨.notSet, .notSet⟩
      let status := match status with
        | .ok () => .ok ()
        | .error e => .error (e.append (" for match field  in table " ++ tableP4Info.name))
      pure (status, { flowEntry with
        fields := flowEntry.fields ++ [mappedFieldOf conversion status key] })

/-- The match-field loop of `MapFlowEntry`. -/
def processMatchFields (tableP4Info : TableP4Info) :
    List FieldMatch → StatusOr Unit → CommonFlowEntry → Option (StatusOr Unit × CommonFlowEntry)
  | [], status, flowEntry => some (status, flowEntry)
  | matchField :: rest, status, flowEntry => do
      let (fieldStatus, flowEntry) ← processMatchField maps tableP4Info matchField flowEntry
      processMatchFields tableP4Info rest (appendStatusIfError status fieldStatus) flowEntry

/-- The primitives of an action descriptor: its primitive ops, then each
primitive of each op of each color action, with the action's colors. -/
def descriptorPrimitives (descriptor : P4ActionDescriptor) : List P4ActionPrimitive :=
  descriptor.primitiveOps.map (⟨·, []⟩) ++
    descriptor.colorActions.flatMap fun colorAction =>
      colorAction.ops.flatMap fun colorOp =>
        colorOp.primitives.map (⟨·, colorAction.colors⟩)

/-- The parameter loop of `ProcessActionFunction`. -/
def mapActionParams (actionId : Nat) (params : List Param) (status : StatusOr Unit)
    (mappedAction : MappedAction) : StatusOr Unit × MappedAction :=
  params.foldl (fun acc param =>
    let (paramStatus, mappedAction) := mapActionParam maps.paramMapper actionId param acc.2
    (appendStatusIfError acc.1 paramStatus, mappedAction)) (status, mappedAction)

/-- `ProcessActionFunction`: the action's type from its descriptor, its
parameters and constants through the parameter mapper, then the descriptor's
primitives. -/
def processActionFunction (action : Action) (mappedAction : MappedAction) :
    StatusOr Unit × MappedAction :=
  match maps.globalIdTableMap action.actionId with
  | none =>
      (appendStatusIfError (.ok ()) (.error ⟨.errOperNotSupported,
        "P4 action ID in  is unknown or invalid."⟩),
        { mappedAction with type := .p4ActionTypeUnknown })
  | some value =>
      let descriptor := value.getActionDescriptor
      let mappedAction := { mappedAction with type := descriptor.type }
      let (status, mappedAction) := mapActionParams maps action.actionId action.params (.ok ())
        mappedAction
      let (constantStatus, mappedAction) :=
        mapActionConstants maps.paramMapper action.actionId mappedAction
      let status := appendStatusIfError status constantStatus
      let primitives := descriptorPrimitives descriptor
      (status, if primitives = [] then mappedAction
        else mappedAction.modifyFunction fun function =>
          { function with primitives := function.primitives ++ primitives })

/-- `ProcessTableActionFunction`. -/
def processTableActionFunction (tableP4Info : TableP4Info) (action : Action)
    (mappedAction : MappedAction) : StatusOr Unit × MappedAction :=
  if action.actionId = 0 then
    (.error ⟨.errInvalidParam, "P4 TableEntry action has no action_id."⟩, mappedAction)
  else
    match isActionInTableInfo maps.paramMapper tableP4Info.id action.actionId with
    | .error e => (.error e, mappedAction)
    | .ok () => processActionFunction maps action mappedAction

/-- `ProcessTableAction`: an action is mapped by its function, a profile
member or group by its ID. -/
def processTableAction (tableP4Info : TableP4Info) (tableAction : TableAction)
    (flowEntry : CommonFlowEntry) : StatusOr Unit × CommonFlowEntry :=
  let mappedAction := flowEntry.action
  let (status, mappedAction) : StatusOr Unit × MappedAction := match tableAction with
    | .action action =>
        let (actionStatus, mappedAction) :=
          processTableActionFunction maps tableP4Info action mappedAction
        (appendStatusIfError (.ok ()) actionStatus, mappedAction)
    | .actionProfileMemberId memberId =>
        (.ok (), ⟨.p4ActionTypeProfileMemberId, .profileMemberId memberId⟩)
    | .actionProfileGroupId groupId =>
        (.ok (), ⟨.p4ActionTypeProfileGroupId, .profileGroupId groupId⟩)
    | .actionProfileActionSet _ | .notSet =>
        (appendStatusIfError (.ok ()) (.error ⟨.errInvalidParam,
          "Unrecognized P4 TableEntry action type  for table " ++ tableP4Info.name⟩),
          mappedAction)
  (status, { flowEntry with action := mappedAction })

/-- The steps of `MapFlowEntry` after the early checks, from the cleared
entry. -/
def mapPreparedEntry (tableP4Info : TableP4Info) (tableEntry : TableEntry)
    (allMatchFields : List FieldMatch) : Option (StatusOr Unit × CommonFlowEntry) := do
  let (status, flowEntry) := processTableID maps tableP4Info tableEntry.tableId .default
  let (status, flowEntry) ← processMatchFields maps tableP4Info allMatchFields
    (appendStatusIfError (.ok ()) status) flowEntry
  let (status, flowEntry) : StatusOr Unit × CommonFlowEntry := match tableEntry.action with
    | some tableAction =>
        let (actionStatus, flowEntry) := processTableAction maps tableP4Info tableAction flowEntry
        (appendStatusIfError status actionStatus, flowEntry)
    | none => (status, flowEntry)
  pure (status, { flowEntry with
    priority := tableEntry.priority
    controllerMetadata := tableEntry.controllerMetadata })

/-- `MapFlowEntry`, on the entry it is given to fill: an error before the
entry is cleared leaves it as it was. -/
def mapFlowEntry (tableEntry : TableEntry) (updateType : UpdateType)
    (flowEntry : CommonFlowEntry) : Option (StatusOr Unit × CommonFlowEntry) :=
  match maps.p4InfoManager with
  | none =>
      some (.error ⟨.errInternal, "Unable to map TableEntry without valid P4 configuration"⟩,
        flowEntry)
  | some findTableByID =>
      match findTableByID tableEntry.tableId with
      | .error e => some (.error e, .default)
      | .ok tableP4Info =>
          match prepareMatchFields tableP4Info tableEntry with
          | .error e => some (.error e, .default)
          | .ok allMatchFields =>
              if updateType = .insert ∧ tableEntry.action = none then
                some (.error ⟨.errInvalidParam, "P4 TableEntry update has no action"⟩, .default)
              else mapPreparedEntry maps tableP4Info tableEntry allMatchFields

end Mapping

open Stratum.Verified.Run

/-! ## Preparing the match fields -/

theorem prepareStep_eq_ok {tableName : String} {acc r : List Nat × List FieldMatch}
    {matchField : FieldMatch} :
    prepareStep tableName acc matchField = .ok r ↔ matchField.fieldId ≠ 0 ∧
      matchField.fieldId ∉ acc.1 ∧ r = (matchField.fieldId :: acc.1, acc.2 ++ [matchField]) := by
  unfold prepareStep
  by_cases hzero : matchField.fieldId = 0
  · simp [hzero]
  · by_cases hmem : matchField.fieldId ∈ acc.1 <;> simp [hzero, hmem, eq_comm]

/-- The request loop of `PrepareMatchFields` accepts exactly fields with
non-zero IDs that are new and distinct, and keeps them in order. -/
theorem foldlM_prepareStep_eq_ok {tableName : String} :
    ∀ (matchFields : List FieldMatch) (ids : List Nat) (fields : List FieldMatch)
      {r : List Nat × List FieldMatch},
      matchFields.foldlM (prepareStep tableName) (ids, fields) = .ok r ↔
        (∀ matchField ∈ matchFields, matchField.fieldId ≠ 0 ∧ matchField.fieldId ∉ ids) ∧
        (matchFields.map FieldMatch.fieldId).Nodup ∧
        r = ((matchFields.map FieldMatch.fieldId).reverse ++ ids, fields ++ matchFields)
  | [], ids, fields, r => by simp [pure, Except.pure, eq_comm]
  | matchField :: rest, ids, fields, r => by
      rw [List.foldlM_cons, bind_eq_ok]
      constructor
      · rintro ⟨acc, hstep, hrest⟩
        obtain ⟨hzero, hnew, rfl⟩ := prepareStep_eq_ok.mp hstep
        obtain ⟨hall, hnodup, rfl⟩ := (foldlM_prepareStep_eq_ok rest _ _).mp hrest
        refine ⟨?_, ?_, by simp⟩
        · intro m hm
          rcases List.mem_cons.mp hm with rfl | hm
          · exact ⟨hzero, hnew⟩
          · exact ⟨(hall m hm).1, fun h => (hall m hm).2 (List.mem_cons_of_mem _ h)⟩
        · refine List.nodup_cons.mpr ⟨fun h => ?_, hnodup⟩
          obtain ⟨m, hm, hid⟩ := List.mem_map.mp h
          exact (hall m hm).2 (hid ▸ List.mem_cons_self)
      · rintro ⟨hall, hnodup, rfl⟩
        have hhead := hall matchField List.mem_cons_self
        rw [List.map_cons, List.nodup_cons] at hnodup
        -- the rest is new to the IDs with the head's added
        have hrest : ∀ m ∈ rest, m.fieldId ≠ 0 ∧ m.fieldId ∉ matchField.fieldId :: ids := by
          intro m hm
          have hm' := hall m (List.mem_cons_of_mem _ hm)
          refine ⟨hm'.1, fun h => ?_⟩
          rcases List.mem_cons.mp h with h | h
          · exact hnodup.1 (h ▸ List.mem_map_of_mem hm)
          · exact hm'.2 h
        refine ⟨_, prepareStep_eq_ok.mpr ⟨hhead.1, hhead.2, rfl⟩, ?_⟩
        exact (foldlM_prepareStep_eq_ok rest _ _).mpr ⟨hrest, hnodup.2, by simp⟩

/-- The don't-care matches `PrepareMatchFields` adds for the P4Info fields
not requested. -/
def dontCareMatches (tableP4Info : TableP4Info) (requested : List FieldMatch) :
    List FieldMatch :=
  (tableP4Info.matchFieldIds.filter (· ∉ requested.map FieldMatch.fieldId)).map (⟨·, .notSet⟩)

/-- `PrepareMatchFields` without its loops: an entry without match fields
passes unless the table has a const default action, and prepares no field;
an entry with match fields passes when their IDs are non-zero and distinct,
and prepares them in order, followed by a don't-care match for each P4Info
field it leaves out. -/
theorem prepareMatchFields_eq_ok_iff {tableP4Info : TableP4Info} {tableEntry : TableEntry}
    {allMatchFields : List FieldMatch} :
    prepareMatchFields tableP4Info tableEntry = .ok allMatchFields ↔
      (tableEntry.fieldMatches = [] ∧ tableP4Info.constDefaultActionId = 0 ∧
          allMatchFields = []) ∨
        (tableEntry.fieldMatches ≠ [] ∧
          (∀ matchField ∈ tableEntry.fieldMatches, matchField.fieldId ≠ 0) ∧
          (tableEntry.fieldMatches.map FieldMatch.fieldId).Nodup ∧
          allMatchFields = tableEntry.fieldMatches ++ dontCareMatches tableP4Info
            tableEntry.fieldMatches) := by
  unfold prepareMatchFields
  by_cases hempty : tableEntry.fieldMatches = []
  · by_cases hconst : tableP4Info.constDefaultActionId = 0 <;>
      simp [hempty, hconst, eq_comm]
  · simp only [hempty, if_false, bind_eq_ok, ne_eq, not_false_eq_true, true_and, false_and,
      false_or]
    constructor
    · rintro ⟨r, hloop, hpure⟩
      obtain ⟨hall, hnodup, rfl⟩ := (foldlM_prepareStep_eq_ok _ [] []).mp hloop
      refine ⟨fun m hm => (hall m hm).1, hnodup, ?_⟩
      simpa [pure, Except.pure, dontCareMatches, eq_comm] using hpure
    · rintro ⟨hzero, hnodup, rfl⟩
      refine ⟨_, (foldlM_prepareStep_eq_ok _ [] []).mpr ⟨fun m hm => ⟨hzero m hm, by simp⟩,
        hnodup, rfl⟩, ?_⟩
      simp [pure, Except.pure, dontCareMatches]

/-! ## An ingress ACL table -/

/-- A P4Info table of two match fields, an IPv4 destination and an L4
destination port. -/
def aclTableP4Info : TableP4Info := ⟨0x02000001, "acl_ingress", [1, 2], 0⟩

/-- The maps of a pipeline with that table, which matches the destination
exactly and the port by a ternary match, and an action that sets the egress
port from its parameter. -/
def aclFlowMaps : FlowMaps where
  p4InfoManager := some fun tableId =>
    if tableId = aclTableP4Info.id then .ok aclTableP4Info
    else .error ⟨.errInvalidP4Info, "P4Info Table ID " ++ printP4ObjectId tableId ++
      " is not found"⟩
  globalIdTableMap := fun objectId =>
    if objectId = 0x02000001 then some (.tableDescriptor ⟨.p4TableUnknown, .ingressAcl, false, []⟩)
    else if objectId = 0x01000001 then some (.actionDescriptor ⟨⟨1⟩, [], []⟩)
    else none
  fieldConvertByTable := fun key =>
    if key = (0x02000001, 1) then
      some ⟨⟨.exact, .p4ConvertToU32⟩, ⟨⟨8⟩, ⟨.notSet, .notSet⟩, 128, 32, .ipv4⟩⟩
    else if key = (0x02000001, 2) then
      some ⟨⟨.ternary, .p4ConvertToU32AndMask⟩, ⟨⟨22⟩, ⟨.notSet, .notSet⟩, 16, 16, .tcp⟩⟩
    else none
  paramMapper := ⟨[(0x02000001, 0x01000001)],
    fun key => if key = (0x01000001, 1) then some ⟨[⟨27⟩], 9, ⟨.parameterName "port", []⟩⟩ else none,
    fun _ => none⟩
  staticTableUpdatesEnabled := false
  enforceBytestringLength := false

/-- An insert on that table: the destination 10.0.0.1, the port left out,
and the action with egress port 5. -/
def aclTableEntry : TableEntry :=
  ⟨0x02000001, [⟨1, .exact [10, 0, 0, 1]⟩], some (.action ⟨0x01000001, [⟨1, [0, 5]⟩]⟩), 10, 0,
    none, none, false, 0, none, []⟩

/-- The entry it maps to: the port becomes a don't-care field. -/
def aclMappedEntry : CommonFlowEntry :=
  ⟨⟨0x02000001, "acl_ingress", .p4TableUnknown, .ingressAcl⟩,
    [⟨⟨8⟩, ⟨.u32 0x0a000001, .notSet⟩, 128, 32, .ipv4⟩, ⟨⟨22⟩, ⟨.notSet, .notSet⟩, 16, 16, .tcp⟩],
    ⟨⟨1⟩, .function ⟨[⟨⟨27⟩, .u32 5⟩], []⟩⟩, 10, 0⟩

/-! ## The null match key -/

/-- `P4MatchKey::CreateInstance` has no class for an `optional` match, nor for
a match of another architecture. -/
theorem createInstance_eq_none_iff {matchField : FieldMatch} :
    P4MatchKey.createInstance matchField = none ↔
      (∃ value, matchField.fieldMatchType = .optional value) ∨
        matchField.fieldMatchType = .other := by
  unfold P4MatchKey.createInstance
  split <;> simp_all

section NullMatchKey

variable (maps : FlowMaps)

/-- A match field on which `ProcessMatchField` dereferences the null match
key: the table converts the field, and `CreateInstance` has no class for its
kind. -/
def NullMatchKey (tableP4Info : TableP4Info) (matchField : FieldMatch) : Prop :=
  (maps.fieldConvertByTable (tableP4Info.id, matchField.fieldId)).isSome ∧
    P4MatchKey.createInstance matchField = none

theorem processMatchField_eq_none_iff {tableP4Info : TableP4Info} {matchField : FieldMatch}
    {flowEntry : CommonFlowEntry} :
    processMatchField maps tableP4Info matchField flowEntry = none ↔
      NullMatchKey maps tableP4Info matchField := by
  unfold processMatchField NullMatchKey
  cases maps.fieldConvertByTable (tableP4Info.id, matchField.fieldId) with
  | none => simp
  | some conversion =>
    cases P4MatchKey.createInstance matchField with
    | none => simp
    | some matchKey => simp

/-- The match-field loop dereferences the null match key exactly when one of
its fields does, whatever the statuses before. -/
theorem processMatchFields_eq_none_iff {tableP4Info : TableP4Info} :
    ∀ (matchFields : List FieldMatch) (status : StatusOr Unit) (flowEntry : CommonFlowEntry),
      processMatchFields maps tableP4Info matchFields status flowEntry = none ↔
        ∃ matchField ∈ matchFields, NullMatchKey maps tableP4Info matchField
  | [], _, _ => by simp [processMatchFields]
  | matchField :: rest, status, flowEntry => by
      rw [processMatchFields]
      cases hfield : processMatchField maps tableP4Info matchField flowEntry with
      | none =>
        exact iff_of_true rfl
          ⟨matchField, List.mem_cons_self, (processMatchField_eq_none_iff maps).mp hfield⟩
      | some result =>
        have hnull : ¬NullMatchKey maps tableP4Info matchField := fun h => by
          rw [(processMatchField_eq_none_iff maps).mpr h] at hfield
          cases hfield
        obtain ⟨fieldStatus, flowEntry'⟩ := result
        simp [processMatchFields_eq_none_iff rest, hnull]

theorem mapPreparedEntry_eq_none_iff {tableP4Info : TableP4Info} {tableEntry : TableEntry}
    {allMatchFields : List FieldMatch} :
    mapPreparedEntry maps tableP4Info tableEntry allMatchFields = none ↔
      ∃ matchField ∈ allMatchFields, NullMatchKey maps tableP4Info matchField := by
  unfold mapPreparedEntry
  cases processTableID maps tableP4Info tableEntry.tableId .default with
  | mk status flowEntry =>
    dsimp only
    have hloop := @processMatchFields_eq_none_iff maps tableP4Info allMatchFields
      (appendStatusIfError (.ok ()) status) flowEntry
    cases h : processMatchFields maps tableP4Info allMatchFields
      (appendStatusIfError (.ok ()) status) flowEntry with
    | none => exact iff_of_true rfl (hloop.mp h)
    | some result =>
      rw [h] at hloop
      exact iff_of_false (by simp) fun hnull => absurd (hloop.mpr hnull) (by simp)

/-- The don't-care matches have a class: they match nothing. -/
theorem not_nullMatchKey_of_mem_dontCareMatches {tableP4Info : TableP4Info}
    {requested : List FieldMatch} {matchField : FieldMatch}
    (h : matchField ∈ dontCareMatches tableP4Info requested) :
    ¬NullMatchKey maps tableP4Info matchField := by
  obtain ⟨fieldId, -, rfl⟩ := List.mem_map.mp h
  simp [NullMatchKey, P4MatchKey.createInstance]

/-- Of the prepared fields, only requested ones can reach the null match
key. -/
theorem exists_nullMatchKey_prepared {tableP4Info : TableP4Info} {tableEntry : TableEntry}
    {allMatchFields : List FieldMatch}
    (hprepare : prepareMatchFields tableP4Info tableEntry = .ok allMatchFields) :
    (∃ matchField ∈ allMatchFields, NullMatchKey maps tableP4Info matchField) ↔
      ∃ matchField ∈ tableEntry.fieldMatches, NullMatchKey maps tableP4Info matchField := by
  rcases prepareMatchFields_eq_ok_iff.mp hprepare with ⟨hempty, -, rfl⟩ | ⟨-, -, -, rfl⟩
  · simp [hempty]
  · constructor
    · rintro ⟨matchField, hmem, hnull⟩
      rcases List.mem_append.mp hmem with hmem | hmem
      · exact ⟨matchField, hmem, hnull⟩
      · exact absurd hnull (not_nullMatchKey_of_mem_dontCareMatches maps hmem)
    · rintro ⟨matchField, hmem, hnull⟩
      exact ⟨matchField, List.mem_append_left _ hmem, hnull⟩

/-- `MapFlowEntry` dereferences the null match key exactly when it passes its
early checks (a P4 configuration, a table the P4Info knows, match fields
`PrepareMatchFields` accepts, an action on insert) and the entry requests an
`optional` match, or a match of another architecture, on a field its table
converts. -/
theorem optional_match_dereferences_null_key {tableEntry : TableEntry} {updateType : UpdateType}
    {flowEntry : CommonFlowEntry} :
    mapFlowEntry maps tableEntry updateType flowEntry = none ↔
      ∃ findTableByID tableP4Info allMatchFields,
        maps.p4InfoManager = some findTableByID ∧
        findTableByID tableEntry.tableId = .ok tableP4Info ∧
        prepareMatchFields tableP4Info tableEntry = .ok allMatchFields ∧
        ¬(updateType = .insert ∧ tableEntry.action = none) ∧
        ∃ matchField ∈ tableEntry.fieldMatches,
          (maps.fieldConvertByTable (tableP4Info.id, matchField.fieldId)).isSome ∧
          ((∃ value, matchField.fieldMatchType = .optional value) ∨
            matchField.fieldMatchType = .other) := by
  unfold mapFlowEntry
  cases hmanager : maps.p4InfoManager with
  | none => simp
  | some findTableByID =>
    cases htable : findTableByID tableEntry.tableId with
    | error e => simp [htable]
    | ok tableP4Info =>
      cases hprepare : prepareMatchFields tableP4Info tableEntry with
      | error e => simp [htable, hprepare]
      | ok allMatchFields =>
        by_cases haction : updateType = .insert ∧ tableEntry.action = none
        · simp [htable, hprepare, haction]
        · have hcrash : mapPreparedEntry maps tableP4Info tableEntry allMatchFields = none ↔
              ∃ matchField ∈ tableEntry.fieldMatches, NullMatchKey maps tableP4Info matchField :=
            (mapPreparedEntry_eq_none_iff maps).trans (exists_nullMatchKey_prepared maps hprepare)
          simp only [htable, hprepare, haction, if_false, hcrash, NullMatchKey,
            createInstance_eq_none_iff]
          simp [htable, hprepare]

/-- An `optional` match on the destination reaches the null match key. -/
example : mapFlowEntry aclFlowMaps { aclTableEntry with fieldMatches := [⟨1, .optional [10, 0, 0, 1]⟩] }
    .insert .default = none := rfl

end NullMatchKey

/-! ## Entries mapped without error -/

section Mapped

variable (maps : FlowMaps)

/-- A match field that its table's conversion turns into `field`: the
conversion's type, place and header, with the value and mask `Convert`
writes. -/
def FieldConverts (tableP4Info : TableP4Info) (matchField : FieldMatch) (field : MappedField) :
    Prop :=
  ∃ conversion matchKey key,
    maps.fieldConvertByTable (tableP4Info.id, matchField.fieldId) = some conversion ∧
    P4MatchKey.createInstance matchField = some matchKey ∧
    matchKey.convert maps.enforceBytestringLength conversion.conversionEntry
      conversion.mappedField.bitWidth ⟨.notSet, .notSet⟩ = (.ok (), key) ∧
    field = { conversion.mappedField with key := key }

theorem processTableID_eq_ok {tableP4Info : TableP4Info} {tableId : Nat}
    {flowEntry flowEntry' : CommonFlowEntry} :
    processTableID maps tableP4Info tableId flowEntry = (.ok (), flowEntry') ↔
      ∃ value, maps.globalIdTableMap tableId = some value ∧
        isTableUpdateAllowed maps tableP4Info value.getTableDescriptor = .ok () ∧
        flowEntry' = { flowEntry with
          tableInfo := ⟨tableId, tableP4Info.name, value.getTableDescriptor.type,
            value.getTableDescriptor.pipelineStage⟩
          fields := value.getTableDescriptor.internalMatchFields } := by
  unfold processTableID
  cases maps.globalIdTableMap tableId with
  | none => simp
  | some value =>
    cases hallowed : isTableUpdateAllowed maps tableP4Info value.getTableDescriptor with
    | error e => simp [hallowed]
    | ok u =>
      simp only [hallowed, Prod.mk.injEq, true_and, Option.some.injEq, exists_eq_left']
      exact eq_comm

theorem processMatchField_eq_some_ok {tableP4Info : TableP4Info} {matchField : FieldMatch}
    {flowEntry flowEntry' : CommonFlowEntry} :
    processMatchField maps tableP4Info matchField flowEntry = some (.ok (), flowEntry') ↔
      ∃ field, FieldConverts maps tableP4Info matchField field ∧
        flowEntry' = { flowEntry with fields := flowEntry.fields ++ [field] } := by
  unfold processMatchField FieldConverts
  cases maps.fieldConvertByTable (tableP4Info.id, matchField.fieldId) with
  | none => simp
  | some conversion =>
    cases P4MatchKey.createInstance matchField with
    | none => simp
    | some matchKey =>
      cases hconvert : matchKey.convert maps.enforceBytestringLength conversion.conversionEntry
        conversion.mappedField.bitWidth ⟨.notSet, .notSet⟩ with
      | mk status key =>
        cases status with
        | error e => simp [hconvert]
        | ok u => simp [hconvert, mappedFieldOf, eq_comm]

/-- A match field converts into at most one field. -/
theorem FieldConverts.unique {tableP4Info : TableP4Info} {matchField : FieldMatch}
    {field₁ field₂ : MappedField} (h₁ : FieldConverts maps tableP4Info matchField field₁)
    (h₂ : FieldConverts maps tableP4Info matchField field₂) : field₁ = field₂ := by
  have e₁ := (@processMatchField_eq_some_ok maps tableP4Info matchField .default _).mpr
    ⟨field₁, h₁, rfl⟩
  have e₂ := (@processMatchField_eq_some_ok maps tableP4Info matchField .default _).mpr
    ⟨field₂, h₂, rfl⟩
  rw [e₁] at e₂
  simpa using e₂

/-- The match-field loop ends without error exactly when it starts without
error and converts every field, appending the converted fields in order. -/
theorem processMatchFields_eq_some_ok {tableP4Info : TableP4Info} :
    ∀ (matchFields : List FieldMatch) (status : StatusOr Unit)
      (flowEntry flowEntry' : CommonFlowEntry),
      processMatchFields maps tableP4Info matchFields status flowEntry =
          some (.ok (), flowEntry') ↔
        status = .ok () ∧ ∃ fields, List.Forall₂ (FieldConverts maps tableP4Info) matchFields fields ∧
          flowEntry' = { flowEntry with fields := flowEntry.fields ++ fields }
  | [], status, flowEntry, flowEntry' => by
      simp only [processMatchFields, Option.some.injEq, Prod.mk.injEq, List.forall₂_nil_left_iff,
        exists_eq_left, List.append_nil]
      constructor
      · rintro ⟨rfl, rfl⟩
        exact ⟨rfl, rfl⟩
      · rintro ⟨rfl, rfl⟩
        exact ⟨rfl, rfl⟩
  | matchField :: rest, status, flowEntry, flowEntry' => by
      rw [processMatchFields]
      cases hfield : processMatchField maps tableP4Info matchField flowEntry with
      | none =>
        refine iff_of_false (by simp) ?_
        rintro ⟨-, fields, hconverts, -⟩
        cases hconverts with
        | cons hhead _ =>
          obtain ⟨-, hnone⟩ := (processMatchField_eq_none_iff maps).mp hfield
          obtain ⟨_, _, _, -, hkey, -, -⟩ := hhead
          rw [hnone] at hkey
          cases hkey
      | some result =>
        obtain ⟨fieldStatus, flowEntry₁⟩ := result
        show processMatchFields maps tableP4Info rest (appendStatusIfError status fieldStatus)
          flowEntry₁ = some (.ok (), flowEntry') ↔ _
        rw [processMatchFields_eq_some_ok rest, appendStatusIfError_eq_ok_iff]
        constructor
        · rintro ⟨⟨hstatus, rfl⟩, fields, hconverts, rfl⟩
          obtain ⟨field, hfield', rfl⟩ := (processMatchField_eq_some_ok maps).mp hfield
          exact ⟨hstatus, field :: fields, .cons hfield' hconverts, by simp⟩
        · rintro ⟨hstatus, fields', hconverts, rfl⟩
          cases hconverts with
          | @cons _ field _ fields hhead htail =>
            have hok := (@processMatchField_eq_some_ok maps tableP4Info matchField flowEntry _).mpr
              ⟨field, hhead, rfl⟩
            rw [hfield, Option.some.injEq, Prod.mk.injEq] at hok
            obtain ⟨rfl, rfl⟩ := hok
            exact ⟨⟨hstatus, rfl⟩, fields, htail, by simp⟩

/-- `ProcessTableAction` reads of the entry only its action, and changes only
that. -/
theorem processTableAction_eq {tableP4Info : TableP4Info} (tableAction : TableAction)
    (flowEntry : CommonFlowEntry) :
    processTableAction maps tableP4Info tableAction flowEntry =
      ((processTableAction maps tableP4Info tableAction
          { CommonFlowEntry.default with action := flowEntry.action }).1,
        { flowEntry with action := (processTableAction maps tableP4Info tableAction
          { CommonFlowEntry.default with action := flowEntry.action }).2.action }) := by
  cases tableAction <;> rfl

/-- The table action of an entry maps to `mappedAction` without error; an
entry without one keeps the cleared action. -/
def ActionMaps (tableP4Info : TableP4Info) : Option TableAction → MappedAction → Prop
  | none, mappedAction => mappedAction = .default
  | some tableAction, mappedAction =>
      processTableAction maps tableP4Info tableAction .default =
        (.ok (), { CommonFlowEntry.default with action := mappedAction })

/-- What the steps after the early checks leave when they end without error:
the table's descriptor allows the update, every prepared field converts, the
action maps, and the entry holds the descriptor's table information, its
internal fields followed by the converted fields, the action, and the
request's priority and controller metadata. -/
theorem mapPreparedEntry_eq_some_ok {tableP4Info : TableP4Info} {tableEntry : TableEntry}
    {allMatchFields : List FieldMatch} {out : CommonFlowEntry}
    (h : mapPreparedEntry maps tableP4Info tableEntry allMatchFields = some (.ok (), out)) :
    ∃ value fields, maps.globalIdTableMap tableEntry.tableId = some value ∧
      isTableUpdateAllowed maps tableP4Info value.getTableDescriptor = .ok () ∧
      List.Forall₂ (FieldConverts maps tableP4Info) allMatchFields fields ∧
      ActionMaps maps tableP4Info tableEntry.action out.action ∧
      out = ⟨⟨tableEntry.tableId, tableP4Info.name, value.getTableDescriptor.type,
        value.getTableDescriptor.pipelineStage⟩, value.getTableDescriptor.internalMatchFields ++ fields,
        out.action, tableEntry.priority, tableEntry.controllerMetadata⟩ := by
  unfold mapPreparedEntry at h
  cases hid : processTableID maps tableP4Info tableEntry.tableId .default with
  | mk tableStatus flowEntry₀ =>
  rw [hid] at h
  dsimp only at h
  cases hloop : processMatchFields maps tableP4Info allMatchFields
    (appendStatusIfError (.ok ()) tableStatus) flowEntry₀ with
  | none =>
    rw [hloop] at h
    cases h
  | some result =>
  obtain ⟨fieldsStatus, flowEntry₁⟩ := result
  rw [hloop] at h
  -- with the fields converted, the entry before the action step is the
  -- descriptor's table information and fields, the converted fields after them
  have hshape : fieldsStatus = .ok () → ∃ value fields,
      maps.globalIdTableMap tableEntry.tableId = some value ∧
      isTableUpdateAllowed maps tableP4Info value.getTableDescriptor = .ok () ∧
      List.Forall₂ (FieldConverts maps tableP4Info) allMatchFields fields ∧
      flowEntry₁ = ⟨⟨tableEntry.tableId, tableP4Info.name, value.getTableDescriptor.type,
        value.getTableDescriptor.pipelineStage⟩,
        value.getTableDescriptor.internalMatchFields ++ fields, .default, 0, 0⟩ := by
    intro hok
    rw [hok] at hloop
    obtain ⟨htable, fields, hconverts, rfl⟩ :=
      (processMatchFields_eq_some_ok maps _ _ _ _).mp hloop
    rw [appendStatusIfError_eq_ok_iff] at htable
    rw [htable.2] at hid
    obtain ⟨value, hvalue, hallowed, rfl⟩ := (processTableID_eq_ok maps).mp hid
    exact ⟨value, fields, hvalue, hallowed, hconverts, rfl⟩
  cases hact : tableEntry.action with
  | none =>
    simp [hact] at h
    obtain ⟨hok, rfl⟩ := h
    obtain ⟨value, fields, hvalue, hallowed, hconverts, rfl⟩ := hshape hok
    exact ⟨value, fields, hvalue, hallowed, hconverts, rfl, rfl⟩
  | some tableAction =>
    simp [hact, appendStatusIfError_eq_ok_iff] at h
    rw [processTableAction_eq] at h
    obtain ⟨⟨hok, hactionOk⟩, rfl⟩ := h
    obtain ⟨value, fields, hvalue, hallowed, hconverts, rfl⟩ := hshape hok
    refine ⟨value, fields, hvalue, hallowed, hconverts, ?_, rfl⟩
    rw [ActionMaps, processTableAction_eq]
    exact Prod.ext hactionOk rfl

/-- An entry `MapFlowEntry` maps without error passed the early checks: a P4
configuration, a table the P4Info knows, match fields with non-zero distinct
IDs (or none, on a table without a const default action), an action on
insert. Its update is allowed by the table's descriptor, and the entry holds
the descriptor's table information, its internal fields followed by every
prepared match field (the requested ones, then a don't-care match for each
P4Info field not requested) converted by the table's conversion, in order,
the mapped action, and the request's priority and controller metadata. -/
theorem mapped_entry_well_formed {tableEntry : TableEntry} {updateType : UpdateType}
    {flowEntry out : CommonFlowEntry}
    (h : mapFlowEntry maps tableEntry updateType flowEntry = some (.ok (), out)) :
    ∃ findTableByID tableP4Info value fields,
      maps.p4InfoManager = some findTableByID ∧
      findTableByID tableEntry.tableId = .ok tableP4Info ∧
      ¬(updateType = .insert ∧ tableEntry.action = none) ∧
      (tableEntry.fieldMatches = [] → tableP4Info.constDefaultActionId = 0) ∧
      (∀ matchField ∈ tableEntry.fieldMatches, matchField.fieldId ≠ 0) ∧
      (tableEntry.fieldMatches.map FieldMatch.fieldId).Nodup ∧
      maps.globalIdTableMap tableEntry.tableId = some value ∧
      isTableUpdateAllowed maps tableP4Info value.getTableDescriptor = .ok () ∧
      List.Forall₂ (FieldConverts maps tableP4Info)
        (if tableEntry.fieldMatches = [] then []
          else tableEntry.fieldMatches ++ dontCareMatches tableP4Info tableEntry.fieldMatches)
        fields ∧
      ActionMaps maps tableP4Info tableEntry.action out.action ∧
      out = ⟨⟨tableEntry.tableId, tableP4Info.name, value.getTableDescriptor.type,
        value.getTableDescriptor.pipelineStage⟩, value.getTableDescriptor.internalMatchFields ++ fields,
        out.action, tableEntry.priority, tableEntry.controllerMetadata⟩ := by
  unfold mapFlowEntry at h
  cases hmanager : maps.p4InfoManager with
  | none =>
    rw [hmanager] at h
    cases h
  | some findTableByID =>
  rw [hmanager] at h
  cases htable : findTableByID tableEntry.tableId with
  | error e =>
    simp [htable] at h
  | ok tableP4Info =>
  cases hprepare : prepareMatchFields tableP4Info tableEntry with
  | error e =>
    simp [htable, hprepare] at h
  | ok allMatchFields =>
  by_cases haction : updateType = .insert ∧ tableEntry.action = none
  · simp [htable, hprepare, haction] at h
  simp only [htable, hprepare, haction, if_false] at h
  obtain ⟨value, fields, hvalue, hallowed, hconverts, hactionMaps, hout⟩ :=
    mapPreparedEntry_eq_some_ok maps h
  refine ⟨findTableByID, tableP4Info, value, fields, rfl, htable, haction, ?_, ?_, ?_, hvalue,
    hallowed, ?_, hactionMaps, hout⟩
  all_goals rcases prepareMatchFields_eq_ok_iff.mp hprepare with
    ⟨hempty, hconst, rfl⟩ | ⟨hnonempty, hzero, hnodup, rfl⟩
  · exact fun _ => hconst
  · exact fun hempty => absurd hempty hnonempty
  · simp [hempty]
  · exact hzero
  · simp [hempty]
  · exact hnodup
  · simpa [hempty] using hconverts
  · simpa [hnonempty] using hconverts

theorem mapped_entry_well_formed_aclTableEntry :
    mapFlowEntry aclFlowMaps aclTableEntry .insert .default = some (.ok (), aclMappedEntry) ∧
    ∃ findTableByID tableP4Info value fields,
      aclFlowMaps.p4InfoManager = some findTableByID ∧
      findTableByID aclTableEntry.tableId = .ok tableP4Info ∧
      ¬(UpdateType.insert = .insert ∧ aclTableEntry.action = none) ∧
      (aclTableEntry.fieldMatches = [] → tableP4Info.constDefaultActionId = 0) ∧
      (∀ matchField ∈ aclTableEntry.fieldMatches, matchField.fieldId ≠ 0) ∧
      (aclTableEntry.fieldMatches.map FieldMatch.fieldId).Nodup ∧
      aclFlowMaps.globalIdTableMap aclTableEntry.tableId = some value ∧
      isTableUpdateAllowed aclFlowMaps tableP4Info value.getTableDescriptor = .ok () ∧
      List.Forall₂ (FieldConverts aclFlowMaps tableP4Info)
        (if aclTableEntry.fieldMatches = [] then []
          else aclTableEntry.fieldMatches ++ dontCareMatches tableP4Info aclTableEntry.fieldMatches)
        fields ∧
      ActionMaps aclFlowMaps tableP4Info aclTableEntry.action aclMappedEntry.action ∧
      aclMappedEntry = ⟨⟨aclTableEntry.tableId, tableP4Info.name, value.getTableDescriptor.type,
        value.getTableDescriptor.pipelineStage⟩, value.getTableDescriptor.internalMatchFields ++ fields,
        aclMappedEntry.action, aclTableEntry.priority, aclTableEntry.controllerMetadata⟩ := by
  have h : mapFlowEntry aclFlowMaps aclTableEntry .insert .default = some (.ok (), aclMappedEntry) :=
    rfl
  exact ⟨h, mapped_entry_well_formed aclFlowMaps h⟩

end Mapped

/-! ## The mapped action -/

section Actions

variable (paramMapper : P4ActionParamMapper)

/-- The assignment a parameter makes: its entry of the parameter mapper, with
its value as `ConvertParamValue` reads it. -/
def paramAssignment (actionId : Nat) (param : Param) :
    Option (P4ActionParamEntry × P4ActionFields.Value) :=
  (paramMapper.actionParamMap (actionId, param.paramId)).map fun paramMapEntry =>
    (paramMapEntry, convertParamValue param paramMapEntry.bitWidth)

/-- The assignment a constant makes, when it is at most 64 bits wide. -/
def constantAssignment (paramMapEntry : P4ActionParamEntry) :
    Option (P4ActionParamEntry × P4ActionFields.Value) :=
  (constantValue paramMapEntry).map (paramMapEntry, ·)

/-- A run of `MapActionAssignment`s. -/
def assignAll (assignments : List (P4ActionParamEntry × P4ActionFields.Value))
    (mappedAction : MappedAction) : MappedAction :=
  assignments.foldl (fun mappedAction assignment =>
    mapActionAssignment assignment.1 assignment.2 mappedAction) mappedAction

/-- The fields a run of assignments modifies, each with its value. -/
def assignmentFields (assignments : List (P4ActionParamEntry × P4ActionFields.Value)) :
    List P4ActionFields :=
  assignments.flatMap fun assignment => assignment.1.fieldTypes.map (⟨·, assignment.2⟩)

/-- The primitives of a run of assignments. -/
def assignmentPrimitives (assignments : List (P4ActionParamEntry × P4ActionFields.Value)) :
    List P4ActionPrimitive :=
  assignments.flatMap fun assignment => assignment.1.paramDescriptor.primitives.map (⟨·, []⟩)

/-- The action that a descriptor and its assignments make: the descriptor's
type, with a function of the modified fields, and of the assignments'
primitives followed by the descriptor's; nothing sets the function when there
are neither. -/
def assignedAction (descriptor : P4ActionDescriptor)
    (assignments : List (P4ActionParamEntry × P4ActionFields.Value)) : MappedAction :=
  ⟨descriptor.type, if assignments = [] ∧ descriptorPrimitives descriptor = [] then .notSet
    else .function ⟨assignmentFields assignments,
      assignmentPrimitives assignments ++ descriptorPrimitives descriptor⟩⟩

theorem assignAll_cons (assignment : P4ActionParamEntry × P4ActionFields.Value)
    (rest : List (P4ActionParamEntry × P4ActionFields.Value)) (mappedAction : MappedAction) :
    assignAll (assignment :: rest) mappedAction =
      assignAll rest (mapActionAssignment assignment.1 assignment.2 mappedAction) := rfl

theorem assignAll_append (assignments assignments' : List (P4ActionParamEntry × P4ActionFields.Value))
    (mappedAction : MappedAction) :
    assignAll (assignments ++ assignments') mappedAction =
      assignAll assignments' (assignAll assignments mappedAction) :=
  List.foldl_append

/-- A run of assignments appends its modified fields and primitives to the
action's function, which it sets unless the run is empty. -/
theorem assignAll_eq :
    ∀ (assignments : List (P4ActionParamEntry × P4ActionFields.Value)) (mappedAction : MappedAction),
      assignAll assignments mappedAction =
        if assignments = [] then mappedAction
        else mappedAction.modifyFunction fun function =>
          ⟨function.modifyFields ++ assignmentFields assignments,
            function.primitives ++ assignmentPrimitives assignments⟩
  | [], _ => rfl
  | assignment :: rest, mappedAction => by
      rw [assignAll_cons, assignAll_eq rest]
      by_cases hrest : rest = []
      · simp [hrest, mapActionAssignment, assignmentFields, assignmentPrimitives]
      · simp [hrest, mapActionAssignment, MappedAction.modifyFunction, MappedAction.function,
          assignmentFields, assignmentPrimitives]

theorem mapActionParam_of_some {actionId : Nat} {param : Param}
    {paramMapEntry : P4ActionParamEntry}
    (h : paramMapper.actionParamMap (actionId, param.paramId) = some paramMapEntry)
    (mappedAction : MappedAction) :
    mapActionParam paramMapper actionId param mappedAction =
      (.ok (), mapActionAssignment paramMapEntry (convertParamValue param paramMapEntry.bitWidth)
        mappedAction) := by
  simp only [mapActionParam, h]

theorem mapActionParam_status_ne_ok {actionId : Nat} {param : Param}
    (h : paramMapper.actionParamMap (actionId, param.paramId) = none)
    (mappedAction : MappedAction) :
    (mapActionParam paramMapper actionId param mappedAction).1 ≠ .ok () := by
  simp only [mapActionParam, h, ne_eq, appendStatusIfError_eq_ok_iff]
  simp

/-- The parameter loop ends without error exactly when it starts without
error and every parameter has an entry; it makes their assignments in order. -/
theorem mapActionParams_eq_ok (maps : FlowMaps) {actionId : Nat} :
    ∀ (params : List Param) (status : StatusOr Unit) (mappedAction mappedAction' : MappedAction),
      mapActionParams maps actionId params status mappedAction = (.ok (), mappedAction') ↔
        status = .ok () ∧ ∃ assignments,
          params.mapM (paramAssignment maps.paramMapper actionId) = some assignments ∧
          mappedAction' = assignAll assignments mappedAction
  | [], status, mappedAction, mappedAction' => by
      simp [mapActionParams, assignAll, eq_comm]
  | param :: rest, status, mappedAction, mappedAction' => by
      show mapActionParams maps actionId rest
          (appendStatusIfError status (mapActionParam maps.paramMapper actionId param mappedAction).1)
          (mapActionParam maps.paramMapper actionId param mappedAction).2 = _ ↔ _
      rw [mapActionParams_eq_ok maps rest, appendStatusIfError_eq_ok_iff]
      cases hentry : maps.paramMapper.actionParamMap (actionId, param.paramId) with
      | none =>
        simp [mapActionParam_status_ne_ok maps.paramMapper hentry, paramAssignment, hentry]
      | some paramMapEntry =>
        rw [mapActionParam_of_some maps.paramMapper hentry]
        simp [paramAssignment, hentry, assignAll_cons, Option.bind_eq_some_iff]

/-- The constant loop ends without error exactly when every constant is at
most 64 bits wide; it makes their assignments in order. -/
theorem mapConstants_eq_ok (actionId : Nat) :
    ∀ (constants : List P4ActionParamEntry) (mappedAction mappedAction' : MappedAction),
      mapConstants actionId constants mappedAction = (.ok (), mappedAction') ↔
        ∃ assignments, constants.mapM constantAssignment = some assignments ∧
          mappedAction' = assignAll assignments mappedAction
  | [], mappedAction, mappedAction' => by
      simp [mapConstants, assignAll, eq_comm]
  | paramMapEntry :: rest, mappedAction, mappedAction' => by
      cases hvalue : constantValue paramMapEntry with
      | none => simp [mapConstants, constantAssignment, hvalue]
      | some value =>
        simp [mapConstants, constantAssignment, hvalue, mapConstants_eq_ok actionId rest, assignAll_cons,
          Option.bind_eq_some_iff]

theorem mapActionConstants_eq (actionId : Nat) (mappedAction : MappedAction) :
    mapActionConstants paramMapper actionId mappedAction =
      mapConstants actionId ((paramMapper.actionConstantMap actionId).getD []) mappedAction := by
  unfold mapActionConstants
  cases paramMapper.actionConstantMap actionId <;> rfl

theorem isActionInTableInfo_eq_ok {tableId actionId : Nat} :
    isActionInTableInfo paramMapper tableId actionId = .ok () ↔
      (tableId, actionId) ∈ paramMapper.validTableActions := by
  unfold isActionInTableInfo
  split <;> simp_all

/-- The action that the assignments make from the cleared action, with the
descriptor's primitives appended, is `assignedAction`. -/
theorem assignedAction_eq (descriptor : P4ActionDescriptor)
    (assignments : List (P4ActionParamEntry × P4ActionFields.Value)) :
    (if descriptorPrimitives descriptor = [] then
        assignAll assignments { MappedAction.default with type := descriptor.type }
      else (assignAll assignments { MappedAction.default with type := descriptor.type }).modifyFunction
        fun function =>
          { function with primitives := function.primitives ++ descriptorPrimitives descriptor }) =
      assignedAction descriptor assignments := by
  rw [assignAll_eq]
  by_cases hempty : assignments = [] <;> by_cases hprims : descriptorPrimitives descriptor = [] <;>
    simp [hempty, hprims, assignedAction, assignmentFields, assignmentPrimitives,
      MappedAction.default, MappedAction.modifyFunction, MappedAction.function]

/-- `ProcessActionFunction` maps an action into the cleared action without
error exactly when the table map has its descriptor, each parameter has an
entry and each constant fits 64 bits; the parameters' assignments come
before the constants'. -/
theorem processActionFunction_eq_ok (maps : FlowMaps) {action : Action}
    {mappedAction : MappedAction} :
    processActionFunction maps action .default = (.ok (), mappedAction) ↔
      ∃ value paramAssignments constantAssignments,
        maps.globalIdTableMap action.actionId = some value ∧
        action.params.mapM (paramAssignment maps.paramMapper action.actionId) =
          some paramAssignments ∧
        ((maps.paramMapper.actionConstantMap action.actionId).getD []).mapM constantAssignment =
          some constantAssignments ∧
        mappedAction = assignedAction value.getActionDescriptor
          (paramAssignments ++ constantAssignments) := by
  unfold processActionFunction
  cases hvalue : maps.globalIdTableMap action.actionId with
  | none =>
    simp only [Prod.mk.injEq, appendStatusIfError_eq_ok_iff]
    simp
  | some value =>
    dsimp only
    cases hparams : mapActionParams maps action.actionId action.params (.ok ())
      { MappedAction.default with type := value.getActionDescriptor.type } with
    | mk paramStatus paramsAction =>
    cases hconstants : mapActionConstants maps.paramMapper action.actionId paramsAction with
    | mk constantStatus constantsAction =>
    rw [mapActionConstants_eq] at hconstants
    simp only [Prod.mk.injEq, appendStatusIfError_eq_ok_iff, Option.some.injEq]
    constructor
    · rintro ⟨⟨rfl, rfl⟩, rfl⟩
      obtain ⟨-, paramAssignments, hmapped, rfl⟩ := (mapActionParams_eq_ok maps _ _ _ _).mp hparams
      obtain ⟨constantAssignments, hconstant, rfl⟩ := (mapConstants_eq_ok _ _ _ _).mp hconstants
      exact ⟨value, paramAssignments, constantAssignments, rfl, hmapped, hconstant, by
        rw [← assignedAction_eq, assignAll_append]⟩
    · rintro ⟨_, paramAssignments, constantAssignments, rfl, hmapped, hconstant, rfl⟩
      have hparams' := (mapActionParams_eq_ok maps action.params (.ok ())
        { MappedAction.default with type := value.getActionDescriptor.type } _).mpr
          ⟨rfl, paramAssignments, hmapped, rfl⟩
      rw [hparams, Prod.mk.injEq] at hparams'
      obtain ⟨rfl, rfl⟩ := hparams'
      have hconstants' := (mapConstants_eq_ok action.actionId _
        (assignAll paramAssignments { MappedAction.default with type := value.getActionDescriptor.type })
        _).mpr
        ⟨constantAssignments, hconstant, rfl⟩
      rw [hconstants, Prod.mk.injEq] at hconstants'
      obtain ⟨rfl, rfl⟩ := hconstants'
      exact ⟨⟨rfl, rfl⟩, by rw [← assignedAction_eq, assignAll_append]⟩

/-- A table entry's action maps without error exactly when its ID is
non-zero, the parameter mapper lists it for the table, the table map has its
descriptor, each parameter has an entry and each constant is at most 64 bits
wide. The mapped action then has the descriptor's type, and a function whose
modified fields are those of each parameter and then of each constant, in
order, and whose primitives are theirs followed by the descriptor's. -/
theorem table_action_maps_by_assignments (maps : FlowMaps) {tableP4Info : TableP4Info}
    {action : Action} {mappedAction : MappedAction} :
    ActionMaps maps tableP4Info (some (.action action)) mappedAction ↔
      action.actionId ≠ 0 ∧
      (tableP4Info.id, action.actionId) ∈ maps.paramMapper.validTableActions ∧
      ∃ value paramAssignments constantAssignments,
        maps.globalIdTableMap action.actionId = some value ∧
        action.params.mapM (paramAssignment maps.paramMapper action.actionId) =
          some paramAssignments ∧
        ((maps.paramMapper.actionConstantMap action.actionId).getD []).mapM constantAssignment =
          some constantAssignments ∧
        mappedAction = assignedAction value.getActionDescriptor
          (paramAssignments ++ constantAssignments) := by
  have hstep : processTableAction maps tableP4Info (.action action) .default =
      (appendStatusIfError (.ok ()) (processTableActionFunction maps tableP4Info action .default).1,
        { CommonFlowEntry.default with
          action := (processTableActionFunction maps tableP4Info action .default).2 }) := rfl
  rw [ActionMaps, hstep, Prod.mk.injEq, appendStatusIfError_eq_ok_iff]
  unfold processTableActionFunction
  by_cases hid : action.actionId = 0
  · simp [hid]
  cases hin : isActionInTableInfo maps.paramMapper tableP4Info.id action.actionId with
  | error e =>
    have hmem : (tableP4Info.id, action.actionId) ∉ maps.paramMapper.validTableActions :=
      fun hmem => by
        rw [(isActionInTableInfo_eq_ok maps.paramMapper).mpr hmem] at hin
        cases hin
    simp [hid, hmem]
  | ok u =>
    have hmem := (isActionInTableInfo_eq_ok maps.paramMapper).mp hin
    simp only [hid, hmem, if_false, ne_eq, not_false_eq_true, true_and]
    rw [← processActionFunction_eq_ok maps]
    cases processActionFunction maps action .default with
    | mk status mappedAction' => simp [CommonFlowEntry.default, eq_comm]

end Actions

end Stratum.Ports.P4TableMapper
