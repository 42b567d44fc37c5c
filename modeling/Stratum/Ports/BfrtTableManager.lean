import Stratum.Ports.BfSdeWrapper
import Stratum.Ports.BfrtP4RuntimeTranslator

/-!
# The write path of `BfrtTableManager`

`stratum/hal/lib/barefoot/bfrt_table_manager.cc` writes a P4Runtime table
entry to the SDE: `WriteTableEntry` translates the entry to the SDK's view,
finds its table in the P4Info, builds the SDE key (`BuildTableKey`) and data
(`BuildTableData`) and hands them to the SDE. Every byte string goes through
one of the setters of `BfSdeWrapper`, which pad or cut it to the width the
SDE gives the field.

`buildTableWrite` is `WriteTableEntry` up to its one call into the SDE: its
result is the table write the SDE is handed, so an error of `buildTableWrite`
is a write rejected before it reaches the SDE. The reader lock is left out.

Main results:

* `buildTableKey_eq_ok` — the key of a built entry holds, for each match
  field of the table's P4Info, the entry's first match with its ID, each
  string written on the field's bytes;
* `buildTableData_eq_ok` — the data of a built entry holds each parameter of
  its action written on the parameter's bytes;
* `table_write_stores_padded` — so does every write handed to the SDE, for
  the translated entry; a value wider than its field is cut to the field's
  bytes, not refused (`table_write_truncates`).
-/

namespace Stratum.Ports.BfrtTableManager

open Stratum.Verified.BigEndian Stratum.Verified.Run
open Stratum.Ports.Status Stratum.Ports.P4Runtime Stratum.Ports.P4Utils
open Stratum.Ports.BarefootUtils Stratum.Ports.BfSdeWrapper
open Stratum.Ports.BfrtP4RuntimeTranslator

/-! ## `P4InfoManager` -/

/-- `P4InfoManager::FindTableByID`. -/
def findTableById (p4info : P4Info) (tableId : Nat) : StatusOr P4Info.Table :=
  match p4info.tables.find? (·.id == tableId) with
  | some table => .ok table
  | none => .error ⟨.errInvalidP4Info,
      "P4Info Table ID " ++ printP4ObjectId tableId ++ " is not found"⟩

/-! ## `BuildTableKey` -/

/-- The `switch` of `BuildTableKey` on a match the entry has for a field: the
match must be of the field's type and not a don't-care match. An optional
match passes its check and falls through to the error. -/
def buildFieldMatch (expectedMatchField : P4Info.MatchField) (mk : FieldMatch)
    (tableKey : TableKey) : StatusOr TableKey :=
  match mk.fieldMatchType with
  | .exact value => do
      retCheck (expectedMatchField.matchType == .exact)
        "Found match field of type EXACT does not fit match field ."
      retCheck (!isDontCareMatchExact value) "Don't care match  must be omitted."
      tableKey.setExact mk.fieldId value
  | .ternary value mask => do
      retCheck (expectedMatchField.matchType == .ternary)
        "Found match field of type TERNARY does not fit match field ."
      retCheck (!isDontCareMatchTernary mask) "Don't care match  must be omitted."
      tableKey.setTernary mk.fieldId value mask
  | .lpm value prefixLen => do
      retCheck (expectedMatchField.matchType == .lpm)
        "Found match field of type LPM does not fit match field ."
      retCheck (!isDontCareMatchLpm prefixLen) "Don't care match  must be omitted."
      tableKey.setLpm mk.fieldId value (toUint16 prefixLen)
  | .range low high => do
      retCheck (expectedMatchField.matchType == .range)
        "Found match field of type Range does not fit match field ."
      retCheck (!isDontCareMatchRange low high expectedMatchField.bitwidth)
        "Don't care match  must be omitted."
      tableKey.setRange mk.fieldId low high
  | .optional value => do
      retCheck (!isDontCareMatchOptional value) "Don't care match field  must be omitted."
      .error ⟨.errInvalidParam, "Invalid or unsupported match key: "⟩
  | _ => .error ⟨.errInvalidParam, "Invalid or unsupported match key: "⟩

/-- The `switch` of `BuildTableKey` on the type of a field the entry has no
match for: zero values implement a don't-care exact, ternary or LPM match; a
range match is set to the field's whole range. -/
def buildMissingField (expectedMatchField : P4Info.MatchField) (tableKey : TableKey) :
    StatusOr TableKey :=
  match expectedMatchField.matchType with
  | .exact | .ternary | .lpm => .ok tableKey
  | .range => tableKey.setRange expectedMatchField.id
      (rangeDefaultLow expectedMatchField.bitwidth) (rangeDefaultHigh expectedMatchField.bitwidth)
  | matchType => .error ⟨.errInvalidParam, "Invalid field match type " ++ matchType.name ++ "."⟩

/-- The `if (it != table_entry.match().end())` of `BuildTableKey`: the
entry's first match with the field's ID, or the field's default. -/
def buildExpectedField (tableEntry : TableEntry) (expectedMatchField : P4Info.MatchField)
    (tableKey : TableKey) : StatusOr TableKey :=
  match tableEntry.fieldMatches.find? (·.fieldId == expectedMatchField.id) with
  | some mk => buildFieldMatch expectedMatchField mk tableKey
  | none => buildMissingField expectedMatchField tableKey

/-- One iteration of the loop of `BuildTableKey` over the match fields of the
table's P4Info. The flag is `needs_priority`. -/
def buildMatchField (tableEntry : TableEntry) (acc : Bool × TableKey)
    (expectedMatchField : P4Info.MatchField) : StatusOr (Bool × TableKey) := do
  let tableKey ← buildExpectedField tableEntry expectedMatchField acc.2
  pure (acc.1 || expectedMatchField.matchType == .ternary ||
    expectedMatchField.matchType == .range, tableKey)

/-- `BuildTableKey`. -/
def buildTableKey (p4info : P4Info) (tableEntry : TableEntry) (tableKey : TableKey) :
    StatusOr TableKey := do
  let table ← findTableById p4info tableEntry.tableId
  let (needsPriority, tableKey) ←
    table.matchFields.foldlM (buildMatchField tableEntry) (false, tableKey)
  if !needsPriority && tableEntry.priority ≠ 0 then
    .error ⟨.errInvalidParam, "Non-zero priority for exact/LPM match."⟩
  else if needsPriority && tableEntry.priority = 0 then
    .error ⟨.errInvalidParam, "Zero priority for ternary/range/optional match."⟩
  else if needsPriority then do
    let priority ← convertPriorityFromP4rtToBfrt tableEntry.priority
    tableKey.setPriority priority
  else .ok tableKey

/-! ## `BuildTableData` -/

/-- `BuildTableActionData`: the data reset for the action, then every
parameter set. -/
def buildTableActionData (action : Action) (tableData : TableData) : StatusOr TableData := do
  let tableData ← tableData.reset action.actionId
  action.params.foldlM (fun tableData param => tableData.setParam param.paramId param.value)
    tableData

/-- The `type_case()` of an entry's action, as the error streams it. -/
def tableActionTypeCase : Option TableAction → Nat
  | some (.action _) => 1
  | some (.actionProfileMemberId _) => 2
  | some (.actionProfileGroupId _) => 3
  | some (.actionProfileActionSet _) => 4
  | some .notSet | none => 0

/-- The `switch` of `BuildTableData` on the entry's action. -/
def buildTableActionPart (tableEntry : TableEntry) (tableData : TableData) :
    StatusOr TableData :=
  match tableEntry.action with
  | some (.action action) => buildTableActionData action tableData
  | some (.actionProfileMemberId memberId) => tableData.setActionMemberId memberId
  | some (.actionProfileGroupId groupId) => tableData.setSelectorGroupId groupId
  | action => .error ⟨.errUnimplemented,
      "Unsupported action type: " ++ toString (tableActionTypeCase action)⟩

/-- The counter data of an entry, if it has any, set on the data. -/
def buildTableCounterPart (tableEntry : TableEntry) (tableData : TableData) :
    StatusOr TableData :=
  match tableEntry.counterData with
  | some ⟨byteCount, packetCount⟩ =>
      tableData.setCounterData (toUint64 byteCount) (toUint64 packetCount)
  | none => .ok tableData

/-- `BuildTableData`: the action, the counter data, and no meter config. -/
def buildTableData (tableEntry : TableEntry) (tableData : TableData) : StatusOr TableData := do
  let tableData ← buildTableActionPart tableEntry tableData
  let tableData ← buildTableCounterPart tableEntry tableData
  match tableEntry.meterConfig with
  | some _ => .error ⟨.errUnimplemented, "Meter configs on TablesEntries are not supported."⟩
  | none => .ok tableData

/-! ## `WriteTableEntry` -/

/-- `table_entry.action().action().action_id()`: `0` unless the entry has a
direct action. -/
def actionIdOf (tableEntry : TableEntry) : Nat :=
  match tableEntry.action with
  | some (.action action) => action.actionId
  | _ => 0

/-- The data of an insertion or a modification is built from the entry; that
of a deletion stays as created. -/
def buildUpdateData (type : UpdateType) (translatedTableEntry : TableEntry)
    (tableData : TableData) : StatusOr TableData :=
  if type == .insert || type == .modify then buildTableData translatedTableEntry tableData
  else .ok tableData

/-- The branch of `WriteTableEntry` for an entry other than the default one:
a key, and for an insertion or a modification data, for the SDE. -/
def buildEntryWrite (sde : BfSdeInterface) (p4info : P4Info) (type : UpdateType)
    (translatedTableEntry : TableEntry) (table : P4Info.Table) (tableId : Nat) :
    StatusOr TableWrite :=
  if table.isConstTable then
    .error ⟨.errPermissionDenied,
      "Can't write to table " ++ table.name ++ " because it has const entries."⟩
  else do
    let tableKey ← sde.createTableKey tableId
    let tableKey ← buildTableKey p4info translatedTableEntry tableKey
    let tableData ← sde.createTableData tableId (actionIdOf translatedTableEntry)
    let tableData ← buildUpdateData type translatedTableEntry tableData
    match type with
    | .insert => .ok (.insertTableEntry tableId tableKey tableData)
    | .modify => .ok (.modifyTableEntry tableId tableKey tableData)
    | .delete => .ok (.deleteTableEntry tableId tableKey)
    | .unspecified => .error ⟨.errInternal, "Unsupported update type: 0 in table entry ."⟩

/-- The branch of `WriteTableEntry` for the default entry: only a
modification, without matches or priority; its action is set, or the default
reset. -/
def buildDefaultEntryWrite (sde : BfSdeInterface) (type : UpdateType)
    (translatedTableEntry : TableEntry) (tableId : Nat) : StatusOr TableWrite := do
  retCheck (type == .modify) "The table default entry can only be modified."
  retCheck (translatedTableEntry.fieldMatches.length == 0)
    "Default action must not contain match fields."
  retCheck (translatedTableEntry.priority == 0)
    "Default action must not contain a priority field."
  if translatedTableEntry.action.isSome then do
    let tableData ← sde.createTableData tableId (actionIdOf translatedTableEntry)
    let tableData ← buildTableData translatedTableEntry tableData
    pure (.setDefaultTableEntry tableId tableData)
  else pure (.resetDefaultTableEntry tableId)

/-- `WriteTableEntry` up to its call into the SDE: the table write it hands
the SDE. -/
def buildTableWrite (sde : BfSdeInterface) (translator : Translator) (p4info : P4Info)
    (type : UpdateType) (tableEntry : TableEntry) : StatusOr TableWrite := do
  retCheck (type != .unspecified) "Invalid update type 0"
  let translatedTableEntry ← translateTableEntry translator tableEntry true
  let table ← findTableById p4info translatedTableEntry.tableId
  let tableId ← sde.getBfRtId translatedTableEntry.tableId
  if !translatedTableEntry.isDefaultAction then
    buildEntryWrite sde p4info type translatedTableEntry table tableId
  else
    buildDefaultEntryWrite sde type translatedTableEntry tableId

/-! ## What a built key holds -/

/-- What `BuildTableKey` stores for a match of the entry: each string written
on the field's bytes, the LPM prefix length as a `uint16`; a match of any
other kind is never stored. -/
def paddedKeyField (numBytes : Nat) : FieldMatchType → Option KeyFieldValue
  | .exact bytes => some (.exact (natBytes numBytes (value bytes)))
  | .ternary bytes mask =>
      some (.ternary (natBytes numBytes (value bytes)) (natBytes numBytes (value mask)))
  | .lpm bytes prefixLen => some (.lpm (natBytes numBytes (value bytes)) (toUint16 prefixLen))
  | .range low high =>
      some (.range (natBytes numBytes (value low)) (natBytes numBytes (value high)))
  | _ => none

/-- What the getter of a match's kind reads back from a key: the canonical
form of each string as written on the field's bytes. -/
def ReadsBack (tableKey : TableKey) (id numBytes : Nat) : FieldMatchType → Prop
  | .exact bytes =>
      tableKey.getExact id = .ok (byteStringToP4RuntimeByteString (natBytes numBytes (value bytes)))
  | .ternary bytes mask =>
      tableKey.getTernary id = .ok
        (byteStringToP4RuntimeByteString (natBytes numBytes (value bytes)),
          byteStringToP4RuntimeByteString (natBytes numBytes (value mask)))
  | .lpm bytes prefixLen =>
      tableKey.getLpm id = .ok
        (byteStringToP4RuntimeByteString (natBytes numBytes (value bytes)), toUint16 prefixLen)
  | .range low high =>
      tableKey.getRange id = .ok
        (byteStringToP4RuntimeByteString (natBytes numBytes (value low)),
          byteStringToP4RuntimeByteString (natBytes numBytes (value high)))
  | _ => True

/-- A stored match reads back through the getter of its kind. -/
theorem readsBack_of_fields {tableKey : TableKey} {id fieldSizeBits : Nat}
    {fieldMatchType : FieldMatchType} {fieldValue : KeyFieldValue}
    (hsize : tableKey.table.keyFieldSizeGet id = .ok fieldSizeBits)
    (hpadded : paddedKeyField (numBitsToNumBytes fieldSizeBits) fieldMatchType = some fieldValue)
    (hfield : tableKey.fields id = some fieldValue) :
    ReadsBack tableKey id (numBitsToNumBytes fieldSizeBits) fieldMatchType := by
  cases fieldMatchType with
  | exact bytes | ternary bytes mask | lpm bytes prefixLen | range low high =>
      cases hpadded
      simp [ReadsBack, TableKey.getExact, TableKey.getTernary, TableKey.getLpm,
        TableKey.getRange, TableKey.getPadded_of_size hsize, hfield]
  | optional bytes | other | notSet => cases hpadded

/-- What the key of a built entry holds for a match field of the table's
P4Info: the entry's first match with the field's ID, each string written on
the field's bytes, and read back in canonical form. -/
def MatchFieldStored (tableEntry : TableEntry) (tableKey : TableKey)
    (expectedMatchField : P4Info.MatchField) : Prop :=
  ∀ mk, tableEntry.fieldMatches.find? (·.fieldId == expectedMatchField.id) = some mk →
    ∃ fieldSizeBits fieldValue,
      tableKey.table.keyFieldSizeGet expectedMatchField.id = .ok fieldSizeBits ∧
      paddedKeyField (numBitsToNumBytes fieldSizeBits) mk.fieldMatchType = some fieldValue ∧
      tableKey.fields expectedMatchField.id = some fieldValue

/-- A write to another field keeps what the key holds for a match field. -/
theorem MatchFieldStored.setValue_of_ne {tableEntry : TableEntry} {tableKey : TableKey}
    {expectedMatchField : P4Info.MatchField}
    (h : MatchFieldStored tableEntry tableKey expectedMatchField)
    {id : Nat} (hne : id ≠ expectedMatchField.id) (fieldValue : KeyFieldValue) :
    MatchFieldStored tableEntry (tableKey.setValue id fieldValue) expectedMatchField := by
  intro mk hmk
  obtain ⟨fieldSizeBits, stored, hsize, hpadded, hfield⟩ := h mk hmk
  refine ⟨fieldSizeBits, stored, hsize, hpadded, ?_⟩
  rw [TableKey.fields_setValue_of_ne _ (Ne.symm hne)]
  exact hfield

/-- A match of the entry that `BuildTableKey` accepts is stored at its own
field, each string written on the field's bytes. -/
theorem buildFieldMatch_eq_ok {expectedMatchField : P4Info.MatchField} {mk : FieldMatch}
    {tableKey tableKey' : TableKey}
    (h : buildFieldMatch expectedMatchField mk tableKey = .ok tableKey') :
    ∃ fieldSizeBits fieldValue, tableKey.table.keyFieldSizeGet mk.fieldId = .ok fieldSizeBits ∧
      paddedKeyField (numBitsToNumBytes fieldSizeBits) mk.fieldMatchType = some fieldValue ∧
      tableKey' = tableKey.setValue mk.fieldId fieldValue := by
  unfold buildFieldMatch at h
  -- the four kinds that pass their checks reach a padding setter
  cases hkind : mk.fieldMatchType with
  | exact bytes | ternary bytes mask | lpm bytes prefixLen | range low high =>
      rw [hkind] at h
      have hset := ((retCheck_bind_eq_ok.mp h).2 |> retCheck_bind_eq_ok.mp).2
      obtain ⟨fieldSizeBits, hsize, hkey⟩ := TableKey.setPadded_eq_ok.mp hset
      exact ⟨fieldSizeBits, _, hsize, rfl, hkey⟩
  | optional bytes =>
      rw [hkind] at h
      cases (retCheck_bind_eq_ok.mp h).2
  | other => rw [hkind] at h; cases h
  | notSet => rw [hkind] at h; cases h

/-- The default of a field the entry has no match for is written at that
field only. -/
theorem buildMissingField_eq_ok {expectedMatchField : P4Info.MatchField}
    {tableKey tableKey' : TableKey}
    (h : buildMissingField expectedMatchField tableKey = .ok tableKey') :
    tableKey'.table = tableKey.table ∧
      ∀ id, id ≠ expectedMatchField.id → tableKey'.fields id = tableKey.fields id := by
  unfold buildMissingField at h
  cases hkind : expectedMatchField.matchType with
  | exact | ternary | lpm =>
      rw [hkind] at h
      cases h
      exact ⟨rfl, fun _ _ => rfl⟩
  | range =>
      rw [hkind] at h
      obtain ⟨fieldSizeBits, -, rfl⟩ := TableKey.setPadded_eq_ok.mp h
      exact ⟨rfl, fun id hne => TableKey.fields_setValue_of_ne _ hne _⟩
  | unspecified | optional => rw [hkind] at h; cases h

/-- One iteration of the loop of `BuildTableKey` writes its field only, and
stores there the entry's first match with the field's ID. -/
theorem buildMatchField_eq_ok {tableEntry : TableEntry} {acc acc' : Bool × TableKey}
    {expectedMatchField : P4Info.MatchField}
    (h : buildMatchField tableEntry acc expectedMatchField = .ok acc') :
    acc'.2.table = acc.2.table ∧
      (∀ id, id ≠ expectedMatchField.id → acc'.2.fields id = acc.2.fields id) ∧
      ∀ mk, tableEntry.fieldMatches.find? (·.fieldId == expectedMatchField.id) = some mk →
        ∃ fieldSizeBits fieldValue,
          acc.2.table.keyFieldSizeGet expectedMatchField.id = .ok fieldSizeBits ∧
          paddedKeyField (numBitsToNumBytes fieldSizeBits) mk.fieldMatchType = some fieldValue ∧
          acc'.2.fields expectedMatchField.id = some fieldValue := by
  unfold buildMatchField at h
  rw [bind_eq_ok] at h
  obtain ⟨tableKey, hkey, hacc'⟩ := h
  cases hacc'
  unfold buildExpectedField at hkey
  cases hfind : tableEntry.fieldMatches.find? (·.fieldId == expectedMatchField.id) with
  | none =>
      -- no match: the field's default, and nothing to store from the entry
      rw [hfind] at hkey
      have hmissing := buildMissingField_eq_ok hkey
      exact ⟨hmissing.1, hmissing.2, fun mk hmk => by cases hmk⟩
  | some mk =>
      rw [hfind] at hkey
      -- the match found has the field's ID
      have hid : mk.fieldId = expectedMatchField.id := by
        have hsame := List.find?_some hfind
        simpa using hsame
      obtain ⟨fieldSizeBits, fieldValue, hsize, hpadded, rfl⟩ := buildFieldMatch_eq_ok hkey
      refine ⟨rfl, fun id hne => TableKey.fields_setValue_of_ne _ (hid ▸ hne) _, ?_⟩
      intro mk' hmk'
      cases hmk'
      rw [← hid]
      exact ⟨fieldSizeBits, fieldValue, hsize, hpadded, TableKey.fields_setValue_self _ _ _⟩

/-- The loop of `BuildTableKey` keeps the key's table, writes only the fields
of the table's P4Info and, when their IDs are distinct, leaves each holding
the entry's first match with its ID. -/
theorem buildMatchFields_eq_ok {tableEntry : TableEntry} {matchFields : List P4Info.MatchField}
    {tableKey : TableKey} {acc : Bool × TableKey}
    (h : matchFields.foldlM (buildMatchField tableEntry) (false, tableKey) = .ok acc) :
    acc.2.table = tableKey.table ∧
      (∀ id, id ∉ matchFields.map (·.id) → acc.2.fields id = tableKey.fields id) ∧
      ((matchFields.map (·.id)).Nodup →
        ∀ expectedMatchField ∈ matchFields,
          MatchFieldStored tableEntry acc.2 expectedMatchField) := by
  have hframe : ∀ (acc : Bool × TableKey) expectedMatchField (acc' : Bool × TableKey) id,
      buildMatchField tableEntry acc expectedMatchField = .ok acc' → id ≠ expectedMatchField.id →
      acc'.2.fields id = acc.2.fields id :=
    fun _ _ _ id hstep hne => (buildMatchField_eq_ok hstep).2.1 id hne
  have htable : acc.2.table = tableKey.table :=
    foldlM_invariant (fun acc : Bool × TableKey => acc.2.table = tableKey.table)
      (fun _ _ _ hacc hstep => (buildMatchField_eq_ok hstep).1.trans hacc) matchFields _ acc rfl h
  refine ⟨htable,
    foldlM_frame (·.id) (fun acc id => acc.2.fields id) hframe matchFields _ acc h, ?_⟩
  intro hnodup expectedMatchField hmem mk hmk
  -- each field's write survives the later ones, whose IDs differ
  have hwrites := foldlM_writes (·.id) (fun acc id => acc.2.fields id)
    (fun acc : Bool × TableKey => acc.2.table = tableKey.table)
    (fun expectedMatchField stored => ∀ mk,
      tableEntry.fieldMatches.find? (·.fieldId == expectedMatchField.id) = some mk →
      ∃ fieldSizeBits fieldValue,
        tableKey.table.keyFieldSizeGet expectedMatchField.id = .ok fieldSizeBits ∧
        paddedKeyField (numBitsToNumBytes fieldSizeBits) mk.fieldMatchType = some fieldValue ∧
        stored = some fieldValue)
    (fun _ _ _ hacc hstep => (buildMatchField_eq_ok hstep).1.trans hacc)
    (fun _ _ _ hacc hstep => by
      intro mk hmk
      rw [← hacc]
      exact (buildMatchField_eq_ok hstep).2.2 mk hmk)
    hframe matchFields _ acc rfl hnodup h expectedMatchField hmem mk hmk
  rw [htable]
  exact hwrites

/-- A built key holds, for each match field of the table's P4Info, the
entry's first match with its ID, unless the priority is written over it; the
fields the P4Info does not list are left alone. -/
theorem buildTableKey_eq_ok {p4info : P4Info} {tableEntry : TableEntry}
    {tableKey tableKey' : TableKey} (h : buildTableKey p4info tableEntry tableKey = .ok tableKey') :
    ∃ table, findTableById p4info tableEntry.tableId = .ok table ∧
      tableKey'.table = tableKey.table ∧
      (∀ id, id ∉ table.matchFields.map (·.id) →
        (∀ priorityFieldId, tableKey.table.keyFieldIdGet kMatchPriority = .ok priorityFieldId →
          priorityFieldId ≠ id) →
        tableKey'.fields id = tableKey.fields id) ∧
      ((table.matchFields.map (·.id)).Nodup →
        ∀ expectedMatchField ∈ table.matchFields,
          (∀ priorityFieldId, tableKey.table.keyFieldIdGet kMatchPriority = .ok priorityFieldId →
            priorityFieldId ≠ expectedMatchField.id) →
          MatchFieldStored tableEntry tableKey' expectedMatchField) := by
  unfold buildTableKey at h
  rw [bind_eq_ok] at h
  obtain ⟨table, htable, h⟩ := h
  rw [bind_eq_ok] at h
  obtain ⟨⟨needsPriority, builtKey⟩, hloop, h⟩ := h
  obtain ⟨hbuiltTable, hbuiltFrame, hbuiltStored⟩ := buildMatchFields_eq_ok hloop
  refine ⟨table, htable, ?_⟩
  dsimp only at h hbuiltTable hbuiltFrame hbuiltStored
  -- the two refused priorities end in errors, which `split_ifs` discards
  split_ifs at h with hnonzero hzero hneeds
  · -- the priority is written at the SDE's priority field
    cases hconvert : convertPriorityFromP4rtToBfrt tableEntry.priority with
    | error e => rw [hconvert] at h; cases h
    | ok priority =>
        rw [hconvert] at h
        have hset : builtKey.setPriority priority = .ok tableKey' := h
        obtain ⟨priorityFieldId, hid, rfl⟩ := TableKey.setPriority_eq_ok.mp hset
        rw [hbuiltTable] at hid
        refine ⟨hbuiltTable, fun id hid' hpriority => ?_,
          fun hnodup expectedMatchField hmem hpriority =>
            (hbuiltStored hnodup expectedMatchField hmem).setValue_of_ne (hpriority _ hid) _⟩
        rw [TableKey.fields_setValue_of_ne _ (Ne.symm (hpriority _ hid))]
        exact hbuiltFrame id hid'
  · cases h
    exact ⟨hbuiltTable, fun id hid _ => hbuiltFrame id hid,
      fun hnodup expectedMatchField hmem _ => hbuiltStored hnodup expectedMatchField hmem⟩

/-! ## What built data holds -/

/-- What the data of a built entry holds for a parameter of its action: the
value written on the parameter's bytes. -/
def ParamStored (tableData : TableData) (param : Param) : Prop :=
  ∃ fieldSizeBits, tableData.paramSizeGet param.paramId = .ok fieldSizeBits ∧
    tableData.fields param.paramId =
      some (.bytes (natBytes (numBitsToNumBytes fieldSizeBits) (value param.value)))

/-- A stored parameter reads back in canonical form. -/
theorem ParamStored.getParam {tableData : TableData} {param : Param}
    (h : ParamStored tableData param) :
    ∃ fieldSizeBits, tableData.paramSizeGet param.paramId = .ok fieldSizeBits ∧
      tableData.getParam param.paramId = .ok (byteStringToP4RuntimeByteString
        (natBytes (numBitsToNumBytes fieldSizeBits) (value param.value))) := by
  obtain ⟨fieldSizeBits, hsize, hfield⟩ := h
  exact ⟨fieldSizeBits, hsize, TableData.getParam_of_fields hsize hfield⟩

/-- Setting the counters keeps a parameter the SDE does not name as a
counter. -/
theorem ParamStored.setCounterData {tableData tableData' : TableData} {bytes packets : Nat}
    (h : tableData.setCounterData bytes packets = .ok tableData') {param : Param}
    (hname : ∀ name, tableData.table.dataFieldNameGet param.paramId = .ok name →
      name ≠ kCounterBytes ∧ name ≠ kCounterPackets)
    (hstored : ParamStored tableData param) : ParamStored tableData' param := by
  obtain ⟨htable, haction, hfield⟩ := TableData.setCounterData_frame h param.paramId hname
  obtain ⟨fieldSizeBits, hsize, hstoredField⟩ := hstored
  refine ⟨fieldSizeBits, ?_, ?_⟩
  · rw [TableData.paramSizeGet_congr htable haction]
    exact hsize
  · rw [hfield]
    exact hstoredField

/-- `BuildTableActionData` keeps the data's table, sets its action and, when
the parameter IDs are distinct, stores every parameter. -/
theorem buildTableActionData_eq_ok {action : Action} {tableData tableData' : TableData}
    (h : buildTableActionData action tableData = .ok tableData') :
    tableData'.table = tableData.table ∧ tableData'.actionId = action.actionId ∧
      ((action.params.map (·.paramId)).Nodup →
        ∀ param ∈ action.params, ParamStored tableData' param) := by
  unfold buildTableActionData at h
  rw [bind_eq_ok] at h
  obtain ⟨resetData, hreset, hloop⟩ := h
  -- the parameters are set on the reset data, whose table and action every write keeps
  let Same := fun d : TableData => d.table = resetData.table ∧ d.actionId = resetData.actionId
  have hkeep : ∀ (d : TableData) (param : Param) (d' : TableData), Same d →
      d.setParam param.paramId param.value = .ok d' → Same d' := by
    intro d param d' hsame hset
    obtain ⟨_, _, rfl⟩ := TableData.setParam_eq_ok.mp hset
    exact hsame
  have hsame : Same tableData' :=
    foldlM_invariant Same hkeep action.params resetData tableData' ⟨rfl, rfl⟩ hloop
  have hresetData := TableData.reset_eq_ok hreset
  have hsize : tableData'.paramSizeGet = resetData.paramSizeGet :=
    TableData.paramSizeGet_congr hsame.1 hsame.2
  refine ⟨hsame.1.trans (by rw [hresetData]), hsame.2.trans (by rw [hresetData]), ?_⟩
  intro hnodup param hmem
  have hwrites := foldlM_writes (·.paramId) (fun d id => d.fields id) Same
    (fun param stored => ∃ fieldSizeBits, resetData.paramSizeGet param.paramId = .ok fieldSizeBits ∧
      stored = some (.bytes (natBytes (numBitsToNumBytes fieldSizeBits) (value param.value))))
    hkeep
    (fun d param d' hsameD hset => by
      obtain ⟨fieldSizeBits, hsizeD, rfl⟩ := TableData.setParam_eq_ok.mp hset
      rw [TableData.paramSizeGet_congr hsameD.1 hsameD.2] at hsizeD
      exact ⟨fieldSizeBits, hsizeD, TableData.fields_setValue_self _ _ _⟩)
    (fun d param d' id hset hne => by
      obtain ⟨_, _, rfl⟩ := TableData.setParam_eq_ok.mp hset
      exact TableData.fields_setValue_of_ne _ hne _)
    action.params resetData tableData' ⟨rfl, rfl⟩ hnodup hloop param hmem
  obtain ⟨fieldSizeBits, hsizeParam, hfield⟩ := hwrites
  exact ⟨fieldSizeBits, by rw [hsize]; exact hsizeParam, hfield⟩

/-- `BuildTableData` keeps the data's table and, for a direct action whose
parameter IDs are distinct and not named as counters, stores every
parameter. -/
theorem buildTableData_eq_ok {tableEntry : TableEntry} {tableData tableData' : TableData}
    (h : buildTableData tableEntry tableData = .ok tableData') :
    tableData'.table = tableData.table ∧
      ∀ action, tableEntry.action = some (.action action) →
        (action.params.map (·.paramId)).Nodup →
        (∀ param ∈ action.params, ∀ name,
          tableData.table.dataFieldNameGet param.paramId = .ok name →
          name ≠ kCounterBytes ∧ name ≠ kCounterPackets) →
        ∀ param ∈ action.params, ParamStored tableData' param := by
  unfold buildTableData at h
  rw [bind_eq_ok] at h
  obtain ⟨actionData, hactionData, h⟩ := h
  rw [bind_eq_ok] at h
  obtain ⟨counterData, hcounterData, hmeter⟩ := h
  -- a meter config is refused, so the data is the one with the counters set
  have hdata : tableData' = counterData := by
    cases hconfig : tableEntry.meterConfig with
    | some config => rw [hconfig] at hmeter; cases hmeter
    | none => rw [hconfig] at hmeter; cases hmeter; rfl
  rw [hdata]
  -- the action part keeps the table, and stores the parameters of a direct action
  have hactionPart : actionData.table = tableData.table ∧
      ∀ action, tableEntry.action = some (.action action) →
        (action.params.map (·.paramId)).Nodup →
        ∀ param ∈ action.params, ParamStored actionData param := by
    unfold buildTableActionPart at hactionData
    cases haction : tableEntry.action with
    | none => rw [haction] at hactionData; cases hactionData
    | some tableAction =>
        rw [haction] at hactionData
        cases tableAction with
        | action action =>
            obtain ⟨htable, -, hstored⟩ := buildTableActionData_eq_ok hactionData
            refine ⟨htable, fun action' haction' => ?_⟩
            cases haction'
            exact hstored
        | actionProfileMemberId profileId | actionProfileGroupId profileId =>
            obtain ⟨_, rfl⟩ := TableData.setField_eq_ok hactionData
            exact ⟨rfl, fun _ haction' => by cases haction'⟩
        | actionProfileActionSet actions => cases hactionData
        | notSet => cases hactionData
  -- setting the counters keeps the table and every parameter not named a counter
  unfold buildTableCounterPart at hcounterData
  cases hcounters : tableEntry.counterData with
  | none =>
      rw [hcounters] at hcounterData
      cases hcounterData
      exact ⟨hactionPart.1, fun action haction hnodup _ =>
        hactionPart.2 action haction hnodup⟩
  | some counters =>
      rw [hcounters] at hcounterData
      have hcounterTable : counterData.table = actionData.table :=
        (TableData.setCounterData_table hcounterData).trans rfl
      refine ⟨hcounterTable.trans hactionPart.1, fun action haction hnodup hnames param hmem => ?_⟩
      apply (hactionPart.2 action haction hnodup param hmem).setCounterData hcounterData
      rw [hactionPart.1]
      exact hnames param hmem

/-! ## What a write hands the SDE -/

/-- What the getter of each match field reads back from a key: the canonical
form of what was stored. -/
def MatchFieldReadsBack (tableEntry : TableEntry) (tableKey : TableKey)
    (expectedMatchField : P4Info.MatchField) : Prop :=
  ∀ mk, tableEntry.fieldMatches.find? (·.fieldId == expectedMatchField.id) = some mk →
    ∃ fieldSizeBits, tableKey.table.keyFieldSizeGet expectedMatchField.id = .ok fieldSizeBits ∧
      ReadsBack tableKey expectedMatchField.id (numBitsToNumBytes fieldSizeBits) mk.fieldMatchType

theorem MatchFieldStored.readsBack {tableEntry : TableEntry} {tableKey : TableKey}
    {expectedMatchField : P4Info.MatchField}
    (h : MatchFieldStored tableEntry tableKey expectedMatchField) :
    MatchFieldReadsBack tableEntry tableKey expectedMatchField := by
  intro mk hmk
  obtain ⟨fieldSizeBits, fieldValue, hsize, hpadded, hfield⟩ := h mk hmk
  exact ⟨fieldSizeBits, hsize, readsBack_of_fields hsize hpadded hfield⟩

/-- What the key handed to the SDE holds for an entry of a table: nothing at
the fields the table's P4Info does not list, and at each listed field the
entry's first match with its ID, written on the field's bytes and read back
in canonical form; the priority field is assumed apart from the match
fields. -/
def KeyHolds (table : P4Info.Table) (tableEntry : TableEntry) (tableKey : TableKey) : Prop :=
  (∀ id, id ∉ table.matchFields.map (·.id) →
    (∀ priorityFieldId, tableKey.table.keyFieldIdGet kMatchPriority = .ok priorityFieldId →
      priorityFieldId ≠ id) →
    tableKey.fields id = none) ∧
  ((table.matchFields.map (·.id)).Nodup →
    ∀ expectedMatchField ∈ table.matchFields,
      (∀ priorityFieldId, tableKey.table.keyFieldIdGet kMatchPriority = .ok priorityFieldId →
        priorityFieldId ≠ expectedMatchField.id) →
      MatchFieldStored tableEntry tableKey expectedMatchField ∧
        MatchFieldReadsBack tableEntry tableKey expectedMatchField)

/-- What the data handed to the SDE holds for an entry with a direct action
whose parameter IDs are distinct and not named as counters: every parameter
written on its bytes. -/
def DataHolds (tableEntry : TableEntry) (tableData : TableData) : Prop :=
  ∀ action, tableEntry.action = some (.action action) →
    (action.params.map (·.paramId)).Nodup →
    (∀ param ∈ action.params, ∀ name, tableData.table.dataFieldNameGet param.paramId = .ok name →
      name ≠ kCounterBytes ∧ name ≠ kCounterPackets) →
    ∀ param ∈ action.params, ParamStored tableData param ∧
      ∃ fieldSizeBits, tableData.paramSizeGet param.paramId = .ok fieldSizeBits ∧
        tableData.getParam param.paramId = .ok (byteStringToP4RuntimeByteString
          (natBytes (numBitsToNumBytes fieldSizeBits) (value param.value)))

/-- The key `BuildTableKey` builds on a new key holds the entry's matches. -/
theorem keyHolds_of_buildTableKey {p4info : P4Info} {tableEntry : TableEntry}
    {tableKey tableKey' : TableKey} {table : P4Info.Table}
    (htable : findTableById p4info tableEntry.tableId = .ok table)
    (hnew : tableKey.fields = fun _ => none)
    (h : buildTableKey p4info tableEntry tableKey = .ok tableKey') :
    KeyHolds table tableEntry tableKey' := by
  obtain ⟨table', htable', hkeyTable, hframe, hstored⟩ := buildTableKey_eq_ok h
  rw [htable] at htable'
  cases htable'
  constructor
  · intro id hid hpriority
    rw [hframe id hid (by rw [← hkeyTable]; exact hpriority), hnew]
  · intro hnodup expectedMatchField hmem hpriority
    have hfield := hstored hnodup expectedMatchField hmem (by rw [← hkeyTable]; exact hpriority)
    exact ⟨hfield, hfield.readsBack⟩

/-- The data `BuildTableData` builds holds the parameters of a direct
action. -/
theorem dataHolds_of_buildTableData {tableEntry : TableEntry} {tableData tableData' : TableData}
    (h : buildTableData tableEntry tableData = .ok tableData') :
    DataHolds tableEntry tableData' := by
  obtain ⟨htable, hstored⟩ := buildTableData_eq_ok h
  intro action haction hnodup hnames param hmem
  have hparam : ParamStored tableData' param := by
    apply hstored action haction hnodup _ param hmem
    rw [← htable]
    exact hnames
  exact ⟨hparam, hparam.getParam⟩

/-- The write of an entry other than the default one hands the SDE a new key
holding the entry's matches, and data holding its parameters. -/
theorem buildEntryWrite_eq_ok {sde : BfSdeInterface} {p4info : P4Info} {type : UpdateType}
    {translatedTableEntry : TableEntry} {table : P4Info.Table} {tableId : Nat}
    {tableWrite : TableWrite}
    (htable : findTableById p4info translatedTableEntry.tableId = .ok table)
    (h : buildEntryWrite sde p4info type translatedTableEntry table tableId = .ok tableWrite) :
    (∀ tableKey, tableWrite.tableKey? = some tableKey →
      KeyHolds table translatedTableEntry tableKey) ∧
    (∀ tableData, tableWrite.tableData? = some tableData →
      DataHolds translatedTableEntry tableData) := by
  unfold buildEntryWrite at h
  split_ifs at h with hconst
  rw [bind_eq_ok] at h
  obtain ⟨newKey, hnewKey, h⟩ := h
  rw [bind_eq_ok] at h
  obtain ⟨tableKey, hkey, h⟩ := h
  rw [bind_eq_ok] at h
  obtain ⟨newData, -, h⟩ := h
  rw [bind_eq_ok] at h
  obtain ⟨tableData, hdata, hwrite⟩ := h
  unfold buildUpdateData at hdata
  have hkeyHolds := keyHolds_of_buildTableKey htable
    (BfSdeInterface.createTableKey_fields hnewKey) hkey
  -- insertions and modifications build the data; a deletion hands the SDE none
  cases type with
  | insert | modify =>
      cases hwrite
      have hbuilt : buildTableData translatedTableEntry newData = .ok tableData := hdata
      exact ⟨fun _ hsome => by cases hsome; exact hkeyHolds,
        fun _ hsome => by cases hsome; exact dataHolds_of_buildTableData hbuilt⟩
  | delete =>
      cases hwrite
      exact ⟨fun _ hsome => by cases hsome; exact hkeyHolds, fun _ hsome => by cases hsome⟩
  | unspecified => cases hwrite

/-- The write of the default entry hands the SDE no key, and data holding
the parameters of its action. -/
theorem buildDefaultEntryWrite_eq_ok {sde : BfSdeInterface} {type : UpdateType}
    {translatedTableEntry : TableEntry} {tableId : Nat} {tableWrite : TableWrite}
    (h : buildDefaultEntryWrite sde type translatedTableEntry tableId = .ok tableWrite) :
    tableWrite.tableKey? = none ∧
    (∀ tableData, tableWrite.tableData? = some tableData →
      DataHolds translatedTableEntry tableData) := by
  unfold buildDefaultEntryWrite at h
  have hrest := ((((retCheck_bind_eq_ok.mp h).2 |> retCheck_bind_eq_ok.mp).2 |>
    retCheck_bind_eq_ok.mp).2)
  split_ifs at hrest with haction
  · rw [bind_eq_ok] at hrest
    obtain ⟨newData, -, hrest⟩ := hrest
    rw [bind_eq_ok] at hrest
    obtain ⟨tableData, hdata, hwrite⟩ := hrest
    cases hwrite
    exact ⟨rfl, fun _ hsome => by cases hsome; exact dataHolds_of_buildTableData hdata⟩
  · cases hrest
    exact ⟨rfl, fun _ hsome => by cases hsome⟩

/-- Every table write `WriteTableEntry` hands the SDE is for the translated
entry: its key holds the entry's matches and its data the parameters of its
action, every string `v` written on its field's `n` bytes as the value of `v`
modulo `2 ^ (8 * n)`, and read back as the canonical form of that. -/
theorem table_write_stores_padded {sde : BfSdeInterface} {translator : Translator}
    {p4info : P4Info} {type : UpdateType} {tableEntry : TableEntry} {tableWrite : TableWrite}
    (h : buildTableWrite sde translator p4info type tableEntry = .ok tableWrite) :
    ∃ translatedTableEntry table,
      translateTableEntry translator tableEntry true = .ok translatedTableEntry ∧
      findTableById p4info translatedTableEntry.tableId = .ok table ∧
      (∀ tableKey, tableWrite.tableKey? = some tableKey →
        KeyHolds table translatedTableEntry tableKey) ∧
      (∀ tableData, tableWrite.tableData? = some tableData →
        DataHolds translatedTableEntry tableData) := by
  unfold buildTableWrite at h
  have hrest := (retCheck_bind_eq_ok.mp h).2
  rw [bind_eq_ok] at hrest
  obtain ⟨translatedTableEntry, htranslate, hrest⟩ := hrest
  rw [bind_eq_ok] at hrest
  obtain ⟨table, htable, hrest⟩ := hrest
  rw [bind_eq_ok] at hrest
  obtain ⟨tableId, -, hrest⟩ := hrest
  refine ⟨translatedTableEntry, table, htranslate, htable, ?_⟩
  split_ifs at hrest with hdefault
  · exact buildEntryWrite_eq_ok htable hrest
  · obtain ⟨hnoKey, hdata⟩ := buildDefaultEntryWrite_eq_ok hrest
    refine ⟨fun _ hsome => ?_, hdata⟩
    rw [hnoKey] at hsome
    cases hsome

/-- An SDE table with 8-bit key fields and 16-bit data fields, no counters,
and its priority field at ID `0`. -/
def byteKeyBfRtTable : BfRtTable where
  keyAllocate := .ok ()
  keyFieldSizeGet := fun _ => .ok 8
  keyFieldIdGet := fun _ => .ok 0
  actionIdApplicable := true
  dataAllocate := fun _ => .ok ()
  dataReset := fun _ => .ok ()
  dataFieldSizeGet := fun _ _ => .ok 16
  dataFieldIdGet := fun _ _ => .ok 0
  dataFieldDataTypeGet := fun _ _ => .ok .uint64
  dataFieldIdListGet := .ok [1]
  dataFieldNameGet := fun _ => .ok "port"

/-- An SDE whose every table is `byteKeyBfRtTable` and which takes every
write. -/
def byteKeySde : BfSdeInterface where
  getBfRtId := fun id => .ok id
  bfrtTableFromIdGet := fun _ => .ok byteKeyBfRtTable
  writeTable := fun _ => .ok ()

/-- One table `7` with one 8-bit exact match field `1`. -/
def byteKeyP4Info : P4Info :=
  ⟨none, [⟨7, "ingress.fwd", [⟨1, none, 8, .exact⟩], false⟩], [], [], [], [], []⟩

/-- An entry of table `7` matching field `1` exactly on a value, with action
`3` and its parameter `1` set to `[0, 5]`. -/
def byteKeyEntry (bytes : ByteString) : TableEntry :=
  ⟨7, [⟨1, .exact bytes⟩], some (.action ⟨3, [⟨1, [0, 5]⟩]⟩), 0, 0, none, none, false, 0, none,
    []⟩

theorem table_write_stores_padded_byteKey :
    ∃ tableWrite, buildTableWrite byteKeySde (Translator.create false) byteKeyP4Info .insert
        (byteKeyEntry [5]) = .ok tableWrite ∧
      ∃ translatedTableEntry table,
        translateTableEntry (Translator.create false) (byteKeyEntry [5]) true =
          .ok translatedTableEntry ∧
        findTableById byteKeyP4Info translatedTableEntry.tableId = .ok table ∧
        (∀ tableKey, tableWrite.tableKey? = some tableKey →
          KeyHolds table translatedTableEntry tableKey) ∧
        (∀ tableData, tableWrite.tableData? = some tableData →
          DataHolds translatedTableEntry tableData) :=
  ⟨_, rfl, @table_write_stores_padded byteKeySde _ _ .insert _ _ rfl⟩

/-- The write path does not refuse a value wider than its field: the value
`[1, 5]` of the 8-bit field, `261 ≥ 2 ^ 8`, is handed to the SDE as its last
byte, the key reads back `[5]`, and the entry installed is the one of
`byteKeyEntry [5]`. -/
theorem table_write_truncates :
    ∃ tableWrite tableKey,
      buildTableWrite byteKeySde (Translator.create false) byteKeyP4Info .insert
        (byteKeyEntry [1, 5]) = .ok tableWrite ∧
      tableWrite.tableKey? = some tableKey ∧ 2 ^ 8 ≤ value [1, 5] ∧
      tableKey.fields 1 = some (.exact [5]) ∧ tableKey.getExact 1 = .ok [5] ∧
      byteStringToP4RuntimeByteString [1, 5] = [1, 5] ∧
      buildTableWrite byteKeySde (Translator.create false) byteKeyP4Info .insert
        (byteKeyEntry [5]) = .ok tableWrite :=
  ⟨_, _, rfl, rfl, by decide, rfl, rfl, by decide, rfl⟩

/-- `WriteTableEntry`: the table write, handed to the SDE. -/
def writeTableEntry (sde : BfSdeInterface) (translator : Translator) (p4info : P4Info)
    (type : UpdateType) (tableEntry : TableEntry) : StatusOr Unit := do
  let tableWrite ← buildTableWrite sde translator p4info type tableEntry
  sde.writeTable tableWrite

end Stratum.Ports.BfrtTableManager
