import Stratum.Ports.Status
import Stratum.Ports.P4Utils
import Stratum.Verified.Run

/-!
# `TableKey` and `TableData` of `BfSdeWrapper`

`stratum/hal/lib/barefoot/bf_sde_wrapper.cc` wraps the SDE's BfRt key and
data objects in `TableKey` and `TableData`. Each byte-string setter looks up
the width the SDE gives the field, pads the P4Runtime string to that many
bytes (`P4RuntimeByteStringToPaddedByteString`) and hands the SDE the padded
string; each getter reads the field back on the same width and returns its
canonical form (`ByteStringToP4RuntimeByteString`).

The SDE is not part of this repository. `BfRtTable` is the table description
the wrapper queries, as the answers it gives; the key and data objects
store what the setters hand them and return it from the getters, with a
field never set read as zero bytes. `BfSdeInterface` stands for the SDE calls
of `BfSdeWrapper` that `BfrtTableManager` makes.

Main results:

* `setPadded_eq_ok`, `setParam_eq_ok` — a setter that succeeds stores the
  value written on the field's bytes: its value modulo `256 ^ n`;
* `getExact_setExact`, `getTernary_setTernary`, `getLpm_setLpm`,
  `getRange_setRange`, `getParam_of_fields` — a getter after its setter reads
  back the canonical form of what was stored;
* `byteStringToP4RuntimeByteString_padded` (of `P4Utils`) then turns that
  into the canonical form of the value written, whenever it fits.

The module opens with the helpers of `stratum/hal/lib/barefoot/utils.cc`
that the wrapper, the translator and the table manager share
(`Stratum.Ports.BarefootUtils`).
-/

/-!
## Helpers of `stratum/hal/lib/barefoot/utils.cc`

The Barefoot managers share these helpers: the byte width of a bit width, the
all-ones mask of a width, the don't-care test of each kind of match, the
default bounds of a range match, and the conversion between P4Runtime
priorities (the larger wins) and BfRt ones (the smaller wins).

The C++ overloads of `IsDontCareMatch` are one definition each, named after
the kind of match they take.
-/

namespace Stratum.Ports.BarefootUtils

open Stratum.Verified.BigEndian Stratum.Ports.Status

/-- `kMaxPriority` of `bfrt_constants.h`. -/
def kMaxPriority : Nat := 2 ^ 24 - 1

/-- `NumBitsToNumBytes`. -/
def numBitsToNumBytes (numBits : Nat) : Nat := (numBits + 7) / 8

/-- `AllOnesByteString`: `bitwidth` one bits, right-aligned in whole bytes.
For width `0` the string is empty and `value[0] &= mask` leaves the
terminating null byte as it is. -/
def allOnesByteString (bitwidth : Nat) : ByteString :=
  let nbytes := numBitsToNumBytes bitwidth
  let zeroNbits := nbytes * 8 - bitwidth
  match List.replicate nbytes (0xff : UInt8) with
  | [] => []
  | first :: rest => (first &&& UInt8.ofNat (0xff >>> zeroNbits)) :: rest

/-- The `StripLeadingZeroBytes` of the file's unnamed namespace: leading zero
bytes dropped, at least one byte kept. -/
def stripLeadingZeroBytes (str : ByteString) : ByteString :=
  str.drop (min (str.findIdx (· != 0)) (str.length - 1))

/-! ## Don't-care matches -/

/-- `IsDontCareMatch` of an exact match: never. -/
def isDontCareMatchExact (_value : ByteString) : Bool := false

/-- `IsDontCareMatch` of an LPM match: a zero prefix length. -/
def isDontCareMatchLpm (prefixLen : Int) : Bool := prefixLen == 0

/-- `IsDontCareMatch` of a ternary match: a mask of zero bytes only. -/
def isDontCareMatchTernary (mask : ByteString) : Bool := mask.all (· == 0)

/-- `RangeDefaultLow`: zero on the field's bytes. -/
def rangeDefaultLow (bitwidth : Nat) : ByteString :=
  List.replicate (numBitsToNumBytes bitwidth) 0

/-- `RangeDefaultHigh`: all ones on the field's bits. -/
def rangeDefaultHigh (bitwidth : Nat) : ByteString := allOnesByteString bitwidth

/-- `IsDontCareMatch` of a range match: the default bounds of the field, the
low one up to leading zero bytes. -/
def isDontCareMatchRange (low high : ByteString) (fieldWidth : Nat) : Bool :=
  stripLeadingZeroBytes low == stripLeadingZeroBytes (rangeDefaultLow fieldWidth) &&
    high == rangeDefaultHigh fieldWidth

/-- `IsDontCareMatch` of an optional match: never. -/
def isDontCareMatchOptional (_value : ByteString) : Bool := false

/-! ## Priorities -/

/-- `ConvertPriorityFromP4rtToBfrt`: a P4Runtime priority from `0` to
`kMaxPriority`, turned around. -/
def convertPriorityFromP4rtToBfrt (priority : Int) : StatusOr Nat :=
  if priority < 0 then .error ⟨.errInvalidParam, ""⟩
  else if priority > kMaxPriority then .error ⟨.errInvalidParam, ""⟩
  else .ok (kMaxPriority - priority.toNat)

/-- `ConvertPriorityFromBfrtToP4rt`. -/
def convertPriorityFromBfrtToP4rt (priority : Nat) : StatusOr Int :=
  if priority > kMaxPriority then .error ⟨.errInvalidParam, ""⟩
  else .ok (kMaxPriority - priority : Nat)

/-- The two conversions undo each other on the priorities P4Runtime may
use. -/
theorem convertPriorityFromBfrtToP4rt_convertPriorityFromP4rtToBfrt {priority : Int}
    {bfrtPriority : Nat} (h : convertPriorityFromP4rtToBfrt priority = .ok bfrtPriority) :
    convertPriorityFromBfrtToP4rt bfrtPriority = .ok priority := by
  unfold convertPriorityFromP4rtToBfrt at h
  split_ifs at h with hneg hbig
  cases h
  have hle : priority.toNat ≤ kMaxPriority := by omega
  unfold convertPriorityFromBfrtToP4rt
  rw [if_neg (by omega)]
  congr 1
  omega

/-- A BfRt priority is at most `kMaxPriority`. -/
theorem convertPriorityFromP4rtToBfrt_le {priority : Int} {bfrtPriority : Nat}
    (h : convertPriorityFromP4rtToBfrt priority = .ok bfrtPriority) :
    bfrtPriority ≤ kMaxPriority := by
  unfold convertPriorityFromP4rtToBfrt at h
  split_ifs at h
  cases h
  omega

end Stratum.Ports.BarefootUtils

namespace Stratum.Ports.BfSdeWrapper

open Function
open Stratum.Verified.BigEndian Stratum.Verified.Run
open Stratum.Ports.Status Stratum.Ports.P4Utils Stratum.Ports.BarefootUtils

/-! ## Constants of `bfrt_constants.h` -/

/-- `kCounterBytes`. -/
def kCounterBytes : String := "$COUNTER_SPEC_BYTES"

/-- `kCounterPackets`. -/
def kCounterPackets : String := "$COUNTER_SPEC_PKTS"

/-- `kMatchPriority`. -/
def kMatchPriority : String := "$MATCH_PRIORITY"

/-- `kActionMemberId`. -/
def kActionMemberId : String := "$ACTION_MEMBER_ID"

/-- `kSelectorGroupId`. -/
def kSelectorGroupId : String := "$SELECTOR_GROUP_ID"

/-! ## The SDE's tables -/

/-- `bfrt::DataType` as `SetField` tells it apart: `UINT64`, or another type
with the value `static_cast<int>` gives it. -/
inductive DataType
  | uint64
  | other (code : Int)
  deriving DecidableEq, Repr

/-- `bfrt::BfRtTable`: the answers the wrapper asks of a table. A data-field
query takes the action ID for the overload with one, `none` for the other. -/
structure BfRtTable where
  keyAllocate : StatusOr Unit
  keyFieldSizeGet : Nat → StatusOr Nat
  keyFieldIdGet : String → StatusOr Nat
  actionIdApplicable : Bool
  dataAllocate : Option Nat → StatusOr Unit
  dataReset : Option Nat → StatusOr Unit
  dataFieldSizeGet : Nat → Option Nat → StatusOr Nat
  dataFieldIdGet : String → Option Nat → StatusOr Nat
  dataFieldDataTypeGet : Nat → Option Nat → StatusOr DataType
  dataFieldIdListGet : StatusOr (List Nat)
  dataFieldNameGet : Nat → StatusOr String

/-- What a key object holds for a field: what its setter handed the SDE. -/
inductive KeyFieldValue
  | exact (value : ByteString)
  | ternary (value mask : ByteString)
  | lpm (value : ByteString) (prefixLength : Nat)
  | range (low high : ByteString)
  | uint64 (value : Nat)
  deriving DecidableEq, Repr

/-- What a data object holds for a field. -/
inductive DataFieldValue
  | bytes (value : ByteString)
  | uint64 (value : Nat)
  deriving DecidableEq, Repr

/-- A `TableKey`: the `bfrt::BfRtTableKey` it wraps, as the table it was
allocated for and the fields set on it. -/
structure TableKey where
  table : BfRtTable
  fields : Nat → Option KeyFieldValue

/-- A `TableData`: the `bfrt::BfRtTableData` it wraps, as its table, the
action it was allocated or reset for (`0` for none) and its fields. -/
structure TableData where
  table : BfRtTable
  actionId : Nat
  fields : Nat → Option DataFieldValue

/-- `setValue` on a key object: the field holds the new value. -/
def TableKey.setValue (tableKey : TableKey) (id : Nat) (fieldValue : KeyFieldValue) : TableKey :=
  { tableKey with fields := update tableKey.fields id (some fieldValue) }

/-- `setValue` on a data object. -/
def TableData.setValue (tableData : TableData) (id : Nat) (fieldValue : DataFieldValue) :
    TableData :=
  { tableData with fields := update tableData.fields id (some fieldValue) }

/-- `static_cast<uint16>` of a signed integer. -/
def toUint16 (i : Int) : Nat := (i % 2 ^ 16).toNat

/-- `static_cast<uint64>` of a signed integer. -/
def toUint64 (i : Int) : Nat := (i % 2 ^ 64).toNat

/-! ## `TableKey` -/

/-- The shape of `TableKey`'s byte-string setters: ask the SDE for the
field's size, pad every string handed in to its bytes, store the result.
`store` builds the stored field from the padding. -/
def TableKey.setPadded (tableKey : TableKey) (id : Nat)
    (store : (ByteString → ByteString) → KeyFieldValue) : StatusOr TableKey := do
  let fieldSizeBits ← tableKey.table.keyFieldSizeGet id
  let pad := fun bytes => p4RuntimeByteStringToPaddedByteString bytes
    (numBitsToNumBytes fieldSizeBits)
  pure (tableKey.setValue id (store pad))

/-- `TableKey::SetExact`. -/
def TableKey.setExact (tableKey : TableKey) (id : Nat) (value : ByteString) :
    StatusOr TableKey :=
  tableKey.setPadded id fun pad => .exact (pad value)

/-- `TableKey::SetTernary`; both strings are padded to one size, so the
`CHECK_EQ` of their sizes holds. -/
def TableKey.setTernary (tableKey : TableKey) (id : Nat) (value mask : ByteString) :
    StatusOr TableKey :=
  tableKey.setPadded id fun pad => .ternary (pad value) (pad mask)

/-- `TableKey::SetLpm`; the prefix length is a `uint16`. -/
def TableKey.setLpm (tableKey : TableKey) (id : Nat) (value : ByteString) (prefixLength : Nat) :
    StatusOr TableKey :=
  tableKey.setPadded id fun pad => .lpm (pad value) prefixLength

/-- `TableKey::SetRange`. -/
def TableKey.setRange (tableKey : TableKey) (id : Nat) (low high : ByteString) :
    StatusOr TableKey :=
  tableKey.setPadded id fun pad => .range (pad low) (pad high)

/-- `TableKey::SetPriority`: the priority goes to the field the SDE names
`$MATCH_PRIORITY`. -/
def TableKey.setPriority (tableKey : TableKey) (priority : Nat) : StatusOr TableKey := do
  let priorityFieldId ← tableKey.table.keyFieldIdGet kMatchPriority
  pure (tableKey.setValue priorityFieldId (.uint64 priority))

/-- The shape of `TableKey`'s getters: ask the SDE for the field's size and
read the field on that many bytes. `read` takes the zero bytes a field never
set reads as, and the stored field. -/
def TableKey.getPadded {α : Type} (tableKey : TableKey) (id : Nat)
    (read : ByteString → Option KeyFieldValue → α) : StatusOr α := do
  let fieldSizeBits ← tableKey.table.keyFieldSizeGet id
  pure (read (List.replicate (numBitsToNumBytes fieldSizeBits) 0) (tableKey.fields id))

/-- `TableKey::GetExact`. -/
def TableKey.getExact (tableKey : TableKey) (id : Nat) : StatusOr ByteString :=
  tableKey.getPadded id fun zero field =>
    match field with
    | some (.exact value) => byteStringToP4RuntimeByteString value
    | _ => byteStringToP4RuntimeByteString zero

/-- `TableKey::GetTernary`. -/
def TableKey.getTernary (tableKey : TableKey) (id : Nat) :
    StatusOr (ByteString × ByteString) :=
  tableKey.getPadded id fun zero field =>
    match field with
    | some (.ternary value mask) =>
        (byteStringToP4RuntimeByteString value, byteStringToP4RuntimeByteString mask)
    | _ => (byteStringToP4RuntimeByteString zero, byteStringToP4RuntimeByteString zero)

/-- `TableKey::GetLpm`. -/
def TableKey.getLpm (tableKey : TableKey) (id : Nat) : StatusOr (ByteString × Nat) :=
  tableKey.getPadded id fun zero field =>
    match field with
    | some (.lpm value prefixLength) => (byteStringToP4RuntimeByteString value, prefixLength)
    | _ => (byteStringToP4RuntimeByteString zero, 0)

/-- `TableKey::GetRange`. -/
def TableKey.getRange (tableKey : TableKey) (id : Nat) : StatusOr (ByteString × ByteString) :=
  tableKey.getPadded id fun zero field =>
    match field with
    | some (.range low high) =>
        (byteStringToP4RuntimeByteString low, byteStringToP4RuntimeByteString high)
    | _ => (byteStringToP4RuntimeByteString zero, byteStringToP4RuntimeByteString zero)

/-- `TableKey::GetPriority`: the `uint64` at the field the SDE names
`$MATCH_PRIORITY`, a field never set read as zero, kept in a `uint32`. -/
def TableKey.getPriority (tableKey : TableKey) : StatusOr Nat := do
  let priorityFieldId ← tableKey.table.keyFieldIdGet kMatchPriority
  let bfPriority := match tableKey.fields priorityFieldId with
    | some (.uint64 value) => value
    | _ => 0
  pure (bfPriority % 2 ^ 32)

/-! ## `TableData` -/

/-- The action ID `SetParam`, `GetParam` and `SetField` read: the data's
action when the table has actions, else none. -/
def TableData.applicableActionId (tableData : TableData) : Option Nat :=
  if tableData.table.actionIdApplicable then some tableData.actionId else none

/-- The size lookup of `SetParam` and `GetParam`: with the action ID when it
is non-zero. -/
def TableData.paramSizeGet (tableData : TableData) (id : Nat) : StatusOr Nat :=
  match tableData.applicableActionId with
  | some actionId =>
      if actionId ≠ 0 then tableData.table.dataFieldSizeGet id (some actionId)
      else tableData.table.dataFieldSizeGet id none
  | none => tableData.table.dataFieldSizeGet id none

/-- `TableData::SetParam`. -/
def TableData.setParam (tableData : TableData) (id : Nat) (value : ByteString) :
    StatusOr TableData := do
  let fieldSizeBits ← tableData.paramSizeGet id
  let p := p4RuntimeByteStringToPaddedByteString value (numBitsToNumBytes fieldSizeBits)
  pure (tableData.setValue id (.bytes p))

/-- `TableData::GetParam`. -/
def TableData.getParam (tableData : TableData) (id : Nat) : StatusOr ByteString := do
  let fieldSizeBits ← tableData.paramSizeGet id
  let zero := List.replicate (numBitsToNumBytes fieldSizeBits) 0
  let value := match tableData.fields id with
    | some (.bytes value) => value
    | _ => zero
  pure (byteStringToP4RuntimeByteString value)

/-- `SetField` of a `uint64` on a data object: the field the SDE names, if
its type is `UINT64`. -/
def TableData.setField (tableData : TableData) (fieldName : String) (value : Nat) :
    StatusOr TableData := do
  let fieldId ← tableData.table.dataFieldIdGet fieldName tableData.applicableActionId
  let dataType ← tableData.table.dataFieldDataTypeGet fieldId tableData.applicableActionId
  match dataType with
  | .uint64 => pure (tableData.setValue fieldId (.uint64 value))
  | .other code => .error ⟨.errInvalidParam,
      "Setting uint64 but field " ++ fieldName ++ " has type " ++ toString code⟩

/-- `TableData::SetActionMemberId`. -/
def TableData.setActionMemberId (tableData : TableData) (actionMemberId : Nat) :
    StatusOr TableData :=
  tableData.setField kActionMemberId actionMemberId

/-- `TableData::SetSelectorGroupId`. -/
def TableData.setSelectorGroupId (tableData : TableData) (selectorGroupId : Nat) :
    StatusOr TableData :=
  tableData.setField kSelectorGroupId selectorGroupId

/-- One field of the loop of `TableData::SetCounterData`: the byte and packet
counters are set, every other field is left alone. -/
def TableData.setCounterField (bytes packets : Nat) (tableData : TableData) (fieldId : Nat) :
    StatusOr TableData := do
  let fieldName ← tableData.table.dataFieldNameGet fieldId
  if fieldName = kCounterBytes then pure (tableData.setValue fieldId (.uint64 bytes))
  else if fieldName = kCounterPackets then pure (tableData.setValue fieldId (.uint64 packets))
  else pure tableData

/-- `TableData::SetCounterData`. The warning it logs for a table without
action ID changes nothing. -/
def TableData.setCounterData (tableData : TableData) (bytes packets : Nat) :
    StatusOr TableData := do
  let dataFieldIds ← tableData.table.dataFieldIdListGet
  dataFieldIds.foldlM (TableData.setCounterField bytes packets) tableData

/-- `TableData::Reset`: the fields cleared, for the action given (`0` for
none). -/
def TableData.reset (tableData : TableData) (actionId : Nat) : StatusOr TableData := do
  tableData.table.dataReset (if actionId ≠ 0 then some actionId else none)
  pure { tableData with actionId := actionId, fields := fun _ => none }

/-- `TableData::GetActionId`: the data's action, `0` for a table without
action IDs. -/
def TableData.getActionId (tableData : TableData) : Nat :=
  if tableData.table.actionIdApplicable then tableData.actionId else 0

/-- `isActive` of a data field: whether it was set. -/
def TableData.isActive (tableData : TableData) (id : Nat) : Bool :=
  (tableData.fields id).isSome

/-- `getValue` of a data field as a `uint64`: a byte array read big-endian,
a field never set read as zero. -/
def TableData.getUint64 (tableData : TableData) (id : Nat) : Nat :=
  match tableData.fields id with
  | some (.uint64 fieldValue) => fieldValue
  | some (.bytes bytes) => value bytes
  | none => 0

/-- The shape of `GetActionMemberId` and `GetSelectorGroupId`: refused on a
table with action IDs, else the `uint64` field the SDE names, if active.
`kind` names the IDs in the first error. -/
def TableData.getProfileId (tableData : TableData) (fieldName kind : String) : StatusOr Nat :=
  if tableData.table.actionIdApplicable then
    .error ⟨.errEntryNotFound, "This direct table does not contain " ++ kind ++ "."⟩
  else do
    let fieldId ← tableData.table.dataFieldIdGet fieldName none
    let dataType ← tableData.table.dataFieldDataTypeGet fieldId none
    match dataType with
    | .uint64 =>
        if tableData.isActive fieldId then pure (tableData.getUint64 fieldId)
        else .error ⟨.errEntryNotFound, "Field " ++ fieldName ++ " is not active."⟩
    | .other code => .error ⟨.errInvalidParam,
        "Requested uint64 but field " ++ fieldName ++ " has type " ++ toString code⟩

/-- `TableData::GetActionMemberId`. -/
def TableData.getActionMemberId (tableData : TableData) : StatusOr Nat :=
  tableData.getProfileId kActionMemberId "action member IDs"

/-- `TableData::GetSelectorGroupId`. -/
def TableData.getSelectorGroupId (tableData : TableData) : StatusOr Nat :=
  tableData.getProfileId kSelectorGroupId "action group IDs"

/-- One field of the loop of `TableData::GetCounterData`: the byte and packet
counters are read, every other field is skipped. -/
def TableData.getCounterField (tableData : TableData) (counters : Nat × Nat) (fieldId : Nat) :
    StatusOr (Nat × Nat) := do
  let fieldName ← tableData.table.dataFieldNameGet fieldId
  if fieldName = kCounterBytes then pure (tableData.getUint64 fieldId, counters.2)
  else if fieldName = kCounterPackets then pure (counters.1, tableData.getUint64 fieldId)
  else pure counters

/-- `TableData::GetCounterData`: both counters cleared, then read from the
fields the SDE names as counters. -/
def TableData.getCounterData (tableData : TableData) : StatusOr (Nat × Nat) := do
  let dataFieldIds ← tableData.table.dataFieldIdListGet
  dataFieldIds.foldlM tableData.getCounterField (0, 0)

/-! ## Key fields: what a setter stores, what a getter reads -/

@[simp] theorem TableKey.table_setValue (tableKey : TableKey) (id : Nat)
    (fieldValue : KeyFieldValue) : (tableKey.setValue id fieldValue).table = tableKey.table :=
  rfl

@[simp] theorem TableKey.fields_setValue_self (tableKey : TableKey) (id : Nat)
    (fieldValue : KeyFieldValue) :
    (tableKey.setValue id fieldValue).fields id = some fieldValue := by
  simp [TableKey.setValue]

theorem TableKey.fields_setValue_of_ne (tableKey : TableKey) {id id' : Nat} (hne : id' ≠ id)
    (fieldValue : KeyFieldValue) :
    (tableKey.setValue id fieldValue).fields id' = tableKey.fields id' := by
  simp [TableKey.setValue, hne]

/-- A byte-string setter that succeeds stores every string written on the
field's bytes: its value modulo `256 ^ n`. -/
theorem TableKey.setPadded_eq_ok {tableKey tableKey' : TableKey} {id : Nat}
    {store : (ByteString → ByteString) → KeyFieldValue} :
    tableKey.setPadded id store = .ok tableKey' ↔
      ∃ fieldSizeBits, tableKey.table.keyFieldSizeGet id = .ok fieldSizeBits ∧
        tableKey' = tableKey.setValue id
          (store fun bytes => natBytes (numBitsToNumBytes fieldSizeBits) (value bytes)) := by
  unfold TableKey.setPadded
  cases hsize : tableKey.table.keyFieldSizeGet id with
  | error e => simp [bind, Except.bind]
  | ok fieldSizeBits =>
      simp only [bind, Except.bind, pure, Except.pure, Except.ok.injEq,
        p4RuntimeByteStringToPaddedByteString_eq, exists_eq_left']
      exact eq_comm

/-- A getter reads the stored field on the size the SDE gives. -/
theorem TableKey.getPadded_of_size {α : Type} {tableKey : TableKey} {id fieldSizeBits : Nat}
    (hsize : tableKey.table.keyFieldSizeGet id = .ok fieldSizeBits)
    (read : ByteString → Option KeyFieldValue → α) :
    tableKey.getPadded id read =
      .ok (read (List.replicate (numBitsToNumBytes fieldSizeBits) 0) (tableKey.fields id)) := by
  simp [TableKey.getPadded, hsize, bind, Except.bind, pure, Except.pure]

theorem TableKey.getExact_setExact {tableKey tableKey' : TableKey} {id : Nat}
    {bytes : ByteString} (h : tableKey.setExact id bytes = .ok tableKey') :
    ∃ fieldSizeBits, tableKey.table.keyFieldSizeGet id = .ok fieldSizeBits ∧
      tableKey'.getExact id = .ok (byteStringToP4RuntimeByteString
        (natBytes (numBitsToNumBytes fieldSizeBits) (value bytes))) := by
  obtain ⟨fieldSizeBits, hsize, rfl⟩ := TableKey.setPadded_eq_ok.mp h
  refine ⟨fieldSizeBits, hsize, ?_⟩
  rw [TableKey.getExact, TableKey.getPadded_of_size (by exact hsize)]
  simp

theorem TableKey.getTernary_setTernary {tableKey tableKey' : TableKey} {id : Nat}
    {bytes mask : ByteString} (h : tableKey.setTernary id bytes mask = .ok tableKey') :
    ∃ fieldSizeBits, tableKey.table.keyFieldSizeGet id = .ok fieldSizeBits ∧
      tableKey'.getTernary id = .ok
        (byteStringToP4RuntimeByteString
            (natBytes (numBitsToNumBytes fieldSizeBits) (value bytes)),
          byteStringToP4RuntimeByteString
            (natBytes (numBitsToNumBytes fieldSizeBits) (value mask))) := by
  obtain ⟨fieldSizeBits, hsize, rfl⟩ := TableKey.setPadded_eq_ok.mp h
  refine ⟨fieldSizeBits, hsize, ?_⟩
  rw [TableKey.getTernary, TableKey.getPadded_of_size (by exact hsize)]
  simp

theorem TableKey.getLpm_setLpm {tableKey tableKey' : TableKey} {id : Nat}
    {bytes : ByteString} {prefixLength : Nat}
    (h : tableKey.setLpm id bytes prefixLength = .ok tableKey') :
    ∃ fieldSizeBits, tableKey.table.keyFieldSizeGet id = .ok fieldSizeBits ∧
      tableKey'.getLpm id = .ok (byteStringToP4RuntimeByteString
        (natBytes (numBitsToNumBytes fieldSizeBits) (value bytes)), prefixLength) := by
  obtain ⟨fieldSizeBits, hsize, rfl⟩ := TableKey.setPadded_eq_ok.mp h
  refine ⟨fieldSizeBits, hsize, ?_⟩
  rw [TableKey.getLpm, TableKey.getPadded_of_size (by exact hsize)]
  simp

theorem TableKey.getRange_setRange {tableKey tableKey' : TableKey} {id : Nat}
    {low high : ByteString} (h : tableKey.setRange id low high = .ok tableKey') :
    ∃ fieldSizeBits, tableKey.table.keyFieldSizeGet id = .ok fieldSizeBits ∧
      tableKey'.getRange id = .ok
        (byteStringToP4RuntimeByteString
            (natBytes (numBitsToNumBytes fieldSizeBits) (value low)),
          byteStringToP4RuntimeByteString
            (natBytes (numBitsToNumBytes fieldSizeBits) (value high))) := by
  obtain ⟨fieldSizeBits, hsize, rfl⟩ := TableKey.setPadded_eq_ok.mp h
  refine ⟨fieldSizeBits, hsize, ?_⟩
  rw [TableKey.getRange, TableKey.getPadded_of_size (by exact hsize)]
  simp

/-- Setting the priority writes the priority field only. -/
theorem TableKey.setPriority_eq_ok {tableKey tableKey' : TableKey} {priority : Nat} :
    tableKey.setPriority priority = .ok tableKey' ↔
      ∃ priorityFieldId, tableKey.table.keyFieldIdGet kMatchPriority = .ok priorityFieldId ∧
        tableKey' = tableKey.setValue priorityFieldId (.uint64 priority) := by
  unfold TableKey.setPriority
  cases hid : tableKey.table.keyFieldIdGet kMatchPriority with
  | error e => simp [bind, Except.bind]
  | ok priorityFieldId =>
      simp only [bind, Except.bind, pure, Except.pure, Except.ok.injEq, exists_eq_left']
      exact eq_comm

/-! ## Data fields -/

@[simp] theorem TableData.table_setValue (tableData : TableData) (id : Nat)
    (fieldValue : DataFieldValue) : (tableData.setValue id fieldValue).table = tableData.table :=
  rfl

@[simp] theorem TableData.actionId_setValue (tableData : TableData) (id : Nat)
    (fieldValue : DataFieldValue) :
    (tableData.setValue id fieldValue).actionId = tableData.actionId :=
  rfl

@[simp] theorem TableData.fields_setValue_self (tableData : TableData) (id : Nat)
    (fieldValue : DataFieldValue) :
    (tableData.setValue id fieldValue).fields id = some fieldValue := by
  simp [TableData.setValue]

theorem TableData.fields_setValue_of_ne (tableData : TableData) {id id' : Nat} (hne : id' ≠ id)
    (fieldValue : DataFieldValue) :
    (tableData.setValue id fieldValue).fields id' = tableData.fields id' := by
  simp [TableData.setValue, hne]

/-- Setting a field keeps the size lookup of every parameter. -/
@[simp] theorem TableData.paramSizeGet_setValue (tableData : TableData) (id : Nat)
    (fieldValue : DataFieldValue) :
    (tableData.setValue id fieldValue).paramSizeGet = tableData.paramSizeGet :=
  rfl

/-- `SetParam` that succeeds stores the value on the parameter's bytes. -/
theorem TableData.setParam_eq_ok {tableData tableData' : TableData} {id : Nat}
    {bytes : ByteString} :
    tableData.setParam id bytes = .ok tableData' ↔
      ∃ fieldSizeBits, tableData.paramSizeGet id = .ok fieldSizeBits ∧
        tableData' = tableData.setValue id
          (.bytes (natBytes (numBitsToNumBytes fieldSizeBits) (value bytes))) := by
  unfold TableData.setParam
  cases hsize : tableData.paramSizeGet id with
  | error e => simp [bind, Except.bind]
  | ok fieldSizeBits =>
      simp only [bind, Except.bind, pure, Except.pure, Except.ok.injEq,
        p4RuntimeByteStringToPaddedByteString_eq, exists_eq_left']
      exact eq_comm

/-- `GetParam` reads a stored parameter back in canonical form. -/
theorem TableData.getParam_of_fields {tableData : TableData} {id fieldSizeBits : Nat}
    {bytes : ByteString} (hsize : tableData.paramSizeGet id = .ok fieldSizeBits)
    (hfield : tableData.fields id = some (.bytes bytes)) :
    tableData.getParam id = .ok (byteStringToP4RuntimeByteString bytes) := by
  simp [TableData.getParam, hsize, hfield, bind, Except.bind, pure, Except.pure]

/-- `SetCounterData` writes only the fields the SDE names as counters, and
keeps the table and the action. -/
theorem TableData.setCounterData_frame {tableData tableData' : TableData} {bytes packets : Nat}
    (h : tableData.setCounterData bytes packets = .ok tableData') (fieldId : Nat)
    (hname : ∀ name, tableData.table.dataFieldNameGet fieldId = .ok name →
      name ≠ kCounterBytes ∧ name ≠ kCounterPackets) :
    tableData'.table = tableData.table ∧ tableData'.actionId = tableData.actionId ∧
      tableData'.fields fieldId = tableData.fields fieldId := by
  unfold TableData.setCounterData at h
  rw [bind_eq_ok] at h
  obtain ⟨dataFieldIds, -, hloop⟩ := h
  -- each step writes a counter field, which is not `fieldId`
  refine foldlM_invariant (fun d : TableData => d.table = tableData.table ∧
      d.actionId = tableData.actionId ∧ d.fields fieldId = tableData.fields fieldId) ?_
    dataFieldIds tableData tableData' ⟨rfl, rfl, rfl⟩ hloop
  rintro d currentId d' ⟨htable, haction, hfield⟩ hstep
  unfold TableData.setCounterField at hstep
  rw [bind_eq_ok] at hstep
  obtain ⟨name, hnameOf, hstep⟩ := hstep
  have hwrite : ∀ counter, d' = d.setValue currentId counter → currentId ≠ fieldId →
      d'.table = tableData.table ∧ d'.actionId = tableData.actionId ∧
        d'.fields fieldId = tableData.fields fieldId := by
    rintro counter rfl hne
    exact ⟨htable, haction, by rw [TableData.fields_setValue_of_ne _ (Ne.symm hne), hfield]⟩
  have hcounter : name = kCounterBytes ∨ name = kCounterPackets → currentId ≠ fieldId := by
    rintro hcases rfl
    rw [htable] at hnameOf
    obtain ⟨hbytes, hpackets⟩ := hname name hnameOf
    rcases hcases with hc | hc
    · exact hbytes hc
    · exact hpackets hc
  split_ifs at hstep with hbytes hpackets
  · cases hstep
    exact hwrite _ rfl (hcounter (Or.inl hbytes))
  · cases hstep
    exact hwrite _ rfl (hcounter (Or.inr hpackets))
  · cases hstep
    exact ⟨htable, haction, hfield⟩

/-- `SetCounterData` keeps the table and the action. -/
theorem TableData.setCounterData_keeps {tableData tableData' : TableData} {bytes packets : Nat}
    (h : tableData.setCounterData bytes packets = .ok tableData') :
    tableData'.table = tableData.table ∧ tableData'.actionId = tableData.actionId := by
  unfold TableData.setCounterData at h
  rw [bind_eq_ok] at h
  obtain ⟨dataFieldIds, -, hloop⟩ := h
  refine foldlM_invariant
    (fun d : TableData => d.table = tableData.table ∧ d.actionId = tableData.actionId) ?_
    dataFieldIds tableData tableData' ⟨rfl, rfl⟩ hloop
  intro d fieldId d' hkeeps hstep
  unfold TableData.setCounterField at hstep
  rw [bind_eq_ok] at hstep
  obtain ⟨name, -, hstep⟩ := hstep
  split_ifs at hstep <;> cases hstep <;> exact hkeeps

/-- `SetCounterData` keeps the table. -/
theorem TableData.setCounterData_table {tableData tableData' : TableData} {bytes packets : Nat}
    (h : tableData.setCounterData bytes packets = .ok tableData') :
    tableData'.table = tableData.table :=
  (TableData.setCounterData_keeps h).1

/-- `SetField` that succeeds writes the one field the SDE names. -/
theorem TableData.setField_eq_ok {tableData tableData' : TableData} {fieldName : String}
    {fieldValue : Nat} (h : tableData.setField fieldName fieldValue = .ok tableData') :
    ∃ fieldId, tableData' = tableData.setValue fieldId (.uint64 fieldValue) := by
  unfold TableData.setField at h
  rw [bind_eq_ok] at h
  obtain ⟨fieldId, -, h⟩ := h
  rw [bind_eq_ok] at h
  obtain ⟨dataType, -, h⟩ := h
  cases dataType with
  | uint64 => cases h; exact ⟨fieldId, rfl⟩
  | other code => cases h

/-- `SetField` that succeeds writes the field the SDE names, of type
`UINT64`. -/
theorem TableData.setField_spec {tableData tableData' : TableData} {fieldName : String}
    {fieldValue : Nat} (h : tableData.setField fieldName fieldValue = .ok tableData') :
    ∃ fieldId, tableData.table.dataFieldIdGet fieldName tableData.applicableActionId = .ok fieldId ∧
      tableData.table.dataFieldDataTypeGet fieldId tableData.applicableActionId = .ok .uint64 ∧
      tableData' = tableData.setValue fieldId (.uint64 fieldValue) := by
  unfold TableData.setField at h
  rw [bind_eq_ok] at h
  obtain ⟨fieldId, hid, h⟩ := h
  rw [bind_eq_ok] at h
  obtain ⟨dataType, htype, h⟩ := h
  cases dataType with
  | uint64 => cases h; exact ⟨fieldId, hid, htype, rfl⟩
  | other code => cases h

/-- On a table without action IDs, the profile getter reads the `uint64` set
at the field the SDE names. -/
theorem TableData.getProfileId_of_fields {tableData : TableData} {fieldName kind : String}
    {fieldId fieldValue : Nat} (hindirect : tableData.table.actionIdApplicable = false)
    (hid : tableData.table.dataFieldIdGet fieldName none = .ok fieldId)
    (htype : tableData.table.dataFieldDataTypeGet fieldId none = .ok .uint64)
    (hfield : tableData.fields fieldId = some (.uint64 fieldValue)) :
    tableData.getProfileId fieldName kind = .ok fieldValue := by
  simp [TableData.getProfileId, hindirect, hid, htype, TableData.isActive, TableData.getUint64,
    hfield, bind, Except.bind, pure, Except.pure]

/-- The profile getter fails when the field the SDE names was never set. -/
theorem TableData.getProfileId_error_of_fields {tableData : TableData} {fieldName kind : String}
    (hunset : ∀ fieldId, tableData.table.dataFieldIdGet fieldName none = .ok fieldId →
      tableData.fields fieldId = none) :
    ∃ error, tableData.getProfileId fieldName kind = .error error := by
  unfold TableData.getProfileId
  split_ifs with hdirect
  · exact ⟨_, rfl⟩
  -- each lookup of the SDE may fail; past them the field is inactive
  cases hid : tableData.table.dataFieldIdGet fieldName none with
  | error error => exact ⟨error, rfl⟩
  | ok fieldId =>
      cases htype : tableData.table.dataFieldDataTypeGet fieldId none with
      | error error => exact ⟨error, by simp [htype, bind, Except.bind]⟩
      | ok dataType =>
          have hinactive : tableData.isActive fieldId = false := by
            simp [TableData.isActive, hunset fieldId hid]
          cases dataType with
          | uint64 =>
              exact ⟨⟨.errEntryNotFound, "Field " ++ fieldName ++ " is not active."⟩,
                by simp [htype, hinactive, bind, Except.bind]⟩
          | other code =>
              exact ⟨⟨.errInvalidParam,
                "Requested uint64 but field " ++ fieldName ++ " has type " ++ toString code⟩,
                by simp [htype, bind, Except.bind]⟩

/-- The size lookup of a parameter depends on the table and the action
only. -/
theorem TableData.paramSizeGet_congr {tableData tableData' : TableData}
    (htable : tableData'.table = tableData.table)
    (haction : tableData'.actionId = tableData.actionId) :
    tableData'.paramSizeGet = tableData.paramSizeGet := by
  funext id
  simp only [TableData.paramSizeGet, TableData.applicableActionId, htable, haction]

/-- `Reset` clears every field and sets the action. -/
theorem TableData.reset_eq_ok {tableData tableData' : TableData} {actionId : Nat}
    (h : tableData.reset actionId = .ok tableData') :
    tableData' = { tableData with actionId := actionId, fields := fun _ => none } := by
  unfold TableData.reset at h
  rw [bind_eq_ok] at h
  obtain ⟨-, -, h⟩ := h
  cases h
  rfl

/-! ## The SDE interface -/

/-- A table write `BfrtTableManager` hands the SDE. -/
inductive TableWrite
  | insertTableEntry (tableId : Nat) (tableKey : TableKey) (tableData : TableData)
  | modifyTableEntry (tableId : Nat) (tableKey : TableKey) (tableData : TableData)
  | deleteTableEntry (tableId : Nat) (tableKey : TableKey)
  | setDefaultTableEntry (tableId : Nat) (tableData : TableData)
  | resetDefaultTableEntry (tableId : Nat)

/-- The key a table write hands the SDE. -/
def TableWrite.tableKey? : TableWrite → Option TableKey
  | .insertTableEntry _ tableKey _ => some tableKey
  | .modifyTableEntry _ tableKey _ => some tableKey
  | .deleteTableEntry _ tableKey => some tableKey
  | _ => none

/-- The data a table write hands the SDE. -/
def TableWrite.tableData? : TableWrite → Option TableData
  | .insertTableEntry _ _ tableData => some tableData
  | .modifyTableEntry _ _ tableData => some tableData
  | .setDefaultTableEntry _ tableData => some tableData
  | _ => none

/-- The calls of `BfSdeInterface` that `WriteTableEntry` makes: the BfRt ID
of a P4 object, the SDE's table of a BfRt ID, and the SDE's answer to a table
write. -/
structure BfSdeInterface where
  getBfRtId : Nat → StatusOr Nat
  bfrtTableFromIdGet : Nat → StatusOr BfRtTable
  writeTable : TableWrite → StatusOr Unit

/-- `CreateTableKey`: a key with no field set. -/
def BfSdeInterface.createTableKey (sde : BfSdeInterface) (tableId : Nat) : StatusOr TableKey := do
  let table ← sde.bfrtTableFromIdGet tableId
  table.keyAllocate
  pure ⟨table, fun _ => none⟩

/-- `CreateTableData`: data with no field set, for the action given (`0` for
none). -/
def BfSdeInterface.createTableData (sde : BfSdeInterface) (tableId actionId : Nat) :
    StatusOr TableData := do
  let table ← sde.bfrtTableFromIdGet tableId
  table.dataAllocate (if actionId ≠ 0 then some actionId else none)
  pure ⟨table, actionId, fun _ => none⟩

/-- A new key is for the SDE's table of the ID, with no field set. -/
theorem BfSdeInterface.createTableKey_eq_ok {sde : BfSdeInterface} {tableId : Nat}
    {tableKey : TableKey} (h : sde.createTableKey tableId = .ok tableKey) :
    sde.bfrtTableFromIdGet tableId = .ok tableKey.table ∧ tableKey.fields = fun _ => none := by
  unfold BfSdeInterface.createTableKey at h
  rw [bind_eq_ok] at h
  obtain ⟨table, htable, h⟩ := h
  rw [bind_eq_ok] at h
  obtain ⟨_, -, h⟩ := h
  cases h
  exact ⟨htable, rfl⟩

/-- A new key has no field set. -/
theorem BfSdeInterface.createTableKey_fields {sde : BfSdeInterface} {tableId : Nat}
    {tableKey : TableKey} (h : sde.createTableKey tableId = .ok tableKey) :
    tableKey.fields = fun _ => none :=
  (BfSdeInterface.createTableKey_eq_ok h).2

/-- New data is for the SDE's table of the ID, with no field set. -/
theorem BfSdeInterface.createTableData_eq_ok {sde : BfSdeInterface} {tableId actionId : Nat}
    {tableData : TableData} (h : sde.createTableData tableId actionId = .ok tableData) :
    sde.bfrtTableFromIdGet tableId = .ok tableData.table ∧ tableData.fields = fun _ => none := by
  unfold BfSdeInterface.createTableData at h
  rw [bind_eq_ok] at h
  obtain ⟨table, htable, h⟩ := h
  rw [bind_eq_ok] at h
  obtain ⟨_, -, h⟩ := h
  cases h
  exact ⟨htable, rfl⟩

end Stratum.Ports.BfSdeWrapper
