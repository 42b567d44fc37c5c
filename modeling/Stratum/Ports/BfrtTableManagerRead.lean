import Stratum.Ports.BfrtTableManager
import Stratum.Verified.OrderedContainers

/-!
# The read path of `BfrtTableManager`

`BuildP4TableEntry` of `stratum/hal/lib/barefoot/bfrt_table_manager.cc` turns
an SDE key and data back into a P4Runtime table entry: for each match field
of the table's P4Info it calls the getter of the field's type and keeps the
match unless it is a don't-care one, reads the priority of a table with a
ternary or range field, and reads the direct action with the parameters its
P4Info action lists, the action profile member or group, and the counters.

Read on the key and data the write path builds (`BuildTableKey`,
`BuildTableData`), an entry comes back as it was written, up to the order of
its matches and parameters, when its strings are in canonical form and fit
their fields. An exact field the entry omits does not: the write leaves it
zero, which for an exact match is no don't-care value, so the read reports a
zero exact match in its place.

Main results:

* `buildP4MatchFields_of_buildTableKey` — the matches read back are, in the
  order of the P4Info, the entry's match for each field, a zero exact match
  for each exact field the entry omits, and nothing for any other field it
  omits;
* `buildP4Priority_of_buildTableKey`, `buildP4Action_of_buildTableData` — the
  priority read back is the entry's, and so is its action, a direct action's
  parameters in the order of the P4Info;
* `table_entry_roundtrip` — an entry with a match for every exact field
  comes back with the same table, matches, priority and action;
* `read_reports_omitted_exact` — an entry without a match for an exact field
  comes back with a zero exact match for it.
-/

namespace Stratum.Ports.BfrtTableManager

open Stratum.Verified.BigEndian Stratum.Verified.Run Stratum.Verified.OrderedContainers
open Stratum.Ports.Status Stratum.Ports.P4Runtime Stratum.Ports.P4Utils
open Stratum.Ports.BarefootUtils Stratum.Ports.BfSdeWrapper
open Stratum.Ports.BfrtP4RuntimeTranslator

/-! ## `BuildP4TableEntry` -/

/-- `P4InfoManager::FindActionByID`. -/
def findActionById (p4info : P4Info) (actionId : Nat) : StatusOr P4Info.Action :=
  match p4info.actions.find? (·.id == actionId) with
  | some action => .ok action
  | none => .error ⟨.errInvalidP4Info,
      "P4Info Action ID " ++ printP4ObjectId actionId ++ " is not found"⟩

/-- The `switch` of `BuildP4TableEntry` on the type of a match field of the
table's P4Info: the match the key holds there, unless it is a don't-care
match. -/
def buildP4FieldMatch (tableKey : TableKey) (expectedMatchField : P4Info.MatchField) :
    StatusOr (Option FieldMatch) :=
  let keep := fun (fieldMatchType : FieldMatchType) (dontCare : Bool) =>
    if dontCare then none else some (FieldMatch.mk expectedMatchField.id fieldMatchType)
  match expectedMatchField.matchType with
  | .exact => do
      let value ← tableKey.getExact expectedMatchField.id
      pure (keep (.exact value) (isDontCareMatchExact value))
  | .ternary => do
      let (value, mask) ← tableKey.getTernary expectedMatchField.id
      pure (keep (.ternary value mask) (isDontCareMatchTernary mask))
  | .lpm => do
      let (value, prefixLength) ← tableKey.getLpm expectedMatchField.id
      pure (keep (.lpm value prefixLength) (isDontCareMatchLpm prefixLength))
  | .range => do
      let (low, high) ← tableKey.getRange expectedMatchField.id
      pure (keep (.range low high) (isDontCareMatchRange low high expectedMatchField.bitwidth))
  | matchType => .error ⟨.errInvalidParam, "Invalid field match type " ++ matchType.name ++ "."⟩

/-- One iteration of the loop of `BuildP4TableEntry` over the match fields of
the table's P4Info. The flag is `has_priority_field`. -/
def buildP4MatchField (tableKey : TableKey) (acc : List FieldMatch × Bool)
    (expectedMatchField : P4Info.MatchField) : StatusOr (List FieldMatch × Bool) := do
  let fieldMatch ← buildP4FieldMatch tableKey expectedMatchField
  pure (acc.1 ++ fieldMatch.toList,
    acc.2 || expectedMatchField.matchType == .ternary || expectedMatchField.matchType == .range)

/-- The priority of `BuildP4TableEntry`: read and turned around when the
table has a priority field, else zero. -/
def buildP4Priority (tableKey : TableKey) (hasPriorityField : Bool) : StatusOr Int :=
  if hasPriorityField then do
    let bfPriority ← tableKey.getPriority
    convertPriorityFromBfrtToP4rt bfPriority
  else pure 0

/-- The direct action of `BuildP4TableEntry`: for a non-zero action ID, the
P4Info's action with every parameter it lists, in its order. -/
def buildP4Action (p4info : P4Info) (tableData : TableData) : StatusOr (Option TableAction) :=
  let actionId := tableData.getActionId
  if actionId ≠ 0 then do
    let action ← findActionById p4info actionId
    let params ← action.params.mapM fun expectedParam => do
      let value ← tableData.getParam expectedParam.id
      pure (Param.mk expectedParam.id value)
    pure (some (.action ⟨actionId, params⟩))
  else pure none

/-- The action profile member and group of `BuildP4TableEntry`, each taking
the place of the action before it when its getter succeeds. -/
def buildP4ProfileAction (tableData : TableData) (action : Option TableAction) :
    Option TableAction :=
  let action := match tableData.getActionMemberId with
    | .ok memberId => some (.actionProfileMemberId memberId)
    | .error _ => action
  match tableData.getSelectorGroupId with
  | .ok groupId => some (.actionProfileGroupId groupId)
  | .error _ => action

/-- The counter data of `BuildP4TableEntry`: read when the request has some
and the getter succeeds. -/
def buildP4CounterData (request : TableEntry) (tableData : TableData) : Option CounterData :=
  if request.counterData.isSome then
    match tableData.getCounterData with
    | .ok (bytes, packets) => some ⟨bytes, packets⟩
    | .error _ => none
  else none

/-- `BuildP4TableEntry`. -/
def buildP4TableEntry (p4info : P4Info) (request : TableEntry) (tableKey : TableKey)
    (tableData : TableData) : StatusOr TableEntry := do
  let table ← findTableById p4info request.tableId
  let (fieldMatches, hasPriorityField) ←
    table.matchFields.foldlM (buildP4MatchField tableKey) ([], false)
  -- a default action has no priority, even in a table that needs one
  let priority ← buildP4Priority tableKey (hasPriorityField && !request.isDefaultAction)
  let action ← buildP4Action p4info tableData
  pure ⟨request.tableId, fieldMatches, buildP4ProfileAction tableData action, priority, 0, none,
    buildP4CounterData request tableData, false, 0, none, []⟩

/-! ## The don't-care values the write leaves -/

theorem length_allOnesByteString (bitwidth : Nat) :
    (allOnesByteString bitwidth).length = numBitsToNumBytes bitwidth := by
  unfold allOnesByteString
  dsimp only
  -- masking the first byte keeps the length of the string of `0xff`s
  cases h : List.replicate (numBitsToNumBytes bitwidth) (0xff : UInt8) with
  | nil => simpa using (congrArg List.length h).symm
  | cons first rest => simpa using (congrArg List.length h).symm

/-- The all-ones string has no leading zero byte: the mask keeps at least the
lowest bit of the first byte. -/
theorem canonical_allOnesByteString (bitwidth : Nat) : Canonical (allOnesByteString bitwidth) := by
  unfold allOnesByteString
  dsimp only
  have hzero : numBitsToNumBytes bitwidth * 8 - bitwidth < 8 := by
    unfold numBitsToNumBytes
    omega
  have hmask : ∀ zeroNbits, zeroNbits < 8 → (0xff : UInt8) &&& UInt8.ofNat (0xff >>> zeroNbits) ≠ 0 := by
    decide
  cases h : List.replicate (numBitsToNumBytes bitwidth) (0xff : UInt8) with
  | nil => trivial
  | cons first rest =>
      have hfirst : first = 0xff := List.eq_of_mem_replicate (h ▸ List.mem_cons_self)
      cases rest with
      | nil => trivial
      | cons _ _ =>
          rw [hfirst]
          exact hmask _ hzero

/-- The range `BuildTableKey` writes for a range field the entry omits reads
back as the field's don't-care range: the low bound compared without its
leading zero bytes, the high bound byte for byte. -/
theorem isDontCareMatchRange_default (bitwidth : Nat) :
    isDontCareMatchRange
      (byteStringToP4RuntimeByteString
        (natBytes (numBitsToNumBytes bitwidth) (value (rangeDefaultLow bitwidth))))
      (byteStringToP4RuntimeByteString
        (natBytes (numBitsToNumBytes bitwidth) (value (rangeDefaultHigh bitwidth))))
      bitwidth = true := by
  have hlow : natBytes (numBitsToNumBytes bitwidth) (value (rangeDefaultLow bitwidth)) =
      rangeDefaultLow bitwidth := by
    conv_lhs => rw [← List.length_replicate (n := numBitsToNumBytes bitwidth) (a := (0 : UInt8))]
    exact natBytes_value _
  have hhigh : natBytes (numBitsToNumBytes bitwidth) (value (rangeDefaultHigh bitwidth)) =
      rangeDefaultHigh bitwidth := by
    conv_lhs => rw [← length_allOnesByteString bitwidth]
    exact natBytes_value _
  -- `StripLeadingZeroBytes` is the canonical form, which is idempotent
  have hstrip : BarefootUtils.stripLeadingZeroBytes = byteStringToP4RuntimeByteString := rfl
  rw [hlow, hhigh, isDontCareMatchRange, hstrip,
    byteStringToP4RuntimeByteString_of_canonical (canonical_byteStringToP4RuntimeByteString _),
    rangeDefaultHigh, byteStringToP4RuntimeByteString_of_canonical (canonical_allOnesByteString _)]
  simp

/-- The zero mask a ternary field the entry omits reads back as is a
don't-care mask. -/
theorem isDontCareMatchTernary_zero (numBytes : Nat) :
    isDontCareMatchTernary (byteStringToP4RuntimeByteString (List.replicate numBytes 0)) = true := by
  unfold isDontCareMatchTernary byteStringToP4RuntimeByteString
  rw [List.all_eq_true]
  intro b hb
  rw [List.eq_of_mem_replicate (List.mem_of_mem_drop hb)]
  rfl

/-! ## Matches that read back -/

/-- A P4Runtime string a field of `numBytes` bytes holds as it is: non-empty,
in canonical form, and no longer than the field. -/
def FitsBytes (numBytes : Nat) (bytes : ByteString) : Prop :=
  bytes ≠ [] ∧ Canonical bytes ∧ bytes.length ≤ numBytes

instance (numBytes : Nat) (bytes : ByteString) : Decidable (FitsBytes numBytes bytes) :=
  inferInstanceAs (Decidable (_ ∧ _ ∧ _))

/-- A string that fits its field reads back as itself. -/
theorem FitsBytes.readsBack {numBytes : Nat} {bytes : ByteString} (h : FitsBytes numBytes bytes) :
    byteStringToP4RuntimeByteString (natBytes numBytes (value bytes)) = bytes := by
  obtain ⟨hne, hcanonical, hlength⟩ := h
  rw [byteStringToP4RuntimeByteString_natBytes hne hlength,
    byteStringToP4RuntimeByteString_of_canonical hcanonical]

/-- The strings of a match fit a field of `numBytes` bytes, and an LPM prefix
length is a `uint16`. -/
def MatchFits (numBytes : Nat) : FieldMatchType → Prop
  | .exact value => FitsBytes numBytes value
  | .ternary value mask => FitsBytes numBytes value ∧ FitsBytes numBytes mask
  | .lpm value prefixLen => FitsBytes numBytes value ∧ 0 ≤ prefixLen ∧ prefixLen < 2 ^ 16
  | .range low high => FitsBytes numBytes low ∧ FitsBytes numBytes high
  | _ => True

instance (numBytes : Nat) : DecidablePred (MatchFits numBytes)
  | .exact _ => inferInstanceAs (Decidable (FitsBytes _ _))
  | .ternary _ _ => inferInstanceAs (Decidable (_ ∧ _))
  | .lpm _ _ => inferInstanceAs (Decidable (_ ∧ _ ∧ _))
  | .range _ _ => inferInstanceAs (Decidable (_ ∧ _))
  | .optional _ | .other | .notSet => isTrue trivial

/-- The checks `BuildTableKey` makes of an entry's match for a field: of the
field's type, and no don't-care match. -/
def MatchAccepted (expectedMatchField : P4Info.MatchField) : FieldMatchType → Prop
  | .exact value => expectedMatchField.matchType = .exact ∧ isDontCareMatchExact value = false
  | .ternary _ mask =>
      expectedMatchField.matchType = .ternary ∧ isDontCareMatchTernary mask = false
  | .lpm _ prefixLen => expectedMatchField.matchType = .lpm ∧ isDontCareMatchLpm prefixLen = false
  | .range low high => expectedMatchField.matchType = .range ∧
      isDontCareMatchRange low high expectedMatchField.bitwidth = false
  | _ => False

theorem buildFieldMatch_accepted {expectedMatchField : P4Info.MatchField} {mk : FieldMatch}
    {tableKey tableKey' : TableKey}
    (h : buildFieldMatch expectedMatchField mk tableKey = .ok tableKey') :
    MatchAccepted expectedMatchField mk.fieldMatchType := by
  unfold buildFieldMatch at h
  cases hkind : mk.fieldMatchType with
  | exact bytes | ternary bytes mask | lpm bytes prefixLen | range low high =>
      rw [hkind] at h
      obtain ⟨htype, h⟩ := retCheck_bind_eq_ok.mp h
      obtain ⟨hcare, -⟩ := retCheck_bind_eq_ok.mp h
      exact ⟨beq_iff_eq.mp htype, by simpa using hcare⟩
  | optional bytes =>
      rw [hkind] at h
      cases (retCheck_bind_eq_ok.mp h).2
  | other => rw [hkind] at h; cases h
  | notSet => rw [hkind] at h; cases h

/-- `static_cast<uint16>` keeps a prefix length that is a `uint16`. -/
theorem toUint16_of_lt {prefixLen : Int} (hnonneg : 0 ≤ prefixLen) (hlt : prefixLen < 2 ^ 16) :
    (toUint16 prefixLen : Int) = prefixLen := by
  unfold toUint16
  rw [Int.emod_eq_of_lt hnonneg hlt, Int.toNat_of_nonneg hnonneg]

/-- A match the write accepted reads back as itself from a key that holds
it, when its strings fit the field. -/
theorem buildP4FieldMatch_of_readsBack {tableKey : TableKey}
    {expectedMatchField : P4Info.MatchField} {fieldMatchType : FieldMatchType}
    (haccepted : MatchAccepted expectedMatchField fieldMatchType)
    (hreads : ReadsBack tableKey expectedMatchField.id
      (numBitsToNumBytes expectedMatchField.bitwidth) fieldMatchType)
    (hfits : MatchFits (numBitsToNumBytes expectedMatchField.bitwidth) fieldMatchType) :
    buildP4FieldMatch tableKey expectedMatchField =
      .ok (some ⟨expectedMatchField.id, fieldMatchType⟩) := by
  cases fieldMatchType with
  | exact bytes =>
      obtain ⟨htype, hcare⟩ := haccepted
      have hget : tableKey.getExact expectedMatchField.id = .ok bytes := by
        rw [hreads, hfits.readsBack]
      simp [buildP4FieldMatch, htype, hget, hcare, bind, Except.bind, pure, Except.pure]
  | ternary bytes mask =>
      obtain ⟨htype, hcare⟩ := haccepted
      have hget : tableKey.getTernary expectedMatchField.id = .ok (bytes, mask) := by
        rw [hreads, hfits.1.readsBack, hfits.2.readsBack]
      simp [buildP4FieldMatch, htype, hget, hcare, bind, Except.bind, pure, Except.pure]
  | lpm bytes prefixLen =>
      obtain ⟨htype, hcare⟩ := haccepted
      obtain ⟨hbytes, hnonneg, hlt⟩ := hfits
      have hget : tableKey.getLpm expectedMatchField.id = .ok (bytes, toUint16 prefixLen) := by
        rw [hreads, hbytes.readsBack]
      simp [buildP4FieldMatch, htype, hget, toUint16_of_lt hnonneg hlt, hcare, bind, Except.bind,
        pure, Except.pure]
  | range low high =>
      obtain ⟨htype, hcare⟩ := haccepted
      have hget : tableKey.getRange expectedMatchField.id = .ok (low, high) := by
        rw [hreads, hfits.1.readsBack, hfits.2.readsBack]
      simp [buildP4FieldMatch, htype, hget, hcare, bind, Except.bind, pure, Except.pure]
  | optional bytes | other | notSet => exact haccepted.elim

/-- What `BuildP4TableEntry` reports for a match field an entry omits, from
what `BuildTableKey` leaves there: a zero exact match for an exact field, no
match for any other. -/
def omittedFieldMatch (expectedMatchField : P4Info.MatchField) : Option FieldMatch :=
  if expectedMatchField.matchType = .exact then
    some ⟨expectedMatchField.id, .exact (byteStringToP4RuntimeByteString
      (List.replicate (numBitsToNumBytes expectedMatchField.bitwidth) 0))⟩
  else none

/-- What `BuildP4TableEntry` reports for a match field of the table, on the
key `BuildTableKey` builds for an entry: the entry's first match with the
field's ID, or what it reports for an omitted field. -/
def expectedFieldMatch (tableEntry : TableEntry) (expectedMatchField : P4Info.MatchField) :
    Option FieldMatch :=
  match tableEntry.fieldMatches.find? (·.fieldId == expectedMatchField.id) with
  | some mk => some mk
  | none => omittedFieldMatch expectedMatchField

/-- A field the entry omits reads back from what the write leaves there. -/
theorem buildMissingField_read {expectedMatchField : P4Info.MatchField}
    {newKey builtKey tableKey : TableKey}
    (h : buildMissingField expectedMatchField newKey = .ok builtKey)
    (hwidth : newKey.table.keyFieldSizeGet expectedMatchField.id = .ok expectedMatchField.bitwidth)
    (hsize : tableKey.table.keyFieldSizeGet expectedMatchField.id = .ok expectedMatchField.bitwidth)
    (hnew : newKey.fields expectedMatchField.id = none)
    (hfield : tableKey.fields expectedMatchField.id = builtKey.fields expectedMatchField.id) :
    buildP4FieldMatch tableKey expectedMatchField = .ok (omittedFieldMatch expectedMatchField) := by
  unfold buildMissingField at h
  unfold buildP4FieldMatch omittedFieldMatch
  cases hkind : expectedMatchField.matchType with
  | exact | ternary | lpm =>
      rw [hkind] at h
      cases h
      -- the field is left unset, and reads as zero bytes
      simp [TableKey.getExact, TableKey.getTernary, TableKey.getLpm,
        TableKey.getPadded_of_size hsize, hfield, hnew, isDontCareMatchExact,
        isDontCareMatchTernary_zero, isDontCareMatchLpm, bind, Except.bind, pure, Except.pure]
  | range =>
      rw [hkind] at h
      obtain ⟨fieldSizeBits, hsizeNew, rfl⟩ := TableKey.setPadded_eq_ok.mp h
      rw [hwidth] at hsizeNew
      cases hsizeNew
      -- the field holds the whole range, which reads as the don't-care range
      simp [TableKey.getRange, TableKey.getPadded_of_size hsize, hfield,
        isDontCareMatchRange_default, bind, Except.bind, pure, Except.pure]
  | unspecified | optional => rw [hkind] at h; cases h

/-- One iteration of `BuildTableKey` on a field never set reads back as
`expectedFieldMatch` says, from every key of the same table that holds what
the iteration left at the field. -/
theorem buildMatchField_read {tableEntry : TableEntry} {acc acc' : Bool × TableKey}
    {expectedMatchField : P4Info.MatchField}
    (h : buildMatchField tableEntry acc expectedMatchField = .ok acc')
    (hwidth : acc.2.table.keyFieldSizeGet expectedMatchField.id = .ok expectedMatchField.bitwidth)
    (hfits : ∀ mk ∈ tableEntry.fieldMatches, mk.fieldId = expectedMatchField.id →
      MatchFits (numBitsToNumBytes expectedMatchField.bitwidth) mk.fieldMatchType)
    (hnew : acc.2.fields expectedMatchField.id = none) {tableKey : TableKey}
    (htable : tableKey.table = acc.2.table)
    (hfield : tableKey.fields expectedMatchField.id = acc'.2.fields expectedMatchField.id) :
    buildP4FieldMatch tableKey expectedMatchField =
      .ok (expectedFieldMatch tableEntry expectedMatchField) := by
  unfold buildMatchField at h
  rw [bind_eq_ok] at h
  obtain ⟨builtKey, hbuilt, hacc'⟩ := h
  cases hacc'
  have hsize : tableKey.table.keyFieldSizeGet expectedMatchField.id =
      .ok expectedMatchField.bitwidth := by
    rw [htable]
    exact hwidth
  unfold buildExpectedField at hbuilt
  unfold expectedFieldMatch
  cases hfind : tableEntry.fieldMatches.find? (·.fieldId == expectedMatchField.id) with
  | none =>
      rw [hfind] at hbuilt
      exact buildMissingField_read hbuilt hwidth hsize hnew hfield
  | some mk =>
      rw [hfind] at hbuilt
      obtain ⟨id, fieldMatchType⟩ := mk
      have hid : id = expectedMatchField.id := by simpa using List.find?_some hfind
      subst hid
      obtain ⟨fieldSizeBits, fieldValue, hsizeMk, hpadded, rfl⟩ := buildFieldMatch_eq_ok hbuilt
      -- the write padded the match to the field's own width
      dsimp only at hsizeMk
      rw [hwidth] at hsizeMk
      cases hsizeMk
      have hstored : tableKey.fields expectedMatchField.id = some fieldValue := by
        rw [hfield]
        exact TableKey.fields_setValue_self _ _ _
      exact buildP4FieldMatch_of_readsBack (buildFieldMatch_accepted hbuilt)
        (readsBack_of_fields hsize hpadded hstored)
        (hfits _ (List.mem_of_find?_eq_some hfind) rfl)

/-- The strings of every match of an entry fit the field of the table it is
for. -/
def MatchesFit (table : P4Info.Table) (tableEntry : TableEntry) : Prop :=
  ∀ mk ∈ tableEntry.fieldMatches, ∀ expectedMatchField ∈ table.matchFields,
    mk.fieldId = expectedMatchField.id →
    MatchFits (numBitsToNumBytes expectedMatchField.bitwidth) mk.fieldMatchType

/-- The loop of `BuildTableKey` on a new key leaves every match field reading
back as `expectedFieldMatch` says, from every key of the same table that
holds what the loop left at the field. -/
theorem buildMatchFields_read {tableEntry : TableEntry} {table : P4Info.Table}
    {newKey : TableKey} {acc : Bool × TableKey}
    (hnodup : (table.matchFields.map (·.id)).Nodup)
    (hwidth : ∀ fld ∈ table.matchFields, newKey.table.keyFieldSizeGet fld.id = .ok fld.bitwidth)
    (hfits : MatchesFit table tableEntry) (hnew : newKey.fields = fun _ => none)
    (h : table.matchFields.foldlM (buildMatchField tableEntry) (false, newKey) = .ok acc) :
    ∀ fld ∈ table.matchFields, ∀ tableKey : TableKey, tableKey.table = newKey.table →
      tableKey.fields fld.id = acc.2.fields fld.id →
      buildP4FieldMatch tableKey fld = .ok (expectedFieldMatch tableEntry fld) := by
  intro fld hmem
  -- each iteration writes its own field, which holds nothing before the loop
  have hwrites := foldlM_writes_from (·.id) (fun acc id => acc.2.fields id)
    (fun acc : Bool × TableKey => acc.2.table = newKey.table)
    (fun fld before after => fld ∈ table.matchFields → before = none →
      ∀ tableKey : TableKey, tableKey.table = newKey.table → tableKey.fields fld.id = after →
      buildP4FieldMatch tableKey fld = .ok (expectedFieldMatch tableEntry fld))
    (fun _ _ _ hacc hstep => (buildMatchField_eq_ok hstep).1.trans hacc)
    (fun acc fld acc' hacc hstep hmem' hbefore tableKey htable hfield =>
      buildMatchField_read hstep (by rw [hacc]; exact hwidth fld hmem')
        (fun mk hmk hid => hfits mk hmk fld hmem' hid) hbefore (htable.trans hacc.symm) hfield)
    (fun _ _ _ id hstep hne => (buildMatchField_eq_ok hstep).2.1 id hne)
    table.matchFields (false, newKey) acc rfl hnodup h fld hmem
  exact hwrites hmem (by simp [hnew])

/-- A ternary or range match field, which gives the table's entries a
priority. -/
def isPriorityMatchField (expectedMatchField : P4Info.MatchField) : Bool :=
  expectedMatchField.matchType == .ternary || expectedMatchField.matchType == .range

/-- The flag of the loop of `BuildTableKey` is `needs_priority`: whether the
table has a ternary or range field. -/
theorem buildMatchFields_flag {tableEntry : TableEntry} :
    ∀ {matchFields : List P4Info.MatchField} {acc acc' : Bool × TableKey},
      matchFields.foldlM (buildMatchField tableEntry) acc = .ok acc' →
      acc'.1 = (acc.1 || matchFields.any isPriorityMatchField)
  | [], acc, acc', h => by
      simp only [List.foldlM_nil, pure, Except.pure, Except.ok.injEq] at h
      simp [h]
  | fld :: matchFields, acc, acc', h => by
      rw [List.foldlM_cons, bind_eq_ok] at h
      obtain ⟨accNext, hstep, hrest⟩ := h
      unfold buildMatchField at hstep
      rw [bind_eq_ok] at hstep
      obtain ⟨_, -, hnext⟩ := hstep
      cases hnext
      rw [buildMatchFields_flag hrest, List.any_cons, isPriorityMatchField]
      simp only [Bool.or_assoc]

/-- `BuildTableKey` in one step: the loop over the table's match fields, then
the priority, written exactly when the table has a ternary or range field
and zero otherwise. -/
theorem buildTableKey_cases {p4info : P4Info} {tableEntry : TableEntry} {table : P4Info.Table}
    {tableKey tableKey' : TableKey} (htable : findTableById p4info tableEntry.tableId = .ok table)
    (h : buildTableKey p4info tableEntry tableKey = .ok tableKey') :
    ∃ acc : Bool × TableKey,
      table.matchFields.foldlM (buildMatchField tableEntry) (false, tableKey) = .ok acc ∧
      acc.1 = table.matchFields.any isPriorityMatchField ∧
      ((acc.1 = true ∧ ∃ bfrtPriority,
          convertPriorityFromP4rtToBfrt tableEntry.priority = .ok bfrtPriority ∧
          acc.2.setPriority bfrtPriority = .ok tableKey') ∨
        (acc.1 = false ∧ tableEntry.priority = 0 ∧ tableKey' = acc.2)) := by
  unfold buildTableKey at h
  rw [bind_eq_ok] at h
  obtain ⟨table', htable', h⟩ := h
  rw [htable] at htable'
  cases htable'
  rw [bind_eq_ok] at h
  obtain ⟨⟨needsPriority, builtKey⟩, hloop, h⟩ := h
  refine ⟨(needsPriority, builtKey), hloop, by simpa using buildMatchFields_flag hloop, ?_⟩
  dsimp only at h ⊢
  -- the two refused priorities end in errors, which `split_ifs` discards
  split_ifs at h with hnonzero hzero hneeds
  · cases hconvert : convertPriorityFromP4rtToBfrt tableEntry.priority with
    | error e => rw [hconvert] at h; cases h
    | ok bfrtPriority =>
        rw [hconvert] at h
        exact Or.inl ⟨hneeds, bfrtPriority, rfl, h⟩
  · cases h
    have hfalse : needsPriority = false := by simpa using hneeds
    exact Or.inr ⟨hfalse, by simpa [hfalse] using hnonzero, rfl⟩

/-- The loop of `BuildP4TableEntry` keeps, in order, what each field reads
back as, and raises the priority flag at a ternary or range field. -/
theorem buildP4MatchFields_eq_ok {tableKey : TableKey}
    {expected : P4Info.MatchField → Option FieldMatch} :
    ∀ {matchFields : List P4Info.MatchField} (acc : List FieldMatch × Bool),
      (∀ fld ∈ matchFields, buildP4FieldMatch tableKey fld = .ok (expected fld)) →
      matchFields.foldlM (buildP4MatchField tableKey) acc =
        .ok (acc.1 ++ matchFields.filterMap expected, acc.2 || matchFields.any isPriorityMatchField)
  | [], acc, _ => by simp [pure, Except.pure]
  | fld :: matchFields, acc, h => by
      have hstep : buildP4MatchField tableKey acc fld =
          .ok (acc.1 ++ (expected fld).toList, acc.2 || isPriorityMatchField fld) := by
        simp [buildP4MatchField, h fld List.mem_cons_self, isPriorityMatchField, Bool.or_assoc,
          bind, Except.bind, pure, Except.pure]
      rw [List.foldlM_cons, hstep]
      simp only [bind, Except.bind]
      rw [buildP4MatchFields_eq_ok _ fun fld' hfld' => h fld' (List.mem_cons_of_mem _ hfld')]
      cases hfld : expected fld <;> simp [hfld, Bool.or_assoc]

/-- The SDE's table agrees with the P4Info table on the key: the match fields
have distinct IDs and the P4Info's widths, and the priority field is none of
them. -/
structure KeyAgrees (bfrtTable : BfRtTable) (table : P4Info.Table) : Prop where
  nodup : (table.matchFields.map (·.id)).Nodup
  width : ∀ fld ∈ table.matchFields, bfrtTable.keyFieldSizeGet fld.id = .ok fld.bitwidth
  priorityField : ∀ priorityFieldId, bfrtTable.keyFieldIdGet kMatchPriority = .ok priorityFieldId →
    priorityFieldId ∉ table.matchFields.map (·.id)

/-- The loop of `BuildP4TableEntry` on the key `BuildTableKey` builds on a
new key: in the order of the P4Info, the entry's match for each field, a
zero exact match for each exact field it omits and nothing for any other,
with the priority flag of a table with a ternary or range field. -/
theorem buildP4MatchFields_of_buildTableKey {p4info : P4Info} {tableEntry : TableEntry}
    {table : P4Info.Table} {newKey tableKey : TableKey}
    (htable : findTableById p4info tableEntry.tableId = .ok table)
    (hagrees : KeyAgrees newKey.table table) (hfits : MatchesFit table tableEntry)
    (hnew : newKey.fields = fun _ => none)
    (h : buildTableKey p4info tableEntry newKey = .ok tableKey) :
    table.matchFields.foldlM (buildP4MatchField tableKey) ([], false) =
      .ok (table.matchFields.filterMap (expectedFieldMatch tableEntry),
        table.matchFields.any isPriorityMatchField) := by
  obtain ⟨acc, hloop, -, hpriority⟩ := buildTableKey_cases htable h
  have hread := buildMatchFields_read hagrees.nodup hagrees.width hfits hnew hloop
  have hloopTable : acc.2.table = newKey.table := (buildMatchFields_eq_ok hloop).1
  -- the priority, if written, goes to a field that is no match field
  have hkey : tableKey.table = newKey.table ∧
      ∀ fld ∈ table.matchFields, tableKey.fields fld.id = acc.2.fields fld.id := by
    rcases hpriority with ⟨-, bfrtPriority, -, hset⟩ | ⟨-, -, rfl⟩
    · obtain ⟨priorityFieldId, hid, rfl⟩ := TableKey.setPriority_eq_ok.mp hset
      rw [hloopTable] at hid
      refine ⟨hloopTable, fun fld hmem => TableKey.fields_setValue_of_ne _ ?_ _⟩
      rintro rfl
      exact hagrees.priorityField _ hid (List.mem_map_of_mem hmem)
    · exact ⟨hloopTable, fun _ _ => rfl⟩
  simpa using buildP4MatchFields_eq_ok ([], false)
    fun fld hmem => hread fld hmem tableKey hkey.1 (hkey.2 fld hmem)

/-- The priority `BuildP4TableEntry` reads from the key `BuildTableKey`
builds is the entry's: turned around twice for a table with a ternary or
range field, zero for any other. -/
theorem buildP4Priority_of_buildTableKey {p4info : P4Info} {tableEntry : TableEntry}
    {table : P4Info.Table} {newKey tableKey : TableKey}
    (htable : findTableById p4info tableEntry.tableId = .ok table)
    (h : buildTableKey p4info tableEntry newKey = .ok tableKey) :
    buildP4Priority tableKey (table.matchFields.any isPriorityMatchField) =
      .ok tableEntry.priority := by
  obtain ⟨acc, -, hflag, hpriority⟩ := buildTableKey_cases htable h
  rw [← hflag]
  rcases hpriority with ⟨hneeds, bfrtPriority, hconvert, hset⟩ | ⟨hneeds, hzero, -⟩
  · obtain ⟨priorityFieldId, hid, rfl⟩ := TableKey.setPriority_eq_ok.mp hset
    -- the priority is at most `kMaxPriority`, so a `uint32` holds it
    have hlt : bfrtPriority < 4294967296 := by
      have hle := convertPriorityFromP4rtToBfrt_le hconvert
      unfold kMaxPriority at hle
      omega
    have hget : (acc.2.setValue priorityFieldId (.uint64 bfrtPriority)).getPriority =
        .ok bfrtPriority := by
      simp [TableKey.getPriority, hid, hlt, bind, Except.bind, pure, Except.pure]
    simp [buildP4Priority, hneeds, hget, bind, Except.bind,
      convertPriorityFromBfrtToP4rt_convertPriorityFromP4rtToBfrt hconvert]
  · simp [buildP4Priority, hneeds, hzero, pure, Except.pure]

/-! ## The action that reads back -/

/-- `BuildTableData` in one step: the action part, then the counters, with
no meter config. -/
theorem buildTableData_cases {tableEntry : TableEntry} {tableData tableData' : TableData}
    (h : buildTableData tableEntry tableData = .ok tableData') :
    ∃ actionData, buildTableActionPart tableEntry tableData = .ok actionData ∧
      buildTableCounterPart tableEntry actionData = .ok tableData' := by
  unfold buildTableData at h
  rw [bind_eq_ok] at h
  obtain ⟨actionData, hactionData, h⟩ := h
  rw [bind_eq_ok] at h
  obtain ⟨counterData, hcounterData, hmeter⟩ := h
  refine ⟨actionData, hactionData, ?_⟩
  cases hconfig : tableEntry.meterConfig with
  | some config => rw [hconfig] at hmeter; cases hmeter
  | none => rw [hconfig] at hmeter; cases hmeter; exact hcounterData

/-- Setting the counters of an entry keeps the table, the action, and every
field the SDE does not name as a counter. -/
theorem buildTableCounterPart_frame {tableEntry : TableEntry} {tableData tableData' : TableData}
    (h : buildTableCounterPart tableEntry tableData = .ok tableData') :
    tableData'.table = tableData.table ∧ tableData'.actionId = tableData.actionId ∧
      ∀ fieldId, (∀ name, tableData.table.dataFieldNameGet fieldId = .ok name →
        name ≠ kCounterBytes ∧ name ≠ kCounterPackets) →
        tableData'.fields fieldId = tableData.fields fieldId := by
  unfold buildTableCounterPart at h
  cases hcounters : tableEntry.counterData with
  | none =>
      rw [hcounters] at h
      cases h
      exact ⟨rfl, rfl, fun _ _ => rfl⟩
  | some counters =>
      rw [hcounters] at h
      obtain ⟨htable, haction⟩ := TableData.setCounterData_keeps h
      exact ⟨htable, haction,
        fun fieldId hname => (TableData.setCounterData_frame h fieldId hname).2.2⟩

/-- The parameters `BuildP4TableEntry` reads for the P4Info's parameters,
each read back as the entry's parameter with its ID, come in the order of the
P4Info. -/
theorem mapM_getParam {tableData : TableData} {params : List Param} :
    ∀ {expectedParams : List P4Info.Param},
      (∀ p ∈ expectedParams, ∃ param, params.find? (·.paramId == p.id) = some param ∧
        tableData.getParam p.id = .ok param.value) →
      expectedParams.mapM (fun expectedParam => do
          let value ← tableData.getParam expectedParam.id
          pure (Param.mk expectedParam.id value)) =
        .ok (expectedParams.filterMap fun p => params.find? (·.paramId == p.id))
  | [], _ => rfl
  | p :: expectedParams, h => by
      obtain ⟨⟨paramId, value⟩, hfind, hget⟩ := h p List.mem_cons_self
      have hid : paramId = p.id := by simpa using List.find?_some hfind
      subst hid
      have hrest := mapM_getParam fun p' hp' => h p' (List.mem_cons_of_mem _ hp')
      rw [List.mapM_cons, hrest]
      simp [hget, hfind, bind, Except.bind, pure, Except.pure]

/-- The SDE names each data field it gives an ID for by that name. -/
def NamesDataFields (bfrtTable : BfRtTable) : Prop :=
  ∀ fieldName fieldId, bfrtTable.dataFieldIdGet fieldName none = .ok fieldId →
    bfrtTable.dataFieldNameGet fieldId = .ok fieldName

/-- The actions `BuildP4TableEntry` reads back: a direct action with a
non-zero ID on a table with action IDs, whose parameters are those of its
P4Info action, not named as counters, and fit their fields; an action profile
member or group on a table without action IDs whose SDE names its data
fields. -/
inductive ActionReadsBack (p4info : P4Info) (bfrtTable : BfRtTable) : Option TableAction → Prop
  | action {action : Action} {p4Action : P4Info.Action}
      (hdirect : bfrtTable.actionIdApplicable = true) (hid : action.actionId ≠ 0)
      (hfind : findActionById p4info action.actionId = .ok p4Action)
      (hnodup : (p4Action.params.map (·.id)).Nodup)
      (hparams : (action.params.map (·.paramId)).Perm (p4Action.params.map (·.id)))
      (hfits : ∀ param ∈ action.params, ∀ fieldSizeBits,
        bfrtTable.dataFieldSizeGet param.paramId (some action.actionId) = .ok fieldSizeBits →
        FitsBytes (numBitsToNumBytes fieldSizeBits) param.value)
      (hnames : ∀ param ∈ action.params, ∀ name, bfrtTable.dataFieldNameGet param.paramId = .ok name →
        name ≠ kCounterBytes ∧ name ≠ kCounterPackets) :
      ActionReadsBack p4info bfrtTable (some (.action action))
  | actionProfileMemberId (memberId : Nat) (hindirect : bfrtTable.actionIdApplicable = false)
      (hnames : NamesDataFields bfrtTable) :
      ActionReadsBack p4info bfrtTable (some (.actionProfileMemberId memberId))
  | actionProfileGroupId (groupId : Nat) (hindirect : bfrtTable.actionIdApplicable = false)
      (hnames : NamesDataFields bfrtTable) :
      ActionReadsBack p4info bfrtTable (some (.actionProfileGroupId groupId))

/-- The data `BuildTableData` builds for a direct action reads back as that
action, with the parameters of its P4Info action in their order. -/
theorem buildP4Action_of_buildTableActionData {p4info : P4Info} {tableEntry : TableEntry}
    {newData tableData : TableData} {action : Action} {p4Action : P4Info.Action}
    (haction : tableEntry.action = some (.action action))
    (hdirect : newData.table.actionIdApplicable = true) (hid : action.actionId ≠ 0)
    (hfind : findActionById p4info action.actionId = .ok p4Action)
    (hnodup : (p4Action.params.map (·.id)).Nodup)
    (hparams : (action.params.map (·.paramId)).Perm (p4Action.params.map (·.id)))
    (hfits : ∀ param ∈ action.params, ∀ fieldSizeBits,
      newData.table.dataFieldSizeGet param.paramId (some action.actionId) = .ok fieldSizeBits →
      FitsBytes (numBitsToNumBytes fieldSizeBits) param.value)
    (hnames : ∀ param ∈ action.params, ∀ name,
      newData.table.dataFieldNameGet param.paramId = .ok name →
      name ≠ kCounterBytes ∧ name ≠ kCounterPackets)
    (h : buildTableData tableEntry newData = .ok tableData) :
    buildP4Action p4info tableData = .ok (some (.action ⟨action.actionId,
      p4Action.params.filterMap fun p => action.params.find? (·.paramId == p.id)⟩)) := by
  obtain ⟨actionData, hpart, hcounter⟩ := buildTableData_cases h
  unfold buildTableActionPart at hpart
  rw [haction] at hpart
  obtain ⟨hactionTable, hactionId, -⟩ := buildTableActionData_eq_ok hpart
  obtain ⟨hcounterTable, hcounterId, -⟩ := buildTableCounterPart_frame hcounter
  have htable : tableData.table = newData.table := hcounterTable.trans hactionTable
  have hactionIdRead : tableData.getActionId = action.actionId := by
    simp [TableData.getActionId, htable, hdirect, hcounterId, hactionId]
  -- every parameter of the P4Info action is one of the entry's, stored at its ID
  have hstored := dataHolds_of_buildTableData h action haction
    (hparams.nodup_iff.mpr hnodup) (by rw [htable]; exact hnames)
  have hget : ∀ p ∈ p4Action.params, ∃ param, action.params.find? (·.paramId == p.id) = some param ∧
      tableData.getParam p.id = .ok param.value := by
    intro p hp
    obtain ⟨param, hmem, hparamId⟩ :=
      List.mem_map.mp (hparams.mem_iff.mpr (List.mem_map_of_mem (f := (·.id)) hp))
    cases hfindParam : action.params.find? (·.paramId == p.id) with
    | none =>
        have hnone := List.find?_eq_none.mp hfindParam param hmem
        simp [hparamId] at hnone
    | some param' =>
        have hid' : param'.paramId = p.id := by simpa using List.find?_some hfindParam
        obtain ⟨-, fieldSizeBits, hsize, hgetParam⟩ :=
          hstored param' (List.mem_of_find?_eq_some hfindParam)
        have hsizeSde : newData.table.dataFieldSizeGet param'.paramId (some action.actionId) =
            .ok fieldSizeBits := by
          simpa [TableData.paramSizeGet, TableData.applicableActionId, htable, hdirect,
            hcounterId, hactionId, hid] using hsize
        refine ⟨param', rfl, ?_⟩
        rw [← hid', hgetParam,
          (hfits param' (List.mem_of_find?_eq_some hfindParam) fieldSizeBits hsizeSde).readsBack]
  unfold buildP4Action
  dsimp only
  rw [hactionIdRead, if_pos hid, bind_eq_ok]
  refine ⟨p4Action, hfind, ?_⟩
  rw [bind_eq_ok]
  exact ⟨_, mapM_getParam hget, rfl⟩

/-- The data `BuildTableData` builds for an action profile member or group
on a table without action IDs whose SDE names its data fields: the ID at the
field named for it, and no other named field set but counters. -/
theorem buildTableData_setField {tableEntry : TableEntry} {newData tableData : TableData}
    {fieldName : String} {fieldValue : Nat}
    (hpart : buildTableActionPart tableEntry newData = newData.setField fieldName fieldValue)
    (hindirect : newData.table.actionIdApplicable = false) (hnames : NamesDataFields newData.table)
    (hcounter : fieldName ≠ kCounterBytes ∧ fieldName ≠ kCounterPackets)
    (hnew : newData.fields = fun _ => none) (h : buildTableData tableEntry newData = .ok tableData) :
    tableData.table = newData.table ∧
      (∃ fieldId, newData.table.dataFieldIdGet fieldName none = .ok fieldId ∧
        newData.table.dataFieldDataTypeGet fieldId none = .ok .uint64 ∧
        tableData.fields fieldId = some (.uint64 fieldValue)) ∧
      ∀ otherName fieldId, otherName ≠ fieldName → otherName ≠ kCounterBytes →
        otherName ≠ kCounterPackets → newData.table.dataFieldIdGet otherName none = .ok fieldId →
        tableData.fields fieldId = none := by
  obtain ⟨actionData, hactionData, hcounterData⟩ := buildTableData_cases h
  rw [hpart] at hactionData
  have happlicable : newData.applicableActionId = none := by
    simp [TableData.applicableActionId, hindirect]
  obtain ⟨fieldId, hid, htype, rfl⟩ := TableData.setField_spec hactionData
  rw [happlicable] at hid htype
  obtain ⟨htable, -, hframe⟩ := buildTableCounterPart_frame hcounterData
  -- a field the SDE names is a counter only if its name is a counter's
  have hnotCounter : ∀ name id, newData.table.dataFieldIdGet name none = .ok id →
      name ≠ kCounterBytes → name ≠ kCounterPackets →
      tableData.fields id = (newData.setValue fieldId (.uint64 fieldValue)).fields id := by
    intro name id hnameId hbytes hpackets
    refine hframe id fun name' hname' => ?_
    rw [TableData.table_setValue, hnames name id hnameId] at hname'
    cases hname'
    exact ⟨hbytes, hpackets⟩
  refine ⟨htable, ⟨fieldId, hid, htype, ?_⟩, ?_⟩
  · rw [hnotCounter fieldName fieldId hid hcounter.1 hcounter.2]
    exact TableData.fields_setValue_self _ _ _
  · intro otherName otherId hne hbytes hpackets hotherId
    -- two names the SDE names distinct fields by
    have hdistinct : otherId ≠ fieldId := by
      rintro rfl
      have hsame := (hnames otherName otherId hotherId).symm.trans (hnames fieldName otherId hid)
      cases hsame
      exact hne rfl
    rw [hnotCounter otherName otherId hotherId hbytes hpackets,
      TableData.fields_setValue_of_ne _ hdistinct, hnew]

/-- Two actions of an entry are the same, the parameters of a direct action
compared as a set keyed by ID. -/
def SameAction : Option TableAction → Option TableAction → Prop
  | some (.action action), some (.action action') =>
      action.actionId = action'.actionId ∧ action.params.Perm action'.params
  | action, action' => action = action'

/-- The action `BuildP4TableEntry` reads from the data `BuildTableData`
builds on new data is the entry's, whenever it is one that reads back. -/
theorem buildP4Action_of_buildTableData {p4info : P4Info} {tableEntry : TableEntry}
    {newData tableData : TableData} (hnew : newData.fields = fun _ => none)
    (hreads : ActionReadsBack p4info newData.table tableEntry.action)
    (h : buildTableData tableEntry newData = .ok tableData) :
    ∃ action, buildP4Action p4info tableData = .ok action ∧
      SameAction (buildP4ProfileAction tableData action) tableEntry.action := by
  have htable : tableData.table = newData.table := (buildTableData_eq_ok h).1
  -- the read of a table without action IDs finds no direct action
  have hnoAction : newData.table.actionIdApplicable = false →
      buildP4Action p4info tableData = .ok none := by
    intro hindirect
    simp [buildP4Action, TableData.getActionId, htable, hindirect, pure, Except.pure]
  cases hentry : tableEntry.action with
  | none => rw [hentry] at hreads; cases hreads
  | some tableAction =>
  rw [hentry] at hreads
  cases hreads with
  | action hdirect hid hfind hnodup hparams hfits hnames =>
      -- a table with action IDs has neither member nor group IDs
      have hprofile : ∀ fieldName kind, ∃ error,
          tableData.getProfileId fieldName kind = .error error := by
        intro fieldName kind
        exact ⟨_, by simp [TableData.getProfileId, htable, hdirect]; rfl⟩
      refine ⟨_, buildP4Action_of_buildTableActionData hentry hdirect hid hfind hnodup hparams
        hfits hnames h, ?_⟩
      obtain ⟨memberError, hmember⟩ := hprofile kActionMemberId "action member IDs"
      obtain ⟨groupError, hgroup⟩ := hprofile kSelectorGroupId "action group IDs"
      simp only [buildP4ProfileAction, TableData.getActionMemberId, TableData.getSelectorGroupId,
        hmember, hgroup]
      refine ⟨rfl, ?_⟩
      -- the parameters read in the order of the P4Info are the entry's
      have hperm := filterMap_find?_perm Param.paramId (hparams.nodup_iff.mpr hnodup) hnodup
        fun param hmem => hparams.subset (List.mem_map_of_mem hmem)
      rw [List.filterMap_map] at hperm
      exact hperm
  | actionProfileMemberId memberId hindirect hnames =>
      have hpart : buildTableActionPart tableEntry newData =
          newData.setField kActionMemberId memberId := by
        rw [buildTableActionPart, hentry]
        rfl
      obtain ⟨-, ⟨fieldId, hid, htype, hfield⟩, hunset⟩ := buildTableData_setField hpart hindirect
        hnames (by simp [kActionMemberId, kCounterBytes, kCounterPackets]) hnew h
      have hmember : tableData.getActionMemberId = .ok memberId := by
        rw [← htable] at hindirect hid htype
        exact TableData.getProfileId_of_fields hindirect hid htype hfield
      obtain ⟨groupError, hgroup⟩ : ∃ error, tableData.getSelectorGroupId = .error error := by
        refine TableData.getProfileId_error_of_fields fun groupFieldId hgroupId => ?_
        rw [htable] at hgroupId
        exact hunset kSelectorGroupId groupFieldId (by simp [kSelectorGroupId, kActionMemberId])
          (by simp [kSelectorGroupId, kCounterBytes]) (by simp [kSelectorGroupId, kCounterPackets])
          hgroupId
      refine ⟨none, hnoAction hindirect, ?_⟩
      simp only [buildP4ProfileAction, hmember, hgroup]
      exact rfl
  | actionProfileGroupId groupId hindirect hnames =>
      have hpart : buildTableActionPart tableEntry newData =
          newData.setField kSelectorGroupId groupId := by
        rw [buildTableActionPart, hentry]
        rfl
      obtain ⟨-, ⟨fieldId, hid, htype, hfield⟩, -⟩ := buildTableData_setField hpart hindirect
        hnames (by simp [kSelectorGroupId, kCounterBytes, kCounterPackets]) hnew h
      have hgroup : tableData.getSelectorGroupId = .ok groupId := by
        rw [← htable] at hindirect hid htype
        exact TableData.getProfileId_of_fields hindirect hid htype hfield
      -- the group ID, read last, takes the place of whatever came before
      refine ⟨none, hnoAction hindirect, ?_⟩
      simp only [buildP4ProfileAction, hgroup]
      exact rfl

/-! ## The round trip -/

/-- What an entry's matches need to come back as a set: distinct field IDs,
each of a match field of the table, strings that fit their fields, and a
match for every exact field. -/
structure MatchesReadBack (table : P4Info.Table) (tableEntry : TableEntry) : Prop where
  nodup : (tableEntry.fieldMatches.map (·.fieldId)).Nodup
  known : ∀ mk ∈ tableEntry.fieldMatches, mk.fieldId ∈ table.matchFields.map (·.id)
  fits : MatchesFit table tableEntry
  exact : ∀ fld ∈ table.matchFields, fld.matchType = .exact →
    fld.id ∈ tableEntry.fieldMatches.map (·.fieldId)

/-- With a match for every exact field, the matches reported for the table's
fields are the entry's, in the order of the P4Info. -/
theorem filterMap_expectedFieldMatch_perm {table : P4Info.Table} {tableEntry : TableEntry}
    (hnodup : (table.matchFields.map (·.id)).Nodup) (hmatches : MatchesReadBack table tableEntry) :
    (table.matchFields.filterMap (expectedFieldMatch tableEntry)).Perm tableEntry.fieldMatches := by
  -- a field the entry omits is reported as nothing, as it is not exact
  have hsame : table.matchFields.filterMap (expectedFieldMatch tableEntry) =
      (table.matchFields.map (·.id)).filterMap
        fun id => tableEntry.fieldMatches.find? (·.fieldId == id) := by
    rw [List.filterMap_map]
    apply List.filterMap_congr
    intro fld hmem
    unfold expectedFieldMatch
    cases hfind : tableEntry.fieldMatches.find? (·.fieldId == fld.id) with
    | some mk => simp [hfind]
    | none =>
        have hnotExact : fld.matchType ≠ .exact := by
          intro hexact
          obtain ⟨mk, hmk, hid⟩ := List.mem_map.mp (hmatches.exact fld hmem hexact)
          have hnone := List.find?_eq_none.mp hfind mk hmk
          simp [hid] at hnone
        simp [omittedFieldMatch, hnotExact, hfind]
  rw [hsame]
  exact filterMap_find?_perm FieldMatch.fieldId hmatches.nodup hnodup hmatches.known

theorem table_entry_roundtrip {sde : BfSdeInterface} {p4info : P4Info} {tableEntry : TableEntry}
    {table : P4Info.Table} {bfrtTable : BfRtTable} {tableId : Nat}
    {newKey tableKey : TableKey} {newData tableData : TableData}
    (htable : findTableById p4info tableEntry.tableId = .ok table)
    (hbfrtTable : sde.bfrtTableFromIdGet tableId = .ok bfrtTable)
    (hnewKey : sde.createTableKey tableId = .ok newKey)
    (hkey : buildTableKey p4info tableEntry newKey = .ok tableKey)
    (hnewData : sde.createTableData tableId (actionIdOf tableEntry) = .ok newData)
    (hdata : buildTableData tableEntry newData = .ok tableData)
    (hdefault : tableEntry.isDefaultAction = false)
    (hagrees : KeyAgrees bfrtTable table) (hmatches : MatchesReadBack table tableEntry)
    (haction : ActionReadsBack p4info bfrtTable tableEntry.action) :
    ∃ result, buildP4TableEntry p4info tableEntry tableKey tableData = .ok result ∧
      result.tableId = tableEntry.tableId ∧ result.fieldMatches.Perm tableEntry.fieldMatches ∧
      result.priority = tableEntry.priority ∧ SameAction result.action tableEntry.action := by
  -- the new key and data are for the SDE's table, with no field set
  obtain ⟨hkeyTable, hkeyNew⟩ := BfSdeInterface.createTableKey_eq_ok hnewKey
  obtain ⟨hdataTable, hdataNew⟩ := BfSdeInterface.createTableData_eq_ok hnewData
  rw [Except.ok.inj (hbfrtTable.symm.trans hkeyTable)] at hagrees
  rw [Except.ok.inj (hbfrtTable.symm.trans hdataTable)] at haction
  have hloop := buildP4MatchFields_of_buildTableKey htable hagrees hmatches.fits hkeyNew hkey
  have hpriority := buildP4Priority_of_buildTableKey htable hkey
  obtain ⟨action, hreadAction, hsame⟩ := buildP4Action_of_buildTableData hdataNew haction hdata
  refine ⟨⟨tableEntry.tableId, table.matchFields.filterMap (expectedFieldMatch tableEntry),
    buildP4ProfileAction tableData action, tableEntry.priority, 0, none,
    buildP4CounterData tableEntry tableData, false, 0, none, []⟩, ?_, rfl,
    filterMap_expectedFieldMatch_perm hagrees.nodup hmatches, rfl, hsame⟩
  simp only [buildP4TableEntry, htable, hloop, hdefault, Bool.not_false, Bool.and_true, hpriority,
    hreadAction, bind, Except.bind, pure, Except.pure]

/-- The P4Info of `byteKeyP4Info` with an action `3` of one parameter `1`. -/
def exactFieldP4Info : P4Info :=
  ⟨none, [⟨7, "ingress.fwd", [⟨1, none, 8, .exact⟩], false⟩], [⟨3, [⟨1, none⟩]⟩], [], [], [], []⟩

/-- An entry of table `7` with the matches given and action `3`, its
parameter `1` set to `[5]`. -/
def exactFieldEntry (fieldMatches : List FieldMatch) : TableEntry :=
  ⟨7, fieldMatches, some (.action ⟨3, [⟨1, [5]⟩]⟩), 0, 0, none, none, false, 0, none, []⟩

theorem table_entry_roundtrip_exactField :
    ∃ newKey tableKey newData tableData,
      byteKeySde.createTableKey 7 = .ok newKey ∧
      buildTableKey exactFieldP4Info (exactFieldEntry [⟨1, .exact [5]⟩]) newKey = .ok tableKey ∧
      byteKeySde.createTableData 7 3 = .ok newData ∧
      buildTableData (exactFieldEntry [⟨1, .exact [5]⟩]) newData = .ok tableData ∧
      ∃ result, buildP4TableEntry exactFieldP4Info (exactFieldEntry [⟨1, .exact [5]⟩]) tableKey
          tableData = .ok result ∧
        result.tableId = 7 ∧ result.fieldMatches.Perm [⟨1, .exact [5]⟩] ∧ result.priority = 0 ∧
        SameAction result.action (some (.action ⟨3, [⟨1, [5]⟩]⟩)) :=
  ⟨_, _, _, _, rfl, rfl, rfl, rfl,
    table_entry_roundtrip
      (rfl : findTableById exactFieldP4Info 7 = .ok ⟨7, "ingress.fwd", [⟨1, none, 8, .exact⟩], false⟩)
      (rfl : byteKeySde.bfrtTableFromIdGet 7 = .ok byteKeyBfRtTable) rfl rfl rfl rfl rfl
      ⟨by decide, fun fld hfld => by simp at hfld; subst hfld; rfl,
        fun priorityFieldId hid => by cases hid; decide⟩
      ⟨by decide, by decide, by unfold MatchesFit; decide, by decide⟩
      (.action rfl (by decide) rfl (by decide) (by decide)
        (fun param hparam fieldSizeBits hsize => by
          simp at hparam
          subst hparam
          cases hsize
          decide)
        (fun param _ name hname => by
          cases hname
          simp [kCounterBytes, kCounterPackets]))⟩

/-- An entry without a match for the exact field of its table, which the
write path takes, reads back with a zero exact match for that field. -/
theorem read_reports_omitted_exact :
    ∃ tableKey tableData result,
      buildTableWrite byteKeySde (Translator.create false) exactFieldP4Info .insert
        (exactFieldEntry []) = .ok (.insertTableEntry 7 tableKey tableData) ∧
      buildP4TableEntry exactFieldP4Info (exactFieldEntry []) tableKey tableData = .ok result ∧
      result.fieldMatches = [⟨1, .exact [0]⟩] ∧
      ¬result.fieldMatches.Perm (exactFieldEntry []).fieldMatches :=
  ⟨_, _, _, rfl, rfl, rfl, by decide⟩

end Stratum.Ports.BfrtTableManager
