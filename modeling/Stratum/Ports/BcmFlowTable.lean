import Mathlib.Data.List.Lex
import Mathlib.Data.List.Perm.Basic
import Stratum.Verified.SetIntersection
import Stratum.Ports.BcmTableManager

/-!
# Flow identity in `BcmFlowTable`

`stratum/hal/lib/bcm/bcm_flow_table.h` keeps the entries of a flow table in a
hash set whose functors `TableEntryHash` and `TableEntryEqual` both copy the
entry, clear its table ID, action, controller metadata, meter config and
counter data, and work on `ProtoSerialize` of what is left:
`TableEntryEqual` compares the match fields in any order and the rest byte
for byte, `TableEntryHash` hashes the copy with its match fields sorted by
their serialisation. The functors' comment asks that an entry equal its
modified version, and `InsertEntry` documents the key as the match fields,
the priority and `is_default_action`. The cleared fields leave out
`idle_timeout_ns`, `time_since_last_hit` and `metadata`, which a P4Runtime
`MODIFY` may change.

`ProtoSerialize` is a parameter, deterministic and injective on the two
messages serialised. Through it the functor is `tableEntryEqual`, which the
flow-table model of `BcmTableManager` uses.

Main results:

* `tableEntryEqualSerialized_eq` — the functor is `tableEntryEqual`;
* `tableEntryEqual_eq_true_iff` — the fields it compares;
* `tableEntryEqual_equivalence`, `tableEntryHash_eq_of_tableEntryEqual` — the
  key is an equivalence, and the hash agrees with it;
* `idle_timeout_modify_is_new_flow` — a route whose idle timeout changed is
  not its own modified version: `ModifyEntry` does not find it, and
  `InsertEntry` takes it as a second flow.
-/

namespace Stratum.Ports.BcmFlowTable

open Stratum.Verified.BigEndian Stratum.Verified.SetIntersection
open Stratum.Ports.Status Stratum.Ports.P4Runtime Stratum.Ports.BcmTableManager

/-- `ProtoSerialize` (`stratum/lib/utils.h`) on the two messages the functors
serialise, deterministic and injective. -/
structure ProtoSerialize where
  fieldMatch : FieldMatch → ByteString
  tableEntry : TableEntry → ByteString
  fieldMatch_injective : Function.Injective fieldMatch
  tableEntry_injective : Function.Injective tableEntry

/-- The copy both functors make of an entry. -/
def clearedEntry (x : TableEntry) : TableEntry :=
  { x with
    tableId := 0
    action := none
    controllerMetadata := 0
    meterConfig := none
    counterData := none }

/-- A match field's serialisation as `operator<` of `std::string` orders it:
lexicographically, in bytes read as unsigned characters. -/
def serializedKey (ser : ProtoSerialize) (fieldMatch : FieldMatch) : List Nat :=
  (ser.fieldMatch fieldMatch).map UInt8.toNat

/-- `TableEntryEqual::operator()`. `std::is_permutation` with the predicate
"same serialisation" is a permutation of the serialisations. -/
def tableEntryEqualSerialized (ser : ProtoSerialize) (x y : TableEntry) : Bool :=
  let a := clearedEntry x
  let b := clearedEntry y
  if a.fieldMatches.length != b.fieldMatches.length ||
      !(a.fieldMatches.map ser.fieldMatch).isPerm (b.fieldMatches.map ser.fieldMatch) then false
  else ser.tableEntry { a with fieldMatches := [] } == ser.tableEntry { b with fieldMatches := [] }

/-- `TableEntryHash::operator()`, with `std::hash<std::string>` as `hash`. -/
def tableEntryHash (ser : ProtoSerialize) (hash : ByteString → Nat) (x : TableEntry) : Nat :=
  let a := clearedEntry x
  hash (ser.tableEntry { a with fieldMatches := sortByKey (serializedKey ser) a.fieldMatches })

@[simp] theorem clearedEntry_fieldMatches (x : TableEntry) :
    (clearedEntry x).fieldMatches = x.fieldMatches := rfl

theorem serializedKey_injective (ser : ProtoSerialize) : Function.Injective (serializedKey ser) :=
  (List.map_injective_iff.mpr fun _ _ h => UInt8.toNat_inj.mp h).comp ser.fieldMatch_injective

/-! ## The functor is the field comparison -/

/-- The fields `TableEntryEqual` compares. -/
theorem tableEntryEqual_eq_true_iff (x y : TableEntry) :
    tableEntryEqual x y = true ↔
      x.fieldMatches.Perm y.fieldMatches ∧ x.priority = y.priority ∧
        x.isDefaultAction = y.isDefaultAction ∧ x.idleTimeoutNs = y.idleTimeoutNs ∧
        x.timeSinceLastHit = y.timeSinceLastHit ∧ x.metadata = y.metadata := by
  simp only [tableEntryEqual, Bool.and_eq_true, List.isPerm_iff, beq_iff_eq, and_assoc]

/-- The serialised copies without match fields agree exactly when the fields
no functor clears agree. -/
theorem clearedRest_eq_iff (ser : ProtoSerialize) (x y : TableEntry) :
    ser.tableEntry { clearedEntry x with fieldMatches := [] } =
        ser.tableEntry { clearedEntry y with fieldMatches := [] } ↔
      x.priority = y.priority ∧ x.isDefaultAction = y.isDefaultAction ∧
        x.idleTimeoutNs = y.idleTimeoutNs ∧ x.timeSinceLastHit = y.timeSinceLastHit ∧
        x.metadata = y.metadata := by
  rw [ser.tableEntry_injective.eq_iff]
  simp [clearedEntry]

theorem tableEntryEqualSerialized_eq (ser : ProtoSerialize) (x y : TableEntry) :
    tableEntryEqualSerialized ser x y = tableEntryEqual x y := by
  have hperm : (x.fieldMatches.map ser.fieldMatch).isPerm (y.fieldMatches.map ser.fieldMatch) =
      x.fieldMatches.isPerm y.fieldMatches := by
    rw [Bool.eq_iff_iff, List.isPerm_iff, List.isPerm_iff,
      List.map_perm_map_iff ser.fieldMatch_injective]
  rw [Bool.eq_iff_iff, tableEntryEqual_eq_true_iff, ← clearedRest_eq_iff ser]
  unfold tableEntryEqualSerialized
  simp only [clearedEntry_fieldMatches, hperm]
  split
  · -- a length or a match field differs
    rename_i hdiffer
    simp only [Bool.or_eq_true, bne_iff_ne, ne_eq, Bool.not_eq_true', Bool.eq_false_iff,
      List.isPerm_iff] at hdiffer
    simp only [Bool.false_eq_true, false_iff, not_and]
    intro hmatches
    rcases hdiffer with hlen | hnot
    · exact absurd hmatches.length_eq hlen
    · exact absurd hmatches hnot
  · rename_i hsame
    simp only [Bool.or_eq_true, bne_iff_ne, ne_eq, Bool.not_eq_true', not_or, not_not,
      List.isPerm_iff, Bool.not_eq_false] at hsame
    simp only [beq_iff_eq, hsame.2, true_and]

/-! ## A key for a hash set -/

theorem tableEntryEqual_equivalence : Equivalence (fun x y => tableEntryEqual x y = true) where
  refl x := (tableEntryEqual_eq_true_iff x x).mpr ⟨List.Perm.refl _, rfl, rfl, rfl, rfl, rfl⟩
  symm h := by
    obtain ⟨hmatches, hp, hd, hi, ht, hm⟩ := (tableEntryEqual_eq_true_iff _ _).mp h
    exact (tableEntryEqual_eq_true_iff _ _).mpr
      ⟨hmatches.symm, hp.symm, hd.symm, hi.symm, ht.symm, hm.symm⟩
  trans h h' := by
    obtain ⟨hmatches, hp, hd, hi, ht, hm⟩ := (tableEntryEqual_eq_true_iff _ _).mp h
    obtain ⟨hmatches', hp', hd', hi', ht', hm'⟩ := (tableEntryEqual_eq_true_iff _ _).mp h'
    exact (tableEntryEqual_eq_true_iff _ _).mpr
      ⟨hmatches.trans hmatches', hp.trans hp', hd.trans hd', hi.trans hi', ht.trans ht',
        hm.trans hm'⟩

/-- Entries that are the same flow hash alike: their match fields sort to one
list, and the rest agrees. -/
theorem tableEntryHash_eq_of_tableEntryEqual (ser : ProtoSerialize) (hash : ByteString → Nat)
    {x y : TableEntry} (h : tableEntryEqual x y = true) :
    tableEntryHash ser hash x = tableEntryHash ser hash y := by
  obtain ⟨hmatches, hp, hd, hi, ht, hm⟩ := (tableEntryEqual_eq_true_iff x y).mp h
  unfold tableEntryHash
  dsimp only
  rw [clearedEntry_fieldMatches, clearedEntry_fieldMatches,
    sortByKey_eq_of_perm (serializedKey_injective ser) hmatches]
  simp [clearedEntry, hp, hd, hi, ht, hm]

/-! ## A modified idle timeout -/

/-- A route to `10.0.0.0/8` of priority 10, with the idle timeout
`idleTimeoutNs`. -/
def routeEntry (idleTimeoutNs : Int) : TableEntry :=
  ⟨1, [⟨1, .lpm [10, 0, 0, 0] 8⟩], some (.action ⟨2, []⟩), 10, 0, none, none, false,
    idleTimeoutNs, none, []⟩

/-- The flow table holding that route with no idle timeout. -/
def routeTable : BcmFlowTable := ⟨1, "ipv4_route", [routeEntry 0]⟩

/-- The route with its idle timeout changed has the documented key of the
original, yet the functor tells them apart, whatever the serialisation: the
`ModifyEntry` of a P4Runtime `MODIFY` does not find it, and `InsertEntry`
stores it as a second flow. -/
theorem idle_timeout_modify_is_new_flow :
    (routeEntry 1000).fieldMatches = (routeEntry 0).fieldMatches ∧
      (routeEntry 1000).priority = (routeEntry 0).priority ∧
      (routeEntry 1000).isDefaultAction = (routeEntry 0).isDefaultAction ∧
      (∀ ser : ProtoSerialize, tableEntryEqualSerialized ser (routeEntry 1000) (routeEntry 0) =
        false) ∧
      (∃ message, routeTable.modifyEntry (routeEntry 1000) =
        .error ⟨.errEntryNotFound, message⟩) ∧
      routeTable.insertEntry (routeEntry 1000) =
        .ok ⟨1, "ipv4_route", [routeEntry 1000, routeEntry 0]⟩ := by
  refine ⟨rfl, rfl, rfl, fun ser => ?_, ⟨_, rfl⟩, rfl⟩
  rw [tableEntryEqualSerialized_eq]
  rfl

end Stratum.Ports.BcmFlowTable
