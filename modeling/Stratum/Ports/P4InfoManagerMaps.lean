import Stratum.Ports.Status
import Stratum.Ports.P4Utils
import Stratum.Verified.PairedMaps
import Stratum.Verified.KeyedSet

set_option linter.dupNamespace false

/-!
# The resource maps of `P4InfoManager`

`P4InfoManager::InitializeAndVerify` (`stratum/hal/lib/p4/p4_info_manager.cc`)
builds, for each of ten resource kinds in turn, a `P4ResourceMap` from P4
IDs and names to the resources of that kind. Every preamble goes through
`ProcessPreamble`, which checks its ID and name and enters them in two sets
shared by all kinds; a resource enters its kind's maps only when its preamble
passes. Errors are accumulated with `APPEND_STATUS_IF_ERROR` instead of ending
the run, and a last pass checks that the actions tables refer to exist.

The P4Info here keeps what these functions read: the preamble of every
resource and the action references of tables.

Main results:

* `processPreamble_eq_ok_iff` — a preamble passes when its ID is non-zero,
  its name non-empty and neither was seen before;
* `buildMaps_processPreamble_eq_ok_iff`, `buildMaps_processPreamble_of_eq_ok`
  — a `BuildMaps` run reports OK exactly when its preambles are `Admissible`
  after those seen, and then enters all its resources;
* `foldl_buildKindMaps_eq_ok_iff`, `foldl_buildKindMaps_of_eq_ok` — the same
  for the run over the resource kinds;
* `initializeAndVerify_eq_ok_iff` — on a fresh manager `InitializeAndVerify`
  accepts exactly the `WellFormed` P4Infos;
* `p4Info_verification_exact` — and after it accepts, every resource is found
  by its ID and by its name, and nothing else is.
-/

namespace Stratum.Ports.P4InfoManager

open Function Stratum.Ports.Status Stratum.Ports.P4Utils Stratum.Verified.PairedMaps
  Stratum.Verified.KeyedSet

/-! ## P4Info resources (`p4/config/v1/p4info.proto`) -/

/-- `Preamble`: the ID and name of a resource. -/
structure Preamble where
  id : Nat
  name : String
  deriving DecidableEq, Repr

/-- `Table`, with the IDs of its `action_refs`. -/
structure Table where
  preamble : Preamble
  actionRefs : List Nat
  deriving DecidableEq, Repr

/-- A resource of the other nine kinds, of which only the preamble is read. -/
structure Resource where
  preamble : Preamble
  deriving DecidableEq, Repr

/-- The resource kinds `P4InfoManager` keeps a `P4ResourceMap` for. -/
inductive ResourceKind
  | table
  | action
  | actionProfile
  | counter
  | directCounter
  | meter
  | directMeter
  | valueSet
  | register
  | digest
  deriving DecidableEq, Repr

namespace ResourceKind

/-- The message type of a resource of the kind. -/
def Message : ResourceKind → Type
  | table => Table
  | _ => Resource

/-- `resource.preamble()`. -/
def preamble : (k : ResourceKind) → k.Message → Preamble
  | table => Table.preamble
  | action | actionProfile | counter | directCounter | meter | directMeter | valueSet | register
  | digest => Resource.preamble

/-- The `resource_type` the constructor gives the kind's map. -/
def resourceType : ResourceKind → String
  | table => "Table"
  | action => "Action"
  | actionProfile => "Action-Profile"
  | counter => "Counter"
  | directCounter => "Direct-Counter"
  | meter => "Meter"
  | directMeter => "Direct-Meter"
  | valueSet => "ValueSet"
  | register => "Register"
  | digest => "Digest"

/-- The kinds in the order `InitializeAndVerify` builds their maps. -/
def all : List ResourceKind :=
  [table, action, actionProfile, counter, directCounter, meter, directMeter, valueSet, register,
    digest]

theorem nodup_all : all.Nodup := by decide

theorem mem_all (k : ResourceKind) : k ∈ all := by
  cases k <;> decide

end ResourceKind

/-- `P4Info`: the resources of the ten kinds. -/
structure P4Info where
  tables : List Table
  actions : List Resource
  actionProfiles : List Resource
  counters : List Resource
  directCounters : List Resource
  meters : List Resource
  directMeters : List Resource
  valueSets : List Resource
  registers : List Resource
  digests : List Resource

/-- The resources of one kind: `p4_info_.tables()` and so on. -/
def P4Info.resources (p4Info : P4Info) : (k : ResourceKind) → List k.Message
  | .table => p4Info.tables
  | .action => p4Info.actions
  | .actionProfile => p4Info.actionProfiles
  | .counter => p4Info.counters
  | .directCounter => p4Info.directCounters
  | .meter => p4Info.meters
  | .directMeter => p4Info.directMeters
  | .valueSet => p4Info.valueSets
  | .register => p4Info.registers
  | .digest => p4Info.digests

/-- The preambles of the resources of one kind. -/
def P4Info.kindPreambles (p4Info : P4Info) (k : ResourceKind) : List Preamble :=
  (p4Info.resources k).map k.preamble

/-- Every preamble of the P4Info, kind by kind in the order the maps are
built. -/
def P4Info.preambles (p4Info : P4Info) : List Preamble :=
  ResourceKind.all.flatMap p4Info.kindPreambles

theorem P4Info.kindPreambles_sublist (p4Info : P4Info) (k : ResourceKind) :
    (p4Info.kindPreambles k).Sublist p4Info.preambles := by
  rw [P4Info.preambles, List.flatMap_def]
  exact List.sublist_flatten_of_mem (List.mem_map_of_mem (ResourceKind.mem_all k))

/-- Keys distinct across all preambles are distinct within each kind. -/
theorem P4Info.nodup_kind {β : Type} {key : Preamble → β} {p4Info : P4Info}
    (h : (p4Info.preambles.map key).Nodup) (k : ResourceKind) :
    ((p4Info.resources k).map fun r => key (k.preamble r)).Nodup := by
  have hkind := h.sublist ((p4Info.kindPreambles_sublist k).map key)
  rwa [P4Info.kindPreambles, List.map_map] at hkind

/-- What `InitializeAndVerify` is to accept: a table and an action, every
preamble with an ID and a name, IDs distinct and names distinct across all
kinds, and every action a table refers to present. -/
structure P4Info.WellFormed (p4Info : P4Info) : Prop where
  tables_ne_nil : p4Info.tables ≠ []
  actions_ne_nil : p4Info.actions ≠ []
  preambles_valid : ∀ p ∈ p4Info.preambles, p.id ≠ 0 ∧ p.name ≠ ""
  ids_nodup : (p4Info.preambles.map Preamble.id).Nodup
  names_nodup : (p4Info.preambles.map Preamble.name).Nodup
  actionRefs_valid :
    ∀ table ∈ p4Info.tables, ∀ actionRef ∈ table.actionRefs,
      ∃ action ∈ p4Info.actions, action.preamble.id = actionRef

theorem P4Info.wellFormed_iff (p4Info : P4Info) :
    p4Info.WellFormed ↔
      p4Info.tables ≠ [] ∧ p4Info.actions ≠ [] ∧
        (∀ p ∈ p4Info.preambles, p.id ≠ 0 ∧ p.name ≠ "") ∧
        (p4Info.preambles.map Preamble.id).Nodup ∧ (p4Info.preambles.map Preamble.name).Nodup ∧
        ∀ table ∈ p4Info.tables, ∀ actionRef ∈ table.actionRefs,
          ∃ action ∈ p4Info.actions, action.preamble.id = actionRef :=
  ⟨fun ⟨h1, h2, h3, h4, h5, h6⟩ => ⟨h1, h2, h3, h4, h5, h6⟩,
    fun ⟨h1, h2, h3, h4, h5, h6⟩ => ⟨h1, h2, h3, h4, h5, h6⟩⟩

instance (p4Info : P4Info) : Decidable p4Info.WellFormed :=
  decidable_of_iff _ (P4Info.wellFormed_iff p4Info).symm

/-! ## `P4ResourceMap` -/

/-- `P4InfoManager::P4ResourceMap<T>`: the resources of one kind by ID and
by name (`absl::flat_hash_map`s of pointers into the P4Info). -/
structure P4ResourceMap (α : Type) where
  resourceType : String
  idToResourceMap : Nat → Option α
  nameToResourceMap : String → Option α

namespace P4ResourceMap

variable {α σ : Type} (preamble : α → Preamble)

/-- The map as the constructor leaves it. -/
def empty (resourceType : String) : P4ResourceMap α :=
  ⟨resourceType, fun _ => none, fun _ => none⟩

/-- `AddIdMapEntry`: `emplace`, which keeps an entry already at the ID. -/
def addIdMapEntry (m : P4ResourceMap α) (p4Resource : α) : P4ResourceMap α :=
  { m with idToResourceMap := insertIfAbsent m.idToResourceMap (preamble p4Resource).id p4Resource }

/-- `AddNameMapEntry`: `emplace`, which keeps an entry already at the name. -/
def addNameMapEntry (m : P4ResourceMap α) (p4Resource : α) : P4ResourceMap α :=
  { m with
    nameToResourceMap := insertIfAbsent m.nameToResourceMap (preamble p4Resource).name p4Resource }

/-- One pass of the loop of `BuildMaps`: a resource whose preamble the
callback accepts is entered in both maps, and the callback's error is
appended otherwise. -/
def buildMapsStep (preambleCb : Preamble → String → σ → StatusOr Unit × σ)
    (acc : StatusOr Unit × P4ResourceMap α × σ) (resource : α) :
    StatusOr Unit × P4ResourceMap α × σ :=
  let (status, m, s) := acc
  let preambleResult := preambleCb (preamble resource) m.resourceType s
  match preambleResult.1 with
  | .ok () =>
      (status, (m.addIdMapEntry preamble resource).addNameMapEntry preamble resource,
        preambleResult.2)
  | .error _ => (appendStatusIfError status preambleResult.1, m, preambleResult.2)

/-- `BuildMaps`, with the state `s` the callback reads and changes. -/
def buildMaps (m : P4ResourceMap α) (p4Resources : List α)
    (preambleCb : Preamble → String → σ → StatusOr Unit × σ) (s : σ) :
    StatusOr Unit × P4ResourceMap α × σ :=
  p4Resources.foldl (buildMapsStep preamble preambleCb) (.ok (), m, s)

/-- A pass of `BuildMaps` never turns an error into OK. -/
theorem buildMapsStep_fst_eq_ok {preambleCb : Preamble → String → σ → StatusOr Unit × σ}
    {acc : StatusOr Unit × P4ResourceMap α × σ} {resource : α}
    (h : (buildMapsStep preamble preambleCb acc resource).1 = .ok ()) : acc.1 = .ok () := by
  obtain ⟨status, m, s⟩ := acc
  simp only [buildMapsStep] at h
  split at h
  · exact h
  · exact (appendStatusIfError_eq_ok_iff.mp h).1

/-- The callback's state after a pass is what the callback made of it. -/
theorem buildMapsStep_state (preambleCb : Preamble → String → σ → StatusOr Unit × σ)
    (acc : StatusOr Unit × P4ResourceMap α × σ) (resource : α) :
    (buildMapsStep preamble preambleCb acc resource).2.2 =
      (preambleCb (preamble resource) acc.2.1.resourceType acc.2.2).2 := by
  obtain ⟨status, m, s⟩ := acc
  simp only [buildMapsStep]
  split <;> rfl

/-- `FindByID`. -/
def findByID (m : P4ResourceMap α) (id : Nat) : StatusOr α :=
  match m.idToResourceMap id with
  | some resource => .ok resource
  | none =>
      .error ⟨.errInvalidP4Info,
        "P4Info " ++ m.resourceType ++ " ID " ++ printP4ObjectId id ++ " is not found"⟩

/-- `FindByName`. -/
def findByName (m : P4ResourceMap α) (name : String) : StatusOr α :=
  match m.nameToResourceMap name with
  | some resource => .ok resource
  | none =>
      .error ⟨.errInvalidP4Info, "P4Info " ++ m.resourceType ++ " name " ++ name ++ " is not found"⟩

/-- Both map entries of every resource of a list, first to last. -/
def addAll (m : P4ResourceMap α) (p4Resources : List α) : P4ResourceMap α :=
  p4Resources.foldl
    (fun m resource => (m.addIdMapEntry preamble resource).addNameMapEntry preamble resource) m

@[simp] theorem resourceType_empty (resourceType : String) :
    (empty resourceType : P4ResourceMap α).resourceType = resourceType := rfl

@[simp] theorem idToResourceMap_empty (resourceType : String) :
    (empty resourceType : P4ResourceMap α).idToResourceMap = fun _ => none := rfl

@[simp] theorem nameToResourceMap_empty (resourceType : String) :
    (empty resourceType : P4ResourceMap α).nameToResourceMap = fun _ => none := rfl

@[simp] theorem resourceType_addAll (m : P4ResourceMap α) (p4Resources : List α) :
    (m.addAll preamble p4Resources).resourceType = m.resourceType := by
  induction p4Resources generalizing m with
  | nil => rfl
  | cons r rs ih => exact ih ((m.addIdMapEntry preamble r).addNameMapEntry preamble r)

theorem idToResourceMap_addAll (m : P4ResourceMap α) (p4Resources : List α) :
    (m.addAll preamble p4Resources).idToResourceMap =
      insertAllIfAbsent m.idToResourceMap (p4Resources.map fun r => ((preamble r).id, r)) := by
  induction p4Resources generalizing m with
  | nil => rfl
  | cons r rs ih => exact ih ((m.addIdMapEntry preamble r).addNameMapEntry preamble r)

theorem nameToResourceMap_addAll (m : P4ResourceMap α) (p4Resources : List α) :
    (m.addAll preamble p4Resources).nameToResourceMap =
      insertAllIfAbsent m.nameToResourceMap (p4Resources.map fun r => ((preamble r).name, r)) := by
  induction p4Resources generalizing m with
  | nil => rfl
  | cons r rs ih => exact ih ((m.addIdMapEntry preamble r).addNameMapEntry preamble r)

section Lookups

variable {p4Resources : List α} (resourceType : String)

/-- With distinct IDs, every resource is found at its ID. -/
theorem findByID_addAll_of_mem (hnodup : (p4Resources.map fun r => (preamble r).id).Nodup)
    {r : α} (hr : r ∈ p4Resources) :
    ((empty resourceType).addAll preamble p4Resources).findByID (preamble r).id = .ok r := by
  rw [findByID, idToResourceMap_addAll, idToResourceMap_empty,
    insertAllIfAbsent_none_key hnodup hr]

theorem findByID_addAll_of_not_mem {id : Nat} (hid : id ∉ p4Resources.map fun r => (preamble r).id) :
    ((empty resourceType).addAll preamble p4Resources).findByID id =
      .error ⟨.errInvalidP4Info,
        "P4Info " ++ resourceType ++ " ID " ++ printP4ObjectId id ++ " is not found"⟩ := by
  rw [findByID, idToResourceMap_addAll, idToResourceMap_empty,
    insertAllIfAbsent_none_of_not_mem hid, resourceType_addAll, resourceType_empty]

/-- With distinct names, every resource is found at its name. -/
theorem findByName_addAll_of_mem (hnodup : (p4Resources.map fun r => (preamble r).name).Nodup)
    {r : α} (hr : r ∈ p4Resources) :
    ((empty resourceType).addAll preamble p4Resources).findByName (preamble r).name = .ok r := by
  rw [findByName, nameToResourceMap_addAll, nameToResourceMap_empty,
    insertAllIfAbsent_none_key hnodup hr]

theorem findByName_addAll_of_not_mem {name : String}
    (hname : name ∉ p4Resources.map fun r => (preamble r).name) :
    ((empty resourceType).addAll preamble p4Resources).findByName name =
      .error ⟨.errInvalidP4Info, "P4Info " ++ resourceType ++ " name " ++ name ++ " is not found"⟩ := by
  rw [findByName, nameToResourceMap_addAll, nameToResourceMap_empty,
    insertAllIfAbsent_none_of_not_mem hname, resourceType_addAll, resourceType_empty]

/-- With distinct IDs, an ID is found exactly when a resource has it. -/
theorem exists_findByID_addAll_iff (hnodup : (p4Resources.map fun r => (preamble r).id).Nodup)
    (id : Nat) :
    (∃ r, ((empty resourceType).addAll preamble p4Resources).findByID id = .ok r) ↔
      ∃ r ∈ p4Resources, (preamble r).id = id := by
  constructor
  · rintro ⟨r, hr⟩
    by_contra hnone
    have hid : id ∉ p4Resources.map fun r => (preamble r).id := by
      simpa [List.mem_map] using hnone
    rw [findByID_addAll_of_not_mem preamble resourceType hid] at hr
    cases hr
  · rintro ⟨r, hr, rfl⟩
    exact ⟨r, findByID_addAll_of_mem preamble resourceType hnodup hr⟩

end Lookups

end P4ResourceMap

/-! ## `P4InfoManager` -/

/-- The state of a `P4InfoManager`: its P4Info, the map of each kind, and
the IDs and the preambles (by name) seen so far by `ProcessPreamble`. -/
structure P4InfoManager where
  p4Info : P4Info
  maps : (k : ResourceKind) → P4ResourceMap k.Message
  allResourceIds : KeyedSet (id : Nat → Nat)
  allResourceNames : KeyedSet Preamble.name

namespace P4InfoManager

/-- The constructor `P4InfoManager(p4_info)`. -/
def ofP4Info (p4Info : P4Info) : P4InfoManager :=
  ⟨p4Info, fun k => P4ResourceMap.empty k.resourceType, KeyedSet.empty, KeyedSet.empty⟩

/-- The shape of `VerifyID` and `VerifyName`: an error saying what the
preamble lacks. -/
def verifyPreambleField (missing : Bool) (requirement resourceType : String) : StatusOr Unit :=
  if missing then
    .error ⟨.errInvalidP4Info, "P4Info " ++ resourceType ++ " requires " ++ requirement ++ " in preamble"⟩
  else .ok ()

/-- `VerifyID`. -/
def verifyID (preamble : Preamble) (resourceType : String) : StatusOr Unit :=
  verifyPreambleField (preamble.id == 0) "a non-zero ID" resourceType

/-- `VerifyName`. -/
def verifyName (preamble : Preamble) (resourceType : String) : StatusOr Unit :=
  verifyPreambleField preamble.name.isEmpty "a non-empty name" resourceType

/-- `ProcessPreamble`: a preamble with an ID and a name has both entered in
the sets shared by all kinds, and each one already there is reported. -/
def processPreamble (preamble : Preamble) (resourceType : String) (mgr : P4InfoManager) :
    StatusOr Unit × P4InfoManager :=
  let status := appendStatusIfError (verifyID preamble resourceType) (verifyName preamble resourceType)
  match status with
  | .error _ => (status, mgr)
  | .ok () =>
      let idResult := mgr.allResourceIds.insert preamble.id
      let status :=
        if idResult.2 then status
        else
          appendStatusIfError status (.error ⟨.errInvalidP4Info,
            "P4Info " ++ resourceType ++ " ID " ++ printP4ObjectId preamble.id ++ " is not unique"⟩)
      -- the name is entered even when the ID was a duplicate
      let nameResult := mgr.allResourceNames.insert preamble
      let status :=
        if nameResult.2 then status
        else
          appendStatusIfError status (.error ⟨.errInvalidP4Info,
            "P4Info " ++ resourceType ++ " name " ++ preamble.name ++ " is not unique"⟩)
      (status, { mgr with allResourceIds := idResult.1, allResourceNames := nameResult.1 })

theorem verifyPreambleField_eq_ok_iff {missing : Bool} {requirement resourceType : String} :
    verifyPreambleField missing requirement resourceType = .ok () ↔ missing = false := by
  cases missing <;> simp [verifyPreambleField]

/-- A preamble's own checks pass when it has an ID and a name. -/
theorem verifyID_verifyName_eq_ok_iff (preamble : Preamble) (resourceType : String) :
    appendStatusIfError (verifyID preamble resourceType) (verifyName preamble resourceType) =
        .ok () ↔ preamble.id ≠ 0 ∧ preamble.name ≠ "" := by
  rw [appendStatusIfError_eq_ok_iff, verifyID, verifyName, verifyPreambleField_eq_ok_iff,
    verifyPreambleField_eq_ok_iff, beq_eq_false_iff_ne, Bool.eq_false_iff, ne_eq, ne_eq,
    String.isEmpty_iff]

@[simp] theorem p4Info_processPreamble (preamble : Preamble) (resourceType : String)
    (mgr : P4InfoManager) : (processPreamble preamble resourceType mgr).2.p4Info = mgr.p4Info := by
  simp only [processPreamble]
  split <;> rfl

@[simp] theorem maps_processPreamble (preamble : Preamble) (resourceType : String)
    (mgr : P4InfoManager) : (processPreamble preamble resourceType mgr).2.maps = mgr.maps := by
  simp only [processPreamble]
  split <;> rfl

/-- `ProcessPreamble` passes a preamble with an ID and a name that were not
seen before. -/
theorem processPreamble_eq_ok_iff (preamble : Preamble) (resourceType : String)
    (mgr : P4InfoManager) :
    (processPreamble preamble resourceType mgr).1 = .ok () ↔
      (preamble.id ≠ 0 ∧ preamble.name ≠ "") ∧ preamble.id ∉ mgr.allResourceIds.keys ∧
        preamble.name ∉ mgr.allResourceNames.keys := by
  have hid := KeyedSet.insert_snd_eq_true_iff mgr.allResourceIds preamble.id
  have hname := KeyedSet.insert_snd_eq_true_iff mgr.allResourceNames preamble
  rw [id_eq] at hid
  rw [← verifyID_verifyName_eq_ok_iff preamble resourceType, ← hid, ← hname]
  simp only [processPreamble]
  split
  · next e hverify => simp [hverify]
  · next hverify =>
      -- the two insertions each append an error when they find their key
      cases (mgr.allResourceIds.insert preamble.id).2 <;>
        cases (mgr.allResourceNames.insert preamble).2 <;> simp [appendStatusIfError_eq_ok_iff]

/-- After a passed preamble the seen IDs and names end with its own. -/
theorem keys_processPreamble {preamble : Preamble} {resourceType : String} {mgr : P4InfoManager}
    (h : (processPreamble preamble resourceType mgr).1 = .ok ()) :
    (processPreamble preamble resourceType mgr).2.allResourceIds.keys =
        mgr.allResourceIds.keys ++ [preamble.id] ∧
      (processPreamble preamble resourceType mgr).2.allResourceNames.keys =
        mgr.allResourceNames.keys ++ [preamble.name] := by
  obtain ⟨hvalid, hid, hname⟩ := (processPreamble_eq_ok_iff preamble resourceType mgr).mp h
  have hverify := (verifyID_verifyName_eq_ok_iff preamble resourceType).mpr hvalid
  simp only [processPreamble, hverify]
  constructor
  · rw [KeyedSet.keys_eq, KeyedSet.elems_insert_of_not_mem hid, List.map_append,
      ← KeyedSet.keys_eq]
    rfl
  · rw [KeyedSet.keys_eq, KeyedSet.elems_insert_of_not_mem hname, List.map_append,
      ← KeyedSet.keys_eq]
    rfl

/-! ## Runs of `ProcessPreamble` -/

/-- Preambles that `ProcessPreamble` passes one after another once the IDs
`ids` and the names `names` were seen: each has an ID and a name, and all IDs
and all names are distinct, also from those seen. -/
def Admissible (ids : List Nat) (names : List String) (preambles : List Preamble) : Prop :=
  (∀ p ∈ preambles, p.id ≠ 0 ∧ p.name ≠ "") ∧ (ids ++ preambles.map Preamble.id).Nodup ∧
    (names ++ preambles.map Preamble.name).Nodup

theorem nodup_append_cons_iff {β : Type} {l l' : List β} {a : β} :
    (l ++ a :: l').Nodup ↔ a ∉ l ∧ (l ++ [a] ++ l').Nodup := by
  rw [List.append_assoc, List.singleton_append]
  constructor
  · intro h
    refine ⟨fun ha => ?_, h⟩
    rw [List.nodup_middle, List.nodup_cons] at h
    exact h.1 (List.mem_append_left _ ha)
  · exact And.right

/-- Nothing is left to pass after the seen sets, whose keys are distinct. -/
theorem admissible_nil (mgr : P4InfoManager) :
    Admissible mgr.allResourceIds.keys mgr.allResourceNames.keys [] := by
  refine ⟨fun p hp => absurd hp List.not_mem_nil, ?_, ?_⟩
  · rw [List.map_nil, List.append_nil]
    exact mgr.allResourceIds.nodup_keys
  · rw [List.map_nil, List.append_nil]
    exact mgr.allResourceNames.nodup_keys

theorem admissible_cons_iff {ids : List Nat} {names : List String} {p : Preamble}
    {ps : List Preamble} :
    Admissible ids names (p :: ps) ↔
      ((p.id ≠ 0 ∧ p.name ≠ "") ∧ p.id ∉ ids ∧ p.name ∉ names) ∧
        Admissible (ids ++ [p.id]) (names ++ [p.name]) ps := by
  simp only [Admissible, List.forall_mem_cons, List.map_cons, nodup_append_cons_iff]
  tauto

theorem admissible_append_iff {ids : List Nat} {names : List String} {ps qs : List Preamble} :
    Admissible ids names (ps ++ qs) ↔
      Admissible ids names ps ∧
        Admissible (ids ++ ps.map Preamble.id) (names ++ ps.map Preamble.name) qs := by
  induction ps generalizing ids names with
  | nil =>
      -- what passes after nothing needs the seen sets distinct, which it implies
      rw [List.nil_append, List.map_nil, List.append_nil, List.map_nil, List.append_nil]
      refine ⟨fun h => ⟨⟨fun p hp => absurd hp List.not_mem_nil, ?_, ?_⟩, h⟩, And.right⟩
      · rw [List.map_nil, List.append_nil]
        exact h.2.1.sublist (List.sublist_append_left _ _)
      · rw [List.map_nil, List.append_nil]
        exact h.2.2.sublist (List.sublist_append_left _ _)
  | cons p ps ih =>
      rw [List.cons_append, admissible_cons_iff, ih, admissible_cons_iff]
      simp only [List.map_cons, List.append_assoc, List.singleton_append, and_assoc]

section BuildMaps

variable {α : Type} (preamble : α → Preamble)

/-- A passed preamble enters its resource, and the run goes on from the
state `ProcessPreamble` left. -/
theorem buildMaps_cons_of_eq_ok {m : P4ResourceMap α} {r : α} {rs : List α} {mgr : P4InfoManager}
    (hpass : (processPreamble (preamble r) m.resourceType mgr).1 = .ok ()) :
    m.buildMaps preamble (r :: rs) processPreamble mgr =
      ((m.addIdMapEntry preamble r).addNameMapEntry preamble r).buildMaps preamble rs
        processPreamble (processPreamble (preamble r) m.resourceType mgr).2 := by
  simp only [P4ResourceMap.buildMaps, List.foldl_cons, P4ResourceMap.buildMapsStep, hpass]

/-- A `BuildMaps` run through `ProcessPreamble` reports OK exactly when the
preambles are admissible after the IDs and names seen. -/
theorem buildMaps_processPreamble_eq_ok_iff :
    ∀ (p4Resources : List α) (m : P4ResourceMap α) (mgr : P4InfoManager),
      (m.buildMaps preamble p4Resources processPreamble mgr).1 = .ok () ↔
        Admissible mgr.allResourceIds.keys mgr.allResourceNames.keys (p4Resources.map preamble)
  | [], _, mgr => iff_of_true rfl (admissible_nil mgr)
  | r :: rs, m, mgr => by
      rw [List.map_cons, admissible_cons_iff,
        ← processPreamble_eq_ok_iff (preamble r) m.resourceType mgr]
      by_cases hpass : (processPreamble (preamble r) m.resourceType mgr).1 = .ok ()
      · obtain ⟨hids, hnames⟩ := keys_processPreamble hpass
        rw [buildMaps_cons_of_eq_ok preamble hpass, buildMaps_processPreamble_eq_ok_iff rs, hids,
          hnames]
        exact ⟨fun h => ⟨hpass, h⟩, And.right⟩
      · -- the first error is appended and stays to the end of the run
        have hstep : (P4ResourceMap.buildMapsStep preamble processPreamble (.ok (), m, mgr) r).1 ≠
            .ok () := by
          simp only [P4ResourceMap.buildMapsStep]
          split
          · next hok => exact absurd hok hpass
          · intro h
            exact hpass (appendStatusIfError_eq_ok_iff.mp h).2
        have hfail : (m.buildMaps preamble (r :: rs) processPreamble mgr).1 ≠ .ok () := fun h =>
          hstep (foldl_fst_eq_ok _ (fun _ _ => P4ResourceMap.buildMapsStep_fst_eq_ok preamble) rs _ h)
        exact iff_of_false hfail fun h => hpass h.1

/-- A run that reports OK enters every resource in the maps and every
preamble in the seen sets. -/
theorem buildMaps_processPreamble_of_eq_ok :
    ∀ (p4Resources : List α) (m : P4ResourceMap α) (mgr : P4InfoManager),
      (m.buildMaps preamble p4Resources processPreamble mgr).1 = .ok () →
        (m.buildMaps preamble p4Resources processPreamble mgr).2.1 = m.addAll preamble p4Resources ∧
        (m.buildMaps preamble p4Resources processPreamble mgr).2.2.allResourceIds.keys =
          mgr.allResourceIds.keys ++ (p4Resources.map preamble).map Preamble.id ∧
        (m.buildMaps preamble p4Resources processPreamble mgr).2.2.allResourceNames.keys =
          mgr.allResourceNames.keys ++ (p4Resources.map preamble).map Preamble.name
  | [], _, _, _ => ⟨rfl, (List.append_nil _).symm, (List.append_nil _).symm⟩
  | r :: rs, m, mgr, h => by
      have hpass : (processPreamble (preamble r) m.resourceType mgr).1 = .ok () := by
        rw [buildMaps_processPreamble_eq_ok_iff, List.map_cons, admissible_cons_iff] at h
        exact (processPreamble_eq_ok_iff _ _ _).mpr h.1
      obtain ⟨hids, hnames⟩ := keys_processPreamble hpass
      rw [buildMaps_cons_of_eq_ok preamble hpass] at h ⊢
      obtain ⟨hmap, hI, hN⟩ := buildMaps_processPreamble_of_eq_ok rs _ _ h
      refine ⟨hmap, ?_, ?_⟩
      · rw [hI, hids, List.map_cons, List.map_cons, List.append_assoc, List.singleton_append]
      · rw [hN, hnames, List.map_cons, List.map_cons, List.append_assoc, List.singleton_append]

/-- A run leaves the P4Info and the maps of the manager as they were. -/
theorem foldl_buildMapsStep_frame :
    ∀ (p4Resources : List α) (acc : StatusOr Unit × P4ResourceMap α × P4InfoManager),
      (p4Resources.foldl (P4ResourceMap.buildMapsStep preamble processPreamble) acc).2.2.p4Info =
          acc.2.2.p4Info ∧
        (p4Resources.foldl (P4ResourceMap.buildMapsStep preamble processPreamble) acc).2.2.maps =
          acc.2.2.maps
  | [], _ => ⟨rfl, rfl⟩
  | r :: rs, acc => by
      obtain ⟨hinfo, hmaps⟩ :=
        foldl_buildMapsStep_frame rs (P4ResourceMap.buildMapsStep preamble processPreamble acc r)
      rw [List.foldl_cons, hinfo, hmaps, P4ResourceMap.buildMapsStep_state, p4Info_processPreamble,
        maps_processPreamble]
      exact ⟨rfl, rfl⟩

@[simp] theorem p4Info_buildMaps (m : P4ResourceMap α) (p4Resources : List α) (mgr : P4InfoManager) :
    (m.buildMaps preamble p4Resources processPreamble mgr).2.2.p4Info = mgr.p4Info :=
  (foldl_buildMapsStep_frame preamble p4Resources _).1

@[simp] theorem maps_buildMaps (m : P4ResourceMap α) (p4Resources : List α) (mgr : P4InfoManager) :
    (m.buildMaps preamble p4Resources processPreamble mgr).2.2.maps = mgr.maps :=
  (foldl_buildMapsStep_frame preamble p4Resources _).2

end BuildMaps

/-- `VerifyRequiredObjects`, with `FLAGS_skip_p4_min_objects_check`. -/
def verifyRequiredObjects (skipP4MinObjectsCheck : Bool) (mgr : P4InfoManager) : StatusOr Unit :=
  if skipP4MinObjectsCheck then .ok ()
  else
    let missingObjects :=
      (if mgr.p4Info.tables.isEmpty then " " ++ (mgr.maps .table).resourceType ++ "s" else "") ++
        (if mgr.p4Info.actions.isEmpty then " " ++ (mgr.maps .action).resourceType ++ "s" else "")
    if missingObjects.isEmpty then .ok ()
    else .error ⟨.errInternal, "P4Info is missing these required resources:" ++ missingObjects⟩

/-- The inner loop of `VerifyTableXrefs`: every action reference of a table
must be found in the action map. -/
def verifyActionRefs (mgr : P4InfoManager) (status : StatusOr Unit) (table : Table) : StatusOr Unit :=
  table.actionRefs.foldl (fun status actionRef =>
    match (mgr.maps .action).findByID actionRef with
    | .ok _ => status
    | .error _ =>
        appendStatusIfError status (.error ⟨.errInvalidP4Info,
          "P4Info Table " ++ table.preamble.name ++ " refers to an invalid " ++
            (mgr.maps .action).resourceType ++ " with ID " ++ printP4ObjectId actionRef⟩)) status

/-- One table of `VerifyTableXrefs`: a table missing from the table map,
which failed the first pass, is skipped. -/
def verifyTableXref (mgr : P4InfoManager) (status : StatusOr Unit) (table : Table) : StatusOr Unit :=
  match (mgr.maps .table).findByID table.preamble.id with
  | .error _ => status
  | .ok _ => mgr.verifyActionRefs status table

/-- `VerifyTableXrefs`. -/
def verifyTableXrefs (mgr : P4InfoManager) : StatusOr Unit :=
  mgr.p4Info.tables.foldl mgr.verifyTableXref (.ok ())

/-- One `BuildMaps` call of `InitializeAndVerify`: the maps of kind `k`,
through `ProcessPreamble`, with their errors appended. -/
def buildKindMaps (acc : StatusOr Unit × P4InfoManager) (k : ResourceKind) :
    StatusOr Unit × P4InfoManager :=
  let (status, mgr) := acc
  let built := (mgr.maps k).buildMaps k.preamble (mgr.p4Info.resources k) processPreamble mgr
  (appendStatusIfError status built.1, { built.2.2 with maps := update built.2.2.maps k built.2.1 })

/-- `InitializeAndVerify`. -/
def initializeAndVerify (skipP4MinObjectsCheck : Bool) (mgr : P4InfoManager) :
    StatusOr Unit × P4InfoManager :=
  if !mgr.allResourceIds.elems.isEmpty || !mgr.allResourceNames.elems.isEmpty then
    (.error ⟨.errInternal, "P4Info is already initialized"⟩, mgr)
  else
    let status := appendStatusIfError (.ok ()) (mgr.verifyRequiredObjects skipP4MinObjectsCheck)
    let built := ResourceKind.all.foldl buildKindMaps (status, mgr)
    (appendStatusIfError built.1 built.2.verifyTableXrefs, built.2)

/-! ## The checks around the maps -/

theorem verifyRequiredObjects_eq_ok_iff (mgr : P4InfoManager) :
    mgr.verifyRequiredObjects false = .ok () ↔ mgr.p4Info.tables ≠ [] ∧ mgr.p4Info.actions ≠ [] := by
  unfold verifyRequiredObjects
  cases mgr.p4Info.tables <;> cases mgr.p4Info.actions <;> simp

theorem verifyActionRefs_eq_ok_iff (mgr : P4InfoManager) (status : StatusOr Unit) (table : Table) :
    mgr.verifyActionRefs status table = .ok () ↔
      status = .ok () ∧
        ∀ actionRef ∈ table.actionRefs, ∃ action, (mgr.maps .action).findByID actionRef = .ok action := by
  refine foldl_eq_ok_iff _ _ (fun status actionRef => ?_) _ _
  cases (mgr.maps .action).findByID actionRef with
  | ok action => simp
  | error e => simp [appendStatusIfError_eq_ok_iff]

theorem verifyTableXref_eq_ok_iff (mgr : P4InfoManager) (status : StatusOr Unit) (table : Table) :
    mgr.verifyTableXref status table = .ok () ↔
      status = .ok () ∧
        ((∃ t, (mgr.maps .table).findByID table.preamble.id = .ok t) →
          ∀ actionRef ∈ table.actionRefs, ∃ action, (mgr.maps .action).findByID actionRef = .ok action) := by
  unfold verifyTableXref
  cases (mgr.maps .table).findByID table.preamble.id with
  | error e => simp
  | ok t => simp [verifyActionRefs_eq_ok_iff]

/-- `VerifyTableXrefs` passes when every table found in the table map refers
only to actions found in the action map. -/
theorem verifyTableXrefs_eq_ok_iff (mgr : P4InfoManager) :
    mgr.verifyTableXrefs = .ok () ↔
      ∀ table ∈ mgr.p4Info.tables, (∃ t, (mgr.maps .table).findByID table.preamble.id = .ok t) →
        ∀ actionRef ∈ table.actionRefs, ∃ action, (mgr.maps .action).findByID actionRef = .ok action := by
  rw [verifyTableXrefs, foldl_eq_ok_iff _ _ (verifyTableXref_eq_ok_iff mgr)]
  exact and_iff_right rfl

/-! ## The run over the resource kinds -/

@[simp] theorem fst_buildKindMaps (status : StatusOr Unit) (mgr : P4InfoManager) (k : ResourceKind) :
    (buildKindMaps (status, mgr) k).1 =
      appendStatusIfError status
        ((mgr.maps k).buildMaps k.preamble (mgr.p4Info.resources k) processPreamble mgr).1 :=
  rfl

@[simp] theorem p4Info_buildKindMaps (status : StatusOr Unit) (mgr : P4InfoManager)
    (k : ResourceKind) : (buildKindMaps (status, mgr) k).2.p4Info = mgr.p4Info :=
  p4Info_buildMaps _ _ _ _

theorem maps_buildKindMaps (status : StatusOr Unit) (mgr : P4InfoManager) (k : ResourceKind) :
    (buildKindMaps (status, mgr) k).2.maps =
      update mgr.maps k ((mgr.maps k).buildMaps k.preamble (mgr.p4Info.resources k) processPreamble mgr).2.1 := by
  show update _ k _ = _
  rw [maps_buildMaps]

theorem buildKindMaps_fst_eq_ok {acc : StatusOr Unit × P4InfoManager} {k : ResourceKind}
    (h : (buildKindMaps acc k).1 = .ok ()) : acc.1 = .ok () := by
  obtain ⟨status, mgr⟩ := acc
  rw [fst_buildKindMaps] at h
  exact (appendStatusIfError_eq_ok_iff.mp h).1

/-- The run leaves the P4Info, and the maps of every kind it does not build. -/
theorem foldl_buildKindMaps_frame :
    ∀ (ks : List ResourceKind) (acc : StatusOr Unit × P4InfoManager),
      (ks.foldl buildKindMaps acc).2.p4Info = acc.2.p4Info ∧
        ∀ k ∉ ks, (ks.foldl buildKindMaps acc).2.maps k = acc.2.maps k
  | [], _ => ⟨rfl, fun _ _ => rfl⟩
  | k :: ks, ⟨status, mgr⟩ => by
      obtain ⟨hinfo, hmaps⟩ := foldl_buildKindMaps_frame ks (buildKindMaps (status, mgr) k)
      refine ⟨by rw [List.foldl_cons, hinfo, p4Info_buildKindMaps], fun k' hk' => ?_⟩
      rw [List.mem_cons, not_or] at hk'
      rw [List.foldl_cons, hmaps k' hk'.2, maps_buildKindMaps, update_of_ne hk'.1]

/-- After an OK kind the run goes on with an OK status. -/
theorem buildKindMaps_of_eq_ok {mgr : P4InfoManager} {k : ResourceKind}
    (hpass : ((mgr.maps k).buildMaps k.preamble (mgr.p4Info.resources k) processPreamble mgr).1 =
      .ok ()) :
    buildKindMaps (.ok (), mgr) k = (.ok (), (buildKindMaps (.ok (), mgr) k).2) := by
  rw [Prod.ext_iff, fst_buildKindMaps, hpass]
  exact ⟨rfl, rfl⟩

/-- The run over a list of kinds reports OK exactly when their preambles,
kind after kind, are admissible after those seen. -/
theorem foldl_buildKindMaps_eq_ok_iff :
    ∀ (ks : List ResourceKind) (mgr : P4InfoManager),
      (ks.foldl buildKindMaps (.ok (), mgr)).1 = .ok () ↔
        Admissible mgr.allResourceIds.keys mgr.allResourceNames.keys
          (ks.flatMap mgr.p4Info.kindPreambles)
  | [], mgr => iff_of_true rfl (admissible_nil mgr)
  | k :: ks, mgr => by
      have hbuilt : ((mgr.maps k).buildMaps k.preamble (mgr.p4Info.resources k) processPreamble
          mgr).1 = .ok () ↔
          Admissible mgr.allResourceIds.keys mgr.allResourceNames.keys (mgr.p4Info.kindPreambles k) :=
        buildMaps_processPreamble_eq_ok_iff k.preamble _ _ _
      rw [List.flatMap_cons, admissible_append_iff, ← hbuilt]
      by_cases hpass : ((mgr.maps k).buildMaps k.preamble (mgr.p4Info.resources k) processPreamble
          mgr).1 = .ok ()
      · obtain ⟨-, hids, hnames⟩ := buildMaps_processPreamble_of_eq_ok k.preamble _ _ _ hpass
        rw [List.foldl_cons, buildKindMaps_of_eq_ok hpass, foldl_buildKindMaps_eq_ok_iff ks,
          p4Info_buildKindMaps]
        -- the seen sets after the kind are those the `BuildMaps` run left
        have hI : (buildKindMaps (.ok (), mgr) k).2.allResourceIds.keys =
            mgr.allResourceIds.keys ++ (mgr.p4Info.kindPreambles k).map Preamble.id := hids
        have hN : (buildKindMaps (.ok (), mgr) k).2.allResourceNames.keys =
            mgr.allResourceNames.keys ++ (mgr.p4Info.kindPreambles k).map Preamble.name := hnames
        rw [hI, hN]
        exact ⟨fun h => ⟨hpass, h⟩, And.right⟩
      · have hfail : (List.foldl buildKindMaps (.ok (), mgr) (k :: ks)).1 ≠ .ok () := fun h =>
          hpass (appendStatusIfError_eq_ok_iff.mp
            (foldl_fst_eq_ok _ (fun _ _ => buildKindMaps_fst_eq_ok) ks _ h)).2
        exact iff_of_false hfail fun h => hpass h.1

/-- After an OK run the map of every kind it built holds all the resources
of the kind. -/
theorem foldl_buildKindMaps_of_eq_ok :
    ∀ (ks : List ResourceKind), ks.Nodup → ∀ (mgr : P4InfoManager),
      (ks.foldl buildKindMaps (.ok (), mgr)).1 = .ok () → ∀ k ∈ ks,
        (ks.foldl buildKindMaps (.ok (), mgr)).2.maps k =
          (mgr.maps k).addAll k.preamble (mgr.p4Info.resources k)
  | [], _, _, _, _, hk => absurd hk List.not_mem_nil
  | k :: ks, hnodup, mgr, h, k', hk' => by
      rw [List.nodup_cons] at hnodup
      have hpass : ((mgr.maps k).buildMaps k.preamble (mgr.p4Info.resources k) processPreamble
          mgr).1 = .ok () := by
        rw [foldl_buildKindMaps_eq_ok_iff, List.flatMap_cons, admissible_append_iff] at h
        exact (buildMaps_processPreamble_eq_ok_iff k.preamble _ _ _).mpr h.1
      rw [List.foldl_cons, buildKindMaps_of_eq_ok hpass] at h ⊢
      rcases List.mem_cons.mp hk' with rfl | hk'
      · -- the kind just built, whose maps the rest of the run leaves
        rw [(foldl_buildKindMaps_frame ks _).2 k' hnodup.1, maps_buildKindMaps, update_self,
          (buildMaps_processPreamble_of_eq_ok k'.preamble _ _ _ hpass).1]
      · have hne : k' ≠ k := fun heq => hnodup.1 (heq ▸ hk')
        rw [foldl_buildKindMaps_of_eq_ok ks hnodup.2 _ h k' hk', maps_buildKindMaps,
          update_of_ne hne, p4Info_buildKindMaps]

/-- `FindTableByID`. -/
def findTableByID (mgr : P4InfoManager) (tableId : Nat) : StatusOr Table :=
  (mgr.maps .table).findByID tableId

/-- `FindTableByName`. -/
def findTableByName (mgr : P4InfoManager) (tableName : String) : StatusOr Table :=
  (mgr.maps .table).findByName tableName

/-- `FindActionByID`. -/
def findActionByID (mgr : P4InfoManager) (actionId : Nat) : StatusOr Resource :=
  (mgr.maps .action).findByID actionId

/-- `FindActionByName`. -/
def findActionByName (mgr : P4InfoManager) (actionName : String) : StatusOr Resource :=
  (mgr.maps .action).findByName actionName

/-- `FindActionProfileByID`. -/
def findActionProfileByID (mgr : P4InfoManager) (profileId : Nat) : StatusOr Resource :=
  (mgr.maps .actionProfile).findByID profileId

/-- `FindActionProfileByName`. -/
def findActionProfileByName (mgr : P4InfoManager) (profileName : String) : StatusOr Resource :=
  (mgr.maps .actionProfile).findByName profileName

/-- `FindCounterByID`. -/
def findCounterByID (mgr : P4InfoManager) (counterId : Nat) : StatusOr Resource :=
  (mgr.maps .counter).findByID counterId

/-- `FindCounterByName`. -/
def findCounterByName (mgr : P4InfoManager) (counterName : String) : StatusOr Resource :=
  (mgr.maps .counter).findByName counterName

/-- `FindDirectCounterByID`. -/
def findDirectCounterByID (mgr : P4InfoManager) (counterId : Nat) : StatusOr Resource :=
  (mgr.maps .directCounter).findByID counterId

/-- `FindDirectCounterByName`. -/
def findDirectCounterByName (mgr : P4InfoManager) (counterName : String) : StatusOr Resource :=
  (mgr.maps .directCounter).findByName counterName

/-- `FindMeterByID`. -/
def findMeterByID (mgr : P4InfoManager) (meterId : Nat) : StatusOr Resource :=
  (mgr.maps .meter).findByID meterId

/-- `FindMeterByName`. -/
def findMeterByName (mgr : P4InfoManager) (meterName : String) : StatusOr Resource :=
  (mgr.maps .meter).findByName meterName

/-- `FindDirectMeterByID`. -/
def findDirectMeterByID (mgr : P4InfoManager) (meterId : Nat) : StatusOr Resource :=
  (mgr.maps .directMeter).findByID meterId

/-- `FindDirectMeterByName`. -/
def findDirectMeterByName (mgr : P4InfoManager) (meterName : String) : StatusOr Resource :=
  (mgr.maps .directMeter).findByName meterName

/-- `FindValueSetByID`. -/
def findValueSetByID (mgr : P4InfoManager) (valueSetId : Nat) : StatusOr Resource :=
  (mgr.maps .valueSet).findByID valueSetId

/-- `FindValueSetByName`. -/
def findValueSetByName (mgr : P4InfoManager) (valueSetName : String) : StatusOr Resource :=
  (mgr.maps .valueSet).findByName valueSetName

/-- `FindRegisterByID`. -/
def findRegisterByID (mgr : P4InfoManager) (registerId : Nat) : StatusOr Resource :=
  (mgr.maps .register).findByID registerId

/-- `FindRegisterByName`. -/
def findRegisterByName (mgr : P4InfoManager) (registerName : String) : StatusOr Resource :=
  (mgr.maps .register).findByName registerName

/-- `FindDigestByID`. -/
def findDigestByID (mgr : P4InfoManager) (digestId : Nat) : StatusOr Resource :=
  (mgr.maps .digest).findByID digestId

/-- `FindDigestByName`. -/
def findDigestByName (mgr : P4InfoManager) (digestName : String) : StatusOr Resource :=
  (mgr.maps .digest).findByName digestName

/-! ## The verdict of `InitializeAndVerify` -/

/-- From a fresh manager, the run over all kinds reports OK exactly when the
preambles of the P4Info are admissible from nothing seen, and then every map
holds all the resources of its kind. -/
theorem foldl_buildKindMaps_ofP4Info (p4Info : P4Info) :
    ((ResourceKind.all.foldl buildKindMaps (.ok (), ofP4Info p4Info)).1 = .ok () ↔
        Admissible [] [] p4Info.preambles) ∧
      ((ResourceKind.all.foldl buildKindMaps (.ok (), ofP4Info p4Info)).1 = .ok () →
        ∀ k, (ResourceKind.all.foldl buildKindMaps (.ok (), ofP4Info p4Info)).2.maps k =
          (P4ResourceMap.empty k.resourceType).addAll k.preamble (p4Info.resources k)) :=
  ⟨foldl_buildKindMaps_eq_ok_iff _ _, fun h k =>
    foldl_buildKindMaps_of_eq_ok _ ResourceKind.nodup_all _ h k (ResourceKind.mem_all k)⟩

/-- Over maps that hold every table and every action, with distinct IDs, the
cross-reference pass checks that every action a table refers to is present. -/
theorem verifyTableXrefs_eq_ok_iff_of_maps {mgr : P4InfoManager} {p4Info : P4Info}
    {tableType actionType : String} (hinfo : mgr.p4Info = p4Info)
    (htables : mgr.maps .table = (P4ResourceMap.empty tableType).addAll Table.preamble p4Info.tables)
    (hactions :
      mgr.maps .action = (P4ResourceMap.empty actionType).addAll Resource.preamble p4Info.actions)
    (htableIds : (p4Info.tables.map fun t => t.preamble.id).Nodup)
    (hactionIds : (p4Info.actions.map fun a => a.preamble.id).Nodup) :
    mgr.verifyTableXrefs = .ok () ↔
      ∀ table ∈ p4Info.tables, ∀ actionRef ∈ table.actionRefs,
        ∃ action ∈ p4Info.actions, action.preamble.id = actionRef := by
  rw [verifyTableXrefs_eq_ok_iff, htables, hactions, hinfo]
  refine forall₂_congr fun table htable => ?_
  -- every table is found, so its references are all checked
  have hfound := (P4ResourceMap.exists_findByID_addAll_iff Table.preamble tableType htableIds
    table.preamble.id).mpr ⟨table, htable, rfl⟩
  exact (imp_iff_right hfound).trans (forall₂_congr fun actionRef _ =>
    P4ResourceMap.exists_findByID_addAll_iff Resource.preamble actionType hactionIds actionRef)

/-- A manager fresh from its constructor goes past the "already initialized"
check. -/
theorem initializeAndVerify_ofP4Info (skipP4MinObjectsCheck : Bool) (p4Info : P4Info) :
    initializeAndVerify skipP4MinObjectsCheck (ofP4Info p4Info) =
      let built := ResourceKind.all.foldl buildKindMaps
        (appendStatusIfError (.ok ()) ((ofP4Info p4Info).verifyRequiredObjects skipP4MinObjectsCheck),
          ofP4Info p4Info)
      (appendStatusIfError built.1 built.2.verifyTableXrefs, built.2) := by
  unfold initializeAndVerify
  exact if_neg Bool.false_ne_true

/-- `InitializeAndVerify` on a fresh manager, with the minimum-objects check,
accepts exactly the well-formed P4Infos. -/
theorem initializeAndVerify_eq_ok_iff (p4Info : P4Info) :
    (initializeAndVerify false (ofP4Info p4Info)).1 = .ok () ↔ p4Info.WellFormed := by
  obtain ⟨hbuilt, hmaps⟩ := foldl_buildKindMaps_ofP4Info p4Info
  have hinfo : (ResourceKind.all.foldl buildKindMaps (.ok (), ofP4Info p4Info)).2.p4Info = p4Info :=
    (foldl_buildKindMaps_frame _ _).1
  have hrequiredIff : (ofP4Info p4Info).verifyRequiredObjects false = .ok () ↔
      p4Info.tables ≠ [] ∧ p4Info.actions ≠ [] :=
    verifyRequiredObjects_eq_ok_iff _
  rw [P4Info.wellFormed_iff, initializeAndVerify_ofP4Info]
  dsimp only
  by_cases hrequired : (ofP4Info p4Info).verifyRequiredObjects false = .ok ()
  · obtain ⟨htables, hactions⟩ := hrequiredIff.mp hrequired
    rw [hrequired, appendStatusIfError_ok, appendStatusIfError_eq_ok_iff, hbuilt]
    constructor
    · rintro ⟨hadm, hxrefs⟩
      have hx := (verifyTableXrefs_eq_ok_iff_of_maps hinfo (hmaps (hbuilt.mpr hadm) .table)
        (hmaps (hbuilt.mpr hadm) .action) (P4Info.nodup_kind hadm.2.1 .table)
        (P4Info.nodup_kind hadm.2.1 .action)).mp hxrefs
      exact ⟨htables, hactions, hadm.1, hadm.2.1, hadm.2.2, hx⟩
    · rintro ⟨-, -, hvalid, hids, hnames, hx⟩
      have hadm : Admissible [] [] p4Info.preambles := ⟨hvalid, hids, hnames⟩
      exact ⟨hadm, (verifyTableXrefs_eq_ok_iff_of_maps hinfo (hmaps (hbuilt.mpr hadm) .table)
        (hmaps (hbuilt.mpr hadm) .action) (P4Info.nodup_kind hids .table)
        (P4Info.nodup_kind hids .action)).mpr hx⟩
  · -- the missing objects' error stays to the end
    refine iff_of_false (fun h => hrequired ?_) fun h => hrequired (hrequiredIff.mpr ⟨h.1, h.2.1⟩)
    have hstart := foldl_fst_eq_ok _ (fun _ _ => buildKindMaps_fst_eq_ok) _ _
      (appendStatusIfError_eq_ok_iff.mp h).1
    exact (appendStatusIfError_eq_ok_iff.mp hstart).2

/-- After an OK run from a fresh manager, the maps of every kind hold all
the resources of the kind. -/
theorem maps_initializeAndVerify_of_eq_ok {skipP4MinObjectsCheck : Bool} {p4Info : P4Info}
    (h : (initializeAndVerify skipP4MinObjectsCheck (ofP4Info p4Info)).1 = .ok ()) (k : ResourceKind) :
    (initializeAndVerify skipP4MinObjectsCheck (ofP4Info p4Info)).2.maps k =
      (P4ResourceMap.empty k.resourceType).addAll k.preamble (p4Info.resources k) := by
  rw [initializeAndVerify_ofP4Info] at h ⊢
  dsimp only at h ⊢
  have hfold := (appendStatusIfError_eq_ok_iff.mp h).1
  -- the run could only end OK from an OK start
  have hstart : appendStatusIfError (.ok ())
      ((ofP4Info p4Info).verifyRequiredObjects skipP4MinObjectsCheck) = .ok () :=
    foldl_fst_eq_ok _ (fun _ _ => buildKindMaps_fst_eq_ok) _ _ hfold
  rw [hstart] at hfold ⊢
  exact (foldl_buildKindMaps_ofP4Info p4Info).2 hfold k

theorem p4Info_verification_exact (p4Info : P4Info) :
    let result := initializeAndVerify false (ofP4Info p4Info)
    (result.1 = .ok () ↔ p4Info.WellFormed) ∧
      (result.1 = .ok () → ∀ k : ResourceKind,
        (∀ r ∈ p4Info.resources k,
          (result.2.maps k).findByID (k.preamble r).id = .ok r ∧
            (result.2.maps k).findByName (k.preamble r).name = .ok r) ∧
        (∀ id : Nat, (∀ r ∈ p4Info.resources k, (k.preamble r).id ≠ id) →
          (result.2.maps k).findByID id =
            .error ⟨.errInvalidP4Info,
              "P4Info " ++ k.resourceType ++ " ID " ++ printP4ObjectId id ++ " is not found"⟩) ∧
        (∀ name : String, (∀ r ∈ p4Info.resources k, (k.preamble r).name ≠ name) →
          (result.2.maps k).findByName name =
            .error ⟨.errInvalidP4Info,
              "P4Info " ++ k.resourceType ++ " name " ++ name ++ " is not found"⟩)) := by
  intro result
  refine ⟨initializeAndVerify_eq_ok_iff p4Info, fun h k => ?_⟩
  have hwf := (initializeAndVerify_eq_ok_iff p4Info).mp h
  rw [maps_initializeAndVerify_of_eq_ok h k]
  refine ⟨fun r hr => ⟨?_, ?_⟩, fun id hid => ?_, fun name hname => ?_⟩
  · exact P4ResourceMap.findByID_addAll_of_mem _ _ (P4Info.nodup_kind hwf.ids_nodup k) hr
  · exact P4ResourceMap.findByName_addAll_of_mem _ _ (P4Info.nodup_kind hwf.names_nodup k) hr
  · refine P4ResourceMap.findByID_addAll_of_not_mem _ _ fun hmem => ?_
    obtain ⟨r, hr, hrid⟩ := List.mem_map.mp hmem
    exact hid r hr hrid
  · refine P4ResourceMap.findByName_addAll_of_not_mem _ _ fun hmem => ?_
    obtain ⟨r, hr, hrname⟩ := List.mem_map.mp hmem
    exact hname r hr hrname

end P4InfoManager

end Stratum.Ports.P4InfoManager
