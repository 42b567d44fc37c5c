import Stratum.Ports.SdnControllerAccess

/-!
# Wildcard reads of `SdnControllerManager`

`SdnControllerManager::ExpandWildcardsInReadRequest`
(`stratum/lib/p4runtime/sdn_controller_manager.cc`) rewrites a read request
before the switch serves it. An entity that names a P4 object (a non-zero ID)
is kept. A wildcard table, counter, meter or register read (ID `0`) becomes
one read per object of that kind in the P4Info that the request's role may
access, as `VerifyRoleCanAccessIds` decides for the object's ID alone; a
wildcard of another kind is kept.

`AllowRequest` then checks the expanded request. Its access loop stops at the
first ID the role's config refuses, and every ID the expansion adds was
admitted by the same config, so the loop stops at the same ID as on the
request itself: the two statuses are equal. The added IDs are admitted ones,
which for a configured role means listed as exclusive or shared, or `0`: an
object of ID `0` in the P4Info is admitted to every role, and its copy is a
wildcard read again.

Main results:

* `verifyIdsAgainstConfig_eq` — the access loop reports the first ID the
  config does not admit;
* `expandWildcardsInEntity_of_eq_zero` — a wildcard of the four kinds
  becomes its kind's accessible objects, in P4Info order;
* `allowReadRequest_expandWildcardsInReadRequest` — `AllowRequest` gives the
  expanded request the status it gives the request;
* `admits_of_mem_expandWildcardsInReadRequest` — what the expansion adds is
  admitted by the role's config.
-/

namespace Stratum.Ports.SdnControllerManager

open Stratum.Ports.Status Stratum.Ports.P4Runtime

/-! ## The expansion -/

/-- The loop of one case of `ExpandWildcardsInReadRequest`: a copy of the
wildcard, with the object's ID set, for each object the role may access. -/
def expandWildcard (roleName : Option String) (roleConfigs : RoleMap (Option P4RoleConfig))
    (objectIds : List Nat) (withId : Nat → Entity) : List Entity :=
  (objectIds.filter fun id => (verifyRoleCanAccessIds roleName [id] roleConfigs).isOk).map withId

/-- The entities `ExpandWildcardsInReadRequest` puts in place of one entity. -/
def expandWildcardsInEntity (roleName : Option String)
    (roleConfigs : RoleMap (Option P4RoleConfig)) (p4info : P4Info) (entity : Entity) :
    List Entity :=
  if getP4IdFromEntity entity ≠ 0 then [entity]
  else
    match entity with
    | .tableEntry e =>
        expandWildcard roleName roleConfigs (p4info.tables.map (·.id)) fun id =>
          .tableEntry { e with tableId := id }
    | .counterEntry e =>
        expandWildcard roleName roleConfigs (p4info.counters.map (·.id)) fun id =>
          .counterEntry { e with counterId := id }
    | .meterEntry e =>
        expandWildcard roleName roleConfigs (p4info.meters.map (·.id)) fun id =>
          .meterEntry { e with meterId := id }
    | .registerEntry e =>
        expandWildcard roleName roleConfigs (p4info.registers.map (·.id)) fun id =>
          .registerEntry { e with registerId := id }
    | _ => [entity]

/-- `SdnControllerManager::ExpandWildcardsInReadRequest`. -/
def expandWildcardsInReadRequest (s : State) (request : ReadRequest) (p4info : P4Info) :
    ReadRequest :=
  { request with
    entities := request.entities.flatMap
      (expandWildcardsInEntity (requestRoleName request.role) s.roleConfigByName p4info) }

/-! ## What a wildcard becomes -/

/-- The IDs of the P4Info objects a wildcard of the entity's kind is expanded
to, for the four kinds the expansion handles. -/
def wildcardObjectIds (p4info : P4Info) : Entity → Option (List Nat)
  | .tableEntry _ => some (p4info.tables.map (·.id))
  | .counterEntry _ => some (p4info.counters.map (·.id))
  | .meterEntry _ => some (p4info.meters.map (·.id))
  | .registerEntry _ => some (p4info.registers.map (·.id))
  | _ => none

/-- The entity with the ID of the object it reads set to `id`, for the four
kinds the expansion handles. -/
def entityWithP4Id : Entity → Nat → Entity
  | .tableEntry e, id => .tableEntry { e with tableId := id }
  | .counterEntry e, id => .counterEntry { e with counterId := id }
  | .meterEntry e, id => .meterEntry { e with meterId := id }
  | .registerEntry e, id => .registerEntry { e with registerId := id }
  | entity, _ => entity

theorem getP4IdFromEntity_entityWithP4Id {p4info : P4Info} {entity : Entity}
    {objectIds : List Nat} (hkind : wildcardObjectIds p4info entity = some objectIds) (id : Nat) :
    getP4IdFromEntity (entityWithP4Id entity id) = id := by
  cases entity <;> first | rfl | cases hkind

theorem expandWildcardsInEntity_of_ne_zero {roleName : Option String}
    {roleConfigs : RoleMap (Option P4RoleConfig)} {p4info : P4Info} {entity : Entity}
    (hid : getP4IdFromEntity entity ≠ 0) :
    expandWildcardsInEntity roleName roleConfigs p4info entity = [entity] := by
  unfold expandWildcardsInEntity
  rw [if_pos hid]

/-- A wildcard of the four kinds becomes one copy per accessible object of
its kind, in P4Info order; any other wildcard is kept. -/
theorem expandWildcardsInEntity_of_eq_zero {roleName : Option String}
    {roleConfigs : RoleMap (Option P4RoleConfig)} {p4info : P4Info} {entity : Entity}
    (hid : getP4IdFromEntity entity = 0) :
    expandWildcardsInEntity roleName roleConfigs p4info entity =
      match wildcardObjectIds p4info entity with
      | some objectIds => expandWildcard roleName roleConfigs objectIds (entityWithP4Id entity)
      | none => [entity] := by
  unfold expandWildcardsInEntity
  rw [if_neg (not_not.mpr hid)]
  cases entity <;> rfl

/-- An entity of the expansion is the entity itself, or a copy for an object
the role may access. -/
theorem mem_expandWildcardsInEntity {roleName : Option String}
    {roleConfigs : RoleMap (Option P4RoleConfig)} {p4info : P4Info} {entity copy : Entity}
    (h : copy ∈ expandWildcardsInEntity roleName roleConfigs p4info entity) :
    copy = entity ∨ getP4IdFromEntity entity = 0 ∧
      (verifyRoleCanAccessIds roleName [getP4IdFromEntity copy] roleConfigs).isOk := by
  by_cases hid : getP4IdFromEntity entity = 0
  · rw [expandWildcardsInEntity_of_eq_zero hid] at h
    cases hkind : wildcardObjectIds p4info entity with
    | none =>
        rw [hkind] at h
        exact Or.inl (List.mem_singleton.mp h)
    | some objectIds =>
        rw [hkind] at h
        obtain ⟨id, hmem, rfl⟩ := List.mem_map.mp h
        rw [getP4IdFromEntity_entityWithP4Id hkind]
        exact Or.inr ⟨hid, (List.mem_filter.mp hmem).2⟩
  · rw [expandWildcardsInEntity_of_ne_zero hid] at h
    exact Or.inl (List.mem_singleton.mp h)

/-! ## The access check sees the same first refused ID -/

/-- The IDs a role config admits: `0`, which names no object, and those it
lists as exclusive or shared. -/
def P4RoleConfig.Admits (config : P4RoleConfig) (id : Nat) : Prop :=
  id = 0 ∨ id ∈ config.exclusiveP4Ids ∨ id ∈ config.sharedP4Ids

instance (config : P4RoleConfig) (id : Nat) : Decidable (config.Admits id) :=
  inferInstanceAs (Decidable (_ ∨ _ ∨ _))

/-- The per-ID loop of `VerifyRoleCanAccessIds` reports the first ID the
config does not admit. -/
theorem verifyIdsAgainstConfig_eq (roleName : Option String) (config : P4RoleConfig) :
    ∀ ids, verifyIdsAgainstConfig roleName config ids =
      match ids.find? (fun id => !decide (config.Admits id)) with
      | none => .ok
      | some id =>
          ⟨.permissionDenied, "Role " ++ prettyPrintRoleName roleName ++
            " is not allowed to access entity with ID " ++ toString id ++ "."⟩
  | [] => rfl
  | id :: ids => by
      unfold verifyIdsAgainstConfig
      split_ifs with hid
      · have hadmits : config.Admits id := hid
        rw [verifyIdsAgainstConfig_eq roleName config ids,
          List.find?_cons_of_neg (by simpa using hadmits)]
      · have hrefused : ¬config.Admits id := hid
        rw [List.find?_cons_of_pos (by simpa using hrefused)]

/-- `VerifyRoleCanAccessIds` gives two lists of IDs the same status when, for
the role's config if it has one, they have the same first refused ID. -/
theorem verifyRoleCanAccessIds_congr {roleName : Option String} {ids ids' : List Nat}
    {roleConfigs : RoleMap (Option P4RoleConfig)}
    (h : ∀ config, roleConfigs.lookup roleName = some (some config) →
      ids'.find? (fun id => !decide (config.Admits id)) =
        ids.find? (fun id => !decide (config.Admits id))) :
    verifyRoleCanAccessIds roleName ids' roleConfigs =
      verifyRoleCanAccessIds roleName ids roleConfigs := by
  unfold verifyRoleCanAccessIds
  cases hlookup : roleConfigs.lookup roleName with
  | none => rfl
  | some roleConfig =>
      cases roleConfig with
      | none => rfl
      | some config =>
          show verifyIdsAgainstConfig roleName config ids' = verifyIdsAgainstConfig roleName config ids
          rw [verifyIdsAgainstConfig_eq, verifyIdsAgainstConfig_eq, h config hlookup]

/-- Under a config, the IDs of an expansion that the config refuses are
those of the entities expanded. -/
theorem find?_refused_expandWildcardsInEntity {roleName : Option String}
    {roleConfigs : RoleMap (Option P4RoleConfig)} {config : P4RoleConfig}
    (hconfig : roleConfigs.lookup roleName = some (some config)) (p4info : P4Info) :
    ∀ entities : List Entity,
      (((entities.flatMap (expandWildcardsInEntity roleName roleConfigs p4info)).map
          getP4IdFromEntity).filter (· != 0)).find? (fun id => !decide (config.Admits id)) =
        ((entities.map getP4IdFromEntity).filter (· != 0)).find?
          (fun id => !decide (config.Admits id))
  | [] => rfl
  | entity :: entities => by
      rw [List.flatMap_cons, List.map_append, List.filter_append, List.find?_append,
        find?_refused_expandWildcardsInEntity hconfig p4info entities, List.map_cons]
      by_cases hid : getP4IdFromEntity entity = 0
      · -- every copy is admitted, and the wildcard's own ID is dropped
        have hnone : (((expandWildcardsInEntity roleName roleConfigs p4info entity).map
            getP4IdFromEntity).filter (· != 0)).find? (fun id => !decide (config.Admits id)) =
            none := by
          rw [List.find?_eq_none]
          intro id hmem
          obtain ⟨hmapped, -⟩ := List.mem_filter.mp hmem
          obtain ⟨copy, hcopy, rfl⟩ := List.mem_map.mp hmapped
          have hadmits : config.Admits (getP4IdFromEntity copy) := by
            rcases mem_expandWildcardsInEntity hcopy with rfl | ⟨-, hok⟩
            · exact Or.inl hid
            · exact ((verifyRoleCanAccessIds_isOk_iff hconfig).mp hok) _ (List.mem_singleton_self _)
          simpa using hadmits
        rw [hnone, Option.none_or, List.filter_cons_of_neg (by simpa using hid)]
      · rw [expandWildcardsInEntity_of_ne_zero hid, List.map_singleton,
          List.filter_cons_of_pos (by simpa using hid), List.filter_nil,
          List.filter_cons_of_pos (by simpa using hid)]
        cases hrefused : !decide (config.Admits (getP4IdFromEntity entity)) <;>
          simp [hrefused]

/-- `AllowRequest` gives the expanded request the status it gives the
request. -/
theorem allowReadRequest_expandWildcardsInReadRequest (s : State) (request : ReadRequest)
    (p4info : P4Info) :
    allowReadRequest s (expandWildcardsInReadRequest s request p4info) =
      allowReadRequest s request := by
  have hrole : (expandWildcardsInReadRequest s request p4info).role = request.role := rfl
  unfold allowReadRequest
  rw [hrole]
  cases hname : requestRoleName request.role with
  | none => rfl
  | some name =>
      apply verifyRoleCanAccessIds_congr
      intro config hconfig
      rw [← hname] at hconfig
      exact find?_refused_expandWildcardsInEntity hconfig p4info request.entities

/-- Under a config, every entity of the expanded request is an entity of the
request that names an object, or has an ID the config admits. -/
theorem admits_of_mem_expandWildcardsInReadRequest {s : State} {request : ReadRequest}
    {p4info : P4Info} {config : P4RoleConfig}
    (hconfig : s.roleConfigByName.lookup (requestRoleName request.role) = some (some config))
    {entity : Entity} (h : entity ∈ (expandWildcardsInReadRequest s request p4info).entities) :
    (entity ∈ request.entities ∧ getP4IdFromEntity entity ≠ 0) ∨
      config.Admits (getP4IdFromEntity entity) := by
  obtain ⟨original, horiginal, hcopy⟩ := List.mem_flatMap.mp h
  rcases mem_expandWildcardsInEntity hcopy with rfl | ⟨-, hok⟩
  · by_cases hid : getP4IdFromEntity entity = 0
    · exact Or.inr (Or.inl hid)
    · exact Or.inl ⟨horiginal, hid⟩
  · exact Or.inr (((verifyRoleCanAccessIds_isOk_iff hconfig).mp hok) _ (List.mem_singleton_self _))

/-! ## The expansion and `AllowRequest` -/

theorem wildcard_expansion_preserves_authorisation (s : State) (request : ReadRequest)
    (p4info : P4Info) :
    let roleName := requestRoleName request.role
    let expanded := expandWildcardsInReadRequest s request p4info
    expanded.entities =
        request.entities.flatMap (expandWildcardsInEntity roleName s.roleConfigByName p4info) ∧
      (∀ entity ∈ request.entities, getP4IdFromEntity entity ≠ 0 →
        expandWildcardsInEntity roleName s.roleConfigByName p4info entity = [entity]) ∧
      (∀ entity ∈ request.entities, getP4IdFromEntity entity = 0 →
        expandWildcardsInEntity roleName s.roleConfigByName p4info entity =
          match wildcardObjectIds p4info entity with
          | some objectIds =>
              (objectIds.filter fun id =>
                (verifyRoleCanAccessIds roleName [id] s.roleConfigByName).isOk).map
                (entityWithP4Id entity)
          | none => [entity]) ∧
      allowReadRequest s expanded = allowReadRequest s request ∧
      ∀ config, s.roleConfigByName.lookup roleName = some (some config) →
        ∀ entity ∈ expanded.entities,
          (entity ∈ request.entities ∧ getP4IdFromEntity entity ≠ 0) ∨
            getP4IdFromEntity entity = 0 ∨ getP4IdFromEntity entity ∈ config.exclusiveP4Ids ∨
              getP4IdFromEntity entity ∈ config.sharedP4Ids := by
  intro roleName expanded
  refine ⟨rfl, fun entity _ hid => expandWildcardsInEntity_of_ne_zero hid,
    fun entity _ hid => expandWildcardsInEntity_of_eq_zero hid,
    allowReadRequest_expandWildcardsInReadRequest s request p4info, ?_⟩
  intro config hconfig entity hentity
  exact admits_of_mem_expandWildcardsInReadRequest hconfig hentity

/-- A wildcard table read with every other field at its default. -/
def wildcardTableEntry : TableEntry := ⟨0, [], none, 0, 0, none, none, false, 0, none, []⟩

/-- A P4Info whose tables have IDs `0` and `7`. -/
def zeroIdTableP4Info : P4Info :=
  ⟨none, [⟨0, "t0", [], false⟩, ⟨7, "t7", [], false⟩], [], [], [], [], []⟩

/-- Role `a`, configured with table `7` alone, reads all tables: the expansion
gives it a copy for the P4Info's table of ID `0`, which is the wildcard read
itself. -/
theorem expansion_copies_zero_id_table :
    ¬∀ (s : State) (request : ReadRequest) (p4info : P4Info), Reachable 0 s →
      ∀ config, s.roleConfigByName.lookup (requestRoleName request.role) = some (some config) →
      ∀ entity ∈ request.entities, getP4IdFromEntity entity = 0 →
      ∀ objectIds, wildcardObjectIds p4info entity = some objectIds →
      ∀ id ∈ objectIds,
        entityWithP4Id entity id ∈ (expandWildcardsInReadRequest s request p4info).entities →
          id ∈ config.exclusiveP4Ids ∨ id ∈ config.sharedP4Ids := by
  intro hstated
  have hcopy := hstated (run (State.init 0) (twoRoles [7] [5]))
    ⟨0, "a", [.tableEntry wildcardTableEntry]⟩ zeroIdTableP4Info ⟨twoRoles [7] [5], rfl⟩
    (exclusiveConfig [7]) (by decide) (.tableEntry wildcardTableEntry) (List.mem_singleton_self _)
    rfl [0, 7] rfl 0 (by decide) (by decide)
  exact absurd hcopy (by decide)

end Stratum.Ports.SdnControllerManager
