import Stratum.Ports.SdnControllerInvariants

/-!
# What a role config lets a role access

`VerifyRoleCanAccessIds` lets a configured role touch the P4 objects its
config lists as exclusive or shared, and skips ID `0`, which names no P4
object (`GetP4IdsFromRequest` drops it from requests, and
`GetP4IdFromEntity` returns it for entities without one). Together with
`RoleConfigIsolation` this keeps every other configured role away from a
role's exclusive objects:

* `verifyIdsAgainstConfig_isOk_iff` — the loop admits exactly lists whose
  non-zero IDs the config lists;
* `RoleConfigIsolation.verifyRoleCanAccessIds_denied` — an exclusive ID of
  one role is refused to every other configured role;
* `reachable_role_config_isolation` — in every reachable state, and through
  `AllowRequest` on read and write requests.
-/

namespace Stratum.Ports.SdnControllerManager

open Stratum.Ports.Status Stratum.Ports.P4Runtime

/-! ## The access check -/

theorem verifyIdsAgainstConfig_isOk_iff (roleName : Option String) (config : P4RoleConfig) :
    ∀ ids, (verifyIdsAgainstConfig roleName config ids).isOk ↔
      ∀ id ∈ ids, id = 0 ∨ id ∈ config.exclusiveP4Ids ∨ id ∈ config.sharedP4Ids
  | [] => by simp [verifyIdsAgainstConfig]
  | id :: ids => by
      unfold verifyIdsAgainstConfig
      split_ifs with hid
      · rw [verifyIdsAgainstConfig_isOk_iff roleName config ids, List.forall_mem_cons]
        exact ⟨fun hrest => ⟨hid, hrest⟩, fun hall => hall.2⟩
      · -- the first ID the config does not list stops the loop
        rw [List.forall_mem_cons]
        exact iff_of_false (by simp [GrpcStatus.isOk]) fun hall => hid hall.1

/-- A configured role may access a list of IDs exactly when its config lists
every non-zero one. -/
theorem verifyRoleCanAccessIds_isOk_iff {roleName : Option String} {ids : List Nat}
    {roleConfigs : RoleMap (Option P4RoleConfig)} {config : P4RoleConfig}
    (hconfig : roleConfigs.lookup roleName = some (some config)) :
    (verifyRoleCanAccessIds roleName ids roleConfigs).isOk ↔
      ∀ id ∈ ids, id = 0 ∨ id ∈ config.exclusiveP4Ids ∨ id ∈ config.sharedP4Ids := by
  unfold verifyRoleCanAccessIds
  rw [hconfig]
  exact verifyIdsAgainstConfig_isOk_iff roleName config ids

/-- Under role-config isolation, a non-zero exclusive ID of one role is
refused to every other configured role. -/
theorem RoleConfigIsolation.verifyRoleCanAccessIds_denied {s : State}
    (h : RoleConfigIsolation s) {r₁ r₂ : Option String} {c₁ c₂ : P4RoleConfig} (hne : r₁ ≠ r₂)
    (h₁ : s.roleConfigByName.lookup r₁ = some (some c₁))
    (h₂ : s.roleConfigByName.lookup r₂ = some (some c₂)) {id : Nat}
    (hexclusive : id ∈ c₁.exclusiveP4Ids) (hzero : id ≠ 0) {ids : List Nat} (hid : id ∈ ids) :
    ¬(verifyRoleCanAccessIds r₂ ids s.roleConfigByName).isOk := by
  rw [verifyRoleCanAccessIds_isOk_iff h₂]
  intro hall
  have hother := h.disjoint r₁ r₂ c₁ c₂ hne h₁ h₂ id hexclusive
  rcases hall id hid with hzero' | hexcl | hshared
  · exact hzero hzero'
  · exact hother.1 hexcl
  · exact hother.2 hshared

/-! ## Requests -/

theorem mem_getP4IdsFromReadRequest {request : ReadRequest} {id : Nat} (hzero : id ≠ 0)
    (hentity : ∃ entity ∈ request.entities, getP4IdFromEntity entity = id) :
    id ∈ getP4IdsFromReadRequest request := by
  obtain ⟨entity, hmem, hid⟩ := hentity
  unfold getP4IdsFromReadRequest
  rw [List.mem_filter, List.mem_map]
  exact ⟨⟨entity, hmem, hid⟩, by simpa using hzero⟩

theorem mem_getP4IdsFromWriteRequest {request : WriteRequest} {id : Nat} (hzero : id ≠ 0)
    (hupdate : ∃ update ∈ request.updates, getP4IdFromEntity update.entity = id) :
    id ∈ getP4IdsFromWriteRequest request := by
  obtain ⟨update, hmem, hid⟩ := hupdate
  unfold getP4IdsFromWriteRequest
  rw [List.mem_filter, List.mem_map]
  exact ⟨⟨update, hmem, hid⟩, by simpa using hzero⟩

/-- A read request of a named role is admitted by the role's access check. -/
theorem allowReadRequest_of_name {s : State} {request : ReadRequest} {name : String}
    (hname : requestRoleName request.role = some name) :
    allowReadRequest s request =
      verifyRoleCanAccessIds (some name) (getP4IdsFromReadRequest request) s.roleConfigByName := by
  unfold allowReadRequest
  rw [hname]

/-- A write request of a named role that fails the access check is refused
with the check's status. -/
theorem allowWriteRequest_of_denied {s : State} {request : WriteRequest} {name : String}
    (hname : requestRoleName request.role = some name)
    (hdenied : ¬(verifyRoleCanAccessIds (some name) (getP4IdsFromWriteRequest request)
      s.roleConfigByName).isOk) :
    ¬(allowWriteRequest s request).isOk := by
  unfold allowWriteRequest
  rw [hname]
  dsimp only
  rw [if_pos (by simpa using hdenied)]
  exact hdenied

/-! ## Isolation from every reachable state -/

/-- In every reachable state stored configs of different roles keep their
exclusive IDs apart and the default role stores none; hence a non-zero P4 ID
exclusive to one role is refused to every other configured role, by
`VerifyRoleCanAccessIds` and by `AllowRequest` on read and write requests
addressing it. -/
theorem reachable_role_config_isolation {deviceId : UInt64} {s : State}
    (hs : Reachable deviceId s) :
    RoleConfigIsolation s ∧
      ∀ r₁ r₂ c₁ c₂ id, r₁ ≠ r₂ → s.roleConfigByName.lookup r₁ = some (some c₁) →
        s.roleConfigByName.lookup r₂ = some (some c₂) → id ∈ c₁.exclusiveP4Ids → id ≠ 0 →
        (∀ ids, id ∈ ids → ¬(verifyRoleCanAccessIds r₂ ids s.roleConfigByName).isOk) ∧
        (∀ request : ReadRequest, requestRoleName request.role = r₂ →
          (∃ entity ∈ request.entities, getP4IdFromEntity entity = id) →
          ¬(allowReadRequest s request).isOk) ∧
        (∀ request : WriteRequest, requestRoleName request.role = r₂ →
          (∃ update ∈ request.updates, getP4IdFromEntity update.entity = id) →
          ¬(allowWriteRequest s request).isOk) := by
  have h := (Inv.reachable hs).isolation
  refine ⟨h, ?_⟩
  intro r₁ r₂ c₁ c₂ id hne h₁ h₂ hexclusive hzero
  have hdenied : ∀ ids, id ∈ ids → ¬(verifyRoleCanAccessIds r₂ ids s.roleConfigByName).isOk :=
    fun _ hid => h.verifyRoleCanAccessIds_denied hne h₁ h₂ hexclusive hzero hid
  -- a configured role is a named one
  have hnamed : ∃ name, r₂ = some name := by
    cases r₂ with
    | none => exact absurd h₂ (h.defaultRole c₂)
    | some name => exact ⟨name, rfl⟩
  obtain ⟨name, rfl⟩ := hnamed
  refine ⟨hdenied, ?_, ?_⟩
  · intro request hname hentity
    rw [allowReadRequest_of_name hname]
    exact hdenied _ (mem_getP4IdsFromReadRequest hzero hentity)
  · intro request hname hupdate
    exact allowWriteRequest_of_denied hname
      (hdenied _ (mem_getP4IdsFromWriteRequest hzero hupdate))

/-- A role config holding `ids` exclusively and sharing nothing. -/
def exclusiveConfig (ids : List Nat) : P4RoleConfig := ⟨ids, [], none, true, false⟩

/-- Controllers of roles `a` and `b`, each becoming its role's primary and
installing its config. -/
def twoRoles (idsA idsB : List Nat) : List Call :=
  [.handleArbitrationUpdate ⟨0, some ⟨"a", some (.p4RoleConfig (exclusiveConfig idsA))⟩,
      some ⟨0, 1⟩⟩ 1,
    .handleArbitrationUpdate ⟨0, some ⟨"b", some (.p4RoleConfig (exclusiveConfig idsB))⟩,
      some ⟨0, 1⟩⟩ 2]

theorem role_config_isolation_twoRoles :
    Reachable 0 (run (State.init 0) (twoRoles [7] [5])) ∧
      ¬(verifyRoleCanAccessIds (some "b") [7]
        (run (State.init 0) (twoRoles [7] [5])).roleConfigByName).isOk :=
  ⟨⟨twoRoles [7] [5], rfl⟩,
    ((reachable_role_config_isolation ⟨twoRoles [7] [5], rfl⟩).2 (some "a") (some "b")
      (exclusiveConfig [7]) (exclusiveConfig [5]) 7 (by decide) (by decide) (by decide)
      (by decide) (by decide)).1 [7] (List.mem_singleton_self 7)⟩

/-- ID `0` may be listed as exclusive to role `a`, and yet role `b`, which is
configured too, is let through on it. -/
theorem exclusive_zero_id_not_denied :
    ¬∀ s, Reachable 0 s → ∀ r₁ r₂ c₁ c₂ id, r₁ ≠ r₂ →
      s.roleConfigByName.lookup r₁ = some (some c₁) →
      s.roleConfigByName.lookup r₂ = some (some c₂) → id ∈ c₁.exclusiveP4Ids →
      ¬(verifyRoleCanAccessIds r₂ [id] s.roleConfigByName).isOk := by
  intro hstated
  exact hstated _ ⟨twoRoles [0] [5], rfl⟩ (some "a") (some "b") (exclusiveConfig [0])
    (exclusiveConfig [5]) 0 (by decide) (by decide) (by decide) (by decide) (by decide)

end Stratum.Ports.SdnControllerManager
