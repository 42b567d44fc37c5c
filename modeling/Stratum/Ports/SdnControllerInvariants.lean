import Stratum.Verified.Run
import Stratum.Ports.SdnControllerSteps

/-!
# Invariants of `SdnControllerManager` over whole runs

`Inv` collects what every reachable state satisfies:

* every active connection is initialized and appears once in `connections_`
  (so `Disconnect` removes it for good);
* `ElectionIdsUnique` — no two distinct active connections share a role and
  a present election ID, which makes the primary of a role unique;
* `RoleConfigIsolation` — stored configs of different roles keep their
  exclusive IDs apart, and the default role stores no config.

Each phase of a call is shown to preserve `Inv` (`Inv.register`,
`Inv.elect`, `Inv.of_frame`), the call follows (`Inv.step_state`), and runs
follow by `foldl_invariant` (`Inv.reachable`).
-/

namespace Stratum.Ports.SdnControllerManager

open Stratum.Ports.Status Stratum.Verified.Run

/-! ## The invariant -/

/-- No two distinct connections of `cs` share a role and a present election ID. -/
def UniqueIds (cs : List ConnectionId) (connection : ConnectionId → SdnConnection) : Prop :=
  ∀ c₁ ∈ cs, ∀ c₂ ∈ cs, c₁ ≠ c₂ → (connection c₁).roleName = (connection c₂).roleName →
    ∀ e, (connection c₁).electionId = some e → (connection c₂).electionId ≠ some e

/-- No two distinct active connections share a role and a present election ID. -/
def ElectionIdsUnique (s : State) : Prop := UniqueIds s.connections s.connection

/-- Stored configs of different roles keep their exclusive IDs apart, and the
default role stores none. -/
structure RoleConfigIsolation (s : State) : Prop where
  defaultRole : ∀ config, s.roleConfigByName.lookup none ≠ some (some config)
  disjoint : ∀ r₁ r₂ c₁ c₂, r₁ ≠ r₂ → s.roleConfigByName.lookup r₁ = some (some c₁) →
    s.roleConfigByName.lookup r₂ = some (some c₂) →
    ∀ id ∈ c₁.exclusiveP4Ids, id ∉ c₂.exclusiveP4Ids ∧ id ∉ c₂.sharedP4Ids

/-- The invariant of every reachable state. -/
structure Inv (s : State) : Prop where
  initialized : ∀ c ∈ s.connections, (s.connection c).initialized = true
  nodup : s.connections.Nodup
  unique : ElectionIdsUnique s
  isolation : RoleConfigIsolation s

/-! ## Connections -/

/-- Fewer connections keep election IDs unique. -/
theorem UniqueIds.subset {cs cs' : List ConnectionId} {connection : ConnectionId → SdnConnection}
    (h : UniqueIds cs connection) (hsub : ∀ c ∈ cs', c ∈ cs) : UniqueIds cs' connection :=
  fun c₁ h₁ c₂ h₂ => h c₁ (hsub c₁ h₁) c₂ (hsub c₂ h₂)

/-- Installing a record at `k` keeps election IDs unique when no other old
connection holds the record's role and election ID. -/
theorem UniqueIds.update {cs cs' : List ConnectionId} {connection : ConnectionId → SdnConnection}
    {k : ConnectionId} {record : SdnConnection} (h : UniqueIds cs connection)
    (hsub : ∀ c ∈ cs', c = k ∨ c ∈ cs)
    (hfree : ∀ e, record.electionId = some e → ∀ c ∈ cs, c ≠ k →
      ¬((connection c).roleName = record.roleName ∧ (connection c).electionId = some e)) :
    UniqueIds cs' (Function.update connection k record) := by
  intro c₁ h₁ c₂ h₂ hne hrole e hid₁ hid₂
  rcases hsub c₁ h₁ with rfl | hc₁ <;> rcases hsub c₂ h₂ with rfl | hc₂
  · exact hne rfl
  · rw [Function.update_self] at hrole hid₁
    rw [Function.update_of_ne (Ne.symm hne)] at hrole hid₂
    exact hfree e hid₁ c₂ hc₂ (Ne.symm hne) ⟨hrole.symm, hid₂⟩
  · rw [Function.update_self] at hrole hid₂
    rw [Function.update_of_ne hne] at hrole hid₁
    exact hfree e hid₂ c₁ hc₁ hne ⟨hrole, hid₁⟩
  · by_cases hk₁ : c₁ = k
    · subst hk₁
      rw [Function.update_self] at hrole hid₁
      rw [Function.update_of_ne (Ne.symm hne)] at hrole hid₂
      exact hfree e hid₁ c₂ hc₂ (Ne.symm hne) ⟨hrole.symm, hid₂⟩
    · by_cases hk₂ : c₂ = k
      · subst hk₂
        rw [Function.update_self] at hrole hid₂
        rw [Function.update_of_ne hne] at hrole hid₁
        exact hfree e hid₂ c₁ hc₁ hne ⟨hrole, hid₁⟩
      · rw [Function.update_of_ne hk₁] at hrole hid₁
        rw [Function.update_of_ne hk₂] at hrole hid₂
        exact h c₁ hc₁ c₂ hc₂ hne hrole e hid₁ hid₂

/-! ## Preservation, phase by phase -/

theorem RoleConfigIsolation.of_frame {s s' : State} (hframe : Frame s s')
    (h : RoleConfigIsolation s) : RoleConfigIsolation s' where
  defaultRole config := by
    rw [Ne, hframe.config]
    exact h.defaultRole config
  disjoint r₁ r₂ c₁ c₂ hne h₁ h₂ := by
    rw [hframe.config] at h₁ h₂
    exact h.disjoint r₁ r₂ c₁ c₂ hne h₁ h₂

theorem Inv.of_frame {s s' : State} (hframe : Frame s s') (h : Inv s) : Inv s' where
  initialized := by
    rw [hframe.connections, hframe.connection]
    exact h.initialized
  nodup := by
    rw [hframe.connections]
    exact h.nodup
  unique := by
    unfold ElectionIdsUnique
    rw [hframe.connections, hframe.connection]
    exact h.unique
  isolation := h.isolation.of_frame hframe

/-- Accepted bookkeeping keeps the invariant. -/
theorem Inv.register {s s₁ : State} {update : MasterArbitrationUpdate} {controller : ConnectionId}
    (h : Inv s) (hreg : registerConnection s update controller = .ok s₁) : Inv s₁ := by
  obtain ⟨-, hconfig, -, hconn, hpath, hunused⟩ := registerConnection_ok hreg
  have hsub := mem_registerConnection hreg
  refine ⟨?_, ?_, ?_, ?_⟩
  · intro c hc
    rw [hconn]
    by_cases hck : c = controller
    · subst hck
      simp [registered]
    · rw [Function.update_of_ne hck]
      exact h.initialized c ((hsub c hc).resolve_left hck)
  · rcases hpath with ⟨hnew, hcs⟩ | ⟨-, -, hcs⟩
    · rw [hcs]
      -- a connection that was not initialized was not active
      have hnotin : controller ∉ s.connections := fun hin => by
        simp [h.initialized controller hin] at hnew
      exact h.nodup.append (List.nodup_singleton controller)
        (List.disjoint_singleton.mpr hnotin)
    · rw [hcs]
      exact h.nodup
  · unfold ElectionIdsUnique
    rw [hconn]
    exact h.unique.update hsub (verifyElectionIdIsUnused_isOk hunused)
  · exact ⟨fun config => hconfig ▸ h.isolation.defaultRole config,
      fun r₁ r₂ c₁ c₂ hne h₁ h₂ => h.isolation.disjoint r₁ r₂ c₁ c₂ hne
        (hconfig ▸ h₁) (hconfig ▸ h₂)⟩

/-- Storing a config that passed `VerifyRoleConfig` keeps the roles apart. -/
theorem RoleConfigIsolation.insert {s : State} {roleName : Option String}
    {roleConfig : Option P4RoleConfig} (h : RoleConfigIsolation s)
    (hverify : (verifyRoleConfig roleName roleConfig s.roleConfigByName).isOk)
    (hdefault : roleConfig.isSome → roleName.isSome) (newElectionId : Option Nat) :
    RoleConfigIsolation { s with
      electionIdPastByRole := s.electionIdPastByRole.insert roleName newElectionId
      roleConfigByName := s.roleConfigByName.insert roleName roleConfig } := by
  constructor
  · intro config hlookup
    dsimp only at hlookup
    by_cases hr : roleName = none
    · subst hr
      rw [AList.lookup_insert] at hlookup
      cases Option.some.inj hlookup
      simp at hdefault
    · rw [AList.lookup_insert_ne (Ne.symm hr)] at hlookup
      exact h.defaultRole config hlookup
  · intro r₁ r₂ c₁ c₂ hne h₁ h₂ id hid
    dsimp only at h₁ h₂
    by_cases hr₁ : r₁ = roleName
    · subst hr₁
      rw [AList.lookup_insert] at h₁
      rw [AList.lookup_insert_ne (Ne.symm hne)] at h₂
      cases Option.some.inj h₁
      obtain ⟨hexcl, hshared, -⟩ := verifyRoleConfig_isOk hverify r₂ c₂ h₂ (Ne.symm hne)
      exact ⟨hexcl id hid, hshared id hid⟩
    · rw [AList.lookup_insert_ne hr₁] at h₁
      by_cases hr₂ : r₂ = roleName
      · subst hr₂
        rw [AList.lookup_insert] at h₂
        cases Option.some.inj h₂
        obtain ⟨hexcl, -, hshared⟩ := verifyRoleConfig_isOk hverify r₁ c₁ h₁ hr₁
        exact ⟨fun hmem => hexcl id hmem hid, fun hmem => hshared id hmem hid⟩
      · rw [AList.lookup_insert_ne hr₂] at h₂
        exact h.disjoint r₁ r₂ c₁ c₂ hne h₁ h₂ id hid

/-- The election keeps the invariant when the stored config was validated. -/
theorem Inv.elect {s : State} {roleName : Option String} {roleConfig : Option P4RoleConfig}
    (h : Inv s) (hverify : (verifyRoleConfig roleName roleConfig s.roleConfigByName).isOk)
    (hdefault : roleConfig.isSome → roleName.isSome) (newElectionId : Option Nat) :
    Inv (elected s roleName roleConfig newElectionId) := by
  unfold elected
  split_ifs
  · exact ⟨h.initialized, h.nodup, h.unique,
      h.isolation.insert hverify hdefault newElectionId⟩
  · exact h

/-! ## Preservation by calls and runs -/

/-- After accepted validation and bookkeeping, the election's target state
keeps the invariant. -/
theorem inv_elected_of_ok {s s₁ : State} {update : MasterArbitrationUpdate}
    {controller : ConnectionId} {roleConfig : Option P4RoleConfig} (h : Inv s)
    (hvalidate : validateRoleConfig s update = .ok roleConfig)
    (hregister : registerConnection s update controller = .ok s₁) :
    Inv (elected s₁ (updateRoleName update) roleConfig (updateElectionId update)) := by
  obtain ⟨hverify, hdefault⟩ := validateRoleConfig_ok hvalidate
  -- the configs were validated against the map the bookkeeping left alone
  obtain ⟨-, hconfig, -⟩ := registerConnection_ok hregister
  rw [← hconfig] at hverify
  exact (h.register hregister).elect hverify hdefault _

theorem Inv.handleArbitrationUpdate_state {s : State} (h : Inv s) (update : MasterArbitrationUpdate)
    (controller : ConnectionId) : Inv (handleArbitrationUpdate s update controller).state := by
  rcases handleArbitrationUpdate_cases s update controller with ⟨hstate, -, -⟩ | hok
  · rw [hstate]
    exact h
  · obtain ⟨roleConfig, s₁, hvalidate, hregister, -⟩ := hok
    exact (inv_elected_of_ok h hvalidate hregister).of_frame
      (frame_handleArbitrationUpdate_ok hvalidate hregister)

/-- The state `Disconnect` informs from keeps the invariant. -/
theorem inv_disconnected {s : State} (h : Inv s) (c : ConnectionId) : Inv (disconnected s c) := by
  -- removing a connection keeps each part of the invariant
  have herase : Inv { s with connections := s.connections.erase c } :=
    ⟨fun c' hc' => h.initialized c' (List.mem_of_mem_erase hc'), h.nodup.erase c,
      h.unique.subset fun _ hc' => List.mem_of_mem_erase hc',
      ⟨h.isolation.defaultRole, h.isolation.disjoint⟩⟩
  exact herase.of_frame (frame_disconnected s c)

theorem Inv.disconnect_state {s : State} (h : Inv s) (c : ConnectionId) :
    Inv (disconnect s c).state := by
  cases hinit : (s.connection c).initialized with
  | false =>
      rw [disconnect_state_of_not_initialized hinit]
      exact h
  | true => exact (inv_disconnected h c).of_frame (frame_disconnect_state hinit)

theorem Inv.step_state {s : State} (h : Inv s) : ∀ call, Inv (step s call).state
  | .handleArbitrationUpdate update controller => h.handleArbitrationUpdate_state update controller
  | .disconnect c => h.disconnect_state c

/-- A new manager stores no role config: both initial entries are
unrestricted. -/
theorem init_lookup_ne_config (deviceId : UInt64) (r : Option String) (config : P4RoleConfig) :
    (State.init deviceId).roleConfigByName.lookup r ≠ some (some config) := by
  simp only [State.init]
  by_cases h₁ : r = some kP4RuntimeRoleSdnController
  · subst h₁
    simp
  · rw [AList.lookup_insert_ne h₁]
    by_cases h₂ : r = none
    · subst h₂
      rw [AList.lookup_insert]
      simp
    · rw [AList.lookup_insert_ne h₂]
      simp

theorem Inv.init (deviceId : UInt64) : Inv (State.init deviceId) where
  initialized := by simp [State.init]
  nodup := List.nodup_nil
  unique := by simp [ElectionIdsUnique, UniqueIds, State.init]
  isolation :=
    ⟨init_lookup_ne_config deviceId none,
      fun r₁ _ c₁ _ _ h₁ _ => absurd h₁ (init_lookup_ne_config deviceId r₁ c₁)⟩

/-- Every reachable state satisfies the invariant. -/
theorem Inv.reachable {deviceId : UInt64} {s : State} (hs : Reachable deviceId s) : Inv s := by
  obtain ⟨calls, rfl⟩ := hs
  exact foldl_invariant (fun s call => (step s call).state) Inv (fun s call h => h.step_state call)
    calls _ (Inv.init deviceId)

end Stratum.Ports.SdnControllerManager
