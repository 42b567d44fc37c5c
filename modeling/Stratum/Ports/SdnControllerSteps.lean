import Stratum.Ports.SdnControllerFrame

/-!
# What one call of `SdnControllerManager` does

One inversion lemma per phase of `HandleArbitrationUpdate` and one for
`Disconnect`, so that the invariant proofs never unfold the model:

* `validateRoleConfig_ok` — an accepted role config passed
  `VerifyRoleConfig` against the stored configs, and the default role
  carries none;
* `registerConnection_ok` — accepted bookkeeping initializes the connection
  with the update's role and election ID, and appends it to `connections_`
  exactly when it was not initialized; no other connection changes;
* `frame_electPrimary` — the election is, up to default entries, the state
  `elected`: the role's past ID and config replaced when the new ID is at
  least the past one;
* `handleArbitrationUpdate_cases`, `disconnect_cases` — a call either fails
  and leaves the state as it was, or is composed of the phases above.
-/

namespace Stratum.Ports.SdnControllerManager

open Stratum.Ports.Status Stratum.Verified.SetIntersection

/-! ## Checks -/

theorem verifyElectionIdIsUnused_isOk {roleName : Option String} {electionId : Option Nat}
    {active : List ConnectionId} {connection : ConnectionId → SdnConnection}
    {current : ConnectionId}
    (h : (verifyElectionIdIsUnused roleName electionId active connection current).isOk) :
    ∀ e, electionId = some e → ∀ c ∈ active, c ≠ current →
      ¬((connection c).roleName = roleName ∧ (connection c).electionId = some e) := by
  rintro e rfl c hc hne ⟨hrole, hid⟩
  unfold verifyElectionIdIsUnused at h
  dsimp only at h
  rw [if_pos (List.any_eq_true.mpr ⟨c, hc, by simp [hne, hrole, hid]⟩)] at h
  simp [GrpcStatus.isOk] at h

theorem verifyElectionIdIsActive_isOk (roleName : Option String) (electionId : Option Nat)
    (active : List ConnectionId) (connection : ConnectionId → SdnConnection) :
    (verifyElectionIdIsActive roleName electionId active connection).isOk ↔
      ∃ c ∈ active,
        (connection c).roleName = roleName ∧ (connection c).electionId = electionId := by
  unfold verifyElectionIdIsActive
  split
  · rename_i hany
    simpa using hany
  · rename_i hany
    simp only [List.any_eq_true, Bool.and_eq_true, beq_iff_eq, not_exists, not_and] at hany
    simp only [GrpcStatus.isOk, beq_iff_eq, reduceCtorEq, false_iff, not_exists, not_and]
    exact fun c hc hrole => hany c hc hrole

theorem idsOverlap_eq_false {xs ys : List Nat} (h : idsOverlap xs ys = false) :
    ∀ z ∈ xs, z ∉ ys := by
  unfold idsOverlap at h
  simpa [setIntersection_sortAscending_eq_nil] using h

/-- An accepted loop of `VerifyRoleConfig` found no conflict with any stored
config of another role. -/
theorem verifyRoleConfigLoop_isOk {roleName : Option String} {config : P4RoleConfig} :
    ∀ {l : List (Σ _ : Option String, Option P4RoleConfig)},
      (verifyRoleConfigLoop roleName config l).isOk →
      ∀ name existing, ⟨name, some existing⟩ ∈ l → name ≠ roleName →
        (∀ z ∈ config.exclusiveP4Ids, z ∉ existing.exclusiveP4Ids) ∧
        (∀ z ∈ config.exclusiveP4Ids, z ∉ existing.sharedP4Ids) ∧
        (∀ z ∈ config.sharedP4Ids, z ∉ existing.exclusiveP4Ids)
  | [], _, _, _, hmem, _ => by simp at hmem
  | ⟨name', none⟩ :: rest, h, name, existing, hmem, hne => by
      rcases List.mem_cons.mp hmem with heq | hmem
      · cases heq
      · exact verifyRoleConfigLoop_isOk (l := rest) h name existing hmem hne
  | ⟨name', some existing'⟩ :: rest, h, name, existing, hmem, hne => by
      unfold verifyRoleConfigLoop at h
      by_cases hname : name' = roleName
      · rw [if_pos hname] at h
        rcases List.mem_cons.mp hmem with heq | hmem
        · cases heq
          exact absurd hname hne
        · exact verifyRoleConfigLoop_isOk h name existing hmem hne
      · rw [if_neg hname] at h
        split_ifs at h with h₁ h₂ h₃
        · simp [GrpcStatus.isOk] at h
        · simp [GrpcStatus.isOk] at h
        · simp [GrpcStatus.isOk] at h
        · rcases List.mem_cons.mp hmem with heq | hmem
          · cases heq
            simp only [Bool.not_eq_true] at h₁ h₂ h₃
            exact ⟨idsOverlap_eq_false h₁, idsOverlap_eq_false h₂, idsOverlap_eq_false h₃⟩
          · exact verifyRoleConfigLoop_isOk h name existing hmem hne

theorem verifyRoleConfig_isOk {roleName : Option String} {config : P4RoleConfig}
    {existing : RoleMap (Option P4RoleConfig)}
    (h : (verifyRoleConfig roleName (some config) existing).isOk) :
    ∀ name other, existing.lookup name = some (some other) → name ≠ roleName →
      (∀ z ∈ config.exclusiveP4Ids, z ∉ other.exclusiveP4Ids) ∧
      (∀ z ∈ config.exclusiveP4Ids, z ∉ other.sharedP4Ids) ∧
      (∀ z ∈ config.sharedP4Ids, z ∉ other.exclusiveP4Ids) := by
  intro name other hlookup hne
  unfold verifyRoleConfig at h
  dsimp only at h
  split_ifs at h with hloop hfilter hempty
  · simp only [Bool.not_eq_true'] at hloop
    simp [hloop] at h
  · simp [GrpcStatus.isOk] at h
  · simp [GrpcStatus.isOk] at h
  · simp only [Bool.not_eq_true', Bool.not_eq_false] at hloop
    exact verifyRoleConfigLoop_isOk hloop name other
      (AList.mem_lookup_iff.mp (Option.mem_def.mpr hlookup)) hne

/-! ## The phases of `HandleArbitrationUpdate` -/

/-- An accepted role config passed `VerifyRoleConfig` and is not set for the
default role. -/
theorem validateRoleConfig_ok {s : State} {update : MasterArbitrationUpdate}
    {roleConfig : Option P4RoleConfig} (h : validateRoleConfig s update = .ok roleConfig) :
    (verifyRoleConfig (updateRoleName update) roleConfig s.roleConfigByName).isOk ∧
      (roleConfig.isSome → (updateRoleName update).isSome) := by
  unfold validateRoleConfig at h
  split at h
  · cases h
  · rename_i config hconfig
    dsimp only at h
    split_ifs at h with hverify hdefault
    cases h
    · refine ⟨by simpa using hverify, fun hsome => ?_⟩
      simp only [Bool.and_eq_true, not_and, Option.isNone_iff_eq_none] at hdefault
      cases hname : updateRoleName update with
      | none => exact absurd hsome (by simpa using hdefault hname)
      | some _ => rfl

/-- The connection record a successful registration installs. -/
def registered (update : MasterArbitrationUpdate) : SdnConnection :=
  ⟨true, updateRoleName update, updateElectionId update⟩

/-- Accepted bookkeeping: the connection now carries the update's role and
election ID, was appended when new and otherwise already had that role, and
the election ID was unused by the other active connections. -/
theorem registerConnection_ok {s s₁ : State} {update : MasterArbitrationUpdate}
    {controller : ConnectionId} (h : registerConnection s update controller = .ok s₁) :
    s₁.deviceId = s.deviceId ∧ s₁.roleConfigByName = s.roleConfigByName ∧
      s₁.electionIdPastByRole = s.electionIdPastByRole ∧
      s₁.connection = Function.update s.connection controller (registered update) ∧
      ((s.connection controller).initialized = false ∧
          s₁.connections = s.connections ++ [controller] ∨
        (s.connection controller).initialized = true ∧
          (s.connection controller).roleName = updateRoleName update ∧
          s₁.connections = s.connections) ∧
      (verifyElectionIdIsUnused (updateRoleName update) (updateElectionId update)
        s.connections s.connection controller).isOk := by
  unfold registerConnection at h
  dsimp only at h
  split_ifs at h with hinit hdevice hunused hdevice' hrole hunused' <;> cases h
  · exact ⟨rfl, rfl, rfl, rfl, .inl ⟨by simpa using hinit, rfl⟩, by simpa using hunused⟩
  · replace hinit : (s.connection controller).initialized = true := by simpa using hinit
    simp only [bne_iff_ne, ne_eq, Decidable.not_not] at hrole
    refine ⟨rfl, rfl, rfl, ?_, .inr ⟨hinit, hrole.symm, rfl⟩, by simpa using hunused'⟩
    unfold registered
    rw [← hinit, ← hrole]

/-- Every connection active after an accepted registration is the arbitrating
one or was active before. -/
theorem mem_registerConnection {s s₁ : State} {update : MasterArbitrationUpdate}
    {controller : ConnectionId} (hreg : registerConnection s update controller = .ok s₁) :
    ∀ c ∈ s₁.connections, c = controller ∨ c ∈ s.connections := by
  obtain ⟨-, -, -, -, hpath, -⟩ := registerConnection_ok hreg
  rcases hpath with ⟨-, hcs⟩ | ⟨-, -, hcs⟩
  · intro c hc
    rw [hcs, List.mem_append, List.mem_singleton] at hc
    exact hc.symm
  · intro c hc
    rw [hcs] at hc
    exact .inr hc

/-- A failed validation returns a non-OK status. -/
theorem validateRoleConfig_error {s : State} {update : MasterArbitrationUpdate}
    {status : GrpcStatus} (h : validateRoleConfig s update = .error status) : ¬status.isOk := by
  unfold validateRoleConfig at h
  split at h
  · rename_i status' hconfig
    cases h
    unfold updateRoleConfig at hconfig
    split at hconfig <;> cases hconfig
    decide
  · dsimp only at h
    split_ifs at h with hverify hdefault <;> cases h
    · simpa using hverify
    · decide

/-- Failed bookkeeping returns a non-OK status. -/
theorem registerConnection_error {s : State} {update : MasterArbitrationUpdate}
    {controller : ConnectionId} {status : GrpcStatus}
    (h : registerConnection s update controller = .error status) : ¬status.isOk := by
  unfold registerConnection at h
  dsimp only at h
  split_ifs at h with hinit hdevice hunused hdevice' hrole hunused' <;> cases h
  · simp [GrpcStatus.isOk]
  · simpa using hunused
  · simp [GrpcStatus.isOk]
  · simp [GrpcStatus.isOk]
  · simpa using hunused'

/-! ## The election -/

/-- What the election decides: when the new election ID is at least the
role's past one, the role's past ID and its config are replaced. -/
def elected (s : State) (roleName : Option String) (roleConfig : Option P4RoleConfig)
    (newElectionId : Option Nat) : State :=
  if isNewPrimary newElectionId (pastOf s roleName) then
    { s with
      electionIdPastByRole := s.electionIdPastByRole.insert roleName newElectionId
      roleConfigByName := s.roleConfigByName.insert roleName roleConfig }
  else s

/-- Overwriting a key makes an earlier default entry under it invisible. -/
private theorem frame_insert_subscript (s : State) (roleName : Option String)
    (roleConfig : Option P4RoleConfig) (newElectionId : Option Nat) :
    Frame
      { s with
        electionIdPastByRole := s.electionIdPastByRole.insert roleName newElectionId
        roleConfigByName := s.roleConfigByName.insert roleName roleConfig }
      { s with
        electionIdPastByRole :=
          (subscript s.electionIdPastByRole roleName).2.insert roleName newElectionId
        roleConfigByName := s.roleConfigByName.insert roleName roleConfig } where
  deviceId := rfl
  connections := rfl
  connection := rfl
  past r := by
    by_cases hr : r = roleName
    · subst hr
      simp [pastOf]
    · simp only [pastOf, AList.lookup_insert_ne hr]
      exact lookup_getD_subscript _ roleName r
  config _ _ := Iff.rfl

theorem frame_electPrimary (s : State) (controller : ConnectionId) (roleName : Option String)
    (roleConfig : Option P4RoleConfig) (oldElectionId newElectionId : Option Nat) :
    Frame (elected s roleName roleConfig newElectionId)
      (electPrimary s controller roleName roleConfig oldElectionId newElectionId).1 := by
  unfold electPrimary elected
  dsimp only
  rw [subscript_fst_past]
  split_ifs with hnew hwas
  · exact (frame_insert_subscript s roleName roleConfig newElectionId).trans
      (frame_informConnectionsAboutPrimaryChange _ roleName)
  · exact (frame_subscript_past s roleName).trans
      (frame_informConnectionsAboutPrimaryChange _ roleName)
  · exact (frame_subscript_past s roleName).trans (frame_sendArbitrationResponse _ controller)

/-- The election sends either one response to the arbitrating connection or
the responses of `InformConnectionsAboutPrimaryChange`, from a state that
agrees with `elected` up to default entries. -/
theorem electPrimary_sent (s : State) (controller : ConnectionId) (roleName : Option String)
    (roleConfig : Option P4RoleConfig) (oldElectionId newElectionId : Option Nat) :
    (∃ response, (electPrimary s controller roleName roleConfig oldElectionId newElectionId).2 =
      [(controller, response)]) ∨
    ∃ s', Frame (elected s roleName roleConfig newElectionId) s' ∧
      (electPrimary s controller roleName roleConfig oldElectionId newElectionId).2 =
        (informConnectionsAboutPrimaryChange s' roleName).2 := by
  unfold electPrimary
  dsimp only
  rw [subscript_fst_past]
  split_ifs with hnew hwas
  · refine .inr ⟨_, ?_, rfl⟩
    simpa [elected, hnew] using frame_insert_subscript s roleName roleConfig newElectionId
  · refine .inr ⟨_, ?_, rfl⟩
    simpa [elected, hnew] using frame_subscript_past s roleName
  · exact .inl ⟨_, rfl⟩

/-! ## Whole calls -/

/-- A call of `HandleArbitrationUpdate` fails with the state unchanged, or is
validation, bookkeeping and election in turn. -/
theorem handleArbitrationUpdate_cases (s : State) (update : MasterArbitrationUpdate)
    (controller : ConnectionId) :
    ((handleArbitrationUpdate s update controller).state = s ∧
        (handleArbitrationUpdate s update controller).sent = [] ∧
        ¬(handleArbitrationUpdate s update controller).status.isOk) ∨
      ∃ roleConfig s₁, validateRoleConfig s update = .ok roleConfig ∧
        registerConnection s update controller = .ok s₁ ∧
        (handleArbitrationUpdate s update controller).status = .ok ∧
        ((handleArbitrationUpdate s update controller).state,
            (handleArbitrationUpdate s update controller).sent) =
          electPrimary s₁ controller (updateRoleName update) roleConfig
            (s.connection controller).electionId (updateElectionId update) := by
  unfold handleArbitrationUpdate
  split
  · rename_i status hvalidate
    exact .inl ⟨rfl, rfl, validateRoleConfig_error hvalidate⟩
  · rename_i roleConfig hvalidate
    split
    · rename_i status hregister
      exact .inl ⟨rfl, rfl, registerConnection_error hregister⟩
    · rename_i s₁ hregister
      exact .inr ⟨roleConfig, s₁, hvalidate, hregister, rfl, rfl⟩

/-- A successful `HandleArbitrationUpdate` went through all three phases. -/
theorem handleArbitrationUpdate_ok {s : State} {update : MasterArbitrationUpdate}
    {controller : ConnectionId} (h : (handleArbitrationUpdate s update controller).status.isOk) :
    ∃ roleConfig s₁, validateRoleConfig s update = .ok roleConfig ∧
      registerConnection s update controller = .ok s₁ ∧
      ((handleArbitrationUpdate s update controller).state,
          (handleArbitrationUpdate s update controller).sent) =
        electPrimary s₁ controller (updateRoleName update) roleConfig
          (s.connection controller).electionId (updateElectionId update) := by
  rcases handleArbitrationUpdate_cases s update controller with ⟨-, -, hfail⟩ | hok
  · exact absurd h hfail
  · obtain ⟨roleConfig, s₁, hvalidate, hregister, -, hrun⟩ := hok
    exact ⟨roleConfig, s₁, hvalidate, hregister, hrun⟩

/-- After a successful `HandleArbitrationUpdate` the state is, up to default
entries, the election's target state over the registered connection. -/
theorem frame_handleArbitrationUpdate_ok {s s₁ : State} {update : MasterArbitrationUpdate}
    {controller : ConnectionId} {roleConfig : Option P4RoleConfig}
    (hvalidate : validateRoleConfig s update = .ok roleConfig)
    (hregister : registerConnection s update controller = .ok s₁) :
    Frame (elected s₁ (updateRoleName update) roleConfig (updateElectionId update))
      (handleArbitrationUpdate s update controller).state := by
  unfold handleArbitrationUpdate
  rw [hvalidate]
  dsimp only
  rw [hregister]
  exact frame_electPrimary _ _ _ _ _ _

/-- The state `Disconnect` informs from: the connection removed, and a
default entry for its role inserted. -/
def disconnected (s : State) (c : ConnectionId) : State :=
  { s with
    electionIdPastByRole := (subscript s.electionIdPastByRole (s.connection c).roleName).2
    connections := s.connections.erase c }

theorem frame_disconnected (s : State) (c : ConnectionId) :
    Frame { s with connections := s.connections.erase c } (disconnected s c) :=
  frame_subscript_past { s with connections := s.connections.erase c } (s.connection c).roleName

/-- `Disconnect` ignores a connection that never arbitrated; otherwise it
removes it and informs its role's connections when it was the primary. -/
theorem disconnect_cases (s : State) (c : ConnectionId) :
    ((s.connection c).initialized = false ∧ (disconnect s c).state = s ∧
        (disconnect s c).sent = []) ∨
      ((s.connection c).initialized = true ∧
        (((disconnect s c).state, (disconnect s c).sent) =
            informConnectionsAboutPrimaryChange (disconnected s c) (s.connection c).roleName ∨
          (disconnect s c).state = disconnected s c ∧ (disconnect s c).sent = [])) := by
  unfold disconnect
  dsimp only
  split_ifs with hinit hprimary
  · exact .inl ⟨by simpa using hinit, rfl, rfl⟩
  · exact .inr ⟨by simpa using hinit, .inl rfl⟩
  · exact .inr ⟨by simpa using hinit, .inr ⟨rfl, rfl⟩⟩

/-- `Disconnect` of a connection that never arbitrated changes nothing. -/
theorem disconnect_state_of_not_initialized {s : State} {c : ConnectionId}
    (hinit : (s.connection c).initialized = false) : (disconnect s c).state = s := by
  unfold disconnect
  simp [hinit]

/-- `Disconnect` of an initialized connection leaves, up to default entries,
the state it informs from. -/
theorem frame_disconnect_state {s : State} {c : ConnectionId}
    (hinit : (s.connection c).initialized = true) :
    Frame (disconnected s c) (disconnect s c).state := by
  rcases disconnect_cases s c with ⟨hnot, -⟩ | ⟨-, hinform | ⟨hstate, -⟩⟩
  · rw [hinit] at hnot
    cases hnot
  · rw [show (disconnect s c).state = _ from congrArg Prod.fst hinform]
    exact frame_informConnectionsAboutPrimaryChange _ _
  · rw [hstate]
    exact Frame.refl _

end Stratum.Ports.SdnControllerManager
