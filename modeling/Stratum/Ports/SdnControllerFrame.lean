import Stratum.Ports.SdnControllerManager

/-!
# What the response paths of `SdnControllerManager` may change

`SendArbitrationResponse`, `PrimaryConnectionExists` and
`InformConnectionsAboutPrimaryChange` only read the manager, except that
their `operator[]` reads insert default (`nullopt`) entries into the two
maps. `Frame s s'` says that `s'` differs from `s` at most by such entries:
the connections are the same, every role's past election ID reads the same,
and every stored role config is the same. The invariants of
`SdnControllerInvariants` depend on nothing else, so every response path
preserves them.

The module also characterises the status of one arbitration response
(`sendArbitrationResponse_status_ok`): it is `OK` exactly for a connection
that holds its role's present past election ID, while some active
connection of the role holds it too.
-/

namespace Stratum.Ports.SdnControllerManager

/-! ## Reading the maps -/

/-- The value `election_id_past_by_role_[role]` reads: the stored ID, `nullopt`
for an absent key. -/
def pastOf (s : State) (roleName : Option String) : Option Nat :=
  (s.electionIdPastByRole.lookup roleName).getD none

theorem subscript_fst {β : Type} (m : RoleMap (Option β)) (key : Option String) :
    (subscript m key).1 = (m.lookup key).getD none := by
  unfold subscript
  cases m.lookup key <;> rfl

/-- `election_id_past_by_role_[role]` reads `pastOf`. -/
theorem subscript_fst_past (s : State) (roleName : Option String) :
    (subscript s.electionIdPastByRole roleName).1 = pastOf s roleName :=
  subscript_fst _ _

/-- `operator[]` leaves every read value as it was. -/
theorem lookup_getD_subscript {β : Type} (m : RoleMap (Option β)) (key r : Option String) :
    ((subscript m key).2.lookup r).getD none = (m.lookup r).getD none := by
  unfold subscript
  cases h : m.lookup key with
  | some v => rfl
  | none =>
      by_cases hr : r = key
      · subst hr
        simp [h]
      · simp [AList.lookup_insert_ne hr]

/-- `operator[]` creates no stored value. -/
theorem lookup_subscript_some {β : Type} (m : RoleMap (Option β)) (key r : Option String)
    (v : β) : (subscript m key).2.lookup r = some (some v) ↔ m.lookup r = some (some v) := by
  unfold subscript
  cases h : m.lookup key with
  | some _ => rfl
  | none =>
      by_cases hr : r = key
      · subst hr
        simp [h]
      · simp [AList.lookup_insert_ne hr]

/-! ## The frame relation -/

/-- `s'` differs from `s` at most by default entries of the two maps. -/
structure Frame (s s' : State) : Prop where
  deviceId : s'.deviceId = s.deviceId
  connections : s'.connections = s.connections
  connection : s'.connection = s.connection
  past : ∀ r, pastOf s' r = pastOf s r
  config : ∀ r c, s'.roleConfigByName.lookup r = some (some c) ↔
    s.roleConfigByName.lookup r = some (some c)

theorem Frame.refl (s : State) : Frame s s :=
  ⟨rfl, rfl, rfl, fun _ => rfl, fun _ _ => Iff.rfl⟩

theorem Frame.trans {s₁ s₂ s₃ : State} (h₁₂ : Frame s₁ s₂) (h₂₃ : Frame s₂ s₃) :
    Frame s₁ s₃ where
  deviceId := h₂₃.deviceId.trans h₁₂.deviceId
  connections := h₂₃.connections.trans h₁₂.connections
  connection := h₂₃.connection.trans h₁₂.connection
  past r := (h₂₃.past r).trans (h₁₂.past r)
  config r c := (h₂₃.config r c).trans (h₁₂.config r c)

/-- Inserting the default entry of `election_id_past_by_role_` is a frame step. -/
theorem frame_subscript_past (s : State) (key : Option String) :
    Frame s { s with electionIdPastByRole := (subscript s.electionIdPastByRole key).2 } where
  deviceId := rfl
  connections := rfl
  connection := rfl
  past r := lookup_getD_subscript _ key r
  config _ _ := Iff.rfl

/-- Inserting the default entry of `role_config_by_name_` is a frame step. -/
theorem frame_subscript_config (s : State) (key : Option String) :
    Frame s { s with roleConfigByName := (subscript s.roleConfigByName key).2 } where
  deviceId := rfl
  connections := rfl
  connection := rfl
  past _ := rfl
  config r c := lookup_subscript_some _ key r c

/-! ## The response paths are frame steps -/

/-- `PrimaryConnectionExists` changes the state only by its `operator[]`. -/
theorem primaryConnectionExists_snd (s : State) (roleName : Option String) :
    (primaryConnectionExists s roleName).2 =
      { s with electionIdPastByRole := (subscript s.electionIdPastByRole roleName).2 } := by
  unfold primaryConnectionExists
  dsimp only
  split <;> rfl

theorem frame_primaryConnectionExists (s : State) (roleName : Option String) :
    Frame s (primaryConnectionExists s roleName).2 := by
  rw [primaryConnectionExists_snd]
  exact frame_subscript_past s roleName

/-- The state `SendArbitrationResponse` leaves before its final existence test. -/
private theorem frame_sendArbitrationResponse_maps (s : State) (roleName : Option String) :
    Frame s { s with
      roleConfigByName :=
        (match roleName with
          | some name =>
              (some (name, (subscript s.roleConfigByName roleName).1),
                (subscript s.roleConfigByName roleName).2)
          | none => (none, s.roleConfigByName)).2
      electionIdPastByRole := (subscript s.electionIdPastByRole roleName).2 } := by
  cases roleName with
  | none => exact frame_subscript_past s none
  | some name =>
      exact (frame_subscript_config s (some name)).trans
        (frame_subscript_past { s with roleConfigByName := _ } (some name))

theorem frame_sendArbitrationResponse (s : State) (c : ConnectionId) :
    Frame s (sendArbitrationResponse s c).1 := by
  unfold sendArbitrationResponse
  exact (frame_sendArbitrationResponse_maps s (s.connection c).roleName).trans
    (frame_primaryConnectionExists _ _)

theorem frame_informLoop (roleName : Option String) :
    ∀ (s : State) (cs : List ConnectionId), Frame s (informLoop roleName s cs).1
  | s, [] => Frame.refl s
  | s, c :: cs => by
      unfold informLoop
      split
      · exact (frame_sendArbitrationResponse s c).trans
          (frame_informLoop roleName (sendArbitrationResponse s c).1 cs)
      · exact frame_informLoop roleName s cs

theorem frame_informConnectionsAboutPrimaryChange (s : State) (roleName : Option String) :
    Frame s (informConnectionsAboutPrimaryChange s roleName).1 :=
  frame_informLoop roleName s s.connections

/-! ## The status of an arbitration response -/

/-- Some active connection of the role holds the election ID `e`. -/
def HoldsActive (s : State) (roleName : Option String) (e : Nat) : Prop :=
  ∃ c ∈ s.connections, (s.connection c).roleName = roleName ∧ (s.connection c).electionId = some e

theorem HoldsActive.of_frame {s s' : State} (h : Frame s s') {roleName : Option String} {e : Nat} :
    HoldsActive s' roleName e ↔ HoldsActive s roleName e := by
  unfold HoldsActive
  rw [h.connections, h.connection]

/-- `PrimaryConnectionExists` holds exactly when the role's past election ID is
present and held by an active connection of the role. -/
theorem primaryConnectionExists_fst (s : State) (roleName : Option String) :
    (primaryConnectionExists s roleName).1 = true ↔
      ∃ e, pastOf s roleName = some e ∧ HoldsActive s roleName e := by
  unfold primaryConnectionExists
  dsimp only
  rw [subscript_fst]
  split
  · rename_i c hfind
    obtain ⟨hc, hmem⟩ := List.find?_some hfind, List.mem_of_find?_eq_some hfind
    simp only [Bool.and_eq_true, beq_iff_eq] at hc
    constructor
    · intro hsome
      obtain ⟨e, he⟩ := Option.isSome_iff_exists.mp hsome
      exact ⟨e, he, c, hmem, hc.1, hc.2.trans he⟩
    · rintro ⟨e, he, -⟩
      exact Option.isSome_iff_exists.mpr ⟨e, he⟩
  · rename_i hfind
    simp only [Bool.false_eq_true, false_iff, not_exists, not_and]
    rintro e he ⟨c, hmem, hrole, hid⟩
    have := List.find?_eq_none.mp hfind c hmem
    simp only [Bool.and_eq_true, beq_iff_eq, not_and] at this
    exact this hrole (hid.trans he.symm)

/-- The response status is `OK` when `PrimaryConnectionExists`, evaluated
after the `operator[]` reads, holds and the role's past ID is the
connection's. -/
private theorem sendArbitrationResponse_status_ok_iff (s : State) (c : ConnectionId) :
    ∃ s₁, Frame s s₁ ∧ ((sendArbitrationResponse s c).2.status.code = .ok ↔
      (primaryConnectionExists s₁ (s.connection c).roleName).1 = true ∧
        pastOf s (s.connection c).roleName = (s.connection c).electionId) := by
  refine ⟨_, frame_sendArbitrationResponse_maps s (s.connection c).roleName, ?_⟩
  unfold sendArbitrationResponse
  dsimp only
  rw [pastOf, ← subscript_fst]
  split_ifs with hexists hpast
  · exact iff_of_true rfl ⟨hexists, by simpa using hpast⟩
  · exact iff_of_false (by decide) fun h => hpast (by simpa using h.2)
  · exact iff_of_false (by decide) fun h => hexists h.1

/-- An arbitration response reports `OK` ("you are the primary") exactly to a
connection holding its role's past election ID while some active connection
of the role holds it. -/
theorem sendArbitrationResponse_status_ok (s : State) (c : ConnectionId) :
    (sendArbitrationResponse s c).2.status.code = .ok ↔
      ∃ e, pastOf s (s.connection c).roleName = some e ∧ (s.connection c).electionId = some e ∧
        HoldsActive s (s.connection c).roleName e := by
  obtain ⟨s₁, hframe, hiff⟩ := sendArbitrationResponse_status_ok_iff s c
  rw [hiff, primaryConnectionExists_fst, hframe.past]
  constructor
  · rintro ⟨⟨e, he, hactive⟩, hpast⟩
    exact ⟨e, he, hpast ▸ he, (HoldsActive.of_frame hframe).mp hactive⟩
  · rintro ⟨e, he, hid, hactive⟩
    exact ⟨⟨e, he, (HoldsActive.of_frame hframe).mpr hactive⟩, he.trans hid.symm⟩

/-- An arbitration response names the connection's role. -/
theorem sendArbitrationResponse_role (s : State) (c : ConnectionId) :
    (sendArbitrationResponse s c).2.role.map Prod.fst = (s.connection c).roleName := by
  unfold sendArbitrationResponse
  dsimp only
  cases (s.connection c).roleName <;> rfl

/-- What `InformConnectionsAboutPrimaryChange` sends: responses to active
connections of the role, and an `OK` one only to a connection holding the
role's past election ID. -/
theorem mem_informLoop_sent (roleName : Option String) :
    ∀ (s : State) (cs : List ConnectionId) (c : ConnectionId) (response : ArbitrationResponse),
      (c, response) ∈ (informLoop roleName s cs).2 →
        c ∈ cs ∧ (s.connection c).roleName = roleName ∧
          (response.status.code = .ok →
            ∃ e, pastOf s roleName = some e ∧ (s.connection c).electionId = some e)
  | s, [], c, response, h => by simp [informLoop] at h
  | s, c' :: cs, c, response, h => by
      unfold informLoop at h
      split at h
      · rename_i hrole
        rcases List.mem_cons.mp h with h | h
        · obtain ⟨rfl, rfl⟩ := Prod.mk.inj h
          refine ⟨List.mem_cons_self, hrole, fun hok => ?_⟩
          obtain ⟨e, he, hid, -⟩ := (sendArbitrationResponse_status_ok s c).mp hok
          exact ⟨e, hrole ▸ he, hid⟩
        · have hframe := frame_sendArbitrationResponse s c'
          obtain ⟨hmem, hrole', hok⟩ :=
            mem_informLoop_sent roleName (sendArbitrationResponse s c').1 cs c response h
          rw [hframe.connection] at hrole' hok
          rw [hframe.past] at hok
          exact ⟨List.mem_cons_of_mem c' hmem, hrole', hok⟩
      · obtain ⟨hmem, hrole', hok⟩ := mem_informLoop_sent roleName s cs c response h
        exact ⟨List.mem_cons_of_mem c' hmem, hrole', hok⟩

end Stratum.Ports.SdnControllerManager
