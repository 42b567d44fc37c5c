import Stratum.Ports.SdnControllerInvariants

/-!
# The primary connection of a role

`SdnControllerManager` stores no primary: a connection is its role's primary
when it is active and holds the role's past election ID (`IsPrimary`), and
`SendArbitrationResponse` and `AllowRequest` both test exactly this. This
module draws the consequences of `Inv` for the primary:

* `allowRequest_isOk_iff` — `AllowRequest(role, id)` admits a present ID
  equal to the role's past ID that an active connection of the role holds;
* `reachable_single_primary` — in every reachable state a role has at most
  one primary, `AllowRequest` admits at most one ID per role, and every call
  reports "you are the primary" to at most one connection.
-/

namespace Stratum.Ports.SdnControllerManager

open Stratum.Ports.Status Stratum.Verified.Run

/-! ## Primaries and admitted election IDs -/

/-- An active connection holding its role's past election ID. -/
def IsPrimary (s : State) (c : ConnectionId) : Prop :=
  c ∈ s.connections ∧
    ∃ e, pastOf s (s.connection c).roleName = some e ∧ (s.connection c).electionId = some e

/-- Two active connections of one role holding one present election ID are
the same connection. -/
theorem ElectionIdsUnique.eq {s : State} (h : ElectionIdsUnique s) {c₁ c₂ : ConnectionId}
    (h₁ : c₁ ∈ s.connections) (h₂ : c₂ ∈ s.connections)
    (hrole : (s.connection c₁).roleName = (s.connection c₂).roleName) {e : Nat}
    (hid₁ : (s.connection c₁).electionId = some e) (hid₂ : (s.connection c₂).electionId = some e) :
    c₁ = c₂ := by
  by_contra hne
  exact h c₁ h₁ c₂ h₂ hne hrole e hid₁ hid₂

/-- An active connection is told it is the primary exactly when it is. -/
theorem sendArbitrationResponse_status_ok_iff_isPrimary {s : State} {c : ConnectionId}
    (hc : c ∈ s.connections) :
    (sendArbitrationResponse s c).2.status.code = .ok ↔ IsPrimary s c := by
  rw [sendArbitrationResponse_status_ok]
  constructor
  · intro hok
    obtain ⟨e, hpast, hid, -⟩ := hok
    exact ⟨hc, e, hpast, hid⟩
  · intro hprimary
    obtain ⟨-, e, hpast, hid⟩ := hprimary
    exact ⟨e, hpast, hid, c, hc, rfl, hid⟩

/-- `AllowRequest(role, id)` admits exactly a present ID that is the role's
past election ID and is held by an active connection of the role. -/
theorem allowRequest_isOk_iff (s : State) (roleName : Option String) (electionId : Option Nat) :
    (allowRequest s roleName electionId).isOk ↔
      ∃ e, electionId = some e ∧ pastOf s roleName = some e ∧ HoldsActive s roleName e := by
  unfold allowRequest
  cases electionId with
  | none => simp [GrpcStatus.isOk]
  | some e =>
      dsimp only
      cases hlookup : s.electionIdPastByRole.lookup roleName with
      | none => simp [GrpcStatus.isOk, pastOf, hlookup]
      | some past =>
          dsimp only
          have hpast : pastOf s roleName = past := by simp [pastOf, hlookup]
          by_cases heq : some e = past
          · -- the ID is the role's past one: the activity test decides
            rw [if_neg (by simpa using heq), verifyElectionIdIsActive_isOk]
            constructor
            · intro hactive
              exact ⟨e, rfl, hpast.trans heq.symm, hactive⟩
            · intro hsome
              obtain ⟨x, hx, -, hactive⟩ := hsome
              cases Option.some.inj hx
              exact hactive
          · rw [if_pos (by simpa using heq)]
            constructor
            · intro hok
              simp [GrpcStatus.isOk] at hok
            · intro hsome
              obtain ⟨x, hx, hpx, -⟩ := hsome
              cases Option.some.inj hx
              exact absurd (hpast.symm.trans hpx).symm heq

/-! ## At most one "you are the primary" per call -/

/-- Every `OK` response of `sent` goes to one connection. -/
def OkResponsesUnique (sent : List (ConnectionId × ArbitrationResponse)) : Prop :=
  ∀ c₁ r₁ c₂ r₂, (c₁, r₁) ∈ sent → (c₂, r₂) ∈ sent →
    r₁.status.code = .ok → r₂.status.code = .ok → c₁ = c₂

theorem okResponsesUnique_nil : OkResponsesUnique [] := by
  intro c₁ r₁ c₂ r₂ h₁
  cases h₁

theorem okResponsesUnique_singleton (c : ConnectionId) (response : ArbitrationResponse) :
    OkResponsesUnique [(c, response)] := by
  intro c₁ r₁ c₂ r₂ h₁ h₂ _ _
  have hc₁ : c₁ = c := (Prod.mk.inj (List.mem_singleton.mp h₁)).1
  have hc₂ : c₂ = c := (Prod.mk.inj (List.mem_singleton.mp h₂)).1
  rw [hc₁, hc₂]

/-- `InformConnectionsAboutPrimaryChange` reports `OK` only to the holder of
the role's past election ID, which is unique among active connections. -/
theorem okResponsesUnique_inform {s : State} (h : ElectionIdsUnique s) (roleName : Option String) :
    OkResponsesUnique (informConnectionsAboutPrimaryChange s roleName).2 := by
  intro c₁ r₁ c₂ r₂ h₁ h₂ hok₁ hok₂
  obtain ⟨hmem₁, hrole₁, hpast₁⟩ := mem_informLoop_sent roleName s s.connections c₁ r₁ h₁
  obtain ⟨hmem₂, hrole₂, hpast₂⟩ := mem_informLoop_sent roleName s s.connections c₂ r₂ h₂
  obtain ⟨e₁, he₁, hid₁⟩ := hpast₁ hok₁
  obtain ⟨e₂, he₂, hid₂⟩ := hpast₂ hok₂
  have he : e₁ = e₂ := Option.some.inj (he₁.symm.trans he₂)
  rw [← he] at hid₂
  exact h.eq hmem₁ hmem₂ (hrole₁.trans hrole₂.symm) hid₁ hid₂

theorem okResponsesUnique_electPrimary {s : State} {controller : ConnectionId}
    {roleName : Option String} {roleConfig : Option P4RoleConfig}
    {oldElectionId newElectionId : Option Nat}
    (h : Inv (elected s roleName roleConfig newElectionId)) :
    OkResponsesUnique
      (electPrimary s controller roleName roleConfig oldElectionId newElectionId).2 := by
  rcases electPrimary_sent s controller roleName roleConfig oldElectionId newElectionId with
    ⟨response, hsent⟩ | ⟨s', hframe, hsent⟩
  · rw [hsent]
    exact okResponsesUnique_singleton controller response
  · rw [hsent]
    exact okResponsesUnique_inform (h.of_frame hframe).unique roleName

/-- From a state satisfying the invariant, no call reports "you are the
primary" to two connections. -/
theorem Inv.step_okResponsesUnique {s : State} (h : Inv s) :
    ∀ call, OkResponsesUnique (step s call).sent
  | .handleArbitrationUpdate update controller => by
      show OkResponsesUnique (handleArbitrationUpdate s update controller).sent
      rcases handleArbitrationUpdate_cases s update controller with ⟨-, hsent, -⟩ | hok
      · rw [hsent]
        exact okResponsesUnique_nil
      · obtain ⟨roleConfig, s₁, hvalidate, hregister, -, hrun⟩ := hok
        rw [show (handleArbitrationUpdate s update controller).sent = _ from congrArg Prod.snd hrun]
        exact okResponsesUnique_electPrimary (inv_elected_of_ok h hvalidate hregister)
  | .disconnect c => by
      show OkResponsesUnique (disconnect s c).sent
      rcases disconnect_cases s c with ⟨-, -, hsent⟩ | ⟨-, hinform | ⟨-, hsent⟩⟩
      · rw [hsent]
        exact okResponsesUnique_nil
      · rw [show (disconnect s c).sent = _ from congrArg Prod.snd hinform]
        exact okResponsesUnique_inform (inv_disconnected h c).unique _
      · rw [hsent]
        exact okResponsesUnique_nil

/-! ## A single primary -/

/-- In every reachable state no two active connections share a role and a
present election ID; hence a role has at most one active connection holding
its past election ID, `AllowRequest` admits at most one election ID per
role, `SendArbitrationResponse` tells at most one active connection of a
role that it is the primary, and no call reports so to two connections. -/
theorem reachable_single_primary {deviceId : UInt64} {s : State} (hs : Reachable deviceId s) :
    ElectionIdsUnique s ∧
      (∀ c₁ ∈ s.connections, ∀ c₂ ∈ s.connections, ∀ r e, pastOf s r = some e →
        (s.connection c₁).roleName = r → (s.connection c₂).roleName = r →
        (s.connection c₁).electionId = some e → (s.connection c₂).electionId = some e →
        c₁ = c₂) ∧
      (∀ r e₁ e₂, (allowRequest s r e₁).isOk → (allowRequest s r e₂).isOk → e₁ = e₂) ∧
      (∀ c₁ ∈ s.connections, ∀ c₂ ∈ s.connections,
        (s.connection c₁).roleName = (s.connection c₂).roleName →
        (sendArbitrationResponse s c₁).2.status.code = .ok →
        (sendArbitrationResponse s c₂).2.status.code = .ok → c₁ = c₂) ∧
      ∀ call, OkResponsesUnique (step s call).sent := by
  have h := Inv.reachable hs
  refine ⟨h.unique, ?_, ?_, ?_, h.step_okResponsesUnique⟩
  · intro c₁ h₁ c₂ h₂ r e _ hrole₁ hrole₂ hid₁ hid₂
    exact h.unique.eq h₁ h₂ (hrole₁.trans hrole₂.symm) hid₁ hid₂
  · intro r e₁ e₂ hok₁ hok₂
    obtain ⟨x₁, hx₁, hpast₁, -⟩ := (allowRequest_isOk_iff s r e₁).mp hok₁
    obtain ⟨x₂, hx₂, hpast₂, -⟩ := (allowRequest_isOk_iff s r e₂).mp hok₂
    rw [hx₁, hx₂, ← hpast₁, ← hpast₂]
  · intro c₁ h₁ c₂ h₂ hrole hok₁ hok₂
    obtain ⟨-, e₁, hpast₁, hid₁⟩ := (sendArbitrationResponse_status_ok_iff_isPrimary h₁).mp hok₁
    obtain ⟨-, e₂, hpast₂, hid₂⟩ := (sendArbitrationResponse_status_ok_iff_isPrimary h₂).mp hok₂
    have he : e₁ = e₂ := by
      rw [hrole] at hpast₁
      exact Option.some.inj (hpast₁.symm.trans hpast₂)
    rw [← he] at hid₂
    exact h.unique.eq h₁ h₂ hrole hid₁ hid₂

/-- Two controllers of the default role: the second, with the higher
election ID, takes over. -/
def twoControllers : List Call :=
  [.handleArbitrationUpdate ⟨0, none, some ⟨0, 1⟩⟩ 1,
    .handleArbitrationUpdate ⟨0, none, some ⟨0, 2⟩⟩ 2]

theorem single_primary_twoControllers :
    Reachable 0 (run (State.init 0) twoControllers) ∧
      ElectionIdsUnique (run (State.init 0) twoControllers) :=
  ⟨⟨twoControllers, rfl⟩, (reachable_single_primary ⟨twoControllers, rfl⟩).1⟩

end Stratum.Ports.SdnControllerManager
