import Stratum.Ports.SdnControllerPrimary

/-!
# How the past election IDs and the primaries evolve

`election_id_past_by_role_` changes only where `HandleArbitrationUpdate`
finds a new primary, and then to an ID at least the old one. Primary status
is derived from that map, `connections_` and the connections' IDs, which
the calls update separately. This module follows all three through calls
and runs:

* `pastLe_run` — along every run each role's past ID stays set and never
  decreases;
* `handleArbitrationUpdate_isPrimary_iff` — a successful update with a
  present ID makes its connection primary exactly when that ID is at least
  the role's past one;
* `Inv.disconnect_primary_denied`, `Inv.downgrade_denied` — a primary that
  leaves or lowers its ID takes its role's write access with it;
* `noPrimary_run` — a role without primary stays so until an update brings
  an ID at least the role's past one;
* `reachable_primary_election` — the results above together, from every
  reachable state.
-/

namespace Stratum.Ports.SdnControllerManager

open Stratum.Ports.Status Stratum.Verified.Run

/-! ## The election's effect on the state -/

theorem isNewPrimary_some_iff (e : Nat) (past : Option Nat) :
    isNewPrimary (some e) past = true ↔ past = none ∨ ∃ p, past = some p ∧ p ≤ e := by
  cases past with
  | none => simp [isNewPrimary]
  | some p => simp [isNewPrimary]

theorem connections_elected (s : State) (roleName : Option String)
    (roleConfig : Option P4RoleConfig) (newElectionId : Option Nat) :
    (elected s roleName roleConfig newElectionId).connections = s.connections := by
  unfold elected
  split <;> rfl

theorem connection_elected (s : State) (roleName : Option String)
    (roleConfig : Option P4RoleConfig) (newElectionId : Option Nat) :
    (elected s roleName roleConfig newElectionId).connection = s.connection := by
  unfold elected
  split <;> rfl

theorem holdsActive_elected (s : State) (roleName : Option String)
    (roleConfig : Option P4RoleConfig) (newElectionId : Option Nat) (r : Option String) (e : Nat) :
    HoldsActive (elected s roleName roleConfig newElectionId) r e ↔ HoldsActive s r e := by
  unfold HoldsActive
  rw [connections_elected, connection_elected]

theorem pastOf_elected_self (s : State) (roleName : Option String)
    (roleConfig : Option P4RoleConfig) (newElectionId : Option Nat) :
    pastOf (elected s roleName roleConfig newElectionId) roleName =
      if isNewPrimary newElectionId (pastOf s roleName) then newElectionId
      else pastOf s roleName := by
  unfold elected
  split_ifs
  · simp [pastOf]
  · rfl

theorem pastOf_elected_ne {s : State} {roleName r : Option String} (hr : r ≠ roleName)
    (roleConfig : Option P4RoleConfig) (newElectionId : Option Nat) :
    pastOf (elected s roleName roleConfig newElectionId) r = pastOf s r := by
  unfold elected
  split_ifs
  · simp only [pastOf, AList.lookup_insert_ne hr]
  · rfl

/-- Unless the election promotes a connection of role `r`, `r`'s past ID
stays. -/
theorem pastOf_elected_of_not {s : State} {roleName r : Option String}
    {newElectionId : Option Nat}
    (hnot : ¬(roleName = r ∧ isNewPrimary newElectionId (pastOf s r) = true))
    (roleConfig : Option P4RoleConfig) :
    pastOf (elected s roleName roleConfig newElectionId) r = pastOf s r := by
  by_cases hr : r = roleName
  · subst hr
    rw [pastOf_elected_self, if_neg fun hnew => hnot ⟨rfl, hnew⟩]
  · exact pastOf_elected_ne hr roleConfig newElectionId

theorem pastOf_registerConnection {s s₁ : State} {update : MasterArbitrationUpdate}
    {controller : ConnectionId} (hregister : registerConnection s update controller = .ok s₁)
    (r : Option String) : pastOf s₁ r = pastOf s r := by
  obtain ⟨-, -, hpast, -⟩ := registerConnection_ok hregister
  simp only [pastOf, hpast]

/-- An active connection after the bookkeeping is an old one with its old
record, or the arbitrating one with the update's role and ID. -/
theorem holdsActive_of_registerConnection {s s₁ : State} {update : MasterArbitrationUpdate}
    {controller : ConnectionId} (hregister : registerConnection s update controller = .ok s₁)
    {r : Option String} {e : Nat} (hactive : HoldsActive s₁ r e) :
    (∃ c ∈ s.connections, c ≠ controller ∧
        (s.connection c).roleName = r ∧ (s.connection c).electionId = some e) ∨
      (updateRoleName update = r ∧ updateElectionId update = some e) := by
  obtain ⟨-, -, -, hconn, -⟩ := registerConnection_ok hregister
  obtain ⟨c, hc, hrole, hid⟩ := hactive
  rw [hconn] at hrole hid
  by_cases hck : c = controller
  · subst hck
    rw [Function.update_self] at hrole hid
    exact .inr ⟨hrole, hid⟩
  · rw [Function.update_of_ne hck] at hrole hid
    exact .inl ⟨c, (mem_registerConnection hregister c hc).resolve_left hck, hck, hrole, hid⟩

theorem pastOf_disconnected (s : State) (c : ConnectionId) (r : Option String) :
    pastOf (disconnected s c) r = pastOf s r :=
  lookup_getD_subscript _ _ r

/-! ## Past election IDs never decrease -/

/-- Every role's past election ID in `s` is still set in `s'`, and no lower. -/
def PastLe (s s' : State) : Prop :=
  ∀ r p, pastOf s r = some p → ∃ q, pastOf s' r = some q ∧ p ≤ q

theorem PastLe.refl (s : State) : PastLe s s := by
  intro r p hp
  exact ⟨p, hp, le_refl p⟩

theorem PastLe.trans {s₁ s₂ s₃ : State} (h₁₂ : PastLe s₁ s₂) (h₂₃ : PastLe s₂ s₃) :
    PastLe s₁ s₃ := by
  intro r p hp
  obtain ⟨q, hq, hpq⟩ := h₁₂ r p hp
  obtain ⟨t, ht, hqt⟩ := h₂₃ r q hq
  exact ⟨t, ht, le_trans hpq hqt⟩

theorem PastLe.of_past_eq {s s' : State} (h : ∀ r, pastOf s' r = pastOf s r) : PastLe s s' := by
  intro r p hp
  exact ⟨p, (h r).trans hp, le_refl p⟩

/-- The election raises the role's past ID, if at all. -/
theorem pastLe_elected (s : State) (roleName : Option String)
    (roleConfig : Option P4RoleConfig) (newElectionId : Option Nat) :
    PastLe s (elected s roleName roleConfig newElectionId) := by
  intro r p hp
  by_cases hr : r = roleName
  · subst hr
    rw [pastOf_elected_self]
    split_ifs with hnew
    · -- a new primary brings a present ID at least the past one
      cases newElectionId with
      | none => simp [isNewPrimary] at hnew
      | some e =>
          rw [hp, isNewPrimary_some_iff] at hnew
          rcases hnew with hnone | ⟨p', hp', hle⟩
          · cases hnone
          · cases Option.some.inj hp'
            exact ⟨e, rfl, hle⟩
    · exact ⟨p, hp, le_refl p⟩
  · rw [pastOf_elected_ne hr]
    exact ⟨p, hp, le_refl p⟩

theorem pastLe_handleArbitrationUpdate (s : State) (update : MasterArbitrationUpdate)
    (controller : ConnectionId) : PastLe s (handleArbitrationUpdate s update controller).state := by
  rcases handleArbitrationUpdate_cases s update controller with ⟨hstate, -, -⟩ | hok
  · rw [hstate]
    exact PastLe.refl s
  · obtain ⟨roleConfig, s₁, hvalidate, hregister, -⟩ := hok
    have h₁ : PastLe s s₁ := PastLe.of_past_eq (pastOf_registerConnection hregister)
    have hframe := frame_handleArbitrationUpdate_ok hvalidate hregister
    exact (h₁.trans (pastLe_elected s₁ _ _ _)).trans (PastLe.of_past_eq hframe.past)

theorem pastLe_disconnect (s : State) (c : ConnectionId) : PastLe s (disconnect s c).state := by
  cases hinit : (s.connection c).initialized with
  | false =>
      rw [disconnect_state_of_not_initialized hinit]
      exact PastLe.refl s
  | true =>
      have hframe := frame_disconnect_state hinit
      exact PastLe.of_past_eq fun r => (hframe.past r).trans (pastOf_disconnected s c r)

theorem pastLe_step (s : State) : ∀ call, PastLe s (step s call).state
  | .handleArbitrationUpdate update controller => pastLe_handleArbitrationUpdate s update controller
  | .disconnect c => pastLe_disconnect s c

/-- Along every run each role's past election ID stays set and never
decreases. -/
theorem pastLe_run (s : State) (calls : List Call) : PastLe s (run s calls) :=
  foldl_rel (fun s call => (step s call).state) PastLe PastLe.refl
    (fun _ _ _ => PastLe.trans) pastLe_step calls s

/-! ## The outcome of a successful update -/

/-- A connection whose stream is still open: once initialized it stays in
`connections_`, since the gRPC service calls `Disconnect` only when the
stream ends. -/
def Live (s : State) (c : ConnectionId) : Prop :=
  (s.connection c).initialized = true → c ∈ s.connections

theorem connection_handleArbitrationUpdate_ok {s : State} {update : MasterArbitrationUpdate}
    {controller : ConnectionId} (hok : (handleArbitrationUpdate s update controller).status.isOk) :
    (handleArbitrationUpdate s update controller).state.connection controller =
      registered update := by
  obtain ⟨roleConfig, s₁, hvalidate, hregister, -⟩ := handleArbitrationUpdate_ok hok
  obtain ⟨-, -, -, hconn, -⟩ := registerConnection_ok hregister
  rw [(frame_handleArbitrationUpdate_ok hvalidate hregister).connection, connection_elected, hconn,
    Function.update_self]

/-- A successful update keeps a live connection active. -/
theorem mem_connections_handleArbitrationUpdate_ok {s : State} {update : MasterArbitrationUpdate}
    {controller : ConnectionId} (hlive : Live s controller)
    (hok : (handleArbitrationUpdate s update controller).status.isOk) :
    controller ∈ (handleArbitrationUpdate s update controller).state.connections := by
  obtain ⟨roleConfig, s₁, hvalidate, hregister, -⟩ := handleArbitrationUpdate_ok hok
  obtain ⟨-, -, -, -, hpath, -⟩ := registerConnection_ok hregister
  rw [(frame_handleArbitrationUpdate_ok hvalidate hregister).connections, connections_elected]
  rcases hpath with ⟨-, hcs⟩ | ⟨hinit, -, hcs⟩
  · rw [hcs]
    exact List.mem_append_right _ (List.mem_singleton_self controller)
  · rw [hcs]
    exact hlive hinit

/-- After a successful update the role's past election ID is the update's
exactly when the update's ID made a new primary. -/
theorem pastOf_handleArbitrationUpdate_ok {s : State} {update : MasterArbitrationUpdate}
    {controller : ConnectionId} (hok : (handleArbitrationUpdate s update controller).status.isOk) :
    pastOf (handleArbitrationUpdate s update controller).state (updateRoleName update) =
      if isNewPrimary (updateElectionId update) (pastOf s (updateRoleName update)) then
        updateElectionId update
      else pastOf s (updateRoleName update) := by
  obtain ⟨roleConfig, s₁, hvalidate, hregister, -⟩ := handleArbitrationUpdate_ok hok
  rw [(frame_handleArbitrationUpdate_ok hvalidate hregister).past, pastOf_elected_self,
    pastOf_registerConnection hregister]

/-- A successful update with a present ID `e` sets the role's past ID to `e`
exactly when it was unset or at most `e`. -/
theorem pastOf_handleArbitrationUpdate_ok_eq_iff {s : State} {update : MasterArbitrationUpdate}
    {controller : ConnectionId} {e : Nat}
    (hok : (handleArbitrationUpdate s update controller).status.isOk)
    (he : updateElectionId update = some e) :
    pastOf (handleArbitrationUpdate s update controller).state (updateRoleName update) = some e ↔
      pastOf s (updateRoleName update) = none ∨
        ∃ p, pastOf s (updateRoleName update) = some p ∧ p ≤ e := by
  rw [pastOf_handleArbitrationUpdate_ok hok, he, ← isNewPrimary_some_iff]
  split_ifs with hnew
  · exact iff_of_true rfl hnew
  · refine iff_of_false ?_ hnew
    intro hpast
    -- the kept past ID would be `e` itself, which `isNewPrimary` accepts
    rw [hpast, isNewPrimary_some_iff] at hnew
    exact hnew (.inr ⟨e, rfl, le_refl e⟩)

/-- A successful update with a present ID makes a live connection primary
exactly when the ID is at least the role's past one. -/
theorem handleArbitrationUpdate_isPrimary_iff {s : State} {update : MasterArbitrationUpdate}
    {controller : ConnectionId} {e : Nat} (hlive : Live s controller)
    (hok : (handleArbitrationUpdate s update controller).status.isOk)
    (he : updateElectionId update = some e) :
    IsPrimary (handleArbitrationUpdate s update controller).state controller ↔
      pastOf s (updateRoleName update) = none ∨
        ∃ p, pastOf s (updateRoleName update) = some p ∧ p ≤ e := by
  rw [← pastOf_handleArbitrationUpdate_ok_eq_iff hok he]
  have hmem := mem_connections_handleArbitrationUpdate_ok hlive hok
  unfold IsPrimary
  rw [connection_handleArbitrationUpdate_ok hok]
  simp only [registered, he]
  constructor
  · intro hprimary
    obtain ⟨-, x, hpast, hx⟩ := hprimary
    rw [hpast, hx]
  · intro hpast
    exact ⟨hmem, e, hpast, rfl⟩

/-! ## Losing the primary -/

/-- A primary that disconnects leaves its role with no admitted election ID. -/
theorem Inv.disconnect_primary_denied {s : State} (h : Inv s) {c : ConnectionId}
    (hc : IsPrimary s c) (x : Option Nat) :
    ¬(allowRequest (disconnect s c).state (s.connection c).roleName x).isOk := by
  obtain ⟨hmem, e, hpast, hid⟩ := hc
  have hframe := frame_disconnect_state (h.initialized c hmem)
  rw [allowRequest_isOk_iff]
  intro hallowed
  obtain ⟨x', -, hpast', hactive⟩ := hallowed
  rw [hframe.past, pastOf_disconnected, hpast] at hpast'
  cases Option.some.inj hpast'
  obtain ⟨c', hc', hrole, hid'⟩ := (HoldsActive.of_frame hframe).mp hactive
  have hc'' : c' ∈ s.connections.erase c := hc'
  -- the holder of the ID is unique, and it is gone
  have hne : c' ≠ c := ((List.Nodup.mem_erase_iff h.nodup).mp hc'').1
  exact hne (h.unique.eq (List.mem_of_mem_erase hc'') hmem hrole hid' hid)

/-- A primary whose update lowers its election ID, or drops it, leaves its
role with no admitted election ID. -/
theorem Inv.downgrade_denied {s : State} (h : Inv s) {update : MasterArbitrationUpdate}
    {c : ConnectionId} {e : Nat} (hc : IsPrimary s c) (hid : (s.connection c).electionId = some e)
    (hlower : ∀ e', updateElectionId update = some e' → e' < e)
    (hok : (handleArbitrationUpdate s update c).status.isOk) (x : Option Nat) :
    ¬(allowRequest (handleArbitrationUpdate s update c).state
      (s.connection c).roleName x).isOk := by
  obtain ⟨hmem, e₀, hpast, hid₀⟩ := hc
  rw [hid] at hid₀
  cases Option.some.inj hid₀
  obtain ⟨roleConfig, s₁, hvalidate, hregister, -⟩ := handleArbitrationUpdate_ok hok
  -- the lowered ID does not make a new primary
  have hnot : ¬(updateRoleName update = (s.connection c).roleName ∧
      isNewPrimary (updateElectionId update) (pastOf s₁ (s.connection c).roleName) = true) := by
    rintro ⟨-, hnew⟩
    rw [pastOf_registerConnection hregister, hpast] at hnew
    cases hnew' : updateElectionId update with
    | none =>
        rw [hnew'] at hnew
        cases hnew
    | some e' =>
        rw [hnew', isNewPrimary_some_iff] at hnew
        have hlt := hlower e' hnew'
        rcases hnew with hnone | ⟨p, hp, hle⟩
        · cases hnone
        · cases Option.some.inj hp
          omega
  have hframe := frame_handleArbitrationUpdate_ok hvalidate hregister
  rw [allowRequest_isOk_iff]
  intro hallowed
  obtain ⟨x', -, hpast', hactive⟩ := hallowed
  rw [hframe.past, pastOf_elected_of_not hnot, pastOf_registerConnection hregister, hpast] at hpast'
  cases Option.some.inj hpast'
  rw [HoldsActive.of_frame hframe, holdsActive_elected] at hactive
  rcases holdsActive_of_registerConnection hregister hactive with
    ⟨c', hc', hne, hrole', hid'⟩ | ⟨-, hnew⟩
  · exact hne (h.unique.eq hc' hmem hrole' hid' hid)
  · exact absurd (hlower _ hnew) (lt_irrefl _)

/-! ## No primary until a high enough ID arrives -/

/-- No active connection of the role holds the role's past election ID. -/
def NoPrimary (s : State) (r : Option String) : Prop :=
  ∀ e, pastOf s r = some e → ¬HoldsActive s r e

theorem noPrimary_iff (s : State) (r : Option String) :
    (∀ x, ¬(allowRequest s r x).isOk) ↔ NoPrimary s r := by
  constructor
  · intro hdenied e hpast hactive
    exact hdenied (some e) ((allowRequest_isOk_iff s r (some e)).mpr ⟨e, rfl, hpast, hactive⟩)
  · intro hno x hallowed
    obtain ⟨e, -, hpast, hactive⟩ := (allowRequest_isOk_iff s r x).mp hallowed
    exact hno e hpast hactive

/-- A call that would make a connection of role `r` primary: an arbitration
update for `r` whose election ID is at least the role's past one. -/
def Promotes (s : State) (r : Option String) : Call → Prop
  | .handleArbitrationUpdate update _ =>
      updateRoleName update = r ∧ isNewPrimary (updateElectionId update) (pastOf s r) = true
  | .disconnect _ => False

/-- No call of the run from `s` promotes a connection of role `r`. -/
def NoPromotion (s : State) (r : Option String) (calls : List Call) : Prop :=
  Guarded (fun s call => (step s call).state) (fun s call => ¬Promotes s r call) s calls

theorem noPrimary_handleArbitrationUpdate {s : State} {r : Option String} (h : NoPrimary s r)
    {update : MasterArbitrationUpdate} {controller : ConnectionId}
    (hnot : ¬(updateRoleName update = r ∧
      isNewPrimary (updateElectionId update) (pastOf s r) = true)) :
    NoPrimary (handleArbitrationUpdate s update controller).state r := by
  rcases handleArbitrationUpdate_cases s update controller with ⟨hstate, -, -⟩ | hok
  · rw [hstate]
    exact h
  · obtain ⟨roleConfig, s₁, hvalidate, hregister, -⟩ := hok
    have hframe := frame_handleArbitrationUpdate_ok hvalidate hregister
    intro e hpast hactive
    rw [← pastOf_registerConnection hregister] at hnot
    rw [hframe.past, pastOf_elected_of_not hnot, pastOf_registerConnection hregister] at hpast
    rw [HoldsActive.of_frame hframe, holdsActive_elected] at hactive
    rcases holdsActive_of_registerConnection hregister hactive with
      ⟨c, hc, -, hrole, hid⟩ | ⟨hrole, hid⟩
    · exact h e hpast ⟨c, hc, hrole, hid⟩
    · -- the update would bring the past ID itself, which promotes
      rw [pastOf_registerConnection hregister, hid, hpast, isNewPrimary_some_iff] at hnot
      exact hnot ⟨hrole, .inr ⟨e, rfl, le_refl e⟩⟩

theorem noPrimary_disconnect {s : State} {r : Option String} (h : NoPrimary s r)
    (c : ConnectionId) : NoPrimary (disconnect s c).state r := by
  cases hinit : (s.connection c).initialized with
  | false =>
      rw [disconnect_state_of_not_initialized hinit]
      exact h
  | true =>
      have hframe := frame_disconnect_state hinit
      intro e hpast hactive
      rw [hframe.past, pastOf_disconnected] at hpast
      obtain ⟨c', hc', hrole, hid⟩ := (HoldsActive.of_frame hframe).mp hactive
      exact h e hpast ⟨c', List.mem_of_mem_erase hc', hrole, hid⟩

theorem noPrimary_step {s : State} {r : Option String} (h : NoPrimary s r) :
    ∀ call, ¬Promotes s r call → NoPrimary (step s call).state r
  | .handleArbitrationUpdate _ _, hnot => noPrimary_handleArbitrationUpdate h hnot
  | .disconnect c, _ => noPrimary_disconnect h c

/-- A role without primary stays so along every run that brings no update
for the role with an ID at least its past one. -/
theorem noPrimary_run {s : State} {r : Option String} {calls : List Call} (h : NoPrimary s r)
    (hcalls : NoPromotion s r calls) : NoPrimary (run s calls) r :=
  foldl_invariant_guarded (fun s call => (step s call).state) (fun s call => ¬Promotes s r call)
    (fun s => NoPrimary s r) (fun _ call hnot hs => noPrimary_step hs call hnot) calls s hcalls h

/-! ## The primary election from a reachable state -/

/-- From every reachable state: along every run each role's past election ID
stays set and never decreases; a successful update with a present ID `e`
sets the role's past ID to `e`, and makes its (live) connection primary,
exactly when the past ID was unset or at most `e`; `AllowRequest(r, x)`
admits exactly a present `x` equal to `r`'s past ID and held by an active
connection of `r`; a primary that disconnects, or lowers or drops its ID,
leaves its role with no admitted ID; and a role without admitted ID stays
so until an update for it brings an ID at least its past one. -/
theorem reachable_primary_election {deviceId : UInt64} {s : State} (hs : Reachable deviceId s) :
    (∀ calls, PastLe s (run s calls)) ∧
      (∀ update controller e, (handleArbitrationUpdate s update controller).status.isOk →
        updateElectionId update = some e →
        ((handleArbitrationUpdate s update controller).state.connection controller).electionId =
            some e ∧
          (pastOf (handleArbitrationUpdate s update controller).state (updateRoleName update) =
              some e ↔
            pastOf s (updateRoleName update) = none ∨
              ∃ p, pastOf s (updateRoleName update) = some p ∧ p ≤ e) ∧
          (Live s controller →
            (IsPrimary (handleArbitrationUpdate s update controller).state controller ↔
              pastOf s (updateRoleName update) = none ∨
                ∃ p, pastOf s (updateRoleName update) = some p ∧ p ≤ e))) ∧
      (∀ r x, (allowRequest s r x).isOk ↔
        ∃ e, x = some e ∧ pastOf s r = some e ∧ HoldsActive s r e) ∧
      (∀ c, IsPrimary s c → ∀ x,
        ¬(allowRequest (disconnect s c).state (s.connection c).roleName x).isOk) ∧
      (∀ update c e, IsPrimary s c → (s.connection c).electionId = some e →
        (∀ e', updateElectionId update = some e' → e' < e) →
        (handleArbitrationUpdate s update c).status.isOk →
        ∀ x, ¬(allowRequest (handleArbitrationUpdate s update c).state
          (s.connection c).roleName x).isOk) ∧
      (∀ r calls, (∀ x, ¬(allowRequest s r x).isOk) → NoPromotion s r calls →
        ∀ x, ¬(allowRequest (run s calls) r x).isOk) := by
  have h := Inv.reachable hs
  refine ⟨pastLe_run s, ?_, allowRequest_isOk_iff s, fun c hc => h.disconnect_primary_denied hc,
    fun update c e hc hid hlower hok => h.downgrade_denied hc hid hlower hok, ?_⟩
  · intro update controller e hok he
    have hid :
        ((handleArbitrationUpdate s update controller).state.connection controller).electionId =
          some e := by
      rw [connection_handleArbitrationUpdate_ok hok]
      exact he
    exact ⟨hid, pastOf_handleArbitrationUpdate_ok_eq_iff hok he,
      fun hlive => handleArbitrationUpdate_isPrimary_iff hlive hok he⟩
  · intro r calls hdenied hcalls
    rw [noPrimary_iff] at hdenied ⊢
    exact noPrimary_run hdenied hcalls

theorem primary_election_twoControllers :
    Reachable 0 (run (State.init 0) twoControllers) ∧
      ∀ calls, PastLe (run (State.init 0) twoControllers)
        (run (run (State.init 0) twoControllers) calls) :=
  ⟨⟨twoControllers, rfl⟩, (reachable_primary_election ⟨twoControllers, rfl⟩).1⟩

end Stratum.Ports.SdnControllerManager
