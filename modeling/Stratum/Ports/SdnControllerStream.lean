import Stratum.Ports.SdnControllerPrimary

/-!
# Stream messages to the primary connections

`SendStreamMessageToPrimary` writes a stream message of the switch (a
packet-in, a digest, ...) to every active connection that holds its role's
past election ID, unless the role's config filters the message out; it fails
with `FAILED_PRECONDITION` when no connection took it. `SendPacketInToPrimary`
refuses anything but a packet before calling it.

Like the arbitration responses, the loop reads both maps with `operator[]`,
which inserts a `nullopt` entry under an absent role. From any state this is
a `Frame` step, so the invariants of `SdnControllerInvariants` hold over every
interleaving of stream messages with arbitration updates and disconnections
(`Inv.serviceReachable`). In a reachable state it inserts nothing: every active
connection's role has its past election ID entry, written by the election of
`HandleArbitrationUpdate`, and every role holding a past ID has its config
entry, written beside it (`KeysPresent`). A stream message therefore leaves
the state exactly as it was, including the entries that `AllowRequest` and
`VerifyRoleCanAccessIds` tell apart from absent ones.

Main results:

* `sendLoop_snd` — the loop writes to exactly the connections that
  `Receives` picks, in the order of `connections_`;
* `frame_sendStreamMessageToPrimary` — a stream message is a frame step;
* `sendStreamMessageToPrimary_state` — with the entries present, it changes
  nothing;
* `stream_message_delivery` — in every state reachable by such an
  interleaving, a stream message goes to exactly the primaries whose role
  config lets it through, once each and at most one per role, the call
  fails exactly when it reaches none, and the state is left as it was.
-/

namespace Stratum.Ports.SdnControllerManager

open Stratum.Ports.Status Stratum.Ports.P4Runtime Stratum.Verified.Run

/-! ## The messages and the filter -/

/-- `p4::v1::StreamMessageResponse`: the cases of its `update` oneof, with the
packet the filter reads. -/
inductive StreamMessageResponse
  | arbitration
  | packet (packet : PacketIn)
  | digest
  | idleTimeoutNotification
  | other
  | error
  | updateNotSet
  deriving DecidableEq, Repr

/-- `VerifyStreamMessageNotFiltered`: without a config every message passes;
a configured role takes a packet-in only when it receives packet-ins and,
with a filter, only one that carries the filter's metadata value. -/
def verifyStreamMessageNotFiltered (roleConfig : Option P4RoleConfig)
    (response : StreamMessageResponse) : Bool :=
  match roleConfig with
  | none => true
  | some config =>
      match response with
      | .packet packet =>
          if !config.receivesPacketIns then false
          else
            match config.packetInFilter with
            | none => true
            | some filter => packet.metadata.any fun metadata =>
                filter.metadataId == metadata.metadataId && filter.value == metadata.value
      | _ => true

/-! ## `SendStreamMessageToPrimary` -/

/-- The loop of `SendStreamMessageToPrimary` over `cs`: the state, and the
connections the response was written to, in order. -/
def sendLoop (response : StreamMessageResponse) :
    State → List ConnectionId → State × List ConnectionId
  | s, [] => (s, [])
  | s, c :: cs =>
      let (pastForRole, pastMap) := subscript s.electionIdPastByRole (s.connection c).roleName
      let s := { s with electionIdPastByRole := pastMap }
      if pastForRole.isSome && pastForRole == (s.connection c).electionId then
        let (roleConfig, configMap) := subscript s.roleConfigByName (s.connection c).roleName
        let s := { s with roleConfigByName := configMap }
        if verifyStreamMessageNotFiltered roleConfig response then
          let (s', sent) := sendLoop response s cs
          (s', c :: sent)
        else sendLoop response s cs
      else sendLoop response s cs

/-- What a stream message leaves behind: the state, the status and the
connections it was written to. -/
structure StreamOutcome where
  state : State
  status : GrpcStatus
  delivered : List ConnectionId

/-- The error when no connection took the message. -/
def noPrimaryConnection : GrpcStatus :=
  ⟨.failedPrecondition, "No active role has a primary connection configured to receive " ++
    "StreamMessageResponse messages."⟩

/-- `SdnControllerManager::SendStreamMessageToPrimary`. The `absl::Status`
it returns has the codes of `grpc::Status`. -/
def sendStreamMessageToPrimary (s : State) (response : StreamMessageResponse) :
    StreamOutcome :=
  let (s', sent) := sendLoop response s s.connections
  -- `found_at_least_one_primary` is set exactly when a message is written
  ⟨s', if sent.isEmpty then noPrimaryConnection else .ok, sent⟩

/-- `SdnControllerManager::SendPacketInToPrimary`. -/
def sendPacketInToPrimary (s : State) (response : StreamMessageResponse) : StreamOutcome :=
  match response with
  | .packet _ => sendStreamMessageToPrimary s response
  | _ => ⟨s, ⟨.invalidArgument, "PacketIn message must use a packet."⟩, []⟩

/-! ## Runs with stream messages -/

/-- A call on the manager: an arbitration call, or a stream message of the
switch sent by either entry point. -/
inductive ServiceCall
  | call (call : Call)
  | sendStreamMessage (response : StreamMessageResponse)
  | sendPacketIn (response : StreamMessageResponse)
  deriving DecidableEq, Repr

/-- One call of the service. -/
def serviceStep (s : State) : ServiceCall → State
  | .call call => (step s call).state
  | .sendStreamMessage response => (sendStreamMessageToPrimary s response).state
  | .sendPacketIn response => (sendPacketInToPrimary s response).state

/-- The states a manager created for `deviceId` reaches when stream messages
interleave with the arbitration calls. -/
def ServiceReachable (deviceId : UInt64) (s : State) : Prop :=
  ∃ calls : List ServiceCall, calls.foldl serviceStep (State.init deviceId) = s

/-! ## Who receives a message -/

/-- The value `role_config_by_name_[role]` reads: the stored config, `nullopt`
for an absent key. -/
def configOf (s : State) (roleName : Option String) : Option P4RoleConfig :=
  (s.roleConfigByName.lookup roleName).getD none

theorem subscript_fst_config (s : State) (roleName : Option String) :
    (subscript s.roleConfigByName roleName).1 = configOf s roleName :=
  subscript_fst _ _

/-- A frame step reads the same configs. -/
theorem configOf_of_frame {s s' : State} (h : Frame s s') (roleName : Option String) :
    configOf s' roleName = configOf s roleName := by
  unfold configOf
  cases hs : s.roleConfigByName.lookup roleName with
  | some v =>
      cases v with
      | some config => rw [(h.config roleName config).mpr hs]
      | none =>
          cases hs' : s'.roleConfigByName.lookup roleName with
          | none => rfl
          | some v' =>
              cases v' with
              | none => rfl
              | some config => simp [(h.config roleName config).mp hs'] at hs
  | none =>
      cases hs' : s'.roleConfigByName.lookup roleName with
      | none => rfl
      | some v' =>
          cases v' with
          | none => rfl
          | some config => simp [(h.config roleName config).mp hs'] at hs

/-- The test of the loop for connection `c`: it holds its role's present past
election ID, and the role's config lets the message through. -/
def Receives (s : State) (response : StreamMessageResponse) (c : ConnectionId) : Bool :=
  let roleName := (s.connection c).roleName
  (pastOf s roleName).isSome && pastOf s roleName == (s.connection c).electionId &&
    verifyStreamMessageNotFiltered (configOf s roleName) response

theorem receives_of_frame {s s' : State} (h : Frame s s') (response : StreamMessageResponse) :
    Receives s' response = Receives s response := by
  funext c
  simp only [Receives, h.connection, h.past, configOf_of_frame h]

/-- The loop is a frame step, and writes to the connections `Receives` picks. -/
theorem sendLoop_spec (response : StreamMessageResponse) :
    ∀ (s : State) (cs : List ConnectionId),
      Frame s (sendLoop response s cs).1 ∧ (sendLoop response s cs).2 = cs.filter (Receives s response)
  | s, [] => ⟨Frame.refl s, rfl⟩
  | s, c :: cs => by
      -- the two `operator[]` reads, each a frame step
      have hpast := frame_subscript_past s (s.connection c).roleName
      have hconfig := frame_subscript_config
        { s with electionIdPastByRole := (subscript s.electionIdPastByRole
          (s.connection c).roleName).2 } (s.connection c).roleName
      have hboth := hpast.trans hconfig
      unfold sendLoop
      simp only [subscript_fst_past]
      by_cases hprimary : ((pastOf s (s.connection c).roleName).isSome &&
          pastOf s (s.connection c).roleName == (s.connection c).electionId) = true
      · rw [if_pos hprimary]
        simp only [subscript_fst_config]
        obtain ⟨hframe, hsent⟩ := sendLoop_spec response _ cs
        rw [receives_of_frame hboth] at hsent
        by_cases hfilter : verifyStreamMessageNotFiltered
            (configOf s (s.connection c).roleName) response = true
        · have hc : Receives s response c = true := by simp [Receives, hprimary, hfilter]
          rw [if_pos hfilter, List.filter_cons_of_pos hc]
          exact ⟨hboth.trans hframe, by rw [hsent]⟩
        · have hc : Receives s response c = false := by simp [Receives, hprimary, hfilter]
          rw [if_neg hfilter, List.filter_cons_of_neg (by simp [hc])]
          exact ⟨hboth.trans hframe, hsent⟩
      · rw [if_neg hprimary]
        obtain ⟨hframe, hsent⟩ := sendLoop_spec response _ cs
        rw [receives_of_frame hpast] at hsent
        have hc : Receives s response c = false := by
          simp only [Receives, Bool.and_eq_true, not_and] at hprimary ⊢
          cases hid : ((pastOf s (s.connection c).roleName).isSome &&
            pastOf s (s.connection c).roleName == (s.connection c).electionId) <;> simp_all
        rw [List.filter_cons_of_neg (by simp [hc])]
        exact ⟨hpast.trans hframe, hsent⟩

theorem sendLoop_snd (response : StreamMessageResponse) (s : State) (cs : List ConnectionId) :
    (sendLoop response s cs).2 = cs.filter (Receives s response) :=
  (sendLoop_spec response s cs).2

theorem frame_sendStreamMessageToPrimary (s : State) (response : StreamMessageResponse) :
    Frame s (sendStreamMessageToPrimary s response).state :=
  (sendLoop_spec response s s.connections).1

theorem frame_sendPacketInToPrimary (s : State) (response : StreamMessageResponse) :
    Frame s (sendPacketInToPrimary s response).state := by
  cases response with
  | packet _ => exact frame_sendStreamMessageToPrimary s _
  | _ => exact Frame.refl s

/-! ## The invariant over runs with stream messages -/

theorem Inv.serviceStep_state {s : State} (h : Inv s) : ∀ call, Inv (serviceStep s call)
  | .call call => h.step_state call
  | .sendStreamMessage response => h.of_frame (frame_sendStreamMessageToPrimary s response)
  | .sendPacketIn response => h.of_frame (frame_sendPacketInToPrimary s response)

theorem Inv.serviceReachable {deviceId : UInt64} {s : State} (hs : ServiceReachable deviceId s) :
    Inv s := by
  obtain ⟨calls, rfl⟩ := hs
  exact foldl_invariant serviceStep Inv (fun s call h => h.serviceStep_state call) calls _
    (Inv.init deviceId)

/-! ## `operator[]` finds every entry the stream loop reads -/

theorem subscript_snd_of_mem {β : Type} {m : RoleMap (Option β)} {key : Option String}
    (h : key ∈ m) : (subscript m key).2 = m := by
  obtain ⟨v, hv⟩ := Option.isSome_iff_exists.mp (AList.lookup_isSome.mpr h)
  unfold subscript
  rw [hv]

theorem mem_subscript_snd {β : Type} (m : RoleMap (Option β)) (key r : Option String) :
    r ∈ (subscript m key).2 ↔ r = key ∨ r ∈ m := by
  unfold subscript
  cases h : m.lookup key with
  | some v =>
      have hkey : key ∈ m := AList.lookup_isSome.mp (by rw [h]; rfl)
      constructor
      · exact Or.inr
      · rintro (rfl | hr)
        · exact hkey
        · exact hr
  | none => simp [AList.mem_insert]

/-- `s'` keeps every key of both maps of `s`. -/
structure KeysKept (s s' : State) : Prop where
  past : ∀ r, r ∈ s.electionIdPastByRole → r ∈ s'.electionIdPastByRole
  config : ∀ r, r ∈ s.roleConfigByName → r ∈ s'.roleConfigByName

theorem KeysKept.refl (s : State) : KeysKept s s := ⟨fun _ => id, fun _ => id⟩

theorem KeysKept.trans {s₁ s₂ s₃ : State} (h₁₂ : KeysKept s₁ s₂) (h₂₃ : KeysKept s₂ s₃) :
    KeysKept s₁ s₃ :=
  ⟨fun r h => h₂₃.past r (h₁₂.past r h), fun r h => h₂₃.config r (h₁₂.config r h)⟩

theorem keysKept_subscript_past (s : State) (key : Option String) :
    KeysKept s { s with electionIdPastByRole := (subscript s.electionIdPastByRole key).2 } :=
  ⟨fun r h => (mem_subscript_snd _ key r).mpr (.inr h), fun _ => id⟩

theorem keysKept_subscript_config (s : State) (key : Option String) :
    KeysKept s { s with roleConfigByName := (subscript s.roleConfigByName key).2 } :=
  ⟨fun _ => id, fun r h => (mem_subscript_snd _ key r).mpr (.inr h)⟩

theorem keysKept_primaryConnectionExists (s : State) (roleName : Option String) :
    KeysKept s (primaryConnectionExists s roleName).2 := by
  rw [primaryConnectionExists_snd]
  exact keysKept_subscript_past s roleName

theorem keysKept_sendArbitrationResponse (s : State) (c : ConnectionId) :
    KeysKept s (sendArbitrationResponse s c).1 := by
  unfold sendArbitrationResponse
  dsimp only
  refine KeysKept.trans ?_ (keysKept_primaryConnectionExists _ _)
  cases (s.connection c).roleName with
  | none => exact keysKept_subscript_past s none
  | some name =>
      exact (keysKept_subscript_config s (some name)).trans
        (keysKept_subscript_past { s with roleConfigByName := _ } (some name))

theorem keysKept_informLoop (roleName : Option String) :
    ∀ (s : State) (cs : List ConnectionId), KeysKept s (informLoop roleName s cs).1
  | s, [] => KeysKept.refl s
  | s, c :: cs => by
      unfold informLoop
      split
      · exact (keysKept_sendArbitrationResponse s c).trans
          (keysKept_informLoop roleName (sendArbitrationResponse s c).1 cs)
      · exact keysKept_informLoop roleName s cs

theorem keysKept_informConnectionsAboutPrimaryChange (s : State) (roleName : Option String) :
    KeysKept s (informConnectionsAboutPrimaryChange s roleName).1 :=
  keysKept_informLoop roleName s s.connections

/-- The entries `SendStreamMessageToPrimary` reads exist: every active
connection's role has one in `election_id_past_by_role_`, and every role that
holds a past election ID has one in `role_config_by_name_`. -/
structure KeysPresent (s : State) : Prop where
  past : ∀ c ∈ s.connections, (s.connection c).roleName ∈ s.electionIdPastByRole
  config : ∀ r e, pastOf s r = some e → r ∈ s.roleConfigByName

theorem KeysPresent.of_kept {s s' : State} (hframe : Frame s s') (hkeys : KeysKept s s')
    (h : KeysPresent s) : KeysPresent s' where
  past c hc := by
    rw [hframe.connections] at hc
    rw [hframe.connection]
    exact hkeys.past _ (h.past c hc)
  config r e he := by
    rw [hframe.past] at he
    exact hkeys.config r (h.config r e he)

/-- After registration only the arbitrating connection, of the update's role,
may lack its entry. -/
theorem keysPresent_registerConnection {s s₁ : State} {update : MasterArbitrationUpdate}
    {controller : ConnectionId} (h : KeysPresent s)
    (hreg : registerConnection s update controller = .ok s₁) :
    (∀ c ∈ s₁.connections, (s₁.connection c).roleName ∈ s₁.electionIdPastByRole ∨
        (s₁.connection c).roleName = updateRoleName update) ∧
      ∀ r e, pastOf s₁ r = some e → r ∈ s₁.roleConfigByName := by
  obtain ⟨-, hconfig, hpast, hconn, -⟩ := registerConnection_ok hreg
  refine ⟨fun c hc => ?_, fun r e he => ?_⟩
  · rw [hconn, hpast]
    by_cases hck : c = controller
    · subst hck
      exact .inr (by simp [registered])
    · rw [Function.update_of_ne hck]
      exact .inl (h.past c (((mem_registerConnection hreg) c hc).resolve_left hck))
  · rw [hconfig]
    exact h.config r e (by rwa [pastOf, hpast] at he)

/-- The election's `operator[]` read gives the arbitrating role its entry, and
a new primary stores its config beside its election ID. -/
theorem keysPresent_electPrimary {s : State} {controller : ConnectionId}
    {roleName : Option String} {roleConfig : Option P4RoleConfig}
    {oldElectionId newElectionId : Option Nat}
    (hpast : ∀ c ∈ s.connections, (s.connection c).roleName ∈ s.electionIdPastByRole ∨
      (s.connection c).roleName = roleName)
    (hconfig : ∀ r e, pastOf s r = some e → r ∈ s.roleConfigByName) :
    KeysPresent (electPrimary s controller roleName roleConfig oldElectionId newElectionId).1 := by
  have hread : KeysPresent
      { s with electionIdPastByRole := (subscript s.electionIdPastByRole roleName).2 } := by
    refine ⟨fun c hc => ?_, fun r e he => ?_⟩
    · rw [mem_subscript_snd]
      exact (hpast c hc).symm
    · rw [(frame_subscript_past s roleName).past] at he
      exact hconfig r e he
  unfold electPrimary
  dsimp only
  split_ifs with hnew hwas
  · refine KeysPresent.of_kept (frame_informConnectionsAboutPrimaryChange _ _)
      (keysKept_informConnectionsAboutPrimaryChange _ _) ⟨fun c hc => ?_, fun r e he => ?_⟩
    · exact (AList.mem_insert _).mpr (.inr (hread.past c hc))
    · by_cases hr : r = roleName
      · exact (AList.mem_insert _).mpr (.inl hr)
      · simp only [pastOf, AList.lookup_insert_ne hr] at he
        exact (AList.mem_insert _).mpr (.inr (hread.config r e he))
  · exact hread.of_kept (frame_informConnectionsAboutPrimaryChange _ _)
      (keysKept_informConnectionsAboutPrimaryChange _ _)
  · exact hread.of_kept (frame_sendArbitrationResponse _ _) (keysKept_sendArbitrationResponse _ _)

theorem KeysPresent.handleArbitrationUpdate_state {s : State} (h : KeysPresent s)
    (update : MasterArbitrationUpdate) (controller : ConnectionId) :
    KeysPresent (handleArbitrationUpdate s update controller).state := by
  rcases handleArbitrationUpdate_cases s update controller with ⟨hstate, -, -⟩ | hok
  · rw [hstate]
    exact h
  · obtain ⟨roleConfig, s₁, -, hregister, -, hrun⟩ := hok
    obtain ⟨hpast, hconfig⟩ := keysPresent_registerConnection h hregister
    rw [show (handleArbitrationUpdate s update controller).state = _ from congrArg Prod.fst hrun]
    exact keysPresent_electPrimary hpast hconfig

theorem KeysPresent.disconnect_state {s : State} (h : KeysPresent s) (c : ConnectionId) :
    KeysPresent (disconnect s c).state := by
  cases hinit : (s.connection c).initialized with
  | false =>
      rw [disconnect_state_of_not_initialized hinit]
      exact h
  | true =>
      have herase : KeysPresent { s with connections := s.connections.erase c } :=
        ⟨fun c' hc' => h.past c' (List.mem_of_mem_erase hc'), h.config⟩
      have hdisconnected := herase.of_kept (frame_disconnected s c)
        (keysKept_subscript_past _ (s.connection c).roleName)
      rcases disconnect_cases s c with ⟨hnot, -⟩ | ⟨-, hinform | ⟨hstate, -⟩⟩
      · rw [hinit] at hnot
        cases hnot
      · rw [show (disconnect s c).state = _ from congrArg Prod.fst hinform]
        exact hdisconnected.of_kept (frame_informConnectionsAboutPrimaryChange _ _)
          (keysKept_informConnectionsAboutPrimaryChange _ _)
      · rw [hstate]
        exact hdisconnected

theorem KeysPresent.init (deviceId : UInt64) : KeysPresent (State.init deviceId) where
  past c hc := by simp [State.init] at hc
  config r e he := by simp [pastOf, State.init] at he

/-- In a state with the entries present, the loop's `operator[]` reads find
them, so the loop leaves the state as it was. -/
theorem sendLoop_fst {s : State} (h : KeysPresent s) (response : StreamMessageResponse) :
    ∀ cs : List ConnectionId, (∀ c ∈ cs, c ∈ s.connections) → (sendLoop response s cs).1 = s
  | [], _ => rfl
  | c :: cs, hcs => by
      have hpast := subscript_snd_of_mem (h.past c (hcs c List.mem_cons_self))
      have htail := sendLoop_fst h response cs fun c' hc' => hcs c' (List.mem_cons_of_mem c hc')
      unfold sendLoop
      simp only [subscript_fst_past, hpast]
      by_cases hprimary : ((pastOf s (s.connection c).roleName).isSome &&
          pastOf s (s.connection c).roleName == (s.connection c).electionId) = true
      · obtain ⟨e, he⟩ := Option.isSome_iff_exists.mp (Bool.and_eq_true_iff.mp hprimary).1
        have hconfig := subscript_snd_of_mem (h.config _ e he)
        rw [if_pos hprimary]
        simp only [hconfig]
        split <;> exact htail
      · rw [if_neg hprimary]
        exact htail

theorem sendStreamMessageToPrimary_state {s : State} (h : KeysPresent s)
    (response : StreamMessageResponse) : (sendStreamMessageToPrimary s response).state = s :=
  sendLoop_fst h response s.connections fun _ => id

theorem sendPacketInToPrimary_state {s : State} (h : KeysPresent s)
    (response : StreamMessageResponse) : (sendPacketInToPrimary s response).state = s := by
  cases response with
  | packet _ => exact sendStreamMessageToPrimary_state h _
  | _ => rfl

theorem KeysPresent.serviceStep_state {s : State} (h : KeysPresent s) :
    ∀ call, KeysPresent (serviceStep s call)
  | .call (.handleArbitrationUpdate update controller) =>
      h.handleArbitrationUpdate_state update controller
  | .call (.disconnect c) => h.disconnect_state c
  | .sendStreamMessage response => by
      rw [serviceStep, sendStreamMessageToPrimary_state h]
      exact h
  | .sendPacketIn response => by
      rw [serviceStep, sendPacketInToPrimary_state h]
      exact h

theorem KeysPresent.serviceReachable {deviceId : UInt64} {s : State}
    (hs : ServiceReachable deviceId s) : KeysPresent s := by
  obtain ⟨calls, rfl⟩ := hs
  exact foldl_invariant serviceStep KeysPresent (fun s call h => h.serviceStep_state call) calls _
    (KeysPresent.init deviceId)

/-! ## Delivery -/

/-- For an active connection, the loop's primary test is `IsPrimary`. -/
theorem receives_eq_true_iff {s : State} {response : StreamMessageResponse} {c : ConnectionId}
    (hc : c ∈ s.connections) :
    Receives s response c = true ↔
      IsPrimary s c ∧ verifyStreamMessageNotFiltered (configOf s (s.connection c).roleName)
        response = true := by
  simp only [Receives, Bool.and_eq_true, beq_iff_eq, IsPrimary]
  constructor
  · rintro ⟨⟨hsome, hid⟩, hfilter⟩
    obtain ⟨e, he⟩ := Option.isSome_iff_exists.mp hsome
    exact ⟨⟨hc, e, he, hid ▸ he⟩, hfilter⟩
  · rintro ⟨⟨-, e, he, hid⟩, hfilter⟩
    exact ⟨⟨by simp [he], he.trans hid.symm⟩, hfilter⟩

/-- Two connections that both receive a message and share a role are one,
when election IDs are unique. -/
theorem ElectionIdsUnique.eq_of_receives {s : State} (h : ElectionIdsUnique s)
    {response : StreamMessageResponse} {c₁ c₂ : ConnectionId}
    (h₁ : c₁ ∈ s.connections) (h₂ : c₂ ∈ s.connections)
    (hr₁ : Receives s response c₁ = true) (hr₂ : Receives s response c₂ = true)
    (hrole : (s.connection c₁).roleName = (s.connection c₂).roleName) : c₁ = c₂ := by
  obtain ⟨⟨-, e, hpast₁, hid₁⟩, -⟩ := (receives_eq_true_iff h₁).mp hr₁
  obtain ⟨⟨-, e', hpast₂, hid₂⟩, -⟩ := (receives_eq_true_iff h₂).mp hr₂
  have he : e' = e := by
    rw [← hrole, hpast₁] at hpast₂
    exact (Option.some.inj hpast₂).symm
  subst he
  exact h.eq h₁ h₂ hrole hid₁ hid₂

/-- In every state reachable by an interleaving of arbitration updates,
disconnections and stream messages, `SendStreamMessageToPrimary` writes the
message to exactly the primaries whose role config lets it through, in the
order of `connections_`, once each and to at most one connection of a role;
it returns OK exactly when it wrote to one, and leaves the state as it was. -/
theorem stream_message_delivery {deviceId : UInt64} {s : State}
    (hs : ServiceReachable deviceId s) (response : StreamMessageResponse) :
    let outcome := sendStreamMessageToPrimary s response
    (∀ c, c ∈ outcome.delivered ↔ c ∈ s.connections ∧ IsPrimary s c ∧
        verifyStreamMessageNotFiltered (configOf s (s.connection c).roleName) response = true) ∧
      outcome.delivered.Sublist s.connections ∧ outcome.delivered.Nodup ∧
      (∀ c₁ ∈ outcome.delivered, ∀ c₂ ∈ outcome.delivered,
        (s.connection c₁).roleName = (s.connection c₂).roleName → c₁ = c₂) ∧
      (outcome.status = .ok ↔ outcome.delivered ≠ []) ∧
      (outcome.delivered = [] → outcome.status = noPrimaryConnection) ∧
      outcome.state = s := by
  have hinv := Inv.serviceReachable hs
  have hdelivered : (sendStreamMessageToPrimary s response).delivered =
      s.connections.filter (Receives s response) := sendLoop_snd response s s.connections
  have hstatus : (sendStreamMessageToPrimary s response).status =
      if (sendStreamMessageToPrimary s response).delivered.isEmpty then noPrimaryConnection
      else .ok := rfl
  refine ⟨?_, ?_, ?_, ?_, ?_, ?_,
    sendStreamMessageToPrimary_state (KeysPresent.serviceReachable hs) response⟩
  · intro c
    rw [hdelivered, List.mem_filter]
    constructor
    · rintro ⟨hc, hreceives⟩
      exact ⟨hc, (receives_eq_true_iff hc).mp hreceives⟩
    · rintro ⟨hc, hreceives⟩
      exact ⟨hc, (receives_eq_true_iff hc).mpr hreceives⟩
  · rw [hdelivered]
    exact List.filter_sublist
  · rw [hdelivered]
    exact hinv.nodup.filter _
  · rw [hdelivered]
    intro c₁ h₁ c₂ h₂ hrole
    rw [List.mem_filter] at h₁ h₂
    exact hinv.unique.eq_of_receives h₁.1 h₂.1 h₁.2 h₂.2 hrole
  · rw [hstatus]
    cases (sendStreamMessageToPrimary s response).delivered with
    | nil => simp [noPrimaryConnection, GrpcStatus.ok]
    | cons c cs => simp
  · intro hnil
    rw [hstatus, hnil]
    rfl

/-- Two controllers of the default role, the second elected over the first,
with a packet-in sent between their updates. -/
def packetBetweenUpdates : List ServiceCall :=
  [.call (.handleArbitrationUpdate ⟨0, none, some ⟨0, 1⟩⟩ 1),
    .sendPacketIn (.packet ⟨[1], []⟩),
    .call (.handleArbitrationUpdate ⟨0, none, some ⟨0, 2⟩⟩ 2)]

theorem stream_message_delivery_packetBetweenUpdates :
    ServiceReachable 0 (packetBetweenUpdates.foldl serviceStep (State.init 0)) ∧
      ∀ c, c ∈ (sendStreamMessageToPrimary (packetBetweenUpdates.foldl serviceStep (State.init 0))
          (.packet ⟨[2], []⟩)).delivered ↔
        c ∈ (packetBetweenUpdates.foldl serviceStep (State.init 0)).connections ∧
          IsPrimary (packetBetweenUpdates.foldl serviceStep (State.init 0)) c ∧
          verifyStreamMessageNotFiltered
            (configOf (packetBetweenUpdates.foldl serviceStep (State.init 0))
              ((packetBetweenUpdates.foldl serviceStep (State.init 0)).connection c).roleName)
            (.packet ⟨[2], []⟩) = true :=
  ⟨⟨packetBetweenUpdates, rfl⟩, (stream_message_delivery ⟨packetBetweenUpdates, rfl⟩ _).1⟩

/-- Only the second controller, the primary, gets the packet. -/
example : (sendStreamMessageToPrimary (packetBetweenUpdates.foldl serviceStep (State.init 0))
    (.packet ⟨[2], []⟩)).delivered = [2] := by decide

end Stratum.Ports.SdnControllerManager
