import Mathlib.Data.List.AList
import Stratum.Verified.SetIntersection
import Stratum.Ports.Status
import Stratum.Ports.P4Utils
import Stratum.Ports.P4Runtime

/-!
# `SdnControllerManager`: arbitration between controller connections

`stratum/lib/p4runtime/sdn_controller_manager.cc` keeps the P4Runtime stream
connections of one device. Every connection belongs to a role (the default
role when it names none) and may carry a 128-bit election ID; per role, the
connection holding the highest election ID ever accepted is the primary and
alone may write. A role's primary may also install a `P4RoleConfig` that
restricts which P4 objects the role's connections may access.

The model follows the class member by member:

* the state is the manager's three members (`connections_`,
  `role_config_by_name_`, `election_id_past_by_role_`) together with the
  `SdnConnection` objects `connections_` points to, addressed by
  `ConnectionId`;
* the two `absl::flat_hash_map`s are `AList`s keyed by the optional role
  name, and `operator[]` is `subscript`, which inserts the default value of an
  absent key;
* every public operation returns an `Outcome`: the state after the call, the
  `grpc::Status` it returns and the arbitration responses it wrote to
  connection streams, in order.

Election IDs are natural numbers: `absl::MakeUint128` of two 64-bit halves
never exceeds `2 ^ 128`, and only equality and `>=` are applied to them.
-/

namespace Stratum.Ports.SdnControllerManager

open Stratum.Ports.Status Stratum.Ports.P4Utils Stratum.Ports.P4Runtime
open Stratum.Verified.BigEndian Stratum.Verified.SetIntersection

/-! ## Role configs and arbitration messages -/

/-- `P4RoleConfig.PacketFilter`. -/
structure PacketFilter where
  metadataId : Nat
  value : ByteString
  deriving DecidableEq, Repr

/-- `stratum::P4RoleConfig` (`stratum/public/proto/p4_role_config.proto`). -/
structure P4RoleConfig where
  exclusiveP4Ids : List Nat
  sharedP4Ids : List Nat
  packetInFilter : Option PacketFilter
  receivesPacketIns : Bool
  canPushPipeline : Bool
  deriving DecidableEq, Repr

/-- The `google.protobuf.Any` holding a role's config, as `UnpackTo` sees it. -/
inductive PackedRoleConfig
  /-- A payload that unpacks to this `P4RoleConfig`. -/
  | p4RoleConfig (config : P4RoleConfig)
  /-- A payload of another message type: `UnpackTo` fails. -/
  | other
  deriving DecidableEq, Repr

/-- `p4::v1::Role` as an arbitration update carries it. -/
structure Role where
  name : String
  config : Option PackedRoleConfig
  deriving DecidableEq, Repr

/-- `p4::v1::MasterArbitrationUpdate` sent by a controller. -/
structure MasterArbitrationUpdate where
  deviceId : UInt64
  role : Option Role
  electionId : Option Uint128
  deriving DecidableEq, Repr

/-- The `MasterArbitrationUpdate` that `SendArbitrationResponse` writes to a
stream. -/
structure ArbitrationResponse where
  deviceId : UInt64
  /-- The role name, and the role's config when one is stored. -/
  role : Option (String × Option P4RoleConfig)
  electionId : Option Uint128
  status : GrpcStatus
  deriving DecidableEq, Repr

/-- `absl::MakeUint128(high, low)`. -/
def makeUint128 (high low : UInt64) : Nat := high.toNat * 2 ^ 64 + low.toNat

/-- `Uint128` message of an election ID, split by `absl::Uint128High64` and
`absl::Uint128Low64`. -/
def toUint128 (id : Nat) : Uint128 := ⟨UInt64.ofNat (id / 2 ^ 64), UInt64.ofNat id⟩

/-! ## Connections and manager state -/

/-- The address of an `SdnConnection` object; `connections_` holds such
non-owning pointers. -/
abbrev ConnectionId := Nat

/-- The fields of `SdnConnection` the manager reads and writes. -/
structure SdnConnection where
  initialized : Bool
  roleName : Option String
  electionId : Option Nat
  deriving DecidableEq, Repr

/-- A connection as the gRPC service creates it: not yet initialized. -/
def SdnConnection.fresh : SdnConnection := ⟨false, none, none⟩

/-- An `absl::flat_hash_map` keyed by role name (`none` is the default role). -/
abbrev RoleMap (β : Type) := AList fun _ : Option String => β

/-- `map[key]` on a map of optional values: the stored value, or `nullopt`
inserted under an absent key. -/
def subscript {β : Type} (m : RoleMap (Option β)) (key : Option String) :
    Option β × RoleMap (Option β) :=
  match m.lookup key with
  | some v => (v, m)
  | none => (none, m.insert key none)

/-- `kP4RuntimeRoleSdnController`. -/
def kP4RuntimeRoleSdnController : String := "sdn_controller"

/-- The manager's members together with the connection objects. -/
structure State where
  deviceId : UInt64
  connections : List ConnectionId
  roleConfigByName : RoleMap (Option P4RoleConfig)
  electionIdPastByRole : RoleMap (Option Nat)
  connection : ConnectionId → SdnConnection

/-- `SdnControllerManager(device_id)`: no connections, unrestricted entries for
the `sdn_controller` role and the default role, no election ID yet. -/
def State.init (deviceId : UInt64) : State where
  deviceId := deviceId
  connections := []
  roleConfigByName :=
    ((∅ : RoleMap (Option P4RoleConfig)).insert none none).insert
      (some kP4RuntimeRoleSdnController) none
  electionIdPastByRole := ∅
  connection := fun _ => SdnConnection.fresh

/-- What a call leaves behind: the new state, the returned status and the
arbitration responses written to streams, in order. -/
structure Outcome where
  state : State
  status : GrpcStatus
  sent : List (ConnectionId × ArbitrationResponse)

/-! ## Messages -/

/-- `PrettyPrintRoleName`. -/
def prettyPrintRoleName : Option String → String
  | some name => "\x27" ++ name ++ "\x27"
  | none => "<default>"

/-- `ShortDebugString()` of a `p4::v1::Uint128`: the proto3 text format lists
the non-zero fields only. -/
def uint128ShortDebugString (id : Nat) : String :=
  " ".intercalate
    ((if id / 2 ^ 64 = 0 then [] else ["high: " ++ toString (id / 2 ^ 64)]) ++
      (if id % 2 ^ 64 = 0 then [] else ["low: " ++ toString (id % 2 ^ 64)]))

/-- `PrettyPrintElectionId`. -/
def prettyPrintElectionId : Option Nat → String
  | some id => "\x7b " ++ uint128ShortDebugString id ++ " \x7d"
  | none => "<backup>"

/-! ## Checks -/

/-- `VerifyElectionIdIsUnused`: a present election ID must not be held by
another active connection of the same role. -/
def verifyElectionIdIsUnused (roleName : Option String) (electionId : Option Nat)
    (activeConnections : List ConnectionId) (connection : ConnectionId → SdnConnection)
    (currentConnection : ConnectionId) : GrpcStatus :=
  match electionId with
  | none => .ok
  | some _ =>
      if activeConnections.any fun c => c != currentConnection &&
          (connection c).roleName == roleName && (connection c).electionId == electionId then
        ⟨.invalidArgument, "Election ID " ++ prettyPrintElectionId electionId ++
          " is already used by another connection with the same role."⟩
      else .ok

/-- `VerifyElectionIdIsActive`: some active connection of the role holds the
election ID. -/
def verifyElectionIdIsActive (roleName : Option String) (electionId : Option Nat)
    (activeConnections : List ConnectionId) (connection : ConnectionId → SdnConnection) :
    GrpcStatus :=
  if activeConnections.any fun c =>
      (connection c).roleName == roleName && (connection c).electionId == electionId then .ok
  else
    ⟨.permissionDenied, "Election ID " ++ prettyPrintElectionId electionId ++
      " is not active for role " ++ prettyPrintRoleName roleName⟩

/-- Two id lists share an element, tested as `VerifyRoleConfig` does: sort
copies of both and check `std::set_intersection` for emptiness. -/
def idsOverlap (xs ys : List Nat) : Bool :=
  setIntersection (sortAscending xs) (sortAscending ys) != []

/-- The loop of `VerifyRoleConfig` over the existing configs: the first
config of another role that conflicts with `config` stops it. -/
def verifyRoleConfigLoop (roleName : Option String) (config : P4RoleConfig) :
    List (Σ _ : Option String, Option P4RoleConfig) → GrpcStatus
  | [] => .ok
  | ⟨_, none⟩ :: rest => verifyRoleConfigLoop roleName config rest
  | ⟨name, some existing⟩ :: rest =>
      if name = roleName then verifyRoleConfigLoop roleName config rest
      else if idsOverlap config.exclusiveP4Ids existing.exclusiveP4Ids then
        ⟨.invalidArgument, "Role config " ++ prettyPrintRoleName roleName ++
          " contains exclusive IDs that overlap with existing exclusive IDs."⟩
      else if idsOverlap config.exclusiveP4Ids existing.sharedP4Ids then
        ⟨.invalidArgument, "Role config " ++ prettyPrintRoleName roleName ++
          " contains exclusive IDs that overlap with existing shared IDs."⟩
      else if idsOverlap config.sharedP4Ids existing.exclusiveP4Ids then
        ⟨.invalidArgument, "Role config " ++ prettyPrintRoleName roleName ++
          " contains shared IDs that overlap with existing exclusive IDs."⟩
      else verifyRoleConfigLoop roleName config rest

/-- `VerifyRoleConfig`: a new config must not claim as exclusive what another
role holds, nor share what another role holds exclusively, and its packet
filter must be usable. -/
def verifyRoleConfig (roleName : Option String) (roleConfig : Option P4RoleConfig)
    (existingConfigs : RoleMap (Option P4RoleConfig)) : GrpcStatus :=
  match roleConfig with
  | none => .ok
  | some config =>
      let loop := verifyRoleConfigLoop roleName config existingConfigs.entries
      if !loop.isOk then loop
      else if !config.receivesPacketIns && config.packetInFilter.isSome then
        ⟨.invalidArgument, "Role config " ++ prettyPrintRoleName roleName ++
          " contains a PacketIn filter, but disables PacketIn delivery."⟩
      else if config.packetInFilter.any (·.value.isEmpty) then
        ⟨.invalidArgument, "Role config " ++ prettyPrintRoleName roleName ++
          " contains an empty PacketIn filter."⟩
      else .ok

/-- The per-ID loop of `VerifyRoleCanAccessIds` for a role holding `config`;
ID `0` names no P4 object and is skipped. -/
def verifyIdsAgainstConfig (roleName : Option String) (config : P4RoleConfig) :
    List Nat → GrpcStatus
  | [] => .ok
  | id :: ids =>
      if id = 0 ∨ id ∈ config.exclusiveP4Ids ∨ id ∈ config.sharedP4Ids then
        verifyIdsAgainstConfig roleName config ids
      else
        ⟨.permissionDenied, "Role " ++ prettyPrintRoleName roleName ++
          " is not allowed to access entity with ID " ++ toString id ++ "."⟩

/-- `VerifyRoleCanAccessIds`: an unknown role is refused, a role without
config may access everything, and a configured role only its exclusive and
shared IDs. -/
def verifyRoleCanAccessIds (roleName : Option String) (ids : List Nat)
    (roleConfigs : RoleMap (Option P4RoleConfig)) : GrpcStatus :=
  match roleConfigs.lookup roleName with
  | none => ⟨.notFound, "Role " ++ prettyPrintRoleName roleName ++ " is unknown."⟩
  | some none => .ok
  | some (some config) => verifyIdsAgainstConfig roleName config ids

/-- `GetP4IdFromEntity`: the P4 object an entity addresses, `0` for none. -/
def getP4IdFromEntity : Entity → Nat
  | .externEntry e => e.externId
  | .tableEntry e => e.tableId
  | .actionProfileMember m => m.actionProfileId
  | .actionProfileGroup g => g.actionProfileId
  | .meterEntry e => e.meterId
  | .directMeterEntry e => e.tableEntry.tableId
  | .counterEntry e => e.counterId
  | .directCounterEntry e => e.tableEntry.tableId
  | .packetReplicationEngineEntry _ => 0
  | .valueSetEntry e => e.valueSetId
  | .registerEntry e => e.registerId
  | .digestEntry e => e.digestId
  | .notSet => 0

/-- `GetP4IdsFromRequest` of a `ReadRequest`: the non-zero IDs, in order. -/
def getP4IdsFromReadRequest (request : ReadRequest) : List Nat :=
  (request.entities.map getP4IdFromEntity).filter (· != 0)

/-- `GetP4IdsFromRequest` of a `WriteRequest`. -/
def getP4IdsFromWriteRequest (request : WriteRequest) : List Nat :=
  (request.updates.map fun u => getP4IdFromEntity u.entity).filter (· != 0)

/-! ## Arbitration responses -/

/-- `PrimaryConnectionExists`: the first active connection of the role holding
the role's past election ID decides, and only a present ID counts. -/
def primaryConnectionExists (s : State) (roleName : Option String) : Bool × State :=
  let (pastForRole, pastMap) := subscript s.electionIdPastByRole roleName
  let s := { s with electionIdPastByRole := pastMap }
  match s.connections.find? fun c =>
      (s.connection c).roleName == roleName && (s.connection c).electionId == pastForRole with
  | some _ => (pastForRole.isSome, s)
  | none => (false, s)

/-- `SendArbitrationResponse`: tell a connection the role's highest election ID
and whether it is the primary. The `operator[]` reads of both maps insert
default entries for the connection's role. -/
def sendArbitrationResponse (s : State) (c : ConnectionId) : State × ArbitrationResponse :=
  let conn := s.connection c
  -- `role_config_by_name_` is only read when the connection names a role
  let (role, roleConfigByName) :=
    match conn.roleName with
    | some name =>
        let (config, m) := subscript s.roleConfigByName conn.roleName
        (some (name, config), m)
    | none => (none, s.roleConfigByName)
  let (pastForRole, pastMap) := subscript s.electionIdPastByRole conn.roleName
  let s := { s with roleConfigByName := roleConfigByName, electionIdPastByRole := pastMap }
  let (primaryExists, s) := primaryConnectionExists s conn.roleName
  let status : GrpcStatus :=
    if primaryExists then
      if pastForRole == conn.electionId then ⟨.ok, "you are the primary connection."⟩
      else
        ⟨.alreadyExists, "you are a backup connection, and a primary connection exists."⟩
    else ⟨.notFound, "you are a backup connection, and NO primary connection exists."⟩
  (s, { deviceId := s.deviceId, role := role, electionId := pastForRole.map toUint128,
        status := status })

/-- The loop of `InformConnectionsAboutPrimaryChange` over `cs`. -/
def informLoop (roleName : Option String) :
    State → List ConnectionId → State × List (ConnectionId × ArbitrationResponse)
  | s, [] => (s, [])
  | s, c :: cs =>
      if (s.connection c).roleName = roleName then
        let (s₁, response) := sendArbitrationResponse s c
        let (s₂, sent) := informLoop roleName s₁ cs
        (s₂, (c, response) :: sent)
      else informLoop roleName s cs

/-- `InformConnectionsAboutPrimaryChange`: an arbitration response to every
active connection of the role. -/
def informConnectionsAboutPrimaryChange (s : State) (roleName : Option String) :
    State × List (ConnectionId × ArbitrationResponse) :=
  informLoop roleName s s.connections

/-! ## `HandleArbitrationUpdate` -/

/-- The role an update asks for: the default role unless it names a
non-empty role. -/
def updateRoleName (update : MasterArbitrationUpdate) : Option String :=
  match update.role with
  | some role => if role.name.isEmpty then none else some role.name
  | none => none

/-- The role config an update carries, its packet filter value made canonical
for later comparison; an `Any` of another type is refused. -/
def updateRoleConfig (update : MasterArbitrationUpdate) :
    Except GrpcStatus (Option P4RoleConfig) :=
  match update.role with
  | some ⟨_, some (.p4RoleConfig config)⟩ =>
      .ok (some { config with
        packetInFilter := config.packetInFilter.map fun f =>
          { f with value := byteStringToP4RuntimeByteString f.value } })
  | some ⟨_, some .other⟩ => .error ⟨.invalidArgument, "Unknown role config format."⟩
  | _ => .ok none

/-- The validation that opens `HandleArbitrationUpdate`: the role config
unpacks, passes `VerifyRoleConfig`, and is not set for the default role. -/
def validateRoleConfig (s : State) (update : MasterArbitrationUpdate) :
    Except GrpcStatus (Option P4RoleConfig) :=
  match updateRoleConfig update with
  | .error status => .error status
  | .ok roleConfig =>
      let status := verifyRoleConfig (updateRoleName update) roleConfig s.roleConfigByName
      if !status.isOk then .error status
      else if (updateRoleName update).isNone && roleConfig.isSome then
        .error ⟨.invalidArgument, "Cannot set a role config for the default role."⟩
      else .ok roleConfig

/-- The new election ID an update asks for. -/
def updateElectionId (update : MasterArbitrationUpdate) : Option Nat :=
  update.electionId.map fun id => makeUint128 id.high id.low

/-- The connection bookkeeping of `HandleArbitrationUpdate`: a first update
initializes the connection and appends it to `connections_`; a later one
may only change the election ID. -/
def registerConnection (s : State) (update : MasterArbitrationUpdate)
    (controller : ConnectionId) : Except GrpcStatus State :=
  let roleName := updateRoleName update
  let newElectionId := updateElectionId update
  let conn := s.connection controller
  if !conn.initialized then
    if update.deviceId != s.deviceId then
      .error ⟨.notFound, "Arbitration request has the wrong device ID \x27" ++
        toString update.deviceId ++ "\x27. Cannot establish connection to this device \x27" ++
        toString s.deviceId ++ "\x27."⟩
    else
      let status := verifyElectionIdIsUnused roleName newElectionId s.connections
        s.connection controller
      if !status.isOk then .error status
      else
        .ok { s with
          connection := Function.update s.connection controller
            { initialized := true, roleName := roleName, electionId := newElectionId }
          connections := s.connections ++ [controller] }
  else
    if update.deviceId != s.deviceId then
      .error ⟨.failedPrecondition, "Arbitration request cannot change the device ID from \x27" ++
        toString s.deviceId ++ "\x27 to \x27" ++ toString update.deviceId ++ "\x27."⟩
    else if roleName != conn.roleName then
      .error ⟨.failedPrecondition, "Arbitration request cannot change the role from " ++
        prettyPrintRoleName conn.roleName ++ " to " ++ prettyPrintRoleName roleName ++ "."⟩
    else
      let status := verifyElectionIdIsUnused roleName newElectionId s.connections
        s.connection controller
      if !status.isOk then .error status
      else
        .ok { s with
          connection := Function.update s.connection controller
            { conn with electionId := newElectionId } }

/-- `connection_is_new_primary`: a present ID at least the role's highest. -/
def isNewPrimary : Option Nat → Option Nat → Bool
  | some newId, some past => decide (past ≤ newId)
  | some _, none => true
  | none, _ => false

/-- The primary election that closes `HandleArbitrationUpdate`, after the
connection bookkeeping succeeded. -/
def electPrimary (s : State) (controller : ConnectionId) (roleName : Option String)
    (roleConfig : Option P4RoleConfig) (oldElectionId newElectionId : Option Nat) :
    State × List (ConnectionId × ArbitrationResponse) :=
  let (pastForRole, pastMap) := subscript s.electionIdPastByRole roleName
  let s := { s with electionIdPastByRole := pastMap }
  let connectionWasPrimary := oldElectionId.isSome && oldElectionId == pastForRole
  if isNewPrimary newElectionId pastForRole then
    informConnectionsAboutPrimaryChange
      { s with
        electionIdPastByRole := s.electionIdPastByRole.insert roleName newElectionId
        roleConfigByName := s.roleConfigByName.insert roleName roleConfig }
      roleName
  else if connectionWasPrimary then informConnectionsAboutPrimaryChange s roleName
  else
    let (s, response) := sendArbitrationResponse s controller
    (s, [(controller, response)])

/-- `SdnControllerManager::HandleArbitrationUpdate`. -/
def handleArbitrationUpdate (s : State) (update : MasterArbitrationUpdate)
    (controller : ConnectionId) : Outcome :=
  match validateRoleConfig s update with
  | .error status => ⟨s, status, []⟩
  | .ok roleConfig =>
      match registerConnection s update controller with
      | .error status => ⟨s, status, []⟩
      | .ok s₁ =>
          let (s₂, sent) := electPrimary s₁ controller (updateRoleName update) roleConfig
            (s.connection controller).electionId (updateElectionId update)
          ⟨s₂, .ok, sent⟩

/-! ## `Disconnect` and request admission -/

/-- `SdnControllerManager::Disconnect`: drop the connection, and announce the
loss if it was its role's primary. -/
def disconnect (s : State) (c : ConnectionId) : Outcome :=
  let conn := s.connection c
  if !conn.initialized then ⟨s, .ok, []⟩
  else
    let (pastForRole, pastMap) := subscript s.electionIdPastByRole conn.roleName
    let wasPrimary := conn.electionId.isSome && conn.electionId == pastForRole
    let s := { s with electionIdPastByRole := pastMap, connections := s.connections.erase c }
    if wasPrimary then
      let (s, sent) := informConnectionsAboutPrimaryChange s conn.roleName
      ⟨s, .ok, sent⟩
    else ⟨s, .ok, []⟩

/-- `SdnControllerManager::AllowRequest(role_name, election_id)`: only the
role's primary may write. -/
def allowRequest (s : State) (roleName : Option String) (electionId : Option Nat) :
    GrpcStatus :=
  match electionId with
  | none => ⟨.permissionDenied, "Request does not have an election ID."⟩
  | some _ =>
      match s.electionIdPastByRole.lookup roleName with
      | none =>
          ⟨.permissionDenied, "Only the primary connection can issue requests, but " ++
            "no primary connection has been established."⟩
      | some pastForRole =>
          if electionId != pastForRole then
            ⟨.permissionDenied, "Only the primary connection can issue requests, but this " ++
              "SDN connection for role " ++ prettyPrintRoleName roleName ++
              " with election ID " ++ prettyPrintElectionId electionId ++ " is not primary."⟩
          else verifyElectionIdIsActive roleName electionId s.connections s.connection

/-- The role a request names: the default role for an empty name. -/
def requestRoleName (role : String) : Option String :=
  if role.isEmpty then none else some role

/-- `SdnControllerManager::AllowRequest(const WriteRequest&)`. -/
def allowWriteRequest (s : State) (request : WriteRequest) : GrpcStatus :=
  let roleName := requestRoleName request.role
  let access := match roleName with
    | some _ => verifyRoleCanAccessIds roleName (getP4IdsFromWriteRequest request)
        s.roleConfigByName
    | none => .ok
  if !access.isOk then access
  else allowRequest s roleName (request.electionId.map fun id => makeUint128 id.high id.low)

/-- `SdnControllerManager::AllowRequest(const ReadRequest&)`. -/
def allowReadRequest (s : State) (request : ReadRequest) : GrpcStatus :=
  match requestRoleName request.role with
  | some name =>
      verifyRoleCanAccessIds (some name) (getP4IdsFromReadRequest request) s.roleConfigByName
  | none => .ok

/-! ## Runs -/

/-- The calls whose runs the manager's invariants range over. -/
inductive Call
  | handleArbitrationUpdate (update : MasterArbitrationUpdate) (controller : ConnectionId)
  | disconnect (connection : ConnectionId)
  deriving DecidableEq, Repr

/-- One call. -/
def step (s : State) : Call → Outcome
  | .handleArbitrationUpdate update controller => handleArbitrationUpdate s update controller
  | .disconnect connection => disconnect s connection

/-- The state after a run of calls. -/
def run (s : State) (calls : List Call) : State :=
  calls.foldl (fun s call => (step s call).state) s

/-- The states a manager created for `deviceId` reaches. -/
def Reachable (deviceId : UInt64) (s : State) : Prop :=
  ∃ calls, run (State.init deviceId) calls = s

end Stratum.Ports.SdnControllerManager
