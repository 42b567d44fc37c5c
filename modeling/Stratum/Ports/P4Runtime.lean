import Stratum.Verified.BigEndian

/-!
# P4Runtime messages

The P4Runtime v1 protobuf messages (`p4/v1/p4runtime.proto`, outside this
repository) that the modelled code reads or writes. Only the fields some
modelled function reads or sets are kept. A `oneof` is an inductive type whose
`notSet` case is the unset `oneof`; an optional sub-message (one with a
`has_` accessor) is an `Option`. Numeric fields are natural numbers or
integers as their protobuf type is unsigned or signed; byte fields are
`ByteString`s.
-/

namespace Stratum.Ports.P4Runtime

open Stratum.Verified.BigEndian

/-- The `field_match_type` oneof of `FieldMatch`. -/
inductive FieldMatchType
  | exact (value : ByteString)
  | ternary (value mask : ByteString)
  | lpm (value : ByteString) (prefixLen : Int)
  | range (low high : ByteString)
  | optional (value : ByteString)
  /-- `FieldMatch.other`, an `Any` for architecture-specific match kinds. -/
  | other
  | notSet
  deriving DecidableEq, Repr

/-- `FieldMatch`. -/
structure FieldMatch where
  fieldId : Nat
  fieldMatchType : FieldMatchType
  deriving DecidableEq, Repr

/-- `Action.Param`. -/
structure Param where
  paramId : Nat
  value : ByteString
  deriving DecidableEq, Repr

/-- `Action`. -/
structure Action where
  actionId : Nat
  params : List Param
  deriving DecidableEq, Repr

/-- `ActionProfileAction`. -/
structure ActionProfileAction where
  action : Action
  weight : Int
  deriving DecidableEq, Repr

/-- The `type` oneof of `TableAction`. -/
inductive TableAction
  | action (action : Action)
  | actionProfileMemberId (memberId : Nat)
  | actionProfileGroupId (groupId : Nat)
  /-- `action_profile_action_set`, the list of its `action_profile_actions`. -/
  | actionProfileActionSet (actions : List ActionProfileAction)
  | notSet
  deriving DecidableEq, Repr

/-- `CounterData`. -/
structure CounterData where
  byteCount : Int
  packetCount : Int
  deriving DecidableEq, Repr

/-- `MeterConfig`. -/
structure MeterConfig where
  cir : Int
  cburst : Int
  pir : Int
  pburst : Int
  deriving DecidableEq, Repr

/-- `TableEntry`. Its repeated field `match`, a keyword in Lean, is `fieldMatches`. -/
structure TableEntry where
  tableId : Nat
  fieldMatches : List FieldMatch
  action : Option TableAction
  priority : Int
  controllerMetadata : Nat
  meterConfig : Option MeterConfig
  counterData : Option CounterData
  isDefaultAction : Bool
  idleTimeoutNs : Int
  /-- `time_since_last_hit`, by its `elapsed_ns`. -/
  timeSinceLastHit : Option Int
  metadata : ByteString
  deriving DecidableEq, Repr

/-- `table_entry.action().action_profile_member_id()`: zero unless the action
is a member reference. -/
def TableEntry.actionProfileMemberId (entry : TableEntry) : Nat :=
  match entry.action with
  | some (.actionProfileMemberId memberId) => memberId
  | _ => 0

/-- `table_entry.action().action_profile_group_id()`: zero unless the action is
a group reference. -/
def TableEntry.actionProfileGroupId (entry : TableEntry) : Nat :=
  match entry.action with
  | some (.actionProfileGroupId groupId) => groupId
  | _ => 0

/-- `Index`. -/
structure Index where
  index : Int
  deriving DecidableEq, Repr

/-- `CounterEntry`. -/
structure CounterEntry where
  counterId : Nat
  index : Option Index
  data : Option CounterData
  deriving DecidableEq, Repr

/-- `MeterEntry`. -/
structure MeterEntry where
  meterId : Nat
  index : Option Index
  config : Option MeterConfig
  deriving DecidableEq, Repr

/-- `RegisterEntry`; its `P4Data` payload is not read by the modelled code. -/
structure RegisterEntry where
  registerId : Nat
  index : Option Index
  deriving DecidableEq, Repr

/-- `DirectCounterEntry`. -/
structure DirectCounterEntry where
  tableEntry : TableEntry
  data : Option CounterData
  deriving DecidableEq, Repr

/-- `DirectMeterEntry`. -/
structure DirectMeterEntry where
  tableEntry : TableEntry
  config : Option MeterConfig
  deriving DecidableEq, Repr

/-- `ActionProfileMember`. -/
structure ActionProfileMember where
  actionProfileId : Nat
  memberId : Nat
  action : Action
  deriving DecidableEq, Repr

/-- `ActionProfileGroup.Member`. -/
structure ActionProfileGroupMember where
  memberId : Nat
  weight : Int
  deriving DecidableEq, Repr

/-- `ActionProfileGroup`. -/
structure ActionProfileGroup where
  actionProfileId : Nat
  groupId : Nat
  members : List ActionProfileGroupMember
  maxSize : Int
  deriving DecidableEq, Repr

/-- `Replica`. -/
structure Replica where
  egressPort : Nat
  «instance» : Nat
  deriving DecidableEq, Repr

/-- `MulticastGroupEntry`. -/
structure MulticastGroupEntry where
  multicastGroupId : Nat
  replicas : List Replica
  deriving DecidableEq, Repr

/-- `CloneSessionEntry`. -/
structure CloneSessionEntry where
  sessionId : Nat
  replicas : List Replica
  classOfService : Nat
  packetLengthBytes : Int
  deriving DecidableEq, Repr

/-- The `type` oneof of `PacketReplicationEngineEntry`. -/
inductive PacketReplicationEngineEntry
  | multicastGroupEntry (entry : MulticastGroupEntry)
  | cloneSessionEntry (entry : CloneSessionEntry)
  | notSet
  deriving DecidableEq, Repr

/-- `ExternEntry`; its `Any` payload is not read by the modelled code. -/
structure ExternEntry where
  externTypeId : Nat
  externId : Nat
  deriving DecidableEq, Repr

/-- `ValueSetEntry`; its members are not read by the modelled code. -/
structure ValueSetEntry where
  valueSetId : Nat
  deriving DecidableEq, Repr

/-- `DigestEntry`; its config is not read by the modelled code. -/
structure DigestEntry where
  digestId : Nat
  deriving DecidableEq, Repr

/-- The `entity` oneof of `Entity`. -/
inductive Entity
  | externEntry (entry : ExternEntry)
  | tableEntry (entry : TableEntry)
  | actionProfileMember (member : ActionProfileMember)
  | actionProfileGroup (group : ActionProfileGroup)
  | meterEntry (entry : MeterEntry)
  | directMeterEntry (entry : DirectMeterEntry)
  | counterEntry (entry : CounterEntry)
  | directCounterEntry (entry : DirectCounterEntry)
  | packetReplicationEngineEntry (entry : PacketReplicationEngineEntry)
  | valueSetEntry (entry : ValueSetEntry)
  | registerEntry (entry : RegisterEntry)
  | digestEntry (entry : DigestEntry)
  | notSet
  deriving DecidableEq, Repr

/-- `Update.Type`. -/
inductive UpdateType
  | unspecified
  | insert
  | modify
  | delete
  deriving DecidableEq, Repr

/-- `Update`. -/
structure Update where
  type : UpdateType
  entity : Entity
  deriving DecidableEq, Repr

/-- `Uint128`, the wire form of an election ID. -/
structure Uint128 where
  high : UInt64
  low : UInt64
  deriving DecidableEq, Repr

/-- `ReadRequest`. -/
structure ReadRequest where
  deviceId : UInt64
  role : String
  entities : List Entity
  deriving DecidableEq, Repr

/-- `ReadResponse`. -/
structure ReadResponse where
  entities : List Entity
  deriving DecidableEq, Repr

/-- `WriteRequest`. -/
structure WriteRequest where
  deviceId : UInt64
  role : String
  electionId : Option Uint128
  updates : List Update
  deriving DecidableEq, Repr

/-- `PacketMetadata`. -/
structure PacketMetadata where
  metadataId : Nat
  value : ByteString
  deriving DecidableEq, Repr

/-- `PacketOut`. -/
structure PacketOut where
  payload : ByteString
  metadata : List PacketMetadata
  deriving DecidableEq, Repr

/-- `PacketIn`. -/
structure PacketIn where
  payload : ByteString
  metadata : List PacketMetadata
  deriving DecidableEq, Repr

/-! ## P4Info (`p4/config/v1/p4info.proto`) -/

/-- `ControllerPacketMetadata.Metadata`: one header field. `typeName` is the
name of its `type_name`, when it has one. -/
structure ControllerPacketMetadata.Metadata where
  id : Nat
  name : String
  bitwidth : Nat
  typeName : Option String
  deriving DecidableEq, Repr

/-- `ControllerPacketMetadata`: a controller header, named by its preamble. -/
structure ControllerPacketMetadata where
  preambleName : String
  metadata : List ControllerPacketMetadata.Metadata
  deriving DecidableEq, Repr

/-- The `sdn_type` oneof of `P4NewTypeTranslation`. -/
inductive P4NewTypeTranslation.SdnType
  | sdnBitwidth (bitwidth : Nat)
  | sdnString
  | notSet
  deriving DecidableEq, Repr

/-- `P4NewTypeTranslation`: a type the controller sees under `uri`. -/
structure P4NewTypeTranslation where
  uri : String
  sdnType : P4NewTypeTranslation.SdnType
  deriving DecidableEq, Repr

/-- `sdn_type_case()`: the field number of the set `sdn_type` case, `0` when
none is set. -/
def P4NewTypeTranslation.SdnType.sdnTypeCase : P4NewTypeTranslation.SdnType → Nat
  | .sdnBitwidth _ => 2
  | .sdnString => 3
  | .notSet => 0

/-- The `representation` oneof of `P4NewTypeSpec`. -/
inductive P4NewTypeSpec
  | originalType
  | translatedType (translation : P4NewTypeTranslation)
  | notSet
  deriving DecidableEq, Repr

/-- `P4TypeInfo`: its `new_types` map, in iteration order. -/
structure P4TypeInfo where
  newTypes : List (String × P4NewTypeSpec)
  deriving DecidableEq, Repr

/-- `MatchField.MatchType`; a field with an `other_match_type` reads as
`UNSPECIFIED`. -/
inductive P4Info.MatchType
  | unspecified
  | exact
  | lpm
  | ternary
  | range
  | optional
  deriving DecidableEq, Repr

/-- `MatchField_MatchType_Name`. -/
def P4Info.MatchType.name : P4Info.MatchType → String
  | .unspecified => "UNSPECIFIED"
  | .exact => "EXACT"
  | .lpm => "LPM"
  | .ternary => "TERNARY"
  | .range => "RANGE"
  | .optional => "OPTIONAL"

/-- `MatchField` of a P4Info table. -/
structure P4Info.MatchField where
  id : Nat
  typeName : Option String
  bitwidth : Nat
  matchType : P4Info.MatchType
  deriving DecidableEq, Repr

/-- `Table` of a P4Info: the ID and name of its preamble, its match fields,
and whether its entries are const. -/
structure P4Info.Table where
  id : Nat
  name : String
  matchFields : List P4Info.MatchField
  isConstTable : Bool
  deriving DecidableEq, Repr

/-- `Action.Param` of a P4Info action. -/
structure P4Info.Param where
  id : Nat
  typeName : Option String
  deriving DecidableEq, Repr

/-- `Action` of a P4Info, with the ID of its preamble. -/
structure P4Info.Action where
  id : Nat
  params : List P4Info.Param
  deriving DecidableEq, Repr

/-- A `Counter`, `Meter` or `Register` of a P4Info: the ID of its preamble and
the name of its `index_type_name`, the two fields read of each. -/
structure P4Info.IndexedResource where
  id : Nat
  indexTypeName : Option String
  deriving DecidableEq, Repr

/-- `P4Info`. -/
structure P4Info where
  typeInfo : Option P4TypeInfo
  tables : List P4Info.Table
  actions : List P4Info.Action
  controllerPacketMetadata : List ControllerPacketMetadata
  counters : List P4Info.IndexedResource
  meters : List P4Info.IndexedResource
  registers : List P4Info.IndexedResource
  deriving DecidableEq, Repr

/-! ## Typed data (`P4Data`, `P4DataTypeSpec`) -/

/-- The `data` oneof of `P4Data`; `other` is any case the modelled code does
not read, by its `data_case()` number (`0` when none is set). -/
inductive P4Data
  | bitstring (bytes : ByteString)
  | tuple (members : List P4Data)
  | other (dataCase : Nat)
  deriving Repr

/-- The `type_spec` oneof of `P4BitstringLikeTypeSpec`: `bit<w>`, `int<w>`
and `varbit<w>` by their (maximum) width. -/
inductive P4BitstringLikeTypeSpec
  | bit (bitwidth : Nat)
  | int (bitwidth : Nat)
  | varbit (maxBitwidth : Nat)
  | notSet
  deriving DecidableEq, Repr

/-- The `type_spec` oneof of `P4DataTypeSpec`; `other` is any case the
modelled code does not read. -/
inductive P4DataTypeSpec
  | bitstring (spec : P4BitstringLikeTypeSpec)
  | tuple (members : List P4DataTypeSpec)
  | other
  deriving Repr

end Stratum.Ports.P4Runtime
