import Mathlib.Data.List.AList
import Mathlib.Data.List.Sort
import Stratum.Ports.Status
import Stratum.Ports.P4Runtime

set_option linter.dupNamespace false

/-!
# The action-profile store of `BcmTableManager`

`stratum/hal/lib/bcm/bcm_table_manager.cc` keeps, for the ECMP/WCMP
programming of a Broadcom node, the members and groups of P4 action
profiles:

* `member_id_to_nexthop_info_`: per member, its egress interface, its
  nexthop type and port, and how many groups and flows refer to it;
* `group_id_to_nexthop_info_`: per group, its egress interface, how many
  flows refer to it, and its members with their weights (a `std::map`);
* `port_to_group_ids_`: per SDK port, the groups with a port member on it;
* `members_` and `groups_`: the P4 objects as written;
* the flow tables (`generic_flow_tables_`, `acl_tables_`), whose entries may
  name a member or a group as their action.

Each public call runs to its first error and returns it; whatever the call
changed before that stays changed. The model is a call in `EStateM`, whose
error results carry the manager as the call left it.

A hash map is an `AList`; writing through a pointer to a map's value is an
`AList.insert` of the new value. `std::map` is iterated in key order
(`List.insertionSort` of its keys).
-/

namespace Stratum.Ports.BcmTableManager

open Stratum.Ports.Status Stratum.Ports.P4Runtime

/-- A map from `uint32` IDs. -/
abbrev NatMap (β : Type) := AList (fun _ : Nat => β)

/-- `BcmNonMultipathNexthop::Type`. -/
inductive NexthopType
  | unknown
  | drop
  | port
  | trunk
  deriving DecidableEq, Repr

/-- `BcmNonMultipathNexthopInfo`. -/
structure BcmNonMultipathNexthopInfo where
  egressIntfId : Int
  type : NexthopType
  bcmPort : Int
  groupRefCount : UInt32
  flowRefCount : UInt32
  deriving DecidableEq, Repr

/-- `BcmMultipathNexthopInfo`. -/
structure BcmMultipathNexthopInfo where
  egressIntfId : Int
  flowRefCount : UInt32
  memberIdToWeight : NatMap Nat

/-- `BcmFlowTable`: its ID, its name and its entries. -/
structure BcmFlowTable where
  id : Nat
  name : String
  entries : List TableEntry

/-- The state of `BcmTableManager` that its table-entry and action-profile
calls read and write. -/
structure BcmTableManager where
  genericFlowTables : NatMap BcmFlowTable
  aclTables : NatMap BcmFlowTable
  memberIdToNexthopInfo : NatMap BcmNonMultipathNexthopInfo
  groupIdToNexthopInfo : NatMap BcmMultipathNexthopInfo
  portToGroupIds : AList (fun _ : Int => List Nat)
  members : NatMap ActionProfileMember
  groups : NatMap ActionProfileGroup

/-- The manager as `CreateInstance` makes it, before any table, member or
group. -/
def BcmTableManager.empty : BcmTableManager := ⟨∅, ∅, ∅, ∅, ∅, ∅, ∅⟩

/-- A call on the manager: it may fail after changing it. -/
abbrev Op := EStateM UtilError BcmTableManager

/-- A status returned as the call's own (`RETURN_IF_ERROR`, `ASSIGN_OR_RETURN`). -/
def liftStatus {α : Type} : StatusOr α → Op α
  | .ok a => pure a
  | .error e => throw e

/-! ## Flow tables -/

/-- `TableEntryEqual`: two entries are the same flow when they agree on all
but their table ID, action, controller metadata, meter config and counter
data, the match fields in any order. -/
def tableEntryEqual (x y : TableEntry) : Bool :=
  x.fieldMatches.isPerm y.fieldMatches && x.priority == y.priority &&
    x.isDefaultAction == y.isDefaultAction && x.idleTimeoutNs == y.idleTimeoutNs &&
    x.timeSinceLastHit == y.timeSinceLastHit && x.metadata == y.metadata

/-- `TableStr`. -/
def BcmFlowTable.tableStr (table : BcmFlowTable) : String :=
  "Table <" ++ toString table.id ++ "> (" ++ table.name ++ ")"

/-- `BcmFlowTable::InsertEntry`. -/
def BcmFlowTable.insertEntry (table : BcmFlowTable) (entry : TableEntry) :
    StatusOr BcmFlowTable :=
  if table.entries.any (tableEntryEqual entry) then
    .error ⟨.errEntryExists, table.tableStr ++ " contains duplicate of TableEntry: . Matching " ++
      "TableEntry: ."⟩
  else .ok { table with entries := entry :: table.entries }

/-- `BcmFlowTable::DeleteEntry`: the entry deleted, and the table without
it. -/
def BcmFlowTable.deleteEntry (table : BcmFlowTable) (key : TableEntry) :
    StatusOr (TableEntry × BcmFlowTable) :=
  match table.entries.find? (tableEntryEqual key) with
  | some entry => .ok (entry, { table with entries := table.entries.erase entry })
  | none => .error ⟨.errEntryNotFound, table.tableStr ++ " does not contain TableEntry: ."⟩

/-- `BcmFlowTable::ModifyEntry`: the entry replaced, and the table with the
new one in its place. -/
def BcmFlowTable.modifyEntry (table : BcmFlowTable) (entry : TableEntry) :
    StatusOr (TableEntry × BcmFlowTable) := do
  let (oldEntry, table) ← table.deleteEntry entry
  pure (oldEntry, { table with entries := entry :: table.entries })

/-- Where `GetMutableFlowTable` finds a table: among the generic tables, or
the ACL tables. -/
inductive TableKind
  | generic
  | acl
  deriving DecidableEq, Repr

/-- The table of an ID and where it is kept: the generic tables first, then
the ACL tables. -/
def findFlowTable (s : BcmTableManager) (tableId : Nat) : Option (TableKind × BcmFlowTable) :=
  match s.genericFlowTables.lookup tableId with
  | some table => some (.generic, table)
  | none => (s.aclTables.lookup tableId).map fun table => (.acl, table)

/-- `GetMutableFlowTable`. -/
def getMutableFlowTable (tableId : Nat) : Op (TableKind × BcmFlowTable) := fun s =>
  match findFlowTable s tableId with
  | some found => .ok found s
  | none => .error ⟨.errEntryNotFound, "Table " ++ toString tableId ++ " not present."⟩ s

/-- Writing a table back where `GetMutableFlowTable` found it. -/
def setFlowTable (kind : TableKind) (tableId : Nat) (table : BcmFlowTable) : Op Unit :=
  modify fun s => match kind with
    | .generic => { s with genericFlowTables := s.genericFlowTables.insert tableId table }
    | .acl => { s with aclTables := s.aclTables.insert tableId table }

/-! ## Nexthop infos -/

/-- `GetBcmNonMultipathNexthopInfo`. -/
def getBcmNonMultipathNexthopInfo (memberId : Nat) : Op BcmNonMultipathNexthopInfo := fun s =>
  match s.memberIdToNexthopInfo.lookup memberId with
  | some info => .ok info s
  | none => .error ⟨.errEntryNotFound, "Unknown member_id: " ++ toString memberId ++ "."⟩ s

/-- `GetBcmMultipathNexthopInfo`. -/
def getBcmMultipathNexthopInfo (groupId : Nat) : Op BcmMultipathNexthopInfo := fun s =>
  match s.groupIdToNexthopInfo.lookup groupId with
  | some info => .ok info s
  | none => .error ⟨.errEntryNotFound, "Unknown group_id: " ++ toString groupId ++ "."⟩ s

/-- A write through the member's `BcmNonMultipathNexthopInfo*`. -/
def setMemberInfo (memberId : Nat) (info : BcmNonMultipathNexthopInfo) : Op Unit :=
  modify fun s => { s with memberIdToNexthopInfo := s.memberIdToNexthopInfo.insert memberId info }

/-- A write through the group's `BcmMultipathNexthopInfo*`. -/
def setGroupInfo (groupId : Nat) (info : BcmMultipathNexthopInfo) : Op Unit :=
  modify fun s => { s with groupIdToNexthopInfo := s.groupIdToNexthopInfo.insert groupId info }

/-- `RET_CHECK` of `UpdateFlowRefCountFor*` on a decrement. The sum
`flow_ref_count + delta` is `uint32` arithmetic, so the check never fails. -/
def checkFlowRefCount (flowRefCount : UInt32) (delta : Int) (message : String) : Op Unit :=
  if delta < 0 then liftStatus (retCheck (decide (0 ≤ flowRefCount + UInt32.ofInt delta)) message)
  else pure ()

/-- `UpdateFlowRefCountForMember`. -/
def updateFlowRefCountForMember (memberId : Nat) (delta : Int) : Op Unit := do
  let info ← getBcmNonMultipathNexthopInfo memberId
  checkFlowRefCount info.flowRefCount delta
    ("Not big enough flow_ref_count for following member_id: " ++ toString memberId ++
      ". flow_ref_count = " ++ toString info.flowRefCount ++ ", delta = " ++ toString delta ++ ".")
  setMemberInfo memberId { info with flowRefCount := info.flowRefCount + UInt32.ofInt delta }

/-- `UpdateFlowRefCountForGroup`. -/
def updateFlowRefCountForGroup (groupId : Nat) (delta : Int) : Op Unit := do
  let info ← getBcmMultipathNexthopInfo groupId
  checkFlowRefCount info.flowRefCount delta
    ("Not big enough flow_ref_count for following group_id: " ++ toString groupId ++
      ". flow_ref_count = " ++ toString info.flowRefCount ++ ", delta = " ++ toString delta ++ ".")
  setGroupInfo groupId { info with flowRefCount := info.flowRefCount + UInt32.ofInt delta }

/-- The `flow_ref_count` update for the member or group an entry's action
names, if any. -/
def updateFlowRefCount (entry : TableEntry) (delta : Int) : Op Unit :=
  if entry.actionProfileMemberId > 0 then
    updateFlowRefCountForMember entry.actionProfileMemberId delta
  else if entry.actionProfileGroupId > 0 then
    updateFlowRefCountForGroup entry.actionProfileGroupId delta
  else pure ()

/-! ## Table entries -/

/-- `AddTableEntry`, with `P4TableMapper::LookupTable`: the entry goes into
its table, a new generic table if there is none, and its member or group
gains a flow. -/
def addTableEntry (lookupTable : Nat → StatusOr P4Info.Table) (entry : TableEntry) :
    Op Unit := do
  if entry.tableId == 0 then
    throw ⟨.errInvalidParam, "Cannot insert flow with table id 0: ."⟩
  match findFlowTable (← get) entry.tableId with
  | some (kind, table) =>
      let table ← liftStatus (table.insertEntry entry)
      setFlowTable kind entry.tableId table
  | none =>
      let p4Table ← liftStatus ((lookupTable entry.tableId).mapError fun e =>
        { e with message := e.message ++ "Table entry refers to unknown table id " ++
          toString entry.tableId ++ "." })
      if entry.tableId ∈ (← get).genericFlowTables then
        throw ⟨.errInternal, "Failed to add new table with id " ++ toString entry.tableId ++ "."⟩
      let table : BcmFlowTable := ⟨p4Table.id, p4Table.name, []⟩
      setFlowTable .generic entry.tableId table
      let table ← liftStatus (table.insertEntry entry)
      setFlowTable .generic entry.tableId table
  updateFlowRefCount entry 1

/-- `UpdateTableEntry`: the entry replaces the one it matches, and the flow
moves from the old entry's member or group to the new one's, unless both
name the same. -/
def updateTableEntry (entry : TableEntry) : Op Unit := do
  let (kind, table) ← getMutableFlowTable entry.tableId
  let (oldEntry, table) ← liftStatus (table.modifyEntry entry)
  setFlowTable kind entry.tableId table
  if oldEntry.actionProfileMemberId > 0 &&
      oldEntry.actionProfileMemberId == entry.actionProfileMemberId then
    pure ()
  else if oldEntry.actionProfileGroupId > 0 &&
      oldEntry.actionProfileGroupId == entry.actionProfileGroupId then
    pure ()
  else do
    updateFlowRefCount oldEntry (-1)
    updateFlowRefCount entry 1

/-- The last step of `DeleteTableEntry`: a generic table left empty is
removed. -/
def eraseEmptyGenericTable (tableId : Nat) : Op Unit :=
  modify fun s => match s.genericFlowTables.lookup tableId with
    | some table =>
        if table.entries.isEmpty then
          { s with genericFlowTables := s.genericFlowTables.erase tableId }
        else s
    | none => s

/-- `DeleteTableEntry`. -/
def deleteTableEntry (entry : TableEntry) : Op Unit := do
  let (kind, table) ← getMutableFlowTable entry.tableId
  let (oldEntry, table) ← liftStatus (table.deleteEntry entry)
  setFlowTable kind entry.tableId table
  updateFlowRefCount oldEntry (-1)
  eraseEmptyGenericTable entry.tableId

/-! ## Members -/

/-- The member an egress interface is already assigned to
(`std::find_if` over `member_id_to_nexthop_info_`). -/
def memberWithEgressIntf (s : BcmTableManager) (egressIntfId : Int) : Option Nat :=
  (s.memberIdToNexthopInfo.entries.find? fun e => e.2.egressIntfId == egressIntfId).map (·.1)

/-- The group an egress interface is already assigned to. -/
def groupWithEgressIntf (s : BcmTableManager) (egressIntfId : Int) : Option Nat :=
  (s.groupIdToNexthopInfo.entries.find? fun e => e.2.egressIntfId == egressIntfId).map (·.1)

/-- `AddActionProfileMember`. -/
def addActionProfileMember (member : ActionProfileMember) (type : NexthopType)
    (egressIntfId bcmPort : Int) : Op Unit := fun s =>
  if member.memberId == 0 || member.actionProfileId == 0 then
    .error ⟨.errInvalidParam, "Need non-zero member_id and action_profile_id: ."⟩ s
  else match memberWithEgressIntf s egressIntfId with
    | some otherId =>
        .error ⟨.errInvalidParam, "Member with ID " ++ toString member.memberId ++
          " is supposed to point to egress intf with ID " ++ toString egressIntfId ++
          ". However this egress intf is already assigned to member with ID " ++
          toString otherId ++ "."⟩ s
    | none =>
        if member.memberId ∈ s.memberIdToNexthopInfo then
          .error ⟨.errEntryExists, "Cannot add already existing member_id: " ++
            toString member.memberId ++ "."⟩ s
        else
          let s := { s with memberIdToNexthopInfo :=
            s.memberIdToNexthopInfo.insert member.memberId ⟨egressIntfId, type, bcmPort, 0, 0⟩ }
          if member.memberId ∈ s.members then
            .error ⟨.errEntryExists, "Inconsistent state. Member with ID " ++
              toString member.memberId ++ " already exists in members_."⟩ s
          else .ok () { s with members := s.members.insert member.memberId member }

/-- `UpdateActionProfileMember`: a new type and port for the member; its
egress interface, its counts and `port_to_group_ids_` are left as they
were. -/
def updateActionProfileMember (member : ActionProfileMember) (type : NexthopType)
    (bcmPort : Int) : Op Unit := do
  let info ← getBcmNonMultipathNexthopInfo member.memberId
  setMemberInfo member.memberId { info with type := type, bcmPort := bcmPort }
  let s ← get
  liftStatus (retCheck (decide (member.memberId ∈ s.members))
    ("Inconsistent state. Old member with ID " ++ toString member.memberId ++
      " did not exist in members_."))
  set { s with members := (s.members.erase member.memberId).insert member.memberId member }

/-- `DeleteActionProfileMember`. -/
def deleteActionProfileMember (member : ActionProfileMember) : Op Unit := do
  let info ← getBcmNonMultipathNexthopInfo member.memberId
  liftStatus (retCheck (info.flowRefCount == 0) "")
  liftStatus (retCheck (info.groupRefCount == 0) "")
  modify fun s => { s with memberIdToNexthopInfo := s.memberIdToNexthopInfo.erase member.memberId }
  let s ← get
  liftStatus (retCheck (decide (member.memberId ∈ s.members))
    ("Inconsistent state. Old member with ID " ++ toString member.memberId ++
      " did not exist in members_."))
  set { s with members := s.members.erase member.memberId }

/-! ## Groups -/

/-- `port_to_group_ids_[port].insert(group_id)`, creating the set if needed. -/
def addPortGroup (port : Int) (groupId : Nat) : Op Unit :=
  modify fun s =>
    let groupIds := (s.portToGroupIds.lookup port).getD []
    { s with portToGroupIds := s.portToGroupIds.insert port (groupIds.insert groupId) }

/-- `group_ids->erase(group_id)` on the set of a port, which must exist. -/
def erasePortGroup (port : Int) (groupId : Nat) (message : String) : Op Unit := fun s =>
  match s.portToGroupIds.lookup port with
  | some groupIds =>
      .ok () { s with portToGroupIds := s.portToGroupIds.insert port (groupIds.erase groupId) }
  | none => .error ⟨.errInternal, message⟩ s

/-- `std::max(member.weight(), 1)`, as the `uint32` stored. -/
def memberWeight (member : ActionProfileGroupMember) : Nat := (max member.weight 1).toNat

/-- The loop of `AddActionProfileGroup` over the group's members: each is
looked up, given its weight in the group, counted once more as in a group,
and, if it is a port, its port is marked as used by the group. -/
def addGroupMembers (groupId : Nat) :
    List ActionProfileGroupMember → BcmMultipathNexthopInfo → Op BcmMultipathNexthopInfo
  | [], groupInfo => pure groupInfo
  | member :: rest, groupInfo => do
      let info ← getBcmNonMultipathNexthopInfo member.memberId
      let groupInfo := { groupInfo with
        memberIdToWeight :=
          groupInfo.memberIdToWeight.insert member.memberId (memberWeight member) }
      setMemberInfo member.memberId { info with groupRefCount := info.groupRefCount + 1 }
      if info.type == .port then addPortGroup info.bcmPort groupId
      addGroupMembers groupId rest groupInfo

/-- `AddActionProfileGroup`. -/
def addActionProfileGroup (group : ActionProfileGroup) (egressIntfId : Int) : Op Unit := do
  if group.groupId == 0 || group.actionProfileId == 0 then
    throw ⟨.errInvalidParam, "Need non-zero group_id and action_profile_id: ."⟩
  let s ← get
  if group.groupId ∈ s.groupIdToNexthopInfo then
    throw ⟨.errEntryExists, "Cannot add already existing group_id: " ++
      toString group.groupId ++ "."⟩
  match groupWithEgressIntf s egressIntfId with
  | some otherId =>
      throw ⟨.errInvalidParam, "Group with ID " ++ toString group.groupId ++
        " is supposed to point to egress intf with ID " ++ toString egressIntfId ++
        ". However this egress intf is already assigned to group with ID " ++ toString otherId ++
        " on this node."⟩
  | none =>
      let groupInfo ← addGroupMembers group.groupId group.members ⟨egressIntfId, 0, ∅⟩
      let s ← get
      if group.groupId ∈ s.groupIdToNexthopInfo then
        throw ⟨.errEntryExists, "Cannot add already existing group_id: " ++
          toString group.groupId ++ "."⟩
      setGroupInfo group.groupId groupInfo
      let s ← get
      if group.groupId ∈ s.groups then
        throw ⟨.errEntryExists, "Inconsistent state. Group with ID " ++ toString group.groupId ++
          " already exists in groups_."⟩
      set { s with groups := s.groups.insert group.groupId group }

/-- The first loop of `UpdateActionProfileGroup`: each new member gets its
weight in the group's stored map, and those not in the group before gain a
group reference and mark their port. Returns the group's info and the ports
of its port members. -/
def updateGroupNewMembers (groupId : Nat) (oldMemberIdToWeight : NatMap Nat) :
    List ActionProfileGroupMember → BcmMultipathNexthopInfo × List Int →
      Op (BcmMultipathNexthopInfo × List Int)
  | [], acc => pure acc
  | member :: rest, (groupInfo, ports) => do
      let info ← getBcmNonMultipathNexthopInfo member.memberId
      let groupInfo := { groupInfo with
        memberIdToWeight :=
          groupInfo.memberIdToWeight.insert member.memberId (memberWeight member) }
      setGroupInfo groupId groupInfo
      let ports := if info.type == .port then ports.insert info.bcmPort else ports
      if member.memberId ∉ oldMemberIdToWeight then do
        setMemberInfo member.memberId { info with groupRefCount := info.groupRefCount + 1 }
        if info.type == .port then addPortGroup info.bcmPort groupId
      updateGroupNewMembers groupId oldMemberIdToWeight rest (groupInfo, ports)

/-- The second loop of `UpdateActionProfileGroup`, over the old members in
key order: those no longer in the group lose a group reference, and a port
no longer used by the group is unmarked. -/
def updateGroupOldMembers (groupId : Nat) (newMemberIdToWeight : NatMap Nat) (ports : List Int) :
    List Nat → Op Unit
  | [] => pure ()
  | memberId :: rest => do
      let info ← getBcmNonMultipathNexthopInfo memberId
      liftStatus (retCheck (decide (info.groupRefCount > 0))
        ("Non-positive group_ref_count for following member_id: " ++ toString memberId ++ "."))
      if memberId ∉ newMemberIdToWeight then do
        setMemberInfo memberId { info with groupRefCount := info.groupRefCount - 1 }
        if info.type == .port && info.bcmPort ∉ ports then
          erasePortGroup info.bcmPort groupId
            ("No referencing group set for SDK port " ++ toString info.bcmPort ++ ".")
      updateGroupOldMembers groupId newMemberIdToWeight ports rest

/-- `UpdateActionProfileGroup`. -/
def updateActionProfileGroup (group : ActionProfileGroup) : Op Unit := do
  let groupInfo ← getBcmMultipathNexthopInfo group.groupId
  let oldMemberIdToWeight := groupInfo.memberIdToWeight
  let groupInfo := { groupInfo with memberIdToWeight := ∅ }
  setGroupInfo group.groupId groupInfo
  let (groupInfo, ports) ←
    updateGroupNewMembers group.groupId oldMemberIdToWeight group.members (groupInfo, [])
  updateGroupOldMembers group.groupId groupInfo.memberIdToWeight ports
    (oldMemberIdToWeight.keys.insertionSort (· ≤ ·))
  let s ← get
  liftStatus (retCheck (decide (group.groupId ∈ s.groups))
    ("Inconsistent state. Old group with ID " ++ toString group.groupId ++
      " did not exist in groups_."))
  set { s with groups := (s.groups.erase group.groupId).insert group.groupId group }

/-- The loop of `DeleteActionProfileGroup` over the group's members in key
order: each loses a group reference, and a port member's port is unmarked. -/
def deleteGroupMembers (groupId : Nat) : List Nat → Op Unit
  | [] => pure ()
  | memberId :: rest => do
      let info ← getBcmNonMultipathNexthopInfo memberId
      liftStatus (retCheck (decide (info.groupRefCount > 0))
        ("Non-positive group_ref_count for following member_id: " ++ toString memberId ++ "."))
      setMemberInfo memberId { info with groupRefCount := info.groupRefCount - 1 }
      if info.type == .port then
        erasePortGroup info.bcmPort groupId
          ("No set of referencing groups for SDK port " ++ toString info.bcmPort ++ ".")
      deleteGroupMembers groupId rest

/-- `DeleteActionProfileGroup`. -/
def deleteActionProfileGroup (group : ActionProfileGroup) : Op Unit := do
  let groupInfo ← getBcmMultipathNexthopInfo group.groupId
  deleteGroupMembers group.groupId (groupInfo.memberIdToWeight.keys.insertionSort (· ≤ ·))
  modify fun s => { s with groupIdToNexthopInfo := s.groupIdToNexthopInfo.erase group.groupId }
  let s ← get
  liftStatus (retCheck (decide (group.groupId ∈ s.groups))
    ("Inconsistent state. Old group with ID " ++ toString group.groupId ++
      " did not exist in groups_."))
  set { s with groups := s.groups.erase group.groupId }

end Stratum.Ports.BcmTableManager
