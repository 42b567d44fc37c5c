import Stratum.Ports.BcmTableManager
import Stratum.Verified.Run

/-!
# Reference counts of the `BcmTableManager` action-profile store

`BcmNode` drives the store through nine calls: the insertion, modification
and deletion of table entries, members and groups. Under the checks
`BcmNode::ActionProfileMemberWrite` and `ActionProfileGroupWrite` make first,
the store is meant to keep, in every state a run of these calls reaches:

* the `group_ref_count` of each member equal to the number of groups that
  list it (`GroupRefCountsExact`);
* the same member IDs in `member_id_to_nexthop_info_` and `members_`, and the
  same group IDs in `group_id_to_nexthop_info_` and `groups_`;
* no egress interface shared by two members or by two groups;
* `port_to_group_ids_` listing, for every SDK port, exactly the groups with a
  port member on it (`PortIndexExact`), which `FillBcmMultipathNexthopsWithPort`
  reads to repair the groups of a port that went down.

The model runs a list of calls with `Stratum.Verified.Trace`, each call
keeping what it changed before an error.

Main results:

* `group_ref_count_broken_by_port_change` — a member moved to another port
  while in a group makes the group's deletion fail half-way: the member has
  lost its group reference, but the group still lists it;
* `port_index_broken_by_member_change` — the same move leaves the port index
  on the old port, and a member moved to a trunk leaves it listing the group
  after the group is deleted.
-/

namespace Stratum.Ports.BcmTableManagerRefCounts

open Stratum.Ports.Status Stratum.Ports.P4Runtime Stratum.Ports.BcmTableManager
open Stratum.Verified.Trace

/-- The calls of `BcmTableManager` on table entries and action profiles, with
what `BcmNode` passes them. -/
inductive Call
  | addTableEntry (entry : TableEntry)
  | updateTableEntry (entry : TableEntry)
  | deleteTableEntry (entry : TableEntry)
  | addActionProfileMember (member : ActionProfileMember) (type : NexthopType)
      (egressIntfId bcmPort : Int)
  | updateActionProfileMember (member : ActionProfileMember) (type : NexthopType) (bcmPort : Int)
  | deleteActionProfileMember (member : ActionProfileMember)
  | addActionProfileGroup (group : ActionProfileGroup) (egressIntfId : Int)
  | updateActionProfileGroup (group : ActionProfileGroup)
  | deleteActionProfileGroup (group : ActionProfileGroup)

/-- The program of a call; `lookupTable` is `P4TableMapper::LookupTable`. -/
def Call.op (lookupTable : Nat → StatusOr P4Info.Table) : Call → Op Unit
  | .addTableEntry entry => Stratum.Ports.BcmTableManager.addTableEntry lookupTable entry
  | .updateTableEntry entry => Stratum.Ports.BcmTableManager.updateTableEntry entry
  | .deleteTableEntry entry => Stratum.Ports.BcmTableManager.deleteTableEntry entry
  | .addActionProfileMember member type egressIntfId bcmPort =>
      Stratum.Ports.BcmTableManager.addActionProfileMember member type egressIntfId bcmPort
  | .updateActionProfileMember member type bcmPort =>
      Stratum.Ports.BcmTableManager.updateActionProfileMember member type bcmPort
  | .deleteActionProfileMember member =>
      Stratum.Ports.BcmTableManager.deleteActionProfileMember member
  | .addActionProfileGroup group egressIntfId =>
      Stratum.Ports.BcmTableManager.addActionProfileGroup group egressIntfId
  | .updateActionProfileGroup group => Stratum.Ports.BcmTableManager.updateActionProfileGroup group
  | .deleteActionProfileGroup group => Stratum.Ports.BcmTableManager.deleteActionProfileGroup group

/-- A call as a step of a run: the status it returns and the manager it
leaves, also when it fails. -/
def step (lookupTable : Nat → StatusOr P4Info.Table) (s : BcmTableManager) (call : Call) :
    StatusOr Unit × BcmTableManager :=
  match (call.op lookupTable).run s with
  | .ok u s' => (.ok u, s')
  | .error e s' => (.error e, s')

/-- The number of groups whose member map lists a member. -/
def groupsListing (s : BcmTableManager) (memberId : Nat) : Nat :=
  (s.groupIdToNexthopInfo.entries.filter fun e =>
    decide (memberId ∈ BcmMultipathNexthopInfo.memberIdToWeight e.2)).length

/-- Every member's `group_ref_count` is the number of groups that list it. -/
def GroupRefCountsExact (s : BcmTableManager) : Prop :=
  ∀ memberId (info : BcmNonMultipathNexthopInfo),
    s.memberIdToNexthopInfo.lookup memberId = some info →
      info.groupRefCount.toNat = groupsListing s memberId

/-- A P4 info with no table. -/
def noTables : Nat → StatusOr P4Info.Table :=
  fun tableId => .error ⟨.errEntryNotFound, "Unknown table id " ++ toString tableId ++ "."⟩

/-- Member `1` of action profile `1`, the port member of group `1`. -/
def portMember : ActionProfileMember := ⟨1, 1, ⟨1, []⟩⟩

/-- Group `1` of action profile `1`, with member `1`. -/
def portGroup : ActionProfileGroup := ⟨1, 1, [⟨1, 1⟩], 0⟩

/-- The calls `BcmNode` makes when a controller inserts a member on port `3`
and a group of it, moves the member to port `5`, and deletes the group: each
member ID once in the group, every member present, no flow on the group. -/
def portChangeCalls : List Call :=
  [.addActionProfileMember portMember .port 100 3, .addActionProfileGroup portGroup 200,
    .updateActionProfileMember portMember .port 5, .deleteActionProfileGroup portGroup]

/-- `UpdateActionProfileMember` moves the member to port `5` without moving
the group's mark from port `3`, so `DeleteActionProfileGroup` finds no set
for port `5` and fails after taking the member's group reference: the store
starts exact and ends with member `1` counted in no group while group `1`
still lists it. -/
theorem group_ref_count_broken_by_port_change :
    GroupRefCountsExact BcmTableManager.empty ∧
    (trace (step noTables) BcmTableManager.empty portChangeCalls).map Prod.snd =
      [.ok (), .ok (), .ok (),
        .error ⟨.errInternal, "No set of referencing groups for SDK port 5."⟩] ∧
    (final (step noTables) BcmTableManager.empty portChangeCalls).memberIdToNexthopInfo.lookup 1 =
      some ⟨100, .port, 5, 0, 0⟩ ∧
    groupsListing (final (step noTables) BcmTableManager.empty portChangeCalls) 1 = 1 ∧
    ¬GroupRefCountsExact (final (step noTables) BcmTableManager.empty portChangeCalls) := by
  have hlookup : (final (step noTables) BcmTableManager.empty
      portChangeCalls).memberIdToNexthopInfo.lookup 1 = some ⟨100, .port, 5, 0, 0⟩ := rfl
  have hlisting :
      groupsListing (final (step noTables) BcmTableManager.empty portChangeCalls) 1 = 1 := rfl
  refine ⟨fun memberId info hinfo => ?_, rfl, hlookup, hlisting, fun hexact => ?_⟩
  · -- the empty store has no member
    rw [BcmTableManager.empty, AList.lookup_empty] at hinfo
    cases hinfo
  · have hcount := hexact 1 ⟨100, .port, 5, 0, 0⟩ hlookup
    rw [hlisting] at hcount
    exact absurd hcount (by decide)

/-- `port_to_group_ids_` lists, for every SDK port, exactly the groups with a
port member on it. -/
def PortIndexExact (s : BcmTableManager) : Prop :=
  ∀ (port : Int) (groupId : Nat), groupId ∈ (s.portToGroupIds.lookup port).getD [] ↔
    ∃ groupInfo ∈ s.groupIdToNexthopInfo.lookup groupId,
      ∃ memberId ∈ groupInfo.memberIdToWeight, ∃ info ∈ s.memberIdToNexthopInfo.lookup memberId,
        info.type = .port ∧ info.bcmPort = port

/-- The empty store has no group and lists none. -/
theorem portIndexExact_empty : PortIndexExact BcmTableManager.empty := by
  intro port groupId
  simp [BcmTableManager.empty]

/-- A member on port `3` put in a group and moved to port `5`. -/
def portMoveCalls : List Call :=
  [.addActionProfileMember portMember .port 100 3, .addActionProfileGroup portGroup 200,
    .updateActionProfileMember portMember .port 5]

/-- A member on port `3` put in a group and moved to trunk `7`, and the group
deleted. -/
def trunkMoveCalls : List Call :=
  [.addActionProfileMember portMember .port 100 3, .addActionProfileGroup portGroup 200,
    .updateActionProfileMember portMember .trunk 7, .deleteActionProfileGroup portGroup]

/-- `UpdateActionProfileMember` changes the member's port but not
`port_to_group_ids_`. Moved to port `5`, the member of group `1` leaves the
index with no set for port `5` and group `1` still under port `3`. Moved to a
trunk, it lets the group be deleted while port `3` still lists it, so the
lookup `FillBcmMultipathNexthopsWithPort` makes first for each listed group
fails. -/
theorem port_index_broken_by_member_change :
    PortIndexExact BcmTableManager.empty ∧
      (trace (step noTables) BcmTableManager.empty portMoveCalls).map Prod.snd =
        [.ok (), .ok (), .ok ()] ∧
      (final (step noTables) BcmTableManager.empty portMoveCalls).portToGroupIds.lookup 5 = none ∧
      (final (step noTables) BcmTableManager.empty portMoveCalls).portToGroupIds.lookup 3 =
        some [1] ∧
      (final (step noTables) BcmTableManager.empty portMoveCalls).memberIdToNexthopInfo.lookup 1 =
        some ⟨100, .port, 5, 1, 0⟩ ∧
      ¬PortIndexExact (final (step noTables) BcmTableManager.empty portMoveCalls) ∧
      (trace (step noTables) BcmTableManager.empty trunkMoveCalls).map Prod.snd =
        [.ok (), .ok (), .ok (), .ok ()] ∧
      (final (step noTables) BcmTableManager.empty trunkMoveCalls).portToGroupIds.lookup 3 =
        some [1] ∧
      ∃ e s, (getBcmMultipathNexthopInfo 1).run
        (final (step noTables) BcmTableManager.empty trunkMoveCalls) = .error e s := by
  refine ⟨portIndexExact_empty, rfl, rfl, rfl, rfl, fun hexact => ?_, rfl, rfl, _, _, rfl⟩
  -- group `1` has its member on port `5`, which lists no group
  obtain ⟨groupInfo, hgroup⟩ : ∃ groupInfo, (final (step noTables) BcmTableManager.empty
      portMoveCalls).groupIdToNexthopInfo.lookup 1 = some groupInfo := ⟨_, rfl⟩
  have hlisted := (hexact 5 1).mpr
    ⟨groupInfo, hgroup, 1, by rw [Option.some.inj hgroup.symm]; decide, _, rfl, rfl, rfl⟩
  exact absurd hlisted (by decide)

end Stratum.Ports.BcmTableManagerRefCounts
