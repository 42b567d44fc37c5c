import Stratum.Ports.BcmL3Manager
import Stratum.Verified.Run

set_option linter.dupNamespace false

/-!
# Action-profile member writes of `BcmNode`

`BcmNode::ActionProfileMemberWrite` (`stratum/hal/lib/bcm/bcm_node.cc`) turns
a P4Runtime write of an action-profile member into calls on two managers:
the nexthop of the member is programmed by `BcmL3Manager`, which counts the
references on its router interface, and the member is recorded by
`BcmTableManager`, which keeps one member per egress interface. On an insert
the count is taken before the table manager decides whether to accept the
member, and nothing gives it back when the table manager refuses.

`FillBcmNonMultipathNexthop`, which maps a member to its nexthop through the
P4 table mapper and the port maps of the chassis, is a parameter.

Main results:

* `routerIntfRefCountsExact_empty` — a node with no member and no count
  satisfies the reference-count invariant;
* `router_intf_leaked_by_duplicate_nexthop` — a second member with the same
  nexthop is refused after its reference was counted; once the first member
  is deleted, the router interface keeps a reference and is never deleted.
-/

namespace Stratum.Ports.BcmNode

open Stratum.Ports.Status Stratum.Ports.P4Runtime Stratum.Ports.BcmTableManager
open Stratum.Ports.BcmL3Manager Stratum.Verified.Trace

/-- The state of `BcmNode` that a member write reads and changes. -/
structure BcmNode where
  nodeId : Nat
  unit : Int
  tableManager : BcmTableManager
  l3Manager : BcmL3Manager

/-- A call on the node: it may fail after changing it. -/
abbrev NodeOp := EStateM UtilError BcmNode

/-- A call on the table manager, made by the node. -/
def liftTableManager {α : Type} (op : Op α) : NodeOp α := fun s =>
  match op.run s.tableManager with
  | .ok a tableManager => .ok a { s with tableManager := tableManager }
  | .error e tableManager => .error e { s with tableManager := tableManager }

/-- A call on the L3 manager, made by the node. -/
def liftL3Manager {α : Type} (op : L3Op α) : NodeOp α := fun s =>
  match op.run s.l3Manager with
  | .ok a l3Manager => .ok a { s with l3Manager := l3Manager }
  | .error e l3Manager => .error e { s with l3Manager := l3Manager }

section Write

variable (ids : BcmSdkIds)
  (fillBcmNonMultipathNexthop : ActionProfileMember → StatusOr BcmNonMultipathNexthop)

/-- The `INSERT` case: the member must be new; its nexthop is created, with a
reference on its router interface, before the table manager records it. -/
def insertMember (member : ActionProfileMember) : NodeOp Unit := do
  let s ← get
  liftExcept (retCheck (!decide (member.memberId ∈ s.tableManager.memberIdToNexthopInfo))
    ("member_id " ++ toString member.memberId ++ " already exists on node " ++
      toString s.nodeId ++ ". ActionProfileMember: ."))
  let nexthop ← liftExcept (fillBcmNonMultipathNexthop member)
  let egressIntfId ← liftL3Manager (findOrCreateNonMultipathNexthop ids nexthop)
  liftTableManager
    (addActionProfileMember member nexthop.type egressIntfId nexthop.bcmPortId)

/-- The `MODIFY` case: the member keeps its egress interface, which is
remade for the new nexthop. -/
def modifyMember (member : ActionProfileMember) : NodeOp Unit := do
  let info ← liftTableManager (getBcmNonMultipathNexthopInfo member.memberId)
  let egressIntfId := info.egressIntfId
  let nexthop ← liftExcept (fillBcmNonMultipathNexthop member)
  let s ← get
  liftExcept (retCheck (s.unit == nexthop.unit) ("Something is wrong. This should never " ++
    "happen (" ++ toString s.unit ++ " != " ++ toString nexthop.unit ++ ")."))
  liftL3Manager (modifyNonMultipathNexthop ids egressIntfId nexthop)
  liftTableManager (updateActionProfileMember member nexthop.type nexthop.bcmPortId)

/-- The `DELETE` case: only a member no group or flow uses is removed. -/
def deleteMember (member : ActionProfileMember) : NodeOp Unit := do
  let info ← liftTableManager (getBcmNonMultipathNexthopInfo member.memberId)
  let s ← get
  liftExcept (retCheck (info.groupRefCount == 0 && info.flowRefCount == 0)
    ("member_id " ++ toString member.memberId ++ " is already used by " ++
      toString info.groupRefCount ++ " groups and " ++ toString info.flowRefCount ++
      "flows on node " ++ toString s.nodeId ++ ". ActionProfileMember: ."))
  liftL3Manager (deleteNonMultipathNexthop ids info.egressIntfId)
  liftTableManager (deleteActionProfileMember member)

/-- `BcmNode::ActionProfileMemberWrite`. -/
def actionProfileMemberWrite (member : ActionProfileMember) : UpdateType → NodeOp Unit
  | .insert => insertMember ids fillBcmNonMultipathNexthop member
  | .modify => modifyMember ids fillBcmNonMultipathNexthop member
  | .delete => deleteMember ids member
  | .unspecified =>
      liftExcept (retCheck false "Do not know what to do with this ActionProfileMember: .")

/-- A write as a step of a run: the status it returns and the node it leaves,
also when it fails. -/
def step (s : BcmNode) (write : ActionProfileMember × UpdateType) : StatusOr Unit × BcmNode :=
  match (actionProfileMemberWrite ids fillBcmNonMultipathNexthop write.1 write.2).run s with
  | .ok u s' => (.ok u, s')
  | .error e s' => (.error e, s')

end Write

/-! ## The reference-count invariant -/

/-- The number of members recorded by the table manager whose egress
interface the SDK has on a router interface. -/
def membersOnRouterIntf (s : BcmNode) (routerIntfId : Int) : Nat :=
  (s.tableManager.memberIdToNexthopInfo.entries.filter fun e =>
    s.l3Manager.sdk.egressIntfRouterIntf.lookup e.2.egressIntfId == some routerIntfId).length

/-- Every router interface is counted once for each member on it. -/
def RouterIntfRefCountsExact (s : BcmNode) : Prop :=
  ∀ routerIntfId, 0 < routerIntfId →
    (s.l3Manager.routerIntfRefCount.lookup routerIntfId).getD 0 =
      membersOnRouterIntf s routerIntfId

/-- A node on unit `0` with no member and no count. -/
def BcmNode.empty (nodeId : Nat) : BcmNode :=
  ⟨nodeId, 0, BcmTableManager.empty, ⟨0, ∅, ⟨∅, []⟩⟩⟩

theorem routerIntfRefCountsExact_empty (nodeId : Nat) :
    RouterIntfRefCountsExact (BcmNode.empty nodeId) := by
  intro routerIntfId _
  simp [BcmNode.empty, membersOnRouterIntf, BcmTableManager.empty]

/-! ## Two members with one nexthop -/

/-- An SDK whose router interface of a source MAC and VLAN and egress
interface of a port key are numbered from their keys. -/
def keyedIds : BcmSdkIds where
  routerIntf srcMac vlan := 1 + srcMac * 4096 + vlan
  portEgressIntf dstMac port vlan routerIntfId := 100000 + dstMac * 1000 + port * 10 + vlan +
    routerIntfId
  trunkEgressIntf dstMac trunk vlan routerIntfId := 200000 + dstMac * 1000 + trunk * 10 + vlan +
    routerIntfId
  cpuEgressIntf := 100001
  dropIntf := 100002
  egressIntfNotFound := ⟨.errEntryNotFound, "Egress intf not found."⟩

/-- The nexthop to port `3` on VLAN `10` that both members map to. -/
def sharedNexthop : BcmNonMultipathNexthop := ⟨.port, 0, 10, 1, 2, .logicalPort 3⟩

/-- The controller inserts members `1` and `2` of action profile `1` with the
same nexthop, then deletes member `1`. -/
def duplicateNexthopWrites : List (ActionProfileMember × UpdateType) :=
  [(⟨1, 1, ⟨1, []⟩⟩, .insert), (⟨1, 2, ⟨1, []⟩⟩, .insert), (⟨1, 1, ⟨1, []⟩⟩, .delete)]

/-- Inserting member `2` counts a second reference on router interface
`4107` and is then refused, since member `1` already has the egress interface
`106147`; the count stays at two for one member. Deleting member `1` brings it
to one with no member left, so `DeleteL3RouterIntf` is never called. -/
theorem router_intf_leaked_by_duplicate_nexthop :
    RouterIntfRefCountsExact (BcmNode.empty 1) ∧
      (trace (step keyedIds fun _ => .ok sharedNexthop) (BcmNode.empty 1)
        duplicateNexthopWrites).map Prod.snd =
        [.ok (), .error ⟨.errInvalidParam, "Member with ID 2 is supposed to point to egress " ++
          "intf with ID 106147. However this egress intf is already assigned to member with " ++
          "ID 1."⟩, .ok ()] ∧
      (final (step keyedIds fun _ => .ok sharedNexthop) (BcmNode.empty 1)
        (duplicateNexthopWrites.take 2)).l3Manager.routerIntfRefCount.lookup 4107 = some 2 ∧
      membersOnRouterIntf (final (step keyedIds fun _ => .ok sharedNexthop) (BcmNode.empty 1)
        (duplicateNexthopWrites.take 2)) 4107 = 1 ∧
      (final (step keyedIds fun _ => .ok sharedNexthop) (BcmNode.empty 1)
        duplicateNexthopWrites).l3Manager.routerIntfRefCount.lookup 4107 = some 1 ∧
      membersOnRouterIntf (final (step keyedIds fun _ => .ok sharedNexthop) (BcmNode.empty 1)
        duplicateNexthopWrites) 4107 = 0 ∧
      (final (step keyedIds fun _ => .ok sharedNexthop) (BcmNode.empty 1)
        duplicateNexthopWrites).l3Manager.sdk.deletedRouterIntfs = [] :=
  ⟨routerIntfRefCountsExact_empty 1, by decide, by decide, by decide, by decide, by decide,
    by decide⟩

end Stratum.Ports.BcmNode
