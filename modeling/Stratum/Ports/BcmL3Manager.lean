import Stratum.Ports.BcmTableManager

set_option linter.dupNamespace false

/-!
# Non-multipath nexthops of `BcmL3Manager`

`stratum/hal/lib/bcm/bcm_l3_manager.cc` programs a member of an ECMP/WCMP
action profile as an L3 egress interface of the BCM SDK, on a router
interface that the SDK finds or creates for the source MAC and VLAN. The
manager counts, in `router_intf_ref_count_`, the egress interfaces it made on
each router interface, and deletes a router interface once its count drops
to zero.

The SDK is a parameter: `FindOrCreate*` return one fixed ID per key (so equal
nexthops get equal interfaces), and `FindRouterIntfFromEgressIntf` returns the
router interface an egress interface was last created or modified with. The
SDK state the model keeps is that record, and the log of the router
interfaces `DeleteL3RouterIntf` removed.
-/

namespace Stratum.Ports.BcmL3Manager

open Stratum.Ports.Status Stratum.Ports.BcmTableManager

/-! ## Nexthops and the SDK -/

/-- The `port` oneof of `BcmNonMultipathNexthop`. -/
inductive NexthopPort
  | logicalPort (port : Int)
  | trunkPort (trunk : Int)
  | notSet
  deriving DecidableEq, Repr

/-- `BcmNonMultipathNexthop`. -/
structure BcmNonMultipathNexthop where
  type : NexthopType
  unit : Int
  vlan : Int
  srcMac : Nat
  dstMac : Nat
  port : NexthopPort
  deriving DecidableEq, Repr

/-- `logical_port()`: zero unless the port is a logical port. -/
def BcmNonMultipathNexthop.logicalPort (nexthop : BcmNonMultipathNexthop) : Int :=
  match nexthop.port with
  | .logicalPort port => port
  | _ => 0

/-- `trunk_port()`: zero unless the port is a trunk. -/
def BcmNonMultipathNexthop.trunkPort (nexthop : BcmNonMultipathNexthop) : Int :=
  match nexthop.port with
  | .trunkPort trunk => trunk
  | _ => 0

/-- The port `BcmNode` records for a member: the logical port when one is
set, else the trunk. -/
def BcmNonMultipathNexthop.bcmPortId (nexthop : BcmNonMultipathNexthop) : Int :=
  match nexthop.port with
  | .logicalPort port => port
  | _ => nexthop.trunkPort

/-- The IDs the BCM SDK returns, each a fixed function of its key; the unit
is the manager's own and is left out. -/
structure BcmSdkIds where
  /-- `FindOrCreateL3RouterIntf(unit, src_mac, vlan)`. -/
  routerIntf : Nat → Int → Int
  /-- `FindOrCreateL3PortEgressIntf(unit, dst_mac, port, vlan, router_intf_id)`. -/
  portEgressIntf : Nat → Int → Int → Int → Int
  /-- `FindOrCreateL3TrunkEgressIntf(unit, dst_mac, trunk, vlan, router_intf_id)`. -/
  trunkEgressIntf : Nat → Int → Int → Int → Int
  /-- `FindOrCreateL3CpuEgressIntf(unit)`. -/
  cpuEgressIntf : Int
  /-- `FindOrCreateL3DropIntf(unit)`. -/
  dropIntf : Int
  /-- The error of `FindRouterIntfFromEgressIntf` on an egress interface the
  SDK does not have. -/
  egressIntfNotFound : UtilError

/-- The SDK state the nexthop code reads back: the router interface each
egress interface was last created or modified with (`-1` for the CPU and drop
interfaces, whose router interface the SDK keeps to itself), and the router
interfaces `DeleteL3RouterIntf` removed, latest first. -/
structure BcmSdkState where
  egressIntfRouterIntf : AList (fun _ : Int => Int)
  deletedRouterIntfs : List Int

/-- `BcmL3Manager`, with the state of the SDK it drives. -/
structure BcmL3Manager where
  unit : Int
  routerIntfRefCount : AList (fun _ : Int => Nat)
  sdk : BcmSdkState

/-- A call on the manager: it may fail after changing it. -/
abbrev L3Op := EStateM UtilError BcmL3Manager

/-- An egress interface created or modified on a router interface. -/
def setEgressIntf (egressIntfId routerIntfId : Int) : L3Op Unit :=
  modify fun s => { s with sdk := { s.sdk with
    egressIntfRouterIntf := s.sdk.egressIntfRouterIntf.insert egressIntfId routerIntfId } }

/-- `FindRouterIntfFromEgressIntf`. -/
def findRouterIntfFromEgressIntf (ids : BcmSdkIds) (egressIntfId : Int) : L3Op Int := fun s =>
  match s.sdk.egressIntfRouterIntf.lookup egressIntfId with
  | some routerIntfId => .ok routerIntfId s
  | none => .error ids.egressIntfNotFound s

/-- `DeleteL3EgressIntf`. -/
def deleteL3EgressIntf (egressIntfId : Int) : L3Op Unit :=
  modify fun s => { s with sdk := { s.sdk with
    egressIntfRouterIntf := s.sdk.egressIntfRouterIntf.erase egressIntfId } }

/-- `DeleteL3RouterIntf`. -/
def deleteL3RouterIntf (routerIntfId : Int) : L3Op Unit :=
  modify fun s => { s with sdk := { s.sdk with
    deletedRouterIntfs := routerIntfId :: s.sdk.deletedRouterIntfs } }

/-! ## Reference counts -/

/-- `IncrementRefCount`: `router_intf_ref_count_[router_intf_id]++`, from zero
for a new key. -/
def incrementRefCount (routerIntfId : Int) : L3Op Unit :=
  modify fun s =>
    let refCount := (s.routerIntfRefCount.lookup routerIntfId).getD 0
    { s with routerIntfRefCount := s.routerIntfRefCount.insert routerIntfId (refCount + 1) }

/-- `DecrementRefCount`: the router interface is deleted with its last
reference. -/
def decrementRefCount (routerIntfId : Int) : L3Op Unit := do
  let s ← get
  match s.routerIntfRefCount.lookup routerIntfId with
  | none =>
      liftExcept (retCheck false ("Inconsistent state. router_intf_id: " ++
        toString routerIntfId ++ " not in router_intf_ref_count_ map."))
  | some refCount =>
      liftExcept (retCheck (decide (refCount > 0)) ("Inconsistent state. router_intf_id: " ++
        toString routerIntfId ++ " has zero ref count."))
      set { s with routerIntfRefCount := s.routerIntfRefCount.insert routerIntfId (refCount - 1) }
      if refCount - 1 = 0 then
        deleteL3RouterIntf routerIntfId
        modify fun s => { s with routerIntfRefCount := s.routerIntfRefCount.erase routerIntfId }

/-! ## Nexthops -/

/-- The `RET_CHECK` on the unit of a nexthop. -/
def checkUnit (nexthop : BcmNonMultipathNexthop) : L3Op Unit := do
  let s ← get
  liftExcept (retCheck (nexthop.unit == s.unit) ("Received non-multipath nexthop for unit " ++
    toString nexthop.unit ++ " on unit " ++ toString s.unit ++ "."))

/-- The error for a nexthop type no case handles. -/
def invalidNexthopType : UtilError :=
  ⟨.errInvalidParam, "Invalid nexthop type: NEXTHOP_TYPE_UNKNOWN, found in ."⟩

/-- The switch of `FindOrCreateNonMultipathNexthop`: the router interface
(`-1` for none) and the egress interface found or created for the nexthop. -/
def findOrCreateEgressIntf (ids : BcmSdkIds) (nexthop : BcmNonMultipathNexthop) :
    L3Op (Int × Int) :=
  match nexthop.type with
  | .port =>
      let logicalPort := nexthop.logicalPort
      if logicalPort = 0 ∧ nexthop.srcMac = 0 ∧ nexthop.dstMac = 0 then do
        setEgressIntf ids.cpuEgressIntf (-1)
        pure (-1, ids.cpuEgressIntf)
      else if logicalPort ≥ 0 ∧ nexthop.srcMac > 0 ∧ nexthop.dstMac > 0 then do
        let routerIntfId := ids.routerIntf nexthop.srcMac nexthop.vlan
        let egressIntfId :=
          ids.portEgressIntf nexthop.dstMac logicalPort nexthop.vlan routerIntfId
        setEgressIntf egressIntfId routerIntfId
        pure (routerIntfId, egressIntfId)
      else throw ⟨.errInvalidParam, "Invalid nexthop of type NEXTHOP_TYPE_PORT: ."⟩
  | .trunk =>
      let trunkPort := nexthop.trunkPort
      if trunkPort > 0 ∧ nexthop.srcMac > 0 ∧ nexthop.dstMac > 0 then do
        let routerIntfId := ids.routerIntf nexthop.srcMac nexthop.vlan
        let egressIntfId :=
          ids.trunkEgressIntf nexthop.dstMac trunkPort nexthop.vlan routerIntfId
        setEgressIntf egressIntfId routerIntfId
        pure (routerIntfId, egressIntfId)
      else throw ⟨.errInvalidParam, "Invalid nexthop of type NEXTHOP_TYPE_TRUNK: ."⟩
  | .drop =>
      if nexthop.srcMac = 0 ∧ nexthop.dstMac = 0 then do
        setEgressIntf ids.dropIntf (-1)
        pure (-1, ids.dropIntf)
      else throw ⟨.errInvalidParam, "Invalid nexthop of type NEXTHOP_TYPE_DROP: ."⟩
  | .unknown => throw invalidNexthopType

/-- `FindOrCreateNonMultipathNexthop`: the egress interface, with one more
reference on its router interface. -/
def findOrCreateNonMultipathNexthop (ids : BcmSdkIds) (nexthop : BcmNonMultipathNexthop) :
    L3Op Int := do
  checkUnit nexthop
  let (routerIntfId, egressIntfId) ← findOrCreateEgressIntf ids nexthop
  if egressIntfId ≤ 0 then throw ⟨.errInvalidParam, "Invalid egress_intf_id found for ."⟩
  if routerIntfId > 0 then incrementRefCount routerIntfId
  pure egressIntfId

/-- The switch of `ModifyNonMultipathNexthop`: the egress interface remade
for the nexthop, and its new router interface (`-1` for none). -/
def modifyEgressIntf (ids : BcmSdkIds) (egressIntfId : Int) (nexthop : BcmNonMultipathNexthop) :
    L3Op Int :=
  match nexthop.type with
  | .port =>
      let logicalPort := nexthop.logicalPort
      if logicalPort = 0 ∧ nexthop.srcMac = 0 ∧ nexthop.dstMac = 0 then do
        setEgressIntf egressIntfId (-1)
        pure (-1)
      else if logicalPort ≥ 0 ∧ nexthop.srcMac > 0 ∧ nexthop.dstMac > 0 then do
        let routerIntfId := ids.routerIntf nexthop.srcMac nexthop.vlan
        setEgressIntf egressIntfId routerIntfId
        pure routerIntfId
      else throw ⟨.errInvalidParam, "Invalid nexthop of type NEXTHOP_TYPE_PORT: ."⟩
  | .trunk =>
      if nexthop.trunkPort > 0 ∧ nexthop.srcMac > 0 ∧ nexthop.dstMac > 0 then do
        let routerIntfId := ids.routerIntf nexthop.srcMac nexthop.vlan
        setEgressIntf egressIntfId routerIntfId
        pure routerIntfId
      else throw ⟨.errInvalidParam, "Invalid nexthop of type NEXTHOP_TYPE_TRUNK: ."⟩
  | .drop =>
      if nexthop.srcMac = 0 ∧ nexthop.dstMac = 0 then do
        setEgressIntf egressIntfId (-1)
        pure (-1)
      else throw ⟨.errInvalidParam, "Invalid nexthop of type NEXTHOP_TYPE_DROP: ."⟩
  | .unknown => throw invalidNexthopType

/-- `ModifyNonMultipathNexthop`: the new router interface gains a reference
before the old one loses one. -/
def modifyNonMultipathNexthop (ids : BcmSdkIds) (egressIntfId : Int)
    (nexthop : BcmNonMultipathNexthop) : L3Op Unit := do
  if egressIntfId ≤ 0 then
    throw ⟨.errInvalidParam, "Invalid egress_intf_id: " ++ toString egressIntfId ++ "."⟩
  checkUnit nexthop
  let oldRouterIntfId ← findRouterIntfFromEgressIntf ids egressIntfId
  let newRouterIntfId ← modifyEgressIntf ids egressIntfId nexthop
  if newRouterIntfId > 0 then incrementRefCount newRouterIntfId
  if oldRouterIntfId > 0 then decrementRefCount oldRouterIntfId

/-- `DeleteNonMultipathNexthop`. -/
def deleteNonMultipathNexthop (ids : BcmSdkIds) (egressIntfId : Int) : L3Op Unit := do
  if egressIntfId ≤ 0 then
    throw ⟨.errInvalidParam, "Invalid egress_intf_id: " ++ toString egressIntfId ++ "."⟩
  let routerIntfId ← findRouterIntfFromEgressIntf ids egressIntfId
  deleteL3EgressIntf egressIntfId
  if routerIntfId > 0 then decrementRefCount routerIntfId

end Stratum.Ports.BcmL3Manager
