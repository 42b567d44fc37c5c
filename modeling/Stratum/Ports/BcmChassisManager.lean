import Stratum.Ports.Status
import Stratum.Verified.OrderedContainers
import Stratum.Verified.Run

/-!
# Chassis-map generation of `BcmChassisManager`

`BcmChassisManager::GenerateBcmChassisMapFromConfig`
(`stratum/hal/lib/bcm/bcm_chassis_manager.cc`) turns a pushed `ChassisConfig`
into the `BcmChassisMap` the SDK is brought up with. It validates the nodes,
then the singleton ports, taking for each the first `BcmPort` of the base map
with its (slot, port, channel, speed_bps); a non-flex one is copied to the
target at once, a flex one only records its (slot, port). It then validates
the trunk ports, copies the chips of the units the nodes use, checks the
speeds and channels of every transceiver, adds the four channels of every
flex port group, numbers the logical ports if the map asks for it, gives a
logical port to each GE port of a Trident+ chip, and rejects a physical,
diagnostic or logical port used twice on one unit.

The base map is an input of the model: reading it from its file and
re-slotting it (`ReadBaseBcmChassisMapFromFile`,
`PopulateSlotFromPushedChassisConfig`) come before. `std::set` and `std::map`
values are sorted lists (`OrderedContainers`), so every loop runs in the order
of the source. On failure the source leaves a partly filled target, which its
callers drop; the model returns the error only.

Main results:

* `checkDuplicatePorts_ok`, `generate_ports_distinct` — when the last check
  passes, and so in every target the generation returns, the ports of every
  unit have distinct physical, diagnostic and logical ports, and none of a
  unit with a chip has the CPU's logical port;
* `generate_rejects_flex_before_nonflex` — a config in which a singleton port
  matching a flex `BcmPort` comes before one of the same (slot, port) matching
  a non-flex `BcmPort` is always rejected;
* `flex_mixing_depends_on_order` — the same two ports in the other order are
  accepted, and the target then mixes flex and non-flex ports on one
  transceiver.
-/

namespace Stratum.Ports.BcmChassisManager

open Stratum.Ports.Status Stratum.Verified.OrderedContainers Stratum.Verified.Run

/-! ## Config and chassis-map messages -/

/-- `Platform` (`hal/lib/common/common.proto`). -/
inductive Platform
  | pltUnknown
  | pltGenericTridentPlus
  | pltGenericTrident2
  | pltGenericTomahawk
  | pltGenericTomahawkPlus
  | pltGenericTomahawk2
  | pltGenericTomahawk3
  | pltMlnxSn2700
  | pltP4SoftSwitch
  | pltNp4IntelN3000
  | pltGenericBarefootTofino
  | pltGenericBarefootTofino2
  deriving DecidableEq, Repr

/-- `Platform_Name`. -/
def Platform.name : Platform → String
  | .pltUnknown => "PLT_UNKNOWN"
  | .pltGenericTridentPlus => "PLT_GENERIC_TRIDENT_PLUS"
  | .pltGenericTrident2 => "PLT_GENERIC_TRIDENT2"
  | .pltGenericTomahawk => "PLT_GENERIC_TOMAHAWK"
  | .pltGenericTomahawkPlus => "PLT_GENERIC_TOMAHAWK_PLUS"
  | .pltGenericTomahawk2 => "PLT_GENERIC_TOMAHAWK2"
  | .pltGenericTomahawk3 => "PLT_GENERIC_TOMAHAWK3"
  | .pltMlnxSn2700 => "PLT_MLNX_SN2700"
  | .pltP4SoftSwitch => "PLT_P4_SOFT_SWITCH"
  | .pltNp4IntelN3000 => "PLT_NP4_INTEL_N3000"
  | .pltGenericBarefootTofino => "PLT_GENERIC_BAREFOOT_TOFINO"
  | .pltGenericBarefootTofino2 => "PLT_GENERIC_BAREFOOT_TOFINO2"

/-- `Chassis`, with the field the generation reads. -/
structure Chassis where
  platform : Platform
  deriving DecidableEq, Repr

/-- `Node`, with the fields the generation reads. -/
structure Node where
  id : Nat
  slot : Int
  index : Int
  deriving DecidableEq, Repr

/-- `SingletonPort`, with the fields the generation reads. -/
structure SingletonPort where
  id : Nat
  slot : Int
  port : Int
  channel : Int
  speedBps : Nat
  node : Nat
  deriving DecidableEq, Repr

/-- `TrunkPort::TrunkType`. -/
inductive TrunkType
  | unknownTrunk
  | staticTrunk
  | lacpTrunk
  deriving DecidableEq, Repr

/-- `TrunkPort`, with the fields the generation reads. -/
structure TrunkPort where
  id : Nat
  node : Nat
  type : TrunkType
  members : List Nat
  deriving DecidableEq, Repr

/-- `ChassisConfig`, with the fields the generation reads. -/
structure ChassisConfig where
  chassis : Option Chassis
  nodes : List Node
  singletonPorts : List SingletonPort
  trunkPorts : List TrunkPort
  deriving DecidableEq, Repr

/-- `BcmChip::BcmChipType` (`hal/lib/bcm/bcm.proto`). -/
inductive BcmChipType
  | unknown
  | tridentPlus
  | trident2
  | tomahawk
  | tomahawkPlus
  | tomahawk2
  | tomahawk3
  deriving DecidableEq, Repr

/-- `BcmChip::BcmChipType_Name`. -/
def BcmChipType.name : BcmChipType → String
  | .unknown => "UNKNOWN"
  | .tridentPlus => "TRIDENT_PLUS"
  | .trident2 => "TRIDENT2"
  | .tomahawk => "TOMAHAWK"
  | .tomahawkPlus => "TOMAHAWK_PLUS"
  | .tomahawk2 => "TOMAHAWK2"
  | .tomahawk3 => "TOMAHAWK3"

/-- `BcmChip`, with the fields the generation reads; the others are copied
unchanged. -/
structure BcmChip where
  type : BcmChipType
  unit : Int
  deriving DecidableEq, Repr

/-- `BcmPort::BcmPortType`. -/
inductive BcmPortType
  | unknown
  | mgmt
  | ge
  | xe
  | ce
  deriving DecidableEq, Repr

/-- `BcmPort`, with the fields the generation reads or writes; the others are
copied unchanged. -/
structure BcmPort where
  type : BcmPortType
  slot : Int
  port : Int
  channel : Int
  unit : Int
  speedBps : Nat
  logicalPort : Int
  physicalPort : Int
  diagPort : Int
  flexPort : Bool
  internal : Bool
  deriving DecidableEq, Repr

/-- `BcmChassisMap`, without its `bcm_chassis` SDK properties. -/
structure BcmChassisMap where
  id : String
  autoAddLogicalPorts : Bool
  autoAddSlot : Bool
  bcmChips : List BcmChip
  bcmPorts : List BcmPort
  deriving DecidableEq, Repr

/-! ## Constants and printing -/

/-- `kCpuPortId` (`hal/lib/common/constants.h`). -/
def kCpuPortId : Nat := 0xFD

/-- `kCpuLogicalPort` (`hal/lib/bcm/constants.h`). -/
def kCpuLogicalPort : Int := 0

/-- `kBitsPerGigabit` and the port speeds of `lib/constants.h`. -/
def kBitsPerGigabit : Nat := 1000000000
def kOneGigBps : Nat := 1 * kBitsPerGigabit
def kTenGigBps : Nat := 10 * kBitsPerGigabit
def kTwentyGigBps : Nat := 20 * kBitsPerGigabit
def kTwentyFiveGigBps : Nat := 25 * kBitsPerGigabit
def kFortyGigBps : Nat := 40 * kBitsPerGigabit
def kFiftyGigBps : Nat := 50 * kBitsPerGigabit
def kHundredGigBps : Nat := 100 * kBitsPerGigabit

/-- `kTridentPlusMaxBcmPortsInXPipeline` (`bcm_chassis_manager.h`). -/
def kTridentPlusMaxBcmPortsInXPipeline : Nat := 32

/-- `PrintNodeProperties` (`hal/lib/common/utils.cc`). -/
def printNodeProperties (id : Nat) (slot index : Int) : String :=
  "(" ++ (if id > 0 then "id: " ++ toString id ++ ", " else "") ++ "slot: " ++ toString slot ++
    (if index > 0 then ", index: " ++ toString index else "") ++ ")"

/-- `PrintNode`. -/
def printNode (node : Node) : String := printNodeProperties node.id node.slot node.index

/-- `PrintPortProperties`: the node and port IDs, when given, each followed by
a separator, then the slot and port and the parts that are set. -/
def printPortProperties (nodeId portId : Nat) (slot port channel unit logicalPort : Int)
    (speedBps : Nat) : String :=
  "(" ++ (if nodeId > 0 then "node_id: " ++ toString nodeId ++ ", " else "") ++
    (if portId > 0 then "port_id: " ++ toString portId ++ ", " else "") ++
    "slot: " ++ toString slot ++ ", port: " ++ toString port ++
    (if channel > 0 then ", channel: " ++ toString channel else "") ++
    (if unit ≥ 0 then ", unit: " ++ toString unit else "") ++
    (if logicalPort ≥ 0 then ", logical_port: " ++ toString logicalPort else "") ++
    (if speedBps > 0 then ", speed: " ++ toString (speedBps / kBitsPerGigabit) ++ "G" else "") ++
    ")"

/-- `PrintSingletonPort`. -/
def printSingletonPort (p : SingletonPort) : String :=
  printPortProperties p.node p.id p.slot p.port p.channel (-1) (-1) p.speedBps

/-- `PrintTrunkProperties`: the parts that are set, separated by commas. -/
def printTrunkProperties (nodeId trunkId : Nat) (unit trunkPort : Int) (speedBps : Nat) :
    String :=
  "(" ++ ", ".intercalate
    ((if nodeId > 0 then ["node_id: " ++ toString nodeId] else []) ++
      (if trunkId > 0 then ["trunk_id: " ++ toString trunkId] else []) ++
      (if unit ≥ 0 then ["unit: " ++ toString unit] else []) ++
      (if trunkPort ≥ 0 then ["trunk_port: " ++ toString trunkPort] else []) ++
      (if speedBps > 0 then ["speed: " ++ toString (speedBps / kBitsPerGigabit) ++ "G"] else [])) ++
    ")"

/-- `PrintTrunkPort`. -/
def printTrunkPort (p : TrunkPort) : String := printTrunkProperties p.node p.id (-1) (-1) 0

/-- `PrintBcmPort`. -/
def printBcmPort (p : BcmPort) : String :=
  printPortProperties 0 0 p.slot p.port p.channel p.unit p.logicalPort p.speedBps

/-! ## Port keys and matching -/

/-- `PortKey` (`hal/lib/common/utils.h`). -/
structure PortKey where
  slot : Int
  port : Int
  channel : Int
  deriving DecidableEq, Repr

/-- `PortKey(slot, port)`: the key of a transceiver port group. -/
def PortKey.group (slot port : Int) : PortKey := ⟨slot, port, -1⟩

/-- `PortKey::operator<`: by slot, then port, then channel. -/
def PortKey.lt (a b : PortKey) : Bool :=
  a.slot < b.slot || (a.slot == b.slot && (a.port < b.port || (a.port == b.port &&
    a.channel < b.channel)))

/-- `PortKey::ToString`. -/
def PortKey.toString (k : PortKey) : String :=
  if k.channel > 0 then
    "(slot: " ++ ToString.toString k.slot ++ ", port: " ++ ToString.toString k.port ++
      ", channel: " ++ ToString.toString k.channel ++ ")"
  else "(slot: " ++ ToString.toString k.slot ++ ", port: " ++ ToString.toString k.port ++ ")"

/-- The orders of `std::set` and `std::map` on the other keys. -/
def natLt (a b : Nat) : Bool := a < b
def intLt (a b : Int) : Bool := a < b
def boolLt (a b : Bool) : Bool := !a && b

/-- `BcmChassisManager::IsSingletonPortMatchesBcmPort`: only XE, CE and GE
ports match, on (slot, port, channel, speed_bps). -/
def isSingletonPortMatchesBcmPort (singletonPort : SingletonPort) (bcmPort : BcmPort) : Bool :=
  if bcmPort.type != .xe && bcmPort.type != .ce && bcmPort.type != .ge then false
  else singletonPort.slot == bcmPort.slot && singletonPort.port == bcmPort.port &&
    singletonPort.channel == bcmPort.channel && singletonPort.speedBps == bcmPort.speedBps

/-! ## Platform and nodes -/

/-- The chip types the platform of the config supports. -/
def supportedChipTypes (config : ChassisConfig) : StatusOr (List BcmChipType) := do
  let platform := (config.chassis.map Chassis.platform).getD .pltUnknown
  retCheck (config.chassis.isSome && platform != .pltUnknown)
    "Config needs a Chassis message with correct platform."
  match platform with
  | .pltGenericTridentPlus => pure [.tridentPlus]
  | .pltGenericTrident2 => pure [.trident2]
  | .pltGenericTomahawk => pure [.tomahawk]
  | .pltGenericTomahawkPlus => pure [.tomahawkPlus]
  | .pltGenericTomahawk2 => pure [.tomahawk2]
  | .pltGenericTomahawk3 => pure [.tomahawk3]
  | other => .error ⟨.errInternal, "Unsupported platform: " ++ other.name⟩

/-- One node: a positive slot and ID, not recorded before; it is recorded
with no unit (`-1`) yet. -/
def nodeStep (nodeIdToUnit : List (Nat × Int)) (node : Node) : StatusOr (List (Nat × Int)) := do
  retCheck (decide (node.slot > 0)) "No positive slot in "
  retCheck (decide (node.id > 0)) "No positive ID in "
  retCheck (nodeIdToUnit.lookup node.id).isNone
    ("The id for Node " ++ printNode node ++ " was already recorded for another Node in the " ++
      "config.")
  pure (mapAlter natLt node.id (-1) id nodeIdToUnit)

/-! ## Singleton ports -/

/-- The maps and sets the singleton-port loop fills, and the ports it adds
to the target. -/
structure SingletonPortsState where
  nodeIdToUnit : List (Nat × Int)
  nodeIdToPortIds : List (Nat × List Nat)
  singletonPortKeys : List PortKey
  flexPortGroupKeys : List PortKey
  portGroupKeyToChannels : List (PortKey × List Int)
  portGroupKeyToSpeedBps : List (PortKey × List Nat)
  portGroupKeyToInternal : List (PortKey × List Bool)
  bcmPorts : List BcmPort
  deriving DecidableEq, Repr

/-- The state before the first singleton port. -/
def SingletonPortsState.init (nodeIdToUnit : List (Nat × Int)) : SingletonPortsState :=
  ⟨nodeIdToUnit, [], [], [], [], [], [], []⟩

/-- The flex part of the inner loop at the first `BcmPort` the singleton port
matches: a flex port only records its (slot, port); a non-flex one must not
have a (slot, port) recorded by a flex one before it, and is added. -/
def recordFlexPort (singletonPort : SingletonPort) (bcmPort : BcmPort)
    (s : SingletonPortsState) : StatusOr (List PortKey × List BcmPort) :=
  let portGroupKey := PortKey.group singletonPort.slot singletonPort.port
  if bcmPort.flexPort then pure (setInsert PortKey.lt portGroupKey s.flexPortGroupKeys, s.bcmPorts)
  else do
    retCheck (!decide (portGroupKey ∈ s.flexPortGroupKeys))
      ("The (slot, port) pair for the non-flex SingletonPort " ++
        printSingletonPort singletonPort ++ " is in flex_port_group_keys.")
    pure (s.flexPortGroupKeys, s.bcmPorts ++ [bcmPort])

/-- The unit part: the first matched port of a node gives the node its unit,
and every later one must be on it. -/
def recordNodeUnit (singletonPort : SingletonPort) (bcmPort : BcmPort)
    (s : SingletonPortsState) : StatusOr (List (Nat × Int)) :=
  let unit := (s.nodeIdToUnit.lookup singletonPort.node).getD (-1)
  if unit = -1 then
    pure (mapAlter natLt singletonPort.node (-1) (fun _ => bcmPort.unit) s.nodeIdToUnit)
  else do
    retCheck (unit == bcmPort.unit)
      ("Inconsistent config. SingletonPort " ++ printSingletonPort singletonPort ++
        " has Node ID " ++ toString singletonPort.node ++ " which was previously attched to " ++
        "unit " ++ toString unit ++ ". But BcmChassisMap now suggests unit " ++
        toString bcmPort.unit ++ " for this port.")
    pure s.nodeIdToUnit

/-- The body of the inner loop at the first `BcmPort` the singleton port
matches. -/
def addMatchedBcmPort (singletonPort : SingletonPort) (bcmPort : BcmPort)
    (s : SingletonPortsState) : StatusOr SingletonPortsState := do
  let (flexPortGroupKeys, bcmPorts) ← recordFlexPort singletonPort bcmPort s
  let nodeIdToUnit ← recordNodeUnit singletonPort bcmPort s
  pure { s with
    nodeIdToUnit
    flexPortGroupKeys
    bcmPorts
    singletonPortKeys := setInsert PortKey.lt
      ⟨singletonPort.slot, singletonPort.port, singletonPort.channel⟩ s.singletonPortKeys
    portGroupKeyToInternal := mapAlter PortKey.lt
      (PortKey.group singletonPort.slot singletonPort.port) []
      (setInsert boolLt bcmPort.internal) s.portGroupKeyToInternal }

/-- One singleton port: its basic checks, the first matching `BcmPort` of
the base map, and its channel and speed recorded for its (slot, port). -/
def singletonPortStep (base : BcmChassisMap) (s : SingletonPortsState)
    (singletonPort : SingletonPort) : StatusOr SingletonPortsState := do
  let p := printSingletonPort singletonPort
  retCheck (decide (singletonPort.id > 0)) ("No positive ID in " ++ p ++ ".")
  retCheck (singletonPort.id != kCpuPortId)
    ("SingletonPort " ++ p ++ " has the reserved CPU port ID (" ++ toString kCpuPortId ++ ").")
  retCheck (decide (singletonPort.slot > 0)) "No valid slot in ."
  retCheck (decide (singletonPort.port > 0)) "No valid port in ."
  retCheck (decide (singletonPort.speedBps > 0)) "No valid speed_bps in ."
  let singletonPortKey : PortKey := ⟨singletonPort.slot, singletonPort.port, singletonPort.channel⟩
  retCheck (!decide (singletonPortKey ∈ s.singletonPortKeys))
    ("The (slot, port, channel) tuple for SingletonPort " ++ p ++ " was already recorded for " ++
      "another SingletonPort in the config.")
  retCheck (decide (singletonPort.node > 0)) "No valid node ID in ."
  retCheck (s.nodeIdToUnit.lookup singletonPort.node).isSome
    ("Node ID " ++ toString singletonPort.node ++ " given for SingletonPort " ++ p ++
      " has not been given to any Node in the config.")
  retCheck (!decide (singletonPort.id ∈ (s.nodeIdToPortIds.lookup singletonPort.node).getD []))
    ("The id for SingletonPort " ++ p ++ " was already recorded for another SingletonPort for " ++
      "node with ID " ++ toString singletonPort.node ++ ".")
  let nodeIdToPortIds := mapAlter natLt singletonPort.node [] (setInsert natLt singletonPort.id)
    s.nodeIdToPortIds
  let s := { s with nodeIdToPortIds }
  let portGroupKey := PortKey.group singletonPort.slot singletonPort.port
  match base.bcmPorts.find? (isSingletonPortMatchesBcmPort singletonPort) with
  | none =>
      .error ⟨.errInvalidParam, "Could not find any BcmPort in base_bcm_chassis_map whose " ++
        "(slot, port, channel, speed_bps) tuple matches non-flex SingletonPort " ++ p ++ "."⟩
  | some bcmPort => do
      let s ← addMatchedBcmPort singletonPort bcmPort s
      pure { s with
        portGroupKeyToChannels := mapAlter PortKey.lt portGroupKey []
          (setInsert intLt singletonPort.channel) s.portGroupKeyToChannels
        portGroupKeyToSpeedBps := mapAlter PortKey.lt portGroupKey []
          (setInsert natLt singletonPort.speedBps) s.portGroupKeyToSpeedBps }

/-- Every node has a unit once all singleton ports are seen. -/
def checkNodeUnits (nodeIdToUnit : List (Nat × Int)) : StatusOr Unit :=
  nodeIdToUnit.forM fun e =>
    retCheck (decide (e.2 ≥ 0))
      ("No port found for Node with ID " ++ toString e.1 ++ " in the config.")

/-! ## Trunk ports and chips -/

/-- One trunk port: its basic checks, an ID new among the trunk and singleton
ports of its node, and members that are singleton ports of its node. -/
def trunkPortStep (nodeIdToUnit : List (Nat × Int)) (nodeIdToPortIds : List (Nat × List Nat))
    (nodeIdToTrunkIds : List (Nat × List Nat)) (trunkPort : TrunkPort) :
    StatusOr (List (Nat × List Nat)) := do
  let p := printTrunkPort trunkPort
  retCheck (decide (trunkPort.id > 0)) ("No positive ID in " ++ p ++ ".")
  retCheck (trunkPort.type != .unknownTrunk) ("No type in " ++ p ++ ".")
  retCheck (trunkPort.id != kCpuPortId)
    ("TrunkPort " ++ p ++ " has the reserved CPU port ID (" ++ toString kCpuPortId ++ ").")
  retCheck (decide (trunkPort.node > 0)) "No valid node ID in ."
  retCheck (nodeIdToUnit.lookup trunkPort.node).isSome
    ("Node ID " ++ toString trunkPort.node ++ " given for TrunkPort " ++ p ++
      " has not been given to any Node in the config.")
  retCheck (!decide (trunkPort.id ∈ (nodeIdToTrunkIds.lookup trunkPort.node).getD []))
    ("The id for TrunkPort " ++ p ++ " was already recorded for another TrunkPort for node " ++
      "with ID " ++ toString trunkPort.node ++ ".")
  let portIds := (nodeIdToPortIds.lookup trunkPort.node).getD []
  retCheck (!decide (trunkPort.id ∈ portIds))
    ("The id for TrunkPort " ++ p ++ " was already recorded for another SingletonPort for node " ++
      "with ID " ++ toString trunkPort.node ++ ".")
  let nodeIdToTrunkIds := mapAlter natLt trunkPort.node [] (setInsert natLt trunkPort.id)
    nodeIdToTrunkIds
  trunkPort.members.forM fun portId =>
    retCheck (decide (portId ∈ portIds))
      ("Unknown member SingletonPort " ++ toString portId ++ " for TrunkPort " ++ p ++ ".")
  pure nodeIdToTrunkIds

/-- The chip of each node's unit, in the order of the node IDs; its type must
be one the platform supports. -/
def addBcmChips (base : BcmChassisMap) (supported : List BcmChipType) (platform : Platform)
    (nodeIdToUnit : List (Nat × Int)) : StatusOr (List BcmChip) :=
  nodeIdToUnit.mapM fun e =>
    match base.bcmChips.find? (·.unit == e.2) with
    | some bcmChip => do
        retCheck (decide (bcmChip.type ∈ supported))
          ("Chip type " ++ bcmChip.type.name ++ " is not supported on platform " ++
            platform.name ++ ".")
        pure bcmChip
    | none =>
        .error ⟨.errInvalidParam, "Could not find any BcmChip for unit " ++ toString e.2 ++
          " in base_bcm_chassis_map."⟩

/-! ## Transceivers -/

/-- The singleton ports of a (slot, port) are all internal or all external. -/
def checkInternalPorts (portGroupKeyToInternal : List (PortKey × List Bool)) : StatusOr Unit :=
  portGroupKeyToInternal.forM fun e =>
    retCheck (e.2.length == 1)
      ("For SingletonPorts with " ++ e.1.toString ++ " found both internal and external BCM " ++
        "ports. This is invalid.")

/-- `speed_bps_to_expected_channels`. -/
def speedBpsToExpectedChannels (speedBps : Nat) : Option (List Int) :=
  if speedBps = kOneGigBps ∨ speedBps = kHundredGigBps ∨ speedBps = kFortyGigBps then some [0]
  else if speedBps = kFiftyGigBps ∨ speedBps = kTwentyGigBps then some [1, 2]
  else if speedBps = kTwentyFiveGigBps ∨ speedBps = kTenGigBps then some [1, 2, 3, 4]
  else none

/-- The singleton ports of a (slot, port) share one supported speed, and
their channels are among those of that speed. -/
def checkSpeedsAndChannels (portGroupKeyToSpeedBps : List (PortKey × List Nat))
    (portGroupKeyToChannels : List (PortKey × List Int)) : StatusOr Unit :=
  portGroupKeyToSpeedBps.forM fun e => do
    retCheck (e.2.length == 1)
      ("For SingletonPorts with " ++ e.1.toString ++ " found " ++ toString e.2.length ++
        " different speed_bps. This is invalid.")
    let speedBps := e.2.headD 0
    match speedBpsToExpectedChannels speedBps with
    | none => .error ⟨.errInvalidParam, "Unsupported speed_bps: " ++ toString speedBps ++ "."⟩
    | some expectedChannels =>
        let existingChannels := (portGroupKeyToChannels.lookup e.1).getD []
        retCheck (existingChannels.all (· ∈ expectedChannels))
          ("For SingletonPorts with " ++ e.1.toString ++ " and speed_bps = " ++
            toString speedBps ++ " found invalid channels.")

/-- The speed of the four channels of a flex port group on a chip. -/
def minSpeedBps : BcmChipType → StatusOr Nat
  | .tomahawk | .tomahawkPlus => pure kTwentyFiveGigBps
  | .tridentPlus | .trident2 => pure kTenGigBps
  | chipType => .error ⟨.errInternal, "Un-supported BCM chip type: " ++ chipType.name⟩

/-- One flex port group: its ports in the base map are on one unit, and the
first `BcmPort` of each of the channels `1..4` at the chip's speed is added. -/
def addFlexPortGroup (base : BcmChassisMap) (bcmPorts : List BcmPort) (portGroupKey : PortKey) :
    StatusOr (List BcmPort) := do
  let units := base.bcmPorts.foldl (fun units p =>
    if p.slot == portGroupKey.slot && p.port == portGroupKey.port then setInsert intLt p.unit units
    else units) []
  retCheck (units.length == 1)
    ("Found ports with (slot, port) = (" ++ toString portGroupKey.slot ++ ", " ++
      toString portGroupKey.port ++ ") that are on different chips.")
  let unit := units.headD 0
  let chipType := ((base.bcmChips.find? (·.unit == unit)).map BcmChip.type).getD .unknown
  let speedBps ← minSpeedBps chipType
  [1, 2, 3, 4].foldlM (fun ports channel => do
    let singletonPort : SingletonPort :=
      ⟨0, portGroupKey.slot, portGroupKey.port, channel, speedBps, 0⟩
    match base.bcmPorts.find? (isSingletonPortMatchesBcmPort singletonPort) with
    | some bcmPort => pure (ports ++ [bcmPort])
    | none =>
        .error ⟨.errInvalidParam, "Could not find any BcmPort in base_bcm_chassis_map whose " ++
          "(slot, port, channel, speed_bps) tuple matches flex SingletonPort " ++
          printSingletonPort singletonPort⟩) bcmPorts

/-! ## Logical ports and the final checks -/

/-- `unit_to_chip_type`. -/
def unitToChipType (bcmChips : List BcmChip) : List (Int × BcmChipType) :=
  bcmChips.foldl (fun m c => mapAlter intLt c.unit .unknown (fun _ => c.type) m) []

/-- `unit_to_bcm_port_keys`: the (slot, port, channel) of the data-plane
ports of each unit, sorted. -/
def unitToBcmPortKeys (bcmPorts : List BcmPort) : List (Int × List PortKey) :=
  bcmPorts.foldl (fun m p =>
    if p.type != .ge && p.type != .mgmt then
      mapAlter intLt p.unit [] (setInsert PortKey.lt ⟨p.slot, p.port, p.channel⟩) m
    else m) []

/-- `chip_type_to_max_num_ports[type]`; `operator[]` gives `0` to a type the
table lacks. -/
def maxNumPorts : BcmChipType → Nat
  | .tridentPlus => 64
  | .trident2 => 104
  | .tomahawk | .tomahawkPlus | .tomahawk2 | .tomahawk3 => 128
  | .unknown => 0

/-- No chip has more data-plane ports than its type allows. -/
def checkMaxNumPorts (unitToChipType : List (Int × BcmChipType))
    (unitToBcmPortKeys : List (Int × List PortKey)) : StatusOr Unit :=
  unitToChipType.forM fun e =>
    let found := ((unitToBcmPortKeys.lookup e.1).getD []).length
    retCheck (decide (found ≤ maxNumPorts e.2))
      ("Max num of BCM ports for a " ++ e.2.name ++ " chip is " ++ toString (maxNumPorts e.2) ++
        ", but we found " ++ toString found ++ " ports.")

/-- The logical port of a port is one more than the position of its key among
the sorted keys of its unit. -/
def autoAddLogicalPort (unitToBcmPortKeys : List (Int × List PortKey)) (bcmPort : BcmPort) :
    StatusOr BcmPort := do
  let bcmPortKeys := (unitToBcmPortKeys.lookup bcmPort.unit).getD []
  let bcmPortKey : PortKey := ⟨bcmPort.slot, bcmPort.port, bcmPort.channel⟩
  retCheck (decide (bcmPortKey ∈ bcmPortKeys))
    ("Invalid state. " ++ bcmPortKey.toString ++ " is not found on unit " ++
      toString bcmPort.unit ++ ".")
  pure { bcmPort with logicalPort := (bcmPortKeys.idxOf bcmPortKey : Int) + 1 }

/-- `IsGePortOnTridentPlus`: a GE port whose unit's first chip is a
Trident+. -/
def isGePortOnTridentPlus (bcmPort : BcmPort) (bcmChips : List BcmChip) : Bool :=
  bcmPort.type == .ge &&
    match bcmChips.find? (·.unit == bcmPort.unit) with
    | some bcmChip => bcmChip.type == .tridentPlus
    | none => false

/-- A GE port of a Trident+ gets the largest logical port of `1..32` that no
other port of its unit has. The loop of the source changes GE ports only,
which this search skips, so every port reads the ports as they were before
it. -/
def assignGeLogicalPort (bcmChips : List BcmChip) (bcmPorts : List BcmPort) (bcmPort : BcmPort) :
    StatusOr BcmPort :=
  if isGePortOnTridentPlus bcmPort bcmChips then do
    let freeLogicalPorts := ((List.range kTridentPlusMaxBcmPortsInXPipeline).map
      fun i : Nat => (i : Int) + 1).filter fun i =>
        !bcmPorts.any fun p => p.type != .ge && p.unit == bcmPort.unit && p.logicalPort == i
    retCheck (!freeLogicalPorts.isEmpty)
      ("There is no empty logical_port in X pipeline of the T+ chip to assign to GE port " ++
        printBcmPort bcmPort ++ ".")
    pure { bcmPort with logicalPort := freeLogicalPorts.getLastD 0 }
  else pure bcmPort

/-- The physical, diagnostic and logical ports seen so far on each unit. -/
structure PortsSeen where
  unitToBcmPhyPorts : List (Int × List Int)
  unitToBcmDiagPorts : List (Int × List Int)
  unitToBcmLogicalPorts : List (Int × List Int)

/-- One port of the last check: its three ports are new on its unit. -/
def duplicateCheckStep (s : PortsSeen) (bcmPort : BcmPort) : StatusOr PortsSeen := do
  let unit := bcmPort.unit
  retCheck (!decide (bcmPort.physicalPort ∈ (s.unitToBcmPhyPorts.lookup unit).getD []))
    ("Duplicate BCM physcial_port for unit " ++ toString unit ++ ": " ++
      toString bcmPort.physicalPort)
  retCheck (!decide (bcmPort.diagPort ∈ (s.unitToBcmDiagPorts.lookup unit).getD []))
    ("Duplicate BCM diag_port for unit " ++ toString unit ++ ": " ++ toString bcmPort.diagPort)
  retCheck (!decide (bcmPort.logicalPort ∈ (s.unitToBcmLogicalPorts.lookup unit).getD []))
    ("Duplicate BCM logical_port for unit " ++ toString unit ++ ": ")
  pure ⟨mapAlter intLt unit [] (setInsert intLt bcmPort.physicalPort) s.unitToBcmPhyPorts,
    mapAlter intLt unit [] (setInsert intLt bcmPort.diagPort) s.unitToBcmDiagPorts,
    mapAlter intLt unit [] (setInsert intLt bcmPort.logicalPort) s.unitToBcmLogicalPorts⟩

/-- The logical ports taken before the last check: the CPU's on every unit
with a chip. -/
def cpuLogicalPorts (bcmChips : List BcmChip) : List (Int × List Int) :=
  bcmChips.foldl (fun m c => mapAlter intLt c.unit [] (setInsert intLt kCpuLogicalPort) m) []

/-- The last check: no physical, diagnostic or logical port twice on a unit,
and no logical port equal to the CPU's on a unit with a chip. -/
def checkDuplicatePorts (bcmChips : List BcmChip) (bcmPorts : List BcmPort) : StatusOr Unit := do
  let _ ← bcmPorts.foldlM duplicateCheckStep ⟨[], [], cpuLogicalPorts bcmChips⟩
  pure ()

/-! ## The generation -/

/-- `BcmChassisManager::GenerateBcmChassisMapFromConfig`, from the platform
check on, for the base map `base`; the target map on success. -/
def generateBcmChassisMapFromConfig (config : ChassisConfig) (base : BcmChassisMap) :
    StatusOr BcmChassisMap := do
  let supported ← supportedChipTypes config
  let platform := (config.chassis.map Chassis.platform).getD .pltUnknown
  let nodeIdToUnit ← config.nodes.foldlM nodeStep []
  let s ← config.singletonPorts.foldlM (singletonPortStep base) (.init nodeIdToUnit)
  checkNodeUnits s.nodeIdToUnit
  let _ ← config.trunkPorts.foldlM (trunkPortStep s.nodeIdToUnit s.nodeIdToPortIds) []
  let bcmChips ← addBcmChips base supported platform s.nodeIdToUnit
  checkInternalPorts s.portGroupKeyToInternal
  checkSpeedsAndChannels s.portGroupKeyToSpeedBps s.portGroupKeyToChannels
  let bcmPorts ← s.flexPortGroupKeys.foldlM (addFlexPortGroup base) s.bcmPorts
  let bcmPortKeys := unitToBcmPortKeys bcmPorts
  checkMaxNumPorts (unitToChipType bcmChips) bcmPortKeys
  let bcmPorts ←
    if base.autoAddLogicalPorts then bcmPorts.mapM (autoAddLogicalPort bcmPortKeys)
    else pure bcmPorts
  let bcmPorts ← bcmPorts.mapM (assignGeLogicalPort bcmChips bcmPorts)
  checkDuplicatePorts bcmChips bcmPorts
  pure ⟨base.id, base.autoAddLogicalPorts, base.autoAddSlot, bcmChips, bcmPorts⟩

/-! ## The last check -/

/-- The values of `f` at the ports of `unit`, in order. -/
def valuesOn (f : BcmPort → Int) (unit : Int) (bcmPorts : List BcmPort) : List Int :=
  (bcmPorts.filter (·.unit == unit)).map f

theorem valuesOn_cons (f : BcmPort → Int) (unit : Int) (p : BcmPort) (bcmPorts : List BcmPort) :
    valuesOn f unit (p :: bcmPorts) =
      if p.unit = unit then f p :: valuesOn f unit bcmPorts else valuesOn f unit bcmPorts := by
  by_cases h : p.unit = unit <;> simp [valuesOn, h]

/-- The values `l` are distinct, and none is among those `m` holds at `unit`. -/
def FreshAt (m : List (Int × List Int)) (unit : Int) (l : List Int) : Prop :=
  l.Nodup ∧ ∀ x ∈ l, x ∉ (m.lookup unit).getD []

theorem freshAt_nil (m : List (Int × List Int)) (unit : Int) : FreshAt m unit [] :=
  ⟨List.nodup_nil, fun _ h => absurd h List.not_mem_nil⟩

/-- A value new at `u` and inserted there stays fresh before the values that
are fresh after it. -/
theorem FreshAt.of_insert {m : List (Int × List Int)} {u x unit : Int} {l : List Int}
    (hx : x ∉ (m.lookup u).getD [])
    (h : FreshAt (mapAlter intLt u [] (setInsert intLt x) m) unit l) :
    FreshAt m unit (if u = unit then x :: l else l) := by
  obtain ⟨hnodup, hfresh⟩ := h
  rw [lookup_mapAlter] at hfresh
  by_cases hu : u = unit
  · subst hu
    simp only [if_true, Option.getD_some, mem_setInsert, not_or] at hfresh
    rw [if_pos rfl]
    refine ⟨List.nodup_cons.mpr ⟨fun hmem => (hfresh x hmem).1 rfl, hnodup⟩, ?_⟩
    rintro y (_ | ⟨_, hy⟩)
    · exact hx
    · exact (hfresh y hy).2
  · simp only [Ne.symm hu, if_false] at hfresh
    rw [if_neg hu]
    exact ⟨hnodup, hfresh⟩

theorem duplicateCheckStep_eq_ok {s : PortsSeen} {p : BcmPort} {s' : PortsSeen}
    (h : duplicateCheckStep s p = .ok s') :
    p.physicalPort ∉ (s.unitToBcmPhyPorts.lookup p.unit).getD [] ∧
      p.diagPort ∉ (s.unitToBcmDiagPorts.lookup p.unit).getD [] ∧
      p.logicalPort ∉ (s.unitToBcmLogicalPorts.lookup p.unit).getD [] ∧
      s' = ⟨mapAlter intLt p.unit [] (setInsert intLt p.physicalPort) s.unitToBcmPhyPorts,
        mapAlter intLt p.unit [] (setInsert intLt p.diagPort) s.unitToBcmDiagPorts,
        mapAlter intLt p.unit [] (setInsert intLt p.logicalPort) s.unitToBcmLogicalPorts⟩ := by
  simp only [duplicateCheckStep, retCheck_bind_eq_ok, Bool.not_eq_true', decide_eq_false_iff_not]
    at h
  obtain ⟨hphy, hdiag, hlogical, h⟩ := h
  exact ⟨hphy, hdiag, hlogical, (Except.ok.inj h).symm⟩

/-- The loop of the last check, from the ports `s` has seen: the ports it
passes have, on every unit, values distinct from each other and from those
seen. -/
theorem freshAt_foldlM_duplicateCheckStep :
    ∀ (bcmPorts : List BcmPort) (s s' : PortsSeen),
      bcmPorts.foldlM duplicateCheckStep s = .ok s' → ∀ unit,
        FreshAt s.unitToBcmPhyPorts unit (valuesOn BcmPort.physicalPort unit bcmPorts) ∧
        FreshAt s.unitToBcmDiagPorts unit (valuesOn BcmPort.diagPort unit bcmPorts) ∧
        FreshAt s.unitToBcmLogicalPorts unit (valuesOn BcmPort.logicalPort unit bcmPorts)
  | [], s, _, _, unit => ⟨freshAt_nil _ unit, freshAt_nil _ unit, freshAt_nil _ unit⟩
  | p :: bcmPorts, s, s', h, unit => by
      rw [List.foldlM_cons] at h
      obtain ⟨s₁, hstep, h⟩ := bind_eq_ok.mp h
      obtain ⟨hphy, hdiag, hlogical, rfl⟩ := duplicateCheckStep_eq_ok hstep
      obtain ⟨ih₁, ih₂, ih₃⟩ := freshAt_foldlM_duplicateCheckStep bcmPorts _ s' h unit
      simp only [valuesOn_cons]
      exact ⟨FreshAt.of_insert hphy ih₁, FreshAt.of_insert hdiag ih₂,
        FreshAt.of_insert hlogical ih₃⟩

/-- Every unit with a chip has the CPU's logical port taken before the last
check. -/
theorem mem_cpuLogicalPorts {bcmChips : List BcmChip} {unit : Int}
    (hchip : unit ∈ bcmChips.map BcmChip.unit) :
    kCpuLogicalPort ∈ ((cpuLogicalPorts bcmChips).lookup unit).getD [] := by
  -- the fold over the chips keeps the CPU's port at `unit` once it is there
  suffices h : ∀ (chips : List BcmChip) (m : List (Int × List Int)),
      (unit ∈ chips.map BcmChip.unit ∨ kCpuLogicalPort ∈ (m.lookup unit).getD []) →
        kCpuLogicalPort ∈ ((chips.foldl (fun m c =>
          mapAlter intLt c.unit [] (setInsert intLt kCpuLogicalPort) m) m).lookup unit).getD [] from
    h bcmChips [] (Or.inl hchip)
  intro chips
  induction chips with
  | nil => simp
  | cons c chips ih =>
      intro m hm
      rw [List.foldl_cons]
      apply ih
      by_cases hc : c.unit = unit
      · subst hc
        simp [lookup_mapAlter, mem_setInsert]
      · rw [List.map_cons, List.mem_cons] at hm
        rcases hm with (rfl | hrest) | hcpu
        · exact absurd rfl hc
        · exact Or.inl hrest
        · right
          rw [lookup_mapAlter, if_neg (Ne.symm hc)]
          exact hcpu

/-- When the last check passes, the ports of every unit have distinct
physical, diagnostic and logical ports, and none of a unit with a chip has
the CPU's logical port. -/
theorem checkDuplicatePorts_ok {bcmChips : List BcmChip} {bcmPorts : List BcmPort}
    (h : checkDuplicatePorts bcmChips bcmPorts = .ok ()) (unit : Int) :
    (valuesOn BcmPort.physicalPort unit bcmPorts).Nodup ∧
      (valuesOn BcmPort.diagPort unit bcmPorts).Nodup ∧
      (valuesOn BcmPort.logicalPort unit bcmPorts).Nodup ∧
      (unit ∈ bcmChips.map BcmChip.unit →
        kCpuLogicalPort ∉ valuesOn BcmPort.logicalPort unit bcmPorts) := by
  obtain ⟨s', hloop, -⟩ := bind_eq_ok.mp h
  obtain ⟨⟨hphy, -⟩, ⟨hdiag, -⟩, ⟨hlogical, hcpu⟩⟩ :=
    freshAt_foldlM_duplicateCheckStep bcmPorts _ s' hloop unit
  exact ⟨hphy, hdiag, hlogical, fun hchip hmem => hcpu _ hmem (mem_cpuLogicalPorts hchip)⟩

/-! ## What a successful generation has passed -/

/-- A successful generation has passed the node and singleton-port loops
and, on the target it returns, the last check. -/
theorem generate_eq_ok {config : ChassisConfig} {base target : BcmChassisMap}
    (h : generateBcmChassisMapFromConfig config base = .ok target) :
    ∃ nodeIdToUnit s, config.nodes.foldlM nodeStep [] = .ok nodeIdToUnit ∧
      config.singletonPorts.foldlM (singletonPortStep base) (.init nodeIdToUnit) = .ok s ∧
      checkDuplicatePorts target.bcmChips target.bcmPorts = .ok () := by
  dsimp only [generateBcmChassisMapFromConfig] at h
  obtain ⟨_, -, h⟩ := bind_eq_ok.mp h
  obtain ⟨nodeIdToUnit, hnodes, h⟩ := bind_eq_ok.mp h
  obtain ⟨s, hsingletons, h⟩ := bind_eq_ok.mp h
  -- the node units, the trunk ports, the chips, the transceivers and the flex groups
  obtain ⟨_, -, h⟩ := bind_eq_ok.mp h
  obtain ⟨_, -, h⟩ := bind_eq_ok.mp h
  obtain ⟨_, -, h⟩ := bind_eq_ok.mp h
  obtain ⟨_, -, h⟩ := bind_eq_ok.mp h
  obtain ⟨_, -, h⟩ := bind_eq_ok.mp h
  obtain ⟨_, -, h⟩ := bind_eq_ok.mp h
  -- the port count; the logical ports, numbered or not, then the GE ports and the last check
  obtain ⟨_, -, h⟩ := bind_eq_ok.mp h
  split at h
  all_goals
    obtain ⟨_, -, h⟩ := bind_eq_ok.mp h
    obtain ⟨_, -, h⟩ := bind_eq_ok.mp h
    obtain ⟨_, hdup, h⟩ := bind_eq_ok.mp h
    cases h
    exact ⟨nodeIdToUnit, s, hnodes, hsingletons, hdup⟩

/-- On success, the ports of every unit of the target have distinct
physical, diagnostic and logical ports, and none of a unit with a chip has
the CPU's logical port. -/
theorem generate_ports_distinct {config : ChassisConfig} {base target : BcmChassisMap}
    (h : generateBcmChassisMapFromConfig config base = .ok target) (unit : Int) :
    (valuesOn BcmPort.physicalPort unit target.bcmPorts).Nodup ∧
      (valuesOn BcmPort.diagPort unit target.bcmPorts).Nodup ∧
      (valuesOn BcmPort.logicalPort unit target.bcmPorts).Nodup ∧
      (unit ∈ target.bcmChips.map BcmChip.unit →
        kCpuLogicalPort ∉ valuesOn BcmPort.logicalPort unit target.bcmPorts) := by
  obtain ⟨_, _, -, -, hdup⟩ := generate_eq_ok h
  exact checkDuplicatePorts_ok hdup unit

/-! ## Flex and non-flex ports on one transceiver -/

theorem addMatchedBcmPort_flexPortGroupKeys {singletonPort : SingletonPort} {bcmPort : BcmPort}
    {s s' : SingletonPortsState} (h : addMatchedBcmPort singletonPort bcmPort s = .ok s') :
    s'.flexPortGroupKeys =
      if bcmPort.flexPort then
        setInsert PortKey.lt (PortKey.group singletonPort.slot singletonPort.port)
          s.flexPortGroupKeys
      else s.flexPortGroupKeys := by
  obtain ⟨⟨flexPortGroupKeys, bcmPorts⟩, hflexPart, h⟩ := bind_eq_ok.mp h
  obtain ⟨_, -, h⟩ := bind_eq_ok.mp h
  cases h
  unfold recordFlexPort at hflexPart
  cases hflex : bcmPort.flexPort
  · rw [hflex] at hflexPart
    obtain ⟨_, -, hflexPart⟩ := bind_eq_ok.mp hflexPart
    cases hflexPart
    rfl
  · rw [hflex] at hflexPart
    cases hflexPart
    rfl

/-- A non-flex port whose (slot, port) a flex port has recorded is refused. -/
theorem addMatchedBcmPort_nonflex_of_mem {singletonPort : SingletonPort} {bcmPort : BcmPort}
    {s : SingletonPortsState} (hflex : bcmPort.flexPort = false)
    (hmem : PortKey.group singletonPort.slot singletonPort.port ∈ s.flexPortGroupKeys) :
    addMatchedBcmPort singletonPort bcmPort s =
      .error ⟨.errInvalidParam, "The (slot, port) pair for the non-flex SingletonPort " ++
        printSingletonPort singletonPort ++ " is in flex_port_group_keys."⟩ := by
  have hrecord : recordFlexPort singletonPort bcmPort s =
      .error ⟨.errInvalidParam, "The (slot, port) pair for the non-flex SingletonPort " ++
        printSingletonPort singletonPort ++ " is in flex_port_group_keys."⟩ := by
    simp [recordFlexPort, hflex, hmem, retCheck]
  rw [addMatchedBcmPort, hrecord]
  rfl

/-- A singleton port that passes its step matched a `BcmPort` of the base
map, and its flex keys are those the matched port left. -/
theorem singletonPortStep_eq_ok {base : BcmChassisMap} {s s' : SingletonPortsState}
    {singletonPort : SingletonPort} (h : singletonPortStep base s singletonPort = .ok s') :
    ∃ bcmPort t t',
      base.bcmPorts.find? (isSingletonPortMatchesBcmPort singletonPort) = some bcmPort ∧
      addMatchedBcmPort singletonPort bcmPort t = .ok t' ∧
      t.flexPortGroupKeys = s.flexPortGroupKeys ∧
      s'.flexPortGroupKeys = t'.flexPortGroupKeys := by
  simp only [singletonPortStep, retCheck_bind_eq_ok] at h
  obtain ⟨-, -, -, -, -, -, -, -, -, h⟩ := h
  split at h
  · cases h
  · rename_i bcmPort hfind
    obtain ⟨t', hadd, h⟩ := bind_eq_ok.mp h
    cases h
    exact ⟨bcmPort, _, t', hfind, hadd, rfl, rfl⟩

/-- The flex keys only grow along the singleton-port loop. -/
theorem flexPortGroupKeys_singletonPortStep {base : BcmChassisMap} {s s' : SingletonPortsState}
    {singletonPort : SingletonPort} (h : singletonPortStep base s singletonPort = .ok s')
    {k : PortKey} (hk : k ∈ s.flexPortGroupKeys) : k ∈ s'.flexPortGroupKeys := by
  obtain ⟨bcmPort, t, t', -, hadd, ht, hs'⟩ := singletonPortStep_eq_ok h
  rw [hs', addMatchedBcmPort_flexPortGroupKeys hadd, ht]
  split
  · exact (mem_setInsert PortKey.lt _ _ _).mpr (Or.inr hk)
  · exact hk

/-- A singleton port matching a flex `BcmPort` records its (slot, port). -/
theorem mem_flexPortGroupKeys_singletonPortStep {base : BcmChassisMap}
    {s s' : SingletonPortsState} {singletonPort : SingletonPort} {bcmPort : BcmPort}
    (hfind : base.bcmPorts.find? (isSingletonPortMatchesBcmPort singletonPort) = some bcmPort)
    (hflex : bcmPort.flexPort = true) (h : singletonPortStep base s singletonPort = .ok s') :
    PortKey.group singletonPort.slot singletonPort.port ∈ s'.flexPortGroupKeys := by
  obtain ⟨b, t, t', hb, hadd, -, hs'⟩ := singletonPortStep_eq_ok h
  rw [hfind, Option.some.injEq] at hb
  subst hb
  rw [hs', addMatchedBcmPort_flexPortGroupKeys hadd, if_pos hflex]
  exact (mem_setInsert PortKey.lt _ _ _).mpr (Or.inl rfl)

/-- A singleton port matching a non-flex `BcmPort` whose (slot, port) is
recorded fails its step. -/
theorem singletonPortStep_ne_ok_of_mem {base : BcmChassisMap} {s : SingletonPortsState}
    {singletonPort : SingletonPort} {bcmPort : BcmPort}
    (hfind : base.bcmPorts.find? (isSingletonPortMatchesBcmPort singletonPort) = some bcmPort)
    (hflex : bcmPort.flexPort = false)
    (hmem : PortKey.group singletonPort.slot singletonPort.port ∈ s.flexPortGroupKeys)
    (s' : SingletonPortsState) : singletonPortStep base s singletonPort ≠ .ok s' := by
  intro h
  obtain ⟨b, t, t', hb, hadd, ht, -⟩ := singletonPortStep_eq_ok h
  rw [hfind, Option.some.injEq] at hb
  subst hb
  rw [addMatchedBcmPort_nonflex_of_mem hflex (by rw [ht]; exact hmem)] at hadd
  cases hadd

/-- The order dependence, for every config: when a singleton port that
matches a flex `BcmPort` comes before one of the same (slot, port) that
matches a non-flex `BcmPort`, the generation fails, whatever else the config
holds. -/
theorem generate_rejects_flex_before_nonflex (config : ChassisConfig) (base : BcmChassisMap)
    (pre mid post : List SingletonPort) (flexPort nonFlexPort : SingletonPort)
    (flexBcmPort nonFlexBcmPort : BcmPort)
    (hports : config.singletonPorts = pre ++ flexPort :: mid ++ nonFlexPort :: post)
    (hflex : base.bcmPorts.find? (isSingletonPortMatchesBcmPort flexPort) = some flexBcmPort)
    (hflexPort : flexBcmPort.flexPort = true)
    (hnonFlex :
      base.bcmPorts.find? (isSingletonPortMatchesBcmPort nonFlexPort) = some nonFlexBcmPort)
    (hnonFlexPort : nonFlexBcmPort.flexPort = false)
    (hslot : flexPort.slot = nonFlexPort.slot) (hport : flexPort.port = nonFlexPort.port) :
    (generateBcmChassisMapFromConfig config base).isOk = false := by
  cases hgen : generateBcmChassisMapFromConfig config base with
  | error _ => rfl
  | ok target =>
      exfalso
      obtain ⟨nodeIdToUnit, s, -, hloop, -⟩ := generate_eq_ok hgen
      rw [hports, List.foldlM_append, List.foldlM_append] at hloop
      -- the loop up to the flex port, over the ports between, and at the non-flex port
      obtain ⟨s₃, hupto, hloop⟩ := bind_eq_ok.mp hloop
      obtain ⟨s₁, -, hupto⟩ := bind_eq_ok.mp hupto
      rw [List.foldlM_cons] at hupto hloop
      obtain ⟨s₂, hflexStep, hmid⟩ := bind_eq_ok.mp hupto
      obtain ⟨s₄, hnonFlexStep, -⟩ := bind_eq_ok.mp hloop
      have hkey : PortKey.group flexPort.slot flexPort.port ∈ s₂.flexPortGroupKeys :=
        mem_flexPortGroupKeys_singletonPortStep hflex hflexPort hflexStep
      have hkey' : PortKey.group nonFlexPort.slot nonFlexPort.port ∈ s₃.flexPortGroupKeys := by
        rw [← hslot, ← hport]
        exact foldlM_invariant (fun t => PortKey.group flexPort.slot flexPort.port ∈
          t.flexPortGroupKeys) (fun _ _ _ hk hstep => flexPortGroupKeys_singletonPortStep hstep hk)
          mid s₂ s₃ hkey hmid
      exact singletonPortStep_ne_ok_of_mem hnonFlex hnonFlexPort hkey' s₄ hnonFlexStep

/-! ## Two singleton ports on one transceiver -/

/-- A flex 10G channel of transceiver (1, 1) on unit `0`. -/
def tenGigFlexChannel (channel : Int) : BcmPort :=
  ⟨.xe, 1, 1, channel, 0, kTenGigBps, 10 + channel, 10 + channel, 10 + channel, true, false⟩

/-- A non-flex 25G channel `2` of transceiver (1, 1). -/
def nonFlexTwentyFiveGigChannel2 : BcmPort :=
  ⟨.xe, 1, 1, 2, 0, kTwentyFiveGigBps, 2, 2, 2, false, false⟩

/-- A Trident2 chip on unit `0` whose transceiver (1, 1) has a flex 25G
channel `1`, a non-flex 25G channel `2`, and the flex 10G channels `1..4` a
flex group of the chip is made of. -/
def trident2Base : BcmChassisMap :=
  ⟨"", false, false, [⟨.trident2, 0⟩],
    [⟨.xe, 1, 1, 1, 0, kTwentyFiveGigBps, 1, 1, 1, true, false⟩, nonFlexTwentyFiveGigChannel2,
      tenGigFlexChannel 1, tenGigFlexChannel 2, tenGigFlexChannel 3, tenGigFlexChannel 4]⟩

/-- Singleton ports `1` and `2` of node `1`, at 25G on channels `1` and `2`
of transceiver (1, 1). -/
def flexChannel1 : SingletonPort := ⟨1, 1, 1, 1, kTwentyFiveGigBps, 1⟩
def nonFlexChannel2 : SingletonPort := ⟨2, 1, 1, 2, kTwentyFiveGigBps, 1⟩

/-- A Trident2 chassis with node `1` in slot `1` and the given singleton
ports. -/
def transceiverConfig (singletonPorts : List SingletonPort) : ChassisConfig :=
  ⟨some ⟨.pltGenericTrident2⟩, [⟨1, 1, 0⟩], singletonPorts, []⟩

theorem generate_rejects_flexChannel1_first :
    (generateBcmChassisMapFromConfig (transceiverConfig [flexChannel1, nonFlexChannel2])
      trident2Base).isOk = false :=
  generate_rejects_flex_before_nonflex _ trident2Base [] [] [] flexChannel1 nonFlexChannel2
    ⟨.xe, 1, 1, 1, 0, kTwentyFiveGigBps, 1, 1, 1, true, false⟩ nonFlexTwentyFiveGigChannel2 rfl
    (by decide) rfl (by decide) rfl rfl rfl

/-- The same two singleton ports, in the two orders: with the non-flex one
first the config is accepted, and the target holds the non-flex 25G channel
`2` beside the four flex 10G channels of the same transceiver; with the flex
one first it is rejected. -/
theorem flex_mixing_depends_on_order :
    [nonFlexChannel2, flexChannel1].Perm [flexChannel1, nonFlexChannel2] ∧
      (trident2Base.bcmPorts.find? (isSingletonPortMatchesBcmPort flexChannel1)).map
        BcmPort.flexPort = some true ∧
      (trident2Base.bcmPorts.find? (isSingletonPortMatchesBcmPort nonFlexChannel2)).map
        BcmPort.flexPort = some false ∧
      generateBcmChassisMapFromConfig (transceiverConfig [nonFlexChannel2, flexChannel1])
        trident2Base =
        .ok ⟨"", false, false, [⟨.trident2, 0⟩], [nonFlexTwentyFiveGigChannel2,
          tenGigFlexChannel 1, tenGigFlexChannel 2, tenGigFlexChannel 3, tenGigFlexChannel 4]⟩ ∧
      generateBcmChassisMapFromConfig (transceiverConfig [flexChannel1, nonFlexChannel2])
        trident2Base =
        .error ⟨.errInvalidParam, "The (slot, port) pair for the non-flex SingletonPort " ++
          "(node_id: 1, port_id: 2, slot: 1, port: 1, channel: 2, speed: 25G) is in " ++
          "flex_port_group_keys."⟩ :=
  ⟨List.Perm.swap _ _ _, by decide, by decide, by decide +kernel, by decide +kernel⟩

end Stratum.Ports.BcmChassisManager
