import Stratum.Ports.BcmL3Manager
import Stratum.Ports.BcmAclPipeline
import Stratum.Verified.BigEndian
import Stratum.Verified.Run

set_option linter.dupNamespace false

/-!
# LPM and host routes of `BcmL3Manager`

An L3 flow of `stratum/hal/lib/bcm/bcm_l3_manager.cc` is a `BcmFlowEntry` of
one of four SDK tables: IPv4 or IPv6, longest-prefix match or host. Before
any SDK call, two parsers read it:

* `ExtractLpmOrHostKey` reads the VRF and the destination subnet and mask
  from at most two fields, checking after each field that a host route, or
  an IPv6 route without a subnet, has no mask;
* `ExtractLpmOrHostActionParams` reads the egress interface, whether it is
  a multipath group, and the class ID from at most two actions, and then
  asks for a positive egress interface.

`InsertLpmOrHostFlow`, `ModifyLpmOrHostFlow` and `DeleteLpmOrHostFlow` then
make one SDK call, chosen by the table. The SDK is a parameter that answers
each call.

Both parsers are shown equal to a description without a loop
(`lpm_or_host_key_spec`, `lpm_or_host_action_params_spec`): the checks made
after each field are checks of each field on its own, and the key and the
parameters are those of the last fields and actions of their kinds.
-/

namespace Stratum.Ports.BcmL3Manager

open Stratum.Ports.Status Stratum.Verified.BigEndian Stratum.Verified.Run
open Stratum.Ports.BcmAclManager (BcmFieldType)

/-! ## Flow entries -/

/-- `BcmTableEntryValue`: its `data` oneof. -/
inductive BcmTableEntryValue
  | notSet
  | u32 (value : UInt32)
  | u64 (value : UInt64)
  | b (bytes : ByteString)
  | u32List (values : List UInt32)
  deriving DecidableEq, Repr

/-- `u32()`: zero unless the value is a `u32`. -/
def BcmTableEntryValue.getU32 : BcmTableEntryValue → UInt32
  | .u32 value => value
  | _ => 0

/-- `u64()`: zero unless the value is a `u64`. -/
def BcmTableEntryValue.getU64 : BcmTableEntryValue → UInt64
  | .u64 value => value
  | _ => 0

/-- `b()`: empty unless the value is bytes. -/
def BcmTableEntryValue.getB : BcmTableEntryValue → ByteString
  | .b bytes => bytes
  | _ => []

/-- `static_cast<int>(value.u32())`. -/
def BcmTableEntryValue.toInt (value : BcmTableEntryValue) : Int :=
  value.getU32.toInt32.toInt

/-- `BcmField`. -/
structure BcmField where
  type : BcmFieldType
  value : BcmTableEntryValue
  mask : BcmTableEntryValue
  deriving DecidableEq, Repr

/-- `BcmAction::Type`. -/
inductive BcmActionType
  | unknown
  | drop
  | outputPort
  | outputTrunk
  | outputL3
  | setEthSrc
  | setEthDst
  | setIpv4Src
  | setIpv4Dst
  | setIpv6Src
  | setIpv6Dst
  | setVrf
  | setVfpDstClassId
  | setL3DstClassId
  | setVlanVid
  | setVlanPcp
  | stripVlan
  | setIpDscp
  | setIpEcn
  | setIpTos
  | setCos
  | setQueue
  | setColor
  | copyToCpu
  | cancelCopyToCpu
  | setL2McastGroup
  | addOuterVlan
  deriving DecidableEq, Repr

/-- `BcmAction::Param::Type`. -/
inductive BcmActionParamType
  | unknown
  | egressIntfId
  | ethSrc
  | ethDst
  | ipv4Src
  | ipv4Dst
  | ipv6Src
  | ipv6Dst
  | vrf
  | vfpDstClassId
  | l3DstClassId
  | vlanVid
  | vlanPcp
  | ipDscp
  | ipEcn
  | ipTos
  | cos
  | queue
  | color
  | logicalPort
  | trunkPort
  | l2McastGroupId
  deriving DecidableEq, Repr

/-- `BcmAction::Param`. -/
structure BcmActionParam where
  type : BcmActionParamType
  value : BcmTableEntryValue
  deriving DecidableEq, Repr

/-- `BcmAction`. -/
structure BcmAction where
  type : BcmActionType
  params : List BcmActionParam
  deriving DecidableEq, Repr

/-- `BcmFlowEntry::BcmTableType`. -/
inductive BcmTableType
  | unknown
  | ipv4Lpm
  | ipv6Lpm
  | ipv4Host
  | ipv6Host
  | myStation
  | acl
  | l2Multicast
  | tunnel
  | l2Unicast
  deriving DecidableEq, Repr

/-- `BcmFlowEntry::BcmTableType_Name`. -/
def BcmTableType.name : BcmTableType → String
  | .unknown => "BCM_TABLE_UNKNOWN"
  | .ipv4Lpm => "BCM_TABLE_IPV4_LPM"
  | .ipv6Lpm => "BCM_TABLE_IPV6_LPM"
  | .ipv4Host => "BCM_TABLE_IPV4_HOST"
  | .ipv6Host => "BCM_TABLE_IPV6_HOST"
  | .myStation => "BCM_TABLE_MY_STATION"
  | .acl => "BCM_TABLE_ACL"
  | .l2Multicast => "BCM_TABLE_L2_MULTICAST"
  | .tunnel => "BCM_TABLE_TUNNEL"
  | .l2Unicast => "BCM_TABLE_L2_UNICAST"

/-- `BcmFlowEntry`, with the fields the L3 manager reads. -/
structure BcmFlowEntry where
  unit : Int
  bcmTableType : BcmTableType
  fields : List BcmField
  actions : List BcmAction
  deriving DecidableEq, Repr

/-! ## `ExtractLpmOrHostKey` -/

/-- `kVrfDefault` (`stratum/hal/lib/common/constants.h`). -/
def kVrfDefault : Int := 0

/-- `LpmOrHostKey`. -/
@[ext]
structure LpmOrHostKey where
  vrf : Int
  subnetIpv4 : UInt32
  maskIpv4 : UInt32
  subnetIpv6 : ByteString
  maskIpv6 : ByteString
  deriving DecidableEq, Repr

/-- The key as its constructor makes it. -/
def LpmOrHostKey.default : LpmOrHostKey := ⟨kVrfDefault, 0, 0, [], []⟩

/-- One pass of the loop over the fields of an IPv4 flow: the field is read
into the key, then the key is checked. -/
def ipv4KeyStep (tableType : BcmTableType) (key : LpmOrHostKey) (field : BcmField) :
    StatusOr LpmOrHostKey := do
  let key ← if field.type = .ipv4Dst then
      pure { key with subnetIpv4 := field.value.getU32, maskIpv4 := field.mask.getU32 }
    else if field.type = .vrf then pure { key with vrf := field.value.toInt }
    else throw ⟨.errInvalidParam, "Invalid field type. Expecting IPV4_DST or VRF types only: ."⟩
  -- a host route is a single address
  if key.maskIpv4 ≠ 0 ∧ tableType = .ipv4Host then
    throw ⟨.errInvalidParam, "Must not specify mask on host dst routes IP: ."⟩
  pure key

/-- One pass of the loop over the fields of an IPv6 flow. -/
def ipv6KeyStep (tableType : BcmTableType) (key : LpmOrHostKey) (field : BcmField) :
    StatusOr LpmOrHostKey := do
  let key ← if field.type = .ipv6Dst ∨ field.type = .ipv6DstUpper64 then
      pure { key with subnetIpv6 := field.value.getB, maskIpv6 := field.mask.getB }
    else if field.type = .vrf then pure { key with vrf := field.value.toInt }
    else throw ⟨.errInvalidParam, "Invalid field type. Expecting IPV6_DST or VRF types only: "⟩
  if key.subnetIpv6 = [] ∨ tableType = .ipv6Host then
    if key.maskIpv6 ≠ [] then
      throw ⟨.errInvalidParam, "Must not specify mask when subnet is 0 or a host dst IP: ."⟩
  pure key

/-- The error for a table type that is not one of the four L3 tables. -/
def invalidBcmTableType (tableType : BcmTableType) : UtilError :=
  ⟨.errInvalidParam, "Invalid bcm_table_type: " ++ tableType.name ++ ", found in ."⟩

/-- `ExtractLpmOrHostKey`. -/
def extractLpmOrHostKey (entry : BcmFlowEntry) : StatusOr LpmOrHostKey :=
  if entry.fields.length > 2 then
    .error ⟨.errInvalidParam, "Expected at most two fields of type IPV4_DST/IPV6_DST or VRF: ."⟩
  else
    match entry.bcmTableType with
    | .ipv4Lpm | .ipv4Host =>
        entry.fields.foldlM (ipv4KeyStep entry.bcmTableType) LpmOrHostKey.default
    | .ipv6Lpm | .ipv6Host =>
        entry.fields.foldlM (ipv6KeyStep entry.bcmTableType) LpmOrHostKey.default
    | tableType => .error (invalidBcmTableType tableType)

/-! ## `ExtractLpmOrHostActionParams` -/

/-- `LpmOrHostActionParams`. -/
@[ext]
structure LpmOrHostActionParams where
  classId : Int
  egressIntfId : Int
  isIntfMultipath : Bool
  deriving DecidableEq, Repr

/-- The parameters as their constructor makes them. -/
def LpmOrHostActionParams.default : LpmOrHostActionParams := ⟨-1, -1, false⟩

/-- The MAC addresses and ports an output action names in place of an egress
interface. -/
structure NewEgressIntf where
  srcMac : UInt64
  dstMac : UInt64
  logicalPort : Int
  trunkPort : Int

/-- The loop over an output action's parameters that gathers them. -/
def newEgressIntf (params : List BcmActionParam) : NewEgressIntf :=
  params.foldl (fun acc param =>
    match param.type with
    | .ethSrc => { acc with srcMac := param.value.getU64 }
    | .ethDst => { acc with dstMac := param.value.getU64 }
    | .logicalPort => { acc with logicalPort := param.value.toInt }
    | .trunkPort => { acc with trunkPort := param.value.toInt }
    | _ => acc) ⟨0, 0, 0, 0⟩

/-- The error for a drop or output action without an egress interface: a new
egress interface would be needed, which the manager does not create. -/
def newEgressIntfError (actionType : BcmActionType) (params : List BcmActionParam) : UtilError :=
  let intf := newEgressIntf params
  let macs := "(src_mac: " ++ toString intf.srcMac.toNat ++ ", dst_mac: " ++
    toString intf.dstMac.toNat
  if actionType = .drop ∧ intf.srcMac > 0 ∧ intf.dstMac > 0 ∧ intf.logicalPort = 0 ∧
      intf.trunkPort = 0 then
    ⟨.errOperNotSupported, "Flow action required defining a new drop egress intf " ++ macs ++
      "). This is not supported."⟩
  else if actionType = .outputPort ∧ intf.srcMac > 0 ∧ intf.dstMac > 0 ∧
      intf.logicalPort > 0 ∧ intf.trunkPort = 0 then
    ⟨.errOperNotSupported, "Flow action required defining a new port egress intf " ++ macs ++
      ", logical_port: " ++ toString intf.logicalPort ++ "). This is not supported."⟩
  else if actionType = .outputTrunk ∧ intf.srcMac > 0 ∧ intf.dstMac > 0 ∧
      intf.logicalPort = 0 ∧ intf.trunkPort > 0 then
    ⟨.errOperNotSupported, "Flow action required defining a new trunk egress intf " ++ macs ++
      ", trunk_port: " ++ toString intf.trunkPort ++ "). This is not supported."⟩
  else
    ⟨.errInvalidParam,
      "Invalid action parameters for an action of type DROP or OUTPUT_\x7bPORT,TRUNK\x7d: ."⟩

/-- One pass of the loop over the actions of `ExtractLpmOrHostActionParams`. -/
def lpmOrHostActionStep (params : LpmOrHostActionParams) (action : BcmAction) :
    StatusOr LpmOrHostActionParams :=
  match action.type, action.params with
  | .drop, [param] | .outputPort, [param] | .outputTrunk, [param] =>
      if param.type = .egressIntfId then .ok { params with egressIntfId := param.value.toInt }
      else .error (newEgressIntfError action.type action.params)
  | .drop, _ | .outputPort, _ | .outputTrunk, _ =>
      .error (newEgressIntfError action.type action.params)
  | .outputL3, [param] =>
      if param.type = .egressIntfId then
        .ok { params with egressIntfId := param.value.toInt, isIntfMultipath := true }
      else .error outputL3ParamError
  | .outputL3, _ => .error outputL3ParamError
  | .setL3DstClassId, [param] =>
      if param.type = .l3DstClassId then
        if param.value.toInt ≤ 0 then
          .error ⟨.errInvalidParam,
            "Invalid class_id for action of type SET_L3_DST_CLASS_ID: ."⟩
        else .ok { params with classId := param.value.toInt }
      else .error classIdParamError
  | .setL3DstClassId, _ => .error classIdParamError
  | _, _ =>
      .error ⟨.errInvalidParam, "Invalid action type. Expecting OUTPUT_\x7bPORT,TRUNK,GROUP\x7d " ++
        "or SET_L3_DST_CLASS_ID types: ."⟩
where
  outputL3ParamError : UtilError := ⟨.errInvalidParam,
    "Expects only one parameter of type EGRESS_INTF_ID for action of type OUTPUT_L3: ."⟩
  classIdParamError : UtilError := ⟨.errInvalidParam,
    "Expects only one parameter of type L3_DST_CLASS_ID for action of type " ++
      "SET_L3_DST_CLASS_ID: ."⟩

/-- `ExtractLpmOrHostActionParams`. -/
def extractLpmOrHostActionParams (entry : BcmFlowEntry) : StatusOr LpmOrHostActionParams := do
  if entry.actions.length > 2 then
    throw ⟨.errInvalidParam, "Expected at most two actions of type OUTPUT_\x7bPORT,TRUNK,GROUP\x7d " ++
      "or SET_L3_DST_CLASS_ID: ."⟩
  let params ← entry.actions.foldlM lpmOrHostActionStep LpmOrHostActionParams.default
  if params.egressIntfId ≤ 0 then
    throw ⟨.errInvalidParam, "Could not resolve an egress_intf_id for ."⟩
  pure params

/-! ## The key without the loop -/

/-- The IPv4 tables. -/
def IsIpv4Table (tableType : BcmTableType) : Prop := tableType = .ipv4Lpm ∨ tableType = .ipv4Host

/-- The IPv6 tables. -/
def IsIpv6Table (tableType : BcmTableType) : Prop := tableType = .ipv6Lpm ∨ tableType = .ipv6Host

/-- An IPv6 destination field: of the whole address or of its upper half. -/
def isIpv6Dst (field : BcmField) : Bool :=
  field.type == .ipv6Dst || field.type == .ipv6DstUpper64

/-- A field an IPv4 flow of the table may have: a destination, without a mask
on a host route, or a VRF. -/
def Ipv4KeyField (tableType : BcmTableType) (field : BcmField) : Prop :=
  (field.type = .ipv4Dst ∧ (tableType = .ipv4Host → field.mask.getU32 = 0)) ∨ field.type = .vrf

/-- A field an IPv6 flow of the table may have: a destination, without a mask
on a host route or with an empty subnet, or a VRF. -/
def Ipv6KeyField (tableType : BcmTableType) (field : BcmField) : Prop :=
  (isIpv6Dst field = true ∧
      (field.value.getB = [] ∨ tableType = .ipv6Host → field.mask.getB = [])) ∨
    field.type = .vrf

/-- A field read into the key, without the checks. -/
def readIpv4Field (key : LpmOrHostKey) (field : BcmField) : LpmOrHostKey :=
  if field.type = .ipv4Dst then
    { key with subnetIpv4 := field.value.getU32, maskIpv4 := field.mask.getU32 }
  else if field.type = .vrf then { key with vrf := field.value.toInt }
  else key

/-- An IPv6 field read into the key, without the checks. -/
def readIpv6Field (key : LpmOrHostKey) (field : BcmField) : LpmOrHostKey :=
  if isIpv6Dst field then { key with subnetIpv6 := field.value.getB, maskIpv6 := field.mask.getB }
  else if field.type = .vrf then { key with vrf := field.value.toInt }
  else key

/-- The VRF the fields name: the last VRF field's, or the default VRF. -/
def vrfOfFields (fields : List BcmField) : Int :=
  ((fields.filter (·.type == .vrf)).getLast?.map (·.value.toInt)).getD kVrfDefault

/-- The key of the fields of an IPv4 flow: the last VRF, and the subnet and
mask of the last destination field. -/
def ipv4KeyOfFields (fields : List BcmField) : LpmOrHostKey :=
  ⟨vrfOfFields fields,
    ((fields.filter (·.type == .ipv4Dst)).getLast?.map (·.value.getU32)).getD 0,
    ((fields.filter (·.type == .ipv4Dst)).getLast?.map (·.mask.getU32)).getD 0, [], []⟩

/-- The key of the fields of an IPv6 flow. -/
def ipv6KeyOfFields (fields : List BcmField) : LpmOrHostKey :=
  ⟨vrfOfFields fields, 0, 0, ((fields.filter isIpv6Dst).getLast?.map (·.value.getB)).getD [],
    ((fields.filter isIpv6Dst).getLast?.map (·.mask.getB)).getD []⟩

/-- With no mask on a host route so far, a pass succeeds exactly on a field
the table admits, and reads it. -/
theorem ipv4KeyStep_eq_ok {tableType : BcmTableType} {key r : LpmOrHostKey} {field : BcmField}
    (hkey : tableType = .ipv4Host → key.maskIpv4 = 0) :
    ipv4KeyStep tableType key field = .ok r ↔
      Ipv4KeyField tableType field ∧ readIpv4Field key field = r := by
  unfold ipv4KeyStep Ipv4KeyField readIpv4Field
  by_cases hdst : field.type = .ipv4Dst
  · by_cases hhost : tableType = .ipv4Host
    · by_cases hmask : field.mask.getU32 = 0 <;>
        simp [hdst, hhost, hmask, pure, Except.pure, throw, throwThe,
          MonadExceptOf.throw, bind, Except.bind]
    · simp [hdst, hhost, pure, Except.pure, bind, Except.bind]
  · by_cases hvrf : field.type = .vrf
    · by_cases hhost : tableType = .ipv4Host
      · simp [hvrf, hhost, hkey hhost, pure, Except.pure, bind, Except.bind]
      · simp [hvrf, hhost, pure, Except.pure, bind, Except.bind]
    · simp [hdst, hvrf, throw, throwThe, MonadExceptOf.throw, bind, Except.bind]

theorem readIpv4Field_mask {tableType : BcmTableType} {key : LpmOrHostKey} {field : BcmField}
    (hkey : tableType = .ipv4Host → key.maskIpv4 = 0) (hfield : Ipv4KeyField tableType field) :
    tableType = .ipv4Host → (readIpv4Field key field).maskIpv4 = 0 := by
  intro hhost
  rcases hfield with ⟨hdst, hmask⟩ | hvrf
  · simp [readIpv4Field, hdst, hmask hhost]
  · simp [readIpv4Field, hvrf, hkey hhost]

/-- With the key checked so far, a pass succeeds exactly on a field the table
admits, and reads it. -/
theorem ipv6KeyStep_eq_ok {tableType : BcmTableType} {key r : LpmOrHostKey} {field : BcmField}
    (hkey : key.subnetIpv6 = [] ∨ tableType = .ipv6Host → key.maskIpv6 = []) :
    ipv6KeyStep tableType key field = .ok r ↔
      Ipv6KeyField tableType field ∧ readIpv6Field key field = r := by
  unfold ipv6KeyStep Ipv6KeyField readIpv6Field
  by_cases hdst : isIpv6Dst field = true
  · have hdst' : field.type = .ipv6Dst ∨ field.type = .ipv6DstUpper64 := by
      simpa [isIpv6Dst] using hdst
    have hnvrf : field.type ≠ .vrf := by rcases hdst' with h | h <;> simp [h]
    by_cases hcheck : field.value.getB = [] ∨ tableType = .ipv6Host
    · by_cases hmask : field.mask.getB = [] <;>
        simp [hdst, hdst', hnvrf, hcheck, hmask, pure, Except.pure, throw, throwThe,
          MonadExceptOf.throw, bind, Except.bind]
    · simp [hdst, hdst', hcheck, pure, Except.pure, bind, Except.bind]
  · have hdst' : ¬(field.type = .ipv6Dst ∨ field.type = .ipv6DstUpper64) := by
      simpa [isIpv6Dst] using hdst
    by_cases hvrf : field.type = .vrf
    · by_cases hcheck : key.subnetIpv6 = [] ∨ tableType = .ipv6Host
      · simp [hdst, hvrf, hkey hcheck, pure, Except.pure, bind, Except.bind]
      · simp [hdst, hvrf, hcheck, pure, Except.pure, bind, Except.bind]
    · simp [hdst, hdst', hvrf, throw, throwThe, MonadExceptOf.throw, bind, Except.bind]

theorem readIpv6Field_mask {tableType : BcmTableType} {key : LpmOrHostKey} {field : BcmField}
    (hkey : key.subnetIpv6 = [] ∨ tableType = .ipv6Host → key.maskIpv6 = [])
    (hfield : Ipv6KeyField tableType field) :
    (readIpv6Field key field).subnetIpv6 = [] ∨ tableType = .ipv6Host →
      (readIpv6Field key field).maskIpv6 = [] := by
  rcases hfield with ⟨hdst, hmask⟩ | hvrf
  · simpa [readIpv6Field, hdst] using hmask
  · have hdst : isIpv6Dst field = false := by simp [isIpv6Dst, hvrf]
    simpa [readIpv6Field, hdst, hvrf] using hkey

theorem foldl_readIpv4Field (fields : List BcmField) :
    fields.foldl readIpv4Field LpmOrHostKey.default = ipv4KeyOfFields fields := by
  apply LpmOrHostKey.ext
  · exact foldl_last_write readIpv4Field LpmOrHostKey.vrf (·.type == .vrf) (·.value.toInt)
      (fun _ x hx => by simp_all [readIpv4Field])
      (fun _ x hx => by unfold readIpv4Field; split_ifs <;> simp_all) fields _
  · exact foldl_last_write readIpv4Field LpmOrHostKey.subnetIpv4 (·.type == .ipv4Dst)
      (·.value.getU32) (fun _ x hx => by simp_all [readIpv4Field])
      (fun _ x hx => by unfold readIpv4Field; split_ifs <;> simp_all) fields _
  · exact foldl_last_write readIpv4Field LpmOrHostKey.maskIpv4 (·.type == .ipv4Dst)
      (·.mask.getU32) (fun _ x hx => by simp_all [readIpv4Field])
      (fun _ x hx => by unfold readIpv4Field; split_ifs <;> simp_all) fields _
  -- no IPv4 field touches the IPv6 part of the key
  · exact foldl_invariant readIpv4Field (fun key => key.subnetIpv6 = [])
      (fun _ x hkey => by unfold readIpv4Field; split_ifs <;> exact hkey) fields _ rfl
  · exact foldl_invariant readIpv4Field (fun key => key.maskIpv6 = [])
      (fun _ x hkey => by unfold readIpv4Field; split_ifs <;> exact hkey) fields _ rfl

theorem foldl_readIpv6Field (fields : List BcmField) :
    fields.foldl readIpv6Field LpmOrHostKey.default = ipv6KeyOfFields fields := by
  apply LpmOrHostKey.ext
  · exact foldl_last_write readIpv6Field LpmOrHostKey.vrf (·.type == .vrf) (·.value.toInt)
      (fun _ x hx => by simp_all [readIpv6Field, isIpv6Dst])
      (fun _ x hx => by unfold readIpv6Field; split_ifs <;> simp_all) fields _
  -- no IPv6 field touches the IPv4 part of the key
  · exact foldl_invariant readIpv6Field (fun key => key.subnetIpv4 = 0)
      (fun _ x hkey => by unfold readIpv6Field; split_ifs <;> exact hkey) fields _ rfl
  · exact foldl_invariant readIpv6Field (fun key => key.maskIpv4 = 0)
      (fun _ x hkey => by unfold readIpv6Field; split_ifs <;> exact hkey) fields _ rfl
  · exact foldl_last_write readIpv6Field LpmOrHostKey.subnetIpv6 isIpv6Dst (·.value.getB)
      (fun _ x hx => by simp [readIpv6Field, hx])
      (fun _ x hx => by unfold readIpv6Field; split_ifs <;> simp_all) fields _
  · exact foldl_last_write readIpv6Field LpmOrHostKey.maskIpv6 isIpv6Dst (·.mask.getB)
      (fun _ x hx => by simp [readIpv6Field, hx])
      (fun _ x hx => by unfold readIpv6Field; split_ifs <;> simp_all) fields _

/-- The loop over the fields of an IPv4 flow succeeds exactly when every field
is one the table admits, with the key the fields name. -/
theorem foldlM_ipv4KeyStep {tableType : BcmTableType} {fields : List BcmField}
    {key : LpmOrHostKey} :
    fields.foldlM (ipv4KeyStep tableType) LpmOrHostKey.default = .ok key ↔
      (∀ field ∈ fields, Ipv4KeyField tableType field) ∧ key = ipv4KeyOfFields fields := by
  rw [foldlM_eq_ok_iff_foldl (fun key => tableType = .ipv4Host → key.maskIpv4 = 0)
    (Ipv4KeyField tableType) (fun _ _ _ hkey => (ipv4KeyStep_eq_ok hkey).trans
      (and_congr_right fun _ => eq_comm)) (fun _ _ hkey hfield => readIpv4Field_mask hkey hfield)
    fields LpmOrHostKey.default (fun _ => rfl), foldl_readIpv4Field]

theorem foldlM_ipv6KeyStep {tableType : BcmTableType} {fields : List BcmField}
    {key : LpmOrHostKey} :
    fields.foldlM (ipv6KeyStep tableType) LpmOrHostKey.default = .ok key ↔
      (∀ field ∈ fields, Ipv6KeyField tableType field) ∧ key = ipv6KeyOfFields fields := by
  rw [foldlM_eq_ok_iff_foldl
    (fun key => key.subnetIpv6 = [] ∨ tableType = .ipv6Host → key.maskIpv6 = [])
    (Ipv6KeyField tableType) (fun _ _ _ hkey => (ipv6KeyStep_eq_ok hkey).trans
      (and_congr_right fun _ => eq_comm)) (fun _ _ hkey hfield => readIpv6Field_mask hkey hfield)
    fields LpmOrHostKey.default (fun _ => rfl), foldl_readIpv6Field]

/-- `ExtractLpmOrHostKey` without its loop: it accepts a flow entry exactly
when the entry has at most two fields, is of an IPv4 or an IPv6 table, and
each field is a destination of the table's IP version or a VRF, with no mask
on a host route (nor on an IPv6 destination without a subnet); the key is
then the last VRF (the default VRF without one) and the last destination's
subnet and mask. The checks the loop makes after each field come to these
checks of each field alone. -/
theorem lpm_or_host_key_spec {entry : BcmFlowEntry} {key : LpmOrHostKey} :
    extractLpmOrHostKey entry = .ok key ↔ entry.fields.length ≤ 2 ∧
      ((IsIpv4Table entry.bcmTableType ∧
          (∀ field ∈ entry.fields, Ipv4KeyField entry.bcmTableType field) ∧
          key = ipv4KeyOfFields entry.fields) ∨
        (IsIpv6Table entry.bcmTableType ∧
          (∀ field ∈ entry.fields, Ipv6KeyField entry.bcmTableType field) ∧
          key = ipv6KeyOfFields entry.fields)) := by
  obtain ⟨unit, tableType, fields, actions⟩ := entry
  unfold extractLpmOrHostKey
  by_cases hlen : fields.length > 2
  · simp only [hlen, if_true]
    simp only [reduceCtorEq, false_iff, not_and]
    omega
  · simp only [hlen, if_false, not_lt.mp hlen, true_and]
    cases tableType <;>
      simp [IsIpv4Table, IsIpv6Table, foldlM_ipv4KeyStep, foldlM_ipv6KeyStep]

example : extractLpmOrHostKey ⟨0, .ipv4Host, [⟨.ipv4Dst, .u32 0x0a000001, .u32 0xff⟩], []⟩ =
    .error ⟨.errInvalidParam, "Must not specify mask on host dst routes IP: ."⟩ := rfl

/-! ## The action parameters without the loop -/

/-- The drop and output actions, which name the egress interface. -/
def isOutputAction (action : BcmAction) : Bool :=
  action.type == .drop || action.type == .outputPort || action.type == .outputTrunk ||
    action.type == .outputL3

/-- `static_cast<int>` of the `u32` of an action's first parameter. -/
def BcmAction.paramValue (action : BcmAction) : Int :=
  match action.params with
  | param :: _ => param.value.toInt
  | [] => 0

/-- An action `ExtractLpmOrHostActionParams` accepts: a drop or output action
whose one parameter is the egress interface, or the setting of a positive
class ID. -/
def LpmOrHostAction (action : BcmAction) : Prop :=
  match action.type, action.params with
  | .drop, [param] | .outputPort, [param] | .outputTrunk, [param] | .outputL3, [param] =>
      param.type = .egressIntfId
  | .setL3DstClassId, [param] => param.type = .l3DstClassId ∧ 0 < param.value.toInt
  | _, _ => False

/-- An action read into the parameters, without the checks. -/
def applyLpmOrHostAction (params : LpmOrHostActionParams) (action : BcmAction) :
    LpmOrHostActionParams :=
  if isOutputAction action then
    { params with
      egressIntfId := action.paramValue
      isIntfMultipath := params.isIntfMultipath || decide (action.type = .outputL3) }
  else if action.type = .setL3DstClassId then { params with classId := action.paramValue }
  else params

/-- A pass succeeds exactly on an action the loop accepts, and reads it. -/
theorem lpmOrHostActionStep_eq_ok {params r : LpmOrHostActionParams} {action : BcmAction} :
    lpmOrHostActionStep params action = .ok r ↔
      LpmOrHostAction action ∧ applyLpmOrHostAction params action = r := by
  obtain ⟨type, actionParams⟩ := action
  cases type <;> rcases actionParams with _ | ⟨param, _ | ⟨_, _⟩⟩ <;>
    simp [lpmOrHostActionStep, LpmOrHostAction, applyLpmOrHostAction, isOutputAction,
      BcmAction.paramValue] <;>
    split_ifs <;> simp_all

theorem foldlM_lpmOrHostActionStep {actions : List BcmAction} {params : LpmOrHostActionParams} :
    actions.foldlM lpmOrHostActionStep LpmOrHostActionParams.default = .ok params ↔
      (∀ action ∈ actions, LpmOrHostAction action) ∧
        params = actions.foldl applyLpmOrHostAction LpmOrHostActionParams.default :=
  foldlM_eq_ok_iff_foldl (fun _ => True) LpmOrHostAction
    (fun _ _ _ _ => lpmOrHostActionStep_eq_ok.trans (and_congr_right fun _ => eq_comm))
    (fun _ _ _ _ => trivial) actions _ trivial

/-- The egress interface is the last drop or output action's. -/
theorem egressIntfId_foldl_applyLpmOrHostAction (actions : List BcmAction) :
    (actions.foldl applyLpmOrHostAction LpmOrHostActionParams.default).egressIntfId =
      ((actions.filter isOutputAction).getLast?.map BcmAction.paramValue).getD (-1) :=
  foldl_last_write applyLpmOrHostAction LpmOrHostActionParams.egressIntfId isOutputAction
    BcmAction.paramValue (fun _ x hx => by simp [applyLpmOrHostAction, hx])
    (fun _ x hx => by unfold applyLpmOrHostAction; split_ifs <;> simp_all) actions _

/-- The class ID is the last `SET_L3_DST_CLASS_ID` action's. -/
theorem classId_foldl_applyLpmOrHostAction (actions : List BcmAction) :
    (actions.foldl applyLpmOrHostAction LpmOrHostActionParams.default).classId =
      ((actions.filter (·.type == .setL3DstClassId)).getLast?.map BcmAction.paramValue).getD
        (-1) :=
  foldl_last_write applyLpmOrHostAction LpmOrHostActionParams.classId
    (·.type == .setL3DstClassId) BcmAction.paramValue
    (fun _ x hx => by
      have hout : isOutputAction x = false := by simp_all [isOutputAction]
      simp_all [applyLpmOrHostAction])
    (fun _ x hx => by unfold applyLpmOrHostAction; split_ifs <;> simp_all) actions _

/-- The nexthop is a multipath group once an `OUTPUT_L3` action was read, even
when a later output action names another egress interface. -/
theorem isIntfMultipath_foldl_applyLpmOrHostAction (actions : List BcmAction) :
    (actions.foldl applyLpmOrHostAction LpmOrHostActionParams.default).isIntfMultipath =
      actions.any (fun action => decide (action.type = .outputL3)) := by
  have h := foldl_sticky_flag applyLpmOrHostAction (fun action => decide (action.type = .outputL3))
    LpmOrHostActionParams.isIntfMultipath
    (fun _ x hx => by simp_all [applyLpmOrHostAction, isOutputAction])
    (fun _ x hx => by unfold applyLpmOrHostAction; split_ifs <;> simp_all) actions
    LpmOrHostActionParams.default
  simpa [LpmOrHostActionParams.default] using h

/-- `ExtractLpmOrHostActionParams` without its loop: it accepts a flow entry
exactly when the entry has at most two actions, each a drop or output action
whose one parameter is the egress interface or the setting of a positive
class ID, and the last drop or output action names a positive egress
interface. The parameters are then that interface, the last class ID (`-1`
without one), and a multipath flag that is set exactly when some action is
`OUTPUT_L3`. -/
theorem lpm_or_host_action_params_spec {entry : BcmFlowEntry} {params : LpmOrHostActionParams} :
    extractLpmOrHostActionParams entry = .ok params ↔
      entry.actions.length ≤ 2 ∧ (∀ action ∈ entry.actions, LpmOrHostAction action) ∧
      0 < params.egressIntfId ∧
      params.egressIntfId =
        ((entry.actions.filter isOutputAction).getLast?.map BcmAction.paramValue).getD (-1) ∧
      params.classId = ((entry.actions.filter (·.type == .setL3DstClassId)).getLast?.map
        BcmAction.paramValue).getD (-1) ∧
      params.isIntfMultipath = entry.actions.any (fun action => decide (action.type = .outputL3)) := by
  unfold extractLpmOrHostActionParams
  by_cases hlen : entry.actions.length > 2
  · simp only [hlen, if_true]
    simp only [throw, throwThe, MonadExceptOf.throw, bind, Except.bind, reduceCtorEq,
      false_iff, not_and]
    omega
  · simp only [hlen, if_false, not_lt.mp hlen, true_and]
    cases hloop : entry.actions.foldlM lpmOrHostActionStep LpmOrHostActionParams.default with
    | error e =>
      -- some action is not accepted, or the loop would have succeeded
      have hnot : ¬∀ action ∈ entry.actions, LpmOrHostAction action := fun hall => by
        have h := foldlM_lpmOrHostActionStep.mpr ⟨hall, rfl⟩
        rw [hloop] at h
        cases h
      simp [hnot, bind, Except.bind]
    | ok result =>
      obtain ⟨hall, rfl⟩ := foldlM_lpmOrHostActionStep.mp hloop
      rw [← egressIntfId_foldl_applyLpmOrHostAction, ← classId_foldl_applyLpmOrHostAction,
        ← isIntfMultipath_foldl_applyLpmOrHostAction]
      generalize List.foldl applyLpmOrHostAction LpmOrHostActionParams.default entry.actions = result
      by_cases hpos : result.egressIntfId ≤ 0
      · simp [hpos, throw, throwThe, MonadExceptOf.throw, bind, Except.bind]
        omega
      · simp only [hpos, if_false, bind, Except.bind, pure, Except.pure, Except.ok.injEq,
          LpmOrHostActionParams.ext_iff]
        constructor
        · rintro ⟨hclass, hegress, hmulti⟩
          exact ⟨hall, by omega, hegress.symm, hclass.symm, hmulti.symm⟩
        · rintro ⟨-, -, hegress, hclass, hmulti⟩
          exact ⟨hclass.symm, hegress.symm, hmulti.symm⟩

/-- An `OUTPUT_L3` action followed by an output to a port's egress interface
leaves that interface marked as a multipath group. -/
example : extractLpmOrHostActionParams ⟨0, .ipv4Lpm, [],
    [⟨.outputL3, [⟨.egressIntfId, .u32 200100⟩]⟩, ⟨.outputPort, [⟨.egressIntfId, .u32 100001⟩]⟩]⟩ =
    .ok ⟨-1, 100001, true⟩ := rfl

/-! ## The route calls -/

/-- The calls of `BcmSdkInterface` on L3 routes. -/
inductive L3RouteCall
  | addL3RouteIpv4 (unit vrf : Int) (subnet mask : UInt32) (classId egressIntfId : Int)
      (isIntfMultipath : Bool)
  | addL3HostIpv4 (unit vrf : Int) (ipv4 : UInt32) (classId egressIntfId : Int)
  | addL3RouteIpv6 (unit vrf : Int) (subnet mask : ByteString) (classId egressIntfId : Int)
      (isIntfMultipath : Bool)
  | addL3HostIpv6 (unit vrf : Int) (ipv6 : ByteString) (classId egressIntfId : Int)
  | modifyL3RouteIpv4 (unit vrf : Int) (subnet mask : UInt32) (classId egressIntfId : Int)
      (isIntfMultipath : Bool)
  | modifyL3HostIpv4 (unit vrf : Int) (ipv4 : UInt32) (classId egressIntfId : Int)
  | modifyL3RouteIpv6 (unit vrf : Int) (subnet mask : ByteString) (classId egressIntfId : Int)
      (isIntfMultipath : Bool)
  | modifyL3HostIpv6 (unit vrf : Int) (ipv6 : ByteString) (classId egressIntfId : Int)
  | deleteL3RouteIpv4 (unit vrf : Int) (subnet mask : UInt32)
  | deleteL3HostIpv4 (unit vrf : Int) (ipv4 : UInt32)
  | deleteL3RouteIpv6 (unit vrf : Int) (subnet mask : ByteString)
  | deleteL3HostIpv6 (unit vrf : Int) (ipv6 : ByteString)
  deriving DecidableEq, Repr

/-- The unit a call is made on. -/
def L3RouteCall.unit : L3RouteCall → Int
  | .addL3RouteIpv4 unit .. | .addL3HostIpv4 unit .. | .addL3RouteIpv6 unit ..
  | .addL3HostIpv6 unit .. | .modifyL3RouteIpv4 unit .. | .modifyL3HostIpv4 unit ..
  | .modifyL3RouteIpv6 unit .. | .modifyL3HostIpv6 unit .. | .deleteL3RouteIpv4 unit ..
  | .deleteL3HostIpv4 unit .. | .deleteL3RouteIpv6 unit .. | .deleteL3HostIpv6 unit .. => unit

section Flows

variable (sdk : L3RouteCall → StatusOr Unit)

/-- The `RET_CHECK` on the unit of an L3 flow. -/
def checkL3FlowUnit (unit : Int) (entry : BcmFlowEntry) : StatusOr Unit :=
  retCheck (entry.unit == unit) ("Received L3 flow for unit " ++ toString entry.unit ++
    " on unit " ++ toString unit ++ ".")

/-- `InsertLpmOrHostFlow`, on the manager's unit. -/
def insertLpmOrHostFlow (unit : Int) (entry : BcmFlowEntry) : StatusOr Unit := do
  checkL3FlowUnit unit entry
  let key ← extractLpmOrHostKey entry
  let params ← extractLpmOrHostActionParams entry
  match entry.bcmTableType with
  | .ipv4Lpm => sdk (.addL3RouteIpv4 unit key.vrf key.subnetIpv4 key.maskIpv4 params.classId
      params.egressIntfId params.isIntfMultipath)
  | .ipv4Host => sdk (.addL3HostIpv4 unit key.vrf key.subnetIpv4 params.classId
      params.egressIntfId)
  | .ipv6Lpm => sdk (.addL3RouteIpv6 unit key.vrf key.subnetIpv6 key.maskIpv6 params.classId
      params.egressIntfId params.isIntfMultipath)
  | .ipv6Host => sdk (.addL3HostIpv6 unit key.vrf key.subnetIpv6 params.classId
      params.egressIntfId)
  | tableType => throw ⟨.errInvalidParam, "Invalid table_id: " ++ tableType.name ++ ", found in ."⟩

/-- `ModifyLpmOrHostFlow`: unlike insert and delete, it makes no check of the
entry's unit, and calls the SDK on that unit. -/
def modifyLpmOrHostFlow (entry : BcmFlowEntry) : StatusOr Unit := do
  let unit := entry.unit
  let key ← extractLpmOrHostKey entry
  let params ← extractLpmOrHostActionParams entry
  match entry.bcmTableType with
  | .ipv4Lpm => sdk (.modifyL3RouteIpv4 unit key.vrf key.subnetIpv4 key.maskIpv4 params.classId
      params.egressIntfId params.isIntfMultipath)
  | .ipv4Host => sdk (.modifyL3HostIpv4 unit key.vrf key.subnetIpv4 params.classId
      params.egressIntfId)
  | .ipv6Lpm => sdk (.modifyL3RouteIpv6 unit key.vrf key.subnetIpv6 key.maskIpv6 params.classId
      params.egressIntfId params.isIntfMultipath)
  | .ipv6Host => sdk (.modifyL3HostIpv6 unit key.vrf key.subnetIpv6 params.classId
      params.egressIntfId)
  | tableType => throw (invalidBcmTableType tableType)

/-- `DeleteLpmOrHostFlow`: only the key is read. -/
def deleteLpmOrHostFlow (unit : Int) (entry : BcmFlowEntry) : StatusOr Unit := do
  checkL3FlowUnit unit entry
  let key ← extractLpmOrHostKey entry
  match entry.bcmTableType with
  | .ipv4Lpm => sdk (.deleteL3RouteIpv4 unit key.vrf key.subnetIpv4 key.maskIpv4)
  | .ipv4Host => sdk (.deleteL3HostIpv4 unit key.vrf key.subnetIpv4)
  | .ipv6Lpm => sdk (.deleteL3RouteIpv6 unit key.vrf key.subnetIpv6 key.maskIpv6)
  | .ipv6Host => sdk (.deleteL3HostIpv6 unit key.vrf key.subnetIpv6)
  | tableType => throw (invalidBcmTableType tableType)

end Flows

end Stratum.Ports.BcmL3Manager
