import Stratum.Ports.BcmL3Manager
import Stratum.Ports.P4InfoManagerMaps
import Stratum.Verified.SetIntersection
import Stratum.Verified.Run
import Stratum.Verified.StateSpec

set_option linter.dupNamespace false

/-!
# Multipath nexthops of `BcmL3Manager`

A P4 action-profile group is programmed in the BCM SDK as one ECMP egress
interface over the egress interfaces of its members. Three steps of
`stratum/hal/lib/bcm` get it there:

* `BcmTableManager::FillBcmMultipathNexthop` makes a `BcmMultipathNexthop`
  of the group: each member's egress interface with the weight
  `max(weight, 1)`, leaving out a member on a singleton port that is not up;
* `BcmL3Manager::FindEcmpGroupMembers` makes the SDK's member list: each
  egress interface repeated by its weight, sorted, or the default drop
  interface alone for a group whose members were all pruned;
* `FindOrCreateMultipathNexthop` and `ModifyMultipathNexthop` push a lone
  entry twice, since the SDK rejects groups of one member, and call the SDK.

The SDK's ECMP calls and the chassis' port states are parameters. The SDK
receives a sorted list of at least two entries whose counts are the group's
weights up to one positive factor (`ecmp_members_weighted`), so two nexthops
that give every egress interface the same weight make the same SDK call
(`ecmp_members_canonical`), whatever the order of their members.
-/

namespace Stratum.Ports.BcmL3Manager

open Stratum.Ports.Status Stratum.Ports.P4Runtime Stratum.Ports.BcmTableManager
open Stratum.Ports.P4InfoManager Stratum.Verified.SetIntersection Stratum.Verified.Run
open Stratum.Verified.StateSpec

/-! ## Multipath nexthops and their member lists -/

/-- `BcmMultipathNexthop::Member`. -/
structure MultipathMember where
  egressIntfId : Int
  weight : Nat
  deriving DecidableEq, Repr

/-- `BcmMultipathNexthop`. -/
structure BcmMultipathNexthop where
  unit : Int
  members : List MultipathMember
  deriving DecidableEq, Repr

/-- The entries a member puts in the SDK's member list: its egress interface,
once per unit of weight. -/
def MultipathMember.copies (member : MultipathMember) : List Int :=
  List.replicate member.weight member.egressIntfId

/-- A member `FindEcmpGroupMembers` accepts. -/
def MultipathMember.Valid (member : MultipathMember) : Prop :=
  0 < member.weight ∧ 0 < member.egressIntfId

instance : DecidablePred MultipathMember.Valid := fun member =>
  inferInstanceAs (Decidable (0 < member.weight ∧ 0 < member.egressIntfId))

/-- The total weight members give an egress interface. -/
def totalWeight (members : List MultipathMember) (egressIntfId : Int) : Nat :=
  (members.map fun member => if member.egressIntfId = egressIntfId then member.weight else 0).sum

/-- The weight a nexthop gives each egress interface: its members' total
weights, or the default drop interface alone for a nexthop without members. -/
def groupWeight (defaultDropIntf : Int) (nexthop : BcmMultipathNexthop) (egressIntfId : Int) :
    Nat :=
  if nexthop.members = [] then (if egressIntfId = defaultDropIntf then 1 else 0)
  else totalWeight nexthop.members egressIntfId

/-- The loop of `FindEcmpGroupMembers`: each member is checked, then its
egress interface pushed once per unit of weight. -/
def pushMembers : List Int → List MultipathMember → StatusOr (List Int)
  | memberIds, [] => .ok memberIds
  | memberIds, member :: members =>
      if member.weight = 0 then .error ⟨.errInvalidParam, "Zero weight: ."⟩
      else if member.egressIntfId ≤ 0 then
        .error ⟨.errInvalidParam, "Invalid member egress_intf_id: ."⟩
      else pushMembers (memberIds ++ List.replicate member.weight member.egressIntfId) members

/-- `FindEcmpGroupMembers`: a nexthop pruned to no members (its ports being
down) gets the default drop interface. -/
def findEcmpGroupMembers (defaultDropIntf : Int) (nexthop : BcmMultipathNexthop) :
    StatusOr (List Int) :=
  if nexthop.members.isEmpty then .ok [defaultDropIntf]
  else do
    let memberIds ← pushMembers [] nexthop.members
    pure (sortAscending memberIds)

/-- The workaround for the SDK's rejection of one-member groups: a lone entry
is pushed again. -/
def duplicateLoneMember (memberIds : List Int) : List Int :=
  match memberIds with
  | [memberId] => [memberId, memberId]
  | _ => memberIds

/-! ## The calls of the L3 manager -/

/-- The ECMP calls of the BCM SDK on the manager's unit. The SDK's ECMP
table is not part of the model's state, so each is any call on the manager. -/
structure BcmSdkEcmp where
  /-- `FindOrCreateEcmpEgressIntf(unit, member_ids)`. -/
  findOrCreateEcmpEgressIntf : List Int → L3Op Int
  /-- `ModifyEcmpEgressIntf(unit, egress_intf_id, member_ids)`. -/
  modifyEcmpEgressIntf : Int → List Int → L3Op Unit
  /-- `DeleteEcmpEgressIntf(unit, egress_intf_id)`. -/
  deleteEcmpEgressIntf : Int → L3Op Unit

/-- The `RET_CHECK` on the unit of a multipath nexthop. -/
def checkMultipathUnit (nexthop : BcmMultipathNexthop) : L3Op Unit := do
  let s ← get
  liftExcept (retCheck (nexthop.unit == s.unit) ("Received multipath nexthop for unit " ++
    toString nexthop.unit ++ " on unit " ++ toString s.unit ++ "."))

/-- The error of `FindOrCreateMultipathNexthop` when the SDK returns no
egress interface. -/
def noEgressIntfFound : UtilError := ⟨.errInvalidParam, "No egress_intf_id found for ."⟩

section Calls

variable (sdk : BcmSdkEcmp) (defaultDropIntf : Int)

/-- `FindOrCreateMultipathNexthop`. -/
def findOrCreateMultipathNexthop (nexthop : BcmMultipathNexthop) : L3Op Int := do
  checkMultipathUnit nexthop
  let memberIds ← liftExcept (findEcmpGroupMembers defaultDropIntf nexthop)
  let egressIntfId ← sdk.findOrCreateEcmpEgressIntf (duplicateLoneMember memberIds)
  if egressIntfId ≤ 0 then throw noEgressIntfFound
  pure egressIntfId

/-- `ModifyMultipathNexthop`: the group keeps its egress interface. -/
def modifyMultipathNexthop (egressIntfId : Int) (nexthop : BcmMultipathNexthop) :
    L3Op Unit := do
  if egressIntfId ≤ 0 then
    throw ⟨.errInvalidParam, "Invalid egress_intf_id: " ++ toString egressIntfId ++ "."⟩
  checkMultipathUnit nexthop
  let memberIds ← liftExcept (findEcmpGroupMembers defaultDropIntf nexthop)
  sdk.modifyEcmpEgressIntf egressIntfId (duplicateLoneMember memberIds)

/-- `DeleteMultipathNexthop`. -/
def deleteMultipathNexthop (egressIntfId : Int) : L3Op Unit := do
  if egressIntfId ≤ 0 then
    throw ⟨.errInvalidParam, "Invalid egress_intf_id: " ++ toString egressIntfId ++ "."⟩
  sdk.deleteEcmpEgressIntf egressIntfId

/-- `UpdateMultipathGroupsForPort`, given what
`FillBcmMultipathNexthopsWithPort` returned for the port: every group with a
member on the port is remade, by its egress interface, in the order of the
table manager's hash map, stopping at the first error. -/
def updateMultipathGroupsForPort (nexthops : StatusOr (List (Int × BcmMultipathNexthop))) :
    L3Op Unit := do
  let nexthops ← liftExcept nexthops
  nexthops.forM fun nexthop => modifyMultipathNexthop sdk defaultDropIntf nexthop.1 nexthop.2

end Calls

/-! ## The nexthop of a P4 group -/

/-- `PortState`. -/
inductive PortState
  | unknown
  | up
  | down
  | failed
  deriving DecidableEq, Repr

/-- `P4TableMapper::MapActionProfileGroup`: for a group, only the check that
its action profile is in the P4Info. -/
def mapActionProfileGroup (p4InfoManager : Option P4InfoManager) (group : ActionProfileGroup) :
    StatusOr Unit :=
  match p4InfoManager with
  | none =>
      .error ⟨.errInternal, "Unable to map ActionProfileGroup without valid P4 configuration"⟩
  | some manager => do
      let _ ← manager.findActionProfileByID group.actionProfileId
      pure ()

section Fill

variable (getPortState : Int → StatusOr PortState)

/-- Whether `FillBcmMultipathNexthop` adds a member: one on a singleton port
only while the port is up; the state of a trunk is not checked. -/
def memberPortUp (info : BcmNonMultipathNexthopInfo) : Op Bool :=
  if info.type = .port then do
    let portState ← liftStatus (getPortState info.bcmPort)
    pure (portState == .up)
  else pure true

/-- The loop of `FillBcmMultipathNexthop` over the group's members, after the
members the nexthop already has. -/
def fillMembers :
    List MultipathMember → List ActionProfileGroupMember → Op (List MultipathMember)
  | nexthopMembers, [] => pure nexthopMembers
  | nexthopMembers, member :: members => do
      let info ← getBcmNonMultipathNexthopInfo member.memberId
      let portUp ← memberPortUp getPortState info
      fillMembers (if portUp then nexthopMembers ++ [⟨info.egressIntfId, memberWeight member⟩]
        else nexthopMembers) members

/-- `FillBcmMultipathNexthop`, adding to the nexthop it is given. -/
def fillBcmMultipathNexthop (unit : Int) (p4InfoManager : Option P4InfoManager)
    (group : ActionProfileGroup) (nexthop : BcmMultipathNexthop) : Op BcmMultipathNexthop := do
  liftStatus (mapActionProfileGroup p4InfoManager group)
  let members ← fillMembers getPortState nexthop.members group.members
  pure ⟨unit, members⟩

/-- `FillBcmMultipathNexthopsWithPort`: the nexthops of the groups with a
member on the port, by the groups' egress interfaces. -/
def fillBcmMultipathNexthopsWithPort (unit : Int) (p4InfoManager : Option P4InfoManager)
    (portIdToLogicalPort : Nat → Option Int) (portId : Nat) :
    Op (AList (fun _ : Int => BcmMultipathNexthop)) := do
  let some port := portIdToLogicalPort portId | throw ⟨.errInvalidParam, ""⟩
  let s ← get
  let some groupIds := s.portToGroupIds.lookup port | pure ∅
  groupIds.foldlM (fun nexthops groupId => do
      let info ← getBcmMultipathNexthopInfo groupId
      let nexthop := (nexthops.lookup info.egressIntfId).getD ⟨0, []⟩
      let s ← get
      let some group := s.groups.lookup groupId | throw ⟨.errInvalidParam, ""⟩
      let nexthop ← fillBcmMultipathNexthop getPortState unit p4InfoManager group nexthop
      pure (nexthops.insert info.egressIntfId nexthop)) ∅

end Fill

/-! ## What `FindEcmpGroupMembers` returns -/

@[simp] theorem count_copies (member : MultipathMember) (x : Int) :
    member.copies.count x = if member.egressIntfId = x then member.weight else 0 := by
  simp [MultipathMember.copies, List.count_replicate]

theorem count_flatMap_copies (members : List MultipathMember) (x : Int) :
    (members.flatMap MultipathMember.copies).count x = totalWeight members x := by
  simp [List.count_flatMap, totalWeight, Function.comp_def]

/-- The loop succeeds exactly on valid members, and pushes their copies in
order. -/
theorem pushMembers_eq_ok {memberIds ids : List Int} {members : List MultipathMember} :
    pushMembers memberIds members = .ok ids ↔
      (∀ member ∈ members, member.Valid) ∧
        ids = memberIds ++ members.flatMap MultipathMember.copies := by
  induction members generalizing memberIds with
  | nil => simp [pushMembers, eq_comm]
  | cons member members ih =>
    by_cases hweight : member.weight = 0
    · simp [pushMembers, hweight, MultipathMember.Valid]
    · by_cases hegress : member.egressIntfId ≤ 0
      · simp [pushMembers, hweight, hegress, MultipathMember.Valid]
      · have hvalid : member.Valid := ⟨by omega, by omega⟩
        simp [pushMembers, hweight, hegress, ih, hvalid, MultipathMember.copies]

theorem findEcmpGroupMembers_eq_ok {defaultDropIntf : Int} {nexthop : BcmMultipathNexthop}
    {memberIds : List Int} :
    findEcmpGroupMembers defaultDropIntf nexthop = .ok memberIds ↔
      (nexthop.members = [] ∧ memberIds = [defaultDropIntf]) ∨
      (nexthop.members ≠ [] ∧ (∀ member ∈ nexthop.members, member.Valid) ∧
        memberIds = sortAscending (nexthop.members.flatMap MultipathMember.copies)) := by
  unfold findEcmpGroupMembers
  by_cases hempty : nexthop.members = []
  · simp [hempty, eq_comm]
  · simp only [hempty, List.isEmpty_iff, if_false, bind_eq_ok, pushMembers_eq_ok]
    constructor
    · rintro ⟨_, ⟨hvalid, rfl⟩, hpure⟩
      cases hpure
      exact .inr ⟨hempty, hvalid, by simp⟩
    · rintro (⟨hnil, -⟩ | ⟨-, hvalid, rfl⟩)
      · exact hnil.elim
      · exact ⟨_, ⟨hvalid, rfl⟩, by simp [pure, Except.pure]⟩

/-- With valid members, `FindEcmpGroupMembers` succeeds. -/
theorem exists_findEcmpGroupMembers_eq_ok (defaultDropIntf : Int) {nexthop : BcmMultipathNexthop}
    (hvalid : ∀ member ∈ nexthop.members, member.Valid) :
    ∃ memberIds, findEcmpGroupMembers defaultDropIntf nexthop = .ok memberIds := by
  by_cases hempty : nexthop.members = []
  · exact ⟨_, findEcmpGroupMembers_eq_ok.mpr (.inl ⟨hempty, rfl⟩)⟩
  · exact ⟨_, findEcmpGroupMembers_eq_ok.mpr (.inr ⟨hempty, hvalid, rfl⟩)⟩

/-- What `FindEcmpGroupMembers` returns is the sorted list of a list that
holds every egress interface as often as the nexthop's weight for it. -/
theorem findEcmpGroupMembers_eq_sortAscending {defaultDropIntf : Int}
    {nexthop : BcmMultipathNexthop} {memberIds : List Int}
    (h : findEcmpGroupMembers defaultDropIntf nexthop = .ok memberIds) :
    ∃ l : List Int, memberIds = sortAscending l ∧
      ∀ x, l.count x = groupWeight defaultDropIntf nexthop x := by
  rcases findEcmpGroupMembers_eq_ok.mp h with ⟨hempty, rfl⟩ | ⟨hempty, -, rfl⟩
  · refine ⟨[defaultDropIntf], by simp [sortAscending], fun x => ?_⟩
    by_cases hx : x = defaultDropIntf
    · simp [groupWeight, hempty, hx]
    · simp [groupWeight, hempty, hx, Ne.symm hx]
  · exact ⟨_, rfl, fun x => by simp [groupWeight, hempty, count_flatMap_copies]⟩

example : findEcmpGroupMembers (-1) ⟨0, [⟨7, 1⟩, ⟨5, 2⟩]⟩ = .ok [5, 5, 7] := rfl

example : findEcmpGroupMembers (-1) ⟨0, [⟨7, 1⟩, ⟨5, 0⟩]⟩ =
    .error ⟨.errInvalidParam, "Zero weight: ."⟩ := rfl

theorem findEcmpGroupMembers_ne_nil {defaultDropIntf : Int} {nexthop : BcmMultipathNexthop}
    {memberIds : List Int} (h : findEcmpGroupMembers defaultDropIntf nexthop = .ok memberIds) :
    memberIds ≠ [] := by
  rcases findEcmpGroupMembers_eq_ok.mp h with ⟨-, rfl⟩ | ⟨hempty, hvalid, rfl⟩
  · simp
  · obtain ⟨member, members, hmembers⟩ := List.exists_cons_of_ne_nil hempty
    have hweight : 0 < member.weight := (hvalid member (by simp [hmembers])).1
    rw [← List.length_pos_iff, length_sortAscending, hmembers]
    simp [MultipathMember.copies]
    omega

/-! ## The lone-member workaround -/

theorem duplicateLoneMember_sorted {memberIds : List Int} (h : memberIds.Pairwise (· ≤ ·)) :
    (duplicateLoneMember memberIds).Pairwise (· ≤ ·) := by
  unfold duplicateLoneMember
  split
  · simp
  · exact h

theorem two_le_length_duplicateLoneMember {memberIds : List Int} (h : memberIds ≠ []) :
    2 ≤ (duplicateLoneMember memberIds).length := by
  match memberIds, h with
  | [_], _ => simp [duplicateLoneMember]
  | _ :: _ :: _, _ => simp [duplicateLoneMember]

/-- Pushing a lone entry again scales every count by one factor, so the
shares of the members stay as they were. -/
theorem count_duplicateLoneMember (memberIds : List Int) :
    ∃ k, 0 < k ∧ ∀ x, (duplicateLoneMember memberIds).count x = k * memberIds.count x := by
  unfold duplicateLoneMember
  split
  · next memberId =>
    refine ⟨2, by omega, fun x => ?_⟩
    by_cases hx : memberId = x <;> simp [hx]
  · exact ⟨1, by omega, fun x => by simp⟩

/-! ## What the SDK receives -/

section Calls

variable (sdk : BcmSdkEcmp) (defaultDropIntf : Int)

/-- For a nexthop with valid members, the ECMP group the SDK is asked to
find, create or remake is sorted, has at least two entries, and holds every
egress interface as often as the nexthop's weight for it, up to one positive
factor (two for a lone entry), so the traffic shares are the weights'. -/
theorem ecmp_members_weighted {nexthop : BcmMultipathNexthop}
    (hvalid : ∀ member ∈ nexthop.members, member.Valid) :
    ∃ memberIds : List Int,
      memberIds.Pairwise (· ≤ ·) ∧ 2 ≤ memberIds.length ∧
      (∃ k, 0 < k ∧ ∀ x, memberIds.count x = k * groupWeight defaultDropIntf nexthop x) ∧
      findOrCreateMultipathNexthop sdk defaultDropIntf nexthop = (do
        checkMultipathUnit nexthop
        let egressIntfId ← sdk.findOrCreateEcmpEgressIntf memberIds
        if egressIntfId ≤ 0 then throw noEgressIntfFound
        pure egressIntfId) ∧
      ∀ egressIntfId, 0 < egressIntfId →
        modifyMultipathNexthop sdk defaultDropIntf egressIntfId nexthop = (do
          checkMultipathUnit nexthop
          sdk.modifyEcmpEgressIntf egressIntfId memberIds) := by
  obtain ⟨memberIds, hfind⟩ := exists_findEcmpGroupMembers_eq_ok defaultDropIntf hvalid
  have hne := findEcmpGroupMembers_ne_nil hfind
  obtain ⟨l, rfl, hcount⟩ := findEcmpGroupMembers_eq_sortAscending hfind
  obtain ⟨k, hk, hdup⟩ := count_duplicateLoneMember (sortAscending l)
  refine ⟨_, duplicateLoneMember_sorted (sortAscending_sorted l),
    two_le_length_duplicateLoneMember hne,
    ⟨k, hk, fun x => by rw [hdup, count_sortAscending, hcount]⟩, ?_, fun egressIntfId hpos => ?_⟩
  · simp only [findOrCreateMultipathNexthop, hfind]
    rfl
  · have hnot : ¬egressIntfId ≤ 0 := by omega
    simp only [modifyMultipathNexthop, hfind, hnot, if_false]
    rfl

/-- An SDK that creates every ECMP group as egress interface `200100`. -/
def ecmpSdkStub : BcmSdkEcmp := ⟨fun _ => pure 200100, fun _ _ => pure (), fun _ => pure ()⟩

/-- A group left with one member of weight one. -/
def loneNexthop : BcmMultipathNexthop := ⟨0, [⟨100003, 1⟩]⟩

theorem ecmp_members_weighted_loneNexthop :
    (∀ member ∈ loneNexthop.members, member.Valid) ∧
      ∃ memberIds : List Int, memberIds.Pairwise (· ≤ ·) ∧ 2 ≤ memberIds.length :=
  ⟨by decide, (@ecmp_members_weighted ecmpSdkStub (-1) loneNexthop (by decide)).imp fun _ h => ⟨h.1, h.2.1⟩⟩

/-- Two nexthops on one unit whose valid members give every egress interface
the same weight, in whatever order and however split among members, make
the same SDK calls. -/
theorem ecmp_members_canonical {nexthop₁ nexthop₂ : BcmMultipathNexthop}
    (hunit : nexthop₁.unit = nexthop₂.unit)
    (hvalid₁ : ∀ member ∈ nexthop₁.members, member.Valid)
    (hvalid₂ : ∀ member ∈ nexthop₂.members, member.Valid)
    (hweight : ∀ x, groupWeight defaultDropIntf nexthop₁ x = groupWeight defaultDropIntf nexthop₂ x) :
    findOrCreateMultipathNexthop sdk defaultDropIntf nexthop₁ =
        findOrCreateMultipathNexthop sdk defaultDropIntf nexthop₂ ∧
      ∀ egressIntfId, modifyMultipathNexthop sdk defaultDropIntf egressIntfId nexthop₁ =
        modifyMultipathNexthop sdk defaultDropIntf egressIntfId nexthop₂ := by
  have hcheck : checkMultipathUnit nexthop₁ = checkMultipathUnit nexthop₂ := by
    unfold checkMultipathUnit
    rw [hunit]
  obtain ⟨memberIds₁, hfind₁⟩ := exists_findEcmpGroupMembers_eq_ok defaultDropIntf hvalid₁
  obtain ⟨memberIds₂, hfind₂⟩ := exists_findEcmpGroupMembers_eq_ok defaultDropIntf hvalid₂
  obtain ⟨l₁, rfl, hcount₁⟩ := findEcmpGroupMembers_eq_sortAscending hfind₁
  obtain ⟨l₂, rfl, hcount₂⟩ := findEcmpGroupMembers_eq_sortAscending hfind₂
  -- the two lists hold every interface equally often, so they sort alike
  have hsame : findEcmpGroupMembers defaultDropIntf nexthop₁ =
      findEcmpGroupMembers defaultDropIntf nexthop₂ := by
    rw [hfind₁, hfind₂,
      sortAscending_eq_of_count_eq fun x => (hcount₁ x).trans ((hweight x).trans (hcount₂ x).symm)]
  refine ⟨?_, fun egressIntfId => ?_⟩
  · simp only [findOrCreateMultipathNexthop, hcheck, hsame]
  · simp only [modifyMultipathNexthop, hcheck, hsame]

/-- A WCMP group: interface `100001` once, `100002` twice. -/
def wcmpNexthop : BcmMultipathNexthop := ⟨0, [⟨100001, 1⟩, ⟨100002, 2⟩]⟩

/-- The same weights, in another order and with one weight split. -/
def splitWcmpNexthop : BcmMultipathNexthop := ⟨0, [⟨100002, 1⟩, ⟨100001, 1⟩, ⟨100002, 1⟩]⟩

theorem ecmp_members_canonical_splitWcmpNexthop :
    (∀ x, groupWeight (-1) wcmpNexthop x = groupWeight (-1) splitWcmpNexthop x) ∧
      findOrCreateMultipathNexthop ecmpSdkStub (-1) wcmpNexthop =
        findOrCreateMultipathNexthop ecmpSdkStub (-1) splitWcmpNexthop := by
  have hweight : ∀ x, groupWeight (-1) wcmpNexthop x = groupWeight (-1) splitWcmpNexthop x := by
    intro x
    simp [groupWeight, totalWeight, wcmpNexthop, splitWcmpNexthop]
    split_ifs <;> omega
  exact ⟨hweight, (@ecmp_members_canonical ecmpSdkStub (-1) wcmpNexthop splitWcmpNexthop rfl
    (by decide) (by decide) hweight).1⟩

end Calls

/-! ## From a P4 group to the SDK's member list -/

theorem memberWeight_pos (member : ActionProfileGroupMember) : 0 < memberWeight member := by
  unfold memberWeight
  omega

/-- Valid members give some interface a weight; none give nothing. -/
theorem eq_nil_iff_totalWeight_eq_zero {members : List MultipathMember}
    (hvalid : ∀ member ∈ members, member.Valid) :
    members = [] ↔ ∀ x, totalWeight members x = 0 := by
  constructor
  · rintro rfl x
    rfl
  · intro hzero
    cases members with
    | nil => rfl
    | cons member members =>
      have hweight : 0 < member.weight := (hvalid member (by simp)).1
      have h := hzero member.egressIntfId
      simp [totalWeight] at h
      omega

section FillSpec

variable (getPortState : Int → StatusOr PortState)

/-- Whether a member's nexthop stays in its group: a singleton port must be
up. -/
def nexthopUp (info : BcmNonMultipathNexthopInfo) : Bool :=
  match info.type, getPortState info.bcmPort with
  | .port, .ok portState => portState == .up
  | .port, .error _ => false
  | _, _ => true

/-- The weight the members of a P4 group give an egress interface, counting
only the members whose nexthop stays in the group. -/
def upWeight (s : BcmTableManager) (members : List ActionProfileGroupMember)
    (egressIntfId : Int) : Nat :=
  (members.map fun member =>
    match s.memberIdToNexthopInfo.lookup member.memberId with
    | some info =>
        if info.egressIntfId = egressIntfId ∧ nexthopUp getPortState info = true then
          memberWeight member
        else 0
    | none => 0).sum

/-- The members of a group have nexthops with egress interfaces, and the
state of each singleton port among them can be read. -/
def MembersReady (s : BcmTableManager) (members : List ActionProfileGroupMember) : Prop :=
  ∀ member ∈ members, ∃ info, s.memberIdToNexthopInfo.lookup member.memberId = some info ∧
    0 < info.egressIntfId ∧
    (info.type = .port → ∃ portState, getPortState info.bcmPort = .ok portState)

variable {s : BcmTableManager} {post : α → BcmTableManager → Prop}
  {fail : BcmTableManager → Prop}

theorem wp_liftStatus_ok {a : α} : wp (liftStatus (.ok a)) post fail s ↔ post a s :=
  Iff.rfl

theorem wp_getBcmNonMultipathNexthopInfo_of_lookup {post : BcmNonMultipathNexthopInfo →
    BcmTableManager → Prop} {memberId : Nat} {info : BcmNonMultipathNexthopInfo}
    (hinfo : s.memberIdToNexthopInfo.lookup memberId = some info) (hpost : post info s) :
    wp (getBcmNonMultipathNexthopInfo memberId) post fail s := by
  simp only [wp, EStateM.run, getBcmNonMultipathNexthopInfo, hinfo]
  exact hpost

theorem wp_memberPortUp {post : Bool → BcmTableManager → Prop} {info : BcmNonMultipathNexthopInfo}
    (hport : info.type = .port → ∃ portState, getPortState info.bcmPort = .ok portState)
    (hpost : post (nexthopUp getPortState info) s) :
    wp (memberPortUp getPortState info) post fail s := by
  unfold memberPortUp
  unfold nexthopUp at hpost
  by_cases htype : info.type = .port
  · obtain ⟨portState, hstate⟩ := hport htype
    rw [htype, hstate] at hpost
    simp only [htype, if_true, wp_bind, hstate]
    exact hpost
  · simp only [htype, if_false, wp_pure]
    split at hpost
    · exact absurd ‹_› htype
    · exact absurd ‹_› htype
    · exact hpost

/-- The loop of `FillBcmMultipathNexthop` cannot fail on ready members, leaves
the table manager as it was, and adds valid members that give each egress
interface the weight of the group's members on it whose nexthop stays. -/
theorem wp_fillMembers {members : List ActionProfileGroupMember}
    (hready : MembersReady getPortState s members) :
    ∀ {nexthopMembers : List MultipathMember}, (∀ member ∈ nexthopMembers, member.Valid) →
      wp (fillMembers getPortState nexthopMembers members)
        (fun result s' => s' = s ∧ (∀ member ∈ result, member.Valid) ∧
          ∀ x, totalWeight result x = totalWeight nexthopMembers x +
            upWeight getPortState s members x)
        (fun _ => False) s := by
  induction members with
  | nil => intro nexthopMembers hvalid; simpa [fillMembers, upWeight] using hvalid
  | cons member members ih =>
    intro nexthopMembers hvalid
    obtain ⟨info, hinfo, hegress, hport⟩ := hready member (by simp)
    have hrest : MembersReady getPortState s members := fun m hm => hready m (by simp [hm])
    -- the member is added, with a positive weight, exactly when its nexthop stays
    have hvalid' : ∀ m ∈ (if nexthopUp getPortState info then
        nexthopMembers ++ [⟨info.egressIntfId, memberWeight member⟩] else nexthopMembers),
        m.Valid := by
      split
      · simpa [or_imp, forall_and, MultipathMember.Valid, memberWeight_pos, hegress] using hvalid
      · exact hvalid
    simp only [fillMembers, wp_bind]
    refine wp_getBcmNonMultipathNexthopInfo_of_lookup hinfo ?_
    rw [wp_bind]
    refine wp_memberPortUp getPortState hport ?_
    refine wp_mono (ih hrest hvalid') (fun result s' h => ⟨h.1, h.2.1, fun x => ?_⟩)
      (fun _ h => h)
    rw [h.2.2 x]
    by_cases hup : nexthopUp getPortState info = true
    · by_cases hx : info.egressIntfId = x
      · simp [hup, hx, upWeight, hinfo, totalWeight]
        omega
      · simp [hup, hx, upWeight, hinfo, totalWeight]
    · simp [hup, upWeight, hinfo, totalWeight]

/-- A P4 group whose action profile is known and whose members are ready
reaches the SDK's member list: `FillBcmMultipathNexthop` succeeds on a fresh
nexthop without changing the table manager, and `FindEcmpGroupMembers` then
returns a sorted list that holds each egress interface as often as the
weights `max(weight, 1)` of the group's members on it whose nexthop stays in
the group, or the default drop interface alone when no member stays. -/
theorem group_members_up_weighted (unit defaultDropIntf : Int)
    (p4InfoManager : Option P4InfoManager) {group : ActionProfileGroup}
    (hprofile : mapActionProfileGroup p4InfoManager group = .ok ())
    (hready : MembersReady getPortState s group.members) :
    ∃ nexthop memberIds,
      (fillBcmMultipathNexthop getPortState unit p4InfoManager group ⟨0, []⟩).run s =
        .ok nexthop s ∧ nexthop.unit = unit ∧
      findEcmpGroupMembers defaultDropIntf nexthop = .ok memberIds ∧
      memberIds.Pairwise (· ≤ ·) ∧
      ((∀ x, upWeight getPortState s group.members x = 0) → memberIds = [defaultDropIntf]) ∧
      ((∃ x, upWeight getPortState s group.members x ≠ 0) →
        ∀ x, memberIds.count x = upWeight getPortState s group.members x) := by
  have hfill : wp (fillBcmMultipathNexthop getPortState unit p4InfoManager group ⟨0, []⟩)
      (fun nexthop s' => s' = s ∧ nexthop.unit = unit ∧
        (∀ member ∈ nexthop.members, member.Valid) ∧
        ∀ x, totalWeight nexthop.members x = upWeight getPortState s group.members x)
      (fun _ => False) s := by
    simp only [fillBcmMultipathNexthop, wp_bind, hprofile, wp_liftStatus_ok]
    refine wp_mono (wp_fillMembers getPortState hready (by simp))
      (fun result s' h => ⟨h.1, rfl, h.2.1, fun x => ?_⟩) (fun _ h => h)
    simpa [totalWeight] using h.2.2 x
  obtain ⟨nexthop, s', hrun, rfl, hunit, hvalid, htotal⟩ := wp_fail_false_iff.mp hfill
  obtain ⟨memberIds, hfind⟩ := exists_findEcmpGroupMembers_eq_ok defaultDropIntf hvalid
  obtain ⟨l, hsorted, hcount⟩ := findEcmpGroupMembers_eq_sortAscending hfind
  refine ⟨nexthop, memberIds, hrun, hunit, hfind, hsorted ▸ sortAscending_sorted l, ?_, ?_⟩
  · -- no member stays: the nexthop is empty and gets the drop interface
    intro hzero
    have hempty : nexthop.members = [] :=
      (eq_nil_iff_totalWeight_eq_zero hvalid).mpr fun x => (htotal x).trans (hzero x)
    rcases findEcmpGroupMembers_eq_ok.mp hfind with ⟨-, rfl⟩ | ⟨hne, -⟩
    · rfl
    · exact absurd hempty hne
  · rintro ⟨y, hy⟩ x
    have hne : nexthop.members ≠ [] := fun hempty => hy <| by
      rw [← htotal y]
      exact (eq_nil_iff_totalWeight_eq_zero hvalid).mp hempty y
    rw [hsorted, count_sortAscending, hcount x, groupWeight, if_neg hne, htotal x]

/-- A P4Info with the action profile `7`, and the manager built from it. -/
def profileP4Info : Stratum.Ports.P4InfoManager.P4Info :=
  ⟨[], [], [⟨⟨7, "wcmp_selector"⟩⟩], [], [], [], [], [], [], []⟩

def profileManager : P4InfoManager :=
  (P4InfoManager.initializeAndVerify true (P4InfoManager.ofP4Info profileP4Info)).2

/-- Members `1` and `2` on ports `1` and `2`, member `3` on a trunk. -/
def wcmpTableManager : BcmTableManager :=
  { BcmTableManager.empty with
    memberIdToNexthopInfo := ((∅ : NatMap BcmNonMultipathNexthopInfo).insert 1
      ⟨100001, .port, 1, 1, 0⟩ |>.insert 2 ⟨100002, .port, 2, 1, 0⟩ |>.insert 3
      ⟨100003, .trunk, 5, 1, 0⟩) }

/-- Port `2` is down, every other port up. -/
def port2Down (port : Int) : StatusOr PortState := .ok (if port = 2 then .down else .up)

/-- A group of the three members, the trunk's weight left at zero. -/
def downPortGroup : ActionProfileGroup := ⟨7, 1, [⟨1, 2⟩, ⟨2, 1⟩, ⟨3, 0⟩], 0⟩

example : (fillBcmMultipathNexthop port2Down 0 (some profileManager) downPortGroup ⟨0, []⟩).run
    wcmpTableManager = .ok ⟨0, [⟨100001, 2⟩, ⟨100003, 1⟩]⟩ wcmpTableManager := rfl

theorem group_members_up_weighted_downPortGroup :
    mapActionProfileGroup (some profileManager) downPortGroup = .ok () ∧
      MembersReady port2Down wcmpTableManager downPortGroup.members ∧
      ∃ nexthop memberIds,
        (fillBcmMultipathNexthop port2Down 0 (some profileManager) downPortGroup ⟨0, []⟩).run
          wcmpTableManager = .ok nexthop wcmpTableManager ∧
        findEcmpGroupMembers (-1) nexthop = .ok memberIds := by
  have hprofile : mapActionProfileGroup (some profileManager) downPortGroup = .ok () := rfl
  have hready : MembersReady port2Down wcmpTableManager downPortGroup.members := by
    intro member hmember
    simp only [downPortGroup, List.mem_cons, List.not_mem_nil, or_false] at hmember
    rcases hmember with rfl | rfl | rfl
    · exact ⟨_, rfl, by decide, fun _ => ⟨_, rfl⟩⟩
    · exact ⟨_, rfl, by decide, fun _ => ⟨_, rfl⟩⟩
    · exact ⟨_, rfl, by decide, fun _ => ⟨_, rfl⟩⟩
  exact ⟨hprofile, hready,
    (group_members_up_weighted port2Down 0 (-1) (some profileManager) hprofile hready).imp
      fun _ h => h.imp fun _ h => ⟨h.1, h.2.2.1⟩⟩

end FillSpec

end Stratum.Ports.BcmL3Manager
