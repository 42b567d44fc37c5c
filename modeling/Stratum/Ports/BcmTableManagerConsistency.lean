import Stratum.Ports.BcmTableManagerRefCounts
import Stratum.Verified.StateSpec
import Stratum.Verified.PairedMaps

/-!
# Keys and egress interfaces of the `BcmTableManager` action-profile store

Besides the reference counts (`Stratum.Ports.BcmTableManagerRefCounts`), the
store keeps two facts about its maps in every state a run of its calls
reaches, each call succeeding or failing half-way:

* `member_id_to_nexthop_info_` and `members_` hold the same member IDs, and
  `group_id_to_nexthop_info_` and `groups_` the same group IDs;
* no two members share an egress interface, and no two groups do.

Most calls change only the flow tables, the counts of a nexthop info, a
member's type and port, a group's member weights and `port_to_group_ids_`.
Such a call keeps the shape of the store (`SameShape`): the egress interface
of every member and group, and the keys of `members_` and `groups_`. It is
shown to keep it with the rules of `Stratum.Verified.StateSpec`, one part of
its body at a time. The four calls that add or remove a member or a group are
shown to keep the two facts themselves.

Main results:

* `keeps_updateActionProfileGroup` and the other `keeps_*` — every run of a
  call that neither adds nor removes a member or a group keeps the shape;
* `consistent_step` — every call keeps the store consistent;
* `consistent_final` — every run from the empty store ends in a consistent
  one.
-/

namespace Stratum.Ports.BcmTableManagerConsistency

open Function
open Stratum.Ports.Status Stratum.Ports.P4Runtime Stratum.Ports.BcmTableManager
open Stratum.Ports.BcmTableManagerRefCounts
open Stratum.Verified.StateSpec Stratum.Verified.Trace Stratum.Verified.PairedMaps

/-! ## The shape of the store -/

/-- The egress interface of each member, `none` for an unknown member. -/
def memberEgress (s : BcmTableManager) (memberId : Nat) : Option Int :=
  (s.memberIdToNexthopInfo.lookup memberId).map BcmNonMultipathNexthopInfo.egressIntfId

/-- The egress interface of each group, `none` for an unknown group. -/
def groupEgress (s : BcmTableManager) (groupId : Nat) : Option Int :=
  (s.groupIdToNexthopInfo.lookup groupId).map BcmMultipathNexthopInfo.egressIntfId

theorem mem_memberIdToNexthopInfo_iff {s : BcmTableManager} {memberId : Nat} :
    memberId ∈ s.memberIdToNexthopInfo ↔ (memberEgress s memberId).isSome := by
  rw [memberEgress, Option.isSome_map, AList.lookup_isSome]

theorem mem_groupIdToNexthopInfo_iff {s : BcmTableManager} {groupId : Nat} :
    groupId ∈ s.groupIdToNexthopInfo ↔ (groupEgress s groupId).isSome := by
  rw [groupEgress, Option.isSome_map, AList.lookup_isSome]

theorem memberEgress_of_lookup {s : BcmTableManager} {memberId : Nat}
    {info info' : BcmNonMultipathNexthopInfo}
    (h : s.memberIdToNexthopInfo.lookup memberId = some info)
    (hegress : info'.egressIntfId = info.egressIntfId) :
    memberEgress s memberId = some info'.egressIntfId := by
  rw [memberEgress, h, Option.map_some, hegress]

theorem groupEgress_of_lookup {s : BcmTableManager} {groupId : Nat}
    {info info' : BcmMultipathNexthopInfo} (h : s.groupIdToNexthopInfo.lookup groupId = some info)
    (hegress : info'.egressIntfId = info.egressIntfId) :
    groupEgress s groupId = some info'.egressIntfId := by
  rw [groupEgress, h, Option.map_some, hegress]

theorem memberEgress_insert {s s' : BcmTableManager} {memberId : Nat}
    {info : BcmNonMultipathNexthopInfo}
    (h : s'.memberIdToNexthopInfo = s.memberIdToNexthopInfo.insert memberId info) :
    memberEgress s' = update (memberEgress s) memberId (some info.egressIntfId) := by
  funext id
  by_cases hid : id = memberId
  · rw [hid, update_self, memberEgress, h, AList.lookup_insert, Option.map_some]
  · rw [update_of_ne hid, memberEgress, memberEgress, h, AList.lookup_insert_ne hid]

theorem memberEgress_erase {s s' : BcmTableManager} {memberId : Nat}
    (h : s'.memberIdToNexthopInfo = s.memberIdToNexthopInfo.erase memberId) :
    memberEgress s' = update (memberEgress s) memberId none := by
  funext id
  by_cases hid : id = memberId
  · rw [hid, update_self, memberEgress, h, AList.lookup_erase, Option.map_none]
  · rw [update_of_ne hid, memberEgress, memberEgress, h, AList.lookup_erase_ne hid]

theorem groupEgress_insert {s s' : BcmTableManager} {groupId : Nat}
    {info : BcmMultipathNexthopInfo}
    (h : s'.groupIdToNexthopInfo = s.groupIdToNexthopInfo.insert groupId info) :
    groupEgress s' = update (groupEgress s) groupId (some info.egressIntfId) := by
  funext id
  by_cases hid : id = groupId
  · rw [hid, update_self, groupEgress, h, AList.lookup_insert, Option.map_some]
  · rw [update_of_ne hid, groupEgress, groupEgress, h, AList.lookup_insert_ne hid]

theorem groupEgress_erase {s s' : BcmTableManager} {groupId : Nat}
    (h : s'.groupIdToNexthopInfo = s.groupIdToNexthopInfo.erase groupId) :
    groupEgress s' = update (groupEgress s) groupId none := by
  funext id
  by_cases hid : id = groupId
  · rw [hid, update_self, groupEgress, h, AList.lookup_erase, Option.map_none]
  · rw [update_of_ne hid, groupEgress, groupEgress, h, AList.lookup_erase_ne hid]

theorem memberEgress_congr {s s' : BcmTableManager}
    (h : s'.memberIdToNexthopInfo = s.memberIdToNexthopInfo) :
    memberEgress s' = memberEgress s := by
  funext memberId
  rw [memberEgress, memberEgress, h]

theorem groupEgress_congr {s s' : BcmTableManager}
    (h : s'.groupIdToNexthopInfo = s.groupIdToNexthopInfo) : groupEgress s' = groupEgress s := by
  funext groupId
  rw [groupEgress, groupEgress, h]

/-- Two states with the same members and groups, each with the same egress
interface. -/
structure SameShape (s s' : BcmTableManager) : Prop where
  memberEgress : memberEgress s' = memberEgress s
  groupEgress : groupEgress s' = groupEgress s
  members : ∀ memberId, memberId ∈ s'.members ↔ memberId ∈ s.members
  groups : ∀ groupId, groupId ∈ s'.groups ↔ groupId ∈ s.groups

theorem SameShape.refl (s : BcmTableManager) : SameShape s s :=
  ⟨rfl, rfl, fun _ => Iff.rfl, fun _ => Iff.rfl⟩

theorem SameShape.trans {s₁ s₂ s₃ : BcmTableManager} (h₁ : SameShape s₁ s₂)
    (h₂ : SameShape s₂ s₃) : SameShape s₁ s₃ :=
  ⟨h₂.memberEgress.trans h₁.memberEgress, h₂.groupEgress.trans h₁.groupEgress,
    fun memberId => (h₂.members memberId).trans (h₁.members memberId),
    fun groupId => (h₂.groups groupId).trans (h₁.groups groupId)⟩

instance : IsPreorder BcmTableManager SameShape where
  refl := SameShape.refl
  trans _ _ _ := SameShape.trans

/-- A state whose four maps of members and groups are those of another has
its shape. -/
theorem sameShape_of_maps {s s' : BcmTableManager}
    (hinfos : s'.memberIdToNexthopInfo = s.memberIdToNexthopInfo)
    (hgroupInfos : s'.groupIdToNexthopInfo = s.groupIdToNexthopInfo)
    (hmembers : s'.members = s.members) (hgroups : s'.groups = s.groups) : SameShape s s' :=
  ⟨memberEgress_congr hinfos, groupEgress_congr hgroupInfos, fun _ => by rw [hmembers],
    fun _ => by rw [hgroups]⟩

/-- Replacing an entry of an `AList` keeps its keys. -/
theorem mem_insert_erase_iff {β : Type} {m : NatMap β} {key : Nat} (hkey : key ∈ m) (b : β)
    (id : Nat) : id ∈ (m.erase key).insert key b ↔ id ∈ m := by
  rw [AList.mem_insert, AList.mem_erase]
  by_cases hid : id = key
  · rw [hid]
    exact ⟨fun _ => hkey, fun _ => Or.inl rfl⟩
  · simp only [hid, false_or, ne_eq, not_false_eq_true, true_and]

/-! ## The calls the public calls are made of -/

section Calls

variable {α : Type} {post : α → BcmTableManager → Prop} {fail : BcmTableManager → Prop}
  {s : BcmTableManager}

theorem wp_retCheck {post : Unit → BcmTableManager → Prop} (condition : Bool) (message : String) :
    wp (liftStatus (retCheck condition message)) post fail s ↔
      if condition then post () s else fail s := by
  cases condition <;> rfl

theorem wp_getBcmNonMultipathNexthopInfo
    {post : BcmNonMultipathNexthopInfo → BcmTableManager → Prop} {memberId : Nat}
    (hsome : ∀ info, s.memberIdToNexthopInfo.lookup memberId = some info → post info s)
    (hnone : fail s) : wp (getBcmNonMultipathNexthopInfo memberId) post fail s := by
  dsimp only [wp, EStateM.run, getBcmNonMultipathNexthopInfo]
  cases hinfo : s.memberIdToNexthopInfo.lookup memberId with
  | some info => exact hsome info hinfo
  | none => exact hnone

theorem wp_getBcmMultipathNexthopInfo {post : BcmMultipathNexthopInfo → BcmTableManager → Prop}
    {groupId : Nat}
    (hsome : ∀ info, s.groupIdToNexthopInfo.lookup groupId = some info → post info s)
    (hnone : fail s) : wp (getBcmMultipathNexthopInfo groupId) post fail s := by
  dsimp only [wp, EStateM.run, getBcmMultipathNexthopInfo]
  cases hinfo : s.groupIdToNexthopInfo.lookup groupId with
  | some info => exact hsome info hinfo
  | none => exact hnone

theorem wp_setMemberInfo {post : PUnit → BcmTableManager → Prop} (memberId : Nat)
    (info : BcmNonMultipathNexthopInfo) :
    wp (setMemberInfo memberId info) post fail s ↔
      post ⟨⟩ { s with memberIdToNexthopInfo := s.memberIdToNexthopInfo.insert memberId info } :=
  Iff.rfl

theorem wp_setGroupInfo {post : PUnit → BcmTableManager → Prop} (groupId : Nat)
    (info : BcmMultipathNexthopInfo) :
    wp (setGroupInfo groupId info) post fail s ↔
      post ⟨⟩ { s with groupIdToNexthopInfo := s.groupIdToNexthopInfo.insert groupId info } :=
  Iff.rfl

/-- Writing a member's info with the egress interface it has keeps the
shape, so what follows may start from any state of that shape. -/
theorem wp_setMemberInfo_of_egress {post : PUnit → BcmTableManager → Prop} {memberId : Nat}
    {info : BcmNonMultipathNexthopInfo} (h : memberEgress s memberId = some info.egressIntfId)
    (hnext : ∀ s', SameShape s s' → post ⟨⟩ s') : wp (setMemberInfo memberId info) post fail s := by
  rw [wp_setMemberInfo]
  apply hnext
  refine ⟨?_, rfl, fun _ => Iff.rfl, fun _ => Iff.rfl⟩
  rw [memberEgress_insert rfl, ← h, update_eq_self]

/-- Writing a group's info with the egress interface it has keeps the
shape. -/
theorem wp_setGroupInfo_of_egress {post : PUnit → BcmTableManager → Prop} {groupId : Nat}
    {info : BcmMultipathNexthopInfo} (h : groupEgress s groupId = some info.egressIntfId)
    (hnext : ∀ s', SameShape s s' → post ⟨⟩ s') : wp (setGroupInfo groupId info) post fail s := by
  rw [wp_setGroupInfo]
  apply hnext
  refine ⟨rfl, ?_, fun _ => Iff.rfl, fun _ => Iff.rfl⟩
  rw [groupEgress_insert rfl, ← h, update_eq_self]

/-- `checkFlowRefCount` never changes the state. -/
theorem wp_checkFlowRefCount {post : Unit → BcmTableManager → Prop} {flowRefCount : UInt32}
    {delta : Int} {message : String} (hpost : post () s) (hfail : fail s) :
    wp (checkFlowRefCount flowRefCount delta message) post fail s := by
  unfold checkFlowRefCount
  split
  · rw [wp_retCheck]
    split
    · exact hpost
    · exact hfail
  · exact hpost

theorem keeps_liftStatus (status : StatusOr α) : Keeps SameShape (liftStatus status) := by
  cases status with
  | ok a => exact keeps_pure a
  | error e => exact keeps_throw e

theorem keeps_getMutableFlowTable (tableId : Nat) :
    Keeps SameShape (getMutableFlowTable tableId) := by
  intro s
  dsimp only [wp, EStateM.run, getMutableFlowTable]
  cases findFlowTable s tableId with
  | some found => exact SameShape.refl s
  | none => exact SameShape.refl s

theorem keeps_setFlowTable (kind : TableKind) (tableId : Nat) (table : BcmFlowTable) :
    Keeps SameShape (setFlowTable kind tableId table) := by
  apply keeps_modify
  intro s
  cases kind with
  | generic => exact sameShape_of_maps rfl rfl rfl rfl
  | acl => exact sameShape_of_maps rfl rfl rfl rfl

theorem keeps_eraseEmptyGenericTable (tableId : Nat) :
    Keeps SameShape (eraseEmptyGenericTable tableId) := by
  apply keeps_modify
  intro s
  split
  · split
    · exact sameShape_of_maps rfl rfl rfl rfl
    · exact SameShape.refl s
  · exact SameShape.refl s

theorem keeps_addPortGroup (port : Int) (groupId : Nat) :
    Keeps SameShape (addPortGroup port groupId) :=
  keeps_modify fun _ => sameShape_of_maps rfl rfl rfl rfl

theorem keeps_erasePortGroup (port : Int) (groupId : Nat) (message : String) :
    Keeps SameShape (erasePortGroup port groupId message) := by
  intro s
  dsimp only [wp, EStateM.run, erasePortGroup]
  cases s.portToGroupIds.lookup port with
  | some groupIds => exact sameShape_of_maps rfl rfl rfl rfl
  | none => exact SameShape.refl s

end Calls

/-! ## Calls that keep the shape -/

theorem keeps_updateFlowRefCountForMember (memberId : Nat) (delta : Int) :
    Keeps SameShape (updateFlowRefCountForMember memberId delta) := by
  intro s
  unfold updateFlowRefCountForMember
  rw [wp_bind]
  refine wp_getBcmNonMultipathNexthopInfo (fun info hinfo => ?_) (SameShape.refl s)
  rw [wp_bind]
  refine wp_checkFlowRefCount ?_ (SameShape.refl s)
  exact wp_setMemberInfo_of_egress (memberEgress_of_lookup hinfo rfl) fun _ h => h

theorem keeps_updateFlowRefCountForGroup (groupId : Nat) (delta : Int) :
    Keeps SameShape (updateFlowRefCountForGroup groupId delta) := by
  intro s
  unfold updateFlowRefCountForGroup
  rw [wp_bind]
  refine wp_getBcmMultipathNexthopInfo (fun info hinfo => ?_) (SameShape.refl s)
  rw [wp_bind]
  refine wp_checkFlowRefCount ?_ (SameShape.refl s)
  exact wp_setGroupInfo_of_egress (groupEgress_of_lookup hinfo rfl) fun _ h => h

theorem keeps_updateFlowRefCount (entry : TableEntry) (delta : Int) :
    Keeps SameShape (updateFlowRefCount entry delta) :=
  Keeps.ite (keeps_updateFlowRefCountForMember _ _)
    (Keeps.ite (keeps_updateFlowRefCountForGroup _ _) (keeps_pure ()))

theorem keeps_addTableEntry (lookupTable : Nat → StatusOr P4Info.Table) (entry : TableEntry) :
    Keeps SameShape (addTableEntry lookupTable entry) := by
  unfold addTableEntry
  refine Keeps.ite (Keeps.bind (keeps_throw _) fun _ => ?_) ?_
  -- both branches go on to the table, found or made
  all_goals
    refine Keeps.bind keeps_get fun s => ?_
    split
    · exact Keeps.bind (keeps_liftStatus _) fun _ =>
        Keeps.bind (keeps_setFlowTable _ _ _) fun _ => keeps_updateFlowRefCount _ _
    · refine Keeps.bind (keeps_liftStatus _) fun _ => Keeps.bind keeps_get fun _ => ?_
      refine Keeps.ite (Keeps.bind (keeps_throw _) fun _ => ?_) ?_
      all_goals
        exact Keeps.bind (keeps_setFlowTable _ _ _) fun _ =>
          Keeps.bind (keeps_liftStatus _) fun _ =>
            Keeps.bind (keeps_setFlowTable _ _ _) fun _ => keeps_updateFlowRefCount _ _

theorem keeps_updateTableEntry (entry : TableEntry) :
    Keeps SameShape (updateTableEntry entry) := by
  unfold updateTableEntry
  refine Keeps.bind (keeps_getMutableFlowTable _) fun _ => ?_
  refine Keeps.bind (keeps_liftStatus _) fun _ => ?_
  refine Keeps.bind (keeps_setFlowTable _ _ _) fun _ => ?_
  exact Keeps.ite (keeps_pure ()) (Keeps.ite (keeps_pure ())
    (Keeps.bind (keeps_updateFlowRefCount _ _) fun _ => keeps_updateFlowRefCount _ _))

theorem keeps_deleteTableEntry (entry : TableEntry) :
    Keeps SameShape (deleteTableEntry entry) := by
  unfold deleteTableEntry
  refine Keeps.bind (keeps_getMutableFlowTable _) fun _ => ?_
  refine Keeps.bind (keeps_liftStatus _) fun _ => ?_
  exact Keeps.bind (keeps_setFlowTable _ _ _) fun _ =>
    Keeps.bind (keeps_updateFlowRefCount _ _) fun _ => keeps_eraseEmptyGenericTable _

/-- `UpdateActionProfileMember` keeps the member's egress interface, and
writes `members_` at a key it already holds. -/
theorem keeps_updateActionProfileMember (member : ActionProfileMember) (type : NexthopType)
    (bcmPort : Int) : Keeps SameShape (updateActionProfileMember member type bcmPort) := by
  intro s
  unfold updateActionProfileMember
  rw [wp_bind]
  refine wp_getBcmNonMultipathNexthopInfo (fun info hinfo => ?_) (SameShape.refl s)
  rw [wp_bind]
  refine wp_setMemberInfo_of_egress (memberEgress_of_lookup hinfo rfl) fun s' hs' => ?_
  rw [wp_bind, wp_get, wp_bind, wp_retCheck]
  split
  · rename_i hmember
    rw [wp_set]
    refine hs'.trans ⟨rfl, rfl, fun id => ?_, fun _ => Iff.rfl⟩
    exact mem_insert_erase_iff (of_decide_eq_true hmember) member id
  · exact hs'

/-! ## The loops over members -/

/-- The loop of `DeleteActionProfileGroup` keeps the shape. -/
theorem keeps_deleteGroupMembers (groupId : Nat) :
    ∀ memberIds, Keeps SameShape (deleteGroupMembers groupId memberIds)
  | [] => keeps_pure ()
  | memberId :: rest => by
      intro s
      rw [deleteGroupMembers, wp_bind]
      refine wp_getBcmNonMultipathNexthopInfo (fun info hinfo => ?_) (SameShape.refl s)
      rw [wp_bind, wp_retCheck]
      split
      · rw [wp_bind]
        refine wp_setMemberInfo_of_egress (memberEgress_of_lookup hinfo rfl) fun s' hs' => ?_
        refine Keeps.wp_of_rel ?_ hs'
        dsimp only
        exact Keeps.ite (Keeps.bind (keeps_erasePortGroup _ _ _) fun _ =>
          keeps_deleteGroupMembers groupId rest) (keeps_deleteGroupMembers groupId rest)
      · exact SameShape.refl s

/-- The second loop of `UpdateActionProfileGroup` keeps the shape. -/
theorem keeps_updateGroupOldMembers (groupId : Nat) (newMemberIdToWeight : NatMap Nat)
    (ports : List Int) :
    ∀ memberIds,
      Keeps SameShape (updateGroupOldMembers groupId newMemberIdToWeight ports memberIds)
  | [] => keeps_pure ()
  | memberId :: rest => by
      intro s
      have hrest := keeps_updateGroupOldMembers groupId newMemberIdToWeight ports rest
      rw [updateGroupOldMembers, wp_bind]
      refine wp_getBcmNonMultipathNexthopInfo (fun info hinfo => ?_) (SameShape.refl s)
      rw [wp_bind, wp_retCheck]
      split
      · dsimp only
        rw [wp_ite]
        split
        · -- a member leaving the group loses a reference, and maybe its port
          rw [wp_bind]
          refine wp_setMemberInfo_of_egress (memberEgress_of_lookup hinfo rfl) fun s' hs' => ?_
          refine Keeps.wp_of_rel ?_ hs'
          exact Keeps.ite (Keeps.bind (keeps_erasePortGroup _ _ _) fun _ => hrest) hrest
        · exact hrest s
      · exact SameShape.refl s

/-- The loop of `AddActionProfileGroup` keeps the shape and the egress
interface of the group's info. -/
theorem addGroupMembers_wp (groupId : Nat) :
    ∀ (members : List ActionProfileGroupMember) (groupInfo : BcmMultipathNexthopInfo)
      (s : BcmTableManager),
      wp (addGroupMembers groupId members groupInfo)
        (fun result s' => SameShape s s' ∧ result.egressIntfId = groupInfo.egressIntfId)
        (SameShape s) s
  | [], groupInfo, s => ⟨SameShape.refl s, rfl⟩
  | member :: rest, groupInfo, s => by
      rw [addGroupMembers, wp_bind]
      refine wp_getBcmNonMultipathNexthopInfo (fun info hinfo => ?_) (SameShape.refl s)
      rw [wp_bind]
      refine wp_setMemberInfo_of_egress (memberEgress_of_lookup hinfo rfl) fun s₁ hs₁ => ?_
      -- the rest of the loop runs from a state of the same shape
      have hrest : ∀ s₂, SameShape s s₂ →
          wp (addGroupMembers groupId rest { groupInfo with
              memberIdToWeight :=
                groupInfo.memberIdToWeight.insert member.memberId (memberWeight member) })
            (fun result s' => SameShape s s' ∧ result.egressIntfId = groupInfo.egressIntfId)
            (SameShape s) s₂ := by
        intro s₂ hs₂
        refine wp_mono (addGroupMembers_wp groupId rest _ s₂) ?_ ?_
        · rintro result s₃ ⟨hs₃, hegress⟩
          exact ⟨hs₂.trans hs₃, hegress⟩
        · intro s₃ hs₃
          exact hs₂.trans hs₃
      dsimp only
      rw [wp_ite]
      split
      · exact Keeps.wp_bind (keeps_addPortGroup _ _) (fun _ s₂ hs₂ => hrest s₂ (hs₁.trans hs₂))
          (fun s₂ hs₂ => hs₁.trans hs₂)
      · exact hrest s₁ hs₁

/-- The first loop of `UpdateActionProfileGroup`, run while the group's
stored info has the egress interface of the info it builds, keeps the shape
and that egress interface. -/
theorem updateGroupNewMembers_wp (groupId : Nat) (oldMemberIdToWeight : NatMap Nat) :
    ∀ (members : List ActionProfileGroupMember) (acc : BcmMultipathNexthopInfo × List Int)
      (s : BcmTableManager), groupEgress s groupId = some acc.1.egressIntfId →
      wp (updateGroupNewMembers groupId oldMemberIdToWeight members acc)
        (fun result s' => SameShape s s' ∧ result.1.egressIntfId = acc.1.egressIntfId)
        (SameShape s) s
  | [], acc, s, _ => ⟨SameShape.refl s, rfl⟩
  | member :: rest, (groupInfo, ports), s, hgroup => by
      rw [updateGroupNewMembers, wp_bind]
      refine wp_getBcmNonMultipathNexthopInfo (fun info hinfo => ?_) (SameShape.refl s)
      rw [wp_bind]
      refine wp_setGroupInfo_of_egress hgroup fun s₁ hs₁ => ?_
      dsimp only
      -- the rest of the loop runs from a state of the same shape
      have hrest : ∀ s₂ ports', SameShape s s₂ →
          wp (updateGroupNewMembers groupId oldMemberIdToWeight rest
              ({ groupInfo with
                  memberIdToWeight :=
                    groupInfo.memberIdToWeight.insert member.memberId (memberWeight member) },
                ports'))
            (fun result s' => SameShape s s' ∧ result.1.egressIntfId = groupInfo.egressIntfId)
            (SameShape s) s₂ := by
        intro s₂ ports' hs₂
        refine wp_mono (updateGroupNewMembers_wp groupId oldMemberIdToWeight rest _ s₂ ?_) ?_ ?_
        · rw [hs₂.groupEgress]
          exact hgroup
        · rintro result s₃ ⟨hs₃, hegress⟩
          exact ⟨hs₂.trans hs₃, hegress⟩
        · intro s₃ hs₃
          exact hs₂.trans hs₃
      rw [wp_ite]
      split
      · -- a new member gains a reference and maybe marks its port
        rw [wp_bind]
        refine wp_setMemberInfo_of_egress ?_ fun s₂ hs₂ => ?_
        · rw [hs₁.memberEgress]
          exact memberEgress_of_lookup hinfo rfl
        · rw [wp_ite]
          split
          · exact (keeps_addPortGroup _ _).wp_bind
              (fun _ s₃ hs₃ => hrest s₃ _ (hs₁.trans (hs₂.trans hs₃)))
              (fun s₃ hs₃ => hs₁.trans (hs₂.trans hs₃))
          · exact hrest s₂ _ (hs₁.trans hs₂)
      · exact hrest s₁ _ hs₁

/-- `UpdateActionProfileGroup` keeps the group's egress interface, and
writes `groups_` at a key it already holds. -/
theorem keeps_updateActionProfileGroup (group : ActionProfileGroup) :
    Keeps SameShape (updateActionProfileGroup group) := by
  intro s
  unfold updateActionProfileGroup
  rw [wp_bind]
  refine wp_getBcmMultipathNexthopInfo (fun groupInfo hgroup => ?_) (SameShape.refl s)
  rw [wp_bind]
  refine wp_setGroupInfo_of_egress (groupEgress_of_lookup hgroup rfl) fun s₁ hs₁ => ?_
  rw [wp_bind]
  refine wp_mono (updateGroupNewMembers_wp _ _ _ _ s₁ ?_) (fun result s₂ hs₂ => ?_)
    (fun s₂ hs₂ => hs₁.trans hs₂)
  · rw [hs₁.groupEgress]
    exact groupEgress_of_lookup hgroup rfl
  · obtain ⟨hs₂, -⟩ := hs₂
    refine (keeps_updateGroupOldMembers _ _ _ _).wp_bind (fun _ s₃ hs₃ => ?_)
      (fun s₃ hs₃ => hs₁.trans (hs₂.trans hs₃))
    rw [wp_bind, wp_get, wp_bind, wp_retCheck]
    split
    · rename_i hgroupMem
      rw [wp_set]
      refine hs₁.trans (hs₂.trans (hs₃.trans ⟨rfl, rfl, fun _ => Iff.rfl, fun id => ?_⟩))
      exact mem_insert_erase_iff (of_decide_eq_true hgroupMem) group id
    · exact hs₁.trans (hs₂.trans hs₃)

/-! ## A consistent store -/

/-- The nexthop infos and the P4 objects of the store hold the same IDs, and
no two members, nor two groups, share an egress interface. -/
structure Consistent (s : BcmTableManager) : Prop where
  members_agree : ∀ memberId, memberId ∈ s.memberIdToNexthopInfo ↔ memberId ∈ s.members
  groups_agree : ∀ groupId, groupId ∈ s.groupIdToNexthopInfo ↔ groupId ∈ s.groups
  memberEgress_distinct : ValuesDistinct (memberEgress s)
  groupEgress_distinct : ValuesDistinct (groupEgress s)

/-- Consistency depends on the shape of the store only. -/
theorem Consistent.of_sameShape {s s' : BcmTableManager} (hs : Consistent s)
    (h : SameShape s s') : Consistent s' where
  members_agree memberId := by
    rw [mem_memberIdToNexthopInfo_iff, h.memberEgress, ← mem_memberIdToNexthopInfo_iff,
      h.members]
    exact hs.members_agree memberId
  groups_agree groupId := by
    rw [mem_groupIdToNexthopInfo_iff, h.groupEgress, ← mem_groupIdToNexthopInfo_iff, h.groups]
    exact hs.groups_agree groupId
  memberEgress_distinct := by
    rw [h.memberEgress]
    exact hs.memberEgress_distinct
  groupEgress_distinct := by
    rw [h.groupEgress]
    exact hs.groupEgress_distinct

theorem consistent_empty : Consistent BcmTableManager.empty where
  members_agree _ := iff_of_false (AList.notMem_empty _) (AList.notMem_empty _)
  groups_agree _ := iff_of_false (AList.notMem_empty _) (AList.notMem_empty _)
  memberEgress_distinct memberId _ _ h := by
    rw [memberEgress, show BcmTableManager.empty.memberIdToNexthopInfo = ∅ from rfl,
      AList.lookup_empty] at h
    cases h
  groupEgress_distinct groupId _ _ h := by
    rw [groupEgress, show BcmTableManager.empty.groupIdToNexthopInfo = ∅ from rfl,
      AList.lookup_empty] at h
    cases h

/-- A member added to both maps with an egress interface no member has keeps
the store consistent. -/
theorem Consistent.addMember {s s' : BcmTableManager} (hs : Consistent s) {memberId : Nat}
    {info : BcmNonMultipathNexthopInfo} {member : ActionProfileMember}
    (hinfos : s'.memberIdToNexthopInfo = s.memberIdToNexthopInfo.insert memberId info)
    (hmembers : s'.members = s.members.insert memberId member)
    (hgroupInfos : s'.groupIdToNexthopInfo = s.groupIdToNexthopInfo)
    (hgroups : s'.groups = s.groups)
    (hfresh : ∀ memberId', memberEgress s memberId' ≠ some info.egressIntfId) :
    Consistent s' where
  members_agree id := by
    rw [hinfos, hmembers, AList.mem_insert, AList.mem_insert, hs.members_agree id]
  groups_agree id := by
    rw [hgroupInfos, hgroups]
    exact hs.groups_agree id
  memberEgress_distinct := by
    rw [memberEgress_insert hinfos]
    exact hs.memberEgress_distinct.update_some hfresh
  groupEgress_distinct := by
    rw [groupEgress_congr hgroupInfos]
    exact hs.groupEgress_distinct

/-- A member removed from both maps keeps the store consistent. -/
theorem Consistent.eraseMember {s s' : BcmTableManager} (hs : Consistent s) {memberId : Nat}
    (hinfos : s'.memberIdToNexthopInfo = s.memberIdToNexthopInfo.erase memberId)
    (hmembers : s'.members = s.members.erase memberId)
    (hgroupInfos : s'.groupIdToNexthopInfo = s.groupIdToNexthopInfo)
    (hgroups : s'.groups = s.groups) : Consistent s' where
  members_agree id := by
    rw [hinfos, hmembers, AList.mem_erase, AList.mem_erase, hs.members_agree id]
  groups_agree id := by
    rw [hgroupInfos, hgroups]
    exact hs.groups_agree id
  memberEgress_distinct := by
    rw [memberEgress_erase hinfos]
    exact hs.memberEgress_distinct.update_none memberId
  groupEgress_distinct := by
    rw [groupEgress_congr hgroupInfos]
    exact hs.groupEgress_distinct

/-- A group added to both maps with an egress interface no group has keeps
the store consistent. -/
theorem Consistent.addGroup {s s' : BcmTableManager} (hs : Consistent s) {groupId : Nat}
    {info : BcmMultipathNexthopInfo} {group : ActionProfileGroup}
    (hinfos : s'.memberIdToNexthopInfo = s.memberIdToNexthopInfo)
    (hmembers : s'.members = s.members)
    (hgroupInfos : s'.groupIdToNexthopInfo = s.groupIdToNexthopInfo.insert groupId info)
    (hgroups : s'.groups = s.groups.insert groupId group)
    (hfresh : ∀ groupId', groupEgress s groupId' ≠ some info.egressIntfId) :
    Consistent s' where
  members_agree id := by
    rw [hinfos, hmembers]
    exact hs.members_agree id
  groups_agree id := by
    rw [hgroupInfos, hgroups, AList.mem_insert, AList.mem_insert, hs.groups_agree id]
  memberEgress_distinct := by
    rw [memberEgress_congr hinfos]
    exact hs.memberEgress_distinct
  groupEgress_distinct := by
    rw [groupEgress_insert hgroupInfos]
    exact hs.groupEgress_distinct.update_some hfresh

/-- A group removed from both maps keeps the store consistent. -/
theorem Consistent.eraseGroup {s s' : BcmTableManager} (hs : Consistent s) {groupId : Nat}
    (hinfos : s'.memberIdToNexthopInfo = s.memberIdToNexthopInfo)
    (hmembers : s'.members = s.members)
    (hgroupInfos : s'.groupIdToNexthopInfo = s.groupIdToNexthopInfo.erase groupId)
    (hgroups : s'.groups = s.groups.erase groupId) : Consistent s' where
  members_agree id := by
    rw [hinfos, hmembers]
    exact hs.members_agree id
  groups_agree id := by
    rw [hgroupInfos, hgroups, AList.mem_erase, AList.mem_erase, hs.groups_agree id]
  memberEgress_distinct := by
    rw [memberEgress_congr hinfos]
    exact hs.memberEgress_distinct
  groupEgress_distinct := by
    rw [groupEgress_erase hgroupInfos]
    exact hs.groupEgress_distinct.update_none groupId

/-- An egress interface `std::find_if` finds on no member is the egress
interface of no member. -/
theorem memberEgress_ne_of_memberWithEgressIntf {s : BcmTableManager} {egressIntfId : Int}
    (h : memberWithEgressIntf s egressIntfId = none) (memberId : Nat) :
    memberEgress s memberId ≠ some egressIntfId := by
  intro hegress
  obtain ⟨info, hinfo, hinfoEgress⟩ := Option.map_eq_some_iff.mp hegress
  rw [memberWithEgressIntf, Option.map_eq_none_iff, List.find?_eq_none] at h
  exact h _ (AList.mem_lookup_iff.mp hinfo) (beq_iff_eq.mpr hinfoEgress)

/-- An egress interface found on no group is the egress interface of no
group. -/
theorem groupEgress_ne_of_groupWithEgressIntf {s : BcmTableManager} {egressIntfId : Int}
    (h : groupWithEgressIntf s egressIntfId = none) (groupId : Nat) :
    groupEgress s groupId ≠ some egressIntfId := by
  intro hegress
  obtain ⟨info, hinfo, hinfoEgress⟩ := Option.map_eq_some_iff.mp hegress
  rw [groupWithEgressIntf, Option.map_eq_none_iff, List.find?_eq_none] at h
  exact h _ (AList.mem_lookup_iff.mp hinfo) (beq_iff_eq.mpr hinfoEgress)

/-! ## Calls that add or remove a member or a group -/

/-- `AddActionProfileMember` checks the member ID and the egress interface
are new before it writes both maps. -/
theorem consistent_addActionProfileMember (member : ActionProfileMember) (type : NexthopType)
    (egressIntfId bcmPort : Int) {s : BcmTableManager} (hs : Consistent s) :
    wp (addActionProfileMember member type egressIntfId bcmPort) (fun _ => Consistent)
      Consistent s := by
  dsimp only [wp, EStateM.run, addActionProfileMember]
  by_cases hzero : (member.memberId == 0 || member.actionProfileId == 0) = true
  · rw [if_pos hzero]
    exact hs
  rw [if_neg hzero]
  cases hegress : memberWithEgressIntf s egressIntfId with
  | some otherId => exact hs
  | none =>
      dsimp only
      by_cases hnew : member.memberId ∈ s.memberIdToNexthopInfo
      · rw [if_pos hnew]
        exact hs
      -- by consistency the member is not in `members_` either
      have hmember : member.memberId ∉ s.members := fun h => hnew ((hs.members_agree _).mpr h)
      rw [if_neg hnew, if_neg hmember]
      refine hs.addMember rfl rfl rfl rfl ?_
      exact memberEgress_ne_of_memberWithEgressIntf hegress

/-- `DeleteActionProfileMember` finds the member in `members_` whenever it
has its nexthop info, so it removes it from both maps. -/
theorem consistent_deleteActionProfileMember (member : ActionProfileMember)
    {s : BcmTableManager} (hs : Consistent s) :
    wp (deleteActionProfileMember member) (fun _ => Consistent) Consistent s := by
  unfold deleteActionProfileMember
  rw [wp_bind]
  refine wp_getBcmNonMultipathNexthopInfo (fun info hinfo => ?_) hs
  have hmember : member.memberId ∈ s.members :=
    (hs.members_agree _).mp (AList.lookup_isSome.mp (by rw [hinfo]; rfl))
  rw [wp_bind, wp_retCheck]
  split
  · rw [wp_bind, wp_retCheck]
    split
    · rw [wp_bind, wp_modify, wp_bind, wp_get, wp_bind, wp_retCheck]
      split
      · rw [wp_set]
        exact hs.eraseMember rfl rfl rfl rfl
      · rename_i hbad
        exact absurd (decide_eq_true hmember) hbad
    · exact hs
  · exact hs

/-- `AddActionProfileGroup` checks the group ID and the egress interface are
new before its loop, which changes neither, and writes both maps. -/
theorem consistent_addActionProfileGroup (group : ActionProfileGroup) (egressIntfId : Int)
    {s : BcmTableManager} (hs : Consistent s) :
    wp (addActionProfileGroup group egressIntfId) (fun _ => Consistent) Consistent s := by
  unfold addActionProfileGroup
  dsimp only
  rw [wp_ite]
  split
  · rw [wp_bind, wp_throw]
    exact hs
  rw [wp_bind, wp_get, wp_ite]
  split
  · rw [wp_bind, wp_throw]
    exact hs
  rename_i hnew
  split
  · rw [wp_throw]
    exact hs
  rename_i hegress
  rw [wp_bind]
  refine wp_mono (addGroupMembers_wp _ _ _ s) (fun groupInfo s₁ hs₁ => ?_)
    (fun s₁ hs₁ => hs.of_sameShape hs₁)
  obtain ⟨hs₁, hgroupEgress⟩ := hs₁
  rw [wp_bind, wp_get, wp_ite]
  split
  · rw [wp_bind, wp_throw]
    exact hs.of_sameShape hs₁
  rw [wp_bind, wp_setGroupInfo, wp_bind, wp_get, wp_ite]
  split
  · -- by consistency the group is not in `groups_` either
    rename_i hbad
    exact absurd ((hs.groups_agree _).mpr ((hs₁.groups _).mp hbad)) hnew
  rw [wp_set]
  refine (hs.of_sameShape hs₁).addGroup rfl rfl rfl rfl fun groupId' => ?_
  rw [hs₁.groupEgress, hgroupEgress]
  exact groupEgress_ne_of_groupWithEgressIntf hegress groupId'

/-- `DeleteActionProfileGroup` finds the group in `groups_` whenever it has
its nexthop info, so it removes it from both maps. -/
theorem consistent_deleteActionProfileGroup (group : ActionProfileGroup) {s : BcmTableManager}
    (hs : Consistent s) :
    wp (deleteActionProfileGroup group) (fun _ => Consistent) Consistent s := by
  unfold deleteActionProfileGroup
  rw [wp_bind]
  refine wp_getBcmMultipathNexthopInfo (fun groupInfo hgroup => ?_) hs
  have hgroupMem : group.groupId ∈ s.groups :=
    (hs.groups_agree _).mp (AList.lookup_isSome.mp (by rw [hgroup]; rfl))
  refine Keeps.wp_bind (keeps_deleteGroupMembers _ _) (fun _ s₁ hs₁ => ?_)
    (fun s₁ hs₁ => hs.of_sameShape hs₁)
  rw [wp_bind, wp_modify, wp_bind, wp_get, wp_bind, wp_retCheck]
  split
  · rw [wp_set]
    exact (hs.of_sameShape hs₁).eraseGroup rfl rfl rfl rfl
  · rename_i hbad
    exact absurd (decide_eq_true ((hs₁.groups _).mpr hgroupMem)) hbad

/-! ## Every run -/

/-- Every call, from a consistent store, leaves a consistent one, whether
it returns or fails. -/
theorem consistent_call (lookupTable : Nat → StatusOr P4Info.Table) (call : Call)
    {s : BcmTableManager} (hs : Consistent s) :
    wp (call.op lookupTable) (fun _ => Consistent) Consistent s := by
  have hcarry : ∀ s s', Consistent s → SameShape s s' → Consistent s' :=
    fun _ _ hs h => hs.of_sameShape h
  cases call with
  | addTableEntry entry => exact (keeps_addTableEntry lookupTable entry).wp hcarry hs
  | updateTableEntry entry => exact (keeps_updateTableEntry entry).wp hcarry hs
  | deleteTableEntry entry => exact (keeps_deleteTableEntry entry).wp hcarry hs
  | addActionProfileMember member type egressIntfId bcmPort =>
      exact consistent_addActionProfileMember member type egressIntfId bcmPort hs
  | updateActionProfileMember member type bcmPort =>
      exact (keeps_updateActionProfileMember member type bcmPort).wp hcarry hs
  | deleteActionProfileMember member => exact consistent_deleteActionProfileMember member hs
  | addActionProfileGroup group egressIntfId =>
      exact consistent_addActionProfileGroup group egressIntfId hs
  | updateActionProfileGroup group => exact (keeps_updateActionProfileGroup group).wp hcarry hs
  | deleteActionProfileGroup group => exact consistent_deleteActionProfileGroup group hs

theorem consistent_step (lookupTable : Nat → StatusOr P4Info.Table) {s : BcmTableManager}
    (hs : Consistent s) (call : Call) : Consistent (step lookupTable s call).2 := by
  have hcall := consistent_call lookupTable call hs
  unfold wp at hcall
  unfold step
  split
  · rename_i heq
    rw [heq] at hcall
    exact hcall
  · rename_i heq
    rw [heq] at hcall
    exact hcall

/-- Every run from the empty store, of any calls in any order, each of them
returning or failing, ends in a consistent store. -/
theorem consistent_final (lookupTable : Nat → StatusOr P4Info.Table) (calls : List Call) :
    Consistent (final (step lookupTable) BcmTableManager.empty calls) :=
  final_invariant Consistent (fun _ call hs => consistent_step lookupTable hs call) calls _
    consistent_empty

end Stratum.Ports.BcmTableManagerConsistency
