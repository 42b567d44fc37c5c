import Mathlib.Data.List.AList
import Stratum.Ports.BfrtP4RuntimeTranslatorRoundTrip
import Stratum.Verified.OrderedContainers
import Stratum.Verified.StateSpec

/-!
# The multicast groups of `BfrtPreManager`

`stratum/hal/lib/barefoot/bfrt_pre_manager.cc` keeps the multicast groups of
P4Runtime's packet replication engine in two PRE tables of the SDE, through
the calls of `bf_sde_wrapper.cc`:

* `$pre.mgid` maps a multicast group ID to the IDs of its nodes;
* `$pre.node` maps a node ID to a replication ID (`$MULTICAST_RID`), LAG IDs
  and device ports.

A write translates the entry's egress ports to SDK ports, collects the ports
of the replicas per instance in an `absl::flat_hash_map`, and creates one node
per instance at the first free node ID from the table's usage on. A read
flattens the nodes of a group back into replicas, sorts them by instance and
port, and translates the ports back.

The SDE is not part of this repository. Its tables are modelled as stores: an
`AList` of entries and the size of the table. Adding an entry under a key the
table holds fails with `BF_ALREADY_EXISTS`, adding one to a full table with
`BF_NO_SPACE`, and modifying, reading or deleting a missing key with
`BF_OBJECT_NOT_FOUND`. The order in which the hash map hands out its entries
is not specified: it is the parameter `hashOrder`, a permutation wherever a
result needs one. `std::sort` is `stdSort`, the one sorted permutation under
the comparator's strict total order. Clone sessions are written and read by
`WriteCloneSessionEntry` and `ReadCloneSessionEntry`, parameters here: they
work on the SDE's mirror table, a state of its own, and
`Stratum.Ports.BfrtCloneSessions` models them.

Main results:

* `wp_insertMulticastNodes` — the nodes of a group are created at fresh,
  distinct IDs, one per instance, when the node table has room for them;
* `wp_writeMulticastGroupEntry_insert`, `wp_writeMulticastGroupEntry_modify` —
  an insert adds the group over new nodes; a modify moves it to new nodes and
  deletes the nodes it had;
* `readMulticastGroupEntry_of_lookup` — a read of a group returns its nodes'
  replicas, sorted, and translated back;
* `perm_replicas_insertMulticastNodes` — the nodes created for an entry hold
  its replicas, as a multiset, in whatever order the hash map gives them.
-/

namespace Stratum.Ports.BfrtPreManager

open Stratum.Verified.StateSpec Stratum.Verified.OrderedContainers Stratum.Verified.Run
open Stratum.Ports.Status Stratum.Ports.P4Runtime Stratum.Ports.BfrtP4RuntimeTranslator

/-! ## The SDE's PRE tables -/

/-- `kMaxMulticastGroupId` of `bfrt_constants.h`. -/
def kMaxMulticastGroupId : Nat := 65535

/-- `UINT16_MAX`. -/
def uint16Max : Nat := 65535

/-- The `bf_status_t` values the SDE's table calls return here. -/
inductive BfStatus
  | alreadyExists
  | objectNotFound
  | noSpace
  deriving DecidableEq, Repr

/-- The error `RETURN_IF_BFRT_ERROR` returns for a status: the code
`BooleanBfStatus::error_code` gives it, and the status's name in place of the
SDE's `bf_err_str`, which is outside this repository. -/
def BfStatus.toError : BfStatus → UtilError
  | .alreadyExists => ⟨.errEntryExists, "BF_ALREADY_EXISTS"⟩
  | .objectNotFound => ⟨.errEntryNotFound, "BF_OBJECT_NOT_FOUND"⟩
  | .noSpace => ⟨.errNoResource, "BF_NO_SPACE"⟩

/-- `RETURN_IF_BFRT_ERROR` on a table call. -/
def returnIfBfrtError {α : Type} (x : Except BfStatus α) : StatusOr α :=
  x.mapError BfStatus.toError

/-- A table of the SDE keyed by one integer field: its entries and its size. -/
structure SdeTable (β : Type) where
  entries : AList fun _ : Nat => β
  size : Nat

namespace SdeTable

variable {β : Type}

/-- `tableUsageGet`: the number of entries. -/
def usage (t : SdeTable β) : Nat := t.entries.keys.length

/-- `tableEntryAdd`. -/
def entryAdd (t : SdeTable β) (k : Nat) (v : β) : Except BfStatus (SdeTable β) :=
  if k ∈ t.entries then .error .alreadyExists
  else if t.size ≤ t.usage then .error .noSpace
  else .ok { t with entries := t.entries.insert k v }

/-- `tableEntryMod`. -/
def entryMod (t : SdeTable β) (k : Nat) (v : β) : Except BfStatus (SdeTable β) :=
  if k ∈ t.entries then .ok { t with entries := t.entries.insert k v } else .error .objectNotFound

/-- `tableEntryDel`. -/
def entryDel (t : SdeTable β) (k : Nat) : Except BfStatus (SdeTable β) :=
  if k ∈ t.entries then .ok { t with entries := t.entries.erase k } else .error .objectNotFound

/-- `tableEntryGet`. -/
def entryGet (t : SdeTable β) (k : Nat) : Except BfStatus β :=
  match t.entries.lookup k with
  | some v => .ok v
  | none => .error .objectNotFound

/-- `GetAllEntries`: the keys and data of the table, in its order. -/
def allEntries (t : SdeTable β) : List (Nat × β) :=
  t.entries.entries.map fun e => (e.1, e.2)

end SdeTable

/-- An entry of `$pre.node`. -/
structure McNode where
  replicationId : Nat
  lagIds : List Nat
  ports : List Nat
  deriving DecidableEq, Repr

/-- The PRE tables of the device. -/
structure Pre where
  mgid : SdeTable (List Nat)
  node : SdeTable McNode

/-- A sequence of SDE calls: it may fail after changing the tables. -/
abbrev PreOp := EStateM UtilError Pre

/-! ## The PRE calls of `BfSdeWrapper` -/

/-- The loop of `GetFreeMulticastNodeId`: the first of `n` node IDs from `id`
on that the table does not hold. -/
def findFreeNodeId (node : SdeTable McNode) : Nat → Nat → Option Nat
  | _, 0 => none
  | id, n + 1 => if id ∈ node.entries then findFreeNodeId node (id + 1) n else some id

/-- `GetFreeMulticastNodeId`: the search starts at the table's usage and tries
as many IDs as the table has entries. -/
def getFreeMulticastNodeId (pre : Pre) : StatusOr Nat :=
  match findFreeNodeId pre.node pre.node.usage pre.node.size with
  | some id => .ok id
  | none => .error ⟨.errTableFull, "Could not find free multicast node id."⟩

/-- `CreateMulticastNode`. -/
def createMulticastNode (mcReplicationId : Nat) (mcLagIds ports : List Nat) : PreOp Nat := do
  let pre ← get
  let mcNodeId ← liftExcept (getFreeMulticastNodeId pre)
  let node ← liftExcept (returnIfBfrtError
    (pre.node.entryAdd mcNodeId ⟨mcReplicationId, mcLagIds, ports⟩))
  set { pre with node := node }
  pure mcNodeId

/-- `GetNodesInMulticastGroup`. -/
def getNodesInMulticastGroup (pre : Pre) (groupId : Nat) : StatusOr (List Nat) :=
  returnIfBfrtError (pre.mgid.entryGet groupId)

/-- `DeleteMulticastNodes`: a failure leaves the nodes before it deleted. -/
def deleteMulticastNodes : List Nat → PreOp Unit
  | [] => pure ()
  | mcNodeId :: rest => do
      let pre ← get
      let node ← liftExcept (returnIfBfrtError (pre.node.entryDel mcNodeId))
      set { pre with node := node }
      deleteMulticastNodes rest

/-- `GetMulticastNode`. -/
def getMulticastNode (pre : Pre) (mcNodeId : Nat) : StatusOr McNode :=
  returnIfBfrtError (pre.node.entryGet mcNodeId)

/-- `WriteMulticastGroup`. The L1 XIDs it sets invalid are not read back by
the modelled code. -/
def writeMulticastGroup (groupId : Nat) (mcNodeIds : List Nat) (insert : Bool) : PreOp Unit := do
  let pre ← get
  let mgid ← liftExcept (returnIfBfrtError
    (if insert then pre.mgid.entryAdd groupId mcNodeIds else pre.mgid.entryMod groupId mcNodeIds))
  set { pre with mgid := mgid }

/-- `InsertMulticastGroup`. -/
def insertMulticastGroup (groupId : Nat) (mcNodeIds : List Nat) : PreOp Unit :=
  writeMulticastGroup groupId mcNodeIds true

/-- `ModifyMulticastGroup`. -/
def modifyMulticastGroup (groupId : Nat) (mcNodeIds : List Nat) : PreOp Unit :=
  writeMulticastGroup groupId mcNodeIds false

/-- `DeleteMulticastGroup`. -/
def deleteMulticastGroup (groupId : Nat) : PreOp Unit := do
  let pre ← get
  let mgid ← liftExcept (returnIfBfrtError (pre.mgid.entryDel groupId))
  set { pre with mgid := mgid }

/-- `GetMulticastGroups`: the group asked for, or every group for the
wildcard ID `0`, as the list of group IDs and the list of their nodes. -/
def getMulticastGroups (pre : Pre) (groupId : Nat) : StatusOr (List Nat × List (List Nat)) :=
  if groupId ≠ 0 then do
    let mcNodeIds ← returnIfBfrtError (pre.mgid.entryGet groupId)
    pure ([groupId], [mcNodeIds])
  else pure (pre.mgid.allEntries.map Prod.fst, pre.mgid.allEntries.map Prod.snd)

/-! ## `BfrtPreManager` -/

/-- `multicast_group_entry()` of a replication entry: the default entry when
the `oneof` holds another case. -/
def multicastGroupEntryOf : PacketReplicationEngineEntry → MulticastGroupEntry
  | .multicastGroupEntry group => group
  | _ => ⟨0, []⟩

/-- `clone_session_entry()` of a replication entry. -/
def cloneSessionEntryOf : PacketReplicationEngineEntry → CloneSessionEntry
  | .cloneSessionEntry session => session
  | _ => ⟨0, [], 0, 0⟩

/-- The loop of `InsertMulticastNodes` over the replicas: each instance is
checked, and the replica's egress port pushed to the instance's ports. -/
def collectInstanceToEgressPorts :
    List Replica → List (Nat × List Nat) → StatusOr (List (Nat × List Nat))
  | [], m => .ok m
  | replica :: rest, m => do
      retCheck (replica.instance ≤ uint16Max) ""
      collectInstanceToEgressPorts rest (pushBack replica.instance replica.egressPort m)

/-- The replicas of a node: one per port, with the node's replication ID as
instance. -/
def McNode.replicas (node : McNode) : List Replica :=
  node.ports.map fun port => ⟨port, node.replicationId⟩

/-- The comparator of the `std::sort` of `ReadMulticastGroupEntry`. -/
def replicaLess (a b : Replica) : Bool :=
  if a.instance < b.instance then true
  else if a.instance = b.instance ∧ a.egressPort < b.egressPort then true
  else false

section Manager

variable (tr : Translator) (hashOrder : List (Nat × List Nat) → List (Nat × List Nat))

/-- `InsertMulticastNodes`: one node per instance, in the hash map's order. -/
def insertMulticastNodes (entry : MulticastGroupEntry) : PreOp (List Nat) := do
  liftExcept (retCheck (entry.multicastGroupId ≤ kMaxMulticastGroupId) "")
  let instanceToEgressPorts ← liftExcept (collectInstanceToEgressPorts entry.replicas [])
  (hashOrder instanceToEgressPorts).mapM fun replica =>
    createMulticastNode replica.1 [] replica.2

/-- `WriteMulticastGroupEntry`. A modify creates the new nodes before it
moves the group to them and deletes the old ones. The debug dumps of the
entry in the appended messages are left out. -/
def writeMulticastGroupEntry (type : UpdateType) (entry : MulticastGroupEntry) : PreOp Unit :=
  match type with
  | .insert => do
      let mcNodeIds ← insertMulticastNodes hashOrder entry
      insertMulticastGroup entry.multicastGroupId mcNodeIds
  | .modify => do
      let pre ← get
      let currentNodeIds ← liftExcept (getNodesInMulticastGroup pre entry.multicastGroupId)
      let newNodeIds ← insertMulticastNodes hashOrder entry
      EStateM.adaptExcept (·.append "Failed to write multicast group for request .")
        (modifyMulticastGroup entry.multicastGroupId newNodeIds)
      EStateM.adaptExcept (·.append "Failed to delete multicast nodes for request .")
        (deleteMulticastNodes currentNodeIds)
  | .delete => do
      let pre ← get
      let nodeIds ← liftExcept (getNodesInMulticastGroup pre entry.multicastGroupId)
      EStateM.adaptExcept (·.append "Failed to delete multicast group for request .")
        (deleteMulticastGroup entry.multicastGroupId)
      EStateM.adaptExcept (·.append "Failed to delete multicast nodes for request .")
        (deleteMulticastNodes nodeIds)
  | .unspecified => throw ⟨.errUnimplemented, "Unsupported update type: 0"⟩

variable (writeCloneSessionEntry : UpdateType → CloneSessionEntry → PreOp Unit)

/-- `WritePreEntry`: the entry goes to the SDE with its ports translated. -/
def writePreEntry (type : UpdateType) (entry : PacketReplicationEngineEntry) : PreOp Unit := do
  let translatedEntry ← liftExcept (translatePacketReplicationEngineEntry tr entry true)
  match entry with
  | .multicastGroupEntry _ =>
      writeMulticastGroupEntry hashOrder type (multicastGroupEntryOf translatedEntry)
  | .cloneSessionEntry _ => writeCloneSessionEntry type (cloneSessionEntryOf translatedEntry)
  | .notSet => throw ⟨.errUnimplemented, "Unsupported PRE entry: "⟩

/-- The entity `ReadMulticastGroupEntry` builds for one group: the replicas of
its nodes, sorted by instance and port, then translated back. -/
def readGroup (pre : Pre) (groupId : Nat) (mcNodeIds : List Nat) : StatusOr Entity := do
  let nodes ← mcNodeIds.mapM (getMulticastNode pre)
  let result : MulticastGroupEntry :=
    ⟨groupId, stdSort replicaLess (nodes.flatMap McNode.replicas)⟩
  let translated ← translatePacketReplicationEngineEntry tr (.multicastGroupEntry result) false
  pure (.packetReplicationEngineEntry translated)

variable (writer : ReadResponse → Bool)

/-- `ReadMulticastGroupEntry`: the response handed to the writer, one entity
per group. -/
def readMulticastGroupEntry (pre : Pre) (entry : MulticastGroupEntry) :
    StatusOr ReadResponse := do
  let groups ← getMulticastGroups pre entry.multicastGroupId
  retCheck (groups.1.length == groups.2.length) ""
  let entities ← (groups.1.zip groups.2).mapM fun group => readGroup tr pre group.1 group.2
  let resp : ReadResponse := ⟨entities⟩
  if writer resp then .ok resp else .error ⟨.errInternal, "Write to stream for failed."⟩

variable (readCloneSessionEntry : Pre → CloneSessionEntry → StatusOr ReadResponse)

/-- `ReadPreEntry`: the request's ports are translated first. -/
def readPreEntry (pre : Pre) (entry : PacketReplicationEngineEntry) : StatusOr ReadResponse := do
  let translatedEntry ← translatePacketReplicationEngineEntry tr entry true
  match entry with
  | .multicastGroupEntry _ =>
      readMulticastGroupEntry tr writer pre (multicastGroupEntryOf translatedEntry)
  | .cloneSessionEntry _ => readCloneSessionEntry pre (cloneSessionEntryOf translatedEntry)
  | .notSet => .error ⟨.errUnimplemented, "Unsupported PRE entry: "⟩

end Manager

/-! ## The table calls -/

namespace SdeTable

variable {β : Type} {t : SdeTable β} {k : Nat} {v : β}

theorem usage_insert_of_notMem (hk : k ∉ t.entries) :
    ({ t with entries := t.entries.insert k v } : SdeTable β).usage = t.usage + 1 := by
  simp only [usage, AList.keys_insert, List.length_cons,
    List.erase_of_not_mem (AList.mem_keys.not.mp hk)]

theorem entryAdd_of_notMem (hk : k ∉ t.entries) (hroom : t.usage < t.size) :
    t.entryAdd k v = .ok { t with entries := t.entries.insert k v } := by
  rw [entryAdd, if_neg hk, if_neg (Nat.not_le.mpr hroom)]

theorem entryMod_of_mem (hk : k ∈ t.entries) :
    t.entryMod k v = .ok { t with entries := t.entries.insert k v } :=
  if_pos hk

theorem entryDel_of_mem (hk : k ∈ t.entries) :
    t.entryDel k = .ok { t with entries := t.entries.erase k } :=
  if_pos hk

theorem entryGet_of_lookup (h : t.entries.lookup k = some v) : t.entryGet k = .ok v := by
  rw [entryGet, h]

end SdeTable

/-! ## Creating and deleting nodes -/

theorem findFreeNodeId_notMem {node : SdeTable McNode} :
    ∀ {id n id' : Nat}, findFreeNodeId node id n = some id' → id' ∉ node.entries
  | _, 0, _, h => by cases h
  | id, n + 1, id', h => by
      rw [findFreeNodeId] at h
      split at h
      · exact findFreeNodeId_notMem h
      · next hid =>
          cases h
          exact hid

theorem findFreeNodeId_isSome {node : SdeTable McNode} :
    ∀ {id n : Nat}, (∃ k ∈ List.range' id n, k ∉ node.entries) →
      (findFreeNodeId node id n).isSome
  | _, 0, ⟨_, hk, _⟩ => by cases hk
  | id, n + 1, ⟨k, hk, hfree⟩ => by
      rw [findFreeNodeId]
      split
      · next hid =>
          -- `id` is taken, so the free key is further on
          rw [List.range'_succ, List.mem_cons] at hk
          rcases hk with rfl | hk
          · exact absurd hid hfree
          · exact findFreeNodeId_isSome ⟨k, hk, hfree⟩
      · rfl

/-- A node table with room has a free node ID. -/
theorem getFreeMulticastNodeId_eq_ok {pre : Pre} (hroom : pre.node.usage < pre.node.size) :
    ∃ id, getFreeMulticastNodeId pre = .ok id ∧ id ∉ pre.node.entries := by
  obtain ⟨k, hk, hfree⟩ := exists_mem_range'_not_mem hroom pre.node.usage
  have hsome := @findFreeNodeId_isSome pre.node _ _ ⟨k, hk, AList.mem_keys.not.mpr hfree⟩
  obtain ⟨id, hid⟩ := Option.isSome_iff_exists.mp hsome
  refine ⟨id, ?_, findFreeNodeId_notMem hid⟩
  rw [getFreeMulticastNodeId, hid]

theorem wp_createMulticastNode {pre : Pre} (hroom : pre.node.usage < pre.node.size)
    (mcReplicationId : Nat) (mcLagIds ports : List Nat) :
    wp (createMulticastNode mcReplicationId mcLagIds ports)
      (fun id pre' => id ∉ pre.node.entries ∧ pre' = { pre with node :=
        { pre.node with entries := pre.node.entries.insert id ⟨mcReplicationId, mcLagIds, ports⟩ } })
      (fun _ => False) pre := by
  obtain ⟨id, hid, hfree⟩ := getFreeMulticastNodeId_eq_ok hroom
  simp only [createMulticastNode, wp_bind, wp_get, wp_liftExcept, hid, returnIfBfrtError,
    SdeTable.entryAdd_of_notMem hfree hroom, Except.mapError, wp_set, wp_pure]
  exact ⟨hfree, trivial⟩

/-- What creating nodes leaves in the node table: fresh, distinct IDs, each
holding its node, with the size and every other entry as they were. -/
structure NodesAdded (t t' : SdeTable McNode) (ids : List Nat) (nodes : List McNode) : Prop where
  size : t'.size = t.size
  usage : t'.usage = t.usage + ids.length
  fresh : ∀ id ∈ ids, id ∉ t.entries
  nodup : ids.Nodup
  lookup_added : List.Forall₂ (fun id node => t'.entries.lookup id = some node) ids nodes
  lookup_other : ∀ id ∉ ids, t'.entries.lookup id = t.entries.lookup id

theorem NodesAdded.nil (t : SdeTable McNode) : NodesAdded t t [] [] :=
  ⟨rfl, rfl, by simp, List.nodup_nil, .nil, fun _ _ => rfl⟩

/-- A node added at a fresh ID, before more nodes. -/
theorem NodesAdded.insert_cons {t t' : SdeTable McNode} {id : Nat} {node : McNode}
    {ids : List Nat} {nodes : List McNode} (hid : id ∉ t.entries)
    (h : NodesAdded { t with entries := t.entries.insert id node } t' ids nodes) :
    NodesAdded t t' (id :: ids) (node :: nodes) where
  size := h.size
  usage := by
    rw [h.usage, SdeTable.usage_insert_of_notMem hid, List.length_cons]
    omega
  fresh := by
    intro id' hid'
    rcases List.mem_cons.mp hid' with rfl | hmem
    · exact hid
    · exact fun hin => h.fresh id' hmem (AList.mem_insert _ |>.mpr (Or.inr hin))
  nodup := by
    have hnot : id ∉ ids := fun hin => h.fresh id hin (AList.mem_insert _ |>.mpr (Or.inl rfl))
    exact List.nodup_cons.mpr ⟨hnot, h.nodup⟩
  lookup_added := by
    have hnot : id ∉ ids := fun hin => h.fresh id hin (AList.mem_insert _ |>.mpr (Or.inl rfl))
    refine List.Forall₂.cons ?_ h.lookup_added
    rw [h.lookup_other id hnot]
    exact AList.lookup_insert _
  lookup_other := by
    intro id' hid'
    rw [List.mem_cons, not_or] at hid'
    rw [h.lookup_other id' hid'.2]
    exact AList.lookup_insert_ne hid'.1

/-- The loop of `InsertMulticastNodes` over the instances creates one node per
instance when the table has room for all of them. -/
theorem wp_mapM_createMulticastNode :
    ∀ (instances : List (Nat × List Nat)) (pre : Pre),
      pre.node.usage + instances.length ≤ pre.node.size →
      wp (instances.mapM fun replica => createMulticastNode replica.1 [] replica.2)
        (fun ids pre' => pre'.mgid = pre.mgid ∧
          NodesAdded pre.node pre'.node ids (instances.map fun replica => ⟨replica.1, [], replica.2⟩))
        (fun _ => False) pre
  | [], pre, _ => by
      simp only [List.mapM_nil, wp_pure, List.map_nil]
      exact ⟨trivial, NodesAdded.nil pre.node⟩
  | replica :: instances, pre, hroom => by
      rw [List.length_cons] at hroom
      rw [List.mapM_cons, wp_bind]
      apply wp_mono (wp_createMulticastNode (by omega) replica.1 [] replica.2) _ (fun _ h => h)
      rintro id pre1 ⟨hfresh, rfl⟩
      rw [wp_bind]
      have hroom' : pre.node.usage + 1 + instances.length ≤ pre.node.size := by omega
      rw [← SdeTable.usage_insert_of_notMem hfresh] at hroom'
      apply wp_mono (wp_mapM_createMulticastNode instances _ hroom') _ (fun _ h => h)
      rintro ids pre2 ⟨hmgid, hadded⟩
      rw [wp_pure, List.map_cons]
      exact ⟨hmgid, hadded.insert_cons hfresh⟩

theorem wp_deleteMulticastNodes :
    ∀ (ids : List Nat) (pre : Pre), ids.Nodup → (∀ id ∈ ids, id ∈ pre.node.entries) →
      wp (deleteMulticastNodes ids)
        (fun _ pre' => pre'.mgid = pre.mgid ∧ (∀ id ∈ ids, id ∉ pre'.node.entries) ∧
          ∀ id ∉ ids, pre'.node.entries.lookup id = pre.node.entries.lookup id)
        (fun _ => False) pre
  | [], pre, _, _ => by simp [deleteMulticastNodes]
  | id :: ids, pre, hnodup, hmem => by
      rw [List.nodup_cons] at hnodup
      have hid := hmem id List.mem_cons_self
      simp only [deleteMulticastNodes, wp_bind, wp_get, wp_liftExcept, returnIfBfrtError,
        SdeTable.entryDel_of_mem hid, Except.mapError, wp_set]
      have hrest : ∀ id' ∈ ids, id' ∈ pre.node.entries.erase id := fun id' hid' =>
        AList.mem_erase.mpr ⟨fun h => hnodup.1 (h ▸ hid'), hmem id' (List.mem_cons_of_mem _ hid')⟩
      apply wp_mono (wp_deleteMulticastNodes ids _ hnodup.2 hrest) _ (fun _ h => h)
      rintro _ pre' ⟨hmgid, hdeleted, hother⟩
      refine ⟨hmgid, ?_, ?_⟩
      · intro id' hid'
        rcases List.mem_cons.mp hid' with rfl | hid'
        · -- the first node was erased, and the later deletions leave it alone
          have hnone := hother id' hnodup.1
          rw [AList.lookup_erase] at hnone
          exact AList.lookup_eq_none.mp hnone
        · exact hdeleted id' hid'
      · intro id' hid'
        rw [List.mem_cons, not_or] at hid'
        rw [hother id' hid'.2]
        exact AList.lookup_erase_ne hid'.1

/-! ## Writing a group -/

theorem collectInstanceToEgressPorts_eq_ok :
    ∀ {replicas : List Replica} (m : List (Nat × List Nat)),
      (∀ r ∈ replicas, r.instance ≤ uint16Max) →
      collectInstanceToEgressPorts replicas m =
        .ok (replicas.foldl (fun m r => pushBack r.instance r.egressPort m) m)
  | [], _, _ => rfl
  | replica :: rest, m, h => by
      have hcheck : retCheck (decide (replica.instance ≤ uint16Max)) "" = .ok () :=
        retCheck_eq_ok.mpr (decide_eq_true (h replica List.mem_cons_self))
      rw [collectInstanceToEgressPorts, hcheck, List.foldl_cons]
      exact collectInstanceToEgressPorts_eq_ok _ (fun r hr => h r (List.mem_cons_of_mem _ hr))

section Specs

variable (hashOrder : List (Nat × List Nat) → List (Nat × List Nat))

/-- The nodes `InsertMulticastNodes` creates for `replicas`, in the hash map's
order: one per instance, with the egress ports of its replicas. -/
def instanceNodes (replicas : List Replica) : List McNode :=
  (hashOrder (groupBy Replica.instance Replica.egressPort replicas)).map fun replica =>
    ⟨replica.1, [], replica.2⟩

/-- The nodes of an entry hold its replicas, whatever the hash map's order. -/
theorem perm_replicas_instanceNodes (hperm : ∀ l, (hashOrder l).Perm l) (replicas : List Replica) :
    ((instanceNodes hashOrder replicas).flatMap McNode.replicas).Perm replicas := by
  rw [instanceNodes, List.flatMap_map]
  exact flatMap_groupBy_perm Replica.instance Replica.egressPort (fun k v => ⟨v, k⟩)
    (fun _ => rfl) replicas (hperm _)

variable {hashOrder} (hperm : ∀ l, (hashOrder l).Perm l) {pre : Pre} {entry : MulticastGroupEntry}
  (hgroup : entry.multicastGroupId ≤ kMaxMulticastGroupId)
  (hinstances : ∀ r ∈ entry.replicas, r.instance ≤ uint16Max)
  (hroom : pre.node.usage + (entry.replicas.map Replica.instance).dedup.length ≤ pre.node.size)
include hperm hgroup hinstances hroom

theorem wp_insertMulticastNodes :
    wp (insertMulticastNodes hashOrder entry)
      (fun ids pre' => pre'.mgid = pre.mgid ∧
        NodesAdded pre.node pre'.node ids (instanceNodes hashOrder entry.replicas))
      (fun _ => False) pre := by
  have hcheck : retCheck (decide (entry.multicastGroupId ≤ kMaxMulticastGroupId)) "" = .ok () :=
    retCheck_eq_ok.mpr (decide_eq_true hgroup)
  simp only [insertMulticastNodes, wp_bind, wp_liftExcept, hcheck,
    collectInstanceToEgressPorts_eq_ok [] hinstances]
  apply wp_mapM_createMulticastNode
  rw [(hperm _).length_eq]
  exact (length_groupBy Replica.instance Replica.egressPort entry.replicas).symm ▸ hroom

theorem wp_writeMulticastGroupEntry_insert
    (hfree : entry.multicastGroupId ∉ pre.mgid.entries) (hmgidRoom : pre.mgid.usage < pre.mgid.size) :
    wp (writeMulticastGroupEntry hashOrder .insert entry)
      (fun _ pre' => ∃ ids, pre'.mgid =
          { pre.mgid with entries := pre.mgid.entries.insert entry.multicastGroupId ids } ∧
        NodesAdded pre.node pre'.node ids (instanceNodes hashOrder entry.replicas))
      (fun _ => False) pre := by
  simp only [writeMulticastGroupEntry, wp_bind]
  apply wp_mono (wp_insertMulticastNodes hperm hgroup hinstances hroom) _ (fun _ h => h)
  rintro ids pre1 ⟨hmgid, hadded⟩
  rw [← hmgid] at hfree hmgidRoom
  simp only [insertMulticastGroup, writeMulticastGroup, wp_bind, wp_get, wp_liftExcept, if_true,
    returnIfBfrtError, SdeTable.entryAdd_of_notMem hfree hmgidRoom, Except.mapError, wp_set]
  exact ⟨ids, by rw [hmgid], hadded⟩

theorem wp_writeMulticastGroupEntry_modify {currentNodeIds : List Nat}
    (hcurrent : pre.mgid.entries.lookup entry.multicastGroupId = some currentNodeIds)
    (hnodup : currentNodeIds.Nodup) (hnodes : ∀ id ∈ currentNodeIds, id ∈ pre.node.entries) :
    wp (writeMulticastGroupEntry hashOrder .modify entry)
      (fun _ pre' => ∃ ids, pre'.mgid =
          { pre.mgid with entries := pre.mgid.entries.insert entry.multicastGroupId ids } ∧
        List.Forall₂ (fun id node => pre'.node.entries.lookup id = some node) ids
          (instanceNodes hashOrder entry.replicas) ∧
        ∀ id ∈ currentNodeIds, id ∉ pre'.node.entries)
      (fun _ => False) pre := by
  have hget : getNodesInMulticastGroup pre entry.multicastGroupId = .ok currentNodeIds := by
    rw [getNodesInMulticastGroup, returnIfBfrtError, SdeTable.entryGet_of_lookup hcurrent]
    rfl
  simp only [writeMulticastGroupEntry, wp_bind, wp_get, wp_liftExcept, hget]
  apply wp_mono (wp_insertMulticastNodes hperm hgroup hinstances hroom) _ (fun _ h => h)
  rintro ids pre1 ⟨hmgid, hadded⟩
  have hmember : entry.multicastGroupId ∈ pre1.mgid.entries := by
    rw [hmgid, ← AList.lookup_isSome, hcurrent]
    rfl
  simp only [wp_adaptExcept, modifyMulticastGroup, writeMulticastGroup, wp_bind, wp_get,
    wp_liftExcept, Bool.false_eq_true, if_false, returnIfBfrtError,
    SdeTable.entryMod_of_mem hmember, Except.mapError, wp_set]
  -- the new nodes are fresh, so none of them is a current node
  have hcurrentOld : ∀ id ∈ currentNodeIds, id ∉ ids := fun id hid hnew =>
    hadded.fresh id hnew (hnodes id hid)
  have hcurrentKept : ∀ id ∈ currentNodeIds, id ∈ pre1.node.entries := by
    intro id hid
    rw [← AList.lookup_isSome, hadded.lookup_other id (hcurrentOld id hid), AList.lookup_isSome]
    exact hnodes id hid
  refine wp_mono (wp_deleteMulticastNodes currentNodeIds _ hnodup ?_) ?_ (fun _ h => h)
  · exact hcurrentKept
  rintro _ pre3 ⟨hmgid3, hdeleted, hother⟩
  refine ⟨ids, by rw [hmgid3, hmgid], ?_, hdeleted⟩
  have hkept : List.Forall₂ (fun id node => id ∉ currentNodeIds ∧
      pre1.node.entries.lookup id = some node) ids (instanceNodes hashOrder entry.replicas) :=
    (List.forall₂_and_left ids _).mpr
      ⟨fun id hid hcur => hcurrentOld id hcur hid, hadded.lookup_added⟩
  refine hkept.imp ?_
  rintro id node ⟨hnot, hlookup⟩
  rw [hother id hnot]
  exact hlookup

end Specs

/-! ## Reading a group -/

/-- The replicas of a group's entry as `TranslatePacketReplicationEngineEntry`
translates them. -/
def translateReplicas (tr : Translator) (replicas : List Replica) (toSdk : Bool) :
    StatusOr (List Replica) :=
  if tr.pipelineRequireTranslation then replicas.mapM (translateReplica tr · toSdk)
  else .ok replicas

theorem translatePacketReplicationEngineEntry_multicast (tr : Translator)
    (group : MulticastGroupEntry) (toSdk : Bool) :
    translatePacketReplicationEngineEntry tr (.multicastGroupEntry group) toSdk =
      (translateReplicas tr group.replicas toSdk).map fun replicas =>
        .multicastGroupEntry ⟨group.multicastGroupId, replicas⟩ := by
  unfold translatePacketReplicationEngineEntry translateReplicas
  split
  · dsimp only
    cases group.replicas.mapM (translateReplica tr · toSdk) <;> rfl
  · rfl

theorem instance_translateReplica {tr : Translator} {replica replica' : Replica} {toSdk : Bool}
    (h : translateReplica tr replica toSdk = .ok replica') : replica'.instance = replica.instance := by
  unfold translateReplica at h
  split at h <;> split at h <;> cases h <;> rfl

/-- Translation keeps the instances of the replicas. -/
theorem map_instance_translateReplicas {tr : Translator} {replicas replicas' : List Replica}
    {toSdk : Bool} (h : translateReplicas tr replicas toSdk = .ok replicas') :
    replicas'.map Replica.instance = replicas.map Replica.instance := by
  unfold translateReplicas at h
  split at h
  · have hall := mapM_eq_ok_iff.mp h
    clear h
    induction hall with
    | nil => rfl
    | cons hreplica _ ih => rw [List.map_cons, List.map_cons, instance_translateReplica hreplica, ih]
  · cases h
    rfl

/-- The ports of the replicas go to the SDK when each has an SDK port. -/
theorem exists_translateReplicas_toSdk {tr : Translator} {replicas : List Replica}
    (hmapped : tr.pipelineRequireTranslation = true →
      ∀ r ∈ replicas, (tr.singletonPortToSdkPort r.egressPort).isSome) :
    ∃ sdkReplicas, translateReplicas tr replicas true = .ok sdkReplicas := by
  unfold translateReplicas
  split
  · next hrequire =>
      apply exists_mapM_eq_ok
      intro r hr
      obtain ⟨sdkPort, hsdkPort⟩ := Option.isSome_iff_exists.mp (hmapped hrequire r hr)
      exact ⟨{ r with egressPort := sdkPort }, by simp [translateReplica, hsdkPort]⟩
  · exact ⟨replicas, rfl⟩

/-- Replicas sent to the SDK, permuted there and read back come back as a
permutation of themselves, which goes to the SDK as the permuted list. -/
theorem translateReplicas_perm_roundtrip {tr : Translator} (hready : PortMapsReady tr)
    {replicas sdkReplicas sorted : List Replica}
    (hports : tr.pipelineRequireTranslation = true →
      ∀ r ∈ replicas, r.egressPort ≠ kSdnUnspecifiedPortId)
    (h : translateReplicas tr replicas true = .ok sdkReplicas) (hperm : sorted.Perm sdkReplicas) :
    ∃ back, translateReplicas tr sorted false = .ok back ∧ back.Perm replicas ∧
      translateReplicas tr back true = .ok sorted := by
  unfold translateReplicas at h ⊢
  by_cases hrequire : tr.pipelineRequireTranslation = true
  · simp only [hrequire, if_true] at h ⊢
    exact mapM_perm_roundtrip (fun r hr _ hsdk =>
      translateReplica_roundtrip hready (hports hrequire r hr) hsdk) h hperm
  · simp only [hrequire, if_false, Bool.false_eq_true, Except.ok.injEq] at h ⊢
    subst h
    exact ⟨sorted, rfl, hperm, rfl⟩

variable (tr : Translator)

theorem readMulticastGroupEntry_of_lookup {pre : Pre} {entry : MulticastGroupEntry}
    {ids : List Nat} {nodes : List McNode} (hg : entry.multicastGroupId ≠ 0)
    (hgroup : pre.mgid.entries.lookup entry.multicastGroupId = some ids)
    (hnodes : List.Forall₂ (fun id node => pre.node.entries.lookup id = some node) ids nodes) :
    readMulticastGroupEntry tr (fun _ => true) pre entry =
      (translateReplicas tr (stdSort replicaLess (nodes.flatMap McNode.replicas)) false).map
        fun replicas => ⟨[.packetReplicationEngineEntry
          (.multicastGroupEntry ⟨entry.multicastGroupId, replicas⟩)]⟩ := by
  have hgroups : getMulticastGroups pre entry.multicastGroupId =
      .ok ([entry.multicastGroupId], [ids]) := by
    rw [getMulticastGroups, if_pos hg, returnIfBfrtError, SdeTable.entryGet_of_lookup hgroup]
    rfl
  have hnodes' : ids.mapM (getMulticastNode pre) = .ok nodes := by
    refine mapM_eq_ok_iff.mpr (hnodes.imp fun id node hlookup => ?_)
    rw [getMulticastNode, returnIfBfrtError, SdeTable.entryGet_of_lookup hlookup]
    rfl
  simp only [readMulticastGroupEntry, hgroups, readGroup, translatePacketReplicationEngineEntry_multicast,
    retCheck, bind, Except.bind, List.zip_cons_cons, List.zip_nil_left, List.mapM_cons, List.mapM_nil,
    List.length_singleton, beq_self_eq_true, if_true, hnodes', pure, Except.pure]
  cases translateReplicas tr (stdSort replicaLess (nodes.flatMap McNode.replicas)) false <;> rfl

/-! ## The round trip -/

theorem replicaLess_iff (a b : Replica) :
    replicaLess a b = true ↔
      a.instance < b.instance ∨ a.instance = b.instance ∧ a.egressPort < b.egressPort := by
  unfold replicaLess
  split
  · next h => exact iff_of_true rfl (Or.inl h)
  · split
    · next h h' => exact iff_of_true rfl (Or.inr h')
    · next h h' => exact iff_of_false Bool.false_ne_true (by tauto)

/-- The comparator of the sort orders replicas by instance, then by port. -/
instance : IsStrictTotalOrder Replica fun a b => replicaLess a b = true where
  trichotomous a b hab hba := by
    obtain ⟨port, inst⟩ := a
    obtain ⟨port', inst'⟩ := b
    rw [replicaLess_iff] at hab hba
    dsimp only at hab hba
    rw [Replica.mk.injEq]
    omega
  irrefl a := by
    rw [replicaLess_iff]
    omega
  trans a b c hab hbc := by
    rw [replicaLess_iff] at hab hbc ⊢
    omega

theorem length_instanceNodes {hashOrder : List (Nat × List Nat) → List (Nat × List Nat)}
    (hperm : ∀ l, (hashOrder l).Perm l) (replicas : List Replica) :
    (instanceNodes hashOrder replicas).length = (replicas.map Replica.instance).dedup.length := by
  rw [instanceNodes, List.length_map, (hperm _).length_eq, length_groupBy]

section RoundTrip

variable (tr : Translator) (readCloneSessionEntry : Pre → CloneSessionEntry → StatusOr ReadResponse)

/-- What a read of the group of `e` returns once `e` is written: one entity,
whose replicas are those of `e` as a multiset, sorted by instance and by the
egress port the SDK sees, and `e`'s own replicas sorted when no port is
translated. -/
def ReadsBack (pre : Pre) (e : MulticastGroupEntry) : Prop :=
  ∃ replicas : List Replica,
    readPreEntry tr (fun _ => true) readCloneSessionEntry pre
        (.multicastGroupEntry ⟨e.multicastGroupId, []⟩) =
      .ok ⟨[.packetReplicationEngineEntry (.multicastGroupEntry ⟨e.multicastGroupId, replicas⟩)]⟩ ∧
    replicas.Perm e.replicas ∧
    (∃ sdkReplicas, translatePacketReplicationEngineEntry tr
        (.multicastGroupEntry ⟨e.multicastGroupId, replicas⟩) true =
        .ok (.multicastGroupEntry ⟨e.multicastGroupId, sdkReplicas⟩) ∧
      sdkReplicas.Pairwise fun a b => ¬replicaLess b a) ∧
    (tr.pipelineRequireTranslation = false → replicas = stdSort replicaLess e.replicas)

variable {tr} {hashOrder : List (Nat × List Nat) → List (Nat × List Nat)}

/-- A group whose nodes are those created for the SDK form of `e` reads back
as `e`. -/
theorem readsBack_of_nodes (hready : PortMapsReady tr) (hperm : ∀ l, (hashOrder l).Perm l)
    {pre : Pre} {e : MulticastGroupEntry} {sdkReplicas : List Replica} {ids : List Nat}
    (hports : tr.pipelineRequireTranslation = true →
      ∀ r ∈ e.replicas, r.egressPort ≠ kSdnUnspecifiedPortId)
    (hsdk : translateReplicas tr e.replicas true = .ok sdkReplicas)
    (hg : e.multicastGroupId ≠ 0) (hgroup : pre.mgid.entries.lookup e.multicastGroupId = some ids)
    (hnodes : List.Forall₂ (fun id node => pre.node.entries.lookup id = some node) ids
      (instanceNodes hashOrder sdkReplicas)) :
    ReadsBack tr readCloneSessionEntry pre e := by
  have hflat := perm_replicas_instanceNodes hashOrder hperm sdkReplicas
  obtain ⟨back, hback, hperm', htoSdk⟩ :=
    translateReplicas_perm_roundtrip hready hports hsdk ((stdSort_perm replicaLess _).trans hflat)
  have hrequest : translateReplicas tr [] true = .ok [] := by
    unfold translateReplicas
    split <;> rfl
  refine ⟨back, ?_, hperm', ⟨_, ?_, pairwise_stdSort replicaLess
    ((instanceNodes hashOrder sdkReplicas).flatMap McNode.replicas)⟩, ?_⟩
  · have hread : readMulticastGroupEntry tr (fun _ => true) pre ⟨e.multicastGroupId, []⟩ =
        _ := readMulticastGroupEntry_of_lookup tr hg hgroup hnodes
    simp only [readPreEntry, translatePacketReplicationEngineEntry_multicast, hrequest]
    show readMulticastGroupEntry tr (fun _ => true) pre ⟨e.multicastGroupId, []⟩ = _
    rw [hread, hback]
    rfl
  · rw [translatePacketReplicationEngineEntry_multicast, htoSdk]
    rfl
  · -- without translation the SDK sees the ports of `e`, so the sort is of `e`'s replicas
    intro hnone
    unfold translateReplicas at hsdk hback
    simp only [hnone, Bool.false_eq_true, if_false, Except.ok.injEq] at hsdk hback
    subst hsdk hback
    exact eq_stdSort_of_perm replicaLess ((stdSort_perm replicaLess _).trans hflat)
      (pairwise_stdSort replicaLess _)

variable (hashOrder) (writeCloneSessionEntry : UpdateType → CloneSessionEntry → PreOp Unit)

theorem writePreEntry_multicast (type : UpdateType) {e : MulticastGroupEntry}
    {sdkReplicas : List Replica} (hsdk : translateReplicas tr e.replicas true = .ok sdkReplicas) :
    writePreEntry tr hashOrder writeCloneSessionEntry type (.multicastGroupEntry e) =
      writeMulticastGroupEntry hashOrder type ⟨e.multicastGroupId, sdkReplicas⟩ := by
  simp only [writePreEntry, translatePacketReplicationEngineEntry_multicast, hsdk]
  rfl

end RoundTrip

theorem instances_le_of_translateReplicas {tr : Translator} {replicas sdkReplicas : List Replica}
    (hsdk : translateReplicas tr replicas true = .ok sdkReplicas)
    (hinstances : ∀ r ∈ replicas, r.instance ≤ uint16Max) :
    ∀ r ∈ sdkReplicas, r.instance ≤ uint16Max := by
  intro r hr
  have hmem : r.instance ∈ replicas.map Replica.instance :=
    map_instance_translateReplicas hsdk ▸ List.mem_map_of_mem hr
  obtain ⟨r₀, hr₀, heq⟩ := List.mem_map.mp hmem
  exact heq ▸ hinstances r₀ hr₀

theorem mem_of_forall₂_lookup {t : SdeTable McNode} {ids : List Nat} {nodes : List McNode}
    (h : List.Forall₂ (fun id node => t.entries.lookup id = some node) ids nodes) :
    ∀ id ∈ ids, id ∈ t.entries := by
  intro id hid
  obtain ⟨node, _, hnode⟩ := exists_of_forall₂_of_mem h.flip hid
  rw [← AList.lookup_isSome]
  exact Option.isSome_iff_exists.mpr ⟨node, hnode⟩

theorem multicast_group_roundtrip {tr : Translator} (hready : PortMapsReady tr)
    {hashOrder : List (Nat × List Nat) → List (Nat × List Nat)} (hperm : ∀ l, (hashOrder l).Perm l)
    (writeCloneSessionEntry : UpdateType → CloneSessionEntry → PreOp Unit)
    (readCloneSessionEntry : Pre → CloneSessionEntry → StatusOr ReadResponse)
    {pre : Pre} {e e' : MulticastGroupEntry} (hsame : e'.multicastGroupId = e.multicastGroupId)
    (hgroup : e.multicastGroupId ≤ kMaxMulticastGroupId) (hnonzero : e.multicastGroupId ≠ 0)
    (hinstances : ∀ r ∈ e.replicas, r.instance ≤ uint16Max)
    (hinstances' : ∀ r ∈ e'.replicas, r.instance ≤ uint16Max)
    (hports : tr.pipelineRequireTranslation = true → ∀ r ∈ e.replicas,
      r.egressPort ≠ kSdnUnspecifiedPortId ∧ (tr.singletonPortToSdkPort r.egressPort).isSome)
    (hports' : tr.pipelineRequireTranslation = true → ∀ r ∈ e'.replicas,
      r.egressPort ≠ kSdnUnspecifiedPortId ∧ (tr.singletonPortToSdkPort r.egressPort).isSome)
    (hfree : e.multicastGroupId ∉ pre.mgid.entries) (hmgidRoom : pre.mgid.usage < pre.mgid.size)
    (hroom : pre.node.usage + (e.replicas.map Replica.instance).dedup.length +
      (e'.replicas.map Replica.instance).dedup.length ≤ pre.node.size) :
    ∃ pre₁, (writePreEntry tr hashOrder writeCloneSessionEntry .insert
        (.multicastGroupEntry e)).run pre = .ok () pre₁ ∧
      ReadsBack tr readCloneSessionEntry pre₁ e ∧
      ∃ pre₂, (writePreEntry tr hashOrder writeCloneSessionEntry .modify
          (.multicastGroupEntry e')).run pre₁ = .ok () pre₂ ∧
        ReadsBack tr readCloneSessionEntry pre₂ e' ∧
        ∀ ids, pre₁.mgid.entries.lookup e.multicastGroupId = some ids →
          ∀ id ∈ ids, id ∉ pre₂.node.entries := by
  -- both entries go to the SDK with their ports translated and their instances kept
  obtain ⟨sdk, hsdk⟩ := exists_translateReplicas_toSdk fun h r hr => (hports h r hr).2
  obtain ⟨sdk', hsdk'⟩ := exists_translateReplicas_toSdk fun h r hr => (hports' h r hr).2
  have hcount : (sdk.map Replica.instance).dedup.length =
      (e.replicas.map Replica.instance).dedup.length := by
    rw [map_instance_translateReplicas hsdk]
  have hcount' : (sdk'.map Replica.instance).dedup.length =
      (e'.replicas.map Replica.instance).dedup.length := by
    rw [map_instance_translateReplicas hsdk']
  -- the insert
  have hinsert : wp (writeMulticastGroupEntry hashOrder .insert ⟨e.multicastGroupId, sdk⟩) _ _ pre :=
    wp_writeMulticastGroupEntry_insert hperm hgroup
      (instances_le_of_translateReplicas hsdk hinstances) (by dsimp only; omega) hfree hmgidRoom
  obtain ⟨_, pre₁, hrun₁, ids, hmgid₁, hadded⟩ := wp_fail_false_iff.mp hinsert
  have hlookup₁ : pre₁.mgid.entries.lookup e.multicastGroupId = some ids := by
    rw [hmgid₁]
    exact AList.lookup_insert _
  refine ⟨pre₁, ?_, readsBack_of_nodes readCloneSessionEntry hready hperm
    (fun h r hr => (hports h r hr).1) hsdk hnonzero hlookup₁ hadded.lookup_added, ?_⟩
  · rw [writePreEntry_multicast hashOrder writeCloneSessionEntry .insert hsdk]
    exact hrun₁
  -- the modify, over the nodes the insert created
  have hused : pre₁.node.usage = pre.node.usage + (e.replicas.map Replica.instance).dedup.length := by
    rw [hadded.usage, hadded.lookup_added.length_eq, length_instanceNodes hperm, hcount]
  have hmodify : wp (writeMulticastGroupEntry hashOrder .modify ⟨e'.multicastGroupId, sdk'⟩)
      _ _ pre₁ :=
    wp_writeMulticastGroupEntry_modify hperm (hsame ▸ hgroup)
      (instances_le_of_translateReplicas hsdk' hinstances')
      (by dsimp only; rw [hcount', hused, hadded.size]; omega) (hsame ▸ hlookup₁) hadded.nodup
      (mem_of_forall₂_lookup hadded.lookup_added)
  obtain ⟨_, pre₂, hrun₂, ids', hmgid₂, hnodes₂, hdeleted⟩ := wp_fail_false_iff.mp hmodify
  have hlookup₂ : pre₂.mgid.entries.lookup e'.multicastGroupId = some ids' := by
    rw [hmgid₂]
    exact AList.lookup_insert _
  refine ⟨pre₂, ?_, readsBack_of_nodes readCloneSessionEntry hready hperm
    (fun h r hr => (hports' h r hr).1) hsdk' (hsame ▸ hnonzero) hlookup₂ hnodes₂, ?_⟩
  · rw [writePreEntry_multicast hashOrder writeCloneSessionEntry .modify hsdk']
    exact hrun₂
  · intro ids₀ hids₀
    rw [hlookup₁, Option.some.injEq] at hids₀
    subst hids₀
    exact hdeleted

/-- Empty PRE tables of four entries each. -/
def emptyTables : Pre := ⟨⟨∅, 4⟩, ⟨∅, 4⟩⟩

theorem portMapsReady_create (translationEnabled : Bool) :
    PortMapsReady (Translator.create translationEnabled) where
  inverse _ _ _ h := by cases h
  sdkPort_lt _ _ h := by cases h

/-- Group 1 over three replicas of two instances, then modified to one
replica, with no port translated. -/
theorem multicast_group_roundtrip_twoInstances :
    ∃ pre₁, (writePreEntry (Translator.create true) id (fun _ _ => pure ()) .insert
        (.multicastGroupEntry ⟨1, [⟨2, 1⟩, ⟨1, 1⟩, ⟨3, 0⟩]⟩)).run emptyTables = .ok () pre₁ ∧
      ReadsBack (Translator.create true) (fun _ _ => .ok ⟨[]⟩) pre₁ ⟨1, [⟨2, 1⟩, ⟨1, 1⟩, ⟨3, 0⟩]⟩ ∧
      ∃ pre₂, (writePreEntry (Translator.create true) id (fun _ _ => pure ()) .modify
          (.multicastGroupEntry ⟨1, [⟨5, 0⟩]⟩)).run pre₁ = .ok () pre₂ ∧
        ReadsBack (Translator.create true) (fun _ _ => .ok ⟨[]⟩) pre₂ ⟨1, [⟨5, 0⟩]⟩ ∧
        ∀ ids, pre₁.mgid.entries.lookup 1 = some ids → ∀ id ∈ ids, id ∉ pre₂.node.entries :=
  multicast_group_roundtrip (portMapsReady_create true) (fun l => List.Perm.refl l) _ _ rfl
    (by decide) (by decide) (by decide) (by decide) (by decide) (by decide) (by decide)
    (by decide) (by decide)

/-- Singleton ports 1 and 2 on front-panel ports 2 and 1, so that the SDK
ports run the other way. -/
def crossedConfig : ChassisConfig := ⟨[⟨1, 1, 2, 0⟩, ⟨2, 1, 1, 0⟩]⟩

/-- The translator after pushing `crossedConfig` and a P4Info with a port
type. -/
def crossedTranslator : Translator :=
  (pushForwardingPipelineConfig (pushChassisConfig frontPanelSde (Translator.create true)
    crossedConfig).1 portIdP4Info).1

/-- The read sorts the replicas by the ports the SDK sees: with the SDK ports
of singleton ports 1 and 2 crossed, a group written as ports 1 and 2 of one
instance reads back as ports 2 and 1. -/
theorem read_sorted_by_sdk_port :
    ChassisPortsReady frontPanelSde crossedConfig 64 [2, 1] ∧
      (∃ pre₁, (writePreEntry crossedTranslator id (fun _ _ => pure ()) .insert
          (.multicastGroupEntry ⟨1, [⟨1, 0⟩, ⟨2, 0⟩]⟩)).run emptyTables = .ok () pre₁ ∧
        readPreEntry crossedTranslator (fun _ => true) (fun _ _ => .ok ⟨[]⟩) pre₁
            (.multicastGroupEntry ⟨1, []⟩) =
          .ok ⟨[.packetReplicationEngineEntry (.multicastGroupEntry ⟨1, [⟨2, 0⟩, ⟨1, 0⟩]⟩)]⟩) ∧
      ¬[(⟨2, 0⟩ : Replica), ⟨1, 0⟩].Pairwise fun a b => ¬replicaLess b a := by
  refine ⟨⟨rfl, by decide, by decide, List.Forall₂.cons rfl (List.Forall₂.cons rfl List.Forall₂.nil),
    by decide, by decide, by decide, by decide, by decide, by decide⟩, ?_, by decide⟩
  -- the SDK sees ports 2 and 1, in one node of instance 0
  have hsdk : translateReplicas crossedTranslator [⟨1, 0⟩, ⟨2, 0⟩] true = .ok [⟨2, 0⟩, ⟨1, 0⟩] := by
    decide
  have hinsert : wp (writeMulticastGroupEntry id .insert ⟨1, [⟨2, 0⟩, ⟨1, 0⟩]⟩) _ _ emptyTables :=
    wp_writeMulticastGroupEntry_insert (fun l => List.Perm.refl l) (by decide) (by decide)
      (by decide) (by decide) (by decide)
  obtain ⟨_, pre₁, hrun, ids, hmgid, hadded⟩ := wp_fail_false_iff.mp hinsert
  refine ⟨pre₁, ?_, ?_⟩
  · rw [writePreEntry_multicast id _ .insert hsdk]
    exact hrun
  have hlookup : pre₁.mgid.entries.lookup 1 = some ids := by
    rw [hmgid]
    exact AList.lookup_insert _
  -- the sort puts SDK port 1 first, which is singleton port 2
  have hsorted : stdSort replicaLess
      ((instanceNodes (fun l => l) [⟨2, 0⟩, ⟨1, 0⟩]).flatMap McNode.replicas) = [⟨1, 0⟩, ⟨2, 0⟩] :=
    (eq_stdSort_of_perm replicaLess (by decide) (by decide)).symm
  have hread : readMulticastGroupEntry crossedTranslator (fun _ => true) pre₁ ⟨1, []⟩ = _ :=
    readMulticastGroupEntry_of_lookup crossedTranslator (by decide) hlookup hadded.lookup_added
  have hrequest : translateReplicas crossedTranslator [] true = .ok [] := by decide
  have hback : translateReplicas crossedTranslator [⟨1, 0⟩, ⟨2, 0⟩] false =
      .ok [⟨2, 0⟩, ⟨1, 0⟩] := by
    decide
  simp only [readPreEntry, translatePacketReplicationEngineEntry_multicast, hrequest]
  show readMulticastGroupEntry crossedTranslator (fun _ => true) pre₁ ⟨1, []⟩ = _
  rw [hread]
  dsimp only
  rw [hsorted, hback]
  rfl

end Stratum.Ports.BfrtPreManager
