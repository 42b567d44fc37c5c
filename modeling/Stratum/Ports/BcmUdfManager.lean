import Stratum.Verified.KeyedSet
import Stratum.Verified.Run
import Stratum.Ports.Status
import Stratum.Ports.P4TableMapper

set_option linter.dupNamespace false

/-!
# UDF chunks and sets of `BcmUdfManager`

`stratum/hal/lib/bcm/bcm_udf_manager.cc` hands out the user-defined fields
(UDFs) of an ACL stage. A chunk is a window of `chunk_bits` bits at a bit
offset of a packet layer; a UDF set holds chunks, each with an ID from the
range the set was built with, and an ACL table can read the chunks of one set
only. The manager is built by `CreateInstance` with `set_count` sets of
`chunks_per_set` chunks each, the first `num_controller_sets` of them left to
the controller. `SetUpStaticUdfs` collects, for each ACL table, the chunks of
its fields that need UDFs, puts each table's chunks into the static set where
they add the fewest chunks, and marks the table's fields with that set.

What is ported: `UdfChunk` with its constructor, `MappedFieldToUdfs` and the
key that `UdfChunkHash` and `UdfChunkEq` read; `UdfSet` with `AddChunks` and
`MergeFrom`, its hash set of chunks a `KeyedSet` in insertion order; the
constructor, `CreateInstance`, `DefaultIsUdfEligible`, `UdfSetsByUsage`,
`AllocateUdfSet`, `StaticUdfSetFromAclTable`, `SetUpStaticUdfs` with
`AclTable::MarkUdfMatchField`, and the chunk list `InstallUdfs` passes to the
SDK.

What is a parameter: `P4TableMapper::MapMatchField`, the eligibility test the
manager is built with, `P4FieldType_Name` (in an error text), the order in
which the `flat_hash_map` of `SetUpStaticUdfs` visits its tables, and
`SetAclUdfChunks`. The integers are exact: an ID or a base is the `int`
the source computes as long as `set_count * chunks_per_set` stays below
`2 ^ 31`.
-/

namespace Stratum.Ports.BcmUdfManager

open Stratum.Verified.KeyedSet Stratum.Ports.Status Stratum.Ports.P4TableMapper

/-! ## Chunks -/

/-- `BcmUdfSet::PacketLayer`. -/
inductive PacketLayer
  | unknown
  | packetStart
  | l2Header
  | l3Header
  | innerL3Header
  | l4Header
  deriving DecidableEq, Repr

/-- `P4HeaderType`. -/
inductive P4HeaderType
  | unknown
  | arp
  | ethernet
  | gre
  | icmp
  | ipv4
  | ipv6
  | packetIn
  | packetOut
  | tcp
  | udp
  | vlan
  | udpPayload
  | erspan
  | dns
  | l4Payload
  deriving DecidableEq, Repr

/-- `BcmAclStage`. -/
inductive BcmAclStage
  | unknown
  | vfp
  | ifp
  | efp
  deriving DecidableEq, Repr

/-- The fields of a `MappedField` the manager reads. -/
structure MappedField where
  type : P4FieldType
  bitOffset : Int
  bitWidth : Int
  headerType : P4HeaderType
  deriving DecidableEq, Repr

/-- `HeaderTypeToPacketLayer`. -/
def headerTypeToPacketLayer : P4HeaderType → PacketLayer
  | .ethernet => .l2Header
  | .arp | .ipv4 | .ipv6 => .l3Header
  | .gre | .icmp | .tcp | .udp => .l4Header
  | _ => .unknown

/-- `BcmUdfManager::UdfChunk`: a packet layer, a bit offset, a size in bits
and an ID. -/
structure UdfChunk where
  packetLayer : PacketLayer
  offset : Int
  size : Int
  id : Int
  deriving DecidableEq, Repr

/-- The normal constructor: the offset is taken down to a multiple of the
size (the `%` of C++ truncates toward zero), and the ID is `0`. -/
def UdfChunk.make (packetLayer : PacketLayer) (offset size : Int) : UdfChunk :=
  ⟨packetLayer, offset - offset.tmod size, size, 0⟩

/-- `byte_offset()`. -/
def UdfChunk.byteOffset (chunk : UdfChunk) : Int := chunk.offset.tdiv 8

/-- What `UdfChunkHash` and `UdfChunkEq` read of a chunk. -/
def UdfChunk.key (chunk : UdfChunk) : PacketLayer × Int := (chunk.packetLayer, chunk.offset)

/-- `UdfChunkEq`. -/
def udfChunkEq (x y : UdfChunk) : Bool :=
  x.packetLayer == y.packetLayer && x.offset == y.offset

/-- The number of turns of the loop of `MappedFieldToUdfs`, which runs
`chunk_offset` from `firstChunkBase` up to `lastBit` in steps of a positive
`chunkSize`. -/
def chunkCount (firstChunkBase lastBit chunkSize : Int) : Nat :=
  if firstChunkBase ≤ lastBit then ((lastBit - firstChunkBase) / chunkSize).toNat + 1 else 0

/-- `UdfChunk::MappedFieldToUdfs`: the chunks that cover the bits of a field,
none for a header with no packet layer. -/
def UdfChunk.mappedFieldToUdfs (mappedField : MappedField) (chunkSize : Int) : List UdfChunk :=
  let packetLayer := headerTypeToPacketLayer mappedField.headerType
  if packetLayer = .unknown then []
  else
    let firstBit := mappedField.bitOffset
    let lastBit := mappedField.bitOffset + mappedField.bitWidth - 1
    let firstChunkBase := firstBit.tdiv chunkSize * chunkSize
    (List.range (chunkCount firstChunkBase lastBit chunkSize)).map fun k =>
      UdfChunk.make packetLayer (firstChunkBase + k * chunkSize) chunkSize

theorem udfChunkEq_eq_true_iff (x y : UdfChunk) : udfChunkEq x y = true ↔ x.key = y.key := by
  simp [udfChunkEq, UdfChunk.key]

/-! ## Sets -/

/-- `UdfSetUsage`. -/
inductive UdfSetUsage
  | kController
  | kStatic
  deriving DecidableEq, Repr

/-- `BcmUdfManager::UdfSet`. -/
structure UdfSet where
  chunks : KeyedSet UdfChunk.key
  usage : UdfSetUsage
  baseChunkId : Int
  maxChunks : Nat
  deriving DecidableEq

/-- The lazy constructor, for sets no hardware holds. -/
def UdfSet.ofMaxChunks (maxChunks : Nat) : UdfSet := ⟨.empty, .kStatic, 0, maxChunks⟩

/-- One turn of the loop of `AddChunks`: the chunk takes the ID base + size
of the set, and goes in unless a chunk with its key is there; the chunks that
went in are collected. -/
def addChunksStep (baseChunkId : Int) (acc : KeyedSet UdfChunk.key × List UdfChunk)
    (chunk : UdfChunk) : KeyedSet UdfChunk.key × List UdfChunk :=
  let chunk := { chunk with id := acc.1.elems.length + baseChunkId }
  let result := acc.1.insert chunk
  if result.2 then (result.1, acc.2 ++ [chunk]) else (result.1, acc.2)

/-- The loop of `AddChunks`, from the chunks of the set and none inserted. -/
def UdfSet.addChunksLoop (s : UdfSet) (chunks : List UdfChunk) :
    KeyedSet UdfChunk.key × List UdfChunk :=
  chunks.foldl (addChunksStep s.baseChunkId) (s.chunks, [])

/-- `UdfSet::AddChunks`: the set after the call, and what it returns. Past the
maximum, the chunks the loop inserted are erased again. -/
def UdfSet.addChunks (s : UdfSet) (chunks : List UdfChunk) : UdfSet × Bool :=
  let grown := (s.addChunksLoop chunks).1
  let inserted := (s.addChunksLoop chunks).2
  if grown.elems.length > s.maxChunks then
    ({ s with chunks := inserted.foldl KeyedSet.erase grown }, false)
  else ({ s with chunks := grown }, true)

/-- `UdfSet::MergeFrom`. -/
def UdfSet.mergeFrom (s other : UdfSet) : UdfSet × Bool := s.addChunks other.chunks.elems

/-! ## The manager -/

/-- `ChipModelSpec::UdfSpec`. -/
structure UdfSpec where
  chunkBits : Nat
  chunksPerSet : Nat
  setCount : Nat
  deriving DecidableEq, Repr

/-- The state of `BcmUdfManager`: `udf_sets_`, a `std::map` kept in the order
of its keys, `chunk_size_` and `chunks_per_set_`. -/
structure BcmUdfManager where
  udfSets : List (Int × UdfSet)
  chunkSize : Int
  chunksPerSet : Nat
  deriving DecidableEq

/-- One turn of the loop of the constructor: set `j + 1`, for the controller
up to `num_controller_sets`, from the current base, which then moves on by
`chunks_per_set`. -/
def newUdfSetsStep (udfSpec : UdfSpec) (numControllerSets : Int)
    (acc : List (Int × UdfSet) × Int) (j : Nat) : List (Int × UdfSet) × Int :=
  let i : Int := j + 1
  let usage := if i ≤ numControllerSets then UdfSetUsage.kController else .kStatic
  (acc.1 ++ [(i, ⟨.empty, usage, acc.2, udfSpec.chunksPerSet⟩)], acc.2 + udfSpec.chunksPerSet)

/-- The constructor `BcmUdfManager::BcmUdfManager`. -/
def BcmUdfManager.new (udfSpec : UdfSpec) (numControllerSets : Int) : BcmUdfManager :=
  ⟨((List.range udfSpec.setCount).foldl (newUdfSetsStep udfSpec numControllerSets) ([], 1)).1,
    udfSpec.chunkBits, udfSpec.chunksPerSet⟩

/-- `BcmUdfManager::CreateInstance`. `num_controller_sets` is compared as an
unsigned, so a negative count is refused as well. -/
def createInstance (udfSpec : UdfSpec) (numControllerSets : Int) : StatusOr BcmUdfManager :=
  if numControllerSets < 0 ∨ udfSpec.setCount < numControllerSets then
    .error ⟨.errInvalidParam, "Cannot allocate more controller UDF sets (" ++
      toString numControllerSets ++ ") than hardware UDF sets (" ++ toString udfSpec.setCount ++
      ")."⟩
  else .ok (BcmUdfManager.new udfSpec numControllerSets)

/-- `P4_FIELD_TYPE_ARP_TPA`. -/
def P4FieldType.arpTpa : P4FieldType := ⟨23⟩

/-- `BcmUdfManager::DefaultIsUdfEligible`. -/
def defaultIsUdfEligible (mappedField : MappedField) (stage : BcmAclStage) : Bool :=
  stage != .unknown && mappedField.type == P4FieldType.arpTpa

/-- `UdfSetsByUsage`: the IDs of the sets of one usage, in key order. -/
def BcmUdfManager.udfSetsByUsage (m : BcmUdfManager) (usage : UdfSetUsage) : List Int :=
  (m.udfSets.filter fun p => p.2.usage == usage).map Prod.fst

/-- A call on the manager: it may fail after changing it. -/
abbrev UdfOp := EStateM UtilError BcmUdfManager

/-- The loop of `AllocateUdfSet` over the destination sets: the candidate
with the least impact so far and its impact. A candidate that cannot take the
input set is skipped. -/
def findBestCandidate (udfSets : List (Int × UdfSet)) (inputSet : UdfSet) :
    List Int → Int × Int → StatusOr (Int × Int)
  | [], best => .ok best
  | candidateId :: rest, best =>
      match udfSets.lookup candidateId with
      | none => .error ⟨.errInternal,
          "Failed to lookup destination set from the full UDF set map. This is a bug."⟩
      | some candidateSet =>
          let candidateCopy := candidateSet.mergeFrom inputSet
          if !candidateCopy.2 then findBestCandidate udfSets inputSet rest best
          else
            let impact : Int :=
              candidateCopy.1.chunks.elems.length - candidateSet.chunks.elems.length
            if impact < best.2 then findBestCandidate udfSets inputSet rest (candidateId, impact)
            else findBestCandidate udfSets inputSet rest best

/-- `BcmUdfManager::AllocateUdfSet`. The merge is made in place, on the set
the map holds under the chosen ID. -/
def allocateUdfSet (inputSet : UdfSet) (destinationSets : List Int) : UdfOp Int := do
  let m ← get
  let best ← liftExcept (findBestCandidate m.udfSets inputSet destinationSets (-1, 2147483647))
  match m.udfSets.lookup best.1 with
  | none => throw ⟨.errNoResource,
      "Hardware does not have enough remaining free chunks for the UDF set."⟩
  | some bestCandidate =>
      set { m with udfSets := m.udfSets.map fun (p : Int × UdfSet) =>
        if p.1 = best.1 then (p.1, (p.2.mergeFrom inputSet).1) else p }
      if !(bestCandidate.mergeFrom inputSet).2 then
        throw ⟨.errInternal,
          "Calculated candidate merging does not match actual merging. This is a bug."⟩
      pure best.1

/-! ## ACL tables -/

/-- The fields of an `AclTable` the manager reads and marks. -/
structure AclTable where
  id : Nat
  name : String
  stage : BcmAclStage
  matchFields : List Nat
  udfSetId : Int
  udfMatchFields : List Nat
  deriving DecidableEq, Repr

/-- `AclTable::MarkUdfMatchField`. -/
def AclTable.markUdfMatchField (table : AclTable) (field : Nat) (udfSetId : Int) :
    StatusOr AclTable :=
  let udfMatchFields := table.udfMatchFields.insert field
  if field ∉ table.matchFields then
    .error ⟨.errInvalidParam, "ACL Table " ++ toString table.id ++
      " does not contain match field: " ++ toString field ++ ". Cannot mark field as UDF."⟩
  else if udfSetId < 0 then
    .error ⟨.errInvalidParam, "Invalid UDF set id: " ++ toString udfSetId ++ "."⟩
  else if table.udfMatchFields.isEmpty then
    .ok { table with udfSetId := udfSetId, udfMatchFields := udfMatchFields }
  else if table.udfSetId ≠ udfSetId then
    .error ⟨.errInvalidParam, "ACL Table " ++ toString table.id ++ " already uses UDF set " ++
      toString table.udfSetId ++ ". Cannot designate a UDF match field from UDF set " ++
      toString udfSetId ++ "."⟩
  else .ok { table with udfMatchFields := udfMatchFields }

/-- What `SetUpStaticUdfs` changes: the manager and the ACL tables it is
given. -/
structure SetUpState where
  manager : BcmUdfManager
  aclTables : List AclTable

/-- A step of `SetUpStaticUdfs`: it may fail after changing the state. -/
abbrev SetUpOp := EStateM UtilError SetUpState

/-- A call on the manager, made by `SetUpStaticUdfs`. -/
def liftUdfOp {α : Type} (op : UdfOp α) : SetUpOp α := fun st =>
  match op.run st.manager with
  | .ok a manager => .ok a { st with manager := manager }
  | .error e manager => .error e { st with manager := manager }

section SetUp

variable (mapMatchField : Nat → Nat → StatusOr MappedField)
  (isUdfEligible : MappedField → BcmAclStage → Bool) (p4FieldTypeName : P4FieldType → String)

/-- The loop of `StaticUdfSetFromAclTable` over the match fields of a table:
the set built so far and the UDF match fields listed so far. -/
def staticUdfSetLoop (m : BcmUdfManager) (table : AclTable) :
    List Nat → UdfSet × List Nat → StatusOr (UdfSet × List Nat)
  | [], acc => .ok acc
  | matchField :: rest, acc => do
      let mappedField ← mapMatchField table.id matchField
      if !isUdfEligible mappedField table.stage then staticUdfSetLoop m table rest acc
      else
        let udfMatchFields := acc.2 ++ [matchField]
        let chunks := UdfChunk.mappedFieldToUdfs mappedField m.chunkSize
        if chunks.isEmpty then
          .error ⟨.errInvalidParam, "Table (" ++ table.name ++ ") field type: (" ++
            p4FieldTypeName mappedField.type ++ ") cannot be converted to UDF."⟩
        else
          let udfSet := acc.1.addChunks chunks
          if !udfSet.2 then
            .error ⟨.errNoResource, "Table (" ++ table.name ++
              ") requires more than the maximum " ++ toString m.chunksPerSet ++
              " UDF chunks per set."⟩
          else staticUdfSetLoop m table rest (udfSet.1, udfMatchFields)

/-- `StaticUdfSetFromAclTable`: the chunks the UDF fields of a table need, in
a set of the manager's size, with the list of those fields. -/
def staticUdfSetFromAclTable (m : BcmUdfManager) (table : AclTable) :
    StatusOr (UdfSet × List Nat) :=
  staticUdfSetLoop mapMatchField isUdfEligible p4FieldTypeName m table table.matchFields
    (UdfSet.ofMaxChunks m.chunksPerSet, [])

/-- The first loop of `SetUpStaticUdfs`: each table that needs UDFs, by its
place in the vector, with its set and its UDF match fields. -/
def udfSetsPerTable (m : BcmUdfManager) : Nat → List AclTable →
    StatusOr (List (Nat × UdfSet × List Nat))
  | _, [] => .ok []
  | index, table :: rest => do
      let found ← staticUdfSetFromAclTable mapMatchField isUdfEligible p4FieldTypeName m table
      let others ← udfSetsPerTable m (index + 1) rest
      if found.1.chunks.elems.isEmpty then pure others
      else pure ((index, found.1, found.2) :: others)

/-- The marks of the UDF match fields of the table at `index` with a set. -/
def markUdfMatchFields (index : Nat) (udfSetId : Int) : List Nat → SetUpOp Unit
  | [] => pure ()
  | matchField :: rest => do
      let st ← get
      match st.aclTables[index]? with
      | none => pure ()
      | some table =>
          let marked ← liftExcept (table.markUdfMatchField matchField udfSetId)
          set { st with aclTables := st.aclTables.set index marked }
          markUdfMatchFields index udfSetId rest

/-- The second loop of `SetUpStaticUdfs`: each table's set goes to a static
set, whose ID then marks the table's UDF match fields. -/
def allocateStaticUdfSets (staticSets : List Int) : List (Nat × UdfSet × List Nat) → SetUpOp Unit
  | [] => pure ()
  | (index, udfSet, udfMatchFields) :: rest => do
      let udfSetId ← liftUdfOp (allocateUdfSet udfSet staticSets)
      markUdfMatchFields index udfSetId udfMatchFields
      allocateStaticUdfSets staticSets rest

variable (hashOrder : List (Nat × UdfSet × List Nat) → List (Nat × UdfSet × List Nat))

/-- `BcmUdfManager::SetUpStaticUdfs`. The tables' sets are visited in the
order of the `flat_hash_map` that holds them, `hashOrder`. -/
def setUpStaticUdfs : SetUpOp Unit := do
  let st ← get
  let udfSets ← liftExcept (udfSetsPerTable mapMatchField isUdfEligible p4FieldTypeName
    st.manager 0 st.aclTables)
  if udfSets.isEmpty then pure ()
  else allocateStaticUdfSets (st.manager.udfSetsByUsage .kStatic) (hashOrder udfSets)

/-- A call of `SetUpStaticUdfs` as a step of a run of the manager: the status
and the tables it leaves, also when it fails. -/
def step (m : BcmUdfManager) (aclTables : List AclTable) :
    (StatusOr Unit × List AclTable) × BcmUdfManager :=
  match (setUpStaticUdfs mapMatchField isUdfEligible p4FieldTypeName hashOrder).run
      ⟨m, aclTables⟩ with
  | .ok u st => ((.ok u, st.aclTables), st.manager)
  | .error e st => ((.error e, st.aclTables), st.manager)

end SetUp

/-! ## Installing the chunks -/

/-- `BcmUdfSet::UdfChunk`. -/
structure BcmUdfChunk where
  id : Int
  layer : PacketLayer
  offset : Int
  deriving DecidableEq, Repr

/-- The `BcmUdfSet` `InstallUdfs` builds: every chunk of every set. -/
def BcmUdfManager.bcmUdfSet (m : BcmUdfManager) : List BcmUdfChunk :=
  m.udfSets.flatMap fun p => p.2.chunks.elems.map fun chunk =>
    ⟨chunk.id, chunk.packetLayer, chunk.byteOffset⟩

/-- `BcmUdfManager::InstallUdfs`, with `SetAclUdfChunks` of the SDK. -/
def BcmUdfManager.installUdfs (setAclUdfChunks : List BcmUdfChunk → StatusOr Unit)
    (m : BcmUdfManager) : StatusOr Unit :=
  if m.bcmUdfSet.isEmpty then .ok () else setAclUdfChunks m.bcmUdfSet

end Stratum.Ports.BcmUdfManager
