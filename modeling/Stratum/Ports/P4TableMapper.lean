import Stratum.Verified.PairedMaps
import Stratum.Ports.Status
import Stratum.Ports.P4Runtime
import Stratum.Ports.P4Utils
import Stratum.Ports.BfrtPacketioManager

/-!
# Packet metadata in `P4TableMapper`

`P4TableMapper::PushForwardingPipelineConfig`
(`stratum/hal/lib/p4/p4_table_mapper.cc`) reads the `packet_in` and
`packet_out` controller headers of the P4Info and, for each of their metadata
that the pipeline's table map types, fills two maps of the header: the ID to
`(field type, bit width)` and the field type to `(ID, bit width)`, each with
`gtl::InsertIfNotPresent`, so that the first metadata of a key stays.
`DeparsePacket*Metadata` look a mapped value up by its type and write it as a
P4Runtime value: a `u32` with `Uint32ToByteStream` when the width is at most
32, a `u64` with `Uint64ToByteStream` when it is above 32 and at most 64,
bytes as they are above 64. `ParsePacket*Metadata` look the ID up and read
the value back by the same thresholds, with `ByteStreamToUint<uint32>` and
`ByteStreamToUint<uint64>`, which read only the first four or eight bytes.

Main results:

* `buildMetadataMaps_eq` — the maps the loop builds are the first-wins
  indexes of the mapped metadata of each header;
* `roundTrips_metadataHelpers` — over two maps that agree, every mapped value
  of the representation its width selects comes back from its P4Runtime
  metadata;
* `parsesValues_parseMetadataHelper` — parsing reads the big-endian value of
  every P4Runtime value no longer than the integer its width selects;
* `packet_metadata_codec` — after the push, both for packet-in and for
  packet-out metadata, when the metadata of the header have distinct IDs and
  distinct field types.
-/

namespace Stratum.Ports.P4TableMapper

open Stratum.Verified.BigEndian Stratum.Verified.PairedMaps
open Stratum.Ports.Status Stratum.Ports.P4Runtime Stratum.Ports.P4Utils
open Stratum.Ports.BfrtPacketioManager (kIngressMetadataPreambleName kEgressMetadataPreambleName)

/-! ## Types of `p4_table_defs.proto` and `common_flow_entry.proto` -/

/-- `P4FieldType`, by the number of its enumerator. -/
structure P4FieldType where
  number : Nat
  deriving DecidableEq, Repr

/-- `P4_FIELD_TYPE_UNKNOWN`, the default. -/
def P4FieldType.p4FieldTypeUnknown : P4FieldType := ⟨0⟩

/-- The `descriptor` oneof of `P4TableMapValue`: a field descriptor by its
`type`, which is all the metadata loop reads; `other` is any other case, or
none. -/
inductive P4TableMapValue
  | fieldDescriptor (type : P4FieldType)
  | other
  deriving DecidableEq, Repr

/-- `value->field_descriptor().type()`: a value of another case reads the
default descriptor, whose type is unknown. -/
def P4TableMapValue.fieldDescriptorType : P4TableMapValue → P4FieldType
  | .fieldDescriptor type => type
  | .other => .p4FieldTypeUnknown

/-- `P4PipelineConfig`, with its `table_map` as the lookup `FindOrNull`
makes in it. -/
structure P4PipelineConfig where
  tableMap : String → Option P4TableMapValue

/-- The `value` oneof of `MappedPacketMetadata`; `u32` and `u64` hold the
`fixed32` and `fixed64` numbers. -/
inductive MappedPacketMetadata.Value
  | u32 (val : Nat)
  | u64 (val : Nat)
  | b (bytes : ByteString)
  | notSet
  deriving DecidableEq, Repr

/-- `MappedPacketMetadata`. -/
structure MappedPacketMetadata where
  type : P4FieldType
  value : MappedPacketMetadata.Value
  deriving DecidableEq, Repr

/-! ## The metadata maps -/

/-- `MetadataIdToTypeBitwidthMap`. -/
abbrev MetadataIdToTypeBitwidthMap := Nat → Option (P4FieldType × Nat)

/-- `MetadataTypeToIdBitwidthMap`. -/
abbrev MetadataTypeToIdBitwidthMap := P4FieldType → Option (Nat × Nat)

/-- The metadata members of `P4TableMapper`. -/
structure MetadataMaps where
  packetinMetadataIdToTypeBitwidthPair : MetadataIdToTypeBitwidthMap
  packetoutMetadataIdToTypeBitwidthPair : MetadataIdToTypeBitwidthMap
  packetinMetadataTypeToIdBitwidthPair : MetadataTypeToIdBitwidthMap
  packetoutMetadataTypeToIdBitwidthPair : MetadataTypeToIdBitwidthMap

/-- The metadata maps as `ClearMaps` leaves them. -/
def MetadataMaps.empty : MetadataMaps :=
  ⟨fun _ => none, fun _ => none, fun _ => none, fun _ => none⟩

/-- The lookups of the loop body of `PushForwardingPipelineConfig` for one
metadata of the header `name`: the table-map entry under the qualified name
`name.metadata`, skipped when absent or of unknown type; else the metadata's
`(id, type, bitwidth)`. -/
def mappedMetadata (config : P4PipelineConfig) (name : String)
    (metadata : ControllerPacketMetadata.Metadata) : Option (Nat × P4FieldType × Nat) :=
  match config.tableMap (name ++ "." ++ metadata.name) with
  | none => none
  | some value =>
      let type := value.fieldDescriptorType
      if type = .p4FieldTypeUnknown then none
      else some (metadata.id, type, metadata.bitwidth)

/-- The loop body: the two maps of the header get the metadata, each keeping
an entry already there. -/
def addMetadata (config : P4PipelineConfig) (name : String) (maps : MetadataMaps)
    (metadata : ControllerPacketMetadata.Metadata) : MetadataMaps :=
  match mappedMetadata config name metadata with
  | none => maps
  | some (id, type, bitwidth) =>
      if name = kIngressMetadataPreambleName then
        { maps with
          packetinMetadataIdToTypeBitwidthPair :=
            insertIfAbsent maps.packetinMetadataIdToTypeBitwidthPair id (type, bitwidth)
          packetinMetadataTypeToIdBitwidthPair :=
            insertIfAbsent maps.packetinMetadataTypeToIdBitwidthPair type (id, bitwidth) }
      else
        { maps with
          packetoutMetadataIdToTypeBitwidthPair :=
            insertIfAbsent maps.packetoutMetadataIdToTypeBitwidthPair id (type, bitwidth)
          packetoutMetadataTypeToIdBitwidthPair :=
            insertIfAbsent maps.packetoutMetadataTypeToIdBitwidthPair type (id, bitwidth) }

/-- One controller header: skipped unless it is `packet_in` or `packet_out`. -/
def addControllerPacketMetadata (config : P4PipelineConfig) (maps : MetadataMaps)
    (controllerPacketMetadata : ControllerPacketMetadata) : MetadataMaps :=
  let name := controllerPacketMetadata.preambleName
  if name ≠ kIngressMetadataPreambleName ∧ name ≠ kEgressMetadataPreambleName then maps
  else controllerPacketMetadata.metadata.foldl (addMetadata config name) maps

/-- The metadata loop of `PushForwardingPipelineConfig`, over the maps
`ClearMaps` left. -/
def buildMetadataMaps (config : P4PipelineConfig) (p4Info : P4Info) : MetadataMaps :=
  p4Info.controllerPacketMetadata.foldl (addControllerPacketMetadata config) .empty

/-! ## The codec -/

/-- `DeparseMetadataHelper`. A value with no data gets the ID only. -/
def deparseMetadataHelper (metadataTypeToIdBitwidthPair : MetadataTypeToIdBitwidthMap)
    (mappedPacketMetadata : MappedPacketMetadata) : StatusOr PacketMetadata :=
  match metadataTypeToIdBitwidthPair mappedPacketMetadata.type with
  | none => .error ⟨.errInvalidParam,
      "Don't know how to deparse the following mapped metadata: ."⟩
  | some (id, bitwidth) =>
      match mappedPacketMetadata.value with
      | .u32 val =>
          if bitwidth > 32 then
            .error ⟨.errInvalidParam, "Incorrect bitwidth for a u32: " ++ toString bitwidth ++
              ". Mapped metadata: ."⟩
          else .ok ⟨id, uint32ToByteStream val⟩
      | .u64 val =>
          if bitwidth ≤ 32 ∨ bitwidth > 64 then
            .error ⟨.errInvalidParam, "Incorrect bitwidth for a u64: " ++ toString bitwidth ++
              ". Mapped metadata: ."⟩
          else .ok ⟨id, uint64ToByteStream val⟩
      | .b bytes =>
          if bitwidth ≤ 64 then
            .error ⟨.errInvalidParam, "Incorrect bitwidth for a byte stream: " ++
              toString bitwidth ++ ". Mapped metadata: ."⟩
          else .ok ⟨id, bytes⟩
      | .notSet => .ok ⟨id, []⟩

/-- `ParseMetadataHelper`. -/
def parseMetadataHelper (metadataIdToTypeBitwidthPair : MetadataIdToTypeBitwidthMap)
    (p4PacketMetadata : PacketMetadata) : StatusOr MappedPacketMetadata :=
  match metadataIdToTypeBitwidthPair p4PacketMetadata.metadataId with
  | none => .error ⟨.errInvalidParam, "Don't know how to parse the following P4 metadata: ."⟩
  | some (type, bitwidth) =>
      if bitwidth ≤ 32 then .ok ⟨type, .u32 (byteStreamToUint 4 p4PacketMetadata.value)⟩
      else if bitwidth ≤ 64 then .ok ⟨type, .u64 (byteStreamToUint 8 p4PacketMetadata.value)⟩
      else .ok ⟨type, .b p4PacketMetadata.value⟩

/-- `P4TableMapper::DeparsePacketInMetadata`. -/
def MetadataMaps.deparsePacketInMetadata (maps : MetadataMaps) :
    MappedPacketMetadata → StatusOr PacketMetadata :=
  deparseMetadataHelper maps.packetinMetadataTypeToIdBitwidthPair

/-- `P4TableMapper::ParsePacketInMetadata`. -/
def MetadataMaps.parsePacketInMetadata (maps : MetadataMaps) :
    PacketMetadata → StatusOr MappedPacketMetadata :=
  parseMetadataHelper maps.packetinMetadataIdToTypeBitwidthPair

/-- `P4TableMapper::DeparsePacketOutMetadata`. -/
def MetadataMaps.deparsePacketOutMetadata (maps : MetadataMaps) :
    MappedPacketMetadata → StatusOr PacketMetadata :=
  deparseMetadataHelper maps.packetoutMetadataTypeToIdBitwidthPair

/-- `P4TableMapper::ParsePacketOutMetadata`. -/
def MetadataMaps.parsePacketOutMetadata (maps : MetadataMaps) :
    PacketMetadata → StatusOr MappedPacketMetadata :=
  parseMetadataHelper maps.packetoutMetadataIdToTypeBitwidthPair

/-! ## The maps the loop builds -/

/-- A metadata's entry keyed by its type, as the type-keyed maps hold it. -/
def typeKeyed (entry : Nat × P4FieldType × Nat) : P4FieldType × Nat × Nat :=
  (entry.2.1, entry.1, entry.2.2)

/-- The maps with the `(id, type, bitwidth)` entries of each header inserted
first-wins, by ID and by type. -/
def MetadataMaps.insertEntries (maps : MetadataMaps)
    (packetin packetout : List (Nat × P4FieldType × Nat)) : MetadataMaps where
  packetinMetadataIdToTypeBitwidthPair :=
    insertAllIfAbsent maps.packetinMetadataIdToTypeBitwidthPair packetin
  packetoutMetadataIdToTypeBitwidthPair :=
    insertAllIfAbsent maps.packetoutMetadataIdToTypeBitwidthPair packetout
  packetinMetadataTypeToIdBitwidthPair :=
    insertAllIfAbsent maps.packetinMetadataTypeToIdBitwidthPair (packetin.map typeKeyed)
  packetoutMetadataTypeToIdBitwidthPair :=
    insertAllIfAbsent maps.packetoutMetadataTypeToIdBitwidthPair (packetout.map typeKeyed)

@[simp] theorem MetadataMaps.insertEntries_nil (maps : MetadataMaps) :
    maps.insertEntries [] [] = maps := rfl

@[simp] theorem MetadataMaps.insertEntries_insertEntries (maps : MetadataMaps)
    (packetin packetout packetin' packetout' : List (Nat × P4FieldType × Nat)) :
    (maps.insertEntries packetin packetout).insertEntries packetin' packetout' =
      maps.insertEntries (packetin ++ packetin') (packetout ++ packetout') := by
  simp only [MetadataMaps.insertEntries, List.map_append, insertAllIfAbsent_append]

/-- The mapped metadata of one controller header, when it is the header
`name`. -/
def headerEntries (config : P4PipelineConfig) (name : String)
    (controllerPacketMetadata : ControllerPacketMetadata) : List (Nat × P4FieldType × Nat) :=
  if controllerPacketMetadata.preambleName = name then
    controllerPacketMetadata.metadata.filterMap (mappedMetadata config name)
  else []

/-- The mapped metadata of every header named `name`, in P4Info order. -/
def metadataEntries (config : P4PipelineConfig) (p4Info : P4Info) (name : String) :
    List (Nat × P4FieldType × Nat) :=
  p4Info.controllerPacketMetadata.flatMap (headerEntries config name)

/-- One metadata goes to the packet-in maps of the `packet_in` header, and to
the packet-out maps of any other. -/
theorem addMetadata_eq (config : P4PipelineConfig) (name : String) (maps : MetadataMaps)
    (metadata : ControllerPacketMetadata.Metadata) :
    addMetadata config name maps metadata =
      if name = kIngressMetadataPreambleName then
        maps.insertEntries (mappedMetadata config name metadata).toList []
      else maps.insertEntries [] (mappedMetadata config name metadata).toList := by
  cases h : mappedMetadata config name metadata with
  | none =>
      simp only [addMetadata, h, Option.toList_none]
      split <;> rfl
  | some entry =>
      obtain ⟨id, type, bitwidth⟩ := entry
      simp only [addMetadata, h]
      split <;> rfl

/-- The loop over the metadata of the header `name`. -/
theorem foldl_addMetadata (config : P4PipelineConfig) (name : String) :
    ∀ (metadata : List ControllerPacketMetadata.Metadata) (maps : MetadataMaps),
      metadata.foldl (addMetadata config name) maps =
        if name = kIngressMetadataPreambleName then
          maps.insertEntries (metadata.filterMap (mappedMetadata config name)) []
        else maps.insertEntries [] (metadata.filterMap (mappedMetadata config name))
  | [], maps => by split <;> rfl
  | md :: metadata, maps => by
      have hcons : (md :: metadata).filterMap (mappedMetadata config name) =
          (mappedMetadata config name md).toList ++
            metadata.filterMap (mappedMetadata config name) := by
        rw [List.filterMap_cons]
        cases mappedMetadata config name md <;> rfl
      rw [List.foldl_cons, foldl_addMetadata config name metadata, addMetadata_eq, hcons]
      split <;> simp

theorem kIngressMetadataPreambleName_ne :
    kIngressMetadataPreambleName ≠ kEgressMetadataPreambleName := by
  decide

/-- One controller header adds its mapped metadata to the maps of its name. -/
theorem addControllerPacketMetadata_eq (config : P4PipelineConfig) (maps : MetadataMaps)
    (controllerPacketMetadata : ControllerPacketMetadata) :
    addControllerPacketMetadata config maps controllerPacketMetadata =
      maps.insertEntries (headerEntries config kIngressMetadataPreambleName controllerPacketMetadata)
        (headerEntries config kEgressMetadataPreambleName controllerPacketMetadata) := by
  unfold addControllerPacketMetadata headerEntries
  dsimp only
  rw [foldl_addMetadata]
  have hne := kIngressMetadataPreambleName_ne
  by_cases hin : controllerPacketMetadata.preambleName = kIngressMetadataPreambleName
  · simp [hin, hne]
  · by_cases hout : controllerPacketMetadata.preambleName = kEgressMetadataPreambleName
    · simp [hout, hne.symm]
    · -- any other header is skipped
      simp [hin, hout]

/-- The maps a push builds are the first-wins indexes of the mapped metadata
of the `packet_in` and the `packet_out` headers. -/
theorem buildMetadataMaps_eq (config : P4PipelineConfig) (p4Info : P4Info) :
    buildMetadataMaps config p4Info =
      MetadataMaps.empty.insertEntries (metadataEntries config p4Info kIngressMetadataPreambleName)
        (metadataEntries config p4Info kEgressMetadataPreambleName) := by
  unfold buildMetadataMaps metadataEntries
  -- the loop over the headers, from any maps
  have hloop : ∀ (headers : List ControllerPacketMetadata) (maps : MetadataMaps),
      headers.foldl (addControllerPacketMetadata config) maps =
        maps.insertEntries (headers.flatMap (headerEntries config kIngressMetadataPreambleName))
          (headers.flatMap (headerEntries config kEgressMetadataPreambleName)) := by
    intro headers
    induction headers with
    | nil => intro maps; rfl
    | cons header headers ih =>
        intro maps
        rw [List.foldl_cons, ih, addControllerPacketMetadata_eq,
          MetadataMaps.insertEntries_insertEntries, List.flatMap_cons, List.flatMap_cons]
  exact hloop _ _

/-! ## The codec over two maps that agree -/

/-- The representation `DeparseMetadataHelper` accepts for a width, with a
value that fits the width: a `u32` up to 32 bits, a `u64` above 32 and up to
64, bytes above 64. -/
def MappedPacketMetadata.Value.WidthOk : MappedPacketMetadata.Value → Nat → Prop
  | .u32 val, bitwidth => bitwidth ≤ 32 ∧ val < 2 ^ bitwidth
  | .u64 val, bitwidth => 32 < bitwidth ∧ bitwidth ≤ 64 ∧ val < 2 ^ bitwidth
  | .b _, bitwidth => 64 < bitwidth
  | .notSet, _ => False

instance (val : MappedPacketMetadata.Value) (bitwidth : Nat) :
    Decidable (val.WidthOk bitwidth) :=
  match val with
  | .u32 val => inferInstanceAs (Decidable (bitwidth ≤ 32 ∧ val < 2 ^ bitwidth))
  | .u64 val => inferInstanceAs (Decidable (32 < bitwidth ∧ bitwidth ≤ 64 ∧ val < 2 ^ bitwidth))
  | .b _ => inferInstanceAs (Decidable (64 < bitwidth))
  | .notSet => inferInstanceAs (Decidable False)

/-- The mapped value a P4Runtime value stands for at a width: its big-endian
value in the representation the width selects, or the bytes themselves. -/
def expectedValue (bitwidth : Nat) (bytes : ByteString) : MappedPacketMetadata.Value :=
  if bitwidth ≤ 32 then .u32 (value bytes)
  else if bitwidth ≤ 64 then .u64 (value bytes)
  else .b bytes

/-- Every mapped value whose type the map has, in the representation its
width selects, deparses to the map's ID and comes back from the result. -/
def RoundTrips (typeToId : MetadataTypeToIdBitwidthMap)
    (deparse : MappedPacketMetadata → StatusOr PacketMetadata)
    (parse : PacketMetadata → StatusOr MappedPacketMetadata) : Prop :=
  ∀ (mapped : MappedPacketMetadata) (id bitwidth : Nat),
    typeToId mapped.type = some (id, bitwidth) → mapped.value.WidthOk bitwidth →
      ∃ p, deparse mapped = .ok p ∧ p.metadataId = id ∧ parse p = .ok mapped

/-- Parsing succeeds on every ID the map has and reads the big-endian value
of every P4Runtime value no longer than the integer its width selects. -/
def ParsesValues (idToType : MetadataIdToTypeBitwidthMap)
    (parse : PacketMetadata → StatusOr MappedPacketMetadata) : Prop :=
  ∀ (p : PacketMetadata) (type : P4FieldType) (bitwidth : Nat),
    idToType p.metadataId = some (type, bitwidth) →
    (bitwidth ≤ 32 → p.value.length ≤ 4) → (bitwidth ≤ 64 → p.value.length ≤ 8) →
      parse p = .ok ⟨type, expectedValue bitwidth p.value⟩

/-- `ParseMetadataHelper` on an ID the map has. -/
theorem parseMetadataHelper_of_eq_some {idToType : MetadataIdToTypeBitwidthMap}
    {p : PacketMetadata} {type : P4FieldType} {bitwidth : Nat}
    (hid : idToType p.metadataId = some (type, bitwidth)) :
    parseMetadataHelper idToType p = .ok ⟨type,
      if bitwidth ≤ 32 then .u32 (byteStreamToUint 4 p.value)
      else if bitwidth ≤ 64 then .u64 (byteStreamToUint 8 p.value)
      else .b p.value⟩ := by
  simp only [parseMetadataHelper, hid]
  split_ifs <;> rfl

theorem parsesValues_parseMetadataHelper (idToType : MetadataIdToTypeBitwidthMap) :
    ParsesValues idToType (parseMetadataHelper idToType) := by
  intro p type bitwidth hid hlen32 hlen64
  rw [parseMetadataHelper_of_eq_some hid, expectedValue]
  by_cases hw32 : bitwidth ≤ 32
  · rw [if_pos hw32, if_pos hw32, byteStreamToUint_of_length_le (hlen32 hw32)]
  · by_cases hw64 : bitwidth ≤ 64
    · rw [if_neg hw32, if_neg hw32, if_pos hw64, if_pos hw64,
        byteStreamToUint_of_length_le (hlen64 hw64)]
    · rw [if_neg hw32, if_neg hw32, if_neg hw64, if_neg hw64]

/-- A value of at most `8 * size` bits fits `size` bytes. -/
theorem lt_256_pow_of_lt_two_pow {val bitwidth size : Nat} (hval : val < 2 ^ bitwidth)
    (hw : bitwidth ≤ 8 * size) : val < 256 ^ size :=
  calc val < 2 ^ bitwidth := hval
    _ ≤ 2 ^ (8 * size) := Nat.pow_le_pow_right (by decide) hw
    _ = 256 ^ size := by rw [Nat.pow_mul]

/-- Over two maps that agree, every mapped value of the representation its
width selects comes back. -/
theorem roundTrips_metadataHelpers {typeToId : MetadataTypeToIdBitwidthMap}
    {idToType : MetadataIdToTypeBitwidthMap}
    (hagree : ∀ type id bitwidth, typeToId type = some (id, bitwidth) →
      idToType id = some (type, bitwidth)) :
    RoundTrips typeToId (deparseMetadataHelper typeToId) (parseMetadataHelper idToType) := by
  rintro ⟨type, val⟩ id bitwidth htype hw
  have hid : idToType id = some (type, bitwidth) := hagree type id bitwidth htype
  cases val with
  | u32 val =>
      obtain ⟨hw32, hval⟩ := hw
      refine ⟨⟨id, uint32ToByteStream val⟩, ?_, rfl, ?_⟩
      · simp only [deparseMetadataHelper, htype, if_neg (Nat.not_lt.mpr hw32)]
      · -- the stream of a `uint32` reads back as the value
        rw [parseMetadataHelper_of_eq_some (p := ⟨id, _⟩) hid, if_pos hw32, uint32ToByteStream,
          byteStreamToUint_stripLeadingZeroBytes,
          Nat.mod_eq_of_lt (lt_256_pow_of_lt_two_pow hval (by omega))]
  | u64 val =>
      obtain ⟨hw32, hw64, hval⟩ := hw
      refine ⟨⟨id, uint64ToByteStream val⟩, ?_, rfl, ?_⟩
      · have hin : ¬(bitwidth ≤ 32 ∨ bitwidth > 64) := by omega
        simp only [deparseMetadataHelper, htype, if_neg hin]
      · rw [parseMetadataHelper_of_eq_some (p := ⟨id, _⟩) hid, if_neg (by omega), if_pos hw64,
          uint64ToByteStream, byteStreamToUint_stripLeadingZeroBytes,
          Nat.mod_eq_of_lt (lt_256_pow_of_lt_two_pow hval (by omega))]
  | b bytes =>
      have hw64 : 64 < bitwidth := hw
      refine ⟨⟨id, bytes⟩, ?_, rfl, ?_⟩
      · simp only [deparseMetadataHelper, htype, if_neg (Nat.not_le.mpr hw64)]
      · rw [parseMetadataHelper_of_eq_some (p := ⟨id, _⟩) hid, if_neg (by omega),
          if_neg (by omega)]
  | notSet => exact hw.elim

/-! ## After a push -/

/-- The mapped metadata of the header `name` have distinct IDs and distinct
field types. -/
def MetadataDistinct (config : P4PipelineConfig) (p4Info : P4Info) (name : String) : Prop :=
  ((metadataEntries config p4Info name).map Prod.fst).Nodup ∧
    ((metadataEntries config p4Info name).map fun entry => entry.2.1).Nodup

instance (config : P4PipelineConfig) (p4Info : P4Info) (name : String) :
    Decidable (MetadataDistinct config p4Info name) :=
  inferInstanceAs (Decidable (_ ∧ _))

/-- With distinct IDs and types, the two maps of a header agree. -/
theorem indexes_agree {config : P4PipelineConfig} {p4Info : P4Info} {name : String}
    (hdistinct : MetadataDistinct config p4Info name) (type : P4FieldType) (id bitwidth : Nat) :
    insertAllIfAbsent (fun _ => none) ((metadataEntries config p4Info name).map typeKeyed) type =
        some (id, bitwidth) →
      insertAllIfAbsent (fun _ => none) (metadataEntries config p4Info name) id =
        some (type, bitwidth) :=
  (insertAllIfAbsent_swap_eq_some_iff hdistinct.1 hdistinct.2).mp

theorem packet_metadata_codec {config : P4PipelineConfig} {p4Info : P4Info}
    (hin : MetadataDistinct config p4Info kIngressMetadataPreambleName)
    (hout : MetadataDistinct config p4Info kEgressMetadataPreambleName) :
    RoundTrips (buildMetadataMaps config p4Info).packetinMetadataTypeToIdBitwidthPair
        (buildMetadataMaps config p4Info).deparsePacketInMetadata
        (buildMetadataMaps config p4Info).parsePacketInMetadata ∧
      RoundTrips (buildMetadataMaps config p4Info).packetoutMetadataTypeToIdBitwidthPair
        (buildMetadataMaps config p4Info).deparsePacketOutMetadata
        (buildMetadataMaps config p4Info).parsePacketOutMetadata ∧
      ParsesValues (buildMetadataMaps config p4Info).packetinMetadataIdToTypeBitwidthPair
        (buildMetadataMaps config p4Info).parsePacketInMetadata ∧
      ParsesValues (buildMetadataMaps config p4Info).packetoutMetadataIdToTypeBitwidthPair
        (buildMetadataMaps config p4Info).parsePacketOutMetadata := by
  rw [buildMetadataMaps_eq]
  exact ⟨roundTrips_metadataHelpers (indexes_agree hin),
    roundTrips_metadataHelpers (indexes_agree hout),
    parsesValues_parseMetadataHelper _, parsesValues_parseMetadataHelper _⟩

/-- A pipeline whose `packet_in` header carries the 9-bit ingress port and
whose `packet_out` header the 9-bit egress port, of the field types
`P4_FIELD_TYPE_INGRESS_PORT` (28) and `P4_FIELD_TYPE_EGRESS_PORT` (27). -/
def portMetadataConfig : P4PipelineConfig where
  tableMap key :=
    if key = "packet_in.ingress_port" then some (.fieldDescriptor ⟨28⟩)
    else if key = "packet_out.egress_port" then some (.fieldDescriptor ⟨27⟩)
    else none

/-- The P4Info of those two headers. -/
def portMetadataP4Info : P4Info where
  typeInfo := none
  tables := []
  actions := []
  controllerPacketMetadata :=
    [⟨"packet_in", [⟨1, "ingress_port", 9, none⟩]⟩, ⟨"packet_out", [⟨1, "egress_port", 9, none⟩]⟩]
  counters := []
  meters := []
  registers := []

/-- The ingress port `300` goes out as metadata `1` and comes back. -/
theorem packet_metadata_codec_ingressPort :
    ∃ p, (buildMetadataMaps portMetadataConfig portMetadataP4Info).deparsePacketInMetadata
        ⟨⟨28⟩, .u32 300⟩ = .ok p ∧ p.metadataId = 1 ∧
      (buildMetadataMaps portMetadataConfig portMetadataP4Info).parsePacketInMetadata p =
        .ok ⟨⟨28⟩, .u32 300⟩ :=
  (packet_metadata_codec (by decide) (by decide)).1 ⟨⟨28⟩, .u32 300⟩ 1 9 (by decide) (by decide)

/-- The five bytes `00 00 00 00 07`, of value 7, for the 9-bit ingress port
parse to the port `0`: `ByteStreamToUint<uint32>` reads the first four bytes
only. -/
theorem packet_in_metadata_truncated :
    MetadataDistinct portMetadataConfig portMetadataP4Info kIngressMetadataPreambleName ∧
      (buildMetadataMaps portMetadataConfig portMetadataP4Info).packetinMetadataIdToTypeBitwidthPair
        1 = some (⟨28⟩, 9) ∧
      value [0, 0, 0, 0, 7] = 7 ∧
      (buildMetadataMaps portMetadataConfig portMetadataP4Info).parsePacketInMetadata
        ⟨1, [0, 0, 0, 0, 7]⟩ = .ok ⟨⟨28⟩, .u32 0⟩ :=
  ⟨by decide, by decide, by decide, by decide⟩

end Stratum.Ports.P4TableMapper
