import Stratum.Ports.BfSdeWrapper
import Stratum.Ports.BfrtPacketioManager
import Stratum.Verified.PairedMaps

/-!
# `BfrtP4RuntimeTranslator`

`stratum/hal/lib/barefoot/bfrt_p4runtime_translator.cc` rewrites the values
of P4Runtime messages whose P4Info type is a translated type, between the
controller's (SDN) view and the switch SDK's. The one translated type it
supports is `tna/PortId_t`: a singleton port ID of the chassis config on the
controller side, a 9-bit device port on the SDK side. `PushChassisConfig`
builds the two port maps, `PushForwardingPipelineConfig` the caches of which
P4 objects carry translated types, and the `Translate*` methods rewrite
messages through them.

Each `absl::flat_hash_map` member is modelled by its lookup function
(`IdMap`): `gtl::FindOrNull` and `operator[]` on a key known to be present
are application, an assignment is `Function.update`. The SDE interface is
outside this repository; `SdeInterface` stands for its two calls at the
translator's device. The reader-writer lock is left out: each method is one
step on the translator's state.
-/

namespace Stratum.Ports.BfrtP4RuntimeTranslator

open Function
open Stratum.Verified.BigEndian Stratum.Verified.PairedMaps
open Stratum.Ports.Status Stratum.Ports.P4Runtime Stratum.Ports.P4Utils
open Stratum.Ports.BfrtPacketioManager Stratum.Ports.BarefootUtils

/-! ## Constants -/

/-- `kTnaPortIdBitWidth`. -/
def kTnaPortIdBitWidth : Nat := 9

/-- `kUriTnaPortId`. -/
def kUriTnaPortId : String := "tna/PortId_t"

/-- `kSdnTnaRecirculationPortBase`. -/
def kSdnTnaRecirculationPortBase : Nat := 0xFFFFFF00

/-- `kTnaRecirculationPortBase`. -/
def kTnaRecirculationPortBase : Nat := 0x44

/-- `kTnaMaxNumPipes`. -/
def kTnaMaxNumPipes : Nat := 4

/-- `kUriToBitWidth`, by its lookup. -/
def kUriToBitWidth (uri : String) : Option Nat :=
  if uri = kUriTnaPortId then some kTnaPortIdBitWidth else none

/-- `kSdnUnspecifiedPortId` of `hal/lib/common/constants.h`. -/
def kSdnUnspecifiedPortId : Nat := 0

/-- `kSdnCpuPortId` of `hal/lib/common/constants.h`. -/
def kSdnCpuPortId : Nat := 0xFFFFFFFD

/-! ## Integer casts -/

/-- `static_cast<uint32>` of a signed integer: its residue modulo `2 ^ 32`. -/
def toUint32 (i : Int) : Nat := (i % 2 ^ 32).toNat

/-! ## State -/

/-- A `flat_hash_map` keyed by a P4 or port ID, by its lookup. -/
abbrev IdMap (β : Type) := Nat → Option β

/-- The empty map. -/
def IdMap.empty {β : Type} : IdMap β := fun _ => none

/-- The translation caches `PushForwardingPipelineConfig` builds: for each
kind of P4 object, the URI and the SDN bit width of its translated fields. -/
structure TranslationMaps where
  tableToFieldToTypeUri : IdMap (IdMap String)
  actionToParamToTypeUri : IdMap (IdMap String)
  packetInMetaToTypeUri : IdMap String
  packetOutMetaToTypeUri : IdMap String
  counterToTypeUri : IdMap String
  meterToTypeUri : IdMap String
  registerToTypeUri : IdMap String
  tableToFieldToBitWidth : IdMap (IdMap Nat)
  actionToParamToBitWidth : IdMap (IdMap Nat)
  packetInMetaToBitWidth : IdMap Nat
  packetOutMetaToBitWidth : IdMap Nat

/-- No translation cached. -/
def TranslationMaps.empty : TranslationMaps :=
  ⟨.empty, .empty, .empty, .empty, .empty, .empty, .empty, .empty, .empty, .empty, .empty⟩

/-- The members of `BfrtP4RuntimeTranslator`. -/
structure Translator where
  translationEnabled : Bool
  pipelineRequireTranslation : Bool
  singletonPortToSdkPort : IdMap Nat
  sdkPortToSingletonPort : IdMap Nat
  maps : TranslationMaps

/-- `CreateInstance`: no pipeline requires translation yet. -/
def Translator.create (translationEnabled : Bool) : Translator :=
  ⟨translationEnabled, false, .empty, .empty, .empty⟩

/-- The two port maps, forward from singleton ports. -/
def Translator.portMaps (s : Translator) : Maps Nat Nat :=
  ⟨s.singletonPortToSdkPort, s.sdkPortToSingletonPort⟩

/-! ## `PushChassisConfig` -/

/-- The fields of a `SingletonPort` (`hal/lib/common/common.proto`) the
translator reads. -/
structure SingletonPort where
  id : Nat
  slot : Int
  port : Int
  channel : Int
  deriving DecidableEq, Repr

/-- `ChassisConfig`, with the field the translator reads. -/
structure ChassisConfig where
  singletonPorts : List SingletonPort
  deriving DecidableEq, Repr

/-- `PortKey` (`hal/lib/common/utils.h`). -/
structure PortKey where
  slot : Int
  port : Int
  channel : Int
  deriving DecidableEq, Repr

/-- `PortKey singleton_port_key(slot, port, channel)`. -/
def SingletonPort.portKey (singletonPort : SingletonPort) : PortKey :=
  ⟨singletonPort.slot, singletonPort.port, singletonPort.channel⟩

/-- The `BfSdeInterface` calls of `PushChassisConfig`, at the translator's
device. -/
structure SdeInterface where
  getPcieCpuPort : StatusOr Int
  getPortIdFromPortKey : PortKey → StatusOr Nat

/-- Map a singleton port to an SDK port in both port maps. -/
def Translator.insertPort (s : Translator) (sdnPort sdkPort : Nat) : Translator :=
  { s with
    singletonPortToSdkPort := update s.singletonPortToSdkPort sdnPort (some sdkPort)
    sdkPortToSingletonPort := update s.sdkPortToSingletonPort sdkPort (some sdnPort) }

/-- The recirculation ports of the pipes, as (SDN port, SDK port):
`kSdnTnaRecirculationPortBase + pipe` and
`kTnaRecirculationPortBase | (pipe << 7)`. -/
def recirculationPorts : List (Nat × Nat) :=
  (List.range kTnaMaxNumPipes).map fun pipe =>
    (kSdnTnaRecirculationPortBase + pipe, kTnaRecirculationPortBase ||| pipe <<< 7)

/-- The loop of `PushChassisConfig` over the singleton ports: the first
port whose key the SDE does not know stops it. -/
def insertSingletonPorts (sde : SdeInterface) :
    Translator → List SingletonPort → Translator × StatusOr Unit
  | s, [] => (s, .ok ())
  | s, singletonPort :: rest =>
      match sde.getPortIdFromPortKey singletonPort.portKey with
      | .error status => (s, .error status)
      | .ok sdkPortId => insertSingletonPorts sde (s.insertPort singletonPort.id sdkPortId) rest

/-- `PushChassisConfig`: both port maps are cleared and rebuilt from the
special ports and the singleton ports, in place. -/
def pushChassisConfig (sde : SdeInterface) (s : Translator) (config : ChassisConfig) :
    Translator × StatusOr Unit :=
  -- the unspecified port has a forward entry only
  let s := { s with
    singletonPortToSdkPort := update IdMap.empty kSdnUnspecifiedPortId (some 0)
    sdkPortToSingletonPort := IdMap.empty }
  match sde.getPcieCpuPort with
  | .error status => (s, .error status)
  | .ok cpuSdkPort =>
      let s := s.insertPort kSdnCpuPortId (toUint32 cpuSdkPort)
      let s := recirculationPorts.foldl (fun s p => s.insertPort p.1 p.2) s
      insertSingletonPorts sde s config.singletonPorts

/-! ## `PushForwardingPipelineConfig` -/

/-- The first loop of `PushForwardingPipelineConfig`: the URI and SDN bit
width of every translated type. It sets `pipeline_require_translation_` at
each translated type, before an unsupported SDN type stops it; the flag is
returned with the outcome. -/
def collectNewTypes : Bool → (String → Option String) → (String → Option Nat) →
    List (String × P4NewTypeSpec) →
    Bool × StatusOr ((String → Option String) × (String → Option Nat))
  | requireTranslation, typeNameToUri, typeNameToBitWidth, [] =>
      (requireTranslation, .ok (typeNameToUri, typeNameToBitWidth))
  | requireTranslation, typeNameToUri, typeNameToBitWidth, (typeName, spec) :: rest =>
      match spec with
      | .translatedType translation =>
          let typeNameToUri := update typeNameToUri typeName (some translation.uri)
          match translation.sdnType with
          | .sdnBitwidth bitwidth =>
              collectNewTypes true typeNameToUri
                (update typeNameToBitWidth typeName (some bitwidth)) rest
          | sdnType => (true, .error ⟨.errUnimplemented,
              "Unsupported SDN type: " ++ toString sdnType.sdnTypeCase⟩)
      | _ => collectNewTypes requireTranslation typeNameToUri typeNameToBitWidth rest

/-- `map[outer][inner] = value` on a map of maps; `operator[]` on the outer
map makes an empty inner map first. -/
def setNested {β : Type} (m : IdMap (IdMap β)) (outer inner : Nat) (value : β) :
    IdMap (IdMap β) :=
  update m outer (some (update ((m outer).getD IdMap.empty) inner (some value)))

/-- The URI and the bit width of one typed field of a table or an action:
each is cached when the field's type name has one. -/
def fieldTypes (typeNameToUri : String → Option String)
    (typeNameToBitWidth : String → Option Nat) (objectId fieldId : Nat) (typeName : String)
    (acc : IdMap (IdMap String) × IdMap (IdMap Nat)) :
    IdMap (IdMap String) × IdMap (IdMap Nat) :=
  (match typeNameToUri typeName with
    | some uri => setNested acc.1 objectId fieldId uri
    | none => acc.1,
   match typeNameToBitWidth typeName with
    | some bitWidth => setNested acc.2 objectId fieldId bitWidth
    | none => acc.2)

/-- One match field of the table loop; a match field's URI must be one of
`kUriToBitWidth`. -/
def matchFieldTypes (typeNameToUri : String → Option String)
    (typeNameToBitWidth : String → Option Nat) (tableId : Nat)
    (acc : IdMap (IdMap String) × IdMap (IdMap Nat)) (matchField : P4Info.MatchField) :
    StatusOr (IdMap (IdMap String) × IdMap (IdMap Nat)) :=
  match matchField.typeName with
  | none => .ok acc
  | some typeName =>
      match typeNameToUri typeName with
      | some uri =>
          if (kUriToBitWidth uri).isSome then
            .ok (fieldTypes typeNameToUri typeNameToBitWidth tableId matchField.id typeName acc)
          else .error ⟨.errInvalidParam, ""⟩
      | none => .ok (fieldTypes typeNameToUri typeNameToBitWidth tableId matchField.id typeName acc)

/-- One parameter of the action loop, which checks no URI. -/
def paramTypes (typeNameToUri : String → Option String)
    (typeNameToBitWidth : String → Option Nat) (actionId : Nat)
    (acc : IdMap (IdMap String) × IdMap (IdMap Nat)) (param : P4Info.Param) :
    IdMap (IdMap String) × IdMap (IdMap Nat) :=
  match param.typeName with
  | none => acc
  | some typeName => fieldTypes typeNameToUri typeNameToBitWidth actionId param.id typeName acc

/-- `map.emplace(key, value)`: a key already present keeps its value. -/
def emplace {β : Type} (m : IdMap β) (key : Nat) (value : β) : IdMap β :=
  match m key with
  | some _ => m
  | none => update m key (some value)

/-- One metadata field of a controller header: its URI and bit width are
emplaced, so the first field with an ID wins. -/
def metadataTypes (typeNameToUri : String → Option String)
    (typeNameToBitWidth : String → Option Nat) (acc : IdMap String × IdMap Nat)
    (metadata : ControllerPacketMetadata.Metadata) : IdMap String × IdMap Nat :=
  match metadata.typeName with
  | none => acc
  | some typeName =>
      (match typeNameToUri typeName with
        | some uri => emplace acc.1 metadata.id uri
        | none => acc.1,
       match typeNameToBitWidth typeName with
        | some bitWidth => emplace acc.2 metadata.id bitWidth
        | none => acc.2)

/-- The loop over the controller headers: `packet_in` and `packet_out`
fields go to their own maps, any other header is refused. -/
def controllerHeaderTypes (typeNameToUri : String → Option String)
    (typeNameToBitWidth : String → Option Nat) :
    (IdMap String × IdMap Nat) × (IdMap String × IdMap Nat) → List ControllerPacketMetadata →
    StatusOr ((IdMap String × IdMap Nat) × (IdMap String × IdMap Nat))
  | acc, [] => .ok acc
  | (packetIn, packetOut), pktMd :: rest =>
      if pktMd.preambleName = kIngressMetadataPreambleName then
        controllerHeaderTypes typeNameToUri typeNameToBitWidth
          (pktMd.metadata.foldl (metadataTypes typeNameToUri typeNameToBitWidth) packetIn,
            packetOut) rest
      else if pktMd.preambleName = kEgressMetadataPreambleName then
        controllerHeaderTypes typeNameToUri typeNameToBitWidth
          (packetIn,
            pktMd.metadata.foldl (metadataTypes typeNameToUri typeNameToBitWidth) packetOut) rest
      else .error ⟨.errUnimplemented, "Unsupported controller header " ++ pktMd.preambleName⟩

/-- The loops over counters, meters and registers: the URI of each one's
index type. -/
def indexTypeUris (typeNameToUri : String → Option String)
    (resources : List P4Info.IndexedResource) : IdMap String :=
  resources.foldl (fun uris resource =>
    match resource.indexTypeName.bind typeNameToUri with
    | some uri => update uris resource.id (some uri)
    | none => uris) IdMap.empty

/-- The counter loop. -/
def counterToTypeUri (typeNameToUri : String → Option String) (p4info : P4Info) :
    IdMap String :=
  indexTypeUris typeNameToUri p4info.counters

/-- The meter loop. -/
def meterToTypeUri (typeNameToUri : String → Option String) (p4info : P4Info) :
    IdMap String :=
  indexTypeUris typeNameToUri p4info.meters

/-- The register loop. -/
def registerToTypeUri (typeNameToUri : String → Option String) (p4info : P4Info) :
    IdMap String :=
  indexTypeUris typeNameToUri p4info.registers

/-- The caches of `PushForwardingPipelineConfig`, built in locals and only
assigned to the members once every loop has passed. -/
def buildTranslationMaps (typeNameToUri : String → Option String)
    (typeNameToBitWidth : String → Option Nat) (p4info : P4Info) :
    StatusOr TranslationMaps := do
  let tables ← p4info.tables.foldlM (fun acc table =>
    table.matchFields.foldlM (matchFieldTypes typeNameToUri typeNameToBitWidth table.id) acc)
    (IdMap.empty, IdMap.empty)
  let actions := p4info.actions.foldl (fun acc action =>
    action.params.foldl (paramTypes typeNameToUri typeNameToBitWidth action.id) acc)
    (IdMap.empty, IdMap.empty)
  let headers ← controllerHeaderTypes typeNameToUri typeNameToBitWidth
    ((IdMap.empty, IdMap.empty), (IdMap.empty, IdMap.empty)) p4info.controllerPacketMetadata
  pure ⟨tables.1, actions.1, headers.1.1, headers.2.1, counterToTypeUri typeNameToUri p4info,
    meterToTypeUri typeNameToUri p4info, registerToTypeUri typeNameToUri p4info, tables.2,
    actions.2, headers.1.2, headers.2.2⟩

/-- `PushForwardingPipelineConfig`. Without translation enabled or type
info, no translation is required. -/
def pushForwardingPipelineConfig (s : Translator) (p4info : P4Info) :
    Translator × StatusOr Unit :=
  match s.translationEnabled, p4info.typeInfo with
  | true, some typeInfo =>
      match collectNewTypes s.pipelineRequireTranslation (fun _ => none) (fun _ => none)
          typeInfo.newTypes with
      | (requireTranslation, .error status) =>
          ({ s with pipelineRequireTranslation := requireTranslation }, .error status)
      | (requireTranslation, .ok (typeNameToUri, typeNameToBitWidth)) =>
          match buildTranslationMaps typeNameToUri typeNameToBitWidth p4info with
          | .error status =>
              ({ s with pipelineRequireTranslation := requireTranslation }, .error status)
          | .ok maps => ({ s with maps := maps, pipelineRequireTranslation := true }, .ok ())
  | _, _ => ({ s with pipelineRequireTranslation := false }, .ok ())

/-! ## Values -/

/-- The bytes of a port value, as the characters an error message streams. -/
def bytesToString (bytes : ByteString) : String :=
  String.ofList (bytes.map fun b => Char.ofNat b.toNat)

/-- `TranslateTnaPortId`: to the SDK, the singleton port the value names
(its first four bytes) goes to its SDK port; from the SDK, a value of at most
two bytes names an SDK port, which goes back to its singleton port. -/
def translateTnaPortId (s : Translator) (value : ByteString) (toSdk : Bool)
    (_bitWidth : Nat) : StatusOr ByteString :=
  if toSdk then
    let portId := byteStreamToUint 4 value
    match s.singletonPortToSdkPort portId with
    | some sdkPort => .ok (uint32ToByteStream sdkPort)
    | none => .error ⟨.errInvalidParam,
        "Could not find SDK port for singleton port " ++ toString portId ++ "."⟩
  else if value.length ≤ numBitsToNumBytes kTnaPortIdBitWidth then
    let sdkPortId := byteStreamToUint 4 value
    match s.sdkPortToSingletonPort sdkPortId with
    | some portId => .ok (uint32ToByteStream portId)
    | none => .error ⟨.errInvalidParam,
        "Could not find singleton port for sdk port " ++ toString sdkPortId ++ "."⟩
  else .error ⟨.errInvalidParam,
    "Port value " ++ bytesToString value ++ " exceeds maximum bit width"⟩

/-- `TranslateValue`: only `tna/PortId_t` is known. -/
def translateValue (s : Translator) (value : ByteString) (uri : String) (toSdk : Bool)
    (bitWidth : Nat) : StatusOr ByteString :=
  if uri = kUriTnaPortId then translateTnaPortId s value toSdk bitWidth
  else .error ⟨.errUnimplemented, "Unknown URI: " ++ uri⟩

/-- `TranslateIndex`: an index of type `tna/PortId_t`, cast to `uint32`,
goes through a port map. -/
def translateIndex (s : Translator) (index : Index) (uri : String) (toSdk : Bool) :
    StatusOr Index :=
  if uri = kUriTnaPortId then
    if toSdk then
      match s.singletonPortToSdkPort (toUint32 index.index) with
      | some sdkPort => .ok ⟨sdkPort⟩
      | none => .error ⟨.errInvalidParam,
          "Could not find SDK port for singleton port " ++ toString index.index ++ "."⟩
    else
      match s.sdkPortToSingletonPort (toUint32 index.index) with
      | some portId => .ok ⟨portId⟩
      | none => .error ⟨.errInvalidParam,
          "Could not find singleton port for sdk port " ++ toString index.index ++ "."⟩
  else .error ⟨.errUnimplemented, "Unsupported URI: " ++ uri⟩

/-! ## Table entries and actions -/

/-- One match field of `TranslateTableEntryInternal`. A field is translated
when its table caches a URI for it and both widths are non-zero; the
ternary, LPM and range kinds are only accepted in their exact-match form. -/
def translateFieldMatch (s : Translator) (toSdk : Bool) (fieldToTypeUri : IdMap String)
    (fieldToBitWidth : IdMap Nat) (fieldMatch : FieldMatch) : StatusOr FieldMatch :=
  match fieldToTypeUri fieldMatch.fieldId with
  | none => .ok fieldMatch
  | some uri =>
      let sdnBitWidth := (fieldToBitWidth fieldMatch.fieldId).getD 0
      let sdkBitWidth := (kUriToBitWidth uri).getD 0
      let fromBitWidth := if toSdk then sdnBitWidth else sdkBitWidth
      let toBitWidth := if toSdk then sdkBitWidth else sdnBitWidth
      if fromBitWidth = 0 ∨ toBitWidth = 0 then .ok fieldMatch
      else
        let translate (value : ByteString) := translateValue s value uri toSdk toBitWidth
        match fieldMatch.fieldMatchType with
        | .exact value => do
            let newVal ← translate value
            pure { fieldMatch with fieldMatchType := .exact newVal }
        | .ternary value mask =>
            if mask = allOnesByteString fromBitWidth then do
              let newVal ← translate value
              pure { fieldMatch with
                fieldMatchType := .ternary newVal (allOnesByteString toBitWidth) }
            else .error ⟨.errInvalidParam, ""⟩
        | .lpm value prefixLen =>
            if prefixLen = fromBitWidth then do
              let newVal ← translate value
              pure { fieldMatch with fieldMatchType := .lpm newVal toBitWidth }
            else .error ⟨.errInvalidParam, ""⟩
        | .range low high =>
            if low = high then do
              let newVal ← translate low
              pure { fieldMatch with fieldMatchType := .range newVal newVal }
            else .error ⟨.errInvalidParam, ""⟩
        | .optional value => do
            let newVal ← translate value
            pure { fieldMatch with fieldMatchType := .optional newVal }
        | _ => .error ⟨.errUnimplemented, "Unsupported field match type: "⟩

/-- One parameter of `TranslateAction`. To the SDK the target width is the
URI's; from the SDK it is the cached SDN width, looked up whether or not the
parameter has a URI. -/
def translateParam (s : Translator) (toSdk : Bool) (paramToTypeUri : IdMap String)
    (paramToBitWidth : IdMap Nat) (param : Param) : StatusOr Param :=
  let uri := paramToTypeUri param.paramId
  let toBitWidth :=
    match toSdk, uri with
    | true, some uri => (kUriToBitWidth uri).getD 0
    | _, _ => (paramToBitWidth param.paramId).getD 0
  match uri with
  | some uri =>
      if toBitWidth ≠ 0 then do
        let newVal ← translateValue s param.value uri toSdk toBitWidth
        pure { param with value := newVal }
      else .ok param
  | none => .ok param

/-- `TranslateAction`: the parameters of an action with cached URIs and
widths. -/
def translateAction (s : Translator) (action : Action) (toSdk : Bool) : StatusOr Action :=
  match s.maps.actionToParamToTypeUri action.actionId,
      s.maps.actionToParamToBitWidth action.actionId with
  | some paramToTypeUri, some paramToBitWidth => do
      let params ← action.params.mapM (translateParam s toSdk paramToTypeUri paramToBitWidth)
      pure { action with params := params }
  | _, _ => .ok action

/-- One action of an action-profile action set. -/
def translateActionProfileAction (s : Translator) (toSdk : Bool)
    (actionProfileAction : ActionProfileAction) : StatusOr ActionProfileAction := do
  let action ← translateAction s actionProfileAction.action toSdk
  pure { actionProfileAction with action := action }

/-- The action switch of `TranslateTableEntryInternal`; member and group
references pass unchanged. -/
def translateTableAction (s : Translator) (toSdk : Bool) : TableAction → StatusOr TableAction
  | .action action => do
      let action ← translateAction s action toSdk
      pure (.action action)
  | .actionProfileActionSet actions => do
      let actions ← actions.mapM (translateActionProfileAction s toSdk)
      pure (.actionProfileActionSet actions)
  | tableAction => .ok tableAction

/-- The match loop of `TranslateTableEntryInternal`: only a table with both
caches has its matches translated. -/
def translateEntryFieldMatches (s : Translator) (tableId : Nat) (fieldMatches : List FieldMatch)
    (toSdk : Bool) : StatusOr (List FieldMatch) :=
  match s.maps.tableToFieldToTypeUri tableId, s.maps.tableToFieldToBitWidth tableId with
  | some fieldToTypeUri, some fieldToBitWidth =>
      fieldMatches.mapM (translateFieldMatch s toSdk fieldToTypeUri fieldToBitWidth)
  | _, _ => pure fieldMatches

/-- The action switch of `TranslateTableEntryInternal`; an unset action
passes unchanged. -/
def translateEntryAction (s : Translator) (action : Option TableAction) (toSdk : Bool) :
    StatusOr (Option TableAction) :=
  match action with
  | some tableAction => do
      let tableAction ← translateTableAction s toSdk tableAction
      pure (some tableAction)
  | none => pure none

/-- `TranslateTableEntryInternal`: the match fields, then the action. -/
def translateTableEntryInternal (s : Translator) (entry : TableEntry) (toSdk : Bool) :
    StatusOr TableEntry := do
  let fieldMatches ← translateEntryFieldMatches s entry.tableId entry.fieldMatches toSdk
  let action ← translateEntryAction s entry.action toSdk
  pure { entry with fieldMatches := fieldMatches, action := action }

/-- `TranslateTableEntry`. -/
def translateTableEntry (s : Translator) (entry : TableEntry) (toSdk : Bool) :
    StatusOr TableEntry :=
  if s.pipelineRequireTranslation then translateTableEntryInternal s entry toSdk
  else .ok entry

/-- `TranslateActionProfileMember`. -/
def translateActionProfileMember (s : Translator) (member : ActionProfileMember)
    (toSdk : Bool) : StatusOr ActionProfileMember :=
  if s.pipelineRequireTranslation then do
    let action ← translateAction s member.action toSdk
    pure { member with action := action }
  else .ok member

/-- `TranslateDirectCounterEntry`. -/
def translateDirectCounterEntry (s : Translator) (entry : DirectCounterEntry)
    (toSdk : Bool) : StatusOr DirectCounterEntry :=
  if s.pipelineRequireTranslation then do
    let tableEntry ← translateTableEntryInternal s entry.tableEntry toSdk
    pure { entry with tableEntry := tableEntry }
  else .ok entry

/-- `TranslateDirectMeterEntry`. -/
def translateDirectMeterEntry (s : Translator) (entry : DirectMeterEntry) (toSdk : Bool) :
    StatusOr DirectMeterEntry :=
  if s.pipelineRequireTranslation then do
    let tableEntry ← translateTableEntryInternal s entry.tableEntry toSdk
    pure { entry with tableEntry := tableEntry }
  else .ok entry

/-! ## Indexed entries and replicas -/

/-- The index of a counter, meter or register entry whose P4 object has an
index URI. -/
def translateEntryIndex (s : Translator) (toUri : IdMap String) (id : Nat)
    (index : Option Index) (toSdk : Bool) : StatusOr (Option Index) :=
  match index, toUri id with
  | some index, some uri => do
      let index ← translateIndex s index uri toSdk
      pure (some index)
  | _, _ => .ok index

/-- `TranslateCounterEntry`. -/
def translateCounterEntry (s : Translator) (entry : CounterEntry) (toSdk : Bool) :
    StatusOr CounterEntry :=
  if s.pipelineRequireTranslation then do
    let index ← translateEntryIndex s s.maps.counterToTypeUri entry.counterId entry.index toSdk
    pure { entry with index := index }
  else .ok entry

/-- `TranslateMeterEntry`. -/
def translateMeterEntry (s : Translator) (entry : MeterEntry) (toSdk : Bool) :
    StatusOr MeterEntry :=
  if s.pipelineRequireTranslation then do
    let index ← translateEntryIndex s s.maps.meterToTypeUri entry.meterId entry.index toSdk
    pure { entry with index := index }
  else .ok entry

/-- `TranslateRegisterEntry`. -/
def translateRegisterEntry (s : Translator) (entry : RegisterEntry) (toSdk : Bool) :
    StatusOr RegisterEntry :=
  if s.pipelineRequireTranslation then do
    let index ←
      translateEntryIndex s s.maps.registerToTypeUri entry.registerId entry.index toSdk
    pure { entry with index := index }
  else .ok entry

/-- `TranslateReplica`: the egress port always goes through a port map. -/
def translateReplica (s : Translator) (replica : Replica) (toSdk : Bool) :
    StatusOr Replica :=
  if toSdk then
    match s.singletonPortToSdkPort replica.egressPort with
    | some sdkPort => .ok { replica with egressPort := sdkPort }
    | none => .error ⟨.errInvalidParam,
        "Could not find SDK port for singleton port " ++ toString replica.egressPort ++ "."⟩
  else
    match s.sdkPortToSingletonPort replica.egressPort with
    | some portId => .ok { replica with egressPort := portId }
    | none => .error ⟨.errInvalidParam,
        "Could not find singleton port for sdk port " ++ toString replica.egressPort ++ "."⟩

/-- `TranslatePacketReplicationEngineEntry`: every replica of a multicast
group or a clone session. -/
def translatePacketReplicationEngineEntry (s : Translator)
    (entry : PacketReplicationEngineEntry) (toSdk : Bool) :
    StatusOr PacketReplicationEngineEntry :=
  if s.pipelineRequireTranslation then
    match entry with
    | .multicastGroupEntry group => do
        let replicas ← group.replicas.mapM (translateReplica s · toSdk)
        pure (.multicastGroupEntry { group with replicas := replicas })
    | .cloneSessionEntry session => do
        let replicas ← session.replicas.mapM (translateReplica s · toSdk)
        pure (.cloneSessionEntry { session with replicas := replicas })
    | .notSet => .ok entry
  else .ok entry

/-! ## Packet metadata -/

/-- `TranslatePacketMetadata`. -/
def translatePacketMetadata (s : Translator) (packetMetadata : PacketMetadata) (uri : String)
    (bitWidth : Nat) (toSdk : Bool) : StatusOr PacketMetadata := do
  let value ← translateValue s packetMetadata.value uri toSdk bitWidth
  pure { packetMetadata with value := value }

/-- One metadata of `TranslatePacketIn`: translated from the SDK when the
`packet_in` header caches both its URI and its width. -/
def translatePacketInMetadata (s : Translator) (md : PacketMetadata) :
    StatusOr PacketMetadata :=
  match s.maps.packetInMetaToTypeUri md.metadataId,
      s.maps.packetInMetaToBitWidth md.metadataId with
  | some uri, some bitWidth => translatePacketMetadata s md uri bitWidth false
  | _, _ => .ok md

/-- `TranslatePacketIn`. -/
def translatePacketIn (s : Translator) (packetIn : PacketIn) : StatusOr PacketIn :=
  if s.pipelineRequireTranslation then do
    let metadata ← packetIn.metadata.mapM (translatePacketInMetadata s)
    pure { packetIn with metadata := metadata }
  else .ok packetIn

/-- One metadata of `TranslatePacketOut`: translated to the SDK when the
`packet_out` header caches a URI that `kUriToBitWidth` knows. -/
def translatePacketOutMetadata (s : Translator) (md : PacketMetadata) :
    StatusOr PacketMetadata :=
  match s.maps.packetOutMetaToTypeUri md.metadataId with
  | none => .ok md
  | some uri =>
      match kUriToBitWidth uri with
      | some bitWidth => translatePacketMetadata s md uri bitWidth true
      | none => .ok md

/-- `TranslatePacketOut`. -/
def translatePacketOut (s : Translator) (packetOut : PacketOut) : StatusOr PacketOut :=
  if s.pipelineRequireTranslation then do
    let metadata ← packetOut.metadata.mapM (translatePacketOutMetadata s)
    pure { packetOut with metadata := metadata }
  else .ok packetOut

end Stratum.Ports.BfrtP4RuntimeTranslator
