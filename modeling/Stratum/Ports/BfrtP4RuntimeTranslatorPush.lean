import Stratum.Ports.BfrtP4RuntimeTranslator
import Stratum.Verified.Run

/-!
# The translator's configuration pushes

`PushChassisConfig` clears both port maps and rebuilds them in place;
`PushForwardingPipelineConfig` builds its caches in locals and assigns them
only once every loop has passed. This file says what each leaves behind:

* `pushChassisConfig_eq_ok` and `pushChassisConfig_error` — the port maps
  are the special ports and the singleton ports, inserted in order, up to the
  first port whose key the SDE does not know; nothing else changes;
* `portMapsReady_pushChassisConfig` — with the singleton ports mapped to
  distinct 9-bit SDK ports apart from the special ones, the reverse map
  inverts the forward map on every port but the unspecified one;
* `pushForwardingPipelineConfig_error` — a failed pipeline push changes
  nothing but `pipeline_require_translation_`;
* `translationMapsReady_pushForwardingPipelineConfig` — when every translated
  type is a `tna/PortId_t` of non-zero width, so is every cached URI.
-/

namespace Stratum.Ports.BfrtP4RuntimeTranslator

open Function
open Stratum.Verified.PairedMaps Stratum.Verified.Run
open Stratum.Ports.Status Stratum.Ports.P4Runtime Stratum.Ports.BarefootUtils

/-! ## Port maps -/

/-- The translator with its two port maps replaced. -/
def Translator.withPortMaps (s : Translator) (m : Maps Nat Nat) : Translator :=
  { s with singletonPortToSdkPort := m.fwd, sdkPortToSingletonPort := m.rev }

@[simp] theorem Translator.portMaps_withPortMaps (s : Translator) (m : Maps Nat Nat) :
    (s.withPortMaps m).portMaps = m := rfl

@[simp] theorem Translator.withPortMaps_withPortMaps (s : Translator) (m m' : Maps Nat Nat) :
    (s.withPortMaps m).withPortMaps m' = s.withPortMaps m' := rfl

theorem Translator.insertPort_eq (s : Translator) (a b : Nat) :
    s.insertPort a b = s.withPortMaps (s.portMaps.insert a b) := rfl

/-- Inserting ports one after another is inserting them into the pair of
maps. -/
theorem foldl_insertPort :
    ∀ (pairs : List (Nat × Nat)) (s : Translator),
      pairs.foldl (fun s p => s.insertPort p.1 p.2) s = s.withPortMaps (s.portMaps.insertAll pairs)
  | [], s => rfl
  | p :: pairs, s => by
      rw [List.foldl_cons, foldl_insertPort pairs, Maps.insertAll_cons, Translator.insertPort_eq,
        Translator.portMaps_withPortMaps, Translator.withPortMaps_withPortMaps]

/-- The port maps right after `clear()`: the unspecified port, forward only. -/
def clearedPortMaps : Maps Nat Nat :=
  ⟨update IdMap.empty kSdnUnspecifiedPortId (some 0), IdMap.empty⟩

/-- The cleared maps send only the unspecified port, to `0`. -/
theorem clearedPortMaps_fwd {a b : Nat} (h : clearedPortMaps.fwd a = some b) :
    a = kSdnUnspecifiedPortId ∧ b = 0 := by
  by_cases ha : a = kSdnUnspecifiedPortId
  · simp only [clearedPortMaps, ha, update_self, Option.some.injEq] at h
    exact ⟨ha, h.symm⟩
  · simp [clearedPortMaps, ha, IdMap.empty] at h

/-- The ports `PushChassisConfig` maps before the singleton ports: the CPU
port, then the recirculation port of each pipe. -/
def specialPorts (cpuSdkPort : Int) : List (Nat × Nat) :=
  (kSdnCpuPortId, toUint32 cpuSdkPort) :: recirculationPorts

/-- The (ID, SDK port) pairs of singleton ports. -/
def singletonPairs (ports : List SingletonPort) (sdkPorts : List Nat) : List (Nat × Nat) :=
  (ports.map (·.id)).zip sdkPorts

/-- The SDE knows the key of every port of the list, giving `sdkPorts`. -/
def PortKeysFound (sde : SdeInterface) (ports : List SingletonPort) (sdkPorts : List Nat) :
    Prop :=
  List.Forall₂ (fun port sdkPort => sde.getPortIdFromPortKey port.portKey = .ok sdkPort)
    ports sdkPorts

/-- The singleton loop inserts every port when the SDE knows every key. -/
theorem insertSingletonPorts_eq_ok {sde : SdeInterface} :
    ∀ {ports : List SingletonPort} {sdkPorts : List Nat} (s : Translator),
      PortKeysFound sde ports sdkPorts →
      insertSingletonPorts sde s ports =
        (s.withPortMaps (s.portMaps.insertAll (singletonPairs ports sdkPorts)), .ok ())
  | [], [], s, _ => rfl
  | port :: ports, sdkPort :: sdkPorts, s, List.Forall₂.cons hport hrest => by
      rw [insertSingletonPorts, hport]
      dsimp only
      rw [insertSingletonPorts_eq_ok _ hrest, Translator.insertPort_eq]
      rfl

/-- The singleton loop fails at the first port whose key the SDE does not
know, with the ports before it inserted. -/
theorem insertSingletonPorts_error {sde : SdeInterface} :
    ∀ {ports : List SingletonPort} (s s' : Translator) {status : UtilError},
      insertSingletonPorts sde s ports = (s', .error status) →
      ∃ before port after sdkPorts, ports = before ++ port :: after ∧
        PortKeysFound sde before sdkPorts ∧
        sde.getPortIdFromPortKey port.portKey = .error status ∧
        s' = s.withPortMaps (s.portMaps.insertAll (singletonPairs before sdkPorts))
  | [], _, _, _, h => by cases h
  | port :: ports, s, s', status, h => by
      rw [insertSingletonPorts] at h
      cases hport : sde.getPortIdFromPortKey port.portKey with
      | error e =>
          -- this port stops the loop
          rw [hport] at h
          cases h
          exact ⟨[], port, ports, [], rfl, List.Forall₂.nil, hport, rfl⟩
      | ok sdkPort =>
          rw [hport] at h
          obtain ⟨before, failing, after, sdkPorts, hports, hfound, hfail, hs'⟩ :=
            insertSingletonPorts_error _ _ h
          refine ⟨port :: before, failing, after, sdkPort :: sdkPorts, by rw [hports]; rfl,
            List.Forall₂.cons hport hfound, hfail, ?_⟩
          rw [hs', Translator.insertPort_eq]
          rfl

/-- With the CPU port found, `PushChassisConfig` is the singleton loop run on
the cleared maps with the special ports inserted. -/
theorem pushChassisConfig_eq {sde : SdeInterface} {cpuSdkPort : Int}
    (hcpu : sde.getPcieCpuPort = .ok cpuSdkPort) (s : Translator) (config : ChassisConfig) :
    pushChassisConfig sde s config =
      insertSingletonPorts sde
        (s.withPortMaps (clearedPortMaps.insertAll (specialPorts cpuSdkPort)))
        config.singletonPorts := by
  unfold pushChassisConfig
  rw [hcpu]
  dsimp only
  rw [foldl_insertPort]
  rfl

/-- A successful `PushChassisConfig`: the cleared maps with the special ports,
then the singleton ports, inserted. -/
theorem pushChassisConfig_eq_ok {sde : SdeInterface} {cpuSdkPort : Int}
    {config : ChassisConfig} {sdkPorts : List Nat} (hcpu : sde.getPcieCpuPort = .ok cpuSdkPort)
    (hfound : PortKeysFound sde config.singletonPorts sdkPorts) (s : Translator) :
    pushChassisConfig sde s config =
      (s.withPortMaps ((clearedPortMaps.insertAll (specialPorts cpuSdkPort)).insertAll
        (singletonPairs config.singletonPorts sdkPorts)), .ok ()) := by
  rw [pushChassisConfig_eq hcpu, insertSingletonPorts_eq_ok _ hfound]
  rfl

/-- A failed `PushChassisConfig` keeps everything but the port maps; these
hold the unspecified port and, once the CPU port was found, the special ports
and the singleton ports before the first unknown key. -/
theorem pushChassisConfig_error {sde : SdeInterface} {s s' : Translator}
    {config : ChassisConfig} {status : UtilError}
    (h : pushChassisConfig sde s config = (s', .error status)) :
    (sde.getPcieCpuPort = .error status ∧ s' = s.withPortMaps clearedPortMaps) ∨
      ∃ cpuSdkPort before port after sdkPorts, sde.getPcieCpuPort = .ok cpuSdkPort ∧
        config.singletonPorts = before ++ port :: after ∧ PortKeysFound sde before sdkPorts ∧
        sde.getPortIdFromPortKey port.portKey = .error status ∧
        s' = s.withPortMaps ((clearedPortMaps.insertAll (specialPorts cpuSdkPort)).insertAll
          (singletonPairs before sdkPorts)) := by
  cases hcpu : sde.getPcieCpuPort with
  | error e =>
      left
      unfold pushChassisConfig at h
      rw [hcpu] at h
      cases h
      exact ⟨rfl, rfl⟩
  | ok cpuSdkPort =>
      right
      rw [pushChassisConfig_eq hcpu] at h
      obtain ⟨before, port, after, sdkPorts, hports, hfound, hfail, hs'⟩ :=
        insertSingletonPorts_error _ _ h
      exact ⟨cpuSdkPort, before, port, after, sdkPorts, rfl, hports, hfound, hfail, hs'⟩

/-! ## Port maps that translate back -/

/-- The port maps translate every port but the unspecified one back and
forth, and every SDK port they hold fits the bytes `TranslateTnaPortId`
accepts from the SDK. -/
structure PortMapsReady (s : Translator) : Prop where
  inverse : s.portMaps.InverseOn (· ≠ kSdnUnspecifiedPortId)
  sdkPort_lt : ∀ p q, s.singletonPortToSdkPort p = some q →
    q < 256 ^ numBitsToNumBytes kTnaPortIdBitWidth

/-- What the SDE and the chassis config give `PushChassisConfig`: the SDE
finds the CPU port and every singleton port, all 9-bit device ports; the
singleton ports have distinct IDs and distinct SDK ports, none of them the
CPU port or a recirculation port, which is not the CPU port either. -/
structure ChassisPortsReady (sde : SdeInterface) (config : ChassisConfig) (cpuSdkPort : Int)
    (sdkPorts : List Nat) : Prop where
  cpu : sde.getPcieCpuPort = .ok cpuSdkPort
  cpu_nonneg : 0 ≤ cpuSdkPort
  cpu_lt : cpuSdkPort < 2 ^ kTnaPortIdBitWidth
  found : PortKeysFound sde config.singletonPorts sdkPorts
  sdkPorts_lt : ∀ q ∈ sdkPorts, q < 2 ^ kTnaPortIdBitWidth
  ids_nodup : (config.singletonPorts.map (·.id)).Nodup
  sdkPorts_nodup : sdkPorts.Nodup
  sdkPorts_not_cpu : toUint32 cpuSdkPort ∉ sdkPorts
  sdkPorts_not_recirculation : ∀ q ∈ sdkPorts, q ∉ recirculationPorts.map Prod.snd
  cpu_not_recirculation : toUint32 cpuSdkPort ∉ recirculationPorts.map Prod.snd

theorem recirculationPorts_snd :
    recirculationPorts.map Prod.snd = [0x44, 0xC4, 0x144, 0x1C4] := by
  decide

theorem toUint32_of_lt {i : Int} (hnonneg : 0 ≤ i) (hlt : i < 2 ^ 32) : toUint32 i = i.toNat := by
  unfold toUint32
  rw [Int.emod_eq_of_lt hnonneg hlt]

theorem PortKeysFound.length_eq {sde : SdeInterface} {ports : List SingletonPort}
    {sdkPorts : List Nat} (h : PortKeysFound sde ports sdkPorts) :
    ports.length = sdkPorts.length :=
  List.Forall₂.length_eq h

theorem map_snd_singletonPairs {ports : List SingletonPort} {sdkPorts : List Nat}
    (hlen : ports.length = sdkPorts.length) :
    (singletonPairs ports sdkPorts).map Prod.snd = sdkPorts := by
  unfold singletonPairs
  rw [List.map_snd_zip]
  simp [hlen]

theorem map_fst_singletonPairs {ports : List SingletonPort} {sdkPorts : List Nat}
    (hlen : ports.length = sdkPorts.length) :
    (singletonPairs ports sdkPorts).map Prod.fst = ports.map (·.id) := by
  unfold singletonPairs
  rw [List.map_fst_zip]
  simp [hlen]

/-- The SDK ports of all inserted pairs are pairwise distinct. -/
theorem ChassisPortsReady.sdk_nodup {sde : SdeInterface} {config : ChassisConfig}
    {cpuSdkPort : Int} {sdkPorts : List Nat}
    (h : ChassisPortsReady sde config cpuSdkPort sdkPorts) :
    ((specialPorts cpuSdkPort ++ singletonPairs config.singletonPorts sdkPorts).map
      Prod.snd).Nodup := by
  rw [List.map_append, map_snd_singletonPairs h.found.length_eq]
  have hspecial : ((specialPorts cpuSdkPort).map Prod.snd).Nodup := by
    unfold specialPorts
    rw [List.map_cons, List.nodup_cons, recirculationPorts_snd]
    refine ⟨?_, by decide⟩
    rw [← recirculationPorts_snd]
    exact h.cpu_not_recirculation
  refine List.Nodup.append hspecial h.sdkPorts_nodup ?_
  -- no singleton SDK port is a special one
  intro q hspecialMem hsingleton
  unfold specialPorts at hspecialMem
  rw [List.map_cons, List.mem_cons] at hspecialMem
  rcases hspecialMem with hcpu | hrecirculation
  · rw [hcpu] at hsingleton
    exact h.sdkPorts_not_cpu hsingleton
  · exact h.sdkPorts_not_recirculation q hsingleton hrecirculation

/-- Every SDK port `PushChassisConfig` inserts is a 9-bit port. -/
theorem ChassisPortsReady.sdk_lt {sde : SdeInterface} {config : ChassisConfig}
    {cpuSdkPort : Int} {sdkPorts : List Nat}
    (h : ChassisPortsReady sde config cpuSdkPort sdkPorts) :
    ∀ p ∈ specialPorts cpuSdkPort ++ singletonPairs config.singletonPorts sdkPorts,
      p.2 < 2 ^ kTnaPortIdBitWidth := by
  intro p hp
  have hsnd : p.2 ∈ (specialPorts cpuSdkPort).map Prod.snd ++ sdkPorts := by
    rw [← map_snd_singletonPairs h.found.length_eq, ← List.map_append]
    exact List.mem_map_of_mem hp
  unfold specialPorts at hsnd
  rw [List.map_cons, recirculationPorts_snd] at hsnd
  simp only [List.cons_append, List.mem_cons, List.nil_append] at hsnd
  have hcpu : toUint32 cpuSdkPort < 2 ^ kTnaPortIdBitWidth := by
    have hlt : cpuSdkPort < 2 ^ 32 := lt_of_lt_of_le h.cpu_lt (by decide)
    rw [toUint32_of_lt h.cpu_nonneg hlt]
    have hbound := h.cpu_lt
    unfold kTnaPortIdBitWidth at hbound ⊢
    omega
  rcases hsnd with hq | hq | hq | hq | hq | hq
  · rw [hq]; exact hcpu
  all_goals first | (rw [hq]; decide) | exact h.sdkPorts_lt _ hq

/-- After a push the `ChassisPortsReady` config, the port maps translate
every port but the unspecified one back, and every singleton port to the SDK
port the SDE gave it. -/
theorem portMapsReady_pushChassisConfig {sde : SdeInterface} {config : ChassisConfig}
    {cpuSdkPort : Int} {sdkPorts : List Nat} (h : ChassisPortsReady sde config cpuSdkPort sdkPorts)
    (s : Translator) :
    (pushChassisConfig sde s config).2 = .ok () ∧ PortMapsReady (pushChassisConfig sde s config).1 ∧
      ∀ p ∈ singletonPairs config.singletonPorts sdkPorts,
        (pushChassisConfig sde s config).1.singletonPortToSdkPort p.1 = some p.2 := by
  rw [pushChassisConfig_eq_ok h.cpu h.found, ← Maps.insertAll_append]
  set pairs := specialPorts cpuSdkPort ++ singletonPairs config.singletonPorts sdkPorts
  -- the cleared maps hold nothing a kept port could clash with
  have hcleared : clearedPortMaps.InverseOn (· ≠ kSdnUnspecifiedPortId) :=
    fun _ _ ha hfwd => absurd (clearedPortMaps_fwd hfwd).1 ha
  have hinverse : (clearedPortMaps.insertAll pairs).InverseOn (· ≠ kSdnUnspecifiedPortId) :=
    Maps.inverseOn_insertAll pairs _ hcleared h.sdk_nodup
      fun _ _ ha hfwd => absurd (clearedPortMaps_fwd hfwd).1 ha
  refine ⟨rfl, ⟨hinverse, ?_⟩, ?_⟩
  · -- every SDK port is the unspecified port's `0` or an inserted 9-bit port
    intro p q hfwd
    have hlt : q < 2 ^ kTnaPortIdBitWidth := by
      rcases Maps.fwd_insertAll_cases pairs clearedPortMaps hfwd with hmem | hcleared
      · exact h.sdk_lt (p, q) hmem
      · rw [(clearedPortMaps_fwd hcleared).2]
        decide
    unfold numBitsToNumBytes kTnaPortIdBitWidth
    unfold kTnaPortIdBitWidth at hlt
    omega
  · -- the singleton ports come last and have distinct IDs
    intro p hp
    show (clearedPortMaps.insertAll pairs).fwd p.1 = some p.2
    rw [Maps.insertAll_append]
    apply Maps.fwd_insertAll_of_mem _ _ _ hp
    rw [map_fst_singletonPairs h.found.length_eq]
    exact h.ids_nodup

/-! ## Pipeline caches -/

/-- A lookup in a map of maps. -/
def lookup2 {β : Type} (m : IdMap (IdMap β)) (outer inner : Nat) : Option β :=
  (m outer).bind (· inner)

@[simp] theorem lookup2_setNested {β : Type} (m : IdMap (IdMap β)) (outer inner : Nat)
    (value : β) (outer' inner' : Nat) :
    lookup2 (setNested m outer inner value) outer' inner' =
      if outer' = outer ∧ inner' = inner then some value else lookup2 m outer' inner' := by
  unfold lookup2 setNested
  by_cases houter : outer' = outer
  · subst houter
    by_cases hinner : inner' = inner
    · simp [hinner]
    · cases hm : m outer' <;> simp [hinner, IdMap.empty]
  · simp [houter]

theorem lookup2_of_eq {β : Type} {m : IdMap (IdMap β)} {outer : Nat} {inner : IdMap β}
    (h : m outer = some inner) (i : Nat) : lookup2 m outer i = inner i := by
  simp [lookup2, h]

/-- Every type name with a URI is a `tna/PortId_t` with an SDN bit width, and
every SDN bit width is non-zero. -/
structure PortTypesOnly (typeNameToUri : String → Option String)
    (typeNameToBitWidth : String → Option Nat) : Prop where
  uri : ∀ typeName uri, typeNameToUri typeName = some uri →
    uri = kUriTnaPortId ∧ ∃ w, typeNameToBitWidth typeName = some w
  bitWidth : ∀ typeName w, typeNameToBitWidth typeName = some w → w ≠ 0

/-- Every field a pair of caches holds a URI for is a `tna/PortId_t` field
with a non-zero SDN bit width. -/
def PortFieldsOnly (fieldToTypeUri : IdMap (IdMap String)) (fieldToBitWidth : IdMap (IdMap Nat)) :
    Prop :=
  ∀ objectId fieldId uri, lookup2 fieldToTypeUri objectId fieldId = some uri →
    uri = kUriTnaPortId ∧ ∃ w, lookup2 fieldToBitWidth objectId fieldId = some w ∧ w ≠ 0

/-- The table and action caches hold only `tna/PortId_t` fields of non-zero
width. -/
structure TranslationMapsReady (maps : TranslationMaps) : Prop where
  table : PortFieldsOnly maps.tableToFieldToTypeUri maps.tableToFieldToBitWidth
  action : PortFieldsOnly maps.actionToParamToTypeUri maps.actionToParamToBitWidth

/-- The P4Info side of the round trip: every translated type is a
`tna/PortId_t` with a non-zero SDN bit width. -/
def PortIdTypesOnly (typeInfo : P4TypeInfo) : Prop :=
  ∀ typeName translation,
    (typeName, P4NewTypeSpec.translatedType translation) ∈ typeInfo.newTypes →
    translation.uri = kUriTnaPortId ∧ ∃ w, translation.sdnType = .sdnBitwidth w ∧ w ≠ 0

theorem portTypesOnly_empty : PortTypesOnly (fun _ => none) (fun _ => none) :=
  ⟨fun _ _ h => (nomatch h), fun _ _ h => (nomatch h)⟩

/-- Recording a port type of non-zero width keeps the lookups to port
types. -/
theorem PortTypesOnly.update {typeNameToUri : String → Option String}
    {typeNameToBitWidth : String → Option Nat} (h : PortTypesOnly typeNameToUri typeNameToBitWidth)
    (typeName : String) {w : Nat} (hw : w ≠ 0) :
    PortTypesOnly (update typeNameToUri typeName (some kUriTnaPortId))
      (update typeNameToBitWidth typeName (some w)) := by
  constructor
  · intro typeName' uri hlookup
    by_cases hname : typeName' = typeName
    · subst hname
      simp only [update_self, Option.some.injEq] at hlookup
      exact ⟨hlookup.symm, w, by simp⟩
    · rw [update_of_ne hname] at hlookup
      obtain ⟨hport, w', hw'⟩ := h.uri typeName' uri hlookup
      exact ⟨hport, w', by rw [update_of_ne hname]; exact hw'⟩
  · intro typeName' w' hlookup
    by_cases hname : typeName' = typeName
    · subst hname
      simp only [update_self, Option.some.injEq] at hlookup
      exact hlookup ▸ hw
    · rw [update_of_ne hname] at hlookup
      exact h.bitWidth typeName' w' hlookup

/-- The type loop records only port types when the P4Info has only those. -/
theorem portTypesOnly_collectNewTypes :
    ∀ (newTypes : List (String × P4NewTypeSpec)) (requireTranslation : Bool)
      (typeNameToUri : String → Option String) (typeNameToBitWidth : String → Option Nat)
      {uris : String → Option String} {widths : String → Option Nat},
      (∀ typeName translation,
        (typeName, P4NewTypeSpec.translatedType translation) ∈ newTypes →
        translation.uri = kUriTnaPortId ∧ ∃ w, translation.sdnType = .sdnBitwidth w ∧ w ≠ 0) →
      PortTypesOnly typeNameToUri typeNameToBitWidth →
      (collectNewTypes requireTranslation typeNameToUri typeNameToBitWidth newTypes).2 =
        .ok (uris, widths) →
      PortTypesOnly uris widths
  | [], _, _, _, _, _, _, hports, h => by
      simp only [collectNewTypes, Except.ok.injEq, Prod.mk.injEq] at h
      rw [← h.1, ← h.2]
      exact hports
  | (typeName, spec) :: rest, requireTranslation, typeNameToUri, typeNameToBitWidth, uris,
      widths, htypes, hports, h => by
      have hrest : ∀ typeName translation,
          (typeName, P4NewTypeSpec.translatedType translation) ∈ rest →
          translation.uri = kUriTnaPortId ∧
            ∃ w, translation.sdnType = .sdnBitwidth w ∧ w ≠ 0 :=
        fun n t hmem => htypes n t (List.mem_cons_of_mem _ hmem)
      cases spec with
      | translatedType translation =>
          obtain ⟨huri, w, hsdn, hw⟩ := htypes typeName translation List.mem_cons_self
          rw [collectNewTypes, hsdn] at h
          rw [huri] at h
          exact portTypesOnly_collectNewTypes rest _ _ _ hrest (hports.update typeName hw) h
      | originalType => exact portTypesOnly_collectNewTypes rest _ _ _ hrest hports h
      | notSet => exact portTypesOnly_collectNewTypes rest _ _ _ hrest hports h

theorem portFieldsOnly_empty : PortFieldsOnly IdMap.empty IdMap.empty :=
  fun _ _ _ h => by simp [lookup2, IdMap.empty] at h

/-- Caching one typed field keeps the caches to port fields. -/
theorem portFieldsOnly_fieldTypes {typeNameToUri : String → Option String}
    {typeNameToBitWidth : String → Option Nat}
    (htypes : PortTypesOnly typeNameToUri typeNameToBitWidth)
    (objectId fieldId : Nat) (typeName : String) {acc : IdMap (IdMap String) × IdMap (IdMap Nat)}
    (hacc : PortFieldsOnly acc.1 acc.2) :
    PortFieldsOnly (fieldTypes typeNameToUri typeNameToBitWidth objectId fieldId typeName acc).1
      (fieldTypes typeNameToUri typeNameToBitWidth objectId fieldId typeName acc).2 := by
  intro objectId' fieldId' uri hlookup
  -- every width the cache holds after the step is an old one or a type's,
  -- so a field with a width keeps a non-zero one
  have hwidths : ∀ w, lookup2 acc.2 objectId' fieldId' = some w → w ≠ 0 →
      ∃ w', lookup2 (fieldTypes typeNameToUri typeNameToBitWidth objectId fieldId typeName
        acc).2 objectId' fieldId' = some w' ∧ w' ≠ 0 := by
    intro w hw hnz
    unfold fieldTypes
    cases hbitWidth : typeNameToBitWidth typeName with
    | none => exact ⟨w, hw, hnz⟩
    | some bitWidth =>
        simp only [lookup2_setNested]
        split_ifs
        · exact ⟨bitWidth, rfl, htypes.bitWidth typeName bitWidth hbitWidth⟩
        · exact ⟨w, hw, hnz⟩
  unfold fieldTypes at hlookup
  cases huri : typeNameToUri typeName with
  | none =>
      rw [huri] at hlookup
      obtain ⟨hport, w, hw, hnz⟩ := hacc objectId' fieldId' uri hlookup
      exact ⟨hport, hwidths w hw hnz⟩
  | some typeUri =>
      rw [huri] at hlookup
      simp only [lookup2_setNested] at hlookup
      split_ifs at hlookup with hsame
      · -- the field just cached
        obtain ⟨rfl, rfl⟩ := hsame
        cases hlookup
        obtain ⟨hport, w, hw⟩ := htypes.uri typeName _ huri
        refine ⟨hport, w, ?_, htypes.bitWidth typeName w hw⟩
        simp [fieldTypes, hw]
      · obtain ⟨hport, w, hw, hnz⟩ := hacc objectId' fieldId' uri hlookup
        exact ⟨hport, hwidths w hw hnz⟩

/-- The table loop caches only port fields. -/
theorem portFieldsOnly_tables {typeNameToUri : String → Option String}
    {typeNameToBitWidth : String → Option Nat}
    (htypes : PortTypesOnly typeNameToUri typeNameToBitWidth)
    {tables : List P4Info.Table} {result : IdMap (IdMap String) × IdMap (IdMap Nat)}
    (h : tables.foldlM (fun acc table =>
      table.matchFields.foldlM (matchFieldTypes typeNameToUri typeNameToBitWidth table.id) acc)
      (IdMap.empty, IdMap.empty) = .ok result) :
    PortFieldsOnly result.1 result.2 := by
  have hfield : ∀ tableId acc matchField acc', PortFieldsOnly acc.1 acc.2 →
      matchFieldTypes typeNameToUri typeNameToBitWidth tableId acc matchField = .ok acc' →
      PortFieldsOnly acc'.1 acc'.2 := by
    intro tableId acc matchField acc' hacc hstep
    unfold matchFieldTypes at hstep
    cases htype : matchField.typeName with
    | none =>
        rw [htype] at hstep
        cases hstep
        exact hacc
    | some typeName =>
        rw [htype] at hstep
        dsimp only at hstep
        split at hstep
        · split_ifs at hstep
          cases hstep
          exact portFieldsOnly_fieldTypes htypes _ _ _ hacc
        · cases hstep
          exact portFieldsOnly_fieldTypes htypes _ _ _ hacc
  apply foldlM_invariant (fun acc => PortFieldsOnly acc.1 acc.2) _ tables _ result
    portFieldsOnly_empty h
  intro acc table acc' hacc hstep
  exact foldlM_invariant (fun acc => PortFieldsOnly acc.1 acc.2) (hfield table.id) _ acc acc'
    hacc hstep

/-- The action loop caches only port fields. -/
theorem portFieldsOnly_actions {typeNameToUri : String → Option String}
    {typeNameToBitWidth : String → Option Nat}
    (htypes : PortTypesOnly typeNameToUri typeNameToBitWidth)
    (actions : List P4Info.Action) :
    PortFieldsOnly
      (actions.foldl (fun acc action =>
        action.params.foldl (paramTypes typeNameToUri typeNameToBitWidth action.id) acc)
        (IdMap.empty, IdMap.empty)).1
      (actions.foldl (fun acc action =>
        action.params.foldl (paramTypes typeNameToUri typeNameToBitWidth action.id) acc)
        (IdMap.empty, IdMap.empty)).2 := by
  have hparam : ∀ actionId acc param, PortFieldsOnly acc.1 acc.2 →
      PortFieldsOnly (paramTypes typeNameToUri typeNameToBitWidth actionId acc param).1
        (paramTypes typeNameToUri typeNameToBitWidth actionId acc param).2 := by
    intro actionId acc param hacc
    unfold paramTypes
    cases param.typeName with
    | none => exact hacc
    | some typeName => exact portFieldsOnly_fieldTypes htypes _ _ _ hacc
  have hloop := foldl_invariant (fun acc action =>
      action.params.foldl (paramTypes typeNameToUri typeNameToBitWidth action.id) acc)
    (fun acc => PortFieldsOnly acc.1 acc.2)
    (fun acc action hacc =>
      foldl_invariant _ (fun acc => PortFieldsOnly acc.1 acc.2) (hparam action.id) _ acc hacc)
    actions (IdMap.empty, IdMap.empty) portFieldsOnly_empty
  exact hloop

/-- Built from port types only, the caches hold only port fields. -/
theorem translationMapsReady_buildTranslationMaps {typeNameToUri : String → Option String}
    {typeNameToBitWidth : String → Option Nat}
    (htypes : PortTypesOnly typeNameToUri typeNameToBitWidth)
    {p4info : P4Info} {maps : TranslationMaps}
    (h : buildTranslationMaps typeNameToUri typeNameToBitWidth p4info = .ok maps) :
    TranslationMapsReady maps := by
  unfold buildTranslationMaps at h
  cases htables : p4info.tables.foldlM (fun acc table =>
      table.matchFields.foldlM (matchFieldTypes typeNameToUri typeNameToBitWidth table.id) acc)
      (IdMap.empty, IdMap.empty) with
  | error e => rw [htables] at h; cases h
  | ok tables =>
      rw [htables] at h
      simp only [bind, Except.bind] at h
      split at h
      · cases h
      · simp only [pure, Except.pure, Except.ok.injEq] at h
        subst h
        exact ⟨portFieldsOnly_tables htypes htables, portFieldsOnly_actions htypes _⟩

/-- What a pipeline push leaves: no translation required, or caches built
from every loop. -/
theorem pushForwardingPipelineConfig_ok {s s' : Translator} {p4info : P4Info}
    (h : pushForwardingPipelineConfig s p4info = (s', .ok ())) :
    s' = { s with pipelineRequireTranslation := false } ∨
      ∃ typeInfo typeNameToUri typeNameToBitWidth, p4info.typeInfo = some typeInfo ∧
        (collectNewTypes s.pipelineRequireTranslation (fun _ => none) (fun _ => none)
          typeInfo.newTypes).2 = .ok (typeNameToUri, typeNameToBitWidth) ∧
        buildTranslationMaps typeNameToUri typeNameToBitWidth p4info = .ok s'.maps ∧
        s' = { s with maps := s'.maps, pipelineRequireTranslation := true } := by
  unfold pushForwardingPipelineConfig at h
  split at h
  · rename_i typeInfo _ htypeInfo
    -- translation enabled, with type info
    cases htypes : collectNewTypes s.pipelineRequireTranslation (fun _ => none) (fun _ => none)
        typeInfo.newTypes with
    | mk requireTranslation outcome =>
        rw [htypes] at h
        cases outcome with
        | error status => cases h
        | ok lookups =>
            obtain ⟨typeNameToUri, typeNameToBitWidth⟩ := lookups
            dsimp only at h
            cases hmaps : buildTranslationMaps typeNameToUri typeNameToBitWidth p4info with
            | error status => rw [hmaps] at h; cases h
            | ok maps =>
                rw [hmaps] at h
                cases h
                exact Or.inr ⟨typeInfo, typeNameToUri, typeNameToBitWidth, htypeInfo,
                  by rw [htypes], hmaps, rfl⟩
  · cases h
    exact Or.inl rfl

/-- After a successful pipeline push of a P4Info whose translated types are
all `tna/PortId_t`s of non-zero width, the caches hold only port fields
whenever translation is required. -/
theorem translationMapsReady_pushForwardingPipelineConfig {s s' : Translator} {p4info : P4Info}
    (htypes : ∀ typeInfo, p4info.typeInfo = some typeInfo → PortIdTypesOnly typeInfo)
    (h : pushForwardingPipelineConfig s p4info = (s', .ok ())) :
    s'.pipelineRequireTranslation = true → TranslationMapsReady s'.maps := by
  intro hrequire
  rcases pushForwardingPipelineConfig_ok h with hs' | ⟨typeInfo, uris, widths, htypeInfo, hnew,
    hbuilt, -⟩
  · rw [hs'] at hrequire
    cases hrequire
  · have hports := portTypesOnly_collectNewTypes typeInfo.newTypes _ _ _
      (htypes typeInfo htypeInfo) portTypesOnly_empty hnew
    exact translationMapsReady_buildTranslationMaps hports hbuilt

/-- A pipeline push leaves the port maps alone. -/
theorem portMaps_pushForwardingPipelineConfig {s s' : Translator} {p4info : P4Info}
    {result : StatusOr Unit} (h : pushForwardingPipelineConfig s p4info = (s', result)) :
    s'.portMaps = s.portMaps := by
  have hs' : (pushForwardingPipelineConfig s p4info).1 = s' := by rw [h]
  rw [← hs']
  unfold pushForwardingPipelineConfig
  split
  · split
    · rfl
    · split <;> rfl
  · rfl

/-- A successful pipeline push with translation enabled and type info given
requires translation from then on. -/
theorem pipelineRequireTranslation_pushForwardingPipelineConfig {s s' : Translator}
    {p4info : P4Info} {typeInfo : P4TypeInfo} (henabled : s.translationEnabled = true)
    (htypeInfo : p4info.typeInfo = some typeInfo)
    (h : pushForwardingPipelineConfig s p4info = (s', .ok ())) :
    s'.pipelineRequireTranslation = true := by
  unfold pushForwardingPipelineConfig at h
  rw [henabled, htypeInfo] at h
  dsimp only at h
  split at h
  · cases h
  · split at h
    · cases h
    · cases h
      rfl

/-- Port maps that translate back stay so under any change that keeps
them. -/
theorem PortMapsReady.of_portMaps_eq {s s' : Translator} (h : PortMapsReady s)
    (heq : s'.portMaps = s.portMaps) : PortMapsReady s' := by
  have hfwd : s'.singletonPortToSdkPort = s.singletonPortToSdkPort := congrArg Maps.fwd heq
  constructor
  · rw [heq]
    exact h.inverse
  · rw [hfwd]
    exact h.sdkPort_lt

/-! ## Failed pushes -/

/-- A failed pipeline push changes nothing but
`pipeline_require_translation_`. -/
theorem pushForwardingPipelineConfig_error {s s' : Translator} {p4info : P4Info}
    {status : UtilError} (h : pushForwardingPipelineConfig s p4info = (s', .error status)) :
    s' = { s with pipelineRequireTranslation := s'.pipelineRequireTranslation } := by
  unfold pushForwardingPipelineConfig at h
  split at h
  · rename_i typeInfo _ _
    cases htypes : collectNewTypes s.pipelineRequireTranslation (fun _ => none) (fun _ => none)
        typeInfo.newTypes with
    | mk requireTranslation outcome =>
        rw [htypes] at h
        cases outcome with
        | error e =>
            -- an unsupported SDN type
            cases h
            rfl
        | ok lookups =>
            dsimp only at h
            split at h
            · -- a refused URI or controller header
              cases h
              rfl
            · cases h
  · cases h

/-- What a failed push leaves: a pipeline push keeps both port maps and every
translation cache; a chassis push keeps the caches and the flag, and its port
maps hold the unspecified port and, once the CPU port was found, the special
ports and the singleton ports before the first whose key the SDE does not
know. -/
theorem translator_push_atomicity :
    (∀ (s s' : Translator) (p4info : P4Info) (status : UtilError),
      pushForwardingPipelineConfig s p4info = (s', .error status) →
      s'.maps = s.maps ∧ s'.singletonPortToSdkPort = s.singletonPortToSdkPort ∧
        s'.sdkPortToSingletonPort = s.sdkPortToSingletonPort ∧
        s'.translationEnabled = s.translationEnabled) ∧
    ∀ (sde : SdeInterface) (s s' : Translator) (config : ChassisConfig) (status : UtilError),
      pushChassisConfig sde s config = (s', .error status) →
      s'.maps = s.maps ∧ s'.pipelineRequireTranslation = s.pipelineRequireTranslation ∧
        s'.translationEnabled = s.translationEnabled ∧
        ((sde.getPcieCpuPort = .error status ∧ s'.portMaps = clearedPortMaps) ∨
          ∃ cpuSdkPort before port after sdkPorts, sde.getPcieCpuPort = .ok cpuSdkPort ∧
            config.singletonPorts = before ++ port :: after ∧
            PortKeysFound sde before sdkPorts ∧
            sde.getPortIdFromPortKey port.portKey = .error status ∧
            s'.portMaps = (clearedPortMaps.insertAll (specialPorts cpuSdkPort)).insertAll
              (singletonPairs before sdkPorts)) := by
  constructor
  · intro s s' p4info status h
    have hs' := pushForwardingPipelineConfig_error h
    rw [hs']
    exact ⟨rfl, rfl, rfl, rfl⟩
  · intro sde s s' config status h
    rcases pushChassisConfig_error h with ⟨hcpu, hs'⟩ |
      ⟨cpuSdkPort, before, port, after, sdkPorts, hcpu, hports, hfound, hfail, hs'⟩
    · subst hs'
      exact ⟨rfl, rfl, rfl, Or.inl ⟨hcpu, rfl⟩⟩
    · subst hs'
      exact ⟨rfl, rfl, rfl,
        Or.inr ⟨cpuSdkPort, before, port, after, sdkPorts, hcpu, hports, hfound, hfail, rfl⟩⟩

/-- A P4Info whose second translated type has an SDN string. -/
def stringTypeP4Info : P4Info :=
  ⟨some ⟨[("PortId_t", .translatedType ⟨kUriTnaPortId, .sdnBitwidth 32⟩),
    ("Name_t", .translatedType ⟨"name", .sdnString⟩)]⟩, [], [], [], [], [], []⟩

/-- `BfSdeWrapper` on a device whose CPU port is 64 and whose device ports
are the front-panel port numbers: a negative port number is refused. -/
def frontPanelSde : SdeInterface :=
  ⟨.ok 64, fun portKey =>
    if portKey.port < 0 then
      .error ⟨.errInvalidParam, "Port ID must be non-negative. Attempted to get port " ++
        toString portKey.port ++ " on dev 0."⟩
    else .ok portKey.port.toNat⟩

/-- Atomicity fails twice: a pipeline push refused for an SDN string type has
already set `pipeline_require_translation_`, and a chassis push refused for
a port with a negative number has already dropped the port maps' old
entries. -/
theorem translator_push_not_atomic :
    (¬∀ (s s' : Translator) (p4info : P4Info) (status : UtilError),
      pushForwardingPipelineConfig s p4info = (s', .error status) →
      s'.pipelineRequireTranslation = s.pipelineRequireTranslation) ∧
    ¬∀ (sde : SdeInterface) (s s' : Translator) (config : ChassisConfig) (status : UtilError),
      pushChassisConfig sde s config = (s', .error status) →
      s'.singletonPortToSdkPort = s.singletonPortToSdkPort := by
  constructor
  · intro hstated
    have hflag := hstated (Translator.create true) _ stringTypeP4Info
      ⟨.errUnimplemented, "Unsupported SDN type: 3"⟩ (Prod.ext rfl rfl)
    exact absurd hflag (by decide)
  · intro hstated
    have hmaps := hstated frontPanelSde ((Translator.create true).insertPort 5 7) _
      ⟨[⟨1, 1, -1, 0⟩]⟩
      ⟨.errInvalidParam, "Port ID must be non-negative. Attempted to get port -1 on dev 0."⟩
      (Prod.ext rfl rfl)
    exact absurd (congrFun hmaps 5) (by decide)

end Stratum.Ports.BfrtP4RuntimeTranslator
