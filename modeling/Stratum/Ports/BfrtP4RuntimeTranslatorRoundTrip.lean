import Stratum.Ports.BfrtP4RuntimeTranslatorPush

/-!
# Reading back what the translator wrote

A message translated to the SDK and back is the message itself when the port
maps invert each other (`PortMapsReady`), the caches hold only
`tna/PortId_t` fields (`TranslationMapsReady`), and every value translated
names a port in canonical form (`PortValue`). The round trip goes through the
layers of the translator:

* `translateTnaPortId_roundtrip` — one port value;
* `translateFieldMatch_roundtrip` — one match field, whose mask or prefix
  length is rewritten to the SDK's width and back;
* `translateAction_roundtrip` — the parameters of an action;
* `translateTableEntry_roundtrip` — a table entry, its matches and its
  actions;
* `direct_entries_roundtrip` — the direct counter and meter entries built on
  a table entry.
-/

namespace Stratum.Ports.BfrtP4RuntimeTranslator

open Stratum.Verified.BigEndian Stratum.Verified.PairedMaps Stratum.Verified.Run
open Stratum.Ports.Status Stratum.Ports.P4Runtime Stratum.Ports.P4Utils
open Stratum.Ports.BarefootUtils

/-! ## Port values -/

/-- A port value the round trip keeps: canonical, of at most four bytes, and
naming a port other than the unspecified one. -/
structure PortValue (bytes : ByteString) : Prop where
  canonical : byteStringToP4RuntimeByteString bytes = bytes
  length_le : bytes.length ≤ 4
  ne_unspecified : value bytes ≠ kSdnUnspecifiedPortId

theorem PortValue.ne_nil {bytes : ByteString} (h : PortValue bytes) : bytes ≠ [] := by
  intro hnil
  exact h.ne_unspecified (by rw [hnil]; rfl)

/-- To the SDK, a value goes to the stream of the SDK port of the port it
names. -/
theorem translateTnaPortId_toSdk {s : Translator} {bytes sdkBytes : ByteString} {w : Nat}
    (h : translateTnaPortId s bytes true w = .ok sdkBytes) :
    ∃ q, s.singletonPortToSdkPort (byteStreamToUint 4 bytes) = some q ∧
      sdkBytes = uint32ToByteStream q := by
  unfold translateTnaPortId at h
  simp only [if_true] at h
  cases hport : s.singletonPortToSdkPort (byteStreamToUint 4 bytes) with
  | none => rw [hport] at h; cases h
  | some q =>
      rw [hport] at h
      cases h
      exact ⟨q, rfl, rfl⟩

/-- A port value translated to the SDK translates back to itself. -/
theorem translateTnaPortId_roundtrip {s : Translator} (hready : PortMapsReady s)
    {bytes sdkBytes : ByteString} (hport : PortValue bytes) {w w' : Nat}
    (h : translateTnaPortId s bytes true w = .ok sdkBytes) :
    translateTnaPortId s sdkBytes false w' = .ok bytes := by
  obtain ⟨q, hfwd, rfl⟩ := translateTnaPortId_toSdk h
  rw [byteStreamToUint_of_length_le hport.length_le] at hfwd
  have hq : q < 256 ^ 2 := hready.sdkPort_lt _ q hfwd
  -- the SDK port streams to at most two bytes, which read back as the port
  have hlen : (uint32ToByteStream q).length ≤ 2 :=
    length_uint32ToByteStream_le (by decide) (by decide) hq
  have hread : byteStreamToUint 4 (uint32ToByteStream q) = q := by
    rw [byteStreamToUint_of_length_le (le_trans hlen (by decide : 2 ≤ 4)),
      value_uint32ToByteStream]
    exact Nat.mod_eq_of_lt (by omega)
  have hrev : s.sdkPortToSingletonPort q = some (value bytes) :=
    hready.inverse _ q hport.ne_unspecified hfwd
  unfold translateTnaPortId
  simp only [Bool.false_eq_true, if_false]
  rw [if_pos (show (uint32ToByteStream q).length ≤ numBitsToNumBytes kTnaPortIdBitWidth from hlen),
    hread, hrev]
  exact congrArg Except.ok (uint32ToByteStream_value hport.canonical hport.ne_nil hport.length_le)

/-- `TranslateValue` knows only `tna/PortId_t`, so a value it translates to
the SDK translates back. -/
theorem translateValue_roundtrip {s : Translator} (hready : PortMapsReady s)
    {bytes sdkBytes : ByteString} (hport : PortValue bytes) {uri : String} {w w' : Nat}
    (h : translateValue s bytes uri true w = .ok sdkBytes) :
    translateValue s sdkBytes uri false w' = .ok bytes := by
  unfold translateValue at h ⊢
  split_ifs at h ⊢ with huri
  exact translateTnaPortId_roundtrip hready hport h

/-! ## Match fields -/

/-- The value `TranslateTableEntryInternal` translates in a match. -/
def translatedValue : FieldMatchType → Option ByteString
  | .exact value => some value
  | .ternary value _ => some value
  | .lpm value _ => some value
  | .range low _ => some low
  | .optional value => some value
  | _ => none

/-- The exact-match form `TranslateTableEntryInternal` accepts for a field of
`bitWidth` bits: a full mask, a full prefix, a one-value range. -/
def IsExactMatch (bitWidth : Nat) : FieldMatchType → Prop
  | .exact _ => True
  | .ternary _ mask => mask = allOnesByteString bitWidth
  | .lpm _ prefixLen => prefixLen = bitWidth
  | .range low high => low = high
  | .optional _ => True
  | _ => False

/-- A match with its value replaced and its mask or prefix length set for
`bitWidth` bits, as `TranslateTableEntryInternal` rewrites it. -/
def rewriteMatch (newVal : ByteString) (bitWidth : Nat) :
    FieldMatchType → FieldMatchType
  | .exact _ => .exact newVal
  | .ternary _ _ => .ternary newVal (allOnesByteString bitWidth)
  | .lpm _ _ => .lpm newVal bitWidth
  | .range _ _ => .range newVal newVal
  | .optional _ => .optional newVal
  | matchType => matchType

theorem translatedValue_rewriteMatch {matchType : FieldMatchType}
    {v : ByteString} (hv : translatedValue matchType = some v) (newVal : ByteString)
    (bitWidth : Nat) : translatedValue (rewriteMatch newVal bitWidth matchType) = some newVal := by
  cases matchType <;> first | rfl | cases hv

theorem isExactMatch_rewriteMatch {matchType : FieldMatchType}
    {v : ByteString} (hv : translatedValue matchType = some v) (newVal : ByteString)
    (bitWidth : Nat) : IsExactMatch bitWidth (rewriteMatch newVal bitWidth matchType) := by
  cases matchType <;> trivial

/-- Rewriting a match in exact-match form to another width and back, with its
own value, gives the match back. -/
theorem rewriteMatch_rewriteMatch {matchType : FieldMatchType} {bitWidth : Nat}
    (hexact : IsExactMatch bitWidth matchType) {v : ByteString}
    (hv : translatedValue matchType = some v) (newVal : ByteString) (bitWidth' : Nat) :
    rewriteMatch v bitWidth (rewriteMatch newVal bitWidth' matchType) = matchType := by
  cases matchType with
  | exact value => cases hv; rfl
  | ternary value mask => cases hv; rw [IsExactMatch] at hexact; rw [hexact]; rfl
  | lpm value prefixLen => cases hv; rw [IsExactMatch] at hexact; rw [hexact]; rfl
  | range low high => cases hv; rw [IsExactMatch] at hexact; rw [← hexact]; rfl
  | optional value => cases hv; rfl
  | other => cases hv
  | notSet => cases hv

/-- A field with a URI and two non-zero widths: `TranslateTableEntryInternal`
accepts it in exact-match form only, and rewrites its value and width. -/
theorem translateFieldMatch_of_uri {s : Translator} {toSdk : Bool}
    {fieldToTypeUri : IdMap String} {fieldToBitWidth : IdMap Nat}
    {fieldMatch fieldMatch' : FieldMatch} {uri : String}
    (huri : fieldToTypeUri fieldMatch.fieldId = some uri) {fromBitWidth toBitWidth : Nat}
    (hfrom : fromBitWidth = if toSdk then (fieldToBitWidth fieldMatch.fieldId).getD 0
      else (kUriToBitWidth uri).getD 0)
    (hto : toBitWidth = if toSdk then (kUriToBitWidth uri).getD 0
      else (fieldToBitWidth fieldMatch.fieldId).getD 0)
    (hfromNz : fromBitWidth ≠ 0) (htoNz : toBitWidth ≠ 0) :
    translateFieldMatch s toSdk fieldToTypeUri fieldToBitWidth fieldMatch = .ok fieldMatch' ↔
      IsExactMatch fromBitWidth fieldMatch.fieldMatchType ∧
        ∃ v newVal, translatedValue fieldMatch.fieldMatchType = some v ∧
          translateValue s v uri toSdk toBitWidth = .ok newVal ∧
          { fieldMatch with
            fieldMatchType := rewriteMatch newVal toBitWidth fieldMatch.fieldMatchType } =
            fieldMatch' := by
  unfold translateFieldMatch
  rw [huri]
  dsimp only
  rw [← hfrom, ← hto, if_neg (by omega)]
  obtain ⟨fieldId, matchType⟩ := fieldMatch
  cases matchType with
  | exact value => simp [map_eq_ok, IsExactMatch, translatedValue, rewriteMatch]
  | ternary value mask =>
      by_cases hmask : mask = allOnesByteString fromBitWidth
      · simp [hmask, map_eq_ok, IsExactMatch, translatedValue, rewriteMatch]
      · simp [hmask, IsExactMatch]
  | lpm value prefixLen =>
      by_cases hlpm : prefixLen = fromBitWidth
      · simp [hlpm, map_eq_ok, IsExactMatch, translatedValue, rewriteMatch]
      · simp [hlpm, IsExactMatch]
  | range low high =>
      by_cases hrange : low = high
      · simp [hrange, map_eq_ok, IsExactMatch, translatedValue, rewriteMatch]
      · simp [hrange, IsExactMatch]
  | optional value => simp [map_eq_ok, IsExactMatch, translatedValue, rewriteMatch]
  | other => simp [IsExactMatch]
  | notSet => simp [IsExactMatch]

/-- What the caches say of one typed field: its URI is `tna/PortId_t` and its
SDN width is non-zero. -/
def PortField (fieldToTypeUri : IdMap String) (fieldToBitWidth : IdMap Nat) (fieldId : Nat) :
    Prop :=
  ∀ uri, fieldToTypeUri fieldId = some uri →
    uri = kUriTnaPortId ∧ ∃ w, fieldToBitWidth fieldId = some w ∧ w ≠ 0

theorem PortFieldsOnly.portField {uris : IdMap (IdMap String)} {widths : IdMap (IdMap Nat)}
    (h : PortFieldsOnly uris widths) {objectId : Nat} {fieldToTypeUri : IdMap String}
    {fieldToBitWidth : IdMap Nat} (huris : uris objectId = some fieldToTypeUri)
    (hwidths : widths objectId = some fieldToBitWidth) (fieldId : Nat) :
    PortField fieldToTypeUri fieldToBitWidth fieldId := by
  intro uri huri
  rw [← lookup2_of_eq huris] at huri
  rw [← lookup2_of_eq hwidths]
  exact h objectId fieldId uri huri

theorem kUriToBitWidth_tnaPortId : (kUriToBitWidth kUriTnaPortId).getD 0 = kTnaPortIdBitWidth :=
  rfl

/-- A field without a URI passes unchanged. -/
theorem translateFieldMatch_of_none {s : Translator} {toSdk : Bool}
    {fieldToTypeUri : IdMap String} {fieldToBitWidth : IdMap Nat} {fieldMatch : FieldMatch}
    (huri : fieldToTypeUri fieldMatch.fieldId = none) :
    translateFieldMatch s toSdk fieldToTypeUri fieldToBitWidth fieldMatch = .ok fieldMatch := by
  unfold translateFieldMatch
  rw [huri]

/-- To the SDK, a port field's value becomes the stream of the SDK port of the
port it names, and its mask or prefix length the SDK's 9 bits. -/
theorem translateFieldMatch_toSdk {s : Translator} {fieldToTypeUri : IdMap String}
    {fieldToBitWidth : IdMap Nat} {fieldMatch fieldMatch' : FieldMatch}
    (hfield : PortField fieldToTypeUri fieldToBitWidth fieldMatch.fieldId) {uri : String}
    (huri : fieldToTypeUri fieldMatch.fieldId = some uri)
    (h : translateFieldMatch s true fieldToTypeUri fieldToBitWidth fieldMatch = .ok fieldMatch') :
    ∃ v q, translatedValue fieldMatch.fieldMatchType = some v ∧
      s.singletonPortToSdkPort (byteStreamToUint 4 v) = some q ∧
      fieldMatch' = { fieldMatch with
        fieldMatchType := rewriteMatch (uint32ToByteStream q) kTnaPortIdBitWidth
          fieldMatch.fieldMatchType } := by
  obtain ⟨rfl, w, hw, hnz⟩ := hfield uri huri
  have hwidth : (fieldToBitWidth fieldMatch.fieldId).getD 0 = w := by rw [hw]; rfl
  obtain ⟨-, v, newVal, hv, htranslate, rfl⟩ := (translateFieldMatch_of_uri huri
    (by rw [if_pos rfl, hwidth]) (by rw [if_pos rfl, kUriToBitWidth_tnaPortId]) hnz
    (by decide)).mp h
  unfold translateValue at htranslate
  rw [if_pos rfl] at htranslate
  obtain ⟨q, hfwd, rfl⟩ := translateTnaPortId_toSdk htranslate
  exact ⟨v, q, hv, hfwd, rfl⟩

/-- A match field translated to the SDK translates back. -/
theorem translateFieldMatch_roundtrip {s : Translator} (hready : PortMapsReady s)
    {fieldToTypeUri : IdMap String} {fieldToBitWidth : IdMap Nat}
    {fieldMatch fieldMatch' : FieldMatch}
    (hfield : PortField fieldToTypeUri fieldToBitWidth fieldMatch.fieldId)
    (hvalue : ∀ uri v, fieldToTypeUri fieldMatch.fieldId = some uri →
      translatedValue fieldMatch.fieldMatchType = some v → PortValue v)
    (h : translateFieldMatch s true fieldToTypeUri fieldToBitWidth fieldMatch = .ok fieldMatch') :
    translateFieldMatch s false fieldToTypeUri fieldToBitWidth fieldMatch' = .ok fieldMatch := by
  cases huri : fieldToTypeUri fieldMatch.fieldId with
  | none =>
      -- an untyped field passes both ways unchanged
      rw [translateFieldMatch_of_none huri] at h
      cases h
      exact translateFieldMatch_of_none huri
  | some uri =>
      obtain ⟨rfl, w, hw, hnz⟩ := hfield uri huri
      have hwidth : (fieldToBitWidth fieldMatch.fieldId).getD 0 = w := by rw [hw]; rfl
      obtain ⟨hexact, v, newVal, hv, htranslate, rfl⟩ := (translateFieldMatch_of_uri huri
        (by rw [if_pos rfl, hwidth]) (by rw [if_pos rfl, kUriToBitWidth_tnaPortId]) hnz
        (by decide)).mp h
      -- the rewritten field keeps its ID, so the same caches apply on the way back
      apply (@translateFieldMatch_of_uri s false fieldToTypeUri fieldToBitWidth
        { fieldMatch with
          fieldMatchType := rewriteMatch newVal kTnaPortIdBitWidth fieldMatch.fieldMatchType }
        fieldMatch kUriTnaPortId huri kTnaPortIdBitWidth w rfl (by exact hwidth.symm) (by decide)
        hnz).mpr
      refine ⟨isExactMatch_rewriteMatch hv _ _, newVal, v, translatedValue_rewriteMatch hv _ _,
        translateValue_roundtrip hready (hvalue _ v huri hv) htranslate, ?_⟩
      dsimp only
      rw [rewriteMatch_rewriteMatch hexact hv]

/-! ## Actions -/

/-- A parameter translated to the SDK translates back. -/
theorem translateParam_roundtrip {s : Translator} (hready : PortMapsReady s)
    {paramToTypeUri : IdMap String} {paramToBitWidth : IdMap Nat} {param param' : Param}
    (hfield : PortField paramToTypeUri paramToBitWidth param.paramId)
    (hvalue : ∀ uri, paramToTypeUri param.paramId = some uri → PortValue param.value)
    (h : translateParam s true paramToTypeUri paramToBitWidth param = .ok param') :
    translateParam s false paramToTypeUri paramToBitWidth param' = .ok param := by
  unfold translateParam at h ⊢
  cases huri : paramToTypeUri param.paramId with
  | none =>
      rw [huri] at h
      cases h
      rw [huri]
  | some uri =>
      obtain ⟨rfl, w, hw, hnz⟩ := hfield uri huri
      rw [huri] at h
      -- to the SDK the width is the URI's, back it is the cached SDN width
      simp only [kUriToBitWidth_tnaPortId, ne_eq, show kTnaPortIdBitWidth ≠ 0 by decide,
        not_false_eq_true, if_true] at h
      rw [bind_eq_ok] at h
      obtain ⟨newVal, htranslate, hparam'⟩ := h
      cases hparam'
      dsimp only
      rw [huri, hw]
      simp only [Option.getD_some, ne_eq, hnz, not_false_eq_true, if_true,
        translateValue_roundtrip hready (hvalue _ huri) htranslate]
      rfl

/-- Every parameter value an action's caches give a URI to is a port value. -/
def ActionPortValues (s : Translator) (action : Action) : Prop :=
  ∀ param ∈ action.params, ∀ uri,
    lookup2 s.maps.actionToParamToTypeUri action.actionId param.paramId = some uri →
    PortValue param.value

/-- An action translated to the SDK translates back. -/
theorem translateAction_roundtrip {s : Translator} (hready : PortMapsReady s)
    (hmaps : TranslationMapsReady s.maps) {action action' : Action}
    (hvalues : ActionPortValues s action) (h : translateAction s action true = .ok action') :
    translateAction s action' false = .ok action := by
  unfold translateAction at h ⊢
  cases huris : s.maps.actionToParamToTypeUri action.actionId with
  | none =>
      rw [huris] at h
      cases h
      rw [huris]
  | some paramToTypeUri =>
      cases hwidths : s.maps.actionToParamToBitWidth action.actionId with
      | none =>
          rw [huris, hwidths] at h
          cases h
          rw [huris, hwidths]
      | some paramToBitWidth =>
          rw [huris, hwidths] at h
          dsimp only at h
          rw [bind_eq_ok] at h
          obtain ⟨params, hparams, haction'⟩ := h
          cases haction'
          dsimp only
          rw [huris, hwidths]
          -- every parameter comes back, so the action does
          have hback := mapM_roundtrip (fun param hmem param' hparam =>
            translateParam_roundtrip hready (hmaps.action.portField huris hwidths _)
              (fun uri huri => hvalues param hmem uri (by rw [lookup2_of_eq huris]; exact huri))
              hparam) hparams
          simp only [hback]
          rfl

/-- The actions of a table action: the action, or those of an action set. -/
def tableActionActions : TableAction → List Action
  | .action action => [action]
  | .actionProfileActionSet actions => actions.map (·.action)
  | _ => []

/-- An action of an action set translated to the SDK translates back. -/
theorem translateActionProfileAction_roundtrip {s : Translator} (hready : PortMapsReady s)
    (hmaps : TranslationMapsReady s.maps) {apa apa' : ActionProfileAction}
    (hvalues : ActionPortValues s apa.action)
    (h : translateActionProfileAction s true apa = .ok apa') :
    translateActionProfileAction s false apa' = .ok apa := by
  rw [translateActionProfileAction, bind_eq_ok] at h
  obtain ⟨action', haction, happa'⟩ := h
  cases happa'
  simp only [translateActionProfileAction,
    translateAction_roundtrip hready hmaps hvalues haction]
  rfl

/-- A table action translated to the SDK translates back. -/
theorem translateTableAction_roundtrip {s : Translator} (hready : PortMapsReady s)
    (hmaps : TranslationMapsReady s.maps) {tableAction tableAction' : TableAction}
    (hvalues : ∀ action ∈ tableActionActions tableAction, ActionPortValues s action)
    (h : translateTableAction s true tableAction = .ok tableAction') :
    translateTableAction s false tableAction' = .ok tableAction := by
  cases tableAction with
  | action action =>
      rw [translateTableAction, bind_eq_ok] at h
      obtain ⟨action', haction, htableAction'⟩ := h
      cases htableAction'
      simp only [translateTableAction,
        translateAction_roundtrip hready hmaps (hvalues action List.mem_cons_self) haction]
      rfl
  | actionProfileActionSet actions =>
      rw [translateTableAction, bind_eq_ok] at h
      obtain ⟨actions', hactions, htableAction'⟩ := h
      cases htableAction'
      have hback : actions'.mapM (translateActionProfileAction s false) = .ok actions :=
        mapM_roundtrip (fun apa hmem _ happa =>
          translateActionProfileAction_roundtrip hready hmaps
            (hvalues apa.action (List.mem_map_of_mem hmem)) happa) hactions
      simp only [translateTableAction, hback]
      rfl
  | actionProfileMemberId memberId => cases h; rfl
  | actionProfileGroupId groupId => cases h; rfl
  | notSet => cases h; rfl

/-! ## Table entries -/

/-- Every value the translator translates in a table entry is a port value:
the values of the matches its table's caches give a URI to, and the
parameters of its actions. -/
structure EntryPortValues (s : Translator) (entry : TableEntry) : Prop where
  fieldMatches : ∀ fieldMatch ∈ entry.fieldMatches, ∀ uri v,
    lookup2 s.maps.tableToFieldToTypeUri entry.tableId fieldMatch.fieldId = some uri →
    translatedValue fieldMatch.fieldMatchType = some v → PortValue v
  actions : ∀ tableAction, entry.action = some tableAction →
    ∀ action ∈ tableActionActions tableAction, ActionPortValues s action

theorem translateEntryFieldMatches_roundtrip {s : Translator} (hready : PortMapsReady s)
    (hmaps : TranslationMapsReady s.maps) {entry : TableEntry} (hvalues : EntryPortValues s entry)
    {fieldMatches' : List FieldMatch}
    (h : translateEntryFieldMatches s entry.tableId entry.fieldMatches true = .ok fieldMatches') :
    translateEntryFieldMatches s entry.tableId fieldMatches' false = .ok entry.fieldMatches := by
  unfold translateEntryFieldMatches at h ⊢
  cases huris : s.maps.tableToFieldToTypeUri entry.tableId with
  | none => rw [huris] at h; cases h; rfl
  | some fieldToTypeUri =>
      cases hwidths : s.maps.tableToFieldToBitWidth entry.tableId with
      | none => rw [huris, hwidths] at h; cases h; rfl
      | some fieldToBitWidth =>
          rw [huris, hwidths] at h
          dsimp only at h ⊢
          -- every match of a table with both caches comes back
          exact mapM_roundtrip (fun fieldMatch hmem _ hfield =>
            translateFieldMatch_roundtrip hready (hmaps.table.portField huris hwidths _)
              (fun uri v huri hv => hvalues.fieldMatches fieldMatch hmem uri v
                (by rw [lookup2_of_eq huris]; exact huri) hv) hfield) h

theorem translateEntryAction_roundtrip {s : Translator} (hready : PortMapsReady s)
    (hmaps : TranslationMapsReady s.maps) {entry : TableEntry} (hvalues : EntryPortValues s entry)
    {action' : Option TableAction} (h : translateEntryAction s entry.action true = .ok action') :
    translateEntryAction s action' false = .ok entry.action := by
  unfold translateEntryAction at h
  cases haction : entry.action with
  | none =>
      rw [haction] at h
      cases h
      rfl
  | some tableAction =>
      rw [haction, bind_eq_ok] at h
      obtain ⟨tableAction', htranslate, haction'⟩ := h
      cases haction'
      unfold translateEntryAction
      dsimp only
      rw [translateTableAction_roundtrip hready hmaps (hvalues.actions tableAction haction)
        htranslate]
      rfl

/-- A table entry translated to the SDK by `TranslateTableEntryInternal`
translates back. -/
theorem translateTableEntryInternal_roundtrip {s : Translator} (hready : PortMapsReady s)
    (hmaps : TranslationMapsReady s.maps) {entry entry' : TableEntry}
    (hvalues : EntryPortValues s entry)
    (h : translateTableEntryInternal s entry true = .ok entry') :
    translateTableEntryInternal s entry' false = .ok entry := by
  rw [translateTableEntryInternal, bind_eq_ok] at h
  obtain ⟨fieldMatches', hfields, h⟩ := h
  rw [bind_eq_ok] at h
  obtain ⟨action', haction, hentry'⟩ := h
  cases hentry'
  rw [translateTableEntryInternal]
  dsimp only
  rw [translateEntryFieldMatches_roundtrip hready hmaps hvalues hfields]
  dsimp only [bind, Except.bind]
  rw [translateEntryAction_roundtrip hready hmaps hvalues haction]
  rfl

/-- The translator's state for the round trip: port maps that translate
back, and caches of port fields whenever translation is required. -/
structure TranslatorReady (s : Translator) : Prop where
  ports : PortMapsReady s
  maps : s.pipelineRequireTranslation = true → TranslationMapsReady s.maps

/-- A table entry translated to the SDK translates back. -/
theorem translateTableEntry_roundtrip {s : Translator} (hs : TranslatorReady s)
    {entry entry' : TableEntry} (hvalues : EntryPortValues s entry)
    (h : translateTableEntry s entry true = .ok entry') :
    translateTableEntry s entry' false = .ok entry := by
  unfold translateTableEntry at h ⊢
  by_cases hrequire : s.pipelineRequireTranslation = true
  · rw [if_pos hrequire] at h ⊢
    exact translateTableEntryInternal_roundtrip hs.ports (hs.maps hrequire) hvalues h
  · rw [if_neg hrequire] at h ⊢
    cases h
    rfl

/-! ## What the SDK is given -/

/-- What one match field becomes on its way to the SDK: a field its table's
caches give a URI carries the SDK port of the port its value names, with its
mask or prefix length set for the SDK's 9 bits; any other field is kept. -/
def CarriesSdkPort (s : Translator) (tableId : Nat) (fieldMatch fieldMatch' : FieldMatch) :
    Prop :=
  (∀ uri, lookup2 s.maps.tableToFieldToTypeUri tableId fieldMatch.fieldId = some uri →
    ∃ v q, translatedValue fieldMatch.fieldMatchType = some v ∧
      s.singletonPortToSdkPort (byteStreamToUint 4 v) = some q ∧
      fieldMatch' = { fieldMatch with
        fieldMatchType := rewriteMatch (uint32ToByteStream q) kTnaPortIdBitWidth
          fieldMatch.fieldMatchType }) ∧
  (lookup2 s.maps.tableToFieldToTypeUri tableId fieldMatch.fieldId = none →
    fieldMatch' = fieldMatch)

theorem carriesSdkPort_of_none {s : Translator} {tableId : Nat} {fieldMatch : FieldMatch}
    (huri : lookup2 s.maps.tableToFieldToTypeUri tableId fieldMatch.fieldId = none) :
    CarriesSdkPort s tableId fieldMatch fieldMatch :=
  ⟨fun _ hsome => absurd (huri.symm.trans hsome) (by simp), fun _ => rfl⟩

/-- The matches of a table entry on their way to the SDK. -/
theorem translateEntryFieldMatches_toSdk {s : Translator} (hmaps : TranslationMapsReady s.maps)
    {tableId : Nat} {fieldMatches fieldMatches' : List FieldMatch}
    (h : translateEntryFieldMatches s tableId fieldMatches true = .ok fieldMatches') :
    List.Forall₂ (CarriesSdkPort s tableId) fieldMatches fieldMatches' := by
  unfold translateEntryFieldMatches at h
  cases huris : s.maps.tableToFieldToTypeUri tableId with
  | none =>
      -- a table without URIs passes unchanged
      rw [huris] at h
      cases h
      apply List.forall₂_same.mpr
      intro fieldMatch _
      exact carriesSdkPort_of_none (by rw [lookup2, huris]; rfl)
  | some fieldToTypeUri =>
      cases hwidths : s.maps.tableToFieldToBitWidth tableId with
      | none =>
          -- the caches give no field of this table a URI without a width
          rw [huris, hwidths] at h
          cases h
          apply List.forall₂_same.mpr
          intro fieldMatch _
          apply carriesSdkPort_of_none
          cases huri : lookup2 s.maps.tableToFieldToTypeUri tableId fieldMatch.fieldId with
          | none => rfl
          | some uri =>
              obtain ⟨-, w, hw, -⟩ := hmaps.table _ _ uri huri
              rw [lookup2, hwidths] at hw
              cases hw
      | some fieldToBitWidth =>
          rw [huris, hwidths] at h
          dsimp only at h
          apply (mapM_eq_ok_iff.mp h).imp
          intro fieldMatch fieldMatch' hfield
          have hport := hmaps.table.portField huris hwidths fieldMatch.fieldId
          constructor
          · intro uri huri
            rw [lookup2_of_eq huris] at huri
            exact translateFieldMatch_toSdk hport huri hfield
          · intro huri
            rw [lookup2_of_eq huris] at huri
            rw [translateFieldMatch_of_none huri] at hfield
            cases hfield
            rfl

/-- A table entry on its way to the SDK, when translation is required: the
same table, and every match field carrying its SDK port. -/
theorem translateTableEntry_toSdk {s : Translator} (hmaps : TranslationMapsReady s.maps)
    (hrequire : s.pipelineRequireTranslation = true) {entry entry' : TableEntry}
    (h : translateTableEntry s entry true = .ok entry') :
    entry'.tableId = entry.tableId ∧
      List.Forall₂ (CarriesSdkPort s entry.tableId) entry.fieldMatches entry'.fieldMatches := by
  rw [translateTableEntry, if_pos hrequire, translateTableEntryInternal, bind_eq_ok] at h
  obtain ⟨fieldMatches', hfields, h⟩ := h
  rw [bind_eq_ok] at h
  obtain ⟨action', -, hentry'⟩ := h
  cases hentry'
  exact ⟨rfl, translateEntryFieldMatches_toSdk hmaps hfields⟩

/-- An action profile member translated to the SDK translates back. -/
theorem translateActionProfileMember_roundtrip {s : Translator} (hs : TranslatorReady s)
    {member member' : ActionProfileMember} (hvalues : ActionPortValues s member.action)
    (h : translateActionProfileMember s member true = .ok member') :
    translateActionProfileMember s member' false = .ok member := by
  unfold translateActionProfileMember at h ⊢
  by_cases hrequire : s.pipelineRequireTranslation = true
  · rw [if_pos hrequire, bind_eq_ok] at h
    obtain ⟨action', haction, hmember'⟩ := h
    cases hmember'
    rw [if_pos hrequire]
    dsimp only
    rw [translateAction_roundtrip hs.ports (hs.maps hrequire) hvalues haction]
    rfl
  · rw [if_neg hrequire] at h ⊢
    cases h
    rfl

/-- A direct counter entry translated to the SDK translates back. -/
theorem translateDirectCounterEntry_roundtrip {s : Translator} (hs : TranslatorReady s)
    {entry entry' : DirectCounterEntry} (hvalues : EntryPortValues s entry.tableEntry)
    (h : translateDirectCounterEntry s entry true = .ok entry') :
    translateDirectCounterEntry s entry' false = .ok entry := by
  unfold translateDirectCounterEntry at h ⊢
  by_cases hrequire : s.pipelineRequireTranslation = true
  · rw [if_pos hrequire, bind_eq_ok] at h
    obtain ⟨tableEntry', htableEntry, hentry'⟩ := h
    cases hentry'
    rw [if_pos hrequire]
    dsimp only
    rw [translateTableEntryInternal_roundtrip hs.ports (hs.maps hrequire) hvalues htableEntry]
    rfl
  · rw [if_neg hrequire] at h ⊢
    cases h
    rfl

/-- A direct meter entry translated to the SDK translates back. -/
theorem translateDirectMeterEntry_roundtrip {s : Translator} (hs : TranslatorReady s)
    {entry entry' : DirectMeterEntry} (hvalues : EntryPortValues s entry.tableEntry)
    (h : translateDirectMeterEntry s entry true = .ok entry') :
    translateDirectMeterEntry s entry' false = .ok entry := by
  unfold translateDirectMeterEntry at h ⊢
  by_cases hrequire : s.pipelineRequireTranslation = true
  · rw [if_pos hrequire, bind_eq_ok] at h
    obtain ⟨tableEntry', htableEntry, hentry'⟩ := h
    cases hentry'
    rw [if_pos hrequire]
    dsimp only
    rw [translateTableEntryInternal_roundtrip hs.ports (hs.maps hrequire) hvalues htableEntry]
    rfl
  · rw [if_neg hrequire] at h ⊢
    cases h
    rfl

/-! ## Indexed entries and replicas -/

/-- An index the round trip keeps: a `uint32` other than the unspecified
port. -/
def PortIndex (index : Int) : Prop := 0 < index ∧ index < 2 ^ 32

/-- An index of type `tna/PortId_t` translated to the SDK translates back. -/
theorem translateIndex_roundtrip {s : Translator} (hready : PortMapsReady s) {index : Index}
    (hindex : PortIndex index.index) {uri : String} {index' : Index}
    (h : translateIndex s index uri true = .ok index') :
    translateIndex s index' uri false = .ok index := by
  unfold translateIndex at h ⊢
  by_cases huri : uri = kUriTnaPortId
  · rw [if_pos huri, if_pos rfl] at h
    rw [if_pos huri, if_neg Bool.false_ne_true]
    have hcast : toUint32 index.index = index.index.toNat :=
      toUint32_of_lt (le_of_lt hindex.1) hindex.2
    cases hfwd : s.singletonPortToSdkPort (toUint32 index.index) with
    | none => rw [hfwd] at h; cases h
    | some q =>
        rw [hfwd] at h
        cases h
        have hq : q < 256 ^ 2 := hready.sdkPort_lt _ q hfwd
        have hqcast : toUint32 (q : Int) = q := by
          rw [toUint32_of_lt (Int.natCast_nonneg q) (by omega)]
          rfl
        -- the SDK port reads back as the singleton port the index named
        have hne : toUint32 index.index ≠ kSdnUnspecifiedPortId := by
          have hpos := hindex.1
          rw [hcast]
          unfold kSdnUnspecifiedPortId
          omega
        have hrev : s.sdkPortToSingletonPort q = some (toUint32 index.index) :=
          hready.inverse _ q hne hfwd
        dsimp only
        rw [hqcast, hrev, hcast]
        dsimp only
        rw [Int.toNat_of_nonneg (le_of_lt hindex.1)]
  · rw [if_neg huri] at h
    cases h

/-- The index of an indexed entry whose object has an index URI translated to
the SDK translates back. -/
theorem translateEntryIndex_roundtrip {s : Translator} (hready : PortMapsReady s)
    {toUri : IdMap String} {id : Nat} {index index' : Option Index}
    (hindex : ∀ i uri, index = some i → toUri id = some uri → PortIndex i.index)
    (h : translateEntryIndex s toUri id index true = .ok index') :
    translateEntryIndex s toUri id index' false = .ok index := by
  unfold translateEntryIndex at h ⊢
  cases index with
  | none => cases h; rfl
  | some i =>
      cases huri : toUri id with
      | none => rw [huri] at h; cases h; rfl
      | some uri =>
          rw [huri, bind_eq_ok] at h
          obtain ⟨i', htranslate, hindex'⟩ := h
          cases hindex'
          dsimp only
          rw [translateIndex_roundtrip hready (hindex i uri rfl huri) htranslate]
          rfl

/-- A counter entry translated to the SDK translates back. -/
theorem translateCounterEntry_roundtrip {s : Translator} (hready : PortMapsReady s)
    {entry entry' : CounterEntry}
    (hindex : ∀ i uri, entry.index = some i → s.maps.counterToTypeUri entry.counterId = some uri →
      PortIndex i.index)
    (h : translateCounterEntry s entry true = .ok entry') :
    translateCounterEntry s entry' false = .ok entry := by
  unfold translateCounterEntry at h ⊢
  split_ifs at h ⊢ with hrequire
  · rw [bind_eq_ok] at h
    obtain ⟨index', htranslate, hentry'⟩ := h
    cases hentry'
    dsimp only
    rw [translateEntryIndex_roundtrip hready hindex htranslate]
    rfl
  · cases h
    rfl

/-- A meter entry translated to the SDK translates back. -/
theorem translateMeterEntry_roundtrip {s : Translator} (hready : PortMapsReady s)
    {entry entry' : MeterEntry}
    (hindex : ∀ i uri, entry.index = some i → s.maps.meterToTypeUri entry.meterId = some uri →
      PortIndex i.index)
    (h : translateMeterEntry s entry true = .ok entry') :
    translateMeterEntry s entry' false = .ok entry := by
  unfold translateMeterEntry at h ⊢
  split_ifs at h ⊢ with hrequire
  · rw [bind_eq_ok] at h
    obtain ⟨index', htranslate, hentry'⟩ := h
    cases hentry'
    dsimp only
    rw [translateEntryIndex_roundtrip hready hindex htranslate]
    rfl
  · cases h
    rfl

/-- A register entry translated to the SDK translates back. -/
theorem translateRegisterEntry_roundtrip {s : Translator} (hready : PortMapsReady s)
    {entry entry' : RegisterEntry}
    (hindex : ∀ i uri, entry.index = some i →
      s.maps.registerToTypeUri entry.registerId = some uri → PortIndex i.index)
    (h : translateRegisterEntry s entry true = .ok entry') :
    translateRegisterEntry s entry' false = .ok entry := by
  unfold translateRegisterEntry at h ⊢
  split_ifs at h ⊢ with hrequire
  · rw [bind_eq_ok] at h
    obtain ⟨index', htranslate, hentry'⟩ := h
    cases hentry'
    dsimp only
    rw [translateEntryIndex_roundtrip hready hindex htranslate]
    rfl
  · cases h
    rfl

/-- A replica of any port but the unspecified one translated to the SDK
translates back. -/
theorem translateReplica_roundtrip {s : Translator} (hready : PortMapsReady s)
    {replica replica' : Replica} (hport : replica.egressPort ≠ kSdnUnspecifiedPortId)
    (h : translateReplica s replica true = .ok replica') :
    translateReplica s replica' false = .ok replica := by
  unfold translateReplica at h ⊢
  simp only [if_true] at h
  cases hfwd : s.singletonPortToSdkPort replica.egressPort with
  | none => rw [hfwd] at h; cases h
  | some q =>
      rw [hfwd] at h
      cases h
      rw [if_neg Bool.false_ne_true]
      have hrev : s.sdkPortToSingletonPort q = some replica.egressPort :=
        hready.inverse _ q hport hfwd
      rw [hrev]

/-- The replicas of a replication entry. -/
def replicationReplicas : PacketReplicationEngineEntry → List Replica
  | .multicastGroupEntry group => group.replicas
  | .cloneSessionEntry session => session.replicas
  | .notSet => []

/-- A multicast group or clone session whose replicas leave by ports other
than the unspecified one, translated to the SDK, translates back. -/
theorem translatePacketReplicationEngineEntry_roundtrip {s : Translator}
    (hready : PortMapsReady s) {entry entry' : PacketReplicationEngineEntry}
    (hports : ∀ replica ∈ replicationReplicas entry, replica.egressPort ≠ kSdnUnspecifiedPortId)
    (h : translatePacketReplicationEngineEntry s entry true = .ok entry') :
    translatePacketReplicationEngineEntry s entry' false = .ok entry := by
  unfold translatePacketReplicationEngineEntry at h ⊢
  split_ifs at h ⊢ with hrequire
  · have hround : ∀ replica ∈ replicationReplicas entry, ∀ replica',
        translateReplica s replica true = .ok replica' →
        translateReplica s replica' false = .ok replica :=
      fun replica hmem _ hreplica =>
        translateReplica_roundtrip hready (hports replica hmem) hreplica
    cases entry with
    | multicastGroupEntry group =>
        rw [bind_eq_ok] at h
        obtain ⟨replicas', hreplicas, hentry'⟩ := h
        cases hentry'
        dsimp only
        rw [mapM_roundtrip hround hreplicas]
        rfl
    | cloneSessionEntry session =>
        rw [bind_eq_ok] at h
        obtain ⟨replicas', hreplicas, hentry'⟩ := h
        cases hentry'
        dsimp only
        rw [mapM_roundtrip hround hreplicas]
        rfl
    | notSet => cases h; rfl
  · cases h
    rfl

/-! ## After the pushes -/

/-- The state after a push of a `ChassisPortsReady` config, then a successful
push of a P4Info whose translated types are all ports, is ready for the round
trip. -/
theorem translatorReady_pushes {sde : SdeInterface} {config : ChassisConfig} {cpuSdkPort : Int}
    {sdkPorts : List Nat} {p4info : P4Info} {s₀ s : Translator}
    (hchassis : ChassisPortsReady sde config cpuSdkPort sdkPorts)
    (htypes : ∀ typeInfo, p4info.typeInfo = some typeInfo → PortIdTypesOnly typeInfo)
    (hpush : pushForwardingPipelineConfig (pushChassisConfig sde s₀ config).1 p4info =
      (s, .ok ())) :
    TranslatorReady s := by
  have hports := portMaps_pushForwardingPipelineConfig hpush
  exact ⟨(portMapsReady_pushChassisConfig hchassis s₀).2.1.of_portMaps_eq hports,
    translationMapsReady_pushForwardingPipelineConfig htypes hpush⟩

/-- After a push of a chassis config whose singleton ports the SDE maps to
distinct 9-bit SDK ports other than the special ones, then a successful push
of a P4Info whose translated types are all `tna/PortId_t`s of non-zero width,
with translation enabled: every singleton port goes to its SDK port; every
table entry on its way to the SDK carries in each translated field the SDK
port of the port the field names, its mask and prefix length set for 9 bits;
and every table entry, action profile member, indexed entry and replication
entry whose translated values name ports other than the unspecified one comes
back from the SDK as it was. -/
theorem translator_port_roundtrip {sde : SdeInterface} {config : ChassisConfig}
    {cpuSdkPort : Int} {sdkPorts : List Nat} {p4info : P4Info} {typeInfo : P4TypeInfo}
    {s₀ s : Translator} (hchassis : ChassisPortsReady sde config cpuSdkPort sdkPorts)
    (henabled : s₀.translationEnabled = true) (htypeInfo : p4info.typeInfo = some typeInfo)
    (htypes : PortIdTypesOnly typeInfo)
    (hpush : pushForwardingPipelineConfig (pushChassisConfig sde s₀ config).1 p4info =
      (s, .ok ())) :
    (∀ p ∈ singletonPairs config.singletonPorts sdkPorts,
      s.singletonPortToSdkPort p.1 = some p.2) ∧
    (∀ entry entry', translateTableEntry s entry true = .ok entry' →
      entry'.tableId = entry.tableId ∧
      List.Forall₂ (CarriesSdkPort s entry.tableId) entry.fieldMatches entry'.fieldMatches ∧
      (EntryPortValues s entry → translateTableEntry s entry' false = .ok entry)) ∧
    (∀ member member', ActionPortValues s member.action →
      translateActionProfileMember s member true = .ok member' →
      translateActionProfileMember s member' false = .ok member) ∧
    (∀ entry entry', (∀ i uri, entry.index = some i →
        s.maps.counterToTypeUri entry.counterId = some uri → PortIndex i.index) →
      translateCounterEntry s entry true = .ok entry' →
      translateCounterEntry s entry' false = .ok entry) ∧
    (∀ entry entry', (∀ i uri, entry.index = some i →
        s.maps.meterToTypeUri entry.meterId = some uri → PortIndex i.index) →
      translateMeterEntry s entry true = .ok entry' →
      translateMeterEntry s entry' false = .ok entry) ∧
    (∀ entry entry', (∀ i uri, entry.index = some i →
        s.maps.registerToTypeUri entry.registerId = some uri → PortIndex i.index) →
      translateRegisterEntry s entry true = .ok entry' →
      translateRegisterEntry s entry' false = .ok entry) ∧
    (∀ entry entry', (∀ replica ∈ replicationReplicas entry,
        replica.egressPort ≠ kSdnUnspecifiedPortId) →
      translatePacketReplicationEngineEntry s entry true = .ok entry' →
      translatePacketReplicationEngineEntry s entry' false = .ok entry) := by
  have hs : TranslatorReady s := by
    apply translatorReady_pushes hchassis _ hpush
    intro typeInfo' htypeInfo'
    rw [htypeInfo] at htypeInfo'
    cases htypeInfo'
    exact htypes
  -- the chassis push keeps translation enabled, so the pipeline push requires it
  have henabled' : (pushChassisConfig sde s₀ config).1.translationEnabled = true := by
    rw [pushChassisConfig_eq_ok hchassis.cpu hchassis.found]
    exact henabled
  have hrequire : s.pipelineRequireTranslation = true :=
    pipelineRequireTranslation_pushForwardingPipelineConfig henabled' htypeInfo hpush
  have hports := portMaps_pushForwardingPipelineConfig hpush
  refine ⟨?_, ?_, fun _ _ hvalues h => translateActionProfileMember_roundtrip hs hvalues h,
    fun _ _ hindex h => translateCounterEntry_roundtrip hs.ports hindex h,
    fun _ _ hindex h => translateMeterEntry_roundtrip hs.ports hindex h,
    fun _ _ hindex h => translateRegisterEntry_roundtrip hs.ports hindex h,
    fun _ _ hreplicas h => translatePacketReplicationEngineEntry_roundtrip hs.ports hreplicas h⟩
  · intro p hp
    show s.portMaps.fwd p.1 = some p.2
    rw [hports]
    exact (portMapsReady_pushChassisConfig hchassis s₀).2.2 p hp
  · intro entry entry' h
    obtain ⟨htable, hfields⟩ := translateTableEntry_toSdk (hs.maps hrequire) hrequire h
    exact ⟨htable, hfields, fun hvalues => translateTableEntry_roundtrip hs hvalues h⟩

/-- Two front-panel singleton ports, `1` and `2`, on ports 1 and 2 of slot 1. -/
def frontPanelConfig : ChassisConfig := ⟨[⟨1, 1, 1, 0⟩, ⟨2, 1, 2, 0⟩]⟩

/-- The type info of a single 32-bit `tna/PortId_t`. -/
def portIdTypeInfo : P4TypeInfo :=
  ⟨[("PortId_t", .translatedType ⟨kUriTnaPortId, .sdnBitwidth 32⟩)]⟩

/-- A P4Info whose match field 1 of table 7 is a `tna/PortId_t`. -/
def portIdP4Info : P4Info :=
  ⟨some portIdTypeInfo, [⟨7, "ingress.acl", [⟨1, some "PortId_t", 32, .exact⟩], false⟩], [], [],
    [], [], []⟩

/-- The translator after both pushes. -/
def portTranslator : Translator :=
  (pushForwardingPipelineConfig (pushChassisConfig frontPanelSde (Translator.create true)
    frontPanelConfig).1 portIdP4Info).1

/-- An entry of table 7 matching the port `value` exactly. -/
def portEntry (value : ByteString) : TableEntry :=
  ⟨7, [⟨1, .exact value⟩], none, 0, 0, none, none, false, 0, none, []⟩

theorem frontPanelConfig_ready : ChassisPortsReady frontPanelSde frontPanelConfig 64 [1, 2] where
  cpu := rfl
  cpu_nonneg := by decide
  cpu_lt := by decide
  found := List.Forall₂.cons rfl (List.Forall₂.cons rfl List.Forall₂.nil)
  sdkPorts_lt := by decide
  ids_nodup := by decide
  sdkPorts_nodup := by decide
  sdkPorts_not_cpu := by decide
  sdkPorts_not_recirculation := by decide
  cpu_not_recirculation := by decide

theorem portIdTypeInfo_portIdTypesOnly : PortIdTypesOnly portIdTypeInfo := by
  intro typeName translation hmem
  simp only [portIdTypeInfo, List.mem_singleton, Prod.mk.injEq, P4NewTypeSpec.translatedType.injEq]
    at hmem
  obtain ⟨-, rfl⟩ := hmem
  exact ⟨rfl, 32, rfl, by decide⟩

theorem translator_port_roundtrip_frontPanel :
    ChassisPortsReady frontPanelSde frontPanelConfig 64 [1, 2] ∧
      PortIdTypesOnly portIdTypeInfo ∧
      translateTableEntry portTranslator (portEntry [2]) true = .ok (portEntry [2]) ∧
      translateTableEntry portTranslator (portEntry [2]) false = .ok (portEntry [2]) := by
  have hsdk : translateTableEntry portTranslator (portEntry [2]) true = .ok (portEntry [2]) := by
    decide
  have hvalues : EntryPortValues portTranslator (portEntry [2]) := by
    constructor
    · intro fieldMatch hmem uri v _ hv
      simp only [portEntry, List.mem_singleton] at hmem
      subst hmem
      cases hv
      exact ⟨by decide, by decide, by decide⟩
    · intro tableAction haction
      cases haction
  have hround := (translator_port_roundtrip frontPanelConfig_ready rfl rfl
    portIdTypeInfo_portIdTypesOnly (Prod.ext rfl rfl)).2.1 _ _ hsdk
  exact ⟨frontPanelConfig_ready, portIdTypeInfo_portIdTypesOnly, hsdk, hround.2.2 hvalues⟩

/-- The round trip as first stated fails at the unspecified port: its value
`0`, canonical, goes to the SDK as SDK port `0`, which no singleton port maps
back from. -/
theorem translator_port_roundtrip_fails :
    ChassisPortsReady frontPanelSde frontPanelConfig 64 [1, 2] ∧
      pushForwardingPipelineConfig (pushChassisConfig frontPanelSde (Translator.create true)
        frontPanelConfig).1 portIdP4Info = (portTranslator, .ok ()) ∧
      byteStringToP4RuntimeByteString [0] = [0] ∧
      translateTableEntry portTranslator (portEntry [0]) true = .ok (portEntry [0]) ∧
      translateTableEntry portTranslator (portEntry [0]) false =
        .error ⟨.errInvalidParam, "Could not find singleton port for sdk port 0."⟩ :=
  ⟨frontPanelConfig_ready, Prod.ext rfl rfl, by decide, by decide, by decide⟩

/-! ## Direct counters and meters -/

/-- Direct counter and direct meter entries whose table entries carry port
values the round trip keeps come back from the SDK as they were. -/
theorem direct_entries_roundtrip {s : Translator} (hs : TranslatorReady s) :
    (∀ entry entry' : DirectCounterEntry, EntryPortValues s entry.tableEntry →
      translateDirectCounterEntry s entry true = .ok entry' →
      translateDirectCounterEntry s entry' false = .ok entry) ∧
    (∀ entry entry' : DirectMeterEntry, EntryPortValues s entry.tableEntry →
      translateDirectMeterEntry s entry true = .ok entry' →
      translateDirectMeterEntry s entry' false = .ok entry) :=
  ⟨fun _ _ hvalues h => translateDirectCounterEntry_roundtrip hs hvalues h,
    fun _ _ hvalues h => translateDirectMeterEntry_roundtrip hs hvalues h⟩

/-- The translator after both pushes is ready for the round trip. -/
theorem portTranslator_ready : TranslatorReady portTranslator :=
  translatorReady_pushes frontPanelConfig_ready
    (fun _ htypeInfo => by
      cases htypeInfo
      exact portIdTypeInfo_portIdTypesOnly)
    (Prod.ext rfl rfl)

theorem direct_entries_roundtrip_portTranslator :
    TranslatorReady portTranslator ∧
      (∀ entry entry' : DirectCounterEntry, EntryPortValues portTranslator entry.tableEntry →
        translateDirectCounterEntry portTranslator entry true = .ok entry' →
        translateDirectCounterEntry portTranslator entry' false = .ok entry) ∧
      (∀ entry entry' : DirectMeterEntry, EntryPortValues portTranslator entry.tableEntry →
        translateDirectMeterEntry portTranslator entry true = .ok entry' →
        translateDirectMeterEntry portTranslator entry' false = .ok entry) :=
  ⟨portTranslator_ready, direct_entries_roundtrip portTranslator_ready⟩

end Stratum.Ports.BfrtP4RuntimeTranslator
