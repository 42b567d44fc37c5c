import Stratum.Ports.BfrtPacketioManager

/-!
# The packet-IO header codec round trip

For a header layout `BuildMetadataMapping` accepted, used for both
directions:

* `deparsePacketOut_error_iff` — `DeparsePacketOut` fails exactly when a
  field's ID has no metadata or its value does not fit the field's width;
* `deparse_parse` — a `PacketOut` whose values fit is parsed back to its
  payload and, field by field, the canonical form of the value written;
* `parse_deparse` — when the layout's IDs are distinct, a parsed `PacketIn`
  deparses to the very buffer it came from.

Each direction is an induction over the layout (`deparseLoop_ok`,
`parseFields_flatMap`, `deparseLoop_parseFields`) on top of the
specifications of `PushBack` and `PopField`.
-/

namespace Stratum.Ports.BfrtPacketioManager

open Stratum.Ports.Status Stratum.Ports.P4Utils Stratum.Ports.P4Runtime
open Stratum.Verified.BigEndian Stratum.Verified.Digits

/-! ## Accepted layouts -/

theorem headerBits_cons (id bitwidth : Nat) (rest : List (Nat × Nat)) :
    headerBits ((id, bitwidth) :: rest) = bitwidth + headerBits rest := by
  simp [headerBits]

/-- A layout `BuildMetadataMapping` accepted fills whole bytes, and its
header sizes count them. -/
theorem buildMetadataMapping_ok {controllerPacketMetadata : List ControllerPacketMetadata}
    {mapping : MetadataMapping} (h : buildMetadataMapping controllerPacketMetadata = .ok mapping) :
    headerBits mapping.packetinHeader = 8 * mapping.packetinHeaderSize ∧
      headerBits mapping.packetoutHeader = 8 * mapping.packetoutHeaderSize := by
  unfold buildMetadataMapping at h
  dsimp only at h
  split_ifs at h with hin hout
  cases h
  dsimp only
  omega

/-- Enough bits for `⌈bitwidth / 8⌉` bytes. -/
theorem two_pow_le_natBytes_bound (bitwidth : Nat) :
    2 ^ bitwidth ≤ 256 ^ ((bitwidth + 8 - 1) / 8) := by
  rw [show (256 : Nat) = 2 ^ 8 from rfl, ← Nat.pow_mul]
  exact Nat.pow_le_pow_right (by decide) (by omega)

/-! ## Deparsing -/

/-- The value `DeparsePacketOut` writes for an ID (empty when none). -/
def metadataValue (packet : PacketOut) (id : Nat) : ByteString :=
  ((findMetadata packet id).map (·.value)).getD []

/-- Every field of the layout finds a metadata whose value fits its width. -/
def FieldsFit (packet : PacketOut) (header : List (Nat × Nat)) : Prop :=
  ∀ f ∈ header, ∃ metadata, findMetadata packet f.1 = some metadata ∧ FitsWidth metadata.value f.2

theorem deparseLoop_ok (packet : PacketOut) :
    ∀ (header : List (Nat × Nat)) (bitBuf : BitBuffer), FieldsFit packet header →
      deparseLoop packet bitBuf header =
        .ok ⟨bitBuf.bits ++
          header.flatMap fun f => fixedDigits 2 f.2 (value (metadataValue packet f.1))⟩
  | [], bitBuf, _ => by simp [deparseLoop]
  | (id, bitwidth) :: rest, bitBuf, hfit => by
      obtain ⟨metadata, hfind, hwidth⟩ := hfit (id, bitwidth) List.mem_cons_self
      have hrest : FieldsFit packet rest := fun f hf => hfit f (List.mem_cons_of_mem _ hf)
      have hvalue : metadataValue packet id = metadata.value := by simp [metadataValue, hfind]
      unfold deparseLoop
      rw [hfind]
      dsimp only
      rw [pushBack_eq, if_pos hwidth]
      dsimp only
      rw [deparseLoop_ok packet rest _ hrest, List.flatMap_cons, hvalue, List.append_assoc]

/-- A field without metadata, or with a value too wide, stops the loop. -/
theorem deparseLoop_error (packet : PacketOut) :
    ∀ (header : List (Nat × Nat)) (bitBuf : BitBuffer), ¬FieldsFit packet header →
      ∃ status, deparseLoop packet bitBuf header = .error status
  | [], _, hfit => absurd (fun f hf => by cases hf) hfit
  | (id, bitwidth) :: rest, bitBuf, hfit => by
      unfold deparseLoop
      cases hfind : findMetadata packet id with
      | none => exact ⟨_, rfl⟩
      | some metadata =>
          dsimp only
          rw [pushBack_eq]
          by_cases hwidth : FitsWidth metadata.value bitwidth
          · rw [if_pos hwidth]
            -- the first field fits, so a later one does not
            refine deparseLoop_error packet rest _ fun hrest => hfit ?_
            intro f hf
            rcases List.mem_cons.mp hf with rfl | hf
            · exact ⟨metadata, hfind, hwidth⟩
            · exact hrest f hf
          · rw [if_neg hwidth]
            exact ⟨_, rfl⟩

/-- `DeparsePacketOut` fails exactly when some field's ID has no metadata or
the value of its first metadata does not fit the field's width. -/
theorem deparsePacketOut_error_iff (mapping : MetadataMapping) (packet : PacketOut) :
    (∃ status, deparsePacketOut mapping packet = .error status) ↔
      ∃ f ∈ mapping.packetoutHeader, findMetadata packet f.1 = none ∨
        ∃ metadata, findMetadata packet f.1 = some metadata ∧ ¬FitsWidth metadata.value f.2 := by
  -- the right side is the failure of `FieldsFit`
  have hfit : (∃ f ∈ mapping.packetoutHeader, findMetadata packet f.1 = none ∨
      ∃ metadata, findMetadata packet f.1 = some metadata ∧ ¬FitsWidth metadata.value f.2) ↔
      ¬FieldsFit packet mapping.packetoutHeader := by
    unfold FieldsFit
    constructor
    · rintro ⟨f, hf, hnone | ⟨metadata, hfind, hwidth⟩⟩ hall
      · obtain ⟨metadata, hfind, -⟩ := hall f hf
        rw [hnone] at hfind
        cases hfind
      · obtain ⟨metadata', hfind', hwidth'⟩ := hall f hf
        rw [hfind] at hfind'
        cases hfind'
        exact hwidth hwidth'
    · intro hnot
      simp only [not_forall, not_exists, not_and] at hnot
      obtain ⟨f, hf, hbad⟩ := hnot
      refine ⟨f, hf, ?_⟩
      cases hfind : findMetadata packet f.1 with
      | none => exact .inl rfl
      | some metadata => exact .inr ⟨metadata, rfl, hbad metadata hfind⟩
  rw [hfit]
  unfold deparsePacketOut
  constructor
  · intro herror hall
    obtain ⟨status, hstatus⟩ := herror
    rw [deparseLoop_ok packet _ _ hall] at hstatus
    cases hstatus
  · intro hnot
    obtain ⟨status, hstatus⟩ := deparseLoop_error packet _ ⟨[]⟩ hnot
    rw [hstatus]
    exact ⟨status, rfl⟩

/-! ## Parsing -/

/-- One field of `ParsePacketIn`: the canonical bytes of the next `bitwidth`
bits. -/
theorem parseFields_cons (id bitwidth : Nat) (rest : List (Nat × Nat)) {bits : List Nat}
    (hbits : ∀ d ∈ bits, d < 2) (hlen : bitwidth ≤ bits.length) :
    parseFields ((id, bitwidth) :: rest) ⟨bits⟩ =
      (⟨id, byteStringToP4RuntimeByteString
          (natBytes ((bitwidth + 8 - 1) / 8) (digitsValue 2 (bits.take bitwidth)))⟩ ::
        (parseFields rest ⟨bits.drop bitwidth⟩).1, (parseFields rest ⟨bits.drop bitwidth⟩).2) := by
  rw [parseFields.eq_2, popField_eq ⟨bits⟩ bitwidth hbits hlen]

/-- Fields written as the low bits of given values are read back as the
bytes of those values. -/
theorem parseFields_flatMap (values : Nat × Nat → Nat) :
    ∀ (header : List (Nat × Nat)) (rest : List Nat), (∀ f ∈ header, values f < 2 ^ f.2) →
      (∀ d ∈ rest, d < 2) →
      (parseFields header ⟨header.flatMap (fun f => fixedDigits 2 f.2 (values f)) ++ rest⟩).1 =
        header.map fun f =>
          ⟨f.1, byteStringToP4RuntimeByteString (natBytes ((f.2 + 8 - 1) / 8) (values f))⟩
  | [], _, _, _ => by simp [parseFields]
  | (id, bitwidth) :: header, rest, hvalues, hrest => by
      have hfirst : values (id, bitwidth) < 2 ^ bitwidth := hvalues _ List.mem_cons_self
      have hnext : ∀ f ∈ header, values f < 2 ^ f.2 :=
        fun f hf => hvalues f (List.mem_cons_of_mem _ hf)
      -- all bits are binary digits
      have hbits : ∀ d ∈ ((id, bitwidth) :: header).flatMap
          (fun f => fixedDigits 2 f.2 (values f)) ++ rest, d < 2 := by
        intro d hd
        rcases List.mem_append.mp hd with hd | hd
        · obtain ⟨f, -, hdf⟩ := List.mem_flatMap.mp hd
          exact mem_fixedDigits_lt (by decide) hdf
        · exact hrest d hd
      have hsplit : ((id, bitwidth) :: header).flatMap (fun f => fixedDigits 2 f.2 (values f)) ++
          rest = fixedDigits 2 bitwidth (values (id, bitwidth)) ++
            (header.flatMap (fun f => fixedDigits 2 f.2 (values f)) ++ rest) := by
        rw [List.flatMap_cons, List.append_assoc]
      have hlen : bitwidth ≤ (((id, bitwidth) :: header).flatMap
          (fun f => fixedDigits 2 f.2 (values f)) ++ rest).length := by
        rw [hsplit, List.length_append, length_fixedDigits]
        exact Nat.le_add_right _ _
      rw [parseFields_cons id bitwidth header hbits hlen, hsplit,
        List.take_left' (length_fixedDigits _ _), List.drop_left' (length_fixedDigits _ _),
        digitsValue_fixedDigits, Nat.mod_eq_of_lt hfirst,
        parseFields_flatMap values header rest hnext hrest, List.map_cons]

/-! ## Deparsing what was parsed -/

/-- When every metadata a parse produces is the one a lookup finds, the
deparse loop writes back the bits the parse read. -/
theorem deparseLoop_parseFields (packet : PacketOut) :
    ∀ (header : List (Nat × Nat)) (bits : List Nat) (bitBuf : BitBuffer), (∀ d ∈ bits, d < 2) →
      headerBits header ≤ bits.length →
      (∀ metadata ∈ (parseFields header ⟨bits⟩).1,
        findMetadata packet metadata.metadataId = some metadata) →
      deparseLoop packet bitBuf header = .ok ⟨bitBuf.bits ++ bits.take (headerBits header)⟩
  | [], _, bitBuf, _, _, _ => by simp [deparseLoop, headerBits]
  | (id, bitwidth) :: header, bits, bitBuf, hbits, hlen, hfind => by
      rw [headerBits_cons] at hlen ⊢
      have hlen' : bitwidth ≤ bits.length := by omega
      rw [parseFields_cons id bitwidth header hbits hlen'] at hfind
      -- the field's bits, their value and the canonical bytes parsed from them
      set field := bits.take bitwidth with hfield
      have hfieldLen : field.length = bitwidth := List.length_take_of_le hlen'
      have hfieldBits : ∀ d ∈ field, d < 2 := fun d hd => hbits d (List.mem_of_mem_take hd)
      have hlt : digitsValue 2 field < 2 ^ bitwidth := by
        have := digitsValue_lt hfieldBits
        rwa [hfieldLen] at this
      have hbound : digitsValue 2 field < 256 ^ ((bitwidth + 8 - 1) / 8) :=
        Nat.lt_of_lt_of_le hlt (two_pow_le_natBytes_bound bitwidth)
      set parsed := byteStringToP4RuntimeByteString
        (natBytes ((bitwidth + 8 - 1) / 8) (digitsValue 2 field)) with hparsed
      have hvalue : value parsed = digitsValue 2 field := by
        rw [hparsed, value_byteStringToP4RuntimeByteString, value_natBytes,
          Nat.mod_eq_of_lt hbound]
      have hwidth : FitsWidth parsed bitwidth := by
        refine ⟨?_, hvalue ▸ hlt⟩
        have := length_byteStringToP4RuntimeByteString_le
          (natBytes ((bitwidth + 8 - 1) / 8) (digitsValue 2 field))
        rwa [length_natBytes] at this
      have hdigits : fixedDigits 2 bitwidth (value parsed) = field := by
        rw [hvalue, ← hfieldLen, fixedDigits_digitsValue (by decide) hfieldBits]
      have hhead := hfind _ List.mem_cons_self
      have htail : ∀ metadata ∈ (parseFields header ⟨bits.drop bitwidth⟩).1,
          findMetadata packet metadata.metadataId = some metadata :=
        fun metadata hm => hfind metadata (List.mem_cons_of_mem _ hm)
      have hdropBits : ∀ d ∈ bits.drop bitwidth, d < 2 :=
        fun d hd => hbits d (List.mem_of_mem_drop hd)
      have hdropLen : headerBits header ≤ (bits.drop bitwidth).length := by
        rw [List.length_drop]
        omega
      unfold deparseLoop
      rw [hhead]
      dsimp only
      rw [pushBack_eq, if_pos hwidth]
      dsimp only
      rw [hdigits, deparseLoop_parseFields packet header _ _ hdropBits hdropLen htail,
        List.append_assoc, hfield, ← List.take_add]

theorem map_metadataId_parseFields :
    ∀ (header : List (Nat × Nat)) (bitBuf : BitBuffer),
      (parseFields header bitBuf).1.map (·.metadataId) = header.map Prod.fst
  | [], _ => rfl
  | (id, bitwidth) :: header, bitBuf => by
      unfold parseFields
      simp [map_metadataId_parseFields header]

/-- With distinct IDs, the lookup of each metadata's ID finds it. -/
theorem find_metadataId_of_nodup :
    ∀ {metadata : List PacketMetadata}, (metadata.map (·.metadataId)).Nodup →
      ∀ m ∈ metadata, metadata.find? (·.metadataId == m.metadataId) = some m
  | [], _, m, hm => by cases hm
  | m' :: metadata, hnodup, m, hm => by
      rw [List.map_cons, List.nodup_cons] at hnodup
      rw [List.find?_cons]
      rcases List.mem_cons.mp hm with rfl | hm
      · simp
      · -- an ID further on differs from the first one
        have hne : m'.metadataId ≠ m.metadataId := fun heq =>
          hnodup.1 (heq ▸ List.mem_map_of_mem hm)
        rw [show (m'.metadataId == m.metadataId) = false from beq_false_of_ne hne]
        exact find_metadataId_of_nodup hnodup.2 m hm

/-! ## The round trips -/

theorem length_flatMap_fixedDigits (header : List (Nat × Nat)) (values : Nat × Nat → Nat) :
    (header.flatMap fun f => fixedDigits 2 f.2 (values f)).length = headerBits header := by
  simp [List.length_flatMap, headerBits]

/-- `PopAll` of a whole header: its bytes, big-endian. -/
theorem popAll_eq {bits : List Nat} (hbits : ∀ d ∈ bits, d < 2) {size : Nat}
    (hlen : bits.length = 8 * size) :
    (BitBuffer.mk bits).popAll = natBytes size (digitsValue 2 bits) := by
  unfold BitBuffer.popAll
  have hbytes : (8 * size + 8 - 1) / 8 = size := by omega
  rw [popField_eq ⟨bits⟩ bits.length hbits (le_refl _), List.take_length, hlen, hbytes]

/-- `ParsePacketIn` reads the header bytes into their bits. -/
theorem parsePacketIn_eq (mapping : MetadataMapping) {buffer : ByteString}
    (hlen : mapping.packetinHeaderSize ≤ buffer.length) :
    parsePacketIn mapping buffer =
      .ok ⟨buffer.drop mapping.packetinHeaderSize,
        (parseFields mapping.packetinHeader ⟨fixedDigits 2 (8 * mapping.packetinHeaderSize)
          (value (buffer.take mapping.packetinHeaderSize))⟩).1⟩ := by
  have htake : (buffer.take mapping.packetinHeaderSize).length = mapping.packetinHeaderSize :=
    List.length_take_of_le hlen
  have hwidth : FitsWidth (buffer.take mapping.packetinHeaderSize)
      (mapping.packetinHeaderSize * 8) := by
    refine ⟨by omega, ?_⟩
    have := value_lt (buffer.take mapping.packetinHeaderSize)
    rwa [htake, show (256 : Nat) = 2 ^ 8 from rfl, ← Nat.pow_mul, Nat.mul_comm] at this
  unfold parsePacketIn
  rw [if_pos hlen, pushBack_eq, if_pos hwidth, Nat.mul_comm]
  rfl

/-- A `PacketOut` whose values fit is parsed back to its payload and the
canonical bytes of each value, at the field's byte width. -/
theorem deparse_parse {controllerPacketMetadata : List ControllerPacketMetadata}
    {mapping : MetadataMapping}
    (hbuilt : buildMetadataMapping controllerPacketMetadata = .ok mapping)
    (hsame : mapping.packetoutHeader = mapping.packetinHeader) {packet : PacketOut}
    (hfit : FieldsFit packet mapping.packetoutHeader) :
    ∃ buffer, deparsePacketOut mapping packet = .ok buffer ∧
      parsePacketIn mapping buffer = .ok ⟨packet.payload, mapping.packetinHeader.map fun f =>
        ⟨f.1, byteStringToP4RuntimeByteString
          (natBytes ((f.2 + 8 - 1) / 8) (value (metadataValue packet f.1)))⟩⟩ := by
  obtain ⟨hin, -⟩ := buildMetadataMapping_ok hbuilt
  rw [hsame] at hfit
  -- the header bits: every field's value, at the field's width
  set bits := mapping.packetinHeader.flatMap fun f =>
    fixedDigits 2 f.2 (value (metadataValue packet f.1)) with hbitsDef
  have hbits : ∀ d ∈ bits, d < 2 := by
    intro d hd
    obtain ⟨f, -, hdf⟩ := List.mem_flatMap.mp hd
    exact mem_fixedDigits_lt (by decide) hdf
  have hlen : bits.length = 8 * mapping.packetinHeaderSize := by
    rw [hbitsDef, length_flatMap_fixedDigits, hin]
  have hvalues : ∀ f ∈ mapping.packetinHeader, value (metadataValue packet f.1) < 2 ^ f.2 := by
    intro f hf
    obtain ⟨metadata, hfind, hwidth⟩ := hfit f hf
    simpa [metadataValue, hfind] using hwidth.2
  have hheader : digitsValue 2 bits < 256 ^ mapping.packetinHeaderSize := by
    have := digitsValue_lt hbits
    rwa [hlen, Nat.pow_mul] at this
  refine ⟨natBytes mapping.packetinHeaderSize (digitsValue 2 bits) ++ packet.payload, ?_, ?_⟩
  · unfold deparsePacketOut
    rw [hsame, deparseLoop_ok packet _ _ hfit]
    dsimp only
    rw [List.nil_append, ← hbitsDef, popAll_eq hbits hlen]
  · have hsize : mapping.packetinHeaderSize ≤
        (natBytes mapping.packetinHeaderSize (digitsValue 2 bits) ++ packet.payload).length := by
      simp
    rw [parsePacketIn_eq mapping hsize, List.take_left' (length_natBytes _ _),
      List.drop_left' (length_natBytes _ _), value_natBytes, Nat.mod_eq_of_lt hheader, ← hlen,
      fixedDigits_digitsValue (by decide) hbits, ← List.append_nil bits, hbitsDef,
      parseFields_flatMap _ _ [] hvalues (fun d hd => by cases hd)]

/-- With distinct IDs in the layout, a parsed `PacketIn` deparses to the
buffer it came from. -/
theorem parse_deparse {controllerPacketMetadata : List ControllerPacketMetadata}
    {mapping : MetadataMapping}
    (hbuilt : buildMetadataMapping controllerPacketMetadata = .ok mapping)
    (hsame : mapping.packetoutHeader = mapping.packetinHeader)
    (hnodup : (mapping.packetinHeader.map Prod.fst).Nodup) {buffer : ByteString}
    (hlen : mapping.packetinHeaderSize ≤ buffer.length) :
    ∃ packetIn, parsePacketIn mapping buffer = .ok packetIn ∧
      deparsePacketOut mapping ⟨packetIn.payload, packetIn.metadata⟩ = .ok buffer := by
  obtain ⟨hin, -⟩ := buildMetadataMapping_ok hbuilt
  set header := buffer.take mapping.packetinHeaderSize with hheaderDef
  have hheaderLen : header.length = mapping.packetinHeaderSize := List.length_take_of_le hlen
  set bits := fixedDigits 2 (8 * mapping.packetinHeaderSize) (value header) with hbitsDef
  have hbits : ∀ d ∈ bits, d < 2 := fun d hd => mem_fixedDigits_lt (by decide) hd
  have hbitsLen : bits.length = 8 * mapping.packetinHeaderSize := length_fixedDigits _ _
  set metadata := (parseFields mapping.packetinHeader ⟨bits⟩).1 with hmetadataDef
  refine ⟨⟨buffer.drop mapping.packetinHeaderSize, metadata⟩, parsePacketIn_eq mapping hlen, ?_⟩
  -- every parsed metadata is the one the deparse lookup finds
  have hfind : ∀ m ∈ metadata,
      findMetadata ⟨buffer.drop mapping.packetinHeaderSize, metadata⟩ m.metadataId = some m := by
    intro m hm
    apply find_metadataId_of_nodup _ m hm
    rw [hmetadataDef, map_metadataId_parseFields]
    exact hnodup
  have hvalue : value header < 2 ^ (8 * mapping.packetinHeaderSize) := by
    rw [Nat.pow_mul]
    have := value_lt header
    rwa [hheaderLen] at this
  have hheaderBytes : natBytes mapping.packetinHeaderSize (value header) = header := by
    rw [← hheaderLen]
    exact natBytes_value header
  unfold deparsePacketOut
  rw [hsame, deparseLoop_parseFields _ _ bits ⟨[]⟩ hbits (by rw [hin, hbitsLen]) hfind]
  dsimp only
  rw [List.nil_append, hin, ← hbitsLen, List.take_length, popAll_eq hbits hbitsLen, hbitsDef,
    digitsValue_fixedDigits, Nat.mod_eq_of_lt hvalue, hheaderBytes, hheaderDef,
    List.take_append_drop]

/-- The canonical form of a value written at a field's byte width is the
value's own canonical form, unless the value is empty and the field is not. -/
theorem canonical_natBytes_metadataValue {packet : PacketOut} {f : Nat × Nat}
    {metadata : PacketMetadata} (hfind : findMetadata packet f.1 = some metadata)
    (hwidth : FitsWidth metadata.value f.2) (hnonempty : metadataValue packet f.1 ≠ [] ∨ f.2 = 0) :
    byteStringToP4RuntimeByteString
        (natBytes ((f.2 + 8 - 1) / 8) (value (metadataValue packet f.1))) =
      byteStringToP4RuntimeByteString (metadataValue packet f.1) := by
  have hvalue : metadataValue packet f.1 = metadata.value := by simp [metadataValue, hfind]
  rw [hvalue] at hnonempty ⊢
  rcases hnonempty with hne | hzero
  · exact byteStringToP4RuntimeByteString_natBytes hne hwidth.1
  · -- a field of no bits holds the empty string
    have hempty : metadata.value = [] := by
      have := hwidth.1
      rw [hzero] at this
      exact List.eq_nil_of_length_eq_zero (by omega)
    rw [hempty, hzero]
    rfl

/-- The header codec of `BfrtPacketioManager`, for a layout
`BuildMetadataMapping` accepted and used for both headers: a `PacketOut`
whose fields all find a value that fits (and is non-empty unless the field
has no bits) deparses, and parses back to its payload and, in layout order,
the canonical form of each value; when the layout's IDs are distinct,
deparsing a parsed buffer gives the buffer back byte for byte; and
`DeparsePacketOut` fails exactly when some field's ID has no metadata or
its value does not fit the field's width. -/
theorem packetio_header_roundtrip {controllerPacketMetadata : List ControllerPacketMetadata}
    {mapping : MetadataMapping}
    (hbuilt : buildMetadataMapping controllerPacketMetadata = .ok mapping)
    (hsame : mapping.packetoutHeader = mapping.packetinHeader) :
    (∀ packet : PacketOut, FieldsFit packet mapping.packetoutHeader →
      (∀ f ∈ mapping.packetoutHeader, metadataValue packet f.1 ≠ [] ∨ f.2 = 0) →
      ∃ buffer, deparsePacketOut mapping packet = .ok buffer ∧
        parsePacketIn mapping buffer = .ok ⟨packet.payload, mapping.packetinHeader.map fun f =>
          ⟨f.1, byteStringToP4RuntimeByteString (metadataValue packet f.1)⟩⟩) ∧
      ((mapping.packetinHeader.map Prod.fst).Nodup → ∀ buffer : ByteString,
        mapping.packetinHeaderSize ≤ buffer.length →
        ∃ packetIn, parsePacketIn mapping buffer = .ok packetIn ∧
          deparsePacketOut mapping ⟨packetIn.payload, packetIn.metadata⟩ = .ok buffer) ∧
      ∀ packet : PacketOut, (∃ status, deparsePacketOut mapping packet = .error status) ↔
        ∃ f ∈ mapping.packetoutHeader, findMetadata packet f.1 = none ∨
          ∃ metadata, findMetadata packet f.1 = some metadata ∧ ¬FitsWidth metadata.value f.2 := by
  refine ⟨?_, fun hnodup buffer hlen => parse_deparse hbuilt hsame hnodup hlen,
    deparsePacketOut_error_iff mapping⟩
  intro packet hfit hnonempty
  obtain ⟨buffer, hdeparse, hparse⟩ := deparse_parse hbuilt hsame hfit
  refine ⟨buffer, hdeparse, ?_⟩
  rw [hparse]
  -- each parsed value is the canonical form of the value written
  have hfields : (mapping.packetinHeader.map fun f => (⟨f.1, byteStringToP4RuntimeByteString
      (natBytes ((f.2 + 8 - 1) / 8) (value (metadataValue packet f.1)))⟩ : PacketMetadata)) =
      mapping.packetinHeader.map fun f =>
        ⟨f.1, byteStringToP4RuntimeByteString (metadataValue packet f.1)⟩ := by
    apply List.map_congr_left
    intro f hf
    rw [← hsame] at hf
    obtain ⟨metadata, hfind, hwidth⟩ := hfit f hf
    rw [canonical_natBytes_metadataValue hfind hwidth (hnonempty f hf)]
  rw [hfields]

theorem packetio_header_roundtrip_port :
    ∃ packetIn, parsePacketIn ⟨[(1, 9), (2, 7)], [(1, 9), (2, 7)], 2, 2⟩ [128, 3, 5] =
        .ok packetIn ∧
      deparsePacketOut ⟨[(1, 9), (2, 7)], [(1, 9), (2, 7)], 2, 2⟩
        ⟨packetIn.payload, packetIn.metadata⟩ = .ok [128, 3, 5] :=
  (packetio_header_roundtrip
      (show buildMetadataMapping
          [⟨"packet_in", [⟨1, "ingress_port", 9, none⟩, ⟨2, "padding", 7, none⟩]⟩,
            ⟨"packet_out", [⟨1, "egress_port", 9, none⟩, ⟨2, "padding", 7, none⟩]⟩] =
            .ok ⟨[(1, 9), (2, 7)], [(1, 9), (2, 7)], 2, 2⟩
        from rfl) rfl).2.1 (by decide) [128, 3, 5] (by decide)

/-- The round trip as first stated fails twice: an empty value of an 8-bit
field comes back as the byte `0`, not as its own (empty) canonical form;
and with the ID `1` used for two fields, deparsing the parsed buffer `[1, 2]`
writes the first field's value twice. -/
theorem packetio_header_roundtrip_fails :
    (¬∀ (controllerPacketMetadata : List ControllerPacketMetadata) (mapping : MetadataMapping)
        (packet : PacketOut), buildMetadataMapping controllerPacketMetadata = .ok mapping →
        mapping.packetoutHeader = mapping.packetinHeader →
        FieldsFit packet mapping.packetoutHeader →
        ∃ buffer, deparsePacketOut mapping packet = .ok buffer ∧
          parsePacketIn mapping buffer = .ok ⟨packet.payload, mapping.packetinHeader.map fun f =>
            ⟨f.1, byteStringToP4RuntimeByteString (metadataValue packet f.1)⟩⟩) ∧
      ¬∀ (controllerPacketMetadata : List ControllerPacketMetadata) (mapping : MetadataMapping)
        (buffer : ByteString), buildMetadataMapping controllerPacketMetadata = .ok mapping →
        mapping.packetoutHeader = mapping.packetinHeader →
        mapping.packetinHeaderSize ≤ buffer.length →
        ∃ packetIn, parsePacketIn mapping buffer = .ok packetIn ∧
          deparsePacketOut mapping ⟨packetIn.payload, packetIn.metadata⟩ = .ok buffer := by
  constructor
  · intro hstated
    have hfit : FieldsFit ⟨[], [⟨1, []⟩]⟩ [(1, 8)] := by
      intro f hf
      rw [List.mem_singleton] at hf
      subst hf
      exact ⟨⟨1, []⟩, rfl, by decide⟩
    obtain ⟨buffer, hdeparse, hparse⟩ := hstated
      [⟨"packet_in", [⟨1, "port", 8, none⟩]⟩, ⟨"packet_out", [⟨1, "port", 8, none⟩]⟩]
      ⟨[(1, 8)], [(1, 8)], 1, 1⟩ ⟨[], [⟨1, []⟩]⟩ rfl rfl hfit
    have hbuffer : buffer = [0] := by
      have hrun : deparsePacketOut ⟨[(1, 8)], [(1, 8)], 1, 1⟩ ⟨[], [⟨1, []⟩]⟩ = .ok [0] := by
        decide
      rw [hrun] at hdeparse
      cases hdeparse
      rfl
    subst hbuffer
    exact absurd hparse (by decide)
  · intro hstated
    obtain ⟨packetIn, hparse, hdeparse⟩ := hstated
      [⟨"packet_in", [⟨1, "port", 8, none⟩, ⟨1, "port", 8, none⟩]⟩,
        ⟨"packet_out", [⟨1, "port", 8, none⟩, ⟨1, "port", 8, none⟩]⟩]
      ⟨[(1, 8), (1, 8)], [(1, 8), (1, 8)], 2, 2⟩ [1, 2] rfl rfl (by decide)
    have hrun : parsePacketIn ⟨[(1, 8), (1, 8)], [(1, 8), (1, 8)], 2, 2⟩ [1, 2] =
        .ok ⟨[], [⟨1, [1]⟩, ⟨1, [2]⟩]⟩ := by
      decide
    rw [hrun] at hparse
    cases hparse
    exact absurd hdeparse (by decide)

end Stratum.Ports.BfrtPacketioManager
