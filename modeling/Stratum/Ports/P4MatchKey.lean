import Stratum.Ports.Status
import Stratum.Ports.P4Runtime
import Stratum.Ports.P4Utils
import Stratum.Verified.BitPacking

set_option linter.dupNamespace false

/-!
# Match-field conversion of `P4MatchKey`

`stratum/hal/lib/p4/p4_match_key.cc` converts one `FieldMatch` of a P4
`TableEntry` into the `MappedField` a switch SDK expects: a `u32`, a `u64`
or a byte string, with a mask for ternary and LPM matches. A conversion
entry of the table map says which; the field's bit width comes from the
P4 program.

`CheckBitWidth` accepts a byte string when its value fits the width:
leading padding bytes must be zeroes, and so must the unused high bits of
the first value byte. `StringDataToU` then reads the value with
`ByteStreamToUint`, which reads only the first `sizeof(U)` bytes. The
global flag `FLAGS_enforce_bytestring_length` is a parameter of every
conversion.

The `MappedField` is an out-parameter: `Convert` returns a status and the
field as it left it, which on failure holds the raw match in its value.

Main results:

* `checkBitWidth_eq_ok_iff` — with the flag off, a string passes the width
  check exactly when its big-endian value is below `2 ^ w`;
* `convert_exact_toU32`, `convert_exact_toU64` — an exact match converted to
  an integer within its width succeeds exactly when its value fits, and
  yields the value of its first four (eight) bytes;
* `exact_u64_padded_key_read_as_zero` — so a zero-padded key longer than
  the integer converts to the value of its padding;
* `lpm_masks_agree` — the integer masks, the string mask and every
  successful LPM conversion encode `(2 ^ p - 1) * 2 ^ (w - p)`.
-/

namespace Stratum.Ports.P4MatchKey

open Stratum.Ports.Status Stratum.Ports.P4Runtime Stratum.Ports.P4Utils
open Stratum.Verified.BigEndian Stratum.Verified.BitPacking

/-- `P4FieldDescriptor::P4FieldValueConversion`. -/
inductive P4FieldValueConversion
  | p4ConvertUnknown
  | p4ConvertRaw
  | p4ConvertToU32
  | p4ConvertToU32AndMask
  | p4ConvertToU64
  | p4ConvertToU64AndMask
  | p4ConvertToBytes
  | p4ConvertToBytesAndMask
  deriving DecidableEq, Repr

/-- `P4FieldDescriptor::P4FieldConversionEntry`. -/
structure P4FieldConversionEntry where
  matchType : P4Info.MatchType
  conversion : P4FieldValueConversion
  deriving DecidableEq, Repr

/-- The `data` oneof of `MappedField::Value`. -/
inductive MappedValue
  | u32 (value : Nat)
  | u64 (value : Nat)
  | b (bytes : ByteString)
  | rawPiMatch (fieldMatch : FieldMatch)
  | notSet
  deriving DecidableEq, Repr

/-- The `value` and `mask` of a `MappedField`, the two fields `Convert`
writes. -/
structure MappedField where
  value : MappedValue
  mask : MappedValue
  deriving DecidableEq, Repr

/-! ## `FieldMatch` accessors

A protobuf accessor of a `oneof` case that is not set reads the default
message, whose byte fields are empty and whose numbers are zero. -/

/-- `exact().value()`. -/
def exactValue (fieldMatch : FieldMatch) : ByteString :=
  match fieldMatch.fieldMatchType with
  | .exact value => value
  | _ => []

/-- `ternary().value()`. -/
def ternaryValue (fieldMatch : FieldMatch) : ByteString :=
  match fieldMatch.fieldMatchType with
  | .ternary value _ => value
  | _ => []

/-- `ternary().mask()`. -/
def ternaryMask (fieldMatch : FieldMatch) : ByteString :=
  match fieldMatch.fieldMatchType with
  | .ternary _ mask => mask
  | _ => []

/-- `lpm().value()`. -/
def lpmValue (fieldMatch : FieldMatch) : ByteString :=
  match fieldMatch.fieldMatchType with
  | .lpm value _ => value
  | _ => []

/-- `lpm().prefix_len()`. -/
def lpmPrefixLen (fieldMatch : FieldMatch) : Int :=
  match fieldMatch.fieldMatchType with
  | .lpm _ prefixLen => prefixLen
  | _ => 0

/-! ## Width checks and integer conversion -/

/-- The `value_exceeds_bitwidth` flag of `CheckBitWidth`: a non-zero padding
byte in front of the width's bytes, or a first value byte with a high bit
set beyond the width. The first value byte is compared as an unsigned
number; the code compares a signed `char` with its masked self, which
differs as well for every byte from `0x80` on, since the mask has at most
seven bits. -/
def valueExceedsBitwidth (bytesValue : ByteString) (bitWidth : Nat) : Bool :=
  let specBytes := (bitWidth + 7) / 8
  let firstValueByte := if bytesValue.length > specBytes then bytesValue.length - specBytes else 0
  -- leading padding bytes beyond the width must be zeroes
  let paddingExceeds := decide (bytesValue.length > specBytes) &&
    (bytesValue.take firstValueByte).any (· != 0)
  -- so must the unused high-order bits of the first value byte
  let firstByteBits := bitWidth % 8
  let firstByte := (bytesValue.getD firstValueByte 0).toNat
  let highBitsExceed := firstByteBits != 0 && decide (bytesValue.length ≥ specBytes) &&
    (firstByte &&& ((1 <<< firstByteBits) - 1)) != firstByte
  paddingExceeds || highBitsExceed

/-- `CheckBitWidth`. -/
def checkBitWidth (enforceBytestringLength : Bool) (bytesValue : ByteString) (bitWidth : Nat) :
    StatusOr Unit :=
  let specBytes := (bitWidth + 7) / 8
  if enforceBytestringLength && specBytes != bytesValue.length then
    .error ⟨.errInvalidParam, "Match key with " ++ toString bytesValue.length ++
      " bytes does not conform to P4Runtime-defined width of " ++ toString bitWidth ++
      " bits, which requires a match key field of " ++ toString specBytes ++ " bytes: "⟩
  else if valueExceedsBitwidth bytesValue bitWidth then
    .error ⟨.errInvalidParam, "Match key value exceeds the P4Runtime-defined width of " ++
      toString bitWidth ++ " bits: "⟩
  else .ok ()

/-- `StringDataToU<U>` for a `U` of `size` bytes. -/
def stringDataToU (size : Nat) (enforceBytestringLength : Bool) (bytes : ByteString)
    (bitWidth : Nat) : StatusOr Nat := do
  let kMaxWidth := size * 8
  if bitWidth > kMaxWidth then
    throw ⟨.errInvalidParam, "Match key bit width " ++ toString bitWidth ++
      " exceeds maximum unsigned width of " ++ toString kMaxWidth⟩
  checkBitWidth enforceBytestringLength bytes bitWidth
  pure (byteStreamToUint size bytes)

/-- `ConvertBytes`: the value written into the `MappedField::Value` on
success. -/
def convertBytes (enforceBytestringLength : Bool) (fieldMatch : FieldMatch)
    (bytesValue : ByteString) (conversionEntry : P4FieldConversionEntry) (bitWidth : Nat) :
    StatusOr MappedValue :=
  match conversionEntry.conversion with
  | .p4ConvertUnknown =>
      .error ⟨.errInvalidParam,
        "P4 TableEntry match field  unknown value conversion to P4_CONVERT_UNKNOWN"⟩
  | .p4ConvertRaw => .ok (.rawPiMatch fieldMatch)
  | .p4ConvertToU32 | .p4ConvertToU32AndMask =>
      .u32 <$> stringDataToU 4 enforceBytestringLength bytesValue bitWidth
  | .p4ConvertToU64 | .p4ConvertToU64AndMask =>
      .u64 <$> stringDataToU 8 enforceBytestringLength bytesValue bitWidth
  | .p4ConvertToBytes | .p4ConvertToBytesAndMask => do
      checkBitWidth enforceBytestringLength bytesValue bitWidth
      pure (.b bytesValue)

/-! ## Prefix masks -/

/-- `CreateUIntMask<U>` for a `U` of `n` bits: `mask |= 1 << bit` for `bit`
from `field_width - 1` down to `field_width - mask_length`. The caller has
checked `mask_length ≤ field_width`. -/
def createUIntMask (n fieldWidth : Nat) (maskLength : Int) : BitVec n :=
  setBits n ((List.range maskLength.toNat).map fun i => fieldWidth - 1 - i)

/-- `CreateStringMask`: the bits from `field_width - 1` down to `0` shifted
into a byte, set when above `field_width - mask_length - 1`, the byte pushed
at every bit index divisible by 8. -/
def createStringMask (fieldWidth : Nat) (maskLength : Int) : ByteString :=
  (packBits (fun bit => decide ((bit : Int) > fieldWidth - maskLength - 1)) fieldWidth
    ([], 0)).1

/-- `ConvertLPMPrefixLengthToMask`: the mask written on success. -/
def convertLPMPrefixLengthToMask (fieldMatch : FieldMatch)
    (conversionEntry : P4FieldConversionEntry) (bitWidth : Nat) : StatusOr MappedValue :=
  let prefixLength := lpmPrefixLen fieldMatch
  if prefixLength > bitWidth then
    .error ⟨.errInvalidParam, "Match key LPM prefix length " ++ toString prefixLength ++
      " exceeds maximum bit width " ++ toString bitWidth ++ " of match value"⟩
  else
    match conversionEntry.conversion with
    | .p4ConvertToU32AndMask => .ok (.u32 (createUIntMask 32 bitWidth prefixLength).toNat)
    | .p4ConvertToU64AndMask => .ok (.u64 (createUIntMask 64 bitWidth prefixLength).toNat)
    | .p4ConvertToBytesAndMask => .ok (.b (createStringMask bitWidth prefixLength))
    | _ =>
        .error ⟨.errOperNotSupported,
          "Field descriptor  does not specify how to convert prefix in LPM match"⟩

/-! ## The match-key classes -/

/-- A `P4MatchKey` by its subclass, with the `FieldMatch` it was made from. -/
inductive P4MatchKey
  | exact (fieldMatch : FieldMatch)
  | ternary (fieldMatch : FieldMatch)
  | lpm (fieldMatch : FieldMatch)
  | range (fieldMatch : FieldMatch)
  | unspecified (fieldMatch : FieldMatch)
  deriving DecidableEq, Repr

/-- `P4MatchKey::CreateInstance`: `nullptr` for the optional and other match
kinds. -/
def P4MatchKey.createInstance (fieldMatch : FieldMatch) : Option P4MatchKey :=
  match fieldMatch.fieldMatchType with
  | .exact _ => some (.exact fieldMatch)
  | .ternary _ _ => some (.ternary fieldMatch)
  | .lpm _ _ => some (.lpm fieldMatch)
  | .range _ _ => some (.range fieldMatch)
  | .notSet => some (.unspecified fieldMatch)
  | .optional _ | .other => none

/-- `p4_field_match()`. -/
def P4MatchKey.p4FieldMatch : P4MatchKey → FieldMatch
  | .exact fieldMatch | .ternary fieldMatch | .lpm fieldMatch | .range fieldMatch
  | .unspecified fieldMatch => fieldMatch

/-- `allowed_match_type()`, as each subclass's constructor sets it. -/
def P4MatchKey.allowedMatchType : P4MatchKey → P4Info.MatchType
  | .exact _ => .exact
  | .ternary _ => .ternary
  | .lpm _ => .lpm
  | .range _ => .range
  | .unspecified _ => .unspecified

/-- `ConvertValue` of each subclass: the status and the `MappedField` it
leaves. The range match keeps the base class's raw copy. -/
def P4MatchKey.convertValue (key : P4MatchKey) (enforceBytestringLength : Bool)
    (conversionEntry : P4FieldConversionEntry) (bitWidth : Nat) (mappedField : MappedField) :
    StatusOr Unit × MappedField :=
  let convert := convertBytes enforceBytestringLength key.p4FieldMatch
  match key with
  | .exact fieldMatch =>
      if (exactValue fieldMatch).isEmpty then
        (.error ⟨.errInvalidParam, "Exact match field has no value: "⟩, mappedField)
      else
        match convert (exactValue fieldMatch) conversionEntry bitWidth with
        | .ok value => (.ok (), { mappedField with value := value })
        | .error e => (.error e, mappedField)
  | .ternary fieldMatch =>
      if (ternaryValue fieldMatch).isEmpty || (ternaryMask fieldMatch).isEmpty then
        (.error ⟨.errInvalidParam, "Ternary match field is missing value or mask: "⟩,
          mappedField)
      else if conversionEntry.conversion ∉ [.p4ConvertToU32AndMask, .p4ConvertToU64AndMask,
          .p4ConvertToBytesAndMask] then
        (.error ⟨.errOperNotSupported,
          "Field descriptor  does not specify how to convert ternary mask"⟩, mappedField)
      else
        match convert (ternaryValue fieldMatch) conversionEntry bitWidth with
        | .error e => (.error e, mappedField)
        | .ok value =>
            match convert (ternaryMask fieldMatch) conversionEntry bitWidth with
            | .ok mask => (.ok (), { value := value, mask := mask })
            | .error e => (.error e, { mappedField with value := value })
  | .lpm fieldMatch =>
      if (lpmValue fieldMatch).isEmpty || lpmPrefixLen fieldMatch = 0 then
        (.error ⟨.errInvalidParam, "LPM match field is missing value or prefix length: "⟩,
          mappedField)
      else
        match convertLPMPrefixLengthToMask fieldMatch conversionEntry bitWidth with
        | .error e => (.error e, mappedField)
        | .ok mask =>
            match convert (lpmValue fieldMatch) conversionEntry bitWidth with
            | .ok value => (.ok (), { value := value, mask := mask })
            | .error e => (.error e, { mappedField with mask := mask })
  | .range fieldMatch | .unspecified fieldMatch =>
      (.ok (), { mappedField with value := .rawPiMatch fieldMatch })

/-- `P4MatchKey::Convert`, with `P4MatchKeyUnspecified`'s override. On a
failure the value holds a copy of the raw match. -/
def P4MatchKey.convert (key : P4MatchKey) (enforceBytestringLength : Bool)
    (conversionEntry : P4FieldConversionEntry) (bitWidth : Nat) (mappedField : MappedField) :
    StatusOr Unit × MappedField :=
  let raw := MappedValue.rawPiMatch key.p4FieldMatch
  match key with
  | .unspecified _ =>
      -- these match types take an empty value as their default
      if conversionEntry.matchType ∈ [.lpm, .ternary, .range] then (.ok (), mappedField)
      else
        (.error ⟨.errInvalidParam, "P4 TableEntry match field  with P4 MatchType " ++
          conversionEntry.matchType.name ++ " has no default value"⟩,
          { mappedField with value := raw })
  | _ =>
      if conversionEntry.matchType ≠ key.allowedMatchType then
        (.error ⟨.errInvalidParam, "P4 TableEntry match field  cannot convert to " ++
          conversionEntry.matchType.name⟩, { mappedField with value := raw })
      else
        match key.convertValue enforceBytestringLength conversionEntry bitWidth mappedField with
        | (.ok (), mappedField) => (.ok (), mappedField)
        | (.error e, mappedField) => (.error e, { mappedField with value := raw })

/-! ## The width check -/

/-- The masked test of the first value byte fails exactly on a byte that
needs more than its `k` bits. -/
theorem masked_ne_iff (byte k : Nat) :
    (byte &&& ((1 <<< k) - 1) != byte) = true ↔ 2 ^ k ≤ byte := by
  rw [Nat.shiftLeft_eq, Nat.one_mul, Nat.and_two_pow_sub_one_eq_mod, bne_iff_ne, ne_eq]
  constructor
  · intro h
    by_contra hlt
    exact h (Nat.mod_eq_of_lt (by omega))
  · intro h heq
    have := Nat.mod_lt byte (Nat.two_pow_pos k)
    omega

/-- A string shorter than the width's bytes fits the width. -/
theorem value_lt_of_length_lt {bytesValue : ByteString} {bitWidth : Nat}
    (hlen : bytesValue.length < (bitWidth + 7) / 8) : value bytesValue < 2 ^ bitWidth :=
  calc value bytesValue < 256 ^ bytesValue.length := value_lt bytesValue
    _ = 2 ^ (8 * bytesValue.length) := by rw [Nat.pow_mul]
    _ ≤ 2 ^ bitWidth := Nat.pow_le_pow_right (by decide) (by omega)

/-- The flag is raised exactly when the value does not fit the width. -/
theorem valueExceedsBitwidth_eq_true_iff (bytesValue : ByteString) (bitWidth : Nat) :
    valueExceedsBitwidth bytesValue bitWidth = true ↔ 2 ^ bitWidth ≤ value bytesValue := by
  unfold valueExceedsBitwidth
  dsimp only
  set specBytes := (bitWidth + 7) / 8 with hspec
  by_cases hshort : bytesValue.length < specBytes
  · -- a short string has neither padding nor a partial first byte to check
    have hpass : ¬ bytesValue.length > specBytes := by omega
    have hpass' : ¬ bytesValue.length ≥ specBytes := by omega
    simp only [hpass, hpass', decide_false, Bool.false_and, Bool.and_false, Bool.or_false,
      Bool.false_eq_true, false_iff, not_le]
    exact value_lt_of_length_lt hshort
  · -- the string is its padding followed by `specBytes` value bytes
    have hfirst : (if bytesValue.length > specBytes then bytesValue.length - specBytes else 0) =
        bytesValue.length - specBytes := by split <;> omega
    set pad := bytesValue.take (bytesValue.length - specBytes) with hpad
    set rest := bytesValue.drop (bytesValue.length - specBytes) with hrest
    have hsplit : bytesValue = pad ++ rest := (List.take_append_drop _ _).symm
    have hrestLen : rest.length = specBytes := by rw [hrest, List.length_drop]; omega
    have hbound : 2 ^ bitWidth ≤ 256 ^ rest.length := by
      rw [hrestLen, show (256 : Nat) = 2 ^ 8 by rfl, ← Nat.pow_mul]
      exact Nat.pow_le_pow_right (by decide) (by omega)
    have hhead : bytesValue.getD (bytesValue.length - specBytes) 0 = rest.headD 0 := by
      simp [hrest, List.getD_eq_getElem?_getD, List.headD_eq_head?_getD, List.head?_drop]
    have hpadAny : (decide (bytesValue.length > specBytes) && pad.any (· != 0)) =
        pad.any (· != 0) := by
      by_cases hlong : bytesValue.length > specBytes
      · simp [hlong]
      · -- without padding the prefix is empty
        simp [hlong, hpad, show bytesValue.length - specBytes = 0 by omega]
    have hlong : decide (bytesValue.length ≥ specBytes) = true := by simp; omega
    rw [hfirst, hpadAny, hhead, hlong, Bool.and_true, ← not_lt, hsplit,
      value_append_lt_iff hbound, value_lt_two_pow_iff hrestLen, value_eq_zero_iff,
      Bool.or_eq_true, Bool.and_eq_true, List.any_eq_true, masked_ne_iff, bne_iff_ne]
    simp only [bne_iff_ne, ne_eq, not_and_or, not_forall, not_or, not_lt, exists_prop]

/-- With the flag off, a string passes the width check exactly when its value
fits the width. -/
theorem checkBitWidth_false_eq (bytesValue : ByteString) (bitWidth : Nat) :
    checkBitWidth false bytesValue bitWidth =
      if value bytesValue < 2 ^ bitWidth then .ok ()
      else .error ⟨.errInvalidParam, "Match key value exceeds the P4Runtime-defined width of " ++
        toString bitWidth ++ " bits: "⟩ := by
  unfold checkBitWidth
  simp only [Bool.false_and, Bool.false_eq_true, if_false]
  by_cases hfits : value bytesValue < 2 ^ bitWidth
  · have hflag : valueExceedsBitwidth bytesValue bitWidth = false := by
      rw [← Bool.not_eq_true, valueExceedsBitwidth_eq_true_iff]
      omega
    rw [hflag, if_pos hfits]
    rfl
  · have hflag : valueExceedsBitwidth bytesValue bitWidth = true :=
      (valueExceedsBitwidth_eq_true_iff bytesValue bitWidth).mpr (by omega)
    rw [hflag, if_neg hfits]
    rfl

theorem checkBitWidth_eq_ok_iff (bytesValue : ByteString) (bitWidth : Nat) :
    checkBitWidth false bytesValue bitWidth = .ok () ↔ value bytesValue < 2 ^ bitWidth := by
  rw [checkBitWidth_false_eq]
  split <;> simp_all

/-- Within its width, `StringDataToU` is the width check followed by the
first `size` bytes. -/
theorem stringDataToU_of_le {size bitWidth : Nat} (hw : bitWidth ≤ size * 8)
    (bytes : ByteString) :
    stringDataToU size false bytes bitWidth =
      if value bytes < 2 ^ bitWidth then .ok (byteStreamToUint size bytes)
      else .error ⟨.errInvalidParam, "Match key value exceeds the P4Runtime-defined width of " ++
        toString bitWidth ++ " bits: "⟩ := by
  unfold stringDataToU
  rw [if_neg (by omega), checkBitWidth_false_eq]
  split <;> rfl

/-! ## Exact matches into integers -/

/-- An exact match with a value, under its own match type, converts its
value, and on a failure leaves the raw match. -/
theorem convert_exact {fieldId : Nat} {bytes : ByteString} (hbytes : bytes ≠ [])
    (enforceBytestringLength : Bool) (conversion : P4FieldValueConversion) (bitWidth : Nat)
    (mappedField : MappedField) :
    (P4MatchKey.exact ⟨fieldId, .exact bytes⟩).convert enforceBytestringLength
        ⟨.exact, conversion⟩ bitWidth mappedField =
      match convertBytes enforceBytestringLength ⟨fieldId, .exact bytes⟩ bytes
          ⟨.exact, conversion⟩ bitWidth with
      | .ok value => (.ok (), { mappedField with value := value })
      | .error e => (.error e, { mappedField with value := .rawPiMatch ⟨fieldId, .exact bytes⟩ }) := by
  have hne : (exactValue ⟨fieldId, .exact bytes⟩).isEmpty = false := by
    simpa [exactValue] using hbytes
  simp only [P4MatchKey.convert, P4MatchKey.allowedMatchType, ne_eq, not_true_eq_false,
    if_false, P4MatchKey.convertValue, hne, Bool.false_eq_true, P4MatchKey.p4FieldMatch]
  simp only [exactValue]
  cases convertBytes enforceBytestringLength ⟨fieldId, .exact bytes⟩ bytes ⟨.exact, conversion⟩
    bitWidth <;> rfl

/-- An exact match into a `u32`, within its width: it converts exactly when
its value fits, to the value of its first four bytes. -/
theorem convert_exact_toU32 {fieldId : Nat} {bytes : ByteString} (hbytes : bytes ≠ [])
    {bitWidth : Nat} (hw : bitWidth ≤ 32) (mappedField : MappedField) :
    (P4MatchKey.exact ⟨fieldId, .exact bytes⟩).convert false ⟨.exact, .p4ConvertToU32⟩ bitWidth
        mappedField =
      if value bytes < 2 ^ bitWidth then
        (.ok (), { mappedField with value := .u32 (byteStreamToUint 4 bytes) })
      else
        (.error ⟨.errInvalidParam, "Match key value exceeds the P4Runtime-defined width of " ++
          toString bitWidth ++ " bits: "⟩,
          { mappedField with value := .rawPiMatch ⟨fieldId, .exact bytes⟩ }) := by
  rw [convert_exact hbytes]
  simp only [convertBytes, stringDataToU_of_le (by omega : bitWidth ≤ 4 * 8)]
  by_cases hfits : value bytes < 2 ^ bitWidth
  · rw [if_pos hfits, if_pos hfits]
    rfl
  · rw [if_neg hfits, if_neg hfits]
    rfl

/-- An exact match into a `u64`, within its width: it converts exactly when
its value fits, to the value of its first eight bytes. -/
theorem convert_exact_toU64 {fieldId : Nat} {bytes : ByteString} (hbytes : bytes ≠ [])
    {bitWidth : Nat} (hw : bitWidth ≤ 64) (mappedField : MappedField) :
    (P4MatchKey.exact ⟨fieldId, .exact bytes⟩).convert false ⟨.exact, .p4ConvertToU64⟩ bitWidth
        mappedField =
      if value bytes < 2 ^ bitWidth then
        (.ok (), { mappedField with value := .u64 (byteStreamToUint 8 bytes) })
      else
        (.error ⟨.errInvalidParam, "Match key value exceeds the P4Runtime-defined width of " ++
          toString bitWidth ++ " bits: "⟩,
          { mappedField with value := .rawPiMatch ⟨fieldId, .exact bytes⟩ }) := by
  rw [convert_exact hbytes]
  simp only [convertBytes, stringDataToU_of_le (by omega : bitWidth ≤ 8 * 8)]
  by_cases hfits : value bytes < 2 ^ bitWidth
  · rw [if_pos hfits, if_pos hfits]
    rfl
  · rw [if_neg hfits, if_neg hfits]
    rfl

/-- The key of the failing input: the value `1` behind eight zero bytes. -/
def paddedKey : ByteString := [0, 0, 0, 0, 0, 0, 0, 0, 1]

/-- The padded key fits a 64-bit field and passes the width check, and
`ByteStreamToUint<uint64>` reads its first eight bytes: the `u64` is `0`. -/
theorem exact_u64_padded_key_read_as_zero :
    value paddedKey = 1 ∧
      (P4MatchKey.exact ⟨1, .exact paddedKey⟩).convert false ⟨.exact, .p4ConvertToU64⟩ 64
        ⟨.notSet, .notSet⟩ = (.ok (), ⟨.u64 0, .notSet⟩) := by
  have hvalue : value paddedKey = 1 := by decide
  refine ⟨hvalue, ?_⟩
  rw [convert_exact_toU64 (by decide) le_rfl, if_pos (by rw [hvalue]; decide)]
  rfl

/-! ## LPM masks -/

/-- The number a mapped value encodes: a `u32` or `u64` itself, a byte
string its big-endian value. -/
def MappedValue.number : MappedValue → Option Nat
  | .u32 value | .u64 value => some value
  | .b bytes => some (value bytes)
  | .rawPiMatch _ | .notSet => none

theorem createUIntMask_toNat {n w p : Nat} (hw : w ≤ n) (hp : p ≤ w) :
    (createUIntMask n w p).toNat = (2 ^ p - 1) * 2 ^ (w - p) := by
  unfold createUIntMask
  rw [Int.toNat_natCast]
  exact toNat_setBits_top hw hp

/-- The string mask sets exactly the bits from `w - p` on. -/
theorem createStringMask_eq {w : Nat} (hw : 0 < w) (p : Nat) :
    createStringMask w p = natBytes ((w + 7) / 8) (bitsValue (fun i => decide (w - p ≤ i)) w) := by
  unfold createStringMask
  rw [packBits_all _ hw]
  congr 1
  exact bitsValue_congr fun i _ => by simp; omega

theorem length_createStringMask {w : Nat} (hw : 0 < w) (p : Nat) :
    (createStringMask w p).length = (w + 7) / 8 := by
  rw [createStringMask_eq hw p, length_natBytes]

theorem value_createStringMask {w p : Nat} (hw : 0 < w) (hp : p ≤ w) :
    value (createStringMask w p) = (2 ^ p - 1) * 2 ^ (w - p) := by
  have hbits : bitsValue (fun i => decide (w - p ≤ i)) w = (2 ^ p - 1) * 2 ^ (w - p) := by
    have hle := bitsValue_le (w - p) p
    rwa [Nat.sub_add_cancel hp] at hle
  have hfits : bitsValue (fun i => decide (w - p ≤ i)) w < 256 ^ ((w + 7) / 8) :=
    calc bitsValue (fun i => decide (w - p ≤ i)) w < 2 ^ w := bitsValue_lt _ w
      _ ≤ 2 ^ (8 * ((w + 7) / 8)) := Nat.pow_le_pow_right (by decide) (by omega)
      _ = 256 ^ ((w + 7) / 8) := by rw [Nat.pow_mul]
  rw [createStringMask_eq hw p, value_natBytes, Nat.mod_eq_of_lt hfits, hbits]

/-- A conversion into an integer succeeds only within the integer's width. -/
theorem stringDataToU_le {size bitWidth value : Nat} {enforceBytestringLength : Bool}
    {bytes : ByteString}
    (h : stringDataToU size enforceBytestringLength bytes bitWidth = .ok value) :
    bitWidth ≤ size * 8 := by
  unfold stringDataToU at h
  by_contra hw
  rw [if_pos (by omega)] at h
  cases h

/-- A successful LPM conversion wrote the mask its prefix length converts
to, and converted its value. -/
theorem convert_lpm_ok {fieldId : Nat} {bytes : ByteString} {prefixLen : Int}
    {enforceBytestringLength : Bool} {conversion : P4FieldValueConversion} {bitWidth : Nat}
    {mappedField mappedField' : MappedField}
    (h : (P4MatchKey.lpm ⟨fieldId, .lpm bytes prefixLen⟩).convert enforceBytestringLength
      ⟨.lpm, conversion⟩ bitWidth mappedField = (.ok (), mappedField')) :
    convertLPMPrefixLengthToMask ⟨fieldId, .lpm bytes prefixLen⟩ ⟨.lpm, conversion⟩ bitWidth =
        .ok mappedField'.mask ∧
      ∃ value, convertBytes enforceBytestringLength ⟨fieldId, .lpm bytes prefixLen⟩ bytes
        ⟨.lpm, conversion⟩ bitWidth = .ok value := by
  simp only [P4MatchKey.convert, P4MatchKey.allowedMatchType, ne_eq, not_true_eq_false,
    if_false, P4MatchKey.convertValue, P4MatchKey.p4FieldMatch] at h
  split at h
  · rename_i hconverted
    cases h
    -- the checks passed, the mask and then the value converted
    split at hconverted
    · cases hconverted
    · split at hconverted
      · cases hconverted
      · rename_i mask hmask
        split at hconverted
        · rename_i value hvalue
          cases hconverted
          exact ⟨hmask, value, hvalue⟩
        · cases hconverted
  · cases h

/-- A prefix within the width converts to the mask the conversion names. -/
theorem convertLPMPrefixLengthToMask_of_le {fieldId : Nat} {bytes : ByteString} {w p : Nat}
    (hpw : p ≤ w) (conversion : P4FieldValueConversion) :
    convertLPMPrefixLengthToMask ⟨fieldId, .lpm bytes p⟩ ⟨.lpm, conversion⟩ w =
      match conversion with
      | .p4ConvertToU32AndMask => .ok (.u32 (createUIntMask 32 w p).toNat)
      | .p4ConvertToU64AndMask => .ok (.u64 (createUIntMask 64 w p).toNat)
      | .p4ConvertToBytesAndMask => .ok (.b (createStringMask w p))
      | _ => .error ⟨.errOperNotSupported,
          "Field descriptor  does not specify how to convert prefix in LPM match"⟩ := by
  have hfits : ¬ (lpmPrefixLen ⟨fieldId, .lpm bytes p⟩ > (w : Int)) := by
    simp only [lpmPrefixLen]
    omega
  unfold convertLPMPrefixLengthToMask
  rw [if_neg hfits]
  rfl

/-- Whichever of the three mask conversions the table map selects, a
successful LPM conversion writes the mask `(2 ^ p - 1) * 2 ^ (w - p)`. -/
theorem convert_lpm_mask {fieldId : Nat} {bytes : ByteString} {w p : Nat} (hp : 1 ≤ p)
    (hpw : p ≤ w) {enforceBytestringLength : Bool} {conversion : P4FieldValueConversion}
    (hconversion : conversion ∈
      [.p4ConvertToU32AndMask, .p4ConvertToU64AndMask, .p4ConvertToBytesAndMask])
    {mappedField mappedField' : MappedField}
    (h : (P4MatchKey.lpm ⟨fieldId, .lpm bytes p⟩).convert enforceBytestringLength
      ⟨.lpm, conversion⟩ w mappedField = (.ok (), mappedField')) :
    mappedField'.mask.number = some ((2 ^ p - 1) * 2 ^ (w - p)) := by
  obtain ⟨hmask, value, hvalue⟩ := convert_lpm_ok h
  rw [convertLPMPrefixLengthToMask_of_le hpw] at hmask
  simp only [List.mem_cons, List.not_mem_nil, or_false] at hconversion
  rcases hconversion with rfl | rfl | rfl
  · -- the value converted into a `u32`, so the width is at most 32
    cases hn : stringDataToU 4 enforceBytestringLength bytes w with
    | error e =>
        simp only [convertBytes, hn] at hvalue
        cases hvalue
    | ok n =>
        rw [← Except.ok.inj hmask]
        simp [MappedValue.number, createUIntMask_toNat (stringDataToU_le hn) hpw]
  · cases hn : stringDataToU 8 enforceBytestringLength bytes w with
    | error e =>
        simp only [convertBytes, hn] at hvalue
        cases hvalue
    | ok n =>
        rw [← Except.ok.inj hmask]
        simp [MappedValue.number, createUIntMask_toNat (stringDataToU_le hn) hpw]
  · rw [← Except.ok.inj hmask]
    simp [MappedValue.number, value_createStringMask (by omega) hpw]

/-- The integer masks of both widths, the string mask and every successful
LPM conversion encode the one mask `(2 ^ p - 1) * 2 ^ (w - p)`. -/
theorem lpm_masks_agree (w p : Nat) (hp : 1 ≤ p) (hpw : p ≤ w) :
    (w ≤ 32 → (createUIntMask 32 w p).toNat = (2 ^ p - 1) * 2 ^ (w - p)) ∧
    (w ≤ 64 → (createUIntMask 64 w p).toNat = (2 ^ p - 1) * 2 ^ (w - p)) ∧
    (createStringMask w p).length = (w + 7) / 8 ∧
    value (createStringMask w p) = (2 ^ p - 1) * 2 ^ (w - p) ∧
    ∀ (fieldId : Nat) (bytes : ByteString) (enforceBytestringLength : Bool)
      (conversion : P4FieldValueConversion),
      conversion ∈ [.p4ConvertToU32AndMask, .p4ConvertToU64AndMask, .p4ConvertToBytesAndMask] →
      ∀ mappedField mappedField',
        (P4MatchKey.lpm ⟨fieldId, .lpm bytes p⟩).convert enforceBytestringLength
          ⟨.lpm, conversion⟩ w mappedField = (.ok (), mappedField') →
        mappedField'.mask.number = some ((2 ^ p - 1) * 2 ^ (w - p)) :=
  ⟨fun hw => createUIntMask_toNat hw hpw, fun hw => createUIntMask_toNat hw hpw,
    length_createStringMask (by omega) p, value_createStringMask (by omega) hpw,
    fun _ _ _ _ hconversion _ _ h => convert_lpm_mask hp hpw hconversion h⟩

/-- A `/24` prefix of a 32-bit field: every encoding is `0xFFFFFF00`. -/
theorem lpm_masks_agree_slash24 :
    (createUIntMask 32 32 24).toNat = 0xFFFFFF00 ∧ (createUIntMask 64 32 24).toNat = 0xFFFFFF00 ∧
      value (createStringMask 32 24) = 0xFFFFFF00 := by
  obtain ⟨h32, h64, -, hstring, -⟩ := lpm_masks_agree 32 24 (by decide) (by decide)
  exact ⟨h32 le_rfl, h64 (by decide), hstring⟩

end Stratum.Ports.P4MatchKey
