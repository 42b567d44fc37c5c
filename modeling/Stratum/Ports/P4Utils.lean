import Stratum.Verified.BigEndian

/-!
# Byte-string helpers of `stratum/hal/lib/p4/utils.cc`

P4Runtime carries numbers as big-endian byte strings. Its canonical form has
no leading zero byte, except that the value zero is the single byte `0`. The
helpers here convert between that form and the fixed-width strings the
switch SDKs use; `stringToHex` is the `StringToHex` of
`stratum/lib/utils.cc` that their error messages print.

`ByteStringToP4RuntimeByteString` only drops leading zero bytes
(`exists_replicate_append_byteStringToP4RuntimeByteString`), so it keeps the
value; and behind zero bytes of its own, a non-empty string gives the same
canonical string (`byteStringToP4RuntimeByteString_replicate_append`).
-/

namespace Stratum.Ports.P4Utils

open Stratum.Verified.BigEndian Stratum.Verified.ByteOrder

/-- `StringToHex`: two upper-case hexadecimal digits per byte. -/
def stringToHex (str : ByteString) : String :=
  let characters := "0123456789ABCDEF".toList
  String.ofList (str.flatMap fun c =>
    [characters.getD (c.toNat / 16) '0', characters.getD (c.toNat % 16) '0'])

/-- `P4Ids::Prefix_Name` of the prefix byte of a P4 ID; an unknown prefix has
no name. -/
def prefixName : Nat → String
  | 0x00 => "UNSPECIFIED"
  | 0x01 => "ACTION"
  | 0x02 => "TABLE"
  | 0x03 => "VALUE_SET"
  | 0x04 => "CONTROLLER_HEADER"
  | 0x10 => "PSA_EXTERNS_START"
  | 0x11 => "ACTION_PROFILE"
  | 0x12 => "COUNTER"
  | 0x13 => "DIRECT_COUNTER"
  | 0x14 => "METER"
  | 0x15 => "DIRECT_METER"
  | 0x16 => "REGISTER"
  | 0x17 => "DIGEST"
  | 0x80 => "OTHER_EXTERNS_START"
  | 0xff => "MAX"
  | _ => ""

/-- A number in lower-case hexadecimal, as `%x` prints it. -/
def hexString (n : Nat) : String := String.ofList (Nat.toDigits 16 n)

/-- `PrintP4ObjectID`: the prefix name, the base ID and the whole ID. -/
def printP4ObjectId (objectId : Nat) : String :=
  let baseId := objectId % 2 ^ 24
  let resourceName := prefixName (objectId / 2 ^ 24 % 256)
  let resourceName := if resourceName = "" then "INVALID" else resourceName
  resourceName ++ "/0x" ++ hexString baseId ++ " (0x" ++ hexString objectId ++ ")"

/-- `ByteStringToP4RuntimeByteString`:
`bytes.erase(0, std::min(bytes.find_first_not_of('\x00'), bytes.size() - 1))`.
`findIdx` returns the length when every byte is zero, which `min` with
`size() - 1` turns into the same count as `npos` does; on the empty string
both forms erase nothing. -/
def byteStringToP4RuntimeByteString (bytes : ByteString) : ByteString :=
  bytes.drop (min (bytes.findIdx (· != 0)) (bytes.length - 1))

theorem byteStringToP4RuntimeByteString_nil : byteStringToP4RuntimeByteString [] = [] := rfl

theorem byteStringToP4RuntimeByteString_singleton (b : UInt8) :
    byteStringToP4RuntimeByteString [b] = [b] := by
  simp [byteStringToP4RuntimeByteString]

/-- A string that starts with a non-zero byte is canonical. -/
theorem byteStringToP4RuntimeByteString_cons_of_ne {b : UInt8} (hb : b ≠ 0) (bytes : ByteString) :
    byteStringToP4RuntimeByteString (b :: bytes) = b :: bytes := by
  have hfirst : (b != 0) = true := bne_iff_ne.mpr hb
  simp [byteStringToP4RuntimeByteString, List.findIdx_cons, hfirst]

/-- A leading zero byte in front of a non-empty string is dropped. -/
theorem byteStringToP4RuntimeByteString_zero_cons {bytes : ByteString} (hbytes : bytes ≠ []) :
    byteStringToP4RuntimeByteString (0 :: bytes) = byteStringToP4RuntimeByteString bytes := by
  have hlen : 0 < bytes.length := List.length_pos_iff.mpr hbytes
  unfold byteStringToP4RuntimeByteString
  rw [List.findIdx_cons]
  simp only [bne_self_eq_false, cond_false, List.length_cons, Nat.add_sub_cancel]
  -- both counts drop the first zero, then as many bytes as the shorter string
  have hmin : min (List.findIdx (· != 0) bytes + 1) bytes.length =
      min (List.findIdx (· != 0) bytes) (bytes.length - 1) + 1 := by
    omega
  rw [hmin, List.drop_succ_cons]

/-- Zero bytes in front of a non-empty string do not change its canonical
form. -/
theorem byteStringToP4RuntimeByteString_replicate_append (n : Nat) {bytes : ByteString}
    (hbytes : bytes ≠ []) :
    byteStringToP4RuntimeByteString (List.replicate n 0 ++ bytes) =
      byteStringToP4RuntimeByteString bytes := by
  induction n with
  | zero => rfl
  | succ n ih =>
      have hne : List.replicate n 0 ++ bytes ≠ [] := by simp [hbytes]
      rw [List.replicate_succ, List.cons_append, byteStringToP4RuntimeByteString_zero_cons hne, ih]

/-- The canonical form only drops leading zero bytes. -/
theorem exists_replicate_append_byteStringToP4RuntimeByteString (bytes : ByteString) :
    ∃ n, bytes = List.replicate n 0 ++ byteStringToP4RuntimeByteString bytes := by
  induction bytes with
  | nil => exact ⟨0, rfl⟩
  | cons b bytes ih =>
      by_cases hb : b = 0
      · cases bytes with
        | nil => exact ⟨0, by rw [byteStringToP4RuntimeByteString_singleton]; rfl⟩
        | cons b' bytes' =>
            obtain ⟨n, hn⟩ := ih
            refine ⟨n + 1, ?_⟩
            rw [hb, byteStringToP4RuntimeByteString_zero_cons (List.cons_ne_nil b' bytes'),
              List.replicate_succ, List.cons_append, ← hn]
      · exact ⟨0, by rw [byteStringToP4RuntimeByteString_cons_of_ne hb]; rfl⟩

theorem value_byteStringToP4RuntimeByteString (bytes : ByteString) :
    value (byteStringToP4RuntimeByteString bytes) = value bytes := by
  obtain ⟨n, hn⟩ := exists_replicate_append_byteStringToP4RuntimeByteString bytes
  conv_rhs => rw [hn]
  rw [value_replicate_zero_append]

theorem length_byteStringToP4RuntimeByteString_le (bytes : ByteString) :
    (byteStringToP4RuntimeByteString bytes).length ≤ bytes.length := by
  unfold byteStringToP4RuntimeByteString
  rw [List.length_drop]
  exact Nat.sub_le _ _

/-- Written on at least its own length, a non-empty string has its own
canonical form. -/
theorem byteStringToP4RuntimeByteString_natBytes {bytes : ByteString} {k : Nat}
    (hbytes : bytes ≠ []) (hk : bytes.length ≤ k) :
    byteStringToP4RuntimeByteString (natBytes k (value bytes)) =
      byteStringToP4RuntimeByteString bytes := by
  have hpad : natBytes k (value bytes) = List.replicate (k - bytes.length) 0 ++ bytes := by
    rw [show k = k - bytes.length + bytes.length by omega, natBytes_add_of_lt (value_lt bytes),
      natBytes_value, Nat.add_sub_cancel]
  rw [hpad, byteStringToP4RuntimeByteString_replicate_append _ hbytes]

theorem byteStringToP4RuntimeByteString_ne_nil {bytes : ByteString} (hbytes : bytes ≠ []) :
    byteStringToP4RuntimeByteString bytes ≠ [] := by
  rw [← List.length_pos_iff] at hbytes ⊢
  unfold byteStringToP4RuntimeByteString
  rw [List.length_drop]
  omega

/-! ## The canonical form -/

/-- A P4Runtime byte string in canonical form: no leading zero byte, except
that a single byte may be zero. The empty string is canonical too. -/
def Canonical : ByteString → Prop
  | b :: _ :: _ => b ≠ 0
  | _ => True

instance : DecidablePred Canonical
  | [] => isTrue trivial
  | [_] => isTrue trivial
  | b :: _ :: _ => inferInstanceAs (Decidable (b ≠ 0))

theorem canonical_byteStringToP4RuntimeByteString (bytes : ByteString) :
    Canonical (byteStringToP4RuntimeByteString bytes) := by
  induction bytes with
  | nil => trivial
  | cons b rest ih =>
      by_cases hb : b = 0
      · -- a leading zero goes, unless it is the last byte
        cases rest with
        | nil => rw [byteStringToP4RuntimeByteString_singleton]; trivial
        | cons b' rest' =>
            rw [hb, byteStringToP4RuntimeByteString_zero_cons (List.cons_ne_nil b' rest')]
            exact ih
      · rw [byteStringToP4RuntimeByteString_cons_of_ne hb]
        cases rest with
        | nil => trivial
        | cons _ _ => exact hb

/-- A canonical string is its own canonical form. -/
theorem byteStringToP4RuntimeByteString_of_canonical :
    ∀ {bytes : ByteString}, Canonical bytes → byteStringToP4RuntimeByteString bytes = bytes
  | [], _ => rfl
  | [b], _ => byteStringToP4RuntimeByteString_singleton b
  | _ :: _ :: _, hb => byteStringToP4RuntimeByteString_cons_of_ne hb _

/-- Two non-empty canonical strings of one value are equal: both are the
canonical form of the value written on enough bytes. -/
theorem eq_of_canonical_of_value_eq {bytes bytes' : ByteString} (hc : Canonical bytes)
    (hc' : Canonical bytes') (hne : bytes ≠ []) (hne' : bytes' ≠ [])
    (hvalue : value bytes = value bytes') : bytes = bytes' := by
  set width := max bytes.length bytes'.length
  calc bytes = byteStringToP4RuntimeByteString bytes := (byteStringToP4RuntimeByteString_of_canonical hc).symm
    _ = byteStringToP4RuntimeByteString (natBytes width (value bytes)) :=
        (byteStringToP4RuntimeByteString_natBytes hne (le_max_left _ _)).symm
    _ = byteStringToP4RuntimeByteString bytes' := by
        rw [hvalue, byteStringToP4RuntimeByteString_natBytes hne' (le_max_right _ _)]
    _ = bytes' := byteStringToP4RuntimeByteString_of_canonical hc'

/-! ## Padding to a field's width -/

/-- `P4RuntimeByteStringToPaddedByteString`: zero bytes put in front up to
`numBytes`, or the surplus bytes erased from the front. -/
def p4RuntimeByteStringToPaddedByteString (byteString : ByteString) (numBytes : Nat) :
    ByteString :=
  if byteString.length > numBytes then byteString.drop (byteString.length - numBytes)
  else List.replicate (numBytes - byteString.length) 0 ++ byteString

/-- Padding writes the value on `numBytes` bytes; what does not fit is cut
off. -/
theorem p4RuntimeByteStringToPaddedByteString_eq (byteString : ByteString) (numBytes : Nat) :
    p4RuntimeByteStringToPaddedByteString byteString numBytes =
      natBytes numBytes (value byteString) := by
  unfold p4RuntimeByteStringToPaddedByteString
  split_ifs with hlong
  · -- the surplus bytes in front are erased
    rw [natBytes_value_of_le (le_of_lt hlong)]
  · -- zero bytes in front keep the value
    rw [show numBytes = numBytes - byteString.length + byteString.length by omega,
      natBytes_add_of_lt (value_lt byteString), natBytes_value, Nat.add_sub_cancel]

theorem value_p4RuntimeByteStringToPaddedByteString (byteString : ByteString) (numBytes : Nat) :
    value (p4RuntimeByteStringToPaddedByteString byteString numBytes) =
      value byteString % 256 ^ numBytes := by
  rw [p4RuntimeByteStringToPaddedByteString_eq, value_natBytes]

@[simp] theorem length_p4RuntimeByteStringToPaddedByteString (byteString : ByteString)
    (numBytes : Nat) :
    (p4RuntimeByteStringToPaddedByteString byteString numBytes).length = numBytes := by
  rw [p4RuntimeByteStringToPaddedByteString_eq, length_natBytes]

/-- A non-empty value that fits in `numBytes > 0` bytes, written on them,
has its own canonical form. -/
theorem byteStringToP4RuntimeByteString_natBytes_of_lt {byteString : ByteString}
    {numBytes : Nat} (hne : byteString ≠ []) (hn : 0 < numBytes)
    (hfits : value byteString < 256 ^ numBytes) :
    byteStringToP4RuntimeByteString (natBytes numBytes (value byteString)) =
      byteStringToP4RuntimeByteString byteString := by
  -- both are the canonical form of the value written on enough bytes
  set width := max byteString.length numBytes
  have hpadded : natBytes width (value byteString) =
      List.replicate (width - numBytes) 0 ++ natBytes numBytes (value byteString) := by
    rw [← natBytes_add_of_lt hfits, Nat.sub_add_cancel (le_max_right _ _)]
  have hnonempty : natBytes numBytes (value byteString) ≠ [] := by
    rw [← List.length_pos_iff, length_natBytes]
    exact hn
  rw [← byteStringToP4RuntimeByteString_natBytes hne (le_max_left byteString.length numBytes),
    hpadded, byteStringToP4RuntimeByteString_replicate_append _ hnonempty]

/-- A non-empty value that fits in `numBytes > 0` bytes comes back from its
padded form as its own canonical form. -/
theorem byteStringToP4RuntimeByteString_padded {byteString : ByteString} {numBytes : Nat}
    (hne : byteString ≠ []) (hn : 0 < numBytes) (hfits : value byteString < 256 ^ numBytes) :
    byteStringToP4RuntimeByteString (p4RuntimeByteStringToPaddedByteString byteString numBytes) =
      byteStringToP4RuntimeByteString byteString := by
  rw [p4RuntimeByteStringToPaddedByteString_eq,
    byteStringToP4RuntimeByteString_natBytes_of_lt hne hn hfits]

/-! ## Fixed-width integers -/

/-- `ByteStreamToUint<U>` (`stratum/lib/utils.h`) for a `U` of `size` bytes:
the first `size` bytes, big-endian. At most `size` bytes are shifted in, so
the `U` arithmetic never wraps. -/
def byteStreamToUint (size : Nat) (bytes : ByteString) : Nat :=
  (bytes.take size).foldl (fun val b => val * 256 + b.toNat) 0

/-- The `while (bytes.size() > 1 && bytes[0] == '\x00')` loop of
`Uint32ToByteStream`. -/
def stripLeadingZeroBytes : ByteString → ByteString
  | [] => []
  | [b] => [b]
  | b :: b' :: rest => if b = 0 then stripLeadingZeroBytes (b' :: rest) else b :: b' :: rest

/-- `Uint32ToByteStream`: the four bytes of a `uint32` in network order, with
leading zero bytes stripped down to one byte. -/
def uint32ToByteStream (val : Nat) : ByteString :=
  stripLeadingZeroBytes (natBytes 4 val)

/-- `Uint64ToByteStream`: the eight bytes of a `uint64` in network order,
with leading zero bytes stripped down to one byte. -/
def uint64ToByteStream (val : Nat) : ByteString :=
  stripLeadingZeroBytes (natBytes 8 val)

theorem byteStreamToUint_eq (size : Nat) (bytes : ByteString) :
    byteStreamToUint size bytes = value (bytes.take size) := rfl

/-- `ByteStreamToUint` reads the whole value of a string that fits its
type's bytes. -/
theorem byteStreamToUint_of_length_le {size : Nat} {bytes : ByteString}
    (hlen : bytes.length ≤ size) : byteStreamToUint size bytes = value bytes := by
  rw [byteStreamToUint_eq, List.take_of_length_le hlen]

/-- The loop is the canonical form. -/
theorem stripLeadingZeroBytes_eq :
    ∀ bytes, stripLeadingZeroBytes bytes = byteStringToP4RuntimeByteString bytes
  | [] => rfl
  | [b] => (byteStringToP4RuntimeByteString_singleton b).symm
  | b :: b' :: rest => by
      unfold stripLeadingZeroBytes
      by_cases hb : b = 0
      · -- a leading zero in front of a non-empty string is dropped
        rw [if_pos hb, stripLeadingZeroBytes_eq (b' :: rest), hb,
          byteStringToP4RuntimeByteString_zero_cons (List.cons_ne_nil b' rest)]
      · rw [if_neg hb, byteStringToP4RuntimeByteString_cons_of_ne hb]

theorem uint32ToByteStream_eq (val : Nat) :
    uint32ToByteStream val = byteStringToP4RuntimeByteString (natBytes 4 val) :=
  stripLeadingZeroBytes_eq _

theorem value_uint32ToByteStream (val : Nat) : value (uint32ToByteStream val) = val % 2 ^ 32 := by
  rw [uint32ToByteStream_eq, value_byteStringToP4RuntimeByteString, value_natBytes]
  rfl

/-- `ByteStreamToUint` of a type reads back the stream of the type's bytes:
the stripped stream is no longer than the type. -/
theorem byteStreamToUint_stripLeadingZeroBytes (size val : Nat) :
    byteStreamToUint size (stripLeadingZeroBytes (natBytes size val)) = val % 256 ^ size := by
  have hlen : (stripLeadingZeroBytes (natBytes size val)).length ≤ size :=
    calc (stripLeadingZeroBytes (natBytes size val)).length
        ≤ (natBytes size val).length := by
          rw [stripLeadingZeroBytes_eq]
          exact length_byteStringToP4RuntimeByteString_le _
      _ = size := length_natBytes size val
  rw [byteStreamToUint_eq, List.take_of_length_le hlen, stripLeadingZeroBytes_eq,
    value_byteStringToP4RuntimeByteString, value_natBytes]

/-- The stream of a `k`-byte integer is a non-empty canonical string of its
value, which `ByteStreamToUint` of a `k`-byte type reads back. -/
theorem encodes_stripLeadingZeroBytes_natBytes {k v : Nat} (hk : 0 < k) (hv : v < 256 ^ k) :
    Canonical (stripLeadingZeroBytes (natBytes k v)) ∧ stripLeadingZeroBytes (natBytes k v) ≠ [] ∧
      value (stripLeadingZeroBytes (natBytes k v)) = v ∧
      byteStreamToUint k (stripLeadingZeroBytes (natBytes k v)) = v := by
  have hne : natBytes k v ≠ [] := by
    rw [← List.length_pos_iff, length_natBytes]
    exact hk
  have hread := byteStreamToUint_stripLeadingZeroBytes k v
  rw [stripLeadingZeroBytes_eq] at hread ⊢
  refine ⟨canonical_byteStringToP4RuntimeByteString _, byteStringToP4RuntimeByteString_ne_nil hne,
    ?_, ?_⟩
  · rw [value_byteStringToP4RuntimeByteString, value_natBytes, Nat.mod_eq_of_lt hv]
  · rw [hread, Nat.mod_eq_of_lt hv]

/-- A canonical string of at most four bytes is the stream of its value. -/
theorem uint32ToByteStream_value {bytes : ByteString}
    (hcanonical : byteStringToP4RuntimeByteString bytes = bytes) (hbytes : bytes ≠ [])
    (hlen : bytes.length ≤ 4) : uint32ToByteStream (value bytes) = bytes := by
  rw [uint32ToByteStream_eq, byteStringToP4RuntimeByteString_natBytes hbytes hlen, hcanonical]

/-- A value below `256 ^ k` streams to at most `k` bytes. -/
theorem length_uint32ToByteStream_le {val k : Nat} (hk : 0 < k) (hk4 : k ≤ 4)
    (hval : val < 256 ^ k) : (uint32ToByteStream val).length ≤ k := by
  have hpad : natBytes 4 val = List.replicate (4 - k) 0 ++ natBytes k val := by
    rw [← natBytes_add_of_lt hval, Nat.sub_add_cancel hk4]
  have hne : natBytes k val ≠ [] := by
    rw [← List.length_pos_iff, length_natBytes]
    exact hk
  rw [uint32ToByteStream_eq, hpad, byteStringToP4RuntimeByteString_replicate_append _ hne]
  calc (byteStringToP4RuntimeByteString (natBytes k val)).length
      ≤ (natBytes k val).length := length_byteStringToP4RuntimeByteString_le _
    _ = k := length_natBytes k val

/-! ## On a host of either byte order

`Uint32ToByteStream` and `Uint64ToByteStream` copy the memory of an integer
into the string, so what they see depends on the host's byte order; `htonl`
makes it network order on both. -/

/-- `htonl` on a host of the given byte order: the low four bytes of `x` put
in network order. -/
def htonl (host : Endianness) (x : Nat) : Nat := hton host 4 x

/-- `Uint32ToByteStream` as a host runs it: the memory of `htonl(val)` read
byte by byte, then the leading zero bytes stripped. -/
def uint32ToByteStreamOnHost (host : Endianness) (val : Nat) : ByteString :=
  stripLeadingZeroBytes (storeBytes host 4 (htonl host val))

/-- `Uint64ToByteStream` as a host runs it: when `htonl(1) == 1` the value
itself, otherwise its two halves each put in network order by `htonl` and
exchanged; the memory of that `uint64` is read byte by byte and the leading
zero bytes are stripped. -/
def uint64ToByteStreamOnHost (host : Endianness) (val : Nat) : ByteString :=
  let tmp := if htonl host 1 = 1 then val
    else htonl host val <<< 32 ||| htonl host (val >>> 32)
  stripLeadingZeroBytes (storeBytes host 8 tmp)

theorem uint32ToByteStreamOnHost_eq (host : Endianness) (val : Nat) :
    uint32ToByteStreamOnHost host val = uint32ToByteStream val := by
  rw [uint32ToByteStreamOnHost, htonl, storeBytes_hton, uint32ToByteStream]

/-- On a little-endian host the exchanged halves are stored as the network
order bytes of the whole value. -/
theorem storeBytes_littleEndian_swapped_halves (val : Nat) :
    storeBytes .littleEndian 8
        (htonl .littleEndian val <<< 32 ||| htonl .littleEndian (val >>> 32)) =
      natBytes 8 val := by
  have hfour : (2 : Nat) ^ 32 = 256 ^ 4 := by norm_num
  have hlow : htonl .littleEndian (val >>> 32) < 256 ^ 4 := hton_lt _ 4 _
  have hsplit : natBytes 8 val = natBytes 4 (val >>> 32) ++ natBytes 4 val := by
    rw [Nat.shiftRight_eq_div_pow, hfour, ← natBytes_add]
  rw [hsplit, ← Nat.shiftLeft_add_eq_or_of_lt (hfour ▸ hlow), Nat.shiftLeft_eq, hfour,
    show (8 : Nat) = 4 + 4 from rfl, storeBytes_littleEndian_mul_add 4 _ hlow, htonl, htonl,
    storeBytes_hton, storeBytes_hton]

theorem uint64ToByteStreamOnHost_eq (host : Endianness) (val : Nat) :
    uint64ToByteStreamOnHost host val = uint64ToByteStream val := by
  unfold uint64ToByteStreamOnHost uint64ToByteStream
  dsimp only
  congr 1
  -- the probe `htonl(1) == 1` tells the two hosts apart
  cases host with
  | bigEndian =>
      have hprobe : htonl .bigEndian 1 = 1 :=
        (hton_one_eq_one_iff (show 2 ≤ 4 by decide) .bigEndian).mpr rfl
      rw [if_pos hprobe]
      rfl
  | littleEndian =>
      have hprobe : htonl .littleEndian 1 ≠ 1 := by
        rw [htonl, Ne, hton_one_eq_one_iff (show 2 ≤ 4 by decide)]
        exact nofun
      rw [if_neg hprobe, storeBytes_littleEndian_swapped_halves]

/-! ## The codec laws -/

theorem p4runtime_byte_string_codec_laws :
    (∀ s : ByteString,
      Canonical (byteStringToP4RuntimeByteString s) ∧
      value (byteStringToP4RuntimeByteString s) = value s ∧
      (s ≠ [] → byteStringToP4RuntimeByteString s ≠ []) ∧
      byteStringToP4RuntimeByteString (byteStringToP4RuntimeByteString s) =
        byteStringToP4RuntimeByteString s) ∧
    (∀ s t : ByteString, Canonical s → Canonical t → s ≠ [] → t ≠ [] → value s = value t →
      s = t) ∧
    (∀ (s : ByteString) (n : Nat), 1 ≤ n →
      (p4RuntimeByteStringToPaddedByteString s n).length = n ∧
      value (p4RuntimeByteStringToPaddedByteString s n) = value s % 256 ^ n ∧
      (value s < 256 ^ n → s ≠ [] →
        byteStringToP4RuntimeByteString (p4RuntimeByteStringToPaddedByteString s n) =
          byteStringToP4RuntimeByteString s)) ∧
    (∀ (size : Nat) (s : ByteString), s.length ≤ size → byteStreamToUint size s = value s) ∧
    (∀ (host : Endianness) (v : Nat), v < 2 ^ 32 →
      Canonical (uint32ToByteStreamOnHost host v) ∧ uint32ToByteStreamOnHost host v ≠ [] ∧
      value (uint32ToByteStreamOnHost host v) = v ∧
      byteStreamToUint 4 (uint32ToByteStreamOnHost host v) = v) ∧
    (∀ (host : Endianness) (v : Nat), v < 2 ^ 64 →
      Canonical (uint64ToByteStreamOnHost host v) ∧ uint64ToByteStreamOnHost host v ≠ [] ∧
      value (uint64ToByteStreamOnHost host v) = v ∧
      byteStreamToUint 8 (uint64ToByteStreamOnHost host v) = v) := by
  refine ⟨fun s => ⟨?_, ?_, ?_, ?_⟩, ?_, fun s n hn => ⟨?_, ?_, ?_⟩, ?_, ?_, ?_⟩
  · exact canonical_byteStringToP4RuntimeByteString s
  · exact value_byteStringToP4RuntimeByteString s
  · exact byteStringToP4RuntimeByteString_ne_nil
  · exact byteStringToP4RuntimeByteString_of_canonical (canonical_byteStringToP4RuntimeByteString s)
  · intro s t hs ht hsne htne hvalue
    exact eq_of_canonical_of_value_eq hs ht hsne htne hvalue
  · exact length_p4RuntimeByteStringToPaddedByteString s n
  · exact value_p4RuntimeByteStringToPaddedByteString s n
  · intro hfits hne
    exact byteStringToP4RuntimeByteString_padded hne hn hfits
  · intro size s hlen
    exact byteStreamToUint_of_length_le hlen
  · -- both hosts send the network order bytes
    intro host v hv
    rw [uint32ToByteStreamOnHost_eq, uint32ToByteStream]
    exact encodes_stripLeadingZeroBytes_natBytes (by decide) (by norm_num; exact hv)
  · intro host v hv
    rw [uint64ToByteStreamOnHost_eq, uint64ToByteStream]
    exact encodes_stripLeadingZeroBytes_natBytes (by decide) (by norm_num; exact hv)

/-- The laws at the string `00 05`, its padding to three bytes, and the value
`5` sent by a little-endian host. -/
theorem p4runtime_byte_string_codec_laws_at_five :
    byteStringToP4RuntimeByteString [0, 5] ≠ [] ∧
      byteStringToP4RuntimeByteString (p4RuntimeByteStringToPaddedByteString [0, 5] 3) = [5] ∧
      byteStreamToUint 8 (uint64ToByteStreamOnHost .littleEndian 5) = 5 :=
  ⟨(p4runtime_byte_string_codec_laws.1 [0, 5]).2.2.1 (by decide),
    ((p4runtime_byte_string_codec_laws.2.2.1 [0, 5] 3 (by decide)).2.2 (by decide) (by decide)).trans
      (by decide),
    ((p4runtime_byte_string_codec_laws.2.2.2.2.2 .littleEndian 5 (by decide)).2.2.2)⟩

end Stratum.Ports.P4Utils
