import Stratum.Verified.BigEndian
import Stratum.Verified.CIntegers

/-!
# Integer fields of fixed-layout PHAL buffers

`ParseIntegralBytes` and `ParseSignedIntegralBytes` of
`stratum/hal/lib/phal/buffer_tools.h` read an integer of `num_bytes` bytes,
in either byte order, from an EEPROM or sysfs buffer, and the numeric
fields of `fixed_layout_datasource.cc` report what they read. The C++
integer arithmetic is that of `Stratum.Verified.CIntegers`.

Main results:

* `parseIntegralBytes_eq`: for every type at least as wide as `int` and every
  count of bytes that fits it, the unsigned reading is the big-endian value of
  the bytes in the chosen order.
* `parseSignedIntegralBytes_int32`: into an `int32`, the signed reading is
  the two's-complement value of the bytes, sign-extended.
* `parseSignedIntegralBytes_of_signBit_wide`: into a signed type wider than
  32 bits, a negative reading of one to three bytes is extended with ones
  only up to bit 31, because the mask `~0U` is an `unsigned int`;
* `wide_signed_reading`: every reading into such a type, by the count of
  bytes and the top bit;
* `typed_field_reports`, `floatingField_updateAttribute_reports`: what the
  registered `int32`, `uint32`, `uint64` and floating fields report.
-/

namespace Stratum.Ports.PhalBufferTools

open Stratum.Verified.BigEndian Stratum.Verified.CIntegers IntValue

/-- One turn of the loop of `ParseIntegralBytes<T>`: read the `i`-th byte in
the chosen order and `number |= static_cast<T>(byte) << ((num_bytes - i - 1) * 8)`.
Reading outside the buffer is undefined. -/
def parseIntegralBytesStep (T : IntType) (source : ByteString) (numBytes : Nat)
    (littleEndian : Bool) (number : IntValue) (i : Nat) : Option IntValue := do
  let byte ← (if littleEndian then source[numBytes - i - 1]? else source[i]?)
  let shifted ← shiftLeft ((ofInt .uint8 byte.toNat).convert T) ((numBytes - i - 1) * 8)
  pure ((lor number shifted).convert T)

/-- `ParseIntegralBytes<T>(source, num_bytes, little_endian)`. -/
def parseIntegralBytes (T : IntType) (source : ByteString) (numBytes : Nat)
    (littleEndian : Bool) : Option IntValue :=
  (List.range numBytes).foldlM (parseIntegralBytesStep T source numBytes littleEndian) (ofInt T 0)

/-- `ParseSignedIntegralBytes<T>(source, num_bytes, little_endian)`. -/
def parseSignedIntegralBytes (T : IntType) (source : ByteString) (numBytes : Nat)
    (littleEndian : Bool) : Option IntValue := do
  let value ← parseIntegralBytes T source numBytes littleEndian
  -- `&&` evaluates `value & (1 << (8 * num_bytes - 1))` only when `num_bytes < sizeof(T)`;
  -- `8 * num_bytes - 1` is `size_t` arithmetic, which wraps when `num_bytes` is 0
  if numBytes < T.size then
    let signBit ← shiftLeft (ofInt .int32 1) (if numBytes = 0 then 2 ^ 64 - 1 else 8 * numBytes - 1)
    if (land value signBit).pattern ≠ 0 then
      let ones ← shiftLeft (complement (ofInt .uint32 0)) (8 * numBytes)
      pure ((lor value ones).convert T)
    else pure value
  else pure value

/-- The bytes the loop shifts in, most significant first. -/
def bytesInOrder (source : ByteString) (numBytes : Nat) (littleEndian : Bool) : ByteString :=
  if littleEndian then (source.take numBytes).reverse else source.take numBytes

theorem length_bytesInOrder {source : ByteString} {numBytes : Nat}
    (hsource : numBytes ≤ source.length) (littleEndian : Bool) :
    (bytesInOrder source numBytes littleEndian).length = numBytes := by
  cases littleEndian <;> simp [bytesInOrder, hsource]

/-- The byte the loop reads at turn `i` is the `i`-th byte in order. -/
theorem read_eq_bytesInOrder_get {source : ByteString} {numBytes i : Nat}
    (hi : i < numBytes) (hsource : numBytes ≤ source.length) (littleEndian : Bool) :
    (if littleEndian then source[numBytes - i - 1]? else source[i]?) =
      (bytesInOrder source numBytes littleEndian)[i]? := by
  have htake : (source.take numBytes).length = numBytes := by simp [hsource]
  cases littleEndian with
  | false => simp [bytesInOrder, hi]
  | true =>
      simp only [bytesInOrder, if_true]
      rw [List.getElem?_reverse (by rw [htake]; exact hi), List.getElem?_take, htake, if_pos (by omega)]
      congr 1
      omega

/-! ## The unsigned reading -/

section Loop

variable {T : IntType} {source : ByteString} {numBytes : Nat} {littleEndian : Bool}

/-- One turn shifts the next byte in under the bytes read so far. The loop
invariant: after `k` turns the number is the value of the first `k` bytes in
order, shifted up past the `numBytes - k` bytes still to come. -/
theorem parseIntegralBytesStep_eq (hT : 32 ≤ T.width) (hfit : 8 * numBytes ≤ T.width)
    (hsource : numBytes ≤ source.length) {k : Nat} (hk : k < numBytes) :
    parseIntegralBytesStep T source numBytes littleEndian
        (ofInt T (value ((bytesInOrder source numBytes littleEndian).take k) *
          2 ^ (8 * (numBytes - k)) : Nat)) k =
      some (ofInt T (value ((bytesInOrder source numBytes littleEndian).take (k + 1)) *
          2 ^ (8 * (numBytes - (k + 1))) : Nat)) := by
  set bytes := bytesInOrder source numBytes littleEndian
  have hkb : k < bytes.length := by rw [length_bytesInOrder hsource]; exact hk
  set b := bytes[k]
  set V := value (bytes.take k)
  set s := (numBytes - k - 1) * 8
  have hwide : 2 ^ (8 * numBytes) ≤ 2 ^ T.width := Nat.pow_le_pow_right (by decide) hfit
  have hb : b.toNat < 2 ^ 8 := b.toNat_lt
  have hV : V < 2 ^ (8 * k) := by
    have hlt := value_lt (bytes.take k)
    rwa [List.length_take_of_le (Nat.le_of_lt hkb), show (256 : Nat) = 2 ^ 8 by rfl,
      ← Nat.pow_mul] at hlt
  -- `2 ^ (8 * (numBytes - k))` is the byte's own place above the shift
  have hplace : 2 ^ (8 * (numBytes - k)) = 2 ^ 8 * 2 ^ s := by
    rw [← Nat.pow_add]
    congr 1
    omega
  have hhigh : V * 2 ^ (8 * (numBytes - k)) < 2 ^ T.width := by
    calc V * 2 ^ (8 * (numBytes - k)) < 2 ^ (8 * k) * 2 ^ (8 * (numBytes - k)) :=
          Nat.mul_lt_mul_of_pos_right hV (Nat.two_pow_pos _)
      _ = 2 ^ (8 * numBytes) := by rw [← Nat.pow_add]; congr 1; omega
      _ ≤ 2 ^ T.width := hwide
  have hlow : b.toNat * 2 ^ s < 2 ^ T.width := by
    calc b.toNat * 2 ^ s < 2 ^ 8 * 2 ^ s := Nat.mul_lt_mul_of_pos_right hb (Nat.two_pow_pos _)
      _ = 2 ^ (8 * (numBytes - k)) := hplace.symm
      _ ≤ 2 ^ (8 * numBytes) := Nat.pow_le_pow_right (by decide) (by omega)
      _ ≤ 2 ^ T.width := hwide
  have hread : (if littleEndian then source[numBytes - k - 1]? else source[k]?) = some b := by
    rw [read_eq_bytesInOrder_get hk hsource, List.getElem?_eq_getElem hkb]
  -- the byte, converted to `T` and shifted into place
  have hbyte : (ofInt .uint8 b.toNat).convert T = ofInt T b.toNat := by
    rw [convert, toInt_of_unsigned rfl, pattern_ofInt_of_lt hb]
  have hshift : shiftLeft (ofInt T b.toNat) s = some (ofInt T (b.toNat * 2 ^ s : Nat)) := by
    have hbT : b.toNat < 2 ^ T.width := lt_of_lt_of_le hb (Nat.pow_le_pow_right (by decide) (by omega))
    rw [shiftLeft_of_lt hT (by rw [type_ofInt]; omega), type_ofInt, pattern_ofInt_of_lt hbT]
  -- `|` of the disjoint parts is their sum
  have hor : V * 2 ^ (8 * (numBytes - k)) ||| b.toNat * 2 ^ s = (V * 2 ^ 8 + b.toNat) * 2 ^ s := by
    rw [hplace, ← Nat.mul_assoc, mul_two_pow_or_mul_two_pow, or_mul_two_pow_eq_add V hb]
  have hnext : value (bytes.take (k + 1)) = V * 2 ^ 8 + b.toNat := by
    have hsingle : value [b] = b.toNat := by simp [value]
    rw [List.take_add_one, List.getElem?_eq_getElem hkb, Option.toList_some, value_append,
      hsingle]
    rfl
  have hlor : lor (ofInt T (V * 2 ^ (8 * (numBytes - k)) : Nat)) (ofInt T (b.toNat * 2 ^ s : Nat)) =
      ofInt T ((V * 2 ^ 8 + b.toNat) * 2 ^ s : Nat) := by
    rw [lor_of_type_eq (type_ofInt _ _) (type_ofInt _ _) hT, pattern_ofInt_of_lt hhigh,
      pattern_ofInt_of_lt hlow, hor]
  have hs' : 8 * (numBytes - (k + 1)) = s := by omega
  unfold parseIntegralBytesStep
  rw [hread, show (numBytes - k - 1) * 8 = s from rfl]
  simp only [Option.bind_eq_bind, Option.bind_some, hbyte, hshift, hlor, hnext, hs']
  have hself := convert_self (ofInt T ((V * 2 ^ 8 + b.toNat) * 2 ^ s : Nat))
  rw [type_ofInt] at hself
  rw [hself]
  rfl

/-- After `k` turns the loop holds the first `k` bytes in order, shifted up
past the rest. -/
theorem parseIntegralBytes_foldlM (hT : 32 ≤ T.width) (hfit : 8 * numBytes ≤ T.width)
    (hsource : numBytes ≤ source.length) {k : Nat} (hk : k ≤ numBytes) :
    (List.range k).foldlM (parseIntegralBytesStep T source numBytes littleEndian) (ofInt T 0) =
      some (ofInt T (value ((bytesInOrder source numBytes littleEndian).take k) *
        2 ^ (8 * (numBytes - k)) : Nat)) := by
  induction k with
  | zero => simp [value]
  | succ k ih =>
      rw [List.range_succ, List.foldlM_append, ih (by omega)]
      simp only [List.foldlM_cons, List.foldlM_nil, bind_pure]
      exact parseIntegralBytesStep_eq hT hfit hsource (by omega)

/-- The unsigned reading is the value of the bytes in order. -/
theorem parseIntegralBytes_eq (hT : 32 ≤ T.width) (hfit : 8 * numBytes ≤ T.width)
    (hsource : numBytes ≤ source.length) :
    parseIntegralBytes T source numBytes littleEndian =
      some (ofInt T (value (bytesInOrder source numBytes littleEndian) : Nat)) := by
  rw [parseIntegralBytes, parseIntegralBytes_foldlM hT hfit hsource (le_refl numBytes), Nat.sub_self,
    Nat.mul_zero, Nat.pow_zero, Nat.mul_one,
    List.take_of_length_le (le_of_eq (length_bytesInOrder hsource _))]

end Loop

/-! ## The signed reading -/

section Signed

variable {T : IntType} {source : ByteString} {numBytes : Nat} {littleEndian : Bool}

/-- From `sizeof(T)` bytes on there is no sign to extend. -/
theorem parseSignedIntegralBytes_of_size_le (hsize : T.size ≤ numBytes) :
    parseSignedIntegralBytes T source numBytes littleEndian =
      parseIntegralBytes T source numBytes littleEndian := by
  have hnot : ¬numBytes < T.size := Nat.not_lt.mpr hsize
  simp only [parseSignedIntegralBytes, hnot, ↓reduceIte, bind_pure]

/-- `1 << (8 * num_bytes - 1)` for one to four bytes. -/
theorem shiftLeft_signBit {n : Nat} (hn : 1 ≤ n) (hn4 : n ≤ 4) :
    shiftLeft (ofInt .int32 1) (if n = 0 then 2 ^ 64 - 1 else 8 * n - 1) =
      some (ofInt .int32 (2 ^ (8 * n - 1) : Nat)) := by
  have hone : (ofInt .int32 1).pattern = 1 := rfl
  rw [if_neg (by omega), shiftLeft_of_lt (by decide) (by rw [type_ofInt]; show 8 * n - 1 < 32; omega),
    hone, Nat.one_mul, type_ofInt]

/-- `~0U << (8 * num_bytes)` for one to three bytes: the `unsigned int` with
the bits from `8 * num_bytes` to 31 set. -/
theorem shiftLeft_ones {n : Nat} (hn3 : n ≤ 3) :
    shiftLeft (complement (ofInt .uint32 0)) (8 * n) =
      some (ofInt .uint32 (2 ^ 32 - 2 ^ (8 * n) : Nat)) := by
  have hzero : (ofInt .uint32 0).pattern = 0 := rfl
  have hones : (complement (ofInt .uint32 0)).pattern = 2 ^ 32 - 1 := by
    rw [pattern_complement (by decide), hzero, type_ofInt]
    rfl
  have htype : (complement (ofInt .uint32 0)).type = .uint32 := rfl
  have hwidth : IntType.uint32.width = 32 := rfl
  rw [shiftLeft_of_lt (by decide) (by rw [htype]; show 8 * n < 32; omega), hones, htype]
  refine congrArg some (IntValue.ext rfl ?_)
  have hlt : 2 ^ 32 - 2 ^ (8 * n) < 2 ^ 32 := by
    have := Nat.two_pow_pos (8 * n)
    omega
  rw [pattern_ofInt, pattern_ofInt, hwidth, ones_mul_two_pow_mod (by omega), Nat.mod_eq_of_lt hlt]

/-- `~0U << 32` is undefined. -/
theorem shiftLeft_ones_four : shiftLeft (complement (ofInt .uint32 0)) (8 * 4) = none :=
  shiftLeft_of_le (by decide) (by decide)

/-- `value & (1 << (8 * num_bytes - 1))` tests the top bit of the bytes' value,
for a signed `T` at least as wide as `int` and one to four bytes. -/
theorem land_signBit_ne_zero_iff (hT : 32 ≤ T.width) (hsigned : T.signed = true) {n V : Nat}
    (hn : 1 ≤ n) (hn4 : n ≤ 4) (hV : V < 2 ^ (8 * n)) :
    (land (ofInt T V) (ofInt .int32 (2 ^ (8 * n - 1) : Nat))).pattern ≠ 0 ↔ 2 ^ (8 * n - 1) ≤ V := by
  -- both operands are converted to `T`
  have hcommon : IntType.common (ofInt T V).type.promote (ofInt .int32 (2 ^ (8 * n - 1) : Nat)).type.promote = T := by
    simp only [type_ofInt, IntType.promote_of_le hT]
    simp [IntType.common, IntType.promote, IntType.int32, hsigned, hT]
  have hwide : 2 ^ (8 * n) ≤ 2 ^ T.width := Nat.pow_le_pow_right (by decide) (by omega)
  have hbit : 2 ^ (8 * n - 1) < 2 ^ (8 * n) := Nat.pow_lt_pow_right (by decide) (by omega)
  have hvalue : ((ofInt T V).convert T).pattern = V := by
    rw [convert_of_type_eq (type_ofInt _ _), pattern_ofInt_of_lt (lt_of_lt_of_le hV hwide)]
  -- whatever the mask's upper bits, its low `8 * n` bits are bit `8 * n - 1`
  have hmask : ((ofInt .int32 (2 ^ (8 * n - 1) : Nat)).convert T).pattern % 2 ^ (8 * n - 1 + 1) =
      2 ^ (8 * n - 1) := by
    rw [Nat.sub_add_cancel (by omega), pattern_convert_mod (by show 8 * n ≤ 32; omega) (by omega),
      pattern_ofInt_of_lt (lt_of_lt_of_le hbit (Nat.pow_le_pow_right (by decide) (by show 8 * n ≤ 32; omega))),
      Nat.mod_eq_of_lt hbit]
  rw [pattern_land, hcommon, hvalue]
  exact land_ne_zero_iff (by rw [Nat.sub_add_cancel (by omega)]; exact hV) hmask

/-- Below `sizeof(T)` and up to four bytes, the signed reading into a signed
`T` at least as wide as `int` is the unsigned one, with `~0U << (8 * num_bytes)`
or-ed in when the top bit of the bytes is set. -/
theorem parseSignedIntegralBytes_of_lt_size (hT : 32 ≤ T.width) (hsigned : T.signed = true)
    (hn : 1 ≤ numBytes) (hn4 : numBytes ≤ 4) (hsize : numBytes < T.size)
    (hsource : numBytes ≤ source.length) :
    parseSignedIntegralBytes T source numBytes littleEndian =
      if 2 ^ (8 * numBytes - 1) ≤ value (bytesInOrder source numBytes littleEndian) then
        (shiftLeft (complement (ofInt .uint32 0)) (8 * numBytes)).bind fun ones =>
          some ((lor (ofInt T (value (bytesInOrder source numBytes littleEndian) : Nat)) ones).convert T)
      else some (ofInt T (value (bytesInOrder source numBytes littleEndian) : Nat)) := by
  have hV : value (bytesInOrder source numBytes littleEndian) < 2 ^ (8 * numBytes) := by
    have hlt := value_lt (bytesInOrder source numBytes littleEndian)
    rwa [length_bytesInOrder hsource, show (256 : Nat) = 2 ^ 8 by rfl, ← Nat.pow_mul] at hlt
  have htest := land_signBit_ne_zero_iff hT hsigned hn hn4 hV
  simp only [parseSignedIntegralBytes, parseIntegralBytes_eq hT (by omega) hsource,
    Option.bind_eq_bind, Option.bind_some, if_pos hsize, shiftLeft_signBit hn hn4]
  by_cases hsign : 2 ^ (8 * numBytes - 1) ≤ value (bytesInOrder source numBytes littleEndian)
  · rw [if_pos (htest.mpr hsign), if_pos hsign]
    rfl
  · rw [if_neg (fun h => hsign (htest.mp h)), if_neg hsign]
    rfl

/-- The value of `n` bytes is below `2 ^ (8 * n)`. -/
theorem value_bytesInOrder_lt (hsource : numBytes ≤ source.length) :
    value (bytesInOrder source numBytes littleEndian) < 2 ^ (8 * numBytes) := by
  have hlt := value_lt (bytesInOrder source numBytes littleEndian)
  rwa [length_bytesInOrder hsource, show (256 : Nat) = 2 ^ 8 by rfl, ← Nat.pow_mul] at hlt

/-- `value | (~0U << (8 * num_bytes))` sets the bits from `8 * num_bytes` to 31
above the value, in whichever type the two operands meet. -/
theorem pattern_lor_ones (hT : 32 ≤ T.width) {n V : Nat} (hn3 : n ≤ 3) (hV : V < 2 ^ (8 * n)) :
    (lor (ofInt T V) (ofInt .uint32 (2 ^ 32 - 2 ^ (8 * n) : Nat))).pattern = 2 ^ 32 - 2 ^ (8 * n) + V := by
  set t := IntType.common (ofInt T V).type.promote (ofInt .uint32 (2 ^ 32 - 2 ^ (8 * n) : Nat)).type.promote
  have ht : 32 ≤ t.width := IntType.le_width_common (by rw [type_ofInt, IntType.promote_of_le hT]; exact hT)
    (by rw [type_ofInt]; decide)
  have h32 : 2 ^ 32 ≤ 2 ^ t.width := Nat.pow_le_pow_right (by decide) ht
  have hsmall : 2 ^ (8 * n) ≤ 2 ^ 24 := Nat.pow_le_pow_right (by decide) (by omega)
  have hmask : 2 ^ 32 - 2 ^ (8 * n) < 2 ^ 32 := by
    have := Nat.two_pow_pos (8 * n)
    omega
  -- both operands keep their patterns: the value is small, the mask unsigned
  have hvalue : ((ofInt T V).convert t).pattern = V := by
    have hpattern : (ofInt T V).pattern = V := pattern_ofInt_of_lt (by
      have : 2 ^ 24 ≤ 2 ^ T.width := Nat.pow_le_pow_right (by decide) (by omega)
      omega)
    have hhalf : 2 ^ 24 ≤ 2 ^ ((ofInt T V).type.width - 1) :=
      Nat.pow_le_pow_right (by decide) (by rw [type_ofInt]; omega)
    rw [pattern_convert_of_toInt (toInt_of_lt (by omega)) (by omega), hpattern]
  have hones : ((ofInt .uint32 (2 ^ 32 - 2 ^ (8 * n) : Nat)).convert t).pattern = 2 ^ 32 - 2 ^ (8 * n) := by
    have hpattern : (ofInt .uint32 (2 ^ 32 - 2 ^ (8 * n) : Nat)).pattern = 2 ^ 32 - 2 ^ (8 * n) :=
      pattern_ofInt_of_lt hmask
    rw [pattern_convert_of_toInt (toInt_of_unsigned rfl) (by omega), hpattern]
  rw [pattern_lor, hvalue, hones, Nat.lor_comm, two_pow_sub_two_pow_or_eq_add (by omega) hV]

/-- Into a signed type wider than 32 bits, a reading of one to three bytes
with the top bit set is extended with ones only up to bit 31: `~0U` is an
`unsigned int`, converted to `T` by zero extension. -/
theorem parseSignedIntegralBytes_of_signBit_wide (hT : 32 < T.width) (hsigned : T.signed = true)
    (hn : 1 ≤ numBytes) (hn3 : numBytes ≤ 3) (hsource : numBytes ≤ source.length)
    (hset : 2 ^ (8 * numBytes - 1) ≤ value (bytesInOrder source numBytes littleEndian)) :
    parseSignedIntegralBytes T source numBytes littleEndian =
      some (ofInt T (2 ^ 32 - 2 ^ (8 * numBytes) + value (bytesInOrder source numBytes littleEndian) : Nat)) := by
  set V := value (bytesInOrder source numBytes littleEndian)
  have hV : V < 2 ^ (8 * numBytes) := value_bytesInOrder_lt hsource
  have hsize : numBytes < T.size := by unfold IntType.size; omega
  -- `T | unsigned int` is computed in `T`, which holds every `unsigned int`
  have hcommon : IntType.common T.promote IntType.uint32.promote = T := by
    rw [IntType.promote_of_le (by omega)]
    simp [IntType.common, IntType.promote, IntType.uint32, hsigned, hT]
  have hor : lor (ofInt T V) (ofInt .uint32 (2 ^ 32 - 2 ^ (8 * numBytes) : Nat)) =
      ofInt T (2 ^ 32 - 2 ^ (8 * numBytes) + V : Nat) := by
    have h32 : 2 ^ 32 ≤ 2 ^ T.width := Nat.pow_le_pow_right (by decide) (by omega)
    have hsmall : 2 ^ (8 * numBytes) ≤ 2 ^ 32 := Nat.pow_le_pow_right (by decide) (by omega)
    refine IntValue.ext hcommon ?_
    rw [pattern_lor_ones (by omega) hn3 hV, pattern_ofInt_of_lt (by omega)]
  rw [parseSignedIntegralBytes_of_lt_size (by omega) hsigned hn (by omega) hsize hsource, if_pos hset,
    shiftLeft_ones hn3, Option.bind_some, hor, convert_of_type_eq (type_ofInt _ _)]

/-- Into an `int32`, the signed reading of one to four bytes is their
two's-complement value. -/
theorem parseSignedIntegralBytes_int32 (hn : 1 ≤ numBytes) (hn4 : numBytes ≤ 4)
    (hsource : numBytes ≤ source.length) :
    (parseSignedIntegralBytes .int32 source numBytes littleEndian).map toInt =
      some ((value (bytesInOrder source numBytes littleEndian) : Int).bmod (2 ^ (8 * numBytes))) := by
  set V := value (bytesInOrder source numBytes littleEndian)
  have hV : V < 2 ^ (8 * numBytes) := value_bytesInOrder_lt hsource
  have hsigned : IntType.int32.signed = true := rfl
  have hwidth : IntType.int32.width = 31 + 1 := rfl
  have hk : 8 * numBytes = 8 * numBytes - 1 + 1 := by omega
  have hexpected := bmod_two_pow_succ (hk ▸ hV)
  rw [← hk] at hexpected
  rcases Nat.lt_or_ge numBytes 4 with hsize | hfour
  · rw [parseSignedIntegralBytes_of_lt_size (T := .int32) (by decide) rfl hn hn4 hsize hsource]
    by_cases hset : 2 ^ (8 * numBytes - 1) ≤ V
    · -- `int32 | unsigned int` is computed as `unsigned int`, then read back in two's complement
      have hsmall : 2 ^ (8 * numBytes) ≤ 2 ^ 24 := Nat.pow_le_pow_right (by decide) (by omega)
      have hsum : 2 ^ 32 - 2 ^ (8 * numBytes) + V < 2 ^ (31 + 1) := by omega
      have hlor : (lor (ofInt .int32 V) (ofInt .uint32 (2 ^ 32 - 2 ^ (8 * numBytes) : Nat))).toInt =
          (2 ^ 32 - 2 ^ (8 * numBytes) + V : Nat) := by
        rw [toInt_of_unsigned rfl, pattern_lor_ones (by decide) (by omega) hV]
      have hread : ((2 ^ 32 - 2 ^ (8 * numBytes) + V : Nat) : Int).bmod (2 ^ (31 + 1)) =
          ((2 ^ 32 - 2 ^ (8 * numBytes) + V : Nat) : Int) - ((2 ^ (31 + 1) : Nat) : Int) := by
        rw [bmod_two_pow_succ hsum, if_neg (by omega)]
      have hbytes : (V : Int).bmod (2 ^ (8 * numBytes)) = (V : Int) - ((2 ^ (8 * numBytes) : Nat) : Int) := by
        rw [hexpected, if_neg (Nat.not_lt.mpr hset)]
      have hsame : ((2 ^ 32 - 2 ^ (8 * numBytes) + V : Nat) : Int) - ((2 ^ (31 + 1) : Nat) : Int) =
          (V : Int) - ((2 ^ (8 * numBytes) : Nat) : Int) := by
        have hle : 2 ^ (8 * numBytes) ≤ 2 ^ 32 := le_trans hsmall (Nat.pow_le_pow_right (by decide) (by decide))
        have h32 : ((2 ^ (31 + 1) : Nat) : Int) = ((2 ^ 32 : Nat) : Int) := rfl
        rw [Nat.cast_add, Nat.cast_sub hle, h32]
        omega
      rw [if_pos hset, shiftLeft_ones (by omega), Option.bind_some, Option.map_some, convert,
        toInt_ofInt, hlor, if_pos hsigned, hwidth, hread, hbytes, hsame]
    · -- the value is below the sign bit and stands for itself
      have hsmall : 2 ^ (8 * numBytes) ≤ 2 ^ 31 := Nat.pow_le_pow_right (by decide) (by omega)
      have hpattern : (ofInt .int32 V).pattern = V := pattern_ofInt_of_lt (show V < 2 ^ 32 by omega)
      have hhalf : (ofInt .int32 V).pattern < 2 ^ ((ofInt .int32 V).type.width - 1) := by
        rw [hpattern]
        show V < 2 ^ 31
        omega
      rw [if_neg hset, Option.map_some, toInt_of_lt hhalf, hpattern, hexpected, if_pos (by omega)]
  · -- all four bytes: the pattern is read in two's complement as it stands
    obtain rfl : numBytes = 4 := by omega
    rw [parseSignedIntegralBytes_of_size_le (show IntType.int32.size ≤ 4 by decide),
      parseIntegralBytes_eq (by decide) (show 8 * 4 ≤ IntType.int32.width by decide) hsource,
      Option.map_some, toInt_ofInt, if_pos hsigned]
    rfl

/-- Into a signed type at least as wide as `int`, a reading whose top bit is
clear, of one to four bytes below `sizeof(T)`, is the bytes' value. -/
theorem parseSignedIntegralBytes_of_signBit_clear (hT : 32 ≤ T.width) (hsigned : T.signed = true)
    (hn : 1 ≤ numBytes) (hn4 : numBytes ≤ 4) (hsize : numBytes < T.size)
    (hsource : numBytes ≤ source.length)
    (hclear : value (bytesInOrder source numBytes littleEndian) < 2 ^ (8 * numBytes - 1)) :
    parseSignedIntegralBytes T source numBytes littleEndian =
      some (ofInt T (value (bytesInOrder source numBytes littleEndian) : Nat)) := by
  rw [parseSignedIntegralBytes_of_lt_size hT hsigned hn hn4 hsize hsource, if_neg (Nat.not_le.mpr hclear)]

/-- Four bytes with the top bit set, below `sizeof(T)`, make `~0U << 32`
undefined. -/
theorem parseSignedIntegralBytes_four_of_signBit (hT : 32 ≤ T.width) (hsigned : T.signed = true)
    (hsize : 4 < T.size) (hsource : 4 ≤ source.length)
    (hset : 2 ^ (8 * 4 - 1) ≤ value (bytesInOrder source 4 littleEndian)) :
    parseSignedIntegralBytes T source 4 littleEndian = none := by
  rw [parseSignedIntegralBytes_of_lt_size hT hsigned (by decide) (le_refl 4) hsize hsource, if_pos hset,
    shiftLeft_ones_four, Option.bind_none]

/-- Five or more bytes below `sizeof(T)` make the test `1 << (8 * num_bytes - 1)`
shift an `int` by 32 or more: undefined, whatever the bytes. -/
theorem parseSignedIntegralBytes_of_four_lt (hT : 32 ≤ T.width) (hfit : 8 * numBytes ≤ T.width)
    (h4 : 4 < numBytes) (hsize : numBytes < T.size) (hsource : numBytes ≤ source.length) :
    parseSignedIntegralBytes T source numBytes littleEndian = none := by
  have hsignBit : shiftLeft (ofInt .int32 1) (if numBytes = 0 then 2 ^ 64 - 1 else 8 * numBytes - 1) =
      none := by
    rw [if_neg (by omega)]
    exact shiftLeft_of_le (by decide) (by rw [type_ofInt]; show 32 ≤ 8 * numBytes - 1; omega)
  simp only [parseSignedIntegralBytes, parseIntegralBytes_eq hT hfit hsource, Option.bind_eq_bind,
    Option.bind_some, if_pos hsize, hsignBit, Option.bind_none]

/-- Into a signed type wider than `int`, a reading of `1 ≤ n < sizeof(T)`
bytes with the top bit clear is their value for `n ≤ 4`. With the top bit set
it is their value plus `2 ^ 32 - 2 ^ (8 * n)` for `n ≤ 3`, the ones of
`~0U` stopping at bit 31, and undefined for `n = 4`; for `n > 4` it is
undefined whatever the bytes. -/
theorem wide_signed_reading (hT : 32 < T.width) (hsigned : T.signed = true) (hn : 1 ≤ numBytes)
    (hsize : numBytes < T.size) (hsource : numBytes ≤ source.length) :
    parseSignedIntegralBytes T source numBytes littleEndian =
      if 4 < numBytes then none
      else if value (bytesInOrder source numBytes littleEndian) < 2 ^ (8 * numBytes - 1) then
        some (ofInt T (value (bytesInOrder source numBytes littleEndian) : Nat))
      else if numBytes = 4 then none
      else some (ofInt T (2 ^ 32 - 2 ^ (8 * numBytes) +
        value (bytesInOrder source numBytes littleEndian) : Nat)) := by
  have hfit : 8 * numBytes ≤ T.width := by
    unfold IntType.size at hsize
    omega
  split_ifs with h4 hclear hfour
  · exact parseSignedIntegralBytes_of_four_lt hT.le hfit h4 hsize hsource
  · exact parseSignedIntegralBytes_of_signBit_clear hT.le hsigned hn (by omega) hsize hsource hclear
  · subst hfour
    exact parseSignedIntegralBytes_four_of_signBit hT.le hsigned hsize hsource (by omega)
  · exact parseSignedIntegralBytes_of_signBit_wide hT hsigned hn (by omega) hsource (by omega)

theorem wide_signed_reading_twoBytes :
    32 < IntType.int64.width ∧ IntType.int64.signed = true ∧ 1 ≤ 2 ∧ 2 < IntType.int64.size ∧
      2 ≤ ([0x80, 0x01] : ByteString).length ∧
      parseSignedIntegralBytes .int64 [0x80, 0x01] 2 false =
        if 4 < 2 then none
        else if value (bytesInOrder [0x80, 0x01] 2 false) < 2 ^ (8 * 2 - 1) then
          some (ofInt .int64 (value (bytesInOrder [0x80, 0x01] 2 false) : Nat))
        else if 2 = 4 then none
        else some (ofInt .int64 (2 ^ 32 - 2 ^ (8 * 2) + value (bytesInOrder [0x80, 0x01] 2 false) : Nat)) :=
  ⟨by decide, rfl, by decide, by decide, by decide,
    wide_signed_reading (by decide) rfl (by decide) (by decide) (by decide)⟩

/-- Into an unsigned type at least as wide as `int`, the reading of bytes that
fit is their value. -/
theorem parseIntegralBytes_unsigned (hT : 32 ≤ T.width) (hunsigned : T.signed = false)
    (hfit : 8 * numBytes ≤ T.width) (hsource : numBytes ≤ source.length) :
    (parseIntegralBytes T source numBytes littleEndian).map toInt =
      some (value (bytesInOrder source numBytes littleEndian) : Int) := by
  have hV : value (bytesInOrder source numBytes littleEndian) < 2 ^ (8 * numBytes) :=
    value_bytesInOrder_lt hsource
  have hwide : 2 ^ (8 * numBytes) ≤ 2 ^ T.width := Nat.pow_le_pow_right (by decide) hfit
  rw [parseIntegralBytes_eq hT hfit hsource, Option.map_some, toInt_of_unsigned hunsigned,
    pattern_ofInt_of_lt (by omega)]

end Signed

/-! ## The numeric fields of a fixed-layout data source -/

/-- The message of the `RET_CHECK` with which every field's
`UpdateAttribute` begins. -/
def unregisteredMessage : String := "Called UpdateAttribute before RegisterDataSource"

/-- A `TypedField<T>` of an integer type: `length_` bytes at `offset_`, in the
given byte order. `registered` is `attribute_ != nullptr`, which
`RegisterDataSource` makes true. -/
structure TypedField where
  offset : Nat
  length : Nat
  littleEndian : Bool
  registered : Bool
  deriving DecidableEq, Repr

/-- `TypedField<T>::UpdateAttribute` of an integer type, with the parser its
specialisation calls on `buffer + offset_`; `none` is undefined behaviour, and
the value assigned to the attribute is the `ok` one. -/
def TypedField.updateAttributeWith (parse : ByteString → Nat → Bool → Option IntValue)
    (field : TypedField) (buffer : ByteString) : Option (Except String IntValue) :=
  if field.registered then
    (parse (buffer.drop field.offset) field.length field.littleEndian).map .ok
  else some (.error unregisteredMessage)

/-- `TypedField<int32>::UpdateAttribute`. -/
def TypedField.updateAttributeInt32 : TypedField → ByteString → Option (Except String IntValue) :=
  TypedField.updateAttributeWith (parseSignedIntegralBytes .int32)

/-- `TypedField<int64>::UpdateAttribute`. -/
def TypedField.updateAttributeInt64 : TypedField → ByteString → Option (Except String IntValue) :=
  TypedField.updateAttributeWith (parseSignedIntegralBytes .int64)

/-- `TypedField<uint32>::UpdateAttribute`. -/
def TypedField.updateAttributeUint32 : TypedField → ByteString → Option (Except String IntValue) :=
  TypedField.updateAttributeWith (parseIntegralBytes .uint32)

/-- `TypedField<uint64>::UpdateAttribute`. -/
def TypedField.updateAttributeUint64 : TypedField → ByteString → Option (Except String IntValue) :=
  TypedField.updateAttributeWith (parseIntegralBytes .uint64)

/-- A `FloatingField<F>` for `F` = `float` or `double`: `length_` bytes at
`offset_`, read big-endian as an `int32` or a `uint32`, then scaled. -/
structure FloatingField (F : Type) where
  offset : Nat
  length : Nat
  isSigned : Bool
  scale : F
  increment : F
  registered : Bool

/-- `FloatingField<F>::UpdateAttribute`: the integer read from the buffer,
converted to `F` by `cast` (`static_cast<F>`), times `scale_` plus
`increment_`. -/
def FloatingField.updateAttribute {F : Type} [Add F] [Mul F] (cast : Int → F)
    (field : FloatingField F) (buffer : ByteString) : Option (Except String F) :=
  if field.registered then
    let bufferVal :=
      if field.isSigned then parseSignedIntegralBytes .int32 (buffer.drop field.offset) field.length false
      else parseIntegralBytes .uint32 (buffer.drop field.offset) field.length false
    bufferVal.map fun v => .ok (cast v.toInt * field.scale + field.increment)
  else some (.error unregisteredMessage)

/-- The bytes of a field at `offset`, in the field's order. -/
abbrev fieldBytes (buffer : ByteString) (offset length : Nat) (littleEndian : Bool) : ByteString :=
  bytesInOrder (buffer.drop offset) length littleEndian

section Fields

variable {buffer : ByteString}

theorem length_le_drop {offset length : Nat} (hbuffer : offset + length ≤ buffer.length) :
    length ≤ (buffer.drop offset).length := by
  rw [List.length_drop]
  omega

/-- What is built from a reading's number is built from the number read. -/
theorem map_of_map_toInt {β : Type} {reading : Option IntValue} {r : Int}
    (hreading : reading.map toInt = some r) (g : Int → β) :
    reading.map (fun v => g v.toInt) = some (g r) := by
  rw [show (fun v => g v.toInt) = g ∘ toInt from rfl, ← Option.map_map, hreading, Option.map_some]

/-- A registered integer field reports the number its parser reads at its
offset. -/
theorem map_updateAttributeWith {parse : ByteString → Nat → Bool → Option IntValue}
    {field : TypedField} (hreg : field.registered = true) {r : Int}
    (hread : (parse (buffer.drop field.offset) field.length field.littleEndian).map toInt = some r) :
    (field.updateAttributeWith parse buffer).map (Except.map toInt) = some (.ok r) := by
  rw [TypedField.updateAttributeWith, if_pos hreg, Option.map_map]
  exact map_of_map_toInt hread Except.ok

/-- A registered `int32` field of one to four bytes reports their
two's-complement value. -/
theorem updateAttributeInt32_reports {field : TypedField} (hreg : field.registered = true)
    (hn : 1 ≤ field.length) (hn4 : field.length ≤ 4)
    (hbuffer : field.offset + field.length ≤ buffer.length) :
    (field.updateAttributeInt32 buffer).map (Except.map toInt) =
      some (.ok ((value (fieldBytes buffer field.offset field.length field.littleEndian) : Int).bmod
        (2 ^ (8 * field.length)))) :=
  map_updateAttributeWith hreg (parseSignedIntegralBytes_int32 hn hn4 (length_le_drop hbuffer))

/-- Registered `uint32` and `uint64` fields of bytes that fit their type report
the bytes' value. -/
theorem updateAttributeUnsigned_reports {field : TypedField} (hreg : field.registered = true)
    (hbuffer : field.offset + field.length ≤ buffer.length) :
    (field.length ≤ 4 → (field.updateAttributeUint32 buffer).map (Except.map toInt) =
      some (.ok (value (fieldBytes buffer field.offset field.length field.littleEndian) : Int))) ∧
    (field.length ≤ 8 → (field.updateAttributeUint64 buffer).map (Except.map toInt) =
      some (.ok (value (fieldBytes buffer field.offset field.length field.littleEndian) : Int))) := by
  constructor
  · intro hn
    exact map_updateAttributeWith hreg
      (parseIntegralBytes_unsigned (by decide) rfl (by show 8 * field.length ≤ 32; omega)
        (length_le_drop hbuffer))
  · intro hn
    exact map_updateAttributeWith hreg
      (parseIntegralBytes_unsigned (by decide) rfl (by show 8 * field.length ≤ 64; omega)
        (length_le_drop hbuffer))

/-- A registered integer field reads the bytes at its offset, in its order:
an `int32` field of one to four bytes reports their two's-complement value,
and `uint32` and `uint64` fields of bytes that fit their type report the
bytes' value. -/
theorem typed_field_reports {field : TypedField} (hreg : field.registered = true)
    (hbuffer : field.offset + field.length ≤ buffer.length) :
    (1 ≤ field.length → field.length ≤ 4 →
      (field.updateAttributeInt32 buffer).map (Except.map toInt) =
        some (.ok ((value (fieldBytes buffer field.offset field.length field.littleEndian) : Int).bmod
          (2 ^ (8 * field.length))))) ∧
    (field.length ≤ 4 → (field.updateAttributeUint32 buffer).map (Except.map toInt) =
      some (.ok (value (fieldBytes buffer field.offset field.length field.littleEndian) : Int))) ∧
    (field.length ≤ 8 → (field.updateAttributeUint64 buffer).map (Except.map toInt) =
      some (.ok (value (fieldBytes buffer field.offset field.length field.littleEndian) : Int))) :=
  ⟨fun hn hn4 => updateAttributeInt32_reports hreg hn hn4 hbuffer,
    (updateAttributeUnsigned_reports hreg hbuffer).1, (updateAttributeUnsigned_reports hreg hbuffer).2⟩

/-- A two-byte big-endian field at the start of a buffer holding `-200`. -/
def sensorField : TypedField := ⟨0, 2, false, true⟩

theorem typed_field_reports_sensorField :
    sensorField.registered = true ∧ sensorField.offset + sensorField.length ≤ [0xFF, 0x38].length ∧
    (1 ≤ sensorField.length → sensorField.length ≤ 4 →
      (sensorField.updateAttributeInt32 [0xFF, 0x38]).map (Except.map toInt) =
        some (.ok ((value (fieldBytes [0xFF, 0x38] sensorField.offset sensorField.length
          sensorField.littleEndian) : Int).bmod (2 ^ (8 * sensorField.length))))) ∧
    (sensorField.length ≤ 4 → (sensorField.updateAttributeUint32 [0xFF, 0x38]).map (Except.map toInt) =
      some (.ok (value (fieldBytes [0xFF, 0x38] sensorField.offset sensorField.length
        sensorField.littleEndian) : Int))) ∧
    (sensorField.length ≤ 8 → (sensorField.updateAttributeUint64 [0xFF, 0x38]).map (Except.map toInt) =
      some (.ok (value (fieldBytes [0xFF, 0x38] sensorField.offset sensorField.length
        sensorField.littleEndian) : Int))) :=
  ⟨rfl, by decide, typed_field_reports rfl (by decide)⟩

example : (sensorField.updateAttributeInt32 [0xFF, 0x38]).map (Except.map toInt) = some (.ok (-200)) := by
  decide

/-- A registered floating field of one to four bytes reports their
two's-complement (signed) or unsigned value, converted, scaled and shifted. -/
theorem floatingField_updateAttribute_reports {F : Type} [Add F] [Mul F] (cast : Int → F)
    {field : FloatingField F} (hreg : field.registered = true) (hn : 1 ≤ field.length)
    (hn4 : field.length ≤ 4) (hbuffer : field.offset + field.length ≤ buffer.length) :
    field.updateAttribute cast buffer =
      some (.ok (cast (if field.isSigned then
          (value (fieldBytes buffer field.offset field.length false) : Int).bmod (2 ^ (8 * field.length))
        else value (fieldBytes buffer field.offset field.length false)) * field.scale +
        field.increment)) := by
  unfold FloatingField.updateAttribute
  rw [if_pos hreg]
  -- `is_signed_` picks the parser; both read big-endian
  cases field.isSigned with
  | true =>
      simp only [if_true]
      exact map_of_map_toInt (parseSignedIntegralBytes_int32 hn hn4 (length_le_drop hbuffer))
        fun r => Except.ok (cast r * field.scale + field.increment)
  | false =>
      simp only [Bool.false_eq_true, if_false]
      exact map_of_map_toInt (parseIntegralBytes_unsigned (T := .uint32) (by decide) rfl
        (by show 8 * field.length ≤ 32; omega) (length_le_drop hbuffer))
        fun r => Except.ok (cast r * field.scale + field.increment)

/-- A signed one-byte floating field at the start of a buffer, scaled by `2`
and shifted by `5`, over the integers. -/
def scaledField : FloatingField Int := ⟨0, 1, true, 2, 5, true⟩

theorem floatingField_updateAttribute_reports_scaledField :
    scaledField.registered = true ∧ 1 ≤ scaledField.length ∧ scaledField.length ≤ 4 ∧
      scaledField.offset + scaledField.length ≤ [0xFE].length ∧
      scaledField.updateAttribute id [0xFE] =
        some (.ok (id (if scaledField.isSigned then
            (value (fieldBytes [0xFE] scaledField.offset scaledField.length false) : Int).bmod
              (2 ^ (8 * scaledField.length))
          else value (fieldBytes [0xFE] scaledField.offset scaledField.length false)) *
            scaledField.scale + scaledField.increment)) :=
  ⟨rfl, by decide, by decide, by decide,
    floatingField_updateAttribute_reports id rfl (by decide) (by decide) (by decide)⟩

/-- An `int64` read of the one byte `0xFF` gives `4294967295`, and a
`TypedField<int64>` reports it, where the byte's two's-complement value is
`-1`. -/
theorem int64_reading_of_byte_ff :
    (parseSignedIntegralBytes .int64 [0xFF] 1 false).map toInt = some 4294967295 ∧
      (TypedField.updateAttributeInt64 ⟨0, 1, false, true⟩ [0xFF]).map (Except.map toInt) =
        some (.ok 4294967295) ∧
      (value (bytesInOrder [0xFF] 1 false) : Int).bmod (2 ^ (8 * 1)) = -1 := by
  have hbyte : value (bytesInOrder [0xFF] 1 false) = 255 := rfl
  have hread : (parseSignedIntegralBytes .int64 [0xFF] 1 false).map toInt = some 4294967295 := by
    have hpattern : (ofInt .int64 (2 ^ 32 - 2 ^ (8 * 1) + 255 : Nat)).pattern = 4294967295 :=
      pattern_ofInt_of_lt (by decide)
    rw [parseSignedIntegralBytes_of_signBit_wide (by decide) rfl (le_refl 1) (by decide) (by decide)
      (by rw [hbyte]; decide), Option.map_some, hbyte, toInt_of_lt (by rw [hpattern]; decide), hpattern]
    rfl
  -- the field reads the buffer from offset 0
  have hfield : (parseSignedIntegralBytes .int64 ([0xFF].drop 0) 1 false).map toInt = some 4294967295 := by
    rw [List.drop_zero]
    exact hread
  -- the byte's own two's-complement value
  have hbmod : (value (bytesInOrder [0xFF] 1 false) : Int).bmod (2 ^ (8 * 1)) = -1 := by
    rw [hbyte, show 8 * 1 = 7 + 1 from rfl, bmod_two_pow_succ (by decide), if_neg (by decide)]
    decide
  exact ⟨hread, map_updateAttributeWith rfl hfield, hbmod⟩

end Fields

end Stratum.Ports.PhalBufferTools
