import Stratum.Ports.Status
import Stratum.Ports.P4Utils
import Stratum.Ports.P4Runtime

/-!
# `BfrtPacketioManager`: the packet-IO header codec

`stratum/hal/lib/barefoot/bfrt_packetio_manager.cc` turns a `PacketOut` into
the bytes the switch sends and received bytes into a `PacketIn`. The
controller headers come from the P4Info (`BuildMetadataMapping`): each is a
list of (metadata ID, bit width) in header order, and the widths need not be
multiples of 8. `DeparsePacketOut` and `ParsePacketIn` pack the fields
through `BitBuffer`, a deque of bits.

The deque holds the `uint8` values `0` and `1`, modelled as a list of
naturals. `PopField` shifts a `uint8` accumulator left and or-s the next
bit into it; the model accumulates in a natural number and reduces it modulo
256 (`UInt8.ofNat`) when the byte is stored, which gives the same byte.
The `CHECK`s of `PopField` and `PopAll` abort the process rather than return
a status; both callers meet them, so the model's `popField` reads missing
bits as `0`.

Each function comes with its specification in terms of
`Stratum.Verified.Digits`: `pushBack_eq` (a value that fits the width is
appended as its `bitwidth` low bits, anything else is refused) and
`popField_eq` (a field is read back as the big-endian bytes of its bits).
-/

namespace Stratum.Ports.BfrtPacketioManager

open Stratum.Ports.Status Stratum.Ports.P4Utils Stratum.Ports.P4Runtime
open Stratum.Verified.BigEndian Stratum.Verified.Digits

/-! ## `BitBuffer` -/

/-- `BitBuffer`: the deque `bits_`, front first. -/
structure BitBuffer where
  bits : List Nat
  deriving DecidableEq, Repr

/-- The bits `PushBack` takes from one byte, most significant first:
`(c >> 7) & 1`, ..., `(c >> 0) & 1`. -/
def byteBits (c : UInt8) : List Nat :=
  [7, 6, 5, 4, 3, 2, 1, 0].map fun k => c.toNat / 2 ^ k % 2

/-- The `while (new_bits.size() > bitwidth)` loop of `PushBack`: pop bits
from the front, each of which must be zero. -/
def trimFront (bitwidth : Nat) : List Nat → Option (List Nat)
  | [] => some []
  | b :: rest =>
      if rest.length + 1 > bitwidth then
        if b = 0 then trimFront bitwidth rest else none
      else some (b :: rest)

/-- The status of both `RET_CHECK`s of `PushBack`. -/
def overflowError (bytestring : ByteString) (bitwidth : Nat) : UtilError :=
  ⟨.errInvalidParam, "Bytestring " ++ stringToHex bytestring ++ " overflows bit width " ++
    toString bitwidth ++ "."⟩

/-- `BitBuffer::PushBack`: append `bytestring` as a field of `bitwidth` bits,
dropping leading zero bits and padding with zero bits in front. -/
def BitBuffer.pushBack (buf : BitBuffer) (bytestring : ByteString) (bitwidth : Nat) :
    StatusOr BitBuffer :=
  if bytestring.length ≤ (bitwidth + 8 - 1) / 8 then
    match trimFront bitwidth (bytestring.flatMap byteBits) with
    | none => .error (overflowError bytestring bitwidth)
    | some newBits =>
        .ok ⟨buf.bits ++ (List.replicate (bitwidth - newBits.length) 0 ++ newBits)⟩
  else .error (overflowError bytestring bitwidth)

/-- The loop of `PopField` from loop index `bit` down to `0`, with the
accumulated `byte_val`: a byte is stored after index `bit` when `bit % 8`
is `0`, so the first byte takes the `bitwidth % 8` leading bits. -/
def popFieldLoop : Nat → Nat → List Nat → ByteString × List Nat
  | 0, _, bits => ([], bits)
  | bit + 1, byteVal, bits =>
      let byteVal := byteVal * 2 + bits.headD 0
      if bit % 8 = 0 then
        let (out, rest) := popFieldLoop bit 0 bits.tail
        (UInt8.ofNat byteVal :: out, rest)
      else popFieldLoop bit byteVal bits.tail

/-- `BitBuffer::PopField`: remove a field of `bitwidth` bits from the front
and return it as bytes. -/
def BitBuffer.popField (buf : BitBuffer) (bitwidth : Nat) : ByteString × BitBuffer :=
  let (out, rest) := popFieldLoop bitwidth 0 buf.bits
  (out, ⟨rest⟩)

/-- `BitBuffer::PopAll`. -/
def BitBuffer.popAll (buf : BitBuffer) : ByteString :=
  (buf.popField buf.bits.length).1

/-! ## The manager -/

/-- `kIngressMetadataPreambleName`. -/
def kIngressMetadataPreambleName : String := "packet_in"

/-- `kEgressMetadataPreambleName`. -/
def kEgressMetadataPreambleName : String := "packet_out"

/-- The header members `BuildMetadataMapping` sets. -/
structure MetadataMapping where
  packetinHeader : List (Nat × Nat)
  packetoutHeader : List (Nat × Nat)
  packetinHeaderSize : Nat
  packetoutHeaderSize : Nat
  deriving DecidableEq, Repr

/-- The number of bits of a header. -/
def headerBits (header : List (Nat × Nat)) : Nat :=
  (header.map Prod.snd).sum

/-- The loop of `BuildMetadataMapping` over the controller headers: the
fields of the `packet_in` and `packet_out` headers, in P4Info order. -/
def collectHeaders (packetinHeader packetoutHeader : List (Nat × Nat)) :
    List ControllerPacketMetadata → List (Nat × Nat) × List (Nat × Nat)
  | [] => (packetinHeader, packetoutHeader)
  | controllerPacketMetadata :: rest =>
      let name := controllerPacketMetadata.preambleName
      let fields := controllerPacketMetadata.metadata.map fun m => (m.id, m.bitwidth)
      if name ≠ kIngressMetadataPreambleName ∧ name ≠ kEgressMetadataPreambleName then
        collectHeaders packetinHeader packetoutHeader rest
      else if name = kIngressMetadataPreambleName then
        collectHeaders (packetinHeader ++ fields) packetoutHeader rest
      else collectHeaders packetinHeader (packetoutHeader ++ fields) rest

/-- `BfrtPacketioManager::BuildMetadataMapping`: both headers must fill whole
bytes; the members are only set when they do. -/
def buildMetadataMapping (controllerPacketMetadata : List ControllerPacketMetadata) :
    StatusOr MetadataMapping :=
  let (packetinHeader, packetoutHeader) := collectHeaders [] [] controllerPacketMetadata
  if headerBits packetinHeader % 8 ≠ 0 then
    .error ⟨.errInvalidParam, "PacketIn header size must be multiple of 8 bits."⟩
  else if headerBits packetoutHeader % 8 ≠ 0 then
    .error ⟨.errInvalidParam, "PacketOut header size must be multiple of 8 bits."⟩
  else
    .ok ⟨packetinHeader, packetoutHeader, headerBits packetinHeader / 8,
      headerBits packetoutHeader / 8⟩

/-- The `std::find_if` of `DeparsePacketOut`: the first metadata of the
packet with the ID. -/
def findMetadata (packet : PacketOut) (id : Nat) : Option PacketMetadata :=
  packet.metadata.find? (·.metadataId == id)

/-- The loop of `DeparsePacketOut`: push, for every header field, the value
of the first metadata of the packet with the field's ID. -/
def deparseLoop (packet : PacketOut) : BitBuffer → List (Nat × Nat) → StatusOr BitBuffer
  | bitBuf, [] => .ok bitBuf
  | bitBuf, (id, bitwidth) :: rest =>
      match findMetadata packet id with
      | none => .error ⟨.errInvalidParam, "Missing metadata with Id " ++ toString id ++
          " in PacketOut "⟩
      | some metadata =>
          match bitBuf.pushBack metadata.value bitwidth with
          | .error status => .error status
          | .ok bitBuf => deparseLoop packet bitBuf rest

/-- `BfrtPacketioManager::DeparsePacketOut`: the packed header, then the
payload. -/
def deparsePacketOut (mapping : MetadataMapping) (packet : PacketOut) : StatusOr ByteString :=
  match deparseLoop packet ⟨[]⟩ mapping.packetoutHeader with
  | .error status => .error status
  | .ok bitBuf => .ok (bitBuf.popAll ++ packet.payload)

/-- The loop of `ParsePacketIn`: pop every header field and canonicalize it. -/
def parseFields : List (Nat × Nat) → BitBuffer → List PacketMetadata × BitBuffer
  | [], bitBuf => ([], bitBuf)
  | (id, bitwidth) :: rest, bitBuf =>
      let (field, bitBuf) := bitBuf.popField bitwidth
      let (metadata, bitBuf) := parseFields rest bitBuf
      (⟨id, byteStringToP4RuntimeByteString field⟩ :: metadata, bitBuf)

/-- `BfrtPacketioManager::ParsePacketIn`. -/
def parsePacketIn (mapping : MetadataMapping) (buffer : ByteString) : StatusOr PacketIn :=
  if buffer.length ≥ mapping.packetinHeaderSize then
    match (BitBuffer.mk []).pushBack (buffer.take mapping.packetinHeaderSize)
        (mapping.packetinHeaderSize * 8) with
    | .error status => .error status
    | .ok bitBuf =>
        .ok ⟨buffer.drop mapping.packetinHeaderSize,
          (parseFields mapping.packetinHeader bitBuf).1⟩
  else .error ⟨.errInvalidParam, "Received packet is too small."⟩

/-! ## `PushBack` -/

/-- A byte string `PushBack` accepts for a width: at most `⌈bitwidth / 8⌉`
bytes, with a value below `2 ^ bitwidth`. -/
def FitsWidth (bytes : ByteString) (bitwidth : Nat) : Prop :=
  bytes.length ≤ (bitwidth + 8 - 1) / 8 ∧ value bytes < 2 ^ bitwidth

instance (bytes : ByteString) (bitwidth : Nat) : Decidable (FitsWidth bytes bitwidth) :=
  inferInstanceAs (Decidable (_ ∧ _))

theorem byteBits_eq (c : UInt8) : byteBits c = fixedDigits 2 8 c.toNat := by
  simp [byteBits, fixedDigits, Nat.div_div_eq_div_mul]

/-- The bits of a byte string are the `8 * length` binary digits of its
value. -/
theorem flatMap_byteBits (bytes : ByteString) :
    bytes.flatMap byteBits = fixedDigits 2 (8 * bytes.length) (value bytes) := by
  have hbits : bytes.flatMap byteBits = (bytes.map UInt8.toNat).flatMap (fixedDigits 2 8) := by
    rw [List.flatMap_map]
    congr 1
    funext c
    exact byteBits_eq c
  rw [hbits, flatMap_fixedDigits (by decide) 8 (toNat_lt_256 bytes), List.length_map,
    value_eq_digitsValue]
  rfl

theorem trimFront_of_length_le {bitwidth : Nat} :
    ∀ {bits : List Nat}, bits.length ≤ bitwidth → trimFront bitwidth bits = some bits
  | [], _ => rfl
  | b :: rest, hlen => by
      unfold trimFront
      rw [if_neg (by simpa using hlen)]

/-- The loop pops exactly the bits in front of the last `bitwidth`, and
succeeds when they are all zero. -/
theorem trimFront_append {bitwidth : Nat} {ys : List Nat} (hys : ys.length = bitwidth) :
    ∀ xs, trimFront bitwidth (xs ++ ys) = if ∀ d ∈ xs, d = 0 then some ys else none
  | [] => by simp [trimFront_of_length_le (Nat.le_of_eq hys)]
  | x :: xs => by
      have hlong : (xs ++ ys).length + 1 > bitwidth := by
        rw [List.length_append]
        omega
      rw [List.cons_append, trimFront, if_pos hlong, trimFront_append hys xs]
      by_cases hx : x = 0
      · simp [hx]
      · simp [hx]

/-- `PushBack` appends the `bitwidth` low bits of the value when the string
has at most `⌈bitwidth / 8⌉` bytes and its value fits `bitwidth` bits, and
fails otherwise. -/
theorem pushBack_eq (buf : BitBuffer) (bytestring : ByteString) (bitwidth : Nat) :
    buf.pushBack bytestring bitwidth =
      if FitsWidth bytestring bitwidth then
        .ok ⟨buf.bits ++ fixedDigits 2 bitwidth (value bytestring)⟩
      else .error (overflowError bytestring bitwidth) := by
  have hvalue : value bytestring < 2 ^ (8 * bytestring.length) := by
    have := value_lt bytestring
    rwa [Nat.pow_mul]
  unfold BitBuffer.pushBack
  rw [flatMap_byteBits]
  by_cases hlen : bytestring.length ≤ (bitwidth + 8 - 1) / 8
  · rw [if_pos hlen]
    by_cases hshort : 8 * bytestring.length ≤ bitwidth
    · -- nothing to trim: pad the bits to the width
      have hfits : value bytestring < 2 ^ bitwidth :=
        Nat.lt_of_lt_of_le hvalue (Nat.pow_le_pow_right (by decide) hshort)
      rw [trimFront_of_length_le (by simpa using hshort),
        if_pos (show FitsWidth _ _ from ⟨hlen, hfits⟩)]
      simp only [length_fixedDigits]
      rw [← fixedDigits_add_of_lt hvalue, Nat.sub_add_cancel hshort]
    · -- trim the leading bits above the width, which must be zero
      have hsplit : 8 * bytestring.length = (8 * bytestring.length - bitwidth) + bitwidth := by
        omega
      have hhigh : value bytestring / 2 ^ bitwidth < 2 ^ (8 * bytestring.length - bitwidth) := by
        rw [Nat.div_lt_iff_lt_mul (Nat.two_pow_pos _), ← Nat.pow_add, ← hsplit]
        exact hvalue
      rw [hsplit, fixedDigits_add,
        trimFront_append (length_fixedDigits bitwidth (value bytestring))]
      simp only [forall_mem_fixedDigits_eq_zero_iff, Nat.mod_eq_of_lt hhigh]
      by_cases hfits : value bytestring < 2 ^ bitwidth
      · rw [if_pos (Nat.div_eq_of_lt hfits), if_pos (show FitsWidth _ _ from ⟨hlen, hfits⟩)]
        simp
      · have hne : value bytestring / 2 ^ bitwidth ≠ 0 := by
          rw [Ne, Nat.div_eq_zero_iff_lt (Nat.two_pow_pos _)]
          exact hfits
        rw [if_neg hne, if_neg fun h : FitsWidth _ _ => hfits h.2]
  · rw [if_neg hlen, if_neg fun h : FitsWidth _ _ => hlen h.1]

/-! ## `PopField` -/

/-- `PopField`'s loop reads the next `bit` bits, behind an accumulated
`byteVal`, as the `⌈bit / 8⌉` low bytes of their value. -/
theorem popFieldLoop_eq :
    ∀ (bit byteVal : Nat) (bits : List Nat), (∀ d ∈ bits, d < 2) → bit ≤ bits.length →
      popFieldLoop bit byteVal bits =
        (natBytes ((bit + 8 - 1) / 8) (byteVal * 2 ^ bit + digitsValue 2 (bits.take bit)),
          bits.drop bit)
  | 0, byteVal, bits, _, _ => by simp [popFieldLoop, natBytes]
  | bit + 1, byteVal, [], _, hlen => by simp at hlen
  | bit + 1, byteVal, b :: bits, hbits, hlen => by
      have hrest : ∀ d ∈ bits, d < 2 := fun d hd => hbits d (List.mem_cons_of_mem b hd)
      have hlen' : bit ≤ bits.length := by simpa using hlen
      -- the value of the bits after `b`, which fits their count
      have hlow : digitsValue 2 (bits.take bit) < 2 ^ bit := by
        have htake : ∀ d ∈ bits.take bit, d < 2 := fun d hd => hrest d (List.mem_of_mem_take hd)
        have := digitsValue_lt htake
        rwa [List.length_take_of_le hlen'] at this
      have hvalue : byteVal * 2 ^ (bit + 1) + digitsValue 2 ((b :: bits).take (bit + 1)) =
          (byteVal * 2 + b) * 2 ^ bit + digitsValue 2 (bits.take bit) := by
        rw [List.take_succ_cons, digitsValue_cons, List.length_take_of_le hlen', Nat.pow_succ]
        ring
      unfold popFieldLoop
      simp only [List.headD_cons, List.tail_cons, List.drop_succ_cons]
      rw [hvalue]
      split_ifs with hbyte
      · -- index `bit` closes a byte: it is stored, and the rest starts afresh
        rw [popFieldLoop_eq bit 0 bits hrest hlen', Nat.zero_mul, Nat.zero_add]
        obtain ⟨m, rfl⟩ : ∃ m, bit = 8 * m := ⟨bit / 8, by omega⟩
        have hbytes : (8 * m + 1 + 8 - 1) / 8 = m + 1 := by omega
        have hbytes' : (8 * m + 8 - 1) / 8 = m := by omega
        have hpow : (2 : Nat) ^ (8 * m) = 256 ^ m := by rw [Nat.pow_mul]
        rw [hbytes, hbytes', natBytes_succ, hpow]
        rw [hpow] at hlow
        have hhigh : ((byteVal * 2 + b) * 256 ^ m + digitsValue 2 (bits.take (8 * m))) / 256 ^ m =
            byteVal * 2 + b := by
          rw [Nat.add_comm, Nat.add_mul_div_right _ _ (Nat.pow_pos (by decide)),
            Nat.div_eq_of_lt hlow, Nat.zero_add]
        have hlowBytes : natBytes m ((byteVal * 2 + b) * 256 ^ m +
            digitsValue 2 (bits.take (8 * m))) =
              natBytes m (digitsValue 2 (bits.take (8 * m))) := by
          unfold natBytes
          rw [← fixedDigits_mod, Nat.add_comm, Nat.add_mul_mod_self_right, fixedDigits_mod]
        rw [hhigh, hlowBytes]
      · -- the byte is still open: the same bytes, one bit further
        rw [popFieldLoop_eq bit (byteVal * 2 + b) bits hrest hlen']
        have hbytes : (bit + 1 + 8 - 1) / 8 = (bit + 8 - 1) / 8 := by omega
        rw [hbytes]

/-- `PopField` returns the `⌈bitwidth / 8⌉` big-endian bytes of the value of
the first `bitwidth` bits, and leaves the rest. -/
theorem popField_eq (buf : BitBuffer) (bitwidth : Nat) (hbits : ∀ d ∈ buf.bits, d < 2)
    (hlen : bitwidth ≤ buf.bits.length) :
    buf.popField bitwidth =
      (natBytes ((bitwidth + 8 - 1) / 8) (digitsValue 2 (buf.bits.take bitwidth)),
        ⟨buf.bits.drop bitwidth⟩) := by
  unfold BitBuffer.popField
  rw [popFieldLoop_eq bitwidth 0 buf.bits hbits hlen, Nat.zero_mul, Nat.zero_add]

end Stratum.Ports.BfrtPacketioManager
