import Mathlib.Tactic.Ring
import Mathlib.Tactic.Positivity
import Mathlib.Data.Nat.ModEq
import Stratum.Verified.BigEndian

/-!
# Bits packed into bytes and words

Masks are built one bit at a time. Two loops do it:

* `packBits` visits the bits of an `n`-bit field from the top down, shifts
  each into a byte and pushes the byte after every bit whose index is a
  multiple of 8, so the top byte holds the `n % 8` leftover bits;
* `setBits` ORs `1 << bit` into an `n`-bit word for each bit of a list.

Both are read against `bitsValue set n`, the number whose bit `i` is
`set i` for every `i < n`.

Main results:

* `packBits_all` — the bytes `packBits` pushes are the `⌈n / 8⌉` big-endian
  bytes of `bitsValue set n`;
* `toNat_setBits_top` — setting the `k` bits below `hi` from the top down
  gives `(2 ^ k - 1) * 2 ^ (hi - k)`;
* `bitsValue_le` — the same number as the value of the bits from `lo` on.
-/

namespace Stratum.Verified.BitPacking

open Stratum.Verified.BigEndian

/-- The number whose bit `i` is `set i`, for the bits below `n`. -/
def bitsValue (set : Nat → Bool) : Nat → Nat
  | 0 => 0
  | n + 1 => bitsValue set n + if set n then 2 ^ n else 0

theorem bitsValue_lt (set : Nat → Bool) (n : Nat) : bitsValue set n < 2 ^ n := by
  induction n with
  | zero => simp [bitsValue]
  | succ n ih =>
      rw [bitsValue, Nat.pow_succ]
      split <;> omega

/-- The bits from `lo` on, above the bits below `lo`. -/
theorem bitsValue_add (set : Nat → Bool) (lo r : Nat) :
    bitsValue set (lo + r) = bitsValue (fun j => set (lo + j)) r * 2 ^ lo + bitsValue set lo := by
  induction r with
  | zero => simp [bitsValue]
  | succ r ih =>
      rw [← Nat.add_assoc, bitsValue, ih, bitsValue, Nat.add_mul, Nat.pow_add]
      split <;> ring

theorem bitsValue_congr {set set' : Nat → Bool} {n : Nat} (h : ∀ i < n, set i = set' i) :
    bitsValue set n = bitsValue set' n := by
  induction n with
  | zero => rfl
  | succ n ih =>
      rw [bitsValue, bitsValue, ih fun i hi => h i (by omega), h n (by omega)]

theorem bitsValue_true (n : Nat) : bitsValue (fun _ => true) n = 2 ^ n - 1 := by
  induction n with
  | zero => rfl
  | succ n ih =>
      rw [bitsValue, ih, if_pos rfl, Nat.pow_succ]
      have := Nat.one_le_two_pow (n := n)
      omega

theorem bitsValue_false (n : Nat) : bitsValue (fun _ => false) n = 0 := by
  induction n with
  | zero => rfl
  | succ n ih => rw [bitsValue, ih, if_neg Bool.false_ne_true]

/-- The bits from `lo` on, below `lo + r`: `(2 ^ r - 1) * 2 ^ lo`. -/
theorem bitsValue_le (lo r : Nat) :
    bitsValue (fun i => decide (lo ≤ i)) (lo + r) = (2 ^ r - 1) * 2 ^ lo := by
  -- every bit from `lo` on is set, and none below it
  have hhigh : bitsValue (fun j => decide (lo ≤ lo + j)) r = bitsValue (fun _ => true) r :=
    bitsValue_congr fun i _ => by simp
  have hlow : bitsValue (fun i => decide (lo ≤ i)) lo = bitsValue (fun _ => false) lo :=
    bitsValue_congr fun i hi => by simp; omega
  rw [bitsValue_add, hhigh, hlow, bitsValue_true, bitsValue_false, Nat.add_zero]

/-! ## Bits into bytes -/

/-- One bit of the byte loop: shift the byte left, set its low bit when
`set bit`, and push it when `bit` is a multiple of 8. -/
def packStep (set : Nat → Bool) (acc : ByteString × UInt8) (bit : Nat) : ByteString × UInt8 :=
  let byte := acc.2 <<< 1
  let byte := if set bit then byte ||| 1 else byte
  if bit % 8 = 0 then (acc.1 ++ [byte], 0) else (acc.1, byte)

/-- The byte loop over the bits `n - 1` down to `0`, from the pushed bytes
and the byte being filled. -/
def packBits (set : Nat → Bool) (n : Nat) (acc : ByteString × UInt8) : ByteString × UInt8 :=
  (List.range n).reverse.foldl (packStep set) acc

theorem packBits_succ (set : Nat → Bool) (n : Nat) (acc : ByteString × UInt8) :
    packBits set (n + 1) acc = packBits set n (packStep set acc n) := by
  simp [packBits, List.range_succ]

/-- The byte after one bit, as a number: twice the old one plus the bit. -/
theorem shifted_byte (set : Nat → Bool) (byte : UInt8) (bit : Nat) :
    (if set bit then byte <<< 1 ||| 1 else byte <<< 1) =
      UInt8.ofNat (2 * byte.toNat + if set bit then 1 else 0) := by
  apply UInt8.toNat.inj
  have hshift : (byte <<< 1).toNat = 2 * byte.toNat % 256 := by
    rw [UInt8.toNat_shiftLeft]
    simp [Nat.shiftLeft_eq, Nat.mul_comm]
  split
  · -- the shifted byte is even, so setting its low bit adds one
    have heven : 2 * byte.toNat % 256 = 2 ^ 1 * (byte.toNat % 128) := by omega
    rw [UInt8.toNat_or, hshift, UInt8.toNat_ofNat', heven, UInt8.toNat_one,
      ← Nat.two_pow_add_eq_or_of_lt (by decide : 1 < 2 ^ 1)]
    omega
  · rw [hshift, Nat.add_zero, UInt8.toNat_ofNat']

theorem packStep_eq (set : Nat → Bool) (bytes : ByteString) (byte : UInt8) (bit : Nat) :
    packStep set (bytes, byte) bit =
      if bit % 8 = 0 then (bytes ++ [UInt8.ofNat (2 * byte.toNat + if set bit then 1 else 0)], 0)
      else (bytes, UInt8.ofNat (2 * byte.toNat + if set bit then 1 else 0)) := by
  unfold packStep
  dsimp only
  rw [shifted_byte]

/-- The `r ≤ 8` bits from `8 * q + r - 1` down to `8 * q` finish the byte
being filled and push it. -/
theorem packBits_byte (set : Nat → Bool) (q : Nat) {r : Nat} (hr : 1 ≤ r) (hr8 : r ≤ 8)
    (bytes : ByteString) (byte : UInt8) :
    packBits set (8 * q + r) (bytes, byte) =
      packBits set (8 * q)
        (bytes ++ [UInt8.ofNat (byte.toNat * 2 ^ r + bitsValue (fun j => set (8 * q + j)) r)],
          0) := by
  induction r, hr using Nat.le_induction generalizing byte with
  | base =>
      rw [packBits_succ, packStep_eq, if_pos (by omega)]
      simp [bitsValue, Nat.mul_comm]
  | succ r hr ih =>
      rw [← Nat.add_assoc, packBits_succ, packStep_eq, if_neg (by omega), ih (by omega)]
      congr 4
      apply UInt8.toNat.inj
      simp only [UInt8.toNat_ofNat', bitsValue]
      -- the byte's high bits only matter modulo 256
      have hmod := Nat.ModEq.add_right (bitsValue (fun j => set (8 * q + j)) r)
        (Nat.ModEq.mul_right (2 ^ r) (Nat.mod_modEq (2 * byte.toNat +
          if set (8 * q + r) then 1 else 0) (2 ^ 8)))
      rw [hmod]
      split <;> ring_nf

/-- The bytes of the bits below `8 * q + r`: the `r` bits from `8 * q` on,
then the bytes of the bits below `8 * q`. -/
theorem natBytes_succ_bitsValue (set : Nat → Bool) (q r : Nat) :
    natBytes (q + 1) (bitsValue set (8 * q + r)) =
      UInt8.ofNat (bitsValue (fun j => set (8 * q + j)) r) ::
        natBytes q (bitsValue set (8 * q)) := by
  have hlow := bitsValue_lt set (8 * q)
  have hpow : 2 ^ (8 * q) = 256 ^ q := by rw [Nat.pow_mul]
  rw [hpow] at hlow
  -- the high bits are the quotient by `256 ^ q`, the low bits the remainder
  have hdiv : (bitsValue (fun j => set (8 * q + j)) r * 256 ^ q + bitsValue set (8 * q)) /
      256 ^ q = bitsValue (fun j => set (8 * q + j)) r := by
    rw [Nat.add_comm, Nat.add_mul_div_right _ _ (by positivity), Nat.div_eq_of_lt hlow,
      Nat.zero_add]
  rw [natBytes_succ, bitsValue_add, hpow, hdiv, ← natBytes_mod q, Nat.mul_add_mod_of_lt hlow]

/-- From a byte boundary, every eight bits push the next byte of the value. -/
theorem packBits_bytes (set : Nat → Bool) (q : Nat) (bytes : ByteString) :
    packBits set (8 * q) (bytes, 0) = (bytes ++ natBytes q (bitsValue set (8 * q)), 0) := by
  induction q generalizing bytes with
  | zero => simp [packBits, natBytes]
  | succ q ih =>
      rw [show 8 * (q + 1) = 8 * q + 8 by ring, packBits_byte set q (by decide) le_rfl, ih,
        natBytes_succ_bitsValue]
      simp

/-- The whole loop pushes the `⌈n / 8⌉` bytes of the value of the bits. -/
theorem packBits_all (set : Nat → Bool) {n : Nat} (hn : 0 < n) :
    (packBits set n ([], 0)).1 = natBytes ((n + 7) / 8) (bitsValue set n) := by
  obtain ⟨q, r, hr, hr8, rfl⟩ : ∃ q r, 1 ≤ r ∧ r ≤ 8 ∧ n = 8 * q + r :=
    ⟨(n - 1) / 8, n - 8 * ((n - 1) / 8), by omega, by omega, by omega⟩
  rw [packBits_byte set q hr hr8, packBits_bytes, show (8 * q + r + 7) / 8 = q + 1 by omega,
    natBytes_succ_bitsValue]
  simp

/-! ## Bits into a word -/

/-- `mask |= 1 << bit` for each bit of a list, in an `n`-bit word that
starts at zero. -/
def setBits (n : Nat) (bits : List Nat) : BitVec n :=
  bits.foldl (fun mask bit => mask ||| 1#n <<< bit) 0#n

/-- Setting the `k` bits below `hi ≤ n` from the top down gives
`2 ^ k - 1` shifted up to `hi - k`. -/
theorem toNat_setBits_top {n hi : Nat} (hhi : hi ≤ n) {k : Nat} (hk : k ≤ hi) :
    (setBits n ((List.range k).map fun i => hi - 1 - i)).toNat = (2 ^ k - 1) * 2 ^ (hi - k) := by
  induction k with
  | zero => simp [setBits]
  | succ k ih =>
      have hbit : hi - 1 - k < n := by omega
      unfold setBits at ih ⊢
      rw [List.range_succ, List.map_append, List.foldl_append, List.map_singleton,
        List.foldl_cons, List.foldl_nil, BitVec.toNat_or, ih (by omega), BitVec.toNat_shiftLeft,
        BitVec.toNat_ofNat, Nat.one_mod_two_pow (by omega), Nat.shiftLeft_eq, Nat.one_mul,
        Nat.mod_eq_of_lt (Nat.pow_lt_pow_right (by decide) hbit)]
      -- the bits set so far are all above the new one
      have hb : hi - k = hi - 1 - k + 1 := by omega
      rw [hb, show hi - (k + 1) = hi - 1 - k by omega, Nat.mul_comm,
        ← Nat.two_pow_add_eq_or_of_lt (Nat.pow_lt_pow_right (by decide) (Nat.lt_succ_self _))]
      obtain ⟨a, ha⟩ : ∃ a, 2 ^ k = a + 1 :=
        ⟨2 ^ k - 1, by have := Nat.one_le_two_pow (n := k); omega⟩
      rw [Nat.pow_succ, ha, Nat.pow_succ, ha]
      simp only [Nat.add_sub_cancel]
      rw [show (a + 1) * 2 - 1 = 2 * a + 1 by omega]
      ring

end Stratum.Verified.BitPacking
