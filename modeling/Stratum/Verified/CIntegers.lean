import Mathlib.Data.Nat.Bitwise

/-!
# C++ integer arithmetic

Values of the C++ integer types, held as the bit patterns of their object
representation, with the conversions and the operators that fixed-layout
parsing code uses: the integer promotions, the usual arithmetic conversions
of a binary operator, `|`, `&`, `~` and `<<`.

The semantics is that of the GNU dialects GCC compiles: a conversion to a
signed type reduces modulo `2 ^ width` (implementation-defined in the
standard before C++20, which then adopted it), and a signed left operand of
`<<` shifts as its bit pattern. A shift by the width of the promoted left
operand or more is undefined behaviour, which the model returns as `none`.
Ranks are read off widths: `int` is 32 bits, the 64-bit types rank above it.

Main results:

* `convert_self`, `toInt_ofInt`: conversion is the identity on a value of
  the target type, and `ofInt` keeps a number's residue.
* `shiftLeft_of_lt`, `lor_of_type_eq`, `land_of_type_eq`: the operators on
  operands of one type at least as wide as `int`.
* `or_mul_two_pow_eq_add`, `land_ne_zero_iff`: the two bit facts the
  parsing loops rest on (disjoint `|` is `+`, and testing a sign bit).
-/

namespace Stratum.Verified.CIntegers

/-- A C++ integer type: its width in bits and its signedness. -/
structure IntType where
  width : Nat
  signed : Bool
  deriving DecidableEq, Repr

namespace IntType

/-- `int` and `int32`. -/
def int32 : IntType := ⟨32, true⟩
def int64 : IntType := ⟨64, true⟩
def uint8 : IntType := ⟨8, false⟩
/-- `unsigned int` and `uint32`. -/
def uint32 : IntType := ⟨32, false⟩
def uint64 : IntType := ⟨64, false⟩

/-- `sizeof`, in bytes. -/
def size (t : IntType) : Nat := t.width / 8

/-- The integer promotions: a type narrower than `int` becomes `int`. -/
def promote (t : IntType) : IntType := if t.width < 32 then int32 else t

/-- The type the usual arithmetic conversions bring two promoted operands
to: of two types of one signedness the wider; otherwise the unsigned one,
unless the signed one is wider and so holds all its values. -/
def common (t u : IntType) : IntType :=
  if t.signed = u.signed then (if u.width ≤ t.width then t else u)
  else if t.signed then (if u.width < t.width then t else u)
  else if t.width < u.width then u else t

theorem common_self (t : IntType) : common t t = t := by
  simp [common]

theorem promote_of_le {t : IntType} (ht : 32 ≤ t.width) : t.promote = t := by
  simp only [promote, if_neg (Nat.not_lt.mpr ht)]

/-- The operands meet in one of their own types. -/
theorem common_eq_or (t u : IntType) : common t u = t ∨ common t u = u := by
  unfold common
  split_ifs <;> simp

theorem le_width_common {w : Nat} {t u : IntType} (ht : w ≤ t.width) (hu : w ≤ u.width) :
    w ≤ (common t u).width := by
  rcases common_eq_or t u with h | h <;> rw [h] <;> assumption

end IntType

/-- A value of a C++ integer type, as the bit pattern of its object
representation. -/
@[ext] structure IntValue where
  type : IntType
  pattern : Nat
  pattern_lt : pattern < 2 ^ type.width

namespace IntValue

/-- The value of type `t` congruent to `x` modulo `2 ^ t.width`: the C++
conversion of `x` to `t`. -/
def ofInt (t : IntType) (x : Int) : IntValue :=
  ⟨t, (x % ((2 ^ t.width : Nat) : Int)).toNat, by
    have hpos : (0 : Int) < ((2 ^ t.width : Nat) : Int) := by
      exact_mod_cast Nat.two_pow_pos t.width
    have hlo := Int.emod_nonneg x (Int.ne_of_gt hpos)
    have hhi := Int.emod_lt_of_pos x hpos
    omega⟩

/-- The number a value stands for: its pattern, read in two's complement for
a signed type. -/
def toInt (v : IntValue) : Int :=
  if v.type.signed then Int.bmod v.pattern (2 ^ v.type.width) else v.pattern

/-- The conversion of `v` to the type `t`. -/
def convert (v : IntValue) (t : IntType) : IntValue := ofInt t v.toInt

/-- The integer promotions applied to an operand. -/
def promote (v : IntValue) : IntValue := v.convert v.type.promote

/-- `a | b` after the usual arithmetic conversions. -/
def lor (a b : IntValue) : IntValue :=
  let t := IntType.common a.type.promote b.type.promote
  ⟨t, (a.convert t).pattern ||| (b.convert t).pattern,
    Nat.or_lt_two_pow (a.convert t).pattern_lt (b.convert t).pattern_lt⟩

/-- `a & b` after the usual arithmetic conversions. -/
def land (a b : IntValue) : IntValue :=
  let t := IntType.common a.type.promote b.type.promote
  ⟨t, (a.convert t).pattern &&& (b.convert t).pattern,
    Nat.and_lt_two_pow _ (b.convert t).pattern_lt⟩

/-- `~a`: every bit of the promoted operand flipped. -/
def complement (a : IntValue) : IntValue :=
  ⟨a.promote.type, 2 ^ a.promote.type.width - 1 - a.promote.pattern, by
    have := Nat.two_pow_pos a.promote.type.width
    omega⟩

/-- `a << s`: the promoted operand's pattern shifted, the bits above its
width dropped; `none` when `s` reaches the width. -/
def shiftLeft (a : IntValue) (s : Nat) : Option IntValue :=
  if s < a.promote.type.width then
    some ⟨a.promote.type, a.promote.pattern * 2 ^ s % 2 ^ a.promote.type.width,
      Nat.mod_lt _ (Nat.two_pow_pos _)⟩
  else none

/-! ## Conversions -/

@[simp] theorem type_ofInt (t : IntType) (x : Int) : (ofInt t x).type = t := rfl

@[simp] theorem type_convert (v : IntValue) (t : IntType) : (v.convert t).type = t := rfl

@[simp] theorem type_lor (a b : IntValue) :
    (lor a b).type = IntType.common a.type.promote b.type.promote := rfl

theorem pattern_lor (a b : IntValue) :
    (lor a b).pattern = (a.convert (IntType.common a.type.promote b.type.promote)).pattern |||
      (b.convert (IntType.common a.type.promote b.type.promote)).pattern := rfl

theorem pattern_land (a b : IntValue) :
    (land a b).pattern = (a.convert (IntType.common a.type.promote b.type.promote)).pattern &&&
      (b.convert (IntType.common a.type.promote b.type.promote)).pattern := rfl

theorem pattern_ofInt (t : IntType) (x : Nat) : (ofInt t x).pattern = x % 2 ^ t.width := by
  show ((x : Int) % ((2 ^ t.width : Nat) : Int)).toNat = _
  rw [← Int.natCast_emod, Int.toNat_natCast]

theorem pattern_ofInt_of_lt {t : IntType} {x : Nat} (hx : x < 2 ^ t.width) :
    (ofInt t x).pattern = x := by
  rw [pattern_ofInt, Nat.mod_eq_of_lt hx]

/-- An unsigned value stands for its pattern. -/
theorem toInt_of_unsigned {v : IntValue} (hv : v.type.signed = false) : v.toInt = v.pattern := by
  simp [toInt, hv]

/-- A pattern below the sign bit stands for itself, in either signedness. -/
theorem toInt_of_lt {v : IntValue} (hv : v.pattern < 2 ^ (v.type.width - 1)) :
    v.toInt = v.pattern := by
  unfold toInt
  split
  · rw [Int.bmod_def, Int.emod_eq_of_lt (Int.natCast_nonneg _) (by exact_mod_cast v.pattern_lt),
      if_pos]
    -- the halfway point of `2 ^ width` is `2 ^ (width - 1)`
    have hhalf : ((2 ^ v.type.width : Nat) + 1) / 2 = 2 ^ (v.type.width - 1) := by
      rcases Nat.eq_zero_or_pos v.type.width with hw | hw
      · rw [hw]
        rfl
      · have hpow : 2 ^ v.type.width = 2 * 2 ^ (v.type.width - 1) := by
          rw [← Nat.pow_succ', Nat.succ_eq_add_one, Nat.sub_add_cancel hw]
        rw [hpow]
        omega
    have hhalf' : (((2 ^ v.type.width : Nat) : Int) + 1) / 2 = ((2 ^ (v.type.width - 1) : Nat) : Int) := by
      exact_mod_cast hhalf
    rw [hhalf']
    exact_mod_cast hv
  · rfl

theorem toInt_ofInt (t : IntType) (x : Int) :
    (ofInt t x).toInt = if t.signed then x.bmod (2 ^ t.width) else x % ((2 ^ t.width : Nat) : Int) := by
  have hpos : (0 : Int) < ((2 ^ t.width : Nat) : Int) := by exact_mod_cast Nat.two_pow_pos t.width
  have hcast : ((ofInt t x).pattern : Int) = x % ((2 ^ t.width : Nat) : Int) :=
    Int.toNat_of_nonneg (Int.emod_nonneg x (Int.ne_of_gt hpos))
  unfold toInt
  cases hsigned : t.signed with
  | true =>
      simp only [type_ofInt, hsigned, ↓reduceIte]
      rw [hcast, Int.emod_bmod]
  | false =>
      simp only [type_ofInt, hsigned, Bool.false_eq_true, ↓reduceIte]
      exact hcast

/-- Converting a value to its own type changes nothing. -/
theorem convert_self (v : IntValue) : v.convert v.type = v := by
  have hlt : ((v.pattern : Nat) : Int) < ((2 ^ v.type.width : Nat) : Int) := by
    exact_mod_cast v.pattern_lt
  ext
  · rfl
  · show (v.toInt % ((2 ^ v.type.width : Nat) : Int)).toNat = v.pattern
    unfold toInt
    split
    · rw [Int.bmod_emod, Int.emod_eq_of_lt (Int.natCast_nonneg _) hlt, Int.toNat_natCast]
    · rw [Int.emod_eq_of_lt (Int.natCast_nonneg _) hlt, Int.toNat_natCast]

theorem convert_of_type_eq {v : IntValue} {t : IntType} (h : v.type = t) : v.convert t = v := by
  rw [← h]
  exact convert_self v

/-- Conversion keeps the low `d` bits when both widths reach `d`. -/
theorem pattern_convert_mod {v : IntValue} {t : IntType} {d : Nat} (hv : d ≤ v.type.width)
    (ht : d ≤ t.width) : (v.convert t).pattern % 2 ^ d = v.pattern % 2 ^ d := by
  have hdvd : ∀ {w}, d ≤ w → ((2 ^ d : Nat) : Int) ∣ ((2 ^ w : Nat) : Int) := fun hw =>
    Int.natCast_dvd_natCast.mpr (Nat.pow_dvd_pow 2 hw)
  have hpos : (0 : Int) < ((2 ^ t.width : Nat) : Int) := by exact_mod_cast Nat.two_pow_pos t.width
  have hcast : ((v.convert t).pattern : Int) = v.toInt % ((2 ^ t.width : Nat) : Int) :=
    Int.toNat_of_nonneg (Int.emod_nonneg _ (Int.ne_of_gt hpos))
  -- the number and the pattern agree modulo the value's own width
  have htoInt : v.toInt % ((2 ^ d : Nat) : Int) = (v.pattern : Int) % ((2 ^ d : Nat) : Int) := by
    unfold toInt
    split
    · rw [← Int.emod_emod_of_dvd _ (hdvd hv), Int.bmod_emod, Int.emod_emod_of_dvd _ (hdvd hv)]
    · rfl
  apply Int.ofNat_inj.mp
  rw [Int.natCast_emod, Int.natCast_emod, hcast, Int.emod_emod_of_dvd _ (hdvd ht), htoInt]

/-- A value whose number is its pattern keeps the pattern in a type wide
enough for it. -/
theorem pattern_convert_of_toInt {v : IntValue} {t : IntType} (hv : v.toInt = v.pattern)
    (ht : v.pattern < 2 ^ t.width) : (v.convert t).pattern = v.pattern := by
  rw [convert, hv, pattern_ofInt_of_lt ht]

theorem promote_of_le {v : IntValue} (hv : 32 ≤ v.type.width) : v.promote = v := by
  have hself := convert_self v
  rwa [← IntType.promote_of_le hv] at hself

/-! ## Operators on operands of one wide type -/

theorem shiftLeft_eq (v : IntValue) (s : Nat) :
    shiftLeft v s = if s < v.promote.type.width then
      some (ofInt v.promote.type (v.promote.pattern * 2 ^ s : Nat)) else none := by
  unfold shiftLeft
  split
  · exact congrArg some (IntValue.ext rfl (pattern_ofInt _ _).symm)
  · rfl

theorem shiftLeft_of_lt {v : IntValue} {s : Nat} (hw : 32 ≤ v.type.width) (hs : s < v.type.width) :
    shiftLeft v s = some (ofInt v.type (v.pattern * 2 ^ s : Nat)) := by
  rw [shiftLeft_eq, promote_of_le hw, if_pos hs]

theorem shiftLeft_of_le {v : IntValue} {s : Nat} (hw : 32 ≤ v.type.width) (hs : v.type.width ≤ s) :
    shiftLeft v s = none := by
  rw [shiftLeft_eq, promote_of_le hw, if_neg (Nat.not_lt.mpr hs)]

theorem lor_of_type_eq {a b : IntValue} {t : IntType} (ha : a.type = t) (hb : b.type = t)
    (ht : 32 ≤ t.width) : lor a b = ofInt t (a.pattern ||| b.pattern : Nat) := by
  have hcommon : IntType.common a.type.promote b.type.promote = t := by
    rw [ha, hb, IntType.promote_of_le ht, IntType.common_self]
  have hlt : a.pattern ||| b.pattern < 2 ^ t.width :=
    Nat.or_lt_two_pow (ha ▸ a.pattern_lt) (hb ▸ b.pattern_lt)
  ext
  · exact hcommon
  · show (a.convert _).pattern ||| (b.convert _).pattern = _
    rw [hcommon, pattern_ofInt_of_lt hlt, convert_of_type_eq ha, convert_of_type_eq hb]

theorem land_of_type_eq {a b : IntValue} {t : IntType} (ha : a.type = t) (hb : b.type = t)
    (ht : 32 ≤ t.width) : land a b = ofInt t (a.pattern &&& b.pattern : Nat) := by
  have hcommon : IntType.common a.type.promote b.type.promote = t := by
    rw [ha, hb, IntType.promote_of_le ht, IntType.common_self]
  have hlt : a.pattern &&& b.pattern < 2 ^ t.width := Nat.and_lt_two_pow _ (hb ▸ b.pattern_lt)
  ext
  · exact hcommon
  · show (a.convert _).pattern &&& (b.convert _).pattern = _
    rw [hcommon, pattern_ofInt_of_lt hlt, convert_of_type_eq ha, convert_of_type_eq hb]

theorem pattern_complement {v : IntValue} (hw : 32 ≤ v.type.width) :
    (complement v).pattern = 2 ^ v.type.width - 1 - v.pattern := by
  simp only [complement, promote_of_le hw]

end IntValue

/-! ## Bit facts -/

/-- `|` of a multiple of `2 ^ i` and a number below `2 ^ i` is their sum. -/
theorem or_mul_two_pow_eq_add (a : Nat) {b i : Nat} (hb : b < 2 ^ i) :
    a * 2 ^ i ||| b = a * 2 ^ i + b := by
  rw [← Nat.shiftLeft_eq, Nat.shiftLeft_add_eq_or_of_lt hb]

/-- `|` commutes with a common power-of-two factor. -/
theorem mul_two_pow_or_mul_two_pow (a b s : Nat) :
    a * 2 ^ s ||| b * 2 ^ s = (a ||| b) * 2 ^ s := by
  rw [← Nat.shiftLeft_eq, ← Nat.shiftLeft_eq, ← Nat.shiftLeft_eq, Nat.shiftLeft_or_distrib]

/-- Below `2 ^ (k + 1)`, a mask whose low `k + 1` bits are bit `k` alone tests
whether bit `k`, the top bit, is set. -/
theorem land_ne_zero_iff {v mask k : Nat} (hv : v < 2 ^ (k + 1))
    (hmask : mask % 2 ^ (k + 1) = 2 ^ k) : v &&& mask ≠ 0 ↔ 2 ^ k ≤ v := by
  have hlow : v &&& mask = v &&& 2 ^ k := by
    have hlt : v &&& mask < 2 ^ (k + 1) := lt_of_le_of_lt Nat.and_le_left hv
    rw [← Nat.mod_eq_of_lt hlt, Nat.and_mod_two_pow, Nat.mod_eq_of_lt hv, hmask]
  rw [hlow, Nat.and_two_pow]
  constructor
  · intro hne
    cases htest : v.testBit k with
    | false => simp [htest] at hne
    | true => exact Nat.ge_two_pow_of_testBit htest
  · intro hle
    -- the bits below `k` cannot reach bit `k`
    have hrest : v - 2 ^ k < 2 ^ k := by
      rw [Nat.pow_succ] at hv
      omega
    have htest : v.testBit k = true := by
      rw [show v = 2 ^ k + (v - 2 ^ k) by omega, Nat.testBit_two_pow_add_eq,
        Nat.testBit_lt_two_pow hrest]
      rfl
    simp [htest]

/-- The top `w - s` of `w` bits, or-ed with a number below `2 ^ s`, are
added to it. -/
theorem two_pow_sub_two_pow_or_eq_add {w s v : Nat} (hs : s ≤ w) (hv : v < 2 ^ s) :
    (2 ^ w - 2 ^ s) ||| v = 2 ^ w - 2 ^ s + v := by
  have hmul : 2 ^ w - 2 ^ s = (2 ^ (w - s) - 1) * 2 ^ s := by
    rw [Nat.sub_mul, Nat.one_mul, ← Nat.pow_add, Nat.sub_add_cancel hs]
  rw [hmul, or_mul_two_pow_eq_add _ hv]

/-- The two's-complement reading of `k + 1` bits: below the top bit a number
stands for itself, from the top bit on for itself less `2 ^ (k + 1)`. -/
theorem bmod_two_pow_succ {v k : Nat} (hv : v < 2 ^ (k + 1)) :
    (v : Int).bmod (2 ^ (k + 1)) = if v < 2 ^ k then (v : Int) else v - ((2 ^ (k + 1) : Nat) : Int) := by
  have hpow : 2 ^ (k + 1) = 2 * 2 ^ k := Nat.pow_succ'
  have hlt : (v : Int) < ((2 ^ (k + 1) : Nat) : Int) := by exact_mod_cast hv
  rw [Int.bmod_def, Int.emod_eq_of_lt (Int.natCast_nonneg v) hlt]
  -- the halfway point `(2 ^ (k + 1) + 1) / 2` is `2 ^ k`
  have hhalf : (((2 ^ (k + 1) : Nat) : Int) + 1) / 2 = ((2 ^ k : Nat) : Int) := by
    rw [hpow]
    push_cast
    omega
  rw [hhalf]
  by_cases hsign : v < 2 ^ k
  · rw [if_pos (by exact_mod_cast hsign), if_pos hsign]
  · rw [if_neg (by exact_mod_cast hsign), if_neg hsign]

/-- `(2 ^ w - 1) << s`, reduced to `w` bits: the top `w - s` bits set. -/
theorem ones_mul_two_pow_mod {w s : Nat} (hs : s ≤ w) :
    (2 ^ w - 1) * 2 ^ s % 2 ^ w = 2 ^ w - 2 ^ s := by
  have hle : 2 ^ s ≤ 2 ^ w := Nat.pow_le_pow_right (by decide) hs
  have hpos : 0 < 2 ^ s := Nat.two_pow_pos s
  -- `(2 ^ w - 1) * 2 ^ s = 2 ^ w * (2 ^ s - 1) + (2 ^ w - 2 ^ s)`
  have hsplit : (2 ^ w - 1) * 2 ^ s = (2 ^ w - 2 ^ s) + 2 ^ w * (2 ^ s - 1) := by
    have hwide : 2 ^ w ≤ 2 ^ w * 2 ^ s := Nat.le_mul_of_pos_right _ hpos
    rw [Nat.sub_mul, Nat.one_mul, Nat.mul_sub_one]
    omega
  rw [hsplit, Nat.add_mul_mod_self_left, Nat.mod_eq_of_lt (by omega)]

end Stratum.Verified.CIntegers
