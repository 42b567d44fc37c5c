import Mathlib.Tactic.Ring

/-!
# Fixed-width big-endian digits

Packet headers and SDK keys are strings of digits of a fixed width: bits in
a bit buffer, bytes in a byte string. `fixedDigits base w x` is the `w`
low-order digits of `x` in base `base`, most significant first, and
`digitsValue base ds` the number a digit list denotes. The two are inverse
on digit lists of the width (`fixedDigits_digitsValue`, and
`digitsValue_fixedDigits` up to reduction modulo `base ^ w`).

Main results:

* `fixedDigits_add` — splitting a width splits the digits;
* `digitsValue_append` — the value of a concatenation;
* `flatMap_fixedDigits` — expanding every digit of base `b ^ k` into `k`
  digits of base `b` gives the digits of the same number in base `b`.
-/

namespace Stratum.Verified.Digits

/-- The `w` low-order digits of `x` in base `base`, most significant first. -/
def fixedDigits (base : Nat) : Nat → Nat → List Nat
  | 0, _ => []
  | w + 1, x => fixedDigits base w (x / base) ++ [x % base]

/-- The number a digit list denotes, most significant digit first. -/
def digitsValue (base : Nat) (ds : List Nat) : Nat :=
  ds.foldl (fun acc d => acc * base + d) 0

variable {base : Nat}

@[simp] theorem fixedDigits_zero (x : Nat) : fixedDigits base 0 x = [] := rfl

@[simp] theorem length_fixedDigits (w x : Nat) : (fixedDigits base w x).length = w := by
  induction w generalizing x with
  | zero => rfl
  | succ w ih => simp [fixedDigits, ih]

/-- The digits of a width `u + v`: the `u` digits above the low `v`, then
those. -/
theorem fixedDigits_add (u v x : Nat) :
    fixedDigits base (u + v) x = fixedDigits base u (x / base ^ v) ++ fixedDigits base v x := by
  induction v generalizing x with
  | zero => simp
  | succ v ih =>
      rw [← Nat.add_assoc, fixedDigits, ih, fixedDigits, List.append_assoc, Nat.div_div_eq_div_mul,
        ← Nat.pow_succ']

theorem fixedDigits_of_zero (w : Nat) : fixedDigits base w 0 = List.replicate w 0 := by
  induction w with
  | zero => rfl
  | succ w ih =>
      rw [fixedDigits, Nat.zero_div, ih, Nat.zero_mod, List.replicate_succ']

theorem mem_fixedDigits_lt (hbase : 0 < base) {w x d : Nat} (hd : d ∈ fixedDigits base w x) :
    d < base := by
  induction w generalizing x with
  | zero => cases hd
  | succ w ih =>
      rw [fixedDigits, List.mem_append, List.mem_singleton] at hd
      rcases hd with hd | rfl
      · exact ih hd
      · exact Nat.mod_lt x hbase

/-- Only the low `w` digits of `x` matter. -/
theorem fixedDigits_mod (w x : Nat) : fixedDigits base w (x % base ^ w) = fixedDigits base w x := by
  induction w generalizing x with
  | zero => rfl
  | succ w ih =>
      have hdiv : x % base ^ (w + 1) / base = x / base % base ^ w := by
        rw [Nat.pow_succ', Nat.mod_mul_right_div_self]
      have hmod : x % base ^ (w + 1) % base = x % base := by
        rw [Nat.pow_succ', Nat.mod_mul_right_mod]
      rw [fixedDigits, fixedDigits, hdiv, hmod, ih]

theorem digitsValue_nil : digitsValue base [] = 0 := rfl

/-- A fold of the digit step from a partial value `a`. -/
private theorem foldl_digit (a : Nat) (ds : List Nat) :
    ds.foldl (fun acc d => acc * base + d) a =
      a * base ^ ds.length + ds.foldl (fun acc d => acc * base + d) 0 := by
  induction ds generalizing a with
  | nil => simp
  | cons d ds ih =>
      simp only [List.foldl_cons, List.length_cons]
      rw [ih, ih (0 * base + d)]
      ring

theorem digitsValue_cons (d : Nat) (ds : List Nat) :
    digitsValue base (d :: ds) = d * base ^ ds.length + digitsValue base ds := by
  rw [digitsValue, List.foldl_cons, foldl_digit]
  simp [digitsValue]

theorem digitsValue_append (xs ys : List Nat) :
    digitsValue base (xs ++ ys) = digitsValue base xs * base ^ ys.length + digitsValue base ys := by
  rw [digitsValue, List.foldl_append, foldl_digit]
  rfl

theorem digitsValue_replicate_zero (n : Nat) : digitsValue base (List.replicate n 0) = 0 := by
  induction n with
  | zero => rfl
  | succ n ih => rw [List.replicate_succ, digitsValue_cons, ih]; simp

theorem digitsValue_lt {ds : List Nat} (hds : ∀ d ∈ ds, d < base) :
    digitsValue base ds < base ^ ds.length := by
  induction ds with
  | nil => simp [digitsValue]
  | cons d ds ih =>
      have hd : d < base := hds d List.mem_cons_self
      have hrest := ih fun d' hd' => hds d' (List.mem_cons_of_mem d hd')
      rw [digitsValue_cons, List.length_cons, Nat.pow_succ']
      -- `d * B + rest < (d + 1) * B ≤ base * B` for `B = base ^ ds.length`
      calc d * base ^ ds.length + digitsValue base ds
          < d * base ^ ds.length + base ^ ds.length := Nat.add_lt_add_left hrest _
        _ = (d + 1) * base ^ ds.length := by ring
        _ ≤ base * base ^ ds.length := Nat.mul_le_mul_right _ (Nat.succ_le_of_lt hd)

theorem digitsValue_fixedDigits (w x : Nat) :
    digitsValue base (fixedDigits base w x) = x % base ^ w := by
  induction w generalizing x with
  | zero => simp [digitsValue, Nat.mod_one]
  | succ w ih =>
      rw [fixedDigits, digitsValue_append, ih, List.length_singleton, Nat.pow_one,
        digitsValue_cons]
      simp only [List.length_nil, Nat.pow_zero, Nat.mul_one, digitsValue_nil, Nat.add_zero]
      rw [Nat.pow_succ', Nat.mod_mul]
      ring

/-- A digit list is the digits of its value at its own width. -/
theorem fixedDigits_digitsValue (hbase : 0 < base) {ds : List Nat} (hds : ∀ d ∈ ds, d < base) :
    fixedDigits base ds.length (digitsValue base ds) = ds := by
  induction ds with
  | nil => rfl
  | cons d ds ih =>
      have hd : d < base := hds d List.mem_cons_self
      have hrest : ∀ d' ∈ ds, d' < base := fun d' hd' => hds d' (List.mem_cons_of_mem d hd')
      have hlt := digitsValue_lt hrest
      rw [List.length_cons, Nat.add_comm, fixedDigits_add, digitsValue_cons]
      have hhigh : (d * base ^ ds.length + digitsValue base ds) / base ^ ds.length = d := by
        rw [Nat.add_comm, Nat.add_mul_div_right _ _ (Nat.pow_pos hbase),
          Nat.div_eq_of_lt hlt, Nat.zero_add]
      have hlow : (d * base ^ ds.length + digitsValue base ds) % base ^ ds.length =
          digitsValue base ds := by
        rw [Nat.add_comm, Nat.add_mul_mod_self_right, Nat.mod_eq_of_lt hlt]
      have hlowDigits :
          fixedDigits base ds.length (d * base ^ ds.length + digitsValue base ds) = ds := by
        rw [← fixedDigits_mod, hlow, ih hrest]
      rw [hhigh, hlowDigits]
      simp [fixedDigits, Nat.mod_eq_of_lt hd]

/-- The digits are all zero exactly when `x` is a multiple of `base ^ w`. -/
theorem forall_mem_fixedDigits_eq_zero_iff (w x : Nat) :
    (∀ d ∈ fixedDigits base w x, d = 0) ↔ x % base ^ w = 0 := by
  constructor
  · intro hzero
    have hrep : fixedDigits base w x = List.replicate w 0 :=
      List.eq_replicate_iff.mpr ⟨length_fixedDigits w x, hzero⟩
    rw [← digitsValue_fixedDigits w x, hrep, digitsValue_replicate_zero]
  · intro hmod d hd
    rw [← fixedDigits_mod, hmod, fixedDigits_of_zero] at hd
    exact List.eq_of_mem_replicate hd

/-- Padding a number that fits `v` digits to `u + v` digits puts zeros in
front. -/
theorem fixedDigits_add_of_lt {u v x : Nat} (hx : x < base ^ v) :
    fixedDigits base (u + v) x = List.replicate u 0 ++ fixedDigits base v x := by
  rw [fixedDigits_add, Nat.div_eq_of_lt hx, fixedDigits_of_zero]

/-- Digits of base `b ^ k`, each expanded into `k` digits of base `b`. -/
theorem flatMap_fixedDigits (hbase : 0 < base) (k : Nat) {ds : List Nat}
    (hds : ∀ d ∈ ds, d < base ^ k) :
    ds.flatMap (fixedDigits base k) =
      fixedDigits base (k * ds.length) (digitsValue (base ^ k) ds) := by
  induction ds with
  | nil => simp
  | cons d ds ih =>
      have hd : d < base ^ k := hds d List.mem_cons_self
      have hrest : ∀ d' ∈ ds, d' < base ^ k := fun d' hd' => hds d' (List.mem_cons_of_mem d hd')
      have hlt := digitsValue_lt hrest
      have hpow : base ^ (k * ds.length) = (base ^ k) ^ ds.length := Nat.pow_mul base k ds.length
      rw [List.flatMap_cons, ih hrest, List.length_cons, Nat.mul_succ, Nat.add_comm (k * _),
        fixedDigits_add, digitsValue_cons, hpow]
      have hhigh : (d * (base ^ k) ^ ds.length + digitsValue (base ^ k) ds) /
          (base ^ k) ^ ds.length = d := by
        rw [Nat.add_comm, Nat.add_mul_div_right _ _ (Nat.pow_pos (Nat.pow_pos hbase)),
          Nat.div_eq_of_lt hlt, Nat.zero_add]
      have hlow : (d * (base ^ k) ^ ds.length + digitsValue (base ^ k) ds) %
          (base ^ k) ^ ds.length = digitsValue (base ^ k) ds := by
        rw [Nat.add_comm, Nat.add_mul_mod_self_right, Nat.mod_eq_of_lt hlt]
      have hlowDigits : fixedDigits base (k * ds.length)
          (d * (base ^ k) ^ ds.length + digitsValue (base ^ k) ds) =
          fixedDigits base (k * ds.length) (digitsValue (base ^ k) ds) := by
        rw [← fixedDigits_mod, hpow, hlow]
      rw [hhigh, hlowDigits]

end Stratum.Verified.Digits
