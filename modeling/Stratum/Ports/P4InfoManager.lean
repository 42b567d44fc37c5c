import Stratum.Ports.Status
import Stratum.Ports.P4Runtime

/-!
# Type checks of register data in `P4InfoManager`

`P4InfoManager::VerifyRegisterEntry` (`stratum/hal/lib/p4/p4_info_manager.cc`)
checks the `P4Data` of a register entry against the register's
`P4DataTypeSpec` with `VerifyTypeSpec`, which walks tuples member by member
and checks each bitstring leaf against the width of its `bit<w>`, `int<w>` or
`varbit<w>` type by `RET_CHECK(data.bitstring().size() * 8 <= bit_width)`.

P4Runtime encodes a `w`-bit value on at most `⌈w / 8⌉` bytes. The check
allows only `⌊w / 8⌋`: for a width that is not a multiple of 8 it rejects
every string of `⌈w / 8⌉` bytes, hence every value from `2 ^ (8 * ⌊w / 8⌋)` on,
however it is written.

Main results:

* `verifyTypeSpec_bitstring_eq_ok_iff`, `verifyTypeSpec_tuple_eq_ok_iff` —
  what the check accepts, leaf by leaf;
* `bitstring_fits_iff_of_dvd` — for widths that are multiples of 8 the
  length test is the value test;
* `verifyTypeSpec_rejects_of_le_value` — every value from
  `2 ^ (8 * ⌊w / 8⌋)` on is rejected.
-/

namespace Stratum.Ports.P4InfoManager

open Stratum.Ports.Status Stratum.Ports.P4Runtime Stratum.Verified.BigEndian

/-- The width `VerifyTypeSpec` reads from a bitstring type: that of `bit<w>`
and `int<w>`, the maximum of `varbit<w>`. -/
def bitstringWidth : P4BitstringLikeTypeSpec → StatusOr Nat
  | .bit bitwidth | .int bitwidth => .ok bitwidth
  | .varbit maxBitwidth => .ok maxBitwidth
  | .notSet => .error ⟨.errUnimplemented, "Not implemented."⟩

mutual

/-- `P4InfoManager::VerifyTypeSpec`. -/
def verifyTypeSpec : P4Data → P4DataTypeSpec → StatusOr Unit
  | .bitstring bytes, typeSpec =>
      match typeSpec with
      | .bitstring spec => do
          let bitWidth ← bitstringWidth spec
          retCheck (decide (bytes.length * 8 ≤ bitWidth)) ""
      | _ => retCheck false "The type spec does not specify a bitstring type for P4Data ."
  | .tuple members, typeSpec =>
      match typeSpec with
      | .tuple specs => do
          retCheck (members.length == specs.length) ""
          verifyTupleMembers members specs
      | _ => retCheck false "The type spec does not specify a tuple type for P4Data ."
  | .other dataCase, _ =>
      .error ⟨.errUnimplemented,
        "P4data type " ++ toString dataCase ++ " in P4Data  is not supported."⟩

/-- The loop of `VerifyTypeSpec` over the members of a tuple, each against
the type of the same index; it runs after the sizes were checked equal. -/
def verifyTupleMembers : List P4Data → List P4DataTypeSpec → StatusOr Unit
  | data :: members, spec :: specs => do
      verifyTypeSpec data spec
      verifyTupleMembers members specs
  | _, _ => .ok ()

end

/-! ## What the check accepts -/

theorem verifyTypeSpec_bitstring_eq_ok_iff (bytes : ByteString)
    (spec : P4BitstringLikeTypeSpec) :
    verifyTypeSpec (.bitstring bytes) (.bitstring spec) = .ok () ↔
      ∃ bitWidth, bitstringWidth spec = .ok bitWidth ∧ bytes.length * 8 ≤ bitWidth := by
  simp only [verifyTypeSpec]
  cases hwidth : bitstringWidth spec with
  | error e => simp [bind, Except.bind]
  | ok bitWidth =>
      simp only [bind, Except.bind, Except.ok.injEq, exists_eq_left']
      rw [retCheck_eq_ok, decide_eq_true_iff]

theorem verifyTypeSpec_tuple_eq_ok_iff (members : List P4Data) (specs : List P4DataTypeSpec) :
    verifyTypeSpec (.tuple members) (.tuple specs) = .ok () ↔
      members.length = specs.length ∧ verifyTupleMembers members specs = .ok () := by
  simp only [verifyTypeSpec]
  rw [retCheck_bind_eq_ok, beq_iff_eq]

/-- The members pass exactly when each passes against its type. -/
theorem verifyTupleMembers_eq_ok_iff :
    ∀ (members : List P4Data) (specs : List P4DataTypeSpec),
      verifyTupleMembers members specs = .ok () ↔
        ∀ pair ∈ members.zip specs, verifyTypeSpec pair.1 pair.2 = .ok ()
  | [], _ => by simp [verifyTupleMembers]
  | _ :: _, [] => by simp [verifyTupleMembers]
  | data :: members, spec :: specs => by
      rw [verifyTupleMembers, List.zip_cons_cons, List.forall_mem_cons,
        ← verifyTupleMembers_eq_ok_iff members specs]
      cases verifyTypeSpec data spec <;> simp [bind, Except.bind]

/-! ## The length test against the value test -/

/-- For a width that is a multiple of 8 the length test is the P4Runtime rule:
at most `⌈w / 8⌉` bytes with a value below `2 ^ w`. -/
theorem bitstring_fits_iff_of_dvd {bitWidth : Nat} (hw : bitWidth % 8 = 0) (bytes : ByteString) :
    bytes.length * 8 ≤ bitWidth ↔
      bytes.length ≤ (bitWidth + 7) / 8 ∧ value bytes < 2 ^ bitWidth := by
  constructor
  · intro hlen
    refine ⟨by omega, ?_⟩
    calc value bytes < 256 ^ bytes.length := value_lt bytes
      _ = 2 ^ (8 * bytes.length) := by rw [Nat.pow_mul]
      _ ≤ 2 ^ bitWidth := Nat.pow_le_pow_right (by decide) (by omega)
  · rintro ⟨hlen, -⟩
    omega

/-- A value from `2 ^ (8 * ⌊w / 8⌋)` on needs more than `⌊w / 8⌋` bytes, so
no string of it passes the check. -/
theorem verifyTypeSpec_rejects_of_le_value {bytes : ByteString} {spec : P4BitstringLikeTypeSpec}
    {bitWidth : Nat} (hwidth : bitstringWidth spec = .ok bitWidth)
    (hvalue : 2 ^ (8 * (bitWidth / 8)) ≤ value bytes) :
    verifyTypeSpec (.bitstring bytes) (.bitstring spec) ≠ .ok () := by
  intro hok
  obtain ⟨bitWidth', hwidth', hlen⟩ := (verifyTypeSpec_bitstring_eq_ok_iff bytes spec).mp hok
  rw [hwidth] at hwidth'
  cases hwidth'
  -- the string has at most `⌊w / 8⌋` bytes, so its value is below the bound
  have hshort : value bytes < 2 ^ (8 * (bitWidth / 8)) :=
    calc value bytes < 256 ^ bytes.length := value_lt bytes
      _ = 2 ^ (8 * bytes.length) := by rw [Nat.pow_mul]
      _ ≤ 2 ^ (8 * (bitWidth / 8)) := Nat.pow_le_pow_right (by decide) (by omega)
  omega

/-- A 9-bit register and the value `256`, written canonically as the two
bytes `01 00`: it fits nine bits and two bytes, and the check rejects it. -/
theorem register_value_256_of_9_bits_rejected :
    value [1, 0] = 256 ∧ 256 < 2 ^ 9 ∧ [(1 : UInt8), 0].length ≤ (9 + 7) / 8 ∧
      verifyTypeSpec (.bitstring [1, 0]) (.bitstring (.bit 9)) = .error ⟨.errInvalidParam, ""⟩ :=
  ⟨by decide, by decide, by decide, rfl⟩

end Stratum.Ports.P4InfoManager
