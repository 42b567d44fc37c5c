import Stratum.Ports.PipelineProcessor
import Stratum.Verified.Run

/-!
# The header rules of valid conditions

`CollapseValidConditionMap` refuses a map of valid conditions that expects
UDP and its payload differently, two L3 headers valid at once, or two L4
headers valid at once other than UDP with its payload. A map it accepts keeps
these rules, and so does what it returns, which only drops entries. Every
table condition of the pipeline is built by `InsertIfNotConflicting`, so every
one keeps them.

The loop of `CollapseValidConditionMap` sees the entries in hash order; the
results here assume only that the order visits every entry.

Main results:

* `foldlM_collapseStep_found`: every header the loop sees valid is the L3
  header it found, or the L4 header it found or the other half of UDP with
  its payload;
* `headerRulesHold_of_collapseValidConditionMap`: a map the collapse accepts
  keeps the rules, and so does its result;
* `headerRulesHold_foldlM_insertIfNotConflicting`: a map that conditions go
  into one after another keeps the rules.
-/

namespace Stratum.Ports.Pipeline

open Stratum.Ports.Status Stratum.Verified.KeyedSet Stratum.Verified.Run
open Stratum.Ports.BcmUdfManager (P4HeaderType)

/-- UDP and its payload, in either order. -/
def IsUdpPair (a b : P4HeaderType) : Prop :=
  (a = .udp ∧ b = .udpPayload) ∨ (a = .udpPayload ∧ b = .udp)

/-- The rules on a map of valid conditions: UDP and its payload are expected
alike; two headers expected valid are the same header when both are L3, and
the same header or UDP with its payload when both are L4. -/
def HeaderRulesHold (conditions : ValidConditionMap) : Prop :=
  ∀ a ∈ conditions.elems, ∀ b ∈ conditions.elems,
    (a.1 = .udp → b.1 = .udpPayload → a.2 = b.2) ∧
    (a.2 = true → b.2 = true → a.1 ∈ l3Headers → b.1 ∈ l3Headers → a.1 = b.1) ∧
    (a.2 = true → b.2 = true → a.1 ∈ l4Headers → b.1 ∈ l4Headers → a.1 = b.1 ∨ IsUdpPair a.1 b.1)

theorem headerRulesHold_empty : HeaderRulesHold .empty := by
  intro a ha
  simp at ha

/-- The rules hold of every map with fewer entries. -/
theorem HeaderRulesHold.mono {conditions smaller : ValidConditionMap}
    (hrules : HeaderRulesHold conditions) (hsub : ∀ a ∈ smaller.elems, a ∈ conditions.elems) :
    HeaderRulesHold smaller :=
  fun a ha b hb => hrules a (hsub a ha) b (hsub b hb)

/-- Two L4 headers that are each the found one or its UDP partner are the
same or UDP with its payload. -/
theorem l4_rule_of_found {found a b : P4HeaderType} (ha : a = found ∨ IsUdpPair found a)
    (hb : b = found ∨ IsUdpPair found b) : a = b ∨ IsUdpPair a b := by
  unfold IsUdpPair at *
  grind

/-! ## The loop of `CollapseValidConditionMap` -/

theorem unknown_not_mem_l3Headers : P4HeaderType.unknown ∉ l3Headers := by decide

theorem unknown_not_mem_l4Headers : P4HeaderType.unknown ∉ l4Headers := by decide

theorem not_mem_l4Headers_of_mem_l3Headers {header : P4HeaderType} (h : header ∈ l3Headers) :
    header ∉ l4Headers := by
  revert header
  decide

/-- One turn of the loop keeps a header found before it, and the header it
sees valid is the one it has found after it. -/
theorem collapseStep_ok {found found' : P4HeaderType × P4HeaderType} {c : P4HeaderType × Bool}
    (h : collapseStep found c = .ok found') :
    (found.1 ≠ .unknown → found'.1 = found.1) ∧ (found.2 ≠ .unknown → found'.2 = found.2) ∧
      (c.2 = true → (c.1 ∈ l3Headers → c.1 = found'.1) ∧
        (c.1 ∈ l4Headers → c.1 = found'.2 ∨ IsUdpPair found'.2 c.1)) := by
  obtain ⟨header, valid⟩ := c
  unfold collapseStep at h
  dsimp only at h
  split_ifs at h with hinvalid hl3 hfound3 hl4 hfound4 hudp
  · -- an invalid header changes nothing
    cases h
    simp_all
  · -- the first valid L3 header
    cases h
    simp_all [not_mem_l4Headers_of_mem_l3Headers hl3]
  · -- a valid L4 header with UDP or its payload found: the other half
    cases h
    simp_all [IsUdpPair]
  · -- the first valid L4 header
    cases h
    simp_all
  · -- a header that is neither
    cases h
    simp_all

/-- What the loop of `CollapseValidConditionMap` finds: it keeps a header
found before it, and every header it sees valid is the L3 header it found, or
the L4 header it found or the other half of UDP with its payload. -/
theorem foldlM_collapseStep_found :
    ∀ {l : List (P4HeaderType × Bool)} {init found : P4HeaderType × P4HeaderType},
      l.foldlM collapseStep init = .ok found →
      (init.1 ≠ .unknown → found.1 = init.1) ∧ (init.2 ≠ .unknown → found.2 = init.2) ∧
      ∀ c ∈ l, c.2 = true → (c.1 ∈ l3Headers → c.1 = found.1) ∧
        (c.1 ∈ l4Headers → c.1 = found.2 ∨ IsUdpPair found.2 c.1)
  | [], init, found, h => by
    simp only [List.foldlM_nil, pure, Except.pure, Except.ok.injEq] at h
    subst h
    simp
  | c :: l, init, found, h => by
    rw [List.foldlM_cons, bind_eq_ok] at h
    obtain ⟨mid, hstep, hrest⟩ := h
    obtain ⟨hkeep3, hkeep4, hseen⟩ := collapseStep_ok hstep
    obtain ⟨hmid3, hmid4, hrestSeen⟩ := foldlM_collapseStep_found hrest
    refine ⟨fun h3 => (hmid3 (hkeep3 h3 ▸ h3)).trans (hkeep3 h3),
      fun h4 => (hmid4 (hkeep4 h4 ▸ h4)).trans (hkeep4 h4), ?_⟩
    intro c' hc' hvalid
    rcases List.mem_cons.mp hc' with rfl | hc'
    · -- the header of this turn is found from here on
      obtain ⟨hc3, hc4⟩ := hseen hvalid
      constructor
      · intro hl3
        have hfound : mid.1 ≠ .unknown := hc3 hl3 ▸ fun h => unknown_not_mem_l3Headers (h ▸ hl3)
        exact (hc3 hl3).trans (hmid3 hfound).symm
      · intro hl4
        have hfound : mid.2 ≠ .unknown := by
          rintro hunknown
          rcases hc4 hl4 with hc | hc
          · exact unknown_not_mem_l4Headers (hunknown ▸ hc ▸ hl4)
          · simp [IsUdpPair, hunknown] at hc
        rw [hmid4 hfound]
        exact hc4 hl4
    · exact hrestSeen c' hc' hvalid

/-! ## Collapsed maps -/

/-- UDP and its payload are expected alike in a map the UDP check accepts. -/
theorem udp_agree {conditions : ValidConditionMap} (hudp : udpInconsistent conditions = false)
    {a b : P4HeaderType × Bool} (ha : a ∈ conditions.elems) (hb : b ∈ conditions.elems)
    (hudpA : a.1 = .udp) (hpayload : b.1 = .udpPayload) : a.2 = b.2 := by
  have hfindA : conditions.find .udp = some a := KeyedSet.find_eq_some_iff.mpr ⟨ha, hudpA⟩
  have hfindB : conditions.find .udpPayload = some b := KeyedSet.find_eq_some_iff.mpr ⟨hb, hpayload⟩
  simp only [udpInconsistent, hfindA, hfindB, bne_eq_false_iff_eq] at hudp
  exact hudp.symm

section HashOrder

variable {hashOrder : List (P4HeaderType × Bool) → List (P4HeaderType × Bool)}

/-- What a successful collapse is made of: the UDP check passed, the loop
found its headers, and the result keeps only entries of the map. -/
theorem collapseValidConditionMap_ok {conditions result : ValidConditionMap}
    (h : collapseValidConditionMap hashOrder conditions = .ok result) :
    udpInconsistent conditions = false ∧
      (∃ found, (hashOrder conditions.elems).foldlM collapseStep (.unknown, .unknown) = .ok found) ∧
      ∀ a ∈ result.elems, a ∈ conditions.elems := by
  unfold collapseValidConditionMap at h
  cases hudp : udpInconsistent conditions
  · simp only [hudp, Bool.false_eq_true, if_false] at h
    rw [bind_eq_ok] at h
    obtain ⟨found, hfound, h⟩ := h
    simp only [pure, Except.pure, Except.ok.injEq] at h
    subst h
    refine ⟨rfl, ⟨found, hfound⟩, ?_⟩
    -- the result is the map with two rounds of entries filtered out
    intro a ha
    split_ifs at ha <;> simp_all
  · simp only [hudp, if_true] at h
    cases h

variable (hperm : ∀ l, (hashOrder l).Perm l)
include hperm

/-- A map the collapse accepts keeps the header rules, and so does the map it
returns. -/
theorem headerRulesHold_of_collapseValidConditionMap {conditions result : ValidConditionMap}
    (h : collapseValidConditionMap hashOrder conditions = .ok result) :
    HeaderRulesHold conditions ∧ HeaderRulesHold result := by
  obtain ⟨hudp, ⟨found, hloop⟩, hsub⟩ := collapseValidConditionMap_ok h
  obtain ⟨-, -, hseen⟩ := foldlM_collapseStep_found hloop
  -- the loop sees every entry of the map
  have hvisit : ∀ a ∈ conditions.elems, a ∈ hashOrder conditions.elems :=
    fun a ha => (hperm _).mem_iff.mpr ha
  have hrules : HeaderRulesHold conditions := by
    intro a ha b hb
    refine ⟨udp_agree hudp ha hb, ?_, ?_⟩
    · intro hvalidA hvalidB hl3A hl3B
      exact ((hseen a (hvisit a ha) hvalidA).1 hl3A).trans ((hseen b (hvisit b hb) hvalidB).1 hl3B).symm
    · intro hvalidA hvalidB hl4A hl4B
      exact l4_rule_of_found ((hseen a (hvisit a ha) hvalidA).2 hl4A)
        ((hseen b (hvisit b hb) hvalidB).2 hl4B)
  exact ⟨hrules, hrules.mono hsub⟩

/-- `InsertIfNotConflicting` returns a map that keeps the header rules. -/
theorem headerRulesHold_insertIfNotConflicting {destination result : ValidConditionMap}
    {condition : P4HeaderType × Bool}
    (h : insertIfNotConflicting hashOrder destination condition = .ok result) :
    HeaderRulesHold result := by
  unfold insertIfNotConflicting at h
  split_ifs at h
  exact (headerRulesHold_of_collapseValidConditionMap hperm h).2

/-- Conditions inserted one after another into a map that keeps the header
rules give a map that keeps them. -/
theorem headerRulesHold_foldlM_insertIfNotConflicting {l : List (P4HeaderType × Bool)}
    {init result : ValidConditionMap} (hinit : HeaderRulesHold init)
    (h : l.foldlM (insertIfNotConflicting hashOrder) init = .ok result) : HeaderRulesHold result :=
  foldlM_invariant HeaderRulesHold
    (fun _ _ _ _ hstep => headerRulesHold_insertIfNotConflicting hperm hstep) l init result hinit h

end HashOrder

end Stratum.Ports.Pipeline
