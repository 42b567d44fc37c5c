import Mathlib.Data.List.Nodup

set_option linter.dupNamespace false

/-!
# Sets of values told apart by a key

A hash set whose hash and equality functors read only a key of its values
holds at most one value per key: inserting a value whose key is there leaves
the set as it is and reports it, and erasing a value removes the one value
with its key. `KeyedSet key` is such a set, kept as the list of its values in
the order they were inserted, with the distinctness of their keys as a field:
no value of the type holds two values with one key.

Undoing a batch of insertions by erasing, one by one, the values it
inserted gives back the set from before the batch; this is what a rollback
of a failed batch rests on.

Main results:

* `insert_of_mem`, `elems_insert_of_not_mem` — what an insertion does to the
  values, and `insert_snd_eq_true_iff` what it reports;
* `mem_keys_insert` — the keys after an insertion;
* `erase_elems_append_cons` — erasing a value removes exactly it;
* `eraseAll_elems_append` — erasing the values appended after `l`, in any
  state reached by appending them, gives back `l`;
* `find_eq_some_iff` — looking a key up finds the one value with it.
-/

namespace Stratum.Verified.KeyedSet

variable {α κ : Type}

/-- A finite set of values with distinct keys, in insertion order. -/
@[ext] structure KeyedSet (key : α → κ) where
  elems : List α
  nodup_keys : (elems.map key).Nodup

variable {key : α → κ}

namespace KeyedSet

/-- The set with no value. -/
def empty : KeyedSet key := ⟨[], List.nodup_nil⟩

/-- The keys of the values of the set. -/
def keys (s : KeyedSet key) : List κ := s.elems.map key

@[simp] theorem elems_empty : (empty : KeyedSet key).elems = [] := rfl

@[simp] theorem keys_eq (s : KeyedSet key) : s.keys = s.elems.map key := rfl

/-- The values that pass a test, as a set. -/
def filter (s : KeyedSet key) (p : α → Bool) : KeyedSet key :=
  ⟨s.elems.filter p, s.nodup_keys.sublist (List.filter_sublist.map key)⟩

@[simp] theorem elems_filter (s : KeyedSet key) (p : α → Bool) :
    (s.filter p).elems = s.elems.filter p := rfl

variable [DecidableEq κ]

/-- `insert`: the set with `a` added unless a value with its key is there,
and whether `a` was added. -/
def insert (s : KeyedSet key) (a : α) : KeyedSet key × Bool :=
  if h : key a ∈ s.keys then (s, false)
  else
    (⟨s.elems ++ [a], by
      rw [List.map_append, List.nodup_append]
      refine ⟨s.nodup_keys, List.nodup_singleton _, ?_⟩
      simpa [keys] using fun b hb heq => h (List.mem_map.mpr ⟨b, hb, heq⟩)⟩,
      true)

/-- `erase`: the set without the value that has the key of `a`. -/
def erase (s : KeyedSet key) (a : α) : KeyedSet key :=
  ⟨s.elems.filter fun b => key b ≠ key a,
    s.nodup_keys.sublist (List.filter_sublist.map key)⟩

instance [DecidableEq α] : DecidableEq (KeyedSet key) := fun s t =>
  decidable_of_iff (s.elems = t.elems) KeyedSet.ext_iff.symm

@[simp] theorem elems_erase (s : KeyedSet key) (a : α) :
    (s.erase a).elems = s.elems.filter fun b => key b ≠ key a := rfl

/-! ## Insertion -/

theorem insert_of_mem {s : KeyedSet key} {a : α} (h : key a ∈ s.keys) : s.insert a = (s, false) :=
  dif_pos h

theorem elems_insert_of_not_mem {s : KeyedSet key} {a : α} (h : key a ∉ s.keys) :
    (s.insert a).1.elems = s.elems ++ [a] := by
  rw [insert, dif_neg h]

theorem insert_snd_eq_true_iff (s : KeyedSet key) (a : α) :
    (s.insert a).2 = true ↔ key a ∉ s.keys := by
  by_cases h : key a ∈ s.keys
  · simp only [insert_of_mem h, Bool.false_eq_true, false_iff, not_not]
    exact h
  · simp only [insert, dif_neg h]
    exact ⟨fun _ => h, fun _ => trivial⟩

theorem mem_keys_insert (s : KeyedSet key) (a : α) (k : κ) :
    k ∈ (s.insert a).1.keys ↔ k ∈ s.keys ∨ k = key a := by
  by_cases h : key a ∈ s.keys
  · rw [insert_of_mem h]
    constructor
    · exact Or.inl
    · rintro (hk | rfl)
      · exact hk
      · exact h
  · rw [keys_eq, elems_insert_of_not_mem h, List.map_append, List.mem_append]
    simp

/-! ## Erasing what was inserted -/

/-- With distinct keys, the value `a` is the only one with its key. -/
theorem erase_elems_append_cons (s : KeyedSet key) {l rest : List α} {a : α}
    (h : s.elems = l ++ a :: rest) : (s.erase a).elems = l ++ rest := by
  have hnodup := s.nodup_keys
  rw [h, List.map_append, List.map_cons, List.nodup_append, List.nodup_cons] at hnodup
  obtain ⟨-, ⟨hrest, -⟩, hdisj⟩ := hnodup
  have hl : ∀ b ∈ l, key b ≠ key a := fun b hb =>
    hdisj (key b) (List.mem_map_of_mem hb) (key a) List.mem_cons_self
  have hr : ∀ b ∈ rest, key b ≠ key a := fun b hb heq =>
    hrest (heq ▸ List.mem_map_of_mem hb)
  rw [elems_erase, h, List.filter_append, List.filter_cons_of_neg (by simp),
    List.filter_eq_self.mpr (by simpa using hl), List.filter_eq_self.mpr (by simpa using hr)]

/-- Erasing, first to last, the values appended after `l` gives back `l`. -/
theorem eraseAll_elems_append :
    ∀ (new : List α) (s : KeyedSet key) {l : List α}, s.elems = l ++ new →
      (new.foldl erase s).elems = l
  | [], s, l, h => by simpa using h
  | a :: rest, s, l, h => by
      rw [List.foldl_cons]
      exact eraseAll_elems_append rest (s.erase a) (erase_elems_append_cons s h)

/-! ## Looking up -/

/-- `find`: the value with the key `k`, if there is one. -/
def find (s : KeyedSet key) (k : κ) : Option α := s.elems.find? fun a => key a == k

/-- With distinct keys, the value found is the one value with the key. -/
theorem find_eq_some_iff {s : KeyedSet key} {k : κ} {a : α} :
    s.find k = some a ↔ a ∈ s.elems ∧ key a = k := by
  constructor
  · intro h
    exact ⟨List.mem_of_find?_eq_some h, by simpa using List.find?_some h⟩
  · rintro ⟨ha, rfl⟩
    cases hfind : s.find (key a) with
    | none =>
      rw [find, List.find?_eq_none] at hfind
      exact absurd (beq_self_eq_true (key a)) (hfind a ha)
    | some b =>
      have hb : b ∈ s.elems := List.mem_of_find?_eq_some hfind
      have hkey : key b = key a := by simpa using List.find?_some hfind
      rw [List.inj_on_of_nodup_map s.nodup_keys hb ha hkey]

end KeyedSet

end Stratum.Verified.KeyedSet
