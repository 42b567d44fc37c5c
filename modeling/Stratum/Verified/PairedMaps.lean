import Mathlib.Logic.Function.Basic
import Mathlib.Data.List.Nodup

/-!
# Paired partial maps

Two partial maps written together: inserting `(a, b)` sets `a ↦ b` in the
forward map and `b ↦ a` in the reverse one. Keys of the forward map may be
written again, so the reverse map can keep stale entries; what survives is
that the reverse map inverts the forward one on every key whose value was
written by an insertion, as long as no two insertions write the same value.

Main results:

* `InverseOn.insert` — one insertion keeps the inverse property when no other
  kept key maps to the new value;
* `inverseOn_insertAll` — so does a list of insertions with distinct values,
  none of them already a value of a kept key;
* `fwd_insertAll_of_mem` — with distinct keys, every inserted pair is looked
  up;
* `fwd_insertAll_cases` — every forward value after a list of insertions was
  there before or was inserted;
* `ValuesDistinct.update_some`, `ValuesDistinct.update_none` — a partial map
  whose keys have distinct values keeps them distinct when a key is set to a
  value no key has, or removed;
* `insertAllIfAbsent_apply` — a map filled first-wins (`InsertIfNotPresent`)
  holds the first value listed for each key;
* `insertAllIfAbsent_swap_eq_some_iff` — two such indexes of one list of
  records, by two components that are each distinct, agree;
* `lookup_map_of_fst_eq` — changing the entries of an association list in
  place, keys kept, changes what each key looks up accordingly.
-/

namespace Stratum.Verified.PairedMaps

open Function

/-- A forward and a reverse partial map. -/
structure Maps (α β : Type*) where
  fwd : α → Option β
  rev : β → Option α

variable {α β : Type*} [DecidableEq α] [DecidableEq β]

/-- Insert `a ↦ b` forward and `b ↦ a` backward. -/
def Maps.insert (m : Maps α β) (a : α) (b : β) : Maps α β :=
  ⟨update m.fwd a (some b), update m.rev b (some a)⟩

/-- Insert a list of pairs, first to last. -/
def Maps.insertAll (m : Maps α β) (pairs : List (α × β)) : Maps α β :=
  pairs.foldl (fun m p => m.insert p.1 p.2) m

/-- The reverse map sends the value of every kept key back to it. -/
def Maps.InverseOn (m : Maps α β) (keep : α → Prop) : Prop :=
  ∀ a b, keep a → m.fwd a = some b → m.rev b = some a

@[simp] theorem Maps.insertAll_nil (m : Maps α β) : m.insertAll [] = m := rfl

@[simp] theorem Maps.insertAll_cons (m : Maps α β) (p : α × β)
    (pairs : List (α × β)) : m.insertAll (p :: pairs) = (m.insert p.1 p.2).insertAll pairs := rfl

theorem Maps.insertAll_append (m : Maps α β) (pairs pairs' : List (α × β)) :
    m.insertAll (pairs ++ pairs') = (m.insertAll pairs).insertAll pairs' := by
  unfold Maps.insertAll
  rw [List.foldl_append]

theorem Maps.fwd_insert (m : Maps α β) (a a' : α) (b : β) :
    (m.insert a b).fwd a' = if a' = a then some b else m.fwd a' := by
  simp [Maps.insert, update_apply]

/-- Inserting `(a, b)` keeps the inverse property when no other kept key maps
to `b`. -/
theorem Maps.InverseOn.insert {m : Maps α β} {keep : α → Prop}
    (h : m.InverseOn keep) {a : α} {b : β}
    (hfresh : ∀ a', keep a' → a' ≠ a → m.fwd a' ≠ some b) : (m.insert a b).InverseOn keep := by
  intro a' b' hkeep hfwd
  rw [Maps.fwd_insert] at hfwd
  by_cases ha : a' = a
  · -- the inserted pair itself
    rw [if_pos ha] at hfwd
    cases hfwd
    simp [Maps.insert, ha]
  · -- an older pair, whose value differs from `b`
    rw [if_neg ha] at hfwd
    have hb : b' ≠ b := by
      intro hb
      exact hfresh a' hkeep ha (hb ▸ hfwd)
    simp only [Maps.insert, update_apply, if_neg hb]
    exact h a' b' hkeep hfwd

/-- Keys no pair writes keep their forward value. -/
theorem Maps.fwd_insertAll_of_not_mem :
    ∀ (pairs : List (α × β)) (m : Maps α β) {a : α}, a ∉ pairs.map Prod.fst →
      (m.insertAll pairs).fwd a = m.fwd a
  | [], _, _, _ => rfl
  | p :: pairs, m, a, ha => by
      have hne : a ≠ p.1 := fun h => ha (h ▸ List.mem_cons_self)
      have hrest : a ∉ pairs.map Prod.fst := fun h => ha (List.mem_cons_of_mem _ h)
      rw [Maps.insertAll_cons, fwd_insertAll_of_not_mem pairs _ hrest,
        Maps.fwd_insert, if_neg hne]

/-- With distinct keys, every inserted pair is what the forward map holds. -/
theorem Maps.fwd_insertAll_of_mem :
    ∀ (pairs : List (α × β)) (m : Maps α β) {a : α} {b : β},
      (pairs.map Prod.fst).Nodup → (a, b) ∈ pairs → (m.insertAll pairs).fwd a = some b
  | [], _, _, _, _, hmem => absurd hmem List.not_mem_nil
  | p :: pairs, m, a, b, hnodup, hmem => by
      rw [List.map_cons, List.nodup_cons] at hnodup
      rw [Maps.insertAll_cons]
      rcases List.mem_cons.mp hmem with rfl | hrest
      · -- the pair is the first one, and no later pair writes its key
        rw [fwd_insertAll_of_not_mem pairs _ hnodup.1, Maps.fwd_insert, if_pos rfl]
      · exact fwd_insertAll_of_mem pairs _ hnodup.2 hrest

/-- A forward value after a list of insertions was there before or was
inserted. -/
theorem Maps.fwd_insertAll_cases :
    ∀ (pairs : List (α × β)) (m : Maps α β) {a : α} {b : β},
      (m.insertAll pairs).fwd a = some b → (a, b) ∈ pairs ∨ m.fwd a = some b
  | [], _, _, _, h => Or.inr h
  | p :: pairs, m, a, b, h => by
      rw [Maps.insertAll_cons] at h
      rcases fwd_insertAll_cases pairs _ h with hmem | hfwd
      · exact Or.inl (List.mem_cons_of_mem _ hmem)
      · rw [Maps.fwd_insert] at hfwd
        by_cases ha : a = p.1
        · rw [if_pos ha] at hfwd
          cases hfwd
          left
          rw [ha]
          exact List.mem_cons_self
        · rw [if_neg ha] at hfwd
          exact Or.inr hfwd

/-- Insertions with distinct values, none of them already the value of a kept
key, keep the inverse property. -/
theorem Maps.inverseOn_insertAll {keep : α → Prop} :
    ∀ (pairs : List (α × β)) (m : Maps α β), m.InverseOn keep →
      (pairs.map Prod.snd).Nodup →
      (∀ a b, keep a → m.fwd a = some b → b ∉ pairs.map Prod.snd) →
      (m.insertAll pairs).InverseOn keep
  | [], _, h, _, _ => h
  | p :: pairs, m, h, hnodup, hfresh => by
      rw [List.map_cons, List.nodup_cons] at hnodup
      rw [Maps.insertAll_cons]
      have hfirst : (m.insert p.1 p.2).InverseOn keep := by
        apply h.insert
        intro a' hkeep _ hfwd
        exact hfresh a' p.2 hkeep hfwd List.mem_cons_self
      apply inverseOn_insertAll pairs _ hfirst hnodup.2
      intro a b hkeep hfwd
      rw [Maps.fwd_insert] at hfwd
      by_cases ha : a = p.1
      · -- the first pair's value is not written again
        rw [if_pos ha] at hfwd
        cases hfwd
        exact hnodup.1
      · rw [if_neg ha] at hfwd
        exact fun hmem => hfresh a b hkeep hfwd (List.mem_cons_of_mem _ hmem)

/-! ## Partial maps whose values are distinct -/

/-- No two keys of a partial map have the same value. -/
def ValuesDistinct (f : α → Option β) : Prop :=
  ∀ a a' b, f a = some b → f a' = some b → a = a'

omit [DecidableEq β] in
/-- Setting a key to a value no key has keeps the values distinct. -/
theorem ValuesDistinct.update_some {f : α → Option β} (hf : ValuesDistinct f) {a : α} {b : β}
    (hfresh : ∀ a', f a' ≠ some b) : ValuesDistinct (update f a (some b)) := by
  intro x x' c hx hx'
  by_cases hxa : x = a <;> by_cases hx'a : x' = a
  · rw [hxa, hx'a]
  · -- only `a` has the new value
    rw [hxa, update_self] at hx
    rw [update_of_ne hx'a, ← hx] at hx'
    exact absurd hx' (hfresh x')
  · rw [hx'a, update_self] at hx'
    rw [update_of_ne hxa, ← hx'] at hx
    exact absurd hx (hfresh x)
  · rw [update_of_ne hxa] at hx
    rw [update_of_ne hx'a] at hx'
    exact hf x x' c hx hx'

omit [DecidableEq β] in
/-- Removing a key keeps the values distinct. -/
theorem ValuesDistinct.update_none {f : α → Option β} (hf : ValuesDistinct f) (a : α) :
    ValuesDistinct (update f a none) := by
  intro x x' c hx hx'
  have hxa : x ≠ a := by
    rintro rfl
    rw [update_self] at hx
    cases hx
  have hx'a : x' ≠ a := by
    rintro rfl
    rw [update_self] at hx'
    cases hx'
  rw [update_of_ne hxa] at hx
  rw [update_of_ne hx'a] at hx'
  exact hf x x' c hx hx'

/-! ## Indexes filled first-wins -/

/-- Map `a ↦ b` unless `a` is mapped already: the first value written for a
key stays. -/
def insertIfAbsent (f : α → Option β) (a : α) (b : β) : α → Option β :=
  if (f a).isSome then f else update f a (some b)

/-- Insert a list of pairs with `insertIfAbsent`, first to last. -/
def insertAllIfAbsent (f : α → Option β) (pairs : List (α × β)) : α → Option β :=
  pairs.foldl (fun f p => insertIfAbsent f p.1 p.2) f

omit [DecidableEq β] in
theorem insertIfAbsent_apply (f : α → Option β) (a a' : α) (b : β) :
    insertIfAbsent f a b a' = (f a').or (if a' = a then some b else none) := by
  by_cases ha : a' = a
  · -- the inserted key: its old value, if it has one, stays
    subst ha
    cases hf : f a' <;> simp [insertIfAbsent, hf]
  · simp only [insertIfAbsent, if_neg ha, Option.or_none]
    split
    · rfl
    · exact update_of_ne ha _ _

omit [DecidableEq β] in
theorem insertAllIfAbsent_append (f : α → Option β) (pairs pairs' : List (α × β)) :
    insertAllIfAbsent f (pairs ++ pairs') = insertAllIfAbsent (insertAllIfAbsent f pairs) pairs' :=
  List.foldl_append

omit [DecidableEq β] in
/-- After the insertions a key has its old value, and otherwise the first
value inserted for it. -/
theorem insertAllIfAbsent_apply (f : α → Option β) (pairs : List (α × β)) (a : α) :
    insertAllIfAbsent f pairs a = (f a).or (pairs.lookup a) := by
  induction pairs generalizing f with
  | nil => exact Option.or_none.symm
  | cons p pairs ih =>
      obtain ⟨k, b⟩ := p
      have hcons : ((k, b) :: pairs).lookup a =
          (if a = k then some b else none).or (pairs.lookup a) := by
        by_cases ha : a = k
        · simp [ha]
        · rw [List.lookup_cons, beq_false_of_ne ha, if_neg ha, Option.none_or]
      rw [hcons, ← Option.or_assoc, ← insertIfAbsent_apply]
      exact ih (insertIfAbsent f k b)

omit [DecidableEq β] in
/-- With distinct keys, a lookup finds exactly the listed pairs. -/
theorem lookup_eq_some_iff_mem :
    ∀ {pairs : List (α × β)}, (pairs.map Prod.fst).Nodup →
      ∀ {a : α} {b : β}, pairs.lookup a = some b ↔ (a, b) ∈ pairs
  | [], _, _, _ => by simp
  | (k, v) :: pairs, hnodup, a, b => by
      rw [List.map_cons, List.nodup_cons] at hnodup
      rw [List.lookup_cons, List.mem_cons]
      by_cases ha : a = k
      · -- the first pair; its key is not listed again
        subst ha
        have hrest : (a, b) ∉ pairs := fun hmem => hnodup.1 (List.mem_map.mpr ⟨(a, b), hmem, rfl⟩)
        simp [hrest, eq_comm]
      · have hne : (a == k) = false := beq_false_of_ne ha
        simp only [hne, Prod.mk.injEq, ha, false_and, false_or]
        exact lookup_eq_some_iff_mem hnodup.2

omit [DecidableEq β] in
theorem insertAllIfAbsent_none_eq_some_iff {pairs : List (α × β)}
    (h : (pairs.map Prod.fst).Nodup) {a : α} {b : β} :
    insertAllIfAbsent (fun _ => none) pairs a = some b ↔ (a, b) ∈ pairs := by
  rw [insertAllIfAbsent_apply, Option.none_or, lookup_eq_some_iff_mem h]

omit [DecidableEq β] in
/-- A first-wins index of records by a key that is distinct among them finds
every record at its key. -/
theorem insertAllIfAbsent_none_key {key : β → α} {records : List β} (h : (records.map key).Nodup)
    {r : β} (hr : r ∈ records) :
    insertAllIfAbsent (fun _ => none) (records.map fun r => (key r, r)) (key r) = some r := by
  have hpairs : ((records.map fun r => (key r, r)).map Prod.fst).Nodup := by
    rw [List.map_map]
    exact h
  exact (insertAllIfAbsent_none_eq_some_iff hpairs).mpr (List.mem_map_of_mem hr)

omit [DecidableEq β] in
/-- A first-wins index of records by a key finds nothing at a key no record
has. -/
theorem insertAllIfAbsent_none_of_not_mem {key : β → α} {a : α} {records : List β}
    (ha : a ∉ records.map key) :
    insertAllIfAbsent (fun _ => none) (records.map fun r => (key r, r)) a = none := by
  rw [insertAllIfAbsent_apply, Option.none_or]
  induction records with
  | nil => rfl
  | cons r records ih =>
      rw [List.map_cons, List.mem_cons, not_or] at ha
      rw [List.map_cons, List.lookup_cons, beq_false_of_ne ha.1]
      exact ih ha.2

/-- Two first-wins indexes of one list of records, by the first component
and by the second: when both are distinct among the records, each index finds
a record exactly when the other does. -/
theorem insertAllIfAbsent_swap_eq_some_iff {γ : Type*} {records : List (α × β × γ)}
    (h1 : (records.map Prod.fst).Nodup) (h2 : (records.map fun r => r.2.1).Nodup)
    {a : α} {b : β} {c : γ} :
    insertAllIfAbsent (fun _ => none) (records.map fun r => (r.2.1, r.1, r.2.2)) b =
        some (a, c) ↔ insertAllIfAbsent (fun _ => none) records a = some (b, c) := by
  have hswap : ((records.map fun r => (r.2.1, r.1, r.2.2)).map Prod.fst).Nodup := by
    rw [List.map_map]
    exact h2
  rw [insertAllIfAbsent_none_eq_some_iff hswap, insertAllIfAbsent_none_eq_some_iff h1,
    List.mem_map]
  constructor
  · rintro ⟨⟨a', b', c'⟩, hmem, heq⟩
    simp only [Prod.mk.injEq] at heq
    obtain ⟨rfl, rfl, rfl⟩ := heq
    exact hmem
  · intro hmem
    exact ⟨(a, b, c), hmem, rfl⟩

/-! ## Association lists changed in place -/

omit [DecidableEq β] in
/-- A map over an association list that keeps every key changes what a key
looks up to what the map makes of its entry. -/
theorem lookup_map_of_fst_eq {g : α × β → α × β} (hg : ∀ p, (g p).1 = p.1) (a : α) :
    ∀ l : List (α × β), (l.map g).lookup a = (l.lookup a).map fun b => (g (a, b)).2
  | [] => rfl
  | (k, b) :: l => by
      have hk : g (k, b) = (k, (g (k, b)).2) := Prod.ext (hg (k, b)) rfl
      rw [List.map_cons, hk, List.lookup_cons, List.lookup_cons]
      by_cases hak : a = k
      · subst hak
        simp
      · simp [beq_false_of_ne hak, lookup_map_of_fst_eq hg a l]

end Stratum.Verified.PairedMaps
