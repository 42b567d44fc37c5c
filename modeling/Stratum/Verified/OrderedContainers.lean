import Mathlib.Data.List.Sort
import Mathlib.Data.List.Dedup

/-!
# Ordered sets and maps as sorted lists

`std::set` and `std::map` keep their keys sorted by a strict order and
iterate in that order; code that loops over one, or that reads the position
of a key in one, depends on it. A set is modelled by the sorted list of its
keys and a map by the list of its entries sorted by key, under the strict
order `lt` the container is declared with:

* `setInsert` is `std::set::insert`: a key already there is left as it is,
  a new one goes before the first key above it;
* `mapAlter` is `std::map::operator[]` followed by an update of the value it
  returns: a missing key is first given the default value, in order.

On sorted lists this is what the containers do; the lemmas below hold of
every list, so that no proof has to carry sortedness. A hash map, whose
iteration order a model fixes as insertion order, is an association list as
well; the lookup lemmas of the last section serve both.

Main results:

* `mem_setInsert` — the keys of a set after an insertion;
* `lookup_mapAlter` — the value at every key of a map after an update;
* `lookup_eq_some_of_mem`, `lookup_map_value`, `lookup_filter_fst_ne` — lookup
  in an association list against membership, a map of its values and the
  erasure of a key;
* `filterMap_find?_perm` — elements with distinct keys, looked up key by key,
  come back up to order;
* `flatMap_groupBy_perm`, `length_groupBy` — a hash map of vectors built by
  `m[key a].push_back(val a)` holds every element once, whatever order its
  entries are read back in, under one entry per distinct key;
* `eq_stdSort_of_perm` — under a strict total order, `std::sort` has one
  possible output, the merge sort `stdSort`;
* `exists_mem_range'_not_mem` — fewer than `n` keys leave one of `n`
  consecutive numbers free.

`std::sort` is specified only up to the order of equivalent elements; under a
strict total order no two distinct elements are equivalent, so the sorted
permutation is unique and merge sort is a faithful model of it.
-/

namespace Stratum.Verified.OrderedContainers

variable {κ β : Type} [DecidableEq κ] (lt : κ → κ → Bool)

/-- `std::set<κ>::insert(k)`. -/
def setInsert (k : κ) (s : List κ) : List κ :=
  if k ∈ s then s else s.orderedInsert (fun a b => lt a b = true) k

/-- `std::map<κ, β>::operator[](k)`, defaulting to `d`, with `f` applied to
the value it returns. -/
def mapAlter (k : κ) (d : β) (f : β → β) (m : List (κ × β)) : List (κ × β) :=
  match m.lookup k with
  | some b => m.map fun e => if e.1 = k then (k, f b) else e
  | none => m.orderedInsert (fun e e' => lt e.1 e'.1 = true) (k, f d)

theorem mem_setInsert (k k' : κ) (s : List κ) : k' ∈ setInsert lt k s ↔ k' = k ∨ k' ∈ s := by
  unfold setInsert
  by_cases hk : k ∈ s
  · rw [if_pos hk]
    constructor
    · exact Or.inr
    · rintro (rfl | h)
      · exact hk
      · exact h
  · rw [if_neg hk, (List.perm_orderedInsert _ k s).mem_iff, List.mem_cons]

theorem lookup_cons_ite (k k' : κ) (b : β) (l : List (κ × β)) :
    ((k, b) :: l).lookup k' = if k' = k then some b else l.lookup k' := by
  by_cases h : k' = k
  · subst h
    simp
  · simp [List.lookup_cons, beq_false_of_ne h, h]

/-- Updating the entries at `k` leaves the lookup at every other key. -/
theorem lookup_map_update_of_ne {k k' : κ} (c : β) (h : k' ≠ k) :
    ∀ m : List (κ × β), (m.map fun e => if e.1 = k then (k, c) else e).lookup k' = m.lookup k'
  | [] => rfl
  | (k₀, b) :: m => by
      rw [List.map_cons, lookup_cons_ite]
      by_cases h₀ : k₀ = k
      · subst h₀
        simp only [if_true, lookup_cons_ite, if_neg h, lookup_map_update_of_ne c h m]
      · simp only [h₀, if_false, lookup_cons_ite, lookup_map_update_of_ne c h m]

/-- Updating every entry at `k` to `(k, c)` changes the lookup at `k` only. -/
theorem lookup_map_update (k k' : κ) (c : β) :
    ∀ m : List (κ × β), (m.lookup k).isSome →
      (m.map fun e => if e.1 = k then (k, c) else e).lookup k' =
        if k' = k then some c else m.lookup k'
  | [], h => by simp at h
  | (k₀, b) :: m, h => by
      by_cases h' : k' = k
      · subst h'
        rw [if_pos rfl, List.map_cons, lookup_cons_ite]
        by_cases h₀ : k₀ = k'
        · simp [h₀]
        · rw [lookup_cons_ite, if_neg (Ne.symm h₀)] at h
          simp only [h₀, if_false, Ne.symm h₀, lookup_map_update k' k' c m h]
          simp
      · rw [if_neg h', lookup_map_update_of_ne c h']

/-- Inserting an entry at a missing key `k`, anywhere, changes the lookup at
`k` only. -/
theorem lookup_orderedInsert (r : κ × β → κ × β → Prop) [DecidableRel r] (k k' : κ) (c : β) :
    ∀ m : List (κ × β), m.lookup k = none →
      (m.orderedInsert r (k, c)).lookup k' = if k' = k then some c else m.lookup k'
  | [], _ => by simp [lookup_cons_ite]
  | (k₀, b) :: m, h => by
      rw [lookup_cons_ite] at h
      have hk₀ : k ≠ k₀ := fun heq => by simp [heq] at h
      rw [if_neg hk₀] at h
      simp only [List.orderedInsert]
      split
      · rw [lookup_cons_ite, lookup_cons_ite]
      · rw [lookup_cons_ite, lookup_orderedInsert r k k' c m h, lookup_cons_ite]
        by_cases h' : k' = k
        · subst h'
          simp [hk₀]
        · simp [h']

theorem lookup_mapAlter (k : κ) (d : β) (f : β → β) (k' : κ) (m : List (κ × β)) :
    (mapAlter lt k d f m).lookup k' =
      if k' = k then some (f ((m.lookup k).getD d)) else m.lookup k' := by
  unfold mapAlter
  split
  · rename_i b hb
    rw [lookup_map_update k k' (f b) m (by simp [hb]), hb, Option.getD_some]
  · rename_i hb
    rw [lookup_orderedInsert _ k k' (f d) m hb, hb, Option.getD_none]

/-! ## Association lists -/

section AssocList

variable {γ : Type}

theorem mem_of_lookup_eq_some {k : κ} {b : β} : ∀ {m : List (κ × β)}, m.lookup k = some b →
    (k, b) ∈ m
  | [], h => by simp at h
  | (k₀, b₀) :: m, h => by
      rw [lookup_cons_ite] at h
      by_cases hk : k = k₀
      · rw [if_pos hk, Option.some.injEq] at h
        subst hk h
        exact List.mem_cons_self
      · rw [if_neg hk] at h
        exact List.mem_cons_of_mem _ (mem_of_lookup_eq_some h)

theorem lookup_eq_none_iff {k : κ} : ∀ {m : List (κ × β)}, m.lookup k = none ↔ k ∉ m.map Prod.fst
  | [] => by simp
  | (k₀, b₀) :: m => by
      rw [lookup_cons_ite, List.map_cons, List.mem_cons, not_or, ← lookup_eq_none_iff]
      by_cases hk : k = k₀ <;> simp [hk]

theorem lookup_eq_some_of_mem {k : κ} {b : β} :
    ∀ {m : List (κ × β)}, (m.map Prod.fst).Nodup → (k, b) ∈ m → m.lookup k = some b
  | [], _, h => by simp at h
  | (k₀, b₀) :: m, hnodup, h => by
      rw [List.map_cons, List.nodup_cons] at hnodup
      rw [lookup_cons_ite]
      rcases List.mem_cons.mp h with heq | hmem
      · rw [Prod.mk.injEq] at heq
        rw [if_pos heq.1, heq.2]
      · -- `k` is a key of the rest, so not the head's
        have hk : k ≠ k₀ := fun heq => hnodup.1 (heq ▸ List.mem_map.mpr ⟨(k, b), hmem, rfl⟩)
        rw [if_neg hk]
        exact lookup_eq_some_of_mem hnodup.2 hmem

/-- Mapping the entries to new values at the same keys maps the value found
at every key. -/
theorem lookup_map_value (f : κ × β → γ) (k : κ) :
    ∀ m : List (κ × β), (m.map fun e => (e.1, f e)).lookup k = (m.lookup k).map fun b => f (k, b)
  | [] => rfl
  | (k₀, b₀) :: m => by
      rw [List.map_cons, lookup_cons_ite, lookup_cons_ite, lookup_map_value f k m]
      by_cases hk : k = k₀
      · subst hk
        simp
      · simp [hk]

omit [DecidableEq κ] in
/-- Mapping the entries to new values keeps the keys. -/
theorem map_fst_map_value (f : κ × β → γ) (m : List (κ × β)) :
    (m.map fun e => (e.1, f e)).map Prod.fst = m.map Prod.fst := by
  rw [List.map_map]
  rfl

theorem lookup_filter_fst_ne (k k' : κ) :
    ∀ m : List (κ × β), (m.filter (·.1 != k)).lookup k' = if k' = k then none else m.lookup k'
  | [] => by simp
  | (k₀, b₀) :: m => by
      by_cases hk₀ : k₀ = k
      · subst hk₀
        rw [List.filter_cons_of_neg (by simp), lookup_filter_fst_ne k₀ k' m, lookup_cons_ite]
        by_cases hk' : k' = k₀ <;> simp [hk']
      · rw [List.filter_cons_of_pos (by simpa using hk₀), lookup_cons_ite, lookup_cons_ite,
          lookup_filter_fst_ne k k' m]
        by_cases hk' : k' = k₀
        · subst hk'
          simp [hk₀]
        · simp [hk']

/-- Appending an entry at a missing key changes the lookup at that key only. -/
theorem lookup_append_singleton (k k' : κ) (b : β) :
    ∀ m : List (κ × β), m.lookup k = none →
      (m ++ [(k, b)]).lookup k' = if k' = k then some b else m.lookup k'
  | [], _ => by simp [lookup_cons_ite]
  | (k₀, b₀) :: m, h => by
      rw [lookup_cons_ite] at h
      have hk₀ : k ≠ k₀ := fun heq => by simp [heq] at h
      rw [if_neg hk₀] at h
      rw [List.cons_append, lookup_cons_ite, lookup_append_singleton k k' b m h, lookup_cons_ite]
      by_cases hk' : k' = k
      · subst hk'
        simp [hk₀]
      · simp [hk']

/-- Looking up each of a duplicate-free list of keys in a list of elements
with distinct keys, all among them, gives the elements back up to order: a
repeated field keyed by ID, read back key by key. -/
theorem filterMap_find?_perm {α : Type} (key : α → κ) {l : List α} {ks : List κ}
    (hkeys : (l.map key).Nodup) (hks : ks.Nodup) (hmem : ∀ a ∈ l, key a ∈ ks) :
    (ks.filterMap fun k => l.find? fun a => key a == k).Perm l := by
  -- the element found for a key has that key
  have hfound : ∀ k a, l.find? (fun a => key a == k) = some a → a ∈ l ∧ key a = k := by
    intro k a hfind
    exact ⟨List.mem_of_find?_eq_some hfind, by simpa using List.find?_some hfind⟩
  have hnodup : (ks.filterMap fun k => l.find? fun a => key a == k).Nodup := by
    refine hks.filterMap fun k k' a hk hk' => ?_
    rw [← (hfound k a hk).2, ← (hfound k' a hk').2]
  rw [List.perm_ext_iff_of_nodup hnodup (List.Nodup.of_map key hkeys)]
  intro a
  rw [List.mem_filterMap]
  constructor
  · rintro ⟨k, -, hfind⟩
    exact (hfound k a hfind).1
  · intro ha
    -- the key of `a` finds an element with that key, which is `a`
    refine ⟨key a, hmem a ha, ?_⟩
    cases hfind : l.find? (fun a' => key a' == key a) with
    | none =>
        have hnone := List.find?_eq_none.mp hfind a ha
        simp at hnone
    | some a' =>
        obtain ⟨ha', hkey⟩ := hfound (key a) a' hfind
        rw [List.inj_on_of_nodup_map hkeys ha' ha hkey]

end AssocList

/-! ## Hash maps of vectors -/

section Vectors

variable {α : Type}

/-- `m[k].push_back(v)` on a hash map from keys to vectors, its entries in
insertion order: a key not there yet gets the vector `[v]`. -/
def pushBack (k : κ) (v : β) : List (κ × List β) → List (κ × List β)
  | [] => [(k, [v])]
  | (k', vs) :: m => if k' = k then (k', vs ++ [v]) :: m else (k', vs) :: pushBack k v m

/-- The hash map of vectors that `m[key a].push_back(val a)` builds over `l`. -/
def groupBy (key : α → κ) (val : α → β) (l : List α) : List (κ × List β) :=
  l.foldl (fun m a => pushBack (key a) (val a) m) []

theorem mem_keys_pushBack (k k' : κ) (v : β) : ∀ m : List (κ × List β),
    k' ∈ (pushBack k v m).map Prod.fst ↔ k' = k ∨ k' ∈ m.map Prod.fst
  | [] => by simp [pushBack]
  | (k₀, vs) :: m => by
      unfold pushBack
      split
      · next h =>
          subst h
          simp only [List.map_cons, List.mem_cons]
          constructor
          · exact Or.inr
          · rintro (rfl | h)
            · exact Or.inl rfl
            · exact h
      · simp only [List.map_cons, List.mem_cons, mem_keys_pushBack k k' v m]
        tauto

theorem nodup_keys_pushBack (k : κ) (v : β) : ∀ {m : List (κ × List β)},
    (m.map Prod.fst).Nodup → ((pushBack k v m).map Prod.fst).Nodup
  | [], _ => by simp [pushBack]
  | (k₀, vs) :: m, h => by
      rw [List.map_cons, List.nodup_cons] at h
      unfold pushBack
      split
      · rw [List.map_cons, List.nodup_cons]
        exact h
      · next hne =>
          rw [List.map_cons, List.nodup_cons, mem_keys_pushBack]
          refine ⟨?_, nodup_keys_pushBack k v h.2⟩
          rintro (heq | hmem)
          · exact hne heq
          · exact h.1 hmem

section Loop

variable (key : α → κ) (val : α → β)

theorem mem_keys_foldl_pushBack (k : κ) : ∀ (l : List α) (m : List (κ × List β)),
    k ∈ (l.foldl (fun m a => pushBack (key a) (val a) m) m).map Prod.fst ↔
      k ∈ m.map Prod.fst ∨ ∃ a ∈ l, key a = k
  | [], m => by simp
  | a :: l, m => by
      rw [List.foldl_cons, mem_keys_foldl_pushBack k l, mem_keys_pushBack]
      simp only [List.mem_cons, exists_eq_or_imp]
      tauto

theorem nodup_keys_foldl_pushBack : ∀ (l : List α) {m : List (κ × List β)},
    (m.map Prod.fst).Nodup →
      ((l.foldl (fun m a => pushBack (key a) (val a) m) m).map Prod.fst).Nodup
  | [], _, h => h
  | a :: l, _, h => nodup_keys_foldl_pushBack l (nodup_keys_pushBack (key a) (val a) h)

/-- Each key of the map once: the distinct keys of the elements. -/
theorem keys_groupBy_perm (l : List α) :
    ((groupBy key val l).map Prod.fst).Perm (l.map key).dedup := by
  apply (List.perm_ext_iff_of_nodup
    (nodup_keys_foldl_pushBack key val l (m := []) List.nodup_nil) (List.nodup_dedup _)).mpr
  intro k
  rw [mem_keys_foldl_pushBack, List.mem_dedup, List.mem_map]
  simp

theorem length_groupBy (l : List α) : (groupBy key val l).length = (l.map key).dedup.length := by
  rw [← (keys_groupBy_perm key val l).length_eq, List.length_map]

variable (mk : κ → β → α)

theorem flatMap_pushBack_perm (k : κ) (v : β) : ∀ m : List (κ × List β),
    ((pushBack k v m).flatMap fun e => e.2.map (mk e.1)).Perm
      ((m.flatMap fun e => e.2.map (mk e.1)) ++ [mk k v])
  | [] => by simp [pushBack]
  | (k', vs) :: m => by
      unfold pushBack
      split
      · next h =>
          subst h
          simp only [List.flatMap_cons, List.map_append, List.map_cons, List.map_nil,
            List.append_assoc]
          exact List.perm_append_comm.append_left _
      · simp only [List.flatMap_cons, List.append_assoc]
        exact (flatMap_pushBack_perm k v m).append_left _

theorem flatMap_foldl_pushBack_perm (hmk : ∀ a, mk (key a) (val a) = a) :
    ∀ (l : List α) (m : List (κ × List β)),
      ((l.foldl (fun m a => pushBack (key a) (val a) m) m).flatMap
        fun e => e.2.map (mk e.1)).Perm ((m.flatMap fun e => e.2.map (mk e.1)) ++ l)
  | [], m => by simp
  | a :: l, m => by
      rw [List.foldl_cons]
      refine (flatMap_foldl_pushBack_perm hmk l _).trans ?_
      have hstep := (flatMap_pushBack_perm mk (key a) (val a) m).append_right l
      rw [hmk, List.append_assoc, List.singleton_append] at hstep
      exact hstep

/-- Reading the map back, in any order of its entries, gives the elements it
was built from. -/
theorem flatMap_groupBy_perm (hmk : ∀ a, mk (key a) (val a) = a) (l : List α)
    {entries : List (κ × List β)} (horder : entries.Perm (groupBy key val l)) :
    (entries.flatMap fun e => e.2.map (mk e.1)).Perm l := by
  have hgroup := flatMap_foldl_pushBack_perm key val mk hmk l []
  rw [List.flatMap_nil, List.nil_append] at hgroup
  exact (horder.flatMap_right _).trans hgroup

end Loop

end Vectors

/-! ## `std::sort` -/

section Sorting

variable {α : Type}

/-- `std::sort(first, last, comp)`, as merge sort by "not after". -/
def stdSort (comp : α → α → Bool) (l : List α) : List α :=
  l.mergeSort fun a b => !comp b a

theorem stdSort_perm (comp : α → α → Bool) (l : List α) : (stdSort comp l).Perm l :=
  List.mergeSort_perm l _

variable (comp : α → α → Bool) [IsStrictTotalOrder α fun a b => comp a b]

theorem pairwise_stdSort (l : List α) : (stdSort comp l).Pairwise fun a b => ¬comp b a := by
  have hsorted := @List.pairwise_mergeSort _ (fun a b => !comp b a) ?_ ?_ l
  · simpa [stdSort] using hsorted
  · -- "not after" is transitive: `c < a` would put `c` before `b` or `b` before `a`
    intro a b c hab hbc
    simp only [Bool.not_eq_eq_eq_not, Bool.not_true] at hab hbc ⊢
    rcases trichotomous_of (fun a b => comp a b = true) b a with hba | rfl | hab'
    · simp [hba] at hab
    · exact hbc
    · cases hca : comp c a
      · rfl
      · exact absurd (trans_of (fun a b => comp a b = true) hca hab') (by simp [hbc])
  · intro a b
    cases hba : comp b a
    · rfl
    · have hab : ¬comp a b = true := fun hab => irrefl_of (fun a b => comp a b = true) a
        (trans_of (fun a b => comp a b = true) hab hba)
      simp [hab]

/-- A permutation of `l` sorted by `comp` is `stdSort comp l`. -/
theorem eq_stdSort_of_perm {l l' : List α} (hperm : l'.Perm l)
    (hsorted : l'.Pairwise fun a b => ¬comp b a) : l' = stdSort comp l :=
  @List.Perm.eq_of_pairwise _ (fun a b => ¬comp b a) _ _
    (fun a b _ _ hab hba =>
      Std.Trichotomous.trichotomous (r := fun a b => comp a b = true) a b hba hab)
    hsorted (pairwise_stdSort comp l) (hperm.trans (stdSort_perm comp l).symm)

end Sorting

/-- Of `n` consecutive numbers from `start`, fewer than `n` keys leave one
free. -/
theorem exists_mem_range'_not_mem {keys : List Nat} {n : Nat} (h : keys.length < n)
    (start : Nat) : ∃ k ∈ List.range' start n, k ∉ keys := by
  by_contra hall
  push Not at hall
  have hlength := (List.subperm_of_subset List.nodup_range' hall).length_le
  rw [List.length_range'] at hlength
  omega

end Stratum.Verified.OrderedContainers
