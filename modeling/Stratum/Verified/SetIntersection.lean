import Mathlib.Data.List.Sort

/-!
# `std::sort` and `std::set_intersection` on lists

C++ code that asks whether two id lists overlap often copies them, sorts both
copies and walks them with `std::set_intersection`, testing the output for
emptiness. This module models that idiom:

* `sortAscending` is `std::sort` with `operator<`; on a linear order every
  sort returns the same list, so insertion sort stands for it, and that list
  depends only on how often each element occurs
  (`sortAscending_eq_of_count_eq`).
* `setIntersection` is the merge walk of `std::set_intersection`: the smaller
  head is dropped, and equal heads are copied once and both dropped.

On sorted inputs the walk keeps exactly the common elements
(`mem_setIntersection`), so the emptiness test decides disjointness
(`setIntersection_sortAscending_eq_nil`), whatever order the inputs came in.

`sortByKey` is `std::sort` with a comparator `key(l) < key(r)`; with an
injective key it too returns one list for all orders of its input
(`sortByKey_eq_of_perm`).
-/

namespace Stratum.Verified.SetIntersection

variable {α : Type*} [LinearOrder α]

/-- `std::sort(v.begin(), v.end())` on a copy of `v`. -/
def sortAscending (l : List α) : List α := l.insertionSort (· ≤ ·)

theorem sortAscending_sorted (l : List α) : (sortAscending l).Pairwise (· ≤ ·) :=
  List.pairwise_insertionSort _ l

@[simp] theorem mem_sortAscending {l : List α} {x : α} : x ∈ sortAscending l ↔ x ∈ l :=
  (List.perm_insertionSort _ l).mem_iff

@[simp] theorem count_sortAscending (l : List α) (x : α) : (sortAscending l).count x = l.count x :=
  (List.perm_insertionSort _ l).count_eq x

@[simp] theorem length_sortAscending (l : List α) : (sortAscending l).length = l.length :=
  (List.perm_insertionSort _ l).length_eq

/-- Every order of the same elements sorts to one list. -/
theorem sortAscending_eq_of_perm {l₁ l₂ : List α} (h : l₁.Perm l₂) :
    sortAscending l₁ = sortAscending l₂ :=
  List.Perm.eq_of_pairwise' (sortAscending_sorted l₁) (sortAscending_sorted l₂)
    ((List.perm_insertionSort _ l₁).trans (h.trans (List.perm_insertionSort _ l₂).symm))

/-- The sorted list depends on how often each element occurs, and on nothing
else. -/
theorem sortAscending_eq_of_count_eq {l₁ l₂ : List α} (h : ∀ x, l₁.count x = l₂.count x) :
    sortAscending l₁ = sortAscending l₂ :=
  sortAscending_eq_of_perm (List.perm_iff_count.mpr h)

/-- The inner loop of the walk once the first range's head `x` is fixed: `rest`
continues the walk on the first range's tail. -/
def intersectionFrom (x : α) (rest : List α → List α) : List α → List α
  | [] => []
  | y :: ys =>
      if x < y then rest (y :: ys)
      else if y < x then intersectionFrom x rest ys
      else x :: rest ys

/-- `std::set_intersection(first1, last1, first2, last2, out)`, with the output
range returned as a list. -/
def setIntersection : List α → List α → List α
  | [], _ => []
  | x :: xs, ys => intersectionFrom x (setIntersection xs) ys

/-- On sorted inputs the merge walk outputs exactly the common elements. -/
theorem mem_setIntersection {z : α} :
    ∀ {xs ys : List α}, xs.Pairwise (· ≤ ·) → ys.Pairwise (· ≤ ·) →
      (z ∈ setIntersection xs ys ↔ z ∈ xs ∧ z ∈ ys)
  | [], _, _, _ => by simp [setIntersection]
  | x :: xs, ys, hxs, hys => by
      have hx : ∀ w ∈ xs, x ≤ w := (List.pairwise_cons.mp hxs).1
      have ih : ∀ {ys : List α}, ys.Pairwise (· ≤ ·) →
          (z ∈ setIntersection xs ys ↔ z ∈ xs ∧ z ∈ ys) :=
        fun hys' => mem_setIntersection hxs.of_cons hys'
      -- the walk over `ys` with the head `x` fixed
      induction ys with
      | nil => simp [setIntersection, intersectionFrom]
      | cons y ys ihy =>
          have hy : ∀ w ∈ ys, y ≤ w := (List.pairwise_cons.mp hys).1
          simp only [setIntersection, intersectionFrom] at ihy ⊢
          by_cases hxy : x < y
          · rw [if_pos hxy, ih hys]
            have hxnot : x ∉ y :: ys := by
              intro hmem
              rcases List.mem_cons.mp hmem with h | h
              · exact absurd h (ne_of_lt hxy)
              · exact absurd (hy x h) (not_le.mpr hxy)
            constructor
            · exact fun ⟨h1, h2⟩ => ⟨List.mem_cons_of_mem x h1, h2⟩
            · rintro ⟨h1, h2⟩
              rcases List.mem_cons.mp h1 with rfl | h1
              · exact absurd h2 hxnot
              · exact ⟨h1, h2⟩
          · rw [if_neg hxy]
            by_cases hyx : y < x
            · rw [if_pos hyx]
              refine (ihy hys.of_cons).trans ?_
              have hynot : y ∉ x :: xs := by
                intro hmem
                rcases List.mem_cons.mp hmem with h | h
                · exact absurd h (ne_of_lt hyx)
                · exact absurd (hx y h) (not_le.mpr hyx)
              constructor
              · exact fun ⟨h1, h2⟩ => ⟨h1, List.mem_cons_of_mem y h2⟩
              · rintro ⟨h1, h2⟩
                rcases List.mem_cons.mp h2 with rfl | h2
                · exact absurd h1 hynot
                · exact ⟨h1, h2⟩
            · have hxy' : x = y := le_antisymm (not_lt.mp hyx) (not_lt.mp hxy)
              subst hxy'
              rw [if_neg hyx, List.mem_cons, ih hys.of_cons]
              simp only [List.mem_cons]
              tauto

/-- The emptiness test of the sort-and-intersect idiom decides whether two
lists share an element. -/
theorem setIntersection_sortAscending_eq_nil (xs ys : List α) :
    setIntersection (sortAscending xs) (sortAscending ys) = [] ↔ ∀ z ∈ xs, z ∉ ys := by
  constructor
  · intro h z hzx hzy
    have hz : z ∈ setIntersection (sortAscending xs) (sortAscending ys) :=
      (mem_setIntersection (sortAscending_sorted xs) (sortAscending_sorted ys)).mpr
        ⟨mem_sortAscending.mpr hzx, mem_sortAscending.mpr hzy⟩
    simp [h] at hz
  · intro h
    apply List.eq_nil_iff_forall_not_mem.mpr
    intro z hz
    obtain ⟨hzx, hzy⟩ :=
      (mem_setIntersection (sortAscending_sorted xs) (sortAscending_sorted ys)).mp hz
    exact h z (mem_sortAscending.mp hzx) (mem_sortAscending.mp hzy)

/-! ## Sorting by a key -/

section SortByKey

variable {α β : Type*} [LinearOrder β]

/-- `std::sort` with the comparator `key(l) < key(r)`: ascending in the key.
Elements of one key may come in any order from `std::sort`; with an
injective key there are none. -/
def sortByKey (key : α → β) (l : List α) : List α :=
  l.insertionSort (fun a b => key a ≤ key b)

/-- With an injective key, every order of the same elements sorts to one
list. -/
theorem sortByKey_eq_of_perm {key : α → β} (hkey : Function.Injective key) {l₁ l₂ : List α}
    (h : l₁.Perm l₂) : sortByKey key l₁ = sortByKey key l₂ := by
  have : Std.Total (fun a b => key a ≤ key b) := ⟨fun a b => le_total _ _⟩
  have : IsTrans α (fun a b => key a ≤ key b) := ⟨fun _ _ _ => le_trans⟩
  refine List.Perm.eq_of_pairwise ?_ (List.pairwise_insertionSort _ _)
    (List.pairwise_insertionSort _ _) ?_
  · -- two elements each at most the other have one key, so are one element
    intro a b _ _ hab hba
    exact hkey (le_antisymm hab hba)
  · exact (List.perm_insertionSort _ _).trans (h.trans (List.perm_insertionSort _ _).symm)

end SortByKey

end Stratum.Verified.SetIntersection
