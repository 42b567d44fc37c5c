import Mathlib.Logic.Relation
import Mathlib.Data.List.Infix
import Mathlib.Data.List.Perm.Basic
import Mathlib.Data.List.Nodup
import Stratum.Verified.Run

/-!
# Forests grown one node at a time

A forest that only ever grows by adding a node under a node already there,
or as a tree of its own, is kept as the list of its nodes in the order they
were added, each with the node it was added under. `Grown` says which lists
arise so: no node twice, and each parent before its children.

The children of a node are the nodes added under it, in the order they were
added. `walk` lists a tree the way a recursive walk that visits a node and
then its children from the last added to the first does; `tree` is that walk
with enough fuel, and `walkAll` walks the trees from the last added to the
first. Each tree is a contiguous block of `walkAll`, and of two siblings, the
later one's whole tree comes before the earlier one's.

Main results:

* `tree_eq`: the walk of a tree is its root and then the walks of its
  children, the last added first;
* `mem_tree`: a tree holds its root and the root's descendants;
* `nodup_walkAll`, `walkAll_perm`: the walk of the forest lists every node
  once;
* `infix_walkAll`, `sibling_infix_walkAll`: where a tree and two sibling
  trees sit in the walk of the forest;
* `idxOf_lt_of_isDescendant_walkAll`, `idxOf_lt_of_siblings`: a node comes
  before its descendants in the walk, and a later sibling's tree before an
  earlier sibling's.
-/

namespace Stratum.Verified.LinkedForest

variable {α : Type}

/-- The node lists of a forest grown one node at a time: each new node is
not there yet, and its parent, if it has one, is. -/
inductive Grown : List (α × Option α) → Prop
  | nil : Grown []
  | snoc {nodes : List (α × Option α)} {x : α} {p : Option α} :
      Grown nodes → x ∉ nodes.map Prod.fst → (∀ q, p = some q → q ∈ nodes.map Prod.fst) →
      Grown (nodes ++ [(x, p)])

section Definitions

variable [DecidableEq α] (nodes : List (α × Option α))

/-- The nodes of the forest, in the order they were added. -/
def labels : List α := nodes.map Prod.fst

/-- The nodes added under `p` (the trees of their own for `none`), in the
order they were added. -/
def children (p : Option α) : List α := (nodes.filter fun node => node.2 == p).map Prod.fst

/-- A node, then the walks of its children from the last added to the first,
`fuel` levels deep at most. -/
def walk : Nat → α → List α
  | 0, _ => []
  | fuel + 1, x => x :: (children nodes (some x)).reverse.flatMap (walk fuel)

/-- The walk of the tree under `x`, with as much fuel as there are nodes. -/
def tree (x : α) : List α := walk nodes nodes.length x

/-- The walks of the trees of their own, from the last added to the first. -/
def walkAll : List α := (children nodes none).reverse.flatMap (tree nodes)

/-- `d` lies under `a`: a chain of parents leads from `d` up to `a`. -/
def IsDescendant (d a : α) : Prop := Relation.TransGen (fun c p => (c, some p) ∈ nodes) d a

/-- How far from the end of the forest a node was added; children are
nearer the end than their parents. -/
def rank (x : α) : Nat := nodes.length - (labels nodes).idxOf x

end Definitions

/-! ## What growing one node at a time gives -/

section Grown

variable {nodes : List (α × Option α)}

theorem Grown.nodup (h : Grown nodes) : (labels nodes).Nodup := by
  induction h with
  | nil => exact List.nodup_nil
  | snoc _ hnew _ ih =>
    rw [labels, List.map_append, List.nodup_append]
    refine ⟨ih, List.nodup_singleton _, ?_⟩
    intro a ha b hb
    rw [List.map_singleton, List.mem_singleton] at hb
    rintro rfl
    rw [hb] at ha
    exact hnew ha

theorem mem_labels_of_mem {c : α} {p : Option α} (h : (c, p) ∈ nodes) : c ∈ labels nodes :=
  List.mem_map_of_mem h

theorem length_labels : (labels nodes).length = nodes.length := List.length_map _

/-- A node has one parent at most. -/
theorem parent_unique (hgrown : Grown nodes) {c : α} {p q : Option α} (hp : (c, p) ∈ nodes) (hq : (c, q) ∈ nodes) :
    p = q :=
  congrArg Prod.snd (List.inj_on_of_nodup_map hgrown.nodup hp hq rfl)

variable [DecidableEq α]

/-- A parent was added before its child. -/
theorem Grown.parent_before (h : Grown nodes) {c p : α} (hc : (c, some p) ∈ nodes) :
    p ∈ labels nodes ∧ (labels nodes).idxOf p < (labels nodes).idxOf c := by
  induction h with
  | nil => cases hc
  | @snoc nodes x q _ hnew hparent ih =>
    rw [List.mem_append, List.mem_singleton] at hc
    have hsplit : labels (nodes ++ [(x, q)]) = labels nodes ++ [x] := by
      rw [labels, List.map_append]
      rfl
    rw [hsplit]
    rcases hc with hold | hnewNode
    · obtain ⟨hmem, hlt⟩ := ih hold
      have hcmem : c ∈ labels nodes := List.mem_map_of_mem hold
      rw [List.idxOf_append_of_mem hmem, List.idxOf_append_of_mem hcmem]
      exact ⟨List.mem_append_left _ hmem, hlt⟩
    · -- the new node: its parent is one of the nodes before it
      obtain ⟨rfl, rfl⟩ := Prod.mk.inj hnewNode
      have hmem : p ∈ labels nodes := hparent p rfl
      have hnew' : c ∉ labels nodes := hnew
      rw [List.idxOf_append_of_mem hmem, List.idxOf_append_of_notMem hnew', List.idxOf_cons_self,
        Nat.add_zero]
      exact ⟨List.mem_append_left _ hmem, List.idxOf_lt_length_of_mem hmem⟩

end Grown

/-! ## Positions in a list without repeats -/

section Positions

variable [DecidableEq α]

theorem pairwise_idxOf_lt {l : List α} (hnodup : l.Nodup) :
    l.Pairwise fun a b => l.idxOf a < l.idxOf b := by
  induction l with
  | nil => exact List.Pairwise.nil
  | cons x l ih =>
    rw [List.nodup_cons] at hnodup
    -- every later element sits one place further in `x :: l`
    have hshift : ∀ {b : α}, b ∈ l → (x :: l).idxOf b = l.idxOf b + 1 := fun hb =>
      List.idxOf_cons_ne l fun hbx => hnodup.1 (hbx ▸ hb)
    refine List.Pairwise.cons (fun b hb => ?_) ((ih hnodup.2).imp_of_mem fun ha hb hab => ?_)
    · rw [List.idxOf_cons_self, hshift hb]
      exact Nat.succ_pos _
    · rw [hshift ha, hshift hb]
      exact Nat.succ_lt_succ hab

theorem pairwise_idxOf_lt_of_infix {l m : List α} (hnodup : l.Nodup) (hsegment : m <:+: l) :
    m.Pairwise fun a b => l.idxOf a < l.idxOf b :=
  (pairwise_idxOf_lt hnodup).sublist hsegment.sublist

/-- Reading positions off a list without duplicates, element by element,
reads `0, 1, …` in order. -/
theorem map_idxOf_eq_map_range {β : Type} (f : Nat → β) :
    ∀ {l : List α}, l.Nodup → l.map (fun x => f (l.idxOf x)) = (List.range l.length).map f
  | [], _ => rfl
  | x :: l, hnodup => by
    rw [List.nodup_cons] at hnodup
    rw [List.map_cons, List.idxOf_cons_self, List.length_cons, List.range_succ_eq_map, List.map_cons,
      List.map_map]
    congr 1
    rw [← map_idxOf_eq_map_range (f ∘ Nat.succ) hnodup.2]
    apply List.map_congr_left
    intro y hy
    have hxy : x ≠ y := fun h => hnodup.1 (h ▸ hy)
    simp [List.idxOf_cons_ne l hxy]

end Positions

section Forest

variable [DecidableEq α] {nodes : List (α × Option α)}

theorem mem_children {c : α} {p : Option α} : c ∈ children nodes p ↔ (c, p) ∈ nodes := by
  simp [children]

theorem children_sublist (p : Option α) : (children nodes p).Sublist (labels nodes) :=
  (List.filter_sublist).map Prod.fst

/-- A node added last is the last child of its parent. -/
theorem children_append_singleton (x : α) (q p : Option α) :
    children (nodes ++ [(x, q)]) p = children nodes p ++ if q = p then [x] else [] := by
  unfold children
  rw [List.filter_append, List.map_append]
  by_cases h : q = p <;> simp [h]


theorem rank_pos {x : α} (hx : x ∈ labels nodes) : 0 < rank nodes x := by
  have hlt := List.idxOf_lt_length_of_mem hx
  rw [length_labels] at hlt
  unfold rank
  omega

variable (hgrown : Grown nodes)
include hgrown

/-- Nodes in the order they were added, all under one parent, are children
of it in that order. -/
theorem sublist_children {l : List α} {p : Option α} (hl : l.Sublist (labels nodes))
    (hp : ∀ c ∈ l, (c, p) ∈ nodes) : l.Sublist (children nodes p) := by
  obtain ⟨l', hl', rfl⟩ := List.sublist_map_iff.mp hl
  -- each node of the sublist is kept by the filter of `children`
  have hfilter : l'.filter (fun node => node.2 == p) = l' := by
    rw [List.filter_eq_self]
    intro e he
    have hparent := parent_unique hgrown (hl'.subset he) (hp e.1 (List.mem_map.mpr ⟨e, he, rfl⟩))
    simp [hparent]
  rw [← hfilter]
  exact (hl'.filter _).map Prod.fst

/-- A node not in the forest has no children. -/
theorem children_eq_nil_of_not_mem {x : α} (hx : x ∉ labels nodes) : children nodes (some x) = [] := by
  rw [List.eq_nil_iff_forall_not_mem]
  intro c hc
  exact hx (hgrown.parent_before (mem_children.mp hc)).1

theorem rank_lt_of_child {c x : α} (hc : (c, some x) ∈ nodes) : rank nodes c < rank nodes x := by
  obtain ⟨_, hlt⟩ := hgrown.parent_before hc
  have hcLt := List.idxOf_lt_length_of_mem (mem_labels_of_mem hc)
  rw [length_labels] at hcLt
  unfold rank
  omega

/-- Once the fuel reaches the rank of a node, more fuel walks the same. -/
theorem walk_stable {x : α} (hx : x ∈ labels nodes) :
    ∀ {n m : Nat}, rank nodes x ≤ n → rank nodes x ≤ m → walk nodes n x = walk nodes m x := by
  intro n
  induction n generalizing x with
  | zero =>
    intro m hn _
    exact absurd hn (Nat.not_le.mpr (rank_pos hx))
  | succ n ih =>
    intro m hn hm
    obtain ⟨m, rfl⟩ : ∃ m', m = m' + 1 := ⟨m - 1, by have := rank_pos hx; omega⟩
    simp only [walk]
    congr 1
    apply List.flatMap_congr
    intro c hc
    -- a child has a smaller rank, so one level less fuel is still enough
    rw [List.mem_reverse, mem_children] at hc
    have hlt := rank_lt_of_child hgrown hc
    exact ih (mem_labels_of_mem hc) (by omega) (by omega)

/-- The walk of a tree is its root, then the trees of its children from the
last added to the first. -/
theorem tree_eq {x : α} (hx : x ∈ labels nodes) :
    tree nodes x = x :: (children nodes (some x)).reverse.flatMap (tree nodes) := by
  have hrank : rank nodes x ≤ nodes.length := Nat.sub_le _ _
  obtain ⟨n, hn⟩ : ∃ n, nodes.length = n + 1 := ⟨nodes.length - 1, by have := rank_pos hx; omega⟩
  rw [tree, hn, walk]
  congr 1
  apply List.flatMap_congr
  intro c hc
  rw [List.mem_reverse, mem_children] at hc
  have hlt := rank_lt_of_child hgrown hc
  rw [tree, walk_stable hgrown (mem_labels_of_mem hc) (n := n) (m := nodes.length) (by omega)
    (by omega)]

/-- Induction down the forest: what holds of a node's children holds of it. -/
theorem induction_on_rank {P : α → Prop}
    (step : ∀ x ∈ labels nodes, (∀ c, (c, some x) ∈ nodes → P c) → P x) :
    ∀ x ∈ labels nodes, P x := by
  suffices hall : ∀ n, ∀ x ∈ labels nodes, rank nodes x ≤ n → P x from
    fun x hx => hall _ x hx le_rfl
  intro n
  induction n with
  | zero => exact fun x hx hn => absurd hn (Nat.not_le.mpr (rank_pos hx))
  | succ n ih =>
    intro x hx hn
    exact step x hx fun c hc => ih c (mem_labels_of_mem hc) (by
      have := rank_lt_of_child hgrown hc
      omega)

/-! ## The nodes of a tree -/

/-- A descendant was added after its ancestor. -/
theorem idxOf_lt_of_isDescendant {d a : α} (h : IsDescendant nodes d a) :
    (labels nodes).idxOf a < (labels nodes).idxOf d := by
  induction h with
  | single hp => exact (hgrown.parent_before hp).2
  | tail _ hp ih => exact Nat.lt_trans (hgrown.parent_before hp).2 ih

theorem not_isDescendant_self (x : α) : ¬IsDescendant nodes x x :=
  fun h => Nat.lt_irrefl _ (idxOf_lt_of_isDescendant hgrown h)

/-- A tree holds its root and the nodes below it. -/
theorem mem_tree {x : α} (hx : x ∈ labels nodes) {y : α} :
    y ∈ tree nodes x ↔ y = x ∨ IsDescendant nodes y x := by
  refine induction_on_rank hgrown
    (P := fun x => ∀ y, y ∈ tree nodes x ↔ y = x ∨ IsDescendant nodes y x) ?_ x hx y
  intro x hx ih y
  rw [tree_eq hgrown hx, List.mem_cons, List.mem_flatMap]
  -- a node below `x` is in the tree of the child of `x` its chain of parents passes
  have hbelow : (∃ c ∈ (children nodes (some x)).reverse, y ∈ tree nodes c) ↔
      IsDescendant nodes y x := by
    constructor
    · rintro ⟨c, hc, hy⟩
      rw [List.mem_reverse, mem_children] at hc
      rcases (ih c hc y).mp hy with rfl | hdesc
      · exact Relation.TransGen.single hc
      · exact Relation.TransGen.tail hdesc hc
    · intro hdesc
      obtain ⟨c, hyc, hc⟩ := Relation.TransGen.tail'_iff.mp hdesc
      refine ⟨c, by rw [List.mem_reverse, mem_children]; exact hc, (ih c hc y).mpr ?_⟩
      rcases Relation.reflTransGen_iff_eq_or_transGen.mp hyc with rfl | hdesc'
      · exact Or.inl rfl
      · exact Or.inr hdesc'
  rw [hbelow]

/-- Two nodes added under the same parent (or both on their own) have no
node in common in their trees: the chains of parents from a common node
would meet them both. -/
theorem disjoint_tree {c₁ c₂ : α} {p : Option α} (h₁ : (c₁, p) ∈ nodes) (h₂ : (c₂, p) ∈ nodes)
    (hne : c₁ ≠ c₂) : (tree nodes c₁).Disjoint (tree nodes c₂) := by
  have hunique : Relator.RightUnique fun c q => (c, some q) ∈ nodes :=
    fun _ _ _ hb hc => Option.some.inj (parent_unique hgrown hb hc)
  -- a proper descendant of a sibling reaches the siblings' parent through it
  have hnotBelow : ∀ {a b : α}, (a, p) ∈ nodes → (b, p) ∈ nodes →
      ¬IsDescendant nodes a b := by
    intro a b ha hb hdesc
    obtain ⟨q, hq, hqb⟩ := Relation.TransGen.head'_iff.mp hdesc
    cases hp : p with
    | none => exact absurd (parent_unique hgrown ha hq) (by rw [hp]; simp)
    | some r =>
      have hqr : q = r := Option.some.inj ((parent_unique hgrown ha hq).symm.trans hp)
      subst hqr
      rw [hp] at hb
      exact not_isDescendant_self hgrown q (Relation.TransGen.tail' hqb hb)
  intro y hy₁ hy₂
  rw [mem_tree hgrown (mem_labels_of_mem h₁)] at hy₁
  rw [mem_tree hgrown (mem_labels_of_mem h₂)] at hy₂
  have hr₁ : Relation.ReflTransGen (fun c q => (c, some q) ∈ nodes) y c₁ :=
    Relation.reflTransGen_iff_eq_or_transGen.mpr (hy₁.imp Eq.symm id)
  have hr₂ : Relation.ReflTransGen (fun c q => (c, some q) ∈ nodes) y c₂ :=
    Relation.reflTransGen_iff_eq_or_transGen.mpr (hy₂.imp Eq.symm id)
  rcases Relation.ReflTransGen.total_of_right_unique hunique hr₁ hr₂ with h | h
  · rcases Relation.reflTransGen_iff_eq_or_transGen.mp h with h | h
    · exact hne h.symm
    · exact hnotBelow h₁ h₂ h
  · rcases Relation.reflTransGen_iff_eq_or_transGen.mp h with h | h
    · exact hne h
    · exact hnotBelow h₂ h₁ h

/-- The children of a node, walked from the last added to the first, list
no node twice. -/
theorem nodup_flatMap_tree {p : Option α} (hchildren : ∀ c ∈ children nodes p, (tree nodes c).Nodup) :
    ((children nodes p).reverse.flatMap (tree nodes)).Nodup := by
  rw [List.nodup_flatMap]
  refine ⟨fun c hc => hchildren c (List.mem_reverse.mp hc), ?_⟩
  have hnodup : (children nodes p).reverse.Nodup :=
    List.nodup_reverse.mpr ((children_sublist p).nodup hgrown.nodup)
  refine hnodup.pairwise_of_forall_ne fun a ha b hb hne => ?_
  rw [List.mem_reverse, mem_children] at ha hb
  exact disjoint_tree hgrown ha hb hne

theorem nodup_tree {x : α} (hx : x ∈ labels nodes) : (tree nodes x).Nodup := by
  refine induction_on_rank hgrown (P := fun x => (tree nodes x).Nodup) ?_ x hx
  intro x hx ih
  rw [tree_eq hgrown hx, List.nodup_cons]
  refine ⟨?_, nodup_flatMap_tree hgrown fun c hc => ih c (mem_children.mp hc)⟩
  -- the root is not below itself
  intro hmem
  rw [List.mem_flatMap] at hmem
  obtain ⟨c, hc, hxc⟩ := hmem
  rw [List.mem_reverse, mem_children] at hc
  rcases (mem_tree hgrown (mem_labels_of_mem hc)).mp hxc with rfl | hdesc
  · exact not_isDescendant_self hgrown x (Relation.TransGen.single hc)
  · exact not_isDescendant_self hgrown x (Relation.TransGen.tail hdesc hc)

/-! ## The walk of the whole forest -/

/-- Every node lies in the tree of a node added on its own. -/
theorem exists_root {y : α} (hy : y ∈ labels nodes) :
    ∃ r, (r, none) ∈ nodes ∧ (y = r ∨ IsDescendant nodes y r) := by
  suffices hall : ∀ n, ∀ y ∈ labels nodes, (labels nodes).idxOf y ≤ n →
      ∃ r, (r, none) ∈ nodes ∧ (y = r ∨ IsDescendant nodes y r) from hall _ y hy le_rfl
  intro n
  induction n with
  | zero =>
    intro y hy hn
    obtain ⟨⟨y', p⟩, hmem, rfl⟩ := List.mem_map.mp hy
    dsimp only at hn
    cases p with
    | none => exact ⟨y', hmem, Or.inl rfl⟩
    | some q => exact absurd (hgrown.parent_before hmem).2 (by omega)
  | succ n ih =>
    intro y hy hn
    obtain ⟨⟨y', p⟩, hmem, rfl⟩ := List.mem_map.mp hy
    dsimp only at hn
    cases p with
    | none => exact ⟨y', hmem, Or.inl rfl⟩
    | some q =>
      -- go up to the parent, which was added earlier
      obtain ⟨hq, hlt⟩ := hgrown.parent_before hmem
      obtain ⟨r, hr, hqr⟩ := ih q hq (by omega)
      refine ⟨r, hr, Or.inr ?_⟩
      rcases hqr with rfl | hdesc
      · exact Relation.TransGen.single hmem
      · exact Relation.TransGen.head hmem hdesc

theorem mem_walkAll {y : α} : y ∈ walkAll nodes ↔ y ∈ labels nodes := by
  rw [walkAll, List.mem_flatMap]
  constructor
  · rintro ⟨r, hr, hy⟩
    rw [List.mem_reverse, mem_children] at hr
    rcases (mem_tree hgrown (mem_labels_of_mem hr)).mp hy with rfl | hdesc
    · exact mem_labels_of_mem hr
    · obtain ⟨d, hd, _⟩ := Relation.TransGen.head'_iff.mp hdesc
      exact mem_labels_of_mem hd
  · intro hy
    obtain ⟨r, hr, hyr⟩ := exists_root hgrown hy
    exact ⟨r, by rw [List.mem_reverse, mem_children]; exact hr,
      (mem_tree hgrown (mem_labels_of_mem hr)).mpr hyr⟩

omit hgrown in
/-- The trees of the roots in the order they were added list what the walk
of the forest lists. -/
theorem flatMap_tree_perm_walkAll :
    ((children nodes none).flatMap (tree nodes)).Perm (walkAll nodes) :=
  ((List.reverse_perm _).flatMap_right _).symm

theorem nodup_walkAll : (walkAll nodes).Nodup :=
  nodup_flatMap_tree hgrown fun _ hr => nodup_tree hgrown (mem_labels_of_mem (mem_children.mp hr))

/-- The walk of the forest lists every node exactly once. -/
theorem walkAll_perm : (walkAll nodes).Perm (labels nodes) :=
  (List.perm_ext_iff_of_nodup (nodup_walkAll hgrown) hgrown.nodup).mpr fun _ => mem_walkAll hgrown

/-! ## Where the trees sit in the walk -/

/-- The tree under a node of a tree is a contiguous part of it. -/
theorem infix_tree {x y : α} (hx : x ∈ labels nodes) (hy : y ∈ tree nodes x) :
    tree nodes y <:+: tree nodes x := by
  refine induction_on_rank hgrown
    (P := fun x => ∀ y, y ∈ tree nodes x → tree nodes y <:+: tree nodes x) ?_ x hx y hy
  intro x hx ih y hy
  rw [tree_eq hgrown hx, List.mem_cons] at hy
  rcases hy with rfl | hy
  · exact List.infix_refl _
  · obtain ⟨c, hc, hyc⟩ := List.mem_flatMap.mp hy
    have hchild : (c, some x) ∈ nodes := mem_children.mp (List.mem_reverse.mp hc)
    rw [tree_eq hgrown hx]
    exact List.infix_cons ((ih c hchild y hyc).trans (List.infix_flatMap_of_mem hc _))

/-- The walks of the children of a node, or of the trees of their own, are a
contiguous part of the walk of the forest. -/
theorem children_infix_walkAll (p : Option α) :
    (children nodes p).reverse.flatMap (tree nodes) <:+: walkAll nodes := by
  cases p with
  | none => exact List.infix_refl _
  | some q =>
    by_cases hq : q ∈ labels nodes
    · obtain ⟨r, hr, hqr⟩ := exists_root hgrown hq
      have hqTree : q ∈ tree nodes r := (mem_tree hgrown (mem_labels_of_mem hr)).mpr hqr
      have hrWalk : tree nodes r <:+: walkAll nodes :=
        List.infix_flatMap_of_mem (List.mem_reverse.mpr (mem_children.mpr hr)) _
      refine List.IsInfix.trans ?_ ((infix_tree hgrown (mem_labels_of_mem hr) hqTree).trans hrWalk)
      rw [tree_eq hgrown hq]
      exact List.infix_cons (List.infix_refl _)
    · rw [children_eq_nil_of_not_mem hgrown hq]
      exact List.nil_infix

theorem infix_walkAll {y : α} (hy : y ∈ labels nodes) : tree nodes y <:+: walkAll nodes := by
  obtain ⟨r, hr, hyr⟩ := exists_root hgrown hy
  exact (infix_tree hgrown (mem_labels_of_mem hr) ((mem_tree hgrown (mem_labels_of_mem hr)).mpr hyr)).trans
    (List.infix_flatMap_of_mem (List.mem_reverse.mpr (mem_children.mpr hr)) _)

/-- Of two siblings, the later one's tree comes before the earlier one's in
the walk of the forest. -/
theorem sibling_infix_walkAll {c₁ c₂ : α} {p : Option α} (hsiblings : [c₁, c₂].Sublist (children nodes p)) :
    ∃ between, tree nodes c₂ ++ between ++ tree nodes c₁ <:+: walkAll nodes := by
  obtain ⟨r₁, r₂, hsplit, hc₁, hc₂⟩ := List.cons_sublist_iff.mp hsiblings
  obtain ⟨s, t, rfl⟩ := List.mem_iff_append.mp hc₁
  obtain ⟨u, v, rfl⟩ := List.mem_iff_append.mp (List.singleton_sublist.mp hc₂)
  refine ⟨(t ++ u).reverse.flatMap (tree nodes), List.IsInfix.trans ?_ (children_infix_walkAll hgrown p)⟩
  rw [hsplit]
  refine ⟨v.reverse.flatMap (tree nodes), s.reverse.flatMap (tree nodes), ?_⟩
  simp [List.reverse_append, List.flatMap_append, List.append_assoc]

/-! ## Positions in the walk -/

/-- Positions in the walk of the forest: a root comes before the nodes of
its tree. -/
theorem idxOf_lt_of_isDescendant_walkAll {x y : α} (hdesc : IsDescendant nodes y x) :
    (walkAll nodes).idxOf x < (walkAll nodes).idxOf y := by
  have hx : x ∈ labels nodes := by
    obtain ⟨c, _, hc⟩ := Relation.TransGen.tail'_iff.mp hdesc
    exact (hgrown.parent_before hc).1
  have hpairwise := pairwise_idxOf_lt_of_infix (nodup_walkAll hgrown) (infix_walkAll hgrown hx)
  have hy : y ∈ tree nodes x := (mem_tree hgrown hx).mpr (Or.inr hdesc)
  rw [tree_eq hgrown hx] at hpairwise hy
  rcases List.mem_cons.mp hy with rfl | hy
  · exact absurd hdesc (not_isDescendant_self hgrown y)
  · exact List.rel_of_pairwise_cons hpairwise hy

/-- Of two siblings, every node of the later one's tree comes before every
node of the earlier one's. -/
theorem idxOf_lt_of_siblings {c₁ c₂ : α} {p : Option α}
    (hsiblings : [c₁, c₂].Sublist (children nodes p)) {a b : α} (ha : a ∈ tree nodes c₂)
    (hb : b ∈ tree nodes c₁) : (walkAll nodes).idxOf a < (walkAll nodes).idxOf b := by
  obtain ⟨between, hsegment⟩ := sibling_infix_walkAll hgrown hsiblings
  have hpairwise := pairwise_idxOf_lt_of_infix (nodup_walkAll hgrown) hsegment
  rw [List.append_assoc, List.pairwise_append] at hpairwise
  exact hpairwise.2.2 a ha b (List.mem_append_right _ hb)

end Forest

/-! ## Recursive walks as folds

A recursion that visits a node and then goes down into its children from the
last added to the first, with one level less fuel, does to a state what a
left fold of the visit along `walk` does. A recursion in `Except` stops at the
first error, as the fold does; its children may be read from the state, as
long as a property every visit keeps makes them the children in the forest.
-/

section Folds

variable [DecidableEq α] {nodes : List (α × Option α)} {σ : Type}

section Pure

variable (visit : σ → α → σ) (g : Nat → α → σ → σ)
  (hzero : ∀ x s, g 0 x s = s)
  (hsucc : ∀ n x s, x ∈ labels nodes →
    g (n + 1) x s = (children nodes (some x)).reverse.foldl (fun s c => g n c s) (visit s x))
include hzero hsucc

/-- A recursive walk with a pure visit is a fold along `walk`. -/
theorem eq_foldl_walk : ∀ n x s, x ∈ labels nodes → g n x s = (walk nodes n x).foldl visit s := by
  intro n
  induction n with
  | zero => exact fun x s _ => hzero x s
  | succ n ih =>
    intro x s hx
    rw [hsucc n x s hx, walk, List.foldl_cons]
    -- the children, one after another, each with its own walk
    have hchildren : ∀ (cs : List α) s, (∀ c ∈ cs, c ∈ labels nodes) →
        cs.foldl (fun s c => g n c s) s = (cs.flatMap (walk nodes n)).foldl visit s := by
      intro cs
      induction cs with
      | nil => exact fun s _ => rfl
      | cons c cs ihcs =>
        intro s hcs
        rw [List.foldl_cons, List.flatMap_cons, List.foldl_append, ih c s (hcs c List.mem_cons_self)]
        exact ihcs _ fun c' hc' => hcs c' (List.mem_cons_of_mem _ hc')
    exact hchildren _ _ fun c hc => mem_labels_of_mem (mem_children.mp (List.mem_reverse.mp hc))

/-- The walks of a list of nodes one after another, as a fold. -/
theorem foldl_eq_foldl_flatMap_walk (n : Nat) :
    ∀ (cs : List α) s, (∀ c ∈ cs, c ∈ labels nodes) →
      cs.foldl (fun s c => g n c s) s = (cs.flatMap (walk nodes n)).foldl visit s
  | [], _, _ => rfl
  | c :: cs, s, hcs => by
    rw [List.foldl_cons, List.flatMap_cons, List.foldl_append,
      eq_foldl_walk visit g hzero hsucc n c s (hcs c List.mem_cons_self)]
    exact foldl_eq_foldl_flatMap_walk n cs _ fun c' hc' => hcs c' (List.mem_cons_of_mem _ hc')

end Pure

section Except

variable {ε : Type} (P : σ → Prop)

/-- Sequencing two runs that agree on every state the property holds of. -/
theorem bind_congr_of_invariant {x : Except ε σ} {f f' : σ → Except ε σ}
    (hx : ∀ s, x = .ok s → P s) (hf : ∀ s, P s → f s = f' s) : x >>= f = x >>= f' := by
  cases hres : x with
  | error e => rfl
  | ok s => exact hf s (hx s hres)

variable (visit : σ → α → Except ε σ) (g : Nat → α → σ → Except ε σ)
  (hvisit : ∀ s x s', P s → visit s x = .ok s' → P s')
  (hzero : ∀ x s, g 0 x s = .ok s)
  (hsucc : ∀ n x s, x ∈ labels nodes → P s →
    g (n + 1) x s = visit s x >>= fun s' =>
      (children nodes (some x)).reverse.foldlM (fun s c => g n c s) s')
include hvisit hzero hsucc

/-- A recursive walk in `Except` is a fold along `walk` that stops at the
first error. -/
theorem eq_foldlM_walk :
    ∀ n x s, x ∈ labels nodes → P s → g n x s = (walk nodes n x).foldlM visit s := by
  intro n
  induction n with
  | zero => exact fun x s _ _ => hzero x s
  | succ n ih =>
    intro x s hx hs
    rw [hsucc n x s hx hs, walk, List.foldlM_cons]
    have hchildren : ∀ (cs : List α) s, (∀ c ∈ cs, c ∈ labels nodes) → P s →
        cs.foldlM (fun s c => g n c s) s = (cs.flatMap (walk nodes n)).foldlM visit s := by
      intro cs
      induction cs with
      | nil => exact fun s _ _ => rfl
      | cons c cs ihcs =>
        intro s hcs hs
        rw [List.foldlM_cons, List.flatMap_cons, List.foldlM_append,
          ih c s (hcs c List.mem_cons_self) hs]
        -- the states the walk of `c` ends in keep the property
        refine bind_congr_of_invariant P
          (fun s' h => Run.foldlM_invariant P (fun a y b ha hy => hvisit a y b ha hy) _ s s' hs h)
          fun s' hs' => ihcs s' (fun c' hc' => hcs c' (List.mem_cons_of_mem _ hc')) hs'
    exact bind_congr_of_invariant P (fun s' h => hvisit s x s' hs h)
      fun s' hs' => hchildren _ s'
        (fun c hc => mem_labels_of_mem (mem_children.mp (List.mem_reverse.mp hc))) hs'

/-- The walks of a list of nodes one after another, as a fold in `Except`. -/
theorem foldlM_eq_foldlM_flatMap_walk (n : Nat) :
    ∀ (cs : List α) s, (∀ c ∈ cs, c ∈ labels nodes) → P s →
      cs.foldlM (fun s c => g n c s) s = (cs.flatMap (walk nodes n)).foldlM visit s
  | [], _, _, _ => rfl
  | c :: cs, s, hcs, hs => by
    rw [List.foldlM_cons, List.flatMap_cons, List.foldlM_append,
      eq_foldlM_walk P visit g hvisit hzero hsucc n c s (hcs c List.mem_cons_self) hs]
    refine bind_congr_of_invariant P
      (fun s' h => Run.foldlM_invariant P (fun a y b ha hy => hvisit a y b ha hy) _ s s' hs h)
      fun s' hs' => foldlM_eq_foldlM_flatMap_walk n cs s'
        (fun c' hc' => hcs c' (List.mem_cons_of_mem _ hc')) hs'

end Except

end Folds

end Stratum.Verified.LinkedForest
