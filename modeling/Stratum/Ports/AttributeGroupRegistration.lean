import Stratum.Ports.AttributeGroupPaths
import Stratum.Verified.OrderedContainers

/-!
# The registration invariant of the attribute database

A query registered at the root with the paths `P` is kept, at every group
the paths select, in the shape the registration loops build
(`QueryRegistered`): the paths that go on below the group, a path that covers
it, the group's own descriptor as query node, the child groups some path
selects and the attributes some path asks for, each with a path that asks
for it. A group no path selects keeps nothing for the query (`QueryAt`).
Together with the layout of every group against the schema
(`GroupWellFormed`), this holds at every group of the tree (`Every`); the
root's registry `R` gives the paths of each query.

Main results:

* `every_iff`, `Every.mono` — the invariant of a tree is the invariant of its
  root and of each child's subtree;
* `GroupOk.of_sameLayout` — what the invariant reads of a group besides a
  query's registration is its layout, which most calls keep;
* `registerQueryInternal_fresh` — registering a query nothing has registered
  establishes its registration at every group of a subtree, and leaves every
  other query's;
* `unregisterQuery_every` — unregistering a query removes it from every group
  and leaves every other query's registration.
-/

set_option linter.unusedSectionVars false

namespace Stratum.Ports.AttributeGroup

open Stratum.Ports.Status Stratum.Verified.InPlaceLoops Stratum.Verified.OrderedContainers

/-! ## Hash maps -/

section Maps

variable {κ β : Type} [DecidableEq κ]

@[simp] theorem lookup_assocSet (k k' : κ) (v : β) (m : List (κ × β)) :
    (assocSet k v m).lookup k' = if k' = k then some v else m.lookup k' := by
  unfold assocSet
  split
  · rename_i hsome
    exact lookup_map_update k k' v m hsome
  · rename_i hnone
    exact lookup_append_singleton k k' v m (Option.not_isSome_iff_eq_none.mp hnone)

theorem map_fst_assocSet_of_isSome {k : κ} {v : β} {m : List (κ × β)}
    (h : (m.lookup k).isSome) : (assocSet k v m).map Prod.fst = m.map Prod.fst := by
  rw [assocSet, if_pos h, List.map_map]
  refine List.map_congr_left fun e _ => ?_
  by_cases he : e.1 = k <;> simp [he]

theorem map_fst_assocSet_of_none {k : κ} {v : β} {m : List (κ × β)} (h : m.lookup k = none) :
    (assocSet k v m).map Prod.fst = m.map Prod.fst ++ [k] := by
  rw [assocSet, if_neg (by simp [h]), List.map_append, List.map_singleton]

theorem mem_assocSet {k : κ} {v : β} {m : List (κ × β)} {e : κ × β} (h : e ∈ assocSet k v m) :
    e ∈ m ∨ e = (k, v) := by
  unfold assocSet at h
  split at h
  · obtain ⟨e₀, he₀, rfl⟩ := List.mem_map.mp h
    by_cases hk : e₀.1 = k
    · exact Or.inr (by simp [hk])
    · exact Or.inl (by simpa [hk] using he₀)
  · rcases List.mem_append.mp h with hm | hk
    · exact Or.inl hm
    · exact Or.inr (List.mem_singleton.mp hk)

theorem nodup_map_fst_assocSet {k : κ} {v : β} {m : List (κ × β)} (h : (m.map Prod.fst).Nodup) :
    ((assocSet k v m).map Prod.fst).Nodup := by
  cases hk : m.lookup k with
  | some _ => rwa [map_fst_assocSet_of_isSome (by simp [hk])]
  | none =>
      rw [map_fst_assocSet_of_none hk, List.nodup_append]
      refine ⟨h, List.nodup_singleton k, ?_⟩
      intro a ha b hb hab
      rw [List.mem_singleton] at hb
      rw [hab, hb] at ha
      exact lookup_eq_none_iff.mp hk ha

end Maps

/-! ## Every group of a tree -/

section Tree

variable {D A Q S : Type}

mutual

/-- `L` holds at the group at `loc` and at every group below it. -/
def Every (L : Location → AttributeGroupInternal D A Q S → Prop) :
    Location → AttributeGroupInternal D A Q S → Prop
  | loc, g@⟨_, _, _, children, _, _, _⟩ => L loc g ∧ EveryChild L loc children

/-- `Every L` at each child group of the group at `loc`. -/
def EveryChild (L : Location → AttributeGroupInternal D A Q S → Prop) (loc : Location) :
    List (ChildKey × AttributeGroupInternal D A Q S) → Prop
  | [] => True
  | (key, child) :: rest => Every L (loc ++ [key]) child ∧ EveryChild L loc rest

end

theorem everyChild_iff (L : Location → AttributeGroupInternal D A Q S → Prop) (loc : Location) :
    ∀ children : List (ChildKey × AttributeGroupInternal D A Q S),
      EveryChild L loc children ↔ ∀ key child, (key, child) ∈ children → Every L (loc ++ [key]) child
  | [] => by simp [EveryChild]
  | (key, child) :: rest => by
      rw [EveryChild, everyChild_iff L loc rest]
      constructor
      · rintro ⟨hchild, hrest⟩ key' child' hmem
        rcases List.mem_cons.mp hmem with heq | hmem'
        · cases heq
          exact hchild
        · exact hrest key' child' hmem'
      · intro h
        exact ⟨h key child List.mem_cons_self,
          fun key' child' hmem => h key' child' (List.mem_cons_of_mem _ hmem)⟩

theorem every_iff (L : Location → AttributeGroupInternal D A Q S → Prop) (loc : Location)
    (g : AttributeGroupInternal D A Q S) :
    Every L loc g ↔ L loc g ∧ ∀ key child, (key, child) ∈ g.children → Every L (loc ++ [key]) child := by
  cases g
  rw [Every, everyChild_iff]

/-- A group whose children are those of a group where `Every L` holds has it
too once `L` holds at the group itself. -/
theorem every_of_children {L : Location → AttributeGroupInternal D A Q S → Prop} {loc : Location}
    {g g' : AttributeGroupInternal D A Q S} (hg : Every L loc g) (hlocal : L loc g')
    (hchildren : g'.children = g.children) : Every L loc g' := by
  rw [every_iff] at hg ⊢
  exact ⟨hlocal, hchildren ▸ hg.2⟩

mutual

/-- `Every` is monotone in the property, for the groups at and below `loc`. -/
theorem Every.mono {L L' : Location → AttributeGroupInternal D A Q S → Prop} :
    ∀ (loc : Location) (g : AttributeGroupInternal D A Q S),
      (∀ loc' g', loc <+: loc' → L loc' g' → L' loc' g') → Every L loc g → Every L' loc g
  | loc, ⟨_, _, _, children, _, _, _⟩, h, ⟨hg, hchildren⟩ =>
      ⟨h loc _ (List.prefix_refl loc) hg, EveryChild.mono loc children h hchildren⟩

theorem EveryChild.mono {L L' : Location → AttributeGroupInternal D A Q S → Prop} :
    ∀ (loc : Location) (children : List (ChildKey × AttributeGroupInternal D A Q S)),
      (∀ loc' g', loc <+: loc' → L loc' g' → L' loc' g') →
        EveryChild L loc children → EveryChild L' loc children
  | _, [], _, _ => trivial
  | loc, (key, child) :: rest, h, ⟨hchild, hrest⟩ =>
      ⟨Every.mono (loc ++ [key]) child
          (fun loc' g' hpre => h loc' g' ((List.prefix_append loc [key]).trans hpre)) hchild,
        EveryChild.mono loc rest h hrest⟩

end

end Tree

/-! ## The invariant at one group -/

/-- Whether a child group is one of a repeated field. -/
def ChildKey.isRepeated : ChildKey → Bool
  | .single _ => false
  | .repeated _ _ => true

section Invariant

variable {D E A Q S : Type} [DecidableEq E] [DecidableEq A] [DecidableEq Q] [DecidableEq S]
  (schema : Schema D E)

/-- A group at `loc` laid out as its message: its depth is that of `loc`, its
attributes are scalar fields and its child groups message fields of their
descriptors, of the arity of their keys; names, values, keys and queries are
each held once, and the members of a repeated family are numbered from `0`. -/
structure GroupWellFormed (loc : Location) (g : AttributeGroupInternal D A Q S) : Prop where
  depth_eq : g.depth = loc.length
  attribute_field : ∀ name value, (name, value) ∈ g.attributes →
    ∃ field, schema.findFieldByName g.descriptor name = some field ∧
      field.cppType.isMessage = false
  child_field : ∀ key child, (key, child) ∈ g.children →
    ∃ field, schema.findFieldByName g.descriptor key.name = some field ∧
      field.cppType = .message child.descriptor ∧ field.isRepeated = key.isRepeated
  names_nodup : (g.attributes.map Prod.fst).Nodup
  values_nodup : (g.attributes.map Prod.snd).Nodup
  keys_nodup : (g.children.map Prod.fst).Nodup
  index_lt : ∀ name index, ChildKey.repeated name index ∈ g.children.map Prod.fst →
    index < familySize g name
  queries_nodup : (g.registeredQueries.map Prod.fst).Nodup

/-- The attributes of a group at `loc` a query of the paths `P` reads, each
recorded under its name as setter with a path that asks for it. -/
structure AttributesRegistered (P : List Path) (loc : Location) (attributes : List (String × A))
    (registered : List (A × AttributeInfo)) : Prop where
  perm : (registered.map fun e => (e.2.setter, e.1)).Perm
    (attributes.filter fun a => P.any (attrMatch a.1 loc))
  path : ∀ e ∈ registered, e.2.queryPath ∈ P ∧ attrMatch e.2.setter loc e.2.queryPath = true

/-- What a group at `loc` keeps for a query of the paths `P`: the paths that
go on below it, a path that covers it when one does, its own descriptor as
query node, the child groups some path selects, and the attributes some path
asks for, each under its name as setter with a path that asks for it. -/
structure QueryRegistered (P : List Path) (loc : Location) (g : AttributeGroupInternal D A Q S)
    (info : RegisteredQuery D A) : Prop where
  paths_eq : info.paths = P.filter (reaches loc)
  queryAll : Picks (covers loc) P info.queryAllFields
  node_eq : info.queryNode = g.descriptor
  childGroups_mem : ∀ key ∈ info.registeredChildGroups, key ∈ g.children.map Prod.fst
  childGroups_iff : ∀ key child, (key, child) ∈ g.children →
    (key ∈ info.registeredChildGroups ↔ relevant P (loc ++ [key]) = true)
  attributes : AttributesRegistered P loc g.attributes info.registeredAttributes

/-- The registration of `q` at the group at `loc`, for `q` registered at the
root with the paths `R`, or not registered (`none`): kept exactly where the
paths select the group, in the shape of `QueryRegistered`. -/
structure QueryAt (R : Option (List Path)) (q : Q) (loc : Location)
    (g : AttributeGroupInternal D A Q S) : Prop where
  isSome_eq : (g.registeredQueries.lookup q).isSome = R.any (registeredAt · loc)
  registered : ∀ P info, R = some P → g.registeredQueries.lookup q = some info →
    QueryRegistered P loc g info

/-- The invariant at one group, for the paths `R q` each query `q` is
registered with at the root. -/
def GroupOk (R : Q → Option (List Path)) (loc : Location) (g : AttributeGroupInternal D A Q S) :
    Prop :=
  GroupWellFormed schema loc g ∧ ∀ q, QueryAt (R q) q loc g

/-- The invariant of the database of root descriptor `d`, with the registry
`R`: every query's paths are non-empty and valid, and every group is well
formed and keeps what each query asks of it. -/
structure DatabaseOk (d : D) (R : Q → Option (List Path)) (root : AttributeGroupInternal D A Q S) :
    Prop where
  descriptor_eq : root.descriptor = d
  paths_valid : ∀ q P, R q = some P → ∀ p ∈ P, p ≠ [] ∧ validatePath schema d p = .ok ()
  every : Every (GroupOk schema R) [] root

end Invariant

/-! ## What the invariant reads of a group -/

section Layout

variable {D E A Q S : Type} [DecidableEq E] [DecidableEq A] [DecidableEq Q] [DecidableEq S]
  {schema : Schema D E}

/-- The child groups by key, with their descriptors. -/
def childLayout (children : List (ChildKey × AttributeGroupInternal D A Q S)) :
    List (ChildKey × D) :=
  children.map fun e => (e.1, e.2.descriptor)

theorem map_fst_of_childLayout_eq {children children' : List (ChildKey × AttributeGroupInternal D A Q S)}
    (h : childLayout children' = childLayout children) :
    children'.map Prod.fst = children.map Prod.fst := by
  have hkeys := congrArg (List.map Prod.fst) h
  simpa [childLayout, List.map_map, Function.comp_def] using hkeys

theorem exists_child_of_childLayout_eq
    {children children' : List (ChildKey × AttributeGroupInternal D A Q S)}
    (h : childLayout children' = childLayout children) {key : ChildKey}
    {child' : AttributeGroupInternal D A Q S} (hmem : (key, child') ∈ children') :
    ∃ child, (key, child) ∈ children ∧ child.descriptor = child'.descriptor := by
  have hlayout : (key, child'.descriptor) ∈ childLayout children' :=
    List.mem_map.mpr ⟨(key, child'), hmem, rfl⟩
  rw [h] at hlayout
  obtain ⟨⟨key₀, child⟩, hchild, heq⟩ := List.mem_map.mp hlayout
  rw [Prod.mk.injEq] at heq
  obtain ⟨rfl, hdesc⟩ := heq
  exact ⟨child, hchild, hdesc⟩

theorem familySize_eq_length_keys (g : AttributeGroupInternal D A Q S) (name : String) :
    familySize g name = ((g.children.map Prod.fst).filter (ChildKey.inFamily name)).length := by
  simp [familySize, List.filter_map, Function.comp_def]

/-- Two groups alike in all the invariant reads of a group besides what it
keeps for the queries. -/
structure SameLayout (g g' : AttributeGroupInternal D A Q S) : Prop where
  descriptor_eq : g'.descriptor = g.descriptor
  depth_eq : g'.depth = g.depth
  attributes_eq : g'.attributes = g.attributes
  children_eq : childLayout g'.children = childLayout g.children

theorem SameLayout.trans {g g' g'' : AttributeGroupInternal D A Q S} (h : SameLayout g g')
    (h' : SameLayout g' g'') : SameLayout g g'' :=
  ⟨h'.descriptor_eq.trans h.descriptor_eq, h'.depth_eq.trans h.depth_eq,
    h'.attributes_eq.trans h.attributes_eq, h'.children_eq.trans h.children_eq⟩

theorem GroupWellFormed.of_sameLayout {loc : Location} {g g' : AttributeGroupInternal D A Q S}
    (hwf : GroupWellFormed schema loc g) (h : SameLayout g g')
    (hqueries : (g'.registeredQueries.map Prod.fst).Nodup) : GroupWellFormed schema loc g' := by
  have hkeys := map_fst_of_childLayout_eq h.children_eq
  refine ⟨h.depth_eq ▸ hwf.depth_eq, ?_, ?_, h.attributes_eq ▸ hwf.names_nodup,
    h.attributes_eq ▸ hwf.values_nodup, hkeys ▸ hwf.keys_nodup, ?_, hqueries⟩
  · intro name value hmem
    rw [h.attributes_eq] at hmem
    rw [h.descriptor_eq]
    exact hwf.attribute_field name value hmem
  · intro key child' hmem
    obtain ⟨child, hchild, hdesc⟩ := exists_child_of_childLayout_eq h.children_eq hmem
    rw [h.descriptor_eq, ← hdesc]
    exact hwf.child_field key child hchild
  · intro name index hmem
    rw [hkeys] at hmem
    rw [familySize_eq_length_keys, hkeys, ← familySize_eq_length_keys g name]
    exact hwf.index_lt name index hmem

theorem QueryRegistered.of_sameLayout {P : List Path} {loc : Location}
    {g g' : AttributeGroupInternal D A Q S} {info : RegisteredQuery D A}
    (hreg : QueryRegistered P loc g info) (h : SameLayout g g') : QueryRegistered P loc g' info := by
  have hkeys := map_fst_of_childLayout_eq h.children_eq
  refine ⟨hreg.paths_eq, hreg.queryAll, hreg.node_eq.trans h.descriptor_eq.symm, ?_, ?_, ?_⟩
  · intro key hkey
    rw [hkeys]
    exact hreg.childGroups_mem key hkey
  · intro key child' hmem
    obtain ⟨child, hchild, -⟩ := exists_child_of_childLayout_eq h.children_eq hmem
    exact hreg.childGroups_iff key child hchild
  · rw [h.attributes_eq]
    exact hreg.attributes

theorem QueryAt.of_sameLayout {R : Option (List Path)} {q : Q} {loc : Location}
    {g g' : AttributeGroupInternal D A Q S} (hq : QueryAt R q loc g) (h : SameLayout g g')
    (hlookup : g'.registeredQueries.lookup q = g.registeredQueries.lookup q) : QueryAt R q loc g' :=
  ⟨hlookup ▸ hq.isSome_eq,
    fun P info hR hinfo => (hq.registered P info hR (hlookup ▸ hinfo)).of_sameLayout h⟩

theorem GroupOk.of_sameLayout {R : Q → Option (List Path)} {loc : Location}
    {g g' : AttributeGroupInternal D A Q S} (hok : GroupOk schema R loc g) (h : SameLayout g g')
    (hqueries : g'.registeredQueries = g.registeredQueries) : GroupOk schema R loc g' :=
  ⟨hok.1.of_sameLayout h (hqueries ▸ hok.1.queries_nodup),
    fun q => (hok.2 q).of_sameLayout h (by rw [hqueries])⟩

/-! ## Groups a query does not select -/

theorem registeredAt_eq_false_of_prefix {P : List Path} {loc loc' : Location} (hloc : loc ≠ [])
    (hrel : relevant P loc = false) (hpre : loc <+: loc') : registeredAt P loc' = false := by
  obtain ⟨rest, rfl⟩ := hpre
  have hrel' : relevant P (loc ++ rest) = false := by
    cases h : relevant P (loc ++ rest)
    · rfl
    · rw [relevant_of_append rest h] at hrel
      cases hrel
  simp [registeredAt, hloc, hrel']

theorem QueryAt.lookup_eq_none {X : Option (List Path)} {q : Q} {loc : Location}
    {g : AttributeGroupInternal D A Q S} (hq : QueryAt X q loc g)
    (hX : X.any (registeredAt · loc) = false) : g.registeredQueries.lookup q = none := by
  have hsome := hq.isSome_eq
  rw [hX] at hsome
  exact Option.not_isSome_iff_eq_none.mp (by simp [hsome])

theorem QueryAt.of_lookup_eq_none {Y : Option (List Path)} {q : Q} {loc : Location}
    {g : AttributeGroupInternal D A Q S} (hnone : g.registeredQueries.lookup q = none)
    (hY : Y.any (registeredAt · loc) = false) : QueryAt Y q loc g :=
  ⟨by rw [hnone, hY]; rfl, fun _ _ _ hinfo => by rw [hnone] at hinfo; cases hinfo⟩

/-- Where a query selects no group, before the registry changes at it or
after, the invariant holds for the new registry. -/
theorem every_update_of_unselected {R : Q → Option (List Path)} {q : Q} {Y : Option (List Path)}
    {loc : Location} {g : AttributeGroupInternal D A Q S}
    (hsel : ∀ loc', loc <+: loc' →
      (R q).any (registeredAt · loc') = false ∧ Y.any (registeredAt · loc') = false)
    (hg : Every (GroupOk schema R) loc g) : Every (GroupOk schema (Function.update R q Y)) loc g := by
  refine Every.mono loc g (fun loc' g' hpre hok => ⟨hok.1, fun q' => ?_⟩) hg
  by_cases hq : q' = q
  · subst hq
    rw [Function.update_self]
    exact QueryAt.of_lookup_eq_none ((hok.2 q').lookup_eq_none (hsel loc' hpre).1) (hsel loc' hpre).2
  · rw [Function.update_of_ne hq]
    exact hok.2 q'

/-- No group at or below a group some paths do not select is selected. -/
theorem unselected_of_not_relevant {P : List Path} {loc : Location} (hloc : loc ≠ [])
    (hrel : relevant P loc = false) (loc' : Location) (hpre : loc <+: loc') :
    (some P).any (registeredAt · loc') = false := by
  rw [Option.any_some, registeredAt_eq_false_of_prefix hloc hrel hpre]

end Layout

/-! ## Registering a query at one group -/

section Registering

variable {D E A Q S : Type} [DecidableEq E] [DecidableEq A] [DecidableEq Q] [DecidableEq S]
  {schema : Schema D E}

theorem AttributesRegistered.nil {P : List Path} {loc : Location} :
    AttributesRegistered P loc ([] : List (String × A)) [] :=
  ⟨by simp, by simp⟩

/-- An attribute added after the others is recorded when a path asks for it. -/
theorem AttributesRegistered.append {P : List Path} {loc : Location}
    {attributes : List (String × A)} {registered : List (A × AttributeInfo)} {name : String}
    {value : A} {r : Option Path} (h : AttributesRegistered P loc attributes registered)
    (hpicks : Picks (attrMatch name loc) P r) :
    AttributesRegistered P loc (attributes ++ [(name, value)])
      (registered ++ (r.map fun p => (value, ⟨name, p⟩)).toList) := by
  constructor
  · rw [List.map_append, List.filter_append]
    refine h.perm.append ?_
    have hsome := hpicks.isSome_eq
    cases r with
    | none => simp [← hsome]
    | some p => simp [← hsome]
  · intro e he
    rcases List.mem_append.mp he with hold | hnew
    · exact h.path e hold
    · cases r with
      | none => simp at hnew
      | some p =>
          simp only [Option.map_some, Option.toList_some, List.mem_singleton] at hnew
          subst hnew
          exact hpicks.mem p rfl

/-- Only the values of the attributes are recorded. -/
theorem AttributesRegistered.lookup_eq_none {P : List Path} {loc : Location}
    {attributes : List (String × A)} {registered : List (A × AttributeInfo)} {value : A}
    (h : AttributesRegistered P loc attributes registered)
    (hvalue : value ∉ attributes.map Prod.snd) : registered.lookup value = none := by
  refine lookup_eq_none_iff.mpr fun hmem => hvalue ?_
  obtain ⟨e, he, rfl⟩ := List.mem_map.mp hmem
  have hpair : (e.2.setter, e.1) ∈ attributes.filter fun a => P.any (attrMatch a.1 loc) :=
    h.perm.subset (List.mem_map.mpr ⟨e, he, rfl⟩)
  exact List.mem_map.mpr ⟨_, (List.mem_filter.mp hpair).1, rfl⟩

/-- Erasing an attribute erases its record. -/
theorem AttributesRegistered.erase {P : List Path} {loc : Location}
    {attributes : List (String × A)} {registered : List (A × AttributeInfo)} {name : String}
    {value : A} (h : AttributesRegistered P loc attributes registered)
    (hmem : (name, value) ∈ attributes) (hnames : (attributes.map Prod.fst).Nodup)
    (hvalues : (attributes.map Prod.snd).Nodup) :
    AttributesRegistered P loc (attributes.filter (·.1 != name))
      (registered.filter (·.1 != value)) := by
  -- an attribute is the one erased exactly when its value is the erased value
  have hsame : ∀ a ∈ attributes, (a.2 != value) = (a.1 != name) := by
    intro a ha
    by_cases hn : a.1 = name
    · have heq : a = (name, value) := List.inj_on_of_nodup_map hnames ha hmem hn
      simp [heq]
    · have hv : a.2 ≠ value := fun hv => hn (by
        rw [List.inj_on_of_nodup_map hvalues ha hmem hv])
      rw [bne_iff_ne.mpr hv, bne_iff_ne.mpr hn]
  constructor
  · have hleft : (registered.filter (·.1 != value)).map (fun e => (e.2.setter, e.1)) =
        (registered.map fun e => (e.2.setter, e.1)).filter (·.2 != value) := by
      rw [List.filter_map]
      rfl
    have hright : (attributes.filter (·.1 != name)).filter (fun a => P.any (attrMatch a.1 loc)) =
        (attributes.filter fun a => P.any (attrMatch a.1 loc)).filter (·.2 != value) := by
      rw [List.filter_filter, List.filter_filter]
      refine List.filter_congr fun a ha => ?_
      rw [hsame a ha, Bool.and_comm]
    rw [hleft, hright]
    exact h.perm.filter _
  · intro e he
    exact h.path e (List.mem_filter.mp he).1

/-- `RegisterQueryAttribute` at a group whose query keeps the paths of `P` that
reach it and a path that covers it: it succeeds, and records the attribute
with a path that asks for it when one does. -/
theorem registerQueryAttribute_eq {P : List Path} {loc : Location}
    {g : AttributeGroupInternal D A Q S} {info : RegisteredQuery D A} {name : String} {value : A}
    (hdepth : g.depth = loc.length) (hpaths : info.paths = P.filter (reaches loc))
    (hqa : Picks (covers loc) P info.queryAllFields) (hnode : info.queryNode = g.descriptor)
    (hfield : ∃ field, schema.findFieldByName g.descriptor name = some field ∧
      field.cppType.isMessage = false)
    (hfresh : info.registeredAttributes.lookup value = none) :
    ∃ r, Picks (attrMatch name loc) P r ∧
      registerQueryAttribute schema g.depth value name info =
        (.ok (), { info with registeredAttributes :=
          info.registeredAttributes ++ (r.map fun p => (value, ⟨name, p⟩)).toList }) := by
  have hlen : ∀ p ∈ info.paths, g.depth < p.length := by
    intro p hp
    rw [hpaths] at hp
    rw [hdepth]
    exact length_lt_of_reaches (List.mem_filter.mp hp).2
  obtain ⟨r, hr, hsome, hmem⟩ :=
    attributeQueryPath_eq g.depth name info.paths info.queryAllFields hlen
  have hpicks : Picks (attrMatch name loc) P r := by
    constructor
    · rw [hsome, hqa.isSome_eq, hpaths, hdepth, any_attrMatch]
    · intro p hp
      rcases hmem p hp with hall | ⟨hp', hends⟩
      · obtain ⟨hpP, hcov⟩ := hqa.mem p hall
        exact ⟨hpP, by rw [attrMatch_eq, hcov]; rfl⟩
      · rw [hpaths] at hp'
        obtain ⟨hpP, hreach⟩ := List.mem_filter.mp hp'
        rw [hdepth] at hends
        exact ⟨hpP, by rw [attrMatch_eq, hreach, hends]; simp⟩
  refine ⟨r, hpicks, ?_⟩
  obtain ⟨field, hfind, hmsg⟩ := hfield
  have hsetter : nodeAddAttribute schema info.queryNode name = .ok name := by
    simp [nodeAddAttribute, nodeFieldDescriptor, hnode, hfind, hmsg, retCheck, bind, Except.bind,
      pure, Except.pure]
  cases r with
  | none => simp [registerQueryAttribute, hr]
  | some p => simp [registerQueryAttribute, hr, hsetter, hfresh]

/-- The loop of `RegisterQueryInternal` over the attributes of a group, from
the record of those before `todo`: it records each attribute some path asks
for. -/
theorem foldStatus_registerQueryAttribute {P : List Path} {loc : Location}
    {g : AttributeGroupInternal D A Q S} (hwf : GroupWellFormed schema loc g) :
    ∀ (todo done : List (String × A)) (info : RegisteredQuery D A),
      done ++ todo = g.attributes → info.paths = P.filter (reaches loc) →
      Picks (covers loc) P info.queryAllFields → info.queryNode = g.descriptor →
      AttributesRegistered P loc done info.registeredAttributes →
      ∃ registered, foldStatus (fun info (e : String × A) =>
          registerQueryAttribute schema g.depth e.2 e.1 info) info todo =
        (.ok (), { info with registeredAttributes := registered }) ∧
        AttributesRegistered P loc g.attributes registered
  | [], done, info, hsplit, _, _, _, hdone =>
      ⟨info.registeredAttributes, rfl, by simpa [← hsplit] using hdone⟩
  | (name, value) :: todo, done, info, hsplit, hpaths, hqa, hnode, hdone => by
      have hmem : (name, value) ∈ g.attributes := by
        rw [← hsplit]
        simp
      -- the values are held once, so this one is not recorded yet
      have hvalue : value ∉ done.map Prod.snd := by
        have hnodup := hwf.values_nodup
        rw [← hsplit, List.map_append, List.nodup_append] at hnodup
        exact fun h => hnodup.2.2 value h value (by simp) rfl
      obtain ⟨r, hpicks, hstep⟩ := registerQueryAttribute_eq hwf.depth_eq hpaths hqa hnode
        (hwf.attribute_field name value hmem) (hdone.lookup_eq_none hvalue)
      obtain ⟨registered, hfold, hregistered⟩ := foldStatus_registerQueryAttribute hwf todo
        (done ++ [(name, value)]) { info with registeredAttributes :=
          info.registeredAttributes ++ (r.map fun p => (value, ⟨name, p⟩)).toList }
        (by simp [← hsplit]) hpaths hqa hnode (hdone.append hpicks)
      exact ⟨registered, by rw [foldStatus, hstep]; exact hfold, hregistered⟩

theorem nodeAddChildGroup_eq {node : D} {key : ChildKey} {field : FieldDescriptor D E}
    {messageType : D} (hfield : schema.findFieldByName node key.name = some field)
    (hmsg : field.cppType = .message messageType) (hrep : field.isRepeated = key.isRepeated) :
    nodeAddChildGroup schema node key = .ok messageType := by
  cases key with
  | single name =>
      simp only [ChildKey.name] at hfield
      simp only [ChildKey.isRepeated] at hrep
      simp [nodeAddChildGroup, nodeFieldDescriptor, hfield, hmsg, hrep, bind, Except.bind, pure,
        Except.pure]
  | repeated name index =>
      simp only [ChildKey.name] at hfield
      simp only [ChildKey.isRepeated] at hrep
      simp [nodeAddChildGroup, nodeFieldDescriptor, hfield, hmsg, hrep, bind, Except.bind, pure,
        Except.pure]

/-- `RegisterQueryChild` and `RegisterQueryRepeatedChild` at a group whose
query keeps the paths of `P` that reach it and a path that covers it: the
child is registered, with the paths that reach it and a path that covers it,
exactly when it is relevant. -/
theorem registerQueryChildWith_eq {P : List Path} {loc : Location} {depth : Nat}
    {info : RegisteredQuery D A} {key : ChildKey} {child : AttributeGroupInternal D A Q S}
    {field : FieldDescriptor D E}
    (registerInternal : D → List Path → Option Path →
      StatusOr Unit × AttributeGroupInternal D A Q S)
    (hdepth : depth = loc.length) (hpaths : info.paths = P.filter (reaches loc))
    (hqa : Picks (covers loc) P info.queryAllFields)
    (hfield : schema.findFieldByName info.queryNode key.name = some field)
    (hmsg : field.cppType = .message child.descriptor) (hrep : field.isRepeated = key.isRepeated) :
    ∃ queryAll, Picks (covers (loc ++ [key])) P queryAll ∧
      registerQueryChildWith schema depth key info child registerInternal =
        if relevant P (loc ++ [key]) then
          match registerInternal child.descriptor (P.filter (reaches (loc ++ [key]))) queryAll with
          | (.error e, child) => (.error e, info, child)
          | (.ok (), child) =>
              (.ok (), { info with registeredChildGroups := info.registeredChildGroups.insert key },
                child)
        else (.ok (), info, child) := by
  have hlen : ∀ p ∈ info.paths, depth < p.length := by
    intro p hp
    rw [hpaths] at hp
    rw [hdepth]
    exact length_lt_of_reaches (List.mem_filter.mp hp).2
  obtain ⟨applies, all, hr, happlies, hall, hmem⟩ :=
    childQueryPaths_eq depth key info.paths info.queryAllFields info.queryAllFields [] hlen
  have hpicks : Picks (covers (loc ++ [key])) P all := by
    constructor
    · rw [hall, hqa.isSome_eq, hpaths, hdepth, any_covers_append_singleton]
    · intro p hp
      rcases hmem p hp with hqa' | ⟨hp', hends⟩
      · obtain ⟨hpP, hcov⟩ := hqa.mem p hqa'
        exact ⟨hpP, by rw [covers_append_singleton, hcov]; rfl⟩
      · rw [hpaths] at hp'
        obtain ⟨hpP, hreach⟩ := List.mem_filter.mp hp'
        rw [hdepth] at hends
        exact ⟨hpP, by rw [covers_append_singleton, hreach, hends]; simp⟩
  have hrelevant : applies.isSome = relevant P (loc ++ [key]) := by
    rw [happlies, hqa.isSome_eq, hpaths, hdepth, relevant_append_singleton]
  have hchildPaths : [] ++ info.paths.filter (goesThrough depth key) =
      P.filter (reaches (loc ++ [key])) := by
    rw [List.nil_append, hpaths, hdepth, filter_reaches_append_singleton]
  refine ⟨all, hpicks, ?_⟩
  unfold registerQueryChildWith
  rw [hr, hchildPaths]
  cases applies with
  | none => rw [if_neg (by simp [← hrelevant])]
  | some _ =>
      rw [if_pos (by simp [← hrelevant])]
      -- by the child's outcome, so that both sides reduce to one result
      rcases hreg : registerInternal child.descriptor (P.filter (reaches (loc ++ [key]))) all
        with ⟨_ | ⟨⟩, child'⟩ <;> simp only [nodeAddChildGroup_eq hfield hmsg hrep, hreg]

/-- A query that is not registered at a group is registered nowhere below. -/
theorem QueryAt.unselected {X : Option (List Path)} {q : Q} {loc : Location}
    {g : AttributeGroupInternal D A Q S} (hq : QueryAt X q loc g)
    (hnone : g.registeredQueries.lookup q = none) :
    ∀ loc', loc <+: loc' → X.any (registeredAt · loc') = false := by
  intro loc' hpre
  have hsome := hq.isSome_eq
  rw [hnone] at hsome
  cases X with
  | none => rfl
  | some P =>
      rw [Option.any_some] at hsome ⊢
      have hloc : loc ≠ [] := by
        intro h
        simp [h, registeredAt] at hsome
      have hrel : relevant P loc = false := by
        simpa [registeredAt, hloc] using hsome.symm
      exact registeredAt_eq_false_of_prefix hloc hrel hpre

end Registering

/-! ## Registering and unregistering a query over a subtree -/

section Subtree

variable {D E A Q S : Type} [DecidableEq E] [DecidableEq A] [DecidableEq Q] [DecidableEq S]
  {schema : Schema D E} (R : Q → Option (List Path)) (q : Q) (P : List Path)

mutual

/-- `RegisterQueryInternal` of a query no group has registered, at a group the
paths `P` select, with the paths of `P` that reach it and a path that covers
it: it succeeds, keeps the layout, and the invariant holds below it for the
registry with `q` registered with `P`. -/
theorem registerQueryInternal_fresh :
    ∀ (loc : Location) (g : AttributeGroupInternal D A Q S) (queryAll : Option Path),
      Every (GroupOk schema R) loc g → R q = none → registeredAt P loc = true →
      Picks (covers loc) P queryAll →
      ∃ g', registerQueryInternal schema q g.descriptor (P.filter (reaches loc)) queryAll g =
          (.ok (), g') ∧
        SameLayout g g' ∧ Every (GroupOk schema (Function.update R q (some P))) loc g'
  | loc, ⟨descriptor, depth, attributes, children, registeredQueries, dataSources, versionId⟩,
      queryAll, hg, hRq, hsel, hqa => by
      rw [Every] at hg
      obtain ⟨hok, hchildren⟩ := hg
      have hnone : registeredQueries.lookup q = none := (hok.2 q).lookup_eq_none (by rw [hRq]; rfl)
      -- the attributes first, then the child groups
      obtain ⟨registered, hfold, hattributes⟩ := foldStatus_registerQueryAttribute hok.1 attributes []
        ⟨P.filter (reaches loc), queryAll, descriptor, [], []⟩ rfl rfl hqa rfl AttributesRegistered.nil
      obtain ⟨keys, children', hloop, hkeys, hlayout, hevery⟩ := registerQueryChildren_fresh loc
        depth descriptor ⟨P.filter (reaches loc), queryAll, descriptor, [], registered⟩ children
        hok.1.depth_eq rfl hqa rfl hok.1.child_field hchildren hRq
      let info : RegisteredQuery D A := ⟨P.filter (reaches loc), queryAll, descriptor, keys, registered⟩
      let g' : AttributeGroupInternal D A Q S :=
        ⟨descriptor, depth, attributes, children', assocSet q info registeredQueries, dataSources,
          versionId⟩
      have hsame : SameLayout ⟨descriptor, depth, attributes, children, registeredQueries,
          dataSources, versionId⟩ g' := ⟨rfl, rfl, rfl, hlayout⟩
      refine ⟨g', ?_, hsame, ?_⟩
      · simp only [registerQueryInternal, hnone, prepareQuery]
        rw [hfold]
        simp only [hloop]
        rfl
      · rw [Every]
        refine ⟨⟨hok.1.of_sameLayout hsame (nodup_map_fst_assocSet hok.1.queries_nodup),
          fun q' => ?_⟩, hevery⟩
        by_cases hq' : q' = q
        · subst hq'
          rw [Function.update_self]
          have hlookup : g'.registeredQueries.lookup q' = some info := by simp [g']
          refine ⟨by rw [hlookup]; simp [hsel], fun P' info' hP hinfo => ?_⟩
          rw [hlookup, Option.some.injEq] at hinfo
          cases hP
          subst hinfo
          have hkeys' := map_fst_of_childLayout_eq hlayout
          refine ⟨rfl, hqa, rfl, ?_, ?_, hattributes⟩
          · intro key hkey
            obtain ⟨child, hchild, -⟩ := ((hkeys key).mp hkey).resolve_left (by simp)
            show key ∈ children'.map Prod.fst
            rw [hkeys']
            exact List.mem_map.mpr ⟨_, hchild, rfl⟩
          · intro key child' hmem
            obtain ⟨child, hchild, -⟩ := exists_child_of_childLayout_eq hlayout hmem
            rw [hkeys key]
            constructor
            · rintro (hkey | ⟨_, _, hrel⟩)
              · simp at hkey
              · exact hrel
            · intro hrel
              exact Or.inr ⟨child, hchild, hrel⟩
        · rw [Function.update_of_ne hq']
          refine (hok.2 q').of_sameLayout hsame ?_
          simp [lookup_assocSet, hq']

/-- The loop of `RegisterQueryInternal` over the child groups, for a query no
group has registered: it registers the relevant children and records them. -/
theorem registerQueryChildren_fresh :
    ∀ (loc : Location) (depth : Nat) (descriptor : D) (info : RegisteredQuery D A)
      (children : List (ChildKey × AttributeGroupInternal D A Q S)),
      depth = loc.length → info.paths = P.filter (reaches loc) →
      Picks (covers loc) P info.queryAllFields → info.queryNode = descriptor →
      (∀ key child, (key, child) ∈ children →
        ∃ field, schema.findFieldByName descriptor key.name = some field ∧
          field.cppType = .message child.descriptor ∧ field.isRepeated = key.isRepeated) →
      EveryChild (GroupOk schema R) loc children → R q = none →
      ∃ keys children', registerQueryChildren schema q depth info children =
          (.ok (), { info with registeredChildGroups := keys }, children') ∧
        (∀ key, key ∈ keys ↔ key ∈ info.registeredChildGroups ∨
          ∃ child, (key, child) ∈ children ∧ relevant P (loc ++ [key]) = true) ∧
        childLayout children' = childLayout children ∧
        EveryChild (GroupOk schema (Function.update R q (some P))) loc children'
  | _, _, _, info, [], _, _, _, _, _, _, _ =>
      ⟨info.registeredChildGroups, [], rfl, by simp, rfl, trivial⟩
  | loc, depth, descriptor, info, (key, child) :: rest, hdepth, hpaths, hqa, hnode, hfields,
      ⟨hchild, hrest⟩, hRq => by
      obtain ⟨field, hfind, hmsg, hrep⟩ := hfields key child List.mem_cons_self
      have hfields' : ∀ key' child', (key', child') ∈ rest →
          ∃ field, schema.findFieldByName descriptor key'.name = some field ∧
            field.cppType = .message child'.descriptor ∧ field.isRepeated = key'.isRepeated :=
        fun key' child' hmem => hfields key' child' (List.mem_cons_of_mem _ hmem)
      obtain ⟨queryAll, hpicks, hstep⟩ := registerQueryChildWith_eq
        (fun node paths queryAll => registerQueryInternal schema q node paths queryAll child)
        hdepth hpaths hqa (hnode ▸ hfind) hmsg hrep
      by_cases hrel : relevant P (loc ++ [key]) = true
      · -- a relevant child: the query is registered in its subtree
        obtain ⟨child', hreg, hsame, hevery⟩ := registerQueryInternal_fresh (loc ++ [key]) child
          queryAll hchild hRq (by simp [registeredAt, hrel]) hpicks
        obtain ⟨keys, rest', hloop, hkeys, hlayout, hrestEvery⟩ := registerQueryChildren_fresh loc
          depth descriptor { info with registeredChildGroups := info.registeredChildGroups.insert key }
          rest hdepth hpaths hqa hnode hfields' hrest hRq
        refine ⟨keys, (key, child') :: rest', ?_, ?_, ?_, ⟨hevery, hrestEvery⟩⟩
        · rw [registerQueryChildren, hstep, if_pos hrel, hreg]
          simp only [hloop]
        · intro key'
          rw [hkeys, List.mem_insert_iff]
          constructor
          · rintro ((rfl | hmem) | ⟨c, hc, hr⟩)
            · exact Or.inr ⟨child, List.mem_cons_self, hrel⟩
            · exact Or.inl hmem
            · exact Or.inr ⟨c, List.mem_cons_of_mem _ hc, hr⟩
          · rintro (hmem | ⟨c, hc, hr⟩)
            · exact Or.inl (Or.inr hmem)
            · rcases List.mem_cons.mp hc with heq | hc'
              · exact Or.inl (Or.inl (Prod.mk.inj heq).1)
              · exact Or.inr ⟨c, hc', hr⟩
        · simp only [childLayout, List.map_cons] at hlayout ⊢
          rw [hsame.descriptor_eq, hlayout]
      · -- a child no path selects is left alone, and so is everything below it
        have hevery : Every (GroupOk schema (Function.update R q (some P))) (loc ++ [key]) child :=
          every_update_of_unselected (fun loc' hpre => ⟨by rw [hRq]; rfl,
            unselected_of_not_relevant (by simp) (by simpa using hrel) loc' hpre⟩) hchild
        obtain ⟨keys, rest', hloop, hkeys, hlayout, hrestEvery⟩ := registerQueryChildren_fresh loc
          depth descriptor info rest hdepth hpaths hqa hnode hfields' hrest hRq
        refine ⟨keys, (key, child) :: rest', ?_, ?_, ?_, ⟨hevery, hrestEvery⟩⟩
        · rw [registerQueryChildren, hstep, if_neg hrel]
          simp only [hloop]
        · intro key'
          rw [hkeys]
          constructor
          · rintro (hmem | ⟨c, hc, hr⟩)
            · exact Or.inl hmem
            · exact Or.inr ⟨c, List.mem_cons_of_mem _ hc, hr⟩
          · rintro (hmem | ⟨c, hc, hr⟩)
            · exact Or.inl hmem
            · rcases List.mem_cons.mp hc with heq | hc'
              · obtain ⟨rfl, -⟩ := Prod.mk.inj heq
                exact absurd hr hrel
              · exact Or.inr ⟨c, hc', hr⟩
        · simp only [childLayout, List.map_cons] at hlayout ⊢
          rw [hlayout]

end

mutual

/-- `UnregisterQuery` keeps the layout, and the invariant for the registry
without the query. -/
theorem unregisterQuery_every :
    ∀ (loc : Location) (g : AttributeGroupInternal D A Q S), Every (GroupOk schema R) loc g →
      SameLayout g (unregisterQuery q g) ∧
        Every (GroupOk schema (Function.update R q none)) loc (unregisterQuery q g)
  | loc, ⟨descriptor, depth, attributes, children, registeredQueries, dataSources, versionId⟩,
      hg => by
      rw [Every] at hg
      obtain ⟨hok, hchildren⟩ := hg
      cases hlookup : registeredQueries.lookup q with
      | none =>
          -- not registered here, so nowhere below: nothing changes
          have hunchanged : unregisterQuery q (⟨descriptor, depth, attributes, children,
              registeredQueries, dataSources, versionId⟩ : AttributeGroupInternal D A Q S) =
              ⟨descriptor, depth, attributes, children, registeredQueries, dataSources,
                versionId⟩ := by
            simp [unregisterQuery, hlookup]
          rw [hunchanged]
          refine ⟨⟨rfl, rfl, rfl, rfl⟩, every_update_of_unselected
            (fun loc' hpre => ⟨(hok.2 q).unselected hlookup loc' hpre, rfl⟩) ?_⟩
          rw [Every]
          exact ⟨hok, hchildren⟩
      | some info =>
          have hsome := (hok.2 q).isSome_eq
          rw [hlookup] at hsome
          obtain ⟨P, hRq⟩ : ∃ P, R q = some P := by
            cases hR : R q with
            | none => rw [hR] at hsome; cases hsome
            | some P => exact ⟨P, rfl⟩
          have hreg := (hok.2 q).registered P info hRq hlookup
          -- the children the query does not go into are those no path selects
          have hunselected : ∀ key child, (key, child) ∈ children →
              key ∉ info.registeredChildGroups → relevant P (loc ++ [key]) = false :=
            fun key child hmem hkey => Bool.eq_false_iff.mpr fun hrel =>
              hkey ((hreg.childGroups_iff key child hmem).mpr hrel)
          obtain ⟨hlayout, hevery⟩ := unregisterChildren_every loc info.registeredChildGroups
            children P hRq hunselected hchildren
          let g' : AttributeGroupInternal D A Q S := ⟨descriptor, depth, attributes,
            unregisterChildren q info.registeredChildGroups children,
            registeredQueries.filter (·.1 != q), dataSources, versionId⟩
          have heq : unregisterQuery q (⟨descriptor, depth, attributes, children,
              registeredQueries, dataSources, versionId⟩ : AttributeGroupInternal D A Q S) = g' := by
            simp [unregisterQuery, hlookup, g']
          have hsame : SameLayout ⟨descriptor, depth, attributes, children, registeredQueries,
              dataSources, versionId⟩ g' := ⟨rfl, rfl, rfl, hlayout⟩
          rw [heq]
          refine ⟨hsame, ?_⟩
          rw [Every]
          have hnodup : (g'.registeredQueries.map Prod.fst).Nodup :=
            (List.filter_sublist.map Prod.fst).nodup hok.1.queries_nodup
          refine ⟨⟨hok.1.of_sameLayout hsame hnodup, fun q' => ?_⟩, hevery⟩
          by_cases hq' : q' = q
          · subst hq'
            rw [Function.update_self]
            exact QueryAt.of_lookup_eq_none (by simp [lookup_filter_fst_ne]) rfl
          · rw [Function.update_of_ne hq']
            exact (hok.2 q').of_sameLayout hsame (by simp [lookup_filter_fst_ne, hq'])

/-- The loop of `UnregisterQuery` over the child groups, when the children it
does not go into are those no path of the query selects. -/
theorem unregisterChildren_every :
    ∀ (loc : Location) (keys : List ChildKey)
      (children : List (ChildKey × AttributeGroupInternal D A Q S)) (P : List Path),
      R q = some P →
      (∀ key child, (key, child) ∈ children → key ∉ keys → relevant P (loc ++ [key]) = false) →
      EveryChild (GroupOk schema R) loc children →
      childLayout (unregisterChildren q keys children) = childLayout children ∧
        EveryChild (GroupOk schema (Function.update R q none)) loc
          (unregisterChildren q keys children)
  | _, _, [], _, _, _, _ => ⟨rfl, trivial⟩
  | loc, keys, (key, child) :: rest, P, hRq, hkeys, ⟨hchild, hrest⟩ => by
      obtain ⟨hlayout, hevery⟩ := unregisterChildren_every loc keys rest P hRq
        (fun key' child' hmem => hkeys key' child' (List.mem_cons_of_mem _ hmem)) hrest
      rw [unregisterChildren]
      by_cases hkey : key ∈ keys
      · obtain ⟨hsame, hchild'⟩ := unregisterQuery_every (loc ++ [key]) child hchild
        rw [if_pos hkey]
        refine ⟨?_, ⟨hchild', hevery⟩⟩
        simp only [childLayout, List.map_cons] at hlayout ⊢
        rw [hsame.descriptor_eq, hlayout]
      · -- a child the query does not go into holds no registration of it
        have hrel := hkeys key child List.mem_cons_self hkey
        have hchild' : Every (GroupOk schema (Function.update R q none)) (loc ++ [key]) child :=
          every_update_of_unselected (fun loc' hpre =>
            ⟨by rw [hRq]; exact unselected_of_not_relevant (by simp) hrel loc' hpre, rfl⟩) hchild
        rw [if_neg hkey]
        refine ⟨?_, ⟨hchild', hevery⟩⟩
        simp only [childLayout, List.map_cons] at hlayout ⊢
        rw [hlayout]

end

end Subtree

end Stratum.Ports.AttributeGroup
