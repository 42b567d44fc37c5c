import Stratum.Ports.AttributeGroupRegistration
import Stratum.Verified.Run

/-!
# Every call on the attribute database keeps its invariant

Each call that changes a group (`AddAttribute`, `AddChildGroup`,
`AddRepeatedChildGroup`, `RemoveAttribute`, `RemoveChildGroup`,
`RemoveRepeatedChildGroup`) patches what every query registered at the group
keeps, and each call on the root (`RegisterQuery`, `UnregisterQuery`)
registers or unregisters a query down the tree. Under the invariant of
`AttributeGroupRegistration` each patch loop succeeds, so each call either
fails on its own checks, leaving the group as it was, or makes its change
with every registration patched; either way the invariant holds after it.

`AddAttribute` keeps it when the value is held under no other name of the
group: the records of the registered queries are keyed by the attribute
itself, so a second name for the same attribute shares the first one's
record, and removing either name drops that record for both.

Main results:

* `addAttribute_every`, `removeAttribute_every` — the calls on attributes;
* `addChildGroup_every`, `addRepeatedChildGroup_every`,
  `removeChildGroup_every`, `removeRepeatedChildGroup_every` — the calls on
  child groups;
* `modifyAt_every` — a call on the group at a location below the root;
* `databaseOk_step`, `databaseOk_final` — every call the guard admits keeps
  the invariant, and so does every run from an empty database.
-/

set_option linter.unusedSectionVars false

namespace Stratum.Ports.AttributeGroup

open Stratum.Ports.Status Stratum.Verified.InPlaceLoops Stratum.Verified.OrderedContainers
open Stratum.Verified.Run Stratum.Verified.Trace

theorem nodup_append_singleton {α : Type} {l : List α} {a : α} (h : l.Nodup) (ha : a ∉ l) :
    (l ++ [a]).Nodup := by
  rw [← List.concat_eq_append]
  exact (List.nodup_concat l a).mpr ⟨ha, h⟩

theorem assocSet_of_lookup_eq_none {κ β : Type} [DecidableEq κ] {k : κ} {v : β}
    {m : List (κ × β)} (h : m.lookup k = none) : assocSet k v m = m ++ [(k, v)] := by
  rw [assocSet, if_neg (by simp [h])]

section Calls

variable {D E A Q S : Type} [DecidableEq E] [DecidableEq A] [DecidableEq Q] [DecidableEq S]
  {schema : Schema D E} (attrs : ManagedAttributes A S E) {R : Q → Option (List Path)}

/-- A query registered at a group is registered at the root, and the group
keeps it as `QueryRegistered` says. -/
theorem GroupOk.registered_of_mem {loc : Location} {g : AttributeGroupInternal D A Q S}
    (hok : GroupOk schema R loc g) {q : Q} {info : RegisteredQuery D A}
    (hmem : (q, info) ∈ g.registeredQueries) : ∃ P, R q = some P ∧ QueryRegistered P loc g info := by
  have hlookup := lookup_eq_some_of_mem hok.1.queries_nodup hmem
  have hsome := (hok.2 q).isSome_eq
  rw [hlookup] at hsome
  cases hR : R q with
  | none =>
      rw [hR] at hsome
      cases hsome
  | some P => exact ⟨P, rfl, (hok.2 q).registered P info hR hlookup⟩

theorem nodeRemoveField_eq {node : D} {name : String} {field : FieldDescriptor D E}
    (hfield : schema.findFieldByName node name = some field) :
    nodeRemoveField schema node name = .ok () := by
  simp [nodeRemoveField, nodeFieldDescriptor, hfield, bind, Except.bind, pure, Except.pure]

/-- The query nodes of a group's registered queries are its own message, so
each accepts removing a field of it. -/
theorem GroupOk.nodeRemoveField_ok {loc : Location} {g : AttributeGroupInternal D A Q S}
    (hok : GroupOk schema R loc g) {name : String} {field : FieldDescriptor D E}
    (hfind : schema.findFieldByName g.descriptor name = some field) :
    ∀ q info, (q, info) ∈ g.registeredQueries →
      nodeRemoveField schema info.queryNode name = .ok () := by
  intro q info hq
  obtain ⟨P, -, hreg⟩ := hok.registered_of_mem hq
  rw [hreg.node_eq]
  exact nodeRemoveField_eq hfind

/-- A change that updates each query's record of the group by `f` keeps a
query's registration when the updated record is what the query asks of the
changed group. -/
theorem QueryAt.of_lookup_map {X : Option (List Path)} {q : Q} {loc : Location}
    {g g' : AttributeGroupInternal D A Q S} {f : RegisteredQuery D A → RegisteredQuery D A}
    (hq : QueryAt X q loc g)
    (hlookup : g'.registeredQueries.lookup q = (g.registeredQueries.lookup q).map f)
    (hreg : ∀ P info, X = some P → g.registeredQueries.lookup q = some info →
      QueryRegistered P loc g' (f info)) :
    QueryAt X q loc g' := by
  refine ⟨by rw [hlookup, Option.isSome_map]; exact hq.isSome_eq, fun P info' hX hinfo => ?_⟩
  rw [hlookup, Option.map_eq_some_iff] at hinfo
  obtain ⟨info, hinfo, rfl⟩ := hinfo
  exact hreg P info hX hinfo

/-! ## Attributes -/

/-- `AttemptAddAttribute` of a value the group holds under no name, under a
name it does not hold, for a scalar field of its message. -/
theorem attemptAddAttribute_every (expected : AttributeType E) {loc : Location}
    {g : AttributeGroupInternal D A Q S} {name : String} {value : A}
    (hg : Every (GroupOk schema R) loc g) (hname : g.attributes.lookup name = none)
    (hvalue : value ∉ g.attributes.map Prod.snd)
    (hfield : ∃ field, schema.findFieldByName g.descriptor name = some field ∧
      field.cppType.isMessage = false) :
    (attemptAddAttribute schema attrs expected name value g).2.descriptor = g.descriptor ∧
      Every (GroupOk schema R) loc (attemptAddAttribute schema attrs expected name value g).2 := by
  have hok := ((every_iff _ _ _).mp hg).1
  unfold attemptAddAttribute
  split
  · exact ⟨rfl, hg⟩
  split
  · exact ⟨rfl, hg⟩
  -- every query registered at the group records the attribute if a path asks for it
  have hbody : ∀ q info, (q, info) ∈ g.registeredQueries →
      registerQueryAttribute schema g.depth value name info =
        (.ok (), (registerQueryAttribute schema g.depth value name info).2) := by
    intro q info hmem
    obtain ⟨P, -, hreg⟩ := hok.registered_of_mem hmem
    obtain ⟨r, -, hstep⟩ := registerQueryAttribute_eq hok.1.depth_eq hreg.paths_eq hreg.queryAll
      hreg.node_eq hfield (hreg.attributes.lookup_eq_none hvalue)
    rw [hstep]
  rw [updateEach_of_ok (fun _ info => (registerQueryAttribute schema g.depth value name info).2)
    g.registeredQueries hbody, assocSet_of_lookup_eq_none hname]
  dsimp only
  refine ⟨rfl, every_of_children hg ⟨⟨hok.1.depth_eq, ?_, hok.1.child_field, ?_, ?_,
    hok.1.keys_nodup, hok.1.index_lt, ?_⟩,
    fun q => (hok.2 q).of_lookup_map (lookup_map_value _ q _) ?_⟩ rfl⟩
  · intro name' value' hmem
    rcases List.mem_append.mp hmem with hold | hnew
    · exact hok.1.attribute_field name' value' hold
    · obtain ⟨rfl, rfl⟩ := Prod.mk.inj (List.mem_singleton.mp hnew)
      exact hfield
  · rw [List.map_append, List.map_singleton]
    exact nodup_append_singleton hok.1.names_nodup (lookup_eq_none_iff.mp hname)
  · rw [List.map_append, List.map_singleton]
    exact nodup_append_singleton hok.1.values_nodup hvalue
  · rw [map_fst_map_value]
    exact hok.1.queries_nodup
  · intro P info hR hlookup
    have hreg := (hok.2 q).registered P info hR hlookup
    obtain ⟨r, hpicks, hstep⟩ := registerQueryAttribute_eq hok.1.depth_eq hreg.paths_eq
      hreg.queryAll hreg.node_eq hfield (hreg.attributes.lookup_eq_none hvalue)
    dsimp only
    rw [hstep]
    exact ⟨hreg.paths_eq, hreg.queryAll, hreg.node_eq, hreg.childGroups_mem,
      hreg.childGroups_iff, hreg.attributes.append hpicks⟩

/-- `RemoveAttribute` keeps the invariant and leaves the group without the
name, whether it held it or not. -/
theorem removeAttribute_every {loc : Location} {g : AttributeGroupInternal D A Q S}
    {name : String} (hg : Every (GroupOk schema R) loc g) :
    (removeAttribute schema attrs name g).2.descriptor = g.descriptor ∧
      Every (GroupOk schema R) loc (removeAttribute schema attrs name g).2 ∧
      (removeAttribute schema attrs name g).2.attributes = g.attributes.filter (·.1 != name) := by
  have hok := ((every_iff _ _ _).mp hg).1
  unfold removeAttribute
  cases hlookup : g.attributes.lookup name with
  | none =>
      -- nothing to remove: only the field is checked
      have hkeep : g.attributes.filter (·.1 != name) = g.attributes :=
        List.filter_eq_self.mpr fun a ha => bne_iff_ne.mpr fun heq =>
          lookup_eq_none_iff.mp hlookup (heq ▸ List.mem_map_of_mem ha)
      rw [hkeep]
      simp only
      split
      · exact ⟨rfl, hg, rfl⟩
      · split <;> exact ⟨rfl, hg, rfl⟩
  | some value =>
      have hmem := mem_of_lookup_eq_some hlookup
      obtain ⟨field, hfind, -⟩ := hok.1.attribute_field name value hmem
      simp only
      -- every query registered at the group drops the attribute's record
      let erase : RegisteredQuery D A → RegisteredQuery D A := fun info =>
        { info with registeredAttributes := info.registeredAttributes.filter (·.1 != value) }
      rw [updateEach_of_ok (fun _ info => erase info) g.registeredQueries
        (fun q info hq => by rw [hok.nodeRemoveField_ok hfind q info hq])]
      dsimp only
      refine ⟨rfl, every_of_children hg ⟨⟨hok.1.depth_eq, ?_, hok.1.child_field, ?_, ?_,
        hok.1.keys_nodup, hok.1.index_lt, ?_⟩,
        fun q => (hok.2 q).of_lookup_map (lookup_map_value _ q _) ?_⟩ rfl, rfl⟩
      · intro name' value' hmem'
        exact hok.1.attribute_field name' value' (List.mem_filter.mp hmem').1
      · exact (List.filter_sublist.map Prod.fst).nodup hok.1.names_nodup
      · exact (List.filter_sublist.map Prod.snd).nodup hok.1.values_nodup
      · rw [map_fst_map_value]
        exact hok.1.queries_nodup
      · intro P info hR hinfo
        have hreg := (hok.2 q).registered P info hR hinfo
        exact ⟨hreg.paths_eq, hreg.queryAll, hreg.node_eq, hreg.childGroups_mem,
          hreg.childGroups_iff,
          hreg.attributes.erase hmem hok.1.names_nodup hok.1.values_nodup⟩

variable (schema) in
/-- What `AddAttribute` can do: after removing the name if the group holds
it, stop, or add the attribute to a scalar field. -/
theorem addAttribute_cases (name : String) (value : A) (g : AttributeGroupInternal D A Q S) :
    let removed := (if (g.attributes.lookup name).isSome then removeAttribute schema attrs name g
      else (.ok (), g)).2
    (addAttribute schema attrs name value g).2 = removed ∨
      ∃ expected field, getField schema removed name = .ok field ∧
        field.cppType.isMessage = false ∧
        (addAttribute schema attrs name value g).2 =
          (attemptAddAttribute schema attrs expected name value removed).2 := by
  intro removed
  unfold addAttribute
  cases hremove : (if (g.attributes.lookup name).isSome then removeAttribute schema attrs name g
      else (.ok (), g)) with
  | mk status g₁ =>
      have hg₁ : removed = g₁ := by simp only [removed, hremove]
      rw [hg₁]
      simp only
      cases status with
      | error e => exact Or.inl rfl
      | ok u =>
          cases hget : getField schema g₁ name with
          | error e => exact Or.inl rfl
          | ok field =>
              simp only
              cases hcpp : field.cppType with
              | int32 => exact Or.inr ⟨_, field, rfl, by simp [hcpp, CppType.isMessage], rfl⟩
              | int64 => exact Or.inr ⟨_, field, rfl, by simp [hcpp, CppType.isMessage], rfl⟩
              | uint32 => exact Or.inr ⟨_, field, rfl, by simp [hcpp, CppType.isMessage], rfl⟩
              | uint64 => exact Or.inr ⟨_, field, rfl, by simp [hcpp, CppType.isMessage], rfl⟩
              | double => exact Or.inr ⟨_, field, rfl, by simp [hcpp, CppType.isMessage], rfl⟩
              | float => exact Or.inr ⟨_, field, rfl, by simp [hcpp, CppType.isMessage], rfl⟩
              | bool => exact Or.inr ⟨_, field, rfl, by simp [hcpp, CppType.isMessage], rfl⟩
              | string => exact Or.inr ⟨_, field, rfl, by simp [hcpp, CppType.isMessage], rfl⟩
              | enum enumType =>
                  simp only
                  split
                  · split
                    · exact Or.inr ⟨_, field, rfl, by simp [hcpp, CppType.isMessage], rfl⟩
                    · exact Or.inl rfl
                  · exact Or.inl rfl
              | message _ => exact Or.inl rfl

/-- `AddAttribute` of a value the group holds under no other name keeps the
invariant. -/
theorem addAttribute_every {loc : Location} {g : AttributeGroupInternal D A Q S} {name : String}
    {value : A} (hg : Every (GroupOk schema R) loc g)
    (hguard : ∀ name', (name', value) ∈ g.attributes → name' = name) :
    (addAttribute schema attrs name value g).2.descriptor = g.descriptor ∧
      Every (GroupOk schema R) loc (addAttribute schema attrs name value g).2 := by
  -- after the removal the group holds neither the name nor the value
  set removed := (if (g.attributes.lookup name).isSome then removeAttribute schema attrs name g
    else (.ok (), g)).2 with hremoved
  obtain ⟨hdesc, hevery, hattributes⟩ : removed.descriptor = g.descriptor ∧
      Every (GroupOk schema R) loc removed ∧
      removed.attributes = g.attributes.filter (·.1 != name) := by
    rw [hremoved]
    split
    · exact removeAttribute_every attrs hg
    · rename_i hnone
      refine ⟨rfl, hg, (List.filter_eq_self.mpr fun a ha => bne_iff_ne.mpr fun heq => ?_).symm⟩
      have hlookup : g.attributes.lookup name = none := Option.not_isSome_iff_eq_none.mp hnone
      exact lookup_eq_none_iff.mp hlookup (heq ▸ List.mem_map_of_mem ha)
  rcases addAttribute_cases schema attrs name value g with
    hsame | ⟨expected, field, hget, hmsg, hadd⟩
  · rw [hsame]
    exact ⟨hdesc, hevery⟩
  · rw [hadd]
    have hname : removed.attributes.lookup name = none := by
      rw [hattributes, lookup_filter_fst_ne, if_pos rfl]
    have hvalue : value ∉ removed.attributes.map Prod.snd := by
      rw [hattributes]
      intro hmem
      obtain ⟨⟨name', value'⟩, hpair, rfl⟩ := List.mem_map.mp hmem
      obtain ⟨hpair, hne⟩ := List.mem_filter.mp hpair
      exact (bne_iff_ne.mp hne) (hguard name' hpair)
    have hfind : schema.findFieldByName removed.descriptor name = some field := by
      unfold getField at hget
      split at hget
      · rename_i field' hfield'
        cases hget
        exact hfield'
      · cases hget
    obtain ⟨hdesc', hevery'⟩ := attemptAddAttribute_every attrs expected hevery hname hvalue
      ⟨field, hfind, hmsg⟩
    exact ⟨hdesc'.trans hdesc, hevery'⟩

/-! ## Child groups -/

theorem findFieldByName_of_getField {g : AttributeGroupInternal D A Q S} {name : String}
    {field : FieldDescriptor D E} (hget : getField schema g name = .ok field) :
    schema.findFieldByName g.descriptor name = some field := by
  unfold getField at hget
  split at hget
  · rename_i field' hfield'
    cases hget
    exact hfield'
  · cases hget

theorem familySize_append (g : AttributeGroupInternal D A Q S) (key : ChildKey)
    (child : AttributeGroupInternal D A Q S) (name : String) :
    familySize { g with children := g.children ++ [(key, child)] } name =
      familySize g name + if key.inFamily name then 1 else 0 := by
  simp only [familySize, List.filter_append, List.length_append]
  cases h : key.inFamily name <;> simp [h]

/-- `RegisterQueryInternal` on a group with no attributes and no child groups
only records the query. -/
theorem registerQueryInternal_leaf (q : Q) (node : D) (paths : List Path)
    (queryAll : Option Path) (g : AttributeGroupInternal D A Q S) (hattributes : g.attributes = [])
    (hchildren : g.children = []) :
    registerQueryInternal schema q node paths queryAll g =
      (.ok (), { g with
        registeredQueries :=
          assocSet q (prepareQuery (g.registeredQueries.lookup q) node paths queryAll)
            g.registeredQueries }) := by
  obtain ⟨descriptor, depth, attributes, children, registeredQueries, dataSources, versionId⟩ := g
  simp only at hattributes hchildren
  subst hattributes hchildren
  rfl

/-- A registered query told of a new child group, with no attributes and no
groups and without the query yet: the query is registered in the child
exactly when the child is relevant. -/
theorem registerQueryChildWith_leaf {P : List Path} {loc : Location}
    {g : AttributeGroupInternal D A Q S} {info : RegisteredQuery D A} {q : Q} {key : ChildKey}
    {child : AttributeGroupInternal D A Q S} {field : FieldDescriptor D E}
    (hwf : GroupWellFormed schema loc g) (hreg : QueryRegistered P loc g info)
    (hfield : schema.findFieldByName g.descriptor key.name = some field)
    (hmsg : field.cppType = .message child.descriptor) (hrep : field.isRepeated = key.isRepeated)
    (hattributes : child.attributes = []) (hchildren : child.children = [])
    (hnone : child.registeredQueries.lookup q = none) :
    ∃ child', registerQueryChildWith schema g.depth key info child
        (fun node paths queryAll => registerQueryInternal schema q node paths queryAll child) =
        (.ok (), if relevant P (loc ++ [key]) then
          { info with registeredChildGroups := info.registeredChildGroups.insert key } else info,
          child') ∧
      SameLayout child child' ∧
      (∀ q', q' ≠ q → child'.registeredQueries.lookup q' = child.registeredQueries.lookup q') ∧
      ((child.registeredQueries.map Prod.fst).Nodup →
        (child'.registeredQueries.map Prod.fst).Nodup) ∧
      QueryAt (some P) q (loc ++ [key]) child' := by
  obtain ⟨queryAll, hpicks, hstep⟩ := registerQueryChildWith_eq
    (fun node paths queryAll => registerQueryInternal schema q node paths queryAll child)
    hwf.depth_eq hreg.paths_eq hreg.queryAll (hreg.node_eq ▸ hfield) hmsg hrep
  rw [hstep]
  by_cases hrel : relevant P (loc ++ [key]) = true
  · -- the child is registered with the paths that reach it
    let childInfo : RegisteredQuery D A :=
      ⟨P.filter (reaches (loc ++ [key])), queryAll, child.descriptor, [], []⟩
    have hlookup : (assocSet q childInfo child.registeredQueries).lookup q = some childInfo := by
      simp
    refine ⟨{ child with registeredQueries := assocSet q childInfo child.registeredQueries }, ?_,
      ⟨rfl, rfl, rfl, rfl⟩, fun q' hq' => by simp [hq'], nodup_map_fst_assocSet, ?_⟩
    · rw [if_pos hrel, if_pos hrel, registerQueryInternal_leaf q _ _ _ child hattributes hchildren,
        hnone]
      rfl
    · refine ⟨by rw [hlookup]; simp [registeredAt, hrel], fun P' info' hP hinfo => ?_⟩
      rw [hlookup, Option.some.injEq] at hinfo
      cases hP
      subst hinfo
      refine ⟨rfl, hpicks, rfl, fun _ hkey => by simp [childInfo] at hkey, ?_, ?_⟩
      · intro key' child' hmem
        simp [hchildren] at hmem
      · rw [hattributes]
        exact AttributesRegistered.nil
  · refine ⟨child, by rw [if_neg hrel, if_neg hrel], ⟨rfl, rfl, rfl, rfl⟩, fun _ _ => rfl, id, ?_⟩
    exact QueryAt.of_lookup_eq_none hnone (by simp [registeredAt, hrel])

/-- The loop of `AddChildGroup` and `AddRepeatedChildGroup` over the queries
registered at the group: each is registered in the new child exactly where
the child is relevant, and records the child there. -/
theorem registerChildForQueries_spec {loc : Location} {g : AttributeGroupInternal D A Q S}
    {key : ChildKey} {field : FieldDescriptor D E} {messageType : D}
    (hok : GroupOk schema R loc g)
    (hfield : schema.findFieldByName g.descriptor key.name = some field)
    (hmsg : field.cppType = .message messageType) (hrep : field.isRepeated = key.isRepeated) :
    ∀ (todo : List (Q × RegisteredQuery D A)) (child : AttributeGroupInternal D A Q S),
      (∀ q info, (q, info) ∈ todo → (q, info) ∈ g.registeredQueries) →
      (todo.map Prod.fst).Nodup →
      child.descriptor = messageType → child.attributes = [] → child.children = [] →
      (∀ q ∈ todo.map Prod.fst, child.registeredQueries.lookup q = none) →
      ∃ todo' child', registerChildForQueries schema g.depth key todo child =
          (.ok (), todo', child') ∧
        todo'.map Prod.fst = todo.map Prod.fst ∧
        (∀ q, todo'.lookup q = (todo.lookup q).map fun info =>
          if (R q).any (relevant · (loc ++ [key])) then
            { info with registeredChildGroups := info.registeredChildGroups.insert key }
          else info) ∧
        SameLayout child child' ∧
        (∀ q, q ∉ todo.map Prod.fst →
          child'.registeredQueries.lookup q = child.registeredQueries.lookup q) ∧
        ((child.registeredQueries.map Prod.fst).Nodup →
          (child'.registeredQueries.map Prod.fst).Nodup) ∧
        ∀ q ∈ todo.map Prod.fst, QueryAt (R q) q (loc ++ [key]) child'
  | [], child, _, _, _, _, _, _ =>
      ⟨[], child, rfl, rfl, fun _ => rfl, ⟨rfl, rfl, rfl, rfl⟩, fun _ _ => rfl, id,
        fun _ hq => by simp at hq⟩
  | (q, info) :: rest, child, hsub, hnodup, hdesc, hattributes, hchildren, hfresh => by
      rw [List.map_cons, List.nodup_cons] at hnodup
      obtain ⟨P, hRq, hreg⟩ := hok.registered_of_mem (hsub q info List.mem_cons_self)
      obtain ⟨child₁, hstep, hsame₁, hother₁, hnodup₁, hquery₁⟩ := registerQueryChildWith_leaf
        hok.1 hreg hfield (hdesc ▸ hmsg) hrep hattributes hchildren
        (hfresh q (by simp))
      obtain ⟨rest', child', hloop, hkeys, hlookups, hsame, hother, hnodup', hquery⟩ :=
        registerChildForQueries_spec hok hfield hmsg hrep rest child₁
          (fun q' info' hmem => hsub q' info' (List.mem_cons_of_mem _ hmem)) hnodup.2
          (hsame₁.descriptor_eq.trans hdesc) (hsame₁.attributes_eq.trans hattributes)
          (by rw [← List.map_eq_nil_iff (f := fun e => (e.1, e.2.descriptor))] at hchildren ⊢
              exact hsame₁.children_eq.trans hchildren)
          (fun q' hq' => by
            rw [hother₁ q' (fun h => hnodup.1 (h ▸ hq'))]
            exact hfresh q' (List.mem_cons_of_mem _ hq'))
      refine ⟨(q, if relevant P (loc ++ [key]) then
          { info with registeredChildGroups := info.registeredChildGroups.insert key } else info) ::
          rest', child', ?_, by rw [List.map_cons, hkeys, List.map_cons], ?_, hsame₁.trans hsame,
          ?_, fun h => hnodup' (hnodup₁ h), ?_⟩
      · rw [registerChildForQueries, hstep]
        simp only [hloop]
      · intro q'
        by_cases hq' : q' = q
        · subst hq'
          simp [hRq]
        · rw [lookup_cons_ite, if_neg hq', lookup_cons_ite, if_neg hq', hlookups q']
      · intro q' hq'
        rw [List.map_cons, List.mem_cons, not_or] at hq'
        rw [hother q' hq'.2, hother₁ q' hq'.1]
      · intro q' hq'
        rcases List.mem_cons.mp hq' with rfl | hrest
        · rw [hRq]
          exact hquery₁.of_sameLayout hsame (hother q' hnodup.1)
        · exact hquery q' hrest

/-- A query's record at a group that gains a new child group: the child is
recorded exactly when it is relevant. -/
theorem QueryRegistered.addChild {P : List Path} {loc : Location}
    {g g' : AttributeGroupInternal D A Q S} {info : RegisteredQuery D A} {key : ChildKey}
    {child : AttributeGroupInternal D A Q S} (hreg : QueryRegistered P loc g info)
    (hfresh : key ∉ g.children.map Prod.fst) (hdesc : g'.descriptor = g.descriptor)
    (hattributes : g'.attributes = g.attributes)
    (hchildren : g'.children = g.children ++ [(key, child)]) :
    QueryRegistered P loc g' (if relevant P (loc ++ [key]) then
      { info with registeredChildGroups := info.registeredChildGroups.insert key } else info) := by
  -- the new child is not recorded yet, and the others are recorded as before
  have hnot : key ∉ info.registeredChildGroups := fun h => hfresh (hreg.childGroups_mem key h)
  have hiff : ∀ key', key' ≠ key → (key' ∈ (if relevant P (loc ++ [key]) then
      { info with registeredChildGroups := info.registeredChildGroups.insert key }
      else info).registeredChildGroups ↔ key' ∈ info.registeredChildGroups) := by
    intro key' hne
    split <;> simp [List.mem_insert_iff, hne]
  refine ⟨?_, ?_, ?_, ?_, ?_, ?_⟩
  · split <;> exact hreg.paths_eq
  · split <;> exact hreg.queryAll
  · split <;> exact hreg.node_eq.trans hdesc.symm
  · intro key' hkey'
    rw [hchildren, List.map_append, List.mem_append]
    by_cases hne : key' = key
    · exact Or.inr (by simp [hne])
    · exact Or.inl (hreg.childGroups_mem key' ((hiff key' hne).mp hkey'))
  · intro key' child' hmem
    rw [hchildren] at hmem
    rcases List.mem_append.mp hmem with hold | hnew
    · have hne : key' ≠ key := fun h => hfresh (h ▸ List.mem_map.mpr ⟨_, hold, rfl⟩)
      rw [hiff key' hne]
      exact hreg.childGroups_iff key' child' hold
    · obtain ⟨rfl, rfl⟩ := Prod.mk.inj (List.mem_singleton.mp hnew)
      split
      · rename_i hrel
        simp [List.mem_insert_iff, hrel]
      · rename_i hrel
        simp [hnot, hrel]
  · rw [hattributes]
    split <;> exact hreg.attributes

/-- A new child group `key`, not held yet, of the message type of its field:
the group and the new child keep the invariant. -/
theorem addChildGroupWith_every {loc : Location} {g : AttributeGroupInternal D A Q S}
    {key : ChildKey} {messageType : D} {field : FieldDescriptor D E}
    (hg : Every (GroupOk schema R) loc g)
    (hfield : schema.findFieldByName g.descriptor key.name = some field)
    (hmsg : field.cppType = .message messageType) (hrep : field.isRepeated = key.isRepeated)
    (hfresh : key ∉ g.children.map Prod.fst)
    (hindex : ∀ name index, key = .repeated name index → index = familySize g name) :
    (addChildGroupWith schema key messageType g).2.descriptor = g.descriptor ∧
      Every (GroupOk schema R) loc (addChildGroupWith schema key messageType g).2 := by
  obtain ⟨hok, hchildren⟩ := (every_iff _ _ _).mp hg
  obtain ⟨registered, child, hloop, hkeys, hlookups, hsame, hother, hnodup, hquery⟩ :=
    registerChildForQueries_spec hok hfield hmsg hrep g.registeredQueries
      (AttributeGroupInternal.new messageType (g.depth + 1)) (fun _ _ h => h)
      hok.1.queries_nodup rfl rfl rfl (fun _ _ => rfl)
  have hattributes : child.attributes = [] := hsame.attributes_eq
  have hnochildren : child.children = [] := by
    simpa [childLayout, AttributeGroupInternal.new] using hsame.children_eq
  unfold addChildGroupWith
  rw [hloop]
  dsimp only
  refine ⟨rfl, (every_iff _ _ _).mpr ⟨⟨⟨hok.1.depth_eq, hok.1.attribute_field, ?_,
    hok.1.names_nodup, hok.1.values_nodup, ?_, ?_, by rw [hkeys]; exact hok.1.queries_nodup⟩,
    fun q => (hok.2 q).of_lookup_map (hlookups q) ?_⟩, ?_⟩⟩
  · intro key' child' hmem
    rcases List.mem_append.mp hmem with hold | hnew
    · exact hok.1.child_field key' child' hold
    · obtain ⟨rfl, rfl⟩ := Prod.mk.inj (List.mem_singleton.mp hnew)
      exact ⟨field, hfield, by rw [hmsg, hsame.descriptor_eq]; rfl, hrep⟩
  · rw [List.map_append, List.map_singleton]
    exact nodup_append_singleton hok.1.keys_nodup hfresh
  · -- the new member of a family is numbered after the others
    intro name index hmem
    show index < familySize { g with children := g.children ++ [(key, child)] } name
    rw [familySize_append]
    rw [List.map_append, List.map_singleton, List.mem_append, List.mem_singleton] at hmem
    rcases hmem with hold | hnew
    · have hlt := hok.1.index_lt name index hold
      split <;> omega
    · have hnew' : key = ChildKey.repeated name index := hnew.symm
      have hnum := hindex name index hnew'
      rw [if_pos (by rw [hnew']; simp [ChildKey.inFamily])]
      omega
  · intro P info hR hlookup
    rw [hR, Option.any_some]
    exact ((hok.2 q).registered P info hR hlookup).addChild hfresh rfl rfl rfl
  · intro key' child' hmem
    rcases List.mem_append.mp hmem with hold | hnew
    · exact hchildren key' child' hold
    · obtain ⟨rfl, rfl⟩ := Prod.mk.inj (List.mem_singleton.mp hnew)
      -- the new child: a leaf at the depth below, registered where relevant
      rw [every_iff]
      refine ⟨⟨⟨?_, ?_, ?_, ?_, ?_, ?_, ?_, hnodup List.nodup_nil⟩, fun q => ?_⟩, ?_⟩
      · rw [hsame.depth_eq, List.length_append, List.length_singleton, ← hok.1.depth_eq]
        rfl
      · intro name value hmem
        simp [hattributes] at hmem
      · intro key'' child'' hmem
        simp [hnochildren] at hmem
      · simp [hattributes]
      · simp [hattributes]
      · simp [hnochildren]
      · intro name index hmem
        simp [hnochildren] at hmem
      · by_cases hq : q ∈ g.registeredQueries.map Prod.fst
        · exact hquery q hq
        · have hnone : g.registeredQueries.lookup q = none := lookup_eq_none_iff.mpr hq
          refine QueryAt.of_lookup_eq_none (by rw [hother q hq]; rfl)
            ((hok.2 q).unselected hnone (loc ++ [key']) (List.prefix_append loc [key']))
      · intro key'' child'' hmem
        simp [hnochildren] at hmem

/-- `AddChildGroup` keeps the invariant. -/
theorem addChildGroup_every {loc : Location} {g : AttributeGroupInternal D A Q S} {name : String}
    (hg : Every (GroupOk schema R) loc g) :
    (addChildGroup schema name g).2.descriptor = g.descriptor ∧
      Every (GroupOk schema R) loc (addChildGroup schema name g).2 := by
  unfold addChildGroup
  cases hget : getField schema g name with
  | error e => exact ⟨rfl, hg⟩
  | ok field =>
      dsimp only
      cases hcpp : field.cppType
      case message messageType =>
        dsimp only
        split
        · exact ⟨rfl, hg⟩
        split
        · exact ⟨rfl, hg⟩
        rename_i hrep hpresent
        exact addChildGroupWith_every hg (findFieldByName_of_getField hget) hcpp
          (by simpa [ChildKey.isRepeated] using hrep)
          (lookup_eq_none_iff.mp (Option.not_isSome_iff_eq_none.mp hpresent))
          (fun _ _ h => by cases h)
      all_goals exact ⟨rfl, hg⟩

/-- `AddRepeatedChildGroup` keeps the invariant. -/
theorem addRepeatedChildGroup_every {loc : Location} {g : AttributeGroupInternal D A Q S}
    {name : String} (hg : Every (GroupOk schema R) loc g) :
    (addRepeatedChildGroup schema name g).2.descriptor = g.descriptor ∧
      Every (GroupOk schema R) loc (addRepeatedChildGroup schema name g).2 := by
  have hok := ((every_iff _ _ _).mp hg).1
  unfold addRepeatedChildGroup
  cases hget : getField schema g name with
  | error e => exact ⟨rfl, hg⟩
  | ok field =>
      dsimp only
      cases hcpp : field.cppType
      case message messageType =>
        dsimp only
        split
        · exact ⟨rfl, hg⟩
        rename_i hrep
        -- the family's members are numbered below its size, so the new index is fresh
        have hfresh : ChildKey.repeated name (familySize g name) ∉ g.children.map Prod.fst :=
          fun hmem => Nat.lt_irrefl _ (hok.1.index_lt name _ hmem)
        exact addChildGroupWith_every hg (findFieldByName_of_getField hget) hcpp
          (by simpa [ChildKey.isRepeated] using hrep) hfresh
          (fun name' index h => by cases h; rfl)
      all_goals exact ⟨rfl, hg⟩

theorem familySize_filter_of_kept {g : AttributeGroupInternal D A Q S} {name : String}
    {removed : ChildKey → Bool} (hkept : ∀ key, key.inFamily name = true → removed key = false) :
    familySize { g with children := g.children.filter fun e => !removed e.1 } name =
      familySize g name := by
  unfold familySize
  rw [List.filter_filter]
  congr 1
  refine List.filter_congr fun e _ => ?_
  by_cases h : e.1.inFamily name = true
  · simp [h, hkept e.1 h]
  · simp [h]

/-- The children `removed`, all of one field, dropped from the group and from
every query's record: when each family is dropped whole or not at all, the
invariant holds after. -/
theorem removeChildren_every {loc : Location} {g : AttributeGroupInternal D A Q S}
    {name : String} {removed : ChildKey → Bool} (hg : Every (GroupOk schema R) loc g)
    (hfield : ∃ key child, (key, child) ∈ g.children ∧ key.name = name)
    (hfamily : ∀ name', (∀ key, key.inFamily name' = true → removed key = false) ∨
      (∀ key, key.inFamily name' = true → removed key = true)) :
    (removeChildren schema name removed g).2.descriptor = g.descriptor ∧
      Every (GroupOk schema R) loc (removeChildren schema name removed g).2 := by
  obtain ⟨hok, hchildren⟩ := (every_iff _ _ _).mp hg
  obtain ⟨key₀, child₀, hmem₀, rfl⟩ := hfield
  obtain ⟨field, hfind, -, -⟩ := hok.1.child_field key₀ child₀ hmem₀
  let drop : RegisteredQuery D A → RegisteredQuery D A := fun info =>
    { info with registeredChildGroups := info.registeredChildGroups.filter fun key => !removed key }
  unfold removeChildren
  rw [updateEach_of_ok (fun _ info => drop info) g.registeredQueries
    (fun q info hq => by dsimp only; rw [hok.nodeRemoveField_ok hfind q info hq])]
  dsimp only
  -- a key left among the children is one that was there and is not removed
  have hkept : ∀ key, key ∈ (g.children.filter fun e => !removed e.1).map Prod.fst →
      key ∈ g.children.map Prod.fst ∧ removed key = false := by
    intro key hkey
    obtain ⟨e, he, rfl⟩ := List.mem_map.mp hkey
    obtain ⟨he, hkeep⟩ := List.mem_filter.mp he
    exact ⟨List.mem_map.mpr ⟨e, he, rfl⟩, by simpa using hkeep⟩
  refine ⟨rfl, (every_iff _ _ _).mpr ⟨⟨⟨hok.1.depth_eq, hok.1.attribute_field, ?_,
    hok.1.names_nodup, hok.1.values_nodup, ?_, ?_, ?_⟩,
    fun q => (hok.2 q).of_lookup_map (lookup_map_value _ q _) ?_⟩, ?_⟩⟩
  · intro key child hmem
    exact hok.1.child_field key child (List.mem_filter.mp hmem).1
  · exact (List.filter_sublist.map Prod.fst).nodup hok.1.keys_nodup
  · intro name' index hmem
    obtain ⟨hold, hkeep⟩ := hkept _ hmem
    rcases hfamily name' with hnone | hall
    · show index < familySize { g with children := g.children.filter fun e => !removed e.1 } name'
      rw [familySize_filter_of_kept hnone]
      exact hok.1.index_lt name' index hold
    · have := hall (.repeated name' index) (by simp [ChildKey.inFamily])
      rw [hkeep] at this
      cases this
  · rw [map_fst_map_value]
    exact hok.1.queries_nodup
  · intro P info hR hlookup
    have hreg := (hok.2 q).registered P info hR hlookup
    refine ⟨hreg.paths_eq, hreg.queryAll, hreg.node_eq, ?_, ?_, hreg.attributes⟩
    · intro key hkey
      obtain ⟨hkey, hkeep⟩ := List.mem_filter.mp hkey
      obtain ⟨e, he, rfl⟩ := List.mem_map.mp (hreg.childGroups_mem _ hkey)
      exact List.mem_map.mpr ⟨e, List.mem_filter.mpr ⟨he, hkeep⟩, rfl⟩
    · intro key child hmem
      obtain ⟨hmem, hkeep⟩ := List.mem_filter.mp hmem
      rw [← hreg.childGroups_iff key child hmem]
      simp only [drop, List.mem_filter]
      exact ⟨fun h => h.1, fun h => ⟨h, hkeep⟩⟩
  · intro key child hmem
    exact hchildren key child (List.mem_filter.mp hmem).1

/-- `RemoveChildGroup` keeps the invariant. -/
theorem removeChildGroup_every {loc : Location} {g : AttributeGroupInternal D A Q S}
    {name : String} (hg : Every (GroupOk schema R) loc g) :
    (removeChildGroup schema name g).2.descriptor = g.descriptor ∧
      Every (GroupOk schema R) loc (removeChildGroup schema name g).2 := by
  unfold removeChildGroup
  cases hlookup : g.children.lookup (.single name) with
  | none =>
      -- nothing to remove: only the field is checked
      dsimp only
      split
      · exact ⟨rfl, hg⟩
      · split
        · exact ⟨rfl, hg⟩
        · split <;> exact ⟨rfl, hg⟩
  | some child =>
      -- a singular group is in no family
      exact removeChildren_every hg ⟨_, child, mem_of_lookup_eq_some hlookup, rfl⟩
        fun name' => Or.inl fun key hkey => by
          cases key with
          | single _ => simp [ChildKey.inFamily] at hkey
          | repeated _ _ => rfl

/-- `RemoveRepeatedChildGroup` keeps the invariant. -/
theorem removeRepeatedChildGroup_every {loc : Location} {g : AttributeGroupInternal D A Q S}
    {name : String} (hg : Every (GroupOk schema R) loc g) :
    (removeRepeatedChildGroup schema name g).2.descriptor = g.descriptor ∧
      Every (GroupOk schema R) loc (removeRepeatedChildGroup schema name g).2 := by
  unfold removeRepeatedChildGroup
  split
  · rename_i hany
    obtain ⟨⟨key, child⟩, hmem, hfamily⟩ := List.any_eq_true.mp hany
    have hname : key.name = name := by
      cases key with
      | single _ => simp [ChildKey.inFamily] at hfamily
      | repeated name' _ => simpa [ChildKey.inFamily, ChildKey.name] using hfamily
    -- the family goes whole, every other family stays
    refine removeChildren_every hg ⟨key, child, hmem, hname⟩ fun name' => ?_
    by_cases hsame : name' = name
    · subst hsame
      exact Or.inr fun key hkey => hkey
    · refine Or.inl fun key' hkey' => ?_
      cases key' with
      | single _ => simp [ChildKey.inFamily] at hkey'
      | repeated name'' _ =>
          simp only [ChildKey.inFamily, beq_iff_eq] at hkey' ⊢
          rw [hkey']
          simpa using hsame
  · split
    · exact ⟨rfl, hg⟩
    · split
      · exact ⟨rfl, hg⟩
      · split <;> exact ⟨rfl, hg⟩

/-! ## Calls below the root -/

theorem childLayout_assocSet {children : List (ChildKey × AttributeGroupInternal D A Q S)}
    {key : ChildKey} {child child' : AttributeGroupInternal D A Q S}
    (hnodup : (children.map Prod.fst).Nodup) (hlookup : children.lookup key = some child)
    (hdesc : child'.descriptor = child.descriptor) :
    childLayout (assocSet key child' children) = childLayout children := by
  rw [assocSet, if_pos (by simp [hlookup]), childLayout, childLayout, List.map_map]
  refine List.map_congr_left fun e he => ?_
  by_cases hk : e.1 = key
  · -- the entry replaced is the child found, the keys being distinct
    have hchild : e.2 = child := by
      have hfound := lookup_eq_some_of_mem hnodup (show (e.1, e.2) ∈ children from he)
      rw [hk, hlookup] at hfound
      exact (Option.some.inj hfound).symm
    simp [hk, hchild, hdesc]
  · simp [hk]

/-- A group keeps its part of the invariant when a child is replaced by one
of the same descriptor: the descriptors are all it reads of its children. -/
theorem GroupOk.assocSet_child {loc : Location} {g : AttributeGroupInternal D A Q S}
    {key : ChildKey} {child child' : AttributeGroupInternal D A Q S}
    (hok : GroupOk schema R loc g) (hlookup : g.children.lookup key = some child)
    (hdesc : child'.descriptor = child.descriptor) :
    GroupOk schema R loc { g with children := assocSet key child' g.children } :=
  hok.of_sameLayout ⟨rfl, rfl, rfl, childLayout_assocSet hok.1.keys_nodup hlookup hdesc⟩ rfl

/-- A call on the group at `target` below `g` keeps `Every L` when it keeps
it, and the descriptor, at that group, and a parent keeps `L` when a child is
replaced by one of the same descriptor. -/
theorem modifyAt_every {L : Location → AttributeGroupInternal D A Q S → Prop}
    (f : AttributeGroupInternal D A Q S → StatusOr Unit × AttributeGroupInternal D A Q S)
    (hparent : ∀ loc g key child child', L loc g → g.children.lookup key = some child →
      child'.descriptor = child.descriptor →
        L loc { g with children := assocSet key child' g.children }) :
    ∀ (target loc : Location) (g : AttributeGroupInternal D A Q S), Every L loc g →
      (∀ g', g.at? target = some g' → Every L (loc ++ target) g' →
        (f g').2.descriptor = g'.descriptor ∧ Every L (loc ++ target) (f g').2) →
      (g.modifyAt f target).2.descriptor = g.descriptor ∧ Every L loc (g.modifyAt f target).2
  | [], loc, g, hg, hf => by
      simpa [AttributeGroupInternal.modifyAt] using hf g rfl (by simpa using hg)
  | key :: target, loc, g, hg, hf => by
      obtain ⟨hlocal, hchildren⟩ := (every_iff _ _ _).mp hg
      cases hlookup : g.children.lookup key with
      | none =>
          -- no group at the location: the call is not made
          have hstep : g.modifyAt f (key :: target) = (.ok (), g) := by
            simp only [AttributeGroupInternal.modifyAt, hlookup]
          rw [hstep]
          exact ⟨rfl, hg⟩
      | some child =>
          -- the call is made below the child, which then replaces the old one
          have hf' : ∀ g', child.at? target = some g' → Every L (loc ++ [key] ++ target) g' →
              (f g').2.descriptor = g'.descriptor ∧ Every L (loc ++ [key] ++ target) (f g').2 := by
            intro g' hat hg'
            simpa using hf g' (by simp [AttributeGroupInternal.at?, hlookup, hat])
              (by simpa using hg')
          obtain ⟨hdesc, hevery⟩ := modifyAt_every f hparent target (loc ++ [key]) child
            (hchildren key child (mem_of_lookup_eq_some hlookup)) hf'
          cases hrec : child.modifyAt f target with
          | mk status child' =>
              rw [hrec] at hdesc hevery
              have hstep : g.modifyAt f (key :: target) =
                  (status, { g with children := assocSet key child' g.children }) := by
                simp only [AttributeGroupInternal.modifyAt, hlookup, hrec]
              rw [hstep]
              refine ⟨rfl, (every_iff _ _ _).mpr
                ⟨hparent loc g key child child' hlocal hlookup hdesc, ?_⟩⟩
              intro key' child'' hmem
              rcases mem_assocSet hmem with hold | hnew
              · exact hchildren key' child'' hold
              · cases hnew
                exact hevery

/-- A call below the root that keeps the invariant at the group it is made
at keeps the invariant of the database, with the same registry. -/
theorem DatabaseOk.modifyAt {d : D} {root : AttributeGroupInternal D A Q S}
    (hdb : DatabaseOk schema d R root)
    (f : AttributeGroupInternal D A Q S → StatusOr Unit × AttributeGroupInternal D A Q S)
    (loc : Location)
    (hf : ∀ g', root.at? loc = some g' → Every (GroupOk schema R) loc g' →
      (f g').2.descriptor = g'.descriptor ∧ Every (GroupOk schema R) loc (f g').2) :
    DatabaseOk schema d R (root.modifyAt f loc).2 := by
  obtain ⟨hdesc, hevery⟩ := modifyAt_every f
    (fun _ _ _ _ _ hok hlookup hchild => hok.assocSet_child hlookup hchild) loc [] root
    hdb.every (by simpa using hf)
  exact ⟨hdesc.trans hdb.descriptor_eq, hdb.paths_valid, hevery⟩

/-! ## Calls on the root -/

/-- `ValidateQuery` accepts the paths only when it accepts each of them. -/
theorem validatePath_of_validateQuery {descriptor : D} :
    ∀ {paths : List Path}, validateQuery schema descriptor paths = .ok () →
      ∀ p ∈ paths, validatePath schema descriptor p = .ok ()
  | [], _ => fun _ hp => absurd hp List.not_mem_nil
  | p :: rest, h => by
      -- the loop checks the first path, then the others
      have hseq : (validatePath schema descriptor p >>= fun _ =>
          validateQuery schema descriptor rest) = .ok () := h
      obtain ⟨_, hp, hrest⟩ := bind_eq_ok.mp hseq
      intro p' hp'
      rcases List.mem_cons.mp hp' with rfl | hmem
      · exact hp
      · exact validatePath_of_validateQuery hrest p' hmem

variable (schema) in
/-- The registry a call leaves on a database of root descriptor `d`: a query
whose paths `ValidateQuery` accepts is registered with them, and a query
unregistered is dropped. -/
def registryStep (d : D) (registry : Q → Option (List Path)) :
    Call A Q → Q → Option (List Path)
  | .registerQuery q paths =>
      match validateQuery schema d paths with
      | .ok () => Function.update registry q (some paths)
      | .error _ => registry
  | .unregisterQuery q => Function.update registry q none
  | _ => registry

/-- `RegisterQuery` of a query not registered yet, with non-empty paths, keeps
the invariant: the paths are registered when `ValidateQuery` accepts them,
and nothing changes when it does not. -/
theorem registerQuery_databaseOk {d : D} {root : AttributeGroupInternal D A Q S} {q : Q}
    {paths : List Path} (hdb : DatabaseOk schema d R root)
    (hfresh : root.registeredQueries.lookup q = none) (hnonempty : ∀ p ∈ paths, p ≠ []) :
    DatabaseOk schema d (registryStep schema d R (.registerQuery q paths : Call A Q))
      (registerQuery schema q paths root).2 := by
  obtain ⟨hdesc, hvalid, hevery⟩ := hdb
  subst hdesc
  dsimp only [registryStep]
  unfold registerQuery
  cases hvalidate : validateQuery schema root.descriptor paths with
  | error e => exact ⟨rfl, hvalid, hevery⟩
  | ok u =>
      cases u
      -- the root holds no record of the query, so the registry has none
      have hRq : R q = none := by
        have hsome := (((every_iff _ _ _).mp hevery).1.2 q).isSome_eq
        rw [hfresh] at hsome
        cases hR : R q with
        | none => rfl
        | some P => simp [hR, registeredAt] at hsome
      -- every path goes below the root, and none covers the root itself
      have hfilter : paths.filter (reaches []) = paths :=
        List.filter_eq_self.mpr fun p hp => by
          cases p with
          | nil => exact absurd rfl (hnonempty [] hp)
          | cons e p => rfl
      have hqueryAll : Picks (covers []) paths none := Picks.none_of_all (by simp [covers])
      obtain ⟨root', hreg, hsame, hevery'⟩ :=
        registerQueryInternal_fresh R q paths [] root none hevery hRq rfl hqueryAll
      rw [hfilter] at hreg
      dsimp only
      rw [hreg]
      refine ⟨hsame.descriptor_eq, fun q' P hP p hp => ?_, hevery'⟩
      by_cases hq' : q' = q
      · subst hq'
        rw [Function.update_self] at hP
        cases hP
        exact ⟨hnonempty p hp, validatePath_of_validateQuery hvalidate p hp⟩
      · rw [Function.update_of_ne hq'] at hP
        exact hvalid q' P hP p hp

/-- `UnregisterQuery` keeps the invariant, with the query dropped from the
registry. -/
theorem unregisterQuery_databaseOk {d : D} {root : AttributeGroupInternal D A Q S}
    (hdb : DatabaseOk schema d R root) (q : Q) :
    DatabaseOk schema d (registryStep schema d R (.unregisterQuery q : Call A Q))
      (unregisterQuery q root) := by
  obtain ⟨hsame, hevery⟩ := unregisterQuery_every R q [] root hdb.every
  refine ⟨hsame.descriptor_eq.trans hdb.descriptor_eq, fun q' P hP => ?_, hevery⟩
  by_cases hq' : q' = q
  · subst hq'
    simp [registryStep] at hP
  · rw [registryStep, Function.update_of_ne hq'] at hP
    exact hdb.paths_valid q' P hP

/-! ## Runs -/

/-- What `RegisterQuery` asks of its callers: a query not registered yet, and
no empty path. -/
def Admissible (root : AttributeGroupInternal D A Q S) : Call A Q → Prop
  | .registerQuery q paths => q ∉ root.registeredQueries.map Prod.fst ∧ ∀ p ∈ paths, p ≠ []
  | _ => True

instance (root : AttributeGroupInternal D A Q S) : DecidablePred (Admissible root) := fun call => by
  cases call <;> unfold Admissible <;> infer_instance

/-- An attribute is added under one name of its group only: the group holds
the value under no other name. -/
def Unaliased (root : AttributeGroupInternal D A Q S) : Call A Q → Prop
  | .addAttribute loc name value => ∀ g ∈ root.at? loc, ∀ a ∈ g.attributes, a.2 = value → a.1 = name
  | _ => True

instance (root : AttributeGroupInternal D A Q S) : DecidablePred (Unaliased root) := fun call => by
  cases call <;> unfold Unaliased <;> infer_instance

/-- One call the guards admit keeps the invariant, with the registry the
call leaves. -/
theorem databaseOk_step {d : D} {root : AttributeGroupInternal D A Q S} {call : Call A Q}
    (hdb : DatabaseOk schema d R root) (hcall : Admissible root call)
    (halias : Unaliased root call) :
    DatabaseOk schema d (registryStep schema d R call) (step schema attrs root call).2 := by
  cases call with
  | addAttribute loc name value =>
      exact hdb.modifyAt _ loc fun g' hat hg' =>
        addAttribute_every attrs hg' fun name' hmem => halias g' hat (name', value) hmem rfl
  | addChildGroup loc name => exact hdb.modifyAt _ loc fun _ _ hg' => addChildGroup_every hg'
  | addRepeatedChildGroup loc name =>
      exact hdb.modifyAt _ loc fun _ _ hg' => addRepeatedChildGroup_every hg'
  | removeAttribute loc name =>
      exact hdb.modifyAt _ loc fun _ _ hg' => (removeAttribute_every attrs hg').imp_right And.left
  | removeChildGroup loc name =>
      exact hdb.modifyAt _ loc fun _ _ hg' => removeChildGroup_every hg'
  | removeRepeatedChildGroup loc name =>
      exact hdb.modifyAt _ loc fun _ _ hg' => removeRepeatedChildGroup_every hg'
  | registerQuery q paths =>
      exact registerQuery_databaseOk hdb (lookup_eq_none_iff.mpr hcall.1) hcall.2
  | unregisterQuery q => exact unregisterQuery_databaseOk hdb q

/-- Every run of calls the guards admit keeps the invariant, with the registry
the run leaves. -/
theorem databaseOk_run {d : D} :
    ∀ (calls : List (Call A Q)) (registry : Q → Option (List Path))
      (root : AttributeGroupInternal D A Q S), DatabaseOk schema d registry root →
      Guarded (fun s call => (step schema attrs s call).2)
        (fun s call => Admissible s call ∧ Unaliased s call) root calls →
      DatabaseOk schema d (calls.foldl (registryStep schema d) registry)
        (final (step schema attrs) root calls)
  | [], _, _, hdb, _ => hdb
  | _ :: calls, _, _, hdb, ⟨⟨hcall, halias⟩, hrest⟩ =>
      databaseOk_run calls _ _ (databaseOk_step attrs hdb hcall halias) hrest

/-- The database of an empty root: no query is registered. -/
theorem databaseOk_fromDescriptor (d : D) :
    DatabaseOk schema d (fun _ => none)
      (AttributeGroupInternal.fromDescriptor d : AttributeGroupInternal D A Q S) := by
  refine ⟨rfl, (fun _ _ h => nomatch h), (every_iff _ _ _).mpr ⟨⟨?_, fun q => ?_⟩, ?_⟩⟩
  · exact ⟨rfl, (fun _ _ h => nomatch h), (fun _ _ h => nomatch h), List.nodup_nil,
      List.nodup_nil, List.nodup_nil, (fun _ _ h => nomatch h), List.nodup_nil⟩
  · exact ⟨rfl, (fun _ _ h => nomatch h)⟩
  · intro _ _ h
    cases h

end Calls

end Stratum.Ports.AttributeGroup
