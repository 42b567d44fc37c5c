import Stratum.Ports.AttributeGroupCalls

/-!
# What `TraverseQuery` reads

A query registered at the root with the paths `P` asks for the attributes of
the tree some path of `P` matches. `TraverseQuery` walks what the groups keep
for the query and calls `attributeFunction` once for each attribute it
recorded, with the path it recorded it under. Under the invariant of
`AttributeGroupRegistration` this is exactly once for each attribute of the
tree a path matches, with a path that matches it; the matching the
registration code computes on paths `ValidateQuery` accepts is the one a
reader of the paths expects (`pathMatches`): one entry a group, naming it,
with `all` or its index for a member of a repeated family, and last either
the attribute's name or a terminal group entry above it.

The records of a query are keyed by the attribute itself. A value added to
a group under a second name shares the first name's record, so every
matched attribute is reported once after runs that never alias an attribute,
and an aliased one is reported under one name only
(`aliased_attribute_read_once`).

Main results:

* `traverseQuery_reports` — from a group where the invariant holds and the
  query is registered, the traversal succeeds and reports every attribute
  below the group that a path matches, once each;
* `attrMatch_eq_pathMatches` — on a valid path, the registration code's
  matching is `pathMatches`;
* `traverseQuery_reports_matched` — after every run of calls that add no
  aliased attribute, the traversal of every registered query reports the
  attributes of the tree its paths match, once each.
-/

set_option linter.unusedSectionVars false

namespace Stratum.Ports.AttributeGroup

open Stratum.Ports.Status Stratum.Verified.OrderedContainers Stratum.Verified.Run
open Stratum.Verified.Trace

/-! ## The attributes of a tree -/

section Occurrences

variable {D A Q S : Type}

mutual

/-- The attributes of the groups at and below `g`, which is at `loc`, each
with the location of its group and its name. -/
def occurrences : Location → AttributeGroupInternal D A Q S → List (Location × String × A)
  | loc, ⟨_, _, attributes, children, _, _, _⟩ =>
      attributes.map (fun a => (loc, a.1, a.2)) ++ occurrencesChildren loc children

/-- The attributes below the children of a group at `loc`. -/
def occurrencesChildren :
    Location → List (ChildKey × AttributeGroupInternal D A Q S) → List (Location × String × A)
  | _, [] => []
  | loc, (key, child) :: rest => occurrences (loc ++ [key]) child ++ occurrencesChildren loc rest

end

theorem occurrences_eq (loc : Location) (g : AttributeGroupInternal D A Q S) :
    occurrences loc g =
      g.attributes.map (fun a => (loc, a.1, a.2)) ++ occurrencesChildren loc g.children := by
  cases g
  rw [occurrences]

/-- The calls of `attributeFunction` report the attributes `occs` that some
path of `P` matches, by the matching `m`: one call for each, in some order,
with the attribute's value and a path of `P` that matches it. -/
def Reports (m : String → Location → Path → Bool) (P : List Path)
    (occs : List (Location × String × A)) (calls : List (A × Path)) : Prop :=
  ∃ order, order.Perm (occs.filter fun o => P.any (m o.2.1 o.1)) ∧
    List.Forall₂ (fun o call => call.1 = o.2.2 ∧ call.2 ∈ P ∧ m o.2.1 o.1 call.2 = true)
      order calls

variable {m : String → Location → Path → Bool} {P : List Path}

theorem Reports.nil_of_filter {occs : List (Location × String × A)}
    (h : occs.filter (fun o => P.any (m o.2.1 o.1)) = []) : Reports m P occs [] :=
  ⟨[], by rw [h], List.Forall₂.nil⟩

theorem Reports.append {occs occs' : List (Location × String × A)} {calls calls' : List (A × Path)}
    (h : Reports m P occs calls) (h' : Reports m P occs' calls') :
    Reports m P (occs ++ occs') (calls ++ calls') := by
  obtain ⟨order, hperm, hcalls⟩ := h
  obtain ⟨order', hperm', hcalls'⟩ := h'
  exact ⟨order ++ order', by rw [List.filter_append]; exact hperm.append hperm',
    List.rel_append hcalls hcalls'⟩

theorem Reports.perm {occs occs' : List (Location × String × A)} {calls : List (A × Path)}
    (h : Reports m P occs calls) (hperm : occs.Perm occs') : Reports m P occs' calls := by
  obtain ⟨order, horder, hcalls⟩ := h
  exact ⟨order, horder.trans (hperm.filter _), hcalls⟩

/-- Two matchings that agree on the attributes `occs` and the paths `P` report
the same calls. -/
theorem Reports.congr {m' : String → Location → Path → Bool} {occs : List (Location × String × A)}
    {calls : List (A × Path)} (hm : ∀ o ∈ occs, ∀ p ∈ P, m o.2.1 o.1 p = m' o.2.1 o.1 p)
    (h : Reports m P occs calls) : Reports m' P occs calls := by
  obtain ⟨order, hperm, hcalls⟩ := h
  have hfilter : (occs.filter fun o => P.any (m o.2.1 o.1)) =
      occs.filter fun o => P.any (m' o.2.1 o.1) :=
    List.filter_congr fun o ho => Bool.eq_iff_iff.mpr <| by
      simp only [List.any_eq_true]
      exact exists_congr fun p => and_congr_right fun hp => by rw [hm o ho p hp]
  -- every attribute of the order is one of `occs`, where the matchings agree
  have hmem : ∀ o ∈ order, o ∈ occs := fun o ho => List.mem_of_mem_filter (hperm.subset ho)
  refine ⟨order, hfilter ▸ hperm, ?_⟩
  refine ((List.forall₂_and_left order calls).mpr ⟨hmem, hcalls⟩).imp ?_
  rintro o call ⟨ho, hvalue, hpath, hmatch⟩
  exact ⟨hvalue, hpath, (hm o ho call.2 hpath) ▸ hmatch⟩

end Occurrences

/-! ## Where the attributes of a tree are -/

section Locations

variable {D E A Q S : Type} [DecidableEq E] [DecidableEq A] [DecidableEq Q] [DecidableEq S]
  {schema : Schema D E} {R : Q → Option (List Path)}

mutual

/-- Every attribute below a group is in a group the group reaches. -/
theorem exists_at_of_mem_occurrences :
    ∀ (loc : Location) (g : AttributeGroupInternal D A Q S) (o : Location × String × A),
      Every (GroupOk schema R) loc g → o ∈ occurrences loc g →
        ∃ rest g', o.1 = loc ++ rest ∧ g.at? rest = some g'
  | loc, ⟨descriptor, depth, attributes, children, registeredQueries, dataSources, versionId⟩,
      o, hg, ho => by
      rw [Every] at hg
      obtain ⟨hok, hchildren⟩ := hg
      rw [occurrences, List.mem_append] at ho
      rcases ho with hattribute | hchild
      · -- an attribute of the group itself
        obtain ⟨a, _, rfl⟩ := List.mem_map.mp hattribute
        exact ⟨[], _, by simp, rfl⟩
      · -- an attribute below a child, which is the one its key finds
        obtain ⟨key, child, rest, g', hmem, hloc, hat⟩ :=
          exists_at_of_mem_occurrencesChildren loc children o hchildren hchild
        have hlookup : children.lookup key = some child :=
          lookup_eq_some_of_mem hok.1.keys_nodup hmem
        exact ⟨key :: rest, g', hloc, by simp [AttributeGroupInternal.at?, hlookup, hat]⟩

theorem exists_at_of_mem_occurrencesChildren :
    ∀ (loc : Location) (children : List (ChildKey × AttributeGroupInternal D A Q S))
      (o : Location × String × A), EveryChild (GroupOk schema R) loc children →
      o ∈ occurrencesChildren loc children →
        ∃ key child rest g', (key, child) ∈ children ∧ o.1 = loc ++ key :: rest ∧
          child.at? rest = some g'
  | _, [], _, _, ho => by simp [occurrencesChildren] at ho
  | loc, (key, child) :: rest, o, ⟨hchild, hrest⟩, ho => by
      rw [occurrencesChildren, List.mem_append] at ho
      rcases ho with hhere | hlater
      · obtain ⟨rest', g', hloc, hat⟩ := exists_at_of_mem_occurrences (loc ++ [key]) child o hchild hhere
        exact ⟨key, child, rest', g', List.mem_cons_self, by simp [hloc], hat⟩
      · obtain ⟨key', child', rest', g', hmem, hloc, hat⟩ :=
          exists_at_of_mem_occurrencesChildren loc rest o hrest hlater
        exact ⟨key', child', rest', g', List.mem_cons_of_mem _ hmem, hloc, hat⟩

end

/-- No path asks for an attribute below a group no path selects. -/
theorem filter_occurrences_of_not_relevant {P : List Path} {loc : Location}
    {g : AttributeGroupInternal D A Q S} (hg : Every (GroupOk schema R) loc g)
    (hrel : relevant P loc = false) :
    (occurrences loc g).filter (fun o => P.any (attrMatch o.2.1 o.1)) = [] := by
  refine List.filter_eq_nil_iff.mpr fun o ho => ?_
  obtain ⟨rest, _, hloc, _⟩ := exists_at_of_mem_occurrences loc g o hg ho
  rw [hloc, Bool.not_eq_true, List.any_eq_false]
  intro p hp
  simp [attrMatch_eq_false_of_not_relevant hrel o.2.1 rest p hp]

end Locations

/-! ## Traversing a registered query -/

section Traverse

variable {D E A Q S : Type} [DecidableEq E] [DecidableEq A] [DecidableEq Q] [DecidableEq S]
  {schema : Schema D E} {R : Q → Option (List Path)} (q : Q) {P : List Path}
  {groupFunction : AttributeGroupInternal D A Q S → StatusOr Unit}
  {attributeFunction : A → Path → String → StatusOr Unit}

/-- The attributes a query records at a group report the group's attributes
that its paths match. -/
theorem AttributesRegistered.reports {loc : Location} {attributes : List (String × A)}
    {registered : List (A × AttributeInfo)} (h : AttributesRegistered P loc attributes registered) :
    Reports attrMatch P (attributes.map fun a => (loc, a.1, a.2))
      (registered.map fun e => (e.1, e.2.queryPath)) := by
  refine ⟨registered.map fun e => (loc, e.2.setter, e.1), ?_, ?_⟩
  · -- the order of the records, a permutation of the attributes matched
    have hperm := h.perm.map fun a => (loc, a.1, a.2)
    rw [List.map_map, List.filter_map] at *
    exact hperm
  · rw [List.forall₂_map_left_iff, List.forall₂_map_right_iff]
    exact List.forall₂_same.mpr fun e he => ⟨rfl, h.path e he⟩

mutual

/-- `TraverseQuery` of `q`, registered with the paths `P`, from a group the
paths select where the invariant holds: it reports the attributes at and
below the group that a path matches. -/
theorem traverseQuery_reports (hgroup : ∀ g, groupFunction g = .ok ())
    (hattribute : ∀ a p s, attributeFunction a p s = .ok ()) (hRq : R q = some P) :
    ∀ (loc : Location) (g : AttributeGroupInternal D A Q S), Every (GroupOk schema R) loc g →
      registeredAt P loc = true →
      ∃ calls, traverseQuery groupFunction attributeFunction q g = .ok calls ∧
        Reports attrMatch P (occurrences loc g) calls
  | loc, ⟨descriptor, depth, attributes, children, registeredQueries, dataSources, versionId⟩,
      hg, hsel => by
      rw [Every] at hg
      obtain ⟨hok, hchildren⟩ := hg
      -- the group keeps a record of the query
      obtain ⟨info, hlookup⟩ : ∃ info, registeredQueries.lookup q = some info := by
        have hsome := (hok.2 q).isSome_eq
        rw [hRq, Option.any_some, hsel] at hsome
        exact Option.isSome_iff_exists.mp hsome
      have hreg := (hok.2 q).registered P info hRq hlookup
      obtain ⟨childCalls, hchild, hchildReports⟩ :=
        traverseChildren_reports hgroup hattribute hRq loc info.registeredChildGroups children
          hchildren hreg.childGroups_iff
      refine ⟨childCalls ++ info.registeredAttributes.map fun e => (e.1, e.2.queryPath), ?_, ?_⟩
      · simp only [traverseQuery, hlookup, hchild, bind, Except.bind]
        refine bind_eq_ok.mpr ⟨info.registeredAttributes.map fun e => (e.1, e.2.queryPath),
          mapM_eq_ok_iff.mpr ?_, ?_⟩
        · rw [List.forall₂_map_right_iff]
          exact List.forall₂_same.mpr fun e _ => by
            simp [hattribute, pure, Except.pure]
        · simp [hgroup, pure, Except.pure]
      · -- the children's attributes come first, the group's own after
        rw [occurrences]
        exact (hchildReports.append hreg.attributes.reports).perm List.perm_append_comm

/-- The loop of `TraverseQuery` over the children, when the children it goes
into are those a path selects. -/
theorem traverseChildren_reports (hgroup : ∀ g, groupFunction g = .ok ())
    (hattribute : ∀ a p s, attributeFunction a p s = .ok ()) (hRq : R q = some P) :
    ∀ (loc : Location) (keys : List ChildKey)
      (children : List (ChildKey × AttributeGroupInternal D A Q S)),
      EveryChild (GroupOk schema R) loc children →
      (∀ key child, (key, child) ∈ children → (key ∈ keys ↔ relevant P (loc ++ [key]) = true)) →
      ∃ calls, traverseChildren groupFunction attributeFunction q keys children = .ok calls ∧
        Reports attrMatch P (occurrencesChildren loc children) calls
  | _, _, [], _, _ => ⟨[], rfl, Reports.nil_of_filter rfl⟩
  | loc, keys, (key, child) :: rest, ⟨hchild, hrest⟩, hkeys => by
      obtain ⟨restCalls, hrestCalls, hrestReports⟩ :=
        traverseChildren_reports hgroup hattribute hRq loc keys rest hrest
          fun key' child' hmem => hkeys key' child' (List.mem_cons_of_mem _ hmem)
      rw [occurrencesChildren]
      by_cases hkey : key ∈ keys
      · -- the query goes into the child, which a path selects
        have hrel := (hkeys key child List.mem_cons_self).mp hkey
        obtain ⟨childCalls, hchildCalls, hchildReports⟩ :=
          traverseQuery_reports hgroup hattribute hRq (loc ++ [key]) child hchild
            (by simp [registeredAt, hrel])
        refine ⟨childCalls ++ restCalls, ?_, hchildReports.append hrestReports⟩
        simp [traverseChildren, hkey, hchildCalls, hrestCalls, bind, Except.bind, pure,
          Except.pure]
      · -- no path selects the child, so none asks for an attribute below it
        have hrel : relevant P (loc ++ [key]) = false := by
          simpa using mt (hkeys key child List.mem_cons_self).mpr hkey
        refine ⟨restCalls, ?_, ?_⟩
        · simp [traverseChildren, hkey, hrestCalls, bind, Except.bind, pure, Except.pure]
        · have hnone := Reports.nil_of_filter (m := attrMatch)
            (filter_occurrences_of_not_relevant hchild hrel)
          simpa using hnone.append hrestReports

end

end Traverse

/-! ## Matching paths to attributes -/

section Matching

/-- A group entry of a path selects the group `key`: it names the group's
field, and, for the `i`-th member of a repeated family, is `all` or has index
`i`. -/
def entrySelects (key : ChildKey) (e : PathEntry) : Bool :=
  e.name == key.name &&
    match key with
    | .single _ => true
    | .repeated _ index => e.all || e.index == index

/-- A path matches the attribute `name` of the group at `loc`: one entry for
each group down to it, each selecting its group, and last either a
non-terminal entry naming the attribute, or a terminal group entry selecting
a group on the way, which asks for everything below that group. -/
def pathMatches (name : String) : Location → Path → Bool
  | [], [e] => !e.terminalGroup && e.name == name
  | key :: _, [e] => e.terminalGroup && entrySelects key e
  | key :: loc, e :: e' :: p => entrySelects key e && pathMatches name loc (e' :: p)
  | _, _ => false

theorem selectsTerminal_eq (key : ChildKey) (e : PathEntry) :
    key.selectsTerminal e = (e.terminalGroup && entrySelects key e) := by
  cases key <;> simp [ChildKey.selectsTerminal, entrySelects, ChildKey.name, Bool.and_assoc]

/-- An entry indexed exactly when its group is a member of a repeated family
selects the group as `RegisterQueryChild` and `RegisterQueryRepeatedChild`
do. -/
theorem selectsThrough_eq_entrySelects {key : ChildKey} {e : PathEntry}
    (h : e.indexed = key.isRepeated) : key.selectsThrough e = entrySelects key e := by
  cases key <;> simp_all [ChildKey.selectsThrough, entrySelects, ChildKey.isRepeated,
    ChildKey.name]

theorem selectsThrough_eq_false {key : ChildKey} {e : PathEntry} (h : e.name ≠ key.name) :
    key.selectsThrough e = false ∧ entrySelects key e = false := by
  cases key <;> simp_all [ChildKey.selectsThrough, entrySelects, ChildKey.name]

variable {D E A Q S : Type} [DecidableEq E] [DecidableEq A] [DecidableEq Q] [DecidableEq S]
  {schema : Schema D E} {R : Q → Option (List Path)}

/-- `ValidateQuery` accepts an entry before the last one only when it is
indexed exactly when its field is repeated. -/
theorem indexed_eq_of_validateEntry {e : PathEntry} {field : FieldDescriptor D E}
    (h : validateEntry e field false = .ok ()) : e.indexed = field.isRepeated := by
  simp only [validateEntry, Bool.false_eq_true, if_false] at h
  obtain ⟨_, -, h⟩ := bind_eq_ok.mp h
  obtain ⟨_, -, h⟩ := bind_eq_ok.mp h
  cases hindexed : e.indexed
  · rw [hindexed] at h
    simpa using (retCheck_eq_ok.mp h).symm
  · rw [hindexed, if_pos rfl] at h
    obtain ⟨_, hrepeated, -⟩ := bind_eq_ok.mp h
    exact (retCheck_eq_ok.mp hrepeated).symm

/-- A valid path that goes on below an entry naming a child group's field is
valid from the child group's message. -/
theorem validatePath_cons_message {d m : D} {e : PathEntry} {rest : Path}
    {field : FieldDescriptor D E} (h : validatePath schema d (e :: rest) = .ok ())
    (hfind : schema.findFieldByName d e.name = some field) (hcpp : field.cppType = .message m) :
    validateEntry e field rest.isEmpty = .ok () ∧ validatePath schema m rest = .ok () := by
  rw [validatePath, hfind] at h
  dsimp only at h
  rw [hcpp] at h
  obtain ⟨_, hentry, hrest⟩ := bind_eq_ok.mp h
  exact ⟨hentry, hrest⟩

/-- On a path `ValidateQuery` accepts from a group, the registration code
matches the attributes of every group below it as `pathMatches` does: the
groups' keys follow the schema, so an entry before the last is indexed
exactly at a repeated family. -/
theorem attrMatch_eq_pathMatches (name : String) :
    ∀ (rest loc : Location) (g g' : AttributeGroupInternal D A Q S) (p : Path),
      Every (GroupOk schema R) loc g → g.at? rest = some g' →
      validatePath schema g.descriptor p = .ok () → attrMatch name rest p = pathMatches name rest p
  | [], _, _, _, [], _, _, _ => rfl
  | [], _, _, _, [_], _, _, _ => rfl
  | [], _, _, _, _ :: _ :: _, _, _, _ => rfl
  | _ :: _, _, _, _, [], _, _, _ => rfl
  | key :: _, _, _, _, [e], _, _, _ => selectsTerminal_eq key e
  | key :: rest, loc, g, g', e :: e' :: p, hg, hat, hvalid => by
      obtain ⟨hok, hchildren⟩ := (every_iff _ _ _).mp hg
      -- the child the location goes into, and its field
      obtain ⟨child, hlookup, hat'⟩ :
          ∃ child, g.children.lookup key = some child ∧ child.at? rest = some g' := by
        simpa [AttributeGroupInternal.at?, Option.bind_eq_some_iff] using hat
      have hmem := mem_of_lookup_eq_some hlookup
      obtain ⟨field, hfind, hcpp, hrepeated⟩ := hok.1.child_field key child hmem
      simp only [attrMatch, pathMatches]
      by_cases hname : e.name = key.name
      · -- the entry names the child's field: the path goes on in the child's message
        obtain ⟨hentry, hrest⟩ :=
          validatePath_cons_message hvalid (by rw [hname]; exact hfind) hcpp
        rw [selectsThrough_eq_entrySelects ((indexed_eq_of_validateEntry hentry).trans hrepeated),
          attrMatch_eq_pathMatches name rest (loc ++ [key]) child g' (e' :: p)
            (hchildren key child hmem) hat' hrest]
      · rw [(selectsThrough_eq_false hname).1, (selectsThrough_eq_false hname).2,
          Bool.false_and, Bool.false_and]

end Matching

/-! ## After every run -/

section Runs

variable {D E A Q S : Type} [DecidableEq E] [DecidableEq A] [DecidableEq Q] [DecidableEq S]

/-- After every run of calls from an empty root that never adds an attribute
under a second name of its group, the traversal of every query registered
with the paths `P` calls `attributeFunction` once for each attribute of the
tree a path of `P` matches, and for no other, with a path of `P` that matches
it. -/
theorem traverseQuery_reports_matched (schema : Schema D E) (attrs : ManagedAttributes A S E)
    (d : D) {groupFunction : AttributeGroupInternal D A Q S → StatusOr Unit}
    {attributeFunction : A → Path → String → StatusOr Unit}
    (hgroup : ∀ g, groupFunction g = .ok ())
    (hattribute : ∀ a p s, attributeFunction a p s = .ok ()) (calls : List (Call A Q))
    (hrun : Guarded (fun s call => (step schema attrs s call).2)
      (fun s call => Admissible s call ∧ Unaliased s call)
      (AttributeGroupInternal.fromDescriptor d) calls)
    (q : Q) (P : List Path) (hq : calls.foldl (registryStep schema d) (fun _ => none) q = some P) :
    ∃ attributeCalls,
      traverseQuery groupFunction attributeFunction q
          (final (step schema attrs) (AttributeGroupInternal.fromDescriptor d) calls) =
        .ok attributeCalls ∧
      Reports pathMatches P
        (occurrences [] (final (step schema attrs) (AttributeGroupInternal.fromDescriptor d) calls))
        attributeCalls := by
  have hdb := databaseOk_run attrs calls _ _ (databaseOk_fromDescriptor d) hrun
  obtain ⟨attributeCalls, htraverse, hreports⟩ :=
    traverseQuery_reports q hgroup hattribute hq [] _ hdb.every rfl
  refine ⟨attributeCalls, htraverse, hreports.congr fun o ho p hp => ?_⟩
  -- the attribute is in a group of the tree, and the path is valid from the root
  obtain ⟨rest, g', hloc, hat⟩ := exists_at_of_mem_occurrences [] _ o hdb.every ho
  have hvalid := (hdb.paths_valid q P hq p hp).2
  rw [← hdb.descriptor_eq] at hvalid
  rw [hloc, List.nil_append]
  exact attrMatch_eq_pathMatches o.2.1 rest [] _ g' p hdb.every hat hvalid

/-- A schema of one message with the two integer fields `a` and `b`. -/
def twoFieldSchema : Schema Unit Unit :=
  ⟨fun _ name => if name = "a" ∨ name = "b" then some ⟨.int32, false⟩ else none, fun _ => "Root"⟩

/-- Attributes that are numbers, each an `int32` with a datasource. -/
def numberAttributes : ManagedAttributes Nat Unit Unit := ⟨fun _ => .int32, fun _ => some ()⟩

/-- The path entry of the attribute `name` of the root. -/
def attributeEntry (name : String) : PathEntry := ⟨name, 0, false, false, false⟩

/-- Two values under the two names of the root, then a query for both. -/
def twoValueRun : List (Call Nat Nat) :=
  [.addAttribute [] "a" 0, .addAttribute [] "b" 1,
    .registerQuery 0 [[attributeEntry "a"], [attributeEntry "b"]]]

theorem traverseQuery_reports_two_values :
    ∃ attributeCalls,
      traverseQuery (fun _ => .ok ()) (fun _ _ _ => .ok ()) 0
          (final (step twoFieldSchema numberAttributes)
            (AttributeGroupInternal.fromDescriptor () : AttributeGroupInternal Unit Nat Nat Unit)
            twoValueRun) =
        .ok attributeCalls ∧
      Reports pathMatches [[attributeEntry "a"], [attributeEntry "b"]]
        (occurrences [] (final (step twoFieldSchema numberAttributes)
          (AttributeGroupInternal.fromDescriptor () : AttributeGroupInternal Unit Nat Nat Unit)
          twoValueRun))
        attributeCalls :=
  traverseQuery_reports_matched twoFieldSchema numberAttributes () (fun _ => rfl)
    (fun _ _ _ => rfl) twoValueRun
    ⟨⟨by decide, by decide⟩, ⟨by decide, by decide⟩, ⟨by decide, by decide⟩, trivial⟩ 0
    [[attributeEntry "a"], [attributeEntry "b"]] rfl

/-- One value under the two names of the root, a query for both, then the
second name removed: the first still holds the value. -/
def aliasedRun : List (Call Nat Nat) :=
  [.addAttribute [] "a" 0, .addAttribute [] "b" 0,
    .registerQuery 0 [[attributeEntry "a"], [attributeEntry "b"]], .removeAttribute [] "b"]

/-- With one value under two names, removing one name drops the query's record
of the value: the run is one the guards of `RegisterQuery` admit, every value
has a datasource and `ValidateQuery` accepts the paths, yet the traversal
makes no call although the path of `a` matches the attribute `a`. -/
theorem aliased_attribute_read_once :
    Guarded (fun s call => (step twoFieldSchema numberAttributes s call).2)
        (fun s call => Admissible s call)
        (AttributeGroupInternal.fromDescriptor () : AttributeGroupInternal Unit Nat Nat Unit)
        aliasedRun ∧
      validateQuery twoFieldSchema () [[attributeEntry "a"], [attributeEntry "b"]] = .ok () ∧
      aliasedRun.foldl (registryStep twoFieldSchema ()) (fun _ => none) 0 =
        some [[attributeEntry "a"], [attributeEntry "b"]] ∧
      traverseQuery (fun _ => .ok ()) (fun _ _ _ => .ok ()) 0
          (final (step twoFieldSchema numberAttributes)
            (AttributeGroupInternal.fromDescriptor () : AttributeGroupInternal Unit Nat Nat Unit)
            aliasedRun) = .ok [] ∧
      ¬ Reports pathMatches [[attributeEntry "a"], [attributeEntry "b"]]
        (occurrences [] (final (step twoFieldSchema numberAttributes)
          (AttributeGroupInternal.fromDescriptor () : AttributeGroupInternal Unit Nat Nat Unit)
          aliasedRun))
        [] := by
  refine ⟨⟨by decide, by decide, by decide, by decide, trivial⟩, by decide, by decide, by decide,
    ?_⟩
  rintro ⟨order, hperm, hcalls⟩
  -- the attribute `a` is matched, and no call is made
  have hmatched : ((occurrences [] (final (step twoFieldSchema numberAttributes)
      (AttributeGroupInternal.fromDescriptor () : AttributeGroupInternal Unit Nat Nat Unit)
      aliasedRun)).filter fun o =>
        [[attributeEntry "a"], [attributeEntry "b"]].any (pathMatches o.2.1 o.1)) =
      [([], "a", 0)] := by decide
  rw [hmatched, List.forall₂_nil_right_iff.mp hcalls] at hperm
  exact List.cons_ne_nil _ _ hperm.nil_eq.symm

end Runs

end Stratum.Ports.AttributeGroup
