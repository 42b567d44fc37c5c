import Stratum.Ports.AttributeGroup

/-!
# What a query path selects in the attribute tree

The loops of `RegisterQueryAttribute`, `RegisterQueryChild` and
`RegisterQueryRepeatedChild` look at the entry of each path at the depth of
the group they run at. Read from the root, that selection says which groups a
path goes through and which attributes it asks for:

* `reaches loc p` — the path goes on below the group at `loc`;
* `covers loc p` — the path ends in a terminal entry that selects a group on
  the way to `loc`, and asks for all of the group;
* `attrMatch name loc p` — the path asks for the attribute `name` of the
  group at `loc`;
* `relevant P loc` — a query of the paths `P` is registered at the group.

A reader of the paths states matching in other words, `matchesAttribute`:
an entry names a group and, for a repeated member, is `all` or has its index;
on paths `ValidateQuery` accepts the two agree (`AttributeGroupQueries`).

Main results:

* `reaches_append_singleton`, `covers_append_singleton`, `attrMatch_eq` — the
  selection at a group's depth, as the loops compute it;
* `attributeQueryPath_eq`, `childQueryPaths_eq` — the loops' results;
* `any_attrMatch`, `relevant_append_singleton`, `filter_reaches_append_singleton`
  — the same results read from the paths a group keeps;
* `relevant_of_append` — a query registered at a group is registered at every
  group above it.
-/

namespace Stratum.Ports.AttributeGroup

/-! ## Selection from the root -/

/-- The path goes on below the group at `loc`: it is longer than `loc` and
each of its entries along `loc` selects the group there as a path that goes
on must. -/
def reaches : Location → Path → Bool
  | [], p => !p.isEmpty
  | _ :: _, [] => false
  | key :: loc, e :: p => key.selectsThrough e && reaches loc p

/-- The path asks for all of the group at `loc`: its last entry is a terminal
entry that selects a group on the way to `loc`. -/
def covers : Location → Path → Bool
  | key :: _, [e] => key.selectsTerminal e
  | key :: loc, e :: e' :: p => key.selectsThrough e && covers loc (e' :: p)
  | _, _ => false

/-- The path asks for the attribute `name` of the group at `loc`: it ends at
the attribute, or covers the group. -/
def attrMatch (name : String) : Location → Path → Bool
  | [], [e] => !e.terminalGroup && e.name == name
  | key :: _, [e] => key.selectsTerminal e
  | key :: loc, e :: e' :: p => key.selectsThrough e && attrMatch name loc (e' :: p)
  | _, _ => false

/-- Some path reaches or covers the group at `loc`. -/
def relevant (paths : List Path) (loc : Location) : Bool :=
  paths.any fun p => reaches loc p || covers loc p

/-- A query of the paths is registered at the group at `loc`: the root, or a
group some path selects. -/
def registeredAt (paths : List Path) (loc : Location) : Bool :=
  loc.isEmpty || relevant paths loc

/-- The condition of `RegisterQueryAttribute` on a path at `depth`. -/
def endsAtAttribute (depth : Nat) (name : String) (p : Path) : Bool :=
  decide (p.length = depth + 1) && p[depth]?.any fun e => !e.terminalGroup && e.name == name

/-- The first condition of `RegisterQueryChild` on a path at `depth`. -/
def goesThrough (depth : Nat) (key : ChildKey) (p : Path) : Bool :=
  decide (depth + 1 < p.length) && p[depth]?.any key.selectsThrough

/-- The second condition of `RegisterQueryChild` on a path at `depth`. -/
def endsAtGroup (depth : Nat) (key : ChildKey) (p : Path) : Bool :=
  decide (p.length = depth + 1) && p[depth]?.any key.selectsTerminal

theorem length_lt_of_reaches : ∀ {loc : Location} {p : Path}, reaches loc p = true →
    loc.length < p.length
  | [], [], h => by simp [reaches] at h
  | [], _ :: _, _ => by simp
  | _ :: _, [], h => by simp [reaches] at h
  | _ :: _, _ :: _, h => by
      simp only [reaches, Bool.and_eq_true] at h
      simpa using length_lt_of_reaches h.2

/-! ## One level down -/

/-- A path reaches a child exactly when it reaches the group and goes through
the child at the group's depth. -/
theorem reaches_append_singleton (key : ChildKey) :
    ∀ (loc : Location) (p : Path),
      reaches (loc ++ [key]) p = (reaches loc p && goesThrough loc.length key p)
  | [], [] => by simp [reaches, goesThrough]
  | [], e :: p => by
      cases p <;> simp [reaches, goesThrough, Bool.and_comm]
  | _ :: _, [] => by simp [reaches]
  | key' :: loc, e :: p => by
      have hdepth : goesThrough (key' :: loc).length key (e :: p) = goesThrough loc.length key p := by
        simp [goesThrough]
      rw [List.cons_append, reaches, reaches, reaches_append_singleton key loc p, hdepth,
        Bool.and_assoc]

/-- A path covers a child exactly when it covers the group or ends at the
child at the group's depth. -/
theorem covers_append_singleton (key : ChildKey) :
    ∀ (loc : Location) (p : Path),
      covers (loc ++ [key]) p = (covers loc p || (reaches loc p && endsAtGroup loc.length key p))
  | [], [] => by simp [covers, reaches]
  | [], [e] => by simp [covers, reaches, endsAtGroup]
  | [], e :: e' :: p => by simp [covers, reaches, endsAtGroup]
  | _ :: _, [] => by simp [covers, reaches]
  | key' :: loc, [e] => by
      cases loc <;> simp [covers, reaches]
  | key' :: loc, e :: e' :: p => by
      have hdepth : endsAtGroup (key' :: loc).length key (e :: e' :: p) =
          endsAtGroup loc.length key (e' :: p) := by
        simp [endsAtGroup]
      rw [List.cons_append, covers, covers, reaches, covers_append_singleton key loc (e' :: p),
        hdepth, Bool.and_or_distrib_left, Bool.and_assoc]

/-- A path asks for an attribute of a group exactly when it covers the group
or ends at the attribute at the group's depth. -/
theorem attrMatch_eq (name : String) :
    ∀ (loc : Location) (p : Path),
      attrMatch name loc p = (covers loc p || (reaches loc p && endsAtAttribute loc.length name p))
  | [], [] => by simp [attrMatch, covers, reaches, endsAtAttribute]
  | [], [e] => by simp [attrMatch, covers, reaches, endsAtAttribute]
  | [], e :: e' :: p => by simp [attrMatch, covers, reaches, endsAtAttribute]
  | _ :: _, [] => by simp [attrMatch, covers, reaches]
  | key :: loc, [e] => by
      cases loc <;> simp [attrMatch, covers, reaches]
  | key :: loc, e :: e' :: p => by
      have hdepth : endsAtAttribute (key :: loc).length name (e :: e' :: p) =
          endsAtAttribute loc.length name (e' :: p) := by
        simp [endsAtAttribute]
      rw [attrMatch, covers, reaches, attrMatch_eq name loc (e' :: p), hdepth,
        Bool.and_or_distrib_left, Bool.and_assoc]

/-! ## Selection is closed under going up -/

theorem reaches_of_append : ∀ {loc : Location} (rest : Location) {p : Path},
    reaches (loc ++ rest) p = true → reaches loc p = true
  | [], [], _, h => h
  | [], _ :: _, [], h => by simp [reaches] at h
  | [], _ :: _, _ :: _, _ => rfl
  | _ :: _, _, [], h => by simp [reaches] at h
  | _ :: loc, rest, _ :: p, h => by
      simp only [List.cons_append, reaches, Bool.and_eq_true] at h ⊢
      exact ⟨h.1, reaches_of_append rest h.2⟩

theorem reaches_or_covers_of_covers_append : ∀ {loc : Location} (rest : Location) {p : Path},
    covers (loc ++ rest) p = true → reaches loc p = true ∨ covers loc p = true
  | [], _, [], h => by simp [covers] at h
  | [], _, _ :: _, _ => Or.inl rfl
  | _ :: _, _, [], h => by simp [covers] at h
  | _ :: _, _, [_], h => Or.inr (by simpa [covers] using h)
  | key :: loc, rest, e :: e' :: p, h => by
      simp only [List.cons_append, covers, Bool.and_eq_true] at h
      rcases reaches_or_covers_of_covers_append rest h.2 with hreach | hcover
      · exact Or.inl (by simp [reaches, h.1, hreach])
      · exact Or.inr (by simp [covers, h.1, hcover])

/-- A path asking for an attribute reaches or covers every group above it. -/
theorem reaches_or_covers_of_attrMatch_append (name : String) :
    ∀ {loc : Location} (rest : Location) {p : Path},
      attrMatch name (loc ++ rest) p = true → reaches loc p = true ∨ covers loc p = true
  | [], _, [], h => by simp [attrMatch] at h
  | [], _, _ :: _, _ => Or.inl rfl
  | _ :: _, _, [], h => by simp [attrMatch] at h
  | _ :: _, _, [_], h => Or.inr (by simpa [attrMatch, covers] using h)
  | key :: loc, rest, e :: e' :: p, h => by
      simp only [List.cons_append, attrMatch, Bool.and_eq_true] at h
      rcases reaches_or_covers_of_attrMatch_append name rest h.2 with hreach | hcover
      · exact Or.inl (by simp [reaches, h.1, hreach])
      · exact Or.inr (by simp [covers, h.1, hcover])

/-- A query registered at a group is relevant to every group above it. -/
theorem relevant_of_append {paths : List Path} {loc : Location} (rest : Location)
    (h : relevant paths (loc ++ rest) = true) : relevant paths loc = true := by
  simp only [relevant, List.any_eq_true, Bool.or_eq_true] at h ⊢
  obtain ⟨p, hp, hsel⟩ := h
  refine ⟨p, hp, ?_⟩
  rcases hsel with hreach | hcover
  · exact Or.inl (reaches_of_append rest hreach)
  · exact reaches_or_covers_of_covers_append rest hcover

/-- A group no path selects has no attribute any path asks for below it. -/
theorem attrMatch_eq_false_of_not_relevant {paths : List Path} {loc : Location}
    (h : relevant paths loc = false) (name : String) (rest : Location) :
    ∀ p ∈ paths, attrMatch name (loc ++ rest) p = false := by
  intro p hp
  by_contra hmatch
  have hsel := reaches_or_covers_of_attrMatch_append name rest (Bool.of_not_eq_false hmatch)
  have hrel : relevant paths loc = true := by
    simp only [relevant, List.any_eq_true, Bool.or_eq_true]
    exact ⟨p, hp, hsel⟩
  simp [hrel] at h

/-! ## At the paths a group keeps -/

theorem any_or_any {α : Type} (f g : α → Bool) :
    ∀ l : List α, (l.any f || l.any g) = l.any fun a => f a || g a
  | [] => rfl
  | a :: l => by
      simp only [List.any_cons, ← any_or_any f g l]
      cases f a <;> cases g a <;> simp

/-- Some path ends at the attribute at the group's depth among the paths the
group keeps, or covers the group: some path asks for the attribute. -/
theorem any_attrMatch (paths : List Path) (loc : Location) (name : String) :
    (paths.any (covers loc) || (paths.filter (reaches loc)).any (endsAtAttribute loc.length name)) =
      paths.any (attrMatch name loc) := by
  rw [List.any_filter, any_or_any]
  exact congrArg paths.any (funext fun p => (attrMatch_eq name loc p).symm)

/-- Some path ends at the child at the group's depth among the paths the
group keeps, or covers the group: some path covers the child. -/
theorem any_covers_append_singleton (paths : List Path) (loc : Location) (key : ChildKey) :
    (paths.any (covers loc) || (paths.filter (reaches loc)).any (endsAtGroup loc.length key)) =
      paths.any (covers (loc ++ [key])) := by
  rw [List.any_filter, any_or_any]
  exact congrArg paths.any (funext fun p => (covers_append_singleton key loc p).symm)

/-- Some path the group keeps goes through or ends at the child, or one
covers the group: the child is relevant. -/
theorem relevant_append_singleton (paths : List Path) (loc : Location) (key : ChildKey) :
    (paths.any (covers loc) || (paths.filter (reaches loc)).any fun p =>
        goesThrough loc.length key p || endsAtGroup loc.length key p) =
      relevant paths (loc ++ [key]) := by
  rw [List.any_filter, any_or_any, relevant]
  refine congrArg paths.any (funext fun p => ?_)
  rw [reaches_append_singleton, covers_append_singleton]
  cases covers loc p <;> cases reaches loc p <;> cases goesThrough loc.length key p <;>
    cases endsAtGroup loc.length key p <;> rfl

/-- The paths a child keeps are those its parent keeps that go through it. -/
theorem filter_reaches_append_singleton (paths : List Path) (loc : Location) (key : ChildKey) :
    (paths.filter (reaches loc)).filter (goesThrough loc.length key) =
      paths.filter (reaches (loc ++ [key])) := by
  rw [List.filter_filter]
  refine List.filter_congr fun p _ => ?_
  rw [reaches_append_singleton, Bool.and_comm]

/-! ## The registration loops -/

/-- `r` is a path of `paths` satisfying `sel`, present exactly when one
exists: what a loop that keeps the last such path leaves. -/
structure Picks (sel : Path → Bool) (paths : List Path) (r : Option Path) : Prop where
  isSome_eq : r.isSome = paths.any sel
  mem : ∀ p, r = some p → p ∈ paths ∧ sel p = true

theorem Picks.none_of_all {sel : Path → Bool} {paths : List Path} (h : paths.any sel = false) :
    Picks sel paths none :=
  ⟨by simp [h], fun _ hp => by cases hp⟩

/-- The loop of `RegisterQueryAttribute` from `queryApplies` over paths longer
than the depth keeps the last path that ends at the attribute. -/
theorem attributeQueryPath_eq (depth : Nat) (name : String) :
    ∀ (paths : List Path) (queryApplies : Option Path), (∀ p ∈ paths, depth < p.length) →
      ∃ r, attributeQueryPath depth name queryApplies paths = .ok r ∧
        r.isSome = (queryApplies.isSome || paths.any (endsAtAttribute depth name)) ∧
        ∀ p, r = some p → queryApplies = some p ∨ (p ∈ paths ∧ endsAtAttribute depth name p)
  | [], queryApplies, _ => ⟨queryApplies, rfl, by simp, fun _ hp => Or.inl hp⟩
  | path :: rest, queryApplies, hlen => by
      have hrest : ∀ p ∈ rest, depth < p.length := fun p hp => hlen p (List.mem_cons_of_mem _ hp)
      have hpath : ¬path.length ≤ depth := Nat.not_le.mpr (hlen path List.mem_cons_self)
      by_cases hends : endsAtAttribute depth name path = true
      · -- the path ends at the attribute and becomes the one kept
        have hcond : path.length = depth + 1 ∧
            (path[depth]?.any fun e => !e.terminalGroup && e.name == name) = true := by
          simpa [endsAtAttribute] using hends
        obtain ⟨r, hr, hsome, hmem⟩ := attributeQueryPath_eq depth name rest (some path) hrest
        refine ⟨r, by rw [attributeQueryPath, if_neg hpath, if_pos hcond, hr], ?_, ?_⟩
        · simp [hsome, hends]
        · intro p hp
          rcases hmem p hp with h | ⟨hp', hends'⟩
          · cases h
            exact Or.inr ⟨List.mem_cons_self, hends⟩
          · exact Or.inr ⟨List.mem_cons_of_mem _ hp', hends'⟩
      · have hcond : ¬(path.length = depth + 1 ∧
            (path[depth]?.any fun e => !e.terminalGroup && e.name == name) = true) := by
          simpa [endsAtAttribute] using hends
        obtain ⟨r, hr, hsome, hmem⟩ := attributeQueryPath_eq depth name rest queryApplies hrest
        refine ⟨r, by rw [attributeQueryPath, if_neg hpath, if_neg hcond, hr], ?_, ?_⟩
        · simp [hsome, Bool.eq_false_iff.mpr hends]
        · intro p hp
          rcases hmem p hp with h | ⟨hp', hends'⟩
          · exact Or.inl h
          · exact Or.inr ⟨List.mem_cons_of_mem _ hp', hends'⟩

/-- The loop of `RegisterQueryChild` from `(queryApplies, queryAllSubfields,
queryPaths)` over paths longer than the depth: whether some path selects the
child, the last path that ends at the child, and the paths that go through
it. -/
theorem childQueryPaths_eq (depth : Nat) (key : ChildKey) :
    ∀ (paths : List Path) (queryApplies queryAllSubfields : Option Path) (queryPaths : List Path),
      (∀ p ∈ paths, depth < p.length) →
      ∃ applies all,
        childQueryPaths depth key (queryApplies, queryAllSubfields, queryPaths) paths =
          .ok (applies, all, queryPaths ++ paths.filter (goesThrough depth key)) ∧
        applies.isSome = (queryApplies.isSome ||
          paths.any fun p => goesThrough depth key p || endsAtGroup depth key p) ∧
        all.isSome = (queryAllSubfields.isSome || paths.any (endsAtGroup depth key)) ∧
        ∀ p, all = some p → queryAllSubfields = some p ∨ (p ∈ paths ∧ endsAtGroup depth key p)
  | [], queryApplies, queryAllSubfields, queryPaths, _ =>
      ⟨queryApplies, queryAllSubfields, by simp [childQueryPaths], by simp, by simp,
        fun _ hp => Or.inl hp⟩
  | path :: rest, queryApplies, queryAllSubfields, queryPaths, hlen => by
      have hrest : ∀ p ∈ rest, depth < p.length := fun p hp => hlen p (List.mem_cons_of_mem _ hp)
      have hpath : ¬path.length ≤ depth := Nat.not_le.mpr (hlen path List.mem_cons_self)
      by_cases hthrough : goesThrough depth key path = true
      · -- the path goes on below the child: it is kept for the child
        have hcond : path.length > depth + 1 ∧ (path[depth]?.any key.selectsThrough) = true := by
          simpa [goesThrough] using hthrough
        have hend : endsAtGroup depth key path = false := by
          simp [endsAtGroup]
          omega
        obtain ⟨applies, all, hr, happlies, hall, hmem⟩ :=
          childQueryPaths_eq depth key rest (some path) queryAllSubfields (queryPaths ++ [path]) hrest
        refine ⟨applies, all, ?_, ?_, ?_, ?_⟩
        · rw [childQueryPaths, if_neg hpath, if_pos hcond, hr, List.filter_cons_of_pos hthrough,
            List.append_assoc, List.singleton_append]
        · simp [happlies, hthrough]
        · simp [hall, hend]
        · intro p hp
          rcases hmem p hp with h | ⟨hp', hends'⟩
          · exact Or.inl h
          · exact Or.inr ⟨List.mem_cons_of_mem _ hp', hends'⟩
      · have hthrough' : ¬(path.length > depth + 1 ∧ (path[depth]?.any key.selectsThrough) = true) := by
          simpa [goesThrough] using hthrough
        have hfilter : (path :: rest).filter (goesThrough depth key) =
            rest.filter (goesThrough depth key) :=
          List.filter_cons_of_neg hthrough
        by_cases hend : endsAtGroup depth key path = true
        · -- the path ends at the child: the child is asked for whole
          have hcond : path.length = depth + 1 ∧ (path[depth]?.any key.selectsTerminal) = true := by
            simpa [endsAtGroup] using hend
          obtain ⟨applies, all, hr, happlies, hall, hmem⟩ :=
            childQueryPaths_eq depth key rest (some path) (some path) queryPaths hrest
          refine ⟨applies, all, ?_, ?_, ?_, ?_⟩
          · rw [childQueryPaths, if_neg hpath, if_neg hthrough', if_pos hcond, hr, hfilter]
          · simp [happlies, hend]
          · simp [hall, hend]
          · intro p hp
            rcases hmem p hp with h | ⟨hp', hends'⟩
            · cases h
              exact Or.inr ⟨List.mem_cons_self, hend⟩
            · exact Or.inr ⟨List.mem_cons_of_mem _ hp', hends'⟩
        · have hcond : ¬(path.length = depth + 1 ∧ (path[depth]?.any key.selectsTerminal) = true) := by
            simpa [endsAtGroup] using hend
          obtain ⟨applies, all, hr, happlies, hall, hmem⟩ :=
            childQueryPaths_eq depth key rest queryApplies queryAllSubfields queryPaths hrest
          refine ⟨applies, all, ?_, ?_, ?_, ?_⟩
          · rw [childQueryPaths, if_neg hpath, if_neg hthrough', if_neg hcond, hr, hfilter]
          · simp [happlies, Bool.eq_false_iff.mpr hthrough, Bool.eq_false_iff.mpr hend]
          · simp [hall, Bool.eq_false_iff.mpr hend]
          · intro p hp
            rcases hmem p hp with h | ⟨hp', hends'⟩
            · exact Or.inl h
            · exact Or.inr ⟨List.mem_cons_of_mem _ hp', hends'⟩

end Stratum.Ports.AttributeGroup
