import Stratum.Ports.BcmUdfManager
import Stratum.Verified.PairedMaps
import Stratum.Verified.StateSpec

/-!
# Chunk allocation of `BcmUdfManager`

Every set a `BcmUdfManager` holds keeps the range of IDs it was built with:
the constructor gives set `i` the IDs from `1 + (i - 1) * chunks_per_set` on,
and `AddChunks` gives each chunk it inserts the base of its set plus the
number of chunks before it, and takes back all it inserted when the set would
pass its maximum. `AllocateUdfSet` merges into one set of the map, in place,
and `SetUpStaticUdfs` changes the sets only through it. So the sets of a
manager only grow, each in its place, and keep their IDs in range
(`Grows`, `UdfSet.Valid`).

Main results:

* `addChunks_eq` — `AddChunks` either leaves the set as it was and fails, or
  keeps what its loop inserted;
* `valid_addChunks` — the IDs of a set stay its base, base + 1, ... in the
  order its chunks went in, and the set stays within its maximum;
* `keeps_setUpStaticUdfs` — every call of `SetUpStaticUdfs`, returning or
  failing, grows the sets of the manager in place;
* `chunkAllocation_final` — every manager a run of `SetUpStaticUdfs` calls
  reaches from `CreateInstance` gives set `i` the IDs
  `1 + (i - 1) * chunks_per_set`, the next one, ..., distinct across the
  chunks `InstallUdfs` passes on;
* `marksCovered` — after a call that returns OK, every field it marked is
  marked with a set that holds the chunks of the field, then and after any
  later calls;
* `udf_chunk_allocation` — the three together.
-/

namespace Stratum.Ports.BcmUdfManager

open Stratum.Verified.KeyedSet Stratum.Verified.StateSpec Stratum.Verified.Trace
open Stratum.Verified.Run Stratum.Verified.PairedMaps
open Stratum.Ports.Status Stratum.Ports.P4TableMapper

/-! ## The loop of `AddChunks` -/

/-- The IDs of `l` are `base, base + 1, ...`, in order. -/
def IdsFrom (base : Int) (l : List UdfChunk) : Prop :=
  l.map UdfChunk.id = (List.range l.length).map fun k : Nat => base + k

/-- A set whose chunks have the IDs of its range, in order, and fit in it. -/
def UdfSet.Valid (s : UdfSet) : Prop :=
  IdsFrom s.baseChunkId s.chunks.elems ∧ s.chunks.elems.length ≤ s.maxChunks

@[simp] theorem key_withId (chunk : UdfChunk) (id : Int) :
    ({ chunk with id := id } : UdfChunk).key = chunk.key := rfl

theorem idsFrom_append_singleton {base : Int} {l : List UdfChunk} (h : IdsFrom base l)
    (chunk : UdfChunk) : IdsFrom base (l ++ [{ chunk with id := l.length + base }]) := by
  unfold IdsFrom at h ⊢
  rw [List.length_append, List.length_singleton, List.range_succ, List.map_append,
    List.map_append, h]
  simp [Int.add_comm]

/-- The set after a turn of the loop is the one the insertion leaves. -/
theorem addChunksStep_fst (base : Int) (acc : KeyedSet UdfChunk.key × List UdfChunk)
    (chunk : UdfChunk) :
    (addChunksStep base acc chunk).1 =
      (acc.1.insert { chunk with id := acc.1.elems.length + base }).1 := by
  dsimp only [addChunksStep]
  split <;> rfl

/-- A turn of the loop appends the chunk, with its new ID, to the set and to
the chunks inserted, or changes nothing. -/
theorem addChunksStep_cases (base : Int) (acc : KeyedSet UdfChunk.key × List UdfChunk)
    (chunk : UdfChunk) :
    ((addChunksStep base acc chunk).1.elems =
        acc.1.elems ++ [{ chunk with id := acc.1.elems.length + base }] ∧
      (addChunksStep base acc chunk).2 =
        acc.2 ++ [{ chunk with id := acc.1.elems.length + base }]) ∨
    addChunksStep base acc chunk = acc := by
  by_cases h : chunk.key ∈ acc.1.keys
  · -- a chunk with its key is there: the insertion reports it
    right
    have hins : acc.1.insert { chunk with id := acc.1.elems.length + base } = (acc.1, false) :=
      KeyedSet.insert_of_mem h
    simp only [addChunksStep, hins]
    rfl
  · left
    have hsnd : (acc.1.insert { chunk with id := acc.1.elems.length + base }).2 = true :=
      (KeyedSet.insert_snd_eq_true_iff acc.1 _).mpr h
    refine ⟨?_, ?_⟩
    · rw [addChunksStep_fst]
      exact KeyedSet.elems_insert_of_not_mem h
    · simp only [addChunksStep, hsnd, if_true]

/-- The loop appends to the set exactly the chunks it records as inserted. -/
theorem foldl_addChunksStep_append (base : Int) :
    ∀ (chunks : List UdfChunk) (acc : KeyedSet UdfChunk.key × List UdfChunk), ∃ new,
      (chunks.foldl (addChunksStep base) acc).1.elems = acc.1.elems ++ new ∧
        (chunks.foldl (addChunksStep base) acc).2 = acc.2 ++ new
  | [], acc => ⟨[], by simp, by simp⟩
  | chunk :: rest, acc => by
      rw [List.foldl_cons]
      obtain ⟨new, hset, hinserted⟩ :=
        foldl_addChunksStep_append base rest (addChunksStep base acc chunk)
      rcases addChunksStep_cases base acc chunk with ⟨happend, hrecord⟩ | hsame
      · refine ⟨{ chunk with id := acc.1.elems.length + base } :: new, ?_, ?_⟩
        · rw [hset, happend, List.append_assoc, List.singleton_append]
        · rw [hinserted, hrecord, List.append_assoc, List.singleton_append]
      · rw [hsame] at hset hinserted ⊢
        exact ⟨new, hset, hinserted⟩

theorem idsFrom_foldl_addChunksStep (base : Int) (chunks : List UdfChunk)
    (acc : KeyedSet UdfChunk.key × List UdfChunk) (h : IdsFrom base acc.1.elems) :
    IdsFrom base (chunks.foldl (addChunksStep base) acc).1.elems := by
  refine foldl_invariant _ (fun acc => IdsFrom base acc.1.elems) (fun acc chunk hacc => ?_) chunks
    acc h
  rcases addChunksStep_cases base acc chunk with ⟨happend, -⟩ | hsame
  · rw [happend]
    exact idsFrom_append_singleton hacc chunk
  · rw [hsame]
    exact hacc

theorem mem_keys_foldl_addChunksStep (base : Int) (k : PacketLayer × Int) :
    ∀ (chunks : List UdfChunk) (acc : KeyedSet UdfChunk.key × List UdfChunk),
      k ∈ (chunks.foldl (addChunksStep base) acc).1.keys ↔
        k ∈ acc.1.keys ∨ ∃ chunk ∈ chunks, chunk.key = k
  | [], acc => by simp
  | chunk :: rest, acc => by
      rw [List.foldl_cons, mem_keys_foldl_addChunksStep base k rest, addChunksStep_fst,
        KeyedSet.mem_keys_insert, key_withId]
      simp only [List.mem_cons, or_and_right, exists_or, exists_eq_left, or_assoc, @eq_comm _ k]

/-! ## `AddChunks` -/

/-- Past the maximum, erasing what the loop inserted gives back the set:
`AddChunks` fails and leaves it as it was. -/
theorem addChunks_eq (s : UdfSet) (chunks : List UdfChunk) :
    s.addChunks chunks =
      if (s.addChunksLoop chunks).1.elems.length > s.maxChunks then (s, false)
      else ({ s with chunks := (s.addChunksLoop chunks).1 }, true) := by
  obtain ⟨new, hgrown, hinserted⟩ := foldl_addChunksStep_append s.baseChunkId chunks (s.chunks, [])
  unfold UdfSet.addChunks
  dsimp only
  split
  · have hback : (s.addChunksLoop chunks).2.foldl KeyedSet.erase (s.addChunksLoop chunks).1 =
        s.chunks := by
      apply KeyedSet.ext
      rw [show (s.addChunksLoop chunks).2 = new by simpa [UdfSet.addChunksLoop] using hinserted]
      exact KeyedSet.eraseAll_elems_append new _ hgrown
    rw [hback]
  · rfl

theorem addChunks_fields (s : UdfSet) (chunks : List UdfChunk) :
    (s.addChunks chunks).1.usage = s.usage ∧ (s.addChunks chunks).1.baseChunkId = s.baseChunkId ∧
      (s.addChunks chunks).1.maxChunks = s.maxChunks := by
  rw [addChunks_eq]
  split <;> exact ⟨rfl, rfl, rfl⟩

theorem chunks_prefix_addChunks (s : UdfSet) (chunks : List UdfChunk) :
    s.chunks.elems <+: (s.addChunks chunks).1.chunks.elems := by
  rw [addChunks_eq]
  split
  · exact List.prefix_refl _
  · obtain ⟨new, hgrown, -⟩ := foldl_addChunksStep_append s.baseChunkId chunks (s.chunks, [])
    exact ⟨new, hgrown.symm⟩

theorem valid_addChunks {s : UdfSet} (h : s.Valid) (chunks : List UdfChunk) :
    (s.addChunks chunks).1.Valid := by
  rw [addChunks_eq]
  split
  · exact h
  · rename_i hfit
    exact ⟨idsFrom_foldl_addChunksStep _ chunks _ h.1, Nat.le_of_not_lt hfit⟩

/-- A failed `AddChunks` leaves the set as it was. -/
theorem addChunks_fst_of_snd_eq_false {s : UdfSet} {chunks : List UdfChunk}
    (h : (s.addChunks chunks).2 = false) : (s.addChunks chunks).1 = s := by
  rw [addChunks_eq] at h ⊢
  split
  · rfl
  · rename_i hfit
    rw [if_neg hfit] at h
    cases h

/-- After an `AddChunks` that returned true, the set has the key of every
chunk it was given. -/
theorem mem_keys_addChunks {s : UdfSet} {chunks : List UdfChunk}
    (h : (s.addChunks chunks).2 = true) {chunk : UdfChunk} (hchunk : chunk ∈ chunks) :
    chunk.key ∈ (s.addChunks chunks).1.chunks.keys := by
  rw [addChunks_eq] at h ⊢
  split
  · rename_i hover
    rw [if_pos hover] at h
    cases h
  · exact (mem_keys_foldl_addChunksStep _ _ chunks _).mpr (Or.inr ⟨chunk, hchunk, rfl⟩)

/-! ## Sets that grow in place -/

/-- `s'` is `s` with chunks appended: same usage, base and maximum, and
valid when `s` is. -/
structure SetGrows (s s' : UdfSet) : Prop where
  usage : s'.usage = s.usage
  baseChunkId : s'.baseChunkId = s.baseChunkId
  maxChunks : s'.maxChunks = s.maxChunks
  chunks_prefix : s.chunks.elems <+: s'.chunks.elems
  valid : s.Valid → s'.Valid

theorem SetGrows.refl (s : UdfSet) : SetGrows s s :=
  ⟨rfl, rfl, rfl, List.prefix_refl _, id⟩

theorem SetGrows.trans {s₁ s₂ s₃ : UdfSet} (h₁ : SetGrows s₁ s₂) (h₂ : SetGrows s₂ s₃) :
    SetGrows s₁ s₃ :=
  ⟨h₂.usage.trans h₁.usage, h₂.baseChunkId.trans h₁.baseChunkId,
    h₂.maxChunks.trans h₁.maxChunks, h₁.chunks_prefix.trans h₂.chunks_prefix, h₂.valid ∘ h₁.valid⟩

theorem SetGrows.mem_keys {s s' : UdfSet} (h : SetGrows s s') {k : PacketLayer × Int}
    (hk : k ∈ s.chunks.keys) : k ∈ s'.chunks.keys := by
  rw [KeyedSet.keys_eq] at hk ⊢
  exact List.map_subset _ h.chunks_prefix.subset hk

theorem setGrows_addChunks (s : UdfSet) (chunks : List UdfChunk) :
    SetGrows s (s.addChunks chunks).1 :=
  ⟨(addChunks_fields s chunks).1, (addChunks_fields s chunks).2.1, (addChunks_fields s chunks).2.2,
    chunks_prefix_addChunks s chunks, fun h => valid_addChunks h chunks⟩

/-- The sets of `m'` are those of `m`, each grown in its place. -/
structure Grows (m m' : BcmUdfManager) : Prop where
  chunkSize : m'.chunkSize = m.chunkSize
  chunksPerSet : m'.chunksPerSet = m.chunksPerSet
  udfSets : ∃ g : Int × UdfSet → Int × UdfSet, (∀ p, (g p).1 = p.1 ∧ SetGrows p.2 (g p).2) ∧
    m'.udfSets = m.udfSets.map g

theorem Grows.refl (m : BcmUdfManager) : Grows m m :=
  ⟨rfl, rfl, ⟨id, fun p => ⟨rfl, SetGrows.refl p.2⟩, (List.map_id _).symm⟩⟩

theorem Grows.trans {m₁ m₂ m₃ : BcmUdfManager} (h₁ : Grows m₁ m₂) (h₂ : Grows m₂ m₃) :
    Grows m₁ m₃ := by
  obtain ⟨g₁, hg₁, hsets₁⟩ := h₁.udfSets
  obtain ⟨g₂, hg₂, hsets₂⟩ := h₂.udfSets
  refine ⟨h₂.chunkSize.trans h₁.chunkSize, h₂.chunksPerSet.trans h₁.chunksPerSet,
    ⟨g₂ ∘ g₁, fun p => ⟨(hg₂ (g₁ p)).1.trans (hg₁ p).1, (hg₁ p).2.trans (hg₂ (g₁ p)).2⟩, ?_⟩⟩
  rw [hsets₂, hsets₁, List.map_map]

instance : IsPreorder BcmUdfManager Grows where
  refl := Grows.refl
  trans _ _ _ := Grows.trans

/-- A set the manager looks up is looked up, grown, after it grows. -/
theorem Grows.lookup {m m' : BcmUdfManager} (h : Grows m m') {i : Int} {s : UdfSet}
    (hs : m.udfSets.lookup i = some s) : ∃ s', m'.udfSets.lookup i = some s' ∧ SetGrows s s' := by
  obtain ⟨g, hg, hsets⟩ := h.udfSets
  refine ⟨(g (i, s)).2, ?_, (hg (i, s)).2⟩
  rw [hsets, lookup_map_of_fst_eq (fun p => (hg p).1), hs]
  rfl

/-! ## `AllocateUdfSet` -/

/-- Merging into the set under one ID, in place, grows the sets. -/
theorem grows_mergeInto (m : BcmUdfManager) (udfSetId : Int) (inputSet : UdfSet) :
    Grows m { m with udfSets := m.udfSets.map fun (p : Int × UdfSet) =>
      if p.1 = udfSetId then (p.1, (p.2.mergeFrom inputSet).1) else p } := by
  refine ⟨rfl, rfl, ⟨_, fun p => ?_, rfl⟩⟩
  by_cases hp : p.1 = udfSetId
  · rw [if_pos hp]
    exact ⟨rfl, setGrows_addChunks p.2 inputSet.chunks.elems⟩
  · rw [if_neg hp]
    exact ⟨rfl, SetGrows.refl p.2⟩

/-- `AllocateUdfSet` grows the sets, also when it fails, and on success the
set under the ID it returns holds every chunk of the input set. -/
theorem wp_allocateUdfSet (inputSet : UdfSet) (destinationSets : List Int) (m : BcmUdfManager) :
    wp (allocateUdfSet inputSet destinationSets)
      (fun udfSetId m' => Grows m m' ∧ ∃ s, m'.udfSets.lookup udfSetId = some s ∧
        ∀ k ∈ inputSet.chunks.keys, k ∈ s.chunks.keys)
      (Grows m) m := by
  simp only [allocateUdfSet, wp_bind, wp_get, wp_liftExcept]
  split
  · rename_i best _
    split
    · exact Grows.refl m
    · rename_i bestCandidate hbest
      simp only [wp_set, wp_bind, wp_ite, wp_throw, wp_pure]
      split
      · exact grows_mergeInto m best.1 inputSet
      · -- the real merge succeeded: the set under the ID now holds the input set
        rename_i hmerged
        refine ⟨grows_mergeInto m best.1 inputSet, (bestCandidate.mergeFrom inputSet).1, ?_, ?_⟩
        · rw [lookup_map_of_fst_eq (fun p => by split <;> rfl), hbest]
          simp
        · intro k hk
          rw [KeyedSet.keys_eq, List.mem_map] at hk
          obtain ⟨chunk, hchunk, rfl⟩ := hk
          exact mem_keys_addChunks (by simpa [UdfSet.mergeFrom] using hmerged) hchunk
  · exact Grows.refl m

/-! ## Calls of `SetUpStaticUdfs` -/

/-- What a step of `SetUpStaticUdfs` keeps: the sets grow, the tables keep
their number, and the tables at the places `keep` names are left alone. -/
structure Frame (keep : Nat → Prop) (st st' : SetUpState) : Prop where
  manager : Grows st.manager st'.manager
  length : st'.aclTables.length = st.aclTables.length
  kept : ∀ t, keep t → st'.aclTables[t]? = st.aclTables[t]?

theorem Frame.refl (keep : Nat → Prop) (st : SetUpState) : Frame keep st st :=
  ⟨Grows.refl _, rfl, fun _ _ => rfl⟩

theorem Frame.trans {keep : Nat → Prop} {st₁ st₂ st₃ : SetUpState} (h₁ : Frame keep st₁ st₂)
    (h₂ : Frame keep st₂ st₃) : Frame keep st₁ st₃ :=
  ⟨h₁.manager.trans h₂.manager, h₂.length.trans h₁.length,
    fun t ht => (h₂.kept t ht).trans (h₁.kept t ht)⟩

instance (keep : Nat → Prop) : IsPreorder SetUpState (Frame keep) where
  refl := Frame.refl keep
  trans _ _ _ := Frame.trans

theorem wp_liftUdfOp {α : Type} (op : UdfOp α) {post : α → SetUpState → Prop}
    {fail : SetUpState → Prop} {st : SetUpState}
    (h : wp op (fun a m => post a { st with manager := m }) (fun m => fail { st with manager := m })
      st.manager) : wp (liftUdfOp op) post fail st := by
  unfold wp at h ⊢
  simp only [EStateM.run, liftUdfOp] at h ⊢
  split at h <;> rename_i hrun <;> simp only [hrun] <;> exact h

theorem keeps_allocateUdfSet (keep : Nat → Prop) (inputSet : UdfSet) (destinationSets : List Int) :
    Keeps (Frame keep) (liftUdfOp (allocateUdfSet inputSet destinationSets)) := fun st =>
  wp_liftUdfOp _ (wp_mono (wp_allocateUdfSet inputSet destinationSets st.manager)
    (fun _ _ h => ⟨h.1, rfl, fun _ _ => rfl⟩) (fun _ h => ⟨h, rfl, fun _ _ => rfl⟩))

theorem markUdfMatchField_ok {table : AclTable} {field : Nat} {udfSetId : Int} {marked : AclTable}
    (h : table.markUdfMatchField field udfSetId = .ok marked) :
    marked.udfSetId = udfSetId ∧ marked.udfMatchFields = table.udfMatchFields.insert field := by
  unfold AclTable.markUdfMatchField at h
  dsimp only at h
  split at h
  · cases h
  split at h
  · cases h
  split at h
  · cases h
    exact ⟨rfl, rfl⟩
  split at h
  · cases h
  · -- the table already uses this set
    rename_i hsame
    cases h
    exact ⟨not_not.mp hsame, rfl⟩

/-- Marking the table at `index` leaves the others and the manager alone. -/
theorem keeps_markUdfMatchFields (keep : Nat → Prop) {index : Nat} (hindex : ¬keep index)
    (udfSetId : Int) : ∀ fields, Keeps (Frame keep) (markUdfMatchFields index udfSetId fields)
  | [] => keeps_pure ()
  | field :: rest => by
      intro st
      simp only [markUdfMatchFields, wp_bind, wp_get]
      split
      · exact Frame.refl keep st
      · rename_i table _
        rw [wp_bind, wp_liftExcept]
        split
        · rename_i marked _
          rw [wp_bind, wp_set]
          have hframe : Frame keep st { st with aclTables := st.aclTables.set index marked } :=
            ⟨Grows.refl _, List.length_set, fun t ht =>
              List.getElem?_set_ne (fun h => hindex (by rw [h]; exact ht))⟩
          exact (keeps_markUdfMatchFields keep hindex udfSetId rest).wp_of_rel hframe
        · exact Frame.refl keep st

/-- Marking the fields of the table at `index` with a set: the table keeps
its old marks and gets the new ones, and its set is the new one once a field
was marked. -/
theorem wp_markUdfMatchFields (index : Nat) (udfSetId : Int) :
    ∀ (fields : List Nat) (st : SetUpState) (table : AclTable), st.aclTables[index]? = some table →
      wp (markUdfMatchFields index udfSetId fields)
        (fun _ st' => ∃ table', st'.aclTables[index]? = some table' ∧
          (table'.udfSetId = table.udfSetId ∨ table'.udfSetId = udfSetId) ∧
          (fields ≠ [] → table'.udfSetId = udfSetId) ∧
          ∀ f ∈ table.udfMatchFields ++ fields, f ∈ table'.udfMatchFields)
        (fun _ => True) st
  | [], st, table, h =>
      ⟨table, h, Or.inl rfl, fun hne => absurd rfl hne, fun f hf => by simpa using hf⟩
  | field :: rest, st, table, h => by
      simp only [markUdfMatchFields, wp_bind, wp_get, h, wp_liftExcept]
      split
      · rename_i marked hmark
        obtain ⟨hset, hfields⟩ := markUdfMatchField_ok hmark
        rw [wp_set]
        have hindex : index < st.aclTables.length := (List.getElem?_eq_some_iff.mp h).1
        refine wp_mono (wp_markUdfMatchFields index udfSetId rest _ marked
          (List.getElem?_set_self hindex)) (fun _ st' hmarked => ?_) (fun _ _ => trivial)
        obtain ⟨table', h', hid, -, hsub⟩ := hmarked
        have hid' : table'.udfSetId = udfSetId := by
          rcases hid with hid | hid
          · exact hid.trans hset
          · exact hid
        refine ⟨table', h', Or.inr hid', fun _ => hid', fun f hf => hsub f ?_⟩
        rw [hfields, List.mem_append, List.mem_insert_iff]
        rw [List.mem_append, List.mem_cons] at hf
        tauto
      · trivial

theorem keeps_allocateStaticUdfSets (keep : Nat → Prop) (staticSets : List Int) :
    ∀ records : List (Nat × UdfSet × List Nat), (∀ r ∈ records, ¬keep r.1) →
      Keeps (Frame keep) (allocateStaticUdfSets staticSets records)
  | [], _ => keeps_pure ()
  | (_, udfSet, fields) :: rest, h =>
      (keeps_allocateUdfSet keep udfSet staticSets).bind fun udfSetId =>
        (keeps_markUdfMatchFields keep (h _ List.mem_cons_self) udfSetId fields).bind fun _ =>
          keeps_allocateStaticUdfSets keep staticSets rest fun r hr =>
            h r (List.mem_cons_of_mem _ hr)

/-- The table at `index` of `st` has `fields` marked with a set of the
manager that holds every chunk of `udfSet`. -/
def MarkedWith (st : SetUpState) (index : Nat) (udfSet : UdfSet) (fields : List Nat) : Prop :=
  ∃ table, st.aclTables[index]? = some table ∧ ∀ f ∈ fields, f ∈ table.udfMatchFields ∧
    ∃ s, st.manager.udfSets.lookup table.udfSetId = some s ∧
      ∀ k ∈ udfSet.chunks.keys, k ∈ s.chunks.keys

theorem MarkedWith.of_frame {st st' : SetUpState} {index : Nat} {udfSet : UdfSet}
    {fields : List Nat} (h : MarkedWith st index udfSet fields)
    (hframe : Frame (· = index) st st') : MarkedWith st' index udfSet fields := by
  obtain ⟨table, htable, hfields⟩ := h
  refine ⟨table, (hframe.kept index rfl).trans htable, fun f hf => ?_⟩
  obtain ⟨hmarked, s, hs, hkeys⟩ := hfields f hf
  obtain ⟨s', hs', hgrow⟩ := hframe.manager.lookup hs
  exact ⟨hmarked, s', hs', fun k hk => hgrow.mem_keys (hkeys k hk)⟩

/-- Every table the second loop of `SetUpStaticUdfs` visits gets its fields
marked with a set that holds its chunks, and keeps them to the end of the
loop: the later turns are for other tables, and only grow the sets. -/
theorem wp_allocateStaticUdfSets (staticSets : List Int) :
    ∀ (records : List (Nat × UdfSet × List Nat)) (st : SetUpState), (records.map Prod.fst).Nodup →
      (∀ r ∈ records, ∃ table, st.aclTables[r.1]? = some table) →
      wp (allocateStaticUdfSets staticSets records)
        (fun _ st' => ∀ r ∈ records, MarkedWith st' r.1 r.2.1 r.2.2) (fun _ => True) st
  | [], _, _, _ => fun _ h => absurd h List.not_mem_nil
  | (index, udfSet, fields) :: rest, st, hnodup, htables => by
      rw [List.map_cons, List.nodup_cons] at hnodup
      obtain ⟨hfresh, hnodup⟩ := hnodup
      obtain ⟨table, htable⟩ := htables _ List.mem_cons_self
      show wp (liftUdfOp (allocateUdfSet udfSet staticSets) >>= fun udfSetId =>
        markUdfMatchFields index udfSetId fields >>= fun _ => allocateStaticUdfSets staticSets rest)
        _ _ st
      rw [wp_bind]
      refine wp_liftUdfOp _ (wp_mono (wp_allocateUdfSet udfSet staticSets st.manager)
        (fun udfSetId m₁ hm₁ => ?_) (fun _ _ => trivial))
      obtain ⟨hgrow₁, s₁, hs₁, hkeys₁⟩ := hm₁
      rw [wp_bind]
      -- the marks, with the frame of the other tables
      refine wp_mono (wp_and
        (keeps_markUdfMatchFields (· ≠ index) (fun h => h rfl) udfSetId fields _)
        (wp_markUdfMatchFields index udfSetId fields _ table htable))
        (fun _ st₂ h₂ => ?_) (fun _ _ => trivial)
      obtain ⟨hframe₂, table₂, htable₂, -, hid₂, hsub₂⟩ := h₂
      have hmarked₂ : MarkedWith st₂ index udfSet fields := by
        refine ⟨table₂, htable₂, fun f hf => ⟨hsub₂ f (List.mem_append_right _ hf), ?_⟩⟩
        obtain ⟨s₂, hs₂, hgrow₂⟩ := hframe₂.manager.lookup hs₁
        exact ⟨s₂, by rw [hid₂ (List.ne_nil_of_mem hf)]; exact hs₂,
          fun k hk => hgrow₂.mem_keys (hkeys₁ k hk)⟩
      have hfresh' : ∀ r ∈ rest, r.1 ≠ index := fun r hr heq =>
        hfresh (List.mem_map.mpr ⟨r, hr, heq⟩)
      -- the later turns: their own marks, and the frame of this table
      refine wp_mono (wp_and
        (wp_allocateStaticUdfSets staticSets rest st₂ hnodup fun r hr => ?_)
        (keeps_allocateStaticUdfSets (· = index) staticSets rest
          (fun r hr => hfresh' r hr) st₂))
        (fun _ st' h' => ?_) (fun _ _ => trivial)
      · rw [hframe₂.kept r.1 (hfresh' r hr)]
        exact htables r (List.mem_cons_of_mem _ hr)
      · obtain ⟨hrest, hframe'⟩ := h'
        intro r hr
        rcases List.mem_cons.mp hr with rfl | hr
        · exact hmarked₂.of_frame hframe'
        · exact hrest r hr

section SetUp

variable (mapMatchField : Nat → Nat → StatusOr MappedField)
  (isUdfEligible : MappedField → BcmAclStage → Bool) (p4FieldTypeName : P4FieldType → String)
  (hashOrder : List (Nat × UdfSet × List Nat) → List (Nat × UdfSet × List Nat))

theorem keeps_setUpStaticUdfs :
    Keeps (Frame fun _ => False)
      (setUpStaticUdfs mapMatchField isUdfEligible p4FieldTypeName hashOrder) := by
  unfold setUpStaticUdfs
  exact keeps_get.bind fun st => (keeps_liftExcept _).bind fun udfSets =>
    Keeps.ite (keeps_pure ()) (keeps_allocateStaticUdfSets _ _ _ fun _ _ h => h)

/-- Every call grows the sets of the manager, whether it returns or fails. -/
theorem grows_step (m : BcmUdfManager) (aclTables : List AclTable) :
    Grows m (step mapMatchField isUdfEligible p4FieldTypeName hashOrder m aclTables).2 := by
  have h :=
    keeps_setUpStaticUdfs mapMatchField isUdfEligible p4FieldTypeName hashOrder ⟨m, aclTables⟩
  unfold wp at h
  unfold step
  split <;> rename_i hrun <;> rw [hrun] at h <;> exact h.manager

theorem grows_final (m : BcmUdfManager) (calls : List (List AclTable)) :
    Grows m (final (step mapMatchField isUdfEligible p4FieldTypeName hashOrder) m calls) :=
  final_invariant (Grows m) (fun m' aclTables h => h.trans (grows_step _ _ _ _ m' aclTables))
    calls m (Grows.refl m)

end SetUp

/-! ## The tables that need UDFs -/

section Tables

variable (mapMatchField : Nat → Nat → StatusOr MappedField)
  (isUdfEligible : MappedField → BcmAclStage → Bool) (p4FieldTypeName : P4FieldType → String)

/-- The loop of `StaticUdfSetFromAclTable` only adds to its set and its list,
and a loop that returns lists every UDF field it visits, with a set that holds
the chunks of the field. -/
theorem staticUdfSetLoop_ok {m : BcmUdfManager} {table : AclTable} :
    ∀ (matchFields : List Nat) (acc : UdfSet × List Nat) {found : UdfSet × List Nat},
      staticUdfSetLoop mapMatchField isUdfEligible p4FieldTypeName m table matchFields acc =
        .ok found →
      SetGrows acc.1 found.1 ∧ acc.2 <+: found.2 ∧
        ∀ f ∈ matchFields, ∀ mapped, mapMatchField table.id f = .ok mapped →
          isUdfEligible mapped table.stage = true →
          f ∈ found.2 ∧ UdfChunk.mappedFieldToUdfs mapped m.chunkSize ≠ [] ∧
            ∀ chunk ∈ UdfChunk.mappedFieldToUdfs mapped m.chunkSize,
              chunk.key ∈ found.1.chunks.keys
  | [], acc, found, h => by
      cases h
      exact ⟨SetGrows.refl _, List.prefix_refl _, fun _ hf => absurd hf List.not_mem_nil⟩
  | field :: rest, acc, found, h => by
      rw [staticUdfSetLoop] at h
      cases hmap : mapMatchField table.id field with
      | error e =>
          rw [hmap] at h
          cases h
      | ok mapped₀ =>
          rw [hmap] at h
          simp only [bind, Except.bind] at h
          by_cases heligible : isUdfEligible mapped₀ table.stage = true
          · -- a UDF field: its chunks go into the set before the loop goes on
            simp only [heligible, Bool.not_true, Bool.false_eq_true, if_false] at h
            split at h
            · cases h
            split at h
            · cases h
            rename_i hchunks hadded
            obtain ⟨hgrow, hpre, hcover⟩ := staticUdfSetLoop_ok rest _ h
            refine ⟨(setGrows_addChunks acc.1 _).trans hgrow,
              (List.prefix_append acc.2 [field]).trans hpre, ?_⟩
            intro f hf mapped hmapped heligible'
            rcases List.mem_cons.mp hf with rfl | hf
            · rw [hmap] at hmapped
              cases hmapped
              refine ⟨hpre.subset (List.mem_append_right _ List.mem_cons_self), ?_, ?_⟩
              · simpa using hchunks
              · intro chunk hchunk
                exact hgrow.mem_keys (mem_keys_addChunks (by simpa using hadded) hchunk)
            · exact hcover f hf mapped hmapped heligible'
          · simp only [heligible, Bool.not_false, if_true] at h
            obtain ⟨hgrow, hpre, hcover⟩ := staticUdfSetLoop_ok rest acc h
            refine ⟨hgrow, hpre, fun f hf mapped hmapped heligible' => ?_⟩
            rcases List.mem_cons.mp hf with rfl | hf
            · rw [hmap] at hmapped
              cases hmapped
              exact absurd heligible' heligible
            · exact hcover f hf mapped hmapped heligible'

/-- The first loop of `SetUpStaticUdfs` returns, for every table whose set is
not empty, a record at its place; its records are at places of the vector,
in increasing order. -/
theorem udfSetsPerTable_ok {m : BcmUdfManager} :
    ∀ (aclTables : List AclTable) (index : Nat) {records : List (Nat × UdfSet × List Nat)},
      udfSetsPerTable mapMatchField isUdfEligible p4FieldTypeName m index aclTables = .ok records →
      (∀ t table, aclTables[t]? = some table → ∃ found,
        staticUdfSetFromAclTable mapMatchField isUdfEligible p4FieldTypeName m table = .ok found ∧
          (found.1.chunks.elems ≠ [] → (index + t, found.1, found.2) ∈ records)) ∧
      (∀ r ∈ records, ∃ t < aclTables.length, r.1 = index + t) ∧
      (records.map Prod.fst).Pairwise (· < ·)
  | [], index, records, h => by
      cases h
      exact ⟨fun _ _ ht => by simp at ht, fun _ hr => absurd hr List.not_mem_nil, List.Pairwise.nil⟩
  | table :: rest, index, records, h => by
      rw [udfSetsPerTable] at h
      cases hfound :
          staticUdfSetFromAclTable mapMatchField isUdfEligible p4FieldTypeName m table with
      | error e =>
          rw [hfound] at h
          cases h
      | ok found =>
          rw [hfound] at h
          simp only [bind, Except.bind] at h
          cases hothers : udfSetsPerTable mapMatchField isUdfEligible p4FieldTypeName m (index + 1)
              rest with
          | error e =>
              rw [hothers] at h
              cases h
          | ok others =>
              rw [hothers] at h
              obtain ⟨hcover, hplaces, hsorted⟩ := udfSetsPerTable_ok rest (index + 1) hothers
              -- the tables after the first, one place further on
              have hcover' : ∀ t table', rest[t]? = some table' → ∃ found',
                  staticUdfSetFromAclTable mapMatchField isUdfEligible p4FieldTypeName m table' =
                    .ok found' ∧ (found'.1.chunks.elems ≠ [] →
                      (index + (t + 1), found'.1, found'.2) ∈ others) := by
                intro t table' ht
                obtain ⟨found', hfound', hmem⟩ := hcover t table' ht
                exact ⟨found', hfound', fun hne => by
                  rw [← Nat.add_assoc, Nat.add_right_comm]
                  exact hmem hne⟩
              have hplaces' : ∀ r ∈ others, ∃ t < (table :: rest).length, r.1 = index + t :=
                fun r hr => by
                  obtain ⟨t, ht, heq⟩ := hplaces r hr
                  exact ⟨t + 1, by simp [ht], by omega⟩
              simp only [pure, Except.pure] at h
              split at h
              · -- the first table needs no UDF
                rename_i hempty
                cases h
                refine ⟨fun t table' ht => ?_, hplaces', hsorted⟩
                cases t with
                | zero =>
                    cases ht
                    exact ⟨found, hfound, fun hne => absurd (List.isEmpty_iff.mp hempty) hne⟩
                | succ t => exact hcover' t table' ht
              · cases h
                refine ⟨fun t table' ht => ?_, fun r hr => ?_, ?_⟩
                · cases t with
                  | zero =>
                      cases ht
                      exact ⟨found, hfound, fun _ => List.mem_cons_self⟩
                  | succ t =>
                      obtain ⟨found', hfound', hmem⟩ := hcover' t table' ht
                      exact ⟨found', hfound', fun hne => List.mem_cons_of_mem _ (hmem hne)⟩
                · rcases List.mem_cons.mp hr with rfl | hr
                  · exact ⟨0, by simp, rfl⟩
                  · exact hplaces' r hr
                · rw [List.map_cons, List.pairwise_cons]
                  refine ⟨fun i hi => ?_, hsorted⟩
                  obtain ⟨r, hr, rfl⟩ := List.mem_map.mp hi
                  obtain ⟨t, -, heq⟩ := hplaces r hr
                  omega

end Tables

/-! ## What a call that returns leaves marked -/

section Marks

variable (mapMatchField : Nat → Nat → StatusOr MappedField)
  (isUdfEligible : MappedField → BcmAclStage → Bool) (p4FieldTypeName : P4FieldType → String)
  (hashOrder : List (Nat × UdfSet × List Nat) → List (Nat × UdfSet × List Nat))

/-- After a call that returns, every UDF match field of every table it was
given is marked, in the tables it leaves, with a set of the manager that
holds the chunks of its mapped field. -/
theorem wp_setUpStaticUdfs (horder : ∀ records, (hashOrder records).Perm records)
    (st : SetUpState) :
    wp (setUpStaticUdfs mapMatchField isUdfEligible p4FieldTypeName hashOrder)
      (fun _ st' => ∀ (t : Nat) (table : AclTable) (f : Nat) (mapped : MappedField),
        st.aclTables[t]? = some table → f ∈ table.matchFields →
        mapMatchField table.id f = .ok mapped → isUdfEligible mapped table.stage = true →
        ∃ table' : AclTable, st'.aclTables[t]? = some table' ∧ f ∈ table'.udfMatchFields ∧
          ∃ s, st'.manager.udfSets.lookup table'.udfSetId = some s ∧
            ∀ chunk ∈ UdfChunk.mappedFieldToUdfs mapped st.manager.chunkSize,
              chunk.key ∈ s.chunks.keys)
      (fun _ => True) st := by
  unfold setUpStaticUdfs
  rw [wp_bind, wp_get, wp_bind, wp_liftExcept]
  split
  · rename_i records hrecords
    obtain ⟨hcover, hplaces, hsorted⟩ :=
      udfSetsPerTable_ok mapMatchField isUdfEligible p4FieldTypeName st.aclTables 0 hrecords
    -- the table of a UDF field has a record, whose set holds the chunks of the field
    have hrecord : ∀ (t : Nat) (table : AclTable) (f : Nat) (mapped : MappedField),
        st.aclTables[t]? = some table → f ∈ table.matchFields →
        mapMatchField table.id f = .ok mapped → isUdfEligible mapped table.stage = true →
        ∃ found : UdfSet × List Nat, (t, found.1, found.2) ∈ records ∧ f ∈ found.2 ∧
          ∀ chunk ∈ UdfChunk.mappedFieldToUdfs mapped st.manager.chunkSize,
            chunk.key ∈ found.1.chunks.keys := by
      intro t table f mapped ht hf hmapped heligible
      obtain ⟨found, hfound, hmem⟩ := hcover t table ht
      obtain ⟨-, -, hfields⟩ := staticUdfSetLoop_ok mapMatchField isUdfEligible p4FieldTypeName
        table.matchFields _ hfound
      obtain ⟨hlisted, hne, hkeys⟩ := hfields f hf mapped hmapped heligible
      have hnonempty : found.1.chunks.elems ≠ [] := by
        obtain ⟨chunk, hchunk⟩ := List.exists_mem_of_ne_nil _ hne
        intro hnil
        have hkey := hkeys chunk hchunk
        rw [KeyedSet.keys_eq, hnil] at hkey
        exact List.not_mem_nil hkey
      exact ⟨found, by simpa using hmem hnonempty, hlisted, hkeys⟩
    rw [wp_ite]
    split
    · -- no record: then no table has a UDF field
      rename_i hempty
      intro t table f mapped ht hf hmapped heligible
      obtain ⟨found, hmem, -⟩ := hrecord t table f mapped ht hf hmapped heligible
      rw [List.isEmpty_iff.mp hempty] at hmem
      exact absurd hmem List.not_mem_nil
    · have hnodup : ((hashOrder records).map Prod.fst).Nodup :=
        ((horder records).map Prod.fst).nodup_iff.mpr (hsorted.imp Nat.ne_of_lt)
      have htables : ∀ r ∈ hashOrder records, ∃ table, st.aclTables[r.1]? = some table := by
        intro r hr
        obtain ⟨t, ht, heq⟩ := hplaces r ((horder records).subset hr)
        exact ⟨st.aclTables[t], by rw [heq, Nat.zero_add]; exact List.getElem?_eq_getElem ht⟩
      refine wp_mono (wp_allocateStaticUdfSets _ (hashOrder records) st hnodup htables)
        (fun _ st' hmarked => ?_) (fun _ _ => trivial)
      intro t table f mapped ht hf hmapped heligible
      obtain ⟨found, hmem, hlisted, hkeys⟩ := hrecord t table f mapped ht hf hmapped heligible
      obtain ⟨table', htable', hfields⟩ := hmarked _ ((horder records).symm.subset hmem)
      obtain ⟨hin, s, hs, hsub⟩ := hfields f hlisted
      exact ⟨table', htable', hin, s, hs, fun chunk hchunk => hsub _ (hkeys chunk hchunk)⟩
  · trivial

/-- After a call of `SetUpStaticUdfs` on `m` that returns OK, every UDF match
field of every table it was given is marked, in the table it leaves, with a
set that holds every chunk of `MappedFieldToUdfs` of the field at
`chunkSize`: in the state the call leaves and after any later calls. -/
def MarksCovered (chunkSize : Int) (m : BcmUdfManager) : Prop :=
  ∀ aclTables st', (setUpStaticUdfs mapMatchField isUdfEligible p4FieldTypeName hashOrder).run
      ⟨m, aclTables⟩ = .ok () st' →
    ∀ (t : Nat) (table : AclTable) (f : Nat) (mapped : MappedField),
      aclTables[t]? = some table → f ∈ table.matchFields →
      mapMatchField table.id f = .ok mapped → isUdfEligible mapped table.stage = true →
      ∃ table' : AclTable, st'.aclTables[t]? = some table' ∧ f ∈ table'.udfMatchFields ∧
        ∀ later : List (List AclTable), ∃ s,
          (final (step mapMatchField isUdfEligible p4FieldTypeName hashOrder) st'.manager
            later).udfSets.lookup table'.udfSetId = some s ∧
          ∀ chunk ∈ UdfChunk.mappedFieldToUdfs mapped chunkSize, chunk.key ∈ s.chunks.keys

theorem marksCovered (horder : ∀ records, (hashOrder records).Perm records) (m : BcmUdfManager) :
    MarksCovered mapMatchField isUdfEligible p4FieldTypeName hashOrder m.chunkSize m := by
  intro aclTables st' hrun t table f mapped ht hf hmapped heligible
  obtain ⟨table', htable', hin, s, hs, hkeys⟩ :=
    (wp_setUpStaticUdfs mapMatchField isUdfEligible p4FieldTypeName hashOrder horder
      ⟨m, aclTables⟩).of_run_ok hrun t table f mapped ht hf hmapped heligible
  refine ⟨table', htable', hin, fun later => ?_⟩
  -- the later calls only grow the set
  obtain ⟨s', hs', hgrow⟩ :=
    (grows_final mapMatchField isUdfEligible p4FieldTypeName hashOrder st'.manager later).lookup hs
  exact ⟨s', hs', fun chunk hchunk => hgrow.mem_keys (hkeys chunk hchunk)⟩

end Marks

/-! ## The sets `CreateInstance` builds -/

/-- Set `j + 1` of the constructor, with its usage, base and maximum. -/
def initialUdfSet (udfSpec : UdfSpec) (numControllerSets : Int) (j : Nat) : Int × UdfSet :=
  ((j : Int) + 1,
    ⟨.empty, if (j : Int) + 1 ≤ numControllerSets then .kController else .kStatic,
      1 + (j : Int) * udfSpec.chunksPerSet, udfSpec.chunksPerSet⟩)

/-- The loop of the constructor, after `k` turns: the first `k` sets, and the
base of the next one. -/
theorem foldl_newUdfSetsStep (udfSpec : UdfSpec) (numControllerSets : Int) :
    ∀ k : Nat, (List.range k).foldl (newUdfSetsStep udfSpec numControllerSets) ([], 1) =
      ((List.range k).map (initialUdfSet udfSpec numControllerSets),
        1 + (k : Int) * udfSpec.chunksPerSet)
  | 0 => by simp
  | k + 1 => by
      rw [List.range_succ, List.foldl_append, foldl_newUdfSetsStep udfSpec numControllerSets k,
        List.foldl_cons, List.foldl_nil, List.map_append, List.map_singleton]
      simp only [newUdfSetsStep, initialUdfSet, Prod.mk.injEq, true_and]
      push_cast
      ring

theorem new_udfSets (udfSpec : UdfSpec) (numControllerSets : Int) :
    (BcmUdfManager.new udfSpec numControllerSets).udfSets =
      (List.range udfSpec.setCount).map (initialUdfSet udfSpec numControllerSets) := by
  simp only [BcmUdfManager.new, foldl_newUdfSetsStep]

theorem valid_initialUdfSet (udfSpec : UdfSpec) (numControllerSets : Int) (j : Nat) :
    (initialUdfSet udfSpec numControllerSets j).2.Valid :=
  ⟨rfl, Nat.zero_le _⟩

theorem createInstance_eq_ok {udfSpec : UdfSpec} {numControllerSets : Int} {m : BcmUdfManager}
    (h : createInstance udfSpec numControllerSets = .ok m) :
    m = BcmUdfManager.new udfSpec numControllerSets := by
  unfold createInstance at h
  split at h
  · cases h
  · cases h
    rfl

/-- A set of a manager grown from the constructor's: set `j + 1`, with the
base and maximum the constructor gave it, and valid. -/
theorem mem_udfSets_of_grows {udfSpec : UdfSpec} {numControllerSets : Int} {m : BcmUdfManager}
    (h : Grows (BcmUdfManager.new udfSpec numControllerSets) m) {i : Int} {s : UdfSet}
    (hmem : (i, s) ∈ m.udfSets) :
    ∃ j : Nat, i = j + 1 ∧ s.baseChunkId = 1 + (j : Int) * udfSpec.chunksPerSet ∧
      s.maxChunks = udfSpec.chunksPerSet ∧ s.Valid := by
  obtain ⟨g, hg, hsets⟩ := h.udfSets
  rw [hsets, new_udfSets, List.map_map, List.mem_map] at hmem
  obtain ⟨j, -, hj⟩ := hmem
  obtain ⟨hkey, hgrow⟩ := hg (initialUdfSet udfSpec numControllerSets j)
  rw [Function.comp_apply] at hj
  rw [hj] at hkey hgrow
  exact ⟨j, hkey, hgrow.baseChunkId, hgrow.maxChunks,
    hgrow.valid (valid_initialUdfSet udfSpec numControllerSets j)⟩

/-- IDs handed out from the blocks `b + j * c, b + j * c + 1, ...`, at most
`c` from each, are distinct. -/
theorem nodup_flatMap_blocks (b : Int) (c n : Nat) (len : Nat → Nat) (hlen : ∀ j, len j ≤ c) :
    ((List.range n).flatMap fun j => (List.range (len j)).map fun k : Nat =>
      b + (j : Int) * c + k).Nodup := by
  rw [List.nodup_flatMap]
  refine ⟨fun j _ => List.nodup_range.map fun k k' h => by simpa using h, ?_⟩
  refine List.pairwise_lt_range.imp fun {j j'} hjj' => ?_
  intro x hx hx'
  obtain ⟨k, hk, rfl⟩ := List.mem_map.mp hx
  obtain ⟨k', -, heq⟩ := List.mem_map.mp hx'
  rw [List.mem_range] at hk
  -- block j ends below `b + (j + 1) * c`, where block j' starts
  have hblock : (j + 1) * c ≤ j' * c := Nat.mul_le_mul_right c hjj'
  have hkc : k < c := lt_of_lt_of_le hk (hlen j)
  have hblock' : (j : Int) * c + c ≤ (j' : Int) * c := by
    rw [← add_one_mul]
    exact_mod_cast hblock
  have hkc' : (k : Int) < c := by exact_mod_cast hkc
  omega

/-- The invariant of a manager built from `udfSpec`: set `i` holds at
most `chunks_per_set` chunks, with distinct keys, whose IDs are
`1 + (i - 1) * chunks_per_set`, the next one, ... in the order the chunks
went in; and the chunks `InstallUdfs` passes to the SDK have distinct IDs. -/
structure ChunkAllocation (udfSpec : UdfSpec) (m : BcmUdfManager) : Prop where
  size_le : ∀ i s, (i, s) ∈ m.udfSets → s.chunks.elems.length ≤ udfSpec.chunksPerSet
  keys_nodup : ∀ i s, (i, s) ∈ m.udfSets → (s.chunks.elems.map UdfChunk.key).Nodup
  ids_eq : ∀ i s, (i, s) ∈ m.udfSets → s.chunks.elems.map UdfChunk.id =
    (List.range s.chunks.elems.length).map fun k : Nat => 1 + (i - 1) * udfSpec.chunksPerSet + k
  ids_nodup : ∀ i s, (i, s) ∈ m.udfSets → (s.chunks.elems.map UdfChunk.id).Nodup
  install_ids_nodup : (m.bcmUdfSet.map BcmUdfChunk.id).Nodup

theorem chunkAllocation_of_grows {udfSpec : UdfSpec} {numControllerSets : Int}
    {m : BcmUdfManager} (h : Grows (BcmUdfManager.new udfSpec numControllerSets) m) :
    ChunkAllocation udfSpec m := by
  -- the IDs of each set, from its place
  have hids : ∀ i s, (i, s) ∈ m.udfSets → s.chunks.elems.map UdfChunk.id =
      (List.range s.chunks.elems.length).map fun k : Nat =>
        1 + (i - 1) * udfSpec.chunksPerSet + k := by
    intro i s hmem
    obtain ⟨j, rfl, hbase, -, hvalid⟩ := mem_udfSets_of_grows h hmem
    rw [hvalid.1, hbase]
    simp
  refine ⟨fun i s hmem => ?_, fun _ s _ => s.chunks.nodup_keys, hids, fun i s hmem => ?_, ?_⟩
  · obtain ⟨j, -, -, hmax, hvalid⟩ := mem_udfSets_of_grows h hmem
    exact hmax ▸ hvalid.2
  · rw [hids i s hmem]
    exact List.nodup_range.map fun k k' h => by simpa using h
  · -- the sets in key order hold disjoint blocks of IDs
    obtain ⟨g, hg, hsets⟩ := h.udfSets
    have hblock : ∀ j, (g (initialUdfSet udfSpec numControllerSets j)).2.chunks.elems.map
        UdfChunk.id =
          (List.range (g (initialUdfSet udfSpec numControllerSets j)).2.chunks.elems.length).map
            fun k : Nat => 1 + (j : Int) * udfSpec.chunksPerSet + k := by
      intro j
      have hgrow := (hg (initialUdfSet udfSpec numControllerSets j)).2
      rw [(hgrow.valid (valid_initialUdfSet udfSpec numControllerSets j)).1, hgrow.baseChunkId]
      rfl
    have hlen : ∀ j, (g (initialUdfSet udfSpec numControllerSets j)).2.chunks.elems.length ≤
        udfSpec.chunksPerSet := fun j => by
      have hgrow := (hg (initialUdfSet udfSpec numControllerSets j)).2
      exact (hgrow.valid (valid_initialUdfSet udfSpec numControllerSets j)).2.trans_eq
        hgrow.maxChunks
    have hmap : m.bcmUdfSet.map BcmUdfChunk.id = (List.range udfSpec.setCount).flatMap fun j =>
        (g (initialUdfSet udfSpec numControllerSets j)).2.chunks.elems.map UdfChunk.id := by
      rw [BcmUdfManager.bcmUdfSet, List.map_flatMap, hsets, new_udfSets, List.map_map,
        List.flatMap_map]
      simp [Function.comp_def]
    rw [hmap, funext hblock]
    exact nodup_flatMap_blocks 1 udfSpec.chunksPerSet udfSpec.setCount _ hlen

section Runs

variable (mapMatchField : Nat → Nat → StatusOr MappedField)
  (isUdfEligible : MappedField → BcmAclStage → Bool) (p4FieldTypeName : P4FieldType → String)
  (hashOrder : List (Nat × UdfSet × List Nat) → List (Nat × UdfSet × List Nat))

/-- Every manager a run of `SetUpStaticUdfs` calls reaches from
`CreateInstance` keeps the chunk allocation of its sets. -/
theorem chunkAllocation_final {udfSpec : UdfSpec} {numControllerSets : Int} {m₀ : BcmUdfManager}
    (hcreate : createInstance udfSpec numControllerSets = .ok m₀) (calls : List (List AclTable)) :
    ChunkAllocation udfSpec
      (final (step mapMatchField isUdfEligible p4FieldTypeName hashOrder) m₀ calls) := by
  rw [createInstance_eq_ok hcreate]
  exact chunkAllocation_of_grows
    (grows_final mapMatchField isUdfEligible p4FieldTypeName hashOrder _ calls)

end Runs

/-- For every UDF spec, every P4 table mapper, eligibility test and hash
order, and every run of `SetUpStaticUdfs` calls on a manager made by
`CreateInstance`: the state reached satisfies the invariant of the sets and
their IDs, a failed `AddChunks` or `MergeFrom` changes no set, and a call that
returns OK from it leaves each UDF field it marked with a set that holds the
chunks of the field, then and after any later calls. -/
theorem udf_chunk_allocation (udfSpec : UdfSpec) (numControllerSets : Int) {m₀ : BcmUdfManager}
    (hcreate : createInstance udfSpec numControllerSets = .ok m₀)
    (mapMatchField : Nat → Nat → StatusOr MappedField)
    (isUdfEligible : MappedField → BcmAclStage → Bool) (p4FieldTypeName : P4FieldType → String)
    (hashOrder : List (Nat × UdfSet × List Nat) → List (Nat × UdfSet × List Nat))
    (horder : ∀ records, (hashOrder records).Perm records) (calls : List (List AclTable)) :
    ChunkAllocation udfSpec
        (final (step mapMatchField isUdfEligible p4FieldTypeName hashOrder) m₀ calls) ∧
      (∀ s : UdfSet, (∀ chunks, (s.addChunks chunks).2 = false → (s.addChunks chunks).1 = s) ∧
        ∀ other, (s.mergeFrom other).2 = false → (s.mergeFrom other).1 = s) ∧
      MarksCovered mapMatchField isUdfEligible p4FieldTypeName hashOrder udfSpec.chunkBits
        (final (step mapMatchField isUdfEligible p4FieldTypeName hashOrder) m₀ calls) := by
  refine ⟨chunkAllocation_final mapMatchField isUdfEligible p4FieldTypeName hashOrder hcreate calls,
    fun s => ⟨fun _ h => addChunks_fst_of_snd_eq_false h,
      fun _ h => addChunks_fst_of_snd_eq_false h⟩, ?_⟩
  -- the chunk size of every reached manager is `chunk_bits`
  have hsize : (final (step mapMatchField isUdfEligible p4FieldTypeName hashOrder) m₀
      calls).chunkSize = udfSpec.chunkBits := by
    rw [(grows_final mapMatchField isUdfEligible p4FieldTypeName hashOrder m₀ calls).chunkSize,
      createInstance_eq_ok hcreate]
    rfl
  rw [← hsize]
  exact marksCovered mapMatchField isUdfEligible p4FieldTypeName hashOrder horder _

/-- An ACL table of the IFP stage that matches on the ARP target address. -/
def arpTargetTable : AclTable := ⟨1, "acl_arp", .ifp, [1], -1, []⟩

/-- A table mapper that maps every field to the 32-bit ARP target address,
at bit 192 of the ARP header. -/
def arpTargetMapper (_ _ : Nat) : StatusOr MappedField :=
  .ok ⟨P4FieldType.arpTpa, 192, 32, .arp⟩

/-- Two sets of four 8-bit chunks, both static, after one call with the ARP
table. -/
theorem udf_chunk_allocation_arpTarget :
    ChunkAllocation ⟨8, 4, 2⟩ (final (step arpTargetMapper defaultIsUdfEligible (fun _ => "") id)
        (BcmUdfManager.new ⟨8, 4, 2⟩ 0) [[arpTargetTable]]) ∧
      (∀ s : UdfSet, (∀ chunks, (s.addChunks chunks).2 = false → (s.addChunks chunks).1 = s) ∧
        ∀ other, (s.mergeFrom other).2 = false → (s.mergeFrom other).1 = s) ∧
      MarksCovered arpTargetMapper defaultIsUdfEligible (fun _ => "") id (8 : Nat)
        (final (step arpTargetMapper defaultIsUdfEligible (fun _ => "") id)
          (BcmUdfManager.new ⟨8, 4, 2⟩ 0) [[arpTargetTable]]) :=
  udf_chunk_allocation ⟨8, 4, 2⟩ 0 rfl arpTargetMapper defaultIsUdfEligible (fun _ => "") id
    (fun records => List.Perm.refl records) [[arpTargetTable]]

end Stratum.Ports.BcmUdfManager
