import Mathlib.Logic.Relation
import Mathlib.Data.List.Forall2
import Mathlib.Data.List.Perm.Basic

/-!
# Runs of a state machine

A component whose public operations update a state is modelled by a step
function `f : σ → ι → σ` from a state and one call to the state after the
call; a run is the left fold of `f` over a list of calls. This module holds
the two induction rules every safety proof of the development applies to
such runs:

* `foldl_invariant` — a property preserved by every call holds after every
  run that starts where it holds;
* `foldl_rel` — a reflexive and transitive relation that links every state
  to its successor links every state to the end of every run from it (used
  for "never decreases" statements);
* `foldl_invariant_guarded` — a property preserved only by the calls a guard
  admits holds along every run whose calls the guard admits, each at the
  state it is applied to (used for "until" statements).

A loop whose body may fail and return at once (`ASSIGN_OR_RETURN` in a
`for`) is `List.mapM` or `List.foldlM` in `Except`:

* `bind_eq_ok`, `bind_eq_error` — a sequenced step succeeds exactly when
  both parts do, and fails with the error of the part that failed;
* `mapM_eq_ok_iff` — a loop over a list succeeds exactly when the body
  succeeds on every element, pairing each element with its result;
* `mapM_eq_error` — a loop that fails, fails with its body's error at some
  element;
* `mapM_roundtrip` — a loop whose body a second body undoes on every element
  is undone by the loop of the second;
* `mapM_perm_roundtrip` — the loop of the second body over a permutation of
  the first loop's results gives back a permutation of its input;
* `foldlM_invariant` — a property every successful step keeps holds of the
  result of every successful loop;
* `foldlM_eq_ok_iff_foldl` — a loop whose body checks each element before a
  check-free update succeeds exactly when every element passes, with the
  check-free loop's result;
* `exists_foldlM_eq_ok`, `foldlM_holds_iff` — a loop whose steps all succeed
  from an invariant succeeds, and one whose steps each add what their
  element adds holds in the end what the elements added;
* `foldlM_frame`, `foldlM_writes`, `foldlM_writes_from` — a loop whose body
  writes one key per element leaves every other key alone, and, when no two
  elements share a key, leaves each element's key as that element's write
  made it from the key's value before the loop.

What a loop leaves in one field of its state:

* `foldl_last_write` — the last write wins;
* `foldl_sticky_flag` — a flag no element clears is set when some element
  set it.

Two kinds of run have sections of their own below: loops that update what
they loop over in place and stop at the first error
(`Stratum.Verified.InPlaceLoops`), and runs whose calls each return an
answer, read as a trace (`Stratum.Verified.Trace`).
-/

namespace Stratum.Verified.Run

universe u

variable {σ ι : Type*}

/-- A property preserved by every call holds along every run. -/
theorem foldl_invariant (f : σ → ι → σ) (P : σ → Prop) (hstep : ∀ s i, P s → P (f s i)) :
    ∀ (calls : List ι) (s : σ), P s → P (calls.foldl f s)
  | [], _, hs => hs
  | i :: calls, s, hs => foldl_invariant f P hstep calls (f s i) (hstep s i hs)

/-- A reflexive, transitive relation that holds across every call holds
across every run. -/
theorem foldl_rel (f : σ → ι → σ) (R : σ → σ → Prop) (hrefl : ∀ s, R s s)
    (htrans : ∀ s₁ s₂ s₃, R s₁ s₂ → R s₂ s₃ → R s₁ s₃) (hstep : ∀ s i, R s (f s i)) :
    ∀ (calls : List ι) (s : σ), R s (calls.foldl f s)
  | [], s => hrefl s
  | i :: calls, s => htrans _ _ _ (hstep s i) (foldl_rel f R hrefl htrans hstep calls (f s i))

/-- Every call of the run from `s` satisfies the guard `g` at the state it is
applied to. -/
def Guarded (f : σ → ι → σ) (g : σ → ι → Prop) : σ → List ι → Prop
  | _, [] => True
  | s, i :: calls => g s i ∧ Guarded f g (f s i) calls

/-- A property preserved by every call the guard admits holds along every
guarded run. -/
theorem foldl_invariant_guarded (f : σ → ι → σ) (g : σ → ι → Prop) (P : σ → Prop)
    (hstep : ∀ s i, g s i → P s → P (f s i)) :
    ∀ (calls : List ι) (s : σ), Guarded f g s calls → P s → P (calls.foldl f s)
  | [], _, _, hs => hs
  | i :: calls, s, ⟨hg, hrest⟩, hs =>
      foldl_invariant_guarded f g P hstep calls (f s i) hrest (hstep s i hg hs)

/-! ## Loops that stop at the first error -/

section Except

variable {ε α β : Type*}

/-- A sequenced step succeeds exactly when both of its parts do. -/
theorem bind_eq_ok {γ δ : Type u} {x : Except ε γ} {f : γ → Except ε δ} {d : δ} :
    x >>= f = .ok d ↔ ∃ c, x = .ok c ∧ f c = .ok d := by
  cases x with
  | error e => simp [bind, Except.bind]
  | ok a => simp [bind, Except.bind]

/-- A sequenced step fails when its first part does, or when the second part
fails on the first part's result. -/
theorem bind_eq_error {γ δ : Type u} {x : Except ε γ} {f : γ → Except ε δ} {e : ε} :
    x >>= f = .error e ↔ x = .error e ∨ ∃ c, x = .ok c ∧ f c = .error e := by
  cases x with
  | error e' => simp [bind, Except.bind]
  | ok a => simp [bind, Except.bind]

/-- A mapped step succeeds exactly when the step does. -/
theorem map_eq_ok {γ δ : Type u} {x : Except ε γ} {f : γ → δ} {d : δ} :
    f <$> x = .ok d ↔ ∃ c, x = .ok c ∧ f c = d := by
  cases x with
  | error e => simp [Functor.map, Except.map]
  | ok c => simp [Functor.map, Except.map]

/-- A loop succeeds exactly when its body succeeds on every element; the
results pair up with the elements. -/
theorem mapM_eq_ok_iff {f : α → Except ε β} :
    ∀ {xs : List α} {ys : List β},
      xs.mapM f = .ok ys ↔ List.Forall₂ (fun x y => f x = .ok y) xs ys
  | [], ys => by
      cases ys with
      | nil => exact iff_of_true rfl List.Forall₂.nil
      | cons y ys => exact iff_of_false (by simp [pure, Except.pure]) (by simp)
  | x :: xs, ys => by
      rw [List.mapM_cons]
      cases hx : f x with
      | error e =>
          -- the first element stops the loop
          refine iff_of_false (by simp [bind, Except.bind]) ?_
          intro hall
          cases hall with
          | cons hfirst _ => rw [hx] at hfirst; cases hfirst
      | ok y =>
          cases hrest : xs.mapM f with
          | error e =>
              refine iff_of_false (by simp [bind, Except.bind]) ?_
              intro hall
              cases hall with
              | cons _ htail =>
                  have hok := mapM_eq_ok_iff.mpr htail
                  rw [hrest] at hok
                  cases hok
          | ok ys' =>
              have htail : List.Forall₂ (fun x y => f x = .ok y) xs ys' :=
                mapM_eq_ok_iff.mp hrest
              constructor
              · intro h
                simp only [bind, Except.bind, pure, Except.pure, Except.ok.injEq] at h
                subst h
                exact List.Forall₂.cons hx htail
              · intro hall
                cases hall with
                | cons hfirst hothers =>
                    rw [hx] at hfirst
                    cases hfirst
                    have hys := (mapM_eq_ok_iff.mpr hothers).symm.trans hrest
                    cases hys
                    rfl

/-- A loop whose body succeeds on every element succeeds. -/
theorem exists_mapM_eq_ok {f : α → Except ε β} :
    ∀ {xs : List α}, (∀ x ∈ xs, ∃ y, f x = .ok y) → ∃ ys, xs.mapM f = .ok ys
  | [], _ => ⟨[], rfl⟩
  | x :: xs, h => by
      obtain ⟨y, hy⟩ := h x List.mem_cons_self
      obtain ⟨ys, hys⟩ := exists_mapM_eq_ok fun x' hx' => h x' (List.mem_cons_of_mem _ hx')
      exact ⟨y :: ys, mapM_eq_ok_iff.mpr (.cons hy (mapM_eq_ok_iff.mp hys))⟩

/-- A loop that fails, fails with its body's error at some element. -/
theorem mapM_eq_error {f : α → Except ε β} {e : ε} :
    ∀ {xs : List α}, xs.mapM f = .error e → ∃ x ∈ xs, f x = .error e
  | [], h => by cases h
  | x :: xs, h => by
      rw [List.mapM_cons, bind_eq_error] at h
      rcases h with hx | ⟨y, -, hrest⟩
      · exact ⟨x, List.mem_cons_self, hx⟩
      · rw [bind_eq_error] at hrest
        rcases hrest with hrest | ⟨ys, -, hpure⟩
        · obtain ⟨x', hx', hfx'⟩ := mapM_eq_error hrest
          exact ⟨x', List.mem_cons_of_mem _ hx', hfx'⟩
        · cases hpure

/-- A step that a second step undoes on every element is undone on the whole
loop. -/
theorem mapM_roundtrip {f : α → Except ε β} {g : β → Except ε α} {xs : List α} {ys : List β}
    (hround : ∀ x ∈ xs, ∀ y, f x = .ok y → g y = .ok x) (h : xs.mapM f = .ok ys) :
    ys.mapM g = .ok xs := by
  have hall := mapM_eq_ok_iff.mp h
  clear h
  apply mapM_eq_ok_iff.mpr
  induction hall with
  | nil => exact List.Forall₂.nil
  | cons hxy _ ih =>
      exact List.Forall₂.cons (hround _ List.mem_cons_self _ hxy)
        (ih (fun x hx => hround x (List.mem_cons_of_mem _ hx)))

theorem exists_of_forall₂_of_mem {R : α → β → Prop} {xs : List α} {ys : List β}
    (h : List.Forall₂ R xs ys) {y : β} (hy : y ∈ ys) : ∃ x ∈ xs, R x y := by
  induction h with
  | nil => cases hy
  | cons hxy _ ih =>
      rcases List.mem_cons.mp hy with rfl | hy
      · exact ⟨_, List.mem_cons_self, hxy⟩
      · obtain ⟨x, hx, hrel⟩ := ih hy
        exact ⟨x, List.mem_cons_of_mem _ hx, hrel⟩

/-- The second loop, run over a permutation `zs` of the first loop's results,
gives back a permutation of the first loop's input, which the first loop takes
to `zs` again. -/
theorem mapM_perm_roundtrip {f : α → Except ε β} {g : β → Except ε α} {xs : List α}
    {ys zs : List β} (hround : ∀ x ∈ xs, ∀ y, f x = .ok y → g y = .ok x)
    (h : xs.mapM f = .ok ys) (hperm : zs.Perm ys) :
    ∃ ws, zs.mapM g = .ok ws ∧ ws.Perm xs ∧ ws.mapM f = .ok zs := by
  have hforward := mapM_eq_ok_iff.mp h
  have hback := mapM_eq_ok_iff.mp (mapM_roundtrip hround h)
  obtain ⟨ws, hzs, hws⟩ := List.perm_comp_forall₂ hperm hback
  refine ⟨ws, mapM_eq_ok_iff.mpr hzs, hws, mapM_eq_ok_iff.mpr ?_⟩
  -- each `z` is a result `f x` of the first loop, which `g` takes back to `x`
  have hzs' : List.Forall₂ (fun z w => z ∈ ys ∧ g z = .ok w) zs ws :=
    (List.forall₂_and_left zs ws).mpr ⟨fun z hz => hperm.subset hz, hzs⟩
  apply List.Forall₂.flip
  refine hzs'.imp ?_
  rintro z w ⟨hz, hzw⟩
  obtain ⟨x, hx, hxz⟩ := exists_of_forall₂_of_mem hforward hz
  rw [hround x hx z hxz, Except.ok.injEq] at hzw
  rw [← hzw]
  exact hxz

/-- A property every successful step keeps holds of the result of every
successful loop. -/
theorem foldlM_invariant {f : β → α → Except ε β} (P : β → Prop)
    (hstep : ∀ acc x acc', P acc → f acc x = .ok acc' → P acc') :
    ∀ (xs : List α) (init r : β), P init → xs.foldlM f init = .ok r → P r
  | [], init, r, hinit, h => by
      simp only [List.foldlM_nil, pure, Except.pure, Except.ok.injEq] at h
      exact h ▸ hinit
  | x :: xs, init, r, hinit, h => by
      rw [List.foldlM_cons] at h
      cases hx : f init x with
      | error e => rw [hx] at h; cases h
      | ok acc =>
          rw [hx] at h
          exact foldlM_invariant P hstep xs acc r (hstep init x acc hinit hx) h

/-- A loop whose body writes only the key of its element leaves every other
key alone. -/
theorem foldlM_frame {f : β → α → Except ε β} {κ γ : Type*} (key : α → κ) (read : β → κ → γ)
    (hframe : ∀ acc x acc' k, f acc x = .ok acc' → k ≠ key x → read acc' k = read acc k) :
    ∀ (xs : List α) (init r : β), xs.foldlM f init = .ok r →
      ∀ k, k ∉ xs.map key → read r k = read init k
  | [], init, r, h, k, _ => by
      simp only [List.foldlM_nil, pure, Except.pure, Except.ok.injEq] at h
      rw [h]
  | x :: xs, init, r, h, k, hk => by
      rw [List.map_cons, List.mem_cons, not_or] at hk
      rw [List.foldlM_cons] at h
      cases hx : f init x with
      | error e => rw [hx] at h; cases h
      | ok acc =>
          rw [hx] at h
          calc read r k = read acc k := foldlM_frame key read hframe xs acc r h k hk.2
            _ = read init k := hframe init x acc k hx hk.1

/-- A loop whose body writes the key of its element, no two elements sharing
a key, leaves each element's key as that element's write made it from the
key's value before the loop. `inv` is what the writes need of the state and
keep. -/
theorem foldlM_writes_from {f : β → α → Except ε β} {κ γ : Type*} (key : α → κ)
    (read : β → κ → γ) (inv : β → Prop) (Q : α → γ → γ → Prop)
    (hinv : ∀ acc x acc', inv acc → f acc x = .ok acc' → inv acc')
    (hwrite : ∀ acc x acc', inv acc → f acc x = .ok acc' →
      Q x (read acc (key x)) (read acc' (key x)))
    (hframe : ∀ acc x acc' k, f acc x = .ok acc' → k ≠ key x → read acc' k = read acc k) :
    ∀ (xs : List α) (init r : β), inv init → (xs.map key).Nodup → xs.foldlM f init = .ok r →
      ∀ x ∈ xs, Q x (read init (key x)) (read r (key x))
  | [], _, _, _, _, _, x, hx => absurd hx List.not_mem_nil
  | x :: xs, init, r, hinit, hnodup, h, y, hy => by
      rw [List.map_cons, List.nodup_cons] at hnodup
      rw [List.foldlM_cons] at h
      cases hx : f init x with
      | error e => rw [hx] at h; cases h
      | ok acc =>
          rw [hx] at h
          rcases List.mem_cons.mp hy with rfl | hmem
          · -- the first write, which no later element overwrites
            rw [foldlM_frame key read hframe xs acc r h (key y) hnodup.1]
            exact hwrite init y acc hinit hx
          · -- a later element, whose key the first write left alone
            have hne : key y ≠ key x := fun hkey => hnodup.1 (List.mem_map.mpr ⟨y, hmem, hkey⟩)
            rw [← hframe init x acc (key y) hx hne]
            exact foldlM_writes_from key read inv Q hinv hwrite hframe xs acc r
              (hinv init x acc hinit hx) hnodup.2 h y hmem

/-- A loop whose body writes the key of its element, no two elements sharing
a key, leaves each element's key as that element's write left it. `inv` is
what the writes need of the state and keep. -/
theorem foldlM_writes {f : β → α → Except ε β} {κ γ : Type*} (key : α → κ) (read : β → κ → γ)
    (inv : β → Prop) (Q : α → γ → Prop)
    (hinv : ∀ acc x acc', inv acc → f acc x = .ok acc' → inv acc')
    (hwrite : ∀ acc x acc', inv acc → f acc x = .ok acc' → Q x (read acc' (key x)))
    (hframe : ∀ acc x acc' k, f acc x = .ok acc' → k ≠ key x → read acc' k = read acc k)
    (xs : List α) (init r : β) (hinit : inv init) (hnodup : (xs.map key).Nodup)
    (h : xs.foldlM f init = .ok r) : ∀ x ∈ xs, Q x (read r (key x)) :=
  foldlM_writes_from key read inv (fun x _ after => Q x after) hinv hwrite hframe xs init r
    hinit hnodup h

/-- A loop whose body, from a state of an invariant, succeeds exactly on the
elements a check admits and then makes a check-free update, succeeds exactly
when the check admits every element, with the check-free loop's result. -/
theorem foldlM_eq_ok_iff_foldl {f : β → α → Except ε β} {g : β → α → β} (P : β → Prop)
    (Q : α → Prop) (hstep : ∀ acc x r, P acc → (f acc x = .ok r ↔ Q x ∧ r = g acc x))
    (hkeep : ∀ acc x, P acc → Q x → P (g acc x)) :
    ∀ (xs : List α) (init : β) {r : β}, P init →
      (xs.foldlM f init = .ok r ↔ (∀ x ∈ xs, Q x) ∧ r = xs.foldl g init)
  | [], init, r, _ => by
      simp only [List.foldlM_nil, pure, Except.pure, Except.ok.injEq, List.foldl_nil]
      simp [eq_comm]
  | x :: xs, init, r, hinit => by
      rw [List.foldlM_cons, bind_eq_ok]
      constructor
      · rintro ⟨acc, hx, hrest⟩
        obtain ⟨hq, rfl⟩ := (hstep init x acc hinit).mp hx
        have ih := (foldlM_eq_ok_iff_foldl P Q hstep hkeep xs _ (hkeep init x hinit hq)).mp hrest
        exact ⟨List.forall_mem_cons.mpr ⟨hq, ih.1⟩, ih.2⟩
      · rintro ⟨hall, rfl⟩
        obtain ⟨hq, hrest⟩ := List.forall_mem_cons.mp hall
        exact ⟨g init x, (hstep init x _ hinit).mpr ⟨hq, rfl⟩,
          (foldlM_eq_ok_iff_foldl P Q hstep hkeep xs _ (hkeep init x hinit hq)).mpr ⟨hrest, rfl⟩⟩

/-- A loop whose body, from a state of an invariant, succeeds on every
element and keeps the invariant, succeeds, and leaves a state of the
invariant. -/
theorem exists_foldlM_eq_ok {f : β → α → Except ε β} (P : β → Prop) :
    ∀ (xs : List α) (init : β), P init →
      (∀ acc x, P acc → x ∈ xs → ∃ r, f acc x = .ok r ∧ P r) →
        ∃ r, xs.foldlM f init = .ok r ∧ P r
  | [], init, hinit, _ => ⟨init, rfl, hinit⟩
  | x :: xs, init, hinit, hstep => by
      obtain ⟨acc, hx, hacc⟩ := hstep init x hinit List.mem_cons_self
      obtain ⟨r, hrest, hr⟩ := exists_foldlM_eq_ok P xs acc hacc
        fun acc' y hacc' hy => hstep acc' y hacc' (List.mem_cons_of_mem x hy)
      refine ⟨r, ?_, hr⟩
      rw [List.foldlM_cons, hx]
      exact hrest

/-- A loop each of whose successful steps adds to what its state holds
exactly what its element adds ends holding what it started with and what
some element adds. -/
theorem foldlM_holds_iff {f : β → α → Except ε β} {γ : Type*} (holds : β → γ → Prop)
    (adds : α → γ → Prop)
    (hstep : ∀ acc x r c, f acc x = .ok r → (holds r c ↔ holds acc c ∨ adds x c)) :
    ∀ (xs : List α) (init r : β), xs.foldlM f init = .ok r →
      ∀ c, holds r c ↔ holds init c ∨ ∃ x ∈ xs, adds x c
  | [], init, r, h, c => by
      simp only [List.foldlM_nil, pure, Except.pure, Except.ok.injEq] at h
      simp [h]
  | x :: xs, init, r, h, c => by
      rw [List.foldlM_cons, bind_eq_ok] at h
      obtain ⟨acc, hx, hrest⟩ := h
      rw [foldlM_holds_iff holds adds hstep xs acc r hrest c, hstep init x acc c hx]
      simp only [List.mem_cons, or_and_right, exists_or, exists_eq_left, or_assoc]

end Except

/-! ## What a loop leaves in one field -/

section Fields

variable {α β γ : Type*} (g : β → α → β) (read : β → γ) (p : α → Bool)

/-- The last write wins: when the elements `p` admits write `value` into a
field and the others leave it alone, the loop leaves the value of the last
admitted element, or the initial value when there is none. -/
theorem foldl_last_write (value : α → γ) (hwrite : ∀ b x, p x = true → read (g b x) = value x)
    (hkeep : ∀ b x, p x = false → read (g b x) = read b) :
    ∀ (xs : List α) (init : β),
      read (xs.foldl g init) = ((xs.filter p).getLast?.map value).getD (read init)
  | [], init => rfl
  | x :: xs, init => by
      rw [List.foldl_cons, foldl_last_write value hwrite hkeep xs (g init x)]
      cases hx : p x
      · simp [hx, hkeep init x hx]
      · cases hlast : (xs.filter p).getLast? with
        | none =>
            have hnil : xs.filter p = [] := List.getLast?_eq_none_iff.mp hlast
            simp [hx, hnil, hwrite init x hx]
        | some y => simp [hx, hlast, List.getLast?_cons]

/-- A flag that the elements `p` admits set, and the others leave alone, is
set after the loop exactly when it was set before or some element set it. -/
theorem foldl_sticky_flag (read : β → Bool) (hset : ∀ b x, p x = true → read (g b x) = true)
    (hkeep : ∀ b x, p x = false → read (g b x) = read b) :
    ∀ (xs : List α) (init : β), read (xs.foldl g init) = (read init || xs.any p)
  | [], init => by simp
  | x :: xs, init => by
      rw [List.foldl_cons, foldl_sticky_flag read hset hkeep xs (g init x)]
      cases hx : p x
      · simp [hx, hkeep init x hx]
      · simp [hx, hset init x hx]

end Fields

end Stratum.Verified.Run

/-!
## Loops that update in place and stop at the first error

A loop `for (auto& e : container) RETURN_IF_ERROR(Body(&e));` updates what it
loops over in place: the first body that fails returns its error at once, and
what the bodies before it changed stays changed. Its model runs the body as a
function to a status and the value the body leaves:

* `updateEach` loops over the entries of an association list, each body
  updating the value of its entry;
* `foldStatus` loops over a list, every body updating one accumulated state.

Main results:

* `updateEach_of_ok` — a body that succeeds on every entry updates them all;
* `foldStatus_of_ok` — a body that succeeds from every state where an
  invariant holds, and keeps it, runs to the end of the list.
-/

namespace Stratum.Verified.InPlaceLoops

variable {ε κ β σ α : Type}

/-- The loop over the entries of `l`, each updated in place by `body`. -/
def updateEach (body : κ → β → Except ε Unit × β) : List (κ × β) → Except ε Unit × List (κ × β)
  | [] => (.ok (), [])
  | (k, b) :: rest =>
      match body k b with
      | (.ok (), b') =>
          let (status, rest') := updateEach body rest
          (status, (k, b') :: rest')
      | (.error e, b') => (.error e, (k, b') :: rest)

/-- The loop over `l`, every body updating the state the one before left. -/
def foldStatus (body : σ → α → Except ε Unit × σ) : σ → List α → Except ε Unit × σ
  | s, [] => (.ok (), s)
  | s, a :: rest =>
      match body s a with
      | (.ok (), s') => foldStatus body s' rest
      | (.error e, s') => (.error e, s')

theorem updateEach_of_ok {body : κ → β → Except ε Unit × β} (update : κ → β → β) :
    ∀ l : List (κ × β), (∀ k b, (k, b) ∈ l → body k b = (.ok (), update k b)) →
      updateEach body l = (.ok (), l.map fun e => (e.1, update e.1 e.2))
  | [], _ => rfl
  | (k, b) :: rest, h => by
      have hrest := updateEach_of_ok update rest fun k' b' hmem =>
        h k' b' (List.mem_cons_of_mem _ hmem)
      simp only [updateEach, h k b List.mem_cons_self, hrest, List.map_cons]

theorem foldStatus_of_ok {body : σ → α → Except ε Unit × σ} (step : σ → α → σ) (P : σ → Prop) :
    ∀ (l : List α) (s : σ),
      (∀ s a, a ∈ l → P s → body s a = (.ok (), step s a) ∧ P (step s a)) → P s →
        foldStatus body s l = (.ok (), l.foldl step s)
  | [], _, _, _ => rfl
  | a :: rest, s, h, hs => by
      obtain ⟨hbody, hstep⟩ := h s a List.mem_cons_self hs
      simp only [foldStatus, hbody, List.foldl_cons]
      exact foldStatus_of_ok step P rest (step s a)
        (fun s' a' hmem hs' => h s' a' (List.mem_cons_of_mem _ hmem) hs') hstep

end Stratum.Verified.InPlaceLoops

/-!
## Runs that answer each call

A component whose calls change its state and return an answer is modelled by
a step function `step : σ → ι → ω × σ`. A run of a list of calls ends in
`final step s calls` and leaves the `trace` of every call with its answer, in
order.

A buffer is first-in first-out when each call takes what it accepts at the
back and what it delivers from the front:

  contents before ++ accepted = delivered ++ contents after.

Main results:

* `trace_append_cons` — the answer of a call in the middle of a run is its
  answer at the state the calls before it reach;
* `forall_mem_trace` — from a state where an invariant holds, every answer
  of a run satisfies what each call answers from such a state;
* `conserves_trace` — when every call conserves a buffer's contents, so does
  every run: the contents at its start followed by everything accepted is
  everything delivered followed by the contents at its end.
-/

namespace Stratum.Verified.Trace

open Stratum.Verified.Run

variable {σ ι ω α : Type*}

/-- The state a run of calls ends in. -/
def final (step : σ → ι → ω × σ) (s : σ) (calls : List ι) : σ :=
  calls.foldl (fun s call => (step s call).2) s

/-- The calls of a run, each with its answer, in order. -/
def trace (step : σ → ι → ω × σ) : σ → List ι → List (ι × ω)
  | _, [] => []
  | s, call :: calls => (call, (step s call).1) :: trace step (step s call).2 calls

variable {step : σ → ι → ω × σ}

@[simp] theorem final_nil (s : σ) : final step s [] = s := rfl

@[simp] theorem final_cons (s : σ) (call : ι) (calls : List ι) :
    final step s (call :: calls) = final step (step s call).2 calls := rfl

theorem final_append (s : σ) (calls calls' : List ι) :
    final step s (calls ++ calls') = final step (final step s calls) calls' :=
  List.foldl_append

@[simp] theorem trace_nil (s : σ) : trace step s [] = [] := rfl

@[simp] theorem trace_cons (s : σ) (call : ι) (calls : List ι) :
    trace step s (call :: calls) = (call, (step s call).1) :: trace step (step s call).2 calls :=
  rfl

theorem trace_append :
    ∀ (calls : List ι) (s : σ) (calls' : List ι),
      trace step s (calls ++ calls') = trace step s calls ++ trace step (final step s calls) calls'
  | [], _, _ => rfl
  | call :: calls, s, calls' => by
      rw [List.cons_append, trace_cons, trace_cons, trace_append calls, final_cons,
        List.cons_append]

/-- The answer of a call in the middle of a run is its answer at the state
the calls before it reach. -/
theorem trace_append_cons (s : σ) (pre : List ι) (call : ι) (post : List ι) :
    trace step s (pre ++ call :: post) =
      trace step s pre ++ (call, (step (final step s pre) call).1) ::
        trace step (step (final step s pre) call).2 post := by
  rw [trace_append, trace_cons]

/-- A property every call keeps holds at the end of every run from a state
where it holds. -/
theorem final_invariant (inv : σ → Prop) (hkeep : ∀ s call, inv s → inv (step s call).2) :
    ∀ (calls : List ι) (s : σ), inv s → inv (final step s calls) :=
  foldl_invariant _ inv hkeep

/-- From a state where an invariant holds, every answer of a run satisfies
what each call answers from such a state. -/
theorem forall_mem_trace (inv : σ → Prop) (good : ι × ω → Prop)
    (hkeep : ∀ s call, inv s → inv (step s call).2)
    (hgood : ∀ s call, inv s → good (call, (step s call).1)) :
    ∀ (calls : List ι) (s : σ), inv s → ∀ entry ∈ trace step s calls, good entry
  | [], _, _, _, hmem => absurd hmem List.not_mem_nil
  | call :: calls, s, hs, entry, hmem => by
      rw [trace_cons, List.mem_cons] at hmem
      rcases hmem with rfl | hrest
      · exact hgood s call hs
      · exact forall_mem_trace inv good hkeep hgood calls _ (hkeep s call hs) entry hrest

/-- When every call conserves a buffer's contents, every run does. -/
theorem conserves_trace (contents : σ → List α) (accepted delivered : ι × ω → List α)
    (hcall : ∀ s call, contents s ++ accepted (call, (step s call).1) =
      delivered (call, (step s call).1) ++ contents (step s call).2) :
    ∀ (calls : List ι) (s : σ),
      contents s ++ (trace step s calls).flatMap accepted =
        (trace step s calls).flatMap delivered ++ contents (final step s calls)
  | [], s => by simp
  | call :: calls, s => by
      -- the first call moves its accepted part to the front, the rest by induction
      have hrest := conserves_trace contents accepted delivered hcall calls (step s call).2
      rw [trace_cons, List.flatMap_cons, List.flatMap_cons, final_cons]
      calc contents s ++ (accepted (call, (step s call).1) ++
              (trace step (step s call).2 calls).flatMap accepted)
          = (delivered (call, (step s call).1) ++ contents (step s call).2) ++
              (trace step (step s call).2 calls).flatMap accepted := by
            rw [← List.append_assoc, hcall]
        _ = delivered (call, (step s call).1) ++
              ((trace step (step s call).2 calls).flatMap delivered ++
                contents (final step (step s call).2 calls)) := by
            rw [List.append_assoc, hrest]
        _ = _ := by rw [List.append_assoc]

end Stratum.Verified.Trace
