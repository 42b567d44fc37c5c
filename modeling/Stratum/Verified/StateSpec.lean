import Mathlib.Order.Defs.Unbundled

/-!
# Weakest preconditions of calls that keep what they changed before an error

A call that runs to its first error, and keeps the changes it made up to
it, is an `EStateM ε σ α` program: from a state it returns a value in a new
state, or throws an error in the state it had reached. `wp x post fail s`
says that the run of `x` from `s` returns a value `a` in a state satisfying
`post a`, or throws in a state satisfying `fail`.

The equations below take `wp` through `bind`, `get`, `set`, `modify`,
`throw` and `if`, so that the weakest precondition of a `do` block unfolds,
one call at a time, to a statement about its start state.

A program keeps a relation `r` when every run of it ends in a state that
`r` relates to the state it started in, whether it returns or throws. A
transitive relation kept by each part of a sequence is kept by the
sequence, and a property that `r` carries over holds after every run from a
state where it holds.

Main results:

* `wp_bind` — the weakest precondition of `x >>= f` is that of `x` for the
  weakest precondition of `f` at the value of `x`;
* `wp_mono` — a weakest precondition is monotone in both postconditions;
* `Keeps.wp_bind` — what follows a kept part starts in a state related to
  the start;
* `Keeps.bind` — a sequence whose parts keep a transitive relation keeps it;
* `Keeps.wp` — a property carried over by a kept relation holds after every
  run from a state where it holds.
-/

namespace Stratum.Verified.StateSpec

variable {ε σ α β : Type}

/-- The weakest precondition of `x`: the run from `s` returns `a` in a state
satisfying `post a`, or throws in a state satisfying `fail`. -/
def wp (x : EStateM ε σ α) (post : α → σ → Prop) (fail : σ → Prop) (s : σ) : Prop :=
  match x.run s with
  | .ok a s' => post a s'
  | .error _ s' => fail s'

section Rules

variable {post : α → σ → Prop} {fail : σ → Prop} {s : σ}

@[simp] theorem wp_throw (e : ε) : wp (throw e : EStateM ε σ α) post fail s ↔ fail s :=
  Iff.rfl

@[simp] theorem wp_get {post : σ → σ → Prop} :
    wp (get : EStateM ε σ σ) post fail s ↔ post s s :=
  Iff.rfl

@[simp] theorem wp_set {post : PUnit → σ → Prop} (s' : σ) :
    wp (set s' : EStateM ε σ PUnit) post fail s ↔ post ⟨⟩ s' :=
  Iff.rfl

@[simp] theorem wp_modify {post : PUnit → σ → Prop} (f : σ → σ) :
    wp (modify f : EStateM ε σ PUnit) post fail s ↔ post ⟨⟩ (f s) :=
  Iff.rfl

@[simp] theorem wp_bind (x : EStateM ε σ α) (f : α → EStateM ε σ β) {post : β → σ → Prop} :
    wp (x >>= f) post fail s ↔ wp x (fun a => wp (f a) post fail) fail s := by
  unfold wp EStateM.run
  show (match EStateM.bind x f s with
    | .ok b s' => post b s'
    | .error _ s' => fail s') ↔ _
  unfold EStateM.bind
  cases x s <;> rfl

@[simp] theorem wp_pure (a : α) : wp (pure a : EStateM ε σ α) post fail s ↔ post a s :=
  Iff.rfl

/-- A call of a function that returns `Except` returns its value or throws its
error, in the state it started in. -/
theorem wp_liftExcept (x : Except ε α) :
    wp (liftExcept x : EStateM ε σ α) post fail s ↔
      match x with
      | .ok a => post a s
      | .error _ => fail s := by
  cases x <;> rfl

theorem wp_ite (c : Prop) [Decidable c] (x y : EStateM ε σ α) :
    wp (if c then x else y) post fail s ↔ if c then wp x post fail s else wp y post fail s := by
  split <;> rfl

/-- Rewriting the error a program throws changes neither where it ends nor
whether it throws. -/
@[simp] theorem wp_adaptExcept {ε' : Type} (f : ε' → ε) (x : EStateM ε' σ α) :
    wp (EStateM.adaptExcept f x) post fail s ↔ wp x post fail s := by
  unfold wp EStateM.run EStateM.adaptExcept
  cases x s <;> rfl

/-- A weakest precondition is monotone in both postconditions. -/
theorem wp_mono {x : EStateM ε σ α} {post' : α → σ → Prop} {fail' : σ → Prop}
    (h : wp x post fail s) (hpost : ∀ a s', post a s' → post' a s')
    (hfail : ∀ s', fail s' → fail' s') : wp x post' fail' s := by
  unfold wp at h ⊢
  cases hrun : x.run s with
  | ok a s' =>
      rw [hrun] at h
      exact hpost a s' h
  | error e s' =>
      rw [hrun] at h
      exact hfail s' h

/-- Two weakest preconditions of one program hold together. -/
theorem wp_and {x : EStateM ε σ α} {post' : α → σ → Prop} {fail' : σ → Prop}
    (h : wp x post fail s) (h' : wp x post' fail' s) :
    wp x (fun a s' => post a s' ∧ post' a s') (fun s' => fail s' ∧ fail' s') s := by
  unfold wp at h h' ⊢
  cases hrun : x.run s with
  | ok a s' =>
      rw [hrun] at h h'
      exact ⟨h, h'⟩
  | error e s' =>
      rw [hrun] at h h'
      exact ⟨h, h'⟩

/-- A program that cannot throw from `s` returns there, in a state
satisfying its postcondition. -/
theorem wp_fail_false_iff {x : EStateM ε σ α} :
    wp x post (fun _ => False) s ↔ ∃ a s', x.run s = .ok a s' ∧ post a s' := by
  unfold wp
  cases x.run s with
  | ok a s' => exact ⟨fun h => ⟨a, s', rfl, h⟩, fun ⟨_, _, hrun, h⟩ => by cases hrun; exact h⟩
  | error e s' => exact ⟨False.elim, fun ⟨_, _, hrun, _⟩ => by cases hrun⟩

/-- What a weakest precondition promises of a run that returns. -/
theorem wp.of_run_ok {x : EStateM ε σ α} (h : wp x post fail s) {a : α} {s' : σ}
    (hrun : x.run s = .ok a s') : post a s' := by
  unfold wp at h
  rw [hrun] at h
  exact h

end Rules

/-! ## Programs that keep a relation -/

/-- Every run of `x` ends in a state that `r` relates to its start, whether
it returns or throws. -/
def Keeps (r : σ → σ → Prop) (x : EStateM ε σ α) : Prop :=
  ∀ s, wp x (fun _ => r s) (r s) s

section Keeps

variable {r : σ → σ → Prop}

theorem keeps_pure [Std.Refl r] (a : α) : Keeps r (pure a : EStateM ε σ α) :=
  fun s => Std.Refl.refl s

theorem keeps_throw [Std.Refl r] (e : ε) : Keeps r (throw e : EStateM ε σ α) :=
  fun s => Std.Refl.refl s

theorem keeps_get [Std.Refl r] : Keeps r (get : EStateM ε σ σ) :=
  fun s => Std.Refl.refl s

theorem keeps_liftExcept [Std.Refl r] (x : Except ε α) :
    Keeps r (liftExcept x : EStateM ε σ α) := by
  cases x with
  | ok a => exact keeps_pure a
  | error e => exact keeps_throw e

theorem keeps_modify {f : σ → σ} (h : ∀ s, r s (f s)) : Keeps r (modify f : EStateM ε σ PUnit) :=
  h

/-- A program run after a kept part starts in a state that `r` relates to
the start of the sequence. -/
theorem Keeps.wp_bind {x : EStateM ε σ α} {f : α → EStateM ε σ β} {post : β → σ → Prop}
    {fail : σ → Prop} {s : σ} (hx : Keeps r x)
    (hf : ∀ a s', r s s' → StateSpec.wp (f a) post fail s') (hfail : ∀ s', r s s' → fail s') :
    StateSpec.wp (x >>= f) post fail s := by
  rw [StateSpec.wp_bind]
  exact wp_mono (hx s) hf hfail

/-- A kept program run from a state that `r` relates to `s₀` ends in one
that `r` relates to `s₀`. -/
theorem Keeps.wp_of_rel [IsTrans σ r] {x : EStateM ε σ α} (hx : Keeps r x) {s₀ s : σ}
    (h : r s₀ s) : StateSpec.wp x (fun _ => r s₀) (r s₀) s :=
  wp_mono (hx s) (fun _ _ h' => IsTrans.trans _ _ _ h h') (fun _ h' => IsTrans.trans _ _ _ h h')

/-- A sequence whose parts keep a transitive relation keeps it. -/
theorem Keeps.bind [IsTrans σ r] {x : EStateM ε σ α} {f : α → EStateM ε σ β} (hx : Keeps r x)
    (hf : ∀ a, Keeps r (f a)) : Keeps r (x >>= f) :=
  fun _ => hx.wp_bind (fun a _ h => (hf a).wp_of_rel h) (fun _ h => h)

theorem Keeps.ite {c : Prop} [Decidable c] {x y : EStateM ε σ α} (hx : Keeps r x)
    (hy : Keeps r y) : Keeps r (if c then x else y) := by
  intro s
  rw [wp_ite]
  split
  · exact hx s
  · exact hy s

/-- A property that a kept relation carries over holds after every run from
a state where it holds. -/
theorem Keeps.wp {P : σ → Prop} {x : EStateM ε σ α} (hx : Keeps r x)
    (hcarry : ∀ s s', P s → r s s' → P s') {s : σ} (hs : P s) :
    StateSpec.wp x (fun _ => P) P s :=
  wp_mono (hx s) (fun _ s' h => hcarry s s' hs h) (fun s' h => hcarry s s' hs h)

end Keeps

end Stratum.Verified.StateSpec
