import Stratum.Lib.Channel.Basic

/-!
# The queue discipline of `Channel`

Every run of calls on a channel made by `Channel<T>::Create(d)`, in any
order and with any deadlines, keeps the queue within `d` messages and passes
messages first in, first out, losing and duplicating none: what the reads
delivered, followed by what is still queued, is what the writes accepted, in
the order they accepted it. A write is accepted only by an open channel with
room, and once `Close` has run no call succeeds.

Each fact is the invariant or the conservation law of one pass
(`PassSpec`), carried along the run by the rules of `Stratum.Verified.Trace`.

Main results:

* `withinDepth_final` — every reachable channel holds at most `d` messages;
* `conserves_run` — the queue is first in, first out along every run;
* `channel_queue_discipline` — the four facts together, for every run from
  a new channel.
-/

namespace Stratum.Lib.Channel.Discipline

open Stratum.Verified.Trace Stratum.Lib.Channel.Basic

variable {α : Type}

/-- A channel of depth `d` whose queue is within it. -/
def WithinDepth (d : Nat) (c : Channel α) : Prop :=
  c.maxDepth = d ∧ c.queue.length ≤ d

theorem withinDepth_step {d : Nat} {c : Channel α} (h : WithinDepth d c) (call : Call α) :
    WithinDepth d (c.step call).2 := by
  obtain ⟨hmax, hlen⟩ := h
  have hspec := c.passSpec_call call
  have hdepth := hspec.depth (by rw [hmax]; exact hlen)
  have hmax' : (c.call call).channel.maxDepth = d := hspec.maxDepth.trans hmax
  rw [hmax'] at hdepth
  exact ⟨hmax', hdepth⟩

/-- Every channel a run from a new channel of depth `d` reaches holds at
most `d` messages. -/
theorem withinDepth_final (d : Nat) (calls : List (Call α)) :
    WithinDepth d (final Channel.step (Channel.create d) calls) :=
  final_invariant (WithinDepth d) (fun _ call h => withinDepth_step h call) calls _
    ⟨rfl, Nat.zero_le d⟩

/-- Along every run the queue is first in, first out: the queue at the
start, followed by what the writes accepted, is what the reads delivered,
followed by the queue at the end. -/
theorem conserves_run (c : Channel α) (calls : List (Call α)) :
    c.queue ++ (trace Channel.step c calls).flatMap accepted =
      (trace Channel.step c calls).flatMap delivered ++ (final Channel.step c calls).queue :=
  conserves_trace (fun c : Channel α => c.queue) accepted delivered
    (fun c call => (c.passSpec_call call).conserves) calls c

/-- A run from a closed channel stays closed, and none of its calls
succeeds. -/
theorem not_succeeded_of_closed (c : Channel α) (hclosed : c.closed = true)
    (calls : List (Call α)) :
    ∀ entry ∈ trace Channel.step c calls, entry.2.succeeded = false :=
  forall_mem_trace (fun c : Channel α => c.closed = true)
    (fun entry : Call α × Reply α => entry.2.succeeded = false)
    (fun c call h => ((c.passSpec_call call).of_closed h).1)
    (fun c call h => ((c.passSpec_call call).of_closed h).2) calls c hclosed

/-- The queue discipline of a channel made with depth `d`, over every run:
the queue stays within `d`; reads deliver exactly what writes accepted, in
order; a write is accepted only by an open channel with room; and after
`Close` no call succeeds. -/
theorem channel_queue_discipline (d : Nat) (calls : List (Call α)) :
    (∀ k, (final Channel.step (Channel.create d) (calls.take k)).queue.length ≤ d) ∧
    (trace Channel.step (Channel.create d) calls).flatMap delivered ++
        (final Channel.step (Channel.create d) calls).queue =
      (trace Channel.step (Channel.create d) calls).flatMap accepted ∧
    (∀ pre call post, calls = pre ++ call :: post →
      accepted (call, (Channel.step (final Channel.step (Channel.create d) pre) call).1) ≠ [] →
      (final Channel.step (Channel.create d) pre).closed = false ∧
        (final Channel.step (Channel.create d) pre).queue.length < d) ∧
    (∀ pre post, calls = pre ++ .close :: post →
      ∀ entry ∈ trace Channel.step (final Channel.step (Channel.create d) (pre ++ [.close])) post,
        entry.2.succeeded = false) := by
  refine ⟨fun k => (withinDepth_final d (calls.take k)).2, ?_, ?_, ?_⟩
  · -- a new channel's queue is empty
    have hrun := conserves_run (Channel.create d) calls
    rw [show (Channel.create d : Channel α).queue = [] from rfl, List.nil_append] at hrun
    exact hrun.symm
  · intro pre call post _ hacc
    have hbefore := withinDepth_final d pre
    have hopen :=
      ((final Channel.step (Channel.create d) pre).passSpec_call call).accepted_ne_nil hacc
    rw [hbefore.1] at hopen
    exact hopen
  · intro pre post _
    apply not_succeeded_of_closed
    rw [final_append, final_cons, final_nil]
    exact Channel.closed_close _

end Stratum.Lib.Channel.Discipline
