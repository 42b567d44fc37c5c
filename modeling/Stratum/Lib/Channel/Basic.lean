import Stratum.Ports.Status
import Stratum.Verified.Run

set_option linter.dupNamespace false

/-!
# `Channel`

`stratum/lib/channel/channel.h` passes messages between threads through a
`Channel<T>`: a queue of at most `max_depth_` messages, a `closed_` flag and
the `select_list_` of `Select` calls waiting for a message, all guarded by
`queue_lock_`.

Every public call runs one section under `queue_lock_`, which the model takes
as one atomic step. A blocking call (`Write`, `Read`) that finds the queue
full or empty waits on a condition variable, which releases the lock; woken,
it checks again. The model runs one pass of such a call per step: the pass
ends in a reply, or in `waits`, and a woken call is the same call made again.
Whether the call's deadline has passed when it is woken is a parameter of the
pass.

A `Select` call is named by its `SelectData`: `ClearSelectList` reaches the
call only through the `done` flag of that shared object, so a pass reports
the calls it notified and the value it set their flag to.

Main results:

* `Channel.passSpec_call` — every pass of every call is one of the cases of
  `PassSpec`: a write accepted by an open channel below its depth, a read
  from the front of an open channel, `ReadAll`, `Close`, or a failure that
  changes nothing;
* `PassSpec.conserves` — a pass appends what it accepts to the queue and
  delivers from its front;
* `PassSpec.accepted_ne_nil` — only an open channel below its depth accepts
  a message;
* `PassSpec.of_closed` — a closed channel stays closed, and no call on it
  succeeds.
-/

namespace Stratum.Lib.Channel.Basic

open Stratum.Ports.Status

/-- A `Select` call, named by its `SelectData`: every `shared_ptr` copy of
one `SelectData` names the same call. -/
abbrev SelectId := Nat

/-- A `Channel<T>`: `queue_`, `closed_`, `select_list_` (a `SelectData` copy
and a `bool` per entry) and `max_depth_`. -/
structure Channel (α : Type) where
  queue : List α
  closed : Bool
  selectList : List (SelectId × Bool)
  maxDepth : Nat
  deriving DecidableEq, Repr

/-- The calls a thread makes on a `Channel`; a blocking one says whether its
deadline has passed when it is woken. -/
inductive Call (α : Type)
  | write (t : α) (expired : Bool)
  | tryWrite (t : α)
  | read (expired : Bool)
  | tryRead
  | readAll
  | close
  deriving DecidableEq, Repr

/-- What a pass of a call returns: the status of `Write`/`TryWrite`, the
message of `Read`/`TryRead`, the messages of `ReadAll`, the `bool` of
`Close`; or `waits` when the pass waits on a condition variable. -/
inductive Reply (α : Type)
  | status (status : StatusOr Unit)
  | read (result : StatusOr α)
  | readAll (result : StatusOr (List α))
  | close (closed : Bool)
  | waits
  deriving DecidableEq, Repr

/-- One pass of a call under `queue_lock_`: its reply, the channel after it,
and the `Select` calls it notified, each with the value it set their `done`
flag to. -/
structure Pass (α : Type) where
  reply : Reply α
  channel : Channel α
  notified : List (SelectId × Bool)

variable {α : Type}

/-- `Channel<T>::Create`. -/
def Channel.create (maxDepth : Nat) : Channel α := ⟨[], false, [], maxDepth⟩

/-- The error every call returns on a closed channel. -/
def channelClosed : UtilError := ⟨.errCancelled, "Channel is closed."⟩

/-! ## Writes -/

/-- `ClearSelectList(ready)`: each entry sets its `bool` and its call's
`done` flag to `ready`, signals the call and is popped. The `bool` set is the
list's own copy, popped with its entry; what reaches the call is `done`. -/
def Channel.clearSelectList (c : Channel α) (ready : Bool) : Channel α × List (SelectId × Bool) :=
  ({ c with selectList := [] }, c.selectList.map fun entry => (entry.1, ready))

/-- The error of a queue longer than `max_depth_`. -/
def Channel.loadError (c : Channel α) : UtilError :=
  ⟨.errInternal, "Channel load " ++ toString c.queue.length ++ " exceeds max queue depth " ++
    toString c.maxDepth ++ "."⟩

/-- `CheckWriteState`. -/
def Channel.checkWriteState (c : Channel α) : StatusOr Unit :=
  if c.closed then .error channelClosed
  else if c.queue.length = c.maxDepth then .error ⟨.errNoResource, "Channel is full."⟩
  else if c.queue.length > c.maxDepth then .error c.loadError
  else .ok ()

/-- One pass of `CheckWriteStateAndBlock`: `none` when it waits on
`cond_not_full_`. -/
def Channel.checkWriteStateAndBlock (c : Channel α) (expired : Bool) : Option (StatusOr Unit) :=
  if c.closed then some (.error channelClosed)
  else if c.queue.length = c.maxDepth then
    if expired then
      some (.error ⟨.errNoResource, "Write did not succeed within timeout due to full Channel."⟩)
    else none
  else if c.queue.length > c.maxDepth then some (.error c.loadError)
  else some (.ok ())

/-- The rest of `Write` and `TryWrite` after their check: on success the
message is enqueued and every waiting `Select` call is told it is ready. -/
def Channel.writeAfterCheck (c : Channel α) (t : α) : StatusOr Unit → Pass α
  | .ok () =>
      let cleared := { c with queue := c.queue ++ [t] }.clearSelectList true
      ⟨.status (.ok ()), cleared.1, cleared.2⟩
  | .error e => ⟨.status (.error e), c, []⟩

/-- `Write`, one pass. -/
def Channel.write (c : Channel α) (t : α) (expired : Bool) : Pass α :=
  match c.checkWriteStateAndBlock expired with
  | some status => c.writeAfterCheck t status
  | none => ⟨.waits, c, []⟩

/-- `TryWrite`. -/
def Channel.tryWrite (c : Channel α) (t : α) : Pass α :=
  c.writeAfterCheck t c.checkWriteState

/-! ## Reads and `Close` -/

/-- `Read`, one pass: a closed channel is cancelled even with messages
queued. -/
def Channel.read (c : Channel α) (expired : Bool) : Pass α :=
  if c.closed then ⟨.read (.error channelClosed), c, []⟩
  else match c.queue with
    | t :: rest => ⟨.read (.ok t), { c with queue := rest }, []⟩
    | [] =>
        if expired then
          ⟨.read (.error ⟨.errEntryNotFound,
            "Read did not succeed within timeout due to empty Channel."⟩), c, []⟩
        else ⟨.waits, c, []⟩

/-- `TryRead`. -/
def Channel.tryRead (c : Channel α) : Pass α :=
  if c.closed then ⟨.read (.error channelClosed), c, []⟩
  else match c.queue with
    | t :: rest => ⟨.read (.ok t), { c with queue := rest }, []⟩
    | [] => ⟨.read (.error ⟨.errEntryNotFound, "Channel is empty."⟩), c, []⟩

/-- `ReadAll`. -/
def Channel.readAll (c : Channel α) : Pass α :=
  if c.closed then ⟨.readAll (.error channelClosed), c, []⟩
  else ⟨.readAll (.ok c.queue), { c with queue := [] }, []⟩

/-- `Close`: every waiting `Select` call is told it is not ready. -/
def Channel.close (c : Channel α) : Pass α :=
  if c.closed then ⟨.close false, c, []⟩
  else
    let cleared := { c with closed := true }.clearSelectList false
    ⟨.close true, cleared.1, cleared.2⟩

/-- One pass of a call. -/
def Channel.call (c : Channel α) : Call α → Pass α
  | .write t expired => c.write t expired
  | .tryWrite t => c.tryWrite t
  | .read expired => c.read expired
  | .tryRead => c.tryRead
  | .readAll => c.readAll
  | .close => c.close

/-- One pass as a step of a run: its reply and the channel after it. -/
def Channel.step (c : Channel α) (call : Call α) : Reply α × Channel α :=
  ((c.call call).reply, (c.call call).channel)

/-- `SelectRegister`, given the `done` flag of the registering call: the
channel after it, and whether it found a message, in which case the caller's
ready flag and `done` are set. An empty open channel keeps a copy of the
call's `SelectData` unless the call is done. The list's entries pair it with
a `bool`, so the `bool*` to the caller's flag is converted: the entry holds
`true`, not the flag's address. -/
def Channel.selectRegister (c : Channel α) (selectId : SelectId) (done : Bool) :
    Channel α × Bool :=
  if c.closed then (c, false)
  else if c.queue.isEmpty then
    (if !done then { c with selectList := c.selectList ++ [(selectId, true)] } else c, false)
  else (c, true)

/-! ## What one pass does -/

/-- The messages a reply says were accepted. -/
def accepted : Call α × Reply α → List α
  | (.write t _, .status (.ok ())) => [t]
  | (.tryWrite t, .status (.ok ())) => [t]
  | _ => []

/-- The messages a reply delivers. -/
def delivered : Call α × Reply α → List α
  | (_, .read (.ok t)) => [t]
  | (_, .readAll (.ok ts)) => ts
  | _ => []

/-- Whether a reply reports success. -/
def Reply.succeeded : Reply α → Bool
  | .status (.ok ()) => true
  | .read (.ok _) => true
  | .readAll (.ok _) => true
  | .close closed => closed
  | _ => false

theorem accepted_eq_nil {call : Call α} {reply : Reply α} (h : reply.succeeded = false) :
    accepted (call, reply) = [] := by
  cases reply with
  | status status =>
      -- only an OK status accepts, and it succeeded
      cases status with
      | ok u => simp [Reply.succeeded] at h
      | error e => cases call <;> rfl
  | read _ | readAll _ | close _ | waits => cases call <;> rfl

theorem delivered_eq_nil {call : Call α} {reply : Reply α} (h : reply.succeeded = false) :
    delivered (call, reply) = [] := by
  cases reply with
  | read result => cases result <;> simp_all [delivered, Reply.succeeded]
  | readAll result => cases result <;> simp_all [delivered, Reply.succeeded]
  | status _ | close _ | waits => rfl

/-- Everything one pass of a call can do: accept a write into an open
channel below its depth, deliver from the front of an open channel, close an
open channel, or fail and change nothing. -/
inductive PassSpec (c : Channel α) : Call α → Pass α → Prop
  | write (t : α) (expired : Bool) (notified : List (SelectId × Bool))
      (hopen : c.closed = false) (hroom : c.queue.length < c.maxDepth) :
      PassSpec c (.write t expired)
        ⟨.status (.ok ()), { c with queue := c.queue ++ [t], selectList := [] }, notified⟩
  | tryWrite (t : α) (notified : List (SelectId × Bool))
      (hopen : c.closed = false) (hroom : c.queue.length < c.maxDepth) :
      PassSpec c (.tryWrite t)
        ⟨.status (.ok ()), { c with queue := c.queue ++ [t], selectList := [] }, notified⟩
  | read (expired : Bool) (t : α) (rest : List α) (hopen : c.closed = false)
      (hqueue : c.queue = t :: rest) :
      PassSpec c (.read expired) ⟨.read (.ok t), { c with queue := rest }, []⟩
  | tryRead (t : α) (rest : List α) (hopen : c.closed = false) (hqueue : c.queue = t :: rest) :
      PassSpec c .tryRead ⟨.read (.ok t), { c with queue := rest }, []⟩
  | readAll (hopen : c.closed = false) :
      PassSpec c .readAll ⟨.readAll (.ok c.queue), { c with queue := [] }, []⟩
  | close (notified : List (SelectId × Bool)) (hopen : c.closed = false) :
      PassSpec c .close ⟨.close true, { c with closed := true, selectList := [] }, notified⟩
  | fail {call : Call α} {reply : Reply α} (hreply : reply.succeeded = false) :
      PassSpec c call ⟨reply, c, []⟩

theorem Channel.checkWriteState_ok {c : Channel α} (h : c.checkWriteState = .ok ()) :
    c.closed = false ∧ c.queue.length < c.maxDepth := by
  unfold Channel.checkWriteState at h
  split_ifs at h with hclosed hfull hover
  constructor
  · simpa using hclosed
  · omega

theorem Channel.checkWriteStateAndBlock_ok {c : Channel α} {expired : Bool}
    (h : c.checkWriteStateAndBlock expired = some (.ok ())) :
    c.closed = false ∧ c.queue.length < c.maxDepth := by
  unfold Channel.checkWriteStateAndBlock at h
  split_ifs at h with hclosed hfull hexpired hover <;> simp at h
  constructor
  · simpa using hclosed
  · omega

/-- A pass that fails on a closed channel, and otherwise does as `PassSpec`
allows. -/
theorem PassSpec.ite_closed {c : Channel α} {call : Call α} {reply : Reply α} {p : Pass α}
    (hreply : reply.succeeded = false) (hopen : c.closed = false → PassSpec c call p) :
    PassSpec c call (if c.closed then ⟨reply, c, []⟩ else p) := by
  by_cases hclosed : c.closed = true
  · rw [if_pos hclosed]
    exact .fail hreply
  · rw [if_neg hclosed]
    exact hopen (by simpa using hclosed)

theorem Channel.passSpec_write (c : Channel α) (t : α) (expired : Bool) :
    PassSpec c (.write t expired) (c.write t expired) := by
  unfold Channel.write
  cases hcheck : c.checkWriteStateAndBlock expired with
  | none => exact .fail rfl
  | some status =>
      cases status with
      | ok u =>
          obtain ⟨hopen, hroom⟩ := Channel.checkWriteStateAndBlock_ok hcheck
          exact .write t expired _ hopen hroom
      | error e => exact .fail rfl

theorem Channel.passSpec_tryWrite (c : Channel α) (t : α) :
    PassSpec c (.tryWrite t) (c.tryWrite t) := by
  unfold Channel.tryWrite
  cases hcheck : c.checkWriteState with
  | ok u =>
      obtain ⟨hopen, hroom⟩ := Channel.checkWriteState_ok hcheck
      exact .tryWrite t _ hopen hroom
  | error e => exact .fail rfl

theorem Channel.passSpec_read (c : Channel α) (expired : Bool) :
    PassSpec c (.read expired) (c.read expired) := by
  unfold Channel.read
  refine PassSpec.ite_closed rfl fun hopen => ?_
  cases hqueue : c.queue with
  | cons t rest => exact .read expired t rest hopen hqueue
  | nil => cases expired <;> exact .fail rfl

theorem Channel.passSpec_tryRead (c : Channel α) : PassSpec c .tryRead c.tryRead := by
  unfold Channel.tryRead
  refine PassSpec.ite_closed rfl fun hopen => ?_
  cases hqueue : c.queue with
  | cons t rest => exact .tryRead t rest hopen hqueue
  | nil => exact .fail rfl

/-- Every pass of every call is one of the cases of `PassSpec`. -/
theorem Channel.passSpec_call (c : Channel α) : ∀ call, PassSpec c call (c.call call)
  | .write t expired => c.passSpec_write t expired
  | .tryWrite t => c.passSpec_tryWrite t
  | .read expired => c.passSpec_read expired
  | .tryRead => c.passSpec_tryRead
  | .readAll => PassSpec.ite_closed rfl .readAll
  | .close => PassSpec.ite_closed rfl (.close _)

section PassSpec

variable {c : Channel α} {call : Call α} {p : Pass α}

theorem PassSpec.maxDepth (h : PassSpec c call p) : p.channel.maxDepth = c.maxDepth := by
  cases h <;> rfl

/-- A pass takes what it accepts at the back of the queue and what it
delivers from the front. -/
theorem PassSpec.conserves (h : PassSpec c call p) :
    c.queue ++ accepted (call, p.reply) = delivered (call, p.reply) ++ p.channel.queue := by
  cases h with
  | write | tryWrite => simp [accepted, delivered]
  | read _ t rest _ hqueue | tryRead t rest _ hqueue => simp [accepted, delivered, hqueue]
  | readAll | close => simp [accepted, delivered]
  | fail hreply => rw [accepted_eq_nil hreply, delivered_eq_nil hreply, List.append_nil,
      List.nil_append]

/-- No pass takes the queue past `max_depth_`. -/
theorem PassSpec.depth (h : PassSpec c call p) (hdepth : c.queue.length ≤ c.maxDepth) :
    p.channel.queue.length ≤ p.channel.maxDepth := by
  cases h with
  | write _ _ _ _ hroom | tryWrite _ _ _ hroom =>
      show (c.queue ++ _).length ≤ c.maxDepth
      rw [List.length_append, List.length_singleton]
      omega
  | read _ t rest _ hqueue | tryRead t rest _ hqueue =>
      show rest.length ≤ c.maxDepth
      rw [hqueue, List.length_cons] at hdepth
      omega
  | readAll =>
      show 0 ≤ c.maxDepth
      omega
  | close | fail => exact hdepth

/-- Only an open channel below its depth accepts a message. -/
theorem PassSpec.accepted_ne_nil (h : PassSpec c call p) (hacc : accepted (call, p.reply) ≠ []) :
    c.closed = false ∧ c.queue.length < c.maxDepth := by
  cases h with
  | write _ _ _ hopen hroom | tryWrite _ _ hopen hroom => exact ⟨hopen, hroom⟩
  | read | tryRead | readAll | close => exact absurd rfl hacc
  | fail hreply => exact absurd (accepted_eq_nil hreply) hacc

/-- A closed channel stays closed, and no call on it succeeds. -/
theorem PassSpec.of_closed (h : PassSpec c call p) (hclosed : c.closed = true) :
    p.channel.closed = true ∧ p.reply.succeeded = false := by
  cases h with
  | write _ _ _ hopen | tryWrite _ _ hopen | read _ _ _ hopen | tryRead _ _ hopen
    | readAll hopen | close _ hopen =>
      rw [hclosed] at hopen
      cases hopen
  | fail hreply => exact ⟨hclosed, hreply⟩

end PassSpec

/-- After `Close` the channel is closed, whether or not it was before. -/
theorem Channel.closed_close (c : Channel α) : (c.call .close).channel.closed = true := by
  unfold Channel.call Channel.close
  cases hclosed : c.closed with
  | true => exact hclosed
  | false => rfl

end Stratum.Lib.Channel.Basic
