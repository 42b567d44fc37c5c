import Mathlib.Algebra.GroupWithZero.Nat
import Stratum.Lib.Channel.Basic

/-!
# `Select`

`stratum/lib/channel/channel.cc` waits on several channels at once. A
`Select` call makes a `SelectData` (`done`, a lock and a condition variable)
and a map of ready flags, one per channel. It registers on each channel in
turn (`SelectRegister`), then waits under the `SelectData` lock until `done`
is set, all its registrations are gone (`use_count() == 1`: cancelled), or
its deadline passes.

The model is the system of one `Select` call and the channels it selects on,
interleaved with the calls other threads make on those channels. Each
section under a lock is one step: a call's pass under `queue_lock_`
(`Stratum.Lib.Channel.Basic`), one registration, and one check of `done`
by the `Select` call, the first before any wait and each later one when the
call is woken.

A channel reaches the call in two ways: `SelectRegister` finds a message and
sets the caller's flag and `done` itself; or it files a copy of the
`SelectData` in its `select_list_`, and a later `Write` or `Close` sets
`done` through `ClearSelectList`. The list keeps a `bool` with each copy, not
the flag's address, so that second way never sets a ready flag.

Main results:

* `select_ok_without_ready` — a `Select` on one empty channel that a write
  fills while it waits returns OK with no channel marked ready;
* `select_cancelled_with_open_channel` — a `Select` on two channels returns
  `ERR_CANCELLED` when one is written to and then the other closed, although
  the first is open and holds the message.
-/

namespace Stratum.Lib.Channel.Select

open Stratum.Ports.Status Stratum.Lib.Channel.Basic

/-- `SelectResult`: the map of ready flags, by channel. -/
structure SelectResult where
  readyFlags : Nat → Option Bool

/-- `SelectResult::operator()`: a channel's flag, `false` for a channel not
in the map. -/
def SelectResult.get (result : SelectResult) (channel : Nat) : Bool :=
  (result.readyFlags channel).getD false

/-- Where the `Select` call is. -/
inductive Phase
  /-- Registering on the channels still to go, in order. -/
  | registering (pending : List Nat)
  /-- Waiting on its condition variable. -/
  | waiting
  | returned (result : StatusOr SelectResult)

/-- The channels, by index, the `done` flag of every `SelectData`, and the
modelled `Select` call: its `SelectData`, its ready flags and its phase. -/
structure World (α : Type) where
  channels : List (Channel α)
  done : SelectId → Bool
  selectId : SelectId
  readyFlags : Nat → Option Bool
  phase : Phase

/-- A step of the system: a pass of another thread's call on a channel, or
a step of the `Select` call. -/
inductive Event (α : Type)
  | call (channel : Nat) (call : Call α)
  /-- The `Select` call registers on its next channel. -/
  | register
  /-- The `Select` call checks `done`: the first time, and each time it is
  woken, with whether its deadline has passed. -/
  | check (expired : Bool)

variable {α : Type}

/-- A `Select` call on the channels `channelIds` begins: a new `SelectData`,
not done, and no ready flags. -/
def World.select (channels : List (Channel α)) (done : SelectId → Bool) (selectId : SelectId)
    (channelIds : List Nat) : World α :=
  ⟨channels, Function.update done selectId false, selectId, fun _ => none,
    .registering channelIds⟩

/-- `ClearSelectList`'s effect on the `SelectData`s it notified. -/
def notify (done : SelectId → Bool) (notified : List (SelectId × Bool)) : SelectId → Bool :=
  notified.foldl (fun done entry => Function.update done entry.1 entry.2) done

/-- `select_data.use_count()`: the call's own pointer and every copy in a
`select_list_`. -/
def World.useCount (w : World α) : Nat :=
  1 + (w.channels.map fun c => c.selectList.countP (·.1 == w.selectId)).sum

/-- A pass of another thread's call on channel `i`. -/
def World.channelCall (w : World α) (i : Nat) (call : Call α) : World α :=
  match w.channels[i]? with
  | some c =>
      let pass := c.call call
      { w with channels := w.channels.set i pass.channel, done := notify w.done pass.notified }
  | none => w

/-- The loop body of `Select` over its channels: the flag of channel `i` is
put in the map as `false`, and `SelectRegister` runs with the flag's
address. -/
def World.register (w : World α) (i : Nat) (rest : List Nat) : World α :=
  let flags := Function.update w.readyFlags i (some false)
  match w.channels[i]? with
  | some c =>
      let registered := c.selectRegister w.selectId (w.done w.selectId)
      { w with
        channels := w.channels.set i registered.1
        readyFlags := if registered.2 then Function.update flags i (some true) else flags
        done := if registered.2 then Function.update w.done w.selectId true else w.done
        phase := .registering rest }
  | none => { w with readyFlags := flags, phase := .registering rest }

/-- One check of `done` under the `SelectData` lock: OK once done, not
found once the deadline passed, cancelled when no channel holds a copy of
the `SelectData`, and otherwise another wait. -/
def World.check (w : World α) (expired : Bool) : World α :=
  if w.done w.selectId then { w with phase := .returned (.ok ⟨w.readyFlags⟩) }
  else if expired then
    { w with phase := .returned (.error ⟨.errEntryNotFound,
        "Read did not succeed within timeout due to empty Channel(s)."⟩) }
  else if w.useCount = 1 then
    { w with phase := .returned (.error ⟨.errCancelled, "All Channels have been closed."⟩) }
  else { w with phase := .waiting }

/-- One step of the system. The first check comes before any wait, so no
deadline has passed at it. -/
def World.step (w : World α) : Event α → World α
  | .call i call => w.channelCall i call
  | .register =>
      match w.phase with
      | .registering (i :: rest) => w.register i rest
      | _ => w
  | .check expired =>
      match w.phase with
      | .registering [] => w.check false
      | .waiting => w.check expired
      | _ => w

/-- A run of the system. -/
def World.run (w : World α) (events : List (Event α)) : World α :=
  events.foldl World.step w

/-! ## Two runs that break the contract of `Select` -/

/-- A channel of depth one holding `queue`, open, with no `Select` call
filed. -/
def oneDeep (queue : List Nat) : Channel Nat := ⟨queue, false, [], 1⟩

/-- A `Select` call on one empty channel registers and waits; a write fills
the channel, and the call returns OK with the channel's flag still `false`,
so the result marks no channel ready. -/
theorem select_ok_without_ready :
    ∃ result,
      ((World.select [oneDeep []] (fun _ => false) 0 [0]).run
          [.register, .check false, .call 0 (.write 7 false), .check false]).phase =
        .returned (.ok result) ∧
      ((World.select [oneDeep []] (fun _ => false) 0 [0]).run
          [.register, .check false, .call 0 (.write 7 false), .check false]).channels =
        [oneDeep [7]] ∧
      ∀ channel, result.get channel = false := by
  refine ⟨⟨Function.update (fun _ => none) 0 (some false)⟩, rfl, rfl, ?_⟩
  intro channel
  by_cases hzero : channel = 0
  · rw [hzero]
    rfl
  · simp [SelectResult.get, Function.update, hzero]

/-- A `Select` call on two empty channels registers on both and waits; a
write fills the first, a `Close` of the second sets `done` back to `false`,
and the call, woken with no copy of its `SelectData` left, returns
`ERR_CANCELLED` although the first channel is open and holds the message. -/
theorem select_cancelled_with_open_channel :
    ((World.select [oneDeep [], oneDeep []] (fun _ => false) 0 [0, 1]).run
        [.register, .register, .check false, .call 0 (.write 7 false), .call 1 .close,
          .check false]).phase =
      .returned (.error ⟨.errCancelled, "All Channels have been closed."⟩) ∧
    ((World.select [oneDeep [], oneDeep []] (fun _ => false) 0 [0, 1]).run
        [.register, .register, .check false, .call 0 (.write 7 false), .call 1 .close,
          .check false]).channels = [oneDeep [7], ⟨[], true, [], 1⟩] :=
  ⟨rfl, rfl⟩

end Stratum.Lib.Channel.Select
