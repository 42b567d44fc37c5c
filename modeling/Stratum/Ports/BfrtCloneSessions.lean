import Stratum.Ports.BfrtPreManager
import Stratum.Verified.Run

/-!
# The clone sessions of `BfrtPreManager`

`WritePreEntry` hands a clone session, its egress port translated to the SDK,
to `BfrtPreManager::WriteCloneSessionEntry`, which checks it and writes it to
the SDE's mirror table `$mirror.cfg` through `BfSdeWrapper::InsertCloneSession`
or `ModifyCloneSession`, or deletes it there. `ReadCloneSessionEntry` reads one
session, or every session for the wildcard ID `0`, through
`GetCloneSessions`, and translates each port back.

The mirror table is an `SdeTable` keyed by `$sid`, a state of its own beside
the two PRE tables of `Pre`. The SDE's field widths are not modelled: a field
holds the value it was set to. The session's integers pass through `int` and
`uint64` on the way to the SDE and back, which keeps every 32-bit value, so
they are kept as the numbers of the request.

An insert and a modify check the same fields, but for the class of service,
which only an insert bounds.

Main results:

* `clone_sessions_stay_written` — over every run of writes, successful or
  not, every session of the table has a valid ID, is enabled, leaves by a
  valid non-zero port on queue 0, and has a packet length the check allows;
  so the RET_CHECKs of `GetCloneSessions` never fail;
* `clone_session_lifecycle` — an insert of a session reads back as itself, a
  modify of it reads back as the new entry, and after a delete the read fails
  with `BF_OBJECT_NOT_FOUND`.
-/

namespace Stratum.Ports.BfrtPreManager

open Stratum.Verified.StateSpec Stratum.Verified.Run Stratum.Verified.Trace
open Stratum.Ports.Status Stratum.Ports.P4Runtime Stratum.Ports.BfrtP4RuntimeTranslator

/-- `kMaxCloneSessionId` of `bfrt_constants.h`. -/
def kMaxCloneSessionId : Nat := 1015

/-- The data of an entry of `$mirror.cfg` under its `$normal` action. -/
structure MirrorSession where
  direction : String
  sessionEnable : Bool
  ucastEgressPort : Nat
  ucastEgressPortValid : Bool
  egressPortQueue : Nat
  ingressCos : Nat
  maxPktLen : Int
  deriving DecidableEq, Repr

/-- A sequence of SDE calls on `$mirror.cfg`. -/
abbrev MirrorOp := EStateM UtilError (SdeTable MirrorSession)

/-! ## The clone-session calls of `BfSdeWrapper` -/

/-- The data `WriteCloneSession` sets. -/
def mirrorSessionData (egressPort egressQueue cos : Nat) (maxPktLen : Int) : MirrorSession :=
  ⟨"BOTH", true, egressPort, true, egressQueue, cos, maxPktLen⟩

/-- `WriteCloneSession`: `tableEntryAdd` on an insert, `tableEntryMod`
otherwise. -/
def writeCloneSession (sessionId egressPort egressQueue cos : Nat) (maxPktLen : Int)
    (insert : Bool) : MirrorOp Unit := do
  let table ← get
  let tableData := mirrorSessionData egressPort egressQueue cos maxPktLen
  let table ← liftExcept (returnIfBfrtError
    (if insert then table.entryAdd sessionId tableData else table.entryMod sessionId tableData))
  set table

/-- `InsertCloneSession`. -/
def insertCloneSession (sessionId egressPort egressQueue cos : Nat) (maxPktLen : Int) :
    MirrorOp Unit :=
  writeCloneSession sessionId egressPort egressQueue cos maxPktLen true

/-- `ModifyCloneSession`. -/
def modifyCloneSession (sessionId egressPort egressQueue cos : Nat) (maxPktLen : Int) :
    MirrorOp Unit :=
  writeCloneSession sessionId egressPort egressQueue cos maxPktLen false

/-- `DeleteCloneSession`. -/
def deleteCloneSession (sessionId : Nat) : MirrorOp Unit := do
  let table ← get
  let table ← liftExcept (returnIfBfrtError (table.entryDel sessionId))
  set table

/-- The four vectors `GetCloneSessions` fills. -/
structure CloneSessions where
  sessionIds : List Nat
  egressPorts : List Nat
  coss : List Nat
  maxPktLens : List Int
  deriving DecidableEq, Repr

/-- The `push_back`s of one session onto the four vectors. -/
def CloneSessions.push (sessions : CloneSessions) (entry : Nat × MirrorSession) : CloneSessions :=
  ⟨sessions.sessionIds ++ [entry.1], sessions.egressPorts ++ [entry.2.ucastEgressPort],
    sessions.coss ++ [entry.2.ingressCos], sessions.maxPktLens ++ [entry.2.maxPktLen]⟩

/-- One pass of the loop of `GetCloneSessions` over the keys and data read. -/
def getCloneSessionsStep (sessions : CloneSessions) (entry : Nat × MirrorSession) :
    StatusOr CloneSessions := do
  retCheck entry.2.sessionEnable "Found a session that is not enabled."
  retCheck entry.2.ucastEgressPortValid "Found a unicase egress port that is not set valid."
  pure (sessions.push entry)

/-- `GetCloneSessions`: the session asked for, or every session for the
wildcard ID `0`. -/
def getCloneSessions (table : SdeTable MirrorSession) (sessionId : Nat) :
    StatusOr CloneSessions := do
  let entries ← if sessionId ≠ 0 then do
      let tableData ← returnIfBfrtError (table.entryGet sessionId)
      pure [(sessionId, tableData)]
    else pure table.allEntries
  entries.foldlM getCloneSessionsStep ⟨[], [], [], []⟩

/-! ## `BfrtPreManager` -/

/-- `WriteCloneSessionEntry`. The debug dumps of the entry in its messages are
left out. -/
def writeCloneSessionEntry (type : UpdateType) (entry : CloneSessionEntry) : MirrorOp Unit := do
  liftExcept (retCheck (entry.sessionId != 0 && decide (entry.sessionId ≤ kMaxCloneSessionId))
    "Invalid session id in CloneSessionEntry .")
  liftExcept (retCheck (decide (entry.packetLengthBytes ≤ uint16Max))
    "Packet length exceeds maximum value: .")
  match type with
  | .insert => do
      liftExcept (retCheck (entry.replicas.length == 1) "Multiple replicas are not supported: .")
      liftExcept (retCheck (decide (entry.classOfService < 8))
        "Class of service must be smaller than 8: .")
      let replica := entry.replicas.headD ⟨0, 0⟩
      liftExcept (retCheck (replica.egressPort != 0) "Invalid egress port in Replica .")
      liftExcept (retCheck (replica.instance == 0) "Instances on Replicas are not supported: .")
      insertCloneSession entry.sessionId replica.egressPort 0 entry.classOfService
        entry.packetLengthBytes
  | .modify => do
      liftExcept (retCheck (entry.replicas.length == 1) "Multiple replicas are not supported: .")
      let replica := entry.replicas.headD ⟨0, 0⟩
      liftExcept (retCheck (replica.egressPort != 0) "Invalid egress port in Replica .")
      liftExcept (retCheck (replica.instance == 0) "Instances on Replicas are not supported: .")
      modifyCloneSession entry.sessionId replica.egressPort 0 entry.classOfService
        entry.packetLengthBytes
  | .delete => deleteCloneSession entry.sessionId
  | .unspecified => throw ⟨.errUnimplemented, "Unsupported update type: 0 on CloneSessionEntry ."⟩

section Read

variable (tr : Translator) (writer : ReadResponse → Bool)

/-- The entity `ReadCloneSessionEntry` builds for one session: one replica of
instance 0 on its port, translated back. -/
def readSession (sessionId egressPort cos : Nat) (maxPktLen : Int) : StatusOr Entity := do
  let result : CloneSessionEntry := ⟨sessionId, [⟨egressPort, 0⟩], cos, maxPktLen⟩
  let translated ← translatePacketReplicationEngineEntry tr (.cloneSessionEntry result) false
  pure (.packetReplicationEngineEntry translated)

/-- `ReadCloneSessionEntry`: the response handed to the writer, one entity per
session. -/
def readCloneSessionEntry (table : SdeTable MirrorSession) (entry : CloneSessionEntry) :
    StatusOr ReadResponse := do
  let sessions ← getCloneSessions table entry.sessionId
  retCheck (sessions.sessionIds.length == sessions.egressPorts.length) ""
  retCheck (sessions.sessionIds.length == sessions.coss.length) ""
  retCheck (sessions.sessionIds.length == sessions.maxPktLens.length) ""
  let entities ← (sessions.sessionIds.zip
      (sessions.egressPorts.zip (sessions.coss.zip sessions.maxPktLens))).mapM fun session =>
    readSession tr session.1 session.2.1 session.2.2.1 session.2.2.2
  let resp : ReadResponse := ⟨entities⟩
  if writer resp then .ok resp else .error ⟨.errInternal, "Write to stream for failed."⟩

end Read

/-- A write of a clone session as a call of a run: its status, and the table
it leaves whether it fails or not. -/
def cloneSessionStep (table : SdeTable MirrorSession) (write : UpdateType × CloneSessionEntry) :
    StatusOr Unit × SdeTable MirrorSession :=
  match (writeCloneSessionEntry write.1 write.2).run table with
  | .ok () table' => (.ok (), table')
  | .error e table' => (.error e, table')

/-! ## The mirror table -/

namespace SdeTable

variable {β : Type} {t t' : SdeTable β} {k : Nat} {v : β}

/-- A successful `tableEntryAdd` or `tableEntryMod` writes the entry. -/
theorem eq_insert_of_write_eq_ok {insert : Bool}
    (h : (if insert then t.entryAdd k v else t.entryMod k v) = .ok t') :
    t' = { t with entries := t.entries.insert k v } := by
  cases insert
  · simp only [Bool.false_eq_true, if_false, entryMod] at h
    split at h <;> simp_all
  · simp only [if_true, entryAdd] at h
    split at h
    · cases h
    · split at h <;> simp_all

theorem eq_erase_of_entryDel_eq_ok (h : t.entryDel k = .ok t') :
    t' = { t with entries := t.entries.erase k } := by
  unfold entryDel at h
  split at h <;> simp_all

end SdeTable

/-- A session as `WriteCloneSessionEntry` writes it: an ID in range, mirrored
in both directions, enabled, to a valid non-zero unicast port on queue 0,
with a packet length within 16 bits. -/
structure SessionWritten (sessionId : Nat) (tableData : MirrorSession) : Prop where
  sessionId_ne : sessionId ≠ 0
  sessionId_le : sessionId ≤ kMaxCloneSessionId
  direction : tableData.direction = "BOTH"
  enabled : tableData.sessionEnable = true
  portValid : tableData.ucastEgressPortValid = true
  port_ne : tableData.ucastEgressPort ≠ 0
  queue : tableData.egressPortQueue = 0
  maxPktLen_le : tableData.maxPktLen ≤ uint16Max

/-- Every session of the table is one `WriteCloneSessionEntry` wrote. -/
def SessionsWritten (table : SdeTable MirrorSession) : Prop :=
  ∀ sessionId tableData, table.entries.lookup sessionId = some tableData →
    SessionWritten sessionId tableData

theorem sessionsWritten_empty (size : Nat) : SessionsWritten ⟨∅, size⟩ := by
  intro sessionId tableData h
  cases h

theorem SessionsWritten.insert {table : SdeTable MirrorSession} (h : SessionsWritten table)
    {sessionId : Nat} {tableData : MirrorSession} (hwritten : SessionWritten sessionId tableData) :
    SessionsWritten { table with entries := table.entries.insert sessionId tableData } := by
  intro sessionId' tableData' hlookup
  by_cases hsame : sessionId' = sessionId
  · subst hsame
    rw [AList.lookup_insert, Option.some.injEq] at hlookup
    exact hlookup ▸ hwritten
  · rw [AList.lookup_insert_ne hsame] at hlookup
    exact h sessionId' tableData' hlookup

theorem SessionsWritten.erase {table : SdeTable MirrorSession} (h : SessionsWritten table)
    (sessionId : Nat) : SessionsWritten { table with entries := table.entries.erase sessionId } := by
  intro sessionId' tableData' hlookup
  by_cases hsame : sessionId' = sessionId
  · subst hsame
    rw [AList.lookup_erase] at hlookup
    cases hlookup
  · rw [AList.lookup_erase_ne hsame] at hlookup
    exact h sessionId' tableData' hlookup

/-! ## Writing a session -/

/-- A clone session request that `WriteCloneSessionEntry` accepts, the class
of service aside: an ID in range, a packet length within 16 bits, and one
replica, of instance 0, on a non-zero port. -/
structure SessionRequest (entry : CloneSessionEntry) (replica : Replica) : Prop where
  sessionId_ne : entry.sessionId ≠ 0
  sessionId_le : entry.sessionId ≤ kMaxCloneSessionId
  packetLength_le : entry.packetLengthBytes ≤ uint16Max
  replicas : entry.replicas = [replica]
  port_ne : replica.egressPort ≠ 0
  instance_eq : replica.instance = 0

theorem SessionRequest.written {entry : CloneSessionEntry} {replica : Replica}
    (h : SessionRequest entry replica) :
    SessionWritten entry.sessionId
      (mirrorSessionData replica.egressPort 0 entry.classOfService entry.packetLengthBytes) :=
  ⟨h.sessionId_ne, h.sessionId_le, rfl, rfl, rfl, h.port_ne, rfl, h.packetLength_le⟩

theorem wp_writeCloneSession {post : Unit → SdeTable MirrorSession → Prop}
    {fail : SdeTable MirrorSession → Prop} {table : SdeTable MirrorSession}
    (sessionId egressPort egressQueue cos : Nat) (maxPktLen : Int) (insert : Bool) :
    wp (writeCloneSession sessionId egressPort egressQueue cos maxPktLen insert) post fail table ↔
      match (if insert then
          table.entryAdd sessionId (mirrorSessionData egressPort egressQueue cos maxPktLen)
        else table.entryMod sessionId (mirrorSessionData egressPort egressQueue cos maxPktLen)) with
      | .ok table' => post () table'
      | .error _ => fail table := by
  simp only [writeCloneSession, wp_bind, wp_get, wp_liftExcept, returnIfBfrtError]
  cases (if insert then
      table.entryAdd sessionId (mirrorSessionData egressPort egressQueue cos maxPktLen)
    else table.entryMod sessionId (mirrorSessionData egressPort egressQueue cos maxPktLen)) <;> rfl

theorem wp_deleteCloneSession {post : Unit → SdeTable MirrorSession → Prop}
    {fail : SdeTable MirrorSession → Prop} {table : SdeTable MirrorSession} (sessionId : Nat) :
    wp (deleteCloneSession sessionId) post fail table ↔
      match table.entryDel sessionId with
      | .ok table' => post () table'
      | .error _ => fail table := by
  simp only [deleteCloneSession, wp_bind, wp_get, wp_liftExcept, returnIfBfrtError]
  cases table.entryDel sessionId <;> rfl

/-- A RET_CHECK before a program: its failure throws in place. -/
theorem wp_liftExcept_retCheck_bind {σ β : Type} {post : β → σ → Prop} {fail : σ → Prop} {s : σ}
    {condition : Bool} {message : String} {f : Unit → EStateM UtilError σ β} (hfail : fail s)
    (hpass : condition = true → wp (f ()) post fail s) :
    wp (liftExcept (retCheck condition message) >>= f) post fail s := by
  cases condition with
  | false => exact hfail
  | true => exact hpass rfl

theorem wp_liftExcept_retCheck_pass {σ β : Type} {post : β → σ → Prop} {fail : σ → Prop} {s : σ}
    {condition : Bool} {message : String} {f : Unit → EStateM UtilError σ β}
    (hcondition : condition = true) (hpass : wp (f ()) post fail s) :
    wp (liftExcept (retCheck condition message) >>= f) post fail s := by
  subst hcondition
  exact hpass

/-- Every write, whether it returns or throws, leaves a table of written
sessions: a session it writes has passed the checks. -/
theorem wp_writeCloneSessionEntry_sessionsWritten {table : SdeTable MirrorSession}
    (h : SessionsWritten table) (type : UpdateType) (entry : CloneSessionEntry) :
    wp (writeCloneSessionEntry type entry) (fun _ => SessionsWritten) SessionsWritten table := by
  -- the SDE call of an insert or a modify writes the checked session, or fails in place
  have hwrite : ∀ (insert : Bool), entry.replicas.length = 1 →
      (entry.replicas.headD ⟨0, 0⟩).egressPort ≠ 0 → (entry.replicas.headD ⟨0, 0⟩).instance = 0 →
      entry.sessionId ≠ 0 → entry.sessionId ≤ kMaxCloneSessionId →
      entry.packetLengthBytes ≤ uint16Max →
      wp (writeCloneSession entry.sessionId (entry.replicas.headD ⟨0, 0⟩).egressPort 0
        entry.classOfService entry.packetLengthBytes insert)
        (fun _ => SessionsWritten) SessionsWritten table := by
    intro insert hone hport hinstance hid hidle hlength
    obtain ⟨replica, hreplicas⟩ := List.length_eq_one_iff.mp hone
    rw [hreplicas] at hport hinstance ⊢
    rw [wp_writeCloneSession]
    split
    · next table' hok =>
      rw [SdeTable.eq_insert_of_write_eq_ok hok]
      exact h.insert (SessionRequest.written ⟨hid, hidle, hlength, hreplicas, hport, hinstance⟩)
    · exact h
  unfold writeCloneSessionEntry
  refine wp_liftExcept_retCheck_bind h fun hid => ?_
  refine wp_liftExcept_retCheck_bind h fun hlength => ?_
  simp only [Bool.and_eq_true, bne_iff_ne, decide_eq_true_eq] at hid hlength
  cases type with
  | insert =>
    refine wp_liftExcept_retCheck_bind h fun hone => ?_
    refine wp_liftExcept_retCheck_bind h fun _ => ?_
    refine wp_liftExcept_retCheck_bind h fun hport => ?_
    refine wp_liftExcept_retCheck_bind h fun hinstance => ?_
    exact hwrite true (by simpa using hone) (by simpa using hport) (by simpa using hinstance)
      hid.1 hid.2 hlength
  | modify =>
    refine wp_liftExcept_retCheck_bind h fun hone => ?_
    refine wp_liftExcept_retCheck_bind h fun hport => ?_
    refine wp_liftExcept_retCheck_bind h fun hinstance => ?_
    exact hwrite false (by simpa using hone) (by simpa using hport) (by simpa using hinstance)
      hid.1 hid.2 hlength
  | delete =>
    rw [wp_deleteCloneSession]
    split
    · next table' hok =>
      rw [SdeTable.eq_erase_of_entryDel_eq_ok hok]
      exact h.erase entry.sessionId
    · exact h
  | unspecified => exact h

theorem sessionsWritten_cloneSessionStep {table : SdeTable MirrorSession}
    (h : SessionsWritten table) (write : UpdateType × CloneSessionEntry) :
    SessionsWritten (cloneSessionStep table write).2 := by
  have hwp := wp_writeCloneSessionEntry_sessionsWritten h write.1 write.2
  unfold wp at hwp
  unfold cloneSessionStep
  cases hrun : (writeCloneSessionEntry write.1 write.2).run table with
  | ok u table' =>
    rw [hrun] at hwp
    exact hwp
  | error e table' =>
    rw [hrun] at hwp
    exact hwp

theorem getCloneSessionsStep_eq_ok {sessions r : CloneSessions} {entry : Nat × MirrorSession} :
    getCloneSessionsStep sessions entry = .ok r ↔
      (entry.2.sessionEnable = true ∧ entry.2.ucastEgressPortValid = true) ∧
        r = sessions.push entry := by
  cases henable : entry.2.sessionEnable <;> cases hvalid : entry.2.ucastEgressPortValid <;>
    simp [getCloneSessionsStep, retCheck, henable, hvalid, bind, Except.bind, pure, Except.pure,
      eq_comm]

/-- The loop of `GetCloneSessions` over enabled sessions with valid ports
pushes each of them. -/
theorem foldlM_getCloneSessionsStep (entries : List (Nat × MirrorSession))
    (hall : ∀ entry ∈ entries,
      entry.2.sessionEnable = true ∧ entry.2.ucastEgressPortValid = true) :
    ∀ sessions, entries.foldlM getCloneSessionsStep sessions =
      .ok (entries.foldl CloneSessions.push sessions) := by
  induction entries with
  | nil => intro sessions; rfl
  | cons entry rest ih =>
    intro sessions
    have hstep : getCloneSessionsStep sessions entry = .ok (sessions.push entry) :=
      getCloneSessionsStep_eq_ok.mpr ⟨hall entry List.mem_cons_self, rfl⟩
    rw [List.foldlM_cons, hstep, List.foldl_cons]
    exact ih (fun e he => hall e (List.mem_cons_of_mem _ he)) _

/-- The wildcard read of a table of written sessions passes the RET_CHECKs of
its loop and returns every session, in the table's order. -/
theorem getCloneSessions_wildcard {table : SdeTable MirrorSession} (h : SessionsWritten table) :
    getCloneSessions table 0 =
      .ok (table.allEntries.foldl CloneSessions.push ⟨[], [], [], []⟩) := by
  have hall : ∀ entry ∈ table.allEntries,
      entry.2.sessionEnable = true ∧ entry.2.ucastEgressPortValid = true := by
    intro entry hmem
    obtain ⟨e, he, rfl⟩ := List.mem_map.mp hmem
    have hwritten := h e.1 e.2 (AList.mem_lookup_iff.mpr he)
    exact ⟨hwritten.enabled, hwritten.portValid⟩
  simpa [getCloneSessions] using foldlM_getCloneSessionsStep table.allEntries hall ⟨[], [], [], []⟩

/-- Over every run of writes, successful or not, from a table of written
sessions (an empty one, say), every session of the table keeps an ID in
range, is enabled in both directions to a valid non-zero port on queue 0,
and has a packet length within 16 bits; and the wildcard read of
`GetCloneSessions` returns every session without failing a RET_CHECK. -/
theorem clone_sessions_stay_written (writes : List (UpdateType × CloneSessionEntry))
    {table : SdeTable MirrorSession} (h : SessionsWritten table) :
    SessionsWritten (final cloneSessionStep table writes) ∧
      getCloneSessions (final cloneSessionStep table writes) 0 =
        .ok ((final cloneSessionStep table writes).allEntries.foldl CloneSessions.push
          ⟨[], [], [], []⟩) := by
  have hfinal := final_invariant SessionsWritten
    (fun table write h => sessionsWritten_cloneSessionStep h write) writes table h
  exact ⟨hfinal, getCloneSessions_wildcard hfinal⟩

theorem clone_sessions_stay_written_insertModify :
    SessionsWritten ⟨∅, 16⟩ ∧
      SessionsWritten (final cloneSessionStep ⟨∅, 16⟩
        [(.insert, ⟨1, [⟨5, 0⟩], 3, 128⟩), (.modify, ⟨1, [⟨0, 0⟩], 3, 128⟩),
          (.insert, ⟨2, [⟨6, 0⟩], 1, 70000⟩)]) ∧
      getCloneSessions (final cloneSessionStep ⟨∅, 16⟩
          [(.insert, ⟨1, [⟨5, 0⟩], 3, 128⟩), (.modify, ⟨1, [⟨0, 0⟩], 3, 128⟩),
            (.insert, ⟨2, [⟨6, 0⟩], 1, 70000⟩)]) 0 =
        .ok ((final cloneSessionStep ⟨∅, 16⟩
          [(.insert, ⟨1, [⟨5, 0⟩], 3, 128⟩), (.modify, ⟨1, [⟨0, 0⟩], 3, 128⟩),
            (.insert, ⟨2, [⟨6, 0⟩], 1, 70000⟩)]).allEntries.foldl CloneSessions.push
          ⟨[], [], [], []⟩) :=
  ⟨sessionsWritten_empty 16, clone_sessions_stay_written _ (sessionsWritten_empty 16)⟩

/-! ## A session's lifecycle -/

section Lifecycle

variable {table : SdeTable MirrorSession} {entry : CloneSessionEntry} {replica : Replica}

/-- The data `WriteCloneSessionEntry` writes for a request. -/
def requestData (entry : CloneSessionEntry) (replica : Replica) : MirrorSession :=
  mirrorSessionData replica.egressPort 0 entry.classOfService entry.packetLengthBytes

theorem SessionRequest.checks (hrequest : SessionRequest entry replica) :
    (entry.sessionId != 0 && decide (entry.sessionId ≤ kMaxCloneSessionId)) = true ∧
      decide (entry.packetLengthBytes ≤ uint16Max) = true ∧ (entry.replicas.length == 1) = true ∧
      ((entry.replicas.headD ⟨0, 0⟩).egressPort != 0) = true ∧
      ((entry.replicas.headD ⟨0, 0⟩).instance == 0) = true := by
  simp [hrequest.sessionId_ne, hrequest.sessionId_le, hrequest.packetLength_le,
    hrequest.replicas, hrequest.port_ne, hrequest.instance_eq]

theorem wp_writeCloneSessionEntry_insert (hrequest : SessionRequest entry replica)
    (hcos : entry.classOfService < 8) (hnew : entry.sessionId ∉ table.entries)
    (hroom : table.usage < table.size) :
    wp (writeCloneSessionEntry .insert entry)
      (fun _ table' => table' =
        { table with entries := table.entries.insert entry.sessionId (requestData entry replica) })
      (fun _ => False) table := by
  obtain ⟨hid, hlength, hone, hport, hinstance⟩ := hrequest.checks
  unfold writeCloneSessionEntry
  refine wp_liftExcept_retCheck_pass hid (wp_liftExcept_retCheck_pass hlength ?_)
  refine wp_liftExcept_retCheck_pass hone (wp_liftExcept_retCheck_pass (decide_eq_true hcos) ?_)
  refine wp_liftExcept_retCheck_pass hport (wp_liftExcept_retCheck_pass hinstance ?_)
  rw [insertCloneSession, wp_writeCloneSession, if_pos rfl, SdeTable.entryAdd_of_notMem hnew hroom,
    hrequest.replicas]
  rfl

theorem wp_writeCloneSessionEntry_modify (hrequest : SessionRequest entry replica)
    (hmem : entry.sessionId ∈ table.entries) :
    wp (writeCloneSessionEntry .modify entry)
      (fun _ table' => table' =
        { table with entries := table.entries.insert entry.sessionId (requestData entry replica) })
      (fun _ => False) table := by
  obtain ⟨hid, hlength, hone, hport, hinstance⟩ := hrequest.checks
  unfold writeCloneSessionEntry
  refine wp_liftExcept_retCheck_pass hid (wp_liftExcept_retCheck_pass hlength ?_)
  refine wp_liftExcept_retCheck_pass hone (wp_liftExcept_retCheck_pass hport ?_)
  refine wp_liftExcept_retCheck_pass hinstance ?_
  rw [modifyCloneSession, wp_writeCloneSession, if_neg Bool.false_ne_true,
    SdeTable.entryMod_of_mem hmem, hrequest.replicas]
  rfl

theorem wp_writeCloneSessionEntry_delete (hrequest : SessionRequest entry replica)
    (hmem : entry.sessionId ∈ table.entries) :
    wp (writeCloneSessionEntry .delete entry)
      (fun _ table' => table' = { table with entries := table.entries.erase entry.sessionId })
      (fun _ => False) table := by
  obtain ⟨hid, hlength, -, -, -⟩ := hrequest.checks
  unfold writeCloneSessionEntry
  refine wp_liftExcept_retCheck_pass hid (wp_liftExcept_retCheck_pass hlength ?_)
  rw [wp_deleteCloneSession, SdeTable.entryDel_of_mem hmem]

/-- A session the table holds reads back as its one entry. -/
theorem getCloneSessions_of_lookup {sessionId : Nat} {tableData : MirrorSession}
    (hid : sessionId ≠ 0) (hlookup : table.entries.lookup sessionId = some tableData)
    (henable : tableData.sessionEnable = true) (hvalid : tableData.ucastEgressPortValid = true) :
    getCloneSessions table sessionId = .ok ⟨[sessionId], [tableData.ucastEgressPort],
      [tableData.ingressCos], [tableData.maxPktLen]⟩ := by
  have hloop := foldlM_getCloneSessionsStep [(sessionId, tableData)] (by simp [henable, hvalid])
    ⟨[], [], [], []⟩
  simp only [getCloneSessions, ne_eq, hid, not_false_eq_true, if_true, returnIfBfrtError,
    SdeTable.entryGet_of_lookup hlookup]
  exact hloop

/-- A session the table does not hold is not found. -/
theorem getCloneSessions_of_lookup_eq_none {sessionId : Nat} (hid : sessionId ≠ 0)
    (hlookup : table.entries.lookup sessionId = none) :
    getCloneSessions table sessionId = .error ⟨.errEntryNotFound, "BF_OBJECT_NOT_FOUND"⟩ := by
  simp only [getCloneSessions, ne_eq, hid, not_false_eq_true, if_true, returnIfBfrtError,
    SdeTable.entryGet, hlookup]
  rfl

variable (tr : Translator)

theorem readCloneSessionEntry_of_lookup {tableData : MirrorSession} (hid : entry.sessionId ≠ 0)
    (hlookup : table.entries.lookup entry.sessionId = some tableData)
    (henable : tableData.sessionEnable = true) (hvalid : tableData.ucastEgressPortValid = true) :
    readCloneSessionEntry tr (fun _ => true) table entry =
      (readSession tr entry.sessionId tableData.ucastEgressPort tableData.ingressCos
        tableData.maxPktLen).map fun entity => ⟨[entity]⟩ := by
  simp only [readCloneSessionEntry, getCloneSessions_of_lookup hid hlookup henable hvalid, bind,
    Except.bind, retCheck, List.length_singleton, beq_self_eq_true, if_true, List.zip_cons_cons,
    List.zip_nil_left, List.mapM_cons, List.mapM_nil]
  cases readSession tr entry.sessionId tableData.ucastEgressPort tableData.ingressCos
    tableData.maxPktLen <;> rfl

theorem readCloneSessionEntry_of_lookup_eq_none (writer : ReadResponse → Bool)
    (hid : entry.sessionId ≠ 0) (hlookup : table.entries.lookup entry.sessionId = none) :
    readCloneSessionEntry tr writer table entry =
      .error ⟨.errEntryNotFound, "BF_OBJECT_NOT_FOUND"⟩ := by
  simp only [readCloneSessionEntry, getCloneSessions_of_lookup_eq_none hid hlookup]
  rfl

theorem translatePacketReplicationEngineEntry_clone (session : CloneSessionEntry) (toSdk : Bool) :
    translatePacketReplicationEngineEntry tr (.cloneSessionEntry session) toSdk =
      (translateReplicas tr session.replicas toSdk).map fun replicas =>
        .cloneSessionEntry { session with replicas := replicas } := by
  unfold translatePacketReplicationEngineEntry translateReplicas
  split
  · dsimp only
    cases session.replicas.mapM (translateReplica tr · toSdk) <;> rfl
  · rfl

/-- `ReadPreEntry` of a clone session, with `ReadCloneSessionEntry` on the
mirror table as its clone-session reader: the request carries no replica to
translate. -/
theorem readPreEntry_clone (writer : ReadResponse → Bool) (pre : Pre) (sessionId : Nat) :
    readPreEntry tr writer (fun _ => readCloneSessionEntry tr writer table) pre
        (.cloneSessionEntry ⟨sessionId, [], 0, 0⟩) =
      readCloneSessionEntry tr writer table ⟨sessionId, [], 0, 0⟩ := by
  have hrequest : translateReplicas tr [] true = .ok [] := by
    unfold translateReplicas
    split <;> rfl
  simp only [readPreEntry, translatePacketReplicationEngineEntry_clone, hrequest]
  rfl

variable {tr}

/-- A replica on a port that goes to a non-zero SDK port, or to itself when
nothing is translated, comes back from the SDK as itself. -/
theorem exists_sdkReplica (hready : PortMapsReady tr) (hport : replica.egressPort ≠ 0)
    (hsdk : tr.pipelineRequireTranslation = true →
      ∃ sdkPort, tr.singletonPortToSdkPort replica.egressPort = some sdkPort ∧ sdkPort ≠ 0) :
    ∃ sdkReplica : Replica, translateReplicas tr [replica] true = .ok [sdkReplica] ∧
      sdkReplica.egressPort ≠ 0 ∧ sdkReplica.instance = replica.instance ∧
      translateReplicas tr [sdkReplica] false = .ok [replica] := by
  by_cases hrequire : tr.pipelineRequireTranslation = true
  · obtain ⟨sdkPort, hsdkPort, hnonzero⟩ := hsdk hrequire
    have hto : translateReplica tr replica true = .ok { replica with egressPort := sdkPort } := by
      simp [translateReplica, hsdkPort]
    have hback := translateReplica_roundtrip hready hport hto
    refine ⟨{ replica with egressPort := sdkPort }, ?_, hnonzero, rfl, ?_⟩
    · simp [translateReplicas, hrequire, hto]
    · simp [translateReplicas, hrequire, hback]
  · refine ⟨replica, ?_, hport, rfl, ?_⟩ <;> simp [translateReplicas, hrequire]

/-- A request goes to the SDK with its replica's port translated, as a
request the SDE accepts. -/
theorem exists_sdkEntry (hready : PortMapsReady tr) (hrequest : SessionRequest entry replica)
    (hsdk : tr.pipelineRequireTranslation = true →
      ∃ sdkPort, tr.singletonPortToSdkPort replica.egressPort = some sdkPort ∧ sdkPort ≠ 0) :
    ∃ sdkReplica : Replica,
      translatePacketReplicationEngineEntry tr (.cloneSessionEntry entry) true =
        .ok (.cloneSessionEntry { entry with replicas := [sdkReplica] }) ∧
      SessionRequest { entry with replicas := [sdkReplica] } sdkReplica ∧
      translateReplicas tr [sdkReplica] false = .ok [replica] := by
  obtain ⟨sdkReplica, hto, hport, hinstance, hback⟩ := exists_sdkReplica hready hrequest.port_ne hsdk
  refine ⟨sdkReplica, ?_, ⟨hrequest.sessionId_ne, hrequest.sessionId_le, hrequest.packetLength_le,
    rfl, hport, hinstance.trans hrequest.instance_eq⟩, hback⟩
  rw [translatePacketReplicationEngineEntry_clone, hrequest.replicas, hto]
  rfl

/-- A session written for a request reads back as the request. -/
theorem readCloneSessionEntry_requestData {sdkEntry : CloneSessionEntry} {sdkReplica : Replica}
    {sessionId : Nat}
    (hrequest : SessionRequest entry replica) (hsdkRequest : SessionRequest sdkEntry sdkReplica)
    (hsame : sdkEntry.sessionId = entry.sessionId) (hcos : sdkEntry.classOfService = entry.classOfService)
    (hlength : sdkEntry.packetLengthBytes = entry.packetLengthBytes)
    (hback : translateReplicas tr [sdkReplica] false = .ok [replica])
    (hid : sessionId = entry.sessionId)
    (hlookup : table.entries.lookup sessionId = some (requestData sdkEntry sdkReplica)) :
    readCloneSessionEntry tr (fun _ => true) table ⟨sessionId, [], 0, 0⟩ =
      .ok ⟨[.packetReplicationEngineEntry (.cloneSessionEntry entry)]⟩ := by
  have hsdkReplica : (⟨sdkReplica.egressPort, 0⟩ : Replica) = sdkReplica := by
    rw [← hsdkRequest.instance_eq]
  rw [readCloneSessionEntry_of_lookup tr (hid ▸ hrequest.sessionId_ne) hlookup rfl rfl]
  simp only [readSession, requestData, mirrorSessionData, hsdkReplica,
    translatePacketReplicationEngineEntry_clone, hback, hid, hcos, hlength]
  cases entry with
  | mk sessionId' replicas classOfService packetLengthBytes =>
    obtain rfl : replicas = [replica] := hrequest.replicas
    rfl

end Lifecycle

/-- A session's lifecycle through `WritePreEntry` and `ReadPreEntry`: an
insert of a request the checks accept, on a port with a non-zero SDK port,
reads back as the request; a modify of the session reads back as the new
request, whatever its class of service; after a delete, the read fails with
`BF_OBJECT_NOT_FOUND`. -/
theorem clone_session_lifecycle {tr : Translator} (hready : PortMapsReady tr)
    {table : SdeTable MirrorSession} {pre : Pre} {entry entry' : CloneSessionEntry}
    {replica replica' : Replica} (hrequest : SessionRequest entry replica)
    (hrequest' : SessionRequest entry' replica') (hsame : entry'.sessionId = entry.sessionId)
    (hcos : entry.classOfService < 8)
    (hsdk : tr.pipelineRequireTranslation = true →
      ∃ sdkPort, tr.singletonPortToSdkPort replica.egressPort = some sdkPort ∧ sdkPort ≠ 0)
    (hsdk' : tr.pipelineRequireTranslation = true →
      ∃ sdkPort, tr.singletonPortToSdkPort replica'.egressPort = some sdkPort ∧ sdkPort ≠ 0)
    (hnew : entry.sessionId ∉ table.entries) (hroom : table.usage < table.size) :
    ∃ sdkEntry sdkEntry' table₁ table₂ table₃,
      translatePacketReplicationEngineEntry tr (.cloneSessionEntry entry) true =
        .ok (.cloneSessionEntry sdkEntry) ∧
      (writeCloneSessionEntry .insert sdkEntry).run table = .ok () table₁ ∧
      readPreEntry tr (fun _ => true) (fun _ => readCloneSessionEntry tr (fun _ => true) table₁) pre
          (.cloneSessionEntry ⟨entry.sessionId, [], 0, 0⟩) =
        .ok ⟨[.packetReplicationEngineEntry (.cloneSessionEntry entry)]⟩ ∧
      translatePacketReplicationEngineEntry tr (.cloneSessionEntry entry') true =
        .ok (.cloneSessionEntry sdkEntry') ∧
      (writeCloneSessionEntry .modify sdkEntry').run table₁ = .ok () table₂ ∧
      readPreEntry tr (fun _ => true) (fun _ => readCloneSessionEntry tr (fun _ => true) table₂) pre
          (.cloneSessionEntry ⟨entry.sessionId, [], 0, 0⟩) =
        .ok ⟨[.packetReplicationEngineEntry (.cloneSessionEntry entry')]⟩ ∧
      (writeCloneSessionEntry .delete sdkEntry').run table₂ = .ok () table₃ ∧
      readPreEntry tr (fun _ => true) (fun _ => readCloneSessionEntry tr (fun _ => true) table₃) pre
          (.cloneSessionEntry ⟨entry.sessionId, [], 0, 0⟩) =
        .error ⟨.errEntryNotFound, "BF_OBJECT_NOT_FOUND"⟩ := by
  obtain ⟨sdkReplica, hto, hsdkRequest, hback⟩ := exists_sdkEntry hready hrequest hsdk
  obtain ⟨sdkReplica', hto', hsdkRequest', hback'⟩ := exists_sdkEntry hready hrequest' hsdk'
  -- the insert writes the session
  obtain ⟨_, table₁, hrun₁, htable₁⟩ := wp_fail_false_iff.mp
    (wp_writeCloneSessionEntry_insert hsdkRequest hcos hnew hroom)
  have hlookup₁ : table₁.entries.lookup entry.sessionId =
      some (requestData { entry with replicas := [sdkReplica] } sdkReplica) := by
    rw [htable₁]
    exact AList.lookup_insert _
  -- the modify overwrites it
  have hmem₁ : entry'.sessionId ∈ table₁.entries := by
    rw [hsame, ← AList.lookup_isSome, hlookup₁]
    rfl
  obtain ⟨_, table₂, hrun₂, htable₂⟩ := wp_fail_false_iff.mp
    (wp_writeCloneSessionEntry_modify hsdkRequest' hmem₁)
  have hlookup₂ : table₂.entries.lookup entry.sessionId =
      some (requestData { entry' with replicas := [sdkReplica'] } sdkReplica') := by
    rw [htable₂, ← hsame]
    exact AList.lookup_insert _
  -- the delete erases it
  have hmem₂ : entry'.sessionId ∈ table₂.entries := by
    rw [hsame, ← AList.lookup_isSome, hlookup₂]
    rfl
  obtain ⟨_, table₃, hrun₃, htable₃⟩ := wp_fail_false_iff.mp
    (wp_writeCloneSessionEntry_delete hsdkRequest' hmem₂)
  have hlookup₃ : table₃.entries.lookup entry.sessionId = none := by
    rw [htable₃, ← hsame]
    exact AList.lookup_erase _ _
  refine ⟨_, _, table₁, table₂, table₃, hto, hrun₁, ?_, hto', hrun₂, ?_, hrun₃, ?_⟩
  · rw [readPreEntry_clone]
    exact readCloneSessionEntry_requestData hrequest hsdkRequest rfl rfl rfl hback rfl hlookup₁
  · rw [readPreEntry_clone]
    exact readCloneSessionEntry_requestData hrequest' hsdkRequest' rfl rfl rfl hback' hsame.symm
      hlookup₂
  · rw [readPreEntry_clone]
    exact readCloneSessionEntry_of_lookup_eq_none tr _ hrequest.sessionId_ne hlookup₃

theorem clone_session_lifecycle_untranslated :
    ∃ sdkEntry sdkEntry' table₁ table₂ table₃,
      translatePacketReplicationEngineEntry (Translator.create true)
          (.cloneSessionEntry ⟨1, [⟨5, 0⟩], 3, 128⟩) true = .ok (.cloneSessionEntry sdkEntry) ∧
      (writeCloneSessionEntry .insert sdkEntry).run ⟨∅, 16⟩ = .ok () table₁ ∧
      readPreEntry (Translator.create true) (fun _ => true)
          (fun _ => readCloneSessionEntry (Translator.create true) (fun _ => true) table₁)
          emptyTables (.cloneSessionEntry ⟨1, [], 0, 0⟩) =
        .ok ⟨[.packetReplicationEngineEntry (.cloneSessionEntry ⟨1, [⟨5, 0⟩], 3, 128⟩)]⟩ ∧
      translatePacketReplicationEngineEntry (Translator.create true)
          (.cloneSessionEntry ⟨1, [⟨6, 0⟩], 9, 256⟩) true = .ok (.cloneSessionEntry sdkEntry') ∧
      (writeCloneSessionEntry .modify sdkEntry').run table₁ = .ok () table₂ ∧
      readPreEntry (Translator.create true) (fun _ => true)
          (fun _ => readCloneSessionEntry (Translator.create true) (fun _ => true) table₂)
          emptyTables (.cloneSessionEntry ⟨1, [], 0, 0⟩) =
        .ok ⟨[.packetReplicationEngineEntry (.cloneSessionEntry ⟨1, [⟨6, 0⟩], 9, 256⟩)]⟩ ∧
      (writeCloneSessionEntry .delete sdkEntry').run table₂ = .ok () table₃ ∧
      readPreEntry (Translator.create true) (fun _ => true)
          (fun _ => readCloneSessionEntry (Translator.create true) (fun _ => true) table₃)
          emptyTables (.cloneSessionEntry ⟨1, [], 0, 0⟩) =
        .error ⟨.errEntryNotFound, "BF_OBJECT_NOT_FOUND"⟩ :=
  clone_session_lifecycle (portMapsReady_create true)
    ⟨by decide, by decide, by decide, rfl, by decide, rfl⟩
    ⟨by decide, by decide, by decide, rfl, by decide, rfl⟩ rfl (by decide)
    (fun h => absurd h (by decide)) (fun h => absurd h (by decide)) (AList.notMem_empty 1)
    (by decide)

end Stratum.Ports.BfrtPreManager
