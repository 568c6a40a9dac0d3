import CommunityServers.Session.Endpoint

/-!
Contract: the session log as the callbacks of all endpoints drive it.

Owns:
- the session log as a machine of its own, over callbacks that carry the number of
  the connection they are for;
- that every run of the endpoints leaves the log, and the reports, that its
  callbacks leave;
- the entry the log keeps for an address, as one value that a callback changes,
  and which callback set its mark.

Does not own: when the callbacks of one session happen.
-/

set_option autoImplicit false

namespace CommunityServers.Session

open CommunityServers.Foundation

/-! ### The log and its callbacks -/

/-- The two maps all endpoints share. -/
structure SessionLog where
  sessStart : AList fun _ : Bytes => Nat
  sessExplicit : AList fun _ : Bytes => Bool

def SessionLog.empty : SessionLog := ⟨∅, ∅⟩

def SessionState.log (state : SessionState) : SessionLog :=
  ⟨state.sessStart, state.sessExplicit⟩

/-- A callback of the session log, with the key of the connection it is for. -/
inductive LogEvent where
  | connect (now : Nat) (session : Key)
  | disconnect (session : Key)
  | ended (now : Nat) (session : Key)
deriving DecidableEq

def LogEvent.session : LogEvent → Key
  | .connect _ session => session
  | .disconnect session => session
  | .ended _ session => session

def LogEvent.addr (event : LogEvent) : Bytes := event.session.addr

/-- A callback with the connection it is for: one key has many of them in turn. -/
structure LogCall where
  connection : Nat
  event : LogEvent
deriving DecidableEq

/-- What a report says of its session. -/
structure SessionReport where
  session : Key
  start : Option Nat
  duration : Option Nat
  reason : Bytes
deriving DecidableEq

def SessionLog.step (log : SessionLog) : LogEvent → SessionLog
  | .connect now session =>
      ⟨log.sessStart.insert session.addr now, log.sessExplicit.erase session.addr⟩
  | .disconnect session => ⟨log.sessStart, log.sessExplicit.insert session.addr true⟩
  | .ended _ session =>
      ⟨log.sessStart.erase session.addr, log.sessExplicit.erase session.addr⟩

/-- The start time and the mark kept for an address. -/
def SessionLog.entry (log : SessionLog) (addr : Bytes) : Option Nat × Bool :=
  (log.sessStart.lookup addr, (log.sessExplicit.lookup addr).getD false)

/-- The report of a session that ends with such an entry. -/
def reportFor (now : Nat) (session : Key) (entry : Option Nat × Bool) : SessionReport where
  session := session
  start := entry.1
  duration := entry.1.map fun start => now - start
  reason := if entry.2 then leftReason else droppedReason

def SessionLog.emit (log : SessionLog) : LogEvent → List SessionReport
  | .connect _ _ => []
  | .disconnect _ => []
  | .ended now session => [reportFor now session (log.entry session.addr)]

/-- The log, which does not know connections. -/
def logMachine : Machine SessionLog LogEvent SessionReport where
  step := SessionLog.step
  emit := SessionLog.emit

/-- The log with every report beside the connection it is about. -/
def numberedMachine : Machine SessionLog LogCall (Nat × SessionReport) where
  step log call := log.step call.event
  emit log call := (log.emit call.event).map fun report => (call.connection, report)

/-! ### The callbacks of an endpoint run -/

/-- The callback that an action makes, if any. -/
def Action.call (now : Nat) (state : SessionState) : Action → Option LogCall
  | .emitConnect id =>
      state.connections[id]?.map fun connection => ⟨id, .connect now connection.key⟩
  | .emitDisconnect id =>
      state.connections[id]?.map fun connection => ⟨id, .disconnect connection.key⟩
  | .cleanup id _ =>
      state.connections[id]?.map fun connection => ⟨id, .ended now connection.key⟩
  | _ => none

/-- The callbacks one event of the endpoints makes. -/
def calls (state : SessionState) : Event → List LogCall
  | .run now index => (state.pending[index]?.bind fun action => action.call now state).toList
  | _ => []

def callMachine : Machine SessionState Event LogCall where
  step := sessionMachine.step
  emit := calls

/-- A report, with the connection it is about and the start time the log held for
its address. -/
def noteReport (before after : SessionState) : Note → Option (Nat × SessionReport)
  | .report report =>
      after.connections[report.connection]?.map fun connection =>
        (report.connection, ⟨connection.key, before.sessStart.lookup connection.key.addr,
          report.duration, report.reason⟩)
  | _ => none

def reportMachine : Machine SessionState Event (Nat × SessionReport) where
  step := sessionMachine.step
  emit := fun state event =>
    (sessionStep state event).2.filterMap (noteReport state (sessionStep state event).1)

/-- The callbacks of a run, over all endpoints. -/
def callsOf (events : List Event) : List LogCall := callMachine.log SessionState.start events

theorem callMachine_exec (state : SessionState) (events : List Event) :
    callMachine.exec state events = sessionMachine.exec state events := by
  induction events generalizing state with
  | nil => rfl
  | cons event rest inductionHypothesis => exact inductionHypothesis _

/-! ### Runs drive the log -/

/-- A step that does to the log, and reports, what a callback list does. -/
structure Drives (before after : SessionState) (notes : List Note) (made : List LogCall) :
    Prop where
  log : after.log = numberedMachine.exec before.log made
  reports : notes.filterMap (noteReport before after) = numberedMachine.log before.log made

section Driving

theorem drives_silent {before after : SessionState} (same : after.log = before.log) :
    Drives before after [] [] :=
  ⟨same, rfl⟩

theorem connections_cleanup {state : SessionState} {id : Nat} {connection : Connection}
    (found : state.connections[id]? = some connection) :
    (state.connections.modify id Connection.cleanup)[id]? = some connection.cleanup := by
  rw [List.getElem?_modify_eq, found]
  rfl

theorem handlePacket_log (state : SessionState) (id : Nat) (packet : Packet) :
    (handlePacket state id packet).state.log = state.log ∧
      (handlePacket state id packet).notes = [] := by
  have traffic : (handleTraffic state id).state.log = state.log ∧
      (handleTraffic state id).notes = [] := by
    unfold handleTraffic
    split <;> exact ⟨rfl, rfl⟩
  cases packet with
  | syn => exact ⟨rfl, rfl⟩
  | data => exact traffic
  | ping => exact traffic
  | ack => exact traffic
  | connect ticket =>
      dsimp only [handlePacket, handleConnect]
      split
      · exact ⟨rfl, rfl⟩
      · cases ticket <;> exact ⟨rfl, rfl⟩
  | disconnect =>
      dsimp only [handlePacket, handleDisconnect, SessionState.withConnection]
      split
      · exact ⟨rfl, rfl⟩
      · split <;> exact ⟨rfl, rfl⟩

/-- What an action does to the log is what its callback does. -/
theorem perform_drives (now : Nat) (state : SessionState) (action : Action) :
    Drives state (perform now state action).state (perform now state action).notes
      (action.call now state).toList := by
  cases action with
  | handle id packet =>
      obtain ⟨same, silent⟩ := handlePacket_log state id packet
      dsimp only [perform]
      rw [silent]
      exact drives_silent same
  | heartbeat id => exact drives_silent rfl
  | emitConnect id =>
      dsimp only [perform, emitConnect, SessionState.withConnection, Action.call]
      cases found : state.connections[id]? with
      | none => exact drives_silent rfl
      | some connection => exact ⟨rfl, rfl⟩
  | emitDisconnect id =>
      dsimp only [perform, emitDisconnect, SessionState.withConnection, Action.call]
      cases found : state.connections[id]? with
      | none => exact drives_silent rfl
      | some connection => exact ⟨rfl, rfl⟩
  | cleanupConnection id removal =>
      dsimp only [perform, cleanupConnection, SessionState.withConnection, Action.call]
      cases found : state.connections[id]? with
      | none => exact drives_silent rfl
      | some connection =>
          refine ⟨rfl, ?_⟩
          dsimp only
          cases state.table.lookup connection.key <;> rfl
  | cleanup id removal =>
      dsimp only [perform, cleanup, SessionState.withConnection, Action.call]
      cases found : state.connections[id]? with
      | none => exact drives_silent rfl
      | some connection =>
          have kept := connections_cleanup found
          refine ⟨rfl, ?_⟩
          simp only [noteReport, onConnectionEnded, SessionState.update, List.filterMap_cons,
            List.filterMap_nil, kept, Option.map_some]
          rfl

theorem getOrSetDefault_log (state : SessionState) (key : Key) :
    (getOrSetDefault state key).1.log = state.log := by
  unfold getOrSetDefault
  split <;> rfl

/-- Every event of the endpoints drives the log by its callbacks. -/
theorem sessionStep_drives (state : SessionState) (event : Event) :
    Drives state (sessionStep state event).1 (sessionStep state event).2 (calls state event) := by
  cases event with
  | packet key packet => exact drives_silent (getOrSetDefault_log state key)
  | expire id kind =>
      dsimp only [sessionStep, calls]
      split <;> exact drives_silent rfl
  | giveUp id =>
      dsimp only [sessionStep, calls]
      split <;> exact drives_silent rfl
  | run now index =>
      dsimp only [sessionStep, calls]
      cases state.pending[index]? with
      | none => exact drives_silent rfl
      | some action =>
          have driven := perform_drives now
            { state with pending := state.pending.eraseIdx index } action
          have sameCall : action.call now { state with pending := state.pending.eraseIdx index } =
              action.call now state := by
            cases action <;> rfl
          rw [sameCall] at driven
          dsimp only [runAction, Outcome.after]
          split <;> exact ⟨driven.log, driven.reports⟩

/-- A run of the endpoints leaves the log, and the reports, that its callbacks
leave. -/
theorem run_drives (state : SessionState) (events : List Event) :
    (sessionMachine.exec state events).log =
        numberedMachine.exec state.log (callMachine.log state events) ∧
      reportMachine.log state events =
        numberedMachine.log state.log (callMachine.log state events) := by
  induction events generalizing state with
  | nil => exact ⟨rfl, rfl⟩
  | cons event rest inductionHypothesis =>
      obtain ⟨logged, reported⟩ := inductionHypothesis (sessionMachine.step state event)
      have driven := sessionStep_drives state event
      have stepped : (sessionMachine.step state event).log =
          numberedMachine.exec state.log (calls state event) := driven.log
      have emitted : reportMachine.emit state event =
          numberedMachine.log state.log (calls state event) := driven.reports
      rw [stepped] at logged reported
      constructor
      · rw [Machine.exec_cons, logged, Machine.log, Machine.exec_append]
        rfl
      · rw [Machine.log, Machine.log, Machine.log_append, emitted]
        exact congrArg _ reported

end Driving

/-! ### The entry of an address -/

/-- What a callback makes of the entry of its address. -/
def nextEntry (entry : Option Nat × Bool) : LogEvent → Option Nat × Bool
  | .connect now _ => (some now, false)
  | .disconnect _ => (entry.1, true)
  | .ended _ _ => (none, false)

theorem entry_step_own (log : SessionLog) (event : LogEvent) :
    (log.step event).entry event.addr = nextEntry (log.entry event.addr) event := by
  cases event <;>
    simp [SessionLog.step, SessionLog.entry, LogEvent.addr, LogEvent.session, nextEntry]

theorem entry_step_other (log : SessionLog) {event : LogEvent} {addr : Bytes}
    (other : addr ≠ event.addr) : (log.step event).entry addr = log.entry addr := by
  cases event with
  | connect now session =>
      change addr ≠ session.addr at other
      simp only [SessionLog.step, SessionLog.entry]
      rw [AList.lookup_insert_ne other, AList.lookup_erase_ne other]
  | disconnect session =>
      change addr ≠ session.addr at other
      simp only [SessionLog.step, SessionLog.entry]
      rw [AList.lookup_insert_ne other]
  | ended now session =>
      change addr ≠ session.addr at other
      simp only [SessionLog.step, SessionLog.entry]
      rw [AList.lookup_erase_ne other, AList.lookup_erase_ne other]

/-- The latest callback for an address, from whichever connection. -/
def latestAt (addr : Bytes) (made : List LogCall) : Option LogCall :=
  (made.filter fun call => decide (call.event.addr = addr)).getLast?

theorem latestAt_append_singleton (addr : Bytes) (made : List LogCall) (call : LogCall) :
    latestAt addr (made ++ [call]) =
      if call.event.addr = addr then some call else latestAt addr made := by
  unfold latestAt
  rw [List.filter_append]
  by_cases here : call.event.addr = addr <;> simp [here]

def LogEvent.isDisconnect : LogEvent → Bool
  | .disconnect _ => true
  | _ => false

/-- The latest callback for an address announced a DISCONNECT. -/
def DisconnectLast (addr : Bytes) (made : List LogCall) : Prop :=
  ∃ call ∈ latestAt addr made, call.event.isDisconnect = true

instance (addr : Bytes) (made : List LogCall) : Decidable (DisconnectLast addr made) :=
  inferInstanceAs (Decidable (∃ call ∈ latestAt addr made, _))

/-- The mark of an address was set by the latest callback for it. -/
theorem marked_iff_disconnectLast (addr : Bytes) (made : List LogCall) :
    ((numberedMachine.exec .empty made).entry addr).2 = true ↔ DisconnectLast addr made := by
  induction made using List.reverseRecOn with
  | nil =>
      constructor
      · intro marked
        cases marked
      · rintro ⟨call, latest, -⟩
        cases latest
  | append_singleton made call inductionHypothesis =>
      unfold DisconnectLast
      rw [Machine.exec_append_singleton, latestAt_append_singleton]
      change (((numberedMachine.exec .empty made).step call.event).entry addr).2 = true ↔ _
      by_cases here : call.event.addr = addr
      · subst here
        rw [entry_step_own, if_pos rfl]
        obtain ⟨connection, event⟩ := call
        cases event <;> simp [nextEntry, LogEvent.isDisconnect]
      · rw [entry_step_other _ (Ne.symm here), if_neg here]
        exact inductionHypothesis

end CommunityServers.Session
