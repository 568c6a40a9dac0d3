import CommunityServers.Session.Log

/-!
Contract: what the sessions of one address do to each other's reports.

Owns:
- the callbacks and the reports of one session, which is one connection: another
  session may have the same endpoint, address and stream before or after it;
- a condition on the order of callbacks under which the reports of a session
  are those of its own callbacks alone;
- two streams of one socket, of which one changes the other's report.

Does not own: when the callbacks of one session happen.
-/

set_option autoImplicit false

namespace CommunityServers.Session

open CommunityServers.Foundation

/-! ### Sessions on their own -/

/-- The callbacks of one session. -/
def ownEvents (id : Nat) (made : List LogCall) : List LogEvent :=
  (made.filter fun call => decide (call.connection = id)).map LogCall.event

/-- The reports about one session. -/
def reportsAbout (id : Nat) (reports : List (Nat × SessionReport)) : List SessionReport :=
  (reports.filter fun report => decide (report.1 = id)).map Prod.snd

/-- A disconnect or the end of a session finds the latest callback for its
address to be the session's own, or finds none. -/
def FindsOwn (id : Nat) (before : List LogCall) (call : LogCall) : Prop :=
  call.connection = id →
    match call.event with
    | .connect _ _ => True
    | .disconnect session => ∀ last ∈ latestAt session.addr before, last.connection = id
    | .ended _ session => ∀ last ∈ latestAt session.addr before, last.connection = id

instance (id : Nat) (before : List LogCall) : DecidablePred (FindsOwn id before) := fun call => by
  unfold FindsOwn
  cases call.event <;> infer_instance

theorem ownEvents_append (id : Nat) (made : List LogCall) (call : LogCall) :
    ownEvents id (made ++ [call]) =
      ownEvents id made ++ if call.connection = id then [call.event] else [] := by
  unfold ownEvents
  rw [List.filter_append, List.map_append]
  by_cases own : call.connection = id <;> simp [own]

theorem reportsAbout_emit (id : Nat) (log : SessionLog) (call : LogCall) :
    reportsAbout id (numberedMachine.emit log call) =
      if call.connection = id then log.emit call.event else [] := by
  obtain ⟨connection, event⟩ := call
  by_cases own : connection = id <;>
    cases event <;> simp [reportsAbout, numberedMachine, SessionLog.emit, own]

theorem reportsAbout_append (id : Nat) (first second : List (Nat × SessionReport)) :
    reportsAbout id (first ++ second) = reportsAbout id first ++ reportsAbout id second := by
  unfold reportsAbout
  rw [List.filter_append, List.map_append]

/-- The log has for a session's address what the session's own callbacks leave,
as long as they were the last there; and it has reported the session as those
callbacks alone report it. -/
structure Own (id : Nat) (addr : Bytes) (made : List LogCall) : Prop where
  entry : (∀ last ∈ latestAt addr made, last.connection = id) →
    (numberedMachine.exec .empty made).entry addr =
      (logMachine.exec .empty (ownEvents id made)).entry addr
  reports : reportsAbout id (numberedMachine.log .empty made) =
    logMachine.log .empty (ownEvents id made)

theorem own_start (id : Nat) (addr : Bytes) : Own id addr [] := ⟨fun _ => rfl, rfl⟩

theorem own_step_other {id : Nat} {addr : Bytes} {made : List LogCall} {call : LogCall}
    (own : Own id addr made) (other : call.connection ≠ id) : Own id addr (made ++ [call]) := by
  have events : ownEvents id (made ++ [call]) = ownEvents id made := by
    rw [ownEvents_append, if_neg other, List.append_nil]
  refine ⟨?_, ?_⟩
  · intro last
    rw [events, Machine.exec_append_singleton]
    rw [latestAt_append_singleton] at last
    by_cases here : call.event.addr = addr
    · rw [if_pos here] at last
      exact absurd (last call rfl) other
    · rw [if_neg here] at last
      exact (entry_step_other _ (Ne.symm here)).trans (own.entry last)
  · rw [events, Machine.log_append_singleton, reportsAbout_append, own.reports,
      reportsAbout_emit, if_neg other, List.append_nil]

theorem emit_eq_of_entry_eq {first second : SessionLog} {event : LogEvent}
    (same : first.entry event.addr = second.entry event.addr) :
    first.emit event = second.emit event := by
  cases event with
  | connect now session => rfl
  | disconnect session => rfl
  | ended now session =>
      simp only [SessionLog.emit]
      rw [show first.entry session.addr = second.entry session.addr from same]

/-- A callback of the session itself: a connect overwrites the entry, and the
others find the session's own. -/
theorem own_step_own {made : List LogCall} {call : LogCall}
    (own : Own call.connection call.event.addr made) (finds : FindsOwn call.connection made call) :
    Own call.connection call.event.addr (made ++ [call]) := by
  have events : ownEvents call.connection (made ++ [call]) =
      ownEvents call.connection made ++ [call.event] := by
    rw [ownEvents_append, if_pos rfl]
  have same : (∃ now session, call.event = .connect now session) ∨
      (numberedMachine.exec .empty made).entry call.event.addr =
        (logMachine.exec .empty (ownEvents call.connection made)).entry call.event.addr := by
    obtain ⟨connection, event⟩ := call
    cases event with
    | connect now session => exact Or.inl ⟨now, session, rfl⟩
    | disconnect session => exact Or.inr (own.entry (finds rfl))
    | ended now session => exact Or.inr (own.entry (finds rfl))
  refine ⟨fun _ => ?_, ?_⟩
  · rw [events, Machine.exec_append_singleton, Machine.exec_append_singleton]
    change ((numberedMachine.exec .empty made).step call.event).entry _ =
      ((logMachine.exec .empty (ownEvents call.connection made)).step call.event).entry _
    rw [entry_step_own, entry_step_own]
    rcases same with ⟨now, session, isConnect⟩ | equal
    · rw [isConnect]
      rfl
    · rw [equal]
  · have emitted : (numberedMachine.exec .empty made).emit call.event =
        (logMachine.exec .empty (ownEvents call.connection made)).emit call.event := by
      rcases same with ⟨now, session, isConnect⟩ | equal
      · rw [isConnect]
        rfl
      · exact emit_eq_of_entry_eq equal
    rw [events, Machine.log_append_singleton, Machine.log_append_singleton, reportsAbout_append,
      own.reports, reportsAbout_emit, if_pos rfl, emitted]
    rfl

/-- A session whose callbacks all come from one address. -/
theorem own_of_findsOwn (id : Nat) (addr : Bytes) (made : List LogCall)
    (home : ∀ call ∈ made, call.connection = id → call.event.addr = addr)
    (finds : Everywhere (FindsOwn id) made) : Own id addr made := by
  induction made using List.reverseRecOn with
  | nil => exact own_start id addr
  | append_singleton made call inductionHypothesis =>
      rw [everywhere_append_singleton] at finds
      have own := inductionHypothesis
        (fun earlier member => home earlier (List.mem_append_left _ member)) finds.1
      by_cases isOwn : call.connection = id
      · subst isOwn
        obtain rfl := home call (by simp) rfl
        exact own_step_own own finds.2
      · exact own_step_other own isOwn

/-! ### Runs of the endpoints -/

/-- Every connection keeps its place and its key. -/
def KeepsKeys (before after : SessionState) : Prop :=
  ∀ (id : Nat) (connection : Connection), before.connections[id]? = some connection →
    ∃ later : Connection, after.connections[id]? = some later ∧ later.key = connection.key

theorem KeepsKeys.refl (state : SessionState) : KeepsKeys state state :=
  fun _ connection stored => ⟨connection, stored, rfl⟩

theorem KeepsKeys.trans {first second third : SessionState} (before : KeepsKeys first second)
    (after : KeepsKeys second third) : KeepsKeys first third := by
  intro id connection stored
  obtain ⟨middle, found, key⟩ := before id connection stored
  obtain ⟨later, last, lastKey⟩ := after id middle found
  exact ⟨later, last, lastKey.trans key⟩

theorem keepsKeys_update (state : SessionState) (id : Nat) {change : Connection → Connection}
    (key : ∀ connection ∈ state.connections[id]?, (change connection).key = connection.key) :
    KeepsKeys state (state.update id change) := by
  intro other connection stored
  refine ⟨if id = other then change connection else connection, ?_, ?_⟩
  · unfold SessionState.update
    rw [List.getElem?_modify, stored]
    rfl
  · split
    next same =>
      subst same
      exact key connection stored
    next => rfl

theorem keepsKeys_withConnection {state : SessionState} {id : Nat} {act : Connection → Outcome}
    (keeps : ∀ connection, KeepsKeys state (act connection).after) :
    KeepsKeys state (state.withConnection id act).after := by
  unfold SessionState.withConnection
  split
  · exact KeepsKeys.refl state
  · exact keeps _

theorem perform_keepsKeys (now : Nat) (state : SessionState) (action : Action) :
    KeepsKeys state (perform now state action).after := by
  have same := fun (change : Connection → Connection) (id : Nat)
      (key : ∀ connection, (change connection).key = connection.key) =>
    keepsKeys_update state id fun connection _ => key connection
  have traffic : ∀ id, KeepsKeys state (handleTraffic state id).after := by
    intro id
    unfold handleTraffic
    split
    · exact same Connection.resetHeartbeat id fun _ => rfl
    · exact KeepsKeys.refl state
  cases action with
  | emitConnect id => exact keepsKeys_withConnection fun _ => KeepsKeys.refl state
  | heartbeat id => exact same Connection.startPingKick id fun _ => rfl
  | cleanupConnection id removal => exact keepsKeys_withConnection fun _ => KeepsKeys.refl state
  | cleanup id removal =>
      refine keepsKeys_withConnection fun connection => ?_
      cases removal <;> exact same Connection.cleanup id fun _ => rfl
  | emitDisconnect id => exact keepsKeys_withConnection fun _ => KeepsKeys.refl state
  | handle id packet =>
      cases packet with
      | syn => exact same Connection.greet id fun _ => rfl
      | data => exact traffic id
      | ping => exact traffic id
      | ack => exact traffic id
      | connect ticket =>
          dsimp only [perform, handlePacket, handleConnect]
          split
          · exact KeepsKeys.refl state
          · cases ticket with
            | refused => exact same Connection.resetHeartbeat id fun _ => rfl
            | refusedAfter pid => exact same (Connection.identify pid) id fun _ => rfl
            | accepted pid => exact same (Connection.accept pid) id fun _ => rfl
      | disconnect =>
          refine keepsKeys_withConnection fun sender => ?_
          split <;> exact KeepsKeys.refl state

theorem expire_key {connection changed : Connection} {id : Nat} {kind : TimerKind}
    {action : Action} (expired : connection.expire id kind = some (changed, action)) :
    changed.key = connection.key := by
  cases kind <;> simp only [Connection.expire] at expired <;> split at expired <;>
    cases expired <;> rfl

theorem step_keepsKeys (state : SessionState) (event : Event) :
    KeepsKeys state (sessionMachine.step state event) := by
  cases event with
  | packet key packet =>
      intro id connection stored
      refine ⟨connection, ?_, rfl⟩
      dsimp only [sessionMachine, sessionStep, processPacket, SessionState.spawn, getOrSetDefault]
      split
      · exact stored
      · rw [List.getElem?_append_left (List.getElem?_eq_some_iff.mp stored).1, stored]
  | expire id kind =>
      dsimp only [sessionMachine, sessionStep]
      split
      · exact KeepsKeys.refl state
      next changed action expired =>
        obtain ⟨connection, stored, ran⟩ := Option.bind_eq_some_iff.mp expired
        have kept : KeepsKeys state (state.update id fun _ => changed) := by
          refine keepsKeys_update state id fun known found => ?_
          obtain rfl : connection = known := Option.some.inj (stored.symm.trans found)
          exact expire_key ran
        exact kept
  | giveUp id =>
      dsimp only [sessionMachine, sessionStep]
      split <;> exact KeepsKeys.refl state
  | run now index =>
      dsimp only [sessionMachine, sessionStep]
      split
      · exact KeepsKeys.refl state
      · exact perform_keepsKeys now { state with pending := state.pending.eraseIdx index } _

theorem call_key {now : Nat} {state : SessionState} {action : Action} {call : LogCall}
    (made : action.call now state = some call) :
    ∃ connection, state.connections[call.connection]? = some connection ∧
      connection.key = call.event.session := by
  cases action with
  | handle id packet => cases made
  | heartbeat id => cases made
  | cleanupConnection id removal => cases made
  | emitConnect id =>
      obtain ⟨connection, stored, rfl⟩ := Option.map_eq_some_iff.mp made
      exact ⟨connection, stored, rfl⟩
  | emitDisconnect id =>
      obtain ⟨connection, stored, rfl⟩ := Option.map_eq_some_iff.mp made
      exact ⟨connection, stored, rfl⟩
  | cleanup id removal =>
      obtain ⟨connection, stored, rfl⟩ := Option.map_eq_some_iff.mp made
      exact ⟨connection, stored, rfl⟩

/-- Every callback of a run is made with the key of its connection. -/
theorem callsOf_key (events : List Event) :
    ∀ call ∈ callsOf events, ∃ connection,
      (sessionMachine.exec SessionState.start events).connections[call.connection]? =
          some connection ∧ connection.key = call.event.session := by
  induction events using List.reverseRecOn with
  | nil =>
      intro call member
      cases member
  | append_singleton events event inductionHypothesis =>
      have keeps := step_keepsKeys (sessionMachine.exec SessionState.start events) event
      intro call member
      rw [callsOf, Machine.log_append_singleton, List.mem_append] at member
      rw [Machine.exec_append_singleton]
      have stored : ∃ connection,
          (sessionMachine.exec SessionState.start events).connections[call.connection]? =
            some connection ∧ connection.key = call.event.session := by
        rcases member with early | late
        · exact inductionHypothesis call early
        · rw [callMachine_exec] at late
          cases event with
          | run now index =>
              obtain ⟨action, -, made⟩ :=
                Option.bind_eq_some_iff.mp (Option.mem_toList.mp late)
              exact call_key made
          | packet key packet => cases late
          | expire id kind => cases late
          | giveUp id => cases late
      obtain ⟨connection, found, key⟩ := stored
      obtain ⟨later, last, lastKey⟩ := keeps _ connection found
      exact ⟨later, last, lastKey.trans key⟩

/-- The reports a run makes about one session. -/
def loggedReports (id : Nat) (events : List Event) : List SessionReport :=
  reportsAbout id (reportMachine.log SessionState.start events)

theorem loggedReports_alone (id : Nat) (events : List Event)
    (finds : Everywhere (FindsOwn id) (callsOf events)) :
    loggedReports id events = logMachine.log .empty (ownEvents id (callsOf events)) := by
  have home : ∃ addr, ∀ call ∈ callsOf events, call.connection = id → call.event.addr = addr := by
    rcases stored : (sessionMachine.exec SessionState.start events).connections[id]?
      with _ | connection
    · refine ⟨[], fun call member own => ?_⟩
      obtain ⟨connection, found, -⟩ := callsOf_key events call member
      rw [own, stored] at found
      cases found
    · refine ⟨connection.key.addr, fun call member own => ?_⟩
      obtain ⟨known, found, key⟩ := callsOf_key events call member
      rw [own, stored] at found
      obtain rfl := Option.some.inj found
      exact (congrArg Key.addr key).symm
  obtain ⟨addr, home⟩ := home
  unfold loggedReports
  rw [(run_drives SessionState.start events).2]
  exact (own_of_findsOwn id addr (callsOf events) home finds).reports

/-- **Sessions on their own.** In every run in which no disconnect and no end of
a session finds a callback of another session to be the latest of its address,
the reports about the session are those of its own callbacks, and so are those
of every such run with the same callbacks of the session, whatever its number
there. -/
theorem loggedReports_eq_own (id : Nat) (events : List Event)
    (finds : Everywhere (FindsOwn id) (callsOf events)) :
    loggedReports id events = logMachine.log .empty (ownEvents id (callsOf events)) ∧
      ∀ (other : Nat) (others : List Event),
        Everywhere (FindsOwn other) (callsOf others) →
        ownEvents other (callsOf others) = ownEvents id (callsOf events) →
        loggedReports other others = loggedReports id events := by
  refine ⟨loggedReports_alone id events finds, ?_⟩
  intro other others undisturbed same
  rw [loggedReports_alone other others undisturbed, loggedReports_alone id events finds, same]

/-- Two virtual streams of one socket. -/
def firstStream : Key := ⟨0, ascii "192.0.2.10:5000", 10, 1⟩

def secondStream : Key := ⟨0, ascii "192.0.2.10:5000", 10, 2⟩

/-- A stream connects, each packet handled when it comes. -/
def connects (stream : Key) (now : Nat) : List Event :=
  [.packet stream .syn, .run now 0, .packet stream (.connect (.accepted 10)), .run now 0,
    .run now 0]

/-- The timers of the first connection run out, and it is removed at time 100. -/
def firstDrops : List Event :=
  [.expire 0 .heartbeat, .run 50 0, .expire 0 .pingKick, .run 100 0, .run 100 0]

/-- The second stream comes and goes. -/
def secondVisits : List Event :=
  connects secondStream 3 ++
    [.packet secondStream .disconnect, .run 4 0, .run 4 0, .run 4 0, .run 4 0]

/-- The second stream comes after the first has ended. -/
theorem sequentialStreams_own :
    loggedReports 1 (connects firstStream 1 ++ firstDrops ++ secondVisits) =
      logMachine.log .empty
        (ownEvents 1 (callsOf (connects firstStream 1 ++ firstDrops ++ secondVisits))) :=
  (loggedReports_eq_own 1 (connects firstStream 1 ++ firstDrops ++ secondVisits)
    (by decide +kernel)).1

/-- The second stream's visit turns the first one's report from dropped after 99
into a clean leave after an unknown time. -/
theorem visit_changes_report :
    ownEvents 0 (callsOf (connects firstStream 1 ++ firstDrops)) =
        ownEvents 0 (callsOf (connects firstStream 1 ++ secondVisits ++ firstDrops)) ∧
      loggedReports 0 (connects firstStream 1 ++ firstDrops) =
        [⟨firstStream, some 1, some 99, droppedReason⟩] ∧
      loggedReports 0 (connects firstStream 1 ++ secondVisits ++ firstDrops) =
        [⟨firstStream, none, none, leftReason⟩] := by
  decide +kernel

end CommunityServers.Session
