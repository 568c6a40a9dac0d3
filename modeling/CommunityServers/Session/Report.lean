import CommunityServers.Session.Log

/-!
Contract: one truthful report for every session that ends.

Owns:
- what a run has to report: one line for each connected and removed session,
  with the reason that fits the cause of its removal;
- the three stages of a connection: in the table, deleted from it, reported;
- the condition on single steps, and on the order of the log's callbacks, under
  which every run reports each session once and truthfully;
- the ordinary run in which a console that leaves is reported as dropped.

Does not own: durations, and interference between sessions of one address.
-/

set_option autoImplicit false

namespace CommunityServers.Session

open CommunityServers.Foundation

/-! ### What is to be reported -/

def reportOf (id : Nat) : Note → Option Report
  | .report report => if report.connection = id then some report else none
  | _ => none

def causeOf (id : Nat) : Note → Option Cause
  | .removed found cause => if found = id then some cause else none
  | _ => none

def cleanupOf (id : Nat) : Action → Option Cause
  | .cleanup found removal => if found = id then some removal.cause else none
  | _ => none

def reportsOf (notes : List Note) (id : Nat) : List Report := notes.filterMap (reportOf id)

def causesOf (notes : List Note) (id : Nat) : List Cause := notes.filterMap (causeOf id)

/-- The clean-ups of a connection that are still to come after its removal. -/
def cleanupsOf (pending : List Action) (id : Nat) : List Cause := pending.filterMap (cleanupOf id)

/-- The report says that the client left exactly when a DISCONNECT removed the
connection, and that it was dropped exactly when a timeout did. -/
structure Truthful (report : Report) (cause : Cause) : Prop where
  left : report.reason = leftReason ↔ cause = .disconnect
  dropped : report.reason = droppedReason ↔ cause = .timeout

/-- Every session whose connect event fired and whose connection was removed has
exactly one report, and that one is truthful; as long as its clean-up is still to
come it has none. -/
def ReportedOnce (state : SessionState) (notes : List Note) : Prop :=
  ∀ id cause, .connect id ∈ notes → .removed id cause ∈ notes →
    if cleanupsOf state.pending id = [] then
      ∃ report, reportsOf notes id = [report] ∧ Truthful report cause
    else reportsOf notes id = []

/-- The state that a run reaches. -/
abbrev reached (events : List Event) : SessionState :=
  sessionMachine.exec SessionState.start events

/-- A connection that accepts a CONNECT has not been reported yet, a connection to be
cleaned up is the one in the table, and when a session that was connected ends,
the latest callback for its address announced a DISCONNECT exactly if one removed it. -/
def ActionFits (state : SessionState) (made : List LogCall) : Action → Prop
  | .handle id (.connect (.accepted _)) =>
      ∀ connection ∈ state.connections[id]?, state.stateOf id ≠ .notConnected →
        state.table.lookup connection.key = some id ∨ cleanupsOf state.pending id ≠ []
  | .cleanupConnection id _ =>
      ∀ connection ∈ state.connections[id]?, state.table.lookup connection.key = some id
  | .cleanup id removal =>
      ∀ connection ∈ state.connections[id]?, connection.heartbeat.isSome = true →
        (DisconnectLast connection.key.addr made ↔ removal.cause = .disconnect)
  | _ => True

instance (state : SessionState) (made : List LogCall) : DecidablePred (ActionFits state made) :=
  fun action => by
    unfold ActionFits
    split <;> infer_instance

def StepFits (before : List Event) : Event → Prop
  | .run _ index => ∀ action ∈ (reached before).pending[index]?,
      ActionFits (reached before) (callsOf before) action
  | _ => True

instance (before : List Event) : DecidablePred (StepFits before) := fun event => by
  unfold StepFits
  split <;> infer_instance

/-! ### The account of a run -/

/-- The stages of a connection, with what has been noted of it at each. -/
inductive Stage (notes : List Note) (state : SessionState) (id : Nat) (connection : Connection) :
    Prop where
  | live (routed : state.table.lookup connection.key = some id)
      (cleanups : cleanupsOf state.pending id = []) (causes : causesOf notes id = [])
      (reports : reportsOf notes id = [])
  | ending (cause : Cause) (unrouted : state.table.lookup connection.key ≠ some id)
      (cleanups : cleanupsOf state.pending id = [cause]) (causes : causesOf notes id = [cause])
      (reports : reportsOf notes id = [])
  | ended (report : Report) (cause : Cause)
      (unrouted : state.table.lookup connection.key ≠ some id)
      (cleanups : cleanupsOf state.pending id = []) (causes : causesOf notes id = [cause])
      (reports : reportsOf notes id = [report])
      (truthful : connection.heartbeat.isSome = true → Truthful report cause)

/-- A stage is read from the table, the clean-ups to come, the notes, and whether the
connection has its heartbeat. -/
theorem Stage.transfer {notes notes' : List Note} {state state' : SessionState} {id : Nat}
    {connection connection' : Connection} (stage : Stage notes state id connection)
    (routed : state'.table.lookup connection'.key = some id ↔
      state.table.lookup connection.key = some id)
    (cleanups : (cleanupsOf state'.pending id).Perm (cleanupsOf state.pending id))
    (causes : causesOf notes' id = causesOf notes id)
    (reports : reportsOf notes' id = reportsOf notes id)
    (heartbeat : connection'.heartbeat.isSome = true → connection.heartbeat.isSome = true) :
    Stage notes' state' id connection' := by
  cases stage with
  | live isRouted noCleanup noCause noReport =>
      rw [noCleanup] at cleanups
      exact .live (routed.mpr isRouted) cleanups.eq_nil (causes.trans noCause)
        (reports.trans noReport)
  | ending cause unrouted oneCleanup oneCause noReport =>
      rw [oneCleanup] at cleanups
      exact .ending cause (mt routed.mp unrouted) (List.perm_singleton.mp cleanups)
        (causes.trans oneCause) (reports.trans noReport)
  | ended report cause unrouted noCleanup oneCause oneReport truthful =>
      rw [noCleanup] at cleanups
      exact .ended report cause (mt routed.mp unrouted) cleanups.eq_nil (causes.trans oneCause)
        (reports.trans oneReport) (fun beating => truthful (heartbeat beating))

/-- The table routes to connections of its keys, a session that was connected, or is
about to be announced as such, has a heartbeat, and every connection is at one of
its stages. -/
structure Accounted (notes : List Note) (state : SessionState) : Prop where
  keyed : ∀ key id, state.table.lookup key = some id →
    ∃ connection, state.connections[id]? = some connection ∧ connection.key = key
  fresh : ∀ id, state.connections.length ≤ id →
    cleanupsOf state.pending id = [] ∧ causesOf notes id = [] ∧ reportsOf notes id = []
  fired : ∀ id, .connect id ∈ notes ∨ .emitConnect id ∈ state.pending →
    ∃ connection, state.connections[id]? = some connection ∧ connection.heartbeat.isSome = true
  stage : ∀ id connection, state.connections[id]? = some connection →
    Stage notes state id connection

theorem accounted_start : Accounted [] SessionState.start where
  keyed := by
    intro key id routed
    cases routed
  fresh := fun _ _ => ⟨rfl, rfl, rfl⟩
  fired := by
    rintro id (connected | connecting)
    · cases connected
    · cases connecting
  stage := by
    intro id connection stored
    cases stored

/-- Same table, and the same connections up to their state and timers, none of
which gains or loses its heartbeat; the same clean-ups to come, and no new connect
event. -/
structure Similar (before after : SessionState) : Prop where
  table : after.table = before.table
  length : after.connections.length = before.connections.length
  forth : ∀ (id : Nat) (connection : Connection), before.connections[id]? = some connection →
    ∃ changed : Connection, after.connections[id]? = some changed ∧ changed.key = connection.key ∧
      changed.heartbeat.isSome = connection.heartbeat.isSome
  cleanups : ∀ id, (cleanupsOf after.pending id).Perm (cleanupsOf before.pending id)
  connects : ∀ id, .emitConnect id ∈ after.pending → .emitConnect id ∈ before.pending

theorem Similar.back {before after : SessionState} (similar : Similar before after) {id : Nat}
    {changed : Connection} (stored : after.connections[id]? = some changed) :
    ∃ connection, before.connections[id]? = some connection ∧
      changed.key = connection.key ∧
        changed.heartbeat.isSome = connection.heartbeat.isSome := by
  have inside : id < before.connections.length := by
    rw [← similar.length]
    exact (List.getElem?_eq_some_iff.mp stored).1
  obtain ⟨other, found, same⟩ :=
    similar.forth id before.connections[id] (List.getElem?_eq_getElem inside)
  rw [stored] at found
  obtain rfl := Option.some.inj found
  exact ⟨_, List.getElem?_eq_getElem inside, same⟩

theorem Accounted.similar {notes : List Note} {before after : SessionState}
    (accounted : Accounted notes before) (similar : Similar before after) :
    Accounted notes after where
  keyed := by
    intro key id routed
    rw [similar.table] at routed
    obtain ⟨connection, stored, rfl⟩ := accounted.keyed key id routed
    obtain ⟨changed, found, same, -⟩ := similar.forth id connection stored
    exact ⟨changed, found, same⟩
  fresh := by
    intro id beyond
    rw [similar.length] at beyond
    obtain ⟨noCleanup, noNote⟩ := accounted.fresh id beyond
    have none := similar.cleanups id
    rw [noCleanup] at none
    exact ⟨none.eq_nil, noNote⟩
  fired := by
    intro id connected
    obtain ⟨connection, stored, beating⟩ :=
      accounted.fired id (connected.imp_right (similar.connects id))
    obtain ⟨changed, found, -, kept⟩ := similar.forth id connection stored
    exact ⟨changed, found, kept.trans beating⟩
  stage := by
    intro id changed stored
    obtain ⟨connection, found, key, kept⟩ := similar.back stored
    refine (accounted.stage id connection found).transfer ?_ (similar.cleanups id) rfl rfl ?_
    · rw [similar.table, key]
    · exact fun beating => kept ▸ beating

/-- A change to one connection that keeps its key and its heartbeat. -/
theorem similar_update (change : Connection → Connection)
    (key : ∀ connection, (change connection).key = connection.key)
    (heartbeat : ∀ connection,
      (change connection).heartbeat.isSome = connection.heartbeat.isSome)
    (state : SessionState) (id : Nat) : Similar state (state.update id change) where
  table := rfl
  length := List.length_modify change state.connections id
  forth := by
    intro other connection stored
    refine ⟨if id = other then change connection else connection, ?_, ?_, ?_⟩
    · unfold SessionState.update
      rw [List.getElem?_modify, stored]
      rfl
    · split
      · exact key connection
      · rfl
    · split
      · exact heartbeat connection
      · rfl
  cleanups := fun _ => List.Perm.refl _
  connects := fun _ waiting => waiting

/-- States with the same table and connections, and with the same goroutines up to
those that neither clean up nor announce a connection. -/
theorem similar_of_eq {before after : SessionState} (table : after.table = before.table)
    (connections : after.connections = before.connections)
    (cleanups : ∀ id, (cleanupsOf after.pending id).Perm (cleanupsOf before.pending id))
    (connects : ∀ id, .emitConnect id ∈ after.pending → .emitConnect id ∈ before.pending) :
    Similar before after where
  table := table
  length := by rw [connections]
  forth := by
    intro id connection stored
    exact ⟨connection, by rw [connections, stored], rfl, rfl⟩
  cleanups := cleanups
  connects := connects

/-- A goroutine that is taken out to act leaves the clean-ups of the others. -/
theorem cleanupsOf_eraseIdx {pending : List Action} {index : Nat} {action : Action}
    (waiting : pending[index]? = some action) (id : Nat) :
    (cleanupsOf pending id).Perm
      ((cleanupOf id action).toList ++ cleanupsOf (pending.eraseIdx index) id) := by
  obtain ⟨inside, rfl⟩ := List.getElem?_eq_some_iff.mp waiting
  have taken := (List.getElem_cons_eraseIdx_perm inside).symm.filterMap (cleanupOf id)
  unfold cleanupsOf
  rw [List.filterMap_cons] at taken
  split at taken
  next nothing =>
    rw [nothing]
    exact taken
  next cause found =>
    rw [found]
    exact taken

/-- Neither a clean-up nor a connect event. -/
def Action.isPlain : Action → Bool
  | .cleanup _ _ => false
  | .emitConnect _ => false
  | _ => true

theorem cleanupOf_plain {action : Action} (plain : action.isPlain = true) (id : Nat) :
    cleanupOf id action = none := by
  cases action with
  | cleanup other removal => cases plain
  | _ => rfl

theorem similar_taken {state : SessionState} {index : Nat} {action : Action}
    (waiting : state.pending[index]? = some action)
    (silent : ∀ id, cleanupOf id action = none) :
    Similar state { state with pending := state.pending.eraseIdx index } := by
  refine similar_of_eq rfl rfl (fun id => ?_) fun id member => ?_
  · have taken := cleanupsOf_eraseIdx waiting id
    rw [silent] at taken
    exact taken.symm
  · exact List.mem_of_mem_eraseIdx member

theorem similar_spawn (state : SessionState) {action : Action} (plain : action.isPlain = true) :
    Similar state (state.spawn action) := by
  refine similar_of_eq rfl rfl (fun id => ?_) fun id member => ?_
  · unfold cleanupsOf SessionState.spawn
    rw [List.filterMap_append, List.filterMap_cons_none (cleanupOf_plain plain id)]
    exact List.Perm.of_eq (List.append_nil _)
  · rcases List.mem_append.mp member with early | new
    · exact early
    · obtain rfl := List.mem_singleton.mp new
      cases plain

/-! ### Changes of stage -/

section Table

variable {table : AList fun _ : Key => Nat} {key other : Key} {id value : Nat}

theorem lookup_insert_cases (found : (table.insert other value).lookup key = some id) :
    key = other ∧ id = value ∨ key ≠ other ∧ table.lookup key = some id := by
  by_cases same : key = other
  · subst same
    rw [AList.lookup_insert] at found
    exact Or.inl ⟨rfl, (Option.some.inj found).symm⟩
  · rw [AList.lookup_insert_ne same] at found
    exact Or.inr ⟨same, found⟩

theorem lookup_of_erase (found : (table.erase other).lookup key = some id) :
    key ≠ other ∧ table.lookup key = some id := by
  have different : key ≠ other := by
    rintro rfl
    rw [AList.lookup_erase] at found
    cases found
  exact ⟨different, (AList.lookup_erase_ne different).symm.trans found⟩

end Table

theorem stored_concat {connections : List Connection} {new connection : Connection} {id : Nat}
    (stored : (connections ++ [new])[id]? = some connection) :
    connections[id]? = some connection ∨ id = connections.length ∧ connection = new := by
  by_cases inside : id < connections.length
  · rw [List.getElem?_append_left inside] at stored
    exact Or.inl stored
  · rw [List.getElem?_append_right (Nat.le_of_not_lt inside)] at stored
    have position := (List.getElem?_eq_some_iff.mp stored).1
    have last : id = connections.length := by
      rw [List.length_singleton] at position
      omega
    subst last
    rw [Nat.sub_self, List.getElem?_cons_zero] at stored
    exact Or.inr ⟨rfl, (Option.some.inj stored).symm⟩

theorem stored_append {connections : List Connection} {connection : Connection} {id : Nat}
    (stored : connections[id]? = some connection) (new : List Connection) :
    (connections ++ new)[id]? = some connection := by
  rw [List.getElem?_append_left (List.getElem?_eq_some_iff.mp stored).1, stored]

theorem accounted_created {notes : List Note} {state : SessionState}
    (accounted : Accounted notes state) {key : Key} (absent : state.table.lookup key = none) :
    Accounted notes
      { state with
        connections := state.connections ++ [Connection.new key]
        table := state.table.insert key state.connections.length } where
  keyed := by
    intro other id routed
    rcases lookup_insert_cases routed with ⟨rfl, rfl⟩ | ⟨-, known⟩
    · exact ⟨Connection.new other, by simp, rfl⟩
    · obtain ⟨connection, stored, keyOf⟩ := accounted.keyed other id known
      exact ⟨connection, stored_append stored _, keyOf⟩
  fresh := by
    intro id beyond
    apply accounted.fresh
    simp only [List.length_append, List.length_singleton] at beyond
    omega
  fired := by
    intro id connected
    obtain ⟨connection, stored, beating⟩ := accounted.fired id connected
    exact ⟨connection, stored_append stored _, beating⟩
  stage := by
    intro id connection stored
    rcases stored_concat stored with known | ⟨rfl, rfl⟩
    · have inside := (List.getElem?_eq_some_iff.mp known).1
      refine (accounted.stage id connection known).transfer ?_ (List.Perm.refl _) rfl rfl
        (fun beating => beating)
      constructor
      · intro found
        rcases lookup_insert_cases found with ⟨-, same⟩ | ⟨-, routed⟩
        · omega
        · exact routed
      · intro routed
        have notNew : connection.key ≠ key := by
          intro same
          rw [same, absent] at routed
          cases routed
        exact (AList.lookup_insert_ne notNew).trans routed
    · obtain ⟨cleanups, causes, reports⟩ := accounted.fresh _ (Nat.le_refl _)
      exact .live (AList.lookup_insert state.table) cleanups causes reports

theorem filterMap_concat {Item Kept : Type} (choose : Item → Option Kept) (items : List Item)
    (item : Item) :
    (items ++ [item]).filterMap choose = items.filterMap choose ++ (choose item).toList := by
  rw [List.filterMap_append]
  cases chosen : choose item <;> simp [chosen]

theorem cleanupsOf_append (pending : List Action) (action : Action) (id : Nat) :
    cleanupsOf (pending ++ [action]) id = cleanupsOf pending id ++ (cleanupOf id action).toList :=
  filterMap_concat (cleanupOf id) pending action

theorem causesOf_append (notes : List Note) (note : Note) (id : Nat) :
    causesOf (notes ++ [note]) id = causesOf notes id ++ (causeOf id note).toList :=
  filterMap_concat (causeOf id) notes note

theorem reportsOf_append (notes : List Note) (note : Note) (id : Nat) :
    reportsOf (notes ++ [note]) id = reportsOf notes id ++ (reportOf id note).toList :=
  filterMap_concat (reportOf id) notes note

/-- The connect event of a session that has its heartbeat. -/
theorem accounted_connect {notes : List Note} {state : SessionState}
    (accounted : Accounted notes state) {id : Nat} {connection : Connection}
    (stored : state.connections[id]? = some connection)
    (beating : connection.heartbeat.isSome = true) :
    Accounted (notes ++ [.connect id]) state := by
  have reports : ∀ other, reportsOf (notes ++ [.connect id]) other = reportsOf notes other :=
    fun other => (reportsOf_append notes _ other).trans (List.append_nil _)
  have causes : ∀ other, causesOf (notes ++ [.connect id]) other = causesOf notes other :=
    fun other => (causesOf_append notes _ other).trans (List.append_nil _)
  refine ⟨accounted.keyed, ?_, ?_, ?_⟩
  · intro other beyond
    rw [reports, causes]
    exact accounted.fresh other beyond
  · rintro other (connected | connecting)
    · rw [List.mem_append, List.mem_singleton, Note.connect.injEq] at connected
      rcases connected with before | rfl
      · exact accounted.fired other (Or.inl before)
      · exact ⟨connection, stored, beating⟩
    · exact accounted.fired other (Or.inr connecting)
  · intro other known found
    exact (accounted.stage other known found).transfer Iff.rfl (List.Perm.refl _) (causes other)
      (reports other) (fun beating => beating)

/-- A connection that is not reported yet gets its heartbeat, and its connect event
is to come. -/
theorem accounted_accepted {notes : List Note} {state : SessionState}
    (accounted : Accounted notes state) {id : Nat} {connection : Connection}
    (stored : state.connections[id]? = some connection)
    (unreported : state.table.lookup connection.key = some id ∨
      cleanupsOf state.pending id ≠ []) (pid : UInt64) :
    Accounted notes ((state.update id (Connection.accept pid)).spawn (.emitConnect id)) := by
  have cleanups : ∀ other, cleanupsOf (state.pending ++ [.emitConnect id]) other =
      cleanupsOf state.pending other :=
    fun other => (cleanupsOf_append _ _ other).trans (List.append_nil _)
  have here : (state.connections.modify id (Connection.accept pid))[id]? =
      some (connection.accept pid) := by
    rw [List.getElem?_modify_eq, stored]
    rfl
  have elsewhere : ∀ other, other ≠ id →
      (state.connections.modify id (Connection.accept pid))[other]? =
        state.connections[other]? := by
    intro other different
    simp [Ne.symm different]
  refine ⟨?_, ?_, ?_, ?_⟩
  · intro key other routed
    obtain ⟨known, found, keyOf⟩ := accounted.keyed key other routed
    by_cases same : other = id
    · subst same
      rw [stored] at found
      obtain rfl := Option.some.inj found
      exact ⟨connection.accept pid, here, keyOf⟩
    · exact ⟨known, (elsewhere other same).trans found, keyOf⟩
  · intro other beyond
    have outside : state.connections.length ≤ other := by
      rw [← List.length_modify (Connection.accept pid) state.connections id]
      exact beyond
    obtain ⟨noCleanup, noNote⟩ := accounted.fresh other outside
    exact ⟨(cleanups other).trans noCleanup, noNote⟩
  · intro other connected
    by_cases same : other = id
    · subst same
      exact ⟨connection.accept pid, here, rfl⟩
    · have earlier : .connect other ∈ notes ∨ .emitConnect other ∈ state.pending := by
        refine connected.imp_right fun waiting => ?_
        rcases List.mem_append.mp waiting with early | new
        · exact early
        · exact absurd (Action.emitConnect.inj (List.mem_singleton.mp new)) same
      obtain ⟨known, found, beating⟩ := accounted.fired other earlier
      exact ⟨known, (elsewhere other same).trans found, beating⟩
  · intro other known found
    by_cases same : other = id
    · subst same
      obtain rfl : connection.accept pid = known := Option.some.inj (here.symm.trans found)
      cases accounted.stage other connection stored with
      | live routed noCleanup causes reports =>
          exact .live routed ((cleanups other).trans noCleanup) causes reports
      | ending cause unrouted oneCleanup causes reports =>
          exact .ending cause unrouted ((cleanups other).trans oneCleanup) causes reports
      | ended report cause unrouted noCleanup causes reports truthful =>
          exact absurd unreported (not_or.mpr ⟨unrouted, not_not.mpr noCleanup⟩)
    · have before : state.connections[other]? = some known :=
        (elsewhere other same).symm.trans found
      exact (accounted.stage other known before).transfer Iff.rfl (List.Perm.of_eq (cleanups other))
        rfl rfl (fun beating => beating)

/-- A connection in the table is deleted from it, and its clean-up is to come. -/
theorem accounted_removed {notes : List Note} {state : SessionState}
    (accounted : Accounted notes state) {id : Nat} {connection : Connection}
    (stored : state.connections[id]? = some connection)
    (routed : state.table.lookup connection.key = some id) (removal : Removal) :
    Accounted (notes ++ [.removed id removal.cause])
      (SessionState.spawn { state with table := state.table.erase connection.key }
        (.cleanup id removal)) := by
  have reports : ∀ other, reportsOf (notes ++ [.removed id removal.cause]) other =
      reportsOf notes other :=
    fun other => (reportsOf_append notes _ other).trans (List.append_nil _)
  have others : ∀ other, other ≠ id →
      causesOf (notes ++ [.removed id removal.cause]) other = causesOf notes other ∧
        cleanupsOf (state.pending ++ [.cleanup id removal]) other =
          cleanupsOf state.pending other := by
    intro other different
    rw [causesOf_append, cleanupsOf_append]
    simp [causeOf, cleanupOf, Ne.symm different]
  have inside := (List.getElem?_eq_some_iff.mp stored).1
  have connects : ∀ other, .connect other ∈ notes ++ [.removed id removal.cause] ∨
      .emitConnect other ∈ state.pending ++ [.cleanup id removal] →
        .connect other ∈ notes ∨ .emitConnect other ∈ state.pending := by
    intro other connected
    simpa using connected
  refine ⟨?_, ?_, ?_, ?_⟩
  · intro key other otherRouted
    exact accounted.keyed key other (lookup_of_erase otherRouted).2
  · intro other beyond
    have different : other ≠ id := by
      dsimp only [SessionState.spawn] at beyond
      omega
    obtain ⟨noCleanup, noCause, noReport⟩ := accounted.fresh other beyond
    exact ⟨(others other different).2.trans noCleanup, (others other different).1.trans noCause,
      (reports other).trans noReport⟩
  · intro other connected
    exact accounted.fired other (connects other connected)
  · intro other known found
    by_cases same : other = id
    · subst same
      obtain rfl : connection = known := Option.some.inj (stored.symm.trans found)
      cases accounted.stage other connection stored with
      | live _ noCleanup noCause noReport =>
          refine .ending removal.cause ?_ ?_ ?_ ((reports other).trans noReport)
          · dsimp only [SessionState.spawn]
            rw [AList.lookup_erase]
            exact fun absent => by cases absent
          · exact (cleanupsOf_append _ _ other).trans (by simp [noCleanup, cleanupOf])
          · exact (causesOf_append _ _ other).trans (by simp [noCause, causeOf])
      | ending cause unrouted _ _ _ => exact absurd routed unrouted
      | ended report cause unrouted _ _ _ _ => exact absurd routed unrouted
    · obtain ⟨sameCauses, sameCleanups⟩ := others other same
      refine (accounted.stage other known found).transfer ?_ (List.Perm.of_eq sameCleanups)
        sameCauses (reports other) (fun beating => beating)
      constructor
      · exact fun remaining => (lookup_of_erase remaining).2
      · intro before
        have otherKey : known.key ≠ connection.key := by
          intro sameKey
          rw [sameKey, routed] at before
          exact same (Option.some.inj before).symm
        exact (AList.lookup_erase_ne otherKey).trans before

/-- The clean-up of a deleted connection, which is reported. -/
theorem accounted_ended {notes : List Note} {state : SessionState}
    (accounted : Accounted notes state) {index id : Nat} {removal : Removal}
    (waiting : state.pending[index]? = some (.cleanup id removal)) {connection : Connection}
    (stored : state.connections[id]? = some connection) (report : Report)
    (own : report.connection = id)
    (truthful : connection.heartbeat.isSome = true → Truthful report removal.cause) :
    Accounted (notes ++ [.report report])
      { state with pending := state.pending.eraseIdx index } := by
  have causes : ∀ other, causesOf (notes ++ [.report report]) other = causesOf notes other :=
    fun other => (causesOf_append notes _ other).trans (List.append_nil _)
  have taken := cleanupsOf_eraseIdx waiting
  have others : ∀ other, other ≠ id →
      reportsOf (notes ++ [.report report]) other = reportsOf notes other ∧
        (cleanupsOf (state.pending.eraseIdx index) other).Perm
          (cleanupsOf state.pending other) := by
    intro other different
    constructor
    · rw [reportsOf_append]
      simp [reportOf, own, Ne.symm different]
    · have unchanged := taken other
      rw [show cleanupOf other (.cleanup id removal) = none from if_neg (Ne.symm different)]
        at unchanged
      exact unchanged.symm
  have inside := (List.getElem?_eq_some_iff.mp stored).1
  refine ⟨accounted.keyed, ?_, ?_, ?_⟩
  · intro other beyond
    have different : other ≠ id := by
      dsimp only at beyond
      omega
    obtain ⟨sameReports, sameCleanups⟩ := others other different
    obtain ⟨noCleanup, noCause, noReport⟩ := accounted.fresh other beyond
    rw [noCleanup] at sameCleanups
    exact ⟨sameCleanups.eq_nil, (causes other).trans noCause, sameReports.trans noReport⟩
  · intro other connected
    apply accounted.fired other
    refine connected.imp (fun noted => ?_) fun pending => List.mem_of_mem_eraseIdx pending
    simpa using noted
  · intro other known found
    by_cases same : other = id
    · subst same
      obtain rfl : connection = known := Option.some.inj (stored.symm.trans found)
      have one := taken other
      rw [show cleanupOf other (.cleanup other removal) = some removal.cause from if_pos rfl] at one
      cases accounted.stage other connection stored with
      | live _ noCleanup _ _ =>
          rw [noCleanup] at one
          exact absurd one.nil_eq (by simp)
      | ended _ _ _ noCleanup _ _ _ =>
          rw [noCleanup] at one
          exact absurd one.nil_eq (by simp)
      | ending cause unrouted oneCleanup oneCause noReport =>
          rw [oneCleanup] at one
          obtain ⟨rfl, nothing⟩ := List.cons.inj (List.singleton_perm.mp one)
          refine .ended report _ unrouted nothing.symm ((causes other).trans oneCause) ?_ truthful
          rw [reportsOf_append, noReport]
          simp [reportOf, own]
    · obtain ⟨sameReports, sameCleanups⟩ := others other same
      exact (accounted.stage other known found).transfer Iff.rfl sameCleanups (causes other)
        sameReports (fun beating => beating)

/-! ### The handlers -/

theorem truthful_of_mark {marked : Bool} {cause : Cause} {report : Report}
    (reason : report.reason = if marked then leftReason else droppedReason)
    (fits : marked = true ↔ cause = .disconnect) : Truthful report cause := by
  have different : leftReason ≠ droppedReason := by decide +kernel
  rcases marked with _ | _
  · have timeout : cause = .timeout := by
      rcases cause with _ | _
      · exact absurd (fits.mpr rfl) (by decide)
      · rfl
    subst timeout
    rw [if_neg (by decide)] at reason
    refine ⟨?_, ?_⟩
    · rw [reason]
      exact ⟨fun equal => absurd equal (Ne.symm different), fun impossible => by cases impossible⟩
    · rw [reason]
      exact ⟨fun _ => rfl, fun _ => rfl⟩
  · obtain rfl := fits.mp rfl
    rw [if_pos rfl] at reason
    refine ⟨?_, ?_⟩
    · rw [reason]
      exact ⟨fun _ => rfl, fun _ => rfl⟩
    · rw [reason]
      exact ⟨fun equal => absurd equal different, fun impossible => by cases impossible⟩

theorem resetHeartbeat_heartbeat (connection : Connection) :
    connection.resetHeartbeat.heartbeat.isSome = connection.heartbeat.isSome := by
  simp [Connection.resetHeartbeat]

theorem handleTraffic_accounted {notes : List Note} {state : SessionState}
    (accounted : Accounted notes state) (id : Nat) :
    Accounted notes (handleTraffic state id).after := by
  unfold handleTraffic
  split
  · exact accounted.similar (similar_update Connection.resetHeartbeat (fun _ => rfl)
      resetHeartbeat_heartbeat state id)
  · exact accounted

theorem handleConnect_accounted {notes : List Note} {state : SessionState}
    (accounted : Accounted notes state) (id : Nat) (ticket : Ticket)
    (unreported : ∀ connection ∈ state.connections[id]?, state.stateOf id ≠ .notConnected →
      ∀ pid, ticket = .accepted pid →
        state.table.lookup connection.key = some id ∨ cleanupsOf state.pending id ≠ []) :
    Accounted notes (handleConnect state id ticket).after := by
  unfold handleConnect
  split
  · exact accounted
  next connecting =>
    cases ticket with
    | refused =>
        exact accounted.similar (similar_update Connection.resetHeartbeat (fun _ => rfl)
          resetHeartbeat_heartbeat state id)
    | refusedAfter pid =>
        exact accounted.similar (similar_update (Connection.identify pid) (fun _ => rfl)
          resetHeartbeat_heartbeat state id)
    | accepted pid =>
        rcases stored : state.connections[id]? with _ | connection
        · exact absurd (by rw [SessionState.stateOf, stored]; rfl) connecting
        · exact accounted_accepted accounted stored
            (unreported connection stored connecting pid rfl) pid

theorem handleDisconnect_accounted {notes : List Note} {state : SessionState}
    (accounted : Accounted notes state) (id : Nat) :
    Accounted notes (handleDisconnect state id).after := by
  unfold handleDisconnect SessionState.withConnection
  split
  · exact accounted
  · dsimp only
    split
    · exact accounted.similar (similar_spawn state rfl)
    · exact accounted.similar (similar_spawn state rfl)

theorem handlePacket_accounted {notes : List Note} {state : SessionState}
    (accounted : Accounted notes state) (id : Nat) (packet : Packet)
    (unreported : ∀ connection ∈ state.connections[id]?, state.stateOf id ≠ .notConnected →
      ∀ pid, packet = .connect (.accepted pid) →
        state.table.lookup connection.key = some id ∨ cleanupsOf state.pending id ≠ []) :
    Accounted notes (handlePacket state id packet).after := by
  cases packet with
  | syn =>
      exact accounted.similar (similar_update Connection.greet (fun _ => rfl)
        resetHeartbeat_heartbeat state id)
  | connect ticket =>
      refine handleConnect_accounted accounted id ticket
        fun connection stored connecting pid isIt =>
          unreported connection stored connecting pid (congrArg Packet.connect isIt)
  | data => exact handleTraffic_accounted accounted id
  | ping => exact handleTraffic_accounted accounted id
  | ack => exact handleTraffic_accounted accounted id
  | disconnect => exact handleDisconnect_accounted accounted id

theorem cleanup_heartbeat (connection : Connection) :
    connection.cleanup.heartbeat.isSome = connection.heartbeat.isSome := by
  simp [Connection.cleanup, Connection.reset, Connection.stopHeartbeatTimers]

/-- States that differ in the log only. -/
theorem similar_log (state : SessionState) (sessStart : AList fun _ : Bytes => Nat)
    (sessExplicit : AList fun _ : Bytes => Bool) :
    Similar state { state with sessStart := sessStart, sessExplicit := sessExplicit } :=
  similar_of_eq rfl rfl (fun _ => List.Perm.refl _) fun _ waiting => waiting

/-! ### One step -/

section Step

variable {notes : List Note} {state : SessionState} {index : Nat}

theorem runHandle_accounted (accounted : Accounted notes state) {id : Nat} {packet : Packet}
    (waiting : state.pending[index]? = some (.handle id packet)) {made : List LogCall}
    (fits : ActionFits state made (.handle id packet)) :
    Accounted notes
      (handlePacket { state with pending := state.pending.eraseIdx index } id packet).after := by
  have taken := similar_taken waiting fun _ => rfl
  refine handlePacket_accounted (accounted.similar taken) id packet ?_
  rintro connection stored connecting pid rfl
  refine (fits connection stored connecting).imp (fun routed => routed) fun ending nothing => ?_
  have none := taken.cleanups id
  rw [nothing] at none
  exact ending none.nil_eq.symm

theorem runEmitConnect_accounted (accounted : Accounted notes state) {id : Nat}
    (waiting : state.pending[index]? = some (.emitConnect id)) (now : Nat) :
    Accounted (notes ++ (emitConnect now
        { state with pending := state.pending.eraseIdx index } id).notes)
      (emitConnect now { state with pending := state.pending.eraseIdx index } id).after := by
  obtain ⟨connection, stored, beating⟩ :=
    accounted.fired id (Or.inr (List.mem_of_getElem? waiting))
  have taken := accounted.similar (similar_taken waiting fun _ => rfl)
  unfold emitConnect SessionState.withConnection
  rw [stored]
  exact accounted_connect (taken.similar (similar_log _ _ _)) stored beating

theorem runCleanupConnection_accounted (accounted : Accounted notes state) {id : Nat}
    {removal : Removal} (waiting : state.pending[index]? = some (.cleanupConnection id removal))
    {made : List LogCall} (fits : ActionFits state made (.cleanupConnection id removal)) :
    Accounted (notes ++ (cleanupConnection
        { state with pending := state.pending.eraseIdx index } id removal).notes)
      (cleanupConnection { state with pending := state.pending.eraseIdx index } id
        removal).after := by
  have taken := accounted.similar (similar_taken waiting fun _ => rfl)
  unfold cleanupConnection SessionState.withConnection
  rcases stored : state.connections[id]? with _ | connection
  · exact (List.append_nil notes).symm ▸ taken
  · have routed : state.table.lookup connection.key = some id := fits connection stored
    dsimp only
    rw [routed]
    exact accounted_removed taken stored routed removal

theorem runCleanup_accounted (accounted : Accounted notes state) {id : Nat} {removal : Removal}
    (waiting : state.pending[index]? = some (.cleanup id removal)) {made : List LogCall}
    (marks : ∀ addr, state.explicit addr = true ↔ DisconnectLast addr made)
    (fits : ActionFits state made (.cleanup id removal)) (now : Nat) :
    Accounted (notes ++ (cleanup now
        { state with pending := state.pending.eraseIdx index } id removal).notes)
      (cleanup now { state with pending := state.pending.eraseIdx index } id removal).after := by
  unfold cleanup SessionState.withConnection
  rcases stored : state.connections[id]? with _ | connection
  · -- no goroutine cleans up a connection that does not exist
    have none := (accounted.fresh id (List.getElem?_eq_none_iff.mp stored)).1
    have one := cleanupsOf_eraseIdx waiting id
    rw [none, show cleanupOf id (.cleanup id removal) = some removal.cause from if_pos rfl] at one
    exact absurd one.nil_eq (by simp)
  · have ended := accounted_ended accounted waiting stored
      (onConnectionEnded now state id connection).2 rfl fun beating =>
        truthful_of_mark rfl ((marks connection.key.addr).trans (fits connection stored beating))
    have cleaned := ended.similar
      (similar_update Connection.cleanup (fun _ => rfl) cleanup_heartbeat _ id)
    cases removal with
    | timeout => exact cleaned.similar (similar_log _ _ _)
    | disconnect sender =>
        exact (cleaned.similar (similar_log _ _ _)).similar (similar_spawn _ rfl)

theorem runAction_accounted (accounted : Accounted notes state) {action : Action}
    (waiting : state.pending[index]? = some action) {made : List LogCall}
    (marks : ∀ addr, state.explicit addr = true ↔ DisconnectLast addr made)
    (fits : ActionFits state made action) (now : Nat) :
    Accounted (notes ++ (runAction now state index action).2)
      (runAction now state index action).1 := by
  cases action with
  | handle id packet =>
      have silent := (handlePacket_log
        { state with pending := state.pending.eraseIdx index } id packet).2
      dsimp only [runAction, perform]
      rw [silent, List.append_nil]
      exact runHandle_accounted accounted waiting fits
  | emitConnect id => exact runEmitConnect_accounted accounted waiting now
  | heartbeat id =>
      have taken := accounted.similar (similar_taken waiting fun _ => rfl)
      exact (List.append_nil notes).symm ▸ taken.similar
        (similar_update Connection.startPingKick (fun _ => rfl) (fun _ => rfl) _ id)
  | cleanupConnection id removal => exact runCleanupConnection_accounted accounted waiting fits
  | cleanup id removal => exact runCleanup_accounted accounted waiting marks fits now
  | emitDisconnect id =>
      have taken := accounted.similar (similar_taken waiting fun _ => rfl)
      dsimp only [runAction, perform, emitDisconnect, SessionState.withConnection]
      split
      · exact (List.append_nil notes).symm ▸ taken
      · exact (List.append_nil notes).symm ▸ taken.similar (similar_log _ _ _)

end Step

theorem getOrSetDefault_accounted {notes : List Note} {state : SessionState}
    (accounted : Accounted notes state) (key : Key) :
    Accounted notes (getOrSetDefault state key).1 := by
  unfold getOrSetDefault
  rcases routed : state.table.lookup key with _ | id
  · exact accounted_created accounted routed
  · exact accounted

/-- A timer that runs out changes its own connection only, which keeps its key
and heartbeat. -/
theorem expire_keeps {connection changed : Connection} {id : Nat} {kind : TimerKind}
    {action : Action} (expired : connection.expire id kind = some (changed, action)) :
    changed.key = connection.key ∧
      changed.heartbeat.isSome = connection.heartbeat.isSome ∧ action.isPlain = true := by
  rcases kind with _ | _ | _ | _ <;> simp only [Connection.expire] at expired <;>
    split at expired <;> cases expired <;> simp_all [Action.isPlain]

theorem similar_expired {state : SessionState} {id : Nat} {connection changed : Connection}
    (stored : state.connections[id]? = some connection) (key : changed.key = connection.key)
    (heartbeat : changed.heartbeat.isSome = connection.heartbeat.isSome) :
    Similar state (state.update id fun _ => changed) where
  table := rfl
  length := List.length_modify _ state.connections id
  forth := by
    intro other known found
    unfold SessionState.update
    rw [List.getElem?_modify, found]
    by_cases same : id = other
    · subst same
      rw [stored] at found
      obtain rfl := Option.some.inj found
      exact ⟨changed, by simp, key, heartbeat⟩
    · exact ⟨known, by simp [same], rfl, rfl⟩
  cleanups := fun _ => List.Perm.refl _
  connects := fun _ waiting => waiting

theorem sessionStep_accounted {notes : List Note} {before : List Event}
    (accounted : Accounted notes (reached before)) (event : Event)
    (marks : ∀ addr, (reached before).explicit addr = true ↔
      DisconnectLast addr (callsOf before)) (fits : StepFits before event) :
    Accounted (notes ++ (sessionStep (reached before) event).2)
      (sessionStep (reached before) event).1 := by
  cases event with
  | packet key packet =>
      exact (List.append_nil notes).symm ▸ (getOrSetDefault_accounted accounted key).similar
        (similar_spawn _ rfl)
  | expire id kind =>
      dsimp only [sessionStep]
      split
      · exact (List.append_nil notes).symm ▸ accounted
      next changed action expired =>
        obtain ⟨connection, stored, ran⟩ := Option.bind_eq_some_iff.mp expired
        obtain ⟨key, heartbeat, plain⟩ := expire_keeps ran
        exact (List.append_nil notes).symm ▸
          (accounted.similar (similar_expired stored key heartbeat)).similar
            (similar_spawn _ plain)
  | giveUp id =>
      dsimp only [sessionStep]
      split
      · exact (List.append_nil notes).symm ▸ accounted.similar (similar_spawn _ rfl)
      · exact (List.append_nil notes).symm ▸ accounted
  | run now index =>
      dsimp only [sessionStep]
      rcases waiting : (reached before).pending[index]? with _ | action
      · exact (List.append_nil notes).symm ▸ accounted
      · exact runAction_accounted accounted waiting marks (fits action waiting) now

/-- The mark of an address in a run was set by the latest callback for it. -/
theorem explicit_iff_disconnectLast (events : List Event) (addr : Bytes) :
    (reached events).explicit addr = true ↔ DisconnectLast addr (callsOf events) := by
  rw [← marked_iff_disconnectLast, callsOf]
  have driven := (run_drives SessionState.start events).1
  change (reached events).log = numberedMachine.exec .empty _ at driven
  rw [← driven]
  rfl

theorem exec_accounted (events : List Event) (fits : Everywhere StepFits events) :
    Accounted (sessionMachine.log SessionState.start events) (reached events) := by
  induction events using List.reverseRecOn with
  | nil => exact accounted_start
  | append_singleton events event inductionHypothesis =>
      rw [everywhere_append_singleton] at fits
      rw [Machine.log_append_singleton, reached, Machine.exec_append_singleton]
      exact sessionStep_accounted (inductionHypothesis fits.1) event
        (explicit_iff_disconnectLast events) fits.2

/-! ### The main result -/

theorem mem_causesOf {notes : List Note} {id : Nat} {cause : Cause}
    (removed : .removed id cause ∈ notes) : cause ∈ causesOf notes id :=
  List.mem_filterMap.mpr ⟨.removed id cause, removed, by simp [causeOf]⟩

theorem Accounted.reportedOnce {notes : List Note} {state : SessionState}
    (accounted : Accounted notes state) : ReportedOnce state notes := by
  intro id cause connected removed
  have listed := mem_causesOf removed
  obtain ⟨connection, stored, beating⟩ := accounted.fired id (Or.inl connected)
  cases accounted.stage id connection stored with
  | live _ _ noCause _ =>
      rw [noCause] at listed
      cases listed
  | ending _ _ oneCleanup _ noReport =>
      rw [oneCleanup, if_neg (List.cons_ne_nil _ _)]
      exact noReport
  | ended report found _ noCleanup oneCause oneReport truthful =>
      rw [oneCause, List.mem_singleton] at listed
      subst listed
      rw [if_pos noCleanup]
      exact ⟨report, oneReport, truthful beating⟩

/-- Along every run whose steps fit, every session that was connected and removed
gets one report, with the reason of its removal. -/
theorem fitting_run_reportedOnce (events : List Event) (fits : Everywhere StepFits events) :
    ReportedOnce (reached events) (sessionMachine.log SessionState.start events) :=
  (exec_accounted events fits).reportedOnce

def console : Key := ⟨0, ascii "203.0.113.7:50000", 10, 1⟩

/-- A SYN and a CONNECT, each handled when it comes. -/
def arrival : List Event :=
  [.packet console .syn, .run 0 0, .packet console (.connect (.accepted 1800000001)), .run 1 0,
    .run 1 0]

/-- A console that falls silent: both of its timers run out, and it is removed,
cleaned up and reported. -/
def silentRun : List Event :=
  arrival ++ [.expire 0 .heartbeat, .run 8 0, .expire 0 .pingKick, .run 12 0, .run 12 0]

theorem silentRun_reportedOnce :
    .removed 0 .timeout ∈ sessionMachine.log SessionState.start silentRun ∧
      cleanupsOf (reached silentRun).pending 0 = [] ∧
      ReportedOnce (reached silentRun) (sessionMachine.log SessionState.start silentRun) := by
  have fits : Everywhere StepFits silentRun := by decide +kernel
  exact ⟨by decide +kernel, by decide +kernel, fitting_run_reportedOnce silentRun fits⟩

/-- A console that leaves with a DISCONNECT. -/
def leavingRun : List Event :=
  arrival ++ [.packet console .disconnect, .run 60 0, .run 60 0, .run 60 0, .run 60 0]

theorem leavingRun_log :
    sessionMachine.log SessionState.start leavingRun =
        [.connect 0, .removed 0 .disconnect,
          .report ⟨0, 0, 1800000001, console.addr, some 59, droppedReason⟩] ∧
      (reached leavingRun).pending = [] := by
  decide +kernel

/-- The endpoint ends the connection before it announces the DISCONNECT, so the
console that left is reported as dropped. -/
theorem leavingRun_not_reportedOnce :
    ¬ ReportedOnce (reached leavingRun) (sessionMachine.log SessionState.start leavingRun) := by
  obtain ⟨notes, idle⟩ := leavingRun_log
  rw [notes]
  intro reported
  have once := reported 0 .disconnect (by simp) (by simp)
  rw [idle, if_pos (show cleanupsOf [] 0 = [] from rfl)] at once
  obtain ⟨report, reports, truthful⟩ := once
  obtain rfl : ⟨0, 0, 1800000001, console.addr, some 59, droppedReason⟩ = report := by
    apply List.head_eq_of_cons_eq
    exact reports
  have left := truthful.left.mpr rfl
  revert left
  decide +kernel

end CommunityServers.Session
