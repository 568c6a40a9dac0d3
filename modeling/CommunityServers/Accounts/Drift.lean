import CommunityServers.Accounts.Lookup

/-!
Contract: memory against the database under concurrent registrations.

Owns:
- the machine whose steps are the upsert of one registration, its store update
  and a restart of the process, in any interleaving, with whatever the database
  does at each of them;
- the invariant that publishing what is in flight, in upsert order, brings the
  store to the table, as long as every start reads the table and the last upsert
  of a PID is not published before the others;
- a run in which two registrations of one PID leave the two apart.

Does not own: requests that fail their checks, which have no effect here.
-/

set_option autoImplicit false

namespace CommunityServers.Accounts

open CommunityServers.Foundation

/-- The table, whether this process has a database, the store, and the
registrations between their two steps, in the order of their upserts. -/
structure DriftState where
  table : AccountTable
  connected : Bool
  accounts : AccountStore
  inFlight : List (Bytes × Bytes)

def DriftState.postgres (state : DriftState) : Postgres :=
  openPostgres state.table state.connected

inductive DriftEvent where
  | upsert (request : Request) (works : Bool)
  | publish (index : Nat)
  | restart (nexAccounts : Bytes) (reached : Bool) (outcome : LoadOutcome)

/-- The process right after a start. -/
def driftStart (nexAccounts : Bytes) (table : AccountTable) (reached : Bool)
    (outcome : LoadOutcome) : DriftState :=
  ⟨table, reached, startAccounts nexAccounts (openPostgres table reached) outcome, []⟩

def driftStep (http : NetHTTP) (state : DriftState) : DriftEvent → DriftState
  | .upsert request works =>
      match checkRegister http request with
      | .error _ => state
      | .ok (pid, pw) =>
          match saveAccount state.postgres works pid pw with
          | none => state
          | some postgres =>
              { state with
                table := postgres.getD state.table
                inFlight := state.inFlight ++ [(pid, pw)] }
  | .publish index =>
      match state.inFlight[index]? with
      | none => state
      | some (pid, pw) =>
          { state with
            accounts := state.accounts.set pid pw
            inFlight := state.inFlight.eraseIdx index }
  | .restart nexAccounts reached outcome => driftStart nexAccounts state.table reached outcome

def driftMachine (http : NetHTTP) : Machine DriftState DriftEvent Unit where
  step := driftStep http
  emit := fun _ _ => []

/-- A start reaches the database and reads every row whose password is not the one
that the environment gives. -/
@[mk_iff]
structure LoadsTable (nexAccounts : Bytes) (table : AccountTable) (reached : Bool)
    (outcome : LoadOutcome) : Prop where
  reached : reached = true
  rows : ∀ row ∈ table.entries, outcome.reads row.1 = true ∨
    (seedAccountsFromEnv nexAccounts ∅).get row.1 = some row.2

instance (nexAccounts : Bytes) (table : AccountTable) (reached : Bool) (outcome : LoadOutcome) :
    Decidable (LoadsTable nexAccounts table reached outcome) :=
  decidable_of_iff' _ (loadsTable_iff nexAccounts table reached outcome)

/-- Every row of the table is in the store. -/
def InStep (state : DriftState) : Prop :=
  ∀ pid pw, state.table.lookup pid = some pw → state.accounts.get pid = some pw

/-- No restart that reads the table changes the password used for a registered
PID. -/
def RestartKeeps (http : NetHTTP) (state : DriftState) : Prop :=
  ∀ nexAccounts reached outcome, LoadsTable nexAccounts state.table reached outcome →
    ∀ fixed pid, (state.table.lookup pid).isSome = true →
      passwordForPID fixed
          (driftStep http state (.restart nexAccounts reached outcome)).accounts pid =
        passwordForPID fixed state.accounts pid

/-- A store update leaves one of the same PID with a later upsert waiting, or none
with an earlier upsert and another password; a restart reads the table. -/
def Orderly (state : DriftState) : DriftEvent → Prop
  | .upsert _ _ => True
  | .publish index =>
      ∀ pair ∈ state.inFlight[index]?,
        (∃ later ∈ state.inFlight.drop (index + 1), later.1 = pair.1) ∨
        ∀ earlier ∈ state.inFlight.take index, earlier.1 = pair.1 → earlier.2 = pair.2
  | .restart nexAccounts reached outcome => LoadsTable nexAccounts state.table reached outcome

instance (state : DriftState) : (event : DriftEvent) → Decidable (Orderly state event)
  | .upsert _ _ => isTrue trivial
  | .publish index =>
      inferInstanceAs (Decidable (∀ pair ∈ state.inFlight[index]?,
        (∃ later ∈ state.inFlight.drop (index + 1), later.1 = pair.1) ∨
        ∀ earlier ∈ state.inFlight.take index, earlier.1 = pair.1 → earlier.2 = pair.2))
  | .restart nexAccounts reached outcome =>
      inferInstanceAs (Decidable (LoadsTable nexAccounts state.table reached outcome))

/-! ### The last update of a PID -/

theorem settle_of_present {pid : Bytes} {pairs : List (Bytes × Bytes)}
    (present : ∃ pair ∈ pairs, pair.1 = pid) (first second : Option Bytes) :
    settle pid first pairs = settle pid second pairs := by
  induction pairs generalizing first second with
  | nil =>
      obtain ⟨pair, member, -⟩ := present
      exact absurd member List.not_mem_nil
  | cons head rest inductionHypothesis =>
      rw [settle_cons, settle_cons]
      by_cases same : head.1 = pid
      · rw [if_pos same, if_pos same]
      · rw [if_neg same, if_neg same]
        obtain ⟨pair, member, isPid⟩ := present
        rcases List.mem_cons.mp member with rfl | later
        · exact absurd isPid same
        · exact inductionHypothesis ⟨pair, later, isPid⟩ first second

theorem settle_of_same {pid pw : Bytes} {pairs : List (Bytes × Bytes)}
    (same : ∀ pair ∈ pairs, pair.1 = pid → pair.2 = pw) :
    settle pid (some pw) pairs = some pw := by
  induction pairs with
  | nil => rfl
  | cons head rest inductionHypothesis =>
      obtain ⟨first, others⟩ := List.forall_mem_cons.mp same
      rw [settle_cons]
      by_cases isPid : head.1 = pid
      · rw [if_pos isPid, first isPid]
        exact inductionHypothesis others
      · rw [if_neg isPid]
        exact inductionHypothesis others

/-! ### The invariant -/

/-- The process has the database, and the store holds the table once everything in
flight is published in order. -/
structure Tracks (state : DriftState) : Prop where
  connected : state.connected = true
  settled : ∀ pid pw, state.table.lookup pid = some pw →
    settle pid (state.accounts.get pid) state.inFlight = some pw

theorem startAccounts_of_loadsTable {nexAccounts : Bytes} {table : AccountTable}
    {reached : Bool} {outcome : LoadOutcome}
    (loads : LoadsTable nexAccounts table reached outcome) {pid pw : Bytes}
    (stored : table.lookup pid = some pw) :
    (startAccounts nexAccounts (openPostgres table reached) outcome).get pid = some pw := by
  rw [loads.reached]
  show (startAccounts nexAccounts (some table) outcome).get pid = some pw
  rw [startAccounts_get, stored]
  by_cases read : outcome.reads pid = true
  · rw [if_pos read]
    rfl
  · rw [if_neg read, Option.none_or]
    rcases loads.rows ⟨pid, pw⟩ (AList.mem_lookup_iff.mp stored) with isRead | seeded
    · exact absurd isRead read
    · exact seeded

theorem tracks_start {nexAccounts : Bytes} {table : AccountTable} {reached : Bool}
    {outcome : LoadOutcome} (loads : LoadsTable nexAccounts table reached outcome) :
    Tracks (driftStart nexAccounts table reached outcome) :=
  ⟨loads.reached, fun _ _ stored => startAccounts_of_loadsTable loads stored⟩

theorem Tracks.upserted {state : DriftState} (tracks : Tracks state) (pid pw : Bytes) :
    Tracks { state with
      table := state.table.insert pid pw
      inFlight := state.inFlight ++ [(pid, pw)] } := by
  refine ⟨tracks.connected, fun key value stored => ?_⟩
  dsimp only at stored ⊢
  rw [settle_append, settle_cons, settle_nil]
  by_cases same : pid = key
  · rw [same, AList.lookup_insert] at stored
    rw [if_pos same, stored]
  · rw [AList.lookup_insert_ne (Ne.symm same)] at stored
    rw [if_neg same]
    exact tracks.settled key value stored

theorem Tracks.published {state : DriftState} (tracks : Tracks state)
    {first second : List (Bytes × Bytes)} {pid pw : Bytes}
    (split : state.inFlight = first ++ (pid, pw) :: second)
    (orderly : (∃ later ∈ second, later.1 = pid) ∨
      ∀ earlier ∈ first, earlier.1 = pid → earlier.2 = pw) :
    Tracks { state with
      accounts := state.accounts.set pid pw
      inFlight := first ++ second } := by
  refine ⟨tracks.connected, fun key value stored => ?_⟩
  have settled := tracks.settled key value stored
  rw [split, settle_append, settle_cons] at settled
  dsimp only at settled ⊢
  rw [settle_append, get_set]
  by_cases same : pid = key
  · subst same
    rw [if_pos rfl] at settled ⊢
    -- What is published last of the rest decides, or all of it agrees.
    rcases orderly with later | agreeing
    · rw [settle_of_present later _ (some pw)]
      exact settled
    · rw [settle_of_same agreeing]
      exact settled
  · rw [if_neg same] at settled ⊢
    exact settled

theorem Tracks.step {http : NetHTTP} {state : DriftState} (tracks : Tracks state)
    {event : DriftEvent} (orderly : Orderly state event) :
    Tracks (driftStep http state event) := by
  cases event with
  | upsert request works =>
      have database : state.postgres = some state.table := by
        rw [DriftState.postgres, tracks.connected]
        rfl
      simp only [driftStep, database]
      rcases checkRegister http request with reply | ⟨pid, pw⟩
      · exact tracks
      · cases works with
        | false => exact tracks
        | true => exact tracks.upserted pid pw
  | publish index =>
      simp only [driftStep]
      rcases entry : state.inFlight[index]? with _ | ⟨pid, pw⟩
      · exact tracks
      · obtain ⟨inside, located⟩ := List.getElem?_eq_some_iff.mp entry
        have split : state.inFlight =
            state.inFlight.take index ++ (pid, pw) :: state.inFlight.drop (index + 1) := by
          rw [← located, List.cons_getElem_drop_succ, List.take_append_drop]
        rw [List.eraseIdx_eq_take_drop_succ]
        exact tracks.published split (orderly (pid, pw) entry)
  | restart nexAccounts reached outcome => exact tracks_start orderly

theorem Tracks.inStep {state : DriftState} (tracks : Tracks state)
    (quiet : state.inFlight = []) : InStep state := by
  intro pid pw stored
  have settled := tracks.settled pid pw stored
  rw [quiet] at settled
  exact settled

theorem InStep.restartKeeps {http : NetHTTP} {state : DriftState} (inStep : InStep state) :
    RestartKeeps http state := by
  intro nexAccounts reached outcome loads fixed pid registered
  obtain ⟨pw, stored⟩ := Option.isSome_iff_exists.mp registered
  have after : (driftStep http state (.restart nexAccounts reached outcome)).accounts.get pid =
      some pw := startAccounts_of_loadsTable loads stored
  rw [passwordForPID_eq, passwordForPID_eq, inStep pid pw stored, after]

/-- **Memory follows the database.** In every run, with any interleaving and any
upserts that fail, in which every start reads the table and no store update
overtakes: whenever no registration is between its two steps, every row of the
table is in the store, and a restart that reads the table changes no password. -/
theorem orderly_run_inStep (http : NetHTTP) {nexAccounts : Bytes} {table : AccountTable}
    {reached : Bool} {outcome : LoadOutcome}
    (loads : LoadsTable nexAccounts table reached outcome) {events : List DriftEvent}
    (orderly : (driftMachine http).Guarded Orderly
      (driftStart nexAccounts table reached outcome) events)
    (quiet : ((driftMachine http).exec (driftStart nexAccounts table reached outcome)
      events).inFlight = []) :
    InStep ((driftMachine http).exec (driftStart nexAccounts table reached outcome) events) ∧
      RestartKeeps http
        ((driftMachine http).exec (driftStart nexAccounts table reached outcome) events) := by
  have tracks : Tracks
      ((driftMachine http).exec (driftStart nexAccounts table reached outcome) events) := by
    apply Machine.invariant_rule (driftMachine http) Tracks
    · exact tracks_start loads
    · intro state event tracked guarded
      exact tracked.step guarded
    · exact orderly
  have inStep := tracks.inStep quiet
  exact ⟨inStep, inStep.restartKeeps⟩

/-- A console that registers twice. -/
def firstPost : Request := formPost (ascii "pid=18&password=old")

def secondPost : Request := formPost (ascii "pid=18&password=new")

/-- A load that reads every row. -/
def wholeLoad : LoadOutcome := .rows fun _ => true

def emptyStart : DriftState := driftStart [] ∅ true wholeLoad

/-- Both registrations overlap and are published in upsert order; a third upsert
fails, and the process is started again. -/
def orderlyRun : List DriftEvent :=
  [.upsert firstPost true, .upsert secondPost true, .publish 0,
    .upsert firstPost false, .publish 0, .restart [] true wholeLoad]

theorem orderlyRun_inStep :
    InStep ((driftMachine plainHTTP).exec emptyStart orderlyRun) ∧
      RestartKeeps plainHTTP ((driftMachine plainHTTP).exec emptyStart orderlyRun) :=
  orderly_run_inStep plainHTTP (by decide) (by decide +kernel) (by decide +kernel)

/-- Both registrations overlap and the second is published first. -/
def crossedRun : List DriftEvent :=
  [.upsert firstPost true, .upsert secondPost true, .publish 1, .publish 0]

/-- Nothing is in flight any more, the table holds the new password, the store
the old one, and a restart that reads every row changes the password in use. -/
theorem crossedRun_not_inStep :
    ((driftMachine plainHTTP).exec emptyStart crossedRun).inFlight = [] ∧
      ¬ InStep ((driftMachine plainHTTP).exec emptyStart crossedRun) ∧
      ¬ RestartKeeps plainHTTP ((driftMachine plainHTTP).exec emptyStart crossedRun) := by
  refine ⟨by decide +kernel, ?_, ?_⟩
  · intro inStep
    have kept := inStep (ascii "18") (ascii "new") (by decide +kernel)
    exact absurd kept (by decide +kernel)
  · intro restartKeeps
    have kept := restartKeeps [] true wholeLoad (by decide +kernel) [] (ascii "18")
      (by decide +kernel)
    exact absurd kept (by decide +kernel)

end CommunityServers.Accounts
