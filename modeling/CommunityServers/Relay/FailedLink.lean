import Mathlib.Data.List.GetD
import Mathlib.Logic.Function.Iterate
import CommunityServers.Foundation.Machine
import CommunityServers.Relay.Manager

/-!
Contract: what failed `link` calls leave behind.

Owns:
- runs of `link` calls with every outcome of the two `openUDP` calls, and the
  sockets that stay open;
- the comparison of such a run with the run of its successful calls only;
- the numbers of failures at which the two runs assign the same hosts.

A failed call leaves no link and no socket, but it has moved the cursor of the
host pool.

Does not own: the goroutines of a link.
-/

set_option autoImplicit false

namespace CommunityServers.Relay

open CommunityServers.Foundation

/-- A `link` call with what the operating system makes of its two sockets. -/
structure LinkAttempt where
  pidA : PID
  pidB : PID
  listenA : Option Nat
  listenB : Option Nat
deriving DecidableEq

def LinkAttempt.key (attempt : LinkAttempt) : Bytes := pairKey attempt.pidA attempt.pidB

/-- A manager and the sockets that are open. -/
structure LinkState where
  manager : RelayManager
  sockets : List UDPAddr

section Attempts

variable (parseIP : Bytes → Option Bytes)

def LinkState.outcome (state : LinkState) (attempt : LinkAttempt) : LinkOutcome :=
  state.manager.link parseIP attempt.pidA attempt.pidB attempt.listenA attempt.listenB

/-- `link` calls; the output says of each whether it succeeded. -/
def attemptMachine : Machine LinkState LinkAttempt (LinkAttempt × Bool) where
  step state attempt :=
    ⟨(state.outcome parseIP attempt).manager,
      state.sockets ++ (state.outcome parseIP attempt).opened⟩
  emit state attempt := [(attempt, (state.outcome parseIP attempt).link.isSome)]

/-- The calls of a run that succeeded. -/
def successes (start : LinkState) (attempts : List LinkAttempt) : List LinkAttempt :=
  (((attemptMachine parseIP).log start attempts).filter fun call => call.2).map Prod.fst

/-- How many calls of a run failed. -/
def failures (start : LinkState) (attempts : List LinkAttempt) : Nat :=
  (((attemptMachine parseIP).log start attempts).filter fun call => !call.2).length

/-- The host of a link that is created after so many moves of the cursor. -/
def RelayManager.futureHost (rm : RelayManager) (moves : Nat) : Bytes :=
  (RelayManager.advance^[moves] rm).linkHost

/-- Exactly the two sockets of every recorded link are open. -/
def LinkState.TwoEach (state : LinkState) : Prop :=
  state.sockets.Perm
    (state.manager.links.entries.flatMap fun entry => [entry.2.sockA, entry.2.sockB])

/-- The failed calls of a run left no trace: the links and the hosts of later
links are those of the run of its successful calls, and no socket is left over. -/
structure LeavesNoTrace (start : LinkState) (attempts : List LinkAttempt) : Prop where
  links : ∀ key,
    ((attemptMachine parseIP).exec start attempts).manager.links.lookup key =
      ((attemptMachine parseIP).exec start
        (successes parseIP start attempts)).manager.links.lookup key
  laterHosts : ∀ moves,
    ((attemptMachine parseIP).exec start attempts).manager.futureHost moves =
      ((attemptMachine parseIP).exec start
        (successes parseIP start attempts)).manager.futureHost moves
  sockets : ((attemptMachine parseIP).exec start attempts).TwoEach

/-- So many failures bring the cursor back to where it was, or to an equal host. -/
def Harmless (hosts : List Bytes) (failed : Nat) : Prop :=
  (∀ first ∈ hosts, ∀ second ∈ hosts, first = second) ∨ hosts.length ∣ failed

instance (hosts : List Bytes) (failed : Nat) : Decidable (Harmless hosts failed) :=
  inferInstanceAs (Decidable (_ ∨ _))

/-- A call that creates a link. -/
def Creates (state : LinkState) (attempt : LinkAttempt) : Prop :=
  state.manager.links.lookup attempt.key = none ∧
    attempt.listenA.isSome = true ∧ attempt.listenB.isSome = true

instance (state : LinkState) (attempt : LinkAttempt) : Decidable (Creates state attempt) :=
  inferInstanceAs (Decidable (_ ∧ _ ∧ _))

/-- The failures before every created link are harmless. -/
def HarmlessCreations (start : LinkState) (attempts : List LinkAttempt) : Prop :=
  Everywhere (fun before attempt =>
    Creates ((attemptMachine parseIP).exec start before) attempt →
      Harmless start.manager.hosts (failures parseIP start before)) attempts

/-- So are the failures of the whole run. -/
def HarmlessRun (start : LinkState) (attempts : List LinkAttempt) : Prop :=
  HarmlessCreations parseIP start attempts ∧
    Harmless start.manager.hosts (failures parseIP start attempts)

instance (start : LinkState) (attempts : List LinkAttempt) :
    Decidable (HarmlessRun parseIP start attempts) := by
  unfold HarmlessRun HarmlessCreations
  infer_instance

end Attempts

/-! ### One call -/

section Calls

variable {parseIP : Bytes → Option Bytes}

/-- The manager after the calls of a run, with one more link. -/
def LinkState.create (parseIP : Bytes → Option Bytes) (state : LinkState)
    (attempt : LinkAttempt) : LinkState :=
  let l := state.manager.created parseIP attempt.pidA attempt.pidB (attempt.listenA.getD 0)
    (attempt.listenB.getD 0)
  ⟨{ state.manager.advance with links := state.manager.links.insert attempt.key l },
    state.sockets ++ [l.sockA, l.sockB]⟩

/-- Everything one call can do. -/
theorem attempt_cases (state : LinkState) (attempt : LinkAttempt) :
    ((state.manager.links.lookup attempt.key).isSome = true ∧
      (attemptMachine parseIP).step state attempt = state ∧
      (attemptMachine parseIP).emit state attempt = [(attempt, true)]) ∨
    (state.manager.links.lookup attempt.key = none ∧ ¬ Creates state attempt ∧
      (attemptMachine parseIP).step state attempt = ⟨state.manager.advance, state.sockets⟩ ∧
      (attemptMachine parseIP).emit state attempt = [(attempt, false)]) ∨
    (Creates state attempt ∧
      (attemptMachine parseIP).step state attempt = state.create parseIP attempt ∧
      (attemptMachine parseIP).emit state attempt = [(attempt, true)]) := by
  have cases := link_cases parseIP state.manager attempt.pidA attempt.pidB attempt.listenA
    attempt.listenB
  have step : (attemptMachine parseIP).step state attempt =
      ⟨(state.outcome parseIP attempt).manager,
        state.sockets ++ (state.outcome parseIP attempt).opened⟩ := rfl
  have emit : (attemptMachine parseIP).emit state attempt =
      [(attempt, (state.outcome parseIP attempt).link.isSome)] := rfl
  rw [step, emit]
  unfold LinkState.outcome
  rcases cases with ⟨l, stored, outcome⟩ | ⟨missing, closed, outcome⟩ |
    ⟨pa, pb, missing, portA, portB, outcome⟩
  · left
    rw [outcome]
    refine ⟨?_, ?_, rfl⟩
    · rw [LinkAttempt.key, stored]
      rfl
    · rw [List.append_nil]
  · right
    left
    rw [outcome]
    refine ⟨missing, ?_, ?_, rfl⟩
    · rintro ⟨-, opensA, opensB⟩
      rcases closed with none | none
      · rw [none] at opensA
        cases opensA
      · rw [none] at opensB
        cases opensB
    · rw [List.append_nil]
  · right
    right
    rw [outcome]
    refine ⟨⟨missing, by rw [portA]; rfl, by rw [portB]; rfl⟩, ?_, rfl⟩
    unfold LinkState.create
    rw [portA, portB]
    rfl

theorem step_of_stored {state : LinkState} {attempt : LinkAttempt}
    (stored : (state.manager.links.lookup attempt.key).isSome = true) :
    (attemptMachine parseIP).step state attempt = state := by
  rcases attempt_cases state attempt with ⟨-, step, -⟩ | ⟨missing, -⟩ | ⟨creates, -⟩
  · exact step
  · rw [missing] at stored
    cases stored
  · rw [creates.1] at stored
    cases stored

theorem step_of_creates {state : LinkState} {attempt : LinkAttempt}
    (creates : Creates state attempt) :
    (attemptMachine parseIP).step state attempt = state.create parseIP attempt := by
  rcases attempt_cases state attempt with ⟨stored, -⟩ | ⟨-, cannot, -⟩ | ⟨-, step, -⟩
  · rw [creates.1] at stored
    cases stored
  · exact absurd creates cannot
  · exact step

theorem successes_append (start : LinkState) (before : List LinkAttempt) (attempt : LinkAttempt) :
    successes parseIP start (before ++ [attempt]) =
      successes parseIP start before ++
        (((attemptMachine parseIP).emit ((attemptMachine parseIP).exec start before)
          attempt).filter fun call => call.2).map Prod.fst := by
  unfold successes
  rw [Machine.log_append_singleton, List.filter_append, List.map_append]

theorem failures_append (start : LinkState) (before : List LinkAttempt) (attempt : LinkAttempt) :
    failures parseIP start (before ++ [attempt]) =
      failures parseIP start before +
        (((attemptMachine parseIP).emit ((attemptMachine parseIP).exec start before)
          attempt).filter fun call => !call.2).length := by
  unfold failures
  rw [Machine.log_append_singleton, List.filter_append, List.length_append]

/-- A call that gives a link is among the successes. -/
theorem append_of_ok {start : LinkState} {before : List LinkAttempt} {attempt : LinkAttempt}
    (emit : (attemptMachine parseIP).emit ((attemptMachine parseIP).exec start before) attempt =
      [(attempt, true)]) :
    successes parseIP start (before ++ [attempt]) = successes parseIP start before ++ [attempt] ∧
      failures parseIP start (before ++ [attempt]) = failures parseIP start before := by
  rw [successes_append, failures_append, emit]
  exact ⟨rfl, rfl⟩

theorem append_of_failed {start : LinkState} {before : List LinkAttempt} {attempt : LinkAttempt}
    (emit : (attemptMachine parseIP).emit ((attemptMachine parseIP).exec start before) attempt =
      [(attempt, false)]) :
    successes parseIP start (before ++ [attempt]) = successes parseIP start before ∧
      failures parseIP start (before ++ [attempt]) = failures parseIP start before + 1 := by
  rw [successes_append, failures_append, emit]
  exact ⟨List.append_nil _, rfl⟩

/-! ### Sockets -/

theorem twoEach_create {state : LinkState} (paired : state.TwoEach) {attempt : LinkAttempt}
    (missing : state.manager.links.lookup attempt.key = none) :
    (state.create parseIP attempt).TwoEach := by
  have absent : attempt.key ∉ state.manager.links := AList.lookup_eq_none.mp missing
  unfold LinkState.TwoEach LinkState.create
  dsimp only
  rw [AList.entries_insert_of_notMem absent, List.flatMap_cons]
  exact (List.perm_append_comm).trans (List.Perm.append_left _ paired)

/-- Failed or not, a run leaves two open sockets for every link. -/
theorem twoEach_exec {start : LinkState} (paired : start.TwoEach) (attempts : List LinkAttempt) :
    ((attemptMachine parseIP).exec start attempts).TwoEach := by
  refine (attemptMachine parseIP).invariant_rule LinkState.TwoEach paired ?_ attempts
    ((attemptMachine parseIP).guarded_true start attempts)
  intro state attempt holds _
  rcases attempt_cases state attempt with ⟨-, step, -⟩ | ⟨-, -, step, -⟩ |
    ⟨creates, step, -⟩
  · rw [step]
    exact holds
  · rw [step]
    unfold LinkState.TwoEach
    rw [advance_links]
    exact holds
  · rw [step]
    exact twoEach_create holds creates.1

end Calls

/-! ### Two managers whose cursors differ -/

/-- Managers that differ in their cursors only, by so many moves. -/
structure Shifted (failed : Nat) (first second : RelayManager) : Prop where
  publicHost : first.publicHost = second.publicHost
  hosts : first.hosts = second.hosts
  links : first.links = second.links
  cursor : 0 < first.hosts.length → first.hostSeq = second.hostSeq + failed

section Cursor

variable {failed : Nat} {first second : RelayManager}

theorem advance_publicHost (rm : RelayManager) : rm.advance.publicHost = rm.publicHost := by
  unfold RelayManager.advance
  split <;> rfl

theorem advance_hostSeq_of_pool {rm : RelayManager} (inPool : 0 < rm.hosts.length) :
    rm.advance.hostSeq = rm.hostSeq + 1 := by
  unfold RelayManager.advance
  rw [if_pos inPool]

theorem Shifted.advance (shifted : Shifted failed first second) :
    Shifted failed first.advance second.advance := by
  refine ⟨?_, ?_, ?_, ?_⟩
  · rw [advance_publicHost, advance_publicHost, shifted.publicHost]
  · rw [advance_hosts, advance_hosts, shifted.hosts]
  · rw [advance_links, advance_links, shifted.links]
  · intro inPool
    rw [advance_hosts] at inPool
    rw [advance_hostSeq_of_pool inPool, advance_hostSeq_of_pool (shifted.hosts ▸ inPool),
      shifted.cursor inPool]
    omega

/-- A failed call moves the cursor of the first manager only. -/
theorem Shifted.afterFailure (shifted : Shifted failed first second) :
    Shifted (failed + 1) first.advance second := by
  refine ⟨?_, ?_, ?_, ?_⟩
  · rw [advance_publicHost, shifted.publicHost]
  · rw [advance_hosts, shifted.hosts]
  · rw [advance_links, shifted.links]
  · intro inPool
    rw [advance_hosts] at inPool
    rw [advance_hostSeq_of_pool inPool, shifted.cursor inPool]
    omega

theorem getD_mem_hosts {hosts : List Bytes} (inPool : 0 < hosts.length) (cursor : Nat) :
    hosts.getD (cursor % hosts.length) [] ∈ hosts := by
  rw [List.getD_eq_getElem _ _ (Nat.mod_lt cursor inPool)]
  exact List.getElem_mem _

theorem Shifted.nextHost (shifted : Shifted failed first second)
    (harmless : Harmless first.hosts failed) : first.nextHost = second.nextHost := by
  unfold RelayManager.nextHost
  rw [← shifted.hosts]
  split
  next inPool =>
    rcases harmless with single | multiple
    · exact single _ (getD_mem_hosts inPool _) _ (getD_mem_hosts inPool _)
    · obtain ⟨rounds, rfl⟩ := multiple
      rw [shifted.cursor inPool, Nat.add_mul_mod_self_left]
  next => rfl

theorem Shifted.linkHost (shifted : Shifted failed first second)
    (harmless : Harmless first.hosts failed) : first.linkHost = second.linkHost := by
  unfold RelayManager.linkHost
  rw [shifted.nextHost harmless, shifted.publicHost]

theorem Shifted.futureHost (shifted : Shifted failed first second)
    (harmless : Harmless first.hosts failed) (moves : Nat) :
    first.futureHost moves = second.futureHost moves := by
  induction moves generalizing first second with
  | zero => exact shifted.linkHost harmless
  | succ moves inductionHypothesis =>
      apply inductionHypothesis shifted.advance
      rw [advance_hosts]
      exact harmless

/-- With distinct hosts, the same host is assigned after whole rounds only. -/
theorem Shifted.harmless_of_linkHost (shifted : Shifted failed first second)
    (distinct : first.hosts.Nodup) (noEmpty : [] ∉ first.hosts)
    (same : first.linkHost = second.linkHost) : Harmless first.hosts failed := by
  by_cases inPool : 0 < first.hosts.length
  · right
    have firstNext : first.nextHost = first.hosts.getD (first.hostSeq % first.hosts.length) [] :=
      if_pos inPool
    have secondNext : second.nextHost =
        first.hosts.getD (second.hostSeq % first.hosts.length) [] := by
      unfold RelayManager.nextHost
      rw [← shifted.hosts, if_pos inPool]
    have notEmpty : ∀ cursor, first.hosts.getD (cursor % first.hosts.length) [] ≠ [] := by
      intro cursor empty
      apply noEmpty
      rw [← empty]
      exact getD_mem_hosts inPool cursor
    unfold RelayManager.linkHost at same
    rw [firstNext, secondNext, if_neg (notEmpty _), if_neg (notEmpty _),
      List.getD_eq_getElem _ _ (Nat.mod_lt _ inPool),
      List.getD_eq_getElem _ _ (Nat.mod_lt _ inPool), distinct.getElem_inj_iff,
      shifted.cursor inPool] at same
    exact (Nat.modEq_iff_dvd' (Nat.le_add_right _ _)).mp same.symm |>.trans
      (dvd_of_eq (Nat.add_sub_cancel_left _ _))
  · left
    have nothing : first.hosts = [] := List.length_eq_zero_iff.mp (Nat.eq_zero_of_not_pos inPool)
    rw [nothing]
    intro host member
    cases member

end Cursor

/-! ### A run and the run of its successes -/

section Runs

variable {parseIP : Bytes → Option Bytes} {start : LinkState}

variable (parseIP start) in
theorem exec_hosts (attempts : List LinkAttempt) :
    ((attemptMachine parseIP).exec start attempts).manager.hosts = start.manager.hosts := by
  refine (attemptMachine parseIP).invariant_rule
    (fun state => state.manager.hosts = start.manager.hosts) rfl ?_ attempts
    ((attemptMachine parseIP).guarded_true start attempts)
  intro state attempt kept _
  rcases attempt_cases state attempt with ⟨-, step, -⟩ | ⟨-, -, step, -⟩ | ⟨-, step, -⟩
  · rw [step]
    exact kept
  · rw [step]
    exact (advance_hosts _).trans kept
  · rw [step]
    exact (advance_hosts _).trans kept

/-- Managers with the same links create for the same calls. -/
theorem Shifted.creates {failed : Nat} {first second : LinkState} {attempt : LinkAttempt}
    (shifted : Shifted failed first.manager second.manager) (creates : Creates first attempt) :
    Creates second attempt := by
  refine ⟨?_, creates.2⟩
  rw [← shifted.links]
  exact creates.1

theorem create_shifted {failed : Nat} {first second : LinkState} {attempt : LinkAttempt}
    (shifted : Shifted failed first.manager second.manager)
    (harmless : Harmless first.manager.hosts failed) :
    Shifted failed (first.create parseIP attempt).manager
      (second.create parseIP attempt).manager := by
  have moved := shifted.advance
  refine ⟨moved.publicHost, moved.hosts, ?_, moved.cursor⟩
  unfold LinkState.create RelayManager.created
  dsimp only
  rw [shifted.links, shifted.linkHost harmless, shifted.nextHost harmless]

/-- The run of the successes differs from the run in its cursor only, by the
number of failures. -/
theorem shifted_exec (attempts : List LinkAttempt)
    (harmless : HarmlessCreations parseIP start attempts) :
    Shifted (failures parseIP start attempts)
      ((attemptMachine parseIP).exec start attempts).manager
      ((attemptMachine parseIP).exec start (successes parseIP start attempts)).manager := by
  induction attempts using List.reverseRecOn with
  | nil => exact ⟨rfl, rfl, rfl, fun _ => rfl⟩
  | append_singleton attempts attempt inductionHypothesis =>
      unfold HarmlessCreations at harmless inductionHypothesis
      rw [everywhere_append_singleton] at harmless
      have shifted := inductionHypothesis harmless.1
      have creation := harmless.2
      rw [Machine.exec_append_singleton]
      rcases attempt_cases ((attemptMachine parseIP).exec start attempts) attempt with
        ⟨stored, step, emit⟩ | ⟨-, -, step, emit⟩ | ⟨creates, step, emit⟩
      · rw [shifted.links] at stored
        rw [(append_of_ok emit).1, (append_of_ok emit).2, Machine.exec_append_singleton, step,
          step_of_stored stored]
        exact shifted
      · rw [(append_of_failed emit).1, (append_of_failed emit).2, step]
        exact shifted.afterFailure
      · rw [(append_of_ok emit).1, (append_of_ok emit).2, Machine.exec_append_singleton, step,
          step_of_creates (shifted.creates creates)]
        apply create_shifted shifted
        rw [exec_hosts]
        exact creation creates

variable (parseIP start) in
/-- A run and the run of its successes have links under the same keys, whatever
their hosts are. -/
theorem stored_iff (attempts : List LinkAttempt) (key : Bytes) :
    (((attemptMachine parseIP).exec start attempts).manager.links.lookup key).isSome =
      (((attemptMachine parseIP).exec start
        (successes parseIP start attempts)).manager.links.lookup key).isSome := by
  induction attempts using List.reverseRecOn generalizing key with
  | nil => rfl
  | append_singleton attempts attempt inductionHypothesis =>
      rw [Machine.exec_append_singleton]
      rcases attempt_cases ((attemptMachine parseIP).exec start attempts) attempt with
        ⟨stored, step, emit⟩ | ⟨-, -, step, emit⟩ | ⟨creates, step, emit⟩
      · rw [inductionHypothesis] at stored
        rw [(append_of_ok emit).1, Machine.exec_append_singleton, step, step_of_stored stored]
        exact inductionHypothesis key
      · rw [(append_of_failed emit).1, step, advance_links]
        exact inductionHypothesis key
      · have missing := inductionHypothesis attempt.key
        rw [creates.1, Option.isSome_none, eq_comm, Option.isSome_eq_false_iff,
          Option.isNone_iff_eq_none] at missing
        rw [(append_of_ok emit).1, Machine.exec_append_singleton, step,
          step_of_creates ⟨missing, creates.2⟩]
        unfold LinkState.create
        dsimp only
        by_cases isNew : key = attempt.key
        · rw [isNew, AList.lookup_insert, AList.lookup_insert]
          rfl
        · rw [AList.lookup_insert_ne isNew, AList.lookup_insert_ne isNew]
          exact inductionHypothesis key

theorem step_keeps {state : LinkState} {key : Bytes} {l : RelayLink}
    (stored : state.manager.links.lookup key = some l) (attempt : LinkAttempt) :
    ((attemptMachine parseIP).step state attempt).manager.links.lookup key = some l :=
  link_keeps parseIP stored attempt.pidA attempt.pidB attempt.listenA attempt.listenB

theorem exec_keeps {state : LinkState} {key : Bytes} {l : RelayLink}
    (stored : state.manager.links.lookup key = some l) (attempts : List LinkAttempt) :
    ((attemptMachine parseIP).exec state attempts).manager.links.lookup key = some l :=
  (attemptMachine parseIP).invariant_rule
    (fun reached => reached.manager.links.lookup key = some l) stored
    (fun _ attempt kept _ => step_keeps kept attempt) attempts
    ((attemptMachine parseIP).guarded_true state attempts)

/-- Links that agree after a call agreed before it. -/
theorem links_before {attempts : List LinkAttempt} {attempt : LinkAttempt}
    (same : ∀ key,
      ((attemptMachine parseIP).exec start (attempts ++ [attempt])).manager.links.lookup key =
        ((attemptMachine parseIP).exec start
          (successes parseIP start (attempts ++ [attempt]))).manager.links.lookup key)
    (key : Bytes) :
    ((attemptMachine parseIP).exec start attempts).manager.links.lookup key =
      ((attemptMachine parseIP).exec start
        (successes parseIP start attempts)).manager.links.lookup key := by
  have keys := stored_iff parseIP start attempts key
  have final := same key
  rw [successes_append, Machine.exec_append, Machine.exec_append] at final
  cases left : ((attemptMachine parseIP).exec start attempts).manager.links.lookup key with
  | none =>
      rw [left, Option.isSome_none, eq_comm, Option.isSome_eq_false_iff,
        Option.isNone_iff_eq_none] at keys
      exact keys.symm
  | some l =>
      rw [left, Option.isSome_some, eq_comm] at keys
      obtain ⟨other, right⟩ := Option.isSome_iff_exists.mp keys
      rw [exec_keeps left, exec_keeps right] at final
      rw [right]
      exact final

/-- With distinct hosts, links that agree were created after harmless failures. -/
theorem harmlessCreations_of_links (distinct : start.manager.hosts.Nodup)
    (noEmpty : [] ∉ start.manager.hosts) (attempts : List LinkAttempt)
    (same : ∀ key,
      ((attemptMachine parseIP).exec start attempts).manager.links.lookup key =
        ((attemptMachine parseIP).exec start
          (successes parseIP start attempts)).manager.links.lookup key) :
    HarmlessCreations parseIP start attempts := by
  induction attempts using List.reverseRecOn with
  | nil => exact everywhere_nil
  | append_singleton attempts attempt inductionHypothesis =>
      have earlier := inductionHypothesis (links_before same)
      have shifted := shifted_exec attempts earlier
      unfold HarmlessCreations at earlier ⊢
      rw [everywhere_append_singleton]
      refine ⟨earlier, fun creates => ?_⟩
      have hosts := exec_hosts parseIP start attempts
      rw [← hosts] at distinct noEmpty ⊢
      apply shifted.harmless_of_linkHost distinct noEmpty
      have final := same attempt.key
      rcases attempt_cases ((attemptMachine parseIP).exec start attempts) attempt with
        ⟨stored, -⟩ | ⟨-, cannot, -⟩ | ⟨-, step, emit⟩
      · rw [creates.1] at stored
        cases stored
      · exact absurd creates cannot
      · rw [(append_of_ok emit).1, Machine.exec_append_singleton, Machine.exec_append_singleton,
          step, step_of_creates (shifted.creates creates)] at final
        unfold LinkState.create at final
        dsimp only at final
        rw [AList.lookup_insert, AList.lookup_insert] at final
        exact congrArg RelayLink.host (Option.some.inj final)

end Runs

/-- **Failed links.** A run of `link` calls leaves the links, the later hosts and
the sockets of the run of its successful calls if the number of failures before
every created link, and of all failures, is harmless; with distinct hosts in
the pool, only then. -/
theorem leavesNoTrace_of_harmlessRun (parseIP : Bytes → Option Bytes) (start : LinkState)
    (paired : start.TwoEach) (attempts : List LinkAttempt) :
    (HarmlessRun parseIP start attempts → LeavesNoTrace parseIP start attempts) ∧
      (start.manager.hosts.Nodup → [] ∉ start.manager.hosts →
        LeavesNoTrace parseIP start attempts → HarmlessRun parseIP start attempts) := by
  have hosts := exec_hosts parseIP start attempts
  constructor
  · rintro ⟨creations, final⟩
    have shifted := shifted_exec attempts creations
    refine ⟨?_, ?_, twoEach_exec paired attempts⟩
    · intro key
      rw [shifted.links]
    · apply shifted.futureHost
      rw [hosts]
      exact final
  · intro distinct noEmpty noTrace
    have creations := harmlessCreations_of_links distinct noEmpty attempts noTrace.links
    refine ⟨creations, ?_⟩
    have shifted := shifted_exec attempts creations
    rw [← hosts] at distinct noEmpty ⊢
    exact shifted.harmless_of_linkHost distinct noEmpty (noTrace.laterHosts 0)

/-- A relay with two pool hosts and no link yet. -/
def twoHosts : LinkState :=
  ⟨(newRelayManager (ascii "198.51.100.1")).setHosts
    [ascii "198.51.100.2", ascii "198.51.100.3"], []⟩

/-- Two failures, of the second and of the first socket, then a link. -/
theorem twoFailures_leaveNoTrace :
    LeavesNoTrace (fun _ => none) twoHosts
      [⟨1, 2, some 40000, none⟩, ⟨1, 2, none, none⟩, ⟨1, 2, some 40001, some 40002⟩] :=
  (leavesNoTrace_of_harmlessRun (fun _ => none) twoHosts (List.Perm.refl _) _).1 (by decide)

/-- After one failure the link presents the second host instead of the first. -/
theorem oneFailure_leavesTrace :
    ¬ LeavesNoTrace (fun _ => none) twoHosts
      [⟨1, 2, some 40000, none⟩, ⟨1, 2, some 40001, some 40002⟩] := by
  intro noTrace
  have links := noTrace.links (pairKey 1 2)
  exact absurd (congrArg (fun found => found.map RelayLink.host) links) (by decide)

end CommunityServers.Relay
