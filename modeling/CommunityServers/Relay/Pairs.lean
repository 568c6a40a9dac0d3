import Mathlib.Data.Set.Insert
import CommunityServers.Relay.FailedLink

/-!
Contract: one link per unordered pair of consoles.

Owns:
- the map of `relay.go` as it is in memory, from keys to pointers, and the links
  that have been allocated;
- that this table and the manager's table of links are the same table;
- what holds of the pointers that the calls of a run return.

Does not own: the sockets and the pumps of a link.
-/

set_option autoImplicit false

namespace CommunityServers.Relay

open CommunityServers.Foundation

/-- A `*relayLink`: the place of the link among those allocated so far. -/
abbrev LinkPointer := Nat

/-- The manager together with its map in memory. -/
structure PointerTable where
  manager : RelayManager
  heap : List RelayLink
  links : AList (fun _ : Bytes => LinkPointer)

def PointerTable.new (publicHost : Bytes) : PointerTable :=
  ⟨newRelayManager publicHost, [], ∅⟩

def PointerTable.deref (table : PointerTable) (pointer : LinkPointer) : Option RelayLink :=
  table.heap[pointer]?

inductive ManagerCall where
  | setHosts (hosts : List Bytes)
  | link (attempt : LinkAttempt)

/-- What a `link` call returned: the pointer, and the link as the manager's own
table has it. -/
structure LinkAnswer where
  attempt : LinkAttempt
  pointer : Option LinkPointer
  link : Option RelayLink

section Calls

variable (parseIP : Bytes → Option Bytes)

def PointerTable.outcome (table : PointerTable) (attempt : LinkAttempt) : LinkOutcome :=
  table.manager.link parseIP attempt.pidA attempt.pidB attempt.listenA attempt.listenB

/-- `link` with its pointers: a stored one is returned as it is, and a link that
the call creates is allocated and its pointer stored. -/
def PointerTable.link (table : PointerTable) (attempt : LinkAttempt) :
    PointerTable × Option LinkPointer :=
  match table.links.lookup attempt.key with
  | some pointer => (table, some pointer)
  | none =>
      match (table.outcome parseIP attempt).link with
      | none => ({ table with manager := (table.outcome parseIP attempt).manager }, none)
      | some l =>
          ({ manager := (table.outcome parseIP attempt).manager,
             heap := table.heap ++ [l],
             links := table.links.insert attempt.key table.heap.length },
            some table.heap.length)

def managerMachine : Machine PointerTable ManagerCall LinkAnswer where
  step table
    | .setHosts hosts => { table with manager := table.manager.setHosts hosts }
    | .link attempt => (table.link parseIP attempt).1
  emit table
    | .setHosts _ => []
    | .link attempt =>
        [⟨attempt, (table.link parseIP attempt).2, (table.outcome parseIP attempt).link⟩]

end Calls

/-- The two tables are one: the manager has under a key what the pointer under
that key points to, and that is the link of the key's pair. -/
structure PointerTable.Coherent (table : PointerTable) : Prop where
  stored : ∀ key, table.manager.links.lookup key = (table.links.lookup key).bind table.deref
  ofPair : ∀ key pointer, table.links.lookup key = some pointer →
    ∃ l, table.deref pointer = some l ∧ pairKey l.pidA l.pidB = key

/-- Nothing of the older table is replaced or removed in the newer one. -/
structure PointerTable.Extends (older newer : PointerTable) : Prop where
  links : ∀ key pointer, older.links.lookup key = some pointer →
    newer.links.lookup key = some pointer
  heap : ∀ pointer l, older.deref pointer = some l → newer.deref pointer = some l

/-! ### One call -/

namespace PointerTable

theorem new_coherent (publicHost : Bytes) : (new publicHost).Coherent := by
  constructor
  · intro key
    rfl
  · intro key pointer stored
    cases stored

theorem Extends.rfl {table : PointerTable} : table.Extends table :=
  ⟨fun _ _ stored => stored, fun _ _ found => found⟩

theorem Extends.trans {first second third : PointerTable} (earlier : first.Extends second)
    (later : second.Extends third) : first.Extends third :=
  ⟨fun key pointer stored => later.links key pointer (earlier.links key pointer stored),
    fun pointer l found => later.heap pointer l (earlier.heap pointer l found)⟩

/-- What the pointer under a key points to is the link of the key's pair. -/
theorem Coherent.pairKey_eq {table : PointerTable} (coherent : table.Coherent) {key : Bytes}
    {pointer : LinkPointer} {l : RelayLink} (stored : table.links.lookup key = some pointer)
    (found : table.deref pointer = some l) : pairKey l.pidA l.pidB = key := by
  obtain ⟨own, ownFound, ofPair⟩ := coherent.ofPair key pointer stored
  rw [found] at ownFound
  cases ownFound
  exact ofPair

variable (parseIP : Bytes → Option Bytes)

/-- Everything one `link` call can do to a coherent table. -/
theorem Coherent.link_cases {table : PointerTable} (coherent : table.Coherent)
    (attempt : LinkAttempt) :
    (∃ pointer l, table.links.lookup attempt.key = some pointer ∧
      table.deref pointer = some l ∧ (table.outcome parseIP attempt).link = some l ∧
      table.link parseIP attempt = (table, some pointer)) ∨
    ((table.outcome parseIP attempt).link = none ∧
      table.link parseIP attempt =
        ({ table with manager := table.manager.advance }, none)) ∨
    (∃ l, table.links.lookup attempt.key = none ∧
      l.pidA = attempt.pidA ∧ l.pidB = attempt.pidB ∧
      (table.outcome parseIP attempt).link = some l ∧
      table.link parseIP attempt =
        ({ manager :=
             { table.manager.advance with
               links := table.manager.links.insert attempt.key l },
           heap := table.heap ++ [l],
           links := table.links.insert attempt.key table.heap.length },
          some table.heap.length)) := by
  have agree := coherent.stored attempt.key
  cases pointerStored : table.links.lookup attempt.key with
  | some pointer =>
      obtain ⟨l, found, -⟩ := coherent.ofPair attempt.key pointer pointerStored
      rw [pointerStored, Option.bind_some, found] at agree
      have outcome := link_of_stored parseIP agree attempt.listenA attempt.listenB
      refine Or.inl ⟨pointer, l, rfl, found, ?_, ?_⟩
      · rw [PointerTable.outcome, outcome]
      · simp only [PointerTable.link, pointerStored]
  | none =>
      rw [pointerStored, Option.bind_none] at agree
      have cases := Relay.link_cases parseIP table.manager attempt.pidA attempt.pidB
        attempt.listenA attempt.listenB
      rcases cases with ⟨l, stored, -⟩ | ⟨-, -, outcome⟩ | ⟨pa, pb, -, -, -, outcome⟩
      · rw [LinkAttempt.key, stored] at agree
        cases agree
      · refine Or.inr (Or.inl ⟨?_, ?_⟩)
        · rw [PointerTable.outcome, outcome]
        · simp only [PointerTable.link, pointerStored, PointerTable.outcome, outcome]
      · refine Or.inr (Or.inr ⟨table.manager.created parseIP attempt.pidA attempt.pidB pa pb,
          rfl, rfl, rfl, ?_, ?_⟩)
        · rw [PointerTable.outcome, outcome]
        · simp only [PointerTable.link, pointerStored, PointerTable.outcome, outcome]
          rfl

theorem deref_append {table : PointerTable} {pointer : LinkPointer} {l : RelayLink}
    (found : table.deref pointer = some l) (added : List RelayLink) :
    (table.heap ++ added)[pointer]? = some l := by
  have inside : pointer < table.heap.length := by
    by_contra outside
    rw [deref, List.getElem?_eq_none (Nat.le_of_not_lt outside)] at found
    cases found
  rw [List.getElem?_append_left inside]
  exact found

theorem Coherent.link_extends {table : PointerTable} (coherent : table.Coherent)
    (attempt : LinkAttempt) : table.Extends (table.link parseIP attempt).1 := by
  have cases := coherent.link_cases parseIP attempt
  rcases cases with ⟨_, _, -, -, -, same⟩ | ⟨-, failed⟩ | ⟨l, missing, -, -, -, created⟩
  · rw [same]
    exact Extends.rfl
  · rw [failed]
    exact ⟨fun _ _ stored => stored, fun _ _ found => found⟩
  · rw [created]
    constructor
    · intro key pointer stored
      have other : key ≠ attempt.key := by
        rintro rfl
        rw [missing] at stored
        cases stored
      exact (AList.lookup_insert_ne other).trans stored
    · intro pointer l' found
      exact deref_append found [l]

/-- A successful call leaves its pointer stored under the pair, and the pointer
points to the link that the manager's own table returns. -/
theorem Coherent.link_answer {table : PointerTable} (coherent : table.Coherent)
    (attempt : LinkAttempt) :
    (∃ pointer l, (table.link parseIP attempt).2 = some pointer ∧
      (table.outcome parseIP attempt).link = some l ∧
      (table.link parseIP attempt).1.links.lookup attempt.key = some pointer ∧
      (table.link parseIP attempt).1.deref pointer = some l) ∨
    ((table.link parseIP attempt).2 = none ∧ (table.outcome parseIP attempt).link = none) := by
  have cases := coherent.link_cases parseIP attempt
  rcases cases with ⟨pointer, l, stored, found, outcome, same⟩ | ⟨outcome, failed⟩ |
    ⟨l, missing, -, -, outcome, created⟩
  · refine Or.inl ⟨pointer, l, ?_, outcome, ?_, ?_⟩ <;> rw [same]
    · exact stored
    · exact found
  · exact Or.inr ⟨by rw [failed], outcome⟩
  · refine Or.inl ⟨table.heap.length, l, ?_, outcome, ?_, ?_⟩ <;> rw [created]
    · exact AList.lookup_insert _
    · exact List.getElem?_concat_length

theorem Coherent.link_coherent {table : PointerTable} (coherent : table.Coherent)
    (attempt : LinkAttempt) : (table.link parseIP attempt).1.Coherent := by
  have cases := coherent.link_cases parseIP attempt
  rcases cases with ⟨_, _, -, -, -, same⟩ | ⟨-, failed⟩ | ⟨l, missing, ownA, ownB, -, created⟩
  · rw [same]
    exact coherent
  · rw [failed]
    constructor
    · intro key
      exact (congrArg (AList.lookup key) (advance_links table.manager)).trans
        (coherent.stored key)
    · exact coherent.ofPair
  · rw [created]
    constructor
    · intro key
      by_cases own : key = attempt.key
      · subst own
        rw [AList.lookup_insert, AList.lookup_insert, Option.bind_some]
        exact List.getElem?_concat_length.symm
      · rw [AList.lookup_insert_ne own, AList.lookup_insert_ne own, coherent.stored key]
        cases stored : table.links.lookup key with
        | none => rfl
        | some pointer =>
            obtain ⟨found, points, -⟩ := coherent.ofPair key pointer stored
            rw [Option.bind_some, Option.bind_some, points]
            exact (deref_append points [l]).symm
    · intro key pointer stored
      by_cases own : key = attempt.key
      · subst own
        rw [AList.lookup_insert] at stored
        cases stored
        refine ⟨l, List.getElem?_concat_length, ?_⟩
        rw [ownA, ownB, LinkAttempt.key]
      · rw [AList.lookup_insert_ne own] at stored
        obtain ⟨found, points, ofKey⟩ := coherent.ofPair key pointer stored
        exact ⟨found, deref_append points [l], ofKey⟩

/-! ### Runs of calls -/

theorem Coherent.step {table : PointerTable} (coherent : table.Coherent) (call : ManagerCall) :
    ((managerMachine parseIP).step table call).Coherent := by
  cases call with
  | setHosts hosts => exact ⟨coherent.stored, coherent.ofPair⟩
  | link attempt => exact coherent.link_coherent parseIP attempt

theorem Coherent.step_extends {table : PointerTable} (coherent : table.Coherent)
    (call : ManagerCall) : table.Extends ((managerMachine parseIP).step table call) := by
  cases call with
  | setHosts hosts => exact ⟨fun _ _ stored => stored, fun _ _ found => found⟩
  | link attempt => exact coherent.link_extends parseIP attempt

theorem Coherent.exec {table : PointerTable} (coherent : table.Coherent)
    (calls : List ManagerCall) : ((managerMachine parseIP).exec table calls).Coherent := by
  refine (managerMachine parseIP).invariant_rule Coherent coherent ?_ calls
    ((managerMachine parseIP).guarded_true table calls)
  intro state call holds _
  exact holds.step parseIP call

theorem Coherent.exec_extends {table : PointerTable} (coherent : table.Coherent)
    (calls : List ManagerCall) :
    table.Extends ((managerMachine parseIP).exec table calls) := by
  induction calls generalizing table with
  | nil => exact Extends.rfl
  | cons call rest inductionHypothesis =>
      exact (coherent.step_extends parseIP call).trans
        (inductionHypothesis (coherent.step parseIP call))

/-- Every answer given so far is still what the table says: a pointer that was
returned is stored under its pair and points to the link that was returned. -/
theorem Coherent.answer_stored {table : PointerTable} (coherent : table.Coherent)
    (calls : List ManagerCall) :
    ∀ answer ∈ (managerMachine parseIP).log table calls,
      (∃ pointer l, answer.pointer = some pointer ∧ answer.link = some l ∧
        ((managerMachine parseIP).exec table calls).links.lookup answer.attempt.key =
          some pointer ∧
        ((managerMachine parseIP).exec table calls).deref pointer = some l) ∨
      (answer.pointer = none ∧ answer.link = none) := by
  induction calls generalizing table with
  | nil =>
      intro answer answered
      cases answered
  | cons call rest inductionHypothesis =>
      intro answer answered
      rcases List.mem_append.mp answered with now | later
      · cases call with
        | setHosts hosts => cases now
        | link attempt =>
            obtain rfl := List.mem_singleton.mp now
            rcases coherent.link_answer parseIP attempt with
              ⟨pointer, l, returned, outcome, stored, found⟩ | failed
            · have kept := (coherent.link_coherent parseIP attempt).exec_extends parseIP rest
              exact Or.inl ⟨pointer, l, returned, outcome, kept.links _ _ stored,
                kept.heap _ _ found⟩
            · exact Or.inr failed
      · exact inductionHypothesis (coherent.step parseIP call) answer later

theorem Coherent.answer_of_pointer {table : PointerTable} (coherent : table.Coherent)
    {calls : List ManagerCall} {answer : LinkAnswer}
    (answered : answer ∈ (managerMachine parseIP).log table calls) {pointer : LinkPointer}
    (returned : answer.pointer = some pointer) :
    ∃ l, answer.link = some l ∧
      ((managerMachine parseIP).exec table calls).links.lookup answer.attempt.key =
        some pointer ∧
      ((managerMachine parseIP).exec table calls).deref pointer = some l := by
  rcases coherent.answer_stored parseIP calls answer answered with
    ⟨stored, l, same, link, inTable, found⟩ | ⟨failed, -⟩
  · cases same.symm.trans returned
    exact ⟨l, link, inTable, found⟩
  · cases failed.symm.trans returned

theorem Coherent.answer_of_link {table : PointerTable} (coherent : table.Coherent)
    {calls : List ManagerCall} {answer : LinkAnswer}
    (answered : answer ∈ (managerMachine parseIP).log table calls) {l : RelayLink}
    (returned : answer.link = some l) :
    ∃ pointer, answer.pointer = some pointer ∧
      ((managerMachine parseIP).exec table calls).links.lookup answer.attempt.key =
        some pointer ∧
      ((managerMachine parseIP).exec table calls).deref pointer = some l := by
  rcases coherent.answer_stored parseIP calls answer answered with
    ⟨pointer, stored, returnedPointer, same, inTable, found⟩ | ⟨-, failed⟩
  · cases same.symm.trans returned
    exact ⟨pointer, returnedPointer, inTable, found⟩
  · cases failed.symm.trans returned

/-- Pointers, links and unordered pairs are equal together. -/
theorem Coherent.identities {table : PointerTable} (coherent : table.Coherent)
    {first second : LinkAttempt} {p q : LinkPointer} {l l' : RelayLink}
    (firstStored : table.links.lookup first.key = some p) (firstFound : table.deref p = some l)
    (secondStored : table.links.lookup second.key = some q)
    (secondFound : table.deref q = some l') :
    (p = q ↔ first.key = second.key) ∧ (l = l' ↔ first.key = second.key) := by
  have pointers : first.key = second.key → p = q := by
    intro sameKey
    rw [sameKey, secondStored] at firstStored
    exact (Option.some.inj firstStored).symm
  have links : p = q → l = l' := by
    intro samePointer
    rw [samePointer, secondFound] at firstFound
    exact (Option.some.inj firstFound).symm
  have keys : l = l' → first.key = second.key := by
    intro sameLink
    have ofFirst := coherent.pairKey_eq firstStored firstFound
    have ofSecond := coherent.pairKey_eq secondStored secondFound
    rw [← ofFirst, ← ofSecond, sameLink]
  exact ⟨⟨fun samePointer => keys (links samePointer), pointers⟩, keys,
    fun sameKey => links (pointers sameKey)⟩

theorem Coherent.ofKey {table : PointerTable} (coherent : table.Coherent) {key : Bytes}
    {l : RelayLink} (stored : table.manager.links.lookup key = some l) :
    key = pairKey l.pidA l.pidB := by
  rw [coherent.stored key] at stored
  obtain ⟨pointer, pointerStored, found⟩ := Option.bind_eq_some_iff.mp stored
  exact (coherent.pairKey_eq pointerStored found).symm

end PointerTable

/-- The links of a run keep their identity: two successful calls return one link,
as a pointer and as a value, exactly when they are for one unordered pair; a
returned pointer points to the returned link; a stored link is that of its key's
pair; and later calls leave every pointer and every link as it is. -/
structure OneLinkPerPair (parseIP : Bytes → Option Bytes) (start : PointerTable)
    (calls : List ManagerCall) : Prop where
  samePointer : ∀ first ∈ (managerMachine parseIP).log start calls,
    ∀ second ∈ (managerMachine parseIP).log start calls,
    ∀ p q, first.pointer = some p → second.pointer = some q →
      (p = q ↔ ({first.attempt.pidA, first.attempt.pidB} : Set PID) =
        {second.attempt.pidA, second.attempt.pidB})
  sameLink : ∀ first ∈ (managerMachine parseIP).log start calls,
    ∀ second ∈ (managerMachine parseIP).log start calls,
    ∀ l l', first.link = some l → second.link = some l' →
      (l = l' ↔ ({first.attempt.pidA, first.attempt.pidB} : Set PID) =
        {second.attempt.pidA, second.attempt.pidB})
  pointsTo : ∀ answer ∈ (managerMachine parseIP).log start calls,
    answer.link = answer.pointer.bind ((managerMachine parseIP).exec start calls).deref
  ofKey : ∀ key l,
    ((managerMachine parseIP).exec start calls).manager.links.lookup key = some l →
      key = pairKey l.pidA l.pidB
  kept : ∀ later,
    ((managerMachine parseIP).exec start calls).Extends
      ((managerMachine parseIP).exec start (calls ++ later))

theorem pairKey_eq_iff_set {a b c d : PID} :
    pairKey a b = pairKey c d ↔ ({a, b} : Set PID) = {c, d} := by
  rw [pairKey_eq_iff, Set.pair_eq_pair_iff]

theorem link_onePerPair :
    (∀ a b c d : PID, pairKey a b = pairKey c d ↔ ({a, b} : Set PID) = {c, d}) ∧
      ∀ (parseIP : Bytes → Option Bytes) (publicHost : Bytes) (calls : List ManagerCall),
        OneLinkPerPair parseIP (PointerTable.new publicHost) calls := by
  refine ⟨fun _ _ _ _ => pairKey_eq_iff_set, ?_⟩
  intro parseIP publicHost calls
  have start := PointerTable.new_coherent publicHost
  have finish := start.exec parseIP calls
  refine ⟨?_, ?_, ?_, fun _ _ => finish.ofKey, ?_⟩
  · intro first firstAnswered second secondAnswered p q firstPointer secondPointer
    obtain ⟨l, -, stored, found⟩ := start.answer_of_pointer parseIP firstAnswered firstPointer
    obtain ⟨l', -, stored', found'⟩ :=
      start.answer_of_pointer parseIP secondAnswered secondPointer
    exact (finish.identities stored found stored' found').1.trans pairKey_eq_iff_set
  · intro first firstAnswered second secondAnswered l l' firstLink secondLink
    obtain ⟨p, -, stored, found⟩ := start.answer_of_link parseIP firstAnswered firstLink
    obtain ⟨q, -, stored', found'⟩ := start.answer_of_link parseIP secondAnswered secondLink
    exact (finish.identities stored found stored' found').2.trans pairKey_eq_iff_set
  · intro answer answered
    rcases start.answer_stored parseIP calls answer answered with
      ⟨_, _, pointer, link, -, found⟩ | ⟨pointer, link⟩
    · rw [pointer, link, Option.bind_some, found]
    · rw [pointer, link, Option.bind_none]
  · intro later
    rw [Machine.exec_append]
    exact finish.exec_extends parseIP later

end CommunityServers.Relay
