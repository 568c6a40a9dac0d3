import Mathlib.Data.List.Induction

/-!
Contract: deterministic machines driven by an event list.

Owns:
- execution of an event list and the log of everything it emits, or of what is
  noted about each step;
- runs in which every event passes a guard read in the state before it;
- the history rule: a property of the events so far and the state they lead to
  holds along every guarded run once it holds at the start and survives a step;
- properties of every event of a list together with the events before it.

Does not own: any particular machine, scheduler or fairness assumption.
-/

set_option autoImplicit false

namespace CommunityServers.Foundation

universe u v w

/-- A property of every event of a list together with the events before it. -/
def Everywhere {Event : Type v} (property : List Event → Event → Prop)
    (events : List Event) : Prop :=
  ∀ before event after, events = before ++ event :: after → property before event

section Everywhere

variable {Event : Type v} {property : List Event → Event → Prop}

theorem everywhere_nil : Everywhere property [] := by
  intro before event after split
  simp at split

theorem everywhere_append_singleton (events : List Event) (last : Event) :
    Everywhere property (events ++ [last]) ↔
      Everywhere property events ∧ property events last := by
  constructor
  · intro all
    refine ⟨?_, all events last [] rfl⟩
    intro before event after split
    apply all before event (after ++ [last])
    rw [split, List.append_assoc, List.cons_append]
  · rintro ⟨earlier, holds⟩ before event after split
    rcases List.eq_nil_or_concat after with rfl | ⟨front, final, rfl⟩
    · obtain ⟨rfl, sameLast⟩ := List.append_inj' split rfl
      obtain rfl := List.singleton_inj.mp sameLast
      exact holds
    · apply earlier before event front
      rw [List.concat_eq_append, ← List.cons_append, ← List.append_assoc] at split
      exact (List.append_inj' split rfl).1

theorem everywhere_cons (first : Event) (events : List Event) :
    Everywhere property (first :: events) ↔
      property [] first ∧ Everywhere (fun before => property (first :: before)) events := by
  constructor
  · intro all
    refine ⟨all [] first events rfl, ?_⟩
    rintro before event after rfl
    exact all (first :: before) event after rfl
  · rintro ⟨holds, later⟩ before event after split
    cases before with
    | nil =>
        obtain ⟨rfl, -⟩ := List.cons.inj split
        exact holds
    | cons head tail =>
        obtain ⟨rfl, rest⟩ := List.cons.inj split
        exact later tail event after rest

theorem everywhere_iff_getElem (events : List Event) :
    Everywhere property events ↔
      ∀ index : Fin events.length, property (events.take index) (events.get index) := by
  constructor
  · intro all index
    apply all _ _ (events.drop (index + 1))
    rw [List.get_eq_getElem, ← List.drop_eq_getElem_cons index.isLt, List.take_append_drop]
  · rintro all before event after rfl
    have inside := all ⟨before.length, by simp⟩
    simpa using inside

instance [∀ before event, Decidable (property before event)] (events : List Event) :
    Decidable (Everywhere property events) :=
  decidable_of_iff' _ (everywhere_iff_getElem events)

theorem everywhere_congr {other : List Event → Event → Prop} {events : List Event}
    (same : ∀ before event, property before event ↔ other before event) :
    Everywhere property events ↔ Everywhere other events := by
  constructor <;> intro all before event after split
  · exact (same before event).mp (all before event after split)
  · exact (same before event).mpr (all before event after split)

theorem Everywhere.imp {weaker : List Event → Event → Prop} {events : List Event}
    (all : Everywhere property events)
    (implies : ∀ before event, property before event → weaker before event) :
    Everywhere weaker events :=
  fun before event after split => implies before event (all before event after split)

end Everywhere

/-- A machine: what one event does to the state, and what it emits. -/
structure Machine (State : Type u) (Event : Type v) (Output : Type w) where
  step : State → Event → State
  emit : State → Event → List Output

namespace Machine

variable {State : Type u} {Event : Type v} {Output : Type w}
variable (machine : Machine State Event Output)

/-- The state after an event list. -/
def exec : State → List Event → State
  | state, [] => state
  | state, event :: rest => exec (machine.step state event) rest

/-- Everything emitted by an event list, in order. -/
def log : State → List Event → List Output
  | _, [] => []
  | state, event :: rest =>
      machine.emit state event ++ log (machine.step state event) rest

/-- Every event passes the guard in the state it is applied to. -/
def Guarded (guard : State → Event → Prop) : State → List Event → Prop
  | _, [] => True
  | state, event :: rest =>
      guard state event ∧ Guarded guard (machine.step state event) rest

instance decidableGuarded (guard : State → Event → Prop)
    [∀ state event, Decidable (guard state event)] :
    (state : State) → (events : List Event) →
      Decidable (machine.Guarded guard state events)
  | _, [] => isTrue trivial
  | state, event :: rest =>
      letI := decidableGuarded guard (machine.step state event) rest
      inferInstanceAs (Decidable (_ ∧ _))

variable {guard : State → Event → Prop}

@[simp] theorem exec_nil (state : State) : machine.exec state [] = state := rfl

@[simp] theorem exec_cons (state : State) (event : Event) (rest : List Event) :
    machine.exec state (event :: rest) =
      machine.exec (machine.step state event) rest := rfl

@[simp] theorem exec_append (state : State) (first second : List Event) :
    machine.exec state (first ++ second) =
      machine.exec (machine.exec state first) second := by
  induction first generalizing state with
  | nil => rfl
  | cons event rest inductionHypothesis =>
      simp only [List.cons_append, exec_cons]
      exact inductionHypothesis (machine.step state event)

@[simp] theorem log_append (state : State) (first second : List Event) :
    machine.log state (first ++ second) =
      machine.log state first ++ machine.log (machine.exec state first) second := by
  induction first generalizing state with
  | nil => rfl
  | cons event rest inductionHypothesis =>
      simp only [List.cons_append, log, exec_cons, List.append_assoc]
      rw [inductionHypothesis]

theorem exec_append_singleton (state : State) (events : List Event) (last : Event) :
    machine.exec state (events ++ [last]) = machine.step (machine.exec state events) last :=
  machine.exec_append state events [last]

theorem log_append_singleton (state : State) (events : List Event) (last : Event) :
    machine.log state (events ++ [last]) =
      machine.log state events ++ machine.emit (machine.exec state events) last := by
  rw [log_append, log, log, List.append_nil]

/-- The machine with other things noted about its steps. -/
def observing {Note : Type*} (note : State → Event → List Note) : Machine State Event Note where
  step := machine.step
  emit := note

@[simp] theorem exec_observing {Note : Type*} (note : State → Event → List Note)
    (state : State) (events : List Event) :
    (machine.observing note).exec state events = machine.exec state events := by
  induction events generalizing state with
  | nil => rfl
  | cons event rest inductionHypothesis => exact inductionHypothesis (machine.step state event)

theorem guarded_append (state : State) (first second : List Event) :
    machine.Guarded guard state (first ++ second) ↔
      machine.Guarded guard state first ∧
        machine.Guarded guard (machine.exec state first) second := by
  induction first generalizing state with
  | nil => simp [Guarded]
  | cons event rest inductionHypothesis =>
      simp only [List.cons_append, Guarded, exec_cons]
      rw [inductionHypothesis, and_assoc]

/-- A guarded run is one in which every event passes the guard in the state the
events before it lead to. -/
theorem guarded_iff_everywhere (start : State) (events : List Event) :
    machine.Guarded guard start events ↔
      Everywhere (fun before event => guard (machine.exec start before) event) events := by
  induction events using List.reverseRecOn with
  | nil => exact ⟨fun _ => everywhere_nil, fun _ => trivial⟩
  | append_singleton events last inductionHypothesis =>
      rw [guarded_append, everywhere_append_singleton, inductionHypothesis]
      exact and_congr_right fun _ => iff_of_eq (and_true _)

/-- **History rule.** A property of the events so far and the state they lead
to holds along every guarded run. -/
theorem history_rule (property : List Event → State → Prop) {start : State}
    (initial : property [] start)
    (preserved : ∀ events event,
      property events (machine.exec start events) →
      guard (machine.exec start events) event →
      property (events ++ [event])
        (machine.step (machine.exec start events) event)) :
    ∀ events, machine.Guarded guard start events →
      property events (machine.exec start events) := by
  intro events
  induction events using List.reverseRecOn with
  | nil => exact fun _ => initial
  | append_singleton events event inductionHypothesis =>
      intro guarded
      rw [guarded_append] at guarded
      rw [exec_append]
      exact preserved events event (inductionHypothesis guarded.1) guarded.2.1

/-- A state invariant is the history rule with the history forgotten. -/
theorem invariant_rule (property : State → Prop) {start : State}
    (initial : property start)
    (preserved : ∀ state event,
      property state → guard state event → property (machine.step state event)) :
    ∀ events, machine.Guarded guard start events →
      property (machine.exec start events) := by
  apply machine.history_rule (fun _ state => property state) initial
  intro events event holds passes
  exact preserved _ event holds passes

theorem guarded_true (state : State) (events : List Event) :
    machine.Guarded (fun _ _ => True) state events := by
  induction events generalizing state with
  | nil => trivial
  | cons event rest inductionHypothesis =>
      exact ⟨trivial, inductionHypothesis (machine.step state event)⟩

end Machine

end CommunityServers.Foundation
