import Mathlib.Data.List.Basic

/-!
Contract: machines whose steps may not be defined, and their runs.

Owns:
- running an event list, with everything that is put out along the way;
- runs one after another, and a run from the end;
- properties that every defined step keeps.

Does not own: any particular machine.
-/

set_option autoImplicit false

namespace CommunityServers.Foundation

universe u v w

/-- A machine: what one event puts out and leaves, if it is defined at all. -/
structure PartialMachine (State : Type u) (Event : Type v) (Output : Type w) where
  step : State → Event → Option (List Output × State)

namespace PartialMachine

variable {State : Type u} {Event : Type v} {Output : Type w}
variable (machine : PartialMachine State Event Output)

/-- Everything an event list puts out and the state after it. -/
def run : State → List Event → Option (List Output × State)
  | state, [] => some ([], state)
  | state, event :: rest =>
      (machine.step state event).bind fun first =>
        (run first.2 rest).map fun later => (first.1 ++ later.1, later.2)

@[simp] theorem run_nil (state : State) : machine.run state [] = some ([], state) := rfl

theorem run_cons (state : State) (event : Event) (rest : List Event) :
    machine.run state (event :: rest) =
      (machine.step state event).bind fun first =>
        (machine.run first.2 rest).map fun later => (first.1 ++ later.1, later.2) := rfl

theorem run_cons_eq_some {machine : PartialMachine State Event Output} {state : State}
    {event : Event} {rest : List Event} {result : List Output × State}
    (ran : machine.run state (event :: rest) = some result) :
    ∃ first later, machine.step state event = some first ∧
      machine.run first.2 rest = some later ∧ result = (first.1 ++ later.1, later.2) := by
  rw [run_cons] at ran
  obtain ⟨first, stepped, ran⟩ := Option.bind_eq_some_iff.mp ran
  obtain ⟨later, ranLater, same⟩ := Option.map_eq_some_iff.mp ran
  exact ⟨first, later, stepped, ranLater, same.symm⟩

/-- An invariant of the state and of all that was put out: when every step from it
is defined and keeps it, so is and does every run. -/
theorem run_of_step {machine : PartialMachine State Event Output}
    (Invariant : List Output → State → Prop)
    (step : ∀ history state event, Invariant history state → ∃ outputs after,
      machine.step state event = some (outputs, after) ∧ Invariant (history ++ outputs) after)
    {history : List Output} {state : State} (holds : Invariant history state)
    (events : List Event) :
    ∃ outputs after, machine.run state events = some (outputs, after) ∧
      Invariant (history ++ outputs) after := by
  induction events generalizing history state with
  | nil => exact ⟨[], state, rfl, (List.append_nil history).symm ▸ holds⟩
  | cons event rest inductionHypothesis =>
      obtain ⟨first, middle, stepped, holdsMiddle⟩ := step history state event holds
      obtain ⟨later, after, ran, holdsAfter⟩ := inductionHypothesis holdsMiddle
      refine ⟨first ++ later, after, ?_, ?_⟩
      · rw [run_cons, stepped, Option.bind_some, ran]
        rfl
      · rw [← List.append_assoc]
        exact holdsAfter

theorem run_append (state : State) (first second : List Event) :
    machine.run state (first ++ second) =
      (machine.run state first).bind fun before =>
        (machine.run before.2 second).map fun after => (before.1 ++ after.1, after.2) := by
  induction first generalizing state with
  | nil =>
      rw [List.nil_append, run_nil, Option.bind_some]
      cases machine.run state second <;> rfl
  | cons event rest inductionHypothesis =>
      rw [List.cons_append, run_cons, run_cons]
      cases machine.step state event with
      | none => rfl
      | some stepped =>
          simp only [Option.bind_some, inductionHypothesis]
          cases machine.run stepped.2 rest with
          | none => rfl
          | some middle =>
              simp only [Option.bind_some, Option.map_some]
              cases machine.run middle.2 second with
              | none => rfl
              | some last => simp only [Option.map_some, List.append_assoc]

end PartialMachine

end CommunityServers.Foundation
