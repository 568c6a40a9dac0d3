import Mathlib.Logic.Function.Basic

/-!
Contract: handling numbered items in order although they arrive in any order,
any number of times, under labels that repeat.

Owns:
- labellings, with the numbers whose labels are told apart when a given number
  is handled next;
- the first number that has not arrived;
- what a table by label holds after some arrivals, and how an arrival and the
  handling of the next item change that.

Does not own: how the table is stored, and what handling an item means.
-/

set_option autoImplicit false

namespace CommunityServers.Foundation

universe u v

/-- Labels of numbers. `Inside next number` says that the label of a number is
not mistaken while `next` is handled next. -/
structure Labelling (Label : Type u) where
  label : Nat → Label
  Inside : Nat → Nat → Prop
  unique : ∀ {next first second}, Inside next first → Inside next second →
    label first = label second → first = second
  next_unique : ∀ {next number}, Inside next number → label number = label next → number = next
  shift : ∀ {next number}, Inside next next → Inside next number → number ≠ next →
    Inside (next + 1) number

/-- The first number that has not arrived. -/
def IsFrontier (arrived : List Nat) (next : Nat) : Prop :=
  (∀ number < next, number ∈ arrived) ∧ next ∉ arrived

/-- A frontier is reached by everything that arrived without a gap. -/
theorem IsFrontier.le {arrived : List Nat} {next total : Nat} (isFrontier : IsFrontier arrived next)
    (bounded : ∀ number ∈ arrived, number < total) : next ≤ total := by
  by_contra beyond
  exact absurd (bounded total (isFrontier.1 total (Nat.lt_of_not_le beyond))) (Nat.lt_irrefl total)

theorem IsFrontier.eq_of_complete {arrived : List Nat} {next total : Nat}
    (isFrontier : IsFrontier arrived next) (bounded : ∀ number ∈ arrived, number < total)
    (complete : ∀ number < total, number ∈ arrived) : next = total := by
  refine Nat.le_antisymm (isFrontier.le bounded) ?_
  by_contra short
  exact isFrontier.2 (complete next (Nat.lt_of_not_le short))

section Tables

variable {Label : Type u} {Item : Type v}

/-- What a table by label holds when the numbers below `next` have been handled:
every other number that arrived, and nothing that did not. -/
structure Held (labelling : Labelling Label) (item : Nat → Item) (arrived : List Nat) (next : Nat)
    (table : Label → Option Item) : Prop where
  handled : ∀ number < next, number ∈ arrived
  waiting : ∀ number ∈ arrived, next ≤ number →
    labelling.Inside next number ∧ table (labelling.label number) = some (item number)
  only : ∀ label held, table label = some held →
    ∃ number ∈ arrived, labelling.Inside next number ∧ label = labelling.label number ∧
      held = item number

variable {labelling : Labelling Label} {item : Nat → Item} {arrived : List Nat} {next number : Nat}
  {table : Label → Option Item}

theorem held_nil (labelling : Labelling Label) (item : Nat → Item) {table : Label → Option Item}
    (empty : ∀ label, table label = none) : Held labelling item [] 0 table where
  handled number below := absurd below (Nat.not_lt_zero number)
  waiting number member := absurd member List.not_mem_nil
  only label held found := by
    rw [empty label] at found
    cases found

/-- What stands under the label of the next number is the next item. -/
theorem Held.next_eq (held : Held labelling item arrived next table) {found : Item}
    (lookup : table (labelling.label next) = some found) :
    found = item next ∧ next ∈ arrived := by
  obtain ⟨number, member, inside, sameLabel, rfl⟩ := held.only _ _ lookup
  obtain rfl := labelling.next_unique inside sameLabel.symm
  exact ⟨rfl, member⟩

/-- Nothing under the label of the next number: it has not arrived. -/
theorem Held.isFrontier (held : Held labelling item arrived next table)
    (missing : table (labelling.label next) = none) : IsFrontier arrived next := by
  refine ⟨held.handled, ?_⟩
  intro member
  rw [(held.waiting next member (Nat.le_refl next)).2] at missing
  cases missing

variable [DecidableEq Label]

theorem Held.arrive (held : Held labelling item arrived next table)
    (inside : labelling.Inside next number) :
    Held labelling item (arrived ++ [number]) next
      (Function.update table (labelling.label number) (some (item number))) where
  handled earlier below := List.mem_append_left _ (held.handled earlier below)
  waiting other member pending := by
    rcases List.mem_append.mp member with before | now
    · obtain ⟨otherInside, found⟩ := held.waiting other before pending
      refine ⟨otherInside, ?_⟩
      by_cases same : other = number
      · rw [same, Function.update_self]
      · rw [Function.update_of_ne (fun equal => same (labelling.unique otherInside inside equal)),
          found]
    · obtain rfl := List.mem_singleton.mp now
      exact ⟨inside, Function.update_self _ _ _⟩
  only label found lookup := by
    by_cases same : label = labelling.label number
    · rw [same, Function.update_self, Option.some.injEq] at lookup
      exact ⟨number, List.mem_append_right _ List.mem_cons_self, inside, same, lookup.symm⟩
    · rw [Function.update_of_ne same] at lookup
      obtain ⟨other, member, rest⟩ := held.only label found lookup
      exact ⟨other, List.mem_append_left _ member, rest⟩

theorem Held.advance (held : Held labelling item arrived next table) {found : Item}
    (lookup : table (labelling.label next) = some found) :
    Held labelling item arrived (next + 1)
      (Function.update table (labelling.label next) none) := by
  have member := (held.next_eq lookup).2
  have inside := (held.waiting next member (Nat.le_refl next)).1
  refine ⟨?_, ?_, ?_⟩
  · intro number below
    rcases Nat.lt_succ_iff_lt_or_eq.mp below with less | rfl
    · exact held.handled number less
    · exact member
  · intro number arrivedBefore pending
    obtain ⟨numberInside, found⟩ := held.waiting number arrivedBefore (Nat.le_of_succ_le pending)
    have other : number ≠ next := Nat.ne_of_gt pending
    refine ⟨labelling.shift inside numberInside other, ?_⟩
    rw [Function.update_of_ne (fun same => other (labelling.next_unique numberInside same)), found]
  · intro label item lookupLater
    by_cases same : label = labelling.label next
    · rw [same, Function.update_self] at lookupLater
      cases lookupLater
    · rw [Function.update_of_ne same] at lookupLater
      obtain ⟨number, arrivedBefore, numberInside, rfl, rfl⟩ := held.only _ _ lookupLater
      have other : number ≠ next := fun equal => same (congrArg labelling.label equal)
      exact ⟨number, arrivedBefore, labelling.shift inside numberInside other, rfl, rfl⟩

end Tables

end CommunityServers.Foundation
