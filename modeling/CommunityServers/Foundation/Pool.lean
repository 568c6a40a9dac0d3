import Mathlib.Data.Multiset.AddSub
import Mathlib.Data.Multiset.Count
import CommunityServers.Foundation.Machine

/-!
Contract: threads over a shared memory, one atomic step at a time.

Owns:
- programs, whose threads are started by calls, take steps and start others;
- the machine that interleaves them in any order, and that emits every thread
  another one starts;
- the pool rule: a property of the memory and of the threads, in no particular
  order, holds in every run once calls and steps preserve it;
- that an attribute threads never change is counted by what was started.

Does not own: locks, which are part of the memory, or fairness. A thread that
cannot go on takes a step that changes nothing.
-/

set_option autoImplicit false

namespace CommunityServers.Foundation

universe u v w x

/-- What a call starts, and what one step of a thread leaves: the memory, the
thread itself and the threads it has started. -/
structure Program (Shared : Type u) (Thread : Type v) (Call : Type w) (Input : Type x) where
  start : Call → Thread
  advance : Input → Shared → Thread → Shared × Thread × List Thread

structure Pool (Shared : Type u) (Thread : Type v) where
  shared : Shared
  threads : List Thread

inductive PoolEvent (Call : Type w) (Input : Type x) where
  | call (argument : Call)
  | run (index : Nat) (input : Input)
deriving DecidableEq

namespace Program

variable {Shared : Type u} {Thread : Type v} {Call : Type w} {Input : Type x}
variable (program : Program Shared Thread Call Input)

/-- An event of a thread that does not exist has no effect. -/
def machine : Machine (Pool Shared Thread) (PoolEvent Call Input) Thread where
  step pool event :=
    match event with
    | .call argument => ⟨pool.shared, pool.threads ++ [program.start argument]⟩
    | .run index input =>
        match pool.threads[index]? with
        | none => pool
        | some thread =>
            let after := program.advance input pool.shared thread
            ⟨after.1, pool.threads.set index after.2.1 ++ after.2.2⟩
  emit pool event :=
    match event with
    | .call _ => []
    | .run index input =>
        match pool.threads[index]? with
        | none => []
        | some thread => (program.advance input pool.shared thread).2.2

/-- The rest of the threads, for one of them. -/
theorem exists_others {threads : List Thread} {index : Nat} {thread : Thread}
    (found : threads[index]? = some thread) :
    ∃ others : Multiset Thread, (threads : Multiset Thread) = thread ::ₘ others ∧
      ∀ next, (threads.set index next : Multiset Thread) = next ::ₘ others := by
  induction threads generalizing index with
  | nil => cases found
  | cons head rest inductionHypothesis =>
      cases index with
      | zero =>
          obtain rfl := Option.some.inj found
          exact ⟨rest, rfl, fun next => rfl⟩
      | succ index =>
          obtain ⟨others, whole, replaced⟩ := inductionHypothesis found
          refine ⟨head ::ₘ others, ?_, fun next => ?_⟩
          · rw [Multiset.cons_swap, ← whole, Multiset.cons_coe]
          · rw [Multiset.cons_swap, ← replaced next, Multiset.cons_coe]
            rfl

variable {program}

theorem threads_call (pool : Pool Shared Thread) (argument : Call) :
    ((program.machine.step pool (.call argument : PoolEvent Call Input)).threads :
        Multiset Thread) = program.start argument ::ₘ (pool.threads : Multiset Thread) := by
  change ((pool.threads ++ [program.start argument] : List Thread) : Multiset Thread) = _
  rw [← Multiset.coe_add, Multiset.coe_singleton, Multiset.add_comm, Multiset.singleton_add]

theorem step_run_none {pool : Pool Shared Thread} {index : Nat}
    (absent : pool.threads[index]? = none) (input : Input) :
    program.machine.step pool (.run index input) = pool ∧
      program.machine.emit pool (.run index input) = [] := by
  simp only [machine, absent, and_self]

theorem step_run_some {pool : Pool Shared Thread} {index : Nat} {thread : Thread}
    (found : pool.threads[index]? = some thread) (input : Input) :
    program.machine.step pool (.run index input) =
        ⟨(program.advance input pool.shared thread).1,
          pool.threads.set index (program.advance input pool.shared thread).2.1 ++
            (program.advance input pool.shared thread).2.2⟩ ∧
      program.machine.emit pool (.run index input) =
        (program.advance input pool.shared thread).2.2 := by
  simp only [machine, found, and_self]

theorem coe_set_append {threads : List Thread} {index : Nat} {others : Multiset Thread}
    {next : Thread} (replaced : (threads.set index next : Multiset Thread) = next ::ₘ others)
    (started : List Thread) :
    (threads.set index next ++ started : List Thread) =
      next ::ₘ ((started : Multiset Thread) + others) := by
  rw [← Multiset.coe_add, replaced, Multiset.cons_add, Multiset.add_comm others]

/-- **Pool rule.** What calls and steps preserve holds in every run. -/
theorem pool_rule (property : Shared → Multiset Thread → Prop) {shared : Shared}
    (initial : property shared 0)
    (called : ∀ shared threads argument, property shared threads →
      property shared (program.start argument ::ₘ threads))
    (advanced : ∀ input shared thread others, property shared (thread ::ₘ others) →
      property (program.advance input shared thread).1
        ((program.advance input shared thread).2.1 ::ₘ
          (((program.advance input shared thread).2.2 : Multiset Thread) + others)))
    (events : List (PoolEvent Call Input)) :
    property (program.machine.exec ⟨shared, []⟩ events).shared
      (program.machine.exec ⟨shared, []⟩ events).threads := by
  apply program.machine.invariant_rule (fun pool => property pool.shared pool.threads) initial _
    events (program.machine.guarded_true _ events)
  intro pool event holds _
  cases event with
  | call argument =>
      rw [threads_call]
      exact called _ _ argument holds
  | run index input =>
      cases found : pool.threads[index]? with
      | none =>
          rw [(step_run_none found input).1]
          exact holds
      | some thread =>
          obtain ⟨others, whole, replaced⟩ := exists_others found
          rw [(step_run_some found input).1]
          dsimp only
          rw [coe_set_append (replaced _)]
          rw [whole] at holds
          exact advanced input pool.shared thread others holds

/-- Threads of a kind that no step changes and no call has are those that other
threads have started. -/
theorem countP_log (kind : Thread → Prop) [DecidablePred kind] (shared : Shared)
    (never : ∀ argument, ¬ kind (program.start argument))
    (stable : ∀ input shared thread,
      kind (program.advance input shared thread).2.1 ↔ kind thread)
    (events : List (PoolEvent Call Input)) :
    (program.machine.log ⟨shared, []⟩ events).countP (kind ·) =
      (program.machine.exec ⟨shared, []⟩ events).threads.countP (kind ·) := by
  induction events using List.reverseRecOn with
  | nil => rfl
  | append_singleton events event inductionHypothesis =>
      rw [Machine.log_append_singleton, Machine.exec_append_singleton, List.countP_append,
        inductionHypothesis]
      cases event with
      | call argument =>
          change _ + 0 = (_ ++ [program.start argument]).countP (kind ·)
          rw [List.countP_append, List.countP_singleton, if_neg (by simpa using never argument)]
      | run index input =>
          cases found : (program.machine.exec ⟨shared, []⟩ events).threads[index]? with
          | none =>
              rw [(step_run_none found input).1, (step_run_none found input).2]
              rfl
          | some thread =>
              obtain ⟨others, whole, replaced⟩ := exists_others found
              rw [(step_run_some found input).1, (step_run_some found input).2,
                List.countP_append]
              congr 1
              rw [← Multiset.coe_countP, ← Multiset.coe_countP, whole, replaced,
                Multiset.countP_cons, Multiset.countP_cons]
              simp only [stable]

end Program

end CommunityServers.Foundation
