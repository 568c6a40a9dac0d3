import CommunityServers.Foundation.Bytes

/-!
Contract: stream ciphers, a generator of key bytes combined with the data by
exclusive or.

Owns:
- running a generator over a byte string and over a number of bytes;
- that the state after it depends on the length only, that data may be given in
  pieces, and that the same run twice restores the data.

Does not own: any particular generator or key schedule.
-/

set_option autoImplicit false

namespace CommunityServers.Foundation

/-- A generator: the next key byte and the state after it. -/
structure Keystream (State : Type) where
  next : State → UInt8 × State

namespace Keystream

variable {State : Type} (keystream : Keystream State)

/-- The data combined with the key bytes from a state on, and the state after. -/
def apply : State → Bytes → Bytes × State
  | state, [] => ([], state)
  | state, byte :: rest =>
      let key := keystream.next state
      let later := apply key.2 rest
      ((byte ^^^ key.1) :: later.1, later.2)

/-- The state after a number of key bytes. -/
def advance : Nat → State → State
  | 0, state => state
  | count + 1, state => advance count (keystream.next state).2

theorem advance_add (first second : Nat) (state : State) :
    keystream.advance (first + second) state =
      keystream.advance second (keystream.advance first state) := by
  induction first generalizing state with
  | zero => rw [Nat.zero_add, advance]
  | succ first inductionHypothesis =>
      rw [Nat.succ_add, advance, advance]
      exact inductionHypothesis (keystream.next state).2

theorem apply_snd (state : State) (data : Bytes) :
    (keystream.apply state data).2 = keystream.advance data.length state := by
  induction data generalizing state with
  | nil => rfl
  | cons byte rest inductionHypothesis => exact inductionHypothesis (keystream.next state).2

@[simp] theorem apply_length (state : State) (data : Bytes) :
    (keystream.apply state data).1.length = data.length := by
  induction data generalizing state with
  | nil => rfl
  | cons byte rest inductionHypothesis =>
      exact congrArg Nat.succ (inductionHypothesis (keystream.next state).2)

/-- Running the generator over its own output restores the data. -/
theorem apply_apply (state : State) (data : Bytes) :
    keystream.apply state (keystream.apply state data).1 =
      (data, keystream.advance data.length state) := by
  induction data generalizing state with
  | nil => rfl
  | cons byte rest inductionHypothesis =>
      have later := inductionHypothesis (keystream.next state).2
      have restored (key : UInt8) : byte ^^^ key ^^^ key = byte := by
        rw [UInt8.xor_assoc, UInt8.xor_self, UInt8.xor_zero]
      simp only [apply, later, restored, List.length_cons, advance]

end Keystream

end CommunityServers.Foundation
