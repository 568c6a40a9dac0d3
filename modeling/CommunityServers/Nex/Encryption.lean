import CommunityServers.Foundation.StreamCipher

/-!
Contract: the encryption algorithms of payloads.

Owns:
- RC4, and the three algorithms with their keys, counts and copies;
- that two sides in step stay in step, payload after payload, and restore what
  was encrypted;
- which histories of an algorithm a copy repeats.

RC4 itself is the one of the standard library. The ciphers of `QuazalRC4` are
made anew by every call, so those a call leaves behind are read by nothing and
are no part of its state.

Does not own: where keys come from, and which payloads are encrypted.
-/

set_option autoImplicit false

namespace CommunityServers.Nex

open CommunityServers.Foundation

/-! ### RC4 -/

namespace Rc4

structure Cipher where
  s : Vector UInt8 256
  i : UInt8
  j : UInt8
deriving DecidableEq

def swap (s : Vector UInt8 256) (i j : UInt8) : Vector UInt8 256 :=
  (s.set i.toFin (s.get j.toFin)).set j.toFin (s.get i.toFin)

/-- One round of the key schedule. -/
def mix (key : Bytes) (state : Vector UInt8 256 × UInt8) (i : Nat) : Vector UInt8 256 × UInt8 :=
  let j := state.2 + (state.1.get (UInt8.ofNat i).toFin + key.getD (i % key.length) 0)
  (swap state.1 (UInt8.ofNat i) j, j)

def schedule (key : Bytes) : Cipher :=
  ⟨((List.range 256).foldl (mix key) (Vector.ofFn fun i => UInt8.ofNat i, 0)).1, 0, 0⟩

def newCipher (key : Bytes) : Except String Cipher :=
  if key.length < 1 ∨ 256 < key.length then
    .error ("crypto/rc4: invalid key size " ++ toString key.length)
  else .ok (schedule key)

def nextByte (c : Cipher) : UInt8 × Cipher :=
  let i := c.i + 1
  let x := c.s.get i.toFin
  let j := c.j + x
  let y := c.s.get j.toFin
  let s := swap c.s i j
  (s.get (x + y).toFin, ⟨s, i, j⟩)

def keystream : Keystream Cipher := ⟨nextByte⟩

def xorKeyStream (c : Cipher) (data : Bytes) : Bytes × Cipher := keystream.apply c data

end Rc4

open Rc4

/-- The key of a new RC4 stream, and of every call of `QuazalRC4`. -/
def defaultKey : Bytes := ascii "CD&ML"

/-! ### Algorithms -/

structure Dummy where
  key : Bytes
deriving DecidableEq

structure RC4 where
  key : Bytes
  cipher : Cipher
  decipher : Cipher
  cipheredCount : UInt64
  decipheredCount : UInt64
deriving DecidableEq

structure QuazalRC4 where
  key : Bytes
  cipheredCount : UInt64
  decipheredCount : UInt64
deriving DecidableEq

namespace RC4

/-- A key of a size RC4 refuses is stored and changes nothing else. -/
def setKey (r : RC4) (key : Bytes) : RC4 :=
  match newCipher key with
  | .error _ => { r with key := key }
  | .ok cipher => { r with key := key, cipher := cipher, decipher := cipher }

def new : RC4 := ⟨defaultKey, schedule defaultKey, schedule defaultKey, 0, 0⟩

def encrypt (r : RC4) (payload : Bytes) : Bytes × RC4 :=
  let ciphered := xorKeyStream r.cipher payload
  (ciphered.1,
    { r with
      cipher := ciphered.2
      cipheredCount := r.cipheredCount + UInt64.ofNat payload.length })

def decrypt (r : RC4) (payload : Bytes) : Bytes × RC4 :=
  let deciphered := xorKeyStream r.decipher payload
  (deciphered.1,
    { r with
      decipher := deciphered.2
      decipheredCount := r.decipheredCount + UInt64.ofNat payload.length })

/-- The rounds of a loop up to a count that is converted to a signed integer: none
from `2 ^ 63` on, where the conversion is negative. -/
def rounds (count : UInt64) : Nat :=
  if count.toNat < 2 ^ 63 then count.toNat else 0

/-- A new stream with the same key, run over as many bytes as were counted. -/
def copy (r : RC4) : RC4 :=
  let copied := new.setKey r.key
  { copied with
    cipher := keystream.advance (rounds r.cipheredCount) copied.cipher
    decipher := keystream.advance (rounds r.decipheredCount) copied.decipher
    cipheredCount := r.cipheredCount
    decipheredCount := r.decipheredCount }

end RC4

namespace QuazalRC4

def new : QuazalRC4 := ⟨[], 0, 0⟩

def setKey (r : QuazalRC4) (key : Bytes) : QuazalRC4 := { r with key := key }

def encrypt (r : QuazalRC4) (payload : Bytes) : Bytes × QuazalRC4 :=
  ((xorKeyStream (schedule defaultKey) payload).1,
    { r.setKey defaultKey with
      cipheredCount := r.cipheredCount + UInt64.ofNat payload.length })

def decrypt (r : QuazalRC4) (payload : Bytes) : Bytes × QuazalRC4 :=
  ((xorKeyStream (schedule defaultKey) payload).1,
    { r.setKey defaultKey with
      decipheredCount := r.decipheredCount + UInt64.ofNat payload.length })

def copy (r : QuazalRC4) : QuazalRC4 :=
  { new.setKey r.key with
    cipheredCount := r.cipheredCount, decipheredCount := r.decipheredCount }

end QuazalRC4

inductive EncryptionAlgorithm where
  | dummy (algorithm : Dummy)
  | rc4 (algorithm : RC4)
  | quazalRC4 (algorithm : QuazalRC4)
deriving DecidableEq

namespace EncryptionAlgorithm

def setKey (key : Bytes) : EncryptionAlgorithm → EncryptionAlgorithm
  | dummy _ => dummy ⟨key⟩
  | rc4 r => rc4 (r.setKey key)
  | quazalRC4 r => quazalRC4 (r.setKey key)

def encrypt (payload : Bytes) : EncryptionAlgorithm → Bytes × EncryptionAlgorithm
  | dummy d => (payload, dummy d)
  | rc4 r => (r.encrypt payload).map id rc4
  | quazalRC4 r => (r.encrypt payload).map id quazalRC4

def decrypt (payload : Bytes) : EncryptionAlgorithm → Bytes × EncryptionAlgorithm
  | dummy d => (payload, dummy d)
  | rc4 r => (r.decrypt payload).map id rc4
  | quazalRC4 r => (r.decrypt payload).map id quazalRC4

def copy : EncryptionAlgorithm → EncryptionAlgorithm
  | dummy d => dummy d
  | rc4 r => rc4 r.copy
  | quazalRC4 r => quazalRC4 r.copy

/-- What one side encrypts next is what the other decrypts next. -/
def InStep : EncryptionAlgorithm → EncryptionAlgorithm → Prop
  | dummy _, dummy _ => True
  | rc4 sending, rc4 receiving => sending.cipher = receiving.decipher
  | quazalRC4 _, quazalRC4 _ => True
  | _, _ => False

instance : DecidableRel InStep := fun sending receiving => by
  cases sending <;> cases receiving <;> unfold InStep <;> infer_instance

variable {sending receiving : EncryptionAlgorithm}

/-- A payload is restored by the other side, and both stay in step. -/
theorem InStep.decrypt_encrypt (inStep : InStep sending receiving) (payload : Bytes) :
    (receiving.decrypt (sending.encrypt payload).1).1 = payload ∧
      InStep (sending.encrypt payload).2 (receiving.decrypt (sending.encrypt payload).1).2 := by
  cases sending with
  | dummy d =>
      cases receiving with
      | dummy _ => exact ⟨rfl, trivial⟩
      | rc4 _ => exact inStep.elim
      | quazalRC4 _ => exact inStep.elim
  | rc4 r =>
      cases receiving with
      | dummy _ => exact inStep.elim
      | rc4 other =>
          have restored := keystream.apply_apply other.decipher payload
          have advanced := keystream.apply_snd other.decipher payload
          have same : r.cipher = other.decipher := inStep
          refine ⟨?_, ?_⟩
          · show (keystream.apply other.decipher (keystream.apply r.cipher payload).1).1 = payload
            rw [same, restored]
          · show (keystream.apply r.cipher payload).2 =
              (keystream.apply other.decipher (keystream.apply r.cipher payload).1).2
            rw [same, restored, advanced]
      | quazalRC4 _ => exact inStep.elim
  | quazalRC4 r =>
      cases receiving with
      | dummy _ => exact inStep.elim
      | rc4 _ => exact inStep.elim
      | quazalRC4 other =>
          exact ⟨congrArg Prod.fst (keystream.apply_apply (schedule defaultKey) payload), trivial⟩

/-- What the receiving side sends meanwhile does not matter. -/
theorem InStep.encrypt_right (inStep : InStep sending receiving) (payload : Bytes) :
    InStep sending (receiving.encrypt payload).2 := by
  cases sending <;> cases receiving <;> exact inStep

end EncryptionAlgorithm

/-! ### Copies -/

namespace RC4

inductive Traffic where
  | encrypt (payload : Bytes)
  | decrypt (payload : Bytes)

def perform (r : RC4) : Traffic → RC4
  | .encrypt payload => (r.encrypt payload).2
  | .decrypt payload => (r.decrypt payload).2

def Traffic.ciphered : Traffic → Nat
  | .encrypt payload => payload.length
  | .decrypt _ => 0

def Traffic.deciphered : Traffic → Nat
  | .encrypt _ => 0
  | .decrypt payload => payload.length

/-- The bytes a history of calls encrypts. -/
def cipheredBytes (traffic : List Traffic) : Nat := (traffic.map Traffic.ciphered).sum

/-- The bytes a history of calls decrypts. -/
def decipheredBytes (traffic : List Traffic) : Nat := (traffic.map Traffic.deciphered).sum

/-- The stream after so many more bytes each way. -/
def after (r : RC4) (ciphered deciphered : Nat) : RC4 :=
  { r with
    cipher := keystream.advance ciphered r.cipher
    decipher := keystream.advance deciphered r.decipher
    cipheredCount := r.cipheredCount + UInt64.ofNat ciphered
    decipheredCount := r.decipheredCount + UInt64.ofNat deciphered }

theorem perform_eq_after (r : RC4) (traffic : Traffic) :
    r.perform traffic = r.after traffic.ciphered traffic.deciphered := by
  have unchanged (count : UInt64) : count + UInt64.ofNat 0 = count := UInt64.add_zero count
  cases traffic with
  | encrypt payload =>
      unfold after
      rw [Traffic.deciphered, unchanged, Traffic.ciphered, ← keystream.apply_snd]
      rfl
  | decrypt payload =>
      unfold after
      rw [Traffic.ciphered, unchanged, Traffic.deciphered, ← keystream.apply_snd]
      rfl

theorem after_after (r : RC4) (out inward more moreInward : Nat) :
    (r.after out inward).after more moreInward = r.after (out + more) (inward + moreInward) := by
  simp only [after, keystream.advance_add, UInt64.ofNat_add, UInt64.add_assoc]

/-- A history of calls moves each stream by the bytes it puts through. -/
theorem foldl_perform (r : RC4) (traffic : List Traffic) :
    traffic.foldl perform r = r.after (cipheredBytes traffic) (decipheredBytes traffic) := by
  induction traffic generalizing r with
  | nil => simp [after, cipheredBytes, decipheredBytes, Keystream.advance]
  | cons one rest inductionHypothesis =>
      rw [List.foldl_cons, inductionHypothesis, perform_eq_after, after_after]
      simp only [cipheredBytes, decipheredBytes, List.map_cons, List.sum_cons]

/-- Every byte moves the first index of a stream by one. -/
theorem advance_i (count : Nat) (c : Cipher) :
    (keystream.advance count c).i = c.i + UInt8.ofNat count := by
  induction count generalizing c with
  | zero => exact (UInt8.add_zero c.i).symm
  | succ count inductionHypothesis =>
      rw [Keystream.advance, inductionHypothesis]
      show c.i + 1 + UInt8.ofNat count = c.i + UInt8.ofNat (count + 1)
      rw [Nat.add_comm count, UInt8.ofNat_add, UInt8.add_assoc]
      rfl

theorem dvd_of_advance_eq {count : Nat} {c : Cipher} (same : keystream.advance count c = c) :
    256 ∣ count := by
  have index := advance_i count c
  rw [same] at index
  have value := congrArg UInt8.toNat index
  rw [UInt8.toNat_add, UInt8.toNat_ofNat'] at value
  have bounded := c.i.toNat_lt
  omega

theorem rounds_of_lt {count : UInt64} {more : Nat} (few : count.toNat + more < 2 ^ 63) :
    rounds (count + UInt64.ofNat more) = count.toNat + more := by
  have whole : (count + UInt64.ofNat more).toNat = count.toNat + more := by
    rw [UInt64.toNat_add, UInt64.toNat_ofNat']
    omega
  rw [rounds, whole, if_pos few]

/-- A copy runs the key's streams over all bytes ever counted, so it is ahead of
the stream by those counted before the key was set. -/
theorem copy_after_setKey (r : RC4) {key : Bytes} (size : ¬ (key.length < 1 ∨ 256 < key.length))
    {out inward : Nat} (few : r.cipheredCount.toNat + out < 2 ^ 63)
    (fewInward : r.decipheredCount.toNat + inward < 2 ^ 63) :
    ((r.setKey key).after out inward).copy =
      { (r.setKey key).after out inward with
        cipher := keystream.advance r.cipheredCount.toNat
          ((r.setKey key).after out inward).cipher
        decipher := keystream.advance r.decipheredCount.toNat
          ((r.setKey key).after out inward).decipher } := by
  have accepted : newCipher key = .ok (schedule key) := if_neg size
  simp only [copy, after, setKey, accepted, rounds_of_lt few, rounds_of_lt fewInward,
    ← keystream.advance_add, Nat.add_comm]

/-- **Copies.** Setting a key does not reset the counts, so after a key change
and any traffic a copy is ahead of the original by exactly the bytes that went
through before that change. It continues the original's streams when there were
none, and no stream that an amount not divisible by 256 went through before. -/
theorem copy_foldl_setKey (r : RC4) {key : Bytes} (traffic : List Traffic)
    (size : ¬ (key.length < 1 ∨ 256 < key.length))
    (few : r.cipheredCount.toNat + cipheredBytes traffic < 2 ^ 63)
    (fewInward : r.decipheredCount.toNat + decipheredBytes traffic < 2 ^ 63) :
    let stream := traffic.foldl perform (r.setKey key)
    stream.copy =
        { stream with
          cipher := keystream.advance r.cipheredCount.toNat stream.cipher
          decipher := keystream.advance r.decipheredCount.toNat stream.decipher } ∧
      (stream.copy.cipher = stream.cipher → 256 ∣ r.cipheredCount.toNat) ∧
      (stream.copy.decipher = stream.decipher → 256 ∣ r.decipheredCount.toNat) := by
  intro stream
  have ahead : stream.copy =
      { stream with
        cipher := keystream.advance r.cipheredCount.toNat stream.cipher
        decipher := keystream.advance r.decipheredCount.toNat stream.decipher } := by
    rw [show stream = _ from foldl_perform (r.setKey key) traffic]
    exact copy_after_setKey r size few fewInward
  refine ⟨ahead, fun same => ?_, fun same => ?_⟩
  · rw [ahead] at same
    exact dvd_of_advance_eq same
  · rw [ahead] at same
    exact dvd_of_advance_eq same

/-- Three bytes out and one in before the key change: the copy continues neither
stream. -/
theorem copy_foldl_setKey_used :
    let used := [Traffic.encrypt [7, 8, 9], .decrypt [5]].foldl perform new
    let stream := [Traffic.encrypt [1, 2], .decrypt [3]].foldl perform (used.setKey [9])
    stream.copy.cipher = keystream.advance 3 stream.cipher ∧
      stream.copy.cipher ≠ stream.cipher ∧ stream.copy.decipher ≠ stream.decipher := by
  intro used stream
  have out : used.cipheredCount.toNat = 3 := rfl
  have inward : used.decipheredCount.toNat = 1 := rfl
  have ahead := copy_foldl_setKey used [.encrypt [1, 2], .decrypt [3]]
    (by decide : ¬ (([9] : Bytes).length < 1 ∨ 256 < ([9] : Bytes).length))
    (by rw [out]; decide) (by rw [inward]; decide)
  rw [out, inward] at ahead
  obtain ⟨copied, outward, back⟩ := ahead
  exact ⟨by rw [copied],
    fun same => absurd (outward same) (by decide),
    fun same => absurd (back same) (by decide)⟩

end RC4

end CommunityServers.Nex
