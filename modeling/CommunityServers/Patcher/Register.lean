import Mathlib.Data.Nat.Find
import CommunityServers.Accounts.Register
import CommunityServers.Foundation.HttpMessage

/-!
Contract: the patcher's registration request, end to end.

Owns:
- `url_encode` with its bounded buffer, the two `snprintf` calls and the bytes
  handed to `send`, each of which fails on an access outside its buffer;
- what of a password reaches the server: its longest prefix whose encoding fits;
- the exact condition under which an accepted registration stores the password
  the console has.

Does not own: name resolution, sockets, and the reading of the reply.
-/

set_option autoImplicit false

namespace CommunityServers.Patcher

open CommunityServers.Foundation
open CommunityServers.Accounts

/-! ### C buffers -/

/-- A store into a buffer; outside of it there is no result. -/
def store (buffer : Bytes) (index : Nat) (byte : UInt8) : Option Bytes :=
  if index < buffer.length then some (buffer.set index byte) else none

/-- The string a buffer holds; without a terminator there is no result. -/
def cString (buffer : Bytes) : Option Bytes :=
  if 0 ∈ buffer then some (buffer.takeWhile fun byte => byte ≠ 0) else none

/-- `snprintf`: the string left in a buffer of the given size, and the length
the text would have had. -/
def snprintf (size : Nat) (text : Bytes) : Bytes × Nat := (text.take (size - 1), text.length)

/-! ### `url_encode` -/

def hexTable : Bytes := ascii "0123456789ABCDEF"

def isUnreservedC (c : UInt8) : Bool :=
  (65 ≤ c && c ≤ 90) || (97 ≤ c && c ≤ 122) || (48 ≤ c && c ≤ 57) ||
    c == 45 || c == 95 || c == 46 || c == 126

/-- The loop over the source, which ends at a terminator, at the end of the
bytes given, or at the first byte that does not fit. -/
def urlEncodeLoop (dstsz : Nat) : Bytes → Nat → Bytes → Option (Bytes × Nat)
  | dst, o, [] => some (dst, o)
  | dst, o, c :: rest =>
      if c = 0 then some (dst, o)
      else if isUnreservedC c then
        if o + 1 ≥ dstsz then some (dst, o)
        else
          match store dst o c with
          | none => none
          | some dst => urlEncodeLoop dstsz dst (o + 1) rest
      else
        if o + 3 ≥ dstsz then some (dst, o)
        else
          match store dst o 37 with
          | none => none
          | some dst =>
              match store dst (o + 1) (hexTable.getD (c.toNat / 16) 0) with
              | none => none
              | some dst =>
                  match store dst (o + 2) (hexTable.getD (c.toNat % 16) 0) with
                  | none => none
                  | some dst => urlEncodeLoop dstsz dst (o + 3) rest

def urlEncode (dst : Bytes) (dstsz : Nat) (src : Bytes) : Option (Bytes × Nat) :=
  match urlEncodeLoop dstsz dst 0 src with
  | none => none
  | some (dst, o) => (store dst o 0).map fun dst => (dst, o)

/-! ### `register_account` -/

def serverHost : Bytes := ascii "ffe.freakybigfoot.com"

def bodyText (pid : UInt32) (encpw : Bytes) : Bytes :=
  ascii "pid=" ++ formatUint pid.toNat ++ ascii "&password=" ++ encpw

def requestText (blen : Nat) (body : Bytes) : Bytes :=
  ascii "POST /register HTTP/1.0\r\nHost: " ++ serverHost ++
    ascii "\r\nContent-Type: application/x-www-form-urlencoded\r\nContent-Length: " ++
    formatUint blen ++ ascii "\r\nConnection: close\r\n\r\n" ++ body

/-- The bytes `send` reads: as many as `snprintf` counted, from a buffer of
1024. -/
def sendBytes (req : Bytes × Nat) : Option Bytes :=
  if req.2 ≤ 1024 then some ((req.1 ++ [0]).take req.2) else none

/-- The request `register_account` sends; `stack` is what its buffer of 256
bytes held before. -/
def registerRequest (stack : Bytes) (pid : UInt32) (password : Bytes) : Option Bytes :=
  match urlEncode stack 256 password with
  | none => none
  | some (encpw, _) =>
      match cString encpw with
      | none => none
      | some encoded =>
          let body := snprintf 512 (bodyText pid encoded)
          sendBytes (snprintf 1024 (requestText body.2 body.1))

/-! ### What fits -/

/-- The percent-encoding of a whole text. -/
def percentEncode (text : Bytes) : Bytes := text.flatMap escapeByte

/-- The longest prefix whose encoding has at most 255 bytes. -/
def keptPrefix (password : Bytes) : Bytes :=
  password.take (Nat.findGreatest
    (fun count => (percentEncode (password.take count)).length ≤ 255) password.length)

/-- The bytes a loop with so much room encodes. -/
def fitting : Nat → Bytes → Bytes
  | _, [] => []
  | room, byte :: rest =>
      if (escapeByte byte).length ≤ room then
        byte :: fitting (room - (escapeByte byte).length) rest
      else []

theorem fitting_eq_take (room : Nat) (text : Bytes) :
    fitting room text = text.take (fitting room text).length := by
  induction text generalizing room with
  | nil => rfl
  | cons byte rest inductionHypothesis =>
      unfold fitting
      split
      · rw [List.length_cons, List.take_succ_cons, ← inductionHypothesis]
      · rfl

theorem percentEncode_fitting_length (room : Nat) (text : Bytes) :
    (percentEncode (fitting room text)).length ≤ room := by
  induction text generalizing room with
  | nil => exact Nat.zero_le room
  | cons byte rest inductionHypothesis =>
      unfold fitting
      split
      next fits =>
        have tail := inductionHypothesis (room - (escapeByte byte).length)
        unfold percentEncode at tail ⊢
        rw [List.flatMap_cons, List.length_append]
        omega
      next => exact Nat.zero_le room

/-- No longer prefix fits. -/
theorem fitting_longest (room count : Nat) (text : Bytes) (inside : count ≤ text.length)
    (longer : (fitting room text).length < count) :
    room < (percentEncode (text.take count)).length := by
  induction text generalizing room count with
  | nil =>
      rw [List.length_nil] at inside
      omega
  | cons byte rest inductionHypothesis =>
      obtain ⟨fewer, rfl⟩ := Nat.exists_eq_succ_of_ne_zero (Nat.ne_of_gt (by omega : 0 < count))
      rw [List.take_succ_cons]
      unfold percentEncode
      rw [List.flatMap_cons, List.length_append]
      unfold fitting at longer
      split at longer
      next fits =>
        have tail := inductionHypothesis (room - (escapeByte byte).length) fewer
          (Nat.le_of_succ_le_succ inside) (Nat.lt_of_succ_lt_succ longer)
        unfold percentEncode at tail
        omega
      next tooLong => omega

theorem fitting_eq_keptPrefix (password : Bytes) : fitting 255 password = keptPrefix password := by
  have short : (fitting 255 password).length ≤ password.length := by
    rw [fitting_eq_take, List.length_take]
    exact Nat.min_le_right _ _
  have fits : (percentEncode (password.take (fitting 255 password).length)).length ≤ 255 := by
    rw [← fitting_eq_take]
    exact percentEncode_fitting_length 255 password
  have greatest : Nat.findGreatest
      (fun count => (percentEncode (password.take count)).length ≤ 255) password.length =
        (fitting 255 password).length := by
    rw [Nat.findGreatest_eq_iff]
    refine ⟨short, fun _ => fits, ?_⟩
    intro count longer inside
    have exceeds := fitting_longest 255 count password inside longer
    omega
  unfold keptPrefix
  rw [greatest, ← fitting_eq_take]

/-! ### The encoder's buffer -/

theorem take_set_self {buffer : Bytes} {index : Nat} (inside : index < buffer.length)
    (byte : UInt8) : (buffer.set index byte).take (index + 1) = buffer.take index ++ [byte] := by
  rw [List.take_add_one, List.take_set_of_le (Nat.le_refl index),
    List.getElem?_set_self inside]
  rfl

theorem take_set_three {buffer : Bytes} {index : Nat} (inside : index + 2 < buffer.length)
    (first second third : UInt8) :
    (((buffer.set index first).set (index + 1) second).set (index + 2) third).take
        (index + 3) = buffer.take index ++ [first, second, third] := by
  rw [take_set_self (by simp only [List.length_set]; omega),
    take_set_self (by rw [List.length_set]; omega), take_set_self (by omega)]
  simp

theorem store_inside {buffer : Bytes} {index : Nat} (inside : index < buffer.length)
    (byte : UInt8) : store buffer index byte = some (buffer.set index byte) := by
  unfold store
  rw [if_pos inside]

theorem hexTable_getD {value : Nat} (small : value < 16) :
    hexTable.getD value 0 = hexDigit value := by
  have each : ∀ digit < 16, hexTable.getD digit 0 = hexDigit digit := by decide
  exact each value small

/-- A run from position `o` wrote a text there and kept what was before it. -/
def Wrote (size : Nat) (dst : Bytes) (o : Nat) (text : Bytes) (result : Option (Bytes × Nat)) :
    Prop :=
  ∃ out, result = some (out, o + text.length) ∧ out.length = size + 1 ∧
    out.take (o + text.length) = dst.take o ++ text

theorem wrote_nothing {size : Nat} {dst : Bytes} (sized : dst.length = size + 1) (o : Nat) :
    Wrote size dst o [] (some (dst, o)) :=
  ⟨dst, rfl, sized, by simp⟩

theorem Wrote.extend {size o : Nat} {dst next piece text : Bytes}
    {result : Option (Bytes × Nat)}
    (written : next.take (o + piece.length) = dst.take o ++ piece)
    (rest : Wrote size next (o + piece.length) text result) :
    Wrote size dst o (piece ++ text) result := by
  obtain ⟨out, ran, sized, taken⟩ := rest
  refine ⟨out, ?_, sized, ?_⟩
  · rw [ran, List.length_append, Nat.add_assoc]
  · rw [List.length_append, ← Nat.add_assoc, taken, written, List.append_assoc]

theorem percentEncode_cons (byte : UInt8) (rest : Bytes) :
    percentEncode (byte :: rest) = escapeByte byte ++ percentEncode rest := rfl

/-- The loop writes the encoding of what fits and nothing beyond the buffer. -/
theorem urlEncodeLoop_wrote {size : Nat} {src : Bytes} (nulFree : 0 ∉ src) {dst : Bytes}
    {o room : Nat} (sized : dst.length = size + 1) (left : o + room = size) :
    Wrote size dst o (percentEncode (fitting room src)) (urlEncodeLoop (size + 1) dst o src) := by
  induction src generalizing dst o room with
  | nil => exact wrote_nothing sized o
  | cons c rest inductionHypothesis =>
      rw [List.mem_cons, not_or] at nulFree
      unfold urlEncodeLoop fitting
      rw [if_neg (Ne.symm nulFree.1)]
      by_cases unreserved : isUnreserved c = true
      · have piece : escapeByte c = [c] := by
          unfold escapeByte
          rw [if_pos unreserved]
        have width : (escapeByte c).length = 1 := by rw [piece]; rfl
        rw [if_pos (show isUnreservedC c = true from unreserved), width]
        by_cases fits : 1 ≤ room
        · rw [if_pos fits, if_neg (by omega), percentEncode_cons, store_inside (by omega)]
          apply Wrote.extend
          · rw [piece]
            exact take_set_self (by omega) c
          · rw [width]
            exact inductionHypothesis nulFree.2 (by rw [List.length_set, sized]) (by omega)
        · rw [if_neg fits, if_pos (by omega)]
          exact wrote_nothing sized o
      · have bounded : c.toNat < 256 := c.toNat_lt
        have piece : escapeByte c =
            [37, hexDigit (c.toNat / 16), hexDigit (c.toNat % 16)] := by
          unfold escapeByte
          rw [if_neg unreserved]
        have width : (escapeByte c).length = 3 := by rw [piece]; rfl
        rw [if_neg (show ¬ isUnreservedC c = true from unreserved), width,
          hexTable_getD (by omega), hexTable_getD (by omega)]
        by_cases fits : 3 ≤ room
        · rw [if_pos fits, if_neg (by omega), percentEncode_cons, store_inside (by omega)]
          dsimp only
          rw [store_inside (by rw [List.length_set]; omega)]
          dsimp only
          rw [store_inside (by rw [List.length_set, List.length_set]; omega)]
          dsimp only
          apply Wrote.extend
          · rw [piece]
            exact take_set_three (by omega) _ _ _
          · rw [width]
            exact inductionHypothesis nulFree.2 (by simp only [List.length_set, sized])
              (by omega)
        · rw [if_neg fits, if_pos (by omega)]
          exact wrote_nothing sized o

theorem percentEncode_ne_zero (text : Bytes) : ∀ byte ∈ percentEncode text, byte ≠ 0 := by
  intro byte member zero
  rw [zero] at member
  rcases mem_flatMap_escapeByte member with percent | unreserved
  · cases percent
  · cases unreserved

theorem cString_append {text : Bytes} (nulFree : ∀ byte ∈ text, byte ≠ 0) (rest : Bytes) :
    cString (text ++ 0 :: rest) = some text := by
  unfold cString
  rw [if_pos (by simp), List.takeWhile_append_of_pos (by simpa using nulFree)]
  simp

/-- `url_encode` stays in its buffer and leaves the encoding of the longest
prefix that fits. -/
theorem urlEncode_cString {stack password : Bytes} (sized : stack.length = 256)
    (nulFree : 0 ∉ password) :
    ∃ encpw count, urlEncode stack 256 password = some (encpw, count) ∧
      cString encpw = some (percentEncode (keptPrefix password)) := by
  have wrote : Wrote 255 stack 0 (percentEncode (fitting 255 password))
      (urlEncodeLoop (255 + 1) stack 0 password) := urlEncodeLoop_wrote nulFree sized rfl
  obtain ⟨out, ran, outSized, taken⟩ := wrote
  rw [fitting_eq_keptPrefix, Nat.zero_add] at ran taken
  have fits : (percentEncode (keptPrefix password)).length ≤ 255 := by
    rw [← fitting_eq_keptPrefix]
    exact percentEncode_fitting_length 255 password
  refine ⟨out.set (percentEncode (keptPrefix password)).length 0,
    (percentEncode (keptPrefix password)).length, ?_, ?_⟩
  · unfold urlEncode
    rw [show 256 = 255 + 1 from rfl, ran]
    dsimp only
    rw [store_inside (by omega)]
    rfl
  · rw [List.set_eq_take_append_cons_drop, if_pos (by omega), taken, List.take_zero,
      List.nil_append]
    exact cString_append (percentEncode_ne_zero _) _

end CommunityServers.Patcher
