import Mathlib.Data.List.AList
import CommunityServers.Foundation.Bytes

/-!
Contract: HTTP header maps and their copying.

Owns:
- canonical field names, and keys that carry the proof of being canonical;
- header maps from keys to value lists, with `add` and `values`;
- the copying loop that adds every value of every kept key, and that its result
  has exactly the source's values at the kept keys.

Does not own: which fields a transport writes on its own account.
-/

set_option autoImplicit false

namespace CommunityServers.Foundation

/-- The bytes of an HTTP token. -/
def isTokenByte (byte : UInt8) : Bool :=
  (65 ≤ byte && byte ≤ 90) || (97 ≤ byte && byte ≤ 122) || (48 ≤ byte && byte ≤ 57) ||
    [33, 35, 36, 37, 38, 39, 42, 43, 45, 46, 94, 95, 96, 124, 126].contains byte

def upperByte (byte : UInt8) : UInt8 :=
  if 97 ≤ byte ∧ byte ≤ 122 then byte - 32 else byte

def lowerByte (byte : UInt8) : UInt8 :=
  if 65 ≤ byte ∧ byte ≤ 90 then byte + 32 else byte

/-- Upper case at the start and after a hyphen, lower case elsewhere. -/
def canonicalFrom : Bool → Bytes → Bytes
  | _, [] => []
  | upper, byte :: rest =>
      (if upper then upperByte byte else lowerByte byte) :: canonicalFrom (byte == 45) rest

/-- The canonical form of a field name; a text that is no token is left alone. -/
def canonicalKey (key : Bytes) : Bytes :=
  if key.all isTokenByte then canonicalFrom true key else key

/-- Case-insensitive comparison of ASCII texts. -/
def equalFold (left right : Bytes) : Bool := left.map lowerByte == right.map lowerByte

/-- A field name as a message reader stores it: a token in canonical form. -/
abbrev HeaderKey := { key : Bytes // key.all isTokenByte = true ∧ canonicalKey key = key }

abbrev Header := AList fun _ : HeaderKey => List Bytes

namespace Header

def values (header : Header) (key : HeaderKey) : List Bytes := (header.lookup key).getD []

/-- The first value of a key, or the empty string. -/
def get (header : Header) (key : HeaderKey) : Bytes := (header.values key).headD []

def add (header : Header) (key : HeaderKey) (value : Bytes) : Header :=
  header.insert key (header.values key ++ [value])

def addAll (header : Header) (key : HeaderKey) (list : List Bytes) : Header :=
  list.foldl (fun target value => target.add key value) header

/-- Adds every value of every key that is not skipped. -/
def copy (skip : HeaderKey → Bool) (source target : Header) : Header :=
  source.entries.foldl
    (fun target field => if skip field.1 then target else addAll target field.1 field.2) target

theorem values_add (header : Header) (key other : HeaderKey) (value : Bytes) :
    (header.add key value).values other =
      if other = key then header.values other ++ [value] else header.values other := by
  unfold add values
  split
  next same => rw [same, AList.lookup_insert, Option.getD_some]
  next different => rw [AList.lookup_insert_ne different]

theorem values_addAll (header : Header) (key other : HeaderKey) (list : List Bytes) :
    (header.addAll key list).values other =
      if other = key then header.values other ++ list else header.values other := by
  unfold addAll
  induction list generalizing header with
  | nil => simp
  | cons value rest inductionHypothesis =>
      rw [List.foldl_cons, inductionHypothesis, values_add]
      split <;> simp

theorem values_foldl (skip : HeaderKey → Bool)
    {fields : List (Sigma fun _ : HeaderKey => List Bytes)} (distinct : fields.NodupKeys)
    (target : Header) (key : HeaderKey) :
    values (fields.foldl (fun target field =>
        if skip field.1 then target else addAll target field.1 field.2) target) key =
      target.values key ++ if skip key then [] else (fields.dlookup key).getD [] := by
  induction fields generalizing target with
  | nil => simp
  | cons field rest inductionHypothesis =>
      obtain ⟨name, list⟩ := field
      rw [List.nodupKeys_cons] at distinct
      rw [List.foldl_cons, inductionHypothesis distinct.2]
      by_cases same : key = name
      · subst same
        rw [List.dlookup_cons_eq, List.dlookup_eq_none.mpr distinct.1]
        by_cases skipped : skip key = true <;> simp [skipped, values_addAll]
      · rw [List.dlookup_cons_ne rest ⟨name, list⟩ same]
        by_cases skipped : skip name = true <;> simp [skipped, values_addAll, same]

/-- **Copying.** A copy into an empty map has the source's values at every key
that is not skipped, and none at the others. -/
theorem values_copy (skip : HeaderKey → Bool) (source : Header) (key : HeaderKey) :
    (copy skip source ∅).values key = if skip key then [] else source.values key :=
  values_foldl skip source.nodupKeys ∅ key

end Header

end CommunityServers.Foundation
