import Mathlib.Data.List.AList
import CommunityServers.Nex.ByteStream

/-!
Contract: the NEX types that messages and tickets are made of.

Owns:
- 16-bit numbers, strings, buffers, PIDs, dates and maps with their `WriteTo` and
  `ExtractFrom`;
- for each of them the values that survive the wire, and that such a value is
  read back from what was written, whatever follows it.

A map is written in the order one loop happens to range over it, so what is
read back is a map with the same entries.

Does not own: the types that neither messages nor tickets use, the conversions to
and from database values, and the memory a length prefix makes the reader reserve.
-/

set_option autoImplicit false

namespace CommunityServers.Nex

open CommunityServers.Foundation
open CommunityServers.Foundation.Reader

/-- A type that can be written to a stream and read from one. -/
class RVType (Value : Type) where
  writeTo : ByteStreamSettings → Value → Bytes
  extractFrom : ByteStreamSettings → Reader Value

export RVType (writeTo extractFrom)

/-- Values that are read back from what they write. -/
class LawfulRVType (Value : Type) [RVType Value] where
  Fits : ByteStreamSettings → Value → Prop
  reads : ∀ {settings value}, Fits settings value →
    Reads (extractFrom settings) (writeTo settings value) value

export LawfulRVType (Fits)

/-! ### Numbers -/

instance : RVType UInt16 := ⟨fun _ => uint16Bytes, fun _ => readUInt16LE⟩

instance : LawfulRVType UInt16 := ⟨fun _ _ => True, fun _ => reads_uint16 _⟩

/-! ### Strings and buffers -/

structure NexString where
  text : Bytes
deriving DecidableEq

/-- `strings.TrimRight(text, "\x00")`. -/
def trimRightNul (text : Bytes) : Bytes := (text.reverse.dropWhile (· == 0)).reverse

namespace NexString

def lengthBytes (settings : ByteStreamSettings) (length : Nat) : Bytes :=
  if settings.stringLengthSize = 4 then uint32Bytes (UInt32.ofNat length)
  else uint16Bytes (UInt16.ofNat length)

def readLength (settings : ByteStreamSettings) : Reader Nat :=
  if settings.stringLengthSize = 4 then do
    let length ← readUInt32LE
    return length.toNat
  else do
    let length ← readUInt16LE
    return length.toNat

instance : RVType NexString where
  writeTo settings s :=
    let text := s.text ++ [0]
    lengthBytes settings text.length ++ text
  extractFrom settings := do
    let length ← (readLength settings).context "Failed to read NEX string length. "
    let stringData ← next length "NEX string length longer than data size"
    return ⟨trimRightNul stringData⟩

/-- The bound on the length of a string with its terminator. -/
def capacity (settings : ByteStreamSettings) : Nat :=
  if settings.stringLengthSize = 4 then 2 ^ 32 else 2 ^ 16

theorem reads_length {settings : ByteStreamSettings} {length : Nat}
    (small : length < capacity settings) :
    Reads (readLength settings) (lengthBytes settings length) length := by
  unfold capacity at small
  unfold readLength lengthBytes
  split
  next wide =>
    rw [if_pos wide] at small
    have reads := (reads_uint32 (UInt32.ofNat length)).bind_pure UInt32.toNat
    rwa [UInt32.toNat_ofNat_of_lt' small] at reads
  next narrow =>
    rw [if_neg narrow] at small
    have reads := (reads_uint16 (UInt16.ofNat length)).bind_pure UInt16.toNat
    rwa [UInt16.toNat_ofNat_of_lt' small] at reads

end NexString

theorem trimRightNul_append_nul {text : Bytes} (noTrailing : text.getLast? ≠ some 0) :
    trimRightNul (text ++ [0]) = text := by
  unfold trimRightNul
  rw [List.reverse_append, List.reverse_singleton, List.singleton_append,
    List.dropWhile_cons_of_pos rfl]
  rcases List.eq_nil_or_concat text with rfl | ⟨front, last, rfl⟩
  · rfl
  · rw [List.concat_eq_append] at noTrailing ⊢
    have kept : ¬ (last == 0) = true := by
      intro zero
      apply noTrailing
      rw [List.getLast?_append, List.getLast?_singleton, beq_iff_eq.mp zero]
      rfl
    rw [List.reverse_append, List.reverse_singleton, List.singleton_append,
      List.dropWhile_cons, if_neg kept, List.reverse_cons, List.reverse_reverse]

instance : LawfulRVType NexString where
  Fits settings s := s.text.getLast? ≠ some 0 ∧ s.text.length + 1 < NexString.capacity settings
  reads := by
    rintro settings ⟨text⟩ ⟨noTrailing, short⟩
    have sized : (text ++ [0]).length < NexString.capacity settings := by
      rw [List.length_append]
      exact short
    have data := (reads_next (rfl : (text ++ [0]).length = _)
      "NEX string length longer than data size").bind_pure
        fun data => NexString.mk (trimRightNul data)
    rw [trimRightNul_append_nul noTrailing] at data
    exact ((NexString.reads_length sized).context _).bind data

structure Buffer where
  data : Bytes
deriving DecidableEq

instance : RVType Buffer where
  writeTo _ b := uint32Bytes (UInt32.ofNat b.data.length) ++ b.data
  extractFrom _ := do
    let length ← readUInt32LE.context "Failed to read NEX Buffer length. "
    let value ← (read length.toNat).context "Failed to read NEX Buffer data. "
    return ⟨value⟩

instance : LawfulRVType Buffer where
  Fits _ b := b.data.length < 2 ^ 32
  reads := by
    rintro settings ⟨data⟩ short
    have width : data.length = (UInt32.ofNat data.length).toNat :=
      (UInt32.toNat_ofNat_of_lt' short).symm
    exact ((reads_uint32 _).context _).bind (((reads_read width).context _).bind_pure Buffer.mk)

/-! ### PIDs and dates -/

structure PID where
  value : UInt64
deriving DecidableEq

instance : RVType PID where
  writeTo settings p :=
    if settings.pidSize = 8 then uint64Bytes p.value else uint32Bytes p.value.toUInt32
  extractFrom settings :=
    if settings.pidSize = 8 then do
      let pid ← readUInt64LE
      return ⟨pid⟩
    else do
      let pid ← readUInt32LE
      return ⟨pid.toUInt64⟩

instance : LawfulRVType PID where
  Fits settings p := settings.pidSize = 8 ∨ p.value.toNat < 2 ^ 32
  reads := by
    rintro settings ⟨value⟩ fits
    simp only [writeTo, extractFrom]
    split
    next => exact (reads_uint64 value).bind_pure PID.mk
    next narrow =>
      have small : value.toNat < 2 ^ 32 := fits.resolve_left narrow
      have back : value.toUInt32.toUInt64 = value := by
        rw [← UInt64.toNat_inj, UInt32.toNat_toUInt64, UInt64.toNat_toUInt32,
          Nat.mod_eq_of_lt small]
      have reads := (reads_uint32 value.toUInt32).bind_pure fun pid => PID.mk pid.toUInt64
      rwa [back] at reads

structure DateTime where
  value : UInt64
deriving DecidableEq

instance : RVType DateTime where
  writeTo _ dt := uint64Bytes dt.value
  extractFrom _ := do
    let value ← readUInt64LE.context "Failed to read DateTime value. "
    return ⟨value⟩

instance : LawfulRVType DateTime :=
  ⟨fun _ _ => True, fun _ => ((reads_uint64 _).context _).bind_pure DateTime.mk⟩

/-! ### Maps -/

section Maps

variable {Key Value : Type} [RVType Key] [RVType Value]

def writeEntry (settings : ByteStreamSettings) (entry : Σ _ : Key, Value) : Bytes :=
  writeTo settings entry.1 ++ writeTo settings entry.2

def readEntry (settings : ByteStreamSettings) : Reader (Σ _ : Key, Value) := do
  let key ← extractFrom settings
  let value ← extractFrom settings
  return ⟨key, value⟩

/-- `WriteTo` of a map whose loop visits these entries in this order. -/
def writeMap (settings : ByteStreamSettings) (visited : List (Σ _ : Key, Value)) : Bytes :=
  uint32Bytes (UInt32.ofNat visited.length) ++ visited.flatMap (writeEntry settings)

/-- Entries are set one by one, so that a later one replaces an earlier one of
the same key. -/
def setEntries [DecidableEq Key] (start : AList fun _ : Key => Value)
    (entries : List (Σ _ : Key, Value)) : AList fun _ : Key => Value :=
  entries.foldl (fun extracted entry => extracted.insert entry.1 entry.2) start

/-- `ExtractFrom` of a map. -/
def extractMap [DecidableEq Key] (settings : ByteStreamSettings) :
    Reader (AList fun _ : Key => Value) := do
  let length ← readUInt32LE
  let entries ← times (readEntry settings) length.toNat
  return setEntries ∅ entries

def FitsEntries [LawfulRVType Key] [LawfulRVType Value] (settings : ByteStreamSettings)
    (entries : List (Σ _ : Key, Value)) : Prop :=
  entries.length < 2 ^ 32 ∧
    ∀ entry ∈ entries, Fits settings entry.1 ∧ Fits settings entry.2

variable [DecidableEq Key]

omit [RVType Key] [RVType Value] in
theorem lookup_setEntries (entries : List (Σ _ : Key, Value))
    (start : AList fun _ : Key => Value) (distinct : (entries.map Sigma.fst).Nodup) (key : Key) :
    (setEntries start entries).lookup key = (entries.dlookup key).or (start.lookup key) := by
  induction entries generalizing start with
  | nil => rfl
  | cons entry rest inductionHypothesis =>
      obtain ⟨name, value⟩ := entry
      rw [List.map_cons, List.nodup_cons] at distinct
      rw [setEntries, List.foldl_cons, ← setEntries, inductionHypothesis _ distinct.2]
      rcases eq_or_ne key name with rfl | other
      · have absent : rest.dlookup key = none := List.dlookup_eq_none.mpr distinct.1
        rw [absent, List.dlookup_cons_eq, AList.lookup_insert]
        rfl
      · rw [List.dlookup_cons_ne _ _ other, AList.lookup_insert_ne other]

/-- A map whose entries were written in any order is read back as a map with
the same entries. -/
theorem reads_map [LawfulRVType Key] [LawfulRVType Value] {settings : ByteStreamSettings}
    {entries : AList fun _ : Key => Value} {visited : List (Σ _ : Key, Value)}
    (order : visited.Perm entries.entries) (fits : FitsEntries settings visited) :
    ∃ extracted, Reads (extractMap settings) (writeMap settings visited) extracted ∧
      ∀ key, extracted.lookup key = entries.lookup key := by
  obtain ⟨short, each⟩ := fits
  have one : ∀ entry ∈ visited, Reads (readEntry settings) (writeEntry settings entry) entry := by
    rintro ⟨key, value⟩ member
    obtain ⟨keyFits, valueFits⟩ := each ⟨key, value⟩ member
    have second := (LawfulRVType.reads valueFits).bind_pure fun read =>
      (⟨key, read⟩ : Σ _ : Key, Value)
    exact (LawfulRVType.reads keyFits).bind second
  have all := reads_times one
  rw [← UInt32.toNat_ofNat_of_lt' short] at all
  refine ⟨_, (reads_uint32 _).bind (all.bind_pure (setEntries ∅)), fun key => ?_⟩
  have distinct : (visited.map Sigma.fst).Nodup :=
    (order.map Sigma.fst).nodup_iff.mpr entries.nodupKeys
  rw [lookup_setEntries visited ∅ distinct key, AList.lookup_empty, Option.or_none]
  exact List.perm_dlookup key distinct order

end Maps

end CommunityServers.Nex
