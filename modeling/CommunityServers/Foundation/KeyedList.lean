import Mathlib.Data.List.Induction
import Mathlib.Data.List.Sort

/-!
Contract: lists of records sorted and made unique by a key.

Owns:
- the stable sort by a key: lists with distinct keys sort to one list whatever
  their order, and records of one key keep their order;
- removal of repeated keys by one pass that writes into the list it reads, and
  that this pass keeps exactly the first record of each key.

Does not own: what the records or keys are.
-/

set_option autoImplicit false

namespace CommunityServers.Foundation

universe u v

section Sorting

variable {Record : Type u} {Key : Type v} [LinearOrder Key] (key : Record → Key)

/-- Stable sort by ascending key. -/
def sortByKey (records : List Record) : List Record :=
  records.insertionSort fun left right => key left ≤ key right

theorem sortByKey_perm (records : List Record) : (sortByKey key records).Perm records :=
  List.perm_insertionSort _ records

theorem sortByKey_pairwise (records : List Record) :
    (sortByKey key records).Pairwise fun left right => key left ≤ key right := by
  have : Std.Total fun left right : Record => key left ≤ key right :=
    ⟨fun left right => le_total (key left) (key right)⟩
  have : IsTrans Record fun left right => key left ≤ key right :=
    ⟨fun _ _ _ first second => le_trans first second⟩
  exact List.pairwise_insertionSort _ records

theorem sortByKey_head? {records : List Record} {first : Record}
    (head : (sortByKey key records).head? = some first) :
    first ∈ records ∧ ∀ record ∈ records, key first ≤ key record := by
  have sorted := sortByKey_pairwise key records
  have perm := sortByKey_perm key records
  rcases split : sortByKey key records with _ | ⟨least, rest⟩
  · rw [split] at head
    cases head
  · rw [split] at head sorted perm
    obtain rfl : least = first := Option.some.inj head
    refine ⟨perm.mem_iff.mp List.mem_cons_self, fun record member => ?_⟩
    rcases List.mem_cons.mp (perm.mem_iff.mpr member) with rfl | later
    · exact le_rfl
    · exact (List.pairwise_cons.mp sorted).1 record later

/-- Records with distinct keys have one sorted list. -/
theorem sortByKey_eq_of_perm {first second : List Record} (distinct : (first.map key).Nodup)
    (same : first.Perm second) : sortByKey key first = sortByKey key second := by
  apply List.Perm.eq_of_pairwise _ (sortByKey_pairwise key first)
    (sortByKey_pairwise key second)
  · exact (sortByKey_perm key first).trans (same.trans (sortByKey_perm key second).symm)
  · intro left right inFirst inSecond below above
    have leftIn := (sortByKey_perm key first).mem_iff.mp inFirst
    have rightIn := same.mem_iff.mpr ((sortByKey_perm key second).mem_iff.mp inSecond)
    exact List.inj_on_of_nodup_map distinct leftIn rightIn (le_antisymm below above)

/-- Records of one key keep their order. -/
theorem filter_sortByKey (records : List Record) (name : Key) :
    (sortByKey key records).filter (fun record => decide (key record = name)) =
      records.filter fun record => decide (key record = name) := by
  have level : (records.filter fun record => decide (key record = name)).Pairwise
      fun left right => key left ≤ key right := by
    apply List.pairwise_of_forall_mem_list
    intro left inLeft right inRight
    have leftName := of_decide_eq_true (List.mem_filter.mp inLeft).2
    have rightName := of_decide_eq_true (List.mem_filter.mp inRight).2
    rw [leftName, rightName]
  have : IsTrans Record fun left right => key left ≤ key right :=
    ⟨fun _ _ _ first second => le_trans first second⟩
  have inside := (List.sublist_insertionSort level List.filter_sublist).filter
    fun record => decide (key record = name)
  rw [List.filter_filter] at inside
  simp only [Bool.and_self] at inside
  have size := ((sortByKey_perm key records).filter
    fun record => decide (key record = name)).length_eq
  exact (inside.eq_of_length size.symm).symm

theorem find?_sortByKey (records : List Record) (name : Key) :
    (sortByKey key records).find? (fun record => decide (key record = name)) =
      records.find? fun record => decide (key record = name) := by
  rw [← List.head?_filter, ← List.head?_filter, filter_sortByKey]

end Sorting

section Unique

variable {Record : Type u} {Key : Type v} [DecidableEq Key] (key : Record → Key)

/-- The records whose key did not occur before. -/
def keepFirst (records : List Record) : List Record :=
  records.foldl
    (fun kept record => if key record ∈ kept.map key then kept else kept ++ [record]) []

/-- A pass that compacts the list it reads: what has been written so far, where
the next record goes, and the keys written. -/
structure Compaction (Record : Type u) (Key : Type v) where
  backing : List Record
  write : Nat
  seen : List Key

/-- Reading one position of the list. -/
def compactStep (state : Compaction Record Key) (read : Nat) : Compaction Record Key :=
  match state.backing[read]? with
  | none => state
  | some record =>
      if key record ∈ state.seen then state
      else ⟨state.backing.set state.write record, state.write + 1, key record :: state.seen⟩

def compactRun (records : List Record) (reads : Nat) : Compaction Record Key :=
  (List.range reads).foldl (compactStep key) ⟨records, 0, []⟩

/-- The written part after the pass has read every position. -/
def compact (records : List Record) : List Record :=
  let final := compactRun key records records.length
  final.backing.take final.write

/-- After some reads the written part is what the read part keeps, the unread
part is untouched, and writing has not overtaken reading. -/
structure Compacted (records : List Record) (reads : Nat) (state : Compaction Record Key) :
    Prop where
  size : state.backing.length = records.length
  behind : state.write ≤ reads
  written : state.backing.take state.write = keepFirst key (records.take reads)
  unread : state.backing.drop reads = records.drop reads
  seen : ∀ name, name ∈ state.seen ↔ name ∈ (keepFirst key (records.take reads)).map key

theorem keepFirst_append_singleton (records : List Record) (record : Record) :
    keepFirst key (records ++ [record]) =
      if key record ∈ (keepFirst key records).map key then keepFirst key records
      else keepFirst key records ++ [record] := by
  unfold keepFirst
  rw [List.foldl_append]
  rfl

theorem compacted_step {records : List Record} {reads : Nat} {state : Compaction Record Key}
    (compacted : Compacted key records reads state) (inside : reads < records.length) :
    Compacted key records (reads + 1) (compactStep key state reads) := by
  have inBacking : reads < state.backing.length := by
    rw [compacted.size]
    exact inside
  have behind := compacted.behind
  have current : state.backing[reads]? = some records[reads] := by
    have unread := congrArg (·[0]?) compacted.unread
    simp only [List.getElem?_drop, Nat.add_zero] at unread
    rw [unread, List.getElem?_eq_getElem inside]
  have extended : records.take (reads + 1) = records.take reads ++ [records[reads]] := by
    rw [List.take_append_getElem]
  have rest : state.backing.drop (reads + 1) = records.drop (reads + 1) := by
    rw [← List.drop_drop, ← List.drop_drop, compacted.unread]
  unfold compactStep
  rw [current]
  dsimp only
  by_cases repeated : key records[reads] ∈ state.seen
  · rw [if_pos repeated]
    have known := (compacted.seen _).mp repeated
    have kept : keepFirst key (records.take (reads + 1)) =
        keepFirst key (records.take reads) := by
      rw [extended, keepFirst_append_singleton, if_pos known]
    exact ⟨compacted.size, by omega, by rw [kept, compacted.written], rest,
      by rw [kept]; exact compacted.seen⟩
  · rw [if_neg repeated]
    have fresh := mt (compacted.seen _).mpr repeated
    have kept : keepFirst key (records.take (reads + 1)) =
        keepFirst key (records.take reads) ++ [records[reads]] := by
      rw [extended, keepFirst_append_singleton, if_neg fresh]
    refine ⟨by rw [List.length_set, compacted.size], by dsimp only; omega, ?_, ?_, ?_⟩
    · dsimp only
      rw [kept, List.take_add_one, List.take_set_of_le (Nat.le_refl _), compacted.written,
        List.getElem?_set_self (by omega)]
      rfl
    · dsimp only
      rw [List.drop_set, if_pos (by omega), rest]
    · intro name
      rw [kept, List.map_append, List.mem_append, List.mem_cons, compacted.seen name]
      simp [or_comm]

theorem compacted_run (records : List Record) (reads : Nat) (inside : reads ≤ records.length) :
    Compacted key records reads (compactRun key records reads) := by
  induction reads with
  | zero => exact ⟨rfl, Nat.le_refl 0, by simp [compactRun, keepFirst], rfl,
      by simp [compactRun, keepFirst]⟩
  | succ reads inductionHypothesis =>
      unfold compactRun
      rw [List.range_succ, List.foldl_append]
      exact compacted_step key (inductionHypothesis (by omega)) (by omega)

/-- **Compaction.** The pass that overwrites what it reads keeps the first
record of each key. -/
theorem compact_eq_keepFirst (records : List Record) :
    compact key records = keepFirst key records := by
  have compacted := compacted_run key records records.length (Nat.le_refl _)
  unfold compact
  rw [compacted.written, List.take_length]

theorem mem_map_keepFirst (records : List Record) (name : Key) :
    name ∈ (keepFirst key records).map key ↔ name ∈ records.map key := by
  induction records using List.reverseRecOn with
  | nil => rfl
  | append_singleton records record inductionHypothesis =>
      rw [keepFirst_append_singleton, List.map_append, List.mem_append, ← inductionHypothesis]
      split
      next known =>
        simp only [List.map_cons, List.map_nil, List.mem_singleton]
        refine ⟨Or.inl, ?_⟩
        rintro (old | rfl)
        · exact old
        · exact known
      next => rw [List.map_append, List.mem_append]

theorem keepFirst_sublist (records : List Record) : (keepFirst key records).Sublist records := by
  induction records using List.reverseRecOn with
  | nil => exact List.Sublist.refl _
  | append_singleton records record inductionHypothesis =>
      rw [keepFirst_append_singleton]
      split
      · exact inductionHypothesis.trans (List.sublist_append_left records [record])
      · exact inductionHypothesis.append (List.Sublist.refl [record])

theorem nodup_map_keepFirst (records : List Record) :
    ((keepFirst key records).map key).Nodup := by
  induction records using List.reverseRecOn with
  | nil => exact List.nodup_nil
  | append_singleton records record inductionHypothesis =>
      rw [keepFirst_append_singleton]
      split
      · exact inductionHypothesis
      next fresh =>
        rw [List.map_append, List.nodup_append]
        refine ⟨inductionHypothesis, List.nodup_singleton _, ?_⟩
        intro left inLeft right inRight same
        rw [List.map_singleton, List.mem_singleton] at inRight
        rw [same, inRight] at inLeft
        exact fresh inLeft

/-- The record kept for a key is the first one with it. -/
theorem find?_keepFirst (records : List Record) (name : Key) :
    (keepFirst key records).find? (fun record => decide (key record = name)) =
      records.find? fun record => decide (key record = name) := by
  induction records using List.reverseRecOn with
  | nil => rfl
  | append_singleton records record inductionHypothesis =>
      rw [keepFirst_append_singleton, List.find?_append]
      split
      next known =>
        rw [inductionHypothesis]
        cases found : records.find? fun record => decide (key record = name) with
        | some first => rfl
        | none =>
            have other : key record ≠ name := by
              rintro rfl
              rw [mem_map_keepFirst, List.mem_map] at known
              obtain ⟨earlier, member, same⟩ := known
              have missed := List.find?_eq_none.mp found earlier member
              exact missed (decide_eq_true same)
            simp [other]
      next => rw [List.find?_append, inductionHypothesis]

theorem mem_keepFirst_iff (records : List Record) (record : Record) :
    record ∈ keepFirst key records ↔
      records.find? (fun other => decide (key other = key record)) = some record := by
  rw [← find?_keepFirst]
  constructor
  · intro member
    cases found : (keepFirst key records).find? fun other => decide (key other = key record) with
    | none =>
        have missed := List.find?_eq_none.mp found record member
        exact absurd (decide_eq_true rfl) missed
    | some first =>
        have matched := List.find?_some found
        have same : key first = key record := of_decide_eq_true matched
        rw [List.inj_on_of_nodup_map (nodup_map_keepFirst key records)
          (List.mem_of_find?_eq_some found) member same]
  · exact List.mem_of_find?_eq_some

end Unique

end CommunityServers.Foundation
