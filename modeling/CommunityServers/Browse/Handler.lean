import CommunityServers.Foundation.Bytes
import CommunityServers.Foundation.KeyedList

/-!
Contract: the room list of `browseMatchmakeSessionStable`.

Owns:
- the handler from the search criteria to the returned sessions: blanked
  attributes, the query, the sort and in-place de-duplication, the scrubbing;
- the database as the query shows it: any selection of at most the requested
  number of matching rows, in any order;
- the exact condition under which two browses of an unchanged database agree.

`Copy` and the holders of the returned list are another module's: that a holder
has every field of the session put in it is a law of `SessionCopy`.

Does not own: matching of rows, the encoding of the response, or logging.
-/

set_option autoImplicit false

namespace CommunityServers.Browse

open CommunityServers.Foundation

universe u

/-- A session; `details` is every field the handler hands on untouched. -/
structure MatchmakeSession (Details : Type u) where
  gatheringID : UInt32
  sessionKey : Bytes
  userPassword : Bytes
  details : Details

structure SearchCriteria (Filter : Type u) where
  attribs : List Bytes
  filter : Filter

structure ResultRange where
  offset : UInt32
  length : UInt32

variable {Details Filter Failure : Type u}

/-- The criteria with every listed attribute that exists set to the empty
string. -/
def blankAttribs (wildcardIdx : List Int) (criteria : SearchCriteria Filter) :
    SearchCriteria Filter :=
  { criteria with
    attribs := wildcardIdx.foldl
      (fun attribs (index : Int) =>
        if 0 ≤ index ∧ index < (attribs.length : Int) then attribs.set index.toNat []
        else attribs)
      criteria.attribs }

/-- `FindMatchmakeSessionBySearchCriteria` as one call sees it. -/
abbrev Query (Details Filter Failure : Type u) :=
  SearchCriteria Filter → ResultRange → Except Failure (List (MatchmakeSession Details))

def gatheringKey (session : MatchmakeSession Details) : Nat := session.gatheringID.toNat

def scrub (session : MatchmakeSession Details) : MatchmakeSession Details :=
  { session with sessionKey := [], userPassword := [] }

/-- What a holder has of the session that is copied into it. -/
structure SessionCopy (Details : Type u) where
  copy : MatchmakeSession Details → MatchmakeSession Details
  copy_eq : ∀ session, copy session = session

/-- What the handler makes of the rows it got. -/
def canonicalRooms (holder : SessionCopy Details) (sessions : List (MatchmakeSession Details)) :
    List (MatchmakeSession Details) :=
  (compact gatheringKey (sortByKey gatheringKey sessions)).map fun session =>
    holder.copy (scrub session)

theorem canonicalRooms_eq_map (holder : SessionCopy Details)
    (sessions : List (MatchmakeSession Details)) :
    canonicalRooms holder sessions =
      (compact gatheringKey (sortByKey gatheringKey sessions)).map scrub :=
  List.map_congr_left fun session _ => holder.copy_eq (scrub session)

/-- The errors of a browse: the request could not be read, or the query failed. -/
inductive BrowseError (Failure : Type u) where
  | invalidArgument (text : String)
  | query (failure : Failure)

/-- `err` is the text of the error that reading the request ended with, if any. -/
def browseMatchmakeSessionStable (holder : SessionCopy Details) (wildcardIdx : List Int)
    (err : Option String) (query : Query Details Filter Failure)
    (criteria : SearchCriteria Filter) (range : ResultRange) :
    Except (BrowseError Failure) (List (MatchmakeSession Details)) :=
  match err with
  | some text => .error (.invalidArgument text)
  | none =>
      match query (blankAttribs wildcardIdx criteria) range with
      | .error failure => .error (.query failure)
      | .ok sessions => .ok (canonicalRooms holder sessions)

/-! ### The database -/

/-- The rows matching each criteria, with distinct gathering IDs. -/
structure Database (Details Filter : Type u) where
  matching : SearchCriteria Filter → List (MatchmakeSession Details)
  distinct : ∀ criteria, ((matching criteria).map gatheringKey).Nodup

/-- Some of the rows, as many as the limit allows, in some order. -/
structure Selection (rows : List (MatchmakeSession Details)) (limit : Nat)
    (result : List (MatchmakeSession Details)) : Prop where
  chosen : result.Subperm rows
  size : result.length = min limit rows.length

/-- A query over an unchanged database: every call returns a selection. -/
def Answers (database : Database Details Filter)
    (query : Query Details Filter Failure) : Prop :=
  ∀ criteria range, ∃ result, query criteria range = .ok result ∧
    Selection (database.matching criteria) range.length.toNat result

/-- Two browses with the same criteria and range return the same list whatever
the database selects for each. -/
def BrowsesAgree (Failure : Type u) (holder : SessionCopy Details)
    (database : Database Details Filter) (wildcardIdx : List Int)
    (criteria : SearchCriteria Filter) (range : ResultRange) : Prop :=
  ∀ first second : Query Details Filter Failure, Answers database first →
    Answers database second →
    browseMatchmakeSessionStable holder wildcardIdx none first criteria range =
      browseMatchmakeSessionStable holder wildcardIdx none second criteria range

/-! ### The handler's canonical form -/

/-- The rooms returned are those of the rows. -/
theorem mem_map_canonicalRooms (holder : SessionCopy Details)
    (sessions : List (MatchmakeSession Details)) (id : Nat) :
    id ∈ (canonicalRooms holder sessions).map gatheringKey ↔ id ∈ sessions.map gatheringKey := by
  rw [canonicalRooms_eq_map, compact_eq_keepFirst, List.map_map, show gatheringKey ∘ scrub =
    (gatheringKey : MatchmakeSession Details → Nat) from rfl, mem_map_keepFirst]
  exact ((sortByKey_perm gatheringKey sessions).map gatheringKey).mem_iff

/-- Rows with distinct IDs give one list in whatever order they come. -/
theorem canonicalRooms_eq_of_perm (holder : SessionCopy Details)
    {first second : List (MatchmakeSession Details)}
    (distinct : (first.map gatheringKey).Nodup) (same : first.Perm second) :
    canonicalRooms holder first = canonicalRooms holder second := by
  unfold canonicalRooms
  rw [sortByKey_eq_of_perm gatheringKey distinct same]

/-! ### Two browses -/

/-- A selection that is not cut off is a permutation of the rows. -/
theorem Selection.perm {rows result : List (MatchmakeSession Details)} {limit : Nat}
    (selection : Selection rows limit result) (fits : rows.length ≤ limit) :
    result.Perm rows := by
  apply selection.chosen.perm_of_length_le
  rw [selection.size]
  omega

theorem Selection.distinct {rows result : List (MatchmakeSession Details)} {limit : Nat}
    (selection : Selection rows limit result) (distinct : (rows.map gatheringKey).Nodup) :
    (result.map gatheringKey).Nodup := by
  obtain ⟨ordered, same, inside⟩ := selection.chosen
  exact (same.map gatheringKey).nodup_iff.mp (distinct.sublist (inside.map gatheringKey))

theorem selection_take {rows ordered : List (MatchmakeSession Details)}
    (same : ordered.Perm rows) (limit : Nat) : Selection rows limit (ordered.take limit) where
  chosen := (List.take_sublist limit ordered).subperm.trans same.subperm
  size := by rw [List.length_take, same.length_eq]

/-- The database that always returns the rows in one order, cut at the limit. -/
def orderedQuery (order : List (MatchmakeSession Details) → List (MatchmakeSession Details))
    (database : Database Details Filter) : Query Details Filter Failure :=
  fun criteria range => .ok ((order (database.matching criteria)).take range.length.toNat)

theorem answers_orderedQuery
    {order : List (MatchmakeSession Details) → List (MatchmakeSession Details)}
    (permutes : ∀ rows, (order rows).Perm rows) (database : Database Details Filter) :
    Answers database (orderedQuery order database : Query Details Filter Failure) := by
  intro criteria range
  exact ⟨_, rfl, selection_take (permutes _) _⟩

/-- The first row is cut off when the rows come backwards and do not all fit. -/
theorem head_notMem_take_reverse {row : MatchmakeSession Details}
    {rest : List (MatchmakeSession Details)} {limit : Nat}
    (distinct : ((row :: rest).map gatheringKey).Nodup) (cutOff : limit ≤ rest.length) :
    gatheringKey row ∉ (((row :: rest).reverse).take limit).map gatheringKey := by
  rw [List.map_cons, List.nodup_cons] at distinct
  intro member
  apply distinct.1
  rw [List.reverse_cons, List.take_append_of_le_length (by rwa [List.length_reverse])]
    at member
  obtain ⟨other, inTaken, same⟩ := List.mem_map.mp member
  rw [← same]
  exact List.mem_map_of_mem (List.mem_reverse.mp (List.mem_of_mem_take inTaken))

theorem agree_of_fits {holder : SessionCopy Details} {database : Database Details Filter}
    {wildcardIdx : List Int} {criteria : SearchCriteria Filter} {range : ResultRange}
    (fits : range.length.toNat = 0 ∨
      (database.matching (blankAttribs wildcardIdx criteria)).length ≤ range.length.toNat) :
    BrowsesAgree Failure holder database wildcardIdx criteria range := by
  intro first second firstAnswers secondAnswers
  obtain ⟨rows, firstRows, selected⟩ := firstAnswers (blankAttribs wildcardIdx criteria) range
  obtain ⟨others, secondRows, otherSelected⟩ :=
    secondAnswers (blankAttribs wildcardIdx criteria) range
  unfold browseMatchmakeSessionStable
  rw [firstRows, secondRows]
  dsimp only
  have same : rows.Perm others := by
    rcases fits with none | all
    · have empty := selected.size
      have otherEmpty := otherSelected.size
      rw [none, Nat.zero_min, List.length_eq_zero_iff] at empty otherEmpty
      rw [empty, otherEmpty]
    · exact (selected.perm all).trans (otherSelected.perm all).symm
  rw [canonicalRooms_eq_of_perm holder (selected.distinct (database.distinct _)) same]

/-- **Consecutive browses.** Two browses of an unchanged database return the
same rooms in the same order, for every selection the database may make,
exactly when nothing is requested or all matching rooms fit the request. -/
theorem browsesAgree_iff (holder : SessionCopy Details) (database : Database Details Filter)
    (wildcardIdx : List Int) (criteria : SearchCriteria Filter) (range : ResultRange) :
    BrowsesAgree Failure holder database wildcardIdx criteria range ↔
      range.length.toNat = 0 ∨
        (database.matching (blankAttribs wildcardIdx criteria)).length ≤
          range.length.toNat := by
  refine ⟨?_, agree_of_fits⟩
  intro agree
  by_contra cutOff
  rw [not_or, Nat.not_le] at cutOff
  obtain ⟨positive, fewer⟩ := cutOff
  have same := agree _ _ (answers_orderedQuery (fun rows => List.Perm.refl rows) database)
    (answers_orderedQuery (fun rows => List.reverse_perm rows) database)
  simp only [browseMatchmakeSessionStable, orderedQuery, Except.ok.injEq] at same
  have distinct := database.distinct (blankAttribs wildcardIdx criteria)
  rcases rows : database.matching (blankAttribs wildcardIdx criteria) with _ | ⟨row, rest⟩
  · rw [rows] at fewer
    exact absurd fewer (Nat.not_lt_zero _)
  · rw [rows] at same fewer distinct
    have listed : gatheringKey row ∈
        ((row :: rest).take range.length.toNat).map gatheringKey := by
      obtain ⟨count, counted⟩ := Nat.exists_eq_succ_of_ne_zero positive
      rw [counted]
      simp
    have missing := head_notMem_take_reverse distinct (Nat.lt_succ_iff.mp fewer)
    rw [← mem_map_canonicalRooms holder] at listed missing
    rw [same] at listed
    exact missing listed

/-- Two rooms that match everything. -/
def twoRooms : Database Unit Unit where
  matching := fun _ => [⟨7, [1], [2], ()⟩, ⟨9, [3], [4], ()⟩]
  distinct := by
    intro criteria
    decide

/-- A request for one of two rooms may show either. -/
theorem twoRooms_not_browsesAgree :
    ¬ BrowsesAgree Unit ⟨id, fun _ => rfl⟩ twoRooms [4] ⟨[], ()⟩ ⟨0, 1⟩ := by
  intro agree
  have same := agree (orderedQuery id twoRooms) (orderedQuery List.reverse twoRooms)
    (answers_orderedQuery (fun rows => List.Perm.refl rows) twoRooms)
    (answers_orderedQuery (fun rows => List.reverse_perm rows) twoRooms)
  have rooms := congrArg (fun reply => (reply.toOption.getD []).map gatheringKey) same
  exact absurd rooms (by decide)

end CommunityServers.Browse
