import CommunityServers.Browse.Handler

/-!
Contract: the form of the room list that a browse returns.

Owns: what the returned list is in terms of the rows of the query, for every
list of rows, and that it depends on the rows only through the first one of
each gathering ID.

Does not own: which rows the query returns.
-/

set_option autoImplicit false

namespace CommunityServers.Browse

open CommunityServers.Foundation

universe u

variable {Details Filter Failure : Type u}

/-- The first row of a gathering ID, in the order of the query. -/
def firstRow (sessions : List (MatchmakeSession Details)) (id : UInt32) :
    Option (MatchmakeSession Details) :=
  sessions.find? fun session => session.gatheringID == id

/-- The returned rooms, as a function of the rows. -/
structure Canonical (sessions rooms : List (MatchmakeSession Details)) : Prop where
  ascending : rooms.Pairwise fun left right => left.gatheringID < right.gatheringID
  sameIDs : ∀ id, id ∈ rooms.map MatchmakeSession.gatheringID ↔
    id ∈ sessions.map MatchmakeSession.gatheringID
  first : ∀ room ∈ rooms, ∃ session,
    firstRow sessions room.gatheringID = some session ∧ room.details = session.details
  secretFree : ∀ room ∈ rooms, room.sessionKey = [] ∧ room.userPassword = []
  notLonger : rooms.length ≤ sessions.length

/-! ### The kept rows -/

/-- The rows the handler keeps, before their secrets are removed. -/
def keptRows (sessions : List (MatchmakeSession Details)) : List (MatchmakeSession Details) :=
  keepFirst gatheringKey (sortByKey gatheringKey sessions)

theorem canonicalRooms_eq (holder : SessionCopy Details)
    (sessions : List (MatchmakeSession Details)) :
    canonicalRooms holder sessions = (keptRows sessions).map scrub := by
  rw [canonicalRooms_eq_map, compact_eq_keepFirst, keptRows]

theorem firstRow_some {sessions : List (MatchmakeSession Details)} {id : UInt32}
    {session : MatchmakeSession Details} (found : firstRow sessions id = some session) :
    session ∈ sessions ∧ session.gatheringID = id := by
  have matched := List.find?_some found
  exact ⟨List.mem_of_find?_eq_some found, eq_of_beq matched⟩

theorem firstRow_none {sessions : List (MatchmakeSession Details)} {id : UInt32}
    (missing : firstRow sessions id = none) :
    ∀ session ∈ sessions, session.gatheringID ≠ id := by
  intro session member same
  exact List.find?_eq_none.mp missing session member (beq_iff_eq.mpr same)

theorem firstRow_eq (sessions : List (MatchmakeSession Details)) (id : UInt32) :
    firstRow sessions id =
      sessions.find? fun session => decide (gatheringKey session = id.toNat) := by
  unfold firstRow
  congr 1
  funext session
  rw [Bool.eq_iff_iff, beq_iff_eq, decide_eq_true_iff]
  exact UInt32.toNat_inj.symm

theorem mem_keptRows_iff (sessions : List (MatchmakeSession Details))
    (session : MatchmakeSession Details) :
    session ∈ keptRows sessions ↔ firstRow sessions session.gatheringID = some session := by
  unfold keptRows
  rw [mem_keepFirst_iff, find?_sortByKey, firstRow_eq]
  rfl

theorem keptRows_ascending (sessions : List (MatchmakeSession Details)) :
    (keptRows sessions).Pairwise fun left right => left.gatheringID < right.gatheringID := by
  have sorted := (sortByKey_pairwise gatheringKey sessions).sublist
    (keepFirst_sublist gatheringKey (sortByKey gatheringKey sessions))
  have distinct := List.pairwise_map.mp
    (nodup_map_keepFirst gatheringKey (sortByKey gatheringKey sessions))
  apply (sorted.and distinct).imp
  intro left right ordered
  exact UInt32.lt_iff_toNat_lt.mpr (lt_of_le_of_ne ordered.1 ordered.2)

/-- Two lists of rows with the same first rows are kept alike. -/
theorem keptRows_eq {first second : List (MatchmakeSession Details)}
    (same : ∀ id, firstRow first id = firstRow second id) : keptRows first = keptRows second := by
  have distinct : ∀ rows : List (MatchmakeSession Details), (keptRows rows).Nodup :=
    fun rows => (nodup_map_keepFirst gatheringKey _).of_map
  have perm : (keptRows first).Perm (keptRows second) := by
    rw [List.perm_ext_iff_of_nodup (distinct first) (distinct second)]
    intro session
    rw [mem_keptRows_iff, mem_keptRows_iff, same]
  apply perm.eq_of_pairwise _ (keptRows_ascending first) (keptRows_ascending second)
  intro left right _ _ below above
  exact absurd (UInt32.lt_trans below above) (UInt32.lt_irrefl _)

theorem canonical_canonicalRooms (holder : SessionCopy Details)
    (sessions : List (MatchmakeSession Details)) :
    Canonical sessions (canonicalRooms holder sessions) := by
  rw [canonicalRooms_eq]
  refine ⟨?_, ?_, ?_, ?_, ?_⟩
  · exact List.pairwise_map.mpr (keptRows_ascending sessions)
  · intro id
    rw [List.map_map]
    constructor
    · intro member
      obtain ⟨session, kept, rfl⟩ := List.mem_map.mp member
      have found := (mem_keptRows_iff sessions session).mp kept
      exact List.mem_map.mpr ⟨session, (firstRow_some found).1, rfl⟩
    · intro member
      obtain ⟨session, listed, rfl⟩ := List.mem_map.mp member
      cases found : firstRow sessions session.gatheringID with
      | none => exact absurd rfl (firstRow_none found session listed)
      | some kept =>
          have sameID := (firstRow_some found).2
          have isKept : kept ∈ keptRows sessions := by
            rw [mem_keptRows_iff, sameID]
            exact found
          exact List.mem_map.mpr ⟨kept, isKept, sameID⟩
  · intro room member
    obtain ⟨session, kept, rfl⟩ := List.mem_map.mp member
    exact ⟨session, (mem_keptRows_iff sessions session).mp kept, rfl⟩
  · intro room member
    obtain ⟨session, kept, rfl⟩ := List.mem_map.mp member
    exact ⟨rfl, rfl⟩
  · rw [List.length_map]
    calc (keptRows sessions).length ≤ (sortByKey gatheringKey sessions).length :=
          (keepFirst_sublist gatheringKey _).length_le
      _ = sessions.length := (sortByKey_perm gatheringKey sessions).length_eq

/-! ### Rows in another order -/

/-- Rows with one ID are one row. -/
def AgreeOnIDs (first second : List (MatchmakeSession Details)) : Prop :=
  ∀ left ∈ first, ∀ right ∈ second, left.gatheringID = right.gatheringID → left = right

/-- Rows with one ID come in one order. -/
def AgreeInOrder (first second : List (MatchmakeSession Details)) : Prop :=
  ∀ id, first.filter (fun session => session.gatheringID == id) =
    second.filter fun session => session.gatheringID == id

theorem firstRow_eq_of_agreeOnIDs {first second : List (MatchmakeSession Details)}
    (same : first.Perm second) (agree : AgreeOnIDs first second) (id : UInt32) :
    firstRow first id = firstRow second id := by
  cases inFirst : firstRow first id with
  | none =>
      cases inSecond : firstRow second id with
      | none => rfl
      | some right =>
          obtain ⟨rightIn, rightID⟩ := firstRow_some inSecond
          exact absurd rightID (firstRow_none inFirst right (same.mem_iff.mpr rightIn))
  | some left =>
      obtain ⟨leftIn, leftID⟩ := firstRow_some inFirst
      cases inSecond : firstRow second id with
      | none => exact absurd leftID (firstRow_none inSecond left (same.mem_iff.mp leftIn))
      | some right =>
          obtain ⟨rightIn, rightID⟩ := firstRow_some inSecond
          rw [agree left leftIn right rightIn (leftID.trans rightID.symm)]

theorem firstRow_eq_of_agreeInOrder {first second : List (MatchmakeSession Details)}
    (agree : AgreeInOrder first second) (id : UInt32) :
    firstRow first id = firstRow second id := by
  unfold firstRow
  rw [← List.head?_filter, ← List.head?_filter, agree id]

/-- **Canonical browse.** Whatever rows the query returns, the handler answers
with their canonical list, and rows in another order that agree where IDs are
equal give the same answer. -/
theorem browse_canonical (holder : SessionCopy Details) (wildcardIdx : List Int)
    (query : Query Details Filter Failure) (criteria : SearchCriteria Filter) (range : ResultRange)
    (sessions : List (MatchmakeSession Details))
    (answered : query (blankAttribs wildcardIdx criteria) range = .ok sessions) :
    (∃ rooms,
      browseMatchmakeSessionStable holder wildcardIdx none query criteria range = .ok rooms ∧
      Canonical sessions rooms ∧
      (sessions.length ≤ range.length.toNat → rooms.length ≤ range.length.toNat)) ∧
      ∀ (other : Query Details Filter Failure) (others : List (MatchmakeSession Details)),
        other (blankAttribs wildcardIdx criteria) range = .ok others →
        sessions.Perm others → AgreeOnIDs sessions others ∨ AgreeInOrder sessions others →
        browseMatchmakeSessionStable holder wildcardIdx none other criteria range =
          browseMatchmakeSessionStable holder wildcardIdx none query criteria range := by
  have reply : ∀ (asked : Query Details Filter Failure) (rows : List (MatchmakeSession Details)),
      asked (blankAttribs wildcardIdx criteria) range = .ok rows →
      browseMatchmakeSessionStable holder wildcardIdx none asked criteria range =
        .ok (canonicalRooms holder rows) := by
    intro asked rows replied
    unfold browseMatchmakeSessionStable
    simp only [replied]
  have canonical := canonical_canonicalRooms holder sessions
  refine ⟨⟨canonicalRooms holder sessions, reply query sessions answered, canonical, ?_⟩, ?_⟩
  · exact fun limited => canonical.notLonger.trans limited
  · intro other others replied same agree
    rw [reply other others replied, reply query sessions answered, canonicalRooms_eq,
      canonicalRooms_eq]
    have kept : keptRows sessions = keptRows others := by
      apply keptRows_eq
      rcases agree with onIDs | inOrder
      · exact firstRow_eq_of_agreeOnIDs same onIDs
      · exact firstRow_eq_of_agreeInOrder inOrder
    rw [kept]

/-- Three rows of two rooms, one of them twice. -/
def repeatedRows : List (MatchmakeSession Nat) :=
  [⟨9, [1], [2], 90⟩, ⟨7, [3], [4], 70⟩, ⟨9, [5], [6], 91⟩]

theorem repeatedRows_canonical :
    ∃ rooms, browseMatchmakeSessionStable ⟨id, fun _ => rfl⟩ [4] none
        (fun _ _ => .ok repeatedRows) (⟨[], 0⟩ : SearchCriteria Nat) ⟨0, 10⟩ =
          (.ok rooms : Except (BrowseError Nat) _) ∧
      Canonical repeatedRows rooms ∧ (3 ≤ 10 → rooms.length ≤ 10) :=
  (browse_canonical ⟨id, fun _ => rfl⟩ [4] (fun _ _ => .ok repeatedRows) ⟨[], 0⟩ ⟨0, 10⟩
    repeatedRows rfl).1

end CommunityServers.Browse
