import Mathlib.Data.Set.Card
import CommunityServers.Foundation.Bytes
import CommunityServers.Foundation.Counting

/-!
Contract: the live counts of the dashboard.

Owns:
- `currentStats` over the registered endpoints, their connections and the
  owners of the registered gatherings;
- the counts a reader expects, stated over sets of players;
- exactly when the totals are these counts.

Does not own: how the host's metrics and the map's points come about; their
values are arguments.
-/

set_option autoImplicit false

namespace CommunityServers.Dashboard

open CommunityServers.Foundation

/-! ### Endpoints and tables -/

structure Connection where
  pid : UInt64
deriving DecidableEq

/-- A secure endpoint; its connection map may be missing. The connections are
in the order in which the map is ranged over. -/
structure PRUDPEndPoint where
  connections : Option (List Connection)

structure NamedEndpoint where
  name : Bytes
  gameID : Bytes
  ep : Option PRUDPEndPoint

/-- The two queries' results: the rows of the owners, each unless it cannot be
scanned, and the number of accounts. A failed query has none. -/
structure Tables where
  owners : Option (List (Option UInt64))
  accounts : Option Int

/-- The distinct PIDs on one endpoint, without the two internal accounts. -/
def endpointOnlinePIDs (ep : Option PRUDPEndPoint) : Finset UInt64 :=
  match ep with
  | none => ∅
  | some ep =>
      match ep.connections with
      | none => ∅
      | some connections =>
          connections.foldl (fun seen c => if 2 < c.pid then insert c.pid seen else seen) ∅

def registeredGatheringOwners (postgres : Option Tables) : List UInt64 :=
  match postgres with
  | none => []
  | some tables =>
      match tables.owners with
      | none => []
      | some rows => rows.filterMap id

def countQuery (postgres : Option Tables) (q : Tables → Option Int) : Int :=
  match postgres with
  | none => 0
  | some tables => (q tables).getD 0

/-! ### `currentStats` -/

structure GameStat where
  name : Bytes
  gameID : Bytes
  online : Nat
  rooms : Nat
deriving DecidableEq

structure SysMetrics (Measure : Type) where
  cpu : Measure
  memUsedMB : Int
  memTotalMB : Int
  netKBps : Measure

structure StatsResponse (Measure Point : Type) where
  online : Nat
  rooms : Nat
  registered : Int
  games : List GameStat
  cpu : Measure
  memUsed : Int
  memTotal : Int
  netKBps : Measure
  points : List Point

/-- What the loop over the endpoints accumulates. -/
structure Totals where
  games : List GameStat
  online : Finset UInt64
  rooms : Nat

/-- The loop over the owners, for one endpoint's players. -/
def countRooms (pids : Finset UInt64) (owners : List UInt64) : Nat :=
  owners.foldl (fun rooms o => if o ∈ pids then rooms + 1 else rooms) 0

def addGame (owners : List UInt64) (totals : Totals) (ne : NamedEndpoint) : Totals :=
  let pids := endpointOnlinePIDs ne.ep
  let rooms := countRooms pids owners
  { games := totals.games ++ [⟨ne.name, ne.gameID, pids.card, rooms⟩]
    online := totals.online ∪ pids
    rooms := totals.rooms + rooms }

def currentStats {Measure Point : Type} (m : SysMetrics Measure) (points : List Point)
    (postgres : Option Tables) (eps : List NamedEndpoint) : StatsResponse Measure Point :=
  let totals := eps.foldl (addGame (registeredGatheringOwners postgres)) ⟨[], ∅, 0⟩
  { online := totals.online.card
    rooms := totals.rooms
    registered := countQuery postgres Tables.accounts
    games := totals.games
    cpu := m.cpu
    memUsed := m.memUsedMB
    memTotal := m.memTotalMB
    netKBps := m.netKBps
    points := points }

/-! ### The expected counts -/

/-- A console with this PID is connected to the endpoint. -/
def IsOnline (ne : NamedEndpoint) (pid : UInt64) : Prop :=
  2 < pid ∧ ∃ ep ∈ ne.ep, ∃ connections ∈ ep.connections, ∃ c ∈ connections, c.pid = pid

/-- The players on any of the endpoints. -/
def players (eps : List NamedEndpoint) : Set UInt64 := {pid | ∃ ne ∈ eps, IsOnline ne pid}

theorem foldl_insert_eq (connections : List Connection) (seen : Finset UInt64) :
    connections.foldl (fun seen c => if 2 < c.pid then insert c.pid seen else seen) seen =
      seen ∪ ((connections.map Connection.pid).filter fun pid => 2 < pid).toFinset := by
  induction connections generalizing seen with
  | nil => simp
  | cons c rest inductionHypothesis =>
      rw [List.foldl_cons, inductionHypothesis, List.map_cons]
      split
      next real => simp [real]
      next internal => simp [internal]

theorem mem_endpointOnlinePIDs (ne : NamedEndpoint) (pid : UInt64) :
    pid ∈ endpointOnlinePIDs ne.ep ↔ IsOnline ne pid := by
  unfold endpointOnlinePIDs IsOnline
  cases ne.ep with
  | none => simp
  | some ep =>
      obtain ⟨connections⟩ := ep
      cases connections with
      | none => simp
      | some connections => simp [foldl_insert_eq, and_comm]

instance (ne : NamedEndpoint) (pid : UInt64) : Decidable (IsOnline ne pid) :=
  decidable_of_iff _ (mem_endpointOnlinePIDs ne pid)

instance (eps : List NamedEndpoint) (pid : UInt64) : Decidable (pid ∈ players eps) :=
  inferInstanceAs (Decidable (∃ ne ∈ eps, IsOnline ne pid))

/-- The number of gatherings whose owner is one of the players. -/
def hosted (eps : List NamedEndpoint) (owners : List UInt64) : Nat :=
  owners.countP fun o => o ∈ players eps

/-- Every player and every room is counted once, in total and on each game. -/
structure CountsOnce {Measure Point : Type} (eps : List NamedEndpoint) (owners : List UInt64)
    (response : StatsResponse Measure Point) : Prop where
  online : response.online = (players eps).ncard
  rooms : response.rooms = hosted eps owners
  rooms_le : response.rooms ≤ owners.length
  games : response.games = eps.map fun ne =>
    ⟨ne.name, ne.gameID, (players [ne]).ncard, hosted [ne] owners⟩

/-- The player is on one endpoint at most. -/
def OnOneAtMost (eps : List NamedEndpoint) (pid : UInt64) : Prop :=
  eps.Pairwise fun left right => ¬ (IsOnline left pid ∧ IsOnline right pid)

/-! ### The loops -/

theorem countRooms_eq (pids : Finset UInt64) (owners : List UInt64) :
    countRooms pids owners = owners.countP fun o => o ∈ pids := by
  have counted : ∀ rooms, owners.foldl (fun rooms o => if o ∈ pids then rooms + 1 else rooms)
      rooms = rooms + owners.countP fun o => o ∈ pids := by
    induction owners with
    | nil => exact fun rooms => rfl
    | cons o rest inductionHypothesis =>
        intro rooms
        rw [List.foldl_cons, inductionHypothesis, List.countP_cons]
        simp only [decide_eq_true_eq]
        split <;> omega
  exact (counted 0).trans (Nat.zero_add _)

theorem foldl_addGame_games (owners : List UInt64) (eps : List NamedEndpoint)
    (totals : Totals) :
    (eps.foldl (addGame owners) totals).games = totals.games ++ eps.map fun ne =>
      ⟨ne.name, ne.gameID, (endpointOnlinePIDs ne.ep).card,
        countRooms (endpointOnlinePIDs ne.ep) owners⟩ := by
  induction eps generalizing totals with
  | nil => exact (List.append_nil _).symm
  | cons ne rest inductionHypothesis =>
      rw [List.foldl_cons, inductionHypothesis, List.map_cons]
      exact List.append_assoc _ _ _

theorem foldl_addGame_rooms (owners : List UInt64) (eps : List NamedEndpoint)
    (totals : Totals) :
    (eps.foldl (addGame owners) totals).rooms = totals.rooms +
      (eps.map fun ne => countRooms (endpointOnlinePIDs ne.ep) owners).sum := by
  induction eps generalizing totals with
  | nil => rfl
  | cons ne rest inductionHypothesis =>
      rw [List.foldl_cons, inductionHypothesis, List.map_cons, List.sum_cons]
      exact Nat.add_assoc _ _ _

theorem mem_foldl_addGame_online (owners : List UInt64) (eps : List NamedEndpoint)
    (totals : Totals) (pid : UInt64) :
    pid ∈ (eps.foldl (addGame owners) totals).online ↔ pid ∈ totals.online ∨ pid ∈ players eps := by
  induction eps generalizing totals with
  | nil => simp [players]
  | cons ne rest inductionHypothesis =>
      have added : pid ∈ (addGame owners totals ne).online ↔
          pid ∈ totals.online ∨ IsOnline ne pid := by
        rw [← mem_endpointOnlinePIDs]
        exact Finset.mem_union
      have split : pid ∈ players (ne :: rest) ↔ IsOnline ne pid ∨ pid ∈ players rest :=
        List.exists_mem_cons_iff (fun other => IsOnline other pid) ne rest
      rw [List.foldl_cons, inductionHypothesis, added, split, or_assoc]

/-! ### The totals -/

theorem players_singleton (ne : NamedEndpoint) :
    players [ne] = (endpointOnlinePIDs ne.ep : Set UInt64) := by
  ext pid
  rw [Finset.mem_coe, mem_endpointOnlinePIDs]
  simp [players]

theorem hosted_singleton (ne : NamedEndpoint) (owners : List UInt64) :
    hosted [ne] owners = countRooms (endpointOnlinePIDs ne.ep) owners := by
  rw [countRooms_eq]
  unfold hosted
  congr 1
  ext o
  rw [decide_eq_decide, players_singleton, Finset.mem_coe]

theorem hosted_eq_countP_any (eps : List NamedEndpoint) (owners : List UInt64) :
    hosted eps owners = owners.countP fun o => eps.any fun ne => o ∈ endpointOnlinePIDs ne.ep := by
  unfold hosted
  congr 1
  ext o
  rw [Bool.eq_iff_iff, decide_eq_true_eq, List.any_eq_true]
  simp only [decide_eq_true_eq, mem_endpointOnlinePIDs]
  rfl

/-- Rooms are counted once in total exactly when no owner is on two
endpoints. -/
theorem sum_countRooms_eq_hosted_iff (eps : List NamedEndpoint) (owners : List UInt64) :
    (eps.map fun ne => countRooms (endpointOnlinePIDs ne.ep) owners).sum = hosted eps owners ↔
      ∀ owner ∈ owners, OnOneAtMost eps owner := by
  simp only [countRooms_eq]
  rw [hosted_eq_countP_any,
    sum_eq_countP_any_iff fun (ne : NamedEndpoint) o => decide (o ∈ endpointOnlinePIDs ne.ep)]
  apply forall₂_congr
  intro owner _
  rw [countP_le_one_iff]
  simp only [decide_eq_true_eq, mem_endpointOnlinePIDs]
  rfl

section Response

variable {Measure Point : Type} (m : SysMetrics Measure) (points : List Point)
  (postgres : Option Tables) (eps : List NamedEndpoint)

theorem currentStats_online :
    (currentStats m points postgres eps).online = (players eps).ncard := by
  have same : players eps =
      ((eps.foldl (addGame (registeredGatheringOwners postgres)) ⟨[], ∅, 0⟩).online :
        Set UInt64) := by
    ext pid
    rw [Finset.mem_coe, mem_foldl_addGame_online]
    simp
  rw [same, Set.ncard_coe_finset]
  rfl

theorem currentStats_rooms :
    (currentStats m points postgres eps).rooms =
      (eps.map fun ne => countRooms (endpointOnlinePIDs ne.ep)
        (registeredGatheringOwners postgres)).sum :=
  (foldl_addGame_rooms _ eps ⟨[], ∅, 0⟩).trans (Nat.zero_add _)

theorem currentStats_games :
    (currentStats m points postgres eps).games = eps.map fun ne =>
      ⟨ne.name, ne.gameID, (players [ne]).ncard,
        hosted [ne] (registeredGatheringOwners postgres)⟩ := by
  simp only [hosted_singleton, players_singleton, Set.ncard_coe_finset]
  exact foldl_addGame_games _ eps ⟨[], ∅, 0⟩

/-- **Live counts.** The dashboard counts every player and every room once if
and only if no owner of a registered gathering is on two endpoints at once. -/
theorem currentStats_countsOnce_iff :
    CountsOnce eps (registeredGatheringOwners postgres) (currentStats m points postgres eps) ↔
      ∀ owner ∈ registeredGatheringOwners postgres, OnOneAtMost eps owner := by
  rw [← sum_countRooms_eq_hosted_iff, ← currentStats_rooms m points]
  constructor
  · exact fun counted => counted.rooms
  · intro once
    refine ⟨currentStats_online m points postgres eps, once, ?_,
      currentStats_games m points postgres eps⟩
    rw [once]
    exact List.countP_le_length

end Response

/-- The console 1799999999 has a connection to each of two games and owns the
only registered gathering. -/
def staleConnection : List NamedEndpoint :=
  [⟨ascii "A", ascii "1", some ⟨some [⟨1799999999⟩, ⟨2⟩]⟩⟩,
    ⟨ascii "B", ascii "2", some ⟨some [⟨1799999999⟩]⟩⟩]

def oneGathering : Option Tables := some ⟨some [some 1799999999], some 1⟩

/-- Two rooms are reported where one gathering is registered. -/
theorem staleConnection_countedTwice :
    (currentStats (⟨(), 0, 0, ()⟩ : SysMetrics Unit) ([] : List Unit) oneGathering
        staleConnection).rooms = 2 ∧
      (registeredGatheringOwners oneGathering).length = 1 ∧
      ¬ CountsOnce staleConnection (registeredGatheringOwners oneGathering)
        (currentStats (⟨(), 0, 0, ()⟩ : SysMetrics Unit) ([] : List Unit) oneGathering
          staleConnection) := by
  have reported : (currentStats (⟨(), 0, 0, ()⟩ : SysMetrics Unit) ([] : List Unit) oneGathering
      staleConnection).rooms = 2 := by decide +kernel
  have gatherings : (registeredGatheringOwners oneGathering).length = 1 := by decide
  refine ⟨reported, gatherings, ?_⟩
  intro counted
  have bounded := counted.rooms_le
  omega

end CommunityServers.Dashboard
