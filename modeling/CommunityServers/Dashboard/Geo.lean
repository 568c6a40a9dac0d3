import Mathlib.Data.List.AList
import Mathlib.Data.Multiset.Bind
import CommunityServers.Foundation.Bytes
import CommunityServers.Foundation.Pool

/-!
Contract: approximate locations of addresses, looked up once each.

Owns:
- `geoLocate` and `fetchGeo` as goroutines over the two maps and the mutex, one
  map access or mutex operation at a time;
- the stage of an address, which the maps record and the goroutines account for;
- that every address is looked up at most once, in every interleaving.

Does not own: coordinates, whose rounding is a parameter, and the service that
answers, whose replies are inputs of the run.
-/

set_option autoImplicit false

namespace CommunityServers.Dashboard

open CommunityServers.Foundation

/-! ### Memory and goroutines -/

structure GeoPoint (Coord : Type) where
  lat : Coord
  lon : Coord
deriving DecidableEq

structure ParsedIP where
  isPrivate : Bool
  isLoopback : Bool

/-- The parser of addresses and the rounding to city level. -/
structure GeoNet (Coord : Type) where
  parseIP : Bytes → Option ParsedIP
  snap : Coord → Coord

/-- What is decoded from the body of an answer. -/
structure GeoReply (Coord : Type) where
  status : Bytes
  lat : Coord
  lon : Coord

structure GeoMemory (Coord : Type) where
  geoMu : Bool
  geoCache : AList fun _ : Bytes => GeoPoint Coord
  geoInflight : Finset Bytes

/-- Where a call of `geoLocate` is. It has the mutex from `readCache` to `found`,
`busy` or `marked`. -/
inductive LocatePC (Coord : Type) where
  | enter
  | readCache
  | found (p : GeoPoint Coord)
  | readInflight
  | busy
  | mark
  | marked
  | launch
  | returned (p : GeoPoint Coord) (ok : Bool)
deriving DecidableEq

/-- Where a run of `fetchGeo` is. It has the mutex from `store` to `release`. -/
inductive FetchPC (Coord : Type) where
  | request
  | lock (p : GeoPoint Coord)
  | store (p : GeoPoint Coord)
  | clear (p : GeoPoint Coord)
  | release (p : GeoPoint Coord)
  | done (p : GeoPoint Coord)
deriving DecidableEq

inductive Goroutine (Coord : Type) where
  | geoLocate (ip : Bytes) (pc : LocatePC Coord)
  | fetchGeo (ip : Bytes) (pc : FetchPC Coord)
deriving DecidableEq

section Steps

variable {Coord : Type} [Zero Coord] [DecidableEq Coord]

def noPoint : GeoPoint Coord := ⟨0, 0⟩

/-- The point that is stored for an address, given the answer if there was one.
The service is asked only about public addresses. -/
def fetchedPoint (net : GeoNet Coord) (ip : Bytes) (response : Option (GeoReply Coord)) :
    GeoPoint Coord :=
  match net.parseIP ip with
  | none => noPoint
  | some parsed =>
      if !parsed.isPrivate && !parsed.isLoopback then
        match response with
        | none => noPoint
        | some r =>
            if r.status = ascii "success" then ⟨net.snap r.lat, net.snap r.lon⟩ else noPoint
      else noPoint

/-- One step of `geoLocate`: the memory, where the call is next and what it has
started. -/
def locateStep (memory : GeoMemory Coord) (ip : Bytes) :
    LocatePC Coord → GeoMemory Coord × LocatePC Coord × List (Goroutine Coord)
  | .enter =>
      if memory.geoMu then (memory, .enter, [])
      else ({ memory with geoMu := true }, .readCache, [])
  | .readCache =>
      match memory.geoCache.lookup ip with
      | some p => (memory, .found p, [])
      | none => (memory, .readInflight, [])
  | .found p => ({ memory with geoMu := false }, .returned p (p.lat ≠ 0 ∨ p.lon ≠ 0), [])
  | .readInflight =>
      if ip ∈ memory.geoInflight then (memory, .busy, []) else (memory, .mark, [])
  | .busy => ({ memory with geoMu := false }, .returned noPoint false, [])
  | .mark => ({ memory with geoInflight := insert ip memory.geoInflight }, .marked, [])
  | .marked => ({ memory with geoMu := false }, .launch, [])
  | .launch => (memory, .returned noPoint false, [.fetchGeo ip .request])
  | .returned p ok => (memory, .returned p ok, [])

def fetchStep (net : GeoNet Coord) (response : Option (GeoReply Coord))
    (memory : GeoMemory Coord) (ip : Bytes) : FetchPC Coord → GeoMemory Coord × FetchPC Coord
  | .request => (memory, .lock (fetchedPoint net ip response))
  | .lock p =>
      if memory.geoMu then (memory, .lock p) else ({ memory with geoMu := true }, .store p)
  | .store p => ({ memory with geoCache := memory.geoCache.insert ip p }, .clear p)
  | .clear p => ({ memory with geoInflight := memory.geoInflight.erase ip }, .release p)
  | .release p => ({ memory with geoMu := false }, .done p)
  | .done p => (memory, .done p)

/-- Calls of `geoLocate` for any addresses and the goroutines they start. -/
def geoProgram (net : GeoNet Coord) :
    Program (GeoMemory Coord) (Goroutine Coord) Bytes (Option (GeoReply Coord)) where
  start ip := .geoLocate ip .enter
  advance response memory
    | .geoLocate ip pc =>
        let after := locateStep memory ip pc
        (after.1, .geoLocate ip after.2.1, after.2.2)
    | .fetchGeo ip pc =>
        let after := fetchStep net response memory ip pc
        (after.1, .fetchGeo ip after.2, [])

def emptyMemory : GeoMemory Coord := ⟨false, ∅, ∅⟩

/-- What one step can do: the memory, the goroutine and what it has started
after it. A goroutine that is finished or waits for the mutex is idle. -/
inductive Moves (memory : GeoMemory Coord) :
    Goroutine Coord → GeoMemory Coord → Goroutine Coord → List (Goroutine Coord) → Prop where
  | idle (routine : Goroutine Coord) : Moves memory routine memory routine []
  | entered (ip : Bytes) (free : memory.geoMu = false) :
      Moves memory (.geoLocate ip .enter) { memory with geoMu := true }
        (.geoLocate ip .readCache) []
  | hit (ip : Bytes) (p : GeoPoint Coord) (cached : memory.geoCache.lookup ip = some p) :
      Moves memory (.geoLocate ip .readCache) memory (.geoLocate ip (.found p)) []
  | missed (ip : Bytes) (absent : memory.geoCache.lookup ip = none) :
      Moves memory (.geoLocate ip .readCache) memory (.geoLocate ip .readInflight) []
  | answered (ip : Bytes) (p : GeoPoint Coord) (ok : Bool) :
      Moves memory (.geoLocate ip (.found p)) { memory with geoMu := false }
        (.geoLocate ip (.returned p ok)) []
  | awaiting (ip : Bytes) (inflight : ip ∈ memory.geoInflight) :
      Moves memory (.geoLocate ip .readInflight) memory (.geoLocate ip .busy) []
  | fresh (ip : Bytes) (unmarked : ip ∉ memory.geoInflight) :
      Moves memory (.geoLocate ip .readInflight) memory (.geoLocate ip .mark) []
  | refused (ip : Bytes) :
      Moves memory (.geoLocate ip .busy) { memory with geoMu := false }
        (.geoLocate ip (.returned noPoint false)) []
  | marked (ip : Bytes) :
      Moves memory (.geoLocate ip .mark)
        { memory with geoInflight := insert ip memory.geoInflight } (.geoLocate ip .marked) []
  | left (ip : Bytes) :
      Moves memory (.geoLocate ip .marked) { memory with geoMu := false }
        (.geoLocate ip .launch) []
  | launched (ip : Bytes) :
      Moves memory (.geoLocate ip .launch) memory (.geoLocate ip (.returned noPoint false))
        [.fetchGeo ip .request]
  | fetched (ip : Bytes) (p : GeoPoint Coord) :
      Moves memory (.fetchGeo ip .request) memory (.fetchGeo ip (.lock p)) []
  | locked (ip : Bytes) (p : GeoPoint Coord) (free : memory.geoMu = false) :
      Moves memory (.fetchGeo ip (.lock p)) { memory with geoMu := true }
        (.fetchGeo ip (.store p)) []
  | stored (ip : Bytes) (p : GeoPoint Coord) :
      Moves memory (.fetchGeo ip (.store p))
        { memory with geoCache := memory.geoCache.insert ip p } (.fetchGeo ip (.clear p)) []
  | cleared (ip : Bytes) (p : GeoPoint Coord) :
      Moves memory (.fetchGeo ip (.clear p))
        { memory with geoInflight := memory.geoInflight.erase ip } (.fetchGeo ip (.release p)) []
  | released (ip : Bytes) (p : GeoPoint Coord) :
      Moves memory (.fetchGeo ip (.release p)) { memory with geoMu := false }
        (.fetchGeo ip (.done p)) []

theorem locateStep_moves (memory : GeoMemory Coord) (ip : Bytes) (pc : LocatePC Coord) :
    Moves memory (.geoLocate ip pc) (locateStep memory ip pc).1
      (.geoLocate ip (locateStep memory ip pc).2.1) (locateStep memory ip pc).2.2 := by
  cases pc with
  | enter =>
      simp only [locateStep]
      split
      next => exact Moves.idle _
      next free => exact Moves.entered ip (Bool.eq_false_of_not_eq_true free)
  | readCache =>
      simp only [locateStep]
      split
      next p cached => exact Moves.hit ip p cached
      next absent => exact Moves.missed ip absent
  | found p => exact Moves.answered ip p _
  | readInflight =>
      simp only [locateStep]
      split
      next inflight => exact Moves.awaiting ip inflight
      next unmarked => exact Moves.fresh ip unmarked
  | busy => exact Moves.refused ip
  | mark => exact Moves.marked ip
  | marked => exact Moves.left ip
  | launch => exact Moves.launched ip
  | returned p ok => exact Moves.idle _

omit [DecidableEq Coord] in
theorem fetchStep_moves (net : GeoNet Coord) (response : Option (GeoReply Coord))
    (memory : GeoMemory Coord) (ip : Bytes) (pc : FetchPC Coord) :
    Moves memory (.fetchGeo ip pc) (fetchStep net response memory ip pc).1
      (.fetchGeo ip (fetchStep net response memory ip pc).2) [] := by
  cases pc with
  | request => exact Moves.fetched ip _
  | lock p =>
      simp only [fetchStep]
      split
      next => exact Moves.idle _
      next free => exact Moves.locked ip p (Bool.eq_false_of_not_eq_true free)
  | store p => exact Moves.stored ip p
  | clear p => exact Moves.cleared ip p
  | release p => exact Moves.released ip p
  | done p => exact Moves.idle _

theorem advance_moves (net : GeoNet Coord) (response : Option (GeoReply Coord))
    (memory : GeoMemory Coord) (routine : Goroutine Coord) :
    Moves memory routine ((geoProgram net).advance response memory routine).1
      ((geoProgram net).advance response memory routine).2.1
      ((geoProgram net).advance response memory routine).2.2 := by
  cases routine with
  | geoLocate ip pc => exact locateStep_moves memory ip pc
  | fetchGeo ip pc => exact fetchStep_moves net response memory ip pc

end Steps

/-! ### Stages -/

section Invariant

variable {Coord : Type}

/-- An address is awaited from its marking on, and then its point is stored. -/
inductive Stage (Coord : Type) where
  | awaited
  | stored (p : GeoPoint Coord)

namespace Goroutine

def ip : Goroutine Coord → Bytes
  | .geoLocate ip _ => ip
  | .fetchGeo ip _ => ip

/-- The goroutine has the mutex. -/
def holds : Goroutine Coord → Bool
  | .geoLocate _ .readCache | .geoLocate _ (.found _) | .geoLocate _ .readInflight
  | .geoLocate _ .busy | .geoLocate _ .mark | .geoLocate _ .marked => true
  | .fetchGeo _ (.store _) | .fetchGeo _ (.clear _) | .fetchGeo _ (.release _) => true
  | _ => false

/-- The stage of its address that the goroutine is answerable for: a call from
its marking until it starts the fetch, and then the fetch. -/
def stage : Goroutine Coord → Option (Stage Coord)
  | .geoLocate _ .marked | .geoLocate _ .launch => some .awaited
  | .geoLocate _ _ => none
  | .fetchGeo _ .request | .fetchGeo _ (.lock _) | .fetchGeo _ (.store _) => some .awaited
  | .fetchGeo _ (.clear p) | .fetchGeo _ (.release p) | .fetchGeo _ (.done p) => some (.stored p)

def accounts (ip : Bytes) (routine : Goroutine Coord) : Multiset (Stage Coord) :=
  if routine.ip = ip then routine.stage.toList else 0

theorem accounts_of_ne {routine : Goroutine Coord} {other : Bytes}
    (different : other ≠ routine.ip) : routine.accounts other = 0 :=
  if_neg (Ne.symm different)

theorem mem_accounts {routine : Goroutine Coord} {own : Bytes} {stage : Stage Coord} :
    stage ∈ routine.accounts own ↔ routine.ip = own ∧ routine.stage = some stage := by
  unfold accounts
  split
  next same => simp [same]
  next different => simp [different]

theorem fetched_of_stored {routine : Goroutine Coord} {own : Bytes} {p : GeoPoint Coord}
    (answers : .stored p ∈ routine.accounts own) :
    ∃ pc ∈ [.clear p, .release p, .done p], routine = .fetchGeo own pc := by
  obtain ⟨rfl, stored⟩ := mem_accounts.mp answers
  cases routine with
  | geoLocate ip pc => cases pc <;> cases stored
  | fetchGeo ip pc =>
      cases pc with
      | request | lock | store => cases stored
      | clear | release | done =>
          cases stored
          exact ⟨_, by simp, rfl⟩

/-- What the goroutine has read under the mutex and still relies on, and what a
call that returned a point has found. -/
def Relies (memory : GeoMemory Coord) (routines : Multiset (Goroutine Coord)) :
    Goroutine Coord → Prop
  | .geoLocate ip .readInflight => memory.geoCache.lookup ip = none
  | .geoLocate ip .mark => memory.geoCache.lookup ip = none ∧ ip ∉ memory.geoInflight
  | .geoLocate ip (.found p) => memory.geoCache.lookup ip = some p
  | .geoLocate ip (.returned p ok) => ok = true → .fetchGeo ip (.done p) ∈ routines
  | _ => True

end Goroutine

/-- The stage that the maps record for an address, if it has been marked. -/
def recorded (memory : GeoMemory Coord) (ip : Bytes) : Multiset (Stage Coord) :=
  match memory.geoCache.lookup ip with
  | some p => {.stored p}
  | none => if ip ∈ memory.geoInflight then {.awaited} else 0

structure Consistent (memory : GeoMemory Coord) (routines : Multiset (Goroutine Coord)) :
    Prop where
  exclusive : routines.countP (fun routine => routine.holds = true) = memory.geoMu.toNat
  accounted : ∀ ip, routines.bind (Goroutine.accounts ip) = recorded memory ip
  overlap : ∀ ip p, memory.geoCache.lookup ip = some p → ip ∈ memory.geoInflight →
    .fetchGeo ip (.clear p) ∈ routines
  relies : ∀ routine ∈ routines, routine.Relies memory routines

theorem awaited_mem_recorded {memory : GeoMemory Coord} {ip : Bytes} :
    .awaited ∈ recorded memory ip ↔
      memory.geoCache.lookup ip = none ∧ ip ∈ memory.geoInflight := by
  unfold recorded
  cases memory.geoCache.lookup ip with
  | some p => simp
  | none =>
      by_cases inflight : ip ∈ memory.geoInflight
      · simp [inflight]
      · simp [inflight]

theorem stored_mem_recorded {memory : GeoMemory Coord} {ip : Bytes} {p : GeoPoint Coord} :
    .stored p ∈ recorded memory ip ↔ memory.geoCache.lookup ip = some p := by
  unfold recorded
  cases memory.geoCache.lookup ip with
  | some q => simp [eq_comm]
  | none =>
      by_cases inflight : ip ∈ memory.geoInflight
      · simp [inflight]
      · simp [inflight]

theorem recorded_eq_singleton {memory : GeoMemory Coord} {ip : Bytes} {stage : Stage Coord}
    (member : stage ∈ recorded memory ip) : recorded memory ip = {stage} := by
  unfold recorded at member ⊢
  cases found : memory.geoCache.lookup ip with
  | some p =>
      rw [found] at member
      rw [Multiset.mem_singleton.mp member]
  | none =>
      rw [found] at member
      dsimp only at member ⊢
      split at member
      next inflight =>
        rw [if_pos inflight, Multiset.mem_singleton.mp member]
      next => exact absurd member (Multiset.notMem_zero stage)

/-- An address has one stage at most. -/
theorem recorded_alone {memory : GeoMemory Coord} {ip : Bytes} {stage : Stage Coord}
    {rest : Multiset (Stage Coord)} (whole : {stage} + rest = recorded memory ip) :
    stage ∈ recorded memory ip ∧ rest = 0 := by
  have member : stage ∈ recorded memory ip := by
    rw [← whole]
    exact Multiset.mem_add.mpr (Or.inl (Multiset.mem_singleton_self stage))
  refine ⟨member, ?_⟩
  rw [recorded_eq_singleton member] at whole
  exact add_eq_left.mp whole

theorem recorded_congr {before after : GeoMemory Coord} {ip : Bytes}
    (cache : after.geoCache.lookup ip = before.geoCache.lookup ip)
    (inflight : ip ∈ after.geoInflight ↔ ip ∈ before.geoInflight) :
    recorded after ip = recorded before ip := by
  unfold recorded
  simp only [cache, inflight]

theorem countP_holds_cons (routine : Goroutine Coord) (others : Multiset (Goroutine Coord)) :
    (routine ::ₘ others).countP (fun other => other.holds = true) =
      others.countP (fun other => other.holds = true) + routine.holds.toNat := by
  rw [Multiset.countP_cons]
  cases routine.holds <;> rfl

/-! ### One step -/

section Preserved

variable [Zero Coord] {memory after : GeoMemory Coord} {routine next : Goroutine Coord}
  {started : List (Goroutine Coord)} {others : Multiset (Goroutine Coord)}

/-- The mutex is taken only when it is free and given back by who has it. -/
theorem Moves.exclusive (moves : Moves memory routine after next started) {count : Nat}
    (before : count + routine.holds.toNat = memory.geoMu.toNat) :
    count + next.holds.toNat = after.geoMu.toNat := by
  cases moves with
  | idle | hit | missed | awaiting | fresh | marked | stored | cleared | launched | fetched =>
      exact before
  | entered ip free =>
      rw [free] at before
      exact congrArg (· + 1) before
  | locked ip p free =>
      rw [free] at before
      exact congrArg (· + 1) before
  | answered | refused | left | released =>
      have bound := Bool.toNat_le memory.geoMu
      change count + 1 = memory.geoMu.toNat at before
      change count = 0
      omega

theorem Moves.started_holds (moves : Moves memory routine after next started) :
    ∀ new ∈ started, new.holds = false := by
  cases moves with
  | launched ip => simp [Goroutine.holds]
  | _ => simp

theorem Moves.ip_eq (moves : Moves memory routine after next started) :
    next.ip = routine.ip ∧ ∀ new ∈ started, new.ip = routine.ip := by
  cases moves with
  | launched ip => exact ⟨rfl, by simp [Goroutine.ip]⟩
  | _ => exact ⟨rfl, by simp⟩

/-- A step changes the maps for its own address only. -/
theorem Moves.recorded_of_ne (moves : Moves memory routine after next started) {ip : Bytes}
    (different : ip ≠ routine.ip) : recorded after ip = recorded memory ip := by
  cases moves with
  | marked own =>
      refine recorded_congr ?_ ?_
      · rfl
      · rw [Finset.mem_insert]
        exact or_iff_right different
  | stored own p => exact recorded_congr (AList.lookup_insert_ne different) Iff.rfl
  | cleared own p =>
      refine recorded_congr ?_ ?_
      · rfl
      · rw [Finset.mem_erase]
        exact and_iff_right different
  | _ => rfl

theorem Moves.accounted_own (moves : Moves memory routine after next started)
    {rest : Multiset (Stage Coord)} {routines : Multiset (Goroutine Coord)}
    (relies : routine.Relies memory routines)
    (before : routine.accounts routine.ip + rest = recorded memory routine.ip) :
    next.accounts routine.ip +
        ((started : Multiset (Goroutine Coord)).bind (Goroutine.accounts routine.ip) + rest) =
      recorded after routine.ip := by
  cases moves with
  | idle | hit | missed | awaiting | fresh | entered | answered | refused | left | fetched
  | locked | released =>
      rw [Multiset.coe_nil, Multiset.zero_bind, zero_add]
      exact before
  | launched own =>
      have handedOver :
          (Goroutine.geoLocate own (.returned (noPoint : GeoPoint Coord) false)).accounts own = 0 :=
        if_pos rfl
      rw [Multiset.coe_singleton, Multiset.singleton_bind]
      change (Goroutine.geoLocate own (.returned noPoint false)).accounts own + _ = _
      rw [handedOver, zero_add]
      exact before
  | marked own =>
      have unmarked : recorded memory own = 0 := by
        unfold recorded
        rw [relies.1]
        exact if_neg relies.2
      have nothing : (Goroutine.geoLocate own (.mark : LocatePC Coord)).accounts own = 0 :=
        if_pos rfl
      have alone : rest = 0 := by
        change (Goroutine.geoLocate own .mark).accounts own + rest = recorded memory own at before
        rw [nothing, zero_add, unmarked] at before
        exact before
      have awaited : recorded { memory with geoInflight := insert own memory.geoInflight } own =
          {.awaited} :=
        recorded_eq_singleton (awaited_mem_recorded.mpr
          ⟨relies.1, Finset.mem_insert_self own memory.geoInflight⟩)
      rw [Multiset.coe_nil, Multiset.zero_bind, zero_add, alone, add_zero]
      exact (if_pos rfl).trans awaited.symm
  | stored own p =>
      have alone := (recorded_alone ((congrArg (· + rest) (if_pos rfl).symm).trans before)).2
      have storedAfter : recorded
          { memory with geoCache := memory.geoCache.insert own p } own = {.stored p} :=
        recorded_eq_singleton (stored_mem_recorded.mpr (AList.lookup_insert memory.geoCache))
      rw [Multiset.coe_nil, Multiset.zero_bind, zero_add, alone, add_zero]
      exact (if_pos rfl).trans storedAfter.symm
  | cleared own p =>
      have inCache := (recorded_alone ((congrArg (· + rest) (if_pos rfl).symm).trans before)).1
      have cached : memory.geoCache.lookup own = some p := stored_mem_recorded.mp inCache
      have kept : recorded
          { memory with geoInflight := memory.geoInflight.erase own } own = {.stored p} :=
        recorded_eq_singleton (stored_mem_recorded.mpr cached)
      rw [Multiset.coe_nil, Multiset.zero_bind, zero_add]
      exact before.trans ((recorded_eq_singleton inCache).trans kept.symm)

/-- What the goroutines answer for stays what the maps record. -/
theorem Moves.accounted (moves : Moves memory routine after next started)
    {routines : Multiset (Goroutine Coord)} (relies : routine.Relies memory routines) {ip : Bytes}
    {rest : Multiset (Stage Coord)}
    (before : routine.accounts ip + rest = recorded memory ip) :
    next.accounts ip +
        ((started : Multiset (Goroutine Coord)).bind (Goroutine.accounts ip) + rest) =
      recorded after ip := by
  by_cases own : ip = routine.ip
  · subst own
    exact moves.accounted_own relies before
  · have other := moves.ip_eq
    have nothing : (started : Multiset (Goroutine Coord)).bind (Goroutine.accounts ip) = 0 := by
      rw [Multiset.bind_congr fun new member =>
        Goroutine.accounts_of_ne ((other.2 new member).symm ▸ own)]
      exact Multiset.bind_zero _
    rw [moves.recorded_of_ne own, ← before, nothing, zero_add,
      Goroutine.accounts_of_ne own, Goroutine.accounts_of_ne (other.1.symm ▸ own)]

theorem Moves.keeps_done (moves : Moves memory routine after next started) {ip : Bytes}
    {p : GeoPoint Coord} (member : .fetchGeo ip (.done p) ∈ routine ::ₘ others) :
    .fetchGeo ip (.done p) ∈ next ::ₘ ((started : Multiset (Goroutine Coord)) + others) := by
  rcases Multiset.mem_cons.mp member with same | other
  · subst same
    cases moves with
    | idle => exact Multiset.mem_cons_self _ _
  · exact Multiset.mem_cons_of_mem (Multiset.mem_add.mpr (Or.inr other))

theorem Moves.maps_of_not_holds (moves : Moves memory routine after next started)
    (outside : routine.holds = false) :
    after.geoCache = memory.geoCache ∧ after.geoInflight = memory.geoInflight := by
  cases moves with
  | marked | stored | cleared => cases outside
  | _ => exact ⟨rfl, rfl⟩

/-- Only a fetch that is between its two writes has its address in both maps. -/
theorem Moves.overlap (moves : Moves memory routine after next started)
    {routines : Multiset (Goroutine Coord)} (relies : routine.Relies memory routines)
    (before : ∀ ip p, memory.geoCache.lookup ip = some p → ip ∈ memory.geoInflight →
      .fetchGeo ip (.clear p) ∈ routine ::ₘ others)
    (ip : Bytes) (p : GeoPoint Coord) (cached : after.geoCache.lookup ip = some p)
    (inflight : ip ∈ after.geoInflight) :
    .fetchGeo ip (.clear p) ∈ next ::ₘ ((started : Multiset (Goroutine Coord)) + others) := by
  have keeps : .fetchGeo ip (.clear p) ∈ others →
      .fetchGeo ip (.clear p) ∈ next ::ₘ ((started : Multiset (Goroutine Coord)) + others) :=
    fun other => Multiset.mem_cons_of_mem (Multiset.mem_add.mpr (Or.inr other))
  cases moves with
  | idle =>
      rcases Multiset.mem_cons.mp (before ip p cached inflight) with same | other
      · rw [same]
        exact Multiset.mem_cons_self _ _
      · exact keeps other
  | marked own =>
      rcases Finset.mem_insert.mp inflight with rfl | earlier
      · exact absurd (relies.1.symm.trans cached) (Option.some_ne_none p).symm
      · exact keeps ((Multiset.mem_cons.mp (before ip p cached earlier)).resolve_left (by simp))
  | stored own q =>
      by_cases same : ip = own
      · subst same
        rw [AList.lookup_insert] at cached
        rw [Option.some.inj cached]
        exact Multiset.mem_cons_self _ _
      · rw [AList.lookup_insert_ne same] at cached
        exact keeps ((Multiset.mem_cons.mp (before ip p cached inflight)).resolve_left (by simp))
  | cleared own q =>
      obtain ⟨different, earlier⟩ := Finset.mem_erase.mp inflight
      apply keeps
      apply (Multiset.mem_cons.mp (before ip p cached earlier)).resolve_left
      intro same
      exact different (Goroutine.fetchGeo.inj same).1
  | _ => exact keeps ((Multiset.mem_cons.mp (before ip p cached inflight)).resolve_left (by simp))

omit [Zero Coord] in
/-- While one goroutine has the mutex no other one has it. -/
theorem Consistent.others_outside (consistent : Consistent memory (routine ::ₘ others))
    (inside : routine.holds = true) : ∀ other ∈ others, other.holds = false := by
  have exclusive := consistent.exclusive
  have bound := Bool.toNat_le memory.geoMu
  rw [Multiset.countP_cons, if_pos inside] at exclusive
  have nobody : others.countP (fun other => other.holds = true) = 0 := by omega
  intro other member
  exact Bool.eq_false_of_not_eq_true (Multiset.countP_eq_zero.mp nobody other member)

omit [Zero Coord] in
/-- The point in the cache was stored by a fetch for its address. -/
theorem Consistent.stored_by {routines : Multiset (Goroutine Coord)}
    (consistent : Consistent memory routines) {ip : Bytes} {p : GeoPoint Coord}
    (cached : memory.geoCache.lookup ip = some p) :
    ∃ pc ∈ [.clear p, .release p, .done p], .fetchGeo ip pc ∈ routines := by
  have inSum : .stored p ∈ routines.bind (Goroutine.accounts ip) := by
    rw [consistent.accounted ip]
    exact stored_mem_recorded.mpr cached
  obtain ⟨routine, member, answers⟩ := Multiset.mem_bind.mp inSum
  obtain ⟨pc, isPC, rfl⟩ := Goroutine.fetched_of_stored answers
  exact ⟨pc, isPC, member⟩

omit [Zero Coord] in
/-- A call that has found a point may return it: the fetch that stored it is
complete, since it would have the mutex otherwise. -/
theorem Consistent.done_of_found {ip : Bytes} {p : GeoPoint Coord}
    (consistent : Consistent memory (.geoLocate ip (.found p) ::ₘ others)) :
    .fetchGeo ip (.done p) ∈ others := by
  have cached := consistent.relies _ (Multiset.mem_cons_self _ others)
  obtain ⟨pc, isPC, member⟩ := consistent.stored_by cached
  have inOthers : .fetchGeo ip pc ∈ others := (Multiset.mem_cons.mp member).resolve_left (by simp)
  have outside := consistent.others_outside rfl _ inOthers
  simp only [List.mem_cons, List.not_mem_nil, or_false] at isPC
  rcases isPC with rfl | rfl | rfl
  · cases outside
  · cases outside
  · exact inOthers

omit [Zero Coord] in
theorem Goroutine.Relies.mono {other : Goroutine Coord}
    {before routines : Multiset (Goroutine Coord)}
    (relies : other.Relies memory before)
    (maps : other.holds = true →
      after.geoCache = memory.geoCache ∧ after.geoInflight = memory.geoInflight)
    (completed : ∀ ip p, .fetchGeo ip (.done p) ∈ before → .fetchGeo ip (.done p) ∈ routines) :
    other.Relies after routines := by
  cases other with
  | geoLocate ip pc =>
      cases pc with
      | readInflight => exact (congrArg (AList.lookup ip) (maps rfl).1).trans relies
      | mark =>
          refine ⟨(congrArg (AList.lookup ip) (maps rfl).1).trans relies.1, ?_⟩
          rw [(maps rfl).2]
          exact relies.2
      | found p => exact (congrArg (AList.lookup ip) (maps rfl).1).trans relies
      | returned p ok => exact fun located => completed ip p (relies located)
      | _ => trivial
  | fetchGeo ip pc => trivial

theorem Moves.relies (moves : Moves memory routine after next started)
    (consistent : Consistent memory (routine ::ₘ others)) :
    next.Relies after (next ::ₘ ((started : Multiset (Goroutine Coord)) + others)) := by
  have own := consistent.relies routine (Multiset.mem_cons_self routine others)
  cases moves with
  | idle =>
      rw [Multiset.coe_nil, zero_add]
      exact own
  | hit ip p cached => exact cached
  | missed ip absent => exact absent
  | fresh ip unmarked => exact ⟨own, unmarked⟩
  | answered ip p ok =>
      intro _
      exact Multiset.mem_cons_of_mem (Multiset.mem_add.mpr (Or.inr consistent.done_of_found))
  | refused | launched => exact fun located => absurd located Bool.false_ne_true
  | _ => trivial

theorem Moves.others_rely (moves : Moves memory routine after next started)
    (consistent : Consistent memory (routine ::ₘ others)) {other : Goroutine Coord}
    (member : other ∈ others) :
    other.Relies after (next ::ₘ ((started : Multiset (Goroutine Coord)) + others)) := by
  apply (consistent.relies other (Multiset.mem_cons_of_mem member)).mono
  · intro inside
    apply moves.maps_of_not_holds
    by_contra holds
    rw [consistent.others_outside (Bool.eq_true_of_not_eq_false holds) other member] at inside
    cases inside
  · exact fun ip p => moves.keeps_done

theorem Moves.started_rely (moves : Moves memory routine after next started)
    {routines : Multiset (Goroutine Coord)} : ∀ new ∈ started, new.Relies after routines := by
  cases moves with
  | launched ip =>
      intro new member
      rw [List.mem_singleton.mp member]
      trivial
  | _ => exact fun new member => absurd member List.not_mem_nil

/-- Every step preserves the invariant. -/
theorem Moves.consistent (moves : Moves memory routine after next started)
    (consistent : Consistent memory (routine ::ₘ others)) :
    Consistent after (next ::ₘ ((started : Multiset (Goroutine Coord)) + others)) where
  exclusive := by
    have before := consistent.exclusive
    have nobody : (started : Multiset (Goroutine Coord)).countP (fun new => new.holds = true) = 0 :=
      Multiset.countP_eq_zero.mpr fun new member => by
        rw [moves.started_holds new member]
        exact Bool.false_ne_true
    rw [countP_holds_cons] at before
    rw [countP_holds_cons, Multiset.countP_add, nobody, Nat.zero_add]
    exact moves.exclusive before
  accounted ip := by
    have before := consistent.accounted ip
    rw [Multiset.cons_bind] at before
    rw [Multiset.cons_bind, Multiset.add_bind]
    exact moves.accounted (consistent.relies routine (Multiset.mem_cons_self routine others)) before
  overlap := moves.overlap (consistent.relies routine (Multiset.mem_cons_self routine others))
    consistent.overlap
  relies := by
    intro other member
    rcases Multiset.mem_cons.mp member with rfl | inside
    · exact moves.relies consistent
    · rcases Multiset.mem_add.mp inside with isNew | isOld
      · exact moves.started_rely other isNew
      · exact moves.others_rely consistent isOld

/-- A fetch stores its point when its address has none yet. -/
theorem Moves.keeps_point (moves : Moves memory routine after next started)
    (consistent : Consistent memory (routine ::ₘ others)) {ip : Bytes} {p : GeoPoint Coord}
    (cached : memory.geoCache.lookup ip = some p) : after.geoCache.lookup ip = some p := by
  cases moves with
  | stored own q =>
      have different : ip ≠ own := by
        rintro rfl
        have awaited : .awaited ∈ recorded memory ip := by
          rw [← consistent.accounted ip, Multiset.cons_bind]
          exact Multiset.mem_add.mpr (Or.inl (Goroutine.mem_accounts.mpr ⟨rfl, rfl⟩))
        rw [(awaited_mem_recorded.mp awaited).1] at cached
        cases cached
      rw [AList.lookup_insert_ne different]
      exact cached
  | _ => exact cached

end Preserved

/-! ### What the invariant gives -/

theorem Consistent.outside {memory : GeoMemory Coord} {routines : Multiset (Goroutine Coord)}
    (consistent : Consistent memory routines) (free : memory.geoMu = false) :
    ∀ routine ∈ routines, ¬ routine.holds = true := by
  have exclusive := consistent.exclusive
  rw [free] at exclusive
  exact Multiset.countP_eq_zero.mp exclusive

theorem Consistent.apart {memory : GeoMemory Coord} {routines : Multiset (Goroutine Coord)}
    (consistent : Consistent memory routines) (free : memory.geoMu = false) {ip : Bytes}
    (inflight : ip ∈ memory.geoInflight) : memory.geoCache.lookup ip = none := by
  by_contra cached
  obtain ⟨p, cached⟩ := Option.ne_none_iff_exists'.mp cached
  exact consistent.outside free _ (consistent.overlap ip p cached inflight) rfl

/-- The fetch for the address is still to be started by the call that marked
it, or it is not complete. -/
def Unfinished (routines : List (Goroutine Coord)) (ip : Bytes) : Prop :=
  .geoLocate ip .launch ∈ routines ∨
    ∃ pc, .fetchGeo ip pc ∈ routines ∧ ∀ p, pc ≠ .done p

theorem unfinished_iff {memory : GeoMemory Coord} {routines : List (Goroutine Coord)}
    (consistent : Consistent memory routines) (free : memory.geoMu = false) (ip : Bytes) :
    ip ∈ memory.geoInflight ↔ Unfinished routines ip := by
  have outside := consistent.outside free
  constructor
  · intro inflight
    have awaited := awaited_mem_recorded.mpr ⟨consistent.apart free inflight, inflight⟩
    rw [← consistent.accounted ip] at awaited
    obtain ⟨routine, member, answers⟩ := Multiset.mem_bind.mp awaited
    obtain ⟨rfl, stage⟩ := Goroutine.mem_accounts.mp answers
    have notInside := outside routine member
    cases routine with
    | geoLocate ip pc =>
        cases pc with
        | launch => exact Or.inl member
        | marked => exact absurd rfl notInside
        | _ => cases stage
    | fetchGeo ip pc =>
        refine Or.inr ⟨pc, member, ?_⟩
        rintro p rfl
        cases stage
  · intro unfinished
    have awaited : .awaited ∈ recorded memory ip := by
      rw [← consistent.accounted ip]
      apply Multiset.mem_bind.mpr
      rcases unfinished with launching | ⟨pc, member, notDone⟩
      · exact ⟨_, launching, Goroutine.mem_accounts.mpr ⟨rfl, rfl⟩⟩
      · refine ⟨_, member, Goroutine.mem_accounts.mpr ⟨rfl, ?_⟩⟩
        have notInside := outside _ member
        cases pc with
        | request | lock => rfl
        | store | clear | release => exact absurd rfl notInside
        | done p => exact absurd rfl (notDone p)
    exact (awaited_mem_recorded.mp awaited).2

theorem point_of_done {memory : GeoMemory Coord} {routines : Multiset (Goroutine Coord)}
    (consistent : Consistent memory routines) {ip : Bytes} {p : GeoPoint Coord}
    (completed : .fetchGeo ip (.done p) ∈ routines) : memory.geoCache.lookup ip = some p := by
  apply stored_mem_recorded.mp
  rw [← consistent.accounted ip]
  exact Multiset.mem_bind.mpr ⟨_, completed, Goroutine.mem_accounts.mpr ⟨rfl, rfl⟩⟩

def Goroutine.isFetch (ip : Bytes) : Goroutine Coord → Bool
  | .geoLocate _ _ => false
  | .fetchGeo other _ => other = ip

theorem countP_isFetch_le (ip : Bytes) (routines : Multiset (Goroutine Coord)) :
    routines.countP (fun routine => routine.isFetch ip = true) ≤
      (routines.bind (Goroutine.accounts ip)).card := by
  induction routines using Multiset.induction with
  | empty => exact Nat.le_refl 0
  | cons routine others inductionHypothesis =>
      have one : (if routine.isFetch ip = true then 1 else 0) ≤
          (routine.accounts ip).card := by
        split
        next fetch =>
          cases routine with
          | geoLocate other pc => cases fetch
          | fetchGeo other pc =>
              obtain rfl := of_decide_eq_true fetch
              apply Multiset.card_pos_iff_exists_mem.mpr
              cases pc <;> exact ⟨_, Goroutine.mem_accounts.mpr ⟨rfl, rfl⟩⟩
        next => exact Nat.zero_le _
      rw [Multiset.countP_cons, Multiset.cons_bind, Multiset.card_add]
      omega

theorem card_recorded_le (memory : GeoMemory Coord) (ip : Bytes) :
    (recorded memory ip).card ≤ 1 := by
  by_cases unmarked : recorded memory ip = 0
  · rw [unmarked]
    exact Nat.zero_le 1
  · obtain ⟨stage, member⟩ := Multiset.exists_mem_of_ne_zero unmarked
    rw [recorded_eq_singleton member]
    exact Nat.le_refl 1

/-! ### Every run -/

theorem consistent_start : Consistent (emptyMemory : GeoMemory Coord) 0 where
  exclusive := rfl
  accounted _ := rfl
  overlap _ _ cached := by cases cached
  relies _ member := absurd member (Multiset.notMem_zero _)

theorem Consistent.call {memory : GeoMemory Coord} {routines : Multiset (Goroutine Coord)}
    (consistent : Consistent memory routines) (ip : Bytes) :
    Consistent memory (.geoLocate ip .enter ::ₘ routines) where
  exclusive := by
    rw [countP_holds_cons]
    exact consistent.exclusive
  accounted other := by
    have nothing : (Goroutine.geoLocate ip (.enter : LocatePC Coord)).accounts other = 0 := by
      unfold Goroutine.accounts
      split <;> rfl
    rw [Multiset.cons_bind, nothing, zero_add]
    exact consistent.accounted other
  overlap other p cached inflight :=
    Multiset.mem_cons_of_mem (consistent.overlap other p cached inflight)
  relies routine member := by
    rcases Multiset.mem_cons.mp member with rfl | earlier
    · trivial
    · exact (consistent.relies routine earlier).mono (fun _ => ⟨rfl, rfl⟩)
        fun ip p completed => Multiset.mem_cons_of_mem completed

section Runs

variable [Zero Coord] [DecidableEq Coord] (net : GeoNet Coord)

/-- Memory and goroutines after the events of a run. -/
def geoRun (events : List (PoolEvent Bytes (Option (GeoReply Coord)))) :
    Pool (GeoMemory Coord) (Goroutine Coord) :=
  (geoProgram net).machine.exec ⟨emptyMemory, []⟩ events

/-- The goroutines that `go` statements have started. -/
def geoStarted (events : List (PoolEvent Bytes (Option (GeoReply Coord)))) :
    List (Goroutine Coord) :=
  (geoProgram net).machine.log ⟨emptyMemory, []⟩ events

theorem consistent_run (events : List (PoolEvent Bytes (Option (GeoReply Coord)))) :
    Consistent (geoRun net events).shared (geoRun net events).threads := by
  apply Program.pool_rule Consistent consistent_start
  · exact fun memory routines ip consistent => consistent.call ip
  · exact fun response memory routine others consistent =>
      (advance_moves net response memory routine).consistent consistent

theorem geoRun_append_singleton (events : List (PoolEvent Bytes (Option (GeoReply Coord))))
    (event : PoolEvent Bytes (Option (GeoReply Coord))) :
    geoRun net (events ++ [event]) = (geoProgram net).machine.step (geoRun net events) event :=
  (geoProgram net).machine.exec_append_singleton _ events event

/-- A point stays in the cache for the rest of the run. -/
theorem point_kept {events : List (PoolEvent Bytes (Option (GeoReply Coord)))} {ip : Bytes}
    {p : GeoPoint Coord} (cached : (geoRun net events).shared.geoCache.lookup ip = some p)
    (later : List (PoolEvent Bytes (Option (GeoReply Coord)))) :
    (geoRun net (events ++ later)).shared.geoCache.lookup ip = some p := by
  induction later using List.reverseRecOn with
  | nil =>
      rw [List.append_nil]
      exact cached
  | append_singleton later event inductionHypothesis =>
      have consistent := consistent_run net (events ++ later)
      rw [← List.append_assoc, geoRun_append_singleton]
      cases event with
      | call other => exact inductionHypothesis
      | run index response =>
          cases found : (geoRun net (events ++ later)).threads[index]? with
          | none =>
              rw [(Program.step_run_none found response).1]
              exact inductionHypothesis
          | some routine =>
              obtain ⟨others, whole, -⟩ := Program.exists_others found
              rw [whole] at consistent
              rw [(Program.step_run_some found response).1]
              exact (advance_moves net response _ routine).keeps_point consistent
                inductionHypothesis

/-- Only a call that has passed the marking starts a fetch. -/
theorem geoStarted_countP_le (events : List (PoolEvent Bytes (Option (GeoReply Coord))))
    (ip : Bytes) : (geoStarted net events).countP (Goroutine.isFetch ip) ≤ 1 := by
  have started : (geoStarted net events).countP (fun routine => routine.isFetch ip = true) =
      (geoRun net events).threads.countP (fun routine => routine.isFetch ip = true) := by
    apply Program.countP_log (fun routine => Goroutine.isFetch ip routine = true)
    · exact fun argument => Bool.false_ne_true
    · intro response memory routine
      cases routine <;> rfl
  have fetches := countP_isFetch_le ip ((geoRun net events).threads : Multiset (Goroutine Coord))
  have stages := card_recorded_le (geoRun net events).shared ip
  rw [(consistent_run net events).accounted ip, Multiset.coe_countP, ← started] at fetches
  simp only [Bool.decide_eq_true] at fetches
  exact Nat.le_trans fetches stages

/-- One lookup for each address, seen after some events of a run. -/
structure LooksUpOnce (events : List (PoolEvent Bytes (Option (GeoReply Coord)))) : Prop where
  once : ∀ ip, (geoStarted net events).countP (Goroutine.isFetch ip) ≤ 1
  apart : (geoRun net events).shared.geoMu = false →
    ∀ ip ∈ (geoRun net events).shared.geoInflight, ip ∉ (geoRun net events).shared.geoCache
  inflight_iff : (geoRun net events).shared.geoMu = false →
    ∀ ip, ip ∈ (geoRun net events).shared.geoInflight ↔ Unfinished (geoRun net events).threads ip
  kept : ∀ ip p, (geoRun net events).shared.geoCache.lookup ip = some p →
    ∀ later, (geoRun net (events ++ later)).shared.geoCache.lookup ip = some p
  located : ∀ ip p, .geoLocate ip (.returned p true) ∈ (geoRun net events).threads →
    .fetchGeo ip (.done p) ∈ (geoRun net events).threads ∧
      (geoRun net events).shared.geoCache.lookup ip = some p

/-- **One lookup for each address.** In every interleaving of any calls and the
fetches they start, however the service answers. -/
theorem geoRun_looksUpOnce (events : List (PoolEvent Bytes (Option (GeoReply Coord)))) :
    LooksUpOnce net events := by
  have consistent := consistent_run net events
  refine ⟨geoStarted_countP_le net events, ?_, ?_, ?_, ?_⟩
  · intro free ip inflight
    exact AList.lookup_eq_none.mp (consistent.apart free inflight)
  · exact unfinished_iff consistent
  · exact fun ip p cached later => point_kept net cached later
  · intro ip p returned
    have completed := consistent.relies _ returned rfl
    exact ⟨completed, point_of_done consistent completed⟩

end Runs

end Invariant

/-- One address, asked for by two calls; the second one comes after the fetch. -/
def askedTwice : List (PoolEvent Bytes (Option (GeoReply Int))) :=
  .call (ascii "198.51.100.7") :: List.replicate 6 (.run 0 none) ++
    .run 1 (some ⟨ascii "success", 48, 2⟩) :: List.replicate 4 (.run 1 none) ++
    .call (ascii "198.51.100.7") :: List.replicate 3 (.run 2 none)

example : (geoRun ⟨fun _ => some ⟨false, false⟩, id⟩ askedTwice).threads =
    [.geoLocate (ascii "198.51.100.7") (.returned ⟨0, 0⟩ false),
      .fetchGeo (ascii "198.51.100.7") (.done ⟨48, 2⟩),
      .geoLocate (ascii "198.51.100.7") (.returned ⟨48, 2⟩ true)] := by
  decide +kernel

end CommunityServers.Dashboard
