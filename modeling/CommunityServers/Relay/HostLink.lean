import CommunityServers.Relay.Handlers
import CommunityServers.Station.Moved

/-!
Contract: a host and a joiner are relayed at both ends or at neither.

Owns:
- when a station handed out is read at the relay's address, and when it is read
  as it was;
- the condition on a call under which the stations it hands out for one pair
  are all read at the endpoints of the pair's link, and the one under which they
  are all read as they were, with the result for runs of either kind;
- the table in which the two handlers take different consoles for the host.

`relayGetSessionURLs` takes the host of the gathering it is asked for,
`relayRequestProbeInitiationExt` that of the caller's newest gathering.

Does not own: pairs of joiners, and what is sent over a link.
-/

set_option autoImplicit false

namespace CommunityServers.Relay

open CommunityServers.Foundation
open CommunityServers.Station

/-! ### All or nothing -/

/-- Both consoles of the pair, one as the owner and one as the receiver. -/
def SamePair (p q a b : PID) : Prop := (p = a ∧ q = b) ∨ (p = b ∧ q = a)

instance (p q a b : PID) : Decidable (SamePair p q a b) := inferInstanceAs (Decidable (_ ∨ _))

namespace Handout

/-- The station is read at the endpoint of the link for its owner. -/
structure Relayed (l : RelayLink) (handout : Handout) : Prop where
  address : (newStationURL handout.url).address = some l.host
  port : (newStationURL handout.url).portNumber = some (l.endpointFor handout.owner)

/-- The station is read at the address that it had. -/
structure Direct (handout : Handout) : Prop where
  address : (newStationURL handout.url).address = handout.station.address
  port : (newStationURL handout.url).portNumber = handout.station.portNumber

end Handout

/-- What was handed out for the pair is either all at the endpoints of the one
link that the manager holds for it, or all direct. -/
def AllOrNothing (a b : PID) (rm : RelayManager) (handouts : List Handout) : Prop :=
  (∃ l, rm.links.lookup (pairKey a b) = some l ∧
    ∀ handout ∈ handouts, SamePair handout.owner handout.receiver a b → handout.Relayed l) ∨
  ∀ handout ∈ handouts, SamePair handout.owner handout.receiver a b → handout.Direct

/-! ### When a call relays -/

/-- The one gathering with the largest id among those that `pid` is in. -/
@[mk_iff]
structure Newest (gatherings : List Gathering) (pid : PID) (gathering : Gathering) : Prop where
  member : gathering ∈ gatherings
  joined : pid ∈ gathering.participants
  newest : ∀ other ∈ gatherings, pid ∈ other.participants →
    other = gathering ∨ other.id < gathering.id

instance (gatherings : List Gathering) (pid : PID) : DecidablePred (Newest gatherings pid) :=
  fun gathering => decidable_of_iff' _ (newest_iff gatherings pid gathering)

/-- The query of the call is answered, and one of the two hosts the caller's newest
gathering. -/
def HostLinked (world : World) (answered : Bool) (callerPID targetPID : PID) : Prop :=
  answered = true ∧ ∃ gathering ∈ world.gatherings, Newest world.gatherings callerPID gathering ∧
    gathering.hostPID ≠ 0 ∧ (callerPID = gathering.hostPID ∨ targetPID = gathering.hostPID)

instance (world : World) (answered : Bool) (callerPID targetPID : PID) :
    Decidable (HostLinked world answered callerPID targetPID) :=
  inferInstanceAs (Decidable (_ ∧ _))

/-- A station that can carry the link's address and its port for the owner. -/
@[mk_iff]
structure Carried (l : RelayLink) (owner : PID) (station : StationURL) : Prop where
  known : station.urlType ≠ .unknown
  short : l.host.length ≤ 256
  noSemicolon : 59 ∉ l.host
  noHash : 35 ∉ l.host
  moves : MovesExactly station l.host (l.endpointFor owner)

instance (l : RelayLink) (owner : PID) : DecidablePred (Carried l owner) := fun station =>
  decidable_of_iff' _ (carried_iff l owner station)

/-- What holds of every station that a call of `relayGetSessionURLs` hands out for
the pair, with the host and with the station as it was copied. -/
def ForSession (world : World) (a b callerPID : PID) (found : Option Gathering)
    (orders : Nat → Iteration × Iteration) (condition : PID → StationURL → Prop) : Prop :=
  ∀ gathering ∈ found, SamePair gathering.hostPID callerPID a b →
    ∀ host ∈ findConnectionByPID world.connections gathering.hostPID,
      ∀ ru ∈ host.stationURLs.mapIdx fun index u => u.copy (orders index).1,
        condition gathering.hostPID ru

/-- What holds of every target in the pair that is sent a station. -/
def ForTarget (world : World) (a b callerPID : PID) (target : ProbeTarget)
    (condition : PID → Prop) : Prop :=
  ∀ t ∈ target.connection world.connections,
    t.defaultPRUDPVersion = 0 ∨ t.defaultPRUDPVersion = 1 → SamePair callerPID t.pid a b →
      condition t.pid

section Guards

variable (parseIP : Bytes → Option Bytes) (world : World) (a b : PID)

/-- The call's link is there, and the station can carry its address; for a probe the
two are on a host link as well. -/
def ProbeRelays (answered : Bool) (callerPID : PID) (stationToProbe : Bytes)
    (rm : RelayManager) (target : ProbeTarget) : Prop :=
  ForTarget world a b callerPID target fun targetPID =>
    HostLinked world answered callerPID targetPID ∧
      ∃ l ∈ (rm.link parseIP callerPID targetPID target.listenA target.listenB).link,
        Carried l callerPID (newStationURL stationToProbe)

def PairRelays (rm : RelayManager) : Call → Prop
  | .getSessionURLs callerPID gid findGatheringByID listenA listenB orders =>
      ForSession world a b callerPID (findGatheringByID gid) orders fun hostPID ru =>
        ∃ l ∈ (rm.link parseIP hostPID callerPID listenA listenB).link, Carried l hostPID ru
  | .requestProbeInitiationExt callerPID answered targetList stationToProbe =>
      (probeMachine parseIP world.connections
          (gatheringHostForPID (world.database answered) callerPID) callerPID
          stationToProbe).Guarded
        (ProbeRelays parseIP world a b answered callerPID stationToProbe) rm targetList

/-- The call has no link, or for a probe the two are not on a host link. -/
def ProbeDirect (answered : Bool) (callerPID : PID) (rm : RelayManager)
    (target : ProbeTarget) : Prop :=
  ForTarget world a b callerPID target fun targetPID =>
    HostLinked world answered callerPID targetPID →
      (rm.link parseIP callerPID targetPID target.listenA target.listenB).link = none

def PairDirect (rm : RelayManager) : Call → Prop
  | .getSessionURLs callerPID gid findGatheringByID listenA listenB orders =>
      ForSession world a b callerPID (findGatheringByID gid) orders fun hostPID ru =>
        (rm.link parseIP hostPID callerPID listenA listenB).link = none ∧ Writable ru
  | .requestProbeInitiationExt callerPID answered targetList stationToProbe =>
      (probeMachine parseIP world.connections
          (gatheringHostForPID (world.database answered) callerPID) callerPID
          stationToProbe).Guarded
        (ProbeDirect parseIP world a b answered callerPID) rm targetList

instance (rm : RelayManager) : DecidablePred (PairRelays parseIP world a b rm) := fun call => by
  unfold PairRelays ProbeRelays ForSession ForTarget
  split <;> infer_instance

instance (rm : RelayManager) : DecidablePred (PairDirect parseIP world a b rm) := fun call => by
  unfold PairDirect ProbeDirect ForSession ForTarget
  split <;> infer_instance

end Guards

/-! ### The newest gathering -/

theorem newestRow_eq_some_iff {gatherings : List Gathering}
    (distinct : (gatherings.map Gathering.id).Nodup) (pid : PID) (gathering : Gathering) :
    newestRow gatherings pid = some gathering ↔ Newest gatherings pid gathering := by
  have inside : ∀ other, other ∈ gatherings.filter (fun gathering =>
      gathering.participants.contains pid) ↔ other ∈ gatherings ∧ pid ∈ other.participants := by
    intro other
    rw [List.mem_filter, List.contains_iff_mem]
  unfold newestRow
  constructor
  · intro head
    obtain ⟨joined, largest⟩ := sortByKey_head? _ head
    obtain ⟨member, joined⟩ := (inside gathering).mp joined
    refine ⟨member, joined, fun other listed inOther => ?_⟩
    have atMost : other.id.toNat ≤ gathering.id.toNat :=
      largest other ((inside other).mpr ⟨listed, inOther⟩)
    rcases Nat.lt_or_eq_of_le atMost with smaller | same
    · exact Or.inr (UInt32.lt_iff_toNat_lt.mpr smaller)
    · exact Or.inl (List.inj_on_of_nodup_map distinct listed member (UInt32.toNat.inj same))
  · intro newest
    have listed := (inside gathering).mpr ⟨newest.member, newest.joined⟩
    rcases head : (sortByKey (fun gathering => OrderDual.toDual gathering.id.toNat)
      (gatherings.filter fun gathering => gathering.participants.contains pid)).head? with
        _ | first
    · have sorted := (sortByKey_perm (fun gathering => OrderDual.toDual gathering.id.toNat)
        (gatherings.filter fun gathering => gathering.participants.contains pid)).mem_iff.mpr
          listed
      rw [List.head?_eq_none_iff.mp head] at sorted
      cases sorted
    · obtain ⟨joined, largest⟩ := sortByKey_head? _ head
      obtain ⟨member, joined⟩ := (inside first).mp joined
      have atLeast : gathering.id.toNat ≤ first.id.toNat := largest gathering listed
      rcases newest.newest first member joined with same | smaller
      · exact head.trans (congrArg some same)
      · exact absurd (UInt32.lt_iff_toNat_lt.mp smaller) (Nat.not_lt.mpr atLeast)

theorem isHostLink_iff (world : World) (answered : Bool) (callerPID targetPID : PID) :
    isHostLink (gatheringHostForPID (world.database answered) callerPID) callerPID targetPID =
        true ↔ HostLinked world answered callerPID targetPID := by
  unfold HostLinked
  have row := newestRow_eq_some_iff world.distinct callerPID
  cases answered with
  | false =>
      show isHostLink 0 callerPID targetPID = true ↔ _
      simp [isHostLink]
  | true =>
      unfold gatheringHostForPID World.database
      rw [if_pos rfl, Option.bind_some]
      rcases found : newestRow world.gatherings callerPID with _ | gathering
      · constructor
        · intro linked
          simp [isHostLink] at linked
        · rintro ⟨-, gathering, -, newest, -⟩
          rw [(row gathering).mpr newest] at found
          cases found
      · have newest := (row gathering).mp found
        constructor
        · intro linked
          simp only [isHostLink, Bool.and_eq_true, bne_iff_ne, Bool.or_eq_true,
            beq_iff_eq] at linked
          exact ⟨rfl, gathering, newest.member, newest, linked⟩
        · rintro ⟨-, other, -, isNewest, known, hosts⟩
          rw [(row other).mpr isNewest] at found
          obtain rfl := Option.some.inj found
          simp [isHostLink, known, hosts]

/-! ### What a call hands out -/

section Handouts

variable {parseIP : Bytes → Option Bytes} {world : World} {rm : RelayManager} {a b : PID}

/-- A station that `relayGetSessionURLs` hands out is one of the host's, and the
manager has been asked for the link. -/
theorem getSessionURLs_handout {callerPID : PID} {gid : UInt32} {findGatheringByID : Lookup}
    {listenA listenB : Option Nat} {orders : Nat → Iteration × Iteration} {handout : Handout}
    (member : handout ∈ (handlerMachine parseIP world).emit rm
      (.getSessionURLs callerPID gid findGatheringByID listenA listenB orders)) :
    ∃ gathering ∈ findGatheringByID gid,
      ∃ host ∈ findConnectionByPID world.connections gathering.hostPID,
        ∃ index u, u.copy (orders index).1 ∈
            host.stationURLs.mapIdx (fun index u => u.copy (orders index).1) ∧
          handout = sessionURL (rm.link parseIP gathering.hostPID callerPID listenA listenB).link
            gathering.hostPID callerPID u (orders index) ∧
          (handlerMachine parseIP world).step rm
              (.getSessionURLs callerPID gid findGatheringByID listenA listenB orders) =
            (rm.link parseIP gathering.hostPID callerPID listenA listenB).manager := by
  dsimp only [handlerMachine, handle, relayGetSessionURLs] at member ⊢
  rw [if_neg Bool.false_ne_true] at member ⊢
  rcases asked : findGatheringByID gid with _ | gathering
  · rw [asked] at member
    cases member
  rw [asked] at member
  dsimp only at member ⊢
  rcases found : findConnectionByPID world.connections gathering.hostPID with _ | host
  · rw [found] at member
    cases member
  rw [found] at member
  obtain ⟨index, inside, rfl⟩ := List.mem_mapIdx.mp member
  exact ⟨gathering, rfl, host, found, index, host.stationURLs[index],
    List.mem_mapIdx.mpr ⟨index, inside, rfl⟩, rfl, rfl⟩

theorem getSessionURLs_keeps {key : Bytes} {l : RelayLink}
    (stored : rm.links.lookup key = some l) (callerPID : PID) (gid : UInt32)
    (findGatheringByID : Lookup) (listenA listenB : Option Nat)
    (orders : Nat → Iteration × Iteration) :
    ((handlerMachine parseIP world).step rm
      (.getSessionURLs callerPID gid findGatheringByID listenA listenB orders)).links.lookup key =
        some l := by
  dsimp only [handlerMachine, handle, relayGetSessionURLs]
  rw [if_neg Bool.false_ne_true]
  split
  · exact stored
  · split
    · exact stored
    · exact link_keeps parseIP stored _ callerPID listenA listenB

/-- The station sent to a target, and the manager after it. -/
theorem probeTarget_handout {hostPID callerPID : PID} {stationToProbe : Bytes}
    {target : ProbeTarget} {handout : Handout}
    (member : handout ∈
      (probeTarget parseIP world.connections hostPID callerPID stationToProbe rm target).2) :
    ∃ t ∈ target.connection world.connections,
      (t.defaultPRUDPVersion = 0 ∨ t.defaultPRUDPVersion = 1) ∧
        handout = ⟨callerPID, t.pid, newStationURL stationToProbe,
          (perTargetStation parseIP hostPID callerPID t.pid stationToProbe rm target).2⟩ ∧
        (probeTarget parseIP world.connections hostPID callerPID stationToProbe rm target).1 =
          (perTargetStation parseIP hostPID callerPID t.pid stationToProbe rm target).1 := by
  unfold probeTarget at member ⊢
  rcases named : target.connection world.connections with _ | t
  · rw [named] at member
    cases member
  rw [named] at member
  dsimp only at member ⊢
  split at member
  next version =>
    exact ⟨t, rfl, version, List.mem_singleton.mp member, by rw [if_pos version]⟩
  next => cases member

theorem probeTarget_keeps {key : Bytes} {l : RelayLink}
    (stored : rm.links.lookup key = some l) (connections : List Connection)
    (hostPID callerPID : PID) (stationToProbe : Bytes) (target : ProbeTarget) :
    (probeTarget parseIP connections hostPID callerPID stationToProbe rm
      target).1.links.lookup key = some l := by
  have sent : ∀ targetPID, (perTargetStation parseIP hostPID callerPID targetPID stationToProbe
      rm target).1.links.lookup key = some l := by
    intro targetPID
    unfold perTargetStation
    split
    · exact link_keeps parseIP stored callerPID targetPID target.listenA target.listenB
    · exact stored
  unfold probeTarget
  split
  · exact stored
  · dsimp only
    split
    · exact sent _
    · exact sent _

/-! ### Relayed -/

/-- From one manager to a later one: stored links stay, and what was handed out
for the pair in between is read at the link that the later one holds. -/
structure Agrees (a b : PID) (before after : RelayManager) (handouts : List Handout) : Prop where
  keeps : ∀ key l, before.links.lookup key = some l → after.links.lookup key = some l
  relayed : ∀ handout ∈ handouts, SamePair handout.owner handout.receiver a b →
    ∃ l, after.links.lookup (pairKey a b) = some l ∧ handout.Relayed l

theorem agrees_nothing (a b : PID) (rm : RelayManager) : Agrees a b rm rm [] :=
  ⟨fun _ _ stored => stored, fun _ member => absurd member List.not_mem_nil⟩

theorem Agrees.trans {first second third : RelayManager} {early late : List Handout}
    (before : Agrees a b first second early) (after : Agrees a b second third late) :
    Agrees a b first third (early ++ late) where
  keeps key l stored := after.keeps key l (before.keeps key l stored)
  relayed handout member pair := by
    rcases List.mem_append.mp member with inEarly | inLate
    · obtain ⟨l, stored, relayed⟩ := before.relayed handout inEarly pair
      exact ⟨l, after.keeps _ l stored, relayed⟩
    · exact after.relayed handout inLate pair

/-- A run of steps that agree agrees. -/
theorem agrees_run {Event : Type} {machine : Machine RelayManager Event Handout}
    {guard : RelayManager → Event → Prop}
    (agrees : ∀ rm event, guard rm event →
      Agrees a b rm (machine.step rm event) (machine.emit rm event))
    {start : RelayManager} (events : List Event) (guarded : machine.Guarded guard start events) :
    Agrees a b start (machine.exec start events) (machine.log start events) := by
  apply machine.history_rule
    (fun events reached => Agrees a b start reached (machine.log start events))
    (agrees_nothing a b start) _ events guarded
  intro events event before passed
  rw [Machine.log_append_singleton]
  exact before.trans (agrees _ event passed)

theorem rewrite_relayed {l : RelayLink} {owner : PID} {text : Bytes}
    (carried : Carried l owner (newStationURL text)) (receiver : PID) (original : StationURL)
    (order : Iteration) :
    Handout.Relayed l ⟨owner, receiver, original,
      (l.rewrite owner (newStationURL text)).URL order⟩ := by
  obtain ⟨address, port⟩ := carried.moves.read carried.known carried.short carried.noSemicolon
    carried.noHash order
  exact ⟨address, port⟩

theorem probeTarget_agrees {answered : Bool} {callerPID : PID} {stationToProbe : Bytes}
    {target : ProbeTarget}
    (relays : ProbeRelays parseIP world a b answered callerPID stationToProbe rm target) :
    Agrees a b rm
      (probeTarget parseIP world.connections
        (gatheringHostForPID (world.database answered) callerPID) callerPID stationToProbe rm
        target).1
      (probeTarget parseIP world.connections
        (gatheringHostForPID (world.database answered) callerPID) callerPID stationToProbe rm
        target).2 where
  keeps key l stored := probeTarget_keeps stored _ _ _ _ _
  relayed handout member pair := by
    obtain ⟨t, named, version, rfl, after⟩ := probeTarget_handout member
    obtain ⟨hostLinked, l, linked, carried⟩ := relays t named version pair
    rw [← isHostLink_iff] at hostLinked
    have success : (rm.link parseIP callerPID t.pid target.listenA target.listenB).link =
      some l := linked
    rw [after, ← pairKey_eq_iff.mpr pair]
    unfold perTargetStation
    rw [if_pos hostLinked]
    refine ⟨l, link_stores parseIP success, ?_⟩
    dsimp only
    rw [success]
    exact rewrite_relayed carried _ _ _

/-- One call that relays the pair agrees. -/
theorem call_agrees {call : Call} (relays : PairRelays parseIP world a b rm call) :
    Agrees a b rm ((handlerMachine parseIP world).step rm call)
      ((handlerMachine parseIP world).emit rm call) := by
  cases call with
  | getSessionURLs callerPID gid findGatheringByID listenA listenB orders =>
      refine ⟨fun key l stored => getSessionURLs_keeps stored _ _ _ _ _ _, ?_⟩
      intro handout member pair
      obtain ⟨gathering, asked, host, found, index, u, copied, rfl, after⟩ :=
        getSessionURLs_handout member
      obtain ⟨l, linked, carried⟩ := relays gathering asked pair host found _ copied
      have success : (rm.link parseIP gathering.hostPID callerPID listenA listenB).link =
        some l := linked
      rw [after, ← pairKey_eq_iff.mpr pair]
      refine ⟨l, link_stores parseIP success, ?_⟩
      rw [success]
      exact rewrite_relayed carried _ _ _
  | requestProbeInitiationExt callerPID answered targetList stationToProbe =>
      exact agrees_run (fun _ _ passed => probeTarget_agrees passed) targetList relays

theorem Agrees.allOrNothing {before after : RelayManager} {handouts : List Handout}
    (agrees : Agrees a b before after handouts) : AllOrNothing a b after handouts := by
  rcases stored : after.links.lookup (pairKey a b) with _ | l
  · apply Or.inr
    intro handout member pair
    obtain ⟨l, found, -⟩ := agrees.relayed handout member pair
    rw [stored] at found
    cases found
  · refine Or.inl ⟨l, stored, fun handout member pair => ?_⟩
    obtain ⟨held, found, relayed⟩ := agrees.relayed handout member pair
    rw [stored] at found
    obtain rfl := Option.some.inj found
    exact relayed

/-! ### Direct -/

/-- What is handed out for the pair is read as it was. -/
def AllDirect (a b : PID) (handouts : List Handout) : Prop :=
  ∀ handout ∈ handouts, SamePair handout.owner handout.receiver a b → handout.Direct

theorem direct_run {Event : Type} {machine : Machine RelayManager Event Handout}
    {guard : RelayManager → Event → Prop}
    (direct : ∀ rm event, guard rm event → AllDirect a b (machine.emit rm event))
    {start : RelayManager} (events : List Event) (guarded : machine.Guarded guard start events) :
    AllDirect a b (machine.log start events) := by
  apply machine.history_rule (fun events _ => AllDirect a b (machine.log start events))
    (fun _ member => absurd member List.not_mem_nil) _ events guarded
  intro events event before passed handout member
  rw [Machine.log_append_singleton, List.mem_append] at member
  rcases member with early | late
  · exact before handout early
  · exact direct _ event passed handout late

theorem probeTarget_direct {answered : Bool} {callerPID : PID} {stationToProbe : Bytes}
    {target : ProbeTarget} (passes : ProbeDirect parseIP world a b answered callerPID rm target) :
    AllDirect a b (probeTarget parseIP world.connections
      (gatheringHostForPID (world.database answered) callerPID) callerPID stationToProbe rm
      target).2 := by
  intro handout member pair
  obtain ⟨t, named, version, rfl, -⟩ := probeTarget_handout member
  have unchanged : (perTargetStation parseIP
      (gatheringHostForPID (world.database answered) callerPID) callerPID t.pid stationToProbe rm
      target).2 = stationToProbe := by
    unfold perTargetStation
    split
    next hostLink =>
      have failed := passes t named version pair ((isHostLink_iff _ _ _ _).mp hostLink)
      dsimp only
      rw [failed]
    next => rfl
  rw [unchanged]
  exact ⟨rfl, rfl⟩

theorem call_direct {call : Call} (passes : PairDirect parseIP world a b rm call) :
    AllDirect a b ((handlerMachine parseIP world).emit rm call) := by
  cases call with
  | getSessionURLs callerPID gid findGatheringByID listenA listenB orders =>
      intro handout member pair
      obtain ⟨gathering, asked, host, found, index, u, copied, rfl, -⟩ :=
        getSessionURLs_handout member
      obtain ⟨failed, writable⟩ := passes gathering asked pair host found _ copied
      rw [failed]
      -- what is sent is read as a copy of the copy
      have same := writable.whole.copy_sameParams (orders index).2
      exact ⟨same.paramValue_eq (ascii "address"), same.portNumber_eq⟩
  | requestProbeInitiationExt callerPID answered targetList stationToProbe =>
      exact direct_run (fun _ _ passed => probeTarget_direct passed) targetList passes

end Handouts

/-! ### Runs -/

/-- Along every run of calls that can all relay the pair, and along every run in
which none of them does, the stations handed out for it are all read at the
endpoints of one link or all read as they were. -/
theorem relaying_run_allOrNothing (parseIP : Bytes → Option Bytes) (world : World) (a b : PID)
    (start : RelayManager) (calls : List Call)
    (guarded :
      (handlerMachine parseIP world).Guarded (PairRelays parseIP world a b) start calls ∨
        (handlerMachine parseIP world).Guarded (PairDirect parseIP world a b) start calls) :
    AllOrNothing a b ((handlerMachine parseIP world).exec start calls)
      ((handlerMachine parseIP world).log start calls) := by
  rcases guarded with relaying | passing
  · exact (agrees_run (fun _ _ relays => call_agrees relays) calls relaying).allOrNothing
  · exact Or.inr (direct_run (fun _ _ passes => call_direct passes) calls passing)

/-! ### Three runs -/

def storedOrders : Nat → Iteration × Iteration := fun _ => (Iteration.stored, Iteration.stored)

/-- Console 1 hosts and console 2 has joined. -/
def oneRoom : World where
  gatherings := [⟨1, 1, [1, 2]⟩]
  connections :=
    [⟨10, 1, true, 1, [newStationURL (ascii "prudp:/address=192.0.2.1;port=6000")]⟩,
      ⟨20, 2, true, 1, []⟩]
  distinct := by decide

/-- Console 2 has since joined a gathering of console 3 as well. -/
def secondRoom : World where
  gatherings := [⟨1, 1, [1, 2]⟩, ⟨2, 3, [3, 2]⟩]
  connections := oneRoom.connections
  distinct := by decide

/-- Console 2 asks for gathering 1, which is found. -/
def joinCall (listen : Option Nat) : Call :=
  .getSessionURLs 2 1 (fun gid => if gid = 1 then some ⟨1, 1, [1, 2]⟩ else none) listen
    (some 50001) storedOrders

def probeHost (answered : Bool) : Call :=
  .requestProbeInitiationExt 2 answered
    [⟨ascii "prudp:/RVCID=10", some 50002, some 50003, Iteration.stored⟩]
    (ascii "prudp:/address=192.0.2.2;port=6001")

def probeJoiner (answered : Bool) : Call :=
  .requestProbeInitiationExt 1 answered
    [⟨ascii "prudp:/RVCID=20", some 50004, some 50005, Iteration.stored⟩]
    (ascii "prudp:/address=192.0.2.1;port=6000")

def freshRelay : RelayManager := newRelayManager (ascii "198.51.100.9")

/-- Every call relays the two. -/
def relayedCalls : List Call := [joinCall (some 50000), probeHost true, probeJoiner true]

/-- The first socket does not open, and no query is answered. -/
def directCalls : List Call := [joinCall none, probeHost false, probeJoiner false]

theorem oneRoom_allOrNothing :
    AllOrNothing 1 2 ((handlerMachine (fun _ => none) oneRoom).exec freshRelay relayedCalls)
        ((handlerMachine (fun _ => none) oneRoom).log freshRelay relayedCalls) ∧
      AllOrNothing 1 2 ((handlerMachine (fun _ => none) oneRoom).exec freshRelay directCalls)
        ((handlerMachine (fun _ => none) oneRoom).log freshRelay directCalls) := by
  have relaying : (handlerMachine (fun _ => none) oneRoom).Guarded
      (PairRelays (fun _ => none) oneRoom 1 2) freshRelay relayedCalls := by
    decide +kernel
  have passing : (handlerMachine (fun _ => none) oneRoom).Guarded
      (PairDirect (fun _ => none) oneRoom 1 2) freshRelay directCalls := by
    decide +kernel
  exact ⟨relaying_run_allOrNothing _ oneRoom 1 2 freshRelay _ (Or.inl relaying),
    relaying_run_allOrNothing _ oneRoom 1 2 freshRelay _ (Or.inr passing)⟩

/-- Both calls find the tables as they are, and every socket opens. -/
def secondCalls : List Call := [joinCall (some 50000), probeHost true]

/-- The pair, the address a station is read at, and the address it had. -/
def Handout.summary (handout : Handout) : PID × PID × Option Bytes × Option Bytes :=
  (handout.owner, handout.receiver, (newStationURL handout.url).address, handout.station.address)

theorem secondRoom_summaries :
    ((handlerMachine (fun _ => none) secondRoom).log freshRelay secondCalls).map
        Handout.summary =
      [(1, 2, some (ascii "198.51.100.9"), some (ascii "192.0.2.1")),
        (2, 1, some (ascii "192.0.2.2"), some (ascii "192.0.2.2"))] := by
  decide +kernel

/-- The newest gathering of console 2 is not hosted by console 1, so console 1
is given a direct address while console 2 was given the relay's. -/
theorem secondRoom_not_allOrNothing :
    ¬ AllOrNothing 1 2
      ((handlerMachine (fun _ => none) secondRoom).exec freshRelay secondCalls)
      ((handlerMachine (fun _ => none) secondRoom).log freshRelay secondCalls) := by
  obtain ⟨hosted, rest, handouts, hostedSummary, restSummary⟩ :=
    List.map_eq_cons_iff.mp secondRoom_summaries
  obtain ⟨joined, others, rfl, joinedSummary, -⟩ := List.map_eq_cons_iff.mp restSummary
  simp only [Handout.summary, Prod.mk.injEq] at hostedSummary joinedSummary
  obtain ⟨hostedOwner, hostedReceiver, hostedAddress, hostedStation⟩ := hostedSummary
  obtain ⟨joinedOwner, joinedReceiver, joinedAddress, -⟩ := joinedSummary
  have hostedPair : SamePair hosted.owner hosted.receiver 1 2 :=
    Or.inl ⟨hostedOwner, hostedReceiver⟩
  have joinedPair : SamePair joined.owner joined.receiver 1 2 :=
    Or.inr ⟨joinedOwner, joinedReceiver⟩
  rw [handouts]
  rintro (⟨l, -, relayed⟩ | direct)
  · have first := (relayed hosted (by simp) hostedPair).address
    have second := (relayed joined (by simp) joinedPair).address
    rw [← second, hostedAddress, joinedAddress] at first
    revert first
    decide
  · have first := (direct hosted (by simp) hostedPair).address
    rw [hostedAddress, hostedStation] at first
    revert first
    decide

end CommunityServers.Relay
