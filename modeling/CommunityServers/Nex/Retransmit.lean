import CommunityServers.Nex.Handshake

/-!
Contract: timers of sent packets over the lifetime of a connection.

Owns:
- what the end of a timer leads to: the packet is sent again, the connection is
  given up, or nothing;
- connections with SYN, CONNECT, traffic, timers, DISCONNECT and the end of the
  heartbeat in any order, and the managers whose windows were replaced while
  their timers ran;
- that a CONNECT on a connection with a pending packet brings it down when that
  packet's timer has ended often enough, whatever is acknowledged meanwhile.

When a timer ends and when the heartbeat gives up is left open. Timers that are
stopped with their connection find nothing to do and are left out.

Does not own: round trip times and the connection table. A connection that ended
is off that table, so what comes from its client afterwards begins a lifetime of
its own; the events that follow an end here are more than can happen.
-/

set_option autoImplicit false

namespace CommunityServers.Nex

open CommunityServers.Foundation
open PRUDPConnection (TrafficEvent)

/-! ### The end of a timer -/

inductive TimerEnd where
  | nothing
  | resend (packet : PRUDPPacketInterface)
  | cleanup

/-- What a timer's goroutine does once its wait is over. Whether the packet is
pending is looked up by its sequence ID. -/
def TimeoutManager.start (tm : TimeoutManager) (connectionState : Session.ConnectionState)
    (place : Nat) : TimerEnd × TimeoutManager :=
  if place ∈ tm.timers then
    let ended := { tm with timers := tm.timers.erase place }
    match tm.sent[place]? with
    | none => (.nothing, ended)
    | some sent =>
        if connectionState ≠ .connected then (.nothing, ended)
        else if (tm.packets.lookup sent.packet.sequenceID).isSome then
          if sent.sendCount < tm.streamSettings.maxPacketRetransmissions then
            (.resend sent.packet, { ended with
              sent := tm.sent.set place { sent with sendCount := sent.sendCount + 1 }
              timers := place :: ended.timers })
          else (.cleanup, ended)
        else (.nothing, ended)
  else (.nothing, tm)

/-- A pending packet with a timer that brings its connection down after so many
ends at most. -/
structure TimeoutManager.Doomed (place left : Nat) (tm : TimeoutManager) (sent : SentPacket) :
    Prop where
  isSent : tm.sent[place]? = some sent
  pending : (tm.packets.lookup sent.packet.sequenceID).isSome
  timed : place ∈ tm.timers
  soon : tm.streamSettings.maxPacketRetransmissions < sent.sendCount + left

namespace TimeoutManager

variable {tm : TimeoutManager} {sent : SentPacket} {place left another : Nat}

/-- The end of another timer. -/
theorem Doomed.other (doomed : Doomed place left tm sent) (different : another ≠ place)
    (connectionState : Session.ConnectionState) :
    Doomed place left (tm.start connectionState another).2 sent := by
  have timed : place ∈ tm.timers.erase another :=
    (List.mem_erase_of_ne (Ne.symm different)).mpr doomed.timed
  unfold start
  split
  · split
    · exact ⟨doomed.isSent, doomed.pending, timed, doomed.soon⟩
    · split
      · exact ⟨doomed.isSent, doomed.pending, timed, doomed.soon⟩
      · split
        · split
          · refine ⟨?_, doomed.pending, List.mem_cons_of_mem another timed, doomed.soon⟩
            exact (List.getElem?_set_ne different).trans doomed.isSent
          · exact ⟨doomed.isSent, doomed.pending, timed, doomed.soon⟩
        · exact ⟨doomed.isSent, doomed.pending, timed, doomed.soon⟩
  · exact doomed

/-- The end of its own timer: the connection is given up, or the packet was sent
once more. -/
theorem Doomed.self (doomed : Doomed place left tm sent) :
    (tm.start .connected place).1 = .cleanup ∨
      ∃ fewer, left = fewer + 1 ∧ 0 < fewer ∧ Doomed place fewer (tm.start .connected place).2
        { sent with sendCount := sent.sendCount + 1 } := by
  have inside : place < tm.sent.length := (List.getElem?_eq_some_iff.mp doomed.isSent).1
  have soon := doomed.soon
  unfold start
  rw [if_pos doomed.timed, doomed.isSent]
  simp only [ne_eq, not_true_eq_false, if_false, doomed.pending, if_true]
  by_cases again : sent.sendCount < tm.streamSettings.maxPacketRetransmissions
  · right
    rw [if_pos again]
    refine ⟨left - 1, by omega, by omega, ?_, doomed.pending, List.mem_cons_self, ?_⟩
    · exact List.getElem?_set_self inside
    · show tm.streamSettings.maxPacketRetransmissions < sent.sendCount + 1 + (left - 1)
      omega
  · left
    rw [if_neg again]

end TimeoutManager

/-! ### Lifetimes -/

/-- A connection and the managers of windows that were replaced. -/
structure Lifetime where
  connection : PRUDPConnection
  abandoned : List TimeoutManager

inductive LifetimeEvent where
  | traffic (event : TrafficEvent)
  | syn (packet : PRUDPPacketV1)
  | connect (order : List UInt8) (serverTime : Int) (packet : PRUDPPacketV1)
  | disconnect (packet : PRUDPPacketInterface)
  | silence
  | expire (substreamID : UInt8) (place : Nat)
  | expireAbandoned (index place : Nat)

inductive LifetimeOutput where
  | traffic (output : Output)
  | answer (packet : PRUDPPacketV1)
  | resent (packet : PRUDPPacketInterface)
  | ended

namespace PRUDPConnection

/-- The managers of all windows. -/
def managers (pc : PRUDPConnection) : List TimeoutManager :=
  (List.range 256).filterMap fun substreamID =>
    (pc.slidingWindows (UInt8.ofNat substreamID)).map SlidingWindow.timeoutManager

theorem mem_managers {pc : PRUDPConnection} {substreamID : UInt8} {sw : SlidingWindow}
    (window : pc.slidingWindows substreamID = some sw) : sw.timeoutManager ∈ pc.managers := by
  refine List.mem_filterMap.mpr ⟨substreamID.toNat, List.mem_range.mpr substreamID.toNat_lt, ?_⟩
  rw [UInt8.ofNat_toNat, window]
  rfl

/-- What the end of a timer does to the connection. -/
def concluded (pc : PRUDPConnection) : TimerEnd → List LifetimeOutput × PRUDPConnection
  | .nothing => ([], pc)
  | .resend packet => ([.resent packet], pc)
  | .cleanup => ([.ended], pc.reset)

end PRUDPConnection

/-- A CONNECT that is handled replaces the windows without stopping their timers. A
DISCONNECT ends the connection in any state, and so does a heartbeat that nothing
answers. -/
def lifetime (settings : HandshakeSettings) (pep : PRUDPEndPoint) :
    PartialMachine Lifetime LifetimeEvent LifetimeOutput where
  step life
    | .traffic event =>
        ((PRUDPConnection.traffic pep).step life.connection event).map fun stepped =>
          (stepped.1.map .traffic, { life with connection := stepped.2 })
    | .syn packet =>
        let handled := life.connection.handleSyn settings packet
        some ([.answer handled.1], { life with connection := handled.2 })
    | .connect order serverTime packet =>
        (life.connection.handleConnect settings order serverTime packet).map fun handled =>
          ((handled.1.map fun answer => LifetimeOutput.answer answer.1).toList,
            { connection := handled.2
              abandoned :=
                if life.connection.connectionState = .notConnected then life.abandoned
                else life.abandoned ++ life.connection.managers })
    | .disconnect packet =>
        (life.connection.acknowledgeIfNeeded pep.server packet).map fun acknowledged =>
          (acknowledged.1.map (.traffic ∘ .sent) ++ [.ended],
            { life with connection := acknowledged.2.reset })
    | .silence => some ([.ended], { life with connection := life.connection.reset })
    | .expire substreamID place =>
        match life.connection.slidingWindows substreamID with
        | none => some ([], life)
        | some sw =>
            let ended := sw.timeoutManager.start life.connection.connectionState place
            let concluded := (life.connection.setSlidingWindow substreamID
              { sw with timeoutManager := ended.2 }).concluded ended.1
            some (concluded.1, { life with connection := concluded.2 })
    | .expireAbandoned index place =>
        match life.abandoned[index]? with
        | none => some ([], life)
        | some tm =>
            let ended := tm.start life.connection.connectionState place
            let concluded := life.connection.concluded ended.1
            some (concluded.1, ⟨concluded.2, life.abandoned.set index ended.2⟩)

/-- The end of one timer of one abandoned manager. -/
def LifetimeEvent.ends (index place : Nat) : LifetimeEvent → Bool
  | .expireAbandoned otherIndex otherPlace => otherIndex == index && otherPlace == place
  | _ => false

section Abandoned

variable {settings : HandshakeSettings} {pep : PRUDPEndPoint} {life after : Lifetime}
  {outputs : List LifetimeOutput} {index place left : Nat} {tm : TimeoutManager}
  {sent : SentPacket}

open TimeoutManager (Doomed)

/-- Nothing but its own timer touches a packet of an abandoned manager. -/
theorem lifetime_step_other {event : LifetimeEvent} (abandoned : life.abandoned[index]? = some tm)
    (doomed : Doomed place left tm sent) (other : event.ends index place = false)
    (stepped : (lifetime settings pep).step life event = some (outputs, after)) :
    ∃ later, after.abandoned[index]? = some later ∧ Doomed place left later sent := by
  cases event with
  | traffic event =>
      obtain ⟨inner, -, same⟩ := Option.map_eq_some_iff.mp stepped
      obtain ⟨-, rfl⟩ := Prod.mk.inj same
      exact ⟨tm, abandoned, doomed⟩
  | syn packet =>
      obtain ⟨-, rfl⟩ := Prod.mk.inj (Option.some.inj stepped)
      exact ⟨tm, abandoned, doomed⟩
  | connect order serverTime packet =>
      obtain ⟨inner, -, same⟩ := Option.map_eq_some_iff.mp stepped
      obtain ⟨-, rfl⟩ := Prod.mk.inj same
      refine ⟨tm, ?_, doomed⟩
      split
      · exact abandoned
      · exact (List.getElem?_append_left (List.getElem?_eq_some_iff.mp abandoned).1).trans abandoned
  | disconnect packet =>
      obtain ⟨inner, -, same⟩ := Option.map_eq_some_iff.mp stepped
      obtain ⟨-, rfl⟩ := Prod.mk.inj same
      exact ⟨tm, abandoned, doomed⟩
  | silence =>
      obtain ⟨-, rfl⟩ := Prod.mk.inj (Option.some.inj stepped)
      exact ⟨tm, abandoned, doomed⟩
  | expire substreamID otherPlace =>
      unfold lifetime at stepped
      simp only at stepped
      split at stepped
      · obtain ⟨-, rfl⟩ := Prod.mk.inj (Option.some.inj stepped)
        exact ⟨tm, abandoned, doomed⟩
      · obtain ⟨-, rfl⟩ := Prod.mk.inj (Option.some.inj stepped)
        exact ⟨tm, abandoned, doomed⟩
  | expireAbandoned otherIndex otherPlace =>
      unfold lifetime at stepped
      simp only at stepped
      split at stepped
      next =>
        obtain ⟨-, rfl⟩ := Prod.mk.inj (Option.some.inj stepped)
        exact ⟨tm, abandoned, doomed⟩
      next found lookup =>
        obtain ⟨-, rfl⟩ := Prod.mk.inj (Option.some.inj stepped)
        by_cases sameIndex : otherIndex = index
        · subst sameIndex
          obtain rfl := Option.some.inj (lookup.symm.trans abandoned)
          have different : otherPlace ≠ place := by
            rintro rfl
            simp [LifetimeEvent.ends] at other
          have inside := (List.getElem?_eq_some_iff.mp abandoned).1
          exact ⟨_, List.getElem?_set_self inside, doomed.other different _⟩
        · exact ⟨tm, (List.getElem?_set_ne sameIndex).trans abandoned, doomed⟩

/-- Its own timer takes a connection down or comes nearer to it. -/
theorem lifetime_step_own (connected : life.connection.connectionState = .connected)
    (abandoned : life.abandoned[index]? = some tm) (doomed : Doomed place left tm sent)
    (stepped : (lifetime settings pep).step life (.expireAbandoned index place) =
      some (outputs, after)) :
    after.connection.connectionState ≠ .connected ∨
      ∃ fewer later, left = fewer + 1 ∧ 0 < fewer ∧ after.abandoned[index]? = some later ∧
        Doomed place fewer later { sent with sendCount := sent.sendCount + 1 } := by
  unfold lifetime at stepped
  simp only [abandoned, connected] at stepped
  obtain ⟨-, rfl⟩ := Prod.mk.inj (Option.some.inj stepped)
  have inside := (List.getElem?_eq_some_iff.mp abandoned).1
  rcases doomed.self with cleanup | ⟨fewer, same, positive, later⟩
  · left
    rw [cleanup]
    show Session.ConnectionState.notConnected ≠ .connected
    decide
  · exact .inr ⟨fewer, _, same, positive, List.getElem?_set_self inside, later⟩

/-- The connection is not up at some point of a run. -/
def GoesDown (settings : HandshakeSettings) (pep : PRUDPEndPoint) (life : Lifetime)
    (events : List LifetimeEvent) : Prop :=
  ∃ before rest outputs middle, events = before ++ rest ∧
    (lifetime settings pep).run life before = some (outputs, middle) ∧
    middle.connection.connectionState ≠ .connected

theorem GoesDown.cons {event : LifetimeEvent} {events : List LifetimeEvent} {middle : Lifetime}
    (stepped : (lifetime settings pep).step life event = some (outputs, middle))
    (down : GoesDown settings pep middle events) :
    GoesDown settings pep life (event :: events) := by
  obtain ⟨before, rest, later, last, rfl, ran, isDown⟩ := down
  refine ⟨event :: before, rest, outputs ++ later, last, rfl, ?_, isDown⟩
  rw [PartialMachine.run_cons, stepped, Option.bind_some, ran]
  rfl

theorem lifetime_goesDown {events : List LifetimeEvent}
    (abandoned : life.abandoned[index]? = some tm) (doomed : Doomed place left tm sent)
    (positive : 0 < left) (often : left ≤ events.countP (LifetimeEvent.ends index place))
    (ran : (lifetime settings pep).run life events = some (outputs, after)) :
    GoesDown settings pep life events := by
  induction events generalizing life tm sent left outputs after with
  | nil =>
      rw [List.countP_nil] at often
      omega
  | cons event rest inductionHypothesis =>
      by_cases connected : life.connection.connectionState = .connected
      · obtain ⟨⟨first, middle⟩, later, stepped, ranLater, -⟩ :=
          PartialMachine.run_cons_eq_some ran
        refine GoesDown.cons stepped ?_
        cases own : event.ends index place with
        | true =>
            rw [List.countP_cons_of_pos own] at often
            obtain ⟨otherIndex, otherPlace, rfl⟩ : ∃ otherIndex otherPlace,
                event = .expireAbandoned otherIndex otherPlace := by
              cases event with
              | expireAbandoned otherIndex otherPlace => exact ⟨_, _, rfl⟩
              | traffic _ => cases own
              | syn _ => cases own
              | connect _ _ _ => cases own
              | disconnect _ => cases own
              | silence => cases own
              | expire _ _ => cases own
            obtain ⟨rfl, rfl⟩ : otherIndex = index ∧ otherPlace = place := by
              simpa [LifetimeEvent.ends] using own
            rcases lifetime_step_own connected abandoned doomed stepped with
              down | ⟨fewer, next, rfl, stillPositive, abandonedNext, doomedNext⟩
            · exact ⟨[], rest, [], middle, rfl, rfl, down⟩
            · exact inductionHypothesis abandonedNext doomedNext stillPositive (by omega) ranLater
        | false =>
            rw [List.countP_cons_of_neg (by simp [own])] at often
            obtain ⟨next, abandonedNext, doomedNext⟩ :=
              lifetime_step_other abandoned doomed own stepped
            exact inductionHypothesis abandonedNext doomedNext positive often ranLater
      · exact ⟨[], event :: rest, [], life, rfl, rfl, connected⟩

/-- **Abandoned packets.** A CONNECT that comes while a packet of the connection is
pending, whether its ticket is accepted or not, leaves that packet with a timer
that no acknowledgment can stop: when it has ended as often as the packet may
still be sent, and once more, the connection was down in between. -/
theorem lifetime_connect_abandons (settings : HandshakeSettings) (pep : PRUDPEndPoint)
    {substreamID : UInt8} {sw : SlidingWindow}
    (connected : life.connection.connectionState = .connected)
    (window : life.connection.slidingWindows substreamID = some sw)
    (isSent : sw.timeoutManager.sent[place]? = some sent)
    (pending : (sw.timeoutManager.packets.lookup sent.packet.sequenceID).isSome)
    (timed : place ∈ sw.timeoutManager.timers)
    (bounded : sent.sendCount ≤ sw.timeoutManager.streamSettings.maxPacketRetransmissions)
    (order : List UInt8) (serverTime : Int) (packet : PRUDPPacketV1) :
    ∃ index, ∀ events outputs after,
      (lifetime settings pep).run life (.connect order serverTime packet :: events) =
        some (outputs, after) →
      sw.timeoutManager.streamSettings.maxPacketRetransmissions <
        sent.sendCount + events.countP (LifetimeEvent.ends index place) →
      GoesDown settings pep life (.connect order serverTime packet :: events) := by
  obtain ⟨position, found⟩ := List.mem_iff_getElem?.mp (PRUDPConnection.mem_managers window)
  refine ⟨life.abandoned.length + position, fun events outputs after ran often => ?_⟩
  obtain ⟨⟨first, middle⟩, later, stepped, ranLater, -⟩ := PartialMachine.run_cons_eq_some ran
  have abandoned : middle.abandoned[life.abandoned.length + position]? =
      some sw.timeoutManager := by
    obtain ⟨handled, -, same⟩ := Option.map_eq_some_iff.mp stepped
    obtain ⟨-, rfl⟩ := Prod.mk.inj same
    have up : life.connection.connectionState ≠ .notConnected := by
      rw [connected]
      decide
    simp only [if_neg up]
    rw [List.getElem?_append_right (Nat.le_add_right _ _), Nat.add_sub_cancel_left]
    exact found
  refine GoesDown.cons stepped
    (lifetime_goesDown abandoned ⟨isSent, pending, timed, often⟩ ?_ le_rfl ranLater)
  omega

/-- A window that waits for the acknowledgment of one packet. -/
def sampleWindow : SlidingWindow :=
  { PRUDPConnection.sampleRunning.newSlidingWindow with
    timeoutManager :=
      TimeoutManager.new.schedulePacketTimeout ⟨PRUDPConnection.sampleMessage, 1⟩ }

def sampleBusy : Lifetime :=
  ⟨PRUDPConnection.sampleRunning.setSlidingWindow 0 sampleWindow, []⟩

/-- Timers of abandoned managers may end at any time. -/
theorem lifetime_run_timerEnds (settings : HandshakeSettings) (pep : PRUDPEndPoint)
    (index place count : Nat) (life : Lifetime) :
    ∃ result, (lifetime settings pep).run life
      (List.replicate count (.expireAbandoned index place)) = some result := by
  induction count generalizing life with
  | zero => exact ⟨([], life), rfl⟩
  | succ count inductionHypothesis =>
      obtain ⟨first, stepped⟩ : ∃ first,
          (lifetime settings pep).step life (.expireAbandoned index place) = some first := by
        unfold lifetime
        simp only
        split <;> exact ⟨_, rfl⟩
      obtain ⟨later, ran⟩ := inductionHypothesis first.2
      rw [List.replicate_succ, PartialMachine.run_cons, stepped, Option.bind_some, ran]
      exact ⟨_, rfl⟩

/-- A CONNECT that is refused, and then the timer of the packet twenty times. -/
theorem lifetime_connect_abandons_sample :
    ∃ index result,
      (lifetime PRUDPConnection.sampleSettings PRUDPConnection.sampleEndPoint).run sampleBusy
        (.connect [0] 0 PRUDPPacketV1.blank ::
          List.replicate 20 (.expireAbandoned index 0)) = some result ∧
      GoesDown PRUDPConnection.sampleSettings PRUDPConnection.sampleEndPoint sampleBusy
        (.connect [0] 0 PRUDPPacketV1.blank :: List.replicate 20 (.expireAbandoned index 0)) := by
  have window : sampleBusy.connection.slidingWindows 0 = some sampleWindow := rfl
  have isSent : sampleWindow.timeoutManager.sent[0]? =
      some ⟨PRUDPConnection.sampleMessage, 1⟩ := rfl
  obtain ⟨index, down⟩ := lifetime_connect_abandons PRUDPConnection.sampleSettings
    PRUDPConnection.sampleEndPoint rfl window isSent (by decide) (by decide) (by decide) [0] 0
    PRUDPPacketV1.blank
  have refused : ((lifetime PRUDPConnection.sampleSettings PRUDPConnection.sampleEndPoint).step
      sampleBusy (.connect [0] 0 PRUDPPacketV1.blank)).isSome := rfl
  obtain ⟨first, stepped⟩ := Option.isSome_iff_exists.mp refused
  obtain ⟨later, ran⟩ := lifetime_run_timerEnds PRUDPConnection.sampleSettings
    PRUDPConnection.sampleEndPoint index 0 20 first.2
  have whole : (lifetime PRUDPConnection.sampleSettings PRUDPConnection.sampleEndPoint).run
      sampleBusy (.connect [0] 0 PRUDPPacketV1.blank ::
        List.replicate 20 (.expireAbandoned index 0)) =
      some (first.1 ++ later.1, later.2) := by
    rw [PartialMachine.run_cons, stepped, Option.bind_some, ran]
    rfl
  have often : List.countP (LifetimeEvent.ends index 0)
      (List.replicate 20 (.expireAbandoned index 0)) = 20 := by
    simp [LifetimeEvent.ends]
  refine ⟨index, _, whole, down _ _ _ whole ?_⟩
  rw [often]
  decide

end Abandoned

end CommunityServers.Nex
