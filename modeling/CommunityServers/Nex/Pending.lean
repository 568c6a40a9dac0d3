import CommunityServers.Nex.Retransmit

/-!
Contract: pending packets over the lifetime of a connection.

Owns:
- properties of managers that every operation of a connection keeps;
- that no packet is ever sent more than twenty times, whatever the endpoint's
  settings say, as each manager has settings of its own;
- that on a connection that is up every pending packet has a timer whose end sends
  it again or gives the connection up.

Does not own: when timers end, and the managers of windows that were replaced.
-/

set_option autoImplicit false

namespace CommunityServers.Nex

open CommunityServers.Foundation
open PRUDPConnection (TrafficEvent)

namespace TimeoutManager

/-- A property that new managers have and that scheduling and acknowledging keep. -/
structure Stable (property : TimeoutManager → Prop) : Prop where
  new : property TimeoutManager.new
  schedule : ∀ {tm} (packet : PRUDPPacketInterface), property tm →
    property (tm.schedulePacketTimeout ⟨packet, 1⟩)
  acknowledge : ∀ {tm} (sequenceID : UInt16), property tm →
    property (tm.acknowledgePacket sequenceID)

theorem Stable.acknowledgeAll {property : TimeoutManager → Prop} (stable : Stable property)
    {tm : TimeoutManager} (holds : property tm) (sequenceIDs : List UInt16) :
    property (sequenceIDs.foldl acknowledgePacket tm) := by
  induction sequenceIDs generalizing tm with
  | nil => exact holds
  | cons first rest inductionHypothesis =>
      exact inductionHypothesis (stable.acknowledge first holds)

end TimeoutManager

namespace PRUDPConnection

open TimeoutManager (Stable)

variable {property : TimeoutManager → Prop} {state : Session.ConnectionState}
  {pc after : PRUDPConnection} {packet : PRUDPPacketInterface} {ps : PRUDPServer}
  {pep : PRUDPEndPoint}

/-- The managers of all windows, made or yet to be made, have a property. -/
def AllManagers (property : TimeoutManager → Prop) (pc : PRUDPConnection) : Prop :=
  ∀ substreamID, property (pc.windowOf substreamID).timeoutManager

/-- The state of a connection and its managers. -/
structure Within (property : TimeoutManager → Prop) (state : Session.ConnectionState)
    (pc : PRUDPConnection) : Prop where
  state : pc.connectionState = state
  all : AllManagers property pc

theorem AllManagers.set (all : AllManagers property pc) {sw : SlidingWindow}
    (holds : property sw.timeoutManager) (substreamID : UInt8) :
    AllManagers property (pc.setSlidingWindow substreamID sw) := by
  intro any
  by_cases same : any = substreamID
  · subst same
    rw [windowOf_set_self]
    exact holds
  · rw [windowOf_set_ne same]
    exact all any

theorem Within.set (within : Within property state pc) {sw : SlidingWindow}
    (holds : property sw.timeoutManager) (substreamID : UInt8) :
    Within property state (pc.setSlidingWindow substreamID sw) :=
  ⟨within.state, within.all.set holds substreamID⟩

/-! ### Sending -/

theorem Within.assignSequenceID (within : Within property state pc)
    (packet : PRUDPPacketInterface) : Within property state (pc.assignSequenceID packet).2 := by
  unfold PRUDPConnection.assignSequenceID
  split
  · exact within
  · split
    · simp only [slidingWindow_fst, slidingWindow_set]
      have holds : property
          ((pc.windowOf packet.substreamID).nextOutgoingSequenceID.2).timeoutManager :=
        within.all packet.substreamID
      exact within.set holds packet.substreamID
    · split
      · exact ⟨within.state, within.all⟩
      · split
        · exact ⟨within.state, within.all⟩
        · exact within

theorem timeoutManager_encodePayload {sw : SlidingWindow} {payload : Bytes}
    {encoded : Bytes × SlidingWindow} (same : encodePayload sw payload = some encoded) :
    encoded.2.timeoutManager = sw.timeoutManager := by
  unfold encodePayload at same
  split at same
  · obtain ⟨compressed, -, sealed⟩ := Option.bind_eq_some_iff.mp same
    obtain rfl := Option.some.inj sealed
    rfl
  · obtain rfl := Option.some.inj same
    rfl

theorem Within.preparePayload {prepared : PRUDPPacketInterface × PRUDPConnection}
    (within : Within property state pc) (same : pc.preparePayload packet = some prepared) :
    Within property state prepared.2 := by
  unfold PRUDPConnection.preparePayload at same
  split at same
  · split at same
    · simp only [slidingWindow_fst, slidingWindow_set] at same
      obtain ⟨encoded, encodedFrom, result⟩ := Option.bind_eq_some_iff.mp same
      obtain rfl := Option.some.inj result
      refine within.set ?_ packet.substreamID
      rw [timeoutManager_encodePayload encodedFrom]
      exact within.all packet.substreamID
    · split at same
      · obtain rfl := Option.some.inj same
        exact ⟨within.state, within.all⟩
      · obtain rfl := Option.some.inj same
        exact within
  · obtain rfl := Option.some.inj same
    exact within

theorem Within.scheduleTimeout (stable : Stable property) (within : Within property state pc)
    (packet : PRUDPPacketInterface) : Within property state (pc.scheduleTimeout packet) := by
  unfold PRUDPConnection.scheduleTimeout
  split
  · simp only [slidingWindow_fst, slidingWindow_set]
    exact within.set (stable.schedule packet (within.all packet.substreamID)) packet.substreamID
  · exact within

theorem Within.sendPacket (stable : Stable property) (within : Within property state pc)
    {sent : PRUDPPacketInterface × PRUDPConnection} (same : pc.sendPacket ps packet = some sent) :
    Within property state sent.2 := by
  obtain ⟨prepared, preparedFrom, result⟩ := Option.bind_eq_some_iff.mp same
  obtain rfl := Option.some.inj result
  exact ((within.assignSequenceID packet).preparePayload preparedFrom).scheduleTimeout stable _

/-! ### Receiving -/

theorem Within.handleAcknowledgment (stable : Stable property) (within : Within property state pc)
    (same : pc.handleAcknowledgment packet = some after) : Within property state after := by
  unfold PRUDPConnection.handleAcknowledgment at same
  split at same
  · obtain rfl := Option.some.inj same
    exact within
  · split at same
    · obtain ⟨ack, -, result⟩ := Option.bind_eq_some_iff.mp same
      simp only [slidingWindow_fst, slidingWindow_set] at result
      obtain rfl := Option.some.inj result
      exact within.set (stable.acknowledgeAll (within.all ack.substreamID) _) ack.substreamID
    · split at same
      · obtain rfl := Option.some.inj same
        exact within
      · simp only [slidingWindow_fst, slidingWindow_set] at same
        obtain rfl := Option.some.inj same
        exact within.set (stable.acknowledge packet.sequenceID (within.all packet.substreamID))
          packet.substreamID

theorem Within.decryptPayload (within : Within property state pc)
    (packet : PRUDPPacketInterface) : Within property state (pc.decryptPayload packet).2 := by
  unfold PRUDPConnection.decryptPayload
  split
  · simp only [slidingWindow_fst, slidingWindow_set]
    have holds : property
        (((pc.windowOf packet.substreamID).decrypt packet.payload).2).timeoutManager :=
      within.all packet.substreamID
    exact within.set holds packet.substreamID
  · exact within

theorem Within.handleDispatched {substreamID : UInt8} {handled : List DataEvent × PRUDPConnection}
    (within : Within property state pc)
    (same : pc.handleDispatched pep substreamID packet = some handled) :
    Within property state handled.2 := by
  unfold PRUDPConnection.handleDispatched at same
  split at same
  · have opened : Within property state
        (if packet.version ≠ 2 then pc.decryptPayload packet else (packet.payload, pc)).2 := by
      split
      · exact within.decryptPayload packet
      · exact within
    obtain ⟨decompressed, -, result⟩ := Option.bind_eq_some_iff.mp same
    simp only at result
    split at result
    · obtain rfl := Option.some.inj result
      exact ⟨opened.state, opened.all⟩
    · obtain rfl := Option.some.inj result
      exact ⟨opened.state, opened.all⟩
  · obtain rfl := Option.some.inj same
    exact within

theorem Within.handling {substreamID : UInt8} {packets : List PRUDPPacketInterface}
    {handled : List DataEvent × PRUDPConnection} (within : Within property state pc)
    (same : (PRUDPConnection.handling pep substreamID).run pc packets = some handled) :
    Within property state handled.2 := by
  induction packets generalizing pc handled with
  | nil =>
      obtain rfl := Option.some.inj same
      exact within
  | cons packet rest inductionHypothesis =>
      obtain ⟨first, later, stepped, ran, rfl⟩ := PartialMachine.run_cons_eq_some same
      have laterWithin : Within property state later.2 :=
        inductionHypothesis (within.handleDispatched stepped) ran
      exact laterWithin

theorem Within.packetDispatchQueue (within : Within property state pc) (substreamID : UInt8) :
    Within property state (pc.packetDispatchQueue substreamID).2 := by
  unfold PRUDPConnection.packetDispatchQueue
  split
  · exact within
  · exact ⟨within.state, within.all⟩

theorem Within.handleReliable {received : List Output × PRUDPConnection}
    (within : Within property state pc) (same : pc.handleReliable pep packet = some received) :
    Within property state received.2 := by
  obtain ⟨acks, acknowledged⟩ := acknowledgeIfNeeded_eq pep.server pc packet
  unfold PRUDPConnection.handleReliable at same
  rw [acknowledged] at same
  simp only [Option.bind_eq_bind, Option.bind_some] at same
  obtain ⟨looped, ranLoop, result⟩ := Option.bind_eq_some_iff.mp same
  rw [dispatchLoop_eq] at ranLoop
  obtain ⟨handled, ran, rfl⟩ := Option.map_eq_some_iff.mp ranLoop
  obtain rfl := Option.some.inj result
  have handledWithin := (within.packetDispatchQueue packet.substreamID).handling ran
  exact ⟨handledWithin.state, handledWithin.all⟩

theorem Within.handleUnreliable {received : List Output × PRUDPConnection}
    (within : Within property state pc) (same : pc.handleUnreliable pep packet = some received) :
    Within property state received.2 := by
  obtain ⟨acks, acknowledged⟩ := acknowledgeIfNeeded_eq pep.server pc packet
  unfold PRUDPConnection.handleUnreliable at same
  rw [acknowledged] at same
  simp only [Option.bind_eq_bind, Option.bind_some] at same
  split at same
  · obtain rfl := Option.some.inj same
    exact within
  · obtain rfl := Option.some.inj same
    exact ⟨within.state, within.all⟩

theorem Within.handlePing {received : List Output × PRUDPConnection}
    (within : Within property state pc) (same : pc.handlePing pep packet = some received) :
    Within property state received.2 := by
  obtain ⟨acks, acknowledged⟩ := acknowledgeIfNeeded_eq pep.server pc packet
  unfold PRUDPConnection.handlePing at same
  split at same
  · obtain rfl := Option.some.inj same
    exact within
  · rw [acknowledged] at same
    simp only [Option.bind_eq_bind, Option.bind_some] at same
    split at same
    · obtain rfl := Option.some.inj same
      have queued := within.packetDispatchQueue packet.substreamID
      exact ⟨queued.state, queued.all⟩
    · obtain rfl := Option.some.inj same
      exact within

theorem Within.receive (stable : Stable property) {received : List Output × PRUDPConnection}
    (within : Within property state pc) (same : pc.receive pep packet = some received) :
    Within property state received.2 := by
  unfold PRUDPConnection.receive at same
  split at same
  · obtain ⟨after, acknowledged, rfl⟩ := Option.map_eq_some_iff.mp same
    exact within.handleAcknowledgment stable acknowledged
  · split at same
    · unfold handleData at same
      split at same
      · obtain rfl := Option.some.inj same
        exact within
      · split at same
        · exact within.handleReliable same
        · exact within.handleUnreliable same
    · split at same
      · exact within.handlePing same
      · split at same
        · cases same
        · obtain rfl := Option.some.inj same
          exact within

/-- One step of a connection's traffic. -/
theorem Within.traffic (stable : Stable property) {event : TrafficEvent}
    {stepped : List Output × PRUDPConnection} (within : Within property state pc)
    (same : (PRUDPConnection.traffic pep).step pc event = some stepped) :
    Within property state stepped.2 := by
  cases event with
  | receive packet => exact within.receive stable same
  | send packet =>
      obtain ⟨sent, sentFrom, rfl⟩ := Option.map_eq_some_iff.mp same
      exact within.sendPacket stable sentFrom

/-! ### The handshake -/

theorem allManagers_configure (stable : Stable property) (pc : PRUDPConnection)
    (packet : PRUDPPacketV1) : AllManagers property (pc.configure packet) := by
  intro any
  have window : (pc.configure packet).windowOf any = (pc.configure packet).newSlidingWindow := by
    unfold windowOf
    rw [(configured pc packet).initialized any]
    split <;> rfl
  rw [window]
  exact stable.new

theorem AllManagers.withAlgorithm (all : AllManagers property pc)
    (algorithm : EncryptionAlgorithm) :
    AllManagers property (pc.withAlgorithm algorithm) := by
  intro any
  have same : ((pc.withAlgorithm algorithm).windowOf any).timeoutManager =
      (pc.windowOf any).timeoutManager := by
    unfold windowOf PRUDPConnection.withAlgorithm
    cases pc.slidingWindows any <;> rfl
  rw [same]
  exact all any

theorem AllManagers.keyWindow (all : AllManagers property pc) (sessionKey : Bytes)
    (substreamID : UInt8) :
    AllManagers property (PRUDPConnection.keyWindow (sessionKey, pc) substreamID).2 := by
  unfold PRUDPConnection.keyWindow
  split
  · exact all
  next sw window =>
    have holds := all substreamID
    unfold windowOf at holds
    rw [show (pc.slidingWindows substreamID) = some sw from window] at holds
    have keyed (key : Bytes) : property (sw.setCipherKey key).timeoutManager := holds
    exact all.set (keyed _) substreamID

theorem AllManagers.setSessionKey (all : AllManagers property pc) (md5 : Bytes → Vector UInt8 16)
    (order : List UInt8) (sessionKey : Bytes) :
    AllManagers property (pc.setSessionKey md5 order sessionKey) := by
  have visited (key : Bytes) (pc : PRUDPConnection) (all : AllManagers property pc) :
      AllManagers property (order.foldl PRUDPConnection.keyWindow (key, pc)).2 := by
    induction order generalizing key pc with
    | nil => exact all
    | cons first rest inductionHypothesis => exact inductionHypothesis _ _ (all.keyWindow key first)
  exact visited sessionKey { pc with sessionKey := sessionKey } all

variable {settings : HandshakeSettings} {order : List UInt8} {serverTime : Int}

theorem AllManagers.acceptTicket {payload : Bytes}
    {outcome : Option (PID × Bytes) × PRUDPConnection} (all : AllManagers property pc)
    (same : PRUDPConnection.acceptTicket settings order serverTime pc payload = some outcome) :
    AllManagers property outcome.2 := by
  have opened : AllManagers property
      (if settings.encryptedConnect then
        (pc.streamSettings.encryptionAlgorithm.decrypt payload).map id pc.withAlgorithm
      else (payload, pc)).2 := by
    split
    · exact all.withAlgorithm _
    · exact all
  unfold PRUDPConnection.acceptTicket at same
  obtain ⟨decompressed, -, result⟩ := Option.bind_eq_some_iff.mp same
  split at result
  · obtain rfl := Option.some.inj result
    exact opened
  · split at result
    · cases result
    · obtain rfl := Option.some.inj result
      exact opened
    · obtain rfl := Option.some.inj result
      exact opened.setSessionKey _ _ _

theorem AllManagers.sealAnswer {payload : Bytes} {answer : Bytes × PRUDPConnection}
    (all : AllManagers property pc)
    (same : PRUDPConnection.sealAnswer settings pc payload = some answer) :
    AllManagers property answer.2 := by
  unfold PRUDPConnection.sealAnswer at same
  split at same
  · obtain ⟨compressed, -, result⟩ := Option.bind_eq_some_iff.mp same
    split at result
    · obtain rfl := Option.some.inj result
      exact all.withAlgorithm _
    · obtain rfl := Option.some.inj result
      exact all
  · obtain rfl := Option.some.inj same
    exact all

/-- A CONNECT that is handled leaves only new managers. -/
theorem allManagers_handleConnect (stable : Stable property)
    (up : pc.connectionState ≠ .notConnected) {packet : PRUDPPacketV1}
    {handled : Option (PRUDPPacketV1 × Option PID) × PRUDPConnection}
    (same : pc.handleConnect settings order serverTime packet = some handled) :
    AllManagers property handled.2 := by
  have fresh := allManagers_configure stable pc packet
  unfold PRUDPConnection.handleConnect at same
  rw [if_neg up] at same
  dsimp only at same
  split at same
  · obtain ⟨accepted, acceptedFrom, result⟩ := Option.bind_eq_some_iff.mp same
    obtain ⟨outcome, ticket, rfl⟩ := Option.map_eq_some_iff.mp acceptedFrom
    have accepted := fresh.acceptTicket ticket
    split at result
    · obtain rfl := Option.some.inj result
      exact accepted
    · obtain ⟨answer, sealed, final⟩ := Option.bind_eq_some_iff.mp result
      obtain rfl := Option.some.inj final
      exact accepted.sealAnswer sealed
  · rw [Option.bind_eq_bind, Option.bind_some] at same
    obtain ⟨answer, sealed, final⟩ := Option.bind_eq_some_iff.mp same
    obtain rfl := Option.some.inj final
    exact fresh.sealAnswer sealed

theorem allManagers_reset (stable : Stable property) (pc : PRUDPConnection) :
    AllManagers property pc.reset := fun _ => stable.new

end PRUDPConnection

/-! ### What holds of every manager -/

namespace TimeoutManager

/-- No packet was sent more than twenty times, and a pending ID leads to a packet
that has it. -/
structure Tracked (tm : TimeoutManager) : Prop where
  limit : tm.streamSettings.maxPacketRetransmissions = 20
  counted : ∀ sent ∈ tm.sent, 1 ≤ sent.sendCount ∧ sent.sendCount ≤ 20
  placed : ∀ sequenceID place, tm.packets.lookup sequenceID = some place →
    ∃ sent, tm.sent[place]? = some sent ∧ sent.packet.sequenceID = sequenceID

/-- Every pending packet has a timer. -/
structure Watched (tm : TimeoutManager) : Prop extends Tracked tm where
  timed : ∀ sequenceID place, tm.packets.lookup sequenceID = some place → place ∈ tm.timers

variable {tm : TimeoutManager} {place : Nat}

theorem lookup_schedule (tm : TimeoutManager) (sent : SentPacket) (sequenceID : UInt16) :
    (tm.schedulePacketTimeout sent).packets.lookup sequenceID =
      if sequenceID = sent.packet.sequenceID then some tm.sent.length
      else tm.packets.lookup sequenceID := by
  unfold schedulePacketTimeout
  split
  next same =>
    subst same
    exact AList.lookup_insert _
  next different => exact AList.lookup_insert_ne different

/-- An acknowledgment takes its packet off those that are pending. -/
theorem lookup_acknowledge (tm : TimeoutManager) {acknowledged sequenceID : UInt16} {place : Nat} :
    (tm.acknowledgePacket acknowledged).packets.lookup sequenceID = some place ↔
      sequenceID ≠ acknowledged ∧ tm.packets.lookup sequenceID = some place := by
  by_cases same : sequenceID = acknowledged
  · subst same
    rw [show (tm.acknowledgePacket sequenceID).packets.lookup sequenceID = none from
      AList.lookup_erase _ _]
    simp
  · rw [show (tm.acknowledgePacket acknowledged).packets.lookup sequenceID = _ from
      AList.lookup_erase_ne same]
    simp [same]

theorem stable_tracked : Stable Tracked where
  new := by
    refine ⟨rfl, fun sent member => absurd member List.not_mem_nil, ?_⟩
    intro sequenceID place found
    cases found
  schedule := by
    intro tm packet tracked
    refine ⟨tracked.limit, ?_, ?_⟩
    · intro sent member
      rcases List.mem_append.mp member with before | now
      · exact tracked.counted sent before
      · rw [List.mem_singleton.mp now]
        exact ⟨Nat.le_refl 1, (by decide : 1 ≤ 20)⟩
    · intro sequenceID place found
      rw [lookup_schedule] at found
      split at found
      next same =>
        obtain rfl := Option.some.inj found
        exact ⟨⟨packet, 1⟩, List.getElem?_concat_length, same.symm⟩
      next =>
        obtain ⟨sent, isSent, sameID⟩ := tracked.placed sequenceID place found
        have inside := (List.getElem?_eq_some_iff.mp isSent).1
        exact ⟨sent, (List.getElem?_append_left inside).trans isSent, sameID⟩
  acknowledge := by
    intro tm acknowledged tracked
    exact ⟨tracked.limit, tracked.counted, fun sequenceID place found =>
      tracked.placed sequenceID place ((lookup_acknowledge tm).mp found).2⟩

theorem stable_watched : Stable Watched where
  new := by
    refine ⟨stable_tracked.new, ?_⟩
    intro sequenceID place found
    cases found
  schedule := by
    intro tm packet watched
    refine ⟨stable_tracked.schedule packet watched.toTracked, ?_⟩
    intro sequenceID place found
    rw [lookup_schedule] at found
    split at found
    next =>
      obtain rfl := Option.some.inj found
      exact List.mem_append_right _ List.mem_cons_self
    next => exact List.mem_append_left _ (watched.timed sequenceID place found)
  acknowledge := by
    intro tm acknowledged watched
    exact ⟨stable_tracked.acknowledge acknowledged watched.toTracked, fun sequenceID place found =>
      watched.timed sequenceID place ((lookup_acknowledge tm).mp found).2⟩

/-- A packet sent once more. -/
theorem Tracked.again (tracked : Tracked tm) {sent : SentPacket}
    (isSent : tm.sent[place]? = some sent) (fewer : sent.sendCount < 20) (timers : List Nat) :
    Tracked { tm with
      sent := tm.sent.set place { sent with sendCount := sent.sendCount + 1 }
      timers := timers } := by
  have inside := (List.getElem?_eq_some_iff.mp isSent).1
  refine ⟨tracked.limit, ?_, ?_⟩
  · intro other member
    rcases List.mem_or_eq_of_mem_set member with before | rfl
    · exact tracked.counted other before
    · exact ⟨Nat.succ_le_succ (Nat.zero_le _), fewer⟩
  · intro sequenceID pending found
    obtain ⟨other, isOther, sameID⟩ := tracked.placed sequenceID pending found
    by_cases same : place = pending
    · subst same
      obtain rfl := Option.some.inj (isOther.symm.trans isSent)
      exact ⟨_, List.getElem?_set_self inside, sameID⟩
    · exact ⟨other, (List.getElem?_set_ne same).trans isOther, sameID⟩

theorem Tracked.start (tracked : Tracked tm) (connectionState : Session.ConnectionState)
    (place : Nat) : Tracked (tm.start connectionState place).2 := by
  have ended (timers : List Nat) : Tracked { tm with timers := timers } :=
    ⟨tracked.limit, tracked.counted, tracked.placed⟩
  unfold TimeoutManager.start
  split
  · split
    · exact ended _
    next sent isSent =>
      split
      · exact ended _
      · split
        · split
          next fewer => exact tracked.again isSent (tracked.limit ▸ fewer) _
          next => exact ended _
        · exact ended _
  · exact tracked

/-- On a connection that is up, a timer that ends without giving it up leaves all
others, and its own packet has a new one if it is pending. -/
theorem Watched.start (watched : Watched tm) (place : Nat) :
    (tm.start .connected place).1 = .cleanup ∨ Watched (tm.start .connected place).2 := by
  have tracked := watched.toTracked.start .connected place
  by_cases running : place ∈ tm.timers
  swap
  · right
    unfold TimeoutManager.start
    rw [if_neg running]
    exact watched
  have kept {sequenceID : UInt16} {pending : Nat}
      (found : tm.packets.lookup sequenceID = some pending) (different : pending ≠ place) :
      pending ∈ tm.timers.erase place :=
    (List.mem_erase_of_ne different).mpr (watched.timed sequenceID pending found)
  revert tracked
  unfold TimeoutManager.start
  rw [if_pos running]
  cases isSent : tm.sent[place]? with
  | none =>
      intro tracked
      refine .inr ⟨tracked, fun sequenceID pending found => kept found ?_⟩
      rintro rfl
      obtain ⟨sent, isOther, -⟩ := watched.placed sequenceID pending found
      cases isSent.symm.trans isOther
  | some sent =>
      simp only [ne_eq, not_true_eq_false, if_false]
      split
      · split
        · intro tracked
          refine .inr ⟨tracked, fun sequenceID pending found => ?_⟩
          by_cases same : pending = place
          · exact same ▸ List.mem_cons_self
          · exact List.mem_cons_of_mem _ (kept found same)
        · exact fun _ => .inl rfl
      next settled =>
        intro tracked
        refine .inr ⟨tracked, fun sequenceID pending found => kept found ?_⟩
        rintro rfl
        obtain ⟨other, isOther, sameID⟩ := watched.placed sequenceID pending found
        obtain rfl := Option.some.inj (isOther.symm.trans isSent)
        rw [sameID, show tm.packets.lookup sequenceID = some pending from found] at settled
        exact settled rfl

/-- What the end of a pending packet's timer leads to. -/
theorem Watched.start_pending (watched : Watched tm) {sequenceID : UInt16}
    (found : tm.packets.lookup sequenceID = some place) :
    ∃ sent, tm.sent[place]? = some sent ∧ sent.packet.sequenceID = sequenceID ∧
      (tm.start .connected place).1 =
        if sent.sendCount < 20 then .resend sent.packet else .cleanup := by
  obtain ⟨sent, isSent, sameID⟩ := watched.placed sequenceID place found
  refine ⟨sent, isSent, sameID, ?_⟩
  have pending : (tm.packets.lookup sent.packet.sequenceID).isSome := by
    rw [sameID, found]
    rfl
  unfold TimeoutManager.start
  rw [if_pos (watched.timed sequenceID place found), isSent]
  simp only [ne_eq, not_true_eq_false, if_false, pending, if_true, watched.limit]
  split <;> rfl

end TimeoutManager

/-! ### Whole lifetimes -/

section Lifetimes

open TimeoutManager (Tracked Watched stable_tracked stable_watched)

variable {settings : HandshakeSettings} {pep : PRUDPEndPoint} {life after : Lifetime}
  {outputs : List LifetimeOutput}

/-- What holds of a connection and its timers all its life. -/
structure Lifetime.Sound (life : Lifetime) : Prop where
  tracked : life.connection.AllManagers Tracked
  abandoned : ∀ tm ∈ life.abandoned, Tracked tm
  watched : life.connection.connectionState = .connected → life.connection.AllManagers Watched

theorem sound_new (defaultStreamSettings : StreamSettings) :
    Lifetime.Sound ⟨PRUDPConnection.new defaultStreamSettings, []⟩ where
  tracked _ := stable_tracked.new
  abandoned _ member := absurd member List.not_mem_nil
  watched _ _ := stable_watched.new

theorem sound_reset (pc : PRUDPConnection) {abandoned : List TimeoutManager}
    (tracked : ∀ tm ∈ abandoned, Tracked tm) : Lifetime.Sound ⟨pc.reset, abandoned⟩ where
  tracked := PRUDPConnection.allManagers_reset stable_tracked pc
  abandoned := tracked
  watched _ := PRUDPConnection.allManagers_reset stable_watched pc

theorem tracked_of_mem_managers {pc : PRUDPConnection} {tm : TimeoutManager}
    (tracked : pc.AllManagers Tracked) (member : tm ∈ pc.managers) : Tracked tm := by
  obtain ⟨substreamID, -, found⟩ := List.mem_filterMap.mp member
  obtain ⟨sw, window, rfl⟩ := Option.map_eq_some_iff.mp found
  have holds := tracked (UInt8.ofNat substreamID)
  unfold PRUDPConnection.windowOf at holds
  rwa [window] at holds

/-- The end of a timer of a window, as far as it does not give the connection up. -/
theorem Lifetime.Sound.expired (sound : life.Sound) {substreamID : UInt8} {sw : SlidingWindow}
    (window : life.connection.slidingWindows substreamID = some sw) (place : Nat) :
    let ended := sw.timeoutManager.start life.connection.connectionState place
    let connection := life.connection.setSlidingWindow substreamID
      { sw with timeoutManager := ended.2 }
    connection.AllManagers Tracked ∧
      (life.connection.connectionState = .connected →
        ended.1 = .cleanup ∨ connection.AllManagers Watched) := by
  intro ended connection
  have isWindow : life.connection.windowOf substreamID = sw := by
    unfold PRUDPConnection.windowOf
    rw [window]
    rfl
  have tracked : Tracked sw.timeoutManager := isWindow ▸ sound.tracked substreamID
  have endedTracked : Tracked ended.2 := tracked.start life.connection.connectionState place
  refine ⟨sound.tracked.set endedTracked substreamID, fun connected => ?_⟩
  have watched : Watched sw.timeoutManager := isWindow ▸ sound.watched connected substreamID
  have outcome : ended.1 = .cleanup ∨ Watched ended.2 := by
    show (sw.timeoutManager.start life.connection.connectionState place).1 = .cleanup ∨
      Watched (sw.timeoutManager.start life.connection.connectionState place).2
    rw [connected]
    exact watched.start place
  exact outcome.imp_right fun endedWatched =>
    (sound.watched connected).set endedWatched substreamID

theorem Lifetime.Sound.step {event : LifetimeEvent} (sound : life.Sound)
    (stepped : (lifetime settings pep).step life event = some (outputs, after)) : after.Sound := by
  cases event with
  | traffic event =>
      obtain ⟨inner, innerStepped, same⟩ := Option.map_eq_some_iff.mp stepped
      obtain ⟨-, rfl⟩ := Prod.mk.inj same
      have tracked := PRUDPConnection.Within.traffic stable_tracked ⟨rfl, sound.tracked⟩
        innerStepped
      refine ⟨tracked.all, sound.abandoned, fun connected => ?_⟩
      have before := tracked.state.symm.trans connected
      exact (PRUDPConnection.Within.traffic stable_watched ⟨before, sound.watched before⟩
        innerStepped).all
  | syn packet =>
      obtain ⟨-, rfl⟩ := Prod.mk.inj (Option.some.inj stepped)
      exact ⟨PRUDPConnection.allManagers_reset stable_tracked life.connection, sound.abandoned,
        fun _ => PRUDPConnection.allManagers_reset stable_watched life.connection⟩
  | connect order serverTime packet =>
      obtain ⟨handled, handledFrom, same⟩ := Option.map_eq_some_iff.mp stepped
      obtain ⟨-, rfl⟩ := Prod.mk.inj same
      by_cases down : life.connection.connectionState = .notConnected
      · unfold PRUDPConnection.handleConnect at handledFrom
        rw [if_pos down] at handledFrom
        obtain rfl := Option.some.inj handledFrom
        simp only [if_pos down]
        exact ⟨sound.tracked, sound.abandoned, sound.watched⟩
      · simp only [if_neg down]
        refine ⟨PRUDPConnection.allManagers_handleConnect stable_tracked down handledFrom, ?_,
          fun _ => PRUDPConnection.allManagers_handleConnect stable_watched down handledFrom⟩
        intro tm member
        rcases List.mem_append.mp member with before | now
        · exact sound.abandoned tm before
        · exact tracked_of_mem_managers sound.tracked now
  | disconnect packet =>
      obtain ⟨acknowledged, -, same⟩ := Option.map_eq_some_iff.mp stepped
      obtain ⟨-, rfl⟩ := Prod.mk.inj same
      exact sound_reset _ sound.abandoned
  | silence =>
      obtain ⟨-, rfl⟩ := Prod.mk.inj (Option.some.inj stepped)
      exact sound_reset _ sound.abandoned
  | expire substreamID place =>
      unfold lifetime at stepped
      simp only at stepped
      split at stepped
      next =>
        obtain ⟨-, rfl⟩ := Prod.mk.inj (Option.some.inj stepped)
        exact sound
      next sw window =>
        obtain ⟨-, rfl⟩ := Prod.mk.inj (Option.some.inj stepped)
        obtain ⟨tracked, watched⟩ := sound.expired window place
        cases ended : (sw.timeoutManager.start life.connection.connectionState place).1 with
        | cleanup => exact sound_reset _ sound.abandoned
        | nothing =>
            refine ⟨tracked, sound.abandoned, fun connected => (watched connected).resolve_left ?_⟩
            rw [ended]
            exact TimerEnd.noConfusion
        | resend packet =>
            refine ⟨tracked, sound.abandoned, fun connected => (watched connected).resolve_left ?_⟩
            rw [ended]
            exact TimerEnd.noConfusion
  | expireAbandoned index place =>
      unfold lifetime at stepped
      simp only at stepped
      split at stepped
      next =>
        obtain ⟨-, rfl⟩ := Prod.mk.inj (Option.some.inj stepped)
        exact sound
      next tm found =>
        obtain ⟨-, rfl⟩ := Prod.mk.inj (Option.some.inj stepped)
        have abandoned : ∀ other ∈ life.abandoned.set index
            (tm.start life.connection.connectionState place).2, Tracked other := by
          intro other member
          rcases List.mem_or_eq_of_mem_set member with before | rfl
          · exact sound.abandoned other before
          · exact (sound.abandoned tm (List.mem_of_getElem? found)).start _ _
        cases (tm.start life.connection.connectionState place).1 with
        | cleanup => exact sound_reset _ abandoned
        | nothing => exact ⟨sound.tracked, abandoned, sound.watched⟩
        | resend packet => exact ⟨sound.tracked, abandoned, sound.watched⟩

theorem Lifetime.Sound.run {events : List LifetimeEvent} (sound : life.Sound)
    (ran : (lifetime settings pep).run life events = some (outputs, after)) : after.Sound := by
  induction events generalizing life outputs with
  | nil =>
      obtain ⟨-, rfl⟩ := Prod.mk.inj (Option.some.inj ran)
      exact sound
  | cons event rest inductionHypothesis =>
      obtain ⟨⟨first, middle⟩, ⟨later, last⟩, stepped, ranLater, same⟩ :=
        PartialMachine.run_cons_eq_some ran
      obtain ⟨-, rfl⟩ := Prod.mk.inj same
      exact inductionHypothesis (sound.step stepped) ranLater

/-- **Pending packets.** Whatever happens to a connection from its creation on, no
packet is sent more than twenty times, whatever number of retransmissions its
endpoint is set to. While the connection is up, no packet that is pending is
forgotten: it has a timer, whose end sends it again or, after the twentieth time,
gives the connection up. -/
theorem lifetime_pending {defaultStreamSettings : StreamSettings} {events : List LifetimeEvent}
    (ran : (lifetime settings pep).run ⟨PRUDPConnection.new defaultStreamSettings, []⟩ events =
      some (outputs, after)) :
    (∀ substreamID, ∀ sent ∈ (after.connection.windowOf substreamID).timeoutManager.sent,
      sent.sendCount ≤ 20) ∧
    (∀ tm ∈ after.abandoned, ∀ sent ∈ tm.sent, sent.sendCount ≤ 20) ∧
    (after.connection.connectionState = .connected → ∀ substreamID sequenceID place,
      let tm := (after.connection.windowOf substreamID).timeoutManager
      tm.packets.lookup sequenceID = some place →
        place ∈ tm.timers ∧ ∃ sent, tm.sent[place]? = some sent ∧
          sent.packet.sequenceID = sequenceID ∧
          (tm.start .connected place).1 =
            if sent.sendCount < 20 then .resend sent.packet else .cleanup) := by
  have sound := (sound_new defaultStreamSettings).run ran
  refine ⟨fun substreamID sent member => ((sound.tracked substreamID).counted sent member).2,
    fun tm isAbandoned sent member => ((sound.abandoned tm isAbandoned).counted sent member).2, ?_⟩
  intro connected substreamID sequenceID place tm found
  have watched := sound.watched connected substreamID
  exact ⟨watched.timed sequenceID place found, watched.start_pending found⟩

/-- An endpoint that asks for no ticket. -/
def openSettings : HandshakeSettings :=
  { PRUDPConnection.sampleSettings with isSecureEndPoint := false }

theorem lifetime_pending_sample :
    ∃ outputs after, (lifetime openSettings PRUDPConnection.sampleEndPoint).run
        ⟨PRUDPConnection.new newStreamSettings, []⟩
        [.syn PRUDPPacketV1.blank, .connect [0] 0 PRUDPPacketV1.blank,
          .traffic (.send PRUDPConnection.sampleMessage)] = some (outputs, after) ∧
      ∀ sent ∈ (after.connection.windowOf 0).timeoutManager.sent, sent.sendCount ≤ 20 := by
  have defined : ((lifetime openSettings PRUDPConnection.sampleEndPoint).run
      ⟨PRUDPConnection.new newStreamSettings, []⟩
      [.syn PRUDPPacketV1.blank, .connect [0] 0 PRUDPPacketV1.blank,
        .traffic (.send PRUDPConnection.sampleMessage)]).isSome := rfl
  obtain ⟨⟨outputs, after⟩, ran⟩ := Option.isSome_iff_exists.mp defined
  exact ⟨outputs, after, ran, (lifetime_pending ran).1 0⟩

end Lifetimes

end CommunityServers.Nex
