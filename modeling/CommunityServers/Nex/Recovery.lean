import CommunityServers.Nex.Link

/-!
Contract: a link whose sender is still up can always be completed.

Owns:
- that what a sender waits for was put on the wire;
- that an arrival and its answer settle a packet, whatever happened before;
- that from any state of a link, a network that stops losing packets gets all
  messages out and leaves nothing pending.

Does not own: whether timers give the connection up before that.
-/

set_option autoImplicit false

namespace CommunityServers.Nex

open CommunityServers.Foundation
open PRUDPConnection (NeedsAcknowledgment Acknowledges)

variable {substreamID : UInt8} {stream : PeerStream substreamID} {leftover : Bytes}
  {arrived : List Nat} {next index : Nat} {sending receiving : PRUDPEndPoint} {link after : Link}
  {packet : PRUDPPacketInterface} {outputs : List Bytes} {event : LinkEvent}

/-- The sequence IDs that a sender waits for are those of some packets. -/
def Awaits (substreamID : UInt8) (link : Link) (packets : List PRUDPPacketInterface) : Prop :=
  ∀ sequenceID,
    ((link.sender.windowOf substreamID).timeoutManager.packets.lookup sequenceID).isSome →
    ∃ packet ∈ packets, packet.sequenceID = sequenceID

/-- What a sender that is up waits for was put on the wire. -/
def Answerable (substreamID : UInt8) (link : Link) : Prop :=
  link.sender.connectionState = .connected → Awaits substreamID link link.wire

theorem Answerable.send (answerable : Answerable substreamID link)
    (able : link.sender.connectionState = .connected → link.sender.Plain ∧
      ∀ packet ∈ link.remaining, NeedsAcknowledgment substreamID packet)
    (stepped : (linkMachine sending receiving substreamID).step link .send =
      some (outputs, after)) : Answerable substreamID after := by
  cases remaining : link.remaining with
  | nil =>
      unfold linkMachine at stepped
      simp only [remaining] at stepped
      obtain ⟨-, rfl⟩ := Prod.mk.inj (Option.some.inj stepped)
      exact answerable
  | cons packet rest =>
      by_cases connected : link.sender.connectionState = .connected
      · obtain ⟨plain, allNeed⟩ := able connected
        have needs := allNeed packet (remaining ▸ List.mem_cons_self)
        rw [step_send remaining connected
          (PRUDPConnection.sendPacket_view sending.server plain needs)] at stepped
        obtain ⟨-, rfl⟩ := Prod.mk.inj (Option.some.inj stepped)
        intro _ sequenceID waiting
        rw [PRUDPConnection.windowOf_set_self] at waiting
        replace waiting : ((TimeoutManager.schedulePacketTimeout _ _).packets.lookup
          sequenceID).isSome := waiting
        rw [TimeoutManager.lookup_schedule] at waiting
        split at waiting
        next same =>
          exact ⟨_, List.mem_append_right _ List.mem_cons_self, same.symm⟩
        next =>
          obtain ⟨earlier, onWire, same⟩ := answerable connected sequenceID waiting
          exact ⟨earlier, List.mem_append_left _ onWire, same⟩
      · unfold linkMachine at stepped
        simp only [remaining, ne_eq, connected, not_false_eq_true, if_true] at stepped
        obtain ⟨-, rfl⟩ := Prod.mk.inj (Option.some.inj stepped)
        exact answerable

theorem Answerable.expire (answerable : Answerable substreamID link) {place : Nat}
    (stepped : (linkMachine sending receiving substreamID).step link (.expire place) =
      some (outputs, after)) : Answerable substreamID after := by
  cases window : link.sender.slidingWindows substreamID with
  | none =>
      unfold linkMachine at stepped
      simp only [window] at stepped
      obtain ⟨-, rfl⟩ := Prod.mk.inj (Option.some.inj stepped)
      exact answerable
  | some sw =>
      have isWindow : link.sender.windowOf substreamID = sw := by
        unfold PRUDPConnection.windowOf
        rw [window]
        rfl
      have packets := (TimeoutManager.start_frame sw.timeoutManager link.sender.connectionState
        place).1
      unfold linkMachine at stepped
      simp only [window] at stepped
      obtain ⟨-, rfl⟩ := Prod.mk.inj (Option.some.inj stepped)
      have kept : Awaits substreamID link link.wire → ∀ sequenceID,
          (((link.sender.setSlidingWindow substreamID { sw with timeoutManager :=
            (sw.timeoutManager.start link.sender.connectionState place).2 }).windowOf
              substreamID).timeoutManager.packets.lookup sequenceID).isSome →
          ∃ packet ∈ link.wire, packet.sequenceID = sequenceID := by
        intro awaits sequenceID waiting
        rw [PRUDPConnection.windowOf_set_self, packets] at waiting
        exact awaits sequenceID (by rw [isWindow]; exact waiting)
      cases ended : (sw.timeoutManager.start link.sender.connectionState place).1 with
      | cleanup => exact fun connected => by cases connected
      | nothing =>
          intro connected sequenceID waiting
          obtain ⟨packet, onWire, same⟩ := kept (answerable connected) sequenceID waiting
          exact ⟨packet, List.mem_append_left _ onWire, same⟩
      | resend again =>
          intro connected sequenceID waiting
          obtain ⟨packet, onWire, same⟩ := kept (answerable connected) sequenceID waiting
          exact ⟨packet, List.mem_append_left _ onWire, same⟩

theorem Answerable.arrive (answerable : Answerable substreamID link)
    (stepped : (linkMachine sending receiving substreamID).step link (.arrive index) =
      some (outputs, after)) : Answerable substreamID after := by
  cases found : link.wire[index]? with
  | none =>
      unfold linkMachine at stepped
      simp only [found] at stepped
      obtain ⟨-, rfl⟩ := Prod.mk.inj (Option.some.inj stepped)
      exact answerable
  | some packet =>
      rw [step_arrive found] at stepped
      obtain ⟨received, -, same⟩ := Option.map_eq_some_iff.mp stepped
      obtain ⟨-, rfl⟩ := Prod.mk.inj same
      exact answerable

theorem Answerable.answer (answerable : Answerable substreamID link)
    (linked : Linked sending stream leftover arrived next link)
    (stepped : (linkMachine sending receiving substreamID).step link (.answer index) =
      some (outputs, after)) : Answerable substreamID after := by
  cases found : link.answers[index]? with
  | none =>
      unfold linkMachine at stepped
      simp only [found] at stepped
      obtain ⟨-, rfl⟩ := Prod.mk.inj (Option.some.inj stepped)
      exact answerable
  | some ack =>
      obtain ⟨number, isArrived, acknowledges⟩ :=
        linked.answers ack (List.mem_of_getElem? found)
      have below := linked.following.bounded number isArrived
      by_cases connected : link.sender.connectionState = .connected
      · rw [step_answer found (PRUDPConnection.receive_acknowledges acknowledges
          (stream.reliable number below) connected)] at stepped
        obtain ⟨-, rfl⟩ := Prod.mk.inj (Option.some.inj stepped)
        intro _ sequenceID waiting
        rw [PRUDPConnection.windowOf_set_self] at waiting
        obtain ⟨place, pending⟩ := Option.isSome_iff_exists.mp waiting
        exact answerable connected sequenceID
          (Option.isSome_of_mem ((TimeoutManager.lookup_acknowledge _).mp pending).2)
      · rw [step_answer found
          (PRUDPConnection.receive_acknowledges_down acknowledges connected)] at stepped
        obtain ⟨-, rfl⟩ := Prod.mk.inj (Option.some.inj stepped)
        exact answerable

/-- Any event of a link. -/
theorem Answerable.step (answerable : Answerable substreamID link)
    (linked : Linked sending stream leftover arrived next link)
    (stepped : (linkMachine sending receiving substreamID).step link event =
      some (outputs, after)) : Answerable substreamID after := by
  cases event with
  | send =>
      refine answerable.send (fun connected => ?_) stepped
      obtain ⟨count, outstanding⟩ := linked.sender connected
      exact ⟨outstanding.plain, outstanding.needs⟩
  | expire place => exact answerable.expire stepped
  | arrive index => exact answerable.arrive stepped
  | answer index => exact answerable.answer linked stepped

/-- Any run of a link from a state in which what is awaited is on the wire. -/
theorem Linked.run_answerable (receiving : PRUDPEndPoint)
    (linked : Linked sending stream leftover arrived next link)
    (answerable : Answerable substreamID link) (short : stream.total < 65536)
    (events : List LinkEvent) :
    ∃ outputs after, (linkMachine sending receiving substreamID).run link events =
        some (outputs, after) ∧
      Answerable substreamID after ∧
      ∃ arrivals reached, Linked sending stream leftover arrivals reached after ∧
        stream.messages leftover next ++ outputs = stream.messages leftover reached := by
  refine PartialMachine.run_of_step (fun history state => Answerable substreamID state ∧
    ∃ arrivals reached, Linked sending stream leftover arrivals reached state ∧
      history = stream.messages leftover reached) ?_ ⟨answerable, arrived, next, linked, rfl⟩ events
  rintro history state event ⟨answerableBefore, arrivals, reached, linkedBefore, rfl⟩
  obtain ⟨outputs, after, arrivalsAfter, reachedAfter, stepped, linkedAfter, delivered⟩ :=
    linkedBefore.step receiving short event
  exact ⟨outputs, after, stepped, answerableBefore.step linkedBefore stepped, arrivalsAfter,
    reachedAfter, linkedAfter, delivered⟩

/-! ### Completing a link -/

/-- Two connections that are up, on a link whose packets all ask to be acknowledged. -/
structure Upright (substreamID : UInt8) (link : Link) : Prop where
  plain : link.sender.Plain
  sender : link.sender.connectionState = .connected
  receiver : link.receiver.connectionState = .connected
  needs : ∀ packet ∈ link.remaining, NeedsAcknowledgment substreamID packet
  wire : ∀ packet ∈ link.wire, NeedsAcknowledgment substreamID packet

/-- So many packets of the wire arrive and are answered, one after the other. -/
def settlements : Nat → Nat → Nat → List LinkEvent
  | _, _, 0 => []
  | index, answered, count + 1 =>
      .arrive index :: .answer answered :: settlements (index + 1) (answered + 1) count

/-- Everything is sent; then every packet on the wire arrives and is answered. -/
def completion (link : Link) : List LinkEvent :=
  List.replicate link.remaining.length .send ++
    settlements 0 link.answers.length (link.wire.length + link.remaining.length)

variable {later : List LinkEvent} {last : Link}

theorem Upright.send {rest : List PRUDPPacketInterface} (upright : Upright substreamID link)
    (awaits : Awaits substreamID link link.wire) (left : link.remaining = packet :: rest)
    (ran : (linkMachine sending receiving substreamID).run link (.send :: later) =
      some (outputs, last)) :
    ∃ laterOutputs middle, Upright substreamID middle ∧ Awaits substreamID middle middle.wire ∧
      middle.remaining = rest ∧ middle.wire.length = link.wire.length + 1 ∧
      middle.answers = link.answers ∧
      (linkMachine sending receiving substreamID).run middle later = some (laterOutputs, last) := by
  have needs := upright.needs packet (left ▸ List.mem_cons_self)
  obtain ⟨⟨first, middle⟩, ⟨laterOutputs, final⟩, stepped, ranLater, same⟩ :=
    PartialMachine.run_cons_eq_some ran
  obtain ⟨-, rfl⟩ := Prod.mk.inj same
  have awaitsMiddle : Answerable substreamID middle :=
    Answerable.send (fun _ => awaits) (fun _ => ⟨upright.plain, upright.needs⟩) stepped
  rw [step_send left upright.sender
    (PRUDPConnection.sendPacket_view sending.server upright.plain needs)] at stepped
  obtain ⟨-, rfl⟩ := Prod.mk.inj (Option.some.inj stepped)
  refine ⟨laterOutputs, _, ?_, awaitsMiddle upright.sender, rfl, List.length_append, rfl, ranLater⟩
  refine ⟨PRUDPConnection.plain_set upright.plain rfl, upright.sender, upright.receiver, ?_, ?_⟩
  · exact fun other member => upright.needs other (left ▸ List.mem_cons_of_mem packet member)
  · exact List.forall_mem_append.mpr
      ⟨upright.wire, List.forall_mem_singleton.mpr (needs.send _ _)⟩

theorem Upright.sends (upright : Upright substreamID link)
    (awaits : Awaits substreamID link link.wire)
    (ran : (linkMachine sending receiving substreamID).run link
      (List.replicate link.remaining.length .send ++ later) = some (outputs, last)) :
    ∃ laterOutputs middle, Upright substreamID middle ∧ Awaits substreamID middle middle.wire ∧
      middle.remaining = [] ∧ middle.wire.length = link.wire.length + link.remaining.length ∧
      middle.answers = link.answers ∧
      (linkMachine sending receiving substreamID).run middle later = some (laterOutputs, last) := by
  generalize left : link.remaining = remaining at ran ⊢
  induction remaining generalizing link outputs with
  | nil => exact ⟨outputs, link, upright, awaits, left, rfl, rfl, ran⟩
  | cons packet rest inductionHypothesis =>
      obtain ⟨middleOutputs, middle, uprightMiddle, awaitsMiddle, leftMiddle, wire, answers,
        ranMiddle⟩ := upright.send awaits left ran
      obtain ⟨laterOutputs, final, uprightFinal, awaitsFinal, allSent, wireFinal, answersFinal,
        ranFinal⟩ := inductionHypothesis uprightMiddle awaitsMiddle leftMiddle ranMiddle
      refine ⟨laterOutputs, final, uprightFinal, awaitsFinal, allSent, ?_,
        answersFinal.trans answers, ranFinal⟩
      rw [wireFinal, wire, List.length_cons]
      omega

theorem stable_true : TimeoutManager.Stable fun _ => True :=
  ⟨trivial, fun _ _ => trivial, fun _ _ => trivial⟩

theorem connected_receive {pc : PRUDPConnection} {received : List Output × PRUDPConnection}
    (same : pc.receive receiving packet = some received) :
    received.2.connectionState = pc.connectionState :=
  (PRUDPConnection.Within.receive stable_true ⟨rfl, fun _ => trivial⟩ same).state

/-- A packet that arrives and is answered is awaited no longer. -/
theorem Upright.settle (upright : Upright substreamID link) (below : index < link.wire.length)
    (awaits : Awaits substreamID link (link.wire.drop index))
    (ran : (linkMachine sending receiving substreamID).run link
      (.arrive index :: .answer link.answers.length :: later) = some (outputs, last)) :
    ∃ laterOutputs middle, Upright substreamID middle ∧
      Awaits substreamID middle (middle.wire.drop (index + 1)) ∧
      middle.remaining = link.remaining ∧ middle.wire.length = link.wire.length ∧
      middle.answers.length = link.answers.length + 1 ∧
      (linkMachine sending receiving substreamID).run middle later = some (laterOutputs, last) := by
  have found : link.wire[index]? = some link.wire[index] := List.getElem?_eq_getElem below
  generalize isPacket : link.wire[index] = packet at found
  have needs := upright.wire packet (List.mem_of_getElem? found)
  obtain ⟨first, ranFirst, arrives, runFirst, sameFirst⟩ := PartialMachine.run_cons_eq_some ran
  obtain ⟨second, ⟨laterOutputs, final⟩, answers, runSecond, sameSecond⟩ :=
    PartialMachine.run_cons_eq_some runFirst
  obtain ⟨-, rfl⟩ := Prod.mk.inj sameFirst
  rw [step_arrive found] at arrives
  obtain ⟨received, receivedFrom, rfl⟩ := Option.map_eq_some_iff.mp arrives
  have answered := PRUDPConnection.acknowledged_once needs upright.receiver receivedFrom
  have acknowledges : Acknowledges packet
      (PRUDPConnection.signedAcknowledgment receiving.server link.receiver packet) :=
    ⟨rfl, rfl, rfl, rfl⟩
  have onAnswers : (link.answers ++ received.1.filterMap PRUDPConnection.sentPacket)[
      link.answers.length]? =
        some (PRUDPConnection.signedAcknowledgment receiving.server link.receiver packet) := by
    rw [answered, List.getElem?_concat_length]
  have settledFrom : link.sender.receive sending _ = _ :=
    PRUDPConnection.receive_acknowledges acknowledges needs.1 upright.sender
  have stepAnswer : (linkMachine sending receiving substreamID).step { link with
      receiver := received.2
      answers := link.answers ++ received.1.filterMap PRUDPConnection.sentPacket }
        (.answer link.answers.length) = _ := step_answer onAnswers settledFrom
  obtain rfl := Option.some.inj (stepAnswer.symm.trans answers)
  obtain rfl := sameSecond
  refine ⟨laterOutputs, _, ?_, ?_, ?_, ?_, ?_, runSecond⟩
  · exact ⟨PRUDPConnection.plain_set upright.plain rfl, upright.sender,
      (connected_receive receivedFrom).trans upright.receiver, upright.needs, upright.wire⟩
  · intro sequenceID waiting
    rw [PRUDPConnection.windowOf_set_self] at waiting
    obtain ⟨place, pending⟩ := Option.isSome_iff_exists.mp waiting
    obtain ⟨different, waitedFor⟩ := (TimeoutManager.lookup_acknowledge _).mp pending
    obtain ⟨other, onWire, same⟩ := awaits sequenceID (Option.isSome_of_mem waitedFor)
    rw [List.drop_eq_getElem_cons below, isPacket] at onWire
    rcases List.mem_cons.mp onWire with rfl | later
    · exact absurd same.symm different
    · exact ⟨other, later, same⟩
  · rfl
  · rfl
  · rw [List.length_append, answered]
    rfl

theorem Upright.settlements {count : Nat} (upright : Upright substreamID link)
    (whole : link.wire.length = index + count)
    (awaits : Awaits substreamID link (link.wire.drop index)) (allSent : link.remaining = [])
    (ran : (linkMachine sending receiving substreamID).run link
      (Nex.settlements index link.answers.length count) = some (outputs, last)) :
    last.sender.connectionState = .connected ∧ last.remaining = [] ∧
      (last.sender.windowOf substreamID).timeoutManager.Settled := by
  generalize isAnswered : link.answers.length = answered at ran
  induction count generalizing link index answered outputs with
  | zero =>
      obtain ⟨-, rfl⟩ := Prod.mk.inj (Option.some.inj ran)
      refine ⟨upright.sender, allSent, fun sequenceID => ?_⟩
      by_contra waiting
      obtain ⟨packet, onWire, -⟩ := awaits sequenceID (Option.isSome_iff_ne_none.mpr waiting)
      rw [List.drop_eq_nil_of_le (Nat.le_of_eq (whole.trans (Nat.add_zero index)))] at onWire
      exact absurd onWire List.not_mem_nil
  | succ count inductionHypothesis =>
      subst isAnswered
      obtain ⟨middleOutputs, middle, uprightMiddle, awaitsMiddle, leftMiddle, wire, answers,
        ranMiddle⟩ := upright.settle (by omega) awaits ran
      exact inductionHypothesis uprightMiddle (by omega) awaitsMiddle (leftMiddle.trans allSent) _
        answers ranMiddle

/-- A completion leaves nothing to send and nothing pending. -/
theorem Upright.completed (upright : Upright substreamID link)
    (awaits : Awaits substreamID link link.wire)
    (ran : (linkMachine sending receiving substreamID).run link (completion link) =
      some (outputs, last)) :
    last.sender.connectionState = .connected ∧ last.remaining = [] ∧
      (last.sender.windowOf substreamID).timeoutManager.Settled := by
  obtain ⟨laterOutputs, middle, uprightMiddle, awaitsMiddle, allSent, wire, answers, ranMiddle⟩ :=
    upright.sends awaits ran
  rw [← answers] at ranMiddle
  have fromStart : Awaits substreamID middle (middle.wire.drop 0) := by
    rw [List.drop_zero]
    exact awaitsMiddle
  exact uprightMiddle.settlements (by omega) fromStart allSent ranMiddle

theorem Linked.upright (linked : Linked sending stream leftover arrived next link)
    (needs : ∀ packet ∈ stream.packets, NeedsAcknowledgment substreamID packet)
    (connected : link.sender.connectionState = .connected) : Upright substreamID link := by
  obtain ⟨count, outstanding⟩ := linked.sender connected
  exact ⟨outstanding.plain, connected, linked.following.connected, outstanding.needs,
    fun packet onWire => needs packet (linked.wire packet onWire)⟩

/-- **A link can always be completed.** Whatever the network and the timers did to
a link, as long as the sender is still up there is a way on: what is left is sent,
every packet that was ever sent arrives, and every answer to that. Then all
messages have come out, in order and each once, and nothing is pending. -/
theorem link_recovers {sender receiver : PRUDPConnection}
    (ready : PRUDPConnection.Ready substreamID sender receiver)
    (idle : (sender.windowOf substreamID).timeoutManager.sent = [])
    (settled : (sender.windowOf substreamID).timeoutManager.Settled)
    (positive : 0 < sending.server.fragmentSize) {messages : List PRUDPPacketInterface}
    (needs : ∀ message ∈ messages, NeedsAcknowledgment substreamID message)
    (short : (PRUDPConnection.allFragments sending.server.fragmentSize messages).length < 65536)
    (events : List LinkEvent) :
    ∃ outputs middle, (linkMachine sending receiving substreamID).run
        (.start sender receiver (PRUDPConnection.allFragments sending.server.fragmentSize messages))
        events = some (outputs, middle) ∧
      (middle.sender.connectionState = .connected → ∃ later after,
        (linkMachine sending receiving substreamID).run middle (completion middle) =
          some (later, after) ∧
        outputs ++ later = PRUDPConnection.expectedMessages sending.server.fragmentSize substreamID
          receiver messages ∧
        after.sender.connectionState = .connected ∧ after.remaining = [] ∧
        (after.sender.windowOf substreamID).timeoutManager.Settled) := by
  obtain ⟨stream, total, whole, needsAll, linked⟩ := Linked.of_ready ready idle positive needs
  have answerable : Answerable substreamID (.start sender receiver
      (PRUDPConnection.allFragments sending.server.fragmentSize messages)) := by
    intro _ sequenceID waiting
    rw [Link.start, settled sequenceID] at waiting
    cases waiting
  obtain ⟨outputs, middle, ran, answerableMiddle, arrivals, reached, linkedMiddle, delivered⟩ :=
    linked.run_answerable receiving answerable (total ▸ short) events
  refine ⟨outputs, middle, ran, fun connected => ?_⟩
  obtain ⟨later, after, ranLater, arrivalsLater, reachedLater, linkedAfter, deliveredLater⟩ :=
    linkedMiddle.run receiving (total ▸ short) (completion middle)
  obtain ⟨stillUp, allSent, nothingPending⟩ :=
    (linkedMiddle.upright needsAll connected).completed (answerableMiddle connected) ranLater
  have delivered : outputs = stream.messages _ reached := delivered
  refine ⟨later, after, ranLater, ?_, stillUp, allSent, nothingPending⟩
  rw [delivered, deliveredLater, linkedAfter.complete stillUp allSent nothingPending, whole]

/-- A packet that is lost once, and a way on. -/
theorem link_recovers_sample :
    ∃ outputs middle, (linkMachine PRUDPConnection.sampleEndPoint PRUDPConnection.sampleEndPoint
        0).run (.start sampleSender PRUDPConnection.sampleRunning
          (PRUDPConnection.allFragments 1300 [PRUDPConnection.sampleMessage]))
        [.send, .expire 0] = some (outputs, middle) ∧
      (middle.sender.connectionState = .connected → ∃ later after,
        (linkMachine PRUDPConnection.sampleEndPoint PRUDPConnection.sampleEndPoint 0).run middle
          (completion middle) = some (later, after) ∧
        outputs ++ later = PRUDPConnection.expectedMessages 1300 0 PRUDPConnection.sampleRunning
          [PRUDPConnection.sampleMessage] ∧
        after.sender.connectionState = .connected ∧ after.remaining = [] ∧
        (after.sender.windowOf 0).timeoutManager.Settled) :=
  @link_recovers 0 PRUDPConnection.sampleEndPoint PRUDPConnection.sampleEndPoint sampleSender
    PRUDPConnection.sampleRunning sampleSender_ready rfl (fun _ => rfl) (by decide) _
    sampleMessage_needsAcknowledgment PRUDPConnection.sampleMessage_fragments [.send, .expire 0]

end CommunityServers.Nex
