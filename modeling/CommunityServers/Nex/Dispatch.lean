import CommunityServers.Foundation.Machine
import CommunityServers.Foundation.Resequence
import CommunityServers.Nex.Connection

/-!
Contract: what a dispatch queue dispatches.

Owns:
- taking packets from the queue while the next expected one is there;
- sequence IDs as labels of packet numbers, apart while fewer than 65536
  packets are sent or no packet is a whole round early or late;
- that packets are dispatched in order, each once, up to the first that has not
  arrived, whatever arrived in whatever order and however often.

A PING waits in the queue and does not start dispatching.

Does not own: what becomes of a packet that is dispatched.
-/

set_option autoImplicit false

namespace CommunityServers.Nex

open CommunityServers.Foundation

namespace PacketDispatchQueue

/-- The packets dispatched, one turn for each at most. -/
def drain : Nat → PacketDispatchQueue → List PRUDPPacketInterface × PacketDispatchQueue
  | 0, pdq => ([], pdq)
  | turns + 1, pdq =>
      match pdq.getNextToDispatch with
      | none => ([], pdq)
      | some packet =>
          let later := drain turns (pdq.dispatched packet)
          (packet :: later.1, later.2)

/-- What is dispatched, and what is left, was in the queue. -/
theorem drain_mem (turns : Nat) (pdq : PacketDispatchQueue) :
    (∀ packet ∈ (drain turns pdq).1, ∃ sequenceID, pdq.table sequenceID = some packet) ∧
      ∀ sequenceID packet, (drain turns pdq).2.table sequenceID = some packet →
        pdq.table sequenceID = some packet := by
  induction turns generalizing pdq with
  | zero => exact ⟨fun packet member => absurd member List.not_mem_nil, fun _ _ found => found⟩
  | succ turns inductionHypothesis =>
      rw [drain]
      cases next : pdq.getNextToDispatch with
      | none => exact ⟨fun packet member => absurd member List.not_mem_nil, fun _ _ found => found⟩
      | some first =>
          obtain ⟨outputs, entries⟩ := inductionHypothesis (pdq.dispatched first)
          have earlier (sequenceID : UInt16) (packet : PRUDPPacketInterface)
              (found : (pdq.dispatched first).table sequenceID = some packet) :
              pdq.table sequenceID = some packet := by
            rw [table_dispatched next] at found
            by_cases same : sequenceID = pdq.nextExpectedSequenceId
            · rw [same, Function.update_self] at found
              cases found
            · rwa [Function.update_of_ne same] at found
          refine ⟨?_, fun sequenceID packet found =>
            earlier sequenceID packet (entries sequenceID packet found)⟩
          intro packet member
          rcases List.mem_cons.mp member with rfl | later
          · exact ⟨pdq.nextExpectedSequenceId, next⟩
          · obtain ⟨sequenceID, found⟩ := outputs packet later
            exact ⟨sequenceID, earlier sequenceID packet found⟩

/-- A turn for every packet in the queue. -/
def drainAll (pdq : PacketDispatchQueue) : List PRUDPPacketInterface × PacketDispatchQueue :=
  drain pdq.queue.keys.length pdq

/-- A packet arrives; DATA starts dispatching. -/
def accept (pdq : PacketDispatchQueue) (packet : PRUDPPacketInterface) :
    List PRUDPPacketInterface × PacketDispatchQueue :=
  if packet.packetType = dataPacket then (pdq.queuePacket packet).drainAll
  else ([], pdq.queuePacket packet)

/-- A queue that packets arrive at, given by their numbers. -/
def accepting (item : Nat → PRUDPPacketInterface) :
    Machine PacketDispatchQueue Nat PRUDPPacketInterface where
  step pdq number := (pdq.accept (item number)).2
  emit pdq number := (pdq.accept (item number)).1

end PacketDispatchQueue

/-! ### Sequence IDs -/

/-- Packet numbers told apart by their sequence IDs: either there are fewer than
65536 packets, or none comes that was handled already or is a round ahead. -/
def SequenceInside (total next number : Nat) : Prop :=
  number < total ∧ (total < 65536 ∨ (next ≤ number ∧ number < next + 65536))

instance (total next number : Nat) : Decidable (SequenceInside total next number) :=
  inferInstanceAs (Decidable (_ ∧ (_ ∨ _)))

theorem sequenceID_eq_iff (start : UInt16) (first second : Nat) :
    start + UInt16.ofNat first = start + UInt16.ofNat second ↔ first % 65536 = second % 65536 := by
  rw [UInt16.add_right_inj, ← UInt16.toNat_inj]
  rfl

/-- Sequence IDs counted from a first one. -/
def sequenceLabelling (start : UInt16) (total : Nat) : Labelling UInt16 where
  label number := start + UInt16.ofNat number
  Inside next number := next ≤ total ∧ SequenceInside total next number
  unique := by
    intro next first second firstInside secondInside same
    rw [sequenceID_eq_iff] at same
    unfold SequenceInside at firstInside secondInside
    omega
  next_unique := by
    intro next number inside same
    rw [sequenceID_eq_iff] at same
    unfold SequenceInside at inside
    omega
  shift := by
    intro next number nextInside inside other
    unfold SequenceInside at *
    omega

namespace PacketDispatchQueue

variable {pdq : PacketDispatchQueue} {item : Nat → PRUDPPacketInterface} {start : UInt16}
  {total next : Nat} {arrived : List Nat}

/-- The queue holds what arrived of the packets and was not dispatched, and expects
the one after the last that was. -/
structure Expecting (item : Nat → PRUDPPacketInterface) (start : UInt16) (total : Nat)
    (arrived : List Nat) (next : Nat) (pdq : PacketDispatchQueue) : Prop where
  bounded : ∀ number ∈ arrived, number < total
  held : Held (sequenceLabelling start total) item arrived next pdq.table
  expected : pdq.nextExpectedSequenceId = start + UInt16.ofNat next

theorem Expecting.next_le (expecting : Expecting item start total arrived next pdq) :
    next ≤ total := by
  by_contra beyond
  have dispatched := expecting.held.handled total (Nat.lt_of_not_le beyond)
  exact absurd (expecting.bounded total dispatched) (Nat.lt_irrefl total)

theorem Expecting.dispatched (expecting : Expecting item start total arrived next pdq)
    {packet : PRUDPPacketInterface} (found : pdq.getNextToDispatch = some packet) :
    packet = item next ∧ Expecting item start total arrived (next + 1) (pdq.dispatched packet) := by
  have lookup : pdq.table ((sequenceLabelling start total).label next) = some packet := by
    rw [show (sequenceLabelling start total).label next = _ from expecting.expected.symm]
    exact found
  have advanced := expecting.held.advance lookup
  refine ⟨(expecting.held.next_eq lookup).1, expecting.bounded, ?_, ?_⟩
  · rw [table_dispatched found, expecting.expected]
    exact advanced
  · show pdq.nextExpectedSequenceId + 1 = _
    rw [expecting.expected, UInt16.ofNat_add, UInt16.add_assoc]
    rfl

theorem Expecting.isFrontier (expecting : Expecting item start total arrived next pdq)
    (missing : pdq.getNextToDispatch = none) : IsFrontier arrived next := by
  apply expecting.held.isFrontier
  rw [show (sequenceLabelling start total).label next = _ from expecting.expected.symm]
  exact missing

/-- With a turn for every packet, dispatching ends at the first that is missing. -/
theorem Expecting.drain (expecting : Expecting item start total arrived next pdq) {turns : Nat}
    (enough : pdq.queue.keys.length ≤ turns) :
    ∃ count, Expecting item start total arrived (next + count)
        (PacketDispatchQueue.drain turns pdq).2 ∧
      (PacketDispatchQueue.drain turns pdq).1 = (List.range' next count).map item ∧
      IsFrontier arrived (next + count) := by
  induction turns generalizing pdq next with
  | zero =>
      have missing : pdq.getNextToDispatch = none := by
        refine AList.lookup_eq_none.mpr fun member => ?_
        have positive := List.length_pos_of_mem (AList.mem_keys.mp member)
        omega
      exact ⟨0, expecting, rfl, expecting.isFrontier missing⟩
  | succ turns inductionHypothesis =>
      rw [PacketDispatchQueue.drain]
      cases found : pdq.getNextToDispatch with
      | none => exact ⟨0, expecting, rfl, expecting.isFrontier found⟩
      | some packet =>
          obtain ⟨rfl, later⟩ := expecting.dispatched found
          have shorter := length_dispatched found
          obtain ⟨count, expectingAfter, dispatched, isFrontier⟩ :=
            inductionHypothesis later (by omega)
          rw [Nat.add_assoc, Nat.add_comm 1] at expectingAfter isFrontier
          refine ⟨count + 1, expectingAfter, ?_, isFrontier⟩
          rw [List.range'_succ, List.map_cons, ← dispatched]

theorem Expecting.queuePacket (expecting : Expecting item start total arrived next pdq)
    (numbered : ∀ number < total, (item number).sequenceID = start + UInt16.ofNat number)
    {number : Nat} (inside : SequenceInside total next number) :
    Expecting item start total (arrived ++ [number]) next (pdq.queuePacket (item number)) := by
  refine ⟨?_, ?_, expecting.expected⟩
  · intro other member
    rcases List.mem_append.mp member with before | now
    · exact expecting.bounded other before
    · rw [List.mem_singleton.mp now]
      exact inside.1
  · rw [table_queuePacket, numbered number inside.1]
    exact expecting.held.arrive ⟨expecting.next_le, inside⟩

/-- Along any arrivals the queue dispatches the packets in order, each once; an
arrival of DATA leaves nothing to dispatch before the first missing packet. -/
theorem accepting_expecting (first : Expecting item start total [] 0 pdq)
    (numbered : ∀ number < total, (item number).sequenceID = start + UInt16.ofNat number)
    {arrivals : List Nat}
    (inside : Everywhere (fun before number =>
      SequenceInside total ((accepting item).log pdq before).length number) arrivals) :
    ∃ next, Expecting item start total arrivals next ((accepting item).exec pdq arrivals) ∧
      (accepting item).log pdq arrivals = (List.range next).map item ∧
      ∀ before last, arrivals = before ++ [last] → (item last).packetType = dataPacket →
        IsFrontier arrivals next := by
  induction arrivals using List.reverseRecOn with
  | nil => exact ⟨0, first, rfl, fun before last split => by simp at split⟩
  | append_singleton arrivals last inductionHypothesis =>
      rw [everywhere_append_singleton] at inside
      obtain ⟨next, expecting, dispatched, -⟩ := inductionHypothesis inside.1
      have lastInside := inside.2
      rw [dispatched, List.length_map, List.length_range] at lastInside
      have queued := expecting.queuePacket numbered lastInside
      rw [Machine.exec_append_singleton, Machine.log_append_singleton, dispatched]
      by_cases data : (item last).packetType = dataPacket
      · obtain ⟨count, expectingAfter, more, isFrontier⟩ := queued.drain le_rfl
        refine ⟨next + count, ?_, ?_, fun _ _ _ _ => isFrontier⟩
        · show Expecting item start total _ _ (accept _ _).2
          rw [accept, if_pos data]
          exact expectingAfter
        · show _ ++ (accept _ _).1 = _
          rw [accept, if_pos data, drainAll, more, List.range_add, List.map_append,
            List.range'_eq_map_range]
      · refine ⟨next, ?_, ?_, ?_⟩
        · show Expecting item start total _ next (accept _ _).2
          rw [accept, if_neg data]
          exact queued
        · show _ ++ (accept _ _).1 = _
          rw [accept, if_neg data, List.append_nil]
        · intro before other split isData
          obtain ⟨-, sameLast⟩ := List.append_inj' split rfl
          obtain rfl := List.singleton_inj.mp sameLast
          exact absurd isData data

/-- **Dispatching in order.** A queue that is empty dispatches the packets from
the one it expects on in order, each once, whatever arrives in whatever order and
however often; an arrival of DATA leaves nothing to dispatch before the first
missing packet. Sequence IDs may come round as long as no packet comes that was
dispatched already or is a whole round ahead. -/
theorem accepting_inOrder (empty : pdq.queue = ∅)
    (numbered : ∀ number < total,
      (item number).sequenceID = pdq.nextExpectedSequenceId + UInt16.ofNat number)
    {arrivals : List Nat}
    (inside : Everywhere (fun before number =>
      SequenceInside total ((accepting item).log pdq before).length number) arrivals) :
    ∃ next, (accepting item).log pdq arrivals = (List.range next).map item ∧
      ∀ before last, arrivals = before ++ [last] → (item last).packetType = dataPacket →
        IsFrontier arrivals next := by
  have first : Expecting item pdq.nextExpectedSequenceId total [] 0 pdq := by
    refine ⟨fun _ member => absurd member List.not_mem_nil, held_nil _ _ ?_,
      (UInt16.add_zero _).symm⟩
    intro sequenceID
    rw [table, empty]
    rfl
  obtain ⟨next, -, dispatched, complete⟩ := accepting_expecting first numbered inside
  exact ⟨next, dispatched, complete⟩

/-- DATA packets whose sequence IDs come round after the first two. -/
def sampleRound (number : Nat) : PRUDPPacketInterface :=
  ⟨{ PRUDPPacket.blank with
    packetType := dataPacket
    sequenceID := 65534 + UInt16.ofNat number }, 1⟩

theorem accepting_inOrder_round :
    ∃ next, (accepting sampleRound).log ⟨∅, 65534, by simp⟩ [3, 1, 3, 0, 2] =
        (List.range next).map sampleRound ∧
      ∀ before last, [3, 1, 3, 0, 2] = before ++ [last] →
        (sampleRound last).packetType = dataPacket → IsFrontier [3, 1, 3, 0, 2] next :=
  accepting_inOrder rfl (fun _ _ => rfl : ∀ number < 4, _) (by decide)

end PacketDispatchQueue

end CommunityServers.Nex
