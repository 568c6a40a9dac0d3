import Mathlib.Data.List.Nodup
import CommunityServers.Nex.Isolation

/-!
Contract: the keys that a session key gives the substreams.

Owns:
- `SetSessionKey` with the order in which the Go map of windows is visited,
  which is any order;
- how often the key has been modified for each substream in a given order, and
  in which orders that is the number of the substream;
- the key of the unreliable packets;
- substreams that had no window then.

Does not own: where the session key comes from. MD5 is a parameter.
-/

set_option autoImplicit false

namespace CommunityServers.Nex

open CommunityServers.Foundation

namespace EncryptionAlgorithm

def key : EncryptionAlgorithm → Bytes
  | dummy d => d.key
  | rc4 r => r.key
  | quazalRC4 r => r.key

theorem key_setKey (algorithm : EncryptionAlgorithm) (key : Bytes) :
    (algorithm.setKey key).key = key := by
  cases algorithm with
  | dummy d => rfl
  | rc4 r =>
      show (r.setKey key).key = key
      unfold RC4.setKey
      cases Rc4.newCipher key <;> rfl
  | quazalRC4 r => rfl

theorem InStep.setKey {sending receiving : EncryptionAlgorithm} (inStep : sending.InStep receiving)
    (key : Bytes) : (sending.setKey key).InStep (receiving.setKey key) := by
  cases sending with
  | dummy d => cases receiving <;> exact inStep
  | rc4 r =>
      cases receiving with
      | dummy _ => exact inStep
      | rc4 other =>
          show (r.setKey key).cipher = (other.setKey key).decipher
          unfold RC4.setKey
          cases Rc4.newCipher key with
          | error _ => exact inStep
          | ok _ => rfl
      | quazalRC4 _ => exact inStep
  | quazalRC4 r => cases receiving <;> exact inStep

end EncryptionAlgorithm

namespace PRUDPConnection

/-! ### Setting the key -/

/-- The key of the next substream. Only the first half changes. -/
def modifySessionKey (sessionKey : Bytes) : Bytes :=
  sessionKey.mapIdx fun i byte =>
    if i < sessionKey.length / 2 then byte + UInt8.ofNat (sessionKey.length / 2 + 1 - i) else byte

/-- One visit of the loop: the key as far as it has been modified, and the
connection. -/
def keyWindow (state : Bytes × PRUDPConnection) (substreamID : UInt8) : Bytes × PRUDPConnection :=
  match state.2.slidingWindows substreamID with
  | none => state
  | some slidingWindow =>
      let sessionKey := if substreamID = 0 then state.1 else modifySessionKey state.1
      (sessionKey,
        state.2.setSlidingWindow substreamID (slidingWindow.setCipherKey sessionKey))

def unreliableBaseKey (md5 : Bytes → Vector UInt8 16) (sessionKey : Bytes) : Vector UInt8 32 :=
  md5 (sessionKey ++ [0x18, 0xD8, 0x23, 0x34, 0x37, 0xE4, 0xE3, 0xFE]) ++
    md5 (sessionKey ++ [0x23, 0x3E, 0x60, 0x01, 0x23, 0xCD, 0xAB, 0x80])

/-- `SetSessionKey` when the windows are visited in a given order. -/
def setSessionKey (md5 : Bytes → Vector UInt8 16) (order : List UInt8) (sessionKey : Bytes)
    (pc : PRUDPConnection) : PRUDPConnection :=
  let keyed := order.foldl keyWindow (sessionKey, { pc with sessionKey := sessionKey })
  { keyed.2 with unreliablePacketBaseKey := unreliableBaseKey md5 keyed.1 }

/-! ### The modified keys -/

theorem length_iterate (count : Nat) (sessionKey : Bytes) :
    (modifySessionKey^[count] sessionKey).length = sessionKey.length := by
  induction count with
  | zero => rfl
  | succ count inductionHypothesis =>
      rw [Function.iterate_succ_apply', modifySessionKey, List.length_mapIdx, inductionHypothesis]

/-- A byte of the first half after some modifications. -/
theorem getElem?_iterate {sessionKey : Bytes} {i : Nat} (inside : i < sessionKey.length / 2)
    (count : Nat) :
    (modifySessionKey^[count] sessionKey)[i]? =
      sessionKey[i]?.map (· + UInt8.ofNat (count * (sessionKey.length / 2 + 1 - i))) := by
  induction count with
  | zero => simp
  | succ count inductionHypothesis =>
      rw [Function.iterate_succ_apply', modifySessionKey, List.getElem?_mapIdx, length_iterate,
        inductionHypothesis, Option.map_map]
      congr 1
      funext byte
      rw [Function.comp_apply, if_pos inside, Nat.succ_mul, UInt8.ofNat_add, UInt8.add_assoc]

/-- The keys come round after 256 modifications and not before. -/
theorem modifySessionKey_iterate_inj {sessionKey : Bytes} (long : 4 ≤ sessionKey.length)
    {first second : Nat}
    (same : modifySessionKey^[first] sessionKey = modifySessionKey^[second] sessionKey) :
    first % 256 = second % 256 := by
  have at_index (i : Nat) (inside : i < sessionKey.length / 2) :
      first * (sessionKey.length / 2 + 1 - i) % 256 =
        second * (sessionKey.length / 2 + 1 - i) % 256 := by
    have found := congrArg (fun bytes : Bytes => bytes[i]?) same
    have bound : i < sessionKey.length := by omega
    simp only [getElem?_iterate inside, List.getElem?_eq_getElem bound, Option.map_some,
      Option.some.injEq, UInt8.add_right_inj] at found
    exact congrArg UInt8.toNat found
  have zeroth := at_index 0 (by omega)
  have next := at_index 1 (by omega)
  rw [Nat.sub_zero, Nat.mul_succ, Nat.mul_succ] at zeroth
  rw [Nat.add_sub_cancel] at next
  omega

/-! ### Visiting the windows -/

/-- How often the key has been modified when a substream is given it. -/
def modifications (order : List UInt8) (substreamID : UInt8) : Nat :=
  (order.take (order.idxOf substreamID + 1)).countP (· ≠ 0)

theorem modifications_cons_self (substreamID : UInt8) (rest : List UInt8) :
    modifications (substreamID :: rest) substreamID = if substreamID = 0 then 0 else 1 := by
  by_cases zero : substreamID = 0 <;> simp [modifications, zero]

theorem modifications_cons_ne {first substreamID : UInt8} (different : first ≠ substreamID)
    (rest : List UInt8) :
    modifications (first :: rest) substreamID =
      modifications rest substreamID + if first = 0 then 0 else 1 := by
  unfold modifications
  rw [List.idxOf_cons_ne _ different, List.take_succ_cons, List.countP_cons]
  by_cases zero : first = 0 <;> simp [zero]

/-- The loop over the windows: the key it ends with, and the key of each
substream. -/
theorem foldl_keyWindow {order : List UInt8} (nodup : order.Nodup) (pc : PRUDPConnection)
    (present : ∀ substreamID ∈ order, (pc.slidingWindows substreamID).isSome)
    (sessionKey : Bytes) :
    (order.foldl keyWindow (sessionKey, pc)).1 =
        modifySessionKey^[order.countP (· ≠ 0)] sessionKey ∧
      ∀ substreamID, (order.foldl keyWindow (sessionKey, pc)).2.slidingWindows substreamID =
        if substreamID ∈ order then
          (pc.slidingWindows substreamID).map
            (SlidingWindow.setCipherKey
              (modifySessionKey^[modifications order substreamID] sessionKey))
        else pc.slidingWindows substreamID := by
  induction order generalizing pc sessionKey with
  | nil => exact ⟨rfl, fun _ => rfl⟩
  | cons first rest inductionHypothesis =>
      obtain ⟨slidingWindow, found⟩ :=
        Option.isSome_iff_exists.mp (present first List.mem_cons_self)
      obtain ⟨fresh, nodupRest⟩ := List.nodup_cons.mp nodup
      have visited : keyWindow (sessionKey, pc) first =
          (modifySessionKey^[if first = 0 then 0 else 1] sessionKey,
            pc.setSlidingWindow first (slidingWindow.setCipherKey
              (modifySessionKey^[if first = 0 then 0 else 1] sessionKey))) := by
        unfold keyWindow
        rw [found]
        by_cases zero : first = 0 <;> simp [zero]
      have untouched (substreamID : UInt8) (different : substreamID ≠ first)
          (sw : SlidingWindow) :
          (pc.setSlidingWindow first sw).slidingWindows substreamID =
            pc.slidingWindows substreamID :=
        Function.update_of_ne different _ _
      rw [List.foldl_cons, visited]
      have later := inductionHypothesis nodupRest (pc.setSlidingWindow first
        (slidingWindow.setCipherKey (modifySessionKey^[if first = 0 then 0 else 1] sessionKey)))
        (fun substreamID member => by
          rw [untouched substreamID (fun same => fresh (same ▸ member))]
          exact present substreamID (List.mem_cons_of_mem first member))
        (modifySessionKey^[if first = 0 then 0 else 1] sessionKey)
      simp only [← Function.iterate_add_apply] at later
      refine ⟨?_, fun substreamID => ?_⟩
      · rw [later.1, List.countP_cons]
        by_cases zero : first = 0 <;> simp [zero]
      · rw [later.2]
        by_cases same : substreamID = first
        · subst same
          rw [if_neg fresh, if_pos List.mem_cons_self, modifications_cons_self, found]
          exact Function.update_self _ _ _
        · rw [untouched substreamID same, modifications_cons_ne (Ne.symm same)]
          simp [List.mem_cons, same]

/-! ### Orders -/

/-- With substream 0 first, each is given the key modified as often as others
were visited before it. -/
theorem modifications_getElem {rest : List UInt8} (nodup : (0 :: rest).Nodup) {i : Nat}
    (inside : i < (0 :: rest).length) : modifications (0 :: rest) ((0 :: rest)[i]) = i := by
  have none_zero : ∀ substreamID ∈ rest, substreamID ≠ 0 := by
    rintro substreamID member rfl
    exact (List.nodup_cons.mp nodup).1 member
  have all : (rest.take i).countP (· ≠ 0) = (rest.take i).length := by
    rw [List.countP_eq_length]
    intro substreamID member
    exact decide_eq_true (none_zero substreamID (List.mem_of_mem_take member))
  rw [modifications, nodup.idxOf_getElem, List.take_succ_cons, List.countP_cons, all,
    List.length_take_of_le (Nat.le_of_lt_succ inside)]
  rfl

theorem toNat_getElem_substreams {maxSubstreamID : UInt8} {i : Nat}
    (inside : i < (substreams maxSubstreamID).length) :
    (substreams maxSubstreamID)[i].toNat = i := by
  have small : i < (maxSubstreamID + 1).toNat := by
    simpa [substreams] using inside
  simp only [substreams, List.getElem_map, List.getElem_range]
  exact UInt8.toNat_ofNat_of_lt' (small.trans (maxSubstreamID + 1).toNat_lt)

theorem mem_substreams {maxSubstreamID substreamID : UInt8} :
    substreamID ∈ substreams maxSubstreamID ↔
      substreamID.toNat < (maxSubstreamID + 1).toNat := by
  constructor
  · intro member
    obtain ⟨i, inside, rfl⟩ := List.mem_iff_getElem.mp member
    rw [toNat_getElem_substreams inside]
    simpa [substreams] using inside
  · intro small
    exact List.mem_map.mpr ⟨substreamID.toNat, List.mem_range.mpr small, UInt8.ofNat_toNat⟩

theorem nodup_substreams (maxSubstreamID : UInt8) : (substreams maxSubstreamID).Nodup := by
  refine List.nodup_iff_injective_get.mpr fun first second same => Fin.ext ?_
  have numbers := congrArg UInt8.toNat same
  rwa [List.get_eq_getElem, List.get_eq_getElem, toNat_getElem_substreams,
    toNat_getElem_substreams] at numbers

/-- Every substream is given the key modified as often as its number says in
ascending order only. -/
theorem modifications_eq_iff {maxSubstreamID : UInt8} {order : List UInt8}
    (visits : order.Perm (substreams maxSubstreamID)) :
    (∀ substreamID ∈ order, modifications order substreamID = substreamID.toNat) ↔
      order = substreams maxSubstreamID := by
  have nodup : order.Nodup := visits.nodup_iff.mpr (nodup_substreams maxSubstreamID)
  have zero_mem (nonempty : order ≠ []) : 0 ∈ order := by
    obtain ⟨first, rest, rfl⟩ := List.exists_cons_of_ne_nil nonempty
    have small := mem_substreams.mp (visits.mem_iff.mp List.mem_cons_self)
    exact visits.mem_iff.mpr (mem_substreams.mpr (Nat.zero_lt_of_lt small))
  constructor
  · intro counted
    cases order with
    | nil => exact (List.nil_perm.mp visits).symm
    | cons first rest =>
        have present := zero_mem (List.cons_ne_nil first rest)
        obtain rfl : first = 0 := by
          by_contra different
          have none := counted 0 present
          rw [modifications_cons_ne different, if_neg different] at none
          exact Nat.succ_ne_zero _ none
        refine List.ext_getElem visits.length_eq fun i inside other => UInt8.toNat_inj.mp ?_
        rw [toNat_getElem_substreams other, ← counted _ (List.getElem_mem inside),
          modifications_getElem nodup inside]
  · intro ascending substreamID member
    cases order with
    | nil => cases member
    | cons first rest =>
        obtain ⟨i, inside, rfl⟩ := List.mem_iff_getElem.mp member
        have numbered {j : Nat} (bound : j < (first :: rest).length) :
            ((first :: rest)[j]).toNat = j := by
          simp only [ascending]
          exact toNat_getElem_substreams _
        obtain rfl : first = 0 := UInt8.toNat_inj.mp (numbered (Nat.zero_lt_succ _))
        rw [modifications_getElem nodup inside, numbered inside]

theorem modifications_lt {maxSubstreamID : UInt8} {order : List UInt8}
    (visits : order.Perm (substreams maxSubstreamID)) (substreamID : UInt8) :
    modifications order substreamID < 256 := by
  have length : order.length = (maxSubstreamID + 1).toNat := by
    rw [visits.length_eq, substreams, List.length_map, List.length_range]
  calc modifications order substreamID
      ≤ (order.take (order.idxOf substreamID + 1)).length := List.countP_le_length
    _ ≤ order.length := List.length_take_le' _ _
    _ < 256 := length ▸ (maxSubstreamID + 1).toNat_lt

/-! ### Keys of a connection -/

variable {md5 : Bytes → Vector UInt8 16} {order : List UInt8} {maxSubstreamID substreamID : UInt8}

theorem foldl_createSlidingWindow (pc : PRUDPConnection) (order : List UInt8)
    (substreamID : UInt8) :
    (order.foldl createSlidingWindow pc).slidingWindows substreamID =
        (if substreamID ∈ order then some pc.newSlidingWindow else pc.slidingWindows substreamID) ∧
      (order.foldl createSlidingWindow pc).streamSettings = pc.streamSettings := by
  induction order generalizing pc with
  | nil => exact ⟨rfl, rfl⟩
  | cons first rest inductionHypothesis =>
      obtain ⟨windows, settings⟩ := inductionHypothesis (pc.createSlidingWindow first)
      refine ⟨?_, settings⟩
      rw [List.foldl_cons, windows]
      by_cases same : substreamID = first
      · subst same
        rw [if_pos List.mem_cons_self]
        split
        · rfl
        · exact Function.update_self _ _ _
      · simp only [List.mem_cons, same, false_or]
        congr 1
        exact Function.update_of_ne same _ _

/-- The windows are those that `InitializeSlidingWindows` makes. -/
def Initialized (maxSubstreamID : UInt8) (pc : PRUDPConnection) : Prop :=
  ∀ substreamID, pc.slidingWindows substreamID =
    if substreamID ∈ substreams maxSubstreamID then some pc.newSlidingWindow else none

theorem initialized (pc : PRUDPConnection) (maxSubstreamID : UInt8) :
    Initialized maxSubstreamID (pc.initializeSlidingWindows maxSubstreamID) := by
  intro substreamID
  obtain ⟨windows, settings⟩ := foldl_createSlidingWindow
    { pc with slidingWindows := fun _ => none } (substreams maxSubstreamID) substreamID
  refine windows.trans ?_
  unfold newSlidingWindow initializeSlidingWindows
  rw [settings]

theorem Initialized.present {pc : PRUDPConnection} (made : Initialized maxSubstreamID pc)
    (visits : order.Perm (substreams maxSubstreamID)) :
    ∀ visited ∈ order, (pc.slidingWindows visited).isSome := by
  intro visited member
  rw [made visited, if_pos (visits.mem_iff.mp member)]
  rfl

/-- Only windows are changed by visiting them. -/
theorem foldl_keyWindow_frame (order : List UInt8) (sessionKey : Bytes) (pc : PRUDPConnection) :
    ∃ windows, (order.foldl keyWindow (sessionKey, pc)).2 =
      { pc with slidingWindows := windows } := by
  induction order generalizing sessionKey pc with
  | nil => exact ⟨pc.slidingWindows, rfl⟩
  | cons first rest inductionHypothesis =>
      rw [List.foldl_cons]
      unfold keyWindow
      cases pc.slidingWindows first with
      | none => exact inductionHypothesis sessionKey pc
      | some slidingWindow => exact inductionHypothesis _ _

/-- Only windows and keys are changed by a session key. -/
theorem setSessionKey_frame (md5 : Bytes → Vector UInt8 16) (order : List UInt8)
    (sessionKey : Bytes) (pc : PRUDPConnection) :
    ∃ windows baseKey, pc.setSessionKey md5 order sessionKey =
      { pc with
        sessionKey := sessionKey
        slidingWindows := windows
        unreliablePacketBaseKey := baseKey } := by
  obtain ⟨windows, same⟩ :=
    foldl_keyWindow_frame order sessionKey { pc with sessionKey := sessionKey }
  unfold setSessionKey
  simp only [same]
  exact ⟨windows, _, rfl⟩

/-- Which key each substream is given, and that others have none of their own. -/
theorem Initialized.windowOf_setSessionKey {pc : PRUDPConnection}
    (made : Initialized maxSubstreamID pc) (md5 : Bytes → Vector UInt8 16) (sessionKey : Bytes)
    (visits : order.Perm (substreams maxSubstreamID)) (substreamID : UInt8) :
    (pc.setSessionKey md5 order sessionKey).windowOf substreamID =
      if substreamID ∈ substreams maxSubstreamID then
        pc.newSlidingWindow.setCipherKey
          (modifySessionKey^[modifications order substreamID] sessionKey)
      else pc.newSlidingWindow := by
  have windows := (foldl_keyWindow (visits.nodup_iff.mpr (nodup_substreams maxSubstreamID))
    { pc with sessionKey := sessionKey } (made.present visits) sessionKey).2 substreamID
  have settings :
      (pc.setSessionKey md5 order sessionKey).newSlidingWindow = pc.newSlidingWindow := by
    obtain ⟨_, _, same⟩ := setSessionKey_frame md5 order sessionKey pc
    rw [same]
    rfl
  unfold windowOf
  rw [settings]
  show Option.getD ((order.foldl keyWindow _).2.slidingWindows substreamID) _ = _
  rw [windows]
  simp only [visits.mem_iff, made substreamID]
  split <;> rfl

/-- The key of the unreliable packets depends on how many windows there are, and
not on the order. -/
theorem Initialized.unreliablePacketBaseKey_setSessionKey {pc : PRUDPConnection}
    (made : Initialized maxSubstreamID pc) (md5 : Bytes → Vector UInt8 16) (sessionKey : Bytes)
    (visits : order.Perm (substreams maxSubstreamID)) :
    (pc.setSessionKey md5 order sessionKey).unreliablePacketBaseKey =
      unreliableBaseKey md5
        (modifySessionKey^[(substreams maxSubstreamID).countP (· ≠ 0)] sessionKey) := by
  have key := (foldl_keyWindow (visits.nodup_iff.mpr (nodup_substreams maxSubstreamID))
    { pc with sessionKey := sessionKey } (made.present visits) sessionKey).1
  rw [visits.countP_eq] at key
  exact congrArg (unreliableBaseKey md5) key

/-- **Order of the windows.** The windows are keyed while a Go map is ranged
over. Each substream has the key of its number exactly when they happen to be
visited in ascending order; the key of the unreliable packets is the same in
every order. -/
theorem setSessionKey_ascending_iff (md5 : Bytes → Vector UInt8 16) (pc : PRUDPConnection)
    {sessionKey : Bytes} (long : 4 ≤ sessionKey.length)
    (visits : order.Perm (substreams maxSubstreamID)) :
    let keyed (visited : List UInt8) :=
      (pc.initializeSlidingWindows maxSubstreamID).setSessionKey md5 visited sessionKey
    ((∀ substreamID ∈ substreams maxSubstreamID, ((keyed order).algorithmOf substreamID).key =
        modifySessionKey^[substreamID.toNat] sessionKey) ↔ order = substreams maxSubstreamID) ∧
      (keyed order).unreliablePacketBaseKey =
        (keyed (substreams maxSubstreamID)).unreliablePacketBaseKey := by
  have made := initialized pc maxSubstreamID
  refine ⟨?_, ?_⟩
  · rw [← modifications_eq_iff visits]
    refine forall_congr' fun substreamID => ?_
    rw [visits.mem_iff]
    refine forall_congr' fun member => ?_
    have small := modifications_lt visits substreamID
    have byte := substreamID.toNat_lt
    rw [algorithmOf, made.windowOf_setSessionKey md5 sessionKey visits, if_pos member]
    refine (Eq.congr_left (EncryptionAlgorithm.key_setKey _ _)).trans
      ⟨fun same => ?_, fun same => ?_⟩
    · have congruent := modifySessionKey_iterate_inj long same
      omega
    · rw [same]
  · rw [made.unreliablePacketBaseKey_setSessionKey md5 sessionKey visits,
      made.unreliablePacketBaseKey_setSessionKey md5 sessionKey (List.Perm.refl _)]

/-- Two substreams visited in the wrong order. -/
theorem setSessionKey_ascending_iff_descending :
    ¬ ∀ substreamID ∈ substreams 1,
      (((((new newStreamSettings).initializeSlidingWindows 1).setSessionKey
        (fun _ => Vector.replicate 16 0) [1, 0] [1, 2, 3, 4]).algorithmOf substreamID).key =
          modifySessionKey^[substreamID.toNat] [1, 2, 3, 4]) :=
  fun keyed => absurd ((setSessionKey_ascending_iff (fun _ => Vector.replicate 16 0)
    (new newStreamSettings) (by decide) (by decide)).1.mp keyed) (by decide)

end PRUDPConnection

end CommunityServers.Nex
