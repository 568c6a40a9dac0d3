import Mathlib.Data.List.GetD
import CommunityServers.Foundation.Machine
import CommunityServers.Relay.Manager

/-!
Contract: which pool IP every relay link presents.

Owns: runs of successful `link` calls on a manager with a host pool, the order
in which such a run creates its links, and the exact condition under which a
console sees its different peers at different IPs.

Hosts are handed out by one cursor that counts created links across every
session, so a link's host is the pool entry at its creation number modulo the
pool size. Nothing in the code relates that number to the two consoles.

Does not own: failed calls, or the sockets behind a link.
-/

set_option autoImplicit false

namespace CommunityServers.Relay

open CommunityServers.Foundation

/-- A `link` call for which both sockets could be opened. -/
structure LinkCall where
  pidA : PID
  pidB : PID
  portA : Nat
  portB : Nat

def LinkCall.key (call : LinkCall) : Bytes := pairKey call.pidA call.pidB

/-- The manager driven by successful `link` calls. -/
def linkMachine (parseIP : Bytes → Option Bytes) :
    Machine RelayManager LinkCall RelayLink where
  step rm call :=
    (rm.link parseIP call.pidA call.pidB (some call.portA) (some call.portB)).manager
  emit rm call :=
    (rm.link parseIP call.pidA call.pidB (some call.portA) (some call.portB)).link.toList

/-- The pair keys in the order in which a run first asks for them. -/
def creations (calls : List LinkCall) : List Bytes :=
  calls.foldl (fun keys call => if call.key ∈ keys then keys else keys ++ [call.key]) []

theorem creations_append_singleton (calls : List LinkCall) (call : LinkCall) :
    creations (calls ++ [call]) =
      if call.key ∈ creations calls then creations calls
      else creations calls ++ [call.key] := by
  unfold creations
  rw [List.foldl_append]
  rfl

/-- The host of the link with a given creation number. -/
def poolHost (publicHost : Bytes) (hosts : List Bytes) (index : Nat) : Bytes :=
  if 0 < hosts.length then hosts.getD (index % hosts.length) [] else publicHost

/-- What a run of successful calls leaves in the manager. -/
structure PoolState (publicHost : Bytes) (hosts : List Bytes)
    (calls : List LinkCall) (rm : RelayManager) : Prop where
  publicHost_eq : rm.publicHost = publicHost
  hosts_eq : rm.hosts = hosts
  cursor : 0 < hosts.length → rm.hostSeq = (creations calls).length
  stored : ∀ key, (rm.links.lookup key).isSome = true ↔ key ∈ creations calls
  host : ∀ key l, rm.links.lookup key = some l →
    l.host = poolHost publicHost hosts ((creations calls).idxOf key)

private theorem linkHost_eq_poolHost {publicHost : Bytes} {hosts : List Bytes}
    {calls : List LinkCall} {rm : RelayManager} (noEmpty : [] ∉ hosts)
    (pool : PoolState publicHost hosts calls rm) :
    rm.linkHost = poolHost publicHost hosts (creations calls).length := by
  unfold RelayManager.linkHost RelayManager.nextHost poolHost
  rw [pool.hosts_eq, pool.publicHost_eq]
  by_cases inPool : 0 < hosts.length
  · have inRange : (creations calls).length % hosts.length < hosts.length :=
      Nat.mod_lt _ inPool
    have chosen : hosts.getD ((creations calls).length % hosts.length) [] ∈ hosts := by
      rw [List.getD_eq_getElem _ _ inRange]
      exact List.getElem_mem inRange
    have notEmpty : hosts.getD ((creations calls).length % hosts.length) [] ≠ [] := by
      intro empty
      rw [empty] at chosen
      exact noEmpty chosen
    rw [if_pos inPool, if_pos inPool, pool.cursor inPool, if_neg notEmpty]
  · rw [if_neg inPool, if_neg inPool, if_pos rfl]

private theorem poolState_repeated {publicHost : Bytes} {hosts : List Bytes}
    {calls : List LinkCall} {rm : RelayManager} (pool : PoolState publicHost hosts calls rm)
    {call : LinkCall} (known : call.key ∈ creations calls) :
    PoolState publicHost hosts (calls ++ [call]) rm := by
  have same : creations (calls ++ [call]) = creations calls := by
    rw [creations_append_singleton, if_pos known]
  exact ⟨pool.publicHost_eq, pool.hosts_eq, same ▸ pool.cursor, same ▸ pool.stored,
    same ▸ pool.host⟩

private theorem advance_hostSeq {publicHost : Bytes} {hosts : List Bytes}
    {calls : List LinkCall} {rm : RelayManager} (pool : PoolState publicHost hosts calls rm)
    (inPool : 0 < hosts.length) : rm.advance.hostSeq = (creations calls).length + 1 := by
  unfold RelayManager.advance
  rw [pool.hosts_eq, if_pos inPool, ← pool.cursor inPool]

private theorem poolState_created (parseIP : Bytes → Option Bytes)
    {publicHost : Bytes} {hosts : List Bytes} (noEmpty : [] ∉ hosts)
    {calls : List LinkCall} {rm : RelayManager}
    (pool : PoolState publicHost hosts calls rm) {call : LinkCall}
    (fresh : call.key ∉ creations calls) (pa pb : Nat) :
    PoolState publicHost hosts (calls ++ [call])
      { rm.advance with
        links := rm.links.insert call.key
          (rm.created parseIP call.pidA call.pidB pa pb) } := by
  have grown : creations (calls ++ [call]) = creations calls ++ [call.key] := by
    rw [creations_append_singleton, if_neg fresh]
  have lookupOld : ∀ key, key ≠ call.key →
      (rm.links.insert call.key (rm.created parseIP call.pidA call.pidB pa pb)).lookup key =
        rm.links.lookup key := fun key isOld => AList.lookup_insert_ne isOld
  refine ⟨?_, ?_, ?_, ?_, ?_⟩
  · show rm.advance.publicHost = publicHost
    unfold RelayManager.advance
    split <;> exact pool.publicHost_eq
  · show rm.advance.hosts = hosts
    rw [advance_hosts, pool.hosts_eq]
  · intro inPool
    rw [grown, List.length_append, List.length_singleton]
    exact advance_hostSeq pool inPool
  · intro key
    by_cases isNew : key = call.key
    · subst isNew
      simp [grown]
    · simp only [lookupOld key isNew, pool.stored, grown, List.mem_append, List.mem_singleton,
        isNew, or_false]
  · intro key l found
    by_cases isNew : key = call.key
    · subst isNew
      have isCreated : rm.created parseIP call.pidA call.pidB pa pb = l := by
        simpa using found
      have position : (creations (calls ++ [call])).idxOf call.key =
          (creations calls).length := by
        rw [grown, List.idxOf_append_of_notMem fresh]
        simp
      rw [← isCreated, position]
      exact linkHost_eq_poolHost noEmpty pool
    · have old : rm.links.lookup key = some l := (lookupOld key isNew).symm.trans found
      have member : key ∈ creations calls := by
        rw [← pool.stored, old]
        rfl
      rw [grown, List.idxOf_append_of_mem member]
      exact pool.host key l old

private theorem poolState_step (parseIP : Bytes → Option Bytes)
    {publicHost : Bytes} {hosts : List Bytes} (noEmpty : [] ∉ hosts)
    {calls : List LinkCall} {rm : RelayManager}
    (pool : PoolState publicHost hosts calls rm) (call : LinkCall) :
    PoolState publicHost hosts (calls ++ [call])
      ((linkMachine parseIP).step rm call) := by
  have cases := link_cases parseIP rm call.pidA call.pidB
    (some call.portA) (some call.portB)
  rcases cases with ⟨l, found, outcome⟩ | ⟨-, failed, -⟩ | ⟨pa, pb, missing, -, -, outcome⟩
  · have known : call.key ∈ creations calls := by
      rw [← pool.stored, LinkCall.key, found]
      rfl
    simp only [linkMachine, outcome]
    exact poolState_repeated pool known
  · rcases failed with impossible | impossible <;> cases impossible
  · have fresh : call.key ∉ creations calls := by
      rw [← pool.stored, LinkCall.key, missing]
      simp
    simp only [linkMachine, outcome]
    exact poolState_created parseIP noEmpty pool fresh pa pb

theorem poolState_exec (parseIP : Bytes → Option Bytes) (publicHost : Bytes)
    {hosts : List Bytes} (noEmpty : [] ∉ hosts) (calls : List LinkCall) :
    PoolState publicHost hosts calls
      ((linkMachine parseIP).exec ((newRelayManager publicHost).setHosts hosts) calls) := by
  have start : PoolState publicHost hosts []
      ((newRelayManager publicHost).setHosts hosts) := by
    refine ⟨rfl, rfl, fun _ => rfl, fun key => ?_, fun key l found => ?_⟩
    · simp [newRelayManager, RelayManager.setHosts, creations]
    · simp [newRelayManager, RelayManager.setHosts] at found
  apply (linkMachine parseIP).history_rule (PoolState publicHost hosts) start
    (fun events call pool _ => poolState_step parseIP noEmpty pool call)
  exact (linkMachine parseIP).guarded_true _ calls

/-- The different peers a run links a console with. -/
def linkedPeers (calls : List LinkCall) (console : PID) : List PID :=
  (calls.filterMap fun call =>
    if call.pidA = console ∧ call.pidB ≠ console then some call.pidB
    else if call.pidB = console ∧ call.pidA ≠ console then some call.pidA
    else none).dedup

/-- Every console sees its different peers at different IPs. -/
def PeersApart (rm : RelayManager) : Prop :=
  ∀ console p q lp lq, p ≠ console → q ≠ console → p ≠ q →
    rm.links.lookup (pairKey console p) = some lp →
    rm.links.lookup (pairKey console q) = some lq → lp.host ≠ lq.host

/-- The links of one console were never created a multiple of the pool size
apart. -/
def CreatedApart (hosts : List Bytes) (calls : List LinkCall) : Prop :=
  ∀ console p q, p ≠ console → q ≠ console → p ≠ q →
    pairKey console p ∈ creations calls → pairKey console q ∈ creations calls →
    0 < hosts.length ∧
      (creations calls).idxOf (pairKey console p) % hosts.length ≠
        (creations calls).idxOf (pairKey console q) % hosts.length

private theorem poolHost_ne_iff (publicHost : Bytes) {hosts : List Bytes}
    (distinct : hosts.Nodup) (left right : Nat) :
    poolHost publicHost hosts left ≠ poolHost publicHost hosts right ↔
      0 < hosts.length ∧ left % hosts.length ≠ right % hosts.length := by
  unfold poolHost
  by_cases inPool : 0 < hosts.length
  · have leftRange : left % hosts.length < hosts.length := Nat.mod_lt _ inPool
    have rightRange : right % hosts.length < hosts.length := Nat.mod_lt _ inPool
    rw [if_pos inPool, if_pos inPool, List.getD_eq_getElem _ _ leftRange,
      List.getD_eq_getElem _ _ rightRange, ne_eq, distinct.getElem_inj_iff]
    simp [inPool]
  · simp [inPool]

/-- **Distinct IPs.** After any run of successful calls, every console sees its
peers at different IPs exactly when no two of its links were created a multiple
of the pool size apart. -/
theorem peersApart_iff_createdApart (parseIP : Bytes → Option Bytes)
    (publicHost : Bytes) (hosts : List Bytes) (distinct : hosts.Nodup)
    (noEmpty : [] ∉ hosts) (calls : List LinkCall) :
    PeersApart
        ((linkMachine parseIP).exec ((newRelayManager publicHost).setHosts hosts) calls) ↔
      CreatedApart hosts calls := by
  have pool := poolState_exec parseIP publicHost noEmpty calls
  constructor
  · intro apart console p q notP notQ different linkedP linkedQ
    obtain ⟨lp, storedP⟩ := Option.isSome_iff_exists.mp ((pool.stored _).mpr linkedP)
    obtain ⟨lq, storedQ⟩ := Option.isSome_iff_exists.mp ((pool.stored _).mpr linkedQ)
    have hosts_ne := apart console p q lp lq notP notQ different storedP storedQ
    rw [pool.host _ _ storedP, pool.host _ _ storedQ] at hosts_ne
    exact (poolHost_ne_iff publicHost distinct _ _).mp hosts_ne
  · intro apart console p q lp lq notP notQ different storedP storedQ
    have linkedP : pairKey console p ∈ creations calls := by
      rw [← pool.stored, storedP]
      rfl
    have linkedQ : pairKey console q ∈ creations calls := by
      rw [← pool.stored, storedQ]
      rfl
    rw [pool.host _ _ storedP, pool.host _ _ storedQ]
    exact (poolHost_ne_iff publicHost distinct _ _).mpr
      (apart console p q notP notQ different linkedP linkedQ)

/-- As long as the whole server has created no more links than the pool has
IPs, the creation numbers cannot collide. -/
theorem createdApart_of_length_le {hosts : List Bytes} {calls : List LinkCall}
    (few : (creations calls).length ≤ hosts.length) : CreatedApart hosts calls := by
  intro console p q _ _ different linkedP linkedQ
  have leftRange := List.idxOf_lt_length_of_mem linkedP
  have rightRange := List.idxOf_lt_length_of_mem linkedQ
  refine ⟨by omega, fun equal => different ?_⟩
  rw [Nat.mod_eq_of_lt (by omega), Nat.mod_eq_of_lt (by omega)] at equal
  exact pairKey_left_inj.mp ((List.idxOf_inj linkedP).mp equal)

def poolOfTwo : List Bytes := [ascii "10.0.0.1", ascii "10.0.0.2"]

/-- A host and two joiners that connect one after the other. -/
def oneSession : List LinkCall := [⟨1, 2, 40000, 40001⟩, ⟨1, 3, 40002, 40003⟩]

theorem oneSession_peersApart :
    poolOfTwo.Nodup ∧ [] ∉ poolOfTwo ∧
      PeersApart ((linkMachine some).exec
        ((newRelayManager (ascii "10.0.0.95")).setHosts poolOfTwo) oneSession) := by
  have distinct : poolOfTwo.Nodup := by decide
  have noEmpty : [] ∉ poolOfTwo := by decide
  refine ⟨distinct, noEmpty, ?_⟩
  apply (peersApart_iff_createdApart some (ascii "10.0.0.95") poolOfTwo distinct
    noEmpty oneSession).mpr
  exact createdApart_of_length_le (by decide)

/-- Console 1 meets console 2, an unrelated pair meets, console 1 meets
console 3. -/
def crossingSessions : List LinkCall :=
  [⟨1, 2, 40000, 40001⟩, ⟨3, 4, 40002, 40003⟩, ⟨1, 3, 40004, 40005⟩]

/-- With two IPs and at most two peers for every console, console 1 is given
its two peers at one IP. -/
theorem crossingSessions_not_peersApart :
    poolOfTwo.Nodup ∧
      (∀ console, (linkedPeers crossingSessions console).length ≤ poolOfTwo.length) ∧
      ¬ PeersApart ((linkMachine some).exec
        ((newRelayManager (ascii "10.0.0.95")).setHosts poolOfTwo) crossingSessions) := by
  refine ⟨by decide, fun console => ?_, fun apart => ?_⟩
  · by_cases named : console ∈ ([1, 2, 3, 4] : List PID)
    · simp only [List.mem_cons, List.not_mem_nil, or_false] at named
      rcases named with rfl | rfl | rfl | rfl <;> decide
    · simp only [List.mem_cons, List.not_mem_nil, or_false, not_or] at named
      have none : linkedPeers crossingSessions console = [] := by
        simp [linkedPeers, crossingSessions, Ne.symm named.1, Ne.symm named.2.1,
          Ne.symm named.2.2.1, Ne.symm named.2.2.2]
      rw [none]
      decide
  · exact apart 1 2 3 _ _ (by decide) (by decide) (by decide) rfl rfl (by decide)

end CommunityServers.Relay
