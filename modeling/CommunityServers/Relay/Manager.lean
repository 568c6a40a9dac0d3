import Mathlib.Data.List.AList
import CommunityServers.Foundation.Bytes

/-!
Contract: the relay manager of `relay.go`.

Owns: `relayLink`, `relayManager`, `setHosts`, `pairKey`, `openUDP`, `link` and
`endpointFor`, the pumps a new link starts, the case analysis of one `link`
call, and the facts about the pair key.

The operating system is outside the model: whether `net.ListenUDP` succeeds and
which port it picks are arguments of `link`, and `net.ParseIP` is a parameter.
A link's two learned addresses change while its other fields do not, so they
are kept by the module that runs the pumps.

Does not own: what a pump does, the handlers, or the log lines.
-/

set_option autoImplicit false

namespace CommunityServers.Relay

open CommunityServers.Foundation

abbrev PID := UInt64

/-- A UDP address. An open socket is named by its local address. -/
structure UDPAddr where
  ip : Bytes
  port : Nat
deriving DecidableEq, Repr

structure RelayLink where
  pidA : PID
  pidB : PID
  host : Bytes
  sockA : UDPAddr
  sockB : UDPAddr
  portA : Nat
  portB : Nat
deriving DecidableEq, Repr

structure RelayManager where
  publicHost : Bytes
  hosts : List Bytes
  hostSeq : Nat
  links : AList (fun _ : Bytes => RelayLink)
deriving DecidableEq

def newRelayManager (publicHost : Bytes) : RelayManager :=
  ⟨publicHost, [], 0, ∅⟩

def RelayManager.setHosts (rm : RelayManager) (hosts : List Bytes) : RelayManager :=
  { rm with hosts := hosts }

/-- `fmt.Sprintf("%d-%d", a, b)` after ordering the two numbers. -/
def pairKey (a b : PID) : Bytes :=
  if b < a then formatUint b.toNat ++ 45 :: formatUint a.toNat
  else formatUint a.toNat ++ 45 :: formatUint b.toNat

/-- `net.IPv4zero`, the wildcard address. -/
def ipv4zero : Bytes := ascii "0.0.0.0"

section Link

variable (parseIP : Bytes → Option Bytes)

/-- The address a socket is bound to: the parsed IP when there is one. -/
def bindIP (ip : Bytes) : Bytes :=
  if ip ≠ [] then (parseIP ip).getD ipv4zero else ipv4zero

/-- `listen` is the outcome of `net.ListenUDP`: the chosen port or an error. -/
def openUDP (ip : Bytes) (listen : Option Nat) : Option (UDPAddr × Nat) :=
  listen.map fun port => (⟨bindIP parseIP ip, port⟩, port)

/-- The next pool host; empty when the pool is. -/
def RelayManager.nextHost (rm : RelayManager) : Bytes :=
  if 0 < rm.hosts.length then
    rm.hosts.getD (rm.hostSeq % rm.hosts.length) []
  else
    []

/-- The manager once the round-robin cursor has moved. -/
def RelayManager.advance (rm : RelayManager) : RelayManager :=
  if 0 < rm.hosts.length then { rm with hostSeq := rm.hostSeq + 1 } else rm

/-- The address a new link presents to both peers. -/
def RelayManager.linkHost (rm : RelayManager) : Bytes :=
  if rm.nextHost = [] then rm.publicHost else rm.nextHost

/-- The two address cells of a link. -/
inductive Cell where
  | addrA
  | addrB
deriving DecidableEq, Repr

/-- A pump goroutine, as the arguments it was started with. The link it belongs
to is named by its key. -/
structure Pump where
  key : Bytes
  input : UDPAddr
  output : UDPAddr
  srcAddr : Cell
  dstAddr : Cell
deriving DecidableEq, Repr

/-- A sends to `sockB` and is forwarded to B via `sockA`; B sends to `sockA` and
is forwarded to A via `sockB`. -/
def RelayLink.pumps (l : RelayLink) (key : Bytes) : List Pump :=
  [⟨key, l.sockB, l.sockA, .addrA, .addrB⟩, ⟨key, l.sockA, l.sockB, .addrB, .addrA⟩]

/-- What a `link` call returns and leaves behind. `link` is `none` on an error;
`opened` lists the sockets the call opened and did not close again, `started`
the goroutines it left running. -/
structure LinkOutcome where
  link : Option RelayLink
  manager : RelayManager
  opened : List UDPAddr
  started : List Pump
deriving DecidableEq

def RelayManager.link (rm : RelayManager) (pidA pidB : PID)
    (listenA listenB : Option Nat) : LinkOutcome :=
  match rm.links.lookup (pairKey pidA pidB) with
  | some l => ⟨some l, rm, [], []⟩
  | none =>
      match openUDP parseIP rm.nextHost listenA with
      | none => ⟨none, rm.advance, [], []⟩
      | some (sa, pa) =>
          match openUDP parseIP rm.nextHost listenB with
          | none => ⟨none, rm.advance, [], []⟩
          | some (sb, pb) =>
              let l : RelayLink :=
                { pidA, pidB, host := rm.linkHost, sockA := sa, sockB := sb,
                  portA := pa, portB := pb }
              ⟨some l,
                { rm.advance with links := rm.links.insert (pairKey pidA pidB) l },
                [sa, sb], l.pumps (pairKey pidA pidB)⟩

/-- The link that a successful creation records. -/
def RelayManager.created (rm : RelayManager) (pidA pidB : PID) (pa pb : Nat) :
    RelayLink :=
  { pidA, pidB, host := rm.linkHost,
    sockA := ⟨bindIP parseIP rm.nextHost, pa⟩,
    sockB := ⟨bindIP parseIP rm.nextHost, pb⟩, portA := pa, portB := pb }

/-- Everything one `link` call can do. -/
theorem link_cases (rm : RelayManager) (pidA pidB : PID) (listenA listenB : Option Nat) :
    (∃ l, rm.links.lookup (pairKey pidA pidB) = some l ∧
      rm.link parseIP pidA pidB listenA listenB = ⟨some l, rm, [], []⟩) ∨
    (rm.links.lookup (pairKey pidA pidB) = none ∧
      (listenA = none ∨ listenB = none) ∧
      rm.link parseIP pidA pidB listenA listenB = ⟨none, rm.advance, [], []⟩) ∨
    (∃ pa pb, rm.links.lookup (pairKey pidA pidB) = none ∧
      listenA = some pa ∧ listenB = some pb ∧
      rm.link parseIP pidA pidB listenA listenB =
        ⟨some (rm.created parseIP pidA pidB pa pb),
          { rm.advance with
            links := rm.links.insert (pairKey pidA pidB)
              (rm.created parseIP pidA pidB pa pb) },
          [⟨bindIP parseIP rm.nextHost, pa⟩, ⟨bindIP parseIP rm.nextHost, pb⟩],
          (rm.created parseIP pidA pidB pa pb).pumps (pairKey pidA pidB)⟩) := by
  unfold RelayManager.link
  cases stored : rm.links.lookup (pairKey pidA pidB) with
  | some l => exact Or.inl ⟨l, rfl, rfl⟩
  | none =>
      cases listenA with
      | none => exact Or.inr (Or.inl ⟨rfl, Or.inl rfl, rfl⟩)
      | some pa =>
          cases listenB with
          | none => exact Or.inr (Or.inl ⟨rfl, Or.inr rfl, rfl⟩)
          | some pb => exact Or.inr (Or.inr ⟨pa, pb, rfl, rfl, rfl, rfl⟩)

/-- A stored link is returned as it is, whatever the operating system does. -/
theorem link_of_stored {rm : RelayManager} {pidA pidB : PID} {l : RelayLink}
    (stored : rm.links.lookup (pairKey pidA pidB) = some l)
    (listenA listenB : Option Nat) :
    rm.link parseIP pidA pidB listenA listenB = ⟨some l, rm, [], []⟩ := by
  simp [RelayManager.link, stored]

/-- A successful call leaves the link it returns stored under the pair. -/
theorem link_stores {rm : RelayManager} {pidA pidB : PID} {l : RelayLink}
    {listenA listenB : Option Nat}
    (success : (rm.link parseIP pidA pidB listenA listenB).link = some l) :
    (rm.link parseIP pidA pidB listenA listenB).manager.links.lookup
      (pairKey pidA pidB) = some l := by
  have cases := link_cases parseIP rm pidA pidB listenA listenB
  rcases cases with ⟨l', stored, outcome⟩ | ⟨-, -, outcome⟩ | ⟨pa, pb, -, -, -, outcome⟩
  · rw [outcome] at success ⊢
    exact stored.trans success
  · rw [outcome] at success
    cases success
  · rw [outcome] at success ⊢
    rw [← success]
    exact AList.lookup_insert _

end Link

/-- The relay port a caller uses to reach `targetPID`. -/
def RelayLink.endpointFor (l : RelayLink) (targetPID : PID) : UInt16 :=
  if targetPID = l.pidA then UInt16.ofNat l.portA else UInt16.ofNat l.portB

@[simp] theorem advance_links (rm : RelayManager) : rm.advance.links = rm.links := by
  unfold RelayManager.advance
  split <;> rfl

@[simp] theorem advance_hosts (rm : RelayManager) : rm.advance.hosts = rm.hosts := by
  unfold RelayManager.advance
  split <;> rfl

/-- No call touches a stored link. -/
theorem link_keeps (parseIP : Bytes → Option Bytes) {rm : RelayManager} {key : Bytes}
    {l : RelayLink} (stored : rm.links.lookup key = some l) (pidA pidB : PID)
    (listenA listenB : Option Nat) :
    (rm.link parseIP pidA pidB listenA listenB).manager.links.lookup key = some l := by
  have cases := link_cases parseIP rm pidA pidB listenA listenB
  rcases cases with ⟨_, -, outcome⟩ | ⟨-, -, outcome⟩ | ⟨pa, pb, missing, -, -, outcome⟩
  · rw [outcome]
    exact stored
  · rw [outcome, advance_links]
    exact stored
  · rw [outcome]
    have other : key ≠ pairKey pidA pidB := by
      rintro rfl
      rw [missing] at stored
      cases stored
    exact (AList.lookup_insert_ne other).trans stored

/-! ### The pair key -/

theorem pairKey_comm (a b : PID) : pairKey a b = pairKey b a := by
  unfold pairKey
  by_cases above : b < a
  · rw [if_pos above, if_neg (UInt64.lt_asymm above)]
  · by_cases below : a < b
    · rw [if_neg above, if_pos below]
    · have equal : a = b :=
        UInt64.le_antisymm (UInt64.not_lt.mp above) (UInt64.not_lt.mp below)
      rw [equal]

private theorem separated_inj {a b c d : PID}
    (equal : formatUint a.toNat ++ 45 :: formatUint b.toNat =
      formatUint c.toNat ++ 45 :: formatUint d.toNat) :
    a = c ∧ b = d := by
  have dash : isDigit 45 = false := by decide
  obtain ⟨first, second⟩ := append_separator_inj (notMem_formatUint _ dash)
    (notMem_formatUint _ dash) equal
  exact ⟨UInt64.toNat_inj.mp (formatUint_injective first),
    UInt64.toNat_inj.mp (formatUint_injective second)⟩

/-- The key names the unordered pair and nothing else. -/
theorem pairKey_eq_iff {a b c d : PID} :
    pairKey a b = pairKey c d ↔ (a = c ∧ b = d) ∨ (a = d ∧ b = c) := by
  constructor
  · intro equal
    unfold pairKey at equal
    split at equal <;> split at equal <;>
      obtain ⟨first, second⟩ := separated_inj equal <;> simp [first, second]
  · rintro (⟨rfl, rfl⟩ | ⟨rfl, rfl⟩)
    · rfl
    · exact pairKey_comm _ _

/-- Two peers of one console have different keys with it. -/
theorem pairKey_left_inj {console p q : PID} :
    pairKey console p = pairKey console q ↔ p = q := by
  rw [pairKey_eq_iff]
  constructor
  · rintro (⟨-, equal⟩ | ⟨rfl, rfl⟩)
    · exact equal
    · rfl
  · exact fun equal => Or.inl ⟨rfl, equal⟩

end CommunityServers.Relay
