import CommunityServers.Relay.Handlers
import CommunityServers.Station.Moved

/-!
Contract: the station URLs that leave the relay handlers, read again.

Owns: the texts that the two handlers send in the place of a station of its
owner, and the exact sizes at which such a text is the owner's station at the
address and port of the link.

Does not own: whether there is a link, and what its address is.
-/

set_option autoImplicit false

namespace CommunityServers.Relay

open CommunityServers.Foundation
open CommunityServers.Station

/-- A text that a handler sends in the place of the station `url` of `owner`,
through link `l`: one of `relayRequestProbeInitiationExt` to a target on a host
link, in any pass of its loop, or one of `relayGetSessionURLs` for the host. -/
inductive Rewritten (parseIP : Bytes → Option Bytes) (url : Bytes) (l : RelayLink) :
    PID → Bytes → Prop where
  | probe {connections : List Connection} {hostPID callerPID : PID} {rm : RelayManager}
      {target : ProbeTarget} {t : Connection} {handout : Handout}
      (names : target.connection connections = some t)
      (hostLink : isHostLink hostPID callerPID t.pid = true)
      (linked : (rm.link parseIP callerPID t.pid target.listenA target.listenB).link = some l)
      (sent : handout ∈ (probeTarget parseIP connections hostPID callerPID url rm target).2) :
      Rewritten parseIP url l callerPID handout.url
  | session {findGatheringByID : Lookup} {connections : List Connection}
      {rm : RelayManager} {callerPID : PID} {gid : UInt32} {listenA listenB : Option Nat}
      {orders : Nat → Iteration × Iteration} {gathering : Gathering} {host : Connection}
      {index : Nat} {handouts : List Handout} {handout : Handout}
      (found : findGatheringByID gid = some gathering)
      (online : findConnectionByPID connections gathering.hostPID = some host)
      (linked : (rm.link parseIP gathering.hostPID callerPID listenA listenB).link = some l)
      (station : host.stationURLs[index]? = some (newStationURL url))
      (answered : (relayGetSessionURLs parseIP findGatheringByID connections rm false callerPID gid
        listenA listenB orders).2 = .ok handouts)
      (returned : handouts[index]? = some handout) :
      Rewritten parseIP url l gathering.hostPID handout.url

section Texts

variable {parseIP : Bytes → Option Bytes} {url : Bytes} {l : RelayLink}

theorem probeTarget_url {connections : List Connection} {hostPID callerPID : PID}
    {rm : RelayManager} {target : ProbeTarget} {t : Connection} {handout : Handout}
    (names : target.connection connections = some t)
    (hostLink : isHostLink hostPID callerPID t.pid = true)
    (linked : (rm.link parseIP callerPID t.pid target.listenA target.listenB).link = some l)
    (sent : handout ∈ (probeTarget parseIP connections hostPID callerPID url rm target).2) :
    handout.url = (l.rewrite callerPID (newStationURL url)).URL target.order := by
  simp only [probeTarget, perTargetStation, names, hostLink, if_true, linked] at sent
  split at sent
  · rw [List.mem_singleton.mp sent]
  · cases sent

theorem relayGetSessionURLs_url {findGatheringByID : Lookup}
    {connections : List Connection} {rm : RelayManager} {callerPID : PID} {gid : UInt32}
    {listenA listenB : Option Nat} {orders : Nat → Iteration × Iteration}
    {gathering : Gathering} {host : Connection} {index : Nat} {handouts : List Handout}
    {handout : Handout} {u : StationURL}
    (found : findGatheringByID gid = some gathering)
    (online : findConnectionByPID connections gathering.hostPID = some host)
    (linked : (rm.link parseIP gathering.hostPID callerPID listenA listenB).link = some l)
    (station : host.stationURLs[index]? = some u)
    (answered : (relayGetSessionURLs parseIP findGatheringByID connections rm false callerPID gid
      listenA listenB orders).2 = .ok handouts)
    (returned : handouts[index]? = some handout) :
    handout.url =
      (l.rewrite gathering.hostPID (u.copy (orders index).1)).URL (orders index).2 := by
  simp only [relayGetSessionURLs, Bool.false_eq_true, if_false, found, online, linked] at answered
  rw [← Except.ok.inj answered, List.getElem?_mapIdx, station] at returned
  rw [← Option.some.inj returned]
  rfl

/-- **Rewriting.** What a handler sends in the place of a station is that
station at the link's address and port, exactly if this station fits into a
station URL or is there already. -/
theorem rewritten_readsMoved_iff {owner : PID} {text : Bytes}
    (complete : ReadsCompletely url) (short : l.host.length ≤ 256)
    (noSemicolon : 59 ∉ l.host) (noHash : 35 ∉ l.host)
    (rewritten : Rewritten parseIP url l owner text) :
    ReadsMoved (newStationURL url) l.host (l.endpointFor owner) text ↔
      MovesExactly (newStationURL url) l.host (l.endpointFor owner) := by
  have whole := complete.whole
  cases rewritten with
  | probe names hostLink linked sent =>
      rw [probeTarget_url names hostLink linked sent]
      exact whole.readsMoved_iff short noSemicolon noHash _ _
  | session found online linked station answered returned =>
      rw [relayGetSessionURLs_url found online linked station answered returned]
      exact whole.copy_readsMoved_iff short noSemicolon noHash _ _ _

end Texts

/-- The link of consoles 2 and 1 on a relay without a pool. -/
def probeLink : RelayLink :=
  ⟨2, 1, ascii "198.51.100.9", ⟨ipv4zero, 50000⟩, ⟨ipv4zero, 50001⟩, 50000, 50001⟩

/-- Console 1, which hosts, as a target of console 2. -/
def hostTarget : ProbeTarget := ⟨ascii "prudp:/RVCID=10", some 50000, some 50001, Iteration.stored⟩

def hostConnections : List Connection := [⟨10, 1, true, 1, []⟩]

/-- What console 2 has sent to console 1 for a station of its own. -/
def probeTexts (url : Bytes) : List Bytes :=
  (probeTarget (fun _ => none) hostConnections 1 2 url
    (newRelayManager (ascii "198.51.100.9")) hostTarget).2.map Handout.url

theorem rewritten_of_probeTexts {url text : Bytes} (sent : text ∈ probeTexts url) :
    Rewritten (fun _ => none) url probeLink 2 text := by
  obtain ⟨handout, member, rfl⟩ := List.mem_map.mp sent
  exact Rewritten.probe (t := ⟨10, 1, true, 1, []⟩) (by decide +kernel) (by decide) (by decide)
    member

def shortStation : Bytes := ascii "prudp:/address=192.0.2.2;port=6001;note=x#own"

/-- A station of 1020 bytes, with a note of 985. -/
def longStation : Bytes :=
  ascii "prudp:/address=1.2.3.4;port=9;note=" ++ List.replicate 985 120

theorem shortStation_readsMoved :
    ReadsMoved (newStationURL shortStation) (ascii "198.51.100.9") 50000
      (ascii "prudp:/port=50000;address=198.51.100.9;note=x#own=") :=
  (rewritten_readsMoved_iff (l := probeLink) (by decide +kernel) (by decide) (by decide)
    (by decide) (rewritten_of_probeTexts (by decide +kernel))).mpr (by decide +kernel)

/-- The rewritten station would have 1029 bytes, so the direct address is sent. -/
theorem longStation_not_readsMoved :
    ReadsCompletely longStation ∧
      Rewritten (fun _ => none) longStation probeLink 2 longStation ∧
      ¬ ReadsMoved (newStationURL longStation) (ascii "198.51.100.9") 50000 longStation := by
  have sent : longStation ∈ probeTexts longStation := by decide +kernel
  refine ⟨by decide +kernel, rewritten_of_probeTexts sent, ?_⟩
  intro moved
  have direct : (newStationURL longStation).address = some (ascii "1.2.3.4") := by
    decide +kernel
  have there := moved.address
  rw [direct] at there
  revert there
  decide

end CommunityServers.Relay
