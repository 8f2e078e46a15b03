import Mathlib.Data.List.Nodup
import Mathlib.Data.UInt
import UavMonitoring.Basics
import UavMonitoring.MapSweep

namespace UavMonitoring.PacketTrackers

open Std Basics

structure PacketStatus where
  packet : Nat
  senderId : Nat
  recv : Bool
  tSent : Time
  tRecvGw : Time
  tRecvBs : Time
deriving DecidableEq

structure EdStatus where
  nSent : UInt32
  nRecv : UInt32
  nInterf : UInt32
  nNoRecvs : UInt32
  nUnderSens : UInt32
deriving DecidableEq

/-- Packets and nodes, which the program tells apart by their address, are
numbered here. -/
structure Trackers where
  packetTracker : ExtTreeMap Nat PacketStatus
  packetRelayedTracker : ExtTreeMap Nat PacketStatus
  edTracker : ExtTreeMap Nat EdStatus
  droppedPacketsTracker : ExtTreeMap Nat UInt32

def empty : Trackers := ⟨∅, ∅, ∅, ∅⟩

def newEdStatus : EdStatus := ⟨0, 0, 0, 0, 0⟩

def transmissionCallback (now : Time) (packet systemId : Nat) (s : Trackers) : Trackers :=
  let pStatus : PacketStatus := ⟨packet, systemId, false, now, 0, 0⟩
  let status := s.edTracker[systemId]?.getD newEdStatus
  { s with
    packetTracker := s.packetTracker.insertIfNew packet pStatus
    edTracker := s.edTracker.insert systemId { status with nSent := status.nSent + 1 } }

/-- Adds to a counter of the node that sent `packet`. Both iterators are used
without a test, so the packet and the node have to be there. -/
def countAtSender (count : EdStatus → EdStatus) (packet : Nat) (s : Trackers) : Option Trackers := do
  let pStatus ← s.packetTracker[packet]?
  let status ← s.edTracker[pStatus.senderId]?
  some { s with edTracker := s.edTracker.insert pStatus.senderId (count status) }

def countReception (status : EdStatus) : EdStatus := { status with nRecv := status.nRecv + 1 }

def countInterference (status : EdStatus) : EdStatus :=
  { status with nInterf := status.nInterf + 1 }

def countNoReceivers (status : EdStatus) : EdStatus :=
  { status with nNoRecvs := status.nNoRecvs + 1 }

def countUnderSensitivity (status : EdStatus) : EdStatus :=
  { status with nUnderSens := status.nUnderSens + 1 }

def packetReceptionCallback (now : Time) (packet : Nat) (s : Trackers) : Option Trackers := do
  let pStatus ← s.packetTracker[packet]?
  let timed := if pStatus.tRecvGw = 0 then { pStatus with tRecvGw := now } else pStatus
  if timed.recv then some { s with packetTracker := s.packetTracker.insert packet timed }
  else
    let s' ← countAtSender countReception packet s
    some { s' with packetTracker := s.packetTracker.insert packet { timed with recv := true } }

def interferenceCallback (packet : Nat) (s : Trackers) : Option Trackers :=
  countAtSender countInterference packet s

def noMoreReceiversCallback (packet : Nat) (s : Trackers) : Option Trackers :=
  countAtSender countNoReceivers packet s

def underSensitivityCallback (packet : Nat) (s : Trackers) : Option Trackers :=
  countAtSender countUnderSensitivity packet s

/-- `sent` is the answer of the relay's `Send`; nothing is written to the sender
of a relayed packet, which stays whatever `junk` it was. -/
def receiveFromLora (now : Time) (packet uid nodeId junk : Nat) (sent : Bool) (s : Trackers) :
    Trackers :=
  let status : PacketStatus := ⟨packet, junk, false, now, 0, 0⟩
  { s with
    packetRelayedTracker := s.packetRelayedTracker.insertIfNew uid status
    droppedPacketsTracker := if sent then s.droppedPacketsTracker
      else s.droppedPacketsTracker.insert nodeId (s.droppedPacketsTracker[nodeId]?.getD 0 + 1) }

def receiveFromBs (now : Time) (uid : Nat) (s : Trackers) : Option Trackers := do
  let status ← s.packetRelayedTracker[uid]?
  some { s with
    packetRelayedTracker := s.packetRelayedTracker.insert uid
      { status with recv := true, tRecvBs := now } }

structure AvgStats (K : Type) where
  psr : Option K
  delayGw : Option K
  delayBs : Option K

def addStatus (tot : UInt32 × UInt32) (_ : Nat) (status : EdStatus) : UInt32 × UInt32 :=
  (tot.1 + status.nSent, tot.2 + status.nRecv)

def addDelay (tRecv : PacketStatus → Time) (tot : Time × UInt32) (_ : Nat) (status : PacketStatus) :
    Time × UInt32 :=
  if status.recv && decide (0 < tRecv status) then
    (tot.1 + (tRecv status - status.tSent), tot.2 + 1)
  else tot

def totals (s : Trackers) : UInt32 × UInt32 := s.edTracker.foldl addStatus (0, 0)

def timeLora (s : Trackers) : Time × UInt32 :=
  s.packetTracker.foldl (addDelay PacketStatus.tRecvGw) (0, 0)

def timeMesh (s : Trackers) : Time × UInt32 :=
  s.packetRelayedTracker.foldl (addDelay PacketStatus.tRecvBs) (0, 0)

def writeNodeAvgStats {K : Type} [Field K] [DecidableEq K] (s : Trackers) : AvgStats K where
  psr := divDouble ((totals s).2.toNat : K) ((totals s).1.toNat : K)
  delayGw := divDouble (getMilliSeconds (timeLora s).1 : K) ((timeLora s).2.toNat : K)
  delayBs := divDouble (getMilliSeconds (timeMesh s).1 : K) ((timeMesh s).2.toNat : K)

inductive Event
  | transmissionCallback (packet systemId : Nat)
  | packetReceptionCallback (packet systemId : Nat)
  | interferenceCallback (packet systemId : Nat)
  | noMoreReceiversCallback (packet systemId : Nat)
  | underSensitivityCallback (packet systemId : Nat)
  | receiveFromLora (packet uid nodeId junk : Nat) (sent : Bool)
  | receiveFromBs (uid : Nat)

def step (s : Trackers) (e : Time × Event) : Option Trackers :=
  match e.2 with
  | .transmissionCallback packet systemId => some (transmissionCallback e.1 packet systemId s)
  | .packetReceptionCallback packet _ => packetReceptionCallback e.1 packet s
  | .interferenceCallback packet _ => interferenceCallback packet s
  | .noMoreReceiversCallback packet _ => noMoreReceiversCallback packet s
  | .underSensitivityCallback packet _ => underSensitivityCallback packet s
  | .receiveFromLora packet uid nodeId junk sent =>
      some (receiveFromLora e.1 packet uid nodeId junk sent s)
  | .receiveFromBs uid => receiveFromBs e.1 uid s

def run (es : List (Time × Event)) : Option Trackers := es.foldlM step empty

theorem run_concat (es : List (Time × Event)) (e : Time × Event) (s : Trackers) :
    run (es ++ [e]) = some s ↔ ∃ s₀, run es = some s₀ ∧ step s₀ e = some s := by
  simp only [run, List.foldlM_append, List.foldlM_cons, List.foldlM_nil, bind_pure]
  exact Option.bind_eq_some_iff

def transmissionOf (e : Time × Event) : Option (Nat × Nat) :=
  match e.2 with
  | .transmissionCallback packet systemId => some (packet, systemId)
  | _ => none

def receptionOf (packet : Nat) (e : Time × Event) : Option Time :=
  match e.2 with
  | .packetReceptionCallback p _ => if p = packet then some e.1 else none
  | _ => none

def relayOf (uid : Nat) (e : Time × Event) : Option Time :=
  match e.2 with
  | .receiveFromLora _ u _ _ _ => if u = uid then some e.1 else none
  | _ => none

def arrivalOf (uid : Nat) (e : Time × Event) : Option Time :=
  match e.2 with
  | .receiveFromBs u => if u = uid then some e.1 else none
  | _ => none

def transmissions (es : List (Time × Event)) : List (Nat × Nat) := es.filterMap transmissionOf

def receptions (es : List (Time × Event)) (packet : Nat) : List Time :=
  es.filterMap (receptionOf packet)

def relays (es : List (Time × Event)) (uid : Nat) : List Time := es.filterMap (relayOf uid)

def arrivals (es : List (Time × Event)) (uid : Nat) : List Time := es.filterMap (arrivalOf uid)

/-- What may happen after `past`: packets are fresh when they are sent, known
when a gateway reports them, and relayed before they arrive. -/
def Expected (past : List (Time × Event)) : Event → Prop
  | .transmissionCallback packet _ => packet ∉ (transmissions past).map Prod.fst
  | .packetReceptionCallback packet _ => packet ∈ (transmissions past).map Prod.fst
  | .interferenceCallback packet _ => packet ∈ (transmissions past).map Prod.fst
  | .noMoreReceiversCallback packet _ => packet ∈ (transmissions past).map Prod.fst
  | .underSensitivityCallback packet _ => packet ∈ (transmissions past).map Prod.fst
  | .receiveFromLora .. => True
  | .receiveFromBs uid => relays past uid ≠ []

instance (past : List (Time × Event)) (e : Event) : Decidable (Expected past e) := by
  cases e <;> simp only [Expected] <;> infer_instance

def PlausibleFrom (past : List (Time × Event)) : List (Time × Event) → Prop
  | [] => True
  | e :: es => Expected past e.2 ∧ PlausibleFrom (past ++ [e]) es

def Plausible (es : List (Time × Event)) : Prop := PlausibleFrom [] es

theorem filterMap_concat {α β : Type} (f : α → Option β) (es : List α) (e : α) :
    (es ++ [e]).filterMap f = es.filterMap f ++ (f e).toList := by
  cases h : f e <;> simp [h]

theorem plausibleFrom_concat (past es : List (Time × Event)) (e : Time × Event) :
    PlausibleFrom past (es ++ [e]) ↔ PlausibleFrom past es ∧ Expected (past ++ es) e.2 := by
  induction es generalizing past with
  | nil => simp [PlausibleFrom]
  | cons a es ih =>
      simp only [List.cons_append, PlausibleFrom, ih, List.append_assoc, and_assoc, List.nil_append]

theorem plausible_concat (es : List (Time × Event)) (e : Time × Event) :
    Plausible (es ++ [e]) ↔ Plausible es ∧ Expected es e.2 := plausibleFrom_concat [] es e

theorem countAtSender_of_mem (count : EdStatus → EdStatus) {packet : Nat} {s : Trackers}
    {pStatus : PacketStatus} {status : EdStatus} (hp : s.packetTracker[packet]? = some pStatus)
    (hst : s.edTracker[pStatus.senderId]? = some status) :
    countAtSender count packet s =
      some { s with edTracker := s.edTracker.insert pStatus.senderId (count status) } := by
  simp [countAtSender, hp, hst]

def received (now : Time) (pStatus : PacketStatus) : PacketStatus :=
  { pStatus with
    recv := true
    tRecvGw := if pStatus.tRecvGw = 0 then now else pStatus.tRecvGw }

theorem packetReceptionCallback_again {now : Time} {packet : Nat} {s : Trackers}
    {pStatus : PacketStatus} (hp : s.packetTracker[packet]? = some pStatus)
    (hrecv : pStatus.recv = true) : packetReceptionCallback now packet s =
      some { s with packetTracker := s.packetTracker.insert packet (received now pStatus) } := by
  obtain ⟨p, senderId, recv, tSent, tRecvGw, tRecvBs⟩ := pStatus
  obtain rfl : recv = true := hrecv
  rw [packetReceptionCallback, hp]
  by_cases ht : tRecvGw = 0 <;> simp [received, ht]

theorem packetReceptionCallback_first {now : Time} {packet : Nat} {s : Trackers}
    {pStatus : PacketStatus} {status : EdStatus} (hp : s.packetTracker[packet]? = some pStatus)
    (hrecv : pStatus.recv = false) (hst : s.edTracker[pStatus.senderId]? = some status) :
    packetReceptionCallback now packet s =
      some { s with
        packetTracker := s.packetTracker.insert packet (received now pStatus)
        edTracker := s.edTracker.insert pStatus.senderId (countReception status) } := by
  have hcount := countAtSender_of_mem countReception hp hst
  rw [packetReceptionCallback, hp]
  by_cases ht : pStatus.tRecvGw = 0 <;> simp [received, ht, hrecv, hcount]

theorem receiveFromBs_of_mem {now : Time} {uid : Nat} {s : Trackers} {status : PacketStatus}
    (h : s.packetRelayedTracker[uid]? = some status) : receiveFromBs now uid s =
      some { s with
        packetRelayedTracker := s.packetRelayedTracker.insert uid
          { status with recv := true, tRecvBs := now } } := by
  simp [receiveFromBs, h]

end UavMonitoring.PacketTrackers
