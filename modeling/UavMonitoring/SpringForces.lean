import UavMonitoring.Clusters
import UavMonitoring.SeedsManager

namespace UavMonitoring.SpringForces

open Std Basics EdsMonitor CounterLoop

variable {K : Type} [Field K] [LinearOrder K]

structure RoutingTableEntry where
  destAddr : Nat
  distance : UInt32
deriving DecidableEq

structure Config (K : Type) where
  id : Nat
  speed : K
  tol : K
  kAta : K
  lbReqAta : K
  lbReqAtg : K
  predictionMode : Nat
  bsPos : Vector3D K
  bsAddr : Nat
  kAtgPlusMode : Bool
  ataNodes : List Nat

/-- What the rest of the simulation shows a UAV during one of its steps: where
it is, its routing table, the addresses, positions and `GetEdsList` of the
nodes, the link budgets and the outcome of the clustering. The `junk` members
are what a conversion out of range and a local token left as declared hold. -/
structure World (K : Type) where
  position : Vector3D K
  entries : List RoutingTableEntry
  address : Nat → Nat
  positionOf : Nat → Vector3D K
  coverage : Nat → EdsMap K
  ataLinkBudget : Nat → K
  atgLinkBudget : Vector3D K → K
  clustering : Clusters.Clustering K
  junkRatio : UInt32
  junkPause : UInt32
  junkEntry : EdsEntry K
  junkToken : SeedsManager.Token K

/-- What a step calls: `ReceiveToken` of another UAV, the movement helper, and
the calls within the UAV that the results speak about. -/
inductive Call (K : Type)
  | receiveToken (node : Nat) (token : SeedsManager.Token K)
  | setVelocity (v : Option (Vector3D K))
  | unpause
  | pause
  | createClusters (lost : HistoryMap K)
  | findMostSimilarNode (result : Nat)
  | generateToken

/-- A force in the plane, `none` once a component is not a number. -/
abbrev Force (K : Type) := Option (Vector3D K)

def addForce : Force K → Force K → Force K
  | some f, some g => some (f + g)
  | _, _ => none

def pull (c : CMath K) (force : K) (diff : Vector3D K) : Force K :=
  (divDouble force (c.sqrt (diff.x * diff.x + diff.y * diff.y))).map fun k =>
    ⟨k * diff.x, k * diff.y, 0⟩

variable (c : CMath K) (cfg : Config K) (w : World K)

def computeAtaForce (neighbours : List Nat) : Option (Force K) :=
  accumulate 16 neighbours (fun f j =>
    let k_ata : K := cfg.kAta + (cfg.ataNodes.length / neighbours.length : Nat) - 1
    let disp := cfg.lbReqAta - w.ataLinkBudget j
    addForce f (pull c (k_ata * disp) (w.positionOf j - w.position))) (some 0)

/-- `cnt`, which starts at 1 and goes up for every neighbour covering the device. -/
def countCovering (neighbours : List Nat) (ed : Nat) : Option UInt16 :=
  accumulate 16 neighbours (fun cnt j => if ed ∈ w.coverage j then cnt + 1 else cnt) 1

def getMaxCardinality (neighbours : List Nat) (eds : EdsMap K) : Option UInt32 :=
  eds.toList.foldlM (fun maxCard e =>
    (countCovering w neighbours e.1).map fun cnt =>
      if maxCard < cnt.toUInt32 then cnt.toUInt32 else maxCard) 1

def kAtgPlus (neighbours : List Nat) (maxCard : UInt32) (ed : Nat) : Option (Option K) :=
  if cfg.kAtgPlusMode then
    (countCovering w neighbours ed).map fun cnt => divDouble (maxCard.toNat : K) (cnt.toNat : K)
  else some (some 1)

def atgStep (neighbours : List Nat) (maxCard : UInt32) (f : Force K) (e : Nat × EdsEntry K) :
    Option (Force K) :=
  (kAtgPlus cfg w neighbours maxCard e.1).map fun k =>
    let pos : Vector3D K := ⟨e.2.x, e.2.y, 0⟩
    let disp := cfg.lbReqAtg - w.atgLinkBudget pos
    let diff := pos - ⟨w.position.x, w.position.y, 0⟩
    addForce f (k.bind fun k => pull c (k * disp) diff)

def computeAtgForce (neighbours : List Nat) (eds : EdsMap K) : Option (Force K) := do
  let maxCard ← getMaxCardinality w neighbours eds
  eds.toList.foldlM (atgStep c cfg w neighbours maxCard) (some 0)

def computeSeedForce (now : Time) (tokens : List (SeedsManager.Token K)) : Option (Force K) :=
  (SeedsManager.getSeeds now tokens).map fun seeds => seeds.foldl (fun f seed =>
    if 1000 < calculateDistance c w.position seed.origin then f
    else
      let disp := cfg.lbReqAtg - w.atgLinkBudget seed.pos
      addForce f (pull c (seed.weight * disp) (seed.pos - w.position))) (some 0)

def computeTotalForce (now : Time) (neighbours : List Nat) (eds : EdsMap K) (busy : Bool)
    (tokens : List (SeedsManager.Token K)) : Option (Force K) := do
  let forceAta ← computeAtaForce c cfg w neighbours
  let forceAtg ← computeAtgForce c cfg w neighbours eds
  let forceSeed ← if eds.size = 0 ∧ !busy then computeSeedForce c cfg w now tokens else some (some 0)
  some (addForce (addForce forceAta forceAtg) forceSeed)

def getDirection (force : Vector3D K) : Force K := pull c cfg.speed force

/-- A force is lost to a zero distance, which leaves it without a number for a
length; that exceeds nothing. (An infinite one takes 65535 neighbours, whose
count comes round to 0.) -/
def doMoveForces (now : Time) (neighbours : List Nat) (eds : EdsMap K) (busy : Bool)
    (tokens : List (SeedsManager.Token K)) : Option (List (Call K)) :=
  (computeTotalForce c cfg w now neighbours eds busy tokens).map fun force =>
    match force with
    | some f =>
        if cfg.tol < getLength c f then [.setVelocity (getDirection c cfg f), .unpause] else [.pause]
    | none => [.pause]

def goBack : List (Call K) :=
  [.setVelocity (pull c (cfg.speed * 2) (cfg.bsPos - w.position)), .unpause]

end UavMonitoring.SpringForces
