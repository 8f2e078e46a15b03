import UavMonitoring.LoadMonitor
import UavMonitoring.SpringForces

namespace UavMonitoring.VirtualSprings

open Std Basics EdsMonitor Clusters CounterLoop LoadMonitor SeedsManager SpringForces

variable {K : Type} [Field K] [LinearOrder K]

structure Uav (K : Type) where
  pause : UInt32
  hops : UInt32
  persist : UInt32
  load : K
  lastNode : Bool
  rangeApprox : K
  neighbours : List Nat
  allNeighbours : List Nat
  eds : EdsMap K
  monitor : Monitor K
  loadMonitor : LoadWindow
  tokens : List (Token K)
  token : Token K

/-- A token as its declaration leaves it: the class members have constructors,
the numbers keep what was there before. -/
def newToken (junk : Token K) : Token K :=
  { junk with lastPos := 0, lastTime := 0, speed := 0, expires := 0 }

def doInitialize (junk : Token K) : Uav K where
  pause := 0
  hops := 0
  persist := 0
  load := 0
  lastNode := false
  rangeApprox := 0
  neighbours := []
  allNeighbours := []
  eds := ∅
  monitor := empty
  loadMonitor := setLoadInterval (minutes 3) ⟨0, []⟩
  tokens := []
  token := newToken junk

variable (c : CMath K) (cfg : Config K) (w : World K) (now : Time)

def hasPathToBs : Option RoutingTableEntry :=
  match search 16 w.entries (fun e => decide (e.destAddr = cfg.bsAddr)) with
  | none => none
  | some (some i) => w.entries[i]?
  | some none => some ⟨0, 0⟩

def neighbourStep (e : RoutingTableEntry) (s : List Nat × List Nat) (j : Nat) : List Nat × List Nat :=
  if w.address j = e.destAddr then
    (if e.distance = 1 then s.1 ++ [j] else s.1,
      if 0 < (w.coverage j).size ∨ e.distance = 1 then s.2 ++ [j] else s.2)
  else s

/-- The pair is (`m_neighbours`, `m_allNeighbours`). -/
def setNeighboursList : Option (List Nat × List Nat) :=
  forEach 16 w.entries (fun s e => accumulate 16 cfg.ataNodes (neighbourStep w e) s) ([], [])

def setEdsList (u : Uav K) : EdsMap K := getEdsList now (seconds 20) u.monitor

def getDistanceFromFurthestNeighbour (neighbours : List Nat) : Option K :=
  accumulate 16 neighbours (fun maxDist j =>
    let pos : Vector3D K := ⟨(w.positionOf j).x, (w.positionOf j).y, 0⟩
    let dist := calculateDistance c w.position pos
    if maxDist < dist then dist else maxDist) 0

def updateRangeApprox (u : Uav K) : Option (Uav K) :=
  (getDistanceFromFurthestNeighbour c w u.neighbours).map fun rangeApprox =>
    if u.rangeApprox < rangeApprox then { u with rangeApprox := rangeApprox } else u

def getDistanceFromBs : K := calculateDistance c w.position cfg.bsPos

def setPause [FloorRing K] (u : Uav K) : UInt32 :=
  if 0 < u.hops then toUint32 w.junkPause (divDouble (30 * u.rangeApprox) (getDistanceFromBs c cfg w))
  else 0

def numSharedEds (eds : EdsMap K) (ataId : Nat) : Nat :=
  (w.coverage ataId).foldl (fun counter ed _ => if ed ∈ eds then counter + 1 else counter) 0

def similarStep (eds : EdsMap K) (s : Nat × Nat) (j : Nat) : Nat × Nat :=
  let numShared := numSharedEds w eds j
  let maxId := if numShared = s.1 ∧ s.2 < j then j else s.2
  if s.1 < numShared then (numShared, j) else (s.1, maxId)

def findMostSimilarNode (neighbours : List Nat) (eds : EdsMap K) : Option Nat :=
  (accumulate 16 neighbours (similarStep w eds) (0, 0)).map fun s =>
    match divDouble (s.1 : K) (eds.size : K) with
    | some r => if r < 1 / 2 then 0 else s.2
    | none => s.2

def receiveToken (token : Token K) (u : Uav K) : Option (Uav K) :=
  (addToken token u.tokens).map fun tokens => { u with tokens := tokens }

/-- One `mob -> ReceiveToken (token)`; the node may be the sender itself. -/
def sendTo (token : Token K) (s : Uav K × List (Call K)) (j : Nat) : Option (Uav K × List (Call K)) :=
  if j = cfg.id then (receiveToken token s.1).map fun u => (u, s.2 ++ [.receiveToken j token])
  else some (s.1, s.2 ++ [.receiveToken j token])

def sendToken (token : Token K) (u : Uav K) : Option (Uav K × List (Call K)) :=
  forEach 16 w.entries (fun s e => forEach 16 cfg.ataNodes (fun s j =>
    if w.address j = e.destAddr then sendTo cfg token s j else some s) s) (u, [])

def generateToken (u : Uav K) : Token K where
  lastPos := getLastPosition w.junkEntry u.monitor
  lastTime := getLastTime w.junkEntry u.monitor
  weight := u.eds.size
  speed := getSpeedVector c u.monitor
  expires := now + minutes 10
  id := UInt32.ofNat cfg.id

def tokenOf (info : ClusterInfo K) : Token K where
  lastPos := info.lastPosition
  lastTime := info.lastTime
  weight := info.weight
  speed := info.velocity
  expires := now + minutes 10
  id := UInt32.ofNat (cfg.id * 10 + info.id.toNat)

def generateTokens (clusters : List (ClusterInfo K)) : List (Token K) := clusters.map (tokenOf cfg now)

def issueToken (s : Uav K × List (Call K)) (token : Token K) : Option (Uav K × List (Call K)) := do
  let (u, calls) ← sendToken cfg w token s.1
  let u ← receiveToken token u
  some (u, s.2 ++ calls)

def issueTokens (tokens : List (Token K)) (s : Uav K × List (Call K)) :
    Option (Uav K × List (Call K)) :=
  forEach 16 tokens (issueToken cfg w) s

def checkLostClusters (u : Uav K) : Option (Uav K × List (Call K)) :=
  if cfg.predictionMode = 2 then
    let m := filterLostEds now (seconds 40) (minutes 3) (updateLostEds now (seconds 65) u.monitor)
    issueTokens cfg w (generateTokens cfg now (getClusterInfo c m)) ({ u with monitor := m }, [])
  else if cfg.predictionMode = 3 then do
    let m := filterLostEds now (seconds 40) (minutes 3) (updateLostEds now (minutes 3) u.monitor)
    let (numClust, pt) ← createClusters w.clustering 3 m
    let clusters ← computeClustersInfo c w.clustering.draw m pt numClust
    issueTokens cfg w (generateTokens cfg now clusters)
      ({ u with monitor := m }, [.createClusters m.edsLost])
  else some (u, [])

/-- What a step does before it looks for a path to the base station. -/
def observe (u : Uav K) : Option (Uav K × List (Call K)) := do
  let (neighbours, allNeighbours) ← setNeighboursList cfg w
  let u := { u with
    neighbours := neighbours
    allNeighbours := allNeighbours
    eds := setEdsList now u
    load := getLoad id now u.loadMonitor }
  checkLostClusters c cfg w now u

def moveForces (u : Uav K) : Option (List (Call K)) :=
  doMoveForces c cfg w now u.neighbours u.eds (isBusy now u.loadMonitor) u.tokens

def updatePersist [FloorRing K] (entry : RoutingTableEntry) (u : Uav K) : Option (Uav K) :=
  (updateRangeApprox c w { u with hops := entry.distance }).map fun u =>
    let rangeRatio := divDouble (getDistanceFromBs c cfg w) u.rangeApprox
    { u with persist := (u.hops - 1) * toUint32 w.junkRatio rangeRatio }

def sendHeldToken (u : Uav K) : Option (Uav K × List (Call K)) :=
  if u.token.expires = seconds 0 then some (u, [])
  else do
    let (u', sent) ← sendToken cfg w u.token u
    let u' ← receiveToken u.token u'
    some ({ u' with token := newToken w.junkToken }, sent)

def moveIfDue (u : Uav K) : Option (Uav K × List (Call K)) :=
  if u.pause = 0 ∨ u.load = 0 then
    (moveForces c cfg w now u).map fun moved => ({ u with pause := 0 }, moved)
  else some (u, [])

def waitPause (u : Uav K) : Uav K × List (Call K) :=
  if 0 < u.pause then ({ u with pause := u.pause - 1 }, [.pause]) else (u, [])

/-- The branch with a path to the base station. -/
def connected [FloorRing K] (entry : RoutingTableEntry) (u : Uav K) :
    Option (Uav K × List (Call K)) := do
  let u ← updatePersist c cfg w entry u
  let (u, sent) ← sendHeldToken cfg w u
  let (u, moved) ← moveIfDue c cfg w now u
  some ((waitPause u).1, sent ++ moved ++ (waitPause u).2)

/-- The disconnected branch once `m_persist` is used up. -/
def giveUp [FloorRing K] (u : Uav K) : Uav K × List (Call K) :=
  let issue := cfg.predictionMode = 1 ∧ u.lastNode ∧ u.token.expires = seconds 0 ∧ 0 < u.eds.size
  let u' := if issue then { u with token := generateToken c cfg w now u } else u
  let calls := if issue then [.generateToken] else []
  ({ u' with pause := setPause c cfg w u' }, calls ++ goBack c cfg w)

/-- The new `m_persist`, and `m_lastNode` where there is something to share. -/
def comparePersist (u : Uav K) : Option (Uav K × List (Call K)) :=
  if u.eds.size = 0 then some ({ u with persist := u.persist - 1 }, [])
  else (findMostSimilarNode w u.neighbours u.eds).map fun simNode =>
    let persist := if simNode = 0 ∨ simNode < cfg.id then u.persist / 2 else u.persist * 2
    ({ u with persist := persist, lastNode := decide (simNode = 0) }, [.findMostSimilarNode simNode])

/-- The disconnected branch while `m_persist` lasts. -/
def persistOnRoute (u : Uav K) : Option (Uav K × List (Call K)) := do
  let (u, calls) ← comparePersist cfg w u
  let moved ← moveForces c cfg w now u
  some (u, calls ++ moved)

def disconnected [FloorRing K] (u : Uav K) : Option (Uav K × List (Call K)) :=
  if u.persist = 0 then some (giveUp c cfg w now u) else persistOnRoute c cfg w now u

def act [FloorRing K] (entry : RoutingTableEntry) (u : Uav K) : Option (Uav K × List (Call K)) :=
  if entry.distance = 0 then disconnected c cfg w now u else connected c cfg w now entry u

/-- One control step, `none` when a scan in it never ends. -/
def doInitializePrivate [FloorRing K] (u : Uav K) : Option (Uav K × List (Call K)) := do
  let (u, seen) ← observe c cfg w now u
  let entry ← hasPathToBs cfg w
  let (u, calls) ← act c cfg w now entry u
  some (u, seen ++ calls)

end UavMonitoring.VirtualSprings
