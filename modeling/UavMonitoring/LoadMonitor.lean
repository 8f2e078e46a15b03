import UavMonitoring.Basics

namespace UavMonitoring.LoadMonitor

open Basics

structure LoadWindow where
  interval : Time
  load : List Time

def prune (now : Time) (m : LoadWindow) : List Time :=
  m.load.dropWhile fun t => decide (t < now - m.interval)

def forwardedPacket (now : Time) (m : LoadWindow) : LoadWindow :=
  { m with load := prune now m ++ [now] }

def setLoadInterval (interval : Time) (m : LoadWindow) : LoadWindow := { m with interval := interval }

/-- Every `double` on the way goes through `round`. -/
def getLoad {K : Type} [Field K] (round : K → K) (now : Time) (m : LoadWindow) : K :=
  if m.load = [] then 0 else round (round (prune now m).length / round (getSeconds m.interval))

def isBusy (now : Time) (m : LoadWindow) : Bool :=
  if m.load = [] then false else decide (0 < (prune now m).length)

end UavMonitoring.LoadMonitor
