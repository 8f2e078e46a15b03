import UavMonitoring.Runs
import UavMonitoring.VirtualSprings

namespace UavMonitoring.ControlSteps

open Std Basics EdsMonitor Clusters CounterLoop LoadMonitor Runs SeedsManager SpringForces VirtualSprings

variable {K : Type} [Field K] [LinearOrder K]

inductive Event (K : Type)
  | updateList (tag : Option Nat) (pos : Vector3D K)
  | updateHistory (junk : EdsEntry K)
  | forwardedPacket
  | receiveToken (token : Token K)
  | doInitializePrivate (w : World K)

def step [FloorRing K] (c : CMath K) (cfg : Config K) (u : Uav K) (e : Time × Event K) :
    Option (Uav K × List (Call K)) :=
  match e.2 with
  | .updateList tag pos => some ({ u with monitor := updateList e.1 tag pos u.monitor }, [])
  | .updateHistory junk =>
      some ({ u with monitor := updateHistory e.1 (seconds 20) junk u.monitor }, [])
  | .forwardedPacket => some ({ u with loadMonitor := forwardedPacket e.1 u.loadMonitor }, [])
  | .receiveToken token => (receiveToken token u).map fun u' => (u', [])
  | .doInitializePrivate w => doInitializePrivate c cfg w e.1 u

def isInner : Call K → Bool
  | .createClusters _ | .findMostSimilarNode _ | .generateToken => true
  | _ => false

def inner (calls : List (Call K)) : List (Call K) := calls.filter isInner

omit [Field K] [LinearOrder K] in
@[simp] theorem inner_append (a b : List (Call K)) : inner (a ++ b) = inner a ++ inner b :=
  List.filter_append ..

omit [Field K] [LinearOrder K] in
theorem mem_inner {calls : List (Call K)} {call : Call K} (h : isInner call) :
    call ∈ inner calls ↔ call ∈ calls := by
  simp [inner, h]

section Sending

variable (cfg : Config K) (w : World K)

def Sent (u : Uav K) (base : List (Call K)) (s : Uav K × List (Call K)) : Prop :=
  (∃ tokens, s.1 = { u with tokens := tokens }) ∧ inner s.2 = inner base

omit [Field K] [LinearOrder K] in
theorem sent_self (u : Uav K) (base : List (Call K)) : Sent u base (u, base) := ⟨⟨u.tokens, rfl⟩, rfl⟩

theorem receiveToken_eq {token : Token K} {u u' : Uav K} (h : receiveToken token u = some u') :
    ∃ tokens, u' = { u with tokens := tokens } := by
  obtain ⟨tokens, _, rfl⟩ := Option.map_eq_some_iff.mp h
  exact ⟨tokens, rfl⟩

theorem sendTo_sent {token : Token K} {u : Uav K} {base : List (Call K)} {s s' : Uav K × List (Call K)}
    {j : Nat} (hs : Sent u base s) (h : sendTo cfg token s j = some s') : Sent u base s' := by
  obtain ⟨⟨tokens, hu⟩, hinner⟩ := hs
  have hcalls : inner (s.2 ++ [.receiveToken j token]) = inner base := by
    rw [inner_append, hinner]
    exact List.append_nil _
  rw [sendTo] at h
  split at h
  · obtain ⟨u', hu', rfl⟩ := Option.map_eq_some_iff.mp h
    obtain ⟨tokens', rfl⟩ := receiveToken_eq hu'
    exact ⟨⟨tokens', by rw [hu]⟩, hcalls⟩
  · cases h
    exact ⟨⟨tokens, hu⟩, hcalls⟩

theorem sendToken_sent {token : Token K} {u : Uav K} {s : Uav K × List (Call K)}
    (h : sendToken cfg w token u = some s) : Sent u [] s := by
  refine forEach_invariant (Sent u []) (fun s e s' hs he => ?_) (sent_self u []) h
  refine forEach_invariant (Sent u []) (fun s j s' hs hj => ?_) hs he
  split at hj
  · exact sendTo_sent cfg hs hj
  · cases hj; exact hs

theorem issueToken_sent {token : Token K} {u : Uav K} {base : List (Call K)}
    {s s' : Uav K × List (Call K)} (hs : Sent u base s) (h : issueToken cfg w s token = some s') :
    Sent u base s' := by
  obtain ⟨⟨tokens, hu⟩, hinner⟩ := hs
  obtain ⟨⟨u₁, calls⟩, h₁, h⟩ := Option.bind_eq_some_iff.mp h
  obtain ⟨u₂, h₂, h⟩ := Option.bind_eq_some_iff.mp h
  obtain ⟨⟨tokens₁, hu₁⟩, hinner₁⟩ := sendToken_sent cfg w h₁
  obtain ⟨tokens₂, hu₂⟩ := receiveToken_eq h₂
  cases h
  dsimp only at hu₁ hinner₁
  refine ⟨⟨tokens₂, by rw [hu₂, hu₁, hu]⟩, ?_⟩
  rw [inner_append, hinner, hinner₁]
  exact List.append_nil _

theorem issueTokens_sent {tokens : List (Token K)} {u : Uav K} {base : List (Call K)}
    {s : Uav K × List (Call K)} (h : issueTokens cfg w tokens (u, base) = some s) : Sent u base s :=
  forEach_invariant (Sent u base) (fun _ _ _ hs ht => issueToken_sent cfg w hs ht) (sent_self u base) h

end Sending

section Effects

variable {c : CMath K} {cfg : Config K} {w : World K} {now : Time}

def swept (cfg : Config K) (now : Time) (m : Monitor K) : Monitor K :=
  if cfg.predictionMode = 2 then
    filterLostEds now (seconds 40) (minutes 3) (updateLostEds now (seconds 65) m)
  else if cfg.predictionMode = 3 then
    filterLostEds now (seconds 40) (minutes 3) (updateLostEds now (minutes 3) m)
  else m

def clusteringCall (cfg : Config K) (now : Time) (m : Monitor K) : List (Call K) :=
  if cfg.predictionMode = 3 then [.createClusters (swept cfg now m).edsLost] else []

def refreshed (cfg : Config K) (now : Time) (neighbours allNeighbours : List Nat) (u : Uav K) : Uav K :=
  { u with
    neighbours := neighbours
    allNeighbours := allNeighbours
    eds := setEdsList now u
    load := getLoad id now u.loadMonitor
    monitor := swept cfg now u.monitor }

theorem checkLostClusters_sent {u : Uav K} {s : Uav K × List (Call K)}
    (h : checkLostClusters c cfg w now u = some s) :
    Sent { u with monitor := swept cfg now u.monitor } (clusteringCall cfg now u.monitor) s := by
  rw [checkLostClusters] at h
  rw [clusteringCall, swept]
  by_cases h2 : cfg.predictionMode = 2
  · have h3 : cfg.predictionMode ≠ 3 := by omega
    simp only [if_pos h2, if_neg h3] at h ⊢
    exact issueTokens_sent cfg w h
  · by_cases h3 : cfg.predictionMode = 3
    · simp only [if_neg h2, if_pos h3] at h ⊢
      obtain ⟨⟨numClust, pt⟩, _, h⟩ := Option.bind_eq_some_iff.mp h
      obtain ⟨clusters, _, h⟩ := Option.bind_eq_some_iff.mp h
      exact issueTokens_sent cfg w h
    · simp only [if_neg h2, if_neg h3, Option.some.injEq] at h ⊢
      rw [← h]
      exact sent_self u []

theorem observe_sent {u : Uav K} {s : Uav K × List (Call K)} (h : observe c cfg w now u = some s) :
    ∃ neighbours allNeighbours, setNeighboursList cfg w = some (neighbours, allNeighbours) ∧
      Sent (refreshed cfg now neighbours allNeighbours u) (clusteringCall cfg now u.monitor) s := by
  obtain ⟨⟨neighbours, allNeighbours⟩, hlist, h⟩ := Option.bind_eq_some_iff.mp h
  exact ⟨neighbours, allNeighbours, hlist, checkLostClusters_sent h⟩

theorem inner_moveForces {u : Uav K} {calls : List (Call K)}
    (h : moveForces c cfg w now u = some calls) : inner calls = [] := by
  obtain ⟨force, _, rfl⟩ := Option.map_eq_some_iff.mp h
  cases force with
  | none => rfl
  | some f =>
      dsimp only
      split <;> rfl

omit [Field K] [LinearOrder K] in
theorem inner_clusteringCall (m : Monitor K) :
    inner (clusteringCall cfg now m) = clusteringCall cfg now m := by
  rw [clusteringCall]
  split <;> rfl

/-- What a step does to the flag and to the counter, and how it decided. -/
inductive Effect (cfg : Config K) (w : World K) (now : Time) (u u' : Uav K) (calls : List (Call K)) :
    Prop
  | connected (entry : RoutingTableEntry) (path : hasPathToBs cfg w = some entry)
      (near : entry.distance ≠ 0) (flag : u'.lastNode = u.lastNode)
      (quiet : inner calls = clusteringCall cfg now u.monitor)
  | gaveUp (entry : RoutingTableEntry) (path : hasPathToBs cfg w = some entry)
      (far : entry.distance = 0) (spent : u.persist = 0) (flag : u'.lastNode = u.lastNode)
      (counter : u'.persist = u.persist)
      (issue : inner calls = clusteringCall cfg now u.monitor ∨
        (inner calls = clusteringCall cfg now u.monitor ++ [.generateToken] ∧ u.lastNode = true))
  | waited (entry : RoutingTableEntry) (path : hasPathToBs cfg w = some entry)
      (far : entry.distance = 0) (going : u.persist ≠ 0)
      (alone : (setEdsList now u).size = 0) (flag : u'.lastNode = u.lastNode)
      (counter : u'.persist = u.persist - 1) (quiet : inner calls = clusteringCall cfg now u.monitor)
  | compared (entry : RoutingTableEntry) (path : hasPathToBs cfg w = some entry)
      (far : entry.distance = 0) (going : u.persist ≠ 0)
      (covering : (setEdsList now u).size ≠ 0)
      (neighbours allNeighbours : List Nat)
      (list : setNeighboursList cfg w = some (neighbours, allNeighbours)) (simNode : Nat)
      (similar : findMostSimilarNode w neighbours (setEdsList now u) = some simNode)
      (flag : u'.lastNode = decide (simNode = 0))
      (counter : u'.persist = if simNode = 0 ∨ simNode < cfg.id then u.persist / 2 else u.persist * 2)
      (decision : inner calls = clusteringCall cfg now u.monitor ++ [.findMostSimilarNode simNode])

theorem updatePersist_eq [FloorRing K] {entry : RoutingTableEntry} {u u' : Uav K}
    (h : updatePersist c cfg w entry u = some u') :
    ∃ persist rangeApprox,
      u' = { u with hops := entry.distance, persist := persist, rangeApprox := rangeApprox } := by
  obtain ⟨u₁, h₁, rfl⟩ := Option.map_eq_some_iff.mp h
  obtain ⟨dist, _, rfl⟩ := Option.map_eq_some_iff.mp h₁
  split
  · exact ⟨_, dist, rfl⟩
  · exact ⟨_, u.rangeApprox, rfl⟩

theorem sendHeldToken_eq {u : Uav K} {s : Uav K × List (Call K)}
    (h : sendHeldToken cfg w u = some s) :
    (∃ tokens token, s.1 = { u with tokens := tokens, token := token }) ∧ inner s.2 = [] := by
  rw [sendHeldToken] at h
  split at h
  · cases h
    exact ⟨⟨u.tokens, u.token, rfl⟩, rfl⟩
  · obtain ⟨⟨u₁, sent⟩, h₁, h⟩ := Option.bind_eq_some_iff.mp h
    obtain ⟨u₂, h₂, h⟩ := Option.bind_eq_some_iff.mp h
    obtain ⟨⟨tokens, hu₁⟩, hsent⟩ := sendToken_sent cfg w h₁
    obtain ⟨tokens', hu₂⟩ := receiveToken_eq h₂
    cases h
    dsimp only at hu₁
    exact ⟨⟨tokens', newToken w.junkToken, by rw [hu₂, hu₁]⟩, hsent⟩

theorem sendHeldToken_effect {u : Uav K} {s : Uav K × List (Call K)}
    (h : sendHeldToken cfg w u = some s) : s.1.lastNode = u.lastNode ∧ inner s.2 = [] := by
  obtain ⟨⟨tokens, token, hu⟩, hsent⟩ := sendHeldToken_eq h
  exact ⟨by rw [hu], hsent⟩

theorem moveIfDue_effect {u : Uav K} {s : Uav K × List (Call K)}
    (h : moveIfDue c cfg w now u = some s) : s.1.lastNode = u.lastNode ∧ inner s.2 = [] := by
  rw [moveIfDue] at h
  split at h
  · obtain ⟨calls, hm, h⟩ := Option.map_eq_some_iff.mp h
    cases h
    exact ⟨rfl, inner_moveForces hm⟩
  · cases h
    exact ⟨rfl, rfl⟩

omit [Field K] [LinearOrder K] in
theorem waitPause_effect (u : Uav K) :
    (waitPause u).1.lastNode = u.lastNode ∧ inner (waitPause u).2 = [] := by
  rw [waitPause]
  split <;> exact ⟨rfl, rfl⟩

theorem connected_effect [FloorRing K] {entry : RoutingTableEntry} {u : Uav K}
    {s : Uav K × List (Call K)} (h : connected c cfg w now entry u = some s) :
    s.1.lastNode = u.lastNode ∧ inner s.2 = [] := by
  obtain ⟨u₁, h₁, h⟩ := Option.bind_eq_some_iff.mp h
  obtain ⟨persist, rangeApprox, rfl⟩ := updatePersist_eq h₁
  obtain ⟨⟨u₂, sent⟩, h₂, h⟩ := Option.bind_eq_some_iff.mp h
  obtain ⟨⟨u₃, moved⟩, h₃, h⟩ := Option.bind_eq_some_iff.mp h
  obtain ⟨hflag₂, hsent⟩ := sendHeldToken_effect h₂
  obtain ⟨hflag₃, hmoved⟩ := moveIfDue_effect h₃
  obtain ⟨hflag₄, hwaited⟩ := waitPause_effect u₃
  cases h
  refine ⟨hflag₄.trans (hflag₃.trans hflag₂), ?_⟩
  rw [inner_append, inner_append, hsent, hmoved, hwaited]
  rfl

theorem giveUp_effect [FloorRing K] {u : Uav K} {s : Uav K × List (Call K)}
    (h : giveUp c cfg w now u = s) :
    s.1.lastNode = u.lastNode ∧ s.1.persist = u.persist ∧
      (inner s.2 = [] ∨ (inner s.2 = [.generateToken] ∧ u.lastNode = true)) := by
  subst h
  by_cases hissue : cfg.predictionMode = 1 ∧ u.lastNode = true ∧ u.token.expires = seconds 0 ∧
      0 < u.eds.size
  · simp only [giveUp, if_pos hissue]
    exact ⟨trivial, trivial, .inr ⟨rfl, hissue.2.1⟩⟩
  · simp only [giveUp, if_neg hissue]
    exact ⟨trivial, trivial, .inl rfl⟩

theorem persistOnRoute_effect {u : Uav K} {s : Uav K × List (Call K)}
    (h : persistOnRoute c cfg w now u = some s) :
    (u.eds.size = 0 ∧ s.1.lastNode = u.lastNode ∧ s.1.persist = u.persist - 1 ∧ inner s.2 = []) ∨
    (u.eds.size ≠ 0 ∧ ∃ simNode, findMostSimilarNode w u.neighbours u.eds = some simNode ∧
      s.1.lastNode = decide (simNode = 0) ∧
      s.1.persist = (if simNode = 0 ∨ simNode < cfg.id then u.persist / 2 else u.persist * 2) ∧
      inner s.2 = [.findMostSimilarNode simNode]) := by
  obtain ⟨⟨u₁, calls⟩, h₁, h⟩ := Option.bind_eq_some_iff.mp h
  obtain ⟨moved, h₂, h⟩ := Option.bind_eq_some_iff.mp h
  have hmoved := inner_moveForces h₂
  cases h
  rw [comparePersist] at h₁
  split at h₁
  · next hempty =>
      cases h₁
      exact .inl ⟨hempty, rfl, rfl, by rw [inner_append, hmoved]; rfl⟩
  · next hne =>
      obtain ⟨simNode, hsim, h₁⟩ := Option.map_eq_some_iff.mp h₁
      cases h₁
      exact .inr ⟨hne, simNode, hsim, rfl, rfl, by rw [inner_append, hmoved]; rfl⟩

theorem doInitializePrivate_split [FloorRing K] {u u' : Uav K} {calls : List (Call K)}
    (h : doInitializePrivate c cfg w now u = some (u', calls)) :
    ∃ neighbours allNeighbours tokens entry seen rest,
      setNeighboursList cfg w = some (neighbours, allNeighbours) ∧ hasPathToBs cfg w = some entry ∧
      act c cfg w now entry { refreshed cfg now neighbours allNeighbours u with tokens := tokens } =
        some (u', rest) ∧
      calls = seen ++ rest ∧ inner seen = clusteringCall cfg now u.monitor := by
  obtain ⟨⟨u₁, seen⟩, hobs, h⟩ := Option.bind_eq_some_iff.mp h
  obtain ⟨entry, hpath, h⟩ := Option.bind_eq_some_iff.mp h
  obtain ⟨⟨u₂, rest⟩, hbranch, h⟩ := Option.bind_eq_some_iff.mp h
  cases h
  obtain ⟨neighbours, allNeighbours, hlist, ⟨tokens, hu₁⟩, hseen⟩ := observe_sent hobs
  dsimp only at hu₁ hbranch
  subst hu₁
  exact ⟨neighbours, allNeighbours, tokens, entry, seen, rest, hlist, hpath, hbranch, rfl,
    hseen.trans (inner_clusteringCall _)⟩

theorem doInitializePrivate_effect [FloorRing K] {u u' : Uav K} {calls : List (Call K)}
    (h : doInitializePrivate c cfg w now u = some (u', calls)) : Effect cfg w now u u' calls := by
  obtain ⟨neighbours, allNeighbours, tokens, entry, seen, rest, hlist, hpath, hbranch, rfl, hseen⟩ :=
    doInitializePrivate_split h
  have hcalls (r : List (Call K)) (hr : inner rest = r) :
      inner (seen ++ rest) = clusteringCall cfg now u.monitor ++ r := by
    rw [inner_append, hseen, hr]
  have hquiet (hr : inner rest = []) : inner (seen ++ rest) = clusteringCall cfg now u.monitor :=
    (hcalls [] hr).trans (List.append_nil _)
  by_cases hd : entry.distance = 0
  · rw [act, if_pos hd, disconnected] at hbranch
    split at hbranch
    · next hp =>
        rw [Option.some.injEq] at hbranch
        obtain ⟨hflag, hcounter, hissue⟩ := giveUp_effect hbranch
        exact .gaveUp entry hpath hd hp hflag hcounter
          (hissue.imp hquiet fun h => ⟨hcalls _ h.1, h.2⟩)
    · next hp =>
        rcases persistOnRoute_effect hbranch with ⟨hempty, hflag, hcounter, hdec⟩ |
          ⟨hne, simNode, hsim, hflag, hcounter, hdec⟩
        · exact .waited entry hpath hd hp hempty hflag hcounter (hquiet hdec)
        · exact .compared entry hpath hd hp hne neighbours allNeighbours hlist simNode hsim hflag
            hcounter (hcalls _ hdec)
  · rw [act, if_neg hd] at hbranch
    obtain ⟨hflag, hdec⟩ := connected_effect hbranch
    exact .connected entry hpath hd hflag (hquiet hdec)

omit [Field K] [LinearOrder K] in
theorem mem_clusteringCall_iff (m : Monitor K) (call : Call K) :
    call ∈ clusteringCall cfg now m ↔
      cfg.predictionMode = 3 ∧ call = .createClusters (swept cfg now m).edsLost := by
  rw [clusteringCall]
  split <;> simp [*]

section Recorded

variable {u u' : Uav K} {calls : List (Call K)}

theorem Effect.own_calls (h : Effect cfg w now u u' calls) :
    ∃ own, inner calls = clusteringCall cfg now u.monitor ++ own ∧
      (own = [] ∨ (own = [.generateToken] ∧ u.lastNode = true) ∨
        ∃ simNode, own = [.findMostSimilarNode simNode] ∧
          u'.persist = (if simNode = 0 ∨ simNode < cfg.id then u.persist / 2 else u.persist * 2) ∧
          u.persist ≠ 0 ∧ (setEdsList now u).size ≠ 0 ∧
          ∃ entry, hasPathToBs cfg w = some entry ∧ entry.distance = 0) := by
  cases h with
  | connected _ _ _ _ quiet => exact ⟨[], by rw [quiet, List.append_nil], .inl rfl⟩
  | gaveUp _ _ _ _ _ _ issue =>
      rcases issue with quiet | ⟨issued, hflag⟩
      · exact ⟨[], by rw [quiet, List.append_nil], .inl rfl⟩
      · exact ⟨_, issued, .inr (.inl ⟨rfl, hflag⟩)⟩
  | waited _ _ _ _ _ _ _ quiet => exact ⟨[], by rw [quiet, List.append_nil], .inl rfl⟩
  | compared entry path far going covering _ _ _ simNode _ _ counter decision =>
      exact ⟨_, decision, .inr (.inr ⟨simNode, rfl, counter, going, covering, entry, path, far⟩)⟩

theorem Effect.createClusters_iff (h : Effect cfg w now u u' calls) (lost : HistoryMap K) :
    .createClusters lost ∈ calls ↔
      cfg.predictionMode = 3 ∧ lost = (swept cfg now u.monitor).edsLost := by
  obtain ⟨own, hown, hcases⟩ := h.own_calls
  have hnot : Call.createClusters lost ∉ own := by
    rcases hcases with rfl | ⟨rfl, _⟩ | ⟨_, rfl, _⟩ <;> simp
  rw [← mem_inner rfl, hown, List.mem_append, mem_clusteringCall_iff]
  simp [hnot]

theorem Effect.generateToken (h : Effect cfg w now u u' calls) (hmem : .generateToken ∈ calls) :
    u.lastNode = true := by
  obtain ⟨own, hown, hcases⟩ := h.own_calls
  rw [← mem_inner rfl, hown, List.mem_append, mem_clusteringCall_iff] at hmem
  rcases hcases with rfl | ⟨_, hflag⟩ | ⟨_, rfl, _⟩
  · simp at hmem
  · exact hflag
  · simp at hmem

theorem Effect.findMostSimilarNode (h : Effect cfg w now u u' calls) {r : Nat}
    (hmem : .findMostSimilarNode r ∈ calls) :
    u'.persist = (if r = 0 ∨ r < cfg.id then u.persist / 2 else u.persist * 2) ∧ u.persist ≠ 0 ∧
      (setEdsList now u).size ≠ 0 ∧
      ∃ entry, hasPathToBs cfg w = some entry ∧ entry.distance = 0 := by
  obtain ⟨own, hown, hcases⟩ := h.own_calls
  rw [← mem_inner rfl, hown, List.mem_append, mem_clusteringCall_iff] at hmem
  rcases hcases with rfl | ⟨rfl, _⟩ | ⟨simNode, rfl, hcompared⟩
  · simp at hmem
  · simp at hmem
  · obtain rfl : r = simNode := by simpa using hmem
    exact hcompared

end Recorded

end Effects

section Counters

variable [FloorRing K] {c : CMath K} {cfg : Config K} {w : World K} {now : Time}

/-- What a step does to the range it knows and to the pause. -/
inductive Budget (c : CMath K) (cfg : Config K) (w : World K) (u u' : Uav K) : Prop
  | connected (entry : RoutingTableEntry) (path : hasPathToBs cfg w = some entry)
      (near : entry.distance ≠ 0) (neighbours allNeighbours : List Nat)
      (list : setNeighboursList cfg w = some (neighbours, allNeighbours)) (dist : K)
      (furthest : getDistanceFromFurthestNeighbour c w neighbours = some dist)
      (range : u'.rangeApprox = max u.rangeApprox dist)
      (counter : u'.persist = (entry.distance - 1) *
        toUint32 w.junkRatio (divDouble (getDistanceFromBs c cfg w) u'.rangeApprox))
      (pause : u'.pause = 0 ∨ (0 < u.pause ∧ u'.pause = u.pause - 1))
  | gaveUp (entry : RoutingTableEntry) (path : hasPathToBs cfg w = some entry)
      (far : entry.distance = 0) (spent : u.persist = 0) (range : u'.rangeApprox = u.rangeApprox)
      (pause : u'.pause = setPause c cfg w u)
  | persisted (entry : RoutingTableEntry) (path : hasPathToBs cfg w = some entry)
      (far : entry.distance = 0) (going : u.persist ≠ 0) (range : u'.rangeApprox = u.rangeApprox)
      (pause : u'.pause = u.pause)

theorem updatePersist_range {entry : RoutingTableEntry} {u u' : Uav K}
    (h : updatePersist c cfg w entry u = some u') :
    ∃ dist, getDistanceFromFurthestNeighbour c w u.neighbours = some dist ∧
      u' = { u with
        hops := entry.distance
        rangeApprox := max u.rangeApprox dist
        persist := (entry.distance - 1) * toUint32 w.junkRatio
          (divDouble (getDistanceFromBs c cfg w) (max u.rangeApprox dist)) } := by
  obtain ⟨u₁, h₁, rfl⟩ := Option.map_eq_some_iff.mp h
  obtain ⟨dist, hdist, rfl⟩ := Option.map_eq_some_iff.mp h₁
  refine ⟨dist, hdist, ?_⟩
  by_cases hlt : u.rangeApprox < dist
  · simp only [if_pos hlt, max_eq_right hlt.le]
  · simp only [if_neg hlt, max_eq_left (le_of_not_gt hlt)]

omit [FloorRing K] in
theorem moveIfDue_eq {u : Uav K} {s : Uav K × List (Call K)}
    (h : moveIfDue c cfg w now u = some s) :
    s.1 = { u with pause := if u.pause = 0 ∨ u.load = 0 then 0 else u.pause } := by
  rw [moveIfDue] at h
  split at h
  · next hdue =>
      obtain ⟨calls, _, rfl⟩ := Option.map_eq_some_iff.mp h
      simp only [if_pos hdue]
  · next hdue =>
      cases h
      simp only [if_neg hdue]

omit [Field K] [LinearOrder K] [FloorRing K] in
theorem waitPause_eq (u : Uav K) :
    (waitPause u).1 = { u with pause := if 0 < u.pause then u.pause - 1 else u.pause } := by
  rw [waitPause]
  split <;> rfl

theorem connected_budget {entry : RoutingTableEntry} {u : Uav K} {s : Uav K × List (Call K)}
    (h : connected c cfg w now entry u = some s) :
    ∃ dist, getDistanceFromFurthestNeighbour c w u.neighbours = some dist ∧
      s.1.monitor = u.monitor ∧ s.1.rangeApprox = max u.rangeApprox dist ∧
      s.1.persist = (entry.distance - 1) * toUint32 w.junkRatio
        (divDouble (getDistanceFromBs c cfg w) (max u.rangeApprox dist)) ∧
      (s.1.pause = 0 ∨ (0 < u.pause ∧ s.1.pause = u.pause - 1)) := by
  obtain ⟨u₁, h₁, h⟩ := Option.bind_eq_some_iff.mp h
  obtain ⟨dist, hdist, rfl⟩ := updatePersist_range h₁
  obtain ⟨⟨u₂, sent⟩, h₂, h⟩ := Option.bind_eq_some_iff.mp h
  obtain ⟨⟨u₃, moved⟩, h₃, h⟩ := Option.bind_eq_some_iff.mp h
  obtain ⟨⟨tokens, token, hu₂⟩, _⟩ := sendHeldToken_eq h₂
  have hu₃ := moveIfDue_eq h₃
  cases h
  dsimp only at hu₂ hu₃ ⊢
  rw [waitPause_eq, hu₃, hu₂]
  refine ⟨dist, hdist, rfl, rfl, rfl, ?_⟩
  dsimp only
  split
  · exact .inl rfl
  · next hdue =>
      have hpos : 0 < u.pause := UInt32.pos_iff_ne_zero.mpr fun h => hdue (.inl h)
      exact .inr ⟨hpos, if_pos hpos⟩

omit [FloorRing K] in
theorem persistOnRoute_budget {u : Uav K} {s : Uav K × List (Call K)}
    (h : persistOnRoute c cfg w now u = some s) :
    s.1.monitor = u.monitor ∧ s.1.rangeApprox = u.rangeApprox ∧ s.1.pause = u.pause := by
  obtain ⟨⟨u₁, calls⟩, h₁, h⟩ := Option.bind_eq_some_iff.mp h
  obtain ⟨moved, _, h⟩ := Option.bind_eq_some_iff.mp h
  cases h
  rw [comparePersist] at h₁
  split at h₁
  · cases h₁
    exact ⟨rfl, rfl, rfl⟩
  · obtain ⟨simNode, _, h₁⟩ := Option.map_eq_some_iff.mp h₁
    cases h₁
    exact ⟨rfl, rfl, rfl⟩

theorem giveUp_budget {u : Uav K} {s : Uav K × List (Call K)} (h : giveUp c cfg w now u = s) :
    s.1.monitor = u.monitor ∧ s.1.rangeApprox = u.rangeApprox ∧ s.1.pause = setPause c cfg w u := by
  subst h
  rw [giveUp]
  dsimp only
  split <;> exact ⟨rfl, rfl, rfl⟩

theorem doInitializePrivate_budget {u u' : Uav K} {calls : List (Call K)}
    (h : doInitializePrivate c cfg w now u = some (u', calls)) :
    u'.monitor = swept cfg now u.monitor ∧ Budget c cfg w u u' := by
  obtain ⟨neighbours, allNeighbours, tokens, entry, _, _, hlist, hpath, hbranch, _, _⟩ :=
    doInitializePrivate_split h
  by_cases hd : entry.distance = 0
  · rw [act, if_pos hd, disconnected] at hbranch
    split at hbranch
    · next hp =>
        rw [Option.some.injEq] at hbranch
        obtain ⟨hmonitor, hrange, hpause⟩ := giveUp_budget hbranch
        exact ⟨hmonitor, .gaveUp entry hpath hd hp hrange hpause⟩
    · next hp =>
        obtain ⟨hmonitor, hrange, hpause⟩ := persistOnRoute_budget hbranch
        exact ⟨hmonitor, .persisted entry hpath hd hp hrange hpause⟩
  · rw [act, if_neg hd] at hbranch
    obtain ⟨dist, hdist, hmonitor, hrange, hcounter, hpause⟩ := connected_budget hbranch
    refine ⟨hmonitor, .connected entry hpath hd neighbours allNeighbours hlist dist hdist hrange ?_ hpause⟩
    rw [hrange]
    exact hcounter

end Counters

section Returns

variable (c : CMath K) (cfg : Config K) (w : World K) (now : Time)

omit [Field K] [LinearOrder K] in
theorem setNeighboursList_returns (hentries : w.entries.length < 2 ^ 16)
    (hnodes : cfg.ataNodes.length < 2 ^ 16) : ∃ r, setNeighboursList cfg w = some r :=
  forEach_returns hentries (fun s _ _ => ⟨_, accumulate_of_short hnodes _ s⟩) _

omit [Field K] [LinearOrder K] in
theorem hasPathToBs_returns (hentries : w.entries.length < 2 ^ 16) :
    ∃ entry, hasPathToBs cfg w = some entry := by
  rw [hasPathToBs]
  rw [search_of_short hentries]
  cases hi : w.entries.findIdx? fun e => decide (e.destAddr = cfg.bsAddr) with
  | none => exact ⟨_, rfl⟩
  | some i =>
      obtain ⟨hlt, _⟩ := List.findIdx?_eq_some_iff_getElem.mp hi
      exact ⟨_, List.getElem?_eq_getElem hlt⟩

def Takes (token : Token K) (n : Nat) (tokens : List (Token K)) : Prop :=
  tokens.length < n ∨ tokens.length ≤ n ∧ addToken token tokens = some tokens

variable {n : Nat} {token : Token K}

theorem receiveToken_returns [IsStrictOrderedRing K] (hn : n ≤ 2 ^ 16) {u : Uav K}
    (h : Takes token n u.tokens) : ∃ u', receiveToken token u = some u' ∧
      u'.tokens.length ≤ n ∧ Takes token n u'.tokens := by
  rw [receiveToken]
  rcases h with hlt | ⟨hle, hself⟩
  · have hadd := addToken_of_short (hlt.trans_le hn) token
    have hle : (FirstMatch.put near u.tokens token).length ≤ n :=
      (FirstMatch.length_put_le near u.tokens token).trans hlt
    rw [hadd]
    exact ⟨_, rfl, hle, .inr ⟨hle, addToken_again hadd⟩⟩
  · rw [hself]
    exact ⟨_, rfl, hle, .inr ⟨hle, hself⟩⟩

theorem sendToken_returns [IsStrictOrderedRing K] (hentries : w.entries.length < 2 ^ 16)
    (hnodes : cfg.ataNodes.length < 2 ^ 16) (hn : n ≤ 2 ^ 16) {u : Uav K} (h : Takes token n u.tokens) :
    ∃ s, sendToken cfg w token u = some s ∧ Takes token n s.1.tokens := by
  let Open (s : Uav K × List (Call K)) : Prop := Takes token n s.1.tokens
  refine forEach_total hentries Open (fun s e _ hs => ?_) h
  refine forEach_total hnodes Open (fun s j _ hs => ?_) hs
  split
  · rw [sendTo]
    split
    · obtain ⟨u', hu', _, htakes⟩ := receiveToken_returns hn hs
      exact ⟨_, by rw [hu']; rfl, htakes⟩
    · exact ⟨_, rfl, hs⟩
  · exact ⟨s, rfl, hs⟩

theorem issueToken_returns [IsStrictOrderedRing K] (hentries : w.entries.length < 2 ^ 16)
    (hnodes : cfg.ataNodes.length < 2 ^ 16) (hn : n ≤ 2 ^ 16) {s : Uav K × List (Call K)}
    (h : s.1.tokens.length < n) (token : Token K) :
    ∃ s', issueToken cfg w s token = some s' ∧ s'.1.tokens.length ≤ n := by
  have hroom : Takes token n s.1.tokens := .inl h
  obtain ⟨⟨u₁, calls⟩, hsent, htakes⟩ := sendToken_returns cfg w hentries hnodes hn hroom
  obtain ⟨u₂, hu₂, hle, _⟩ := receiveToken_returns hn htakes
  exact ⟨(u₂, s.2 ++ calls), by rw [issueToken, hsent]; simp [hu₂], hle⟩

theorem issueTokens_returns [IsStrictOrderedRing K] (hentries : w.entries.length < 2 ^ 16)
    (hnodes : cfg.ataNodes.length < 2 ^ 16) {tokens : List (Token K)} (htokens : tokens.length < 2 ^ 16)
    {s : Uav K × List (Call K)} (h : s.1.tokens.length + tokens.length ≤ 2 ^ 16) :
    ∃ s', issueTokens cfg w tokens s = some s' := by
  rw [issueTokens, forEach_of_short htokens]
  clear htokens
  induction tokens generalizing s with
  | nil => exact ⟨s, rfl⟩
  | cons token tokens ih =>
      rw [List.length_cons] at h
      have hroom : s.1.tokens.length + 1 ≤ 2 ^ 16 := by omega
      obtain ⟨s', hs', hle⟩ :=
        issueToken_returns cfg w hentries hnodes hroom (Nat.lt_succ_self _) token
      have hrest : s'.1.tokens.length + tokens.length ≤ 2 ^ 16 := by omega
      obtain ⟨r, hr⟩ := ih hrest
      exact ⟨r, by rw [List.foldlM_cons, hs']; exact hr⟩

theorem computeAtgForce_returns {neighbours : List Nat} (hshort : neighbours.length < 2 ^ 16)
    (eds : EdsMap K) : ∃ f, computeAtgForce c cfg w neighbours eds = some f := by
  have hcount (ed : Nat) : ∃ cnt, countCovering w neighbours ed = some cnt :=
    ⟨_, accumulate_of_short hshort _ _⟩
  obtain ⟨maxCard, hmax⟩ : ∃ maxCard, getMaxCardinality w neighbours eds = some maxCard := by
    refine foldlM_returns (fun s e _ => ?_) _
    obtain ⟨cnt, hcnt⟩ := hcount e.1
    exact ⟨_, by rw [hcnt]; rfl⟩
  obtain ⟨f, hf⟩ : ∃ f, eds.toList.foldlM (atgStep c cfg w neighbours maxCard) (some 0) = some f := by
    refine foldlM_returns (fun s e _ => ?_) _
    obtain ⟨k, hk⟩ : ∃ k, kAtgPlus cfg w neighbours maxCard e.1 = some k := by
      obtain ⟨cnt, hcnt⟩ := hcount e.1
      rw [kAtgPlus]
      split
      · exact ⟨_, by rw [hcnt]; rfl⟩
      · exact ⟨_, rfl⟩
    exact ⟨_, by rw [atgStep, hk]; rfl⟩
  exact ⟨f, by rw [computeAtgForce, hmax]; exact hf⟩

theorem moveForces_returns (u : Uav K) (hshort : u.neighbours.length < 2 ^ 16)
    (heds : u.eds.size ≠ 0) : ∃ calls, moveForces c cfg w now u = some calls := by
  obtain ⟨ata, hata⟩ : ∃ f, computeAtaForce c cfg w u.neighbours = some f :=
    ⟨_, accumulate_of_short hshort _ _⟩
  obtain ⟨atg, hatg⟩ := computeAtgForce_returns c cfg w hshort u.eds
  have hseed : ¬ (u.eds.size = 0 ∧ !isBusy now u.loadMonitor) := fun h => heds h.1
  refine ⟨_, Option.map_eq_some_iff.mpr ⟨addForce (addForce ata atg) (some 0), ?_, rfl⟩⟩
  simp only [computeTotalForce, hata, hatg, if_neg hseed]
  rfl

theorem persistOnRoute_returns {u : Uav K} (hshort : u.neighbours.length < 2 ^ 16)
    (heds : u.eds.size ≠ 0) : ∃ s, persistOnRoute c cfg w now u = some s := by
  obtain ⟨simNode, hsim⟩ : ∃ simNode, findMostSimilarNode w u.neighbours u.eds = some simNode :=
    ⟨_, by rw [findMostSimilarNode, accumulate_of_short hshort]; rfl⟩
  have hcompare : ∃ u₁ calls, comparePersist cfg w u = some (u₁, calls) ∧
      u₁.neighbours = u.neighbours ∧ u₁.eds = u.eds := by
    rw [comparePersist, if_neg heds, hsim]
    exact ⟨_, _, rfl, rfl, rfl⟩
  obtain ⟨u₁, calls, hcompare, hn, he⟩ := hcompare
  obtain ⟨moved, hmoved⟩ := moveForces_returns c cfg w now u₁ (hn ▸ hshort) (he ▸ heds)
  exact ⟨(u₁, calls ++ moved), by rw [persistOnRoute, hcompare]; simp [hmoved]⟩

end Returns

theorem step_cases [FloorRing K] {c : CMath K} {cfg : Config K} {u u' : Uav K} {e : Time × Event K}
    {calls : List (Call K)} (h : step c cfg u e = some (u', calls)) :
    (∃ w, e.2 = .doInitializePrivate w ∧ Effect cfg w e.1 u u' calls) ∨
      ((∀ w, e.2 ≠ .doInitializePrivate w) ∧ u'.lastNode = u.lastNode ∧ u'.persist = u.persist ∧
        calls = []) := by
  obtain ⟨now, e⟩ := e
  cases e with
  | doInitializePrivate w => exact .inl ⟨w, rfl, doInitializePrivate_effect h⟩
  | receiveToken token =>
      obtain ⟨u₁, h₁, h⟩ := Option.map_eq_some_iff.mp h
      obtain ⟨tokens, rfl⟩ := receiveToken_eq h₁
      cases h
      exact .inr ⟨by simp, rfl, rfl, rfl⟩
  | updateList tag pos | updateHistory junk | forwardedPacket =>
      cases h
      exact .inr ⟨by simp, rfl, rfl, rfl⟩

theorem step_budget [FloorRing K] {c : CMath K} {cfg : Config K} {u u' : Uav K} {e : Time × Event K}
    {calls : List (Call K)} (h : step c cfg u e = some (u', calls)) :
    (∃ w, e.2 = .doInitializePrivate w ∧ Budget c cfg w u u') ∨
      ((∀ w, e.2 ≠ .doInitializePrivate w) ∧ u'.rangeApprox = u.rangeApprox ∧ u'.pause = u.pause) := by
  obtain ⟨now, e⟩ := e
  cases e with
  | doInitializePrivate w => exact .inl ⟨w, rfl, (doInitializePrivate_budget h).2⟩
  | receiveToken token =>
      obtain ⟨u₁, h₁, h⟩ := Option.map_eq_some_iff.mp h
      obtain ⟨tokens, rfl⟩ := receiveToken_eq h₁
      cases h
      exact .inr ⟨by simp, rfl, rfl⟩
  | updateList tag pos | updateHistory junk | forwardedPacket =>
      cases h
      exact .inr ⟨by simp, rfl, rfl⟩

def monitorStep (cfg : Config K) (m : Monitor K) (e : Time × Event K) : Monitor K :=
  match e.2 with
  | .updateList tag pos => updateList e.1 tag pos m
  | .updateHistory junk => updateHistory e.1 (seconds 20) junk m
  | .doInitializePrivate _ => swept cfg e.1 m
  | .forwardedPacket | .receiveToken _ => m

theorem step_monitor [FloorRing K] {c : CMath K} {cfg : Config K} {u u' : Uav K} {e : Time × Event K}
    {calls : List (Call K)} (h : step c cfg u e = some (u', calls)) :
    u'.monitor = monitorStep cfg u.monitor e := by
  obtain ⟨now, e⟩ := e
  cases e with
  | doInitializePrivate w => exact (doInitializePrivate_budget h).1
  | receiveToken token =>
      obtain ⟨u₁, h₁, h⟩ := Option.map_eq_some_iff.mp h
      obtain ⟨tokens, rfl⟩ := receiveToken_eq h₁
      cases h
      rfl
  | updateList tag pos | updateHistory junk | forwardedPacket =>
      cases h
      rfl

end UavMonitoring.ControlSteps
