import UavMonitoring.Countdown
import UavMonitoring.Runs
import UavMonitoring.Stiffness
import UavMonitoring.VirtualSprings

namespace UavMonitoring.Waterfall

open Basics CounterLoop Countdown Runs
open SpringForces (RoutingTableEntry Force addForce pull)

variable {K : Type} [Field K] [LinearOrder K]

structure Config (K : Type) where
  modeTime : Time
  speed : K
  tol : K
  kAta : K
  l0Ata : K
  l0Atg : K
  rangeAtg : K
  bsPos : Vector3D K
  bsAddr : Nat
  kAtgPlusMode : Bool
  ataNodes : List Nat
  atgNodes : List Nat
  exp : K → K
  junkPause : UInt32

structure World (K : Type) where
  position : Vector3D K
  entries : List RoutingTableEntry
  address : Nat → Nat
  positionOf : Nat → Vector3D K

structure Uav where
  pause : UInt32
  hops : UInt32
  persist : UInt32
deriving DecidableEq

def doInitialize : Uav := ⟨0, 0, 0⟩

/-- What the movement helper is told: to stop, or to go on with the forces or back to the
base station at a velocity, `none` once it is not a number. -/
inductive Move (K : Type)
  | paused
  | ahead (velocity : Force K)
  | back (velocity : Force K)
deriving DecidableEq

section Model

variable (c : CMath K) (cfg : Config K) (w : World K)

def hasPathToBs : Option RoutingTableEntry :=
  match search 16 w.entries (fun e => decide (e.destAddr = cfg.bsAddr)) with
  | none => none
  | some (some i) => w.entries[i]?
  | some none => some ⟨0, 0⟩

def setPause [FloorRing K] (hops : UInt32) : UInt32 :=
  if 0 < hops then
    toUint32 cfg.junkPause
      ((divDouble (100 * cfg.exp (-getSeconds cfg.modeTime / 10)) ((hops.toNat : K) ^ 3)).map (· + 1))
  else 0

def setNeighboursList : Option (List Nat) :=
  forEach 16 w.entries (fun neighbours e =>
    if e.distance = 1 then
      accumulate 16 cfg.ataNodes (fun neighbours j =>
        if w.address j = e.destAddr then neighbours ++ [j] else neighbours) neighbours
    else some neighbours) []

def computeAtaForce (neighbours : List Nat) : Option (Force K) :=
  accumulate 16 neighbours (fun f j =>
    let disp := calculateDistance c w.position (w.positionOf j) - cfg.l0Ata
    addForce f (pull c (cfg.kAta * disp) (w.positionOf j - w.position))) (some 0)

def computeNumGroudNodes (pos : Vector3D K) : Option Nat :=
  accumulate 16 cfg.atgNodes (fun counter j =>
    if Stiffness.groundDistance c pos (w.positionOf j) < cfg.rangeAtg then counter + 1 else counter) 0

def getMaxNodesNeighbours (neighbours : List Nat) : Option Nat :=
  forEach 16 neighbours (fun curMax j =>
    (computeNumGroudNodes c cfg w (w.positionOf j)).map fun numAtgNodes =>
      if curMax < numAtgNodes then numAtgNodes else curMax) 0

def computeKatg (neighbours : List Nat) : Option K := do
  let coveredNodes ← computeNumGroudNodes c cfg w w.position
  let maxNodesNeighbours ← getMaxNodesNeighbours c cfg w neighbours
  return if maxNodesNeighbours = 0 then 1 else (coveredNodes : K) / (maxNodesNeighbours : K)

/-- Ten times the force on a node that no neighbour covers; `cnt` starts at 1. -/
def kAtgPlus (neighbours : List Nat) (pos : Vector3D K) : Option K :=
  if cfg.kAtgPlusMode then
    (accumulate 16 neighbours (fun cnt j =>
      if Stiffness.groundDistance c pos (w.positionOf j) < cfg.rangeAtg then cnt + 1 else cnt) (1 : UInt16)).map
      fun cnt => if 1 < cnt then 1 else 10
  else some 1

def computeAtgForce (neighbours : List Nat) : Option (Force K) := do
  let kAtg ← computeKatg c cfg w neighbours
  forEach 16 cfg.atgNodes (fun f j =>
    let pos := Stiffness.onGround (w.positionOf j)
    let dist := Stiffness.groundDistance c w.position (w.positionOf j)
    if dist < cfg.rangeAtg then
      (kAtgPlus c cfg w neighbours pos).map fun kAtgPlus =>
        addForce f (pull c (kAtg * kAtgPlus * (dist - cfg.l0Atg)) (pos - Stiffness.onGround w.position))
    else some f) (some 0)

def scale (f : Vector3D K) : Vector3D K := ⟨f.x / 10, f.y / 10, f.z / 10⟩

def computeForce : Option (Force K) := do
  let neighbours ← setNeighboursList cfg w
  let forceAta ← computeAtaForce c cfg w neighbours
  let forceAtg ← computeAtgForce c cfg w neighbours
  return addForce (forceAta.map scale) (forceAtg.map scale)

def act [FloorRing K] (force : Vector3D K) (entry : RoutingTableEntry) (u : Uav) : Uav × Move K :=
  let vector := pull c cfg.speed force
  if entry.distance ≠ 0 then
    let u := { u with hops := entry.distance, persist := 3 * (entry.distance - 1) }
    if u.pause = 0 then (u, .ahead vector) else ({ u with pause := u.pause - 1 }, .paused)
  else if u.persist = 0 then
    ({ u with pause := setPause cfg u.hops }, .back (pull c (cfg.speed * 2) (cfg.bsPos - w.position)))
  else ({ u with persist := u.persist - 1 }, .ahead vector)

/-- One control step, `none` when a scan in it never ends. A force that is not a number
exceeds nothing. -/
def doInitializePrivate [FloorRing K] (u : Uav) : Option (Uav × Move K) := do
  match ← computeForce c cfg w with
  | none => return (u, .paused)
  | some force =>
      if cfg.tol < getLength c force then
        let entry ← hasPathToBs cfg w
        return act c cfg w force entry u
      else return (u, .paused)

end Model

section Runs

variable (c : CMath K) (cfg : Config K)

/-- How far the base station is for a UAV that the forces are strong enough to move; 0
stands for no path. -/
def sight (w : World K) : Option UInt32 :=
  match computeForce c cfg w with
  | some (some force) =>
      if cfg.tol < getLength c force then (hasPathToBs cfg w).map RoutingTableEntry.distance else none
  | _ => none

def Connected (w : World K) : Prop := ∃ distance ∈ sight c cfg w, distance ≠ 0

def CutOff (w : World K) : Prop := sight c cfg w = some 0

instance (w : World K) : Decidable (Connected c cfg w) :=
  inferInstanceAs (Decidable (∃ distance ∈ sight c cfg w, distance ≠ 0))

instance (w : World K) : Decidable (CutOff c cfg w) := inferInstanceAs (Decidable (_ = _))

/-- The velocity along the total force. -/
def course (w : World K) : Force K := ((computeForce c cfg w).getD none).bind (pull c cfg.speed)

def homeward (w : World K) : Force K := pull c (cfg.speed * 2) (cfg.bsPos - w.position)

abbrev Steps (K : Type) := List (Transition Uav (World K) (Move K))

def Move.isBack : Move K → Bool
  | .back _ => true
  | _ => false

def lastHops (past : Steps K) : UInt32 :=
  ((past.filterMap fun t => sight c cfg t.event).filter (· ≠ 0)).getLast?.getD 0

def persistence (t : Transition Uav (World K) (Move K)) : Nat := (3 * ((sight c cfg t.event).getD 0 - 1)).toNat

/-- Since the last path to the base station a UAV has been cut off for less than three steps
a hop of it beyond the first. -/
def Persists (past : Steps K) : Prop :=
  ∃ before a between, past = before ++ a :: between ∧ Connected c cfg a.event ∧
    (∀ b ∈ between, ¬ Connected c cfg b.event) ∧
    between.countP (fun b => CutOff c cfg b.event) < persistence c cfg a

/-- Since a UAV has last turned back it has been on a path to the base station for less steps
than the length of the path before says. -/
def Rests [FloorRing K] (past : Steps K) : Prop :=
  ∃ before a between, past = before ++ a :: between ∧ a.out.isBack ∧ (∀ b ∈ between, ¬ b.out.isBack) ∧
    between.countP (fun b => Connected c cfg b.event) < (setPause cfg (lastHops c cfg before)).toNat

variable [FloorRing K] {c cfg} {u u' : Uav} {w : World K} {out : Move K} {past : Steps K}

def machine (c : CMath K) (cfg : Config K) (u : Uav) (w : World K) : Option (Uav × Move K) :=
  doInitializePrivate c cfg w u

theorem machine_cases (hstep : machine c cfg u w = some (u', out)) :
    (sight c cfg w = none ∧ u' = u ∧ out = .paused) ∨
      ∃ force entry, computeForce c cfg w = some (some force) ∧ sight c cfg w = some entry.distance ∧
        act c cfg w force entry u = (u', out) := by
  obtain ⟨total, htotal, hstep⟩ := Option.bind_eq_some_iff.mp hstep
  rw [sight, htotal]
  cases total with
  | none =>
      cases hstep
      exact .inl ⟨rfl, rfl, rfl⟩
  | some force =>
      dsimp only at hstep ⊢
      split at hstep
      · next hstrong =>
          obtain ⟨entry, hentry, hact⟩ := Option.bind_eq_some_iff.mp hstep
          rw [if_pos hstrong, hentry]
          exact .inr ⟨force, entry, rfl, rfl, Option.some.inj hact⟩
      · next hweak =>
          cases hstep
          exact .inl ⟨if_neg hweak, rfl, rfl⟩

inductive Acts (c : CMath K) (cfg : Config K) (w : World K) (u : Uav) : UInt32 → Uav → Move K → Prop
  | onward {distance : UInt32} (connected : distance ≠ 0) (rested : u.pause = 0) :
      Acts c cfg w u distance { u with hops := distance, persist := 3 * (distance - 1) } (.ahead (course c cfg w))
  | resting {distance : UInt32} (connected : distance ≠ 0) (pause : u.pause ≠ 0) :
      Acts c cfg w u distance { pause := u.pause - 1, hops := distance, persist := 3 * (distance - 1) } .paused
  | turning (persist : u.persist = 0) :
      Acts c cfg w u 0 { u with pause := setPause cfg u.hops } (.back (homeward c cfg w))
  | persisting (persist : u.persist ≠ 0) :
      Acts c cfg w u 0 { u with persist := u.persist - 1 } (.ahead (course c cfg w))

theorem acts_of_act {force : Vector3D K} {entry : RoutingTableEntry}
    (hforce : computeForce c cfg w = some (some force)) (h : act c cfg w force entry u = (u', out)) :
    Acts c cfg w u entry.distance u' out := by
  have hcourse : pull c cfg.speed force = course c cfg w := by rw [course, hforce]; rfl
  rw [act, hcourse] at h
  dsimp only at h
  split at h
  · next hconnected =>
      split at h
      · next hrested =>
          cases h
          exact .onward hconnected hrested
      · next hpause =>
          cases h
          exact .resting hconnected hpause
  · next hcut =>
      rw [not_not.mp hcut]
      split at h
      · next hpersist =>
          cases h
          exact .turning hpersist
      · next hpersist =>
          cases h
          exact .persisting hpersist

structure Counted (c : CMath K) (cfg : Config K) (past : Steps K) (u : Uav) : Prop where
  hops : u.hops = lastHops c cfg past
  persist : Left (fun t => Connected c cfg t.event) (fun t => CutOff c cfg t.event) (fun _ t => persistence c cfg t)
    past u.persist.toNat
  pause : Left (fun t => t.out.isBack) (fun t => Connected c cfg t.event)
    (fun before _ => (setPause cfg (lastHops c cfg before)).toNat) past u.pause.toNat

omit [FloorRing K] in
theorem lastHops_concat (t : Transition Uav (World K) (Move K)) :
    lastHops c cfg (past ++ [t]) =
      if Connected c cfg t.event then (sight c cfg t.event).getD 0 else lastHops c cfg past := by
  rw [lastHops, List.filterMap_append, List.filter_append]
  cases hsight : sight c cfg t.event with
  | none => simp [Connected, hsight, lastHops]
  | some distance =>
      by_cases hzero : distance = 0
      · simp [Connected, hsight, hzero, lastHops]
      · simp [Connected, hsight, hzero]

theorem toNat_sub_one {n : UInt32} (h : n ≠ 0) : (n - 1).toNat = n.toNat - 1 :=
  UInt32.toNat_sub_of_le n 1 (UInt32.le_iff_toNat_le.mpr
    (Nat.one_le_iff_ne_zero.mpr fun hzero => h (UInt32.toNat_inj.mp hzero)))

theorem counted_connected (h : Counted c cfg past u) {distance : UInt32} (hsight : sight c cfg w = some distance)
    (hfar : distance ≠ 0) (hback : out.isBack = false) (hhops : u'.hops = distance)
    (hpersist : u'.persist = 3 * (distance - 1)) (hpause : u'.pause.toNat = u.pause.toNat - 1) :
    Counted c cfg (past ++ [⟨u, w, u', out⟩]) u' := by
  have hconnected : Connected c cfg w := ⟨distance, hsight, hfar⟩
  refine ⟨?_, ?_, ?_⟩
  · rw [lastHops_concat, if_pos hconnected, hsight]
    exact hhops
  · have hset : u'.persist.toNat = persistence c cfg ⟨u, w, u', out⟩ := by
      rw [hpersist, persistence, hsight]
      rfl
    rw [hset]
    exact left_reset hconnected
  · have hleft := left_step (a := ⟨u, w, u', out⟩) h.pause (by simp [hback])
    rw [if_pos hconnected, ← hpause] at hleft
    exact hleft

theorem counted_cutOff (h : Counted c cfg past u) (hcut : sight c cfg w = some 0) (hhops : u'.hops = u.hops)
    (hpersist : u'.persist.toNat = u.persist.toNat - 1)
    (hpause : (out.isBack = false ∧ u'.pause = u.pause) ∨ (out.isBack = true ∧ u'.pause = setPause cfg u.hops)) :
    Counted c cfg (past ++ [⟨u, w, u', out⟩]) u' := by
  have hfar : ¬ Connected c cfg w := by simp [Connected, hcut]
  refine ⟨?_, ?_, ?_⟩
  · rw [lastHops_concat, if_neg hfar]
    exact hhops.trans h.hops
  · have hleft := left_step (a := ⟨u, w, u', out⟩) h.persist hfar
    rw [if_pos (show CutOff c cfg w from hcut), ← hpersist] at hleft
    exact hleft
  · rcases hpause with ⟨hahead, hpause⟩ | ⟨hback, hpause⟩
    · have hleft := left_step (a := ⟨u, w, u', out⟩) h.pause (by simp [hahead])
      rw [if_neg hfar] at hleft
      rw [hpause]
      exact hleft
    · rw [hpause, h.hops]
      exact left_reset hback

theorem counted_step (h : Counted c cfg past u) (hstep : machine c cfg u w = some (u', out)) :
    Counted c cfg (past ++ [⟨u, w, u', out⟩]) u' := by
  rcases machine_cases hstep with ⟨hnone, rfl, rfl⟩ | ⟨force, entry, hforce, hsight, hact⟩
  · have hfar : ¬ Connected c cfg w := by simp [Connected, hnone]
    have hpersist := left_step (a := ⟨u', w, u', .paused⟩) h.persist hfar
    have hpause := left_step (a := ⟨u', w, u', .paused⟩) h.pause nofun
    rw [if_neg (by simp [CutOff, hnone])] at hpersist
    rw [if_neg hfar] at hpause
    exact ⟨h.hops.trans (by rw [lastHops_concat, if_neg hfar]), hpersist, hpause⟩
  · have hacts := acts_of_act hforce hact
    generalize entry.distance = distance at hsight hacts
    cases hacts with
    | onward hfar hrested => exact counted_connected h hsight hfar rfl rfl rfl (by rw [hrested]; rfl)
    | resting hfar hpause => exact counted_connected h hsight hfar rfl rfl rfl (toNat_sub_one hpause)
    | turning hpersist => exact counted_cutOff h hsight rfl (by rw [hpersist]; rfl) (.inr ⟨rfl, rfl⟩)
    | persisting hpersist => exact counted_cutOff h hsight rfl (toNat_sub_one hpersist) (.inl ⟨rfl, rfl⟩)

variable {es : List (World K)} {rest : Steps K} {t : Transition Uav (World K) (Move K)}

theorem counted_of_run (hrun : transitions (machine c cfg) doInitialize es = past ++ t :: rest) :
    Counted c cfg past t.pre :=
  history_invariant (Counted c cfg) (fun _ _ _ _ _ h hstep => counted_step h hstep) ⟨rfl, left_nil, left_nil⟩ hrun

/-- A UAV that is cut off goes on with the forces, for three steps a hop of the last path
beyond the first, and back to the base station from then on. -/
theorem persists_iff (hrun : transitions (machine c cfg) doInitialize es = past ++ t :: rest)
    (hcut : CutOff c cfg t.event) :
    (t.out = .ahead (course c cfg t.event) ↔ Persists c cfg past) ∧
      (t.out = .back (homeward c cfg t.event) ↔ ¬ Persists c cfg past) := by
  have hcounted := counted_of_run hrun
  have hstep := step_of_mem (show t ∈ transitions (machine c cfg) doInitialize es by rw [hrun]; simp)
  have hleft : 0 < t.pre.persist.toNat ↔ Persists c cfg past := left_pos_iff hcounted.persist
  rw [← hleft]
  obtain ⟨u, w, u', out⟩ := t
  rcases machine_cases hstep with ⟨hnone, _⟩ | ⟨force, entry, hforce, hsight, hact⟩
  · rw [CutOff, hnone] at hcut
    cases hcut
  · have hacts : Acts c cfg w u entry.distance u' out := acts_of_act hforce hact
    rw [Option.some.inj (hsight.symm.trans hcut)] at hacts
    cases hacts with
    | onward hfar | resting hfar => exact absurd rfl hfar
    | turning hpersist => exact ⟨iff_of_false nofun (by simp [hpersist]), iff_of_true rfl (by simp [hpersist])⟩
    | persisting hpersist =>
        have hpos : 0 < u.persist.toNat := Nat.pos_of_ne_zero fun hzero => hpersist (UInt32.toNat_inj.mp hzero)
        exact ⟨iff_of_true rfl hpos, iff_of_false nofun (not_not_intro hpos)⟩

section Wandering

def config : Config ℚ where
  modeTime := seconds 1
  speed := 17
  tol := 30
  kAta := 1 / 2
  l0Ata := 150
  l0Atg := 20
  rangeAtg := 100
  bsPos := ⟨200, 200, 0⟩
  bsAddr := 100
  kAtgPlusMode := true
  ataNodes := [2]
  atgNodes := []
  exp _ := 9 / 10
  junkPause := 0

def seen (distance : Option UInt32) : World ℚ where
  position := 0
  entries := ⟨102, 1⟩ :: (distance.map fun distance => ⟨100, distance⟩).toList
  address j := 100 + j
  positionOf _ := ⟨1000, 0, 0⟩

def wandering : Steps ℚ :=
  transitions (machine rationalMath config) doInitialize
    [seen (some 2), seen none, seen none, seen none, seen none, seen (some 3), seen (some 3)]

end Wandering

theorem persists_iff_wandering :
    Persists rationalMath config (wandering.take 3) ∧ ¬ Persists rationalMath config (wandering.take 4) := by
  have hahead : ∃ t ∈ wandering[3]?, CutOff rationalMath config t.event ∧
      t.out = .ahead (course rationalMath config t.event) := by decide +kernel
  have hback : ∃ t ∈ wandering[4]?, CutOff rationalMath config t.event ∧
      t.out = .back (homeward rationalMath config t.event) := by decide +kernel
  obtain ⟨t, ht, hcut, hout⟩ := hahead
  obtain ⟨t', ht', hcut', hout'⟩ := hback
  exact ⟨(persists_iff (split_getElem? ht) hcut).1.mp hout, (persists_iff (split_getElem? ht') hcut').2.mp hout'⟩

/-- A UAV that has been back stays where it is on a path to the base station, as many steps as
the length of the path before says, and goes on with the forces from then on. -/
theorem rests_iff (hrun : transitions (machine c cfg) doInitialize es = past ++ t :: rest)
    (hconnected : Connected c cfg t.event) :
    (t.out = .paused ↔ Rests c cfg past) ∧ (t.out = .ahead (course c cfg t.event) ↔ ¬ Rests c cfg past) := by
  have hcounted := counted_of_run hrun
  have hstep := step_of_mem (show t ∈ transitions (machine c cfg) doInitialize es by rw [hrun]; simp)
  have hleft : 0 < t.pre.pause.toNat ↔ Rests c cfg past := left_pos_iff hcounted.pause
  rw [← hleft]
  obtain ⟨u, w, u', out⟩ := t
  obtain ⟨distance, hdistance, hfar⟩ := hconnected
  rcases machine_cases hstep with ⟨hnone, _⟩ | ⟨force, entry, hforce, hsight, hact⟩
  · rw [hnone] at hdistance
    cases hdistance
  · have hacts : Acts c cfg w u entry.distance u' out := acts_of_act hforce hact
    rw [Option.some.inj (hsight.symm.trans hdistance)] at hacts
    cases hacts with
    | onward _ hrested => exact ⟨iff_of_false nofun (by simp [hrested]), iff_of_true rfl (by simp [hrested])⟩
    | resting _ hpause =>
        have hpos : 0 < u.pause.toNat := Nat.pos_of_ne_zero fun hzero => hpause (UInt32.toNat_inj.mp hzero)
        exact ⟨iff_of_true rfl hpos, iff_of_false nofun (not_not_intro hpos)⟩
    | turning | persisting => exact absurd rfl hfar

theorem rests_iff_wandering :
    (setPause config 2).toNat = 12 ∧ Rests rationalMath config (wandering.take 6) ∧
      ¬ Rests rationalMath config (wandering.take 0) := by
  have hahead : ∃ t ∈ wandering[0]?, Connected rationalMath config t.event ∧
      t.out = .ahead (course rationalMath config t.event) := by decide +kernel
  have hpaused : ∃ t ∈ wandering[6]?, Connected rationalMath config t.event ∧ t.out = .paused := by
    decide +kernel
  obtain ⟨t, ht, hconnected, hout⟩ := hahead
  obtain ⟨t', ht', hconnected', hout'⟩ := hpaused
  exact ⟨by decide +kernel, (rests_iff (split_getElem? ht') hconnected').1.mp hout',
    (rests_iff (split_getElem? ht) hconnected).2.mp hout⟩

end Runs

end UavMonitoring.Waterfall
