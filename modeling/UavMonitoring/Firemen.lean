import UavMonitoring.Basics
import UavMonitoring.Runs
import Mathlib.Tactic.Ring

namespace UavMonitoring.Firemen

open Basics Runs

variable {K : Type} [Field K] [LinearOrder K]

structure Rectangle (K : Type) where
  xMin : K
  xMax : K
  yMin : K
  yMax : K

structure Attributes (K : Type) where
  area : Rectangle K
  numTeams : Int
  teamId : Int
  heightWpArea : K
  spreadX : K
  spreadY : K
  speed : K
  walkTime : Time
  fallTime : Time

structure State (K : Type) where
  minY : K
  bounds : Rectangle K
  cur : Time

/-- What a round of `DoInitializePrivate` sets up: the rectangle of the next
waypoint, the waypoint drawn in it, and the walk there. -/
structure Round (K : Type) where
  wpArea : Rectangle K
  waypoint : Vector3D K
  vel : Vector3D K
  delayLeft : K

/-- `draw` answers `m_wp -> GetValue ()` for the bounds set just before. -/
def doInitializePrivate (c : CMath K) (m : Attributes K) (draw : K → K → K) (pos : Vector3D K)
    (s : State K) : State K × Round K :=
  let lengthSubArea := m.area.xMax / m.numTeams
  let xLowLeft := m.teamId * lengthSubArea
  -- the source tests the bare difference, so any nonzero value counts as true
  let yLowLeft := if s.minY - m.heightWpArea ≠ 0 then s.minY - m.heightWpArea else 0
  let xUpRight := xLowLeft + lengthSubArea
  let yUpRight := yLowLeft + m.heightWpArea
  let waypoint : Vector3D K := ⟨draw xLowLeft xUpRight, draw yLowLeft yUpRight, 0⟩
  let bounds : Rectangle K := ⟨waypoint.x - m.spreadX / 2, waypoint.x + m.spreadX / 2,
    waypoint.y - m.spreadY / 2, waypoint.y + m.spreadY / 2⟩
  let dist := calculateDistance c waypoint pos
  let vel : Vector3D K := ⟨m.speed * (waypoint.x - pos.x) / dist,
    m.speed * (waypoint.y - pos.y) / dist, 0⟩
  ({ s with minY := yLowLeft, bounds := bounds },
    ⟨⟨xLowLeft, xUpRight, yLowLeft, yUpRight⟩, waypoint, vel, dist / m.speed⟩)

/-- The clock part of `DoInitializePrivateRandomWalk`: whether the team now
falls back to a new waypoint or walks on. -/
def doInitializePrivateRandomWalk (m : Attributes K) (s : State K) : State K × Bool :=
  if m.fallTime < s.cur then ({ s with cur := seconds 0 }, true)
  else ({ s with cur := s.cur + m.walkTime }, false)

def doInitialize (m : Attributes K) : State K := ⟨m.area.yMax, m.area, seconds 0⟩

inductive Event (K : Type)
  | doInitializePrivate (draw : K → K → K) (pos : Vector3D K)
  | doInitializePrivateRandomWalk

def step (c : CMath K) (m : Attributes K) (s : State K) :
    Event K → Option (State K × Option (Round K))
  | .doInitializePrivate draw pos =>
      let r := doInitializePrivate c m draw pos s
      some (r.1, some r.2)
  | .doInitializePrivateRandomWalk => some ((doInitializePrivateRandomWalk m s).1, none)

def calls (es : List (Event K)) : Nat :=
  es.countP fun | .doInitializePrivate _ _ => true | .doInitializePrivateRandomWalk => false

def Rectangle.Inside (r a : Rectangle K) : Prop :=
  a.xMin ≤ r.xMin ∧ r.xMax ≤ a.xMax ∧ a.yMin ≤ r.yMin ∧ r.yMax ≤ a.yMax

def StaysInside (c : CMath K) (m : Attributes K) (s : State K) (es : List (Event K)) : Prop :=
  ∀ t ∈ transitions (step c m) s es, ∀ r ∈ t.out, r.wpArea.Inside m.area

/-- The promises under which a team is set up: the area starts at the origin,
the team is one of the teams, and the height of its band fits. -/
structure Attributes.Valid (m : Attributes K) : Prop where
  xMin : m.area.xMin = 0
  yMin : m.area.yMin = 0
  xMax : 0 ≤ m.area.xMax
  team : 0 ≤ m.teamId ∧ m.teamId < m.numTeams
  height : 0 < m.heightWpArea ∧ m.heightWpArea ≤ m.area.yMax

theorem minY_doInitializePrivate (c : CMath K) (m : Attributes K) (draw : K → K → K)
    (pos : Vector3D K) (s : State K) :
    (doInitializePrivate c m draw pos s).1.minY = s.minY - m.heightWpArea := by
  simp only [doInitializePrivate]
  split
  · rfl
  · next h => exact (not_not.mp h).symm

omit [Field K] [LinearOrder K] in
theorem minY_randomWalk (m : Attributes K) (s : State K) :
    (doInitializePrivateRandomWalk m s).1.minY = s.minY := by
  rw [doInitializePrivateRandomWalk]
  split <;> rfl

variable [IsStrictOrderedRing K]

theorem subarea_inside {m : Attributes K} (hv : m.Valid) :
    0 ≤ (m.teamId : K) * (m.area.xMax / m.numTeams) ∧
      (m.teamId : K) * (m.area.xMax / m.numTeams) + m.area.xMax / m.numTeams ≤ m.area.xMax := by
  have hid : (0 : K) ≤ m.teamId := by exact_mod_cast hv.team.1
  have hnum : (m.teamId : K) + 1 ≤ m.numTeams := by exact_mod_cast hv.team.2
  have hpos : (0 : K) < m.numTeams := by linarith
  refine ⟨mul_nonneg hid (div_nonneg hv.xMax hpos.le), ?_⟩
  calc (m.teamId : K) * (m.area.xMax / m.numTeams) + m.area.xMax / m.numTeams
      = ((m.teamId : K) + 1) * (m.area.xMax / m.numTeams) := by ring
    _ ≤ m.numTeams * (m.area.xMax / m.numTeams) :=
        mul_le_mul_of_nonneg_right hnum (div_nonneg hv.xMax hpos.le)
    _ = m.area.xMax := mul_div_cancel₀ _ hpos.ne'

theorem wpArea_inside_iff {c : CMath K} {m : Attributes K} (hv : m.Valid) (draw : K → K → K)
    (pos : Vector3D K) (s : State K) (hs : s.minY ≤ m.area.yMax) :
    (doInitializePrivate c m draw pos s).2.wpArea.Inside m.area ↔ m.heightWpArea ≤ s.minY := by
  have hx := subarea_inside hv
  have hy : (doInitializePrivate c m draw pos s).2.wpArea.yMin = s.minY - m.heightWpArea :=
    minY_doInitializePrivate c m draw pos s
  have hy' : (doInitializePrivate c m draw pos s).2.wpArea.yMax = s.minY := by
    change (doInitializePrivate c m draw pos s).2.wpArea.yMin + m.heightWpArea = s.minY
    rw [hy, sub_add_cancel]
  rw [Rectangle.Inside, hv.xMin, hv.yMin, hy, hy', sub_nonneg]
  exact ⟨fun h => h.2.2.1, fun h => ⟨hx.1, hx.2, h, hs⟩⟩

theorem fits_succ_iff (n : Nat) {h y : K} (hh : 0 ≤ h) :
    h ≤ y ∧ (n = 0 ∨ n * h + h ≤ y) ↔ n + 1 = 0 ∨ n * h + h ≤ y := by
  have hn : (0 : K) ≤ n * h := mul_nonneg n.cast_nonneg hh
  constructor
  · rintro ⟨hy, rfl | hs⟩
    · right; simpa using hy
    · exact .inr hs
  · rintro (h0 | hs)
    · omega
    · exact ⟨by linarith, .inr hs⟩

theorem staysInside_iff {c : CMath K} {m : Attributes K} (hv : m.Valid) (es : List (Event K))
    (s : State K) (hs : s.minY ≤ m.area.yMax) :
    StaysInside c m s es ↔ calls es = 0 ∨ calls es * m.heightWpArea ≤ s.minY := by
  induction es generalizing s with
  | nil => simp [StaysInside, transitions, calls]
  | cons e es ih =>
      cases e with
      | doInitializePrivateRandomWalk =>
          have h := ih (doInitializePrivateRandomWalk m s).1 (by rwa [minY_randomWalk])
          rw [minY_randomWalk] at h
          rw [StaysInside, transitions_cons _ _ _ _ _ _ rfl, List.forall_mem_cons]
          simpa [calls, StaysInside] using h
      | doInitializePrivate draw pos =>
          have hminY := minY_doInitializePrivate c m draw pos s
          have h := ih (doInitializePrivate c m draw pos s).1 (by rw [hminY]; linarith [hv.height.1])
          have hhead : (∀ r ∈ some (doInitializePrivate c m draw pos s).2, r.wpArea.Inside m.area) ↔
              m.heightWpArea ≤ s.minY := by
            simpa using wpArea_inside_iff hv draw pos s hs
          have hcalls : calls (.doInitializePrivate draw pos :: es) = calls es + 1 := by simp [calls]
          rw [StaysInside, transitions_cons _ _ _ _ _ _ rfl, List.forall_mem_cons, hhead, hcalls]
          change m.heightWpArea ≤ s.minY ∧ StaysInside c m _ es ↔ _
          rw [h, hminY, le_sub_iff_add_le, Nat.cast_add, Nat.cast_one, add_one_mul]
          exact fits_succ_iff (calls es) hv.height.1.le

/-- Every round from `DoInitialize` on draws its waypoint inside the area
exactly if the bands of all rounds, stacked from the top, fit into it. -/
theorem waypoints_inside_iff (c : CMath K) (m : Attributes K) (hv : m.Valid) (es : List (Event K)) :
    StaysInside c m (doInitialize m) es ↔ calls es * m.heightWpArea ≤ m.area.yMax := by
  rw [staysInside_iff hv es _ le_rfl]
  refine ⟨?_, .inr⟩
  rintro (h | h)
  · rw [h, Nat.cast_zero, zero_mul]
    exact hv.height.1.le.trans hv.height.2
  · exact h

def bands : Attributes ℚ :=
  ⟨⟨0, 1000, 0, 1000⟩, 2, 1, 400, 300, 300, 139 / 100, seconds 30, minutes 5⟩

theorem bands_valid : bands.Valid :=
  ⟨rfl, rfl, by decide, by decide, by decide⟩

def rounds (n : Nat) : List (Event ℚ) :=
  List.replicate n (.doInitializePrivate (fun lo _ => lo) ⟨0, 0, 0⟩)

theorem waypoints_inside_two_rounds :
    StaysInside rationalMath bands (doInitialize bands) (rounds 2) ↔
      calls (rounds 2) * bands.heightWpArea ≤ bands.area.yMax :=
  waypoints_inside_iff rationalMath bands bands_valid (rounds 2)

theorem third_round_leaves : ¬ StaysInside rationalMath bands (doInitialize bands) (rounds 3) := by
  rw [staysInside_iff bands_valid _ _ le_rfl]
  decide +kernel

end UavMonitoring.Firemen
