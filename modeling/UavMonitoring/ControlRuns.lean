import UavMonitoring.ControlSteps
import Mathlib.Data.UInt

namespace UavMonitoring.ControlRuns

open Std Basics EdsMonitor Runs SeedsManager SpringForces VirtualSprings ControlSteps

variable {K : Type} [Field K] [LinearOrder K] [FloorRing K] (c : CMath K) (cfg : Config K)
  (junk : Token K)

abbrev ControlStep (K : Type) := Transition (Uav K) (Time × Event K) (List (Call K))

def run (es : List (Time × Event K)) : List (ControlStep K) :=
  transitions (step c cfg) (doInitialize junk) es

def NoPath (w : World K) : Prop := ∃ entry, hasPathToBs cfg w = some entry ∧ entry.distance = 0

section Scenario

def config (id mode : Nat) : Config ℚ := ⟨id, 17, 30, 1 / 2, 10, 10, mode, 0, 100, true, [2]⟩

def noToken : Token ℚ := ⟨0, 0, 0, 0, 0, 0⟩

def world (entries : List RoutingTableEntry) : World ℚ where
  position := ⟨200, 0, 0⟩
  entries := entries
  address j := 100 + j
  positionOf _ := ⟨100, 0, 0⟩
  coverage _ := (∅ : EdsMap ℚ).insert 5 ⟨200, 50, 0⟩
  ataLinkBudget _ := 20
  atgLinkBudget _ := 20
  clustering := ⟨fun _ _ => some fun _ => 0, fun _ _ => none, fun _ => 0⟩
  junkRatio := 0
  junkPause := 0
  junkEntry := ⟨0, 0, 0⟩
  junkToken := noToken

def hear (id : Nat) (x : ℚ) (t : Int) : Time × Event ℚ :=
  (seconds t, .updateList (some id) ⟨x, 50, 0⟩)

def control (t : Int) (entries : List RoutingTableEntry) : Time × Event ℚ :=
  (seconds t, .doInitializePrivate (world entries))

def toBs : List RoutingTableEntry := [⟨102, 1⟩, ⟨100, 2⟩]

end Scenario

section Prediction

/-- In a step of mode 3 `UpdateLostEds` moves a device whose history holds two
receptions at most 40 s apart. -/
def DeclaredLost (t : ControlStep K) (id : Nat) : Prop :=
  cfg.predictionMode = 3 ∧ (∃ w, t.event.2 = .doInitializePrivate w) ∧
    ∃ e₁ e₂, t.pre.monitor.edsSingleHist[id]? = some [e₁, e₂] ∧ e₂.time - e₁.time ≤ seconds 40 ∧
      id ∉ (updateLostEds t.event.1 (minutes 3) t.pre.monitor).edsSingleHist ∧
      (updateLostEds t.event.1 (minutes 3) t.pre.monitor).edsLost[id]? = some [e₁, e₂]

def ReachesClusters (t : ControlStep K) (id : Nat) : Prop :=
  ∃ lost, .createClusters lost ∈ t.out ∧ id ∈ lost

omit [Field K] [LinearOrder K] [FloorRing K] in
theorem filtered_of_moved (now interTol : Time) (m : Monitor K) (id : Nat) (e₁ e₂ : EdsEntry K)
    (hq : m.edsSingleHist[id]? = some [e₁, e₂])
    (hmoved : id ∉ (updateLostEds now (minutes 3) m).edsSingleHist) :
    id ∉ (filterLostEds now interTol (minutes 3) (updateLostEds now (minutes 3) m)).edsLost := by
  have hbefore : e₂.time < now - minutes 3 := by
    by_contra hn
    apply hmoved
    rw [ExtTreeMap.mem_iff_isSome_getElem?, single_updateLostEds, hq, Option.filter_some]
    simp [lastBefore, hn]
  have hout : outdated now interTol (minutes 3) [e₁, e₂] = true := by
    have hlate : minutes 3 < now - e₂.time := by linarith
    simp [outdated, hlate]
  rw [ExtTreeMap.mem_iff_isSome_getElem?, lost_filterLostEds, lost_updateLostEds, hq]
  simp [Option.filter, lastBefore, hbefore, hout]

/-- No device that a mode-3 step declares lost is ever clustered, so the
prediction gets hold of them exactly in the runs that declare none lost. -/
theorem lost_filtered_at_once (es : List (Time × Event K)) :
    (∀ t ∈ run c cfg junk es, ∀ id, DeclaredLost cfg t id → ¬ ReachesClusters t id) ∧
    ((∀ t ∈ run c cfg junk es, ∀ id, DeclaredLost cfg t id → ReachesClusters t id) ↔
      ∀ t ∈ run c cfg junk es, ∀ id, ¬ DeclaredLost cfg t id) := by
  have hnever : ∀ t ∈ run c cfg junk es, ∀ id, DeclaredLost cfg t id → ¬ ReachesClusters t id := by
    rintro t ht id ⟨hmode, ⟨w, hw⟩, e₁, e₂, hq, _, hmoved, _⟩ ⟨lost, hcall, hid⟩
    rcases step_cases (step_of_mem ht) with ⟨w', _, heffect⟩ | ⟨hno, _⟩
    · obtain ⟨_, rfl⟩ := (heffect.createClusters_iff lost).mp hcall
      have hswept : swept cfg t.event.1 t.pre.monitor = filterLostEds t.event.1 (seconds 40) (minutes 3)
          (updateLostEds t.event.1 (minutes 3) t.pre.monitor) := by simp [swept, hmode]
      rw [hswept] at hid
      exact filtered_of_moved t.event.1 (seconds 40) t.pre.monitor id e₁ e₂ hq hmoved hid
    · exact hno w hw
  refine ⟨hnever, fun h t ht id hlost => hnever t ht id hlost (h t ht id hlost), ?_⟩
  exact fun h t ht id hlost => absurd hlost (h t ht id)

def noticed (id : Nat) : Call ℚ → Bool
  | .createClusters lost => decide (id ∈ lost)
  | _ => false

theorem device_filtered :
    ¬ ∀ t ∈ run rationalMath (config 1 3) noToken [hear 7 200 0, hear 7 210 10, control 200 toBs],
      ∀ id, DeclaredLost (config 1 3) t id → ReachesClusters t id := by
  intro h
  let r := run rationalMath (config 1 3) noToken [hear 7 200 0, hear 7 210 10, control 200 toBs]
  obtain ⟨t, ht⟩ : ∃ t, r[2]? = some t := Option.isSome_iff_exists.mp (by decide +kernel)
  have hevent : some (control 200 toBs) = some t.event := event_of_getElem? ht
  have hfacts : (r[2]?.map fun t =>
      decide (t.pre.monitor.edsSingleHist[7]? = some [⟨200, 50, seconds 0⟩, ⟨210, 50, seconds 10⟩]) &&
      decide (7 ∉ (updateLostEds (seconds 200) (minutes 3) t.pre.monitor).edsSingleHist) &&
      decide ((updateLostEds (seconds 200) (minutes 3) t.pre.monitor).edsLost[7]? =
        some [⟨200, 50, seconds 0⟩, ⟨210, 50, seconds 10⟩]) &&
      !t.out.any (noticed 7)) = some true := by decide +kernel
  simp only [ht, Option.map_some, Option.some.injEq, Bool.and_eq_true, decide_eq_true_eq,
    Bool.not_eq_true', List.any_eq_false] at hfacts
  obtain ⟨⟨⟨hhist, hmoved⟩, hlost⟩, hout⟩ := hfacts
  rw [Option.some.injEq] at hevent
  obtain ⟨lost, hcall, hmem⟩ := h t (List.mem_of_getElem? ht) 7
    ⟨rfl, ⟨_, congrArg Prod.snd hevent.symm⟩, _, _, hhist, by decide,
      by rw [← hevent]; exact ⟨hmoved, hlost⟩⟩
  exact hout _ hcall (by simp [noticed, hmem])

end Prediction

section Persistence

/-- A step without a path to the base station in which the UAV finds no reason
to leave its place. -/
def KeepsGoing (t : ControlStep K) : Prop :=
  ∃ w simNode, t.event.2 = .doInitializePrivate w ∧ NoPath cfg w ∧ 0 < t.pre.persist ∧
    (setEdsList t.event.1 t.pre).size ≠ 0 ∧ .findMostSimilarNode simNode ∈ t.out ∧ simNode ≠ 0 ∧
    cfg.id ≤ simNode

theorem keepsGoing_of_mem {es : List (Time × Event K)} {t : ControlStep K} {simNode : Nat}
    (ht : t ∈ run c cfg junk es) (hsim : .findMostSimilarNode simNode ∈ t.out) (hne : simNode ≠ 0)
    (hle : cfg.id ≤ simNode) : KeepsGoing cfg t := by
  rcases step_cases (step_of_mem ht) with ⟨w, hw, heffect⟩ | ⟨_, _, _, hquiet⟩
  · obtain ⟨_, hgoing, hcovering, hpath⟩ := heffect.findMostSimilarNode hsim
    exact ⟨w, simNode, hw, hpath, UInt32.pos_iff_ne_zero.mpr hgoing, hcovering, hsim, hne, hle⟩
  · simp [hquiet] at hsim

theorem doubled_iff (p : UInt32) (hp : 0 < p) : (p ≤ p * 2 ∧ p * 2 ≠ 0) ↔ p < 2 ^ 31 := by
  have h1 : p.toNat < 2 ^ 32 := p.toNat_lt
  have h0 : 0 < p.toNat := UInt32.lt_iff_toNat_lt.mp hp
  have h2 : (2 : UInt32).toNat = 2 := rfl
  have h31 : (2 ^ 31 : UInt32).toNat = 2147483648 := by decide
  have h0' : (0 : UInt32).toNat = 0 := rfl
  rw [UInt32.le_iff_toNat_le, UInt32.lt_iff_toNat_lt, Ne, ← UInt32.toNat_inj, UInt32.toNat_mul, h2, h31,
    h0']
  omega

/-- A keep-going step loses nothing exactly when the counter has a bit to spare. -/
theorem keeps_persist_iff (es : List (Time × Event K)) :
    (∀ t ∈ run c cfg junk es, KeepsGoing cfg t → t.pre.persist ≤ t.post.persist ∧ t.post.persist ≠ 0) ↔
      ∀ t ∈ run c cfg junk es, KeepsGoing cfg t → t.pre.persist < 2 ^ 31 := by
  refine forall₃_congr fun t ht hgoing => ?_
  obtain ⟨w, simNode, _, _, hpos, _, hsim, hne, hle⟩ := hgoing
  rcases step_cases (step_of_mem ht) with ⟨w', _, heffect⟩ | ⟨_, _, _, hquiet⟩
  · obtain ⟨hpersist, _⟩ := heffect.findMostSimilarNode hsim
    rw [if_neg (by omega)] at hpersist
    rw [hpersist]
    exact doubled_iff _ hpos
  · simp [hquiet] at hsim

def comparedTo (id : Nat) : Call ℚ → Bool
  | .findMostSimilarNode r => decide (r = id)
  | _ => false

theorem eq_of_comparedTo {id : Nat} {call : Call ℚ} (h : comparedTo id call) :
    call = .findMostSimilarNode id := by
  cases call <;> simp_all [comparedTo]

def longGap : List (Time × Event ℚ) :=
  hear 5 200 0 :: control 0 toBs ::
    (List.range 31).flatMap fun k => [hear 5 200 (k + 1), control (k + 1) [⟨102, 1⟩]]

theorem persist_wraps :
    ¬ ∀ t ∈ run rationalMath (config 1 0) noToken longGap, KeepsGoing (config 1 0) t →
      t.pre.persist ≤ t.post.persist ∧ t.post.persist ≠ 0 := by
  intro h
  have hstep : (run rationalMath (config 1 0) noToken longGap).any (fun t =>
      decide (t.post.persist = 0) && t.out.any (comparedTo 2)) = true := by decide +kernel
  obtain ⟨t, ht, hfacts⟩ := List.any_eq_true.mp hstep
  rw [Bool.and_eq_true, decide_eq_true_eq, List.any_eq_true] at hfacts
  obtain ⟨hzero, call, hcall, hcompared⟩ := hfacts
  have hsim : Call.findMostSimilarNode 2 ∈ t.out := eq_of_comparedTo hcompared ▸ hcall
  exact (h t ht (keepsGoing_of_mem rationalMath (config 1 0) noToken ht hsim (by decide) (by decide))).2
    hzero

end Persistence

section LastNode

def Reconnects (t : ControlStep K) : Prop :=
  ∃ w entry, t.event.2 = .doInitializePrivate w ∧ hasPathToBs cfg w = some entry ∧ entry.distance ≠ 0

def Compares (t : ControlStep K) : Prop :=
  ∃ w, t.event.2 = .doInitializePrivate w ∧ NoPath cfg w ∧ t.pre.persist ≠ 0 ∧
    (setEdsList t.event.1 t.pre).size ≠ 0

def FindsNone (t : ControlStep K) : Prop :=
  .findMostSimilarNode 0 ∈ t.out

def Issues (t : ControlStep K) : Prop := .generateToken ∈ t.out

/-- Within a disconnected period the flag is what the last comparison made it. -/
def FlagTold (past : List (ControlStep K)) (u : Uav K) : Prop :=
  Since (Reconnects cfg) (Compares cfg) past → u.lastNode = true → Since (Reconnects cfg) FindsNone past

theorem flagTold_step {past : List (ControlStep K)} {u u' : Uav K} {e : Time × Event K}
    {calls : List (Call K)} (ih : FlagTold cfg past u) (hstep : step c cfg u e = some (u', calls)) :
    FlagTold cfg (past ++ [⟨u, e, u', calls⟩]) u' := by
  intro hcomp hflag
  rw [since_concat_iff] at hcomp ⊢
  rcases step_cases hstep with ⟨w, hw, heffect⟩ | ⟨hno, hkeep, _⟩
  · cases heffect with
    | connected entry path near _ _ =>
        have hreset : Reconnects cfg ⟨u, e, u', calls⟩ := ⟨w, entry, hw, path, near⟩
        rcases hcomp with ⟨w', hw', ⟨entry', path', far⟩, _⟩ | ⟨hn, _⟩
        · obtain rfl : w = w' := by simpa [hw] using hw'
          obtain rfl : entry = entry' := by simpa [path] using path'
          exact absurd far near
        · exact absurd hreset hn
    | gaveUp entry path far spent hkeep _ _ =>
        rcases hcomp with ⟨_, _, _, hgoing, _⟩ | ⟨hn, hcomp⟩
        · exact absurd spent hgoing
        · exact .inr ⟨hn, ih hcomp (hkeep.symm.trans hflag)⟩
    | waited entry path far going alone hkeep _ _ =>
        rcases hcomp with ⟨_, _, _, _, hcovering⟩ | ⟨hn, hcomp⟩
        · exact absurd alone hcovering
        · exact .inr ⟨hn, ih hcomp (hkeep.symm.trans hflag)⟩
    | compared _ _ _ _ _ _ _ _ simNode _ hset _ decision =>
        have hzero : simNode = 0 := by simpa [hset] using hflag
        subst hzero
        left
        apply (mem_inner rfl).mp
        simp [decision]
  · rcases hcomp with ⟨w, hw, _⟩ | ⟨hn, hcomp⟩
    · exact absurd hw (hno w)
    · exact .inr ⟨hn, ih hcomp (hkeep.symm.trans hflag)⟩

theorem flagTold_run {past rest : List (ControlStep K)} {es : List (Time × Event K)}
    {t : ControlStep K} (h : run c cfg junk es = past ++ t :: rest) : FlagTold cfg past t.pre :=
  history_invariant (FlagTold cfg) (fun _ _ _ _ _ ih hstep => flagTold_step c cfg ih hstep)
    (fun hcomp => absurd hcomp (not_since_nil _ _)) h

/-- Every token of mode 1 is issued by a UAV that found no similar node since
the connection broke, exactly when each UAV that issues one has compared itself
with its neighbours at all since then. -/
theorem issued_by_last_node_iff (es : List (Time × Event K)) :
    (∀ past t rest, run c cfg junk es = past ++ t :: rest → Issues t →
      Since (Reconnects cfg) FindsNone past) ↔
    ∀ past t rest, run c cfg junk es = past ++ t :: rest → Issues t →
      Since (Reconnects cfg) (Compares cfg) past := by
  constructor
  · intro h past t rest hrun hissue
    refine (h past t rest hrun hissue).imp_of_mem fun t' ht' hnone => ?_
    have hmem : t' ∈ run c cfg junk es := hrun ▸ List.mem_append_left _ ht'
    rcases step_cases (step_of_mem hmem) with ⟨w, hw, heffect⟩ | ⟨_, _, _, hquiet⟩
    · obtain ⟨_, hgoing, hcovering, hpath⟩ := heffect.findMostSimilarNode hnone
      exact ⟨w, hw, hpath, hgoing, hcovering⟩
    · simp [FindsNone, hquiet] at hnone
  · intro h past t rest hrun hissue
    have hmem : t ∈ run c cfg junk es := by simp [hrun]
    apply flagTold_run c cfg junk hrun (h past t rest hrun hissue)
    rcases step_cases (step_of_mem hmem) with ⟨w, _, heffect⟩ | ⟨_, _, _, hquiet⟩
    · exact heffect.generateToken hissue
    · simp [Issues, hquiet] at hissue

def isIssue : Call ℚ → Bool
  | .generateToken => true
  | _ => false

theorem eq_of_isIssue {call : Call ℚ} (h : isIssue call) : call = .generateToken := by
  cases call <;> simp_all [isIssue]

def reconnection : List (Time × Event ℚ) :=
  [hear 5 200 0, control 1 toBs, control 2 [], control 3 [⟨100, 1⟩], control 4 []]

theorem stale_flag :
    ¬ ∀ past t rest, run rationalMath (config 1 1) noToken reconnection = past ++ t :: rest →
      Issues t → Since (Reconnects (config 1 1)) FindsNone past := by
  intro h
  let r := run rationalMath (config 1 1) noToken reconnection
  obtain ⟨t₃, h₃⟩ : ∃ t, r[3]? = some t := Option.isSome_iff_exists.mp (by decide +kernel)
  obtain ⟨t₄, h₄⟩ : ∃ t, r[4]? = some t := Option.isSome_iff_exists.mp (by decide +kernel)
  have hissue : (r[4]?.map fun t => t.out.any isIssue) = some true := by decide +kernel
  have hnone : (r[3]?.map fun t => t.out.any (comparedTo 0)) = some false := by decide +kernel
  have hpast : r.take 4 = r.take 3 ++ [t₃] := by rw [List.take_add_one, h₃]; rfl
  have hsplit : r = r.take 4 ++ t₄ :: r.drop 5 := by
    obtain ⟨hlt, rfl⟩ := List.getElem?_eq_some_iff.mp h₄
    rw [← List.drop_eq_getElem_cons hlt, List.take_append_drop]
  have hevent : some (control 3 [⟨100, 1⟩]) = some t₃.event := event_of_getElem? h₃
  rw [Option.some.injEq] at hevent
  have hreset : Reconnects (config 1 1) t₃ :=
    ⟨world [⟨100, 1⟩], ⟨100, 1⟩, congrArg Prod.snd hevent.symm, rfl, by decide⟩
  have hissues : Issues t₄ := by
    rw [h₄, Option.map_some, Option.some.injEq, List.any_eq_true] at hissue
    obtain ⟨call, hcall, his⟩ := hissue
    rwa [eq_of_isIssue his] at hcall
  -- the reconnection is the last step before the one that issues the token
  have hsince := h _ _ _ hsplit hissues
  rw [hpast, since_concat_iff] at hsince
  rcases hsince with hfound | ⟨hn, _⟩
  · rw [h₃, Option.map_some, Option.some.injEq, List.any_eq_false] at hnone
    exact hnone _ hfound rfl
  · exact hn hreset

end LastNode

end UavMonitoring.ControlRuns
