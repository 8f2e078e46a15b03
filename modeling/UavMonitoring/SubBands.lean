import UavMonitoring.Basics
import UavMonitoring.Spacing
import Mathlib.Data.List.Perm.Basic
import Mathlib.Algebra.Order.Floor.Ring

namespace UavMonitoring.SubBands

open Basics Spacing

/-- `Seconds (double)`, off by less than a nanosecond. -/
structure Clock (K : Type) [Field K] [LinearOrder K] where
  ofSeconds : K → Time
  ofSeconds_zero : ofSeconds 0 = 0
  lower : ∀ x, x * 1000000000 - 1 < ofSeconds x
  upper : ∀ x, (ofSeconds x : K) < x * 1000000000 + 1

@[ext] structure LogicalLoraChannel (K : Type) where
  frequency : K
  minDataRate : UInt8
  maxDataRate : UInt8
  enabledForUplink : Bool
deriving DecidableEq

structure SubBand (K : Type) [Zero K] [LT K] where
  firstFrequency : K
  lastFrequency : K
  dutyCycle : K
  dutyCycle_pos : 0 < dutyCycle
  maxTxPowerDbm : K
  nextTransmissionTime : Time
deriving DecidableEq

variable {K : Type} [Field K] [LinearOrder K]

structure LogicalLoraChannelHelper (K : Type) [Field K] [LinearOrder K] where
  subBandList : List (SubBand K)
  channelList : List (LogicalLoraChannel K)
  nextAggregatedTransmissionTime : Time
  aggregatedDutyCycle : K

def belongsToSubBand (frequency : K) (subBand : SubBand K) : Bool :=
  subBand.firstFrequency < frequency ∧ frequency < subBand.lastFrequency

def setNextTransmissionTime (nextTime : Time) (subBand : SubBand K) : SubBand K :=
  { subBand with nextTransmissionTime := nextTime }

namespace LogicalLoraChannelHelper

variable (h : LogicalLoraChannelHelper K)

def subBandIndex (frequency : K) : Option Nat := h.subBandList.findIdx? (belongsToSubBand frequency)

def getSubBandFromFrequency (frequency : K) : Option (SubBand K) :=
  h.subBandList.find? (belongsToSubBand frequency)

/-- `none` if the index is out of range. -/
def setChannel (chIndex : UInt8) (channel : LogicalLoraChannel K) : Option (LogicalLoraChannelHelper K) :=
  if chIndex.toNat < h.channelList.length then
    some { h with channelList := h.channelList.set chIndex.toNat channel }
  else none

variable (clock : Clock K) (now : Time)

def getAggregatedWaitingTime : Time :=
  clock.ofSeconds (max (getSeconds (h.nextAggregatedTransmissionTime - now)) 0)

/-- `none` on a frequency outside all sub-bands, where the program follows a null pointer. -/
def getWaitingTime (frequency : K) : Option Time :=
  (h.getSubBandFromFrequency frequency).map fun subBand =>
    clock.ofSeconds (max (getSeconds (subBand.nextTransmissionTime - now)) 0)

def timeOff (duration : Time) (dutyCycle : K) : Time :=
  clock.ofSeconds (getSeconds duration / dutyCycle - getSeconds duration)

def addEvent (duration : Time) (frequency : K) : Option (LogicalLoraChannelHelper K) :=
  (h.subBandIndex frequency).map fun i => { h with
    subBandList := h.subBandList.modify i fun subBand =>
      setNextTransmissionTime (now + timeOff clock duration subBand.dutyCycle) subBand
    nextAggregatedTransmissionTime := now + timeOff clock duration h.aggregatedDutyCycle }

def getTxPowerForChannel (frequency : K) : Option K :=
  (h.getSubBandFromFrequency frequency).map SubBand.maxTxPowerDbm

def firstFree : List (LogicalLoraChannel K) → Option (Option (LogicalLoraChannel K))
  | [] => some none
  | channel :: channels =>
      match h.getWaitingTime clock now channel.frequency with
      | none => none
      | some waitingTime => if waitingTime = 0 then some (some channel) else firstFree channels

end LogicalLoraChannelHelper

/-- Each place changes with one drawn at random. -/
def shuffle {α : Type} (random : Nat → UInt16) (vector : List α) : Option (List α) :=
  (List.range vector.length).foldlM (fun v i =>
    if (random i).toNat < v.length then some (v.swap (random i).toNat i) else none) vector

def getChannelForTx (clock : Clock K) (now : Time) (random : Nat → UInt16) (h : LogicalLoraChannelHelper K) :
    Option (Option (LogicalLoraChannel K)) :=
  (shuffle random h.channelList).bind (h.firstFree clock now)

section Waiting

variable [IsStrictOrderedRing K] (clock : Clock K)

theorem ofSeconds_max_eq_zero_iff (t : Time) : clock.ofSeconds (max (getSeconds t) 0) = 0 ↔ t ≤ 0 := by
  have hbillion : (0 : K) < 1000000000 := by norm_num
  constructor
  · intro h
    have hlow := clock.lower (max (getSeconds t) 0)
    rw [h, Int.cast_zero, sub_neg] at hlow
    have hle : (t : K) ≤ max (getSeconds t) 0 * 1000000000 := by
      rw [← div_le_iff₀ hbillion]
      exact le_max_left _ _
    have hone : (t : K) < ((1 : Int) : K) := by
      rw [Int.cast_one]
      exact hle.trans_lt hlow
    exact Int.lt_add_one_iff.mp (Int.cast_lt.mp hone)
  · intro h
    have hneg : getSeconds t ≤ (0 : K) := div_nonpos_of_nonpos_of_nonneg (Int.cast_nonpos.mpr h) hbillion.le
    rw [max_eq_right hneg, clock.ofSeconds_zero]

theorem lt_timeOff (duration : Time) (dutyCycle : K) :
    (duration : K) * (1 / dutyCycle - 1) - 1 < LogicalLoraChannelHelper.timeOff clock duration dutyCycle := by
  have h := clock.lower (getSeconds duration / dutyCycle - getSeconds duration)
  have heq : (getSeconds duration / dutyCycle - getSeconds duration) * 1000000000 =
      (duration : K) * (1 / dutyCycle - 1) := by
    rw [getSeconds]
    field_simp
  rwa [heq] at h

theorem sum_le_timeOff (durations : List Time) (dutyCycle : K) :
    (durations.sum : K) * (1 / dutyCycle - 1) - durations.length ≤
      ((durations.map (LogicalLoraChannelHelper.timeOff clock · dutyCycle)).sum : Time) := by
  induction durations with
  | nil => simp
  | cons duration durations ih =>
      have hone := (lt_timeOff clock duration dutyCycle).le
      simp only [List.sum_cons, List.map_cons, List.length_cons]
      push_cast at ih ⊢
      linarith

end Waiting

namespace LogicalLoraChannelHelper

variable {h h' : LogicalLoraChannelHelper K} {clock : Clock K} {now duration : Time} {frequency : K}

def bands (h : LogicalLoraChannelHelper K) : List (SubBand K) := h.subBandList.map (setNextTransmissionTime 0)

def Free (h : LogicalLoraChannelHelper K) (now : Time) (frequency : K) : Prop :=
  ∃ subBand, h.getSubBandFromFrequency frequency = some subBand ∧ subBand.nextTransmissionTime ≤ now

theorem getSubBand_eq (h : LogicalLoraChannelHelper K) (frequency : K) :
    h.getSubBandFromFrequency frequency = (h.subBandIndex frequency).bind fun i => h.subBandList[i]? :=
  List.find?_eq_bind_findIdx?_getElem?

theorem subBandIndex_eq (h : LogicalLoraChannelHelper K) (frequency : K) :
    h.subBandIndex frequency = h.bands.findIdx? (belongsToSubBand frequency) := by
  rw [bands, List.findIdx?_map]
  rfl

theorem subBandIndex_congr (hbands : h'.bands = h.bands) (frequency : K) :
    h'.subBandIndex frequency = h.subBandIndex frequency := by
  rw [subBandIndex_eq, subBandIndex_eq, hbands]

theorem addEvent_eq (hadd : h.addEvent clock now duration frequency = some h') :
    ∃ i, h.subBandIndex frequency = some i ∧ h'.channelList = h.channelList ∧ h'.bands = h.bands ∧
      h'.aggregatedDutyCycle = h.aggregatedDutyCycle ∧
      h'.nextAggregatedTransmissionTime = now + timeOff clock duration h.aggregatedDutyCycle ∧
      ∀ j, h'.subBandList[j]? = (h.subBandList[j]?).map fun subBand =>
        if i = j then setNextTransmissionTime (now + timeOff clock duration subBand.dutyCycle) subBand
        else subBand := by
  obtain ⟨i, hi, rfl⟩ := Option.map_eq_some_iff.mp hadd
  refine ⟨i, hi, rfl, ?_, rfl, rfl, fun j => ?_⟩
  · apply List.ext_getElem?
    intro j
    simp only [bands, List.getElem?_map, List.getElem?_modify, Option.map_eq_map, Option.map_map]
    refine congrArg (fun f => Option.map f _) (funext fun subBand => ?_)
    dsimp only [Function.comp]
    split <;> rfl
  · rw [List.getElem?_modify]
    rfl

variable [IsStrictOrderedRing K]

theorem getWaitingTime_eq_zero_iff :
    h.getWaitingTime clock now frequency = some 0 ↔ h.Free now frequency := by
  rw [getWaitingTime, Option.map_eq_some_iff, Free]
  refine exists_congr fun subBand => and_congr_right' ?_
  rw [ofSeconds_max_eq_zero_iff]
  exact sub_nonpos

theorem waitingTime_nonneg {waitingTime : Time}
    (hwait : h.getWaitingTime clock now frequency = some waitingTime) :
    0 ≤ waitingTime := by
  obtain ⟨subBand, _, rfl⟩ := Option.map_eq_some_iff.mp hwait
  have hlow := clock.lower (max (getSeconds (subBand.nextTransmissionTime - now)) 0)
  have hpos : (0 : K) ≤ max (getSeconds (subBand.nextTransmissionTime - now)) 0 * 1000000000 :=
    mul_nonneg (le_max_right _ _) (by norm_num)
  rw [← Int.sub_one_lt_iff, ← Int.cast_lt (R := K)]
  push_cast
  linarith

theorem firstFree_eq_some {channels : List (LogicalLoraChannel K)} {r : Option (LogicalLoraChannel K)}
    (hr : h.firstFree clock now channels = some r) :
    (∀ channel ∈ r, channel ∈ channels ∧ h.Free now channel.frequency) ∧
      (r = none → ∀ channel ∈ channels, ¬ h.Free now channel.frequency) := by
  induction channels with
  | nil =>
      cases hr
      exact ⟨by simp, by simp⟩
  | cons channel channels ih =>
      rw [firstFree] at hr
      split at hr
      · cases hr
      · next waitingTime hwait =>
          split at hr
          · next hzero =>
              cases hr
              refine ⟨fun c hc => ?_, fun hnone => by cases hnone⟩
              cases hc
              exact ⟨List.mem_cons_self, getWaitingTime_eq_zero_iff.mp (hzero ▸ hwait)⟩
          · next hzero =>
              obtain ⟨hsome, hnone⟩ := ih hr
              refine ⟨fun c hc => ?_, fun h => List.forall_mem_cons.mpr ⟨fun hfree => ?_, hnone h⟩⟩
              · exact ⟨List.mem_cons_of_mem _ (hsome c hc).1, (hsome c hc).2⟩
              · rw [getWaitingTime_eq_zero_iff.mpr hfree, Option.some.injEq] at hwait
                exact hzero hwait.symm

omit [IsStrictOrderedRing K] in
theorem firstFree_isSome {channels : List (LogicalLoraChannel K)}
    (hknown : ∀ channel ∈ channels, (h.getSubBandFromFrequency channel.frequency).isSome) :
    ∃ r, h.firstFree clock now channels = some r := by
  induction channels with
  | nil => exact ⟨none, rfl⟩
  | cons channel channels ih =>
      rw [List.forall_mem_cons] at hknown
      obtain ⟨subBand, hsub⟩ := Option.isSome_iff_exists.mp hknown.1
      obtain ⟨r, hr⟩ := ih hknown.2
      rw [firstFree, getWaitingTime, hsub]
      dsimp only [Option.map_some]
      split
      · exact ⟨_, rfl⟩
      · exact ⟨r, hr⟩

end LogicalLoraChannelHelper

section Airtime

open LogicalLoraChannelHelper

variable {h₀ h h' : LogicalLoraChannelHelper K} {clock : Clock K} {sent : List (K × Use Time)}

def usesIn (h : LogicalLoraChannelHelper K) (i : Nat) (sent : List (K × Use Time)) : List (Use Time) :=
  (sent.filter fun s => h.subBandIndex s.1 = some i).map Prod.snd

theorem usesIn_concat (h : LogicalLoraChannelHelper K) {i j : Nat} {frequency : K} (use : Use Time)
    (hj : h.subBandIndex frequency = some j) :
    usesIn h i (sent ++ [(frequency, use)]) = usesIn h i sent ++ if j = i then [use] else [] := by
  rw [usesIn, usesIn, List.filter_append, List.map_append]
  by_cases hji : j = i <;> simp [hj, hji]

structure Paced (clock : Clock K) (h₀ : LogicalLoraChannelHelper K) (sent : List (K × Use Time))
    (h : LogicalLoraChannelHelper K) : Prop where
  bands : h.bands = h₀.bands
  spaced : ∀ i subBand, h.subBandList[i]? = some subBand →
    Spaced (timeOff clock · subBand.dutyCycle) (usesIn h₀ i sent)
  next : ∀ i subBand, h.subBandList[i]? = some subBand → ∀ last ∈ (usesIn h₀ i sent).getLast?,
    last.start + timeOff clock last.length subBand.dutyCycle ≤ subBand.nextTransmissionTime

theorem paced_nil (clock : Clock K) (h : LogicalLoraChannelHelper K) : Paced clock h [] h :=
  ⟨rfl, fun _ _ _ => .nil, fun _ _ _ last hlast => by cases hlast⟩

theorem Paced.congr (hp : Paced clock h₀ sent h) (hlist : h'.subBandList = h.subBandList) :
    Paced clock h₀ sent h' := by
  refine ⟨?_, hlist ▸ hp.spaced, hlist ▸ hp.next⟩
  rw [LogicalLoraChannelHelper.bands, hlist]
  exact hp.bands

theorem paced_addEvent (hp : Paced clock h₀ sent h) {now duration : Time} {frequency : K}
    (hfree : h.Free now frequency) (hadd : h.addEvent clock now duration frequency = some h') :
    Paced clock h₀ (sent ++ [(frequency, ⟨now, duration⟩)]) h' := by
  obtain ⟨j, hj, _, hbands, _, _, hafter⟩ := addEvent_eq hadd
  obtain ⟨free, hsub, hnext⟩ := hfree
  rw [getSubBand_eq, hj, Option.bind_some] at hsub
  rw [subBandIndex_congr hp.bands] at hj
  refine ⟨hbands.trans hp.bands, fun i subBand hi => ?_, fun i subBand hi => ?_⟩
  all_goals
    rw [hafter] at hi
    obtain ⟨before, hbefore, rfl⟩ := Option.map_eq_some_iff.mp hi
    rw [usesIn_concat h₀ _ hj]
    by_cases hji : j = i
  · subst hji
    obtain rfl := Option.some.inj (hsub.symm.trans hbefore)
    rw [if_pos rfl, if_pos rfl, spaced_concat_iff]
    exact ⟨hp.spaced j free hbefore, fun last hlast => (hp.next j free hbefore last hlast).trans hnext⟩
  · rw [if_neg hji, if_neg hji, List.append_nil]
    exact hp.spaced i before hbefore
  · subst hji
    rw [if_pos rfl, if_pos rfl, List.getLast?_concat]
    rintro last ⟨⟩
    exact le_refl _
  · rw [if_neg hji, if_neg hji, List.append_nil]
    exact hp.next i before hbefore

theorem Paced.spaced_in (hp : Paced clock h₀ sent h) {i : Nat} {subBand : SubBand K}
    (hband : h₀.subBandList[i]? = some subBand) :
    Spaced (timeOff clock · subBand.dutyCycle) (usesIn h₀ i sent) := by
  have hbands := congrArg (·[i]?) hp.bands
  rw [LogicalLoraChannelHelper.bands, LogicalLoraChannelHelper.bands, List.getElem?_map, List.getElem?_map,
    hband] at hbands
  obtain ⟨later, hlater, hsame⟩ := Option.map_eq_some_iff.mp hbands
  have hduty := congrArg SubBand.dutyCycle hsame
  dsimp only [setNextTransmissionTime] at hduty
  exact hduty ▸ hp.spaced i later hlater

/-- From a use of the air to a later one it is taken for at most `dutyCycle / (1 - dutyCycle)`
of the time, up to a nanosecond a use. -/
theorem airtime_le [IsStrictOrderedRing K] {dutyCycle : K} {before uses after : List (Use Time)}
    {first last : Use Time}
    (h : Spaced (timeOff clock · dutyCycle) (before ++ (first :: uses ++ [last]) ++ after)) :
    ((((first :: uses).map Use.length).sum : Time) : K) * (1 / dutyCycle - 1) ≤
      (last.start - first.start : Time) + (uses.length + 1) := by
  have hstretch : Spaced (timeOff clock · dutyCycle) (first :: uses ++ [last]) :=
    List.IsChain.infix h ⟨before, after, rfl⟩
  have hroom : ((first :: uses).map fun u => timeOff clock u.length dutyCycle).sum ≤ last.start - first.start :=
    sum_gap_le hstretch
  have hsum := sum_le_timeOff clock ((first :: uses).map Use.length) dutyCycle
  rw [List.map_map, List.length_map, List.length_cons] at hsum
  have hcast : ((((first :: uses).map fun u => timeOff clock u.length dutyCycle).sum : Time) : K) ≤
      (last.start - first.start : Time) := Int.cast_le.mpr hroom
  have hle := hsum.trans hcast
  push_cast at hle ⊢
  linarith

end Airtime

section Shuffle

variable {α : Type}

theorem swaps_perm (random : Nat → UInt16) (is : List Nat) {v w : List α}
    (h : is.foldlM (fun v i =>
      if (random i).toNat < v.length then some (v.swap (random i).toNat i) else none) v = some w) :
    w.Perm v := by
  induction is generalizing v with
  | nil =>
      cases h
      exact .refl _
  | cons i is ih =>
      rw [List.foldlM_cons] at h
      obtain ⟨v', hv', h⟩ := Option.bind_eq_some_iff.mp h
      split at hv'
      · cases hv'
        exact (ih h).trans (List.swap_perm _ _ _)
      · cases hv'

theorem shuffle_perm {random : Nat → UInt16} {v w : List α} (h : shuffle random v = some w) : w.Perm v :=
  swaps_perm random _ h

theorem shuffle_isSome {random : Nat → UInt16} {v : List α}
    (hrandom : ∀ i < v.length, (random i).toNat < v.length) : ∃ w, shuffle random v = some w := by
  suffices hgen : ∀ (is : List Nat) (w : List α), w.length = v.length → (∀ i ∈ is, i < v.length) →
      ∃ w', is.foldlM (fun v i =>
        if (random i).toNat < v.length then some (v.swap (random i).toNat i) else none) w = some w' from
    hgen _ v rfl fun i hi => List.mem_range.mp hi
  intro is w hw his
  induction is generalizing w with
  | nil => exact ⟨w, rfl⟩
  | cons i is ih =>
      rw [List.forall_mem_cons] at his
      have hi := hrandom i his.1
      obtain ⟨w', hw'⟩ := ih (w.swap (random i).toNat i) ((List.swap_perm _ _ _).length_eq.trans hw) his.2
      refine ⟨w', ?_⟩
      rw [List.foldlM_cons, if_pos (hw ▸ hi)]
      exact hw'

variable [IsStrictOrderedRing K] {clock : Clock K} {now : Time} {random : Nat → UInt16}
  {h : LogicalLoraChannelHelper K}

theorem getChannelForTx_eq_some {r : Option (LogicalLoraChannel K)}
    (hr : getChannelForTx clock now random h = some r) :
    (r.isSome ↔ ∃ channel ∈ h.channelList, h.Free now channel.frequency) ∧
      ∀ channel ∈ r, channel ∈ h.channelList ∧ h.Free now channel.frequency := by
  obtain ⟨channels, hshuffle, hfirst⟩ := Option.bind_eq_some_iff.mp hr
  have hmem (c : LogicalLoraChannel K) : c ∈ channels ↔ c ∈ h.channelList := (shuffle_perm hshuffle).mem_iff
  obtain ⟨hsome, hnone⟩ := LogicalLoraChannelHelper.firstFree_eq_some hfirst
  refine ⟨⟨fun h => ?_, fun h => ?_⟩, fun c hc => ⟨(hmem c).mp (hsome c hc).1, (hsome c hc).2⟩⟩
  · obtain ⟨c, hc⟩ := Option.isSome_iff_exists.mp h
    exact ⟨c, (hmem c).mp (hsome c hc).1, (hsome c hc).2⟩
  · obtain ⟨c, hc, hfree⟩ := h
    by_contra hno
    exact hnone (Option.not_isSome_iff_eq_none.mp hno) c ((hmem c).mpr hc) hfree

omit [IsStrictOrderedRing K] in
theorem getChannelForTx_isSome
    (hrandom : ∀ i < h.channelList.length, (random i).toNat < h.channelList.length)
    (hknown : ∀ channel ∈ h.channelList, (h.getSubBandFromFrequency channel.frequency).isSome) :
    ∃ r, getChannelForTx clock now random h = some r := by
  obtain ⟨channels, hshuffle⟩ := shuffle_isSome hrandom
  rw [getChannelForTx, hshuffle]
  exact LogicalLoraChannelHelper.firstFree_isSome fun c hc =>
    hknown c ((shuffle_perm hshuffle).mem_iff.mp hc)

end Shuffle

end UavMonitoring.SubBands
