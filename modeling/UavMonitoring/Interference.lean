import UavMonitoring.Basics
import Mathlib.Algebra.Order.BigOperators.Group.List
import Mathlib.Data.Rat.Floor

namespace UavMonitoring.Interference

open Basics

structure Decibels (K : Type) [Field K] [LinearOrder K] where
  pow : K → K
  log : K → K
  pow_pos : ∀ x, 0 < pow x
  log_mono : ∀ x y, 0 < x → x ≤ y → log x ≤ log y

/-- A signal at an antenna. The number stands for the address that tells it from others. -/
structure Event (K : Type) where
  id : Nat
  startTime : Time
  endTime : Time
  sf : UInt8
  rxPowerdBm : K
  frequencyMHz : K
deriving DecidableEq

variable {K : Type} [Field K] [LinearOrder K]

def Event.new (id : Nat) (now duration : Time) (rxPowerdBm : K) (spreadingFactor : UInt8) (frequencyMHz : K) :
    Event K :=
  ⟨id, now, now + duration, spreadingFactor, rxPowerdBm, frequencyMHz⟩

def Event.getDuration (event : Event K) : Time := event.endTime - event.startTime

def oldEventThreshold : Time := seconds 2

def Old (now : Time) (event : Event K) : Prop := event.endTime + oldEventThreshold < now

instance (now : Time) (event : Event K) : Decidable (Old now event) :=
  inferInstanceAs (Decidable (_ < _))

/-- The event after one that is erased is not looked at. `none` if the last event
is erased, where the program goes on past the end of the list. -/
def cleanOldEvents (now : Time) : List (Event K) → Option (List (Event K))
  | [] => some []
  | [event] => if Old now event then none else some [event]
  | event :: next :: events =>
      if Old now event then (cleanOldEvents now events).map (next :: ·)
      else (cleanOldEvents now (next :: events)).map (event :: ·)

structure LoraInterferenceHelper (K : Type) where
  events : List (Event K)
  next : Nat

def add (now duration : Time) (rxPower : K) (spreadingFactor : UInt8) (frequencyMHz : K)
    (h : LoraInterferenceHelper K) : Option (Event K × LoraInterferenceHelper K) :=
  let event := Event.new h.next now duration rxPower spreadingFactor frequencyMHz
  let events := h.events ++ [event]
  let cleaned := if 100 < events.length then cleanOldEvents now events else some events
  cleaned.map fun events => (event, ⟨events, h.next + 1⟩)

def getOverlapTime (event1 event2 : Event K) : Time :=
  if event1.startTime < event2.startTime then
    if event1.endTime < event2.startTime then 0
    else if event2.endTime ≤ event1.endTime then event2.endTime - event2.startTime
    else event1.endTime - event2.startTime
  else
    if event2.endTime < event1.startTime then 0
    else if event1.endTime ≤ event2.endTime then event1.endTime - event1.startTime
    else event2.endTime - event1.startTime

/-- The rows are those of the packet, the columns those of the interferers. -/
def collisionSnir : List (List Int) :=
  [[6, -16, -18, -19, -19, -20], [-24, 6, -20, -22, -22, -22], [-27, -27, 6, -23, -25, -25],
    [-30, -30, -30, 6, -26, -28], [-33, -33, -33, -33, 6, -29], [-36, -36, -36, -36, -36, 6]]

def indexOfSf (sf : UInt8) : Option Nat :=
  if 7 ≤ sf.toNat ∧ sf.toNat ≤ 12 then some (sf.toNat - 7) else none

variable (db : Decibels K)

def powerW (dBm : K) : K := db.pow (dBm / 10) / 1000

def interferenceEnergy (event interferer : Event K) : K :=
  getSeconds (getOverlapTime event interferer) * powerW db interferer.rxPowerdBm

def Interferes (event interferer : Event K) : Prop :=
  interferer.frequencyMHz = event.frequencyMHz ∧ interferer.id ≠ event.id

instance (event interferer : Event K) : Decidable (Interferes event interferer) :=
  inferInstanceAs (Decidable (_ ∧ _))

def addInterferer (event : Event K) (energies : List K) (interferer : Event K) : Option (List K) :=
  if Interferes event interferer then
    (indexOfSf interferer.sf).map fun i => energies.modify i (· + interferenceEnergy db event interferer)
  else some energies

def cumulativeInterferenceEnergy (event : Event K) (events : List (Event K)) : Option (List K) :=
  events.foldlM (addInterferer db event) (List.replicate 6 0)

/-- Doubles may be divided by zero: without interference the ratio is infinite,
and without a signal it is no number or its logarithm is below all others. -/
def survives (signalEnergy energy : K) (snirIsolation : Int) : Bool :=
  signalEnergy ≠ 0 ∧ (energy = 0 ∨ (snirIsolation : K) ≤ 10 * db.log (signalEnergy / energy))

def isDestroyedByInterference (event : Event K) (events : List (Event K)) : Option UInt8 := do
  let energies ← cumulativeInterferenceEnergy db event events
  let row ← (indexOfSf event.sf).bind fun i => collisionSnir[i]?
  let signalEnergy := getSeconds event.getDuration * powerW db event.rxPowerdBm
  let destroyer := (List.range 6).find? fun i => !survives db signalEnergy (energies.getD i 0) (row.getD i 0)
  return (destroyer.map fun i => UInt8.ofNat (i + 7)).getD 0

section Cleaning

variable {now : Time}

omit [LinearOrder K] [Field K] in
theorem cleanOldEvents_isSome {events : List (Event K)} (hlast : ∀ event ∈ events.getLast?, ¬ Old now event) :
    ∃ cleaned, cleanOldEvents now events = some cleaned := by
  induction events using cleanOldEvents.induct now with
  | case1 => exact ⟨[], rfl⟩
  | case2 event hold => exact absurd hold (hlast event rfl)
  | case3 event hnew => exact ⟨[event], if_neg hnew⟩
  | case4 event next events hold ih =>
      rw [cleanOldEvents, if_pos hold]
      cases events with
      | nil => exact ⟨[next], rfl⟩
      | cons e events =>
          obtain ⟨cleaned, hcleaned⟩ := ih hlast
          exact ⟨next :: cleaned, by rw [hcleaned]; rfl⟩
  | case5 event next events hnew ih =>
      obtain ⟨cleaned, hcleaned⟩ := ih hlast
      exact ⟨event :: cleaned, by rw [cleanOldEvents, if_neg hnew, hcleaned]; rfl⟩

omit [LinearOrder K] [Field K] in
theorem cleanOldEvents_spec {events cleaned : List (Event K)} (h : cleanOldEvents now events = some cleaned) :
    cleaned.Sublist events ∧
      cleaned.filter (fun event => ¬ Old now event) = events.filter (fun event => ¬ Old now event) := by
  induction events using cleanOldEvents.induct now generalizing cleaned with
  | case1 =>
      cases h
      exact ⟨.refl _, rfl⟩
  | case2 event hold =>
      rw [cleanOldEvents, if_pos hold] at h
      cases h
  | case3 event hnew =>
      rw [cleanOldEvents, if_neg hnew] at h
      cases h
      exact ⟨.refl _, rfl⟩
  | case4 event next events hold ih =>
      rw [cleanOldEvents, if_pos hold] at h
      obtain ⟨rest, hrest, rfl⟩ := Option.map_eq_some_iff.mp h
      obtain ⟨hsub, hkept⟩ := ih hrest
      refine ⟨(hsub.cons_cons next).cons event, ?_⟩
      have hgone : (event :: next :: events).filter (fun e => ¬ Old now e) =
          (next :: events).filter fun e => ¬ Old now e := List.filter_cons_of_neg (by simpa using hold)
      rw [hgone, List.filter_cons, List.filter_cons, hkept]
  | case5 event next events hnew ih =>
      rw [cleanOldEvents, if_neg hnew] at h
      obtain ⟨rest, hrest, rfl⟩ := Option.map_eq_some_iff.mp h
      obtain ⟨hsub, hkept⟩ := ih hrest
      exact ⟨hsub.cons_cons event, by rw [List.filter_cons, List.filter_cons, hkept]⟩

omit [LinearOrder K] [Field K] in
theorem add_sublist {now duration : Time} {rxPower : K} {spreadingFactor : UInt8} {frequencyMHz : K}
    {h : LoraInterferenceHelper K} {r : Event K × LoraInterferenceHelper K}
    (hadd : add now duration rxPower spreadingFactor frequencyMHz h = some r) :
    r.2.events.Sublist (h.events ++ [.new h.next now duration rxPower spreadingFactor frequencyMHz]) := by
  obtain ⟨events, hevents, rfl⟩ := Option.map_eq_some_iff.mp hadd
  split at hevents
  · exact (cleanOldEvents_spec hevents).1
  · cases hevents
    exact .refl _

omit [LinearOrder K] [Field K] in
theorem add_spec {now duration : Time} {rxPower : K} {spreadingFactor : UInt8} {frequencyMHz : K}
    {h : LoraInterferenceHelper K} (hduration : 0 ≤ duration) :
    let event := Event.new h.next now duration rxPower spreadingFactor frequencyMHz
    ∃ events, add now duration rxPower spreadingFactor frequencyMHz h = some (event, ⟨events, h.next + 1⟩) ∧
      events.Sublist (h.events ++ [event]) ∧
      events.filter (fun event => ¬ Old now event) =
        (h.events ++ [event]).filter fun event => ¬ Old now event := by
  intro event
  rw [add]
  split
  · have hlast : ∀ e ∈ (h.events ++ [event]).getLast?, ¬ Old now e := by
      rw [List.getLast?_concat]
      rintro e ⟨⟩
      refine not_lt.mpr ((le_add_of_nonneg_right hduration).trans (le_add_of_nonneg_right ?_))
      decide
    obtain ⟨cleaned, hcleaned⟩ := cleanOldEvents_isSome hlast
    obtain ⟨hsub, hkept⟩ := cleanOldEvents_spec hcleaned
    exact ⟨cleaned, by rw [hcleaned]; rfl, hsub, hkept⟩
  · exact ⟨_, rfl, .refl _, rfl⟩

omit [LinearOrder K] [Field K] in
theorem Old.mono {later : Time} (hle : now ≤ later) {event : Event K} (h : Old now event) : Old later event :=
  lt_of_lt_of_le h hle

end Cleaning

section Overlap

variable {a b : Event K}

omit [Field K] [LinearOrder K] in
theorem getOverlapTime_eq (ha : a.startTime ≤ a.endTime) (hb : b.startTime ≤ b.endTime) :
    getOverlapTime a b = max 0 (min a.endTime b.endTime - max a.startTime b.startTime) := by
  rw [getOverlapTime]
  split
  · next hlt =>
      rw [max_eq_right hlt.le]
      split
      · next hbefore => exact (max_eq_left (sub_nonpos.mpr ((min_le_left _ _).trans hbefore.le))).symm
      · next hmeet =>
          split
          · next hin => rw [min_eq_right hin, max_eq_right (sub_nonneg.mpr hb)]
          · next hout => rw [min_eq_left (not_le.mp hout).le, max_eq_right (sub_nonneg.mpr (not_lt.mp hmeet))]
  · next hge =>
      rw [max_eq_left (not_lt.mp hge)]
      split
      · next hbefore => exact (max_eq_left (sub_nonpos.mpr ((min_le_right _ _).trans hbefore.le))).symm
      · next hmeet =>
          split
          · next hin => rw [min_eq_left hin, max_eq_right (sub_nonneg.mpr ha)]
          · next hout => rw [min_eq_right (not_le.mp hout).le, max_eq_right (sub_nonneg.mpr (not_lt.mp hmeet))]

end Overlap

section Energy

variable {db : Decibels K} {event : Event K}

def energyOf (db : Decibels K) (event : Event K) (events : List (Event K)) (i : Nat) : K :=
  ((events.filter fun e => Interferes event e ∧ indexOfSf e.sf = some i).map (interferenceEnergy db event)).sum

def Covered (event : Event K) (events : List (Event K)) : Prop :=
  ∀ e ∈ events, Interferes event e → (indexOfSf e.sf).isSome

theorem indexOfSf_lt {sf : UInt8} {i : Nat} (h : indexOfSf sf = some i) : i < 6 := by
  rw [indexOfSf] at h
  split at h
  · next hsf =>
      cases h
      omega
  · cases h

omit [LinearOrder K] in
theorem modify_map_range (f : Nat → K) (n i : Nat) (x : K) :
    ((List.range n).map f).modify i (· + x) = (List.range n).map fun j => if j = i then f j + x else f j := by
  apply List.ext_getElem
  · simp
  · intro j hj _
    simp only [List.getElem_modify, List.getElem_map, List.getElem_range]
    by_cases h : i = j
    · rw [if_pos h, if_pos h.symm]
    · rw [if_neg h, if_neg (Ne.symm h)]

theorem energyOf_concat (events : List (Event K)) (e : Event K) (i : Nat) :
    energyOf db event (events ++ [e]) i = energyOf db event events i +
      if Interferes event e ∧ indexOfSf e.sf = some i then interferenceEnergy db event e else 0 := by
  rw [energyOf, energyOf, List.filter_append, List.map_append, List.sum_append]
  by_cases h : Interferes event e ∧ indexOfSf e.sf = some i <;> simp [h]

theorem map_energyOf_concat {events : List (Event K)} {e : Event K} {i : Nat}
    (hi : Interferes event e → indexOfSf e.sf = some i) :
    (List.range 6).map (energyOf db event (events ++ [e])) = if Interferes event e
      then ((List.range 6).map (energyOf db event events)).modify i (· + interferenceEnergy db event e)
      else (List.range 6).map (energyOf db event events) := by
  split
  · next h =>
      rw [modify_map_range]
      refine List.map_congr_left fun j _ => ?_
      rw [energyOf_concat, hi h]
      by_cases hj : j = i
      · rw [if_pos hj, if_pos ⟨h, by rw [hj]⟩]
      · rw [if_neg hj, if_neg fun h => hj (Option.some.inj h.2).symm, add_zero]
  · next h =>
      refine List.map_congr_left fun j _ => ?_
      rw [energyOf_concat, if_neg fun h' => h h'.1, add_zero]

theorem cumulativeInterferenceEnergy_concat (events : List (Event K)) (e : Event K) :
    cumulativeInterferenceEnergy db event (events ++ [e]) =
      (cumulativeInterferenceEnergy db event events).bind fun energies =>
        addInterferer db event energies e := by
  rw [cumulativeInterferenceEnergy, List.foldlM_append]
  exact congrArg _ (funext fun _ => bind_pure _)

omit [Field K] [LinearOrder K] in
theorem covered_concat {events : List (Event K)} {e : Event K} :
    Covered event (events ++ [e]) ↔ Covered event events ∧ (Interferes event e → (indexOfSf e.sf).isSome) := by
  simp [Covered, or_imp, forall_and]

theorem cumulativeInterferenceEnergy_eq_some_iff {events : List (Event K)} {energies : List K} :
    cumulativeInterferenceEnergy db event events = some energies ↔
      Covered event events ∧ energies = (List.range 6).map (energyOf db event events) := by
  induction events using List.reverseRecOn generalizing energies with
  | nil =>
      refine ⟨fun h => ⟨nofun, ?_⟩, fun h => ?_⟩
      · cases h
        rfl
      · rw [h.2]
        rfl
  | append_singleton events e ih =>
      rw [cumulativeInterferenceEnergy_concat, covered_concat, Option.bind_eq_some_iff]
      constructor
      · rintro ⟨before, hbefore, hadd⟩
        obtain ⟨hc, rfl⟩ := ih.mp hbefore
        rw [addInterferer] at hadd
        split at hadd
        · next h =>
            obtain ⟨i, hi, rfl⟩ := Option.map_eq_some_iff.mp hadd
            refine ⟨⟨hc, fun _ => Option.isSome_of_eq_some hi⟩, ?_⟩
            rw [map_energyOf_concat fun _ => hi, if_pos h]
        · next h =>
            cases hadd
            refine ⟨⟨hc, fun h' => absurd h' h⟩, ?_⟩
            rw [map_energyOf_concat (i := 0) fun h' => absurd h' h, if_neg h]
      · rintro ⟨⟨hc, he⟩, rfl⟩
        refine ⟨_, ih.mpr ⟨hc, rfl⟩, ?_⟩
        rw [addInterferer]
        split
        · next h =>
            obtain ⟨i, hi⟩ := Option.isSome_iff_exists.mp (he h)
            rw [map_energyOf_concat fun _ => hi, if_pos h, hi, Option.map_some]
        · next h => rw [map_energyOf_concat (i := 0) fun h' => absurd h' h, if_neg h]

end Energy

section Verdict

variable {db : Decibels K} {event : Event K}

def Unharmed (db : Decibels K) (event : Event K) (row : List Int) (energies : Nat → K) : Prop :=
  ∀ i < 6, survives db (getSeconds event.getDuration * powerW db event.rxPowerdBm) (energies i) (row.getD i 0)

theorem isDestroyedByInterference_congr {events events' : List (Event K)} {verdict : UInt8}
    (h : isDestroyedByInterference db event events = some verdict) (hcovered : Covered event events')
    (hsame : ∀ i < 6, energyOf db event events' i = energyOf db event events i) :
    isDestroyedByInterference db event events' = some verdict := by
  obtain ⟨energies, henergies, _⟩ := Option.bind_eq_some_iff.mp h
  have hmap : (List.range 6).map (energyOf db event events') = (List.range 6).map (energyOf db event events) :=
    List.map_congr_left fun i hi => hsame i (List.mem_range.mp hi)
  have hcum : cumulativeInterferenceEnergy db event events' = cumulativeInterferenceEnergy db event events := by
    rw [henergies, cumulativeInterferenceEnergy_eq_some_iff.mpr ⟨hcovered, rfl⟩, hmap,
      (cumulativeInterferenceEnergy_eq_some_iff.mp henergies).2]
  rw [← h, isDestroyedByInterference, isDestroyedByInterference, hcum]

theorem covered_of_some {events : List (Event K)} {verdict : UInt8}
    (h : isDestroyedByInterference db event events = some verdict) : Covered event events := by
  obtain ⟨energies, henergies, _⟩ := Option.bind_eq_some_iff.mp h
  exact (cumulativeInterferenceEnergy_eq_some_iff.mp henergies).1

theorem first_eq_zero_iff (p : Nat → Bool) :
    (((List.range 6).find? p).map fun i => UInt8.ofNat (i + 7)).getD 0 = 0 ↔ ∀ i < 6, ¬ p i := by
  cases hfind : (List.range 6).find? p with
  | none =>
      refine iff_of_true rfl fun i hi => ?_
      exact List.find?_eq_none.mp hfind i (List.mem_range.mpr hi)
  | some i =>
      have hi : i < 6 := List.mem_range.mp (List.mem_of_find?_eq_some hfind)
      have hne : ∀ i < 6, UInt8.ofNat (i + 7) ≠ 0 := by decide
      exact iff_of_false (hne i hi) fun h => h i hi (List.find?_some hfind)

theorem unharmed_iff {events : List (Event K)} :
    isDestroyedByInterference db event events = some 0 ↔ Covered event events ∧
      ∃ i row, indexOfSf event.sf = some i ∧ collisionSnir[i]? = some row ∧
        Unharmed db event row (energyOf db event events) := by
  have hverdict (row : List Int) : Unharmed db event row (energyOf db event events) ↔
      (((List.range 6).find? fun i => !survives db (getSeconds event.getDuration * powerW db event.rxPowerdBm)
        (((List.range 6).map (energyOf db event events)).getD i 0) (row.getD i 0)).map
          fun i => UInt8.ofNat (i + 7)).getD 0 = 0 := by
    rw [first_eq_zero_iff, Unharmed]
    refine forall₂_congr fun i hi => ?_
    have hget : ((List.range 6).map (energyOf db event events)).getD i 0 = energyOf db event events i := by
      rw [List.getD_eq_getElem?_getD, List.getElem?_map, List.getElem?_range hi]
      rfl
    rw [hget, Bool.not_eq_true, Bool.not_eq_false']
  constructor
  · intro h
    obtain ⟨energies, henergies, h⟩ := Option.bind_eq_some_iff.mp h
    obtain ⟨row, hrow, h⟩ := Option.bind_eq_some_iff.mp h
    obtain ⟨hcovered, rfl⟩ := cumulativeInterferenceEnergy_eq_some_iff.mp henergies
    obtain ⟨i, hi, hrow⟩ := Option.bind_eq_some_iff.mp hrow
    exact ⟨hcovered, i, row, hi, hrow, (hverdict row).mpr (Option.some.inj h)⟩
  · rintro ⟨hcovered, i, row, hi, hrow, hunharmed⟩
    rw [isDestroyedByInterference, cumulativeInterferenceEnergy_eq_some_iff.mpr ⟨hcovered, rfl⟩, hi]
    simp only [Option.bind_eq_bind, Option.bind_some, hrow]
    exact congrArg some ((hverdict row).mp hunharmed)

theorem energyOf_filter {events : List (Event K)} (p : Event K → Bool)
    (hsilent : ∀ e ∈ events, ¬ p e → interferenceEnergy db event e = 0) (i : Nat) :
    energyOf db event (events.filter p) i = energyOf db event events i := by
  induction events using List.reverseRecOn with
  | nil => rfl
  | append_singleton events e ih =>
      have hrest := ih fun e he => hsilent e (List.mem_append_left _ he)
      rw [List.filter_append, energyOf_concat, ← hrest]
      by_cases hp : p e
      · rw [List.filter_singleton, hp, cond_true, energyOf_concat]
      · have hzero := hsilent e (by simp) hp
        rw [List.filter_singleton, hzero]
        simp [hp]

theorem interferenceEnergy_eq_zero {e : Event K} (hevent : event.startTime ≤ event.endTime)
    (he : e.startTime ≤ e.endTime) (hbefore : e.endTime < event.startTime) :
    interferenceEnergy db event e = 0 := by
  have hover : min event.endTime e.endTime - max event.startTime e.startTime ≤ 0 :=
    sub_nonpos.mpr ((min_le_right _ _).trans (hbefore.le.trans (le_max_left _ _)))
  rw [interferenceEnergy, getOverlapTime_eq hevent he, max_eq_left hover, getSeconds, Int.cast_zero, zero_div,
    zero_mul]

/-- At the end of a packet of at most the threshold's length, old events do not matter any more. -/
theorem isDestroyedByInterference_of_kept {events kept : List (Event K)} {now : Time} {verdict : UInt8}
    (hnow : event.endTime = now) (hevent : event.startTime ≤ event.endTime)
    (hshort : event.getDuration ≤ oldEventThreshold) (hproper : ∀ e ∈ events, e.startTime ≤ e.endTime)
    (hsub : kept.Sublist events)
    (hkept : kept.filter (fun e => ¬ Old now e) = events.filter fun e => ¬ Old now e)
    (h : isDestroyedByInterference db event events = some verdict) :
    isDestroyedByInterference db event kept = some verdict := by
  have hsilent (e : Event K) (he : e ∈ events) (hold : ¬ (decide (¬ Old now e) = true)) :
      interferenceEnergy db event e = 0 := by
    have hold' : e.endTime + oldEventThreshold < now := by simpa [Old] using hold
    refine interferenceEnergy_eq_zero hevent (hproper e he) ?_
    rw [Event.getDuration, hnow] at hshort
    have hstart : now - oldEventThreshold ≤ event.startTime := sub_le_comm.mp hshort
    exact (lt_sub_iff_add_lt.mpr hold').trans_le hstart
  refine isDestroyedByInterference_congr h (fun e he => covered_of_some h e (hsub.subset he)) fun i _ => ?_
  rw [← energyOf_filter (fun e => ¬ Old now e) hsilent i,
    ← energyOf_filter (fun e => ¬ Old now e) (fun e he => hsilent e (hsub.subset he)) i, hkept]

variable [IsStrictOrderedRing K]

theorem survives_mono {signalEnergy energy energy' : K} {snirIsolation : Int} (hsignal : 0 ≤ signalEnergy)
    (henergy : 0 ≤ energy) (hle : energy ≤ energy') (h : survives db signalEnergy energy' snirIsolation) :
    survives db signalEnergy energy snirIsolation := by
  simp only [survives, ne_eq, decide_eq_true_eq] at h ⊢
  obtain ⟨hne, hsurvives⟩ := h
  refine ⟨hne, ?_⟩
  by_cases hzero : energy = 0
  · exact .inl hzero
  · have hpos : 0 < energy := lt_of_le_of_ne henergy (Ne.symm hzero)
    have hsnir := hsurvives.resolve_left (hpos.trans_le hle).ne'
    have hratio : signalEnergy / energy' ≤ signalEnergy / energy := div_le_div_of_nonneg_left hsignal hpos hle
    have hlog := db.log_mono _ _ (div_pos (lt_of_le_of_ne hsignal (Ne.symm hne)) (hpos.trans_le hle)) hratio
    exact .inr (hsnir.trans (mul_le_mul_of_nonneg_left hlog (by norm_num)))

theorem powerW_pos (db : Decibels K) (dBm : K) : 0 < powerW db dBm := div_pos (db.pow_pos _) (by norm_num)

theorem getSeconds_nonneg {t : Time} (h : 0 ≤ t) : (0 : K) ≤ getSeconds t :=
  div_nonneg (Int.cast_nonneg h) (by norm_num)

theorem interferenceEnergy_nonneg {e : Event K} (hevent : event.startTime ≤ event.endTime)
    (he : e.startTime ≤ e.endTime) : 0 ≤ interferenceEnergy db event e := by
  rw [interferenceEnergy, getOverlapTime_eq hevent he]
  exact mul_nonneg (getSeconds_nonneg (le_max_left _ _)) (powerW_pos db _).le

/-- More interference never saves a packet. -/
theorem unharmed_of_sublist {events events' : List (Event K)} (hsub : events.Sublist events')
    (hevent : event.startTime ≤ event.endTime) (hevents : ∀ e ∈ events', e.startTime ≤ e.endTime)
    (h : isDestroyedByInterference db event events' = some 0) :
    isDestroyedByInterference db event events = some 0 := by
  obtain ⟨hcovered, i, row, hi, hrow, hunharmed⟩ := unharmed_iff.mp h
  refine unharmed_iff.mpr ⟨fun e he => hcovered e (hsub.subset he), i, row, hi, hrow, fun k hk => ?_⟩
  have hsignal : 0 ≤ getSeconds event.getDuration * powerW db event.rxPowerdBm :=
    mul_nonneg (getSeconds_nonneg (sub_nonneg.mpr hevent)) (powerW_pos db _).le
  have hpos (e : Event K) (he : e ∈ events') : 0 ≤ interferenceEnergy db event e :=
    interferenceEnergy_nonneg hevent (hevents e he)
  refine survives_mono hsignal (List.sum_nonneg ?_) ?_ (hunharmed k hk)
  · simp only [List.mem_map, List.mem_filter, forall_exists_index, and_imp]
    rintro _ e he _ rfl
    exact hpos e (hsub.subset he)
  · refine List.Sublist.sum_le_sum ((hsub.filter _).map _) ?_
    simp only [List.mem_map, List.mem_filter, forall_exists_index, and_imp]
    rintro _ e he _ rfl
    exact hpos e he

def coarse : Decibels ℚ where
  pow x := 10 ^ ⌊x⌋
  log x := if x < 1 / 10 then -2 else if x < 1 then -1 else if x < 10 then 0 else 1
  pow_pos x := zpow_pos (by norm_num) _
  log_mono x y _ hle := by
    split_ifs <;> linarith

theorem unharmed_of_sublist_weaker :
    let event : Event ℚ := ⟨0, 0, 1000000000, 7, -100, 868.1⟩
    let weaker : Event ℚ := ⟨1, 0, 1000000000, 7, -110, 868.1⟩
    isDestroyedByInterference coarse event [event, weaker] = some 0 ∧
      isDestroyedByInterference coarse event [event] = some 0 := by
  have hboth : isDestroyedByInterference coarse (⟨0, 0, 1000000000, 7, -100, 868.1⟩ : Event ℚ)
      [⟨0, 0, 1000000000, 7, -100, 868.1⟩, ⟨1, 0, 1000000000, 7, -110, 868.1⟩] = some 0 := by decide +kernel
  refine ⟨hboth, unharmed_of_sublist ?_ ?_ ?_ hboth⟩
  · exact (List.nil_sublist _).cons_cons _
  · decide
  · decide

end Verdict

end UavMonitoring.Interference
