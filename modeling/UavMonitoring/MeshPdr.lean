import Mathlib.Algebra.Order.Field.Basic
import UavMonitoring.CounterLoop
import UavMonitoring.PacketRuns

namespace UavMonitoring.MeshPdr

open Std (ExtTreeMap)
open Basics CounterLoop PacketTrackers PacketRuns Tally

variable {K : Type} [Field K]

def countRecv (n : UInt16 × UInt16) (_ : Nat) (status : PacketStatus) : UInt16 × UInt16 :=
  if status.recv then (n.1 + 1, n.2) else (n.1, n.2 + 1)

/-- The pair is (`nBsRecv`, `nBsNotRecv`). -/
def bsCounts (s : Trackers) : UInt16 × UInt16 := s.packetRelayedTracker.foldl countRecv (0, 0)

def meshDivisor (s : Trackers) : Nat := (bsCounts s).1.toNat + (bsCounts s).2.toNat

def writeMeshPdr [DecidableEq K] (s : Trackers) : Option K :=
  divDouble ((bsCounts s).1.toNat : K) (meshDivisor s : K)

def Exact (K : Type) [Field K] [DecidableEq K] (s : Trackers) : Prop :=
  meshDivisor s ≠ 0 ∧ writeMeshPdr (K := K) s =
    some ((s.packetRelayedTracker.toList.countP fun x => x.2.recv : K) / (s.packetRelayedTracker.size : K))

section Relayed

variable {es : List (Time × Event)} {s : Trackers}

def arrived (es : List (Time × Event)) : Nat :=
  (relayedUids es).countP fun uid => decide (arrivals es uid ≠ [])

def lost (es : List (Time × Event)) : Nat :=
  (relayedUids es).countP fun uid => !decide (arrivals es uid ≠ [])

theorem countAtSender_relayed {count : EdStatus → EdStatus} {packet : Nat} {s' : Trackers}
    (h : countAtSender count packet s = some s') : s'.packetRelayedTracker = s.packetRelayedTracker := by
  obtain ⟨pStatus, _, h⟩ := Option.bind_eq_some_iff.mp h
  obtain ⟨status, _, h⟩ := Option.bind_eq_some_iff.mp h
  cases h
  rfl

theorem packetReceptionCallback_relayed {now : Time} {packet : Nat} {s' : Trackers}
    (h : packetReceptionCallback now packet s = some s') :
    s'.packetRelayedTracker = s.packetRelayedTracker := by
  obtain ⟨pStatus, _, h⟩ := Option.bind_eq_some_iff.mp h
  dsimp only at h
  generalize (if pStatus.tRecvGw = 0 then { pStatus with tRecvGw := now } else pStatus) = timed at h
  split at h
  · cases h
    rfl
  · obtain ⟨s₁, hs₁, h⟩ := Option.bind_eq_some_iff.mp h
    cases h
    have hsame := countAtSender_relayed hs₁
    exact hsame

theorem relaysTracked_step {e : Time × Event} {s' : Trackers}
    (h : RelaysTracked es s.packetRelayedTracker) (hstep : step s e = some s') :
    RelaysTracked (es ++ [e]) s'.packetRelayedTracker := by
  obtain ⟨now, e⟩ := e
  have hquiet (hsame : s'.packetRelayedTracker = s.packetRelayedTracker)
      (hr : ∀ uid, relayOf uid (now, e) = none) (ha : ∀ uid, arrivalOf uid (now, e) = none) :
      RelaysTracked (es ++ [(now, e)]) s'.packetRelayedTracker := hsame ▸ h.quiet _ hr ha
  cases e with
  | transmissionCallback packet systemId =>
      cases hstep
      exact hquiet rfl (fun _ => rfl) (fun _ => rfl)
  | packetReceptionCallback packet systemId =>
      exact hquiet (packetReceptionCallback_relayed hstep) (fun _ => rfl) (fun _ => rfl)
  | interferenceCallback packet systemId =>
      exact hquiet (countAtSender_relayed hstep) (fun _ => rfl) (fun _ => rfl)
  | noMoreReceiversCallback packet systemId =>
      exact hquiet (countAtSender_relayed hstep) (fun _ => rfl) (fun _ => rfl)
  | underSensitivityCallback packet systemId =>
      exact hquiet (countAtSender_relayed hstep) (fun _ => rfl) (fun _ => rfl)
  | receiveFromLora packet uid nodeId junk sent =>
      cases hstep
      exact h.relay now packet uid nodeId junk sent
  | receiveFromBs uid =>
      obtain ⟨status, hstatus, hstep⟩ := Option.bind_eq_some_iff.mp hstep
      cases hstep
      exact h.arrival now hstatus

theorem relaysTracked_run (hrun : run es = some s) : RelaysTracked es s.packetRelayedTracker := by
  induction es using List.reverseRecOn generalizing s with
  | nil =>
      cases hrun
      exact books_empty.relays
  | append_singleton es e ih =>
      obtain ⟨s₀, hrun, hstep⟩ := (run_concat es e s).mp hrun
      exact relaysTracked_step (ih hrun) hstep

end Relayed

section Counters

variable {es : List (Time × Event)} {s : Trackers}

theorem foldl_countRecv (xs : List (Nat × PacketStatus)) (r n : Nat) :
    xs.foldl (fun c x => countRecv c x.1 x.2) (UInt16.ofNat r, UInt16.ofNat n) =
      (UInt16.ofNat (r + xs.countP fun x => x.2.recv),
        UInt16.ofNat (n + xs.countP fun x => !x.2.recv)) := by
  have hnext (k : Nat) : UInt16.ofNat k + 1 = UInt16.ofNat (k + 1) := (UInt16.ofNat_add k 1).symm
  induction xs generalizing r n with
  | nil => rfl
  | cons x xs ih =>
      rw [List.foldl_cons, countRecv]
      by_cases hx : x.2.recv = true
      · rw [if_pos hx, hnext, ih, List.countP_cons, List.countP_cons, hx]
        simp only [Nat.add_comm 1, Nat.add_assoc, if_true, Bool.not_true, Bool.false_eq_true,
          if_false, Nat.add_zero]
      · rw [if_neg hx, hnext, ih, List.countP_cons, List.countP_cons, Bool.eq_false_iff.mpr hx]
        simp only [Nat.add_comm 1, Nat.add_assoc, if_true, Bool.not_false, Bool.false_eq_true,
          if_false, Nat.add_zero]

theorem flags_perm (h : RelaysTracked es s.packetRelayedTracker) :
    (s.packetRelayedTracker.toList.map fun x => x.2.recv).Perm
      ((relayedUids es).map fun uid => decide (arrivals es uid ≠ [])) := by
  apply map_toList_perm s.packetRelayedTracker (List.nodup_dedup _)
    (fun uid => (mem_relayedUids es uid).trans (h.known uid).symm)
  intro uid status hstatus
  rw [Bool.eq_iff_iff, decide_eq_true_iff]
  exact h.recv uid status hstatus

theorem countP_recv (h : RelaysTracked es s.packetRelayedTracker) :
    (s.packetRelayedTracker.toList.countP fun x => x.2.recv) = arrived es := by
  have hperm := (flags_perm h).countP_eq id
  rwa [List.countP_map, List.countP_map] at hperm

theorem countP_notRecv (h : RelaysTracked es s.packetRelayedTracker) :
    (s.packetRelayedTracker.toList.countP fun x => !x.2.recv) = lost es := by
  have hperm := (flags_perm h).countP_eq not
  rwa [List.countP_map, List.countP_map] at hperm

theorem size_eq (h : RelaysTracked es s.packetRelayedTracker) :
    s.packetRelayedTracker.size = arrived es + lost es := by
  have hsplit (xs : List (Nat × PacketStatus)) :
      xs.length = (xs.countP fun x => x.2.recv) + xs.countP fun x => !x.2.recv := by
    simpa using List.length_eq_countP_add_countP fun x : Nat × PacketStatus => x.2.recv
  rw [← ExtTreeMap.length_toList, hsplit, countP_recv h, countP_notRecv h]

theorem bsCounts_run (h : RelaysTracked es s.packetRelayedTracker) :
    bsCounts s = (UInt16.ofNat (arrived es), UInt16.ofNat (lost es)) := by
  have hcount := foldl_countRecv s.packetRelayedTracker.toList 0 0
  rw [countP_recv h, countP_notRecv h, Nat.zero_add, Nat.zero_add] at hcount
  rw [bsCounts, ExtTreeMap.foldl_eq_foldl_toList]
  exact hcount

end Counters

section Ratio

variable [LinearOrder K] [IsStrictOrderedRing K]

theorem div_add_eq_iff {r n a b : Nat} (hr : a + b ≠ 0) (hn : r + n ≠ 0) :
    (a : K) / ((a + b : Nat) : K) = (r : K) / ((r + n : Nat) : K) ↔ a * n = b * r := by
  rw [div_eq_div_iff (Nat.cast_ne_zero.mpr hr) (Nat.cast_ne_zero.mpr hn), ← Nat.cast_mul, ← Nat.cast_mul,
    Nat.cast_inj, Nat.mul_add, Nat.mul_add, Nat.mul_comm r a, Nat.mul_comm b r]
  exact Nat.add_left_cancel_iff

/-- The ratio is right as long as the remainders of the two counts that the
16-bit counters keep stand in the same proportion as the counts. -/
theorem writeMeshPdr_exact_iff {es : List (Time × Event)} {s : Trackers} (hrun : run es = some s) :
    Exact K s ↔ arrived es % 65536 + lost es % 65536 ≠ 0 ∧
      arrived es % 65536 * lost es = lost es % 65536 * arrived es := by
  have htracked := relaysTracked_run hrun
  have hdivisor : meshDivisor s = arrived es % 65536 + lost es % 65536 := by
    rw [meshDivisor, bsCounts_run htracked, UInt16.toNat_ofNat', UInt16.toNat_ofNat']
  rw [Exact, hdivisor]
  apply and_congr_right
  intro hne
  have htotal : arrived es + lost es ≠ 0 := by omega
  rw [writeMeshPdr, hdivisor, divDouble, if_neg (Nat.cast_ne_zero.mpr hne), Option.some_inj,
    countP_recv htracked, size_eq htracked, ← div_add_eq_iff (K := K) hne htotal,
    bsCounts_run htracked, UInt16.toNat_ofNat']

theorem writeMeshPdr_exact_twoCopies : ∃ s, run twoCopies = some s ∧
    (Exact ℚ s ↔ arrived twoCopies % 65536 + lost twoCopies % 65536 ≠ 0 ∧
      arrived twoCopies % 65536 * lost twoCopies = lost twoCopies % 65536 * arrived twoCopies) :=
  ⟨_, rfl, writeMeshPdr_exact_iff rfl⟩

end Ratio

section Silence

def unheard (n : Nat) : List (Time × Event) :=
  (List.range n).map fun uid => (0, .receiveFromLora uid uid 0 0 true)

theorem relayedUids_unheard (n : Nat) : relayedUids (unheard n) = List.range n := by
  have hmap : (unheard n).filterMap relayedUid = List.range n := by
    rw [unheard, List.filterMap_map]
    exact List.filterMap_some
  rw [relayedUids, hmap, List.dedup_eq_self.mpr List.nodup_range]

theorem arrivals_unheard (n uid : Nat) : arrivals (unheard n) uid = [] := by
  rw [arrivals, unheard, List.filterMap_map, List.filterMap_eq_nil_iff]
  exact fun _ _ => rfl

theorem run_unheard (n : Nat) : ∃ s, run (unheard n) = some s := by
  rw [run, unheard, List.foldlM_map]
  exact foldlM_returns (fun _ _ _ => ⟨_, rfl⟩) empty

theorem divisor_zero :
    ¬ ∀ (es : List (Time × Event)) (s : Trackers), run es = some s → s.packetRelayedTracker.size ≠ 0 →
      Exact ℚ s := by
  intro hall
  obtain ⟨s, hrun⟩ := run_unheard 65536
  have htracked := relaysTracked_run hrun
  have harrived : arrived (unheard 65536) = 0 := by simp [arrived, arrivals_unheard]
  have hlost : lost (unheard 65536) = 65536 := by
    simp [lost, arrivals_unheard, relayedUids_unheard]
  have hdivisor := (hall (unheard 65536) s hrun (by rw [size_eq htracked]; omega)).1
  rw [meshDivisor, bsCounts_run htracked, harrived, hlost] at hdivisor
  exact hdivisor rfl

end Silence

end UavMonitoring.MeshPdr
