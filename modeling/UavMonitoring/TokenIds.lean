import Mathlib.Data.Int.ModEq
import UavMonitoring.VirtualSprings

namespace UavMonitoring.TokenIds

open Basics Clusters CounterLoop FirstMatch Runs SeedsManager SpringForces VirtualSprings

variable {K : Type} [Field K] [LinearOrder K]

/-- The tests of one round of `AddToken` in its later version, where a stored
token with the same id gives way as well, wherever it lies. -/
def replaces (token stored : Token K) : Bool := stored.id == token.id || near token stored

def addToken (token : Token K) (tokens : List (Token K)) : Option (List (Token K)) :=
  match search 16 tokens (replaces token) with
  | none => none
  | some (some i) => some (tokens.set i token)
  | some none => some (tokens ++ [token])

theorem eq_put_of_addToken {token : Token K} {tokens stored : List (Token K)}
    (h : addToken token tokens = some stored) : stored = put replaces tokens token := by
  have heq : addToken token tokens =
      (search 16 tokens (replaces token)).map fun _ => put replaces tokens token := search_put ..
  rw [heq] at h
  obtain ⟨_, _, rfl⟩ := Option.map_eq_some_iff.mp h
  rfl

theorem mem_of_addToken {token s : Token K} {tokens tokens' : List (Token K)}
    (h : addToken token tokens = some tokens') (hs : s ∈ tokens) : s ∈ tokens' ∨ replaces token s := by
  obtain ⟨i, hi, rfl⟩ := List.getElem_of_mem hs
  rw [eq_put_of_addToken h]
  rcases getElem?_put replaces (List.getElem?_eq_getElem hi) token with hkeep | ⟨hfirst, _⟩
  · exact .inl (List.mem_of_getElem? hkeep)
  · obtain ⟨_, hrep, _⟩ := List.findIdx?_eq_some_iff_getElem.mp hfirst
    exact .inr hrep

/-- Whatever tokens of the two UAVs are stored, a token of the second one
leaves each of them in place unless it is its own or within the box. -/
def KeepsOthers (first second : List (Token K)) : Prop :=
  ∀ stored : List (Token K), (∀ s ∈ stored, s ∈ first ∨ s ∈ second) →
    ∀ token ∈ second, ∀ stored', addToken token stored = some stored' →
      ∀ s ∈ stored, s ∈ stored' ∨ s ∈ second ∨ near token s

structure Separate (first second : List (Token K)) : Prop where
  ids : ∀ s ∈ first, ∀ t ∈ second, s.id ≠ t.id
  keeps : KeepsOthers first second
  keeps' : KeepsOthers second first

theorem keepsOthers_of_ids {first second : List (Token K)}
    (h : ∀ s ∈ first, ∀ t ∈ second, s.id ≠ t.id) : KeepsOthers first second := by
  intro stored hstored token htoken stored' hadd s hs
  rcases hstored s hs with hfirst | hsecond
  · rcases mem_of_addToken hadd hs with hkeep | hrep
    · exact .inl hkeep
    · rw [replaces, Bool.or_eq_true, beq_iff_eq] at hrep
      rcases hrep with hid | hnear
      · exact absurd hid (h s hfirst token htoken)
      · exact .inr (.inr hnear)
  · exact .inr (.inl hsecond)

theorem separate_iff_ids (first second : List (Token K)) :
    Separate first second ↔ ∀ s ∈ first, ∀ t ∈ second, s.id ≠ t.id := by
  refine ⟨Separate.ids, fun h => ⟨h, keepsOthers_of_ids h, ?_⟩⟩
  exact keepsOthers_of_ids fun s hs t ht => (h t ht s hs).symm

theorem ofNat_eq_iff (m n : Nat) :
    UInt32.ofNat m = UInt32.ofNat n ↔ (2 ^ 32 : Int) ∣ (m : Int) - n := by
  rw [← UInt32.toNat_inj, UInt32.toNat_ofNat', UInt32.toNat_ofNat', ← Int.natCast_inj]
  push_cast
  rw [Int.emod_eq_emod_iff_emod_sub_eq_zero, Int.dvd_iff_emod_eq_zero]

omit [Field K] [LinearOrder K] in
theorem forall_generateTokens {cfg : Config K} {now : Time} {cs : List (ClusterInfo K)}
    {P : Token K → Prop} :
    (∀ s ∈ generateTokens cfg now cs, P s) ↔ ∀ p ∈ cs, P (tokenOf cfg now p) := by
  rw [generateTokens]
  exact List.forall_mem_map

omit [Field K] [LinearOrder K] in
theorem tokenOf_id_eq_iff (a b : Config K) (now now' : Time) (p q : ClusterInfo K) :
    (tokenOf a now p).id = (tokenOf b now' q).id ↔
      (2 ^ 32 : Int) ∣ ((p.id.toNat : Int) - q.id.toNat) - 10 * ((b.id : Int) - a.id) := by
  have hdiff : ((a.id * 10 + p.id.toNat : Nat) : Int) - (b.id * 10 + q.id.toNat : Nat) =
      ((p.id.toNat : Int) - q.id.toNat) - 10 * ((b.id : Int) - a.id) := by
    push_cast
    ring
  rw [tokenOf, tokenOf, ofNat_eq_iff, hdiff]

/-- The tokens of two UAVs have different ids, and leave one another alone
outside the box, exactly when no two of their cluster ids differ by ten times
the difference of the node ids, counted modulo `2 ^ 32`. -/
theorem separate_iff (a b : Config K) (now now' : Time) (cs ds : List (ClusterInfo K)) :
    Separate (generateTokens a now cs) (generateTokens b now' ds) ↔
      ∀ p ∈ cs, ∀ q ∈ ds,
        ¬ (2 ^ 32 : Int) ∣ ((p.id.toNat : Int) - q.id.toNat) - 10 * ((b.id : Int) - a.id) := by
  rw [separate_iff_ids]
  simp only [forall_generateTokens, ne_eq, tokenOf_id_eq_iff]

def clusterAt (id : UInt16) (x : ℚ) : ClusterInfo ℚ := ⟨id, seconds 60, ⟨1, 0, 0⟩, ⟨x, 0, 0⟩, 3⟩

def uav (id : Nat) : Config ℚ := ⟨id, 5, 1, 1, 1, 1, 3, 0, 0, false, []⟩

theorem far_token_erased :
    ¬ ∀ (a b : Config ℚ) (now now' : Time) (cs ds : List (ClusterInfo ℚ)), a.id ≠ b.id →
      Separate (generateTokens a now cs) (generateTokens b now' ds) := by
  intro h
  have hsep := h (uav 1) (uav 2) (seconds 90) (seconds 90) [clusterAt 10 0] [clusterAt 0 500] (by decide)
  exact hsep.ids _ (List.mem_singleton_self _) _ (List.mem_singleton_self _) (by decide)

theorem getClusterInfo_id (c : CMath K) (m : EdsMonitor.Monitor K) :
    ∀ p ∈ getClusterInfo c m, p.id.toNat < 10 := by
  intro p hp
  obtain ⟨i, hi, hinfo⟩ := List.mem_filterMap.mp hp
  have hlt : i < 8 := List.mem_range.mp hi
  rw [directionInfo] at hinfo
  split at hinfo
  · cases hinfo
  · obtain ⟨e, _, rfl⟩ := Option.map_eq_some_iff.mp hinfo
    simp only [UInt16.toNat_ofNat']
    omega

theorem separate_getClusterInfo {a b : Config K} (hab : a.id ≠ b.id) (ha : a.id < 2 ^ 28)
    (hb : b.id < 2 ^ 28) (c : CMath K) (m m' : EdsMonitor.Monitor K) (now now' : Time) :
    Separate (generateTokens a now (getClusterInfo c m)) (generateTokens b now' (getClusterInfo c m')) := by
  rw [separate_iff_ids]
  simp only [forall_generateTokens, ne_eq, tokenOf_id_eq_iff]
  rintro p hp q hq ⟨n, hn⟩
  have hp := getClusterInfo_id c m p hp
  have hq := getClusterInfo_id c m' q hq
  obtain rfl : n = 0 := by omega
  omega

section Unique

def addStep (tokens : List (Token K)) (token : Token K) : Option (List (Token K) × Unit) :=
  (addToken token tokens).map fun stored => (stored, ())

def ClearAhead (tokens : List (Token K)) (token : Token K) : Prop :=
  token.id ∈ tokens.map Token.id →
    ∀ s ∈ tokens.takeWhile (fun s => s.id != token.id), ¬ near token s

/-- No id is stored twice, in all that is ever stored, exactly when no token
that is known by its id meets one near it first. -/
theorem unique_ids_iff (ts : List (Token K)) :
    (∀ stored ∈ states addStep [] ts, (stored.map Token.id).Nodup) ↔
      ∀ t ∈ transitions addStep [] ts, ClearAhead t.pre t.event := by
  refine states_step_iff addStep (fun _ _ => True) (fun stored => (stored.map Token.id).Nodup)
    ClearAhead ?_ ?_ ts trivial List.nodup_nil
  · intro _ _ _ _ _ _ _
    trivial
  · intro tokens token stored _ _ _ h hnodup
    obtain ⟨_, hadd, he⟩ := Option.map_eq_some_iff.mp h
    cases he
    rw [eq_put_of_addToken hadd]
    exact nodup_put_iff hnodup token

def tokenOfUav (id : UInt32) (x : ℚ) : Token ℚ := ⟨⟨x, 0, 0⟩, 0, 1, 0, seconds 600, id⟩

theorem id_stored_twice : ¬ ∀ ts : List (Token ℚ), ∀ stored ∈ states addStep [] ts,
    (stored.map Token.id).Nodup := by
  intro h
  have hnodup := h [tokenOfUav 1 0, tokenOfUav 2 100, tokenOfUav 2 10]
    [tokenOfUav 2 10, tokenOfUav 2 100] (by decide +kernel)
  exact absurd hnodup (by decide)

end Unique

end UavMonitoring.TokenIds
