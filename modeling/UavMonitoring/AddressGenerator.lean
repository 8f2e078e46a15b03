import UavMonitoring.DeviceAddress
import Mathlib.Data.List.Nodup
import Mathlib.Data.List.Range

namespace UavMonitoring.AddressGenerator

open DeviceAddress LoraDeviceAddress

inductive Call
  | nextAddress
  | nextNetwork
deriving DecidableEq

/-- The network and the address in it that the generator is at. -/
structure LoraDeviceAddressGenerator where
  current : LoraDeviceAddress

namespace LoraDeviceAddressGenerator

def new (nwkId : UInt8) (nwkAddr : UInt32) : LoraDeviceAddressGenerator := ⟨ofParts nwkId nwkAddr⟩

def nextNetwork (g : LoraDeviceAddressGenerator) : LoraDeviceAddressGenerator × LoraDeviceAddress :=
  let current := ofParts (g.current.nwkId + 1) 0
  (⟨current⟩, current)

def nextAddress (g : LoraDeviceAddressGenerator) : LoraDeviceAddressGenerator × LoraDeviceAddress :=
  (⟨ofParts g.current.nwkId (g.current.nwkAddr + 1)⟩, g.current)

def getNextAddress (g : LoraDeviceAddressGenerator) : LoraDeviceAddress :=
  ofParts g.current.nwkId (g.current.nwkAddr + 1)

def call (g : LoraDeviceAddressGenerator) : Call → LoraDeviceAddressGenerator × LoraDeviceAddress
  | .nextAddress => g.nextAddress
  | .nextNetwork => g.nextNetwork

end LoraDeviceAddressGenerator

open LoraDeviceAddressGenerator

def given : LoraDeviceAddressGenerator → List Call → List LoraDeviceAddress
  | _, [] => []
  | g, call :: calls => (g.call call).2 :: given (g.call call).1 calls

def place (nwkId nwkAddr : Nat) : LoraDeviceAddress := ofParts (.ofNat nwkId) (.ofNat nwkAddr)

theorem toNat_nwkId_place (nwkId nwkAddr : Nat) : (place nwkId nwkAddr).nwkId.toNat = nwkId % 2 ^ 7 := by
  rw [place, ofParts, toNat_nwkId, UInt8.toNat_ofNat']
  omega

theorem toNat_nwkAddr_place (nwkId nwkAddr : Nat) : (place nwkId nwkAddr).nwkAddr.toNat = nwkAddr % 2 ^ 25 := by
  rw [place, ofParts, toNat_nwkAddr, UInt32.toNat_ofNat']
  omega

theorem eq_iff_toNat {a b : LoraDeviceAddress} :
    a = b ↔ a.nwkId.toNat = b.nwkId.toNat ∧ a.nwkAddr.toNat = b.nwkAddr.toNat := by
  rw [LoraDeviceAddress.ext_iff, ← UInt8.toNat_inj, ← UInt32.toNat_inj]

theorem place_eq_iff {nwkId nwkId' nwkAddr nwkAddr' : Nat} :
    place nwkId nwkAddr = place nwkId' nwkAddr' ↔
      nwkId % 2 ^ 7 = nwkId' % 2 ^ 7 ∧ nwkAddr % 2 ^ 25 = nwkAddr' % 2 ^ 25 := by
  rw [eq_iff_toNat, toNat_nwkId_place, toNat_nwkId_place, toNat_nwkAddr_place, toNat_nwkAddr_place]

theorem ofParts_eq_place (nwkId : UInt8) (nwkAddr : UInt32) :
    ofParts nwkId nwkAddr = place nwkId.toNat nwkAddr.toNat := by
  rw [place, UInt8.ofNat_toNat, UInt32.ofNat_toNat]

theorem place_self (a : LoraDeviceAddress) : place a.nwkId.toNat a.nwkAddr.toNat = a := by
  rw [eq_iff_toNat, toNat_nwkId_place, toNat_nwkAddr_place]
  exact ⟨Nat.mod_eq_of_lt a.nwkId_lt, Nat.mod_eq_of_lt a.nwkAddr_lt⟩

theorem nextAddress_place (nwkId nwkAddr : Nat) :
    nextAddress ⟨place nwkId nwkAddr⟩ = (⟨place nwkId (nwkAddr + 1)⟩, place nwkId nwkAddr) := by
  have hnext : ofParts (place nwkId nwkAddr).nwkId ((place nwkId nwkAddr).nwkAddr + 1) =
      place nwkId (nwkAddr + 1) := by
    rw [ofParts_eq_place, place_eq_iff, UInt32.toNat_add, toNat_nwkId_place, toNat_nwkAddr_place]
    change _ ∧ (nwkAddr % 2 ^ 25 + 1) % 2 ^ 32 % 2 ^ 25 = _
    omega
  rw [nextAddress, hnext]

theorem nextNetwork_place (nwkId nwkAddr : Nat) :
    nextNetwork ⟨place nwkId nwkAddr⟩ = (⟨place (nwkId + 1) 0⟩, place (nwkId + 1) 0) := by
  have hnext : ofParts ((place nwkId nwkAddr).nwkId + 1) 0 = place (nwkId + 1) 0 := by
    rw [ofParts_eq_place, place_eq_iff, UInt8.toNat_add, toNat_nwkId_place]
    change (nwkId % 2 ^ 7 + 1) % 2 ^ 8 % 2 ^ 7 = _ ∧ _
    exact ⟨by omega, rfl⟩
  rw [nextNetwork]
  dsimp only
  rw [hnext]

/-- What it tells is not the address that comes next, but the one after it. -/
theorem getNextAddress_ne (g : LoraDeviceAddressGenerator) :
    g.getNextAddress ≠ g.nextAddress.2 ∧ g.getNextAddress = g.nextAddress.1.nextAddress.2 := by
  refine ⟨fun h => ?_, rfl⟩
  have hg := place_self g.current
  have hnext := nextAddress_place g.current.nwkId.toNat g.current.nwkAddr.toNat
  rw [hg] at hnext
  have hplace : place g.current.nwkId.toNat (g.current.nwkAddr.toNat + 1) =
      place g.current.nwkId.toNat g.current.nwkAddr.toNat :=
    (congrArg (fun r => r.1.current) hnext).symm.trans (h.trans hg.symm)
  have haddr := (place_eq_iff.mp hplace).2
  omega

theorem given_networks (networks nwkId nwkAddr : Nat) :
    given ⟨place nwkId nwkAddr⟩ (List.replicate networks .nextNetwork) =
      (List.range networks).map fun k => place (nwkId + 1 + k) 0 := by
  induction networks generalizing nwkId nwkAddr with
  | zero => rfl
  | succ networks ih =>
      rw [List.replicate_succ, given, call, nextNetwork_place, ih, List.range_succ_eq_map, List.map_cons,
        List.map_map]
      refine congrArg _ (List.map_congr_left fun k _ => ?_)
      rw [Function.comp_apply, add_right_comm]
      rfl

theorem given_addresses (addresses networks nwkId nwkAddr : Nat) :
    given ⟨place nwkId nwkAddr⟩
        (List.replicate addresses .nextAddress ++ List.replicate networks .nextNetwork) =
      ((List.range addresses).map fun k => place nwkId (nwkAddr + k)) ++
        (List.range networks).map fun k => place (nwkId + 1 + k) 0 := by
  induction addresses generalizing nwkAddr with
  | zero => exact given_networks networks nwkId nwkAddr
  | succ addresses ih =>
      rw [List.replicate_succ, List.cons_append, given, call, nextAddress_place, ih, List.range_succ_eq_map,
        List.map_cons, List.map_map, List.cons_append]
      refine congrArg _ (congrArg (· ++ _) (List.map_congr_left fun k _ => ?_))
      rw [Function.comp_apply, add_right_comm]
      rfl

theorem calls_of_distinct (g : LoraDeviceAddressGenerator) (calls : List Call) (h : (given g calls).Nodup) :
    ∃ addresses networks,
      calls = List.replicate addresses .nextAddress ++ List.replicate networks .nextNetwork := by
  induction calls generalizing g with
  | nil => exact ⟨0, 0, rfl⟩
  | cons call calls ih =>
      obtain ⟨hfirst, hrest⟩ := List.nodup_cons.mp h
      obtain ⟨addresses, networks, rfl⟩ := ih _ hrest
      cases call with
      | nextAddress => exact ⟨addresses + 1, networks, rfl⟩
      | nextNetwork =>
          cases addresses with
          | zero => exact ⟨0, networks + 1, rfl⟩
          | succ addresses => exact absurd List.mem_cons_self hfirst

theorem distinct_mod_iff {modulus : Nat} (hpos : 0 < modulus) (start count : Nat) :
    (∀ j < count, ∀ k < count, (start + j) % modulus = (start + k) % modulus → j = k) ↔ count ≤ modulus := by
  constructor
  · intro h
    by_contra hlt
    have hzero := h 0 (by omega) modulus (by omega) (by rw [Nat.add_zero, Nat.add_mod_right])
    omega
  · intro h j hj k hk hmod
    have hcancel : j ≡ k [MOD modulus] := Nat.ModEq.add_left_cancel' start hmod
    exact hcancel.eq_of_lt_of_lt (hj.trans_le h) (hk.trans_le h)

theorem distinct_addresses_iff (nwkId nwkAddr addresses : Nat) :
    ((List.range addresses).map fun k => place nwkId (nwkAddr + k)).Nodup ↔ addresses ≤ 2 ^ 25 := by
  rw [List.nodup_map_iff_inj_on List.nodup_range, ← distinct_mod_iff (by decide) nwkAddr]
  simp only [List.mem_range, place_eq_iff, true_and]

theorem distinct_networks_iff (nwkId networks : Nat) :
    ((List.range networks).map fun k => place (nwkId + 1 + k) 0).Nodup ↔ networks ≤ 2 ^ 7 := by
  rw [List.nodup_map_iff_inj_on List.nodup_range, ← distinct_mod_iff (by decide) (nwkId + 1)]
  simp only [List.mem_range, place_eq_iff, and_true]

theorem apart_iff {networks : Nat} (hnetworks : networks ≤ 2 ^ 7) (nwkId nwkAddr addresses : Nat) :
    (∀ a ∈ (List.range addresses).map fun k => place nwkId (nwkAddr + k),
      ∀ b ∈ (List.range networks).map fun k => place (nwkId + 1 + k) 0, a ≠ b) ↔
      (networks = 2 ^ 7 → ∀ k < addresses, (nwkAddr + k) % 2 ^ 25 ≠ 0) := by
  simp only [List.forall_mem_map, List.mem_range, ne_eq, place_eq_iff]
  constructor
  · intro h hall k hk hzero
    exact h k hk (2 ^ 7 - 1) (by omega) ⟨by omega, hzero⟩
  · intro h k hk l hl hsame
    exact h (by omega) k hk hsame.2

/-- The addresses given out are all distinct exactly if those of the network at hand are asked for
before any other network is, and there are no more of either than the bits can tell apart. -/
theorem given_distinct_iff (g : LoraDeviceAddressGenerator) (calls : List Call) :
    (given g calls).Nodup ↔
      ∃ addresses networks,
        calls = List.replicate addresses .nextAddress ++ List.replicate networks .nextNetwork ∧
        addresses ≤ 2 ^ 25 ∧ networks ≤ 2 ^ 7 ∧
        (networks = 2 ^ 7 → ∀ k < addresses, (g.current.nwkAddr.toNat + k) % 2 ^ 25 ≠ 0) := by
  have hgiven (addresses networks : Nat) :
      (given g (List.replicate addresses .nextAddress ++ List.replicate networks .nextNetwork)).Nodup ↔
        addresses ≤ 2 ^ 25 ∧ networks ≤ 2 ^ 7 ∧
          (networks = 2 ^ 7 → ∀ k < addresses, (g.current.nwkAddr.toNat + k) % 2 ^ 25 ≠ 0) := by
    have hstart : g = ⟨place g.current.nwkId.toNat g.current.nwkAddr.toNat⟩ := by rw [place_self]
    conv_lhs => rw [hstart]
    rw [given_addresses, List.nodup_append, distinct_addresses_iff, distinct_networks_iff]
    exact and_congr_right fun _ => and_congr_right fun hnetworks => apart_iff hnetworks _ _ _
  constructor
  · intro h
    obtain ⟨addresses, networks, rfl⟩ := calls_of_distinct g calls h
    exact ⟨addresses, networks, rfl, (hgiven addresses networks).mp h⟩
  · rintro ⟨addresses, networks, rfl, hbounds⟩
    exact (hgiven addresses networks).mpr hbounds

end UavMonitoring.AddressGenerator
