import UavMonitoring.Bytes

namespace UavMonitoring.DeviceAddress

open Bytes

/-- An address with its parts in range, as `NwkID::Set` and `NwkAddr::Set` leave them. -/
@[ext] structure LoraDeviceAddress where
  nwkId : UInt8
  nwkAddr : UInt32
  nwkId_lt : nwkId.toNat < 2 ^ 7
  nwkAddr_lt : nwkAddr.toNat < 2 ^ 25
deriving DecidableEq

theorem toNat_nwkId (nwkId : UInt8) : (nwkId &&& 0x7F).toNat = nwkId.toNat % 2 ^ 7 :=
  toNat_and_mask 7 rfl

theorem toNat_nwkAddr (nwkAddr : UInt32) : (nwkAddr &&& 0x1FFFFFF).toNat = nwkAddr.toNat % 2 ^ 25 := by
  rw [UInt32.toNat_and]
  exact Nat.and_two_pow_sub_one_eq_mod _ 25

namespace LoraDeviceAddress

def ofParts (nwkId : UInt8) (nwkAddr : UInt32) : LoraDeviceAddress where
  nwkId := nwkId &&& 0x7F
  nwkAddr := nwkAddr &&& 0x1FFFFFF
  nwkId_lt := toNat_nwkId nwkId ▸ Nat.mod_lt _ (by decide)
  nwkAddr_lt := toNat_nwkAddr nwkAddr ▸ Nat.mod_lt _ (by decide)

def get (a : LoraDeviceAddress) : UInt32 := a.nwkAddr ||| a.nwkId.toUInt32 <<< 25

def set (address : UInt32) : LoraDeviceAddress :=
  ofParts (address >>> 25).toUInt8 (address &&& 0x1FFFFFF)

def serialize (a : LoraDeviceAddress) : UInt8 × UInt8 × UInt8 × UInt8 :=
  (((a.get >>> 24) &&& 0xff).toUInt8, ((a.get >>> 16) &&& 0xff).toUInt8,
    ((a.get >>> 8) &&& 0xff).toUInt8, (a.get &&& 0xff).toUInt8)

def deserialize (buf : UInt8 × UInt8 × UInt8 × UInt8) : LoraDeviceAddress :=
  set ((((buf.1.toUInt32 <<< 8 ||| buf.2.1.toUInt32) <<< 8 ||| buf.2.2.1.toUInt32) <<< 8) |||
    buf.2.2.2.toUInt32)

theorem toNat_get (a : LoraDeviceAddress) : a.get.toNat = a.nwkId.toNat * 2 ^ 25 + a.nwkAddr.toNat := by
  have hid := a.nwkId_lt
  rw [get, UInt32.toNat_or, UInt32.toNat_shiftLeft, UInt8.toNat_toUInt32, Nat.or_comm]
  change a.nwkId.toNat <<< 25 % 2 ^ 32 ||| _ = _
  rw [Nat.mod_eq_of_lt (by rw [Nat.shiftLeft_eq]; omega), toNat_or_shift _ _ _ a.nwkAddr_lt]

theorem nwkId_set (address : UInt32) : (set address).nwkId.toNat = address.toNat / 2 ^ 25 := by
  have hlt := address.toNat_lt
  rw [set, ofParts, toNat_nwkId, UInt32.toNat_toUInt8, UInt32.toNat_shiftRight]
  change address.toNat >>> 25 % _ % _ = _
  rw [Nat.shiftRight_eq_div_pow]
  omega

theorem nwkAddr_set (address : UInt32) : (set address).nwkAddr.toNat = address.toNat % 2 ^ 25 := by
  rw [set, ofParts, toNat_nwkAddr, toNat_nwkAddr, Nat.mod_mod]

theorem get_set (address : UInt32) : (set address).get = address := by
  rw [← UInt32.toNat_inj, toNat_get, nwkId_set, nwkAddr_set]
  omega

theorem set_get (a : LoraDeviceAddress) : set a.get = a := by
  have haddr := a.nwkAddr_lt
  have hid : (set a.get).nwkId = a.nwkId := by
    rw [← UInt8.toNat_inj, nwkId_set, toNat_get]
    omega
  have hnwk : (set a.get).nwkAddr = a.nwkAddr := by
    rw [← UInt32.toNat_inj, nwkAddr_set, toNat_get]
    omega
  exact LoraDeviceAddress.ext hid hnwk

theorem serialize_eq (a : LoraDeviceAddress) :
    a.serialize = (UInt8.ofNat (a.get.toNat / 2 ^ 24), UInt8.ofNat (a.get.toNat / 2 ^ 16),
      UInt8.ofNat (a.get.toNat / 2 ^ 8), UInt8.ofNat a.get.toNat) := by
  have hlow := byte_of_shift a.get 0 0 rfl
  rw [UInt32.shiftRight_zero, Nat.pow_zero, Nat.div_one] at hlow
  rw [serialize, byte_of_shift _ 24 24 rfl, byte_of_shift _ 16 16 rfl, byte_of_shift _ 8 8 rfl, hlow]

theorem toNat_get_deserialize (b₀ b₁ b₂ b₃ : UInt8) :
    (deserialize (b₀, b₁, b₂, b₃)).get.toNat =
      ((b₀.toNat * 2 ^ 8 + b₁.toNat) * 2 ^ 8 + b₂.toNat) * 2 ^ 8 + b₃.toNat := by
  rw [deserialize, get_set, toNat_fourBytes]

theorem buffer_round_trip :
    (∀ a : LoraDeviceAddress, deserialize a.serialize = a) ∧ ∀ buf, (deserialize buf).serialize = buf := by
  constructor
  · intro a
    have hlt := a.get.toNat_lt
    have hget : (deserialize a.serialize).get = a.get := by
      rw [← UInt32.toNat_inj, serialize_eq, toNat_get_deserialize]
      simp only [UInt8.toNat_ofNat']
      omega
    rw [← set_get (deserialize a.serialize), hget, set_get]
  · rintro ⟨b₀, b₁, b₂, b₃⟩
    have hget := toNat_get_deserialize b₀ b₁ b₂ b₃
    have h₀ := b₀.toNat_lt
    have h₁ := b₁.toNat_lt
    have h₂ := b₂.toNat_lt
    have h₃ := b₃.toNat_lt
    rw [serialize_eq, hget]
    simp only [Prod.mk.injEq, ← UInt8.toNat_inj, UInt8.toNat_ofNat']
    omega

end LoraDeviceAddress

end UavMonitoring.DeviceAddress
