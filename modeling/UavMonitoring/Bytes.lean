import Mathlib.Data.Nat.Bitwise
import Mathlib.Data.UInt

namespace UavMonitoring.Bytes

theorem toNat_or_shift (high low k : Nat) (h : low < 2 ^ k) : high <<< k ||| low = high * 2 ^ k + low := by
  rw [← Nat.shiftLeft_add_eq_or_of_lt h, Nat.shiftLeft_eq]

theorem toNat_and_mask {a mask : UInt8} (k : Nat) (h : mask.toNat = 2 ^ k - 1) :
    (a &&& mask).toNat = a.toNat % 2 ^ k := by
  rw [UInt8.toNat_and, h, Nat.and_two_pow_sub_one_eq_mod]

theorem and_mask_iff {a mask bound : UInt8} (k : Nat) (h : mask.toNat = 2 ^ k - 1)
    (hbound : bound.toNat = 2 ^ k) : a &&& mask = a ↔ a < bound := by
  rw [← UInt8.toNat_inj, toNat_and_mask k h, UInt8.lt_iff_toNat_lt, hbound, Nat.mod_eq_iff_lt]
  exact Nat.pos_iff_ne_zero.mp (Nat.two_pow_pos k)

theorem byte_of_shift (v s : UInt32) (k : Nat) (hs : s.toNat % 32 = k) :
    ((v >>> s) &&& 0xff).toUInt8 = UInt8.ofNat (v.toNat / 2 ^ k) := by
  rw [← UInt8.toNat_inj, UInt8.toNat_ofNat', UInt32.toNat_toUInt8, UInt32.toNat_and, UInt32.toNat_shiftRight,
    hs, Nat.shiftRight_eq_div_pow]
  change (v.toNat / 2 ^ k &&& (2 ^ 8 - 1)) % _ = _
  rw [Nat.and_two_pow_sub_one_eq_mod, Nat.mod_mod]

theorem toNat_shift_byte (high : UInt32) (b : UInt8) (h : high.toNat < 2 ^ 24) :
    (high <<< 8 ||| b.toUInt32).toNat = high.toNat * 2 ^ 8 + b.toNat := by
  have hb := b.toNat_lt
  rw [UInt32.toNat_or, UInt32.toNat_shiftLeft, UInt8.toNat_toUInt32]
  change high.toNat <<< 8 % 2 ^ 32 ||| b.toNat = _
  rw [Nat.mod_eq_of_lt (by rw [Nat.shiftLeft_eq]; omega), toNat_or_shift _ _ 8 hb]

theorem toNat_fourBytes (b₀ b₁ b₂ b₃ : UInt8) :
    ((((b₀.toUInt32 <<< 8 ||| b₁.toUInt32) <<< 8 ||| b₂.toUInt32) <<< 8) ||| b₃.toUInt32).toNat =
      ((b₀.toNat * 2 ^ 8 + b₁.toNat) * 2 ^ 8 + b₂.toNat) * 2 ^ 8 + b₃.toNat := by
  have h₀ := b₀.toNat_lt
  have h₁ := b₁.toNat_lt
  have h₂ := b₂.toNat_lt
  have e₁ := toNat_shift_byte b₀.toUInt32 b₁ (by rw [UInt8.toNat_toUInt32]; omega)
  rw [UInt8.toNat_toUInt32] at e₁
  have e₂ := toNat_shift_byte (b₀.toUInt32 <<< 8 ||| b₁.toUInt32) b₂ (by omega)
  rw [toNat_shift_byte _ b₃ (by omega), e₂, e₁]

theorem toNat_fromBytes (a b c : UInt8) :
    (a.toUInt32 <<< 16 ||| b.toUInt32 <<< 8 ||| c.toUInt32).toNat =
      a.toNat * 65536 + b.toNat * 256 + c.toNat := by
  have ha := a.toNat_lt
  have hb := b.toNat_lt
  have hc := c.toNat_lt
  simp only [UInt32.toNat_or, UInt32.toNat_shiftLeft, UInt8.toNat_toUInt32]
  change (a.toNat <<< 16 % 2 ^ 32 ||| b.toNat <<< 8 % 2 ^ 32) ||| c.toNat = _
  rw [Nat.mod_eq_of_lt (by rw [Nat.shiftLeft_eq]; omega), Nat.mod_eq_of_lt (by rw [Nat.shiftLeft_eq]; omega),
    toNat_or_shift _ (b.toNat <<< 8) 16 (by rw [Nat.shiftLeft_eq]; omega)]
  have hsplit : a.toNat * 2 ^ 16 + b.toNat <<< 8 = (a.toNat * 256 + b.toNat) <<< 8 := by
    simp only [Nat.shiftLeft_eq]
    omega
  rw [hsplit, toNat_or_shift _ _ 8 hc]
  clear hsplit
  omega

theorem toNat_fromWord (a : UInt16) (c : UInt8) :
    (a.toUInt32 <<< 8 ||| c.toUInt32).toNat = a.toNat * 256 + c.toNat := by
  have ha := a.toNat_lt
  have hc := c.toNat_lt
  simp only [UInt32.toNat_or, UInt32.toNat_shiftLeft, UInt8.toNat_toUInt32, UInt16.toNat_toUInt32]
  change a.toNat <<< 8 % 2 ^ 32 ||| c.toNat = _
  rw [Nat.mod_eq_of_lt (by rw [Nat.shiftLeft_eq]; omega), toNat_or_shift _ _ 8 hc]
  rfl

end UavMonitoring.Bytes
