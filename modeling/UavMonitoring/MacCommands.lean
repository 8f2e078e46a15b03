import UavMonitoring.Basics
import UavMonitoring.Bytes
import UavMonitoring.RecordStream

namespace UavMonitoring.MacCommands

open Basics Bytes RecordStream

scoped instance atLeastTwo_hundred : Nat.AtLeastTwo 100 := ⟨by decide⟩

/-- What the simulator's buffer and the conversion of a double out of range
leave open. A word is read back as it was written; in which bytes is not said. -/
structure Platform where
  writeU16 : UInt16 → UInt8 × UInt8
  readU16 : UInt8 × UInt8 → UInt16
  readU16_writeU16 : ∀ data, readU16 (writeU16 data) = data
  writeU32 : UInt32 → UInt8 × UInt8 × UInt8 × UInt8
  readU32 : UInt8 × UInt8 × UInt8 × UInt8 → UInt32
  readU32_writeU32 : ∀ data, readU32 (writeU32 data) = data
  junk : UInt32

def littleEndian : Platform where
  writeU16 data := (data.toUInt8, (data >>> 8).toUInt8)
  readU16 bytes := bytes.2.toUInt16 <<< 8 ||| bytes.1.toUInt16
  readU16_writeU16 data := by
    have hlt := data.toNat_lt
    rw [← UInt16.toNat_inj, UInt16.toNat_or, UInt16.toNat_shiftLeft, UInt8.toNat_toUInt16, UInt8.toNat_toUInt16,
      UInt16.toNat_toUInt8, UInt16.toNat_toUInt8, UInt16.toNat_shiftRight]
    change (data.toNat >>> 8 % 2 ^ 8) <<< 8 % 2 ^ 16 ||| data.toNat % 2 ^ 8 = _
    rw [Nat.shiftRight_eq_div_pow, Nat.mod_eq_of_lt (by rw [Nat.shiftLeft_eq]; omega),
      toNat_or_shift _ _ 8 (by omega)]
    omega
  writeU32 data :=
    (data.toUInt8, (data >>> 8).toUInt8, (data >>> 16).toUInt8, (data >>> 24).toUInt8)
  readU32 bytes :=
    ((bytes.2.2.2.toUInt32 <<< 8 ||| bytes.2.2.1.toUInt32) <<< 8 ||| bytes.2.1.toUInt32) <<< 8 |||
      bytes.1.toUInt32
  readU32_writeU32 data := by
    have hlt := data.toNat_lt
    rw [← UInt32.toNat_inj, toNat_fourBytes]
    simp only [UInt32.toNat_toUInt8, UInt32.toNat_shiftRight]
    change ((data.toNat >>> 24 % 2 ^ 8 * 2 ^ 8 + data.toNat >>> 16 % 2 ^ 8) * 2 ^ 8 + data.toNat >>> 8 % 2 ^ 8) *
      2 ^ 8 + data.toNat % 2 ^ 8 = _
    simp only [Nat.shiftRight_eq_div_pow]
    omega
  junk := 0

inductive MacCommandType
  | invalid
  | linkCheckReq
  | linkCheckAns
  | linkAdrReq
  | linkAdrAns
  | dutyCycleReq
  | dutyCycleAns
  | rxParamSetupReq
  | rxParamSetupAns
  | devStatusReq
  | devStatusAns
  | newChannelReq
  | newChannelAns
  | rxTimingSetupReq
  | rxTimingSetupAns
  | txParamSetupReq
  | txParamSetupAns
  | dlChannelReq
  | dlChannelAns
deriving DecidableEq

def getCIDFromMacCommand : MacCommandType → UInt8
  | .invalid => 0x0
  | .linkCheckReq | .linkCheckAns => 0x02
  | .linkAdrReq | .linkAdrAns => 0x03
  | .dutyCycleReq | .dutyCycleAns => 0x04
  | .rxParamSetupReq | .rxParamSetupAns => 0x05
  | .devStatusReq | .devStatusAns => 0x06
  | .newChannelReq | .newChannelAns => 0x07
  | .rxTimingSetupReq | .rxTimingSetupAns => 0x08
  | .txParamSetupReq | .txParamSetupAns => 0x09
  | .dlChannelReq | .dlChannelAns => 0x0A

inductive MacCommand (K : Type)
  | linkCheckReq
  | linkCheckAns (margin gwCnt : UInt8)
  | linkAdrReq (dataRate txPower : UInt8) (channelMask : UInt16) (chMaskCntl nbRep : UInt8)
  | linkAdrAns (powerAck dataRateAck channelMaskAck : Bool)
  | dutyCycleReq (maxDCycle : UInt8)
  | dutyCycleAns
  | rxParamSetupReq (rx1DrOffset rx2DataRate : UInt8) (frequency : K)
  | rxParamSetupAns (rx1DrOffsetAck rx2DataRateAck channelAck : Bool)
  | devStatusReq
  | devStatusAns (battery margin : UInt8)
  | newChannelReq (chIndex : UInt8) (frequency : K) (minDataRate maxDataRate : UInt8)
  | newChannelAns (dataRateRangeOk channelFrequencyOk : Bool)
  | rxTimingSetupReq (delay : UInt8)
  | rxTimingSetupAns
  | dlChannelAns
  | txParamSetupReq
  | txParamSetupAns
deriving DecidableEq

variable {K : Type}

def MacCommand.className : MacCommand K → MacCommandType
  | .linkCheckReq => .linkCheckReq
  | .linkCheckAns .. => .linkCheckAns
  | .linkAdrReq .. => .linkAdrReq
  | .linkAdrAns .. => .linkAdrAns
  | .dutyCycleReq _ => .dutyCycleReq
  | .dutyCycleAns => .dutyCycleAns
  | .rxParamSetupReq .. => .rxParamSetupReq
  | .rxParamSetupAns .. => .rxParamSetupAns
  | .devStatusReq => .devStatusReq
  | .devStatusAns .. => .devStatusAns
  | .newChannelReq .. => .newChannelReq
  | .newChannelAns .. => .newChannelAns
  | .rxTimingSetupReq _ => .rxTimingSetupReq
  | .rxTimingSetupAns => .rxTimingSetupAns
  | .dlChannelAns => .dlChannelAns
  | .txParamSetupReq => .txParamSetupReq
  | .txParamSetupAns => .txParamSetupAns

/-- What the constructor of a class sets: its own type, but for four of them. -/
def MacCommandType.set : MacCommandType → MacCommandType
  | .rxTimingSetupAns | .dlChannelAns | .txParamSetupReq | .txParamSetupAns => .devStatusReq
  | commandType => commandType

def MacCommand.commandType (command : MacCommand K) : MacCommandType := command.className.set

def MacCommand.serializedSize : MacCommand K → Nat
  | .linkCheckReq | .dutyCycleAns | .devStatusReq => 1
  | .linkCheckAns .. | .devStatusAns .. => 3
  | .linkAdrReq .. | .rxParamSetupReq .. => 5
  | .linkAdrAns .. | .dutyCycleReq _ | .rxParamSetupAns .. | .newChannelAns .. | .rxTimingSetupReq _ => 2
  | .newChannelReq .. => 6
  | .rxTimingSetupAns | .dlChannelAns | .txParamSetupReq | .txParamSetupAns => 1

def nibbles (high low : UInt8) : UInt8 := high <<< 4 ||| low &&& 0b1111

def threeBytes (encodedFrequency : UInt32) : List UInt8 :=
  [((encodedFrequency &&& 0xff0000) >>> 16).toUInt8, ((encodedFrequency &&& 0xff00) >>> 8).toUInt8,
    (encodedFrequency &&& 0xff).toUInt8]

section Serialize

variable [Field K] [LinearOrder K] [FloorRing K] (pl : Platform)

def encodedFrequency (frequency : K) : UInt32 := toUint32 pl.junk (some (frequency / 100))

def MacCommand.fields : MacCommand K → List UInt8
  | .linkCheckReq | .dutyCycleAns | .devStatusReq => []
  | .linkCheckAns margin gwCnt => [margin, gwCnt]
  | .linkAdrReq dataRate txPower channelMask chMaskCntl nbRep =>
      [nibbles dataRate txPower, (pl.writeU16 channelMask).1, (pl.writeU16 channelMask).2,
        nibbles chMaskCntl nbRep]
  | .linkAdrAns powerAck dataRateAck channelMaskAck =>
      [powerAck.toUInt8 <<< 2 ||| dataRateAck.toUInt8 <<< 1 ||| channelMaskAck.toUInt8]
  | .dutyCycleReq maxDCycle => [maxDCycle]
  | .rxParamSetupReq rx1DrOffset rx2DataRate frequency =>
      nibbles (rx1DrOffset &&& 0b111) rx2DataRate :: threeBytes (encodedFrequency pl frequency)
  | .rxParamSetupAns rx1DrOffsetAck rx2DataRateAck channelAck =>
      [rx1DrOffsetAck.toUInt8 <<< 2 ||| rx2DataRateAck.toUInt8 <<< 1 ||| channelAck.toUInt8]
  | .devStatusAns battery margin => [battery, margin]
  | .newChannelReq chIndex frequency minDataRate maxDataRate =>
      chIndex :: threeBytes (encodedFrequency pl frequency) ++ [nibbles maxDataRate minDataRate]
  | .newChannelAns dataRateRangeOk channelFrequencyOk =>
      [dataRateRangeOk.toUInt8 <<< 1 ||| channelFrequencyOk.toUInt8]
  | .rxTimingSetupReq delay => [delay &&& 0xf]
  | .rxTimingSetupAns | .dlChannelAns | .txParamSetupReq | .txParamSetupAns => []

def MacCommand.serialize (command : MacCommand K) : List UInt8 :=
  getCIDFromMacCommand command.commandType :: command.fields pl

end Serialize

section Deserialize

/-- A class reads its own fields behind a CID that it skips; `none` past the end. -/
abbrev Deserialize (K : Type) := List UInt8 → Option (MacCommand K × List UInt8)

def skipCid (command : MacCommand K) : Deserialize K
  | _ :: rest => some (command, rest)
  | _ => none

def linkCheckAns : Deserialize K
  | _ :: margin :: gwCnt :: rest => some (.linkCheckAns margin gwCnt, rest)
  | _ => none

def linkAdrReq (pl : Platform) : Deserialize K
  | _ :: first :: second :: third :: fourth :: rest =>
      some (.linkAdrReq (first >>> 4) (first &&& 0b1111) (pl.readU16 (second, third)) (fourth >>> 4)
        (fourth &&& 0b1111), rest)
  | _ => none

def linkAdrAns : Deserialize K
  | _ :: byte :: rest =>
      some (.linkAdrAns (byte &&& 0b100 != 0) (byte &&& 0b10 != 0) (byte &&& 0b1 != 0), rest)
  | _ => none

def dutyCycleReq : Deserialize K
  | _ :: maxDCycle :: rest => some (.dutyCycleReq maxDCycle, rest)
  | _ => none

def rxParamSetupReq [Field K] : Deserialize K
  | _ :: first :: second :: third :: fourth :: rest =>
      let encodedFrequency := second.toUInt32 <<< 16 ||| third.toUInt32 <<< 8 ||| fourth.toUInt32
      some (.rxParamSetupReq ((first &&& 0b1110000) >>> 4) (first &&& 0b1111)
        ((encodedFrequency.toNat : K) * 100), rest)
  | _ => none

def rxParamSetupAns : Deserialize K
  | _ :: byte :: rest =>
      some (.rxParamSetupAns ((byte &&& 0b100) >>> 2 != 0) ((byte &&& 0b10) >>> 1 != 0)
        (byte &&& 0b1 != 0), rest)
  | _ => none

def devStatusAns : Deserialize K
  | _ :: battery :: margin :: rest => some (.devStatusAns battery (margin &&& 0b111111), rest)
  | _ => none

def newChannelReq [Field K] (pl : Platform) : Deserialize K
  | _ :: chIndex :: second :: third :: fourth :: dataRateByte :: rest =>
      let encodedFrequency := (pl.readU16 (second, third)).toUInt32 <<< 8 ||| fourth.toUInt32
      some (.newChannelReq chIndex ((encodedFrequency.toNat : K) * 100) (dataRateByte &&& 0xf)
        (dataRateByte >>> 4), rest)
  | _ => none

def newChannelAns : Deserialize K
  | _ :: byte :: rest => some (.newChannelAns ((byte &&& 0b10) >>> 1 != 0) (byte &&& 0b1 != 0), rest)
  | _ => none

def rxTimingSetupReq : Deserialize K
  | _ :: delay :: rest => some (.rxTimingSetupReq (delay &&& 0xf), rest)
  | _ => none

variable [Field K] (pl : Platform)

/-- There is no class for a `DlChannelReq`. -/
def deserialize : MacCommandType → Deserialize K
  | .linkCheckReq => skipCid .linkCheckReq
  | .linkCheckAns => linkCheckAns
  | .linkAdrReq => linkAdrReq pl
  | .linkAdrAns => linkAdrAns
  | .dutyCycleReq => dutyCycleReq
  | .dutyCycleAns => skipCid .dutyCycleAns
  | .rxParamSetupReq => rxParamSetupReq
  | .rxParamSetupAns => rxParamSetupAns
  | .devStatusReq => skipCid .devStatusReq
  | .devStatusAns => devStatusAns
  | .newChannelReq => newChannelReq pl
  | .newChannelAns => newChannelAns
  | .rxTimingSetupReq => rxTimingSetupReq
  | .rxTimingSetupAns => skipCid .rxTimingSetupAns
  | .dlChannelAns => skipCid .dlChannelAns
  | .txParamSetupReq => skipCid .txParamSetupReq
  | .txParamSetupAns => skipCid .txParamSetupAns
  | .invalid | .dlChannelReq => fun _ => none

def created (isUplink : Bool) (cid : UInt8) : Option MacCommandType :=
  if isUplink then
    match cid.toNat with
    | 0x02 => some .linkCheckReq
    | 0x03 => some .linkAdrAns
    | 0x04 => some .dutyCycleAns
    | 0x05 => some .rxParamSetupAns
    | 0x06 => some .devStatusAns
    | 0x07 => some .newChannelAns
    | 0x08 => some .rxTimingSetupAns
    | 0x09 => some .txParamSetupAns
    | 0x0A => some .dlChannelAns
    | _ => none
  else
    match cid.toNat with
    | 0x02 => some .linkCheckAns
    | 0x03 => some .linkAdrReq
    | 0x04 => some .dutyCycleReq
    | 0x05 => some .rxParamSetupReq
    | 0x06 => some .devStatusReq
    | 0x07 => some .newChannelReq
    | 0x08 => some .rxTimingSetupReq
    | 0x09 => some .txParamSetupReq
    | _ => none

def meet (isUplink : Bool) : List UInt8 → Met (MacCommand K) UInt8
  | [] => .pastEnd
  | cid :: rest =>
      match created isUplink cid with
      | none => .unknown
      | some className =>
          match deserialize pl className (cid :: rest) with
          | none => .pastEnd
          | some (command, rest) => .record command rest

end Deserialize

section Bytes

theorem toNat_nibbles (high low : UInt8) :
    (nibbles high low).toNat = high.toNat % 16 * 16 + low.toNat % 16 := by
  have hhigh : high.toNat <<< 4 % 2 ^ 8 = (high.toNat % 16) <<< 4 := by
    simp only [Nat.shiftLeft_eq]
    omega
  rw [nibbles, UInt8.toNat_or, UInt8.toNat_shiftLeft, toNat_and_mask 4 rfl]
  change high.toNat <<< 4 % 2 ^ 8 ||| _ = _
  rw [hhigh, toNat_or_shift _ _ _ (Nat.mod_lt _ (by decide))]
  rfl

theorem nibbles_high_iff (high low : UInt8) : nibbles high low >>> 4 = high ↔ high < 16 := by
  have h := toNat_nibbles high low
  have hlt := high.toNat_lt
  have h16 : (16 : UInt8).toNat = 16 := rfl
  rw [← UInt8.toNat_inj, UInt8.toNat_shiftRight, UInt8.lt_iff_toNat_lt, h, h16]
  change _ >>> 4 = _ ↔ _
  rw [Nat.shiftRight_eq_div_pow]
  omega

theorem nibbles_low_iff (high low : UInt8) : nibbles high low &&& 0b1111 = low ↔ low < 16 := by
  have h := toNat_nibbles high low
  have h16 : (16 : UInt8).toNat = 16 := rfl
  rw [← UInt8.toNat_inj, toNat_and_mask 4 rfl, UInt8.lt_iff_toNat_lt, h, h16]
  omega

theorem offset_iff (offset low : UInt8) :
    (nibbles (offset &&& 0b111) low &&& 0b1110000) >>> 4 = offset ↔ offset < 8 := by
  have h := toNat_nibbles (offset &&& 0b111) low
  have hoffset : (offset &&& 0b111).toNat = offset.toNat % 2 ^ 3 := toNat_and_mask 3 rfl
  have hlt := offset.toNat_lt
  have h8 : (8 : UInt8).toNat = 8 := rfl
  rw [← UInt8.toNat_inj, UInt8.toNat_shiftRight, UInt8.toNat_and, UInt8.lt_iff_toNat_lt, h, h8, hoffset]
  change (_ &&& 0b1110000) >>> 4 = _ ↔ _
  rw [Nat.shiftRight_and_distrib]
  change _ >>> 4 &&& (2 ^ 3 - 1) = _ ↔ _
  rw [Nat.and_two_pow_sub_one_eq_mod, Nat.shiftRight_eq_div_pow]
  omega

theorem threeBytes_eq (e : UInt32) :
    threeBytes e = [UInt8.ofNat (e.toNat / 65536), UInt8.ofNat (e.toNat / 256), UInt8.ofNat e.toNat] := by
  have hand (x mask k : Nat) : (x &&& mask) >>> k = x >>> k &&& mask >>> k := Nat.shiftRight_and_distrib
  simp only [threeBytes, List.cons.injEq, and_true]
  refine ⟨?_, ?_, ?_⟩
  · rw [← UInt8.toNat_inj, UInt32.toNat_toUInt8, UInt32.toNat_shiftRight, UInt32.toNat_and, UInt8.toNat_ofNat']
    change ((_ &&& _) >>> 16) % _ = _
    rw [hand]
    change (e.toNat >>> 16 &&& (2 ^ 8 - 1)) % _ = _
    rw [Nat.and_two_pow_sub_one_eq_mod, Nat.shiftRight_eq_div_pow]
    omega
  · rw [← UInt8.toNat_inj, UInt32.toNat_toUInt8, UInt32.toNat_shiftRight, UInt32.toNat_and, UInt8.toNat_ofNat']
    change ((_ &&& _) >>> 8) % _ = _
    rw [hand]
    change (e.toNat >>> 8 &&& (2 ^ 8 - 1)) % _ = _
    rw [Nat.and_two_pow_sub_one_eq_mod, Nat.shiftRight_eq_div_pow]
    omega
  · rw [← UInt8.toNat_inj, UInt32.toNat_toUInt8, UInt32.toNat_and, UInt8.toNat_ofNat']
    change (e.toNat &&& (2 ^ 8 - 1)) % _ = _
    rw [Nat.and_two_pow_sub_one_eq_mod]
    omega

end Bytes

section ReadBack

theorem className_of_deserialize [Field K] {pl : Platform} {t : MacCommandType} {bs r : List UInt8}
    {c : MacCommand K} (h : deserialize pl t bs = some (c, r)) : c.className = t := by
  cases t <;> simp only [deserialize, skipCid, linkCheckAns, linkAdrReq, linkAdrAns, dutyCycleReq, rxParamSetupReq,
    rxParamSetupAns, devStatusAns, newChannelReq, newChannelAns, rxTimingSetupReq] at h <;>
    first | (split at h <;> cases h <;> rfl) | cases h

def Fits [Field K] (pl : Platform) : MacCommand K → Prop
  | .linkAdrReq dataRate txPower _ chMaskCntl nbRep =>
      dataRate < 16 ∧ txPower < 16 ∧ chMaskCntl < 16 ∧ nbRep < 16
  | .rxParamSetupReq rx1DrOffset rx2DataRate frequency =>
      rx1DrOffset < 8 ∧ rx2DataRate < 16 ∧ ∃ n : Nat, n < 2 ^ 24 ∧ frequency = n * 100
  | .devStatusAns _ margin => margin < 64
  | .newChannelReq _ frequency minDataRate maxDataRate =>
      (∃ n : Nat, n < 2 ^ 24 ∧ frequency = n * 100 ∧
        (pl.readU16 (UInt8.ofNat (n / 65536), UInt8.ofNat (n / 256))).toNat = n / 256) ∧
      minDataRate < 16 ∧ maxDataRate < 16
  | .rxTimingSetupReq delay => delay < 16
  | _ => True

/-- Uplink (`true`) or downlink; none where the CID set does not name the class. -/
def MacCommandType.direction : MacCommandType → Option Bool
  | .linkCheckReq | .linkAdrAns | .dutyCycleAns | .rxParamSetupAns | .devStatusAns | .newChannelAns =>
      some true
  | .linkCheckAns | .linkAdrReq | .dutyCycleReq | .rxParamSetupReq | .devStatusReq | .newChannelReq
  | .rxTimingSetupReq => some false
  | _ => none

theorem created_iff (isUplink : Bool) (t : MacCommandType) :
    created isUplink (getCIDFromMacCommand t.set) = some t ↔ t.direction = some isUplink := by
  cases t <;> cases isUplink <;> decide

variable [Field K] [LinearOrder K] [FloorRing K]

theorem toNat_encodedFrequency [IsStrictOrderedRing K] (pl : Platform) {n : Nat} (h : n < 2 ^ 24) :
    (encodedFrequency pl ((n : K) * 100)).toNat = n := by
  have hdiv : ((n : K) * 100) / 100 = n := mul_div_cancel_right₀ _ (by norm_num)
  have hneg : (-1 : K) < n := lt_of_lt_of_le (by norm_num) (Nat.cast_nonneg n)
  have hlt : (n : K) < 2 ^ 32 := by
    have : n < 2 ^ 32 := h.trans (by decide)
    exact_mod_cast this
  rw [encodedFrequency, hdiv, toUint32, if_pos ⟨hneg, hlt⟩, Int.floor_natCast, Int.toNat_natCast,
    UInt32.toNat_ofNat']
  omega

theorem bytes_iff [IsStrictOrderedRing K] (pl : Platform) (f : K) :
    (((UInt8.ofNat ((encodedFrequency pl f).toNat / 65536)).toUInt32 <<< 16 |||
        (UInt8.ofNat ((encodedFrequency pl f).toNat / 256)).toUInt32 <<< 8 |||
        (UInt8.ofNat (encodedFrequency pl f).toNat).toUInt32).toNat : K) * 100 = f ↔
      ∃ n : Nat, n < 2 ^ 24 ∧ f = n * 100 := by
  rw [toNat_fromBytes, UInt8.toNat_ofNat', UInt8.toNat_ofNat', UInt8.toNat_ofNat']
  constructor
  · exact fun h => ⟨_, by omega, h.symm⟩
  · rintro ⟨n, hn, rfl⟩
    rw [toNat_encodedFrequency pl hn]
    have hsplit : n / 65536 % 2 ^ 8 * 65536 + n / 256 % 2 ^ 8 * 256 + n % 2 ^ 8 = n := by omega
    rw [hsplit]

theorem encoded_of_word [IsStrictOrderedRing K] (pl : Platform) {f : K} {w : UInt16} {b : UInt8}
    (h : ((w.toNat * 256 + b.toNat : Nat) : K) * 100 = f) :
    (encodedFrequency pl f).toNat = w.toNat * 256 + b.toNat ∧ w.toNat * 256 + b.toNat < 2 ^ 24 := by
  have hw := w.toNat_lt
  have hb := b.toNat_lt
  have hlt : w.toNat * 256 + b.toNat < 2 ^ 24 := by omega
  exact ⟨h ▸ toNat_encodedFrequency pl hlt, hlt⟩

theorem word_iff [IsStrictOrderedRing K] (pl : Platform) (f : K) :
    (((pl.readU16 (UInt8.ofNat ((encodedFrequency pl f).toNat / 65536),
        UInt8.ofNat ((encodedFrequency pl f).toNat / 256))).toUInt32 <<< 8 |||
        (UInt8.ofNat (encodedFrequency pl f).toNat).toUInt32).toNat : K) * 100 = f ↔
      ∃ n : Nat, n < 2 ^ 24 ∧ f = n * 100 ∧
        (pl.readU16 (UInt8.ofNat (n / 65536), UInt8.ofNat (n / 256))).toNat = n / 256 := by
  rw [toNat_fromWord]
  constructor
  · intro h
    obtain ⟨hn, hlt⟩ := encoded_of_word pl h
    refine ⟨_, hlt, h.symm, ?_⟩
    rw [← hn]
    rw [UInt8.toNat_ofNat'] at hn
    omega
  · rintro ⟨n, hn, rfl, hword⟩
    rw [toNat_encodedFrequency pl hn, hword, UInt8.toNat_ofNat']
    have hsplit : n / 256 * 256 + n % 2 ^ 8 = n := by omega
    rw [hsplit]

omit [LinearOrder K] [FloorRing K] [Field K] in
theorem read_iff {c c' : MacCommand K} {rest r : List UInt8} :
    some (c', rest) = some (c, r) ↔ c' = c ∧ r = rest := by
  rw [Option.some.injEq, Prod.mk.injEq, eq_comm (a := rest)]

/-- A class reads back what it wrote exactly when the fields had room for it. -/
theorem deserialize_serialize_iff [IsStrictOrderedRing K] (pl : Platform) (c : MacCommand K)
    (rest r : List UInt8) :
    deserialize pl c.className (c.serialize pl ++ rest) = some (c, r) ↔ Fits pl c ∧ r = rest := by
  cases c with
  | linkAdrReq dataRate txPower channelMask chMaskCntl nbRep =>
      refine read_iff.trans (and_congr_left' ?_)
      rw [MacCommand.linkAdrReq.injEq, nibbles_high_iff, nibbles_low_iff, nibbles_high_iff, nibbles_low_iff,
        pl.readU16_writeU16, eq_self_iff_true, true_and]
      rfl
  | rxParamSetupReq rx1DrOffset rx2DataRate frequency =>
      rw [MacCommand.serialize, MacCommand.fields, threeBytes_eq]
      refine read_iff.trans (and_congr_left' ?_)
      rw [MacCommand.rxParamSetupReq.injEq, offset_iff, nibbles_low_iff, bytes_iff]
      rfl
  | newChannelReq chIndex frequency minDataRate maxDataRate =>
      rw [MacCommand.serialize, MacCommand.fields, threeBytes_eq]
      refine read_iff.trans (and_congr_left' ?_)
      rw [MacCommand.newChannelReq.injEq, nibbles_high_iff, nibbles_low_iff, word_iff, eq_self_iff_true,
        true_and]
      rfl
  | devStatusAns battery margin =>
      refine read_iff.trans (and_congr_left' ?_)
      rw [MacCommand.devStatusAns.injEq, eq_self_iff_true, true_and]
      exact and_mask_iff 6 rfl rfl
  | rxTimingSetupReq delay =>
      refine read_iff.trans (and_congr_left' ?_)
      rw [MacCommand.rxTimingSetupReq.injEq]
      rw [UInt8.and_assoc, UInt8.and_self]
      exact and_mask_iff 4 rfl rfl
  | linkAdrAns a b c | rxParamSetupAns a b c =>
      refine read_iff.trans (and_congr_left' (iff_of_true ?_ trivial))
      cases a <;> cases b <;> cases c <;> rfl
  | newChannelAns a b =>
      refine read_iff.trans (and_congr_left' (iff_of_true ?_ trivial))
      cases a <;> cases b <;> rfl
  | _ => exact read_iff.trans (and_congr_left' (iff_of_true rfl trivial))

def Faithful (pl : Platform) (isUplink : Bool) (c : MacCommand K) : Prop :=
  c.className.direction = some isUplink ∧ Fits pl c

theorem meet_serialize_iff [IsStrictOrderedRing K] (pl : Platform) (isUplink : Bool) (c : MacCommand K)
    (rest r : List UInt8) :
    meet pl isUplink (c.serialize pl ++ rest) = .record c r ↔ Faithful pl isUplink c ∧ r = rest := by
  have hcreated := created_iff isUplink c.className
  have hread := deserialize_serialize_iff pl c rest r
  rw [MacCommand.serialize, List.cons_append, MacCommand.commandType] at hread ⊢
  rw [meet]
  constructor
  · intro h
    split at h
    · cases h
    · next t ht =>
        split at h
        · cases h
        · next command rest' hcommand =>
            cases h
            obtain rfl := className_of_deserialize hcommand
            obtain ⟨hfits, hrest⟩ := hread.mp hcommand
            exact ⟨⟨hcreated.mp ht, hfits⟩, hrest⟩
  · rintro ⟨⟨hdirection, hfits⟩, hrest⟩
    rw [hcreated.mpr hdirection]
    dsimp only
    rw [hread.mpr ⟨hfits, hrest⟩]

theorem length_serialize (pl : Platform) (c : MacCommand K) : (c.serialize pl).length = c.serializedSize := by
  cases c <;> rfl

omit [Field K] [LinearOrder K] [FloorRing K] in
theorem serializedSize_bounds (c : MacCommand K) : 0 < c.serializedSize ∧ c.serializedSize ≤ 6 := by
  cases c <;> simp [MacCommand.serializedSize]

theorem created_eq_none_iff (isUplink : Bool) (cid : UInt8) :
    created isUplink cid = none ↔ cid < 2 ∨ (if isUplink then 10 else 9) < cid := by
  have h2 : (2 : UInt8).toNat = 2 := rfl
  have h9 : (9 : UInt8).toNat = 9 := rfl
  have h10 : (10 : UInt8).toNat = 10 := rfl
  cases isUplink with
  | true =>
      rw [created, if_pos rfl, if_pos rfl, UInt8.lt_iff_toNat_lt, UInt8.lt_iff_toNat_lt, h2, h10]
      split <;> simp only [reduceCtorEq, false_iff, true_iff] <;> grind
  | false =>
      rw [created, if_neg Bool.false_ne_true, if_neg Bool.false_ne_true, UInt8.lt_iff_toNat_lt,
        UInt8.lt_iff_toNat_lt, h2, h9]
      split <;> simp only [reduceCtorEq, false_iff, true_iff] <;> grind

omit [LinearOrder K] [FloorRing K] in
theorem meet_unknown_iff (pl : Platform) (isUplink : Bool) (bs : List UInt8) :
    meet (K := K) pl isUplink bs = .unknown ↔
      ∃ cid rest, bs = cid :: rest ∧ (cid < 2 ∨ (if isUplink then 10 else 9) < cid) := by
  constructor
  · intro h
    cases bs with
    | nil => cases h
    | cons cid rest =>
        refine ⟨cid, rest, rfl, (created_eq_none_iff isUplink cid).mp ?_⟩
        rw [meet] at h
        split at h
        · next hnone => exact hnone
        · split at h <;> cases h
  · rintro ⟨cid, rest, rfl, hcid⟩
    rw [meet, (created_eq_none_iff isUplink cid).mpr hcid]

end ReadBack

end UavMonitoring.MacCommands
