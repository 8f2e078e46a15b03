import UavMonitoring.DeviceAddress
import UavMonitoring.MacCommands

namespace UavMonitoring.FrameHeader

open Basics Bytes DeviceAddress MacCommands RecordStream

variable {K : Type}

inductive MType
  | joinRequest
  | joinAccept
  | unconfirmedDataUp
  | unconfirmedDataDown
  | confirmedDataUp
  | confirmedDataDown
  | proprietary
deriving DecidableEq

def MType.code : MType → UInt8
  | .joinRequest => 0
  | .joinAccept => 1
  | .unconfirmedDataUp => 2
  | .unconfirmedDataDown => 3
  | .confirmedDataUp => 4
  | .confirmedDataDown => 5
  | .proprietary => 7

structure LoraMacHeader where
  mType : UInt8
  major : UInt8
deriving DecidableEq

namespace LoraMacHeader

def serialize (h : LoraMacHeader) : UInt8 := h.mType <<< 5 ||| h.major

def deserialize (byte : UInt8) : LoraMacHeader := ⟨byte >>> 5, byte &&& 0b11⟩

def isUplink (h : LoraMacHeader) : Bool :=
  h.mType = MType.joinRequest.code ∨ h.mType = MType.unconfirmedDataUp.code ∨
    h.mType = MType.confirmedDataUp.code

end LoraMacHeader

@[ext] structure LoraFrameHeader (K : Type) where
  fPort : UInt8
  address : LoraDeviceAddress
  adr : Bool
  adrAckReq : Bool
  ack : Bool
  fPending : Bool
  fOptsLen : UInt8
  fCnt : UInt16
  macCommands : List (MacCommand K)
  isUplink : Bool
deriving DecidableEq

def optsLen (commands : List (MacCommand K)) : Nat := (commands.map MacCommand.serializedSize).sum

def LoraFrameHeader.addCommand (h : LoraFrameHeader K) (command : MacCommand K) : LoraFrameHeader K :=
  { h with
    macCommands := h.macCommands ++ [command]
    fOptsLen := h.fOptsLen + UInt8.ofNat command.serializedSize }

def fCtrl (adr adrAckReq ack fPending : Bool) (fOptsLen : UInt8) : UInt8 :=
  let flag (bit : Bool) (shift mask : UInt8) : UInt8 := bit.toUInt8 <<< shift &&& mask
  flag adr 6 0b1000000 ||| flag adrAckReq 5 0b100000 ||| flag ack 4 0b10000 ||| flag fPending 3 0b1000 |||
    fOptsLen &&& 0b111

variable [Field K] (pl : Platform)

def LoraFrameHeader.serialize [LinearOrder K] [FloorRing K] (h : LoraFrameHeader K) : List UInt8 :=
  let (a₀, a₁, a₂, a₃) := pl.writeU32 h.address.get
  let (c₀, c₁) := pl.writeU16 h.fCnt
  a₀ :: a₁ :: a₂ :: a₃ :: fCtrl h.adr h.adrAckReq h.ack h.fPending h.fOptsLen :: c₀ :: c₁ ::
    (h.macCommands.flatMap (MacCommand.serialize pl) ++ [h.fPort])

def LoraFrameHeader.getSerializedSize (h : LoraFrameHeader K) : Nat := 8 + h.fOptsLen.toNat

/-- `none` if it never ends, `some none` if it runs past the end of the buffer.
The size it returns is the announced one, wherever it stopped to read. -/
def deserialize (isUplink : Bool) : List UInt8 → Option (Option (LoraFrameHeader K × Nat))
  | a₀ :: a₁ :: a₂ :: a₃ :: fCtl :: c₀ :: c₁ :: rest =>
      let fOptsLen := fCtl &&& 0b111
      match readAll (meet pl isUplink) MacCommand.serializedSize fOptsLen.toNat rest with
      | none => none
      | some (some (macCommands, fPort :: _)) =>
          some (some ({
            fPort := fPort
            address := .set (pl.readU32 (a₀, a₁, a₂, a₃))
            adr := fCtl >>> 6 &&& 0b1 != 0
            adrAckReq := fCtl >>> 5 &&& 0b1 != 0
            ack := fCtl >>> 4 &&& 0b1 != 0
            fPending := fCtl >>> 3 &&& 0b1 != 0
            fOptsLen := fOptsLen
            fCnt := pl.readU16 (c₀, c₁)
            macCommands := macCommands
            isUplink := isUplink }, 8 + fOptsLen.toNat))
      | some _ => some none
  | _ => some none

def addHeader [LinearOrder K] [FloorRing K] (h : LoraFrameHeader K) (payload : List UInt8) :
    Option (List UInt8) :=
  if (h.serialize pl).length = h.getSerializedSize then some (h.serialize pl ++ payload) else none

/-- `Packet::RemoveHeader` takes off as much as the header says it has read. -/
def removeHeader (isUplink : Bool) (packet : List UInt8) :
    Option (Option (LoraFrameHeader K × List UInt8)) :=
  (deserialize pl isUplink packet).map fun read => read.map fun r => (r.1, packet.drop r.2)

/-- The length of the options is what `AddCommand` counts, modulo `2 ^ 8`. -/
def Counted (h : LoraFrameHeader K) : Prop := h.fOptsLen = UInt8.ofNat (optsLen h.macCommands)

instance (h : LoraFrameHeader K) : Decidable (Counted h) := inferInstanceAs (Decidable (_ = _))

omit [Field K] in
theorem counted_addCommand {h : LoraFrameHeader K} (hc : Counted h) (command : MacCommand K) :
    Counted (h.addCommand command) := by
  rw [Counted] at hc ⊢
  simp [LoraFrameHeader.addCommand, hc, optsLen, UInt8.ofNat_add]

section RoundTrip

theorem fCtrl_fields (adr adrAckReq ack fPending : Bool) (fOptsLen : UInt8) :
    let fCtl := fCtrl adr adrAckReq ack fPending fOptsLen
    (fCtl >>> 6 &&& 0b1 != 0) = adr ∧ (fCtl >>> 5 &&& 0b1 != 0) = adrAckReq ∧
      (fCtl >>> 4 &&& 0b1 != 0) = ack ∧ (fCtl >>> 3 &&& 0b1 != 0) = fPending ∧
      fCtl &&& 0b111 = fOptsLen &&& 0b111 := by
  have hall : ∀ n < 8, ∀ a b c d : Bool,
      let fCtl := fCtrl a b c d (UInt8.ofNat n)
      (fCtl >>> 6 &&& 0b1 != 0) = a ∧ (fCtl >>> 5 &&& 0b1 != 0) = b ∧ (fCtl >>> 4 &&& 0b1 != 0) = c ∧
        (fCtl >>> 3 &&& 0b1 != 0) = d ∧ fCtl &&& 0b111 = UInt8.ofNat n := by decide
  have hlen : (fOptsLen &&& 0b111).toNat = fOptsLen.toNat % 8 := toNat_and_mask 3 rfl
  have hmask : fCtrl adr adrAckReq ack fPending fOptsLen =
      fCtrl adr adrAckReq ack fPending (UInt8.ofNat (fOptsLen.toNat % 8)) := by
    rw [← hlen, UInt8.ofNat_toNat, fCtrl, fCtrl, UInt8.and_assoc, UInt8.and_self]
  have h := hall (fOptsLen.toNat % 8) (Nat.mod_lt _ (by decide)) adr adrAckReq ack fPending
  rw [← hmask, ← hlen, UInt8.ofNat_toNat] at h
  exact h

variable [LinearOrder K] [FloorRing K]

theorem deserialize_serialize (h : LoraFrameHeader K) (isUplink : Bool) (payload : List UInt8) :
    deserialize pl isUplink (h.serialize pl ++ payload) =
      match readAll (meet (K := K) pl isUplink) MacCommand.serializedSize (h.fOptsLen &&& 0b111).toNat
        (h.macCommands.flatMap (MacCommand.serialize pl) ++ h.fPort :: payload) with
      | none => none
      | some (some (macCommands, fPort :: _)) =>
          some (some ({ h with
            fPort := fPort
            fOptsLen := h.fOptsLen &&& 0b111
            macCommands := macCommands
            isUplink := isUplink }, 8 + (h.fOptsLen &&& 0b111).toNat))
      | some _ => some none := by
  obtain ⟨hadr, hadrAckReq, hack, hfPending, hlen⟩ :=
    fCtrl_fields h.adr h.adrAckReq h.ack h.fPending h.fOptsLen
  have haddress : LoraDeviceAddress.set (pl.readU32 (pl.writeU32 h.address.get)) = h.address := by
    rw [pl.readU32_writeU32, LoraDeviceAddress.set_get]
  have hfCnt := pl.readU16_writeU16 h.fCnt
  rw [LoraFrameHeader.serialize]
  dsimp only [List.cons_append]
  rw [deserialize, hlen, hadr, hadrAckReq, hack, hfPending, haddress, hfCnt, List.append_assoc]
  rfl

variable {pl}

omit [Field K] [LinearOrder K] [FloorRing K] in
theorem toNat_len_of_short {h : LoraFrameHeader K} (hc : Counted h) (hsize : optsLen h.macCommands < 8) :
    h.fOptsLen.toNat = optsLen h.macCommands ∧ h.fOptsLen &&& 0b111 = h.fOptsLen := by
  have hlen : h.fOptsLen.toNat = optsLen h.macCommands := by
    rw [hc, UInt8.toNat_ofNat']
    omega
  have h8 : (8 : UInt8).toNat = 8 := rfl
  have hmask : h.fOptsLen &&& 0b111 = h.fOptsLen ↔ h.fOptsLen < 8 := and_mask_iff 3 rfl rfl
  refine ⟨hlen, hmask.mpr ?_⟩
  rw [UInt8.lt_iff_toNat_lt, hlen, h8]
  exact hsize

omit [Field K] [LinearOrder K] [FloorRing K] in
theorem size_lt_of_last {h : LoraFrameHeader K} (hc : Counted h) (hmask : h.fOptsLen &&& 0b111 = h.fOptsLen)
    (hlast : ∀ init c, h.macCommands = init ++ [c] → optsLen init < h.fOptsLen.toNat) :
    optsLen h.macCommands < 8 := by
  have hlen : h.fOptsLen.toNat = optsLen h.macCommands % 2 ^ 8 := by
    rw [hc, UInt8.toNat_ofNat']
  have hlt : h.fOptsLen.toNat < 8 := by
    rw [← hmask, toNat_and_mask 3 rfl]
    exact Nat.mod_lt _ (by decide)
  rcases List.eq_nil_or_concat h.macCommands with hnil | ⟨init, c, hcat⟩
  · rw [hnil]
    exact Nat.zero_lt_succ 7
  · rw [List.concat_eq_append] at hcat
    have hinit := hlast init c hcat
    have hc6 := (serializedSize_bounds c).2
    have hsum : optsLen h.macCommands = optsLen init + c.serializedSize := by
      rw [hcat, optsLen, optsLen, List.map_append, List.sum_append, List.map_singleton, List.sum_singleton]
    omega

variable [IsStrictOrderedRing K]

theorem readAll_of_faithful {h : LoraFrameHeader K} (hc : Counted h) (hsize : optsLen h.macCommands < 8)
    (hfaithful : ∀ c ∈ h.macCommands, Faithful pl h.isUplink c) (rest : List UInt8) :
    readAll (meet pl h.isUplink) MacCommand.serializedSize (h.fOptsLen &&& 0b111).toNat
      (h.macCommands.flatMap (MacCommand.serialize pl) ++ rest) = some (some (h.macCommands, rest)) := by
  obtain ⟨hlen, hmask⟩ := toNat_len_of_short hc hsize
  rw [readAll_eq_some_iff fun _ c _ _ => (serializedSize_bounds c).1, hmask, hlen]
  refine loop_of_written h.macCommands rest (fun c hmem rest => ?_)
    (fun c _ => (serializedSize_bounds c).1) (Nat.zero_add _) []
  exact (meet_serialize_iff pl h.isUplink c rest rest).mpr ⟨hfaithful c hmem, rfl⟩

omit [IsStrictOrderedRing K] in
theorem length_header (h : LoraFrameHeader K) : (h.serialize pl).length = 8 + optsLen h.macCommands := by
  have hcommands : (h.macCommands.flatMap (MacCommand.serialize pl)).length = optsLen h.macCommands := by
    rw [List.length_flatMap, optsLen]
    exact congrArg List.sum (List.map_congr_left fun c _ => length_serialize pl c)
  rw [LoraFrameHeader.serialize]
  simp only [List.length_cons, List.length_append, hcommands, List.length_nil]
  omega

omit [IsStrictOrderedRing K] in
theorem addHeader_eq_none_iff {h : LoraFrameHeader K} (hc : Counted h) (payload : List UInt8) :
    addHeader pl h payload = none ↔ 256 ≤ optsLen h.macCommands := by
  have hlen : h.fOptsLen.toNat = optsLen h.macCommands % 2 ^ 8 := by rw [hc, UInt8.toNat_ofNat']
  rw [addHeader, length_header, LoraFrameHeader.getSerializedSize, hlen]
  split
  · next heq => exact iff_of_false (by simp) (by omega)
  · next hne => exact iff_of_true rfl (by omega)

omit [IsStrictOrderedRing K] in
theorem addHeader_eq_of_short {h : LoraFrameHeader K} (hc : Counted h) (hsize : optsLen h.macCommands < 8)
    (payload : List UInt8) : addHeader pl h payload = some (h.serialize pl ++ payload) := by
  rw [addHeader, length_header, LoraFrameHeader.getSerializedSize, (toNat_len_of_short hc hsize).1, if_pos rfl]

theorem removeHeader_of_faithful {h : LoraFrameHeader K} (hc : Counted h) (hsize : optsLen h.macCommands < 8)
    (hfaithful : ∀ c ∈ h.macCommands, Faithful pl h.isUplink c) (payload : List UInt8) :
    removeHeader pl h.isUplink (h.serialize pl ++ payload) = some (some (h, payload)) := by
  obtain ⟨hlen, hmask⟩ := toNat_len_of_short hc hsize
  rw [removeHeader, deserialize_serialize, readAll_of_faithful hc hsize hfaithful]
  dsimp only [Option.map_some]
  rw [hmask, hlen, ← length_header, List.drop_left]

theorem faithful_of_deserialize {h h' : LoraFrameHeader K} {n : Nat} (hc : Counted h) {payload : List UInt8}
    (hback : deserialize pl h.isUplink (h.serialize pl ++ payload) = some (some (h', n)))
    (hsame : h' = h) : optsLen h.macCommands < 8 ∧ ∀ c ∈ h.macCommands, Faithful pl h.isUplink c := by
  rw [deserialize_serialize] at hback
  split at hback
  · cases hback
  · next commands fPort rest hread =>
      simp only [Option.some.injEq, Prod.mk.injEq, hsame, LoraFrameHeader.ext_iff] at hback
      obtain ⟨⟨_, _, _, _, _, _, hmask, _, rfl, _⟩, _⟩ := hback
      rw [readAll_eq_some_iff fun _ c _ _ => (serializedSize_bounds c).1] at hread
      obtain ⟨fuel, hloop⟩ := hread
      obtain ⟨hfaithful, _, _, hlast⟩ := written_of_loop (P := Faithful pl h.isUplink)
        (fun c rest r hmeet => (meet_serialize_iff pl h.isUplink c rest r).mp hmeet) h.macCommands hloop
      refine ⟨size_lt_of_last hc hmask fun init c hcat => ?_, hfaithful⟩
      have hinit := hlast init c hcat
      rwa [hmask, Nat.zero_add] at hinit
  · cases hback

/-- A frame header comes back as it was sent exactly when its commands take
less than eight bytes, are all of its direction and fit into their fields. -/
theorem round_trip_iff {h : LoraFrameHeader K} (hc : Counted h) (payload : List UInt8) :
    (∃ packet, addHeader pl h payload = some packet ∧
        removeHeader pl h.isUplink packet = some (some (h, payload))) ↔
      optsLen h.macCommands < 8 ∧ ∀ c ∈ h.macCommands, Faithful pl h.isUplink c := by
  constructor
  · rintro ⟨packet, hadd, hback⟩
    rw [addHeader] at hadd
    split at hadd
    · cases hadd
      obtain ⟨read, hread, hmap⟩ := Option.map_eq_some_iff.mp hback
      obtain ⟨⟨h', n⟩, rfl, hpair⟩ := Option.map_eq_some_iff.mp hmap
      exact faithful_of_deserialize hc hread (congrArg Prod.fst hpair)
    · cases hadd
  · rintro ⟨hsize, hfaithful⟩
    exact ⟨_, addHeader_eq_of_short hc hsize payload, removeHeader_of_faithful hc hsize hfaithful payload⟩

def linkChecked : LoraFrameHeader ℚ :=
  LoraFrameHeader.addCommand
    { fPort := 1, address := .set 2066, adr := false, adrAckReq := false, ack := true, fPending := true
      fOptsLen := 0, fCnt := 1, macCommands := [], isUplink := false }
    (.linkCheckAns 10 1)

theorem round_trip_iff_linkChecked :
    ∃ packet, addHeader littleEndian linkChecked [42] = some packet ∧
      removeHeader littleEndian false packet = some (some (linkChecked, [42])) := by
  have hcounted : Counted linkChecked := by decide
  refine (round_trip_iff hcounted [42]).mpr ⟨by decide, fun c hc => ?_⟩
  obtain rfl : c = .linkCheckAns 10 1 := List.mem_singleton.mp hc
  exact ⟨rfl, trivial⟩

end RoundTrip

section Endless

/-- The reader stays for ever at a byte within the options that is no CID of
the direction, and at nothing else, whatever it is given to read. -/
theorem endless_iff (isUplink : Bool) (bytes : List UInt8) :
    deserialize (K := K) pl isUplink bytes = none ↔
      ∃ header fCtl fCnt options cid n rest, bytes = header ++ fCtl :: fCnt ++ options ∧
        header.length = 4 ∧ fCnt.length = 2 ∧
        Comes (meet (K := K) pl isUplink) MacCommand.serializedSize (fCtl &&& 0b111).toNat n options
          (cid :: rest) ∧
        n < (fCtl &&& 0b111).toNat ∧ (cid < 2 ∨ (if isUplink then 10 else 9) < cid) := by
  have hstalls (len : Nat) (options : List UInt8) :
      readAll (meet (K := K) pl isUplink) MacCommand.serializedSize len options = none ↔
        ∃ cid n rest, Comes (meet (K := K) pl isUplink) MacCommand.serializedSize len n options
          (cid :: rest) ∧ n < len ∧ (cid < 2 ∨ (if isUplink then 10 else 9) < cid) := by
    rw [readAll_eq_none_iff fun _ c _ _ => (serializedSize_bounds c).1]
    constructor
    · rintro ⟨n, rest, hcomes, hlt, hmeet⟩
      obtain ⟨cid, rest, rfl, hcid⟩ := (meet_unknown_iff pl isUplink rest).mp hmeet
      exact ⟨cid, n, rest, hcomes, hlt, hcid⟩
    · rintro ⟨cid, n, rest, hcomes, hlt, hcid⟩
      exact ⟨n, _, hcomes, hlt, (meet_unknown_iff pl isUplink _).mpr ⟨cid, rest, rfl, hcid⟩⟩
  constructor
  · intro h
    rw [deserialize.eq_def] at h
    split at h
    · next a₀ a₁ a₂ a₃ fCtl c₀ c₁ options =>
        dsimp only at h
        split at h
        · next hread =>
            obtain ⟨cid, n, rest, hcomes⟩ := (hstalls _ _).mp hread
            exact ⟨[a₀, a₁, a₂, a₃], fCtl, [c₀, c₁], options, cid, n, rest, rfl, rfl, rfl, hcomes⟩
        · cases h
        · cases h
    · cases h
  · rintro ⟨header, fCtl, fCnt, options, cid, n, rest, rfl, hheader, hfCnt, hcomes⟩
    obtain ⟨a₀, a₁, a₂, a₃, rfl⟩ := List.length_eq_four.mp hheader
    obtain ⟨c₀, c₁, rfl⟩ := List.length_eq_two.mp hfCnt
    have hread := (hstalls _ _).mpr ⟨cid, n, rest, hcomes⟩
    simp only [List.cons_append, List.nil_append, deserialize, hread]

end Endless

end UavMonitoring.FrameHeader
