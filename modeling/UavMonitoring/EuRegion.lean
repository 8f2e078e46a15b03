import UavMonitoring.EndDevice
import Mathlib.Data.Rat.Floor

namespace UavMonitoring.EuRegion

open Basics DeviceAddress MacCommands FrameHeader SubBands EndDeviceMac EndDevice Runs

def floorClock : Clock ℚ where
  ofSeconds x := ⌊x * 1000000000⌋
  ofSeconds_zero := by rw [zero_mul, Int.floor_zero]
  lower x := Int.sub_one_lt_floor _
  upper x := (Int.floor_le _).trans_lt (lt_add_one _)

def euRegion : Region ℚ where
  sfForDataRate := [12, 11, 10, 9, 8, 7, 7]
  bandwidthForDataRate := [125000, 125000, 125000, 125000, 125000, 125000, 250000]
  maxAppPayloadForDataRate := [59, 59, 59, 123, 230, 230, 230, 230]
  txDbmForTxPower := [16, 14, 12, 10, 8, 6, 4, 2]
  replyDataRateMatrix :=
    [[0, 0, 0, 0, 0, 0], [1, 0, 0, 0, 0, 0], [2, 1, 0, 0, 0, 0], [3, 2, 1, 0, 0, 0],
      [4, 3, 2, 1, 0, 0], [5, 4, 3, 2, 1, 0], [6, 5, 4, 3, 2, 1], [7, 6, 5, 4, 3, 2]]
  nPreambleSymbols := 8

def euChannelHelper : LogicalLoraChannelHelper ℚ where
  subBandList :=
    [⟨868, 868.6, 0.01, by norm_num, 14, 0⟩, ⟨868.7, 869.2, 0.001, by norm_num, 14, 0⟩,
      ⟨869.4, 869.65, 0.1, by norm_num, 27, 0⟩]
  channelList := [⟨868.1, 0, 5, true⟩, ⟨868.3, 0, 5, true⟩, ⟨868.5, 0, 5, true⟩]
  nextAggregatedTransmissionTime := 0
  aggregatedDutyCycle := 1

def euMac (address : LoraDeviceAddress) : EndDeviceLoraMac ℚ where
  address := address
  mType := .unconfirmedDataUp
  dataRate := 0
  txPower := 14
  rx1DrOffset := 0
  secondReceiveWindowDataRate := 0
  secondReceiveWindowFrequency := 869.525
  lastKnownLinkMargin := 0
  lastKnownGatewayCount := 0
  aggregatedDutyCycle := 1
  channelHelper := euChannelHelper
  macCommandList := []

def euDevice (address : LoraDeviceAddress) : Device ℚ where
  now := 0
  mac := euMac address
  state := .sleep
  frequency := 868.1
  sf := 7
  queue := EventQueue.empty
  closeWindow := none
  secondReceiveWindow := none

def euSetting (platform : Platform) : Setting ℚ where
  clock := floorClock
  platform := platform
  region := euRegion
  sensitivity := [-124, -127, -130, -133, -135, -137]

theorem lt_of_known {dataRate : UInt8} (h : euRegion.knows dataRate = some true) : dataRate.toNat < 7 := by
  obtain ⟨bw, _, hknown⟩ := Option.map_eq_some_iff.mp h
  by_contra hge
  have hsf : euRegion.getSfFromDataRate dataRate = 0 := by
    rw [Region.getSfFromDataRate, List.getElem?_eq_none (Nat.le_of_not_lt hge)]
    rfl
  exact (of_decide_eq_true hknown).1 hsf

theorem complete_eu : euRegion.Complete where
  maxAppPayload dataRate h := (lt_of_known h).trans (by decide)
  replyDataRate dataRate h := by
    have hlt : dataRate.toNat < 8 := (lt_of_known h).trans (by decide)
    have hrow : ∀ i < 8, ∃ row, euRegion.replyDataRateMatrix[i]? = some row ∧ row.length = 6 := by decide
    exact hrow _ hlt

theorem tuned_eu (address : LoraDeviceAddress) : Tuned euRegion (euMac address) where
  dataRate := by
    have hknown : euRegion.knows 0 = some true := by decide +kernel
    exact hknown
  rx1DrOffset := UInt8.zero_le

def address : LoraDeviceAddress := .set 2066

def downlink (command : MacCommand ℚ) : List UInt8 :=
  let frameHdr : LoraFrameHeader ℚ :=
    { fPort := 1, address := address, adr := false, adrAckReq := false, ack := true, fPending := false
      fOptsLen := 0, fCnt := 0, macCommands := [], isUplink := false }
  LoraMacHeader.serialize ⟨MType.unconfirmedDataDown.code, 1⟩ ::
    ((addHeader littleEndian (frameHdr.addCommand command) []).getD [])

def statusRequest : List UInt8 := downlink .devStatusReq

/-- A packet, a status request in the first window after it, and the next packet. -/
def statusRun : List (Time × Event ℚ) :=
  [(0, .send (fun _ => 0) [1, 2, 3]), (991232000, .run 0 false), (991232010, .run 1 false),
    (1991232010, .run 2 false), (2000000000, .startReceive statusRequest (-120) 12 100000000 868.5),
    (2100000000, .run 5 false), (2191232010, .run 4 false), (200000000000, .send (fun _ => 0) [4])]

def statusTransitions : List (Transition (Device ℚ) (Time × Event ℚ) (Option (Uplink ℚ))) :=
  transitions (machine (euSetting littleEndian)) (euDevice address) statusRun

end UavMonitoring.EuRegion
