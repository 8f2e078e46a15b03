import UavMonitoring.GatewayRuns
import Mathlib.Data.List.Sort
import Mathlib.Logic.Function.Basic

namespace UavMonitoring.NetworkServer

open Basics DeviceAddress FrameHeader MacCommands SubBands EndDeviceMac EventQueue Runs Spacing GatewayPhy
open EndDevice (getOnAirTime LoraTxParameters)

variable {K A : Type} [Field K] [LinearOrder K] [DecidableEq A]

structure Reply (K : Type) where
  macHeader : LoraMacHeader
  frameHeader : LoraFrameHeader K
  packet : List UInt8

/-- A device has a reply once one has been set, for good; the frequency is set with it. -/
structure DeviceStatus (K A : Type) where
  reply : Option (Reply K)
  gateways : List (A × K)
  firstReceiveWindowFrequency : Option K

structure GatewayStatus (K : Type) [Field K] [LinearOrder K] where
  nextTransmissionTime : Time
  channelHelper : LogicalLoraChannelHelper K
  phy : GatewayLoraPhy K

inductive Call (K A : Type)
  | sendOnFirstWindow (address : LoraDeviceAddress)
  | sendOnSecondWindow (address : LoraDeviceAddress)
  | deliver (gateway : A) (packet : List UInt8) (dataRate : UInt8) (frequency : K)

structure Windows (K : Type) where
  firstReceiveWindowDataRate : Option UInt8
  secondReceiveWindowDataRate : UInt8
  secondReceiveWindowFrequency : K

/-- `std::sort` by descending power, which leaves open how equal ones are put. -/
structure DescendingSort (K A : Type) [LinearOrder K] where
  sort : List (A × K) → List (A × K)
  perm : ∀ pairs, (sort pairs).Perm pairs
  sorted : ∀ pairs, (sort pairs).Pairwise fun p q => q.2 ≤ p.2

def byInsertion : DescendingSort K A where
  sort pairs := pairs.insertionSort fun p q => q.2 ≤ p.2
  perm pairs := List.perm_insertionSort _ _
  sorted pairs := by
    have : Std.Total fun p q : A × K => q.2 ≤ p.2 := ⟨fun _ _ => le_total _ _⟩
    have : IsTrans (A × K) fun p q => q.2 ≤ p.2 := ⟨fun _ _ _ h h' => h'.trans h⟩
    exact List.pairwise_insertionSort _ _

structure Setting (K A : Type) [Field K] [LinearOrder K] where
  radio : Radio K
  platform : Platform
  region : Region K
  descending : DescendingSort K A

namespace Reply

def acknowledge (address : LoraDeviceAddress) : Reply K where
  macHeader := ⟨MType.unconfirmedDataDown.code, 0⟩
  frameHeader :=
    { fPort := 0, address := address, adr := false, adrAckReq := false, ack := true, fPending := false
      fOptsLen := 0, fCnt := 0, macCommands := [], isUplink := false }
  packet := List.replicate 10 0

end Reply

namespace DeviceStatus

def new : DeviceStatus K A := ⟨none, [], none⟩

def updateGatewayData (gateway : A) (rcvPower : K) (status : DeviceStatus K A) : DeviceStatus K A :=
  { status with gateways := (gateway, rcvPower) :: status.gateways.filter fun pair => pair.1 ≠ gateway }

def getSortedGatewayAddresses (cfg : Setting K A) (status : DeviceStatus K A) : List A :=
  (cfg.descending.sort status.gateways).map Prod.fst

def getReplyPacket [FloorRing K] (pl : Platform) (reply : Reply K) : Option (List UInt8) :=
  (addHeader pl reply.frameHeader reply.packet).map (reply.macHeader.serialize :: ·)

end DeviceStatus

namespace GatewayStatus

def new (channelHelper : LogicalLoraChannelHelper K) (phy : GatewayLoraPhy K) : GatewayStatus K :=
  ⟨0, channelHelper, phy⟩

variable (clock : Clock K) (now : Time)

/-- `none` on a frequency outside all sub-bands of the gateway. -/
def isAvailableForTransmission (frequency : K) (status : GatewayStatus K) : Option Bool :=
  if now - 1000000 < status.nextTransmissionTime then some false
  else if status.phy.isTransmitting then some false
  else (status.channelHelper.getWaitingTime clock now frequency).map fun waitingTime => ¬ 0 < waitingTime

def setNextTransmissionTime (nextTransmissionTime : Time) (status : GatewayStatus K) : GatewayStatus K :=
  { status with nextTransmissionTime := nextTransmissionTime }

/-- `GatewayLoraMac::Send`. -/
def send [FloorRing K] (cfg : Setting K A) (packet : List UInt8) (dataRate : UInt8) (frequency : K)
    (status : GatewayStatus K) : Option (GatewayStatus K × Use Time) := do
  let bandwidthHz ← cfg.region.getBandwidthFromDataRate dataRate
  let params : LoraTxParameters K :=
    { sf := cfg.region.getSfFromDataRate dataRate, headerDisabled := false, codingRate := 1
      bandwidthHz := bandwidthHz, nPreamble := 8, crcEnabled := true, lowDataRateOptimizationEnabled := false }
  let size := UInt32.ofNat packet.length
  let duration := getOnAirTime cfg.radio.clock size params
  let sendingPower ← status.channelHelper.getTxPowerForChannel frequency
  let channelHelper ← status.channelHelper.addEvent cfg.radio.clock now duration frequency
  let phy ← { status.phy with now := now }.send cfg.radio size params frequency sendingPower
  return ({ status with channelHelper := channelHelper, phy := phy }, ⟨now, duration⟩)

end GatewayStatus

def extractHeaders (pl : Platform) : List UInt8 → Option (LoraMacHeader × LoraFrameHeader K)
  | [] => none
  | byte :: framed => (removeHeader pl true framed).join.map fun read => (.deserialize byte, read.1)

structure Network (K A : Type) [Field K] [LinearOrder K] where
  now : Time
  deviceStatuses : LoraDeviceAddress → Option (DeviceStatus K A)
  gatewayStatuses : A → Option (GatewayStatus K)
  queue : Queue (Time × Call K A)

/-- What comes of a step: the server replies to a device through a gateway or
gives up, or a gateway goes on the air. -/
inductive Outcome (K A : Type)
  | replied (address : LoraDeviceAddress) (gateway : A)
  | gaveUp (address : LoraDeviceAddress)
  | transmitted (gateway : A) (packet : List UInt8) (frequency : K) (use : Use Time)
deriving DecidableEq

namespace Network

def schedule (delay : Time) (call : Call K A) (n : Network K A) : Network K A :=
  { n with queue := EventQueue.schedule (n.now + delay, call) n.queue }

def setDevice (address : LoraDeviceAddress) (status : DeviceStatus K A) (n : Network K A) : Network K A :=
  { n with deviceStatuses := Function.update n.deviceStatuses address (some status) }

def setGateway (gateway : A) (status : GatewayStatus K) (n : Network K A) : Network K A :=
  { n with gatewayStatuses := Function.update n.gatewayStatuses gateway (some status) }

omit [DecidableEq A] in
theorem deviceStatuses_setDevice (address other : LoraDeviceAddress) (status : DeviceStatus K A)
    (n : Network K A) :
    (n.setDevice address status).deviceStatuses other =
      if other = address then some status else n.deviceStatuses other :=
  Function.update_apply _ _ _ _

theorem gatewayStatuses_setGateway (gateway other : A) (status : GatewayStatus K) (n : Network K A) :
    (n.setGateway gateway status).gatewayStatuses other =
      if other = gateway then some status else n.gatewayStatuses other :=
  Function.update_apply _ _ _ _

def addGateway (gateway : A) (channelHelper : LogicalLoraChannelHelper K) (phy : GatewayLoraPhy K)
    (n : Network K A) : Network K A :=
  match n.gatewayStatuses gateway with
  | some _ => n
  | none => n.setGateway gateway (.new channelHelper phy)

def addNode (address : LoraDeviceAddress) (n : Network K A) : Network K A :=
  match n.deviceStatuses address with
  | some _ => n
  | none => n.setDevice address .new

/-- `NetworkServerHelper::Install`, with gateways that nothing has come to yet. -/
def install (gateways : List (A × LogicalLoraChannelHelper K × List K)) (endDevices : List LoraDeviceAddress) :
    Network K A :=
  endDevices.foldl (fun n address => n.addNode address) (gateways.foldl
    (fun n (gateway, channelHelper, frequencies) =>
      n.addGateway gateway channelHelper (GatewayRuns.newGateway frequencies))
    ⟨0, fun _ => none, fun _ => none, EventQueue.empty⟩)

variable (cfg : Setting K A)

/-- `Receive`: `none` if the packet has no headers to remove, or comes from a device that
the server does not know. -/
def receive (gateway : A) (packet : List UInt8) (rcvPower frequency : K) (n : Network K A) :
    Option (Network K A) := do
  let (macHdr, frameHdr) : LoraMacHeader × LoraFrameHeader K ← extractHeaders cfg.platform packet
  let status ← (n.deviceStatuses frameHdr.address).map (DeviceStatus.updateGatewayData gateway rcvPower)
  if macHdr.mType = MType.confirmedDataUp.code ∧ status.reply.isNone then
    let status := { status with
      reply := some (.acknowledge frameHdr.address), firstReceiveWindowFrequency := some frequency }
    return (n.setDevice frameHdr.address status).schedule (seconds 1) (.sendOnFirstWindow frameHdr.address)
  else return n.setDevice frameHdr.address status

def firstAvailable (frequency : K) (n : Network K A) : List A → Option (Option (A × GatewayStatus K))
  | [] => some none
  | gateway :: gateways =>
      match n.gatewayStatuses gateway with
      | none => none
      | some status =>
          match status.isAvailableForTransmission cfg.radio.clock n.now frequency with
          | none => none
          | some true => some (some (gateway, status))
          | some false => firstAvailable frequency n gateways

/-- A window of a device: a gateway is booked and the reply is on its way to it, which takes
`delay`, or no gateway is available. -/
def sendOnWindow [FloorRing K] (address : LoraDeviceAddress) (frequency : K) (dataRate : Option UInt8)
    (delay : Time) (n : Network K A) : Option (Option (A × Network K A)) := do
  let status ← n.deviceStatuses address
  match ← n.firstAvailable cfg frequency (status.getSortedGatewayAddresses cfg) with
  | none => return none
  | some (gateway, booked) =>
      let reply ← status.reply
      let replyPacket ← DeviceStatus.getReplyPacket cfg.platform reply
      let dataRate ← dataRate
      let n := n.setGateway gateway (booked.setNextTransmissionTime n.now)
      return some (gateway, n.schedule delay (.deliver gateway replyPacket dataRate frequency))

def sendOnFirstWindow [FloorRing K] (windows : Windows K) (delay : Time) (address : LoraDeviceAddress)
    (n : Network K A) : Option (Network K A × Option (Outcome K A)) := do
  let status ← n.deviceStatuses address
  let frequency ← status.firstReceiveWindowFrequency
  match ← n.sendOnWindow cfg address frequency windows.firstReceiveWindowDataRate delay with
  | some (gateway, n) => return (n, some (.replied address gateway))
  | none => return (n.schedule (seconds 1) (.sendOnSecondWindow address), none)

def sendOnSecondWindow [FloorRing K] (windows : Windows K) (delay : Time) (address : LoraDeviceAddress)
    (n : Network K A) : Option (Network K A × Option (Outcome K A)) := do
  match ← n.sendOnWindow cfg address windows.secondReceiveWindowFrequency
      (some windows.secondReceiveWindowDataRate) delay with
  | some (gateway, n) => return (n, some (.replied address gateway))
  | none => return (n, some (.gaveUp address))

def deliver [FloorRing K] (gateway : A) (packet : List UInt8) (dataRate : UInt8) (frequency : K)
    (n : Network K A) : Option (Network K A × Option (Outcome K A)) := do
  let status ← n.gatewayStatuses gateway
  let (status, use) ← status.send n.now cfg packet dataRate frequency
  return (n.setGateway gateway status, some (.transmitted gateway packet frequency use))

def call [FloorRing K] (windows : Windows K) (delay : Time) (n : Network K A) :
    Call K A → Option (Network K A × Option (Outcome K A))
  | .sendOnFirstWindow address => n.sendOnFirstWindow cfg windows delay address
  | .sendOnSecondWindow address => n.sendOnSecondWindow cfg windows delay address
  | .deliver gateway packet dataRate frequency => n.deliver cfg gateway packet dataRate frequency

end Network

/-- A packet that a gateway has received comes to the server, the server or a link does what
is due, a signal comes to a gateway, or a gateway does what is due. -/
inductive Input (K A : Type)
  | receive (gateway : A) (packet : List UInt8) (rcvPower frequency : K)
  | run (id : Nat) (windows : Windows K) (delay : Time)
  | startReceive (gateway : A) (packet : List UInt8) (rxPowerDbm : K) (sf : UInt8) (duration : Time)
      (frequencyMHz : K)
  | runGateway (gateway : A) (id : Nat)

def Network.atGateway [FloorRing K] (cfg : Setting K A) (gateway : A) (input : GatewayPhy.Input K)
    (n : Network K A) : Option (Network K A) := do
  let status ← n.gatewayStatuses gateway
  let (phy, _) ← GatewayPhy.machine cfg.radio status.phy (n.now, input)
  return n.setGateway gateway { status with phy := phy }

def machine [FloorRing K] (cfg : Setting K A) (n : Network K A) (e : Time × Input K A) :
    Option (Network K A × Option (Outcome K A)) :=
  let n := { n with now := e.1 }
  match e.2 with
  | .receive gateway packet rcvPower frequency =>
      (n.receive cfg gateway packet rcvPower frequency).map (·, none)
  | .run id windows delay =>
      match find id n.queue with
      | none => some (n, none)
      | some entry => { n with queue := cancel (some id) n.queue }.call cfg windows delay entry.call.2
  | .startReceive gateway packet rxPowerDbm sf duration frequencyMHz =>
      (n.atGateway cfg gateway (.startReceive packet rxPowerDbm sf duration frequencyMHz)).map (·, none)
  | .runGateway gateway id => (n.atGateway cfg gateway (.run id)).map (·, none)

section Steps

variable [FloorRing K] {cfg : Setting K A} {n n' : Network K A} {e : Time × Input K A}
  {out : Option (Outcome K A)}

def Input.phyInput : Input K A → Option (A × GatewayPhy.Input K)
  | .startReceive gateway packet rxPowerDbm sf duration frequencyMHz =>
      some (gateway, .startReceive packet rxPowerDbm sf duration frequencyMHz)
  | .runGateway gateway id => some (gateway, .run id)
  | _ => none

def Call.isFor (address : LoraDeviceAddress) : Call K A → Bool
  | .sendOnFirstWindow a => a = address
  | .sendOnSecondWindow a => a = address
  | .deliver _ _ _ _ => false

def Network.windowFrequency (windows : Windows K) (n : Network K A) : Call K A → Option K
  | .sendOnFirstWindow address => (n.deviceStatuses address).bind DeviceStatus.firstReceiveWindowFrequency
  | .sendOnSecondWindow _ => some windows.secondReceiveWindowFrequency
  | .deliver _ _ _ _ => none

def Call.isTo (gateway : A) : Call K A → Bool
  | .deliver other _ _ _ => other = gateway
  | _ => false

def Network.Available (cfg : Setting K A) (n : Network K A) (frequency : K) (gateway : A) (available : Bool) :
    Prop :=
  ∃ status, n.gatewayStatuses gateway = some status ∧
    status.isAvailableForTransmission cfg.radio.clock n.now frequency = some available

structure Books (cfg : Setting K A) (n : Network K A) (address : LoraDeviceAddress) (frequency : K) (delay : Time)
    (gateway : A) (n' : Network K A) : Prop where
  sent : ∃ status booked reply packet dataRate, n.deviceStatuses address = some status ∧
    n.gatewayStatuses gateway = some booked ∧ status.reply = some reply ∧
    DeviceStatus.getReplyPacket cfg.platform reply = some packet ∧
    n' = (n.setGateway gateway (booked.setNextTransmissionTime n.now)).schedule delay
      (.deliver gateway packet dataRate frequency)
  first : ∃ status before after, n.deviceStatuses address = some status ∧
    status.getSortedGatewayAddresses cfg = before ++ gateway :: after ∧
    n.Available cfg frequency gateway true ∧ ∀ other ∈ before, n.Available cfg frequency other false

def Network.AllBusy (cfg : Setting K A) (n : Network K A) (address : LoraDeviceAddress) (frequency : K) : Prop :=
  ∃ status, n.deviceStatuses address = some status ∧
    ∀ gateway ∈ status.getSortedGatewayAddresses cfg, n.Available cfg frequency gateway false

inductive Stepped (cfg : Setting K A) (n : Network K A) :
    Time × Input K A → Network K A → Option (Outcome K A) → Prop
  | uplink {now : Time} {gateway : A} {packet : List UInt8} {rcvPower frequency : K} {macHdr : LoraMacHeader}
      {frameHdr : LoraFrameHeader K} {status : DeviceStatus K A}
      (headers : extractHeaders cfg.platform packet = some (macHdr, frameHdr))
      (known : n.deviceStatuses frameHdr.address = some status)
      (quiet : ¬ (macHdr.mType = MType.confirmedDataUp.code ∧ status.reply.isNone)) :
      Stepped cfg n (now, .receive gateway packet rcvPower frequency)
        ({ n with now := now }.setDevice frameHdr.address (status.updateGatewayData gateway rcvPower)) none
  | confirmed {now : Time} {gateway : A} {packet : List UInt8} {rcvPower frequency : K} {macHdr : LoraMacHeader}
      {frameHdr : LoraFrameHeader K} {status : DeviceStatus K A}
      (headers : extractHeaders cfg.platform packet = some (macHdr, frameHdr))
      (known : n.deviceStatuses frameHdr.address = some status)
      (confirmed : macHdr.mType = MType.confirmedDataUp.code) (unanswered : status.reply = none) :
      Stepped cfg n (now, .receive gateway packet rcvPower frequency)
        (({ n with now := now }.setDevice frameHdr.address { status.updateGatewayData gateway rcvPower with
          reply := some (.acknowledge frameHdr.address), firstReceiveWindowFrequency := some frequency }).schedule
          (seconds 1) (.sendOnFirstWindow frameHdr.address)) none
  | idle {now : Time} {id : Nat} {windows : Windows K} {delay : Time} :
      Stepped cfg n (now, .run id windows delay) { n with now := now } none
  | replied {now : Time} {windows : Windows K} {delay : Time} {entry : Entry (Time × Call K A)}
      {address : LoraDeviceAddress} {frequency : K} {gateway : A} {n' : Network K A}
      (pending : entry ∈ n.queue.pending) (window : entry.call.2.isFor address)
      (tuned : n.windowFrequency windows entry.call.2 = some frequency)
      (books : Books cfg { n with now := now, queue := cancel (some entry.id) n.queue } address frequency delay
        gateway n') :
      Stepped cfg n (now, .run entry.id windows delay) n' (some (.replied address gateway))
  | postponed {now : Time} {windows : Windows K} {delay : Time} {entry : Entry (Time × Call K A)}
      {address : LoraDeviceAddress} {frequency : K} (pending : entry ∈ n.queue.pending)
      (window : entry.call.2 = .sendOnFirstWindow address)
      (busy : { n with now := now }.AllBusy cfg address frequency) :
      Stepped cfg n (now, .run entry.id windows delay)
        ({ n with now := now, queue := cancel (some entry.id) n.queue }.schedule (seconds 1)
          (.sendOnSecondWindow address)) none
  | gaveUp {now : Time} {windows : Windows K} {delay : Time} {entry : Entry (Time × Call K A)}
      {address : LoraDeviceAddress} {frequency : K} (pending : entry ∈ n.queue.pending)
      (window : entry.call.2 = .sendOnSecondWindow address)
      (busy : { n with now := now }.AllBusy cfg address frequency) :
      Stepped cfg n (now, .run entry.id windows delay)
        { n with now := now, queue := cancel (some entry.id) n.queue } (some (.gaveUp address))
  | delivered {now : Time} {windows : Windows K} {delay : Time} {entry : Entry (Time × Call K A)}
      {gateway : A} {packet : List UInt8} {dataRate : UInt8} {frequency : K} {status status' : GatewayStatus K}
      {use : Use Time} (pending : entry ∈ n.queue.pending)
      (flight : entry.call.2 = .deliver gateway packet dataRate frequency)
      (known : n.gatewayStatuses gateway = some status)
      (sent : status.send now cfg packet dataRate frequency = some (status', use)) :
      Stepped cfg n (now, .run entry.id windows delay)
        ({ n with now := now, queue := cancel (some entry.id) n.queue }.setGateway gateway status')
        (some (.transmitted gateway packet frequency use))
  | atGateway {now : Time} {input : Input K A} {gateway : A} {phyInput : GatewayPhy.Input K}
      {status : GatewayStatus K} {phy : GatewayLoraPhy K} {fate : Option (GatewayPhy.Outcome K)}
      (asked : input.phyInput = some (gateway, phyInput))
      (known : n.gatewayStatuses gateway = some status)
      (step : GatewayPhy.machine cfg.radio status.phy (now, phyInput) = some (phy, fate)) :
      Stepped cfg n (now, input) ({ n with now := now }.setGateway gateway { status with phy := phy }) none

omit [FloorRing K] [DecidableEq A] in
theorem firstAvailable_eq {frequency : K} {gateways : List A} {found : Option (A × GatewayStatus K)}
    (h : n.firstAvailable cfg frequency gateways = some found) :
    (found = none ∧ ∀ gateway ∈ gateways, n.Available cfg frequency gateway false) ∨
      ∃ gateway status before after, found = some (gateway, status) ∧ gateways = before ++ gateway :: after ∧
        n.gatewayStatuses gateway = some status ∧ n.Available cfg frequency gateway true ∧
        ∀ other ∈ before, n.Available cfg frequency other false := by
  induction gateways with
  | nil =>
      cases h
      exact .inl ⟨rfl, nofun⟩
  | cons first gateways ih =>
      rw [Network.firstAvailable] at h
      split at h
      · cases h
      · next status hstatus =>
          split at h
          · cases h
          · next havailable =>
              cases h
              exact .inr ⟨first, status, [], gateways, rfl, rfl, hstatus, ⟨status, hstatus, havailable⟩, nofun⟩
          · next hbusy =>
              have hfirst : n.Available cfg frequency first false := ⟨status, hstatus, hbusy⟩
              rcases ih h with ⟨rfl, hall⟩ |
                ⟨gateway, found, before, after, rfl, rfl, hfound, havailable, hbefore⟩
              · exact .inl ⟨rfl, List.forall_mem_cons.mpr ⟨hfirst, hall⟩⟩
              · exact .inr ⟨gateway, found, first :: before, after, rfl, rfl, hfound, havailable,
                  List.forall_mem_cons.mpr ⟨hfirst, hbefore⟩⟩

theorem sendOnWindow_eq {address : LoraDeviceAddress} {frequency : K} {dataRate : Option UInt8} {delay : Time}
    {sent : Option (A × Network K A)} (h : n.sendOnWindow cfg address frequency dataRate delay = some sent) :
    (sent = none ∧ n.AllBusy cfg address frequency) ∨
      ∃ gateway n', sent = some (gateway, n') ∧ Books cfg n address frequency delay gateway n' := by
  obtain ⟨status, hstatus, h⟩ := Option.bind_eq_some_iff.mp h
  obtain ⟨found, hfound, h⟩ := Option.bind_eq_some_iff.mp h
  rcases firstAvailable_eq hfound with ⟨rfl, hall⟩ |
    ⟨gateway, booked, before, after, rfl, hsplit, hbooked, hfirst⟩
  · cases h
    exact .inl ⟨rfl, status, hstatus, hall⟩
  · obtain ⟨reply, hreply, h⟩ := Option.bind_eq_some_iff.mp h
    obtain ⟨packet, hpacket, h⟩ := Option.bind_eq_some_iff.mp h
    obtain ⟨dataRate, _, h⟩ := Option.bind_eq_some_iff.mp h
    cases h
    exact .inr ⟨gateway, _, rfl, ⟨status, booked, reply, packet, dataRate, hstatus, hbooked, hreply, hpacket, rfl⟩,
      status, before, after, hstatus, hsplit, hfirst⟩

theorem stepped_receive {now : Time} {gateway : A} {packet : List UInt8} {rcvPower frequency : K}
    (hstep : machine cfg n (now, .receive gateway packet rcvPower frequency) = some (n', out)) :
    Stepped cfg n (now, .receive gateway packet rcvPower frequency) n' out := by
  obtain ⟨n₁, hreceive, hpair⟩ := Option.map_eq_some_iff.mp hstep
  cases hpair
  obtain ⟨⟨macHdr, frameHdr⟩, headers, hreceive⟩ := Option.bind_eq_some_iff.mp hreceive
  obtain ⟨updated, hupdated, hreceive⟩ := Option.bind_eq_some_iff.mp hreceive
  obtain ⟨status, known, rfl⟩ := Option.map_eq_some_iff.mp hupdated
  dsimp only at hreceive
  split at hreceive
  · next hconfirmed =>
      cases hreceive
      exact .confirmed headers known hconfirmed.1 (Option.isNone_iff_eq_none.mp hconfirmed.2)
  · next hquiet =>
      cases hreceive
      exact .uplink headers known hquiet

theorem stepped_run {now : Time} {id : Nat} {windows : Windows K} {delay : Time}
    (hstep : machine cfg n (now, .run id windows delay) = some (n', out)) :
    Stepped cfg n (now, .run id windows delay) n' out := by
  rw [machine] at hstep
  dsimp only at hstep
  split at hstep
  · cases hstep
    exact .idle
  · next entry hfind =>
      obtain ⟨pending, rfl⟩ := find_eq_some hfind
      cases hcall : entry.call.2 with
      | sendOnFirstWindow address =>
          rw [hcall] at hstep
          obtain ⟨status, hstatus, hstep⟩ := Option.bind_eq_some_iff.mp hstep
          obtain ⟨frequency, hfrequency, hstep⟩ := Option.bind_eq_some_iff.mp hstep
          have htuned : n.windowFrequency windows (.sendOnFirstWindow address) = some frequency :=
            Option.bind_eq_some_iff.mpr ⟨status, hstatus, hfrequency⟩
          obtain ⟨sent, hsent, hstep⟩ := Option.bind_eq_some_iff.mp hstep
          rcases sendOnWindow_eq hsent with ⟨rfl, hbusy⟩ | ⟨gateway, n₁, rfl, hbooks⟩
          · cases hstep
            exact .postponed pending hcall hbusy
          · cases hstep
            exact .replied pending (by simp [hcall, Call.isFor]) (by rw [hcall, htuned]) hbooks
      | sendOnSecondWindow address =>
          rw [hcall] at hstep
          obtain ⟨sent, hsent, hstep⟩ := Option.bind_eq_some_iff.mp hstep
          rcases sendOnWindow_eq hsent with ⟨rfl, hbusy⟩ | ⟨gateway, n₁, rfl, hbooks⟩
          · cases hstep
            exact .gaveUp pending hcall hbusy
          · cases hstep
            exact .replied pending (by simp [hcall, Call.isFor]) (by rw [hcall]; rfl) hbooks
      | deliver gateway packet dataRate frequency =>
          rw [hcall] at hstep
          obtain ⟨status, known, hstep⟩ := Option.bind_eq_some_iff.mp hstep
          obtain ⟨⟨status', use⟩, hsent, hstep⟩ := Option.bind_eq_some_iff.mp hstep
          cases hstep
          exact .delivered pending hcall known hsent

theorem stepped_atGateway {now : Time} {input : Input K A} {gateway : A} {phyInput : GatewayPhy.Input K}
    (asked : input.phyInput = some (gateway, phyInput))
    (hstep : (({ n with now := now } : Network K A).atGateway cfg gateway phyInput).map (·, none) =
      some (n', out)) : Stepped cfg n (now, input) n' out := by
  obtain ⟨n₁, hgateway, hpair⟩ := Option.map_eq_some_iff.mp hstep
  cases hpair
  obtain ⟨status, known, hgateway⟩ := Option.bind_eq_some_iff.mp hgateway
  obtain ⟨⟨phy, fate⟩, step, hgateway⟩ := Option.bind_eq_some_iff.mp hgateway
  cases hgateway
  exact .atGateway asked known step

theorem stepped_of_machine (hstep : machine cfg n e = some (n', out)) : Stepped cfg n e n' out := by
  obtain ⟨now, e⟩ := e
  cases e with
  | receive gateway packet rcvPower frequency => exact stepped_receive hstep
  | run id windows delay => exact stepped_run hstep
  | startReceive gateway packet rxPowerDbm sf duration frequencyMHz => exact stepped_atGateway rfl hstep
  | runGateway gateway id => exact stepped_atGateway rfl hstep

end Steps

section Gateways

variable {cfg : Setting K A} {now : Time} {frequency : K} {status status' : GatewayStatus K}

omit [DecidableEq A] in
theorem available_eq_true [IsStrictOrderedRing K] {clock : Clock K}
    (h : status.isAvailableForTransmission clock now frequency = some true) :
    status.nextTransmissionTime ≤ now - 1000000 ∧ status.phy.isTransmitting = false ∧
      status.channelHelper.Free now frequency := by
  rw [GatewayStatus.isAvailableForTransmission] at h
  split at h
  · cases h
  · next hbooked =>
      split at h
      · cases h
      · next hsending =>
          obtain ⟨waitingTime, hwait, hzero⟩ := Option.map_eq_some_iff.mp h
          have hle := not_lt.mp (of_decide_eq_true hzero)
          have heq := le_antisymm hle (LogicalLoraChannelHelper.waitingTime_nonneg hwait)
          exact ⟨not_lt.mp hbooked, Bool.eq_false_of_not_eq_true hsending,
            LogicalLoraChannelHelper.getWaitingTime_eq_zero_iff.mp (heq ▸ hwait)⟩

structure Sends (cfg : Setting K A) (now : Time) (frequency : K) (status status' : GatewayStatus K)
    (use : Use Time) : Prop where
  start : use.start = now
  event : status.channelHelper.addEvent cfg.radio.clock now use.length frequency = some status'.channelHelper
  sending : status'.phy.isTransmitting = true
  queue : status'.phy.queue = EventQueue.schedule (now + use.length, .txFinished) status.phy.queue

omit [DecidableEq A] in
theorem sends_of_send [FloorRing K] {packet : List UInt8} {dataRate : UInt8} {use : Use Time}
    (h : status.send now cfg packet dataRate frequency = some (status', use)) :
    Sends cfg now frequency status status' use := by
  obtain ⟨bandwidthHz, _, h⟩ := Option.bind_eq_some_iff.mp h
  obtain ⟨sendingPower, _, h⟩ := Option.bind_eq_some_iff.mp h
  obtain ⟨channelHelper, hevent, h⟩ := Option.bind_eq_some_iff.mp h
  obtain ⟨phy, hphy, h⟩ := Option.bind_eq_some_iff.mp h
  cases h
  obtain ⟨_, _, rfl⟩ := Option.map_eq_some_iff.mp hphy
  exact ⟨rfl, hevent, rfl, rfl⟩

end Gateways

end UavMonitoring.NetworkServer
