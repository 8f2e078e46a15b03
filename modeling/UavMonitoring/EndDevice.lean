import UavMonitoring.EndDeviceMac
import UavMonitoring.EventQueue
import UavMonitoring.Runs

namespace UavMonitoring.EndDevice

open Basics MacCommands FrameHeader SubBands EndDeviceMac EventQueue Runs

variable {K : Type} [Field K] [LinearOrder K]

scoped instance atLeastTwo_seventeen : Nat.AtLeastTwo 17 := ⟨by decide⟩

scoped instance atLeastTwo_twenty : Nat.AtLeastTwo 20 := ⟨by decide⟩

structure LoraTxParameters (K : Type) where
  sf : UInt8
  headerDisabled : Bool
  codingRate : UInt8
  bandwidthHz : K
  nPreamble : UInt32
  crcEnabled : Bool
  lowDataRateOptimizationEnabled : Bool

/-- The first terms of the numerator are unsigned integers, the others doubles. -/
def getOnAirTime [FloorRing K] (clock : Clock K) (pl : UInt32) (txParams : LoraTxParameters K) : Time :=
  let tSym := 2 ^ txParams.sf.toNat / txParams.bandwidthHz
  let tPreamble := ((txParams.nPreamble.toNat : K) + 17 / 4) * tSym
  let de : K := if txParams.lowDataRateOptimizationEnabled then 1 else 0
  let h : K := if txParams.headerDisabled then 1 else 0
  let crc : K := if txParams.crcEnabled then 1 else 0
  let num := ((8 * pl - 4 * txParams.sf.toUInt32 + 28).toNat : K) + 16 * crc - 20 * h
  let den := 4 * ((txParams.sf.toNat : K) - 2 * de)
  let payloadSymbNb := 8 + max ((⌈num / den⌉ : K) * ((txParams.codingRate.toNat : K) + 4)) 0
  clock.ofSeconds (tPreamble + payloadSymbNb * tSym)

inductive State
  | tx
  | rx
  | standby
  | sleep
deriving DecidableEq

inductive Call
  | switchToStandby
  | txFinished
  | openFirstReceiveWindow
  | closeFirstReceiveWindow
  | openSecondReceiveWindow
  | closeSecondReceiveWindow
  | endReceive (packet : List UInt8)
deriving DecidableEq

/-- How the program ends: an assertion about the radio or an abort, a command
or a header it cannot take, a table without an entry, a frequency outside all
sub-bands, or more power than the sub-band admits. -/
inductive Failure
  | radio
  | command
  | header
  | table
  | subBand
  | power
deriving DecidableEq

structure Device (K : Type) [Field K] [LinearOrder K] where
  now : Time
  mac : EndDeviceLoraMac K
  state : State
  frequency : K
  sf : UInt8
  queue : Queue (Time × Call)
  closeWindow : Option Nat
  secondReceiveWindow : Option Nat

structure Uplink (K : Type) where
  start : Time
  duration : Time
  frequency : K
  txPower : K
  header : LoraFrameHeader K
  packet : List UInt8

structure Setting (K : Type) [Field K] [LinearOrder K] where
  clock : Clock K
  platform : Platform
  region : Region K
  sensitivity : List K

def Setting.sensitivityFor (cfg : Setting K) (sf : UInt8) : Option K :=
  if sf.toNat < 7 then none else cfg.sensitivity[sf.toNat - 7]?

def isExpired (handle : Option Nat) (q : Queue (Time × Call)) : Bool :=
  q.pending.all fun e => some e.id ≠ handle

namespace Device

def schedule (d : Device K) (delay : Time) (call : Call) : Device K :=
  { d with queue := EventQueue.schedule (d.now + delay, call) d.queue }

def switchToStandby (d : Device K) : Device K := { d with state := .standby }

def switchToRx (d : Device K) : Except Failure (Device K) :=
  if d.state = .standby then .ok { d with state := .rx } else .error .radio

def switchToTx (d : Device K) : Except Failure (Device K) :=
  if d.state ≠ .rx then .ok { d with state := .tx } else .error .radio

def switchToSleep (d : Device K) : Except Failure (Device K) :=
  if d.state = .standby then .ok { d with state := .sleep } else .error .radio

def phySend (uplink : Uplink K) (d : Device K) : Except Failure (Device K × Option (Uplink K)) :=
  if d.state ≠ .standby ∧ d.state ≠ .sleep then .ok (d, none)
  else do
    let d ← d.switchToTx
    let d := d.schedule uplink.duration .switchToStandby
    return (d.schedule (uplink.duration + 10) .txFinished, some uplink)

variable (cfg : Setting K)

def startReceive (packet : List UInt8) (rxPowerDbm : K) (sf : UInt8) (duration : Time) (frequency : K)
    (d : Device K) : Except Failure (Device K) :=
  match d.state with
  | .sleep | .tx | .rx => .ok d
  | .standby =>
      match cfg.sensitivityFor sf with
      | none => .error .table
      | some sensitivity =>
          if d.frequency = frequency ∧ sf = d.sf ∧ sensitivity ≤ rxPowerDbm then do
            let d ← d.switchToRx
            return d.schedule duration (.endReceive packet)
          else .ok d

def txParameters (region : Region K) (dataRate : UInt8) (bandwidthHz : K) : LoraTxParameters K where
  sf := region.getSfFromDataRate dataRate
  headerDisabled := false
  codingRate := 1
  bandwidthHz := bandwidthHz
  nPreamble := region.nPreambleSymbols
  crcEnabled := true
  lowDataRateOptimizationEnabled := false

variable [FloorRing K]

def transmit (payload : List UInt8) (frequency : K) (d : Device K) :
    Except Failure (Device K × Option (Uplink K)) :=
  let (frameHdr, mac) := d.mac.applyNecessaryOptions
  match addHeader cfg.platform frameHdr payload, cfg.region.getBandwidthFromDataRate mac.dataRate,
      mac.channelHelper.getTxPowerForChannel frequency with
  | none, _, _ => .error .header
  | _, none, _ => .error .table
  | _, _, none => .error .subBand
  | some framed, some bandwidthHz, some maxTxPowerDbm =>
      if maxTxPowerDbm < mac.txPower then .error .power
      else
        let packet := LoraMacHeader.serialize ⟨mac.mType.code, 1⟩ :: framed
        let duration := getOnAirTime cfg.clock (UInt32.ofNat packet.length)
          (txParameters cfg.region mac.dataRate bandwidthHz)
        match mac.channelHelper.addEvent cfg.clock d.now duration frequency,
            ((cfg.region.replyDataRateMatrix[mac.dataRate.toNat]?).bind fun row =>
              row[mac.rx1DrOffset.toNat]?) with
        | none, _ => .error .subBand
        | _, none => .error .table
        | some channelHelper, some replyDataRate => do
            let d := { d with mac := { mac with channelHelper := channelHelper } }
            let (d, uplink) ← d.switchToStandby.phySend
              ⟨d.now, duration, frequency, mac.txPower, frameHdr, packet⟩
            return ({ d with frequency := frequency, sf := cfg.region.getSfFromDataRate replyDataRate }, uplink)

def send (random : Nat → UInt16) (payload : List UInt8) (d : Device K) :
    Except Failure (Device K × Option (Uplink K)) :=
  if ¬ isExpired d.closeWindow d.queue ∨ ¬ isExpired d.secondReceiveWindow d.queue then .ok (d, none)
  else
    match cfg.region.maxAppPayloadForDataRate[d.mac.dataRate.toNat]? with
    | none => .error .table
    | some maxAppPayload =>
        if maxAppPayload.toNat < payload.length then .ok (d, none)
        else if d.mac.channelHelper.getAggregatedWaitingTime cfg.clock d.now ≠ 0 then .ok (d, none)
        else
          match getChannelForTx cfg.clock d.now random d.mac.channelHelper with
          | none => .error .subBand
          | some none => .ok (d, none)
          | some (some txChannel) => d.transmit cfg payload txChannel.frequency

/-- A header that never ends or runs past the packet is a failure as well. -/
def receive (packet : List UInt8) (d : Device K) : Except Failure (Device K) :=
  match packet with
  | [] => .error .header
  | byte :: framed =>
      if (LoraMacHeader.deserialize byte).isUplink then .ok d
      else
        match removeHeader cfg.platform false framed with
        | some (some (fHdr, _)) =>
            if d.mac.address = fHdr.address then
              match d.mac.parseCommands cfg.region fHdr.macCommands with
              | none => .error .command
              | some mac => .ok { d with mac := mac, queue := cancel d.secondReceiveWindow d.queue }
            else .ok d
        | _ => .error .header

/-- Whether a reception was destroyed is for the interference helper to say. -/
def call (destroyed : Bool) (d : Device K) : Call → Except Failure (Device K)
  | .switchToStandby => .ok d.switchToStandby
  | .txFinished =>
      let d := d.schedule (seconds 1) .openFirstReceiveWindow
      { d.schedule (seconds 2) .openSecondReceiveWindow with
        secondReceiveWindow := some d.queue.next }.switchToSleep
  | .openFirstReceiveWindow =>
      .ok { d.switchToStandby.schedule 200000000 .closeFirstReceiveWindow with closeWindow := some d.queue.next }
  | .closeFirstReceiveWindow =>
      match d.state with
      | .tx | .sleep => .error .radio
      | .rx => .ok d
      | .standby => d.switchToSleep
  | .openSecondReceiveWindow =>
      if d.state = .rx then .ok d
      else .ok { d.switchToStandby.schedule 200000000 .closeSecondReceiveWindow with
        frequency := d.mac.secondReceiveWindowFrequency
        sf := cfg.region.getSfFromDataRate d.mac.secondReceiveWindowDataRate
        closeWindow := some d.queue.next }
  | .closeSecondReceiveWindow =>
      match d.state with
      | .tx | .sleep | .rx => .ok d
      | .standby => d.switchToSleep
  | .endReceive packet => (if destroyed then .ok d else d.receive cfg packet).map switchToStandby

end Device

inductive Event (K : Type)
  | send (random : Nat → UInt16) (payload : List UInt8)
  | startReceive (packet : List UInt8) (rxPowerDbm : K) (sf : UInt8) (duration : Time) (frequency : K)
  | run (id : Nat) (destroyed : Bool)

variable [FloorRing K] (cfg : Setting K)

def step (d : Device K) (e : Time × Event K) : Except Failure (Device K × Option (Uplink K)) :=
  let d := { d with now := e.1 }
  match e.2 with
  | .send random payload => d.send cfg random payload
  | .startReceive packet rxPowerDbm sf duration frequency =>
      (d.startReceive cfg packet rxPowerDbm sf duration frequency).map (·, none)
  | .run id destroyed =>
      match find id d.queue with
      | none => .ok (d, none)
      | some entry =>
          (({ d with queue := cancel (some id) d.queue }).call cfg destroyed entry.call.2).map (·, none)

def machine (d : Device K) (e : Time × Event K) : Option (Device K × Option (Uplink K)) :=
  (step cfg d e).toOption

def commandsFor (address : DeviceAddress.LoraDeviceAddress) (packet : List UInt8) : List (MacCommand K) :=
  match packet with
  | [] => []
  | byte :: framed =>
      if (LoraMacHeader.deserialize byte).isUplink then []
      else
        match removeHeader cfg.platform false framed with
        | some (some (fHdr, _)) => if address = fHdr.address then fHdr.macCommands else []
        | _ => []

def heardIn (d : Device K) (destroyed : Bool) : Call → List (MacCommand K)
  | .endReceive packet => if destroyed then [] else commandsFor cfg d.mac.address packet
  | _ => []

def heard (d : Device K) (e : Time × Event K) : List (MacCommand K) :=
  match e.2 with
  | .run id destroyed => ((find id d.queue).map fun entry => heardIn cfg d destroyed entry.call.2).getD []
  | _ => []

section Steps

theorem map_eq_ok {α β : Type} {x : Except Failure α} {f : α → β} {b : β} :
    x.map f = .ok b ↔ ∃ a, x = .ok a ∧ f a = b := by
  cases x <;> simp [Except.map]

theorem map_eq_error {α β : Type} {x : Except Failure α} {f : α → β} {failure : Failure} :
    x.map f = .error failure ↔ x = .error failure := by
  cases x <;> simp [Except.map]

theorem machine_eq_some {d : Device K} {e : Time × Event K} {r : Device K × Option (Uplink K)} :
    machine cfg d e = some r ↔ step cfg d e = .ok r := by
  rw [machine]
  cases step cfg d e <;> simp [Except.toOption]

structure Transmits (d : Device K) (payload : List UInt8) (uplink : Uplink K) (d' : Device K) : Prop where
  start : uplink.start = d.now
  header : uplink.header = d.mac.applyNecessaryOptions.1
  packet : ∃ framed, addHeader cfg.platform uplink.header payload = some framed ∧
    uplink.packet = LoraMacHeader.serialize ⟨d.mac.mType.code, 1⟩ :: framed
  duration : ∃ bandwidthHz, cfg.region.getBandwidthFromDataRate d.mac.dataRate = some bandwidthHz ∧
    uplink.duration = getOnAirTime cfg.clock (UInt32.ofNat uplink.packet.length)
      (Device.txParameters cfg.region d.mac.dataRate bandwidthHz)
  txPower : ∃ maxTxPowerDbm, d.mac.channelHelper.getTxPowerForChannel uplink.frequency = some maxTxPowerDbm ∧
    uplink.txPower = d.mac.txPower ∧ d.mac.txPower ≤ maxTxPowerDbm
  event : d.mac.channelHelper.addEvent cfg.clock d.now uplink.duration uplink.frequency =
    some d'.mac.channelHelper
  mac : d'.mac = { d.mac with macCommandList := [], channelHelper := d'.mac.channelHelper }
  now : d'.now = d.now
  state : d'.state = .tx
  queue : d'.queue = EventQueue.schedule (d.now + (uplink.duration + 10), .txFinished)
    (EventQueue.schedule (d.now + uplink.duration, .switchToStandby) d.queue)
  windows : d'.closeWindow = d.closeWindow ∧ d'.secondReceiveWindow = d.secondReceiveWindow

structure Admitted (d : Device K) (payload : List UInt8) (frequency : K) : Prop where
  closeWindow : isExpired d.closeWindow d.queue
  secondReceiveWindow : isExpired d.secondReceiveWindow d.queue
  payload : ∃ maxAppPayload, cfg.region.maxAppPayloadForDataRate[d.mac.dataRate.toNat]? = some maxAppPayload ∧
    payload.length ≤ maxAppPayload.toNat
  channel : ∃ channel ∈ d.mac.channelHelper.channelList, channel.frequency = frequency
  free : d.mac.channelHelper.Free d.now frequency

variable {cfg}

omit [FloorRing K] in
theorem phySend_of_standby (uplink : Uplink K) (d : Device K) :
    d.switchToStandby.phySend uplink =
      .ok ((({ d with state := .tx } : Device K).schedule uplink.duration .switchToStandby).schedule
        (uplink.duration + 10) .txFinished, some uplink) := by
  rw [Device.phySend, if_neg (by simp [Device.switchToStandby])]
  rfl

theorem transmits_of_transmit {d d' : Device K} {payload : List UInt8} {frequency : K}
    {out : Option (Uplink K)} (h : d.transmit cfg payload frequency = .ok (d', out)) :
    ∃ uplink, out = some uplink ∧ uplink.frequency = frequency ∧ Transmits cfg d payload uplink d' := by
  rw [Device.transmit] at h
  dsimp only at h
  split at h
  · cases h
  · cases h
  · cases h
  · next framed bandwidthHz maxTxPowerDbm hframed hbandwidth hmax =>
      split at h
      · cases h
      · next hpower =>
          split at h
          · cases h
          · cases h
          · next channelHelper replyDataRate hevent hreply =>
              rw [phySend_of_standby] at h
              cases h
              exact ⟨_, rfl, rfl, rfl, rfl, ⟨framed, hframed, rfl⟩,
                ⟨bandwidthHz, hbandwidth, rfl⟩, ⟨maxTxPowerDbm, hmax, rfl, le_of_not_gt hpower⟩, hevent, rfl, rfl,
                rfl, rfl, rfl, rfl⟩

theorem send_cases [IsStrictOrderedRing K] {d d' : Device K} {random : Nat → UInt16} {payload : List UInt8}
    {out : Option (Uplink K)} (h : d.send cfg random payload = .ok (d', out)) :
    (out = none ∧ d' = d) ∨ ∃ uplink, out = some uplink ∧ Transmits cfg d payload uplink d' ∧
      Admitted cfg d payload uplink.frequency := by
  rw [Device.send] at h
  split at h
  · cases h
    exact .inl ⟨rfl, rfl⟩
  · next hwindows =>
      rw [not_or, not_not, not_not] at hwindows
      split at h
      · cases h
      · next maxAppPayload hmax =>
          split at h
          · cases h
            exact .inl ⟨rfl, rfl⟩
          · next hlen =>
              split at h
              · cases h
                exact .inl ⟨rfl, rfl⟩
              · split at h
                · cases h
                · cases h
                  exact .inl ⟨rfl, rfl⟩
                · next txChannel hchannel =>
                    obtain ⟨uplink, rfl, hfrequency, htransmits⟩ := transmits_of_transmit h
                    obtain ⟨hmem, hfree⟩ := (getChannelForTx_eq_some hchannel).2 _ rfl
                    exact .inr ⟨uplink, rfl, htransmits, hwindows.1, hwindows.2,
                      ⟨maxAppPayload, hmax, Nat.le_of_not_lt hlen⟩, ⟨txChannel, hmem, hfrequency.symm⟩,
                      hfrequency ▸ hfree⟩

omit [FloorRing K] in
theorem mac_startReceive {d d' : Device K} {packet : List UInt8} {rxPowerDbm : K} {sf : UInt8}
    {duration : Time} {frequency : K}
    (h : d.startReceive cfg packet rxPowerDbm sf duration frequency = .ok d') : d'.mac = d.mac := by
  rw [Device.startReceive] at h
  split at h
  · cases h
    rfl
  · cases h
    rfl
  · cases h
    rfl
  · next hstandby =>
      split at h
      · cases h
      · split at h
        · rw [Device.switchToRx, if_pos hstandby] at h
          cases h
          rfl
        · cases h
          rfl

omit [FloorRing K] in
theorem parse_receive {d d' : Device K} {packet : List UInt8} (h : d.receive cfg packet = .ok d') :
    d.mac.parseCommands cfg.region (commandsFor cfg d.mac.address packet) = some d'.mac := by
  rw [Device.receive.eq_def] at h
  rw [commandsFor.eq_def]
  split at h
  · cases h
  · split at h
    · next huplink =>
        cases h
        rw [if_pos huplink]
        rfl
    · next huplink =>
        rw [if_neg huplink]
        split at h
        · next fHdr rest hremove =>
            split at h
            · next haddress =>
                rw [if_pos haddress]
                split at h
                · cases h
                · next mac hparse =>
                    cases h
                    exact hparse
            · next haddress =>
                rw [if_neg haddress]
                cases h
                rfl
        · cases h

omit [FloorRing K] in
theorem mac_switchToSleep {d d' : Device K} (h : d.switchToSleep = .ok d') : d'.mac = d.mac := by
  rw [Device.switchToSleep] at h
  split at h
  · cases h
    rfl
  · cases h

omit [FloorRing K] in
theorem parse_call {d d' : Device K} {destroyed : Bool} {call : Call}
    (h : d.call cfg destroyed call = .ok d') :
    d.mac.parseCommands cfg.region (heardIn cfg d destroyed call) = some d'.mac := by
  have hkept (hmac : d'.mac = d.mac) : d.mac.parseCommands cfg.region [] = some d'.mac := congrArg some hmac.symm
  cases call with
  | endReceive packet =>
      rw [Device.call] at h
      cases destroyed with
      | true =>
          cases h
          rfl
      | false =>
          obtain ⟨d₁, hreceive, rfl⟩ := map_eq_ok.mp h
          have hparse : _ = some d₁.mac := parse_receive hreceive
          exact hparse
  | switchToStandby => exact hkept (by cases h; rfl)
  | txFinished =>
      rw [Device.call] at h
      have hmac := mac_switchToSleep h
      exact hkept hmac
  | openFirstReceiveWindow => exact hkept (by cases h; rfl)
  | closeFirstReceiveWindow | closeSecondReceiveWindow =>
      refine hkept ?_
      rw [Device.call] at h
      split at h <;> first | exact mac_switchToSleep h | (cases h; rfl) | cases h
  | openSecondReceiveWindow =>
      refine hkept ?_
      rw [Device.call] at h
      split at h <;> (cases h; rfl)

theorem send_fails {d : Device K} {random : Nat → UInt16} {payload : List UInt8} {failure : Failure}
    (h : d.send cfg random payload = .error failure) : failure ≠ .radio ∧ failure ≠ .command := by
  have htransmit (frequency : K) (h : d.transmit cfg payload frequency = .error failure) :
      failure ≠ .radio ∧ failure ≠ .command := by
    rw [Device.transmit] at h
    dsimp only at h
    split at h
    · cases h
      decide
    · cases h
      decide
    · cases h
      decide
    · split at h
      · cases h
        decide
      · split at h
        · cases h
          decide
        · cases h
          decide
        · rw [phySend_of_standby] at h
          cases h
  rw [Device.send] at h
  split at h
  · cases h
  · split at h
    · cases h
      decide
    · split at h
      · cases h
      · split at h
        · cases h
        · split at h
          · cases h
            decide
          · cases h
          · exact htransmit _ h

omit [FloorRing K] in
theorem startReceive_fails {d : Device K} {packet : List UInt8} {rxPowerDbm : K} {sf : UInt8} {duration : Time}
    {frequency : K} {failure : Failure}
    (h : d.startReceive cfg packet rxPowerDbm sf duration frequency = .error failure) : failure = .table := by
  rw [Device.startReceive] at h
  split at h
  · cases h
  · cases h
  · cases h
  · next hstandby =>
      split at h
      · cases h
        rfl
      · split at h
        · rw [Device.switchToRx, if_pos hstandby] at h
          cases h
        · cases h

omit [FloorRing K] in
theorem receive_command_iff {d : Device K} {packet : List UInt8} :
    d.receive cfg packet = .error .command ↔
      d.mac.parseCommands cfg.region (commandsFor cfg d.mac.address packet) = none := by
  rw [Device.receive.eq_def, commandsFor.eq_def]
  split
  · exact iff_of_false nofun nofun
  · split
    · exact iff_of_false nofun nofun
    · split
      · split
        · split
          · next hnone => exact iff_of_true rfl hnone
          · next hsome => exact iff_of_false nofun (by rw [hsome]; nofun)
        · exact iff_of_false nofun nofun
      · exact iff_of_false nofun nofun

omit [FloorRing K] in
theorem switchToSleep_fails {d : Device K} {failure : Failure} (h : d.switchToSleep = .error failure) :
    failure = .radio := by
  rw [Device.switchToSleep] at h
  split at h
  · cases h
  · cases h
    rfl

omit [FloorRing K] in
theorem call_command_iff {d : Device K} {destroyed : Bool} {call : Call} :
    d.call cfg destroyed call = .error .command ↔
      d.mac.parseCommands cfg.region (heardIn cfg d destroyed call) = none := by
  have hsleep (d : Device K) : d.switchToSleep ≠ .error .command := fun h => by cases switchToSleep_fails h
  cases call with
  | endReceive packet =>
      cases destroyed with
      | true => exact iff_of_false nofun nofun
      | false => exact map_eq_error.trans receive_command_iff
  | closeFirstReceiveWindow | closeSecondReceiveWindow =>
      refine iff_of_false ?_ nofun
      rw [Device.call]
      split
      all_goals first | exact hsleep d | nofun
  | openSecondReceiveWindow =>
      refine iff_of_false ?_ nofun
      rw [Device.call]
      split <;> nofun
  | switchToStandby | openFirstReceiveWindow => exact iff_of_false nofun nofun
  | txFinished => exact iff_of_false (hsleep _) nofun

theorem step_command_iff {d : Device K} {e : Time × Event K} :
    step cfg d e = .error .command ↔ d.mac.parseCommands cfg.region (heard cfg d e) = none := by
  obtain ⟨now, e⟩ := e
  cases e with
  | send random payload => exact iff_of_false (fun h => (send_fails h).2 rfl) nofun
  | startReceive packet rxPowerDbm sf duration frequency =>
      exact iff_of_false (fun h => by cases startReceive_fails (map_eq_error.mp h)) nofun
  | run id destroyed =>
      rw [step, heard]
      dsimp only
      cases find id d.queue with
      | none => exact iff_of_false nofun nofun
      | some entry => exact map_eq_error.trans call_command_iff

theorem machine_cases [IsStrictOrderedRing K] {d d' : Device K} {e : Time × Event K} {out : Option (Uplink K)}
    (h : machine cfg d e = some (d', out)) :
    (out = none ∧ d.mac.parseCommands cfg.region (heard cfg d e) = some d'.mac) ∨
      ∃ random payload uplink, e.2 = .send random payload ∧ out = some uplink ∧ heard cfg d e = [] ∧
        Transmits cfg { d with now := e.1 } payload uplink d' ∧
        Admitted cfg { d with now := e.1 } payload uplink.frequency := by
  obtain ⟨now, e⟩ := e
  rw [machine_eq_some] at h
  cases e with
  | send random payload =>
      rcases send_cases h with ⟨rfl, rfl⟩ | ⟨uplink, rfl, htransmits, hadmitted⟩
      · exact .inl ⟨rfl, rfl⟩
      · exact .inr ⟨random, payload, uplink, rfl, rfl, rfl, htransmits, hadmitted⟩
  | startReceive packet rxPowerDbm sf duration frequency =>
      obtain ⟨d₁, hreceive, hpair⟩ := map_eq_ok.mp h
      cases hpair
      have hmac := mac_startReceive hreceive
      dsimp only at hmac
      exact .inl ⟨rfl, congrArg some hmac.symm⟩
  | run id destroyed =>
      refine .inl ?_
      rw [step] at h
      dsimp only at h
      rw [heard]
      dsimp only
      split at h
      · next hfind =>
          cases h
          rw [hfind]
          exact ⟨rfl, rfl⟩
      · next entry hfind =>
          obtain ⟨d₁, hcall, hpair⟩ := map_eq_ok.mp h
          cases hpair
          rw [hfind]
          have hparse := parse_call hcall
          exact ⟨rfl, hparse⟩

end Steps

end UavMonitoring.EndDevice
