import UavMonitoring.FrameHeader
import UavMonitoring.SubBands

namespace UavMonitoring.EndDeviceMac

open Basics DeviceAddress MacCommands FrameHeader SubBands

structure Region (K : Type) where
  sfForDataRate : List UInt8
  bandwidthForDataRate : List K
  maxAppPayloadForDataRate : List UInt32
  txDbmForTxPower : List K
  replyDataRateMatrix : List (List UInt8)
  nPreambleSymbols : UInt32

variable {K : Type} [Field K] [LinearOrder K]

namespace Region

variable (region : Region K)

def getSfFromDataRate (dataRate : UInt8) : UInt8 :=
  (region.sfForDataRate[dataRate.toNat]?).getD 0

/-- The check lets the length of the table through, where `at` throws: `none`. -/
def getBandwidthFromDataRate (dataRate : UInt8) : Option K :=
  if region.bandwidthForDataRate.length < dataRate.toNat then some 0
  else region.bandwidthForDataRate[dataRate.toNat]?

def getDbmForTxPower (txPower : UInt8) : Option K :=
  if region.txDbmForTxPower.length < txPower.toNat then some 0
  else region.txDbmForTxPower[txPower.toNat]?

end Region

structure EndDeviceLoraMac (K : Type) [Field K] [LinearOrder K] where
  address : LoraDeviceAddress
  mType : MType
  dataRate : UInt8
  txPower : K
  rx1DrOffset : UInt8
  secondReceiveWindowDataRate : UInt8
  secondReceiveWindowFrequency : K
  lastKnownLinkMargin : UInt8
  lastKnownGatewayCount : UInt8
  aggregatedDutyCycle : K
  channelHelper : LogicalLoraChannelHelper K
  macCommandList : List (MacCommand K)

def getEnabledChannelsList (channelMask : UInt16) : List Nat :=
  (List.range 16).filter channelMask.toNat.testBit

def getMaximumAllowedDutyCycle (maxDCycle : UInt8) : K :=
  if maxDCycle = 255 then 0 else if maxDCycle = 0 then 1 else 1 / 2 ^ maxDCycle.toNat

def Region.knows (region : Region K) (dataRate : UInt8) : Option Bool :=
  (region.getBandwidthFromDataRate dataRate).map fun bw => region.getSfFromDataRate dataRate ≠ 0 ∧ bw ≠ 0

def Region.knowsLazily (region : Region K) (dataRate : UInt8) : Option Bool :=
  if region.getSfFromDataRate dataRate = 0 then some false else region.knows dataRate

def Supports (channel : LogicalLoraChannel K) (dataRate : UInt8) : Prop :=
  channel.minDataRate ≤ dataRate ∧ dataRate ≤ channel.maxDataRate

instance (channel : LogicalLoraChannel K) (dataRate : UInt8) : Decidable (Supports channel dataRate) :=
  inferInstanceAs (Decidable (_ ∧ _))

/-- Whether a listed channel can be used at the data rate; `none` past the end of the list. -/
def foundAvailableChannel (channelList : List (LogicalLoraChannel K)) (dataRate : UInt8) :
    List Nat → Option Bool
  | [] => some false
  | i :: is =>
      match channelList[i]? with
      | none => none
      | some channel =>
          if Supports channel dataRate then some true
          else foundAvailableChannel channelList dataRate is

namespace EndDeviceLoraMac

variable (region : Region K) (m : EndDeviceLoraMac K)

def reply (command : MacCommand K) : EndDeviceLoraMac K :=
  { m with macCommandList := m.macCommandList ++ [command] }

def onLinkCheckAns (margin gwCnt : UInt8) : EndDeviceLoraMac K :=
  { m with lastKnownLinkMargin := margin, lastKnownGatewayCount := gwCnt }

def enableChannels (enabledChannels : List Nat) : LogicalLoraChannelHelper K :=
  { m.channelHelper with
    channelList := m.channelHelper.channelList.mapIdx fun i channel =>
      { channel with enabledForUplink := enabledChannels.contains i } }

def channelMaskOk (enabledChannels : List Nat) : Bool :=
  enabledChannels.all (· ≤ m.channelHelper.channelList.length)

def dataRateOk (dataRate : UInt8) (enabledChannels : List Nat) : Option Bool :=
  match region.knows dataRate with
  | some true =>
      if m.channelMaskOk enabledChannels then
        foundAvailableChannel m.channelHelper.channelList dataRate enabledChannels
      else some true
  | known => known

def onLinkAdrReq (dataRate txPower : UInt8) (enabledChannels : List Nat) : Option (EndDeviceLoraMac K) := do
  let channelMaskOk := m.channelMaskOk enabledChannels
  let dataRateOk ← m.dataRateOk region dataRate enabledChannels
  let dbm ← region.getDbmForTxPower txPower
  let set := if channelMaskOk ∧ dataRateOk ∧ dbm ≠ 0 then
    { m with channelHelper := m.enableChannels enabledChannels, dataRate := dataRate, txPower := dbm }
    else m
  return set.reply (.linkAdrAns (dbm ≠ 0) dataRateOk channelMaskOk)

/-- The value has to be a proper fraction, or the assertion fails. -/
def onDutyCycleReq (dutyCycle : K) : Option (EndDeviceLoraMac K) :=
  if 0 ≤ dutyCycle ∧ dutyCycle < 1 then some ({ m with aggregatedDutyCycle := dutyCycle }.reply .dutyCycleAns)
  else none

def onRxParamSetupReq (rx1DrOffset rx2DataRate : UInt8) (frequency : K) : Option (EndDeviceLoraMac K) := do
  let offsetOk := rx1DrOffset ≤ 5
  let dataRateOk ← region.knowsLazily rx2DataRate
  let set := if offsetOk ∧ dataRateOk then
    { m with
      secondReceiveWindowDataRate := rx2DataRate
      rx1DrOffset := rx1DrOffset
      secondReceiveWindowFrequency := frequency }
    else m
  return set.reply (.rxParamSetupAns offsetOk dataRateOk true)

def onDevStatusReq : EndDeviceLoraMac K := m.reply (.devStatusAns 10 10)

def onNewChannelReq (chIndex : UInt8) (frequency : K) (minDataRate maxDataRate : UInt8) :
    Option (EndDeviceLoraMac K) :=
  (m.channelHelper.setChannel chIndex ⟨frequency, minDataRate, maxDataRate, true⟩).map fun channelHelper =>
    { m with channelHelper := channelHelper }.reply (.newChannelAns true true)

/-- The type is what the constructor of the class has set, so some classes pass for `DevStatusReq`. -/
def parseCommand : MacCommand K → Option (EndDeviceLoraMac K)
  | .linkCheckAns margin gwCnt => some (m.onLinkCheckAns margin gwCnt)
  | .linkAdrReq dataRate txPower channelMask _ _ =>
      m.onLinkAdrReq region dataRate txPower (getEnabledChannelsList channelMask)
  | .dutyCycleReq maxDCycle => m.onDutyCycleReq (getMaximumAllowedDutyCycle maxDCycle)
  | .rxParamSetupReq rx1DrOffset rx2DataRate frequency =>
      m.onRxParamSetupReq region rx1DrOffset rx2DataRate frequency
  | .newChannelReq chIndex frequency minDataRate maxDataRate =>
      m.onNewChannelReq chIndex frequency minDataRate maxDataRate
  | .devStatusReq | .rxTimingSetupAns | .dlChannelAns | .txParamSetupReq | .txParamSetupAns =>
      some m.onDevStatusReq
  | _ => some m

def parseCommands (commands : List (MacCommand K)) : Option (EndDeviceLoraMac K) :=
  commands.foldlM (parseCommand region) m

def uplinkHeader : LoraFrameHeader K where
  fPort := 1
  address := m.address
  adr := false
  adrAckReq := false
  ack := false
  fPending := false
  fOptsLen := 0
  fCnt := 0
  macCommands := []
  isUplink := true

def applyNecessaryOptions : LoraFrameHeader K × EndDeviceLoraMac K :=
  (m.macCommandList.foldl LoraFrameHeader.addCommand m.uplinkHeader, { m with macCommandList := [] })

end EndDeviceLoraMac

section Answers

def answered : MacCommandType → List MacCommandType
  | .linkAdrReq => [.linkAdrAns]
  | .dutyCycleReq => [.dutyCycleAns]
  | .rxParamSetupReq => [.rxParamSetupAns]
  | .newChannelReq => [.newChannelAns]
  | .devStatusReq | .rxTimingSetupAns | .dlChannelAns | .txParamSetupReq | .txParamSetupAns => [.devStatusAns]
  | _ => []

def answer (region : Region K) (m : EndDeviceLoraMac K) : MacCommand K → Option (MacCommand K)
  | .linkAdrReq dataRate txPower channelMask _ _ => do
      let enabledChannels := getEnabledChannelsList channelMask
      let dataRateOk ← m.dataRateOk region dataRate enabledChannels
      let dbm ← region.getDbmForTxPower txPower
      return .linkAdrAns (dbm ≠ 0) dataRateOk (m.channelMaskOk enabledChannels)
  | .dutyCycleReq _ => some .dutyCycleAns
  | .rxParamSetupReq rx1DrOffset rx2DataRate _ =>
      (region.knowsLazily rx2DataRate).map fun dataRateOk =>
        .rxParamSetupAns (rx1DrOffset ≤ 5) dataRateOk true
  | .newChannelReq .. => some (.newChannelAns true true)
  | .devStatusReq | .rxTimingSetupAns | .dlChannelAns | .txParamSetupReq | .txParamSetupAns =>
      some (.devStatusAns 10 10)
  | _ => none

/-- The answers to commands that come together, each as the ones before it
leave the device. -/
def answers (region : Region K) : EndDeviceLoraMac K → List (MacCommand K) → List (MacCommand K)
  | _, [] => []
  | m, command :: commands => (answer region m command).toList ++
      match m.parseCommand region command with
      | some m' => answers region m' commands
      | none => []

theorem answer_of_parseCommand {region : Region K} {m m' : EndDeviceLoraMac K} {command : MacCommand K}
    (h : m.parseCommand region command = some m') :
    m'.macCommandList = m.macCommandList ++ (answer region m command).toList := by
  cases command with
  | linkAdrReq dataRate txPower channelMask chMaskCntl nbRep =>
      rw [EndDeviceLoraMac.parseCommand, EndDeviceLoraMac.onLinkAdrReq] at h
      obtain ⟨dataRateOk, hrate, h⟩ := Option.bind_eq_some_iff.mp h
      obtain ⟨dbm, hdbm, h⟩ := Option.bind_eq_some_iff.mp h
      cases h
      rw [answer, hrate, hdbm]
      dsimp only [EndDeviceLoraMac.reply]
      split <;> rfl
  | dutyCycleReq maxDCycle =>
      rw [EndDeviceLoraMac.parseCommand, EndDeviceLoraMac.onDutyCycleReq] at h
      split at h
      · cases h
        rfl
      · cases h
  | rxParamSetupReq rx1DrOffset rx2DataRate frequency =>
      rw [EndDeviceLoraMac.parseCommand, EndDeviceLoraMac.onRxParamSetupReq] at h
      obtain ⟨dataRateOk, hrate, h⟩ := Option.bind_eq_some_iff.mp h
      cases h
      rw [answer, hrate]
      dsimp only [EndDeviceLoraMac.reply]
      split <;> rfl
  | newChannelReq chIndex frequency minDataRate maxDataRate =>
      obtain ⟨channelHelper, _, rfl⟩ := Option.map_eq_some_iff.mp h
      rfl
  | devStatusReq | rxTimingSetupAns | dlChannelAns | txParamSetupReq | txParamSetupAns =>
      cases h
      rfl
  | _ =>
      cases h
      exact (List.append_nil _).symm

theorem answers_of_parseCommands {region : Region K} {commands : List (MacCommand K)}
    {m m' : EndDeviceLoraMac K} (h : m.parseCommands region commands = some m') :
    m'.macCommandList = m.macCommandList ++ answers region m commands := by
  induction commands generalizing m with
  | nil =>
      cases h
      exact (List.append_nil _).symm
  | cons command commands ih =>
      rw [EndDeviceLoraMac.parseCommands, List.foldlM_cons] at h
      obtain ⟨m₁, hone, h⟩ := Option.bind_eq_some_iff.mp h
      rw [ih h, answer_of_parseCommand hone, answers, hone, List.append_assoc]

structure Parsed (m m' : EndDeviceLoraMac K) (commands : List (MacCommand K)) : Prop where
  address : m'.address = m.address
  subBandList : m'.channelHelper.subBandList = m.channelHelper.subBandList
  nextAggregated :
    m'.channelHelper.nextAggregatedTransmissionTime = m.channelHelper.nextAggregatedTransmissionTime
  aggregated : m'.channelHelper.aggregatedDutyCycle = m.channelHelper.aggregatedDutyCycle
  channels : m'.channelHelper.channelList.length = m.channelHelper.channelList.length
  answers : ∃ answers, m'.macCommandList = m.macCommandList ++ answers ∧
    answers.map MacCommand.className = commands.flatMap (answered ∘ MacCommand.className) ∧
    ∀ pl, ∀ answer ∈ answers, Faithful pl true answer

theorem Parsed.refl (m : EndDeviceLoraMac K) : Parsed m m [] :=
  ⟨rfl, rfl, rfl, rfl, rfl, [], (List.append_nil _).symm, rfl, by simp⟩

theorem Parsed.of_kept {m m' : EndDeviceLoraMac K} (haddress : m'.address = m.address)
    (hhelper : m'.channelHelper = m.channelHelper) (hlist : m'.macCommandList = m.macCommandList) :
    Parsed m m' [] := by
  refine ⟨haddress, ?_, ?_, ?_, ?_, [], ?_, rfl, by simp⟩
  · rw [hhelper]
  · rw [hhelper]
  · rw [hhelper]
  · rw [hhelper]
  · rw [hlist, List.append_nil]

theorem Parsed.trans {m₁ m₂ m₃ : EndDeviceLoraMac K} {commands commands' : List (MacCommand K)}
    (h : Parsed m₁ m₂ commands) (h' : Parsed m₂ m₃ commands') : Parsed m₁ m₃ (commands ++ commands') := by
  obtain ⟨as, hlist, hclass, hfaithful⟩ := h.answers
  obtain ⟨as', hlist', hclass', hfaithful'⟩ := h'.answers
  refine ⟨h'.address.trans h.address, h'.subBandList.trans h.subBandList,
    h'.nextAggregated.trans h.nextAggregated, h'.aggregated.trans h.aggregated,
    h'.channels.trans h.channels, as ++ as', ?_, ?_, fun pl a ha => ?_⟩
  · rw [hlist', hlist, List.append_assoc]
  · rw [List.map_append, hclass, hclass', List.flatMap_append]
  · exact (List.mem_append.mp ha).elim (hfaithful pl a) (hfaithful' pl a)

theorem Parsed.of_reply {m set : EndDeviceLoraMac K} {command answer : MacCommand K}
    (hset : Parsed m set []) (hclass : answered command.className = [answer.className])
    (hfaithful : ∀ pl, Faithful pl true answer) : Parsed m (set.reply answer) [command] := by
  refine hset.trans ⟨rfl, rfl, rfl, rfl, rfl, [answer], rfl, ?_, fun pl a ha => ?_⟩
  · rw [List.flatMap_singleton, Function.comp_apply, hclass, List.map_singleton]
  · rw [List.mem_singleton.mp ha]
    exact hfaithful pl

theorem parsed_of_parseCommand {region : Region K} {m m' : EndDeviceLoraMac K} {command : MacCommand K}
    (h : m.parseCommand region command = some m') : Parsed m m' [command] := by
  have hquiet (m' : EndDeviceLoraMac K) (hkept : Parsed m m' []) (hclass : answered command.className = []) :
      Parsed m m' [command] := by
    obtain ⟨as, hlist, has, hfaithful⟩ := hkept.answers
    refine { hkept with answers := ⟨as, hlist, has.trans ?_, hfaithful⟩ }
    rw [List.flatMap_singleton, Function.comp_apply, hclass, List.flatMap_nil]
  cases command with
  | linkAdrReq dataRate txPower channelMask chMaskCntl nbRep =>
      rw [EndDeviceLoraMac.parseCommand, EndDeviceLoraMac.onLinkAdrReq] at h
      obtain ⟨dataRateOk, _, h⟩ := Option.bind_eq_some_iff.mp h
      obtain ⟨dbm, _, h⟩ := Option.bind_eq_some_iff.mp h
      cases h
      refine .of_reply ?_ rfl fun pl => ⟨rfl, trivial⟩
      split
      · exact ⟨rfl, rfl, rfl, rfl, List.length_mapIdx, [], (List.append_nil _).symm, rfl, by simp⟩
      · exact .refl m
  | dutyCycleReq maxDCycle =>
      rw [EndDeviceLoraMac.parseCommand, EndDeviceLoraMac.onDutyCycleReq] at h
      split at h
      · cases h
        exact .of_reply (.of_kept rfl rfl rfl) rfl fun pl => ⟨rfl, trivial⟩
      · cases h
  | rxParamSetupReq rx1DrOffset rx2DataRate frequency =>
      rw [EndDeviceLoraMac.parseCommand, EndDeviceLoraMac.onRxParamSetupReq] at h
      obtain ⟨dataRateOk, _, h⟩ := Option.bind_eq_some_iff.mp h
      cases h
      refine .of_reply ?_ rfl fun pl => ⟨rfl, trivial⟩
      split
      · exact .of_kept rfl rfl rfl
      · exact .refl m
  | newChannelReq chIndex frequency minDataRate maxDataRate =>
      obtain ⟨channelHelper, hset, rfl⟩ := Option.map_eq_some_iff.mp h
      refine .of_reply ?_ rfl fun pl => ⟨rfl, trivial⟩
      rw [LogicalLoraChannelHelper.setChannel] at hset
      split at hset
      · cases hset
        exact ⟨rfl, rfl, rfl, rfl, List.length_set, [], (List.append_nil _).symm, rfl, by simp⟩
      · cases hset
  | devStatusReq | rxTimingSetupAns | dlChannelAns | txParamSetupReq | txParamSetupAns =>
      cases h
      have hmargin : (10 : UInt8) < 64 := by decide
      exact .of_reply (.refl m) rfl fun pl => ⟨rfl, hmargin⟩
  | _ =>
      cases h
      exact hquiet _ (.of_kept rfl rfl rfl) rfl

theorem parsed_of_parseCommands {region : Region K} {commands : List (MacCommand K)}
    {m m' : EndDeviceLoraMac K} (h : m.parseCommands region commands = some m') : Parsed m m' commands := by
  induction commands generalizing m with
  | nil =>
      cases h
      exact .refl _
  | cons command commands ih =>
      rw [EndDeviceLoraMac.parseCommands, List.foldlM_cons] at h
      obtain ⟨m₁, hone, h⟩ := Option.bind_eq_some_iff.mp h
      exact (parsed_of_parseCommand hone).trans (ih h)

end Answers

section Options

omit [Field K] [LinearOrder K] in
theorem addCommands {h : LoraFrameHeader K} (hc : Counted h) (commands : List (MacCommand K)) :
    let h' := commands.foldl LoraFrameHeader.addCommand h
    h'.macCommands = h.macCommands ++ commands ∧ Counted h' ∧ h'.isUplink = h.isUplink ∧
      h'.address = h.address := by
  induction commands generalizing h with
  | nil => exact ⟨(List.append_nil _).symm, hc, rfl, rfl⟩
  | cons command commands ih =>
      obtain ⟨hcommands, hcounted, huplink, haddress⟩ := ih (counted_addCommand hc command)
      refine ⟨hcommands.trans ?_, hcounted, huplink, haddress⟩
      rw [LoraFrameHeader.addCommand, List.append_assoc]
      rfl

theorem applied (m : EndDeviceLoraMac K) :
    m.applyNecessaryOptions.1.macCommands = m.macCommandList ∧ Counted m.applyNecessaryOptions.1 ∧
      m.applyNecessaryOptions.1.isUplink = true ∧ m.applyNecessaryOptions.1.address = m.address := by
  have hcounted : Counted m.uplinkHeader := rfl
  exact addCommands hcounted m.macCommandList

end Options

section Tables

structure Tuned (region : Region K) (m : EndDeviceLoraMac K) : Prop where
  dataRate : region.knows m.dataRate = some true
  rx1DrOffset : m.rx1DrOffset ≤ 5

/-- The tables that are looked up without a check have what they need to have. -/
structure Region.Complete (region : Region K) : Prop where
  maxAppPayload : ∀ dataRate, region.knows dataRate = some true →
    dataRate.toNat < region.maxAppPayloadForDataRate.length
  replyDataRate : ∀ dataRate, region.knows dataRate = some true →
    ∃ row, region.replyDataRateMatrix[dataRate.toNat]? = some row ∧ row.length = 6

theorem known_of_dataRateOk {region : Region K} {m : EndDeviceLoraMac K} {dataRate : UInt8}
    {enabledChannels : List Nat} (h : m.dataRateOk region dataRate enabledChannels = some true) :
    region.knows dataRate = some true := by
  rw [EndDeviceLoraMac.dataRateOk] at h
  split at h
  · next hknown => exact hknown
  · exact h

theorem tuned_of_parseCommand {region : Region K} {m m' : EndDeviceLoraMac K} {command : MacCommand K}
    (ht : Tuned region m) (h : m.parseCommand region command = some m') : Tuned region m' := by
  have hkept (m' : EndDeviceLoraMac K) (hrate : m'.dataRate = m.dataRate)
      (hoffset : m'.rx1DrOffset = m.rx1DrOffset) :
      Tuned region m' := ⟨hrate ▸ ht.dataRate, hoffset ▸ ht.rx1DrOffset⟩
  cases command with
  | linkAdrReq dataRate txPower channelMask chMaskCntl nbRep =>
      rw [EndDeviceLoraMac.parseCommand, EndDeviceLoraMac.onLinkAdrReq] at h
      obtain ⟨dataRateOk, hok, h⟩ := Option.bind_eq_some_iff.mp h
      obtain ⟨dbm, _, h⟩ := Option.bind_eq_some_iff.mp h
      cases h
      split
      · next hall => exact ⟨known_of_dataRateOk (hall.2.1 ▸ hok), ht.rx1DrOffset⟩
      · exact hkept _ rfl rfl
  | dutyCycleReq maxDCycle =>
      rw [EndDeviceLoraMac.parseCommand, EndDeviceLoraMac.onDutyCycleReq] at h
      split at h
      · cases h
        exact hkept _ rfl rfl
      · cases h
  | rxParamSetupReq rx1DrOffset rx2DataRate frequency =>
      rw [EndDeviceLoraMac.parseCommand, EndDeviceLoraMac.onRxParamSetupReq] at h
      obtain ⟨dataRateOk, _, h⟩ := Option.bind_eq_some_iff.mp h
      cases h
      split
      · next hall => exact ⟨ht.dataRate, hall.1⟩
      · exact hkept _ rfl rfl
  | newChannelReq chIndex frequency minDataRate maxDataRate =>
      obtain ⟨channelHelper, _, rfl⟩ := Option.map_eq_some_iff.mp h
      exact hkept _ rfl rfl
  | _ =>
      cases h
      exact hkept _ rfl rfl

theorem tuned_of_parseCommands {region : Region K} {commands : List (MacCommand K)} {m m' : EndDeviceLoraMac K}
    (ht : Tuned region m) (h : m.parseCommands region commands = some m') : Tuned region m' := by
  induction commands generalizing m with
  | nil =>
      cases h
      exact ht
  | cons command commands ih =>
      rw [EndDeviceLoraMac.parseCommands, List.foldlM_cons] at h
      obtain ⟨m₁, hone, h⟩ := Option.bind_eq_some_iff.mp h
      exact ih (tuned_of_parseCommand ht hone) h

end Tables

section Rejects

variable {region : Region K} {m : EndDeviceLoraMac K}

def Rejects (region : Region K) (m : EndDeviceLoraMac K) : MacCommand K → Prop
  | .linkAdrReq dataRate txPower channelMask _ _ =>
      let channelList := m.channelHelper.channelList
      txPower.toNat = region.txDbmForTxPower.length ∨
        dataRate.toNat = region.bandwidthForDataRate.length ∨
        region.knows dataRate = some true ∧ channelMask.toNat.testBit channelList.length ∧
          channelMask.toNat < 2 ^ (channelList.length + 1) ∧
          ∀ i channel, channelMask.toNat.testBit i → channelList[i]? = some channel → ¬ Supports channel dataRate
  | .dutyCycleReq maxDCycle => maxDCycle = 0
  | .rxParamSetupReq _ rx2DataRate _ =>
      region.getSfFromDataRate rx2DataRate ≠ 0 ∧ rx2DataRate.toNat = region.bandwidthForDataRate.length
  | .newChannelReq chIndex _ _ _ => m.channelHelper.channelList.length ≤ chIndex.toNat
  | _ => False

omit [LinearOrder K] in
theorem at_eq_none_iff {t : List K} {n : Nat} :
    (if t.length < n then some 0 else t[n]?) = none ↔ n = t.length := by
  split
  · next h => simp only [reduceCtorEq, false_iff]; omega
  · next h => rw [List.getElem?_eq_none_iff]; omega

theorem knows_eq_none_iff {dataRate : UInt8} :
    region.knows dataRate = none ↔ dataRate.toNat = region.bandwidthForDataRate.length := by
  rw [Region.knows, Option.map_eq_none_iff, Region.getBandwidthFromDataRate, at_eq_none_iff]

omit [Field K] [LinearOrder K] in
theorem foundAvailableChannel_eq_none_iff {channelList : List (LogicalLoraChannel K)} {dataRate : UInt8}
    {is : List Nat} (hsorted : is.Pairwise (· < ·)) (hle : ∀ i ∈ is, i ≤ channelList.length) :
    foundAvailableChannel channelList dataRate is = none ↔
      channelList.length ∈ is ∧
        ∀ i ∈ is, ∀ channel, channelList[i]? = some channel → ¬ Supports channel dataRate := by
  induction is with
  | nil => simp [foundAvailableChannel]
  | cons i is ih =>
      rw [List.pairwise_cons] at hsorted
      rw [List.forall_mem_cons] at hle
      rw [foundAvailableChannel]
      split
      · next hnone =>
          have hlen := List.getElem?_eq_none_iff.mp hnone
          obtain rfl : i = channelList.length := Nat.le_antisymm hle.1 hlen
          obtain rfl : is = [] := List.eq_nil_iff_forall_not_mem.mpr fun j hj =>
            absurd (hsorted.1 j hj) (Nat.not_lt.mpr (hle.2 j hj))
          simp
      · next channel hsome =>
          have hlt : i < channelList.length := (List.getElem?_eq_some_iff.mp hsome).1
          by_cases hsupports : Supports channel dataRate
          · rw [if_pos hsupports]
            refine iff_of_false (by simp) fun h => h.2 i List.mem_cons_self channel hsome hsupports
          · rw [if_neg hsupports, ih hsorted.2 hle.2, List.mem_cons, List.forall_mem_cons]
            have hhere : ∀ c, channelList[i]? = some c → ¬ Supports c dataRate := by
              rintro c hc
              obtain rfl := Option.some.inj (hsome.symm.trans hc)
              exact hsupports
            constructor
            · exact fun ⟨hmem, hrest⟩ => ⟨.inr hmem, hhere, hrest⟩
            · rintro ⟨hmem, _, hrest⟩
              exact ⟨hmem.resolve_left hlt.ne', hrest⟩

theorem mem_enabled_iff {channelMask : UInt16} {i : Nat} :
    i ∈ getEnabledChannelsList channelMask ↔ channelMask.toNat.testBit i := by
  rw [getEnabledChannelsList, List.mem_filter, List.mem_range, and_iff_right_iff_imp]
  intro h
  by_contra hge
  have hlt : channelMask.toNat < 2 ^ i :=
    channelMask.toNat_lt.trans_le (Nat.pow_le_pow_right (by decide) (Nat.le_of_not_lt hge))
  rw [Nat.testBit_eq_false_of_lt hlt] at h
  cases h

theorem channelMaskOk_iff {channelMask : UInt16} :
    m.channelMaskOk (getEnabledChannelsList channelMask) ↔
      channelMask.toNat < 2 ^ (m.channelHelper.channelList.length + 1) := by
  rw [EndDeviceLoraMac.channelMaskOk, List.all_eq_true]
  simp only [mem_enabled_iff, decide_eq_true_eq]
  constructor
  · intro h
    refine Nat.lt_pow_two_of_testBit _ fun i hi => ?_
    by_contra hbit
    have := h i (by simpa using hbit)
    omega
  · intro h i hi
    by_contra hgt
    have hlt : channelMask.toNat < 2 ^ i := h.trans_le (Nat.pow_le_pow_right (by decide) (by omega))
    rw [Nat.testBit_eq_false_of_lt hlt] at hi
    cases hi

theorem dataRateOk_eq_none_iff {dataRate : UInt8} {channelMask : UInt16} :
    m.dataRateOk region dataRate (getEnabledChannelsList channelMask) = none ↔
      dataRate.toNat = region.bandwidthForDataRate.length ∨
        region.knows dataRate = some true ∧ channelMask.toNat.testBit m.channelHelper.channelList.length ∧
          channelMask.toNat < 2 ^ (m.channelHelper.channelList.length + 1) ∧
          ∀ i channel, channelMask.toNat.testBit i → m.channelHelper.channelList[i]? = some channel →
            ¬ Supports channel dataRate := by
  rw [EndDeviceLoraMac.dataRateOk, ← knows_eq_none_iff]
  split
  · next hknown =>
      have hsorted : (getEnabledChannelsList channelMask).Pairwise (· < ·) :=
        List.pairwise_lt_range.filter _
      rw [hknown]
      simp only [reduceCtorEq, false_or, true_and]
      by_cases hmask : m.channelMaskOk (getEnabledChannelsList channelMask)
      · have hle : ∀ i ∈ getEnabledChannelsList channelMask, i ≤ m.channelHelper.channelList.length := by
          simpa [EndDeviceLoraMac.channelMaskOk] using hmask
        rw [if_pos hmask, foundAvailableChannel_eq_none_iff hsorted hle]
        have hlt := channelMaskOk_iff.mp hmask
        simp only [mem_enabled_iff, hlt, true_and]
        refine and_congr_right fun _ => ⟨fun h i c hi hc => h i hi c hc, fun h i hi c hc => h i c hi hc⟩
      · rw [if_neg hmask]
        refine iff_of_false (by simp) fun h => hmask (channelMaskOk_iff.mpr h.2.1)
  · next known hknown =>
      refine ⟨.inl, fun h => h.elim id fun h => absurd h.1 hknown⟩

theorem properFraction_iff [IsStrictOrderedRing K] {d : UInt8} :
    (0 ≤ getMaximumAllowedDutyCycle (K := K) d ∧ getMaximumAllowedDutyCycle (K := K) d < 1) ↔ d ≠ 0 := by
  rw [getMaximumAllowedDutyCycle]
  by_cases hoff : d = 255
  · rw [if_pos hoff]
    exact iff_of_true ⟨le_refl 0, zero_lt_one⟩ (by rw [hoff]; decide)
  · rw [if_neg hoff]
    by_cases hzero : d = 0
    · rw [if_pos hzero]
      exact iff_of_false (fun h => lt_irrefl _ h.2) (not_not.mpr hzero)
    · rw [if_neg hzero]
      have hpos : d.toNat ≠ 0 := fun h => hzero (UInt8.toNat_inj.mp h)
      have hpow : (1 : K) < 2 ^ d.toNat := one_lt_pow₀ one_lt_two hpos
      refine iff_of_true ⟨by positivity, ?_⟩ hzero
      rwa [div_lt_one (zero_lt_one.trans hpow)]

/-- A command ends the program exactly when it names the one index past a table
or past the channels that a check lets through, sets a channel at any index past
the channels, where nothing is checked, or sets no limit to the duty cycle. -/
theorem parseCommand_eq_none_iff [IsStrictOrderedRing K] {command : MacCommand K} :
    m.parseCommand region command = none ↔ Rejects region m command := by
  cases command with
  | linkAdrReq dataRate txPower channelMask chMaskCntl nbRep =>
      have hdbm := at_eq_none_iff (t := region.txDbmForTxPower) (n := txPower.toNat)
      rw [Rejects, ← hdbm, ← dataRateOk_eq_none_iff, EndDeviceLoraMac.parseCommand,
        EndDeviceLoraMac.onLinkAdrReq, Region.getDbmForTxPower]
      cases m.dataRateOk region dataRate (getEnabledChannelsList channelMask) with
      | none => exact iff_of_true rfl (.inr rfl)
      | some dataRateOk =>
          cases (if region.txDbmForTxPower.length < txPower.toNat then some 0
            else region.txDbmForTxPower[txPower.toNat]?) with
          | none => exact iff_of_true rfl (.inl rfl)
          | some dbm => exact iff_of_false (by simp) (by simp)
  | dutyCycleReq maxDCycle =>
      rw [EndDeviceLoraMac.parseCommand, EndDeviceLoraMac.onDutyCycleReq, Rejects]
      have hproper := properFraction_iff (K := K) (d := maxDCycle)
      by_cases hzero : maxDCycle = 0
      · rw [if_neg fun h => hproper.mp h hzero]
        exact iff_of_true rfl hzero
      · rw [if_pos (hproper.mpr hzero)]
        exact iff_of_false (by simp) hzero
  | rxParamSetupReq rx1DrOffset rx2DataRate frequency =>
      rw [Rejects, ← knows_eq_none_iff, EndDeviceLoraMac.parseCommand, EndDeviceLoraMac.onRxParamSetupReq,
        Region.knowsLazily]
      split
      · next hsf => exact iff_of_false (by simp) fun h => h.1 hsf
      · next hsf => cases region.knows rx2DataRate <;> simp [hsf]
  | newChannelReq chIndex frequency minDataRate maxDataRate =>
      rw [EndDeviceLoraMac.parseCommand, EndDeviceLoraMac.onNewChannelReq, Option.map_eq_none_iff, Rejects,
        LogicalLoraChannelHelper.setChannel, ← Nat.not_lt]
      split <;> simp [*]
  | _ => simp [EndDeviceLoraMac.parseCommand, Rejects]

theorem parseCommands_eq_none_iff [IsStrictOrderedRing K] {commands : List (MacCommand K)} :
    m.parseCommands region commands = none ↔ ∃ before command after m', commands = before ++ command :: after ∧
      m.parseCommands region before = some m' ∧ Rejects region m' command := by
  induction commands generalizing m with
  | nil => exact iff_of_false nofun fun ⟨before, _, _, _, hnil, _⟩ => by cases before <;> cases hnil
  | cons command commands ih =>
      rw [EndDeviceLoraMac.parseCommands, List.foldlM_cons]
      cases hone : m.parseCommand region command with
      | none =>
          exact iff_of_true rfl ⟨[], command, commands, m, rfl, rfl, parseCommand_eq_none_iff.mp hone⟩
      | some m₁ =>
          refine Iff.trans ih ⟨?_, ?_⟩
          · rintro ⟨before, rejected, after, m', rfl, hbefore, hrejects⟩
            refine ⟨command :: before, rejected, after, m', rfl, ?_, hrejects⟩
            rw [EndDeviceLoraMac.parseCommands, List.foldlM_cons, hone]
            exact hbefore
          · rintro ⟨before, rejected, after, m', hsplit, hbefore, hrejects⟩
            cases before with
            | nil =>
                cases hsplit
                cases hbefore
                rw [parseCommand_eq_none_iff.mpr hrejects] at hone
                cases hone
            | cons first before =>
                cases hsplit
                rw [EndDeviceLoraMac.parseCommands, List.foldlM_cons, hone] at hbefore
                exact ⟨before, rejected, after, m', rfl, hbefore, hrejects⟩

end Rejects

end UavMonitoring.EndDeviceMac
