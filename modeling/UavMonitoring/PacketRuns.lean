import Mathlib.Data.List.Dedup
import UavMonitoring.PacketTrackers
import UavMonitoring.Tally

namespace UavMonitoring.PacketRuns

open Std (ExtTreeMap)
open Basics MapSweep PacketTrackers Tally

structure PacketsTracked (es : List (Time × Event)) (m : ExtTreeMap Nat PacketStatus) : Prop where
  fresh : ((transmissions es).map Prod.fst).Nodup
  known : ∀ packet, packet ∈ m ↔ packet ∈ (transmissions es).map Prod.fst
  sent : ∀ packet, receptions es packet ≠ [] → packet ∈ m
  sender : ∀ packet st, m[packet]? = some st → (packet, st.senderId) ∈ transmissions es
  recv : ∀ packet st, m[packet]? = some st → (st.recv = true ↔ receptions es packet ≠ [])
  tRecvGw : ∀ packet st, m[packet]? = some st → (∀ t ∈ receptions es packet, t ≠ 0) →
    st.tRecvGw = (receptions es packet).headD 0

def sentBy (es : List (Time × Event)) (ed : Nat) : Nat :=
  (transmissions es).countP fun t => decide (t.2 = ed)

def gotThrough (es : List (Time × Event)) (packet : Nat) : Bool := decide (receptions es packet ≠ [])

def receivedFrom (es : List (Time × Event)) (ed : Nat) : Nat :=
  (transmissions es).countP fun t => decide (t.2 = ed) && gotThrough es t.1

structure EdsCounted (es : List (Time × Event)) (m : ExtTreeMap Nat EdStatus) : Prop where
  known : ∀ ed, ed ∈ m ↔ ed ∈ (transmissions es).map Prod.snd
  nSent : ∀ ed st, m[ed]? = some st → st.nSent = UInt32.ofNat (sentBy es ed)
  nRecv : ∀ ed st, m[ed]? = some st → st.nRecv = UInt32.ofNat (receivedFrom es ed)

structure RelaysTracked (es : List (Time × Event)) (m : ExtTreeMap Nat PacketStatus) : Prop where
  known : ∀ uid, uid ∈ m ↔ relays es uid ≠ []
  relayed : ∀ uid, arrivals es uid ≠ [] → uid ∈ m
  tSent : ∀ uid st, m[uid]? = some st → (relays es uid).head? = some st.tSent
  recv : ∀ uid st, m[uid]? = some st → (st.recv = true ↔ arrivals es uid ≠ [])
  tRecvBs : ∀ uid st, m[uid]? = some st → st.tRecvBs = (arrivals es uid).getLastD 0

structure Books (es : List (Time × Event)) (s : Trackers) : Prop where
  packets : PacketsTracked es s.packetTracker
  eds : EdsCounted es s.edTracker
  relays : RelaysTracked es s.packetRelayedTracker

theorem transmissions_concat (es : List (Time × Event)) (e : Time × Event) :
    transmissions (es ++ [e]) = transmissions es ++ (transmissionOf e).toList :=
  filterMap_concat _ es e

theorem receptions_concat (es : List (Time × Event)) (e : Time × Event) (packet : Nat) :
    receptions (es ++ [e]) packet = receptions es packet ++ (receptionOf packet e).toList :=
  filterMap_concat _ es e

theorem relays_concat (es : List (Time × Event)) (e : Time × Event) (uid : Nat) :
    relays (es ++ [e]) uid = relays es uid ++ (relayOf uid e).toList := filterMap_concat _ es e

theorem arrivals_concat (es : List (Time × Event)) (e : Time × Event) (uid : Nat) :
    arrivals (es ++ [e]) uid = arrivals es uid ++ (arrivalOf uid e).toList := filterMap_concat _ es e

theorem transmissions_quiet (es : List (Time × Event)) {e : Time × Event} (h : transmissionOf e = none) :
    transmissions (es ++ [e]) = transmissions es := by
  rw [transmissions_concat, h, Option.toList_none, List.append_nil]

theorem receptions_quiet (es : List (Time × Event)) {e : Time × Event} {packet : Nat}
    (h : receptionOf packet e = none) : receptions (es ++ [e]) packet = receptions es packet := by
  rw [receptions_concat, h, Option.toList_none, List.append_nil]

theorem relays_quiet (es : List (Time × Event)) {e : Time × Event} {uid : Nat}
    (h : relayOf uid e = none) : relays (es ++ [e]) uid = relays es uid := by
  rw [relays_concat, h, Option.toList_none, List.append_nil]

theorem arrivals_quiet (es : List (Time × Event)) {e : Time × Event} {uid : Nat}
    (h : arrivalOf uid e = none) : arrivals (es ++ [e]) uid = arrivals es uid := by
  rw [arrivals_concat, h, Option.toList_none, List.append_nil]

theorem PacketsTracked.quiet {es : List (Time × Event)} {m : ExtTreeMap Nat PacketStatus}
    (h : PacketsTracked es m) (e : Time × Event) (ht : transmissionOf e = none)
    (hr : ∀ packet, receptionOf packet e = none) : PacketsTracked (es ++ [e]) m := by
  have hts : transmissions (es ++ [e]) = transmissions es := transmissions_quiet es ht
  have hrs : ∀ packet, receptions (es ++ [e]) packet = receptions es packet :=
    fun packet => receptions_quiet es (hr packet)
  constructor <;> simp only [hts, hrs]
  exacts [h.fresh, h.known, h.sent, h.sender, h.recv, h.tRecvGw]

theorem EdsCounted.quiet {es : List (Time × Event)} {m : ExtTreeMap Nat EdStatus}
    (h : EdsCounted es m) (e : Time × Event) (ht : transmissionOf e = none)
    (hr : ∀ packet, receptionOf packet e = none) : EdsCounted (es ++ [e]) m := by
  have hts : transmissions (es ++ [e]) = transmissions es := transmissions_quiet es ht
  have hrs : ∀ packet, receptions (es ++ [e]) packet = receptions es packet :=
    fun packet => receptions_quiet es (hr packet)
  constructor <;> simp only [hts, sentBy, receivedFrom, gotThrough, hrs]
  exacts [h.known, h.nSent, h.nRecv]

theorem RelaysTracked.quiet {es : List (Time × Event)} {m : ExtTreeMap Nat PacketStatus}
    (h : RelaysTracked es m) (e : Time × Event) (hr : ∀ uid, relayOf uid e = none)
    (ha : ∀ uid, arrivalOf uid e = none) : RelaysTracked (es ++ [e]) m := by
  have hrs : ∀ uid, PacketTrackers.relays (es ++ [e]) uid = PacketTrackers.relays es uid :=
    fun uid => relays_quiet es (hr uid)
  have has : ∀ uid, arrivals (es ++ [e]) uid = arrivals es uid := fun uid => arrivals_quiet es (ha uid)
  constructor <;> simp only [hrs, has]
  exacts [h.known, h.relayed, h.tSent, h.recv, h.tRecvBs]

theorem EdsCounted.insert_same {es : List (Time × Event)} {m : ExtTreeMap Nat EdStatus}
    (h : EdsCounted es m) {ed : Nat} {st st' : EdStatus} (hst : m[ed]? = some st)
    (hsent : st'.nSent = st.nSent) (hrecv : st'.nRecv = st.nRecv) :
    EdsCounted es (m.insert ed st') where
  known k := by rw [mem_insert_of_getElem? hst, h.known]
  nSent := forall_insert (hsent ▸ h.nSent ed st hst) fun k st _ hk => h.nSent k st hk
  nRecv := forall_insert (hrecv ▸ h.nRecv ed st hst) fun k st _ hk => h.nRecv k st hk

theorem receptions_nil {es : List (Time × Event)} {m : ExtTreeMap Nat PacketStatus}
    (h : PacketsTracked es m) {packet : Nat} (hn : packet ∉ (transmissions es).map Prod.fst) :
    receptions es packet = [] := by
  by_contra hr
  exact hn ((h.known packet).mp (h.sent packet hr))

theorem PacketsTracked.transmission {es : List (Time × Event)} {m : ExtTreeMap Nat PacketStatus}
    (h : PacketsTracked es m) (now : Time) {packet : Nat} (systemId : Nat)
    (hn : packet ∉ (transmissions es).map Prod.fst) :
    PacketsTracked (es ++ [(now, .transmissionCallback packet systemId)])
      (m.insertIfNew packet ⟨packet, systemId, false, now, 0, 0⟩) := by
  have hts : transmissions (es ++ [(now, .transmissionCallback packet systemId)]) =
      transmissions es ++ [(packet, systemId)] := transmissions_concat _ _
  have hrs : ∀ p, receptions (es ++ [(now, .transmissionCallback packet systemId)]) p =
      receptions es p := fun _ => receptions_quiet es rfl
  have hnil := receptions_nil h hn
  rw [insertIfNew_of_not_mem fun hm => hn ((h.known packet).mp hm)]
  constructor <;> simp only [hts, hrs]
  · rw [List.map_append, List.nodup_append]
    refine ⟨h.fresh, List.nodup_singleton _, ?_⟩
    rintro a ha b hb rfl
    exact hn (by rwa [List.mem_singleton.mp hb] at ha)
  · intro p
    rw [mem_insert_iff, h.known]
    simp [or_comm]
  · intro p hp
    exact mem_insert_iff.mpr (.inr (h.sent p hp))
  · apply forall_insert
    · simp
    · exact fun p st _ hp => List.mem_append_left _ (h.sender p st hp)
  · apply forall_insert
    · simp [hnil]
    · exact fun p st _ hp => h.recv p st hp
  · apply forall_insert
    · simp [hnil]
    · exact fun p st _ hp => h.tRecvGw p st hp

theorem sentBy_of_not_mem {es : List (Time × Event)} {ed : Nat}
    (h : ed ∉ (transmissions es).map Prod.snd) : sentBy es ed = 0 := by
  rw [sentBy, List.countP_eq_zero]
  intro t ht
  simpa using fun he => h (List.mem_map.mpr ⟨t, ht, he⟩)

theorem receivedFrom_le_sentBy (es : List (Time × Event)) (ed : Nat) :
    receivedFrom es ed ≤ sentBy es ed := by
  apply List.countP_mono_left
  intro t _ ht
  exact (Bool.and_eq_true_iff.mp ht).1

theorem getD_counts {es : List (Time × Event)} {m : ExtTreeMap Nat EdStatus} (h : EdsCounted es m)
    (ed : Nat) : (m[ed]?.getD newEdStatus).nSent = UInt32.ofNat (sentBy es ed) ∧
      (m[ed]?.getD newEdStatus).nRecv = UInt32.ofNat (receivedFrom es ed) := by
  cases hst : m[ed]? with
  | some st => exact ⟨h.nSent ed st hst, h.nRecv ed st hst⟩
  | none =>
      have hn : ed ∉ (transmissions es).map Prod.snd := by
        rw [← h.known, ExtTreeMap.mem_iff_isSome_getElem?, hst]
        simp
      have hsent := sentBy_of_not_mem hn
      have hrecv : receivedFrom es ed = 0 := Nat.le_zero.mp (hsent ▸ receivedFrom_le_sentBy es ed)
      rw [hsent, hrecv]
      exact ⟨rfl, rfl⟩

theorem EdsCounted.transmission {es : List (Time × Event)} {m : ExtTreeMap Nat EdStatus}
    (h : EdsCounted es m) (now : Time) {packet : Nat} (systemId : Nat)
    (hnil : receptions es packet = []) :
    EdsCounted (es ++ [(now, .transmissionCallback packet systemId)])
      (m.insert systemId { m[systemId]?.getD newEdStatus with
        nSent := (m[systemId]?.getD newEdStatus).nSent + 1 }) := by
  have hts : transmissions (es ++ [(now, .transmissionCallback packet systemId)]) =
      transmissions es ++ [(packet, systemId)] := transmissions_concat _ _
  have hsent (ed : Nat) : sentBy (es ++ [(now, .transmissionCallback packet systemId)]) ed =
      sentBy es ed + if systemId = ed then 1 else 0 := by
    simp [sentBy, hts, List.countP_append, List.countP_cons]
  have hrecv (ed : Nat) : receivedFrom (es ++ [(now, .transmissionCallback packet systemId)]) ed =
      receivedFrom es ed := by
    simp [receivedFrom, gotThrough, hts, receptions_concat, receptionOf, List.countP_append, hnil]
  have hold := getD_counts h systemId
  constructor
  · intro ed
    rw [mem_insert_iff, h.known, hts]
    simp [or_comm]
  · apply forall_insert
    · rw [hsent, if_pos rfl, UInt32.ofNat_add, hold.1]
      rfl
    · intro ed st hne hst
      rw [hsent, if_neg hne.symm]
      exact h.nSent ed st hst
  · apply forall_insert
    · rw [hrecv, hold.2]
    · intro ed st _ hst
      rw [hrecv]
      exact h.nRecv ed st hst

theorem PacketsTracked.reception {es : List (Time × Event)} {m : ExtTreeMap Nat PacketStatus}
    (h : PacketsTracked es m) (now : Time) {packet : Nat} (systemId : Nat) {st : PacketStatus}
    (hst : m[packet]? = some st) :
    PacketsTracked (es ++ [(now, .packetReceptionCallback packet systemId)])
      (m.insert packet (received now st)) := by
  have hts : transmissions (es ++ [(now, .packetReceptionCallback packet systemId)]) =
      transmissions es := transmissions_quiet es rfl
  have hself : receptions (es ++ [(now, .packetReceptionCallback packet systemId)]) packet =
      receptions es packet ++ [now] := by simp [receptions_concat, receptionOf]
  have hother (p : Nat) (hne : p ≠ packet) :
      receptions (es ++ [(now, .packetReceptionCallback packet systemId)]) p = receptions es p := by
    simp [receptions_concat, receptionOf, hne.symm]
  constructor
  · rw [hts]
    exact h.fresh
  · intro p
    rw [mem_insert_of_getElem? hst, h.known, hts]
  · intro p hp
    rw [mem_insert_of_getElem? hst]
    by_cases hne : p = packet
    · exact hne ▸ mem_of_getElem? hst
    · exact h.sent p (hother p hne ▸ hp)
  · rw [hts]
    exact forall_insert (h.sender packet st hst) fun p st _ hp => h.sender p st hp
  · apply forall_insert
    · simp [hself, received]
    · intro p st hne hp
      rw [hother p hne]
      exact h.recv p st hp
  · apply forall_insert
    · rw [hself]
      intro hpos
      have hold := h.tRecvGw packet st hst fun t ht => hpos t (List.mem_append_left _ ht)
      cases hr : receptions es packet with
      | nil => simp [received, hold, hr]
      | cons t ts =>
          have ht : t ≠ 0 := hpos t (by simp [hr])
          simp [received, hold, hr, ht]
    · intro p st hne hp
      rw [hother p hne]
      exact h.tRecvGw p st hp

theorem gotThrough_reception (es : List (Time × Event)) (now : Time) (packet systemId p : Nat) :
    gotThrough (es ++ [(now, .packetReceptionCallback packet systemId)]) p =
      (gotThrough es p || decide (p = packet)) := by
  by_cases hp : p = packet
  · simp [gotThrough, receptions_concat, receptionOf, hp]
  · have hne : packet ≠ p := Ne.symm hp
    simp [gotThrough, receptions_concat, receptionOf, hp, hne]

theorem EdsCounted.reception_again {es : List (Time × Event)} {m : ExtTreeMap Nat EdStatus}
    (h : EdsCounted es m) (now : Time) {packet : Nat} (systemId : Nat)
    (hr : receptions es packet ≠ []) :
    EdsCounted (es ++ [(now, .packetReceptionCallback packet systemId)]) m := by
  have hts : transmissions (es ++ [(now, .packetReceptionCallback packet systemId)]) =
      transmissions es := transmissions_quiet es rfl
  have hgot (p : Nat) : gotThrough (es ++ [(now, .packetReceptionCallback packet systemId)]) p =
      gotThrough es p := by
    rw [gotThrough_reception]
    by_cases hp : p = packet
    · simp [gotThrough, hp, hr]
    · simp [hp]
  constructor <;> simp only [sentBy, receivedFrom, hts, hgot]
  exacts [h.known, h.nSent, h.nRecv]

theorem EdsCounted.reception_first {es : List (Time × Event)} {m : ExtTreeMap Nat EdStatus}
    (h : EdsCounted es m) (now : Time) {packet sender : Nat} (systemId : Nat) {st : EdStatus}
    (hfresh : ((transmissions es).map Prod.fst).Nodup) (hmem : (packet, sender) ∈ transmissions es)
    (hr : receptions es packet = []) (hst : m[sender]? = some st) :
    EdsCounted (es ++ [(now, .packetReceptionCallback packet systemId)])
      (m.insert sender (countReception st)) := by
  have hts : transmissions (es ++ [(now, .packetReceptionCallback packet systemId)]) =
      transmissions es := transmissions_quiet es rfl
  have hrecv (ed : Nat) :
      receivedFrom (es ++ [(now, .packetReceptionCallback packet systemId)]) ed =
        receivedFrom es ed + if sender = ed then 1 else 0 := by
    rw [receivedFrom, hts]
    apply countP_mark hfresh hmem
    · simp [gotThrough, hr]
    · exact fun p => gotThrough_reception es now packet systemId p
  constructor
  · intro ed
    rw [mem_insert_of_getElem? hst, h.known, hts]
  · simp only [sentBy, hts]
    exact forall_insert (h.nSent sender st hst) fun ed st _ hed => h.nSent ed st hed
  · apply forall_insert
    · rw [hrecv, if_pos rfl, UInt32.ofNat_add, countReception, h.nRecv sender st hst]
      rfl
    · intro ed st hne hed
      rw [hrecv, if_neg hne.symm]
      exact h.nRecv ed st hed

section Relay

variable {es : List (Time × Event)} {m : ExtTreeMap Nat PacketStatus} (now : Time)
  (packet uid nodeId junk : Nat) (sent : Bool)

theorem relays_relay_self :
    PacketTrackers.relays (es ++ [(now, .receiveFromLora packet uid nodeId junk sent)]) uid =
      PacketTrackers.relays es uid ++ [now] := by
  simp [relays_concat, relayOf]

theorem relays_relay_other {u : Nat} (hne : u ≠ uid) :
    PacketTrackers.relays (es ++ [(now, .receiveFromLora packet uid nodeId junk sent)]) u =
      PacketTrackers.relays es u := by
  simp [relays_concat, relayOf, hne.symm]

theorem arrivals_relay (u : Nat) :
    arrivals (es ++ [(now, .receiveFromLora packet uid nodeId junk sent)]) u = arrivals es u :=
  arrivals_quiet es rfl

theorem RelaysTracked.relay_again (h : RelaysTracked es m) (hm : uid ∈ m) :
    RelaysTracked (es ++ [(now, .receiveFromLora packet uid nodeId junk sent)]) m := by
  have hne := (h.known uid).mp hm
  constructor
  · intro u
    by_cases hu : u = uid
    · subst u
      simp [relays_relay_self, hm]
    · rw [relays_relay_other _ _ _ _ _ _ hu, h.known]
  · intro u hu
    exact h.relayed u (arrivals_relay now packet uid nodeId junk sent u ▸ hu)
  · intro u st hst
    by_cases hu : u = uid
    · subst u
      rw [relays_relay_self, List.head?_append_of_ne_nil _ hne]
      exact h.tSent uid st hst
    · rw [relays_relay_other _ _ _ _ _ _ hu]
      exact h.tSent u st hst
  · simp only [arrivals_relay]
    exact h.recv
  · simp only [arrivals_relay]
    exact h.tRecvBs

theorem RelaysTracked.relay_first (h : RelaysTracked es m) (hm : uid ∉ m) :
    RelaysTracked (es ++ [(now, .receiveFromLora packet uid nodeId junk sent)])
      (m.insert uid ⟨packet, junk, false, now, 0, 0⟩) := by
  have hrelays : PacketTrackers.relays es uid = [] := by
    by_contra hne
    exact hm ((h.known uid).mpr hne)
  have harrivals : arrivals es uid = [] := by
    by_contra hne
    exact hm (h.relayed uid hne)
  constructor
  · intro u
    rw [mem_insert_iff]
    by_cases hu : u = uid
    · subst u
      simp [relays_relay_self]
    · rw [relays_relay_other _ _ _ _ _ _ hu, h.known]
      simp [hu]
  · intro u hu
    exact mem_insert_iff.mpr (.inr (h.relayed u (arrivals_relay now packet uid nodeId junk sent u ▸ hu)))
  · apply forall_insert
    · simp [relays_relay_self, hrelays]
    · intro u st hu hst
      rw [relays_relay_other _ _ _ _ _ _ hu]
      exact h.tSent u st hst
  · simp only [arrivals_relay]
    exact forall_insert (by simp [harrivals]) fun u st _ hst => h.recv u st hst
  · simp only [arrivals_relay]
    exact forall_insert (by simp [harrivals]) fun u st _ hst => h.tRecvBs u st hst

theorem RelaysTracked.relay (h : RelaysTracked es m) :
    RelaysTracked (es ++ [(now, .receiveFromLora packet uid nodeId junk sent)])
      (m.insertIfNew uid ⟨packet, junk, false, now, 0, 0⟩) := by
  by_cases hm : uid ∈ m
  · rw [insertIfNew_of_mem hm]
    exact h.relay_again now packet uid nodeId junk sent hm
  · rw [insertIfNew_of_not_mem hm]
    exact h.relay_first now packet uid nodeId junk sent hm

end Relay

theorem RelaysTracked.arrival {es : List (Time × Event)} {m : ExtTreeMap Nat PacketStatus}
    (h : RelaysTracked es m) (now : Time) {uid : Nat} {st : PacketStatus} (hst : m[uid]? = some st) :
    RelaysTracked (es ++ [(now, .receiveFromBs uid)])
      (m.insert uid { st with recv := true, tRecvBs := now }) := by
  have hrs (u : Nat) : PacketTrackers.relays (es ++ [(now, .receiveFromBs uid)]) u =
      PacketTrackers.relays es u := relays_quiet es rfl
  have hself : arrivals (es ++ [(now, .receiveFromBs uid)]) uid = arrivals es uid ++ [now] := by
    simp [arrivals_concat, arrivalOf]
  have hother (u : Nat) (hne : u ≠ uid) :
      arrivals (es ++ [(now, .receiveFromBs uid)]) u = arrivals es u := by
    simp [arrivals_concat, arrivalOf, hne.symm]
  constructor
  · intro u
    rw [mem_insert_of_getElem? hst, h.known, hrs]
  · intro u hu
    rw [mem_insert_of_getElem? hst]
    by_cases hne : u = uid
    · exact hne ▸ mem_of_getElem? hst
    · exact h.relayed u (hother u hne ▸ hu)
  · simp only [hrs]
    exact forall_insert (h.tSent uid st hst) fun u st _ hu => h.tSent u st hu
  · apply forall_insert
    · simp [hself]
    · intro u st hne hu
      rw [hother u hne]
      exact h.recv u st hu
  · apply forall_insert
    · simp [hself]
    · intro u st hne hu
      rw [hother u hne]
      exact h.tRecvBs u st hu

theorem Books.sender {es : List (Time × Event)} {s : Trackers} (h : Books es s) {packet : Nat}
    (hp : packet ∈ (transmissions es).map Prod.fst) :
    ∃ pStatus status, s.packetTracker[packet]? = some pStatus ∧
      s.edTracker[pStatus.senderId]? = some status := by
  have hmem := (h.packets.known packet).mpr hp
  obtain ⟨pStatus, hst⟩ := Option.isSome_iff_exists.mp (ExtTreeMap.mem_iff_isSome_getElem?.mp hmem)
  have hsender := h.packets.sender packet pStatus hst
  have hed : pStatus.senderId ∈ s.edTracker :=
    (h.eds.known _).mpr (List.mem_map.mpr ⟨_, hsender, rfl⟩)
  obtain ⟨status, hstatus⟩ := Option.isSome_iff_exists.mp (ExtTreeMap.mem_iff_isSome_getElem?.mp hed)
  exact ⟨pStatus, status, hst, hstatus⟩

theorem Books.countAtSender {es : List (Time × Event)} {s : Trackers} (h : Books es s)
    (count : EdStatus → EdStatus) (hsent : ∀ st, (count st).nSent = st.nSent)
    (hrecv : ∀ st, (count st).nRecv = st.nRecv) {packet : Nat}
    (hp : packet ∈ (transmissions es).map Prod.fst) (e : Time × Event)
    (ht : transmissionOf e = none) (hr : ∀ packet, receptionOf packet e = none)
    (hrelay : ∀ uid, relayOf uid e = none) (ha : ∀ uid, arrivalOf uid e = none) :
    ∃ s', PacketTrackers.countAtSender count packet s = some s' ∧ Books (es ++ [e]) s' := by
  obtain ⟨pStatus, status, hst, hstatus⟩ := h.sender hp
  refine ⟨_, countAtSender_of_mem count hst hstatus, ?_, ?_, ?_⟩
  · exact h.packets.quiet e ht hr
  · exact (h.eds.insert_same hstatus (hsent status) (hrecv status)).quiet e ht hr
  · exact h.relays.quiet e hrelay ha

theorem Books.reception {es : List (Time × Event)} {s : Trackers} (h : Books es s) (now : Time)
    {packet : Nat} (systemId : Nat) (hp : packet ∈ (transmissions es).map Prod.fst) :
    ∃ s', packetReceptionCallback now packet s = some s' ∧
      Books (es ++ [(now, .packetReceptionCallback packet systemId)]) s' := by
  obtain ⟨pStatus, status, hst, hstatus⟩ := h.sender hp
  have hrecv := h.packets.recv packet pStatus hst
  have hrelays := h.relays.quiet (now, .packetReceptionCallback packet systemId) (fun _ => rfl)
    (fun _ => rfl)
  cases hflag : pStatus.recv with
  | true =>
      refine ⟨_, packetReceptionCallback_again hst hflag, ?_, ?_, hrelays⟩
      · exact h.packets.reception now systemId hst
      · exact h.eds.reception_again now systemId (hrecv.mp hflag)
  | false =>
      have hnil : receptions es packet = [] := by
        by_contra hne
        exact Bool.false_ne_true (hflag.symm.trans (hrecv.mpr hne))
      refine ⟨_, packetReceptionCallback_first hst hflag hstatus, ?_, ?_, hrelays⟩
      · exact h.packets.reception now systemId hst
      · exact h.eds.reception_first now systemId h.packets.fresh (h.packets.sender packet pStatus hst)
          hnil hstatus

theorem books_step {es : List (Time × Event)} {s : Trackers} (h : Books es s) (e : Time × Event)
    (he : Expected es e.2) : ∃ s', step s e = some s' ∧ Books (es ++ [e]) s' := by
  obtain ⟨now, e⟩ := e
  cases e with
  | transmissionCallback packet systemId =>
      refine ⟨_, rfl, ?_, ?_, ?_⟩
      · exact h.packets.transmission now systemId he
      · exact h.eds.transmission now systemId (receptions_nil h.packets he)
      · exact h.relays.quiet _ (fun _ => rfl) (fun _ => rfl)
  | packetReceptionCallback packet systemId => exact h.reception now systemId he
  | interferenceCallback packet systemId =>
      exact h.countAtSender countInterference (fun _ => rfl) (fun _ => rfl) he
        (now, .interferenceCallback packet systemId) rfl (fun _ => rfl) (fun _ => rfl) (fun _ => rfl)
  | noMoreReceiversCallback packet systemId =>
      exact h.countAtSender countNoReceivers (fun _ => rfl) (fun _ => rfl) he
        (now, .noMoreReceiversCallback packet systemId) rfl (fun _ => rfl) (fun _ => rfl) (fun _ => rfl)
  | underSensitivityCallback packet systemId =>
      exact h.countAtSender countUnderSensitivity (fun _ => rfl) (fun _ => rfl) he
        (now, .underSensitivityCallback packet systemId) rfl (fun _ => rfl) (fun _ => rfl) (fun _ => rfl)
  | receiveFromLora packet uid nodeId junk sent =>
      refine ⟨_, rfl, ?_, ?_, ?_⟩
      · exact h.packets.quiet _ rfl (fun _ => rfl)
      · exact h.eds.quiet _ rfl (fun _ => rfl)
      · exact h.relays.relay now packet uid nodeId junk sent
  | receiveFromBs uid =>
      have hmem := (h.relays.known uid).mpr he
      obtain ⟨st, hst⟩ := Option.isSome_iff_exists.mp (ExtTreeMap.mem_iff_isSome_getElem?.mp hmem)
      refine ⟨_, receiveFromBs_of_mem hst, ?_, ?_, ?_⟩
      · exact h.packets.quiet _ rfl (fun _ => rfl)
      · exact h.eds.quiet _ rfl (fun _ => rfl)
      · exact h.relays.arrival now hst

theorem books_empty : Books [] empty where
  packets := by constructor <;> simp [empty, transmissions, receptions]
  eds := by constructor <;> simp [empty, transmissions]
  relays := by constructor <;> simp [empty, PacketTrackers.relays, arrivals]

/-- No callback of a plausible run looks for something that is not there, and
the maps keep the books of everything that happened. -/
theorem books_run {es : List (Time × Event)} (h : Plausible es) : ∃ s, run es = some s ∧ Books es s := by
  induction es using List.reverseRecOn with
  | nil => exact ⟨empty, rfl, books_empty⟩
  | append_singleton es e ih =>
      obtain ⟨hes, he⟩ := (plausible_concat es e).mp h
      obtain ⟨s, hrun, hbooks⟩ := ih hes
      obtain ⟨s', hstep, hbooks'⟩ := books_step hbooks e he
      exact ⟨s', (run_concat es e s').mpr ⟨s, hrun, hstep⟩, hbooks'⟩

section Accounting

def senders (es : List (Time × Event)) : List Nat := ((transmissions es).map Prod.snd).dedup

theorem nodup_senders (es : List (Time × Event)) : (senders es).Nodup := List.nodup_dedup _

theorem sentBy_le (es : List (Time × Event)) (ed : Nat) : sentBy es ed ≤ (transmissions es).length :=
  List.countP_le_length

theorem Books.nSent_toNat {es : List (Time × Event)} {s : Trackers} (h : Books es s)
    (hlen : (transmissions es).length < 2 ^ 32) {ed : Nat} {st : EdStatus}
    (hst : s.edTracker[ed]? = some st) : st.nSent.toNat = sentBy es ed := by
  rw [h.eds.nSent ed st hst, UInt32.toNat_ofNat', Nat.mod_eq_of_lt ((sentBy_le es ed).trans_lt hlen)]

theorem Books.nRecv_toNat {es : List (Time × Event)} {s : Trackers} (h : Books es s)
    (hlen : (transmissions es).length < 2 ^ 32) {ed : Nat} {st : EdStatus}
    (hst : s.edTracker[ed]? = some st) : st.nRecv.toNat = receivedFrom es ed := by
  rw [h.eds.nRecv ed st hst, UInt32.toNat_ofNat',
    Nat.mod_eq_of_lt ((receivedFrom_le_sentBy es ed).trans_lt ((sentBy_le es ed).trans_lt hlen))]

theorem foldl_addStatus (xs : List (Nat × EdStatus)) (tot : UInt32 × UInt32) :
    xs.foldl (fun tot x => addStatus tot x.1 x.2) tot =
      (xs.foldl (fun n x => n + x.2.nSent) tot.1, xs.foldl (fun n x => n + x.2.nRecv) tot.2) := by
  induction xs generalizing tot with
  | nil => rfl
  | cons x xs ih => exact ih _

theorem sum_edTracker {es : List (Time × Event)} {s : Trackers} (h : Books es s)
    (f : EdStatus → UInt32) (count : Nat → Nat)
    (hf : ∀ ed st, s.edTracker[ed]? = some st → (f st).toNat = count ed) :
    (s.edTracker.toList.foldl (fun n x => n + f x.2) 0).toNat =
      ((senders es).map count).sum % 2 ^ 32 := by
  have hkeys (ed : Nat) : ed ∈ senders es ↔ ed ∈ s.edTracker := by
    rw [senders, List.mem_dedup, h.eds.known]
  have hperm := map_toList_perm s.edTracker (nodup_senders es) hkeys (fun x => (f x.2).toNat)
    count hf
  rw [toNat_foldl_add, hperm.sum_eq, UInt32.toNat_zero, Nat.zero_add]

theorem totals_toNat {es : List (Time × Event)} {s : Trackers} (h : Books es s)
    (hlen : (transmissions es).length < 2 ^ 32) :
    (totals s).1.toNat = (transmissions es).length ∧
      (totals s).2.toNat = (transmissions es).countP fun t => gotThrough es t.1 := by
  have hmem : ∀ t ∈ transmissions es, t.2 ∈ senders es := fun t ht =>
    List.mem_dedup.mpr (List.mem_map.mpr ⟨t, ht, rfl⟩)
  have hsent : ((senders es).map (sentBy es)).sum = (transmissions es).length := by
    have hall := sum_countP_keys (nodup_senders es) Prod.snd (fun _ => true) hmem
    simp only [Bool.and_true, List.countP_true] at hall
    exact hall
  have hrecv : ((senders es).map (receivedFrom es)).sum =
      (transmissions es).countP fun t => gotThrough es t.1 :=
    sum_countP_keys (nodup_senders es) Prod.snd (fun t => gotThrough es t.1) hmem
  have hle : ((transmissions es).countP fun t => gotThrough es t.1) < 2 ^ 32 :=
    List.countP_le_length.trans_lt hlen
  rw [totals, ExtTreeMap.foldl_eq_foldl_toList, foldl_addStatus]
  constructor
  · rw [sum_edTracker h EdStatus.nSent (sentBy es) fun ed st hst => h.nSent_toNat hlen hst, hsent,
      Nat.mod_eq_of_lt hlen]
  · rw [sum_edTracker h EdStatus.nRecv (receivedFrom es) fun ed st hst => h.nRecv_toNat hlen hst,
      hrecv, Nat.mod_eq_of_lt hle]

structure Accounted (es : List (Time × Event)) (s : Trackers) : Prop where
  known : ∀ ed, ed ∈ s.edTracker ↔ ed ∈ (transmissions es).map Prod.snd
  nSent : ∀ ed st, s.edTracker[ed]? = some st → st.nSent.toNat = sentBy es ed
  nRecv : ∀ ed st, s.edTracker[ed]? = some st → st.nRecv.toNat = receivedFrom es ed
  recv_le : ∀ (ed : Nat) (st : EdStatus), s.edTracker[ed]? = some st → st.nRecv ≤ st.nSent
  tracked : ∀ packet, packet ∈ s.packetTracker ↔ packet ∈ (transmissions es).map Prod.fst
  tRecvGw : ∀ packet st, s.packetTracker[packet]? = some st →
    (∀ t ∈ receptions es packet, 0 < t) → ∀ t, (receptions es packet).head? = some t → st.tRecvGw = t

def RatioBounded (K : Type) [Field K] [LinearOrder K] (s : Trackers) : Prop :=
  ∃ r : K, (writeNodeAvgStats s).psr = some r ∧ 0 ≤ r ∧ r ≤ 1

variable {K : Type} [Field K] [LinearOrder K] [IsStrictOrderedRing K]

theorem psr_bounded {es : List (Time × Event)} {s : Trackers} (h : Books es s)
    (hlen : (transmissions es).length < 2 ^ 32) (hne : transmissions es ≠ []) : RatioBounded K s := by
  obtain ⟨hsent, hrecv⟩ := totals_toNat h hlen
  have hpos : (0 : K) < ((transmissions es).length : K) :=
    Nat.cast_pos.mpr (List.length_pos_iff.mpr hne)
  refine ⟨((totals s).2.toNat : K) / ((totals s).1.toNat : K), ?_, ?_, ?_⟩
  · rw [writeNodeAvgStats, divDouble, if_neg]
    rw [hsent]
    exact hpos.ne'
  · positivity
  · rw [hsent, hrecv, div_le_one hpos]
    exact Nat.cast_le.mpr List.countP_le_length

theorem accounted {es : List (Time × Event)} {s : Trackers} (h : Books es s)
    (hlen : (transmissions es).length < 2 ^ 32) : Accounted es s where
  known := h.eds.known
  nSent _ _ hst := h.nSent_toNat hlen hst
  nRecv _ _ hst := h.nRecv_toNat hlen hst
  recv_le ed st hst := by
    rw [UInt32.le_iff_toNat_le, h.nSent_toNat hlen hst, h.nRecv_toNat hlen hst]
    exact receivedFrom_le_sentBy es ed
  tracked := h.packets.known
  tRecvGw packet st hst hpos t ht := by
    rw [h.packets.tRecvGw packet st hst fun t ht => (hpos t ht).ne', List.headD_eq_head?_getD, ht]
    rfl

/-- Every plausible run with fewer than `2 ^ 32` packets returns; each device's
counters are the numbers of its packets sent and received, each reception time
the first one, and the ratio lies between 0 and 1 unless nothing was sent,
when it is the quotient of two zeros. -/
theorem accounting_sound {es : List (Time × Event)} (hplaus : Plausible es)
    (hlen : (transmissions es).length < 2 ^ 32) :
    ∃ s, run es = some s ∧ Accounted es s ∧ (transmissions es ≠ [] → RatioBounded K s) ∧
      (transmissions es = [] → (writeNodeAvgStats (K := K) s).psr = none) := by
  obtain ⟨s, hrun, hbooks⟩ := books_run hplaus
  refine ⟨s, hrun, accounted hbooks hlen, psr_bounded hbooks hlen, ?_⟩
  intro hnil
  have hzero := (totals_toNat hbooks hlen).1
  rw [hnil] at hzero
  rw [writeNodeAvgStats, hzero, divDouble, if_pos (by simp)]

def threePackets : List (Time × Event) :=
  [(seconds 1, .transmissionCallback 0 4), (seconds 2, .packetReceptionCallback 0 8),
    (seconds 2, .packetReceptionCallback 0 9), (seconds 3, .transmissionCallback 1 4),
    (seconds 4, .interferenceCallback 1 9), (seconds 5, .transmissionCallback 2 5)]

theorem accounting_sound_three_packets :
    ∃ s, run threePackets = some s ∧ Accounted threePackets s ∧
      (transmissions threePackets ≠ [] → RatioBounded ℚ s) ∧
      (transmissions threePackets = [] → (writeNodeAvgStats (K := ℚ) s).psr = none) :=
  accounting_sound
    (by simp [Plausible, PlausibleFrom, Expected, threePackets, transmissions, transmissionOf])
    (by decide)

theorem ratio_of_nothing :
    ¬ ∀ es : List (Time × Event), Plausible es → (transmissions es).length < 2 ^ 32 →
      ∃ s, run es = some s ∧ Accounted es s ∧ RatioBounded ℚ s := by
  intro h
  obtain ⟨s, hrun, _, r, hr, _⟩ := h [] trivial (by decide)
  obtain rfl : empty = s := Option.some.inj hrun
  have hnone : (writeNodeAvgStats (K := ℚ) empty).psr = none := by decide
  exact absurd (hnone.symm.trans hr) (by simp)

end Accounting

section Mesh

def relayedUid (e : Time × Event) : Option Nat :=
  match e.2 with
  | .receiveFromLora _ uid _ _ _ => some uid
  | _ => none

def relayedUids (es : List (Time × Event)) : List Nat := (es.filterMap relayedUid).dedup

def meshDelay (es : List (Time × Event)) (uid : Nat) : Time :=
  match (relays es uid).head?, (arrivals es uid).head? with
  | some tSent, some tRecv => tRecv - tSent
  | _, _ => 0

structure MeshAccurate (es : List (Time × Event)) (s : Trackers) : Prop where
  known : ∀ uid, uid ∈ s.packetRelayedTracker ↔ relays es uid ≠ []
  tSent : ∀ uid st, s.packetRelayedTracker[uid]? = some st → (relays es uid).head? = some st.tSent
  recv : ∀ uid st, s.packetRelayedTracker[uid]? = some st →
    (st.recv = true ↔ arrivals es uid ≠ [])
  tRecvBs : ∀ uid st, s.packetRelayedTracker[uid]? = some st →
    ∀ t, (arrivals es uid).head? = some t → st.tRecvBs = t
  total : (timeMesh s).1 = ((relayedUids es).map (meshDelay es)).sum

def delayOf (tRecv : PacketStatus → Time) (st : PacketStatus) : Time :=
  if st.recv && decide (0 < tRecv st) then tRecv st - st.tSent else 0

theorem foldl_addDelay (tRecv : PacketStatus → Time) (xs : List (Nat × PacketStatus))
    (tot : Time × UInt32) :
    (xs.foldl (fun tot x => addDelay tRecv tot x.1 x.2) tot).1 =
      tot.1 + (xs.map fun x => delayOf tRecv x.2).sum := by
  induction xs generalizing tot with
  | nil => simp
  | cons x xs ih =>
      have hstep : (addDelay tRecv tot x.1 x.2).1 = tot.1 + delayOf tRecv x.2 := by
        rw [addDelay, delayOf]
        split <;> simp
      rw [List.foldl_cons, ih, hstep, List.map_cons, List.sum_cons, add_assoc]

theorem mem_relayedUids (es : List (Time × Event)) (uid : Nat) :
    uid ∈ relayedUids es ↔ relays es uid ≠ [] := by
  have hiff (e : Time × Event) : relayedUid e = some uid ↔ relayOf uid e ≠ none := by
    obtain ⟨now, e⟩ := e
    cases e <;> simp [relayedUid, relayOf]
  rw [relayedUids, List.mem_dedup, List.mem_filterMap]
  simp only [PacketTrackers.relays, ne_eq, List.filterMap_eq_nil_iff, not_forall, hiff, exists_prop]

theorem timeMesh_eq {es : List (Time × Event)} {s : Trackers} (h : Books es s)
    (hdelay : ∀ uid st, s.packetRelayedTracker[uid]? = some st →
      delayOf PacketStatus.tRecvBs st = meshDelay es uid) :
    (timeMesh s).1 = ((relayedUids es).map (meshDelay es)).sum := by
  rw [timeMesh, ExtTreeMap.foldl_eq_foldl_toList, foldl_addDelay]
  have hperm := map_toList_perm s.packetRelayedTracker (List.nodup_dedup _)
    (fun uid => (mem_relayedUids es uid).trans (h.relays.known uid).symm)
    (fun x => delayOf PacketStatus.tRecvBs x.2) (meshDelay es) hdelay
  rw [hperm.sum_eq]
  exact Int.zero_add _

theorem relays_subset {es : List (Time × Event)} {uid : Nat} {t : Time} (h : t ∈ relays es uid) :
    ∃ e ∈ es, e.1 = t := by
  obtain ⟨⟨now, e⟩, he, ht⟩ := List.mem_filterMap.mp h
  cases e <;> simp [relayOf] at ht
  exact ⟨_, he, ht.2⟩

theorem arrivals_sorted {es : List (Time × Event)} (htime : es.Pairwise (fun a b => a.1 ≤ b.1))
    (uid : Nat) : (arrivals es uid).Pairwise (· ≤ ·) := by
  rw [arrivals, List.pairwise_filterMap]
  apply htime.imp
  rintro ⟨now, e⟩ ⟨now', e'⟩ hle t ht t' ht'
  cases e <;> simp [arrivalOf] at ht
  cases e' <;> simp [arrivalOf] at ht'
  rw [← ht.2, ← ht'.2]
  exact hle

theorem relay_le_arrival {es : List (Time × Event)} (h : Plausible es)
    (htime : es.Pairwise (fun a b => a.1 ≤ b.1)) (uid : Nat) {tSent t : Time}
    (hs : (relays es uid).head? = some tSent) (ht : t ∈ arrivals es uid) : tSent ≤ t := by
  induction es using List.reverseRecOn with
  | nil => simp [arrivals] at ht
  | append_singleton es e ih =>
      obtain ⟨hes, he⟩ := (plausible_concat es e).mp h
      obtain ⟨htime, _, hlast⟩ := List.pairwise_append.mp htime
      obtain ⟨s, _, hbooks⟩ := books_run hes
      have hrelayed : relays es uid ≠ [] := by
        rw [arrivals_concat, List.mem_append] at ht
        rcases ht with ht | ht
        · exact (hbooks.relays.known uid).mp (hbooks.relays.relayed uid (List.ne_nil_of_mem ht))
        · obtain ⟨now, e⟩ := e
          cases e <;> simp [arrivalOf] at ht
          exact ht.1 ▸ he
      rw [relays_concat, List.head?_append_of_ne_nil _ hrelayed] at hs
      rw [arrivals_concat, List.mem_append] at ht
      rcases ht with ht | ht
      · exact ih hes htime hs ht
      · obtain ⟨a, ha, rfl⟩ := relays_subset (List.mem_of_head? hs)
        have hte : e.1 = t := by
          obtain ⟨now, e⟩ := e
          cases e <;> simp [arrivalOf] at ht
          exact ht.2
        exact hte ▸ hlast a ha e (List.mem_singleton_self e)

theorem delayOf_eq {es : List (Time × Event)} (hplaus : Plausible es)
    (htime : es.Pairwise (fun a b => a.1 ≤ b.1)) (hstart : ∀ e ∈ es, 0 ≤ e.1) {uid : Nat}
    {st : PacketStatus} (hsent : (relays es uid).head? = some st.tSent)
    (hrecv : st.recv = true ↔ arrivals es uid ≠ [])
    (hbs : ∀ t, (arrivals es uid).head? = some t → st.tRecvBs = t) :
    delayOf PacketStatus.tRecvBs st = meshDelay es uid := by
  rw [delayOf, meshDelay, hsent]
  cases harr : (arrivals es uid).head? with
  | none =>
      have hno : st.recv = false := by
        rw [← Bool.not_eq_true, hrecv, List.head?_eq_none_iff.mp harr]
        simp
      simp [hno]
  | some t =>
      have hmem := List.mem_of_head? harr
      have hyes : st.recv = true := hrecv.mpr (List.ne_nil_of_mem hmem)
      have hle : st.tSent ≤ t := relay_le_arrival hplaus htime uid hsent hmem
      have hpos : 0 ≤ st.tSent := by
        obtain ⟨e, he, hte⟩ := relays_subset (List.mem_of_head? hsent)
        exact hte ▸ hstart e he
      rw [hbs t harr, hyes]
      by_cases ht : 0 < t
      · simp [ht]
      · -- a copy that arrives at time 0 was relayed at time 0
        have h0 : st.tSent = t := le_antisymm hle ((not_lt.mp ht).trans hpos)
        simp [ht, h0]

theorem sorted_constant {ts : List Time} (hs : ts.Pairwise (· ≤ ·)) {t : Time}
    (hhead : ts.head? = some t) (hlast : ts.getLast? = some t) : ∀ a ∈ ts, a = t := by
  intro a ha
  apply le_antisymm
  · obtain ⟨init, rfl⟩ := List.getLast?_eq_some_iff.mp hlast
    rcases List.mem_append.mp ha with ha | ha
    · exact (List.pairwise_append.mp hs).2.2 a ha t (List.mem_singleton_self t)
    · exact (List.mem_singleton.mp ha).le
  · obtain ⟨tail, rfl⟩ := List.head?_eq_some_iff.mp hhead
    rcases List.mem_cons.mp ha with rfl | ha
    · exact le_rfl
    · exact (List.pairwise_cons.mp hs).1 a ha

/-- In a run with non-decreasing times every entry holds the first arrival of
its uid, and the total the first delays, exactly when no uid arrives at two
different times. -/
theorem mesh_accurate_iff {es : List (Time × Event)} (hplaus : Plausible es)
    (htime : es.Pairwise (fun a b => a.1 ≤ b.1)) (hstart : ∀ e ∈ es, 0 ≤ e.1) :
    ∃ s, run es = some s ∧
      (MeshAccurate es s ↔ ∀ uid, ∀ t ∈ arrivals es uid, ∀ t' ∈ arrivals es uid, t = t') := by
  obtain ⟨s, hrun, hbooks⟩ := books_run hplaus
  have hlast : ∀ uid st, s.packetRelayedTracker[uid]? = some st → ∀ t ∈ arrivals es uid,
      (arrivals es uid).getLast? = some st.tRecvBs := by
    intro uid st hst t ht
    rw [hbooks.relays.tRecvBs uid st hst, List.getLastD_eq_getLast?,
      List.getLast?_eq_some_getLast (List.ne_nil_of_mem ht)]
    rfl
  refine ⟨s, hrun, ?_, ?_⟩
  · intro h uid t ht t' ht'
    have hmem := hbooks.relays.relayed uid (List.ne_nil_of_mem ht)
    obtain ⟨st, hst⟩ := Option.isSome_iff_exists.mp (ExtTreeMap.mem_iff_isSome_getElem?.mp hmem)
    obtain ⟨first, hfirst⟩ : ∃ first, (arrivals es uid).head? = some first :=
      ⟨_, List.head?_eq_some_head (List.ne_nil_of_mem ht)⟩
    have hall := sorted_constant (arrivals_sorted htime uid) hfirst
      (h.tRecvBs uid st hst first hfirst ▸ hlast uid st hst t ht)
    rw [hall t ht, hall t' ht']
  · intro h
    have hbs : ∀ uid st, s.packetRelayedTracker[uid]? = some st →
        ∀ t, (arrivals es uid).head? = some t → st.tRecvBs = t := by
      intro uid st hst t ht
      have hmem := List.mem_of_head? ht
      exact h uid _ (List.mem_of_getLast? (hlast uid st hst t hmem)) t hmem
    refine ⟨hbooks.relays.known, hbooks.relays.tSent, hbooks.relays.recv, hbs, ?_⟩
    apply timeMesh_eq hbooks
    intro uid st hst
    exact delayOf_eq hplaus htime hstart (hbooks.relays.tSent uid st hst)
      (hbooks.relays.recv uid st hst) (hbs uid st hst)

def twoCopies : List (Time × Event) :=
  [(seconds 1, .receiveFromLora 3 7 0 0 true), (seconds 1, .receiveFromLora 4 7 1 0 true),
    (seconds 2, .receiveFromBs 7), (seconds 5, .receiveFromBs 7)]

theorem plausible_twoCopies : Plausible twoCopies := by
  simp [Plausible, PlausibleFrom, Expected, twoCopies, PacketTrackers.relays, relayOf]

theorem mesh_accurate_iff_two_copies :
    ∃ s, run twoCopies = some s ∧ (MeshAccurate twoCopies s ↔
      ∀ uid, ∀ t ∈ arrivals twoCopies uid, ∀ t' ∈ arrivals twoCopies uid, t = t') :=
  mesh_accurate_iff plausible_twoCopies (by decide) (by decide)

theorem last_arrival_kept :
    ¬ ∀ es : List (Time × Event), Plausible es → es.Pairwise (fun a b => a.1 ≤ b.1) →
      (∀ e ∈ es, 0 ≤ e.1) → ∃ s, run es = some s ∧ MeshAccurate es s := by
  intro h
  obtain ⟨s, hrun, hacc⟩ := h twoCopies plausible_twoCopies (by decide) (by decide)
  obtain ⟨s', hrun', hbooks⟩ := books_run plausible_twoCopies
  obtain rfl := Option.some.inj (hrun.symm.trans hrun')
  have hmem : 7 ∈ s.packetRelayedTracker := (hacc.known 7).mpr (by decide)
  obtain ⟨st, hst⟩ := Option.isSome_iff_exists.mp (ExtTreeMap.mem_iff_isSome_getElem?.mp hmem)
  have hfirst : st.tRecvBs = seconds 2 := hacc.tRecvBs 7 st hst _ (by decide)
  have hlast : st.tRecvBs = seconds 5 := hbooks.relays.tRecvBs 7 st hst
  exact absurd (hfirst.symm.trans hlast) (by decide)

end Mesh

end UavMonitoring.PacketRuns
