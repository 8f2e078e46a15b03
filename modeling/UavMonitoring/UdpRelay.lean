import UavMonitoring.Runs
import Mathlib.Data.List.Count
import Mathlib.Logic.Function.Basic

namespace UavMonitoring.UdpRelay

open Runs

/-- Packets are shared pointers, named by their uid; the headers a packet
carries belong to the packet, whoever holds it. `wire` lists what the socket
has taken, with the headers the packet had at that moment. -/
structure Relay where
  sent : UInt32
  packetBuffer : List Nat
  headers : Nat → List UInt32
  wire : List (Nat × List UInt32)

def Relay.addHeader (r : Relay) (p : Nat) (seqTs : UInt32) : Relay :=
  { r with headers := Function.update r.headers p (seqTs :: r.headers p) }

def Relay.removeHeader (r : Relay) (p : Nat) : Relay :=
  { r with headers := Function.update r.headers p (r.headers p).tail }

/-- `ret` is what `m_socket->Send (p)` returns. -/
def send (p : Nat) (ret : Int) (r : Relay) : Bool × Relay :=
  let r := r.addHeader p r.sent
  if 0 ≤ ret then
    (true, { r with sent := r.sent + 1, wire := r.wire ++ [(p, r.headers p)] })
  else
    let r := r.removeHeader p
    (false, { r with packetBuffer := r.packetBuffer ++ [p] })

def Relay.pop (r : Relay) : Relay := { r with packetBuffer := r.packetBuffer.tail }

theorem send_ok (p : Nat) {ret : Int} (h : 0 ≤ ret) (r : Relay) :
    (send p ret r).1 = true ∧ (send p ret r).2.packetBuffer = r.packetBuffer ∧
      (send p ret r).2.wire.map Prod.fst = r.wire.map Prod.fst ++ [p] := by
  simp [send, h, Relay.addHeader]

theorem send_failed (p : Nat) {ret : Int} (h : ret < 0) (r : Relay) :
    (send p ret r).1 = false ∧ (send p ret r).2.packetBuffer = r.packetBuffer ++ [p] ∧
      (send p ret r).2.wire = r.wire := by
  simp [send, Int.not_le.mpr h, Relay.addHeader, Relay.removeHeader]

/-- The loop of `SendBuffer`; `ret i` answers its `i`-th send. -/
def sendBuffer (ret : Nat → Int) (i : Nat) (r : Relay) : Relay :=
  match hb : r.packetBuffer with
  | [] => r
  | p :: _ =>
      if hs : (send p (ret i) r).1 then sendBuffer ret (i + 1) (send p (ret i) r).2.pop
      else (send p (ret i) r).2
termination_by r.packetBuffer.length
decreasing_by
  have hr : 0 ≤ ret i := by
    by_contra hr
    simp [(send_failed p (Int.not_le.mp hr) r).1] at hs
  simp [Relay.pop, (send_ok p hr r).2.1, hb]

theorem sendBuffer_nil (ret : Nat → Int) (i : Nat) (r : Relay) (h : r.packetBuffer = []) :
    sendBuffer ret i r = r := by
  rw [sendBuffer]
  split
  · rfl
  · simp_all

theorem sendBuffer_ok (ret : Nat → Int) (i : Nat) (r : Relay) (p : Nat) (q : List Nat)
    (hb : r.packetBuffer = p :: q) (h : 0 ≤ ret i) :
    sendBuffer ret i r = sendBuffer ret (i + 1) (send p (ret i) r).2.pop := by
  rw [sendBuffer]
  split
  · simp_all
  · next p' q' hb' =>
      obtain rfl : p' = p := by simp_all
      rw [dif_pos (send_ok p' h r).1]

theorem sendBuffer_failed (ret : Nat → Int) (i : Nat) (r : Relay) (p : Nat) (q : List Nat)
    (hb : r.packetBuffer = p :: q) (h : ret i < 0) :
    sendBuffer ret i r = (send p (ret i) r).2 := by
  rw [sendBuffer]
  split
  · simp_all
  · next p' q' hb' =>
      obtain rfl : p' = p := by simp_all
      rw [dif_neg (by simp [(send_failed p' h r).1])]

/-- A flush sends a prefix of the buffer. If it stops early, it stops at a
packet whose send failed: that packet is still at the front, and `Send` has
put it at the back as well. -/
theorem sendBuffer_spec (ret : Nat → Int) (b : List Nat) (i : Nat) (r : Relay)
    (hb : r.packetBuffer = b) :
    ∃ done rest, b = done ++ rest ∧ (∀ j < done.length, 0 ≤ ret (i + j)) ∧
      (sendBuffer ret i r).wire.map Prod.fst = r.wire.map Prod.fst ++ done ∧
      (rest ≠ [] → ret (i + done.length) < 0) ∧
      (sendBuffer ret i r).packetBuffer = rest ++ rest.head?.toList := by
  induction b generalizing i r with
  | nil => exact ⟨[], [], by simp [sendBuffer_nil ret i r hb, hb]⟩
  | cons p q ih =>
      by_cases h : 0 ≤ ret i
      · obtain ⟨_, hbuf, hwire⟩ := send_ok p h r
        obtain ⟨done, rest, hq, hok, hw, hf, hrest⟩ :=
          ih (i + 1) (send p (ret i) r).2.pop (by simp [Relay.pop, hbuf, hb])
        refine ⟨p :: done, rest, by simp [hq], ?_, ?_, ?_, ?_⟩
        · intro j hj
          cases j with
          | zero => exact h
          | succ j =>
              have := hok j (by simpa using hj)
              rwa [show i + (j + 1) = i + 1 + j by omega]
        · rw [sendBuffer_ok ret i r p q hb h, hw]
          simp [Relay.pop, hwire]
        · rwa [List.length_cons, show i + (done.length + 1) = i + 1 + done.length by omega]
        · rw [sendBuffer_ok ret i r p q hb h, hrest]
      · have h' : ret i < 0 := Int.not_le.mp h
        obtain ⟨_, hbuf, hwire⟩ := send_failed p h' r
        rw [sendBuffer_failed ret i r p q hb h']
        exact ⟨[], p :: q, by simp [hbuf, hwire, hb, h']⟩

structure Account where
  relay : Relay
  handed : List Nat

inductive Event
  | send (p : Nat) (ret : Int)
  | sendBuffer (ret : Nat → Int)

def start : Account := ⟨⟨0, [], fun _ => [], []⟩, []⟩

def step (a : Account) : Event → Account
  | .send p ret => ⟨(send p ret a.relay).2, a.handed ++ [p]⟩
  | .sendBuffer ret => ⟨sendBuffer ret 0 a.relay, a.handed⟩

def handedBy : Event → Option Nat
  | .send p _ => some p
  | .sendBuffer _ => none

def transmissions (a : Account) (p : Nat) : Nat := (a.relay.wire.map Prod.fst).count p

def Conserved (a : Account) : Prop :=
  ∀ p ∈ a.handed,
    (transmissions a p = 1 ∧ p ∉ a.relay.packetBuffer) ∨
      (transmissions a p = 0 ∧ a.relay.packetBuffer.count p = 1)

def LeavesBuffer (t : Transition Account Event Unit) : Prop :=
  ∀ ret, t.event = .sendBuffer ret → ret 0 < 0 →
    t.post.relay.packetBuffer = t.pre.relay.packetBuffer

def FlushSucceeds (a : Account) (e : Event) : Prop :=
  ∀ ret, e = .sendBuffer ret → ∀ i < a.relay.packetBuffer.length, 0 ≤ ret i

def balance (a : Account) (p : Nat) : Nat := transmissions a p + a.relay.packetBuffer.count p

theorem conserved_iff (a : Account) : Conserved a ↔ ∀ p ∈ a.handed, balance a p = 1 := by
  refine forall₂_congr fun p _ => ?_
  rw [balance, ← List.count_eq_zero]
  omega

def Known (a : Account) : Prop := ∀ p, 0 < balance a p → p ∈ a.handed

theorem balance_send (a : Account) (p q : Nat) (ret : Int) :
    balance (step a (.send p ret)) q = balance a q + if p = q then 1 else 0 := by
  by_cases h : 0 ≤ ret
  · obtain ⟨_, hb, hw⟩ := send_ok p h a.relay
    simp only [balance, transmissions, step, hb, hw, List.count_append, List.count_singleton,
      beq_iff_eq]
    omega
  · obtain ⟨_, hb, hw⟩ := send_failed p (Int.not_le.mp h) a.relay
    simp only [balance, transmissions, step, hb, hw, List.count_append, List.count_singleton,
      beq_iff_eq]
    omega

theorem balance_sendBuffer (a : Account) (ret : Nat → Int) :
    ∃ stuck : Option Nat, (∀ p ∈ stuck, p ∈ a.relay.packetBuffer) ∧
      (stuck = none ↔ FlushSucceeds a (.sendBuffer ret)) ∧
      ∀ q, balance (step a (.sendBuffer ret)) q = balance a q + stuck.toList.count q := by
  obtain ⟨done, rest, hb, hok, hw, hf, hrest⟩ := sendBuffer_spec ret _ 0 a.relay rfl
  refine ⟨rest.head?, ?_, ?_, ?_⟩
  · intro p hp
    rw [hb]
    exact List.mem_append_right _ (List.mem_of_mem_head? hp)
  · rw [List.head?_eq_none_iff]
    constructor
    · rintro rfl ret' he i hi
      cases he
      simpa using hok i (by simpa [hb] using hi)
    · intro h
      by_contra hne
      have hpos := List.length_pos_iff.mpr hne
      have := h ret rfl done.length (by rw [hb, List.length_append]; omega)
      have := hf hne
      simp only [Nat.zero_add] at this
      omega
  · intro q
    simp only [balance, transmissions, step, hw, hrest, hb, List.count_append]
    omega

theorem known_start : Known start := by
  intro p h
  simp [balance, transmissions, start] at h

theorem known_step (a : Account) (e : Event) (h : Known a) : Known (step a e) := by
  intro q hq
  cases e with
  | send p ret =>
      rw [balance_send] at hq
      by_cases hpq : p = q
      · simp [step, hpq]
      · simp only [hpq, if_false, Nat.add_zero] at hq
        exact List.mem_append_left _ (h q hq)
  | sendBuffer ret =>
      obtain ⟨stuck, hmem, _, hbal⟩ := balance_sendBuffer a ret
      rw [hbal] at hq
      apply h q
      by_cases hs : q ∈ stuck.toList
      · have := List.count_pos_iff.mpr (hmem q (by simpa using hs))
        exact Nat.lt_of_lt_of_le this (Nat.le_add_left _ _)
      · simpa [List.count_eq_zero.mpr hs] using hq

theorem handed_step (a : Account) (e : Event) (es : List Event) :
    (step a e).handed ++ es.filterMap handedBy = a.handed ++ (e :: es).filterMap handedBy := by
  cases e <;> simp [step, handedBy, List.filterMap_cons]

theorem conserved_send {a : Account} (hk : Known a) (h : Conserved a) {p : Nat} (hp : p ∉ a.handed)
    (ret : Int) : Conserved (step a (.send p ret)) := by
  rw [conserved_iff] at h ⊢
  have hzero : balance a p = 0 := Nat.eq_zero_of_not_pos fun h0 => hp (hk p h0)
  intro q hq
  rw [balance_send]
  rcases List.mem_append.mp hq with hq | hq
  · have hne : p ≠ q := fun he => hp (he ▸ hq)
    simp [hne, h q hq]
  · obtain rfl := List.mem_singleton.mp hq
    simp [hzero]

theorem conserved_sendBuffer_iff {a : Account} (hk : Known a) (h : Conserved a) (ret : Nat → Int) :
    Conserved (step a (.sendBuffer ret)) ↔ FlushSucceeds a (.sendBuffer ret) := by
  rw [conserved_iff] at h ⊢
  obtain ⟨stuck, hmem, hiff, hbal⟩ := balance_sendBuffer a ret
  rw [← hiff]
  constructor
  · intro h'
    cases stuck with
    | none => rfl
    | some p =>
        -- the packet the flush stops at is counted twice
        have hp : p ∈ a.handed := hk p
          (Nat.lt_of_lt_of_le (List.count_pos_iff.mpr (hmem p rfl)) (Nat.le_add_left _ _))
        have h₁ := h' p hp
        rw [hbal, h p hp] at h₁
        simp at h₁
  · rintro rfl q hq
    rw [hbal, h q hq]
    rfl

theorem conserved_step_iff (a : Account) (e : Event) (es : List Event) (hk : Known a)
    (hd : (a.handed ++ (e :: es).filterMap handedBy).Nodup) (h : Conserved a) :
    Conserved (step a e) ↔ FlushSucceeds a e := by
  cases e with
  | send p ret =>
      have hp : p ∉ a.handed := by
        rw [← handed_step, step, List.append_assoc] at hd
        exact fun hm => (List.nodup_append.mp hd).2.2 p hm p List.mem_cons_self rfl
      exact iff_of_true (conserved_send hk h hp ret) (fun _ he => by cases he)
  | sendBuffer ret => exact conserved_sendBuffer_iff hk h ret

/-- In a run over distinct packets every state conserves the packets, and no
failing flush touches the buffer, exactly if the socket takes whatever the
flushes send. -/
theorem conserved_run_iff (es : List Event) (hd : (es.filterMap handedBy).Nodup) :
    ((∀ a ∈ states (total step) start es, Conserved a) ∧
      ∀ t ∈ transitions (total step) start es, LeavesBuffer t) ↔
    ∀ t ∈ transitions (total step) start es, FlushSucceeds t.pre t.event := by
  have hiff := states_iff step
    (fun a es => Known a ∧ (a.handed ++ es.filterMap handedBy).Nodup) Conserved FlushSucceeds
    (s := start)
    (fun a e es h => ⟨known_step a e h.1, by rw [handed_step]; exact h.2⟩)
    (fun a e es h hc => conserved_step_iff a e es h.1 h.2 hc) es
    ⟨known_start, by simpa [start] using hd⟩ (by simp [Conserved, start])
  rw [← hiff]
  refine ⟨And.left, fun h => ⟨h, ?_⟩⟩
  intro t ht ret he hret
  have hsucc := hiff.mp h t ht ret he
  have hnil : t.pre.relay.packetBuffer = [] := by
    by_contra hne
    have := hsucc 0 (List.length_pos_iff.mpr hne)
    omega
  have hpost := step_of_mem ht
  simp only [total, he, Option.some.injEq, Prod.mk.injEq, and_true] at hpost
  rw [← hpost, step, sendBuffer_nil _ _ _ hnil]

theorem conserved_run_iff_two_packets :
    ((∀ a ∈ states (total step) start [.send 7 (-1), .send 8 0, .sendBuffer fun _ => 0], Conserved a) ∧
      ∀ t ∈ transitions (total step) start [.send 7 (-1), .send 8 0, .sendBuffer fun _ => 0],
        LeavesBuffer t) ↔
    ∀ t ∈ transitions (total step) start [.send 7 (-1), .send 8 0, .sendBuffer fun _ => 0],
      FlushSucceeds t.pre t.event :=
  conserved_run_iff _ (by decide)

theorem flush_failed_once (ret : Nat → Int) (a : Account) (p : Nat) (q : List Nat)
    (hb : a.relay.packetBuffer = p :: q) (h : ret 0 < 0) :
    (step a (.sendBuffer ret)).relay.packetBuffer = p :: q ++ [p] := by
  rw [step, sendBuffer_failed ret 0 a.relay p q hb h, (send_failed p h a.relay).2.1, hb]

/-- One packet is handed over while the socket refuses, and the first flush
meets the same refusal: the packet now waits twice. -/
theorem flush_duplicates :
    ¬ ((∀ a ∈ states (total step) start [.send 7 (-1), .sendBuffer fun _ => -1], Conserved a) ∧
      ∀ t ∈ transitions (total step) start [.send 7 (-1), .sendBuffer fun _ => -1],
        LeavesBuffer t) := by
  rintro ⟨h, _⟩
  have hc := h _ (foldl_mem_states step start [.send 7 (-1), .sendBuffer fun _ => -1]) 7
    (by simp [step, start])
  have hb := flush_failed_once (fun _ => -1) (step start (.send 7 (-1))) 7 [] rfl (by decide)
  rw [List.foldl_cons, List.foldl_cons, List.foldl_nil, hb] at hc
  simp at hc

end UavMonitoring.UdpRelay
