import UavMonitoring.Replicas
import UavMonitoring.TokenStore

namespace UavMonitoring.TokenTraffic

open Basics Clusters CounterLoop FirstMatch Replicas SeedsManager SpringForces VirtualSprings
  ControlSteps TokenStore

variable {K : Type} [Field K] [LinearOrder K]

/-- One way of a token: into `ReceiveToken` of a node, or into the store of the
UAV that issues it. -/
inductive Hop (K : Type)
  | call (j : Nat) (token : Token K)
  | add (token : Token K)

def Hop.called : Hop K → Option (Nat × Token K)
  | .call j token => some (j, token)
  | .add _ => none

def Hop.own (i : Nat) : Hop K → Option (Token K)
  | .call j token => if j = i then some token else none
  | .add token => some token

def received : Call K → Option (Nat × Token K)
  | .receiveToken j token => some (j, token)
  | _ => none

def receipts (calls : List (Call K)) : List (Nat × Token K) := calls.filterMap received

def tokensTo (j : Nat) (calls : List (Call K)) : List (Token K) :=
  (receipts calls).filterMap fun p => if p.1 = j then some p.2 else none

def routed (cfg : Config K) (w : World K) : List Nat :=
  w.entries.flatMap fun e => cfg.ataNodes.filter fun j => decide (w.address j = e.destAddr)

def hops (cfg : Config K) (w : World K) (token : Token K) : List (Hop K) :=
  (routed cfg w).map (Hop.call · token) ++ [.add token]

theorem addToken_idempotent [IsStrictOrderedRing K] : Idempotent (addToken : Token K → _) :=
  fun _ _ _ => addToken_again

omit [Field K] [LinearOrder K] in
@[simp] theorem receipts_append (a b : List (Call K)) : receipts (a ++ b) = receipts a ++ receipts b :=
  List.filterMap_append

def Moves (i : Nat) (hs : List (Hop K)) (s s' : Uav K × List (Call K)) : Prop :=
  receipts s'.2 = receipts s.2 ++ hs.filterMap Hop.called ∧
    addAll s.1.tokens (hs.filterMap (Hop.own i)) = some s'.1.tokens

section Sending

variable {i : Nat} {cfg : Config K} {w : World K} {token : Token K}

theorem Moves.refl (s : Uav K × List (Call K)) : Moves i [] s s := ⟨(List.append_nil _).symm, rfl⟩

theorem Moves.trans {hs hs' : List (Hop K)} {s t u : Uav K × List (Call K)} (h : Moves i hs s t)
    (h' : Moves i hs' t u) : Moves i (hs ++ hs') s u := by
  refine ⟨?_, ?_⟩
  · rw [h'.1, h.1, List.filterMap_append, List.append_assoc]
  · rw [List.filterMap_append]
    change takeAll addToken _ _ = _
    rw [takeAll_append]
    exact Option.bind_eq_some_iff.mpr ⟨t.1.tokens, h.2, h'.2⟩

theorem receiveToken_moves {u u' : Uav K} (h : receiveToken token u = some u') (calls : List (Call K)) :
    Moves i [.add token] (u, calls) (u', calls) := by
  obtain ⟨tokens, hadd, rfl⟩ := Option.map_eq_some_iff.mp h
  refine ⟨(List.append_nil _).symm, ?_⟩
  change takeAll addToken u.tokens [token] = some tokens
  rw [takeAll_cons, hadd]
  rfl

theorem sendTo_moves {s s' : Uav K × List (Call K)} {j : Nat} (h : sendTo cfg token s j = some s') :
    Moves cfg.id [.call j token] s s' := by
  rw [sendTo] at h
  split at h
  · next hj =>
      obtain ⟨u, hu, rfl⟩ := Option.map_eq_some_iff.mp h
      obtain ⟨_, hadd⟩ := receiveToken_moves (i := cfg.id) hu s.2
      refine ⟨receipts_append .., ?_⟩
      simpa [Hop.own, hj] using hadd
  · next hj =>
      cases h
      refine ⟨receipts_append .., ?_⟩
      simp [Hop.own, hj, addAll]

omit [Field K] [LinearOrder K] in
theorem map_filter_eq_flatMap (p : Nat → Bool) (f : Nat → Hop K) (js : List Nat) :
    (js.filter p).map f = js.flatMap fun j => if p j then [f j] else [] := by
  induction js with
  | nil => rfl
  | cons j js ih =>
      rw [List.flatMap_cons, ← ih]
      cases hj : p j <;> simp [hj]

theorem sendToken_moves {u : Uav K} {s : Uav K × List (Call K)} (h : sendToken cfg w token u = some s) :
    Moves cfg.id ((routed cfg w).map (Hop.call · token)) (u, []) s := by
  let reached (e : RoutingTableEntry) : List (Hop K) :=
    (cfg.ataNodes.filter fun j => decide (w.address j = e.destAddr)).map (Hop.call · token)
  have hroute : (routed cfg w).map (Hop.call · token) = w.entries.flatMap reached := by
    rw [routed, List.map_flatMap]
  rw [hroute]
  refine forEach_trace (Moves cfg.id) reached Moves.refl (fun _ _ _ _ _ => Moves.trans) ?_ h
  intro s e _ s' he
  simp only [reached, map_filter_eq_flatMap]
  refine forEach_trace (Moves cfg.id) _ Moves.refl (fun _ _ _ _ _ => Moves.trans) ?_ he
  intro s j _ s' hj
  split at hj
  · next hdest =>
      rw [if_pos (decide_eq_true hdest)]
      exact sendTo_moves hj
  · next hdest =>
      cases hj
      rw [if_neg (by simpa using hdest)]
      exact .refl _

theorem issueToken_moves {s s' : Uav K × List (Call K)} (h : issueToken cfg w s token = some s') :
    Moves cfg.id (hops cfg w token) s s' := by
  obtain ⟨⟨u₁, calls⟩, h₁, h⟩ := Option.bind_eq_some_iff.mp h
  obtain ⟨u₂, h₂, h⟩ := Option.bind_eq_some_iff.mp h
  cases h
  obtain ⟨hcalls, hown⟩ := sendToken_moves h₁
  have hmove : Moves cfg.id ((routed cfg w).map (Hop.call · token)) s (u₁, s.2 ++ calls) := by
    refine ⟨?_, hown⟩
    rw [receipts_append, hcalls]
    rfl
  exact hmove.trans (receiveToken_moves h₂ _)

theorem issueTokens_moves {tokens : List (Token K)} {s s' : Uav K × List (Call K)}
    (h : issueTokens cfg w tokens s = some s') : Moves cfg.id (tokens.flatMap (hops cfg w)) s s' :=
  forEach_trace (Moves cfg.id) (hops cfg w) Moves.refl (fun _ _ _ _ _ => Moves.trans)
    (fun _ _ _ _ ht => issueToken_moves ht) h

theorem sendHeldToken_moves {u : Uav K} {s : Uav K × List (Call K)}
    (h : sendHeldToken cfg w u = some s) :
    (u.token.expires = seconds 0 ∧ s = (u, [])) ∨
      (u.token.expires ≠ seconds 0 ∧ Moves cfg.id (hops cfg w u.token) (u, []) s ∧
        s.1.token = newToken w.junkToken) := by
  rw [sendHeldToken] at h
  split at h
  · next hnone =>
      cases h
      exact .inl ⟨hnone, rfl⟩
  · next hheld =>
      obtain ⟨⟨u₁, sent⟩, h₁, h⟩ := Option.bind_eq_some_iff.mp h
      obtain ⟨u₂, h₂, h⟩ := Option.bind_eq_some_iff.mp h
      cases h
      exact .inr ⟨hheld, (sendToken_moves h₁).trans (receiveToken_moves h₂ sent), rfl⟩

end Sending

section Shares

variable {cfg : Config K} {w : World K}

theorem tokensTo_of_moves {i : Nat} {ts : List (Token K)} {u : Uav K} {s : Uav K × List (Call K)}
    (h : Moves i (ts.flatMap (hops cfg w)) (u, []) s) (j : Nat) :
    tokensTo j s.2 = repeated ((routed cfg w).count j) ts := by
  rw [tokensTo, h.1]
  change List.filterMap _ (List.filterMap _ _) = _
  rw [List.filterMap_filterMap, repeated, List.filterMap_flatMap]
  refine congrArg (List.flatMap · ts) (funext fun t => ?_)
  rw [hops, List.filterMap_append, List.filterMap_map]
  change (routed cfg w).filterMap (fun k => if k = j then some t else none) ++ [] = _
  rw [filterMap_count, List.append_nil]

theorem tokens_of_moves {i : Nat} {ts : List (Token K)} {u : Uav K} {s : Uav K × List (Call K)}
    (h : Moves i (ts.flatMap (hops cfg w)) (u, []) s) :
    addAll u.tokens (repeated ((routed cfg w).count i + 1) ts) = some s.1.tokens := by
  rw [← h.2, repeated, List.filterMap_flatMap]
  refine congrArg (fun f => addAll u.tokens (List.flatMap f ts)) (funext fun t => ?_)
  rw [hops, List.filterMap_append, List.filterMap_map]
  change _ = (routed cfg w).filterMap (fun k => if k = i then some t else none) ++ [t]
  rw [filterMap_count, List.replicate_succ']

end Shares

section Steps

variable {c : CMath K} {cfg : Config K} {w : World K} {now : Time}

theorem receipts_moveForces {u : Uav K} {calls : List (Call K)} (h : moveForces c cfg w now u = some calls) :
    receipts calls = [] := by
  obtain ⟨force, _, rfl⟩ := Option.map_eq_some_iff.mp h
  cases force with
  | none => rfl
  | some f =>
      dsimp only
      split <;> rfl

def Clustered (cfg : Config K) (now : Time) (t : Token K) : Prop :=
  Issued cfg now t ∧ (cfg.predictionMode = 2 ∨ cfg.predictionMode = 3)

theorem checkLostClusters_moves {u : Uav K} {s : Uav K × List (Call K)}
    (h : checkLostClusters c cfg w now u = some s) :
    ∃ ts : List (Token K), (∀ t ∈ ts, Clustered cfg now t) ∧
      Moves cfg.id (ts.flatMap (hops cfg w)) (u, []) s := by
  rw [checkLostClusters] at h
  split at h
  · next hmode =>
      have hmoves := issueTokens_moves h
      exact ⟨_, fun _ ht => ⟨issued_of_mem ht, .inl hmode⟩, hmoves⟩
  · split at h
    · next hmode =>
        obtain ⟨⟨numClust, pt⟩, _, h⟩ := Option.bind_eq_some_iff.mp h
        obtain ⟨clusters, _, h⟩ := Option.bind_eq_some_iff.mp h
        have hmoves := issueTokens_moves h
        exact ⟨_, fun _ ht => ⟨issued_of_mem ht, .inr hmode⟩, hmoves⟩
    · cases h
      exact ⟨[], by simp, .refl _⟩

inductive Keeps (c : CMath K) (cfg : Config K) (w : World K) (now : Time) (u u' : Uav K) : Prop
  | same (token : u'.token = u.token)
  | sent (token : u'.token = newToken w.junkToken)
  | issued (v : Uav K) (mode : cfg.predictionMode = 1) (token : u'.token = generateToken c cfg w now v)

theorem Keeps.of_eq {u v u' : Uav K} (h : Keeps c cfg w now v u') (hv : v.token = u.token) :
    Keeps c cfg w now u u' := by
  cases h with
  | same token => exact .same (token.trans hv)
  | sent token => exact .sent token
  | issued v mode token => exact .issued v mode token

variable [FloorRing K]

theorem disconnected_moves {u : Uav K} {s : Uav K × List (Call K)}
    (h : disconnected c cfg w now u = some s) : receipts s.2 = [] ∧ Keeps c cfg w now u s.1 := by
  rw [disconnected] at h
  split at h
  · cases h
    refine ⟨?_, ?_⟩
    · rw [giveUp, receipts_append]
      split <;> rfl
    · rw [giveUp]
      dsimp only
      split
      · next hissue => exact .issued u hissue.1 rfl
      · exact .same rfl
  · obtain ⟨⟨u₁, compared⟩, h₁, h⟩ := Option.bind_eq_some_iff.mp h
    obtain ⟨moved, h₂, h⟩ := Option.bind_eq_some_iff.mp h
    have hmoved := receipts_moveForces h₂
    cases h
    have hcompared : receipts compared = [] ∧ u₁.token = u.token := by
      rw [comparePersist] at h₁
      split at h₁
      · cases h₁
        exact ⟨rfl, rfl⟩
      · obtain ⟨simNode, _, h₁⟩ := Option.map_eq_some_iff.mp h₁
        cases h₁
        exact ⟨rfl, rfl⟩
    refine ⟨?_, .same hcompared.2⟩
    rw [receipts_append, hcompared.1, hmoved]
    rfl

omit [FloorRing K] in
theorem moveIfDue_moves {u u' : Uav K} {calls : List (Call K)} (h : moveIfDue c cfg w now u = some (u', calls)) :
    receipts calls = [] := by
  rw [moveIfDue] at h
  split at h
  · obtain ⟨moved, hmoved, h⟩ := Option.map_eq_some_iff.mp h
    cases h
    exact receipts_moveForces hmoved
  · cases h
    rfl

theorem act_moves {entry : RoutingTableEntry} {u : Uav K} {s : Uav K × List (Call K)}
    (h : act c cfg w now entry u = some s) :
    ∃ ts : List (Token K), (∀ t ∈ ts, t = u.token ∧ t.expires ≠ seconds 0) ∧
      Moves cfg.id (ts.flatMap (hops cfg w)) (u, []) s ∧
      Keeps c cfg w now u s.1 := by
  rw [act] at h
  split at h
  · obtain ⟨hcalls, hkeeps⟩ := disconnected_moves h
    exact ⟨[], by simp, ⟨hcalls, congrArg some (disconnected_tokens h).symm⟩, hkeeps⟩
  · obtain ⟨u₁, h₁, h⟩ := Option.bind_eq_some_iff.mp h
    obtain ⟨persist, rangeApprox, rfl⟩ := updatePersist_eq h₁
    obtain ⟨⟨u₂, sent⟩, h₂, h⟩ := Option.bind_eq_some_iff.mp h
    obtain ⟨⟨u₃, moved⟩, h₃, h⟩ := Option.bind_eq_some_iff.mp h
    cases h
    have hu₃ := moveIfDue_eq h₃
    have hwaited : receipts (waitPause u₃).2 = [] := by
      rw [waitPause]
      split <;> rfl
    dsimp only at hu₃
    have hcalls : receipts (sent ++ moved ++ (waitPause u₃).2) = receipts sent := by
      rw [receipts_append, receipts_append, moveIfDue_moves h₃, hwaited, List.append_nil, List.append_nil]
    have htokens : (waitPause u₃).1.tokens = u₂.tokens ∧ (waitPause u₃).1.token = u₂.token := by
      rw [waitPause_eq, hu₃]
      exact ⟨rfl, rfl⟩
    rcases sendHeldToken_moves h₂ with ⟨_, hs⟩ | ⟨hheld, ⟨hsent, hadd⟩, hnew⟩
    · cases hs
      exact ⟨[], by simp, ⟨hcalls, congrArg some htokens.1.symm⟩, .same htokens.2⟩
    · refine ⟨[u.token], by simpa using hheld, ?_, .sent (htokens.2.trans hnew)⟩
      rw [List.flatMap_singleton]
      exact ⟨hcalls.trans hsent, by rw [htokens.1]; exact hadd⟩

def Sends (cfg : Config K) (now : Time) (u : Uav K) (t : Token K) : Prop :=
  Clustered cfg now t ∨ (t = u.token ∧ t.expires ≠ seconds 0)

theorem doInitializePrivate_moves {u u' : Uav K} {calls : List (Call K)}
    (h : doInitializePrivate c cfg w now u = some (u', calls)) :
    ∃ ts : List (Token K), (∀ t ∈ ts, Sends cfg now u t) ∧
      Moves cfg.id (ts.flatMap (hops cfg w)) (u, []) (u', calls) ∧ Keeps c cfg w now u u' := by
  obtain ⟨⟨u₁, seen⟩, h₁, h⟩ := Option.bind_eq_some_iff.mp h
  obtain ⟨entry, _, h⟩ := Option.bind_eq_some_iff.mp h
  obtain ⟨⟨u₂, rest⟩, h₂, h⟩ := Option.bind_eq_some_iff.mp h
  cases h
  obtain ⟨_, _, _, ⟨tokens, hu₁⟩, _⟩ := observe_sent h₁
  obtain ⟨⟨neighbours, allNeighbours⟩, _, h₁⟩ := Option.bind_eq_some_iff.mp h₁
  obtain ⟨ts, hts, hmoves⟩ := checkLostClusters_moves h₁
  obtain ⟨ts', hts', ⟨hsent, hadd⟩, htoken⟩ := act_moves h₂
  have hheld : u₁.token = u.token := by
    dsimp only at hu₁
    rw [hu₁]
    rfl
  rw [hheld] at hts'
  refine ⟨ts ++ ts', ?_, ?_, htoken.of_eq hheld⟩
  · rw [List.forall_mem_append]
    exact ⟨fun t ht => .inl (hts t ht), fun t ht => .inr (hts' t ht)⟩
  · rw [List.flatMap_append]
    have hrest : Moves cfg.id (ts'.flatMap (hops cfg w)) (u₁, seen) (u', seen ++ rest) :=
      ⟨by rw [receipts_append, hsent]; rfl, hadd⟩
    exact Moves.trans hmoves hrest

end Steps

end UavMonitoring.TokenTraffic
