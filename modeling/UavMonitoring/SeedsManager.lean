import UavMonitoring.Basics
import UavMonitoring.CounterLoop
import UavMonitoring.FirstMatch
import UavMonitoring.Runs

namespace UavMonitoring.SeedsManager

open Basics CounterLoop FirstMatch Runs

variable {K : Type} [Field K]

structure Seed (K : Type) where
  origin : Vector3D K
  pos : Vector3D K
  weight : K
deriving DecidableEq

/-- A token's priority is left out: nothing sets or reads it. -/
structure Token (K : Type) where
  lastPos : Vector3D K
  lastTime : Time
  weight : K
  speed : Vector3D K
  expires : Time
  id : UInt32
deriving DecidableEq

def seedOf (now : Time) (token : Token K) : Seed K :=
  let interval : K := getSeconds (now - token.lastTime)
  ⟨⟨token.lastPos.x, token.lastPos.y, 0⟩,
    ⟨token.lastPos.x + token.speed.x * interval, token.lastPos.y + token.speed.y * interval, 0⟩,
    token.weight⟩

def computeSeeds (now : Time) (tokens : List (Token K)) : Option (List (Seed K)) :=
  accumulate 16 tokens
    (fun seeds token => if token.expires < now then seeds else seeds ++ [seedOf now token]) []

def getSeeds (now : Time) (tokens : List (Token K)) : Option (List (Seed K)) :=
  computeSeeds now tokens

def seedAt (now : Time) (token : Token K) : Option (Seed K) :=
  if token.expires < now then none else some (seedOf now token)

theorem foldl_seeds (now : Time) (tokens : List (Token K)) (seeds : List (Seed K)) :
    tokens.foldl (fun seeds token =>
      if token.expires < now then seeds else seeds ++ [seedOf now token]) seeds =
      seeds ++ tokens.filterMap (seedAt now) := by
  induction tokens generalizing seeds with
  | nil => simp
  | cons token tokens ih =>
      rw [List.foldl_cons, ih]
      by_cases h : token.expires < now
      · simp [h, seedAt]
      · simp [h, seedAt]

theorem getSeeds_of_short (now : Time) {tokens : List (Token K)} (h : tokens.length < 2 ^ 16) :
    getSeeds now tokens = some (tokens.filterMap (seedAt now)) := by
  rw [getSeeds, computeSeeds, accumulate_of_short h, foldl_seeds, List.nil_append]

theorem getSeeds_of_long (now : Time) {tokens : List (Token K)} (h : 2 ^ 16 ≤ tokens.length) :
    getSeeds now tokens = none := forEach_of_long h _ _

variable [LinearOrder K]

def near (token stored : Token K) : Bool :=
  let minX := stored.lastPos.x - 30
  let maxX := stored.lastPos.x + 30
  let minY := stored.lastPos.y - 30
  let maxY := stored.lastPos.y + 30
  decide (minX < token.lastPos.x) && decide (token.lastPos.x < maxX) &&
    decide (minY < token.lastPos.y) && decide (token.lastPos.y < maxY)

def addToken (token : Token K) (tokens : List (Token K)) : Option (List (Token K)) :=
  match search 16 tokens (near token) with
  | none => none
  | some (some i) => some (tokens.set i token)
  | some none => some (tokens ++ [token])

def deliver (tokens : List (Token K)) : Option (List (Token K)) :=
  tokens.foldlM (fun stored token => addToken token stored) []

def seedsAfter (now : Time) (tokens : List (Token K)) : Option (List (Seed K)) :=
  (deliver tokens).bind (getSeeds now)

theorem addToken_eq (token : Token K) (tokens : List (Token K)) :
    addToken token tokens = (search 16 tokens (near token)).map fun _ => put near tokens token :=
  search_put ..

theorem addToken_of_short {tokens : List (Token K)} (h : tokens.length < 2 ^ 16) (token : Token K) :
    addToken token tokens = some (put near tokens token) := by
  rw [addToken_eq, search_of_short h, Option.map_some]

theorem eq_put_of_addToken {token : Token K} {tokens stored : List (Token K)}
    (h : addToken token tokens = some stored) : stored = put near tokens token := by
  rw [addToken_eq] at h
  obtain ⟨_, _, rfl⟩ := Option.map_eq_some_iff.mp h
  rfl

theorem deliver_of_short {tokens : List (Token K)} (h : tokens.length ≤ 2 ^ 16) :
    deliver tokens = some (putAll near tokens) := by
  induction tokens using List.reverseRecOn with
  | nil => rfl
  | append_singleton tokens token ih =>
      have hlt : tokens.length < 2 ^ 16 := by
        rwa [List.length_append, List.length_singleton, Nat.succ_le_iff] at h
      have hstored := (length_putAll_le near tokens).trans_lt hlt
      have hd := ih hlt.le
      simp only [deliver] at hd ⊢
      rw [List.foldlM_append, hd, putAll_concat]
      simp [addToken_of_short hstored]

theorem seedsAfter_of_short (now : Time) {tokens : List (Token K)} (h : tokens.length < 2 ^ 16) :
    seedsAfter now tokens = some ((putAll near tokens).filterMap (seedAt now)) := by
  rw [seedsAfter, deliver_of_short h.le, Option.bind_some,
    getSeeds_of_short now ((length_putAll_le near tokens).trans_lt h)]

theorem near_iff (a b : Token K) : near a b ↔
    b.lastPos.x - 30 < a.lastPos.x ∧ a.lastPos.x < b.lastPos.x + 30 ∧
      b.lastPos.y - 30 < a.lastPos.y ∧ a.lastPos.y < b.lastPos.y + 30 := by
  simp [near, and_assoc]

theorem near_congr {a b : Token K} (hx : a.lastPos.x = b.lastPos.x) (hy : a.lastPos.y = b.lastPos.y)
    (c : Token K) : near c a = near c b := by
  simp only [near, hx, hy]

omit [LinearOrder K] in
theorem seedAt_eq_some_iff (now : Time) (token : Token K) (σ : Seed K) :
    seedAt now token = some σ ↔ ¬ token.expires < now ∧ seedOf now token = σ := by
  rw [seedAt]
  split <;> simp [*]

omit [LinearOrder K] in
theorem lastPos_of_seedAt {now : Time} {a b : Token K} {σ : Seed K} (ha : seedAt now a = some σ)
    (hb : seedAt now b = some σ) : a.lastPos.x = b.lastPos.x ∧ a.lastPos.y = b.lastPos.y := by
  have h : seedOf now a = seedOf now b :=
    ((seedAt_eq_some_iff now a σ).mp ha).2.trans ((seedAt_eq_some_iff now b σ).mp hb).2.symm
  exact ⟨congrArg (fun s => s.origin.x) h, congrArg (fun s => s.origin.y) h⟩

/-- With `2 ^ 16` tokens far from one another stored, the loops over them no
longer end. -/
theorem seedsAfter_of_crowded (now : Time) {tokens : List (Token K)} (h : 2 ^ 16 ≤ tokens.length)
    (hfar : tokens.Pairwise (fun stored token => ¬ near token stored)) :
    seedsAfter now tokens = none := by
  have hlen : (tokens.take (2 ^ 16)).length = 2 ^ 16 := by rw [List.length_take, Nat.min_eq_left h]
  have hfull : deliver (tokens.take (2 ^ 16)) = some (tokens.take (2 ^ 16)) := by
    rw [deliver_of_short hlen.le, putAll_of_far near _ (hfar.sublist (List.take_sublist _ _))]
  rw [← List.take_append_drop (2 ^ 16) tokens, List.pairwise_append] at hfar
  rw [seedsAfter, ← List.take_append_drop (2 ^ 16) tokens]
  simp only [deliver] at hfull ⊢
  rw [List.foldlM_append, hfull]
  cases hrest : tokens.drop (2 ^ 16) with
  | nil => exact getSeeds_of_long now hlen.ge
  | cons token rest =>
      have hmiss : search 16 (tokens.take (2 ^ 16)) (near token) = none :=
        search_of_long hlen.ge fun stored hs =>
          hfar.2.2 stored hs token (hrest ▸ List.mem_cons_self)
      have hadd : addToken token (tokens.take (2 ^ 16)) = none := by simp only [addToken, hmiss]
      change (((addToken token (tokens.take (2 ^ 16))).bind _).bind _) = none
      rw [hadd]
      rfl

variable [IsStrictOrderedRing K]

theorem near_symm (a b : Token K) (h : near a b) : near b a := by
  rw [near_iff] at h ⊢
  obtain ⟨h₁, h₂, h₃, h₄⟩ := h
  refine ⟨?_, ?_, ?_, ?_⟩ <;> linarith

theorem near_of_same_pos {a b : Token K} (hx : a.lastPos.x = b.lastPos.x)
    (hy : a.lastPos.y = b.lastPos.y) : near a b := by
  rw [near_iff, hx, hy]
  refine ⟨?_, ?_, ?_, ?_⟩ <;> linarith

theorem addToken_again {token : Token K} {tokens stored : List (Token K)}
    (h : addToken token tokens = some stored) : addToken token stored = some stored := by
  rw [eq_put_of_addToken h]
  rw [addToken_eq] at h
  obtain ⟨r, hr, _⟩ := Option.map_eq_some_iff.mp h
  obtain ⟨i, hi, hset⟩ := search_put_self (near_of_same_pos rfl rfl) hr
  rw [addToken, hi]
  exact congrArg some hset

/-- Whatever the order in which fewer than `2 ^ 16` tokens arrive, a list of
seeds comes back. All orders give the same set of seeds at time `now` exactly
when tokens inside one another's box give the same seed at that time. -/
theorem same_seeds_iff (now : Time) (tokens : List (Token K)) (h : tokens.length < 2 ^ 16) :
    (∀ us : List (Token K), us.Perm tokens → ∃ s, seedsAfter now us = some s) ∧
    ((∀ us vs : List (Token K), us.Perm tokens → vs.Perm tokens →
      ∃ s s', seedsAfter now us = some s ∧ seedsAfter now vs = some s' ∧ ∀ σ, σ ∈ s ↔ σ ∈ s') ↔
    ∀ a ∈ tokens, ∀ b ∈ tokens, near a b → seedAt now a = seedAt now b) := by
  have hsame (a b : Token K) (σ : Seed K) (ha : seedAt now a = some σ) (hb : seedAt now b = some σ) :
      near a b := near_of_same_pos (lastPos_of_seedAt ha hb).1 (lastPos_of_seedAt ha hb).2
  have hnear (a b : Token K) (σ : Seed K) (ha : seedAt now a = some σ) (hb : seedAt now b = some σ) :
      ∀ c, near c a = near c b := near_congr (lastPos_of_seedAt ha hb).1 (lastPos_of_seedAt ha hb).2
  have hrun (us : List (Token K)) (hus : us.Perm tokens) :
      seedsAfter now us = some ((putAll near us).filterMap (seedAt now)) :=
    seedsAfter_of_short now (hus.length_eq ▸ h)
  have hmem (us : List (Token K)) (σ : Seed K) :
      σ ∈ (putAll near us).filterMap (seedAt now) ↔ some σ ∈ (putAll near us).map (seedAt now) := by
    simp
  refine ⟨fun us hus => ⟨_, hrun us hus⟩, ?_⟩
  rw [← agree_iff near_symm hsame hnear]
  constructor
  · intro hall us vs hus hvs σ
    obtain ⟨s, s', hs, hs', hiff⟩ := hall us vs hus hvs
    rw [hrun us hus, Option.some.injEq] at hs
    rw [hrun vs hvs, Option.some.injEq] at hs'
    rw [← hmem, ← hmem, hs, hs', hiff]
  · intro hall us vs hus hvs
    refine ⟨_, _, hrun us hus, hrun vs hvs, fun σ => ?_⟩
    rw [hmem, hmem]
    exact hall us vs hus hvs σ

def tokenAt (x : ℚ) : Token ℚ := ⟨⟨x, 0, 0⟩, 0, 1, 0, seconds 600, 1⟩

theorem same_seeds_iff_three_tokens :
    let tokens := [tokenAt 0, tokenAt 40, tokenAt 90]
    (∀ us : List (Token ℚ), us.Perm tokens → ∃ s, seedsAfter (seconds 5) us = some s) ∧
    ((∀ us vs : List (Token ℚ), us.Perm tokens → vs.Perm tokens →
      ∃ s s', seedsAfter (seconds 5) us = some s ∧ seedsAfter (seconds 5) vs = some s' ∧
        ∀ σ, σ ∈ s ↔ σ ∈ s') ↔
    ∀ a ∈ tokens, ∀ b ∈ tokens, near a b → seedAt (seconds 5) a = seedAt (seconds 5) b) :=
  same_seeds_iff (seconds 5) [tokenAt 0, tokenAt 40, tokenAt 90] (by decide)

theorem order_matters :
    ¬ ∀ (now : Time) (us vs : List (Token ℚ)), us.Perm vs →
      ∃ s s', seedsAfter now us = some s ∧ seedsAfter now vs = some s' ∧ ∀ σ, σ ∈ s ↔ σ ∈ s' := by
  intro h
  obtain ⟨s, s', hs, hs', hiff⟩ := h (seconds 5) [tokenAt 0, tokenAt 10] [tokenAt 10, tokenAt 0]
    (List.Perm.swap _ _ _)
  rw [seedsAfter_of_short _ (by decide), Option.some.injEq] at hs hs'
  subst hs hs'
  exact absurd ((hiff (seedOf (seconds 5) (tokenAt 10))).mp (by decide +kernel)) (by decide +kernel)

section Places

def addStep (tokens : List (Token K)) (token : Token K) : Option (List (Token K) × Unit) :=
  (addToken token tokens).map fun stored => (stored, ())

def Together (a b : Token K) : Prop :=
  |a.lastPos.x - b.lastPos.x| < 30 ∧ |a.lastPos.y - b.lastPos.y| < 30

def Spread (stored : List (Token K)) : Prop := stored.Pairwise fun a b => ¬ Together a b

theorem near_iff_together (a b : Token K) : near a b ↔ Together a b := by
  rw [near_iff, Together, abs_lt, abs_lt]
  constructor
  · rintro ⟨h₁, h₂, h₃, h₄⟩
    refine ⟨⟨?_, ?_⟩, ?_, ?_⟩ <;> linarith
  · rintro ⟨⟨h₁, h₂⟩, h₃, h₄⟩
    refine ⟨?_, ?_, ?_, ?_⟩ <;> linarith

theorem spread_step {tokens stored : List (Token K)} {token : Token K} (h : Spread tokens)
    (hadd : addToken token tokens = some stored) :
    Spread stored ↔ tokens.countP (near token) ≤ 1 := by
  simp only [Spread, ← near_iff_together] at h ⊢
  rw [eq_put_of_addToken hadd]
  exact pairwise_put_iff near_symm h token

/-- No place has two tokens, in all that is ever stored, exactly when no token
arrives between two others. -/
theorem spread_iff (ts : List (Token K)) :
    (∀ stored ∈ states addStep [] ts, Spread stored) ↔
      ∀ t ∈ transitions addStep [] ts, t.pre.countP (near t.event) ≤ 1 := by
  refine states_step_iff addStep (fun _ _ => True) Spread (fun s e => s.countP (near e) ≤ 1) ?_ ?_ ts
    trivial .nil
  · intro _ _ _ _ _ _ _
    trivial
  · intro tokens token stored _ _ _ h hspread
    obtain ⟨_, hadd, he⟩ := Option.map_eq_some_iff.mp h
    cases he
    exact spread_step hspread hadd

theorem spread_iff_two : (∀ stored ∈ states addStep [] [tokenAt 0, tokenAt 50], Spread stored) ↔
    ∀ t ∈ transitions addStep [] [tokenAt 0, tokenAt 50], t.pre.countP (near t.event) ≤ 1 :=
  spread_iff [tokenAt 0, tokenAt 50]

theorem crowded_place :
    ¬ ∀ ts : List (Token ℚ), ∀ stored ∈ states addStep [] ts, Spread stored := by
  intro h
  have hspread : Spread [tokenAt 25, tokenAt 50] :=
    h [tokenAt 0, tokenAt 50, tokenAt 25] _ (by decide +kernel)
  have htogether : Together (tokenAt 25) (tokenAt 50) := ⟨by decide +kernel, by decide +kernel⟩
  exact (List.pairwise_cons.mp hspread).1 _ (List.mem_singleton_self _) htogether

end Places

end UavMonitoring.SeedsManager
