import Mathlib.Data.Rat.Floor
import Mathlib.Tactic.NormNum
import Sn360Es.Lib.GoTime
import Sn360Es.Lib.TokenBucket

/-!
# The rate limit of tenants (`pkg/events/rate_limiter.go`)

`RateLimitedEventService` has a bucket for every tenant. `allow` throws full buckets out that were idle for a time, at
most once in an interval, and takes a token of the bucket of its tenant; a tenant without a bucket gets a full one.

What a call finds is the level of its tenant (`RateLimitedEventService.level`), and that is full where there is no
bucket.

* `level_sweepIdle` — a sweep changes no level, now or later;
* `Limits` — what a call does to the levels, the same with a sweep (`limits_allow`) and without (`limits_take`);
* `Agree` — two limiters with the same levels for a tenant; every call keeps it (`Agree.call`);
* `Kept` — the level and what was allowed are within what a bucket can give (`Kept.call`);
* `tenant_limiter_lossless` — so eviction changes no answer, other tenants change none, and every window is bounded.
-/

namespace Sn360Es.Events

open Lib Lib.TokenBucket

/-! ### The limiter -/

/-- `RateLimitConfig`; times in nanoseconds. -/
structure RateLimitConfig where
  maxPerTenantPerSecond : ℤ := 0
  burstSize : ℤ := 0
  idleTTL : ℤ := 0
  sweepInterval : ℤ := 0
  deriving DecidableEq, Repr

/-- `tokenBucket`. -/
structure TenantBucket where
  tokens : ℚ
  maxTokens : ℚ
  rate : ℚ
  lastFill : ℤ
  deriving DecidableEq

namespace TenantBucket

/-- `now.Sub(b.lastFill).Seconds()`. -/
def idleSeconds (b : TenantBucket) (now : ℤ) : ℚ := GoTime.sub now b.lastFill / 10 ^ 9

/-- `tokenBucket.allow`. -/
def allow (b : TenantBucket) (now : ℤ) : Bool × TenantBucket :=
  let tokens := b.tokens + b.idleSeconds now * b.rate
  let tokens := if b.maxTokens < tokens then b.maxTokens else tokens
  if tokens < 1 then (false, { b with tokens, lastFill := now })
  else (true, { b with tokens := tokens - 1, lastFill := now })

end TenantBucket

/-- `RateLimitedEventService`, as far as the limit goes. -/
structure RateLimitedEventService where
  cfg : RateLimitConfig
  buckets : String → Option TenantBucket := fun _ => none
  lastSweep : ℤ

/-- The configuration with its defaults. Twice the limit is an `int` again. -/
def RateLimitConfig.defaulted (cfg : RateLimitConfig) : RateLimitConfig :=
  let max := if cfg.maxPerTenantPerSecond ≤ 0 then 100 else cfg.maxPerTenantPerSecond
  { maxPerTenantPerSecond := max
    burstSize := if cfg.burstSize ≤ 0 then GoTime.int64 (max * 2) else cfg.burstSize
    idleTTL := if cfg.idleTTL ≤ 0 then 600 * 10 ^ 9 else cfg.idleTTL
    sweepInterval := if cfg.sweepInterval ≤ 0 then 60 * 10 ^ 9 else cfg.sweepInterval }

/-- `NewRateLimitedEventService`, at a time. -/
def newRateLimitedEventService (cfg : RateLimitConfig) (now : ℤ) : RateLimitedEventService where
  cfg := cfg.defaulted
  lastSweep := now

namespace RateLimitedEventService

/-- The bucket that is thrown out by a sweep. -/
def evicts (s : RateLimitedEventService) (now : ℤ) (b : TenantBucket) : Bool :=
  s.cfg.idleTTL ≤ GoTime.sub now b.lastFill && b.maxTokens ≤ b.tokens + b.idleSeconds now * b.rate

/-- `sweepIdle`. -/
def sweepIdle (s : RateLimitedEventService) (now : ℤ) : RateLimitedEventService :=
  if GoTime.sub now s.lastSweep < s.cfg.sweepInterval then s
  else
    { s with
      lastSweep := now
      buckets := fun id => (s.buckets id).filter fun b => !s.evicts now b }

/-- The bucket of a tenant that has none. -/
def fresh (s : RateLimitedEventService) (now : ℤ) : TenantBucket where
  tokens := s.cfg.burstSize
  maxTokens := s.cfg.burstSize
  rate := s.cfg.maxPerTenantPerSecond
  lastFill := now

/-- What `allow` does after the sweep. -/
def take (s : RateLimitedEventService) (tenantID : String) (now : ℤ) : Bool × RateLimitedEventService :=
  let r := ((s.buckets tenantID).getD (s.fresh now)).allow now
  (r.1, { s with buckets := Function.update s.buckets tenantID (some r.2) })

/-- `allow`. -/
def allow (s : RateLimitedEventService) (tenantID : String) (now : ℤ) : Bool × RateLimitedEventService :=
  (s.sweepIdle now).take tenantID now

end RateLimitedEventService

/-- The answers to a sequence of calls, of which each has a tenant and a time. -/
def limitAnswers (allow : RateLimitedEventService → String → ℤ → Bool × RateLimitedEventService) :
    RateLimitedEventService → List (String × ℤ) → List Bool
  | _, [] => []
  | s, call :: calls => (allow s call.1 call.2).1 :: limitAnswers allow (allow s call.1 call.2).2 calls

/-- The answers to the calls of a tenant. -/
def answersOf (tenantID : String) (calls : List (String × ℤ)) (answers : List Bool) : List Bool :=
  ((calls.zip answers).filter fun x => x.1.1 = tenantID).map Prod.snd

/-- The times at which a tenant was allowed. -/
def allowedAt (tenantID : String) (calls : List (String × ℤ)) (answers : List Bool) : List ℚ :=
  ((calls.zip answers).filter fun x => x.1.1 = tenantID ∧ x.2).map fun x => (x.1.2 : ℚ)

/-- The burst that is configured, or twice the limit. -/
def RateLimitConfig.burst (cfg : RateLimitConfig) : ℤ :=
  if cfg.burstSize ≤ 0 then cfg.defaulted.maxPerTenantPerSecond * 2 else cfg.burstSize

/-! ### Levels -/

namespace RateLimitedEventService

/-- The level that a call of a tenant finds. -/
def level (s : RateLimitedEventService) (tenantID : String) (now : ℤ) : ℚ :=
  match s.buckets tenantID with
  | none => s.cfg.burstSize
  | some b => min (s.cfg.burstSize : ℚ) (b.tokens + b.idleSeconds now * s.cfg.maxPerTenantPerSecond)

/-- What is so after every call. -/
structure Sound (s : RateLimitedEventService) : Prop where
  rate_pos : 0 < s.cfg.maxPerTenantPerSecond
  bucket : ∀ id b, s.buckets id = some b → b.maxTokens = s.cfg.burstSize ∧ b.rate = s.cfg.maxPerTenantPerSecond

end RateLimitedEventService

section Levels

variable {s : RateLimitedEventService} {t t' : String} {now n n' : ℤ}

lemma idleSeconds_mono (b : TenantBucket) (h : n ≤ n') : b.idleSeconds n ≤ b.idleSeconds n' := by
  have hcast : (GoTime.sub n b.lastFill : ℚ) ≤ GoTime.sub n' b.lastFill := by exact_mod_cast GoTime.sub_mono _ h
  unfold TenantBucket.idleSeconds
  gcongr

lemma idleSeconds_le_add (b : TenantBucket) (h : n ≤ n') : b.idleSeconds n' ≤ b.idleSeconds n + (n' - n) / 10 ^ 9 := by
  have hcast : (GoTime.sub n' b.lastFill : ℚ) ≤ GoTime.sub n b.lastFill + (n' - n) := by
    exact_mod_cast GoTime.sub_le_add _ h
  unfold TenantBucket.idleSeconds
  rw [← add_div]
  gcongr

lemma level_le_burstSize : s.level t now ≤ s.cfg.burstSize := by
  unfold RateLimitedEventService.level
  split
  · exact le_rfl
  · exact min_le_left _ _

/-- In a time the level grows by no more than the limit gives. -/
lemma level_le_add (hs : s.Sound) (h : n ≤ n') :
    s.level t n' ≤ s.level t n + (s.cfg.maxPerTenantPerSecond : ℚ) / 10 ^ 9 * (n' - n) := by
  have hrate : (0 : ℚ) < s.cfg.maxPerTenantPerSecond := by exact_mod_cast hs.rate_pos
  have hcast : (n : ℚ) ≤ n' := by exact_mod_cast h
  have hgain : (0 : ℚ) ≤ s.cfg.maxPerTenantPerSecond / 10 ^ 9 * (n' - n) :=
    mul_nonneg (by positivity) (sub_nonneg.mpr hcast)
  unfold RateLimitedEventService.level
  cases s.buckets t with
  | none => exact le_add_of_nonneg_right hgain
  | some b =>
    have hidle := mul_le_mul_of_nonneg_right (idleSeconds_le_add b h) hrate.le
    have hsum : (n' - n : ℚ) / 10 ^ 9 * s.cfg.maxPerTenantPerSecond =
        s.cfg.maxPerTenantPerSecond / 10 ^ 9 * (n' - n) := by ring
    dsimp only
    rw [← min_add_add_right]
    refine min_le_min (le_add_of_nonneg_right hgain) ?_
    linarith

lemma sweepIdle_cfg (s : RateLimitedEventService) (now : ℤ) : (s.sweepIdle now).cfg = s.cfg := by
  unfold RateLimitedEventService.sweepIdle
  split_ifs <;> rfl

lemma sweepIdle_bucket (s : RateLimitedEventService) (now : ℤ) (t : String) :
    (s.sweepIdle now).buckets t = s.buckets t ∨
    ∃ b, s.buckets t = some b ∧ s.evicts now b ∧ (s.sweepIdle now).buckets t = none := by
  unfold RateLimitedEventService.sweepIdle
  split_ifs with hsoon
  · exact .inl rfl
  · cases hb : s.buckets t with
    | none => exact .inl (by simp [hb])
    | some b =>
      by_cases hevict : s.evicts now b = true
      · exact .inr ⟨b, rfl, hevict, by simp [hb, hevict]⟩
      · exact .inl (by simp [hb, hevict])

lemma sound_sweepIdle (hs : s.Sound) (now : ℤ) : (s.sweepIdle now).Sound := by
  refine ⟨by rw [sweepIdle_cfg]; exact hs.rate_pos, fun id b hb => ?_⟩
  rw [sweepIdle_cfg]
  rcases sweepIdle_bucket s now id with heq | ⟨b', -, -, hnone⟩
  · exact hs.bucket id b (heq ▸ hb)
  · rw [hnone] at hb
    cases hb

/-- **A sweep is lossless**: the bucket that is thrown out is full, now and later. -/
lemma level_sweepIdle (hs : s.Sound) (hn : now ≤ n) : (s.sweepIdle now).level t n = s.level t n := by
  rcases sweepIdle_bucket s now t with heq | ⟨b, hb, hevict, hnone⟩
  · unfold RateLimitedEventService.level
    rw [heq, sweepIdle_cfg]
  · obtain ⟨hmax, hrate⟩ := hs.bucket t b hb
    have hpos : (0 : ℚ) < s.cfg.maxPerTenantPerSecond := by exact_mod_cast hs.rate_pos
    simp only [RateLimitedEventService.evicts, Bool.and_eq_true, decide_eq_true_eq, hmax, hrate] at hevict
    have hlater := mul_le_mul_of_nonneg_right (idleSeconds_mono b hn) hpos.le
    unfold RateLimitedEventService.level
    rw [hnone, hb, sweepIdle_cfg]
    dsimp only
    rw [min_eq_left]
    linarith [hevict.2]

end Levels

/-! ### Calls -/

/-- The tokens that a call leaves which finds a level. -/
def tokensLeft (lvl : ℚ) : ℚ := if lvl < 1 then lvl else lvl - 1

/-- **What a limiter does**: it answers by the level of the tenant, takes a token of it and leaves the levels of the
others alone. -/
structure Limits (allow : RateLimitedEventService → String → ℤ → Bool × RateLimitedEventService) : Prop where
  cfg : ∀ s t now, (allow s t now).2.cfg = s.cfg
  sound : ∀ s t now, s.Sound → (allow s t now).2.Sound
  answer : ∀ s t now, s.Sound → (allow s t now).1 = decide (1 ≤ s.level t now)
  self : ∀ s t now n, s.Sound → now ≤ n → (allow s t now).2.level t n =
    min (s.cfg.burstSize : ℚ) (tokensLeft (s.level t now) + GoTime.sub n now / 10 ^ 9 * s.cfg.maxPerTenantPerSecond)
  other : ∀ s t t' now n, s.Sound → now ≤ n → t' ≠ t → (allow s t' now).2.level t n = s.level t n

section Limits

variable {s : RateLimitedEventService} {t t' : String} {now n : ℤ}

/-- The bucket that a call leaves. -/
lemma bucket_allow (hs : s.Sound) : ((s.buckets t).getD (s.fresh now)).allow now =
    (decide (1 ≤ s.level t now), ⟨tokensLeft (s.level t now), s.cfg.burstSize, s.cfg.maxPerTenantPerSecond, now⟩) := by
  have hfill : ∀ b : TenantBucket, b.maxTokens = s.cfg.burstSize → b.rate = s.cfg.maxPerTenantPerSecond →
      min (s.cfg.burstSize : ℚ) (b.tokens + b.idleSeconds now * s.cfg.maxPerTenantPerSecond) = s.level t now →
      b.allow now = (decide (1 ≤ s.level t now),
        ⟨tokensLeft (s.level t now), s.cfg.burstSize, s.cfg.maxPerTenantPerSecond, now⟩) := by
    intro b hmax hrate hlevel
    have htokens : (if b.maxTokens < b.tokens + b.idleSeconds now * b.rate then b.maxTokens
        else b.tokens + b.idleSeconds now * b.rate) = s.level t now := by
      rw [← hlevel, hmax, hrate, min_def]
      split_ifs <;> linarith
    unfold TenantBucket.allow tokensLeft
    dsimp only
    rw [htokens, hmax, hrate]
    split_ifs with hlow
    · rw [decide_eq_false (not_le.mpr hlow)]
    · rw [decide_eq_true (not_lt.mp hlow)]
  cases hb : s.buckets t with
  | none =>
    refine hfill _ rfl rfl ?_
    simp [RateLimitedEventService.fresh, TenantBucket.idleSeconds, GoTime.sub_self, RateLimitedEventService.level, hb]
  | some b =>
    obtain ⟨hmax, hrate⟩ := hs.bucket t b hb
    refine hfill b hmax hrate ?_
    simp [RateLimitedEventService.level, hb]

lemma limits_take : Limits RateLimitedEventService.take where
  cfg _ _ _ := rfl
  sound s t now hs := by
    refine ⟨hs.rate_pos, fun id b hb => ?_⟩
    by_cases hid : id = t
    · subst hid
      simp only [RateLimitedEventService.take, Function.update_self, Option.some.injEq] at hb
      rw [bucket_allow hs] at hb
      subst hb
      exact ⟨rfl, rfl⟩
    · simp only [RateLimitedEventService.take, Function.update_of_ne hid] at hb
      exact hs.bucket id b hb
  answer s t now hs := by
    unfold RateLimitedEventService.take
    dsimp only
    rw [bucket_allow hs]
  self s t now n hs _ := by
    unfold RateLimitedEventService.take
    rw [bucket_allow hs]
    simp only [RateLimitedEventService.level, Function.update_self]
    rfl
  other s t t' now n _ _ hne := by
    unfold RateLimitedEventService.take
    simp only [RateLimitedEventService.level, Function.update_of_ne hne.symm]

/-- **The sweep makes no difference** to what `allow` does. -/
lemma limits_allow : Limits RateLimitedEventService.allow where
  cfg s t now := (limits_take.cfg _ t now).trans (sweepIdle_cfg s now)
  sound s t now hs := limits_take.sound _ t now (sound_sweepIdle hs now)
  answer s t now hs := by
    rw [← level_sweepIdle hs le_rfl]
    exact limits_take.answer _ t now (sound_sweepIdle hs now)
  self s t now n hs hn := by
    rw [← level_sweepIdle hs le_rfl, ← sweepIdle_cfg s now]
    exact limits_take.self _ t now n (sound_sweepIdle hs now) hn
  other s t t' now n hs hn hne := by
    rw [← level_sweepIdle hs hn]
    exact limits_take.other _ t t' now n (sound_sweepIdle hs now) hn hne

end Limits

/-! ### Two limiters -/

/-- Two limiters that have the same levels for a tenant, from a time on. -/
structure Agree (t : String) (now : ℤ) (s f : RateLimitedEventService) : Prop where
  cfg : s.cfg = f.cfg
  level : ∀ n, now ≤ n → s.level t n = f.level t n

section Agree

variable {allow allow' : RateLimitedEventService → String → ℤ → Bool × RateLimitedEventService}
  {s f : RateLimitedEventService} {t : String} {now now' : ℤ}

/-- Both take a call. -/
lemma Agree.call (hA : Limits allow) (hB : Limits allow') (h : Agree t now s f) (hs : s.Sound) (hf : f.Sound)
    (hnow : now ≤ now') (t' : String) : Agree t now' (allow s t' now').2 (allow' f t' now').2 := by
  refine ⟨by rw [hA.cfg, hB.cfg, h.cfg], fun n hn => ?_⟩
  by_cases ht : t' = t
  · subst ht
    rw [hA.self s t' now' n hs hn, hB.self f t' now' n hf hn, h.cfg, h.level now' hnow]
  · rw [hA.other s t t' now' n hs hn ht, hB.other f t t' now' n hf hn ht, h.level n (hnow.trans hn)]

/-- One of them takes a call of another tenant. -/
lemma Agree.call_left (hA : Limits allow) (h : Agree t now s f) (hs : s.Sound) (hnow : now ≤ now') {t' : String}
    (ht : t' ≠ t) : Agree t now' (allow s t' now').2 f := by
  refine ⟨by rw [hA.cfg, h.cfg], fun n hn => ?_⟩
  rw [hA.other s t t' now' n hs hn ht, h.level n (hnow.trans hn)]

lemma Agree.answer (hA : Limits allow) (hB : Limits allow') (h : Agree t now s f) (hs : s.Sound) (hf : f.Sound)
    (hnow : now ≤ now') : (allow s t now').1 = (allow' f t now').1 := by
  rw [hA.answer s t now' hs, hB.answer f t now' hf, h.level now' hnow]

/-- **The same answers** to all calls, if the levels are the same for all tenants. -/
lemma limitAnswers_eq (hA : Limits allow) (hB : Limits allow') {calls : List (String × ℤ)}
    (h : ∀ t, Agree t now s f) (hs : s.Sound) (hf : f.Sound) (hclock : (now :: calls.map Prod.snd).IsChain (· ≤ ·)) :
    limitAnswers allow s calls = limitAnswers allow' f calls := by
  induction calls generalizing s f now with
  | nil => rfl
  | cons call calls ih =>
    obtain ⟨hnow, hrest⟩ := List.isChain_cons_cons.mp hclock
    unfold limitAnswers
    rw [(h call.1).answer hA hB hs hf hnow]
    rw [ih (fun t => (h t).call hA hB hs hf hnow call.1) (hA.sound s _ _ hs) (hB.sound f _ _ hf) hrest]

/-- **The same answers** to the calls of a tenant, if the other limiter gets no others. -/
lemma answersOf_eq (hA : Limits allow) (hB : Limits allow') {calls : List (String × ℤ)}
    (h : Agree t now s f) (hs : s.Sound) (hf : f.Sound) (hclock : (now :: calls.map Prod.snd).IsChain (· ≤ ·)) :
    answersOf t calls (limitAnswers allow s calls) = limitAnswers allow' f (calls.filter fun c => c.1 = t) := by
  induction calls generalizing s f now with
  | nil => rfl
  | cons call calls ih =>
    obtain ⟨hnow, hrest⟩ := List.isChain_cons_cons.mp hclock
    have hs' := hA.sound s call.1 call.2 hs
    unfold answersOf at ih ⊢
    by_cases ht : call.1 = t
    · subst ht
      have hlater := ih (h.call hA hB hs hf hnow call.1) hs' (hB.sound f _ _ hf) hrest
      simp only [limitAnswers, List.zip_cons_cons, List.filter_cons, decide_true, if_true, List.map_cons]
      rw [hlater, h.answer hA hB hs hf hnow]
    · have hlater := ih (h.call_left hA hs hnow ht) hs' hf hrest
      simp only [limitAnswers, List.zip_cons_cons, List.filter_cons, ht, decide_false, Bool.false_eq_true, if_false]
      exact hlater

end Agree

/-! ### What is allowed -/

section Allowed

variable {allow : RateLimitedEventService → String → ℤ → Bool × RateLimitedEventService}
  {s : RateLimitedEventService} {t : String} {now now' : ℤ} {burst : ℚ} {log : List ℚ}

/-- The level of a tenant, for the grants so far. A burst below zero gives no tokens. -/
def Kept (t : String) (burst : ℚ) (log : List ℚ) (now : ℤ) (s : RateLimitedEventService) : Prop :=
  Paced ((s.cfg.maxPerTenantPerSecond : ℚ) / 10 ^ 9) burst log now (max 0 (s.level t now))

/-- Time passes until the next call. -/
lemma Kept.wait (h : Kept t burst log now s) (hs : s.Sound) (hpos : 0 ≤ burst) (hburst : s.cfg.burstSize ≤ burst)
    (hnow : now ≤ now') : Kept t burst log now' s := by
  have hrate : (0 : ℚ) < s.cfg.maxPerTenantPerSecond := by exact_mod_cast hs.rate_pos
  have hcast : (now : ℚ) ≤ now' := by exact_mod_cast hnow
  have hgain : (0 : ℚ) ≤ s.cfg.maxPerTenantPerSecond / 10 ^ 9 * (now' - now) :=
    mul_nonneg (by positivity) (sub_nonneg.mpr hcast)
  refine Paced.wait h (by positivity) hcast (le_max_left _ _) (max_le hpos (level_le_burstSize.trans hburst)) ?_
  rw [← max_add_add_right]
  refine max_le_max ?_ (level_le_add hs hnow)
  rw [zero_add]
  exact hgain

/-- **Every call keeps it**, with the grant that it makes. -/
lemma Kept.call (hA : Limits allow) (h : Kept t burst log now s) (hs : s.Sound) (hpos : 0 ≤ burst)
    (hburst : s.cfg.burstSize ≤ burst) (hnow : now ≤ now') (t' : String) :
    Kept t burst (log ++ if t' = t ∧ (allow s t' now').1 then [(now' : ℚ)] else []) now' (allow s t' now').2 := by
  have hrate : (0 : ℚ) < s.cfg.maxPerTenantPerSecond := by exact_mod_cast hs.rate_pos
  have hwait : Paced ((s.cfg.maxPerTenantPerSecond : ℚ) / 10 ^ 9) burst log now' (max 0 (s.level t now')) :=
    h.wait hs hpos hburst hnow
  unfold Kept
  rw [hA.cfg]
  by_cases ht : t' = t
  · subst ht
    have hlevel : (allow s t' now').2.level t' now' = min (s.cfg.burstSize : ℚ) (tokensLeft (s.level t' now')) := by
      rw [hA.self s t' now' now' hs le_rfl, GoTime.sub_self, Int.cast_zero, zero_div, zero_mul, add_zero]
    rw [hA.answer s t' now' hs, hlevel]
    unfold tokensLeft
    by_cases hlow : s.level t' now' < 1
    · rw [if_pos hlow, if_neg (by simpa using hlow), List.append_nil, min_eq_right level_le_burstSize]
      exact hwait
    · -- a token is granted
      have htoken := not_lt.mp hlow
      rw [if_neg hlow, if_pos ⟨rfl, decide_eq_true htoken⟩]
      refine hwait.grant (by positivity) (le_max_left _ _) ?_
      rw [max_eq_right (zero_le_one.trans htoken), ← max_add_add_right]
      refine max_le (by simpa using htoken) ?_
      linarith [min_le_right (s.cfg.burstSize : ℚ) (s.level t' now' - 1)]
  · rw [if_neg fun h => ht h.1, List.append_nil, hA.other s t t' now' now' hs le_rfl ht]
    exact hwait

/-- The grants of a whole sequence. -/
lemma exists_kept (hA : Limits allow) (hpos : 0 ≤ burst) {calls : List (String × ℤ)} (h : Kept t burst log now s)
    (hs : s.Sound) (hburst : s.cfg.burstSize ≤ burst) (hclock : (now :: calls.map Prod.snd).IsChain (· ≤ ·)) :
    ∃ now' s', s'.cfg = s.cfg ∧ Kept t burst (log ++ allowedAt t calls (limitAnswers allow s calls)) now' s' := by
  induction calls generalizing s now log with
  | nil => exact ⟨now, s, rfl, by simpa [allowedAt] using h⟩
  | cons call calls ih =>
    obtain ⟨hnow, hrest⟩ := List.isChain_cons_cons.mp hclock
    have hcfg := hA.cfg s call.1 call.2
    obtain ⟨now', s', hcfg', hkept⟩ := ih (h.call hA hs hpos hburst hnow call.1) (hA.sound s _ _ hs)
      (by rw [hcfg]; exact hburst) hrest
    have hlog : allowedAt t (call :: calls) (limitAnswers allow s (call :: calls)) =
        (if call.1 = t ∧ (allow s call.1 call.2).1 then [(call.2 : ℚ)] else []) ++
          allowedAt t calls (limitAnswers allow (allow s call.1 call.2).2 calls) := by
      by_cases hgrant : call.1 = t ∧ (allow s call.1 call.2).1 = true
      · obtain ⟨rfl, hok⟩ := hgrant
        simp [allowedAt, limitAnswers, hok]
      · simp [allowedAt, limitAnswers, hgrant]
    refine ⟨now', s', hcfg'.trans hcfg, ?_⟩
    rw [hlog, ← List.append_assoc]
    exact hkept

end Allowed

/-! ### The limiter of a configuration -/

section New

variable (cfg : RateLimitConfig)

lemma maxPerTenantPerSecond_pos : 0 < cfg.defaulted.maxPerTenantPerSecond := by
  unfold RateLimitConfig.defaulted
  dsimp only
  split_ifs <;> omega

/-- The burst of the limiter is the configured one, or less where twice the limit is no `int`. -/
lemma burstSize_le_burst : cfg.defaulted.burstSize ≤ cfg.burst := by
  have hpos := maxPerTenantPerSecond_pos cfg
  have hsize : cfg.defaulted.burstSize =
      if cfg.burstSize ≤ 0 then GoTime.int64 (cfg.defaulted.maxPerTenantPerSecond * 2) else cfg.burstSize := rfl
  rw [hsize]
  unfold RateLimitConfig.burst
  split_ifs with hdefault
  · unfold GoTime.int64
    rw [Int.bmod_def]
    split_ifs <;> omega
  · exact le_rfl

lemma burst_pos : 0 < cfg.burst := by
  have hpos := maxPerTenantPerSecond_pos cfg
  unfold RateLimitConfig.burst
  split_ifs <;> omega

lemma sound_new (start : ℤ) : (newRateLimitedEventService cfg start).Sound :=
  ⟨maxPerTenantPerSecond_pos cfg, nofun⟩

/-- **The limiter of tenants.** Eviction changes no answer, the calls of a tenant have the answers that they would have
alone, and no window has more grants than a bucket gives. -/
theorem tenant_limiter_lossless (start : ℤ) (calls : List (String × ℤ))
    (hclock : (start :: calls.map Prod.snd).IsChain (· ≤ ·)) :
    limitAnswers RateLimitedEventService.allow (newRateLimitedEventService cfg start) calls =
      limitAnswers RateLimitedEventService.take (newRateLimitedEventService cfg start) calls ∧
    ∀ t, answersOf t calls (limitAnswers RateLimitedEventService.allow (newRateLimitedEventService cfg start) calls) =
        limitAnswers RateLimitedEventService.allow (newRateLimitedEventService cfg start)
          (calls.filter fun c => c.1 = t) ∧
      ∀ a T : ℚ, 0 ≤ T →
        ((allowedAt t calls
          (limitAnswers RateLimitedEventService.allow (newRateLimitedEventService cfg start) calls)).countP
          fun x => a ≤ x ∧ x ≤ a + T * 10 ^ 9 : ℚ) ≤ cfg.burst + cfg.defaulted.maxPerTenantPerSecond * T := by
  have hs := sound_new cfg start
  have hagree : ∀ t, Agree t start (newRateLimitedEventService cfg start) (newRateLimitedEventService cfg start) :=
    fun t => ⟨rfl, fun _ _ => rfl⟩
  refine ⟨limitAnswers_eq limits_allow limits_take hagree hs hs hclock, fun t => ?_⟩
  refine ⟨answersOf_eq limits_allow limits_allow (hagree t) hs hs hclock, fun a T hT => ?_⟩
  have hrate : (0 : ℚ) < cfg.defaulted.maxPerTenantPerSecond := by exact_mod_cast maxPerTenantPerSecond_pos cfg
  have hpos : (0 : ℚ) ≤ cfg.burst := by exact_mod_cast (burst_pos cfg).le
  have hburst : (cfg.defaulted.burstSize : ℚ) ≤ cfg.burst := by exact_mod_cast burstSize_le_burst cfg
  have hstart : Kept t (cfg.burst : ℚ) [] start (newRateLimitedEventService cfg start) :=
    Paced.nil (div_nonneg hrate.le (by positivity)) (le_max_left _ _) (max_le hpos hburst)
  obtain ⟨now', s', hcfg, hkept⟩ := exists_kept limits_allow hpos hstart hs hburst hclock
  have hwindow := hkept.window a (a + T * 10 ^ 9) (by linarith [mul_nonneg hT (show (0 : ℚ) ≤ 10 ^ 9 by norm_num)])
  rw [hcfg, List.nil_append] at hwindow
  refine hwindow.trans (le_of_eq ?_)
  have hcfg' : (newRateLimitedEventService cfg start).cfg = cfg.defaulted := rfl
  rw [hcfg']
  ring

end New

/-- One call a second, and a call of `b` more than ten minutes after the last one of `a`. -/
def idleCalls : List (String × ℤ) := [("a", 0), ("a", 10 ^ 8), ("b", 601 * 10 ^ 9), ("a", 602 * 10 ^ 9)]

/-- The call of `b` throws the bucket of `a` out, and the answers are those of a limiter that keeps it. -/
theorem tenant_limiter_evicts :
    (((((newRateLimitedEventService ⟨1, 1, 0, 0⟩ 0).allow "a" 0).2.allow "a" (10 ^ 8)).2.allow "b"
        (601 * 10 ^ 9)).2.buckets "a").isNone ∧
      limitAnswers RateLimitedEventService.allow (newRateLimitedEventService ⟨1, 1, 0, 0⟩ 0) idleCalls =
        [true, false, true, true] ∧
      limitAnswers RateLimitedEventService.take (newRateLimitedEventService ⟨1, 1, 0, 0⟩ 0) idleCalls =
        [true, false, true, true] := by
  have h := (tenant_limiter_lossless ⟨1, 1, 0, 0⟩ 0 idleCalls (by decide)).1
  have hanswers : limitAnswers RateLimitedEventService.allow (newRateLimitedEventService ⟨1, 1, 0, 0⟩ 0) idleCalls =
      [true, false, true, true] := by decide +kernel
  exact ⟨by decide +kernel, hanswers, h ▸ hanswers⟩

end Sn360Es.Events
