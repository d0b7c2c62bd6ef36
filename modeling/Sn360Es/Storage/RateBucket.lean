import Mathlib.Data.Rat.Floor
import Mathlib.Tactic.NormNum
import Sn360Es.Lib.GoTime
import Sn360Es.Lib.Lts
import Sn360Es.Lib.TokenBucket

/-!
# The rate limit in Redis (`pkg/storage/redis/rate_bucket.go`)

A script refills the bucket of a client, takes a token and stores the bucket with a time to live. A bucket that expires
before it is full again comes back full. The time to live is stretched to the time of a refill, but that is cut to
milliseconds, where the comment has it rounded up.

* `lua_expired` — an expired bucket that would be full is as good as one that never expires;
* `Kept.step` — the level and what was allowed are within what a bucket can give;
* `drain_allowed` — a client without a bucket is allowed `burst` calls at once;
* `redis_expiry_lossless_iff` — expiry is lossless exactly if the configured time to live is as long as a refill, or a
  refill is a whole number of milliseconds.
-/

namespace Sn360Es.Storage

open Lib Lib.TokenBucket

/-! ### The script -/

/-- `rateBucketLua` on the fields `tokens` and `last_fill_ms`, where the key exists: whether the call is allowed, the
milliseconds to wait, and the new fields. -/
def rateBucketLua (raw : Option (ℚ × ℤ)) (nowMs : ℤ) (rate : ℚ) (burst : ℤ) : (Bool × ℤ) × ℚ × ℤ :=
  let (tokens, lastFillMs) : ℚ × ℤ :=
    match raw with
    | none => (burst, nowMs)
    | some (tokens, lastFillMs) =>
      if 0 < nowMs - lastFillMs then (min (burst : ℚ) (tokens + (nowMs - lastFillMs : ℤ) / 1000 * rate), nowMs)
      else (tokens, lastFillMs)
  if 1 ≤ tokens then ((true, 0), tokens - 1, lastFillMs)
  else ((false, max 0 ⌈(1 - tokens) / rate * 1000⌉), tokens, lastFillMs)

/-- A hash, with the time of its last write. -/
structure Hash where
  tokens : ℚ
  lastFillMs : ℤ
  writtenMs : ℤ
  deriving DecidableEq

abbrev Db := String → Option Hash

/-- `HMGET`: the fields, while the key has not expired. Without a time to live it never does. -/
def Db.hmget (db : Db) (ttlMs : Option ℤ) (key : String) (nowMs : ℤ) : Option (ℚ × ℤ) :=
  match db key with
  | none => none
  | some h => if ∀ ttl ∈ ttlMs, nowMs < h.writtenMs + ttl then some (h.tokens, h.lastFillMs) else none

/-! ### The store -/

/-- `RateBucketConfig`; the time to live in nanoseconds. -/
structure RateBucketConfig where
  keyPrefix : String
  ttl : ℤ
  deriving DecidableEq, Repr

/-- `RateBucketStore`. -/
structure RateBucketStore where
  keyPrefix : String
  ttl : ℤ
  deriving DecidableEq, Repr

/-- `NewRateBucketStore`. -/
def newRateBucketStore (cfg : RateBucketConfig) : Except String RateBucketStore :=
  if cfg.keyPrefix = "" then .error "redis: rate-bucket store requires a key prefix"
  else .ok ⟨cfg.keyPrefix, if cfg.ttl ≤ 0 then 600 * 10 ^ 9 else cfg.ttl⟩

/-- The milliseconds of a refill from empty, as an `int64`. A number beyond 64 bits becomes what the machine makes of
it. -/
def refillMs (rate : ℚ) (burst : ℤ) (beyond : ℚ → ℤ) : ℤ :=
  let millis := (burst : ℚ) / rate * 1000
  if millis < 2 ^ 63 then ⌊millis⌋ else GoTime.int64 (beyond millis)

namespace RateBucketStore

/-- The time to live that `Take` gives to the script. -/
def ttlMs (st : RateBucketStore) (rate : ℚ) (burst : ℤ) (beyond : ℚ → ℤ) : ℤ :=
  if st.ttl / 10 ^ 6 < refillMs rate burst beyond then refillMs rate burst beyond else st.ttl / 10 ^ 6

/-- `Take` with a time to live, or without one: the answer and the database. -/
def take (st : RateBucketStore) (ttlMs : Option ℤ) (rate : ℚ) (burst : ℤ) (db : Db) (clientKey : String) (nowMs : ℤ) :
    Except String (Bool × ℤ) × Db :=
  if rate ≤ 0 ∨ burst ≤ 0 then (.error "redis: rate-bucket rate and burst must be positive", db)
  else if clientKey = "" then (.error "redis: rate-bucket clientKey is required", db)
  else
    let key := st.keyPrefix ++ ":" ++ clientKey
    let ((allowed, retryMs), tokens, lastFillMs) := rateBucketLua (db.hmget ttlMs key nowMs) nowMs rate burst
    (.ok (allowed, GoTime.int64 (retryMs * 10 ^ 6)), Function.update db key (some ⟨tokens, lastFillMs, nowMs⟩))

end RateBucketStore

/-- The database, the time of the last call, the answers so far and the calls that were allowed. -/
structure Calls where
  clock : ℤ
  db : Db := fun _ => none
  answers : List (Except String (Bool × ℤ)) := []
  allowed : List (String × ℤ) := []

/-- The calls of all replicas, one after the other: a client and a time that is not before the last one. -/
def Calls.step (st : RateBucketStore) (ttlMs : Option ℤ) (rate : ℚ) (burst : ℤ) (s : Calls) (call : String × ℤ) :
    Option Calls :=
  if s.clock ≤ call.2 then
    some
      { clock := call.2
        db := (st.take ttlMs rate burst s.db call.1 call.2).2
        answers := s.answers ++ [(st.take ttlMs rate burst s.db call.1 call.2).1]
        allowed :=
          match (st.take ttlMs rate burst s.db call.1 call.2).1 with
          | .ok (true, _) => s.allowed ++ [call]
          | _ => s.allowed }
  else none

/-! ### The level of a bucket -/

/-- The level that the script finds. -/
def rawLevel (rate : ℚ) (burst : ℤ) (raw : Option (ℚ × ℤ)) (nowMs : ℤ) : ℚ :=
  match raw with
  | none => burst
  | some (tokens, lastFillMs) => level (rate / 1000) burst tokens lastFillMs nowMs

/-- What `rateBucketLua` stores: a bucket that was filled when it was written. -/
structure Hash.Sound (h : Hash) (burst : ℤ) : Prop where
  nonneg : 0 ≤ h.tokens
  le_burst : h.tokens ≤ burst
  filled : h.lastFillMs = h.writtenMs

section Script

variable {rate : ℚ} {burst nowMs : ℤ} {raw : Option (ℚ × ℤ)} {h : Hash} {db : Db} {key : String}

/-- **The script** takes a token of the level, if there is one. -/
lemma lua_eq (hraw : ∀ x ∈ raw, x.1 ≤ burst ∧ x.2 ≤ nowMs) : rateBucketLua raw nowMs rate burst =
    if 1 ≤ rawLevel rate burst raw nowMs then ((true, 0), rawLevel rate burst raw nowMs - 1, nowMs)
    else
      ((false, max 0 ⌈(1 - rawLevel rate burst raw nowMs) / rate * 1000⌉), rawLevel rate burst raw nowMs, nowMs) := by
  match raw, hraw with
  | none, _ => rfl
  | some (tokens, lastFillMs), hraw =>
    obtain ⟨hle, hlast⟩ := hraw _ rfl
    have hfilled : (if 0 < nowMs - lastFillMs then
        (min (burst : ℚ) (tokens + (nowMs - lastFillMs : ℤ) / 1000 * rate), nowMs) else (tokens, lastFillMs)) =
        (rawLevel rate burst (some (tokens, lastFillMs)) nowMs, nowMs) := by
      split_ifs with hpos
      · have hgain : ((nowMs - lastFillMs : ℤ) : ℚ) / 1000 * rate = rate / 1000 * (nowMs - lastFillMs) := by
          push_cast
          ring
        rw [hgain]
        rfl
      · obtain rfl : lastFillMs = nowMs := by omega
        rw [rawLevel, level_self hle]
    unfold rateBucketLua
    dsimp only
    rw [hfilled]

lemma rawLevel_le_burst (raw : Option (ℚ × ℤ)) : rawLevel rate burst raw nowMs ≤ burst := by
  unfold rawLevel
  split
  · exact le_rfl
  · exact level_le_burst

/-- **An expired bucket** that would be full is as good as one that never expires. -/
lemma lua_expired {ttl : ℤ} (hrate : 0 < rate) (hfull : (burst : ℚ) / rate * 1000 ≤ ttl) (hh : h.Sound burst)
    (hexpired : h.writtenMs + ttl ≤ nowMs) : rawLevel rate burst (some (h.tokens, h.lastFillMs)) nowMs = burst := by
  have hcast : (h.writtenMs : ℚ) + ttl ≤ nowMs := by exact_mod_cast hexpired
  have hburst : (burst : ℚ) ≤ rate / 1000 * ttl := by
    rw [← le_div_iff₀ (by norm_num), div_le_iff₀ hrate] at hfull
    linarith
  have htime : rate / 1000 * ttl ≤ rate / 1000 * (nowMs - h.writtenMs) :=
    mul_le_mul_of_nonneg_left (by linarith) (by positivity)
  rw [rawLevel, level, hh.filled]
  refine min_eq_left ?_
  linarith [hh.nonneg]

lemma hmget_forever (db : Db) (key : String) (nowMs : ℤ) :
    db.hmget none key nowMs = (db key).map fun h => (h.tokens, h.lastFillMs) := by
  unfold Db.hmget
  cases db key with
  | none => rfl
  | some h => simp

end Script

/-! ### Calls -/

/-- The key of a client. -/
def RateBucketStore.key (st : RateBucketStore) (clientKey : String) : String := st.keyPrefix ++ ":" ++ clientKey

/-- What is so after every call. -/
structure Calls.Sound (burst : ℤ) (s : Calls) : Prop where
  hash : ∀ key h, s.db key = some h → h.Sound burst ∧ h.writtenMs ≤ s.clock

section Calls

variable {st : RateBucketStore} {rate : ℚ} {burst nowMs : ℤ} {ttl : Option ℤ} {s s' : Calls} {call : String × ℤ}

lemma key_inj {c c' : String} (h : st.key c = st.key c') : c = c' := by
  unfold RateBucketStore.key at h
  simpa [String.ext_iff] using h

lemma hmget_mem {x : ℚ × ℤ} {key : String} (hs : s.Sound burst) (hclock : s.clock ≤ nowMs)
    (hx : x ∈ s.db.hmget ttl key nowMs) : x.1 ≤ burst ∧ x.2 ≤ nowMs := by
  unfold Db.hmget at hx
  split at hx
  · cases hx
  · next h hh =>
    split_ifs at hx
    · obtain rfl : (h.tokens, h.lastFillMs) = x := Option.some.inj hx
      obtain ⟨hsound, hwritten⟩ := hs.hash key h hh
      exact ⟨hsound.le_burst, hsound.filled ▸ hwritten.trans hclock⟩
    · cases hx

/-- The level that a call finds. -/
def Calls.found (s : Calls) (st : RateBucketStore) (ttl : Option ℤ) (rate : ℚ) (burst : ℤ) (call : String × ℤ) : ℚ :=
  rawLevel rate burst (s.db.hmget ttl (st.key call.1) call.2) call.2

/-- The state after a call that has left a number of tokens. -/
def Calls.after (s : Calls) (st : RateBucketStore) (call : String × ℤ) (tokens : ℚ) (answer : Bool × ℤ)
    (allowed : List (String × ℤ)) : Calls where
  clock := call.2
  db := Function.update s.db (st.key call.1) (some ⟨tokens, call.2, call.2⟩)
  answers := s.answers ++ [.ok answer]
  allowed := allowed

/-- The milliseconds that a call has to wait which finds a level. -/
def retryMs (rate lvl : ℚ) : ℤ := max 0 ⌈(1 - lvl) / rate * 1000⌉

/-- **What a call does.** -/
lemma step_eq (hrate : 0 < rate) (hburst : 1 ≤ burst) (hs : s.Sound burst) (hclock : s.clock ≤ call.2) :
    s.step st ttl rate burst call =
      if call.1 = "" then
        some { s with
          clock := call.2
          answers := s.answers ++ [.error "redis: rate-bucket clientKey is required"] }
      else if 1 ≤ s.found st ttl rate burst call then
        some (s.after st call (s.found st ttl rate burst call - 1) (true, 0) (s.allowed ++ [call]))
      else
        some (s.after st call (s.found st ttl rate burst call)
          (false, GoTime.int64 (retryMs rate (s.found st ttl rate burst call) * 10 ^ 6)) s.allowed) := by
  have hpos : ¬ (rate ≤ 0 ∨ burst ≤ 0) := by
    rintro (h | h)
    · exact absurd hrate (not_lt.mpr h)
    · omega
  have hlua : rateBucketLua (s.db.hmget ttl (st.key call.1) call.2) call.2 rate burst =
      if 1 ≤ s.found st ttl rate burst call then ((true, 0), s.found st ttl rate burst call - 1, call.2)
      else ((false, retryMs rate (s.found st ttl rate burst call)), s.found st ttl rate burst call, call.2) :=
    lua_eq fun x hx => hmget_mem hs hclock hx
  unfold Calls.step
  rw [if_pos hclock]
  by_cases hempty : call.1 = ""
  · simp [RateBucketStore.take, hpos, hempty]
  · have htake : st.take ttl rate burst s.db call.1 call.2 =
        (.ok ((rateBucketLua (s.db.hmget ttl (st.key call.1) call.2) call.2 rate burst).1.1,
          GoTime.int64 ((rateBucketLua (s.db.hmget ttl (st.key call.1) call.2) call.2 rate burst).1.2 * 10 ^ 6)),
        Function.update s.db (st.key call.1)
          (some ⟨(rateBucketLua (s.db.hmget ttl (st.key call.1) call.2) call.2 rate burst).2.1,
            (rateBucketLua (s.db.hmget ttl (st.key call.1) call.2) call.2 rate burst).2.2, call.2⟩)) := by
      unfold RateBucketStore.take
      rw [if_neg hpos, if_neg hempty]
      rfl
    rw [htake, hlua, if_neg hempty]
    split_ifs
    · rfl
    · rfl

lemma after_db_self (s : Calls) (st : RateBucketStore) (call : String × ℤ) (tokens : ℚ) (answer : Bool × ℤ)
    (allowed : List (String × ℤ)) :
    (s.after st call tokens answer allowed).db (st.key call.1) = some ⟨tokens, call.2, call.2⟩ :=
  Function.update_self ..

lemma after_db_of_ne {key : String} (hkey : key ≠ st.key call.1) (tokens : ℚ) (answer : Bool × ℤ)
    (allowed : List (String × ℤ)) : (s.after st call tokens answer allowed).db key = s.db key :=
  Function.update_of_ne hkey _ _

lemma sound_after (hs : s.Sound burst) (hclock : s.clock ≤ call.2) {tokens : ℚ} (hnonneg : 0 ≤ tokens)
    (hle : tokens ≤ burst) (answer : Bool × ℤ) (allowed : List (String × ℤ)) :
    (s.after st call tokens answer allowed).Sound burst := by
  constructor
  intro key h hh
  by_cases hkey : key = st.key call.1
  · subst hkey
    rw [after_db_self, Option.some.injEq] at hh
    subst hh
    exact ⟨⟨hnonneg, hle, rfl⟩, le_rfl⟩
  · rw [after_db_of_ne hkey] at hh
    exact ⟨(hs.hash key h hh).1, (hs.hash key h hh).2.trans hclock⟩

lemma found_nonneg (hrate : 0 < rate) (hburst : 1 ≤ burst) (hs : s.Sound burst) (hclock : s.clock ≤ call.2) :
    0 ≤ s.found st ttl rate burst call := by
  have hburst' : (0 : ℚ) ≤ burst := by exact_mod_cast hburst.trans' zero_le_one
  unfold Calls.found Db.hmget
  split
  · exact hburst'
  · next h hh =>
    obtain ⟨hsound, hwritten⟩ := hs.hash _ h hh
    split_ifs
    · have hpast : (0 : ℚ) ≤ call.2 - h.lastFillMs := by
        rw [hsound.filled]
        exact_mod_cast sub_nonneg.mpr (hwritten.trans hclock)
      have hgain : 0 ≤ rate / 1000 * (call.2 - h.lastFillMs) := by positivity
      exact le_min hburst' (add_nonneg hsound.nonneg hgain)
    · exact hburst'

/-- A time to live that is as long as a refill does not change what a call finds. -/
lemma found_eq (hrate : 0 < rate) (hfull : ∀ t ∈ ttl, (burst : ℚ) / rate * 1000 ≤ t) (hs : s.Sound burst) :
    s.found st ttl rate burst call = s.found st none rate burst call := by
  unfold Calls.found
  rw [hmget_forever]
  unfold Db.hmget
  cases hdb : s.db (st.key call.1) with
  | none => rfl
  | some h =>
    dsimp only
    split_ifs with hlive
    · rfl
    · obtain ⟨t, ht, hexpired⟩ : ∃ t ∈ ttl, h.writtenMs + t ≤ call.2 := by simpa using hlive
      exact (lua_expired hrate (hfull t ht) (hs.hash _ h hdb).1 hexpired).symm

lemma clock_le_of_step (hstep : s.step st ttl rate burst call = some s') : s.clock ≤ call.2 := by
  by_contra hlt
  simp [Calls.step, hlt] at hstep

lemma Calls.Sound.wait (hs : s.Sound burst) (hclock : s.clock ≤ nowMs) (answers : List (Except String (Bool × ℤ))) :
    Calls.Sound burst { s with clock := nowMs, answers := answers } :=
  ⟨fun key h hh => ⟨(hs.hash key h hh).1, (hs.hash key h hh).2.trans hclock⟩⟩

lemma Calls.Sound.step (hrate : 0 < rate) (hburst : 1 ≤ burst) (hs : s.Sound burst)
    (hstep : s.step st ttl rate burst call = some s') : s'.Sound burst := by
  have hclock := clock_le_of_step hstep
  have hle : s.found st ttl rate burst call ≤ burst := rawLevel_le_burst _
  rw [step_eq hrate hburst hs hclock] at hstep
  split_ifs at hstep with hempty htoken
  · obtain rfl := Option.some.inj hstep
    exact hs.wait hclock _
  · obtain rfl := Option.some.inj hstep
    exact sound_after hs hclock (sub_nonneg.mpr htoken) ((sub_le_self _ zero_le_one).trans hle) _ _
  · obtain rfl := Option.some.inj hstep
    exact sound_after hs hclock (found_nonneg hrate hburst hs hclock) hle _ _

lemma sound_start (start : ℤ) : Calls.Sound burst { clock := start } := ⟨by simp⟩

lemma sound_run (hrate : 0 < rate) (hburst : 1 ≤ burst) (hs : s.Sound burst) {calls : List (String × ℤ)}
    (hrun : Lts.run (Calls.step st ttl rate burst) s calls = some s') : s'.Sound burst :=
  Lts.reach_induct (fun _ _ _ h hstep => h.step hrate hburst hstep) hs ⟨calls, hrun⟩

lemma step_forever (hrate : 0 < rate) (hburst : 1 ≤ burst) (hfull : ∀ t ∈ ttl, (burst : ℚ) / rate * 1000 ≤ t)
    (hs : s.Sound burst) : s.step st ttl rate burst call = s.step st none rate burst call := by
  by_cases hclock : s.clock ≤ call.2
  · rw [step_eq hrate hburst hs hclock, step_eq hrate hburst hs hclock, found_eq hrate hfull hs]
  · simp [Calls.step, hclock]

/-- **Runs with a long enough time to live** are runs without one. -/
lemma run_forever (hrate : 0 < rate) (hburst : 1 ≤ burst) (hfull : ∀ t ∈ ttl, (burst : ℚ) / rate * 1000 ≤ t)
    (calls : List (String × ℤ)) (hs : s.Sound burst) :
    Lts.run (Calls.step st ttl rate burst) s calls = Lts.run (Calls.step st none rate burst) s calls := by
  induction calls generalizing s with
  | nil => rfl
  | cons call calls ih =>
    rw [Lts.run_cons, Lts.run_cons, step_forever hrate hburst hfull hs]
    cases hstep : s.step st none rate burst call with
    | none => rfl
    | some t => exact ih (hs.step hrate hburst hstep)

end Calls

/-! ### What was allowed -/

/-- The times at which a client was allowed. -/
def Calls.log (s : Calls) (clientKey : String) : List ℚ :=
  (s.allowed.filter (·.1 = clientKey)).map fun x => (x.2 : ℚ)

/-- **The invariant** of calls without expiry. -/
structure Kept (st : RateBucketStore) (rate : ℚ) (burst : ℤ) (s : Calls) : Prop where
  sound : s.Sound burst
  paced : ∀ c, Paced (rate / 1000) (burst : ℚ) (s.log c) s.clock (s.found st none rate burst (c, s.clock))

section Allowed

variable {st : RateBucketStore} {rate : ℚ} {burst : ℤ} {ttl : Option ℤ} {s s' : Calls} {call : String × ℤ}

lemma kept_start (hrate : 0 < rate) (hburst : 1 ≤ burst) (start : ℤ) : Kept st rate burst { clock := start } := by
  have hburst' : (0 : ℚ) ≤ burst := by exact_mod_cast hburst.trans' zero_le_one
  refine ⟨sound_start start, fun c => ?_⟩
  exact Paced.nil (by positivity) hburst' le_rfl

/-- Time passes until the next call. -/
lemma Kept.wait (h : Kept st rate burst s) (hrate : 0 < rate) (hburst : 1 ≤ burst) {now : ℤ} (hclock : s.clock ≤ now)
    (c : String) : Paced (rate / 1000) (burst : ℚ) (s.log c) now (s.found st none rate burst (c, now)) := by
  have hperMilli : (0 : ℚ) ≤ rate / 1000 := by positivity
  have hcast : (s.clock : ℚ) ≤ now := by exact_mod_cast hclock
  refine (h.paced c).wait hperMilli hcast (found_nonneg hrate hburst h.sound hclock) (rawLevel_le_burst _) ?_
  unfold Calls.found
  rw [hmget_forever, hmget_forever]
  cases s.db (st.key c) with
  | none => exact le_add_of_nonneg_right (mul_nonneg hperMilli (sub_nonneg.mpr hcast))
  | some x => exact level_wait hperMilli hcast

lemma found_after_self (s : Calls) (tokens : ℚ) (answer : Bool × ℤ) (allowed : List (String × ℤ))
    (hle : tokens ≤ burst) :
    (s.after st call tokens answer allowed).found st none rate burst (call.1, call.2) = tokens := by
  unfold Calls.found
  rw [hmget_forever, after_db_self]
  exact level_self hle

lemma found_after_of_ne (s : Calls) (tokens : ℚ) (answer : Bool × ℤ) (allowed : List (String × ℤ)) {c : String}
    (hc : c ≠ call.1) (now : ℤ) :
    (s.after st call tokens answer allowed).found st none rate burst (c, now) =
      s.found st none rate burst (c, now) := by
  unfold Calls.found
  rw [hmget_forever, hmget_forever, after_db_of_ne fun h => hc (key_inj h)]

/-- **Every call keeps the invariant.** -/
lemma Kept.step (hrate : 0 < rate) (hburst : 1 ≤ burst) (h : Kept st rate burst s)
    (hstep : s.step st none rate burst call = some s') : Kept st rate burst s' := by
  have hclock := clock_le_of_step hstep
  have hwait := h.wait hrate hburst hclock
  have hperMilli : (0 : ℚ) ≤ rate / 1000 := by positivity
  have hle : s.found st none rate burst call ≤ burst := rawLevel_le_burst _
  refine ⟨h.sound.step hrate hburst hstep, fun c => ?_⟩
  rw [step_eq hrate hburst h.sound hclock] at hstep
  split_ifs at hstep with hempty htoken
  · obtain rfl := Option.some.inj hstep
    exact hwait c
  · obtain rfl := Option.some.inj hstep
    by_cases hkey : c = call.1
    · subst hkey
      -- the client that has got the token
      have hlog : (s.after st call (s.found st none rate burst call - 1) (true, 0) (s.allowed ++ [call])).log call.1 =
          s.log call.1 ++ [(call.2 : ℚ)] := by
        simp [Calls.log, Calls.after, List.filter_append]
      have hfound : (s.after st call (s.found st none rate burst call - 1) (true, 0) (s.allowed ++ [call])).found st
          none rate burst (call.1, call.2) = s.found st none rate burst call - 1 :=
        found_after_self s _ _ _ ((sub_le_self _ zero_le_one).trans hle)
      rw [hlog]
      refine (hwait call.1).grant hperMilli ?_ ?_
      · exact hfound.symm ▸ sub_nonneg.mpr htoken
      · exact (congrArg (· + 1) hfound).trans_le (sub_add_cancel _ _).le
    · have hlog : (s.after st call (s.found st none rate burst call - 1) (true, 0) (s.allowed ++ [call])).log c =
          s.log c := by
        simp [Calls.log, Calls.after, List.filter_append, Ne.symm hkey]
      have hpaced := hwait c
      rw [← found_after_of_ne s _ _ _ hkey] at hpaced
      rw [hlog]
      exact hpaced
  · obtain rfl := Option.some.inj hstep
    have hpaced := hwait c
    by_cases hkey : c = call.1
    · subst hkey
      rw [← found_after_self s _ _ _ hle] at hpaced
      exact hpaced
    · rw [← found_after_of_ne s _ _ _ hkey] at hpaced
      exact hpaced

lemma kept_run (hrate : 0 < rate) (hburst : 1 ≤ burst) (start : ℤ) {calls : List (String × ℤ)}
    (hrun : Lts.run (Calls.step st none rate burst) { clock := start } calls = some s) : Kept st rate burst s :=
  Lts.reach_induct (fun _ _ _ h hstep => h.step hrate hburst hstep) (kept_start hrate hburst start) ⟨calls, hrun⟩

/-- **In a window** of `T` seconds a client without expiry is allowed no more than a bucket gives. -/
lemma Kept.window (h : Kept st rate burst s) (c : String) (a : ℚ) {T : ℚ} (hT : 0 ≤ T) :
    ((s.log c).countP (fun t => a ≤ t ∧ t ≤ a + T * 1000) : ℚ) ≤ burst + rate * T := by
  have hwindow := (h.paced c).window a (a + T * 1000) (by linarith)
  have hgain : rate / 1000 * (a + T * 1000 - a) = rate * T := by ring
  rwa [hgain] at hwindow

end Allowed

/-! ### A call that waits -/

section Retry

variable {st : RateBucketStore} {rate : ℚ} {burst nowMs : ℤ} {ttl : Option ℤ} {s s' : Calls} {call : String × ℤ}
  {c : String}

lemma step_db_of_ne (hrate : 0 < rate) (hburst : 1 ≤ burst) (hs : s.Sound burst)
    (hstep : s.step st ttl rate burst call = some s') (hc : call.1 ≠ c) : s'.db (st.key c) = s.db (st.key c) := by
  have hkey : st.key c ≠ st.key call.1 := fun h => hc (key_inj h).symm
  rw [step_eq hrate hburst hs (clock_le_of_step hstep)] at hstep
  split_ifs at hstep
  · obtain rfl := Option.some.inj hstep
    rfl
  · obtain rfl := Option.some.inj hstep
    exact after_db_of_ne hkey _ _ _
  · obtain rfl := Option.some.inj hstep
    exact after_db_of_ne hkey _ _ _

/-- The calls of other clients leave a bucket alone. -/
lemma run_db_of_ne (hrate : 0 < rate) (hburst : 1 ≤ burst) {others : List (String × ℤ)} (hs : s.Sound burst)
    (hothers : ∀ x ∈ others, x.1 ≠ c) (hrun : Lts.run (Calls.step st ttl rate burst) s others = some s') :
    s'.db (st.key c) = s.db (st.key c) := by
  induction others generalizing s with
  | nil =>
    obtain rfl := Option.some.inj hrun
    rfl
  | cons x others ih =>
    obtain ⟨t, hst, hts⟩ := Lts.run_cons_some.mp hrun
    obtain ⟨hx, hrest⟩ := List.forall_mem_cons.mp hothers
    rw [ih (hs.step hrate hburst hst) hrest hts, step_db_of_ne hrate hburst hs hst hx]

lemma step_of_token (hrate : 0 < rate) (hburst : 1 ≤ burst) (hs : s.Sound burst) (hclock : s.clock ≤ call.2)
    (hc : call.1 ≠ "") (htoken : 1 ≤ s.found st ttl rate burst call) : s.step st ttl rate burst call =
      some (s.after st call (s.found st ttl rate burst call - 1) (true, 0) (s.allowed ++ [call])) := by
  rw [step_eq hrate hburst hs hclock, if_neg hc, if_pos htoken]

/-- What a call finds is either what is left by the last one or a full bucket. -/
lemma le_found {lvl tokens : ℚ} {lastMs : ℤ} (hdb : s.db (st.key call.1) = some ⟨tokens, lastMs, lastMs⟩)
    (hburst : lvl ≤ burst) (hlvl : lvl ≤ tokens + rate / 1000 * (call.2 - lastMs)) :
    lvl ≤ s.found st ttl rate burst call := by
  unfold Calls.found Db.hmget
  rw [hdb]
  dsimp only
  split_ifs
  · exact le_min hburst hlvl
  · exact hburst

/-- **The wait is long enough** for a token. -/
lemma le_level_retryMs (hrate : 0 < rate) (lvl : ℚ) : 1 ≤ lvl + rate / 1000 * retryMs rate lvl := by
  have hceil : (1 - lvl) / rate * 1000 ≤ retryMs rate lvl := by
    refine (Int.le_ceil _).trans ?_
    exact_mod_cast le_max_right _ _
  rw [← le_div_iff₀ (by norm_num), div_le_iff₀ hrate] at hceil
  linarith

lemma lua_eq_of_rejected (hs : s.Sound burst) (hclock : s.clock ≤ nowMs) {wait : ℤ}
    (hlua : (rateBucketLua (s.db.hmget ttl (st.key c) nowMs) nowMs rate burst).1 = (false, wait)) :
    s.found st ttl rate burst (c, nowMs) < 1 ∧ wait = retryMs rate (s.found st ttl rate burst (c, nowMs)) := by
  have heq : rateBucketLua (s.db.hmget ttl (st.key c) nowMs) nowMs rate burst =
      if 1 ≤ s.found st ttl rate burst (c, nowMs) then
        ((true, 0), s.found st ttl rate burst (c, nowMs) - 1, nowMs)
      else
        ((false, retryMs rate (s.found st ttl rate burst (c, nowMs))), s.found st ttl rate burst (c, nowMs), nowMs) :=
    lua_eq fun x hx => hmget_mem hs hclock hx
  rw [heq] at hlua
  split_ifs at hlua with htoken
  · simp at hlua
  · exact ⟨not_le.mp htoken, (congrArg Prod.snd hlua).symm⟩

/-- **A call that waits is allowed**, with or without expiry. -/
lemma retry_allowed (hrate : 0 < rate) (hburst : 1 ≤ burst) (hs : s.Sound burst) (hc : c ≠ "") {wait : ℤ}
    (hlua : (rateBucketLua (s.db.hmget ttl (st.key c) nowMs) nowMs rate burst).1 = (false, wait))
    (hstep : s.step st ttl rate burst (c, nowMs) = some s') {others : List (String × ℤ)} {t : Calls}
    (hothers : ∀ x ∈ others, x.1 ≠ c) (hrun : Lts.run (Calls.step st ttl rate burst) s' others = some t)
    (hclock : t.clock ≤ nowMs + wait) : ∃ t', t.step st ttl rate burst (c, nowMs + wait) = some t' ∧
      t'.allowed = t.allowed ++ [(c, nowMs + wait)] := by
  have hnow : s.clock ≤ nowMs := clock_le_of_step hstep
  obtain ⟨hlow, rfl⟩ := lua_eq_of_rejected hs hnow hlua
  have hs' := hs.step hrate hburst hstep
  have ht := sound_run hrate hburst hs' hrun
  have hdb : t.db (st.key c) = some ⟨s.found st ttl rate burst (c, nowMs), nowMs, nowMs⟩ := by
    rw [run_db_of_ne hrate hburst hs' hothers hrun]
    rw [step_eq hrate hburst hs hnow, if_neg hc, if_neg hlow.not_ge] at hstep
    obtain rfl := Option.some.inj hstep
    exact after_db_self s st (c, nowMs) _ _ _
  refine ⟨_, step_of_token hrate hburst ht hclock hc ?_, rfl⟩
  refine le_found hdb (by exact_mod_cast hburst) ?_
  push_cast
  rw [add_sub_cancel_left]
  exact le_level_retryMs hrate _

end Retry

/-! ### A client without a bucket -/

section Drain

variable {st : RateBucketStore} {rate : ℚ} {burst ttl nowMs : ℤ} {s : Calls} {c : String}

lemma found_of_expired (hdb : ∀ h ∈ s.db (st.key c), h.writtenMs + ttl ≤ nowMs) :
    s.found st (some ttl) rate burst (c, nowMs) = burst := by
  unfold Calls.found Db.hmget
  cases hh : s.db (st.key c) with
  | none => rfl
  | some h =>
    have hexpired : ¬ ∀ t ∈ some ttl, nowMs < h.writtenMs + t := by simpa using hdb h hh
    dsimp only
    rw [if_neg hexpired]
    rfl

/-- **As many calls at once** as the bucket has tokens are allowed. -/
lemma drain_allowed (hrate : 0 < rate) (hburst : 1 ≤ burst) (hc : c ≠ "") (n : ℕ) (hs : s.Sound burst)
    (hclock : s.clock ≤ nowMs) (hn : n ≤ s.found st (some ttl) rate burst (c, nowMs)) :
    ∃ s', Lts.run (Calls.step st (some ttl) rate burst) s (List.replicate n (c, nowMs)) = some s' ∧ s'.Sound burst ∧
      s'.clock ≤ nowMs ∧ s'.allowed = s.allowed ++ List.replicate n (c, nowMs) := by
  induction n generalizing s with
  | zero => exact ⟨s, rfl, hs, hclock, by simp⟩
  | succ n ih =>
    have hle : s.found st (some ttl) rate burst (c, nowMs) ≤ burst := rawLevel_le_burst _
    push_cast at hn
    have htoken : 1 ≤ s.found st (some ttl) rate burst (c, nowMs) := le_trans (by simp) hn
    have hstep := step_of_token hrate hburst hs hclock hc htoken
    obtain ⟨s', hrun, hs', hclock', hallowed⟩ := ih (hs.step hrate hburst hstep) le_rfl (by
      refine le_found (after_db_self s st (c, nowMs) _ _ _) (by linarith) ?_
      rw [sub_self, mul_zero, add_zero]
      linarith)
    refine ⟨s', ?_, hs', hclock', ?_⟩
    · rw [List.replicate_succ, Lts.run_cons, hstep]
      exact hrun
    · rw [hallowed, Calls.after, List.replicate_succ, List.append_assoc, List.singleton_append]

/-- **Twice the burst in a time to live.** -/
lemma exists_run_drained_twice (st : RateBucketStore) (hrate : 0 < rate) (hburst : 1 ≤ burst) (httl : 0 ≤ ttl) :
    ∃ calls s, Lts.run (Calls.step st (some ttl) rate burst) { clock := 0 } calls = some s ∧
      s.allowed = List.replicate burst.toNat ("a", 0) ++ List.replicate burst.toNat ("a", ttl) := by
  have hcast : ((burst.toNat : ℕ) : ℚ) = burst := by exact_mod_cast Int.toNat_of_nonneg (by omega)
  obtain ⟨s, hrun, hs, hclock, hallowed⟩ := drain_allowed (c := "a") hrate hburst (by decide) burst.toNat
    (sound_start 0) le_rfl (hcast.trans (found_of_expired (by simp)).symm).le
  have hexpired : ∀ h ∈ s.db (st.key "a"), h.writtenMs + ttl ≤ ttl := by
    intro h hh
    have hwritten : h.writtenMs ≤ 0 := (hs.hash _ h hh).2.trans hclock
    omega
  obtain ⟨s', hrun', -, -, hallowed'⟩ := drain_allowed (c := "a") hrate hburst (by decide) burst.toNat hs
    (hclock.trans httl) (hcast.trans (found_of_expired hexpired).symm).le
  refine ⟨List.replicate burst.toNat ("a", 0) ++ List.replicate burst.toNat ("a", ttl), s', ?_, ?_⟩
  · rw [Lts.run_append, hrun]
    exact hrun'
  · rw [hallowed', hallowed, List.nil_append]

end Drain

/-! ### Expiry -/

/-- **Expiry is lossless**: the answers are those of keys that never expire, a client is allowed what a bucket gives in
every window, and a call that has waited is allowed. -/
structure Lossless (st : RateBucketStore) (ttlMs : ℤ) (rate : ℚ) (burst : ℤ) : Prop where
  same : ∀ start calls,
    (Lts.run (Calls.step st (some ttlMs) rate burst) { clock := start } calls).map (·.answers) =
      (Lts.run (Calls.step st none rate burst) { clock := start } calls).map (·.answers)
  window : ∀ start calls s, Lts.run (Calls.step st (some ttlMs) rate burst) { clock := start } calls = some s →
    ∀ (c : String) (a T : ℚ), 0 ≤ T →
      ((s.log c).countP (fun t => a ≤ t ∧ t ≤ a + T * 1000) : ℚ) ≤ burst + rate * T
  retry : ∀ start calls s, Lts.run (Calls.step st (some ttlMs) rate burst) { clock := start } calls = some s →
    ∀ c nowMs wait s', c ≠ "" →
      (rateBucketLua (s.db.hmget (some ttlMs) (st.key c) nowMs) nowMs rate burst).1 = (false, wait) →
      s.step st (some ttlMs) rate burst (c, nowMs) = some s' →
      ∀ others t, (∀ x ∈ others, x.1 ≠ c) → Lts.run (Calls.step st (some ttlMs) rate burst) s' others = some t →
        t.clock ≤ nowMs + wait → ∃ t', t.step st (some ttlMs) rate burst (c, nowMs + wait) = some t' ∧
          t'.allowed = t.allowed ++ [(c, nowMs + wait)]

section Lossless

variable {st : RateBucketStore} {rate : ℚ} {burst ttl : ℤ}

lemma lossless_of_refill_le (hrate : 0 < rate) (hburst : 1 ≤ burst) (hfull : (burst : ℚ) / rate * 1000 ≤ ttl) :
    Lossless st ttl rate burst := by
  have hforever : ∀ start calls, Lts.run (Calls.step st (some ttl) rate burst) { clock := start } calls =
      Lts.run (Calls.step st none rate burst) { clock := start } calls := fun start calls =>
    run_forever hrate hburst (by simpa using hfull) calls (sound_start start)
  refine ⟨fun start calls => ?_, fun start calls s hrun c a T hT => ?_,
    fun start calls s hrun c nowMs wait s' hc hlua hstep others t hothers hrun' hclock => ?_⟩
  · rw [hforever]
  · rw [hforever] at hrun
    exact (kept_run hrate hburst start hrun).window c a hT
  · have hs := sound_run hrate hburst (sound_start start) hrun
    exact retry_allowed hrate hburst hs hc hlua hstep hothers hrun' hclock

lemma refill_le_of_lossless (hrate : 0 < rate) (hburst : 1 ≤ burst) (httl : 0 ≤ ttl)
    (h : Lossless st ttl rate burst) : (burst : ℚ) / rate * 1000 ≤ ttl := by
  obtain ⟨calls, s, hrun, hallowed⟩ := exists_run_drained_twice st hrate hburst httl
  have hcast : ((burst.toNat : ℕ) : ℚ) = burst := by exact_mod_cast Int.toNat_of_nonneg (by omega)
  have httl' : (0 : ℚ) ≤ ttl := by exact_mod_cast httl
  have hcount : (s.log "a").countP (fun t => 0 ≤ t ∧ t ≤ 0 + (ttl : ℚ) / 1000 * 1000) = burst.toNat + burst.toNat := by
    simp [Calls.log, hallowed, List.countP_append, List.countP_replicate, httl]
  have hwindow := h.window 0 calls s hrun "a" 0 (ttl / 1000) (by positivity)
  rw [hcount] at hwindow
  push_cast at hwindow
  rw [hcast] at hwindow
  rw [← le_div_iff₀ (by norm_num), div_le_iff₀ hrate]
  linarith

lemma int64_lt (n : ℤ) : GoTime.int64 n < 2 ^ 63 := by
  have h := Int.bmod_lt (x := n) (m := 2 ^ 64) (by norm_num)
  unfold GoTime.int64
  omega

/-- A refill is cut, so that its milliseconds are all there only if they are whole. -/
lemma le_refillMs_iff (beyond : ℚ → ℤ) : (burst : ℚ) / rate * 1000 ≤ refillMs rate burst beyond ↔
    (∃ n : ℤ, (burst : ℚ) / rate * 1000 = n) ∧ (burst : ℚ) / rate * 1000 < 2 ^ 63 := by
  unfold refillMs
  dsimp only
  split_ifs with hrange
  · rw [and_iff_left hrange]
    constructor
    · intro h
      exact ⟨_, le_antisymm h (Int.floor_le _)⟩
    · rintro ⟨n, hn⟩
      rw [hn, Int.floor_intCast]
  · refine iff_of_false (fun h => hrange ?_) fun h => hrange h.2
    have hlt : (GoTime.int64 (beyond ((burst : ℚ) / rate * 1000)) : ℚ) < 2 ^ 63 := by exact_mod_cast int64_lt _
    exact h.trans_lt hlt

lemma le_ttlMs_iff (beyond : ℚ → ℤ) : (burst : ℚ) / rate * 1000 ≤ st.ttlMs rate burst beyond ↔
    (burst : ℚ) / rate * 1000 ≤ (st.ttl / 10 ^ 6 : ℤ) ∨
      (∃ n : ℤ, (burst : ℚ) / rate * 1000 = n) ∧ (burst : ℚ) / rate * 1000 < 2 ^ 63 := by
  rw [← le_refillMs_iff beyond]
  have hmax : st.ttlMs rate burst beyond = max (st.ttl / 10 ^ 6) (refillMs rate burst beyond) := by
    unfold RateBucketStore.ttlMs
    split_ifs <;> omega
  rw [hmax, Int.cast_max, le_max_iff]

lemma ttlMs_nonneg {cfg : RateBucketConfig} (hst : newRateBucketStore cfg = .ok st) (beyond : ℚ → ℤ) :
    0 ≤ st.ttlMs rate burst beyond := by
  have hpos : 0 < st.ttl := by
    unfold newRateBucketStore at hst
    split_ifs at hst with _ hdefault
    · obtain rfl := Except.ok.inj hst
      norm_num
    · obtain rfl := Except.ok.inj hst
      exact not_le.mp hdefault
  unfold RateBucketStore.ttlMs
  split_ifs <;> omega

/-- **The expiry of `Take` is lossless exactly if** the configured time to live is as long as a refill, or a refill is a
whole number of milliseconds. -/
theorem redis_expiry_lossless_iff {cfg : RateBucketConfig} (hst : newRateBucketStore cfg = .ok st) (hrate : 0 < rate)
    (hburst : 1 ≤ burst) (beyond : ℚ → ℤ) : Lossless st (st.ttlMs rate burst beyond) rate burst ↔
      (burst : ℚ) / rate * 1000 ≤ (st.ttl / 10 ^ 6 : ℤ) ∨
        (∃ n : ℤ, (burst : ℚ) / rate * 1000 = n) ∧ (burst : ℚ) / rate * 1000 < 2 ^ 63 := by
  rw [← le_ttlMs_iff beyond]
  constructor
  · exact refill_le_of_lossless hrate hburst (ttlMs_nonneg hst beyond)
  · exact lossless_of_refill_le hrate hburst

/-- One call a second and ten minutes to live. -/
theorem redis_expiry_lossless_default : Lossless ⟨"ratelimit", 600 * 10 ^ 9⟩ 600000 1 1 := by
  have hst : newRateBucketStore ⟨"ratelimit", 0⟩ = .ok ⟨"ratelimit", 600 * 10 ^ 9⟩ := by decide +kernel
  have httl : (⟨"ratelimit", 600 * 10 ^ 9⟩ : RateBucketStore).ttlMs 1 1 (fun _ => 0) = 600000 := by decide +kernel
  have h := (redis_expiry_lossless_iff hst zero_lt_one le_rfl fun _ => 0).mpr (.inl (by norm_num))
  rwa [httl] at h

/-- **Three calls a second, one at once, and 100 ms to live.** The bucket is given 333 ms, 1/3 ms before it is full
again, so that a second call at 333 ms is allowed. -/
theorem redis_expiry_resets_bucket : newRateBucketStore ⟨"ratelimit", 100 * 10 ^ 6⟩ = .ok ⟨"ratelimit", 100 * 10 ^ 6⟩ ∧
    (⟨"ratelimit", 100 * 10 ^ 6⟩ : RateBucketStore).ttlMs 3 1 (fun _ => -(2 ^ 63)) = 333 ∧
    (Lts.run (Calls.step ⟨"ratelimit", 100 * 10 ^ 6⟩ (some 333) 3 1) { clock := 0 } [("a", 0), ("a", 333)]).map
      (·.answers.map Except.toOption) = some [some (true, 0), some (true, 0)] ∧
    (Lts.run (Calls.step ⟨"ratelimit", 100 * 10 ^ 6⟩ none 3 1) { clock := 0 } [("a", 0), ("a", 333)]).map
      (·.answers.map Except.toOption) = some [some (true, 0), some (false, 10 ^ 6)] ∧
    ¬ Lossless ⟨"ratelimit", 100 * 10 ^ 6⟩ 333 3 1 := by
  refine ⟨by decide +kernel, by decide +kernel, by decide +kernel, by decide +kernel, fun h => ?_⟩
  have hsame := congrArg (Option.map (List.map Except.toOption)) (h.same 0 [("a", 0), ("a", 333)])
  rw [Option.map_map, Option.map_map] at hsame
  exact absurd hsame (by decide +kernel)

end Lossless

end Sn360Es.Storage
