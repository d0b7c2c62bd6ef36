import Sn360Es.Middleware.RateLimitMemory

/-!
# The `Retry-After` of a rejected request (`internal/middleware/rate_limit_memory.go`, `rate_limit.go`)

The time until the next token is cut to nanoseconds by `retryAfter`, cut to milliseconds by `writeRateLimitError`, and
only then rounded up to seconds. Less than a millisecond over a whole second is lost on the way.

* `take_allowed_iff` — a request is allowed when there is a token by its time;
* `retrySeconds_le_iff` — the seconds are the least number that the time is not a millisecond beyond;
* `retry_after_honest_iff` — when a client that waits for these seconds is allowed.
-/

namespace Sn360Es.Middleware

open Lib

/-- The seconds that `writeRateLimitError` puts into the header, for a time in nanoseconds. -/
def retrySeconds (retry : ℤ) : Option ℤ :=
  if 0 < retry then some (max 1 ((retry / 10 ^ 6 + 999) / 1000)) else none

/-- `memoryBucketStore.Take` of a client with the bucket `b`, while no other call has it: whether it is allowed, the
time to wait, and the bucket afterwards. -/
def takeAlone (b : Option MemoryBucket) (clientKey : String) (now : ℤ) (rate : ℚ) (burst : ℤ) (beyond : ℚ → ℤ) :
    Except String (Bool × ℤ × MemoryBucket) :=
  if rate ≤ 0 ∨ burst ≤ 0 then .error "rate-limit: rate and burst must be positive"
  else if clientKey = "" then .error "rate-limit: clientKey is required"
  else
    let b : MemoryBucket := (b.map fun b => { b with lastSeen := now }).getD ⟨burst, now, now⟩
    let (allowed, b) := b.take now rate burst
    .ok (allowed, if allowed then 0 else b.retryAfter rate beyond, b)

/-- A request that is rejected has a positive time to wait, and the client is allowed when it comes back after the
seconds of the header. -/
def Honest (b : MemoryBucket) (clientKey : String) (now : ℤ) (rate : ℚ) (burst : ℤ) (beyond : ℚ → ℤ) : Prop :=
  ∀ retry b', takeAlone (some b) clientKey now rate burst beyond = .ok (false, retry, b') →
    0 < retry ∧ ∃ secs ∈ retrySeconds retry, ∃ b'',
      takeAlone (some b') clientKey (now + secs * 10 ^ 9) rate burst beyond = .ok (true, 0, b'')

namespace MemoryBucket

/-- The tokens by a time, if the ceiling is not reached. -/
def tokensBy (b : MemoryBucket) (now : ℤ) (rate : ℚ) : ℚ :=
  b.tokens + max 0 (GoTime.sub now b.lastFill) / 10 ^ 9 * rate

/-- The nanoseconds from a time, or from a later fill, to the next token. -/
def wait (b : MemoryBucket) (now : ℤ) (rate : ℚ) : ℚ := (1 - b.tokensBy now rate) / rate * 10 ^ 9

/-- By how much the last fill is later than a time. -/
def ahead (b : MemoryBucket) (now : ℤ) : ℤ := max 0 (b.lastFill - now)

end MemoryBucket

section Rejected

variable {b : MemoryBucket} {now : ℤ} {rate : ℚ} {burst : ℤ} {beyond : ℚ → ℤ}

lemma refill_tokens (b : MemoryBucket) (now : ℤ) (rate : ℚ) (burst : ℤ) :
    (b.refill now rate burst).tokens = b.tokensBy now rate ∨
      (b.refill now rate burst).tokens = burst ∧ burst ≤ b.tokensBy now rate := by
  unfold MemoryBucket.refill MemoryBucket.tokensBy
  split_ifs with hpos
  · rw [max_eq_right (by exact_mod_cast hpos.le)]
    rcases le_total (burst : ℚ) (b.tokens + GoTime.sub now b.lastFill / 10 ^ 9 * rate) with hle | hle
    · exact Or.inr ⟨min_eq_left hle, hle⟩
    · exact Or.inl (min_eq_right hle)
  · rw [max_eq_left (by exact_mod_cast not_lt.mp hpos)]
    simp

/-- **A request is allowed** when there is a token by its time. -/
lemma take_allowed_iff (hburst : 1 ≤ burst) : (b.take now rate burst).1 = true ↔ 1 ≤ b.tokensBy now rate := by
  have hburst' : (1 : ℚ) ≤ burst := by exact_mod_cast hburst
  have hiff : 1 ≤ (b.refill now rate burst).tokens ↔ 1 ≤ b.tokensBy now rate := by
    rcases refill_tokens b now rate burst with heq | ⟨heq, hle⟩
    · rw [heq]
    · rw [heq]
      exact iff_of_true hburst' (hburst'.trans hle)
  rw [← hiff]
  unfold MemoryBucket.take
  dsimp only
  split_ifs with hlt
  · simpa using hlt
  · simpa using not_lt.mp hlt

lemma refill_lastFill (b : MemoryBucket) (now : ℤ) (rate : ℚ) (burst : ℤ) :
    (b.refill now rate burst).lastFill = now + b.ahead now := by
  unfold MemoryBucket.refill MemoryBucket.ahead
  split_ifs with hpos
  · have hlt := GoTime.sub_pos_iff.mp hpos
    rw [max_eq_left (by omega), add_zero]
  · have hle := not_lt.mp fun hlt => hpos (GoTime.sub_pos_iff.mpr hlt)
    rw [max_eq_right (by omega)]
    omega

/-- The seconds of the header are at most `k` exactly if the time is not a millisecond beyond `k` seconds. -/
lemma retrySeconds_le_iff {x : ℚ} {k : ℤ} (hk : 1 ≤ k) :
    max 1 ((⌊x⌋ / 10 ^ 6 + 999) / 1000) ≤ k ↔ x < k * 10 ^ 9 + 10 ^ 6 := by
  have hfloor : x < k * 10 ^ 9 + 10 ^ 6 ↔ ⌊x⌋ < k * 10 ^ 9 + 10 ^ 6 := by
    rw [Int.floor_lt]
    push_cast
    exact Iff.rfl
  rw [hfloor]
  omega

end Rejected

section Honest

variable {b b' : MemoryBucket} {clientKey : String} {now retry : ℤ} {rate : ℚ} {burst : ℤ} {beyond : ℚ → ℤ}

lemma takeAlone_eq (hrate : 0 < rate) (hburst : 1 ≤ burst) (hkey : clientKey ≠ "") :
    takeAlone (some b) clientKey now rate burst beyond =
      .ok ((MemoryBucket.take { b with lastSeen := now } now rate burst).1,
        if (MemoryBucket.take { b with lastSeen := now } now rate burst).1 then 0
        else (MemoryBucket.take { b with lastSeen := now } now rate burst).2.retryAfter rate beyond,
        (MemoryBucket.take { b with lastSeen := now } now rate burst).2) := by
  have hpos : ¬ (rate ≤ 0 ∨ burst ≤ 0) := by
    rintro (h | h)
    · exact absurd hrate (not_lt.mpr h)
    · omega
  unfold takeAlone
  rw [if_neg hpos, if_neg hkey]
  rfl

/-- What a rejected request leaves. -/
lemma takeAlone_rejected (hrate : 0 < rate) (hburst : 1 ≤ burst) (hkey : clientKey ≠ "") :
    takeAlone (some b) clientKey now rate burst beyond = .ok (false, retry, b') ↔
      b.tokensBy now rate < 1 ∧ b' = MemoryBucket.refill { b with lastSeen := now } now rate burst ∧
        retry = b'.retryAfter rate beyond := by
  have hallowed : (MemoryBucket.take { b with lastSeen := now } now rate burst).1 = true ↔ 1 ≤ b.tokensBy now rate :=
    take_allowed_iff hburst
  rw [takeAlone_eq hrate hburst hkey]
  cases hok : (MemoryBucket.take { b with lastSeen := now } now rate burst).1 with
  | true =>
    have hle := hallowed.mp hok
    simp [not_lt.mpr hle]
  | false =>
    have hlt : b.tokensBy now rate < 1 := not_le.mp fun hle => by
      rw [hallowed.mpr hle] at hok
      cases hok
    have hbucket : (MemoryBucket.take { b with lastSeen := now } now rate burst).2 =
        MemoryBucket.refill { b with lastSeen := now } now rate burst := by
      unfold MemoryBucket.take at hok ⊢
      dsimp only at hok ⊢
      split_ifs at hok ⊢
      rfl
    rw [hbucket]
    simp only [Bool.false_eq_true, if_false, Except.ok.injEq, Prod.mk.injEq, true_and, hlt]
    constructor
    · rintro ⟨rfl, rfl⟩
      exact ⟨rfl, rfl⟩
    · rintro ⟨rfl, rfl⟩
      exact ⟨rfl, rfl⟩

lemma takeAlone_allowed (hrate : 0 < rate) (hburst : 1 ≤ burst) (hkey : clientKey ≠ "") :
    (∃ b'', takeAlone (some b) clientKey now rate burst beyond = .ok (true, 0, b'')) ↔ 1 ≤ b.tokensBy now rate := by
  have hallowed : (MemoryBucket.take { b with lastSeen := now } now rate burst).1 = true ↔ 1 ≤ b.tokensBy now rate :=
    take_allowed_iff hburst
  rw [takeAlone_eq hrate hburst hkey, ← hallowed]
  cases (MemoryBucket.take { b with lastSeen := now } now rate burst).1 with
  | true => simp
  | false => simp

/-- There is a token after a time that is a `Duration` and no shorter than the wait. -/
lemma one_le_tokensBy_iff (hrate : 0 < rate) (htokens : b.tokens < 1) (n : ℤ) :
    1 ≤ b.tokensBy n rate ↔ (1 - b.tokens) / rate * 10 ^ 9 ≤ (GoTime.maxInt64 : ℚ) ∧
      (1 - b.tokens) / rate * 10 ^ 9 ≤ n - b.lastFill := by
  have hwait : 0 < (1 - b.tokens) / rate * 10 ^ 9 := by
    have hdeficit : 0 < 1 - b.tokens := sub_pos.mpr htokens
    positivity
  have hsub : (1 - b.tokens) / rate * 10 ^ 9 ≤ (GoTime.sub n b.lastFill : ℚ) ↔
      (1 - b.tokens) / rate * 10 ^ 9 ≤ (GoTime.maxInt64 : ℚ) ∧ (1 - b.tokens) / rate * 10 ^ 9 ≤ n - b.lastFill := by
    have hmin : ¬ (1 - b.tokens) / rate * 10 ^ 9 ≤ (GoTime.minInt64 : ℚ) := by
      refine not_le.mpr (lt_trans ?_ hwait)
      norm_num [GoTime.minInt64]
    unfold GoTime.sub
    push_cast
    rw [le_max_iff, le_min_iff]
    simp [hmin]
  rw [← hsub, MemoryBucket.tokensBy, Int.cast_max, Int.cast_zero]
  constructor
  · intro h
    have hgain : 1 - b.tokens ≤ max 0 (GoTime.sub n b.lastFill : ℚ) / 10 ^ 9 * rate := by linarith
    have hmax : (1 - b.tokens) / rate * 10 ^ 9 ≤ max 0 (GoTime.sub n b.lastFill : ℚ) := by
      rw [← le_div_iff₀ (by norm_num), div_le_iff₀ hrate]
      exact hgain
    exact (le_max_iff.mp hmax).resolve_left (not_le.mpr hwait)
  · intro h
    have hmax := h.trans (le_max_right 0 (GoTime.sub n b.lastFill : ℚ))
    rw [← le_div_iff₀ (by norm_num), div_le_iff₀ hrate] at hmax
    linarith

lemma retryAfter_of_lt (hrate : 0 < rate) (htokens : b.tokens < 1) :
    b.retryAfter rate beyond = if (1 - b.tokens) / rate * 10 ^ 9 < 2 ^ 63 then ⌊(1 - b.tokens) / rate * 10 ^ 9⌋
      else beyond ((1 - b.tokens) / rate * 10 ^ 9) := by
  have hwait : 0 ≤ (1 - b.tokens) / rate := div_nonneg (sub_nonneg.mpr htokens.le) hrate.le
  unfold MemoryBucket.retryAfter
  rw [if_neg (not_le.mpr htokens), max_eq_right hwait]

/-- The bucket of a rejected request. -/
lemma refill_of_rejected (hburst : 1 ≤ burst) (hlt : b.tokensBy now rate < 1) :
    (MemoryBucket.refill { b with lastSeen := now } now rate burst).tokens = b.tokensBy now rate := by
  rcases refill_tokens { b with lastSeen := now } now rate burst with heq | ⟨-, hle⟩
  · exact heq
  · have hburst' : (1 : ℚ) ≤ burst := by exact_mod_cast hburst
    exact absurd (hburst'.trans hle) (not_le.mpr hlt)

/-- The client comes back in time. -/
def Returns (x : ℚ) (ahead secs : ℤ) : Prop := x ≤ (GoTime.maxInt64 : ℚ) ∧ x + ahead ≤ secs * 10 ^ 9

lemma honest_of_rejected (hrate : 0 < rate) (hburst : 1 ≤ burst) (hkey : clientKey ≠ "")
    (hlt : b.tokensBy now rate < 1) : Honest b clientKey now rate burst beyond ↔
      ∃ retry, retry = (if b.wait now rate < 2 ^ 63 then ⌊b.wait now rate⌋ else beyond (b.wait now rate)) ∧
        0 < retry ∧ ∃ secs ∈ retrySeconds retry, Returns (b.wait now rate) (b.ahead now) secs := by
  set r := MemoryBucket.refill { b with lastSeen := now } now rate burst with hr
  have htokens : r.tokens = b.tokensBy now rate := refill_of_rejected hburst hlt
  have hfill : r.lastFill = now + b.ahead now := refill_lastFill _ _ _ _
  have hlt' : r.tokens < 1 := htokens ▸ hlt
  have hwait : (1 - r.tokens) / rate * 10 ^ 9 = b.wait now rate := by rw [htokens, MemoryBucket.wait]
  have hretry : r.retryAfter rate beyond =
      if b.wait now rate < 2 ^ 63 then ⌊b.wait now rate⌋ else beyond (b.wait now rate) := by
    rw [retryAfter_of_lt hrate hlt', hwait]
  have hreturns : ∀ secs : ℤ, (∃ b'', takeAlone (some r) clientKey (now + secs * 10 ^ 9) rate burst beyond =
      .ok (true, 0, b'')) ↔ Returns (b.wait now rate) (b.ahead now) secs := by
    intro secs
    rw [takeAlone_allowed hrate hburst hkey, one_le_tokensBy_iff hrate hlt', hwait, hfill, Returns]
    push_cast
    refine and_congr_right fun _ => ?_
    constructor
    · intro h
      linarith
    · intro h
      linarith
  have hrejected : takeAlone (some b) clientKey now rate burst beyond = .ok (false, r.retryAfter rate beyond, r) :=
    (takeAlone_rejected hrate hburst hkey).mpr ⟨hlt, hr, rfl⟩
  constructor
  · intro h
    obtain ⟨hpos, secs, hsecs, hback⟩ := h _ _ hrejected
    exact ⟨_, hretry, hpos, secs, hsecs, (hreturns secs).mp hback⟩
  · rintro ⟨retry, hwaited, hpos, secs, hsecs, hback⟩ retry' b' hrej
    obtain ⟨-, hb', hretry'⟩ := (takeAlone_rejected hrate hburst hkey).mp hrej
    obtain rfl : b' = r := hb'
    obtain rfl : retry' = retry := by rw [hretry', hretry, hwaited]
    exact ⟨hpos, secs, hsecs, (hreturns secs).mpr hback⟩

/-- **When `Retry-After` is honest**: exactly if a request that has to wait waits for a nanosecond or more, for no
longer than a `Duration`, and, where its wait is not a millisecond beyond a number of seconds, for no longer than these.
-/
theorem retry_after_honest_iff (hrate : 0 < rate) (hburst : 1 ≤ burst) (hkey : clientKey ≠ "") (b : MemoryBucket)
    (now : ℤ) (beyond : ℚ → ℤ) : Honest b clientKey now rate burst beyond ↔
      (b.tokensBy now rate < 1 → 1 ≤ b.wait now rate ∧ b.wait now rate ≤ (GoTime.maxInt64 : ℚ) ∧
        ∀ k : ℤ, 1 ≤ k → b.wait now rate < k * 10 ^ 9 + 10 ^ 6 → b.wait now rate + b.ahead now ≤ k * 10 ^ 9) := by
  rcases lt_or_ge (b.tokensBy now rate) 1 with hlt | hge
  · rw [honest_of_rejected hrate hburst hkey hlt]
    simp only [hlt, true_imp_iff]
    have hmax : b.wait now rate ≤ (GoTime.maxInt64 : ℚ) → b.wait now rate < 2 ^ 63 := by
      intro hle
      refine lt_of_le_of_lt hle ?_
      norm_num [GoTime.maxInt64]
    constructor
    · rintro ⟨retry, hretry, hpos, secs, hsecs, hle, hback⟩
      rw [if_pos (hmax hle)] at hretry
      rw [retrySeconds, if_pos hpos, Option.mem_some_iff, hretry] at hsecs
      refine ⟨?_, hle, fun k hk hlt => ?_⟩
      · rw [hretry] at hpos
        exact_mod_cast Int.le_floor.mp hpos
      · have hsecs_le : secs ≤ k := hsecs ▸ (retrySeconds_le_iff hk).mpr hlt
        have hcast : (secs : ℚ) ≤ k := by exact_mod_cast hsecs_le
        linarith
    · rintro ⟨hone, hle, hall⟩
      have hpos : 0 < ⌊b.wait now rate⌋ := Int.floor_pos.mpr hone
      refine ⟨_, (if_pos (hmax hle)).symm, hpos, _, by rw [retrySeconds, if_pos hpos]; rfl, hle, ?_⟩
      have hsecs : 1 ≤ max 1 ((⌊b.wait now rate⌋ / 10 ^ 6 + 999) / 1000) := le_max_left _ _
      exact hall _ hsecs ((retrySeconds_le_iff hsecs).mp le_rfl)
  · refine iff_of_true (fun retry b' hrej => ?_) fun hlt => absurd hge (not_le.mpr hlt)
    exact absurd hge (not_le.mpr ((takeAlone_rejected hrate hburst hkey).mp hrej).1)

end Honest

/-- An empty bucket with a token every second. -/
theorem retry_after_honest_second : Honest ⟨0, 0, 0⟩ "a" 0 1 1 fun _ => 0 := by
  refine (retry_after_honest_iff one_pos le_rfl (by decide) _ 0 _).mpr fun _ => ?_
  have hwait : MemoryBucket.wait ⟨0, 0, 0⟩ 0 1 = 10 ^ 9 := by decide +kernel
  rw [hwait]
  refine ⟨by norm_num, by norm_num [GoTime.maxInt64], fun k hk _ => ?_⟩
  have hk' : (1 : ℚ) ≤ k := by exact_mod_cast hk
  norm_num [MemoryBucket.ahead]
  linarith

/-- With 0.9999 tokens a second the header says one second, and there is no token then. -/
theorem retry_after_too_short : ¬ Honest ⟨0, 0, 0⟩ "a" 0 (9999 / 10000) 1 fun _ => 0 := by
  intro h
  have hrejected : takeAlone (some ⟨0, 0, 0⟩) "a" 0 (9999 / 10000) 1 (fun _ => 0) =
      .ok (false, 1000100010, ⟨0, 0, 0⟩) := by decide +kernel
  obtain ⟨-, secs, hsecs, b'', hallowed⟩ := h _ _ hrejected
  obtain rfl : 1 = secs := by simpa [retrySeconds] using hsecs
  have hagain : takeAlone (some ⟨0, 0, 0⟩) "a" (0 + 1 * 10 ^ 9) (9999 / 10000) 1 (fun _ => 0) =
      .ok (false, 100010, ⟨9999 / 10000, 1000000000, 1000000000⟩) := by decide +kernel
  rw [hagain] at hallowed
  cases hallowed

end Sn360Es.Middleware
