import Mathlib.Data.Int.Log
import Mathlib.Data.Rat.Floor
import Mathlib.Tactic.NormNum
import Mathlib.Tactic.Ring

/-!
# Binary floating point with 53 significant bits

A `Float64` is a rational that survives `rnd`, the rounding to 53 significant bits, ties to even. The four
operations round the exact result once, as IEEE 754 asks of binary64. The exponent is unbounded: there is
no overflow, no subnormal number, no NaN, so the order is linear.

`rnd_scaled` says which rationals are floats (`m * 2 ^ k` with `|m| ≤ 2 ^ 53`), and with it the rounding is
idempotent.
-/

namespace Lib

/-- The nearest integer, ties to even. -/
def roundEven (x : ℚ) : ℤ :=
  if x - ⌊x⌋ < 1 / 2 then ⌊x⌋
  else if 1 / 2 < x - ⌊x⌋ then ⌊x⌋ + 1
  else if ⌊x⌋ % 2 = 0 then ⌊x⌋ else ⌊x⌋ + 1

/-- The weight of the last of the 53 bits of `q`. -/
def ulp (q : ℚ) : ℚ := 2 ^ (Int.log 2 |q| - 52)

/-- `q` rounded to 53 significant bits. -/
def rnd (q : ℚ) : ℚ := roundEven (q / ulp q) * ulp q

lemma two_zpow_pos (k : ℤ) : (0 : ℚ) < 2 ^ k := zpow_pos two_pos k

lemma ulp_pos (q : ℚ) : 0 < ulp q := two_zpow_pos _

lemma roundEven_intCast (n : ℤ) : roundEven n = n := by simp [roundEven]

lemma roundEven_cases (x : ℚ) : roundEven x = ⌊x⌋ ∨ roundEven x = ⌊x⌋ + 1 := by
  unfold roundEven
  split_ifs
  · exact Or.inl rfl
  · exact Or.inr rfl
  · exact Or.inl rfl
  · exact Or.inr rfl

/-- Rounding stays inside integer bounds. -/
lemma abs_roundEven_le {x : ℚ} {n : ℤ} (h : |x| < n) : |roundEven x| ≤ n := by
  obtain ⟨hlo, hhi⟩ := abs_lt.mp h
  have h1 : ⌊x⌋ < n := Int.floor_lt.mpr hhi
  have h2 : -n ≤ ⌊x⌋ := Int.le_floor.mpr (by push_cast; exact hlo.le)
  rw [abs_le]
  rcases roundEven_cases x with e | e <;> rw [e] <;> constructor <;> omega

lemma rnd_zero : rnd 0 = 0 := by
  have h : roundEven 0 = 0 := roundEven_intCast 0
  simp [rnd, h]

/-- **The floats.** Every `m * 2 ^ k` with `|m| ≤ 2 ^ 53` is left alone by the rounding. -/
theorem rnd_scaled (m k : ℤ) (hm : |m| ≤ 2 ^ 53) : rnd (m * 2 ^ k) = m * 2 ^ k := by
  rcases eq_or_ne m 0 with rfl | hm0
  · simp [rnd_zero]
  set q : ℚ := m * 2 ^ k with hq
  have hpos : 0 < |q| := by
    rw [abs_pos, hq]
    exact mul_ne_zero (by exact_mod_cast hm0) (two_zpow_pos k).ne'
  have hle : |q| ≤ 2 ^ (53 + k) := by
    rw [hq, abs_mul, abs_of_pos (two_zpow_pos k), zpow_add₀ two_ne_zero]
    refine mul_le_mul_of_nonneg_right ?_ (two_zpow_pos k).le
    exact_mod_cast hm
  have hlog : (2 : ℚ) ^ Int.log 2 |q| ≤ |q| := by
    exact_mod_cast Int.zpow_log_le_self (b := 2) one_lt_two hpos
  have he : Int.log 2 |q| ≤ 53 + k :=
    (zpow_le_zpow_iff_right₀ one_lt_two).mp (hlog.trans hle)
  -- the quotient by the last bit is an integer: `m` shifted left, or the half of `± 2 ^ 53`
  obtain ⟨n, hn⟩ : ∃ n : ℤ, q / ulp q = n := by
    have hdiv : q / ulp q = m * 2 ^ (k + 52 - Int.log 2 |q|) := by
      rw [ulp, hq, div_eq_mul_inv, ← zpow_neg, mul_assoc, ← zpow_add₀ two_ne_zero]
      congr 2
      ring
    rw [hdiv]
    rcases lt_or_eq_of_le he with hlt | heq
    · obtain ⟨j, hj⟩ := Int.eq_ofNat_of_zero_le (show 0 ≤ k + 52 - Int.log 2 |q| by omega)
      exact ⟨m * 2 ^ j, by rw [hj]; push_cast; rw [zpow_natCast]⟩
    · have habs : |q| = 2 ^ (53 + k) := le_antisymm hle (heq ▸ hlog)
      have hm' : |m| = 2 ^ 53 := by
        have : (|m| : ℚ) * 2 ^ k = 2 ^ 53 * 2 ^ k := by
          rw [hq, abs_mul, abs_of_pos (two_zpow_pos k),
            zpow_add₀ two_ne_zero] at habs
          exact_mod_cast habs
        have := mul_right_cancel₀ (two_zpow_pos k).ne' this
        exact_mod_cast this
      have hexp : k + 52 - Int.log 2 |q| = -1 := by omega
      rw [hexp]
      rcases abs_choice m with h | h
      · refine ⟨2 ^ 52, ?_⟩
        have : m = 2 ^ 53 := by rw [← h]; exact hm'
        rw [this]
        norm_num
      · refine ⟨-2 ^ 52, ?_⟩
        have : m = -2 ^ 53 := by rw [← hm', h, neg_neg]
        rw [this]
        norm_num
  rw [rnd, hn, roundEven_intCast, ← hn, div_mul_cancel₀ _ (ulp_pos q).ne']

theorem rnd_rnd (q : ℚ) : rnd (rnd q) = rnd q := by
  have hlt : |q / ulp q| < (2 ^ 53 : ℤ) := by
    rw [abs_div, abs_of_pos (ulp_pos q), div_lt_iff₀ (ulp_pos q), ulp]
    have h := Int.lt_zpow_succ_log_self (b := 2) one_lt_two |q|
    calc |q| < 2 ^ (Int.log 2 |q| + 1) := by exact_mod_cast h
      _ = ((2 ^ 53 : ℤ) : ℚ) * 2 ^ (Int.log 2 |q| - 52) := by
        have e : Int.log 2 |q| + 1 = 53 + (Int.log 2 |q| - 52) := by ring
        rw [e, zpow_add₀ two_ne_zero]
        norm_cast
  exact rnd_scaled _ _ (abs_roundEven_le hlt)

/-! ### The type and its operations -/

/-- A rational with at most 53 significant bits. -/
def Float64 : Type := { q : ℚ // rnd q = q }

namespace Float64

/-- A constant of the source, rounded to the nearest float. -/
def ofRat (q : ℚ) : Float64 := ⟨rnd q, rnd_rnd q⟩

/-- The conversion `float64(n)` of an integer. -/
def ofInt (n : ℤ) : Float64 := ofRat n

instance : LinearOrder Float64 := inferInstanceAs (LinearOrder { q : ℚ // rnd q = q })
instance : Zero Float64 := ⟨⟨0, rnd_zero⟩⟩
instance : Add Float64 := ⟨fun a b => ofRat (a.1 + b.1)⟩
instance : Mul Float64 := ⟨fun a b => ofRat (a.1 * b.1)⟩
instance : Div Float64 := ⟨fun a b => ofRat (a.1 / b.1)⟩
instance : Repr Float64 := ⟨fun a n => reprPrec a.1 n⟩

/-- `int(math.Round(x))`: the nearest integer, halves away from zero. -/
def round (x : Float64) : ℤ := if 0 ≤ x.1 then ⌊x.1 + 1 / 2⌋ else -⌊-x.1 + 1 / 2⌋

lemma ofRat_zero : ofRat 0 = 0 := Subtype.ext rnd_zero

@[simp]
lemma ofInt_zero : ofInt 0 = 0 := by simp [ofInt, ofRat_zero]

@[simp]
lemma zero_mul_eq (a : Float64) : 0 * a = 0 := by
  change ofRat (0 * a.1) = 0
  rw [zero_mul, ofRat_zero]

@[simp]
lemma zero_add_zero : (0 : Float64) + 0 = 0 := by
  change ofRat (0 + 0) = 0
  rw [add_zero, ofRat_zero]

@[simp]
lemma zero_div_eq (a : Float64) : 0 / a = 0 := by
  change ofRat (0 / a.1) = 0
  rw [zero_div, ofRat_zero]

@[simp]
lemma round_zero : round 0 = 0 := by
  change (if (0 : ℚ) ≤ 0 then ⌊(0 : ℚ) + 1 / 2⌋ else -⌊-(0 : ℚ) + 1 / 2⌋) = 0
  norm_num

end Float64

end Lib
