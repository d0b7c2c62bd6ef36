import Mathlib.Algebra.Order.Group.Int
import Mathlib.Algebra.Order.Ring.Int
import Mathlib.Data.Nat.Log
import Mathlib.Tactic.IntervalCases
import Sn360Es.Lib.GoTime

/-!
# Months of the Gregorian calendar

A month is an integer: the months of the year `y` are `12 * y` to `12 * y + 11`. A day is the number of days since the
first of January of the year 1. The calendar goes back before its introduction, and has a year 0.

* `monthDay` — the first day of a month, `monthOf` the month of a day;
* `monthDay_lt_iff`, `monthDay_le_iff` — months come one after another;
* `monthDay_monthOf_le`, `lt_monthDay_monthOf_add_one` — the days of a month;
* `pad`, `ofDigits_pad` — numbers with leading zeros, and how they read back.
-/

namespace Lib.Calendar

/-- The leap days of the years before `y`, from the year 0 on, when years start in March. -/
def leapDays (y : ℤ) : ℤ := y / 4 - y / 100 + y / 400

/-- The days from the first of March of the year 0 to the month `k` after it. -/
def marchDays (k : ℤ) : ℤ := 365 * (k / 12) + leapDays (k / 12) + (153 * (k % 12) + 2) / 5

/-- The first day of a month. -/
def monthDay (n : ℤ) : ℤ := marchDays (n - 2) - 306

/-- The month of a day after the first of March of the year 0: by its average length, and one up or down. -/
def marchMonth (z : ℤ) : ℤ :=
  let k := z * 4800 / 146097
  if z < marchDays k then k - 1 else if marchDays (k + 1) ≤ z then k + 1 else k

/-- The month of a day. -/
def monthOf (day : ℤ) : ℤ := marchMonth (day + 306) + 2

/-- The start of 1970, and the end of a February with a leap day. -/
example : monthDay (12 * 1970) = 719162 ∧ monthOf 730178 = 12 * 2000 + 1 ∧ monthOf 730179 = 12 * 2000 + 2 := by decide

lemma leapDays_succ (y : ℤ) : leapDays y ≤ leapDays (y + 1) ∧ leapDays (y + 1) ≤ leapDays y + 1 := by
  -- in steps of 4, 25 and 4, so that at each one there is a quotient that goes up by one or not at all
  have h₁ : ∀ x : ℤ, x / 100 = x / 4 / 25 := fun x => by omega
  have h₂ : ∀ x : ℤ, x / 400 = x / 4 / 25 / 4 := fun x => by omega
  unfold leapDays
  rw [h₁, h₂, h₁, h₂]
  have hq : (y + 1) / 4 = y / 4 ∨ (y + 1) / 4 = y / 4 + 1 := by omega
  rcases hq with hq | hq
  · rw [hq]
    omega
  · rw [hq]
    generalize y / 4 = q
    have hp : (q + 1) / 25 = q / 25 ∨ (q + 1) / 25 = q / 25 + 1 := by omega
    rcases hp with hp | hp <;> rw [hp] <;> omega

/-- A month has 28 to 31 days. -/
lemma marchDays_succ (k : ℤ) : marchDays k + 28 ≤ marchDays (k + 1) ∧ marchDays (k + 1) ≤ marchDays k + 31 := by
  unfold marchDays
  have hleap := leapDays_succ (k / 12)
  by_cases hlast : k % 12 = 11
  · have hy : (k + 1) / 12 = k / 12 + 1 := by omega
    have hm : (k + 1) % 12 = 0 := by omega
    rw [hy, hm, hlast]
    omega
  · have hy : (k + 1) / 12 = k / 12 := by omega
    have hm : (k + 1) % 12 = k % 12 + 1 := by omega
    rw [hy, hm]
    omega

lemma monthDay_succ (n : ℤ) : monthDay n + 28 ≤ monthDay (n + 1) ∧ monthDay (n + 1) ≤ monthDay n + 31 := by
  have h := marchDays_succ (n - 2)
  unfold monthDay
  rw [show n + 1 - 2 = n - 2 + 1 by omega]
  omega

/-- **Months come one after another.** -/
lemma monthDay_lt_iff {m n : ℤ} : monthDay m < monthDay n ↔ m < n := by
  have hmono : StrictMono monthDay := by
    apply strictMono_int_of_lt_succ
    intro n
    have := monthDay_succ n
    omega
  exact hmono.lt_iff_lt

lemma monthDay_le_iff {m n : ℤ} : monthDay m ≤ monthDay n ↔ m ≤ n := by
  have := monthDay_lt_iff (m := n) (n := m)
  omega

/-- The average length of a month is right up to a few days. -/
lemma marchDays_approx (k : ℤ) : 4800 * marchDays k ≤ 146097 * k + 24000 ∧ 146097 * k - 24000 ≤ 4800 * marchDays k := by
  unfold marchDays leapDays
  omega

lemma marchMonth_spec (z : ℤ) : marchDays (marchMonth z) ≤ z ∧ z < marchDays (marchMonth z + 1) := by
  unfold marchMonth
  simp only
  generalize hk : z * 4800 / 146097 = k
  have h₀ := marchDays_approx k
  have h₁ := marchDays_approx (k - 1)
  have h₂ := marchDays_approx (k + 2)
  split_ifs with hlt hle
  · rw [Int.sub_add_cancel]
    omega
  · rw [show k + 1 + 1 = k + 2 by omega]
    omega
  · omega

lemma monthDay_monthOf_le (day : ℤ) : monthDay (monthOf day) ≤ day := by
  have h := (marchMonth_spec (day + 306)).1
  unfold monthDay monthOf
  rw [Int.add_sub_cancel]
  omega

lemma lt_monthDay_monthOf_add_one (day : ℤ) : day < monthDay (monthOf day + 1) := by
  have h := (marchMonth_spec (day + 306)).2
  unfold monthDay monthOf
  rw [show marchMonth (day + 306) + 2 + 1 - 2 = marchMonth (day + 306) + 1 by omega]
  omega

/-- The first day of a month is in it. -/
lemma monthOf_monthDay (n : ℤ) : monthOf (monthDay n) = n := by
  have h₁ := monthDay_le_iff.mp (monthDay_monthOf_le (monthDay n))
  have h₂ := monthDay_lt_iff.mp (lt_monthDay_monthOf_add_one (monthDay n))
  omega

section Digits

open GoTime

/-- The last `w` digits of a number. -/
def fixed : ℕ → ℕ → List Char
  | 0, _ => []
  | w + 1, n => fixed w (n / 10) ++ [Nat.digitChar (n % 10)]

/-- A number with at least `w` digits. -/
def pad (w n : ℕ) : List Char := fixed (max w (Nat.log 10 n + 1)) n

example : pad 2 7 = ['0', '7'] ∧ pad 4 12026 = ['1', '2', '0', '2', '6'] := by decide +kernel

@[simp] lemma length_fixed (w n : ℕ) : (fixed w n).length = w := by
  induction w generalizing n with
  | zero => rfl
  | succ w ih => simp [fixed, ih]

lemma toNat_digitChar {d : ℕ} (h : d < 10) :
    isDigit (Nat.digitChar d) = true ∧ (Nat.digitChar d).toNat - '0'.toNat = d := by
  interval_cases d <;> decide

lemma isDigit_of_mem_fixed {w n : ℕ} : ∀ c ∈ fixed w n, isDigit c = true := by
  induction w generalizing n with
  | zero => simp [fixed]
  | succ w ih =>
    intro c hc
    rcases List.mem_append.mp hc with hc | hc
    · exact ih c hc
    · rw [List.mem_singleton.mp hc]
      exact (toNat_digitChar (Nat.mod_lt n (by omega))).1

lemma ofDigits_concat (cs : List Char) (c : Char) :
    ofDigits (cs ++ [c]) = ofDigits cs * 10 + (c.toNat - '0'.toNat : ℕ) := by
  simp [ofDigits]

lemma ofDigits_fixed {w n : ℕ} (h : n < 10 ^ w) : ofDigits (fixed w n) = n := by
  induction w generalizing n with
  | zero =>
    have : n = 0 := by simpa using h
    subst this
    rfl
  | succ w ih =>
    have hlt : n / 10 < 10 ^ w := by
      rw [pow_succ] at h
      omega
    rw [fixed, ofDigits_concat, ih hlt, (toNat_digitChar (Nat.mod_lt n (by omega))).2]
    omega

lemma isDigit_of_mem_pad {w n : ℕ} : ∀ c ∈ pad w n, isDigit c = true := isDigit_of_mem_fixed

/-- **A number with leading zeros reads back.** -/
lemma ofDigits_pad (w n : ℕ) : ofDigits (pad w n) = n := by
  apply ofDigits_fixed
  calc n < 10 ^ (Nat.log 10 n + 1) := Nat.lt_pow_succ_log_self (by omega) n
    _ ≤ 10 ^ max w (Nat.log 10 n + 1) := Nat.pow_le_pow_right (by omega) (le_max_right _ _)

lemma pad_injective {w n m : ℕ} (h : pad w n = pad w m) : n = m := by
  have hn := ofDigits_pad w n
  rw [h, ofDigits_pad] at hn
  exact_mod_cast hn.symm

lemma pad_eq_fixed {w n : ℕ} (hw : 0 < w) (h : n < 10 ^ w) : pad w n = fixed w n := by
  have hlog : Nat.log 10 n < w := Nat.log_lt_of_lt_pow' (by omega) h
  rw [pad, max_eq_left (by omega)]

lemma lt_length_pad {w n : ℕ} (h : 10 ^ w ≤ n) : w < (pad w n).length := by
  have hlog : w ≤ Nat.log 10 n := Nat.le_log_of_pow_le (by omega) h
  rw [pad, length_fixed]
  omega

end Digits

end Lib.Calendar
