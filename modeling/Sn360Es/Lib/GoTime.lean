import Mathlib.Algebra.Order.Group.Int
import Mathlib.Algebra.Order.Ring.Int
import Mathlib.Data.List.Basic
import Sn360Es.Lib.GoStrings

/-!
# Instants and integers of Go (`time`, `strconv`)

An instant is the number of nanoseconds since the zero time, so `IsZero` says that it is zero, and `Before` and
`After` compare. `UnixNano` is a 64-bit number and wraps around; within its range it reads back
(`ofUnixNano_unixNano`).
-/

namespace Lib.GoTime

/-- The start of 1970, in nanoseconds since the zero time. -/
def unixEpoch : ℤ := 62135596800 * 10 ^ 9

def second : ℤ := 10 ^ 9

def millisecond : ℤ := 10 ^ 6

/-- The value of a 64-bit signed integer. -/
def int64 (n : ℤ) : ℤ := Int.bmod n (2 ^ 64)

def minInt64 : ℤ := -(2 ^ 63)

def maxInt64 : ℤ := 2 ^ 63 - 1

/-- `Time.Sub`, which stops at the ends of a `Duration`. -/
def sub (t u : ℤ) : ℤ := max minInt64 (min maxInt64 (t - u))

/-- `Time.UnixNano`. -/
def unixNano (t : ℤ) : ℤ := int64 (t - unixEpoch)

/-- `time.Unix(0, n)`. -/
def ofUnixNano (n : ℤ) : ℤ := unixEpoch + n

/-- `time.UnixMilli`. -/
def ofUnixMilli (n : ℤ) : ℤ := unixEpoch + n * millisecond

/-- The whole second of an instant: `Unix`, or the text of `time.RFC3339`. -/
def truncateSecond (t : ℤ) : ℤ := t / second * second

/-- The instants that `UnixNano` can tell apart: the years 1678 to 2262. -/
def InNanoRange (t : ℤ) : Prop := unixEpoch + minInt64 ≤ t ∧ t ≤ unixEpoch + maxInt64

instance (t : ℤ) : Decidable (InNanoRange t) := inferInstanceAs (Decidable (_ ∧ _))

lemma int64_of_range {n : ℤ} (h : minInt64 ≤ n) (h' : n ≤ maxInt64) : int64 n = n := by
  unfold int64 minInt64 maxInt64 at *
  rw [Int.bmod_eq_of_le]
  · push_cast
    omega
  · push_cast
    omega

lemma sub_pos_iff {t u : ℤ} : 0 < sub t u ↔ u < t := by
  unfold sub minInt64 maxInt64
  omega

lemma sub_le {t u : ℤ} (h : u ≤ t) : sub t u ≤ t - u := by
  unfold sub minInt64 maxInt64
  omega

lemma sub_self (t : ℤ) : sub t t = 0 := by
  unfold sub minInt64 maxInt64
  omega

lemma sub_mono {t t' : ℤ} (u : ℤ) (h : t ≤ t') : sub t u ≤ sub t' u := by
  unfold sub minInt64 maxInt64
  omega

/-- A duration grows no faster than time does. -/
lemma sub_le_add {t t' : ℤ} (u : ℤ) (h : t ≤ t') : sub t' u ≤ sub t u + (t' - t) := by
  unfold sub minInt64 maxInt64
  omega

/-- **Round trip** of a stored instant. -/
theorem ofUnixNano_unixNano {t : ℤ} (h : InNanoRange t) : ofUnixNano (unixNano t) = t := by
  obtain ⟨hlo, hhi⟩ := h
  unfold ofUnixNano unixNano
  rw [int64_of_range (by omega) (by omega)]
  omega

lemma minInt64_le_unixNano (t : ℤ) : minInt64 ≤ unixNano t := by
  have h := Int.le_bmod (x := t - unixEpoch) (m := 2 ^ 64) (Nat.two_pow_pos 64)
  unfold unixNano int64 minInt64
  simp only [Nat.reducePow] at h ⊢
  omega

lemma unixNano_le_maxInt64 (t : ℤ) : unixNano t ≤ maxInt64 := by
  have h := Int.bmod_lt (x := t - unixEpoch) (m := 2 ^ 64) (Nat.two_pow_pos 64)
  unfold unixNano int64 maxInt64
  simp only [Nat.reducePow] at h ⊢
  omega

/-- An instant that is too late for `UnixNano` reads back as an earlier one. -/
lemma ofUnixNano_unixNano_le {t : ℤ} (h : unixEpoch + minInt64 ≤ t) : ofUnixNano (unixNano t) ≤ t := by
  by_cases hmax : t ≤ unixEpoch + maxInt64
  · exact (ofUnixNano_unixNano ⟨h, hmax⟩).le
  · have hle := unixNano_le_maxInt64 t
    unfold ofUnixNano
    omega

/-- What reads back is never the zero time. -/
lemma ofUnixNano_unixNano_pos (t : ℤ) : unixEpoch + minInt64 ≤ ofUnixNano (unixNano t) := by
  have hle := minInt64_le_unixNano t
  unfold ofUnixNano
  omega

lemma truncateSecond_le (t : ℤ) : truncateSecond t ≤ t := by
  have h := Int.ediv_mul_le t (show second ≠ 0 by decide)
  exact h

/-- The digits of a number, from the left. -/
def ofDigits (cs : List Char) : ℤ := cs.foldl (fun n c => n * 10 + (c.toNat - '0'.toNat : ℕ)) 0

def isDigit (c : Char) : Bool := '0' ≤ c && c ≤ '9'

/-- `strconv.ParseInt(s, 10, 64)`. -/
def parseInt64 (s : String) : Option ℤ :=
  let (neg, digits) :=
    match s.toList with
    | '-' :: cs => (true, cs)
    | '+' :: cs => (false, cs)
    | cs => (false, cs)
  if digits = [] ∨ ¬ digits.all isDigit then none
  else
    let n := if neg then -ofDigits digits else ofDigits digits
    if minInt64 ≤ n ∧ n ≤ maxInt64 then some n else none

/-- `fmt.Sscanf(s, "%d", &n)` for an `int64`: leading blanks are skipped, and what follows the digits is not read. -/
def scanInt64 (s : String) : Option ℤ :=
  let number :=
    match s.toList.dropWhile fun c => GoStrings.isSpace c && c != '\n' with
    | '-' :: cs => '-' :: cs.takeWhile isDigit
    | '+' :: cs => cs.takeWhile isDigit
    | cs => cs.takeWhile isDigit
  parseInt64 (String.ofList number)

/-- The fraction of `v / 10 ^ prec` as `Duration.String` writes it: without the zeros at its end, and without the point
when nothing is left. -/
def fmtFrac (v prec : ℕ) : String :=
  let digits := (List.range prec).map fun k => Nat.digitChar (v / 10 ^ (prec - 1 - k) % 10)
  match (digits.reverse.dropWhile (· = '0')).reverse with
  | [] => ""
  | kept => String.ofList ('.' :: kept)

/-- `Duration.String`. -/
def durationString (d : ℤ) : String :=
  let u := d.natAbs
  let minutes := u / 10 ^ 9 / 60
  let hours := minutes / 60
  let text :=
    if u = 0 then "0s"
    else if u < 10 ^ 3 then toString u ++ "ns"
    else if u < 10 ^ 6 then toString (u / 10 ^ 3) ++ fmtFrac u 3 ++ "µs"
    else if u < 10 ^ 9 then toString (u / 10 ^ 6) ++ fmtFrac u 6 ++ "ms"
    else (if 0 < hours then toString hours ++ "h" else "") ++
      (if 0 < minutes then toString (minutes % 60) ++ "m" else "") ++
        toString (u / 10 ^ 9 % 60) ++ fmtFrac u 9 ++ "s"
  if d < 0 then "-" ++ text else text

end Lib.GoTime
