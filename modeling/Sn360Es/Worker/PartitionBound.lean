import Sn360Es.Lib.Calendar

/-!
# Partition bounds (`cmd/sn360-es/wire_partitions.go`)

`ListPartitions` reads the bounds of a partition from the text that Postgres makes of them: `FOR VALUES FROM ('…') TO
('…')`, with timestamps in the time zone of the session. An instant of Postgres is a number of microseconds, and one of
Go a number of nanoseconds, since the start of the year 1.

* `parsePartitionTimestamp`, `parsePartitionBound` — the code's readers;
* `TimeZone.text`, `Bound.text` — what Postgres writes;
* `parsePartitionTimestamp_text`, `parsePartitionBound_range` — what is written reads back, from the year 1 to the year
  9999 and in zones of whole minutes, and is refused elsewhere: no bound is misread.
-/

namespace Sn360Es.Worker

open Lib Calendar GoTime

/-! ### `time.Parse` -/

/-- `getnum` of `time`: two digits, or one where they are not `fixed`. -/
def getnum (fixedWidth : Bool) : List Char → Option (ℤ × List Char)
  | a :: b :: s =>
    if !isDigit a then none
    else if isDigit b then some (ofDigits [a, b], s)
    else if fixedWidth then none
    else some (ofDigits [a], b :: s)
  | [a] => if isDigit a && !fixedWidth then some (ofDigits [a], []) else none
  | [] => none

/-- The four digits of `2006`. -/
def getyear : List Char → Option (ℤ × List Char)
  | a :: b :: c :: d :: s => if [a, b, c, d].all isDigit then some (ofDigits [a, b, c, d], s) else none
  | _ => none

/-- `skip` of `time`, over one character of the layout: a blank stands for any number of them, and also for the end. -/
def skip (c : Char) : List Char → Option (List Char)
  | [] => if c = ' ' then some [] else none
  | x :: s => if x ≠ c then none else if c = ' ' then some (s.dropWhile (· = ' ')) else some s

/-- `parseNanoseconds`: what is after the ninth digit is cut off. -/
def parseNanoseconds (ds : List Char) : ℤ := ofDigits (ds.take 9) * 10 ^ (9 - (ds.take 9).length)

/-- A fraction of a second, which `time.Parse` takes after the seconds whether the layout has one or not. -/
def getfraction : List Char → ℤ × List Char
  | p :: d :: s =>
    if (p = '.' ∨ p = ',') ∧ isDigit d then
      (parseNanoseconds ((d :: s).takeWhile isDigit), (d :: s).dropWhile isDigit)
    else (0, p :: d :: s)
  | s => (0, s)

/-- How a layout ends: with `Z07:00`, `-07`, `-07:00`, or without a zone. -/
inductive ZoneLayout where
  | iso | short | colon | bare
  deriving DecidableEq, Repr

/-- The seconds of an offset. -/
def zoneOffset (sign : Char) (hour min : List Char) : Option ℤ := do
  let (hr, _) ← getnum true hour
  let (mm, _) ← getnum true min
  if hr > 24 ∨ mm > 60 then none
  else if sign = '+' then some ((hr * 60 + mm) * 60)
  else if sign = '-' then some (-((hr * 60 + mm) * 60))
  else none

/-- An offset with a colon. -/
def getcolon : List Char → Option (ℤ × List Char)
  | sign :: a :: b :: ':' :: c :: d :: s => (zoneOffset sign [a, b] [c, d]).map (·, s)
  | _ => none

def getzone : ZoneLayout → List Char → Option (ℤ × List Char)
  | .iso, 'Z' :: s => some (0, s)
  | .iso, s => getcolon s
  | .colon, s => getcolon s
  | .short, sign :: a :: b :: s => (zoneOffset sign [a, b] ['0', '0']).map (·, s)
  | .short, _ => none
  | .bare, s => some (0, s)

/-- A layout of `parsePartitionTimestamp`: what stands between date and time, and the zone. -/
structure Layout where
  sep : Char
  zone : ZoneLayout
  deriving DecidableEq, Repr

/-- The instant of a date and a time with an offset, as `Date` has it. A day that the month does not have is refused. -/
def ofFields (year month day hour min sec nsec offset : ℤ) : Option ℤ :=
  let n := 12 * year + month - 1
  if 1 ≤ day ∧ day ≤ monthDay (n + 1) - monthDay n then
    some (((monthDay n + day - 1) * 86400 + hour * 3600 + min * 60 + sec - offset) * second + nsec)
  else none

/-- `2006-01-02`. -/
def getdate (s : List Char) : Option ((ℤ × ℤ × ℤ) × List Char) := do
  let (year, s) ← getyear s
  let s ← skip '-' s
  let (month, s) ← getnum true s
  let s ← if 1 ≤ month ∧ month ≤ 12 then skip '-' s else none
  let (day, s) ← getnum true s
  some ((year, month, day), s)

/-- `15:04:05`, and the nanoseconds. -/
def gettime (s : List Char) : Option ((ℤ × ℤ × ℤ × ℤ) × List Char) := do
  let (hour, s) ← getnum false s
  let s ← if hour < 24 then skip ':' s else none
  let (min, s) ← getnum true s
  let s ← if min < 60 then skip ':' s else none
  let (sec, s) ← getnum true s
  if sec < 60 then
    let (nsec, s) := getfraction s
    some ((hour, min, sec, nsec), s)
  else none

/-- `time.Parse`. -/
def Layout.parse (l : Layout) (s : List Char) : Option ℤ := do
  let ((year, month, day), s) ← getdate s
  let s ← skip l.sep s
  let ((hour, min, sec, nsec), s) ← gettime s
  let (offset, s) ← getzone l.zone s
  if s = [] then ofFields year month day hour min sec nsec offset else none

/-! ### The bounds -/

/-- The layouts with a fraction and without one are the same ones. -/
def layouts : List Layout :=
  [⟨'T', .iso⟩, ⟨'T', .iso⟩, ⟨' ', .short⟩, ⟨' ', .short⟩, ⟨' ', .colon⟩, ⟨' ', .colon⟩, ⟨' ', .bare⟩]

def parsePartitionTimestamp (s : List Char) : Option ℤ := layouts.findSome? (·.parse s)

/-- The loop of `unquoteSQLLiteral`: of two quotes, one. -/
def unescape : List Char → List Char
  | '\'' :: '\'' :: s => '\'' :: unescape s
  | c :: s => c :: unescape s
  | [] => []

def unquoteSQLLiteral (s : List Char) : List Char :=
  unescape (if 2 ≤ s.length ∧ s.head? = some '\'' ∧ s.getLast? = some '\'' then s.tail.dropLast else s)

def indexOf (sub : List Char) : List Char → Option ℕ
  | [] => if sub = [] then some 0 else none
  | c :: s => if sub <+: c :: s then some 0 else (indexOf sub s).map (· + 1)

/-- `partitionBound`. -/
structure PartitionBound where
  lower : ℤ := 0
  upper : ℤ := 0
  lowerUnbounded : Bool := false
  upperUnbounded : Bool := false
  deriving DecidableEq, Repr

def boundLead : List Char := "FOR VALUES FROM (".toList

def boundSep : List Char := ") TO (".toList

/-- One end of a range; `none` for `MINVALUE` or `MAXVALUE`. -/
def parseEnd (unbounded raw : List Char) : Option (Option ℤ) :=
  if raw = unbounded then some none else (parsePartitionTimestamp raw).map some

/-- `parsePartitionBound`, without the texts of its errors, which are only logged. -/
def parsePartitionBound (expr : List Char) : Option PartitionBound := do
  if ¬ boundLead <+: expr ∨ ¬ [')'] <:+ expr then none
  else
    let inner := (expr.drop boundLead.length).dropLast
    let idx ← indexOf boundSep inner
    let loRaw := unquoteSQLLiteral (inner.take idx)
    let hiRaw := unquoteSQLLiteral (inner.drop (idx + boundSep.length))
    let lo ← parseEnd "MINVALUE".toList loRaw
    let hi ← parseEnd "MAXVALUE".toList hiRaw
    some { lower := lo.getD 0, upper := hi.getD 0, lowerUnbounded := lo.isNone, upperUnbounded := hi.isNone }

example : parsePartitionBound "FOR VALUES FROM (MINVALUE) TO ('2026-06-01 02:00:00.25+02')".toList =
    some { lowerUnbounded := true, upper := (monthDay (12 * 2026 + 5) * 86400) * second + 250000000 } := by
  decide +kernel

/-! ### What Postgres writes -/

/-- The time zone of a session: seconds to the east of UTC. Postgres has no zone that is 16 hours away. -/
structure TimeZone where
  offset : ℤ → ℤ
  bounded : ∀ t, -57600 < offset t ∧ offset t < 57600

/-- The microseconds of a second, without the zeros at their end. -/
def fracText (u : ℕ) : List Char :=
  if u = 0 then [] else '.' :: ((fixed 6 u).reverse.dropWhile (· = '0')).reverse

/-- The minutes and seconds of an offset, where there are any. -/
def minuteText (sec : ℕ) : List Char :=
  if sec % 60 ≠ 0 then ':' :: (pad 2 (sec / 60 % 60) ++ ':' :: pad 2 (sec % 60))
  else if sec / 60 % 60 ≠ 0 then ':' :: pad 2 (sec / 60 % 60)
  else []

def zoneText (o : ℤ) : List Char :=
  (if 0 ≤ o then '+' else '-') :: (pad 2 (o.natAbs / 3600) ++ minuteText o.natAbs)

namespace TimeZone

variable (zone : TimeZone) (t : ℤ)

/-- What a clock in the zone shows, in microseconds. -/
def clock : ℤ := t + zone.offset t * 1000000

/-- The month that it shows. -/
def month : ℤ := monthOf (zone.clock t / 86400000000)

/-- A `timestamptz` with the date style ISO. -/
def text : List Char :=
  let day := zone.clock t / 86400000000
  let year := zone.month t / 12
  let us := (zone.clock t % 86400000000).toNat
  pad 4 (if 0 < year then year else 1 - year).toNat ++ '-' :: (pad 2 (zone.month t % 12 + 1).toNat ++
    '-' :: (pad 2 (day - monthDay (zone.month t) + 1).toNat ++ ' ' :: (pad 2 (us / 3600000000) ++
    ':' :: (pad 2 (us / 60000000 % 60) ++ ':' :: (pad 2 (us / 1000000 % 60) ++ (fracText (us % 1000000) ++
    (zoneText (zone.offset t) ++ if 0 < year then [] else " BC".toList)))))))

/-- What the code can read: years of four digits, and zones of whole minutes. -/
def Readable : Prop := 12 ≤ zone.month t ∧ zone.month t < 120000 ∧ zone.offset t % 60 = 0

instance : Decidable (zone.Readable t) := inferInstanceAs (Decidable (_ ∧ _ ∧ _))

end TimeZone

/-- A bound of a range partition: from `MINVALUE` or an instant, to `MAXVALUE` or an instant. -/
inductive Bound where
  | range (lower upper : Option ℤ)
  | default
  deriving DecidableEq, Repr

def literal (zone : TimeZone) (unbounded : List Char) : Option ℤ → List Char
  | none => unbounded
  | some t => '\'' :: (zone.text t ++ ['\''])

/-- `pg_get_expr(relpartbound)`. -/
def Bound.text (zone : TimeZone) : Bound → List Char
  | .default => ['D', 'E', 'F', 'A', 'U', 'L', 'T']
  | .range lower upper =>
    boundLead ++ (literal zone "MINVALUE".toList lower ++ (boundSep ++ (literal zone "MAXVALUE".toList upper ++ [')'])))

/-! ### What is written reads back -/

lemma fixed_two (n : ℕ) : fixed 2 n = [Nat.digitChar (n / 10 % 10), Nat.digitChar (n % 10)] := rfl

lemma getnum_fixed {n : ℕ} (h : n < 100) (w : Bool) (s : List Char) :
    getnum w (fixed 2 n ++ s) = some ((n : ℤ), s) := by
  have h₁ := (toNat_digitChar (Nat.mod_lt (n / 10) (show 10 > 0 by omega))).1
  have h₂ := (toNat_digitChar (Nat.mod_lt n (show 10 > 0 by omega))).1
  have hval : ofDigits (fixed 2 n) = n := ofDigits_fixed (by omega)
  rw [fixed_two] at hval ⊢
  simp [getnum, h₁, h₂, hval]

lemma getnum_pad {n : ℕ} (h : n < 100) (w : Bool) (s : List Char) :
    getnum w (pad 2 n ++ s) = some ((n : ℤ), s) := by
  rw [pad_eq_fixed (by omega) (by omega), getnum_fixed h]

lemma getyear_append {ds : List Char} (hlen : ds.length = 4) (hd : ∀ c ∈ ds, isDigit c = true) (s : List Char) :
    getyear (ds ++ s) = some (ofDigits ds, s) := by
  match ds, hlen with
  | [a, b, c, d], _ => simp_all [getyear]

/-- A text that starts with more than four digits has no year. -/
lemma parse_digits {ds : List Char} (hlen : 4 < ds.length) (hd : ∀ c ∈ ds, isDigit c = true) (l : Layout)
    (s : List Char) : l.parse (ds ++ s) = none := by
  match ds, hlen with
  | a :: b :: c :: d :: e :: ds, _ =>
    have he : e ≠ '-' := by
      rintro rfl
      exact absurd (hd '-' (by simp)) (by decide)
    have hfour : ∀ x ∈ [a, b, c, d], isDigit x = true := by
      intro x hx
      exact hd x (List.mem_append_left (e :: ds) hx)
    have hyear := getyear_append rfl hfour (e :: ds ++ s)
    simp only [List.cons_append, List.nil_append] at hyear
    simp [Layout.parse, getdate, hyear, skip, he]

lemma skip_self {c : Char} (hc : c ≠ ' ') (s : List Char) : skip c (c :: s) = some s := by
  simp [skip, hc]

lemma skip_blank {n : ℕ} (h : n < 100) (s : List Char) :
    skip ' ' (' ' :: (pad 2 n ++ s)) = some (pad 2 n ++ s) := by
  rw [pad_eq_fixed (by omega) (by omega), fixed_two]
  have hd : Nat.digitChar (n / 10 % 10) ≠ ' ' := by
    intro heq
    have := (toNat_digitChar (Nat.mod_lt (n / 10) (show 10 > 0 by omega))).1
    rw [heq] at this
    exact absurd this (by decide)
  simp [skip, hd]

lemma ofDigits_zeros (cs : List Char) (k : ℕ) : ofDigits (cs ++ List.replicate k '0') = ofDigits cs * 10 ^ k := by
  induction k with
  | zero => simp
  | succ k ih =>
    rw [List.replicate_succ', ← List.append_assoc, ofDigits_concat, ih, pow_succ]
    simp [mul_assoc]

/-- What `fracText` drops are zeros. -/
lemma exists_zeros (ds : List Char) :
    ∃ k, ds = (ds.reverse.dropWhile (· = '0')).reverse ++ List.replicate k '0' := by
  refine ⟨(ds.reverse.takeWhile (· = '0')).length, ?_⟩
  have hz : ds.reverse.takeWhile (· = '0') = List.replicate (ds.reverse.takeWhile (· = '0')).length '0' := by
    apply List.eq_replicate_of_mem
    intro c hc
    have h := List.all_eq_true.mp List.all_takeWhile c hc
    simpa using h
  rw [← List.reverse_replicate, ← hz, ← List.reverse_append, List.takeWhile_append_dropWhile, List.reverse_reverse]

/-- The rest of a timestamp after its fraction. -/
def NoFraction (s : List Char) : Prop := ∀ c ∈ s.head?, isDigit c = false ∧ c ≠ '.' ∧ c ≠ ','

lemma getfraction_fracText {u : ℕ} (hu : u < 1000000) {s : List Char} (hs : NoFraction s) :
    getfraction (fracText u ++ s) = (1000 * (u : ℤ), s) := by
  have hstop : s.takeWhile isDigit = [] ∧ s.dropWhile isDigit = s := by
    cases s with
    | nil => exact ⟨rfl, rfl⟩
    | cons c s => simp [(hs c rfl).1]
  unfold fracText
  split_ifs with h0
  · subst h0
    match s with
    | [] => rfl
    | [c] => rfl
    | p :: d :: s =>
      have hp := (hs p rfl).2
      simp [getfraction, hp]
  · obtain ⟨k, hk⟩ := exists_zeros (fixed 6 u)
    generalize (((fixed 6 u).reverse.dropWhile (· = '0')).reverse) = kept at *
    have hlen : kept.length + k = 6 := by simpa using (congrArg List.length hk).symm
    have hval : ofDigits kept * 10 ^ k = u := by rw [← ofDigits_zeros, ← hk, ofDigits_fixed (by omega)]
    have hd : ∀ c ∈ kept, isDigit c = true := by
      intro c hc
      apply isDigit_of_mem_fixed (w := 6) (n := u)
      rw [hk]
      exact List.mem_append_left _ hc
    have hnano : parseNanoseconds kept = 1000 * u := by
      rw [parseNanoseconds, List.take_of_length_le (by omega), show 9 - kept.length = k + 3 by omega, pow_add,
        ← mul_assoc, hval]
      omega
    cases kept with
    | nil =>
      simp only [ofDigits, List.foldl_nil, zero_mul] at hval
      omega
    | cons d ds =>
      have htake : ((d :: ds) ++ s).takeWhile isDigit = d :: ds := by
        rw [List.takeWhile_append_of_pos hd, hstop.1, List.append_nil]
      have hdrop : ((d :: ds) ++ s).dropWhile isDigit = s := by
        rw [List.dropWhile_append_of_pos hd, hstop.2]
      rw [List.cons_append] at htake hdrop
      rw [List.cons_append, List.cons_append, getfraction, if_pos ⟨.inl rfl, hd d (by simp)⟩, htake, hdrop, hnano]

lemma getdate_pad {y mo d : ℕ} (hy : y < 10000) (hmo : 1 ≤ mo ∧ mo ≤ 12) (hd : d < 100) (s : List Char) :
    getdate (pad 4 y ++ '-' :: (pad 2 mo ++ '-' :: (pad 2 d ++ s))) = some (((y : ℤ), (mo : ℤ), (d : ℤ)), s) := by
  have hlen : (pad 4 y).length = 4 := by rw [pad_eq_fixed (by omega) (by omega), length_fixed]
  have hyear := getyear_append hlen isDigit_of_mem_pad ('-' :: (pad 2 mo ++ '-' :: (pad 2 d ++ s)))
  have hmon : (1 : ℤ) ≤ mo ∧ (mo : ℤ) ≤ 12 := by omega
  simp [getdate, hyear, ofDigits_pad, skip_self, getnum_pad (show mo < 100 by omega), hmon, getnum_pad hd]

lemma gettime_pad {h mi sec u : ℕ} (hh : h < 24) (hmi : mi < 60) (hsec : sec < 60) (hu : u < 1000000) {s : List Char}
    (hs : NoFraction s) :
    gettime (pad 2 h ++ ':' :: (pad 2 mi ++ ':' :: (pad 2 sec ++ (fracText u ++ s)))) =
      some (((h : ℤ), (mi : ℤ), (sec : ℤ), 1000 * (u : ℤ)), s) := by
  have hhour : (h : ℤ) < 24 := by omega
  have hmin : (mi : ℤ) < 60 := by omega
  have hs60 : (sec : ℤ) < 60 := by omega
  simp [gettime, skip_self, getnum_pad (show h < 100 by omega), hhour, getnum_pad (show mi < 100 by omega), hmin,
    getnum_pad (show sec < 100 by omega), hs60, getfraction_fracText hu hs]

/-- **A date and a time read back**; what follows is left to the zone of the layout. -/
lemma parse_fields {y mo d h mi sec u : ℕ} (hy : y < 10000) (hmo : 1 ≤ mo ∧ mo ≤ 12) (hd : d < 100) (hh : h < 24)
    (hmi : mi < 60) (hsec : sec < 60) (hu : u < 1000000) {s : List Char} (hs : NoFraction s) (l : Layout) :
    l.parse (pad 4 y ++ '-' :: (pad 2 mo ++ '-' :: (pad 2 d ++ ' ' :: (pad 2 h ++ ':' :: (pad 2 mi ++ ':' ::
      (pad 2 sec ++ (fracText u ++ s))))))) =
    if l.sep = ' ' then
      (getzone l.zone s).bind fun z => if z.2 = [] then ofFields y mo d h mi sec (1000 * u) z.1 else none
    else none := by
  rw [Layout.parse, getdate_pad hy hmo hd]
  split_ifs with hsep
  · rw [hsep, Option.bind_eq_bind, Option.bind_some]
    simp only [skip_blank (show h < 100 by omega), Option.bind_some, gettime_pad hh hmi hsec hu hs, Option.bind_eq_bind]
  · simp [skip, Ne.symm hsep]

section Zone

variable {o : ℤ}

lemma zoneOffset_fixed {h m : ℕ} (hh : h < 16) (hm : m < 60) :
    zoneOffset (if 0 ≤ o then '+' else '-') (fixed 2 h) (fixed 2 m) =
      some (if 0 ≤ o then ((h : ℤ) * 60 + m) * 60 else -(((h : ℤ) * 60 + m) * 60)) := by
  have hnum : getnum true (fixed 2 h) = some ((h : ℤ), []) := by simpa using getnum_fixed (by omega) true []
  have hnum' : getnum true (fixed 2 m) = some ((m : ℤ), []) := by simpa using getnum_fixed (by omega) true []
  have hrange : h ≤ 24 ∧ m ≤ 60 := by omega
  rw [zoneOffset, hnum, hnum']
  by_cases ho : 0 ≤ o <;> simp [ho, hrange]

lemma minuteText_append_eq_nil {e : List Char} : minuteText o.natAbs ++ e = [] ↔ o % 3600 = 0 ∧ e = [] := by
  unfold minuteText
  split_ifs with hs hm
  · simp
    omega
  · simp
    omega
  · simp
    omega

variable (hb : -57600 < o ∧ o < 57600) (e : List Char) (f : ℤ → Option ℤ)

include hb

lemma zoneText_append : zoneText o ++ e = (if 0 ≤ o then '+' else '-') :: Nat.digitChar (o.natAbs / 3600 / 10 % 10) ::
    Nat.digitChar (o.natAbs / 3600 % 10) :: (minuteText o.natAbs ++ e) := by
  rw [zoneText, pad_eq_fixed (by omega) (show o.natAbs / 3600 < 10 ^ 2 by omega), fixed_two]
  rfl

/-- The layout `-07` reads whole hours. -/
lemma getzone_short : ((getzone .short (zoneText o ++ e)).bind fun z => if z.2 = [] then f z.1 else none) =
    if o % 3600 = 0 ∧ e = [] then f o else none := by
  have hoff := zoneOffset_fixed (o := o) (show o.natAbs / 3600 < 16 by omega) (show 0 < 60 by omega)
  rw [fixed_two, show fixed 2 0 = ['0', '0'] from rfl] at hoff
  rw [zoneText_append hb, getzone, hoff]
  simp only [Option.map_some, Option.bind_some, minuteText_append_eq_nil]
  split_ifs with h ho
  · congr 1
    omega
  · congr 1
    omega
  · rfl

/-- The layout `-07:00` reads the minutes of the others. -/
lemma getzone_colon (he : e = [] ∨ e = " BC".toList) :
    ((getzone .colon (zoneText o ++ e)).bind fun z => if z.2 = [] then f z.1 else none) =
      if o % 60 = 0 ∧ o % 3600 ≠ 0 ∧ e = [] then f o else none := by
  rw [zoneText_append hb, getzone]
  have hoff := zoneOffset_fixed (o := o) (show o.natAbs / 3600 < 16 by omega)
    (show o.natAbs / 60 % 60 < 60 by omega)
  have hpad : pad 2 (o.natAbs / 60 % 60) = fixed 2 (o.natAbs / 60 % 60) := pad_eq_fixed (by omega) (by omega)
  rw [fixed_two, fixed_two] at hoff
  generalize (if 0 ≤ o then '+' else '-') = sign at hoff ⊢
  by_cases hs : o.natAbs % 60 = 0
  · by_cases hm : o.natAbs / 60 % 60 = 0
    · rw [minuteText, if_neg (by omega), if_neg (by omega), if_neg (by omega)]
      rcases he with rfl | rfl <;> rfl
    · rw [minuteText, if_neg (by omega), if_pos hm, hpad, fixed_two]
      simp only [List.cons_append, List.nil_append, getcolon, hoff, Option.map_some, Option.bind_some]
      by_cases hnil : e = []
      · have hread : o % 60 = 0 ∧ o % 3600 ≠ 0 ∧ e = [] := ⟨by omega, by omega, hnil⟩
        rw [if_pos hnil, if_pos hread]
        congr 1
        split_ifs <;> omega
      · rw [if_neg hnil, if_neg fun h => hnil h.2.2]
  · rw [minuteText, if_pos hs, hpad, fixed_two, if_neg (by omega)]
    simp [getcolon]

lemma getzone_bare : ((getzone .bare (zoneText o ++ e)).bind fun z => if z.2 = [] then f z.1 else none) = none := by
  simp [zoneText_append hb, getzone]

/-- The layouts with a blank read whole minutes of an offset, if nothing follows. -/
lemma findSome?_layouts {g : Layout → Option ℤ} (he : e = [] ∨ e = " BC".toList)
    (hg : ∀ l, g l = if l.sep = ' ' then
      (getzone l.zone (zoneText o ++ e)).bind fun z => if z.2 = [] then f z.1 else none else none) :
    layouts.findSome? g = if o % 60 = 0 ∧ e = [] then f o else none := by
  simp only [layouts, List.findSome?_cons, List.findSome?_nil, hg, getzone_short hb, getzone_colon hb e f he,
    getzone_bare hb]
  by_cases h60 : o % 60 = 0 ∧ e = []
  · by_cases h3600 : o % 3600 = 0
    · simp only [h60, h3600, and_self, if_true]
      cases f o <;> simp
    · simp only [h60, h3600, and_self, if_true, ne_eq, not_false_eq_true, false_and, if_false]
      cases f o <;> simp
  · have hshort : ¬ (o % 3600 = 0 ∧ e = []) := by
      rintro ⟨h, hnil⟩
      exact h60 ⟨by omega, hnil⟩
    have hcolon : ¬ (o % 60 = 0 ∧ o % 3600 ≠ 0 ∧ e = []) := fun h => h60 ⟨h.1, h.2.2⟩
    simp only [if_neg h60, if_neg hshort, if_neg hcolon, ite_self]
    rfl

lemma noFraction_zoneText : NoFraction (zoneText o ++ e) := by
  intro c hc
  rw [zoneText_append hb, List.head?_cons, Option.mem_some_iff] at hc
  subst hc
  split_ifs <;> decide

end Zone

/-- A timestamp with an offset of whole minutes reads back. -/
lemma parsePartitionTimestamp_fields {y mo d h mi sec u : ℕ} (hy : y < 10000) (hmo : 1 ≤ mo ∧ mo ≤ 12) (hd : d < 100)
    (hh : h < 24) (hmi : mi < 60) (hsec : sec < 60) (hu : u < 1000000) {o : ℤ} (hb : -57600 < o ∧ o < 57600)
    {e : List Char} (he : e = [] ∨ e = " BC".toList) :
    parsePartitionTimestamp (pad 4 y ++ '-' :: (pad 2 mo ++ '-' :: (pad 2 d ++ ' ' :: (pad 2 h ++ ':' :: (pad 2 mi ++
      ':' :: (pad 2 sec ++ (fracText u ++ (zoneText o ++ e)))))))) =
      if o % 60 = 0 ∧ e = [] then ofFields y mo d h mi sec (1000 * u) o else none := by
  apply findSome?_layouts hb e (ofFields y mo d h mi sec (1000 * u)) he
  intro l
  exact parse_fields hy hmo hd hh hmi hsec hu (noFraction_zoneText hb e) l

section Text

variable (zone : TimeZone) (t : ℤ)

/-- The fields of the clock denote the instant. -/
lemma ofFields_clock :
    let day := zone.clock t / 86400000000
    let us := (zone.clock t % 86400000000).toNat
    ofFields (zone.month t / 12) (zone.month t % 12 + 1) (day - monthDay (zone.month t) + 1) (us / 3600000000 : ℕ)
      (us / 60000000 % 60 : ℕ) (us / 1000000 % 60 : ℕ) (1000 * (us % 1000000 : ℕ)) (zone.offset t) =
      some (1000 * t) := by
  intro day us
  have hlow := monthDay_monthOf_le day
  have hhigh := lt_monthDay_monthOf_add_one day
  have hmonth : zone.month t = monthOf day := rfl
  have hn : 12 * (zone.month t / 12) + (zone.month t % 12 + 1) - 1 = zone.month t := by omega
  have hclock : zone.clock t = t + zone.offset t * 1000000 := rfl
  have hsplit : zone.clock t = day * 86400000000 + us := by omega
  rw [← hmonth] at hlow hhigh
  rw [ofFields]
  simp only [hn]
  rw [if_pos (by omega), second]
  congr 1
  omega

/-- **A timestamp reads back, or is refused.** -/
lemma parsePartitionTimestamp_text :
    parsePartitionTimestamp (zone.text t) = if zone.Readable t then some (1000 * t) else none := by
  have hb := zone.bounded t
  have hday : monthDay (zone.month t) ≤ zone.clock t / 86400000000 := monthDay_monthOf_le _
  have hday' : zone.clock t / 86400000000 < monthDay (zone.month t + 1) := lt_monthDay_monthOf_add_one _
  have hlen := monthDay_succ (zone.month t)
  unfold TimeZone.text
  simp only
  set year := zone.month t / 12 with hyear
  by_cases hy : (if 0 < year then year else 1 - year).toNat < 10000
  · have he : (if 0 < year then [] else " BC".toList) = [] ∨
        (if 0 < year then [] else " BC".toList) = " BC".toList := by
      split_ifs
      · exact .inl rfl
      · exact .inr rfl
    have hparse := parsePartitionTimestamp_fields hy
      (show 1 ≤ (zone.month t % 12 + 1).toNat ∧ (zone.month t % 12 + 1).toNat ≤ 12 by omega)
      (d := (zone.clock t / 86400000000 - monthDay (zone.month t) + 1).toNat) (by omega)
      (h := (zone.clock t % 86400000000).toNat / 3600000000) (by omega)
      (Nat.mod_lt ((zone.clock t % 86400000000).toNat / 60000000) (show 60 > 0 by omega))
      (Nat.mod_lt ((zone.clock t % 86400000000).toNat / 1000000) (show 60 > 0 by omega))
      (Nat.mod_lt (zone.clock t % 86400000000).toNat (show 1000000 > 0 by omega)) hb he
    have hfields := ofFields_clock zone t
    simp only [← hyear] at hfields
    rw [hparse]
    by_cases hpos : 0 < year
    · rw [if_pos hpos] at hy
      have hmonth : ((zone.month t % 12 + 1).toNat : ℤ) = zone.month t % 12 + 1 := by omega
      have hdate : ((zone.clock t / 86400000000 - monthDay (zone.month t) + 1).toNat : ℤ) =
          zone.clock t / 86400000000 - monthDay (zone.month t) + 1 := by omega
      simp only [if_pos hpos, Int.toNat_of_nonneg hpos.le, hmonth, hdate, hfields, and_true]
      have hread : zone.offset t % 60 = 0 ↔ zone.Readable t := by
        constructor
        · intro h
          exact ⟨by omega, by omega, h⟩
        · exact fun h => h.2.2
      simp only [hread]
    · have hread : ¬ zone.Readable t := by
        rintro ⟨h₁, -⟩
        omega
      rw [if_neg hread, if_neg]
      rintro ⟨-, h⟩
      rw [if_neg hpos] at h
      exact absurd h (by decide)
  · have hread : ¬ zone.Readable t := by
      rintro ⟨h₁, h₂, -⟩
      rw [if_pos (by omega)] at hy
      omega
    have hdigits := lt_length_pad (w := 4) (Nat.not_lt.mp hy)
    rw [if_neg hread, parsePartitionTimestamp]
    simp [layouts, parse_digits hdigits isDigit_of_mem_pad]

end Text

/-! ### Reading a bound -/

lemma unescape_eq_self {s : List Char} (h : '\'' ∉ s) : unescape s = s := by
  induction s with
  | nil => rfl
  | cons c s ih =>
    have hc : c ≠ '\'' := by
      rintro rfl
      exact h (by simp)
    have hs := ih fun hmem => h (List.mem_cons_of_mem c hmem)
    rw [unescape, hs]
    rintro s' rfl
    exact absurd rfl hc

lemma unquoteSQLLiteral_quoted {s : List Char} (h : '\'' ∉ s) : unquoteSQLLiteral ('\'' :: (s ++ ['\''])) = s := by
  have hlast : ('\'' :: (s ++ ['\''])).getLast? = some '\'' := by
    rw [← List.cons_append, List.getLast?_concat]
  rw [unquoteSQLLiteral, if_pos ⟨by simp, rfl, hlast⟩]
  simp [unescape_eq_self h]

lemma indexOf_append {xs ys sub : List Char} {c : Char} (h : c ∉ xs) :
    indexOf (c :: sub) (xs ++ (c :: sub ++ ys)) = some xs.length := by
  induction xs with
  | nil => simp [indexOf]
  | cons x xs ih =>
    have hne : c ≠ x := by
      rintro rfl
      exact h (by simp)
    rw [List.cons_append, indexOf, if_neg, ih fun hmem => h (List.mem_cons_of_mem x hmem)]
    · simp
    · rintro ⟨s, hs⟩
      exact hne (List.cons_eq_cons.mp hs).1

/-- The characters of a timestamp. -/
def IsTimestampChar (c : Char) : Prop := isDigit c = true ∨ c ∈ "- :.+BC".toList

lemma isTimestampChar_pad {w n : ℕ} : ∀ c ∈ pad w n, IsTimestampChar c := fun c hc => .inl (isDigit_of_mem_pad c hc)

lemma isTimestampChar_fracText {u : ℕ} : ∀ c ∈ fracText u, IsTimestampChar c := by
  unfold fracText
  split_ifs
  · simp
  · obtain ⟨k, hk⟩ := exists_zeros (fixed 6 u)
    rw [List.forall_mem_cons]
    refine ⟨.inr (by decide), fun c hc => .inl ?_⟩
    apply isDigit_of_mem_fixed (w := 6) (n := u)
    rw [hk]
    exact List.mem_append_left _ hc

lemma isTimestampChar_zoneText {o : ℤ} : ∀ c ∈ zoneText o, IsTimestampChar c := by
  have hcolon : IsTimestampChar ':' := .inr (by decide)
  unfold zoneText minuteText
  rw [List.forall_mem_cons, List.forall_mem_append]
  refine ⟨?_, isTimestampChar_pad, ?_⟩
  · split_ifs
    · exact .inr (by decide)
    · exact .inr (by decide)
  · split_ifs
    · simp only [List.forall_mem_cons, List.forall_mem_append]
      exact ⟨hcolon, isTimestampChar_pad, hcolon, isTimestampChar_pad⟩
    · simp only [List.forall_mem_cons]
      exact ⟨hcolon, isTimestampChar_pad⟩
    · simp

lemma isTimestampChar_text {zone : TimeZone} {t : ℤ} : ∀ c ∈ zone.text t, IsTimestampChar c := by
  have hmark : IsTimestampChar '-' ∧ IsTimestampChar ' ' ∧ IsTimestampChar ':' :=
    ⟨.inr (by decide), .inr (by decide), .inr (by decide)⟩
  unfold TimeZone.text
  simp only [List.forall_mem_cons, List.forall_mem_append]
  refine ⟨isTimestampChar_pad, hmark.1, isTimestampChar_pad, hmark.1, isTimestampChar_pad, hmark.2.1,
    isTimestampChar_pad, hmark.2.2, isTimestampChar_pad, hmark.2.2, isTimestampChar_pad, isTimestampChar_fracText,
    isTimestampChar_zoneText, ?_⟩
  split_ifs
  · simp
  · have hall : " BC".toList.all (· ∈ "- :.+BC".toList) = true := by decide
    intro c hc
    exact .inr (of_decide_eq_true (List.all_eq_true.mp hall c hc))

lemma not_mem_text {zone : TimeZone} {t : ℤ} {c : Char} (hd : isDigit c = false) (hc : c ∉ "- :.+BC".toList) :
    c ∉ zone.text t := by
  intro hmem
  rcases isTimestampChar_text c hmem with h | h
  · rw [hd] at h
    exact Bool.false_ne_true h
  · exact hc h

section Literal

variable {zone : TimeZone} {unbounded : List Char} (h : unbounded = "MINVALUE".toList ∨ unbounded = "MAXVALUE".toList)
  (b : Option ℤ)

include h

lemma not_mem_literal : ')' ∉ literal zone unbounded b := by
  cases b with
  | none =>
    rw [literal]
    rcases h with rfl | rfl <;> decide
  | some t =>
    have htext : ')' ∉ zone.text t := not_mem_text rfl (by decide)
    simp [literal, htext]

lemma parseEnd_literal : parseEnd unbounded (unquoteSQLLiteral (literal zone unbounded b)) =
    if ∀ t ∈ b, zone.Readable t then some (b.map (1000 * ·)) else none := by
  unfold parseEnd
  cases b with
  | none =>
    have hplain : unquoteSQLLiteral unbounded = unbounded := by rcases h with rfl | rfl <;> decide
    simp [literal, hplain]
  | some t =>
    have hquote : '\'' ∉ zone.text t := not_mem_text rfl (by decide)
    have hne : zone.text t ≠ unbounded := by
      intro heq
      have hM : 'M' ∉ zone.text t := not_mem_text rfl (by decide)
      rw [heq] at hM
      rcases h with rfl | rfl <;> exact hM (by decide)
    rw [literal, unquoteSQLLiteral_quoted hquote, if_neg hne, parsePartitionTimestamp_text]
    by_cases hread : zone.Readable t <;> simp [hread]

end Literal

lemma dropLast_drop_left (lead inner : List Char) (c : Char) :
    ((lead ++ (inner ++ [c])).drop lead.length).dropLast = inner := by
  rw [List.drop_left, List.dropLast_concat]

/-- **What Postgres writes is read as it is, or refused.** -/
lemma parsePartitionBound_range {zone : TimeZone} {lower upper : Option ℤ} :
    parsePartitionBound ((Bound.range lower upper).text zone) =
      if (∀ t ∈ lower, zone.Readable t) ∧ ∀ t ∈ upper, zone.Readable t then
        some
          { lower := (lower.map (1000 * ·)).getD 0
            upper := (upper.map (1000 * ·)).getD 0
            lowerUnbounded := lower.isNone
            upperUnbounded := upper.isNone }
      else none := by
  have hlo := @parseEnd_literal zone "MINVALUE".toList (.inl rfl) lower
  have hhi := @parseEnd_literal zone "MAXVALUE".toList (.inr rfl) upper
  have hindex : indexOf boundSep (literal zone "MINVALUE".toList lower ++
      (boundSep ++ literal zone "MAXVALUE".toList upper)) = some (literal zone "MINVALUE".toList lower).length :=
    indexOf_append (not_mem_literal (.inl rfl) lower)
  rw [Bound.text]
  generalize literal zone "MINVALUE".toList lower = lo at *
  generalize literal zone "MAXVALUE".toList upper = hi at *
  have hinner := dropLast_drop_left boundLead (lo ++ (boundSep ++ hi)) ')'
  rw [List.append_assoc, List.append_assoc] at hinner
  have hshape : ¬ (¬ boundLead <+: boundLead ++ (lo ++ (boundSep ++ (hi ++ [')']))) ∨
      ¬ [')'] <:+ boundLead ++ (lo ++ (boundSep ++ (hi ++ [')'])))) := by
    rw [not_or, not_not, not_not]
    refine ⟨List.prefix_append _ _, boundLead ++ (lo ++ (boundSep ++ hi)), ?_⟩
    simp only [List.append_assoc]
  rw [parsePartitionBound, if_neg hshape]
  simp only [hinner]
  rw [hindex]
  simp only [Option.bind_eq_bind, Option.bind_some, List.take_left, ← List.drop_drop, List.drop_left, hlo, hhi]
  by_cases hl : ∀ t ∈ lower, zone.Readable t
  · by_cases hu : ∀ t ∈ upper, zone.Readable t
    · rw [if_pos hl, if_pos hu, if_pos ⟨hl, hu⟩]
      simp
    · rw [if_pos hl, if_neg hu, if_neg fun h => hu h.2]
      simp
  · have hboth : ¬ ((∀ t ∈ lower, zone.Readable t) ∧ ∀ t ∈ upper, zone.Readable t) := fun h => hl h.1
    rw [if_neg hl, if_neg hboth, Option.bind_none]

lemma parsePartitionBound_eq_some {zone : TimeZone} {b : Bound} {v : PartitionBound}
    (h : parsePartitionBound (b.text zone) = some v) :
    ∃ lower upper, b = .range lower upper ∧ v.lowerUnbounded = lower.isNone ∧ v.upperUnbounded = upper.isNone ∧
      v.lower = (lower.map (1000 * ·)).getD 0 ∧ v.upper = (upper.map (1000 * ·)).getD 0 := by
  cases b with
  | default => cases h
  | range lower upper =>
    rw [parsePartitionBound_range] at h
    split at h
    · cases h
      exact ⟨lower, upper, rfl, rfl, rfl, rfl, rfl⟩
    · cases h

lemma eq_of_getD {b b' : Option ℤ} (hnone : b.isNone = b'.isNone)
    (h : (b.map (1000 * ·)).getD 0 = (b'.map (1000 * ·)).getD 0) : b = b' := by
  cases b <;> cases b' <;> simp_all

/-- **Bounds go through their text, in the time zone of any session.** A range with timestamps of the years 1 to 9999
and offsets of whole minutes, or with no bound on a side, is read as it is, and another one is refused; and texts that
are read as the same bounds, be it in two zones, are texts of the same range. -/
theorem partition_bounds_round_trip :
    (∀ (zone : TimeZone) (lower upper : Option ℤ),
      parsePartitionBound ((Bound.range lower upper).text zone) =
        if (∀ t ∈ lower, zone.Readable t) ∧ ∀ t ∈ upper, zone.Readable t then
          some
            { lower := (lower.map (1000 * ·)).getD 0
              upper := (upper.map (1000 * ·)).getD 0
              lowerUnbounded := lower.isNone
              upperUnbounded := upper.isNone }
        else none) ∧
    ∀ (zone zone' : TimeZone) (b b' : Bound) (v : PartitionBound), parsePartitionBound (b.text zone) = some v →
      parsePartitionBound (b'.text zone') = some v → b = b' := by
  refine ⟨fun zone lower upper => parsePartitionBound_range, fun zone zone' b b' v h h' => ?_⟩
  obtain ⟨lower, upper, rfl, hl, hu, hlo, hup⟩ := parsePartitionBound_eq_some h
  obtain ⟨lower', upper', rfl, hl', hu', hlo', hup'⟩ := parsePartitionBound_eq_some h'
  rw [eq_of_getD (hl.symm.trans hl') (hlo.symm.trans hlo'), eq_of_getD (hu.symm.trans hu') (hup.symm.trans hup')]

end Sn360Es.Worker
