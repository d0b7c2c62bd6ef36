import Mathlib
import Sn360Es.Lib.Cut
import Sn360Es.Worker.PartitionBound

/-!
# Partition maintenance (`internal/service/worker/partition_worker.go`, `cmd/sn360-es/wire_partitions.go`)

A run of the job visits its tables one after another. For each it lists the partitions, creates those of the current
month and of the months ahead that it does not find by name, and drops those that end before its retention.

* `Catalogue` — the relations of the database, with what Postgres keeps true of them;
* `Turn`, `turn_of_reconcile` — what the visit of a table does when it returns nil;
* `Turns`, `turns_of_run` — a run that returns nil is one turn after another;
* `retained_partitions_stay` — no number of runs, whatever fails in them, takes what is within the retention;
* `maintenance_complete` — after a run that returns nil every month ahead has its partitions and the expired ones, and
  no others, are gone, when no such month finds its name taken and no expired partition has a capital letter in its
  name;
* `window_survives_failures` — the months ahead stay, whatever the runs that follow do.
-/

namespace Sn360Es.Worker

open Lib Calendar GoTime

/-! ### Names -/

inductive NameError where
  | invalidLength (name : List Char)
  | invalidCharacter (name : List Char) (r : Char)
  | badStart (name : List Char)
  deriving DecidableEq, Repr

def isNameChar (r : Char) : Bool :=
  ('a' ≤ r && r ≤ 'z') || ('A' ≤ r && r ≤ 'Z') || ('0' ≤ r && r ≤ '9') || r == '_'

def startsWithLetterOrUnderscore : List Char → Bool
  | [] => false
  | r :: _ => r == '_' || ('a' ≤ r && r ≤ 'z') || ('A' ≤ r && r ≤ 'Z')

/-- The length counts bytes. -/
def sanitizePartitionName (name : List Char) : Except NameError (List Char) :=
  let len := (name.map Char.utf8Size).sum
  if len = 0 ∨ 63 < len then .error (.invalidLength name)
  else
    match name.find? (!isNameChar ·) with
    | some r => .error (.invalidCharacter name r)
    | none => if startsWithLetterOrUnderscore name then .ok (name.map Char.toLower) else .error (.badStart name)

/-! ### The database -/

/-- A relation, and if it is attached to a partitioned one, to which and with which bound. -/
structure Relation where
  name : List Char
  partOf : Option (List Char × Bound) := none
  deriving DecidableEq, Repr

namespace Bound

/-- The instants of a range; the default partition has those that are in no range. -/
def Has : Bound → ℤ → Prop
  | range lower upper, x => (∀ l ∈ lower, l ≤ x) ∧ ∀ u ∈ upper, x < u
  | default, _ => False

/-- Postgres refuses two partitions with a common instant, and a second default one. -/
def Disjoint : Bound → Bound → Prop
  | default, default => False
  | b, c => ∀ x, ¬ (b.Has x ∧ c.Has x)

/-- The check for a new range. -/
def overlaps (lower upper : ℤ) : Bound → Bool
  | range lower' upper' => upper'.all (lower < ·) && lower'.all (· < upper)
  | default => false

variable {b c : Bound} {lower upper : ℤ}

lemma Disjoint.symm (h : b.Disjoint c) : c.Disjoint b := by
  match b, c, h with
  | range _ _, range _ _, h => exact fun x hx => h x hx.symm
  | range _ _, default, h => exact fun x hx => h x hx.symm
  | default, range _ _, h => exact fun x hx => h x hx.symm

lemma Disjoint.not_has {x : ℤ} (h : b.Disjoint c) (hb : b.Has x) : ¬ c.Has x := by
  intro hc
  match b, c, h, hb, hc with
  | range _ _, range _ _, h, hb, hc => exact h x ⟨hb, hc⟩

lemma not_mem_of_not_overlaps {x : ℤ} (h : b.overlaps lower upper = false) (hx : lower ≤ x ∧ x < upper) :
    ¬ b.Has x := by
  intro hb
  cases b with
  | default => exact hb
  | range lower' upper' =>
    have hover : (range lower' upper').overlaps lower upper = true := by
      rw [overlaps, Bool.and_eq_true, Option.all_eq_true, Option.all_eq_true]
      constructor
      · intro u hu
        have := hb.2 u hu
        exact decide_eq_true (by omega)
      · intro l hl
        have := hb.1 l hl
        exact decide_eq_true (by omega)
    rw [hover] at h
    exact Bool.false_ne_true h.symm

/-- A range that has the start of the new one overlaps with it. -/
lemma overlaps_of_has (hlt : lower < upper) (hb : b.Has lower) : b.overlaps lower upper = true := by
  cases b with
  | default => exact hb.elim
  | range lower' upper' =>
    rw [overlaps, Bool.and_eq_true, Option.all_eq_true, Option.all_eq_true]
    constructor
    · intro u hu
      exact decide_eq_true (hb.2 u hu)
    · intro l hl
      have := hb.1 l hl
      exact decide_eq_true (by omega)

end Bound

/-- Two relations that Postgres keeps beside each other. -/
def Relation.Apart (r s : Relation) : Prop :=
  ∀ p b c, r.partOf = some (p, b) → s.partOf = some (p, c) → b.Disjoint c

instance : Std.Symm Relation.Apart where
  symm _ _ h p b c hb hc := (h p c b hc hb).symm

/-- `pg_class` and `pg_inherits`. The partitions of a table have no partitions of their own. -/
structure Catalogue where
  rels : List Relation
  nodup : (rels.map Relation.name).Nodup
  disjoint : rels.Pairwise Relation.Apart

/-- The database, with the statements to come: `true` for one that fails, for whatever reason. -/
structure Db where
  catalogue : Catalogue
  faults : List Bool

namespace Catalogue

variable (c : Catalogue)

def Taken (name : List Char) : Prop := name ∈ c.rels.map Relation.name

instance (name : List Char) : Decidable (c.Taken name) := inferInstanceAs (Decidable (_ ∈ _))

/-- A partition of `parent` has the name. -/
def Attached (name parent : List Char) : Prop := ∃ r ∈ c.rels, r.name = name ∧ ∃ q ∈ r.partOf, q.1 = parent

instance (name parent : List Char) : Decidable (c.Attached name parent) :=
  inferInstanceAs (Decidable (∃ r ∈ c.rels, _ ∧ ∃ q ∈ r.partOf, _))

/-- A partition of `parent` overlaps with the new range. -/
def Overlap (parent : List Char) (lower upper : ℤ) : Prop :=
  ∃ r ∈ c.rels, ∃ q ∈ r.partOf, q.1 = parent ∧ q.2.overlaps lower upper = true

instance (parent : List Char) (lower upper : ℤ) : Decidable (c.Overlap parent lower upper) :=
  inferInstanceAs (Decidable (∃ r ∈ c.rels, ∃ q ∈ r.partOf, _ ∧ _))

/-- `CREATE TABLE … PARTITION OF`, where the name is free and nothing overlaps. -/
def attach (name parent : List Char) (lower upper : ℤ) (hname : ¬ c.Taken name)
    (hover : ¬ c.Overlap parent lower upper) : Catalogue where
  rels := c.rels ++ [⟨name, some (parent, .range (some lower) (some upper))⟩]
  nodup := by
    rw [List.map_append, List.nodup_append]
    refine ⟨c.nodup, List.nodup_singleton _, ?_⟩
    rintro a ha b hb rfl
    rw [List.map_singleton, List.mem_singleton] at hb
    subst hb
    exact hname ha
  disjoint := by
    rw [List.pairwise_append]
    refine ⟨c.disjoint, List.pairwise_singleton _ _, ?_⟩
    intro r hr s hs p b b' hb hb'
    rw [List.mem_singleton.mp hs, Option.some.injEq, Prod.mk.injEq] at hb'
    obtain ⟨rfl, rfl⟩ := hb'
    have hno : b.overlaps lower upper = false := by
      rw [← Bool.not_eq_true]
      exact fun h => hover ⟨r, hr, _, hb, rfl, h⟩
    cases b <;> exact fun x hx => Bound.not_mem_of_not_overlaps hno (by simpa [Bound.Has] using hx.2) hx.1

/-- `DROP TABLE`. -/
def remove (name : List Char) : Catalogue where
  rels := c.rels.filter (·.name ≠ name)
  nodup := c.nodup.sublist (List.filter_sublist.map _)
  disjoint := c.disjoint.sublist List.filter_sublist

end Catalogue

/-! ### The partition manager -/

inductive ManagerError where
  | invalidParent (e : NameError)
  | invalidPartition (e : NameError)
  | statement
  deriving DecidableEq, Repr

/-- Whether the next statements go through. -/
def Db.statement (db : Db) : Bool × Db := (db.faults.headD false, { db with faults := db.faults.tail })

/-- `Partition`, without the lower bound, which the job does not use. -/
structure Partition where
  name : List Char
  upper : ℤ := 0
  legacy : Bool := false
  deriving DecidableEq, Repr

def legacyTail : List Char := "_legacy".toList

/-- One row of `ListPartitions`. What cannot be parsed is legacy, and so is what has no end on one side. -/
def listed (zone : TimeZone) (name : List Char) (b : Bound) : Partition :=
  match parsePartitionBound (b.text zone) with
  | none => { name, legacy := true }
  | some bound =>
    { name
      upper := bound.upper
      legacy := legacyTail <:+ name || bound.lowerUnbounded || bound.upperUnbounded }

/-- `ListPartitions`. -/
def listPartitions (zone : TimeZone) (parent : List Char) (db : Db) : Except ManagerError (List Partition) × Db :=
  match sanitizePartitionName parent with
  | .error e => (.error (.invalidParent e), db)
  | .ok p =>
    let (failed, db) := db.statement
    if failed ∨ ¬ db.catalogue.Taken p then (.error .statement, db)
    else
      (.ok (db.catalogue.rels.filterMap fun r =>
        r.partOf.bind fun q => if q.1 = p then some (listed zone r.name q.2) else none), db)

/-- `CreatePartition`. A relation of that name, whatever it is, makes `IF NOT EXISTS` do nothing; a bound is written in
whole seconds. -/
def createPartition (parent partition : List Char) (lower upper : ℤ) (db : Db) : Option ManagerError × Db :=
  match sanitizePartitionName parent with
  | .error e => (some (.invalidParent e), db)
  | .ok p =>
    match sanitizePartitionName partition with
    | .error e => (some (.invalidPartition e), db)
    | .ok name =>
      let (failed, db) := db.statement
      if failed then (some .statement, db)
      else if hname : db.catalogue.Taken name then (none, db)
      else if ¬ db.catalogue.Taken p then (some .statement, db)
      else if hover : db.catalogue.Overlap p (lower / second * 1000000) (upper / second * 1000000) then
        (some .statement, db)
      else (none, { db with catalogue := db.catalogue.attach name p _ _ hname hover })

/-- `DropPartition`. `DETACH PARTITION` wants a partition of the parent; both statements are one transaction. -/
def dropPartition (parent partition : List Char) (db : Db) : Option ManagerError × Db :=
  match sanitizePartitionName parent with
  | .error e => (some (.invalidParent e), db)
  | .ok p =>
    match sanitizePartitionName partition with
    | .error e => (some (.invalidPartition e), db)
    | .ok name =>
      let (failed, db) := db.statement
      if failed ∨ ¬ db.catalogue.Attached name p then (some .statement, db)
      else (none, { db with catalogue := db.catalogue.remove name })

/-! ### The job -/

/-- `PartitionedTable`. -/
structure PartitionedTable where
  parent : List Char
  namePrefix : List Char
  retentionMonths : ℤ
  deriving DecidableEq, Repr

/-- `PartitionMaintenanceJob`, as `NewPartitionMaintenanceJob` builds it. -/
structure PartitionMaintenanceJob where
  lookaheadMonths : ℤ
  tables : List PartitionedTable
  lookahead_pos : 0 < lookaheadMonths

/-- `PartitionMaintenanceConfig`. -/
structure PartitionMaintenanceConfig where
  interval : ℤ
  lookaheadMonths : ℤ
  tables : List PartitionedTable
  deriving DecidableEq, Repr

/-- The first entry without a parent or without a prefix. -/
def checkTables : ℕ → List PartitionedTable → Option String
  | _, [] => none
  | i, t :: ts =>
    if t.parent = [] then some ("worker: tables[" ++ toString i ++ "].Parent is empty")
    else if t.namePrefix = [] then some ("worker: tables[" ++ toString i ++ "].NamePrefix is empty")
    else checkTables (i + 1) ts

lemma PartitionMaintenanceConfig.lookahead_pos (cfg : PartitionMaintenanceConfig) :
    0 < if cfg.lookaheadMonths ≤ 0 then 3 else cfg.lookaheadMonths := by
  split_ifs <;> omega

/-- `NewPartitionMaintenanceJob`, with a manager. -/
def newPartitionMaintenanceJob (cfg : PartitionMaintenanceConfig) : Except String PartitionMaintenanceJob :=
  if cfg.interval ≤ 0 then .error "worker: partition interval must be > 0"
  else if cfg.tables = [] then .error "worker: partition tables is required (empty slice)"
  else
    match checkTables 0 cfg.tables with
    | some e => .error e
    | none =>
      .ok
        { lookaheadMonths := if cfg.lookaheadMonths ≤ 0 then 3 else cfg.lookaheadMonths
          tables := cfg.tables
          lookahead_pos := cfg.lookahead_pos }

inductive RunError where
  | ctx
  | list (e : ManagerError)
  | create (name : List Char) (e : ManagerError)
  | drop (name : List Char) (e : ManagerError)
  deriving DecidableEq, Repr

/-- A day, in nanoseconds. -/
def nsDay : ℤ := 86400 * second

/-- The first instant of the month of `t`. -/
def monthStart (t : ℤ) : ℤ := monthDay (monthOf (t / nsDay)) * nsDay

/-- `AddDate(0, months, 0)`. A day that the month does not have is one of the next month. -/
def addDate (t months : ℤ) : ℤ :=
  let n := monthOf (t / nsDay)
  t + (monthDay (n + months) - monthDay n) * nsDay

/-- A year as `2006` has it. -/
def yearText (y : ℤ) : List Char := (if y < 0 then ['-'] else []) ++ pad 4 y.natAbs

/-- A month as `2006_01` has it. -/
def monthText (n : ℤ) : List Char := yearText (n / 12) ++ '_' :: pad 2 (n % 12 + 1).toNat

/-- `Format("2006_01")`. -/
def formatMonth (t : ℤ) : List Char := monthText (monthOf (t / nsDay))

namespace PartitionMaintenanceJob

variable (zone : TimeZone) (now : ℤ) (t : PartitionedTable)

/-- The months ahead, where `existing` are the names of the partitions. -/
def createLoop (existing : List (List Char)) : List ℕ → Db → Option RunError × Db
  | [], db => (none, db)
  | offset :: offsets, db =>
    let lower := addDate (monthStart now) offset
    let upper := addDate lower 1
    let name := t.namePrefix ++ '_' :: formatMonth lower
    if existing.any (· = name) then createLoop existing offsets db
    else
      match createPartition t.parent name lower upper db with
      | (some e, db) => (some (.create name e), db)
      | (none, db) => createLoop existing offsets db

/-- The retention. -/
def dropLoop (cutoff : ℤ) : List Partition → Db → Option RunError × Db
  | [], db => (none, db)
  | p :: ps, db =>
    if p.legacy ∨ cutoff < p.upper then dropLoop cutoff ps db
    else
      match dropPartition t.parent p.name db with
      | (some e, db) => (some (.drop p.name e), db)
      | (none, db) => dropLoop cutoff ps db

variable (j : PartitionMaintenanceJob)

def reconcile (db : Db) : Option RunError × Db :=
  match listPartitions zone t.parent db with
  | (.error e, db) => (some (.list e), db)
  | (.ok existing, db) =>
    match createLoop now t (existing.map Partition.name) (List.range (j.lookaheadMonths.toNat + 1)) db with
    | (some e, db) => (some e, db)
    | (none, db) =>
      if t.retentionMonths ≤ 0 then (none, db)
      else dropLoop t (addDate (monthStart now) (-t.retentionMonths)) (sortBy Partition.upper existing) db

/-- The loop of `Run`: an error of a table is kept, and the next table has its turn. -/
def runTables : List PartitionedTable → Option RunError → Db → Option RunError × Db
  | [], firstErr, db => (firstErr, db)
  | t :: ts, firstErr, db =>
    let (cancelled, db) := db.statement
    if cancelled then (some .ctx, db)
    else
      let (err, db) := reconcile zone now t j db
      runTables ts (firstErr <|> err) db

def run (db : Db) : Option RunError × Db := j.runTables zone now j.tables none db

end PartitionMaintenanceJob

/-! ### Months -/

/-- The start of a month, in nanoseconds. -/
def monthNs (n : ℤ) : ℤ := monthDay n * nsDay

/-- The start of a month, in microseconds. -/
def monthUs (n : ℤ) : ℤ := monthDay n * 86400000000

def monthBound (n : ℤ) : Bound := .range (some (monthUs n)) (some (monthUs (n + 1)))

def monthName (lead : List Char) (n : ℤ) : List Char := lead ++ '_' :: monthText n

lemma monthOf_monthNs (n : ℤ) : monthOf (monthNs n / nsDay) = n := by
  rw [monthNs, Int.mul_ediv_cancel _ (by decide), monthOf_monthDay]

lemma addDate_monthNs (n k : ℤ) : addDate (monthNs n) k = monthNs (n + k) := by
  rw [addDate]
  simp only [monthOf_monthNs]
  rw [monthNs, monthNs, Int.sub_mul]
  omega

lemma monthNs_seconds (n : ℤ) : monthNs n / second * 1000000 = monthUs n := by
  unfold monthNs monthUs nsDay second
  omega

lemma monthUs_lt_iff {m n : ℤ} : monthUs m < monthUs n ↔ m < n := by
  have h := monthDay_lt_iff (m := m) (n := n)
  unfold monthUs
  omega

lemma monthUs_le_iff {m n : ℤ} : monthUs m ≤ monthUs n ↔ m ≤ n := by
  have h := monthDay_le_iff (m := m) (n := n)
  unfold monthUs
  omega

lemma monthBound_has_iff {n x : ℤ} : (monthBound n).Has x ↔ monthUs n ≤ x ∧ x < monthUs (n + 1) := by
  simp [monthBound, Bound.Has]

/-- An instant is in one month only. -/
lemma month_eq {m n x : ℤ} (hm : (monthBound m).Has x) (hn : (monthBound n).Has x) : m = n := by
  rw [monthBound_has_iff] at hm hn
  have h₁ := monthUs_lt_iff.mp (hm.1.trans_lt hn.2)
  have h₂ := monthUs_lt_iff.mp (hn.1.trans_lt hm.2)
  omega

lemma not_mem_pad {w n : ℕ} : '_' ∉ pad w n := by
  intro h
  exact absurd (isDigit_of_mem_pad _ h) (by decide)

lemma map_toLower_pad {w n : ℕ} : (pad w n).map Char.toLower = pad w n := by
  rw [List.map_congr_left (g := id), List.map_id]
  intro c hc
  have hd := isDigit_of_mem_pad c hc
  apply Char.toLower_eq_of_not_isUpper
  intro hu
  simp only [isDigit, Char.isUpper, Bool.and_eq_true, decide_eq_true_eq] at hd hu
  exact absurd (UInt32.le_trans hu.1 hd.2) (by decide)

lemma map_toLower_monthText (n : ℤ) : (monthText n).map Char.toLower = monthText n := by
  unfold monthText yearText
  rw [List.map_append, List.map_append, List.map_cons, map_toLower_pad, map_toLower_pad]
  split_ifs <;> rfl

lemma not_mem_yearText {y : ℤ} : '_' ∉ yearText y := by
  unfold yearText
  rw [List.mem_append, not_or]
  refine ⟨?_, not_mem_pad⟩
  split_ifs <;> decide

lemma yearText_injective {y z : ℤ} (h : yearText y = yearText z) : y = z := by
  have hsign : ∀ {w n m : ℕ}, '-' :: pad w n ≠ pad w m := by
    intro w n m heq
    have hmem : '-' ∈ pad w m := heq ▸ List.mem_cons_self
    exact absurd (isDigit_of_mem_pad _ hmem) (by decide)
  unfold yearText at h
  split_ifs at h with hy hz hz
  · have := pad_injective (List.cons_injective h)
    omega
  · exact absurd h hsign
  · exact absurd h.symm hsign
  · have := pad_injective h
    omega

/-- **The name of a month is the name of one month**, with any prefix. -/
lemma monthName_injective {lead lead' : List Char} {m n : ℤ} (h : monthName lead m = monthName lead' n) : m = n := by
  have hsplit : ∀ (lead : List Char) (n : ℤ),
      monthName lead n = (lead ++ '_' :: yearText (n / 12)) ++ '_' :: pad 2 (n % 12 + 1).toNat := by
    intro lead n
    simp [monthName, monthText]
  rw [hsplit, hsplit] at h
  obtain ⟨hyear, hmonth⟩ := GoStrings.append_sep_inj not_mem_pad not_mem_pad h
  have hy := yearText_injective (GoStrings.append_sep_inj not_mem_yearText not_mem_yearText hyear).2
  have hm := pad_injective hmonth
  omega

/-! ### What the manager does -/

lemma sanitizePartitionName_ok {name s : List Char} (h : sanitizePartitionName name = .ok s) :
    s = name.map Char.toLower := by
  unfold sanitizePartitionName at h
  simp only at h
  split at h
  · cases h
  · split at h
    · cases h
    · split at h
      · exact (Except.ok.inj h).symm
      · cases h

/-- A name in small letters stays as it is. -/
lemma map_toLower_of_sanitize {name s : List Char} (h : sanitizePartitionName name = .ok s) :
    s.map Char.toLower = s := by
  rw [sanitizePartitionName_ok h, List.map_map]
  apply List.map_congr_left
  intro c _
  exact Char.toLower_toLower_eq_toLower c

lemma map_toLower_monthName (lead : List Char) (n : ℤ) :
    (monthName lead n).map Char.toLower = monthName (lead.map Char.toLower) n := by
  rw [monthName, List.map_append, List.map_cons, map_toLower_monthText]
  rfl

/-- The names that the job creates tell the months apart as well, and the tables by their prefixes. -/
lemma sanitize_monthName_injective {lead lead' s : List Char} {m n : ℤ}
    (hm : sanitizePartitionName (monthName lead m) = .ok s) (hn : sanitizePartitionName (monthName lead' n) = .ok s) :
    m = n ∧ lead.map Char.toLower = lead'.map Char.toLower := by
  have h := (sanitizePartitionName_ok hm).symm.trans (sanitizePartitionName_ok hn)
  rw [map_toLower_monthName, map_toLower_monthName] at h
  have hmonth : m = n := monthName_injective h
  rw [hmonth] at h
  exact ⟨hmonth, List.append_cancel_right h⟩

@[simp] lemma Db.catalogue_statement (db : Db) : db.statement.2.catalogue = db.catalogue := rfl

section Manager

variable {zone : TimeZone} {parent : List Char} {db db' : Db}

lemma listPartitions_catalogue : (listPartitions zone parent db).2.catalogue = db.catalogue := by
  unfold listPartitions
  split
  · rfl
  · simp only
    split_ifs <;> rfl

lemma listPartitions_ok {existing : List Partition} (h : (listPartitions zone parent db).1 = .ok existing) :
    ∃ p, sanitizePartitionName parent = .ok p ∧
      ∀ q, q ∈ existing ↔ ∃ r ∈ db.catalogue.rels, ∃ b, r.partOf = some (p, b) ∧ listed zone r.name b = q := by
  unfold listPartitions at h
  split at h
  · cases h
  · next p hp =>
    refine ⟨p, hp, fun q => ?_⟩
    simp only at h
    split_ifs at h
    rw [← Except.ok.inj h, List.mem_filterMap]
    simp [Option.bind_eq_some_iff]

/-- What a creation does: nothing, or the partition of the month, under a name that was free. It returns nil in the
second case, and in the first if the name was taken. -/
lemma createPartition_cases (parent name : List Char) (n : ℤ) (db : Db) :
    let out := createPartition parent name (monthNs n) (monthNs (n + 1)) db
    (out.2.catalogue = db.catalogue ∧ (out.1 = none → ∃ p s, sanitizePartitionName parent = .ok p ∧
        sanitizePartitionName name = .ok s ∧ db.catalogue.Taken s)) ∨
      ∃ p s, sanitizePartitionName parent = .ok p ∧ sanitizePartitionName name = .ok s ∧ ¬ db.catalogue.Taken s ∧
        ¬ db.catalogue.Overlap p (monthUs n) (monthUs (n + 1)) ∧
        out.2.catalogue.rels = db.catalogue.rels ++ [⟨s, some (p, monthBound n)⟩] := by
  intro out
  simp only [out, createPartition]
  split
  · exact .inl ⟨rfl, fun h => by cases h⟩
  · next p hp =>
    split
    · exact .inl ⟨rfl, fun h => by cases h⟩
    · next s hs =>
      simp only [Db.catalogue_statement, monthNs_seconds]
      split
      · exact .inl ⟨rfl, fun h => by cases h⟩
      · split
        · next hname => exact .inl ⟨rfl, fun _ => ⟨p, s, hp, hs, hname⟩⟩
        · next hname =>
          split
          · exact .inl ⟨rfl, fun h => by cases h⟩
          · split
            · exact .inl ⟨rfl, fun h => by cases h⟩
            · next hover => exact .inr ⟨p, s, hp, hs, hname, hover, rfl⟩

/-- What a drop does: it fails and nothing else, or it takes the partition with the name in small letters. -/
lemma dropPartition_cases (parent name : List Char) (db : Db) :
    let out := dropPartition parent name db
    (out.2.catalogue = db.catalogue ∧ out.1 ≠ none) ∨
      ∃ p s, sanitizePartitionName parent = .ok p ∧ sanitizePartitionName name = .ok s ∧ db.catalogue.Attached s p ∧
        out.2.catalogue = db.catalogue.remove s := by
  intro out
  simp only [out, dropPartition]
  split
  · exact .inl ⟨rfl, Option.some_ne_none _⟩
  · next p hp =>
    split
    · exact .inl ⟨rfl, Option.some_ne_none _⟩
    · next s hs =>
      by_cases hf : db.statement.1 = true ∨ ¬ db.statement.2.catalogue.Attached s p
      · simp only [if_pos hf]
        exact .inl ⟨rfl, Option.some_ne_none _⟩
      · simp only [if_neg hf]
        rw [not_or, not_not] at hf
        exact .inr ⟨p, s, hp, hs, hf.2, rfl⟩

end Manager

/-! ### The turn of a table -/

/-- The month of the clock. -/
def currentMonth (now : ℤ) : ℤ := monthOf (now / nsDay)

lemma monthStart_eq (now : ℤ) : monthStart now = monthNs (currentMonth now) := rfl

section Turn

variable {zone : TimeZone} {now : ℤ} {t : PartitionedTable} {c c' : Catalogue}

/-- The table has a retention, and the relation is a partition of it that is bounded, not legacy, and ends at the cutoff
or before. -/
def Expired (zone : TimeZone) (now : ℤ) (t : PartitionedTable) (r : Relation) : Prop :=
  1 ≤ t.retentionMonths ∧ ∃ p l u, sanitizePartitionName t.parent = .ok p ∧
    r.partOf = some (p, .range (some l) (some u)) ∧ ¬ legacyTail <:+ r.name ∧ zone.Readable l ∧ zone.Readable u ∧
    u ≤ monthUs (currentMonth now - t.retentionMonths)

/-- The partition of a month that the job has created, under a name that was free. -/
def Created (t : PartitionedTable) (n : ℤ) (c : Catalogue) (r : Relation) : Prop :=
  ∃ p, sanitizePartitionName t.parent = .ok p ∧ sanitizePartitionName (monthName t.namePrefix n) = .ok r.name ∧
    ¬ c.Taken r.name ∧ r.partOf = some (p, monthBound n)

/-- **The retention goes by the true bounds**, where the code can read them. -/
lemma listed_expired {name : List Char} {b : Bound} {m : ℤ} :
    (listed zone name b).legacy = false ∧ (listed zone name b).upper ≤ monthNs m ↔
      ∃ l u, b = .range (some l) (some u) ∧ ¬ legacyTail <:+ name ∧ zone.Readable l ∧ zone.Readable u ∧
        u ≤ monthUs m := by
  have hns : monthNs m = 1000 * monthUs m := by
    unfold monthNs monthUs nsDay second
    omega
  cases b with
  | default =>
    have hnone : parsePartitionBound (Bound.text zone .default) = none := rfl
    simp [listed, hnone]
  | range lower upper =>
    rw [listed, parsePartitionBound_range]
    by_cases hread : (∀ l ∈ lower, zone.Readable l) ∧ ∀ u ∈ upper, zone.Readable u
    · rw [if_pos hread]
      cases lower with
      | none => simp
      | some l =>
        cases upper with
        | none => simp
        | some u =>
          have hl : zone.Readable l := hread.1 l rfl
          have hu : zone.Readable u := hread.2 u rfl
          have hle : 1000 * u ≤ monthNs m ↔ u ≤ monthUs m := by omega
          simp [hl, hu, hle]
    · rw [if_neg hread]
      constructor
      · rintro ⟨hleg, -⟩
        cases hleg
      · rintro ⟨l, u, hb, -, hl, hu, -⟩
        cases hb
        exact absurd ⟨fun x hx => by cases hx; exact hl, fun x hx => by cases hx; exact hu⟩ hread

lemma listed_name {name : List Char} {b : Bound} : (listed zone name b).name = name := by
  unfold listed
  split <;> rfl

/-- What the creation of months does to a catalogue. -/
structure Grown (now : ℤ) (t : PartitionedTable) (existing : List (List Char)) (offsets : List ℕ)
    (c c' : Catalogue) : Prop where
  kept : ∀ r ∈ c.rels, r ∈ c'.rels
  new : ∀ r ∈ c'.rels, r ∈ c.rels ∨ ∃ k ∈ offsets, Created t (currentMonth now + (k : ℕ)) c r
  made : ∀ k ∈ offsets, monthName t.namePrefix (currentMonth now + (k : ℕ)) ∈ existing ∨
    ∃ p s, sanitizePartitionName t.parent = .ok p ∧
      sanitizePartitionName (monthName t.namePrefix (currentMonth now + (k : ℕ))) = .ok s ∧
      (c.Taken s ∨ ⟨s, some (p, monthBound (currentMonth now + (k : ℕ)))⟩ ∈ c'.rels)

lemma Catalogue.Taken.of_mem {r : Relation} (h : r ∈ c.rels) : c.Taken r.name := List.mem_map_of_mem h

section Grown

variable {existing : List (List Char)} {k : ℕ} {ks : List ℕ}

/-- The month has its partition, by its name. -/
lemma Grown.skip (hk : monthName t.namePrefix (currentMonth now + (k : ℕ)) ∈ existing)
    (h : Grown now t existing ks c c') : Grown now t existing (k :: ks) c c' where
  kept := h.kept
  new r hr := (h.new r hr).imp_right fun ⟨k', hk', hcr⟩ => ⟨k', List.mem_cons_of_mem k hk', hcr⟩
  made k' hk' := by
    rcases List.mem_cons.mp hk' with rfl | hk'
    · exact .inl hk
    · exact h.made k' hk'

variable {p s : List Char} (hp : sanitizePartitionName t.parent = .ok p)
  (hs : sanitizePartitionName (monthName t.namePrefix (currentMonth now + (k : ℕ))) = .ok s)

include hp hs

/-- `IF NOT EXISTS` does nothing. -/
lemma Grown.taken (hname : c.Taken s) (h : Grown now t existing ks c c') : Grown now t existing (k :: ks) c c' where
  kept := h.kept
  new r hr := (h.new r hr).imp_right fun ⟨k', hk', hcr⟩ => ⟨k', List.mem_cons_of_mem k hk', hcr⟩
  made k' hk' := by
    rcases List.mem_cons.mp hk' with rfl | hk'
    · exact .inr ⟨p, s, hp, hs, .inl hname⟩
    · exact h.made k' hk'

/-- The partition of the month is created. -/
lemma Grown.created {c₁ : Catalogue} (hname : ¬ c.Taken s)
    (hrels : c₁.rels = c.rels ++ [⟨s, some (p, monthBound (currentMonth now + (k : ℕ)))⟩])
    (h : Grown now t existing ks c₁ c') : Grown now t existing (k :: ks) c c' where
  kept r hr := h.kept r (hrels ▸ List.mem_append_left _ hr)
  new r hr := by
    rcases h.new r hr with hr | ⟨k', hk', p', hp', hs', hfree, hpart⟩
    · rw [hrels, List.mem_append, List.mem_singleton] at hr
      rcases hr with hr | rfl
      · exact .inl hr
      · exact .inr ⟨k, List.mem_cons_self, p, hp, hs, hname, rfl⟩
    · refine .inr ⟨k', List.mem_cons_of_mem k hk', p', hp', hs', ?_, hpart⟩
      intro htaken
      apply hfree
      rw [Catalogue.Taken, hrels, List.map_append]
      exact List.mem_append_left _ htaken
  made k' hk' := by
    have hnew : ⟨s, some (p, monthBound (currentMonth now + (k : ℕ)))⟩ ∈ c'.rels := by
      apply h.kept
      rw [hrels]
      exact List.mem_append_right _ (List.mem_singleton_self _)
    rcases List.mem_cons.mp hk' with rfl | hk'
    · exact .inr ⟨p, s, hp, hs, .inr hnew⟩
    · rcases h.made k' hk' with hex | ⟨p', s', hp', hs', htaken | hmem⟩
      · exact .inl hex
      · refine .inr ⟨p', s', hp', hs', ?_⟩
        rw [Catalogue.Taken, hrels, List.map_append, List.mem_append, List.map_singleton, List.mem_singleton] at htaken
        rcases htaken with htaken | rfl
        · exact .inl htaken
        -- the partition that has just been made has the name, so it is the one of that month
        · rw [(sanitize_monthName_injective hs' hs).1]
          cases hp.symm.trans hp'
          exact .inr hnew
      · exact .inr ⟨p', s', hp', hs', .inr hmem⟩

end Grown

lemma grown_of_createLoop {existing : List (List Char)} {offsets : List ℕ} {db db' : Db}
    (h : PartitionMaintenanceJob.createLoop now t existing offsets db = (none, db')) :
    Grown now t existing offsets db.catalogue db'.catalogue := by
  induction offsets generalizing db with
  | nil =>
    cases h
    exact ⟨fun r hr => hr, fun r hr => .inl hr, by simp⟩
  | cons k ks ih =>
    simp only [PartitionMaintenanceJob.createLoop, monthStart_eq, addDate_monthNs, formatMonth, monthOf_monthNs] at h
    split at h
    · next hk => exact (ih h).skip (by simpa [monthName] using hk)
    · split at h
      · cases h
      · next db₁ hcreate =>
        have hcases := createPartition_cases t.parent
          (t.namePrefix ++ '_' :: monthText (currentMonth now + (k : ℕ))) (currentMonth now + (k : ℕ)) db
        simp only [hcreate] at hcases
        rcases hcases with ⟨hcat, htaken⟩ | ⟨p, s, hp, hs, hname, -, hrels⟩
        · obtain ⟨p, s, hp, hs, hname⟩ := htaken trivial
          have hgrown := ih h
          rw [hcat] at hgrown
          exact hgrown.taken hp hs hname
        · exact (ih h).created hp hs hname hrels

/-- What the retention does to a catalogue. -/
lemma mem_of_dropLoop {cutoff : ℤ} {ps : List Partition} {db db' : Db}
    (h : PartitionMaintenanceJob.dropLoop t cutoff ps db = (none, db')) (r : Relation) :
    r ∈ db'.catalogue.rels ↔ r ∈ db.catalogue.rels ∧
      ∀ q ∈ ps, q.legacy = false ∧ q.upper ≤ cutoff → q.name.map Char.toLower ≠ r.name := by
  induction ps generalizing db with
  | nil =>
    cases h
    simp
  | cons q ps ih =>
    simp only [PartitionMaintenanceJob.dropLoop] at h
    rw [List.forall_mem_cons]
    split at h
    · next hskip =>
      rw [ih h, and_congr_right_iff]
      intro _
      rw [iff_and_self]
      rintro - ⟨hleg, hup⟩
      rcases hskip with hskip | hskip
      · rw [hleg] at hskip
        exact absurd hskip Bool.false_ne_true
      · omega
    · next hskip =>
      have hexp : q.legacy = false ∧ q.upper ≤ cutoff := by
        rw [not_or, Bool.not_eq_true, not_lt] at hskip
        exact hskip
      split at h
      · cases h
      · next db₁ hdrop =>
        have hcases := dropPartition_cases t.parent q.name db
        simp only [hdrop] at hcases
        obtain ⟨-, hne⟩ | ⟨p, s, -, hs, -, hcat⟩ := hcases
        · exact absurd rfl hne
        rw [ih h, hcat, Catalogue.remove, List.mem_filter, sanitizePartitionName_ok hs, decide_eq_true_eq]
        constructor
        · rintro ⟨⟨hr, hne⟩, hall⟩
          exact ⟨hr, fun _ => hne.symm, hall⟩
        · rintro ⟨hr, hne, hall⟩
          exact ⟨⟨hr, (hne hexp).symm⟩, hall⟩

/-- **What the turn of a table does to the catalogue**, when it returns nil. -/
structure Turn (j : PartitionMaintenanceJob) (zone : TimeZone) (now : ℤ) (t : PartitionedTable)
    (c c' : Catalogue) : Prop where
  new : ∀ r ∈ c'.rels, r ∈ c.rels ∨ ∃ n, Created t n c r ∧ currentMonth now ≤ n ∧
    n ≤ currentMonth now + j.lookaheadMonths
  kept : ∀ r ∈ c.rels, r ∈ c'.rels ↔ ∀ e ∈ c.rels, Expired zone now t e → e.name.map Char.toLower ≠ r.name
  made : ∀ n, currentMonth now ≤ n → n ≤ currentMonth now + j.lookaheadMonths →
    ∃ p, sanitizePartitionName t.parent = .ok p ∧
      ((∃ r ∈ c.rels, ∃ b, r.partOf = some (p, b) ∧ r.name = monthName t.namePrefix n) ∨
        ∃ s, sanitizePartitionName (monthName t.namePrefix n) = .ok s ∧
          (c.Taken s ∨ (∃ e ∈ c.rels, Expired zone now t e ∧ e.name.map Char.toLower = s) ∨
            ⟨s, some (p, monthBound n)⟩ ∈ c'.rels))

/-- What the retention of a table does, if it has one. -/
lemma mem_of_retention {existing : List Partition} {p : List Char} {db db' : Db}
    (hp : sanitizePartitionName t.parent = .ok p)
    (hmem : ∀ q, q ∈ existing ↔ ∃ r ∈ c.rels, ∃ b, r.partOf = some (p, b) ∧ listed zone r.name b = q)
    (h : (if t.retentionMonths ≤ 0 then (none, db) else PartitionMaintenanceJob.dropLoop t
      (addDate (monthStart now) (-t.retentionMonths)) (sortBy Partition.upper existing) db) = (none, db'))
    (r : Relation) : r ∈ db'.catalogue.rels ↔ r ∈ db.catalogue.rels ∧
      ∀ e ∈ c.rels, Expired zone now t e → e.name.map Char.toLower ≠ r.name := by
  split at h
  · next hret =>
    cases h
    refine (and_iff_left ?_).symm
    rintro e _ ⟨hpos, -⟩
    omega
  · next hret =>
    rw [monthStart_eq, addDate_monthNs] at h
    rw [mem_of_dropLoop h, and_congr_right_iff]
    intro _
    constructor
    · rintro hall e he ⟨-, p', l, u, hp', hpart, hname, hl, hu, hle⟩
      cases hp.symm.trans hp'
      have hq := (hmem (listed zone e.name (.range (some l) (some u)))).mpr ⟨e, he, _, hpart, rfl⟩
      have hne := hall _ (mem_sortBy.mpr hq) (listed_expired.mpr ⟨l, u, rfl, hname, hl, hu, hle⟩)
      rwa [listed_name] at hne
    · intro hall q hq hexp
      obtain ⟨e, he, b, hpart, rfl⟩ := (hmem q).mp (mem_sortBy.mp hq)
      obtain ⟨l, u, rfl, hname, hl, hu, hle⟩ := listed_expired.mp hexp
      rw [listed_name]
      exact hall e he ⟨by omega, p, l, u, hp, hpart, hname, hl, hu, hle⟩

lemma turn_of_reconcile {j : PartitionMaintenanceJob} {db db' : Db}
    (h : j.reconcile zone now t db = (none, db')) : Turn j zone now t db.catalogue db'.catalogue := by
  unfold PartitionMaintenanceJob.reconcile at h
  split at h
  · cases h
  · next existing db₁ hlist =>
    have hcat : db₁.catalogue = db.catalogue := by
      rw [show db₁ = (listPartitions zone t.parent db).2 by rw [hlist], listPartitions_catalogue]
    obtain ⟨p, hp, hmem⟩ := listPartitions_ok (congrArg Prod.fst hlist)
    split at h
    · cases h
    · next db₂ hcreate =>
      have hgrown := grown_of_createLoop hcreate
      have hdrop := mem_of_retention hp hmem h
      rw [hcat] at hgrown
      refine ⟨?_, ?_, ?_⟩
      · intro r hr
        refine (hgrown.new r ((hdrop r).mp hr).1).imp_right ?_
        rintro ⟨k, hk, hcr⟩
        have hpos := j.lookahead_pos
        rw [List.mem_range] at hk
        exact ⟨_, hcr, by omega, by omega⟩
      · intro r hr
        rw [hdrop r]
        exact and_iff_right (hgrown.kept r hr)
      · intro n hlo hhi
        refine ⟨p, hp, ?_⟩
        obtain ⟨k, rfl⟩ : ∃ k : ℕ, n = currentMonth now + k := ⟨(n - currentMonth now).toNat, by omega⟩
        rcases hgrown.made k (List.mem_range.mpr (by omega)) with hex | ⟨p', s, hp', hs, htaken | hin⟩
        · obtain ⟨q, hq, hname⟩ := List.mem_map.mp hex
          obtain ⟨r, hr, b, hpart, rfl⟩ := (hmem q).mp hq
          rw [listed_name] at hname
          exact .inl ⟨r, hr, b, hpart, hname⟩
        · exact .inr ⟨s, hs, .inl htaken⟩
        · cases hp.symm.trans hp'
          refine .inr ⟨s, hs, .inr ?_⟩
          by_cases hdropped : ∀ e ∈ db.catalogue.rels, Expired zone now t e → e.name.map Char.toLower ≠ s
          · exact .inr ((hdrop _).mpr ⟨hin, hdropped⟩)
          · push Not at hdropped
            exact .inl hdropped

end Turn

/-! ### Coverage -/

/-- A range partition of `parent` has the instant. -/
def Catalogue.Covers (c : Catalogue) (parent : List Char) (x : ℤ) : Prop :=
  ∃ r ∈ c.rels, ∃ b, r.partOf = some (parent, b) ∧ b.Has x

/-- So for every instant of a month. -/
def Catalogue.Ranged (c : Catalogue) (parent : List Char) (n : ℤ) : Prop :=
  ∀ x, (monthBound n).Has x → c.Covers parent x

/-- A row of `parent` at the instant goes to the relation. -/
def Catalogue.Routes (c : Catalogue) (parent : List Char) (x : ℤ) (r : Relation) : Prop :=
  r ∈ c.rels ∧ ∃ b, r.partOf = some (parent, b) ∧ (b.Has x ∨ b = .default ∧ ¬ c.Covers parent x)

/-- The partitions that are named after a month cover that month. -/
def Catalogue.Named (c : Catalogue) (t : PartitionedTable) : Prop :=
  ∀ p, sanitizePartitionName t.parent = .ok p → ∀ r ∈ c.rels, ∀ b, r.partOf = some (p, b) →
    ∀ n, r.name = monthName t.namePrefix n → b = monthBound n

/-- No relation has the name that the job would create for the month. -/
def Catalogue.Free (c : Catalogue) (t : PartitionedTable) (n : ℤ) : Prop :=
  ∀ s, sanitizePartitionName (monthName t.namePrefix n) = .ok s → ¬ c.Taken s

/-- The expired partitions of the table have no capital letters in their names. -/
def Lower (zone : TimeZone) (now : ℤ) (t : PartitionedTable) (c : Catalogue) : Prop :=
  ∀ r ∈ c.rels, Expired zone now t r → r.name.map Char.toLower = r.name

section Coverage

variable {j : PartitionMaintenanceJob} {zone : TimeZone} {now : ℤ} {t t' : PartitionedTable} {c c' : Catalogue}
  {parent : List Char} {n x : ℤ} {r : Relation}

lemma exists_month (x : ℤ) : ∃ n, (monthBound n).Has x := by
  have hlow := monthDay_monthOf_le (x / 86400000000)
  have hhigh := lt_monthDay_monthOf_add_one (x / 86400000000)
  refine ⟨monthOf (x / 86400000000), monthBound_has_iff.mpr ?_⟩
  unfold monthUs
  omega

lemma Catalogue.eq_of_name {s : Relation} (hr : r ∈ c.rels) (hs : s ∈ c.rels) (h : r.name = s.name) : r = s :=
  List.inj_on_of_nodup_map c.nodup hr hs h

/-- **An instant that is covered is in exactly one partition.** -/
lemma Catalogue.Covers.existsUnique (h : c.Covers parent x) : ∃! r, c.Routes parent x r := by
  obtain ⟨r, hr, b, hpart, hx⟩ := h
  refine ⟨r, ⟨hr, b, hpart, .inl hx⟩, ?_⟩
  rintro s ⟨hs, b', hpart', hx' | ⟨-, hno⟩⟩
  · by_contra hne
    have hapart := c.disjoint.forall hr hs (Ne.symm hne)
    exact (hapart parent b b' hpart hpart').not_has hx hx'
  · exact absurd ⟨r, hr, b, hpart, hx⟩ hno

lemma not_expired_of_has {b : Bound} (hpart : r.partOf = some (parent, b)) (hb : b.Has x)
    (hx : monthUs (currentMonth now) ≤ x) : ¬ Expired zone now t r := by
  rintro ⟨hret, p, l, u, -, hpart', -, -, -, hle⟩
  cases hpart.symm.trans hpart'
  have hxu := hb.2 u rfl
  have hcut : monthUs (currentMonth now - t.retentionMonths) ≤ monthUs (currentMonth now) :=
    monthUs_le_iff.mpr (by omega)
  omega

/-- What the job creates does not expire in the same run. -/
lemma Created.not_expired (h : Created t' n c r) (hn : currentMonth now ≤ n) : ¬ Expired zone now t r := by
  obtain ⟨p, -, -, -, hpart⟩ := h
  have hstart : (monthBound n).Has (monthUs n) :=
    monthBound_has_iff.mpr ⟨le_rfl, monthUs_lt_iff.mpr (by omega)⟩
  exact not_expired_of_has hpart hstart (monthUs_le_iff.mpr hn)

end Coverage

section Turn

variable {j : PartitionMaintenanceJob} {zone : TimeZone} {now : ℤ} {t t' : PartitionedTable} {c c' : Catalogue}
  {parent : List Char} {n x : ℤ} {r : Relation} (h : Turn j zone now t c c')

include h

/-- **Exactly the expired partitions are dropped**, if their names have no capital letters. -/
lemma Turn.mem_iff (hlow : Lower zone now t c) (hr : r ∈ c.rels) : r ∈ c'.rels ↔ ¬ Expired zone now t r := by
  rw [h.kept r hr]
  constructor
  · intro hall hexp
    exact hall r hr hexp (hlow r hr hexp)
  · intro hexp e he hexp' hname
    rw [hlow e he hexp'] at hname
    exact hexp (Catalogue.eq_of_name he hr hname ▸ hexp')

lemma Turn.covers (hlow : Lower zone now t c) (hx : monthUs (currentMonth now) ≤ x)
    (hcov : c.Covers parent x) : c'.Covers parent x := by
  obtain ⟨r, hr, b, hpart, hb⟩ := hcov
  exact ⟨r, (h.mem_iff hlow hr).mpr (not_expired_of_has hpart hb hx), b, hpart, hb⟩

/-- A month that is not over keeps its partitions. -/
lemma Turn.keeps (hlow : Lower zone now t c) (hlo : currentMonth now ≤ n) (hn : c.Ranged parent n) :
    c'.Ranged parent n := by
  intro x hx
  exact h.covers hlow ((monthUs_le_iff.mpr hlo).trans (monthBound_has_iff.mp hx).1) (hn x hx)

lemma Turn.named (hnamed : c.Named t') : c'.Named t' := by
  intro p hp r hr b hpart n hname
  rcases h.new r hr with hr | ⟨m, ⟨p', -, hs, -, hpart'⟩, -⟩
  · exact hnamed p hp r hr b hpart n hname
  · cases hpart.symm.trans hpart'
    have hlower := sanitizePartitionName_ok hs
    rw [map_toLower_monthName, hname] at hlower
    rw [monthName_injective hlower]

/-- A month with a free name gets its partition. -/
lemma Turn.ranged (hlow : Lower zone now t c) (hnamed : c.Named t)
    (hparent : sanitizePartitionName t.parent = .ok parent) (hlo : currentMonth now ≤ n)
    (hhi : n ≤ currentMonth now + j.lookaheadMonths) (hn : c.Ranged parent n ∨ c.Free t n) : c'.Ranged parent n := by
  rcases hn with hn | hfree
  · exact h.keeps hlow hlo hn
  · obtain ⟨p, hp, hmade⟩ := h.made n hlo hhi
    cases hparent.symm.trans hp
    rcases hmade with ⟨r, hr, b, hpart, hname⟩ | ⟨s, hs, htaken | ⟨e, he, hexp, hname⟩ | hmem⟩
    · apply h.keeps hlow hlo
      intro x hx
      exact ⟨r, hr, b, hpart, hnamed parent hparent r hr b hpart n hname ▸ hx⟩
    · exact absurd htaken (hfree s hs)
    · rw [hlow e he hexp] at hname
      exact absurd (hname ▸ Catalogue.Taken.of_mem he) (hfree s hs)
    · exact fun x hx => ⟨_, hmem, _, rfl, hx⟩

/-- A month gets its partitions in no other way. -/
lemma Turn.ranged_or_free (hn : c'.Ranged parent n) :
    c.Ranged parent n ∨ sanitizePartitionName t.parent = .ok parent ∧ c.Free t n := by
  by_contra hno
  rw [not_or] at hno
  apply hno.1
  intro x hx
  obtain ⟨r, hr, b, hpart, hb⟩ := hn x hx
  rcases h.new r hr with hr | ⟨m, ⟨p, hp, hs, hfree, hpart'⟩, -⟩
  · exact ⟨r, hr, b, hpart, hb⟩
  · cases hpart.symm.trans hpart'
    cases month_eq hb hx
    refine absurd ⟨hp, ?_⟩ hno.2
    intro s hs'
    cases hs.symm.trans hs'
    exact hfree

end Turn

/-! ### A run -/

/-- The tables, each with the catalogue before its turn. -/
def PartitionMaintenanceJob.turns (j : PartitionMaintenanceJob) (zone : TimeZone) (now : ℤ) :
    List PartitionedTable → Db → List (PartitionedTable × Catalogue)
  | [], _ => []
  | t :: ts, db => (t, db.catalogue) :: j.turns zone now ts (j.reconcile zone now t db.statement.2).2

/-- One turn after another. -/
inductive Turns (j : PartitionMaintenanceJob) (zone : TimeZone) (now : ℤ) :
    List (PartitionedTable × Catalogue) → Catalogue → Catalogue → Prop
  | nil (c : Catalogue) : Turns j zone now [] c c
  | cons {t : PartitionedTable} {c c₁ c' : Catalogue} {l : List (PartitionedTable × Catalogue)}
      (first : Turn j zone now t c c₁) (others : Turns j zone now l c₁ c') : Turns j zone now ((t, c) :: l) c c'

section Run

variable {j : PartitionMaintenanceJob} {zone : TimeZone} {now : ℤ}

/-- An error stays. -/
lemma runTables_some {e : RunError} {ts : List PartitionedTable} {db : Db} :
    (j.runTables zone now ts (some e) db).1 ≠ none := by
  induction ts generalizing db with
  | nil => exact Option.some_ne_none e
  | cons t ts ih =>
    rw [PartitionMaintenanceJob.runTables]
    simp only
    split
    · exact Option.some_ne_none _
    · exact ih

lemma map_fst_turns {ts : List PartitionedTable} {db : Db} : (j.turns zone now ts db).map Prod.fst = ts := by
  induction ts generalizing db with
  | nil => rfl
  | cons t ts ih => rw [PartitionMaintenanceJob.turns, List.map_cons, ih]

/-- **A run that returns nil is one turn after another.** -/
lemma turns_of_run {ts : List PartitionedTable} {db : Db} (h : (j.runTables zone now ts none db).1 = none) :
    Turns j zone now (j.turns zone now ts db) db.catalogue (j.runTables zone now ts none db).2.catalogue := by
  induction ts generalizing db with
  | nil => exact .nil _
  | cons t ts ih =>
    rw [PartitionMaintenanceJob.runTables] at h ⊢
    simp only at h ⊢
    split at h
    · cases h
    · next hctx =>
      rw [if_neg hctx]
      cases herr : (j.reconcile zone now t db.statement.2).1 with
      | some e =>
        rw [herr] at h
        exact absurd h runTables_some
      | none =>
        rw [herr] at h
        have hrec : j.reconcile zone now t db.statement.2 = (none, (j.reconcile zone now t db.statement.2).2) :=
          Prod.ext herr rfl
        have hturn := turn_of_reconcile hrec
        exact .cons hturn (ih h)

section Turns

variable {l : List (PartitionedTable × Catalogue)} {c c' : Catalogue} {parent : List Char} {n x : ℤ} {r : Relation}
  {q : PartitionedTable × Catalogue}

/-- What is new after a run has been created in it. -/
lemma Turns.new (h : Turns j zone now l c c') (hr : r ∈ c'.rels) :
    r ∈ c.rels ∨ ∃ t n c₀, Created t n c₀ r ∧ currentMonth now ≤ n := by
  induction h with
  | nil c => exact .inl hr
  | cons first _ ih =>
    rcases ih hr with hr | hcr
    · exact (first.new r hr).imp_right fun ⟨n, hcr, hn, _⟩ => ⟨_, n, _, hcr, hn⟩
    · exact .inr hcr

/-- The same for the catalogue at a turn: it has been created at an earlier one. -/
lemma Turns.new_at {R : PartitionedTable → PartitionedTable → Prop} (h : Turns j zone now l c c')
    (hR : (l.map Prod.fst).Pairwise R) (hq : q ∈ l) (hr : r ∈ q.2.rels) :
    r ∈ c.rels ∨ ∃ t n c₀, Created t n c₀ r ∧ currentMonth now ≤ n ∧ R t q.1 := by
  induction h with
  | nil c => cases hq
  | cons first _ ih =>
    rw [List.map_cons, List.pairwise_cons] at hR
    rcases List.mem_cons.mp hq with rfl | hq
    · exact .inl hr
    · rcases ih hR.2 hq with hr | hcr
      · exact (first.new r hr).imp_right fun ⟨n, hcr, hn, _⟩ => ⟨_, n, _, hcr, hn, hR.1 _ (List.mem_map_of_mem hq)⟩
      · exact .inr hcr

/-- A partition with a capital letter in its name stays, since it is dropped by another name. -/
lemma Turns.stays (h : Turns j zone now l c c') (hname : r.name.map Char.toLower ≠ r.name) (hr : r ∈ c.rels) :
    r ∈ c'.rels := by
  induction h with
  | nil c => exact hr
  | cons first _ ih =>
    apply ih
    rw [first.kept r hr]
    intro e _ _ heq
    rw [← heq, List.map_map] at hname
    apply hname
    apply List.map_congr_left
    intro d _
    exact Char.toLower_toLower_eq_toLower d

section Low

variable (hlow : ∀ q ∈ l, Lower zone now q.1 q.2)

include hlow

/-- **A run drops the partitions that are expired for one of its tables, and no others.** -/
lemma Turns.mem_iff (h : Turns j zone now l c c') (hr : r ∈ c.rels) :
    r ∈ c'.rels ↔ ¬ ∃ q ∈ l, Expired zone now q.1 r := by
  induction h with
  | nil c => simpa using hr
  | @cons t c c₁ c' l first others ih =>
    rw [List.forall_mem_cons] at hlow
    simp only [List.mem_cons, exists_eq_or_imp, not_or]
    have hfirst := first.mem_iff hlow.1 hr
    by_cases hexp : Expired zone now t r
    · refine iff_of_false ?_ fun hno => hno.1 hexp
      intro hr'
      rcases others.new hr' with hmem | ⟨t', n, c₀, hcr, hn⟩
      · exact hfirst.mp hmem hexp
      · exact hcr.not_expired hn hexp
    · rw [ih hlow.2 (hfirst.mpr hexp)]
      exact (and_iff_right hexp).symm

lemma Turns.keeps (h : Turns j zone now l c c') (hlo : currentMonth now ≤ n) (hn : c.Ranged parent n) :
    c'.Ranged parent n := by
  induction h with
  | nil c => exact hn
  | cons first _ ih =>
    rw [List.forall_mem_cons] at hlow
    exact ih hlow.2 (first.keeps hlow.1 hlo hn)

lemma Turns.keeps_at (h : Turns j zone now l c c') (hq : q ∈ l) (hlo : currentMonth now ≤ n)
    (hn : c.Ranged parent n) : q.2.Ranged parent n := by
  induction h with
  | nil c => cases hq
  | cons first _ ih =>
    rw [List.forall_mem_cons] at hlow
    rcases List.mem_cons.mp hq with rfl | hq
    · exact hn
    · exact ih hlow.2 hq (first.keeps hlow.1 hlo hn)

/-- **A month of the window has its partitions after a run**, if it had them, or could have its name, at the turn of
the table. -/
lemma Turns.ranged (h : Turns j zone now l c c') (hnamed : ∀ q ∈ l, c.Named q.1) (hlo : currentMonth now ≤ n)
    (hhi : n ≤ currentMonth now + j.lookaheadMonths) (hq : q ∈ l)
    (hparent : sanitizePartitionName q.1.parent = .ok parent) (hn : q.2.Ranged parent n ∨ q.2.Free q.1 n) :
    c'.Ranged parent n := by
  induction h with
  | nil c => cases hq
  | cons first others ih =>
    rw [List.forall_mem_cons] at hlow hnamed
    rcases List.mem_cons.mp hq with rfl | hq
    · exact others.keeps hlow.2 hlo (first.ranged hlow.1 hnamed.1 hparent hlo hhi hn)
    · exact ih hlow.2 (fun q hq => first.named (hnamed.2 q hq)) hq

end Low

lemma Turns.ranged_or_free (h : Turns j zone now l c c') (hn : c'.Ranged parent n) : c.Ranged parent n ∨
    ∃ q ∈ l, sanitizePartitionName q.1.parent = .ok parent ∧ q.2.Free q.1 n := by
  induction h with
  | nil c => exact .inl hn
  | cons first _ ih =>
    rcases ih hn with hn | ⟨q, hq, hfree⟩
    · rcases first.ranged_or_free hn with hn | hfree
      · exact .inl hn
      · exact .inr ⟨_, List.mem_cons_self, hfree⟩
    · exact .inr ⟨q, List.mem_cons_of_mem _ hq, hfree⟩

end Turns

/-! ### A second run -/

section Again

variable {t : PartitionedTable} {parent : List Char} {db : Db}

/-- A month that has its start in a partition is not created. -/
lemma createPartition_unchanged {name : List Char} {n : ℤ}
    (h : ∀ p, sanitizePartitionName parent = .ok p → db.catalogue.Covers p (monthUs n)) :
    (createPartition parent name (monthNs n) (monthNs (n + 1)) db).2.catalogue = db.catalogue := by
  rcases createPartition_cases parent name n db with ⟨hcat, -⟩ | ⟨p, s, hp, -, -, hover, -⟩
  · exact hcat
  · obtain ⟨r, hr, b, hpart, hb⟩ := h p hp
    refine absurd ⟨r, hr, _, hpart, rfl, ?_⟩ hover
    exact Bound.overlaps_of_has (monthUs_lt_iff.mpr (by omega)) hb

lemma createLoop_unchanged {existing : List (List Char)} {offsets : List ℕ}
    (h : ∀ p, sanitizePartitionName t.parent = .ok p → ∀ k ∈ offsets,
      db.catalogue.Covers p (monthUs (currentMonth now + (k : ℕ)))) :
    (PartitionMaintenanceJob.createLoop now t existing offsets db).2.catalogue = db.catalogue := by
  induction offsets generalizing db with
  | nil => rfl
  | cons k ks ih =>
    simp only [PartitionMaintenanceJob.createLoop, monthStart_eq, addDate_monthNs, formatMonth, monthOf_monthNs]
    split
    · exact ih fun p hp k' hk' => h p hp k' (List.mem_cons_of_mem k hk')
    · have hcat : (createPartition t.parent (t.namePrefix ++ '_' :: monthText (currentMonth now + (k : ℕ)))
          (monthNs (currentMonth now + (k : ℕ))) (monthNs (currentMonth now + (k : ℕ) + 1)) db).2.catalogue =
          db.catalogue :=
        createPartition_unchanged fun p hp => h p hp k List.mem_cons_self
      split
      · next e db₁ hcreate =>
        rw [hcreate] at hcat
        exact hcat
      · next db₁ hcreate =>
        rw [hcreate] at hcat
        simp only at hcat
        rw [ih, hcat]
        intro p hp k' hk'
        rw [hcat]
        exact h p hp k' (List.mem_cons_of_mem k hk')

lemma dropLoop_unchanged {cutoff : ℤ} {ps : List Partition}
    (h : ∀ q ∈ ps, ¬ (q.legacy = false ∧ q.upper ≤ cutoff)) :
    PartitionMaintenanceJob.dropLoop t cutoff ps db = (none, db) := by
  induction ps with
  | nil => rfl
  | cons q ps ih =>
    rw [List.forall_mem_cons] at h
    rw [PartitionMaintenanceJob.dropLoop, if_pos, ih h.2]
    by_contra hno
    rw [not_or, Bool.not_eq_true, not_lt] at hno
    exact h.1 hno

/-- **A table with all its months and without expired partitions is left as it is.** -/
lemma reconcile_unchanged
    (hcov : ∀ p, sanitizePartitionName t.parent = .ok p → ∀ n, currentMonth now ≤ n →
      n ≤ currentMonth now + j.lookaheadMonths → db.catalogue.Covers p (monthUs n))
    (hexp : ∀ r ∈ db.catalogue.rels, ¬ Expired zone now t r) :
    (j.reconcile zone now t db).2.catalogue = db.catalogue := by
  have hpos := j.lookahead_pos
  unfold PartitionMaintenanceJob.reconcile
  have hcat : (listPartitions zone t.parent db).2.catalogue = db.catalogue := listPartitions_catalogue
  split
  · next e db₁ hlist =>
    rw [hlist] at hcat
    exact hcat
  · next existing db₁ hlist =>
    rw [hlist] at hcat
    simp only at hcat
    obtain ⟨p, hp, hmem⟩ := listPartitions_ok (congrArg Prod.fst hlist)
    have hcreate : (PartitionMaintenanceJob.createLoop now t (existing.map Partition.name)
        (List.range (j.lookaheadMonths.toNat + 1)) db₁).2.catalogue = db.catalogue := by
      rw [createLoop_unchanged, hcat]
      intro p hp k hk
      rw [List.mem_range] at hk
      rw [hcat]
      exact hcov p hp _ (by omega) (by omega)
    split
    · next e db₂ hloop =>
      rw [hloop] at hcreate
      exact hcreate
    · next db₂ hloop =>
      rw [hloop] at hcreate
      split
      · exact hcreate
      · next hret =>
        rw [dropLoop_unchanged]
        · exact hcreate
        · intro q hq hq'
          obtain ⟨r, hr, b, hpart, rfl⟩ := (hmem q).mp (mem_sortBy.mp hq)
          rw [monthStart_eq, addDate_monthNs] at hq'
          obtain ⟨l, u, rfl, hname, hl, hu, hle⟩ := listed_expired.mp hq'
          exact hexp r hr ⟨by omega, p, l, u, hp, hpart, hname, hl, hu, hle⟩

lemma runTables_unchanged {ts : List PartitionedTable} {firstErr : Option RunError}
    (hcov : ∀ t ∈ ts, ∀ p, sanitizePartitionName t.parent = .ok p → ∀ n, currentMonth now ≤ n →
      n ≤ currentMonth now + j.lookaheadMonths → db.catalogue.Covers p (monthUs n))
    (hexp : ∀ t ∈ ts, ∀ r ∈ db.catalogue.rels, ¬ Expired zone now t r) :
    (j.runTables zone now ts firstErr db).2.catalogue = db.catalogue := by
  induction ts generalizing db firstErr with
  | nil => rfl
  | cons t ts ih =>
    rw [List.forall_mem_cons] at hcov hexp
    rw [PartitionMaintenanceJob.runTables]
    simp only
    split
    · rfl
    · have hcat : (j.reconcile zone now t db.statement.2).2.catalogue = db.catalogue :=
        reconcile_unchanged hcov.1 hexp.1
      rw [ih, hcat]
      · rw [hcat]
        exact hcov.2
      · rw [hcat]
        exact hexp.2

end Again

end Run

/-! ### Runs that fail -/

/-- At most some relations are gone, and at most others are new. -/
structure Change (drops creates : Relation → Prop) (c c' : Catalogue) : Prop where
  kept : ∀ r ∈ c.rels, ¬ drops r → r ∈ c'.rels
  new : ∀ r ∈ c'.rels, r ∈ c.rels ∨ creates r

/-- The partitions have no capital letters in their names. -/
def Catalogue.Small (c : Catalogue) : Prop :=
  ∀ r ∈ c.rels, ∀ q, r.partOf = some q → r.name.map Char.toLower = r.name

/-- The partition of a month from the current one on. -/
def IsMonth (now : ℤ) (t : PartitionedTable) (r : Relation) : Prop :=
  ∃ p n, sanitizePartitionName t.parent = .ok p ∧ sanitizePartitionName (monthName t.namePrefix n) = .ok r.name ∧
    r.partOf = some (p, monthBound n) ∧ currentMonth now ≤ n

section Change

variable {drops drops' creates creates' : Relation → Prop} {c c' c₁ : Catalogue}

lemma Change.refl : Change drops creates c c := ⟨fun _ hr _ => hr, fun _ hr => .inl hr⟩

lemma Change.trans (h : Change drops creates c c₁) (h' : Change drops creates c₁ c') : Change drops creates c c' where
  kept r hr hd := h'.kept r (h.kept r hr hd) hd
  new r hr := by
    rcases h'.new r hr with hr | hcr
    · exact h.new r hr
    · exact .inr hcr

lemma Change.mono (hd : ∀ r, drops r → drops' r) (hc : ∀ r, creates r → creates' r) (h : Change drops creates c c') :
    Change drops' creates' c c' where
  kept r hr hno := h.kept r hr fun hdrop => hno (hd r hdrop)
  new r hr := (h.new r hr).imp_right (hc r)

/-- What has small letters in its names keeps them. -/
lemma Change.small (h : Change drops creates c c') (hc : ∀ r, creates r → r.name.map Char.toLower = r.name)
    (hsmall : c.Small) : c'.Small := by
  intro r hr q hq
  rcases h.new r hr with hr | hcr
  · exact hsmall r hr q hq
  · exact hc r hcr

variable {zone : TimeZone} {now : ℤ} {t : PartitionedTable}

lemma IsMonth.small {r : Relation} (h : IsMonth now t r) : r.name.map Char.toLower = r.name := by
  obtain ⟨p, n, -, hs, -⟩ := h
  exact map_toLower_of_sanitize hs

lemma createLoop_change {existing : List (List Char)} {offsets : List ℕ} {db : Db} :
    Change (fun _ => False) (IsMonth now t) db.catalogue
      (PartitionMaintenanceJob.createLoop now t existing offsets db).2.catalogue := by
  induction offsets generalizing db with
  | nil => exact .refl
  | cons k ks ih =>
    simp only [PartitionMaintenanceJob.createLoop, monthStart_eq, addDate_monthNs, formatMonth, monthOf_monthNs]
    split
    · exact ih
    · have hstep : Change (fun _ => False) (IsMonth now t) db.catalogue
          (createPartition t.parent (t.namePrefix ++ '_' :: monthText (currentMonth now + (k : ℕ)))
            (monthNs (currentMonth now + (k : ℕ))) (monthNs (currentMonth now + (k : ℕ) + 1)) db).2.catalogue := by
        rcases createPartition_cases t.parent (t.namePrefix ++ '_' :: monthText (currentMonth now + (k : ℕ)))
            (currentMonth now + (k : ℕ)) db with ⟨hcat, -⟩ | ⟨p, s, hp, hs, -, -, hrels⟩
        · rw [hcat]
          exact .refl
        · constructor
          · intro r hr _
            rw [hrels]
            exact List.mem_append_left _ hr
          · intro r hr
            rw [hrels, List.mem_append, List.mem_singleton] at hr
            refine hr.imp_right ?_
            rintro rfl
            exact ⟨p, _, hp, hs, rfl, by omega⟩
      split
      · next e db₁ hcreate =>
        rw [hcreate] at hstep
        exact hstep
      · next db₁ hcreate =>
        rw [hcreate] at hstep
        exact hstep.trans ih

lemma dropLoop_change {cutoff : ℤ} {ps : List Partition} {db : Db} :
    Change (fun r => ∃ q ∈ ps, (q.legacy = false ∧ q.upper ≤ cutoff) ∧ q.name.map Char.toLower = r.name)
      (fun _ => False) db.catalogue (PartitionMaintenanceJob.dropLoop t cutoff ps db).2.catalogue := by
  induction ps generalizing db with
  | nil => exact .refl
  | cons q ps ih =>
    have hmono : ∀ db : Db, Change
        (fun r => ∃ q' ∈ q :: ps, (q'.legacy = false ∧ q'.upper ≤ cutoff) ∧ q'.name.map Char.toLower = r.name)
        (fun _ => False) db.catalogue (PartitionMaintenanceJob.dropLoop t cutoff ps db).2.catalogue :=
      fun db => ih.mono (fun r ⟨q', hq', h⟩ => ⟨q', List.mem_cons_of_mem q hq', h⟩) fun _ h => h
    rw [PartitionMaintenanceJob.dropLoop]
    split
    · exact hmono db
    · next hskip =>
      rw [not_or, Bool.not_eq_true, not_lt] at hskip
      have hstep : Change
          (fun r => ∃ q' ∈ q :: ps, (q'.legacy = false ∧ q'.upper ≤ cutoff) ∧ q'.name.map Char.toLower = r.name)
          (fun _ => False) db.catalogue (dropPartition t.parent q.name db).2.catalogue := by
        rcases dropPartition_cases t.parent q.name db with ⟨hcat, -⟩ | ⟨p, s, -, hs, -, hcat⟩
        · rw [hcat]
          exact .refl
        · rw [hcat]
          constructor
          · intro r hr hno
            refine List.mem_filter.mpr ⟨hr, decide_eq_true ?_⟩
            rintro rfl
            exact hno ⟨q, List.mem_cons_self, hskip, (sanitizePartitionName_ok hs).symm⟩
          · intro r hr
            exact .inl (List.mem_of_mem_filter hr)
      split
      · next e db₁ hdrop =>
        rw [hdrop] at hstep
        exact hstep
      · next db₁ hdrop =>
        rw [hdrop] at hstep
        exact hstep.trans (hmono db₁)

variable {j : PartitionMaintenanceJob}

/-- The turn of a table, whatever it returns. -/
lemma reconcile_change {db : Db} (hsmall : db.catalogue.Small) :
    Change (Expired zone now t) (IsMonth now t) db.catalogue (j.reconcile zone now t db).2.catalogue := by
  unfold PartitionMaintenanceJob.reconcile
  have hcat : (listPartitions zone t.parent db).2.catalogue = db.catalogue := listPartitions_catalogue
  split
  · next e db₁ hlist =>
    rw [hlist] at hcat
    rw [← hcat]
    exact .refl
  · next existing db₁ hlist =>
    rw [hlist] at hcat
    simp only at hcat
    obtain ⟨p, hp, hmem⟩ := listPartitions_ok (congrArg Prod.fst hlist)
    have hcreate : Change (Expired zone now t) (IsMonth now t) db.catalogue
        (PartitionMaintenanceJob.createLoop now t (existing.map Partition.name)
          (List.range (j.lookaheadMonths.toNat + 1)) db₁).2.catalogue := by
      rw [← hcat]
      exact createLoop_change.mono (fun _ h => h.elim) fun _ h => h
    split
    · next e db₂ hloop =>
      rw [hloop] at hcreate
      exact hcreate
    · next db₂ hloop =>
      rw [hloop] at hcreate
      simp only at hcreate
      split
      · exact hcreate
      · next hret =>
        have hdrop := @dropLoop_change t (addDate (monthStart now) (-t.retentionMonths))
          (sortBy Partition.upper existing) db₂
        refine ⟨fun r hr hno => hdrop.kept r (hcreate.kept r hr hno) ?_, fun r hr => ?_⟩
        · -- the partition that is dropped under this name is in the list, so it is this one
          rintro ⟨q, hq, hexp, hname⟩
          obtain ⟨e, he, b, hpart, rfl⟩ := (hmem q).mp (mem_sortBy.mp hq)
          rw [monthStart_eq, addDate_monthNs] at hexp
          obtain ⟨l, u, rfl, hsuffix, hl, hu, hle⟩ := listed_expired.mp hexp
          rw [listed_name, hsmall e he _ hpart] at hname
          cases Catalogue.eq_of_name he hr hname
          exact hno ⟨by omega, p, l, u, hp, hpart, hsuffix, hl, hu, hle⟩
        · rcases hdrop.new r hr with hr | hf
          · exact hcreate.new r hr
          · exact hf.elim

lemma runTables_change {ts : List PartitionedTable} {firstErr : Option RunError} {db : Db}
    (hsmall : db.catalogue.Small) :
    Change (fun r => ∃ t ∈ ts, Expired zone now t r) (fun r => ∃ t ∈ ts, IsMonth now t r) db.catalogue
      (j.runTables zone now ts firstErr db).2.catalogue := by
  induction ts generalizing db firstErr with
  | nil => exact .refl
  | cons t ts ih =>
    rw [PartitionMaintenanceJob.runTables]
    simp only
    split
    · exact .refl
    · have hsmall' : db.statement.2.catalogue.Small := hsmall
      have hstep := @reconcile_change zone now t j _ hsmall'
      refine .trans (hstep.mono (fun r h => ⟨t, List.mem_cons_self, h⟩) fun r h => ⟨t, List.mem_cons_self, h⟩)
        (.mono ?_ ?_ (ih (hstep.small (fun r hr => hr.small) hsmall)))
      · rintro r ⟨t', ht', h⟩
        exact ⟨t', List.mem_cons_of_mem t ht', h⟩
      · rintro r ⟨t', ht', h⟩
        exact ⟨t', List.mem_cons_of_mem t ht', h⟩

end Change

/-- Runs one after another, each at a time and with statements that fail. -/
def PartitionMaintenanceJob.runs (j : PartitionMaintenanceJob) (zone : TimeZone) :
    List (ℤ × List Bool) → Catalogue → Catalogue
  | [], c => c
  | (now, faults) :: history, c => j.runs zone history (j.run zone now { catalogue := c, faults }).2.catalogue

lemma runs_change {j : PartitionMaintenanceJob} {zone : TimeZone} {history : List (ℤ × List Bool)} {c : Catalogue}
    (hsmall : c.Small) : Change (fun r => ∃ e ∈ history, ∃ t ∈ j.tables, Expired zone e.1 t r)
      (fun r => ∃ e ∈ history, ∃ t ∈ j.tables, IsMonth e.1 t r) c (j.runs zone history c) := by
  induction history generalizing c with
  | nil => exact .refl
  | cons e history ih =>
    obtain ⟨now, faults⟩ := e
    have hstep : Change (fun r => ∃ t ∈ j.tables, Expired zone now t r) (fun r => ∃ t ∈ j.tables, IsMonth now t r) c
        (j.run zone now { catalogue := c, faults }).2.catalogue :=
      @runTables_change zone now j j.tables none { catalogue := c, faults } hsmall
    have hsmall' := hstep.small (fun r ⟨_, _, h⟩ => h.small) hsmall
    refine .trans (hstep.mono (fun r h => ⟨_, List.mem_cons_self, h⟩) fun r h => ⟨_, List.mem_cons_self, h⟩)
      (.mono ?_ ?_ (ih hsmall'))
    · rintro r ⟨e, he, h⟩
      exact ⟨e, List.mem_cons_of_mem _ he, h⟩
    · rintro r ⟨e, he, h⟩
      exact ⟨e, List.mem_cons_of_mem _ he, h⟩

/-- An instant within the retention of all runs stays covered. -/
lemma runs_covers {j : PartitionMaintenanceJob} {zone : TimeZone} {history : List (ℤ × List Bool)} {c : Catalogue}
    (hsmall : c.Small) {parent : List Char} {x : ℤ}
    (hx : ∀ e ∈ history, ∀ t ∈ j.tables, sanitizePartitionName t.parent = .ok parent → 1 ≤ t.retentionMonths →
      monthUs (currentMonth e.1 - t.retentionMonths) ≤ x)
    (h : c.Covers parent x) : (j.runs zone history c).Covers parent x := by
  obtain ⟨r, hr, b, hpart, hb⟩ := h
  refine ⟨r, (runs_change hsmall).kept r hr ?_, b, hpart, hb⟩
  rintro ⟨e, he, t, ht, hret, p, l, u, hp, hpart', -, -, -, hle⟩
  cases hpart.symm.trans hpart'
  have hxu := hb.2 u rfl
  have hcut := hx e he t ht hp hret
  omega

/-- **No run takes what it should keep.** After any number of runs, at any times and with any failures, a relation that
was expired in none of them is still there, a month or an instant within the retention of all of them is still
covered, and what is new is the partition of a month; if the partitions have no capital letters in their names. -/
theorem retained_partitions_stay (j : PartitionMaintenanceJob) (zone : TimeZone) (history : List (ℤ × List Bool))
    (c : Catalogue) (hsmall : c.Small) :
    (∀ r ∈ c.rels, (∀ e ∈ history, ∀ t ∈ j.tables, ¬ Expired zone e.1 t r) → r ∈ (j.runs zone history c).rels) ∧
    (∀ parent x, (∀ e ∈ history, ∀ t ∈ j.tables, sanitizePartitionName t.parent = .ok parent →
        1 ≤ t.retentionMonths → monthUs (currentMonth e.1 - t.retentionMonths) ≤ x) →
      c.Covers parent x → (j.runs zone history c).Covers parent x) ∧
    (∀ r ∈ (j.runs zone history c).rels, r ∈ c.rels ∨ ∃ e ∈ history, ∃ t ∈ j.tables, IsMonth e.1 t r) := by
  have hchange := @runs_change j zone history c hsmall
  refine ⟨?_, fun parent x hx hcov => runs_covers hsmall hx hcov, hchange.new⟩
  intro r hr hexp
  apply hchange.kept r hr
  rintro ⟨e, he, t, ht, h⟩
  exact hexp e he t ht h

namespace Sample

/-- UTC. -/
def utc : TimeZone where
  offset _ := 0
  bounded _ := by decide

def auditName : List Char := "audit_logs".toList

def auditLogs : PartitionedTable := { parent := auditName, namePrefix := auditName, retentionMonths := 24 }

def auditJob : PartitionMaintenanceJob where
  lookaheadMonths := 3
  tables := [auditLogs]
  lookahead_pos := by decide

/-- What `0017_partition_append_only_tables` makes of the old rows. -/
def legacyPartition : Relation where
  name := auditName ++ legacyTail
  partOf := some (auditName, .range none (some (monthUs (12 * 2026 + 4))))

def legacyCatalogue : Catalogue where
  rels := [{ name := auditName }, legacyPartition]
  nodup := by decide +kernel
  disjoint := by
    rw [List.pairwise_pair]
    intro p b c hb
    cases hb

end Sample

/-- The legacy partition, after a run and another one that fails. -/
theorem retained_legacy_partition_stays :
    Sample.legacyPartition ∈ (Sample.auditJob.runs Sample.utc
      [(monthNs (12 * 2026 + 5), []), (monthNs (12 * 2060), [false, false, true])] Sample.legacyCatalogue).rels := by
  have hsmall : Sample.legacyCatalogue.Small := by
    have h : ∀ r ∈ Sample.legacyCatalogue.rels, r.name.map Char.toLower = r.name := by decide +kernel
    exact fun r hr _ _ => h r hr
  refine (retained_partitions_stay Sample.auditJob Sample.utc _ Sample.legacyCatalogue hsmall).1 _
    (List.mem_cons_of_mem _ List.mem_cons_self) ?_
  rintro e _ t _ ⟨-, p, l, u, -, hpart, -⟩
  cases hpart

/-- Where the job does what it is for: at a turn of each table, every month of the window is covered or has a free name,
and the expired partitions are named in small letters. -/
structure Meets (j : PartitionMaintenanceJob) (zone : TimeZone) (now : ℤ)
    (l : List (PartitionedTable × Catalogue)) : Prop where
  free : ∀ q ∈ l, ∀ parent, sanitizePartitionName q.1.parent = .ok parent → ∀ n, currentMonth now ≤ n →
    n ≤ currentMonth now + j.lookaheadMonths →
    ∃ q' ∈ l, sanitizePartitionName q'.1.parent = .ok parent ∧ (q'.2.Ranged parent n ∨ q'.2.Free q'.1 n)
  lower : ∀ q ∈ l, Lower zone now q.1 q.2

/-- The same in the catalogue that a run starts from. -/
structure Ready (j : PartitionMaintenanceJob) (zone : TimeZone) (now : ℤ) (c : Catalogue) : Prop where
  free : ∀ t ∈ j.tables, ∀ parent, sanitizePartitionName t.parent = .ok parent → ∀ n, currentMonth now ≤ n →
    n ≤ currentMonth now + j.lookaheadMonths → c.Ranged parent n ∨ c.Free t n
  lower : ∀ t ∈ j.tables, Lower zone now t c

/-- No two tables of the job have the same prefix. -/
def PartitionMaintenanceJob.Apart (j : PartitionMaintenanceJob) : Prop :=
  j.tables.Pairwise fun t t' => t.namePrefix.map Char.toLower ≠ t'.namePrefix.map Char.toLower

/-- What the job is for, from a catalogue to the one after a run. -/
structure Complete (j : PartitionMaintenanceJob) (zone : TimeZone) (now : ℤ) (c c' : Catalogue) : Prop where
  /-- Every instant of the window is in exactly one partition. -/
  covered : ∀ t ∈ j.tables, ∀ parent, sanitizePartitionName t.parent = .ok parent → ∀ x,
    monthUs (currentMonth now) ≤ x → x < monthUs (currentMonth now + j.lookaheadMonths + 1) → ∃! r, c'.Routes parent x r
  /-- The expired partitions are gone, and no other relation. -/
  dropped : ∀ r ∈ c.rels, r ∉ c'.rels ↔ ∃ t ∈ j.tables, Expired zone now t r
  /-- A second run at the same time changes nothing, whatever fails in it. -/
  again : ∀ faults, (j.run zone now { catalogue := c', faults }).2.catalogue = c'

section Complete

variable {j : PartitionMaintenanceJob} {zone : TimeZone} {now : ℤ} {c c' : Catalogue}
  {l : List (PartitionedTable × Catalogue)} (hl : l.map Prod.fst = j.tables)
  (h : Turns j zone now l c c')

include hl

lemma mem_tables {q : PartitionedTable × Catalogue} (hq : q ∈ l) : q.1 ∈ j.tables := hl ▸ List.mem_map_of_mem hq

include h

/-- Every month of the window has its partitions. -/
lemma ranged_of_meets (hnamed : ∀ t ∈ j.tables, c.Named t) (hm : Meets j zone now l) {t : PartitionedTable}
    (ht : t ∈ j.tables) {parent : List Char} (hparent : sanitizePartitionName t.parent = .ok parent) {n : ℤ}
    (hlo : currentMonth now ≤ n) (hhi : n ≤ currentMonth now + j.lookaheadMonths) : c'.Ranged parent n := by
  rw [← hl] at ht
  obtain ⟨q, hq, rfl⟩ := List.mem_map.mp ht
  obtain ⟨q', hq', hparent', hn⟩ := hm.free q hq parent hparent n hlo hhi
  exact h.ranged hm.lower (fun q hq => hnamed _ (mem_tables hl hq)) hlo hhi hq' hparent' hn

/-- So has every instant. -/
lemma covers_of_meets (hnamed : ∀ t ∈ j.tables, c.Named t) (hm : Meets j zone now l) {t : PartitionedTable}
    (ht : t ∈ j.tables) {parent : List Char} (hparent : sanitizePartitionName t.parent = .ok parent) {x : ℤ}
    (hlo : monthUs (currentMonth now) ≤ x) (hhi : x < monthUs (currentMonth now + j.lookaheadMonths + 1)) :
    c'.Covers parent x := by
  obtain ⟨n, hn⟩ := exists_month x
  have hx := monthBound_has_iff.mp hn
  have h₁ := monthUs_lt_iff.mp (hlo.trans_lt hx.2)
  have h₂ := monthUs_lt_iff.mp (hx.1.trans_lt hhi)
  exact ranged_of_meets hl h hnamed hm ht hparent (by omega) (by omega) x hn

lemma complete_of_meets (hnamed : ∀ t ∈ j.tables, c.Named t) (hm : Meets j zone now l) : Complete j zone now c c' := by
  have hdropped : ∀ r ∈ c.rels, r ∈ c'.rels ↔ ¬ ∃ t ∈ j.tables, Expired zone now t r := by
    intro r hr
    rw [h.mem_iff hm.lower hr, ← hl]
    simp only [List.mem_map, exists_exists_and_eq_and]
  refine ⟨?_, fun r hr => ?_, fun faults => ?_⟩
  · intro t ht parent hparent x hlo hhi
    exact (covers_of_meets hl h hnamed hm ht hparent hlo hhi).existsUnique
  · rw [hdropped r hr, not_not]
  · apply runTables_unchanged
    · intro t ht parent hparent n hlo hhi
      exact ranged_of_meets hl h hnamed hm ht hparent hlo hhi _
        (monthBound_has_iff.mpr ⟨le_rfl, monthUs_lt_iff.mpr (by omega)⟩)
    · intro t ht r hr hexp
      rcases h.new hr with hold | ⟨t', n, c₀, hcr, hn⟩
      · exact (hdropped r hold).mp hr ⟨t, ht, hexp⟩
      · exact hcr.not_expired hn hexp

lemma meets_of_complete (hdefault : ∀ r ∈ c.rels, ∀ p, r.partOf ≠ some (p, .default)) (hc : Complete j zone now c c') :
    Meets j zone now l := by
  have hlower : ∀ q ∈ l, Lower zone now q.1 q.2 := by
    intro q hq r hr hexp
    by_contra hname
    -- the job has not made it, since it makes names in small letters only; so it is an old one, and it stays
    have hold : r ∈ c.rels := by
      have hany : (l.map Prod.fst).Pairwise fun _ _ => True := List.pairwise_of_forall fun _ _ => trivial
      rcases h.new_at hany hq hr with hold | ⟨t, n, c₀, ⟨p, -, hs, -⟩, -⟩
      · exact hold
      · exact absurd (map_toLower_of_sanitize hs) hname
    exact (hc.dropped r hold).mpr ⟨q.1, mem_tables hl hq, hexp⟩ (h.stays hname hold)
  refine ⟨?_, hlower⟩
  intro q hq parent hparent n hlo hhi
  have hranged : c'.Ranged parent n := by
    intro x hx
    have hx' := monthBound_has_iff.mp hx
    obtain ⟨r, ⟨hr, b, hpart, hb | ⟨rfl, -⟩⟩, -⟩ := hc.covered q.1 (mem_tables hl hq) parent hparent x
      ((monthUs_le_iff.mpr hlo).trans hx'.1) (hx'.2.trans_le (monthUs_le_iff.mpr (by omega)))
    · exact ⟨r, hr, b, hpart, hb⟩
    · rcases h.new hr with hold | ⟨t, m, c₀, ⟨p, -, -, -, hpart'⟩, -⟩
      · exact absurd hpart (hdefault r hold parent)
      · cases hpart.symm.trans hpart'
  rcases h.ranged_or_free hranged with hold | ⟨q', hq', hparent', hfree⟩
  · exact ⟨q, hq, hparent, .inl (h.keeps_at hlower hq hlo hold)⟩
  · exact ⟨q', hq', hparent', .inr hfree⟩

/-- The turns of tables with prefixes of their own do not take each other's names. -/
lemma meets_of_ready (hapart : j.Apart) (hr : Ready j zone now c) : Meets j zone now l := by
  have hnew : ∀ q ∈ l, ∀ r ∈ q.2.rels, r ∈ c.rels ∨ ∃ t n c₀, Created t n c₀ r ∧ currentMonth now ≤ n ∧
      t.namePrefix.map Char.toLower ≠ q.1.namePrefix.map Char.toLower := by
    unfold PartitionMaintenanceJob.Apart at hapart
    rw [← hl] at hapart
    exact fun q hq r => h.new_at hapart hq
  have hlower : ∀ q ∈ l, Lower zone now q.1 q.2 := by
    intro q hq r hrel hexp
    rcases hnew q hq r hrel with hold | ⟨t, n, c₀, hcr, hn, -⟩
    · exact hr.lower q.1 (mem_tables hl hq) r hold hexp
    · exact absurd hexp (hcr.not_expired hn)
  refine ⟨fun q hq parent hparent n hlo hhi => ⟨q, hq, hparent, ?_⟩, hlower⟩
  rcases hr.free q.1 (mem_tables hl hq) parent hparent n hlo hhi with hranged | hfree
  · exact .inl (h.keeps_at hlower hq hlo hranged)
  · refine .inr fun s hs htaken => ?_
    obtain ⟨r, hrel, rfl⟩ := List.mem_map.mp htaken
    rcases hnew q hq r hrel with hold | ⟨t, m, c₀, ⟨p, -, hs', -⟩, -, hne⟩
    · exact hfree r.name hs (.of_mem hold)
    · exact hne (sanitize_monthName_injective hs' hs).2

end Complete

/-- **Partition maintenance.** A run that returns nil does what it is for when each month of the window finds its name
free or its instants covered and the expired partitions have no capital letters in their names; and without a default
partition, only then. If the tables have prefixes of their own, it is enough that it is so at the start. -/
theorem maintenance_complete (j : PartitionMaintenanceJob) (zone : TimeZone) (now : ℤ) (db : Db)
    (hnamed : ∀ t ∈ j.tables, db.catalogue.Named t) (hrun : (j.run zone now db).1 = none) :
    (Meets j zone now (j.turns zone now j.tables db) →
      Complete j zone now db.catalogue (j.run zone now db).2.catalogue) ∧
    ((∀ r ∈ db.catalogue.rels, ∀ p, r.partOf ≠ some (p, .default)) →
      Complete j zone now db.catalogue (j.run zone now db).2.catalogue →
      Meets j zone now (j.turns zone now j.tables db)) ∧
    (j.Apart → Ready j zone now db.catalogue →
      Complete j zone now db.catalogue (j.run zone now db).2.catalogue) := by
  have hturns := turns_of_run hrun
  have henough := @complete_of_meets j zone now _ _ _ map_fst_turns hturns hnamed
  exact ⟨henough, meets_of_complete map_fst_turns hturns,
    fun hapart hready => henough (meets_of_ready map_fst_turns hturns hapart hready)⟩

/-- **Missed cycles do no harm.** After a run that returned nil, every instant of its window stays in exactly one
partition through any number of later runs, at any times and with any failures, that keep it by their retention. -/
theorem window_survives_failures (j : PartitionMaintenanceJob) (zone : TimeZone) (now : ℤ) (db : Db)
    (hsmall : db.catalogue.Small) (hnamed : ∀ t ∈ j.tables, db.catalogue.Named t)
    (hrun : (j.run zone now db).1 = none) (hmeets : Meets j zone now (j.turns zone now j.tables db))
    (history : List (ℤ × List Bool)) {t : PartitionedTable} (ht : t ∈ j.tables) {parent : List Char}
    (hparent : sanitizePartitionName t.parent = .ok parent) {x : ℤ} (hlo : monthUs (currentMonth now) ≤ x)
    (hhi : x < monthUs (currentMonth now + j.lookaheadMonths + 1))
    (hkeep : ∀ e ∈ history, ∀ t ∈ j.tables, sanitizePartitionName t.parent = .ok parent → 1 ≤ t.retentionMonths →
      monthUs (currentMonth e.1 - t.retentionMonths) ≤ x) :
    ∃! r, (j.runs zone history (j.run zone now db).2.catalogue).Routes parent x r := by
  have hcov := covers_of_meets map_fst_turns (turns_of_run hrun) hnamed hmeets ht hparent hlo hhi
  have hsmall' : (j.run zone now db).2.catalogue.Small :=
    (runTables_change hsmall).small (fun r ⟨_, _, hr⟩ => hr.small) hsmall
  exact (runs_covers hsmall' hkeep hcov).existsUnique

namespace Sample

/-- A partition of a month, as the job makes it. -/
def auditMonth (n : ℤ) : Relation := { name := monthName auditName n, partOf := some (auditName, monthBound n) }

/-- June 2026. -/
def june : ℤ := 12 * 2026 + 5

/-- The old rows, up to the end of 2022. -/
def oldRows : Relation :=
  { name := auditName ++ legacyTail, partOf := some (auditName, .range none (some (monthUs (12 * 2023)))) }

lemma apart_auditMonth {m n : ℤ} (h : m ≠ n) : (auditMonth m).Apart (auditMonth n) := by
  rintro p b c ⟨⟩ ⟨⟩
  exact fun x hx => h (month_eq hx.1 hx.2)

lemma apart_oldRows {n : ℤ} (h : 12 * 2023 ≤ n) : oldRows.Apart (auditMonth n) := by
  rintro p b c ⟨⟩ ⟨⟩
  intro x hx
  have hlow := (monthBound_has_iff.mp hx.2).1
  have hhigh := hx.1.2 _ rfl
  exact absurd (monthUs_le_iff.mpr h) (by omega)

lemma apart_table {r : Relation} : Relation.Apart { name := auditName } r := by
  intro p b c hb
  cases hb

/-- A table with its old rows, a month that is past the retention, and the current month. -/
def agedCatalogue : Catalogue where
  rels := [{ name := auditName }, oldRows, auditMonth (12 * 2023 + 2), auditMonth june]
  nodup := by decide +kernel
  disjoint := by
    simp only [List.pairwise_cons, List.mem_cons, List.not_mem_nil, or_false, forall_eq_or_imp, forall_eq,
      false_implies, implies_true, List.Pairwise.nil, and_true]
    exact ⟨⟨apart_table, apart_table, apart_table⟩, ⟨apart_oldRows (by decide), apart_oldRows (by decide)⟩,
      apart_auditMonth (by decide)⟩

def agedDb : Db := { catalogue := agedCatalogue, faults := [] }

lemma not_legacy_month (n : ℤ) : oldRows.name ≠ monthName auditName n := by
  intro h
  have htext : "legacy".toList = monthText n := List.cons_injective (List.append_cancel_left h)
  have hmem : '_' ∈ monthText n := List.mem_append_right _ List.mem_cons_self
  rw [← htext] at hmem
  exact absurd hmem (by decide)

lemma named_aged : ∀ t ∈ auditJob.tables, agedCatalogue.Named t := by
  intro t ht p hp r hr b hpart n hname
  obtain rfl := List.mem_singleton.mp ht
  simp only [agedCatalogue, List.mem_cons, List.not_mem_nil, or_false] at hr
  rcases hr with rfl | rfl | rfl | rfl
  · cases hpart
  · exact absurd hname (not_legacy_month n)
  · cases hpart
    rw [monthName_injective hname]
  · cases hpart
    rw [monthName_injective hname]

lemma small_aged : ∀ r ∈ agedCatalogue.rels, r.name.map Char.toLower = r.name := by decide +kernel

lemma run_aged : (auditJob.run utc (monthNs june) agedDb).1 = none := by decide +kernel

lemma ready_aged : Ready auditJob utc (monthNs june) agedCatalogue where
  free := by
    intro t ht parent hparent n hlo _
    obtain rfl := List.mem_singleton.mp ht
    obtain rfl : parent = auditName := by
      have hname : sanitizePartitionName auditLogs.parent = .ok auditName := by decide +kernel
      exact Except.ok.inj (hparent.symm.trans hname)
    rw [show currentMonth (monthNs june) = june from monthOf_monthNs june] at hlo
    rcases hlo.eq_or_lt with rfl | hlt
    · exact .inl fun x hx => ⟨auditMonth june, by simp [agedCatalogue], _, rfl, hx⟩
    · -- the names of the later months are free
      refine .inr fun s hs htaken => ?_
      rw [sanitizePartitionName_ok hs, map_toLower_monthName] at htaken
      have hlead : auditLogs.namePrefix.map Char.toLower = auditName := by decide +kernel
      rw [hlead] at htaken
      simp only [Catalogue.Taken, agedCatalogue, List.map_cons, List.map_nil, List.mem_cons, List.not_mem_nil,
        or_false] at htaken
      rcases htaken with h | h | h | h
      · have hlen := congrArg List.length h
        simp [monthName] at hlen
      · exact not_legacy_month n h.symm
      · have := monthName_injective h
        simp only [june] at hlt
        omega
      · have := monthName_injective h
        omega
  lower := fun _ _ r hr _ => small_aged r hr

/-- The partition of June was detached by hand, and is still there under its name. -/
def strayCatalogue : Catalogue where
  rels := [{ name := auditName }, auditMonth (june - 1), { name := monthName auditName june }]
  nodup := by decide +kernel
  disjoint := by
    simp only [List.pairwise_cons, List.mem_cons, List.not_mem_nil, or_false, forall_eq_or_imp, forall_eq,
      false_implies, implies_true, List.Pairwise.nil, and_true]
    refine ⟨⟨apart_table, apart_table⟩, ?_⟩
    intro p b c _ hc
    cases hc

end Sample

open Sample in
/-- A run in June 2026 drops the month that has expired, and no other partition, and makes three. -/
theorem maintenance_complete_audit_logs :
    (auditJob.run utc (monthNs june) agedDb).2.catalogue.rels.map Relation.name =
        [auditName, oldRows.name, monthName auditName june, monthName auditName (june + 1),
          monthName auditName (june + 2), monthName auditName (june + 3)] ∧
      Complete auditJob utc (monthNs june) agedCatalogue (auditJob.run utc (monthNs june) agedDb).2.catalogue := by
  have h := maintenance_complete auditJob utc (monthNs june) agedDb named_aged run_aged
  exact ⟨by decide +kernel, h.2.2 (List.pairwise_singleton _ _) ready_aged⟩

open Sample in
/-- **A month whose name is taken** by a relation that is not a partition: the run returns nil, and the month has no
partition. -/
theorem detached_month_uncovered :
    strayCatalogue.Named auditLogs ∧
      (auditJob.run utc (monthNs june) { catalogue := strayCatalogue, faults := [] }).1 = none ∧
      ¬ Complete auditJob utc (monthNs june) strayCatalogue
        (auditJob.run utc (monthNs june) { catalogue := strayCatalogue, faults := [] }).2.catalogue := by
  have hrun : (auditJob.run utc (monthNs june) { catalogue := strayCatalogue, faults := [] }).1 = none := by
    decide +kernel
  have hparts : ∀ r ∈ strayCatalogue.rels, ∀ q, r.partOf = some q → r = auditMonth (june - 1) := by
    intro r hr q hq
    simp only [strayCatalogue, List.mem_cons, List.not_mem_nil, or_false] at hr
    rcases hr with rfl | rfl | rfl
    · cases hq
    · rfl
    · cases hq
  refine ⟨?_, hrun, fun hcomplete => ?_⟩
  · intro p _ r hr b hpart n hname
    obtain rfl := hparts r hr _ hpart
    cases hpart
    rw [monthName_injective hname]
  · have hdefault : ∀ r ∈ strayCatalogue.rels, ∀ p, r.partOf ≠ some (p, .default) := by
      intro r hr p hpart
      obtain rfl := hparts r hr _ hpart
      cases hpart
    have hname : sanitizePartitionName auditLogs.parent = .ok auditName := by decide +kernel
    have hmonth : currentMonth (monthNs june) = june := monthOf_monthNs june
    obtain ⟨q, hq, -, hn⟩ := (meets_of_complete map_fst_turns (turns_of_run hrun) hdefault hcomplete).free
      (auditLogs, strayCatalogue) List.mem_cons_self auditName hname june hmonth.le (by rw [hmonth]; decide)
    obtain rfl : q = (auditLogs, strayCatalogue) := List.mem_singleton.mp hq
    rcases hn with hranged | hfree
    · obtain ⟨r, hr, b, hpart, hb⟩ := hranged (monthUs june)
        (monthBound_has_iff.mpr ⟨le_rfl, monthUs_lt_iff.mpr (by decide)⟩)
      obtain rfl := hparts r hr _ hpart
      cases hpart
      have := month_eq hb (monthBound_has_iff.mpr ⟨le_rfl, monthUs_lt_iff.mpr (lt_add_one june)⟩)
      simp only [june] at this
      omega
    · have hs : sanitizePartitionName (monthName auditLogs.namePrefix june) = .ok (monthName auditName june) := by
        decide +kernel
      exact hfree _ hs (by decide +kernel)

open Sample in
/-- The runs of July and August fail, and so does the last statement of the one in September: a row of September has its
partition. -/
theorem september_survives_failures :
    ∃! r, (auditJob.runs utc
      [(monthNs (june + 1), [true]), (monthNs (june + 2), [false, true]), (monthNs (june + 3), [false, false, true])]
      (auditJob.run utc (monthNs june) agedDb).2.catalogue).Routes auditName (monthUs (june + 3)) r := by
  have hmeets : Meets auditJob utc (monthNs june) (auditJob.turns utc (monthNs june) auditJob.tables agedDb) :=
    meets_of_ready map_fst_turns (turns_of_run run_aged) (List.pairwise_singleton _ _) ready_aged
  have hmonth : currentMonth (monthNs june) = june := monthOf_monthNs june
  refine window_survives_failures auditJob utc (monthNs june) agedDb (fun r hr _ _ => small_aged r hr) named_aged
    run_aged hmeets _ List.mem_cons_self (by decide +kernel) ?_ ?_ ?_
  · rw [hmonth]
    exact monthUs_le_iff.mpr (by decide)
  · rw [hmonth]
    exact monthUs_lt_iff.mpr (by decide)
  · intro e he t ht _ _
    obtain rfl := List.mem_singleton.mp ht
    simp only [List.mem_cons, List.not_mem_nil, or_false] at he
    rcases he with rfl | rfl | rfl <;> exact monthUs_le_iff.mpr (by rw [currentMonth, monthOf_monthNs]; decide)

end Sn360Es.Worker
