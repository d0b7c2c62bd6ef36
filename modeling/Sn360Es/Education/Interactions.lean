import Mathlib.Data.List.Dedup
import Mathlib.Data.List.Induction
import Mathlib.Data.String.Basic
import Mathlib.Logic.Function.Basic
import Sn360Es.Lib.Cut
import Sn360Es.Lib.Upsert

/-!
# Interactions with a simulation (`internal/service/education/simulation_tracker.go`, `pg_interaction_store.go`)

What the targets of a campaign did is kept in one of two stores. The one in memory has an entry for a user and an
action; the one in Postgres has a row for a user, with two columns for every action, and fans the row out when it is
read. The contract of `InteractionStore` is that an action counts once for a user, with the time it was first seen.

* `FirstObserved` — what the contract asks for;
* `MemoryInteractionStore.Holds`, `Holds` — what either store holds after any calls;
* `interaction_stores_agree` — so they list the same interactions, and `Aggregate` counts the same;
* `aggregate_counts_users` — an action is counted once for a user, however often and in whatever order it came in;
* `batch_load_agrees` — the query for many campaigns finds what the queries for one find.

A time is a number of nanoseconds, where 0 is the zero time. An `INSERT` may fail, also after it was carried out; the
queries succeed. What the tracker publishes is left out.
-/

namespace Sn360Es.Education

open Lib

/-! ### Interactions -/

/-- `UserInteractionType`, a string in the source. -/
inductive UserInteractionType where
  | delivered | opened | clickedLink | submittedCredentials | reportedPhishing | ignored
  | unknown (text : String)
  deriving DecidableEq, Repr

def UserInteractionType.valid : UserInteractionType → Bool
  | .unknown _ => false
  | _ => true

structure UserInteraction where
  campaignID : String
  userHash : String
  action : UserInteractionType
  occurredAt : ℤ
  deriving DecidableEq, Repr

structure SimulationResult where
  campaignID : String
  delivered : ℕ := 0
  opened : ℕ := 0
  clicked : ℕ := 0
  submittedCredentials : ℕ := 0
  reported : ℕ := 0
  ignored : ℕ := 0
  deriving DecidableEq, Repr

namespace SimulationResult

/-- One more interaction, as `Aggregate` counts it. -/
def add (r : SimulationResult) : UserInteractionType → SimulationResult
  | .delivered => { r with delivered := r.delivered + 1 }
  | .opened => { r with opened := r.opened + 1 }
  | .clickedLink => { r with clicked := r.clicked + 1 }
  | .submittedCredentials => { r with submittedCredentials := r.submittedCredentials + 1 }
  | .reportedPhishing => { r with reported := r.reported + 1 }
  | .ignored => { r with ignored := r.ignored + 1 }
  | .unknown _ => r

/-- The counter of an action. -/
def count (r : SimulationResult) : UserInteractionType → ℕ
  | .delivered => r.delivered
  | .opened => r.opened
  | .clickedLink => r.clicked
  | .submittedCredentials => r.submittedCredentials
  | .reportedPhishing => r.reported
  | .ignored => r.ignored
  | .unknown _ => 0

end SimulationResult

/-- The loop of `Aggregate`. -/
def countActions (campaignID : String) (items : List UserInteraction) : SimulationResult :=
  items.foldl (fun r i => r.add i.action) { campaignID }

inductive InteractionError where
  | campaignRequired
  | userRequired
  /-- The tracker's check. -/
  | invalid (action : UserInteractionType)
  /-- The check of the store in Postgres. -/
  | unknown (action : UserInteractionType)
  | exec (err : String)
  deriving DecidableEq, Repr

/-- What comes of a statement. -/
inductive Exec where
  | done
  | failed (err : String) (performed : Bool)
  deriving DecidableEq, Repr

def Exec.error : Exec → Option String
  | .done => none
  | .failed err _ => some err

def Exec.performed : Exec → Bool
  | .done => true
  | .failed _ performed => performed

structure InteractionStore (σ : Type) where
  /-- The error, and the store after it. -/
  append : σ → UserInteraction → Exec → Option InteractionError × σ
  listByCampaign : σ → String → List UserInteraction
  /-- The fast path of `batchInteractionLister`. -/
  listByCampaigns : σ → List String → List UserInteraction

/-! ### In memory -/

structure MemoryKey where
  userHash : String
  action : UserInteractionType
  deriving DecidableEq, Repr

structure MemoryInteractionStore where
  items : String → MemoryKey → Option UserInteraction := fun _ _ => none
  order : String → List MemoryKey := fun _ => []

namespace MemoryInteractionStore

def append (s : MemoryInteractionStore) (i : UserInteraction) : MemoryInteractionStore :=
  let k : MemoryKey := ⟨i.userHash, i.action⟩
  if (s.items i.campaignID k).isSome then s
  else
    { items := Function.update s.items i.campaignID (Function.update (s.items i.campaignID) k (some i))
      order := Function.update s.order i.campaignID (s.order i.campaignID ++ [k]) }

def listByCampaign (s : MemoryInteractionStore) (campaignID : String) : List UserInteraction :=
  (s.order campaignID).filterMap (s.items campaignID)

end MemoryInteractionStore

def memoryStore : InteractionStore MemoryInteractionStore where
  append s i _ := (none, s.append i)
  listByCampaign := MemoryInteractionStore.listByCampaign
  listByCampaigns s ids := ids.flatMap s.listByCampaign

/-! ### In Postgres -/

/-- The actions that have columns. -/
inductive Column where
  | delivered | opened | clicked | submittedCreds | reported | ignored
  deriving DecidableEq, Repr

/-- `actionColumns`. -/
def actionColumns : UserInteractionType → Option Column
  | .delivered => some .delivered
  | .opened => some .opened
  | .clickedLink => some .clicked
  | .submittedCredentials => some .submittedCreds
  | .reportedPhishing => some .reported
  | .ignored => some .ignored
  | .unknown _ => none

def Column.action : Column → UserInteractionType
  | .delivered => .delivered
  | .opened => .opened
  | .clicked => .clickedLink
  | .submittedCreds => .submittedCredentials
  | .reported => .reportedPhishing
  | .ignored => .ignored

/-- A row of `education_interactions`: for every action a flag and the time of its first observation. -/
structure Row where
  campaignID : String
  userHash : String
  flag : Column → Bool
  observedAt : Column → Option ℤ
  firstSeenAt : ℤ
  updatedAt : ℤ

namespace Row

def key (r : Row) : String × String := (r.campaignID, r.userHash)

/-- The row of the `INSERT`. -/
def ofColumn (campaignID userHash : String) (col : Column) (t : ℤ) : Row where
  campaignID
  userHash
  flag k := k = col
  observedAt k := if k = col then some t else none
  firstSeenAt := t
  updatedAt := t

/-- `ON CONFLICT … DO UPDATE`, of the columns of one action. -/
def update (col : Column) (r excluded : Row) : Row :=
  { r with
    flag := Function.update r.flag col true
    observedAt := Function.update r.observedAt col ((r.observedAt col).or (excluded.observedAt col))
    updatedAt := excluded.updatedAt }

/-- One interaction for every action that is flagged, in the order of the columns. -/
def fanOut (r : Row) : List UserInteraction :=
  [Column.delivered, .opened, .clicked, .submittedCreds, .reported, .ignored].filterMap fun col =>
    if r.flag col then some ⟨r.campaignID, r.userHash, col.action, (r.observedAt col).getD r.updatedAt⟩ else none

end Row

section Postgres

/- `clock` is `time.Now`, `stored` what a `TIMESTAMPTZ` keeps of a time, and `scan` the order in which the rows of
the table come. -/
variable (clock : ℤ) (stored : ℤ → ℤ) (scan : List Row → List Row)

def postgresAppend (table : List Row) (i : UserInteraction) (x : Exec) : Option InteractionError × List Row :=
  match actionColumns i.action with
  | none => (some (.unknown i.action), table)
  | some col =>
    let occurredAt := if i.occurredAt = 0 then clock else i.occurredAt
    let row := Row.ofColumn i.campaignID i.userHash col (stored occurredAt)
    (x.error.map .exec, if x.performed then upsert Row.key (Row.update col) table row else table)

def postgresStore : InteractionStore (List Row) where
  append := postgresAppend clock stored
  listByCampaign table campaignID :=
    (sortBy Row.firstSeenAt ((scan table).filter (·.campaignID = campaignID))).flatMap Row.fanOut
  listByCampaigns table ids :=
    if ids = [] then []
    else (sortBy Row.campaignID (sortBy Row.firstSeenAt ((scan table).filter (·.campaignID ∈ ids)))).flatMap Row.fanOut

end Postgres

/-! ### The tracker -/

structure Call where
  campaignID : String
  userHash : String
  action : UserInteractionType
  /-- What the tracker's clock shows. -/
  now : ℤ
  /-- What comes of the `INSERT`, if there is one. -/
  exec : Exec := .done
  deriving DecidableEq, Repr

/-- `RecordInteraction`. -/
def recordInteraction {σ : Type} (store : InteractionStore σ) (s : σ) (c : Call) :
    Except InteractionError UserInteraction × σ :=
  if c.campaignID = "" then (.error .campaignRequired, s)
  else if c.userHash = "" then (.error .userRequired, s)
  else if !c.action.valid then (.error (.invalid c.action), s)
  else
    let i : UserInteraction := ⟨c.campaignID, c.userHash, c.action, c.now⟩
    match store.append s i c.exec with
    | (some e, s) => (.error e, s)
    | (none, s) => (.ok i, s)

def recordAll {σ : Type} (store : InteractionStore σ) (s : σ) (calls : List Call) : σ :=
  calls.foldl (fun s c => (recordInteraction store s c).2) s

/-- `Aggregate`. -/
def aggregate {σ : Type} (store : InteractionStore σ) (s : σ) (campaignID : String) :
    Except InteractionError SimulationResult :=
  if campaignID = "" then .error .campaignRequired
  else .ok (countActions campaignID (store.listByCampaign s campaignID))

/-- `loadInteractions` with the fast path. -/
def loadBatch {σ : Type} (store : InteractionStore σ) (s : σ) (ids : List String) (campaignID : String) :
    List UserInteraction :=
  (store.listByCampaigns s ids).filter (·.campaignID = campaignID)

/-- `loadInteractions` without it. -/
def loadEach {σ : Type} (store : InteractionStore σ) (s : σ) (ids : List String) (campaignID : String) :
    List UserInteraction :=
  if campaignID ∈ ids then store.listByCampaign s campaignID else []

/-! ### The contract -/

/-- What a call asks the store to keep. -/
def Call.accepted (c : Call) : Option UserInteraction :=
  if c.campaignID = "" ∨ c.userHash = "" ∨ c.action.valid = false then none
  else some ⟨c.campaignID, c.userHash, c.action, c.now⟩

/-- The interactions that some calls asked for. -/
def observed (calls : List Call) : List UserInteraction := calls.filterMap Call.accepted

/-- The calls whose statement was carried out. -/
def performed (calls : List Call) : List Call := calls.filter (·.exec.performed)

def UserInteraction.key (i : UserInteraction) : String × String × UserInteractionType :=
  (i.campaignID, i.userHash, i.action)

/-- The first observation of an action of a user. -/
def firstOf (is : List UserInteraction) (k : String × String × UserInteractionType) : Option UserInteraction :=
  is.find? (·.key = k)

/-- **The contract**: of everything that was observed for a campaign, the first time of every action of a user. -/
def FirstObserved (is : List UserInteraction) (campaignID : String) (e : UserInteraction) : Prop :=
  e.campaignID = campaignID ∧ firstOf is e.key = some e

section Contract

variable {is : List UserInteraction} {i e : UserInteraction} {k : String × String × UserInteractionType}

lemma key_eq {c u : String} {a : UserInteractionType} :
    i.key = (c, u, a) ↔ i.campaignID = c ∧ i.userHash = u ∧ i.action = a := by
  simp [UserInteraction.key]

lemma key_of_firstOf (h : firstOf is k = some e) : e.key = k := by
  simpa using List.find?_some h

lemma firstOf_concat : firstOf (is ++ [i]) k = (firstOf is k).or (if i.key = k then some i else none) := by
  unfold firstOf
  rw [List.find?_append]
  by_cases h : i.key = k <;> simp [h]

lemma isSome_firstOf : (firstOf is k).isSome ↔ ∃ i ∈ is, i.key = k := by
  unfold firstOf
  rw [List.find?_isSome]
  simp

end Contract

/-! ### What the store in memory holds -/

namespace MemoryInteractionStore

/-- The entries are the first observations, and the order lists each of them once. -/
structure Holds (is : List UserInteraction) (s : MemoryInteractionStore) : Prop where
  items : ∀ c k, s.items c k = firstOf is (c, k.userHash, k.action)
  order : ∀ c, (s.order c).Nodup
  listed : ∀ c k, k ∈ s.order c ↔ (s.items c k).isSome

variable {is : List UserInteraction} {s : MemoryInteractionStore} {i e : UserInteraction} {campaignID : String}

lemma append_of_isSome (h : (s.items i.campaignID ⟨i.userHash, i.action⟩).isSome) : s.append i = s := if_pos h

lemma items_append (h : s.items i.campaignID ⟨i.userHash, i.action⟩ = none) (c : String) (k : MemoryKey) :
    (s.append i).items c k = if c = i.campaignID ∧ k = ⟨i.userHash, i.action⟩ then some i else s.items c k := by
  unfold MemoryInteractionStore.append
  simp only [h, Option.isSome_none, Bool.false_eq_true, if_false]
  by_cases hc : c = i.campaignID
  · subst hc
    by_cases hk : k = ⟨i.userHash, i.action⟩ <;> simp [Function.update, hk]
  · simp [Function.update, hc]

lemma order_append (h : s.items i.campaignID ⟨i.userHash, i.action⟩ = none) (c : String) :
    (s.append i).order c = if c = i.campaignID then s.order c ++ [⟨i.userHash, i.action⟩] else s.order c := by
  unfold MemoryInteractionStore.append
  simp only [h, Option.isSome_none, Bool.false_eq_true, if_false]
  by_cases hc : c = i.campaignID
  · subst hc
    simp
  · simp [hc]

lemma Holds.append (h : Holds is s) : Holds (is ++ [i]) (s.append i) := by
  cases hnew : s.items i.campaignID ⟨i.userHash, i.action⟩ with
  | some e =>
    rw [append_of_isSome (by rw [hnew]; rfl)]
    refine ⟨fun c k => ?_, h.order, h.listed⟩
    rw [firstOf_concat, h.items c k]
    by_cases hk : i.key = (c, k.userHash, k.action)
    · -- the first observation stays
      have hfirst : firstOf is i.key = some e := by
        rw [← hnew, h.items]
        rfl
      rw [← hk, hfirst, Option.some_or]
    · rw [if_neg hk, Option.or_none]
  | none =>
    refine ⟨fun c k => ?_, fun c => ?_, fun c k => ?_⟩
    · rw [items_append hnew, firstOf_concat, ← h.items c k]
      by_cases hk : c = i.campaignID ∧ k = ⟨i.userHash, i.action⟩
      · obtain ⟨rfl, rfl⟩ := hk
        simp [hnew, UserInteraction.key]
      · rw [if_neg hk, if_neg, Option.or_none]
        intro he
        obtain ⟨rfl, hu, ha⟩ := key_eq.mp he
        exact hk ⟨rfl, by rw [hu, ha]⟩
    · rw [order_append hnew]
      split
      · next hc =>
        subst hc
        refine List.Nodup.append (h.order _) (List.nodup_singleton _) ?_
        rw [List.disjoint_singleton, h.listed, hnew]
        simp
      · exact h.order c
    · rw [order_append hnew, items_append hnew]
      by_cases hc : c = i.campaignID
      · subst hc
        rw [if_pos rfl, List.mem_append, List.mem_singleton, h.listed]
        by_cases hk : k = ⟨i.userHash, i.action⟩ <;> simp [hk]
      · rw [if_neg hc, h.listed, if_neg fun hk => hc hk.1]

lemma holds_nil : Holds [] {} := ⟨fun _ _ => rfl, fun _ => List.nodup_nil, fun _ _ => by simp⟩

/-- The list is what the contract asks for. -/
lemma Holds.mem_listByCampaign (h : Holds is s) :
    e ∈ s.listByCampaign campaignID ↔ FirstObserved is campaignID e := by
  unfold listByCampaign FirstObserved
  rw [List.mem_filterMap]
  constructor
  · rintro ⟨k, -, hk⟩
    rw [h.items] at hk
    have hkey := key_of_firstOf hk
    exact ⟨congrArg Prod.fst hkey, hkey ▸ hk⟩
  · rintro ⟨rfl, he⟩
    have hitem : s.items e.campaignID ⟨e.userHash, e.action⟩ = some e := by
      rw [h.items]
      exact he
    exact ⟨⟨e.userHash, e.action⟩, (h.listed _ _).mpr (by rw [hitem]; rfl), hitem⟩

lemma Holds.nodup_listByCampaign (h : Holds is s) : (s.listByCampaign campaignID).Nodup := by
  unfold listByCampaign
  refine List.Nodup.filterMap (fun k k' e hk hk' => ?_) (h.order campaignID)
  rw [Option.mem_def, h.items] at hk hk'
  have := (key_of_firstOf hk).symm.trans (key_of_firstOf hk')
  simp only [Prod.mk.injEq, true_and] at this
  cases k
  cases k'
  simp_all

end MemoryInteractionStore

/-! ### What the table in Postgres holds -/

section Table

variable {stored : ℤ → ℤ} {is : List UserInteraction} {table : List Row} {i e : UserInteraction} {col col' : Column}
  {clock : ℤ} {scan : List Row → List Row} {campaignID : String} {ids : List String}

/-- The interaction as the table keeps it. -/
def UserInteraction.kept (stored : ℤ → ℤ) (i : UserInteraction) : UserInteraction :=
  { i with occurredAt := stored i.occurredAt }

/-- A user has one row, and the columns of an action are those of its first observation. -/
structure Holds (stored : ℤ → ℤ) (is : List UserInteraction) (table : List Row) : Prop where
  keys : (table.map Row.key).Nodup
  columns : ∀ r ∈ table, ∀ col, r.flag col = (firstOf is (r.campaignID, r.userHash, col.action)).isSome ∧
    r.observedAt col = (firstOf is (r.campaignID, r.userHash, col.action)).map fun i => stored i.occurredAt
  row : ∀ i ∈ is, (i.campaignID, i.userHash) ∈ table.map Row.key

lemma action_injective (h : col.action = col'.action) : col = col' := by
  cases col <;> cases col' <;> first | rfl | cases h

lemma action_of_actionColumns (h : actionColumns i.action = some col) : col.action = i.action := by
  cases ha : i.action <;> rw [ha] at h <;> cases h <;> rfl

lemma exists_actionColumns (h : i.action.valid = true) : ∃ col, actionColumns i.action = some col := by
  cases ha : i.action with
  | unknown text =>
    rw [ha] at h
    cases h
  | _ => exact ⟨_, rfl⟩

/-- Another action of the user is not touched. -/
lemma firstOf_concat_of_ne {c u : String} (h : col.action = i.action) (hne : col' ≠ col) :
    firstOf (is ++ [i]) (c, u, col'.action) = firstOf is (c, u, col'.action) := by
  rw [firstOf_concat, if_neg, Option.or_none]
  intro hk
  have : i.action = col'.action := congrArg (fun k => k.2.2) hk
  exact hne (action_injective (h.trans this).symm)

lemma firstOf_concat_self (h : col.action = i.action) :
    firstOf (is ++ [i]) (i.campaignID, i.userHash, col.action) =
      (firstOf is (i.campaignID, i.userHash, col.action)).or (some i) := by
  rw [firstOf_concat, if_pos]
  rw [h]
  rfl

/-- What the columns of a row are after an upsert of one action. -/
lemma Holds.upsert (h : Holds stored is table) (hcol : actionColumns i.action = some col) :
    Holds stored (is ++ [i]) (upsert Row.key (Row.update col) table
      (Row.ofColumn i.campaignID i.userHash col (stored i.occurredAt))) := by
  have hact := action_of_actionColumns hcol
  have hkey : ∀ y x, Row.key (Row.update col y x) = Row.key y := fun _ _ => rfl
  refine ⟨nodup_upsert hkey h.keys, ?_, ?_⟩
  · intro r hr k
    rcases mem_upsert hr with ⟨hr, hne⟩ | ⟨y, hy, hy', rfl⟩ | ⟨rfl, hnew⟩
    · rw [firstOf_concat, if_neg, Option.or_none]
      · exact h.columns r hr k
      · intro hk
        exact hne (congrArg (fun k => (k.1, k.2.1)) hk).symm
    · obtain ⟨hc, hu⟩ : y.campaignID = i.campaignID ∧ y.userHash = i.userHash := Prod.mk.inj hy'
      have hcols := h.columns y hy k
      simp only [Row.update, hc, hu] at hcols ⊢
      by_cases hk : k = col
      · subst hk
        rw [Function.update_self, Function.update_self, firstOf_concat_self hact, hcols.2, Option.map_or]
        simp [Row.ofColumn]
      · rw [Function.update_of_ne hk, Function.update_of_ne hk, firstOf_concat_of_ne hact hk]
        exact hcols
    · -- a new row: nothing of this user was observed before
      have hnone : firstOf is (i.campaignID, i.userHash, k.action) = none := by
        rw [← Option.not_isSome_iff_eq_none, isSome_firstOf]
        rintro ⟨j, hj, hjk⟩
        have := h.row j hj
        rw [show (j.campaignID, j.userHash) = (i.campaignID, i.userHash) from
          congrArg (fun k => (k.1, k.2.1)) hjk] at this
        exact hnew this
      by_cases hk : k = col
      · subst hk
        simp [Row.ofColumn, firstOf_concat_self hact, hnone]
      · simp [Row.ofColumn, firstOf_concat_of_ne hact hk, hnone, hk]
  · intro j hj
    rw [keys_upsert hkey]
    rcases List.mem_append.mp hj with hj | hj
    · split
      · exact h.row j hj
      · exact List.mem_append_left _ (h.row j hj)
    · obtain rfl := List.mem_singleton.mp hj
      split
      · assumption
      · exact List.mem_append_right _ List.mem_cons_self

lemma mem_fanOut {r : Row} : e ∈ r.fanOut ↔ ∃ col, r.flag col = true ∧
    e = ⟨r.campaignID, r.userHash, col.action, (r.observedAt col).getD r.updatedAt⟩ := by
  unfold Row.fanOut
  rw [List.mem_filterMap]
  constructor
  · rintro ⟨col, -, hcol⟩
    split at hcol
    · next hf => exact ⟨col, hf, (Option.some.inj hcol).symm⟩
    · cases hcol
  · rintro ⟨col, hf, rfl⟩
    exact ⟨col, by cases col <;> simp, by rw [if_pos hf]⟩

/-- What the rows of a campaign fan out to is what the contract asks for. -/
lemma Holds.mem_fanOut (h : Holds stored is table) {r : Row} (hr : r ∈ table) :
    e ∈ r.fanOut ↔ ∃ i, firstOf is i.key = some i ∧ i.campaignID = r.campaignID ∧ i.userHash = r.userHash ∧
      i.action.valid = true ∧ e = i.kept stored := by
  rw [Education.mem_fanOut]
  constructor
  · rintro ⟨col, hf, rfl⟩
    obtain ⟨hflag, hat⟩ := h.columns r hr col
    rw [hf, eq_comm] at hflag
    obtain ⟨i, hi⟩ := Option.isSome_iff_exists.mp hflag
    have hkey := key_of_firstOf hi
    obtain ⟨hc, hu, ha⟩ := key_eq.mp hkey
    refine ⟨i, by rw [hkey]; exact hi, hc, hu, by rw [ha]; cases col <;> rfl, ?_⟩
    rw [hat, hi, ← hc, ← hu, ← ha]
    rfl
  · rintro ⟨i, hi, hc, hu, hvalid, rfl⟩
    obtain ⟨col, hcol⟩ := exists_actionColumns hvalid
    have hact := action_of_actionColumns hcol
    obtain ⟨hflag, hat⟩ := h.columns r hr col
    rw [← hc, ← hu, hact, show (i.campaignID, i.userHash, i.action) = i.key from rfl, hi] at hflag hat
    refine ⟨col, hflag, ?_⟩
    rw [hat, ← hc, ← hu, hact]
    rfl

lemma nodup_fanOut (r : Row) : r.fanOut.Nodup := by
  unfold Row.fanOut
  refine List.Nodup.filterMap (fun col col' e h h' => ?_) (by decide)
  rw [Option.mem_def] at h h'
  split at h
  · split at h'
    · have := (Option.some.inj h).trans (Option.some.inj h').symm
      exact action_injective (congrArg UserInteraction.action this)
    · cases h'
  · cases h

/-- The lists of different rows have nothing in common. -/
lemma nodup_flatMap_fanOut {rows : List Row} (h : (rows.map Row.key).Nodup) : (rows.flatMap Row.fanOut).Nodup := by
  rw [List.nodup_flatMap]
  refine ⟨fun r _ => nodup_fanOut r, (List.pairwise_map.mp h).imp fun {r r'} hne => ?_⟩
  intro e he he'
  obtain ⟨col, -, rfl⟩ := Education.mem_fanOut.mp he
  obtain ⟨col', -, h'⟩ := Education.mem_fanOut.mp he'
  exact hne (Prod.ext (congrArg UserInteraction.campaignID h') (congrArg UserInteraction.userHash h'))

lemma mem_listByCampaign (hscan : ∀ rows, (scan rows).Perm rows) (h : Holds stored is table)
    (hvalid : ∀ i ∈ is, i.action.valid = true) :
    e ∈ (postgresStore clock stored scan).listByCampaign table campaignID ↔
      ∃ i, FirstObserved is campaignID i ∧ e = i.kept stored := by
  simp only [postgresStore, List.mem_flatMap, mem_sortBy, List.mem_filter, decide_eq_true_eq, (hscan table).mem_iff]
  constructor
  · rintro ⟨r, ⟨hr, rfl⟩, he⟩
    obtain ⟨i, hi, hc, -, -, rfl⟩ := (h.mem_fanOut hr).mp he
    exact ⟨i, ⟨hc, hi⟩, rfl⟩
  · rintro ⟨i, ⟨rfl, hi⟩, rfl⟩
    have hmem : i ∈ is := List.mem_of_find?_eq_some hi
    obtain ⟨r, hr, hkey⟩ := List.mem_map.mp (h.row i hmem)
    obtain ⟨hc, hu⟩ : r.campaignID = i.campaignID ∧ r.userHash = i.userHash := Prod.mk.inj hkey
    exact ⟨r, ⟨hr, hc⟩, (h.mem_fanOut hr).mpr ⟨i, hi, hc.symm, hu.symm, hvalid i hmem, rfl⟩⟩

lemma nodup_listByCampaign (hscan : ∀ rows, (scan rows).Perm rows) (h : Holds stored is table) :
    ((postgresStore clock stored scan).listByCampaign table campaignID).Nodup := by
  refine nodup_flatMap_fanOut ?_
  refine ((sortBy_perm _).map _).nodup_iff.mpr ?_
  refine List.Nodup.sublist (List.filter_sublist.map _) ?_
  exact ((hscan table).map _).nodup_iff.mpr h.keys

end Table

/-! ### Calls -/

section Calls

variable {σ : Type} {store : InteractionStore σ} {s : σ} {calls : List Call} {c : Call} {i : UserInteraction}

lemma recordInteraction_of_rejected (h : c.accepted = none) : (recordInteraction store s c).2 = s := by
  unfold Call.accepted at h
  unfold recordInteraction
  split at h
  · next hbad =>
    rcases hbad with hbad | hbad | hbad
    · rw [if_pos hbad]
    · rw [if_pos hbad]
      split <;> rfl
    · rw [hbad]
      split
      · rfl
      · split <;> rfl
  · cases h

lemma recordInteraction_of_accepted (h : c.accepted = some i) :
    (recordInteraction store s c).2 = (store.append s i c.exec).2 := by
  unfold Call.accepted at h
  unfold recordInteraction
  split at h
  · cases h
  · next hgood =>
    obtain rfl := Option.some.inj h
    simp only [not_or, Bool.not_eq_false] at hgood
    rw [if_neg hgood.1, if_neg hgood.2.1, hgood.2.2]
    simp only [Bool.not_true, Bool.false_eq_true, if_false]
    split
    · next hs => rw [hs]
    · next hs => rw [hs]

lemma recordAll_concat :
    recordAll store s (calls ++ [c]) = (recordInteraction store (recordAll store s calls) c).2 := by
  unfold recordAll
  rw [List.foldl_append]
  rfl

lemma observed_concat : observed (calls ++ [c]) = observed calls ++ c.accepted.toList := by
  unfold observed
  rw [List.filterMap_append]
  cases h : c.accepted <;> simp [h]

lemma performed_concat :
    performed (calls ++ [c]) = if c.exec.performed then performed calls ++ [c] else performed calls := by
  unfold performed
  rw [List.filter_append]
  cases h : c.exec.performed <;> simp [h]

lemma accepted_valid (h : c.accepted = some i) : i.action.valid = true ∧ i.occurredAt = c.now := by
  unfold Call.accepted at h
  split at h
  · cases h
  · next hgood =>
    obtain rfl := Option.some.inj h
    simp only [not_or, Bool.not_eq_false] at hgood
    exact ⟨hgood.2.2, rfl⟩

lemma observed_valid (h : i ∈ observed calls) : i.action.valid = true := by
  obtain ⟨c, -, hc⟩ := List.mem_filterMap.mp h
  exact (accepted_valid hc).1

/-- **What the calls leave behind**, in memory. -/
lemma memory_holds (calls : List Call) : (recordAll memoryStore {} calls).Holds (observed calls) := by
  induction calls using List.reverseRecOn with
  | nil => exact MemoryInteractionStore.holds_nil
  | append_singleton calls c ih =>
    rw [recordAll_concat, observed_concat]
    cases hc : c.accepted with
    | none =>
      rw [recordInteraction_of_rejected hc]
      simpa using ih
    | some i =>
      rw [recordInteraction_of_accepted hc]
      exact ih.append

/-- An accepted call writes its row, if its statement is carried out. -/
lemma postgresAppend_of_accepted {clock : ℤ} {stored : ℤ → ℤ} {col : Column} {table : List Row}
    (hc : c.accepted = some i) (hcol : actionColumns i.action = some col) (hnow : c.now ≠ 0) :
    (postgresAppend clock stored table i c.exec).2 =
      if c.exec.performed then
        upsert Row.key (Row.update col) table (Row.ofColumn i.campaignID i.userHash col (stored i.occurredAt))
      else table := by
  have hne : i.occurredAt ≠ 0 := (accepted_valid hc).2 ▸ hnow
  simp only [postgresAppend, hcol, if_neg hne]

/-- **What the calls leave behind**, in Postgres. -/
lemma postgres_holds {clock : ℤ} {stored : ℤ → ℤ} {scan : List Row → List Row} (calls : List Call)
    (hnow : ∀ c ∈ calls, c.now ≠ 0) :
    Holds stored (observed (performed calls)) (recordAll (postgresStore clock stored scan) [] calls) := by
  induction calls using List.reverseRecOn with
  | nil => exact ⟨List.nodup_nil, by simp [recordAll], by simp [observed, performed]⟩
  | append_singleton calls c ih =>
    have ih := ih fun c hc => hnow c (List.mem_append_left _ hc)
    rw [recordAll_concat, performed_concat]
    cases hc : c.accepted with
    | none =>
      rw [recordInteraction_of_rejected hc]
      split
      · simpa [observed_concat, hc] using ih
      · exact ih
    | some i =>
      obtain ⟨col, hcol⟩ := exists_actionColumns (accepted_valid hc).1
      rw [recordInteraction_of_accepted hc,
        show (postgresStore clock stored scan).append = postgresAppend clock stored from rfl,
        postgresAppend_of_accepted hc hcol (hnow c (List.mem_append_right _ List.mem_cons_self))]
      split
      · rw [observed_concat, hc]
        exact ih.upsert hcol
      · exact ih

/-! ### Counting -/

lemma count_add {r : SimulationResult} {a b : UserInteractionType} (ha : a.valid = true) :
    (r.add b).count a = r.count a + if b = a then 1 else 0 := by
  cases a with
  | unknown text => cases ha
  | _ => cases b <;> simp [SimulationResult.add, SimulationResult.count]

lemma campaignID_add {r : SimulationResult} {b : UserInteractionType} : (r.add b).campaignID = r.campaignID := by
  cases b <;> rfl

/-- The entries with an action. -/
lemma count_countActions (campaignID : String) (items : List UserInteraction) {a : UserInteractionType}
    (ha : a.valid = true) : (countActions campaignID items).count a = items.countP (·.action = a) := by
  have h : ∀ r : SimulationResult, (items.foldl (fun r i => r.add i.action) r).count a =
      r.count a + items.countP (·.action = a) := by
    induction items with
    | nil => simp
    | cons i items ih =>
      intro r
      rw [List.foldl_cons, ih, count_add ha, List.countP_cons]
      simp only [decide_eq_true_eq]
      omega
  unfold countActions
  rw [h]
  cases a <;> simp [SimulationResult.count]

lemma campaignID_countActions (campaignID : String) (items : List UserInteraction) :
    (countActions campaignID items).campaignID = campaignID := by
  have h : ∀ r : SimulationResult, (items.foldl (fun r i => r.add i.action) r).campaignID = r.campaignID := by
    induction items with
    | nil => simp
    | cons i items ih =>
      intro r
      rw [List.foldl_cons, ih, campaignID_add]
  exact h _

/-- The counters are all of a result. -/
lemma countActions_ext {campaignID : String} {items items' : List UserInteraction}
    (h : ∀ a, items.countP (·.action = a) = items'.countP (·.action = a)) :
    countActions campaignID items = countActions campaignID items' := by
  have hcount : ∀ a : UserInteractionType, a.valid = true →
      (countActions campaignID items).count a = (countActions campaignID items').count a := fun a ha => by
    rw [count_countActions campaignID items ha, count_countActions campaignID items' ha, h a]
  have hid := (campaignID_countActions campaignID items).trans (campaignID_countActions campaignID items').symm
  generalize countActions campaignID items = r at hcount hid
  generalize countActions campaignID items' = r' at hcount hid
  cases r
  cases r'
  simp only [SimulationResult.mk.injEq]
  exact ⟨hid, hcount .delivered rfl, hcount .opened rfl, hcount .clickedLink rfl, hcount .submittedCredentials rfl,
    hcount .reportedPhishing rfl, hcount .ignored rfl⟩

end Calls

/-! ### Two stores, one contract -/

section Agreement

variable (clock : ℤ) (stored : ℤ → ℤ) (scan : List Row → List Row) (calls : List Call) (campaignID : String)

/-- What the two stores list after some calls. -/
def memoryList : List UserInteraction := (recordAll memoryStore {} calls).listByCampaign campaignID

def postgresList : List UserInteraction :=
  (postgresStore clock stored scan).listByCampaign (recordAll (postgresStore clock stored scan) [] calls) campaignID

variable {clock stored scan calls campaignID}

lemma mem_memoryList {e : UserInteraction} :
    e ∈ memoryList calls campaignID ↔ FirstObserved (observed calls) campaignID e :=
  (memory_holds calls).mem_listByCampaign

lemma nodup_memoryList : (memoryList calls campaignID).Nodup := (memory_holds calls).nodup_listByCampaign

/-- Two entries with one key are one observation. -/
lemma eq_of_key_eq {x y : UserInteraction} (hx : x ∈ memoryList calls campaignID)
    (hy : y ∈ memoryList calls campaignID) (h : x.key = y.key) : x = y := by
  have h₁ := (mem_memoryList.mp hx).2
  have h₂ := (mem_memoryList.mp hy).2
  rw [h, h₂, Option.some.injEq] at h₁
  exact h₁.symm

lemma postgresList_perm (hscan : ∀ rows, (scan rows).Perm rows) (hnow : ∀ c ∈ calls, c.now ≠ 0) :
    (postgresList clock stored scan calls campaignID).Perm
      ((memoryList (performed calls) campaignID).map (UserInteraction.kept stored)) := by
  have hpg : Holds stored (observed (performed calls)) (recordAll (postgresStore clock stored scan) [] calls) :=
    postgres_holds calls hnow
  have hkept : ((memoryList (performed calls) campaignID).map (UserInteraction.kept stored)).Nodup := by
    refine List.Nodup.map_on (fun x hx y hy hxy => eq_of_key_eq hx hy ?_) nodup_memoryList
    simp only [UserInteraction.kept, UserInteraction.mk.injEq] at hxy
    simp [UserInteraction.key, hxy]
  unfold postgresList
  rw [List.perm_ext_iff_of_nodup (nodup_listByCampaign hscan hpg) hkept]
  intro e
  rw [mem_listByCampaign hscan hpg fun i hi => observed_valid hi, List.mem_map]
  constructor
  · rintro ⟨i, hi, rfl⟩
    exact ⟨i, mem_memoryList.mpr hi, rfl⟩
  · rintro ⟨i, hi, rfl⟩
    exact ⟨i, mem_memoryList.mp hi, rfl⟩

lemma countActions_postgresList (hscan : ∀ rows, (scan rows).Perm rows) (hnow : ∀ c ∈ calls, c.now ≠ 0) :
    countActions campaignID (postgresList clock stored scan calls campaignID) =
      countActions campaignID (memoryList (performed calls) campaignID) := by
  refine countActions_ext fun a => ?_
  rw [(postgresList_perm hscan hnow).countP_eq, List.countP_map]
  rfl

/-- The users with an action, each of them once. -/
lemma memoryList_users (a : UserInteractionType) :
    (((memoryList calls campaignID).filter (·.action = a)).map UserInteraction.userHash).Perm
      (((observed calls).filter fun i => i.campaignID = campaignID ∧ i.action = a).map
        UserInteraction.userHash).dedup := by
  have hnodup : (((memoryList calls campaignID).filter (·.action = a)).map UserInteraction.userHash).Nodup := by
    refine List.Nodup.map_on (fun x hx y hy hxy => ?_) (nodup_memoryList.filter _)
    simp only [List.mem_filter, decide_eq_true_eq] at hx hy
    refine eq_of_key_eq hx.1 hy.1 ?_
    unfold UserInteraction.key
    rw [(mem_memoryList.mp hx.1).1, (mem_memoryList.mp hy.1).1, hxy, hx.2, hy.2]
  rw [List.perm_ext_iff_of_nodup hnodup (List.nodup_dedup _)]
  intro u
  simp only [List.mem_dedup, List.mem_map, List.mem_filter, decide_eq_true_eq]
  constructor
  · rintro ⟨e, ⟨he, rfl⟩, rfl⟩
    obtain ⟨hc, hfirst⟩ := mem_memoryList.mp he
    exact ⟨e, ⟨List.mem_of_find?_eq_some hfirst, hc, rfl⟩, rfl⟩
  · rintro ⟨i, ⟨hi, rfl, rfl⟩, rfl⟩
    obtain ⟨e, he⟩ := Option.isSome_iff_exists.mp (isSome_firstOf.mpr ⟨i, hi, rfl⟩)
    have hkey := key_of_firstOf he
    obtain ⟨hc, hu, ha⟩ := key_eq.mp hkey
    exact ⟨e, ⟨mem_memoryList.mpr ⟨hc, hkey ▸ he⟩, ha⟩, hu⟩

/-- Of what belongs to one campaign, the query takes all or nothing. -/
lemma filter_of_campaign {id : String} {items : List UserInteraction} (h : ∀ e ∈ items, e.campaignID = id) :
    items.filter (·.campaignID = campaignID) = if id = campaignID then items else [] := by
  split
  · next hid =>
    rw [List.filter_eq_self]
    intro e he
    simpa [hid] using h e he
  · next hid =>
    rw [List.filter_eq_nil_iff]
    intro e he
    simpa [h e he] using hid

/-- The interactions of one campaign among those of many. -/
lemma filter_flatMap_campaigns {f : String → List UserInteraction} (hf : ∀ id, ∀ e ∈ f id, e.campaignID = id)
    {ids : List String} (hids : ids.Nodup) :
    (ids.flatMap f).filter (·.campaignID = campaignID) = if campaignID ∈ ids then f campaignID else [] := by
  induction ids with
  | nil => rfl
  | cons id ids ih =>
    rw [List.nodup_cons] at hids
    rw [List.flatMap_cons, List.filter_append, filter_of_campaign (hf id), ih hids.2]
    by_cases hid : id = campaignID
    · subst hid
      rw [if_pos rfl, if_neg hids.1, if_pos List.mem_cons_self, List.append_nil]
    · rw [if_neg hid, List.nil_append]
      simp [Ne.symm hid]

lemma filter_flatMap_fanOut (rows : List Row) : (rows.flatMap Row.fanOut).filter (·.campaignID = campaignID) =
    (rows.filter (·.campaignID = campaignID)).flatMap Row.fanOut := by
  induction rows with
  | nil => rfl
  | cons r rows ih =>
    have hcampaign : ∀ e ∈ r.fanOut, e.campaignID = r.campaignID := by
      intro e he
      obtain ⟨col, -, rfl⟩ := mem_fanOut.mp he
      rfl
    rw [List.flatMap_cons, List.filter_append, filter_of_campaign hcampaign, ih]
    by_cases hr : r.campaignID = campaignID
    · rw [if_pos hr, List.filter_cons_of_pos (by simpa using hr), List.flatMap_cons]
    · rw [if_neg hr, List.filter_cons_of_neg (by simpa using hr), List.nil_append]

/-- `Aggregate` gives the same on either store. -/
lemma aggregate_postgres (hscan : ∀ rows, (scan rows).Perm rows) (hnow : ∀ c ∈ calls, c.now ≠ 0) :
    aggregate (postgresStore clock stored scan) (recordAll (postgresStore clock stored scan) [] calls) campaignID =
      aggregate memoryStore (recordAll memoryStore {} (performed calls)) campaignID := by
  unfold aggregate
  split
  · rfl
  · exact congrArg Except.ok (countActions_postgresList hscan hnow)

/-- **The stores agree.** After any calls, the store in memory lists what the contract asks for; the table in
Postgres lists the same for the calls whose `INSERT` was carried out, up to the order and to what a column keeps of a
time, and `Aggregate` gives the same result on either. -/
theorem interaction_stores_agree (hscan : ∀ rows, (scan rows).Perm rows) (hnow : ∀ c ∈ calls, c.now ≠ 0) :
    (∀ e, e ∈ memoryList calls campaignID ↔ FirstObserved (observed calls) campaignID e) ∧
      (memoryList calls campaignID).Nodup ∧
      (postgresList clock stored scan calls campaignID).Perm
        ((memoryList (performed calls) campaignID).map (UserInteraction.kept stored)) ∧
      aggregate (postgresStore clock stored scan) (recordAll (postgresStore clock stored scan) [] calls) campaignID =
        aggregate memoryStore (recordAll memoryStore {} (performed calls)) campaignID :=
  ⟨fun _ => mem_memoryList, nodup_memoryList, postgresList_perm hscan hnow, aggregate_postgres hscan hnow⟩

/-- The different users for whom some calls have recorded an action. -/
def usersWith (calls : List Call) (campaignID : String) (a : UserInteractionType) : List String :=
  (((observed calls).filter fun i => i.campaignID = campaignID ∧ i.action = a).map UserInteraction.userHash).dedup

lemma aggregate_memory {a : UserInteractionType} (ha : a.valid = true) :
    (aggregate memoryStore (recordAll memoryStore {} calls) campaignID).map (·.count a) =
      if campaignID = "" then .error .campaignRequired else .ok (usersWith calls campaignID a).length := by
  unfold aggregate
  split
  · rfl
  · refine congrArg Except.ok ?_
    show (countActions campaignID (memoryList calls campaignID)).count a = _
    rw [count_countActions _ _ ha, List.countP_eq_length_filter, usersWith, ← (memoryList_users a).length_eq,
      List.length_map]

/-- **An action counts once for a user.** After any calls, with repetitions and in any order, every counter of
`Aggregate` is the number of different users with this action, on either store; a call whose `INSERT` was not carried
out does not count in Postgres. -/
theorem aggregate_counts_users (hscan : ∀ rows, (scan rows).Perm rows) (hnow : ∀ c ∈ calls, c.now ≠ 0)
    {a : UserInteractionType} (ha : a.valid = true) :
    ((aggregate memoryStore (recordAll memoryStore {} calls) campaignID).map (·.count a) =
      if campaignID = "" then .error .campaignRequired else .ok (usersWith calls campaignID a).length) ∧
    (aggregate (postgresStore clock stored scan) (recordAll (postgresStore clock stored scan) [] calls) campaignID).map
        (·.count a) =
      if campaignID = "" then .error .campaignRequired
      else .ok (usersWith (performed calls) campaignID a).length := by
  refine ⟨aggregate_memory ha, ?_⟩
  rw [aggregate_postgres hscan hnow]
  exact aggregate_memory ha

/-- **The fast path finds what the plain one finds**, for every list of different campaigns, in either store. -/
theorem batch_load_agrees {ids : List String} (hids : ids.Nodup) :
    loadBatch memoryStore (recordAll memoryStore {} calls) ids campaignID =
        loadEach memoryStore (recordAll memoryStore {} calls) ids campaignID ∧
      ∀ table, (loadBatch (postgresStore clock stored scan) table ids campaignID).Perm
        (loadEach (postgresStore clock stored scan) table ids campaignID) := by
  refine ⟨filter_flatMap_campaigns (fun id e he => (mem_memoryList.mp he).1) hids, fun table => ?_⟩
  have hfilter : ∀ rows : List Row, ((sortBy Row.campaignID (sortBy Row.firstSeenAt rows)).filter
      (·.campaignID = campaignID)).Perm (rows.filter (·.campaignID = campaignID)) := fun rows =>
    ((sortBy_perm _).trans (sortBy_perm _)).filter _
  unfold loadBatch loadEach postgresStore
  simp only
  by_cases hmem : campaignID ∈ ids
  · rw [if_neg (List.ne_nil_of_mem hmem), if_pos hmem, filter_flatMap_fanOut]
    refine List.Perm.flatMap_right _ ((hfilter _).trans ?_)
    rw [List.filter_filter]
    refine List.Perm.trans (List.Perm.of_eq (List.filter_congr fun r _ => ?_)) (sortBy_perm _).symm
    by_cases hr : r.campaignID = campaignID <;> simp [hr, hmem]
  · rw [if_neg hmem]
    refine List.Perm.of_eq (List.filter_eq_nil_iff.mpr fun e he => ?_)
    split at he
    · exact absurd he List.not_mem_nil
    · -- a row of the query belongs to one of the campaigns
      obtain ⟨r, hr, he⟩ := List.mem_flatMap.mp he
      rw [mem_sortBy, mem_sortBy, List.mem_filter] at hr
      obtain ⟨col, -, rfl⟩ := mem_fanOut.mp he
      have hin : r.campaignID ∈ ids := by simpa using hr.2
      intro h
      have h' : r.campaignID = campaignID := by simpa using h
      exact hmem (h' ▸ hin)

/-- A delivery that is seen twice, a click, and a report that is not written. -/
def replayedCalls : List Call :=
  [⟨"camp-1", "u", .delivered, 1000, .done⟩, ⟨"camp-1", "u", .clickedLink, 2000, .done⟩,
    ⟨"camp-1", "u", .delivered, 3000, .done⟩, ⟨"camp-1", "u", .reportedPhishing, 4000, .failed "broken pipe" false⟩]

theorem replayed_delivery_listed_once :
    aggregate (postgresStore 0 (· / 1000) id) (recordAll (postgresStore 0 (· / 1000) id) [] replayedCalls) "camp-1" =
      aggregate memoryStore (recordAll memoryStore {} (performed replayedCalls)) "camp-1" :=
  (interaction_stores_agree (fun _ => List.Perm.refl _) (by decide)).2.2.2

theorem replayed_delivery_counted_once :
    (aggregate (postgresStore 0 (· / 1000) id) (recordAll (postgresStore 0 (· / 1000) id) [] replayedCalls)
      "camp-1").map (·.count .delivered) = .ok 1 :=
  (aggregate_counts_users (fun _ => List.Perm.refl _) (by decide) rfl).2

theorem two_campaigns_loaded :
    loadBatch memoryStore (recordAll memoryStore {} replayedCalls) ["camp-2", "camp-1"] "camp-1" =
      loadEach memoryStore (recordAll memoryStore {} replayedCalls) ["camp-2", "camp-1"] "camp-1" :=
  (@batch_load_agrees 0 id id replayedCalls "camp-1" _ (by decide)).1

end Agreement

end Sn360Es.Education
