import Mathlib.Data.List.Basic
import Mathlib.Data.List.Range
import Mathlib.Data.List.Count
import Mathlib.Data.List.Nodup
import Mathlib.Data.List.TakeWhile

/-!
# A trimmed log and a group that consumes it

A log only grows at its end, and its oldest entries may be trimmed. A group of consumers shares the log: every
entry is handed out once by `read`, is pending from then on, and leaves the pending list by `ack`. `autoClaim`
walks the pending list from a cursor and hands out again what has been idle for long enough.

* `Stream` — everything that was ever added, with the number of entries that are gone;
* `Group.Ok` — the pending list is in the order of the ids and holds only what was handed out; every operation
  keeps it;
* `mem_read_or` — an entry that is there is unread, or was handed out by this `read`;
* `mem_scan` — `autoClaim` takes only what is gone out of the pending list;
* `scan_count` — and counts what it hands out;
* `autoClaim_rank` — one call hands out an idle entry or moves the cursor towards it.
-/

namespace Lib.StreamGroup

variable {α : Type*}

/-! ### The log -/

/-- Everything that was ever added, and how many of the oldest entries are gone. Ids count from 1, so that 0 is
below all of them. -/
structure Stream (α : Type*) where
  log : List α := []
  trimmed : ℕ := 0

namespace Stream

variable (s : Stream α)

def lastId : ℕ := s.log.length

/-- The entry with an id, as long as it is there. -/
def get? (id : ℕ) : Option α := if s.trimmed < id then s.log[id - 1]? else none

/-- Adds an entry and trims the log until `trimTo` entries are gone, which must leave `maxLen` of them. With the
length 0 nothing is trimmed. -/
def add (maxLen trimTo : ℕ) (x : α) : Option (Stream α) :=
  if trimTo = s.trimmed ∨ 0 < maxLen ∧ s.trimmed ≤ trimTo ∧ trimTo + maxLen ≤ s.lastId + 1 then
    some { log := s.log ++ [x], trimmed := trimTo }
  else none

variable {s} {s' : Stream α} {maxLen trimTo id : ℕ} {x : α}

lemma get?_isSome : (s.get? id).isSome ↔ s.trimmed < id ∧ id ≤ s.lastId := by
  unfold get? lastId
  split
  · next h =>
    simp only [isSome_getElem?, h, true_and]
    omega
  · next h => simp [h]

lemma add_log (h : s.add maxLen trimTo x = some s') : s'.log = s.log ++ [x] := by
  unfold add at h
  split at h
  · exact Option.some.inj h ▸ rfl
  · cases h

lemma add_lastId (h : s.add maxLen trimTo x = some s') : s'.lastId = s.lastId + 1 := by
  unfold lastId
  rw [add_log h, List.length_append, List.length_singleton]

lemma add_trimmed_le (h : s.add maxLen trimTo x = some s') : s.trimmed ≤ s'.trimmed := by
  unfold add at h
  split at h
  · next hc =>
    obtain rfl := Option.some.inj h
    rcases hc with hc | ⟨-, hc, -⟩
    · exact hc.ge
    · exact hc
  · cases h

/-- Trimming leaves the newest `maxLen` entries. -/
def Long (maxLen : ℕ) (s : Stream α) : Prop := s.trimmed = 0 ∨ 0 < maxLen ∧ s.trimmed + maxLen ≤ s.lastId

lemma Long.add (hl : s.Long maxLen) (h : s.add maxLen trimTo x = some s') : s'.Long maxLen := by
  have hlast := add_lastId h
  unfold Stream.add at h
  split at h
  · next hc =>
    obtain rfl := Option.some.inj h
    unfold Long at hl ⊢
    rw [hlast]
    simp only
    omega
  · cases h

/-- What was added stays where it is in the log. -/
lemma add_getElem? (h : s.add maxLen trimTo x = some s') {v : α} (hv : s.log[id]? = some v) :
    s'.log[id]? = some v := by
  have hlt : id < s.log.length := (List.getElem?_eq_some_iff.mp hv).1
  rw [add_log h, List.getElem?_append_left hlt, hv]

end Stream

/-! ### The group -/

/-- An entry that was handed out and is not acknowledged: when that was last, and how often. -/
structure Claim where
  id : ℕ
  time : ℕ
  count : ℕ
  deriving DecidableEq, Repr

structure Group where
  lastDelivered : ℕ
  pending : List Claim := []
  deriving DecidableEq, Repr

/-- What a walk over the pending list leaves: the list, what it hands out, and where the next walk begins. -/
structure Scan where
  pending : List Claim
  claimed : List ℕ
  cursor : ℕ
  deriving DecidableEq, Repr

/-- The id of the first entry, and 0 at the end of the list. -/
def cursorAt (cs : List Claim) : ℕ := (cs.head?.map Claim.id).getD 0

/-- The walk: at most `attempts` entries are looked at and at most `count` answered. An entry that is gone from
the log leaves the list; one that is not idle yet is passed over. -/
def scan (live : ℕ → Bool) (now minIdle : ℕ) : ℕ → ℕ → List Claim → Scan
  | 0, _, cs => ⟨cs, [], cursorAt cs⟩
  | _, 0, cs => ⟨cs, [], cursorAt cs⟩
  | _, _, [] => ⟨[], [], 0⟩
  | attempts + 1, count + 1, x :: cs =>
    if live x.id then
      if now - x.time < minIdle then
        let r := scan live now minIdle attempts (count + 1) cs
        { r with pending := x :: r.pending }
      else
        let r := scan live now minIdle attempts count cs
        { r with
          pending := { x with time := now, count := x.count + 1 } :: r.pending
          claimed := x.id :: r.claimed }
    else scan live now minIdle attempts count cs

namespace Group

variable (g : Group) (s : Stream α)

def ids : List ℕ := g.pending.map Claim.id

/-- Everything up to here was handed out or is gone. -/
def seen : ℕ := max g.lastDelivered s.trimmed

/-- Hands out the next `n` entries. -/
def read (now n : ℕ) : Group × List ℕ :=
  let k := min n (s.lastId - g.seen s)
  let ids := List.range' (g.seen s + 1) k
  ({ lastDelivered := if k = 0 then g.lastDelivered else g.seen s + k
     pending := g.pending ++ ids.map fun i => ⟨i, now, 1⟩ }, ids)

def ack (id : ℕ) : Group := { g with pending := g.pending.filter (·.id ≠ id) }

/-- How often a pending entry was handed out. -/
def retryCount (id : ℕ) : Option ℕ := (g.pending.find? (·.id = id)).map Claim.count

/-- Hands out again, from the cursor on, at most `count` of the entries that have been idle. -/
def autoClaim (now minIdle start count : ℕ) : Group × Scan :=
  let r := scan (fun id => (s.get? id).isSome) now minIdle (count * 10) count
    (g.pending.dropWhile fun c => decide (c.id < start))
  ({ g with pending := (g.pending.takeWhile fun c => decide (c.id < start)) ++ r.pending }, r)

/-- How far a cursor is from an entry: the pending entries from the cursor on, and a whole round if the cursor is
past the entry. -/
def rank (start id : ℕ) : ℕ :=
  g.pending.countP (fun c => decide (start ≤ c.id)) + if start ≤ id then 0 else g.pending.length + 1

/-- The pending list is in the order of the ids, and holds only what was handed out. -/
structure Ok (g : Group) (last : ℕ) : Prop where
  sorted : g.ids.Pairwise (· < ·)
  pos : ∀ id ∈ g.ids, 0 < id
  handed : ∀ id ∈ g.ids, id ≤ g.lastDelivered
  below : g.lastDelivered ≤ last

end Group

/-! ### What the operations do -/

section Scans

variable {live : ℕ → Bool} {now minIdle : ℕ}

/-- **A walk stops at one place.** What is before it is answered, what is after it stays as it is, and the cursor
stands at it. -/
lemma scan_split (live : ℕ → Bool) (now minIdle attempts count : ℕ) (cs : List Claim) :
    ∃ before after rest, cs = before ++ rest ∧ (scan live now minIdle attempts count cs).pending = after ++ rest ∧
      (scan live now minIdle attempts count cs).cursor = cursorAt rest ∧
      (0 < attempts → 0 < count → before = [] → cs = []) ∧
      (∀ c ∈ before, live c.id = true → minIdle ≤ now - c.time →
        c.id ∈ (scan live now minIdle attempts count cs).claimed) ∧
      (after.map Claim.id).Sublist (before.map Claim.id) := by
  fun_induction scan live now minIdle attempts count cs with
  | case1 count cs => exact ⟨[], [], cs, rfl, rfl, rfl, fun h => absurd h (lt_irrefl _), by simp, .slnil⟩
  | case2 attempts cs => exact ⟨[], [], cs, rfl, rfl, rfl, fun _ h => absurd h (lt_irrefl _), by simp, .slnil⟩
  | case3 attempts count => exact ⟨[], [], [], rfl, rfl, rfl, fun _ _ _ => rfl, by simp, .slnil⟩
  | case4 attempts count x cs hlive hbusy r ih =>
    obtain ⟨before, after, rest, hcs, hp, hcur, -, hclaim, hsub⟩ := ih
    refine ⟨x :: before, x :: after, rest, by rw [hcs]; rfl, ?_, hcur, by simp, ?_, ?_⟩
    · show x :: r.pending = _
      rw [hp]
      rfl
    · intro c hc hl hidle
      rcases List.mem_cons.mp hc with rfl | hc
      · omega
      · exact hclaim c hc hl hidle
    · exact hsub.cons_cons _
  | case5 attempts count x cs hlive hidle r ih =>
    obtain ⟨before, after, rest, hcs, hp, hcur, -, hclaim, hsub⟩ := ih
    refine ⟨x :: before, { x with time := now, count := x.count + 1 } :: after, rest, by rw [hcs]; rfl, ?_, hcur,
      by simp, ?_, ?_⟩
    · show _ :: r.pending = _
      rw [hp]
      rfl
    · intro c hc hl hi
      rcases List.mem_cons.mp hc with rfl | hc
      · exact List.mem_cons_self
      · exact List.mem_cons_of_mem _ (hclaim c hc hl hi)
    · exact hsub.cons_cons _
  | case6 attempts count x cs hgone ih =>
    obtain ⟨before, after, rest, hcs, hp, hcur, -, hclaim, hsub⟩ := ih
    refine ⟨x :: before, after, rest, by rw [hcs]; rfl, hp, hcur, by simp, ?_, hsub.cons _⟩
    intro c hc hl hi
    rcases List.mem_cons.mp hc with rfl | hc
    · exact absurd hl hgone
    · exact hclaim c hc hl hi

/-- Only what is gone from the log leaves the list. -/
lemma mem_scan {attempts count id : ℕ} {cs : List Claim} (hl : live id = true) (h : id ∈ cs.map Claim.id) :
    id ∈ (scan live now minIdle attempts count cs).pending.map Claim.id := by
  fun_induction scan live now minIdle attempts count cs with
  | case1 => exact h
  | case2 => exact h
  | case3 => exact h
  | case4 attempts count x cs hlive hbusy r ih =>
    rcases List.mem_cons.mp h with rfl | h
    · exact List.mem_cons_self
    · exact List.mem_cons_of_mem _ (ih h)
  | case5 attempts count x cs hlive hidle r ih =>
    rcases List.mem_cons.mp h with rfl | h
    · exact List.mem_cons_self
    · exact List.mem_cons_of_mem _ (ih h)
  | case6 attempts count x cs hgone ih =>
    rcases List.mem_cons.mp h with rfl | h
    · exact absurd hl hgone
    · exact ih h

/-- What a walk hands out is in the list and in the log. -/
lemma scan_claimed {attempts count id : ℕ} {cs : List Claim}
    (h : id ∈ (scan live now minIdle attempts count cs).claimed) : id ∈ cs.map Claim.id ∧ live id = true := by
  fun_induction scan live now minIdle attempts count cs with
  | case1 => cases h
  | case2 => cases h
  | case3 => cases h
  | case4 attempts count x cs hlive hbusy r ih => exact ⟨List.mem_cons_of_mem _ (ih h).1, (ih h).2⟩
  | case5 attempts count x cs hlive hidle r ih =>
    rcases List.mem_cons.mp h with rfl | h
    · exact ⟨List.mem_cons_self, hlive⟩
    · exact ⟨List.mem_cons_of_mem _ (ih h).1, (ih h).2⟩
  | case6 attempts count x cs hgone ih => exact ⟨List.mem_cons_of_mem _ (ih h).1, (ih h).2⟩

/-- A walk counts what it hands out. -/
lemma scan_count {attempts count : ℕ} {cs : List Claim} (hn : (cs.map Claim.id).Nodup) {c : Claim}
    (h : c ∈ (scan live now minIdle attempts count cs).pending) :
    ∃ c₀ ∈ cs, c₀.id = c.id ∧
      c.count = c₀.count + (scan live now minIdle attempts count cs).claimed.count c.id := by
  fun_induction scan live now minIdle attempts count cs with
  | case1 => exact ⟨c, h, rfl, by simp⟩
  | case2 => exact ⟨c, h, rfl, by simp⟩
  | case3 => cases h
  | case4 attempts count x cs hlive hbusy r ih =>
    rw [List.map_cons, List.nodup_cons] at hn
    rcases List.mem_cons.mp h with rfl | h
    · have hnot : c.id ∉ r.claimed := fun hc => hn.1 (scan_claimed hc).1
      exact ⟨c, List.mem_cons_self, rfl, by simp [List.count_eq_zero_of_not_mem hnot]⟩
    · obtain ⟨c₀, hc₀, hid, hcount⟩ := ih hn.2 h
      exact ⟨c₀, List.mem_cons_of_mem _ hc₀, hid, hcount⟩
  | case5 attempts count x cs hlive hidle r ih =>
    rw [List.map_cons, List.nodup_cons] at hn
    rcases List.mem_cons.mp h with rfl | h
    · have hnot : x.id ∉ r.claimed := fun hc => hn.1 (scan_claimed hc).1
      exact ⟨x, List.mem_cons_self, rfl, by simp [List.count_eq_zero_of_not_mem hnot]⟩
    · obtain ⟨c₀, hc₀, hid, hcount⟩ := ih hn.2 h
      have hne : x.id ≠ c.id := by
        intro he
        exact hn.1 (List.mem_map.mpr ⟨c₀, hc₀, hid.trans he.symm⟩)
      exact ⟨c₀, List.mem_cons_of_mem _ hc₀, hid, by rw [List.count_cons_of_ne hne]; exact hcount⟩
  | case6 attempts count x cs hgone ih =>
    rw [List.map_cons, List.nodup_cons] at hn
    obtain ⟨c₀, hc₀, hid, hcount⟩ := ih hn.2 h
    exact ⟨c₀, List.mem_cons_of_mem _ hc₀, hid, hcount⟩

end Scans

section Groups

variable {g : Group} {s : Stream α} {last now minIdle start count n id : ℕ} {c : Claim}

namespace Group

lemma mem_ids : id ∈ g.ids ↔ ∃ c ∈ g.pending, c.id = id := by
  unfold ids
  rw [List.mem_map]

lemma mem_read : id ∈ (g.read s now n).2 ↔ g.seen s < id ∧ id ≤ g.seen s + min n (s.lastId - g.seen s) := by
  unfold read
  rw [List.mem_range'_1]
  omega

/-- **Nothing is skipped**: an entry that is there and was not handed out is handed out now or still to come. -/
lemma mem_read_or (ht : s.trimmed < id) (hl : id ≤ s.lastId) (hu : g.lastDelivered < id) :
    id ∈ (g.read s now n).2 ∨ (g.read s now n).1.lastDelivered < id := by
  rw [mem_read]
  unfold read seen
  simp only
  split <;> omega

lemma pending_read :
    (g.read s now n).1.pending = g.pending ++ (g.read s now n).2.map fun i => ⟨i, now, 1⟩ := rfl

lemma nodup_read : (g.read s now n).2.Nodup := List.nodup_range'

lemma ids_read : (g.read s now n).1.ids = g.ids ++ (g.read s now n).2 := by
  unfold read ids
  simp [Function.comp_def]

lemma lastDelivered_le_read : g.lastDelivered ≤ (g.read s now n).1.lastDelivered := by
  unfold read seen
  simp only
  split <;> omega

lemma lastDelivered_lt_read (hn : 0 < n) (h : g.seen s < s.lastId) :
    g.lastDelivered < (g.read s now n).1.lastDelivered := by
  unfold read
  unfold seen at h ⊢
  simp only
  rw [if_neg (by omega)]
  omega

lemma le_lastDelivered_read (h : id ∈ (g.read s now n).2) : id ≤ (g.read s now n).1.lastDelivered := by
  rw [mem_read] at h
  unfold read
  simp only
  split <;> omega

lemma Ok.read (h : g.Ok s.lastId) : (g.read s now n).1.Ok s.lastId where
  sorted := by
    rw [ids_read, List.pairwise_append]
    refine ⟨h.sorted, List.pairwise_lt_range' , fun a ha b hb => ?_⟩
    have := h.handed a ha
    rw [mem_read, seen] at hb
    omega
  pos := by
    intro id hid
    rw [ids_read, List.mem_append] at hid
    rcases hid with hid | hid
    · exact h.pos id hid
    · rw [mem_read] at hid
      omega
  handed := by
    intro id hid
    rw [ids_read, List.mem_append] at hid
    rcases hid with hid | hid
    · exact (h.handed id hid).trans lastDelivered_le_read
    · exact le_lastDelivered_read hid
  below := by
    have := h.below
    unfold Group.read seen
    simp only
    split <;> omega

/-- A part of the pending list is as ordered as the whole. -/
lemma Ok.of_sublist {g' : Group} (h : g.Ok last) (hsub : g'.ids.Sublist g.ids)
    (hl : g'.lastDelivered = g.lastDelivered) : g'.Ok last where
  sorted := h.sorted.sublist hsub
  pos := fun id hid => h.pos id (hsub.subset hid)
  handed := fun id hid => hl ▸ h.handed id (hsub.subset hid)
  below := hl ▸ h.below

lemma Ok.ack (h : g.Ok last) : (g.ack id).Ok last :=
  h.of_sublist (List.filter_sublist.map _) rfl

lemma mem_ids_ack {i : ℕ} : i ∈ (g.ack id).ids ↔ i ∈ g.ids ∧ i ≠ id := by
  rw [mem_ids, mem_ids]
  constructor
  · rintro ⟨c, hc, rfl⟩
    obtain ⟨hc, hne⟩ := List.mem_filter.mp hc
    exact ⟨⟨c, hc, rfl⟩, by simpa using hne⟩
  · rintro ⟨⟨c, hc, rfl⟩, hne⟩
    exact ⟨c, List.mem_filter.mpr ⟨hc, by simpa using hne⟩, rfl⟩

lemma retryCount_eq_some (h : g.retryCount id = some n) : ∃ c ∈ g.pending, c.id = id ∧ c.count = n := by
  unfold retryCount at h
  obtain ⟨c, hc, rfl⟩ := Option.map_eq_some_iff.mp h
  exact ⟨c, List.mem_of_find?_eq_some hc, by simpa using List.find?_some hc, rfl⟩

/-! #### Claiming -/

lemma ids_autoClaim_sublist : (g.autoClaim s now minIdle start count).1.ids.Sublist g.ids := by
  obtain ⟨before, after, rest, hcs, hp, -, -, -, hsub⟩ :=
    scan_split (fun id => (s.get? id).isSome) now minIdle (count * 10) count
      (g.pending.dropWhile fun c => decide (c.id < start))
  unfold autoClaim ids
  simp only
  rw [hp, List.map_append, List.map_append]
  nth_rewrite 2 [← List.takeWhile_append_dropWhile (p := fun c => decide (c.id < start)) (l := g.pending)]
  rw [hcs, List.map_append, List.map_append]
  exact (List.Sublist.refl _).append (hsub.append (List.Sublist.refl _))

lemma Ok.autoClaim (h : g.Ok last) : (g.autoClaim s now minIdle start count).1.Ok last :=
  h.of_sublist ids_autoClaim_sublist rfl

lemma mem_ids_iff_split (start : ℕ) :
    id ∈ g.ids ↔ id ∈ (g.pending.takeWhile fun c => decide (c.id < start)).map Claim.id ∨
      id ∈ (g.pending.dropWhile fun c => decide (c.id < start)).map Claim.id := by
  unfold ids
  rw [← List.mem_append, ← List.map_append, List.takeWhile_append_dropWhile]

/-- Claiming takes out only what is gone from the log. -/
lemma mem_ids_autoClaim (hl : (s.get? id).isSome) (h : id ∈ g.ids) :
    id ∈ (g.autoClaim s now minIdle start count).1.ids := by
  unfold autoClaim ids
  rw [List.map_append, List.mem_append]
  rcases (mem_ids_iff_split start).mp h with h | h
  · exact .inl h
  · exact .inr (mem_scan hl h)

lemma autoClaim_claimed (h : id ∈ (g.autoClaim s now minIdle start count).2.claimed) :
    id ∈ g.ids ∧ (s.get? id).isSome :=
  ⟨(mem_ids_iff_split start).mpr (.inr (scan_claimed h).1), (scan_claimed h).2⟩

/-- Claiming counts what it hands out. -/
lemma autoClaim_count (hok : g.Ok last) (h : c ∈ (g.autoClaim s now minIdle start count).1.pending) :
    ∃ c₀ ∈ g.pending, c₀.id = c.id ∧
      c.count = c₀.count + (g.autoClaim s now minIdle start count).2.claimed.count c.id := by
  have hnodup : g.ids.Nodup := hok.sorted.imp fun h => h.ne
  unfold ids at hnodup
  rw [← List.takeWhile_append_dropWhile (p := fun c => decide (c.id < start)) (l := g.pending), List.map_append,
    List.nodup_append] at hnodup
  obtain ⟨-, hpost, hdisj⟩ := hnodup
  rcases List.mem_append.mp h with h | h
  · -- before the cursor nothing is handed out
    have hnot : c.id ∉ (g.autoClaim s now minIdle start count).2.claimed := fun hc =>
      hdisj c.id (List.mem_map_of_mem h) c.id (scan_claimed hc).1 rfl
    exact ⟨c, (List.takeWhile_sublist _).subset h, rfl, by simp [List.count_eq_zero_of_not_mem hnot]⟩
  · obtain ⟨c₀, hc₀, hid, hcount⟩ := scan_count hpost h
    exact ⟨c₀, (List.dropWhile_sublist _).subset hc₀, hid, hcount⟩

lemma le_of_mem_dropWhile {cs : List Claim} (hs : (cs.map Claim.id).Pairwise (· < ·))
    (h : c ∈ cs.dropWhile fun c => decide (c.id < start)) : start ≤ c.id := by
  induction cs with
  | nil => cases h
  | cons x cs ih =>
    rw [List.map_cons, List.pairwise_cons] at hs
    rw [List.dropWhile_cons] at h
    split at h
    · exact ih hs.2 h
    · next hx =>
      have hx' : start ≤ x.id := by simpa using hx
      rcases List.mem_cons.mp h with rfl | h
      · exact hx'
      · have := hs.1 c.id (List.mem_map_of_mem h)
        omega

lemma head_le {y x : Claim} {rest : List Claim} (hs : ((y :: rest).map Claim.id).Pairwise (· < ·))
    (hx : x ∈ y :: rest) : y.id ≤ x.id := by
  rw [List.map_cons, List.pairwise_cons] at hs
  rcases List.mem_cons.mp hx with rfl | hx
  · exact le_rfl
  · exact (hs.1 x.id (List.mem_map_of_mem hx)).le

/-- The entries from a cursor on are those of the part that begins at it. -/
lemma countP_from {pre after rest : List Claim} {y : Claim} (hpre : ∀ x ∈ pre, x.id < y.id)
    (hafter : ∀ x ∈ after, x.id < y.id) (hs : ((y :: rest).map Claim.id).Pairwise (· < ·)) :
    (pre ++ (after ++ y :: rest)).countP (fun c => decide (y.id ≤ c.id)) = rest.length + 1 := by
  have hall : (y :: rest).countP (fun c => decide (y.id ≤ c.id)) = (y :: rest).length := by
    rw [List.countP_eq_length]
    intro x hx
    simpa using head_le hs hx
  rw [List.countP_append, List.countP_append, List.countP_eq_zero.mpr (by simpa using hpre),
    List.countP_eq_zero.mpr (by simpa using hafter), hall, List.length_cons]
  omega

/-- **An idle entry is handed out, or the cursor comes closer to it.** -/
lemma autoClaim_rank (start : ℕ) (hok : g.Ok last) (hc : c ∈ g.pending) (hl : (s.get? c.id).isSome)
    (hidle : minIdle ≤ now - c.time) (hcount : 0 < count) :
    c.id ∈ (g.autoClaim s now minIdle start count).2.claimed ∨
      c ∈ (g.autoClaim s now minIdle start count).1.pending ∧
        (g.autoClaim s now minIdle start count).1.rank (g.autoClaim s now minIdle start count).2.cursor c.id <
          g.rank start c.id := by
  obtain ⟨before, after, rest, hpost, hp, hcur, hmoves, hclaim, hsub⟩ :=
    scan_split (fun id => (s.get? id).isSome) now minIdle (count * 10) count
      (g.pending.dropWhile fun c => decide (c.id < start))
  have hpending : g.pending = (g.pending.takeWhile fun c => decide (c.id < start)) ++ (before ++ rest) := by
    rw [← hpost, List.takeWhile_append_dropWhile]
  have hlow : ∀ x ∈ g.pending.takeWhile fun c => decide (c.id < start), x.id < start := fun x hx => by
    simpa using List.mem_takeWhile_imp hx
  have hhigh : ∀ x ∈ before ++ rest, start ≤ x.id := fun x hx => le_of_mem_dropWhile hok.sorted (hpost ▸ hx)
  unfold autoClaim rank
  simp only
  rw [hp, hcur]
  generalize g.pending.takeWhile (fun c => decide (c.id < start)) = pre at *
  have hsorted := hok.sorted
  unfold ids at hsorted
  rw [hpending, List.map_append, List.map_append, List.pairwise_append, List.pairwise_append] at hsorted
  obtain ⟨-, ⟨-, hrest, hbr⟩, -⟩ := hsorted
  have htail : g.pending.countP (fun c => decide (start ≤ c.id)) = before.length + rest.length := by
    rw [hpending, List.countP_append, List.countP_eq_zero.mpr (by simpa using hlow),
      List.countP_eq_length.mpr (by simpa using hhigh), List.length_append, Nat.zero_add]
  have hafter : after.length ≤ before.length := by simpa using hsub.length_le
  have hlen : g.pending.length = pre.length + (before.length + rest.length) := by
    rw [hpending, List.length_append, List.length_append]
  cases rest with
  | nil =>
    -- the walk has come to the end, and the next one starts over
    rw [hpending, List.append_nil, List.mem_append] at hc
    rcases hc with hc | hc
    · right
      refine ⟨by simp [hc], ?_⟩
      have := hlow c hc
      simp only [cursorAt, List.head?_nil, Option.map_none, Option.getD_none, Nat.zero_le, decide_true,
        List.countP_true, if_true, List.length_append, List.append_nil]
      rw [if_neg (by omega)]
      omega
    · exact .inl (hclaim c hc hl hidle)
  | cons y rest =>
    have hbefore : before ≠ [] := fun h => by
      simpa [hpost] using hmoves (by omega) hcount h
    have hpos : 0 < before.length := List.length_pos_of_ne_nil hbefore
    have hy : start ≤ y.id := hhigh y (by simp)
    have hbefore' : ∀ x ∈ after, x.id < y.id := fun x hx =>
      hbr x.id (hsub.subset (List.mem_map_of_mem hx)) y.id (by simp)
    have hlow' : ∀ x ∈ pre, x.id < y.id := fun x hx => (hlow x hx).trans_le hy
    have hcursor : cursorAt (y :: rest) = y.id := rfl
    rw [hcursor, countP_from hlow' hbefore' hrest, htail]
    rw [hpending, List.mem_append, List.mem_append] at hc
    rcases hc with hc | hc | hc
    · -- the cursor is past the entry and goes on to the end
      right
      have := hlow c hc
      refine ⟨by simp [hc], ?_⟩
      rw [if_neg (by omega), if_neg (by omega), hlen]
      simp only [List.length_append, List.length_cons] at hlen ⊢
      omega
    · exact .inl (hclaim c hc hl hidle)
    · right
      refine ⟨by simp [hc], ?_⟩
      have h₁ := hhigh c (List.mem_append_right _ hc)
      rw [if_pos (head_le hrest hc), if_pos h₁, List.length_cons]
      omega

end Group

end Groups

end Lib.StreamGroup
