import Mathlib.Algebra.Order.Group.Int
import Mathlib.Data.List.Nodup
import Mathlib.Data.List.Perm.Subperm

/-!
# Reading a list through pages and a cursor

Items carry a time. A reader asks, again and again, for items later than its cursor, and moves the cursor to the
latest time it got; what it asks may return only a part of them.

* `drains_iff` — the reader gets every item before it gets nothing, exactly when at every cursor with items left
  the answer is not empty and has all items up to the next cursor;
* `FirstPage` — a page: the first items of a list in an order, up to a limit, with any choice among equals;
* `FirstPage.covers_iff` — a page has all items of an initial part exactly when these are at most the limit;
* `latest_drains_iff` — a page of the latest items: the later items must be at most the limit;
* `earliest_drains_iff` — a page of the earliest items after a point at or before the cursor: the times must be
  such that they can be cut into full pages (`Cuts`).
-/

namespace Lib.Paging

/-! ### The cursor -/

section Cursor

variable {μ : Type*} (time : μ → ℤ) (fetch : ℕ → ℤ → List μ) (start : ℤ)

/-- The latest time of a batch, or the cursor itself. -/
def nextCursor (s : ℤ) (batch : List μ) : ℤ := (batch.map time).foldl max s

/-- The cursor after some rounds. -/
def cursor : ℕ → ℤ
  | 0 => start
  | k + 1 => nextCursor time (cursor k) (fetch k (cursor k))

/-- What was read in some rounds. -/
def seen : ℕ → List μ
  | 0 => []
  | k + 1 => seen k ++ fetch k (cursor time fetch start k)

/-- The reader stops at the first empty answer, and has then read every later item. -/
def Drains (items : List μ) : Prop :=
  ∃ k, (∀ i < k, fetch i (cursor time fetch start i) ≠ []) ∧ fetch k (cursor time fetch start k) = [] ∧
    ∀ m ∈ items, start < time m → m ∈ seen time fetch start k

/-- The answer of a round is not empty and has all items up to the next cursor. -/
def Fits (items : List μ) (k : ℕ) : Prop :=
  fetch k (cursor time fetch start k) ≠ [] ∧
    ∀ m ∈ items, cursor time fetch start k < time m → time m ≤ cursor time fetch start (k + 1) →
      m ∈ fetch k (cursor time fetch start k)

lemma le_foldl_max (s : ℤ) (ts : List ℤ) : s ≤ ts.foldl max s ∧ ∀ t ∈ ts, t ≤ ts.foldl max s := by
  induction ts generalizing s with
  | nil => simp
  | cons t ts ih =>
    obtain ⟨h1, h2⟩ := ih (max s t)
    rw [List.foldl_cons]
    refine ⟨(le_max_left _ _).trans h1, ?_⟩
    intro u hu
    rcases List.mem_cons.mp hu with rfl | hmem
    · exact (le_max_right _ _).trans h1
    · exact h2 u hmem

lemma foldl_max_mem (s : ℤ) (ts : List ℤ) : ts.foldl max s = s ∨ ts.foldl max s ∈ ts := by
  induction ts generalizing s with
  | nil => exact .inl rfl
  | cons t ts ih =>
    rw [List.foldl_cons]
    rcases ih (max s t) with h | h
    · rw [h]
      rcases max_choice s t with hm | hm
      · exact .inl hm
      · rw [hm]
        exact .inr List.mem_cons_self
    · exact .inr (List.mem_cons_of_mem _ h)

variable {time fetch start}

lemma cursor_mono {i j : ℕ} (h : i ≤ j) : cursor time fetch start i ≤ cursor time fetch start j := by
  induction h with
  | refl => exact le_refl _
  | step _ ih => exact ih.trans (le_foldl_max _ _).1

lemma time_le_cursor {k : ℕ} {m : μ} (h : m ∈ fetch k (cursor time fetch start k)) :
    time m ≤ cursor time fetch start (k + 1) :=
  (le_foldl_max _ _).2 _ (List.mem_map_of_mem h)

lemma mem_seen {k : ℕ} {m : μ} :
    m ∈ seen time fetch start k ↔ ∃ i < k, m ∈ fetch i (cursor time fetch start i) := by
  induction k with
  | zero => simp [seen]
  | succ k ih =>
    rw [seen, List.mem_append, ih]
    constructor
    · rintro (⟨i, hi, hm⟩ | hm)
      · exact ⟨i, by omega, hm⟩
      · exact ⟨k, by omega, hm⟩
    · rintro ⟨i, hi, hm⟩
      rcases Nat.lt_succ_iff_lt_or_eq.mp hi with hlt | rfl
      · exact .inl ⟨i, hlt, hm⟩
      · exact .inr hm

/-- A time between the start and the cursor was passed in one of the rounds. -/
lemma exists_round {k : ℕ} {t : ℤ} (hlo : start < t) (hhi : t ≤ cursor time fetch start k) :
    ∃ i < k, cursor time fetch start i < t ∧ t ≤ cursor time fetch start (i + 1) := by
  induction k with
  | zero => exact absurd (lt_of_lt_of_le hlo hhi) (lt_irrefl _)
  | succ k ih =>
    rcases le_or_gt t (cursor time fetch start k) with h | h
    · obtain ⟨i, hi, hbetween⟩ := ih h
      exact ⟨i, by omega, hbetween⟩
    · exact ⟨k, by omega, h, hhi⟩

section Answers

variable {items : List μ}
  (hfetch : ∀ k, ∀ m ∈ fetch k (cursor time fetch start k), m ∈ items ∧ cursor time fetch start k < time m)

include hfetch

/-- The reader gets no item twice. -/
lemma seen_nodup (hnodup : ∀ k s, (fetch k s).Nodup) (k : ℕ) : (seen time fetch start k).Nodup := by
  induction k with
  | zero => exact List.nodup_nil
  | succ k ih =>
    refine List.nodup_append'.mpr ⟨ih, hnodup k _, fun m hm hm' => ?_⟩
    obtain ⟨i, hi, hmi⟩ := mem_seen.mp hm
    have hle := time_le_cursor hmi
    have hmono : cursor time fetch start (i + 1) ≤ cursor time fetch start k := cursor_mono (by omega)
    have hlt := (hfetch k m hm').2
    omega

/-- The items that are left get fewer in every round that reads something. -/
lemma left_lt {k : ℕ} (hne : fetch k (cursor time fetch start k) ≠ []) :
    (items.filter fun m => cursor time fetch start (k + 1) < time m).length <
      (items.filter fun m => cursor time fetch start k < time m).length := by
  have hle : cursor time fetch start k ≤ cursor time fetch start (k + 1) := cursor_mono (Nat.le_succ k)
  -- the latest item of the batch is the one that is gone
  have hmax : ∃ m ∈ items, cursor time fetch start k < time m ∧ time m = cursor time fetch start (k + 1) := by
    obtain ⟨x, hx⟩ := List.exists_mem_of_ne_nil _ hne
    have hxlt := (hfetch k x hx).2
    have hxle := time_le_cursor hx
    rcases foldl_max_mem (cursor time fetch start k) ((fetch k (cursor time fetch start k)).map time) with h | h
    · have hsame : cursor time fetch start (k + 1) = cursor time fetch start k := h
      omega
    · obtain ⟨m, hm, hmt⟩ := List.mem_map.mp h
      exact ⟨m, (hfetch k m hm).1, (hfetch k m hm).2, hmt⟩
  obtain ⟨m, hm, hlt, heq⟩ := hmax
  have hsub : (items.filter fun m => cursor time fetch start (k + 1) < time m) =
      (items.filter fun m => cursor time fetch start k < time m).filter
        fun m => cursor time fetch start (k + 1) < time m := by
    rw [List.filter_filter]
    refine List.filter_congr ?_
    intro x _
    rw [← Bool.decide_and, decide_eq_decide]
    omega
  rw [hsub, List.length_filter_lt_length_iff_exists]
  exact ⟨m, List.mem_filter.mpr ⟨hm, by simpa using hlt⟩, by simpa using heq.le⟩

/-- The reader comes to an end. -/
lemma exists_empty : ∃ k, (∀ i < k, fetch i (cursor time fetch start i) ≠ []) ∧
    fetch k (cursor time fetch start k) = [] := by
  by_contra hall
  simp only [not_exists, not_and] at hall
  have hne : ∀ k, fetch k (cursor time fetch start k) ≠ [] := by
    intro k
    induction k using Nat.strong_induction_on with
    | _ k ih => exact hall k ih
  have hdown : ∀ k, (items.filter fun m => cursor time fetch start k < time m).length + k ≤
      (items.filter fun m => start < time m).length := by
    intro k
    induction k with
    | zero => exact le_refl _
    | succ k ih =>
      have hlt := left_lt hfetch (hne k)
      omega
  have hbound := hdown ((items.filter fun m => start < time m).length + 1)
  omega

/-- **When a reader gets everything.** -/
theorem drains_iff : Drains time fetch start items ↔
    ∀ k, (∃ m ∈ items, cursor time fetch start k < time m) → Fits time fetch start items k := by
  have hfetched : ∀ {i : ℕ} {m : μ}, m ∈ fetch i (cursor time fetch start i) →
      cursor time fetch start i < time m ∧ time m ≤ cursor time fetch start (i + 1) :=
    fun hm => ⟨(hfetch _ _ hm).2, time_le_cursor hm⟩
  constructor
  · rintro ⟨n, hne, hempty, hall⟩ k ⟨m, hm, hlt⟩
    -- a later item was read in this round or after it
    have hround : ∀ m ∈ items, cursor time fetch start k < time m →
        ∃ i < n, k ≤ i ∧ m ∈ fetch i (cursor time fetch start i) := by
      intro m hm hlt
      have hstart : start ≤ cursor time fetch start k := cursor_mono (Nat.zero_le k)
      obtain ⟨i, hi, hmi⟩ := mem_seen.mp (hall m hm (by omega))
      refine ⟨i, hi, ?_, hmi⟩
      by_contra hik
      have hmono : cursor time fetch start (i + 1) ≤ cursor time fetch start k := cursor_mono (by omega)
      have hle := (hfetched hmi).2
      omega
    refine ⟨?_, ?_⟩
    · intro hnil
      -- the reader stops at its first empty answer, and it has read this item in a later round
      obtain ⟨i, hi, hki, -⟩ := hround m hm hlt
      exact hne k (by omega) hnil
    · intro m hm hlt hle
      obtain ⟨i, -, hki, hmi⟩ := hround m hm hlt
      rcases Nat.lt_or_eq_of_le hki with hlt' | rfl
      · have hmono : cursor time fetch start (k + 1) ≤ cursor time fetch start i := cursor_mono (by omega)
        have hgt := (hfetched hmi).1
        omega
      · exact hmi
  · intro hfits
    obtain ⟨n, hne, hempty⟩ := exists_empty hfetch
    refine ⟨n, hne, hempty, ?_⟩
    intro m hm hlt
    have hdone : time m ≤ cursor time fetch start n := by
      by_contra hgt
      exact (hfits n ⟨m, hm, by omega⟩).1 hempty
    obtain ⟨i, hi, hlo, hhi⟩ := exists_round hlt hdone
    exact mem_seen.mpr ⟨i, hi, (hfits i ⟨m, hm, hlo⟩).2 m hm hlo hhi⟩

end Answers

end Cursor

/-! ### Pages -/

/-- The first items in an order, up to a limit; among equals any may come first. -/
structure FirstPage {μ : Type*} (r : μ → μ → Prop) (limit : ℕ) (items page : List μ) : Prop where
  nodup : page.Nodup
  subset : ∀ m ∈ page, m ∈ items
  length : page.length = min limit items.length
  sorted : page.Pairwise r
  rest : ∀ x ∈ page, ∀ m ∈ items, m ∉ page → r x m

namespace FirstPage

variable {μ ν : Type*} {r : μ → μ → Prop} {limit : ℕ} {items page : List μ}

/-- A sorted list starts with its first page. -/
lemma take (hnodup : items.Nodup) (hsorted : items.Pairwise r) : FirstPage r limit items (items.take limit) where
  nodup := hnodup.sublist (List.take_sublist _ _)
  subset _ := List.mem_of_mem_take
  length := List.length_take
  sorted := hsorted.sublist (List.take_sublist _ _)
  rest x hx m hm hout := by
    have hsplit := List.take_append_drop limit items
    rw [← hsplit] at hm hsorted
    rcases List.mem_append.mp hm with hmem | hmem
    · exact absurd hmem hout
    · exact (List.pairwise_append.mp hsorted).2.2 x hx m hmem

/-- The same page of what the items stand for. -/
lemma map {f : μ → ν} {q : ν → ν → Prop} (h : FirstPage r limit items page)
    (hinj : ∀ x ∈ items, ∀ y ∈ items, f x = f y → x = y)
    (hq : ∀ x ∈ items, ∀ y ∈ items, r x y → q (f x) (f y)) :
    FirstPage q limit (items.map f) (page.map f) where
  nodup := h.nodup.map_on fun x hx y hy => hinj x (h.subset x hx) y (h.subset y hy)
  subset n hn := by
    obtain ⟨m, hm, rfl⟩ := List.mem_map.mp hn
    exact List.mem_map_of_mem (h.subset m hm)
  length := by rw [List.length_map, List.length_map, h.length]
  sorted := List.pairwise_map.mpr (h.sorted.imp_of_mem fun hx hy => hq _ (h.subset _ hx) _ (h.subset _ hy))
  rest y hy n hn hout := by
    obtain ⟨x, hx, rfl⟩ := List.mem_map.mp hy
    obtain ⟨m, hm, rfl⟩ := List.mem_map.mp hn
    exact hq x (h.subset x hx) m hm (h.rest x hx m hm fun hmem => hout (List.mem_map_of_mem hmem))

/-- **What a page covers.** It has all items of an initial part exactly when these are at most the limit. -/
theorem covers_iff (h : FirstPage r limit items page) (hnodup : items.Nodup) (P : μ → Prop) [DecidablePred P]
    (hdown : ∀ x m, r x m → P m → P x) :
    (∀ m ∈ items, P m → m ∈ page) ↔ (items.filter P).length ≤ limit := by
  have hlength := h.length
  constructor
  · intro hall
    have hsub : items.filter P ⊆ page := by
      intro m hm
      rw [List.mem_filter, decide_eq_true_eq] at hm
      exact hall m hm.1 hm.2
    have hle := (List.subperm_of_subset (hnodup.filter _) hsub).length_le
    omega
  · intro hcount m hm hPm
    by_contra hout
    -- the page and the item that it leaves out both lie in the initial part
    have hone : (m :: page).Nodup := List.nodup_cons.mpr ⟨hout, h.nodup⟩
    have hsub : m :: page ⊆ items.filter P := by
      intro x hx
      rw [List.mem_filter, decide_eq_true_eq]
      rcases List.mem_cons.mp hx with rfl | hx
      · exact ⟨hm, hPm⟩
      · exact ⟨h.subset x hx, hdown x m (h.rest x hx m hm hout) hPm⟩
    have hle := (List.subperm_of_subset hone hsub).length_le
    have hle' := List.length_filter_le (fun x => decide (P x)) items
    rw [List.length_cons] at hle
    omega

/-- A page with room for everything has everything. -/
lemma mem_of_length_le (h : FirstPage r limit items page) (hle : items.length ≤ limit) {m : μ} (hm : m ∈ items) :
    m ∈ page := by
  by_contra hout
  have hlength := h.length
  have hsub : m :: page ⊆ items := List.cons_subset.mpr ⟨hm, h.subset⟩
  have hle' := (List.subperm_of_subset (List.nodup_cons.mpr ⟨hout, h.nodup⟩) hsub).length_le
  rw [List.length_cons] at hle'
  omega

end FirstPage

/-! ### A reader of pages -/

section Readers

variable {μ : Type*} {time : μ → ℤ} {limit : ℕ} {items : List μ} {start : ℤ}

/-- The reader keeps what is later than its cursor. -/
def later (time : μ → ℤ) (page : ℕ → ℤ → List μ) (k : ℕ) (s : ℤ) : List μ := (page k s).filter (s < time ·)

lemma mem_later {page : ℕ → ℤ → List μ} {k : ℕ} {s : ℤ} {m : μ} :
    m ∈ later time page k s ↔ m ∈ page k s ∧ s < time m := by
  rw [later, List.mem_filter, decide_eq_true_eq]

/-- **The latest items.** Pages of the latest items are read to the end exactly when one page has them all. -/
theorem latest_drains_iff {page : ℕ → ℤ → List μ} (hnodup : items.Nodup)
    (hpage : ∀ k s, FirstPage (fun a b => time b ≤ time a) limit items (page k s)) :
    Drains time (later time page) start items ↔ (items.filter (start < time ·)).length ≤ limit := by
  have hfetch : ∀ k, ∀ m ∈ later time page k (cursor time (later time page) start k),
      m ∈ items ∧ cursor time (later time page) start k < time m :=
    fun k m hm => ⟨(hpage k _).subset m (mem_later.mp hm).1, (mem_later.mp hm).2⟩
  have hcover : ∀ k s, (∀ m ∈ items, start < time m → m ∈ page k s) ↔ (items.filter (start < time ·)).length ≤ limit :=
    fun k s => (hpage k s).covers_iff hnodup (start < time ·) fun x m hxm hm => lt_of_lt_of_le hm hxm
  rw [drains_iff hfetch]
  constructor
  · intro hfits
    rw [← hcover 0 start]
    intro m hm hlt
    obtain ⟨hne, hall⟩ := hfits 0 ⟨m, hm, hlt⟩
    by_contra hout
    -- the answer has an item, which is at least as late as the one that the page leaves out
    obtain ⟨x, hx⟩ := List.exists_mem_of_ne_nil _ hne
    have hle : time m ≤ time x := (hpage 0 start).rest x (mem_later.mp hx).1 m hm hout
    have hmem := hall m hm hlt (hle.trans (time_le_cursor hx))
    exact hout (mem_later.mp hmem).1
  · intro hcount k hleft
    have hstart : start ≤ cursor time (later time page) start k := cursor_mono (Nat.zero_le k)
    have hmem : ∀ m ∈ items, cursor time (later time page) start k < time m →
        m ∈ later time page k (cursor time (later time page) start k) := fun m hm hlt =>
      mem_later.mpr ⟨(hcover k _).mpr hcount m hm (lt_of_le_of_lt hstart hlt), hlt⟩
    obtain ⟨m, hm, hlt⟩ := hleft
    exact ⟨List.ne_nil_of_mem (hmem m hm hlt), fun m hm hlt _ => hmem m hm hlt⟩

/-- **Full pages.** From a cursor on, the times can be cut into pages: each has `limit` times after the point
where it starts and ends at a time after the cursor, with no equal time behind it; the last may have fewer. -/
inductive Cuts (low : ℤ → ℤ) (limit : ℕ) (ts : List ℤ) : ℤ → Prop
  | done {s : ℤ} (hdone : ∀ t ∈ ts, t ≤ s) : Cuts low limit ts s
  | last {s : ℤ} (hlast : (ts.filter (low s < ·)).length ≤ limit) : Cuts low limit ts s
  | page {s s' : ℤ} (hlt : s < s') (hmem : s' ∈ ts)
      (hfull : (ts.filter fun t => low s < t ∧ t ≤ s').length = limit) (hrest : Cuts low limit ts s') :
      Cuts low limit ts s

lemma length_filter_map (q : ℤ → Bool) : ((items.map time).filter q).length = (items.filter (q ∘ time)).length := by
  rw [List.filter_map, List.length_map]

section Earliest

variable {low : ℤ → ℤ} {page : ℕ → ℤ → List μ} (hlow : ∀ s, low s ≤ s) (hnodup : items.Nodup)
  (hpage : ∀ k s, FirstPage (fun a b => time a ≤ time b) limit (items.filter (low s < time ·)) (page k s))

include hlow in
/-- A page that ends at a time after the cursor and has all items up to it fits. -/
lemma fits_of_covered {k : ℕ} {s' : ℤ} (hs' : cursor time (later time page) start k < s')
    (hmem : s' ∈ items.map time)
    (hcover : ∀ m ∈ items, low (cursor time (later time page) start k) < time m → time m ≤ s' →
      m ∈ page k (cursor time (later time page) start k))
    (hpast : ∀ m ∈ page k (cursor time (later time page) start k), time m ≤ s') :
    Fits time (later time page) start items k ∧ cursor time (later time page) start (k + 1) = s' := by
  set s := cursor time (later time page) start k with hs
  have hlater : ∀ m ∈ items, s < time m → time m ≤ s' → m ∈ later time page k s := fun m hm hlt hle =>
    mem_later.mpr ⟨hcover m hm (lt_of_le_of_lt (hlow s) hlt) hle, hlt⟩
  obtain ⟨x, hx, hxs'⟩ := List.mem_map.mp hmem
  have hxlater : x ∈ later time page k s := hlater x hx (by omega) (by omega)
  have hcursor : cursor time (later time page) start (k + 1) = s' := by
    refine le_antisymm ?_ ?_
    · rcases foldl_max_mem s ((later time page k s).map time) with h | h
      · exact (show cursor time (later time page) start (k + 1) = s from h).trans_le hs'.le
      · obtain ⟨m, hm, hmt⟩ := List.mem_map.mp h
        have hle := hpast m (mem_later.mp hm).1
        exact (show cursor time (later time page) start (k + 1) = time m from hmt.symm).trans_le hle
    · rw [← hxs']
      exact time_le_cursor hxlater
  refine ⟨⟨List.ne_nil_of_mem hxlater, ?_⟩, hcursor⟩
  intro m hm hlt hle
  rw [hcursor] at hle
  exact hlater m hm hlt hle

include hpage

lemma later_fetched (k : ℕ) {m : μ} (hm : m ∈ later time page k (cursor time (later time page) start k)) :
    m ∈ items ∧ cursor time (later time page) start k < time m :=
  ⟨(List.mem_filter.mp ((hpage k _).subset m (mem_later.mp hm).1)).1, (mem_later.mp hm).2⟩

include hnodup

/-- The page has the items up to a time exactly when these are at most the limit. -/
lemma page_covers_iff (k : ℕ) (s s' : ℤ) :
    (∀ m ∈ items, low s < time m → time m ≤ s' → m ∈ page k s) ↔
      ((items.map time).filter fun t => low s < t ∧ t ≤ s').length ≤ limit := by
  have hcover := (hpage k s).covers_iff (hnodup.filter _) (time · ≤ s') fun x m hxm hm => le_trans hxm hm
  rw [List.filter_filter] at hcover
  have hsame : (items.filter fun m => decide (time m ≤ s') && decide (low s < time m)).length =
      ((items.map time).filter fun t => low s < t ∧ t ≤ s').length := by
    rw [length_filter_map]
    congr 2
    funext m
    rw [Function.comp_apply, Bool.decide_and, Bool.and_comm]
  rw [← hsame, ← hcover]
  simp only [List.mem_filter, decide_eq_true_eq, and_imp]

/-- A page that fits is full, or has everything. -/
lemma cuts_of_fits {k : ℕ} (hfits : Fits time (later time page) start items k)
    (hrest : Cuts low limit (items.map time) (cursor time (later time page) start (k + 1))) :
    Cuts low limit (items.map time) (cursor time (later time page) start k) := by
  obtain ⟨hne, hall⟩ := hfits
  set s := cursor time (later time page) start k with hs
  set s' := cursor time (later time page) start (k + 1) with hs'
  obtain ⟨x, hx⟩ := List.exists_mem_of_ne_nil _ hne
  have hxs := (mem_later.mp hx).2
  have hxs' : time x ≤ s' := time_le_cursor hx
  have hcover : ∀ m ∈ items, low s < time m → time m ≤ s' → m ∈ page k s := by
    intro m hm hlo hle
    by_contra hout
    -- it is not earlier than the item in the answer, so it is later than the cursor
    have hxm : time x ≤ time m := (hpage k s).rest x (mem_later.mp hx).1 m (by simpa using ⟨hm, hlo⟩) hout
    exact hout (mem_later.mp (hall m hm (by omega) hle)).1
  have hpast : ∀ m ∈ page k s, time m ≤ s' := by
    intro m hm
    by_cases hlater : s < time m
    · exact time_le_cursor (mem_later.mpr ⟨hm, hlater⟩)
    · omega
  have hperm : (page k s).length = ((items.map time).filter fun t => low s < t ∧ t ≤ s').length := by
    rw [length_filter_map]
    refine List.Perm.length_eq ((List.perm_ext_iff_of_nodup (hpage k s).nodup (hnodup.filter _)).mpr ?_)
    intro m
    simp only [List.mem_filter, Function.comp_apply, decide_eq_true_eq]
    constructor
    · intro hm
      have hsub := (hpage k s).subset m hm
      rw [List.mem_filter, decide_eq_true_eq] at hsub
      exact ⟨hsub.1, hsub.2, hpast m hm⟩
    · rintro ⟨hm, hlo, hle⟩
      exact hcover m hm hlo hle
  by_cases hfull : (page k s).length = limit
  · have hmem : s' ∈ items.map time := by
      rcases foldl_max_mem s ((later time page k s).map time) with h | h
      · have hsame : s' = s := h
        omega
      · obtain ⟨m, hm, hmt⟩ := List.mem_map.mp h
        exact List.mem_map.mpr ⟨m, (later_fetched hpage k hm).1, hmt⟩
    exact .page (by omega) hmem (by omega) hrest
  · have hlength := (hpage k s).length
    refine .last ?_
    rw [length_filter_map]
    simp only [Function.comp_def]
    omega

/-- A page with as many items up to a time as it can hold has nothing later. -/
lemma page_le (k : ℕ) {s s' : ℤ} (hfull : ((items.map time).filter fun t => low s < t ∧ t ≤ s').length = limit)
    {m : μ} (hm : m ∈ page k s) : time m ≤ s' := by
  by_contra hgt
  have hcover := (page_covers_iff hnodup hpage k s s').mpr hfull.le
  rw [length_filter_map] at hfull
  have hnodup' : (m :: items.filter ((fun t => decide (low s < t ∧ t ≤ s')) ∘ time)).Nodup := by
    refine List.nodup_cons.mpr ⟨?_, hnodup.filter _⟩
    intro hmem
    simp only [List.mem_filter, Function.comp_apply, decide_eq_true_eq] at hmem
    omega
  have hsub : m :: items.filter ((fun t => decide (low s < t ∧ t ≤ s')) ∘ time) ⊆ page k s := by
    refine List.cons_subset.mpr ⟨hm, ?_⟩
    intro x hx
    simp only [List.mem_filter, Function.comp_apply, decide_eq_true_eq] at hx
    exact hcover x hx.1 hx.2.1 hx.2.2
  have hle := (List.subperm_of_subset hnodup' hsub).length_le
  have hlength := (hpage k s).length
  rw [List.length_cons, hfull] at hle
  omega

include hlow

/-- **The earliest items.** Pages of the earliest items are read to the end exactly when the times can be cut
into full pages. -/
theorem earliest_drains_iff :
    Drains time (later time page) start items ↔ Cuts low limit (items.map time) start := by
  have hfetch : ∀ k, ∀ m ∈ later time page k (cursor time (later time page) start k),
      m ∈ items ∧ cursor time (later time page) start k < time m :=
    fun k m hm => later_fetched hpage k hm
  rw [drains_iff hfetch]
  constructor
  · intro hfits
    obtain ⟨n, hne, hempty⟩ := exists_empty hfetch
    -- back from the empty answer
    have hback : ∀ d k, k + d = n → Cuts low limit (items.map time) (cursor time (later time page) start k) := by
      intro d
      induction d with
      | zero =>
        intro k hk
        obtain rfl : k = n := by omega
        refine .done ?_
        intro t ht
        obtain ⟨m, hm, rfl⟩ := List.mem_map.mp ht
        by_contra hgt
        exact (hfits k ⟨m, hm, by omega⟩).1 hempty
      | succ d ih =>
        intro k hk
        obtain ⟨x, hx⟩ := List.exists_mem_of_ne_nil _ (hne k (by omega))
        exact cuts_of_fits hnodup hpage (hfits k ⟨x, hfetch k x hx⟩) (ih (k + 1) (by omega))
    exact hback n 0 (by omega)
  · intro hcuts
    have hforth : ∀ s, Cuts low limit (items.map time) s → ∀ k, cursor time (later time page) start k = s →
        ∀ j, k ≤ j → (∃ m ∈ items, cursor time (later time page) start j < time m) →
          Fits time (later time page) start items j := by
      intro s hcuts
      induction hcuts with
      | done hdone =>
        rintro k rfl j hkj ⟨m, hm, hlt⟩
        have hmono : cursor time (later time page) start k ≤ cursor time (later time page) start j := cursor_mono hkj
        have hle := hdone _ (List.mem_map_of_mem hm)
        omega
      | last hlast =>
        rintro k rfl j hkj ⟨m, hm, hlt⟩
        set s := cursor time (later time page) start k with hs
        rw [length_filter_map] at hlast
        have hlater : ∀ m ∈ items, s < time m → m ∈ later time page k s := by
          intro m hm hlt
          have hmem : m ∈ items.filter (low s < time ·) := by simpa using ⟨hm, lt_of_le_of_lt (hlow s) hlt⟩
          exact mem_later.mpr ⟨(hpage k s).mem_of_length_le hlast hmem, hlt⟩
        rcases Nat.lt_or_eq_of_le hkj with hlt' | rfl
        · -- after this round nothing is left
          have hmono : cursor time (later time page) start (k + 1) ≤ cursor time (later time page) start j :=
            cursor_mono hlt'
          have hmono' : s ≤ cursor time (later time page) start (k + 1) := cursor_mono (Nat.le_succ k)
          have hle : time m ≤ cursor time (later time page) start (k + 1) :=
            time_le_cursor (hlater m hm (by omega))
          omega
        · exact ⟨List.ne_nil_of_mem (hlater m hm hlt), fun m hm hlt _ => hlater m hm hlt⟩
      | page hlt hmem hfull hrest ih =>
        rintro k rfl j hkj hleft
        obtain ⟨hfits, hcursor⟩ := fits_of_covered hlow hlt hmem
          ((page_covers_iff hnodup hpage k _ _).mpr hfull.le) (fun m hm => page_le hnodup hpage k hfull hm)
        rcases Nat.lt_or_eq_of_le hkj with hlt' | rfl
        · exact ih (k + 1) hcursor j hlt' hleft
        · exact hfits
    exact fun k => hforth start hcuts 0 rfl k (Nat.zero_le k)

end Earliest

end Readers

end Lib.Paging
