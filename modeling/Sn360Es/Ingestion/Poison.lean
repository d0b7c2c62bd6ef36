import Mathlib.Algebra.Order.BigOperators.Group.Finset
import Mathlib.Data.Int.LeastGreatest
import Sn360Es.Ingestion.Poller
import Sn360Es.Lib.Paging

/-!
# A poison message (`pollMailbox`)

One message of a mailbox fails whenever it is tried, all others get through. The provider returns the earliest messages
after the checkpoint, up to the batch size; the folder does not change, and the checkpoint store keeps what it is given.
The barrier of the poison message holds the checkpoint back, so what was received after it is published again in every
cycle, or never comes into a batch.

* `newest_attempts` — where the checkpoint goes;
* `after_reader` — if the poison message is the last one, the others are read in pages (`Lib.Paging`);
* `stuck` — if it is not, the cycles come to a point where the poison message heads every batch;
* `poison_spares_iff` — so the others are served exactly if they all came earlier and can be cut into full pages.
-/

namespace Sn360Es.Ingestion

open Lib Lib.Paging

/-! ### One batch -/

/-- `Normalize`, `marshalRequest` and `Publish`, as a cycle meets them. -/
structure Outbox (μ ρ β : Type) where
  normalize : μ → Except String ρ
  marshalRequest : ρ → Except String β
  publish : β → Option String

/-- A message gets through. -/
def Outbox.publishes {μ ρ β : Type} (o : Outbox μ ρ β) (m : μ) : Bool :=
  match o.normalize m with
  | .error _ => false
  | .ok req =>
    match o.marshalRequest req with
    | .error _ => false
    | .ok payload => (o.publish payload).isNone

section Batch

variable {μ : Type} [DecidableEq μ] {time : μ → ℤ} {p : μ} {raws : List μ} {since wall : ℤ}

/-- A batch in which `p` alone fails. -/
def attempts (p : μ) (wall : ℤ) (raws : List μ) : List (Fetched μ) := raws.map fun m => ⟨m, decide (m ≠ p), wall⟩

/-- The messages that move the checkpoint. -/
def passing (time : μ → ℤ) (p : μ) (raws : List μ) : List μ :=
  raws.filter fun m => m ≠ p ∧ (p ∈ raws → time m < time p)

lemma foldl_barrier_attempts (hne : ∀ m ∈ raws, time m ≠ 0) {b : ℤ} (hb : b = 0 ∨ b = time p) :
    (attempts p wall raws).foldl
      (fun barrier f => if f.ok then barrier else recordFailure barrier (f.timestamp time)) b =
        if p ∈ raws then time p else b := by
  induction raws generalizing b with
  | nil => rfl
  | cons m raws ih =>
    have hrest := fun b hb => ih (fun x hx => hne x (List.mem_cons_of_mem _ hx)) (b := b) hb
    rw [attempts, List.map_cons, List.foldl_cons]
    by_cases hm : m = p
    · subst hm
      have hrec : recordFailure b (Fetched.timestamp time ⟨m, decide (m ≠ m), wall⟩) = time m := by
        have htime : Fetched.timestamp time ⟨m, decide (m ≠ m), wall⟩ = time m := if_neg (hne m List.mem_cons_self)
        rw [htime]
        unfold recordFailure
        split_ifs with h
        · rfl
        · rcases hb with hb | hb
          · exact absurd (Or.inl hb) h
          · exact hb
      simp only [ne_eq, not_true_eq_false, decide_false, Bool.false_eq_true, if_false] at hrec ⊢
      rw [hrec]
      refine (hrest (time m) (Or.inr rfl)).trans ?_
      simp
    · simp only [hm, ne_eq, not_false_eq_true, decide_true, if_true]
      refine (hrest b hb).trans ?_
      simp [Ne.symm hm]

lemma foldl_advanceNewest_eq (barrier : ℤ) (ts : List ℤ) (s : ℤ) : ts.foldl (advanceNewest barrier) s =
    (ts.filter fun t => barrier = 0 ∨ t < barrier).foldl max s := by
  induction ts generalizing s with
  | nil => rfl
  | cons t ts ih =>
    rw [List.foldl_cons, ih]
    unfold advanceNewest
    by_cases ht : barrier = 0 ∨ t < barrier
    · have hgate : ¬ (barrier ≠ 0 ∧ ¬ t < barrier) := fun h => ht.elim h.1 h.2
      rw [List.filter_cons_of_pos (by simpa using ht), List.foldl_cons, if_neg hgate]
      congr 1
      split_ifs <;> omega
    · rw [not_or] at ht
      rw [List.filter_cons_of_neg (by simpa using ht), if_pos ht]

/-- **Where the checkpoint goes**: to the latest message before the poison. -/
lemma newest_attempts (hne : ∀ m ∈ raws, time m ≠ 0) :
    newest time since (attempts p wall raws) = nextCursor time since (passing time p raws) := by
  have hbarrier : failBarrier time (attempts p wall raws) = if p ∈ raws then time p else 0 :=
    foldl_barrier_attempts hne (Or.inl rfl)
  have hok : successes time (attempts p wall raws) = (raws.filter (· ≠ p)).map time := by
    unfold successes attempts
    rw [List.filter_map, List.map_map]
    refine List.map_congr_left fun m hm => ?_
    exact if_neg (hne m (List.mem_filter.mp hm).1)
  unfold newest nextCursor passing
  rw [hok, hbarrier, foldl_advanceNewest_eq, List.filter_map, List.filter_filter]
  congr 2
  refine List.filter_congr fun m hm => ?_
  by_cases hp : p ∈ raws
  · have hp0 := hne p hp
    simp [hp, hp0, Bool.and_comm]
  · simp [hp]

end Batch

/-! ### A mailbox with one poison message -/

/-- What the cycles of a mailbox meet. -/
structure MailboxRun (μ ρ β : Type) where
  receivedAt : μ → ℤ
  fetchNew : ℕ → ℤ → List μ
  outbox : ℕ → Outbox μ ρ β
  now : ℕ → ℤ
  lookback : ℤ

/-- The checkpoint of a mailbox and what was published from it. -/
structure Progress (μ : Type) where
  checkpoint : Option ℤ
  published : List μ := []

variable {μ ρ β : Type}

namespace MailboxRun

variable (r : MailboxRun μ ρ β)

/-- Where a cycle starts. -/
def since (k : ℕ) (s : Progress μ) : ℤ := resolveSince (r.now k) r.lookback (.ok s.checkpoint)

def fetched (k : ℕ) (s : Progress μ) : List (Fetched μ) :=
  (r.fetchNew k (r.since k s)).map fun m => ⟨m, (r.outbox k).publishes m, r.now k⟩

/-- One cycle of `pollMailbox`. -/
def cycle (k : ℕ) (s : Progress μ) : Progress μ where
  checkpoint := (newCheckpoint r.receivedAt (r.since k s) (r.fetched k s)).or s.checkpoint
  published := s.published ++ ((r.fetched k s).filter (·.ok)).map (·.msg)

/-- The state after some cycles. -/
def after (init : Option ℤ) : ℕ → Progress μ
  | 0 => { checkpoint := init }
  | k + 1 => r.cycle k (after init k)

variable [DecidableEq μ]

/-- One message of the folder fails in every cycle and no other does; the provider returns the earliest messages. -/
structure Poisoned (messages : List μ) (limit : ℕ) (poison : μ) : Prop where
  nodup : messages.Nodup
  mem : poison ∈ messages
  serves : ∀ k s, FirstPage (fun a b => r.receivedAt a ≤ r.receivedAt b) limit
    (messages.filter (s < r.receivedAt ·)) (r.fetchNew k s)
  publishes : ∀ k, ∀ m ∈ messages, (r.outbox k).publishes m = decide (m ≠ poison)

/-- Every other message gets through, and none of them more than a fixed number of times. -/
def Served (init : Option ℤ) (messages : List μ) (poison : μ) (start : ℤ) : Prop :=
  (∀ m ∈ messages, m ≠ poison → start < r.receivedAt m → ∃ n, m ∈ (r.after init n).published) ∧
    ∃ bound, ∀ n m, m ≠ poison → (r.after init n).published.count m ≤ bound

/-- The other messages after the start. -/
def others (messages : List μ) (poison : μ) (start : ℤ) : List μ :=
  messages.filter fun m => m ≠ poison ∧ start < r.receivedAt m

/-- The poison message is the last one, and the times of the others can be cut into full batches. -/
structure Spared (messages : List μ) (limit : ℕ) (poison : μ) (start : ℤ) : Prop where
  last : start < r.receivedAt poison → ∀ m ∈ messages, m ≠ poison → r.receivedAt m < r.receivedAt poison
  cuts : Cuts id limit ((r.others messages poison start).map r.receivedAt) start

variable {r} {messages : List μ} {limit : ℕ} {poison : μ} {start : ℤ} {init : Option ℤ}

lemma mem_others {m : μ} : m ∈ r.others messages poison start ↔
    m ∈ messages ∧ m ≠ poison ∧ start < r.receivedAt m := by
  rw [others, List.mem_filter, decide_eq_true_eq]

lemma Poisoned.mem_fetchNew (h : r.Poisoned messages limit poison) {k : ℕ} {s : ℤ} {m : μ} (hm : m ∈ r.fetchNew k s) :
    m ∈ messages ∧ s < r.receivedAt m := by
  simpa using (h.serves k s).subset m hm

/-- **One cycle**, from a point in time on. -/
lemma Poisoned.cycle_eq (h : r.Poisoned messages limit poison) {k : ℕ} {s : Progress μ} (hs : 0 < r.since k s) :
    r.cycle k s =
      { checkpoint :=
          (if r.since k s < nextCursor r.receivedAt (r.since k s)
              (passing r.receivedAt poison (r.fetchNew k (r.since k s))) then
            some (nextCursor r.receivedAt (r.since k s) (passing r.receivedAt poison (r.fetchNew k (r.since k s))))
          else none).or s.checkpoint
        published := s.published ++ (r.fetchNew k (r.since k s)).filter (· ≠ poison) } := by
  have hbatch : r.fetched k s = attempts poison (r.now k) (r.fetchNew k (r.since k s)) := by
    unfold fetched attempts
    refine List.map_congr_left fun m hm => ?_
    rw [h.publishes k m (h.mem_fetchNew hm).1]
  have hne : ∀ m ∈ r.fetchNew k (r.since k s), r.receivedAt m ≠ 0 := by
    intro m hm
    have hlt := (h.mem_fetchNew hm).2
    omega
  have hpublished : ((attempts poison (r.now k) (r.fetchNew k (r.since k s))).filter (·.ok)).map (·.msg) =
      (r.fetchNew k (r.since k s)).filter (· ≠ poison) := by
    unfold attempts
    rw [List.filter_map, List.map_map]
    exact List.map_id _
  unfold cycle newCheckpoint
  rw [hbatch, newest_attempts hne, hpublished]

omit [DecidableEq μ] in
lemma since_of_checkpoint {k : ℕ} {s : Progress μ} {c : ℤ} (hc : s.checkpoint = some c) (hpos : 0 < c) :
    r.since k s = c := by
  have hne : c ≠ 0 := by omega
  unfold since resolveSince
  rw [hc]
  exact if_neg hne

/-! ### The poison message is the last one -/

section Last

variable (r) in
/-- The other messages of a batch. -/
def otherPage (poison : μ) (start : ℤ) (k : ℕ) (s : ℤ) : List μ := (r.fetchNew k (max s start)).filter (· ≠ poison)

variable (h : r.Poisoned messages limit poison)
  (hlast : start < r.receivedAt poison → ∀ m ∈ messages, m ≠ poison → r.receivedAt m < r.receivedAt poison)

include h hlast

/-- Behind the poison message nothing is cut off. -/
lemma firstPage_others (k : ℕ) (s : ℤ) : FirstPage (fun a b => r.receivedAt a ≤ r.receivedAt b) limit
    ((r.others messages poison start).filter (s < r.receivedAt ·)) (r.otherPage poison start k s) := by
  have hpage := h.serves k (max s start)
  have hitems : (r.others messages poison start).filter (s < r.receivedAt ·) =
      (messages.filter (max s start < r.receivedAt ·)).filter (· ≠ poison) := by
    unfold others
    rw [List.filter_filter, List.filter_filter]
    refine List.filter_congr fun m _ => ?_
    rw [Bool.eq_iff_iff]
    simp only [Bool.and_eq_true, decide_eq_true_eq, max_lt_iff]
    tauto
  have hall := h.nodup.filter fun m => decide (max s start < r.receivedAt m)
  rw [hitems]
  have hsub : ∀ m ∈ r.otherPage poison start k s,
      m ∈ (messages.filter (max s start < r.receivedAt ·)).filter (· ≠ poison) := by
    intro m hm
    obtain ⟨hmem, hne⟩ := List.mem_filter.mp hm
    exact List.mem_filter.mpr ⟨hpage.subset m hmem, hne⟩
  have hnodup : (r.otherPage poison start k s).Nodup := hpage.nodup.filter _
  refine ⟨hnodup, hsub, ?_, hpage.sorted.sublist List.filter_sublist, ?_⟩
  · have hle := (List.subperm_of_subset hnodup hsub).length_le
    have hlength := hpage.length
    by_cases hp : poison ∈ r.fetchNew k (max s start)
    · -- the batch reaches the poison message, so it has everything before it
      have hafter := (h.mem_fetchNew hp).2
      have hcover : (messages.filter (max s start < r.receivedAt ·)).filter (· ≠ poison) ⊆
          r.otherPage poison start k s := by
        intro m hm
        obtain ⟨hm, hne⟩ := List.mem_filter.mp hm
        refine List.mem_filter.mpr ⟨?_, hne⟩
        by_contra hout
        have hmem := (List.mem_filter.mp hm).1
        have hlate : r.receivedAt poison ≤ r.receivedAt m := hpage.rest poison hp m hm hout
        have hearly := hlast (by omega) m hmem (by simpa using hne)
        omega
      have hge := (List.subperm_of_subset (hall.filter _) hcover).length_le
      have hfilter : (r.otherPage poison start k s).length ≤ (r.fetchNew k (max s start)).length :=
        List.length_filter_le _ _
      omega
    · have hsame : r.otherPage poison start k s = r.fetchNew k (max s start) := by
        refine List.filter_eq_self.mpr fun m hm => ?_
        simp only [ne_eq, decide_eq_true_eq]
        rintro rfl
        exact hp hm
      by_cases hpoison : poison ∈ messages.filter (max s start < r.receivedAt ·)
      · have hfull : ¬ (messages.filter (max s start < r.receivedAt ·)).length ≤ limit := fun hle =>
          hp (hpage.mem_of_length_le hle hpoison)
        rw [hsame] at hle ⊢
        omega
      · have hfilter : (messages.filter (max s start < r.receivedAt ·)).filter (· ≠ poison) =
            messages.filter (max s start < r.receivedAt ·) := by
          refine List.filter_eq_self.mpr fun m hm => ?_
          simp only [ne_eq, decide_eq_true_eq]
          rintro rfl
          exact hpoison hm
        rw [hsame, hfilter, hlength]
  · intro x hx m hm hout
    obtain ⟨hm, hne⟩ := List.mem_filter.mp hm
    exact hpage.rest x (List.mem_filter.mp hx).1 m hm fun hmem => hout (List.mem_filter.mpr ⟨hmem, hne⟩)

omit hlast in
lemma later_otherPage {k : ℕ} {s : ℤ} (hs : start ≤ s) :
    later r.receivedAt (r.otherPage poison start) k s = (r.fetchNew k s).filter (· ≠ poison) := by
  unfold later otherPage
  rw [max_eq_left hs]
  refine List.filter_eq_self.mpr fun m hm => ?_
  simpa using (h.mem_fetchNew (List.mem_filter.mp hm).1).2

lemma passing_eq {k : ℕ} {s : ℤ} (hs : start ≤ s) :
    passing r.receivedAt poison (r.fetchNew k s) = (r.fetchNew k s).filter (· ≠ poison) := by
  unfold passing
  refine List.filter_congr fun m hm => ?_
  rw [decide_eq_decide]
  refine and_iff_left_of_imp fun hne hp => ?_
  have hafter := (h.mem_fetchNew hp).2
  exact hlast (by omega) m (h.mem_fetchNew hm).1 hne

/-- The cursor of a reader of these pages. -/
abbrev otherCursor (r : MailboxRun μ ρ β) (poison : μ) (start : ℤ) : ℕ → ℤ :=
  cursor r.receivedAt (later r.receivedAt (r.otherPage poison start)) start

/-- The first batch gets something, if there is something. -/
lemma lt_otherCursor_one (hlimit : 1 ≤ limit) (hothers : r.others messages poison start ≠ []) :
    start < otherCursor r poison start 1 := by
  have hpage := firstPage_others h hlast 0 start
  obtain ⟨m, hm⟩ := List.exists_mem_of_ne_nil _ hothers
  have hafter : start < r.receivedAt m := (mem_others.mp hm).2.2
  have hmem : m ∈ (r.others messages poison start).filter (start < r.receivedAt ·) :=
    List.mem_filter.mpr ⟨hm, by simpa using hafter⟩
  have hcount := List.length_pos_of_mem hmem
  have hlength := hpage.length
  obtain ⟨x, hx⟩ := List.exists_mem_of_length_pos (show 0 < (r.otherPage poison start 0 start).length by omega)
  have hlt : start < r.receivedAt x := by simpa using (List.mem_filter.mp (hpage.subset x hx)).2
  have hle : r.receivedAt x ≤ otherCursor r poison start 1 :=
    time_le_cursor (show x ∈ later r.receivedAt (r.otherPage poison start) 0 (otherCursor r poison start 0) from
      mem_later.mpr ⟨hx, hlt⟩)
  exact lt_of_lt_of_le hlt hle

/-- **The others are read in pages**, if there is a checkpoint to begin with or something that sets one. -/
theorem after_reader (hpos : 0 < start) (hlimit : 1 ≤ limit) (hstart : r.since 0 { checkpoint := init } = start)
    (hinit : init = some start ∨ r.others messages poison start ≠ []) (k : ℕ) :
    r.since k (r.after init k) = otherCursor r poison start k ∧
      (r.after init k).published =
        seen r.receivedAt (later r.receivedAt (r.otherPage poison start)) start k ∧
      (k = 0 ∨ (r.after init k).checkpoint = some (otherCursor r poison start k)) := by
  induction k with
  | zero => exact ⟨hstart, rfl, Or.inl rfl⟩
  | succ k ih =>
    obtain ⟨hsince, hpublished, hcheckpoint⟩ := ih
    have hmono : start ≤ otherCursor r poison start k := cursor_mono (Nat.zero_le k)
    have hcycle := h.cycle_eq (k := k) (s := r.after init k) (by omega)
    rw [hsince, passing_eq h hlast hmono, ← later_otherPage h hmono] at hcycle
    have hnext : nextCursor r.receivedAt (otherCursor r poison start k)
        (later r.receivedAt (r.otherPage poison start) k (otherCursor r poison start k)) =
          otherCursor r poison start (k + 1) := rfl
    rw [hnext, hpublished] at hcycle
    have hcheckpoint' : (r.after init (k + 1)).checkpoint = some (otherCursor r poison start (k + 1)) := by
      rw [after, hcycle]
      dsimp only
      split_ifs with hmoves
      · rfl
      · -- nothing was read: this is not the first cycle of a mailbox without a checkpoint
        have hstay : otherCursor r poison start (k + 1) = otherCursor r poison start k :=
          le_antisymm (not_lt.mp hmoves) (cursor_mono (Nat.le_succ k))
        rw [hstay, Option.none_or]
        rcases hcheckpoint with rfl | hsome
        · rcases hinit with rfl | hothers
          · rfl
          · exact absurd (lt_otherCursor_one h hlast hlimit hothers) hmoves
        · exact hsome
    have hpos' : 0 < otherCursor r poison start (k + 1) := by
      have hmono' : start ≤ otherCursor r poison start (k + 1) := cursor_mono (Nat.zero_le _)
      omega
    refine ⟨since_of_checkpoint hcheckpoint' hpos', ?_, Or.inr hcheckpoint'⟩
    rw [after, hcycle]
    rfl

lemma later_mem_others (k : ℕ) {s : ℤ} {m : μ} (hm : m ∈ later r.receivedAt (r.otherPage poison start) k s) :
    m ∈ r.others messages poison start ∧ s < r.receivedAt m := by
  obtain ⟨hpage, hlt⟩ := mem_later.mp hm
  exact ⟨(List.mem_filter.mp ((firstPage_others h hlast k s).subset m hpage)).1, hlt⟩

/-- The reader gets all of the others exactly if these can be cut into full pages. -/
lemma drains_iff_cuts : Drains r.receivedAt (later r.receivedAt (r.otherPage poison start)) start
    (r.others messages poison start) ↔ Cuts id limit ((r.others messages poison start).map r.receivedAt) start :=
  earliest_drains_iff (fun _ => le_rfl) (h.nodup.filter _) fun k s => firstPage_others h hlast k s

/-- A reader that gets all of the others at some time gets them before its first empty page. -/
lemma drains_of_seen (hlimit : 1 ≤ limit) (hseen : ∀ m ∈ r.others messages poison start,
    ∃ n, m ∈ seen r.receivedAt (later r.receivedAt (r.otherPage poison start)) start n) :
    Drains r.receivedAt (later r.receivedAt (r.otherPage poison start)) start (r.others messages poison start) := by
  obtain ⟨k, hne, hempty⟩ := exists_empty fun k m hm => later_mem_others h hlast k hm
  refine ⟨k, hne, hempty, fun m hm _ => ?_⟩
  obtain ⟨n, hn⟩ := hseen m hm
  obtain ⟨i, -, hi⟩ := mem_seen.mp hn
  refine mem_seen.mpr ⟨i, ?_, hi⟩
  by_contra hge
  -- the page at `k` was empty because nothing was left
  have hmono : otherCursor r poison start k ≤ otherCursor r poison start i := cursor_mono (not_lt.mp hge)
  have hlt : otherCursor r poison start k < r.receivedAt m := lt_of_le_of_lt hmono (mem_later.mp hi).2
  have hpage := firstPage_others h hlast k (otherCursor r poison start k)
  have hmem : m ∈ (r.others messages poison start).filter (otherCursor r poison start k < r.receivedAt ·) :=
    List.mem_filter.mpr ⟨hm, by simpa using hlt⟩
  have hcount := List.length_pos_of_mem hmem
  have hlength := hpage.length
  obtain ⟨x, hx⟩ := List.exists_mem_of_length_pos
    (show 0 < (r.otherPage poison start k (otherCursor r poison start k)).length by omega)
  have hx' : x ∈ later r.receivedAt (r.otherPage poison start) k (otherCursor r poison start k) :=
    mem_later.mpr ⟨hx, by simpa using (List.mem_filter.mp (hpage.subset x hx)).2⟩
  rw [hempty] at hx'
  cases hx'

omit hlast in
/-- A mailbox without a checkpoint and without other messages stays as it is. -/
lemma after_idle (hpos : 0 < start) (hclock : ∀ k, r.now 0 ≤ r.now k) (hstart : r.now 0 - r.lookback = start)
    (hothers : r.others messages poison start = []) (k : ℕ) : r.after none k = { checkpoint := none } := by
  induction k with
  | zero => rfl
  | succ k ih =>
    have hsince : r.since k { checkpoint := none } = r.now k - r.lookback := rfl
    have hle : start ≤ r.since k { checkpoint := none } := by
      have htick := hclock k
      omega
    have hnone : (r.fetchNew k (r.since k { checkpoint := none })).filter (· ≠ poison) = [] := by
      refine List.filter_eq_nil_iff.mpr fun m hm hne => ?_
      have hmem := h.mem_fetchNew hm
      have hin : m ∈ r.others messages poison start :=
        List.mem_filter.mpr ⟨hmem.1, decide_eq_true ⟨by simpa using hne, by omega⟩⟩
      rw [hothers] at hin
      cases hin
    have hpassing : passing r.receivedAt poison (r.fetchNew k (r.since k { checkpoint := none })) = [] := by
      refine List.filter_eq_nil_iff.mpr fun m hm hne => ?_
      simp only [decide_eq_true_eq] at hne
      exact List.filter_eq_nil_iff.mp hnone m hm (by simpa using hne.1)
    rw [after, ih, h.cycle_eq (by omega), hnone, hpassing]
    simp [nextCursor]

/-- **The others are served.** -/
lemma served_of_cuts (hpos : 0 < start) (hlimit : 1 ≤ limit) (hclock : ∀ k, r.now 0 ≤ r.now k)
    (hinit : init = none ∨ init = some start) (hstart : r.since 0 { checkpoint := init } = start)
    (hcuts : Cuts id limit ((r.others messages poison start).map r.receivedAt) start) :
    r.Served init messages poison start := by
  by_cases hread : init = some start ∨ r.others messages poison start ≠ []
  · have hafter := after_reader h hlast hpos hlimit hstart hread
    refine ⟨fun m hm hne hlt => ?_, 1, fun n m _ => ?_⟩
    · obtain ⟨n, -, -, hall⟩ := (drains_iff_cuts h hlast).mpr hcuts
      refine ⟨n, ?_⟩
      rw [(hafter n).2.1]
      exact hall m (mem_others.mpr ⟨hm, hne, hlt⟩) hlt
    · rw [(hafter n).2.1]
      refine List.nodup_iff_count_le_one.mp (seen_nodup (fun k m hm => later_mem_others h hlast k hm) ?_ n) m
      exact fun k s => (firstPage_others h hlast k s).nodup.filter _
  · rw [not_or, not_not] at hread
    obtain rfl := hinit.resolve_right hread.1
    have hidle := after_idle h hpos hclock hstart hread.2
    refine ⟨fun m hm hne hlt => ?_, 0, fun n m _ => by simp [hidle n]⟩
    have hmem := mem_others.mpr ⟨hm, hne, hlt⟩
    rw [hread.2] at hmem
    cases hmem

end Last

/-! ### Something came after it -/

section Stuck

variable (r) in
/-- Where the cycles of a mailbox with a checkpoint start. -/
def starts (start : ℤ) (k : ℕ) : ℤ := r.since k (r.after (some start) k)

variable (h : r.Poisoned messages limit poison) (hpos : 0 < start)

include h hpos

/-- The checkpoint moves to the latest of the messages that may move it. -/
lemma starts_spec (k : ℕ) : (r.after (some start) k).checkpoint = some (r.starts start k) ∧ start ≤ r.starts start k ∧
    r.starts start (k + 1) = nextCursor r.receivedAt (r.starts start k)
      (passing r.receivedAt poison (r.fetchNew k (r.starts start k))) := by
  have hstep : ∀ k, (r.after (some start) k).checkpoint = some (r.starts start k) → start ≤ r.starts start k →
      (r.after (some start) (k + 1)).checkpoint = some (nextCursor r.receivedAt (r.starts start k)
        (passing r.receivedAt poison (r.fetchNew k (r.starts start k)))) := by
    intro k hcheckpoint hle
    have hcycle := h.cycle_eq (k := k) (s := r.after (some start) k) (show 0 < r.starts start k by omega)
    have hmax := (le_foldl_max (r.starts start k)
      ((passing r.receivedAt poison (r.fetchNew k (r.starts start k))).map r.receivedAt)).1
    rw [after, hcycle, hcheckpoint]
    change (if r.starts start k < nextCursor r.receivedAt (r.starts start k) _ then _ else _ : Option ℤ).or _ = _
    split_ifs with hmoves
    · rfl
    · exact congrArg some (le_antisymm hmax (not_lt.mp hmoves))
  have hnext : ∀ k, (r.after (some start) k).checkpoint = some (r.starts start k) → start ≤ r.starts start k →
      r.starts start (k + 1) = nextCursor r.receivedAt (r.starts start k)
        (passing r.receivedAt poison (r.fetchNew k (r.starts start k))) := by
    intro k hcheckpoint hle
    refine since_of_checkpoint (hstep k hcheckpoint hle) ?_
    have hmax := (le_foldl_max (r.starts start k)
      ((passing r.receivedAt poison (r.fetchNew k (r.starts start k))).map r.receivedAt)).1
    exact lt_of_lt_of_le (by omega) hmax
  have hinv : ∀ k, (r.after (some start) k).checkpoint = some (r.starts start k) ∧ start ≤ r.starts start k := by
    intro k
    induction k with
    | zero =>
      have hzero : r.starts start 0 = start := since_of_checkpoint rfl hpos
      rw [hzero]
      exact ⟨rfl, le_rfl⟩
    | succ k ih =>
      rw [hnext k ih.1 ih.2]
      exact ⟨hstep k ih.1 ih.2, ih.2.trans (le_foldl_max _ _).1⟩
  exact ⟨(hinv k).1, (hinv k).2, hnext k (hinv k).1 (hinv k).2⟩

lemma starts_mono {i j : ℕ} (hij : i ≤ j) : r.starts start i ≤ r.starts start j := by
  induction hij with
  | refl => exact le_rfl
  | step _ ih =>
    refine ih.trans ?_
    rw [(starts_spec h hpos _).2.2]
    exact (le_foldl_max _ _).1

/-- A message was published in the cycle that fetched it. -/
lemma mem_published {n : ℕ} {m : μ} : m ∈ (r.after (some start) n).published ↔
    ∃ k < n, m ∈ r.fetchNew k (r.starts start k) ∧ m ≠ poison := by
  induction n with
  | zero => simp [after]
  | succ n ih =>
    have hle := (starts_spec h hpos n).2.1
    rw [after, h.cycle_eq (show 0 < r.starts start n by omega), List.mem_append, ih, List.mem_filter]
    constructor
    · rintro (⟨k, hk, hm⟩ | ⟨hm, hne⟩)
      · exact ⟨k, by omega, hm⟩
      · exact ⟨n, by omega, hm, by simpa using hne⟩
    · rintro ⟨k, hk, hm, hne⟩
      rcases Nat.lt_succ_iff_lt_or_eq.mp hk with hlt | rfl
      · exact Or.inl ⟨k, hlt, hm, hne⟩
      · exact Or.inr ⟨hm, by simpa using hne⟩

variable (hafter : start < r.receivedAt poison)
  (hunique : ∀ m ∈ messages, m ≠ poison → r.receivedAt m ≠ r.receivedAt poison)

include hafter hunique

/-- No cycle passes the poison message. -/
lemma starts_lt (k : ℕ) : r.starts start k < r.receivedAt poison := by
  induction k with
  | zero =>
    rw [show r.starts start 0 = start from since_of_checkpoint rfl hpos]
    exact hafter
  | succ k ih =>
    rw [(starts_spec h hpos k).2.2]
    rcases foldl_max_mem (r.starts start k)
        ((passing r.receivedAt poison (r.fetchNew k (r.starts start k))).map r.receivedAt) with hsame | hmem
    · exact (show nextCursor r.receivedAt _ _ = _ from hsame).trans_lt ih
    · obtain ⟨m, hm, hmt⟩ := List.mem_map.mp hmem
      rw [nextCursor, ← hmt]
      obtain ⟨hraw, hpass⟩ := List.mem_filter.mp hm
      rw [decide_eq_true_eq] at hpass
      by_cases hp : poison ∈ r.fetchNew k (r.starts start k)
      · exact hpass.2 hp
      · -- a batch without the poison message ends before it
        have hle := (h.serves k (r.starts start k)).rest m hraw poison
          (List.mem_filter.mpr ⟨h.mem, by simpa using ih⟩) hp
        exact lt_of_le_of_ne hle (hunique m (h.mem_fetchNew hraw).1 hpass.1)

/-- **The cycles get stuck**: from some cycle on every batch has the poison message and moves nothing. -/
theorem stuck (hlimit : 1 ≤ limit) : ∃ first, ∀ k ≥ first, poison ∈ r.fetchNew k (r.starts start k) := by
  obtain ⟨top, ⟨first, hfirst⟩, hmax⟩ := Int.exists_greatest_of_bdd
    (P := fun z => ∃ k, r.starts start k = z)
    ⟨r.receivedAt poison, fun z ⟨k, hk⟩ => hk ▸ (starts_lt h hpos hafter hunique k).le⟩ ⟨_, 0, rfl⟩
  refine ⟨first, fun k hk => ?_⟩
  have hstay : r.starts start (k + 1) = r.starts start k := by
    refine le_antisymm ?_ (starts_mono h hpos (Nat.le_succ k))
    calc r.starts start (k + 1) ≤ top := hmax _ ⟨k + 1, rfl⟩
      _ = r.starts start first := hfirst.symm
      _ ≤ r.starts start k := starts_mono h hpos hk
  by_contra hout
  have hpage := h.serves k (r.starts start k)
  have hpoison : poison ∈ messages.filter (r.starts start k < r.receivedAt ·) :=
    List.mem_filter.mpr ⟨h.mem, by simpa using starts_lt h hpos hafter hunique k⟩
  have hcount := List.length_pos_of_mem hpoison
  have hlength := hpage.length
  obtain ⟨m, hm⟩ := List.exists_mem_of_length_pos (show 0 < (r.fetchNew k (r.starts start k)).length by omega)
  have hpass : m ∈ passing r.receivedAt poison (r.fetchNew k (r.starts start k)) := by
    refine List.mem_filter.mpr ⟨hm, decide_eq_true ⟨?_, fun hp => absurd hp hout⟩⟩
    rintro rfl
    exact hout hm
  have hle : r.receivedAt m ≤ r.starts start (k + 1) := by
    rw [(starts_spec h hpos k).2.2]
    exact (le_foldl_max _ _).2 _ (List.mem_map_of_mem hpass)
  have hlt := (h.mem_fetchNew hm).2
  omega

omit hafter hunique in
/-- A run that publishes no message more than `bound` times publishes no more than that many in all. -/
lemma length_published_le {bound : ℕ} (hbound : ∀ n m, m ≠ poison → (r.after (some start) n).published.count m ≤ bound)
    (n : ℕ) : (r.after (some start) n).published.length ≤ messages.length * bound := by
  set l := (r.after (some start) n).published with hl
  have hsub : l.toFinset ⊆ messages.toFinset := by
    intro m hm
    rw [List.mem_toFinset] at hm ⊢
    obtain ⟨k, -, hk, -⟩ := (mem_published h hpos).mp hm
    exact (h.mem_fetchNew hk).1
  have hcount : ∀ m ∈ l.toFinset, l.count m ≤ bound := by
    intro m hm
    rw [List.mem_toFinset] at hm
    obtain ⟨k, -, -, hne⟩ := (mem_published h hpos).mp hm
    exact hbound n m hne
  calc l.length = ∑ m ∈ l.toFinset, l.count m := (List.sum_toFinset_count_eq_length l).symm
    _ ≤ l.toFinset.card * bound := Finset.sum_le_card_nsmul _ _ _ hcount
    _ ≤ messages.length * bound :=
      Nat.mul_le_mul_right _ ((Finset.card_le_card hsub).trans (List.toFinset_card_le messages))

/-- **What came after the poison message is not served**: it is published without end, or never. -/
theorem not_served_of_later (hlimit : 1 ≤ limit) {m : μ} (hm : m ∈ messages) (hne : m ≠ poison)
    (hlater : r.receivedAt poison < r.receivedAt m) : ¬ r.Served (some start) messages poison start := by
  rintro ⟨hserved, bound, hbound⟩
  have hlt := starts_lt h hpos hafter hunique
  have hboth : ∀ k, poison ∈ messages.filter (r.starts start k < r.receivedAt ·) ∧
      m ∈ messages.filter (r.starts start k < r.receivedAt ·) := by
    intro k
    have hk := hlt k
    exact ⟨List.mem_filter.mpr ⟨h.mem, by simpa using hk⟩,
      List.mem_filter.mpr ⟨hm, by simpa using hk.trans hlater⟩⟩
  have htwo : ∀ k, 2 ≤ (messages.filter (r.starts start k < r.receivedAt ·)).length := by
    intro k
    have hpair : [poison, m].Nodup := by simpa using Ne.symm hne
    have hsub : [poison, m] ⊆ messages.filter (r.starts start k < r.receivedAt ·) := by
      simpa using hboth k
    exact (List.subperm_of_subset hpair hsub).length_le
  rcases Nat.lt_or_ge limit 2 with hone | htwo'
  · -- a batch has room for one message, and the poison message comes first
    obtain ⟨n, hn⟩ := hserved m hm hne (hafter.trans hlater)
    obtain ⟨k, -, hk, -⟩ := (mem_published h hpos).mp hn
    have hpage := h.serves k (r.starts start k)
    have hlength := hpage.length
    have hout : poison ∉ r.fetchNew k (r.starts start k) := by
      intro hp
      have hpair : [poison, m].Nodup := by simpa using Ne.symm hne
      have hsub : [poison, m] ⊆ r.fetchNew k (r.starts start k) := by
        simpa using ⟨hp, hk⟩
      have hle := (List.subperm_of_subset hpair hsub).length_le
      simp only [List.length_cons, List.length_nil] at hle
      omega
    have hle := hpage.rest m hk poison (hboth k).1 hout
    omega
  · -- every batch has another message beside the poison message
    obtain ⟨first, hfirst⟩ := stuck h hpos hafter hunique hlimit
    have hgrow : ∀ n, n ≤ (r.after (some start) (first + n)).published.length := by
      intro n
      induction n with
      | zero => exact Nat.zero_le _
      | succ n ih =>
        have hle := (starts_spec h hpos (first + n)).2.1
        have hpage := h.serves (first + n) (r.starts start (first + n))
        have hlength := hpage.length
        have hbatch := htwo (first + n)
        have hother : 1 ≤ ((r.fetchNew (first + n) (r.starts start (first + n))).filter (· ≠ poison)).length := by
          by_contra hnone
          have hempty := List.length_eq_zero_iff.mp (Nat.lt_one_iff.mp (not_le.mp hnone))
          have hsub : r.fetchNew (first + n) (r.starts start (first + n)) ⊆ [poison] := by
            intro x hx
            simpa using List.filter_eq_nil_iff.mp hempty x hx
          have hle := (List.subperm_of_subset hpage.nodup hsub).length_le
          rw [List.length_singleton] at hle
          omega
        rw [← Nat.add_assoc, after, h.cycle_eq (show 0 < r.starts start (first + n) by omega), List.length_append]
        exact Nat.add_le_add ih hother
    have hall := length_published_le h hpos hbound (first + (messages.length * bound + 1))
    have hn := hgrow (messages.length * bound + 1)
    omega

end Stuck

/-- The others are served if they all came before the poison message and can be cut into full batches; and only then, in
a mailbox with a checkpoint where nothing came at the very time of the poison message. -/
theorem poison_spares_iff (h : r.Poisoned messages limit poison) (hlimit : 1 ≤ limit) (hpos : 0 < start)
    (hclock : ∀ k, r.now 0 ≤ r.now k) (hinit : init = none ∨ init = some start)
    (hstart : r.since 0 { checkpoint := init } = start) :
    (r.Spared messages limit poison start → r.Served init messages poison start) ∧
    (init = some start → (∀ m ∈ messages, m ≠ poison → r.receivedAt m ≠ r.receivedAt poison) →
      r.Served init messages poison start → r.Spared messages limit poison start) := by
  refine ⟨fun hspared => served_of_cuts h hspared.last hpos hlimit hclock hinit hstart hspared.cuts, ?_⟩
  rintro rfl hunique hserved
  have hlast : start < r.receivedAt poison → ∀ m ∈ messages, m ≠ poison → r.receivedAt m < r.receivedAt poison := by
    intro hafter m hm hne
    by_contra hge
    have hlater := lt_of_le_of_ne (not_lt.mp hge) (Ne.symm (hunique m hm hne))
    exact not_served_of_later h hpos hafter hunique hlimit hm hne hlater hserved
  refine ⟨hlast, (drains_iff_cuts h hlast).mp (drains_of_seen h hlast hlimit fun m hm => ?_)⟩
  obtain ⟨hmem, hne, hlt⟩ := mem_others.mp hm
  obtain ⟨n, hn⟩ := hserved.1 m hmem hne hlt
  rw [(after_reader h hlast hpos hlimit hstart (Or.inl rfl) n).2.1] at hn
  exact ⟨n, hn⟩

end MailboxRun

section Samples

/-- A message without an id is the one that fails. -/
def idOutbox : Outbox Mail Mail Mail where
  normalize m := if m.id = 0 then .error "ingestion: raw email is missing provider_message_id" else .ok m
  marshalRequest := .ok
  publish _ := none

/-- A folder in the order of receipt. -/
def sortedRun (messages : List Mail) (limit : ℕ) : MailboxRun Mail Mail Mail where
  receivedAt := Mail.receivedAt
  fetchNew _ s := (messages.filter (s < ·.receivedAt)).take limit
  outbox _ := idOutbox
  now _ := minute 60
  lookback := hour

lemma sortedRun_poisoned {messages : List Mail} {poison : Mail} (hnodup : messages.Nodup)
    (hsorted : messages.Pairwise fun a b => a.receivedAt ≤ b.receivedAt) (hmem : poison ∈ messages)
    (hid : ∀ m ∈ messages, m.id = 0 ↔ m = poison) (limit : ℕ) :
    (sortedRun messages limit).Poisoned messages limit poison where
  nodup := hnodup
  mem := hmem
  serves _ _ := FirstPage.take (hnodup.filter _) (hsorted.sublist List.filter_sublist)
  publishes _ m hm := by
    have hm' := hid m hm
    by_cases h0 : m.id = 0
    · rw [decide_eq_false (not_not.mpr (hm'.mp h0))]
      simp [sortedRun, idOutbox, Outbox.publishes, h0]
    · simp [sortedRun, idOutbox, Outbox.publishes, h0, mt hm'.mpr h0]

/-- The poison message came last. -/
def poisonLast : List Mail := [⟨1, minute 1⟩, ⟨0, minute 2⟩]

/-- It came first. -/
def poisonFirst : List Mail := [⟨0, minute 1⟩, ⟨1, minute 2⟩]

theorem poison_spares_earlier :
    (sortedRun poisonLast 1).Served (some (minute 0)) poisonLast ⟨0, minute 2⟩ (minute 0) := by
  have hpoisoned : (sortedRun poisonLast 1).Poisoned poisonLast 1 ⟨0, minute 2⟩ :=
    sortedRun_poisoned (by decide) (by decide) (by decide) (by decide) 1
  refine (MailboxRun.poison_spares_iff hpoisoned le_rfl (by decide) (fun _ => le_rfl) (Or.inr rfl) rfl).1 ⟨?_, ?_⟩
  · intro _
    decide
  · exact Cuts.last (by decide)

/-- With any batch size the message behind it is published without end, or never. -/
lemma not_served_poisonFirst {limit : ℕ} (hlimit : 1 ≤ limit) :
    ¬ (sortedRun poisonFirst limit).Served (some (minute 0)) poisonFirst ⟨0, minute 1⟩ (minute 0) := by
  have hpoisoned : (sortedRun poisonFirst limit).Poisoned poisonFirst limit ⟨0, minute 1⟩ :=
    sortedRun_poisoned (by decide) (by decide) (by decide) (by decide) limit
  have hunique : ∀ m ∈ poisonFirst, m ≠ ⟨0, minute 1⟩ → m.receivedAt ≠ minute 1 := by decide
  have hlater : minute 1 < minute 2 := by decide
  have hm : (⟨1, minute 2⟩ : Mail) ∈ poisonFirst := by decide
  exact MailboxRun.not_served_of_later hpoisoned (by decide) (show minute 0 < minute 1 by decide) hunique hlimit hm
    (by decide) hlater

/-- **The failing input**, with the default batch size and with one of one message. -/
theorem poison_starves_later :
    (sortedRun poisonFirst 50).Poisoned poisonFirst 50 ⟨0, minute 1⟩ ∧
      ¬ (sortedRun poisonFirst 50).Served (some (minute 0)) poisonFirst ⟨0, minute 1⟩ (minute 0) ∧
      ¬ (sortedRun poisonFirst 1).Served (some (minute 0)) poisonFirst ⟨0, minute 1⟩ (minute 0) := by
  refine ⟨?_, not_served_poisonFirst (by omega), not_served_poisonFirst le_rfl⟩
  exact sortedRun_poisoned (by decide) (by decide) (by decide) (by decide) 50

end Samples

end Sn360Es.Ingestion
