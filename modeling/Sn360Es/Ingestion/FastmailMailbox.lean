import Mathlib.Data.List.MinMax
import Sn360Es.Ingestion.Poller
import Sn360Es.Lib.Cut

/-!
# An idle Fastmail mailbox (`pkg/email_provider/fastmail/mailbox_provider.go`)

`FetchNew` adds a nanosecond to `since`, to make the filter of the server strict, and then formats the time without its
fraction. So a cycle fetches again what came in the same second as the checkpoint.

* `fastmailFetchNew` — `FetchNew`, with the server's filter, order and limit;
* `publishedAt` — the cycles of `pollMailbox` over a mailbox that nothing arrives in;
* `quiet_stored_iff` — from a checkpoint, the cycles end exactly if the last message came in the last nanosecond of its
  second and every second has fewer messages than the batch;
* `idle_mailbox_iff` — the same from any start, and when `FetchNew` keeps its contract.

The checkpoint store keeps the contract of `CheckpointStore` and returns the instant that was set.
`RedisCheckpointStore` does so for the instants that an `int64` of nanoseconds has (`readBack`), from 1677 to 2262.
-/

namespace Sn360Es.Ingestion

open Lib Lib.GoTime

/-! ### The provider -/

/-- The value of the filter `after`: `since.UTC().Add(time.Nanosecond).Format(time.RFC3339)`. -/
def afterFilter (since : ℤ) : ℤ := truncateSecond (since + 1)

/-- The messages that the filter lets through; there is none for the zero time. -/
def passesFilter (since : ℤ) (m : Mail) : Bool := since = 0 ∨ afterFilter since ≤ m.receivedAt

/-- `FetchNew`: the server keeps what is at or after the filter, sorts by the time of receipt and cuts. -/
def fastmailFetchNew (ms : List Mail) (since limit : ℤ) : List Mail :=
  cut Mail.receivedAt (if limit ≤ 0 then 50 else limit).toNat (ms.filter (passesFilter since))

/-! ### The cycles -/

section Cycles

variable (ms : List Mail) (batchSize lookback : ℤ)

/-- A cycle of `pollMailbox` in which every publish succeeds: what it publishes, and the checkpoint it leaves. -/
def idleCycle (now : ℤ) (stored : Option ℤ) : List Mail × Option ℤ :=
  let since := resolveSince now lookback (.ok stored)
  let emails := fastmailFetchNew ms since batchSize
  (emails, (newCheckpoint Mail.receivedAt since (emails.map fun m => ⟨m, true, now⟩)).or stored)

/-- What the `n`-th cycle publishes; cycle `i` runs at time `clock i`. -/
def publishedAt : ℕ → (ℕ → ℤ) → Option ℤ → List Mail
  | 0, clock, stored => (idleCycle ms batchSize lookback (clock 0) stored).1
  | n + 1, clock, stored => publishedAt n (fun i => clock (i + 1)) (idleCycle ms batchSize lookback (clock 0) stored).2

/-- After finitely many cycles nothing is published any more. -/
def Quiet (clock : ℕ → ℤ) (stored : Option ℤ) : Prop :=
  ∃ K, ∀ n, K ≤ n → publishedAt ms batchSize lookback n clock stored = []

/-- The instant came in the last nanosecond of its second. -/
def AtEdge (t : ℤ) : Prop := t < afterFilter t

instance (t : ℤ) : Decidable (AtEdge t) := inferInstanceAs (Decidable (_ < _))

/-- The messages of a second, without those of its last nanosecond. -/
def crowd (start : ℤ) : ℕ := ms.countP fun m => truncateSecond m.receivedAt = start ∧ ¬ AtEdge m.receivedAt

/-- A cycle from `since` moves the checkpoint: there is a later message, and the batch is not filled by the messages of
the second of `since`. -/
def Advances (since : ℤ) : Prop :=
  (∃ m ∈ ms, since < m.receivedAt) ∧
    (ms.countP fun m => afterFilter since ≤ m.receivedAt ∧ m.receivedAt ≤ since) < batchSize.toNat

/-- Nothing is left to fetch; or the last message came in the last nanosecond of its second, and every second that is
left has fewer messages than the batch. -/
def Settles (since : ℤ) : Prop :=
  (∀ m ∈ ms, m.receivedAt < afterFilter since) ∨
    (∀ m ∈ ms, (∀ m' ∈ ms, m'.receivedAt ≤ m.receivedAt) → AtEdge m.receivedAt) ∧
      ∀ m ∈ ms, afterFilter since ≤ m.receivedAt → crowd ms (truncateSecond m.receivedAt) < batchSize.toNat

end Cycles

/-! ### The filter -/

section Filter

variable {since t : ℤ}

lemma afterFilter_le (since : ℤ) : afterFilter since ≤ since + 1 := truncateSecond_le _

lemma afterFilter_mono {s s' : ℤ} (h : s ≤ s') : afterFilter s ≤ afterFilter s' := by
  have hdiv : (s + 1) / second ≤ (s' + 1) / second := Int.ediv_le_ediv (by decide) (by omega)
  exact Int.mul_le_mul_of_nonneg_right hdiv (by decide)

/-- What passes the filter and is not after `since` came in the second of `since`, before its last nanosecond. -/
lemma truncateSecond_of_between (hafter : afterFilter since ≤ t) (hle : t ≤ since) :
    truncateSecond t = afterFilter since ∧ ¬ AtEdge t := by
  unfold AtEdge
  unfold afterFilter truncateSecond second at *
  omega

/-- The start of the second of what passes the filter passes too. -/
lemma afterFilter_le_truncateSecond (hafter : afterFilter since ≤ t) : afterFilter since ≤ truncateSecond t := by
  unfold afterFilter truncateSecond second at *
  omega

/-- An instant from which a second does not pass the filter is after every message of the second but its last. -/
lemma lt_of_truncateSecond_lt (h : truncateSecond t < afterFilter since) (hedge : ¬ AtEdge t) : t < since := by
  unfold AtEdge at hedge
  unfold afterFilter truncateSecond second at *
  omega

lemma afterFilter_pos (h : second ≤ since) : 0 < afterFilter since := by
  unfold afterFilter truncateSecond second at *
  omega

end Filter

/-! ### One cycle -/

section OneCycle

variable {ms : List Mail} {batchSize lookback since : ℤ}

lemma passesFilter_iff (hsince : since ≠ 0) {m : Mail} :
    passesFilter since m = true ↔ afterFilter since ≤ m.receivedAt := by
  simp [passesFilter, hsince]

lemma limit_eq (hbatch : 1 ≤ batchSize) : (if batchSize ≤ 0 then 50 else batchSize) = batchSize :=
  if_neg (by omega)

lemma mem_fetchNew (hsince : since ≠ 0) {m : Mail} (hm : m ∈ fastmailFetchNew ms since batchSize) :
    m ∈ ms ∧ afterFilter since ≤ m.receivedAt := by
  obtain ⟨hmem, hpass⟩ := List.mem_filter.mp (mem_of_mem_cut hm)
  exact ⟨hmem, (passesFilter_iff hsince).mp hpass⟩

/-- A cycle publishes nothing exactly if nothing passes the filter. -/
lemma fetchNew_eq_nil_iff (hbatch : 1 ≤ batchSize) (hsince : since ≠ 0) :
    fastmailFetchNew ms since batchSize = [] ↔ ∀ m ∈ ms, m.receivedAt < afterFilter since := by
  unfold fastmailFetchNew
  rw [limit_eq hbatch]
  constructor
  · intro hnil m hm
    by_contra hle
    have hpass : m ∈ ms.filter (passesFilter since) :=
      List.mem_filter.mpr ⟨hm, (passesFilter_iff hsince).mpr (not_lt.mp hle)⟩
    have hpos : 0 < batchSize.toNat := by omega
    obtain ⟨y, hy, -⟩ : ∃ y ∈ cut Mail.receivedAt batchSize.toNat (ms.filter (passesFilter since)),
        y.receivedAt ≤ m.receivedAt := exists_le_mem_cut hpass hpos
    rw [hnil] at hy
    cases hy
  · intro hall
    refine List.eq_nil_iff_forall_not_mem.mpr fun m hm => ?_
    obtain ⟨hmem, hpass⟩ := List.mem_filter.mp (mem_of_mem_cut hm)
    have hlt := hall m hmem
    have hle := (passesFilter_iff hsince).mp hpass
    omega

/-- A cycle fetches a message after `since` exactly if it moves the checkpoint. -/
lemma exists_lt_fetchNew_iff (hbatch : 1 ≤ batchSize) (hsince : since ≠ 0) :
    (∃ m ∈ fastmailFetchNew ms since batchSize, since < m.receivedAt) ↔ Advances ms batchSize since := by
  unfold fastmailFetchNew Advances
  rw [limit_eq hbatch, exists_lt_mem_cut_iff, and_comm, List.countP_filter]
  have hcount : (ms.countP fun m => decide (m.receivedAt ≤ since) && passesFilter since m) =
      ms.countP fun m => afterFilter since ≤ m.receivedAt ∧ m.receivedAt ≤ since := by
    refine List.countP_congr fun m _ => ?_
    simp [passesFilter, hsince, and_comm]
  rw [hcount]
  refine and_congr_left fun _ => ⟨?_, ?_⟩
  · rintro ⟨m, hm, hlt⟩
    exact ⟨m, (List.mem_filter.mp hm).1, hlt⟩
  · rintro ⟨m, hm, hlt⟩
    have hle := afterFilter_le since
    exact ⟨m, List.mem_filter.mpr ⟨hm, (passesFilter_iff hsince).mpr (by omega)⟩, hlt⟩

/-- Fewer messages than the batch lie between the filter and one that is fetched. -/
lemma countP_lt_of_mem_fetchNew (hbatch : 1 ≤ batchSize) (hsince : since ≠ 0) {m : Mail}
    (hm : m ∈ fastmailFetchNew ms since batchSize) :
    (ms.countP fun m' => afterFilter since ≤ m'.receivedAt ∧ m'.receivedAt < m.receivedAt) < batchSize.toNat := by
  unfold fastmailFetchNew at hm
  rw [limit_eq hbatch] at hm
  have hlt := countP_lt_of_mem_cut hm
  rw [List.countP_filter] at hlt
  refine lt_of_eq_of_lt (List.countP_congr fun m' _ => ?_) hlt
  simp [passesFilter, hsince, and_comm]

/-- Every publish succeeds, so no barrier is set. -/
lemma failBarrier_published (now : ℤ) (emails : List Mail) :
    failBarrier Mail.receivedAt (emails.map fun m => ⟨m, true, now⟩) = 0 := by
  unfold failBarrier
  induction emails with
  | nil => rfl
  | cons m emails ih => exact ih

lemma le_foldl_advanceNewest (ts : List ℤ) (s : ℤ) :
    s ≤ ts.foldl (advanceNewest 0) s ∧ ∀ t ∈ ts, t ≤ ts.foldl (advanceNewest 0) s := by
  induction ts generalizing s with
  | nil => exact ⟨le_refl _, fun t ht => by cases ht⟩
  | cons u ts ih =>
    rw [List.foldl_cons]
    obtain ⟨hle, hall⟩ := ih (advanceNewest 0 s u)
    have hmax : s ≤ advanceNewest 0 s u ∧ u ≤ advanceNewest 0 s u := by
      unfold advanceNewest
      rw [if_neg (by simp)]
      split_ifs <;> omega
    refine ⟨hmax.1.trans hle, fun t ht => ?_⟩
    rcases List.mem_cons.mp ht with rfl | ht
    · exact hmax.2.trans hle
    · exact hall t ht

/-- The checkpoint moves to the time of a message that was fetched, if one is after `since`, and else it stays. -/
lemma newCheckpoint_published (since now : ℤ) {emails : List Mail} (hne : ∀ m ∈ emails, m.receivedAt ≠ 0) :
    (∃ m ∈ emails, since < m.receivedAt ∧
      newCheckpoint Mail.receivedAt since (emails.map fun m => ⟨m, true, now⟩) = some m.receivedAt) ∨
    ((∀ m ∈ emails, m.receivedAt ≤ since) ∧
      newCheckpoint Mail.receivedAt since (emails.map fun m => ⟨m, true, now⟩) = none) := by
  set fs : List (Fetched Mail) := emails.map fun m => ⟨m, true, now⟩ with hfs
  have hmem : ∀ f ∈ fs, ∃ m ∈ emails, f = ⟨m, true, now⟩ := by
    intro f hf
    obtain ⟨m, hm, rfl⟩ := List.mem_map.mp hf
    exact ⟨m, hm, rfl⟩
  cases hc : newCheckpoint Mail.receivedAt since fs with
  | some c =>
    have hdated : ∀ f ∈ fs, f.msg.receivedAt ≠ 0 := by
      intro f hf
      obtain ⟨m, hm, rfl⟩ := hmem f hf
      exact hne m hm
    obtain ⟨hlt, ⟨f, hf, rfl⟩, -⟩ := checkpoint_covers hdated hc
    obtain ⟨m, hm, rfl⟩ := hmem f hf
    exact .inl ⟨m, hm, hlt, rfl⟩
  | none =>
    refine .inr ⟨fun m hm => ?_, rfl⟩
    unfold newCheckpoint at hc
    split_ifs at hc with hnewest
    have htime : m.receivedAt ∈ successes Mail.receivedAt fs := by
      refine List.mem_map.mpr ⟨⟨m, true, now⟩, List.mem_filter.mpr ⟨List.mem_map_of_mem hm, rfl⟩, ?_⟩
      exact if_neg (hne m hm)
    have hle := (le_foldl_advanceNewest (successes Mail.receivedAt fs) since).2 _ htime
    rw [newest, hfs, failBarrier_published, ← hfs] at hnewest
    omega

variable (ms) in
/-- **One cycle**, from an instant after the first second of all. -/
lemma idleCycle_cases (hbatch : 1 ≤ batchSize) {now : ℤ} {stored : Option ℤ}
    (hsince : second ≤ resolveSince now lookback (.ok stored)) :
    let since := resolveSince now lookback (.ok stored)
    (¬ Advances ms batchSize since ∧ (idleCycle ms batchSize lookback now stored).2 = stored) ∨
    ∃ m ∈ fastmailFetchNew ms since batchSize, since < m.receivedAt ∧
      (idleCycle ms batchSize lookback now stored).2 = some m.receivedAt := by
  intro since
  have hpos : second ≤ since := hsince
  have hne : since ≠ 0 := by
    unfold second at hpos
    omega
  have hdated : ∀ m ∈ fastmailFetchNew ms since batchSize, m.receivedAt ≠ 0 := by
    intro m hm
    have hle := (mem_fetchNew hne hm).2
    have hafter := afterFilter_pos hpos
    omega
  rcases newCheckpoint_published since now hdated with ⟨m, hm, hlt, hc⟩ | ⟨hall, hc⟩
  · refine .inr ⟨m, hm, hlt, ?_⟩
    show (newCheckpoint _ _ _).or stored = _
    rw [hc]
    rfl
  · refine .inl ⟨fun hadv => ?_, ?_⟩
    · obtain ⟨m, hm, hlt⟩ := (exists_lt_fetchNew_iff hbatch hne).mpr hadv
      have hle := hall m hm
      omega
    · show (newCheckpoint _ _ _).or stored = _
      rw [hc]
      rfl

end OneCycle

/-! ### Settling -/

section Settling

variable {ms : List Mail} {batchSize lookback since : ℤ}

lemma exists_last {m : Mail} (hm : m ∈ ms) : ∃ last ∈ ms, ∀ m' ∈ ms, m'.receivedAt ≤ last.receivedAt := by
  cases hlast : ms.argmax Mail.receivedAt with
  | none =>
    rw [List.argmax_eq_none.mp hlast] at hm
    cases hm
  | some last => exact ⟨last, List.argmax_mem hlast, fun m' hm' => List.le_of_mem_argmax hm' hlast⟩

lemma Settles.mono {s s' : ℤ} (h : Settles ms batchSize s) (hle : s ≤ s') : Settles ms batchSize s' := by
  have hafter := afterFilter_mono hle
  rcases h with hnone | ⟨hedge, hcrowd⟩
  · refine .inl fun m hm => ?_
    have hlt := hnone m hm
    omega
  · exact .inr ⟨hedge, fun m hm hpass => hcrowd m hm (hafter.trans hpass)⟩

/-- While something is left to fetch, the checkpoint moves. -/
lemma Settles.advances (hbatch : 1 ≤ batchSize) (h : Settles ms batchSize since)
    (hleft : ∃ m ∈ ms, afterFilter since ≤ m.receivedAt) : Advances ms batchSize since := by
  obtain ⟨m, hm, hpass⟩ := hleft
  rcases h with hnone | ⟨hedge, hcrowd⟩
  · have hlt := hnone m hm
    omega
  obtain ⟨last, hlast, hmax⟩ := exists_last hm
  refine ⟨⟨last, hlast, ?_⟩, ?_⟩
  · by_contra hle
    have hpass' : afterFilter since ≤ last.receivedAt := hpass.trans (hmax m hm)
    exact (truncateSecond_of_between hpass' (not_lt.mp hle)).2 (hedge last hlast hmax)
  · by_cases hsome : ∃ m₀ ∈ ms, afterFilter since ≤ m₀.receivedAt ∧ m₀.receivedAt ≤ since
    · obtain ⟨m₀, hm₀, hpass₀, hle₀⟩ := hsome
      refine lt_of_le_of_lt (List.countP_mono_left fun x _ hx => ?_) (hcrowd m₀ hm₀ hpass₀)
      obtain ⟨hpassx, hlex⟩ := of_decide_eq_true hx
      obtain ⟨hstart, hbefore⟩ := truncateSecond_of_between hpassx hlex
      obtain ⟨hstart₀, -⟩ := truncateSecond_of_between hpass₀ hle₀
      exact decide_eq_true ⟨hstart.trans hstart₀.symm, hbefore⟩
    · have hzero : (ms.countP fun m => afterFilter since ≤ m.receivedAt ∧ m.receivedAt ≤ since) = 0 := by
        refine List.countP_eq_zero.mpr fun x hx hbetween => ?_
        exact hsome ⟨x, hx, of_decide_eq_true hbetween⟩
      rw [hzero]
      omega

/-- The messages of a second that the cycle passes by all fit into its batch. -/
lemma crowd_lt_of_passed (hbatch : 1 ≤ batchSize) (hsince : since ≠ 0) {m m₀ : Mail}
    (hm : m ∈ fastmailFetchNew ms since batchSize) (hpass : afterFilter since ≤ m₀.receivedAt)
    (hpassed : m₀.receivedAt < afterFilter m.receivedAt) :
    crowd ms (truncateSecond m₀.receivedAt) < batchSize.toNat := by
  refine lt_of_le_of_lt (List.countP_mono_left fun x _ hx => ?_) (countP_lt_of_mem_fetchNew hbatch hsince hm)
  obtain ⟨hstart, hbefore⟩ := of_decide_eq_true hx
  have hstart₀ := afterFilter_le_truncateSecond hpass
  have hle₀ := truncateSecond_le m₀.receivedAt
  have hlex := truncateSecond_le x.receivedAt
  have hlt : x.receivedAt < m.receivedAt := lt_of_truncateSecond_lt (by omega) hbefore
  exact decide_eq_true ⟨by omega, hlt⟩

/-- A cycle does not settle what is not settled. -/
lemma Settles.of_next (hbatch : 1 ≤ batchSize) (hsince : since ≠ 0) {m : Mail}
    (hm : m ∈ fastmailFetchNew ms since batchSize) (h : Settles ms batchSize m.receivedAt) :
    Settles ms batchSize since := by
  refine .inr ⟨fun m₀ hm₀ hmax => ?_, fun m₀ hm₀ hpass => ?_⟩
  · rcases h with hnone | ⟨hedge, -⟩
    · have hlt := hnone m₀ hm₀
      have hle := hmax m (mem_fetchNew hsince hm).1
      have hafter := afterFilter_le m.receivedAt
      have heq : m₀.receivedAt = m.receivedAt := by omega
      unfold AtEdge
      rw [heq] at hlt ⊢
      exact hlt
    · exact hedge m₀ hm₀ hmax
  · by_cases hpassed : m₀.receivedAt < afterFilter m.receivedAt
    · exact crowd_lt_of_passed hbatch hsince hm hpass hpassed
    · rcases h with hnone | ⟨-, hcrowd⟩
      · exact absurd (hnone m₀ hm₀) hpassed
      · exact hcrowd m₀ hm₀ (not_lt.mp hpassed)

end Settling

/-! ### Runs -/

section Runs

variable {ms : List Mail} {batchSize lookback : ℤ} {clock : ℕ → ℤ} {stored : Option ℤ}

lemma quiet_succ_iff : Quiet ms batchSize lookback clock stored ↔
    Quiet ms batchSize lookback (fun i => clock (i + 1)) (idleCycle ms batchSize lookback (clock 0) stored).2 := by
  constructor
  · rintro ⟨K, hK⟩
    exact ⟨K, fun n hn => hK (n + 1) (by omega)⟩
  · rintro ⟨K, hK⟩
    refine ⟨K + 1, fun n hn => ?_⟩
    obtain ⟨n, rfl⟩ : ∃ k, n = k + 1 := ⟨n - 1, by omega⟩
    exact hK n (by omega)

lemma ne_zero_of_second_le {s : ℤ} (h : second ≤ s) : s ≠ 0 := by
  unfold second at h
  omega

lemma resolveSince_stored {s : ℤ} (h : second ≤ s) (now lookback : ℤ) : resolveSince now lookback (.ok (some s)) = s :=
  if_neg (ne_zero_of_second_le h)

variable (ms lookback) in
/-- **One cycle** from a checkpoint. -/
lemma idleCycle_stored (hbatch : 1 ≤ batchSize) {s : ℤ} (hs : second ≤ s) (now : ℤ) :
    (idleCycle ms batchSize lookback now (some s)).1 = fastmailFetchNew ms s batchSize ∧
    ((¬ Advances ms batchSize s ∧ (idleCycle ms batchSize lookback now (some s)).2 = some s) ∨
      ∃ m ∈ fastmailFetchNew ms s batchSize, s < m.receivedAt ∧
        (idleCycle ms batchSize lookback now (some s)).2 = some m.receivedAt) := by
  have hsince := resolveSince_stored hs now lookback
  have hcases := idleCycle_cases ms hbatch (hsince.symm ▸ hs)
  simp only [hsince] at hcases
  refine ⟨?_, hcases⟩
  show fastmailFetchNew ms (resolveSince now lookback (.ok (some s))) batchSize = _
  rw [hsince]

/-- A checkpoint that nothing passes is the end. -/
lemma publishedAt_eq_nil (hbatch : 1 ≤ batchSize) {s : ℤ} (hs : second ≤ s)
    (hnil : fastmailFetchNew ms s batchSize = []) (n : ℕ) :
    ∀ clock, publishedAt ms batchSize lookback n clock (some s) = [] := by
  induction n with
  | zero => exact fun clock => (idleCycle_stored ms lookback hbatch hs (clock 0)).1.trans hnil
  | succ n ih =>
    intro clock
    obtain ⟨-, ⟨-, hstored⟩ | ⟨m, hm, -⟩⟩ := idleCycle_stored ms lookback hbatch hs (clock 0)
    · show publishedAt ms batchSize lookback n _ (idleCycle ms batchSize lookback (clock 0) (some s)).2 = []
      rw [hstored]
      exact ih _
    · rw [hnil] at hm
      cases hm

lemma Settles.quiet (hbatch : 1 ≤ batchSize) {s : ℤ} (hs : second ≤ s) (h : Settles ms batchSize s) :
    Quiet ms batchSize lookback clock (some s) := by
  -- on the number of messages after the checkpoint
  induction hcount : (ms.countP fun m => s < m.receivedAt) using Nat.strong_induction_on generalizing s clock with
  | h n ih =>
    by_cases hnil : fastmailFetchNew ms s batchSize = []
    · exact ⟨0, fun n _ => publishedAt_eq_nil hbatch hs hnil n clock⟩
    have hleft : ∃ m ∈ ms, afterFilter s ≤ m.receivedAt := by
      by_contra hnone
      refine hnil ((fetchNew_eq_nil_iff hbatch (ne_zero_of_second_le hs)).mpr fun m hm => ?_)
      by_contra hle
      exact hnone ⟨m, hm, not_lt.mp hle⟩
    obtain ⟨-, ⟨hstay, -⟩ | ⟨m, hm, hlt, hstored⟩⟩ := idleCycle_stored ms lookback hbatch hs (clock 0)
    · exact absurd (h.advances hbatch hleft) hstay
    rw [quiet_succ_iff, hstored]
    refine ih _ ?_ (by omega) (h.mono hlt.le) rfl
    rw [← hcount]
    refine countP_lt_countP ?_ (mem_fetchNew (ne_zero_of_second_le hs) hm).1 ?_ ?_
    · intro x _ hx
      have hx' := of_decide_eq_true hx
      exact decide_eq_true (by omega)
    · exact decide_eq_false (lt_irrefl _)
    · exact decide_eq_true hlt

lemma publishedAt_ne_nil (hbatch : 1 ≤ batchSize) (n : ℕ) :
    ∀ (clock : ℕ → ℤ) (s : ℤ), second ≤ s → ¬ Settles ms batchSize s →
      publishedAt ms batchSize lookback n clock (some s) ≠ [] := by
  induction n with
  | zero =>
    intro clock s hs h hnil
    have hnil' := (idleCycle_stored ms lookback hbatch hs (clock 0)).1.symm.trans hnil
    exact h (.inl ((fetchNew_eq_nil_iff hbatch (ne_zero_of_second_le hs)).mp hnil'))
  | succ n ih =>
    intro clock s hs h
    show publishedAt ms batchSize lookback n _ (idleCycle ms batchSize lookback (clock 0) (some s)).2 ≠ []
    obtain ⟨-, ⟨-, hstored⟩ | ⟨m, hm, hlt, hstored⟩⟩ := idleCycle_stored ms lookback hbatch hs (clock 0)
    · rw [hstored]
      exact ih _ s hs h
    · rw [hstored]
      exact ih _ _ (by omega) fun hnext => h (hnext.of_next hbatch (ne_zero_of_second_le hs) hm)

/-- **From a checkpoint.** -/
theorem quiet_stored_iff (hbatch : 1 ≤ batchSize) {s : ℤ} (hs : second ≤ s) :
    Quiet ms batchSize lookback clock (some s) ↔ Settles ms batchSize s := by
  constructor
  · rintro ⟨K, hK⟩
    by_contra h
    exact publishedAt_ne_nil hbatch K clock s hs h (hK K (le_refl _))
  · exact fun h => h.quiet hbatch hs

/-- The first cycle that moves the checkpoint decides. -/
lemma quiet_iff_of_advances (hbatch : 1 ≤ batchSize) (k : ℕ) :
    ∀ clock : ℕ → ℤ, (∀ i, second ≤ resolveSince (clock i) lookback (.ok stored)) →
      (∀ i < k, ¬ Advances ms batchSize (resolveSince (clock i) lookback (.ok stored))) →
      Advances ms batchSize (resolveSince (clock k) lookback (.ok stored)) →
      (Quiet ms batchSize lookback clock stored ↔
        Settles ms batchSize (resolveSince (clock k) lookback (.ok stored))) := by
  induction k with
  | zero =>
    intro clock hbase _ hadv
    rw [quiet_succ_iff]
    rcases idleCycle_cases ms hbatch (hbase 0) with ⟨hstay, -⟩ | ⟨m, hm, hlt, hstored⟩
    · exact absurd hadv hstay
    have hbase0 := hbase 0
    rw [hstored, quiet_stored_iff hbatch (by omega)]
    exact ⟨fun h => h.of_next hbatch (ne_zero_of_second_le hbase0) hm, fun h => h.mono hlt.le⟩
  | succ k ih =>
    intro clock hbase hbefore hadv
    rw [quiet_succ_iff]
    rcases idleCycle_cases ms hbatch (hbase 0) with ⟨-, hstored⟩ | ⟨m, hm, hlt, -⟩
    · rw [hstored]
      exact ih _ (fun i => hbase (i + 1)) (fun i hi => hbefore (i + 1) (by omega)) hadv
    · have hadv0 := (exists_lt_fetchNew_iff hbatch (ne_zero_of_second_le (hbase 0))).mp ⟨m, hm, hlt⟩
      exact absurd hadv0 (hbefore 0 (by omega))

/-- While no cycle moves the checkpoint, each fetches from where it starts by itself. -/
lemma publishedAt_of_not_advances (hbatch : 1 ≤ batchSize) (n : ℕ) :
    ∀ clock : ℕ → ℤ, (∀ i, second ≤ resolveSince (clock i) lookback (.ok stored)) →
      (∀ i, ¬ Advances ms batchSize (resolveSince (clock i) lookback (.ok stored))) →
      publishedAt ms batchSize lookback n clock stored =
        fastmailFetchNew ms (resolveSince (clock n) lookback (.ok stored)) batchSize := by
  induction n with
  | zero => exact fun clock _ _ => rfl
  | succ n ih =>
    intro clock hbase hnone
    show publishedAt ms batchSize lookback n _ (idleCycle ms batchSize lookback (clock 0) stored).2 = _
    rcases idleCycle_cases ms hbatch (hbase 0) with ⟨-, hstored⟩ | ⟨m, hm, hlt, -⟩
    · rw [hstored]
      exact ih _ (fun i => hbase (i + 1)) fun i => hnone (i + 1)
    · have hadv0 := (exists_lt_fetchNew_iff hbatch (ne_zero_of_second_le (hbase 0))).mp ⟨m, hm, hlt⟩
      exact absurd hadv0 (hnone 0)

lemma quiet_iff (hbatch : 1 ≤ batchSize) (hbase : ∀ i, second ≤ resolveSince (clock i) lookback (.ok stored)) :
    Quiet ms batchSize lookback clock stored ↔
      (∃ k, (∀ i < k, ¬ Advances ms batchSize (resolveSince (clock i) lookback (.ok stored))) ∧
        Advances ms batchSize (resolveSince (clock k) lookback (.ok stored)) ∧
        Settles ms batchSize (resolveSince (clock k) lookback (.ok stored))) ∨
      (∀ k, ¬ Advances ms batchSize (resolveSince (clock k) lookback (.ok stored))) ∧
        ∃ K, ∀ k, K ≤ k → ∀ m ∈ ms, m.receivedAt < afterFilter (resolveSince (clock k) lookback (.ok stored)) := by
  by_cases hsome : ∃ k, Advances ms batchSize (resolveSince (clock k) lookback (.ok stored))
  · -- the first cycle that moves the checkpoint
    classical
    have hfirst : ∀ i < Nat.find hsome, ¬ Advances ms batchSize (resolveSince (clock i) lookback (.ok stored)) :=
      fun i hi => Nat.find_min hsome hi
    rw [quiet_iff_of_advances hbatch _ clock hbase hfirst (Nat.find_spec hsome)]
    constructor
    · exact fun h => .inl ⟨_, hfirst, Nat.find_spec hsome, h⟩
    · rintro (⟨k, hbefore, hadv, h⟩ | ⟨hnone, -⟩)
      · have hk : Nat.find hsome = k := (Nat.find_eq_iff hsome).mpr ⟨hadv, hbefore⟩
        rw [hk]
        exact h
      · exact absurd (Nat.find_spec hsome) (hnone _)
  · have hnone : ∀ k, ¬ Advances ms batchSize (resolveSince (clock k) lookback (.ok stored)) := fun k hk =>
      hsome ⟨k, hk⟩
    have hquiet : Quiet ms batchSize lookback clock stored ↔
        ∃ K, ∀ k, K ≤ k → ∀ m ∈ ms, m.receivedAt < afterFilter (resolveSince (clock k) lookback (.ok stored)) := by
      refine exists_congr fun K => forall_congr' fun k => imp_congr_right fun _ => ?_
      rw [publishedAt_of_not_advances hbatch k clock hbase hnone]
      exact fetchNew_eq_nil_iff hbatch (ne_zero_of_second_le (hbase k))
    rw [hquiet]
    constructor
    · exact fun h => .inr ⟨hnone, h⟩
    · rintro (⟨k, -, hadv, -⟩ | ⟨-, h⟩)
      · exact absurd hadv (hnone k)
      · exact h

/-- The contract of `FetchNew`: nothing at or before `since`. -/
lemma fetchNew_strict_iff (hbatch : 1 ≤ batchSize) (since : ℤ) :
    (∀ m ∈ fastmailFetchNew ms since batchSize, since < m.receivedAt) ↔
      ∀ m ∈ ms, m.receivedAt ≤ since → since ≠ 0 ∧ m.receivedAt < afterFilter since := by
  constructor
  · intro hstrict m hm hle
    by_contra hpass
    have hmem : m ∈ ms.filter (passesFilter since) := by
      refine List.mem_filter.mpr ⟨hm, decide_eq_true ?_⟩
      by_cases hzero : since = 0
      · exact .inl hzero
      · exact .inr (not_lt.mp fun hlt => hpass ⟨hzero, hlt⟩)
    have hpos : 0 < batchSize.toNat := by omega
    obtain ⟨y, hy, hyle⟩ : ∃ y ∈ cut Mail.receivedAt batchSize.toNat (ms.filter (passesFilter since)),
        y.receivedAt ≤ m.receivedAt := exists_le_mem_cut hmem hpos
    have hlt := hstrict y (by rw [fastmailFetchNew, limit_eq hbatch]; exact hy)
    omega
  · intro hnone m hm
    obtain ⟨hmem, hpass⟩ := List.mem_filter.mp (mem_of_mem_cut hm)
    by_contra hle
    obtain ⟨hne, hlt⟩ := hnone m hmem (not_lt.mp hle)
    rcases of_decide_eq_true hpass with hzero | hge
    · exact hne hzero
    · omega

/-- **An idle mailbox.** The cycles come to an end exactly if the first one that moves the checkpoint starts at an
instant from which the mailbox settles, or none moves it and the window of the first run leaves the last message behind;
and `FetchNew` returns no message at or before `since` exactly if none came in the second of `since` before it. -/
theorem idle_mailbox_iff (hbatch : 1 ≤ batchSize)
    (hbase : ∀ i, second ≤ resolveSince (clock i) lookback (.ok stored)) :
    (Quiet ms batchSize lookback clock stored ↔
      (∃ k, (∀ i < k, ¬ Advances ms batchSize (resolveSince (clock i) lookback (.ok stored))) ∧
        Advances ms batchSize (resolveSince (clock k) lookback (.ok stored)) ∧
        Settles ms batchSize (resolveSince (clock k) lookback (.ok stored))) ∨
      (∀ k, ¬ Advances ms batchSize (resolveSince (clock k) lookback (.ok stored))) ∧
        ∃ K, ∀ k, K ≤ k → ∀ m ∈ ms, m.receivedAt < afterFilter (resolveSince (clock k) lookback (.ok stored))) ∧
    ∀ since, (∀ m ∈ fastmailFetchNew ms since batchSize, since < m.receivedAt) ↔
      ∀ m ∈ ms, m.receivedAt ≤ since → since ≠ 0 ∧ m.receivedAt < afterFilter since :=
  ⟨quiet_iff hbatch hbase, fetchNew_strict_iff hbatch⟩

end Runs

section Samples

/-- Noon of a day in 2023. -/
def noon : ℤ := unixEpoch + 1700049600 * second

/-- **The failing input**: a message of noon, and the checkpoint that its publication has left. Every cycle publishes it
again. -/
theorem noon_mailbox_loud :
    ¬ Quiet [⟨1, noon⟩] 50 0 (fun _ => noon) (some noon) ∧
      ¬ ∀ m ∈ fastmailFetchNew [⟨1, noon⟩] noon 50, noon < m.receivedAt := by
  refine ⟨?_, by decide⟩
  rw [quiet_stored_iff (by decide) (by decide)]
  rintro (hnone | ⟨hedge, -⟩)
  · exact absurd (hnone _ List.mem_cons_self) (by decide)
  · refine absurd (hedge _ List.mem_cons_self fun m' hm' => ?_) (by decide)
    rw [List.mem_singleton.mp hm']

/-- The last nanosecond of that second. -/
def noonEdge : ℤ := noon + second - 1

theorem edge_mailbox_quiet :
    Quiet [⟨1, noonEdge⟩] 1 0 (fun _ => noonEdge) (some noon) ∧
      ∀ m ∈ fastmailFetchNew [⟨1, noonEdge⟩] noonEdge 1, noonEdge < m.receivedAt := by
  have hbase : ∀ _ : ℕ, second ≤ resolveSince noonEdge 0 (.ok (some noon)) := fun _ => by decide
  have hidle : (Quiet [⟨1, noonEdge⟩] 1 0 (fun _ => noonEdge) (some noon) ↔ _) ∧ _ :=
    idle_mailbox_iff (by decide) hbase
  have hedge : ∀ m ∈ [(⟨1, noonEdge⟩ : Mail)], m = ⟨1, noonEdge⟩ := fun m hm => List.mem_singleton.mp hm
  have hadv : Advances [⟨1, noonEdge⟩] 1 noon := ⟨⟨_, List.mem_cons_self, by decide⟩, by decide⟩
  have hsettles : Settles [⟨1, noonEdge⟩] 1 noon := by
    refine .inr ⟨fun m hm _ => ?_, fun m hm _ => ?_⟩ <;> rw [hedge m hm] <;> decide
  refine ⟨hidle.1.mpr (.inl ⟨0, fun i hi => absurd hi (Nat.not_lt_zero i), hadv, hsettles⟩), ?_⟩
  refine (hidle.2 noonEdge).mpr fun m hm _ => ?_
  rw [hedge m hm]
  decide

end Samples

end Sn360Es.Ingestion
