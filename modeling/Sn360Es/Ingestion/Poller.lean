import Mathlib.Tactic.SplitIfs
import Sn360Es.Lib.GoTime
import Sn360Es.Lib.Lts

/-!
# The poller (`internal/service/ingestion/poller.go`, `checkpoint.go`)

One cycle of `pollMailbox` reads the checkpoint of the mailbox, fetches what came after it, publishes, and moves
the checkpoint to the newest message that was published before the first failure. A mailbox is a system of such
cycles, of arrivals and of a checkpoint that may expire.

* `checkpoint_covers` — one cycle: what it has fetched up to the new checkpoint was published;
* `Covered` — what arrived after the first and up to the last checkpoint was published; one step keeps it
  (`step_covered`) unless a cycle starts later than the checkpoint it could not read, or a message becomes
  visible behind it;
* `poller_never_loses` — so no mail is lost in a run without such steps.

A cycle that does not get the lock or whose `FetchNew` fails changes nothing and is left out.
-/

namespace Sn360Es.Ingestion

open Lib Lib.Lts

/-! ### One cycle -/

/-- A message that `FetchNew` returned; `ok` says that it was normalised, marshalled and published. -/
structure Fetched (μ : Type) where
  msg : μ
  ok : Bool
  /-- The clock, for a message without a time of receipt. -/
  wall : ℤ := 0
  deriving DecidableEq, Repr

/-- Where a cycle starts: the checkpoint, or the lookback window if there is none or it cannot be read. -/
def resolveSince (now lookback : ℤ) : Except String (Option ℤ) → ℤ
  | .ok (some got) => if got = 0 then now - lookback else got
  | _ => now - lookback

/-- `safeTimestamp`. -/
def safeTimestamp (wall t : ℤ) : ℤ := if t = 0 then wall else t

/-- `recordFailure`; zero is a barrier that is not set. -/
def recordFailure (barrier t : ℤ) : ℤ := if barrier = 0 ∨ t < barrier then t else barrier

/-- One success in the search for the new checkpoint. -/
def advanceNewest (barrier newest ts : ℤ) : ℤ :=
  if barrier ≠ 0 ∧ ¬ ts < barrier then newest else if newest < ts then ts else newest

section Cycle

variable {μ : Type} (receivedAt : μ → ℤ)

/-- The time that a fetched message counts with. -/
def Fetched.timestamp (f : Fetched μ) : ℤ := safeTimestamp f.wall (receivedAt f.msg)

/-- The earliest failure of a batch. -/
def failBarrier (fs : List (Fetched μ)) : ℤ :=
  fs.foldl (fun barrier f => if f.ok then barrier else recordFailure barrier (f.timestamp receivedAt)) 0

/-- The times of the messages that were published. -/
def successes (fs : List (Fetched μ)) : List ℤ := (fs.filter (·.ok)).map (·.timestamp receivedAt)

/-- The time that the checkpoint may move to. -/
def newest (since : ℤ) (fs : List (Fetched μ)) : ℤ :=
  (successes receivedAt fs).foldl (advanceNewest (failBarrier receivedAt fs)) since

/-- The value that a cycle of `pollMailbox` passes to `Checkpoint.Set`, if it calls it. -/
def newCheckpoint (since : ℤ) (fs : List (Fetched μ)) : Option ℤ :=
  if since < newest receivedAt since fs then some (newest receivedAt since fs) else none

variable {receivedAt}

lemma foldl_advanceNewest (barrier since : ℤ) (ts : List ℤ) : ts.foldl (advanceNewest barrier) since = since ∨
    (ts.foldl (advanceNewest barrier) since ∈ ts ∧
      (barrier = 0 ∨ ts.foldl (advanceNewest barrier) since < barrier)) := by
  induction ts generalizing since with
  | nil => exact .inl rfl
  | cons t ts ih =>
    rw [List.foldl_cons]
    rcases ih (advanceNewest barrier since t) with hsame | ⟨hmem, hlt⟩
    · rw [hsame]
      unfold advanceNewest
      split_ifs with hb ht
      · exact .inl rfl
      · refine .inr ⟨List.mem_cons_self, ?_⟩
        by_cases h0 : barrier = 0
        · exact .inl h0
        · exact .inr (not_not.mp fun h => hb ⟨h0, h⟩)
      · exact .inl rfl
    · exact .inr ⟨List.mem_cons_of_mem _ hmem, hlt⟩

/-- A failure keeps the barrier set and at or before it. -/
lemma foldl_barrier {fs : List (Fetched μ)} (hne : ∀ f ∈ fs, f.timestamp receivedAt ≠ 0) (barrier : ℤ) :
    let b := fs.foldl
      (fun barrier f => if f.ok then barrier else recordFailure barrier (f.timestamp receivedAt)) barrier
    (barrier ≠ 0 → b ≠ 0 ∧ b ≤ barrier) ∧
      ∀ f ∈ fs, f.ok = false → b ≠ 0 ∧ b ≤ f.timestamp receivedAt := by
  induction fs generalizing barrier with
  | nil => exact ⟨fun h => ⟨h, le_refl _⟩, by simp⟩
  | cons f fs ih =>
    have hf := hne f List.mem_cons_self
    have hrest := ih fun g hg => hne g (List.mem_cons_of_mem _ hg)
    dsimp only at hrest ⊢
    rw [List.foldl_cons]
    cases hok : f.ok with
    | true =>
      simp only [if_true]
      refine ⟨(hrest barrier).1, ?_⟩
      intro g hg hgok
      rcases List.mem_cons.mp hg with rfl | hmem
      · rw [hok] at hgok
        cases hgok
      · exact (hrest barrier).2 g hmem hgok
    | false =>
      simp only [Bool.false_eq_true, if_false]
      -- the barrier after this failure
      have hrec : recordFailure barrier (f.timestamp receivedAt) ≠ 0 ∧
          recordFailure barrier (f.timestamp receivedAt) ≤ f.timestamp receivedAt ∧
          (barrier ≠ 0 → recordFailure barrier (f.timestamp receivedAt) ≤ barrier) := by
        unfold recordFailure
        split_ifs with h
        · exact ⟨hf, le_refl _, fun h0 => (h.resolve_left h0).le⟩
        · rw [not_or, not_lt] at h
          exact ⟨h.1, h.2, fun _ => le_refl _⟩
      obtain ⟨h0, hle, hle'⟩ := hrec
      obtain ⟨hb0, hb⟩ := (hrest _).1 h0
      refine ⟨fun hbar => ⟨hb0, hb.trans (hle' hbar)⟩, ?_⟩
      intro g hg hgok
      rcases List.mem_cons.mp hg with rfl | hmem
      · exact ⟨hb0, hb.trans hle⟩
      · exact (hrest _).2 g hmem hgok

/-- **One cycle.** What it has fetched up to the new checkpoint was published. -/
theorem checkpoint_covers {since c : ℤ} {fs : List (Fetched μ)}
    (hne : ∀ f ∈ fs, receivedAt f.msg ≠ 0) (h : newCheckpoint receivedAt since fs = some c) :
    since < c ∧ (∃ f ∈ fs, receivedAt f.msg = c) ∧ ∀ f ∈ fs, receivedAt f.msg ≤ c → f.ok = true := by
  have htime : ∀ f ∈ fs, f.timestamp receivedAt = receivedAt f.msg := fun f hf => if_neg (hne f hf)
  unfold newCheckpoint at h
  split_ifs at h with hlt
  obtain rfl := Option.some.inj h
  rcases foldl_advanceNewest (failBarrier receivedAt fs) since (successes receivedAt fs) with hsame | ⟨hmem, hbar⟩
  · unfold newest at hlt
    rw [hsame] at hlt
    exact absurd hlt (lt_irrefl _)
  refine ⟨hlt, ?_, ?_⟩
  · obtain ⟨f, hf, hft⟩ := List.mem_map.mp hmem
    have hfs := (List.mem_filter.mp hf).1
    exact ⟨f, hfs, by rw [← htime f hfs]; exact hft⟩
  · intro f hf hle
    by_contra hok
    rw [Bool.not_eq_true] at hok
    obtain ⟨hb0, hb⟩ := (foldl_barrier (fun g hg => by rw [htime g hg]; exact hne g hg) 0).2 f hf hok
    have hlt' := hbar.resolve_left hb0
    rw [htime f hf] at hb
    exact absurd (lt_of_lt_of_le hlt' hb) (not_lt.mpr hle)

end Cycle

/-! ### A mailbox -/

structure Mail where
  id : ℕ
  receivedAt : ℤ
  deriving DecidableEq, Repr

/-- A mailbox, its checkpoint and what was published. `first` and `last` are the first and the last value that
the store has taken, whether or not it still has it. -/
structure MailboxState where
  visible : List Mail := []
  stored : Option ℤ := none
  published : List Mail := []
  first : Option ℤ := none
  last : Option ℤ := none
  deriving DecidableEq, Repr

/-- The instant that `RedisCheckpointStore.Get` returns after `Set`. -/
def readBack (ts : ℤ) : ℤ := GoTime.ofUnixNano (GoTime.unixNano ts)

/-- `RedisCheckpointStore.Set`, which refuses the zero time. -/
def MailboxState.setCheckpoint (s : MailboxState) (ts : ℤ) : MailboxState :=
  if ts = 0 then s
  else { s with stored := some (readBack ts), first := s.first.or (some (readBack ts)), last := some (readBack ts) }

/-- The contract of `FetchNew`: only messages after `since`, and what is left out came after all of them. -/
def FetchContract (since : ℤ) (visible : List Mail) (batch : List (Fetched Mail)) : Prop :=
  (∀ f ∈ batch, f.msg ∈ visible ∧ since < f.msg.receivedAt) ∧
    ∀ m ∈ visible, since < m.receivedAt → m ∉ batch.map (·.msg) → ∀ f ∈ batch, f.msg.receivedAt < m.receivedAt

instance (since : ℤ) (visible : List Mail) (batch : List (Fetched Mail)) :
    Decidable (FetchContract since visible batch) := inferInstanceAs (Decidable (_ ∧ _))

inductive MailboxEvent where
  /-- A message becomes visible. -/
  | arrive (m : Mail)
  /-- The checkpoint outlives its TTL. -/
  | expire
  /-- A cycle: the clock, whether `Get` works, the batch with its failures, and whether `Set` reaches the store. -/
  | cycle (now : ℤ) (got : Bool) (batch : List (Fetched Mail)) (stores : Bool)
  deriving DecidableEq, Repr

/-- What a cycle gets from `Checkpoint.Get`. -/
def MailboxState.get (s : MailboxState) (got : Bool) : Except String (Option ℤ) :=
  if got then .ok s.stored else .error "ingestion: checkpoint Get"

/-- The state after the messages of a batch were published. -/
def MailboxState.publish (s : MailboxState) (batch : List (Fetched Mail)) : MailboxState :=
  { s with published := s.published ++ (batch.filter (·.ok)).map (·.msg) }

def mailboxStep (lookback : ℤ) (s : MailboxState) : MailboxEvent → Option MailboxState
  | .arrive m =>
    if m.receivedAt ≠ 0 ∧ ∀ v ∈ s.visible, v.receivedAt ≤ m.receivedAt then
      some { s with visible := s.visible ++ [m] }
    else none
  | .expire => some { s with stored := none }
  | .cycle now got batch stores =>
    let since := resolveSince now lookback (s.get got)
    if FetchContract since s.visible batch then
      match newCheckpoint Mail.receivedAt since batch with
      | some c => some (if stores then (s.publish batch).setCheckpoint c else s.publish batch)
      | none => some (s.publish batch)
    else none

/-! ### No mail is lost -/

/-- What arrived after the first and at or before the current checkpoint was published. -/
def MailboxState.NoneLost (s : MailboxState) : Prop :=
  ∀ f ∈ s.first, ∀ c ∈ s.stored, ∀ m ∈ s.visible, f < m.receivedAt → m.receivedAt ≤ c → m ∈ s.published

/-- The steps that lose nothing. A cycle that cannot read the checkpoint starts at or before the last one that was
stored, and not before the year 1678; and a message becomes visible with a time after that checkpoint. -/
def SafeStep (lookback : ℤ) (s : MailboxState) : MailboxEvent → Prop
  | .arrive m => ∀ c ∈ s.last, c < m.receivedAt
  | .expire => True
  | .cycle now got _ _ =>
    (got = false ∨ s.stored = none) →
      GoTime.unixEpoch + GoTime.minInt64 ≤ now - lookback ∧ ∀ c ∈ s.last, now - lookback ≤ c

instance (lookback : ℤ) (s : MailboxState) : ∀ e, Decidable (SafeStep lookback s e)
  | .arrive _ => inferInstanceAs (Decidable (∀ c ∈ s.last, c < _))
  | .expire => inferInstanceAs (Decidable True)
  | .cycle _ got _ _ => inferInstanceAs (Decidable (got = false ∨ s.stored = none → _ ∧ ∀ c ∈ s.last, _ ≤ c))

/-- **The invariant.** What arrived after the first and up to the last checkpoint was published. -/
structure Covered (s : MailboxState) : Prop where
  dated : ∀ m ∈ s.visible, m.receivedAt ≠ 0
  stored : ∀ c ∈ s.stored, s.last = some c
  range : ∀ c ∈ s.last, GoTime.unixEpoch + GoTime.minInt64 ≤ c
  covered : ∀ f ∈ s.first, ∀ c ∈ s.last, ∀ m ∈ s.visible, f < m.receivedAt → m.receivedAt ≤ c → m ∈ s.published
  started : s.first.isSome → s.last.isSome

lemma Covered.noneLost {s : MailboxState} (h : Covered s) : s.NoneLost := fun f hf c hc =>
  h.covered f hf c (h.stored c hc)

section Steps

variable {lookback : ℤ} {s : MailboxState}

/-- A safe cycle starts at or before the last checkpoint. -/
lemma resolveSince_le {now : ℤ} {got : Bool} (h : Covered s)
    (hsafe : (got = false ∨ s.stored = none) →
      GoTime.unixEpoch + GoTime.minInt64 ≤ now - lookback ∧ ∀ c ∈ s.last, now - lookback ≤ c) :
    GoTime.unixEpoch + GoTime.minInt64 ≤ resolveSince now lookback (s.get got) ∧
      ∀ c ∈ s.last, resolveSince now lookback (s.get got) ≤ c := by
  unfold MailboxState.get
  cases got with
  | false => exact hsafe (.inl rfl)
  | true =>
    cases hstored : s.stored with
    | none => exact hsafe (.inr hstored)
    | some c =>
      have hlast := h.stored c hstored
      have hrange := h.range c hlast
      have hpos : c ≠ 0 := by
        rintro rfl
        revert hrange
        decide
      simp only [if_true, resolveSince, if_neg hpos]
      refine ⟨hrange, ?_⟩
      intro c' hc'
      rw [hlast] at hc'
      exact (Option.some.inj hc').le

lemma publish_covered (h : Covered s) (batch : List (Fetched Mail)) : Covered (s.publish batch) where
  dated := h.dated
  stored := h.stored
  range := h.range
  covered f hf c hc m hm h1 h2 := List.mem_append_left _ (h.covered f hf c hc m hm h1 h2)
  started := h.started

lemma Covered.batch_dated {since : ℤ} {batch : List (Fetched Mail)} (h : Covered s)
    (hfetch : FetchContract since s.visible batch) : ∀ f ∈ batch, f.msg.receivedAt ≠ 0 :=
  fun f hf => h.dated _ (hfetch.1 f hf).1

/-- A message between the start of a cycle and its new checkpoint is published by the cycle. -/
lemma cycle_publishes {since c : ℤ} {batch : List (Fetched Mail)} (h : Covered s)
    (hfetch : FetchContract since s.visible batch) (hc : newCheckpoint Mail.receivedAt since batch = some c)
    {m : Mail} (hm : m ∈ s.visible) (hafter : since < m.receivedAt) (hle : m.receivedAt ≤ c) :
    m ∈ (s.publish batch).published := by
  obtain ⟨-, ⟨g, hg, hgc⟩, hok⟩ := checkpoint_covers (h.batch_dated hfetch) hc
  -- the message is in the batch: else it would be later than the one the checkpoint comes from
  have hbatch : m ∈ batch.map (·.msg) := by
    by_contra hout
    have hlt := hfetch.2 m hm hafter hout g hg
    omega
  obtain ⟨f, hf, rfl⟩ := List.mem_map.mp hbatch
  have hfok : f ∈ batch.filter (·.ok) := List.mem_filter.mpr ⟨hf, hok f hf hle⟩
  exact List.mem_append_right _ (List.mem_map_of_mem hfok)

lemma setCheckpoint_covered {since c : ℤ} {batch : List (Fetched Mail)} (h : Covered s)
    (hmin : GoTime.unixEpoch + GoTime.minInt64 ≤ since) (hsince : ∀ c' ∈ s.last, since ≤ c')
    (hfetch : FetchContract since s.visible batch) (hc : newCheckpoint Mail.receivedAt since batch = some c) :
    Covered ((s.publish batch).setCheckpoint c) := by
  have hlt := (checkpoint_covers (h.batch_dated hfetch) hc).1
  have hread : readBack c ≤ c := GoTime.ofUnixNano_unixNano_le (by omega)
  unfold MailboxState.setCheckpoint
  split_ifs with h0
  · exact publish_covered h batch
  refine ⟨h.dated, fun c' hc' => hc', ?_, ?_, fun _ => rfl⟩
  · intro c' hc'
    obtain rfl := Option.some.inj hc'
    exact GoTime.ofUnixNano_unixNano_pos c
  · intro f hf c' hc' m hm h1 h2
    obtain rfl := Option.some.inj hc'
    by_cases hafter : since < m.receivedAt
    · exact cycle_publishes h hfetch hc hm hafter (h2.trans hread)
    · cases hfirst : s.first with
      | none =>
        -- this is the first checkpoint: nothing lies between it and itself
        have hf' : (s.first.or (some (readBack c))) = some f := hf
        rw [hfirst, Option.none_or, Option.some.injEq] at hf'
        omega
      | some f' =>
        have hf' : (s.first.or (some (readBack c))) = some f := hf
        rw [hfirst, Option.some_or, Option.some.injEq] at hf'
        subst hf'
        obtain ⟨l, hl⟩ := Option.isSome_iff_exists.mp (h.started (by rw [hfirst]; rfl))
        have hle := hsince l hl
        exact List.mem_append_left _ (h.covered f' hfirst l hl m hm h1 (by omega))

lemma step_covered (lookback : ℤ) (s : MailboxState) (e : MailboxEvent) (s' : MailboxState) (h : Covered s)
    (hsafe : SafeStep lookback s e) (hs : mailboxStep lookback s e = some s') : Covered s' := by
  cases e with
  | arrive m =>
    simp only [mailboxStep] at hs
    split_ifs at hs with hguard
    obtain rfl := Option.some.inj hs
    refine ⟨?_, h.stored, h.range, ?_, h.started⟩
    · intro v hv
      rcases List.mem_append.mp hv with hv | hv
      · exact h.dated v hv
      · obtain rfl := List.mem_singleton.mp hv
        exact hguard.1
    · intro f hf c hc v hv h1 h2
      rcases List.mem_append.mp hv with hv | hv
      · exact h.covered f hf c hc v hv h1 h2
      · obtain rfl := List.mem_singleton.mp hv
        have hlt : c < v.receivedAt := hsafe c hc
        omega
  | expire =>
    obtain rfl := Option.some.inj hs
    exact ⟨h.dated, nofun, h.range, h.covered, h.started⟩
  | cycle now got batch stores =>
    obtain ⟨hmin, hsince⟩ := resolveSince_le h hsafe
    simp only [mailboxStep] at hs
    split at hs
    · next hfetch =>
      split at hs
      · next c hc =>
        obtain rfl := Option.some.inj hs
        cases stores with
        | true => exact setCheckpoint_covered h hmin hsince hfetch hc
        | false => exact publish_covered h batch
      · obtain rfl := Option.some.inj hs
        exact publish_covered h batch
    · cases hs

end Steps

/-- **No mail is lost** in a run whose steps are all safe. -/
theorem poller_never_loses (lookback : ℤ) {es : List MailboxEvent} {s : MailboxState}
    (hsafe : Meets (mailboxStep lookback) (SafeStep lookback) {} es)
    (hrun : run (mailboxStep lookback) {} es = some s) : s.NoneLost := by
  have hinit : Covered {} := ⟨by simp, nofun, nofun, nofun, nofun⟩
  exact (run_induct (step_covered lookback) hinit hsafe hrun).noneLost

section Samples

/-- Some minutes after an instant in 2023. -/
def minute (n : ℤ) : ℤ := GoTime.unixEpoch + (1700000000 + 60 * n) * GoTime.second

def hour : ℤ := 3600 * GoTime.second

/-- Three messages and two cycles; `got` says whether the second one can read the checkpoint. -/
def twoCycles (got : Bool) (batch : List (Fetched Mail)) : List MailboxEvent :=
  [.arrive ⟨1, minute 0⟩, .cycle (minute 1) true [⟨⟨1, minute 0⟩, true, 0⟩] true, .arrive ⟨2, minute 30⟩,
    .arrive ⟨3, minute 180⟩, .cycle (minute 190) got batch true]

theorem poller_keeps_two_cycles :
    ∃ s, run (mailboxStep hour) {} (twoCycles true
        [⟨⟨2, minute 30⟩, true, 0⟩, ⟨⟨3, minute 180⟩, false, 0⟩]) = some s ∧
      s.stored = some (minute 30) ∧ s.NoneLost := by
  have hrun : (run (mailboxStep hour) {} (twoCycles true
      [⟨⟨2, minute 30⟩, true, 0⟩, ⟨⟨3, minute 180⟩, false, 0⟩])).map (·.stored) = some (some (minute 30)) := by
    decide
  obtain ⟨s, hs, hstored⟩ := Option.map_eq_some_iff.mp hrun
  exact ⟨s, hs, hstored, poller_never_loses hour (by decide) hs⟩

/-- After a failed `Get` the second cycle starts an hour back, behind the second message, and its checkpoint
passes it. -/
theorem poller_loses_unread_checkpoint :
    ∃ s, run (mailboxStep hour) {} (twoCycles false [⟨⟨3, minute 180⟩, true, 0⟩]) = some s ∧ ¬ s.NoneLost := by
  have hrun : (run (mailboxStep hour) {} (twoCycles false [⟨⟨3, minute 180⟩, true, 0⟩])).map
      (fun s => (s.first, s.stored, s.visible, s.published)) =
      some (some (minute 0), some (minute 180), [⟨1, minute 0⟩, ⟨2, minute 30⟩, ⟨3, minute 180⟩],
        [⟨1, minute 0⟩, ⟨3, minute 180⟩]) := by decide
  obtain ⟨s, hs, hfields⟩ := Option.map_eq_some_iff.mp hrun
  simp only [Prod.mk.injEq] at hfields
  obtain ⟨hfirst, hstored, hvisible, hpublished⟩ := hfields
  refine ⟨s, hs, ?_⟩
  intro hnone
  have hmem := hnone _ hfirst _ hstored ⟨2, minute 30⟩ (by rw [hvisible]; simp) (by decide) (by decide)
  rw [hpublished] at hmem
  revert hmem
  decide

end Samples

end Sn360Es.Ingestion
