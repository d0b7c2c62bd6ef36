import Sn360Es.Worker.BaselineSampling

/-!
# The rolling counters

`RecordSighting` counts every sighting in `Count7d` and `Count30d`. The relationship job, which is to bring the counters
back to their windows, resets `Count7d` when the last sighting is more than seven days old; it never writes `Count30d`.

* `refreshes_run` — what a cycle does to a row;
* `Ledger` — the sightings of a pair, before and since the last reset of its `Count7d`;
* `counters_rebased_iff` — after a cycle that writes the row the counters are within their windows if and only if all
  sightings are in the last thirty days, and `Count7d` has just been reset or counts no old sighting;
* `aged_sighting_counted` — an old sighting stays in both counters.
-/

namespace Sn360Es.Worker

open Lib Relationship

/-! ### What a cycle does to a row -/

/-- The operation has written the row. -/
def writesRow (k : CommKey) : (o : JobOp) × o.Ans → Bool
  | ⟨.updateCountsIfFresh h _, a⟩ =>
    match a with
    | .ok updated => updated && h.key = k
    | .error _ => false
  | _ => false

/-- The cycle has written the row. -/
def RelationshipJob.wroteRow (j : RelationshipJob) (k : CommKey) (env : ℕ → JobEnv) (w : JobWorld) : Bool :=
  (j.run.trace JobOp.exec env w).any (writesRow k)

/-- A row after a cycle that started at `now`, and that has written it or not. -/
structure RowRefresh (now : ℤ) (written : Bool) (r r' : CommunicationHistory) : Prop where
  count30d : r'.count30d = r.count30d
  lastSeenAt : r'.lastSeenAt = r.lastSeenAt
  count7d : r'.count7d = if written then (decay now r).count7d else r.count7d

/-- The same, for the tables: a row that is not there is not written. -/
def Refreshes (now : ℤ) (k : CommKey) (written : Bool) (T T' : CommTable) : Prop :=
  match T.get k with
  | none => T'.get k = none ∧ written = false
  | some r => ∃ r', T'.get k = some r' ∧ RowRefresh now written r r'

section Cycle

variable {now : ℤ} {k : CommKey} {w : JobWorld} {j : RelationshipJob} {T T' T'' : CommTable}

lemma Refreshes.of_eq (h : T'.get k = T.get k) : Refreshes now k false T T' := by
  unfold Refreshes
  rw [h]
  cases T.get k with
  | none => exact ⟨rfl, rfl⟩
  | some r => exact ⟨r, rfl, rfl, rfl, rfl⟩

lemma decay_count7d (now : ℤ) (r : CommunicationHistory) :
    (decay now r).count7d = if 0 < r.count7d ∧ r.lastSeenAt < now - week then 0 else r.count7d := by
  unfold decay
  split <;> rfl

/-- A second reset does nothing. -/
lemma RowRefresh.trans {b b' : Bool} {r r' r'' : CommunicationHistory} (h : RowRefresh now b r r')
    (h' : RowRefresh now b' r' r'') : RowRefresh now (b || b') r r'' := by
  refine ⟨h'.count30d.trans h.count30d, h'.lastSeenAt.trans h.lastSeenAt, ?_⟩
  have hfst := h.count7d
  have hsnd := h'.count7d
  rw [decay_count7d, h.lastSeenAt] at hsnd
  rw [decay_count7d] at hfst ⊢
  cases b with
  | false =>
    simp only [Bool.false_eq_true, if_false, Bool.false_or] at hfst ⊢
    rw [hsnd, hfst]
  | true =>
    simp only [if_true, Bool.true_or] at hfst ⊢
    rw [hsnd, hfst]
    split_ifs <;> omega

lemma Refreshes.trans {b b' : Bool} (h : Refreshes now k b T T') (h' : Refreshes now k b' T' T'') :
    Refreshes now k (b || b') T T'' := by
  unfold Refreshes at *
  cases hget : T.get k with
  | none =>
    simp only [hget] at h
    simp only [h.1] at h'
    exact ⟨h'.1, by rw [h.2, h'.2]; rfl⟩
  | some r =>
    simp only [hget] at h
    obtain ⟨r', hget', hr⟩ := h
    simp only [hget'] at h'
    obtain ⟨r'', hget'', hr'⟩ := h'
    exact ⟨r'', hget'', hr.trans hr'⟩

/-- What a program does, when it runs alone. -/
abbrev Alone {α : Type} (p : JobM α) (w : JobWorld)
    (Q : α → JobWorld → List ((o : JobOp) × o.Ans) → Prop) : Prop := Prog.Solo JobOp.exec p w Q

/-- No row has been written. -/
def Quiet (tr : List ((o : JobOp) × o.Ans)) : Prop := ∀ k, tr.any (writesRow k) = false

variable {tr tr' : List ((o : JobOp) × o.Ans)}

lemma Quiet.any_append (h : Quiet tr) (k : CommKey) : (tr ++ tr').any (writesRow k) = tr'.any (writesRow k) := by
  rw [List.any_append, h k, Bool.false_or]

lemma Quiet.append_any (h : Quiet tr') (k : CommKey) : (tr ++ tr').any (writesRow k) = tr.any (writesRow k) := by
  rw [List.any_append, h k, Bool.or_false]

lemma Quiet.append (h : Quiet tr) (h' : Quiet tr') : Quiet (tr ++ tr') := fun k => by rw [h.any_append, h' k]

/-- An operation that leaves the rows alone. -/
lemma alone_op {o : JobOp} (hrows : ∀ e w, (o.exec e w).2.comms = w.comms)
    (hquiet : ∀ k a, writesRow k ⟨o, a⟩ = false) :
    Alone (.perform o) w fun _ w' tr => w'.comms = w.comms ∧ Quiet tr := by
  refine Prog.solo_perform fun e a w' hexec => ⟨?_, fun k => ?_⟩
  · rw [← hrows e w, hexec]
  · rw [List.any_cons, hquiet k a, List.any_nil, Bool.or_false]

lemma alone_reclassify (h : CommunicationHistory) :
    Alone (j.reclassify h) w fun h' w' tr => w'.comms = w.comms ∧ Quiet tr ∧ h'.key = h.key ∧
      h'.count7d = h.count7d := by
  obtain ⟨f, hprog⟩ | hprog := RelationshipJob.reclassify_cases (j := j) h
  · rw [hprog]
    refine Prog.Solo.bind ((alone_op (fun _ _ => rfl) fun _ _ => rfl).mono fun now w' tr hw => ?_)
    exact ⟨hw.1, hw.2.append fun _ => rfl, rfl, rfl⟩
  · rw [hprog]
    exact ⟨rfl, fun _ => rfl, rfl, rfl⟩

lemma alone_prepareRow (t : String) (watermark : ℤ) (h : CommunicationHistory) (cache : BaselineCache) :
    Alone (j.prepareRow t watermark h cache) w fun _ w' tr => w'.comms = w.comms ∧ Quiet tr := by
  obtain ⟨-, hprog⟩ | ⟨-, b, hprog⟩ | ⟨-, f, -, hprog⟩ :=
    RelationshipJob.prepareRow_cases (j := j) t watermark h cache
  · rw [hprog]
    exact ⟨rfl, fun _ => rfl⟩
  · rw [hprog]
    exact ⟨rfl, fun _ => rfl⟩
  · rw [hprog]
    refine Prog.Solo.bind ((alone_op (fun _ _ => rfl) fun _ _ => rfl).mono fun a w' tr hw => ?_)
    exact ⟨hw.1, hw.2.append fun _ => rfl⟩

lemma alone_persistBaselineUpdate (sample : Sample) (cache : BaselineCache) (b : Option UserBehavioralBaseline) :
    Alone (RelationshipJob.persistBaselineUpdate sample cache b) w fun _ w' tr => w'.comms = w.comms ∧ Quiet tr := by
  cases b with
  | none => exact ⟨rfl, fun _ => rfl⟩
  | some b =>
    have hrows : ∀ e w, ((JobOp.upsertBaseline sample b).exec e w).2.comms = w.comms := by
      intro e w
      simp only [JobOp.exec]
      cases e.fail <;> rfl
    refine Prog.Solo.bind ((alone_op hrows fun _ _ => rfl).mono fun a w' tr hw => ?_)
    cases a with
    | none => exact ⟨hw.1, hw.2.append fun _ => rfl⟩
    | some err => exact ⟨hw.1, hw.2.append fun _ => rfl⟩

/-- Nothing but the row of the key has been written. -/
structure OnlyRow (now : ℤ) (key : CommKey) (T T' : CommTable) (tr : List ((o : JobOp) × o.Ans)) : Prop where
  others : ∀ k, k ≠ key → T'.get k = T.get k ∧ tr.any (writesRow k) = false
  row : Refreshes now key (tr.any (writesRow key)) T T'

lemma OnlyRow.of_quiet {key : CommKey} (hrows : T' = T) (hquiet : Quiet tr) : OnlyRow now key T T' tr := by
  subst hrows
  refine ⟨fun k _ => ⟨rfl, hquiet k⟩, ?_⟩
  rw [hquiet key]
  exact .of_eq rfl

lemma OnlyRow.refreshes {key : CommKey} (h : OnlyRow now key T T' tr) (k : CommKey) :
    Refreshes now k (tr.any (writesRow k)) T T' := by
  by_cases hk : k = key
  · subst hk
    exact h.row
  · obtain ⟨hget, hany⟩ := h.others k hk
    rw [hany]
    exact .of_eq hget

/-- The write of a row that was read as it is. -/
lemma alone_writeRow {h cur : CommunicationHistory} (hget : w.comms.get h.key = some cur)
    (hcount : h.count7d = (decay now cur).count7d) (readAt : ℤ) (prepared : Option UserBehavioralBaseline)
    (cache : BaselineCache) :
    Alone (RelationshipJob.writeRow h readAt prepared cache) w fun _ w' tr =>
      OnlyRow now h.key w.comms w'.comms tr := by
  unfold RelationshipJob.writeRow
  split
  · exact .of_quiet rfl fun _ => rfl
  · refine Prog.Solo.bind (Prog.solo_perform fun e a w' hexec => ?_)
    obtain ⟨rfl, hlost⟩ | ⟨rfl, -, rfl⟩ := exec_updateCountsIfFresh hexec
    · match a with
      | .error err => exact .of_quiet rfl fun _ => rfl
      | .ok false => exact .of_quiet rfl fun _ => rfl
      | .ok true => exact absurd rfl hlost
    · refine Prog.Solo.bind ((alone_persistBaselineUpdate _ _ _).mono fun cache' w' tr hw => ?_)
      obtain ⟨hrows, hquiet⟩ := hw
      have hany : ∀ k, ([(⟨.updateCountsIfFresh h readAt, .ok true⟩ : (o : JobOp) × o.Ans)] ++ (tr ++ [])).any
          (writesRow k) = decide (h.key = k) := by
        intro k
        rw [List.append_nil, hquiet.append_any, List.any_cons, List.any_nil, Bool.or_false]
        rfl
      refine ⟨fun k hk => ⟨?_, ?_⟩, ?_⟩
      · rw [hrows, CommTable.get_retouch, if_neg hk]
      · rw [hany k]
        exact decide_eq_false (Ne.symm hk)
      · rw [hany h.key, decide_eq_true rfl]
        unfold Refreshes
        rw [hrows, CommTable.get_retouch, if_pos rfl, hget]
        exact ⟨_, rfl, rfl, rfl, hcount⟩

lemma OnlyRow.after {key : CommKey} (hquiet : Quiet tr) (h : OnlyRow now key T T' tr') :
    OnlyRow now key T T' (tr ++ tr') := by
  refine ⟨fun k hk => ⟨(h.others k hk).1, ?_⟩, ?_⟩
  · rw [hquiet.any_append]
    exact (h.others k hk).2
  · rw [hquiet.any_append]
    exact h.row

lemma alone_runRow (t : String) (now watermark : ℤ) {h : CommunicationHistory} (hget : w.comms.get h.key = some h)
    (cache : BaselineCache) : Alone (j.runRow t now watermark h cache) w fun _ w' tr =>
      OnlyRow now h.key w.comms w'.comms tr := by
  refine Prog.Solo.bind ((alone_reclassify _).mono fun h' w₁ tr hw => ?_)
  obtain ⟨hrows, hquiet, hkey, hcount⟩ := hw
  rw [(sameRow_decay now h).key] at hkey
  refine Prog.Solo.bind ((alone_prepareRow t watermark h' cache).mono fun prepared w₂ tr' hw => ?_)
  obtain ⟨hrows', hquiet'⟩ := hw
  have hget' : w₂.comms.get h'.key = some h := by rw [hrows', hrows, hkey]; exact hget
  refine (alone_writeRow (h := { h' with typicalHour := RelationshipJob.typicalHourFor h' prepared.1 }) hget' hcount
    h.updatedAt prepared.1 prepared.2).mono fun res w₃ tr'' hw => ?_
  refine OnlyRow.after hquiet (OnlyRow.after hquiet' ?_)
  rw [← hrows, ← hrows', ← hkey]
  exact hw

/-- Every row is refreshed, or left alone. -/
abbrev RefreshesAll (now : ℤ) (T T' : CommTable) (tr : List ((o : JobOp) × o.Ans)) : Prop :=
  ∀ k, Refreshes now k (tr.any (writesRow k)) T T'

lemma RefreshesAll.of_quiet (hrows : T' = T) (hquiet : Quiet tr) : RefreshesAll now T T' tr := by
  subst hrows
  intro k
  rw [hquiet k]
  exact .of_eq rfl

lemma RefreshesAll.append (h : RefreshesAll now T T' tr) (h' : RefreshesAll now T' T'' tr') :
    RefreshesAll now T T'' (tr ++ tr') := by
  intro k
  rw [List.any_append]
  exact (h k).trans (h' k)

lemma alone_runRows (t : String) (now watermark : ℤ) (hs : List CommunicationHistory) (cache : BaselineCache)
    (hkeys : (hs.map (·.key)).Nodup) (hget : ∀ h ∈ hs, w.comms.get h.key = some h) :
    Alone (j.runRows t now watermark hs cache) w fun _ w' tr => RefreshesAll now w.comms w'.comms tr := by
  induction hs generalizing w cache with
  | nil => exact .of_quiet rfl fun _ => rfl
  | cons h hs ih =>
    rw [List.map_cons, List.nodup_cons] at hkeys
    refine Prog.Solo.bind ((alone_runRow t now watermark (hget h List.mem_cons_self) cache).mono fun res w₁ tr hw => ?_)
    have hget₁ : ∀ h' ∈ hs, w₁.comms.get h'.key = some h' := by
      intro h' hh'
      have hne : h'.key ≠ h.key := fun heq => hkeys.1 (heq ▸ List.mem_map_of_mem hh')
      rw [(hw.others _ hne).1]
      exact hget h' (List.mem_cons_of_mem _ hh')
    refine Prog.Solo.bind ((ih res.1 hkeys.2 hget₁).mono fun rest w₂ tr' hw' => ?_)
    refine RefreshesAll.append hw.refreshes ?_
    exact RefreshesAll.append hw' (.of_quiet rfl fun _ => rfl)

/-- The rows are listed as they are. -/
lemma alone_listByTenant (t : String) (since limit : ℤ) :
    Alone (.perform (JobOp.listByTenant t since limit)) w fun a w' tr => w' = w ∧ Quiet tr ∧
      ∀ rows, a = .ok rows → (rows.map (·.key)).Nodup ∧ ∀ h ∈ rows, w.comms.get h.key = some h := by
  refine Prog.solo_perform fun e a w' hexec => ?_
  cases hexec
  refine ⟨rfl, fun _ => rfl, fun rows hrows => ?_⟩
  cases hf : e.fail with
  | some err =>
    simp only [hf] at hrows
    cases hrows
  | none =>
    simp only [hf] at hrows
    cases hrows
    exact ⟨CommTable.listByTenant_nodup t since limit,
      fun h hh => CommTable.mem_iff_get.mp (CommTable.mem_listByTenant hh).1⟩

lemma alone_runTenant (now : ℤ) (t : String) :
    Alone (j.runTenant now t) w fun _ w' tr => RefreshesAll now w.comms w'.comms tr := by
  refine Prog.Solo.bind ((alone_listByTenant _ _ _).mono fun a w₁ tr hw => ?_)
  obtain ⟨rfl, hquiet, hlisted⟩ := hw
  cases a with
  | error err => exact .append (.of_quiet rfl hquiet) (.of_quiet rfl fun _ => rfl)
  | ok rows =>
    obtain ⟨hkeys, hget⟩ := hlisted rows rfl
    refine Prog.Solo.bind ((alone_op (fun _ _ => rfl) fun _ _ => rfl).mono fun watermark w₂ tr₂ hw₂ => ?_)
    have hget₂ : ∀ h ∈ rows, w₂.comms.get h.key = some h := by rw [hw₂.1]; exact hget
    refine Prog.Solo.bind ((alone_runRows t now watermark rows [] hkeys hget₂).mono fun err w₃ tr₃ hw₃ => ?_)
    refine Prog.Solo.bind ((alone_op (fun _ _ => rfl) fun _ _ => rfl).mono fun _ w₄ tr₄ hw₄ => ?_)
    refine .append (.of_quiet rfl hquiet) (.append (.of_quiet hw₂.1 hw₂.2) (.append hw₃ ?_))
    exact .append (.of_quiet hw₄.1 hw₄.2) (.of_quiet rfl fun _ => rfl)

lemma alone_runTenants (now : ℤ) (ts : List String) :
    Alone (j.runTenants now ts) w fun _ w' tr => RefreshesAll now w.comms w'.comms tr := by
  induction ts generalizing w with
  | nil => exact .of_quiet rfl fun _ => rfl
  | cons t ts ih =>
    refine Prog.Solo.bind ((alone_op (fun _ _ => rfl) fun _ _ => rfl).mono fun err w₁ tr hw => ?_)
    obtain ⟨hrows, hquiet⟩ := hw
    cases err with
    | some err => exact .append (.of_quiet hrows hquiet) (.of_quiet rfl fun _ => rfl)
    | none =>
      refine Prog.Solo.bind ((alone_runTenant now t).mono fun first w₂ tr₂ hw₂ => ?_)
      refine Prog.Solo.bind (ih.mono fun rest w₃ tr₃ hw₃ => ?_)
      exact .append (.of_quiet hrows hquiet) (.append hw₂ (.append hw₃ (.of_quiet rfl fun _ => rfl)))

lemma alone_runActive (now : ℤ) (active : List String × Option String) :
    Alone (j.runActive now active) w fun _ w' tr => RefreshesAll now w.comms w'.comms tr := by
  refine Prog.Solo.bind ((alone_runTenants now active.1).mono fun errs w₁ tr hw => ?_)
  cases errs.2 <|> active.2 with
  | some err => exact .append hw (.of_quiet rfl fun _ => rfl)
  | none =>
    refine Prog.Solo.bind ((alone_op (fun _ _ => rfl) fun _ _ => rfl).mono fun _ w₂ tr₂ hw₂ => ?_)
    exact .append hw (.append (.of_quiet hw₂.1 hw₂.2) (.of_quiet rfl fun _ => rfl))

/-- **What a cycle does to a row.** -/
lemma refreshes_run (env : ℕ → JobEnv) (k : CommKey) :
    Refreshes (env 0).clock.1 k (j.wroteRow k env w) w.comms (j.run.eval JobOp.exec env w).2.1.comms :=
  (alone_runActive (env 0).clock.1 ((env 1).tenants, (env 1).fail)).run (fun n => env (n + 2)) k

end Cycle

/-! ### Histories -/

/-- A sighting, or a cycle. A sighting during a cycle comes before the row is listed or after it is written, or makes
the compare-and-set lose. -/
inductive CounterEvent
  | sighting (x : SightingCall)
  | cycle (env : ℕ → JobEnv)

def CounterEvent.happens (j : RelationshipJob) (w : JobWorld) : CounterEvent → JobWorld
  | .sighting x => sight x w
  | .cycle env => (j.run.eval JobOp.exec env w).2.1

/-- The instants of the recorded sightings of a pair, before the last reset of its `Count7d` and since then. -/
structure Ledger where
  before : List ℤ := []
  since : List ℤ := []
  deriving DecidableEq, Repr

def Ledger.all (g : Ledger) : List ℤ := g.since ++ g.before

/-- The last sighting is more than seven days old. -/
def Ledger.Dormant (g : Ledger) (now : ℤ) : Prop := ∀ t ∈ g.all, t < now - week

instance (g : Ledger) (now : ℤ) : Decidable (g.Dormant now) :=
  inferInstanceAs (Decidable (∀ t ∈ g.all, t < now - week))

/-- A sighting is noted if `RecordSighting` accepts it; a cycle that writes the row of a dormant pair resets its
`Count7d`. -/
def Ledger.note (j : RelationshipJob) (k : CommKey) (w : JobWorld) (g : Ledger) : CounterEvent → Ledger
  | .sighting x =>
    match w.comms.recordSighting x.sighting x.clock x.uuid with
    | .error _ => g
    | .ok _ => if k = x.sighting.key then { g with since := x.sighting.sentAt :: g.since } else g
  | .cycle env => if j.wroteRow k env w = true ∧ g.Dormant (env 0).clock.1 then ⟨g.all, []⟩ else g

/-- The tables and the ledger of a pair after a history. -/
def afterHistory (j : RelationshipJob) (k : CommKey) (es : List CounterEvent) : JobWorld × Ledger :=
  es.foldl (fun s e => (e.happens j s.1, s.2.note j k s.1 e)) ({}, {})

/-- What the row says of the sightings. -/
structure Counts (g : Ledger) (r : CommunicationHistory) : Prop where
  count30d : r.count30d = g.all.length
  count7d : r.count7d = g.since.length
  seen : r.lastSeenAt ∈ g.all
  last : ∀ t ∈ g.all, t ≤ r.lastSeenAt

def LedgerInv (k : CommKey) (s : JobWorld × Ledger) : Prop :=
  match s.1.comms.get k with
  | none => s.2 = {}
  | some r => Counts s.2 r

section History

variable {j : RelationshipJob} {k : CommKey} {w : JobWorld} {g : Ledger} {r : CommunicationHistory}

lemma Counts.dormant_iff (h : Counts g r) {now : ℤ} : g.Dormant now ↔ r.lastSeenAt < now - week :=
  ⟨fun hd => hd _ h.seen, fun hlt t ht => (h.last t ht).trans_lt hlt⟩

/-- One more sighting. -/
lemma Counts.sighted (h : Counts g r) (s : Sighting) (now : Instant) :
    Counts { g with since := s.sentAt :: g.since } (r.retouch now (CommTable.sighted s)) := by
  refine ⟨?_, ?_, ?_, fun t ht => ?_⟩
  · show r.count30d + 1 = _
    rw [h.count30d]
    simp [Ledger.all]
  · show r.count7d + 1 = _
    rw [h.count7d]
    simp
  · show (if r.lastSeenAt < s.sentAt then s.sentAt else r.lastSeenAt) ∈ _
    split
    · exact List.mem_cons_self
    · exact List.mem_cons_of_mem _ h.seen
  · show t ≤ if r.lastSeenAt < s.sentAt then s.sentAt else r.lastSeenAt
    have hle : t = s.sentAt ∨ t ≤ r.lastSeenAt := (List.mem_cons.mp ht).imp id (h.last t)
    split <;> omega

lemma Counts.first (s : Sighting) (now : Instant) (id : UUID) :
    Counts { since := [s.sentAt] } (CommTable.firstRow s now id) := by
  refine ⟨rfl, rfl, List.mem_cons_self, fun t ht => ?_⟩
  rw [List.mem_singleton.mp ht]
  exact le_refl _

lemma ledgerInv_sighting (hinv : LedgerInv k (w, g)) (x : SightingCall) :
    LedgerInv k (sight x w, g.note j k w (.sighting x)) := by
  unfold LedgerInv at *
  simp only [sight, Ledger.note] at *
  cases hrec : w.comms.recordSighting x.sighting x.clock x.uuid with
  | error err => exact hinv
  | ok comms =>
    simp only [CommTable.get_recordSighting hrec]
    by_cases hk : k = x.sighting.key
    · rw [if_pos hk, if_pos hk]
      cases hget : w.comms.get k with
      | none =>
        simp only [hget] at hinv ⊢
        rw [hinv]
        exact Counts.first _ _ _
      | some r =>
        simp only [hget] at hinv ⊢
        exact hinv.sighted _ _
    · rw [if_neg hk, if_neg hk]
      exact hinv

/-- A cycle that writes the row resets `Count7d` or leaves it. -/
lemma Counts.refresh {r' : CommunicationHistory} {now : ℤ} {written : Bool} (h : Counts g r)
    (hr : RowRefresh now written r r') :
    Counts (if written = true ∧ g.Dormant now then ⟨g.all, []⟩ else g) r' := by
  have hcount := hr.count7d
  rw [decay_count7d] at hcount
  by_cases hreset : written = true ∧ g.Dormant now
  · rw [if_pos hreset]
    have hold : r.lastSeenAt < now - week := h.dormant_iff.mp hreset.2
    refine ⟨?_, ?_, ?_, fun t ht => ?_⟩
    · rw [hr.count30d, h.count30d]
      rfl
    · rw [hcount, if_pos hreset.1, h.count7d]
      split_ifs <;> simp_all
    · rw [hr.lastSeenAt]
      exact h.seen
    · rw [hr.lastSeenAt]
      exact h.last t ht
  · rw [if_neg hreset]
    refine ⟨hr.count30d.trans h.count30d, ?_, hr.lastSeenAt ▸ h.seen, fun t ht => hr.lastSeenAt ▸ h.last t ht⟩
    rw [hcount, ← h.count7d]
    by_cases hw : written = true
    · have hrecent : ¬ r.lastSeenAt < now - week := fun hlt => hreset ⟨hw, h.dormant_iff.mpr hlt⟩
      simp [hrecent]
    · simp [hw]

lemma ledgerInv_cycle (hinv : LedgerInv k (w, g)) (env : ℕ → JobEnv) :
    LedgerInv k ((j.run.eval JobOp.exec env w).2.1, g.note j k w (.cycle env)) := by
  have hrun := refreshes_run (j := j) (w := w) env k
  unfold Refreshes at hrun
  unfold LedgerInv at *
  simp only [Ledger.note] at *
  cases hget : w.comms.get k with
  | none =>
    simp only [hget] at hinv hrun
    simp only [hrun.1, hinv]
    exact ite_self _
  | some r =>
    simp only [hget] at hinv hrun
    obtain ⟨r', hafter, hr⟩ := hrun
    simp only [hafter]
    exact hinv.refresh hr

lemma ledgerInv_happens (hinv : LedgerInv k (w, g)) (e : CounterEvent) :
    LedgerInv k (e.happens j w, g.note j k w e) := by
  cases e with
  | sighting x => exact ledgerInv_sighting hinv x
  | cycle env => exact ledgerInv_cycle hinv env

/-- **The row counts the sightings**, after every history. -/
lemma ledgerInv_afterHistory (j : RelationshipJob) (k : CommKey) (es : List CounterEvent) :
    LedgerInv k (afterHistory j k es) := by
  induction es using List.reverseRecOn with
  | nil => rfl
  | append_singleton es e ih =>
    unfold afterHistory at *
    rw [List.foldl_append]
    exact ledgerInv_happens ih e

end History

/-! ### The windows -/

def month : ℤ := 30 * 24 * hour

/-- The instant is in the window that ends now. -/
def InWindow (now window t : ℤ) : Prop := now - window ≤ t ∧ t ≤ now

instance (now window t : ℤ) : Decidable (InWindow now window t) := inferInstanceAs (Decidable (_ ∧ _))

def seenWithin (now window : ℤ) (ts : List ℤ) : ℕ := ts.countP fun t => InWindow now window t

/-- The counters are within their windows. -/
def Rebased (now : ℤ) (g : Ledger) (r : CommunicationHistory) : Prop :=
  r.count30d ≤ seenWithin now month g.all ∧ r.count7d ≤ seenWithin now week g.all

/-- No sighting is out of the windows: all are in the last thirty days, and the pair is dormant, or the sightings since
the last reset that are not in the last seven days are made up for by those before it that are. -/
def NothingAged (now : ℤ) (g : Ledger) : Prop :=
  (∀ t ∈ g.all, InWindow now month t) ∧
    (g.Dormant now ∨ (g.since.countP fun t => ¬ InWindow now week t) ≤ seenWithin now week g.before)

instance (now : ℤ) (g : Ledger) (r : CommunicationHistory) : Decidable (Rebased now g r) :=
  inferInstanceAs (Decidable (_ ∧ _))

instance (now : ℤ) (g : Ledger) : Decidable (NothingAged now g) := inferInstanceAs (Decidable (_ ∧ (_ ∨ _)))

section Windows

variable {now : ℤ} {g : Ledger} {r r' : CommunicationHistory}

lemma length_le_seenWithin_iff {window : ℤ} {ts : List ℤ} :
    ts.length ≤ seenWithin now window ts ↔ ∀ t ∈ ts, InWindow now window t := by
  unfold seenWithin
  constructor
  · intro h t ht
    have heq := le_antisymm List.countP_le_length h
    simpa using List.countP_eq_length.mp heq t ht
  · intro h
    exact (List.countP_eq_length.mpr fun t ht => by simpa using h t ht).ge

/-- `Count7d` counts what is since the reset, the window what is in the last seven days. -/
lemma since_le_seenWithin_iff : g.since.length ≤ seenWithin now week g.all ↔
    (g.since.countP fun t => ¬ InWindow now week t) ≤ seenWithin now week g.before := by
  have hsplit : g.since.length = seenWithin now week g.since + g.since.countP fun t => ¬ InWindow now week t := by
    rw [List.length_eq_countP_add_countP fun t => decide (InWindow now week t)]
    simp [seenWithin]
  have hall : seenWithin now week g.all = seenWithin now week g.since + seenWithin now week g.before :=
    List.countP_append
  rw [hall]
  omega

lemma rebased_iff (h : Counts g r) (hr : RowRefresh now true r r') : Rebased now g r' ↔ NothingAged now g := by
  have hcount := hr.count7d
  rw [if_pos rfl, decay_count7d, h.count7d] at hcount
  unfold Rebased NothingAged
  rw [hr.count30d, h.count30d, Nat.cast_le, length_le_seenWithin_iff, hcount]
  refine and_congr Iff.rfl ?_
  by_cases hold : r.lastSeenAt < now - week
  · have hzero : (if 0 < (g.since.length : ℤ) ∧ r.lastSeenAt < now - week then (0 : ℤ) else g.since.length) = 0 := by
      split_ifs with hc
      · rfl
      · have : ¬ 0 < (g.since.length : ℤ) := fun hpos => hc ⟨hpos, hold⟩
        omega
    rw [hzero]
    exact ⟨fun _ => .inl (h.dormant_iff.mpr hold), fun _ => Int.natCast_nonneg _⟩
  · rw [if_neg fun hc => hold hc.2, Nat.cast_le, since_le_seenWithin_iff]
    exact ⟨.inr, fun hor => hor.resolve_left fun hd => hold (h.dormant_iff.mp hd)⟩

end Windows

/-- **When a cycle brings the counters back to their windows.** -/
theorem counters_rebased_iff (j : RelationshipJob) (k : CommKey) (es : List CounterEvent) (env : ℕ → JobEnv)
    (hwrote : j.wroteRow k env (afterHistory j k es).1 = true) :
    ∃ r, ((CounterEvent.cycle env).happens j (afterHistory j k es).1).comms.get k = some r ∧
      (Rebased (env 0).clock.1 (afterHistory j k es).2 r ↔ NothingAged (env 0).clock.1 (afterHistory j k es).2) := by
  have hinv := ledgerInv_afterHistory j k es
  have hrun := refreshes_run (j := j) (w := (afterHistory j k es).1) env k
  unfold Refreshes at hrun
  unfold LedgerInv at hinv
  rw [hwrote] at hrun
  cases hget : (afterHistory j k es).1.comms.get k with
  | none =>
    simp only [hget] at hrun
    exact absurd hrun.2 (by decide)
  | some r =>
    simp only [hget] at hinv hrun
    obtain ⟨r', hafter, hr⟩ := hrun
    exact ⟨r', hafter, rebased_iff hinv hr⟩

/-! ### Two histories -/

def newsJob : RelationshipJob where
  toLower := id

def newsKey : CommKey := ⟨"acme", [1], [2]⟩

/-- The pair is seen on a day. -/
def seenOnDay (day : ℤ) : CounterEvent :=
  .sighting { sighting := { tenantID := "acme", senderHash := [1], recipientHash := [2], sentAt := day * (24 * hour) } }

/-- A cycle on day 40. -/
def cycleOnDay40 (_ : ℕ) : JobEnv where
  clock := ⟨40 * (24 * hour), by decide⟩
  tenants := ["acme"]

/-- Two sightings of the last days: the counters are within their windows. -/
theorem counters_rebased_recent :
    newsJob.wroteRow newsKey cycleOnDay40 (afterHistory newsJob newsKey [seenOnDay 38, seenOnDay 39]).1 = true ∧
      ∃ r, ((CounterEvent.cycle cycleOnDay40).happens newsJob
          (afterHistory newsJob newsKey [seenOnDay 38, seenOnDay 39]).1).comms.get newsKey = some r ∧
        Rebased (40 * (24 * hour)) (afterHistory newsJob newsKey [seenOnDay 38, seenOnDay 39]).2 r := by
  have hwrote : newsJob.wroteRow newsKey cycleOnDay40
      (afterHistory newsJob newsKey [seenOnDay 38, seenOnDay 39]).1 = true := by
    decide +kernel
  obtain ⟨r, hget, hiff⟩ := counters_rebased_iff newsJob newsKey [seenOnDay 38, seenOnDay 39] cycleOnDay40 hwrote
  exact ⟨hwrote, r, hget, hiff.mpr (by decide +kernel)⟩

/-- **An aged sighting stays in both counters**: the pair is seen on day 1 and on day 40. -/
theorem aged_sighting_counted :
    newsJob.wroteRow newsKey cycleOnDay40 (afterHistory newsJob newsKey [seenOnDay 1, seenOnDay 40]).1 = true ∧
      (afterHistory newsJob newsKey [seenOnDay 1, seenOnDay 40]).2.all = [40 * (24 * hour), 1 * (24 * hour)] ∧
      ∃ r, ((CounterEvent.cycle cycleOnDay40).happens newsJob
          (afterHistory newsJob newsKey [seenOnDay 1, seenOnDay 40]).1).comms.get newsKey = some r ∧
        r.count30d = 2 ∧ r.count7d = 2 ∧
        ¬ Rebased (40 * (24 * hour)) (afterHistory newsJob newsKey [seenOnDay 1, seenOnDay 40]).2 r := by
  have hend : (((CounterEvent.cycle cycleOnDay40).happens newsJob
      (afterHistory newsJob newsKey [seenOnDay 1, seenOnDay 40]).1).comms.get newsKey).map (fun r =>
        (r.count30d, r.count7d,
          decide (Rebased (40 * (24 * hour)) (afterHistory newsJob newsKey [seenOnDay 1, seenOnDay 40]).2 r))) =
      some (2, 2, false) := by
    decide +kernel
  obtain ⟨r, hget, hr⟩ := Option.map_eq_some_iff.mp hend
  obtain ⟨hmonth, hr⟩ := Prod.mk.inj hr
  obtain ⟨hweek, hr⟩ := Prod.mk.inj hr
  exact ⟨by decide +kernel, by decide +kernel, r, hget, hmonth, hweek, of_decide_eq_false hr⟩

end Sn360Es.Worker
