import Sn360Es.Worker.BaselineSampling

/-!
# Every sighting of a baseline is sampled once

* `calm_runTenants` — a cycle without failures and sightings samples every row that it lists, if what was not sampled
  was seen after the watermark;
* `baseline_sampled_once` — in every run that keeps the watermarks between what is sampled and what is not, no
  `LastSeenAt` of a row is sampled twice, and the next calm cycle samples what is not sampled;
* `sampled_twice` — a row that was seen after the start of the cycle is sampled again, and one whose write has lost the
  race is passed over.
-/

namespace Sn360Es.Worker

open Lib Relationship

/-! ### Calm cycles -/

/-- Nothing fails, and a tenant is active once. -/
abbrev CalmEnv := { e : JobEnv // e.fail = none ∧ e.tenants.Nodup }

def calmExec (o : JobOp) (e : CalmEnv) (w : JobWorld) : o.Ans × JobWorld := o.exec e.1 w

section Calm

variable {w : JobWorld} {j : RelationshipJob}

/-- What a program does alone, when nothing fails. -/
abbrev Calm {α : Type} (p : JobM α) (w : JobWorld) (Q : α → JobWorld → Prop) : Prop :=
  Prog.Solo calmExec p w fun a w' _ => Q a w'

lemma calm_read {o : JobOp} (hread : ∀ e w, (o.exec e w).2 = w) : Calm (.perform o) w fun _ w' => w' = w :=
  Prog.solo_perform fun e _ _ hexec => by rw [← hread e.1 w]; exact (congrArg Prod.snd hexec).symm

lemma calm_reclassify (h : CommunicationHistory) :
    Calm (j.reclassify h) w fun h' w' => w' = w ∧ SameRow h h' := by
  obtain ⟨f, hprog⟩ | hprog := RelationshipJob.reclassify_cases (j := j) h
  · rw [hprog]
    exact Prog.Solo.bind ((calm_read fun _ _ => rfl).mono fun now w' tr hw => ⟨hw, rfl, rfl, rfl, rfl⟩)
  · rw [hprog]
    exact ⟨rfl, SameRow.refl h⟩

/-- The baseline of a row that passes the gate is prepared. -/
lemma calm_prepareRow (t : String) (watermark : ℤ) (h : CommunicationHistory) (cache : BaselineCache) :
    Calm (j.prepareRow t watermark h cache) w fun res w' => w' = w ∧ (j.Gate watermark h → res.1.isSome) := by
  obtain ⟨hgate, hprog⟩ | ⟨-, b, hprog⟩ | ⟨-, f, hsome, hprog⟩ :=
    RelationshipJob.prepareRow_cases (j := j) t watermark h cache
  · rw [hprog]
    exact ⟨rfl, fun h => absurd h hgate⟩
  · rw [hprog]
    exact ⟨rfl, fun _ => rfl⟩
  · rw [hprog]
    refine Prog.Solo.bind (Prog.solo_perform fun e a w' hexec => ?_)
    simp only [calmExec, JobOp.exec, e.2.1] at hexec
    cases hexec
    refine ⟨rfl, fun _ => (hsome _).mpr fun err herr => ?_⟩
    cases hfound : w.baselines t h.recipientHash h.senderDomainHash with
    | some b =>
      simp only [hfound] at herr
      cases herr
    | none =>
      simp only [hfound] at herr
      cases herr

/-- What the write of a row has done. -/
structure RowDone (w : JobWorld) (h : CommunicationHistory) (w' : JobWorld) : Prop where
  samples : w.samples ⊆ w'.samples
  watermarks : w'.watermarks = w.watermarks
  others : ∀ k, k ≠ h.key → w'.comms.get k = w.comms.get k
  elsewhere : ∀ u, u ≠ h.tenantID → w'.comms.rowsOf u = w.comms.rowsOf u

/-- The compare-and-set of a row that is as it was read succeeds, and the sample of its baseline is taken. -/
lemma calm_writeRow {h cur : CommunicationHistory} (hget : w.comms.get h.key = some cur) (hid : h.id = cur.id)
    (prepared : Option UserBehavioralBaseline) (cache : BaselineCache) :
    Calm (RelationshipJob.writeRow h cur.updatedAt prepared cache) w fun _ w' =>
      RowDone w h w' ∧ (prepared.isSome → sampleOf h ∈ w'.samples) := by
  have hcur : cur ∈ w.comms.rows := CommTable.mem_iff_get.mpr (by rw [CommTable.get_key hget]; exact hget)
  obtain ⟨hcurid, hcurtenant, hstamp⟩ := w.comms.stamped cur hcur
  have htenant : h.tenantID = cur.tenantID := (congrArg CommKey.tenantID (CommTable.get_key hget)).symm
  unfold RelationshipJob.writeRow
  rw [if_neg hstamp]
  refine Prog.Solo.bind (Prog.solo_perform fun e a w' hexec => ?_)
  have hok := exec_updateCountsIfFresh_of_fresh (h := h) e.2.1 (by rw [hid]; exact hcurid)
    (by rw [htenant]; exact hcurtenant) hstamp hget rfl
  rw [calmExec, hok] at hexec
  cases hexec
  have hdone : RowDone w h { w with comms := w.comms.retouch e.1.clock h.key (CommTable.refreshed h) } := by
    refine ⟨fun _ hx => hx, rfl, fun k hk => ?_, fun u hu => ?_⟩
    · rw [CommTable.get_retouch, if_neg hk]
    · exact CommTable.rowsOf_retouch (Ne.symm hu) _ _
  cases prepared with
  | none => exact ⟨hdone, nofun⟩
  | some b =>
    refine Prog.Solo.bind (Prog.Solo.bind (Prog.solo_perform fun e' a w' hexec' => ?_))
    simp only [calmExec, JobOp.exec, e'.2.1] at hexec'
    cases hexec'
    exact ⟨⟨fun _ hx => List.mem_cons_of_mem _ hx, rfl, hdone.others, hdone.elsewhere⟩, fun _ => List.mem_cons_self⟩

lemma calm_runRow (t : String) (now : ℤ) {watermark : ℤ} {h : CommunicationHistory} (hbase : j.hasBaselines = true)
    (hget : w.comms.get h.key = some h)
    (hfresh : Sampleable h → sampleOf h ∈ w.samples ∨ watermark < h.lastSeenAt) (cache : BaselineCache) :
    Calm (j.runRow t now watermark h cache) w fun _ w' =>
      RowDone w h w' ∧ (Sampleable h → sampleOf h ∈ w'.samples) := by
  refine Prog.Solo.bind ((calm_reclassify _).mono fun h' w' tr hw => ?_)
  obtain ⟨rfl, hsame⟩ := hw
  have hrow : SameRow h h' := (sameRow_decay now h).trans hsame
  refine Prog.Solo.bind ((calm_prepareRow t watermark h' cache).mono fun prepared w' tr hw => ?_)
  obtain ⟨rfl, hprepared⟩ := hw
  have hkey : w'.comms.get h'.key = some h := by rw [hrow.key]; exact hget
  refine (calm_writeRow (h := { h' with typicalHour := RelationshipJob.typicalHourFor h' prepared.1 }) hkey hrow.id
    prepared.1 prepared.2).mono fun res w'' tr hw => ?_
  obtain ⟨hdone, hsampled⟩ := hw
  refine ⟨⟨hdone.samples, hdone.watermarks, fun k hk => hdone.others k (by rw [← hrow.key] at hk; exact hk),
    fun u hu => hdone.elsewhere u (by rw [← hrow.tenantID] at hu; exact hu)⟩, fun hs => ?_⟩
  rcases hfresh hs with hold | hlt
  · exact hdone.samples hold
  · have hgate : j.Gate watermark h' := ⟨hbase, hrow.sampleable.mpr hs, by rw [hrow.seen]; exact hlt⟩
    rw [← hrow.sampleOf_eq]
    exact hsampled (hprepared hgate)

/-- What the visit of a tenant has done. -/
structure TenantDone (w : JobWorld) (t : String) (w' : JobWorld) : Prop where
  samples : w.samples ⊆ w'.samples
  watermarks : ∀ u, u ≠ t → w'.watermarks u = w.watermarks u
  elsewhere : ∀ u, u ≠ t → w'.comms.rowsOf u = w.comms.rowsOf u

/-- The row loop samples all its rows. A row that is still to come is as it was listed: the rows before it have other
keys. -/
lemma calm_runRows (t : String) (now watermark : ℤ) (hs : List CommunicationHistory) (cache : BaselineCache)
    (hbase : j.hasBaselines = true) (hkeys : (hs.map (·.key)).Nodup) (htenant : ∀ h ∈ hs, h.tenantID = t)
    (hget : ∀ h ∈ hs, w.comms.get h.key = some h)
    (hfresh : ∀ h ∈ hs, Sampleable h → sampleOf h ∈ w.samples ∨ watermark < h.lastSeenAt) :
    Calm (j.runRows t now watermark hs cache) w fun _ w' =>
      TenantDone w t w' ∧ ∀ h ∈ hs, Sampleable h → sampleOf h ∈ w'.samples := by
  induction hs generalizing w cache with
  | nil => exact ⟨⟨fun _ hx => hx, fun _ _ => rfl, fun _ _ => rfl⟩, nofun⟩
  | cons h hs ih =>
    rw [List.map_cons, List.nodup_cons] at hkeys
    refine Prog.Solo.bind ((calm_runRow t now hbase (hget h List.mem_cons_self) (hfresh h List.mem_cons_self)
      cache).mono fun res w₁ tr hw => ?_)
    obtain ⟨hdone, hsampled⟩ := hw
    have hget₁ : ∀ h' ∈ hs, w₁.comms.get h'.key = some h' := by
      intro h' hh'
      have hne : h'.key ≠ h.key := fun heq => hkeys.1 (heq ▸ List.mem_map_of_mem hh')
      rw [hdone.others _ hne]
      exact hget h' (List.mem_cons_of_mem _ hh')
    have hfresh₁ : ∀ h' ∈ hs, Sampleable h' → sampleOf h' ∈ w₁.samples ∨ watermark < h'.lastSeenAt :=
      fun h' hh' hs' => (hfresh h' (List.mem_cons_of_mem _ hh') hs').imp (@hdone.samples _) id
    refine Prog.Solo.bind ((ih res.1 hkeys.2 (fun h' hh' => htenant h' (List.mem_cons_of_mem _ hh')) hget₁
      hfresh₁).mono fun rest w₂ tr hw => ?_)
    obtain ⟨hrest, hall⟩ := hw
    have ht : h.tenantID = t := htenant h List.mem_cons_self
    refine ⟨⟨fun x hx => hrest.samples (hdone.samples hx), fun u hu => ?_, fun u hu => ?_⟩, fun h' hh' hs' => ?_⟩
    · rw [hrest.watermarks u hu, hdone.watermarks]
    · rw [hrest.elsewhere u hu, hdone.elsewhere u (by rw [ht]; exact hu)]
    · rcases List.mem_cons.mp hh' with rfl | hh'
      · exact hrest.samples (hsampled hs')
      · exact hall h' hh' hs'

lemma calm_runTenant (now : ℤ) (t : String) (hbase : j.hasBaselines = true)
    (hfresh : ∀ r ∈ w.comms.rows, r.tenantID = t → Fresh w r) :
    Calm (j.runTenant now t) w fun _ w' => TenantDone w t w' ∧
      ∀ h ∈ w.comms.listByTenant t (now - j.window) j.maxPerTenant, Sampleable h → sampleOf h ∈ w'.samples := by
  refine Prog.Solo.bind (Prog.solo_perform fun e a w' hexec => ?_)
  simp only [calmExec, JobOp.exec, e.2.1] at hexec
  cases hexec
  refine Prog.Solo.bind (Prog.solo_perform fun e' watermark w' hexec' => ?_)
  cases hexec'
  have hget : ∀ h ∈ w.comms.listByTenant t (now - j.window) j.maxPerTenant, w.comms.get h.key = some h :=
    fun h hh => CommTable.mem_iff_get.mp (CommTable.mem_listByTenant hh).1
  have hlisted : ∀ h ∈ w.comms.listByTenant t (now - j.window) j.maxPerTenant,
      Sampleable h → sampleOf h ∈ w.samples ∨ w.watermarks t < h.lastSeenAt := by
    intro h hh hs
    obtain ⟨hmem, ht⟩ := CommTable.mem_listByTenant hh
    have hrow := hfresh h hmem ht hs
    rw [ht] at hrow
    exact hrow
  refine Prog.Solo.bind ((calm_runRows t now _ _ [] hbase (CommTable.listByTenant_nodup _ _ _)
    (fun h hh => (CommTable.mem_listByTenant hh).2) hget hlisted).mono fun err w₁ tr hw => ?_)
  obtain ⟨hdone, hsampled⟩ := hw
  refine Prog.Solo.bind (Prog.solo_perform fun e'' a w₂ hexec'' => ?_)
  cases hexec''
  refine ⟨⟨hdone.samples, fun u hu => ?_, hdone.elsewhere⟩, hsampled⟩
  show (if u = t then now else w₁.watermarks u) = w.watermarks u
  rw [if_neg hu]
  exact hdone.watermarks u hu

/-- **A calm cycle samples every row that it lists.** -/
lemma calm_runTenants (now : ℤ) {ts : List String} (hnodup : ts.Nodup) (hbase : j.hasBaselines = true)
    (hfresh : ∀ t ∈ ts, ∀ r ∈ w.comms.rows, r.tenantID = t → Fresh w r) :
    Calm (j.runTenants now ts) w fun errs w' => errs.2 = none ∧ w.samples ⊆ w'.samples ∧ ∀ t ∈ ts,
      ∀ h ∈ w.comms.listByTenant t (now - j.window) j.maxPerTenant, Sampleable h → sampleOf h ∈ w'.samples := by
  induction ts generalizing w with
  | nil => exact ⟨rfl, fun _ hx => hx, nofun⟩
  | cons t ts ih =>
    obtain ⟨hnew, hnodup⟩ := List.nodup_cons.mp hnodup
    refine Prog.Solo.bind (Prog.solo_perform fun e a w' hexec => ?_)
    simp only [calmExec, JobOp.exec, e.2.1] at hexec
    cases hexec
    refine Prog.Solo.bind ((calm_runTenant now t hbase (hfresh t List.mem_cons_self)).mono fun first w₁ tr hw => ?_)
    obtain ⟨hdone, hsampled⟩ := hw
    have hne : ∀ u ∈ ts, u ≠ t := fun u hu heq => hnew (heq ▸ hu)
    -- the rows and the watermark of a tenant that is still to come are as before
    have hfresh₁ : ∀ u ∈ ts, ∀ r ∈ w₁.comms.rows, r.tenantID = u → Fresh w₁ r := by
      intro u hu r hr hru hs
      have hmem : r ∈ w₁.comms.rowsOf u := List.mem_filter.mpr ⟨hr, by simpa using hru⟩
      rw [hdone.elsewhere u (hne u hu)] at hmem
      have hold := hfresh u (List.mem_cons_of_mem _ hu) r (List.mem_filter.mp hmem).1 hru hs
      rw [hdone.watermarks _ (by rw [hru]; exact hne u hu)]
      exact hold.imp (@hdone.samples _) id
    refine Prog.Solo.bind ((ih hnodup hfresh₁).mono fun rest w₂ tr hw => ?_)
    obtain ⟨herr, hgrow, hrest⟩ := hw
    refine ⟨herr, fun x hx => hgrow (hdone.samples hx), fun u hu h hh hs => ?_⟩
    rcases List.mem_cons.mp hu with rfl | hu
    · exact hgrow (hsampled h hh hs)
    · refine hrest u hu h ?_ hs
      rw [CommTable.listByTenant_congr (hdone.elsewhere u (hne u hu))]
      exact hh

/-- The next calm cycle samples every row that it lists. -/
def CatchesUp (j : RelationshipJob) (w : JobWorld) : Prop :=
  ∀ env : ℕ → CalmEnv, ∀ t ∈ (env 1).1.tenants,
    ∀ h ∈ w.comms.listByTenant t ((env 0).1.clock.1 - j.window) j.maxPerTenant,
      Sampleable h → sampleOf h ∈ (j.run.eval calmExec env w).2.1.samples

lemma catchesUp_of_fresh (hbase : j.hasBaselines = true) (hfresh : ∀ r ∈ w.comms.rows, Fresh w r) :
    CatchesUp j w := by
  intro env t ht h hh hs
  have hrest : Calm (j.runActive (env 0).1.clock.1 ((env 1).1.tenants, (env 1).1.fail)) w
      fun _ w' => sampleOf h ∈ w'.samples := by
    refine Prog.Solo.bind ((calm_runTenants _ (env 1).2.2 hbase fun _ _ r hr _ => hfresh r hr).mono
      fun errs w' tr hw => ?_)
    obtain ⟨herr, -, hsampled⟩ := hw
    rw [herr, (env 1).2.1]
    refine Prog.Solo.bind (Prog.solo_perform fun e a w'' hexec => ?_)
    cases hexec
    exact hsampled t ht h hh hs
  exact hrest.run fun n => env (n + 2)

end Calm

/-! ### Exactly once -/

/-- A job that has just been constructed. -/
def jobStart (T : CommTable) : JobState := ⟨{ comms := T }, .ret none⟩

/-- **Every sighting of a baseline is sampled once.** -/
theorem baseline_sampled_once {j : RelationshipJob} {T : CommTable} (hseen : ∀ r ∈ T.rows, 0 < r.lastSeenAt)
    {ls : List (Amid.Label SightingCall JobEnv)} {s : JobState}
    (hmeets : Lts.Meets (jobStep j) (Amid.Allows samplingBooks) (jobStart T) ls)
    (hrun : Lts.run (jobStep j) (jobStart T) ls = some s) :
    s.shared.samples.Nodup ∧ (j.hasBaselines = true → s.Idle → CatchesUp j s.shared) := by
  have hinit : Amid.Holds jobRules samplingBooks Sep (jobStart T) := by
    refine ⟨⟨List.nodup_nil, fun r hr _ => .inr (hseen r hr), fun _ => le_refl 0⟩, ?_⟩
    exact fun x hx => absurd hx List.not_mem_nil
  have houtside : ∀ w x, samplingBooks.inv w → samplingBooks.permits w x →
      samplingBooks.inv (jobRules.outside x w) ∧ samplingBooks.own (jobRules.outside x w) = samplingBooks.own w := by
    intro w x hinv hx
    obtain ⟨hsamples, hmarks⟩ := sight_own x w
    refine ⟨hinv.sight hx, ?_⟩
    show (⟨(sight x w).samples, (sight x w).watermarks⟩ : Sampling) = ⟨w.samples, w.watermarks⟩
    rw [hsamples, hmarks]
  have hholds := Amid.run_keeps houtside (fun _ hsep => sampling_run hsep) hinit hmeets hrun
  exact ⟨hholds.inv.once, fun hbase _ => catchesUp_of_fresh hbase hholds.inv.fresh⟩

/-! ### Runs -/

def acmeRow : CommunicationHistory where
  id := "r1"
  tenantID := "acme"
  senderHash := [1]
  recipientHash := [2]
  senderDomainHash := [3]
  count7d := 1
  count30d := 1
  firstSeenAt := 100
  lastSeenAt := 100
  updatedAt := 100

def acmeTable : CommTable where
  rows := [acmeRow]
  keys_nodup := by decide
  stamped := by decide

def acmeJob : RelationshipJob where
  toLower := id

/-- The tenant is active, and nothing fails. -/
def acmeEnv (clock : Instant) : CalmEnv := ⟨{ clock, tenants := ["acme"] }, rfl, by simp⟩

/-- Some operations of a cycle. -/
def ops (clock : Instant) (n : ℕ) : List (Amid.Label SightingCall JobEnv) :=
  List.replicate n (.advance (acmeEnv clock).1)

/-- The pair is seen again. -/
def seenAgain (sentAt : ℤ) (clock : Instant) : Amid.Label SightingCall JobEnv :=
  .outside { sighting := { tenantID := "acme", senderHash := [1], recipientHash := [2], sentAt }, clock }

/-- Two cycles, and a sighting between them. -/
def quietRun : List (Amid.Label SightingCall JobEnv) :=
  .start :: ops ⟨200, by decide⟩ 10 ++ seenAgain 300 ⟨301, by decide⟩ :: .start :: ops ⟨400, by decide⟩ 10

/-- Both sightings are sampled, each once. -/
theorem sampled_in_two_cycles : (∀ r ∈ acmeTable.rows, 0 < r.lastSeenAt) ∧
    Lts.Meets (jobStep acmeJob) (Amid.Allows samplingBooks) (jobStart acmeTable) quietRun ∧
    ∃ s, Lts.run (jobStep acmeJob) (jobStart acmeTable) quietRun = some s ∧
      s.shared.samples = [(acmeRow.key, 300), (acmeRow.key, 100)] ∧
      s.shared.samples.Nodup ∧ CatchesUp acmeJob s.shared := by
  have hseen : ∀ r ∈ acmeTable.rows, 0 < r.lastSeenAt := by decide
  have hmeets : Lts.Meets (jobStep acmeJob) (Amid.Allows samplingBooks) (jobStart acmeTable) quietRun := by
    decide +kernel
  have hend : (Lts.run (jobStep acmeJob) (jobStart acmeTable) quietRun).map
      (fun s => (s.shared.samples, decide s.Idle)) = some ([(acmeRow.key, 300), (acmeRow.key, 100)], true) := by
    decide +kernel
  obtain ⟨s, hrun, hs⟩ := Option.map_eq_some_iff.mp hend
  obtain ⟨hsamples, hidle⟩ := Prod.mk.inj hs
  obtain ⟨honce, hcatch⟩ := baseline_sampled_once hseen hmeets hrun
  exact ⟨hseen, hmeets, s, hrun, hsamples, honce, hcatch rfl (of_decide_eq_true hidle)⟩

/-- The pair is seen after the start of the cycle, and before its row is listed. -/
def lateRun : List (Amid.Label SightingCall JobEnv) :=
  .start :: ops ⟨200, by decide⟩ 1 ++ seenAgain 250 ⟨251, by decide⟩ :: ops ⟨300, by decide⟩ 9 ++
    .start :: ops ⟨400, by decide⟩ 10

/-- A mail that was sent before the cycle is ingested while its row is written. -/
def lostRun : List (Amid.Label SightingCall JobEnv) :=
  .start :: ops ⟨200, by decide⟩ 6 ++ seenAgain 150 ⟨201, by decide⟩ :: ops ⟨300, by decide⟩ 3

/-- **A sighting is sampled twice**, and another is passed over. -/
theorem sampled_twice :
    (∃ s, Lts.run (jobStep acmeJob) (jobStart acmeTable) lateRun = some s ∧
      s.shared.samples = [(acmeRow.key, 250), (acmeRow.key, 250)]) ∧
    ∃ s, Lts.run (jobStep acmeJob) (jobStart acmeTable) lostRun = some s ∧ s.Idle ∧ ¬ CatchesUp acmeJob s.shared := by
  have hlate : (Lts.run (jobStep acmeJob) (jobStart acmeTable) lateRun).map (·.shared.samples) =
      some [(acmeRow.key, 250), (acmeRow.key, 250)] := by
    decide +kernel
  have hlost : (Lts.run (jobStep acmeJob) (jobStart acmeTable) lostRun).map
      (fun s => (decide s.Idle,
        s.shared.comms.listByTenant "acme" (400 - acmeJob.window) acmeJob.maxPerTenant,
        (acmeJob.run.eval calmExec (fun _ => acmeEnv ⟨400, by decide⟩) s.shared).2.1.samples)) =
      some (true, [{ acmeRow with count7d := 2, count30d := 2, lastSeenAt := 150, updatedAt := 201 }], []) := by
    decide +kernel
  refine ⟨Option.map_eq_some_iff.mp hlate, ?_⟩
  obtain ⟨s, hrun, hs⟩ := Option.map_eq_some_iff.mp hlost
  obtain ⟨hidle, hs⟩ := Prod.mk.inj hs
  obtain ⟨hlist, hsamples⟩ := Prod.mk.inj hs
  refine ⟨s, hrun, of_decide_eq_true hidle, fun hcatch => ?_⟩
  have hmem := hcatch (fun _ => acmeEnv ⟨400, by decide⟩) "acme" List.mem_cons_self _
    (by rw [show ((acmeEnv ⟨400, by decide⟩).1.clock.1 : ℤ) = 400 from rfl, hlist]; exact List.mem_cons_self)
    (by decide)
  rw [hsamples] at hmem
  exact absurd hmem List.not_mem_nil

end Sn360Es.Worker
