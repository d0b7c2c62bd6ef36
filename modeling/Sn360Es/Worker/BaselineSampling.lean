import Sn360Es.Worker.RelationshipJob

/-!
# Sampling of the behavioural baselines

Cycles of the relationship job, one after the other, and sightings at any moment between their operations. A cycle
samples the rows that were seen after the watermark, and then moves the watermark to its own start.

* `Sep` — what is sampled is not after the watermark; `Fresh` — what is not sampled is;
* `Separates`, `SeenAfter` — the condition on the steps of a cycle and on the sightings;
* `sampling_run` — under the condition a cycle keeps both.
-/

namespace Sn360Es.Worker

open Lib Relationship

/-! ### Cycles and sightings -/

/-- A sighting, with what its call meets. -/
structure SightingCall where
  sighting : Sighting
  clock : Instant := default
  uuid : UUID := default

/-- `RecordSighting`. -/
def sight (x : SightingCall) (w : JobWorld) : JobWorld :=
  match w.comms.recordSighting x.sighting x.clock x.uuid with
  | .error _ => w
  | .ok comms => { w with comms }

def jobRules : Amid.Rules JobOp JobOp.Ans JobWorld JobEnv SightingCall where
  exec := JobOp.exec
  outside := sight

abbrev JobState := Amid JobOp JobOp.Ans (Option String) JobWorld

/-- A step of the job and of the ingestion. -/
def jobStep (j : RelationshipJob) : JobState → Amid.Label SightingCall JobEnv → Option JobState :=
  Amid.step jobRules j.run

/-- What only the job writes. -/
structure Sampling where
  samples : List Sample
  watermarks : String → ℤ

/-- A row that is not sampled was seen after the watermark. -/
def Fresh (w : JobWorld) (r : CommunicationHistory) : Prop :=
  Sampleable r → sampleOf r ∈ w.samples ∨ w.watermarks r.tenantID < r.lastSeenAt

instance (w : JobWorld) (r : CommunicationHistory) : Decidable (Fresh w r) :=
  inferInstanceAs (Decidable (_ → _))

/-- What is sampled is not after the watermark. -/
def Sep (v : Sampling) : Prop := ∀ x ∈ v.samples, x.2 ≤ v.watermarks x.1.tenantID

structure SamplingInv (w : JobWorld) : Prop where
  once : w.samples.Nodup
  fresh : ∀ r ∈ w.comms.rows, Fresh w r
  nonneg : ∀ t, 0 ≤ w.watermarks t

/-- The condition on a step of a cycle. The watermark moves to a start that separates what is sampled of the tenant from
what is not, and no tenant is pruned that something is sampled of. -/
def Separates (w : JobWorld) : JobOp → Prop
  | .setWatermark t start => (∀ x ∈ w.samples, x.1.tenantID = t → x.2 ≤ start) ∧
      ∀ r ∈ w.comms.rows, r.tenantID = t → Sampleable r → sampleOf r ∉ w.samples → start < r.lastSeenAt
  | .prune active => ∀ x ∈ w.samples, x.1.tenantID ∈ active
  | _ => True

/-- The condition on a sighting: it leaves the row sampled, or seen after the watermark. -/
def SeenAfter (w : JobWorld) (x : SightingCall) : Prop :=
  ∀ r ∈ (sight x w).comms.rows, r.key = x.sighting.key → Fresh w r

instance (w : JobWorld) : ∀ o : JobOp, Decidable (Separates w o)
  | .setWatermark t start => inferInstanceAs (Decidable ((∀ x ∈ w.samples, x.1.tenantID = t → x.2 ≤ start) ∧
      ∀ r ∈ w.comms.rows, r.tenantID = t → Sampleable r → sampleOf r ∉ w.samples → start < r.lastSeenAt))
  | .prune active => inferInstanceAs (Decidable (∀ x ∈ w.samples, x.1.tenantID ∈ active))
  | .now => isTrue trivial
  | .iterateActive => isTrue trivial
  | .ctxErr => isTrue trivial
  | .listByTenant _ _ _ => isTrue trivial
  | .watermark _ => isTrue trivial
  | .getBaseline _ _ _ => isTrue trivial
  | .updateCountsIfFresh _ _ => isTrue trivial
  | .upsertBaseline _ _ => isTrue trivial

instance (w : JobWorld) (x : SightingCall) : Decidable (SeenAfter w x) :=
  inferInstanceAs (Decidable (∀ r ∈ (sight x w).comms.rows, r.key = x.sighting.key → Fresh w r))

def samplingBooks : Amid.Books JobOp JobWorld JobEnv SightingCall Sampling where
  inv := SamplingInv
  own w := ⟨w.samples, w.watermarks⟩
  allows w o _ := Separates w o
  permits := SeenAfter

instance (w : JobWorld) (o : JobOp) (e : JobEnv) : Decidable (samplingBooks.allows w o e) :=
  inferInstanceAs (Decidable (Separates w o))

instance (w : JobWorld) (x : SightingCall) : Decidable (samplingBooks.permits w x) :=
  inferInstanceAs (Decidable (SeenAfter w x))

/-! ### Writes of the table -/

/-- The row is the same as far as samples go. -/
structure SameRow (r r' : CommunicationHistory) : Prop where
  id : r'.id = r.id
  key : r'.key = r.key
  seen : r'.lastSeenAt = r.lastSeenAt
  domain : r'.senderDomainHash = r.senderDomainHash

section Writes

variable {w : JobWorld} {r r' : CommunicationHistory}

lemma SameRow.refl (r : CommunicationHistory) : SameRow r r := ⟨rfl, rfl, rfl, rfl⟩

lemma SameRow.trans {r'' : CommunicationHistory} (h : SameRow r r') (h' : SameRow r' r'') : SameRow r r'' :=
  ⟨h'.id.trans h.id, h'.key.trans h.key, h'.seen.trans h.seen, h'.domain.trans h.domain⟩

lemma SameRow.sampleOf_eq (h : SameRow r r') : sampleOf r' = sampleOf r := Prod.ext h.key h.seen

lemma SameRow.tenantID (h : SameRow r r') : r'.tenantID = r.tenantID := congrArg CommKey.tenantID h.key

lemma SameRow.sampleable (h : SameRow r r') : Sampleable r' ↔ Sampleable r := by
  have hrec : r'.recipientHash = r.recipientHash := congrArg CommKey.recipientHash h.key
  unfold Sampleable
  rw [hrec, h.domain]

lemma SameRow.fresh (h : SameRow r r') (hfresh : Fresh w r) : Fresh w r' := by
  intro hs
  rw [h.sampleOf_eq, h.tenantID, h.seen]
  exact hfresh (h.sampleable.mp hs)

lemma sameRow_decay (now : ℤ) (h : CommunicationHistory) : SameRow h (decay now h) := by
  unfold decay
  split
  · exact ⟨rfl, rfl, rfl, rfl⟩
  · exact SameRow.refl h

/-- A row of the table after the write of the worker. -/
lemma sameRow_of_refreshed {T : CommTable} {h : CommunicationHistory} {now : Instant} {k : CommKey}
    (hr' : r' ∈ (T.retouch now k (CommTable.refreshed h)).rows) : ∃ r ∈ T.rows, SameRow r r' := by
  obtain ⟨r, hr, rfl⟩ := List.mem_map.mp hr'
  refine ⟨r, hr, ?_⟩
  by_cases hk : r.key = k
  · simp only [hk, if_true]
    exact ⟨rfl, rfl, rfl, rfl⟩
  · simp only [hk, if_false]
    exact SameRow.refl r

/-- A row of the table after a sighting: one of the key of the sighting, or an old one. -/
lemma mem_sight {x : SightingCall} (hr : r ∈ (sight x w).comms.rows) : r.key = x.sighting.key ∨ r ∈ w.comms.rows := by
  unfold sight at hr
  cases hrec : w.comms.recordSighting x.sighting x.clock x.uuid with
  | error err =>
    simp only [hrec] at hr
    exact .inr hr
  | ok comms =>
    simp only [hrec] at hr
    by_cases hk : r.key = x.sighting.key
    · exact .inl hk
    · have hget := CommTable.mem_iff_get.mp hr
      rw [CommTable.get_recordSighting hrec, if_neg hk] at hget
      exact .inr (CommTable.mem_iff_get.mpr hget)

lemma sight_own (x : SightingCall) (w : JobWorld) :
    (sight x w).samples = w.samples ∧ (sight x w).watermarks = w.watermarks := by
  unfold sight
  cases w.comms.recordSighting x.sighting x.clock x.uuid <;> exact ⟨rfl, rfl⟩

/-- A sighting that is permitted keeps the invariant. -/
lemma SamplingInv.sight (hinv : SamplingInv w) {x : SightingCall} (hx : SeenAfter w x) :
    SamplingInv (sight x w) := by
  obtain ⟨hsamples, hmarks⟩ := sight_own x w
  refine ⟨by rw [hsamples]; exact hinv.once, fun r hr => ?_, by rw [hmarks]; exact hinv.nonneg⟩
  have hfresh : Fresh w r := by
    rcases mem_sight hr with hkey | hold
    · exact hx r hr hkey
    · exact hinv.fresh r hold
  intro hs
  rw [hsamples, hmarks]
  exact hfresh hs

end Writes

/-! ### What a cycle keeps -/

section Keeps

variable {v : Sampling} {j : RelationshipJob}

/-- `Amid.Keeps`, for the job. -/
abbrev KeepsSampling {α : Type} (p : JobM α) (v : Sampling) (Q : α → Sampling → Prop) : Prop :=
  Amid.Keeps jobRules samplingBooks p v Q

/-- An operation that only reads. -/
lemma sampling_read {o : JobOp} (hread : ∀ e w, (o.exec e w).2 = w) :
    KeepsSampling (.perform o) v fun _ v' => v' = v := by
  refine Amid.keeps_perform fun e w hinv hown _ a w' hexec => ?_
  obtain rfl : w' = w := by rw [← hread e w]; exact (congrArg Prod.snd hexec).symm
  exact ⟨hinv, hown⟩

lemma sampling_listByTenant (t : String) (since limit : ℤ) :
    KeepsSampling (.perform (JobOp.listByTenant t since limit)) v fun a v' => v' = v ∧
      ∀ rows, a = .ok rows → (rows.map (·.key)).Nodup ∧ ∀ r ∈ rows, r.tenantID = t := by
  refine Amid.keeps_perform fun e w hinv hown _ a w' hexec => ?_
  cases hexec
  refine ⟨hinv, hown, fun rows hrows => ?_⟩
  cases hf : e.fail with
  | some err =>
    simp only [hf] at hrows
    cases hrows
  | none =>
    simp only [hf] at hrows
    cases hrows
    exact ⟨CommTable.listByTenant_nodup t since limit, fun r hr => (CommTable.mem_listByTenant hr).2⟩

lemma sampling_watermark (t : String) :
    KeepsSampling (.perform (JobOp.watermark t)) v fun a v' => v' = v ∧ a = v.watermarks t := by
  refine Amid.keeps_perform fun e w hinv hown _ a w' hexec => ?_
  cases hexec
  subst hown
  exact ⟨hinv, rfl, rfl⟩

lemma sampling_updateCountsIfFresh (h : CommunicationHistory) (readAt : ℤ) :
    KeepsSampling (.perform (JobOp.updateCountsIfFresh h readAt)) v fun _ v' => v' = v := by
  refine Amid.keeps_perform fun e w hinv hown _ a w' hexec => ?_
  obtain ⟨rfl, -⟩ | ⟨-, -, rfl⟩ := exec_updateCountsIfFresh hexec
  · exact ⟨hinv, hown⟩
  · refine ⟨⟨hinv.once, fun r' hr' => ?_, hinv.nonneg⟩, hown⟩
    obtain ⟨r, hr, hsame⟩ := sameRow_of_refreshed hr'
    have hfresh : Fresh w r' := hsame.fresh (hinv.fresh r hr)
    exact hfresh

/-- A new sample. -/
lemma sampling_upsertBaseline {sample : Sample} (hnew : sample ∉ v.samples) (b : UserBehavioralBaseline) :
    KeepsSampling (.perform (JobOp.upsertBaseline sample b)) v fun _ v' => v'.watermarks = v.watermarks ∧
      (v'.samples = v.samples ∨ v'.samples = sample :: v.samples) := by
  refine Amid.keeps_perform fun e w hinv hown _ a w' hexec => ?_
  simp only [jobRules, JobOp.exec] at hexec
  subst hown
  cases hf : e.fail with
  | some err =>
    simp only [hf] at hexec
    cases hexec
    exact ⟨hinv, rfl, .inl rfl⟩
  | none =>
    simp only [hf] at hexec
    cases hexec
    refine ⟨⟨List.nodup_cons.mpr ⟨hnew, hinv.once⟩, fun r hr hs => ?_, hinv.nonneg⟩, rfl, .inr rfl⟩
    exact (hinv.fresh r hr hs).imp (List.mem_cons_of_mem _) id

/-- The watermark of a tenant moves. -/
lemma sampling_setWatermark (t : String) {start : ℤ} (hpos : 0 < start) :
    KeepsSampling (.perform (JobOp.setWatermark t start)) v fun _ v' => v'.samples = v.samples ∧
      (∀ x ∈ v.samples, x.1.tenantID = t → x.2 ≤ start) ∧
      v'.watermarks = fun u => if u = t then start else v.watermarks u := by
  refine Amid.keeps_perform fun e w hinv hown hok a w' hexec => ?_
  cases hexec
  subst hown
  refine ⟨⟨hinv.once, fun r hr hs => ?_, fun u => ?_⟩, rfl, hok.1, rfl⟩
  · by_cases hsampled : sampleOf r ∈ w.samples
    · exact .inl hsampled
    · right
      by_cases ht : r.tenantID = t
      · simp only [ht, if_true]
        exact hok.2 r hr ht hs hsampled
      · simp only [ht, if_false]
        exact (hinv.fresh r hr hs).resolve_left hsampled
  · by_cases hu : u = t
    · simp only [hu, if_true]
      exact hpos.le
    · simp only [hu, if_false]
      exact hinv.nonneg u

lemma sampling_prune (active : List String) (hsep : Sep v) :
    KeepsSampling (.perform (JobOp.prune active)) v fun _ v' => Sep v' := by
  refine Amid.keeps_perform fun e w hinv hown hok a w' hexec => ?_
  cases hexec
  subst hown
  refine ⟨⟨hinv.once, fun r hr hs => ?_, fun u => ?_⟩, fun x hx => ?_⟩
  · refine (hinv.fresh r hr hs).imp id fun hlt => ?_
    by_cases ht : r.tenantID ∈ active
    · simp only [ht, if_true]
      exact hlt
    · simp only [ht, if_false]
      exact (hinv.nonneg r.tenantID).trans_lt hlt
  · by_cases hu : u ∈ active
    · simp only [hu, if_true]
      exact hinv.nonneg u
    · simp only [hu, if_false]
      exact le_refl 0
  · have hactive : x.1.tenantID ∈ active := hok x hx
    show x.2 ≤ if x.1.tenantID ∈ active then w.watermarks x.1.tenantID else 0
    rw [if_pos hactive]
    exact hsep x hx

lemma sampling_reclassify (h : CommunicationHistory) :
    KeepsSampling (j.reclassify h) v fun h' v' => v' = v ∧ SameRow h h' := by
  obtain ⟨f, hprog⟩ | hprog := RelationshipJob.reclassify_cases (j := j) h
  · rw [hprog]
    refine Amid.Keeps.bind ((sampling_read fun _ _ => rfl).mono fun now v' hv => ?_)
    exact ⟨hv, rfl, rfl, rfl, rfl⟩
  · rw [hprog]
    exact ⟨rfl, SameRow.refl h⟩

lemma sampling_prepareRow (t : String) (watermark : ℤ) (h : CommunicationHistory) (cache : BaselineCache) :
    KeepsSampling (j.prepareRow t watermark h cache) v fun res v' => v' = v ∧
      (res.1.isSome → j.Gate watermark h) := by
  obtain ⟨-, hprog⟩ | ⟨hgate, b, hprog⟩ | ⟨hgate, f, -, hprog⟩ :=
    RelationshipJob.prepareRow_cases (j := j) t watermark h cache
  · rw [hprog]
    exact ⟨rfl, nofun⟩
  · rw [hprog]
    exact ⟨rfl, fun _ => hgate⟩
  · rw [hprog]
    exact Amid.Keeps.bind ((sampling_read fun _ _ => rfl).mono fun a v' hv => ⟨hv, fun _ => hgate⟩)

/-- What a row may add. -/
def MayAdd (v : Sampling) (sample : Sample) (v' : Sampling) : Prop :=
  v'.watermarks = v.watermarks ∧ (v'.samples = v.samples ∨ v'.samples = sample :: v.samples)

lemma sampling_writeRow {h : CommunicationHistory} {prepared : Option UserBehavioralBaseline}
    (hnew : prepared.isSome → sampleOf h ∉ v.samples) (readAt : ℤ) (cache : BaselineCache) :
    KeepsSampling (RelationshipJob.writeRow h readAt prepared cache) v fun _ v' => MayAdd v (sampleOf h) v' := by
  unfold RelationshipJob.writeRow
  split
  · exact ⟨rfl, .inl rfl⟩
  · refine Amid.Keeps.bind ((sampling_updateCountsIfFresh h readAt).mono fun a v' hv => ?_)
    subst hv
    match a with
    | .error err => exact ⟨rfl, .inl rfl⟩
    | .ok false => exact ⟨rfl, .inl rfl⟩
    | .ok true =>
      cases prepared with
      | none => exact ⟨rfl, .inl rfl⟩
      | some b =>
        refine Amid.Keeps.bind (Amid.Keeps.bind ((sampling_upsertBaseline (hnew rfl) b).mono fun a v' hv => ?_))
        cases a with
        | some err => exact hv
        | none => exact hv

lemma sampling_runRow (t : String) (now : ℤ) {watermark : ℤ} {h : CommunicationHistory}
    (hnew : watermark < h.lastSeenAt → sampleOf h ∉ v.samples) (cache : BaselineCache) :
    KeepsSampling (j.runRow t now watermark h cache) v fun _ v' => MayAdd v (sampleOf h) v' := by
  refine Amid.Keeps.bind ((sampling_reclassify _).mono fun h' v' hv => ?_)
  obtain ⟨rfl, hsame⟩ := hv
  have hrow : SameRow h h' := (sameRow_decay now h).trans hsame
  refine Amid.Keeps.bind ((sampling_prepareRow t watermark h' cache).mono fun prepared v' hv => ?_)
  obtain ⟨rfl, hgate⟩ := hv
  rw [← hrow.sampleOf_eq]
  refine sampling_writeRow (fun hsome => ?_) _ _
  show sampleOf h' ∉ v'.samples
  rw [hrow.sampleOf_eq]
  have hseen := (hgate hsome).2.2
  rw [hrow.seen] at hseen
  exact hnew hseen

/-- The row loop adds samples of the rows, each at most once. -/
lemma sampling_runRows (t : String) (now watermark : ℤ) (hs : List CommunicationHistory) (cache : BaselineCache)
    (hkeys : (hs.map (·.key)).Nodup) (htenant : ∀ h ∈ hs, h.tenantID = t)
    (hnew : ∀ h ∈ hs, watermark < h.lastSeenAt → sampleOf h ∉ v.samples) :
    KeepsSampling (j.runRows t now watermark hs cache) v fun _ v' => v'.watermarks = v.watermarks ∧
      ∀ x ∈ v'.samples, x ∈ v.samples ∨ x.1.tenantID = t := by
  induction hs generalizing v cache with
  | nil => exact ⟨rfl, fun x hx => .inl hx⟩
  | cons h hs ih =>
    rw [List.map_cons, List.nodup_cons] at hkeys
    refine Amid.Keeps.bind ((sampling_runRow t now (hnew h List.mem_cons_self) cache).mono fun res v' hv => ?_)
    obtain ⟨hmarks, hsamples⟩ := hv
    have hrest : ∀ h' ∈ hs, watermark < h'.lastSeenAt → sampleOf h' ∉ v'.samples := by
      intro h' hh' hlt
      have hold := hnew h' (List.mem_cons_of_mem _ hh') hlt
      rcases hsamples with hsamples | hsamples
      · rw [hsamples]
        exact hold
      · rw [hsamples, List.mem_cons, not_or]
        -- another row of the list has another key
        refine ⟨fun heq => hkeys.1 ?_, hold⟩
        have hkey : h'.key = h.key := congrArg Prod.fst heq
        rw [← hkey]
        exact List.mem_map_of_mem hh'
    refine Amid.Keeps.bind ((ih res.1 hkeys.2 (fun h' hh' => htenant h' (List.mem_cons_of_mem _ hh')) hrest).mono
      fun rest v'' hv => ?_)
    refine ⟨hv.1.trans hmarks, fun x hx => ?_⟩
    rcases hv.2 x hx with hx | hx
    · rcases hsamples with hsamples | hsamples
      · rw [hsamples] at hx
        exact .inl hx
      · rw [hsamples] at hx
        rcases List.mem_cons.mp hx with rfl | hx
        · exact .inr (htenant h List.mem_cons_self)
        · exact .inl hx
    · exact .inr hx

lemma sampling_runTenant {now : ℤ} (hpos : 0 < now) (t : String) (hsep : Sep v) :
    KeepsSampling (j.runTenant now t) v fun _ v' => Sep v' := by
  refine Amid.Keeps.bind ((sampling_listByTenant _ _ _).mono fun a v' hv => ?_)
  obtain ⟨rfl, hrows⟩ := hv
  cases a with
  | error err => exact hsep
  | ok rows =>
    obtain ⟨hkeys, htenant⟩ := hrows rows rfl
    refine Amid.Keeps.bind ((sampling_watermark t).mono fun watermark v'' hv => ?_)
    obtain ⟨rfl, rfl⟩ := hv
    have hnew : ∀ h ∈ rows, v''.watermarks t < h.lastSeenAt → sampleOf h ∉ v''.samples := by
      intro h hh hlt hmem
      have hle := hsep _ hmem
      rw [show (sampleOf h).1.tenantID = t from htenant h hh] at hle
      exact absurd hle (not_le.mpr hlt)
    refine Amid.Keeps.bind ((sampling_runRows t now _ rows [] hkeys htenant hnew).mono fun err v₁ hv₁ => ?_)
    refine Amid.Keeps.bind ((sampling_setWatermark t hpos).mono fun _ v₂ hv₂ => ?_)
    obtain ⟨hsamples, hbehind, hmarks⟩ := hv₂
    intro x hx
    rw [hsamples] at hx
    rw [hmarks]
    by_cases ht : x.1.tenantID = t
    · simp only [ht, if_true]
      exact hbehind x hx ht
    · simp only [ht, if_false]
      rw [hv₁.1]
      exact hsep x ((hv₁.2 x hx).resolve_right ht)

lemma sampling_runTenants {now : ℤ} (hpos : 0 < now) (ts : List String) (hsep : Sep v) :
    KeepsSampling (j.runTenants now ts) v fun _ v' => Sep v' := by
  induction ts generalizing v with
  | nil => exact hsep
  | cons t ts ih =>
    refine Amid.Keeps.bind ((sampling_read fun _ _ => rfl).mono fun err v' hv => ?_)
    subst hv
    cases err with
    | some err => exact hsep
    | none =>
      refine Amid.Keeps.bind ((sampling_runTenant hpos t hsep).mono fun first v' hv => ?_)
      exact Amid.Keeps.bind ((ih hv).mono fun rest v'' hv' => hv')

/-- **A cycle keeps what is sampled behind the watermarks.** -/
lemma sampling_run (hsep : Sep v) : KeepsSampling j.run v fun _ v' => Sep v' := by
  refine Amid.Keeps.bind ((sampling_read fun _ _ => rfl).mono fun now v' hv => ?_)
  subst hv
  refine Amid.Keeps.bind ((sampling_read fun _ _ => rfl).mono fun active v' hv => ?_)
  subst hv
  refine Amid.Keeps.bind ((sampling_runTenants now.2 active.1 hsep).mono fun errs v' hv => ?_)
  cases errs.2 <|> active.2 with
  | some err => exact hv
  | none => exact Amid.Keeps.bind ((sampling_prune active.1 hv).mono fun _ v'' hv' => hv')

end Keeps

end Sn360Es.Worker
