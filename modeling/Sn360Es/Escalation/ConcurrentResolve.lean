import Sn360Es.Escalation.Resolver
import Sn360Es.Lib.Phase

/-!
# Concurrent deliveries of one resolution

Any number of `Reconcile` calls with one tenant and one dedup id, interleaved operation by operation. The probe for
the audit row and its `Insert` stand around the side effects, so that two calls can both be between them.

* `keeps_reconcile` — a call keeps the books: who has overridden the verdict, and whose audit row is still to come;
* `resolve_once` — so there is one audit row, the banner is reopened at most once and a duplicate has done neither,
  as long as one call at most overrides the verdict, and nobody writes the row before it does;
* `resolved_twice` — two calls that both pass the probe.
-/

namespace Sn360Es.Escalation

open Lib

/-! ### Phases -/

/-- What is known of a call: it has written its verdict, and not yet tried to write the audit row; it has reopened
the banner; it has seen the audit row; one of its calls of a repository has failed. -/
structure ResolvePhase where
  flipped : Bool := false
  pending : Bool := false
  reopened : Bool := false
  audited : Bool := false
  failed : Bool := false
  deriving DecidableEq, Repr

/-- Failures of the banner path are only logged. -/
def ResolvePhase.next (g : ResolvePhase) : (o : ResolverOp) → o.Ans → ResolvePhase
  | .getByDedupID _ _, .ok _ => { g with audited := true }
  | .getByDedupID _ _, .error .notFound => g
  | .getByDedupID _ _, .error (.failed _) => { g with failed := true }
  | .getByMessageHash _ _, .ok _ => g
  | .getByMessageHash _ _, .error .notFound => g
  | .getByMessageHash _ _, .error (.failed _) => { g with failed := true }
  | .listRecent _ _, .ok _ => g
  | .listRecent _ _, .error _ => { g with failed := true }
  | .setFinalVerdict _ _ _, none => { g with flipped := true, pending := true }
  | .setFinalVerdict _ _ _, some .notFound => g
  | .setFinalVerdict _ _ _, some (.failed _) => { g with failed := true }
  | .getBanner _ _, _ => g
  | .reopenBanner _ _ _, none => { g with reopened := true }
  | .reopenBanner _ _ _, some _ => g
  | .insertAudit _, .ok _ => { g with pending := false, audited := true }
  | .insertAudit _, .error _ => { g with pending := false, failed := true }

/-- The condition on a step. A verdict is written while there is no audit row and no other call has written one; the
audit row is written when no other call stands between its verdict and its row. -/
def ResolverOp.Exclusive (w : ResolverWorld) (gs : List ResolvePhase) (n : ℕ) (tenantID dedupID : String) :
    ResolverOp → Prop
  | .setFinalVerdict _ _ _ => w.audits tenantID dedupID = none ∧ ∀ g ∈ gs, g.flipped = false
  | .insertAudit _ => (∀ g ∈ gs, g.pending = false) ∨ ∃ g ∈ gs[n]?, g.pending = true
  | _ => True

instance (w : ResolverWorld) (gs : List ResolvePhase) (n : ℕ) (tenantID dedupID : String) :
    ∀ o : ResolverOp, Decidable (o.Exclusive w gs n tenantID dedupID)
  | .setFinalVerdict _ _ _ =>
    inferInstanceAs (Decidable (w.audits tenantID dedupID = none ∧ ∀ g ∈ gs, g.flipped = false))
  | .insertAudit _ =>
    inferInstanceAs (Decidable ((∀ g ∈ gs, g.pending = false) ∨ ∃ g ∈ gs[n]?, g.pending = true))
  | .getByDedupID _ _ => isTrue trivial
  | .getByMessageHash _ _ => isTrue trivial
  | .listRecent _ _ => isTrue trivial
  | .getBanner _ _ => isTrue trivial
  | .reopenBanner _ _ _ => isTrue trivial

section Invariant

variable (tenantID dedupID : String) (before : ℕ)

/-- The books: one call at most has written its verdict; while its audit row is to come there is none; `before` are
the banners reopened before. -/
structure ResolveInv (w : ResolverWorld) (gs : List ResolvePhase) : Prop where
  once : gs.countP (·.flipped) ≤ 1
  flips : ∀ g ∈ gs, g.pending = true → g.flipped = true
  absent : ∀ g ∈ gs, g.pending = true → w.audits tenantID dedupID = none
  reopens : ∀ g ∈ gs, g.reopened = true → g.flipped = true
  audits : ∀ g ∈ gs, g.audited = true → (w.audits tenantID dedupID).isSome
  counts : w.reopened.length = before + gs.countP (·.reopened)

def resolveTracker : Tracker ResolverOp ResolverOp.Ans ResolverWorld ResolverEnv ResolvePhase where
  exec := ResolverOp.exec
  start := {}
  next := ResolvePhase.next
  allows w gs n o _ := o.Exclusive w gs n tenantID dedupID
  inv := ResolveInv tenantID dedupID before

instance (w : ResolverWorld) (gs : List ResolvePhase) (n : ℕ) (o : ResolverOp) (e : ResolverEnv) :
    Decidable ((resolveTracker tenantID dedupID before).allows w gs n o e) :=
  inferInstanceAs (Decidable (o.Exclusive w gs n tenantID dedupID))

variable {tenantID dedupID before} {w w' : ResolverWorld} {gs : List ResolvePhase} {n : ℕ} {g g' : ResolvePhase}

/-- A call reads, or has failed. -/
lemma ResolveInv.read (h : ResolveInv tenantID dedupID before w gs) (hn : gs[n]? = some g)
    (hflip : g'.flipped = g.flipped) (hreopen : g'.reopened = g.reopened)
    (hpend : g'.pending = true → g.pending = true)
    (haud : g'.audited = true → (w.audits tenantID dedupID).isSome) :
    ResolveInv tenantID dedupID before w (gs.set n g') := by
  have hmem : g ∈ gs := List.mem_of_getElem? hn
  have hflipped := Tracker.countP_set_add hn g' (·.flipped)
  have hreopened := Tracker.countP_set_add hn g' (·.reopened)
  simp only [hflip, hreopen] at hflipped hreopened
  have honce := h.once
  have hcounts := h.counts
  refine ⟨by omega, fun x hx => ?_, fun x hx => ?_, fun x hx => ?_, fun x hx => ?_, by omega⟩
  · rcases List.mem_or_eq_of_mem_set hx with hold | rfl
    · exact h.flips x hold
    · rw [hflip]
      exact fun hx' => h.flips g hmem (hpend hx')
  · rcases List.mem_or_eq_of_mem_set hx with hold | rfl
    · exact h.absent x hold
    · exact fun hx' => h.absent g hmem (hpend hx')
  · rcases List.mem_or_eq_of_mem_set hx with hold | rfl
    · exact h.reopens x hold
    · rw [hflip, hreopen]
      exact h.reopens g hmem
  · rcases List.mem_or_eq_of_mem_set hx with hold | rfl
    · exact h.audits x hold
    · exact haud

/-- The first call that writes its verdict. -/
lemma ResolveInv.flip (h : ResolveInv tenantID dedupID before w gs) (hn : gs[n]? = some {})
    (haudits : w'.audits = w.audits) (hreopened' : w'.reopened = w.reopened)
    (hnone : w.audits tenantID dedupID = none) (hfree : ∀ g ∈ gs, g.flipped = false) :
    ResolveInv tenantID dedupID before w' (gs.set n { flipped := true, pending := true }) := by
  have hflipped := Tracker.countP_set_add hn { flipped := true, pending := true } (·.flipped)
  have hreopened := Tracker.countP_set_add hn { flipped := true, pending := true } (·.reopened)
  have hzero : gs.countP (·.flipped) = 0 := by
    rw [List.countP_eq_zero]
    intro x hx
    rw [hfree x hx]
    exact nofun
  simp only [Bool.toNat_false, Bool.toNat_true] at hflipped hreopened
  have hcounts := h.counts
  rw [← haudits] at hnone
  refine ⟨by omega, fun x hx => ?_, fun _ _ _ => hnone, fun x hx => ?_, fun x hx => ?_,
    by rw [hreopened']; omega⟩
  · rcases List.mem_or_eq_of_mem_set hx with hold | rfl
    · exact h.flips x hold
    · exact fun _ => rfl
  · rcases List.mem_or_eq_of_mem_set hx with hold | rfl
    · exact h.reopens x hold
    · exact fun _ => rfl
  · rw [haudits]
    rcases List.mem_or_eq_of_mem_set hx with hold | rfl
    · exact h.audits x hold
    · exact nofun

/-- The call that has written its verdict reopens the banner. -/
lemma ResolveInv.reopen (h : ResolveInv tenantID dedupID before w gs) (hn : gs[n]? = some g)
    (hflip : g.flipped = true) (hreopen : g.reopened = false) (r : Reopening) :
    ResolveInv tenantID dedupID before (w.reopen r) (gs.set n { g with reopened := true }) := by
  have hmem : g ∈ gs := List.mem_of_getElem? hn
  have hflipped := Tracker.countP_set_add hn { g with reopened := true } (·.flipped)
  have hreopened := Tracker.countP_set_add hn { g with reopened := true } (·.reopened)
  simp only [hreopen, Bool.toNat_false, Bool.toNat_true] at hflipped hreopened
  have honce := h.once
  have hcounts := h.counts
  have hlen : (w.reopen r).reopened.length = w.reopened.length + 1 := by
    simp [ResolverWorld.reopen]
  refine ⟨by omega, fun x hx => ?_, fun x hx => ?_, fun x hx => ?_, fun x hx => ?_, by omega⟩
  · rcases List.mem_or_eq_of_mem_set hx with hold | rfl
    · exact h.flips x hold
    · exact fun _ => hflip
  · rcases List.mem_or_eq_of_mem_set hx with hold | rfl
    · exact h.absent x hold
    · exact h.absent g hmem
  · rcases List.mem_or_eq_of_mem_set hx with hold | rfl
    · exact h.reopens x hold
    · exact fun _ => hflip
  · rcases List.mem_or_eq_of_mem_set hx with hold | rfl
    · exact h.audits x hold
    · exact h.audits g hmem

/-- Nobody is left between its verdict and its row once the call that stands there has written it. -/
lemma ResolveInv.none_pending (h : ResolveInv tenantID dedupID before w gs) (hn : gs[n]? = some g)
    (halone : (∀ x ∈ gs, x.pending = false) ∨ ∃ x ∈ gs[n]?, x.pending = true) (hpend : g'.pending = false) :
    ∀ x ∈ gs.set n g', x.pending = false := by
  have hadd := Tracker.countP_set_add hn g' (·.pending)
  have hzero : (gs.set n g').countP (·.pending) = 0 := by
    rcases halone with hnone | ⟨x, hx, hpx⟩
    · rw [List.countP_eq_zero]
      intro x hx
      rcases List.mem_or_eq_of_mem_set hx with hold | rfl
      · rw [hnone x hold]
        exact nofun
      · rw [hpend]
        exact nofun
    · rw [hn] at hx
      cases hx
      have hle : gs.countP (·.pending) ≤ gs.countP (·.flipped) := List.countP_mono_left h.flips
      have honce := h.once
      simp only [hpend, hpx, Bool.toNat_false, Bool.toNat_true] at hadd
      omega
  intro x hx
  have hno := List.countP_eq_zero.mp hzero x hx
  exact Bool.eq_false_iff.mpr hno

/-- A call writes the audit row, or finds it. -/
lemma ResolveInv.insert (h : ResolveInv tenantID dedupID before w gs) (hn : gs[n]? = some g)
    (halone : (∀ x ∈ gs, x.pending = false) ∨ ∃ x ∈ gs[n]?, x.pending = true)
    (hreopened' : w'.reopened = w.reopened) (hsome : (w'.audits tenantID dedupID).isSome) :
    ResolveInv tenantID dedupID before w' (gs.set n { g with pending := false, audited := true }) := by
  have hmem : g ∈ gs := List.mem_of_getElem? hn
  have hflipped := Tracker.countP_set_add hn { g with pending := false, audited := true } (·.flipped)
  have hreopened := Tracker.countP_set_add hn { g with pending := false, audited := true } (·.reopened)
  have hpend : ∀ x ∈ gs.set n { g with pending := false, audited := true }, x.pending = false :=
    h.none_pending hn halone rfl
  simp only at hflipped hreopened
  have honce := h.once
  have hcounts := h.counts
  refine ⟨by omega, fun x hx hp => ?_, fun x hx hp => ?_, fun x hx => ?_, fun _ _ _ => hsome,
    by rw [hreopened']; omega⟩
  · rw [hpend x hx] at hp
    cases hp
  · rw [hpend x hx] at hp
    cases hp
  · rcases List.mem_or_eq_of_mem_set hx with hold | rfl
    · exact h.reopens x hold
    · exact h.reopens g hmem

lemma ResolveInv.reopened_le (h : ResolveInv tenantID dedupID before w gs) : w.reopened.length ≤ before + 1 := by
  have hle : gs.countP (·.reopened) ≤ gs.countP (·.flipped) := List.countP_mono_left h.reopens
  have honce := h.once
  have hcounts := h.counts
  omega

lemma ResolveInv.spawn (h : ResolveInv tenantID dedupID before w gs) :
    ResolveInv tenantID dedupID before w (gs ++ [({} : ResolvePhase)]) := by
  have hfresh : ∀ x ∈ gs ++ [({} : ResolvePhase)], x ∈ gs ∨ x = ({} : ResolvePhase) := by
    intro x hx
    rcases List.mem_append.mp hx with hx | hx
    · exact .inl hx
    · exact .inr (List.mem_singleton.mp hx)
  have honce := h.once
  have hcounts := h.counts
  refine ⟨by simpa using honce, fun x hx => ?_, fun x hx => ?_, fun x hx => ?_, fun x hx => ?_,
    by simpa using hcounts⟩
  · rcases hfresh x hx with hold | rfl
    · exact h.flips x hold
    · exact nofun
  · rcases hfresh x hx with hold | rfl
    · exact h.absent x hold
    · exact nofun
  · rcases hfresh x hx with hold | rfl
    · exact h.reopens x hold
    · exact nofun
  · rcases hfresh x hx with hold | rfl
    · exact h.audits x hold
    · exact nofun

/-! ### The operations -/

lemma keeps_getByDedupID : (resolveTracker tenantID dedupID before).Keeps
    (ResolverM.getByDedupID tenantID dedupID) {}
    fun a g => g = ResolvePhase.next {} (.getByDedupID tenantID dedupID) a := by
  refine Tracker.keeps_perform fun e w gs n hinv hn _ a w' hexec => ⟨?_, rfl⟩
  obtain ⟨rfl, ⟨err, -, rfl⟩ | ⟨-, row, hrow, rfl⟩ | ⟨-, -, rfl⟩⟩ := exec_getByDedupID hexec
  · exact hinv.read hn rfl rfl nofun nofun
  · exact hinv.read hn rfl rfl nofun fun _ => Option.isSome_iff_exists.mpr ⟨row, hrow⟩
  · exact hinv.read hn rfl rfl nofun nofun

lemma keeps_getByMessageHash (hash : String) : (resolveTracker tenantID dedupID before).Keeps
    (ResolverM.getByMessageHash tenantID hash) {}
    fun a g => g = ResolvePhase.next {} (.getByMessageHash tenantID hash) a := by
  refine Tracker.keeps_perform fun e w gs n hinv hn _ a w' hexec => ⟨?_, rfl⟩
  obtain ⟨rfl, ⟨err, -, rfl⟩ | ⟨-, row, -, rfl⟩ | ⟨-, -, rfl⟩⟩ := exec_getByMessageHash hexec
  · exact hinv.read hn rfl rfl nofun nofun
  · exact hinv.read hn rfl rfl nofun nofun
  · exact hinv.read hn rfl rfl nofun nofun

lemma keeps_listRecent (limit : ℕ) : (resolveTracker tenantID dedupID before).Keeps
    (ResolverM.listRecent tenantID limit) {}
    fun a g => g = ResolvePhase.next {} (.listRecent tenantID limit) a := by
  refine Tracker.keeps_perform fun e w gs n hinv hn _ a w' hexec => ⟨?_, rfl⟩
  obtain ⟨rfl, ⟨err, -, rfl⟩ | ⟨-, rfl⟩⟩ := exec_listRecent hexec
  · exact hinv.read hn rfl rfl nofun nofun
  · exact hinv.read hn rfl rfl nofun nofun

lemma keeps_setFinalVerdict (hash : String) (v : Verdict) : (resolveTracker tenantID dedupID before).Keeps
    (ResolverM.setFinalVerdict tenantID hash v) {}
    fun a g => g = ResolvePhase.next {} (.setFinalVerdict tenantID hash v) a := by
  refine Tracker.keeps_perform fun e w gs n hinv hn hok a w' hexec => ⟨?_, rfl⟩
  obtain ⟨err, -, rfl, rfl⟩ | ⟨-, -, rfl, rfl⟩ | ⟨-, -, rfl, rfl⟩ := exec_setFinalVerdict hexec
  · exact hinv.read hn rfl rfl nofun nofun
  · exact hinv.read hn rfl rfl nofun nofun
  · exact hinv.flip hn rfl rfl hok.1 hok.2

lemma keeps_getBanner (hash : String) : (resolveTracker tenantID dedupID before).Keeps
    (ResolverM.getBanner tenantID hash) g fun _ g' => g' = g := by
  refine Tracker.keeps_perform fun e w gs n hinv hn _ a w' hexec => ⟨?_, rfl⟩
  obtain ⟨rfl, -⟩ := exec_getBanner hexec
  exact hinv.read hn rfl rfl id (hinv.audits g (List.mem_of_getElem? hn))

lemma keeps_reopenBanner (hash reason : String) (hflip : g.flipped = true) (hreopen : g.reopened = false) :
    (resolveTracker tenantID dedupID before).Keeps (ResolverM.reopenBanner tenantID hash reason) g
      fun a g' => g' = ResolvePhase.next g (.reopenBanner tenantID hash reason) a := by
  refine Tracker.keeps_perform fun e w gs n hinv hn _ a w' hexec => ⟨?_, rfl⟩
  obtain ⟨err, -, rfl, rfl⟩ | ⟨-, rfl, rfl⟩ := exec_reopenBanner hexec
  · exact hinv.read hn rfl rfl id (hinv.audits g (List.mem_of_getElem? hn))
  · exact hinv.reopen hn hflip hreopen _

/-- Whoever has written its verdict inserts a new row. -/
lemma keeps_insertAudit {row : EmailVerdictAudit} (htenant : row.tenantID = tenantID)
    (hdedup : row.dedupID = dedupID) : (resolveTracker tenantID dedupID before).Keeps
      (ResolverM.insertAudit row) g fun a g' => g' = ResolvePhase.next g (.insertAudit row) a ∧
        ∀ r, a = .ok r → g.pending = true → r.1 = true := by
  subst htenant hdedup
  refine Tracker.keeps_perform fun e w gs n hinv hn hok a w' hexec => ?_
  have hmem : g ∈ gs := List.mem_of_getElem? hn
  obtain ⟨err, -, rfl, rfl⟩ | ⟨-, old, hold, rfl, rfl⟩ | ⟨-, hnone, rfl, rfl⟩ := exec_insertAudit hexec
  · exact ⟨hinv.read hn rfl rfl nofun (hinv.audits g hmem), rfl, nofun⟩
  · refine ⟨hinv.insert hn hok rfl (Option.isSome_iff_exists.mpr ⟨old, hold⟩), rfl, fun r hr hpend => ?_⟩
    rw [hinv.absent g hmem hpend] at hold
    cases hold
  · refine ⟨hinv.insert hn hok rfl (by simp [ResolverWorld.addAudit]), rfl, fun r hr _ => ?_⟩
    cases hr
    rfl

/-! ### The calls -/

/-- How a call returns. -/
def ResolveEnd (ev : IncidentResolved) : Except String Outcome → ResolvePhase → Prop
  | .ok out, g => g.audited = true ∧ (out.kind = .duplicate → g.flipped = false ∧ g.reopened = false)
  | .error err, g => g.failed = true ∨ validateInput ev = some err

variable {r : Resolver} {ev : IncidentResolved}

lemma keeps_searchRecent (corr : String) : (resolveTracker tenantID dedupID before).Keeps
    (do match ← ResolverM.listRecent tenantID evalListLookbackForCorrelation with
        | .error err => return .error ("escalation: ListRecent for correlation: " ++ err)
        | .ok recents => return .ok (r.searchRecent corr recents) : ResolverM (Except String Resolver.Located)) {}
    fun res g =>
      match res with
      | .ok _ => g = {}
      | .error _ => g.failed = true := by
  refine Tracker.Keeps.bind ((keeps_listRecent _).mono fun a g hg => ?_)
  subst hg
  cases a with
  | error err => rfl
  | ok recents => rfl

lemma keeps_locateEvaluation (htenant : ev.tenantID = tenantID) :
    (resolveTracker tenantID dedupID before).Keeps (r.locateEvaluation ev) {} fun res g =>
      match res with
      | .ok _ => g = {}
      | .error _ => g.failed = true := by
  subst htenant
  unfold Resolver.locateEvaluation
  cases ev.relatedEmail with
  | none => rfl
  | some link =>
    simp only
    generalize GoStrings.trimSpace link.pseudoMessageID = pseudo
    generalize GoStrings.trimSpace link.correlationID = corr
    split
    · refine Tracker.Keeps.bind ((keeps_getByMessageHash _).mono fun a g hg => ?_)
      subst hg
      cases a with
      | ok row => rfl
      | error err =>
        cases err with
        | failed err => rfl
        | notFound =>
          simp only
          split
          · exact keeps_searchRecent _
          · rfl
    · split
      · exact keeps_searchRecent _
      · rfl

/-- The audit row is the last thing a call writes. -/
lemma keeps_insertAudit_last {row : EmailVerdictAudit} (htenant : row.tenantID = tenantID)
    (hdedup : row.dedupID = dedupID) (hpend : g.flipped = true → g.pending = true)
    (hreopen : g.reopened = true → g.flipped = true) : (resolveTracker tenantID dedupID before).Keeps
      (ResolverM.insertAudit row) g fun a g' =>
        match a with
        | .error _ => g'.failed = true
        | .ok (inserted, _) => g'.audited = true ∧ (inserted = false → g'.flipped = false ∧ g'.reopened = false) := by
  refine (keeps_insertAudit htenant hdedup).mono fun a g' hg => ?_
  obtain ⟨rfl, hnew⟩ := hg
  cases a with
  | error err => rfl
  | ok res =>
    refine ⟨rfl, fun hold => ?_⟩
    -- a call that has written its verdict inserts the row itself
    have hflip : ¬ g.flipped = true := by
      intro hflip
      have htrue := hnew res rfl (hpend hflip)
      rw [hold] at htrue
      cases htrue
    exact ⟨Bool.eq_false_iff.mpr hflip, Bool.eq_false_iff.mpr fun hr => hflip (hreopen hr)⟩

lemma keeps_persistSkip (htenant : ev.tenantID = tenantID) (hdedup : ev.dedupID = dedupID) (reason : String) :
    (resolveTracker tenantID dedupID before).Keeps (Resolver.persistSkip ev reason) {} (ResolveEnd ev) := by
  refine Tracker.Keeps.bind ((keeps_insertAudit_last htenant hdedup (fun h => by cases h)
    fun h => by cases h).mono fun a g hg => ?_)
  match a, hg with
  | .error err, hg => exact .inl hg
  | .ok (true, id), hg => exact ⟨hg.1, nofun⟩
  | .ok (false, id), hg => exact ⟨hg.1, fun _ => hg.2 rfl⟩

lemma keeps_persistAudit (htenant : ev.tenantID = tenantID) (hdedup : ev.dedupID = dedupID) {out : Outcome}
    (hkind : out.kind ≠ .duplicate) (hpend : g.flipped = true → g.pending = true)
    (hreopen : g.reopened = true → g.flipped = true) :
    (resolveTracker tenantID dedupID before).Keeps (Resolver.persistAudit ev out) g (ResolveEnd ev) := by
  refine Tracker.Keeps.bind ((keeps_insertAudit_last htenant hdedup hpend hreopen).mono fun a g' hg => ?_)
  match a, hg with
  | .error err, hg => exact .inl hg
  | .ok (true, id), hg => exact ⟨hg.1, fun h => absurd h hkind⟩
  | .ok (false, id), hg => exact ⟨hg.1, fun _ => hg.2 rfl⟩

lemma keeps_reopenPath (hash : String) (new : Verdict) :
    (resolveTracker tenantID dedupID before).Keeps (r.reopenPath ev tenantID hash new)
      { flipped := true, pending := true } fun _ g => g.flipped = true ∧ g.pending = true := by
  unfold Resolver.reopenPath
  split
  · refine Tracker.Keeps.bind ((keeps_getBanner hash).mono fun a g hg => ?_)
    subst hg
    cases a with
    | error err => exact ⟨rfl, rfl⟩
    | ok bs =>
      simp only
      split
      · exact ⟨rfl, rfl⟩
      · refine Tracker.Keeps.bind ((keeps_reopenBanner hash _ rfl rfl).mono fun a g hg => ?_)
        subst hg
        cases a with
        | some err => exact ⟨rfl, rfl⟩
        | none => exact ⟨rfl, rfl⟩
  · exact ⟨rfl, rfl⟩

lemma keeps_applyResolution (htenant : ev.tenantID = tenantID) (hdedup : ev.dedupID = dedupID) (hash : String)
    (row : EvaluationResult) : (resolveTracker tenantID dedupID before).Keeps (r.applyResolution ev hash row) {}
      (ResolveEnd ev) := by
  unfold Resolver.applyResolution
  split
  · exact keeps_persistSkip htenant hdedup _
  · next hrow =>
    have hrow' : row.tenantID = tenantID := (not_not.mp hrow).trans htenant
    simp only
    cases flipFor ev.resolution (automatedVerdict row) with
    | none => exact keeps_persistAudit htenant hdedup nofun (fun h => by cases h) fun h => by cases h
    | some new =>
      rw [hrow']
      refine Tracker.Keeps.bind ((keeps_setFinalVerdict hash new).mono fun a g hg => ?_)
      subst hg
      match a with
      | some .notFound => exact keeps_persistSkip htenant hdedup _
      | some (.failed err) => exact .inl rfl
      | none =>
        refine Tracker.Keeps.bind ((keeps_reopenPath hash new).mono fun reopened g hg => ?_)
        exact keeps_persistAudit htenant hdedup nofun (fun _ => hg.2) fun _ => hg.1

/-- **A call keeps the books.** -/
lemma keeps_reconcile (htenant : ev.tenantID = tenantID) (hdedup : ev.dedupID = dedupID) :
    (resolveTracker tenantID dedupID before).Keeps (r.reconcile ev) {} (ResolveEnd ev) := by
  unfold Resolver.reconcile
  cases hvalid : validateInput ev with
  | some err => exact .inr hvalid
  | none =>
    rw [htenant, hdedup]
    refine Tracker.Keeps.bind (keeps_getByDedupID.mono fun a g hg => ?_)
    subst hg
    match a with
    | .ok existing => exact ⟨rfl, fun _ => ⟨rfl, rfl⟩⟩
    | .error (.failed err) => exact .inl rfl
    | .error .notFound =>
      refine Tracker.Keeps.bind ((keeps_locateEvaluation htenant).mono fun res g hg => ?_)
      match res, hg with
      | .error err, hg => exact .inl hg
      | .ok (.missing reason), hg =>
        subst hg
        exact keeps_persistSkip htenant hdedup reason
      | .ok (.found hash row), hg =>
        subst hg
        exact keeps_applyResolution htenant hdedup hash row

end Invariant

/-! ### Any number of calls -/

/-- A call: the operations it has performed, and what is left of it. -/
abbrev ResolveCall := Thread ResolverOp ResolverOp.Ans (Except String Outcome)

abbrev ResolvePool := Pool ResolverOp ResolverOp.Ans (Except String Outcome) ResolverWorld

/-- The call has overridden the verdict itself. -/
def ResolveCall.flipped (t : ResolveCall) : Bool := t.performed.any fun x => x.1.overrides x.2

/-- The call has reopened the banner itself. -/
def ResolveCall.reopened (t : ResolveCall) : Bool := t.performed.any fun x => x.1.reopens x.2

/-- One of the call's own repository operations has failed. -/
def ResolveCall.failed (t : ResolveCall) : Bool := t.performed.any fun x => x.1.fails x.2

/-- What one operation adds to the phase. -/
lemma ResolvePhase.next_adds (g : ResolvePhase) (o : ResolverOp) (a : o.Ans) :
    (g.next o a).flipped = (o.overrides a || g.flipped) ∧ (g.next o a).reopened = (o.reopens a || g.reopened) ∧
      (g.next o a).failed = (o.fails a || g.failed) := by
  unfold ResolvePhase.next
  split <;> simp [ResolverOp.overrides, ResolverOp.reopens, ResolverOp.fails]

section Runs

/-- The phase of a call is what it has done. -/
lemma resolve_phase (tenantID dedupID : String) (before : ℕ) (t : ResolveCall) :
    ((resolveTracker tenantID dedupID before).phase t).flipped = t.flipped ∧
      ((resolveTracker tenantID dedupID before).phase t).reopened = t.reopened ∧
      ((resolveTracker tenantID dedupID before).phase t).failed = t.failed := by
  obtain ⟨performed, rest⟩ := t
  induction performed with
  | nil => exact ⟨rfl, rfl, rfl⟩
  | cons x done ih =>
    obtain ⟨hflip, hreopen, hfail⟩ := ih
    obtain ⟨hflip', hreopen', hfail'⟩ := ResolvePhase.next_adds
      ((resolveTracker tenantID dedupID before).phase ⟨done, rest⟩) x.1 x.2
    rw [hflip] at hflip'
    rw [hreopen] at hreopen'
    rw [hfail] at hfail'
    exact ⟨hflip', hreopen', hfail'⟩

variable {tenantID dedupID : String} (r : Resolver)

/-- The deliveries for one tenant and one dedup id. They need not agree on anything else. -/
abbrev Delivery (tenantID dedupID : String) :=
  { ev : IncidentResolved // ev.tenantID = tenantID ∧ ev.dedupID = dedupID }

/-- A step of the calls. -/
def resolveStep (tenantID dedupID : String) : ResolvePool →
    Pool.Label (Delivery tenantID dedupID) ResolverEnv → Option ResolvePool :=
  Pool.step ResolverOp.exec fun ev => r.reconcile ev.1

/-- The condition on a step of the calls. -/
def ResolveExclusive (tenantID dedupID : String) (s : ResolvePool) :
    Pool.Label (Delivery tenantID dedupID) ResolverEnv → Prop :=
  (resolveTracker tenantID dedupID 0).Allows s

instance (tenantID dedupID : String) (s : ResolvePool) (l : Pool.Label (Delivery tenantID dedupID) ResolverEnv) :
    Decidable (ResolveExclusive tenantID dedupID s l) :=
  inferInstanceAs (Decidable ((resolveTracker tenantID dedupID 0).Allows s l))

variable {w : ResolverWorld} {s : ResolvePool} {ls : List (Pool.Label (Delivery tenantID dedupID) ResolverEnv)}

/-- The books hold in every run. -/
lemma resolve_holds
    (hmeets : Lts.Meets (resolveStep r tenantID dedupID) (ResolveExclusive tenantID dedupID) ⟨w, []⟩ ls)
    (hrun : Lts.run (resolveStep r tenantID dedupID) ⟨w, []⟩ ls = some s) :
    (resolveTracker tenantID dedupID w.reopened.length).Holds
      (fun _ res g => ∃ ev : Delivery tenantID dedupID, ResolveEnd ev.1 res g) s := by
  have hbody : ∀ (ev : Delivery tenantID dedupID) (_ : ℕ), (resolveTracker tenantID dedupID w.reopened.length).Keeps
      (r.reconcile ev.1) {} fun res g => ∃ ev : Delivery tenantID dedupID, ResolveEnd ev.1 res g :=
    fun ev _ => (keeps_reconcile ev.2.1 ev.2.2).mono fun res g h => ⟨ev, h⟩
  refine Tracker.run_holds (fun w gs hinv => hinv.spawn) hbody (Tracker.holds_nil ?_) hmeets hrun
  exact ⟨Nat.zero_le _, nofun, nofun, nofun, nofun, rfl⟩

/-- **Concurrent deliveries of one resolution take effect once.** The banner is reopened at most once; when a call has
returned without an error, there is one audit row; if it has returned as a duplicate, it has neither overridden the
verdict nor reopened the banner. A call returns an error only if its payload is refused or one of its repository
operations has failed. -/
theorem resolve_once (tenantID dedupID : String) (w : ResolverWorld) (s : ResolvePool)
    (ls : List (Pool.Label (Delivery tenantID dedupID) ResolverEnv))
    (hmeets : Lts.Meets (resolveStep r tenantID dedupID) (ResolveExclusive tenantID dedupID) ⟨w, []⟩ ls)
    (hrun : Lts.run (resolveStep r tenantID dedupID) ⟨w, []⟩ ls = some s) :
    s.shared.reopened.length ≤ w.reopened.length + 1 ∧
      ∀ t ∈ s.threads,
        (∀ out, t.result? = some (.ok out) → (∃! row, s.shared.audits tenantID dedupID = some row) ∧
          (out.kind = .duplicate → ResolveCall.flipped t = false ∧ ResolveCall.reopened t = false)) ∧
        ∀ err, t.result? = some (.error err) →
          ResolveCall.failed t = true ∨ ∃ ev : Delivery tenantID dedupID, validateInput ev.1 = some err := by
  have hholds := resolve_holds r hmeets hrun
  refine ⟨?_, fun t ht => ?_⟩
  · exact hholds.inv.reopened_le
  · obtain ⟨n, hn⟩ := List.mem_iff_getElem?.mp ht
    obtain ⟨hflip, hreopen, hfail⟩ := resolve_phase tenantID dedupID w.reopened.length t
    refine ⟨fun out hout => ?_, fun err herr => ?_⟩
    · obtain ⟨ev, haud, hdup⟩ := hholds.returned hn hout
      have hsome := hholds.inv.audits _ (List.mem_of_getElem? (Tracker.phases_get hn)) haud
      obtain ⟨row, hrow⟩ := Option.isSome_iff_exists.mp hsome
      refine ⟨⟨row, hrow, fun row' hrow' => ?_⟩, fun hkind => ?_⟩
      · rw [hrow] at hrow'
        exact (Option.some.inj hrow').symm
      · rw [← hflip, ← hreopen]
        exact hdup hkind
    · obtain ⟨ev, hend⟩ := hholds.returned hn herr
      exact hend.imp hfail.symm.trans fun h => ⟨ev, h⟩

end Runs

section Witness

def threatDelivery : Delivery "acme" "d1" := ⟨threatConfirmed, rfl, rfl⟩

/-- One call from the probe to the audit row, then another one. -/
def oneAfterTheOther : List (Pool.Label (Delivery "acme" "d1") ResolverEnv) :=
  [.spawn threatDelivery, .spawn threatDelivery, .advance 0 {}, .advance 0 {}, .advance 0 {}, .advance 0 {},
    .advance 0 {}, .advance 0 { uuid := "a1" }, .advance 1 {}]

/-- The kind of the outcome that a call has returned. -/
def ResolveCall.kind? (t : ResolveCall) : Option OutcomeKind :=
  match t.result? with
  | some (.ok out) => some out.kind
  | _ => none

theorem resolve_once_redelivered : ∃ s,
    Lts.run (resolveStep plainResolver "acme" "d1") ⟨trustedDelivered, []⟩ oneAfterTheOther = some s ∧
      s.threads.map ResolveCall.kind? = [some .flipped, some .duplicate] ∧
      s.shared.reopened.length ≤ trustedDelivered.reopened.length + 1 ∧
      ∀ t ∈ s.threads,
        (∀ out, t.result? = some (.ok out) → (∃! row, s.shared.audits "acme" "d1" = some row) ∧
          (out.kind = .duplicate → ResolveCall.flipped t = false ∧ ResolveCall.reopened t = false)) ∧
        ∀ err, t.result? = some (.error err) →
          ResolveCall.failed t = true ∨ ∃ ev : Delivery "acme" "d1", validateInput ev.1 = some err := by
  have hend : (Lts.run (resolveStep plainResolver "acme" "d1") ⟨trustedDelivered, []⟩ oneAfterTheOther).map
      (fun s => s.threads.map ResolveCall.kind?) = some [some .flipped, some .duplicate] := by
    decide +kernel
  obtain ⟨s, hrun, hs⟩ := Option.map_eq_some_iff.mp hend
  exact ⟨s, hrun, hs, resolve_once plainResolver "acme" "d1" trustedDelivered s oneAfterTheOther
    (by decide +kernel) hrun⟩

/-- Both calls pass the probe before either writes its audit row. -/
def bothPassTheProbe : List (Pool.Label (Delivery "acme" "d1") ResolverEnv) :=
  [.spawn threatDelivery, .spawn threatDelivery, .advance 0 {}, .advance 1 {}, .advance 0 {}, .advance 1 {},
    .advance 0 {}, .advance 0 {}, .advance 0 {}, .advance 0 { uuid := "a1" },
    .advance 1 {}, .advance 1 {}, .advance 1 {}, .advance 1 { uuid := "a2" }]

/-- **Two calls that both pass the probe.** The banner is reopened twice, by the duplicate too. -/
theorem resolved_twice : ∃ s,
    Lts.run (resolveStep plainResolver "acme" "d1") ⟨trustedDelivered, []⟩ bothPassTheProbe = some s ∧
      s.shared.reopened.length = 2 ∧ s.threads.map ResolveCall.kind? = [some .flipped, some .duplicate] ∧
      s.threads.map ResolveCall.flipped = [true, true] ∧ s.threads.map ResolveCall.reopened = [true, true] := by
  have hend : (Lts.run (resolveStep plainResolver "acme" "d1") ⟨trustedDelivered, []⟩ bothPassTheProbe).map
      (fun s => (s.shared.reopened.length, s.threads.map ResolveCall.kind?)) =
        some (2, [some .flipped, some .duplicate]) := by
    decide +kernel
  have hdone : (Lts.run (resolveStep plainResolver "acme" "d1") ⟨trustedDelivered, []⟩ bothPassTheProbe).map
      (fun s => (s.threads.map ResolveCall.flipped, s.threads.map ResolveCall.reopened)) =
        some ([true, true], [true, true]) := by
    decide +kernel
  obtain ⟨s, hrun, hs⟩ := Option.map_eq_some_iff.mp hend
  rw [hrun, Option.map_some, Option.some.injEq] at hdone
  obtain ⟨hlen, hkind⟩ := Prod.mk.inj hs
  obtain ⟨hflip, hreopen⟩ := Prod.mk.inj hdone
  exact ⟨s, hrun, hlen, hkind, hflip, hreopen⟩

end Witness

end Sn360Es.Escalation
