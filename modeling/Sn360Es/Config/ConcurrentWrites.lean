import Sn360Es.Config.ScoreEngine
import Sn360Es.Lib.Phase

/-!
# Two writers of one row

One `UpdateWeights` and one `UpdateThresholds` for the same tenant, interleaved operation by operation. The
column-scoped updates leave the columns of the other call alone; the `Upsert` of the seed path writes the whole row
as it was read.

* `keeps_writeConfig` — what a call has written stays written, as long as no `Upsert` is behind the table;
* `concurrent_config_writes` — so both survive, in particular when there is a row at the start;
* `concurrent_first_writes_lost` — two first writes that both read before either writes: the last one wins.
-/

namespace Sn360Es.Config

open Lib

/-- The columns of the update are in the row. -/
def ColumnUpdate.In (u : ColumnUpdate) (row : ScoreEngine) : Prop := u.apply row = row

/-- One update of each kind. -/
structure WritePair where
  weights : ScoreWeightUpdate
  thresholds : ScoreThresholdUpdate

def WritePair.Has (pair : WritePair) (u : ColumnUpdate) : Prop :=
  u = .weights pair.weights ∨ u = .thresholds pair.thresholds

lemma ColumnUpdate.in_apply (u : ColumnUpdate) (row : ScoreEngine) : u.In (u.apply row) := by
  cases u <;> rfl

/-- The two updates do not write over each other. -/
lemma WritePair.in_apply {pair : WritePair} {u u' : ColumnUpdate} (hu : pair.Has u) (hu' : pair.Has u')
    {row : ScoreEngine} (h : u'.In row) : u'.In (u.apply row) := by
  rcases hu with rfl | rfl <;> rcases hu' with rfl | rfl
  · rfl
  · exact congrArg (ColumnUpdate.apply (.weights pair.weights)) h
  · exact congrArg (ColumnUpdate.apply (.thresholds pair.thresholds)) h
  · rfl

/-! ### Phases -/

/-- Where a call stands: `missed` after an update that found no row, `seeded` with the row that `loadOrSeed` read. -/
inductive WritePhase where
  | idle
  | missed (u : ColumnUpdate)
  | seeded (u : ColumnUpdate) (read : Option ScoreEngine)
  | wrote (u : ColumnUpdate)
  deriving DecidableEq, Repr

def WritePhase.next : WritePhase → (o : ConfigOp) → o.Ans → WritePhase
  | .idle, .update _ u, none => .wrote u
  | .idle, .update _ u, some .notFound => .missed u
  | .missed u, .get _, .ok row => .seeded u (some row)
  | .missed u, .get _, .error .notFound => .seeded u none
  | .seeded u _, .upsert _, none => .wrote u
  | .wrote u, .invalidate _, _ => .wrote u
  | _, _, _ => .idle

/-- The update that a phase is about. -/
def WritePhase.update? : WritePhase → Option ColumnUpdate
  | .idle => none
  | .missed u => some u
  | .seeded u _ => some u
  | .wrote u => some u

/-- What the calls have written is in the row. -/
structure WriteInv (tenantID : String) (pair : WritePair) (w : ConfigWorld) (gs : List WritePhase) : Prop where
  own : ∀ g ∈ gs, ∀ u ∈ g.update?, pair.Has u
  kept : ∀ u, .wrote u ∈ gs → ∃ row, w.table.rows tenantID = some row ∧ u.In row

/-- The condition on an `Upsert`: the row is still the one that the call read, or there is still none. -/
def UpToDate (tenantID : String) (w : ConfigWorld) (gs : List WritePhase) (n : ℕ) : ConfigOp → Prop
  | .upsert _ =>
    match gs[n]? with
    | some (.seeded _ read) => w.table.rows tenantID = read
    | _ => True
  | _ => True

def writeTracker (ttl : ℤ) (tenantID : String) (pair : WritePair) :
    Tracker ConfigOp ConfigOp.Ans ConfigWorld ConfigEnv WritePhase where
  exec := ConfigOp.exec ttl
  start := .idle
  next := WritePhase.next
  allows w gs n o _ := UpToDate tenantID w gs n o
  inv := WriteInv tenantID pair

instance (tenantID : String) (w : ConfigWorld) (gs : List WritePhase) (n : ℕ) :
    ∀ o : ConfigOp, Decidable (UpToDate tenantID w gs n o)
  | .upsert _ =>
    match h : gs[n]? with
    | some (.seeded _ read) => decidable_of_iff (w.table.rows tenantID = read) (by simp only [UpToDate, h])
    | some .idle => isTrue (by simp only [UpToDate, h])
    | some (.missed _) => isTrue (by simp only [UpToDate, h])
    | some (.wrote _) => isTrue (by simp only [UpToDate, h])
    | none => isTrue (by simp only [UpToDate, h])
  | .get _ => isTrue trivial
  | .update _ _ => isTrue trivial
  | .lookup _ => isTrue trivial
  | .storeFull _ _ _ => isTrue trivial
  | .invalidate _ => isTrue trivial

instance (ttl : ℤ) (tenantID : String) (pair : WritePair) (w : ConfigWorld) (gs : List WritePhase) (n : ℕ)
    (o : ConfigOp) (e : ConfigEnv) : Decidable ((writeTracker ttl tenantID pair).allows w gs n o e) :=
  inferInstanceAs (Decidable (UpToDate tenantID w gs n o))

section Keeps

variable {ttl : ℤ} {tenantID : String} {pair : WritePair} {w : ConfigWorld} {gs : List WritePhase} {n : ℕ}
  {g g' : WritePhase} {u : ColumnUpdate}

/-- A call that goes on without a write. -/
lemma WriteInv.set (h : WriteInv tenantID pair w gs) (hn : gs[n]? = some g)
    (hown : ∀ u ∈ g'.update?, u ∈ g.update?) (hwrote : ∀ u, g' = .wrote u → g = .wrote u) :
    WriteInv tenantID pair w (gs.set n g') := by
  refine ⟨fun x hx u hu => ?_, fun u hu => ?_⟩
  · rcases List.mem_or_eq_of_mem_set hx with hold | rfl
    · exact h.own x hold u hu
    · exact h.own g (List.mem_of_getElem? hn) u (hown u hu)
  · rcases List.mem_or_eq_of_mem_set hu with hold | hnew
    · exact h.kept u hold
    · exact h.kept u (hwrote u hnew.symm ▸ List.mem_of_getElem? hn)

/-- **A write** of an update into the row that is there. -/
lemma WriteInv.write (h : WriteInv tenantID pair w gs) (hu : pair.Has u) {row : ScoreEngine}
    (hkey : row.tenantID = tenantID) (hrow : ∀ r, w.table.rows tenantID = some r → row = r) :
    WriteInv tenantID pair (w.putRow (u.apply row)) (gs.set n (.wrote u)) := by
  have hput : (w.putRow (u.apply row)).table.rows tenantID = some (u.apply row) :=
    ScoreTable.put_self (by rw [ColumnUpdate.apply_tenantID, hkey])
  refine ⟨fun x hx u' hu' => ?_, fun u' hu' => ?_⟩
  · rcases List.mem_or_eq_of_mem_set hx with hold | rfl
    · exact h.own x hold u' hu'
    · cases hu'
      exact hu
  · refine ⟨_, hput, ?_⟩
    rcases List.mem_or_eq_of_mem_set hu' with hold | hnew
    · obtain ⟨r, hr, hin⟩ := h.kept u' hold
      have hhas : pair.Has u' := h.own _ hold u' rfl
      rw [hrow r hr]
      exact WritePair.in_apply hu hhas hin
    · cases hnew
      exact ColumnUpdate.in_apply u row

lemma WriteInv.pass (h : WriteInv tenantID pair w gs) (e : ConfigEnv) : WriteInv tenantID pair (w.pass e) gs :=
  ⟨h.own, h.kept⟩

lemma WriteInv.spawn (h : WriteInv tenantID pair w gs) : WriteInv tenantID pair w (gs ++ [.idle]) := by
  refine ⟨fun g hg u hu => ?_, fun u hu => h.kept u (by simpa using hu)⟩
  rcases List.mem_append.mp hg with hold | hnew
  · exact h.own g hold u hu
  · rw [List.mem_singleton.mp hnew] at hu
    cases hu

lemma keeps_update (hu : pair.Has u) {Q : Option RepoError → WritePhase → Prop} (hok : Q none (.wrote u))
    (hmiss : Q (some .notFound) (.missed u)) (hfail : ∀ err, Q (some (.failed err)) .idle) :
    (writeTracker ttl tenantID pair).Keeps (ConfigM.update tenantID u) .idle Q := by
  refine Tracker.keeps_perform (o := ConfigOp.update _ _) fun e w gs n hinv hn _ a w' hexec => ?_
  have hpass := WriteInv.pass hinv e
  obtain ⟨⟨err, rfl⟩, rfl⟩ | ⟨rfl, rfl, -⟩ | ⟨row, rfl, hrow, hkey, rfl⟩ := exec_update_cases ttl hexec
  · exact ⟨hpass.set hn (fun _ => nofun) fun _ => nofun, hfail err⟩
  · refine ⟨⟨fun x hx u' hu' => ?_, fun u' hu' => ?_⟩, hmiss⟩
    · rcases List.mem_or_eq_of_mem_set hx with hold | rfl
      · exact hpass.own x hold u' hu'
      · cases hu'
        exact hu
    · rcases List.mem_or_eq_of_mem_set hu' with hold | hnew
      · exact hpass.kept u' hold
      · cases hnew
  · refine ⟨hpass.write hu hkey fun r hr => ?_, hok⟩
    exact Option.some.inj (hrow.symm.trans hr)

lemma keeps_loadOrSeed {Q : Except String ScoreEngine → WritePhase → Prop}
    (hrow : ∀ row, row.tenantID = tenantID → Q (.ok row) (.seeded u (some row)))
    (hseed : Q (.ok (seedRow tenantID)) (.seeded u none)) (hfail : ∀ err, Q (.error err) .idle) :
    (writeTracker ttl tenantID pair).Keeps (PostgresConfigStore.loadOrSeed tenantID) (.missed u) Q := by
  unfold PostgresConfigStore.loadOrSeed
  refine .bind (Tracker.keeps_perform (o := ConfigOp.get _) fun e w gs n hinv hn _ a w' hexec => ?_)
  have hpass := WriteInv.pass hinv e
  obtain ⟨rfl, ⟨err, rfl⟩ | ⟨rfl, -⟩ | ⟨row, rfl, -, hkey⟩⟩ := exec_get_cases ttl hexec
  · exact ⟨hpass.set hn (fun _ => nofun) fun _ => nofun, hfail err⟩
  · exact ⟨hpass.set hn (fun _ h => h) fun _ => nofun, hseed⟩
  · exact ⟨hpass.set hn (fun _ h => h) fun _ => nofun, hrow row hkey⟩

lemma keeps_upsert {row : ScoreEngine} {read : Option ScoreEngine} (hkey : row.tenantID = tenantID)
    (hread : ∀ r, read = some r → row = r) {Q : Option String → WritePhase → Prop} (hok : Q none (.wrote u))
    (hfail : ∀ err, Q (some err) .idle) :
    (writeTracker ttl tenantID pair).Keeps (ConfigM.upsert (u.apply row)) (.seeded u read) Q := by
  refine Tracker.keeps_perform (o := ConfigOp.upsert _) fun e w gs n hinv hn hok' a w' hexec => ?_
  have hpass := WriteInv.pass hinv e
  have hread' : w.table.rows tenantID = read := by
    simpa only [writeTracker, UpToDate, hn] using hok'
  obtain ⟨⟨err, rfl⟩, rfl⟩ | ⟨rfl, rfl⟩ := exec_upsert_cases ttl hexec
  · exact ⟨hpass.set hn (fun _ => nofun) fun _ => nofun, hfail err⟩
  · have hu : pair.Has u := hpass.own _ (List.mem_of_getElem? hn) u rfl
    exact ⟨hpass.write hu hkey fun r hr => hread r (hread'.symm.trans hr), hok⟩

lemma keeps_invalidate {s : PostgresConfigStore} {Q : Unit → WritePhase → Prop} (h : Q () (.wrote u)) :
    (writeTracker ttl tenantID pair).Keeps (s.invalidate tenantID) (.wrote u) Q := by
  unfold PostgresConfigStore.invalidate
  split
  · refine Tracker.keeps_perform (o := ConfigOp.invalidate _) fun e w gs n hinv hn _ a w' hexec => ?_
    cases hexec
    have hpass := WriteInv.pass hinv e
    refine ⟨WriteInv.set ⟨hpass.own, hpass.kept⟩ hn (fun _ hu => hu) fun _ hg => hg, h⟩
  · exact h

/-- **A call keeps what is written**, and has written its own update when it returns nil. -/
theorem keeps_writeConfig (s : PostgresConfigStore) (what : String) (hu : pair.Has u) :
    (writeTracker ttl tenantID pair).Keeps (s.writeConfig tenantID what u) .idle
      fun err g => err = none → g = .wrote u := by
  unfold PostgresConfigStore.writeConfig
  split
  · exact nofun
  have hdone : (writeTracker ttl tenantID pair).Keeps (do s.invalidate tenantID; return none) (.wrote u)
      fun (err : Option String) g => err = none → g = .wrote u :=
    .bind (keeps_invalidate fun _ => rfl)
  refine .bind (keeps_update hu hdone ?_ fun err => ?_)
  · refine .bind (keeps_loadOrSeed (fun row hrow => ?_) ?_ fun err => ?_)
    · refine .bind (keeps_upsert hrow (fun r hr => Option.some.inj hr) hdone fun err => ?_)
      exact nofun
    · have hseed : (seedRow tenantID).tenantID = tenantID := rfl
      refine .bind (keeps_upsert hseed (fun r hr => ?_) hdone fun err => ?_)
      · cases hr
      · exact nofun
    · exact nofun
  · exact nofun

end Keeps

/-! ### With a row at the start -/

lemma upToDate_of_not_seeded {tenantID : String} {w : ConfigWorld} {gs : List WritePhase} {n : ℕ} {o : ConfigOp}
    (h : ∀ g, gs[n]? = some g → ∀ u read, g ≠ .seeded u read) : UpToDate tenantID w gs n o := by
  cases o with
  | upsert row =>
    simp only [UpToDate]
    split
    · next u read hg => exact absurd rfl (h _ hg u read)
    · exact trivial
  | get _ => exact trivial
  | update _ _ => exact trivial
  | lookup _ => exact trivial
  | storeFull _ _ _ => exact trivial
  | invalidate _ => exact trivial

/-- While there is a row, no call is on the seed path. -/
def rowTracker (ttl : ℤ) (tenantID : String) : Tracker ConfigOp ConfigOp.Ans ConfigWorld ConfigEnv WritePhase where
  exec := ConfigOp.exec ttl
  start := .idle
  next := WritePhase.next
  allows _ _ _ _ _ := True
  inv w gs := (w.table.rows tenantID).isSome ∧ ∀ g ∈ gs, ∀ u read, g ≠ .seeded u read

lemma rowTracker_writeConfig (ttl : ℤ) (tenantID : String) (s : PostgresConfigStore) (what : String)
    (u : ColumnUpdate) :
    (rowTracker ttl tenantID).Keeps (s.writeConfig tenantID what u) .idle fun _ _ => True := by
  have hset : ∀ {w : ConfigWorld} {gs : List WritePhase} {n : ℕ} (g' : WritePhase),
      ((w.table.rows tenantID).isSome ∧ ∀ g ∈ gs, ∀ u read, g ≠ .seeded u read) →
      (∀ u read, g' ≠ .seeded u read) →
      (w.table.rows tenantID).isSome ∧ ∀ g ∈ gs.set n g', ∀ u read, g ≠ .seeded u read := by
    intro w gs n g' hinv hg'
    refine ⟨hinv.1, fun g hg => ?_⟩
    rcases List.mem_or_eq_of_mem_set hg with hold | rfl
    · exact hinv.2 g hold
    · exact hg'
  have hdone : (rowTracker ttl tenantID).Keeps (do s.invalidate tenantID; return none) (.wrote u)
      fun (_ : Option String) _ => True := by
    refine .bind ?_
    unfold PostgresConfigStore.invalidate
    split
    · refine Tracker.keeps_perform (o := ConfigOp.invalidate _) fun e w gs n hinv hn _ a w' hexec => ?_
      cases hexec
      exact ⟨hset (w := (w.pass e).setCache tenantID none) _ hinv fun _ _ => nofun, trivial⟩
    · exact trivial
  unfold PostgresConfigStore.writeConfig
  split
  · exact trivial
  refine .bind (Tracker.keeps_perform (o := ConfigOp.update _ _) fun e w gs n hinv hn _ a w' hexec => ?_)
  obtain ⟨row, hrow⟩ := Option.isSome_iff_exists.mp hinv.1
  obtain ⟨⟨err, rfl⟩, rfl⟩ | ⟨rfl, rfl, hnone⟩ | ⟨row', rfl, hrow', hkey, rfl⟩ := exec_update_cases ttl hexec
  · exact ⟨hset (w := w.pass e) _ hinv fun _ _ => nofun, trivial⟩
  · rw [hrow] at hnone
    cases hnone
  · have hput : ((w.pass e).putRow (u.apply row')).table.rows tenantID = some (u.apply row') :=
      ScoreTable.put_self (by rw [ColumnUpdate.apply_tenantID, hkey])
    have hgs := (hset (n := n) (.wrote u) hinv fun _ _ => nofun).2
    exact ⟨⟨by rw [hput]; rfl, hgs⟩, hdone⟩

/-! ### Runs -/

section Runs

variable (ttl : ℤ) (s : PostgresConfigStore) (tenantID : String) (w : ScoreWeights) (t : AgentThresholds)

/-- The two calls, neither of which has started. -/
def twoWriters (world : ConfigWorld) : Pool ConfigOp ConfigOp.Ans (Option String) ConfigWorld :=
  ⟨world, [{ rest := s.updateWeights tenantID w }, { rest := s.updateThresholds tenantID t }]⟩

/-- The two calls, operation by operation; no other call starts. -/
def writeStep : Pool ConfigOp ConfigOp.Ans (Option String) ConfigWorld → Pool.Label Empty ConfigEnv →
    Option (Pool ConfigOp ConfigOp.Ans (Option String) ConfigWorld) :=
  Pool.step (ConfigOp.exec ttl) Empty.elim

def writePair : WritePair := ⟨weightUpdate w, thresholdUpdate t⟩

/-- The update of the call at a position. -/
def updateAt (n : ℕ) : ColumnUpdate :=
  if n = 0 then .weights (weightUpdate w) else .thresholds (thresholdUpdate t)

/-- Every `Upsert` of the run writes over the row that its call has read. -/
def UpsertsUpToDate (world : ConfigWorld) (ls : List (Pool.Label Empty ConfigEnv)) : Prop :=
  Lts.Meets (writeStep ttl) (writeTracker ttl tenantID (writePair w t)).Allows
    (twoWriters s tenantID w t world) ls

instance (world : ConfigWorld) (ls : List (Pool.Label Empty ConfigEnv)) :
    Decidable (UpsertsUpToDate ttl s tenantID w t world ls) :=
  inferInstanceAs (Decidable (Lts.Meets _ _ _ _))

variable {ttl s tenantID w t} {world : ConfigWorld} {ls : List (Pool.Label Empty ConfigEnv)}

lemma upsertsUpToDate_of_row (h : (world.table.rows tenantID).isSome) :
    UpsertsUpToDate ttl s tenantID w t world ls := by
  have hinit : (rowTracker ttl tenantID).Holds (fun _ _ _ => True) (twoWriters s tenantID w t world) := by
    refine ⟨⟨h, fun g hg => ?_⟩, fun n x hx => ?_⟩
    · simp only [Tracker.phases, twoWriters, List.map_cons, List.map_nil, List.mem_cons, List.not_mem_nil,
        or_false] at hg
      rcases hg with rfl | rfl
      · exact fun _ _ h => by cases h
      · exact fun _ _ h => by cases h
    · rcases n with _ | _ | n
      · cases hx
        exact rowTracker_writeConfig ttl tenantID s _ _
      · cases hx
        exact rowTracker_writeConfig ttl tenantID s _ _
      · cases hx
  refine Lts.meets_of_invariant (I := (rowTracker ttl tenantID).Holds fun _ _ _ => True)
    (fun p l p' hp hst => ?_) (fun p l hp => ?_) hinit
  · obtain ⟨i, -, -⟩ | ⟨n, e, done, o, k, -, hn, rfl⟩ := Pool.step_cases hst
    · exact i.elim
    · exact hp.advance hn trivial
  · -- the phases are those of `rowTracker`, and none of them is `seeded`
    have hnone : ∀ n g, ((writeTracker ttl tenantID (writePair w t)).phases p)[n]? = some g →
        ∀ u read, g ≠ WritePhase.seeded u read :=
      fun n g hg => hp.inv.2 g (List.mem_of_getElem? hg)
    cases l with
    | spawn i => exact i.elim
    | advance n e =>
      simp only [Tracker.Allows]
      split
      · exact upToDate_of_not_seeded (hnone n)
      · exact trivial

/-- **Concurrent configuration writes.** When both calls have returned nil, the row holds the weights of the one and
the thresholds of the other, if there was a row at the start, or if every `Upsert` wrote over the row that its call
had read. -/
theorem concurrent_config_writes
    (hcond : (world.table.rows tenantID).isSome ∨ UpsertsUpToDate ttl s tenantID w t world ls)
    {p : Pool ConfigOp ConfigOp.Ans (Option String) ConfigWorld}
    (hrun : Lts.run (writeStep ttl) (twoWriters s tenantID w t world) ls = some p)
    (hnil : p.threads.map Thread.result? = [some none, some none]) :
    ∃ row, p.shared.table.rows tenantID = some row ∧ row.weights = weightUpdate w ∧
      row.thresholds = thresholdUpdate t := by
  have hmeets : UpsertsUpToDate ttl s tenantID w t world ls := hcond.elim upsertsUpToDate_of_row id
  have hinit : (writeTracker ttl tenantID (writePair w t)).Holds
      (fun n err g => err = none → g = .wrote (updateAt w t n)) (twoWriters s tenantID w t world) := by
    refine ⟨⟨fun g hg u hu => ?_, fun u hu => ?_⟩, fun n x hx => ?_⟩
    · simp only [Tracker.phases, twoWriters, List.map_cons, List.map_nil, List.mem_cons, List.not_mem_nil,
        or_false] at hg
      rcases hg with rfl | rfl
      · cases hu
      · cases hu
    · simp [Tracker.phases, Tracker.phase, twoWriters, writeTracker] at hu
    · rcases n with _ | _ | n
      · cases hx
        exact keeps_writeConfig s _ (.inl rfl)
      · cases hx
        exact keeps_writeConfig s _ (.inr rfl)
      · cases hx
  have hholds := Tracker.run_holds (T := writeTracker ttl tenantID (writePair w t)) (fun _ _ h => h.spawn)
    (fun i => i.elim) hinit hmeets hrun
  have hwrote : ∀ n, n < 2 → ∃ row, p.shared.table.rows tenantID = some row ∧ (updateAt w t n).In row := by
    intro n hlt
    have hget : (p.threads.map Thread.result?)[n]? = some (some none) := by
      rw [hnil]
      rcases (by omega : n = 0 ∨ n = 1) with rfl | rfl
      · rfl
      · rfl
    rw [List.getElem?_map, Option.map_eq_some_iff] at hget
    obtain ⟨x, hx, hres⟩ := hget
    have hphase := hholds.returned hx hres rfl
    refine hholds.inv.kept (updateAt w t n) ?_
    rw [← hphase]
    exact List.mem_of_getElem? (Tracker.phases_get hx)
  obtain ⟨row, hrow, hweights⟩ := hwrote 0 (by omega)
  obtain ⟨row', hrow', hthresholds⟩ := hwrote 1 (by omega)
  obtain rfl : row = row' := Option.some.inj (hrow.symm.trans hrow')
  exact ⟨row, hrow, (congrArg ScoreEngine.weights hweights).symm,
    (congrArg ScoreEngine.thresholds hthresholds).symm⟩

end Runs

/-! ### A tenant without a row -/

/-- The tuning agent takes all weight away, and lowers every threshold to 1. -/
def zeroWeights : ScoreWeights := ⟨0, 0, 0, 0⟩

def lowThresholds : AgentThresholds := ⟨1, 2, 1, 1, 1, 1, 1⟩

/-- `UpdateThresholds` returns before `UpdateWeights` reads the row. -/
def oneAfterTheOther : List (Pool.Label Empty ConfigEnv) :=
  [.advance 0 {}, .advance 1 {}, .advance 1 {}, .advance 1 {}, .advance 1 {}, .advance 0 {}, .advance 0 {},
    .advance 0 {}]

theorem concurrent_config_writes_serial : ∃ p,
    Lts.run (writeStep 0) (twoWriters {} "t" zeroWeights lowThresholds {}) oneAfterTheOther = some p ∧
      ∃ row, p.shared.table.rows "t" = some row ∧ row.weights = weightUpdate zeroWeights ∧
        row.thresholds = thresholdUpdate lowThresholds := by
  have hend : (Lts.run (writeStep 0) (twoWriters {} "t" zeroWeights lowThresholds {}) oneAfterTheOther).map
      (fun p => p.threads.map Thread.result?) = some [some none, some none] := by
    decide +kernel
  obtain ⟨p, hrun, hp⟩ := Option.map_eq_some_iff.mp hend
  exact ⟨p, hrun, concurrent_config_writes (.inr (by decide +kernel)) hrun hp⟩

/-- Both calls read that there is no row before either writes one. -/
def bothSeed : List (Pool.Label Empty ConfigEnv) :=
  [.advance 0 {}, .advance 1 {}, .advance 0 {}, .advance 1 {}, .advance 0 {}, .advance 1 {}, .advance 0 {},
    .advance 1 {}]

/-- **The first write is lost**: both calls return nil, and the row has the weights of the seed. -/
theorem concurrent_first_writes_lost : ∃ p,
    Lts.run (writeStep 0) (twoWriters {} "t" zeroWeights lowThresholds {}) bothSeed = some p ∧
      p.threads.map Thread.result? = [some none, some none] ∧
      ¬ ∃ row, p.shared.table.rows "t" = some row ∧ row.weights = weightUpdate zeroWeights ∧
        row.thresholds = thresholdUpdate lowThresholds := by
  have hend : (Lts.run (writeStep 0) (twoWriters {} "t" zeroWeights lowThresholds {}) bothSeed).map
      (fun p => (p.threads.map Thread.result?, (p.shared.table.rows "t").map ScoreEngine.weights)) =
        some ([some none, some none], some ⟨60, 10, 15, 15⟩) := by
    decide +kernel
  obtain ⟨p, hrun, hp⟩ := Option.map_eq_some_iff.mp hend
  obtain ⟨hnil, hweights⟩ := Prod.mk.inj hp
  refine ⟨p, hrun, hnil, ?_⟩
  rintro ⟨row, hrow, hw, -⟩
  rw [hrow, Option.map_some, Option.some.injEq, hw] at hweights
  revert hweights
  decide +kernel

end Sn360Es.Config
