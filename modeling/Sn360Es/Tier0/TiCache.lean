import Sn360Es.Tier0.Gate
import Sn360Es.Tier0.TiMatch

/-!
# The cache in front of threat intel (`internal/service/tier0/ti_match.go`)

`lookupCandidates` with its cache: the hashes the cache knows are answered from it, the rest goes to the store in one
query, and what the store says is written back hash by hash. The hashes that are left over are collected in the slice
that is being read, so the loop is modelled over that slice.

A match is of any type here, with the hash it was found under and with what the gate reads of it.

* `splitLoop_eq` — writing into the slice never overtakes the reading, so the loop is a filter;
* `lookupThrough_perm` — with a coherent cache the matches are those of the store, in another order;
* `decision_perm` — the decision does not see the order.
-/

namespace Sn360Es.Tier0

open Lib

variable {μ : Type}

/-- `TICacheEntry`. -/
structure TICacheEntry (μ : Type) where
  present : Bool := false
  found : List μ := []

/-- A `TICache` with its state: entries come in the order of the hashes, and storing one hash may drop entries but
changes no other one. -/
structure CacheLayer (μ σ : Type) where
  getHashes : σ → List Bytes → List (TICacheEntry μ)
  setHash : σ → Bytes → List μ → σ
  entry : σ → Bytes → TICacheEntry μ
  getHashes_eq : ∀ s hashes, getHashes s hashes = hashes.map (entry s)
  setHash_entry : ∀ s h found h', (entry (setHash s h found) h').present = true →
    (h' = h ∧ (entry (setHash s h found) h').found = found) ∨ entry (setHash s h found) h' = entry s h'

/-- The loop over the cache's entries at index `i`: `buf` is the slice that `hashes` and `toQuery` share, `k` the length
of `toQuery`. `none` is an index out of range. -/
def splitLoop : List (TICacheEntry μ) → ℕ → ℕ → List Bytes → List μ → Option (List Bytes × List μ)
  | [], _, k, buf, resolved => some (buf.take k, resolved)
  | e :: entries, i, k, buf, resolved =>
    if e.present then splitLoop entries (i + 1) k buf (resolved ++ e.found)
    else
      match buf[i]? with
      | none => none
      | some h => splitLoop entries (i + 1) (k + 1) (buf.set k h) resolved

/-- `byHash`: the matches of a hash. -/
def byHash (hash : μ → Bytes) (found : List μ) : Bytes → List μ :=
  found.foldl (fun m x => Function.update m (hash x) (m (hash x) ++ [x])) fun _ => []

/-- What `lookupCandidates` returns, and the state of the cache after it. -/
structure Looked (μ σ : Type) where
  found : List μ
  err : Option String := none
  state : σ

section Lookup

variable {σ : Type} (t : StoreTIChecker) (hash : μ → Bytes) (lookupByHash : List Bytes → Except String (List μ))

/-- `lookupCandidates`; `none` is an index out of range. -/
def lookupThrough (cache : Option (CacheLayer μ σ)) (s : σ) (cands : List IndicatorCandidate) :
    Option (Looked μ σ) :=
  let hashes := t.hashes cands
  if hashes = [] then some { found := [], state := s }
  else
    match cache with
    | none =>
      match lookupByHash hashes with
      | .error e => some { found := [], err := some e, state := s }
      | .ok found => some { found, state := s }
    | some c =>
      match splitLoop (c.getHashes s hashes) 0 0 hashes [] with
      | none => none
      | some (toQuery, resolved) =>
        if toQuery = [] then some { found := resolved, state := s }
        else
          match lookupByHash toQuery with
          | .error e => some { found := resolved, err := some e, state := s }
          | .ok found =>
            some
              { found := resolved ++ found
                state := toQuery.foldl (fun s h => c.setHash s h (byHash hash found h)) s }

end Lookup

/-! ### The split -/

/-- Writing at the end of what is kept takes the first free place, or the one just read. -/
lemma set_kept (kept gap todo : List Bytes) (h : Bytes) :
    (kept ++ gap ++ h :: todo).set kept.length h = (kept ++ [h]) ++ (gap ++ [h]).tail ++ todo := by
  cases gap with
  | nil => simp
  | cons g gap => simp

/-- `kept` has been written, `gap` has been read and is free, `todo` is still to be read. -/
lemma splitLoop_append (entry : Bytes → TICacheEntry μ) (todo kept gap : List Bytes) (resolved : List μ) :
    splitLoop (todo.map entry) (kept.length + gap.length) kept.length (kept ++ gap ++ todo) resolved =
      some (kept ++ todo.filter (fun h => !(entry h).present),
        resolved ++ (todo.filter fun h => (entry h).present).flatMap fun h => (entry h).found) := by
  induction todo generalizing kept gap resolved with
  | nil => simp [splitLoop]
  | cons h todo ih =>
    cases hp : (entry h).present with
    | true =>
      have hnext := ih kept (gap ++ [h]) (resolved ++ (entry h).found)
      simp only [List.length_append, List.length_cons, List.length_nil, List.append_assoc, List.cons_append,
        List.nil_append, ← Nat.add_assoc] at hnext
      simp [splitLoop, hp, hnext]
    | false =>
      have hget : (kept ++ gap ++ h :: todo)[kept.length + gap.length]? = some h := by
        rw [← List.length_append, List.getElem?_append_right le_rfl]
        simp
      have hlen : kept.length + gap.length + 1 = (kept ++ [h]).length + (gap ++ [h]).tail.length := by
        simp
        omega
      have hkept : kept.length + 1 = (kept ++ [h]).length := by simp
      simp only [List.map_cons, splitLoop, hp, hget, set_kept, hlen, hkept, ih]
      simp [hp]

lemma splitLoop_eq (entry : Bytes → TICacheEntry μ) (hashes : List Bytes) :
    splitLoop (hashes.map entry) 0 0 hashes [] =
      some (hashes.filter (fun h => !(entry h).present),
        (hashes.filter fun h => (entry h).present).flatMap fun h => (entry h).found) := by
  simpa using splitLoop_append entry hashes [] [] []

lemma byHash_eq (hash : μ → Bytes) (found : List μ) (h : Bytes) :
    byHash hash found h = found.filter fun m => hash m = h := by
  unfold byHash
  suffices ∀ m : Bytes → List μ, (found.foldl (fun m x => Function.update m (hash x) (m (hash x) ++ [x])) m) h =
      m h ++ found.filter fun x => hash x = h by simpa using this fun _ => []
  induction found with
  | nil => simp
  | cons x found ih =>
    intro m
    rw [List.foldl_cons, ih]
    by_cases hx : hash x = h
    · simp [hx]
    · simp [hx, Function.update_of_ne (Ne.symm hx)]

/-! ### Coherence -/

section Coherence

variable {σ : Type} {t : StoreTIChecker} {hash : μ → Bytes} {lookupByHash : List Bytes → Except String (List μ)}
variable {store : List μ} {c : CacheLayer μ σ} {s : σ}

/-- The matches of the store for a hash. -/
def under (hash : μ → Bytes) (store : List μ) (h : Bytes) : List μ := store.filter fun m => hash m = h

/-- An entry that is present holds exactly the matches of the store for its hash. -/
def Coherent (hash : μ → Bytes) (store : List μ) (c : CacheLayer μ σ) (s : σ) : Prop :=
  ∀ h, (c.entry s h).present = true → (c.entry s h).found.Perm (under hash store h)

/-- The store answers with exactly the matches whose hash is asked for. -/
def Answers (hash : μ → Bytes) (store : List μ) (lookupByHash : List Bytes → Except String (List μ)) : Prop :=
  ∀ hashes, ∃ found, lookupByHash hashes = .ok found ∧ found.Perm (store.filter fun m => hashes.contains (hash m))

lemma coherent_setHash (h : Coherent hash store c s) {k : Bytes} {found : List μ}
    (hfound : found.Perm (under hash store k)) : Coherent hash store c (c.setHash s k found) := by
  intro h' hp
  rcases c.setHash_entry s k found h' hp with ⟨rfl, heq⟩ | heq
  · rw [heq]
    exact hfound
  · rw [heq] at hp ⊢
    exact h h' hp

/-- What is written back. -/
lemma coherent_foldl (keys : List Bytes) {found : List μ}
    (hfound : ∀ k ∈ keys, (byHash hash found k).Perm (under hash store k)) (h : Coherent hash store c s) :
    Coherent hash store c (keys.foldl (fun s k => c.setHash s k (byHash hash found k)) s) := by
  induction keys generalizing s with
  | nil => exact h
  | cons k keys ih =>
    rw [List.foldl_cons]
    exact ih (fun k' hk' => hfound k' (List.mem_cons_of_mem _ hk'))
      (coherent_setHash h (hfound k List.mem_cons_self))

/-- The matches of the store, hash by hash. -/
lemma filter_mem_perm {keys : List Bytes} (hnodup : keys.Nodup) (store : List μ) :
    (store.filter fun m => keys.contains (hash m)).Perm (keys.flatMap (under hash store)) := by
  induction keys with
  | nil => simp
  | cons k keys ih =>
    obtain ⟨hk, hnodup⟩ := List.nodup_cons.mp hnodup
    have hsplit := List.filter_append_perm (fun m => decide (hash m = k))
      (store.filter fun m => (k :: keys).contains (hash m))
    have hthis : ((store.filter fun m => (k :: keys).contains (hash m)).filter fun m => hash m = k) =
        under hash store k := by
      rw [under, List.filter_filter]
      refine List.filter_congr fun m _ => ?_
      by_cases hm : hash m = k <;> simp [hm]
    have hrest : ((store.filter fun m => (k :: keys).contains (hash m)).filter fun m => !decide (hash m = k)) =
        store.filter fun m => keys.contains (hash m) := by
      rw [List.filter_filter]
      refine List.filter_congr fun m _ => ?_
      by_cases hm : hash m = k
      · simp [hm, hk]
      · simp [hm]
    rw [hthis, hrest] at hsplit
    exact hsplit.symm.trans (List.Perm.append_left _ (ih hnodup))

lemma hashes_nodup (t : StoreTIChecker) (cands : List IndicatorCandidate) : (t.hashes cands).Nodup := by
  unfold StoreTIChecker.hashes
  generalize (cands.filterMap fun c => t.names.hashIndicator c.typ c.value) = l
  suffices ∀ out : List Bytes, out.Nodup →
      (l.foldl (fun out h => if out.any (· = h) then out else out ++ [h]) out).Nodup from this [] List.nodup_nil
  induction l with
  | nil => exact fun out h => h
  | cons h l ih =>
    intro out hout
    rw [List.foldl_cons]
    apply ih
    split_ifs with hmem
    · exact hout
    · have hnot : h ∉ out := by simpa using hmem
      exact List.nodup_append.mpr ⟨hout, List.nodup_singleton h, by
        intro a ha b hb
        rw [List.mem_singleton.mp hb]
        rintro rfl
        exact hnot ha⟩

/-- The store's answer to some hashes, hash by hash. -/
lemma answer_perm (ha : Answers hash store lookupByHash) {keys : List Bytes} (hnodup : keys.Nodup) :
    ∃ found, lookupByHash keys = .ok found ∧ found.Perm (keys.flatMap (under hash store)) := by
  obtain ⟨found, hok, hperm⟩ := ha keys
  exact ⟨found, hok, hperm.trans (filter_mem_perm hnodup store)⟩

/-- Written back under its hash, an answer is what the store has there. -/
lemma byHash_perm {keys : List Bytes} {found : List μ}
    (hfound : found.Perm (store.filter fun m => keys.contains (hash m))) {k : Bytes} (hk : k ∈ keys) :
    (byHash hash found k).Perm (under hash store k) := by
  rw [byHash_eq]
  refine (hfound.filter _).trans (List.Perm.of_eq ?_)
  rw [under, List.filter_filter]
  refine List.filter_congr fun m _ => ?_
  by_cases hm : hash m = k
  · simp [hm, hk]
  · simp [hm]

variable (t) in
/-- Without a cache, the matches are those of the store, hash by hash. -/
lemma lookupThrough_none (ha : Answers hash store lookupByHash) (s : σ) (cands : List IndicatorCandidate) :
    ∃ found, lookupThrough t hash lookupByHash none s cands = some { found, state := s } ∧
      found.Perm ((t.hashes cands).flatMap (under hash store)) := by
  unfold lookupThrough
  by_cases hnil : t.hashes cands = []
  · exact ⟨[], by simp [hnil], by simp [hnil]⟩
  · obtain ⟨found, hok, hperm⟩ := answer_perm ha (hashes_nodup t cands)
    exact ⟨found, by simp [hnil, hok], hperm⟩

variable (t) in
/-- With a coherent cache they are the same, and it stays coherent. -/
lemma lookupThrough_some (ha : Answers hash store lookupByHash) (hc : Coherent hash store c s)
    (cands : List IndicatorCandidate) : ∃ found s',
    lookupThrough t hash lookupByHash (some c) s cands = some { found, state := s' } ∧
      found.Perm ((t.hashes cands).flatMap (under hash store)) ∧ Coherent hash store c s' := by
  unfold lookupThrough
  by_cases hnil : t.hashes cands = []
  · exact ⟨[], s, by simp [hnil], by simp [hnil], hc⟩
  generalize hhashes : t.hashes cands = hashes at hnil ⊢
  have hnodup : hashes.Nodup := hhashes ▸ hashes_nodup t cands
  set known := hashes.filter fun h => (c.entry s h).present with hknown
  set unknown := hashes.filter fun h => !(c.entry s h).present with hunknown
  have hloop : splitLoop (c.getHashes s hashes) 0 0 hashes [] =
      some (unknown, known.flatMap fun h => (c.entry s h).found) := by
    rw [c.getHashes_eq, splitLoop_eq]
  have hresolved : (known.flatMap fun h => (c.entry s h).found).Perm (known.flatMap (under hash store)) := by
    refine List.Perm.flatMap_left known fun h hh => hc h ?_
    exact (List.mem_filter.mp hh).2
  have hall : (known ++ unknown).Perm hashes := List.filter_append_perm _ hashes
  by_cases hq : unknown = []
  · refine ⟨known.flatMap fun h => (c.entry s h).found, s, by simp [hnil, hloop, hq], ?_, hc⟩
    rw [hq, List.append_nil] at hall
    exact hresolved.trans (hall.flatMap_right _)
  · obtain ⟨found, hok, hperm⟩ := ha unknown
    refine ⟨(known.flatMap fun h => (c.entry s h).found) ++ found,
      unknown.foldl (fun s h => c.setHash s h (byHash hash found h)) s, ?_, ?_, ?_⟩
    · simp only [hnil, hloop, hq, hok, if_false]
    · have hboth := hresolved.append
        (hperm.trans (filter_mem_perm (hnodup.filter fun h => !(c.entry s h).present) store))
      rw [← List.flatMap_append] at hboth
      exact hboth.trans (hall.flatMap_right _)
    · exact coherent_foldl unknown (fun k hk => byHash_perm hperm hk) hc

end Coherence

/-! ### The decision -/

/-- What the gate decides by: everything of the outcome but which of the strongest matches it names. -/
def decision (out : Tier0Outcome) : Bool × Bool × Option Category × Bool × Option ℤ :=
  (out.bypass, out.skipML, out.forcedCategory, out.forceEscalate, out.tiMatch.map TIMatch.severity)

/-- The decision for a severity. -/
def decisionFor (severity : ℤ) : Bool × Bool × Option Category × Bool × Option ℤ :=
  match severityTier severity with
  | (cat, true) => (true, true, cat, false, some severity)
  | (_, false) => (false, false, none, true, some severity)

lemma decision_tiOutcome (m : MatchedIndicator) (ms : List MatchedIndicator) :
    decision (tiOutcome m ms) = decisionFor (pickStrongest m ms).1.severity := by
  unfold tiOutcome decisionFor
  dsimp only
  split <;> simp [decision, *]

lemma foldl_strongest (ms : List MatchedIndicator) (m : MatchedIndicator) :
    (∀ x ∈ m :: ms, x.severity ≤ (ms.foldl (fun s m => if s.severity < m.severity then m else s) m).severity) ∧
      ms.foldl (fun s m => if s.severity < m.severity then m else s) m ∈ m :: ms := by
  induction ms generalizing m with
  | nil => simp
  | cons x ms ih =>
    rw [List.foldl_cons]
    split_ifs with h
    · obtain ⟨hle, hmem⟩ := ih x
      refine ⟨fun y hy => ?_, List.mem_cons_of_mem _ hmem⟩
      rcases List.mem_cons.mp hy with rfl | hy
      · exact h.le.trans (hle x List.mem_cons_self)
      · exact hle y hy
    · obtain ⟨hle, hmem⟩ := ih m
      have hm := hle m List.mem_cons_self
      refine ⟨fun y hy => ?_, ?_⟩
      · rcases List.mem_cons.mp hy with rfl | hy
        · exact hm
        · rcases List.mem_cons.mp hy with rfl | hy
          · exact (not_lt.mp h).trans hm
          · exact hle y (List.mem_cons_of_mem _ hy)
      · rcases List.mem_cons.mp hmem with heq | hmem
        · exact List.mem_cons.mpr (.inl heq)
        · exact List.mem_cons_of_mem _ (List.mem_cons_of_mem _ hmem)

/-- The severity of the strongest match does not depend on the order. -/
lemma pickStrongest_perm {m m' : MatchedIndicator} {ms ms' : List MatchedIndicator}
    (h : (m :: ms).Perm (m' :: ms')) : (pickStrongest m ms).1.severity = (pickStrongest m' ms').1.severity := by
  obtain ⟨hle, hmem⟩ := foldl_strongest ms m
  obtain ⟨hle', hmem'⟩ := foldl_strongest ms' m'
  exact le_antisymm (hle' _ (h.mem_iff.mp hmem)) (hle _ (h.mem_iff.mpr hmem'))

/-- The gate with a lookup that has answered. -/
def Gate.answered (g : Gate) (found : List MatchedIndicator) : Gate := { g with ti := some fun _ _ => .ok found }

lemma decision_perm (g : Gate) (req : EvaluateRequest) (sig : RiskSignals) {found found' : List MatchedIndicator}
    (h : found.Perm found') : ((g.answered found).applyTIMatch req sig).map decision =
      ((g.answered found').applyTIMatch req sig).map decision := by
  cases found with
  | nil => rw [h.nil_eq]
  | cons m ms =>
    cases found' with
    | nil => exact absurd h.eq_nil (by simp)
    | cons m' ms' =>
      show some (decision (tiOutcome m ms)) = some (decision (tiOutcome m' ms'))
      rw [decision_tiOutcome, decision_tiOutcome, pickStrongest_perm h]

/-- A coherent cache changes neither what is found, up to order, nor the decision, and stays coherent. -/
theorem cache_transparent {σ : Type} (t : StoreTIChecker) (hash : μ → Bytes) (view : μ → MatchedIndicator)
    (store : List μ) (lookupByHash : List Bytes → Except String (List μ)) (c : CacheLayer μ σ) (s : σ)
    (cands : List IndicatorCandidate) (ha : Answers hash store lookupByHash) (hc : Coherent hash store c s) :
    ∃ cached plain s', lookupThrough t hash lookupByHash (some c) s cands = some { found := cached, state := s' } ∧
      lookupThrough t hash lookupByHash none s cands = some { found := plain, state := s } ∧
      cached.Perm plain ∧ Coherent hash store c s' ∧
      ∀ (g : Gate) (req : EvaluateRequest) (sig : RiskSignals),
        ((g.answered (cached.map view)).applyTIMatch req sig).map decision =
          ((g.answered (plain.map view)).applyTIMatch req sig).map decision := by
  obtain ⟨cached, s', hcached, hperm, hcoherent⟩ := lookupThrough_some t ha hc cands
  obtain ⟨plain, hplain, hperm'⟩ := lookupThrough_none t ha s cands
  have hsame : cached.Perm plain := hperm.trans hperm'.symm
  exact ⟨cached, plain, s', hcached, hplain, hsame, hcoherent, fun g req sig => decision_perm g req sig (hsame.map view)⟩

/-! ### A map as the cache -/

/-- A cache that keeps everything. -/
def mapLayer (μ : Type) : CacheLayer μ (Bytes → Option (List μ)) where
  getHashes s hashes := hashes.map fun h => ⟨(s h).isSome, (s h).getD []⟩
  setHash s h found := Function.update s h (some found)
  entry s h := ⟨(s h).isSome, (s h).getD []⟩
  getHashes_eq _ _ := rfl
  setHash_entry s h found h' _ := by
    by_cases hh : h' = h
    · exact .inl ⟨hh, by simp [hh]⟩
    · exact .inr (by simp [Function.update_of_ne hh])

/-- Over such a cache and the tables of the store, the matches are those of `StoreTIChecker.lookupCandidates`. -/
lemma lookupThrough_mapLayer {uuid : Bytes → Bool} (t : StoreTIChecker) (cache : TICache)
    (tables : Intel.IntelTables uuid) (cands : List IndicatorCandidate) :
    (lookupThrough t Intel.MatchedIndicator.hash (fun hashes => .ok (tables.lookupByHash hashes))
      (some (mapLayer _)) cache cands).map Looked.found = some (t.lookupCandidates cache tables cands) := by
  have hknown : ∀ hashes : List Bytes,
      ((hashes.filter fun h => (cache h).isSome).flatMap fun h => (cache h).getD []) =
        hashes.flatMap fun h => (cache h).getD [] := by
    intro hashes
    induction hashes with
    | nil => rfl
    | cons h hashes ih => cases hh : cache h <;> simp [hh, ih]
  have hunknown : (t.hashes cands).filter (fun h => !(cache h).isSome) = t.toQuery cache cands := by
    simp [StoreTIChecker.toQuery]
  have hempty : tables.lookupByHash [] = [] := by simp [Intel.IntelTables.lookupByHash]
  have hloop := splitLoop_eq (fun h => (⟨(cache h).isSome, (cache h).getD []⟩ : TICacheEntry Intel.MatchedIndicator))
    (t.hashes cands)
  simp only [hknown, hunknown] at hloop
  unfold lookupThrough StoreTIChecker.lookupCandidates
  by_cases hnil : t.hashes cands = []
  · simp [hnil, StoreTIChecker.toQuery, hempty]
  · simp only [hnil, if_false, mapLayer, hloop]
    by_cases hq : t.toQuery cache cands = []
    · simp [hq, hempty]
    · simp [hq]

namespace Sample

/-- One match, under the hash `01`. -/
def listed : List (Bytes × MatchedIndicator) := [([1], ⟨"bad.test", "domain", "f1", "urlhaus", 80, []⟩)]

/-- The hash `02` is known to be clean. -/
def cleanTwo : Bytes → Option (List (Bytes × MatchedIndicator)) := fun h => if h = [2] then some [] else none

end Sample

open Sample in
theorem cache_transparent_cleanTwo : ∃ cached plain s',
    lookupThrough (checker 6) Prod.fst (fun hs => .ok (listed.filter fun m => hs.contains m.1)) (some (mapLayer _))
      cleanTwo [⟨.domain, bytesOf "bad.test"⟩] = some { found := cached, state := s' } ∧
    lookupThrough (checker 6) Prod.fst (fun hs => .ok (listed.filter fun m => hs.contains m.1)) none cleanTwo
      [⟨.domain, bytesOf "bad.test"⟩] = some { found := plain, state := cleanTwo } ∧ cached.Perm plain := by
  have ha : Answers Prod.fst listed fun hs => .ok (listed.filter fun m => hs.contains m.1) :=
    fun hs => ⟨_, rfl, List.Perm.refl _⟩
  have hc : Coherent Prod.fst listed (mapLayer _) cleanTwo := by
    intro h hp
    have hh : h = [2] := by
      by_contra hne
      simp [mapLayer, cleanTwo, hne] at hp
    subst hh
    exact List.Perm.of_eq rfl
  obtain ⟨cached, plain, s', h1, h2, h3, -⟩ := cache_transparent (checker 6) Prod.fst Prod.snd listed
    (fun hs => .ok (listed.filter fun m => hs.contains m.1)) (mapLayer _) cleanTwo [⟨.domain, bytesOf "bad.test"⟩] ha hc
  exact ⟨cached, plain, s', h1, h2, h3⟩

end Sn360Es.Tier0
