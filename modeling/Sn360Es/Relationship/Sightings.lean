import Mathlib.Order.Bounds.Basic
import Sn360Es.Relationship.CommunicationHistory

/-!
# The order of sightings (`internal/repository`: `RecordSighting` of both backends)

A row is folded from the sightings of its key. The counters, the last instant and the domain come out the same in every
order; `FirstSeenAt` is that of the sighting that came first to the repository and is never written again.

* `Tallied`, `Folded` — what a row says of its sightings; one more sighting keeps both;
* `folded_recordAll` — the row after any list of calls;
* `PgHistory.view_recordAll` — the statement of Postgres does what the table in memory does;
* `sighting_order` — two orders of the same sightings.
-/

namespace Sn360Es.Relationship

open Lib

/-- The row that a sighting leaves. -/
def CommTable.upserted (s : Sighting) (now : Instant) (id : UUID) : Option CommunicationHistory → CommunicationHistory
  | some r => r.retouch now (CommTable.sighted s)
  | none => CommTable.firstRow s now id

@[simp] lemma CommTable.upserted_updatedAt (s : Sighting) (now : Instant) (id : UUID)
    (row : Option CommunicationHistory) : (CommTable.upserted s now id row).updatedAt = now.1 := by
  cases row <;> rfl

/-- What `RecordSighting` checks first. -/
def Sighting.Valid (s : Sighting) : Prop :=
  s.tenantID ≠ "" ∧ ¬(s.senderHash = [] ∨ s.recipientHash = []) ∧ s.sentAt ≠ 0

instance (s : Sighting) : Decidable s.Valid := inferInstanceAs (Decidable (_ ∧ _ ∧ _))

/-! ### What a row says of its sightings -/

/-- The row counts the sightings and knows the last of them. -/
structure Tallied (ss : List Sighting) (r : CommunicationHistory) : Prop where
  count30d : r.count30d = ss.length
  latest : IsGreatest {t | ∃ s ∈ ss, s.sentAt = t} r.lastSeenAt

lemma Tallied.first (s : Sighting) (now : Instant) (id : UUID) : Tallied [s] (CommTable.firstRow s now id) := by
  refine ⟨rfl, ⟨s, List.mem_singleton_self s, rfl⟩, ?_⟩
  rintro t ⟨s', hs', rfl⟩
  rw [List.mem_singleton.mp hs']
  exact le_refl _

/-- One more sighting. -/
lemma Tallied.sighted {ss : List Sighting} {r : CommunicationHistory} (h : Tallied ss r) (s : Sighting)
    (now : Instant) : Tallied (s :: ss) (r.retouch now (CommTable.sighted s)) := by
  have hlast : (r.retouch now (CommTable.sighted s)).lastSeenAt = max r.lastSeenAt s.sentAt := by
    rw [max_def_lt]
    rfl
  refine ⟨?_, ?_⟩
  · show r.count30d + 1 = _
    rw [h.count30d, List.length_cons, Nat.cast_succ]
  · have hset : {t | ∃ s' ∈ s :: ss, s'.sentAt = t} = insert s.sentAt {t | ∃ s' ∈ ss, s'.sentAt = t} := by
      ext t
      simp [eq_comm]
    rw [hlast, hset, max_comm]
    exact h.latest.insert s.sentAt

lemma Tallied.perm {ss ss' : List Sighting} {r : CommunicationHistory} (h : Tallied ss r) (hperm : ss.Perm ss') :
    Tallied ss' r := by
  have hset : {t | ∃ s ∈ ss', s.sentAt = t} = {t | ∃ s ∈ ss, s.sentAt = t} := by
    ext t
    simp only [Set.mem_ofPred_eq, hperm.mem_iff]
  exact ⟨hperm.length_eq ▸ h.count30d, hset ▸ h.latest⟩

/-- The row of sightings of one domain, in the order of their arrival, with no worker in between. -/
structure Folded (domain : String) (ss : List Sighting) (r : CommunicationHistory) : Prop where
  tallied : Tallied ss r
  count7d : r.count7d = ss.length
  first : ss.head?.map (·.sentAt) = some r.firstSeenAt
  senderDomain : r.senderDomain = domain

lemma Folded.single {domain : String} {s : Sighting} (hdomain : s.senderDomain = domain) (now : Instant) (id : UUID) :
    Folded domain [s] (CommTable.firstRow s now id) :=
  ⟨Tallied.first s now id, rfl, rfl, hdomain⟩

lemma Folded.append {domain : String} {ss : List Sighting} {r : CommunicationHistory} (h : Folded domain ss r)
    {s : Sighting} (hdomain : s.senderDomain = domain) (now : Instant) :
    Folded domain (ss ++ [s]) (r.retouch now (CommTable.sighted s)) := by
  refine ⟨(h.tallied.sighted s now).perm (List.perm_append_singleton s ss).symm, ?_, ?_, ?_⟩
  · show r.count7d + 1 = _
    rw [h.count7d, List.length_append, List.length_singleton, Nat.cast_succ]
  · -- the first sighting stays the first
    have hhead : (ss ++ [s]).head? = ss.head? := by
      cases ss with
      | nil => cases h.first
      | cons s' ss => rfl
    rw [hhead]
    exact h.first
  · show (if r.senderDomain = "" ∧ s.senderDomain ≠ "" then s.senderDomain else r.senderDomain) = domain
    rw [h.senderDomain, hdomain, ite_self]

/-- The row of a key after the sightings that were accepted; there is none without them. -/
def FoldedOf (domain : String) (ss : List Sighting) (row : Option CommunicationHistory) : Prop :=
  (ss = [] ∧ row = none) ∨ ∃ r, row = some r ∧ Folded domain ss r

lemma FoldedOf.append {domain : String} {ss : List Sighting} {row : Option CommunicationHistory}
    (h : FoldedOf domain ss row) {s : Sighting} (hdomain : s.senderDomain = domain) (now : Instant) (id : UUID) :
    FoldedOf domain (ss ++ [s]) (some (CommTable.upserted s now id row)) := by
  rcases h with ⟨rfl, rfl⟩ | ⟨r, rfl, hr⟩
  · exact Or.inr ⟨_, rfl, Folded.single hdomain now id⟩
  · exact Or.inr ⟨_, rfl, hr.append hdomain now⟩

/-! ### A list of calls -/

/-- A call of `RecordSighting`: the instant and the id that are taken for it. -/
structure SightingArrival where
  sighting : Sighting
  now : Instant
  id : UUID

/-- The sightings of a list of calls that are accepted. -/
def accepted (xs : List SightingArrival) : List Sighting := (xs.map (·.sighting)).filter (·.Valid)

lemma accepted_append (xs : List SightingArrival) (x : SightingArrival) :
    accepted (xs ++ [x]) = accepted xs ++ if x.sighting.Valid then [x.sighting] else [] := by
  rw [accepted, accepted, List.map_append, List.filter_append, List.map_singleton, List.filter_singleton]
  by_cases h : x.sighting.Valid
  · simp [h]
  · simp [h]

namespace CommTable

variable {T : CommTable}

lemma get_upserted {T' : CommTable} {s : Sighting} {now : Instant} {id : UUID}
    (h : T.recordSighting s now id = .ok T') (k : CommKey) :
    T'.get k = if k = s.key then some (upserted s now id (T.get k)) else T.get k := by
  rw [get_recordSighting h k]
  by_cases hk : k = s.key
  · rw [if_pos hk, if_pos hk]
    cases T.get k <;> rfl
  · rw [if_neg hk, if_neg hk]

lemma recordSighting_isOk (T : CommTable) (s : Sighting) (now : Instant) (id : UUID) :
    (∃ T', T.recordSighting s now id = .ok T') ↔ s.Valid := by
  unfold recordSighting Sighting.Valid
  split_ifs with h1 h2 h3 h4 <;> simp [*]

/-- The table after a call; one that fails changes nothing. -/
def recorded (T : CommTable) (x : SightingArrival) : CommTable :=
  match T.recordSighting x.sighting x.now x.id with
  | .ok T' => T'
  | .error _ => T

/-- One call after the other. -/
def recordAll (T : CommTable) (xs : List SightingArrival) : CommTable := xs.foldl recorded T

/-- What a call changes. -/
lemma get_recorded (T : CommTable) (x : SightingArrival) (k : CommKey) :
    (T.recorded x).get k = if x.sighting.Valid ∧ k = x.sighting.key then
        some (upserted x.sighting x.now x.id (T.get k))
      else T.get k := by
  have hok := recordSighting_isOk T x.sighting x.now x.id
  unfold recorded
  cases hrec : T.recordSighting x.sighting x.now x.id with
  | error e =>
    have hvalid : ¬x.sighting.Valid := by
      rw [← hok, hrec]
      rintro ⟨T', hT'⟩
      cases hT'
    rw [if_neg fun h => hvalid h.1]
  | ok T' =>
    have hvalid : x.sighting.Valid := hok.mp ⟨T', hrec⟩
    refine (get_upserted hrec k).trans ?_
    by_cases hk : k = x.sighting.key
    · rw [if_pos hk, if_pos ⟨hvalid, hk⟩]
    · rw [if_neg hk, if_neg fun h => hk h.2]

end CommTable

/-- **The row after any list of calls**: it is folded from the sightings that were accepted, in their order. -/
lemma folded_recordAll {T : CommTable} {k : CommKey} (hnew : T.get k = none) {domain : String}
    {xs : List SightingArrival} (hkey : ∀ x ∈ xs, x.sighting.key = k)
    (hdomain : ∀ x ∈ xs, x.sighting.senderDomain = domain) :
    FoldedOf domain (accepted xs) ((T.recordAll xs).get k) := by
  induction xs using List.reverseRecOn with
  | nil => exact Or.inl ⟨rfl, hnew⟩
  | append_singleton xs x ih =>
    have hx : x ∈ xs ++ [x] := List.mem_append_right _ (List.mem_singleton_self x)
    have hbefore := ih (fun y hy => hkey y (List.mem_append_left _ hy))
      fun y hy => hdomain y (List.mem_append_left _ hy)
    have hlast : T.recordAll (xs ++ [x]) = (T.recordAll xs).recorded x := List.foldl_append
    rw [hlast, CommTable.get_recorded, accepted_append, hkey x hx]
    by_cases hvalid : x.sighting.Valid
    · rw [if_pos hvalid, if_pos ⟨hvalid, rfl⟩]
      exact hbefore.append (hdomain x hx) x.now x.id
    · rw [if_neg hvalid, List.append_nil, if_neg fun h => hvalid h.1]
      exact hbefore

/-! ### Postgres -/

/-- A row of `communication_histories`; its `sender_domain` may be null. -/
structure PgHistory where
  id : String
  tenantID : String
  senderHash : Bytes
  recipientHash : Bytes
  senderDomainHash : Bytes
  senderDomain : Option String
  count7d : ℤ
  count30d : ℤ
  firstSeenAt : ℤ
  lastSeenAt : ℤ
  relationship : String
  typicalHour : ℤ
  updatedAt : ℤ
  deriving DecidableEq, Repr

namespace PgHistory

/-- The row as it is read: `COALESCE(sender_domain, '')`. -/
def view (r : PgHistory) : CommunicationHistory where
  id := r.id
  tenantID := r.tenantID
  senderHash := r.senderHash
  recipientHash := r.recipientHash
  senderDomainHash := r.senderDomainHash
  senderDomain := r.senderDomain.getD ""
  count7d := r.count7d
  count30d := r.count30d
  firstSeenAt := r.firstSeenAt
  lastSeenAt := r.lastSeenAt
  relationship := r.relationship
  typicalHour := r.typicalHour
  updatedAt := r.updatedAt

/-- The row of `VALUES`, which is `EXCLUDED` on a conflict. -/
def excluded (s : Sighting) (now : Instant) (newID : UUID) : PgHistory where
  id := newID.1
  tenantID := s.tenantID
  senderHash := s.senderHash
  recipientHash := s.recipientHash
  senderDomainHash := s.senderDomainHash
  senderDomain := if s.senderDomain ≠ "" then some s.senderDomain else none
  count7d := 1
  count30d := 1
  firstSeenAt := s.sentAt
  lastSeenAt := s.sentAt
  relationship := ""
  typicalHour := typicalHourUnset
  updatedAt := now.1

/-- `NULLIF(x, '')`. -/
def nullif (x : Option String) : Option String := if x = some "" then none else x

/-- `DO UPDATE SET`. -/
def onConflict (now : Instant) (e r : PgHistory) : PgHistory :=
  { r with
    count7d := r.count7d + 1
    count30d := r.count30d + 1
    lastSeenAt := max r.lastSeenAt e.lastSeenAt
    senderDomain := if (nullif r.senderDomain).getD "" = "" ∧ e.senderDomain ≠ none then e.senderDomain
      else r.senderDomain
    senderDomainHash := if r.senderDomainHash.length = 0 ∧ 0 < e.senderDomainHash.length then e.senderDomainHash
      else r.senderDomainHash
    updatedAt := now.1 }

lemma view_excluded (s : Sighting) (now : Instant) (newID : UUID) :
    (excluded s now newID).view = CommTable.firstRow s now newID := by
  have hdomain : (excluded s now newID).senderDomain.getD "" = s.senderDomain := by
    show (if s.senderDomain ≠ "" then some s.senderDomain else none).getD "" = s.senderDomain
    split_ifs with h
    · rfl
    · exact (not_not.mp h).symm
  rw [view, hdomain]
  rfl

lemma nullif_getD (x : Option String) : (nullif x).getD "" = x.getD "" := by
  unfold nullif
  split_ifs with h
  · rw [h]
    rfl
  · rfl

/-- On a conflict the statement writes what `RecordSighting` writes in memory. -/
lemma view_onConflict (s : Sighting) (now : Instant) (newID : UUID) (r : PgHistory) :
    (onConflict now (excluded s now newID) r).view = r.view.retouch now (CommTable.sighted s) := by
  have hdomain : (onConflict now (excluded s now newID) r).senderDomain.getD "" =
      if r.senderDomain.getD "" = "" ∧ s.senderDomain ≠ "" then s.senderDomain else r.senderDomain.getD "" := by
    show (if (nullif r.senderDomain).getD "" = "" ∧ (if s.senderDomain ≠ "" then some s.senderDomain else none) ≠ none
      then (if s.senderDomain ≠ "" then some s.senderDomain else none) else r.senderDomain).getD "" = _
    rw [nullif_getD]
    by_cases hs : s.senderDomain = ""
    · simp [hs]
    · by_cases hr : r.senderDomain.getD "" = ""
      · simp [hs, hr]
      · simp [hs, hr]
  have hhash : (onConflict now (excluded s now newID) r).senderDomainHash =
      if r.senderDomainHash = [] ∧ s.senderDomainHash ≠ [] then s.senderDomainHash else r.senderDomainHash := by
    show (if r.senderDomainHash.length = 0 ∧ 0 < s.senderDomainHash.length then s.senderDomainHash else _) = _
    simp only [List.length_eq_zero_iff, List.length_pos_iff]
  have hlast : (onConflict now (excluded s now newID) r).lastSeenAt =
      if r.lastSeenAt < s.sentAt then s.sentAt else r.lastSeenAt := max_def_lt _ _
  rw [view, hdomain, hhash, hlast]
  rfl

end PgHistory

/-- The table, with its unique index. -/
abbrev PgTable := CommKey → Option PgHistory

namespace PgTable

/-- `RecordSighting` of Postgres; a call that fails changes nothing. -/
def recorded (P : PgTable) (x : SightingArrival) : PgTable :=
  if x.sighting.Valid then
    Function.update P x.sighting.key (some (match P x.sighting.key with
      | some r => PgHistory.onConflict x.now (PgHistory.excluded x.sighting x.now x.id) r
      | none => PgHistory.excluded x.sighting x.now x.id))
  else P

def recordAll (P : PgTable) (xs : List SightingArrival) : PgTable := xs.foldl recorded P

/-- The two tables show the same rows. -/
def Shows (P : PgTable) (T : CommTable) : Prop := ∀ k, (P k).map PgHistory.view = T.get k

lemma Shows.recorded {P : PgTable} {T : CommTable} (h : P.Shows T) (x : SightingArrival) :
    (P.recorded x).Shows (T.recorded x) := by
  intro k
  rw [CommTable.get_recorded, PgTable.recorded]
  by_cases hvalid : x.sighting.Valid
  · rw [if_pos hvalid]
    by_cases hk : k = x.sighting.key
    · subst hk
      rw [if_pos ⟨hvalid, rfl⟩, Function.update_self, ← h x.sighting.key, Option.map_some]
      cases P x.sighting.key with
      | none => exact congrArg some (PgHistory.view_excluded _ _ _)
      | some r => exact congrArg some (PgHistory.view_onConflict _ _ _ r)
    · rw [if_neg fun hc => hk hc.2, Function.update_of_ne hk]
      exact h k
  · rw [if_neg hvalid, if_neg fun hc => hvalid hc.1]
    exact h k

/-- **The two backends agree** after any list of calls. -/
lemma Shows.recordAll {P : PgTable} {T : CommTable} (h : P.Shows T) (xs : List SightingArrival) :
    (P.recordAll xs).Shows (T.recordAll xs) := by
  induction xs generalizing P T with
  | nil => exact h
  | cons x xs ih => exact ih (h.recorded x)

end PgTable

/-! ### Two orders -/

/-- What does not depend on the order. -/
def CommunicationHistory.tally (r : CommunicationHistory) : ℤ × ℤ × ℤ × String :=
  (r.count7d, r.count30d, r.lastSeenAt, r.senderDomain)

/-- The rows of two orders: each is folded from its own, and they differ at most in `FirstSeenAt`. -/
structure SameFold (domain : String) (xs ys : List SightingArrival) (row row' : Option CommunicationHistory) :
    Prop where
  left : FoldedOf domain (accepted xs) row
  right : FoldedOf domain (accepted ys) row'
  same : row.map CommunicationHistory.tally = row'.map CommunicationHistory.tally

lemma Folded.tally_eq {domain : String} {ss ss' : List Sighting} {r r' : CommunicationHistory} (h : Folded domain ss r)
    (h' : Folded domain ss' r') (hperm : ss.Perm ss') : r.tally = r'.tally := by
  have hsame := h.tallied.perm hperm
  have hlast : r.lastSeenAt = r'.lastSeenAt := hsame.latest.unique h'.tallied.latest
  have hcount : r.count30d = r'.count30d := hsame.count30d.trans h'.tallied.count30d.symm
  have hcount7 : r.count7d = r'.count7d := by rw [h.count7d, h'.count7d, hperm.length_eq]
  rw [CommunicationHistory.tally, hcount7, hcount, hlast, h.senderDomain, ← h'.senderDomain]
  rfl

lemma SameFold.of_folded {domain : String} {xs ys : List SightingArrival} {row row' : Option CommunicationHistory}
    (hperm : (accepted xs).Perm (accepted ys)) (h : FoldedOf domain (accepted xs) row)
    (h' : FoldedOf domain (accepted ys) row') : SameFold domain xs ys row row' := by
  refine ⟨h, h', ?_⟩
  rcases h with ⟨hnil, rfl⟩ | ⟨r, rfl, hr⟩
  · rcases h' with ⟨-, rfl⟩ | ⟨r', rfl, hr'⟩
    · rfl
    · rw [hnil] at hperm
      have hfirst := hr'.first
      rw [hperm.nil_eq.symm] at hfirst
      cases hfirst
  · rcases h' with ⟨hnil, rfl⟩ | ⟨r', rfl, hr'⟩
    · rw [hnil] at hperm
      have hfirst := hr.first
      rw [hperm.eq_nil] at hfirst
      cases hfirst
    · exact congrArg some (hr.tally_eq hr' hperm)

/-- The sightings of one key with one domain leave the same counters, the same last instant and the same domain in every
order, in memory and in Postgres; the first instant is that of the sighting that came first. -/
theorem sighting_order {k : CommKey} {domain : String} {xs ys : List SightingArrival}
    (hperm : (xs.map (·.sighting)).Perm (ys.map (·.sighting))) (hkey : ∀ x ∈ xs, x.sighting.key = k)
    (hdomain : ∀ x ∈ xs, x.sighting.senderDomain = domain) {T : CommTable} (hnew : T.get k = none) {P : PgTable}
    (hshows : P.Shows T) :
    SameFold domain xs ys ((T.recordAll xs).get k) ((T.recordAll ys).get k) ∧
      SameFold domain xs ys ((P.recordAll xs k).map PgHistory.view) ((P.recordAll ys k).map PgHistory.view) := by
  have hacc : (accepted xs).Perm (accepted ys) := hperm.filter _
  have hys : ∀ y ∈ ys, y.sighting.key = k ∧ y.sighting.senderDomain = domain := by
    intro y hy
    have hmem : y.sighting ∈ xs.map (·.sighting) := hperm.mem_iff.mpr (List.mem_map_of_mem hy)
    obtain ⟨x, hx, hxy⟩ := List.mem_map.mp hmem
    rw [← hxy]
    exact ⟨hkey x hx, hdomain x hx⟩
  have hmemory := SameFold.of_folded hacc (folded_recordAll hnew hkey hdomain)
    (folded_recordAll hnew (fun y hy => (hys y hy).1) fun y hy => (hys y hy).2)
  refine ⟨hmemory, ?_⟩
  rw [hshows.recordAll xs k, hshows.recordAll ys k]
  exact hmemory

/-- A sighting of one pair. -/
def sightedAt (t : ℤ) : SightingArrival where
  sighting := { tenantID := "t", senderHash := [1], recipientHash := [2], senderDomain := "example.com", sentAt := t }
  now := default
  id := default

theorem sighting_order_swapped :
    SameFold "example.com" [sightedAt 5, sightedAt 3] [sightedAt 3, sightedAt 5]
      ((({} : CommTable).recordAll [sightedAt 5, sightedAt 3]).get ⟨"t", [1], [2]⟩)
      ((({} : CommTable).recordAll [sightedAt 3, sightedAt 5]).get ⟨"t", [1], [2]⟩) :=
  have hperm : ([sightedAt 5, sightedAt 3].map (·.sighting)).Perm ([sightedAt 3, sightedAt 5].map (·.sighting)) :=
    List.Perm.swap _ _ _
  (sighting_order hperm (by decide) (by decide) rfl (P := fun _ => none) fun _ => rfl).1

/-- The later of two sightings comes first: `FirstSeenAt` is not the earliest instant, and not that of the other
order. -/
theorem first_seen_depends_on_order :
    ((({} : CommTable).recordAll [sightedAt 5, sightedAt 3]).get ⟨"t", [1], [2]⟩).map (·.firstSeenAt) = some 5 ∧
      ((({} : CommTable).recordAll [sightedAt 3, sightedAt 5]).get ⟨"t", [1], [2]⟩).map (·.firstSeenAt) = some 3 := by
  decide

end Sn360Es.Relationship
