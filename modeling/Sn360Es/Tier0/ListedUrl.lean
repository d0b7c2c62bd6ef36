import Mathlib.Data.List.TakeWhile
import Sn360Es.Tier0.TiMatch

/-!
# Listed URLs in messages (`internal/service/tier0/ti_match.go`, `pkg/intel/intel.go`)

A feed lists a URL, and the store keeps the hash of its canonical form. A message that contains the URL goes through the
pattern and the trimming of `extractURLs` first, and what they leave of it is hashed.

* `AlwaysCaught` — every message with the URL between white space, below the cap, has a match;
* `Caught` — the URL has a canonical form, and so has one of the links that `extractURLs` takes out of the URL itself,
  or its host, with the same hash;
* `listed_caught_iff` — the two are the same;
* `caught_iff_of_plain` — a URL in lower case that the pattern takes as a whole only needs a canonical form.
-/

namespace Sn360Es.Tier0

open Lib Lib.NetUrl Intel

/-- What the cache holds is what the store answers. -/
def Current {uuid : Bytes → Bool} (cache : TICache) (tables : IntelTables uuid) : Prop :=
  ∀ h ms, cache h = some ms → ms = tables.joined.filter fun m => m.hash = h

/-- The store holds what a feed with the URL gives, if the URL has a canonical form. -/
def HoldsURL {uuid : Bytes → Bool} (names : Names) (tables : IntelTables uuid) (v : Bytes) : Prop :=
  ∀ h, names.hashIndicator .url v = some h → ∃ r ∈ tables.rows, r.hash = h

/-- A URL of the feeds: `url.Parse` accepts it, and it has a scheme of the web and a host. -/
def WebURL (names : Names) (v : Bytes) : Prop :=
  ∃ u, names.parseURL v = some u ∧ (u.scheme = bytesOf "http" ∨ u.scheme = bytesOf "https") ∧ u.host ≠ []

namespace StoreTIChecker

/-- **Listed, so caught**: every message whose body contains the URL between white space, with fewer candidates than the
cap, has a match over every store that holds it. -/
def AlwaysCaught (t : StoreTIChecker) (v : Bytes) : Prop :=
  ∀ (maxCandidates : ℤ) (uuid : Bytes → Bool) (tables : IntelTables uuid) (cache : TICache) (req : TIRequest),
    HoldsURL t.names tables v → Current cache tables → SetOff isBlank v req.body →
    let t' := { t with maxCandidates := maxCandidates }
    (t'.extractCandidates req).length < t'.limit → t'.check cache tables req ≠ []

/-- A candidate of the URL itself has its hash. -/
def Caught (t : StoreTIChecker) (v : Bytes) : Prop :=
  ∃ h, t.names.hashIndicator .url v = some h ∧
    ∃ raw ∈ extractURLs v, ∃ c ∈ t.linkCandidates raw, c.value ≠ [] ∧ t.names.hashIndicator c.typ c.value = some h

variable {t : StoreTIChecker} {v : Bytes}

/-! ### Caught URLs are always caught -/

lemma exists_mem_joined {uuid : Bytes → Bool} {tables : IntelTables uuid} {r : IntelRow} (hr : r ∈ tables.rows) :
    ∃ m ∈ tables.joined, m.hash = r.hash := by
  have howned : ∃ f ∈ tables.feeds, decide (f.id = r.feedID) = true := List.any_eq_true.mp (tables.owned r hr)
  obtain ⟨f, hf⟩ := Option.isSome_iff_exists.mp (List.find?_isSome.mpr howned)
  refine ⟨r.matched f, List.mem_filterMap.mpr ⟨r, hr, ?_⟩, rfl⟩
  rw [hf]
  rfl

lemma Caught.always (h : t.Caught v) : t.AlwaysCaught v := by
  intro maxCandidates uuid tables cache req hholds hcurrent hset t' hcount
  obtain ⟨hash, hv, raw, hraw, c, hc, hne, hhash⟩ := h
  obtain ⟨r, hr, rfl⟩ := hholds hash hv
  obtain ⟨m, hm, hmr⟩ := exists_mem_joined hr
  have hlink : raw ∈ extractURLs req.corpus := by
    rw [TIRequest.extractURLs_corpus]
    exact List.mem_append_right _ ((hset.extractURLs_infix fun _ => isStop_of_isBlank).subset hraw)
  have hcand : c ∈ t'.extractCandidates req := mem_extractCandidates.mpr ⟨mem_pushed_of_link hlink hc, hne⟩
  have hplace : t'.place req c < t'.limit := (place_lt hcand).trans hcount
  have hrow : m ∈ tables.joined.filter fun m => m.hash = r.hash := List.mem_filter.mpr ⟨hm, by simp [hmr]⟩
  have hanswer : m ∈ t'.answer cache tables c := by
    refine (mem_answer hhash).mpr ?_
    cases hcache : cache r.hash with
    | none => exact hrow
    | some ms =>
      rw [hcurrent r.hash ms hcache]
      exact hrow
  exact List.ne_nil_of_mem (mem_check.mpr ⟨c, hcand, hplace, hanswer⟩)

/-! ### The message that is only the URL -/

/-- The row of the URL. -/
def urlRow (v h : Bytes) : IntelRow where
  hash := h
  indicator := v
  typ := .url
  feedID := []
  lastSeen := 0
  severity := 0
  tags := []

lemma mem_urlRow {names : Names} {r : IntelRow} :
    r ∈ ((names.hashIndicator .url v).map (urlRow v)).toList ↔
      ∃ h, names.hashIndicator .url v = some h ∧ urlRow v h = r := by
  rw [Option.mem_toList, Option.map_eq_some_iff]

/-- The feed that lists the URL, and nothing else. -/
def onlyURL (names : Names) (v : Bytes) : IntelTables fun _ => true where
  feeds := [⟨[], []⟩]
  rows := ((names.hashIndicator .url v).map (urlRow v)).toList
  keys := by
    cases names.hashIndicator .url v with
    | none => exact List.nodup_nil
    | some h => exact List.nodup_singleton _
  owned := by
    intro r hr
    obtain ⟨h, -, rfl⟩ := mem_urlRow.mp hr
    rfl
  uuids := fun _ _ => rfl

lemma mem_onlyURL {names : Names} {m : Intel.MatchedIndicator} (hm : m ∈ (onlyURL names v).joined) :
    names.hashIndicator .url v = some m.hash := by
  obtain ⟨r, hr, hmr⟩ := List.mem_filterMap.mp hm
  obtain ⟨f, -, rfl⟩ := Option.map_eq_some_iff.mp hmr
  obtain ⟨h, hv, rfl⟩ := mem_urlRow.mp hr
  exact hv

/-- Nothing but the links of the URL is a candidate then. -/
lemma mem_extractCandidates_bare {c : IndicatorCandidate} (hc : c ∈ t.extractCandidates { body := v }) :
    ∃ raw ∈ extractURLs v, c ∈ t.linkCandidates raw ∧ c.value ≠ [] := by
  obtain ⟨hpushed, hne⟩ := mem_extractCandidates.mp hc
  rcases List.mem_append.mp hpushed with hdom | hlink
  · -- the domains of no sender and no recipient are empty
    have hnil : t.domainFromAddress [] = [] := if_pos rfl
    rcases List.mem_cons.mp hdom with rfl | hdom
    · exact absurd hnil hne
    · rw [List.mem_singleton.mp hdom] at hne
      exact absurd hnil hne
  · obtain ⟨raw, hraw, hc⟩ := List.mem_flatMap.mp hlink
    rw [TIRequest.extractURLs_corpus] at hraw
    exact ⟨raw, hraw, hc, hne⟩

lemma AlwaysCaught.caught (h : t.AlwaysCaught v) : t.Caught v := by
  have hholds : HoldsURL t.names (onlyURL t.names v) v := by
    intro hash hv
    exact ⟨urlRow v hash, mem_urlRow.mpr ⟨hash, hv, rfl⟩, rfl⟩
  have hset : SetOff isBlank v v := ⟨[], [], by simp, by simp, by simp⟩
  -- the cap has room for every candidate
  let n := (t.extractCandidates { body := v }).length
  have hlimit : ({ t with maxCandidates := n + 1 } : StoreTIChecker).limit = n + 1 := by
    unfold limit
    split
    · next hle =>
      have hle : (n : ℤ) + 1 ≤ 0 := hle
      omega
    · show ((n : ℤ) + 1).toNat = n + 1
      omega
  have hne := h (n + 1) _ (onlyURL t.names v) (fun _ => none) { body := v } hholds (fun _ _ hnone => by cases hnone) hset
    (by
      rw [hlimit]
      exact Nat.lt_succ_self n)
  obtain ⟨m, hm⟩ := List.exists_mem_of_ne_nil _ hne
  obtain ⟨c, hc, -, hm⟩ := mem_check.mp hm
  obtain ⟨raw, hraw, hcand, hval⟩ := mem_extractCandidates_bare hc
  unfold answer at hm
  cases hhash : t.names.hashIndicator c.typ c.value with
  | none =>
    rw [hhash] at hm
    cases hm
  | some hash =>
    rw [hhash] at hm
    obtain ⟨hjoined, hmh⟩ := List.mem_filter.mp hm
    obtain rfl : m.hash = hash := of_decide_eq_true hmh
    exact ⟨m.hash, mem_onlyURL hjoined, raw, hraw, c, hcand, hval, hhash⟩

end StoreTIChecker

/-! ### Plain URLs -/

/-- The pattern takes the text as a whole, and nothing is trimmed. -/
def Plain (v : Bytes) : Prop :=
  ∃ lead rest, (lead = bytesOf "http://" ∨ lead = bytesOf "https://") ∧ rest ≠ [] ∧ v = lead ++ rest ∧
    (∀ a ∈ rest, isStop a = false) ∧ ∀ a ∈ rest.getLast?, a ∉ bytesOf ",.;:!?"

lemma findAll_eq_nil {skip : ℕ} {s : Bytes} (h : s.length ≤ skip) : findAll skip s = [] := by
  induction s generalizing skip with
  | nil => rw [findAll]
  | cons a s ih =>
    cases skip with
    | zero => exact absurd h (by simp)
    | succ skip => exact ih (Nat.le_of_succ_le_succ h)

lemma Plain.linkAt_eq {v : Bytes} (h : Plain v) : linkAt v = some v := by
  obtain ⟨lead, rest, hlead, hne, rfl, hstop, -⟩ := h
  have hwhole : linkAfter lead (lead ++ rest) = some (lead ++ rest) := by
    have htake : rest.takeWhile (!isStop ·) = rest := List.takeWhile_eq_self_iff.mpr fun a ha => by simp [hstop a ha]
    unfold linkAfter
    rw [if_pos (List.prefix_append _ _), List.drop_left, htake]
    exact if_neg hne
  unfold linkAt
  rcases hlead with rfl | rfl
  · rw [hwhole]
    rfl
  · -- the fifth letter tells the schemes apart
    have hother : linkAfter (bytesOf "http://") (bytesOf "https://" ++ rest) = none := by
      refine if_neg fun hpre => ?_
      have hletter := (List.prefix_iff_getElem?.mp hpre) 4 (by decide +kernel)
      have hs : (bytesOf "https://" ++ rest)[4]? = some 0x73 := rfl
      rw [hs] at hletter
      exact absurd hletter (by decide +kernel)
    rw [hother, hwhole]
    rfl

lemma Plain.extractURLs_eq {v : Bytes} (h : Plain v) : extractURLs v = [v] := by
  have hlink := h.linkAt_eq
  obtain ⟨lead, rest, hlead, hne, rfl, -, hlast⟩ := h
  have hfind : findAll 0 (lead ++ rest) = [lead ++ rest] := by
    cases hv : lead ++ rest with
    | nil =>
      rw [hv] at hlink
      exact absurd hlink (by decide +kernel)
    | cons a s =>
      rw [hv] at hlink
      simp only [findAll, hlink]
      rw [findAll_eq_nil (by simp)]
  have htrim : trimPunctuation (lead ++ rest) = lead ++ rest := by
    unfold trimPunctuation
    rcases List.eq_nil_or_concat rest with rfl | ⟨front, a, rfl⟩
    · exact absurd rfl hne
    · have ha : a ∉ bytesOf ",.;:!?" := hlast a (by simp)
      simp [ha]
  unfold extractURLs
  rw [hfind, List.map_cons, htrim]
  simp [hne]

/-- A plain URL is caught if it has a canonical form. -/
lemma caught_iff_of_plain {t : StoreTIChecker} {v : Bytes} (h : Plain v) :
    t.Caught v ↔ ∃ hash, t.names.hashIndicator .url v = some hash := by
  constructor
  · rintro ⟨hash, hv, -⟩
    exact ⟨hash, hv⟩
  · rintro ⟨hash, hv⟩
    have hraw : v ∈ extractURLs v := by
      rw [h.extractURLs_eq]
      exact List.mem_singleton.mpr rfl
    have hne : v ≠ [] := by
      obtain ⟨lead, rest, -, hne, rfl, -⟩ := h
      exact List.append_ne_nil_of_right_ne_nil lead hne
    exact ⟨hash, hv, v, hraw, ⟨.url, v⟩, List.mem_cons_self, hne, hv⟩

/-- **Listed URLs** are caught in every message exactly if they are caught in themselves; a plain one, exactly if it has
a canonical form. -/
theorem listed_caught_iff (t : StoreTIChecker) (v : Bytes) :
    (t.AlwaysCaught v ↔ t.Caught v) ∧
      (Plain v → (t.AlwaysCaught v ↔ ∃ hash, t.names.hashIndicator .url v = some hash)) := by
  have hiff : t.AlwaysCaught v ↔ t.Caught v := ⟨fun h => h.caught, fun h => h.always⟩
  exact ⟨hiff, fun hplain => hiff.trans (caught_iff_of_plain hplain)⟩

theorem lower_case_caught : (Sample.checker 32).AlwaysCaught (bytesOf "http://evil.test/x") := by
  have hplain : Plain (bytesOf "http://evil.test/x") :=
    ⟨bytesOf "http://", bytesOf "evil.test/x", .inl rfl, by decide +kernel, by decide +kernel, by decide +kernel,
      by decide +kernel⟩
  refine ((listed_caught_iff _ _).2 hplain).mpr (Option.isSome_iff_exists.mp ?_)
  decide +kernel

/-- `HTTP://evil.test/x` is listed and has a canonical form, but the pattern does not see it. -/
theorem upper_case_missed :
    WebURL Intel.Sample.names (bytesOf "HTTP://evil.test/x") ∧
    (Intel.Sample.names.hashIndicator .url (bytesOf "HTTP://evil.test/x")).isSome = true ∧
    (Sample.checker 32).check (fun _ => none) (StoreTIChecker.onlyURL Intel.Sample.names (bytesOf "HTTP://evil.test/x"))
      (Sample.message "see HTTP://evil.test/x now") = [] ∧
    ¬ (Sample.checker 32).AlwaysCaught (bytesOf "HTTP://evil.test/x") := by
  have hnone : extractURLs (bytesOf "HTTP://evil.test/x") = [] := by decide +kernel
  refine ⟨?_, by decide +kernel, by decide +kernel, fun h => ?_⟩
  · refine ⟨(Intel.Sample.names.parseURL (bytesOf "HTTP://evil.test/x")).getD {}, ?_, ?_, ?_⟩
    · decide +kernel
    · decide +kernel
    · decide +kernel
  · obtain ⟨hash, -, raw, hraw, -⟩ := h.caught
    rw [hnone] at hraw
    cases hraw

end Sn360Es.Tier0
