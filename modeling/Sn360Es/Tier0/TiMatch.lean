import Sn360Es.Intel.Store
import Sn360Es.Lib.Cut

/-!
# Threat-intel matches of a message (`internal/service/tier0/ti_match.go`)

The checker takes the domains of sender and recipient and the links of subject and body out of a message, and asks the
store for their hashes. The domains come first, those of the links too, then the links; and only the first
`MaxCandidates` of them are looked up. `mail.ParseAddress` is a parameter, like what the canonical forms rest on.

* `extractURLs` — the links of a text, by the pattern `https?://[^\s<>"'\)\]]+`;
* `extractCandidates`, `StoreTIChecker.check` — `ExtractCandidates`, `Check`;
* `extractURLs_append` — a delimiter separates the links before it from those after it;
* `mem_check` — a match is an answer for a candidate that is looked up;
* `padding_keeps` — which matches an extension of the body keeps.
-/

namespace Sn360Es.Tier0

open Lib Lib.NetUrl Lib.Utf8 Intel

/-! ### Links -/

/-- A byte that ends a link: white space and `<>"')]`. -/
def isStop (c : UInt8) : Bool := c ∈ [0x09, 0x0A, 0x0C, 0x0D, 0x20, 0x3C, 0x3E, 0x22, 0x27, 0x29, 0x5D]

/-- The white space of the pattern. -/
def isBlank (c : UInt8) : Bool := c ∈ [0x09, 0x0A, 0x0C, 0x0D, 0x20]

/-- A link that begins with the scheme `lead`, at the beginning of a text. -/
def linkAfter (lead s : Bytes) : Option Bytes :=
  if lead <+: s then
    let rest := (s.drop lead.length).takeWhile (!isStop ·)
    if rest = [] then none else some (lead ++ rest)
  else none

/-- The match of `urlBodyPattern` at the beginning of a text. -/
def linkAt (s : Bytes) : Option Bytes := (linkAfter (bytesOf "http://") s).or (linkAfter (bytesOf "https://") s)

/-- `FindAllString`; the next `skip` bytes belong to a match. -/
def findAll : ℕ → Bytes → List Bytes
  | _, [] => []
  | skip + 1, _ :: s => findAll skip s
  | 0, c :: s =>
    match linkAt (c :: s) with
    | some m => m :: findAll (m.length - 1) s
    | none => findAll 0 s

/-- `strings.TrimRight(m, ",.;:!?")`. -/
def trimPunctuation (m : Bytes) : Bytes := (m.reverse.dropWhile (· ∈ bytesOf ",.;:!?")).reverse

/-- `extractURLs`. -/
def extractURLs (s : Bytes) : List Bytes := ((findAll 0 s).map trimPunctuation).filter (· ≠ [])

/-! ### Candidates -/

/-- `IndicatorCandidate`. -/
structure IndicatorCandidate where
  typ : IndicatorType
  value : Bytes
deriving DecidableEq, Repr

/-- `typeRank`. -/
def typeRank : IndicatorType → ℕ
  | .domain => 0
  | .ip => 1
  | .url => 2
  | .sha256 => 3
  | .other _ => 99

/-- What `ExtractCandidates` reads of a request and of its signals. -/
structure TIRequest where
  sender : Bytes := []
  recipient : Bytes := []
  subject : Bytes := []
  body : Bytes := []
  senderDomain : Bytes := []
  recipientDomain : Bytes := []
deriving DecidableEq, Repr

/-- The text in which links are looked for. -/
def TIRequest.corpus (req : TIRequest) : Bytes := req.subject ++ bytesOf "\n" ++ req.body

/-- `push`. -/
def push (out : List IndicatorCandidate) (c : IndicatorCandidate) : List IndicatorCandidate :=
  if c.value = [] ∨ out.any (· = c) then out else out ++ [c]

/-- A `TICache`: the entry of a hash, if it is present. -/
abbrev TICache := Bytes → Option (List Intel.MatchedIndicator)

/-- `StoreTIChecker`, with a cache that may be empty. -/
structure StoreTIChecker where
  names : Names
  /-- `mail.ParseAddress`: the address. -/
  parseAddress : Bytes → Option Bytes
  maxCandidates : ℤ := 0

namespace StoreTIChecker

variable (t : StoreTIChecker)

/-- `domainFromAddress`. -/
def domainFromAddress (addr : Bytes) : Bytes :=
  if addr = [] then []
  else
    match (t.parseAddress addr).bind (cutLast 0x40) with
    | some (_, domain) => toLower t.names.lower domain
    | none =>
      match cutLast 0x40 addr with
      | some (_, domain) => toLower t.names.lower domain
      | none => toLower t.names.lower addr

/-- `hostFromURL`. -/
def hostFromURL (raw : Bytes) : Bytes :=
  match t.names.parseURL raw with
  | none => []
  | some u => if u.scheme = bytesOf "http" ∨ u.scheme = bytesOf "https" then toLower t.names.lower u.hostname else []

/-- The candidates of a link. -/
def linkCandidates (raw : Bytes) : List IndicatorCandidate := [⟨.url, raw⟩, ⟨.domain, t.hostFromURL raw⟩]

/-- What `ExtractCandidates` pushes, in this order. -/
def pushed (req : TIRequest) : List IndicatorCandidate :=
  [⟨.domain, if req.senderDomain = [] then t.domainFromAddress req.sender else req.senderDomain⟩,
    ⟨.domain, if req.recipientDomain = [] then t.domainFromAddress req.recipient else req.recipientDomain⟩] ++
    (extractURLs req.corpus).flatMap t.linkCandidates

/-- `ExtractCandidates`. -/
def extractCandidates (req : TIRequest) : List IndicatorCandidate :=
  sortBy (fun c => typeRank c.typ) ((t.pushed req).foldl push [])

/-- The cap on the candidates. -/
def limit : ℕ := if t.maxCandidates ≤ 0 then 32 else t.maxCandidates.toNat

/-- The candidates that are looked up. -/
def taken (req : TIRequest) : List IndicatorCandidate := (t.extractCandidates req).take t.limit

/-- The hashes of the candidates, each once. -/
def hashes (cands : List IndicatorCandidate) : List Bytes :=
  (cands.filterMap fun c => t.names.hashIndicator c.typ c.value).foldl
    (fun out h => if out.any (· = h) then out else out ++ [h]) []

variable {uuid : Bytes → Bool} (cache : TICache) (tables : IntelTables uuid)

/-- The hashes that the cache does not know. -/
def toQuery (cands : List IndicatorCandidate) : List Bytes := (t.hashes cands).filter fun h => (cache h).isNone

/-- `lookupCandidates`: the matches. -/
def lookupCandidates (cands : List IndicatorCandidate) : List Intel.MatchedIndicator :=
  (t.hashes cands).flatMap (fun h => (cache h).getD []) ++ tables.lookupByHash (t.toQuery cache cands)

/-- `Check`. -/
def check (req : TIRequest) : List Intel.MatchedIndicator := t.lookupCandidates cache tables (t.taken req)

end StoreTIChecker

/-! ### A delimiter separates the links -/

section Links

variable {s t lead m : Bytes} {c : UInt8}

lemma isStop_of_isBlank (h : isBlank c = true) : isStop c = true := by
  have hc : c ∈ [0x09, 0x0A, 0x0C, 0x0D, 0x20] := of_decide_eq_true h
  exact decide_eq_true (List.mem_append_left [0x3C, 0x3E, 0x22, 0x27, 0x29, 0x5D] hc)

lemma prefix_append_iff_of_stop (hlead : ∀ a ∈ lead, isStop a = false) (hc : isStop c = true) :
    lead <+: s ++ c :: t ↔ lead <+: s := by
  constructor
  · intro h
    rcases List.prefix_or_prefix_of_prefix h (List.prefix_append s (c :: t)) with h' | ⟨rest, rfl⟩
    · exact h'
    · rw [List.prefix_append_right_inj] at h
      cases rest with
      | nil => simp
      | cons a rest =>
        obtain ⟨rfl, -⟩ := List.cons_prefix_cons.mp h
        rw [hlead a (by simp)] at hc
        cases hc
  · intro h
    exact h.trans (List.prefix_append s _)

lemma takeWhile_append_stop (hc : isStop c = true) :
    (s ++ c :: t).takeWhile (!isStop ·) = s.takeWhile (!isStop ·) := by
  induction s with
  | nil => simp [hc]
  | cons a s ih =>
    rw [List.cons_append, List.takeWhile_cons, List.takeWhile_cons, ih]

lemma linkAfter_append (hlead : ∀ a ∈ lead, isStop a = false) (hc : isStop c = true) :
    linkAfter lead (s ++ c :: t) = linkAfter lead s := by
  unfold linkAfter
  by_cases h : lead <+: s
  · rw [if_pos ((prefix_append_iff_of_stop hlead hc).mpr h), if_pos h,
      List.drop_append_of_le_length h.length_le, takeWhile_append_stop hc]
  · rw [if_neg (mt (prefix_append_iff_of_stop hlead hc).mp h), if_neg h]

lemma linkAt_append (hc : isStop c = true) : linkAt (s ++ c :: t) = linkAt s := by
  unfold linkAt
  rw [linkAfter_append (by decide +kernel) hc, linkAfter_append (by decide +kernel) hc]

/-- A link lies inside the text. -/
lemma linkAfter_length (h : linkAfter lead s = some m) : m.length ≤ s.length := by
  unfold linkAfter at h
  split at h
  · next hlead =>
    dsimp only at h
    split at h
    · cases h
    · obtain rfl := Option.some.inj h
      have hdrop : ((s.drop lead.length).takeWhile (!isStop ·)).length ≤ (s.drop lead.length).length :=
        (List.takeWhile_prefix _).length_le
      have hle := hlead.length_le
      rw [List.length_drop] at hdrop
      rw [List.length_append]
      omega
  · cases h

lemma linkAt_length (h : linkAt s = some m) : m.length ≤ s.length := by
  unfold linkAt at h
  rcases Option.or_eq_some_iff.mp h with h | ⟨-, h⟩
  · exact linkAfter_length h
  · exact linkAfter_length h

lemma findAll_append (hc : isStop c = true) {skip : ℕ} (hskip : skip ≤ s.length) :
    findAll skip (s ++ c :: t) = findAll skip s ++ findAll 0 t := by
  induction s generalizing skip with
  | nil =>
    obtain rfl : skip = 0 := Nat.le_zero.mp hskip
    have hnone : linkAt (c :: t) = none := (linkAt_append (s := []) hc).trans (by decide +kernel)
    show findAll 0 (c :: t) = [] ++ findAll 0 t
    simp only [findAll, hnone, List.nil_append]
  | cons a s ih =>
    cases skip with
    | succ skip =>
      show findAll skip (s ++ c :: t) = findAll skip s ++ findAll 0 t
      exact ih (Nat.le_of_succ_le_succ hskip)
    | zero =>
      rw [List.cons_append]
      have hlink : linkAt (a :: (s ++ c :: t)) = linkAt (a :: s) := linkAt_append (s := a :: s) hc
      cases hm : linkAt (a :: s) with
      | none =>
        simp only [findAll, hlink, hm]
        exact ih (Nat.zero_le _)
      | some m =>
        have hlen : m.length ≤ s.length + 1 := linkAt_length hm
        simp only [findAll, hlink, hm, List.cons_append]
        rw [ih (by omega)]

/-- **A delimiter separates the links** before it from those after it. -/
lemma extractURLs_append (hc : isStop c = true) : extractURLs (s ++ c :: t) = extractURLs s ++ extractURLs t := by
  unfold extractURLs
  rw [findAll_append hc (Nat.zero_le _), List.map_append, List.filter_append]

/-- The text stands in a longer one, set off by bytes with `delim` or by its ends. -/
def SetOff (delim : UInt8 → Bool) (text whole : Bytes) : Prop :=
  ∃ lead tail, whole = lead ++ text ++ tail ∧ (∀ a ∈ lead.getLast?, delim a = true) ∧ ∀ a ∈ tail.head?, delim a = true

/-- The links of a text that is set off are links of the whole. -/
lemma SetOff.extractURLs_infix {delim : UInt8 → Bool} (hdelim : ∀ a, delim a = true → isStop a = true)
    (h : SetOff delim s t) : extractURLs s <:+: extractURLs t := by
  obtain ⟨lead, tail, rfl, hlead, htail⟩ := h
  have hafter : extractURLs s <+: extractURLs (s ++ tail) := by
    cases tail with
    | nil => simp
    | cons a tail =>
      rw [extractURLs_append (hdelim a (htail a rfl))]
      exact List.prefix_append _ _
  rcases List.eq_nil_or_concat lead with rfl | ⟨lead, a, rfl⟩
  · exact hafter.isInfix
  · have ha : isStop a = true := hdelim a (hlead a (by simp))
    have hsplit : lead.concat a ++ s ++ tail = lead ++ a :: (s ++ tail) := by simp
    rw [hsplit, extractURLs_append ha]
    exact hafter.isInfix.trans (List.suffix_append _ _).isInfix

end Links

/-! ### Candidates and answers -/

section Candidates

lemma mem_push {out : List IndicatorCandidate} {c x : IndicatorCandidate} :
    x ∈ push out c ↔ x ∈ out ∨ x = c ∧ c.value ≠ [] := by
  unfold push
  split
  · next h =>
    refine ⟨.inl, ?_⟩
    rintro (hx | ⟨rfl, hne⟩)
    · exact hx
    · rcases h with hnil | hany
      · exact absurd hnil hne
      · simpa using hany
  · next h =>
    rw [List.mem_append, List.mem_singleton]
    exact or_congr_right ⟨fun hx => ⟨hx, fun hnil => h (.inl hnil)⟩, And.left⟩

lemma mem_foldl_push {l out : List IndicatorCandidate} {x : IndicatorCandidate} :
    x ∈ l.foldl push out ↔ x ∈ out ∨ x ∈ l ∧ x.value ≠ [] := by
  induction l generalizing out with
  | nil => simp
  | cons c l ih =>
    rw [List.foldl_cons, ih, mem_push, List.mem_cons]
    constructor
    · rintro ((hx | ⟨rfl, hne⟩) | ⟨hx, hne⟩)
      · exact .inl hx
      · exact .inr ⟨.inl rfl, hne⟩
      · exact .inr ⟨.inr hx, hne⟩
    · rintro (hx | ⟨rfl | hx, hne⟩)
      · exact .inl (.inl hx)
      · exact .inl (.inr ⟨rfl, hne⟩)
      · exact .inr ⟨hx, hne⟩

namespace StoreTIChecker

variable {t : StoreTIChecker} {req : TIRequest} {c : IndicatorCandidate}

lemma mem_extractCandidates : c ∈ t.extractCandidates req ↔ c ∈ t.pushed req ∧ c.value ≠ [] := by
  unfold extractCandidates
  rw [mem_sortBy, mem_foldl_push]
  simp

lemma mem_pushed_of_link {raw : Bytes} (hraw : raw ∈ extractURLs req.corpus) (hc : c ∈ t.linkCandidates raw) :
    c ∈ t.pushed req := List.mem_append_right _ (List.mem_flatMap.mpr ⟨raw, hraw, hc⟩)

/-- The domains among the candidates, in the order in which they were pushed; and the links. -/
def domains (t : StoreTIChecker) (req : TIRequest) : List IndicatorCandidate :=
  ((t.pushed req).foldl push []).filter fun c => typeRank c.typ = 0

def links (t : StoreTIChecker) (req : TIRequest) : List IndicatorCandidate :=
  ((t.pushed req).foldl push []).filter fun c => typeRank c.typ = 2

lemma typeRank_pushed (hc : c ∈ t.pushed req) : typeRank c.typ = 0 ∨ typeRank c.typ = 2 := by
  rcases List.mem_append.mp hc with hc | hc
  · rcases List.mem_cons.mp hc with rfl | hc
    · exact .inl rfl
    · rw [List.mem_singleton.mp hc]
      exact .inl rfl
  · obtain ⟨raw, -, hc⟩ := List.mem_flatMap.mp hc
    rcases List.mem_cons.mp hc with rfl | hc
    · exact .inr rfl
    · rw [List.mem_singleton.mp hc]
      exact .inl rfl

/-- **The order of the candidates**: the domains before the links. -/
lemma extractCandidates_eq (t : StoreTIChecker) (req : TIRequest) :
    t.extractCandidates req = t.domains req ++ t.links req := by
  refine sortBy_eq_append (by decide) fun c hc => ?_
  obtain hc | ⟨hc, -⟩ := mem_foldl_push.mp hc
  · cases hc
  · exact typeRank_pushed hc

/-- The place of a candidate: that among the domains, or that among the links, after all domains. -/
def place (t : StoreTIChecker) (req : TIRequest) (c : IndicatorCandidate) : ℕ :=
  if typeRank c.typ = 0 then (t.domains req).idxOf c else (t.domains req).length + (t.links req).idxOf c

lemma idxOf_extractCandidates (hc : c ∈ t.extractCandidates req) : (t.extractCandidates req).idxOf c = t.place req c := by
  unfold place
  rw [extractCandidates_eq] at hc ⊢
  by_cases hrank : typeRank c.typ = 0
  · rw [if_pos hrank]
    refine List.idxOf_append_of_mem ?_
    rcases List.mem_append.mp hc with hc | hc
    · exact hc
    · have htwo : typeRank c.typ = 2 := by simpa using (List.mem_filter.mp hc).2
      omega
  · rw [if_neg hrank]
    refine List.idxOf_append_of_notMem fun hmem => hrank ?_
    simpa using (List.mem_filter.mp hmem).2

/-- A candidate is looked up exactly if its place is below the cap. -/
lemma mem_taken : c ∈ t.taken req ↔ c ∈ t.extractCandidates req ∧ t.place req c < t.limit := by
  unfold taken
  constructor
  · intro h
    have hc := List.mem_of_mem_take h
    rw [← idxOf_extractCandidates hc]
    exact ⟨hc, (List.mem_take_iff_idxOf_lt hc).mp h⟩
  · rintro ⟨hc, hplace⟩
    rw [← idxOf_extractCandidates hc] at hplace
    exact (List.mem_take_iff_idxOf_lt hc).mpr hplace

private lemma mem_distinct {hs out : List Bytes} {h : Bytes} :
    h ∈ hs.foldl (fun out h => if out.any (· = h) then out else out ++ [h]) out ↔ h ∈ out ∨ h ∈ hs := by
  induction hs generalizing out with
  | nil => simp
  | cons x hs ih =>
    rw [List.foldl_cons, ih, List.mem_cons]
    split
    · next hany =>
      have hy : x ∈ out := by simpa using hany
      constructor
      · rintro (h | h)
        · exact .inl h
        · exact .inr (.inr h)
      · rintro (h | rfl | h)
        · exact .inl h
        · exact .inl hy
        · exact .inr h
    · rw [List.mem_append, List.mem_singleton, or_assoc]

lemma mem_hashes {cands : List IndicatorCandidate} {h : Bytes} :
    h ∈ t.hashes cands ↔ ∃ c ∈ cands, t.names.hashIndicator c.typ c.value = some h := by
  unfold hashes
  rw [mem_distinct]
  simp

variable {uuid : Bytes → Bool} {cache : TICache} {tables : IntelTables uuid} {m : Intel.MatchedIndicator}

/-- The answer for a candidate: the entry of the cache for its hash, or the rows with the hash. -/
def answer (t : StoreTIChecker) (cache : TICache) (tables : IntelTables uuid) (c : IndicatorCandidate) :
    List Intel.MatchedIndicator :=
  match t.names.hashIndicator c.typ c.value with
  | none => []
  | some h => (cache h).getD (tables.joined.filter fun m => m.hash = h)

lemma mem_answer {h : Bytes} (hh : t.names.hashIndicator c.typ c.value = some h) :
    m ∈ t.answer cache tables c ↔ m ∈ (cache h).getD (tables.joined.filter fun m => m.hash = h) := by
  unfold answer
  rw [hh]

lemma mem_lookupCandidates {cands : List IndicatorCandidate} :
    m ∈ t.lookupCandidates cache tables cands ↔ ∃ c ∈ cands, m ∈ t.answer cache tables c := by
  have hsome : ∀ c, m ∈ t.answer cache tables c → ∃ h, t.names.hashIndicator c.typ c.value = some h := by
    intro c hm
    unfold answer at hm
    cases hh : t.names.hashIndicator c.typ c.value with
    | none =>
      rw [hh] at hm
      cases hm
    | some h => exact ⟨h, rfl⟩
  unfold lookupCandidates
  rw [List.mem_append]
  constructor
  · rintro (hm | hm)
    · obtain ⟨h, hmem, hm⟩ := List.mem_flatMap.mp hm
      obtain ⟨c, hc, hh⟩ := mem_hashes.mp hmem
      refine ⟨c, hc, (mem_answer hh).mpr ?_⟩
      cases hcache : cache h with
      | none =>
        rw [hcache] at hm
        cases hm
      | some ms =>
        rw [hcache] at hm
        exact hm
    · obtain ⟨hjoined, hany⟩ := List.mem_filter.mp hm
      obtain ⟨h, hquery, rfl⟩ : ∃ h ∈ t.toQuery cache cands, h = m.hash := by simpa using hany
      obtain ⟨hmem, hnone⟩ := List.mem_filter.mp hquery
      obtain ⟨c, hc, hh⟩ := mem_hashes.mp hmem
      refine ⟨c, hc, (mem_answer hh).mpr ?_⟩
      rw [Option.isNone_iff_eq_none.mp hnone]
      exact List.mem_filter.mpr ⟨hjoined, by simp⟩
  · rintro ⟨c, hc, hm⟩
    obtain ⟨h, hh⟩ := hsome c hm
    have hmem : h ∈ t.hashes cands := mem_hashes.mpr ⟨c, hc, hh⟩
    rw [mem_answer hh] at hm
    cases hcache : cache h with
    | some ms =>
      rw [hcache] at hm
      refine .inl (List.mem_flatMap.mpr ⟨h, hmem, ?_⟩)
      rw [hcache]
      exact hm
    | none =>
      rw [hcache] at hm
      obtain ⟨hjoined, hhash⟩ := List.mem_filter.mp hm
      refine .inr (List.mem_filter.mpr ⟨hjoined, List.any_eq_true.mpr ⟨h, ?_, ?_⟩⟩)
      · exact List.mem_filter.mpr ⟨hmem, by simp [hcache]⟩
      · simpa [eq_comm] using hhash

/-- **A match** is an answer for a candidate below the cap. -/
lemma mem_check : m ∈ t.check cache tables req ↔
    ∃ c ∈ t.extractCandidates req, t.place req c < t.limit ∧ m ∈ t.answer cache tables c := by
  unfold check
  rw [mem_lookupCandidates]
  simp only [mem_taken, and_assoc]

end StoreTIChecker

end Candidates

/-! ### Padding -/

/-- The message with another body. -/
def TIRequest.withBody (req : TIRequest) (body : Bytes) : TIRequest := { req with body := body }

lemma TIRequest.extractURLs_corpus (req : TIRequest) :
    extractURLs req.corpus = extractURLs req.subject ++ extractURLs req.body := by
  unfold TIRequest.corpus
  rw [List.append_assoc]
  exact extractURLs_append (c := 0x0A) (by decide)

section Padding

namespace StoreTIChecker

variable {t : StoreTIChecker} {req : TIRequest} {uuid : Bytes → Bool} {cache : TICache} {tables : IntelTables uuid}
  {body : Bytes} {c : IndicatorCandidate}

/-- What is pushed for a body is pushed for one in which it is set off. -/
lemma mem_pushed_withBody {delim : UInt8 → Bool} (hdelim : ∀ a, delim a = true → isStop a = true)
    (h : SetOff delim req.body body) (hc : c ∈ t.pushed req) : c ∈ t.pushed (req.withBody body) := by
  rcases List.mem_append.mp hc with hc | hc
  · exact List.mem_append_left _ hc
  · obtain ⟨raw, hraw, hc⟩ := List.mem_flatMap.mp hc
    refine mem_pushed_of_link ?_ hc
    rw [TIRequest.extractURLs_corpus] at hraw ⊢
    rcases List.mem_append.mp hraw with hraw | hraw
    · exact List.mem_append_left _ hraw
    · exact List.mem_append_right _ ((h.extractURLs_infix hdelim).subset hraw)

lemma mem_extractCandidates_withBody (h : SetOff isStop req.body body) (hc : c ∈ t.extractCandidates req) :
    c ∈ t.extractCandidates (req.withBody body) := by
  obtain ⟨hpushed, hne⟩ := mem_extractCandidates.mp hc
  exact mem_extractCandidates.mpr ⟨mem_pushed_withBody (fun _ => id) h hpushed, hne⟩

/-- Below the cap there are as many places as candidates. -/
lemma place_lt (hc : c ∈ t.extractCandidates req) : t.place req c < (t.extractCandidates req).length := by
  rw [← idxOf_extractCandidates hc]
  exact List.idxOf_lt_length_of_mem hc

/-- Every match of the message is one of the other. -/
def Kept (t : StoreTIChecker) (cache : TICache) (tables : IntelTables uuid) (req req' : TIRequest) : Prop :=
  ∀ m ∈ t.check cache tables req, m ∈ t.check cache tables req'

/-- **Padding.** Further text and links, set off from the body, keep the matches of every candidate whose place stays
below the cap; all of them, if the candidates are not more than the cap. -/
theorem padding_keeps (h : SetOff isStop req.body body) :
    ((t.domains (req.withBody body)).length + (t.links (req.withBody body)).length ≤ t.limit →
      t.Kept cache tables req (req.withBody body)) ∧
    ∀ c ∈ t.extractCandidates req, t.place (req.withBody body) c < t.limit →
      ∀ m ∈ t.answer cache tables c, m ∈ t.check cache tables (req.withBody body) := by
  have hplace : ∀ c ∈ t.extractCandidates req, t.place (req.withBody body) c < t.limit →
      ∀ m ∈ t.answer cache tables c, m ∈ t.check cache tables (req.withBody body) := by
    intro c hc hlt m hm
    exact mem_check.mpr ⟨c, mem_extractCandidates_withBody h hc, hlt, hm⟩
  refine ⟨fun hcount m hm => ?_, hplace⟩
  obtain ⟨c, hc, -, hm⟩ := mem_check.mp hm
  have hlt : t.place (req.withBody body) c < (t.extractCandidates (req.withBody body)).length :=
    place_lt (mem_extractCandidates_withBody h hc)
  rw [extractCandidates_eq, List.length_append] at hlt
  exact hplace c hc (by omega) m hm

end StoreTIChecker

end Padding

namespace Sample

/-- A store that lists `http://bad.test/x`. -/
def tables : IntelTables Intel.Sample.postgres.uuid where
  feeds := Intel.Sample.tables.feeds
  rows :=
    [{ hash := Sha256.sum256 (bytesOf "http://bad.test/x")
       indicator := bytesOf "http://bad.test/x"
       typ := .url
       feedID := Intel.Sample.feedID
       lastSeen := 1000
       severity := 80
       tags := [bytesOf "malware_download"] }]
  keys := List.nodup_singleton _
  owned := by decide +kernel
  uuids := Intel.Sample.tables.uuids

def checker (maxCandidates : ℤ) : StoreTIChecker where
  names := Intel.Sample.names
  parseAddress addr := some addr
  maxCandidates := maxCandidates

def message (body : String) : TIRequest where
  senderDomain := bytesOf "a.test"
  recipientDomain := bytesOf "b.test"
  body := bytesOf body

end Sample

/-- With a cap of six there is room for one more link. -/
theorem padding_keeps_below_cap :
    ((Sample.checker 6).check (fun _ => none) Sample.tables (Sample.message "http://bad.test/x")).length = 1 ∧
    (Sample.checker 6).Kept (fun _ => none) Sample.tables (Sample.message "http://bad.test/x")
      ((Sample.message "http://bad.test/x").withBody (bytesOf "http://bad.test/x http://pad.test/")) := by
  refine ⟨?_, (StoreTIChecker.padding_keeps ⟨[], bytesOf " http://pad.test/", ?_, ?_, ?_⟩).1 ?_⟩
  · decide +kernel
  · decide +kernel
  · decide +kernel
  · decide +kernel
  · decide +kernel

/-- With a cap of four, a second link hides the first; and so does a letter that is appended to it. -/
theorem padding_hides :
    let t := Sample.checker 4
    let req := Sample.message "http://bad.test/x"
    let padded := req.withBody (bytesOf "http://bad.test/x http://pad.test/")
    let appended := req.withBody (bytesOf "http://bad.test/xy")
    ((extractURLs req.body).length = 1 ∧ (extractURLs padded.body).length = 2 ∧ (extractURLs appended.body).length = 1) ∧
    (t.check (fun _ => none) Sample.tables req).length = 1 ∧
    t.check (fun _ => none) Sample.tables padded = [] ∧
    t.check (fun _ => none) Sample.tables appended = [] := by
  decide +kernel

end Sn360Es.Tier0
