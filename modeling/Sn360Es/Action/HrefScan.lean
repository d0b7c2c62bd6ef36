import Mathlib.Data.List.TakeWhile
import Sn360Es.Action.UrlRewriter

/-!
# The scan of `hrefPattern`

A match of `hrefPattern` is an opening, a value and the closing quote (`Href`), and it is found wherever its bytes stand
(`matchHref_eq_some_iff`). `ReplaceAllStringFunc` puts new attributes in the place of the matches; as long as a new one
brings no quote that the old one did not have, a second scan finds exactly the new ones (`segments_of_related`).

* `segments_of_related` — the scan after the replacement;
* `matchHref_drop_join` — where no opening stands inside an attribute, there are no matches but those of the scan.
-/

namespace Sn360Es.Action

open Lib

/-- `href`, the equals sign and the quote, with the white space between. -/
structure Opening where
  name : Bytes
  before : Bytes
  after : Bytes
  quote : UInt8
  name_eq : name.map lowerByte = [0x68, 0x72, 0x65, 0x66]
  before_space : ∀ b ∈ before, isSpaceByte b = true
  after_space : ∀ b ∈ after, isSpaceByte b = true
  quote_eq : quote = 0x22 ∨ quote = 0x27

/-- A quoted attribute. -/
structure Href extends Opening where
  value : Bytes
  value_ne : value ≠ []
  quote_notMem : quote ∉ value

def Opening.bytes (o : Opening) : Bytes := o.name ++ (o.before ++ 0x3D :: (o.after ++ [o.quote]))

def Href.bytes (p : Href) : Bytes := p.toOpening.bytes ++ (p.value ++ [p.quote])

namespace Opening

variable (o : Opening)

lemma length_name : o.name.length = 4 := by
  have h := congrArg List.length o.name_eq
  simpa using h

lemma isSpaceByte_quote : isSpaceByte o.quote = false := by
  rcases o.quote_eq with h | h <;> rw [h] <;> decide

end Opening

lemma takeWhile_stop {p : UInt8 → Bool} {l : Bytes} {a : UInt8} (hl : ∀ b ∈ l, p b = true) (ha : p a = false)
    (t : Bytes) : (l ++ a :: t).takeWhile p = l := by
  rw [List.takeWhile_append_of_pos hl, List.takeWhile_cons_of_neg (by simp [ha]), List.append_nil]

lemma dropWhile_stop {p : UInt8 → Bool} {l : Bytes} {a : UInt8} (hl : ∀ b ∈ l, p b = true) (ha : p a = false)
    (t : Bytes) : (l ++ a :: t).dropWhile p = a :: t := by
  rw [List.dropWhile_append_of_pos hl, List.dropWhile_cons_of_neg (by simp [ha])]

namespace Href

lemma matchHref_bytes (p : Href) (rest : Bytes) : matchHref (p.bytes ++ rest) = some p.bytes := by
  have heq : isSpaceByte 0x3D = false := by decide
  have hshape : p.bytes ++ rest =
      p.name ++ (p.before ++ 0x3D :: (p.after ++ p.quote :: (p.value ++ p.quote :: rest))) := by
    simp [Href.bytes, Opening.bytes]
  have htake : (p.bytes ++ rest).take 4 = p.name := by
    rw [hshape, ← p.length_name, List.take_left]
  have hdrop : (p.bytes ++ rest).drop 4 =
      p.before ++ 0x3D :: (p.after ++ p.quote :: (p.value ++ p.quote :: rest)) := by
    rw [hshape, ← p.length_name, List.drop_left]
  have hval : ∀ b ∈ p.value, decide (b ≠ p.quote) = true := fun b hb =>
    decide_eq_true fun h => p.quote_notMem (h ▸ hb)
  have hmem : p.quote ∈ p.value ++ p.quote :: rest := by simp
  have hlen : (p.bytes ++ rest).length - ((p.quote :: rest).length - 1) = p.bytes.length := by
    simp
  unfold matchHref
  rw [htake, if_neg (not_not.mpr p.name_eq), hdrop, dropWhile_stop p.before_space heq]
  simp only
  rw [dropWhile_stop p.after_space p.isSpaceByte_quote]
  dsimp only
  rw [takeWhile_stop hval (by simp), dropWhile_stop hval (by simp), if_pos ⟨p.quote_eq, p.value_ne, hmem⟩, hlen,
    List.take_left]

end Href

lemma dropWhile_of_mem {q : UInt8} {s : Bytes} (h : q ∈ s) : ∃ rest, s.dropWhile (· ≠ q) = q :: rest := by
  induction s with
  | nil => cases h
  | cons b s ih =>
    by_cases hb : b = q
    · exact ⟨s, by simp [hb]⟩
    · obtain ⟨rest, hrest⟩ := ih ((List.mem_cons.mp h).resolve_left (Ne.symm hb))
      exact ⟨rest, by rw [List.dropWhile_cons_of_pos (by simpa using hb), hrest]⟩

/-- **The matches.** -/
lemma matchHref_eq_some_iff {s m : Bytes} :
    matchHref s = some m ↔ ∃ p : Href, m = p.bytes ∧ ∃ rest, s = p.bytes ++ rest := by
  constructor
  · intro h
    unfold matchHref at h
    split_ifs at h with hname
    rw [not_not] at hname
    split at h
    · next s1 hs1 =>
      split at h
      · next q s2 hs2 =>
        split_ifs at h with hq
        obtain ⟨hquote, hne, hmem⟩ := hq
        obtain ⟨rest, hrest⟩ := dropWhile_of_mem hmem
        let p : Href :=
          { name := s.take 4, before := (s.drop 4).takeWhile isSpaceByte, after := s1.takeWhile isSpaceByte, quote := q,
            value := s2.takeWhile (· ≠ q), name_eq := hname, before_space := fun _ hb => List.mem_takeWhile_imp hb,
            after_space := fun _ hb => List.mem_takeWhile_imp hb, quote_eq := hquote, value_ne := hne,
            quote_notMem := fun hb => by simpa using List.mem_takeWhile_imp hb }
        have hs2' : s2 = p.value ++ q :: rest := by
          rw [← hrest]
          exact List.takeWhile_append_dropWhile.symm
        have hs1' : s1 = p.after ++ q :: s2 := by
          rw [← hs2]
          exact List.takeWhile_append_dropWhile.symm
        have hs : s = p.bytes ++ rest := by
          calc s = s.take 4 ++ s.drop 4 := (List.take_append_drop 4 s).symm
            _ = s.take 4 ++ (p.before ++ 0x3D :: s1) := by
              rw [← hs1]
              exact congrArg _ List.takeWhile_append_dropWhile.symm
            _ = p.bytes ++ rest := by
              rw [hs1', hs2']
              simp [Href.bytes, Opening.bytes, p]
        refine ⟨p, ?_, rest, hs⟩
        rw [hrest, hs] at h
        simpa using h.symm
      · cases h
    · cases h
  · rintro ⟨p, rfl, rest, rfl⟩
    exact p.matchHref_bytes rest

lemma Opening.eq_notMem (o : Opening) : 0x3D ∉ o.name ++ o.before := by
  intro h
  rcases List.mem_append.mp h with h | h
  · have hmap := List.mem_map_of_mem (f := lowerByte) h
    rw [o.name_eq] at hmap
    exact absurd hmap (by decide)
  · exact absurd (o.before_space _ h) (by decide)

/-- The extractor gives the value of a match. -/
lemma Href.extractHrefValue_bytes (p : Href) : extractHrefValue p.bytes = p.value := by
  have hshape : p.bytes = (p.name ++ p.before) ++ 0x3D :: (p.after ++ p.quote :: (p.value ++ [p.quote])) := by
    simp [Href.bytes, Opening.bytes]
  have hname : ∀ b ∈ p.name ++ p.before, decide (b ≠ 0x3D) = true := fun b hb =>
    decide_eq_true fun h => p.eq_notMem (h ▸ hb)
  have hspace : ∀ b ∈ p.after, (isSpaceByte b || decide (b = 0x0B)) = true := fun b hb => by
    rw [p.after_space b hb, Bool.true_or]
  have hquote : (isSpaceByte p.quote || decide (p.quote = 0x0B)) = false := by
    rcases p.quote_eq with h | h <;> rw [h] <;> decide
  have htrim : trimSpaceBytes (p.after ++ p.quote :: (p.value ++ [p.quote])) = p.quote :: (p.value ++ [p.quote]) := by
    unfold trimSpaceBytes
    simp only
    rw [dropWhile_stop hspace hquote, List.reverse_cons, List.reverse_append, List.reverse_singleton, List.cons_append,
      List.cons_append, List.dropWhile_cons_of_neg (by simp [hquote])]
    simp
  have hval : ∀ b ∈ p.value, decide (b ≠ p.quote) = true := fun b hb =>
    decide_eq_true fun h => p.quote_notMem (h ▸ hb)
  unfold extractHrefValue
  rw [hshape, dropWhile_stop hname (by decide)]
  simp only [htrim]
  rw [if_pos ⟨p.quote_eq, by simp⟩, takeWhile_stop hval (by simp)]

/-! ### The scan -/

def Segment.bytes : Segment → Bytes
  | .text b => [b]
  | .href m => m

/-- The text of a list of segments. -/
def join (segs : List Segment) : Bytes := segs.flatMap Segment.bytes

@[simp] lemma join_nil : join [] = [] := rfl

@[simp] lemma join_cons (seg : Segment) (segs : List Segment) : join (seg :: segs) = seg.bytes ++ join segs := rfl

lemma segmentsFrom_eq (skip : ℕ) (s : Bytes) : segmentsFrom skip s = segments (s.drop skip) := by
  induction skip generalizing s with
  | zero => rfl
  | succ skip ih =>
    cases s with
    | nil => rfl
    | cons b s => exact ih s

@[simp] lemma segments_nil : segments [] = [] := rfl

lemma segments_text {b : UInt8} {s : Bytes} (h : matchHref (b :: s) = none) :
    segments (b :: s) = .text b :: segments s := by
  unfold segments
  rw [segmentsFrom, h]

lemma Href.bytes_ne_nil (p : Href) : p.bytes ≠ [] := by
  simp [Href.bytes, Opening.bytes]

lemma segments_href (p : Href) (rest : Bytes) : segments (p.bytes ++ rest) = .href p.bytes :: segments rest := by
  obtain ⟨b, s, hbs⟩ := List.exists_cons_of_ne_nil p.bytes_ne_nil
  have hmatch := p.matchHref_bytes rest
  rw [hbs, List.cons_append] at hmatch ⊢
  rw [segments, segmentsFrom, hmatch]
  simp only [segmentsFrom_eq, List.length_cons, Nat.add_sub_cancel, List.drop_left]

/-- **Induction along the scan.** -/
theorem scan_induction {P : Bytes → Prop} (nil : P []) (text : ∀ b s, matchHref (b :: s) = none → P s → P (b :: s))
    (href : ∀ (p : Href) (rest : Bytes), P rest → P (p.bytes ++ rest)) (s : Bytes) : P s := by
  induction hn : s.length using Nat.strong_induction_on generalizing s with
  | h n ih =>
    cases s with
    | nil => exact nil
    | cons b s =>
      cases hm : matchHref (b :: s) with
      | none => exact text b s hm (ih s.length (by simp [← hn]) s rfl)
      | some m =>
        obtain ⟨p, -, rest, hrest⟩ := matchHref_eq_some_iff.mp hm
        have hlt : rest.length < n := by
          have hpos := List.length_pos_of_ne_nil p.bytes_ne_nil
          rw [← hn, hrest, List.length_append]
          omega
        rw [hrest]
        exact href p rest (ih _ hlt rest rfl)

lemma exists_href_of_mem_segments {s m : Bytes} (h : .href m ∈ segments s) : ∃ p : Href, m = p.bytes := by
  induction s using scan_induction with
  | nil => cases h
  | text b s hm ih =>
    rw [segments_text hm] at h
    exact ih ((List.mem_cons.mp h).resolve_left (by simp))
  | href p rest ih =>
    rw [segments_href] at h
    rcases List.mem_cons.mp h with heq | h
    · exact ⟨p, Segment.href.inj heq⟩
    · exact ih h

lemma exists_place_of_mem_segments {s m : Bytes} (h : .href m ∈ segments s) : ∃ k, matchHref (s.drop k) = some m := by
  induction s using scan_induction with
  | nil => cases h
  | text b s hm ih =>
    rw [segments_text hm] at h
    obtain ⟨k, hk⟩ := ih ((List.mem_cons.mp h).resolve_left (by simp))
    exact ⟨k + 1, hk⟩
  | href p rest ih =>
    rw [segments_href] at h
    rcases List.mem_cons.mp h with heq | h
    · rw [Segment.href.inj heq]
      exact ⟨0, p.matchHref_bytes rest⟩
    · obtain ⟨k, hk⟩ := ih h
      refine ⟨p.bytes.length + k, ?_⟩
      rwa [← List.drop_drop, List.drop_left]

/-! ### The scan after a replacement -/

/-- Every quote of `m'` is a quote of `m`. -/
def QuotesIn (m' m : Bytes) : Prop := ∀ q : UInt8, q = 0x22 ∨ q = 0x27 → q ∈ m' → q ∈ m

/-- What may stand in the place of a segment. -/
inductive Related : Segment → Segment → Prop where
  | text (b : UInt8) : Related (.text b) (.text b)
  | href (p p' : Href) (h : QuotesIn p'.bytes p.bytes) : Related (.href p.bytes) (.href p'.bytes)

/-- `t` is `s` with other attributes in the place of some. -/
inductive Shadow : Bytes → Bytes → Prop where
  | nil : Shadow [] []
  | text {s t : Bytes} (b : UInt8) (h : Shadow s t) : Shadow (b :: s) (b :: t)
  | href {s t : Bytes} (p p' : Href) (hq : QuotesIn p'.bytes p.bytes) (h : Shadow s t) :
    Shadow (p.bytes ++ s) (p'.bytes ++ t)

/-- An attribute begins with an `h`, and no other byte of its opening is one. -/
lemma Opening.exists_head (o : Opening) : ∃ b x, o.bytes = b :: x ∧ lowerByte b = 0x68 ∧ b ≠ 0x22 ∧ b ≠ 0x27 ∧
    ∀ c ∈ x, lowerByte c ≠ 0x68 := by
  have hlen := o.length_name
  match hn : o.name, hlen with
  | [b, c, d, e], _ =>
    have hname := o.name_eq
    simp only [hn, List.map_cons, List.map_nil, List.cons.injEq, and_true] at hname
    obtain ⟨hb, hc, hd, he⟩ := hname
    refine ⟨b, [c, d, e] ++ (o.before ++ 0x3D :: (o.after ++ [o.quote])), ?_, hb, ?_, ?_, ?_⟩
    · simp [Opening.bytes, hn]
    · rintro rfl
      exact absurd hb (by decide)
    · rintro rfl
      exact absurd hb (by decide)
    · have hspace : ∀ c, isSpaceByte c = true → lowerByte c ≠ 0x68 := by
        intro c hc
        simp only [isSpaceByte, Bool.or_eq_true, decide_eq_true_eq] at hc
        rcases hc with (((rfl | rfl) | rfl) | rfl) | rfl <;> decide
      intro x hx
      simp only [List.mem_append, List.mem_cons, List.not_mem_nil, or_false] at hx
      rcases hx with (rfl | rfl | rfl) | hx | rfl | hx | rfl
      · rw [hc]; decide
      · rw [hd]; decide
      · rw [he]; decide
      · exact hspace x (o.before_space x hx)
      · decide
      · exact hspace x (o.after_space x hx)
      · rcases o.quote_eq with h | h <;> rw [h] <;> decide

lemma Href.exists_head (p : Href) : ∃ b x, p.bytes = b :: x ∧ lowerByte b = 0x68 ∧ b ≠ 0x22 ∧ b ≠ 0x27 := by
  obtain ⟨b, x, heq, hb, h1, h2, -⟩ := p.toOpening.exists_head
  exact ⟨b, x ++ (p.value ++ [p.quote]), by rw [Href.bytes, heq, List.cons_append], hb, h1, h2⟩

namespace Shadow

variable {s t : Bytes}

/-- A text without an `h` is not in an attribute. -/
lemma drop_prefix (h : Shadow s t) {x : Bytes} (hx : ∀ c ∈ x, lowerByte c ≠ 0x68) (hpre : x <+: t) :
    x <+: s ∧ Shadow (s.drop x.length) (t.drop x.length) := by
  induction h generalizing x with
  | nil =>
    obtain rfl := List.prefix_nil.mp hpre
    exact ⟨List.nil_prefix, Shadow.nil⟩
  | text b h ih =>
    cases x with
    | nil => exact ⟨List.nil_prefix, h.text b⟩
    | cons c x =>
      obtain ⟨rfl, htail⟩ := List.cons_prefix_cons.mp hpre
      obtain ⟨hs, hdrop⟩ := ih (fun c hc => hx c (List.mem_cons_of_mem _ hc)) htail
      exact ⟨List.cons_prefix_cons.mpr ⟨rfl, hs⟩, hdrop⟩
  | href p p' hq h ih =>
    cases x with
    | nil => exact ⟨List.nil_prefix, h.href p p' hq⟩
    | cons c x =>
      obtain ⟨b, y, heq, hb, -⟩ := p'.exists_head
      rw [heq, List.cons_append] at hpre
      obtain ⟨rfl, -⟩ := List.cons_prefix_cons.mp hpre
      exact absurd hb (hx c List.mem_cons_self)

lemma mem_quote (h : Shadow s t) {q : UInt8} (hq : q = 0x22 ∨ q = 0x27) (hmem : q ∈ t) : q ∈ s := by
  induction h with
  | nil => exact hmem
  | text b h ih =>
    rcases List.mem_cons.mp hmem with rfl | hmem
    · exact List.mem_cons_self
    · exact List.mem_cons_of_mem _ (ih hmem)
  | href p p' hin h ih =>
    rcases List.mem_append.mp hmem with hmem | hmem
    · exact List.mem_append_left _ (hin q hq hmem)
    · exact List.mem_append_right _ (ih hmem)

lemma head_ne {c q : UInt8} (h : Shadow s (c :: t)) (hq : q = 0x22 ∨ q = 0x27) (hc : c ≠ q) :
    ∃ c' s', s = c' :: s' ∧ c' ≠ q := by
  generalize hu : c :: t = u at h
  cases h with
  | nil => cases hu
  | text b h =>
    cases hu
    exact ⟨_, _, rfl, hc⟩
  | href p p' hin h =>
    obtain ⟨b, x, heq, -, h1, h2⟩ := p.exists_head
    refine ⟨b, x ++ _, by rw [heq, List.cons_append], ?_⟩
    rcases hq with rfl | rfl
    · exact h1
    · exact h2

end Shadow

/-- An opening before a text that has its quote, but not at once. -/
lemma Opening.exists_href (o : Opening) {c : UInt8} {s : Bytes} (hc : c ≠ o.quote) (hmem : o.quote ∈ c :: s) :
    ∃ (p : Href) (rest : Bytes), o.bytes ++ c :: s = p.bytes ++ rest := by
  obtain ⟨rest, hrest⟩ := dropWhile_of_mem hmem
  have hval : ((c :: s).takeWhile (· ≠ o.quote)) ≠ [] := by simp [hc]
  have hnot : o.quote ∉ (c :: s).takeWhile (· ≠ o.quote) := fun hb => by simpa using List.mem_takeWhile_imp hb
  refine ⟨⟨o, (c :: s).takeWhile (· ≠ o.quote), hval, hnot⟩, rest, ?_⟩
  have hsplit : c :: s = (c :: s).takeWhile (· ≠ o.quote) ++ o.quote :: rest := by
    rw [← hrest]
    exact List.takeWhile_append_dropWhile.symm
  rw [Href.bytes, List.append_assoc, List.append_assoc]
  exact congrArg _ hsplit

/-- Where no match began before, none begins after. -/
lemma Shadow.matchHref_none {s t : Bytes} (h : Shadow s t) {b : UInt8} (hnone : matchHref (b :: s) = none) :
    matchHref (b :: t) = none := by
  by_contra hsome
  obtain ⟨m, hm⟩ := Option.ne_none_iff_exists'.mp hsome
  obtain ⟨p, -, rest, heq⟩ := matchHref_eq_some_iff.mp hm
  obtain ⟨b', x, hopen, -, -, -, hx⟩ := p.toOpening.exists_head
  rw [Href.bytes, hopen, List.append_assoc, List.cons_append, List.cons.injEq] at heq
  obtain ⟨rfl, rfl⟩ := heq
  obtain ⟨⟨s', rfl⟩, hdrop⟩ := h.drop_prefix hx (List.prefix_append _ _)
  rw [List.drop_left, List.drop_left] at hdrop
  -- behind the opening, the first byte is no quote and the quote still comes
  obtain ⟨c, v, hv⟩ := List.exists_cons_of_ne_nil p.value_ne
  have hc : c ≠ p.quote := by
    rintro rfl
    exact p.quote_notMem (by rw [hv]; exact List.mem_cons_self)
  have hmem : p.quote ∈ s' := hdrop.mem_quote p.quote_eq (by simp)
  rw [hv, List.append_assoc, List.cons_append] at hdrop
  obtain ⟨c', s'', rfl, hc'⟩ := hdrop.head_ne p.quote_eq hc
  obtain ⟨p', rest', heq'⟩ := p.toOpening.exists_href hc' hmem
  rw [hopen, List.cons_append] at heq'
  rw [heq', p'.matchHref_bytes] at hnone
  cases hnone

/-- **The scan after the replacement** finds the new attributes. -/
theorem segments_of_related {s : Bytes} {segs : List Segment} (h : List.Forall₂ Related (segments s) segs) :
    segments (join segs) = segs ∧ Shadow s (join segs) := by
  induction s using scan_induction generalizing segs with
  | nil =>
    cases h
    exact ⟨rfl, Shadow.nil⟩
  | text b s hnone ih =>
    rw [segments_text hnone] at h
    cases h with
    | cons hhead htail =>
      cases hhead
      obtain ⟨hscan, hshadow⟩ := ih htail
      refine ⟨?_, hshadow.text b⟩
      rw [join_cons]
      exact (segments_text (hshadow.matchHref_none hnone)).trans (congrArg _ hscan)
  | href p rest ih =>
    rw [segments_href] at h
    cases h with
    | cons hhead htail =>
      obtain ⟨hscan, hshadow⟩ := ih htail
      generalize hm : Segment.href p.bytes = seg at hhead
      cases hhead with
      | text b => cases hm
      | href p₁ p' hq =>
        rw [Segment.href.inj hm]
        refine ⟨?_, hshadow.href p₁ p' hq⟩
        rw [join_cons]
        exact (segments_href p' _).trans (congrArg _ hscan)

/-! ### Matches at any place -/

/-- No other attribute begins inside. -/
def NoOpening (m : Bytes) : Prop := ∀ k, 0 < k → ∀ o : Opening, ¬ o.bytes <+: m.drop k

/-- The only quote of an opening is its last byte. -/
lemma Opening.quote_last (o : Opening) {u : Bytes} {q : UInt8} (hq : q = 0x22 ∨ q = 0x27) (h : u ++ [q] <+: o.bytes) :
    u ++ [q] = o.bytes := by
  have hbody : o.bytes = (o.name ++ (o.before ++ 0x3D :: o.after)) ++ [o.quote] := by simp [Opening.bytes]
  have hnot : q ∉ o.name ++ (o.before ++ 0x3D :: o.after) := by
    have hname : q ∉ o.name := by
      intro hmem
      have hmap := List.mem_map_of_mem (f := lowerByte) hmem
      rw [o.name_eq] at hmap
      rcases hq with rfl | rfl <;> exact absurd hmap (by decide)
    have hspace : isSpaceByte q = false := by rcases hq with rfl | rfl <;> decide
    have hsign : q ≠ 0x3D := by rcases hq with rfl | rfl <;> decide
    simp only [List.mem_append, List.mem_cons, not_or]
    refine ⟨hname, fun hmem => ?_, hsign, fun hmem => ?_⟩
    · rw [o.before_space q hmem] at hspace
      cases hspace
    · rw [o.after_space q hmem] at hspace
      cases hspace
  rw [hbody] at h ⊢
  rcases List.prefix_concat_iff.mp h with heq | hpre
  · exact heq
  · exact absurd (hpre.subset (List.mem_append_right u List.mem_cons_self)) hnot

/-- An opening that begins in an attribute ends there. -/
lemma Href.opening_prefix (p : Href) {k : ℕ} (hk : k < p.bytes.length) {o : Opening} {rest : Bytes}
    (h : o.bytes <+: p.bytes.drop k ++ rest) : o.bytes <+: p.bytes.drop k := by
  have hlast : p.bytes.drop k = (p.toOpening.bytes ++ p.value).drop k ++ [p.quote] := by
    rw [Href.bytes, ← List.append_assoc, List.drop_append_of_le_length]
    rw [Href.bytes, ← List.append_assoc, List.length_append, List.length_singleton] at hk
    omega
  rcases List.prefix_or_prefix_of_prefix h (List.prefix_append _ rest) with hin | hout
  · exact hin
  · rw [hlast] at hout ⊢
    rw [o.quote_last p.quote_eq hout]

/-- **Every match is one of the scan**, if no attribute of the scan holds the opening of another. -/
theorem matchHref_drop {s : Bytes} (h : ∀ m, .href m ∈ segments s → NoOpening m) {k : ℕ} {m : Bytes}
    (hm : matchHref (s.drop k) = some m) : .href m ∈ segments s := by
  induction s using scan_induction generalizing k with
  | nil => simp [matchHref] at hm
  | text b s hnone ih =>
    rw [segments_text hnone] at h ⊢
    cases k with
    | zero =>
      rw [List.drop_zero, hnone] at hm
      cases hm
    | succ k => exact List.mem_cons_of_mem _ (ih (fun m hmem => h m (List.mem_cons_of_mem _ hmem)) hm)
  | href p rest ih =>
    rw [segments_href] at h ⊢
    rcases Nat.eq_zero_or_pos k with rfl | hpos
    · rw [List.drop_zero, p.matchHref_bytes] at hm
      cases hm
      exact List.mem_cons_self
    rcases Nat.lt_or_ge k p.bytes.length with hlt | hge
    · rw [List.drop_append_of_le_length hlt.le] at hm
      obtain ⟨p', -, rest', heq⟩ := matchHref_eq_some_iff.mp hm
      have hpre : p'.toOpening.bytes <+: p.bytes.drop k ++ rest := by
        rw [heq, Href.bytes, List.append_assoc]
        exact List.prefix_append _ _
      exact absurd (p.opening_prefix hlt hpre) (h _ List.mem_cons_self k hpos p'.toOpening)
    · rw [List.drop_append, List.drop_eq_nil_of_le hge, List.nil_append] at hm
      exact List.mem_cons_of_mem _ (ih (fun m hmem => h m (List.mem_cons_of_mem _ hmem)) hm)

end Sn360Es.Action
