import Sn360Es.Provider.FastmailMime
import Sn360Es.Provider.GmailMime

/-!
# Rewriting the HTML of a message

A message is given by everything but the content of its HTML part: `SinglePart` and `Multipart`, with lines that end in
CRLF. A round trip stores a new text there and reads it again, and divides the message into the same parts
(`GmailTrip`, `FastmailTrip`).

* Gmail reads back a text that its reader does not change: one that has no white space around it, no line that begins
  with `--`, and nothing to decode (`Storable`).
* Fastmail ends a part where the boundary begins, and so overwrites the line break before it: it needs a text that ends
  in one.
-/

namespace Sn360Es.Provider

open Lib Lib.GoBytes Lib.Utf8

/-- The blank line after a header. -/
def blank : Bytes := [0x0D, 0x0A, 0x0D, 0x0A]

/-- `--` and the boundary. -/
def mark (boundary : Bytes) : Bytes := 0x2D :: 0x2D :: boundary

/-- What divides two parts: the mark, at the beginning of a line. -/
def delimiter (boundary : Bytes) : Bytes := 0x0D :: 0x0A :: mark boundary

/-- A message of one part, without its content. -/
structure SinglePart where
  header : Bytes
  header_clean : index blank (header ++ blank) = some header.length

def SinglePart.render (m : SinglePart) (content : Bytes) : Bytes := m.header ++ blank ++ content

/-- A multipart message without the content of one part. Its pieces are divided by the delimiter: `lead`, with the
line break that the delimiter takes from the header if there is no preamble; the parts `earlier`; this one, with its
header `head`; and `later`, the last of which has the epilogue. -/
structure Multipart where
  header : Bytes
  boundary : Bytes
  lead : Bytes
  earlier : List Bytes
  head : Bytes
  later : List Bytes
  header_clean : index blank (header ++ blank) = some header.length
  boundary_ne : boundary ≠ []
  boundary_cr : 0x0D ∉ boundary
  boundary_lf : 0x0A ∉ boundary
  lead_eq : lead = [] ∨ ∃ preamble, lead = 0x0D :: 0x0A :: preamble
  head_clean : index blank (head ++ blank) = some head.length
  later_ne : later ≠ []
  pieces_clean : ∀ p ∈ lead :: earlier ++ head :: later, index (delimiter boundary) p = none

namespace Multipart

variable (m : Multipart)

def pieces (content : Bytes) : List Bytes := m.lead :: m.earlier ++ (m.head ++ blank ++ content) :: m.later

/-- The body up to the part, and the line break before it. -/
def before : Bytes := (m.lead :: m.earlier).flatMap (· ++ delimiter m.boundary)

def back : Bytes := delimiter m.boundary ++ (delimiter m.boundary).intercalate m.later

def body (content : Bytes) : Bytes := m.before.drop 2 ++ m.head ++ blank ++ content ++ m.back

def render (content : Bytes) : Bytes := m.header ++ blank ++ m.body content

/-- The message up to the content. -/
def front : Bytes := m.header ++ blank ++ m.before.drop 2 ++ m.head ++ blank

/-- The content belongs to one part. -/
def Fits (content : Bytes) : Prop := index (delimiter m.boundary) (m.head ++ blank ++ content) = none

instance (content : Bytes) : Decidable (m.Fits content) := inferInstanceAs (Decidable (_ = _))

/-- The text with these contents is divided into the parts that it was made of. -/
def SameParts (content : Bytes) : Prop :=
  split (delimiter m.boundary) (0x0D :: 0x0A :: m.body content) = m.pieces content

end Multipart

section Trips

variable (lower : ℕ → ℕ)

/-- The new text is stored in the place of the content and read again, and the parts stay. -/
def Multipart.GmailTrip (m : Multipart) (content h : Bytes) : Prop :=
  ∃ c, Gmail.replaceHTMLInRFC822 lower (m.render content) h = some (m.render c, true) ∧
    Gmail.extractHTMLFromRFC822 lower (m.render c) = some h ∧ m.SameParts c

def Multipart.FastmailTrip (m : Multipart) (content h : Bytes) : Prop :=
  ∃ c, Fastmail.replaceHTMLBody lower (m.render content) h = some (.ok (m.render c)) ∧
    Fastmail.extractHTMLBody lower (m.render c) = some h ∧ m.SameParts c

def SinglePart.GmailTrip (m : SinglePart) (content h : Bytes) : Prop :=
  ∃ c, Gmail.replaceHTMLInRFC822 lower (m.render content) h = some (m.render c, true) ∧
    Gmail.extractHTMLFromRFC822 lower (m.render c) = some h

def SinglePart.FastmailTrip (m : SinglePart) (content h : Bytes) : Prop :=
  ∃ c, Fastmail.replaceHTMLBody lower (m.render content) h = some (.ok (m.render c)) ∧
    Fastmail.extractHTMLBody lower (m.render c) = some h

end Trips

/-! ### The parts of a message -/

namespace Multipart

variable {m : Multipart} {c : Bytes}

lemma delimiter_ne_nil (b : Bytes) : delimiter b ≠ [] := List.cons_ne_nil _ _

lemma render_eq (m : Multipart) (c : Bytes) : m.render c = m.front ++ (c ++ m.back) := by
  simp only [render, body, front, List.append_assoc]

/-- The text before a part begins with a line break. -/
lemma before_eq (m : Multipart) : m.before = 0x0D :: 0x0A :: m.before.drop 2 := by
  unfold before
  rcases m.lead_eq with hlead | ⟨p, hlead⟩ <;> rw [hlead] <;> rfl

lemma cr_not_mem (m : Multipart) : (0x0D : UInt8) ∉ 0x0A :: mark m.boundary := by
  simp only [mark, List.mem_cons, not_or]
  exact ⟨by decide, by decide, by decide, m.boundary_cr⟩

lemma lf_not_mem (m : Multipart) : (0x0A : UInt8) ∉ mark m.boundary := by
  simp only [mark, List.mem_cons, not_or]
  exact ⟨by decide, by decide, m.boundary_lf⟩

/-- A text without the delimiter is a piece. -/
lemma index_append_delimiter (m : Multipart) {p : Bytes} (hp : index (delimiter m.boundary) p = none) :
    index (delimiter m.boundary) (p ++ delimiter m.boundary) = some p.length := by
  have hcross : NoCross (delimiter m.boundary) p (delimiter m.boundary) := noCross_of_head m.cr_not_mem p _
  have hself : index (delimiter m.boundary) (delimiter m.boundary) = some 0 := if_pos (List.prefix_refl _)
  rw [index_append (delimiter_ne_nil _) hcross, hp, hself]
  rfl

lemma intercalate_pieces (m : Multipart) (c : Bytes) :
    (delimiter m.boundary).intercalate (m.pieces c) = 0x0D :: 0x0A :: m.body c := by
  have hjoin : (delimiter m.boundary).intercalate (m.pieces c) = m.before ++ ((m.head ++ blank ++ c) ++ m.back) :=
    intercalate_append_cons (m.lead :: m.earlier) _ m.later_ne
  rw [hjoin, m.before_eq, body]
  simp only [List.cons_append, List.append_assoc]

/-- **The parts stay** exactly if the content belongs to one part. -/
lemma sameParts_iff (m : Multipart) (c : Bytes) : m.SameParts c ↔ m.Fits c := by
  unfold SameParts Fits
  rw [← intercalate_pieces]
  constructor
  · intro hsplit
    refine index_of_mem_split (delimiter_ne_nil m.boundary) (s := (delimiter m.boundary).intercalate (m.pieces c)) ?_
    rw [hsplit]
    exact List.mem_append_right _ List.mem_cons_self
  · intro hfits
    refine split_intercalate (delimiter_ne_nil _) (List.cons_ne_nil _ _) fun p hp => m.index_append_delimiter ?_
    simp only [pieces, List.cons_append, List.mem_cons, List.mem_append] at hp
    rcases hp with rfl | hp | rfl | hp
    · exact m.pieces_clean _ (by simp)
    · exact m.pieces_clean p (by simp [hp])
    · exact hfits
    · exact m.pieces_clean p (by simp [hp])

/-- The delimiter in a text behind a line break. -/
lemma index_delimiter_break (b c : Bytes) : index (delimiter b) (0x0D :: 0x0A :: c) =
    if mark b <+: c then some 0 else (index (delimiter b) c).map (· + 2) := by
  have hstarts : delimiter b <+: 0x0D :: 0x0A :: c ↔ mark b <+: c := by
    unfold delimiter
    rw [List.prefix_cons_inj, List.prefix_cons_inj]
  have hlf : ¬ delimiter b <+: 0x0A :: c := by
    unfold delimiter
    rw [List.cons_prefix_cons]
    exact fun h => absurd h.1 (by decide)
  rw [index, index, if_neg hlf, Option.map_map]
  simp only [hstarts]
  rfl

/-- A content belongs to one part if it has no delimiter, and does not begin with the mark. -/
lemma fits_iff (m : Multipart) (c : Bytes) :
    m.Fits c ↔ index (delimiter m.boundary) c = none ∧ ¬ mark m.boundary <+: c := by
  -- the text is searched up to the line break of the header's last line, and from the blank line on
  have hhead : index (delimiter m.boundary) (m.head ++ [0x0D, 0x0A]) = none := by
    have hshort : index (delimiter m.boundary) [0x0D, 0x0A] = none := by
      rw [index_delimiter_break, if_neg (by rw [mark, List.prefix_nil]; exact List.cons_ne_nil _ _)]
      rfl
    rw [index_append (delimiter_ne_nil _) (noCross_of_head m.cr_not_mem _ _), hshort,
      m.pieces_clean m.head (by simp)]
    rfl
  have hsplit : m.head ++ blank ++ c = m.head ++ [0x0D, 0x0A] ++ 0x0D :: 0x0A :: c := by
    simp [blank]
  unfold Fits
  rw [hsplit, index_append (delimiter_ne_nil _) (noCross_of_head m.cr_not_mem _ _), hhead, Option.none_or,
    Option.map_eq_none_iff, index_delimiter_break]
  by_cases hmark : mark m.boundary <+: c
  · simp [hmark]
  · simp [hmark]

end Multipart

/-! ### Fastmail -/

section Fastmail

open Fastmail

variable {lower : ℕ → ℕ} {m : Multipart} {content h : Bytes}

lemma splitHeaderBody_append {header : Bytes} (hheader : index blank (header ++ blank) = some header.length)
    (body : Bytes) :
    splitHeaderBody (header ++ blank ++ body) = (header, body, crlf) := by
  have hindex : index (crlf ++ crlf) (header ++ blank ++ body) = some header.length :=
    index_append_of_some (List.cons_ne_nil _ _) hheader body
  unfold splitHeaderBody
  rw [hindex]
  show ((header ++ blank ++ body).take header.length,
    (header ++ blank ++ body).drop (header.length + blank.length), crlf) = _
  rw [← List.length_append, List.drop_left, List.append_assoc, List.take_left]

/-- The body up to the mark of the part. -/
def Multipart.leading (m : Multipart) : Bytes :=
  (m.lead ++ crlf).drop 2 ++ m.earlier.flatMap fun p => mark m.boundary ++ (p ++ crlf)

/-- The pieces before the part as Fastmail has them: it splits at every mark, also inside of a line. -/
def Multipart.marked (m : Multipart) : List Bytes := split (mark m.boundary) m.leading

/-- Fastmail finds the part: its header is the first with `text/html`, the boundary is the one of the message, and the
mark does not occur in the part. -/
structure Multipart.FastmailFinds (lower : ℕ → ℕ) (m : Multipart) (content : Bytes) : Prop where
  type : bytesOf "multipart/" <+: toLower lower (extractHeaderValue lower m.header contentTypeName)
  boundary : extractBoundary lower (extractHeaderValue lower m.header contentTypeName) = some m.boundary
  skipped : ∀ p ∈ m.marked, htmlHeaderEnd lower blank p = none
  head : contains (toLower lower m.head) (bytesOf "text/html") = true
  unmarked : index (mark m.boundary) m.head = none ∧ index (mark m.boundary) content = none

namespace Multipart

lemma dashes_append (b : Bytes) : bytesOf "--" ++ b = mark b := by
  have hdash : bytesOf "--" = [0x2D, 0x2D] := rfl
  rw [hdash]
  rfl

lemma mark_ne_nil (b : Bytes) : mark b ≠ [] := List.cons_ne_nil _ _

lemma cr_not_mem_mark (m : Multipart) : (0x0D : UInt8) ∉ mark m.boundary := fun h =>
  m.cr_not_mem (List.mem_cons_of_mem _ h)

/-- The mark in a text that ends in a line break. -/
lemma index_mark_crlf (m : Multipart) {p : Bytes} (hp : index (mark m.boundary) p = none) :
    index (mark m.boundary) (p ++ crlf) = none := by
  have hshort : index (mark m.boundary) crlf = none := by
    simp [index, mark, crlf, List.cons_prefix_cons]
  have hcross : NoCross (mark m.boundary) p crlf := noCross_cons_of_not_mem m.cr_not_mem_mark p _
  rw [index_append (mark_ne_nil _) hcross, hp, hshort]
  rfl

lemma index_append_mark (m : Multipart) {p : Bytes} (hp : index (mark m.boundary) (p ++ crlf) = none) (t : Bytes) :
    index (mark m.boundary) (p ++ crlf ++ (mark m.boundary ++ t)) = some (p ++ crlf).length := by
  have hself : index (mark m.boundary) (mark m.boundary ++ t) = some 0 := if_pos (List.prefix_append _ _)
  have hcross : NoCross (mark m.boundary) (p ++ crlf) (mark m.boundary ++ t) := by
    have h := noCross_of_not_mem m.lf_not_mem (p ++ [0x0D]) (mark m.boundary ++ t)
    rwa [List.append_assoc] at h
  rw [index_append (mark_ne_nil _) hcross, hp, hself]
  rfl

lemma before_eq_leading (m : Multipart) : m.before.drop 2 = m.leading ++ mark m.boundary := by
  have hshift : ∀ ps : List Bytes, mark m.boundary ++ ps.flatMap (· ++ delimiter m.boundary) =
      (ps.flatMap fun p => mark m.boundary ++ (p ++ crlf)) ++ mark m.boundary := by
    intro ps
    induction ps with
    | nil => simp
    | cons p ps ih => simpa [delimiter, crlf] using ih
  unfold before leading
  rw [List.append_assoc, ← hshift]
  rcases m.lead_eq with hlead | ⟨p, hlead⟩
  · simp [hlead, delimiter, crlf]
  · simp [hlead, delimiter, crlf]

/-- A line ends before the mark of the part. -/
lemma leading_eq (m : Multipart) : m.leading = [] ∨ ∃ u, m.leading = u ++ [0x0A] := by
  unfold leading
  rcases List.eq_nil_or_concat m.earlier with hnone | ⟨ps, p, hlast⟩
  · rcases m.lead_eq with hlead | ⟨p, hlead⟩
    · exact .inl (by simp [hnone, hlead, crlf])
    · exact .inr ⟨p ++ [0x0D], by simp [hnone, hlead, crlf]⟩
  · exact .inr ⟨(m.lead ++ crlf).drop 2 ++ (ps.flatMap fun p => mark m.boundary ++ (p ++ crlf)) ++
      (mark m.boundary ++ (p ++ [0x0D])), by simp [hlast, crlf]⟩

/-- The pieces before a text are split off. -/
lemma split_before (m : Multipart) (t : Bytes) :
    split (mark m.boundary) (m.before.drop 2 ++ t) = m.marked ++ split (mark m.boundary) t := by
  have hcross : NoCross (mark m.boundary) m.leading (mark m.boundary ++ t) := by
    rcases m.leading_eq with hnil | ⟨u, hu⟩
    · intro j hj
      rw [hnil] at hj
      exact absurd hj (Nat.not_lt_zero j)
    · rw [hu]
      exact noCross_of_not_mem m.lf_not_mem u _
  rw [before_eq_leading, List.append_assoc, split_append_sep (mark_ne_nil _) hcross]
  rfl

lemma flatMap_marked (m : Multipart) : m.marked.flatMap (· ++ mark m.boundary) = m.before.drop 2 := by
  have hjoin : ∀ ps : List Bytes, ps ≠ [] →
      ps.flatMap (· ++ mark m.boundary) = (mark m.boundary).intercalate ps ++ mark m.boundary := by
    intro ps hps
    induction ps with
    | nil => exact absurd rfl hps
    | cons p ps ih =>
      by_cases hnil : ps = []
      · simp [hnil]
      · rw [List.flatMap_cons, ih hnil, List.intercalate_cons_of_ne_nil hnil]
        simp only [List.append_assoc]
  rw [marked, hjoin _ (split_ne_nil _ _), intercalate_split (mark_ne_nil _), before_eq_leading]

end Multipart

/-- The first piece that passes. -/
lemma firstHTMLPiece_append {b piece : Bytes} {ps qs : List Bytes} {e : ℕ}
    (hps : ∀ p ∈ ps, htmlHeaderEnd lower b p = none)
    (hpiece : htmlHeaderEnd lower b piece = some e) :
    firstHTMLPiece lower b (ps ++ piece :: qs) = some (ps, piece.take e, piece.drop e, qs) := by
  induction ps with
  | nil =>
    rw [List.nil_append, firstHTMLPiece, hpiece]
  | cons p ps ih =>
    rw [List.cons_append, firstHTMLPiece, hps p List.mem_cons_self, ih fun q hq => hps q (List.mem_cons_of_mem _ hq)]
    rfl

namespace Multipart.FastmailFinds

variable (hm : m.FastmailFinds lower content)
include hm

/-- **Where Fastmail ends the part**: at the next mark. -/
lemma firstHTMLPiece_eq {t : Bytes} {k : ℕ} (hk : index (mark m.boundary) t = some k) :
    firstHTMLPiece lower (crlf ++ crlf) (split (mark m.boundary) (m.before.drop 2 ++ (m.head ++ blank ++ t))) =
      some (m.marked, m.head ++ blank, t.take k, split (mark m.boundary) (t.drop (k + (mark m.boundary).length))) := by
  have hhead : index (mark m.boundary) (m.head ++ blank ++ t) = some ((m.head ++ blank).length + k) := by
    have hclean : index (mark m.boundary) (m.head ++ blank) = none := by
      have h := m.index_mark_crlf (m.index_mark_crlf hm.unmarked.1)
      rwa [List.append_assoc] at h
    have hcross : NoCross (mark m.boundary) (m.head ++ blank) t := by
      have h := noCross_of_not_mem m.lf_not_mem (m.head ++ [0x0D, 0x0A, 0x0D]) t
      rwa [List.append_assoc] at h
    rw [index_append (mark_ne_nil _) hcross, hclean, hk]
    rfl
  have hpiece : htmlHeaderEnd lower blank (m.head ++ blank ++ t.take k) = some (m.head ++ blank).length := by
    have hindex : index blank (m.head ++ blank ++ t.take k) = some m.head.length :=
      index_append_of_some (List.cons_ne_nil _ _) m.head_clean _
    have htake : (m.head ++ blank ++ t.take k).take m.head.length = m.head := by
      rw [List.append_assoc, List.take_left]
    unfold htmlHeaderEnd
    simp only [hindex, htake, hm.head, if_true]
    rw [List.length_append]
  rw [m.split_before, split_of_index_some (mark_ne_nil _) hhead, List.take_length_add_append, Nat.add_assoc,
    List.drop_length_add_append]
  rw [show crlf ++ crlf = blank from rfl, firstHTMLPiece_append hm.skipped hpiece, List.take_left, List.drop_left]

/-- The type of the message, and what Fastmail does for it. -/
lemma not_html : ¬ bytesOf "text/html" <+: toLower lower (extractHeaderValue lower m.header contentTypeName) := by
  intro hhtml
  have hlen : (bytesOf "text/html").length ≤ (bytesOf "multipart/").length := by decide
  exact absurd (List.prefix_of_prefix_length_le hhtml hm.type hlen) (by decide)

lemma type_ne_nil : extractHeaderValue lower m.header contentTypeName ≠ [] := by
  intro hnil
  have htype := hm.type
  rw [hnil] at htype
  exact absurd (List.prefix_nil.mp htype) (by decide)

lemma extractHTMLBody_eq {t : Bytes} {k : ℕ} (hk : index (mark m.boundary) t = some k) :
    extractHTMLBody lower (m.front ++ t) = some (t.take k) := by
  have hraw : m.front ++ t = m.header ++ blank ++ (m.before.drop 2 ++ (m.head ++ blank ++ t)) := by
    simp only [front, List.append_assoc]
  have hne : m.before.drop 2 ++ (m.head ++ blank ++ t) ≠ [] := by
    simp [blank]
  unfold extractHTMLBody findFirstHTMLPart
  rw [hraw, splitHeaderBody_append m.header_clean]
  simp only [hne, hm.type_ne_nil, or_self, if_false, hm.not_html, hm.type, not_true_eq_false, hm.boundary, m.boundary_ne,
    dashes_append, hm.firstHTMLPiece_eq hk, Option.map_some]

/-- **What Fastmail writes**: the line break before the mark is part of what it replaces. -/
lemma replaceHTMLBody_eq (h : Bytes) :
    replaceHTMLBody lower (m.render content) h =
      some (.ok (m.front ++ (h ++ (mark m.boundary ++ (delimiter m.boundary).intercalate m.later)))) := by
  set rest := (delimiter m.boundary).intercalate m.later with hrest
  have hback : content ++ m.back = content ++ crlf ++ (mark m.boundary ++ rest) := by
    simp [back, delimiter, crlf, hrest]
  have hk : index (mark m.boundary) (content ++ m.back) = some (content ++ crlf).length := by
    rw [hback]
    exact m.index_append_mark (m.index_mark_crlf hm.unmarked.2) rest
  have hdrop : (content ++ m.back).drop ((content ++ crlf).length + (mark m.boundary).length) = rest := by
    rw [hback, List.drop_length_add_append, List.drop_left]
  have hraw : m.render content = m.header ++ blank ++ (m.before.drop 2 ++ (m.head ++ blank ++ (content ++ m.back))) := by
    simp only [render, body, List.append_assoc]
  have hne : m.before.drop 2 ++ (m.head ++ blank ++ (content ++ m.back)) ≠ [] := by
    simp [blank]
  have hpiece := hm.firstHTMLPiece_eq hk
  rw [hdrop] at hpiece
  unfold replaceHTMLBody
  rw [hraw, splitHeaderBody_append m.header_clean]
  simp only [hne, and_false, if_false, hm.type_ne_nil, hm.not_html, hm.type, not_true_eq_false, or_self, hm.boundary,
    m.boundary_ne, dashes_append, hpiece]
  rw [intercalate_append_cons m.marked _ (split_ne_nil _ _), m.flatMap_marked, intercalate_split (mark_ne_nil _),
    show crlf ++ crlf = blank from rfl]
  simp only [front, List.append_assoc]

end Multipart.FastmailFinds

/-- An occurrence of the delimiter has one of the mark. -/
lemma Multipart.index_delimiter_of_mark {b c : Bytes} (h : index (mark b) c = none) : index (delimiter b) c = none := by
  refine index_eq_none_iff.mpr fun j _ hat => ?_
  have hmark : At (mark b) c (j + 2) := by
    obtain ⟨u, hu⟩ := hat
    refine ⟨u, ?_⟩
    rw [← List.drop_drop, ← hu]
    rfl
  exact index_eq_none_iff.mp h (j + 2) (hmark.lt_length (mark_ne_nil b)).le hmark

/-- **Fastmail, several parts.** -/
lemma Multipart.fastmailTrip_iff (hm : m.FastmailFinds lower content) (h : Bytes) :
    m.FastmailTrip lower content h ↔ crlf <:+ h ∧ index (mark m.boundary) h = none := by
  unfold Multipart.FastmailTrip
  rw [hm.replaceHTMLBody_eq]
  set rest := (delimiter m.boundary).intercalate m.later with hrest
  have hback : ∀ c, c ++ m.back = c ++ crlf ++ (mark m.boundary ++ rest) := fun c => by
    simp [back, delimiter, crlf, hrest]
  constructor
  · rintro ⟨c, hreplace, hextract, -⟩
    -- the text that was stored, and the line break that it must have
    have htext : h = c ++ crlf := by
      have heq : m.front ++ (h ++ (mark m.boundary ++ rest)) = m.render c := by
        simpa using hreplace
      rw [m.render_eq, hback] at heq
      exact List.append_cancel_right (List.append_cancel_left heq)
    refine ⟨⟨c, htext.symm⟩, ?_⟩
    obtain ⟨k, hk⟩ : ∃ k, index (mark m.boundary) (c ++ m.back) = some k := by
      cases hk : index (mark m.boundary) (c ++ m.back) with
      | some k => exact ⟨k, rfl⟩
      | none =>
        refine absurd ?_ (index_eq_none_iff.mp hk (c ++ crlf).length (by rw [hback]; simp))
        rw [hback, at_append_right le_rfl, Nat.sub_self]
        exact List.prefix_append _ _
    rw [m.render_eq, hm.extractHTMLBody_eq hk] at hextract
    rw [← Option.some.inj hextract]
    exact index_take (mark_ne_nil _) hk
  · rintro ⟨⟨c, rfl⟩, hclean⟩
    have hc : index (mark m.boundary) c = none := by
      cases hi : index (mark m.boundary) c with
      | none => rfl
      | some i =>
        rw [index_append_of_some (mark_ne_nil _) hi] at hclean
        cases hclean
    have hk : index (mark m.boundary) (c ++ m.back) = some (c ++ crlf).length := by
      rw [hback]
      exact m.index_append_mark hclean rest
    refine ⟨c, ?_, ?_, ?_⟩
    · rw [m.render_eq, hback]
    · rw [m.render_eq, hm.extractHTMLBody_eq hk, hback, List.take_left]
    · refine (m.sameParts_iff c).mpr ((m.fits_iff c).mpr ⟨index_delimiter_of_mark hc, fun hstarts => ?_⟩)
      exact index_eq_none_iff.mp hc 0 (Nat.zero_le _) hstarts

/-- **Fastmail, one part**: always. -/
lemma SinglePart.fastmailTrip (m : SinglePart)
    (hm : bytesOf "text/html" <+: toLower lower (extractHeaderValue lower m.header contentTypeName)) (content h : Bytes) :
    m.FastmailTrip lower content h := by
  have htype : extractHeaderValue lower m.header contentTypeName ≠ [] := by
    intro hnil
    rw [hnil] at hm
    exact absurd (List.prefix_nil.mp hm) (by decide)
  have hheader : m.header ≠ [] := by
    intro hnil
    rw [hnil] at htype
    exact htype rfl
  refine ⟨h, ?_, ?_⟩
  · unfold replaceHTMLBody SinglePart.render
    rw [splitHeaderBody_append m.header_clean]
    simp only [hheader, false_and, if_false, htype, hm, not_true_eq_false, or_self, if_true]
    rfl
  · unfold extractHTMLBody findFirstHTMLPart SinglePart.render
    rw [splitHeaderBody_append m.header_clean]
    by_cases hh : h = []
    · simp [hh]
    · simp only [hh, htype, or_self, if_false, hm, if_true, Option.map_some]

end Fastmail

/-! ### Gmail -/

section Gmail

open Gmail

/-- The decoder leaves the text as it is, since it fails or has nothing to do. -/
def Undecoded (cte h : Bytes) : Prop :=
  (cte = bytesOf "base64" →
    Base64.decode (trimSpace (joinLines h)) = none ∨ Base64.decode (trimSpace (joinLines h)) = some h) ∧
  (cte = bytesOf "quoted-printable" → QuotedPrintable.decode h = none ∨ QuotedPrintable.decode h = some h)

/-- The header of the part from the marker on: the first marker of the body is there, and the first blank line behind it
ends the header. -/
def Multipart.htmlSection (lower : ℕ → ℕ) (m : Multipart) : Option Bytes :=
  match index htmlMarker (toLower lower (m.front.drop m.header.length)) with
  | none => none
  | some start =>
    let rest := m.front.drop (m.header.length + start)
    match index blank rest with
    | none => none
    | some j => if j + 4 = rest.length then some (rest.take j) else none

/-- A text that Gmail reads as it stores it: no line begins with `--`, nor the text with the mark; no white space is
around it, and the decoder leaves it. -/
def Storable (lower : ℕ → ℕ) (headers boundary h : Bytes) : Prop :=
  index (bytesOf "\r\n--") h = none ∧ ¬ mark boundary <+: h ∧ trimSpace h = h ∧
    ∃ cte, detectCTE lower headers = some cte ∧ Undecoded cte h

variable {lower : ℕ → ℕ} {content h : Bytes}

lemma orContent_eq_iff {d : Option Bytes} : orContent h d = h ↔ d = none ∨ d = some h := by
  cases d <;> simp [orContent]

lemma decodeCTE_eq_iff {cte : Bytes} : decodeCTE h cte = h ↔ Undecoded cte h := by
  have hne : bytesOf "base64" ≠ bytesOf "quoted-printable" := by decide
  unfold decodeCTE Undecoded
  split_ifs with hbase hqp
  · rw [orContent_eq_iff]
    simp [hbase, hne]
  · rw [orContent_eq_iff]
    simp [hqp, hne.symm]
  · simp [hbase, hqp]

lemma length_joinLines_le (s : Bytes) : (joinLines s).length ≤ s.length :=
  (List.length_filter_le _ _).trans (length_flatten_split_le (by decide) s)

lemma length_decodeCTE_le (s cte : Bytes) : (decodeCTE s cte).length ≤ s.length := by
  unfold decodeCTE orContent
  split_ifs
  · cases hd : Base64.decode (trimSpace (joinLines s)) with
    | none => exact le_rfl
    | some t => exact (Base64.length_decode_le hd).trans ((length_trimSpace_le _).trans (length_joinLines_le s))
  · cases hd : QuotedPrintable.decode s with
    | none => exact le_rfl
    | some t => exact QuotedPrintable.length_decode_le hd
  · exact le_rfl

lemma dashLine_eq : bytesOf "\r\n--" = [0x0D, 0x0A, 0x2D, 0x2D] := rfl

/-- The first line that begins with `--` in a text before such a line. -/
lemma index_dashLine_append {t : Bytes} (ht : bytesOf "\r\n--" <+: t) (c : Bytes) :
    index (bytesOf "\r\n--") (c ++ t) = some ((index (bytesOf "\r\n--") c).getD c.length) := by
  have hne : bytesOf "\r\n--" ≠ [] := by decide
  have hself : index (bytesOf "\r\n--") t = some 0 := index_eq_some_iff.mpr ⟨⟨Nat.zero_le _, ht⟩, fun j hj => by omega⟩
  have hcross : NoCross (bytesOf "\r\n--") c t := by
    obtain ⟨u, rfl⟩ := ht
    rw [dashLine_eq]
    exact noCross_of_head (by decide) c _
  rw [index_append hne hcross, hself]
  cases index (bytesOf "\r\n--") c <;> rfl

/-- Where a content ends before the delimiter. -/
lemma partEnd_append (m : Multipart) (c : Bytes) :
    partEnd (c ++ m.back) = (index (bytesOf "\r\n--") c).getD c.length := by
  have hback : bytesOf "\r\n--" <+: m.back := by
    rw [dashLine_eq]
    exact ⟨_, rfl⟩
  unfold partEnd
  rw [index_dashLine_append hback]

/-- **A text is read as it is stored**: nothing on the way may make it shorter. -/
lemma read_eq_iff {cte : Bytes} :
    decodeCTE (trimSpace (h.take ((index (bytesOf "\r\n--") h).getD h.length))) cte = h ↔
      index (bytesOf "\r\n--") h = none ∧ trimSpace h = h ∧ Undecoded cte h := by
  cases hi : index (bytesOf "\r\n--") h with
  | none =>
    simp only [Option.getD_none, List.take_length, true_and]
    constructor
    · intro hdecode
      have hlen := length_decodeCTE_le (trimSpace h) cte
      rw [hdecode] at hlen
      have htrim : trimSpace h = h := trimSpace_eq_of_length hlen
      rw [htrim] at hdecode
      exact ⟨htrim, decodeCTE_eq_iff.mp hdecode⟩
    · rintro ⟨htrim, hun⟩
      rw [htrim]
      exact decodeCTE_eq_iff.mpr hun
  | some i =>
    refine iff_of_false (fun hdecode => ?_) fun hnone => by cases hnone.1
    rw [Option.getD_some] at hdecode
    have h1 := length_decodeCTE_le (trimSpace (h.take i)) cte
    have h2 := length_trimSpace_le (h.take i)
    have h3 := index_le_length hi
    rw [hdecode] at h1
    rw [List.length_take] at h2
    rw [dashLine_eq, List.length_cons] at h3
    omega

lemma blankLine_append {header : Bytes} (hheader : index blank (header ++ blank) = some header.length) (t : Bytes) :
    blankLine (header ++ blank ++ t) = some (header.length, 4) := by
  have hindex : index crlf2 (header ++ blank ++ t) = some header.length :=
    index_append_of_some (List.cons_ne_nil _ _) hheader t
  unfold blankLine
  rw [hindex]

namespace Multipart

variable {m : Multipart} {headers : Bytes}

/-- The places that the search goes through. -/
lemma htmlSection_spec (hl : Table lower) (hm : m.htmlSection lower = some headers) (t : Bytes) :
    ∃ start, index htmlMarker (toLower lower ((m.front ++ t).drop m.header.length)) = some start ∧
      (m.front ++ t).drop (m.header.length + start) = headers ++ (blank ++ t) ∧
      m.header.length + start + headers.length + 4 = m.front.length ∧
      index blank (headers ++ blank) = some headers.length := by
  unfold htmlSection at hm
  cases hstart : index htmlMarker (toLower lower (m.front.drop m.header.length)) with
  | none => simp [hstart] at hm
  | some start =>
    set rest := m.front.drop (m.header.length + start) with hrest
    cases hj : index blank rest with
    | none => simp [hstart, ← hrest, hj] at hm
    | some j =>
      by_cases hlen : j + 4 = rest.length
      swap
      · simp [hstart, ← hrest, hj, hlen] at hm
      obtain rfl : rest.take j = headers := by
        simpa [hstart, ← hrest, hj, hlen] using hm
      have hend : m.header.length + start + (j + 4) = m.front.length := by
        rw [hrest, List.length_drop] at hlen
        omega
      have htake : (rest.take j).length = j := by
        rw [List.length_take]
        omega
      have hblank : rest = rest.take j ++ blank := by
        have hat : blank <+: rest.drop j := (index_eq_some_iff.mp hj).1.2
        have hall : rest.drop j = blank := by
          refine (hat.eq_of_length ?_).symm
          rw [List.length_drop, ← hlen, Nat.add_sub_cancel_left]
          rfl
        rw [← hall, List.take_append_drop]
      refine ⟨start, ?_, ?_, by omega, ?_⟩
      · have hascii : m.front.drop m.header.length =
            blank ++ m.before.drop 2 ++ m.head ++ [0x0D, 0x0A, 0x0D] ++ [0x0A] := by
          simp [front, blank]
        have hdrop : (m.front ++ t).drop m.header.length = m.front.drop m.header.length ++ t :=
          List.drop_append_of_le_length (by omega)
        rw [hdrop, hascii, toLower_concat_append hl (by decide), ← hascii]
        exact index_append_of_some (by decide) hstart _
      · rw [List.drop_append_of_le_length (by omega), ← hrest, ← List.append_assoc, ← hblank]
      · rw [← hblank, htake]
        exact hj

/-- **What Gmail reads** behind the header of the part. -/
lemma extractHTML_eq (hl : Table lower) (hm : m.htmlSection lower = some headers) (t : Bytes) :
    extractHTMLFromRFC822 lower (m.front ++ t) =
      (detectCTE lower headers).map (decodeCTE (trimSpace (t.take (partEnd t)))) := by
  obtain ⟨start, hstart, hdrop, hlen, hclean⟩ := htmlSection_spec hl hm t
  have hraw : m.front ++ t = m.header ++ blank ++ (m.before.drop 2 ++ (m.head ++ (blank ++ t))) := by
    simp only [front, List.append_assoc]
  have hline : blankLine (m.front ++ t) = some (m.header.length, 4) := by
    rw [hraw]
    exact blankLine_append m.header_clean _
  have hpart : blankLine (headers ++ (blank ++ t)) = some (headers.length, 4) := by
    rw [← List.append_assoc]
    exact blankLine_append hclean t
  have hin : ¬ ((m.front ++ t).drop m.header.length).length < start := by
    rw [List.length_drop, List.length_append]
    omega
  have hfour : ¬ (headers ++ (blank ++ t)).length < headers.length + 4 := by
    rw [List.length_append, List.length_append, show blank.length = 4 from rfl]
    omega
  have hcontent : (headers ++ (blank ++ t)).drop (headers.length + 4) = t := by
    rw [List.drop_length_add_append]
    rfl
  unfold extractHTMLFromRFC822
  simp only [hline, hstart, if_neg hin, List.drop_drop, hdrop, extractPart, hpart, if_neg hfour, hcontent, List.take_left]

/-- **What Gmail writes** there. -/
lemma replaceHTML_eq (hl : Table lower) (hm : m.htmlSection lower = some headers) (t h : Bytes) :
    replaceHTMLInRFC822 lower (m.front ++ t) h = some (m.front ++ h ++ t.drop (partEnd t), true) := by
  obtain ⟨start, hstart, hdrop, hlen, hclean⟩ := htmlSection_spec hl hm t
  have hraw : m.front ++ t = m.header ++ blank ++ (m.before.drop 2 ++ (m.head ++ (blank ++ t))) := by
    simp only [front, List.append_assoc]
  have hline : blankLine (m.front ++ t) = some (m.header.length, 4) := by
    rw [hraw]
    exact blankLine_append m.header_clean _
  have hpart : blankLine (headers ++ (blank ++ t)) = some (headers.length, 4) := by
    rw [← List.append_assoc]
    exact blankLine_append hclean t
  have hin : ¬ (m.front ++ t).length < m.header.length + start := by
    rw [List.length_append]
    omega
  unfold replaceHTMLInRFC822
  simp only [hline, hstart, if_neg hin, hdrop, hpart, hlen, List.take_left, List.drop_left, List.drop_length_add_append]

/-- What is left of a content behind its first line that begins with `--`. -/
def leftover (content : Bytes) : Bytes := content.drop ((index (bytesOf "\r\n--") content).getD content.length)

/-- A text before what is left belongs to one part, if it does so alone and has no such line. -/
lemma fits_append_leftover (hcontent : m.Fits content) (hdash : index (bytesOf "\r\n--") h = none)
    (hmark : ¬ mark m.boundary <+: h) : m.Fits (h ++ leftover content) := by
  rw [fits_iff] at hcontent ⊢
  have hdelimiter : index (delimiter m.boundary) h = none := by
    -- a delimiter is a line that begins with `--`
    refine index_eq_none_iff.mpr fun j hj hat => index_eq_none_iff.mp hdash j hj ?_
    rw [dashLine_eq]
    exact List.IsPrefix.trans ⟨m.boundary, rfl⟩ hat
  unfold leftover
  cases hi : index (bytesOf "\r\n--") content with
  | none =>
    rw [Option.getD_none, List.drop_length, List.append_nil]
    exact ⟨hdelimiter, hmark⟩
  | some i =>
    obtain ⟨u, hu⟩ : bytesOf "\r\n--" <+: content.drop i := (index_eq_some_iff.mp hi).1.2
    rw [dashLine_eq] at hu
    have hrest : index (delimiter m.boundary) (content.drop i) = none := by
      refine index_eq_none_iff.mpr fun j _ hat => ?_
      have hat' : At (delimiter m.boundary) content (i + j) := by
        unfold At at *
        rwa [List.drop_drop] at hat
      exact index_eq_none_iff.mp hcontent.1 (i + j) (hat'.lt_length (delimiter_ne_nil _)).le hat'
    rw [Option.getD_some]
    constructor
    · have hcross : NoCross (delimiter m.boundary) h (content.drop i) := by
        rw [← hu]
        exact noCross_of_head m.cr_not_mem h _
      rw [index_append (delimiter_ne_nil _) hcross, hdelimiter, hrest]
      rfl
    · intro hstarts
      rw [← hu] at hstarts
      by_cases hlen : (mark m.boundary).length ≤ h.length
      · exact hmark ((prefix_append_iff_of_length_le hlen).mp hstarts)
      · exact m.cr_not_mem_mark (List.mem_of_getElem? (At.getElem?_eq (at_zero.mpr hstarts) (Nat.zero_le _) (by omega)))

/-- **Gmail, several parts.** -/
lemma gmailTrip_iff (hl : Table lower) (hm : m.htmlSection lower = some headers) (hcontent : m.Fits content) (h : Bytes) :
    m.GmailTrip lower content h ↔ Storable lower headers m.boundary h := by
  have hle : ∀ s : Bytes, (index (bytesOf "\r\n--") s).getD s.length ≤ s.length := by
    intro s
    cases hi : index (bytesOf "\r\n--") s with
    | none => exact le_rfl
    | some i => exact (Nat.le_add_right _ _).trans (index_le_length hi)
  have hreplace : replaceHTMLInRFC822 lower (m.render content) h = some (m.render (h ++ leftover content), true) := by
    rw [m.render_eq, replaceHTML_eq hl hm, partEnd_append, List.drop_append_of_le_length (hle content), m.render_eq,
      List.append_assoc, List.append_assoc]
    rfl
  have hextract : extractHTMLFromRFC822 lower (m.render (h ++ leftover content)) =
      (detectCTE lower headers).map (decodeCTE (trimSpace (h.take ((index (bytesOf "\r\n--") h).getD h.length)))) := by
    have hend : (index (bytesOf "\r\n--") (h ++ leftover content)).getD (h ++ leftover content).length =
        (index (bytesOf "\r\n--") h).getD h.length := by
      unfold leftover
      cases hi : index (bytesOf "\r\n--") content with
      | none => rw [Option.getD_none, List.drop_length, List.append_nil]
      | some i =>
        have hrest : bytesOf "\r\n--" <+: content.drop i := (index_eq_some_iff.mp hi).1.2
        rw [Option.getD_some, index_dashLine_append hrest, Option.getD_some]
    rw [m.render_eq, extractHTML_eq hl hm, partEnd_append, hend, List.append_assoc, List.take_append_of_le_length (hle h)]
  have hstored : ∀ c, some (m.render (h ++ leftover content), true) = some (m.render c, true) →
      c = h ++ leftover content := by
    intro c hc
    have heq : m.render (h ++ leftover content) = m.render c := by simpa using hc
    rw [m.render_eq, m.render_eq] at heq
    exact (List.append_cancel_right (List.append_cancel_left heq)).symm
  unfold Multipart.GmailTrip Storable
  rw [hreplace]
  constructor
  · rintro ⟨c, hc, htext, hparts⟩
    rw [hstored c hc] at htext hparts
    rw [hextract] at htext
    obtain ⟨cte, hcte, hdecode⟩ := Option.map_eq_some_iff.mp htext
    obtain ⟨hdash, htrim, hun⟩ := read_eq_iff.mp hdecode
    refine ⟨hdash, fun hmark => ?_, htrim, cte, hcte, hun⟩
    exact ((m.fits_iff _).mp ((m.sameParts_iff _).mp hparts)).2 (hmark.trans (List.prefix_append _ _))
  · rintro ⟨hdash, hmark, htrim, cte, hcte, hun⟩
    refine ⟨h ++ leftover content, rfl, ?_, (m.sameParts_iff _).mpr (fits_append_leftover hcontent hdash hmark)⟩
    rw [hextract, hcte, Option.map_some, read_eq_iff.mpr ⟨hdash, htrim, hun⟩]

end Multipart

/-- The marker in a text behind a blank line. -/
lemma index_marker_blank (hl : Table lower) (t : Bytes) :
    index htmlMarker (toLower lower (blank ++ t)) = (index htmlMarker (toLower lower t)).map (· + 4) := by
  have hlower : toLower lower (blank ++ t) = blank ++ toLower lower t := by
    have h : blank ++ t = [0x0D, 0x0A, 0x0D] ++ [0x0A] ++ t := rfl
    rw [h, toLower_concat_append hl (by decide)]
    simp only [toLower, List.cons_append, List.nil_append,
      toLowerFrom_ascii hl (show (0x0D : UInt8).toNat < 0x80 by decide),
      toLowerFrom_ascii hl (show (0x0A : UInt8).toNat < 0x80 by decide)]
    rfl
  have hw : htmlMarker = 0x63 :: htmlMarker.tail := rfl
  rw [hlower, hw]
  simp [blank, index, List.cons_prefix_cons, Option.map_map, Function.comp_def]

/-- What is read behind a marker is shorter than the text with the marker. -/
lemma length_extractPart_le {s t : Bytes} (h : extractPart lower s = some t) : t = [] ∨ t.length + 2 ≤ s.length := by
  unfold extractPart at h
  cases hline : blankLine s with
  | none =>
    simp only [hline] at h
    exact .inl (Option.some.inj h).symm
  | some x =>
    obtain ⟨i, width⟩ := x
    have hwidth : i + 2 ≤ i + width ∧ i + width ≤ s.length := by
      unfold blankLine at hline
      cases hcr : index crlf2 s with
      | some j =>
        rw [hcr] at hline
        cases hline
        exact ⟨by omega, index_le_length hcr⟩
      | none =>
        rw [hcr] at hline
        obtain ⟨j, hj, heq⟩ := Option.map_eq_some_iff.mp hline
        cases heq
        exact ⟨le_rfl, index_le_length hj⟩
    simp only [hline] at h
    split_ifs at h with hshort
    obtain ⟨cte, -, rfl⟩ := Option.map_eq_some_iff.mp h
    set c := s.drop (i + width) with hc
    have h1 := length_decodeCTE_le (trimSpace (c.take (partEnd c))) cte
    have h2 := length_trimSpace_le (c.take (partEnd c))
    have h3 : (c.take (partEnd c)).length ≤ c.length := List.length_take_le' _ _
    have h4 : c.length = s.length - (i + width) := List.length_drop
    exact .inr (by omega)

/-- **Gmail, one part.** -/
lemma SinglePart.gmailTrip_iff (hl : Table lower) (m : SinglePart) (hm : index htmlMarker (toLower lower m.header) ≠ none)
    (hcontent : index htmlMarker (toLower lower content) = none) (h : Bytes) :
    m.GmailTrip lower content h ↔ index htmlMarker (toLower lower h) = none ∧
      ∃ cte, detectCTE lower m.header = some cte ∧ Undecoded cte h := by
  obtain ⟨k, hk⟩ := Option.ne_none_iff_exists'.mp hm
  have hline : ∀ c, blankLine (m.render c) = some (m.header.length, 4) := fun c => blankLine_append m.header_clean c
  have hheader : ∀ c, (m.render c).take m.header.length = m.header := fun c => by
    rw [render, List.append_assoc, List.take_left]
  have hbody : ∀ c, (m.render c).drop m.header.length = blank ++ c := fun c => by
    rw [render, List.append_assoc, List.drop_left]
  have hfour : ∀ c, (m.render c).drop (m.header.length + 4) = c := fun c => by
    rw [← List.drop_drop, hbody]
    rfl
  have hreplace : replaceHTMLInRFC822 lower (m.render content) h = some (m.render h, true) := by
    have htake : (m.render content).take (m.header.length + 4) = m.header ++ blank := by
      rw [render, show m.header.length + 4 = (m.header ++ blank).length by rw [List.length_append]; rfl, List.take_left]
    unfold replaceHTMLInRFC822
    simp only [hline, hbody, index_marker_blank hl, hcontent, Option.map_none, hheader, hk, htake]
    rfl
  have hstored : ∀ c, some (m.render h, true) = some (m.render c, true) → c = h := by
    intro c hc
    have heq : m.render h = m.render c := by simpa using hc
    exact (List.append_cancel_left heq).symm
  have hextract : extractHTMLFromRFC822 lower (m.render h) =
      match index htmlMarker (toLower lower h) with
      | none => (detectCTE lower m.header).map (decodeCTE h)
      | some start =>
        if (blank ++ h).length < start + 4 then none else extractPart lower ((blank ++ h).drop (start + 4)) := by
    unfold extractHTMLFromRFC822
    simp only [hline, hbody, index_marker_blank hl, hheader, hk, hfour]
    cases index htmlMarker (toLower lower h) <;> rfl
  unfold SinglePart.GmailTrip
  rw [hreplace]
  constructor
  · rintro ⟨c, hc, htext⟩
    rw [hstored c hc, hextract] at htext
    cases hstart : index htmlMarker (toLower lower h) with
    | none =>
      simp only [hstart] at htext
      obtain ⟨cte, hcte, hdecode⟩ := Option.map_eq_some_iff.mp htext
      exact ⟨rfl, cte, hcte, decodeCTE_eq_iff.mp hdecode⟩
    | some start =>
      -- what is read behind the marker is too short
      simp only [hstart] at htext
      split_ifs at htext with hin
      rcases length_extractPart_le htext with rfl | hlen
      · have hnone : index htmlMarker (toLower lower []) = none := by
          show index htmlMarker [] = none
          decide
        rw [hnone] at hstart
        cases hstart
      · rw [List.length_drop, List.length_append, show blank.length = 4 from rfl] at hlen
        omega
  · rintro ⟨hnone, cte, hcte, hun⟩
    refine ⟨h, rfl, ?_⟩
    rw [hextract, hnone]
    simp only [hcte, Option.map_some, decodeCTE_eq_iff.mpr hun]

end Gmail

/-! ### Both -/

/-- **A new text comes back, and nothing else changes**, in a message whose HTML part is found: with Gmail exactly for a
text that is read as it is stored, in a single part also without the marker; with Fastmail exactly for a text that
brings the line break before the next mark and does not have the mark, in a single part always. -/
theorem rewrite_trips {lower : ℕ → ℕ} (hl : Table lower) (content h : Bytes) :
    (∀ (m : Multipart) (headers : Bytes), m.Fits content → m.htmlSection lower = some headers →
      (m.GmailTrip lower content h ↔ Storable lower headers m.boundary h)) ∧
    (∀ m : SinglePart, index Gmail.htmlMarker (toLower lower m.header) ≠ none →
      index Gmail.htmlMarker (toLower lower content) = none →
      (m.GmailTrip lower content h ↔ index Gmail.htmlMarker (toLower lower h) = none ∧
        ∃ cte, Gmail.detectCTE lower m.header = some cte ∧ Undecoded cte h)) ∧
    (∀ m : Multipart, m.FastmailFinds lower content →
      (m.FastmailTrip lower content h ↔ Fastmail.crlf <:+ h ∧ index (mark m.boundary) h = none)) ∧
    (∀ m : SinglePart,
      bytesOf "text/html" <+: toLower lower (Fastmail.extractHeaderValue lower m.header Fastmail.contentTypeName) →
      m.FastmailTrip lower content h) :=
  ⟨fun _ _ hcontent hm => Multipart.gmailTrip_iff hl hm hcontent h,
    fun m hm hcontent => m.gmailTrip_iff hl hm hcontent h,
    fun _ hm => Multipart.fastmailTrip_iff hm h, fun m hm => m.fastmailTrip hm content h⟩

section Samples

/-- A message of two versions; the HTML has the header `head`. -/
def twoVersions (head : Bytes) (hclean : index blank (head ++ blank) = some head.length)
    (hpiece : index (delimiter (bytesOf "b1")) head = none) : Multipart where
  header := bytesOf "Subject: x\r\nContent-Type: multipart/alternative; boundary=b1"
  boundary := bytesOf "b1"
  lead := []
  earlier := [bytesOf "\r\nContent-Type: text/plain\r\n\r\nhi"]
  head := head
  later := [bytesOf "--\r\n"]
  header_clean := by decide +kernel
  boundary_ne := by decide +kernel
  boundary_cr := by decide +kernel
  boundary_lf := by decide +kernel
  lead_eq := .inl rfl
  head_clean := hclean
  later_ne := by decide +kernel
  pieces_clean := by
    have hfirst : index (delimiter (bytesOf "b1")) [] = none := by decide +kernel
    have htext : index (delimiter (bytesOf "b1")) (bytesOf "\r\nContent-Type: text/plain\r\n\r\nhi") = none := by
      decide +kernel
    have hend : index (delimiter (bytesOf "b1")) (bytesOf "--\r\n") = none := by decide +kernel
    simp [hfirst, htext, hend, hpiece]

/-- The HTML as it is. -/
def sevenBit : Multipart :=
  twoVersions (bytesOf "\r\nContent-Type: text/html") (by decide +kernel) (by decide +kernel)

/-- The HTML in an encoding. -/
def printable : Multipart :=
  twoVersions (bytesOf "\r\nContent-Type: text/html\r\nContent-Transfer-Encoding: quoted-printable")
    (by decide +kernel) (by decide +kernel)

lemma sevenBit_section : sevenBit.htmlSection lowerTable = some (bytesOf "Content-Type: text/html") := by
  decide +kernel

lemma printable_section : printable.htmlSection lowerTable =
    some (bytesOf "Content-Type: text/html\r\nContent-Transfer-Encoding: quoted-printable") := by
  decide +kernel

lemma sevenBit_finds : sevenBit.FastmailFinds lowerTable (bytesOf "<p>hi</p>") where
  type := by decide +kernel
  boundary := by decide +kernel
  skipped := by decide +kernel
  head := by decide +kernel
  unmarked := by decide +kernel

/-- **The failing inputs**: Gmail removes the line break at the end of a text, and decodes the query of a link as a
letter; Fastmail joins the text and the next mark to one line. -/
theorem rewrite_broken :
    ¬ sevenBit.GmailTrip lowerTable (bytesOf "<p>hi</p>") (bytesOf "<p>ho</p>\n") ∧
    ¬ printable.GmailTrip lowerTable (bytesOf "<p>hi</p>") (bytesOf "<a href='u?x=41'>ho</a>") ∧
    ¬ sevenBit.FastmailTrip lowerTable (bytesOf "<p>hi</p>") (bytesOf "<p>ho</p>") := by
  have hseven : sevenBit.Fits (bytesOf "<p>hi</p>") := by decide +kernel
  have hprintable : printable.Fits (bytesOf "<p>hi</p>") := by decide +kernel
  refine ⟨fun h => ?_, fun h => ?_, fun h => ?_⟩
  · obtain ⟨-, -, htrim, -⟩ := (Multipart.gmailTrip_iff lowerTable_table sevenBit_section hseven _).mp h
    exact absurd htrim (by decide +kernel)
  · obtain ⟨-, -, -, cte, hcte, hun⟩ := (Multipart.gmailTrip_iff lowerTable_table printable_section hprintable _).mp h
    have hsome : some cte = some (bytesOf "quoted-printable") := by
      rw [← hcte]
      decide +kernel
    exact absurd (hun.2 (Option.some.inj hsome)) (by decide +kernel)
  · obtain ⟨hend, -⟩ := (Multipart.fastmailTrip_iff sevenBit_finds _).mp h
    exact absurd hend (by decide +kernel)

/-- A message of HTML alone. -/
def plainHTML : SinglePart where
  header := bytesOf "Content-Type: text/html"
  header_clean := by decide +kernel

/-- A text that Gmail stores as it is, and one with the line break that Fastmail needs. -/
theorem rewrite_trips_sample :
    sevenBit.GmailTrip lowerTable (bytesOf "<p>hi</p>") (bytesOf "<p>ho</p>") ∧
    plainHTML.GmailTrip lowerTable (bytesOf "<p>hi</p>") (bytesOf "<p>ho</p>") ∧
    sevenBit.FastmailTrip lowerTable (bytesOf "<p>hi</p>") (bytesOf "<p>ho</p>\r\n") ∧
    plainHTML.FastmailTrip lowerTable (bytesOf "<p>hi</p>") (bytesOf "<p>ho</p>\r\n") := by
  have hseven : ∀ h, Undecoded (bytesOf "7bit") h := fun h =>
    ⟨fun hb => absurd hb (by decide +kernel), fun hb => absurd hb (by decide +kernel)⟩
  obtain ⟨hg, hgs, -, -⟩ := rewrite_trips lowerTable_table (bytesOf "<p>hi</p>") (bytesOf "<p>ho</p>")
  obtain ⟨-, -, hf, hfs⟩ := rewrite_trips lowerTable_table (bytesOf "<p>hi</p>") (bytesOf "<p>ho</p>\r\n")
  refine ⟨(hg sevenBit _ (by decide +kernel) sevenBit_section).mpr ⟨by decide +kernel, by decide +kernel, by decide +kernel,
    bytesOf "7bit", by decide +kernel, hseven _⟩, ?_, ?_, ?_⟩
  · exact (hgs plainHTML (by decide +kernel) (by decide +kernel)).mpr
      ⟨by decide +kernel, bytesOf "7bit", by decide +kernel, hseven _⟩
  · exact (hf sevenBit sevenBit_finds).mpr ⟨by decide +kernel, by decide +kernel⟩
  · exact hfs plainHTML (by decide +kernel)

end Samples

end Sn360Es.Provider
