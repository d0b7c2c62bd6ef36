import Sn360Es.Intel.Indicator
import Sn360Es.Lib.GoStrings
import Mathlib.Data.List.Chain
import Mathlib.Data.List.TakeWhile

/-!
# STIX patterns (`pkg/intel/stixtaxii/stixtaxii.go`)

`parsePattern` collects the matches of a regular expression for a bracket with one comparison in it, from left to right.
At a given place there is no choice in matching it (`clauseAt_iff`), so the matches are read by a function.

A pattern is a sequence of comparisons with a link between any two: `AND` or `OR` in one bracket, or the end of a
bracket, `AND`, `OR` or `FOLLOWEDBY`, and the start of the next one.

* `reads_open`, `reads_amid` — a match that starts at a bracket is of its comparison, and one that starts in a quoted
  value ends in the next one;
* `count_le` — so there is no more than one match for each comparison;
* `parsePattern_iff` — the clauses are those of the comparisons exactly if each of them has a bracket of its own.
-/

namespace Sn360Es.Intel

open Lib

/-! ### The regular expression -/

/-- `\s`. -/
def space (c : Char) : Bool := ['\t', '\n', '\x0c', '\r', ' '].contains c

/-- `[a-zA-Z0-9_\-]`. -/
def typeChar (c : Char) : Bool := c.isAlphanum || c = '_' || c = '-'

/-- The characters of a path. -/
def pathChar (c : Char) : Bool := typeChar c || ['.', ':', '\'', '"', '\\'].contains c

/-- The submatches. -/
structure Match where
  objType : List Char
  prop : List Char
  value : List Char
  deriving DecidableEq, Repr

def spaces (s : List Char) : List Char := s.dropWhile space

def expect (c : Char) : List Char → Option (List Char)
  | [] => none
  | d :: s => if d = c then some s else none

def many1 (p : Char → Bool) (s : List Char) : Option (List Char × List Char) :=
  if s.takeWhile p = [] then none else some (s.takeWhile p, s.dropWhile p)

/-- `((?:[^'\\]|\\.)*)'`; the dot is not a line feed. -/
def quoted : List Char → Option (List Char × List Char)
  | [] => none
  | c :: s =>
    if c = '\'' then some ([], s)
    else if c = '\\' then
      match s with
      | [] => none
      | d :: s => if d = '\n' then none else (quoted s).map fun (v, r) => (c :: d :: v, r)
    else (quoted s).map fun (v, r) => (c :: v, r)

/-- `clauseRegex`, at the start of a text. -/
def clauseAt (s : List Char) : Option (Match × List Char) :=
  (expect '[' s).bind fun s =>
  (many1 typeChar (spaces s)).bind fun (objType, s) =>
  (expect ':' s).bind fun s =>
  (many1 pathChar s).bind fun (prop, s) =>
  (expect '=' (spaces s)).bind fun s =>
  (expect '\'' (spaces s)).bind fun s =>
  (quoted s).bind fun (value, s) =>
  (expect ']' (spaces s)).map fun s => (⟨objType, prop, value⟩, s)

/-- The matches of the next `n` places. -/
def scan : ℕ → List Char → List Match
  | 0, _ => []
  | _ + 1, [] => []
  | n + 1, c :: s =>
    match clauseAt (c :: s) with
    | some (m, rest) => m :: scan n rest
    | none => scan n s

/-- `FindAllStringSubmatch`. -/
def findAll (s : List Char) : List Match := scan s.length s

/-! ### Clauses -/

/-- `patternClause`. -/
structure PatternClause where
  typ : IndicatorType
  value : String
  deriving DecidableEq, Repr

def unescape : List Char → Option (List Char)
  | [] => some []
  | c :: s =>
    if c ≠ '\\' then (unescape s).map (c :: ·)
    else
      match s with
      | [] => none
      | next :: s => (unescape s).map (next :: ·)

/-- `unquoteSTIX`. -/
def unquoteSTIX (s : List Char) : Option (List Char) := if '\\' ∉ s then some s else unescape s

def mapObservable (objType prop : String) : Option IndicatorType :=
  if objType = "domain-name" then if prop = "value" then some .domain else none
  else if objType = "url" then if prop = "value" then some .url else none
  else if objType = "ipv4-addr" ∨ objType = "ipv6-addr" then if prop = "value" then some .ip else none
  else if objType = "file" then
    if GoStrings.contains prop "sha-256" ∨ GoStrings.contains prop "sha256" then some .sha256 else none
  else none

/-- `strings.ToLower`, of a text in ASCII. -/
def lower (s : List Char) : String := String.ofList (s.map Char.toLower)

/-- The clause of a match. -/
def Match.clause (m : Match) : Option PatternClause :=
  (unquoteSTIX m.value).bind fun value =>
    (mapObservable (lower m.objType) (lower m.prop)).map fun typ => ⟨typ, String.ofList value⟩

def parsePattern (pattern : String) : List PatternClause := (findAll pattern.toList).filterMap Match.clause

/-! ### Patterns -/

/-- The white space of the grammar of STIX. -/
def stixSpaces : List Char :=
  ['\t', '\n', '\x0b', '\x0c', '\r', ' ', '\u0085', '\u00a0', '\u1680', '\u2000', '\u2001', '\u2002', '\u2003',
    '\u2004', '\u2005', '\u2006', '\u2007', '\u2008', '\u2009', '\u200a', '\u2028', '\u2029', '\u202f', '\u205f',
    '\u3000']

/-- White space. -/
abbrev Spaces := { s : List Char // ∀ c ∈ s, c ∈ stixSpaces }

/-- White space and parentheses. -/
abbrev Blanks := { s : List Char // ∀ c ∈ s, c ∈ '(' :: ')' :: stixSpaces }

/-- A string literal: the quote and the backslash are escaped. -/
def escape : List Char → List Char
  | [] => []
  | c :: v => if c = '\'' ∨ c = '\\' then '\\' :: c :: escape v else c :: escape v

/-- A comparison `objType:prop = 'value'` on a supported observable. -/
structure Comparison where
  objType : List Char
  prop : List Char
  /-- Before and after the equality sign. -/
  before : Spaces := ⟨[' '], List.forall_mem_singleton.mpr (by decide)⟩
  after : Spaces := ⟨[' '], List.forall_mem_singleton.mpr (by decide)⟩
  value : List Char
  objType_ne : objType ≠ []
  objType_chars : ∀ c ∈ objType, typeChar c = true
  prop_ne : prop ≠ []
  prop_chars : ∀ c ∈ prop, pathChar c = true
  supported : (mapObservable (lower objType) (lower prop)).isSome = true

namespace Comparison

variable (c : Comparison)

/-- Up to the equality sign. -/
def path : List Char := c.objType ++ ':' :: c.prop ++ c.before.1

/-- Up to the value. -/
def head : List Char := c.path ++ '=' :: c.after.1

def text (s : List Char) : List Char := c.head ++ '\'' :: escape c.value ++ '\'' :: s

/-- What it is about. -/
def clause : PatternClause :=
  ⟨(mapObservable (lower c.objType) (lower c.prop)).get c.supported, String.ofList c.value⟩

/-- The match of the comparison. -/
def asMatch : Match := ⟨c.objType, c.prop, escape c.value⟩

end Comparison

inductive Junction where
  | and | or
  deriving DecidableEq, Repr

inductive Combination where
  | and | or | followedBy
  deriving DecidableEq, Repr

def Junction.text : Junction → List Char
  | and => "AND".toList
  | or => "OR".toList

def Combination.text : Combination → List Char
  | and => "AND".toList
  | or => "OR".toList
  | followedBy => "FOLLOWEDBY".toList

/-- What is between two comparisons. -/
inductive Link where
  /-- They are in one bracket; something separates the word from the next comparison. -/
  | within (before : Blanks) (word : Junction) (sep : Char) (hsep : sep ∈ '(' :: ')' :: stixSpaces) (after : Blanks)
  /-- A bracket ends, and another one starts. -/
  | between (close before : Blanks) (word : Combination) (after opening : Blanks)

def Link.text : Link → List Char → List Char
  | .within before word sep _ after, s => before.1 ++ word.text ++ sep :: after.1 ++ s
  | .between close before word after opening, s =>
    close.1 ++ ']' :: before.1 ++ word.text ++ after.1 ++ '[' :: opening.1 ++ s

/-- The text of a link by itself. -/
def Link.chars (l : Link) : List Char := l.text []

/-- The rest of a pattern, after a comparison. -/
def restText (final : List Char) : List (Link × Comparison) → List Char
  | [] => final
  | (l, c) :: rest => l.text (c.text (restText final rest))

structure Pattern where
  lead : Blanks := ⟨[], List.forall_mem_nil _⟩
  opening : Blanks := ⟨[], List.forall_mem_nil _⟩
  first : Comparison
  rest : List (Link × Comparison) := []
  close : Blanks := ⟨[], List.forall_mem_nil _⟩
  trail : Blanks := ⟨[], List.forall_mem_nil _⟩

namespace Pattern

variable (p : Pattern)

def final : List Char := p.close.1 ++ ']' :: p.trail.1

def text : List Char := p.lead.1 ++ '[' :: p.opening.1 ++ p.first.text (restText p.final p.rest)

/-- One clause for each comparison, in their order. -/
def clauses : List PatternClause := p.first.clause :: p.rest.map fun x => x.2.clause

end Pattern

/-- It has no white space that the regular expression does not know. -/
def Comparison.Plain (c : Comparison) : Prop := ∀ x ∈ c.before.1 ++ c.after.1, space x = true

/-- A bracket ends and another one starts, next to its comparison. -/
def Link.Plain : Link → Prop
  | .within _ _ _ _ _ => False
  | .between close _ _ _ opening => ∀ x ∈ close.1 ++ opening.1, space x = true

/-- **The condition.** Every comparison has a bracket of its own, with no parentheses in it and no white space besides
that of the regular expression. -/
def Pattern.Plain (p : Pattern) : Prop :=
  (∀ x ∈ p.opening.1 ++ p.close.1, space x = true) ∧ p.first.Plain ∧ ∀ x ∈ p.rest, x.1.Plain ∧ x.2.Plain

/-! ### What is read -/

/-- The texts of `(?:[^'\\]|\\.)*`. -/
inductive QuotedText : List Char → Prop where
  | nil : QuotedText []
  | plain {c : Char} {v : List Char} (hquote : c ≠ '\'') (hslash : c ≠ '\\') (h : QuotedText v) : QuotedText (c :: v)
  | pair {c : Char} {v : List Char} (hline : c ≠ '\n') (h : QuotedText v) : QuotedText ('\\' :: c :: v)

/-- The texts of the regular expression, with their submatches. -/
structure Reads (s : List Char) (m : Match) (rest : List Char) : Prop where
  objType_ne : m.objType ≠ []
  objType_chars : ∀ c ∈ m.objType, typeChar c = true
  prop_ne : m.prop ≠ []
  prop_chars : ∀ c ∈ m.prop, pathChar c = true
  value : QuotedText m.value
  spaced : ∃ w₀ w₁ w₂ w₃ : List Char, (∀ c ∈ w₀ ++ w₁ ++ w₂ ++ w₃, space c = true) ∧
    s = '[' :: (w₀ ++ m.objType ++ ':' :: (m.prop ++ w₁ ++ '=' :: (w₂ ++ '\'' :: (m.value ++ '\'' ::
      (w₃ ++ ']' :: rest)))))

section Readers

variable {c : Char} {p : Char → Bool} {s r a : List Char}

lemma expect_eq_some : expect c s = some r ↔ s = c :: r := by
  cases s with
  | nil => simp [expect]
  | cons d s =>
    simp only [expect, List.cons.injEq]
    rw [Option.ite_none_right_eq_some, Option.some.injEq]

lemma exists_spaces (s : List Char) : ∃ w, (∀ c ∈ w, space c = true) ∧ s = w ++ spaces s :=
  ⟨s.takeWhile space, fun _ => List.mem_takeWhile_imp, List.takeWhile_append_dropWhile.symm⟩

lemma spaces_append {w : List Char} (hw : ∀ c ∈ w, space c = true) (hc : space c = false) :
    spaces (w ++ c :: r) = c :: r := by
  rw [spaces, List.dropWhile_append_of_pos hw, List.dropWhile_cons_of_neg (by simp [hc])]

lemma many1_some (h : many1 p s = some (a, r)) : a ≠ [] ∧ (∀ c ∈ a, p c = true) ∧ s = a ++ r := by
  obtain ⟨hne, heq⟩ := Option.ite_none_left_eq_some.mp h
  cases heq
  exact ⟨hne, fun _ => List.mem_takeWhile_imp, List.takeWhile_append_dropWhile.symm⟩

lemma many1_append (ha : a ≠ []) (hp : ∀ c ∈ a, p c = true) {w : List Char} (hw : ∀ c ∈ w, p c = false)
    (hc : p c = false) : many1 p (a ++ w ++ c :: r) = some (a, w ++ c :: r) := by
  have hstop : (w ++ c :: r).takeWhile p = [] ∧ (w ++ c :: r).dropWhile p = w ++ c :: r := by
    cases w with
    | nil => simp [hc]
    | cons d w =>
      have hd := hw d List.mem_cons_self
      simp [hd]
  have htake : (a ++ w ++ c :: r).takeWhile p = a := by
    rw [List.append_assoc, List.takeWhile_append_of_pos hp, hstop.1, List.append_nil]
  have hdrop : (a ++ w ++ c :: r).dropWhile p = w ++ c :: r := by
    rw [List.append_assoc, List.dropWhile_append_of_pos hp, hstop.2]
  rw [many1, htake, hdrop, if_neg ha]

/-- White space is in no name. -/
lemma pathChar_of_space (h : space c = true) : pathChar c = false := by
  have hall : ['\t', '\n', '\x0c', '\r', ' '].all (pathChar · = false) = true := by decide
  exact of_decide_eq_true (List.all_eq_true.mp hall c (List.contains_iff_mem.mp h))

lemma pathChar_of_typeChar (h : typeChar c = true) : pathChar c = true := by
  rw [pathChar, h]
  rfl

lemma space_of_typeChar (h : typeChar c = true) : space c = false := by
  by_contra hspace
  have hpath := pathChar_of_space (Bool.eq_true_of_not_eq_false hspace)
  rw [pathChar_of_typeChar h] at hpath
  cases hpath

lemma quoted_some : ∀ {s v r : List Char}, quoted s = some (v, r) → QuotedText v ∧ s = v ++ '\'' :: r
  | [], _, _, h => by cases h
  | c :: s, v, r, h => by
    unfold quoted at h
    split_ifs at h with hquote hslash
    · cases h
      exact ⟨.nil, by rw [hquote]; rfl⟩
    · cases s with
      | nil => cases h
      | cons d s =>
        obtain ⟨hline, hmap⟩ := Option.ite_none_left_eq_some.mp h
        obtain ⟨⟨v', r'⟩, hrest, heq⟩ := Option.map_eq_some_iff.mp hmap
        cases heq
        obtain ⟨hv, rfl⟩ := quoted_some hrest
        exact ⟨hslash ▸ .pair hline hv, rfl⟩
    · obtain ⟨⟨v', r'⟩, hrest, heq⟩ := Option.map_eq_some_iff.mp h
      cases heq
      obtain ⟨hv, rfl⟩ := quoted_some hrest
      exact ⟨.plain hquote hslash hv, rfl⟩

lemma quoted_append {v : List Char} (h : QuotedText v) : quoted (v ++ '\'' :: r) = some (v, r) := by
  induction h with
  | nil =>
    rw [List.nil_append]
    unfold quoted
    rw [if_pos rfl]
  | plain hquote hslash h ih =>
    rw [List.cons_append]
    unfold quoted
    rw [if_neg hquote, if_neg hslash, ih]
    rfl
  | pair hline h ih =>
    rw [List.cons_append, List.cons_append]
    unfold quoted
    rw [if_neg (by decide), if_pos rfl]
    simp only [if_neg hline, ih]
    rfl

end Readers

/-- **There is no choice in matching.** -/
lemma clauseAt_iff {s : List Char} {m : Match} {rest : List Char} : clauseAt s = some (m, rest) ↔ Reads s m rest := by
  constructor
  · intro h
    obtain ⟨s₁, h₁, h⟩ := Option.bind_eq_some_iff.mp h
    obtain ⟨⟨objType, s₂⟩, h₂, h⟩ := Option.bind_eq_some_iff.mp h
    obtain ⟨s₃, h₃, h⟩ := Option.bind_eq_some_iff.mp h
    obtain ⟨⟨prop, s₄⟩, h₄, h⟩ := Option.bind_eq_some_iff.mp h
    obtain ⟨s₅, h₅, h⟩ := Option.bind_eq_some_iff.mp h
    obtain ⟨s₆, h₆, h⟩ := Option.bind_eq_some_iff.mp h
    obtain ⟨⟨value, s₇⟩, h₇, h⟩ := Option.bind_eq_some_iff.mp h
    obtain ⟨s₈, h₈, h⟩ := Option.map_eq_some_iff.mp h
    cases h
    obtain ⟨w₀, hw₀, hs₁⟩ := exists_spaces s₁
    obtain ⟨w₁, hw₁, hs₄⟩ := exists_spaces s₄
    obtain ⟨w₂, hw₂, hs₅⟩ := exists_spaces s₅
    obtain ⟨w₃, hw₃, hs₇⟩ := exists_spaces s₇
    obtain ⟨hobj, hobjChars, hs₁'⟩ := many1_some h₂
    obtain ⟨hprop, hpropChars, hs₃⟩ := many1_some h₄
    obtain ⟨hvalue, hs₆⟩ := quoted_some h₇
    refine ⟨hobj, hobjChars, hprop, hpropChars, hvalue, w₀, w₁, w₂, w₃, ?_, ?_⟩
    · intro c hc
      simp only [List.mem_append] at hc
      rcases hc with ((hc | hc) | hc) | hc
      · exact hw₀ c hc
      · exact hw₁ c hc
      · exact hw₂ c hc
      · exact hw₃ c hc
    · rw [expect_eq_some] at h₁ h₃ h₅ h₆ h₈
      rw [h₁, hs₁, hs₁', h₃, hs₃, hs₄, h₅, hs₅, h₆, hs₆, hs₇, h₈]
      simp only [List.append_assoc]
  · rintro ⟨hobj, hobjChars, hprop, hpropChars, hvalue, w₀, w₁, w₂, w₃, hw, rfl⟩
    have hw₀ : ∀ c ∈ w₀, space c = true := fun c hc => hw c (by simp [hc])
    have hw₁ : ∀ c ∈ w₁, space c = true := fun c hc => hw c (by simp [hc])
    have hw₂ : ∀ c ∈ w₂, space c = true := fun c hc => hw c (by simp [hc])
    have hw₃ : ∀ c ∈ w₃, space c = true := fun c hc => hw c (by simp [hc])
    have hobjType : ∀ t, spaces (w₀ ++ m.objType ++ ':' :: t) = m.objType ++ [] ++ ':' :: t := by
      intro t
      obtain ⟨x, objType, hx⟩ := List.exists_cons_of_ne_nil hobj
      rw [hx, List.append_assoc, List.cons_append, spaces_append hw₀ (space_of_typeChar (hobjChars x (by simp [hx])))]
      simp
    unfold clauseAt
    rw [expect_eq_some.mpr rfl, Option.bind_some, hobjType, many1_append hobj hobjChars (by simp) (by decide)]
    simp only [Option.bind_some, List.nil_append]
    rw [expect_eq_some.mpr rfl, Option.bind_some,
      many1_append hprop hpropChars (fun c hc => pathChar_of_space (hw₁ c hc)) (by decide)]
    simp only [Option.bind_some]
    rw [spaces_append hw₁ (by decide), expect_eq_some.mpr rfl, Option.bind_some, spaces_append hw₂ (by decide),
      expect_eq_some.mpr rfl, Option.bind_some, quoted_append hvalue]
    simp only [Option.bind_some]
    rw [spaces_append hw₃ (by decide), expect_eq_some.mpr rfl]
    rfl

lemma Reads.length_lt {s rest : List Char} {m : Match} (h : Reads s m rest) : rest.length < s.length := by
  obtain ⟨w₀, w₁, w₂, w₃, -, rfl⟩ := h.spaced
  simp only [List.length_cons, List.length_append]
  omega

lemma scan_eq_findAll : ∀ {n : ℕ} {s : List Char}, s.length ≤ n → scan n s = findAll s := by
  -- more places than there are do not add a match
  have hmono : ∀ (n k : ℕ) (s : List Char), s.length ≤ n → scan (n + k) s = scan n s := by
    intro n
    induction n with
    | zero =>
      intro k s hs
      obtain rfl := List.length_eq_zero_iff.mp (Nat.le_zero.mp hs)
      cases k <;> rfl
    | succ n ih =>
      intro k s hs
      cases s with
      | nil =>
        rw [Nat.add_right_comm]
        rfl
      | cons c s =>
        rw [List.length_cons] at hs
        rw [Nat.add_right_comm, scan, scan]
        cases hc : clauseAt (c :: s) with
        | none => exact ih k s (by omega)
        | some x =>
          have hlt := (clauseAt_iff.mp hc).length_lt
          rw [List.length_cons] at hlt
          simp only [ih k x.2 (by omega)]
  intro n s hs
  obtain ⟨k, rfl⟩ := Nat.exists_eq_add_of_le hs
  exact hmono s.length k s le_rfl

@[simp] lemma findAll_nil : findAll [] = [] := rfl

lemma findAll_of_reads {s rest : List Char} {m : Match} (h : Reads s m rest) : findAll s = m :: findAll rest := by
  have hlt := h.length_lt
  cases s with
  | nil => cases hlt
  | cons c s =>
    rw [findAll, List.length_cons, scan, clauseAt_iff.mpr h]
    rw [List.length_cons] at hlt
    simp only [scan_eq_findAll (Nat.le_of_lt_succ hlt)]

lemma findAll_of_not_reads {c : Char} {s : List Char} (h : ∀ m rest, ¬ Reads (c :: s) m rest) :
    findAll (c :: s) = findAll s := by
  cases hc : clauseAt (c :: s) with
  | none =>
    rw [findAll, List.length_cons, scan, hc]
    rfl
  | some x => exact absurd (clauseAt_iff.mp hc) (h x.1 x.2)

/-- Nothing is read from a text without a bracket. -/
lemma findAll_skip {g : List Char} (hg : '[' ∉ g) (s : List Char) : findAll (g ++ s) = findAll s := by
  induction g with
  | nil => rfl
  | cons c g ih =>
    obtain ⟨hc, hg⟩ : '[' ≠ c ∧ '[' ∉ g := by simpa using hg
    rw [List.cons_append, findAll_of_not_reads, ih hg]
    intro m rest h
    obtain ⟨w₀, w₁, w₂, w₃, -, heq⟩ := h.spaced
    exact hc (List.cons.inj heq).1.symm

/-! ### Texts that are cut in two ways -/

section Cuts

variable {a b c d : List Char} {x y : Char}

lemma append_cons_cases (h : a ++ x :: b = c ++ y :: d) :
    (∃ z, c = a ++ x :: z ∧ b = z ++ y :: d) ∨ (a = c ∧ x = y ∧ b = d) ∨ (∃ z, a = c ++ y :: z ∧ d = z ++ x :: b) := by
  rcases List.append_eq_append_iff.mp h with ⟨z, hc, hz⟩ | ⟨z, ha, hz⟩
  · cases z with
    | nil =>
      obtain ⟨rfl, rfl⟩ := List.cons.inj hz
      exact Or.inr (Or.inl ⟨by simpa using hc.symm, rfl, rfl⟩)
    | cons u z =>
      obtain ⟨rfl, hb⟩ := List.cons.inj hz
      exact Or.inl ⟨z, hc, hb⟩
  · cases z with
    | nil =>
      obtain ⟨rfl, rfl⟩ := List.cons.inj hz
      exact Or.inr (Or.inl ⟨by simpa using ha, rfl, rfl⟩)
    | cons u z =>
      obtain ⟨rfl, hd⟩ := List.cons.inj hz
      exact Or.inr (Or.inr ⟨z, ha, hd⟩)

/-- Both texts are cut at the first place of a character. -/
lemma append_cons_inj (h : a ++ x :: b = c ++ x :: d) (ha : x ∉ a) (hc : x ∉ c) : a = c ∧ b = d := by
  rcases append_cons_cases h with ⟨z, rfl, -⟩ | ⟨hac, -, hbd⟩ | ⟨z, rfl, -⟩
  · simp at hc
  · exact ⟨hac, hbd⟩
  · simp at ha

/-- A text is not cut at the first place of one character and of another one. -/
lemma append_cons_ne (hxy : x ≠ y) (ha : y ∉ a) (hc : x ∉ c) : a ++ x :: b ≠ c ++ y :: d := by
  intro h
  rcases append_cons_cases h with ⟨z, rfl, -⟩ | ⟨-, hxy', -⟩ | ⟨z, rfl, -⟩
  · simp at hc
  · exact hxy hxy'
  · simp at ha

/-- A character that is not in the first part. -/
lemma append_eq_cons_of_notMem_left {u v : List Char} (h : a ++ b = u ++ x :: v) (hx : x ∉ a) :
    ∃ z, u = a ++ z ∧ b = z ++ x :: v := by
  rcases List.append_eq_append_iff.mp h with ⟨z, hu, hb⟩ | ⟨z, ha, hz⟩
  · exact ⟨z, hu, hb⟩
  · cases z with
    | nil => exact ⟨[], by simpa using ha.symm, hz.symm⟩
    | cons y z =>
      obtain ⟨rfl, -⟩ := List.cons.inj hz
      simp [ha] at hx

/-- A character that is not in the second part. -/
lemma append_eq_cons_of_notMem_right {u v : List Char} (h : a ++ b = u ++ x :: v) (hx : x ∉ b) :
    ∃ z, a = u ++ x :: z ∧ v = z ++ b := by
  rcases List.append_eq_append_iff.mp h with ⟨z, -, hb⟩ | ⟨z, ha, hz⟩
  · simp [hb] at hx
  · cases z with
    | nil =>
      rw [List.nil_append] at hz
      simp [← hz] at hx
    | cons y z =>
      obtain ⟨rfl, hv⟩ := List.cons.inj hz
      exact ⟨z, ha, hv⟩

/-- A text of two kinds of characters is cut in one way. -/
lemma append_inj_of_kinds {p : Char → Bool} (h : a ++ b = c ++ d) (ha : ∀ x ∈ a, p x = true) (hc : ∀ x ∈ c, p x = true)
    (hb : ∀ x ∈ b, p x = false) (hd : ∀ x ∈ d, p x = false) : a = c ∧ b = d := by
  have htake : ∀ {u v : List Char}, (∀ x ∈ u, p x = true) → (∀ x ∈ v, p x = false) → (u ++ v).takeWhile p = u := by
    intro u v hu hv
    rw [List.takeWhile_append_of_pos hu]
    cases v with
    | nil => simp
    | cons x v => simp [hv x List.mem_cons_self]
  obtain rfl : a = c := by rw [← htake ha hb, h, htake hc hd]
  exact ⟨rfl, List.append_cancel_left h⟩

end Cuts

/-! ### Quoted values -/

/-- A quote comes after a backslash. -/
def Escaped (v : List Char) : Prop := v.IsChain fun x y => y = '\'' → x = '\\'

lemma QuotedText.head_ne {v : List Char} (h : QuotedText v) : ∀ y ∈ v.head?, y ≠ '\'' := by
  cases h with
  | nil => simp
  | plain hquote _ _ => simpa using hquote
  | pair _ _ => simp

lemma QuotedText.escaped {v : List Char} (h : QuotedText v) : Escaped v := by
  have hcons : ∀ {c : Char} {v : List Char}, QuotedText v → Escaped v → Escaped (c :: v) := fun hv ih =>
    List.isChain_cons.mpr ⟨fun y hy heq => absurd heq (hv.head_ne y hy), ih⟩
  induction h with
  | nil => exact List.IsChain.nil
  | plain _ _ hv ih => exact hcons hv ih
  | pair _ hv ih => exact List.isChain_cons_cons.mpr ⟨fun _ => rfl, hcons hv ih⟩

lemma quotedText_escape (v : List Char) : QuotedText (escape v) := by
  induction v with
  | nil => exact .nil
  | cons c v ih =>
    unfold escape
    split_ifs with h
    · refine .pair ?_ ih
      rcases h with rfl | rfl <;> decide
    · rw [not_or] at h
      exact .plain h.1 h.2 ih

lemma Escaped.suffix {u v : List Char} (h : Escaped v) (hu : u <:+ v) : Escaped u := List.IsChain.suffix h hu

/-- A quote that does not come after a backslash. -/
lemma Escaped.false_of_quote {a w z : List Char} {x : Char} (h : Escaped (a ++ x :: w ++ '\'' :: z))
    (hw : '\\' ∉ x :: w) : False := by
  obtain ⟨-, -, hjoin⟩ := List.isChain_append.mp h
  obtain ⟨y, hy⟩ : ∃ y, (a ++ x :: w).getLast? = some y := by
    cases hlast : (a ++ x :: w).getLast? with
    | none => simp at hlast
    | some y => exact ⟨y, rfl⟩
  have hmem : y ∈ x :: w := by
    rw [List.getLast?_append_cons] at hy
    exact List.mem_of_getLast? hy
  exact hw (hjoin y hy '\'' rfl rfl ▸ hmem)

lemma unescape_escape (v : List Char) : unescape (escape v) = some v := by
  induction v with
  | nil => rfl
  | cons c v ih =>
    unfold escape
    split_ifs with h
    · unfold unescape
      simp only [ne_eq, not_true_eq_false, if_false, ih]
      rfl
    · rw [not_or] at h
      unfold unescape
      rw [if_pos h.2, ih]
      rfl

lemma unescape_of_notMem {v : List Char} (h : '\\' ∉ v) : unescape v = some v := by
  induction v with
  | nil => rfl
  | cons c v ih =>
    obtain ⟨hc, hv⟩ : '\\' ≠ c ∧ '\\' ∉ v := by simpa using h
    unfold unescape
    rw [if_pos hc.symm, ih hv]
    rfl

/-- **The value of a string literal.** -/
lemma unquoteSTIX_escape (v : List Char) : unquoteSTIX (escape v) = some v := by
  unfold unquoteSTIX
  split_ifs with h
  · exact unescape_escape v
  · rw [← unescape_of_notMem h, unescape_escape]

/-! ### The parts of a pattern -/

lemma notMem_of_forall {p : Char → Bool} {w : List Char} {x : Char} (hw : ∀ c ∈ w, p c = true) (hx : p x = false) :
    x ∉ w := by
  intro hmem
  rw [hw x hmem] at hx
  cases hx

lemma pathChar_of_blank {c : Char} (h : c ∈ '(' :: ')' :: stixSpaces) : pathChar c = false := by
  have hall : ('(' :: ')' :: stixSpaces).all (pathChar · = false) = true := by decide
  exact of_decide_eq_true (List.all_eq_true.mp hall c h)

lemma Blanks.notMem (b : Blanks) {x : Char} (hx : x ∉ '(' :: ')' :: stixSpaces) : x ∉ b.1 := fun h => hx (b.2 x h)

lemma Spaces.notMem (b : Spaces) {x : Char} (hx : x ∉ stixSpaces) : x ∉ b.1 := fun h => hx (b.2 x h)

namespace Comparison

variable (c : Comparison)

lemma notMem_objType {x : Char} (hx : typeChar x = false) : x ∉ c.objType := notMem_of_forall c.objType_chars hx

lemma notMem_prop {x : Char} (hx : pathChar x = false) : x ∉ c.prop := notMem_of_forall c.prop_chars hx

lemma notMem_path {x : Char} (hx : pathChar x = false) (hspace : x ∉ stixSpaces) : x ∉ c.path := by
  have htype : typeChar x = false := by
    rw [← Bool.not_eq_true]
    intro h
    rw [pathChar_of_typeChar h] at hx
    cases hx
  have hcolon : x ≠ ':' := by
    rintro rfl
    revert hx
    decide
  simp [path, c.notMem_objType htype, c.notMem_prop hx, c.before.notMem hspace, hcolon]

/-- Nothing before the value starts a match. -/
lemma notMem_head : '[' ∉ c.head ++ ['\''] := by
  have hpath := c.notMem_path (x := '[') (by decide) (by decide)
  have hafter := c.after.notMem (x := '[') (by decide)
  simp [head, hpath, hafter]

lemma text_eq (s : List Char) : c.text s = (c.head ++ ['\'']) ++ (escape c.value ++ '\'' :: s) := by
  simp [text]

end Comparison

/-- **A match that starts at a bracket** is that of its comparison, which is alone in it. -/
lemma reads_open {opening : Blanks} {c : Comparison} {s rest : List Char} {m : Match}
    (h : Reads ('[' :: (opening.1 ++ c.text s)) m rest) :
    m = c.asMatch ∧ (∀ x ∈ opening.1 ++ c.before.1 ++ c.after.1, space x = true) ∧
      ∃ w, (∀ x ∈ w, space x = true) ∧ s = w ++ ']' :: rest := by
  obtain ⟨w₀, w₁, w₂, w₃, hw, heq⟩ := h.spaced
  have hw₀ : ∀ c ∈ w₀, space c = true := fun c hc => hw c (by simp [hc])
  have hw₁ : ∀ c ∈ w₁, space c = true := fun c hc => hw c (by simp [hc])
  have hw₂ : ∀ c ∈ w₂, space c = true := fun c hc => hw c (by simp [hc])
  have hw₃ : ∀ c ∈ w₃, space c = true := fun c hc => hw c (by simp [hc])
  have htype : ∀ x, typeChar x = true → (!typeChar x) = false := fun x hx => by rw [hx]; rfl
  have hnot : ∀ x, pathChar x = false → (!typeChar x) = true := by
    intro x hx
    cases ht : typeChar x with
    | false => rfl
    | true =>
      rw [pathChar_of_typeChar ht] at hx
      cases hx
  -- up to the colon
  have hcolon : (opening.1 ++ c.objType) ++ ':' :: (c.prop ++ c.before.1 ++ '=' :: (c.after.1 ++ '\'' ::
      (escape c.value ++ '\'' :: s))) = (w₀ ++ m.objType) ++ ':' :: (m.prop ++ w₁ ++ '=' :: (w₂ ++ '\'' ::
      (m.value ++ '\'' :: (w₃ ++ ']' :: rest)))) := by
    have := (List.cons.inj heq).2
    simpa [Comparison.text, Comparison.head, Comparison.path] using this
  obtain ⟨hleft, hright⟩ := append_cons_inj hcolon
    (by simp [opening.notMem (x := ':') (by decide), c.notMem_objType (x := ':') (by decide)])
    (by simp [notMem_of_forall hw₀ (x := ':') (by decide), notMem_of_forall h.objType_chars (x := ':') (by decide)])
  obtain ⟨hopening, hobjType⟩ := append_inj_of_kinds (p := fun x => !typeChar x) hleft
    (fun x hx => hnot x (pathChar_of_blank (opening.2 x hx))) (fun x hx => hnot x (pathChar_of_space (hw₀ x hx)))
    (fun x hx => htype x (c.objType_chars x hx)) (fun x hx => htype x (h.objType_chars x hx))
  -- up to the equality sign
  obtain ⟨hprop, hright⟩ := append_cons_inj hright
    (by simp [c.notMem_prop (x := '=') (by decide), c.before.notMem (x := '=') (by decide)])
    (by simp [notMem_of_forall h.prop_chars (x := '=') (by decide), notMem_of_forall hw₁ (x := '=') (by decide)])
  obtain ⟨hprop, hbefore⟩ := append_inj_of_kinds (p := pathChar) hprop c.prop_chars h.prop_chars
    (fun x hx => pathChar_of_blank (by simp [c.before.2 x hx])) (fun x hx => pathChar_of_space (hw₁ x hx))
  -- up to the value
  obtain ⟨hafter, hright⟩ := append_cons_inj hright (c.after.notMem (by decide)) (notMem_of_forall hw₂ (by decide))
  have hvalue : some (escape c.value, s) = some (m.value, w₃ ++ ']' :: rest) := by
    rw [← quoted_append (quotedText_escape c.value), hright, quoted_append h.value]
  obtain ⟨hvalue, hs⟩ := Prod.mk.inj (Option.some.inj hvalue)
  refine ⟨?_, ?_, w₃, hw₃, hs⟩
  · cases m
    simp only at hobjType hprop hvalue
    rw [Comparison.asMatch, hobjType, hprop, hvalue]
  · rw [hopening, hbefore, hafter]
    intro x hx
    apply hw x
    simp only [List.mem_append] at hx ⊢
    rcases hx with (hx | hx) | hx <;> simp [hx]

/-- A bracket of its own. -/
lemma reads_of_plain {opening : Blanks} {c : Comparison} {w rest : List Char}
    (h : ∀ x ∈ opening.1 ++ c.before.1 ++ c.after.1 ++ w, space x = true) :
    Reads ('[' :: (opening.1 ++ c.text (w ++ ']' :: rest))) c.asMatch rest where
  objType_ne := c.objType_ne
  objType_chars := c.objType_chars
  prop_ne := c.prop_ne
  prop_chars := c.prop_chars
  value := quotedText_escape c.value
  spaced := ⟨opening.1, c.before.1, c.after.1, w, h, by
    simp [Comparison.text, Comparison.head, Comparison.path, Comparison.asMatch]⟩

namespace Link

variable (l : Link)

lemma text_eq (s : List Char) : l.text s = l.chars ++ s := by
  cases l <;> simp [chars, text]

/-- No link has a quote or an equality sign. -/
lemma notMem_chars {x : Char} (hx : x ∈ ['\'', '=']) : x ∉ l.chars := by
  have hx' : x = '\'' ∨ x = '=' := by simpa using hx
  have hblank : ∀ b : Blanks, x ∉ b.1 := by
    have hmem : x ∉ '(' :: ')' :: stixSpaces := by rcases hx' with rfl | rfl <;> decide
    exact fun b => b.notMem hmem
  cases l with
  | within before word sep hsep after =>
    have hword : x ∉ word.text := by rcases hx' with rfl | rfl <;> cases word <;> decide
    have hne : x ≠ sep := by
      rintro rfl
      exact hblank ⟨[x], by simpa using hsep⟩ List.mem_cons_self
    simp [chars, text, hblank, hword, hne]
  | between close before word after opening =>
    have hword : x ∉ word.text := by rcases hx' with rfl | rfl <;> cases word <;> decide
    have hne : x ≠ ']' ∧ x ≠ '[' := by rcases hx' with rfl | rfl <;> decide
    simp [chars, text, hblank, hword, hne]

/-- A link has a character that is in no path. -/
lemma exists_not_pathChar : ∃ y ∈ l.chars, pathChar y = false := by
  cases l with
  | within before word sep hsep after => exact ⟨sep, by simp [chars, text], pathChar_of_blank hsep⟩
  | between close before word after opening => exact ⟨']', by simp [chars, text], by decide⟩

end Link

section Amid

variable {final : List Char} {rest : List (Link × Comparison)}

/-- After a quoted value, no path goes on to an equality sign. -/
lemma restText_ne_path (hfinal : '=' ∉ final) {q w t : List Char} (hq : ∀ x ∈ q, pathChar x = true)
    (hw : ∀ x ∈ w, space x = true) : restText final rest ≠ q ++ w ++ '=' :: t := by
  intro h
  cases rest with
  | nil =>
    rw [restText] at h
    simp [h] at hfinal
  | cons x rest =>
    obtain ⟨l, c⟩ := x
    have heq : (l.chars ++ c.path) ++ '=' :: (c.after.1 ++ '\'' :: (escape c.value ++ '\'' :: restText final rest)) =
        (q ++ w) ++ '=' :: t := by
      rw [← h, restText, l.text_eq]
      simp [Comparison.text, Comparison.head]
    obtain ⟨hleft, -⟩ := append_cons_inj heq
      (by simp [l.notMem_chars (x := '=') (by simp), c.notMem_path (x := '=') (by decide) (by decide)])
      (by simp [notMem_of_forall hq (x := '=') (by decide), notMem_of_forall hw (x := '=') (by decide)])
    obtain ⟨y, hy, hpath⟩ := l.exists_not_pathChar
    obtain ⟨l₁, l₂, hl⟩ := List.append_of_mem hy
    have hsplit : q ++ w = l₁ ++ y :: (l₂ ++ c.path) := by
      rw [← hleft, hl]
      simp
    obtain ⟨z, -, hz⟩ := append_eq_cons_of_notMem_left hsplit (notMem_of_forall hq hpath)
    -- the colon of the next comparison would be white space
    have hcolon : ':' ∈ w := by
      rw [hz]
      simp [Comparison.path]
    exact notMem_of_forall hw (by decide) hcolon

/-- A text that is quoted from the end of a value on ends at the start of the next value. -/
lemma restText_quoted (hfinal : '\'' ∉ final) {v w r : List Char} (hv : QuotedText v) (hw : ∀ x ∈ w, space x = true)
    (h : restText final rest = v ++ '\'' :: (w ++ ']' :: r)) :
    ∃ l c rest', rest = (l, c) :: rest' ∧ ∃ u, u <:+ escape c.value ∧ r = u ++ '\'' :: restText final rest' := by
  cases rest with
  | nil =>
    rw [restText] at h
    simp [h] at hfinal
  | cons x rest =>
    obtain ⟨l, c⟩ := x
    refine ⟨l, c, rest, rfl, ?_⟩
    have hafter : '\\' ∉ '=' :: c.after.1 := by simp [c.after.notMem (x := '\\') (by decide)]
    have heq : ((l.chars ++ c.path) ++ '=' :: c.after.1) ++ '\'' :: (escape c.value ++ '\'' :: restText final rest) =
        v ++ '\'' :: (w ++ ']' :: r) := by
      rw [← h, restText, l.text_eq]
      simp [Comparison.text, Comparison.head]
    rcases append_cons_cases heq with ⟨z, rfl, -⟩ | ⟨-, -, hend⟩ | ⟨z, hz, hend⟩
    · -- the quote that starts the next value is not escaped
      exact (hv.escaped.false_of_quote hafter).elim
    · rcases append_cons_cases hend with ⟨z, rfl, -⟩ | ⟨-, hne, -⟩ | ⟨z, hz, hr⟩
      · exact absurd (hw '\'' (by simp)) (by decide)
      · exact absurd hne (by decide)
      · refine ⟨z, ?_, hr⟩
        rw [hz]
        exact ⟨w ++ [']'], by simp⟩
    · -- a quote in the path of the next comparison is not followed by a bracket
      have hsplit : (l.chars ++ c.objType ++ [':']) ++ (c.prop ++ (c.before.1 ++ '=' :: c.after.1)) =
          v ++ '\'' :: z := by
        rw [← hz]
        simp [Comparison.path]
      obtain ⟨z₁, -, hz₁⟩ := append_eq_cons_of_notMem_left hsplit
        (by simp [l.notMem_chars (x := '\'') (by simp), c.notMem_objType (x := '\'') (by decide)])
      obtain ⟨q, hq, hz₂⟩ := append_eq_cons_of_notMem_right hz₁
        (by simp [c.before.notMem (x := '\'') (by decide), c.after.notMem (x := '\'') (by decide)])
      have hqchars : ∀ x ∈ q, pathChar x = true := fun x hx => c.prop_chars x (by rw [hq]; simp [hx])
      have hfalse : w ++ ']' :: r = (q ++ c.before.1) ++ '=' :: (c.after.1 ++ '\'' :: (escape c.value ++ '\'' ::
          restText final rest)) := by
        rw [hend, hz₂]
        simp
      refine absurd hfalse (append_cons_ne (by decide) (notMem_of_forall hw (by decide)) ?_)
      simp [notMem_of_forall hqchars (x := ']') (by decide), c.before.notMem (x := ']') (by decide)]

/-- **A match that starts in a quoted value** ends in the next one. -/
lemma reads_amid (hquote : '\'' ∉ final) (hequal : '=' ∉ final) {u r : List Char} (hu : Escaped u) {m : Match}
    (h : Reads (u ++ '\'' :: restText final rest) m r) :
    ∃ l c rest', rest = (l, c) :: rest' ∧ ∃ u', u' <:+ escape c.value ∧ r = u' ++ '\'' :: restText final rest' := by
  obtain ⟨w₀, w₁, w₂, w₃, hw, heq⟩ := h.spaced
  have hw₀ : ∀ c ∈ w₀, space c = true := fun c hc => hw c (by simp [hc])
  have hw₁ : ∀ c ∈ w₁, space c = true := fun c hc => hw c (by simp [hc])
  have hw₂ : ∀ c ∈ w₂, space c = true := fun c hc => hw c (by simp [hc])
  have hw₃ : ∀ c ∈ w₃, space c = true := fun c hc => hw c (by simp [hc])
  have hcut : u ++ '\'' :: restText final rest = (('[' :: (w₀ ++ m.objType ++ ':' :: (m.prop ++ w₁))) ++ '=' :: w₂) ++
      '\'' :: (m.value ++ '\'' :: (w₃ ++ ']' :: r)) := by
    rw [heq]
    simp
  rcases append_cons_cases hcut with ⟨z, hz, hrest⟩ | ⟨-, -, hrest⟩ | ⟨z, rfl, -⟩
  · -- the path of the match would go on after the value
    have hsplit : ('[' :: (w₀ ++ m.objType ++ [':'])) ++ (m.prop ++ (w₁ ++ '=' :: w₂)) = u ++ '\'' :: z := by
      rw [← hz]
      simp
    obtain ⟨z₁, -, hz₁⟩ := append_eq_cons_of_notMem_left hsplit
      (by simp [notMem_of_forall hw₀ (x := '\'') (by decide), notMem_of_forall h.objType_chars (x := '\'') (by decide)])
    obtain ⟨q, hq, hz₂⟩ := append_eq_cons_of_notMem_right hz₁
      (by simp [notMem_of_forall hw₁ (x := '\'') (by decide), notMem_of_forall hw₂ (x := '\'') (by decide)])
    have hqchars : ∀ x ∈ q, pathChar x = true := fun x hx => h.prop_chars x (by rw [hq]; simp [hx])
    refine absurd ?_ (@restText_ne_path final rest hequal q w₁
      (w₂ ++ '\'' :: (m.value ++ '\'' :: (w₃ ++ ']' :: r))) hqchars hw₁)
    rw [hrest, hz₂]
    simp
  · exact restText_quoted hquote h.value hw₃ hrest
  · have hslash : '\\' ∉ '=' :: w₂ := by simp [notMem_of_forall hw₂ (x := '\\') (by decide)]
    exact (hu.false_of_quote hslash).elim

end Amid

/-! ### Counting the matches -/

/-- A bracket ends here. -/
def Ends (s : List Char) : Prop := ∃ w rest, (∀ x ∈ w, space x = true) ∧ s = w ++ ']' :: rest

lemma findAll_skip_quote {u : List Char} (hu : '[' ∉ u) (s : List Char) : findAll (u ++ '\'' :: s) = findAll s := by
  have h := findAll_skip (g := u ++ ['\'']) (by simp [hu]) s
  rw [← h]
  simp

lemma findAll_skip_ends {w : List Char} (hw : ∀ x ∈ w, space x = true) (s : List Char) :
    findAll (w ++ ']' :: s) = findAll s := by
  have h := findAll_skip (g := w ++ [']']) (by simp [notMem_of_forall hw (x := '[') (by decide)]) s
  rw [← h]
  simp

/-- At a bracket, its comparison is read if it is alone in it, or what is in its value. -/
lemma findAll_open (opening : Blanks) (c : Comparison) (s : List Char) :
    (((∀ x ∈ opening.1, space x = true) ∧ c.Plain ∧ Ends s) ∧
      findAll ('[' :: (opening.1 ++ c.text s)) = c.asMatch :: findAll s) ∨
    findAll ('[' :: (opening.1 ++ c.text s)) = findAll (escape c.value ++ '\'' :: s) := by
  by_cases h : ∃ m rest, Reads ('[' :: (opening.1 ++ c.text s)) m rest
  · obtain ⟨m, rest, h⟩ := h
    obtain ⟨rfl, hspace, w, hw, rfl⟩ := reads_open h
    left
    refine ⟨⟨fun x hx => hspace x (by simp [hx]), fun x hx => hspace x ?_, w, rest, hw, rfl⟩, ?_⟩
    · simp only [List.mem_append] at hx ⊢
      tauto
    · rw [findAll_of_reads h, findAll_skip_ends hw]
  · right
    rw [findAll_of_not_reads fun m rest hr => h ⟨m, rest, hr⟩, findAll_skip (opening.notMem (by decide)), c.text_eq,
      findAll_skip c.notMem_head]

lemma Junction.notMem_text (word : Junction) : '[' ∉ word.text := by cases word <;> decide

lemma Combination.notMem_text (word : Combination) : '[' ∉ word.text := by cases word <;> decide

/-- Between two comparisons, a bracket may start. -/
lemma findAll_link (l : Link) (c : Comparison) (s : List Char) :
    (∃ close before word after opening, l = .between close before word after opening ∧
      ((∀ x ∈ opening.1, space x = true) ∧ c.Plain ∧ Ends s) ∧ findAll (l.text (c.text s)) = c.asMatch :: findAll s) ∨
    findAll (l.text (c.text s)) = findAll (escape c.value ++ '\'' :: s) := by
  have hblank : ∀ b : Blanks, '[' ∉ b.1 := fun b => b.notMem (by decide)
  cases l with
  | within before word sep hsep after =>
    right
    have hsep : sep ≠ '[' := by
      rintro rfl
      revert hsep
      decide
    have hskip : '[' ∉ before.1 ++ word.text ++ sep :: after.1 := by
      simp [hblank, word.notMem_text, hsep.symm]
    rw [Link.text, findAll_skip hskip, c.text_eq, findAll_skip c.notMem_head]
  | between close before word after opening =>
    have hskip : '[' ∉ close.1 ++ ']' :: before.1 ++ word.text ++ after.1 := by
      simp [hblank, word.notMem_text]
    have htext : (Link.between close before word after opening).text (c.text s) =
        (close.1 ++ ']' :: before.1 ++ word.text ++ after.1) ++ '[' :: (opening.1 ++ c.text s) := by
      simp [Link.text]
    rw [htext, findAll_skip hskip]
    rcases findAll_open opening c s with hopen | hvalue
    · exact Or.inl ⟨close, before, word, after, opening, rfl, hopen⟩
    · exact Or.inr hvalue

section Counting

variable {final : List Char}

/-- From within a value, either nothing is read up to its end, or a match that ends in the next value. -/
lemma count_amid {rest : List (Link × Comparison)} {n : ℕ} (hquote : '\'' ∉ final) (hequal : '=' ∉ final)
    (hrest : (findAll (restText final rest)).length ≤ n)
    (hnext : ∀ l c rest', rest = (l, c) :: rest' → ∀ u, Escaped u →
      (findAll (u ++ '\'' :: restText final rest')).length + 1 ≤ n) :
    ∀ {u : List Char}, Escaped u → (findAll (u ++ '\'' :: restText final rest)).length ≤ n := by
  intro u
  induction u with
  | nil =>
    intro _
    rw [findAll_skip_quote (by simp)]
    exact hrest
  | cons x u ih =>
    intro hu
    by_cases h : ∃ m r, Reads (x :: u ++ '\'' :: restText final rest) m r
    · obtain ⟨m, r, h⟩ := h
      obtain ⟨l, c, rest', hcons, u', hsuffix, rfl⟩ := reads_amid hquote hequal hu h
      rw [findAll_of_reads h, List.length_cons]
      exact hnext l c rest' hcons u' ((quotedText_escape c.value).escaped.suffix hsuffix)
    · rw [List.cons_append] at h ⊢
      rw [findAll_of_not_reads fun m r hr => h ⟨m, r, hr⟩]
      exact ih (hu.suffix (List.suffix_cons x u))

/-- **No more matches than comparisons**, after a value and from within it. -/
lemma count_le (hquote : '\'' ∉ final) (hequal : '=' ∉ final) (hopen : '[' ∉ final) (rest : List (Link × Comparison)) :
    (findAll (restText final rest)).length ≤ rest.length ∧
      ∀ {u : List Char}, Escaped u → (findAll (u ++ '\'' :: restText final rest)).length ≤ rest.length := by
  induction rest with
  | nil =>
    have hnone : (findAll (restText final [])).length ≤ 0 := by
      have h := findAll_skip hopen []
      rw [List.append_nil] at h
      rw [restText, h]
      exact le_rfl
    exact ⟨hnone, count_amid hquote hequal hnone fun _ _ _ h => by cases h⟩
  | cons x rest ih =>
    obtain ⟨l, c⟩ := x
    have hafter : (findAll (restText final ((l, c) :: rest))).length ≤ rest.length + 1 := by
      rw [restText]
      rcases findAll_link l c (restText final rest) with ⟨_, _, _, _, _, -, -, hread⟩ | hvalue
      · rw [hread, List.length_cons]
        have := ih.1
        omega
      · rw [hvalue]
        have := ih.2 (quotedText_escape c.value).escaped
        omega
    refine ⟨hafter, count_amid hquote hequal hafter fun l' c' rest' h u hu => ?_⟩
    cases h
    have := ih.2 hu
    omega

/-- As many matches as comparisons: every bracket is that of one comparison. -/
lemma plain_of_count {close : Blanks} {tail : List Char} (hfinal : final = close.1 ++ ']' :: tail)
    (hquote : '\'' ∉ final) (hequal : '=' ∉ final) (hopen : '[' ∉ final) {rest : List (Link × Comparison)}
    (hends : Ends (restText final rest)) (hcount : (findAll (restText final rest)).length = rest.length) :
    (∀ x ∈ close.1, space x = true) ∧ ∀ x ∈ rest, x.1.Plain ∧ x.2.Plain := by
  have hclose : ∀ {b : Blanks} {s : List Char}, Ends (b.1 ++ ']' :: s) → ∀ x ∈ b.1, space x = true := by
    rintro b s ⟨w, r, hw, heq⟩
    obtain ⟨hb, -⟩ := append_cons_inj heq (b.notMem (by decide)) (notMem_of_forall hw (by decide))
    rw [hb]
    exact hw
  induction rest with
  | nil =>
    rw [restText, hfinal] at hends
    exact ⟨hclose hends, by simp⟩
  | cons x rest ih =>
    obtain ⟨l, c⟩ := x
    rw [restText] at hends hcount
    rcases findAll_link l c (restText final rest) with ⟨cl, be, wo, af, op, rfl, ⟨hop, hc, hends'⟩, hread⟩ | hvalue
    · rw [hread, List.length_cons, List.length_cons] at hcount
      obtain ⟨hlast, hall⟩ := ih hends' (by omega)
      have hcl : ∀ x ∈ cl.1, space x = true := by
        apply hclose (s := be.1 ++ wo.text ++ af.1 ++ '[' :: op.1 ++ c.text (restText final rest))
        simpa [Link.text] using hends
      refine ⟨hlast, fun y hy => ?_⟩
      rcases List.mem_cons.mp hy with rfl | hy
      · refine ⟨fun z hz => ?_, hc⟩
        rcases List.mem_append.mp hz with hz | hz
        · exact hcl z hz
        · exact hop z hz
      · exact hall y hy
    · -- a comparison without a bracket of its own costs a match
      have hle := (count_le hquote hequal hopen rest).2 (quotedText_escape c.value).escaped
      rw [hvalue, List.length_cons] at hcount
      omega

/-- Every bracket is that of one comparison: they are all read. -/
lemma findAll_of_plain {close : Blanks} {tail : List Char} (hfinal : final = close.1 ++ ']' :: tail)
    (hopen : '[' ∉ final) (hclose : ∀ x ∈ close.1, space x = true) {rest : List (Link × Comparison)}
    (h : ∀ x ∈ rest, x.1.Plain ∧ x.2.Plain) :
    Ends (restText final rest) ∧ findAll (restText final rest) = rest.map fun x => x.2.asMatch := by
  induction rest with
  | nil =>
    have hskip := findAll_skip hopen []
    rw [List.append_nil] at hskip
    exact ⟨⟨close.1, tail, hclose, hfinal⟩, hskip⟩
  | cons x rest ih =>
    obtain ⟨l, c⟩ := x
    obtain ⟨hl, hc⟩ := h _ List.mem_cons_self
    obtain ⟨⟨w, r, hw, hs⟩, hrest⟩ := ih fun y hy => h y (List.mem_cons_of_mem _ hy)
    cases l with
    | within before word sep hsep after => exact hl.elim
    | between cl be wo af op =>
      rw [restText]
      refine ⟨⟨cl.1, _, fun x hx => hl x (by simp [hx]), by simp only [Link.text, List.append_assoc]; rfl⟩, ?_⟩
      have hread : Reads ('[' :: (op.1 ++ c.text (restText final rest))) c.asMatch r := by
        rw [hs]
        refine reads_of_plain fun x hx => ?_
        simp only [List.mem_append] at hx
        rcases hx with ((hx | hx) | hx) | hx
        · exact hl x (by simp [hx])
        · exact hc x (by simp [hx])
        · exact hc x (by simp [hx])
        · exact hw x hx
      have hskip : '[' ∉ cl.1 ++ ']' :: be.1 ++ wo.text ++ af.1 := by
        have hblank : ∀ b : Blanks, '[' ∉ b.1 := fun b => b.notMem (by decide)
        simp [hblank, wo.notMem_text]
      have htext : (Link.between cl be wo af op).text (c.text (restText final rest)) =
          (cl.1 ++ ']' :: be.1 ++ wo.text ++ af.1) ++ '[' :: (op.1 ++ c.text (restText final rest)) := by
        simp [Link.text]
      rw [htext, findAll_skip hskip, findAll_of_reads hread, List.map_cons, ← hrest, hs, findAll_skip_ends hw]

end Counting

/-! ### The clauses of a pattern -/

lemma Comparison.clause_asMatch (c : Comparison) : c.asMatch.clause = some c.clause := by
  unfold Match.clause Comparison.asMatch Comparison.clause
  rw [unquoteSTIX_escape, Option.bind_some]
  simp

namespace Pattern

variable (p : Pattern)

lemma notMem_final {x : Char} (hx : x ∉ '(' :: ')' :: stixSpaces) (hne : x ≠ ']') : x ∉ p.final := by
  simp [final, p.close.notMem hx, p.trail.notMem hx, hne]

lemma findAll_text : findAll p.text = findAll ('[' :: (p.opening.1 ++ p.first.text (restText p.final p.rest))) := by
  have htext : p.text = p.lead.1 ++ '[' :: (p.opening.1 ++ p.first.text (restText p.final p.rest)) := by simp [text]
  rw [htext, findAll_skip (p.lead.notMem (by decide))]

lemma findAll_eq (h : p.Plain) : findAll p.text = p.first.asMatch :: p.rest.map fun x => x.2.asMatch := by
  obtain ⟨hspace, hfirst, hrest⟩ := h
  have hfinal : p.final = p.close.1 ++ ']' :: p.trail.1 := rfl
  obtain ⟨⟨w, r, hw, hs⟩, hall⟩ := findAll_of_plain hfinal (p.notMem_final (by decide) (by decide))
    (fun x hx => hspace x (by simp [hx])) hrest
  have hread : Reads ('[' :: (p.opening.1 ++ p.first.text (restText p.final p.rest))) p.first.asMatch r := by
    rw [hs]
    refine reads_of_plain fun x hx => ?_
    simp only [List.mem_append] at hx
    rcases hx with ((hx | hx) | hx) | hx
    · exact hspace x (by simp [hx])
    · exact hfirst x (by simp [hx])
    · exact hfirst x (by simp [hx])
    · exact hw x hx
  rw [p.findAll_text, findAll_of_reads hread, ← hall, hs, findAll_skip_ends hw]

lemma plain_of_length (h : p.rest.length + 1 ≤ (findAll p.text).length) : p.Plain := by
  have hquote : '\'' ∉ p.final := p.notMem_final (by decide) (by decide)
  have hequal : '=' ∉ p.final := p.notMem_final (by decide) (by decide)
  have hopen : '[' ∉ p.final := p.notMem_final (by decide) (by decide)
  obtain ⟨hle, hamid⟩ := count_le hquote hequal hopen p.rest
  rw [p.findAll_text] at h
  rcases findAll_open p.opening p.first (restText p.final p.rest) with ⟨⟨hop, hfirst, hends⟩, hread⟩ | hvalue
  · rw [hread, List.length_cons] at h
    have hfinal : p.final = p.close.1 ++ ']' :: p.trail.1 := rfl
    obtain ⟨hclose, hrest⟩ := plain_of_count hfinal hquote hequal hopen hends (by omega)
    refine ⟨fun x hx => ?_, hfirst, hrest⟩
    rcases List.mem_append.mp hx with hx | hx
    · exact hop x hx
    · exact hclose x hx
  · have := hamid (quotedText_escape p.first.value).escaped
    rw [hvalue] at h
    omega

end Pattern

/-- **Patterns are read completely and only as written** exactly if every comparison has a bracket of its own. -/
theorem parsePattern_iff (p : Pattern) : parsePattern (String.ofList p.text) = p.clauses ↔ p.Plain := by
  unfold parsePattern
  rw [String.toList_ofList]
  constructor
  · intro h
    apply p.plain_of_length
    have hlen := congrArg List.length h
    have hle := List.length_filterMap_le Match.clause (findAll p.text)
    simp only [Pattern.clauses, List.length_cons, List.length_map] at hlen
    omega
  · intro h
    rw [p.findAll_eq h, List.filterMap_cons_some p.first.clause_asMatch, List.filterMap_map]
    unfold Pattern.clauses
    congr 1
    rw [← List.filterMap_eq_map]
    apply List.filterMap_congr
    intro x _
    exact x.2.clause_asMatch

/-- A comparison on a URL. -/
def urlIs (value : String) : Comparison where
  objType := "url".toList
  prop := "value".toList
  value := value.toList
  objType_ne := by decide
  objType_chars := List.all_eq_true.mp (by decide)
  prop_ne := by decide
  prop_chars := List.all_eq_true.mp (by decide)
  supported := by decide

/-- Two comparisons in one bracket. -/
def bothUrls (v v' : String) : Pattern where
  first := urlIs v
  rest := [(.within ⟨[' '], List.forall_mem_singleton.mpr (by decide)⟩ .and ' ' (by decide)
    ⟨[], List.forall_mem_nil _⟩, urlIs v')]

/-- Two comparisons in one bracket are not read, and a clause may come from what is between their values. -/
theorem joined_comparisons_misread :
    parsePattern (String.ofList (bothUrls "a" "b").text) ≠ (bothUrls "a" "b").clauses ∧
      String.ofList (bothUrls "[url:value=" "]").text = "[url:value = '[url:value=' AND url:value = ']']" ∧
      parsePattern (String.ofList (bothUrls "[url:value=" "]").text) = [⟨.url, " AND url:value = "⟩] := by
  decide +kernel

end Sn360Es.Intel
