import Mathlib.Data.List.TakeWhile
import Sn360Es.Lib.Replace

/-!
# The log sanitiser's patterns

`emailPattern` as the regular expression engine matches it: leftmost, with greedy repetitions that give back characters
only when the rest of the pattern asks for them. The pattern folds case, so a letter may also be the long s or the
Kelvin sign. `maskEmails` puts `***@` and the domain for every address it finds, reading on behind it.

What an address is, is said apart from the engine (`IsAddress`): characters of a local part, an at sign and a domain.

* `address_isSome_iff` — the engine matches at a place exactly if an address starts there;
* `hasAddress_mask_iff` — a masked text holds an address exactly if the text was `Chained`: a match ended right before
  an at sign and a domain that starts no address of its own, and the domain the mask left there is its local part;
* `maskEmails_idem_iff` — so masking again changes exactly the chained texts.
-/

namespace Sn360Es.Privacy

open Lib

/-! ### The character classes -/

/-- `(?i)[a-z]`. -/
def letter (c : Char) : Bool := c.isAlpha || c == Char.ofNat 0x17F || c == Char.ofNat 0x212A

/-- `(?i)[a-z0-9.\-]`. -/
def domainChar (c : Char) : Bool := letter c || c.isDigit || c == '.' || c == '-'

/-- `(?i)[a-z0-9._%+\-]`. -/
def localChar (c : Char) : Bool := domainChar c || c == '_' || c == '%' || c == '+'

lemma domainChar_of_letter {c : Char} (h : letter c) : domainChar c := by simp [domainChar, h]

lemma localChar_of_domainChar {c : Char} (h : domainChar c) : localChar c := by simp [localChar, h]

@[simp] lemma localChar_at : localChar '@' = false := by decide

@[simp] lemma localChar_star : localChar '*' = false := by decide

@[simp] lemma domainChar_dot : domainChar '.' = true := by decide

/-! ### Addresses -/

/-- Characters of a domain, a dot and two or more letters. -/
def IsTail (d : List Char) : Prop :=
  ∃ a b, d = a ++ '.' :: b ∧ (∀ c ∈ a, domainChar c) ∧ (∀ c ∈ b, letter c) ∧ 2 ≤ b.length

/-- As `IsTail`, with at least one character before the dot. -/
def IsDomain (d : List Char) : Prop := ∃ c e, d = c :: e ∧ domainChar c ∧ IsTail e

/-- A local part, an at sign and a domain. -/
def IsAddress (w : List Char) : Prop := ∃ l d, w = l ++ '@' :: d ∧ l ≠ [] ∧ (∀ c ∈ l, localChar c) ∧ IsDomain d

def HasAddress (t : List Char) : Prop := ∃ w, IsAddress w ∧ w <:+: t

lemma IsTail.domainChar {d : List Char} (h : IsTail d) : ∀ c ∈ d, domainChar c := by
  obtain ⟨a, b, rfl, ha, hb, -⟩ := h
  intro c hc
  rcases List.mem_append.mp hc with hc | hc
  · exact ha c hc
  · rcases List.mem_cons.mp hc with rfl | hc
    · exact domainChar_dot
    · exact domainChar_of_letter (hb c hc)

lemma IsDomain.localChar {d : List Char} (h : IsDomain d) : ∀ c ∈ d, localChar c := by
  obtain ⟨c, e, rfl, hc, he⟩ := h
  intro x hx
  rcases List.mem_cons.mp hx with rfl | hx
  · exact localChar_of_domainChar hc
  · exact localChar_of_domainChar (he.domainChar x hx)

lemma IsDomain.ne_nil {d : List Char} (h : IsDomain d) : d ≠ [] := by
  obtain ⟨c, e, rfl, -, -⟩ := h
  simp

lemma star_notMem_of_local {l : List Char} (h : ∀ c ∈ l, localChar c) : '*' ∉ l := by
  intro hm
  have hs := h '*' hm
  simp at hs

lemma IsAddress.star_notMem {w : List Char} (h : IsAddress w) : '*' ∉ w := by
  obtain ⟨l, d, rfl, -, hl, hd⟩ := h
  have hls : '*' ∉ l := star_notMem_of_local hl
  have hds : '*' ∉ d := star_notMem_of_local hd.localChar
  simp [hls, hds]

/-! ### The engine -/

/-- `[a-z0-9.\-]*\.[a-z]{2,}`: what it matches at the head of the text, and the rest. -/
def tail : List Char → Option (List Char × List Char)
  | [] => none
  | c :: l =>
    -- greedy: one more character of the class, and the dot only where the rest cannot do without it
    match if domainChar c then tail l else none with
    | some (d, r) => some (c :: d, r)
    | none =>
      if c = '.' ∧ 2 ≤ (l.takeWhile letter).length then some (c :: l.takeWhile letter, l.dropWhile letter) else none

/-- `[a-z0-9.\-]+\.[a-z]{2,}`. -/
def domain : List Char → Option (List Char × List Char)
  | [] => none
  | c :: l => if domainChar c then (tail l).map fun p => (c :: p.1, p.2) else none

/-- `emailPattern` at the head of the text: its second group, and the rest. -/
def address (x : List Char) : Option (List Char × List Char) :=
  match x.takeWhile localChar, x.dropWhile localChar with
  | _ :: _, '@' :: y => domain y
  | _, _ => none

lemma tail_some {x d r : List Char} (h : tail x = some (d, r)) : x = d ++ r ∧ IsTail d := by
  induction x generalizing d r with
  | nil => simp [tail] at h
  | cons c l ih =>
    rw [tail] at h
    split at h
    · next e r' he =>
      obtain ⟨rfl, rfl⟩ : c :: e = d ∧ r' = r := by simpa using h
      split at he
      · next hc =>
        obtain ⟨rfl, a, b, rfl, ha, hb, hlen⟩ := ih he
        refine ⟨rfl, c :: a, b, rfl, ?_, hb, hlen⟩
        intro x hx
        rcases List.mem_cons.mp hx with rfl | hx
        · exact hc
        · exact ha x hx
      · simp at he
    · split at h
      · next hdot =>
        obtain ⟨rfl, rfl⟩ : c :: l.takeWhile letter = d ∧ l.dropWhile letter = r := by simpa using h
        refine ⟨by simp, [], l.takeWhile letter, by simp [hdot.1], by simp, ?_, hdot.2⟩
        intro x hx
        exact List.mem_takeWhile_imp hx
      · simp at h

lemma two_le_takeWhile {b r : List Char} (hb : ∀ c ∈ b, letter c) (hlen : 2 ≤ b.length) :
    2 ≤ ((b ++ r).takeWhile letter).length := by
  rw [List.takeWhile_append_of_pos hb, List.length_append]
  omega

lemma tail_isSome {p x : List Char} (hp : IsTail p) (h : p <+: x) : (tail x).isSome := by
  obtain ⟨a, b, rfl, ha, hb, hlen⟩ := hp
  obtain ⟨r, rfl⟩ := h
  induction a with
  | nil =>
    have h2 := two_le_takeWhile (r := r) hb hlen
    show (tail ('.' :: (b ++ r))).isSome
    rw [tail]
    split <;> simp [h2]
  | cons c a ih =>
    have hc : domainChar c := ha c List.mem_cons_self
    have hrec := ih fun x hx => ha x (List.mem_cons_of_mem _ hx)
    obtain ⟨q, hq⟩ := Option.isSome_iff_exists.mp hrec
    show (tail (c :: (a ++ '.' :: b ++ r))).isSome
    rw [tail, if_pos hc, hq]
    rfl

lemma domain_some {x d r : List Char} (h : domain x = some (d, r)) : x = d ++ r ∧ IsDomain d := by
  cases x with
  | nil => simp [domain] at h
  | cons c l =>
    rw [domain] at h
    split at h
    · next hc =>
      obtain ⟨⟨e, r'⟩, he, heq⟩ := Option.map_eq_some_iff.mp h
      obtain ⟨rfl, rfl⟩ : c :: e = d ∧ r' = r := by simpa using heq
      obtain ⟨rfl, htail⟩ := tail_some he
      exact ⟨rfl, c, e, rfl, hc, htail⟩
    · simp at h

lemma domain_isSome {p x : List Char} (hp : IsDomain p) (h : p <+: x) : (domain x).isSome := by
  obtain ⟨c, e, rfl, hc, he⟩ := hp
  obtain ⟨r, rfl⟩ := h
  show (domain (c :: (e ++ r))).isSome
  rw [domain, if_pos hc, Option.isSome_map]
  exact tail_isSome he (List.prefix_append e r)

lemma address_eq {l y : List Char} (hne : l ≠ []) (hl : ∀ c ∈ l, localChar c) : address (l ++ '@' :: y) = domain y := by
  have htake : (l ++ '@' :: y).takeWhile localChar = l := by
    rw [List.takeWhile_append_of_pos hl, List.takeWhile_cons_of_neg (by simp), List.append_nil]
  have hdrop : (l ++ '@' :: y).dropWhile localChar = '@' :: y := by
    rw [List.dropWhile_append_of_pos hl, List.dropWhile_cons_of_neg (by simp)]
  obtain ⟨c, l, rfl⟩ := List.exists_cons_of_ne_nil hne
  rw [address, htake, hdrop]
  rfl

/-- A match is a local part, an at sign and a domain. -/
lemma address_some {x d r : List Char} (h : address x = some (d, r)) :
    ∃ l, l ≠ [] ∧ (∀ c ∈ l, localChar c) ∧ IsDomain d ∧ x = l ++ '@' :: d ++ r := by
  rw [address] at h
  split at h
  · next c l y htake hdrop =>
    obtain ⟨rfl, hd⟩ := domain_some h
    refine ⟨x.takeWhile localChar, by simp [htake], fun c hc => List.mem_takeWhile_imp hc, hd, ?_⟩
    rw [List.append_assoc, List.cons_append, ← hdrop, List.takeWhile_append_dropWhile]
  · simp at h

/-- The engine matches exactly where an address starts. -/
lemma address_isSome_iff {x : List Char} : (address x).isSome ↔ ∃ w, IsAddress w ∧ w <+: x := by
  constructor
  · intro h
    obtain ⟨⟨d, r⟩, hq⟩ := Option.isSome_iff_exists.mp h
    obtain ⟨l, hne, hl, hd, rfl⟩ := address_some hq
    exact ⟨l ++ '@' :: d, ⟨l, d, rfl, hne, hl, hd⟩, List.prefix_append _ r⟩
  · rintro ⟨w, ⟨l, d, rfl, hne, hl, hd⟩, r, rfl⟩
    rw [List.append_assoc, List.cons_append, address_eq hne hl]
    exact domain_isSome hd (List.prefix_append d r)

lemma address_of_not_local {c : Char} {l : List Char} (hc : localChar c = false) : address (c :: l) = none := by
  have htake : (c :: l).takeWhile localChar = [] := List.takeWhile_cons_of_neg (by simp [hc])
  rw [address, htake]

/-- One more character of the local part in front of an address is an address. -/
lemma address_none_of_cons {c : Char} {l : List Char} (hc : localChar c) (h : address (c :: l) = none) :
    address l = none := by
  by_contra hsome
  obtain ⟨w, ⟨p, d, rfl, -, hp, hd⟩, hpre⟩ := address_isSome_iff.mp (Option.isSome_iff_ne_none.mpr hsome)
  have hmore : (address (c :: l)).isSome := by
    refine address_isSome_iff.mpr ⟨c :: p ++ '@' :: d, ⟨c :: p, d, rfl, by simp, ?_, hd⟩, ?_⟩
    · intro x hx
      rcases List.mem_cons.mp hx with rfl | hx
      · exact hc
      · exact hp x hx
    · exact List.cons_prefix_cons.mpr ⟨rfl, hpre⟩
  simp [h] at hmore

def emailMatcher : Matcher Char (List Char) where
  find := address
  consumes h := by
    obtain ⟨l, hne, -, -, rfl⟩ := address_some h
    obtain ⟨c, l, rfl⟩ := List.exists_cons_of_ne_nil hne
    exact ⟨c, _, rfl⟩

lemma found_iff_hasAddress {t : List Char} : emailMatcher.Found t ↔ HasAddress t := by
  constructor
  · rintro ⟨s, hs, hf⟩
    obtain ⟨w, hw, hpre⟩ := address_isSome_iff.mp hf
    exact ⟨w, hw, hpre.isInfix.trans hs.isInfix⟩
  · rintro ⟨w, hw, hin⟩
    obtain ⟨s, hpre, hs⟩ := List.infix_iff_prefix_suffix.mp hin
    exact ⟨s, hs, address_isSome_iff.mpr ⟨w, hw, hpre⟩⟩

/-! ### Masking -/

/-- The template `***@$2`. -/
def template (d : List Char) : List Char := '*' :: '*' :: '*' :: '@' :: d

/-- `emailRegex.ReplaceAllString`. -/
def mask (x : List Char) : List Char := emailMatcher.replace template x

def maskEmails (s : String) : String := if s = "" then s else String.ofList (mask s.toList)

@[simp] lemma maskEmails_toList (s : String) : (maskEmails s).toList = mask s.toList := by
  rw [maskEmails]
  split
  · next h => simp [h, mask]
  · simp

/-- A match ends right before an at sign and a domain, and the domain starts no address of its own. -/
def Chained (s : List Char) : Prop :=
  ∃ x, emailMatcher.After s ('@' :: x) ∧ (∃ d, IsDomain d ∧ d <+: x) ∧ ¬ ∃ w, IsAddress w ∧ w <+: x

lemma template_mark (d : List Char) : ∃ t, template d = '*' :: t := ⟨_, rfl⟩

lemma mask_of_not_local {c : Char} {l : List Char} (hc : localChar c = false) : mask (c :: l) = c :: mask l :=
  Matcher.replace_of_none (address_of_not_local hc)

/-- Characters of a local part that start no address are copied. -/
lemma prefix_mask {q x : List Char} (hq : ∀ c ∈ q, localChar c) (hpre : q <+: x) (hx : address x = none) :
    q <+: mask x := by
  induction q generalizing x with
  | nil => exact List.nil_prefix
  | cons c q ih =>
    obtain ⟨r, rfl⟩ := hpre
    have hc : localChar c := hq c List.mem_cons_self
    have hstep : mask (c :: q ++ r) = c :: mask (q ++ r) := Matcher.replace_of_none hx
    rw [hstep]
    have hrest : address (q ++ r) = none := address_none_of_cons hc hx
    have hq' : ∀ y ∈ q, localChar y := fun y hy => hq y (List.mem_cons_of_mem _ hy)
    exact List.cons_prefix_cons.mpr ⟨rfl, ih hq' (List.prefix_append q r) hrest⟩

/-- An address that starts in a text of domain characters takes its at sign behind it. -/
lemma address_across {d t w : List Char} (hd : ∀ c ∈ d, localChar c) (hw : IsAddress w) (h : w <+: d ++ t)
    (hne : d ≠ []) :
    (∃ p, IsDomain p ∧ '@' :: p <+: t) ∨ ∃ v, IsAddress v ∧ v <+: t := by
  obtain ⟨l, p, rfl, hlne, hl, hp⟩ := hw
  induction d generalizing l with
  | nil => exact absurd rfl hne
  | cons c d ih =>
    obtain ⟨a, l, rfl⟩ := List.exists_cons_of_ne_nil hlne
    obtain ⟨rfl, hrest⟩ := List.cons_prefix_cons.mp h
    have hl' : ∀ c ∈ l, localChar c := fun x hx => hl x (List.mem_cons_of_mem _ hx)
    by_cases hdn : d = []
    · subst hdn
      by_cases hln : l = []
      · subst hln
        exact .inl ⟨p, hp, hrest⟩
      · exact .inr ⟨l ++ '@' :: p, ⟨l, p, rfl, hln, hl', hp⟩, hrest⟩
    · have hln : l ≠ [] := by
        rintro rfl
        obtain ⟨b, d, rfl⟩ := List.exists_cons_of_ne_nil hdn
        obtain ⟨hb, -⟩ := List.cons_prefix_cons.mp hrest
        have hloc := hd b (by simp)
        simp [← hb] at hloc
      exact ih (fun x hx => hd x (List.mem_cons_of_mem _ hx)) hdn l hrest hln hl'

/-- The characters of the mask itself start no address. -/
lemma found_template {d t : List Char} : emailMatcher.Found (template d ++ t) ↔ emailMatcher.Found (d ++ t) := by
  have hskip : ∀ {c l}, localChar c = false → (emailMatcher.Found (c :: l) ↔ emailMatcher.Found l) := by
    intro c l hc
    have hnone : emailMatcher.find (c :: l) = none := address_of_not_local hc
    simp [Matcher.found_cons, hnone]
  show emailMatcher.Found ('*' :: '*' :: '*' :: '@' :: (d ++ t)) ↔ _
  rw [hskip localChar_star, hskip localChar_star, hskip localChar_star, hskip localChar_at]

lemma found_of_append {d t : List Char} (hd : ∀ c ∈ d, localChar c) (h : emailMatcher.Found (d ++ t)) :
    (∃ p, IsDomain p ∧ '@' :: p <+: t) ∨ emailMatcher.Found t := by
  induction d with
  | nil => exact .inr h
  | cons c d ih =>
    rcases Matcher.found_cons.mp h with hf | hf
    · obtain ⟨w, hw, hpre⟩ := address_isSome_iff.mp hf
      rcases address_across hd hw hpre (by simp) with hp | ⟨v, hv, hpre⟩
      · exact .inl hp
      · exact .inr (Matcher.found_of_find (address_isSome_iff.mpr ⟨v, hv, hpre⟩))
    · exact ih (fun x hx => hd x (List.mem_cons_of_mem _ hx)) hf

/-- What can match behind the mask: an address of the rest, or the domain with an at sign and a domain of the rest. -/
lemma found_append_iff {d t : List Char} (hd : IsDomain d) :
    emailMatcher.Found (d ++ t) ↔ (∃ p, IsDomain p ∧ '@' :: p <+: t) ∨ emailMatcher.Found t := by
  constructor
  · exact found_of_append hd.localChar
  · rintro (⟨p, hp, hpre⟩ | ⟨s, hs, hf⟩)
    · have hw : IsAddress (d ++ '@' :: p) := ⟨d, p, rfl, hd.ne_nil, hd.localChar, hp⟩
      refine Matcher.found_of_find (address_isSome_iff.mpr ⟨_, hw, ?_⟩)
      exact (List.prefix_append_right_inj d).mpr hpre
    · exact ⟨s, hs.trans (List.suffix_append d t), hf⟩

/-- An at sign and a domain start a masked text exactly if they started the text, and the domain starts no address. -/
lemma at_domain_mask_iff {r : List Char} : (∃ p, IsDomain p ∧ '@' :: p <+: mask r) ↔
    ∃ x, r = '@' :: x ∧ (∃ d, IsDomain d ∧ d <+: x) ∧ ¬ ∃ w, IsAddress w ∧ w <+: x := by
  constructor
  · rintro ⟨p, hp, hpre⟩
    have hstar : '*' ∉ p := star_notMem_of_local hp.localChar
    obtain ⟨y, rfl⟩ : '@' :: p <+: r := Matcher.prefix_of_prefix_replace template_mark hpre (by simp [hstar])
    rw [List.cons_append, mask_of_not_local localChar_at, List.cons_prefix_cons] at hpre
    refine ⟨p ++ y, rfl, ⟨p, hp, List.prefix_append p y⟩, ?_⟩
    have hnone : address (p ++ y) = none := Matcher.find_eq_none_of_prefix template_mark hpre.2 hp.ne_nil hstar
    rw [← address_isSome_iff, hnone]
    simp
  · rintro ⟨x, rfl, ⟨d, hd, hpre⟩, hno⟩
    have hnone : address x = none := by
      rw [← address_isSome_iff] at hno
      simpa using hno
    rw [mask_of_not_local localChar_at]
    exact ⟨d, hd, List.cons_prefix_cons.mpr ⟨rfl, prefix_mask hd.localChar hpre hnone⟩⟩

/-- A masked text holds an address exactly if the text was chained. -/
theorem hasAddress_mask_iff (s : List Char) : HasAddress (mask s) ↔ Chained s := by
  rw [← found_iff_hasAddress]
  induction s using emailMatcher.scan_induction with
  | hnil => simp [mask, Chained]
  | hnone a l hf ih =>
    have hmask : mask (a :: l) = a :: mask l := Matcher.replace_of_none hf
    have hhead : ¬ (emailMatcher.find (a :: mask l)).isSome := by
      intro hsome
      obtain ⟨w, hw, hpre⟩ := address_isSome_iff.mp hsome
      rw [← hmask] at hpre
      have hold : w <+: a :: l := Matcher.prefix_of_prefix_replace template_mark hpre hw.star_notMem
      have hfound : (address (a :: l)).isSome := address_isSome_iff.mpr ⟨w, hw, hold⟩
      have hnone : address (a :: l) = none := hf
      simp [hnone] at hfound
    rw [hmask, Matcher.found_cons, or_iff_right hhead, ih]
    simp only [Chained, Matcher.after_of_none hf]
  | hsome x d r hf ih =>
    obtain ⟨l, -, -, hd, -⟩ := address_some hf
    have hmask : mask x = template d ++ mask r := Matcher.replace_of_some hf
    rw [hmask, found_template, found_append_iff hd, ih, at_domain_mask_iff]
    simp only [Chained, Matcher.after_of_some hf]
    constructor
    · rintro (⟨x, rfl, hx⟩ | ⟨x, hr, hx⟩)
      · exact ⟨x, .inl rfl, hx⟩
      · exact ⟨x, .inr hr, hx⟩
    · rintro ⟨x, rfl | hr, hx⟩
      · exact .inl ⟨x, rfl, hx⟩
      · exact .inr ⟨x, hr, hx⟩

lemma mask_eq_self_iff {t : List Char} : mask t = t ↔ ¬ HasAddress t := by
  rw [← found_iff_hasAddress]
  exact Matcher.replace_eq_self_iff template_mark fun {l} => address_of_not_local (l := l) localChar_star

/-- Masking a masked text changes it exactly if the text was chained. -/
theorem maskEmails_idem_iff (s : String) : maskEmails (maskEmails s) = maskEmails s ↔ ¬ Chained s.toList := by
  rw [← hasAddress_mask_iff, ← mask_eq_self_iff, ← String.toList_inj]
  simp

/-! ### Subject keys -/

/-- `(?i)subject($|_)` at the head of the text; the `s` also matches the long s. -/
def subjectHere : List Char → Bool
  | s :: u :: b :: j :: e :: c :: t :: rest =>
    (s == 's' || s == 'S' || s == Char.ofNat 0x17F) && u.toLower == 'u' && b.toLower == 'b' && j.toLower == 'j' &&
      e.toLower == 'e' && c.toLower == 'c' && t.toLower == 't' && (rest.isEmpty || rest.head? == some '_')
  | _ => false

/-- `(^|_)subject($|_)` after the first character. -/
def subjectBehind : List Char → Bool
  | [] => false
  | c :: l => (c == '_' && subjectHere l) || subjectBehind l

/-- `subjectKeyPattern`. -/
def isSubjectKey (key : String) : Bool := subjectHere key.toList || subjectBehind key.toList

end Sn360Es.Privacy
