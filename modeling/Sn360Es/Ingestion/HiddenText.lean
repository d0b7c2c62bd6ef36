import Sn360Es.Ingestion.VisibleText

/-!
# Text behind malformed tags

`stripHTML` counts the open elements `script`, `style` and `head` in one number. A start tag without its end tag keeps
the number up, and the text behind it is dropped, also in the body.

* `skip_le_iff` — the number after some tokens, by the tags of the stretches that end there;
* `body_text_appears_iff` — the text of the body appears exactly if no stretch before it has more of these start tags
  than end tags.
-/

namespace Sn360Es.Ingestion

/-- The name of the `script` or `style` element that is open after a token. The tokenizer reads its content as text. -/
def rawAfter (opened : Option String) : HtmlToken → Option String
  | .startTag name => if opened = none ∧ (name = "script" ∨ name = "style") then some name else opened
  | .endTag name => if opened = some name then none else opened
  | _ => opened

/-- What comes next is in the body, and in no `script` or `style`. -/
structure InBody (before : List HtmlToken) : Prop where
  body : .startTag "body" ∈ before
  outside : before.foldl rawAfter none = none

/-- The output is the one without the text, and the text in it. -/
def Appears (before : List HtmlToken) (data : String) (after : List HtmlToken) : Prop :=
  ∃ l r, stripTokens 0 (before ++ after) = l ++ r ∧
    stripTokens 0 (before ++ .text data :: after) = l ++ data.toList ++ ' ' :: r

def isHiddenStart : HtmlToken → Bool
  | .startTag name => isHidden name
  | _ => false

def isHiddenEnd : HtmlToken → Bool
  | .endTag name => isHidden name
  | _ => false

/-- No stretch that ends here has more start tags of `script`, `style` and `head` than end tags of them. -/
def NoneLeftOpen (before : List HtmlToken) : Prop :=
  ∀ s, s <:+ before → s.countP isHiddenStart ≤ s.countP isHiddenEnd

lemma skipAfter_le_iff (skip k : ℕ) (t : HtmlToken) : skipAfter skip t ≤ k ↔
    (isHiddenStart t = true → 0 < k) ∧ skip + (isHiddenStart t).toNat ≤ k + (isHiddenEnd t).toNat := by
  cases t with
  | startTag name =>
    by_cases h : isHidden name = true
    · simp only [skipAfter, isHiddenStart, isHiddenEnd, h, if_true, Bool.toNat_true, Bool.toNat_false]
      omega
    · simp [skipAfter, isHiddenStart, isHiddenEnd, h]
  | endTag name =>
    by_cases h : isHidden name = true
    · simp [skipAfter, isHiddenStart, isHiddenEnd, h]
    · simp [skipAfter, isHiddenStart, isHiddenEnd, h]
  | selfClosingTag name => simp [skipAfter, isHiddenStart, isHiddenEnd]
  | text data => simp [skipAfter, isHiddenStart, isHiddenEnd]
  | other => simp [skipAfter, isHiddenStart, isHiddenEnd]

/-- **The counter** is the largest excess of start tags in a stretch that ends here. -/
lemma skip_le_iff (before : List HtmlToken) (k : ℕ) : before.foldl skipAfter 0 ≤ k ↔
    ∀ s, s <:+ before → s.countP isHiddenStart ≤ s.countP isHiddenEnd + k := by
  induction before using List.reverseRecOn generalizing k with
  | nil => simp
  | append_singleton before t ih =>
    -- a stretch that ends behind `t` is empty, or one that ended before it and `t`
    rw [List.foldl_append, List.foldl_cons, List.foldl_nil, skipAfter_le_iff]
    have hcount : ∀ (p : HtmlToken → Bool) (s : List HtmlToken), (s ++ [t]).countP p = s.countP p + (p t).toNat := by
      intro p s
      rw [List.countP_append, List.countP_singleton]
      cases p t <;> rfl
    constructor
    · rintro ⟨hpos, hle⟩ s hs
      rcases List.suffix_concat_iff.mp hs with rfl | ⟨s', rfl, hs'⟩
      · exact Nat.zero_le _
      · have hskip : before.foldl skipAfter 0 ≤ k + (isHiddenEnd t).toNat - (isHiddenStart t).toNat := by omega
        have hstretch := (ih _).mp hskip s' hs'
        rw [hcount, hcount]
        have hstart : (isHiddenStart t).toNat ≤ k + (isHiddenEnd t).toNat := by omega
        omega
    · intro h
      have hsingle := h [t] (List.suffix_append _ _)
      have hstart := hcount isHiddenStart []
      have hend := hcount isHiddenEnd []
      rw [List.nil_append, List.countP_nil, Nat.zero_add] at hstart hend
      rw [hstart, hend] at hsingle
      refine ⟨?_, ?_⟩
      · intro ht
        have hnot : isHiddenEnd t = false := by cases t <;> simp_all [isHiddenStart, isHiddenEnd]
        simp only [ht, hnot, Bool.toNat_true, Bool.toNat_false] at hsingle
        omega
      · have hskip := (ih (k + (isHiddenEnd t).toNat - (isHiddenStart t).toNat)).mpr fun s hs => by
          have hstretch := h (s ++ [t]) (List.suffix_concat_iff.mpr (.inr ⟨s, rfl, hs⟩))
          rw [hcount, hcount] at hstretch
          omega
        omega

lemma skip_eq_zero_iff (before : List HtmlToken) : before.foldl skipAfter 0 = 0 ↔ NoneLeftOpen before := by
  rw [← Nat.le_zero, skip_le_iff]
  rfl

/-- A text is written where the counter is zero, and else leaves no trace. -/
lemma appears_iff (before : List HtmlToken) (data : String) (after : List HtmlToken) :
    Appears before data after ↔ before.foldl skipAfter 0 = 0 := by
  unfold Appears
  rw [stripTokens_append, stripTokens_append, stripTokens_text]
  constructor
  · rintro ⟨l, r, hwithout, hwith⟩
    by_contra hskip
    rw [if_neg hskip, hwithout] at hwith
    have hlength := congrArg List.length hwith
    simp only [List.length_append, List.length_cons] at hlength
    omega
  · intro hskip
    refine ⟨stripTokens 0 before, stripTokens (before.foldl skipAfter 0) after, rfl, ?_⟩
    rw [if_pos hskip, List.append_assoc]

/-- **The text of the body appears** exactly where no start tag of `script`, `style` or `head` is left open before
it. -/
theorem body_text_appears_iff (ts : List HtmlToken) :
    (∀ before data after, ts = before ++ .text data :: after → InBody before → Appears before data after) ↔
      ∀ before data after, ts = before ++ .text data :: after → InBody before → NoneLeftOpen before := by
  simp only [appears_iff, skip_eq_zero_iff]

/-- The tokens of `<head><body>pay now`. -/
theorem open_head_hides_body : InBody [.startTag "head", .startTag "body"] ∧
    ¬ Appears [.startTag "head", .startTag "body"] "pay now" [] := by
  refine ⟨⟨by decide, by decide⟩, ?_⟩
  rw [appears_iff]
  decide

end Sn360Es.Ingestion
