import Sn360Es.Lib.Utf8

/-!
# The place of a banner in an HTML text (`pkg/email_provider/{gmail,fastmail,outlook}/banner_injector.go`)

Gmail, Fastmail and Outlook look for `<body` in the lower case of the text, and use the place that they find in the text
itself. Lower case may be longer or shorter than the text, so the place is right only if the two agree up to the tag
(`splice_exact_iff`); beyond the end of the text the slice panics.
-/

namespace Sn360Es.Provider

open Lib Lib.GoBytes Lib.Utf8

/-- `<body`. -/
def bodyTag : Bytes := [0x3C, 0x62, 0x6F, 0x64, 0x79]

/-- `>`. -/
def closing : Bytes := [0x3E]

def insertAt (doc banner : Bytes) (i : ℕ) : Bytes := doc.take i ++ banner ++ doc.drop i

section Splice

variable (lower : ℕ → ℕ)

/-- The part that the three functions have in common; no result is a panic, in `doc[idx:]`. -/
def spliceAfterBody (doc banner : Bytes) : Option Bytes :=
  match index bodyTag (toLower lower doc) with
  | none => some (banner ++ doc)
  | some idx =>
    if doc.length < idx then none
    else
      match index closing (doc.drop idx) with
      | none => some (banner ++ doc)
      | some e => some (insertAt doc banner (idx + e + 1))

/-- `spliceHTMLBanner` of Outlook. -/
def Outlook.spliceHTMLBanner (doc banner : Bytes) : Option Bytes := spliceAfterBody lower doc banner

/-- `spliceHTMLBanner` of Fastmail. -/
def Fastmail.spliceHTMLBanner (doc banner : Bytes) : Option Bytes :=
  if doc = [] then some banner else spliceAfterBody lower doc banner

/-- The note that Gmail puts before a plain text. -/
def Gmail.notice : Bytes := bytesOf "[SN360 SECURITY NOTICE]\n\n"

/-- `injectIntoTextPart` of Gmail: the text, and whether it has changed. -/
def Gmail.injectIntoTextPart (decoded banner : Bytes) (mediaType : String) : Option (Bytes × Bool) :=
  if mediaType = "text/html" then (spliceAfterBody lower decoded banner).map (·, true)
  else if mediaType = "text/plain" then some (notice ++ decoded, true)
  else some (decoded, false)

end Splice

/-! ### Exact splices -/

/-- Where the text has its first `<body`, in any case of ASCII. -/
def firstTag (doc : Bytes) : Option ℕ := index bodyTag (doc.map asciiLower)

/-- The result is the text with the banner at one place; after the first tag, if that is closed. -/
def Exact (doc banner : Bytes) (out : Option Bytes) : Prop :=
  ∃ i ≤ doc.length, out = some (insertAt doc banner i) ∧
    ∀ p e, firstTag doc = some p → index closing (doc.drop p) = some e → i = p + e + 1

/-- The lower case of what comes before the tag is not longer than the text; and if the tag is closed, its length is not
beyond the end of the tag, and no `>` lies between it and the tag. -/
def Aligned (lower : ℕ → ℕ) (doc : Bytes) : Prop :=
  ∀ p, firstTag doc = some p →
    (toLower lower (doc.take p)).length ≤ doc.length ∧
    ∀ e, index closing (doc.drop p) = some e →
      (toLower lower (doc.take p)).length ≤ p + e ∧
      ∀ j, (toLower lower (doc.take p)).length ≤ j → j < p → doc[j]? ≠ some 0x3E

section Exactness

variable {lower : ℕ → ℕ} {doc : Bytes}

/-- Where the code finds the tag. -/
lemma index_bodyTag (hl : Table lower) (doc : Bytes) :
    index bodyTag (toLower lower doc) = (firstTag doc).map fun p => (toLower lower (doc.take p)).length :=
  index_toLower hl (by decide +kernel) (by decide +kernel)

/-- Two places of a text are told apart by what is inserted there. -/
lemma insertAt_inj {i j : ℕ} (hi : i ≤ doc.length) (hj : j ≤ doc.length)
    (h : ∀ banner, insertAt doc banner i = insertAt doc banner j) : i = j := by
  by_contra hne
  wlog hlt : i < j generalizing i j
  · exact this hj hi (fun banner => (h banner).symm) (Ne.symm hne) (by omega)
  -- a byte that the text does not have at the first place
  have hlen : i < doc.length := by omega
  have hb := congrArg (·[i]?) (h [doc[i] + 1])
  have hleft : (insertAt doc [doc[i] + 1] i)[i]? = some (doc[i] + 1) := by
    unfold insertAt
    rw [List.append_assoc, List.getElem?_append_right (by simp), List.length_take, min_eq_left hi, Nat.sub_self]
    rfl
  have hright : (insertAt doc [doc[i] + 1] j)[i]? = some doc[i] := by
    unfold insertAt
    rw [List.append_assoc, List.getElem?_append_left (by rw [List.length_take]; omega), List.getElem?_take_of_lt hlt,
      List.getElem?_eq_getElem hlen]
  rw [show (insertAt doc [doc[i] + 1] i)[i]? = (insertAt doc [doc[i] + 1] j)[i]? from hb] at hleft
  rw [hright] at hleft
  have hself := Option.some.inj hleft
  have hnat := congrArg UInt8.toNat hself
  rw [UInt8.toNat_add] at hnat
  have hone : (1 : UInt8).toNat = 1 := rfl
  omega

/-- The first `>` at or after a place. -/
lemma index_closing_iff {q e : ℕ} : index closing (doc.drop q) = some e ↔
    doc[q + e]? = some 0x3E ∧ ∀ j, q ≤ j → j < q + e → doc[j]? ≠ some 0x3E := by
  unfold closing
  simp only [index_eq_some_iff, at_singleton, List.getElem?_drop]
  constructor
  · rintro ⟨⟨-, hat⟩, hfirst⟩
    refine ⟨hat, fun j hq hj => ?_⟩
    have hne := hfirst (j - q) (by omega)
    rwa [Nat.add_sub_cancel' hq] at hne
  · rintro ⟨hat, hfirst⟩
    refine ⟨⟨?_, hat⟩, fun j hj => hfirst (q + j) (by omega) (by omega)⟩
    obtain ⟨hlt, -⟩ := List.getElem?_eq_some_iff.mp hat
    rw [List.length_drop]
    omega

lemma index_closing_eq_none {q : ℕ} (h : index closing (doc.drop q) = none) {j : ℕ} (hq : q ≤ j) :
    doc[j]? ≠ some 0x3E := by
  intro hj
  obtain ⟨hlt, -⟩ := List.getElem?_eq_some_iff.mp hj
  refine index_eq_none_iff.mp h (j - q) (by rw [List.length_drop]; omega) ?_
  rw [closing, at_singleton, List.getElem?_drop, Nat.add_sub_cancel' hq]
  exact hj

lemma insertAt_zero (doc banner : Bytes) : insertAt doc banner 0 = banner ++ doc := rfl

/-- Where the lower case agrees with the text up to the tag, the splice is exact. -/
lemma Aligned.exact (hl : Table lower) (h : Aligned lower doc) (banner : Bytes) :
    Exact doc banner (spliceAfterBody lower doc banner) := by
  unfold spliceAfterBody
  rw [index_bodyTag hl]
  cases hp : firstTag doc with
  | none => exact ⟨0, Nat.zero_le _, rfl, fun p e htag => by rw [hp] at htag; cases htag⟩
  | some p =>
    obtain ⟨hlen, hclosed⟩ := h p hp
    simp only [Option.map_some, if_neg (not_lt.mpr hlen)]
    set q := (toLower lower (doc.take p)).length with hq
    cases hc : index closing (doc.drop q) with
    | none =>
      refine ⟨0, Nat.zero_le _, rfl, fun p' e htag he => ?_⟩
      rw [hp] at htag
      cases htag
      exact absurd (index_closing_iff.mp he).1 (index_closing_eq_none hc (hclosed e he).1)
    | some e' =>
      obtain ⟨hat', hfirst'⟩ := index_closing_iff.mp hc
      obtain ⟨hlt, -⟩ := List.getElem?_eq_some_iff.mp hat'
      refine ⟨q + e' + 1, hlt, rfl, fun p' e htag he => ?_⟩
      rw [hp] at htag
      cases htag
      obtain ⟨hle, hnone⟩ := hclosed e he
      obtain ⟨hat, hfirst⟩ := index_closing_iff.mp he
      -- neither of the two comes before the other
      have hge : ¬ q + e' < p + e := by
        intro hbefore
        by_cases hpe : p ≤ q + e'
        · exact hfirst _ hpe hbefore hat'
        · exact hnone _ (by omega) (by omega) hat'
      have hle' : ¬ p + e < q + e' := fun hbefore => hfirst' _ hle hbefore hat
      omega

/-- And only there. -/
lemma aligned_of_exact (hl : Table lower) (h : ∀ banner, Exact doc banner (spliceAfterBody lower doc banner)) :
    Aligned lower doc := by
  intro p hp
  have hsplice : ∀ banner, ∃ i ≤ doc.length, spliceAfterBody lower doc banner = some (insertAt doc banner i) ∧
      ∀ e, index closing (doc.drop p) = some e → i = p + e + 1 := by
    intro banner
    obtain ⟨i, hi, hout, hplace⟩ := h banner
    exact ⟨i, hi, hout, fun e he => hplace p e hp he⟩
  unfold spliceAfterBody at hsplice
  rw [index_bodyTag hl, hp] at hsplice
  simp only [Option.map_some] at hsplice
  set q := (toLower lower (doc.take p)).length with hq
  have hlen : q ≤ doc.length := by
    by_contra hlt
    obtain ⟨i, -, hout, -⟩ := hsplice []
    rw [if_pos (not_le.mp hlt)] at hout
    cases hout
  refine ⟨hlen, fun e he => ?_⟩
  obtain ⟨hat, -⟩ := index_closing_iff.mp he
  obtain ⟨hlt, -⟩ := List.getElem?_eq_some_iff.mp hat
  simp only [if_neg (not_lt.mpr hlen)] at hsplice
  cases hc : index closing (doc.drop q) with
  | none =>
    have hzero : 0 = p + e + 1 := by
      refine insertAt_inj (Nat.zero_le _) hlt fun banner => ?_
      obtain ⟨i, -, hout, hplace⟩ := hsplice banner
      simp only [hc] at hout
      rw [← hplace e he, insertAt_zero]
      exact Option.some.inj hout
    omega
  | some e' =>
    obtain ⟨hat', hfirst'⟩ := index_closing_iff.mp hc
    obtain ⟨hlt', -⟩ := List.getElem?_eq_some_iff.mp hat'
    have hsame : q + e' + 1 = p + e + 1 := by
      refine insertAt_inj hlt' hlt fun banner => ?_
      obtain ⟨i, -, hout, hplace⟩ := hsplice banner
      simp only [hc] at hout
      rw [← hplace e he]
      exact Option.some.inj hout
    exact ⟨by omega, fun j hqj hjp => hfirst' j hqj (by omega)⟩

lemma spliceAfterBody_exact_iff (hl : Table lower) (doc : Bytes) :
    (∀ banner, Exact doc banner (spliceAfterBody lower doc banner)) ↔ Aligned lower doc :=
  ⟨aligned_of_exact hl, fun h banner => h.exact hl banner⟩

lemma Fastmail.spliceHTMLBanner_eq (hl : Table lower) (doc banner : Bytes) :
    Fastmail.spliceHTMLBanner lower doc banner = spliceAfterBody lower doc banner := by
  unfold Fastmail.spliceHTMLBanner
  split_ifs with hdoc
  · subst hdoc
    have hnone : firstTag [] = none := by decide
    rw [spliceAfterBody, index_bodyTag hl, hnone]
    simp
  · rfl

/-- **A banner is put where it belongs**, by each of the three functions, exactly if the text and its lower case agree
up to the tag. -/
theorem splice_exact_iff (hl : Table lower) (doc : Bytes) :
    ((∀ banner, ∃ out, Gmail.injectIntoTextPart lower doc banner "text/html" = some (out, true) ∧
      Exact doc banner (some out)) ↔ Aligned lower doc) ∧
    ((∀ banner, Exact doc banner (Fastmail.spliceHTMLBanner lower doc banner)) ↔ Aligned lower doc) ∧
    ((∀ banner, Exact doc banner (Outlook.spliceHTMLBanner lower doc banner)) ↔ Aligned lower doc) := by
  refine ⟨?_, ?_, spliceAfterBody_exact_iff hl doc⟩
  · rw [← spliceAfterBody_exact_iff hl doc]
    refine forall_congr' fun banner => ?_
    rw [Gmail.injectIntoTextPart, if_pos rfl]
    cases hout : spliceAfterBody lower doc banner with
    | none =>
      refine iff_of_false ?_ ?_
      · rintro ⟨out, hnone, -⟩
        cases hnone
      · rintro ⟨i, -, hnone, -⟩
        cases hnone
    | some out => simp
  · rw [← spliceAfterBody_exact_iff hl doc]
    exact forall_congr' fun banner => by rw [Fastmail.spliceHTMLBanner_eq hl]

section Samples

/-- `unicode.ToLower` on ASCII and on the two runes that it takes there. -/
def lowerTable (r : ℕ) : ℕ :=
  if 0x41 ≤ r ∧ r ≤ 0x5A then r + 0x20 else if r = 0x130 then 0x69 else if r = 0x212A then 0x6B else r

lemma lowerTable_table : Table lowerTable where
  ascii b hb := by
    unfold lowerTable asciiLower
    by_cases hup : within 0x41 0x5A b = true
    · rw [if_pos hup, if_pos (within_iff.mp hup), UInt8.toNat_add]
      have h20 : (0x20 : UInt8).toNat = 0x20 := rfl
      omega
    · rw [if_neg hup, if_neg fun h => hup (within_iff.mpr h), if_neg (by omega), if_neg (by omega)]
  outside r hr h := by
    unfold lowerTable at *
    split_ifs at h ⊢ <;> omega

/-- Four bytes that are no runes, and a tag. -/
def invalidDoc : Bytes := [0xFF, 0xFF, 0xFF, 0xFF] ++ bytesOf "<body>"

/-- Two Kelvin signs, a paragraph, and a tag. -/
def kelvinDoc : Bytes := [0xE2, 0x84, 0xAA, 0xE2, 0x84, 0xAA] ++ bytesOf "<p><body>"

/-- **The failing inputs**: the lower case of the first is too long by eight bytes, and all three functions panic; that
of the second is too short, and the banner comes after the paragraph. -/
theorem splice_misplaced :
    Gmail.injectIntoTextPart lowerTable invalidDoc [0x21] "text/html" = none ∧
      Fastmail.spliceHTMLBanner lowerTable invalidDoc [0x21] = none ∧
      Outlook.spliceHTMLBanner lowerTable invalidDoc [0x21] = none ∧
      ¬ Exact kelvinDoc [0x21] (Outlook.spliceHTMLBanner lowerTable kelvinDoc [0x21]) := by
  refine ⟨by decide +kernel, by decide +kernel, by decide +kernel, ?_⟩
  rintro ⟨i, -, hout, hplace⟩
  have hi : i = 9 + 5 + 1 := hplace 9 5 (by decide +kernel) (by decide +kernel)
  have hcode : Outlook.spliceHTMLBanner lowerTable kelvinDoc [0x21] = some (insertAt kelvinDoc [0x21] 9) := by
    decide +kernel
  rw [hcode, hi] at hout
  exact absurd hout (by decide +kernel)

/-- A text whose tag has a mixed case and an attribute. -/
def plainDoc : Bytes := bytesOf "<HTML><Body id='x'>hi"

theorem splice_plain_exact :
    Exact plainDoc [0x21] (Outlook.spliceHTMLBanner lowerTable plainDoc [0x21]) ∧
      Exact plainDoc [0x21] (Fastmail.spliceHTMLBanner lowerTable plainDoc [0x21]) ∧
      ∃ out, Gmail.injectIntoTextPart lowerTable plainDoc [0x21] "text/html" = some (out, true) ∧
        Exact plainDoc [0x21] (some out) := by
  have htag : firstTag plainDoc = some 6 := by decide +kernel
  have hend : index closing (plainDoc.drop 6) = some 12 := by decide +kernel
  have hlower : (toLower lowerTable (plainDoc.take 6)).length = 6 := by decide +kernel
  have haligned : Aligned lowerTable plainDoc := by
    intro p hp
    rw [htag] at hp
    cases hp
    rw [hlower]
    refine ⟨by decide +kernel, fun e he => ?_⟩
    rw [hend] at he
    cases he
    exact ⟨by omega, fun j hq hp => by omega⟩
  obtain ⟨hgmail, hfastmail, houtlook⟩ := splice_exact_iff lowerTable_table plainDoc
  exact ⟨houtlook.mpr haligned [0x21], hfastmail.mpr haligned [0x21], hgmail.mpr haligned [0x21]⟩

end Samples

end Exactness

end Sn360Es.Provider
