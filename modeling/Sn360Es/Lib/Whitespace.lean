import Mathlib.Data.List.Infix
import Sn360Es.Lib.GoStrings

/-!
# Collapsing whitespace

Runs of blanks become one `sp` (`squeeze`), and the spaces at both ends go (`trim`). The two classes may differ,
as long as `sp` is a space.

* `infix_trim` — a part without spaces at its ends survives trimming;
* `collapse_infix` — what a part of a text collapses to is a part of what the text collapses to.
-/

namespace Lib.Whitespace

variable {α : Type*} (blank space : α → Bool) (sp : α)

/-- Every run of blanks becomes one `sp`; the flag says that the run has begun. -/
def squeeze : Bool → List α → List α
  | _, [] => []
  | inRun, c :: cs =>
    if blank c then if inRun then squeeze true cs else sp :: squeeze true cs
    else c :: squeeze false cs

def trim (cs : List α) : List α := ((cs.dropWhile space).reverse.dropWhile space).reverse

def collapse (cs : List α) : List α := trim space (squeeze blank sp false cs)

variable {blank space sp}

/-! ### Squeezing -/

/-- Whether a run of blanks is open after `cs`. -/
def openRun (blank : α → Bool) (inRun : Bool) (cs : List α) : Bool := cs.foldl (fun _ c => blank c) inRun

lemma squeeze_append (inRun : Bool) (cs ds : List α) : squeeze blank sp inRun (cs ++ ds) =
    squeeze blank sp inRun cs ++ squeeze blank sp (openRun blank inRun cs) ds := by
  induction cs generalizing inRun with
  | nil => rfl
  | cons c cs ih =>
    by_cases hc : blank c = true
    · cases inRun with
      | true => simp [squeeze, openRun, hc, ih]
      | false => simp [squeeze, openRun, hc, ih]
    · simp only [Bool.not_eq_true] at hc
      simp [squeeze, openRun, hc, ih]

lemma squeeze_flag (blank : α → Bool) (sp : α) (cs : List α) : squeeze blank sp false cs = squeeze blank sp true cs ∨
    squeeze blank sp false cs = sp :: squeeze blank sp true cs := by
  cases cs with
  | nil => exact .inl rfl
  | cons c cs =>
    by_cases hc : blank c = true
    · exact .inr (by simp [squeeze, hc])
    · exact .inl (by simp [squeeze, hc])

/-! ### Trimming -/

/-- Neither end is a space. -/
structure Trimmed (space : α → Bool) (cs : List α) : Prop where
  head : ∀ c ∈ cs.head?, space c = false
  last : ∀ c ∈ cs.getLast?, space c = false

lemma head_dropWhile (space : α → Bool) (cs : List α) : ∀ c ∈ (cs.dropWhile space).head?, space c = false := by
  induction cs with
  | nil => simp
  | cons d cs ih =>
    by_cases hd : space d = true
    · simpa [hd] using ih
    · simp [hd]

lemma trim_isPrefix (space : α → Bool) (cs : List α) : trim space cs <+: cs.dropWhile space := by
  rw [trim, ← List.reverse_suffix, List.reverse_reverse]
  exact List.dropWhile_suffix _

lemma trim_isInfix (space : α → Bool) (cs : List α) : trim space cs <:+: cs :=
  (trim_isPrefix space cs).isInfix.trans (List.dropWhile_suffix _).isInfix

lemma trimmed_trim (space : α → Bool) (cs : List α) : Trimmed space (trim space cs) := by
  constructor
  · intro c hc
    obtain ⟨ds, hds⟩ := trim_isPrefix space cs
    apply head_dropWhile space cs c
    rw [← hds, List.head?_append, Option.mem_def.mp hc]
    rfl
  · intro c hc
    rw [trim, List.getLast?_reverse] at hc
    exact head_dropWhile space _ c hc

lemma infix_dropWhile {t cs : List α} (ht : ∀ c ∈ t.head?, space c = false) (h : t <:+: cs) :
    t <:+: cs.dropWhile space := by
  induction cs with
  | nil => exact h
  | cons c cs ih =>
    by_cases hc : space c = true
    · rw [List.dropWhile_cons_of_pos hc]
      rcases List.infix_cons_iff.mp h with hpre | hinf
      · cases t with
        | nil => exact List.nil_infix
        | cons d t =>
          have hd : d = c := (List.cons_prefix_cons.mp hpre).1
          have hns := ht d rfl
          rw [hd, hc] at hns
          cases hns
      · exact ih hinf
    · rwa [List.dropWhile_cons_of_neg hc]

/-- **Trimming keeps** a part without spaces at its ends. -/
lemma infix_trim {t cs : List α} (ht : Trimmed space t) (h : t <:+: cs) : t <:+: trim space cs := by
  have h1 : t.reverse <:+: (cs.dropWhile space).reverse := List.reverse_infix.mpr (infix_dropWhile ht.head h)
  have h2 : t.reverse <:+: (cs.dropWhile space).reverse.dropWhile space := by
    refine infix_dropWhile ?_ h1
    intro c hc
    rw [List.head?_reverse] at hc
    exact ht.last c hc
  rw [trim, ← List.reverse_infix, List.reverse_reverse]
  exact h2

lemma trim_cons_sp (hsp : space sp = true) (cs : List α) : trim space (sp :: cs) = trim space cs := by
  rw [trim, trim, List.dropWhile_cons_of_pos hsp]

lemma trim_squeeze (blank : α → Bool) (hsp : space sp = true) (inRun : Bool) (cs : List α) :
    trim space (squeeze blank sp inRun cs) = collapse blank space sp cs := by
  cases inRun with
  | false => rfl
  | true =>
    rcases squeeze_flag blank sp cs with h | h
    · rw [collapse, h]
    · rw [collapse, h, trim_cons_sp hsp]

/-- **What a part collapses to** is a part of what the whole collapses to. -/
theorem collapse_infix (blank : α → Bool) (hsp : space sp = true) {t cs : List α} (h : t <:+: cs) :
    collapse blank space sp t <:+: collapse blank space sp cs := by
  obtain ⟨a, b, rfl⟩ := h
  have hpart : squeeze blank sp (openRun blank false a) t <:+: squeeze blank sp false (a ++ t ++ b) := by
    rw [squeeze_append, squeeze_append]
    exact List.infix_append _ _ _
  have htrim := trim_squeeze blank hsp (openRun blank false a) t
  rw [← htrim]
  exact infix_trim (trimmed_trim space _) ((trim_isInfix space _).trans hpart)

end Lib.Whitespace
