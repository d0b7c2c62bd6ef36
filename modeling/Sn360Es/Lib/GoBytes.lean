import Mathlib.Data.List.Infix
import Sn360Es.Lib.Hex

/-!
# Searching in byte strings (`bytes`, `strings`)

* `index` — `bytes.Index`, `strings.Index`, and `index_eq_some_iff`;
* `NoCross`, `index_append` — searching in two halves that no occurrence crosses;
* `split` — `bytes.Split`, and `intercalate_split`.
-/

namespace Lib.GoBytes

variable {α : Type*} [DecidableEq α]

/-- `Index`: where `sep` comes first. -/
def index (sep : List α) : List α → Option ℕ
  | [] => if sep = [] then some 0 else none
  | a :: s => if sep <+: a :: s then some 0 else (index sep s).map (· + 1)

/-- `sep` stands at the place `i` of `s`. -/
def At (sep s : List α) (i : ℕ) : Prop := sep <+: s.drop i

variable {sep s : List α} {i : ℕ}

omit [DecidableEq α] in
@[simp] lemma at_zero : At sep s 0 ↔ sep <+: s := Iff.rfl

omit [DecidableEq α] in
@[simp] lemma at_cons_succ {a : α} : At sep (a :: s) (i + 1) ↔ At sep s i := Iff.rfl

/-- **The first place.** -/
lemma index_eq_some_iff : index sep s = some i ↔ (i ≤ s.length ∧ At sep s i) ∧ ∀ j < i, ¬ At sep s j := by
  induction s generalizing i with
  | nil =>
    unfold index
    by_cases hsep : sep = []
    · subst hsep
      simp only [if_true, Option.some.injEq, List.length_nil, Nat.le_zero]
      constructor
      · rintro rfl
        exact ⟨⟨rfl, List.prefix_refl _⟩, fun j hj => absurd hj (Nat.not_lt_zero j)⟩
      · rintro ⟨⟨rfl, -⟩, -⟩
        rfl
    · rw [if_neg hsep]
      refine iff_of_false (by simp) ?_
      rintro ⟨⟨hi, hat⟩, -⟩
      rw [List.length_nil, Nat.le_zero] at hi
      subst hi
      exact hsep (List.prefix_nil.mp hat)
  | cons a s ih =>
    unfold index
    by_cases hsep : sep <+: a :: s
    · rw [if_pos hsep]
      constructor
      · rintro ⟨⟩
        exact ⟨⟨Nat.zero_le _, hsep⟩, fun j hj => absurd hj (Nat.not_lt_zero j)⟩
      · rintro ⟨-, hfirst⟩
        cases i with
        | zero => rfl
        | succ i => exact absurd hsep (hfirst 0 (Nat.succ_pos i))
    · rw [if_neg hsep]
      cases i with
      | zero =>
        refine iff_of_false ?_ fun h => hsep h.1.2
        cases index sep s <;> simp
      | succ i =>
        have hmap : (index sep s).map (· + 1) = some (i + 1) ↔ index sep s = some i := by
          cases index sep s <;> simp
        rw [hmap, ih]
        simp only [List.length_cons, Nat.add_le_add_iff_right, at_cons_succ]
        refine and_congr_right fun _ => ⟨fun h j hj => ?_, fun h j hj => ?_⟩
        · cases j with
          | zero => exact hsep
          | succ j => exact h j (by omega)
        · exact h (j + 1) (by omega)

lemma index_eq_none_iff : index sep s = none ↔ ∀ j ≤ s.length, ¬ At sep s j := by
  constructor
  · intro hnone
    by_contra hsome
    classical
    have hex : ∃ j, j ≤ s.length ∧ At sep s j := by
      by_contra hno
      exact hsome fun j hj hat => hno ⟨j, hj, hat⟩
    have hfirst : ∀ j < Nat.find hex, ¬ At sep s j := fun j hj hat =>
      Nat.find_min hex hj ⟨(Nat.le_of_lt hj).trans (Nat.find_spec hex).1, hat⟩
    rw [index_eq_some_iff.mpr ⟨Nat.find_spec hex, hfirst⟩] at hnone
    cases hnone
  · intro hall
    cases hi : index sep s with
    | none => rfl
    | some i =>
      obtain ⟨⟨hle, hat⟩, -⟩ := index_eq_some_iff.mp hi
      exact absurd hat (hall i hle)

omit [DecidableEq α] in
lemma At.lt_length (hsep : sep ≠ []) (h : At sep s i) : i < s.length := by
  by_contra hge
  rw [At, List.drop_eq_nil_of_le (not_lt.mp hge)] at h
  exact hsep (List.prefix_nil.mp h)

omit [DecidableEq α] in
/-- A single letter stands where the string has it. -/
lemma at_singleton {a : α} : At [a] s i ↔ s[i]? = some a := by
  unfold At
  rw [← List.head?_drop]
  cases s.drop i with
  | nil => simp
  | cons b t => simp [List.cons_prefix_cons, eq_comm]

/-! ### Two halves -/

/-- No occurrence of `sep` begins in `p` and ends in `t`. -/
def NoCross (sep p t : List α) : Prop := ∀ j < p.length, p.length < j + sep.length → ¬ At sep (p ++ t) j

section Halves

variable {p t : List α} {a : α}

omit [DecidableEq α] in
lemma NoCross.tail (h : NoCross sep (a :: p) t) : NoCross sep p t := fun j hj hlen =>
  h (j + 1) (by rw [List.length_cons]; omega) (by rw [List.length_cons]; omega)

omit [DecidableEq α] in
lemma NoCross.drop (h : NoCross sep p t) (k : ℕ) : NoCross sep (p.drop k) t := by
  induction k generalizing p with
  | zero => exact h
  | succ k ih =>
    cases p with
    | nil => exact h
    | cons a p => exact ih h.tail

omit [DecidableEq α] in
/-- The letter at the place `p.length` belongs to a word that stands over it. -/
lemma At.getElem?_eq (hat : At sep (p ++ a :: t) i) (hi : i ≤ p.length) (hlen : p.length < i + sep.length) :
    sep[p.length - i]? = some a := by
  obtain ⟨u, hu⟩ := hat
  have hget : (sep ++ u)[p.length - i]? = some a := by
    rw [hu, List.getElem?_drop, Nat.add_sub_cancel' hi, List.getElem?_append_right le_rfl, Nat.sub_self]
    rfl
  rwa [List.getElem?_append_left (by omega)] at hget

omit [DecidableEq α] in
/-- A letter that the word does not have ends the first half. -/
lemma noCross_of_not_mem (ha : a ∉ sep) (p t : List α) : NoCross sep (p ++ [a]) t := by
  intro j hj hlen hat
  rw [List.length_append, List.length_singleton] at hj hlen
  rw [List.append_assoc] at hat
  exact ha (List.mem_of_getElem? (hat.getElem?_eq (by omega) (by omega)))

omit [DecidableEq α] in
/-- It begins the second half. -/
lemma noCross_cons_of_not_mem (ha : a ∉ sep) (p t : List α) : NoCross sep p (a :: t) := fun _ hj hlen hat =>
  ha (List.mem_of_getElem? (hat.getElem?_eq hj.le hlen))

omit [DecidableEq α] in
/-- The second half begins with the first letter of a word that does not have it again. -/
lemma noCross_of_head {w : List α} (ha : a ∉ w) (p t : List α) : NoCross (a :: w) p (a :: t) := by
  intro j hj hlen hat
  have hget := hat.getElem?_eq hj.le hlen
  rw [show p.length - j = p.length - j - 1 + 1 by omega, List.getElem?_cons_succ] at hget
  exact ha (List.mem_of_getElem? hget)

omit [DecidableEq α] in
lemma prefix_append_iff_of_length_le (h : sep.length ≤ p.length) : sep <+: p ++ t ↔ sep <+: p := by
  refine ⟨fun hp => List.prefix_of_prefix_length_le hp (List.prefix_append p t) h, fun hp => ?_⟩
  exact hp.trans (List.prefix_append p t)

/-- **Searching in two halves.** -/
lemma index_append (hsep : sep ≠ []) (h : NoCross sep p t) :
    index sep (p ++ t) = (index sep p).or ((index sep t).map (p.length + ·)) := by
  induction p with
  | nil =>
    have hnil : index sep [] = none := if_neg hsep
    rw [hnil]
    cases hi : index sep t <;> simp [hi]
  | cons a p ih =>
    have hiff : sep <+: a :: (p ++ t) ↔ sep <+: a :: p := by
      by_cases hlen : sep.length ≤ (a :: p).length
      · exact prefix_append_iff_of_length_le hlen
      · refine iff_of_false (fun hp => ?_) fun hp => hlen hp.length_le
        exact h 0 (by simp) (by omega) hp
    rw [List.cons_append, index, index, ih h.tail]
    by_cases hp : sep <+: a :: p
    · rw [if_pos (hiff.mpr hp), if_pos hp, Option.some_or]
    · rw [if_neg fun hp' => hp (hiff.mp hp'), if_neg hp]
      cases index sep p with
      | some i => simp
      | none =>
        cases index sep t with
        | none => rfl
        | some i => simp; omega

/-- What the first half has is found there. -/
lemma index_append_of_some (hsep : sep ≠ []) (h : index sep p = some i) (t : List α) : index sep (p ++ t) = some i := by
  obtain ⟨⟨hle, hat⟩, hfirst⟩ := index_eq_some_iff.mp h
  have hlen : sep.length ≤ p.length - i := by
    have := hat.length_le
    rwa [List.length_drop] at this
  have hpos := List.length_pos_iff.mpr hsep
  have hdrop : ∀ j ≤ i, At sep (p ++ t) j ↔ At sep p j := by
    intro j hj
    unfold At
    rw [List.drop_append_of_le_length (by omega)]
    exact prefix_append_iff_of_length_le (by rw [List.length_drop]; omega)
  refine index_eq_some_iff.mpr ⟨⟨?_, (hdrop i le_rfl).mpr hat⟩, fun j hj hat' => ?_⟩
  · rw [List.length_append]
    omega
  · exact hfirst j hj ((hdrop j hj.le).mp hat')

omit [DecidableEq α] in
lemma at_append_right (h : p.length ≤ i) : At sep (p ++ t) i ↔ At sep t (i - p.length) := by
  unfold At
  rw [List.drop_append, List.drop_eq_nil_of_le h, List.nil_append]

lemma index_le_length (h : index sep s = some i) : i + sep.length ≤ s.length := by
  obtain ⟨⟨hle, hat⟩, -⟩ := index_eq_some_iff.mp h
  have := hat.length_le
  rw [List.length_drop] at this
  omega

end Halves

/-! ### Pieces -/

/-- The pieces at `sep` of what follows the next `skip` letters, which belong to a separator that was read. -/
def splitFrom (sep : List α) : ℕ → List α → List (List α)
  | _, [] => [[]]
  | skip + 1, _ :: s => splitFrom sep skip s
  | 0, a :: s =>
    if sep <+: a :: s then [] :: splitFrom sep (sep.length - 1) s
    else (splitFrom sep 0 s).modifyHead (a :: ·)

/-- `bytes.Split`, for a separator that is not empty. -/
def split (sep s : List α) : List (List α) := splitFrom sep 0 s

section Pieces

lemma splitFrom_eq_drop (skip : ℕ) (s : List α) : splitFrom sep skip s = split sep (s.drop skip) := by
  induction s generalizing skip with
  | nil =>
    rw [List.drop_nil]
    cases skip <;> rfl
  | cons a s ih =>
    cases skip with
    | zero => rfl
    | succ skip => exact ih skip

lemma split_cons_of_isPrefix {a : α} (hsep : sep ≠ []) (h : sep <+: a :: s) :
    split sep (a :: s) = [] :: split sep ((a :: s).drop sep.length) := by
  obtain ⟨b, w, rfl⟩ := List.exists_cons_of_ne_nil hsep
  rw [split, splitFrom, if_pos h, splitFrom_eq_drop, List.length_cons, List.drop_succ_cons]
  rfl

lemma split_cons_of_not_isPrefix {a : α} (h : ¬ sep <+: a :: s) :
    split sep (a :: s) = (split sep s).modifyHead (a :: ·) := by
  rw [split, splitFrom, if_neg h]
  rfl

lemma split_of_index_none (h : index sep s = none) : split sep s = [s] := by
  induction s with
  | nil => rfl
  | cons a s ih =>
    unfold index at h
    split_ifs at h with hp
    rw [split_cons_of_not_isPrefix hp, ih (by simpa using h)]
    rfl

/-- **The first piece ends where the separator comes first.** -/
lemma split_of_index_some (hsep : sep ≠ []) (h : index sep s = some i) :
    split sep s = s.take i :: split sep (s.drop (i + sep.length)) := by
  induction s generalizing i with
  | nil =>
    rw [index, if_neg hsep] at h
    cases h
  | cons a s ih =>
    unfold index at h
    split_ifs at h with hp
    · cases h
      rw [split_cons_of_isPrefix hsep hp, Nat.zero_add]
      rfl
    · obtain ⟨k, hk, rfl⟩ := Option.map_eq_some_iff.mp h
      rw [split_cons_of_not_isPrefix hp, ih hk, Nat.add_right_comm, List.drop_succ_cons, List.take_succ_cons]
      rfl

/-- The first piece, when it is known. -/
lemma split_append {p : List α} (hsep : sep ≠ []) (h : index sep (p ++ sep) = some p.length) (t : List α) :
    split sep (p ++ (sep ++ t)) = p :: split sep t := by
  have hi : index sep (p ++ (sep ++ t)) = some p.length := by
    rw [← List.append_assoc]
    exact index_append_of_some hsep h t
  rw [split_of_index_some hsep hi, List.take_left, List.drop_append, List.drop_eq_nil_of_le (Nat.le_add_right _ _),
    Nat.add_sub_cancel_left, List.nil_append, List.drop_left]

/-- **Splitting in two halves**, at a separator that no other one crosses. -/
lemma split_append_sep {p t : List α} (hsep : sep ≠ []) (h : NoCross sep p (sep ++ t)) :
    split sep (p ++ (sep ++ t)) = split sep p ++ split sep t := by
  generalize hn : p.length = n
  induction n using Nat.strong_induction_on generalizing p with
  | _ n ih =>
    cases hi : index sep p with
    | none =>
      have hself : index sep (sep ++ t) = some 0 := index_eq_some_iff.mpr
        ⟨⟨Nat.zero_le _, List.prefix_append _ _⟩, fun j hj => absurd hj (Nat.not_lt_zero j)⟩
      have hfirst : index sep (p ++ (sep ++ t)) = some p.length := by
        rw [index_append hsep h, hi, hself]
        rfl
      rw [split_of_index_some hsep hfirst, split_of_index_none hi, List.take_left, List.drop_length_add_append,
        List.drop_left]
      rfl
    | some i =>
      have hle := index_le_length hi
      have hpos := List.length_pos_iff.mpr hsep
      have hrest := ih (p.drop (i + sep.length)).length (by rw [List.length_drop]; omega) (h.drop _) rfl
      rw [split_of_index_some hsep (index_append_of_some hsep hi _), split_of_index_some hsep hi,
        List.take_append_of_le_length (by omega), List.drop_append_of_le_length hle, hrest]
      rfl

lemma split_ne_nil (sep s : List α) : split sep s ≠ [] := by
  have hskip : ∀ skip, splitFrom sep skip s ≠ [] := by
    intro skip
    induction s generalizing skip with
    | nil => cases skip <;> simp [splitFrom]
    | cons a s ih =>
      cases skip with
      | succ skip => exact ih skip
      | zero =>
        rw [splitFrom]
        split_ifs
        · simp
        · intro hnil
          apply ih 0
          cases hs : splitFrom sep 0 s with
          | nil => rfl
          | cons q qs =>
            rw [hs] at hnil
            cases hnil
  exact hskip 0

/-- **Joining what was split.** -/
theorem intercalate_split (hsep : sep ≠ []) (s : List α) : sep.intercalate (split sep s) = s := by
  generalize hn : s.length = n
  induction n using Nat.strong_induction_on generalizing s with
  | _ n ih =>
    cases hi : index sep s with
    | none => rw [split_of_index_none hi, List.intercalate_singleton]
    | some i =>
      have hle := index_le_length hi
      have hpos := List.length_pos_iff.mpr hsep
      have hat : sep <+: s.drop i := (index_eq_some_iff.mp hi).1.2
      have hrest : sep ++ s.drop (i + sep.length) = s.drop i := by
        rw [← List.drop_drop]
        exact List.prefix_iff_eq_append.mp hat
      rw [split_of_index_some hsep hi, List.intercalate_cons_of_ne_nil (split_ne_nil _ _),
        ih (s.drop (i + sep.length)).length (by rw [List.length_drop]; omega) _ rfl, List.append_assoc, hrest,
        List.take_append_drop]

lemma index_take (hsep : sep ≠ []) (h : index sep s = some i) : index sep (s.take i) = none := by
  obtain ⟨-, hfirst⟩ := index_eq_some_iff.mp h
  refine index_eq_none_iff.mpr fun j _ hat => ?_
  have hlt := hat.lt_length hsep
  rw [List.length_take] at hlt
  refine hfirst j (by omega) ?_
  unfold At at *
  rw [List.drop_take] at hat
  exact hat.trans (List.take_prefix _ _)

/-- **No piece has the separator.** -/
lemma index_of_mem_split (hsep : sep ≠ []) {p : List α} (hp : p ∈ split sep s) : index sep p = none := by
  generalize hn : s.length = n
  induction n using Nat.strong_induction_on generalizing s with
  | _ n ih =>
    cases hi : index sep s with
    | none =>
      rw [split_of_index_none hi, List.mem_singleton] at hp
      rw [hp, hi]
    | some i =>
      have hle := index_le_length hi
      have hpos := List.length_pos_iff.mpr hsep
      rw [split_of_index_some hsep hi, List.mem_cons] at hp
      rcases hp with rfl | hp
      · exact index_take hsep hi
      · exact ih (s.drop (i + sep.length)).length (by rw [List.length_drop]; omega) hp rfl

/-- A piece before a separator does not have one. -/
lemma index_eq_none_of_append {p : List α} (hsep : sep ≠ []) (h : index sep (p ++ sep) = some p.length) :
    index sep p = none := by
  cases hi : index sep p with
  | none => rfl
  | some i =>
    rw [index_append_of_some hsep hi] at h
    cases h
    have hle := index_le_length hi
    have hpos := List.length_pos_iff.mpr hsep
    omega

omit [DecidableEq α] in
lemma intercalate_append_cons (ps : List (List α)) (p : List α) {qs : List (List α)} (hqs : qs ≠ []) :
    sep.intercalate (ps ++ p :: qs) = ps.flatMap (· ++ sep) ++ (p ++ (sep ++ sep.intercalate qs)) := by
  induction ps with
  | nil => rw [List.nil_append, List.intercalate_cons_of_ne_nil hqs, List.flatMap_nil, List.nil_append, List.append_assoc]
  | cons r ps ih =>
    rw [List.cons_append, List.intercalate_cons_of_ne_nil (by simp), ih, List.flatMap_cons, List.append_assoc,
      List.append_assoc, List.append_assoc]

/-- Without the separators there is less. -/
lemma length_flatten_split_le (hsep : sep ≠ []) (s : List α) : (split sep s).flatten.length ≤ s.length := by
  have hall : ∀ ps : List (List α), ps.flatten.length ≤ (sep.intercalate ps).length := by
    intro ps
    induction ps with
    | nil => simp
    | cons p ps ih =>
      cases ps with
      | nil => simp
      | cons q qs =>
        rw [List.intercalate_cons_cons, List.flatten_cons, List.length_append, List.length_append, List.length_append]
        omega
  have hle := hall (split sep s)
  rwa [intercalate_split hsep] at hle

/-- **Splitting what was joined**, from pieces that do not have the separator. -/
theorem split_intercalate (hsep : sep ≠ []) {ps : List (List α)} (hne : ps ≠ [])
    (hclean : ∀ p ∈ ps, index sep (p ++ sep) = some p.length) : split sep (sep.intercalate ps) = ps := by
  induction ps with
  | nil => exact absurd rfl hne
  | cons p ps ih =>
    cases ps with
    | nil =>
      rw [List.intercalate_singleton]
      exact split_of_index_none (index_eq_none_of_append hsep (hclean p List.mem_cons_self))
    | cons q qs =>
      rw [List.intercalate_cons_cons, List.append_assoc, split_append hsep (hclean p List.mem_cons_self),
        ih (List.cons_ne_nil q qs) fun r hr => hclean r (List.mem_cons_of_mem _ hr)]

end Pieces

end Lib.GoBytes
