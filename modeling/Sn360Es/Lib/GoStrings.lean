import Mathlib.Data.List.Basic
import Mathlib.Data.List.Infix

/-!
# Functions of Go's `strings` package

On strings of Unicode scalar values, where a search for a substring finds the same places in the characters
as in their UTF-8 bytes.
-/

namespace Lib.GoStrings

/-- `unicode.IsSpace`. -/
def isSpace (c : Char) : Bool :=
  c.val ∈ [0x20, 0x85, 0xA0, 0x1680, 0x2028, 0x2029, 0x202F, 0x205F, 0x3000] ||
    (0x09 ≤ c.val && c.val ≤ 0x0D) || (0x2000 ≤ c.val && c.val ≤ 0x200A)

/-- `strings.TrimSpace`. -/
def trimSpace (s : String) : String :=
  String.ofList ((s.toList.dropWhile isSpace).reverse.dropWhile isSpace).reverse

/-- `strings.Trim`, of the characters of a set. -/
def trim (s : String) (cutset : List Char) : String :=
  String.ofList ((s.toList.dropWhile (· ∈ cutset)).reverse.dropWhile (· ∈ cutset)).reverse

/-- `strings.TrimRight` with one character. -/
def trimRight (s : String) (c : Char) : String := String.ofList (s.toList.reverse.dropWhile (· = c)).reverse

/-- The part after the last `sep`, if there is one. -/
def afterLast (sep : Char) (s : String) : Option String :=
  if sep ∈ s.toList then some (String.ofList (s.toList.reverse.takeWhile (· ≠ sep)).reverse) else none

/-- `strings.Split` on one character. -/
def split (s : String) (sep : Char) : List String := (s.toList.splitOn sep).map String.ofList

/-- `strings.Contains`. -/
def contains (s sub : String) : Bool := sub.toList <:+: s.toList

/-- The part after the first `sep`: `SplitN(s, sep, 2)[1]`, if there is one. -/
def afterFirst (sep : Char) (s : String) : Option String :=
  match s.toList.dropWhile (· ≠ sep) with
  | [] => none
  | _ :: rest => some (String.ofList rest)

/-- The part before the first `sep`, if there is one. -/
def beforeFirst (sep : Char) (s : String) : Option String :=
  if sep ∈ s.toList then some (String.ofList (s.toList.takeWhile (· ≠ sep))) else none

/-- The number of occurrences of `sub` that a scan from the left meets; `skip` characters belong to the
occurrence just counted. -/
def countFrom (sub : List Char) : ℕ → List Char → ℕ
  | _, [] => 0
  | skip + 1, _ :: cs => countFrom sub skip cs
  | 0, c :: cs =>
    if sub <+: c :: cs then 1 + countFrom sub (sub.length - 1) cs else countFrom sub 0 cs

/-- `strings.TrimSuffix`, on characters. -/
def trimSuffix (s tail : List Char) : List Char := if tail <:+ s then s.take (s.length - tail.length) else s

/-- `strings.TrimPrefix`, on characters. -/
def trimPrefix (s lead : List Char) : List Char := if lead <+: s then s.drop lead.length else s

/-- The number that decimal digits denote. -/
def digits (ds : List Char) : Option ℕ :=
  if ds ≠ [] ∧ ds.all Char.isDigit then some (ds.foldl (fun n c => 10 * n + (c.toNat - 48)) 0) else none

/-- `strconv.Atoi`. -/
def atoi (s : String) : Option ℤ :=
  let n : Option ℤ :=
    match s.toList with
    | '-' :: ds => (digits ds).map fun n => -(n : ℤ)
    | '+' :: ds => (digits ds).map fun n => (n : ℤ)
    | ds => (digits ds).map fun n => (n : ℤ)
  n.filter fun n => -9223372036854775808 ≤ n ∧ n ≤ 9223372036854775807

lemma dropWhile_isSpace {cs : List Char} (h : ∀ c ∈ cs.head?, isSpace c = false) : cs.dropWhile isSpace = cs := by
  cases cs with
  | nil => rfl
  | cons c cs =>
    rw [List.dropWhile_cons_of_neg]
    rw [h c rfl]
    decide

/-- What neither starts nor ends with a space stays as it is. -/
lemma trimSpace_eq_self {cs : List Char} (hhead : ∀ c ∈ cs.head?, isSpace c = false)
    (hlast : ∀ c ∈ cs.getLast?, isSpace c = false) : trimSpace (String.ofList cs) = String.ofList cs := by
  have hrev : ∀ c ∈ cs.reverse.head?, isSpace c = false := by
    rw [List.head?_reverse]
    exact hlast
  rw [trimSpace, String.toList_ofList, dropWhile_isSpace hhead, dropWhile_isSpace hrev, List.reverse_reverse]

section Cut

variable {c : Char} {s sep : String} (hsep : sep.toList = [c]) (h : c ∉ s.toList) (t : String)

include hsep

lemma toList_cut : (s ++ sep ++ t).toList = s.toList ++ c :: t.toList := by
  simp [String.toList_append, hsep]

include h

/-- The part before the first separator. -/
lemma beforeFirst_append : beforeFirst c (s ++ sep ++ t) = some s := by
  have hs : ∀ x ∈ s.toList, (decide (x ≠ c)) = true := by
    intro x hx
    exact decide_eq_true fun hxc => h (hxc ▸ hx)
  rw [beforeFirst, toList_cut hsep, if_pos (by simp), List.takeWhile_append_of_pos hs]
  simp

lemma afterFirst_append : afterFirst c (s ++ sep ++ t) = some t := by
  have hs : ∀ x ∈ s.toList, (decide (x ≠ c)) = true := by
    intro x hx
    exact decide_eq_true fun hxc => h (hxc ▸ hx)
  rw [afterFirst, toList_cut hsep, List.dropWhile_append_of_pos hs]
  simp

end Cut

/-- **The part after the last separator is known from the text**, and so is the part before. -/
lemma append_sep_inj {α : Type*} [DecidableEq α] {a : α} {s s' u u' : List α} (hu : a ∉ u) (hu' : a ∉ u')
    (h : s ++ a :: u = s' ++ a :: u') : s = s' ∧ u = u' := by
  have htail : ∀ {s u : List α}, a ∉ u → (s ++ a :: u).reverse.takeWhile (· ≠ a) = u.reverse := by
    intro s u hu
    have hne : ∀ c ∈ u.reverse, decide (c ≠ a) = true := by
      intro c hc
      exact decide_eq_true fun heq : c = a => hu (heq ▸ List.mem_reverse.mp hc)
    rw [List.reverse_append, List.reverse_cons, List.append_assoc, List.singleton_append,
      List.takeWhile_append_of_pos hne]
    simp
  have hrev : u.reverse = u'.reverse := by rw [← htail (s := s) hu, h, htail hu']
  have hueq : u = u' := List.reverse_injective hrev
  subst hueq
  exact ⟨List.append_cancel_right h, rfl⟩

end Lib.GoStrings
