import Sn360Es.Lib.JsonDecode
import Sn360Es.Lib.JsonFields

/-!
# The verdict in the output of a model (`pkg/inference/slm/prompt.go`)

`ParseVerdict` is to find the first balanced object of a text. It cuts the text from the first opening brace to the last
closing one, which is that object only if no closing brace follows it.

* `parseVerdict_of_cut` — what is decoded;
* `unmarshal_object_append` — an object with more behind it than white space is not decoded;
* `parseVerdict_object_iff` — when the first object is the one that is decoded.
-/

namespace Sn360Es.Slm

open Lib Lib.JsonText Lib.JsonDecode Lib.GoBytes
open Lib.Utf8 (trimSpace trimSpace_split spaceRunes encodeRune)

/-! ### Decoding (`encoding/json`) -/

/-- `Verdict`. Categories may be nil. -/
structure Verdict where
  score : Int64 := 0
  categories : Option (List String) := none
  confidence : Float64 := 0
  explanation : String := ""
  deriving DecidableEq

/-- A verdict while it is decoded, with the array behind its categories: a slice that is filled again keeps the elements
that were there. -/
structure Building where
  verdict : Verdict := {}
  backing : List String := []

/-- One member of the object: a name is taken for a field whose name it is up to case. -/
def Building.assign (v : Building) (m : Member) : Option Building :=
  if Json.foldName m.1 = Json.foldName "score" then
    (decInt v.verdict.score m.2).map fun n => { v with verdict := { v.verdict with score := n } }
  else if Json.foldName m.1 = Json.foldName "categories" then
    (decStrings v.backing m.2).map fun x => ⟨{ v.verdict with categories := x.1 }, x.2⟩
  else if Json.foldName m.1 = Json.foldName "confidence" then
    (decFloat v.verdict.confidence m.2).map fun x => { v with verdict := { v.verdict with confidence := x } }
  else if Json.foldName m.1 = Json.foldName "explanation" then
    (decString v.verdict.explanation m.2).map fun s => { v with verdict := { v.verdict with explanation := s } }
  else some v

/-- `json.Unmarshal` of an object into a verdict. -/
def unmarshal (x : Bytes) : Option Verdict :=
  (document (maxNestingDepth - 1) x).bind fun ms => (ms.foldlM Building.assign {}).map Building.verdict

/-! ### The function -/

inductive ParseError where
  /-- `ErrEmptyResponse`. -/
  | emptyContent
  /-- `ErrUnparseableVerdict`, without braces. -/
  | noObject
  /-- `ErrUnparseableVerdict`, of the decoder. -/
  | decode
  deriving DecidableEq, Repr

/-- The text of an error; the last one goes on with the one of the decoder. -/
def ParseError.text : ParseError → String
  | emptyContent => "slm: empty model response: empty model content"
  | noObject => "slm: unparseable verdict: no JSON object in model output"
  | decode => "slm: unparseable verdict: decode verdict: "

/-- `errors.Is(err, ErrUnparseableVerdict)`. -/
def ParseError.isUnparseable : ParseError → Bool
  | emptyContent => false
  | noObject => true
  | decode => true

/-- `strings.LastIndex` of a byte. -/
def lastIndex (c : UInt8) (s : Bytes) : Option ℕ := (index [c] s.reverse).map fun i => s.length - 1 - i

def decodeVerdict (x : Bytes) : Except ParseError Verdict :=
  match unmarshal x with
  | some v => .ok v
  | none => .error .decode

/-- `ParseVerdict`. -/
def parseVerdict (content : Bytes) : Except ParseError Verdict :=
  let content := trimSpace content
  if content = [] then .error .emptyContent
  else
    match index [0x7B] content, lastIndex 0x7D content with
    | some start, some last =>
      if last < start then .error .noObject else decodeVerdict ((content.take (last + 1)).drop start)
    | _, _ => .error .noObject

/-- A JSON object, of any nesting. -/
def IsObject (o : Bytes) : Prop := ∃ n ms t, o = 0x7B :: t ∧ Run (member (value n)) true t ms [0x7D]

/-! ### What is cut out -/

section Cut

variable {c : UInt8} {a b o p s t x y : Bytes}

lemma index_byte (h : c ∉ a) (b : Bytes) : index [c] (a ++ c :: b) = some a.length := by
  rw [index_eq_some_iff]
  refine ⟨⟨by simp, at_singleton.mpr (by simp)⟩, fun j hj hat => ?_⟩
  rw [at_singleton, List.getElem?_append_left hj] at hat
  exact h (List.mem_of_getElem? hat)

lemma index_byte_none (h : c ∉ s) : index [c] s = none := by
  rw [index_eq_none_iff]
  intro j _ hat
  exact h (List.mem_of_getElem? (at_singleton.mp hat))

lemma lastIndex_byte (h : c ∉ b) (a : Bytes) : lastIndex c (a ++ c :: b) = some a.length := by
  have hrev : (a ++ c :: b).reverse = b.reverse ++ c :: a.reverse := by simp
  rw [lastIndex, hrev, index_byte (by simpa using h)]
  simp only [List.length_append, List.length_cons, List.length_reverse, Option.map_some]
  congr 1
  omega

lemma lastIndex_byte_none (h : c ∉ s) : lastIndex c s = none := by
  rw [lastIndex, index_byte_none (by simpa using h)]
  rfl

lemma exists_first (h : c ∈ s) : ∃ a b, s = a ++ c :: b ∧ c ∉ a := by
  obtain ⟨a, b, rfl, ha⟩ := List.eq_append_cons_of_mem h
  exact ⟨a, b, rfl, ha⟩

lemma exists_last_byte (h : c ∈ s) : ∃ a b, s = a ++ c :: b ∧ c ∉ b := by
  obtain ⟨b, a, hs, hb⟩ := exists_first (List.mem_reverse.mpr h)
  refine ⟨a.reverse, b.reverse, ?_, by simpa using hb⟩
  rw [← List.reverse_reverse s, hs]
  simp

/-- Braces are not trimmed. -/
lemma brace_not_space : (∀ w ∈ spaceRunes.map encodeRune, (0x7B : UInt8) ∉ w) ∧
    ∀ w ∈ spaceRunes.map encodeRune, (0x7D : UInt8) ∉ w := by decide

lemma of_append_eq_left (h : p ++ s = a ++ c :: b) (hp : c ∉ p) : ∃ a', a = p ++ a' ∧ s = a' ++ c :: b := by
  rcases List.append_eq_append_iff.mp h with ⟨u, ha, hs⟩ | ⟨u, hp', hs⟩
  · exact ⟨u, ha, hs⟩
  · cases u with
    | nil => exact ⟨[], by simpa using hp'.symm, by simpa using hs.symm⟩
    | cons d u =>
      obtain rfl : c = d := (List.cons.inj hs).1
      exact absurd (by rw [hp']; simp) hp

lemma of_append_eq_right (h : s ++ p = a ++ c :: b) (hp : c ∉ p) : ∃ b', b = b' ++ p ∧ s = a ++ c :: b' := by
  have hrev : p.reverse ++ s.reverse = b.reverse ++ c :: a.reverse := by
    rw [← List.reverse_append, h]
    simp
  obtain ⟨u, hb, hs⟩ := of_append_eq_left hrev (by simpa using hp)
  refine ⟨u.reverse, ?_, ?_⟩
  · rw [← List.reverse_reverse b, hb]
    simp
  · rw [← List.reverse_reverse s, hs]
    simp

/-- **What is decoded** goes from the first opening brace to the last closing one. -/
lemma parseVerdict_of_cut (ha : 0x7B ∉ a) (hb : 0x7D ∉ b) :
    parseVerdict (a ++ 0x7B :: (y ++ 0x7D :: b)) = decodeVerdict (0x7B :: (y ++ [0x7D])) := by
  obtain ⟨l, r, hsplit, hfree⟩ := trimSpace_split (a ++ 0x7B :: (y ++ 0x7D :: b))
  obtain ⟨hl, -⟩ := hfree 0x7B brace_not_space.1
  obtain ⟨-, hr⟩ := hfree 0x7D brace_not_space.2
  -- what is trimmed off is before the first brace and after the last one
  rw [List.append_assoc] at hsplit
  obtain ⟨a', rfl, htail⟩ := of_append_eq_left hsplit.symm hl
  have hassoc : a' ++ 0x7B :: (y ++ 0x7D :: b) = (a' ++ 0x7B :: y) ++ 0x7D :: b := by simp
  rw [hassoc] at htail
  obtain ⟨b', rfl, hcontent⟩ := of_append_eq_right htail hr
  have ha' : 0x7B ∉ a' := fun h => ha (List.mem_append_right l h)
  have hb' : 0x7D ∉ b' := fun h => hb (List.mem_append_left r h)
  have hfirst : a' ++ 0x7B :: y ++ 0x7D :: b' = a' ++ 0x7B :: (y ++ 0x7D :: b') := by simp
  unfold parseVerdict
  simp only [hcontent]
  rw [if_neg (by simp), lastIndex_byte hb', hfirst, index_byte ha']
  simp only
  rw [if_neg (by simp)]
  congr 1
  have htake : (a' ++ 0x7B :: (y ++ 0x7D :: b')).take ((a' ++ 0x7B :: y).length + 1) =
      a' ++ 0x7B :: (y ++ [0x7D]) := by
    have happ : a' ++ 0x7B :: (y ++ 0x7D :: b') = (a' ++ 0x7B :: (y ++ [0x7D])) ++ b' := by simp
    rw [happ]
    refine List.take_left' ?_
    simp only [List.length_append, List.length_cons, List.length_nil]
    omega
  rw [htake, List.drop_left]

/-- Without a closing brace after the first opening one. -/
lemma parseVerdict_of_open (ha : 0x7B ∉ a) (hb : 0x7D ∉ b) : parseVerdict (a ++ 0x7B :: b) = .error .noObject := by
  obtain ⟨l, r, hsplit, hfree⟩ := trimSpace_split (a ++ 0x7B :: b)
  obtain ⟨hl, hr⟩ := hfree 0x7B brace_not_space.1
  rw [List.append_assoc] at hsplit
  obtain ⟨a', rfl, htail⟩ := of_append_eq_left hsplit.symm hl
  obtain ⟨b', rfl, hcontent⟩ := of_append_eq_right htail hr
  have ha' : 0x7B ∉ a' := fun h => ha (List.mem_append_right l h)
  have hb' : 0x7D ∉ b' := fun h => hb (List.mem_append_left r h)
  unfold parseVerdict
  simp only [hcontent]
  rw [if_neg (by simp), index_byte ha']
  by_cases hclose : (0x7D : UInt8) ∈ a'
  · -- the last closing brace is before the opening one
    obtain ⟨u, v, rfl, hv⟩ := exists_last_byte hclose
    have hlast : 0x7D ∉ v ++ 0x7B :: b' := by simp [hv, hb']
    have happ : u ++ 0x7D :: v ++ 0x7B :: b' = u ++ 0x7D :: (v ++ 0x7B :: b') := by simp
    rw [happ, lastIndex_byte hlast]
    simp only
    rw [if_pos (by simp)]
  · rw [lastIndex_byte_none (by simp [hclose, hb'])]

/-! ### Objects -/

/-- What is decoded is an object. -/
lemma isObject_of_unmarshal (h : (unmarshal (0x7B :: (y ++ [0x7D]))).isSome) : IsObject (0x7B :: (y ++ [0x7D])) := by
  obtain ⟨v, hv⟩ := Option.isSome_iff_exists.mp h
  obtain ⟨ms, hms, -⟩ := Option.bind_eq_some_iff.mp hv
  obtain ⟨u, r, hu, hrun, hr⟩ := document_eq_some_iff.mp hms
  have hskip : skipSpace (0x7B :: (y ++ [0x7D])) = 0x7B :: (y ++ [0x7D]) := List.dropWhile_cons_of_neg (by decide)
  rw [hskip, List.cons.injEq] at hu
  obtain ⟨-, rfl⟩ := hu
  obtain ⟨q, hq, -⟩ := hrun.local (reads_member (reads_value (le_refl (maxNestingDepth - 1))))
  -- the text ends with a brace, so nothing is behind the object
  have hnil : r = [] := by
    by_contra hne
    obtain ⟨r', e, rfl⟩ := (List.eq_nil_or_concat r).resolve_left hne
    have hlast : y ++ [0x7D] = (q ++ 0x7D :: r') ++ [e] := by simpa using hq
    obtain ⟨-, rfl⟩ : y = q ++ 0x7D :: r' ∧ 0x7D = e := by simpa using List.append_inj' hlast rfl
    have hspace := List.all_eq_true.mp hr 0x7D (by simp)
    exact absurd hspace (by decide)
  subst hnil
  exact ⟨maxNestingDepth - 1, ms, y ++ [0x7D], rfl, hrun⟩

/-- **An object with more behind it** than white space is not decoded. -/
lemma unmarshal_object_append (ho : IsObject o) (ht : 0x7D ∈ t) : unmarshal (o ++ t) = none := by
  obtain ⟨n, ms, u, rfl, hrun⟩ := ho
  cases hv : unmarshal (0x7B :: u ++ t) with
  | none => rfl
  | some v =>
    exfalso
    obtain ⟨ms', hms', -⟩ := Option.bind_eq_some_iff.mp hv
    obtain ⟨w, r, hw, hrun', hr⟩ := document_eq_some_iff.mp hms'
    have hskip : skipSpace (0x7B :: u ++ t) = 0x7B :: (u ++ t) := List.dropWhile_cons_of_neg (by decide)
    rw [hskip, List.cons.injEq] at hw
    obtain ⟨-, rfl⟩ := hw
    -- both readings are those of the larger bound
    set m := max n (maxNestingDepth - 1)
    obtain ⟨q, rfl, hlocal⟩ := hrun.local (reads_member (reads_value (le_max_left n (maxNestingDepth - 1))))
    have hfirst := hlocal t
    have hsecond := hrun'.mono (reads_member (reads_value (le_max_right n (maxNestingDepth - 1))))
    rw [List.append_assoc, List.singleton_append] at hsecond
    have hm := reads_member (reads_value (le_refl m))
    have hsame := ((items_eq_some_iff hm).mpr hfirst).symm.trans ((items_eq_some_iff hm).mpr hsecond)
    obtain ⟨-, rfl⟩ : ms = ms' ∧ t = r := by simpa using hsame
    have hspace := List.all_eq_true.mp hr 0x7D ht
    exact absurd hspace (by decide)

lemma IsObject.exists_eq (ho : IsObject o) : ∃ y, o = 0x7B :: (y ++ [0x7D]) := by
  obtain ⟨n, ms, u, rfl, hrun⟩ := ho
  obtain ⟨q, rfl, -⟩ := hrun.local (reads_member (reads_value (le_refl n)))
  exact ⟨q, rfl⟩

end Cut

/-- **The first object.** Between a text without an opening brace and any other text, an object is what is decoded
exactly if no closing brace follows it or it does not decode at all; and a text whose first opening brace begins no
object is unparseable. -/
theorem parseVerdict_object_iff (p o t s : Bytes) :
    (0x7B ∉ p → IsObject o → (parseVerdict (p ++ o ++ t) = decodeVerdict o ↔ 0x7D ∉ t ∨ unmarshal o = none)) ∧
    (0x7B ∈ s → (∀ o, IsObject o → ¬ o <+: s.dropWhile (· ≠ 0x7B)) →
      ∃ err : ParseError, err.isUnparseable ∧ parseVerdict s = .error err) := by
  constructor
  · intro hp ho
    obtain ⟨y, rfl⟩ := ho.exists_eq
    by_cases ht : (0x7D : UInt8) ∈ t
    · obtain ⟨u, v, rfl, hv⟩ := exists_last_byte ht
      have htext : p ++ 0x7B :: (y ++ [0x7D]) ++ (u ++ 0x7D :: v) = p ++ 0x7B :: ((y ++ 0x7D :: u) ++ 0x7D :: v) := by
        simp
      have hcut : 0x7B :: ((y ++ 0x7D :: u) ++ [0x7D]) = 0x7B :: (y ++ [0x7D]) ++ (u ++ [0x7D]) := by simp
      rw [htext, parseVerdict_of_cut hp hv, hcut]
      unfold decodeVerdict
      rw [unmarshal_object_append ho (by simp)]
      cases hun : unmarshal (0x7B :: (y ++ [0x7D])) with
      | none => simp
      | some v => simp
    · have htext : p ++ 0x7B :: (y ++ [0x7D]) ++ t = p ++ 0x7B :: (y ++ 0x7D :: t) := by simp
      rw [htext, parseVerdict_of_cut hp ht]
      simp [ht]
  · intro hs hnone
    obtain ⟨a, rest, rfl, ha⟩ := exists_first hs
    have hdrop : (a ++ 0x7B :: rest).dropWhile (· ≠ 0x7B) = 0x7B :: rest := by
      have hall : ∀ x ∈ a, decide (x ≠ 0x7B) = true := by
        intro x hx
        rw [decide_eq_true_eq]
        rintro rfl
        exact ha hx
      rw [List.dropWhile_append_of_pos hall, List.dropWhile_cons_of_neg (by decide)]
    rw [hdrop] at hnone
    by_cases hclose : (0x7D : UInt8) ∈ rest
    · obtain ⟨y, b, rfl, hb⟩ := exists_last_byte hclose
      refine ⟨.decode, rfl, ?_⟩
      rw [parseVerdict_of_cut ha hb]
      unfold decodeVerdict
      cases hun : unmarshal (0x7B :: (y ++ [0x7D])) with
      | none => rfl
      | some v =>
        have hobject := isObject_of_unmarshal (y := y) (by rw [hun]; rfl)
        exact absurd ⟨b, by simp⟩ (hnone _ hobject)
    · exact ⟨.noObject, rfl, parseVerdict_of_open ha hclose⟩

/-- A verdict with a score. -/
def sampleVerdict : Bytes := bytesOf "\x7b\"score\":90,\"explanation\":\"\x7d\"\x7d"

lemma unmarshal_sampleVerdict : unmarshal sampleVerdict = some { score := 90, explanation := "\x7d" } := by
  decide +kernel

lemma isObject_sampleVerdict : IsObject sampleVerdict := by
  have hbraces : sampleVerdict = 0x7B :: ((sampleVerdict.tail.dropLast) ++ [0x7D]) := by decide +kernel
  rw [hbraces]
  refine isObject_of_unmarshal ?_
  rw [← hbraces, unmarshal_sampleVerdict]
  rfl

/-- A preamble and a trailing marker do not matter, and neither does a brace in a string. -/
theorem wrapped_verdict_decoded :
    parseVerdict (bytesOf "Here is the verdict: " ++ sampleVerdict ++ bytesOf " -- end.") =
      decodeVerdict sampleVerdict :=
  ((parseVerdict_object_iff _ _ _ []).1 (by decide) isObject_sampleVerdict).mpr (Or.inl (by decide))

/-- A closing brace in what follows loses the verdict. -/
theorem trailing_brace_loses_verdict : 0x7B ∉ bytesOf "" ∧ IsObject sampleVerdict ∧
    decodeVerdict sampleVerdict = .ok { score := 90, explanation := "\x7d" } ∧
    parseVerdict (bytesOf "" ++ sampleVerdict ++ bytesOf " (see \x7bdocs\x7d)") = .error .decode := by
  refine ⟨by decide, isObject_sampleVerdict, ?_, by decide +kernel⟩
  rw [decodeVerdict, unmarshal_sampleVerdict]

end Sn360Es.Slm
