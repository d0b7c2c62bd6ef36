import Mathlib.Data.List.Basic

/-!
# Fields of a JSON object (`encoding/json`)

An object as the list of its members. A struct field takes the members whose name is its own up to case, a later
one over an earlier one; `null` leaves it as it is, and a member of another type fails the whole decoding.
-/

namespace Lib.Json

inductive Value where
  | null
  | bool (b : Bool)
  | str (s : String)
  | strs (ss : List String)
  /-- A number, an object or another array. -/
  | other
  deriving DecidableEq, Repr

abbrev Member := String × Value

/-- The folding of `foldName`: letters in one case, with the two other characters that fold to a letter. -/
def foldChar (c : Char) : Char :=
  if c.val = 0x17F then 's' else if c.val = 0x212A then 'k' else c.toLower

def foldName (name : String) : List Char := name.toList.map foldChar

/-- A member of a string field that is empty is left out: `omitempty`. -/
def omitEmpty (name text : String) : List Member := if text = "" then [] else [(name, .str text)]

/-- One member on a string field. -/
def assign (name : String) (cur : Option String) (m : Member) : Option String :=
  if foldName m.1 = foldName name then
    match m.2 with
    | .str s => cur.map fun _ => s
    | .null => cur
    | _ => none
  else cur

/-- The string field `name` of a struct, `none` if a member of that name has another type. -/
def stringField (name : String) (ms : List Member) : Option String := ms.foldl (assign name) (some "")

lemma assign_of_ne {name : String} {m : Member} (h : foldName m.1 ≠ foldName name) (cur : Option String) :
    assign name cur m = cur := if_neg h

lemma foldl_assign_of_ne {name : String} {ms : List Member}
    (h : ∀ m ∈ ms, foldName m.1 ≠ foldName name) (cur : Option String) : ms.foldl (assign name) cur = cur := by
  induction ms generalizing cur with
  | nil => rfl
  | cons m ms ih =>
    rw [List.foldl_cons, assign_of_ne (h m List.mem_cons_self)]
    exact ih (fun m' hm' => h m' (List.mem_cons_of_mem _ hm')) cur

lemma assign_str (name s t : String) : assign name (some t) (name, .str s) = some s := if_pos rfl

/-- A field with one member of its name. -/
lemma stringField_of_one {name s : String} (before : List Member) {after : List Member}
    (hb : ∀ m ∈ before, foldName m.1 ≠ foldName name) (ha : ∀ m ∈ after, foldName m.1 ≠ foldName name) :
    stringField name (before ++ (name, .str s) :: after) = some s := by
  unfold stringField
  rw [List.foldl_append, List.foldl_cons, foldl_assign_of_ne hb, assign_str, foldl_assign_of_ne ha]

/-- A field that is left out when it is empty. -/
lemma stringField_omitEmpty {name s : String} {before after : List Member}
    (hb : ∀ m ∈ before, foldName m.1 ≠ foldName name) (ha : ∀ m ∈ after, foldName m.1 ≠ foldName name) :
    stringField name (before ++ (omitEmpty name s ++ after)) = some s := by
  unfold omitEmpty
  split
  · next hs =>
    unfold stringField
    rw [List.nil_append, List.foldl_append, foldl_assign_of_ne hb, foldl_assign_of_ne ha, hs]
  · exact stringField_of_one before hb ha

/-- A field without a member of its name. -/
lemma stringField_absent {name : String} {ms : List Member} (h : ∀ m ∈ ms, foldName m.1 ≠ foldName name) :
    stringField name ms = some "" := foldl_assign_of_ne h _

lemma omitEmpty_ne {n name text : String} (h : foldName n ≠ foldName name) :
    ∀ m ∈ omitEmpty n text, foldName m.1 ≠ foldName name := by
  intro m hm
  unfold omitEmpty at hm
  split at hm
  · cases hm
  · rw [List.mem_singleton.mp hm]
    exact h

end Lib.Json
