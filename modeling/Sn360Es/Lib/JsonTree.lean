import Sn360Es.Lib.Float64
import Sn360Es.Lib.JsonFields

/-!
# JSON values and structs (`encoding/json`)

A value as a tree. A struct is written as a list of slots, where a slot that `omitempty` leaves out is empty, and read
field by field: a field takes the members whose name is its own up to case, each decoded over what is there already, and
`null` leaves it as it is.

* `field_members` — a field of a struct is read from the slot of its name;
* `field_absent` — a field without a slot keeps its value.

An element of an array is decoded over the zero value.
-/

namespace Lib.Json

inductive Tree where
  | null
  | bool (b : Bool)
  /-- A number without a fraction and an exponent. -/
  | int (n : ℤ)
  /-- Another number. -/
  | float (q : ℚ)
  | str (s : String)
  /-- A string that reads as an instant, and its text. -/
  | time (t : ℤ) (text : String)
  | arr (ts : List Tree)
  | obj (ms : List (String × Tree))

/-- How a value is decoded over another one; `none` is an error. -/
abbrev Dec (α : Type*) := α → Tree → Option α

def decString : Dec String
  | _, .str s => some s
  | _, .time _ text => some text
  | cur, .null => some cur
  | _, _ => none

def decBool : Dec Bool
  | _, .bool b => some b
  | cur, .null => some cur
  | _, _ => none

/-- A pointer. -/
def decPointer {α : Type*} (zero : α) (dec : Dec α) : Dec (Option α)
  | _, .null => some none
  | cur, t => (dec (cur.getD zero) t).map some

def decTime : Dec ℤ
  | _, .time t _ => some t
  | cur, .null => some cur
  | _, _ => none

def decInt64 : Dec Int64
  | _, .int n => if Int64.minValue.toInt ≤ n ∧ n ≤ Int64.maxValue.toInt then some (Int64.ofInt n) else none
  | cur, .null => some cur
  | _, _ => none

def decFloat64 : Dec Float64
  | _, .int n => some (Float64.ofInt n)
  | _, .float q => some (Float64.ofRat q)
  | cur, .null => some cur
  | _, _ => none

/-- A slice. -/
def decList {α : Type*} (zero : α) (dec : Dec α) : Dec (List α)
  | _, .arr ts => ts.mapM (dec zero)
  | _, .null => some []
  | _, _ => none

/-- A struct, from the members of an object. -/
def decStruct {α : Type*} (dec : α → List (String × Tree) → Option α) : Dec α
  | cur, .obj ms => dec cur ms
  | cur, .null => some cur
  | _, _ => none

/-- A struct whose members are known, with `DisallowUnknownFields`. -/
def decStrict {α : Type*} (names : List String) (dec : α → List (String × Tree) → Option α) : Dec α :=
  decStruct fun cur ms => if ms.any fun m => foldName m.1 ∉ names.map foldName then none else dec cur ms

/-- The number that a float is written as. -/
def encFloat64 (x : Float64) : Tree :=
  if x.1.den = 1 ∧ |x.1| < 10 ^ 21 then .int x.1.num else .float x.1

/-- A field of a struct. -/
def field {α : Type*} (name : String) (dec : Dec α) (cur : α) (ms : List (String × Tree)) : Option α :=
  ms.foldlM (fun cur m => if foldName m.1 = foldName name then dec cur m.2 else some cur) cur

/-- A string field that is read on its own, past everything that does not decode. -/
def peek (name : String) (ms : List (String × Tree)) : String :=
  ms.foldl (fun cur m => if foldName m.1 = foldName name then (decString cur m.2).getD cur else cur) ""

/-- A slot of a struct that is being written. -/
abbrev Slot := String × Option Tree

/-- A slot of a string with `omitempty`. -/
def slotOmitEmpty (name text : String) : Slot := (name, if text = "" then none else some (.str text))

/-- The members that are written. -/
def members (slots : List Slot) : List (String × Tree) := slots.filterMap fun x => x.2.map fun t => (x.1, t)

section Fields

variable {α : Type*} {name : String} {dec : Dec α} {slots : List Slot}

lemma field_cons (cur : α) (m : String × Tree) (ms : List (String × Tree)) : field name dec cur (m :: ms) =
    (if foldName m.1 = foldName name then dec cur m.2 else some cur).bind fun cur => field name dec cur ms := rfl

lemma members_cons_none (n : String) (slots : List Slot) : members ((n, none) :: slots) = members slots := rfl

lemma members_cons_some (n : String) (t : Tree) (slots : List Slot) :
    members ((n, some t) :: slots) = (n, t) :: members slots := rfl

/-- A slot of another name. -/
lemma field_cons_of_ne {x : Slot} (h : foldName x.1 ≠ foldName name) (cur : α) :
    field name dec cur (members (x :: slots)) = field name dec cur (members slots) := by
  obtain ⟨n, v⟩ := x
  cases v with
  | none => rw [members_cons_none]
  | some t => rw [members_cons_some, field_cons, if_neg h, Option.bind_some]

/-- A field without a slot keeps its value. -/
lemma field_absent (h : ∀ x ∈ slots, foldName x.1 ≠ foldName name) (cur : α) :
    field name dec cur (members slots) = some cur := by
  induction slots with
  | nil => rfl
  | cons x slots ih =>
    rw [field_cons_of_ne (h x List.mem_cons_self)]
    exact ih fun y hy => h y (List.mem_cons_of_mem _ hy)

/-- **A field of a struct is read from the slot of its name.** -/
lemma field_members {v : Option Tree} (hnodup : (slots.map fun x => foldName x.1).Nodup) (hmem : (name, v) ∈ slots)
    (cur : α) : field name dec cur (members slots) = v.elim (some cur) (dec cur) := by
  induction slots with
  | nil => cases hmem
  | cons x slots ih =>
    rw [List.map_cons, List.nodup_cons] at hnodup
    rcases List.mem_cons.mp hmem with rfl | hlater
    · -- no later slot has the name
      have hrest : ∀ y ∈ slots, foldName y.1 ≠ foldName name := by
        intro y hy hsame
        exact hnodup.1 (hsame ▸ List.mem_map_of_mem hy)
      cases v with
      | none => exact field_absent hrest cur
      | some t =>
        rw [members_cons_some, field_cons, if_pos rfl]
        cases hdec : dec cur t with
        | none => exact hdec.symm
        | some a =>
          rw [Option.bind_some, field_absent hrest]
          exact hdec.symm
    · have hne : foldName x.1 ≠ foldName name := by
        intro hsame
        have hin : foldName name ∈ slots.map fun x => foldName x.1 := List.mem_map.mpr ⟨(name, v), hlater, rfl⟩
        exact hnodup.1 (hsame ▸ hin)
      rw [field_cons_of_ne hne]
      exact ih hnodup.2 hlater

/-- A struct that decodes gives what is read on its own. -/
lemma peek_of_field {ms : List (String × Tree)} {text : String} (h : field name decString "" ms = some text) :
    peek name ms = text := by
  unfold peek
  generalize "" = cur at h ⊢
  induction ms generalizing cur with
  | nil => exact Option.some.inj h
  | cons m ms ih =>
    rw [field_cons] at h
    obtain ⟨next, hnext, hrest⟩ := Option.bind_eq_some_iff.mp h
    rw [List.foldl_cons]
    split_ifs at hnext ⊢
    · rw [hnext]
      exact ih next hrest
    · cases hnext
      exact ih cur hrest

/-- A string reads back. -/
lemma field_str {text : String} (hnodup : (slots.map fun x => foldName x.1).Nodup)
    (hmem : (name, some (.str text)) ∈ slots) : field name decString "" (members slots) = some text := by
  rw [field_members hnodup hmem]
  rfl

/-- An instant reads back. -/
lemma field_time {t : ℤ} {text : String} (hnodup : (slots.map fun x => foldName x.1).Nodup)
    (hmem : (name, some (.time t text)) ∈ slots) : field name decTime 0 (members slots) = some t := by
  rw [field_members hnodup hmem]
  rfl

/-- A string with `omitempty` reads back. -/
lemma field_slotOmitEmpty {text : String} (hnodup : (slots.map fun x => foldName x.1).Nodup)
    (hmem : slotOmitEmpty name text ∈ slots) : field name decString "" (members slots) = some text := by
  rw [field_members hnodup hmem]
  split_ifs with h
  · rw [h]
    rfl
  · rfl

end Fields

lemma decFloat64_encFloat64 (cur x : Float64) : decFloat64 cur (encFloat64 x) = some x := by
  have hx : Float64.ofRat x.1 = x := Subtype.ext x.2
  unfold encFloat64
  split_ifs with h
  · have hint : ((x.1.num : ℤ) : ℚ) = x.1 := Rat.coe_int_num_of_den_eq_one h.1
    show some (Float64.ofRat (x.1.num : ℚ)) = some x
    rw [hint, hx]
  · show some (Float64.ofRat x.1) = some x
    rw [hx]

lemma decInt64_toInt (cur x : Int64) : decInt64 cur (.int x.toInt) = some x := by
  have h : Int64.minValue.toInt ≤ x.toInt ∧ x.toInt ≤ Int64.maxValue.toInt :=
    ⟨x.minValue_le_toInt, x.toInt_le⟩
  rw [decInt64, if_pos h, Int64.ofInt_toInt]

/-- An array whose elements read back. -/
lemma mapM_dec {α : Type*} {zero : α} {dec : Dec α} {enc : α → Tree} (h : ∀ a, dec zero (enc a) = some a) (xs : List α) :
    (xs.map enc).mapM (dec zero) = some xs := by
  induction xs with
  | nil => rfl
  | cons a xs ih => rw [List.map_cons, List.mapM_cons, h, ih]; rfl

end Lib.Json
