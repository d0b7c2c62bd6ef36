import Sn360Es.Lib.Float64
import Sn360Es.Lib.JsonText

/-!
# Values of JSON as values of Go (`encoding/json`, `strconv`)

How the bytes of a value are decoded over what a field has: `null` leaves it as it is, and a value of another type is an
error.

* `decInt`, `decFloat`, `decString` — into an integer, a float, a string;
* `decStrings` — into a slice of strings.

A float keeps its 53 bits below the least normal one too.
-/

namespace Lib.JsonDecode

open JsonText

/-- `maxNestingDepth` of `encoding/json`. -/
def maxNestingDepth : ℕ := 10000

def isNull (x : Bytes) : Bool := x = bytesOf "null"

def isNumber (x : Bytes) : Bool :=
  match x with
  | [] => false
  | b :: _ => b = 0x2D || isDigit b

def digitsValue (ds : Bytes) : ℕ := ds.foldl (fun n d => 10 * n + (d.toNat - 0x30)) 0

/-- The sign and the rest of a number. -/
def signed (x : Bytes) : Bool × Bytes :=
  match x with
  | 0x2D :: x => (true, x)
  | 0x2B :: x => (false, x)
  | x => (false, x)

/-- `strconv.ParseInt` of a number. -/
def parseInt (x : Bytes) : Option Int64 :=
  let (neg, ds) := signed x
  if ds ≠ [] ∧ ds.all isDigit then
    let n : ℤ := if neg then -(digitsValue ds : ℤ) else digitsValue ds
    if Int64.minValue.toInt ≤ n ∧ n ≤ Int64.maxValue.toInt then some (Int64.ofInt n) else none
  else none

/-- The rational of a number. -/
def rationalOf (x : Bytes) : ℚ :=
  let (neg, x) := signed x
  let mantissa := x.takeWhile fun b => b ≠ 0x65 ∧ b ≠ 0x45
  let (down, power) := signed (x.drop (mantissa.length + 1))
  let whole := mantissa.takeWhile (· ≠ 0x2E)
  let fraction := mantissa.drop (whole.length + 1)
  let exponent : ℤ := (if down then -(digitsValue power : ℤ) else digitsValue power) - fraction.length
  let q : ℚ := digitsValue (whole ++ fraction) * (10 : ℚ) ^ exponent
  if neg then -q else q

/-- `strconv.ParseFloat` of a number: it fails where the float would be infinite. -/
def parseFloat (x : Bytes) : Option Float64 :=
  if |(Float64.ofRat (rationalOf x)).1| < (2 : ℚ) ^ (1024 : ℤ) then some (Float64.ofRat (rationalOf x)) else none

def decInt (cur : Int64) (x : Bytes) : Option Int64 :=
  if isNull x then some cur else if isNumber x then parseInt x else none

def decFloat (cur : Float64) (x : Bytes) : Option Float64 :=
  if isNull x then some cur else if isNumber x then parseFloat x else none

def decString (cur : String) (x : Bytes) : Option String :=
  if isNull x then some cur else (literal x).map Prod.fst

/-- The elements of an array. -/
def elements (x : Bytes) : Option (List Bytes) :=
  (andThen (byte 0x5B) (fun _ => closed 0x5D (value maxNestingDepth)) x).map Prod.fst

/-- The elements of a slice, each over what was there. -/
def decElements : List String → List Bytes → Option (List String)
  | _, [] => some []
  | backing, x :: xs =>
    (decString (backing.headD "") x).bind fun s => (decElements backing.tail xs).map fun ss => s :: ss

/-- A slice of strings and the array behind it. -/
def decStrings (backing : List String) (x : Bytes) : Option (Option (List String) × List String) :=
  if isNull x then some (none, [])
  else
    (elements x).bind fun xs =>
      (decElements backing xs).map fun ss => (some ss, if ss = [] then [] else ss ++ backing.drop ss.length)

end Lib.JsonDecode
