import Mathlib.Data.List.DropRight
import Sn360Es.Lib.GoBytes
import Sn360Es.Lib.Utf8

/-!
# The header of a mail message (`net/mail`, `net/textproto`)

* `lines` — what `bufio.Reader.ReadLine` reads, line by line;
* `logicalLines` — the header lines with the lines that continue them, up to the first blank line;
* `readMessage` — the fields of `mail.ReadMessage`;
* `get` — `Header.Get`.
-/

namespace Lib.NetMail

open GoBytes Utf8

/-- A line without the `\r` at its end. -/
def dropCr (line : Bytes) : Bytes := if line.getLast? = some 0x0D then line.dropLast else line

/-- The lines of a text; `line` is what was read of the one that has begun. The last one may end without a line feed. -/
def linesFrom (line : Bytes) : Bytes → List Bytes
  | [] => if line = [] then [] else [line]
  | b :: s => if b = 0x0A then dropCr line :: linesFrom [] s else linesFrom (line ++ [b]) s

def lines (s : Bytes) : List Bytes := linesFrom [] s

def isBlank (b : UInt8) : Bool := b = 0x20 ∨ b = 0x09

/-- `textproto.trim`: spaces and tabs only. -/
def trim (s : Bytes) : Bytes := (s.dropWhile isBlank).rdropWhile isBlank

/-- A line that goes on with the one before it. -/
def continues : Bytes → Bool
  | [] => false
  | b :: _ => isBlank b

/-- `ReadContinuedLine`, line by line; `cur` is the line that has begun. -/
def logicalFrom (cur : Bytes) : List Bytes → List Bytes
  | [] => [cur]
  | l :: ls => if continues l then logicalFrom (cur ++ 0x20 :: trim l) ls else cur :: logicalFrom (trim l) ls

def logicalLines : List Bytes → List Bytes
  | [] => []
  | l :: ls => logicalFrom (trim l) ls

inductive HeaderError where
  /-- `malformed initial line`. -/
  | initial (line : Bytes)
  /-- `malformed header line`. -/
  | malformed (line : Bytes)
  /-- `EOF`, without a field. -/
  | eof
  deriving DecidableEq, Repr

/-- The fields of the lines; a line with an empty key is skipped. -/
def fields : List Bytes → Except HeaderError (List (Bytes × Bytes))
  | [] => .ok []
  | l :: ls =>
    match index [0x3A] l with
    | none => .error (.malformed l)
    | some 0 => fields ls
    | some colon => (fields ls).map ((l.take colon, (l.drop (colon + 1)).dropWhile isBlank) :: ·)

/-- `mail.ReadMessage`: the fields of the header. -/
def readMessage (raw : Bytes) : Except HeaderError (List (Bytes × Bytes)) :=
  let ls := lines raw
  if (ls.head?.map continues).getD false then .error (.initial (ls.headD []))
  else
    match fields (logicalLines (ls.takeWhile (· ≠ []))) with
    | .error err => .error err
    | .ok [] => if ls.any (· = []) then .ok [] else .error .eof
    | .ok (f :: fs) => .ok (f :: fs)

/-- `Header.Get`: the first field of the name, in any case; empty if there is none. -/
def get (header : List (Bytes × Bytes)) (name : Bytes) : Bytes :=
  ((header.find? fun f => f.1.map asciiLower = name.map asciiLower).map Prod.snd).getD []

end Lib.NetMail
