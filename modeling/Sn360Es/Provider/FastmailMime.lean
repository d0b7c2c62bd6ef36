import Sn360Es.Provider.BannerSplice

/-!
# The parts of a Fastmail message (`pkg/email_provider/fastmail/{body_rewriter,banner_injector}.go`)

The header block ends at the first blank line, and the parts of a multipart body are what `bytes.Split` gives for `--`
and the boundary. The first piece whose header has `text/html` is the HTML of the message.

A place that is found in the lower case of a text is used in the text; beyond its end the slice panics, which is no
result.
-/

namespace Sn360Es.Provider.Fastmail

open Lib Lib.GoBytes Lib.Utf8

def crlf : Bytes := [0x0D, 0x0A]

def lf : Bytes := [0x0A]

/-- `strings.Contains`. -/
def contains (s sub : Bytes) : Bool := (index sub s).isSome

/-- `splitHeaderBody`: the header, the body, and the line end. -/
def splitHeaderBody (raw : Bytes) : Bytes × Bytes × Bytes :=
  match index (crlf ++ crlf) raw with
  | some idx => (raw.take idx, raw.drop (idx + 4), crlf)
  | none =>
    match index (lf ++ lf) raw with
    | some idx => (raw.take idx, raw.drop (idx + 2), lf)
    | none => (raw, [], crlf)

/-! ### Header lines -/

/-- A line without the `\r` at its end. -/
def dropCr (line : Bytes) : Bytes := if line.getLast? = some 0x0D then line.dropLast else line

/-- The lines of a header block; `line` is what was read of the one that has begun. -/
def headerLinesFrom (line : Bytes) : Bytes → List Bytes
  | [] => if line = [] then [] else [line]
  | b :: s => if b = 0x0A then dropCr line :: headerLinesFrom [] s else headerLinesFrom (line ++ [b]) s

/-- `splitHeaderLines`. -/
def splitHeaderLines (s : Bytes) : List Bytes := headerLinesFrom [] s

/-- A line that goes on with the header before it. -/
def isContinuation : Bytes → Bool
  | [] => false
  | b :: _ => b = 0x20 ∨ b = 0x09

/-- The value of a header with the lines that continue it. -/
def unfoldValue (value : Bytes) : List Bytes → Bytes
  | [] => value
  | next :: lines => if isContinuation next then unfoldValue (value ++ [0x20] ++ trimSpace next) lines else value

section Lower

variable (lower : ℕ → ℕ)

def headerValueIn (nameLower : Bytes) : List Bytes → Bytes
  | [] => []
  | line :: lines =>
    match index [0x3A] line with
    | none => headerValueIn nameLower lines
    | some colon =>
      if toLower lower (trimSpace (line.take colon)) ≠ nameLower then headerValueIn nameLower lines
      else unfoldValue (trimSpace (line.drop (colon + 1))) lines

/-- `extractHeaderValue`. -/
def extractHeaderValue (header name : Bytes) : Bytes :=
  headerValueIn lower (toLower lower (trimSpace name)) (splitHeaderLines header)

/-- The lines with the first header `name` replaced, if they have one. -/
def replaceHeaderLine (needle line : Bytes) : List Bytes → Option (List Bytes)
  | [] => none
  | l :: lines =>
    if needle <+: toLower lower l then some (line :: lines.dropWhile isContinuation)
    else (replaceHeaderLine needle line lines).map (l :: ·)

/-- `rewriteHeaderLine`. -/
def rewriteHeaderLine (header name value sepStyle : Bytes) : Bytes :=
  let line := name ++ bytesOf ": " ++ value
  match replaceHeaderLine lower (toLower lower name ++ [0x3A]) line (split sepStyle header) with
  | some lines => sepStyle.intercalate lines
  | none => if header = [] then line else header ++ sepStyle ++ line

/-- `extractBoundary`; empty if there is none. -/
def extractBoundary (contentType : Bytes) : Option Bytes :=
  match index (bytesOf "boundary=") (toLower lower contentType) with
  | none => some []
  | some idx =>
    if contentType.length < idx + 9 then none
    else
      let rest := trimSpace (contentType.drop (idx + 9))
      let rest := if [0x22] <+: rest then rest.drop 1 else rest
      some (rest.takeWhile fun b => b ≠ 0x22 ∧ b ≠ 0x3B)

/-! ### Parts -/

/-- Where the header of a piece ends, with its blank line, if it has `text/html`: the test of the three loops. -/
def htmlHeaderEnd (blank piece : Bytes) : Option ℕ :=
  match index blank piece with
  | none => none
  | some i => if contains (toLower lower (piece.take i)) (bytesOf "text/html") then some (i + blank.length) else none

/-- The pieces before the first one that passes, its header, its body, and the pieces after it. -/
def firstHTMLPiece (blank : Bytes) : List Bytes → Option (List Bytes × Bytes × Bytes × List Bytes)
  | [] => none
  | piece :: pieces =>
    match htmlHeaderEnd lower blank piece with
    | some e => some ([], piece.take e, piece.drop e, pieces)
    | none => (firstHTMLPiece blank pieces).map fun r => (piece :: r.1, r.2)

def contentTypeName : Bytes := bytesOf "Content-Type"

/-- `findFirstHTMLPart`: the text, and whether there is one. -/
def findFirstHTMLPart (raw : Bytes) : Option (Bytes × Bool) :=
  let (header, body, sepStyle) := splitHeaderBody raw
  let contentType := extractHeaderValue lower header contentTypeName
  if body = [] ∨ contentType = [] then some ([], false)
  else if bytesOf "text/html" <+: toLower lower contentType then some (body, true)
  else if ¬ bytesOf "multipart/" <+: toLower lower contentType then some ([], false)
  else
    match extractBoundary lower contentType with
    | none => none
    | some boundary =>
      if boundary = [] then some ([], false)
      else
        match firstHTMLPiece lower (sepStyle ++ sepStyle) (split (bytesOf "--" ++ boundary) body) with
        | some (_, _, html, _) => some (html, true)
        | none => some ([], false)

/-- `extractHTMLBody`. -/
def extractHTMLBody (raw : Bytes) : Option Bytes := (findFirstHTMLPart lower raw).map (·.1)

def rewrittenHTMLContentType : Bytes := bytesOf "text/html; charset=utf-8"

/-- `replaceHTMLBody`. -/
def replaceHTMLBody (raw newHTML : Bytes) : Option (Except String Bytes) :=
  let (header, body, sepStyle) := splitHeaderBody raw
  if header = [] ∧ body = [] then some (.error "fastmail: missing header/body separator")
  else
    let blank := sepStyle ++ sepStyle
    let contentType := extractHeaderValue lower header contentTypeName
    let lowerType := toLower lower contentType
    if contentType = [] ∨ (¬ bytesOf "text/html" <+: lowerType ∧ ¬ bytesOf "multipart/" <+: lowerType) then
      some (.ok (rewriteHeaderLine lower header contentTypeName rewrittenHTMLContentType sepStyle ++ blank ++ newHTML))
    else if bytesOf "text/html" <+: lowerType then some (.ok (header ++ blank ++ newHTML))
    else
      match extractBoundary lower contentType with
      | none => none
      | some boundary =>
        if boundary = [] then some (.error "fastmail: missing boundary in multipart Content-Type")
        else
          let sep := bytesOf "--" ++ boundary
          match firstHTMLPiece lower blank (split sep body) with
          | none => some (.error "fastmail: no text/html part to replace")
          | some (before, head, _, after) =>
            some (.ok (header ++ blank ++ sep.intercalate (before ++ (head ++ newHTML) :: after)))

end Lower

end Sn360Es.Provider.Fastmail
