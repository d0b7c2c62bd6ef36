import Sn360Es.Lib.TransferEncoding
import Sn360Es.Provider.BannerSplice

/-!
# The HTML of a Gmail message (`pkg/email_provider/gmail/body_rewriter.go`)

The HTML begins after the first blank line behind `content-type: text/html`, and ends before the next line that begins
with `--`; a message without that line in its body may have it in its header. The reader removes the white space around
the text and decodes it; the writer stores the new text as it is.

A place that is found in the lower case of a text is used in the text; beyond its end the slice panics, which is no
result.
-/

namespace Sn360Es.Provider.Gmail

open Lib Lib.GoBytes Lib.Utf8

def crlf2 : Bytes := [0x0D, 0x0A, 0x0D, 0x0A]

def lf2 : Bytes := [0x0A, 0x0A]

/-- `content-type: text/html`. -/
def htmlMarker : Bytes := bytesOf "content-type: text/html"

/-- The first blank line, and its length: of two CRLF, or else of two LF. -/
def blankLine (s : Bytes) : Option (ℕ × ℕ) :=
  match index crlf2 s with
  | some i => some (i, 4)
  | none => (index lf2 s).map (·, 2)

/-- Where a text ends at the next line that begins with `--`. -/
def partEnd (content : Bytes) : ℕ :=
  match index (bytesOf "\r\n--") content with
  | some i => i
  | none => (index (bytesOf "\n--") content).getD content.length

section Lower

variable (lower : ℕ → ℕ)

/-- `detectCTE`. -/
def detectCTE (headers : Bytes) : Option Bytes :=
  match index (bytesOf "content-transfer-encoding:") (toLower lower headers) with
  | none => some (bytesOf "7bit")
  | some idx =>
    if headers.length < idx + 26 then none
    else
      let rest := (headers.drop (idx + 26)).takeWhile fun b => b ≠ 0x0D ∧ b ≠ 0x0A
      some (trimSpace (toLower lower rest))

/-- What a decoder gives; after an error, the text as it is. -/
def orContent (content : Bytes) (decoded : Option Bytes) : Bytes := decoded.getD content

/-- `strings.ReplaceAll` of the line breaks, as for `base64`. -/
def joinLines (content : Bytes) : Bytes :=
  (split (bytesOf "\r\n") content).flatten.filter fun b => b ≠ 0x0A

/-- `decodeCTE`. -/
def decodeCTE (content cte : Bytes) : Bytes :=
  if cte = bytesOf "base64" then orContent content (Base64.decode (trimSpace (joinLines content)))
  else if cte = bytesOf "quoted-printable" then orContent content (QuotedPrintable.decode content)
  else content

/-- The part behind the marker, as the reader takes it. -/
def extractPart (partHeaders : Bytes) : Option Bytes :=
  match blankLine partHeaders with
  | none => some []
  | some (bodyIdx, width) =>
    -- the slice that assumes four bytes comes first, also for two
    if partHeaders.length < bodyIdx + 4 then none
    else
      let content := partHeaders.drop (bodyIdx + width)
      let content := content.take (partEnd content)
      (detectCTE lower (partHeaders.take bodyIdx)).map (decodeCTE (trimSpace content))

/-- `extractHTMLFromRFC822`. -/
def extractHTMLFromRFC822 (s : Bytes) : Option Bytes :=
  match blankLine s with
  | none => some []
  | some (idx, width) =>
    match index htmlMarker (toLower lower (s.drop idx)) with
    | none =>
      let headerBlock := s.take idx
      match index htmlMarker (toLower lower headerBlock) with
      | none => some []
      | some _ => (detectCTE lower headerBlock).map (decodeCTE (s.drop (idx + width)))
    | some htmlStart =>
      if (s.drop idx).length < htmlStart then none else extractPart lower ((s.drop idx).drop htmlStart)

/-- `replaceHTMLInRFC822`: the message, and whether it has changed. -/
def replaceHTMLInRFC822 (s newHTML : Bytes) : Option (Bytes × Bool) :=
  match blankLine s with
  | none => some (s, false)
  | some (idx, width) =>
    match index htmlMarker (toLower lower (s.drop idx)) with
    | none =>
      match index htmlMarker (toLower lower (s.take idx)) with
      | none => some (s, false)
      | some _ => some (s.take (idx + width) ++ newHTML, true)
    | some htmlStart =>
      let absStart := idx + htmlStart
      if s.length < absStart then none
      else
        match blankLine (s.drop absStart) with
        | none => some (s, false)
        | some (bodyIdx, bodyWidth) =>
          let contentStart := absStart + bodyIdx + bodyWidth
          let contentEnd := contentStart + partEnd (s.drop contentStart)
          some (s.take contentStart ++ newHTML ++ s.drop contentEnd, true)

end Lower

end Sn360Es.Provider.Gmail
