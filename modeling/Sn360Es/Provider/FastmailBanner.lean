import Sn360Es.Lib.NetMail
import Sn360Es.Provider.FastmailMime

/-!
# The banner in a Fastmail message (`pkg/email_provider/fastmail/banner_injector.go`)

`spliceBanner` puts the banner into the HTML of the message, and makes HTML of a plain text. It does not look whether
the message has a banner already.

No result is a panic: of a slice at a place that was found in the lower case of the text.
-/

namespace Sn360Es.Provider.Fastmail

open Lib Lib.GoBytes Lib.Utf8

/-- `htmlEscape`. -/
def htmlEscape (s : Bytes) : Bytes :=
  s.flatMap fun b =>
    if b = 0x26 then bytesOf "&amp;"
    else if b = 0x3C then bytesOf "&lt;"
    else if b = 0x3E then bytesOf "&gt;"
    else if b = 0x22 then bytesOf "&quot;"
    else if b = 0x27 then bytesOf "&#39;"
    else [b]

/-- A text below the banner, as HTML. -/
def wrapPlain (body banner : Bytes) : Bytes :=
  banner ++ bytesOf "<hr/><pre>" ++ htmlEscape body ++ bytesOf "</pre>"

section Lower

variable (lower : ℕ → ℕ)

/-- `injectIntoMultipart`. -/
def injectIntoMultipart (contentType body banner sepStyle : Bytes) : Option Bytes :=
  match extractBoundary lower contentType with
  | none => none
  | some boundary =>
    if boundary = [] then some (wrapPlain body banner)
    else
      let sep := bytesOf "--" ++ boundary
      match firstHTMLPiece lower (sepStyle ++ sepStyle) (split sep body) with
      | none => some (wrapPlain body banner)
      | some (before, head, html, after) =>
        (spliceHTMLBanner lower html banner).map fun spliced => sep.intercalate (before ++ (head ++ spliced) :: after)

/-- `spliceBanner`. -/
def spliceBanner (raw banner : Bytes) : Option (Except NetMail.HeaderError Bytes) :=
  let (header, body, sepStyle) := splitHeaderBody raw
  match NetMail.readMessage raw with
  | .error err => some (.error err)
  | .ok fields =>
    let contentType := NetMail.get fields contentTypeName
    let lowerType := toLower lower contentType
    if bytesOf "multipart/" <+: lowerType then
      (injectIntoMultipart lower contentType body banner sepStyle).map fun mutated =>
        .ok (header ++ sepStyle ++ sepStyle ++ mutated)
    else if contains lowerType (bytesOf "text/html") then
      (spliceHTMLBanner lower body banner).map fun mutated => .ok (header ++ sepStyle ++ sepStyle ++ mutated)
    else
      let header := rewriteHeaderLine lower header contentTypeName rewrittenHTMLContentType sepStyle
      some (.ok (header ++ sepStyle ++ sepStyle ++ wrapPlain body banner))

end Lower

end Sn360Es.Provider.Fastmail
