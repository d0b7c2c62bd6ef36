import Sn360Es.Dto
import Sn360Es.Lib.GoTime
import Sn360Es.Lib.Hex
import Sn360Es.Lib.LastWrite
import Sn360Es.Lib.Whitespace

/-!
# The normaliser (`internal/service/ingestion/normalizer.go`)

A message of a provider becomes an `EvaluateRequest`: one body text, two hashes of it, and the risk signals that
its headers and addresses give.

`strings.ToLower`, SHA-256 and the HTML tokenizer are parameters. The headers are a map, which the runtime walks
in any order; the order for each look-up is a parameter too.
-/

namespace Sn360Es.Ingestion

open Lib Lib.GoStrings

structure Mailbox where
  tenantID : String
  address : String
  userID : String := ""
  deriving DecidableEq, Repr

/-- A map of headers. -/
abbrev HeaderMap := String → Option String

/-- `h[name] = value`. -/
def HeaderMap.set (h : HeaderMap) (name value : String) : HeaderMap := Function.update h name (some value)

/-- The map after a loop that sets every header of a list. -/
def HeaderMap.ofList (hs : List (String × String)) : HeaderMap := hs.foldl (fun m h => m.set h.1 h.2) fun _ => none

/-- A message with attachments is marked as such, unless it has a content type. -/
def HeaderMap.markAttachments (h : HeaderMap) (marked : Bool) : HeaderMap :=
  if marked ∧ (h "Content-Type").getD "" = "" then h.set "Content-Type" "multipart/mixed" else h

/-- Of several headers of one name the last one stays. -/
lemma HeaderMap.ofList_apply (hs : List (String × String)) (name : String) :
    HeaderMap.ofList hs name = (lastWith Prod.fst name hs).map Prod.snd := by
  induction hs using List.reverseRecOn with
  | nil => rfl
  | append_singleton hs h ih =>
    rw [HeaderMap.ofList, List.foldl_append, List.foldl_cons, List.foldl_nil]
    by_cases hk : h.1 = name
    · subst hk
      rw [lastWith_concat_self]
      exact Function.update_self ..
    · rw [lastWith_concat_of_ne hs hk, ← ih]
      exact Function.update_of_ne (Ne.symm hk) _ _

structure RawEmail where
  providerMessageID : String := ""
  tenantID : String := ""
  mailbox : String := ""
  sender : String := ""
  recipients : List String := []
  cc : List String := []
  subject : String := ""
  body : String := ""
  htmlBody : String := ""
  headers : HeaderMap := fun _ => none
  /-- `ReceivedAt`; `0` is the zero time. -/
  receivedAt : ℤ := 0

/-- A token of `html.Tokenizer`; `other` is a comment or a doctype. -/
inductive HtmlToken where
  | startTag (name : String)
  | selfClosingTag (name : String)
  | endTag (name : String)
  | text (data : String)
  | other
  deriving DecidableEq, Repr

/-! ### Text -/

/-- The elements whose text is dropped. -/
def isHidden (tag : String) : Bool := tag = "script" || tag = "style" || tag = "head"

/-- How many hidden elements are open after a token. -/
def skipAfter (skip : ℕ) : HtmlToken → ℕ
  | .startTag name => if isHidden name then skip + 1 else skip
  | .endTag name => if isHidden name then skip - 1 else skip
  | _ => skip

/-- The loop of `stripHTML`. -/
def stripTokens : ℕ → List HtmlToken → List Char
  | _, [] => []
  | skip, .text data :: ts => if skip = 0 then data.toList ++ ' ' :: stripTokens skip ts else stripTokens skip ts
  | skip, t :: ts => stripTokens (skipAfter skip t) ts

/-- The class `[\s\x{00A0}]`. -/
def isBlankChar (c : Char) : Bool := c = '\t' || c = '\n' || c.val = 0x0C || c = '\r' || c = ' ' || c.val = 0xA0

/-- `collapseWhitespace`. -/
def collapseWhitespace (s : String) : String :=
  String.ofList (Whitespace.collapse isBlankChar isSpace ' ' s.toList)

/-- `containsTags`: a match of `<[a-zA-Z!/][^>]*>` somewhere. -/
def containsTags (s : String) : Bool :=
  s.toList.tails.any fun cs =>
    match cs with
    | '<' :: c :: cs => (c.isAlpha || c = '!' || c = '/') && '>' ∈ cs
    | _ => false

/-! ### Authentication results -/

/-- A letter of a pattern under `(?i)`; two letters fold to a further character each. -/
def foldsTo (p c : Char) : Bool :=
  c.toLower = p || (p = 's' && c.val = 0x17F) || (p = 'k' && c.val = 0x212A)

/-- What follows a word of a pattern. -/
def afterWord : List Char → List Char → Option (List Char)
  | [], cs => some cs
  | _ :: _, [] => none
  | p :: ps, c :: cs => if foldsTo p c then afterWord ps cs else none

/-- `[a-z]` under `(?i)`. -/
def isVerdictChar (c : Char) : Bool := ('a' ≤ c.toLower && c.toLower ≤ 'z') || c.val = 0x17F || c.val = 0x212A

def isWordChar (c : Char) : Bool := c.isAlphanum || c = '_'

/-- The `\b` between two characters. -/
def wordBoundary (prev next : Option Char) : Bool := prev.any isWordChar != next.any isWordChar

/-- A match of `(?i)\b(spf|dkim|dmarc)=([a-z]+)` here: the mechanism and the text of its verdict. -/
def authPairAt (prev : Option Char) (cs : List Char) : Option (String × List Char) :=
  if wordBoundary prev cs.head? then
    ["spf", "dkim", "dmarc"].findSome? fun mech =>
      match afterWord mech.toList cs with
      | some ('=' :: rest) =>
        if rest.takeWhile isVerdictChar = [] then none else some (mech, rest.takeWhile isVerdictChar)
      | _ => none
  else none

/-- `FindAllStringSubmatch`; `skip` characters belong to the match just found. -/
def authPairs : Option Char → ℕ → List Char → List (String × List Char)
  | _, _, [] => []
  | _, skip + 1, c :: cs => authPairs (some c) skip cs
  | prev, 0, c :: cs =>
    match authPairAt prev (c :: cs) with
    | some (mech, verdict) => (mech, verdict) :: authPairs (some c) (mech.length + verdict.length) cs
    | none => authPairs (some c) 0 cs

/-! ### The normaliser -/

structure DefaultNormalizer where
  toLower : String → String
  equalFold : String → String → Bool
  sha256 : Bytes → Bytes
  /-- The tokens of a fragment, up to the `ErrorToken` that ends it. -/
  tokenize : String → List HtmlToken
  freeDomains : Option (String → Bool) := none
  disposableDomains : Option (String → Bool) := none
  defaultLocale : String := "en"

/-- The order in which a look-up of each header walks the map. -/
abbrev Walk := String → List String

/-- A walk meets the headers of the map, in any order. -/
def Walk.Covers (walk : Walk) (h : HeaderMap) : Prop := ∀ key name, name ∈ walk key ↔ (h name).isSome

namespace DefaultNormalizer

variable (n : DefaultNormalizer)

/-- `stripHTML`. -/
def stripHTML (body : String) : String := String.ofList (stripTokens 0 (n.tokenize body))

/-- `sha256Hex`. -/
def sha256Hex (s : String) : String := Hex.encode (n.sha256 (bytesOf s))

/-- `extractAuthResult`. -/
def extractAuthResult (header mechanism : String) : String :=
  match (authPairs none 0 header.toList).find? (·.1 = mechanism) with
  | some (_, verdict) => n.toLower (String.ofList verdict)
  | none => ""

/-- `extractDomain`. -/
def extractDomain (addr : String) : String :=
  match afterLast '@' (trimSpace addr) with
  | none => ""
  | some dom => if dom = "" then "" else n.toLower (trimSpace (trimRight dom '>'))

/-- `headerLookup`: the exact name, else the first that is the same in lower case. -/
def headerLookup (walk : Walk) (h : HeaderMap) (key : String) : String :=
  match h key with
  | some v => v
  | none =>
    match (walk key).find? fun k => n.toLower k = n.toLower key with
    | some k => (h k).getD ""
    | none => ""

/-- `buildSignals`. -/
def buildSignals (walk : Walk) (raw : RawEmail) : RiskSignals :=
  let senderDomain := n.extractDomain raw.sender
  let recipientDomain := n.extractDomain (if raw.mailbox = "" then raw.recipients.headD "" else raw.mailbox)
  let isFree := n.freeDomains.getD fun _ => false
  let isDisposable := n.disposableDomains.getD fun _ => false
  let ct := n.toLower (n.headerLookup walk raw.headers "Content-Type")
  let ar := n.headerLookup walk raw.headers "Authentication-Results"
  { senderDomain, recipientDomain
    isExternal := senderDomain ≠ "" && recipientDomain ≠ "" && !n.equalFold senderDomain recipientDomain
    isFreeDomain := isFree senderDomain
    recipientIsFreeDomain := isFree recipientDomain
    isDisposableDomain := isDisposable senderDomain
    recipientIsDisposableDomain := isDisposable recipientDomain
    hasAttachment := n.headerLookup walk raw.headers "Content-Type" ≠ "" &&
      (contains ct "multipart/mixed" || contains ct "multipart/related")
    spfResult := if ar = "" then "" else n.extractAuthResult ar "spf"
    dkimResult := if ar = "" then "" else n.extractAuthResult ar "dkim"
    dmarcResult := if ar = "" then "" else n.extractAuthResult ar "dmarc" }

/-- The body that is scored: HTML counts only when there is no text. -/
def bodyText (raw : RawEmail) : String :=
  collapseWhitespace
    (if raw.body = "" ∧ raw.htmlBody ≠ "" then n.stripHTML raw.htmlBody
    else if raw.htmlBody ≠ "" ∧ containsTags raw.body then n.stripHTML raw.body
    else raw.body)

/-- `Normalize`. -/
def normalize (walk : Walk) (raw : RawEmail) : Except String EvaluateRequest :=
  if raw.providerMessageID = "" then .error "ingestion: raw email is missing provider_message_id"
  else
    let combined := trimSpace (raw.subject ++ "\n" ++ n.bodyText raw)
    let locale := n.headerLookup walk raw.headers "Content-Language"
    .ok
      { messageID := raw.providerMessageID
        tenantID := raw.tenantID
        correlationID := raw.providerMessageID
        sender := raw.sender
        recipient := if raw.mailbox = "" then raw.recipients.headD "" else raw.mailbox
        cc := raw.cc
        subject := raw.subject
        body := n.bodyText raw
        rawBodyHash := n.sha256Hex combined
        normalisedHash := n.sha256Hex (collapseWhitespace (n.toLower combined))
        signals := n.buildSignals walk raw
        locale := if locale = "" then n.defaultLocale else locale
        receivedAt := raw.receivedAt }

end DefaultNormalizer

/-- A normaliser for ASCII texts. -/
def asciiNormalizer : DefaultNormalizer :=
  { toLower := fun s => String.ofList (s.toList.map Char.toLower)
    equalFold := fun a b => a.toList.map Char.toLower = b.toList.map Char.toLower
    sha256 := fun _ => []
    tokenize := fun _ => [] }

end Sn360Es.Ingestion
