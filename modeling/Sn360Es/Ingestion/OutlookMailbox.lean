import Sn360Es.Ingestion.Normalizer

/-!
# Outlook messages (`pkg/email_provider/outlook/mailbox_provider.go`)

The messages endpoint of Graph is a parameter: what it lists for a lower bound on the time of receipt, which the
request gives in whole seconds, and for a number of messages.
-/

namespace Sn360Es.Ingestion

open Lib

/-- `graphMessage`; a recipient is its address. -/
structure GraphMessage where
  id : String
  subject : String := ""
  contentType : String := ""
  content : String := ""
  bodyPreview : String := ""
  receivedDateTime : ℤ := 0
  fromAddress : String := ""
  toRecipients : List String := []
  ccRecipients : List String := []
  internetMessageHeaders : List (String × String) := []
  hasAttachments : Bool := false
  deriving DecidableEq, Repr

structure OutlookMailboxProvider where
  toLower : String → String
  /-- `GET /users/{id}/messages`, ordered by `receivedDateTime`, for `$filter` and `$top`. -/
  list : Option ℤ → ℤ → Except String (List GraphMessage)

namespace OutlookMailboxProvider

variable (p : OutlookMailboxProvider)

/-- `toRawEmail`. -/
def toRawEmail (mailbox : Mailbox) (m : GraphMessage) : RawEmail :=
  let isHTML := p.toLower m.contentType = "html"
  { providerMessageID := m.id
    tenantID := mailbox.tenantID
    mailbox := mailbox.address
    sender := m.fromAddress
    subject := m.subject
    receivedAt := m.receivedDateTime
    recipients := m.toRecipients.filter (· ≠ "")
    cc := m.ccRecipients.filter (· ≠ "")
    htmlBody := if isHTML then m.content else ""
    body := if isHTML then m.bodyPreview else if m.content = "" then m.bodyPreview else m.content
    headers := (HeaderMap.ofList m.internetMessageHeaders).markAttachments m.hasAttachments }

/-- `FetchNew`. The filter is the text of `since` in RFC 3339, which has no fraction of a second. -/
def fetchNew (mailbox : Mailbox) (since limit : ℤ) : Except String (List RawEmail) :=
  if mailbox.address = "" then .error "outlook: fetch requires a mailbox address"
  else
    match p.list (if since = 0 then none else some (GoTime.truncateSecond since))
      (if limit ≤ 0 then 50 else limit) with
    | .error err => .error ("outlook: list messages: " ++ err)
    | .ok ms => .ok ((ms.map (p.toRawEmail mailbox)).filter fun raw => since = 0 ∨ since < raw.receivedAt)

end OutlookMailboxProvider

end Sn360Es.Ingestion
