import Sn360Es.Ingestion.Normalizer

/-!
# Zoho messages (`pkg/email_provider/zoho/mailbox_provider.go`)

`FetchNew` lists the newest messages of the inbox and asks for the content of those it has not seen. Both
endpoints and the parser of RFC 3339 are parameters.
-/

namespace Sn360Es.Ingestion

open Lib Lib.GoStrings

structure ZohoMessageHeader where
  messageID : String
  folderID : String := ""
  subject : String := ""
  sender : String := ""
  fromAddress : String := ""
  toAddress : String := ""
  ccAddress : String := ""
  summary : String := ""
  receivedTime : String := ""
  hasAttach : String := ""
  deriving DecidableEq, Repr

structure ZohoMessageDetail where
  content : String := ""
  htmlContent : String := ""
  headers : HeaderMap := fun _ => none

structure ZohoMailboxProvider where
  parseRFC3339 : String → Option ℤ
  /-- `messages/view` of the inbox, by descending date, for `limit`. -/
  list : ℤ → Except String (List ZohoMessageHeader)
  /-- `fetchMessageDetail`, for a folder and a message. -/
  detail : String → String → Except String ZohoMessageDetail

namespace ZohoMailboxProvider

/-- `parseInt64` of digits: it does not check for overflow. -/
def parseDigits (cs : List Char) : ℤ :=
  cs.foldl (fun n c => GoTime.int64 (n * 10 + (c.toNat - '0'.toNat : ℕ))) 0

variable (p : ZohoMailboxProvider)

/-- `parseZohoTime`. -/
def parseZohoTime (s : String) : Option ℤ :=
  let s := trimSpace s
  if s = "" then none
  else if s.toList.all GoTime.isDigit then some (GoTime.ofUnixMilli (parseDigits s.toList))
  else p.parseRFC3339 s

/-- `firstNonEmpty`, of two texts. -/
def firstNonEmpty (a b : String) : String :=
  if trimSpace a ≠ "" then a else if trimSpace b ≠ "" then b else ""

/-- `splitAddresses`, which takes semicolons too. -/
def splitAddresses (s : String) : List String :=
  if trimSpace s = "" then []
  else
    ((split (String.ofList (s.toList.map fun c => if c = ';' then ',' else c)) ',').map trimSpace).filter (· ≠ "")

/-- The `RawEmail` of a listed message and its content. -/
def toRawEmail (mailbox : Mailbox) (h : ZohoMessageHeader) (received : ℤ) (detail : ZohoMessageDetail) :
    RawEmail :=
  { providerMessageID := h.messageID
    tenantID := mailbox.tenantID
    mailbox := mailbox.address
    sender := firstNonEmpty h.fromAddress h.sender
    subject := h.subject
    receivedAt := received
    recipients := splitAddresses h.toAddress
    cc := splitAddresses h.ccAddress
    htmlBody := detail.htmlContent
    body := if detail.htmlContent ≠ "" then h.summary else detail.content
    headers := detail.headers.markAttachments (h.hasAttach = "true") }

/-- The loop of `FetchNew`: what it has seen and what it cannot date is skipped, a failed fetch ends it. -/
def fetchListed (mailbox : Mailbox) (since : ℤ) : List ZohoMessageHeader → Except String (List RawEmail)
  | [] => .ok []
  | h :: hs =>
    match p.parseZohoTime h.receivedTime with
    | none => fetchListed mailbox since hs
    | some received =>
      if since ≠ 0 ∧ ¬ since < received then fetchListed mailbox since hs
      else
        match p.detail h.folderID h.messageID with
        | .error err => .error ("zoho: fetch message " ++ h.messageID ++ ": " ++ err)
        | .ok detail => (fetchListed mailbox since hs).map (toRawEmail mailbox h received detail :: ·)

/-- `FetchNew`. -/
def fetchNew (mailbox : Mailbox) (since limit : ℤ) : Except String (List RawEmail) :=
  if mailbox.userID = "" ∧ mailbox.address = "" then
    .error "zoho: fetch requires a mailbox user id or address"
  else
    match p.list (if limit ≤ 0 then 50 else limit) with
    | .error err => .error ("zoho: list messages: " ++ err)
    | .ok hs => p.fetchListed mailbox since hs

variable {p} in
/-- Every message that `FetchNew` returns was listed, with its content. -/
lemma mem_fetchListed {mailbox : Mailbox} {since : ℤ} {hs : List ZohoMessageHeader} {raws : List RawEmail}
    (hok : p.fetchListed mailbox since hs = .ok raws) {raw : RawEmail} (hraw : raw ∈ raws) :
    ∃ h ∈ hs, ∃ received detail, p.detail h.folderID h.messageID = .ok detail ∧
      raw = toRawEmail mailbox h received detail := by
  induction hs generalizing raws with
  | nil =>
    obtain rfl := Except.ok.inj hok
    cases hraw
  | cons h hs ih =>
    have hskip : p.fetchListed mailbox since hs = .ok raws → ∃ h' ∈ h :: hs, ∃ received detail,
        p.detail h'.folderID h'.messageID = .ok detail ∧ raw = toRawEmail mailbox h' received detail := by
      intro hrest
      obtain ⟨h', hmem, hex⟩ := ih hrest hraw
      exact ⟨h', List.mem_cons_of_mem _ hmem, hex⟩
    rw [fetchListed] at hok
    split at hok
    · exact hskip hok
    · next received _ =>
      split at hok
      · exact hskip hok
      · split at hok
        · cases hok
        · next detail hdetail =>
          cases hrest : p.fetchListed mailbox since hs with
          | error err => rw [hrest] at hok; cases hok
          | ok rest =>
            rw [hrest] at hok
            obtain rfl := Except.ok.inj hok
            rcases List.mem_cons.mp hraw with rfl | hmem
            · exact ⟨h, List.mem_cons_self, received, detail, hdetail, rfl⟩
            · obtain ⟨h', hmem', hex⟩ := ih hrest hmem
              exact ⟨h', List.mem_cons_of_mem _ hmem', hex⟩

end ZohoMailboxProvider

end Sn360Es.Ingestion
