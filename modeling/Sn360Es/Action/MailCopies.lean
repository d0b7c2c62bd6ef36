import Sn360Es.Action.BlockedDelivery
import Sn360Es.Action.LabelApplier
import Sn360Es.Action.UrlRewriter
import Sn360Es.Lib.GoStrings
import Sn360Es.Lib.Lts

/-!
# The copies of a message (`pkg/email_provider/{gmail,fastmail}`, `cmd/sn360-es/consumers_action.go`)

Gmail and Fastmail cannot edit a message. A new text is imported under a new id; then Gmail moves the message that it
replaces to the trash, and Fastmail destroys it. The handlers of the action events, and the reopener, name a message by
the id in their request.

* `injectBanner`, `rewriteBody` — `InjectBanner` and `URLRewriteService.RewriteBody` on a mailbox;
* `handle` — the four handlers of the action events;
* `reopenBanner` — `bannerReopener.ReopenBanner`.

The world holds one mailbox, and in it the copies of one message. Every call of the provider succeeds, but what it says
depends on the mailbox: a message that was destroyed is not found. The caches of the body rewriters are left out: what
`WriteBody` reads from them is what `FetchBody` has put there in the same call of `RewriteBody`.
-/

namespace Sn360Es.Action

open Lib Lib.GoStrings

/-! ### The mailbox -/

/-- What was done to the text of a message since it arrived. -/
inductive Edit where
  | banner (html : String)
  | links
  deriving DecidableEq, Repr

/-- Where a copy is. A message without the label `INBOX`, or outside the inbox folder, is hidden. -/
inductive Place where
  | inbox
  | hidden
  | trash
  | destroyed
  deriving DecidableEq, Repr

structure Copy where
  raw : Bytes
  /-- The latest edit comes first. -/
  edits : List Edit := []
  place : Place := .inbox
  receivedAt : ℤ := 0
  deriving DecidableEq, Repr

/-- The copy is outside the trash. -/
def Copy.Visible (c : Copy) : Prop := c.place ≠ .trash ∧ c.place ≠ .destroyed

instance (c : Copy) : Decidable c.Visible := inferInstanceAs (Decidable (_ ∧ _))

/-- The two ways to replace a message. -/
inductive Replacing where
  | gmail
  | fastmail
  deriving DecidableEq, Repr

/-- Where the message goes that was replaced. -/
def Replacing.removed : Replacing → Place
  | gmail => .trash
  | fastmail => .destroyed

/-- The provider of the mailbox, with what it does to the text of a message. -/
structure MailProvider where
  kind : Replacing
  /-- `injectBannerIntoRFC822`, `spliceBanner`; no text where no part of the message takes the banner. -/
  inject : Bytes → Bytes → Except String (Option Bytes)
  /-- `extractHTMLFromRFC822`, `extractHTMLBody`. -/
  extract : Bytes → Bytes
  /-- `replaceHTMLInRFC822`, `replaceHTMLBody`; no text where nothing was replaced. -/
  replace : Bytes → Bytes → Except String (Option Bytes)
  /-- The error of a request for an id that Gmail does not have. -/
  missing : String → String := fun _ => "gmail: 404"

/-- `repository.BannerState`. -/
structure BannerState where
  deliveredAt : Option ℤ := none
  reopenedAt : Option ℤ := none
  lastReason : String := ""
  provider : String := ""
  deliveredMessageID : String := ""
  deliveredEmail : String := ""
  deriving DecidableEq, Repr

structure MailWorld where
  copies : String → Option Copy
  labels : LabelState := {}
  links : RewriteState := {}
  /-- The references to the quarantined messages. -/
  refs : Store := fun _ => none
  /-- The rows of `banner_state`, by tenant and hash. -/
  banners : String → String → Option BannerState := fun _ _ => none

/-- What the world gives to one handling of an event: the id of the message that is imported, the time, and the
environment of the quarantine. -/
structure Handling where
  newID : String
  now : ℤ := 0
  env : ℕ → Environment

/-- The ids that a provider mints are new. -/
def MailWorld.Fresh (w : MailWorld) (newID : String) : Prop := newID ≠ "" ∧ w.copies newID = none

instance (w : MailWorld) (newID : String) : Decidable (w.Fresh newID) := inferInstanceAs (Decidable (_ ∧ _))

/-! ### The provider -/

namespace MailProvider

variable (p : MailProvider)

/-- `fetchRaw`. -/
def fetchRaw (w : MailWorld) (messageID : String) : Except String Copy :=
  match p.kind with
  | .gmail =>
    match w.copies messageID with
    | none => .error (p.missing messageID)
    | some c => if c.raw = [] then .error "empty raw payload" else .ok c
  | .fastmail =>
    match w.copies messageID with
    | none => .error ("message " ++ messageID ++ " not found")
    | some c => if c.place = .destroyed then .error ("message " ++ messageID ++ " not found") else .ok c

/-- The copy that an import makes of `c`, with a new text. Gmail's import names no label, and its date is that of the
header; Fastmail's keeps the mailboxes, and its date is the time of the import. -/
def importCopy (h : Handling) (c : Copy) (raw : Bytes) (edits : List Edit) : Copy :=
  match p.kind with
  | .gmail => { raw, edits, place := .inbox, receivedAt := c.receivedAt }
  | .fastmail => { raw, edits, place := c.place, receivedAt := h.now }

/-- The labels of an imported copy: none in Gmail, and in Fastmail the keywords of the message. -/
def importLabels (s : LabelState) (email messageID newID : String) : LabelState :=
  { s with
    attached := Function.update s.attached (email, newID)
      (match p.kind with
        | .gmail => ∅
        | .fastmail => s.attached (email, messageID)) }

/-- The import, and then the trash or the destruction of the original. -/
def replaceMessage (h : Handling) (email messageID : String) (c : Copy) (raw : Bytes) (edits : List Edit)
    (w : MailWorld) : MailWorld :=
  { w with
    copies := Function.update (Function.update w.copies h.newID (some (p.importCopy h c raw edits))) messageID
      (some { c with place := p.kind.removed })
    labels := p.importLabels w.labels email messageID h.newID }

structure BannerInjectRequest where
  tenant : String
  email : String
  messageID : String
  html : String
  deriving DecidableEq, Repr

/-- `BannerInjectRequest.Validate`. -/
def BannerInjectRequest.validate (req : BannerInjectRequest) : Option String :=
  if req.tenant = "" then some "banner_injector: tenant is required"
  else if req.messageID = "" then some "banner_injector: message_id is required"
  else if req.html = "" then some "banner_injector: html is required"
  else none

/-- The words of the provider in its errors. -/
def fetchError : String :=
  match p.kind with
  | .gmail => "gmail: fetch raw: "
  | .fastmail => "fastmail: banner fetch raw: "

def spliceError : String :=
  match p.kind with
  | .gmail => "gmail: inject banner into rfc822: "
  | .fastmail => "fastmail: splice banner: "

/-- `InjectBanner`: the error, and what it leaves. Where no part takes the banner, the text is imported as it is. -/
def injectBanner (h : Handling) (req : BannerInjectRequest) (w : MailWorld) : Option String × MailWorld :=
  match req.validate with
  | some err => (some err, w)
  | none =>
    if p.kind = .gmail ∧ req.email = "" then (some "gmail: banner injector requires email", w)
    else
      match p.fetchRaw w req.messageID with
      | .error err => (some (p.fetchError ++ err), w)
      | .ok c =>
        match p.inject c.raw (bytesOf req.html) with
        | .error err => (some (p.spliceError ++ err), w)
        | .ok none => (none, p.replaceMessage h req.email req.messageID c c.raw c.edits w)
        | .ok (some raw) => (none, p.replaceMessage h req.email req.messageID c raw (.banner req.html :: c.edits) w)

/-- `BodyRewriter.WriteBody`, on the text that `FetchBody` has cached. -/
def writeBody (h : Handling) (email messageID : String) (c : Copy) (htmlBody : Bytes) (w : MailWorld) :
    Option String × MailWorld :=
  match p.replace c.raw htmlBody with
  | .error err => (some ("fastmail body_rewriter: replace: " ++ err), w)
  | .ok none => (none, w)
  | .ok (some raw) => (none, p.replaceMessage h email messageID c raw (.links :: c.edits) w)

def fetchBodyError : String :=
  match p.kind with
  | .gmail => "gmail body_rewriter: fetch raw: "
  | .fastmail => "fastmail body_rewriter: "

/-- `URLRewriteService.RewriteBody`, for a request that is complete. A tier that is not valid counts as HighRisk
(`parseTier`). -/
def rewriteBody (rw : URLRewriter) (h : Handling) (tenant email messageID : String) (tier : Option Tier) (w : MailWorld) :
    Option String × MailWorld :=
  match p.fetchRaw w messageID with
  | .error err => (some ("url_rewrite_service: fetch body: " ++ (p.fetchBodyError ++ err)), w)
  | .ok c =>
    if p.extract c.raw = [] then (none, w)
    else
      match rw.rewrite ⟨tenant, messageID, tier.getD .highRisk, p.extract c.raw⟩ w.links with
      | (.error err, links) => (some ("url_rewrite_service: rewrite: " ++ err), { w with links })
      | (.ok res, links) =>
        if res.rewriteCount = 0 then (none, { w with links })
        else
          let (err, w) := p.writeBody h email messageID c res.htmlBody { w with links }
          (err.map ("url_rewrite_service: write body: " ++ ·), w)

end MailProvider

/-! ### The rows of `banner_state` -/

/-- `MarkDelivered`, for a request with a tenant and a hash; the columns that the request leaves empty stay. -/
def BannerState.delivered (row : BannerState) (now : ℤ) (reason provider messageID email : String) : BannerState :=
  { row with
    deliveredAt := some (row.deliveredAt.getD now)
    lastReason := if reason = "" then row.lastReason else reason
    provider := if provider = "" then row.provider else provider
    deliveredMessageID := if messageID = "" then row.deliveredMessageID else messageID
    deliveredEmail := if email = "" then row.deliveredEmail else email }

/-- `MarkReopened`. -/
def BannerState.reopened (row : BannerState) (now : ℤ) (reason : String) : BannerState :=
  { row with
    reopenedAt := some now
    lastReason := if reason = "" then row.lastReason else reason }

/-- A write of the row for a tenant and a hash, which is inserted where there is none. -/
def MailWorld.upsertBanner (w : MailWorld) (tenantID hash : String) (f : BannerState → BannerState) : MailWorld :=
  { w with
    banners := fun t k =>
      if t = tenantID ∧ k = hash then some (f ((w.banners tenantID hash).getD {})) else w.banners t k }

/-! ### The handlers -/

/-- What the handlers have of the application. The entry of the registry for the tenant is the provider of the mailbox.
-/
structure MailApp extends BlockedApp where
  labelApplier : Option LabelApplier
  urlRewriter : Option URLRewriter
  mail : MailProvider
  /-- The verdict asks for rewriting exactly where there is a rewriter. -/
  wired : verdicts.urlRewriter = urlRewriter.isSome

namespace MailApp

variable (a : MailApp)

/-- `handleActionBanner`. -/
def handleActionBanner (h : Handling) (tenantID messageID html email : String) (w : MailWorld) : MailWorld :=
  if tenantID = "" ∨ messageID = "" ∨ html = "" ∨ email = "" then w
  else
    match a.resolveKind tenantID with
    | none => w
    | some kind =>
      match a.mail.injectBanner h ⟨tenantID, email, messageID, html⟩ w with
      | (some _, w) => w
      | (none, w) =>
        w.upsertBanner tenantID messageID
          (·.delivered h.now "automated banner injection" kind.name messageID email)

/-- `handleActionURLRewrite`. -/
def handleActionURLRewrite (h : Handling) (tenantID messageID : String) (tier : Option Tier) (email : String)
    (w : MailWorld) : MailWorld :=
  match a.urlRewriter, a.resolveKind tenantID with
  | some rw, some _ =>
    if tenantID = "" ∨ messageID = "" ∨ email = "" then w
    else (a.mail.rewriteBody rw h tenantID email messageID tier w).2
  | _, _ => w

/-- `handleActionLabel`. The tier of a label event is one of the six. -/
def handleActionLabel (tenantID messageID : String) (tier : Option Tier) (primary : Option Category) (email : String)
    (w : MailWorld) : MailWorld :=
  match a.labelApplier, a.resolveKind tenantID, tier with
  | some applier, some kind, some tier =>
    if tenantID = "" ∨ messageID = "" ∨ email = "" then w
    else
      { w with labels := (applier.apply
          { tenant := tenantID, provider := kind, email, messageID, newTier := tier, primaryCategory := primary }
          w.labels).state }
  | _, _, _ => w

/-- `MoveToQuarantine` of Gmail: the label is added, and `INBOX` removed. -/
def moveCopy (email messageID labelID : String) (w : MailWorld) : MailWorld :=
  { w with
    copies := Function.update w.copies messageID ((w.copies messageID).map fun c =>
      if c.place = .inbox then { c with place := .hidden } else c)
    labels :=
      { w.labels with
        attached := Function.update w.labels.attached (email, messageID)
          (insert labelID (w.labels.attached (email, messageID))) } }

/-- What an operation of the quarantine does to the mailbox. -/
def onMailbox : (o : Op) × o.Ans → MailWorld → MailWorld
  | ⟨.moveToQuarantine _ email messageID labelID _, (_, none)⟩, w => moveCopy email messageID labelID w
  | _, w => w

/-- `handleActionQuarantine`, with what its operations do to the mailbox. -/
def quarantineMailbox (h : Handling) (sig : ActionSignal) (w : MailWorld) : MailWorld :=
  let prog := a.handleActionQuarantine (some sig)
  (prog.trace exec h.env w.refs).foldl (fun w x => onMailbox x w)
    { w with refs := (prog.eval exec h.env w.refs).2.1 }

/-- The handler of an action event. -/
def handle (h : Handling) (sig : ActionSignal) (w : MailWorld) : MailWorld :=
  match sig with
  | .banner tenantID messageID _ _ html email => a.handleActionBanner h tenantID messageID html email w
  | .urlRewrite tenantID messageID _ tier email => a.handleActionURLRewrite h tenantID messageID tier email w
  | .quarantine .. => a.quarantineMailbox h sig w
  | .label tenantID messageID _ tier primary email => a.handleActionLabel tenantID messageID tier primary email w

/-! ### The reopener -/

/-- `html.EscapeString`. -/
def escapeString (s : String) : String :=
  String.ofList (s.toList.flatMap fun c =>
    if c = '&' then "&amp;".toList
    else if c = '\'' then "&#39;".toList
    else if c = '<' then "&lt;".toList
    else if c = '>' then "&gt;".toList
    else if c = '"' then "&#34;".toList
    else [c])

/-- `renderReopenBanner`. -/
def renderReopenBanner (reason : String) : String :=
  "<div class=\"sn360-reopen-banner\" role=\"alert\" aria-live=\"polite\" " ++
  "style=\"background:#8b0000;color:#fff;padding:12px 16px;" ++
  "font-family:Arial,Helvetica,sans-serif;font-size:14px;" ++
  "border-left:4px solid #5b0000;margin:0 0 12px 0;\">" ++
  "<strong>SN360 — Updated by SOC analyst</strong><br>" ++ escapeString (trimSpace reason) ++ "</div>"

/-- `ReopenBanner`, with a registry of providers: the error, and what it leaves. -/
def reopenBanner (h : Handling) (tenantID reopenMessageID reason : String) (w : MailWorld) : Option String × MailWorld :=
  if tenantID = "" then (some "banner_reopener: tenant_id required", w)
  else if reopenMessageID = "" then (some "banner_reopener: message_id required", w)
  else if reason = "" then (some "banner_reopener: reason required", w)
  else
    match w.banners tenantID reopenMessageID with
    | none => (some "banner_reopener: load banner_state: repository: not found", w)
    | some row =>
      if row.deliveredAt = none then (none, w)
      else if row.provider = "" ∨ row.deliveredMessageID = "" ∨ row.deliveredEmail = "" then
        (none, w.upsertBanner tenantID reopenMessageID (·.reopened h.now reason))
      else
        match a.mail.injectBanner h
            ⟨tenantID, row.deliveredEmail, row.deliveredMessageID, renderReopenBanner reason⟩ w with
        | (some err, w) => (some ("banner_reopener: InjectBanner: " ++ err), w)
        | (none, w) => (none, w.upsertBanner tenantID reopenMessageID (·.reopened h.now reason))

/-! ### Runs -/

/-- An event of the mailbox: a delivery of an action event, or a resolution that reopens a banner. -/
inductive MailOp where
  | signal (sig : ActionSignal) (h : Handling)
  | reopen (tenantID messageID reason : String) (h : Handling)

def step (w : MailWorld) : MailOp → Option MailWorld
  | .signal sig h => if w.Fresh h.newID then some (a.handle h sig w) else none
  | .reopen tenantID messageID reason h =>
    if w.Fresh h.newID then some (a.reopenBanner h tenantID messageID reason w).2 else none

end MailApp

/-! ### What an operation can do to the mailbox -/

section Cases

variable {p : MailProvider} {w w' : MailWorld} {h : Handling} {err : Option String}

lemma fetchRaw_ok {messageID : String} {c : Copy} (hf : p.fetchRaw w messageID = .ok c) :
    w.copies messageID = some c ∧ (p.kind = .fastmail → c.place ≠ .destroyed) := by
  unfold MailProvider.fetchRaw at hf
  cases hk : p.kind with
  | gmail =>
    rw [hk] at hf
    cases hc : w.copies messageID with
    | none => simp [hc] at hf
    | some c' =>
      by_cases hraw : c'.raw = [] <;> simp only [hc, hraw, if_true, if_false] at hf
      · cases hf
      · cases hf
        exact ⟨rfl, by simp⟩
  | fastmail =>
    rw [hk] at hf
    cases hc : w.copies messageID with
    | none => simp [hc] at hf
    | some c' =>
      by_cases hplace : c'.place = .destroyed <;> simp only [hc, hplace, if_true, if_false] at hf
      · cases hf
      · cases hf
        exact ⟨rfl, fun _ => hplace⟩

/-- A banner that is injected without an error replaces the message; else the mailbox stays. -/
lemma injectBanner_cases {req : MailProvider.BannerInjectRequest} (hi : p.injectBanner h req w = (err, w')) :
    (∃ e, err = some e ∧ w' = w) ∨
    ∃ c raw edits, err = none ∧ req.messageID ≠ "" ∧ p.fetchRaw w req.messageID = .ok c ∧
      (edits = c.edits ∨ edits = .banner req.html :: c.edits) ∧
      w' = p.replaceMessage h req.email req.messageID c raw edits w := by
  unfold MailProvider.injectBanner at hi
  cases hv : req.validate with
  | some e =>
    rw [hv] at hi
    cases hi
    exact .inl ⟨e, rfl, rfl⟩
  | none =>
    rw [hv] at hi
    have hid : req.messageID ≠ "" := by
      intro hid
      by_cases ht : req.tenant = "" <;> simp [MailProvider.BannerInjectRequest.validate, hid, ht] at hv
    by_cases hemail : p.kind = .gmail ∧ req.email = ""
    · rw [if_pos hemail] at hi
      cases hi
      exact .inl ⟨_, rfl, rfl⟩
    rw [if_neg hemail] at hi
    cases hf : p.fetchRaw w req.messageID with
    | error e =>
      rw [hf] at hi
      cases hi
      exact .inl ⟨_, rfl, rfl⟩
    | ok c =>
      rw [hf] at hi
      rcases hs : p.inject c.raw (bytesOf req.html) with e | raw | raw <;> simp only [hs] at hi <;> cases hi
      · exact .inl ⟨_, rfl, rfl⟩
      · exact .inr ⟨c, _, _, rfl, hid, rfl, .inl rfl, rfl⟩
      · exact .inr ⟨c, _, _, rfl, hid, rfl, .inr rfl, rfl⟩

/-- The links of a message are rewritten in a copy that replaces it, if at all. -/
lemma rewriteBody_cases {rw : URLRewriter} {tenant email messageID : String} {tier : Option Tier}
    (hr : p.rewriteBody rw h tenant email messageID tier w = (err, w')) :
    (∃ links, w' = { w with links }) ∨
    ∃ c raw links, p.fetchRaw w messageID = .ok c ∧
      w' = p.replaceMessage h email messageID c raw (.links :: c.edits) { w with links } := by
  unfold MailProvider.rewriteBody at hr
  cases hf : p.fetchRaw w messageID with
  | error e =>
    rw [hf] at hr
    cases hr
    exact .inl ⟨_, rfl⟩
  | ok c =>
    rw [hf] at hr
    by_cases hbody : p.extract c.raw = [] <;> simp only [hbody, if_true, if_false] at hr
    · cases hr
      exact .inl ⟨_, rfl⟩
    rcases hres : rw.rewrite ⟨tenant, messageID, tier.getD .highRisk, p.extract c.raw⟩ w.links with ⟨e | res, links⟩
    · simp only [hres] at hr
      cases hr
      exact .inl ⟨links, rfl⟩
    · simp only [hres] at hr
      by_cases hzero : res.rewriteCount = 0 <;> simp only [hzero, if_true, if_false] at hr
      · cases hr
        exact .inl ⟨links, rfl⟩
      · unfold MailProvider.writeBody at hr
        rcases hs : p.replace c.raw res.htmlBody with e | raw | raw <;> simp only [hs] at hr <;> cases hr
        · exact .inl ⟨links, rfl⟩
        · exact .inl ⟨links, rfl⟩
        · exact .inr ⟨c, _, links, rfl, rfl⟩

lemma upsertBanner_self (tenantID hash : String) (f : BannerState → BannerState) :
    (w.upsertBanner tenantID hash f).banners tenantID hash = some (f ((w.banners tenantID hash).getD {})) :=
  if_pos ⟨rfl, rfl⟩

lemma upsertBanner_ne {tenantID hash hash' : String} (hne : hash' ≠ hash) (f : BannerState → BannerState) :
    (w.upsertBanner tenantID hash f).banners tenantID hash' = w.banners tenantID hash' :=
  if_neg fun h => hne h.2

variable {email messageID : String} {c : Copy} {raw : Bytes} {edits : List Edit}

lemma replaceMessage_copies_old :
    (p.replaceMessage h email messageID c raw edits w).copies messageID = some { c with place := p.kind.removed } :=
  Function.update_self ..

lemma replaceMessage_copies_new (hne : h.newID ≠ messageID) :
    (p.replaceMessage h email messageID c raw edits w).copies h.newID = some (p.importCopy h c raw edits) := by
  show Function.update _ _ _ _ = _
  rw [Function.update_of_ne hne, Function.update_self]

lemma replaceMessage_copies_ne {id : String} (hold : id ≠ messageID) (hnew : id ≠ h.newID) :
    (p.replaceMessage h email messageID c raw edits w).copies id = w.copies id := by
  show Function.update _ _ _ _ = _
  rw [Function.update_of_ne hold, Function.update_of_ne hnew]

lemma importLabels_attached_ne {s : LabelState} {newID id : String} (hnew : id ≠ newID) :
    (p.importLabels s email messageID newID).attached (email, id) = s.attached (email, id) := by
  show Function.update _ _ _ _ = _
  rw [Function.update_of_ne (by simp [hnew])]

/-- The id of an import is not that of a message that was found. -/
lemma MailWorld.Fresh.ne {newID : String} (hfresh : w.Fresh newID) (hc : w.copies messageID = some c) :
    newID ≠ messageID := by
  rintro rfl
  rw [hfresh.2] at hc
  cases hc

end Cases

section Samples

/-- The header of a message with an HTML body and no transfer encoding. -/
def htmlHeader : Bytes := bytesOf "Content-Type: text/html\r\n\r\n"

/-- What the providers do to a message with that header and without a `<body` tag. -/
def htmlMail (kind : Replacing) : MailProvider where
  kind
  inject raw html := .ok (some (htmlHeader ++ html ++ raw.drop htmlHeader.length))
  extract raw := raw.drop htmlHeader.length
  replace _ html := .ok (some (htmlHeader ++ html))

/-- A message with one link, in the inbox. -/
def linkCopy : Copy := { raw := htmlHeader ++ bytesOf "<a href='http://a.b/'>" }

def linkMailbox : MailWorld := { copies := fun id => if id = "m" then some linkCopy else none }

def labelKind : Replacing → LabelProviderKind
  | .gmail => .gmail
  | .fastmail => .fastmail

def mailApp (kind : Replacing) : MailApp where
  verdicts := { bannerRenderer := some fun _ => .ok "<p>", urlRewriter := true }
  quarantineSvc := some (serviceOf (blockedRecord (labelKind kind)))
  resolveKind _ := some (labelKind kind)
  labelApplier := some
    { providers := fun _ => some
        { ensureLabel := fun _ name _ => .ok ("Label_" ++ name)
          applyLabel := fun _ _ _ => .ok ()
          removeLabel := fun _ _ _ => .ok () } }
  urlRewriter := some boxRewriter
  mail := htmlMail kind
  wired := rfl

/-- A handling in a world where every call succeeds. -/
def handling (newID : String) : Handling := { newID, env := fun _ => labelWorld none }

end Samples

end Sn360Es.Action
