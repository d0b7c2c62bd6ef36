import Sn360Es.Ingestion.OutlookMailbox
import Sn360Es.Ingestion.ZohoMailbox

/-!
# What the user sees and what is scored

Graph and Zoho return a short preview beside an HTML body. The normaliser takes the HTML only when there is no
other text.

* `skip_le_open` — the one counter of `stripHTML` is at most the sum of those of the three elements;
* `stripTokens_visible` — so `stripHTML` keeps every visible run of text;
* `bodyText_shows_iff` — so the body shows every run of the HTML if there is no preview, and else exactly when
  the preview does.
-/

namespace Sn360Es.Ingestion

open Lib Lib.GoStrings

/-- How many elements of a name are open after a token. -/
def openAfter (name : String) (opened : ℕ) : HtmlToken → ℕ
  | .startTag tag => if tag = name then opened + 1 else opened
  | .endTag tag => if tag = name then opened - 1 else opened
  | _ => opened

/-- A text token outside the elements `script`, `style` and `head`. -/
def Visible (ts : List HtmlToken) (data : String) : Prop :=
  ∃ before after, ts = before ++ .text data :: after ∧
    ∀ name ∈ ["script", "style", "head"], before.foldl (openAfter name) 0 = 0

/-- Every visible run of the HTML occurs in the text, up to whitespace. -/
def Shows (n : DefaultNormalizer) (text html : String) : Prop :=
  ∀ data, Visible (n.tokenize html) data → contains text (collapseWhitespace data) = true

/-- The text that a preview is scored as. -/
def DefaultNormalizer.scoredPreview (n : DefaultNormalizer) (preview html : String) : String :=
  collapseWhitespace (if html ≠ "" ∧ containsTags preview then n.stripHTML preview else preview)

/-- There is HTML and no preview, or the preview shows everything itself. -/
def PreviewShows (n : DefaultNormalizer) (preview html : String) : Prop :=
  (preview = "" ∧ html ≠ "") ∨ Shows n (n.scoredPreview preview html) html

lemma stripTokens_text (skip : ℕ) (data : String) (ts : List HtmlToken) : stripTokens skip (.text data :: ts) =
    if skip = 0 then data.toList ++ ' ' :: stripTokens skip ts else stripTokens skip ts := by
  rw [stripTokens]

lemma stripTokens_append (skip : ℕ) (ts us : List HtmlToken) : stripTokens skip (ts ++ us) =
    stripTokens skip ts ++ stripTokens (ts.foldl skipAfter skip) us := by
  induction ts generalizing skip with
  | nil => rfl
  | cons t ts ih =>
    cases t with
    | text data =>
      rw [List.cons_append, stripTokens_text, stripTokens_text, ih]
      split
      · rw [List.append_assoc]
        rfl
      · rfl
    | startTag name => exact ih _
    | selfClosingTag name => exact ih _
    | endTag name => exact ih _
    | other => exact ih _

lemma skipAfter_le {skip i j k : ℕ} (h : skip ≤ i + j + k) (t : HtmlToken) :
    skipAfter skip t ≤ openAfter "script" i t + openAfter "style" j t + openAfter "head" k t := by
  cases t with
  | startTag tag =>
    simp only [skipAfter, openAfter, isHidden, Bool.or_eq_true, decide_eq_true_eq]
    split_ifs <;> simp_all <;> omega
  | endTag tag =>
    simp only [skipAfter, openAfter, isHidden, Bool.or_eq_true, decide_eq_true_eq]
    split_ifs <;> simp_all <;> omega
  | selfClosingTag tag => exact h
  | text data => exact h
  | other => exact h

/-- An end tag that closes nothing may lower the one counter for another element, and never raises it. -/
lemma skip_le_open (ts : List HtmlToken) {skip i j k : ℕ} (h : skip ≤ i + j + k) : ts.foldl skipAfter skip ≤
    ts.foldl (openAfter "script") i + ts.foldl (openAfter "style") j + ts.foldl (openAfter "head") k := by
  induction ts generalizing skip i j k with
  | nil => exact h
  | cons t ts ih => exact ih (skipAfter_le h t)

/-- **`stripHTML` keeps** every visible run. -/
lemma stripTokens_visible {ts : List HtmlToken} {data : String} (h : Visible ts data) :
    data.toList <:+: stripTokens 0 ts := by
  obtain ⟨before, after, rfl, hopen⟩ := h
  simp only [List.forall_mem_cons, List.not_mem_nil, false_implies, implies_true, and_true] at hopen
  have hskip : before.foldl skipAfter 0 ≤ before.foldl (openAfter "script") 0 + before.foldl (openAfter "style") 0 +
      before.foldl (openAfter "head") 0 := skip_le_open before (Nat.zero_le _)
  rw [hopen.1, hopen.2.1, hopen.2.2, Nat.le_zero] at hskip
  rw [stripTokens_append, hskip, stripTokens_text, if_pos rfl]
  exact ⟨stripTokens 0 before, ' ' :: stripTokens 0 after, by rw [List.append_assoc]⟩

lemma shows_stripHTML (n : DefaultNormalizer) (html : String) :
    Shows n (collapseWhitespace (n.stripHTML html)) html := by
  intro data hv
  have hinf := Whitespace.collapse_infix isBlankChar (show isSpace ' ' = true by decide)
    (stripTokens_visible hv)
  simpa [contains, collapseWhitespace, DefaultNormalizer.stripHTML] using hinf

/-- **The body shows the HTML** exactly when there is no preview or the preview shows it. -/
theorem bodyText_shows_iff (n : DefaultNormalizer) (raw : RawEmail) :
    Shows n (n.bodyText raw) raw.htmlBody ↔ PreviewShows n raw.body raw.htmlBody := by
  by_cases hpreview : raw.body = "" ∧ raw.htmlBody ≠ ""
  · have hbody : n.bodyText raw = collapseWhitespace (n.stripHTML raw.htmlBody) := by
      rw [DefaultNormalizer.bodyText, if_pos hpreview]
    rw [hbody]
    exact iff_of_true (shows_stripHTML n _) (.inl hpreview)
  · have hbody : n.bodyText raw = n.scoredPreview raw.body raw.htmlBody := by
      rw [DefaultNormalizer.bodyText, if_neg hpreview, DefaultNormalizer.scoredPreview]
    rw [hbody]
    exact ⟨.inr, fun h => h.resolve_left hpreview⟩

lemma normalize_body (n : DefaultNormalizer) (walk : Walk) {raw : RawEmail} (hid : raw.providerMessageID ≠ "") :
    ∃ req, n.normalize walk raw = .ok req ∧ req.body = n.bodyText raw := by
  unfold DefaultNormalizer.normalize
  rw [if_neg hid]
  exact ⟨_, rfl, rfl⟩

/-- The request that a message is normalised to shows the HTML. -/
def Scored (n : DefaultNormalizer) (walk : Walk) (raw : RawEmail) (html : String) : Prop :=
  ∃ req, n.normalize walk raw = .ok req ∧ Shows n req.body html

lemma scored_iff (n : DefaultNormalizer) (walk : Walk) {raw : RawEmail} (hid : raw.providerMessageID ≠ "") :
    Scored n walk raw raw.htmlBody ↔ PreviewShows n raw.body raw.htmlBody := by
  obtain ⟨req, hok, hbody⟩ := normalize_body n walk hid
  rw [← bodyText_shows_iff, ← hbody]
  constructor
  · rintro ⟨req', hok', hshows⟩
    obtain rfl := Except.ok.inj (hok.symm.trans hok')
    exact hshows
  · intro hshows
    exact ⟨req, hok, hshows⟩

/-- **What the user sees is what is scored**, for Graph and for Zoho, exactly when the provider returns no
preview beside the HTML, or a preview that shows all of it. -/
theorem visible_text_scored_iff (n : DefaultNormalizer) (walk : Walk) (mailbox : Mailbox) :
    (∀ (p : OutlookMailboxProvider) (m : GraphMessage), m.id ≠ "" → p.toLower m.contentType = "html" →
      (Scored n walk (p.toRawEmail mailbox m) m.content ↔ PreviewShows n m.bodyPreview m.content)) ∧
    (∀ (p : ZohoMailboxProvider) (since limit : ℤ) (raws : List RawEmail),
      p.fetchNew mailbox since limit = .ok raws → ∀ raw ∈ raws,
        ∃ h received detail, p.detail h.folderID h.messageID = .ok detail ∧
          raw = ZohoMailboxProvider.toRawEmail mailbox h received detail ∧
          (h.messageID ≠ "" → detail.htmlContent ≠ "" →
            (Scored n walk raw detail.htmlContent ↔ PreviewShows n h.summary detail.htmlContent))) := by
  constructor
  · intro p m hid hhtml
    have hraw : (p.toRawEmail mailbox m).body = m.bodyPreview ∧ (p.toRawEmail mailbox m).htmlBody = m.content := by
      simp [OutlookMailboxProvider.toRawEmail, hhtml]
    rw [← hraw.1, ← hraw.2]
    exact scored_iff n walk hid
  · intro p since limit raws hok raw hmem
    unfold ZohoMailboxProvider.fetchNew at hok
    split at hok
    · cases hok
    split at hok
    · cases hok
    · next hs _ =>
      obtain ⟨h, -, received, detail, hdetail, rfl⟩ := ZohoMailboxProvider.mem_fetchListed hok hmem
      refine ⟨h, received, detail, hdetail, rfl, ?_⟩
      intro hid hhtml
      have hbody : (ZohoMailboxProvider.toRawEmail mailbox h received detail).body = h.summary := by
        simp [ZohoMailboxProvider.toRawEmail, hhtml]
      rw [← hbody]
      exact scored_iff n walk hid

section Samples

def invoiceHTML : String := "<p>hello</p><p>pay now</p>"

/-- A normaliser that knows the tokens of one text. -/
def invoiceNormalizer : DefaultNormalizer :=
  { asciiNormalizer with
    tokenize := fun s =>
      if s = invoiceHTML then
        [.startTag "p", .text "hello", .endTag "p", .startTag "p", .text "pay now", .endTag "p"]
      else [] }

def graphProvider : OutlookMailboxProvider := { toLower := asciiNormalizer.toLower, list := fun _ _ => .ok [] }

def invoiceMessage (preview : String) : GraphMessage :=
  { id := "m-1", contentType := "HTML", content := invoiceHTML, bodyPreview := preview }

theorem visible_text_scored_without_preview :
    Scored invoiceNormalizer (fun _ => []) (graphProvider.toRawEmail ⟨"t", "u@a.b", ""⟩ (invoiceMessage ""))
      invoiceHTML :=
  ((visible_text_scored_iff invoiceNormalizer (fun _ => []) ⟨"t", "u@a.b", ""⟩).1 graphProvider
    (invoiceMessage "") (by decide) (by decide)).mpr (.inl ⟨rfl, by decide⟩)

/-- The text after the cut of the preview is not scored. -/
theorem visible_text_missing_after_preview :
    ¬ Scored invoiceNormalizer (fun _ => [])
      (graphProvider.toRawEmail ⟨"t", "u@a.b", ""⟩ (invoiceMessage "hello")) invoiceHTML := by
  rintro ⟨req, hok, hshows⟩
  obtain rfl := Except.ok.inj hok
  have hvisible : Visible (invoiceNormalizer.tokenize invoiceHTML) "pay now" :=
    ⟨[.startTag "p", .text "hello", .endTag "p", .startTag "p"], [.endTag "p"], by decide, by decide⟩
  have hmissing := hshows "pay now" hvisible
  revert hmissing
  decide

end Samples

end Sn360Es.Ingestion
