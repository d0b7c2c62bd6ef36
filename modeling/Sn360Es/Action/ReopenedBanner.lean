import Sn360Es.Action.MailCopies

/-!
# The message that a reopened banner goes to

`handleActionBanner` records the id that its event names, and the provider has replaced that message by then. The row of
`banner_state` so names a copy in the trash, or one that was destroyed, from the moment it is written
(`delivered_not_live`), and what `ReopenBanner` does with it never reaches the copy that the recipient sees.
-/

namespace Sn360Es.Action

open Lib

/-- The events of a run: banners, rewritten links and reopened banners of a tenant. They may name any copy. -/
def MailApp.MailOp.Concerns (tenantID : String) : MailApp.MailOp → Prop
  | .signal (.banner t ..) _ => t = tenantID
  | .signal (.urlRewrite t ..) _ => t = tenantID
  | .signal _ _ => False
  | .reopen t _ _ _ => t = tenantID

/-- The row names a copy that the recipient sees. -/
def BannerState.Live (w : MailWorld) (row : BannerState) : Prop :=
  ∃ c, w.copies row.deliveredMessageID = some c ∧ c.Visible

/-- A banner was put into a copy that the recipient saw, and he sees one copy. -/
def ReachesRecipient (html : String) (w w' : MailWorld) : Prop :=
  ∃ id c id' c', w.copies id = some c ∧ c.Visible ∧ w'.copies id' = some c' ∧ c'.Visible ∧
    c'.edits = .banner html :: c.edits ∧ ∀ i d, w'.copies i = some d → d.Visible → i = id'

/-! ### The invariant -/

/-- The row of a banner that was delivered names a message that was removed. -/
def Removed (p : MailProvider) (w : MailWorld) (id : String) : Prop :=
  ∃ c, w.copies id = some c ∧ c.place = p.kind.removed

/-- Somebody sees the message, and no row names what he sees. -/
structure Displaced (p : MailProvider) (tenantID : String) (w : MailWorld) : Prop where
  seen : ∃ id c, w.copies id = some c ∧ c.Visible
  removed : ∀ hash row, w.banners tenantID hash = some row → row.deliveredAt ≠ none →
    Removed p w row.deliveredMessageID

section Displaced

variable {p : MailProvider} {w w' : MailWorld} {h : Handling} {tenantID email messageID : String} {c : Copy}

lemma Removed.not_visible {id : String} (hr : Removed p w id) (hc : w.copies id = some c) : ¬ c.Visible := by
  obtain ⟨c', hc', hplace⟩ := hr
  rw [hc'] at hc
  cases hc
  rintro ⟨htrash, hdestroyed⟩
  cases hk : p.kind with
  | gmail =>
    rw [hk] at hplace
    exact htrash hplace
  | fastmail =>
    rw [hk] at hplace
    exact hdestroyed hplace

lemma Removed.congr {id : String} (hr : Removed p w id) (hcopies : w'.copies = w.copies) : Removed p w' id := by
  obtain ⟨c, hc, hplace⟩ := hr
  exact ⟨c, by rw [hcopies]; exact hc, hplace⟩

/-- A message that was removed stays so: the ids of the copies to come are new. -/
lemma Removed.replaceMessage {id : String} (hfresh : w.Fresh h.newID) (hr : Removed p w id) (raw : Bytes)
    (edits : List Edit) : Removed p (p.replaceMessage h email messageID c raw edits w) id := by
  by_cases hold : id = messageID
  · rw [hold]
    exact ⟨_, replaceMessage_copies_old, rfl⟩
  obtain ⟨c', hc', hplace⟩ := hr
  have hnew : id ≠ h.newID := (hfresh.ne hc').symm
  exact ⟨c', by rw [replaceMessage_copies_ne hold hnew]; exact hc', hplace⟩

/-- The copy that replaces a message is seen if the message was. -/
lemma importCopy_visible (hc : c.Visible) (raw : Bytes) (edits : List Edit) : (p.importCopy h c raw edits).Visible := by
  unfold MailProvider.importCopy
  cases p.kind with
  | gmail => exact ⟨by simp, by simp⟩
  | fastmail => exact hc

lemma seen_replaceMessage (hfresh : w.Fresh h.newID) (hf : w.copies messageID = some c)
    (hseen : ∃ id c, w.copies id = some c ∧ c.Visible) (raw : Bytes) (edits : List Edit) :
    ∃ id d, (p.replaceMessage h email messageID c raw edits w).copies id = some d ∧ d.Visible := by
  obtain ⟨id, d, hd, hvisible⟩ := hseen
  by_cases hold : id = messageID
  · rw [hold, hf] at hd
    cases hd
    exact ⟨_, _, replaceMessage_copies_new (hfresh.ne hf), importCopy_visible hvisible raw edits⟩
  · have hnew : id ≠ h.newID := (hfresh.ne hd).symm
    exact ⟨id, d, by rw [replaceMessage_copies_ne hold hnew]; exact hd, hvisible⟩

lemma Displaced.congr (hw : Displaced p tenantID w) (hcopies : w'.copies = w.copies) (hbanners : w'.banners = w.banners) :
    Displaced p tenantID w' := by
  constructor
  · rw [hcopies]
    exact hw.seen
  · intro hash row hrow hdelivered
    rw [hbanners] at hrow
    exact (hw.removed hash row hrow hdelivered).congr hcopies

lemma Displaced.replaceMessage (hw : Displaced p tenantID w) (hfresh : w.Fresh h.newID)
    (hf : w.copies messageID = some c) (raw : Bytes) (edits : List Edit) :
    Displaced p tenantID (p.replaceMessage h email messageID c raw edits w) where
  seen := seen_replaceMessage hfresh hf hw.seen raw edits
  removed hash row hrow hdelivered := (hw.removed hash row hrow hdelivered).replaceMessage hfresh raw edits

/-- A write of a row keeps the invariant if the row that it leaves names a message that was removed. -/
lemma Displaced.upsertBanner (hw : Displaced p tenantID w) {hash : String} {f : BannerState → BannerState}
    (hf : ∀ row, w.banners tenantID hash = some row ∨ row = {} → (f row).deliveredAt ≠ none →
      Removed p w (f row).deliveredMessageID) : Displaced p tenantID (w.upsertBanner tenantID hash f) := by
  refine ⟨hw.seen, fun hash' row hrow hdelivered => ?_⟩
  by_cases hkey : hash' = hash
  · rw [hkey, upsertBanner_self] at hrow
    cases hrow
    refine (hf _ ?_ hdelivered).congr rfl
    cases hb : w.banners tenantID hash with
    | none => exact .inr rfl
    | some row => exact .inl rfl
  · rw [upsertBanner_ne hkey] at hrow
    exact (hw.removed hash' row hrow hdelivered).congr rfl

/-! ### The events -/

variable {a : MailApp}

lemma Displaced.handleActionBanner (hfresh : w.Fresh h.newID) (hw : Displaced a.mail tenantID w) (html : String) :
    Displaced a.mail tenantID (a.handleActionBanner h tenantID messageID html email w) := by
  unfold MailApp.handleActionBanner
  by_cases hreq : tenantID = "" ∨ messageID = "" ∨ html = "" ∨ email = ""
  · rw [if_pos hreq]
    exact hw
  rw [if_neg hreq]
  cases a.resolveKind tenantID with
  | none => exact hw
  | some kind =>
    rcases hi : a.mail.injectBanner h ⟨tenantID, email, messageID, html⟩ w with ⟨err, w'⟩
    obtain ⟨e, rfl, rfl⟩ | ⟨c, raw, edits, rfl, hid, hf, -, rfl⟩ := injectBanner_cases hi
    · exact hw
    · refine (hw.replaceMessage hfresh (fetchRaw_ok hf).1 raw edits).upsertBanner fun row _ _ => ?_
      -- the row names the message of the event, which has just been removed
      have hrow : (row.delivered h.now "automated banner injection" kind.name messageID email).deliveredMessageID =
          messageID := if_neg hid
      rw [hrow]
      exact ⟨_, replaceMessage_copies_old, rfl⟩

lemma Displaced.handleActionURLRewrite (hfresh : w.Fresh h.newID) (hw : Displaced a.mail tenantID w)
    (tier : Option Tier) : Displaced a.mail tenantID (a.handleActionURLRewrite h tenantID messageID tier email w) := by
  unfold MailApp.handleActionURLRewrite
  cases a.urlRewriter with
  | none => exact hw
  | some rw =>
    cases a.resolveKind tenantID with
    | none => exact hw
    | some kind =>
      by_cases hreq : tenantID = "" ∨ messageID = "" ∨ email = "" <;> simp only [hreq, if_true, if_false]
      · exact hw
      rcases hr : a.mail.rewriteBody rw h tenantID email messageID tier w with ⟨err, w'⟩
      obtain ⟨links, rfl⟩ | ⟨c, raw, links, hf, rfl⟩ := rewriteBody_cases hr
      · exact hw.congr rfl rfl
      · have hlinks : Displaced a.mail tenantID { w with links } := hw.congr rfl rfl
        exact hlinks.replaceMessage hfresh (fetchRaw_ok hf).1 raw _

/-- The stamp of a reopened banner leaves the id of the row. -/
lemma Displaced.markReopened (hw : Displaced p tenantID w) (hash : String) (now : ℤ) (reason : String) :
    Displaced p tenantID (w.upsertBanner tenantID hash (·.reopened now reason)) := by
  refine hw.upsertBanner fun row hrow hdelivered => ?_
  rcases hrow with hrow | rfl
  · exact hw.removed hash row hrow hdelivered
  · exact absurd rfl hdelivered

lemma Displaced.reopenBanner (hfresh : w.Fresh h.newID) (hw : Displaced a.mail tenantID w) (hash reason : String) :
    Displaced a.mail tenantID (a.reopenBanner h tenantID hash reason w).2 := by
  unfold MailApp.reopenBanner
  split
  · exact hw
  split
  · exact hw
  split
  · exact hw
  cases w.banners tenantID hash with
  | none => exact hw
  | some row =>
    simp only
    split
    · exact hw
    split
    · exact hw.markReopened hash h.now reason
    rcases hi : a.mail.injectBanner h
      ⟨tenantID, row.deliveredEmail, row.deliveredMessageID, MailApp.renderReopenBanner reason⟩ w with ⟨err, w'⟩
    obtain ⟨e, rfl, rfl⟩ | ⟨c, raw, edits, rfl, -, hf, -, rfl⟩ := injectBanner_cases hi
    · exact hw
    · exact (hw.replaceMessage hfresh (fetchRaw_ok hf).1 raw edits).markReopened hash h.now reason

/-- **One event.** -/
lemma Displaced.step {op : MailApp.MailOp} (hop : op.Concerns tenantID) (hw : Displaced a.mail tenantID w)
    (hstep : a.step w op = some w') : Displaced a.mail tenantID w' := by
  cases op with
  | signal sig h =>
    by_cases hfresh : w.Fresh h.newID <;> simp only [MailApp.step, hfresh, if_true, if_false] at hstep <;> cases hstep
    cases sig with
    | banner t messageID correlationID tier html email =>
      cases hop
      exact hw.handleActionBanner hfresh html
    | urlRewrite t messageID correlationID tier email =>
      cases hop
      exact hw.handleActionURLRewrite hfresh tier
    | quarantine => cases hop
    | label => cases hop
  | reopen t hash reason h =>
    by_cases hfresh : w.Fresh h.newID <;> simp only [MailApp.step, hfresh, if_true, if_false] at hstep <;> cases hstep
    cases hop
    exact hw.reopenBanner hfresh hash reason

/-- **A run.** -/
lemma Displaced.run {ops : List MailApp.MailOp} (hops : ∀ op ∈ ops, op.Concerns tenantID)
    (hw : Displaced a.mail tenantID w) (hrun : Lts.run a.step w ops = some w') : Displaced a.mail tenantID w' := by
  induction ops generalizing w with
  | nil =>
    cases hrun
    exact hw
  | cons op ops ih =>
    obtain ⟨u, hstep, hrun⟩ := Lts.run_cons_some.mp hrun
    exact ih (fun o ho => hops o (List.mem_cons_of_mem _ ho)) (hw.step (hops op List.mem_cons_self) hstep) hrun

/-! ### The reopened banner -/

/-- What leaves the copies as they are puts no banner anywhere. -/
lemma not_reachesRecipient_of_copies_eq {html : String} (hcopies : w'.copies = w.copies) :
    ¬ ReachesRecipient html w w' := by
  rintro ⟨id, c, id', c', hc, hvisible, hc', -, hedits, honly⟩
  rw [hcopies] at hc' honly
  rw [← honly id c hc hvisible, hc] at hc'
  cases hc'
  have hlength := congrArg List.length hedits
  simp at hlength

/-- A message that Gmail takes from the trash comes back beside the copy that the recipient sees. -/
lemma not_reachesRecipient_of_removed {html : String} (hfresh : w.Fresh h.newID) (hw : Displaced p tenantID w)
    (hr : Removed p w messageID) (hf : p.fetchRaw w messageID = .ok c) (email : String)
    (raw : Bytes) (edits : List Edit) : ¬ ReachesRecipient html w (p.replaceMessage h email messageID c raw edits w) := by
  rintro ⟨-, -, id', c', -, -, -, -, -, honly⟩
  obtain ⟨hc, hplace⟩ := fetchRaw_ok hf
  cases hk : p.kind with
  | fastmail =>
    obtain ⟨d, hd, hremoved⟩ := hr
    rw [hc] at hd
    cases hd
    rw [hk] at hremoved
    exact hplace hk hremoved
  | gmail =>
    obtain ⟨id, d, hd, hvisible⟩ := hw.seen
    have hold : id ≠ messageID := by
      rintro rfl
      exact hr.not_visible hd hvisible
    have hnew : id ≠ h.newID := (hfresh.ne hd).symm
    have hid : id = id' := honly id d (by rw [replaceMessage_copies_ne hold hnew]; exact hd) hvisible
    have himport : (p.importCopy h c raw edits).Visible := by
      rw [MailProvider.importCopy, hk]
      exact ⟨by simp, by simp⟩
    have hid' : h.newID = id' := honly _ _ (replaceMessage_copies_new (hfresh.ne hc)) himport
    exact hnew (hid.trans hid'.symm)

lemma not_reachesRecipient_reopenBanner (hfresh : w.Fresh h.newID) (hw : Displaced a.mail tenantID w) {hash : String}
    {row : BannerState} (hrow : w.banners tenantID hash = some row) (hdelivered : row.deliveredAt ≠ none)
    (reason html : String) : ¬ ReachesRecipient html w (a.reopenBanner h tenantID hash reason w).2 := by
  have hsame : ∀ w' : MailWorld, w'.copies = w.copies → ¬ ReachesRecipient html w w' := fun _ =>
    not_reachesRecipient_of_copies_eq
  unfold MailApp.reopenBanner
  split
  · exact hsame _ rfl
  split
  · exact hsame _ rfl
  split
  · exact hsame _ rfl
  simp only [hrow]
  split
  · exact hsame _ rfl
  split
  · exact hsame _ rfl
  rcases hi : a.mail.injectBanner h
    ⟨tenantID, row.deliveredEmail, row.deliveredMessageID, MailApp.renderReopenBanner reason⟩ w with ⟨err, w'⟩
  obtain ⟨e, rfl, rfl⟩ | ⟨c, raw, edits, rfl, -, hf, -, rfl⟩ := injectBanner_cases hi
  · exact hsame _ rfl
  · exact not_reachesRecipient_of_removed hfresh hw (hw.removed hash row hrow hdelivered) hf row.deliveredEmail
      raw edits

end Displaced

/-- **The row of a delivered banner does not name the message**: after every run of banners, rewritten links and
reopened banners, the copy that a row names is not one that the recipient sees, and a banner that is reopened does not
reach him.
-/
theorem delivered_not_live {a : MailApp} {tenantID : String} {start w : MailWorld}
    (hseen : ∃ id c, start.copies id = some c ∧ c.Visible) (hnone : ∀ hash, start.banners tenantID hash = none)
    {ops : List MailApp.MailOp} (hops : ∀ op ∈ ops, op.Concerns tenantID) (hrun : Lts.run a.step start ops = some w)
    {hash : String} {row : BannerState} (hrow : w.banners tenantID hash = some row)
    (hdelivered : row.deliveredAt ≠ none) :
    ¬ row.Live w ∧ ∀ reason h w', a.step w (.reopen tenantID hash reason h) = some w' →
      ¬ ReachesRecipient (MailApp.renderReopenBanner reason) w w' := by
  have hstart : Displaced a.mail tenantID start := by
    refine ⟨hseen, fun hash row hrow => ?_⟩
    rw [hnone] at hrow
    cases hrow
  have hw := hstart.run hops hrun
  refine ⟨?_, fun reason h w' hstep => ?_⟩
  · rintro ⟨c, hc, hvisible⟩
    exact (hw.removed hash row hrow hdelivered).not_visible hc hvisible
  · by_cases hfresh : w.Fresh h.newID <;> simp only [MailApp.step, hfresh, if_true, if_false] at hstep <;> cases hstep
    exact not_reachesRecipient_reopenBanner hfresh hw hrow hdelivered reason _

section Samples

/-- A banner, and then the resolution of the incident. -/
def bannerEvent : MailApp.MailOp := .signal (.banner "acme" "m" "" (some .warning) "<p>" "bob@acme.test") (handling "n1")

theorem delivered_not_live_gmail :
    ∃ w row, Lts.run (mailApp .gmail).step linkMailbox [bannerEvent] = some w ∧ w.banners "acme" "m" = some row ∧
      ¬ row.Live w ∧ ∀ reason h w', (mailApp .gmail).step w (.reopen "acme" "m" reason h) = some w' →
        ¬ ReachesRecipient (MailApp.renderReopenBanner reason) w w' := by
  have hseen : ∃ id c, linkMailbox.copies id = some c ∧ c.Visible := ⟨"m", linkCopy, rfl, by decide⟩
  have hops : ∀ op ∈ [bannerEvent], op.Concerns "acme" := by
    intro op hop
    rw [List.mem_singleton.mp hop]
    rfl
  exact ⟨_, _, rfl, rfl, delivered_not_live hseen (fun _ => rfl) hops rfl rfl (Option.some_ne_none _)⟩

/-- **The failing input**: after the banner the message `m` is in the trash (Gmail) or destroyed (Fastmail). The
reopened banner makes a second visible copy in Gmail, and fails in Fastmail. -/
theorem reopened_banner_misses :
    (∃ w, Lts.run (mailApp .gmail).step linkMailbox
        [bannerEvent, .reopen "acme" "m" "phishing" (handling "n2")] = some w ∧
      (w.banners "acme" "m").map (·.deliveredMessageID) = some "m" ∧
      (w.copies "m").map (·.place) = some .trash ∧ (w.copies "n1").map (·.place) = some .inbox ∧
      (w.copies "n1").map (·.edits) = some [.banner "<p>"] ∧ (w.copies "n2").map (·.place) = some .inbox) ∧
    ∃ w, Lts.run (mailApp .fastmail).step linkMailbox [bannerEvent] = some w ∧
      (w.banners "acme" "m").map (·.deliveredMessageID) = some "m" ∧
      (w.copies "m").map (·.place) = some .destroyed ∧ (w.copies "n1").map (·.place) = some .inbox ∧
      ((mailApp .fastmail).reopenBanner (handling "n2") "acme" "m" "phishing" w).1 =
        some "banner_reopener: InjectBanner: fastmail: banner fetch raw: message m not found" := by
  refine ⟨⟨_, rfl, ?_, ?_, ?_, ?_, ?_⟩, _, rfl, ?_, ?_, ?_, ?_⟩
  all_goals decide +kernel

end Samples

end Sn360Es.Action
