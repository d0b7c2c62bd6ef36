import Sn360Es.Action.MailCopies
import Sn360Es.Lib.Performs

/-!
# The actions of one verdict, in any order

Each of the four events of a result names the message by the id under which it was evaluated. In Gmail the banner and
the rewritten links are put into new copies, and the label is put on the message that they replace. Whatever the order,
the copy with the banner has no label (`actions_do_not_compose`).
-/

namespace Sn360Es.Action

open Lib

/-- The mailbox and the message that an action event names. -/
def ActionSignal.target : ActionSignal → String × String
  | banner _ messageID _ _ _ email => (email, messageID)
  | urlRewrite _ messageID _ _ email => (email, messageID)
  | quarantine _ messageID _ _ _ _ email _ => (email, messageID)
  | label _ messageID _ _ _ email => (email, messageID)

/-- The mailbox holds one message, under the id `messageID`, as it arrived. Its labels may be any. -/
structure MailWorld.Holds (w : MailWorld) (email messageID : String) : Prop where
  message : ∃ c, w.copies messageID = some c ∧ c.edits = [] ∧ c.place = .inbox
  only : ∀ id, id ≠ messageID → w.copies id = none
  unlabelled : ∀ id, id ≠ messageID → w.labels.attached (email, id) = ∅

/-- The actions of a verdict of the tier `tier` have composed: one copy is outside the trash, with the banner, the
rewritten links and the label of the tier. -/
structure Composed (labelID : String → String → String) (email : String) (tier : Tier) (w : MailWorld) : Prop where
  copy : ∃ id c, w.copies id = some c ∧ c.Visible ∧
    (∀ id' c', w.copies id' = some c' → c'.Visible → id' = id) ∧
    (∃ html, Edit.banner html ∈ c.edits) ∧ Edit.links ∈ c.edits ∧
    labelID email tier.labelName ∈ w.labels.attached (email, id)
  blocked : tier = .blocked → ∀ id c, w.copies id = some c → c.place ≠ .inbox

/-! ### The invariant -/

/-- The message keeps its text, and no other copy gets a label. -/
structure Apart (email messageID : String) (w : MailWorld) : Prop where
  original : ∃ c, w.copies messageID = some c ∧ c.edits = []
  unlabelled : ∀ id, id ≠ messageID → w.labels.attached (email, id) = ∅

section Apart

variable {a : MailApp} {w w' : MailWorld} {h : Handling} {email messageID : String}

lemma MailWorld.Holds.apart (hw : w.Holds email messageID) : Apart email messageID w := by
  obtain ⟨c, hc, hedits, -⟩ := hw.message
  exact ⟨⟨c, hc, hedits⟩, hw.unlabelled⟩

lemma Apart.not_composed (hw : Apart email messageID w) (labelID : String → String → String) (tier : Tier) :
    ¬ Composed labelID email tier w := by
  rintro ⟨⟨id, c, hc, -, -, ⟨html, hbanner⟩, -, hlabel⟩, -⟩
  have hid : id ≠ messageID := by
    rintro rfl
    obtain ⟨c', hc', hedits⟩ := hw.original
    rw [hc'] at hc
    cases hc
    rw [hedits] at hbanner
    cases hbanner
  rw [hw.unlabelled id hid] at hlabel
  cases hlabel

/-- What looks at neither copies nor labels. -/
lemma Apart.congr (hw : Apart email messageID w) (hcopies : w'.copies = w.copies) (hlabels : w'.labels = w.labels) :
    Apart email messageID w' := by
  obtain ⟨c, hc, hedits⟩ := hw.original
  refine ⟨⟨c, by rw [hcopies]; exact hc, hedits⟩, fun id hid => ?_⟩
  rw [hlabels]
  exact hw.unlabelled id hid

/-- A copy that Gmail imports has no label, and the message that it replaces keeps its text. -/
lemma Apart.replaceMessage {p : MailProvider} (hgmail : p.kind = .gmail) (hw : Apart email messageID w) {c : Copy}
    (hc : w.copies messageID = some c) (raw : Bytes) (edits : List Edit) :
    Apart email messageID (p.replaceMessage h email messageID c raw edits w) := by
  refine ⟨⟨_, replaceMessage_copies_old, ?_⟩, fun id hid => ?_⟩
  · obtain ⟨c', hc', hedits⟩ := hw.original
    rw [hc'] at hc
    cases hc
    exact hedits
  · show (p.importLabels w.labels email messageID h.newID).attached (email, id) = ∅
    by_cases hnew : id = h.newID
    · rw [hnew, MailProvider.importLabels, hgmail]
      exact Function.update_self ..
    · rw [importLabels_attached_ne hnew]
      exact hw.unlabelled id hid

lemma Apart.moveCopy (hw : Apart email messageID w) (labelID : String) :
    Apart email messageID (MailApp.moveCopy email messageID labelID w) := by
  obtain ⟨c, hc, hedits⟩ := hw.original
  refine ⟨⟨if c.place = .inbox then { c with place := .hidden } else c, ?_, ?_⟩, fun id hid => ?_⟩
  · show Function.update _ _ _ _ = _
    rw [Function.update_self, hc, Option.map_some]
  · split <;> exact hedits
  · show Function.update _ _ _ _ = _
    rw [Function.update_of_ne (by simp [hid])]
    exact hw.unlabelled id hid

/-! ### The handlers -/

lemma Apart.handleActionBanner (hgmail : a.mail.kind = .gmail) (hw : Apart email messageID w) (tenantID html : String) :
    Apart email messageID (a.handleActionBanner h tenantID messageID html email w) := by
  unfold MailApp.handleActionBanner
  by_cases hreq : tenantID = "" ∨ messageID = "" ∨ html = "" ∨ email = ""
  · rw [if_pos hreq]
    exact hw
  rw [if_neg hreq]
  cases a.resolveKind tenantID with
  | none => exact hw
  | some kind =>
    rcases hi : a.mail.injectBanner h ⟨tenantID, email, messageID, html⟩ w with ⟨err, w'⟩
    obtain ⟨e, rfl, rfl⟩ | ⟨c, raw, edits, rfl, -, hf, -, rfl⟩ := injectBanner_cases hi
    · exact hw
    · exact (hw.replaceMessage hgmail (fetchRaw_ok hf).1 raw edits).congr rfl rfl

lemma Apart.handleActionURLRewrite (hgmail : a.mail.kind = .gmail) (hw : Apart email messageID w) (tenantID : String)
    (tier : Option Tier) : Apart email messageID (a.handleActionURLRewrite h tenantID messageID tier email w) := by
  unfold MailApp.handleActionURLRewrite
  cases a.urlRewriter with
  | none => exact hw
  | some rw =>
    cases a.resolveKind tenantID with
    | none => exact hw
    | some kind =>
      by_cases hreq : tenantID = "" ∨ messageID = "" ∨ email = "" <;> simp only [hreq, if_true, if_false]
      · exact hw
      rcases hr : a.mail.rewriteBody rw h tenantID email messageID tier w with ⟨err, w'⟩
      obtain ⟨links, rfl⟩ | ⟨c, raw, links, hf, rfl⟩ := rewriteBody_cases hr
      · exact hw.congr rfl rfl
      · have hlinks : Apart email messageID { w with links } := hw.congr rfl rfl
        exact hlinks.replaceMessage hgmail (fetchRaw_ok hf).1 raw _

lemma Apart.handleActionLabel (hw : Apart email messageID w) (tenantID : String) (tier : Option Tier)
    (primary : Option Category) :
    Apart email messageID (a.handleActionLabel tenantID messageID tier primary email w) := by
  unfold MailApp.handleActionLabel
  cases a.labelApplier with
  | none => exact hw
  | some applier =>
    cases a.resolveKind tenantID with
    | none => exact hw
    | some kind =>
      cases tier with
      | none => exact hw
      | some tier =>
        by_cases hreq : tenantID = "" ∨ messageID = "" ∨ email = "" <;> simp only [hreq, if_true, if_false]
        · exact hw
        refine ⟨hw.original, fun id hid => ?_⟩
        rw [apply_attached_of_ne (by simp [hid])]
        exact hw.unlabelled id hid

/-- The move of a quarantine is that of the message it was asked for. -/
def MovesOnly (email messageID : String) : Op → Prop
  | .moveToQuarantine _ e m _ _ => e = email ∧ m = messageID
  | _ => True

lemma every_publishApplied (q : QuarantineService) (req : QuarantineRequest) (record : QuarantineRecord) :
    (q.publishApplied req record).Every (MovesOnly email messageID) := by
  unfold QuarantineService.publishApplied
  split
  · exact (Prog.every_perform trivial).bind fun _ => Prog.every_pure _
  · exact Prog.every_pure _

lemma every_persist (q : QuarantineService) (tenant pseudo : String) (record : QuarantineRecord) :
    (q.persist tenant pseudo record).Every (MovesOnly email messageID) := by
  unfold QuarantineService.persist
  refine (Prog.every_perform trivial).bind fun enc => ?_
  cases enc with
  | error err => exact Prog.every_pure _
  | ok enc => exact (Prog.every_perform trivial).bind fun _ => by split <;> exact Prog.every_pure _

lemma every_recordMoved (q : QuarantineService) (req : QuarantineRequest) (labelID newMessageID : String)
    (moveErr : Option String) :
    (q.recordMoved req labelID newMessageID moveErr).Every (MovesOnly email messageID) := by
  unfold QuarantineService.recordMoved
  refine (Prog.every_perform trivial).bind fun at_ => (every_persist q _ _ _).bind fun err => ?_
  split
  · exact Prog.every_pure _
  · exact Prog.every_pure _
  · exact Prog.every_pure _
  · exact (every_publishApplied q _ _).bind fun _ => Prog.every_pure _

lemma every_quarantine (q : QuarantineService) (req : QuarantineRequest) :
    (q.quarantine req).Every (MovesOnly req.email req.messageID) := by
  unfold QuarantineService.quarantine
  split
  · exact Prog.every_pure _
  split
  · exact Prog.every_pure _
  split
  · exact Prog.every_pure _
  split
  · exact Prog.every_pure _
  refine (Prog.every_perform trivial).bind fun ans => ?_
  cases ans with
  | error err => exact Prog.every_pure _
  | ok labelID =>
    refine (Prog.every_perform ⟨rfl, rfl⟩).bind fun moved => ?_
    split
    · exact Prog.every_pure _
    · exact every_recordMoved q _ _ _ _

lemma every_handleActionQuarantine (a : BlockedApp) {sig : ActionSignal} (hsig : sig.target = (email, messageID)) :
    (a.handleActionQuarantine (some sig)).Every (MovesOnly email messageID) := by
  unfold BlockedApp.handleActionQuarantine
  refine Prog.Every.bind ?_ fun _ => Prog.every_pure _
  cases sig with
  | quarantine tenantID messageID' correlationID tier primary score email' tier2Malicious =>
    cases hsig
    cases hq : a.quarantineSvc with
    | none =>
      simp only [BlockedApp.callQuarantine, hq]
      exact Prog.every_pure _
    | some q =>
      cases hk : a.resolveKind tenantID with
      | none =>
        simp only [BlockedApp.callQuarantine, hq, hk]
        exact Prog.every_pure _
      | some kind =>
        simp only [BlockedApp.callQuarantine, hq, hk]
        split
        · exact Prog.every_pure _
        split
        · exact Prog.every_pure _
        · exact Prog.Every.bind (every_quarantine q
            { tenant := tenantID, pseudonymizedMessage := messageID, provider := kind, email, messageID, tier, primary
              tier2Malicious }) fun _ => Prog.every_pure _
  | _ => exact Prog.every_pure _

lemma Apart.onMailbox (hw : Apart email messageID w) {x : (o : Op) × o.Ans} (hx : MovesOnly email messageID x.1) :
    Apart email messageID (MailApp.onMailbox x w) := by
  unfold MailApp.onMailbox
  split
  · obtain ⟨rfl, rfl⟩ := hx
    exact hw.moveCopy _
  · exact hw

lemma Apart.quarantineMailbox (hw : Apart email messageID w) {sig : ActionSignal}
    (hsig : sig.target = (email, messageID)) : Apart email messageID (a.quarantineMailbox h sig w) := by
  have hstart : Apart email messageID
      { w with refs := ((a.handleActionQuarantine (some sig)).eval exec h.env w.refs).2.1 } := hw.congr rfl rfl
  refine List.foldlRecOn ((a.handleActionQuarantine (some sig)).trace exec h.env w.refs) _ hstart fun w hw x hx => ?_
  exact hw.onMailbox ((every_handleActionQuarantine a.toBlockedApp hsig).of_mem_trace hx)

/-- **One event.** -/
lemma Apart.handle (hgmail : a.mail.kind = .gmail) (hw : Apart email messageID w) {sig : ActionSignal}
    (hsig : sig.target = (email, messageID)) : Apart email messageID (a.handle h sig w) := by
  cases sig with
  | banner tenantID messageID' correlationID tier html email' =>
    cases hsig
    exact hw.handleActionBanner hgmail tenantID html
  | urlRewrite tenantID messageID' correlationID tier email' =>
    cases hsig
    exact hw.handleActionURLRewrite hgmail tenantID tier
  | quarantine => exact hw.quarantineMailbox hsig
  | label tenantID messageID' correlationID tier primary email' =>
    cases hsig
    exact hw.handleActionLabel tenantID tier primary

/-- **A run** over events that name the message. -/
lemma Apart.run (hgmail : a.mail.kind = .gmail) {events : List (ActionSignal × Handling)}
    (hevents : ∀ e ∈ events, e.1.target = (email, messageID)) (hw : Apart email messageID w)
    (hrun : Lts.run a.step w (events.map fun e => .signal e.1 e.2) = some w') : Apart email messageID w' := by
  induction events generalizing w with
  | nil =>
    cases hrun
    exact hw
  | cons e events ih =>
    obtain ⟨u, hstep, hrun⟩ := Lts.run_cons_some.mp hrun
    have hu : u = a.handle e.2 e.1 w := by
      by_cases hfresh : w.Fresh e.2.newID <;> simp only [MailApp.step, hfresh, if_true, if_false] at hstep <;> cases hstep
      rfl
    rw [hu] at hrun
    exact ih (fun e' he' => hevents e' (List.mem_cons_of_mem _ he'))
      (hw.handle hgmail (hevents e List.mem_cons_self)) hrun

end Apart

/-! ### The events of a result -/

lemma target_of_mem_handleIngestionAction {v : VerdictActions} {now : ℤ} {id : String} {res : EvaluateResult}
    {sig : ActionSignal} (h : sig ∈ v.handleIngestionAction now id (some res)) :
    sig.target = (res.recipient, res.messageID) := by
  rw [VerdictActions.handleIngestionAction] at h
  split at h
  · cases h
  simp only [List.mem_append] at h
  rcases h with ((h | h) | h) | h
  · unfold VerdictActions.bannerSignal at h
    split at h
    · cases h
    split at h
    · split at h
      · cases h
      · rw [List.mem_singleton.mp h]
        rfl
    · cases h
  · unfold VerdictActions.urlRewriteSignal at h
    split at h
    · rw [List.mem_singleton.mp h]
      rfl
    · cases h
  · unfold VerdictActions.quarantineSignal at h
    split at h
    · rw [List.mem_singleton.mp h]
      rfl
    · cases h
  · unfold VerdictActions.labelSignal at h
    split at h
    · rw [List.mem_singleton.mp h]
      rfl
    · cases h

/-- **The actions of a verdict do not compose** in Gmail: in whichever order its events are handled, each once, the copy
with the banner is not the message with the label. -/
theorem actions_do_not_compose {a : MailApp} (hgmail : a.mail.kind = .gmail) {res : EvaluateResult} {tier : Tier}
    {start w : MailWorld} (hstart : start.Holds res.recipient res.messageID) {now : ℤ} {id : String}
    {events : List (ActionSignal × Handling)}
    (hevents : (events.map Prod.fst).Perm (a.verdicts.handleIngestionAction now id (some res)))
    (hrun : Lts.run a.step start (events.map fun e => .signal e.1 e.2) = some w)
    (labelID : String → String → String) : ¬ Composed labelID res.recipient tier w := by
  refine (hstart.apart.run hgmail (fun e he => ?_) hrun).not_composed labelID tier
  exact target_of_mem_handleIngestionAction (hevents.subset (List.mem_map_of_mem he))

section Samples

lemma linkMailbox_holds : linkMailbox.Holds "bob@acme.test" "m" where
  message := ⟨linkCopy, rfl, rfl, rfl⟩
  only _ hid := if_neg hid
  unlabelled _ _ := rfl

/-- The events of a Blocked verdict, in the order in which they are published. -/
def blockedEvents : List (ActionSignal × Handling) :=
  [(.banner "acme" "m" "" (some .blocked) "<p>" "bob@acme.test", handling "n1"),
    (.urlRewrite "acme" "m" "" (some .blocked) "bob@acme.test", handling "n2"),
    (quarantineSignalOf blockedResult, handling "n3"),
    (.label "acme" "m" "" (some .blocked) none "bob@acme.test", handling "n4")]

lemma blockedEvents_perm : (blockedEvents.map Prod.fst).Perm
    ((mailApp .gmail).verdicts.handleIngestionAction 0 "" (some blockedResult)) :=
  .of_eq rfl

/-- **The failing input**: two copies stay in the inbox, one with the banner and one with the rewritten link. The
message with the label is in the trash. -/
theorem blocked_copies_in_inbox :
    ∃ w, Lts.run (mailApp .gmail).step linkMailbox (blockedEvents.map fun e => .signal e.1 e.2) = some w ∧
      (w.copies "n1").map (fun c => (c.edits, c.place)) = some ([.banner "<p>"], .inbox) ∧
      (w.copies "n2").map (fun c => (c.edits, c.place)) = some ([.links], .inbox) ∧
      (w.copies "m").map (fun c => (c.edits, c.place)) = some ([], .trash) ∧
      ¬ Composed (fun _ name => "Label_" ++ name) "bob@acme.test" .blocked w := by
  have hone : ∀ w : MailWorld, (w.copies "n1").map (fun c => (c.edits, c.place)) = some ([.banner "<p>"], .inbox) →
      ¬ Composed (fun _ name => "Label_" ++ name) "bob@acme.test" .blocked w := by
    intro w h1 hw
    obtain ⟨c, hc, hplace⟩ := Option.map_eq_some_iff.mp h1
    exact hw.blocked rfl "n1" c hc (Prod.mk.inj hplace).2
  refine ⟨_, rfl, ?_, by decide +kernel, by decide +kernel, hone _ ?_⟩ <;> decide +kernel

theorem blocked_actions_do_not_compose :
    ∃ w, Lts.run (mailApp .gmail).step linkMailbox (blockedEvents.map fun e => .signal e.1 e.2) = some w ∧
      ¬ Composed (fun _ name => "Label_" ++ name) "bob@acme.test" .blocked w :=
  ⟨_, rfl, actions_do_not_compose rfl linkMailbox_holds blockedEvents_perm rfl _⟩

end Samples

end Sn360Es.Action
