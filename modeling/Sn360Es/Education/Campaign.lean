import Sn360Es.Lib.Lts
import Sn360Es.Lib.Phase
import Mathlib.Data.List.Nodup
import Mathlib.Logic.Function.Basic

/-!
# Simulation campaigns (`internal/service/education/simulation.go`, `cmd/sn360-es/consumers_education.go`)

Any number of deliveries of `es.education.simulation.send` events and of `CompleteCampaign` calls, interleaved at their
store and send steps. `SendSimulation` loads a campaign, writes it back as *sending*, mails the targets one by one, and
writes its copy back as *active*; an event may be delivered again at any time.

* `Kept` — what the store, the calls and the mails have, as long as no send of a campaign runs into its completion, and
  no event is delivered again after one of its mails has gone out;
* `Kept.send`, `Kept.finish` — every step of a call keeps it;
* `completed_campaigns_stay` — so what is completed stays so and nobody is mailed twice;
* `completed_campaign_reopens` — a completion during a send, and a final write that fails.
-/

namespace Sn360Es.Education

open Lib

inductive CampaignStatus where
  | draft | scheduled | sending | active | completed | cancelled
  deriving DecidableEq, Repr

/-- `CompleteCampaign` leaves such a campaign alone. -/
def CampaignStatus.Over (s : CampaignStatus) : Prop := s = .completed ∨ s = .cancelled

instance : DecidablePred CampaignStatus.Over := fun s => inferInstanceAs (Decidable (s = _ ∨ s = _))

/-- `dto.Campaign`, as far as the engine works on it. -/
structure Campaign where
  campaignID : String
  status : CampaignStatus := .draft
  targetCount : ℕ := 0
  sentCount : ℕ := 0
  startedAt : Option ℕ := none
  completedAt : Option ℕ := none
  deriving DecidableEq, Repr

/-- `CampaignStore`: a campaign is stored under its id. -/
structure CampaignStore where
  loadCampaign : String → Option Campaign
  keyed : ∀ id c, loadCampaign id = some c → c.campaignID = id

def CampaignStore.saveCampaign (st : CampaignStore) (c : Campaign) : CampaignStore where
  loadCampaign := Function.update st.loadCampaign c.campaignID (some c)
  keyed id d h := by
    by_cases hid : id = c.campaignID
    · subst hid
      rw [Function.update_self, Option.some.injEq] at h
      rw [h]
    · rw [Function.update_of_ne hid] at h
      exact st.keyed id d h

structure SimulationTarget where
  userHash : String
  mailboxAlias : String
  displayName : String := ""
  deriving DecidableEq, Repr

structure SimulationSendEnvelope where
  campaignID : String
  targets : List SimulationTarget
  deriving DecidableEq, Repr

/-- `handleSimulationSend`: the campaign and the targets for `SendSimulation`, if it is called. A payload that is not an
envelope is acknowledged. -/
def handleSimulationSend (payload : Option SimulationSendEnvelope) : Option (String × List SimulationTarget) :=
  payload.bind fun env =>
    let targets := env.targets.filter fun t => t.userHash ≠ "" ∧ t.mailboxAlias ≠ ""
    if env.campaignID = "" ∨ env.targets = [] ∨ targets = [] then none else some (env.campaignID, targets)

/-- Where a `SendSimulation` call stands. -/
inductive SendStage where
  | load (targets : List SimulationTarget)
  | saveSending (c : Campaign) (targets : List SimulationTarget)
  /-- In the loop, with the targets that are left; without any, before the last write. -/
  | sending (c : Campaign) (left : List SimulationTarget)
  | returned (err : Bool)
  deriving DecidableEq

namespace SendStage

/-- Whom the call may still mail. -/
def ahead : SendStage → List SimulationTarget
  | .load targets | .saveSending _ targets | .sending _ targets => targets
  | .returned _ => []

def isLoad : SendStage → Bool
  | .load _ => true
  | _ => false

/-- The copy of the campaign that the call has. -/
def copy : SendStage → Option Campaign
  | .saveSending c _ | .sending c _ => some c
  | _ => none

end SendStage

/-- How a step of a call turns out. -/
inductive Outcome where
  | done
  /-- An error, of a write or a mail that was performed or not. -/
  | failed (performed : Bool)
  /-- `Render` fails. -/
  | unrendered
  deriving DecidableEq, Repr

/-- What a step of a call does. -/
structure Effect (Stage : Type) where
  stage : Stage
  save : Option Campaign := none
  mail : Option SimulationTarget := none
  /-- `CompleteCampaign` returns nil. -/
  closes : Bool := false

/-- `SimulationEngine`. -/
structure SimulationEngine where
  /-- A sender is set. -/
  sender : Bool

/-- A step of `SendSimulation`, where `stored` is the campaign in the store. -/
def SimulationEngine.sendSimulation (e : SimulationEngine) (stored : Option Campaign) (now : ℕ) :
    SendStage → Outcome → Option (Effect SendStage)
  | .load targets, .done =>
    some { stage := match stored with
      | none => .returned true
      | some c => .saveSending
          { c with
            status := .sending
            sentCount := 0
            startedAt := some now
            targetCount := if c.targetCount = 0 then targets.length else c.targetCount } targets }
  | .load _, .failed _ => some { stage := .returned true }
  | .saveSending c targets, .done => some { stage := .sending c targets, save := some c }
  | .saveSending c _, .failed performed => some { stage := .returned true, save := if performed then some c else none }
  | .sending c [], .done => some { stage := .returned false, save := some { c with status := .active } }
  | .sending c [], .failed performed =>
    some { stage := .returned true, save := if performed then some { c with status := .active } else none }
  | .sending c (t :: left), .done =>
    some { stage := .sending { c with sentCount := c.sentCount + 1 } left, mail := if e.sender then some t else none }
  | .sending c (t :: left), .failed performed =>
    -- without a sender there is nothing that fails
    if e.sender then some { stage := .sending c left, mail := if performed then some t else none } else none
  | .sending c (_ :: left), .unrendered => some { stage := .sending c left }
  | _, _ => none

/-- Where a `CompleteCampaign` call stands. -/
inductive CompleteStage where
  | load
  | save (c : Campaign)
  | returned
  deriving DecidableEq

/-- The next step may be the last one, with a nil. -/
def CompleteStage.closing (stored : Option Campaign) : CompleteStage → Bool
  | .load => stored.any fun c => c.status.Over
  | .save _ => true
  | .returned => false

/-- A step of `CompleteCampaign`. -/
def completeCampaign (stored : Option Campaign) (now : ℕ) :
    CompleteStage → Outcome → Option (Effect CompleteStage)
  | .load, .done =>
    match stored with
    | none => some { stage := .returned }
    | some c =>
      if c.status.Over then some { stage := .returned, closes := true }
      else some { stage := .save { c with status := .completed, completedAt := some now } }
  | .load, .failed _ => some { stage := .returned }
  | .save c, .done => some { stage := .returned, save := some c, closes := true }
  | .save c, .failed performed => some { stage := .returned, save := if performed then some c else none }
  | _, _ => none

/-! ### The system -/

/-- A delivery of the event with the number `event`. -/
structure Delivery where
  event : ℕ
  campaignID : String
  stage : SendStage
  deriving DecidableEq

structure Completion where
  campaignID : String
  stage : CompleteStage := .load
  deriving DecidableEq

structure Mail where
  event : ℕ
  target : SimulationTarget
  /-- `CompleteCampaign` had returned nil. -/
  late : Bool
  deriving DecidableEq

structure World where
  store : CampaignStore
  /-- The events that have been published, an event's number being its position. -/
  events : List (Option SimulationSendEnvelope) := []
  deliveries : List Delivery := []
  completions : List Completion := []
  mails : List Mail := []
  /-- The campaigns for which `CompleteCampaign` has returned nil. -/
  closed : List String := []

inductive Event where
  /-- `CreateCampaign`, under a new id. -/
  | create (campaignID : String) (targetCount : ℕ)
  | publish (payload : Option SimulationSendEnvelope)
  /-- An event is delivered, for the first time or again. -/
  | deliver (event : ℕ)
  | send (i : ℕ) (o : Outcome) (now : ℕ)
  /-- The process of a delivery dies. -/
  | crash (i : ℕ)
  | complete (campaignID : String)
  | finish (i : ℕ) (o : Outcome) (now : ℕ)
  deriving DecidableEq

def CampaignStore.saves (st : CampaignStore) (c : Option Campaign) : CampaignStore :=
  match c with
  | none => st
  | some c => st.saveCampaign c

variable (e : SimulationEngine)

def SimulationEngine.step (w : World) : Event → Option World
  | .create campaignID targetCount =>
    if w.store.loadCampaign campaignID = none then
      some { w with store := w.store.saveCampaign { campaignID, targetCount } }
    else none
  | .publish payload => some { w with events := w.events ++ [payload] }
  | .deliver event =>
    w.events[event]?.map fun payload =>
      match handleSimulationSend payload with
      | none => w
      | some (campaignID, targets) =>
        { w with deliveries := w.deliveries ++ [{ event, campaignID, stage := .load targets }] }
  | .send i o now =>
    w.deliveries[i]?.bind fun d =>
      (e.sendSimulation (w.store.loadCampaign d.campaignID) now d.stage o).map fun x =>
        { w with
          store := w.store.saves x.save
          deliveries := w.deliveries.set i { d with stage := x.stage }
          mails := (x.mail.map fun t => ⟨d.event, t, decide (d.campaignID ∈ w.closed)⟩).toList ++ w.mails }
  | .crash i =>
    w.deliveries[i]?.map fun d => { w with deliveries := w.deliveries.set i { d with stage := .returned true } }
  | .complete campaignID => some { w with completions := w.completions ++ [{ campaignID }] }
  | .finish i o now =>
    w.completions[i]?.bind fun k =>
      (completeCampaign (w.store.loadCampaign k.campaignID) now k.stage o).map fun x =>
        { w with
          store := w.store.saves x.save
          completions := w.completions.set i { k with stage := x.stage }
          closed := if x.closes then k.campaignID :: w.closed else w.closed }

/-- **The contract.** Once `CompleteCampaign` has returned nil, the campaign is neither sending nor active again and no
mail of it is sent; and no target of an event gets two mails for it. -/
structure Finished (w : World) : Prop where
  stays : ∀ id ∈ w.closed, ∀ c ∈ w.store.loadCampaign id, c.status ≠ .sending ∧ c.status ≠ .active
  silent : ∀ m ∈ w.mails, m.late = false
  once : (w.mails.map fun m => (m.event, m.target)).Nodup

/-- The condition on a step: no completed campaign is loaded for a send, none is completed while a send of it is under
way, and an event with different targets is delivered again only while nobody has been mailed for it and no other
delivery of it can. -/
def KeepsApart (w : World) : Event → Prop
  | .deliver event => ∀ payload ∈ w.events[event]?, ∀ x ∈ handleSimulationSend payload, x.2.Nodup ∧
      (∀ d ∈ w.deliveries, d.event = event → d.stage.ahead = []) ∧ ∀ m ∈ w.mails, m.event ≠ event
  | .send i o _ => o = .done → ∀ d ∈ w.deliveries[i]?, d.stage.isLoad = true → d.campaignID ∉ w.closed
  | .finish i o _ => o = .done → ∀ k ∈ w.completions[i]?,
      k.stage.closing (w.store.loadCampaign k.campaignID) = true →
        ∀ d ∈ w.deliveries, d.campaignID = k.campaignID → d.stage.copy = none
  | _ => True

section Decidable

instance : DecidablePred Finished := fun w =>
  decidable_of_iff ((∀ id ∈ w.closed, ∀ c ∈ w.store.loadCampaign id, c.status ≠ .sending ∧ c.status ≠ .active) ∧
    (∀ m ∈ w.mails, m.late = false) ∧ (w.mails.map fun m => (m.event, m.target)).Nodup)
    ⟨fun h => ⟨h.1, h.2.1, h.2.2⟩, fun h => ⟨h.stays, h.silent, h.once⟩⟩

instance (w : World) : ∀ e, Decidable (KeepsApart w e)
  | .deliver event => inferInstanceAs (Decidable (∀ payload ∈ w.events[event]?, _))
  | .send _ o _ => inferInstanceAs (Decidable (o = .done → _))
  | .finish _ o _ => inferInstanceAs (Decidable (o = .done → _))
  | .create _ _ | .publish _ | .crash _ | .complete _ => isTrue trivial

end Decidable

/-! ### What the store, the calls and the mails have -/

/-- Of two deliveries of an event, one has nobody to mail. -/
def Delivery.Apart (d d' : Delivery) : Prop := d.event = d'.event → d.stage.ahead = [] ∨ d'.stage.ahead = []

/-- The invariant. -/
structure Kept (w : World) : Prop where
  ended : ∀ id ∈ w.closed, ∃ c, w.store.loadCampaign id = some c ∧ c.status.Over
  copies : ∀ d ∈ w.deliveries, ∀ c, d.stage.copy = some c → c.campaignID = d.campaignID ∧ d.campaignID ∉ w.closed
  completing : ∀ k ∈ w.completions, ∀ c, k.stage = .save c → c.campaignID = k.campaignID ∧ c.status = .completed
  silent : ∀ m ∈ w.mails, m.late = false
  once : (w.mails.map fun m => (m.event, m.target)).Nodup
  fresh : ∀ d ∈ w.deliveries, d.stage.ahead.Nodup ∧ ∀ m ∈ w.mails, m.event = d.event → m.target ∉ d.stage.ahead
  apart : w.deliveries.Pairwise Delivery.Apart

/-- What a step of `SendSimulation` does. -/
structure Sends (stored : Option Campaign) (stage : SendStage) (o : Outcome) (x : Effect SendStage) : Prop where
  copy : ∀ c, x.stage.copy = some c → ∃ c₀, c.campaignID = c₀.campaignID ∧
    (stage.copy = some c₀ ∨ o = .done ∧ stage.isLoad = true ∧ stored = some c₀)
  save : ∀ c, x.save = some c → ∃ c₀, c.campaignID = c₀.campaignID ∧ stage.copy = some c₀
  mail : (x.mail = none ∧ x.stage.ahead <:+ stage.ahead) ∨
    ∃ t, x.mail = some t ∧ stage.ahead = t :: x.stage.ahead ∧ ∃ c₀, stage.copy = some c₀

variable {e} {w w' : World}

lemma sendSimulation_sends {stored : Option Campaign} {now : ℕ} {stage : SendStage} {o : Outcome}
    {x : Effect SendStage} (h : e.sendSimulation stored now stage o = some x) : Sends stored stage o x := by
  unfold SimulationEngine.sendSimulation at h
  split at h
  · -- the load
    cases h
    cases stored with
    | none => exact ⟨by simp [SendStage.copy], by simp, Or.inl ⟨rfl, List.nil_suffix⟩⟩
    | some c =>
      refine ⟨fun c' hc' => ?_, by simp, Or.inl ⟨rfl, List.suffix_rfl⟩⟩
      cases hc'
      exact ⟨c, rfl, Or.inr ⟨rfl, rfl, rfl⟩⟩
  · cases h
    exact ⟨by simp [SendStage.copy], by simp, Or.inl ⟨rfl, List.nil_suffix⟩⟩
  · next c targets =>
    cases h
    exact ⟨fun c' hc' => ⟨c', rfl, Or.inl hc'⟩, fun c' hc' => ⟨c', rfl, hc'⟩, Or.inl ⟨rfl, List.suffix_rfl⟩⟩
  · next c targets performed =>
    cases h
    refine ⟨by simp [SendStage.copy], fun c' hc' => ⟨c, ?_, rfl⟩, Or.inl ⟨rfl, List.nil_suffix⟩⟩
    cases performed <;> cases hc'
    rfl
  · next c =>
    -- the last write
    cases h
    refine ⟨by simp [SendStage.copy], fun c' hc' => ⟨c, ?_, rfl⟩, Or.inl ⟨rfl, List.nil_suffix⟩⟩
    cases hc'
    rfl
  · next c performed =>
    cases h
    refine ⟨by simp [SendStage.copy], fun c' hc' => ⟨c, ?_, rfl⟩, Or.inl ⟨rfl, List.nil_suffix⟩⟩
    cases performed <;> cases hc'
    rfl
  · next c t left =>
    -- a mail
    cases h
    refine ⟨fun c' hc' => ⟨c, ?_, Or.inl rfl⟩, by simp, ?_⟩
    · cases hc'
      rfl
    · cases e.sender with
      | false => exact Or.inl ⟨rfl, List.suffix_cons t left⟩
      | true => exact Or.inr ⟨t, rfl, rfl, c, rfl⟩
  · next c t left performed =>
    rw [Option.ite_none_right_eq_some] at h
    obtain ⟨-, h⟩ := h
    cases h
    refine ⟨fun c' hc' => ⟨c', rfl, Or.inl hc'⟩, by simp, ?_⟩
    cases performed with
    | false => exact Or.inl ⟨rfl, List.suffix_cons t left⟩
    | true => exact Or.inr ⟨t, rfl, rfl, c, rfl⟩
  · next c t left =>
    cases h
    exact ⟨fun c' hc' => ⟨c', rfl, Or.inl hc'⟩, by simp, Or.inl ⟨rfl, List.suffix_cons t left⟩⟩
  · cases h

/-- What a step of `CompleteCampaign` does. -/
structure Completes (stored : Option Campaign) (stage : CompleteStage) (o : Outcome) (x : Effect CompleteStage) :
    Prop where
  next : ∀ c, x.stage = .save c → c.status = .completed ∧ ∃ c₀, c.campaignID = c₀.campaignID ∧ stored = some c₀
  save : ∀ c, x.save = some c → stage = .save c
  closes : x.closes = true → o = .done ∧ stage.closing stored = true ∧
    ((∃ c, stored = some c ∧ c.status.Over ∧ x.save = none) ∨ ∃ c, x.save = some c)

lemma completeCampaign_completes {stored : Option Campaign} {now : ℕ} {stage : CompleteStage} {o : Outcome}
    {x : Effect CompleteStage} (h : completeCampaign stored now stage o = some x) : Completes stored stage o x := by
  unfold completeCampaign at h
  split at h
  · cases stored with
    | none =>
      cases h
      exact ⟨by simp, by simp, by simp⟩
    | some c =>
      simp only at h
      split_ifs at h with hover <;> cases h
      · refine ⟨by simp, by simp, fun _ => ⟨rfl, ?_, Or.inl ⟨c, rfl, hover, rfl⟩⟩⟩
        simpa [CompleteStage.closing] using hover
      · refine ⟨fun c' hc' => ?_, by simp, by simp⟩
        cases hc'
        exact ⟨rfl, c, rfl, rfl⟩
  · cases h
    exact ⟨by simp, by simp, by simp⟩
  · next c =>
    cases h
    exact ⟨by simp, fun c' hc' => by rw [Option.some.inj hc'], fun _ => ⟨rfl, rfl, Or.inr ⟨c, rfl⟩⟩⟩
  · next c performed =>
    cases h
    refine ⟨by simp, fun c' hc' => ?_, by simp⟩
    cases performed <;> cases hc'
    rfl
  · cases h

lemma CampaignStore.loadCampaign_saves {st : CampaignStore} {c : Option Campaign} {id : String}
    (h : ∀ d, c = some d → d.campaignID ≠ id) : (st.saves c).loadCampaign id = st.loadCampaign id := by
  cases c with
  | none => rfl
  | some d => exact Function.update_of_ne (h d rfl).symm _ _

lemma CampaignStore.loadCampaign_saves_self (st : CampaignStore) (c : Campaign) :
    (st.saves (some c)).loadCampaign c.campaignID = some c := Function.update_self _ _ _

lemma Delivery.Apart.symm {d d' : Delivery} (h : d.Apart d') : d'.Apart d := fun he => (h he.symm).symm

/-- A delivery goes on: it has nobody to mail whom it did not have before. -/
lemma Delivery.Apart.mono {d d' x : Delivery} (h : d.Apart x) (hevent : d'.event = d.event)
    (hahead : d'.stage.ahead <:+ d.stage.ahead) : d'.Apart x := by
  intro he
  rcases h (hevent ▸ he) with hnil | hnil
  · rw [hnil] at hahead
    exact Or.inl (List.suffix_nil.mp hahead)
  · exact Or.inr hnil

namespace Kept

lemma finished (h : Kept w) : Finished w where
  stays id hid c hc := by
    obtain ⟨c', hc', hover⟩ := h.ended id hid
    obtain rfl : c' = c := Option.some.inj (hc'.symm.trans hc)
    rcases hover with hstatus | hstatus <;> simp [hstatus]
  silent := h.silent
  once := h.once

/-- A send has a copy of its own campaign only, and that one is not completed. -/
lemma copies_send (h : Kept w) {d : Delivery} (hd : d ∈ w.deliveries) {o : Outcome} {x : Effect SendStage}
    (hx : Sends (w.store.loadCampaign d.campaignID) d.stage o x)
    (hC : o = .done → d.stage.isLoad = true → d.campaignID ∉ w.closed) (c : Campaign) (hc : x.stage.copy = some c) :
    c.campaignID = d.campaignID ∧ d.campaignID ∉ w.closed := by
  obtain ⟨c₀, hid, hc₀ | ⟨ho, hload, hstored⟩⟩ := hx.copy c hc
  · obtain ⟨hid₀, hopen⟩ := h.copies d hd c₀ hc₀
    exact ⟨hid.trans hid₀, hopen⟩
  · exact ⟨hid.trans (w.store.keyed _ _ hstored), hC ho hload⟩

/-- What it writes is not a completed campaign. -/
lemma over_send (h : Kept w) {d : Delivery} (hd : d ∈ w.deliveries) {o : Outcome} {x : Effect SendStage}
    (hx : Sends (w.store.loadCampaign d.campaignID) d.stage o x) :
    ∀ id ∈ w.closed, ∃ c, (w.store.saves x.save).loadCampaign id = some c ∧ c.status.Over := by
  intro id hid
  rw [CampaignStore.loadCampaign_saves]
  · exact h.ended id hid
  · rintro c hc rfl
    obtain ⟨c₀, hc₀, hcopy⟩ := hx.save c hc
    obtain ⟨hid₀, hopen⟩ := h.copies d hd c₀ hcopy
    rw [hc₀, hid₀] at hid
    exact hopen hid

/-- **A step of a send keeps it.** -/
lemma send (h : Kept w) {i : ℕ} {d : Delivery} (hi : w.deliveries[i]? = some d) {o : Outcome} {x : Effect SendStage}
    (hx : Sends (w.store.loadCampaign d.campaignID) d.stage o x)
    (hC : o = .done → d.stage.isLoad = true → d.campaignID ∉ w.closed) :
    Kept { w with
      store := w.store.saves x.save
      deliveries := w.deliveries.set i { d with stage := x.stage }
      mails := (x.mail.map fun t => ⟨d.event, t, decide (d.campaignID ∈ w.closed)⟩).toList ++ w.mails } := by
  have hd := List.mem_of_getElem? hi
  obtain ⟨hnodup, hmailed⟩ := h.fresh d hd
  have hcopies : ∀ y ∈ w.deliveries.set i { d with stage := x.stage }, ∀ c, y.stage.copy = some c →
      c.campaignID = y.campaignID ∧ y.campaignID ∉ w.closed := by
    intro y hy
    rcases List.mem_or_eq_of_mem_set hy with hy | rfl
    · exact h.copies y hy
    · exact h.copies_send hd hx hC
  have hapart : x.stage.ahead <:+ d.stage.ahead →
      (w.deliveries.set i { d with stage := x.stage }).Pairwise Delivery.Apart := by
    intro hsuffix
    have hmono : ∀ y, d.Apart y → Delivery.Apart { d with stage := x.stage } y := fun y hy => hy.mono rfl hsuffix
    exact Tracker.pairwise_set hi (fun y _ => hmono y) (fun y _ hy => (hmono y hy.symm).symm) h.apart
  rcases hx.mail with ⟨hmail, hsuffix⟩ | ⟨t, hmail, hahead, c₀, hcopy⟩
  · -- nobody is mailed
    rw [hmail]
    refine ⟨h.over_send hd hx, hcopies, h.completing, h.silent, h.once, fun y hy => ?_, hapart hsuffix⟩
    rcases List.mem_or_eq_of_mem_set hy with hy | rfl
    · exact h.fresh y hy
    · exact ⟨hnodup.sublist hsuffix.sublist, fun m hm he ht => hmailed m hm he (hsuffix.subset ht)⟩
  · have hsuffix : x.stage.ahead <:+ d.stage.ahead := by
      rw [hahead]
      exact List.suffix_cons _ _
    have hopen : d.campaignID ∉ w.closed := (h.copies d hd c₀ hcopy).2
    rw [hahead] at hnodup hmailed
    obtain ⟨ht, hnodup⟩ := List.nodup_cons.mp hnodup
    rw [hmail]
    refine ⟨h.over_send hd hx, hcopies, h.completing, fun m hm => ?_, ?_, fun y hy => ?_, hapart hsuffix⟩
    · rcases List.mem_cons.mp hm with rfl | hm
      · exact decide_eq_false hopen
      · exact h.silent m hm
    · refine List.nodup_cons.mpr ⟨fun hmem => ?_, h.once⟩
      obtain ⟨m, hm, hkey⟩ := List.mem_map.mp hmem
      obtain ⟨hevent, htarget⟩ := Prod.mk.inj hkey
      exact hmailed m hm hevent (htarget ▸ List.mem_cons_self)
    · rcases Tracker.eq_or_rel_of_mem_set (fun _ _ => Delivery.Apart.symm) hi h.apart hy with rfl | ⟨hy, hrel⟩
      · refine ⟨hnodup, fun m hm he => ?_⟩
        rcases List.mem_cons.mp hm with rfl | hm
        · exact ht
        · exact fun hin => hmailed m hm he (List.mem_cons_of_mem _ hin)
      · refine ⟨(h.fresh y hy).1, fun m hm he => ?_⟩
        rcases List.mem_cons.mp hm with rfl | hm
        · -- another delivery of the event has nobody to mail
          rcases hrel he with hnil | hnil
          · rw [hahead] at hnil
            cases hnil
          · rw [hnil]
            exact List.not_mem_nil
        · exact (h.fresh y hy).2 m hm he

/-- **A step of a completion keeps it.** -/
lemma finish (h : Kept w) {i : ℕ} {k : Completion} (hi : w.completions[i]? = some k) {o : Outcome}
    {x : Effect CompleteStage} (hx : Completes (w.store.loadCampaign k.campaignID) k.stage o x)
    (hC : o = .done → k.stage.closing (w.store.loadCampaign k.campaignID) = true →
      ∀ d ∈ w.deliveries, d.campaignID = k.campaignID → d.stage.copy = none) :
    Kept { w with
      store := w.store.saves x.save
      completions := w.completions.set i { k with stage := x.stage }
      closed := if x.closes then k.campaignID :: w.closed else w.closed } := by
  have hk := List.mem_of_getElem? hi
  have hsave : ∀ c, x.save = some c → c.campaignID = k.campaignID ∧ c.status = .completed :=
    fun c hc => h.completing k hk c (hx.save c hc)
  -- a write completes the campaign
  have hstored : ∀ id, (∃ c, w.store.loadCampaign id = some c ∧ c.status.Over) →
      ∃ c, (w.store.saves x.save).loadCampaign id = some c ∧ c.status.Over := by
    intro id hid
    by_cases hsaved : ∃ c, x.save = some c ∧ c.campaignID = id
    · obtain ⟨c, hc, rfl⟩ := hsaved
      rw [hc]
      exact ⟨c, w.store.loadCampaign_saves_self c, Or.inl (hsave c hc).2⟩
    · rw [CampaignStore.loadCampaign_saves fun c hc hid => hsaved ⟨c, hc, hid⟩]
      exact hid
  refine ⟨fun id hid => ?_, fun d hd c hc => ?_, fun y hy c hc => ?_, h.silent, h.once, h.fresh, h.apart⟩
  · cases hcloses : x.closes with
    | false =>
      simp only [hcloses] at hid
      exact hstored id (h.ended id hid)
    | true =>
      simp only [hcloses, if_true] at hid
      rcases List.mem_cons.mp hid with rfl | hid
      · obtain ⟨-, -, ⟨c, hc, hover, -⟩ | ⟨c, hc⟩⟩ := hx.closes hcloses
        · exact hstored _ ⟨c, hc, hover⟩
        · refine ⟨c, ?_, Or.inl (hsave c hc).2⟩
          rw [hc, ← (hsave c hc).1]
          exact w.store.loadCampaign_saves_self c
      · exact hstored id (h.ended id hid)
  · obtain ⟨hid, hopen⟩ := h.copies d hd c hc
    refine ⟨hid, ?_⟩
    cases hcloses : x.closes with
    | false => simpa using hopen
    | true =>
      obtain ⟨ho, hclosing, -⟩ := hx.closes hcloses
      have hne : d.campaignID ≠ k.campaignID := by
        intro heq
        rw [hC ho hclosing d hd heq] at hc
        cases hc
      simp [hne, hopen]
  · rcases List.mem_or_eq_of_mem_set hy with hy | rfl
    · exact h.completing y hy c hc
    · obtain ⟨hstatus, c₀, hid, hc₀⟩ := hx.next c hc
      exact ⟨hid.trans (w.store.keyed _ _ hc₀), hstatus⟩

/-- A new delivery. -/
lemma deliver (h : Kept w) {event : ℕ} {campaignID : String} {targets : List SimulationTarget} (hnodup : targets.Nodup)
    (hapart : ∀ d ∈ w.deliveries, d.event = event → d.stage.ahead = []) (hmails : ∀ m ∈ w.mails, m.event ≠ event) :
    Kept { w with deliveries := w.deliveries ++ [{ event, campaignID, stage := .load targets }] } := by
  refine ⟨h.ended, fun d hd c hc => ?_, h.completing, h.silent, h.once, fun d hd => ?_, ?_⟩
  · rcases List.mem_append.mp hd with hd | hd
    · exact h.copies d hd c hc
    · obtain rfl := List.mem_singleton.mp hd
      cases hc
  · rcases List.mem_append.mp hd with hd | hd
    · exact h.fresh d hd
    · obtain rfl := List.mem_singleton.mp hd
      exact ⟨hnodup, fun m hm he => absurd he (hmails m hm)⟩
  · refine List.pairwise_append.mpr ⟨h.apart, List.pairwise_singleton _ _, fun d hd y hy he => ?_⟩
    obtain rfl := List.mem_singleton.mp hy
    exact Or.inl (hapart d hd he)

/-- A delivery is lost. -/
lemma crash (h : Kept w) {i : ℕ} {d : Delivery} (hi : w.deliveries[i]? = some d) :
    Kept { w with deliveries := w.deliveries.set i { d with stage := .returned true } } := by
  refine ⟨h.ended, fun y hy c hc => ?_, h.completing, h.silent, h.once, fun y hy => ?_, ?_⟩
  · rcases List.mem_or_eq_of_mem_set hy with hy | rfl
    · exact h.copies y hy c hc
    · cases hc
  · rcases List.mem_or_eq_of_mem_set hy with hy | rfl
    · exact h.fresh y hy
    · exact ⟨List.nodup_nil, fun _ _ _ => List.not_mem_nil⟩
  · exact Tracker.pairwise_set hi (fun _ _ _ _ => Or.inl rfl) (fun _ _ _ _ => Or.inr rfl) h.apart

/-- **Every step keeps it.** -/
lemma step (h : Kept w) {ev : Event} (hC : KeepsApart w ev) (hstep : e.step w ev = some w') : Kept w' := by
  cases ev with
  | create id n =>
    obtain ⟨hnone, heq⟩ := Option.ite_none_right_eq_some.mp hstep
    cases heq
    refine ⟨fun id' hid => ?_, h.copies, h.completing, h.silent, h.once, h.fresh, h.apart⟩
    obtain ⟨c, hc, hover⟩ := h.ended id' hid
    have hne : id' ≠ id := by
      rintro rfl
      rw [hnone] at hc
      cases hc
    exact ⟨c, (Function.update_of_ne hne _ _).trans hc, hover⟩
  | publish payload =>
    cases hstep
    exact ⟨h.ended, h.copies, h.completing, h.silent, h.once, h.fresh, h.apart⟩
  | deliver event =>
    obtain ⟨payload, hpayload, rfl⟩ := Option.map_eq_some_iff.mp hstep
    cases hsend : handleSimulationSend payload with
    | none => exact h
    | some x =>
      obtain ⟨hnodup, hapart, hmails⟩ := hC payload hpayload x hsend
      exact h.deliver hnodup hapart hmails
  | send i o now =>
    obtain ⟨d, hi, hmap⟩ := Option.bind_eq_some_iff.mp hstep
    obtain ⟨x, hx, rfl⟩ := Option.map_eq_some_iff.mp hmap
    exact h.send hi (sendSimulation_sends hx) fun ho hload => hC ho d hi hload
  | crash i =>
    obtain ⟨d, hi, rfl⟩ := Option.map_eq_some_iff.mp hstep
    exact h.crash hi
  | complete id =>
    cases hstep
    refine ⟨h.ended, h.copies, fun k hk c hc => ?_, h.silent, h.once, h.fresh, h.apart⟩
    rcases List.mem_append.mp hk with hk | hk
    · exact h.completing k hk c hc
    · obtain rfl := List.mem_singleton.mp hk
      cases hc
  | finish i o now =>
    obtain ⟨k, hi, hmap⟩ := Option.bind_eq_some_iff.mp hstep
    obtain ⟨x, hx, rfl⟩ := Option.map_eq_some_iff.mp hmap
    exact h.finish hi (completeCampaign_completes hx) fun ho hclosing => hC ho k hi hclosing

end Kept

lemma kept_start (st : CampaignStore) : Kept { store := st } where
  ended _ h := by cases h
  copies _ h := by cases h
  completing _ h := by cases h
  silent _ h := by cases h
  once := List.nodup_nil
  fresh _ h := by cases h
  apart := List.Pairwise.nil

/-- **Finished campaigns stay finished and nobody is mailed twice**, in every run, from any store, in which no send of a
campaign runs into its completion and no event is delivered again after a mail. -/
theorem completed_campaigns_stay (e : SimulationEngine) (st : CampaignStore) (es : List Event)
    (h : Lts.Meets e.step KeepsApart { store := st } es) : Lts.Throughout e.step Finished { store := st } es :=
  Lts.throughout_of_meets (fun _ _ _ hk hC hstep => hk.step hC hstep) (fun _ hk => hk.finished) (kept_start st) h

def CampaignStore.empty : CampaignStore := ⟨fun _ => none, fun _ _ h => by cases h⟩

/-- A campaign, and an event that sends it to two mailboxes. -/
def sendTwo : List Event :=
  [.create "camp" 2, .publish (some ⟨"camp", [⟨"u", "u@x", ""⟩, ⟨"v", "v@x", ""⟩]⟩), .deliver 0, .send 0 .done 1,
    .send 0 .done 2]

/-- The first delivery fails at its load; the second one sends, and then the campaign is completed. -/
theorem completed_campaign_stays :
    Lts.Throughout (SimulationEngine.step ⟨true⟩) Finished { store := .empty }
      [.create "camp" 2, .publish (some ⟨"camp", [⟨"u", "u@x", ""⟩, ⟨"v", "v@x", ""⟩]⟩), .deliver 0,
        .send 0 (.failed false) 1, .deliver 0, .send 1 .done 2, .send 1 .done 3, .send 1 .done 4, .send 1 .done 5,
        .send 1 .done 6, .complete "camp", .finish 0 .done 7, .finish 0 .done 8] :=
  completed_campaigns_stay ⟨true⟩ .empty _ (by decide)

/-- A campaign that is completed during a send is active again after its last write, or gets another mail, and an event
whose last write has failed is delivered again and mails the first target twice. -/
theorem completed_campaign_reopens :
    ¬ Lts.Throughout (SimulationEngine.step ⟨true⟩) Finished { store := .empty }
        (sendTwo ++ [.send 0 .done 3, .complete "camp", .finish 0 .done 4, .finish 0 .done 5, .send 0 (.failed false) 6,
          .send 0 .done 7]) ∧
      ¬ Lts.Throughout (SimulationEngine.step ⟨true⟩) Finished { store := .empty }
        (sendTwo ++ [.complete "camp", .finish 0 .done 3, .finish 0 .done 4, .send 0 .done 5]) ∧
      ¬ Lts.Throughout (SimulationEngine.step ⟨true⟩) Finished { store := .empty }
        (sendTwo ++ [.send 0 .done 3, .send 0 .done 4, .send 0 (.failed false) 5, .deliver 0, .send 1 .done 6,
          .send 1 .done 7, .send 1 .done 8]) := by
  decide

end Sn360Es.Education
