import Sn360Es.Handler.Vendor
import Sn360Es.Lib.Phase

/-!
# The weekly vendor job (`VendorJob.Run` of `internal/service/worker/relationship_worker.go`)

A cycle walks the tenants, asks `VendorDiscovery` for proposals, and writes a row for each of them without reading the
one that is there. Requests of administrators and cycles run concurrently, operation by operation.

* `keeps_run`, `keeps_serveDecision` — what a cycle and a request do to the decisions;
* `vendor_decisions_survive` — every vendor is as it was last decided, in every run in which the proposals of the cycles
  agree with the decisions made so far;
* `revoked_vendor_approved_again` — one in which they do not.
-/

namespace Sn360Es.Worker

open Lib Relationship Handler

/-- `VendorJob`: the discovery service, the window, and whether there is a repository to write to. -/
structure VendorJob where
  discovery : VendorDiscovery
  window : ℤ := 30 * day
  hasRepository : Bool := true

namespace VendorJob

variable (j : VendorJob)

/-- The row that a cycle writes for a proposal. -/
def proposedVendor (tenantID : String) (p : VendorProposal) (now : ℤ) : Vendor where
  tenantID := tenantID
  domain := p.domain
  autoDiscovered := true
  approved := p.autoApprove
  confidence := p.confidence
  lastSeenAt := now

/-- The writes of one tenant: the first error. -/
def upsertProposals (tenantID : String) : List VendorProposal → VendorM (Option String)
  | [] => return none
  | p :: ps => do
    let now ← Prog.perform VendorOp.now
    let err ← Prog.perform (VendorOp.upsert .discovered (proposedVendor tenantID p now))
    let rest ← upsertProposals tenantID ps
    return err <|> rest

/-- One tenant: the first error. -/
def runTenant (since : ℤ) (tenantID : String) : VendorM (Option String) := do
  match ← Prog.perform (VendorOp.listByTenant tenantID since) with
  | .error err => return some err
  | .ok rows =>
    match j.discovery.propose tenantID (j.discovery.buildSenderObservations rows) with
    | .error err => return some err
    | .ok props => if j.hasRepository then upsertProposals tenantID props else return none

/-- The tenants of the batches: the first error, and the error that ends the iteration if the job is cancelled. -/
def runTenants (since : ℤ) : List String → VendorM (Option String × Option String)
  | [] => return (none, none)
  | t :: ts => do
    match ← Prog.perform VendorOp.ctxErr with
    | some err => return (none, some err)
    | none =>
      let first ← j.runTenant since t
      let rest ← runTenants since ts
      return (first <|> rest.1, rest.2)

/-- `VendorJob.Run`. -/
def run : VendorM (Option String) := do
  let now ← Prog.perform VendorOp.now
  let active ← Prog.perform VendorOp.iterateActive
  let errs ← j.runTenants (now - j.window) active.1
  return errs.1 <|> errs.2 <|> active.2

end VendorJob

/-! ### Requests and cycles -/

/-- What runs: a request, or a cycle of the job. -/
inductive VendorCall where
  | create (r : VendorRequest)
  | approve (r : VendorRequest)
  | revoke (r : VendorRequest)
  | delete (r : VendorRequest)
  | cycle

/-- What a call returns: a response, or the error of a cycle. -/
inductive VendorResult where
  | response (r : VendorResponse)
  | cycled (err : Option String)
  deriving DecidableEq, Repr

def VendorCall.body (h : VendorHandler) (j : VendorJob) : VendorCall → VendorM VendorResult
  | .create r => VendorResult.response <$> h.serveCreate r
  | .approve r => VendorResult.response <$> h.serveApprove r
  | .revoke r => VendorResult.response <$> h.serveRevoke r
  | .delete r => VendorResult.response <$> h.serveDelete r
  | .cycle => VendorResult.cycled <$> j.run

abbrev VendorPool := Pool VendorOp VendorOp.Ans VendorResult VendorWorld

def vendorStep (h : VendorHandler) (j : VendorJob) : VendorPool → Pool.Label VendorCall VendorEnv → Option VendorPool :=
  Pool.step VendorOp.exec (VendorCall.body h j)

/-- The condition on a step: a row that the job writes agrees with the last decision about the vendor. -/
def Agrees (w : VendorWorld) : VendorOp → Prop
  | .upsert .discovered v => ∀ approved ∈ lastDecision v.tenantID v.domain w.journal, v.approved = approved
  | _ => True

instance (w : VendorWorld) : ∀ o : VendorOp, Decidable (Agrees w o)
  | .upsert .discovered v =>
    inferInstanceAs (Decidable (∀ approved ∈ lastDecision v.tenantID v.domain w.journal, v.approved = approved))
  | .upsert .created _ => isTrue trivial
  | .upsert (.decided _) _ => isTrue trivial
  | .getByDomain _ _ => isTrue trivial
  | .delete _ _ => isTrue trivial
  | .now => isTrue trivial
  | .iterateActive => isTrue trivial
  | .ctxErr => isTrue trivial
  | .listByTenant _ _ => isTrue trivial

/-- Nothing is known of a call but that it keeps the books. -/
def vendorTracker : Tracker VendorOp VendorOp.Ans VendorWorld VendorEnv Unit where
  exec := VendorOp.exec
  start := ()
  next _ _ _ := ()
  allows w _ _ o _ := Agrees w o
  inv w _ := w.Keyed ∧ w.Decided

instance (w : VendorWorld) (gs : List Unit) (n : ℕ) (o : VendorOp) (e : VendorEnv) :
    Decidable (vendorTracker.allows w gs n o e) :=
  inferInstanceAs (Decidable (Agrees w o))

section Keeps

variable {w : VendorWorld} {v : Vendor} {writer : VendorWriter}

lemma lastDecision_put_other {t d : String} (h : ¬ (v.tenantID = t ∧ v.domain = d)) :
    lastDecision t d (w.put writer v).journal = lastDecision t d w.journal := by
  simp only [VendorWorld.put, lastDecision, if_neg h]

lemma put_other {t d : String} (h : ¬ (v.tenantID = t ∧ v.domain = d)) :
    (w.put writer v).vendors t d = w.vendors t d :=
  if_neg fun h' => h ⟨h'.1.symm, h'.2.symm⟩

lemma put_keyed (h : w.Keyed) : (w.put writer v).Keyed := by
  intro t d v' hv'
  by_cases hkey : v.tenantID = t ∧ v.domain = d
  · obtain ⟨rfl, rfl⟩ := hkey
    simp only [VendorWorld.put, and_self, if_true, Option.some.injEq] at hv'
    subst hv'
    exact ⟨rfl, rfl⟩
  · rw [put_other hkey] at hv'
    exact h t d v' hv'

/-- A write keeps the decisions if it does not contradict the one about its own vendor. -/
lemma put_decided (h : w.Decided)
    (hown : ∀ approved ∈ lastDecision v.tenantID v.domain (w.put writer v).journal, v.approved = approved) :
    (w.put writer v).Decided := by
  intro t d approved hlast
  by_cases hkey : v.tenantID = t ∧ v.domain = d
  · obtain ⟨rfl, rfl⟩ := hkey
    exact ⟨v, if_pos ⟨rfl, rfl⟩, hown approved hlast⟩
  · rw [lastDecision_put_other hkey] at hlast
    rw [put_other hkey]
    exact h t d approved hlast

lemma remove_keyed (h : w.Keyed) (tenantID domain : String) : (w.remove tenantID domain).Keyed := by
  intro t d v' hv'
  by_cases hkey : t = tenantID ∧ d = domain
  · simp only [VendorWorld.remove, if_pos hkey] at hv'
    cases hv'
  · simp only [VendorWorld.remove, if_neg hkey] at hv'
    exact h t d v' hv'

lemma remove_decided (h : w.Decided) (tenantID domain : String) : (w.remove tenantID domain).Decided := by
  intro t d approved hlast
  by_cases hkey : tenantID = t ∧ domain = d
  · simp only [VendorWorld.remove, lastDecision, if_pos hkey] at hlast
    cases hlast
  · simp only [VendorWorld.remove, lastDecision, if_neg hkey] at hlast
    obtain ⟨v', hv', happ⟩ := h t d approved hlast
    exact ⟨v', (if_neg fun h' => hkey ⟨h'.1.symm, h'.2.symm⟩).trans hv', happ⟩

/-- A write that decides writes what it decides. -/
def WriteOk : VendorOp → Prop
  | .upsert (.decided approved) v => v.approved = approved
  | _ => True

/-- **What an operation does to the decisions.** -/
lemma keeps_op {o : VendorOp} (hok : WriteOk o) : vendorTracker.Keeps (.perform o) () fun _ _ => True := by
  refine Tracker.keeps_perform fun e w gs n hinv _ hagrees a w' hexec => ⟨?_, trivial⟩
  obtain ⟨hkeyed, hdecided⟩ := hinv
  cases o with
  | getByDomain tenantID domain =>
    cases hexec
    exact ⟨hkeyed, hdecided⟩
  | now =>
    cases hexec
    exact ⟨hkeyed, hdecided⟩
  | iterateActive =>
    cases hexec
    exact ⟨hkeyed, hdecided⟩
  | ctxErr =>
    cases hexec
    exact ⟨hkeyed, hdecided⟩
  | listByTenant tenantID since =>
    cases hexec
    exact ⟨hkeyed, hdecided⟩
  | delete tenantID domain =>
    cases hexec
    by_cases hfail : e.fail = none
    · simp only [hfail, if_true]
      exact ⟨remove_keyed hkeyed _ _, remove_decided hdecided _ _⟩
    · simp only [hfail, if_false]
      exact ⟨hkeyed, hdecided⟩
  | upsert writer v =>
    cases hexec
    by_cases hfail : e.fail = none
    · simp only [hfail, if_true]
      refine ⟨put_keyed hkeyed, put_decided hdecided fun approved hlast => ?_⟩
      simp only [VendorWorld.put, lastDecision, and_self, if_true] at hlast
      cases writer with
      | created => cases hlast
      | decided b =>
        cases hlast
        exact hok
      | discovered => exact hagrees approved hlast
    · simp only [hfail, if_false]
      exact ⟨hkeyed, hdecided⟩

/-! ### The programs -/

variable {α β : Type}

/-- The program keeps the books. -/
def KeepsDecisions (p : VendorM α) : Prop := vendorTracker.Keeps p () fun _ _ => True

lemma KeepsDecisions.bind {p : VendorM α} {f : α → VendorM β} (hp : KeepsDecisions p) (hf : ∀ a, KeepsDecisions (f a)) :
    KeepsDecisions (p >>= f) :=
  Tracker.Keeps.bind (hp.mono fun a _ _ => hf a)

lemma keepsDecisions_pure (a : α) : KeepsDecisions (pure a : VendorM α) := trivial

variable {h : VendorHandler} {j : VendorJob}

lemma keeps_serveCreate (r : VendorRequest) : KeepsDecisions (h.serveCreate r) := by
  unfold VendorHandler.serveCreate
  split
  · trivial
  · cases r.create with
    | none => trivial
    | some req =>
      simp only
      split
      · trivial
      · refine KeepsDecisions.bind (keeps_op trivial) fun now => KeepsDecisions.bind (keeps_op trivial) fun res => ?_
        cases res <;> trivial

lemma keeps_serveDecision (suffix : String) (approved : Bool) (r : VendorRequest) :
    KeepsDecisions (h.serveDecision suffix approved r) := by
  unfold VendorHandler.serveDecision
  split
  · exact keepsDecisions_pure _
  · simp only
    generalize h.extractVendorDomain r.path suffix = domain
    split
    · exact keepsDecisions_pure _
    · cases r.tenantID with
      | none => trivial
      | some tenantID =>
        simp only
        split
        · trivial
        · refine KeepsDecisions.bind (keeps_op trivial) fun res => ?_
          cases res with
          | error err => trivial
          | ok row =>
            -- the row that is written back differs from the one read in the decision
            refine KeepsDecisions.bind (keeps_op rfl) fun res => ?_
            cases res <;> trivial

lemma keeps_serveDelete (r : VendorRequest) : KeepsDecisions (h.serveDelete r) := by
  unfold VendorHandler.serveDelete
  split
  · exact keepsDecisions_pure _
  · simp only
    generalize h.extractVendorDomainForDelete r.path = domain
    split
    · exact keepsDecisions_pure _
    · cases r.tenantID with
      | none => trivial
      | some tenantID =>
        simp only
        split
        · trivial
        · refine KeepsDecisions.bind (keeps_op trivial) fun res => ?_
          cases res <;> trivial

lemma keeps_upsertProposals (tenantID : String) (ps : List VendorProposal) :
    KeepsDecisions (VendorJob.upsertProposals tenantID ps) := by
  induction ps with
  | nil => trivial
  | cons p ps ih =>
    exact KeepsDecisions.bind (keeps_op trivial) fun now => KeepsDecisions.bind (keeps_op trivial) fun err =>
      ih.bind fun rest => trivial

lemma keeps_runTenant (since : ℤ) (tenantID : String) : KeepsDecisions (j.runTenant since tenantID) := by
  refine KeepsDecisions.bind (keeps_op trivial) fun res => ?_
  cases res with
  | error err => trivial
  | ok rows =>
    simp only
    cases j.discovery.propose tenantID (j.discovery.buildSenderObservations rows) with
    | error err => trivial
    | ok props =>
      simp only
      split
      · exact keeps_upsertProposals tenantID props
      · trivial

lemma keeps_runTenants (since : ℤ) (ts : List String) : KeepsDecisions (j.runTenants since ts) := by
  induction ts with
  | nil => trivial
  | cons t ts ih =>
    refine KeepsDecisions.bind (keeps_op trivial) fun err => ?_
    cases err with
    | some err => trivial
    | none => exact (keeps_runTenant since t).bind fun first => ih.bind fun rest => trivial

lemma keeps_run : KeepsDecisions j.run :=
  KeepsDecisions.bind (keeps_op trivial) fun _ => KeepsDecisions.bind (keeps_op trivial) fun _ =>
    (keeps_runTenants _ _).bind fun _ => trivial

lemma keeps_body (c : VendorCall) : KeepsDecisions (c.body h j) := by
  cases c with
  | create r => exact (keeps_serveCreate r).bind fun _ => trivial
  | approve r => exact (keeps_serveDecision _ _ r).bind fun _ => trivial
  | revoke r => exact (keeps_serveDecision _ _ r).bind fun _ => trivial
  | delete r => exact (keeps_serveDelete r).bind fun _ => trivial
  | cycle => exact keeps_run.bind fun _ => trivial

end Keeps

/-- The condition on a step of the calls: if it is a write of the job, it agrees with the last decision. -/
def ProposalsAgree (s : VendorPool) : Pool.Label VendorCall VendorEnv → Prop := vendorTracker.Allows s

instance (s : VendorPool) (l : Pool.Label VendorCall VendorEnv) : Decidable (ProposalsAgree s l) :=
  inferInstanceAs (Decidable (vendorTracker.Allows s l))

/-- **Decisions survive discovery.** In every run of requests and cycles in which the proposals of the cycles agree with
the decisions made so far, every vendor is as it was last decided since it was created. -/
theorem vendor_decisions_survive (h : VendorHandler) (j : VendorJob) (w : VendorWorld) (hkeyed : w.Keyed)
    (hnew : w.journal = []) (s : VendorPool) (ls : List (Pool.Label VendorCall VendorEnv))
    (hmeets : Lts.Meets (vendorStep h j) ProposalsAgree ⟨w, []⟩ ls)
    (hrun : Lts.run (vendorStep h j) ⟨w, []⟩ ls = some s) (tenantID domain : String) (approved : Bool)
    (hlast : lastDecision tenantID domain s.shared.journal = some approved) :
    ∃ v, s.shared.vendors tenantID domain = some v ∧ v.approved = approved := by
  have hstart : vendorTracker.inv w [] := by
    refine ⟨hkeyed, fun t d b hb => ?_⟩
    rw [hnew] at hb
    cases hb
  have hholds : vendorTracker.Holds (fun _ _ _ => True) s :=
    Tracker.run_holds (fun _ _ hinv => hinv) (fun c _ => keeps_body c) (Tracker.holds_nil hstart) hmeets hrun
  exact hholds.inv.2 tenantID domain approved hlast

section Witness

/-- An approved vendor. -/
def newsVendor : Vendor where
  tenantID := "acme"
  domain := "news.example"
  approved := true
  autoDiscovered := true
  confidence := 1
  lastSeenAt := 0

def newsTable : VendorWorld where
  vendors t d := if t = "acme" ∧ d = "news.example" then some newsVendor else none

def plainHandler : VendorHandler where
  toLower := id

def plainJob : VendorJob where
  discovery := { toLower := id }

/-- The vendor is revoked, and then there is a cycle over some histories. -/
def revokeThenCycle (rows : List CommunicationHistory) : List (Pool.Label VendorCall VendorEnv) :=
  [.spawn (.revoke { method := "PUT", path := "/v1/vendors/news.example/revoke", tenantID := some "acme" }),
    .advance 0 {}, .advance 0 {}, .spawn .cycle, .advance 1 {}, .advance 1 { tenants := ["acme"] }, .advance 1 {},
    .advance 1 { rows }, .advance 1 {}, .advance 1 {}]

/-- The flag of the vendor, the last decision about it, and whether the cycle has ended. -/
def newsState (s : VendorPool) : Option Bool × Option Bool × List Bool :=
  ((s.shared.vendors "acme" "news.example").map (·.approved), lastDecision "acme" "news.example" s.shared.journal,
    s.threads.map fun t => t.result?.isSome)

lemma newsTable_keyed : newsTable.Keyed := by
  intro t d v hv
  simp only [newsTable] at hv
  split at hv
  · next h =>
    cases hv
    exact ⟨h.1.symm, h.2.symm⟩
  · cases hv

/-- The sender has become quiet: it stays revoked. -/
theorem quiet_vendor_stays_revoked : ∃ s, Lts.run (vendorStep plainHandler plainJob) ⟨newsTable, []⟩
    (revokeThenCycle [{ newsletterRow 1 with count30d := 10 }, { newsletterRow 2 with count30d := 10 }]) = some s ∧
      s.threads.map (fun t => t.result?.isSome) = [true, true] ∧
      ∃ v, s.shared.vendors "acme" "news.example" = some v ∧ v.approved = false := by
  have hend : (Lts.run (vendorStep plainHandler plainJob) ⟨newsTable, []⟩ (revokeThenCycle
      [{ newsletterRow 1 with count30d := 10 }, { newsletterRow 2 with count30d := 10 }])).map newsState =
        some (some false, some false, [true, true]) := by
    decide +kernel
  obtain ⟨s, hrun, hs⟩ := Option.map_eq_some_iff.mp hend
  obtain ⟨-, hs⟩ := Prod.mk.inj hs
  obtain ⟨hlast, hdone⟩ := Prod.mk.inj hs
  exact ⟨s, hrun, hdone, vendor_decisions_survive plainHandler plainJob newsTable newsTable_keyed rfl s _
    (by decide +kernel) hrun "acme" "news.example" false hlast⟩

/-- **A revoked vendor is approved again** by the next cycle. -/
theorem revoked_vendor_approved_again : ∃ s, Lts.run (vendorStep plainHandler plainJob) ⟨newsTable, []⟩
    (revokeThenCycle [newsletterRow 1, newsletterRow 2]) = some s ∧
      s.threads.map (fun t => t.result?.isSome) = [true, true] ∧
      lastDecision "acme" "news.example" s.shared.journal = some false ∧
      (s.shared.vendors "acme" "news.example").map (·.approved) = some true := by
  have hend : (Lts.run (vendorStep plainHandler plainJob) ⟨newsTable, []⟩
      (revokeThenCycle [newsletterRow 1, newsletterRow 2])).map newsState =
        some (some true, some false, [true, true]) := by
    decide +kernel
  obtain ⟨s, hrun, hs⟩ := Option.map_eq_some_iff.mp hend
  obtain ⟨happroved, hs⟩ := Prod.mk.inj hs
  obtain ⟨hlast, hdone⟩ := Prod.mk.inj hs
  exact ⟨s, hrun, hdone, hlast, happroved⟩

end Witness

end Sn360Es.Worker
