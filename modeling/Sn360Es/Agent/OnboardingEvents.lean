import Sn360Es.Agent.Onboarding
import Sn360Es.Events.Consumer
import Sn360Es.Lib.JsonDecode
import Sn360Es.Lib.JsonFields

/-!
# The events that start an onboarding (`cmd/sn360-es/consumers.go`, `pkg/events/nats/consumer.go`)

`handleOnboarding` starts a goroutine that binds the tenant and runs the agent, and returns at once: its message is
acknowledged before the work is done. While the service drains it returns without starting one. It never returns an
error, so the broker has no reason to deliver the event again.

* `onboardingStep` — the stream with its consumer, the goroutines, and the start of draining at any moment;
* `Accounted` — of every event, the tenant was onboarded or is being onboarded, or it is deliverable or a dead letter;
* `Handed.step` — a step that loses no event keeps those that were handled on their way;
* `onboarding_events_accounted` — so in every run without a rejection or a failure every event is accounted for.
-/

namespace Sn360Es.Agent

open Lib Lib.JsonText Lib.JsonDecode Config Events

/-! ### The handler -/

/-- `json.Unmarshal` of the data. -/
def decodeTenantCreated (data : Bytes) : Option TenantCreated :=
  (document (maxNestingDepth - 1) data).bind fun ms =>
    ms.foldlM (fun d m =>
      if Lib.Json.foldName m.1 = Lib.Json.foldName "tenant_id" then
        (decString d.tenantID m.2).map fun s => { d with tenantID := s }
      else if Lib.Json.foldName m.1 = Lib.Json.foldName "provider" then
        (decString d.provider m.2).map fun s => { d with provider := s }
      else some d) {}

/-- A goroutine of the handler. -/
structure OnboardJob where
  cfg : OnboardingConfig
  tctx : TenantContext
  /-- The connection is bound to the tenant. -/
  bound : Bool

/-- The parts of the application. -/
structure OnboardingApp where
  triggers : Triggers
  /-- There is a database, so a goroutine has to bind its tenant first. -/
  pgDB : Bool
  ttl : ℤ := 0

variable (app : OnboardingApp) (c : Consumer)

/-- The goroutine that the handler starts for a message. Whatever it does, it returns no error. -/
def OnboardingApp.starts (draining : Bool) (now : ℤ) (m : Events.Message) : Option OnboardJob :=
  (app.triggers.handleOnboarding draining now m.subject (decodeTenantCreated m.data) true).map fun r =>
    ⟨r.1, r.2, !app.pgDB⟩

/-- The tenant of an event `tenant.created` with a valid provider. -/
def OnboardingApp.asksFor (m : Events.Message) : Option String :=
  (app.starts false 0 m).map fun job => job.tctx.tenantID

/-! ### The stream and the goroutines -/

structure OnboardingState where
  consumer : ConsumerState := {}
  draining : Bool := false
  jobs : List OnboardJob := []
  /-- The tenants for which `Onboard` has returned without an error. -/
  onboarded : List String := []
  world : ConfigWorld := {}

inductive OnboardingEvent where
  | publish (m : Events.Message)
  | deliver (seq : ℕ)
  /-- The handler runs on a delivery; the acknowledgement may not reach the broker. -/
  | handle (seq n : ℕ) (now : ℤ) (reached : Bool)
  | deadLetter (seq n : ℕ) (cause : String) (reply : BrokerReply) (fresh : Fresh) (reached : Bool)
  | drain
  | close
  /-- The next session, after the goroutines have been waited for. -/
  | restart
  /-- `tenantBoundConn` in a goroutine. -/
  | bind (j : ℕ) (err : Option String)
  /-- `Onboard` in a goroutine. -/
  | onboard (j : ℕ) (env : OnboardEnv)

/-- The step of the consumer. -/
def OnboardingEvent.consumer : OnboardingEvent → Option Events.Event
  | .publish m => some (.publish m)
  | .deliver seq => some (.deliver seq)
  | .handle seq n _ reached => some (.handled seq n {} reached)
  | .deadLetter seq n cause reply fresh reached => some (.deadLetter seq n cause reply fresh reached)
  | .close => some .close
  | .restart => some .restart
  | _ => none

/-- A goroutine binds its tenant; one that fails ends. -/
def OnboardingState.bindJob (s : OnboardingState) (j : ℕ) (job : OnboardJob) : Option String → OnboardingState
  | some _ => { s with jobs := s.jobs.eraseIdx j }
  | none => { s with jobs := s.jobs.set j { job with bound := true } }

/-- A goroutine runs the agent and ends; an error is only logged. -/
def OnboardingState.onboardJob (s : OnboardingState) (j : ℕ) (r : Onboarded) (tenantID : String) : OnboardingState :=
  { s with
    jobs := s.jobs.eraseIdx j
    world := r.world
    onboarded := if r.err = none then tenantID :: s.onboarded else s.onboarded }

def onboardingStep (s : OnboardingState) (e : OnboardingEvent) : Option OnboardingState :=
  match e with
  | .drain => some { s with draining := true }
  | .bind j err => s.jobs[j]?.bind fun job => if job.bound then none else some (s.bindJob j job err)
  | .onboard j env => s.jobs[j]?.bind fun job =>
      if job.bound then
        some (s.onboardJob j (job.cfg.onboard env job.tctx app.ttl s.world) job.tctx.tenantID)
      else none
  | .handle seq n now reached => (s.consumer.msgs seq).bind fun x =>
      (consumerStep c s.consumer (.handled seq n {} reached)).map fun t =>
        { s with consumer := t, jobs := s.jobs ++ (app.starts s.draining now x.msg).toList }
  | .restart =>
    if s.jobs.isEmpty then
      (consumerStep c s.consumer .restart).map fun t => { s with consumer := t, draining := false }
    else none
  | .publish m => (consumerStep c s.consumer (.publish m)).map fun t => { s with consumer := t }
  | .deliver seq => (consumerStep c s.consumer (.deliver seq)).map fun t => { s with consumer := t }
  | .deadLetter seq n cause reply fresh reached =>
    (consumerStep c s.consumer (.deadLetter seq n cause reply fresh reached)).map fun t => { s with consumer := t }
  | .close => (consumerStep c s.consumer .close).map fun t => { s with consumer := t }

/-! ### What becomes of an event -/

/-- The broker will deliver the message, or a delivery is under way. -/
def Deliverable (x : Pending) : Prop :=
  x.dispatching ≠ [] ∨ x.settled = false ∧ c.isLast x.delivered = false

/-- **No event is acknowledged away.** -/
def Accounted (s : OnboardingState) : Prop :=
  ∀ seq, ∀ x ∈ s.consumer.msgs seq, ∀ t ∈ app.asksFor x.msg,
    t ∈ s.onboarded ∨ (∃ job ∈ s.jobs, job.tctx.tenantID = t) ∨ Deliverable c x ∨ x.deadLetters ≠ []

/-- The condition on a step, unless the tenant has been onboarded already: no event is handled while the service drains,
and no goroutine fails to bind its tenant or to list its users and groups. The broker keeps what it has to deliver. -/
def Spares (s : OnboardingState) (e : OnboardingEvent) : Prop :=
  (∀ e' ∈ e.consumer, Retains c s.consumer e') ∧
  match e with
  | .handle seq _ _ _ => s.draining = true → ∀ x ∈ s.consumer.msgs seq, ∀ t ∈ app.asksFor x.msg, t ∈ s.onboarded
  | .bind j err => err ≠ none → ∀ job ∈ s.jobs[j]?, job.tctx.tenantID ∈ s.onboarded
  | .onboard j env => ¬ (env.users.isOk ∧ env.groups.isOk) → ∀ job ∈ s.jobs[j]?, job.tctx.tenantID ∈ s.onboarded
  | _ => True

/-! ### Events that were handled -/

/-- The invariant: an event whose handler has returned was onboarded or is being onboarded. -/
structure Handed (s : OnboardingState) : Prop where
  tracked : AllTracked c s.consumer
  handled : ∀ seq, ∀ x ∈ s.consumer.msgs seq, x.succeeded = true → ∀ t ∈ app.asksFor x.msg,
    t ∈ s.onboarded ∨ ∃ job ∈ s.jobs, job.tctx.tenantID = t
  valid : ∀ job ∈ s.jobs, job.tctx.validate = none

section Steps

variable {app : OnboardingApp} {c : Consumer} {s s' : OnboardingState}

lemma Handed.accounted (h : Handed app c s) : Accounted app c s := by
  intro seq x hx t ht
  rcases (h.tracked seq x hx).kept with hsucceeded | hdead | hdispatching | hleft
  · rcases h.handled seq x hx hsucceeded t ht with hdone | hjob
    · exact .inl hdone
    · exact .inr (.inl hjob)
  · exact .inr (.inr (.inr hdead))
  · exact .inr (.inr (.inl (.inl hdispatching)))
  · exact .inr (.inr (.inl (.inr hleft)))

/-- **When a goroutine is started.** -/
lemma starts_eq_some_iff {draining : Bool} {now : ℤ} {m : Events.Message} {job : OnboardJob} :
    app.starts draining now m = some job ↔ ".tenant.created".toList <:+ m.subject.toList ∧
      ∃ cfg d, app.triggers.onboardAgent = some cfg ∧ decodeTenantCreated m.data = some d ∧ d.tenantID ≠ "" ∧
        ((Provider.ofString d.provider).valid = true ∧ Provider.ofString d.provider ≠ .unknown) ∧ draining = false ∧
        job = ⟨cfg, { tenantID := d.tenantID, provider := Provider.ofString d.provider, startedAt := now },
          !app.pgDB⟩ := by
  unfold OnboardingApp.starts Triggers.handleOnboarding
  by_cases hsubject : ".tenant.created".toList <:+ m.subject.toList
  swap
  · rw [if_neg hsubject]
    exact iff_of_false nofun fun h => hsubject h.1
  rw [if_pos hsubject, and_iff_right hsubject]
  clear hsubject
  cases hagent : app.triggers.onboardAgent with
  | none => simp
  | some cfg =>
    cases hdata : decodeTenantCreated m.data with
    | none => simp
    | some d =>
      by_cases htenant : d.tenantID = ""
      · simp [htenant]
      cases hvalid : (Provider.ofString d.provider).valid with
      | false => simp [htenant, hvalid]
      | true =>
        by_cases hunknown : Provider.ofString d.provider = .unknown
        · simp [htenant, hunknown]
        cases draining with
        | true => simp [htenant, hvalid, hunknown]
        | false => simpa [htenant, hvalid, hunknown] using eq_comm

lemma starts_valid {draining : Bool} {now : ℤ} {m : Events.Message} {job : OnboardJob}
    (h : app.starts draining now m = some job) : job.tctx.validate = none := by
  obtain ⟨-, cfg, d, -, -, htenant, ⟨hvalid, -⟩, -, rfl⟩ := starts_eq_some_iff.mp h
  simp [TenantContext.validate, htenant, hvalid]

/-- Unless the service drains, a goroutine is started for every event, whatever the time is. -/
lemma exists_starts {m : Events.Message} {t : String} (ht : t ∈ app.asksFor m) (now : ℤ) :
    ∃ job, app.starts false now m = some job ∧ job.tctx.tenantID = t := by
  obtain ⟨job, hjob, rfl⟩ := Option.map_eq_some_iff.mp ht
  obtain ⟨hsubject, cfg, d, hagent, hdata, htenant, hprovider, -, rfl⟩ := starts_eq_some_iff.mp hjob
  exact ⟨_, starts_eq_some_iff.mpr ⟨hsubject, cfg, d, hagent, hdata, htenant, hprovider, rfl, rfl⟩, rfl⟩

lemma onboard_err {cfg : OnboardingConfig} {env : OnboardEnv} {tctx : TenantContext} {ttl : ℤ} {w : ConfigWorld}
    (hvalid : tctx.validate = none) (hok : env.users.isOk ∧ env.groups.isOk) :
    (cfg.onboard env tctx ttl w).err = none := by
  obtain ⟨husers, hgroups⟩ := hok
  unfold OnboardingConfig.onboard
  cases hu : env.users with
  | error err => rw [hu] at husers; cases husers
  | ok users =>
    cases hg : env.groups with
    | error err => rw [hg] at hgroups; cases hgroups
    | ok groups => simp [hvalid]

/-- The message of an entry never changes, and it succeeds when its handler returns. -/
lemma pending_succeeded {x x' : Pending} (h : (∃ closed, x.deliver c closed = some x') ∨
    ∃ closed n cause reply fresh reached, x.deadLetter c closed n cause reply fresh reached = some x') :
    x'.msg = x.msg ∧ x'.succeeded = x.succeeded := by
  rcases h with ⟨closed, hx⟩ | ⟨closed, n, cause, reply, fresh, reached, hx⟩
  · unfold Pending.deliver at hx
    split_ifs at hx
    all_goals
      obtain rfl := Option.some.inj hx
      exact ⟨rfl, rfl⟩
  · unfold Pending.deadLetter at hx
    split at hx
    · cases hx
    split at hx
    · obtain rfl := Option.some.inj hx
      exact ⟨rfl, rfl⟩
    split at hx
    · obtain rfl := Option.some.inj hx
      exact ⟨rfl, rfl⟩
    split_ifs at hx
    all_goals
      obtain rfl := Option.some.inj hx
      exact ⟨rfl, rfl⟩

lemma handled_msg {x x' : Pending} {n : ℕ} {reached : Bool} (hx : x.handled c n {} reached = some x') :
    x'.msg = x.msg := by
  unfold Pending.handled at hx
  split at hx
  · cases hx
  · obtain rfl := Option.some.inj hx
    rfl

/-- The entries of the stream after a step of one of them. -/
lemma mem_update {t t' : ConsumerState} {k seq : ℕ} {f : Pending → Option Pending} (h : t.update k f = some t')
    {x' : Pending} (hx' : x' ∈ t'.msgs seq) :
    x' ∈ t.msgs seq ∨ (seq = k ∧ ∃ x ∈ t.msgs seq, f x = some x') := by
  unfold ConsumerState.update at h
  obtain ⟨x, hx, h⟩ := Option.bind_eq_some_iff.mp h
  obtain ⟨y, hy, rfl⟩ := Option.map_eq_some_iff.mp h
  change x' ∈ Function.update t.msgs k (some y) seq at hx'
  by_cases hk : seq = k
  · subst hk
    rw [Option.mem_def, Function.update_self, Option.some.injEq] at hx'
    exact .inr ⟨rfl, x, hx, hx' ▸ hy⟩
  · rw [Option.mem_def, Function.update_of_ne hk] at hx'
    exact .inl hx'

/-- **Where an entry that has succeeded comes from**: it had succeeded before, or its handler has just returned. -/
lemma consumerStep_succeeded {t t' : ConsumerState} {e : Events.Event} (hstep : consumerStep c t e = some t')
    (he : ∀ k n r reached, e = .handled k n r reached → r = {}) {seq : ℕ} {x' : Pending} (hx' : x' ∈ t'.msgs seq)
    (hs : x'.succeeded = true) : ∃ x ∈ t.msgs seq, x.msg = x'.msg ∧
      (x.succeeded = true ∨ ∃ n reached, e = .handled seq n {} reached) := by
  cases e with
  | publish m =>
    obtain rfl := Option.some.inj hstep
    change x' ∈ Function.update t.msgs t.next (some { msg := m }) seq at hx'
    by_cases hk : seq = t.next
    · subst hk
      rw [Option.mem_def, Function.update_self, Option.some.injEq] at hx'
      subst hx'
      cases hs
    · rw [Option.mem_def, Function.update_of_ne hk] at hx'
      exact ⟨x', hx', rfl, .inl hs⟩
  | deliver k =>
    rcases mem_update hstep hx' with hold | ⟨rfl, x, hx, hxx'⟩
    · exact ⟨x', hold, rfl, .inl hs⟩
    · obtain ⟨hmsg, hsucc⟩ := pending_succeeded (.inl ⟨_, hxx'⟩)
      exact ⟨x, hx, hmsg.symm, .inl (hsucc ▸ hs)⟩
  | handled k n r reached =>
    rcases mem_update hstep hx' with hold | ⟨rfl, x, hx, hxx'⟩
    · exact ⟨x', hold, rfl, .inl hs⟩
    · obtain rfl := he seq n r reached rfl
      exact ⟨x, hx, (handled_msg hxx').symm, .inr ⟨n, reached, rfl⟩⟩
  | deadLetter k n cause reply fresh reached =>
    rcases mem_update hstep hx' with hold | ⟨rfl, x, hx, hxx'⟩
    · exact ⟨x', hold, rfl, .inl hs⟩
    · obtain ⟨hmsg, hsucc⟩ := pending_succeeded (.inr ⟨_, _, _, _, _, _, hxx'⟩)
      exact ⟨x, hx, hmsg.symm, .inl (hsucc ▸ hs)⟩
  | close =>
    obtain rfl := Option.some.inj hstep
    exact ⟨x', hx', rfl, .inl hs⟩
  | restart =>
    simp only [consumerStep] at hstep
    split_ifs at hstep
    obtain rfl := Option.some.inj hstep
    exact ⟨x', hx', rfl, .inl hs⟩

/-- A step of the consumer that runs no handler. -/
lemma Handed.consumed (h : Handed app c s) {e : Events.Event} (he : ∀ k n r reached, e ≠ .handled k n r reached)
    (hr : Retains c s.consumer e) {t : ConsumerState} (hstep : consumerStep c s.consumer e = some t)
    (draining : Bool) : Handed app c { s with consumer := t, draining } := by
  refine ⟨step_tracked c _ e t h.tracked hr hstep, fun seq x' hx' hs u hu => ?_, h.valid⟩
  obtain ⟨x, hx, hmsg, hold | ⟨n, reached, hnow⟩⟩ :=
    consumerStep_succeeded hstep (fun k n r reached hk => absurd hk (he k n r reached)) hx' hs
  · exact h.handled seq x hx hold u (hmsg ▸ hu)
  · exact absurd hnow (he seq n {} reached)

/-- A goroutine ends: those that are left are for the other tenants, unless its own was onboarded. -/
lemma Handed.ended (h : Handed app c s) {j : ℕ} {job : OnboardJob} (hj : s.jobs[j]? = some job)
    {onboarded : List String} (hmono : ∀ t ∈ s.onboarded, t ∈ onboarded) (hdone : job.tctx.tenantID ∈ onboarded)
    (w : ConfigWorld) : Handed app c { s with jobs := s.jobs.eraseIdx j, onboarded, world := w } := by
  refine ⟨h.tracked, fun seq x hx hs t ht => ?_, fun job' hjob' => h.valid job' (List.mem_of_mem_eraseIdx hjob')⟩
  rcases h.handled seq x hx hs t ht with hin | ⟨job', hjob', rfl⟩
  · exact .inl (hmono t hin)
  · obtain ⟨i, hi⟩ := List.mem_iff_getElem?.mp hjob'
    by_cases hij : i = j
    · subst hij
      rw [hj, Option.some.injEq] at hi
      subst hi
      exact .inl hdone
    · exact .inr ⟨job', List.mem_eraseIdx_iff_getElem?.mpr ⟨i, hij, hi⟩, rfl⟩

/-- **Every step that spares the events** keeps the invariant. -/
lemma Handed.step (h : Handed app c s) {e : OnboardingEvent} (hC : Spares app c s e)
    (hstep : onboardingStep app c s e = some s') : Handed app c s' := by
  obtain ⟨hretains, hspares⟩ := hC
  cases e with
  | drain =>
    obtain rfl := Option.some.inj hstep
    exact ⟨h.tracked, h.handled, h.valid⟩
  | publish m =>
    simp only [onboardingStep] at hstep
    obtain ⟨t, ht, rfl⟩ := Option.map_eq_some_iff.mp hstep
    exact h.consumed (by simp) (hretains _ rfl) ht s.draining
  | deliver seq =>
    obtain ⟨t, ht, rfl⟩ := Option.map_eq_some_iff.mp hstep
    exact h.consumed (by simp) (hretains _ rfl) ht s.draining
  | deadLetter seq n cause reply fresh reached =>
    obtain ⟨t, ht, rfl⟩ := Option.map_eq_some_iff.mp hstep
    exact h.consumed (by simp) (hretains _ rfl) ht s.draining
  | close =>
    simp only [onboardingStep] at hstep
    obtain ⟨t, ht, rfl⟩ := Option.map_eq_some_iff.mp hstep
    exact h.consumed (by simp) (hretains _ rfl) ht s.draining
  | restart =>
    simp only [onboardingStep] at hstep
    split_ifs at hstep
    obtain ⟨t, ht, rfl⟩ := Option.map_eq_some_iff.mp hstep
    exact h.consumed (by simp) (hretains _ rfl) ht false
  | handle seq n now reached =>
    obtain ⟨x₀, hx₀, hstep⟩ := Option.bind_eq_some_iff.mp hstep
    obtain ⟨t, ht, rfl⟩ := Option.map_eq_some_iff.mp hstep
    refine ⟨step_tracked c _ _ t h.tracked (hretains _ rfl) ht, fun k x' hx' hs u hu => ?_, fun job hjob => ?_⟩
    · obtain ⟨x, hx, hmsg, hold | ⟨n', reached', hnow⟩⟩ :=
        consumerStep_succeeded ht (fun _ _ _ _ hk => by cases hk; rfl) hx' hs
      · rcases h.handled k x hx hold u (hmsg ▸ hu) with hin | ⟨job, hjob, hid⟩
        · exact .inl hin
        · exact .inr ⟨job, List.mem_append_left _ hjob, hid⟩
      · -- the handler of this event has just returned
        cases hnow
        obtain rfl : x₀ = x := Option.some.inj (hx₀.symm.trans hx)
        cases hdraining : s.draining with
        | true => exact .inl (hspares hdraining x₀ hx u (hmsg ▸ hu))
        | false =>
          obtain ⟨job, hjob, hid⟩ := exists_starts (hmsg ▸ hu : u ∈ app.asksFor x₀.msg) now
          refine .inr ⟨job, List.mem_append_right _ ?_, hid⟩
          rw [hjob]
          exact List.mem_singleton_self job
    · rcases List.mem_append.mp hjob with hjob | hjob
      · exact h.valid job hjob
      · exact starts_valid (Option.mem_toList.mp hjob)
  | bind j err =>
    obtain ⟨job, hj, hstep⟩ := Option.bind_eq_some_iff.mp hstep
    split_ifs at hstep
    obtain rfl := Option.some.inj hstep
    cases err with
    | some text => exact h.ended hj (fun _ ht => ht) (hspares nofun job hj) s.world
    | none =>
      refine ⟨h.tracked, fun seq x hx hs t ht => ?_, fun job' hjob' => ?_⟩
      · rcases h.handled seq x hx hs t ht with hin | ⟨job', hjob', hid⟩
        · exact .inl hin
        · obtain ⟨i, hi⟩ := List.mem_iff_getElem?.mp hjob'
          by_cases hij : j = i
          · subst hij
            rw [hj, Option.some.injEq] at hi
            subst hi
            exact .inr ⟨_, List.mem_set (List.getElem?_eq_some_iff.mp hj).1 _, hid⟩
          · refine .inr ⟨job', List.mem_iff_getElem?.mpr ⟨i, ?_⟩, hid⟩
            show (s.jobs.set j _)[i]? = some job'
            rw [List.getElem?_set_ne hij, hi]
      · rcases List.mem_or_eq_of_mem_set hjob' with hold | rfl
        · exact h.valid job' hold
        · exact h.valid job (List.mem_of_getElem? hj)
  | onboard j env =>
    obtain ⟨job, hj, hstep⟩ := Option.bind_eq_some_iff.mp hstep
    split_ifs at hstep
    obtain rfl := Option.some.inj hstep
    unfold OnboardingState.onboardJob
    by_cases hok : env.users.isOk ∧ env.groups.isOk
    · rw [onboard_err (h.valid job (List.mem_of_getElem? hj)) hok, if_pos rfl]
      exact h.ended hj (fun _ ht => List.mem_cons_of_mem _ ht) List.mem_cons_self _
    · have hdone := hspares hok job hj
      split_ifs
      · exact h.ended hj (fun _ ht => List.mem_cons_of_mem _ ht) List.mem_cons_self _
      · exact h.ended hj (fun _ ht => ht) hdone _

end Steps

/-- **Onboarding events are not acknowledged away** in a run in which no event is handled while the service drains and
no goroutine fails, unless its tenant was onboarded before. -/
theorem onboarding_events_accounted (app : OnboardingApp) (c : Consumer) (w : ConfigWorld) (es : List OnboardingEvent)
    (h : Lts.Meets (onboardingStep app c) (Spares app c) { world := w } es) :
    Lts.Throughout (onboardingStep app c) (Accounted app c) { world := w } es := by
  have hstart : Handed app c { world := w } := by
    refine ⟨fun seq x hx => ?_, fun seq x hx => ?_, fun job hjob => ?_⟩
    · cases hx
    · cases hx
    · cases hjob
  exact Lts.throughout_of_meets (fun _ _ _ hs hC hstep => hs.step hC hstep) (fun _ hs => hs.accounted) hstart h

/-! ### An event that is lost -/

namespace Sample

/-- The subscription `ingestion-onboard`. -/
def onboardConsumer : Consumer := { opts := { maxDeliver := 3 }, dlqProducer := some barePublisher }

def onboardingApp : OnboardingApp := { triggers := { onboardAgent := some agent }, pgDB := true }

def tenantCreated : Events.Message where
  subject := "es.onboarding.tenant.created"
  data := bytesOf "\x7b\"tenant_id\":\"t\",\"provider\":\"fastmail\"\x7d"
  headers _ := none

/-- The event is handled at once, and its goroutine binds the tenant and runs the agent. -/
def handledRun (env : OnboardEnv) : List OnboardingEvent :=
  [.publish tenantCreated, .deliver 0, .handle 0 1 0 true, .bind 0 none, .onboard 0 env]

/-- The service drains before the event is handled. -/
def drainedRun : List OnboardingEvent := [.publish tenantCreated, .deliver 0, .drain, .handle 0 1 0 true]

/-- What is left of the event. -/
def remains (es : List OnboardingEvent) : Option (Option String × (List String × ℕ) × Bool × ℕ × ℕ) :=
  (Lts.run (onboardingStep onboardingApp onboardConsumer) {} es).bind fun s =>
    (s.consumer.msgs 0).map fun x => (onboardingApp.asksFor x.msg, (s.onboarded, s.jobs.length), x.settled,
      x.dispatching.length, x.deadLetters.length)

lemma not_accounted {es : List OnboardingEvent} (h : remains es = some (some "t", ([], 0), true, 0, 0)) :
    ¬ Lts.Throughout (onboardingStep onboardingApp onboardConsumer) (Accounted onboardingApp onboardConsumer)
      {} es := by
  obtain ⟨s, hrun, h⟩ := Option.bind_eq_some_iff.mp h
  obtain ⟨x, hx, h⟩ := Option.map_eq_some_iff.mp h
  simp only [Prod.mk.injEq, List.length_eq_zero_iff] at h
  obtain ⟨htenant, ⟨honboarded, hjobs⟩, hsettled, hdispatching, hdead⟩ := h
  intro hall
  rcases hall.last hrun 0 x hx "t" htenant with hin | ⟨job, hjob, -⟩ | (hleft | hleft) | hletter
  · rw [honboarded] at hin
    cases hin
  · rw [hjobs] at hjob
    cases hjob
  · exact hleft hdispatching
  · rw [hsettled] at hleft
    cases hleft.1
  · exact hletter hdead

lemma meets_handledRun : Lts.Meets (onboardingStep onboardingApp onboardConsumer)
    (Spares onboardingApp onboardConsumer) {} (handledRun emptyDirectory) := by
  refine ⟨⟨?_, trivial⟩, fun s₁ h₁ => ⟨⟨?_, trivial⟩, fun s₂ h₂ => ⟨⟨?_, ?_⟩, fun s₃ h₃ =>
    ⟨⟨nofun, fun h => absurd rfl h⟩, fun s₄ h₄ => ⟨⟨nofun, fun h => absurd ⟨rfl, rfl⟩ h⟩, fun _ _ => trivial⟩⟩⟩⟩⟩
  · rintro e ⟨⟩
    trivial
  · obtain rfl := Option.some.inj h₁
    rintro e ⟨⟩ x - hclosed
    cases hclosed
  · rintro e ⟨⟩
    exact ⟨nofun, nofun⟩
  · obtain rfl := Option.some.inj h₁
    obtain rfl := Option.some.inj h₂
    intro hdraining
    cases hdraining

end Sample

/-- A run without failures. -/
theorem onboarding_event_handled : Lts.Throughout (onboardingStep Sample.onboardingApp Sample.onboardConsumer)
    (Accounted Sample.onboardingApp Sample.onboardConsumer) {} (Sample.handledRun Sample.emptyDirectory) :=
  onboarding_events_accounted Sample.onboardingApp Sample.onboardConsumer {} _ Sample.meets_handledRun

/-- **A directory that fails once, and a service that drains.** The event was acknowledged, and nobody is onboarded. -/
theorem onboarding_event_lost :
    ¬ Lts.Throughout (onboardingStep Sample.onboardingApp Sample.onboardConsumer)
      (Accounted Sample.onboardingApp Sample.onboardConsumer) {}
      (Sample.handledRun { Sample.emptyDirectory with users := .error "503 Service Unavailable" }) ∧
    ¬ Lts.Throughout (onboardingStep Sample.onboardingApp Sample.onboardConsumer)
      (Accounted Sample.onboardingApp Sample.onboardConsumer) {} Sample.drainedRun :=
  ⟨Sample.not_accounted (by decide +kernel), Sample.not_accounted (by decide +kernel)⟩

end Sn360Es.Agent
