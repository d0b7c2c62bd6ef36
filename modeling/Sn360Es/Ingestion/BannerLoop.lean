import Mathlib.Data.Fintype.EquivFin
import Sn360Es.Ingestion.FastmailMailbox
import Sn360Es.Provider.FastmailBanner

/-!
# A banner comes back to the poller (`pkg/email_provider/fastmail/banner_injector.go`, `pollMailbox`)

A Fastmail mailbox with one message, whose verdict always has a banner. `InjectBanner` imports a new message, received
at the time of the import, and destroys the old one; the poller takes it for a new one. The system has the cycles of
`pollMailbox`, the evaluations, and the calls of `InjectBanner` in their three parts, in any order.

* `step` — one step of the system;
* `Unseen` — the filter of a cycle lets through no message that was published before or that has a banner;
* `Stage` — what is in the mailbox and in flight, as long as every cycle is `Unseen`;
* `banner_once` — then there is at most one call, and after it one message with one banner;
* `calls_grow` — otherwise there is a call in every round, also if every operation succeeds.

The checkpoint store may fail, and so may a publish; the stream may drop an event that it takes for a duplicate. The
calls of the provider succeed, but what they say depends on the mailbox.
-/

namespace Sn360Es.Ingestion

open Lib Lib.Lts Lib.GoTime Provider.Fastmail

/-! ### The system -/

/-- An `Email` of the inbox. -/
structure Email extends Mail where
  raw : Bytes
  /-- How often `InjectBanner` has written it. -/
  banners : ℕ := 0
  deriving DecidableEq, Repr

/-- What is in flight: the events, and the calls of `InjectBanner`, before the import and before the destruction. -/
inductive Task where
  | evaluateRequest (id : ℕ)
  | actionBanner (id : ℕ) (html : Bytes)
  | importBlob (id : ℕ) (raw : Bytes) (banners : ℕ)
  | destroy (id : ℕ)
  deriving DecidableEq, Repr

/-- What becomes of a publish; the stream acknowledges an event that it drops. -/
inductive Published where
  | failed
  | dropped
  | stored
  deriving DecidableEq, Repr

structure BannerLoop where
  emails : List Email
  checkpoint : Option ℤ
  tasks : List Task := []
  /-- The ids that were published. -/
  published : List ℕ := []
  /-- The calls of `InjectBanner`, and those that have returned without an error. -/
  calls : ℕ := 0
  delivered : ℕ := 0
  deriving DecidableEq, Repr

inductive LoopStep where
  /-- A cycle: the clock, whether `Get` works, what becomes of the publishes, and whether `Set` works. -/
  | poll (now : ℤ) (got : Bool) (publish : ℕ → Published) (stores : Bool)
  /-- The evaluation of a message, with the banner of its verdict. -/
  | evaluate (id : ℕ) (html : Bytes)
  /-- `handleActionBanner` up to `spliceBanner`. -/
  | splice (id : ℕ) (html : Bytes)
  /-- `Email/import`: the id and the time that the server gives. -/
  | imports (id : ℕ) (raw : Bytes) (banners : ℕ) (newID : ℕ) (now : ℤ)
  | destroys (id : ℕ)

/-- The configuration, with `unicode.ToLower`. -/
structure LoopConfig where
  lower : ℕ → ℕ
  batchSize : ℤ
  lookback : ℤ

namespace BannerLoop

variable (cfg : LoopConfig)

/-- Where a cycle starts. -/
def since (s : BannerLoop) (now : ℤ) (got : Bool) : ℤ :=
  resolveSince now cfg.lookback (if got then .ok s.checkpoint else .error "redis: get")

/-- What a cycle fetches. -/
def fetched (s : BannerLoop) (now : ℤ) (got : Bool) : List Mail :=
  fastmailFetchNew (s.emails.map Email.toMail) (s.since cfg now got) cfg.batchSize

/-- A cycle of `pollMailbox`. -/
def pollMailbox (s : BannerLoop) (now : ℤ) (got : Bool) (publish : ℕ → Published) (stores : Bool) : BannerLoop :=
  let mails := s.fetched cfg now got
  let checkpoint := newCheckpoint Mail.receivedAt (s.since cfg now got)
    (mails.map fun m => ⟨m, publish m.id ≠ .failed, now⟩)
  { s with
    checkpoint := if stores then checkpoint.or s.checkpoint else s.checkpoint
    tasks := s.tasks ++ (mails.filter (publish ·.id = .stored)).map (.evaluateRequest ·.id)
    published := s.published ++ (mails.filter (publish ·.id ≠ .failed)).map Mail.id }

/-- What is in flight after a call of `InjectBanner` has spliced; nothing is, after an error or a panic. -/
def spliced (s : BannerLoop) (id : ℕ) (html : Bytes) : List Task :=
  match s.emails.find? (·.id = id) with
  | none => []
  | some e =>
    match spliceBanner cfg.lower e.raw html with
    | some (.ok raw) => [.importBlob id raw (e.banners + 1)]
    | _ => []

/-- One step; a step that takes an event or goes on with a call is enabled if that is in flight. -/
def step (s : BannerLoop) : LoopStep → Option BannerLoop
  | .poll now got publish stores => some (s.pollMailbox cfg now got publish stores)
  | .evaluate id html =>
    if .evaluateRequest id ∈ s.tasks then
      some { s with tasks := s.tasks.erase (.evaluateRequest id) ++ [.actionBanner id html] }
    else none
  | .splice id html =>
    if .actionBanner id html ∈ s.tasks then
      let tasks := s.tasks.erase (.actionBanner id html)
      -- `handleActionBanner` drops an event without a text
      if html = [] then some { s with tasks }
      else some { s with tasks := tasks ++ s.spliced cfg id html, calls := s.calls + 1 }
    else none
  | .imports id raw banners newID now =>
    if .importBlob id raw banners ∈ s.tasks ∧ (∀ e ∈ s.emails, e.id ≠ newID) ∧ newID ∉ s.published then
      some { s with
        emails := s.emails ++ [⟨⟨newID, now⟩, raw, banners⟩]
        tasks := s.tasks.erase (.importBlob id raw banners) ++ [.destroy id] }
    else none
  | .destroys id =>
    if .destroy id ∈ s.tasks then
      some { s with
        emails := s.emails.filter (·.id ≠ id)
        tasks := s.tasks.erase (.destroy id)
        delivered := s.delivered + if s.emails.any (·.id = id) then 1 else 0 }
    else none

/-- The mailbox at the start. -/
def start (e : Email) (checkpoint : Option ℤ) : BannerLoop := { emails := [e], checkpoint }

/-- The filter of the cycle lets through no message that was published before or that has a banner. -/
def Unseen (s : BannerLoop) : LoopStep → Prop
  | .poll now got _ _ => ∀ e ∈ s.emails, passesFilter (s.since cfg now got) e.toMail = true →
      e.id ∉ s.published ∧ e.banners = 0
  | _ => True

instance (s : BannerLoop) : ∀ i, Decidable (Unseen cfg s i)
  | .poll now got _ _ => inferInstanceAs (Decidable (∀ e ∈ s.emails,
      passesFilter (s.since cfg now got) e.toMail = true → e.id ∉ s.published ∧ e.banners = 0))
  | .evaluate .. => isTrue trivial
  | .splice .. => isTrue trivial
  | .imports .. => isTrue trivial
  | .destroys .. => isTrue trivial

/-- At most one call; and after it has returned without an error, one message, with the banner of that call alone. -/
structure Once (raw : Bytes) (s : BannerLoop) : Prop where
  calls_le : s.calls ≤ 1
  banners_le : ∀ e ∈ s.emails, e.banners ≤ 1
  delivered : 0 < s.delivered → ∃ e html, s.emails = [e] ∧ spliceBanner cfg.lower raw html = some (.ok e.raw)

variable {cfg} {s s' : BannerLoop} {e : Email} {now : ℤ} {got stores : Bool} {publish : ℕ → Published}

/-! ### A cycle over one message -/

/-- A message alone is fetched if it passes the filter. -/
lemma fetchNew_singleton (m : Mail) (since limit : ℤ) :
    fastmailFetchNew [m] since limit = if passesFilter since m then [m] else [] := by
  have hpos : 0 < (if limit ≤ 0 then 50 else limit).toNat := by
    split_ifs <;> omega
  obtain ⟨n, hn⟩ := Nat.exists_eq_succ_of_ne_zero hpos.ne'
  unfold fastmailFetchNew
  rw [hn]
  by_cases hpass : passesFilter since m = true
  · simp [hpass, cut, sortBy]
  · simp [hpass, cut, sortBy]

/-- A cycle that fetches nothing changes nothing. -/
lemma pollMailbox_eq_self (h : ∀ e ∈ s.emails, passesFilter (s.since cfg now got) e.toMail = false) :
    s.pollMailbox cfg now got publish stores = s := by
  have hnil : s.fetched cfg now got = [] := by
    refine List.eq_nil_iff_forall_not_mem.mpr fun m hm => ?_
    obtain ⟨hmem, hpass⟩ := List.mem_filter.mp (mem_of_mem_cut hm)
    obtain ⟨e, he, rfl⟩ := List.mem_map.mp hmem
    rw [h e he] at hpass
    cases hpass
  have hstay : newCheckpoint Mail.receivedAt (s.since cfg now got) [] = none := if_neg (lt_irrefl _)
  simp [pollMailbox, hnil, hstay]

variable (cfg s now got publish stores) in
/-- **A cycle** over a message that is alone: it changes nothing but the checkpoint, or it publishes the message. -/
lemma pollMailbox_cases (hs : s.emails = [e]) : ∃ c,
    s.pollMailbox cfg now got publish stores = { s with checkpoint := c } ∨
    passesFilter (s.since cfg now got) e.toMail = true ∧ ∃ tasks, (tasks = [] ∨ tasks = [.evaluateRequest e.id]) ∧
      s.pollMailbox cfg now got publish stores =
        { s with checkpoint := c, tasks := s.tasks ++ tasks, published := s.published ++ [e.id] } := by
  refine ⟨(s.pollMailbox cfg now got publish stores).checkpoint, ?_⟩
  have hfetched : s.fetched cfg now got = if passesFilter (s.since cfg now got) e.toMail then [e.toMail] else [] := by
    rw [fetched, hs]
    exact fetchNew_singleton _ _ _
  by_cases hpass : passesFilter (s.since cfg now got) e.toMail = true
  · rw [if_pos hpass] at hfetched
    cases hout : publish e.id with
    | failed => exact .inl (by simp [pollMailbox, hfetched, hout])
    | dropped => exact .inr ⟨hpass, [], .inl rfl, by simp [pollMailbox, hfetched, hout]⟩
    | stored => exact .inr ⟨hpass, [.evaluateRequest e.id], .inr rfl, by simp [pollMailbox, hfetched, hout]⟩
  · rw [if_neg hpass] at hfetched
    exact .inl (by simp [pollMailbox, hfetched])

/-! ### One banner -/

variable (cfg e) in
/-- How far the message has come, while no cycle has seen it twice. -/
inductive Stage : BannerLoop → Prop
  /-- It was not published yet. -/
  | waiting (c : Option ℤ) : Stage { emails := [e], checkpoint := c }
  /-- An event of it may be in flight. -/
  | requested (c : Option ℤ) (tasks : List Task)
      (htasks : tasks = [] ∨ tasks = [.evaluateRequest e.id] ∨ ∃ html, tasks = [.actionBanner e.id html]) :
      Stage { emails := [e], checkpoint := c, tasks, published := [e.id] }
  /-- `InjectBanner` has failed, or has spliced. -/
  | called (c : Option ℤ) (tasks : List Task)
      (htasks : tasks = [] ∨ ∃ html raw, spliceBanner cfg.lower e.raw html = some (.ok raw) ∧
        tasks = [.importBlob e.id raw 1]) :
      Stage { emails := [e], checkpoint := c, tasks, published := [e.id], calls := 1 }
  /-- Both messages are in the mailbox. -/
  | imported (c : Option ℤ) (e' : Email) (html : Bytes) (hnew : e'.id ≠ e.id) (hone : e'.banners = 1)
      (hsplice : spliceBanner cfg.lower e.raw html = some (.ok e'.raw)) :
      Stage { emails := [e, e'], checkpoint := c, tasks := [.destroy e.id], published := [e.id], calls := 1 }
  /-- The new one is left. -/
  | replaced (c : Option ℤ) (e' : Email) (html : Bytes) (hone : e'.banners = 1)
      (hsplice : spliceBanner cfg.lower e.raw html = some (.ok e'.raw)) :
      Stage { emails := [e'], checkpoint := c, published := [e.id], calls := 1, delivered := 1 }

lemma Stage.once (hzero : e.banners = 0) (h : Stage cfg e s) : Once cfg e.raw s := by
  cases h with
  | waiting c => exact ⟨Nat.zero_le _, by simp [hzero], fun h => absurd h (lt_irrefl _)⟩
  | requested c tasks htasks => exact ⟨Nat.zero_le _, by simp [hzero], fun h => absurd h (lt_irrefl _)⟩
  | called c tasks htasks => exact ⟨le_rfl, by simp [hzero], fun h => absurd h (lt_irrefl _)⟩
  | imported c e' html hnew hone hsplice => exact ⟨le_rfl, by simp [hzero, hone], fun h => absurd h (lt_irrefl _)⟩
  | replaced c e' html hone hsplice => exact ⟨le_rfl, by simp [hone], fun _ => ⟨e', html, rfl, hsplice⟩⟩

/-- Every message was seen, so a cycle changes nothing. -/
lemma pollMailbox_of_seen (hunseen : Unseen cfg s (.poll now got publish stores))
    (hseen : ∀ e ∈ s.emails, e.id ∈ s.published ∨ e.banners ≠ 0) : s.pollMailbox cfg now got publish stores = s := by
  apply pollMailbox_eq_self
  intro e he
  by_contra hpass
  obtain ⟨hnot, hzero⟩ := hunseen e he (Bool.eq_true_of_not_eq_false hpass)
  rcases hseen e he with hmem | hne
  · exact hnot hmem
  · exact hne hzero

/-- What a task in flight says of the state. -/
lemma Stage.of_mem {t : Task} (h : Stage cfg e s) (ht : t ∈ s.tasks) :
    match t with
    | .evaluateRequest id => id = e.id ∧ ∃ c, s = { emails := [e], checkpoint := c, tasks := [t], published := [e.id] }
    | .actionBanner id _ => id = e.id ∧ ∃ c, s = { emails := [e], checkpoint := c, tasks := [t], published := [e.id] }
    | .importBlob id raw banners => (id = e.id ∧ banners = 1) ∧ ∃ c html,
        spliceBanner cfg.lower e.raw html = some (.ok raw) ∧
          s = { emails := [e], checkpoint := c, tasks := [t], published := [e.id], calls := 1 }
    | .destroy id => id = e.id ∧ ∃ c e' html, (e'.id ≠ e.id ∧ e'.banners = 1) ∧
        spliceBanner cfg.lower e.raw html = some (.ok e'.raw) ∧
          s = { emails := [e, e'], checkpoint := c, tasks := [t], published := [e.id], calls := 1 } := by
  cases h with
  | waiting c => cases ht
  | requested c tasks htasks =>
    rcases htasks with rfl | rfl | ⟨html, rfl⟩
    · cases ht
    · obtain rfl := List.mem_singleton.mp ht
      exact ⟨rfl, c, rfl⟩
    · obtain rfl := List.mem_singleton.mp ht
      exact ⟨rfl, c, rfl⟩
  | called c tasks htasks =>
    rcases htasks with rfl | ⟨html, raw, hsplice, rfl⟩
    · cases ht
    · obtain rfl := List.mem_singleton.mp ht
      exact ⟨⟨rfl, rfl⟩, c, html, hsplice, rfl⟩
  | imported c e' html hnew hone hsplice =>
    obtain rfl := List.mem_singleton.mp ht
    exact ⟨rfl, c, e', html, ⟨hnew, hone⟩, hsplice, rfl⟩
  | replaced c e' html hone hsplice => cases ht

/-- A cycle that is `Unseen` keeps the stages. -/
lemma pollMailbox_stage (h : Stage cfg e s) (hunseen : Unseen cfg s (.poll now got publish stores)) :
    Stage cfg e (s.pollMailbox cfg now got publish stores) := by
  cases h with
  | waiting c =>
    obtain ⟨c', heq | ⟨-, tasks, htasks, heq⟩⟩ :=
      pollMailbox_cases cfg { emails := [e], checkpoint := c } now got stores publish rfl
    · rw [heq]
      exact .waiting c'
    · rw [heq]
      exact .requested c' tasks (htasks.imp_right .inl)
  | requested c tasks htasks =>
    rw [pollMailbox_of_seen hunseen (by simp)]
    exact .requested c tasks htasks
  | called c tasks htasks =>
    rw [pollMailbox_of_seen hunseen (by simp)]
    exact .called c tasks htasks
  | imported c e' html hnew hone hsplice =>
    rw [pollMailbox_of_seen hunseen (by simp [hone])]
    exact .imported c e' html hnew hone hsplice
  | replaced c e' html hone hsplice =>
    rw [pollMailbox_of_seen hunseen (by simp [hone])]
    exact .replaced c e' html hone hsplice

/-- **One step** keeps the stages. -/
lemma step_stage {i : LoopStep} (hzero : e.banners = 0) (h : Stage cfg e s) (hunseen : Unseen cfg s i)
    (hstep : step cfg s i = some s') : Stage cfg e s' := by
  cases i with
  | poll now got publish stores =>
    obtain rfl := Option.some.inj hstep
    exact pollMailbox_stage h hunseen
  | evaluate id html =>
    simp only [step, Option.ite_none_right_eq_some] at hstep
    obtain ⟨hmem, hs'⟩ := hstep
    obtain ⟨rfl, c, rfl⟩ := h.of_mem hmem
    obtain rfl := Option.some.inj hs'
    simp only [List.erase_cons_head, List.nil_append]
    exact .requested c _ (.inr (.inr ⟨html, rfl⟩))
  | splice id html =>
    simp only [step, Option.ite_none_right_eq_some] at hstep
    obtain ⟨hmem, hs'⟩ := hstep
    obtain ⟨rfl, c, rfl⟩ := h.of_mem hmem
    simp only [List.erase_cons_head, List.nil_append] at hs'
    split_ifs at hs' with hempty
    · obtain rfl := Option.some.inj hs'
      exact .requested c [] (.inl rfl)
    · obtain rfl := Option.some.inj hs'
      refine .called c _ ?_
      simp only [spliced, List.find?_cons_of_pos, decide_true, hzero]
      cases hsplice : spliceBanner cfg.lower e.raw html with
      | none => exact .inl rfl
      | some res =>
        cases res with
        | error err => exact .inl rfl
        | ok raw => exact .inr ⟨html, raw, hsplice, rfl⟩
  | imports id raw banners newID now =>
    simp only [step, Option.ite_none_right_eq_some] at hstep
    obtain ⟨⟨hmem, hnew, -⟩, hs'⟩ := hstep
    obtain ⟨⟨rfl, rfl⟩, c, html, hsplice, rfl⟩ := h.of_mem hmem
    obtain rfl := Option.some.inj hs'
    simp only [List.erase_cons_head, List.nil_append, List.singleton_append]
    exact .imported c _ html (hnew e List.mem_cons_self).symm rfl hsplice
  | destroys id =>
    simp only [step, Option.ite_none_right_eq_some] at hstep
    obtain ⟨hmem, hs'⟩ := hstep
    obtain ⟨rfl, c, e', html, ⟨hnew, hone⟩, hsplice, rfl⟩ := h.of_mem hmem
    obtain rfl := Option.some.inj hs'
    simp only [List.erase_cons_head, List.filter_cons, List.filter_nil, hnew, ne_eq, not_true_eq_false,
      not_false_eq_true, decide_true, decide_false, Bool.false_eq_true, if_true, if_false, List.any_cons, Bool.true_or]
    exact .replaced c e' html hone hsplice

/-- **One banner.** In every run in which no cycle sees a message that was published before or that has a banner,
`InjectBanner` is called at most once; after it, the mailbox has one message, with one banner. -/
theorem banner_once (hzero : e.banners = 0) {c : Option ℤ} {is : List LoopStep}
    (hunseen : Meets (step cfg) (Unseen cfg) (start e c) is) (hrun : run (step cfg) (start e c) is = some s) :
    Once cfg e.raw s := by
  have hkeep : ∀ s i s', Stage cfg e s → Unseen cfg s i → step cfg s i = some s' → Stage cfg e s' :=
    fun s i s' h hi hstep => step_stage hzero h hi hstep
  have hstage : Stage cfg e s := run_induct hkeep (.waiting c) hunseen hrun
  exact hstage.once hzero

section Samples

def loopConfig : LoopConfig := ⟨Provider.lowerTable, 50, 0⟩

/-- A message in HTML. -/
def htmlEmail : Email := ⟨⟨1, minute 1⟩, bytesOf "Content-Type: text/html\r\n\r\nhi", 0⟩

/-- The banner of its verdict. -/
def boldMark : Bytes := bytesOf "<b>!</b>"

/-- A cycle, the evaluation and the call. -/
def firstRound : List LoopStep :=
  [.poll (minute 2) true (fun _ => .stored) true, .evaluate 1 boldMark, .splice 1 boldMark,
    .imports 1 (bytesOf "Content-Type: text/html\r\n\r\n<b>!</b>hi") 1 2 (minute 2), .destroys 1]

/-- The first round, and a cycle that cannot read the checkpoint and starts at its own time. -/
theorem banner_once_delivered : ∃ s,
    run (step loopConfig) (start htmlEmail (some (minute 0)))
      (firstRound ++ [.poll (minute 3) false (fun _ => .stored) true]) = some s ∧
    s.delivered = 1 ∧ Once loopConfig htmlEmail.raw s := by
  have hunseen : Meets (step loopConfig) (Unseen loopConfig) (start htmlEmail (some (minute 0)))
      (firstRound ++ [.poll (minute 3) false (fun _ => .stored) true]) := by
    decide +kernel
  have hrun : run (step loopConfig) (start htmlEmail (some (minute 0)))
      (firstRound ++ [.poll (minute 3) false (fun _ => .stored) true]) =
        some
          { emails := [⟨⟨2, minute 2⟩, bytesOf "Content-Type: text/html\r\n\r\n<b>!</b>hi", 1⟩]
            checkpoint := some (minute 1), published := [1], calls := 1, delivered := 1 } := by
    decide +kernel
  exact ⟨_, hrun, rfl, banner_once rfl hunseen hrun⟩

end Samples

/-! ### A banner in every round -/

/-- Every operation of the step succeeds. -/
def Succeeds : LoopStep → Prop
  | .poll _ got publish stores => got = true ∧ stores = true ∧ publish = fun _ => .stored
  | _ => True

/-- Nothing is in flight, and the next cycle fetches the message, which did not come in the last nanosecond of its
second. -/
structure Loud (s : BannerLoop) (e : Email) (c : ℤ) : Prop where
  emails : s.emails = [e]
  tasks : s.tasks = []
  checkpoint : s.checkpoint = some c
  second_le : second ≤ c
  passes : afterFilter c ≤ e.receivedAt
  inner : ¬ AtEdge e.receivedAt

variable {c : ℤ}

/-- The next checkpoint is one from which the message is fetched again. -/
lemma Loud.next (h : Loud s e c) (now : ℤ) : ∃ c',
    (newCheckpoint Mail.receivedAt c [⟨e.toMail, true, now⟩]).or (some c) = some c' ∧
      second ≤ c' ∧ afterFilter c' ≤ e.receivedAt := by
  have hle := h.second_le
  have hdated : ∀ m ∈ [e.toMail], m.receivedAt ≠ 0 := by
    intro m hm
    obtain rfl := List.mem_singleton.mp hm
    have hpos := afterFilter_pos hle
    have hpass := h.passes
    omega
  rcases newCheckpoint_published c now hdated with ⟨m, hm, hlt, heq⟩ | ⟨-, heq⟩
  · obtain rfl := List.mem_singleton.mp hm
    exact ⟨e.receivedAt, congrArg (·.or (some c)) heq, by omega, not_lt.mp h.inner⟩
  · exact ⟨c, congrArg (·.or (some c)) heq, hle, h.passes⟩

variable (cfg) in
/-- **The cycle** publishes the message. -/
lemma Loud.poll (h : Loud s e c) (now : ℤ) : ∃ c' ids, second ≤ c' ∧ afterFilter c' ≤ e.receivedAt ∧
    step cfg s (.poll now true (fun _ => .stored) true) =
      some { s with checkpoint := some c', tasks := [.evaluateRequest e.id], published := ids } := by
  have hsince : s.since cfg now true = c := by
    show resolveSince now cfg.lookback (.ok s.checkpoint) = c
    rw [h.checkpoint]
    exact resolveSince_stored h.second_le now cfg.lookback
  have hfetched : s.fetched cfg now true = [e.toMail] := by
    rw [fetched, h.emails, hsince]
    refine (fetchNew_singleton _ _ _).trans (if_pos ?_)
    exact (passesFilter_iff (ne_zero_of_second_le h.second_le)).mpr h.passes
  obtain ⟨c', hnext, hle, hpasses⟩ := h.next now
  refine ⟨c', s.published ++ [e.id], hle, hpasses, ?_⟩
  simp only [step, pollMailbox, hfetched, hsince, h.checkpoint, h.tasks]
  simp [hnext]

/-- The first second that begins after an instant. -/
def nextSecond (t : ℤ) : ℤ := truncateSecond t + second

lemma nextSecond_spec (t : ℤ) : t < nextSecond t ∧ ¬ AtEdge (nextSecond t) := by
  unfold nextSecond AtEdge afterFilter truncateSecond second
  omega

variable (cfg) in
/-- A cycle, the evaluation, and the call up to the splice. -/
lemma Loud.call (h : Loud s e c) {html : Bytes} (hhtml : html ≠ []) : ∃ is c' ids,
    (∀ i ∈ is, Succeeds i) ∧ second ≤ c' ∧ afterFilter c' ≤ e.receivedAt ∧ run (step cfg) s is =
      some { s with
        checkpoint := some c', tasks := s.spliced cfg e.id html, published := ids, calls := s.calls + 1 } := by
  obtain ⟨c', ids, hle, hpasses, hpoll⟩ := h.poll cfg 0
  refine ⟨[.poll 0 true (fun _ => .stored) true, .evaluate e.id html, .splice e.id html], c', ids, ?_, hle, hpasses, ?_⟩
  · simp [Succeeds]
  · rw [run_cons, hpoll]
    simp [run_cons, step, hhtml, spliced]

lemma spliced_eq (h : Loud s e c) (html : Bytes) : s.spliced cfg e.id html =
    match spliceBanner cfg.lower e.raw html with
    | some (.ok raw) => [.importBlob e.id raw (e.banners + 1)]
    | _ => [] := by
  unfold spliced
  rw [h.emails]
  simp

variable (cfg) in
/-- **One round**: a cycle, the evaluation and the call. -/
lemma Loud.round (h : Loud s e c) {html : Bytes} (hhtml : html ≠ []) : ∃ is s' e' c',
    (∀ i ∈ is, Succeeds i) ∧ run (step cfg) s is = some s' ∧ Loud s' e' c' ∧ s'.calls = s.calls + 1 := by
  obtain ⟨is, c', ids, his, hle, hpasses, hrun⟩ := h.call cfg hhtml
  by_cases hok : ∃ raw, spliceBanner cfg.lower e.raw html = some (.ok raw)
  · obtain ⟨raw, hok⟩ := hok
    rw [spliced_eq h, hok] at hrun
    -- the server gives an id that is new, and a time after the checkpoint
    obtain ⟨newID, hfresh⟩ := Infinite.exists_notMem_finset (e.id :: ids).toFinset
    have hnew : newID ≠ e.id ∧ newID ∉ ids := by simpa using hfresh
    obtain ⟨hlater, hinner⟩ := nextSecond_spec c'
    let e' : Email := ⟨⟨newID, nextSecond c'⟩, raw, e.banners + 1⟩
    let s' : BannerLoop :=
      { s with
        emails := [e'], checkpoint := some c', tasks := [], published := ids, calls := s.calls + 1
        delivered := s.delivered + 1 }
    refine ⟨is ++ [.imports e.id raw (e.banners + 1) newID (nextSecond c'), .destroys e.id], s', e', c', ?_, ?_, ?_,
      rfl⟩
    · intro i hi
      rcases List.mem_append.mp hi with hi | hi
      · exact his i hi
      · rcases List.mem_cons.mp hi with rfl | hi
        · trivial
        · rw [List.mem_singleton.mp hi]
          trivial
    · rw [run_append, hrun]
      simp [run_cons, step, h.emails, hnew, Ne.symm hnew.1, s', e']
    · have hafter := afterFilter_le c'
      exact ⟨rfl, rfl, rfl, hle, show afterFilter c' ≤ nextSecond c' by omega, hinner⟩
  · have hnone : s.spliced cfg e.id html = [] := by
      rw [spliced_eq h]
      split
      · next raw hraw => exact absurd ⟨raw, hraw⟩ hok
      · rfl
    rw [hnone] at hrun
    exact ⟨is, _, e, c', his, hrun, ⟨h.emails, rfl, rfl, hle, hpasses, h.inner⟩, rfl⟩

variable (cfg) in
/-- **A banner in every round.** If a cycle fetches the message, then in some runs there is a call in every round, also
if every operation succeeds. -/
theorem calls_grow (h : Loud s e c) {html : Bytes} (hhtml : html ≠ []) (n : ℕ) : ∃ is s',
    (∀ i ∈ is, Succeeds i) ∧ run (step cfg) s is = some s' ∧ s.calls + n ≤ s'.calls := by
  induction n generalizing s e c with
  | zero => exact ⟨[], s, by simp, rfl, le_rfl⟩
  | succ n ih =>
    obtain ⟨is, t, e', c', his, hrun, hloud, hcalls⟩ := h.round cfg hhtml
    obtain ⟨js, s', hjs, hrest, hle⟩ := ih hloud
    refine ⟨is ++ js, s', ?_, ?_, by omega⟩
    · intro i hi
      exact (List.mem_append.mp hi).elim (his i) (hjs i)
    · rw [run_append, hrun]
      exact hrest

section Samples

/-- The round after the first one. -/
def secondRound : List LoopStep :=
  [.poll (minute 3) true (fun _ => .stored) true, .evaluate 2 boldMark, .splice 2 boldMark,
    .imports 2 (bytesOf "Content-Type: text/html\r\n\r\n<b>!</b><b>!</b>hi") 2 3 (minute 3), .destroys 2]

/-- **The failing input**: two rounds give two banners, and there is no bound on the calls. -/
theorem banner_feeds_poller :
    (run (step loopConfig) (start htmlEmail (some (minute 0))) (firstRound ++ secondRound) =
      some
        { emails := [⟨⟨3, minute 3⟩, bytesOf "Content-Type: text/html\r\n\r\n<b>!</b><b>!</b>hi", 2⟩]
          checkpoint := some (minute 2), published := [1, 2], calls := 2, delivered := 2 }) ∧
    ¬ ∃ bound, ∀ is s, (∀ i ∈ is, Succeeds i) → run (step loopConfig) (start htmlEmail (some (minute 0))) is = some s →
      s.calls ≤ bound := by
  refine ⟨by decide +kernel, ?_⟩
  rintro ⟨bound, hbound⟩
  have hloud : Loud (start htmlEmail (some (minute 0))) htmlEmail (minute 0) :=
    ⟨rfl, rfl, rfl, by decide, by decide, by decide⟩
  obtain ⟨is, s, his, hrun, hle⟩ := calls_grow loopConfig hloud (List.cons_ne_nil 0x21 []) (bound + 1)
  have hcalls := hbound is s his hrun
  omega

end Samples

end BannerLoop

end Sn360Es.Ingestion
