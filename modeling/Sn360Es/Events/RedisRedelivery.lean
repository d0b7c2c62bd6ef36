import Sn360Es.Events.RedisStreams

/-!
# Redelivery on the Redis Streams bus

Whatever has happened, a process that is alive can bring an entry that nobody has acknowledged to its handler: it
finishes what it is at, waits until the entry is idle, and reads or claims batch after batch, a claim at each tick. A
claim that starts past the entry goes to the end of the pending list first, and then starts over.

* `run_leave` — from every stage `handle` can leave a message as it is;
* `canHandle_unread`, `canHandle_pending` — batch after batch, the entry comes closer;
* `redelivery_possible` — so an entry can always be delivered again.
-/

namespace Sn360Es.Events.Redis

open Lib Lib.Lts Lib.StreamGroup

section Redelivery

variable (c : Subscription) (p : ℕ) (w : Which)

/-- One way to leave a message as it is: the handler calls `Nak`, or the next call fails. -/
def leave : Stage → List Act
  | .handler _ => [.handlerNak, .handlerReturn none]
  | .counting _ => [.count false]
  | .deadLetter _ _ => [.deadLetter .refused 0]
  | .ack => [.ack .refused]

variable {c p w} {s s' : State} {x : Process} {l : Loop}

@[simp] lemma setProc_setProc {x y : Option Process} : (s.setProc p x).setProc p y = s.setProc p y := by
  simp [State.setProc]

@[simp] lemma setLoop_setLoop {l l' : Loop} : (x.setLoop w l).setLoop w l' = x.setLoop w l' := by
  cases w <;> rfl

@[simp] lemma loop_setLoop_self : (x.setLoop w l).loop w = l := by
  cases w <;> rfl

lemma run_handle {m : XMessage} {rest : List XMessage} {a : Act} {ls : List Label} (hx : s.procs p = some x)
    (hb : (x.loop w).batch = m :: rest) : run (step c) s (.handle p w a :: ls) =
      ((handleStep c s (x.loop w) m a).map fun r => r.1.setProc p (some (x.setLoop w r.2))).bind
        fun t => run (step c) t ls := by
  rw [run_cons]
  simp only [step, hx, Option.bind_some, hb]

lemma run_leave {m : XMessage} {rest : List XMessage} (hx : s.procs p = some x)
    (hb : (x.loop w).batch = m :: rest) :
    run (step c) s ((leave (x.loop w).stage).map (.handle p w)) =
      some (s.setProc p (some (x.setLoop w { batch := rest }))) := by
  cases hst : (x.loop w).stage with
  | handler t =>
    rw [leave, List.map_cons, List.map_singleton, run_handle hx hb]
    simp only [handleStep, hst, Option.map_some, Option.bind_some]
    rw [run_handle (m := m) (x := x.setLoop w { x.loop w with stage := .handler true })
      (by simp [State.setProc]) (by simpa using hb)]
    simp [handleStep, Loop.next, hb]
  | counting cause =>
    rw [leave, List.map_singleton, run_handle hx hb]
    simp [handleStep, hst, isLast_zero, Loop.next, hb]
  | deadLetter delivery cause =>
    rw [leave, List.map_singleton, run_handle hx hb]
    simp [handleStep, hst, Reply.executed, Loop.next, hb]
  | ack =>
    rw [leave, List.map_singleton, run_handle hx hb]
    simp [handleStep, hst, State.xack, Reply.executed, Loop.next, hb]

/-- The steps of one process and of the clock. -/
def Label.isOf (p : ℕ) : Label → Bool
  | .read q _ => q = p
  | .claim q _ => q = p
  | .handle q _ _ => q = p
  | .elapse _ => true
  | _ => false

/-- The handler of the process is called with the entry. -/
def Handling (s : State) (p id : ℕ) : Prop :=
  ∃ x w m rest, s.procs p = some x ∧ x.loop w = { batch := m :: rest } ∧ m.id = id

/-- A process can come to handle an entry by steps of its own. -/
def CanHandle (c : Subscription) (p id : ℕ) (s : State) : Prop :=
  ∃ ls s', (∀ lab ∈ ls, Label.isOf p lab = true) ∧ run (step c) s ls = some s' ∧ Handling s' p id

lemma CanHandle.of_run {id : ℕ} {t : State} {ls : List Label} (h : CanHandle c p id t)
    (hown : ∀ lab ∈ ls, Label.isOf p lab = true) (hrun : run (step c) s ls = some t) : CanHandle c p id s := by
  obtain ⟨ls', s', hown', hrun', hs'⟩ := h
  refine ⟨ls ++ ls', s', List.forall_mem_append.mpr ⟨hown, hown'⟩, ?_, hs'⟩
  rw [run_append, hrun]
  exact hrun'

lemma setProc_self (hx : s.procs p = some x) : s.setProc p (some x) = s := by
  unfold State.setProc
  rw [← hx, Function.update_eq_self]

lemma setLoop_self : x.setLoop w (x.loop w) = x := by
  cases w <;> rfl

/-- A loop can leave the first messages of its batch. -/
lemma exists_leave (ms rest : List XMessage) (hx : s.procs p = some x) (hb : (x.loop w).batch = ms ++ rest)
    (hst : (x.loop w).stage = .handler false ∨ ms ≠ []) :
    ∃ ls, (∀ lab ∈ ls, Label.isOf p lab = true) ∧
      run (step c) s ls = some (s.setProc p (some (x.setLoop w { batch := rest }))) := by
  induction ms generalizing s x with
  | nil =>
    have hloop : x.loop w = { batch := rest } := by
      rcases hst with hst | hst
      · rw [← show (x.loop w).batch = rest from hb, ← hst]
      · exact absurd rfl hst
    refine ⟨[], by simp, ?_⟩
    rw [← hloop, setLoop_self, setProc_self hx]
    rfl
  | cons m ms ih =>
    have hleave := run_leave (c := c) hx hb
    obtain ⟨ls, hown, hrun⟩ := ih (s := s.setProc p (some (x.setLoop w { batch := ms ++ rest })))
      (x := x.setLoop w { batch := ms ++ rest }) (by simp [State.setProc]) (by simp) (.inl (by simp))
    refine ⟨(leave (x.loop w).stage).map (.handle p w) ++ ls, ?_, ?_⟩
    · refine List.forall_mem_append.mpr ⟨?_, hown⟩
      intro lab hlab
      obtain ⟨a, -, rfl⟩ := List.mem_map.mp hlab
      simp [Label.isOf]
    · rw [run_append, hleave]
      simpa using hrun

variable {g : Group} {id : ℕ}

/-- What is in the stream comes to the client. -/
lemma exists_message {ids : List ℕ} (hid : id ∈ ids) (hl : ((s.stream c).get? id).isSome) :
    ∃ ms m rest, s.messages c ids = ms ++ m :: rest ∧ m.id = id := by
  obtain ⟨v, hv⟩ := Option.isSome_iff_exists.mp hl
  have hmem : ⟨id, v⟩ ∈ s.messages c ids := List.mem_filterMap.mpr ⟨id, hid, by rw [hv]; rfl⟩
  obtain ⟨ms, rest, h⟩ := List.append_of_mem hmem
  exact ⟨ms, _, rest, h, rfl⟩

/-- A loop that has just received its batch can come to each message of it. -/
lemma canHandle_of_batch {ids : List ℕ} {t : State} (hx : t.procs p = some x)
    (hloop : x.loop w = { batch := s.messages c ids }) (hid : id ∈ ids) (hl : ((s.stream c).get? id).isSome) :
    CanHandle c p id t := by
  obtain ⟨ms, m, rest, hms, hm⟩ := exists_message hid hl
  obtain ⟨ls, hown, hrun⟩ := exists_leave (c := c) ms (m :: rest) hx
    (by rw [hloop]; exact hms) (.inl (by rw [hloop]))
  exact ⟨ls, _, hown, hrun, x.setLoop w { batch := m :: rest }, w, m, rest, by simp [State.setProc], by simp, hm⟩

/-- A loop can finish its batch first, and is then at its next call. -/
lemma CanHandle.of_finish (hx : s.procs p = some x)
    (h : ∀ x', (x'.loop w).batch = [] → x'.cursor = x.cursor → CanHandle c p id (s.setProc p (some x'))) :
    CanHandle c p id s := by
  by_cases hb : (x.loop w).batch = []
  · have hs := h x hb rfl
    rwa [setProc_self hx] at hs
  · obtain ⟨ls, hown, hrun⟩ := exists_leave (c := c) _ [] hx (List.append_nil _).symm (.inr hb)
    exact (h _ (by simp) (by cases w <;> rfl)).of_run hown hrun

lemma readCount_pos : 0 < c.readCount := by
  unfold Subscription.readCount
  split <;> omega

lemma claimCount_pos : 0 < c.claimCount := by
  unfold Subscription.claimCount
  split
  · omega
  · split <;> omega

lemma canHandle_unread (n : ℕ) : ∀ {s : State} {x : Process} {g : Group}, s.procs p = some x →
    x.reader.batch = [] → s.group = some g → g.lastDelivered < id → (s.stream c).trimmed < id →
    id ≤ (s.stream c).lastId → id - g.lastDelivered ≤ n → CanHandle c p id s := by
  induction n with
  | zero =>
    intro s x g _ _ _ hu _ _ hn
    omega
  | succ n ih =>
    intro s x g hx hb hg hu ht hl hn
    -- read a batch; the entry is in it, or closer to the next one
    generalize hr : g.read (s.stream c) s.now c.readCount = r
    generalize hx₁ : ({ x with reader := { batch := s.messages c r.2 } } : Process) = x₁
    have hstep : run (step c) s [.read p true] = some ((s.hand r.1 r.2).setProc p (some x₁)) := by
      rw [run_cons]
      simp [step, hx, hg, hb, ← hr, ← hx₁]
    have hown : ∀ lab ∈ [Label.read p true], Label.isOf p lab = true := by simp [Label.isOf]
    have hproc : ((s.hand r.1 r.2).setProc p (some x₁)).procs p = some x₁ := by simp [State.setProc]
    refine CanHandle.of_run ?_ hown hstep
    rcases Group.mem_read_or (n := c.readCount) ht hl hu with hid | hid
    · rw [hr] at hid
      exact canHandle_of_batch (w := .read) (s := s) hproc (by rw [← hx₁]; rfl) hid
        (Stream.get?_isSome.mpr ⟨ht, hl⟩)
    · refine CanHandle.of_finish (w := .read) hproc fun x₂ hb₂ _ => ?_
      have hless : g.lastDelivered < r.1.lastDelivered := by
        rw [← hr]
        refine Group.lastDelivered_lt_read readCount_pos ?_
        unfold Group.seen
        omega
      rw [hr] at hid
      exact ih (x := x₂) (g := r.1) (by simp [State.setProc]) hb₂ rfl hid ht hl (by omega)

lemma canHandle_pending (n : ℕ) {cl : Claim} : ∀ {s : State} {x : Process} {g : Group}, s.procs p = some x →
    x.claimer.batch = [] → s.group = some g → g.Ok (s.stream c).lastId → cl ∈ g.pending →
    ((s.stream c).get? cl.id).isSome → c.minIdle ≤ s.now - cl.time → g.rank x.cursor cl.id < n →
    CanHandle c p cl.id s := by
  induction n with
  | zero =>
    intro s x g _ _ _ _ _ _ _ hn
    exact absurd hn (Nat.not_lt_zero _)
  | succ n ih =>
    intro s x g hx hb hg hok hcl hl hidle hn
    -- wait for the tick and claim a batch; the entry is in it, or the cursor has come closer
    generalize hs₁ : ({ s with now := s.now + x.tick } : State) = s₁
    have hstream : s₁.stream c = s.stream c := by rw [← hs₁]; rfl
    have hidle₁ : c.minIdle ≤ s₁.now - cl.time := by
      rw [← hs₁]
      exact hidle.trans (Nat.sub_le_sub_right (Nat.le_add_right _ _) _)
    have hrank := Group.autoClaim_rank x.cursor hok hcl hl hidle₁ (claimCount_pos (c := c))
    have hok' : (g.autoClaim (s.stream c) s₁.now c.minIdle x.cursor c.claimCount).1.Ok (s.stream c).lastId :=
      hok.autoClaim
    generalize hr : g.autoClaim (s.stream c) s₁.now c.minIdle x.cursor c.claimCount = r at hrank hok'
    generalize hx₁ : ({ x with claimer := { batch := s₁.messages c r.2.claimed }, cursor := r.2.cursor
                               tick := c.nextTick x.tick s₁.now } : Process) = x₁
    have hstep : run (step c) s [.elapse x.tick, .claim p true] =
        some ((s₁.hand r.1 r.2.claimed).setProc p (some x₁)) := by
      have hwait : step c s (.elapse x.tick) = some s₁ := congrArg some hs₁
      have hx' : s₁.procs p = some x := by rw [← hs₁]; exact hx
      have hg' : s₁.group = some g := by rw [← hs₁]; exact hg
      have htick : x.tick ≤ s₁.now := by rw [← hs₁]; exact Nat.le_add_left _ _
      rw [run_cons, hwait, Option.bind_some, run_cons]
      simp [step, hx', hg', hb, htick, hstream, hr, ← hx₁]
    have hown : ∀ lab ∈ [Label.elapse x.tick, Label.claim p true], Label.isOf p lab = true := by simp [Label.isOf]
    have hproc : ((s₁.hand r.1 r.2.claimed).setProc p (some x₁)).procs p = some x₁ := by simp [State.setProc]
    refine CanHandle.of_run ?_ hown hstep
    rcases hrank with hid | ⟨hmem, hless⟩
    · exact canHandle_of_batch (w := .claim) (s := s₁) hproc (by rw [← hx₁]; rfl) hid (hstream ▸ hl)
    · refine CanHandle.of_finish (w := .claim) hproc fun x₂ hb₂ hcur => ?_
      have hcursor : x₂.cursor = r.2.cursor := by rw [hcur, ← hx₁]
      refine ih (x := x₂) (g := r.1) (by simp [State.setProc]) hb₂ rfl ?_ hmem ?_ hidle₁ (by rw [hcursor]; omega)
      · exact hstream ▸ hok'
      · show ((s₁.stream c).get? cl.id).isSome
        exact hstream ▸ hl

/-- **An entry can always be delivered again.** After any run, every process that is alive can bring every entry
that is in the stream and was not acknowledged to its handler, by steps of its own and by waiting. -/
theorem redelivery_possible (c : Subscription) {ls : List Label} {s : State} (hrun : run (step c) {} ls = some s)
    {p : ℕ} (hp : s.procs p ≠ none) {g : Group} (hg : s.group = some g) {id : ℕ}
    (hl : (s.stream c).get? id ≠ none) (hid : g.lastDelivered < id ∨ id ∈ g.ids) :
    ∃ ls' s', (∀ lab ∈ ls', Label.isOf p lab = true) ∧ run (step c) s ls' = some s' ∧ Handling s' p id := by
  have hinv := run_inv hrun
  obtain ⟨x, hx⟩ := Option.ne_none_iff_exists'.mp hp
  rw [← Option.isSome_iff_ne_none] at hl
  obtain ⟨ht, hlast⟩ := Stream.get?_isSome.mp hl
  show CanHandle c p id s
  rcases hid with hu | hid
  · refine CanHandle.of_finish (w := .read) hx fun x₁ hb _ => ?_
    exact canHandle_unread _ (x := x₁) (g := g) (by simp [State.setProc]) hb hg hu ht hlast le_rfl
  · obtain ⟨cl, hcl, rfl⟩ := Group.mem_ids.mp hid
    refine CanHandle.of_finish (w := .claim) hx fun x₁ hb _ => ?_
    -- wait until the entry is idle
    have hwait : run (step c) (s.setProc p (some x₁)) [.elapse (c.minIdle + cl.time)] =
        some { s.setProc p (some x₁) with now := s.now + (c.minIdle + cl.time) } := rfl
    refine CanHandle.of_run ?_ (by simp [Label.isOf]) hwait
    exact canHandle_pending _ (x := x₁) (g := g) (by simp [State.setProc]) hb hg (hinv.intact.ok g hg) hcl hl
      (show c.minIdle ≤ s.now + (c.minIdle + cl.time) - cl.time by omega) (Nat.lt_succ_self _)

theorem unseen_batch_redelivered : ∃ s, run (step once) {} [.subscribe 0 true,
      .publish "es.evaluate.request" (publishValues "" [0x7B, 0x7D] {} "") 0, .read 0 false] = some s ∧
    ∃ ls' s', (∀ lab ∈ ls', Label.isOf 0 lab = true) ∧ run (step once) s ls' = some s' ∧ Handling s' 0 1 := by
  have hrun : ∃ s g, run (step once) {} [.subscribe 0 true,
      .publish "es.evaluate.request" (publishValues "" [0x7B, 0x7D] {} "") 0, .read 0 false] = some s ∧
      s.group = some g ∧ g.ids = [1] ∧ (s.procs 0).isSome ∧ ((s.stream once).get? 1).isSome :=
    ⟨_, _, rfl, rfl, rfl, rfl, rfl⟩
  obtain ⟨s, g, hs, hg, hids, hp, hl⟩ := hrun
  refine ⟨s, hs, redelivery_possible once hs (Option.isSome_iff_ne_none.mp hp) hg (Option.isSome_iff_ne_none.mp hl) ?_⟩
  rw [hids]
  exact .inr List.mem_cons_self

end Redelivery

end Sn360Es.Events.Redis
