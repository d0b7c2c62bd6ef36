import Sn360Es.Evaluate.Batch
import Sn360Es.Lib.Hex
import Sn360Es.Lib.Journal

/-!
# Settling a batch

The journal of a cycle is written in blocks, one per fetched message: a refusal, a failed publish and its nak,
or a published result and its ack (`Block`). Every message has one block (`processBatch_written`), and
`Lib.Written.project` turns that into what each message gets (`processOnce_settles`).
-/

namespace Sn360Es.Evaluate

open Lib Sn360Es.Tier1

namespace BatchOrchestrator

section Spec

variable (o : BatchOrchestrator) (now : ℕ) (msgs : List (List UInt8))

/-- The messages that go to Tier 1: decoded and not bypassed. -/
def survivors (ms : List (List UInt8 × ℕ)) : List Pending := (o.collect now ms).2.filter (!·.hit0)

/-- How many survivors come before message `i`. -/
def tier1Position (i : ℕ) : ℕ := (o.survivors now (msgs.zipIdx.take i)).length

/-- What Tier 1 answered to the survivors of the cycle. -/
def tier1Answer : Except String (List PredictResponse) :=
  o.predictBatch ((o.survivors now msgs.zipIdx).map Pending.predictRequest)

/-- `p` is what message `i` decodes to. -/
def Decodes (i : ℕ) (p : Pending) : Prop := ∃ data, msgs[i]? = some data ∧ o.pend now i data = .ok p

/-- The Tier 1 response of message `i` is the one at its place among the survivors. -/
def ResponseOf (i : ℕ) (resp : PredictResponse) : Prop :=
  ∃ out, o.tier1Answer now msgs = .ok out ∧ out[o.tier1Position now msgs i]? = some resp

/-- `res` is the result for message `i`. -/
def ResultOf (i : ℕ) (res : EvaluateResult) : Prop :=
  ∃ p, o.Decodes now msgs i p ∧
    ((p.hit0 = true ∧ res = o.finalised now p p.tier0Result) ∨
      (p.hit0 = false ∧ ∃ resp, o.ResponseOf now msgs i resp ∧
        res = o.finalised now p (o.tier1Result now p resp)))

/-- Message `i` gets no result: it does not decode, or the Tier 1 call of its group failed. -/
def Refused (i : ℕ) : Prop :=
  (∃ data err, msgs[i]? = some data ∧ o.pend now i data = .error err) ∨
    ∃ p err, o.Decodes now msgs i p ∧ p.hit0 = false ∧ o.tier1Answer now msgs = .error err

/-- The three ways in which a cycle settles a message. -/
def Block (i : ℕ) (b : List Effect) : Prop :=
  (b = [.nak i] ∧ o.Refused now msgs i) ∨
    (∃ res, b = [.publishFailed i res, .nak i] ∧ o.ResultOf now msgs i res) ∨
    ∃ res sightings, b = .published i res :: sightings ++ [.ack i] ∧ o.ResultOf now msgs i res ∧
      ∀ e ∈ sightings, ∃ upd, e = .sighting i upd

end Spec

/-! ### The loops -/

section Loops

variable {o : BatchOrchestrator} {now : ℕ} {msgs : List (List UInt8)}

lemma pend_msg {i : ℕ} {data : List UInt8} {p : Pending} (h : o.pend now i data = .ok p) :
    p.msg = i := by
  unfold pend at h
  split at h
  · cases h
  · dsimp only at h
    split at h
    · cases h
      rfl
    · split_ifs at h <;> (cases h; rfl)

lemma collect_error {i : ℕ} {data : List UInt8} {err : String} (h : o.pend now i data = .error err)
    (ms : List (List UInt8 × ℕ)) :
    o.collect now ((data, i) :: ms) = (.nak i :: (o.collect now ms).1, (o.collect now ms).2) := by
  rw [collect, h]

lemma collect_ok {i : ℕ} {data : List UInt8} {p : Pending} (h : o.pend now i data = .ok p)
    (ms : List (List UInt8 × ℕ)) :
    o.collect now ((data, i) :: ms) = ((o.collect now ms).1, p :: (o.collect now ms).2) := by
  rw [collect, h]

/-- The first loop gives every message a nak or a pending entry. -/
lemma collect_perm (ms : List (List UInt8 × ℕ)) :
    ((o.collect now ms).1.map Effect.msg ++ (o.collect now ms).2.map Pending.msg).Perm
      (ms.map Prod.snd) := by
  induction ms with
  | nil => exact List.Perm.refl _
  | cons m ms ih =>
    obtain ⟨data, i⟩ := m
    cases hp : o.pend now i data with
    | error err =>
      rw [collect_error hp]
      exact List.Perm.cons i ih
    | ok p =>
      rw [collect_ok hp, List.map_cons, pend_msg hp]
      exact List.perm_middle.trans (List.Perm.cons i ih)

lemma collect_nak {ms : List (List UInt8 × ℕ)} {e : Effect} (h : e ∈ (o.collect now ms).1) :
    ∃ data i err, (data, i) ∈ ms ∧ e = .nak i ∧ o.pend now i data = .error err := by
  induction ms with
  | nil => cases h
  | cons m ms ih =>
    obtain ⟨data, i⟩ := m
    cases hp : o.pend now i data with
    | error err =>
      rw [collect_error hp, List.mem_cons] at h
      rcases h with rfl | h
      · exact ⟨data, i, err, List.mem_cons_self, rfl, hp⟩
      · obtain ⟨data', i', err', hmem, hrest⟩ := ih h
        exact ⟨data', i', err', List.mem_cons_of_mem _ hmem, hrest⟩
    | ok p =>
      rw [collect_ok hp] at h
      obtain ⟨data', i', err', hmem, hrest⟩ := ih h
      exact ⟨data', i', err', List.mem_cons_of_mem _ hmem, hrest⟩

lemma collect_pending {ms : List (List UInt8 × ℕ)} {p : Pending} (h : p ∈ (o.collect now ms).2) :
    ∃ data, (data, p.msg) ∈ ms ∧ o.pend now p.msg data = .ok p := by
  induction ms with
  | nil => cases h
  | cons m ms ih =>
    obtain ⟨data, i⟩ := m
    have htail : p ∈ (o.collect now ms).2 →
        ∃ data', (data', p.msg) ∈ (data, i) :: ms ∧ o.pend now p.msg data' = .ok p := fun h => by
      obtain ⟨data', hmem, hpend⟩ := ih h
      exact ⟨data', List.mem_cons_of_mem _ hmem, hpend⟩
    cases hp : o.pend now i data with
    | error err =>
      rw [collect_error hp] at h
      exact htail h
    | ok q =>
      rw [collect_ok hp, List.mem_cons] at h
      rcases h with rfl | h
      · rw [pend_msg hp]
        exact ⟨data, List.mem_cons_self, hp⟩
      · exact htail h

lemma collect_append (ms ms' : List (List UInt8 × ℕ)) :
    (o.collect now (ms ++ ms')).2 = (o.collect now ms).2 ++ (o.collect now ms').2 := by
  induction ms with
  | nil => rfl
  | cons m ms ih =>
    obtain ⟨data, i⟩ := m
    rw [List.cons_append]
    cases hp : o.pend now i data with
    | error _ => rw [collect_error hp, collect_error hp, ih]
    | ok p => rw [collect_ok hp, collect_ok hp, ih, List.cons_append]

/-- The inputs are those of the survivors, and the indices lead back to them. -/
lemma tier1Batch_spec (pre ps : List Pending) :
    (tier1Batch pre.length ps).1 = (ps.filter (!·.hit0)).map Pending.predictRequest ∧
      (tier1Batch pre.length ps).2.map (fun idx => (pre ++ ps)[idx]?) =
        (ps.filter (!·.hit0)).map some := by
  induction ps generalizing pre with
  | nil => exact ⟨rfl, rfl⟩
  | cons p ps ih =>
    obtain ⟨ih1, ih2⟩ := ih (pre ++ [p])
    rw [List.length_append, List.length_singleton, List.append_assoc, List.singleton_append] at ih2
    rw [List.length_append, List.length_singleton] at ih1
    unfold tier1Batch
    cases hp : p.hit0 with
    | true =>
      rw [List.filter_cons_of_neg (by simp [hp])]
      exact ⟨ih1, ih2⟩
    | false =>
      rw [List.filter_cons_of_pos (by simp [hp])]
      refine ⟨?_, ?_⟩
      · simp only [Bool.false_eq_true, if_false, List.map_cons, ih1]
      · simp only [Bool.false_eq_true, if_false, List.map_cons, ih2]
        simp

/-- `finalisePending` over a list of entries and their results. -/
def finaliseAll (o : BatchOrchestrator) (now : ℕ) (jobs : List (Pending × EvaluateResult))
    (log : List Effect) : List Effect :=
  jobs.foldl (fun log job => o.finalisePending now job.1 job.2 log) log

/-- The Tier 1 loop pairs the survivors with the responses, place by place, and never indexes out of
range. -/
lemma tier1Loop_eq {out : List PredictResponse} {ps qs : List Pending} {j : ℕ} {indices : List ℕ}
    (hidx : indices.map (fun idx => ps[idx]?) = qs.map some) (hlen : out.length = j + qs.length)
    (log : List Effect) :
    o.tier1Loop now out ps j indices log =
      some (o.finaliseAll now
        ((qs.zip (out.drop j)).map fun q => (q.1, o.tier1Result now q.1 q.2)) log) := by
  induction qs generalizing j indices log with
  | nil =>
    obtain rfl : indices = [] := by simpa using hidx
    rfl
  | cons q qs ih =>
    obtain _ | ⟨idx, indices⟩ := indices
    · cases hidx
    · simp only [List.map_cons, List.cons.injEq] at hidx
      rw [List.length_cons] at hlen
      have hj : j < out.length := by omega
      rw [tier1Loop, hidx.1, List.getElem?_eq_getElem hj, List.drop_eq_getElem_cons hj]
      exact ih hidx.2 (by omega) _

lemma nakGroup_eq {ps qs : List Pending} {indices : List ℕ}
    (hidx : indices.map (fun idx => ps[idx]?) = qs.map some) (log : List Effect) :
    nakGroup ps indices log = some (log ++ qs.map fun q => .nak q.msg) := by
  induction qs generalizing indices log with
  | nil =>
    obtain rfl : indices = [] := by simpa using hidx
    simp [nakGroup]
  | cons q qs ih =>
    obtain _ | ⟨idx, indices⟩ := indices
    · cases hidx
    · simp only [List.map_cons, List.cons.injEq] at hidx
      rw [nakGroup, hidx.1]
      simp [ih hidx.2]

end Loops

/-! ### One block per message -/

section Blocks

variable {o : BatchOrchestrator} {now : ℕ} {msgs : List (List UInt8)}

lemma Block.tag {i : ℕ} {b : List Effect} (h : o.Block now msgs i b) : ∀ e ∈ b, e.msg = i := by
  intro e he
  rcases h with ⟨rfl, -⟩ | ⟨res, rfl, -⟩ | ⟨res, ss, rfl, -, hs⟩
  · obtain rfl := List.mem_singleton.mp he
    rfl
  · simp only [List.mem_cons, List.not_mem_nil, or_false] at he
    rcases he with rfl | rfl <;> rfl
  · simp only [List.cons_append, List.mem_cons, List.mem_append, List.not_mem_nil, or_false] at he
    rcases he with rfl | he | rfl
    · rfl
    · obtain ⟨upd, rfl⟩ := hs e he
      rfl
    · rfl

lemma written_naks {l : List Effect} (h : ∀ e ∈ l, ∃ i, e = .nak i ∧ o.Refused now msgs i) :
    Written (o.Block now msgs) (l.map Effect.msg) l := by
  induction l with
  | nil => exact .nil
  | cons e l ih =>
    obtain ⟨i, rfl, hi⟩ := h e List.mem_cons_self
    exact .cons (b := [.nak i]) (Or.inl ⟨rfl, hi⟩) (ih fun e he => h e (List.mem_cons_of_mem _ he))

/-- `finalisePending` writes one block. -/
lemma finalisePending_block {p : Pending} {res : EvaluateResult} (log : List Effect)
    (h : o.ResultOf now msgs p.msg (o.finalised now p res)) :
    ∃ b, o.finalisePending now p res log = log ++ b ∧ o.Block now msgs p.msg b := by
  unfold finalisePending
  dsimp only
  split_ifs
  · refine ⟨_, rfl, Or.inr (Or.inr ⟨_, _, rfl, h, fun e he => ?_⟩)⟩
    unfold publishCommHistoryUpdate at he
    split at he
    · cases he
    · split at he
      · cases he
      · exact ⟨_, List.mem_singleton.mp he⟩
  · exact ⟨_, rfl, Or.inr (Or.inl ⟨_, rfl, h⟩)⟩

lemma finaliseAll_written (jobs : List (Pending × EvaluateResult)) (log : List Effect)
    (h : ∀ job ∈ jobs, o.ResultOf now msgs job.1.msg (o.finalised now job.1 job.2)) :
    ∃ rest, o.finaliseAll now jobs log = log ++ rest ∧
      Written (o.Block now msgs) (jobs.map fun job => job.1.msg) rest := by
  induction jobs generalizing log with
  | nil => exact ⟨[], by simp [finaliseAll], .nil⟩
  | cons job jobs ih =>
    obtain ⟨b, hb, hblock⟩ := finalisePending_block log (h job List.mem_cons_self)
    obtain ⟨rest, hrest, hw⟩ := ih (log ++ b) fun j hj => h j (List.mem_cons_of_mem _ hj)
    refine ⟨b ++ rest, ?_, .cons hblock hw⟩
    rw [finaliseAll, List.foldl_cons, hb, ← List.append_assoc]
    exact hrest

lemma decodes_of_mem {p : Pending} (h : p ∈ (o.collect now msgs.zipIdx).2) :
    o.Decodes now msgs p.msg p := by
  obtain ⟨data, hmem, hpend⟩ := collect_pending h
  exact ⟨data, List.mem_zipIdx_iff_getElem?.mp hmem, hpend⟩

lemma zipIdx_snd_nodup : (msgs.zipIdx.map Prod.snd).Nodup := by
  rw [List.zipIdx_map_snd]
  exact List.nodup_range'

lemma pendings_nodup : ((o.collect now msgs.zipIdx).2.map Pending.msg).Nodup :=
  ((collect_perm msgs.zipIdx).nodup_iff.mpr zipIdx_snd_nodup).of_append_right

/-- The survivor at place `j` is the message whose Tier 1 position is `j`. -/
lemma tier1Position_eq {j : ℕ} {p : Pending} (h : (o.survivors now msgs.zipIdx)[j]? = some p) :
    o.tier1Position now msgs p.msg = j := by
  obtain ⟨hp, hhit⟩ := List.mem_filter.mp (List.mem_of_getElem? h)
  obtain ⟨data, hdata, hpend⟩ := decodes_of_mem hp
  have hi : p.msg < msgs.length := (List.getElem?_eq_some_iff.mp hdata).1
  -- cut the batch at the message: everything before it is what `tier1Position` counts
  have hcut : msgs.zipIdx =
      msgs.zipIdx.take p.msg ++ (data, p.msg) :: msgs.zipIdx.drop (p.msg + 1) := by
    have hget : msgs.zipIdx[p.msg]? = some (data, p.msg) := by simp [hdata]
    obtain ⟨hlt, hval⟩ := List.getElem?_eq_some_iff.mp hget
    rw [← hval, List.getElem_cons_drop, List.take_append_drop]
  have hsplit : o.survivors now msgs.zipIdx = o.survivors now (msgs.zipIdx.take p.msg) ++
      p :: o.survivors now (msgs.zipIdx.drop (p.msg + 1)) := by
    conv_lhs => rw [hcut]
    simp only [survivors, collect_append, collect_ok hpend, List.filter_append,
      List.filter_cons_of_pos (p := fun q : Pending => !q.hit0) hhit]
  have hat : (o.survivors now msgs.zipIdx)[o.tier1Position now msgs p.msg]? = some p := by
    rw [hsplit, tier1Position, List.getElem?_append_right le_rfl, Nat.sub_self]
    rfl
  have hnd : (o.survivors now msgs.zipIdx).Nodup := (List.Nodup.of_map _ pendings_nodup).filter _
  exact (List.getElem?_inj (List.getElem?_eq_some_iff.mp hat).1 hnd).mp (hat.trans h.symm)

/-- A response at the place of a survivor gives its result. -/
lemma resultOf_tier1 {out : List PredictResponse} {q : Pending × PredictResponse}
    (hout : o.tier1Answer now msgs = .ok out) (hq : q ∈ (o.survivors now msgs.zipIdx).zip out) :
    o.ResultOf now msgs q.1.msg (o.finalised now q.1 (o.tier1Result now q.1 q.2)) := by
  obtain ⟨j, hj⟩ := List.mem_iff_getElem?.mp hq
  obtain ⟨hp, hr⟩ := List.getElem?_zip_eq_some.mp hj
  obtain ⟨hmem, hhit⟩ := List.mem_filter.mp (List.mem_of_getElem? hp)
  refine ⟨q.1, decodes_of_mem hmem, Or.inr ⟨by simpa using hhit, q.2, ⟨out, hout, ?_⟩, rfl⟩⟩
  rw [tier1Position_eq hp]
  exact hr

/-- When Tier 1 fails every survivor is refused. -/
lemma survivors_refused {err : String} (hpb : o.tier1Answer now msgs = .error err) :
    Written (o.Block now msgs) ((o.survivors now msgs.zipIdx).map Pending.msg)
      ((o.survivors now msgs.zipIdx).map fun q => Effect.nak q.msg) := by
  have hmsg : (o.survivors now msgs.zipIdx).map Pending.msg =
      ((o.survivors now msgs.zipIdx).map fun q => Effect.nak q.msg).map Effect.msg := by
    simp [Effect.msg]
  rw [hmsg]
  refine written_naks fun e he => ?_
  obtain ⟨q, hq, rfl⟩ := List.mem_map.mp he
  obtain ⟨hmem, hhit⟩ := List.mem_filter.mp hq
  exact ⟨q.msg, rfl, Or.inr ⟨q, err, decodes_of_mem hmem, by simpa using hhit, hpb⟩⟩

/-- When Tier 1 answers every survivor is finalised with its own response. -/
lemma survivors_finalised {out : List PredictResponse} (hpb : o.tier1Answer now msgs = .ok out)
    (hout : out.length = (o.survivors now msgs.zipIdx).length) (log : List Effect) :
    ∃ rest, o.finaliseAll now (((o.survivors now msgs.zipIdx).zip out).map
        fun q => (q.1, o.tier1Result now q.1 q.2)) log = log ++ rest ∧
      Written (o.Block now msgs) ((o.survivors now msgs.zipIdx).map Pending.msg) rest := by
  have hjobs : ∀ job ∈ ((o.survivors now msgs.zipIdx).zip out).map
      fun q => (q.1, o.tier1Result now q.1 q.2),
      o.ResultOf now msgs job.1.msg (o.finalised now job.1 job.2) := by
    intro job hjob
    obtain ⟨q, hq, rfl⟩ := List.mem_map.mp hjob
    exact resultOf_tier1 hpb hq
  have hfst : ((o.survivors now msgs.zipIdx).zip out).map Prod.fst = o.survivors now msgs.zipIdx :=
    List.map_fst_zip (by omega)
  have hmsg : (((o.survivors now msgs.zipIdx).zip out).map
      fun q => (q.1, o.tier1Result now q.1 q.2)).map (fun job => job.1.msg) =
      (o.survivors now msgs.zipIdx).map Pending.msg := by
    conv_rhs => rw [← hfst, List.map_map]
    rw [List.map_map]
    rfl
  rw [← hmsg]
  exact finaliseAll_written _ log hjobs

variable (now msgs) in
/-- The Tier 1 stage writes a block for every survivor. -/
lemma tier1Stage_written
    (hlen : ∀ items out, o.predictBatch items = .ok out → out.length = items.length)
    (log : List Effect) :
    ∃ rest, o.tier1Stage now (o.collect now msgs.zipIdx).2 log = some (log ++ rest) ∧
      Written (o.Block now msgs) ((o.survivors now msgs.zipIdx).map Pending.msg) rest := by
  obtain ⟨hin, hidx⟩ : (tier1Batch 0 (o.collect now msgs.zipIdx).2).1 =
        (o.survivors now msgs.zipIdx).map Pending.predictRequest ∧
      (tier1Batch 0 (o.collect now msgs.zipIdx).2).2.map
        (fun idx => (o.collect now msgs.zipIdx).2[idx]?) = (o.survivors now msgs.zipIdx).map some :=
    tier1Batch_spec [] (o.collect now msgs.zipIdx).2
  unfold tier1Stage
  dsimp only
  rw [hin]
  split_ifs with hempty
  · -- nothing survived the gate
    rw [List.map_eq_nil_iff.mp hempty] at hidx ⊢
    rw [List.map_eq_nil_iff.mp hidx]
    exact ⟨[], by simp [tier1Loop], .nil⟩
  · cases hpb : o.predictBatch ((o.survivors now msgs.zipIdx).map Pending.predictRequest) with
    | error err => exact ⟨_, nakGroup_eq hidx log, survivors_refused hpb⟩
    | ok out =>
      have hout : out.length = (o.survivors now msgs.zipIdx).length := by
        simpa using hlen _ _ hpb
      obtain ⟨rest, hrest, hw⟩ := survivors_finalised hpb hout log
      refine ⟨rest, ?_, hw⟩
      rw [← hrest]
      exact tier1Loop_eq hidx (by omega) log

variable (now msgs) in
/-- **One block per message.** -/
theorem processBatch_written
    (hlen : ∀ items out, o.predictBatch items = .ok out → out.length = items.length) :
    ∃ log ks, o.processBatch now msgs = some log ∧ Written (o.Block now msgs) ks log ∧
      ks.Perm (List.range msgs.length) := by
  obtain ⟨rest, hrest, hw⟩ :=
    tier1Stage_written now msgs hlen (o.collect now msgs.zipIdx).1
  have hnaks : Written (o.Block now msgs) ((o.collect now msgs.zipIdx).1.map Effect.msg)
      (o.collect now msgs.zipIdx).1 := by
    refine written_naks fun e he => ?_
    obtain ⟨data, i, err, hmem, rfl, hpend⟩ := collect_nak he
    exact ⟨i, rfl, Or.inl ⟨data, err, List.mem_zipIdx_iff_getElem?.mp hmem, hpend⟩⟩
  -- the last loop, over the Tier 0 hits
  have hjobs : ∀ job ∈ ((o.collect now msgs.zipIdx).2.filter (·.hit0)).map fun p => (p, p.tier0Result),
      o.ResultOf now msgs job.1.msg (o.finalised now job.1 job.2) := by
    intro job hjob
    obtain ⟨p, hp, rfl⟩ := List.mem_map.mp hjob
    obtain ⟨hmem, hhit⟩ := List.mem_filter.mp hp
    exact ⟨p, decodes_of_mem hmem, Or.inl ⟨hhit, rfl⟩⟩
  obtain ⟨hits, hhits, hwh⟩ := finaliseAll_written _ ((o.collect now msgs.zipIdx).1 ++ rest) hjobs
  refine ⟨_, _, ?_, (hnaks.append hw).append hwh, ?_⟩
  · rw [processBatch]
    dsimp only
    rw [hrest, Option.map_some, ← hhits, finaliseAll, List.foldl_map]
  · have hgroups : ((o.survivors now msgs.zipIdx).map Pending.msg ++
        ((o.collect now msgs.zipIdx).2.filter (·.hit0)).map Pending.msg).Perm
        ((o.collect now msgs.zipIdx).2.map Pending.msg) := by
      rw [← List.map_append]
      exact (List.perm_append_comm.trans (List.filter_append_perm _ _)).map _
    rw [List.append_assoc, List.map_map, List.range_eq_range', ← List.zipIdx_map_snd]
    exact (hgroups.append_left _).trans (collect_perm msgs.zipIdx)

end Blocks

/-! ### What a message gets -/

section Settled

variable (o : BatchOrchestrator) (now : ℕ) (msgs : List (List UInt8))

/-- An ack or a nak of message `i`. -/
def settles (i : ℕ) : Effect → Bool
  | .nak j | .ack j => j = i
  | _ => false

/-- A successful publish for message `i`. -/
def publishes (i : ℕ) : Effect → Bool
  | .published j _ => j = i
  | _ => false

/-- The ids of a published result: those of the request, unless the fallback's own result sets others. -/
def IdsOf (p : Pending) (res : EvaluateResult) : Prop :=
  (res.messageID = p.req.messageID ∧ res.tenantID = p.req.tenantID) ∨
    ∃ f full, o.fallback = some f ∧ f p.msg p.req p.sig = .ok full ∧
      res.messageID = (if full.messageID = "" then p.req.messageID else full.messageID) ∧
      res.tenantID = (if full.tenantID = "" then p.req.tenantID else full.tenantID)

/-- What a cycle with the journal `log` does for message `i`. -/
structure Settled (log : List Effect) (i : ℕ) : Prop where
  /-- exactly one ack or nak -/
  once : log.countP (settles i) = 1
  /-- no ack before a publish -/
  acked : ∀ before after, log = before ++ .ack i :: after → ∃ res, .published i res ∈ before
  /-- one publish for an acked message -/
  published : .ack i ∈ log → log.countP (publishes i) = 1
  /-- what is published is the result of this message, with the Tier 1 response at its own place -/
  result : ∀ res, .published i res ∈ log → o.ResultOf now msgs i res
  ids : ∀ res, .published i res ∈ log → ∃ p, o.Decodes now msgs i p ∧ o.IdsOf p res ∧
    ((∀ f, o.fallback = some f → ∃ (e : Config) (t : ℕ), f = fun _ => e.evaluate t) →
      res.messageID = p.req.messageID ∧ res.tenantID = p.req.tenantID)

variable {o now msgs}

lemma finalised_ids (p : Pending) (res : EvaluateResult) :
    (o.finalised now p res).messageID =
        (if res.messageID = "" then p.req.messageID else res.messageID) ∧
      (o.finalised now p res).tenantID =
        (if res.tenantID = "" then p.req.tenantID else res.tenantID) := by
  unfold finalised stampResultParticipantHashes
  cases o.sightingFor p.req <;> exact ⟨rfl, rfl⟩

lemma propagateTier0OntoResult_ids (res : EvaluateResult) (outcome : Tier0Outcome) :
    (propagateTier0OntoResult res outcome).messageID = res.messageID ∧
      (propagateTier0OntoResult res outcome).tenantID = res.tenantID := by
  unfold propagateTier0OntoResult
  dsimp only
  split_ifs <;> exact ⟨rfl, rfl⟩

lemma aggregateLightweight_ids (res : EvaluateResult) (sig : RiskSignals) (w : Weights) :
    (o.aggregateLightweight res sig w).messageID = res.messageID ∧
      (o.aggregateLightweight res sig w).tenantID = res.tenantID := by
  unfold aggregateLightweight
  cases o.categorizer <;> cases o.tierDecider <;> exact ⟨rfl, rfl⟩

lemma pend_tier0Result {i : ℕ} {data : List UInt8} {p : Pending} (h : o.pend now i data = .ok p)
    (hhit : p.hit0 = true) : p.tier0Result = tier0BypassResult now p.req p.tier0Outcome := by
  unfold pend at h
  split at h
  · cases h
  · dsimp only at h
    split at h
    · cases h
      cases hhit
    · split at h
      · cases h
        rfl
      · cases h
        cases hhit

lemma fallbackResult_some {p : Pending} {resp : PredictResponse} {full : EvaluateResult}
    (h : o.fallbackResult p resp = some full) :
    ∃ f, o.fallback = some f ∧ f p.msg p.req p.sig = .ok full := by
  unfold fallbackResult at h
  split_ifs at h
  obtain ⟨f, hf, hfull⟩ := Option.bind_eq_some_iff.mp h
  refine ⟨f, hf, ?_⟩
  cases hev : f p.msg p.req p.sig with
  | error _ =>
    rw [hev] at hfull
    cases hfull
  | ok full' =>
    rw [hev] at hfull
    cases hfull
    rfl

lemma resultOf_ids {i : ℕ} {res : EvaluateResult} (h : o.ResultOf now msgs i res) :
    ∃ p, o.Decodes now msgs i p ∧ o.IdsOf p res := by
  obtain ⟨p, hp, ⟨hhit, rfl⟩ | ⟨-, resp, -, rfl⟩⟩ := h
  · refine ⟨p, hp, Or.inl ?_⟩
    obtain ⟨data, -, hpend⟩ := hp
    rw [pend_tier0Result hpend hhit, (finalised_ids _ _).1, (finalised_ids _ _).2]
    exact ⟨ite_self _, ite_self _⟩
  · refine ⟨p, hp, ?_⟩
    unfold tier1Result
    dsimp only
    cases hf : o.fallbackResult p resp with
    | none =>
      refine Or.inl ?_
      simp only [finalised_ids, propagateTier0OntoResult_ids, aggregateLightweight_ids]
      exact ⟨ite_self _, ite_self _⟩
    | some full =>
      obtain ⟨f, hfb, hfull⟩ := fallbackResult_some hf
      refine Or.inr ⟨f, full, hfb, hfull, ?_⟩
      simp only [finalised_ids, propagateTier0OntoResult_ids, and_self]

/-- With an `Evaluator` behind it the fallback sets no other ids. -/
lemma idsOf_evaluator {p : Pending} {res : EvaluateResult} (h : o.IdsOf p res)
    (he : ∀ f, o.fallback = some f → ∃ (e : Config) (t : ℕ), f = fun _ => e.evaluate t) :
    res.messageID = p.req.messageID ∧ res.tenantID = p.req.tenantID := by
  rcases h with h | ⟨f, full, hf, hfull, hm, ht⟩
  · exact h
  · obtain ⟨e, t, rfl⟩ := he f hf
    obtain ⟨hidm, hidt⟩ := evaluate_ids hfull
    rw [hidm, ite_self] at hm
    rw [hidt, ite_self] at ht
    exact ⟨hm, ht⟩

lemma Block.settles_once {i : ℕ} {b : List Effect} (h : o.Block now msgs i b) :
    b.countP (settles i) = 1 := by
  rcases h with ⟨rfl, -⟩ | ⟨res, rfl, -⟩ | ⟨res, ss, rfl, -, hs⟩
  · simp [settles]
  · simp [settles]
  · have hnone : ss.countP (settles i) = 0 := by
      refine List.countP_eq_zero.mpr fun e he => ?_
      obtain ⟨upd, rfl⟩ := hs e he
      simp [settles]
    simp [settles, hnone]

/-- An ack ends its block, and the block starts with the publish. -/
lemma Block.acked {i : ℕ} {b : List Effect} (h : o.Block now msgs i b) (hack : .ack i ∈ b) :
    ∃ res ss, b = .published i res :: ss ++ [.ack i] ∧ ∀ e ∈ ss, ∃ upd, e = .sighting i upd := by
  rcases h with ⟨rfl, -⟩ | ⟨res, rfl, -⟩ | ⟨res, ss, rfl, -, hs⟩
  · simp at hack
  · simp at hack
  · exact ⟨res, ss, rfl, hs⟩

lemma Block.result {i : ℕ} {b : List Effect} (h : o.Block now msgs i b) {res : EvaluateResult}
    (hres : .published i res ∈ b) : o.ResultOf now msgs i res := by
  rcases h with ⟨rfl, -⟩ | ⟨res', rfl, -⟩ | ⟨res', ss, rfl, hr, hs⟩
  · simp at hres
  · simp at hres
  · simp only [List.cons_append, List.mem_cons, List.mem_append, List.not_mem_nil, or_false,
      reduceCtorEq] at hres
    rcases hres with heq | hss
    · cases heq
      exact hr
    · obtain ⟨upd, hupd⟩ := hs _ hss
      cases hupd

/-- From the block of a message to what the whole journal does for it. -/
lemma settled_of_block {log : List Effect} {i : ℕ}
    (h : o.Block now msgs i (log.filter fun e => e.msg = i)) : o.Settled now msgs log i := by
  have hcount : ∀ q : Effect → Bool, (∀ e, q e = true → e.msg = i) →
      log.countP q = (log.filter fun e => e.msg = i).countP q := by
    intro q hq
    rw [List.countP_filter]
    refine List.countP_congr fun e _ => ?_
    by_cases he : q e = true
    · simp [he, hq e he]
    · simp [he]
  have hmem : ∀ e : Effect, e.msg = i → e ∈ log → e ∈ log.filter fun e => e.msg = i :=
    fun e he hlog => List.mem_filter.mpr ⟨hlog, decide_eq_true he⟩
  have hresult : ∀ res, .published i res ∈ log → o.ResultOf now msgs i res :=
    fun res hres => h.result (hmem _ rfl hres)
  refine ⟨?_, ?_, ?_, hresult, fun res hres => ?_⟩
  · rw [hcount (settles i) fun e he => by cases e <;> simp_all [settles, Effect.msg]]
    exact h.settles_once
  · rintro before after rfl
    obtain ⟨res, ss, hb, hs⟩ := h.acked (hmem _ rfl (by simp))
    -- the publish is in the block of `i`, and the ack is its last entry
    rw [List.filter_append, List.filter_cons_of_pos (by simp [Effect.msg])] at hb
    cases hbefore : before.filter fun e => e.msg = i with
    | nil =>
      rw [hbefore] at hb
      simp at hb
    | cons e rest =>
      rw [hbefore] at hb
      simp only [List.cons_append, List.cons.injEq] at hb
      have hpub : .published i res ∈ before.filter fun e => e.msg = i := by
        rw [hbefore, hb.1]
        exact List.mem_cons_self
      exact ⟨res, (List.mem_filter.mp hpub).1⟩
  · intro hack
    rw [hcount (publishes i) fun e he => by cases e <;> simp_all [publishes, Effect.msg]]
    obtain ⟨res, ss, hb, hs⟩ := h.acked (hmem _ rfl hack)
    have hnone : ss.countP (publishes i) = 0 := by
      refine List.countP_eq_zero.mpr fun e he => ?_
      obtain ⟨upd, rfl⟩ := hs e he
      simp [publishes]
    rw [hb]
    simp [publishes, hnone]
  · obtain ⟨p, hp, hids⟩ := resultOf_ids (hresult res hres)
    exact ⟨p, hp, hids, idsOf_evaluator hids⟩

variable (now msgs) in
/-- A cycle on a fetched batch does not panic, and its journal seen from one message is a block. -/
lemma processOnce_block
    (hlen : ∀ items out, o.predictBatch items = .ok out → out.length = items.length) :
    ∃ log, o.processOnce now (.ok msgs) = some (.ok log) ∧
      ∀ i < msgs.length, o.Block now msgs i (log.filter fun e => e.msg = i) := by
  obtain ⟨log, ks, hlog, hw, hperm⟩ := processBatch_written now msgs hlen
  refine ⟨log, by rw [processOnce, hlog]; rfl, fun i hi => ?_⟩
  refine hw.project (fun k b hb => hb.tag) (hperm.nodup_iff.mpr List.nodup_range) ?_
  exact hperm.mem_iff.mpr (List.mem_range.mpr hi)

/-- **Every message is settled once.** A cycle on a fetched batch does not panic, and every message of the
batch gets exactly one ack or nak, its ack only after its own result was published once. -/
theorem processOnce_settles
    (hlen : ∀ items out, o.predictBatch items = .ok out → out.length = items.length) :
    ∃ log, o.processOnce now (.ok msgs) = some (.ok log) ∧
      ∀ i < msgs.length, o.Settled now msgs log i := by
  obtain ⟨log, hlog, hblock⟩ := processOnce_block now msgs hlen
  exact ⟨log, hlog, fun i hi => settled_of_block (hblock i hi)⟩

end Settled

/-- A message on the request subject. -/
def requestPayload : List UInt8 :=
  bytesOf "\x7b\"request\":\x7b\"message_id\":\"m\",\"tenant_id\":\"t\"\x7d,\"signals\":\x7b\x7d\x7d"

/-- An orchestrator that can read this message, whose Tier 1 answers 40 and whose fallback returns `full`. -/
def escalating (full : EvaluateResult) : BatchOrchestrator where
  unmarshalBatchMessage data :=
    if data = requestPayload then .ok ⟨{ messageID := "m", tenantID := "t" }, {}⟩
    else .error "unexpected end of JSON input"
  unmarshalRequest := fun _ => .error "unexpected end of JSON input"
  predictBatch := fun items => .ok (items.map fun _ => { score := 40 })
  fallback := some fun _ _ _ => .ok full
  publishResult := fun _ _ => true

theorem processOnce_settles_escalating :
    ∃ log, (escalating {}).processOnce 1 (.ok [requestPayload, []]) = some (.ok log) ∧
      ∀ i < 2, (escalating {}).Settled 1 [requestPayload, []] log i :=
  processOnce_settles fun items out h => by
    cases h
    simp

/-- A fallback whose result names another message: the message is acked and no result with its own id was
published. -/
theorem processOnce_other_id :
    ¬ ∀ (o : BatchOrchestrator) (now : ℕ) (msgs : List (List UInt8)) (log : List Effect),
        (∀ items out, o.predictBatch items = .ok out → out.length = items.length) →
        o.processOnce now (.ok msgs) = some (.ok log) →
        ∀ i before after, log = before ++ .ack i :: after →
          ∃ p res, o.Decodes now msgs i p ∧ .published i res ∈ before ∧
            res.messageID = p.req.messageID ∧ res.tenantID = p.req.tenantID := by
  intro h
  obtain ⟨p, res, ⟨data, hdata, hpend⟩, hpub, hid, -⟩ := h (escalating { messageID := "other" }) 1 [requestPayload]
    [.published 0 { messageID := "other", tenantID := "t", evaluatedAt := 1, tier0 := some {} }, .ack 0]
    (fun items out h => by cases h; simp) (by decide +kernel) 0 [_] [] rfl
  obtain rfl : requestPayload = data := Option.some.inj hdata
  have hdecoded : (escalating { messageID := "other" }).pend 1 0 requestPayload =
      .ok { msg := 0, req := { messageID := "m", tenantID := "t" }, sig := {} } := by decide +kernel
  cases hpend.symm.trans hdecoded
  cases List.mem_singleton.mp hpub
  exact absurd hid (by decide)

end BatchOrchestrator

end Sn360Es.Evaluate
