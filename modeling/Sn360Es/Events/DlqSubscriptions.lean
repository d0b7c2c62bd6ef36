import Sn360Es.Events.DeadLetter
import Mathlib.Algebra.Order.BigOperators.Group.List
import Mathlib.Data.List.Perm.Basic

/-!
# The subscriptions of the dead-letter processor (`internal/service/dlq_processor.go`, `pkg/events/nats/service.go`)

`DLQProcessor.Start` subscribes to every listed subject with the same durable name. All of them are in one stream, so
there is one consumer, and it keeps the filter of the last subscription.

* `covers_iff` — when a filter lets through all that another one does;
* `startLoop_ok` — what the broker has after `Start`;
* `dlq_subscriptions_see_iff` — the dead letters are seen exactly if the last subject covers the others, and the
  default subjects have the dead letters of every stream but those of the management and of the dead letters themselves.
-/

namespace Sn360Es.Events

/-! ### Streams -/

/-- The subjects of `DefaultStreamSpecs`, with their streams: the map that `NewService` builds. -/
def streamPatterns : List (String × String) :=
  [("es.evaluate.request", "ES_EVALUATE"), ("es.evaluate.request.>", "ES_EVALUATE"),
    ("es.evaluate.result", "ES_EVALUATE_RESULT"), ("es.evaluate.result.>", "ES_EVALUATE_RESULT"),
    ("es.onboarding.>", "ES_ONBOARDING"), ("es.education.>", "ES_EDUCATION"), ("es.action.>", "ES_ACTION"),
    ("es.management.>", "ES_MANAGEMENT"), ("es.dlq.>", "ES_DLQ"), ("sn360.dlq.webhook.>", "SN360_WEBHOOK_DLQ"),
    ("sn360.dlq.schema.>", "SN360_SCHEMA_DLQ"), ("soc.>", "sn360-platform")]

/-- `StreamForSubject`. -/
def streamForSubject (subject : String) : String :=
  let under (p : String) : Bool := p.toList.isPrefixOf subject.toList
  if under "sn360.dlq.schema." then "SN360_SCHEMA_DLQ"
  else if under "es.dlq." then "ES_DLQ"
  else if subject = "es.evaluate.result" ∨ under "es.evaluate.result." then "ES_EVALUATE_RESULT"
  else if subject = "es.evaluate.request" ∨ under "es.evaluate.request." then "ES_EVALUATE"
  else if under "es.onboarding." then "ES_ONBOARDING"
  else if under "es.education." then "ES_EDUCATION"
  else if under "es.action." then "ES_ACTION"
  else if under "es.management." then "ES_MANAGEMENT"
  else if subject = "soc" ∨ under "soc." then "sn360-platform"
  else if under "sn360.dlq.webhook." then "SN360_WEBHOOK_DLQ"
  else ""

/-- The map of a `Service` from subjects to streams, in the order of an iteration. -/
structure Service where
  streamFor : List (String × String)

/-- `Service.streamForSubject`. -/
def Service.streamForSubject (svc : Service) (subject : String) : String :=
  match svc.streamFor.find? (·.1 = subject) with
  | some p => p.2
  | none =>
    match svc.streamFor.find? fun p => subjectMatches p.1 subject with
    | some p => p.2
    | none => Events.streamForSubject subject

/-- The stream that stores the messages of a subject. -/
def storedIn (subject : String) : Option String :=
  (streamPatterns.find? fun p => subjectMatches p.1 subject).map (·.2)

/-! ### Subscriptions -/

/-- The filters of the durable consumers, by their stream and their name. -/
abbrev Broker := String × String → Option String

/-- The white space that the server looks for in a subject. -/
def subjectBlanks : List Char := ['\t', '\n', '\x0c', '\r', ' ']

/-- The server's check of a filter: no token is empty or has white space, and `>` is the last one. -/
def validSubject (subject : String) : Bool :=
  (splitTokens subject).all (fun t => t ≠ "" && t.toList.all (· ∉ subjectBlanks)) &&
    (splitTokens subject).dropLast.all (· ≠ ">")

inductive SubscribeError where
  | subjectRequired
  | durableRequired
  | noStream (subject : String)
  /-- The error of `CreateOrUpdateConsumer`. -/
  | create (durable stream err : String)
  deriving DecidableEq, Repr

/-- `Service.Subscribe` with a durable name and no other filter. The connection may `fail`. -/
def Service.subscribe (svc : Service) (b : Broker) (fail : Option String) (subject durable : String) :
    Except SubscribeError Broker :=
  if subject = "" then .error .subjectRequired
  else if durable = "" then .error .durableRequired
  else if svc.streamForSubject subject = "" then .error (.noStream subject)
  else
    match fail with
    | some err => .error (.create durable (svc.streamForSubject subject) err)
    | none =>
      if validSubject subject then .ok (Function.update b (svc.streamForSubject subject, durable) (some subject))
      else .error (.create durable (svc.streamForSubject subject) "consumer filter subject is not valid")

/-- `DefaultSubjects`. -/
def defaultSubjects : List String := ["es.dlq.evaluate", "es.dlq.action", "es.dlq.onboarding", "es.dlq.education"]

/-- The subjects and the group of `DLQProcessorConfig`. -/
structure DLQProcessorConfig where
  subjects : List String := []
  group : String := ""

/-- `NewDLQProcessor`, as far as the subscriptions go. -/
def DLQProcessorConfig.withDefaults (cfg : DLQProcessorConfig) : DLQProcessorConfig where
  subjects := if cfg.subjects.isEmpty then defaultSubjects else cfg.subjects
  group := if cfg.group = "" then "dlq-processor" else cfg.group

/-- The loop of `Start`, with the subject that it fails on. -/
def startLoop (svc : Service) (group : String) :
    Broker → (ℕ → Option String) → List String → Except (String × SubscribeError) Broker
  | b, _, [] => .ok b
  | b, fail, subj :: subjects =>
    match svc.subscribe b (fail 0) subj group with
    | .error err => .error (subj, err)
    | .ok b' => startLoop svc group b' (fun k => fail (k + 1)) subjects

/-- `DLQProcessor.Start`. -/
def DLQProcessorConfig.start (cfg : DLQProcessorConfig) (svc : Service) (b : Broker)
    (fail : ℕ → Option String) : Except (String × SubscribeError) Broker :=
  startLoop svc cfg.withDefaults.group b fail cfg.withDefaults.subjects

/-- A message of the subject goes to the consumers of a durable name. -/
def Broker.delivers (b : Broker) (durable subject : String) : Bool :=
  match (storedIn subject).bind fun stream => b (stream, durable) with
  | some filter => subjectMatches filter subject
  | none => false

/-- The subjects that the consumers of the service subscribe to in the streams `es.*`
(`cmd/sn360-es/consumers.go`). -/
def consumerSubjects : List String :=
  ["es.evaluate.result", "es.action.feedback.>", "es.evaluate.request", "es.action.label", "es.action.banner",
    "es.action.url_rewrite", "es.action.quarantine", "es.education.simulation.send",
    "es.education.simulation.result", "es.onboarding.>", "es.action.quarantine.release",
    "es.management.comm_history.update", "es.action.escalation.>"]

/-! ### What a filter covers -/

/-- A subject of a message: no token is empty or a wildcard. -/
def Literal (subject : String) : Prop := ∀ t ∈ splitTokens subject, t ≠ "" ∧ t ≠ "*" ∧ t ≠ ">"

def coversTokens : List String → List String → Bool
  | [], qs => qs.isEmpty
  | p :: ps, qs =>
    if p = ">" then !qs.isEmpty
    else
      match qs with
      | [] => false
      | q :: qs => q ≠ ">" && (p = "*" || p = q) && coversTokens ps qs

/-- The filter `p` lets through what `q` does: it is the same but for wildcards in the place of tokens. -/
def covers (p q : String) : Bool := coversTokens (splitTokens p) (splitTokens q)

example : covers "es.dlq.>" "es.dlq.action" ∧ covers "es.dlq.*" "es.dlq.action" ∧
    ¬ covers "es.dlq.*" "es.dlq.>" ∧ ¬ covers "es.dlq.education" "es.dlq.action" := by decide

section Tokens

variable {c : Char} {s : String} {ps qs ss : List String}

lemma not_mem_of_mem_splitOn {cs : List Char} : ∀ t ∈ cs.splitOn c, c ∉ t := by
  induction cs with
  | nil => simp
  | cons x cs ih =>
    rw [List.splitOn_cons_eq_if_modifyHead]
    split
    · simpa using ih
    · next hx =>
      obtain ⟨t, ts, hts⟩ := List.exists_cons_of_ne_nil (List.splitOn_ne_nil c cs)
      rw [hts] at ih ⊢
      have hne : c ≠ x := by
        rintro rfl
        simp at hx
      intro u hu
      rcases List.mem_cons.mp hu with rfl | hu
      · simpa [hne] using ih t List.mem_cons_self
      · exact ih u (List.mem_cons_of_mem _ hu)

/-- The subject with given tokens. -/
def joinTokens (ss : List String) : String := String.ofList (['.'].intercalate (ss.map String.toList))

lemma splitTokens_joinTokens (hss : ∀ t ∈ ss, t ≠ "" ∧ '.' ∉ t.toList) : splitTokens (joinTokens ss) = ss := by
  rcases eq_or_ne ss [] with rfl | hne
  · rfl
  have hsplit : (['.'].intercalate (ss.map String.toList)).splitOn '.' = ss.map String.toList := by
    refine List.splitOn_intercalate '.' ?_ (by simpa using hne)
    intro l hl
    obtain ⟨t, ht, rfl⟩ := List.mem_map.mp hl
    exact (hss t ht).2
  have hnil : joinTokens ss ≠ "" := by
    intro h
    have h' : ['.'].intercalate (ss.map String.toList) = [] := by
      simpa [joinTokens, String.ext_iff] using h
    rw [h', List.splitOn_nil] at hsplit
    obtain ⟨t, ts, rfl⟩ := List.exists_cons_of_ne_nil hne
    have hempty : t = "" := by
      have hhead := (List.cons.inj (hsplit.trans (List.map_cons ..))).1
      exact String.ext (by simpa using hhead.symm)
    exact (hss t List.mem_cons_self).1 hempty
  rw [splitTokens, if_neg hnil, joinTokens, String.toList_ofList, hsplit, List.map_map]
  simp

lemma dot_not_mem_token : ∀ t ∈ splitTokens s, '.' ∉ t.toList := by
  intro t ht
  unfold splitTokens at ht
  split at ht
  · cases ht
  · obtain ⟨l, hl, rfl⟩ := List.mem_map.mp ht
    rw [String.toList_ofList]
    exact not_mem_of_mem_splitOn l hl

lemma coversTokens_sound : ∀ {ps qs ss : List String}, coversTokens ps qs → matchTokens qs ss → matchTokens ps ss
  | [], qs, ss, hc, hm => by
    obtain rfl : qs = [] := by simpa [coversTokens] using hc
    exact hm
  | p :: ps, qs, ss, hc, hm => by
    unfold coversTokens at hc
    unfold matchTokens
    split at hc
    · next hp =>
      rw [if_pos hp]
      cases qs with
      | nil => simp at hc
      | cons q qs =>
        cases ss with
        | nil => simp [matchTokens] at hm
        | cons x ss => rfl
    · next hp =>
      rw [if_neg hp]
      cases qs with
      | nil => simp at hc
      | cons q qs =>
        obtain ⟨⟨hq, hpq⟩, hrest⟩ : (q ≠ ">" ∧ (p = "*" ∨ p = q)) ∧ coversTokens ps qs := by simpa using hc
        cases ss with
        | nil => simp [matchTokens, hq] at hm
        | cons x ss =>
          obtain ⟨hqx, hms⟩ : (q = "*" ∨ q = x) ∧ matchTokens qs ss := by simpa [matchTokens, hq] using hm
          have hpx : p = "*" ∨ p = x := by
            rcases hpq with hstar | rfl
            · exact Or.inl hstar
            · exact hqx
          simp [hpx, coversTokens_sound hrest hms]

/-- The tokens with `t` for every wildcard. -/
def instantiate (t : String) (qs : List String) : List String := qs.map fun q => if q = "*" ∨ q = ">" then t else q

/-- A filter that lets through the instances of another one with a token of its own, and, if the other one ends in `>`,
those with one token more, covers it. -/
lemma coversTokens_complete {t : String} : ∀ {ps qs : List String}, t ∉ ps → (∀ q ∈ qs.dropLast, q ≠ ">") →
    matchTokens ps (instantiate t qs) → (">" ∈ qs → matchTokens ps (instantiate t qs ++ [t])) → coversTokens ps qs
  | [], qs, _, _, hm, _ => by simpa [matchTokens, coversTokens, instantiate] using hm
  | p :: ps, [], _, _, hm, _ => by simp [matchTokens, instantiate] at hm
  | p :: ps, q :: qs, ht, hq, hm, hm' => by
    have hpt : p ≠ t := fun h => ht (h ▸ List.mem_cons_self)
    have htps : t ∉ ps := fun h => ht (List.mem_cons_of_mem _ h)
    unfold coversTokens
    split
    · rfl
    next hp =>
    by_cases hgt : q = ">"
    · -- the instances of `>` have one token and two
      subst hgt
      have hnil : qs = [] := by
        by_contra hne
        refine hq ">" ?_ rfl
        rw [List.dropLast_cons_of_ne_nil hne]
        exact List.mem_cons_self
      subst hnil
      have h1 := hm
      have h2 := hm' List.mem_cons_self
      simp only [instantiate, List.map_cons, List.map_nil, or_true, if_true, List.cons_append, List.nil_append,
        matchTokens, hp, if_false, hpt, decide_false, Bool.or_false, Bool.and_eq_true] at h1 h2
      cases ps with
      | nil => simp [matchTokens] at h2
      | cons p' ps => simp [matchTokens] at h1
    · have hq' : ∀ x ∈ qs.dropLast, x ≠ ">" := by
        intro x hx
        refine hq x ?_
        rw [List.dropLast_cons_of_ne_nil (by rintro rfl; cases hx)]
        exact List.mem_cons_of_mem _ hx
      obtain ⟨hhead, hrest⟩ : (p = "*" ∨ p = if q = "*" ∨ q = ">" then t else q) ∧
          matchTokens ps (instantiate t qs) := by
        simpa [instantiate, matchTokens, hp] using hm
      have hrest' : ">" ∈ qs → matchTokens ps (instantiate t qs ++ [t]) := by
        intro hmem
        have h := hm' (List.mem_cons_of_mem _ hmem)
        simp only [instantiate, List.map_cons, List.cons_append, matchTokens, hp, if_false, Bool.and_eq_true] at h
        exact h.2
      have hpq : p = "*" ∨ p = q := by
        rcases hhead with hstar | heq
        · exact Or.inl hstar
        · split at heq
          · exact absurd heq hpt
          · exact Or.inr heq
      simp [hgt, hpq, coversTokens_complete htps hq' hrest hrest']

lemma matchTokens_self : ∀ ss : List String, matchTokens ss ss
  | [] => rfl
  | s :: ss => by
    unfold matchTokens
    split
    · rfl
    · simp [matchTokens_self ss]

/-- The first test of `subjectMatches` is no shortcut. -/
lemma subjectMatches_eq (p s : String) : subjectMatches p s = matchTokens (splitTokens p) (splitTokens s) := by
  unfold subjectMatches
  by_cases h : p = s
  · subst h
    simp [matchTokens_self]
  · simp [h]

lemma matchTokens_instantiate {t : String} : ∀ {qs ts : List String}, ts = [] ∨ ">" ∈ qs →
    matchTokens qs (instantiate t qs ++ ts)
  | [], ts, h => by
    obtain rfl : ts = [] := by simpa using h
    rfl
  | q :: qs, ts, h => by
    unfold matchTokens
    split
    · rfl
    · next hq =>
      have hhead : q = "*" ∨ q = if q = "*" ∨ q = ">" then t else q := by
        by_cases hstar : q = "*"
        · exact Or.inl hstar
        · simp [hstar, hq]
      have hrest : matchTokens qs (instantiate t qs ++ ts) :=
        matchTokens_instantiate (by simpa [Ne.symm hq] using h)
      simp only [instantiate, List.map_cons, List.cons_append, Bool.and_eq_true, Bool.or_eq_true, decide_eq_true_eq]
      exact ⟨hhead, hrest⟩

/-- A token that is not in a list. -/
lemma exists_fresh (ps : List String) : ∃ t, t ∉ ps ∧ t ≠ "" ∧ t ≠ "*" ∧ t ≠ ">" ∧ '.' ∉ t.toList := by
  have hlen : ∀ p ∈ ps, p.toList.length ≤ (ps.map fun p => p.toList.length).sum := by
    intro p hp
    exact List.single_le_sum (by simp) _ (List.mem_map_of_mem hp)
  refine ⟨String.ofList (List.replicate ((ps.map fun p => p.toList.length).sum + 1) 'x'), ?_, ?_, ?_, ?_, ?_⟩
  · intro hmem
    have h := hlen _ hmem
    rw [String.toList_ofList, List.length_replicate] at h
    omega
  · simp [String.ext_iff]
  · simp [String.ext_iff, List.replicate_succ]
  · simp [String.ext_iff, List.replicate_succ]
  · simp

/-- **What a filter covers** are the filters that let through no message which it does not. -/
lemma covers_iff {p q : String} (hq : validSubject q) :
    covers p q ↔ ∀ m, Literal m → subjectMatches q m → subjectMatches p m := by
  obtain ⟨htokens, hlast⟩ : (∀ t ∈ splitTokens q, t ≠ "" ∧ ∀ c ∈ t.toList, c ∉ subjectBlanks) ∧
      ∀ t ∈ (splitTokens q).dropLast, t ≠ ">" := by
    simpa [validSubject] using hq
  have hempty : ∀ t ∈ splitTokens q, t ≠ "" := fun t ht => (htokens t ht).1
  simp only [subjectMatches_eq]
  constructor
  · intro hc m _ hm
    exact coversTokens_sound hc hm
  · intro h
    obtain ⟨t, htp, htnil, htstar, htgt, htdot⟩ := exists_fresh (splitTokens p)
    -- the instances of the filter are subjects of messages
    have hinst : ∀ x ∈ instantiate t (splitTokens q), (x ≠ "" ∧ x ≠ "*" ∧ x ≠ ">") ∧ '.' ∉ x.toList := by
      intro x hx
      obtain ⟨y, hy, rfl⟩ := List.mem_map.mp hx
      split
      · exact ⟨⟨htnil, htstar, htgt⟩, htdot⟩
      · next hy' =>
        obtain ⟨hy1, hy2⟩ := not_or.mp hy'
        exact ⟨⟨hempty y hy, hy1, hy2⟩, dot_not_mem_token y hy⟩
    have happ : ∀ ss : List String, (∀ x ∈ ss, (x ≠ "" ∧ x ≠ "*" ∧ x ≠ ">") ∧ '.' ∉ x.toList) →
        matchTokens (splitTokens q) ss → matchTokens (splitTokens p) ss := by
      intro ss hss hm
      have hjoin : splitTokens (joinTokens ss) = ss :=
        splitTokens_joinTokens fun x hx => ⟨(hss x hx).1.1, (hss x hx).2⟩
      have hlit : Literal (joinTokens ss) := by
        intro x hx
        rw [hjoin] at hx
        exact (hss x hx).1
      simpa [hjoin] using h (joinTokens ss) hlit (by simpa [hjoin] using hm)
    refine coversTokens_complete htp hlast (happ _ hinst ?_) ?_
    · have hself : matchTokens (splitTokens q) (instantiate t (splitTokens q) ++ []) :=
        matchTokens_instantiate (Or.inl rfl)
      simpa using hself
    intro hgt
    refine happ _ ?_ (matchTokens_instantiate (Or.inr hgt))
    intro x hx
    rcases List.mem_append.mp hx with hx | hx
    · exact hinst x hx
    · obtain rfl := List.mem_singleton.mp hx
      exact ⟨⟨htnil, htstar, htgt⟩, htdot⟩

end Tokens

/-! ### What the broker has after `Start` -/

section Start

variable {svc : Service} {group s m : String} {b b' : Broker} {fail : ℕ → Option String} {subjects : List String}

lemma tokens_of_isDLQ (h : isDLQ s) : ∃ x rest, splitTokens s = "es" :: "dlq" :: x :: rest := by
  have hpattern : splitTokens "es.dlq.>" = ["es", "dlq", ">"] := by decide
  rw [isDLQ, subjectMatches_eq, hpattern] at h
  match hs : splitTokens s, h with
  | [], h => simp [matchTokens] at h
  | [a], h => simp [matchTokens] at h
  | [a, c], h => simp [matchTokens] at h
  | a :: c :: x :: rest, h =>
    obtain ⟨rfl, rfl⟩ : "es" = a ∧ "dlq" = c := by simpa [matchTokens] using h
    exact ⟨x, rest, rfl⟩

/-- The subjects of the dead letters are those of one stream. -/
lemma stream_of_isDLQ (h : isDLQ s) {p : String × String} (hp : p ∈ streamPatterns) (hm : subjectMatches p.1 s) :
    p.2 = "ES_DLQ" := by
  obtain ⟨x, rest, hs⟩ := tokens_of_isDLQ h
  rw [subjectMatches_eq, hs] at hm
  have hother : ∀ p ∈ streamPatterns,
      p.2 = "ES_DLQ" ∨ matchTokens (splitTokens p.1) ("es" :: "dlq" :: x :: rest) = false := by
    intro p hp
    simp only [streamPatterns, List.mem_cons, List.not_mem_nil, or_false] at hp
    rcases hp with rfl | rfl | rfl | rfl | rfl | rfl | rfl | rfl | rfl | rfl | rfl | rfl <;>
      first
        | exact Or.inl rfl
        | exact Or.inr rfl
  rcases hother p hp with heq | hne
  · exact heq
  · rw [hne] at hm
    cases hm

lemma isDLQ_of_matches (h : isDLQ s) (hm : subjectMatches s m) : isDLQ m := by
  obtain ⟨x, rest, hs⟩ := tokens_of_isDLQ h
  have hcovers : coversTokens (splitTokens "es.dlq.>") (splitTokens s) := by
    rw [hs]
    rfl
  rw [isDLQ, subjectMatches_eq]
  exact coversTokens_sound hcovers (by rwa [subjectMatches_eq] at hm)

lemma storedIn_of_isDLQ (h : isDLQ m) : storedIn m = some "ES_DLQ" := by
  unfold storedIn
  cases hfind : streamPatterns.find? fun p => subjectMatches p.1 m with
  | none => exact absurd h (List.find?_eq_none.mp hfind ("es.dlq.>", "ES_DLQ") (by decide))
  | some p =>
    have hm : subjectMatches p.1 m := by simpa using List.find?_some hfind
    rw [Option.map_some, stream_of_isDLQ h (List.mem_of_find?_eq_some hfind) hm]

/-- Every iteration finds that stream. -/
lemma streamForSubject_of_isDLQ (hsvc : svc.streamFor.Perm streamPatterns) (h : isDLQ s) :
    svc.streamForSubject s = "ES_DLQ" := by
  unfold Service.streamForSubject
  cases hexact : svc.streamFor.find? (·.1 = s) with
  | some p =>
    have hps : p.1 = s := by simpa using List.find?_some hexact
    exact stream_of_isDLQ h (hsvc.mem_iff.mp (List.mem_of_find?_eq_some hexact)) (by simp [subjectMatches, hps])
  | none =>
    cases hfind : svc.streamFor.find? fun p => subjectMatches p.1 s with
    | none => exact absurd h (List.find?_eq_none.mp hfind ("es.dlq.>", "ES_DLQ") (hsvc.mem_iff.mpr (by decide)))
    | some p =>
      have hm : subjectMatches p.1 s := by simpa using List.find?_some hfind
      exact stream_of_isDLQ h (hsvc.mem_iff.mp (List.mem_of_find?_eq_some hfind)) hm

lemma isDLQ_ne_nil (h : isDLQ s) : s ≠ "" := by
  rintro rfl
  exact absurd h (by decide)

/-- One subscription replaces the filter of the only consumer. -/
lemma subscribe_of_isDLQ (hsvc : svc.streamFor.Perm streamPatterns) (hgroup : group ≠ "") (h : isDLQ s)
    {err : Option String} : svc.subscribe b err s group = .ok b' ↔
      err = none ∧ validSubject s ∧ b' = Function.update b ("ES_DLQ", group) (some s) := by
  have hstream := streamForSubject_of_isDLQ hsvc h
  unfold Service.subscribe
  rw [if_neg (isDLQ_ne_nil h), if_neg hgroup, hstream, if_neg (by decide)]
  cases err with
  | some e => simp
  | none =>
    by_cases hv : validSubject s
    · simp [hv, eq_comm]
    · simp [hv]

/-- **The loop** leaves the filter of the last subject. -/
lemma startLoop_ok (hsvc : svc.streamFor.Perm streamPatterns) (hgroup : group ≠ "") (hdlq : ∀ s ∈ subjects, isDLQ s)
    (h : startLoop svc group b fail subjects = .ok b') : (∀ s ∈ subjects, validSubject s) ∧
      ∀ s, subjects.getLast? = some s → b' ("ES_DLQ", group) = some s := by
  induction subjects generalizing b fail with
  | nil => simp
  | cons subj subjects ih =>
    unfold startLoop at h
    cases hsub : svc.subscribe b (fail 0) subj group with
    | error err => simp [hsub] at h
    | ok b₁ =>
      rw [hsub] at h
      obtain ⟨-, hvalid, rfl⟩ := (subscribe_of_isDLQ hsvc hgroup (hdlq subj List.mem_cons_self)).mp hsub
      obtain ⟨hvalids, hlast⟩ := ih (fun s hs => hdlq s (List.mem_cons_of_mem _ hs)) h
      refine ⟨List.forall_mem_cons.mpr ⟨hvalid, hvalids⟩, fun s hs => ?_⟩
      cases subjects with
      | nil =>
        obtain rfl : subj = s := by simpa using hs
        obtain rfl : _ = b' := Except.ok.inj h
        exact Function.update_self ..
      | cons t ts => exact hlast s (by simpa using hs)

/-- It succeeds if the broker takes every filter. -/
lemma exists_startLoop_ok (hsvc : svc.streamFor.Perm streamPatterns) (hgroup : group ≠ "")
    (hdlq : ∀ s ∈ subjects, isDLQ s) (hvalid : ∀ s ∈ subjects, validSubject s) (b : Broker) :
    ∃ b', startLoop svc group b (fun _ => none) subjects = .ok b' := by
  induction subjects generalizing b with
  | nil => exact ⟨b, rfl⟩
  | cons subj subjects ih =>
    obtain ⟨hd, hds⟩ := List.forall_mem_cons.mp hdlq
    obtain ⟨hv, hvs⟩ := List.forall_mem_cons.mp hvalid
    obtain ⟨b', hb'⟩ := ih hds hvs (Function.update b ("ES_DLQ", group) (some subj))
    refine ⟨b', ?_⟩
    unfold startLoop
    rw [(subscribe_of_isDLQ hsvc hgroup hd).mpr ⟨rfl, hv, rfl⟩]
    exact hb'

lemma domainSegment_of_isDLQ (h : isDLQ s) : domainSegment s = "dlq" := by
  obtain ⟨x, rest, hs⟩ := tokens_of_isDLQ h
  have htokens : s.toList.splitOn '.' = ("es" :: "dlq" :: x :: rest).map String.toList := by
    rw [← hs, splitTokens, if_neg (isDLQ_ne_nil h), List.map_map]
    simp [Function.comp_def]
  have htext : s.toList = "es.dlq.".toList ++ ['.'].intercalate ((x :: rest).map String.toList) := by
    have hjoin : ['.'].intercalate (s.toList.splitOn '.') = s.toList := List.intercalate_splitOn '.'
    rw [← hjoin, htokens]
    simp [List.intercalate]
  unfold domainSegment
  rw [htext, if_pos (by simp)]
  simp

end Start

/-- After a successful `Start` every message of a listed subject is delivered. -/
def DLQProcessorConfig.SeesEvery (cfg : DLQProcessorConfig) : Prop :=
  ∀ svc : Service, svc.streamFor.Perm streamPatterns → ∀ b fail b', cfg.start svc b fail = .ok b' →
    ∀ s ∈ cfg.subjects, ∀ m, Literal m → subjectMatches s m → b'.delivers cfg.withDefaults.group m

lemma DLQProcessorConfig.group_ne_nil (cfg : DLQProcessorConfig) : cfg.withDefaults.group ≠ "" := by
  by_cases h : cfg.group = ""
  · simp [withDefaults, h]
  · simp [withDefaults, h]

lemma DLQProcessorConfig.seesEvery_iff (cfg : DLQProcessorConfig) (hne : cfg.subjects ≠ [])
    (hdlq : ∀ s ∈ cfg.subjects, isDLQ s) : cfg.SeesEvery ↔
      ((∀ s ∈ cfg.subjects, validSubject s) → ∀ s ∈ cfg.subjects, covers (cfg.subjects.getLast hne) s) := by
  have hstart : ∀ svc b fail, cfg.start svc b fail = startLoop svc cfg.withDefaults.group b fail cfg.subjects := by
    intro svc b fail
    simp [start, withDefaults, hne]
  have hlast : cfg.subjects.getLast? = some (cfg.subjects.getLast hne) := List.getLast?_eq_getLast_of_ne_nil hne
  have hdelivers : ∀ {svc : Service} {b b' : Broker} {fail}, svc.streamFor.Perm streamPatterns →
      cfg.start svc b fail = .ok b' → ∀ s ∈ cfg.subjects, ∀ m, subjectMatches s m →
      b'.delivers cfg.withDefaults.group m = subjectMatches (cfg.subjects.getLast hne) m := by
    intro svc b b' fail hsvc hok s hs m hm
    rw [hstart] at hok
    have hfilter := (startLoop_ok hsvc cfg.group_ne_nil hdlq hok).2 _ hlast
    simp [Broker.delivers, storedIn_of_isDLQ (isDLQ_of_matches (hdlq s hs) hm), hfilter]
  constructor
  · intro h hvalid s hs
    have hperm : (⟨streamPatterns⟩ : Service).streamFor.Perm streamPatterns := List.Perm.refl _
    obtain ⟨b', hb'⟩ := exists_startLoop_ok hperm cfg.group_ne_nil hdlq hvalid fun _ => none
    refine (covers_iff (hvalid s hs)).mpr fun m hlit hm => ?_
    rw [← hstart] at hb'
    rw [← hdelivers (List.Perm.refl _) hb' s hs m hm]
    exact h _ (List.Perm.refl _) _ _ _ hb' s hs m hlit hm
  · intro h svc hsvc b fail b' hok s hs m hlit hm
    have hvalid : ∀ s ∈ cfg.subjects, validSubject s := by
      rw [hstart] at hok
      exact (startLoop_ok hsvc cfg.group_ne_nil hdlq hok).1
    rw [hdelivers hsvc hok s hs m hm]
    exact (covers_iff (hvalid s hs)).mp (h hvalid s hs) m hlit hm

/-- **What the processor sees.** Every message of the listed subjects, exactly if the last subject covers the others;
and by default the dead letters of a subject, exactly if it is not one of the management and not a dead letter itself.
-/
theorem dlq_subscriptions_see_iff (cfg : DLQProcessorConfig) (hne : cfg.subjects ≠ [])
    (hdlq : ∀ s ∈ cfg.subjects, isDLQ s) :
    (cfg.SeesEvery ↔
      ((∀ s ∈ cfg.subjects, validSubject s) → ∀ s ∈ cfg.subjects, covers (cfg.subjects.getLast hne) s)) ∧
    ∀ s ∈ consumerSubjects ++ cfg.subjects, defaultDLQSubject s ∈ defaultSubjects ↔
      domainSegment s ≠ "management" ∧ domainSegment s ≠ "dlq" := by
  refine ⟨cfg.seesEvery_iff hne hdlq, fun s hs => ?_⟩
  rcases List.mem_append.mp hs with hs | hs
  · have hall : ∀ s ∈ consumerSubjects, defaultDLQSubject s ∈ defaultSubjects ↔
        domainSegment s ≠ "management" ∧ domainSegment s ≠ "dlq" := by decide
    exact hall s hs
  · have hdomain := domainSegment_of_isDLQ (hdlq s hs)
    simp [defaultDLQSubject, hdomain, defaultSubjects]

theorem dlq_subscriptions_see_all :
    DLQProcessorConfig.SeesEvery ⟨["es.dlq.action", "es.dlq.>"], "dlq-processor"⟩ := by
  refine (dlq_subscriptions_see_iff _ (by decide) (by decide)).1.mpr ?_
  decide

/-- With the default subjects, a dead letter of an evaluation is not seen, and one of the management has no consumer. -/
theorem default_subjects_miss : ¬ DLQProcessorConfig.SeesEvery ⟨defaultSubjects, "dlq-processor"⟩ ∧
    "es.management.comm_history.update" ∈ consumerSubjects ∧
    defaultDLQSubject "es.management.comm_history.update" ∉ defaultSubjects := by
  refine ⟨fun h => ?_, by decide, by decide⟩
  -- the last of the default subjects does not cover the others
  have hall := (DLQProcessorConfig.seesEvery_iff _ (by decide) (by decide)).mp h
  exact absurd hall (by decide)

end Sn360Es.Events
