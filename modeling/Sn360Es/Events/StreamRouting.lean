import Sn360Es.Events.DlqSubscriptions

/-!
# The stream of a subject (`pkg/events/nats/streams.go`, `pkg/events/nats/service.go`)

Three things say where a subject goes: the patterns of `DefaultStreamSpecs` under `subjectMatches`, the switch over
prefixes of `StreamForSubject`, and the map of a `Service`, which is walked in any order.

* `not_apart_of_matches` — no subject is under two patterns of different streams;
* `matches_under_iff` — a pattern that ends in `>` accepts exactly the subjects with its text before them;
* `stream_routing` — the three agree on all subjects but the bare `soc`, which only the switch accepts.
-/

namespace Sn360Es.Events

/-- No token of the subject is a wildcard; tokens may be empty. -/
def NoWildcard (s : String) : Prop := ∀ t ∈ splitTokens s, t ≠ "*" ∧ t ≠ ">"

instance : DecidablePred NoWildcard := fun s => inferInstanceAs (Decidable (∀ t ∈ splitTokens s, _))

/-! ### Patterns that accept no subject in common -/

/-- The patterns differ in a token before a `>`, or in their length. -/
def apartTokens : List String → List String → Bool
  | [], qs => !qs.isEmpty
  | _ :: _, [] => true
  | p :: ps, q :: qs => p ≠ ">" && q ≠ ">" && ((p ≠ "*" && q ≠ "*" && p ≠ q) || apartTokens ps qs)

lemma not_apartTokens_of_match : ∀ {ps qs ss : List String}, matchTokens ps ss → matchTokens qs ss →
    apartTokens ps qs = false
  | [], [], _, _, _ => rfl
  | [], q :: qs, ss, hp, hq => by
    obtain rfl : ss = [] := by simpa [matchTokens] using hp
    simp [matchTokens] at hq
  | p :: ps, [], ss, hp, hq => by
    obtain rfl : ss = [] := by simpa [matchTokens] using hq
    simp [matchTokens] at hp
  | p :: ps, q :: qs, ss, hp, hq => by
    by_cases hpw : p = ">"
    · simp [apartTokens, hpw]
    by_cases hqw : q = ">"
    · simp [apartTokens, hqw]
    cases ss with
    | nil => simp [matchTokens, hpw] at hp
    | cons x ss =>
      obtain ⟨hpx, hps⟩ : (p = "*" ∨ p = x) ∧ matchTokens ps ss := by simpa [matchTokens, hpw] using hp
      obtain ⟨hqx, hqs⟩ : (q = "*" ∨ q = x) ∧ matchTokens qs ss := by simpa [matchTokens, hqw] using hq
      have hhead : p = "*" ∨ q = "*" ∨ p = q := by
        rcases hpx with h | rfl
        · exact Or.inl h
        · rcases hqx with h | h
          · exact Or.inr (Or.inl h)
          · exact Or.inr (Or.inr h.symm)
      have htail := not_apartTokens_of_match hps hqs
      rcases hhead with h | h | h
      · simp [apartTokens, h, htail]
      · simp [apartTokens, h, htail]
      · simp [apartTokens, h, htail]

section Routing

variable {s : String} {p q : String × String} {svc : Service}

/-- The patterns of two streams are apart. -/
lemma streamPatterns_apart : streamPatterns.all (fun p => streamPatterns.all fun q =>
    p.2 = q.2 || apartTokens (splitTokens p.1) (splitTokens q.1)) = true := by decide +kernel

/-- **One stream at most** accepts a subject. -/
lemma not_apart_of_matches (hp : p ∈ streamPatterns) (hq : q ∈ streamPatterns) (hps : subjectMatches p.1 s)
    (hqs : subjectMatches q.1 s) : p.2 = q.2 := by
  have hall := List.all_eq_true.mp (List.all_eq_true.mp streamPatterns_apart p hp) q hq
  rw [subjectMatches_eq] at hps hqs
  simpa [not_apartTokens_of_match hps hqs] using hall

/-! ### Prefixes -/

/-- The text of the tokens, with a dot after each. -/
def dotted (ps : List (List Char)) : List Char := ps.flatMap (· ++ ['.'])

lemma splitOn_token {p cs : List Char} (hp : '.' ∉ p) : (p ++ '.' :: cs).splitOn '.' = p :: cs.splitOn '.' := by
  induction p with
  | nil => simp [List.splitOn_cons_eq_if_modifyHead]
  | cons c p ih =>
    obtain ⟨hc, hp⟩ : ¬ '.' = c ∧ '.' ∉ p := by simpa using hp
    rw [List.cons_append, List.splitOn_cons_eq_if_modifyHead, ih hp]
    simp [Ne.symm hc]

lemma exists_of_splitOn_cons {cs t : List Char} {u : List Char} {ts : List (List Char)}
    (h : cs.splitOn '.' = t :: u :: ts) : ∃ cs', cs = t ++ '.' :: cs' ∧ cs'.splitOn '.' = u :: ts := by
  have hjoin : ['.'].intercalate (cs.splitOn '.') = cs := List.intercalate_splitOn '.'
  have hfree : ∀ x ∈ u :: ts, '.' ∉ x := by
    intro x hx
    exact not_mem_of_mem_splitOn x (h ▸ List.mem_cons_of_mem _ hx)
  refine ⟨['.'].intercalate (u :: ts), ?_, List.splitOn_intercalate '.' hfree (by simp)⟩
  rw [← hjoin, h]
  simp [List.intercalate]

/-- A text starts with the tokens and their dots if they are its first tokens and not all of them. -/
lemma dotted_prefix_iff {ps : List (List Char)} (hps : ∀ p ∈ ps, '.' ∉ p) {cs : List Char} :
    dotted ps <+: cs ↔ ∃ u ts, cs.splitOn '.' = ps ++ u :: ts := by
  induction ps generalizing cs with
  | nil =>
    obtain ⟨t, ts, hts⟩ := List.exists_cons_of_ne_nil (List.splitOn_ne_nil '.' cs)
    simp [dotted, hts]
  | cons p ps ih =>
    obtain ⟨hp, hps⟩ := List.forall_mem_cons.mp hps
    have htext : dotted (p :: ps) = p ++ '.' :: dotted ps := by simp [dotted]
    rw [htext]
    constructor
    · rintro ⟨rest, rfl⟩
      obtain ⟨u, ts, hu⟩ := (ih hps).mp (List.prefix_append (dotted ps) rest)
      refine ⟨u, ts, ?_⟩
      rw [List.append_assoc, List.cons_append, splitOn_token hp, hu, List.cons_append]
    · rintro ⟨u, ts, hu⟩
      obtain ⟨v, vs, hv⟩ : ∃ v vs, ps ++ u :: ts = v :: vs := List.exists_cons_of_ne_nil (by simp)
      rw [List.cons_append, hv] at hu
      obtain ⟨cs', rfl, hcs'⟩ := exists_of_splitOn_cons hu
      obtain ⟨rest, hrest⟩ := (ih hps).mpr ⟨u, ts, hcs'.trans hv.symm⟩
      exact ⟨rest, by rw [← hrest]; simp⟩

lemma matchTokens_literal_iff {ps ss : List String} (hps : ∀ p ∈ ps, p ≠ "*" ∧ p ≠ ">") :
    (matchTokens ps ss ↔ ss = ps) ∧ (matchTokens (ps ++ [">"]) ss ↔ ∃ u ts, ss = ps ++ u :: ts) := by
  induction ps generalizing ss with
  | nil =>
    cases ss with
    | nil => simp [matchTokens]
    | cons x ss => simp [matchTokens]
  | cons p ps ih =>
    obtain ⟨⟨hstar, hgt⟩, hps⟩ := List.forall_mem_cons.mp hps
    cases ss with
    | nil => simp [matchTokens, hgt]
    | cons x ss =>
      obtain ⟨ih₁, ih₂⟩ := @ih ss hps
      have hhead : ∀ qs, matchTokens (p :: qs) (x :: ss) ↔ x = p ∧ matchTokens qs ss := by
        intro qs
        rw [eq_comm (a := x)]
        simp [matchTokens, hgt, hstar]
      rw [List.cons_append, hhead, hhead, ih₁, ih₂]
      simp

/-- **A pattern that ends in `>`** accepts the subjects that start with the text before it. -/
lemma matches_under_iff {ps : List String} (hne : ps ≠ []) (hps : ∀ p ∈ ps, p ≠ "*" ∧ p ≠ ">")
    (hdot : ∀ p ∈ ps, '.' ∉ p.toList) :
    matchTokens (ps ++ [">"]) (splitTokens s) ↔ dotted (ps.map String.toList) <+: s.toList := by
  have hchars : ∀ p ∈ ps.map String.toList, '.' ∉ p := by simpa using hdot
  rw [(matchTokens_literal_iff hps).2, dotted_prefix_iff hchars]
  by_cases hs : s = ""
  · subst hs
    have hlen : ∀ u ts, ¬ [[]] = ps.map String.toList ++ u :: ts := by
      intro u ts h
      have hcount := congrArg List.length h
      have hpos := List.length_pos_of_ne_nil hne
      simp at hcount
      omega
    simpa [splitTokens] using hlen
  · rw [splitTokens, if_neg hs]
    constructor
    · rintro ⟨u, ts, h⟩
      refine ⟨u.toList, ts.map String.toList, ?_⟩
      simpa [Function.comp_def] using congrArg (List.map String.toList) h
    · rintro ⟨u, ts, h⟩
      refine ⟨String.ofList u, ts.map String.ofList, ?_⟩
      rw [h]
      simp [Function.comp_def]

/-- A case of the switch over prefixes, as the pattern that accepts the same subjects. -/
lemma isPrefixOf_eq (ps : List String) {pattern text : String}
    (h : (splitTokens pattern = ps ++ [">"] ∧ text.toList = dotted (ps.map String.toList)) ∧
      ps ≠ [] ∧ ∀ p ∈ ps, (p ≠ "*" ∧ p ≠ ">") ∧ '.' ∉ p.toList) :
    text.toList.isPrefixOf s.toList = subjectMatches pattern s := by
  obtain ⟨⟨hpattern, htext⟩, hne, hps⟩ := h
  rw [subjectMatches_eq, hpattern, htext, Bool.eq_iff_iff, List.isPrefixOf_iff_prefix]
  exact (matches_under_iff hne (fun p hp => (hps p hp).1) fun p hp => (hps p hp).2).symm

lemma splitTokens_injective : Function.Injective splitTokens := by
  have hjoin : ∀ s : String, ['.'].intercalate ((splitTokens s).map String.toList) = s.toList := by
    intro s
    by_cases hs : s = ""
    · subst hs
      rfl
    · rw [splitTokens, if_neg hs, List.map_map]
      simp [Function.comp_def]
  intro s t h
  have htext := hjoin s
  rw [h, hjoin t] at htext
  exact (String.ext htext).symm

/-- A pattern without wildcards accepts only itself. -/
lemma matches_literal {pattern : String} (hp : NoWildcard pattern) :
    subjectMatches pattern s = decide (s = pattern) := by
  rw [subjectMatches_eq, Bool.eq_iff_iff, (matchTokens_literal_iff hp).1, decide_eq_true_eq]
  exact splitTokens_injective.eq_iff

/-! ### The three ways agree -/

/-- The patterns that the switch of `StreamForSubject` stands for, in its order. -/
def switchPatterns : List (String × String) :=
  [("sn360.dlq.schema.>", "SN360_SCHEMA_DLQ"), ("es.dlq.>", "ES_DLQ"), ("es.evaluate.result", "ES_EVALUATE_RESULT"),
    ("es.evaluate.result.>", "ES_EVALUATE_RESULT"), ("es.evaluate.request", "ES_EVALUATE"),
    ("es.evaluate.request.>", "ES_EVALUATE"), ("es.onboarding.>", "ES_ONBOARDING"), ("es.education.>", "ES_EDUCATION"),
    ("es.action.>", "ES_ACTION"), ("es.management.>", "ES_MANAGEMENT"), ("soc", "sn360-platform"),
    ("soc.>", "sn360-platform"), ("sn360.dlq.webhook.>", "SN360_WEBHOOK_DLQ")]

lemma firstMatch_cons (s : String) (p : String × String) (ps : List (String × String)) :
    (((p :: ps).find? fun p => subjectMatches p.1 s).map (·.2)).getD "" =
      if subjectMatches p.1 s then p.2 else ((ps.find? fun p => subjectMatches p.1 s).map (·.2)).getD "" := by
  cases h : subjectMatches p.1 s with
  | true => simp [h]
  | false => simp [h]

lemma streamForSubject_eq (s : String) :
    streamForSubject s = ((switchPatterns.find? fun p => subjectMatches p.1 s).map (·.2)).getD "" := by
  have hliteral : ∀ pattern : String, NoWildcard pattern → (s = pattern) = (subjectMatches pattern s = true) := by
    intro pattern hp
    simp [matches_literal hp]
  have hschema : "sn360.dlq.schema.".toList.isPrefixOf s.toList = subjectMatches "sn360.dlq.schema.>" s :=
    isPrefixOf_eq ["sn360", "dlq", "schema"] (by decide)
  have hdlq : "es.dlq.".toList.isPrefixOf s.toList = subjectMatches "es.dlq.>" s :=
    isPrefixOf_eq ["es", "dlq"] (by decide)
  have hresult : "es.evaluate.result.".toList.isPrefixOf s.toList = subjectMatches "es.evaluate.result.>" s :=
    isPrefixOf_eq ["es", "evaluate", "result"] (by decide)
  have hrequest : "es.evaluate.request.".toList.isPrefixOf s.toList = subjectMatches "es.evaluate.request.>" s :=
    isPrefixOf_eq ["es", "evaluate", "request"] (by decide)
  have honboarding : "es.onboarding.".toList.isPrefixOf s.toList = subjectMatches "es.onboarding.>" s :=
    isPrefixOf_eq ["es", "onboarding"] (by decide)
  have heducation : "es.education.".toList.isPrefixOf s.toList = subjectMatches "es.education.>" s :=
    isPrefixOf_eq ["es", "education"] (by decide)
  have haction : "es.action.".toList.isPrefixOf s.toList = subjectMatches "es.action.>" s :=
    isPrefixOf_eq ["es", "action"] (by decide)
  have hmanagement : "es.management.".toList.isPrefixOf s.toList = subjectMatches "es.management.>" s :=
    isPrefixOf_eq ["es", "management"] (by decide)
  have hsoc : "soc.".toList.isPrefixOf s.toList = subjectMatches "soc.>" s := isPrefixOf_eq ["soc"] (by decide)
  have hwebhook : "sn360.dlq.webhook.".toList.isPrefixOf s.toList = subjectMatches "sn360.dlq.webhook.>" s :=
    isPrefixOf_eq ["sn360", "dlq", "webhook"] (by decide)
  unfold streamForSubject
  simp only [hschema, hdlq, hresult, hrequest, honboarding, heducation, haction, hmanagement, hsoc, hwebhook,
    hliteral "es.evaluate.result" (by decide), hliteral "es.evaluate.request" (by decide),
    hliteral "soc" (by decide)]
  simp only [switchPatterns, firstMatch_cons, ite_or]
  rfl

/-- The switch knows the patterns of the streams and the bare `soc`. -/
lemma mem_switchPatterns : p ∈ switchPatterns ↔ p = ("soc", "sn360-platform") ∨ p ∈ streamPatterns := by
  have hperm : switchPatterns.Perm (("soc", "sn360-platform") :: streamPatterns) := by decide
  rw [hperm.mem_iff, List.mem_cons]

/-- **The switch** gives the stream of the subject. -/
lemma streamForSubject_of_matches (hp : p ∈ streamPatterns) (hps : subjectMatches p.1 s) :
    streamForSubject s = p.2 := by
  rw [streamForSubject_eq]
  cases hfind : switchPatterns.find? fun p => subjectMatches p.1 s with
  | none => exact absurd hps (List.find?_eq_none.mp hfind p (mem_switchPatterns.mpr (Or.inr hp)))
  | some q =>
    have hqs : subjectMatches q.1 s := by simpa using List.find?_some hfind
    rcases mem_switchPatterns.mp (List.mem_of_find?_eq_some hfind) with rfl | hq
    · -- no pattern of a stream accepts the bare `soc`
      rw [matches_literal (by decide), decide_eq_true_eq] at hqs
      subst hqs
      have hnone : streamPatterns.all fun p => !subjectMatches p.1 "soc" := by decide
      have := List.all_eq_true.mp hnone p hp
      simp [hps] at this
    · exact not_apart_of_matches hq hp hqs hps

lemma streamForSubject_of_none (h : ∀ p ∈ streamPatterns, subjectMatches p.1 s = false) :
    streamForSubject s = if s = "soc" then "sn360-platform" else "" := by
  rw [streamForSubject_eq]
  cases hfind : switchPatterns.find? fun p => subjectMatches p.1 s with
  | none =>
    have hne : s ≠ "soc" := by
      rintro rfl
      exact absurd rfl (List.find?_eq_none.mp hfind ("soc", "sn360-platform") (by decide))
    rw [if_neg hne]
    rfl
  | some q =>
    have hqs : subjectMatches q.1 s := by simpa using List.find?_some hfind
    rcases mem_switchPatterns.mp (List.mem_of_find?_eq_some hfind) with rfl | hq
    · rw [matches_literal (by decide), decide_eq_true_eq] at hqs
      rw [if_pos hqs]
      rfl
    · rw [h q hq] at hqs
      cases hqs

/-- **The map of a service**, in any order, gives what the switch gives. -/
lemma Service.streamForSubject_eq (hsvc : svc.streamFor.Perm streamPatterns) :
    svc.streamForSubject s = Events.streamForSubject s := by
  unfold Service.streamForSubject
  cases hexact : svc.streamFor.find? (·.1 = s) with
  | some p =>
    have hps : p.1 = s := by simpa using List.find?_some hexact
    have hp := hsvc.mem_iff.mp (List.mem_of_find?_eq_some hexact)
    exact (streamForSubject_of_matches hp (by simp [subjectMatches, hps])).symm
  | none =>
    cases hfind : svc.streamFor.find? fun p => subjectMatches p.1 s with
    | none => rfl
    | some p =>
      have hps : subjectMatches p.1 s := by simpa using List.find?_some hfind
      exact (streamForSubject_of_matches (hsvc.mem_iff.mp (List.mem_of_find?_eq_some hfind)) hps).symm

end Routing

/-- **Stream routing.** At most one stream accepts a subject; the switch and every service give that stream, and the
empty string if there is none, but for the bare `soc`: it is given the stream of the platform. -/
theorem stream_routing (s : String) :
    (∀ p ∈ streamPatterns, ∀ q ∈ streamPatterns, subjectMatches p.1 s → subjectMatches q.1 s → p.2 = q.2) ∧
    ∀ svc : Service, svc.streamFor.Perm streamPatterns →
      (∀ p ∈ streamPatterns, subjectMatches p.1 s → streamForSubject s = p.2 ∧ svc.streamForSubject s = p.2) ∧
      ((∀ p ∈ streamPatterns, subjectMatches p.1 s = false) →
        (s ≠ "soc" → streamForSubject s = "" ∧ svc.streamForSubject s = "") ∧
        (s = "soc" → streamForSubject s = "sn360-platform" ∧ svc.streamForSubject s = "sn360-platform")) := by
  refine ⟨fun p hp q hq hps hqs => not_apart_of_matches hp hq hps hqs, fun svc hsvc => ?_⟩
  rw [Service.streamForSubject_eq hsvc]
  refine ⟨fun p hp hps => ?_, fun hnone => ⟨fun hne => ?_, fun hsoc => ?_⟩⟩
  · have h := streamForSubject_of_matches hp hps
    exact ⟨h, h⟩
  · have h := streamForSubject_of_none hnone
    rw [if_neg hne] at h
    exact ⟨h, h⟩
  · have h := streamForSubject_of_none hnone
    rw [if_pos hsoc] at h
    exact ⟨h, h⟩

/-- No stream accepts the bare `soc`, and it is not left unrouted. -/
theorem bare_soc_routed : NoWildcard "soc" ∧ (∀ p ∈ streamPatterns, subjectMatches p.1 "soc" = false) ∧
    streamForSubject "soc" ≠ "" ∧ (⟨streamPatterns⟩ : Service).streamForSubject "soc" ≠ "" := by decide +kernel

end Sn360Es.Events
