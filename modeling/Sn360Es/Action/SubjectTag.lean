import Sn360Es.Constant
import Sn360Es.Lib.GoBytes
import Sn360Es.Lib.Utf8

/-!
# The subject tag (`internal/service/action/subject_tag.go`)

`Tag` puts `[prefix: label] ` in front of a subject and `Untag` takes it away again, up to the first closing bracket.
Prefix and label come from the tenant, and nothing keeps them free of closing brackets.

* `tag_idem` — a second `Tag` adds nothing;
* `untag_render_iff` — `Untag` gives the subject back exactly if the first closing bracket is the one of the tag;
* `SubjectTagConfig.reversible_iff` — the same for the configurations that `NewSubjectTagger` accepts.
-/

namespace Sn360Es.Action

open Lib GoBytes

/-- The well-known tier of a name; a `constant.Tier` is any string, and `Valid` if there is one. -/
def tierNamed (name : Bytes) : Option Tier := Tier.all.find? fun t => bytesOf t.name = name

/-- `Severity`, of a name. -/
def severityNamed (name : Bytes) : ℤ :=
  match tierNamed name with
  | some t => t.severity
  | none => -1

structure SubjectTagConfig where
  enabled : Bool := false
  minTier : Bytes := []
  /-- The map, in the order in which a `range` goes over it. -/
  labels : List (Bytes × Bytes) := []
  tagPrefix : Bytes := []
  /-- A map has every key once. -/
  nodup : (labels.map Prod.fst).Nodup := by decide

def defaultSubjectTagLabels : List (Bytes × Bytes) :=
  [(bytesOf Tier.warning.name, bytesOf "WARN"), (bytesOf Tier.highRisk.name, bytesOf "RISK"),
    (bytesOf Tier.blocked.name, bytesOf "BLOCK")]

inductive SubjectTagError where
  | invalidMinTier (name : Bytes)
  | invalidLabelTier (name : Bytes)
  | emptyLabel (name : Bytes)
  | noLabel
  deriving DecidableEq

/-- The text of an error, where `quote` is `%q`. -/
def SubjectTagError.text (quote : Bytes → String) : SubjectTagError → String
  | invalidMinTier name => "subject_tag: invalid min tier " ++ quote name
  | invalidLabelTier name => "subject_tag: invalid label tier " ++ quote name
  | emptyLabel name => "subject_tag: empty label for tier " ++ quote name
  | noLabel => "subject_tag: no label defined at or above min tier"

namespace SubjectTagConfig

lemma nodup_default : (defaultSubjectTagLabels.map Prod.fst).Nodup := by decide

/-- The three defaults that `NewSubjectTagger` puts in. -/
def withDefaults (cfg : SubjectTagConfig) : SubjectTagConfig where
  enabled := cfg.enabled
  minTier := if cfg.minTier = [] then bytesOf Tier.warning.name else cfg.minTier
  labels := if cfg.labels = [] then defaultSubjectTagLabels else cfg.labels
  tagPrefix := if cfg.tagPrefix = [] then bytesOf "SN360" else cfg.tagPrefix
  nodup := by
    split_ifs
    · exact nodup_default
    · exact cfg.nodup

/-- The loop over the labels; `hasMatch` is its flag. -/
def checkLabels (minTier : Bytes) : List (Bytes × Bytes) → Bool → Except SubjectTagError Bool
  | [], hasMatch => .ok hasMatch
  | (t, label) :: rest, hasMatch =>
    if tierNamed t = none then .error (.invalidLabelTier t)
    else if Utf8.trimSpace label = [] then .error (.emptyLabel t)
    else checkLabels minTier rest (hasMatch || decide (severityNamed minTier ≤ severityNamed t))

/-- The checks of `NewSubjectTagger`, after the defaults. -/
def validate (cfg : SubjectTagConfig) : Except SubjectTagError Unit :=
  if tierNamed cfg.minTier = none then .error (.invalidMinTier cfg.minTier)
  else if cfg.enabled then
    match checkLabels cfg.minTier cfg.labels false with
    | .error e => .error e
    | .ok false => .error .noLabel
    | .ok true => .ok ()
  else .ok ()

/-- How every tag begins. -/
def opening (cfg : SubjectTagConfig) : Bytes := bytesOf "[" ++ cfg.tagPrefix ++ bytesOf ":"

/-- The label that `Tag` writes for a tier, if it tags that tier at all. -/
def labelFor (cfg : SubjectTagConfig) (tier : Bytes) : Option Bytes :=
  if !cfg.enabled then none
  else if tierNamed tier = none ∨ severityNamed tier < severityNamed cfg.minTier then none
  else
    match cfg.labels.lookup tier with
    | none => none
    | some label => if Utf8.trimSpace label = [] then none else some label

end SubjectTagConfig

structure SubjectTagger where
  cfg : SubjectTagConfig
  valid : cfg.validate = .ok ()

def newSubjectTagger (cfg : SubjectTagConfig) : Except SubjectTagError SubjectTagger :=
  match h : cfg.withDefaults.validate with
  | .error e => .error e
  | .ok () => .ok ⟨cfg.withDefaults, h⟩

namespace SubjectTagger

variable (s : SubjectTagger)

def renderTag (label : Bytes) : Bytes := bytesOf "[" ++ s.cfg.tagPrefix ++ bytesOf ": " ++ label ++ bytesOf "] "

def alreadyTagged (subject : Bytes) : Bool := s.cfg.opening <+: subject

def tag (subject tier : Bytes) : Bytes × Bool :=
  match s.cfg.labelFor tier with
  | none => (subject, false)
  | some label =>
    if s.alreadyTagged subject then (subject, false)
    else if subject = [] then (s.renderTag label, true)
    else (s.renderTag label ++ subject, true)

def untag (subject : Bytes) : Bytes × Bool :=
  if s.cfg.opening <+: subject then
    match index (bytesOf "]") subject with
    | none => (subject, false)
    | some stop =>
      let rest := subject.drop (stop + 1)
      -- exactly one space, if there is one
      (if bytesOf " " <+: rest then rest.drop 1 else rest, true)
  else (subject, false)

variable {s} {subject tier label : Bytes}

/-! ### Idempotence -/

lemma opening_renderTag (label rest : Bytes) : s.cfg.opening <+: s.renderTag label ++ rest := by
  refine ⟨bytesOf " " ++ label ++ bytesOf "] " ++ rest, ?_⟩
  have hcolon : bytesOf ": " = bytesOf ":" ++ bytesOf " " := rfl
  simp only [SubjectTagConfig.opening, renderTag, hcolon, List.append_assoc]

lemma tag_of_label (h : s.cfg.labelFor tier = some label) (hfresh : ¬ s.cfg.opening <+: subject) :
    s.tag subject tier = (s.renderTag label ++ subject, true) := by
  have hnot : s.alreadyTagged subject = false := decide_eq_false hfresh
  unfold tag
  simp only [h, hnot]
  by_cases hempty : subject = []
  · simp [hempty]
  · simp [hempty]

/-- `Tag` leaves the subject alone, or it adds the tag of the tier's label to a subject without one. -/
lemma tag_cases (s : SubjectTagger) (subject tier : Bytes) :
    (s.tag subject tier = (subject, false) ∧ (∀ label ∈ s.cfg.labelFor tier, s.cfg.opening <+: subject)) ∨
    ∃ label, s.cfg.labelFor tier = some label ∧ ¬ s.cfg.opening <+: subject ∧
      s.tag subject tier = (s.renderTag label ++ subject, true) := by
  cases hlabel : s.cfg.labelFor tier with
  | none =>
    refine Or.inl ⟨by simp only [tag, hlabel], ?_⟩
    intro label h
    cases h
  | some label =>
    by_cases hopen : s.cfg.opening <+: subject
    · have hyes : s.alreadyTagged subject = true := decide_eq_true hopen
      exact Or.inl ⟨by simp only [tag, hlabel, hyes, if_true], fun _ _ => hopen⟩
    · exact Or.inr ⟨label, rfl, hopen, tag_of_label hlabel hopen⟩

lemma tag_of_opening (h : s.cfg.opening <+: subject) (tier : Bytes) : s.tag subject tier = (subject, false) := by
  rcases tag_cases s subject tier with ⟨hkept, -⟩ | ⟨label, -, hnot, -⟩
  · exact hkept
  · exact absurd h hnot

/-- **A second `Tag` adds nothing.** -/
lemma tag_idem (s : SubjectTagger) (subject tier : Bytes) :
    s.tag (s.tag subject tier).1 tier = ((s.tag subject tier).1, false) := by
  rcases tag_cases s subject tier with ⟨hkept, -⟩ | ⟨label, -, -, hadded⟩
  · rw [hkept]
    exact hkept
  · rw [hadded]
    exact tag_of_opening (opening_renderTag label subject) tier

/-! ### The way back -/

/-- The bytes of a tag in front of its closing bracket. -/
def beforeBracket (s : SubjectTagger) (label : Bytes) : Bytes := bytesOf "[" ++ s.cfg.tagPrefix ++ bytesOf ": " ++ label

lemma renderTag_append (label subject : Bytes) :
    s.renderTag label ++ subject = s.beforeBracket label ++ 0x5D :: 0x20 :: subject := by
  have hclose : bytesOf "] " = [0x5D, 0x20] := rfl
  simp only [renderTag, beforeBracket, hclose, List.append_assoc, List.cons_append, List.nil_append]

lemma bracket_mem_beforeBracket :
    0x5D ∈ s.beforeBracket label ↔ 0x5D ∈ s.cfg.tagPrefix ∨ 0x5D ∈ label := by
  have hopen : bytesOf "[" = [0x5B] := rfl
  have hcolon : bytesOf ": " = [0x3A, 0x20] := rfl
  simp [beforeBracket, hopen, hcolon]

/-- The first closing bracket, of a text that has one behind `w`. -/
lemma exists_index_bracket (w t : Bytes) : ∃ i ≤ w.length, index (bytesOf "]") (w ++ 0x5D :: t) = some i ∧
    (i = w.length ↔ 0x5D ∉ w) := by
  have hsep : bytesOf "]" = [0x5D] := rfl
  have hat : At [0x5D] (w ++ 0x5D :: t) w.length := by
    rw [at_singleton, List.getElem?_append_right le_rfl, Nat.sub_self]
    rfl
  rw [hsep]
  cases hi : index [0x5D] (w ++ 0x5D :: t) with
  | none => exact absurd hat (index_eq_none_iff.mp hi _ (by simp))
  | some i =>
    obtain ⟨⟨-, hati⟩, hfirst⟩ := index_eq_some_iff.mp hi
    have hle : i ≤ w.length := by
      by_contra hlt
      exact hfirst _ (not_le.mp hlt) hat
    refine ⟨i, hle, rfl, ?_, ?_⟩
    · rintro rfl hmem
      obtain ⟨j, hj, hget⟩ := List.mem_iff_getElem.mp hmem
      refine hfirst j hj ?_
      rw [at_singleton, List.getElem?_append_left hj, List.getElem?_eq_getElem hj, hget]
    · intro hnot
      by_contra hne
      rw [at_singleton, List.getElem?_append_left (by omega)] at hati
      exact hnot (List.mem_of_getElem? hati)

/-- **The round trip.** A closing bracket in the prefix or in the label ends the tag too early. -/
lemma untag_render_iff (s : SubjectTagger) (label subject : Bytes) :
    s.untag (s.renderTag label ++ subject) = (subject, true) ↔ 0x5D ∉ s.cfg.tagPrefix ∧ 0x5D ∉ label := by
  have hspace : bytesOf " " = [0x20] := rfl
  obtain ⟨i, hle, hindex, hfirst⟩ := exists_index_bracket (s.beforeBracket label) (0x20 :: subject)
  have hclean : i = (s.beforeBracket label).length ↔ 0x5D ∉ s.cfg.tagPrefix ∧ 0x5D ∉ label := by
    rw [hfirst, bracket_mem_beforeBracket, not_or]
  have hopen := opening_renderTag (s := s) label subject
  rw [renderTag_append] at hopen ⊢
  simp only [untag, hopen, if_true, hindex, hspace]
  rw [← hclean]
  constructor
  · intro h
    by_contra hne
    -- what is left is longer than the subject
    have hlen := congrArg (fun x => x.1.length) h
    dsimp only at hlen
    split_ifs at hlen <;> simp at hlen <;> omega
  · rintro rfl
    simp

/-- Tagging this subject twice is tagging it once, and a tag that was added comes off again. -/
def Reversible (s : SubjectTagger) (subject tier : Bytes) : Prop :=
  (s.tag (s.tag subject tier).1 tier).1 = (s.tag subject tier).1 ∧
    ((s.tag subject tier).2 = true → s.untag (s.tag subject tier).1 = (subject, true))

end SubjectTagger

namespace SubjectTagConfig

/-- If a tag is added, prefix and label have no closing bracket. -/
def NoBracket (cfg : SubjectTagConfig) (subject tier : Bytes) : Prop :=
  ∀ label ∈ cfg.labelFor tier, ¬ cfg.opening <+: subject → 0x5D ∉ cfg.tagPrefix ∧ 0x5D ∉ label

lemma cfg_of_new {cfg : SubjectTagConfig} {s : SubjectTagger} (h : newSubjectTagger cfg = .ok s) :
    s.cfg = cfg.withDefaults := by
  unfold newSubjectTagger at h
  split at h
  · cases h
  · cases h
    rfl

open SubjectTagger in
/-- A subject is reversible exactly if no closing bracket of the configuration gets into a tag in front of it. -/
lemma reversible_iff_noBracket {cfg : SubjectTagConfig} {s : SubjectTagger} (h : newSubjectTagger cfg = .ok s)
    (subject tier : Bytes) : s.Reversible subject tier ↔ cfg.withDefaults.NoBracket subject tier := by
  rw [← cfg_of_new h]
  have hidem : (s.tag (s.tag subject tier).1 tier).1 = (s.tag subject tier).1 := by rw [tag_idem]
  unfold Reversible NoBracket
  rw [and_iff_right hidem]
  rcases tag_cases s subject tier with ⟨hkept, hopen⟩ | ⟨label, hlabel, hfresh, hadded⟩
  · constructor
    · intro _ label hlabel hfresh
      exact absurd (hopen label hlabel) hfresh
    · intro _ htrue
      rw [hkept] at htrue
      cases htrue
  · rw [hadded]
    constructor
    · intro hback label' hlabel' _
      rw [hlabel] at hlabel'
      cases hlabel'
      exact (untag_render_iff s label subject).mp (hback rfl)
    · intro hclean _
      exact (untag_render_iff s label subject).mpr (hclean label hlabel hfresh)

/-! ### Every tier and every subject -/

lemma new_of_valid {cfg : SubjectTagConfig} (h : cfg.withDefaults.validate = .ok ()) :
    newSubjectTagger cfg = .ok ⟨cfg.withDefaults, h⟩ := by
  unfold newSubjectTagger
  split
  · next hbad => cases h.symm.trans hbad
  · rfl

/-- What the loop of `NewSubjectTagger` has seen at its end. -/
lemma checkLabels_ok {minTier : Bytes} {labels : List (Bytes × Bytes)} {before after : Bool}
    (h : checkLabels minTier labels before = .ok after) :
    (∀ p ∈ labels, tierNamed p.1 ≠ none ∧ Utf8.trimSpace p.2 ≠ []) ∧
      (after = true → before = true ∨ ∃ p ∈ labels, severityNamed minTier ≤ severityNamed p.1) := by
  induction labels generalizing before with
  | nil =>
    cases h
    exact ⟨by simp, Or.inl⟩
  | cons p rest ih =>
    obtain ⟨t, label⟩ := p
    unfold checkLabels at h
    split_ifs at h with htier hlabel
    obtain ⟨hall, hmatch⟩ := ih h
    refine ⟨List.forall_mem_cons.mpr ⟨⟨htier, hlabel⟩, hall⟩, fun hafter => ?_⟩
    rcases hmatch hafter with hbefore | ⟨q, hq, hsev⟩
    · rcases (Bool.or_eq_true _ _).mp hbefore with hflag | hsev
      · exact Or.inl hflag
      · exact Or.inr ⟨_, List.mem_cons_self, of_decide_eq_true hsev⟩
    · exact Or.inr ⟨q, List.mem_cons_of_mem _ hq, hsev⟩

lemma validate_enabled {cfg : SubjectTagConfig} (h : cfg.validate = .ok ()) (henabled : cfg.enabled = true) :
    (∀ p ∈ cfg.labels, tierNamed p.1 ≠ none ∧ Utf8.trimSpace p.2 ≠ []) ∧
      ∃ p ∈ cfg.labels, severityNamed cfg.minTier ≤ severityNamed p.1 := by
  unfold validate at h
  rw [if_pos henabled] at h
  split_ifs at h
  split at h
  · cases h
  · cases h
  · next hok =>
    obtain ⟨hall, hmatch⟩ := checkLabels_ok hok
    rcases hmatch rfl with hflag | hex
    · cases hflag
    · exact ⟨hall, hex⟩

lemma lookup_of_mem {labels : List (Bytes × Bytes)} (hnodup : (labels.map Prod.fst).Nodup) {t label : Bytes}
    (h : (t, label) ∈ labels) : labels.lookup t = some label := by
  induction labels with
  | nil => cases h
  | cons p rest ih =>
    obtain ⟨hp, hrest⟩ := List.nodup_cons.mp hnodup
    rcases List.mem_cons.mp h with rfl | hmem
    · rw [List.lookup_cons, beq_self_eq_true]
    · have hne : t ≠ p.1 := by
        rintro rfl
        exact hp (List.mem_map.mpr ⟨_, hmem, rfl⟩)
      rw [List.lookup_cons, beq_false_of_ne hne]
      exact ih hrest hmem

variable {cfg : SubjectTagConfig} {tier label : Bytes}

lemma labelFor_of_mem (h : cfg.validate = .ok ()) (henabled : cfg.enabled = true) (hmem : (tier, label) ∈ cfg.labels)
    (hsev : severityNamed cfg.minTier ≤ severityNamed tier) : cfg.labelFor tier = some label := by
  obtain ⟨htier, hlabel⟩ := (validate_enabled h henabled).1 _ hmem
  have hgate : ¬ (tierNamed tier = none ∨ severityNamed tier < severityNamed cfg.minTier) := by
    rintro (hnone | hlt)
    · exact htier hnone
    · omega
  unfold labelFor
  simp only [henabled, hgate, lookup_of_mem cfg.nodup hmem, hlabel, Bool.not_true, Bool.false_eq_true, if_false]

lemma mem_of_labelFor (h : cfg.labelFor tier = some label) : cfg.enabled = true ∧ (tier, label) ∈ cfg.labels ∧
    severityNamed cfg.minTier ≤ severityNamed tier := by
  unfold labelFor at h
  split_ifs at h with henabled hgate
  split at h
  · cases h
  · next found hfound =>
    split_ifs at h
    cases h
    obtain ⟨before, behind, heq, -⟩ := List.lookup_eq_some_iff.mp hfound
    refine ⟨by simpa using henabled, by simp [heq], ?_⟩
    rw [not_or] at hgate
    omega

lemma always_noBracket_iff (h : cfg.validate = .ok ()) : (∀ subject tier, cfg.NoBracket subject tier) ↔
    (cfg.enabled = true → 0x5D ∉ cfg.tagPrefix ∧
      ∀ p ∈ cfg.labels, severityNamed cfg.minTier ≤ severityNamed p.1 → 0x5D ∉ p.2) := by
  have hfresh : ¬ cfg.opening <+: [] := by
    intro hnil
    have hlen := hnil.length_le
    have hopen : (bytesOf "[").length = 1 := rfl
    simp [opening, hopen] at hlen
  constructor
  · intro hall henabled
    have hclean : ∀ p ∈ cfg.labels, severityNamed cfg.minTier ≤ severityNamed p.1 →
        0x5D ∉ cfg.tagPrefix ∧ 0x5D ∉ p.2 := fun p hp hsev =>
      hall [] p.1 p.2 (labelFor_of_mem h henabled hp hsev) hfresh
    obtain ⟨-, p, hp, hsev⟩ := validate_enabled h henabled
    exact ⟨(hclean p hp hsev).1, fun q hq hq' => (hclean q hq hq').2⟩
  · intro hclean subject tier label hlabel _
    obtain ⟨henabled, hmem, hsev⟩ := mem_of_labelFor hlabel
    obtain ⟨hlead, hlabels⟩ := hclean henabled
    exact ⟨hlead, hlabels _ hmem hsev⟩

/-- A subject is reversible exactly if no closing bracket of the configuration gets into a tag in front of it, and a
configuration is reversible for all tiers and subjects exactly if neither its prefix nor a label at or above the minimum
tier holds one. -/
theorem reversible_iff (cfg : SubjectTagConfig) (s : SubjectTagger) (h : newSubjectTagger cfg = .ok s) :
    (∀ subject tier, s.Reversible subject tier ↔ cfg.withDefaults.NoBracket subject tier) ∧
    ((∀ subject tier, s.Reversible subject tier) ↔
      (cfg.enabled = true → 0x5D ∉ cfg.withDefaults.tagPrefix ∧ ∀ p ∈ cfg.withDefaults.labels,
        severityNamed cfg.withDefaults.minTier ≤ severityNamed p.1 → 0x5D ∉ p.2)) := by
  refine ⟨reversible_iff_noBracket h, ?_⟩
  have hvalid : cfg.withDefaults.validate = .ok () := by
    rw [← cfg_of_new h]
    exact s.valid
  simp only [reversible_iff_noBracket h]
  exact always_noBracket_iff hvalid

/-- The default labels under the prefix `SN360`. -/
def enabledConfig : SubjectTagConfig := { enabled := true }

/-- A label that holds a bracketed word of its own. -/
def bracketConfig : SubjectTagConfig := { enabled := true, labels := [(bytesOf "Warning", bytesOf "WARN[1]")] }

lemma enabledConfig_valid : enabledConfig.withDefaults.validate = .ok () := by decide +kernel

lemma bracketConfig_valid : bracketConfig.withDefaults.validate = .ok () := by decide +kernel

theorem reversible_default : ∃ s, newSubjectTagger enabledConfig = .ok s ∧
    s.tag (bytesOf "RFP") (bytesOf "Warning") = (bytesOf "[SN360: WARN] RFP", true) ∧
    ∀ subject tier, s.Reversible subject tier := by
  refine ⟨_, new_of_valid enabledConfig_valid, by decide +kernel, ?_⟩
  refine (reversible_iff enabledConfig _ (new_of_valid enabledConfig_valid)).2.mpr fun _ => ?_
  decide +kernel

/-- The tag ends at the bracket of the label. -/
theorem not_reversible_bracket : ∃ s, newSubjectTagger bracketConfig = .ok s ∧
    s.tag (bytesOf "RFP") (bytesOf "Warning") = (bytesOf "[SN360: WARN[1]] RFP", true) ∧
    s.untag (bytesOf "[SN360: WARN[1]] RFP") = (bytesOf "] RFP", true) ∧
    ¬ s.Reversible (bytesOf "RFP") (bytesOf "Warning") := by
  have htag : (SubjectTagger.mk _ bracketConfig_valid).tag (bytesOf "RFP") (bytesOf "Warning") =
      (bytesOf "[SN360: WARN[1]] RFP", true) := by decide +kernel
  have huntag : (SubjectTagger.mk _ bracketConfig_valid).untag (bytesOf "[SN360: WARN[1]] RFP") =
      (bytesOf "] RFP", true) := by decide +kernel
  refine ⟨_, new_of_valid bracketConfig_valid, htag, huntag, fun h => ?_⟩
  have hback := h.2 (by rw [htag])
  rw [htag, huntag] at hback
  exact absurd (Prod.ext_iff.mp hback).1 (by decide +kernel)

end SubjectTagConfig

end Sn360Es.Action
