import Mathlib.Data.Finset.Basic
import Sn360Es.Constant
import Sn360Es.Lib.GoStrings

/-!
# The label applier (`internal/service/action/label_applier.go`, `label_colors.go`)

`Apply` attaches the label of the new tier and removes the labels of the others, whose ids it looks up in the
label cache. The ids are cached under `cacheKeyNamed` and looked up under `cacheKey`, so the look-ups never
find what the applier itself has cached: the tier labels of a message pile up (`applyAll_tiers`).

A provider is what its calls return. A cache that does not answer for a key neither returns nor stores it. The
expiry of cache entries is left out: an entry that is gone is ensured again.
-/

namespace Sn360Es.Action

open Lib.GoStrings (trimPrefix)

inductive LabelProviderKind where
  | gmail
  | outlook
  | zoho
  | fastmail
  | workmail
  deriving DecidableEq, Repr

def LabelProviderKind.name : LabelProviderKind → String
  | gmail => "gmail"
  | outlook => "outlook"
  | zoho => "zoho"
  | fastmail => "fastmail"
  | workmail => "workmail"

structure LabelColor where
  background : String
  foreground : String
  outlookPreset : String
  deriving DecidableEq, Repr

/-- `ColorFor`, on the six tiers of `LabelStyle`. -/
def colorFor : Tier → LabelColor
  | .blocked => ⟨"#b00020", "#ffffff", "preset10"⟩
  | .highRisk => ⟨"#cc5500", "#ffffff", "preset3"⟩
  | .warning => ⟨"#b58a00", "#1f1f1f", "preset0"⟩
  | .caution => ⟨"#1565c0", "#ffffff", "preset8"⟩
  | .informational => ⟨"#5a6b80", "#ffffff", "preset12"⟩
  | .trusted => ⟨"#0a7a3d", "#ffffff", "preset5"⟩

/-- `LabelProvider`: what a call returns for an email address and a label name or id. -/
structure LabelProvider where
  ensureLabel : String → String → LabelColor → Except String String
  applyLabel : String → String → String → Except String Unit
  removeLabel : String → String → String → Except String Unit

structure LabelApplyRequest where
  tenant : String
  provider : LabelProviderKind
  email : String
  messageID : String
  newTier : Tier
  previousTier : Option Tier := none
  primaryCategory : Option Category := none
  deriving DecidableEq, Repr

structure LabelApplyResult where
  appliedLabelID : String := ""
  appliedLabel : String := ""
  removedLabelIDs : List String := []
  subCategoryID : String := ""
  deriving DecidableEq, Repr

structure LabelApplier where
  providers : LabelProviderKind → Option LabelProvider
  /-- The keys for which the cache returns an error. -/
  cacheDown : String → Bool := fun _ => false

/-- The label cache, and the label ids attached to each message of each mailbox. -/
structure LabelState where
  cache : String → Option String := fun _ => none
  attached : String × String → Finset String := fun _ => ∅

/-- `categoryShortName`. The codes are ASCII. -/
def categoryShortName (c : Category) : String :=
  let s := ["LIKELY_", "SUSPICIOUS_", "FIRST_CONTACT_", "BEC_"].foldl
    (fun s lead => trimPrefix s lead.toList) c.code.toList
  let titled : List Char → List Char
    | [] => []
    | w :: ws => w.toUpper :: ws
  String.ofList ([' '].intercalate (((s.map Char.toLower).splitOn '_').map titled))

/-- `cacheKey`. -/
def cacheKey (p : LabelProviderKind) (tenant email : String) (tier : Tier) : String :=
  p.name ++ ":" ++ tenant ++ ":" ++ email ++ (":label:" ++ tier.name)

/-- `cacheKeyNamed`. -/
def cacheKeyNamed (p : LabelProviderKind) (tenant email name : String) : String :=
  p.name ++ ":" ++ tenant ++ ":" ++ email ++ (":labelname:" ++ name)

/-- What a call of `Apply` returns, and the state it leaves. -/
structure LabelOutcome where
  res : LabelApplyResult
  err : Option String := none
  state : LabelState

namespace LabelApplier

variable (a : LabelApplier) (prov : LabelProvider) (req : LabelApplyRequest)

/-- `cache.Get` where the caller also treats `""` as a miss. -/
def cacheGet (s : LabelState) (key : String) : Option String :=
  if a.cacheDown key then none else (s.cache key).filter (· ≠ "")

/-- `ensureLabel`. The second look into the cache, under the lock, sees what the first one saw. -/
def ensureLabel (name : String) (color : LabelColor) (s : LabelState) :
    Except String String × LabelState :=
  let key := cacheKeyNamed req.provider req.tenant req.email name
  match a.cacheGet s key with
  | some id => (.ok id, s)
  | none =>
    match prov.ensureLabel req.email name color with
    | .error err => (.error err, s)
    | .ok id =>
      (.ok id, if a.cacheDown key then s else { s with cache := Function.update s.cache key (some id) })

/-- A successful `ApplyLabel`. -/
def attach (id : String) (s : LabelState) : LabelState :=
  let msg := (req.email, req.messageID)
  { s with attached := Function.update s.attached msg (insert id (s.attached msg)) }

/-- A successful `RemoveLabel`. -/
def detach (id : String) (s : LabelState) : LabelState :=
  let msg := (req.email, req.messageID)
  { s with attached := Function.update s.attached msg ((s.attached msg).erase id) }

/-- Step 3 of `Apply`: the loop over the other tiers. -/
def removeOthers (s : LabelState) : List Tier → List String × LabelState
  | [] => ([], s)
  | other :: tiers =>
    if other = req.newTier then removeOthers s tiers
    else
      match a.cacheGet s (cacheKey req.provider req.tenant req.email other) with
      | none => removeOthers s tiers
      | some id =>
        match prov.removeLabel req.email req.messageID id with
        | .error _ => removeOthers s tiers
        | .ok () =>
          let (ids, s) := removeOthers (detach req id s) tiers
          (id :: ids, s)

/-- Step 4 of `Apply`: the sub-label of a threat category, best effort. -/
def applySubLabel (res : LabelApplyResult) (s : LabelState) : LabelOutcome :=
  match req.primaryCategory with
  | none => { res, state := s }
  | some cat =>
    if cat.isBenign then { res, state := s }
    else
      match a.ensureLabel prov req (req.newTier.labelName ++ " / " ++ categoryShortName cat)
          (colorFor req.newTier) s with
      | (.error _, s) => { res, state := s }
      | (.ok subID, s) =>
        match prov.applyLabel req.email req.messageID subID with
        | .error _ => { res, state := s }
        | .ok () => { res := { res with subCategoryID := subID }, state := attach req subID s }

/-- `LabelApplier.Apply`. Every value of `Tier` is a valid tier. -/
def apply (s : LabelState) : LabelOutcome :=
  if req.tenant = "" ∨ req.email = "" ∨ req.messageID = "" then
    { res := {}, err := some "label_applier: tenant, email and message_id are required", state := s }
  else
    match a.providers req.provider with
    | none =>
      { res := {}, err := some ("label_applier: no provider registered for \"" ++ req.provider.name ++ "\"")
        state := s }
    | some prov =>
      match a.ensureLabel prov req req.newTier.labelName (colorFor req.newTier) s with
      | (.error err, s) => { res := {}, err := some ("ensure tier label: " ++ err), state := s }
      | (.ok tierID, s) =>
        let res : LabelApplyResult := { appliedLabelID := tierID, appliedLabel := req.newTier.labelName }
        match prov.applyLabel req.email req.messageID tierID with
        | .error err => { res, err := some ("apply tier label: " ++ err), state := s }
        | .ok () =>
          let (removed, s) := a.removeOthers prov req (attach req tierID s) Tier.all
          a.applySubLabel prov req { res with removedLabelIDs := removed } s

end LabelApplier

/-! ### Keys and names -/

section Keys

variable {p : LabelProviderKind} {tenant email : String}

lemma cacheKey_ne_cacheKeyNamed (t : Tier) (name : String) :
    cacheKey p tenant email t ≠ cacheKeyNamed p tenant email name := by
  intro h
  have hsuffix := congrArg String.toList ((String.append_right_inj _).mp h)
  simp at hsuffix

lemma cacheKeyNamed_injective : Function.Injective (cacheKeyNamed p tenant email) := fun _ _ h =>
  (String.append_right_inj _).mp ((String.append_right_inj _).mp h)

lemma labelName_injective : Function.Injective Tier.labelName := by
  intro t t' h
  have hname := (String.append_right_inj _).mp h
  cases t <;> cases t' <;> first | rfl | exact absurd hname (by decide)

/-- The name of a sub-label has one more slash than a tier label. -/
lemma subLabel_ne_labelName (t t' : Tier) (sub : String) :
    t.labelName ++ " / " ++ sub ≠ t'.labelName := by
  intro h
  have hcount := congrArg (fun s : String => s.toList.count '/') h
  have hone : ∀ t : Tier, t.labelName.toList.count '/' = 1 := by
    intro t
    cases t <;> decide
  simp only [String.toList_append, List.count_append, hone] at hcount
  have hsep : " / ".toList.count '/' = 1 := by decide
  omega

end Keys

/-! ### Other messages -/

section Frame

variable {a : LabelApplier} {prov : LabelProvider} {req : LabelApplyRequest} {msg : String × String}

variable (a prov req) in
lemma ensureLabel_attached (name : String) (color : LabelColor) (s : LabelState) :
    (a.ensureLabel prov req name color s).2.attached = s.attached := by
  unfold LabelApplier.ensureLabel
  cases hget : a.cacheGet s (cacheKeyNamed req.provider req.tenant req.email name) with
  | some id => simp only [hget]
  | none =>
    cases hens : prov.ensureLabel req.email name color with
    | error err => simp only [hget]
    | ok id =>
      simp only [hget]
      by_cases hdown : a.cacheDown (cacheKeyNamed req.provider req.tenant req.email name) = true
      · rw [if_pos hdown]
      · rw [if_neg hdown]

lemma attach_attached_of_ne (hmsg : msg ≠ (req.email, req.messageID)) (id : String) (s : LabelState) :
    (LabelApplier.attach req id s).attached msg = s.attached msg :=
  Function.update_of_ne hmsg _ _

lemma removeOthers_attached_of_ne (hmsg : msg ≠ (req.email, req.messageID)) (tiers : List Tier) :
    ∀ s : LabelState, (a.removeOthers prov req s tiers).2.attached msg = s.attached msg := by
  induction tiers with
  | nil => exact fun _ => rfl
  | cons other tiers ih =>
    intro s
    unfold LabelApplier.removeOthers
    by_cases hnew : other = req.newTier
    · rw [if_pos hnew, ih]
    rw [if_neg hnew]
    cases a.cacheGet s (cacheKey req.provider req.tenant req.email other) with
    | none => exact ih s
    | some id =>
      cases hrem : prov.removeLabel req.email req.messageID id with
      | error err => simpa only [hrem] using ih s
      | ok u =>
        simp only [hrem]
        rw [ih]
        exact Function.update_of_ne hmsg _ _

lemma applySubLabel_attached_of_ne (hmsg : msg ≠ (req.email, req.messageID)) (res : LabelApplyResult)
    (s : LabelState) : (a.applySubLabel prov req res s).state.attached msg = s.attached msg := by
  unfold LabelApplier.applySubLabel
  cases req.primaryCategory with
  | none => rfl
  | some cat =>
    by_cases hbenign : cat.isBenign = true
    · simp only [hbenign, if_true]
    simp only [hbenign, if_false, Bool.false_eq_true]
    have hens := ensureLabel_attached a prov req (req.newTier.labelName ++ " / " ++ categoryShortName cat)
      (colorFor req.newTier) s
    rcases hsub : a.ensureLabel prov req (req.newTier.labelName ++ " / " ++ categoryShortName cat)
      (colorFor req.newTier) s with ⟨err | subID, s'⟩ <;> rw [hsub] at hens
    · exact congrFun hens msg
    · cases happ : prov.applyLabel req.email req.messageID subID with
      | error err => simpa only [happ] using congrFun hens msg
      | ok u =>
        simp only [happ]
        exact (attach_attached_of_ne hmsg subID s').trans (congrFun hens msg)

/-- **The frame of `Apply`**: the labels of every other message stay. -/
lemma apply_attached_of_ne (hmsg : msg ≠ (req.email, req.messageID)) (s : LabelState) :
    (a.apply req s).state.attached msg = s.attached msg := by
  unfold LabelApplier.apply
  by_cases hreq : req.tenant = "" ∨ req.email = "" ∨ req.messageID = ""
  · rw [if_pos hreq]
  rw [if_neg hreq]
  cases a.providers req.provider with
  | none => rfl
  | some prov =>
    have hens := ensureLabel_attached a prov req req.newTier.labelName (colorFor req.newTier) s
    simp only
    rcases htier : a.ensureLabel prov req req.newTier.labelName (colorFor req.newTier) s with ⟨err | tierID, s'⟩ <;>
      rw [htier] at hens
    · exact congrFun hens msg
    · cases happ : prov.applyLabel req.email req.messageID tierID with
      | error err => simpa only [happ] using congrFun hens msg
      | ok u =>
        simp only [happ]
        rw [applySubLabel_attached_of_ne hmsg, removeOthers_attached_of_ne hmsg, attach_attached_of_ne hmsg]
        exact congrFun hens msg

end Frame

/-! ### Runs on one message -/

section Runs

/-- Every call succeeds, and the ids keep the tier labels apart from each other and from the sub-labels. -/
structure Reliable (a : LabelApplier) (prov : LabelProvider) (labelID : String → String → String) :
    Prop where
  cache : ∀ key, a.cacheDown key = false
  ensure : ∀ email name color, prov.ensureLabel email name color = .ok (labelID email name)
  apply : ∀ email messageID id, prov.applyLabel email messageID id = .ok ()
  remove : ∀ email messageID id, prov.removeLabel email messageID id = .ok ()
  tierIDs : ∀ email (t t' : Tier), labelID email t.labelName = labelID email t'.labelName → t = t'
  subIDs : ∀ email (t t' : Tier) cat, labelID email (t.labelName ++ " / " ++ categoryShortName cat) ≠
    labelID email t'.labelName

/-- The message that a request is about. -/
structure MessageRef where
  provider : LabelProviderKind
  tenant : String
  email : String
  messageID : String

def LabelApplyRequest.ref (r : LabelApplyRequest) : MessageRef :=
  ⟨r.provider, r.tenant, r.email, r.messageID⟩

/-- A sequence of `Apply` calls. -/
def applyAll (a : LabelApplier) (reqs : List LabelApplyRequest) (s : LabelState) : LabelState :=
  reqs.foldl (fun s req => (a.apply req s).state) s

/-- The label of tier `t` is on the message. -/
def HasTierLabel (labelID : String → String → String) (m : MessageRef) (s : LabelState) (t : Tier) :
    Prop :=
  labelID m.email t.labelName ∈ s.attached (m.email, m.messageID)

/-- What the applier's own calls make true of the cache: a cached name leads to its id, and there is nothing
under the keys that the removal loop reads. -/
structure CacheInv (labelID : String → String → String) (m : MessageRef) (s : LabelState) : Prop where
  tierKeys : ∀ t, s.cache (cacheKey m.provider m.tenant m.email t) = none
  names : ∀ name id, s.cache (cacheKeyNamed m.provider m.tenant m.email name) = some id →
    id = labelID m.email name

variable {a : LabelApplier} {prov : LabelProvider} {labelID : String → String → String}
  {m : MessageRef} {r : LabelApplyRequest} {s : LabelState}

/-- Caching the id of a name keeps the invariant. -/
lemma CacheInv.store (hinv : CacheInv labelID m s) (name : String) :
    CacheInv labelID m { s with
      cache := Function.update s.cache (cacheKeyNamed m.provider m.tenant m.email name)
        (some (labelID m.email name)) } := by
  refine ⟨fun t => ?_, fun name' id hid => ?_⟩ <;> dsimp only at *
  · rw [Function.update_of_ne (cacheKey_ne_cacheKeyNamed t name)]
    exact hinv.tierKeys t
  · by_cases hn : name' = name
    · subst hn
      rw [Function.update_self] at hid
      exact (Option.some.inj hid).symm
    · rw [Function.update_of_ne fun hk => hn (cacheKeyNamed_injective hk)] at hid
      exact hinv.names name' id hid

lemma CacheInv.attach (hinv : CacheInv labelID m s) (id : String) :
    CacheInv labelID m (LabelApplier.attach r id s) :=
  ⟨hinv.tierKeys, hinv.names⟩

/-- `ensureLabel` returns the id of the label, keeps the invariant and touches no message. -/
lemma ensureLabel_spec (h : Reliable a prov labelID) (hinv : CacheInv labelID r.ref s) (name : String)
    (color : LabelColor) :
    ∃ s', a.ensureLabel prov r name color s = (.ok (labelID r.email name), s') ∧
      CacheInv labelID r.ref s' ∧ s'.attached = s.attached := by
  unfold LabelApplier.ensureLabel LabelApplier.cacheGet
  simp only [h.cache, Bool.false_eq_true, if_false]
  cases hget : (s.cache (cacheKeyNamed r.provider r.tenant r.email name)).filter (· ≠ "") with
  | some id =>
    obtain ⟨hid, -⟩ := Option.filter_eq_some_iff.mp hget
    obtain rfl : id = labelID r.email name := hinv.names name id hid
    exact ⟨s, rfl, hinv, rfl⟩
  | none =>
    simp only [h.ensure]
    exact ⟨_, rfl, hinv.store name, rfl⟩

/-- The removal loop finds no id. -/
lemma removeOthers_eq (hinv : CacheInv labelID r.ref s) (tiers : List Tier) :
    a.removeOthers prov r s tiers = ([], s) := by
  induction tiers with
  | nil => rfl
  | cons t tiers ih =>
    have hmiss : a.cacheGet s (cacheKey r.provider r.tenant r.email t) = none := by
      have hnone : s.cache (cacheKey r.provider r.tenant r.email t) = none := hinv.tierKeys t
      simp [LabelApplier.cacheGet, hnone]
    unfold LabelApplier.removeOthers
    rw [hmiss, ih, ite_self]

lemma hasTierLabel_attach (id : String) (t : Tier) :
    HasTierLabel labelID r.ref (LabelApplier.attach r id s) t ↔
      labelID r.email t.labelName = id ∨ HasTierLabel labelID r.ref s t := by
  simp [HasTierLabel, LabelApplier.attach, LabelApplyRequest.ref]

/-- A sub-label is no tier label. -/
lemma applySubLabel_spec (h : Reliable a prov labelID) (hinv : CacheInv labelID r.ref s)
    (res : LabelApplyResult) :
    CacheInv labelID r.ref (a.applySubLabel prov r res s).state ∧
      ∀ t, HasTierLabel labelID r.ref (a.applySubLabel prov r res s).state t ↔
        HasTierLabel labelID r.ref s t := by
  unfold LabelApplier.applySubLabel
  cases r.primaryCategory with
  | none => exact ⟨hinv, fun _ => Iff.rfl⟩
  | some cat =>
    dsimp only
    split_ifs
    · exact ⟨hinv, fun _ => Iff.rfl⟩
    · obtain ⟨s', hs', hinv', hatt⟩ := ensureLabel_spec h hinv
        (r.newTier.labelName ++ " / " ++ categoryShortName cat) (colorFor r.newTier)
      simp only [hs', h.apply]
      refine ⟨hinv'.attach _, fun t => ?_⟩
      rw [hasTierLabel_attach, HasTierLabel, hatt, or_iff_right]
      · rfl
      · exact fun hid => h.subIDs _ _ _ _ hid.symm

/-- **One call** adds its tier label and takes none away. -/
lemma apply_spec (h : Reliable a prov labelID) (hinv : CacheInv labelID r.ref s)
    (hprov : a.providers r.provider = some prov)
    (hreq : r.tenant ≠ "" ∧ r.email ≠ "" ∧ r.messageID ≠ "") :
    CacheInv labelID r.ref (a.apply r s).state ∧
      ∀ t, HasTierLabel labelID r.ref (a.apply r s).state t ↔
        t = r.newTier ∨ HasTierLabel labelID r.ref s t := by
  obtain ⟨s', hs', hinv', hatt⟩ := ensureLabel_spec h hinv r.newTier.labelName (colorFor r.newTier)
  have hvalid : ¬ (r.tenant = "" ∨ r.email = "" ∨ r.messageID = "") := by
    rintro (h0 | h0 | h0)
    · exact hreq.1 h0
    · exact hreq.2.1 h0
    · exact hreq.2.2 h0
  unfold LabelApplier.apply
  simp only [hvalid, if_false, hprov, hs', h.apply, removeOthers_eq (hinv'.attach _)]
  obtain ⟨hinv'', htiers⟩ := applySubLabel_spec h (hinv'.attach (r := r) (labelID r.email r.newTier.labelName))
    { appliedLabelID := labelID r.email r.newTier.labelName, appliedLabel := r.newTier.labelName }
  refine ⟨hinv'', fun t => ?_⟩
  rw [htiers, hasTierLabel_attach, HasTierLabel, hatt]
  exact or_congr_left ⟨h.tierIDs _ _ _, fun ht => ht ▸ rfl⟩

/-- **A run of calls.** The tier labels on the message are those of all the calls. -/
theorem applyAll_tiers (h : Reliable a prov labelID) {reqs : List LabelApplyRequest}
    (hprov : a.providers m.provider = some prov)
    (hreq : m.tenant ≠ "" ∧ m.email ≠ "" ∧ m.messageID ≠ "") (hsame : ∀ req ∈ reqs, req.ref = m)
    (hinv : CacheInv labelID m s) (t : Tier) :
    HasTierLabel labelID m (applyAll a reqs s) t ↔
      (∃ req ∈ reqs, req.newTier = t) ∨ HasTierLabel labelID m s t := by
  induction reqs generalizing s with
  | nil => simp [applyAll]
  | cons req reqs ih =>
    obtain rfl := hsame req List.mem_cons_self
    obtain ⟨hinv', htiers⟩ := apply_spec h hinv hprov hreq
    have hrest := ih (fun q hq => hsame q (List.mem_cons_of_mem _ hq)) hinv'
    rw [applyAll, List.foldl_cons]
    refine hrest.trans ?_
    rw [htiers, eq_comm (a := t)]
    simp only [List.mem_cons, exists_eq_or_imp]
    exact or_left_comm.trans or_assoc.symm

/-- **Tier labels over a run.** From an unlabelled message and an empty cache, exactly the label of the last
call is attached if and only if all calls name its tier. -/
theorem applyAll_last_iff (h : Reliable a prov labelID) {reqs : List LabelApplyRequest}
    {last : LabelApplyRequest} (hprov : a.providers m.provider = some prov)
    (hreq : m.tenant ≠ "" ∧ m.email ≠ "" ∧ m.messageID ≠ "")
    (hsame : ∀ req ∈ reqs ++ [last], req.ref = m) (hcache : ∀ key, s.cache key = none)
    (hbare : s.attached (m.email, m.messageID) = ∅) :
    (∀ t, HasTierLabel labelID m (applyAll a (reqs ++ [last]) s) t ↔ t = last.newTier) ↔
      ∀ req ∈ reqs, req.newTier = last.newTier := by
  have hinv : CacheInv labelID m s :=
    ⟨fun t => hcache _, fun name id hid => by rw [hcache] at hid; cases hid⟩
  have hnone : ∀ t, ¬ HasTierLabel labelID m s t := fun t ht => by simp [HasTierLabel, hbare] at ht
  have hrun := applyAll_tiers h hprov hreq hsame hinv
  constructor
  · intro hlast req hmem
    refine (hlast req.newTier).mp ((hrun _).mpr (Or.inl ⟨req, ?_, rfl⟩))
    exact List.mem_append_left _ hmem
  · intro hall t
    rw [hrun t, or_iff_left (hnone t)]
    constructor
    · rintro ⟨req, hmem, rfl⟩
      rcases List.mem_append.mp hmem with hm | hm
      · exact hall req hm
      · rw [List.mem_singleton.mp hm]
    · rintro rfl
      exact ⟨last, List.mem_append_right _ (List.mem_singleton_self _), rfl⟩

end Runs

/-- An Outlook mailbox: a category is its own id. -/
def outlookLabels : LabelProvider where
  ensureLabel := fun _ name _ => .ok name
  applyLabel := fun _ _ _ => .ok ()
  removeLabel := fun _ _ _ => .ok ()

def outlookApplier : LabelApplier where
  providers := fun kind => if kind = .outlook then some outlookLabels else none

lemma outlookApplier_reliable : Reliable outlookApplier outlookLabels (fun _ name => name) where
  cache := fun _ => rfl
  ensure := fun _ _ _ => rfl
  apply := fun _ _ _ => rfl
  remove := fun _ _ _ => rfl
  tierIDs := fun _ _ _ h => labelName_injective h
  subIDs := fun _ t t' _ => subLabel_ne_labelName t t' _

/-- A request of tier `t` for one and the same Outlook message. -/
def outlookRequest (t : Tier) : LabelApplyRequest :=
  ⟨"t", .outlook, "u@x", "m", t, none, some .lookalikeDomain⟩

theorem applyAll_last_warning_twice :
    (∀ t, HasTierLabel (fun _ name => name) (outlookRequest .warning).ref
        (applyAll outlookApplier ([outlookRequest .warning] ++ [outlookRequest .warning]) {}) t ↔
        t = .warning) ↔
      ∀ req ∈ [outlookRequest .warning], req.newTier = .warning :=
  applyAll_last_iff outlookApplier_reliable rfl ⟨by decide, by decide, by decide⟩ (by simp) (fun _ => rfl) rfl

/-- Warning, then Caution: both labels stay. -/
theorem applyAll_last_two_tiers :
    ¬ ∀ (a : LabelApplier) (prov : LabelProvider) (labelID : String → String → String)
        (m : MessageRef) (s : LabelState) (reqs : List LabelApplyRequest) (last : LabelApplyRequest),
        Reliable a prov labelID → a.providers m.provider = some prov →
        m.tenant ≠ "" ∧ m.email ≠ "" ∧ m.messageID ≠ "" →
        (∀ req ∈ reqs ++ [last], req.ref = m) → (∀ key, s.cache key = none) →
        s.attached (m.email, m.messageID) = ∅ →
        ∀ t, HasTierLabel labelID m (applyAll a (reqs ++ [last]) s) t ↔ t = last.newTier := by
  intro h
  have hw := h outlookApplier outlookLabels (fun _ name => name) (outlookRequest .warning).ref {}
    [outlookRequest .warning] (outlookRequest .caution) outlookApplier_reliable rfl
    ⟨by decide, by decide, by decide⟩ (by simp [outlookRequest, LabelApplyRequest.ref]) (fun _ => rfl)
    rfl .warning
  have hstays : HasTierLabel (fun _ name => name) (outlookRequest .warning).ref
      (applyAll outlookApplier ([outlookRequest .warning] ++ [outlookRequest .caution]) {}) .warning := by
    unfold HasTierLabel
    decide +kernel
  exact absurd (hw.mp hstays) (by decide)

end Sn360Es.Action
