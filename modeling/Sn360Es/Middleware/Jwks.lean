import Sn360Es.Lib.Lts
import Sn360Es.Lib.Phase
import Mathlib.Data.Int.Notation

/-!
# Tokens of another issuer (`internal/middleware/jwks.go`)

Any number of concurrent `Verify` calls on one `JWKSVerifier`, whose contexts may be cancelled at any time. A call that
finds the cached keys stale, or no key under the `kid` of its token, claims the refresh window and fetches the key set;
as long as the window is claimed the others go on without a fetch. The endpoint answers with a key set that has the key
of interest, unless the request is cancelled.

* `parseJWKS_lookup` — the key of interest is among the keys, if the document can be parsed;
* `Supplied` — what the cache and the calls have, as long as no fetch fails while nothing is cached, and nobody gives up
  before the first one is over;
* `Throttled` — what the fetches have, as long as they do not start faster than their windows were claimed;
* `valid_tokens_accepted` — so tokens are accepted and fetches are an interval apart;
* `valid_tokens_refused` — runs in which they are not.

The JWT library is a parameter.
-/

namespace Sn360Es.Middleware

open Lib

variable {Key : Type}

/-! ### Key sets -/

/-- `jwk`, with the key that `rsaKey` or `ecKey` decodes. -/
structure Jwk (Key : Type) where
  kty : String
  kid : String
  use : String := ""
  key : Option Key
  deriving DecidableEq

/-- It is not skipped. -/
def Jwk.usable (j : Jwk Key) : Bool := j.kid ≠ "" ∧ j.use ≠ "enc" ∧ (j.kty = "RSA" ∨ j.kty = "EC")

/-- The loop of `parseJWKS`: a key that cannot be decoded is an error, and the last key of a `kid` counts. -/
def parseKeys (out : List (String × Key)) : List (Jwk Key) → Option (List (String × Key))
  | [] => some out
  | j :: js => if j.usable then j.key.bind fun key => parseKeys ((j.kid, key) :: out) js else parseKeys out js

def parseJWKS (doc : List (Jwk Key)) : Option (List (String × Key)) := parseKeys [] doc

/-- The key that the endpoint has all the time. -/
structure Endpoint (Key : Type) where
  kid : String
  key : Key
  /-- A key without a `kid` is skipped. -/
  kid_ne : kid ≠ ""

/-- The document has the key. -/
def Endpoint.Answers (k : Endpoint Key) (doc : List (Jwk Key)) : Prop :=
  (∃ j ∈ doc, j.usable = true ∧ j.kid = k.kid) ∧ ∀ j ∈ doc, j.usable = true → j.kid = k.kid → j.key = some k.key

instance [DecidableEq Key] (k : Endpoint Key) (doc : List (Jwk Key)) : Decidable (k.Answers doc) :=
  inferInstanceAs (Decidable (_ ∧ _))

/-- No key of the document is broken. -/
def decodable (doc : List (Jwk Key)) : Bool := doc.all fun j => !j.usable || j.key.isSome

/-! ### The verifier -/

/-- What the parser has read from a token; `verifies` is its signature. -/
structure Token (Key : Type) where
  /-- The algorithm is in `iamCoreAsymmetricAlgs`. -/
  asymmetric : Bool
  kid : String
  verifies : Key → Bool
  iss : String
  exp : Option ℕ
  nbf : Option ℕ := none
  tenantID : String

/-- What `Parse` checks of the claims. -/
def Token.claimsValid (t : Token Key) (issuer : String) (now : ℕ) : Bool :=
  t.iss = issuer ∧ t.exp.any (now < ·) ∧ t.nbf.all (· ≤ now)

/-- `JWKSVerifier`. -/
structure JWKSVerifier (Key : Type) where
  issuer : String
  cacheTTL : ℕ
  minRefresh : ℕ
  /-- `NewJWKSVerifier` has a default for an interval that is not positive. -/
  minRefresh_pos : 0 < minRefresh
  /-- The parser, before it has verified anything. -/
  parse : String → Option (Token Key)
  parse_empty : parse "" = none

/-- `NewJWKSVerifier`, with its times in milliseconds. -/
def newJWKSVerifier (issuer : String) (cacheTTL minRefreshInterval : ℤ) (parse : String → Option (Token Key))
    (h : parse "" = none) : JWKSVerifier Key where
  issuer := issuer
  cacheTTL := if cacheTTL ≤ 0 then 3600000 else cacheTTL.toNat
  minRefresh := if minRefreshInterval ≤ 0 then 60000 else minRefreshInterval.toNat
  minRefresh_pos := by split <;> omega
  parse := parse
  parse_empty := h

/-- Where a `Verify` call stands. A call that is in `keyfunc` has its token. -/
inductive Stage (Key : Type) where
  | start
  | refreshIfAllowed (t : Option (Token Key))
  /-- The window is claimed, and the fetch has not started yet. -/
  | claimed (t : Option (Token Key)) (lastAttempt : ℕ)
  | fetching (t : Option (Token Key))
  | keyfunc
  /-- The lookup after `refreshIfAllowed`. -/
  | retry (t : Token Key)
  | found (t : Token Key) (key : Key)
  | returned (tenantID : Option String) (time : ℕ)

namespace Stage

/-- Where the call goes on after `refreshIfAllowed`. -/
def refreshed : Option (Token Key) → Stage Key
  | none => .keyfunc
  | some t => .retry t

/-- A fetch is under way. -/
def pending : Stage Key → Bool
  | .claimed _ _ | .fetching _ => true
  | _ => false

def claim : Stage Key → Option ℕ
  | .claimed _ lastAttempt => some lastAttempt
  | _ => none

def isReturned : Stage Key → Bool
  | .returned _ _ => true
  | _ => false

end Stage

structure Call (Key : Type) where
  token : String
  stage : Stage Key := .start
  cancelled : Bool := false

structure World (Key : Type) where
  now : ℕ := 0
  keys : List (String × Key) := []
  fetchedAt : ℕ := 0
  lastAttempt : Option ℕ := none
  calls : List (Call Key) := []
  /-- The fetches that have started: when their window was claimed, and when they have started. -/
  fetches : List (ℕ × ℕ) := []

namespace JWKSVerifier

variable (v : JWKSVerifier Key)

def stale (w : World Key) : Bool := w.keys.isEmpty || decide (w.fetchedAt + v.cacheTTL ≤ w.now)

/-- The refresh window is claimed. -/
def throttled (w : World Key) : Bool := w.lastAttempt.any fun t => w.now < t + v.minRefresh

/-- `keyfunc` up to the first lookup. -/
def keyfunc (w : World Key) (token : String) : Stage Key :=
  match v.parse token with
  | none => .returned none w.now
  | some t =>
    if t.asymmetric = false ∨ t.kid = "" then .returned none w.now
    else
      match w.keys.lookup t.kid with
      | some key => .found t key
      | none => .refreshIfAllowed (some t)

/-- What `Verify` returns once the key is found. -/
def verdict (now : ℕ) (t : Token Key) (key : Key) : Option String :=
  if t.verifies key ∧ t.claimsValid v.issuer now ∧ t.tenantID ≠ "" then some t.tenantID else none

/-- A step of a call. -/
def advance (w : World Key) (c : Call Key) : Option (World Key × Stage Key) :=
  match c.stage with
  | .start =>
    some (w, if c.token = "" then .returned none w.now else if v.stale w then .refreshIfAllowed none else .keyfunc)
  | .refreshIfAllowed t =>
    some (if v.throttled w then (w, .refreshed t) else ({ w with lastAttempt := some w.now }, .claimed t w.now))
  | .claimed t lastAttempt => some ({ w with fetches := (lastAttempt, w.now) :: w.fetches }, .fetching t)
  | .keyfunc => some (w, v.keyfunc w c.token)
  | .retry t =>
    some (w, match w.keys.lookup t.kid with
      | some key => .found t key
      | none => .returned none w.now)
  | .found t key => some (w, .returned (v.verdict w.now t key) w.now)
  | .fetching _ | .returned _ _ => none

end JWKSVerifier

/-- The end of `refresh`: the key set is replaced if the document can be parsed. -/
def World.refresh (w : World Key) (doc : List (Jwk Key)) : World Key :=
  match parseJWKS doc with
  | some (key :: keys) => { w with keys := key :: keys, fetchedAt := w.now }
  | _ => w

section Keys

variable {k : Endpoint Key} {w : World Key}

lemma parseKeys_lookup {doc : List (Jwk Key)} (h : ∀ j ∈ doc, j.usable = true → j.kid = k.kid → j.key = some k.key)
    {out keys : List (String × Key)} (hparse : parseKeys out doc = some keys)
    (hhas : out.lookup k.kid = some k.key ∨ ∃ j ∈ doc, j.usable = true ∧ j.kid = k.kid) :
    keys.lookup k.kid = some k.key := by
  induction doc generalizing out with
  | nil =>
    cases hparse
    simpa using hhas
  | cons j js ih =>
    have hjs : ∀ j' ∈ js, j'.usable = true → j'.kid = k.kid → j'.key = some k.key :=
      fun j' hj' => h j' (List.mem_cons_of_mem _ hj')
    unfold parseKeys at hparse
    split_ifs at hparse with husable
    · obtain ⟨key, hkey, hparse⟩ := Option.bind_eq_some_iff.mp hparse
      apply ih hjs hparse
      by_cases hkid : j.kid = k.kid
      · -- the key of interest is put on the others
        have : some key = some k.key := hkey.symm.trans (h j List.mem_cons_self husable hkid)
        left
        rw [← hkid, List.lookup_cons_self, this]
      · rcases hhas with hout | ⟨j', hj', hu, hk⟩
        · left
          rw [List.lookup_cons, beq_false_of_ne (Ne.symm hkid)]
          exact hout
        · rcases List.mem_cons.mp hj' with rfl | hj'
          · exact absurd hk hkid
          · exact Or.inr ⟨j', hj', hu, hk⟩
    · apply ih hjs hparse
      rcases hhas with hout | ⟨j', hj', hu, hk⟩
      · exact Or.inl hout
      · rcases List.mem_cons.mp hj' with rfl | hj'
        · exact absurd hu husable
        · exact Or.inr ⟨j', hj', hu, hk⟩

/-- The key of interest is among the keys of a document that has it. -/
lemma parseJWKS_lookup {doc : List (Jwk Key)} (h : k.Answers doc) {keys : List (String × Key)}
    (hparse : parseJWKS doc = some keys) : keys.lookup k.kid = some k.key :=
  parseKeys_lookup h.2 hparse (Or.inr h.1)

lemma parseKeys_isSome {doc : List (Jwk Key)} (h : decodable doc = true) (out : List (String × Key)) :
    (parseKeys out doc).isSome = true := by
  induction doc generalizing out with
  | nil => rfl
  | cons j js ih =>
    obtain ⟨hj, hjs⟩ : (j.usable = true → j.key.isSome = true) ∧ decodable js = true := by
      simpa [decodable, imp_iff_not_or] using h
    unfold parseKeys
    split_ifs with husable
    · obtain ⟨key, hkey⟩ := Option.isSome_iff_exists.mp (hj husable)
      rw [hkey]
      exact ih hjs _
    · exact ih hjs _

/-- A key set is replaced by one that has the key of interest. -/
lemma World.refresh_keys {doc : List (Jwk Key)} (h : k.Answers doc) :
    (w.refresh doc).keys = w.keys ∨ ((w.refresh doc).keys ≠ [] ∧ (w.refresh doc).keys.lookup k.kid = some k.key) := by
  unfold World.refresh
  split
  · next key keys hparse =>
    right
    exact ⟨by simp, parseJWKS_lookup h hparse⟩
  · exact Or.inl rfl

lemma World.refresh_lastAttempt (w : World Key) (doc : List (Jwk Key)) :
    (w.refresh doc).lastAttempt = w.lastAttempt := by
  unfold World.refresh
  split <;> rfl

lemma World.refresh_fetches (w : World Key) (doc : List (Jwk Key)) : (w.refresh doc).fetches = w.fetches := by
  unfold World.refresh
  split <;> rfl

lemma World.refresh_keys_ne_nil {doc : List (Jwk Key)} (h : k.Answers doc) (hdec : w.keys = [] → decodable doc = true) :
    (w.refresh doc).keys ≠ [] := by
  intro hnil
  rcases World.refresh_keys (w := w) h with hsame | ⟨hne, -⟩
  · have hkeys : w.keys = [] := hsame.symm.trans hnil
    obtain ⟨keys, hparse⟩ := Option.isSome_iff_exists.mp (parseKeys_isSome (hdec hkeys) [])
    have hlookup := parseJWKS_lookup h hparse
    unfold World.refresh parseJWKS at hnil
    rw [hparse] at hnil
    cases keys with
    | nil => cases hlookup
    | cons key keys => cases hnil
  · exact hne hnil

end Keys

inductive Event (Key : Type) where
  | pass (d : ℕ)
  | verify (token : String)
  | cancel (i : ℕ)
  | advance (i : ℕ)
  /-- The endpoint answers the request of a call. -/
  | answer (i : ℕ) (doc : List (Jwk Key))
  /-- The request of a call fails, which is cancelled. -/
  | fail (i : ℕ)

variable (v : JWKSVerifier Key) (k : Endpoint Key)

def JWKSVerifier.step [DecidableEq Key] (w : World Key) : Event Key → Option (World Key)
  | .pass d => some { w with now := w.now + d }
  | .verify token => some { w with calls := w.calls ++ [{ token }] }
  | .cancel i => w.calls[i]?.bind fun c =>
      if c.stage.isReturned then none else some { w with calls := w.calls.set i { c with cancelled := true } }
  | .advance i => w.calls[i]?.bind fun c =>
      (v.advance w c).map fun (w', stage) => { w' with calls := w.calls.set i { c with stage } }
  | .answer i doc => w.calls[i]?.bind fun c =>
      match c.stage with
      | .fetching t =>
        if k.Answers doc then some { w.refresh doc with calls := w.calls.set i { c with stage := .refreshed t } }
        else none
      | _ => none
  | .fail i => w.calls[i]?.bind fun c =>
      match c.stage with
      | .fetching t =>
        if c.cancelled then some { w with calls := w.calls.set i { c with stage := .refreshed t } } else none
      | _ => none

/-- The tenant of a token that is correctly signed by the key `k`, and neither expired nor without a tenant. -/
def JWKSVerifier.tenantOf (token : String) (time : ℕ) : Option String :=
  (v.parse token).bind fun t =>
    if t.asymmetric ∧ t.kid = k.kid ∧ t.verifies k.key ∧ t.claimsValid v.issuer time ∧ t.tenantID ≠ "" then
      some t.tenantID
    else none

/-- A call with a live context that is over has accepted such a token. -/
def JWKSVerifier.Accepts (c : Call Key) : Prop :=
  match c.stage with
  | .returned tenantID time => c.cancelled = false → ∀ tenant ∈ v.tenantOf k c.token time, tenantID = some tenant
  | _ => True

/-- **The contract.** -/
structure JWKSVerifier.Serves (w : World Key) : Prop where
  accepts : ∀ c ∈ w.calls, v.Accepts k c
  spaced : w.fetches.Pairwise fun later earlier => earlier.2 + v.minRefresh ≤ later.2

/-- With nothing cached, the last lookup of the key comes after the fetches that are under way. -/
def Stage.Awaits (w : World Key) : Stage Key → Prop
  | .retry t => t.kid = k.kid → w.keys = [] → ∀ c ∈ w.calls, c.stage.pending = false
  | _ => True

/-- A fetch starts after those whose windows were claimed before, with no shorter a delay. -/
def Stage.InTurn (w : World Key) : Stage Key → Prop
  | .claimed _ lastAttempt => ∀ f ∈ w.fetches, f.1 ≤ lastAttempt ∧ f.2 + lastAttempt ≤ w.now + f.1
  | _ => True

/-- The condition on a step: no fetch fails while nothing is cached, no call with a live context gives up before the
fetches that are under way are over, and the fetches start no faster than their windows were claimed. -/
def Endpoint.Patient (w : World Key) : Event Key → Prop
  | .advance i => ∀ c ∈ w.calls[i]?, (c.cancelled = false → c.stage.Awaits k w) ∧ c.stage.InTurn w
  | .answer _ doc => w.keys = [] → decodable doc = true
  | .fail _ => w.keys ≠ []
  | _ => True

section Decidable

instance : DecidablePred (v.Accepts k)
  | ⟨token, .returned tenantID time, cancelled⟩ =>
    inferInstanceAs (Decidable (cancelled = false → ∀ tenant ∈ v.tenantOf k token time, tenantID = some tenant))
  | ⟨_, .start, _⟩ | ⟨_, .refreshIfAllowed _, _⟩ | ⟨_, .claimed _ _, _⟩ | ⟨_, .fetching _, _⟩ | ⟨_, .keyfunc, _⟩
  | ⟨_, .retry _, _⟩ | ⟨_, .found _ _, _⟩ => isTrue trivial

instance : DecidablePred (v.Serves k) := fun w =>
  decidable_of_iff ((∀ c ∈ w.calls, v.Accepts k c) ∧
    w.fetches.Pairwise fun later earlier => earlier.2 + v.minRefresh ≤ later.2)
    ⟨fun h => ⟨h.1, h.2⟩, fun h => ⟨h.accepts, h.spaced⟩⟩

instance (w : World Key) : DecidablePred (Stage.Awaits k w)
  | .retry t => inferInstanceAs (Decidable (t.kid = k.kid → _))
  | .start | .refreshIfAllowed _ | .claimed _ _ | .fetching _ | .keyfunc | .found _ _ | .returned _ _ => isTrue trivial

instance (w : World Key) : DecidablePred (Stage.InTurn w)
  | .claimed _ lastAttempt =>
    inferInstanceAs (Decidable (∀ f ∈ w.fetches, f.1 ≤ lastAttempt ∧ f.2 + lastAttempt ≤ w.now + f.1))
  | .start | .refreshIfAllowed _ | .retry _ | .fetching _ | .keyfunc | .found _ _ | .returned _ _ => isTrue trivial

instance (w : World Key) : ∀ e, Decidable (k.Patient w e)
  | .advance i => inferInstanceAs (Decidable (∀ c ∈ w.calls[i]?, _))
  | .answer _ _ => inferInstanceAs (Decidable (w.keys = [] → _))
  | .fail _ => inferInstanceAs (Decidable (w.keys ≠ []))
  | .pass _ | .verify _ | .cancel _ => isTrue trivial

end Decidable

/-! ### What the cache and the calls have -/

/-- What a call has come to. -/
def JWKSVerifier.OnItsWay (w : World Key) (c : Call Key) : Prop :=
  match c.stage with
  | .start | .keyfunc => True
  | .refreshIfAllowed t => ∀ t' ∈ t, v.parse c.token = some t'
  | .claimed t _ | .fetching t => (∀ t' ∈ t, v.parse c.token = some t') ∧ w.lastAttempt ≠ none
  | .retry t => v.parse c.token = some t ∧ w.lastAttempt ≠ none
  | .found t key => v.parse c.token = some t ∧ (t.kid = k.kid → key = k.key)
  | .returned _ _ => v.Accepts k c

/-- The invariant: a window that was claimed has led to keys, or a fetch is under way. -/
structure JWKSVerifier.Supplied (w : World Key) : Prop where
  keyed : w.keys = [] ∨ w.keys.lookup k.kid = some k.key
  tried : w.lastAttempt ≠ none → w.keys ≠ [] ∨ ∃ c ∈ w.calls, c.stage.pending = true
  calls : ∀ c ∈ w.calls, v.OnItsWay k w c

variable {v k} {w w' : World Key} {c : Call Key} {stage : Stage Key}

lemma JWKSVerifier.OnItsWay.mono (h : v.OnItsWay k w c) (hlast : w.lastAttempt ≠ none → w'.lastAttempt ≠ none) :
    v.OnItsWay k w' c := by
  unfold JWKSVerifier.OnItsWay at h ⊢
  cases hstage : c.stage with
  | claimed t _ | fetching t | retry t =>
    rw [hstage] at h
    exact ⟨h.1, hlast h.2⟩
  | _ =>
    rw [hstage] at h
    exact h

lemma JWKSVerifier.OnItsWay.accepts (h : v.OnItsWay k w c) : v.Accepts k c := by
  unfold JWKSVerifier.OnItsWay at h
  cases hstage : c.stage with
  | returned tenantID time =>
    rw [hstage] at h
    exact h
  | _ =>
    unfold JWKSVerifier.Accepts
    rw [hstage]
    trivial

/-- A step of a call claims the window, starts a fetch, or does neither. -/
lemma JWKSVerifier.advance_cases (h : v.advance w c = some (w', stage)) :
    (∃ t, c.stage.pending = false ∧ v.throttled w = false ∧ stage = .claimed t w.now ∧
      w' = { w with lastAttempt := some w.now }) ∨
    (∃ t lastAttempt, c.stage = .claimed t lastAttempt ∧ stage = .fetching t ∧
      w' = { w with fetches := (lastAttempt, w.now) :: w.fetches }) ∨
    (c.stage.pending = false ∧ stage.claim = none ∧ w' = w) := by
  unfold JWKSVerifier.advance at h
  cases hstage : c.stage with
  | start =>
    rw [hstage] at h
    cases h
    refine Or.inr (Or.inr ⟨rfl, ?_, rfl⟩)
    split_ifs <;> rfl
  | refreshIfAllowed t =>
    rw [hstage] at h
    simp only [Option.some.injEq] at h
    split_ifs at h with hthrottled <;> cases h
    · refine Or.inr (Or.inr ⟨rfl, ?_, rfl⟩)
      cases t <;> rfl
    · exact Or.inl ⟨t, rfl, Bool.eq_false_iff.mpr hthrottled, rfl, rfl⟩
  | claimed t lastAttempt =>
    rw [hstage] at h
    cases h
    exact Or.inr (Or.inl ⟨t, lastAttempt, rfl, rfl, rfl⟩)
  | keyfunc =>
    rw [hstage] at h
    cases h
    refine Or.inr (Or.inr ⟨rfl, ?_, rfl⟩)
    unfold JWKSVerifier.keyfunc
    split
    · rfl
    · split_ifs
      · rfl
      · split <;> rfl
  | retry t =>
    rw [hstage] at h
    cases h
    refine Or.inr (Or.inr ⟨rfl, ?_, rfl⟩)
    split <;> rfl
  | found t key =>
    rw [hstage] at h
    cases h
    exact Or.inr (Or.inr ⟨rfl, rfl, rfl⟩)
  | fetching t | returned tenantID time =>
    rw [hstage] at h
    cases h

/-- What a step of a call does to the cache, and to the fetches that are under way. -/
lemma JWKSVerifier.advance_world (h : v.advance w c = some (w', stage)) :
    w'.keys = w.keys ∧ (w.lastAttempt ≠ none → w'.lastAttempt ≠ none) ∧
      (w'.lastAttempt ≠ none → w.lastAttempt ≠ none ∨ stage.pending = true) ∧
      (c.stage.pending = true → stage.pending = true) := by
  rcases advance_cases h with ⟨t, hnot, -, rfl, rfl⟩ | ⟨t, lastAttempt, -, rfl, rfl⟩ | ⟨hnot, -, rfl⟩
  · exact ⟨rfl, by simp, fun _ => Or.inr rfl, fun _ => rfl⟩
  · exact ⟨rfl, id, Or.inl, fun _ => rfl⟩
  · exact ⟨rfl, id, Or.inl, by simp [hnot]⟩

namespace JWKSVerifier.Supplied

/-- A key that is found under the `kid` of interest is the right one. -/
lemma key_of_lookup (h : v.Supplied k w) {kid : String} {key : Key} (hkey : w.keys.lookup kid = some key)
    (hkid : kid = k.kid) : key = k.key := by
  rw [hkid] at hkey
  rcases h.keyed with hnil | hlookup
  · rw [hnil] at hkey
    cases hkey
  · exact Option.some.inj (hkey.symm.trans hlookup)

/-- A token whose key has been found is accepted if it is valid. -/
lemma accepts_found {t : Token Key} {key : Key} (hparse : v.parse c.token = some t) (hkey : t.kid = k.kid → key = k.key)
    (now : ℕ) : v.Accepts k { c with stage := .returned (v.verdict now t key) now } := by
  intro _ tenant htenant
  unfold JWKSVerifier.tenantOf at htenant
  rw [Option.mem_def, hparse, Option.bind_some, Option.ite_none_right_eq_some] at htenant
  obtain ⟨⟨-, hkid, hverifies, hclaims, htid⟩, heq⟩ := htenant
  rw [JWKSVerifier.verdict, if_pos ⟨hkey hkid ▸ hverifies, hclaims, htid⟩]
  exact heq

/-- A token of another `kid`, or none at all, may be refused. -/
lemma accepts_refused (hno : ∀ t, v.parse c.token = some t → t.asymmetric = true → t.kid ≠ k.kid) (now : ℕ) :
    v.Accepts k { c with stage := .returned none now } := by
  intro _ tenant htenant
  unfold JWKSVerifier.tenantOf at htenant
  obtain ⟨t, hparse, ht⟩ := Option.bind_eq_some_iff.mp htenant
  obtain ⟨⟨hasym, hkid, -⟩, -⟩ := Option.ite_none_right_eq_some.mp ht
  exact absurd hkid (hno t hparse hasym)

/-- **A step of a call keeps it on its way.** -/
lemma onItsWay (h : v.Supplied k w) (hc : c ∈ w.calls) (hwait : c.cancelled = false → c.stage.Awaits k w)
    (hadvance : v.advance w c = some (w', stage)) : v.OnItsWay k w' { c with stage } := by
  have hway := h.calls c hc
  unfold JWKSVerifier.OnItsWay at hway
  unfold JWKSVerifier.advance at hadvance
  cases hstage : c.stage with
  | start =>
    rw [hstage] at hadvance
    simp only [Option.some.injEq, Prod.mk.injEq] at hadvance
    obtain ⟨-, rfl⟩ := hadvance
    by_cases htoken : c.token = ""
    · rw [if_pos htoken]
      apply accepts_refused
      rw [htoken, v.parse_empty]
      simp
    · rw [if_neg htoken]
      cases v.stale w
      · trivial
      · intro t' ht'
        cases ht'
  | refreshIfAllowed t =>
    rw [hstage] at hway hadvance
    simp only [Option.some.injEq] at hadvance
    split_ifs at hadvance with hthrottled <;> cases hadvance
    · cases t with
      | none => trivial
      | some t =>
        refine ⟨hway t rfl, fun hnone => ?_⟩
        rw [JWKSVerifier.throttled, hnone] at hthrottled
        cases hthrottled
    · exact ⟨hway, by simp⟩
  | claimed t lastAttempt =>
    rw [hstage] at hway hadvance
    cases hadvance
    exact hway
  | keyfunc =>
    rw [hstage] at hadvance
    simp only [Option.some.injEq, Prod.mk.injEq] at hadvance
    obtain ⟨rfl, rfl⟩ := hadvance
    unfold JWKSVerifier.keyfunc
    cases hparse : v.parse c.token with
    | none =>
      apply accepts_refused
      rw [hparse]
      simp
    | some t =>
      simp only
      split_ifs with hbad
      · refine accepts_refused (fun t' hparse' hasym hkid => ?_) w.now
        obtain rfl : t = t' := Option.some.inj (hparse.symm.trans hparse')
        rcases hbad with hbad | hbad
        · rw [hbad] at hasym
          cases hasym
        · exact k.kid_ne (hkid.symm.trans hbad)
      · cases hkey : w.keys.lookup t.kid with
        | some key => exact ⟨hparse, h.key_of_lookup hkey⟩
        | none =>
          rintro t' ⟨⟩
          exact hparse
  | retry t =>
    rw [hstage] at hway hadvance hwait
    obtain ⟨hparse, htried⟩ := hway
    cases hadvance
    cases hkey : w.keys.lookup t.kid with
    | some key => exact ⟨hparse, h.key_of_lookup hkey⟩
    | none =>
      -- a fetch was tried, and it has not failed
      intro hlive
      refine accepts_refused (fun t' hparse' _ hkid => ?_) w.now hlive
      obtain rfl : t = t' := Option.some.inj (hparse.symm.trans hparse')
      rw [hkid] at hkey
      have hnil : w.keys = [] := by
        rcases h.keyed with hnil | hlookup
        · exact hnil
        · rw [hlookup] at hkey
          cases hkey
      rcases h.tried htried with hne | ⟨d, hd, hpending⟩
      · exact hne hnil
      · rw [hwait hlive hkid hnil d hd] at hpending
        cases hpending
  | found t key =>
    rw [hstage] at hway hadvance
    cases hadvance
    exact accepts_found hway.1 hway.2 w.now
  | fetching t | returned tenantID time =>
    rw [hstage] at hadvance
    cases hadvance

/-- A call goes on and leaves the fetches that are under way. -/
lemma set (h : v.Supplied k w) {i : ℕ} (hi : w.calls[i]? = some c) {c' : Call Key} (hway : v.OnItsWay k w' c')
    (hkeys : w'.keys = w.keys) (hlast : w.lastAttempt ≠ none → w'.lastAttempt ≠ none)
    (htried : w'.lastAttempt ≠ none → w.lastAttempt ≠ none ∨ c'.stage.pending = true)
    (hpending : c.stage.pending = true → c'.stage.pending = true) :
    v.Supplied k { w' with calls := w.calls.set i c' } := by
  have hlt : i < w.calls.length := (List.getElem?_eq_some_iff.mp hi).1
  refine ⟨hkeys ▸ h.keyed, fun htry => ?_, fun d hd => ?_⟩
  · rcases htried htry with hold | hnew
    · rcases h.tried hold with hne | ⟨d, hd, hd'⟩
      · exact Or.inl (hkeys ▸ hne)
      · right
        obtain ⟨j, hj⟩ := List.mem_iff_getElem?.mp hd
        by_cases hij : i = j
        · subst hij
          obtain rfl : c = d := Option.some.inj (hi.symm.trans hj)
          exact ⟨c', List.mem_set hlt _, hpending hd'⟩
        · refine ⟨d, List.mem_iff_getElem?.mpr ⟨j, ?_⟩, hd'⟩
          rw [List.getElem?_set_ne hij]
          exact hj
    · exact Or.inr ⟨c', List.mem_set hlt _, hnew⟩
  · rcases List.mem_or_eq_of_mem_set hd with hd | rfl
    · exact (h.calls d hd).mono hlast
    · exact hway

/-- A fetch is over, and something is cached. -/
lemma fetched (h : v.Supplied k w) {i : ℕ} {t : Option (Token Key)} (hi : w.calls[i]? = some c)
    (hstage : c.stage = .fetching t) (hkeyed : w'.keys.lookup k.kid = some k.key ∧ w'.keys ≠ [])
    (hlast : w'.lastAttempt = w.lastAttempt) :
    v.Supplied k { w' with calls := w.calls.set i { c with stage := .refreshed t } } := by
  refine ⟨Or.inr hkeyed.1, fun _ => Or.inl hkeyed.2, fun d hd => ?_⟩
  rcases List.mem_or_eq_of_mem_set hd with hd | rfl
  · exact (h.calls d hd).mono (by rw [hlast]; exact id)
  · have hway := h.calls c (List.mem_of_getElem? hi)
    unfold JWKSVerifier.OnItsWay at hway
    rw [hstage] at hway
    cases t with
    | none => trivial
    | some t => exact ⟨hway.1 t rfl, by rw [hlast]; exact hway.2⟩

/-- **Every step keeps it.** -/
lemma step [DecidableEq Key] (h : v.Supplied k w) {e : Event Key} (hC : k.Patient w e)
    (hstep : v.step k w e = some w') : v.Supplied k w' := by
  cases e with
  | pass d =>
    cases hstep
    exact ⟨h.keyed, h.tried, fun c hc => (h.calls c hc).mono id⟩
  | verify token =>
    cases hstep
    refine ⟨h.keyed, fun htry => ?_, fun c hc => ?_⟩
    · rcases h.tried htry with hne | ⟨c, hc, hpending⟩
      · exact Or.inl hne
      · exact Or.inr ⟨c, List.mem_append_left _ hc, hpending⟩
    · rcases List.mem_append.mp hc with hc | hc
      · exact (h.calls c hc).mono id
      · obtain rfl := List.mem_singleton.mp hc
        trivial
  | cancel i =>
    obtain ⟨c, hi, hcancel⟩ := Option.bind_eq_some_iff.mp hstep
    obtain ⟨hopen, heq⟩ := Option.ite_none_left_eq_some.mp hcancel
    cases heq
    refine h.set hi ?_ rfl id Or.inl id
    have hway := h.calls c (List.mem_of_getElem? hi)
    unfold JWKSVerifier.OnItsWay at hway ⊢
    cases hstage : c.stage with
    | returned tenantID time =>
      rw [hstage] at hopen
      exact absurd rfl hopen
    | _ =>
      rw [hstage] at hway
      exact hway
  | advance i =>
    obtain ⟨c, hi, hmap⟩ := Option.bind_eq_some_iff.mp hstep
    obtain ⟨⟨w₁, stage⟩, hadvance, rfl⟩ := Option.map_eq_some_iff.mp hmap
    obtain ⟨hkeys, hlast, htried, hpending⟩ := advance_world hadvance
    exact h.set hi (h.onItsWay (List.mem_of_getElem? hi) (hC c hi).1 hadvance) hkeys hlast htried hpending
  | answer i doc =>
    obtain ⟨c, hi, hanswer⟩ := Option.bind_eq_some_iff.mp hstep
    split at hanswer
    · next t hstage =>
      obtain ⟨hdoc, heq⟩ := Option.ite_none_right_eq_some.mp hanswer
      cases heq
      have hne := World.refresh_keys_ne_nil hdoc hC
      refine h.fetched hi hstage ⟨?_, hne⟩ (World.refresh_lastAttempt w doc)
      rcases World.refresh_keys (w := w) hdoc with hsame | ⟨-, hlookup⟩
      · rw [hsame] at hne ⊢
        exact h.keyed.resolve_left hne
      · exact hlookup
    · cases hanswer
  | fail i =>
    obtain ⟨c, hi, hfail⟩ := Option.bind_eq_some_iff.mp hstep
    split at hfail
    · next t hstage =>
      obtain ⟨-, heq⟩ := Option.ite_none_right_eq_some.mp hfail
      cases heq
      exact h.fetched hi hstage ⟨h.keyed.resolve_left hC, hC⟩ rfl
    · cases hfail

end JWKSVerifier.Supplied

/-! ### What the fetches have -/

/-- Two windows do not overlap. -/
def JWKSVerifier.Apart (v : JWKSVerifier Key) (t t' : ℕ) : Prop := t + v.minRefresh ≤ t' ∨ t' + v.minRefresh ≤ t

/-- The windows that two calls have claimed do not overlap. -/
def JWKSVerifier.CallsApart (v : JWKSVerifier Key) (c c' : Call Key) : Prop :=
  ∀ t t', c.stage.claim = some t → c'.stage.claim = some t' → v.Apart t t'

/-- The invariant. -/
structure JWKSVerifier.Throttled (v : JWKSVerifier Key) (w : World Key) : Prop where
  spaced : w.fetches.Pairwise fun later earlier => earlier.2 + v.minRefresh ≤ later.2
  last : ∀ c ∈ w.calls, ∀ t, c.stage.claim = some t → ∃ a, w.lastAttempt = some a ∧ t ≤ a
  lastFetch : ∀ f ∈ w.fetches, ∃ a, w.lastAttempt = some a ∧ f.1 ≤ a
  apart : w.calls.Pairwise v.CallsApart
  apartFetch : ∀ c ∈ w.calls, ∀ t, c.stage.claim = some t → ∀ f ∈ w.fetches, v.Apart t f.1

lemma JWKSVerifier.CallsApart.symm {c c' : Call Key} (h : v.CallsApart c c') : v.CallsApart c' c :=
  fun t t' ht ht' => (h t' t ht' ht).symm

namespace JWKSVerifier.Throttled

/-- A call goes on without claiming a window or starting a fetch. -/
lemma set (h : v.Throttled w) {i : ℕ} (hi : w.calls[i]? = some c) {c' : Call Key}
    (hclaim : ∀ t, c'.stage.claim = some t → c.stage.claim = some t) (hlast : w'.lastAttempt = w.lastAttempt)
    (hfetches : w'.fetches = w.fetches) : v.Throttled { w' with calls := w.calls.set i c' } := by
  have hold : ∀ d ∈ w.calls.set i c', ∀ t, d.stage.claim = some t → ∃ d' ∈ w.calls, d'.stage.claim = some t := by
    intro d hd t ht
    rcases List.mem_or_eq_of_mem_set hd with hd | rfl
    · exact ⟨d, hd, ht⟩
    · exact ⟨c, List.mem_of_getElem? hi, hclaim t ht⟩
  have hmono : ∀ d, v.CallsApart c d → v.CallsApart c' d := fun d hd t t' ht ht' => hd t t' (hclaim t ht) ht'
  refine ⟨?_, fun d hd t ht => ?_, ?_, ?_, fun d hd t ht => ?_⟩
  · show w'.fetches.Pairwise _
    rw [hfetches]
    exact h.spaced
  · obtain ⟨d', hd', ht'⟩ := hold d hd t ht
    show ∃ a, w'.lastAttempt = some a ∧ t ≤ a
    rw [hlast]
    exact h.last d' hd' t ht'
  · show ∀ f ∈ w'.fetches, ∃ a, w'.lastAttempt = some a ∧ f.1 ≤ a
    rw [hfetches, hlast]
    exact h.lastFetch
  · exact Tracker.pairwise_set hi (fun d _ => hmono d) (fun d _ hd => (hmono d hd.symm).symm) h.apart
  · obtain ⟨d', hd', ht'⟩ := hold d hd t ht
    show ∀ f ∈ w'.fetches, v.Apart t f.1
    rw [hfetches]
    exact h.apartFetch d' hd' t ht'

/-- A window that may be claimed comes after one that was. -/
lemma before_now (hthrottled : v.throttled w = false) {t : ℕ} (ht : ∃ a, w.lastAttempt = some a ∧ t ≤ a) :
    t + v.minRefresh ≤ w.now := by
  obtain ⟨a, ha, hta⟩ := ht
  rw [JWKSVerifier.throttled, ha] at hthrottled
  have hlast : a + v.minRefresh ≤ w.now := by simpa using hthrottled
  omega

/-- A window is claimed. -/
lemma claims (h : v.Throttled w) (hthrottled : v.throttled w = false) {i : ℕ} (hi : w.calls[i]? = some c)
    (t : Option (Token Key)) :
    v.Throttled { w with
      lastAttempt := some w.now, calls := w.calls.set i { c with stage := .claimed t w.now } } := by
  have hle : ∀ t', (∃ a, w.lastAttempt = some a ∧ t' ≤ a) → ∃ a, some w.now = some a ∧ t' ≤ a := by
    intro t' ht'
    have := before_now hthrottled ht'
    exact ⟨w.now, rfl, by omega⟩
  have hcalls : ∀ d ∈ w.calls, v.CallsApart { c with stage := .claimed t w.now } d := by
    rintro d hd _ t' ⟨⟩ ht'
    exact Or.inr (before_now hthrottled (h.last d hd t' ht'))
  refine ⟨h.spaced, fun d hd t' ht' => ?_, fun f hf => hle _ (h.lastFetch f hf), ?_, fun d hd t' ht' f hf => ?_⟩
  · rcases List.mem_or_eq_of_mem_set hd with hd | rfl
    · exact hle t' (h.last d hd t' ht')
    · cases ht'
      exact ⟨w.now, rfl, Nat.le_refl _⟩
  · exact Tracker.pairwise_set hi (fun d hd _ => hcalls d hd) (fun d hd _ => (hcalls d hd).symm) h.apart
  · rcases List.mem_or_eq_of_mem_set hd with hd | rfl
    · exact h.apartFetch d hd t' ht' f hf
    · cases ht'
      exact Or.inr (before_now hthrottled (h.lastFetch f hf))

/-- A fetch starts. -/
lemma starts (h : v.Throttled w) {i : ℕ} (hi : w.calls[i]? = some c) {t : Option (Token Key)} {lastAttempt : ℕ}
    (hstage : c.stage = .claimed t lastAttempt)
    (hturn : ∀ f ∈ w.fetches, f.1 ≤ lastAttempt ∧ f.2 + lastAttempt ≤ w.now + f.1) :
    v.Throttled { w with
      fetches := (lastAttempt, w.now) :: w.fetches, calls := w.calls.set i { c with stage := .fetching t } } := by
  have hc := List.mem_of_getElem? hi
  have hclaim : c.stage.claim = some lastAttempt := by rw [hstage]; rfl
  refine ⟨List.pairwise_cons.mpr ⟨fun f hf => ?_, h.spaced⟩, fun d hd t' ht' => ?_, fun f hf => ?_, ?_,
    fun d hd t' ht' f hf => ?_⟩
  · -- the windows are an interval apart, and the delay has not become shorter
    obtain ⟨hbefore, hdelay⟩ := hturn f hf
    have hpos := v.minRefresh_pos
    have hwindow : f.1 + v.minRefresh ≤ lastAttempt := by
      rcases h.apartFetch c hc lastAttempt hclaim f hf with hlt | hlt
      · omega
      · exact hlt
    show f.2 + v.minRefresh ≤ w.now
    omega
  · rcases List.mem_or_eq_of_mem_set hd with hd | rfl
    · exact h.last d hd t' ht'
    · cases ht'
  · rcases List.mem_cons.mp hf with rfl | hf
    · exact h.last c hc lastAttempt hclaim
    · exact h.lastFetch f hf
  · exact Tracker.pairwise_set hi (fun _ _ _ _ _ ht => by cases ht) (fun _ _ _ _ _ _ ht => by cases ht) h.apart
  · rcases Tracker.eq_or_rel_of_mem_set (fun _ _ => CallsApart.symm) hi h.apart hd with rfl | ⟨hd, hrel⟩
    · cases ht'
    · rcases List.mem_cons.mp hf with rfl | hf
      · exact (hrel lastAttempt t' hclaim ht').symm
      · exact h.apartFetch d hd t' ht' f hf

/-- **Every step keeps it.** -/
lemma step [DecidableEq Key] (h : v.Throttled w) {e : Event Key} (hC : k.Patient w e)
    (hstep : v.step k w e = some w') : v.Throttled w' := by
  cases e with
  | pass d =>
    cases hstep
    exact ⟨h.spaced, h.last, h.lastFetch, h.apart, h.apartFetch⟩
  | verify token =>
    cases hstep
    have hold : ∀ c ∈ w.calls ++ [({ token } : Call Key)], ∀ t, c.stage.claim = some t → c ∈ w.calls := by
      intro c hc t ht
      rcases List.mem_append.mp hc with hc | hc
      · exact hc
      · obtain rfl := List.mem_singleton.mp hc
        cases ht
    refine ⟨h.spaced, fun c hc t ht => h.last c (hold c hc t ht) t ht, h.lastFetch, ?_,
      fun c hc t ht => h.apartFetch c (hold c hc t ht) t ht⟩
    refine List.pairwise_append.mpr ⟨h.apart, List.pairwise_singleton _ _, fun c _ d hd t t' _ ht' => ?_⟩
    obtain rfl := List.mem_singleton.mp hd
    cases ht'
  | cancel i =>
    obtain ⟨c, hi, hcancel⟩ := Option.bind_eq_some_iff.mp hstep
    obtain ⟨-, heq⟩ := Option.ite_none_left_eq_some.mp hcancel
    cases heq
    exact h.set hi (fun _ ht => ht) rfl rfl
  | advance i =>
    obtain ⟨c, hi, hmap⟩ := Option.bind_eq_some_iff.mp hstep
    obtain ⟨⟨w₁, stage⟩, hadvance, rfl⟩ := Option.map_eq_some_iff.mp hmap
    rcases advance_cases hadvance with ⟨t, -, hthrottled, rfl, rfl⟩ | ⟨t, lastAttempt, hstage, rfl, rfl⟩ |
      ⟨-, hclaim, rfl⟩
    · exact h.claims hthrottled hi t
    · have hturn := (hC c hi).2
      rw [hstage] at hturn
      exact h.starts hi hstage hturn
    · exact h.set hi (fun t ht => by rw [hclaim] at ht; cases ht) rfl rfl
  | answer i doc =>
    obtain ⟨c, hi, hanswer⟩ := Option.bind_eq_some_iff.mp hstep
    split at hanswer
    · next t hstage =>
      obtain ⟨-, heq⟩ := Option.ite_none_right_eq_some.mp hanswer
      cases heq
      refine h.set hi (fun t' ht' => ?_) (World.refresh_lastAttempt w doc) (World.refresh_fetches w doc)
      cases t <;> cases ht'
    · cases hanswer
  | fail i =>
    obtain ⟨c, hi, hfail⟩ := Option.bind_eq_some_iff.mp hstep
    split at hfail
    · next t hstage =>
      obtain ⟨-, heq⟩ := Option.ite_none_right_eq_some.mp hfail
      cases heq
      refine h.set hi (fun t' ht' => ?_) rfl rfl
      cases t <;> cases ht'
    · cases hfail

end JWKSVerifier.Throttled

/-! ### The contract -/

lemma JWKSVerifier.supplied_new : v.Supplied k {} where
  keyed := Or.inl rfl
  tried h := absurd rfl h
  calls _ h := by cases h

lemma JWKSVerifier.throttled_new : v.Throttled {} where
  spaced := List.Pairwise.nil
  last _ h := by cases h
  lastFetch _ h := by cases h
  apart := List.Pairwise.nil
  apartFetch _ h := by cases h

/-- **Valid tokens are accepted, and fetches are an interval apart**, in every run of concurrent calls in which no fetch
fails while nothing is cached, nobody gives up before the first fetch is over, and the fetches start no faster than
their windows were claimed. -/
theorem valid_tokens_accepted [DecidableEq Key] (v : JWKSVerifier Key) (k : Endpoint Key) (es : List (Event Key))
    (h : Lts.Meets (v.step k) k.Patient {} es) : Lts.Throughout (v.step k) (v.Serves k) {} es := by
  refine Lts.throughout_of_meets (J := fun w => v.Supplied k w ∧ v.Throttled w) ?_ ?_
    ⟨JWKSVerifier.supplied_new, JWKSVerifier.throttled_new⟩ h
  · rintro w e w' ⟨hs, ht⟩ hC hstep
    exact ⟨hs.step hC hstep, ht.step hC hstep⟩
  · rintro w ⟨hs, ht⟩
    exact ⟨fun c hc => (hs.calls c hc).accepts, ht.spaced⟩

/-- A verifier, with what it reads from a token of the tenant `acme` and from one whose `kid` is unknown. -/
def acmeVerifier : JWKSVerifier ℕ :=
  newJWKSVerifier "iam" 0 0
    (fun token =>
      if token = "acme" then some ⟨true, "k", fun key => key = 7, "iam", some 9000000, none, "acme"⟩
      else if token = "other" then some ⟨true, "x", fun _ => false, "iam", none, none, ""⟩
      else none)
    rfl

def acmeEndpoint : Endpoint ℕ := ⟨"k", 7, by decide⟩

def acmeKeys : List (Jwk ℕ) := [⟨"RSA", "k", "sig", some 7⟩]

/-- The next steps of a call. -/
def advances (i n : ℕ) : List (Event ℕ) := List.replicate n (.advance i)

/-- Two tokens, the second of which waits for the fetch of the first. -/
theorem valid_tokens_accepted_acme :
    Lts.Throughout (acmeVerifier.step acmeEndpoint) (acmeVerifier.Serves acmeEndpoint) {}
      ([.verify "acme", .verify "acme"] ++ advances 0 3 ++ advances 1 2 ++ [.answer 0 acmeKeys] ++ advances 0 2 ++
        advances 1 2) :=
  valid_tokens_accepted acmeVerifier acmeEndpoint _ (by decide)

/-- A valid token is refused after a cancelled call has claimed the window, before the fetch of another call is over,
and after a document with a broken key besides; and a fetch that was delayed starts just before the next one. -/
theorem valid_tokens_refused :
    ¬ Lts.Throughout (acmeVerifier.step acmeEndpoint) (acmeVerifier.Serves acmeEndpoint) {}
        ([.verify "other", .cancel 0] ++ advances 0 3 ++ [.fail 0, .verify "acme"] ++ advances 1 5) ∧
      ¬ Lts.Throughout (acmeVerifier.step acmeEndpoint) (acmeVerifier.Serves acmeEndpoint) {}
        ([.verify "acme"] ++ advances 0 3 ++ [.verify "acme"] ++ advances 1 5) ∧
      ¬ Lts.Throughout (acmeVerifier.step acmeEndpoint) (acmeVerifier.Serves acmeEndpoint) {}
        ([.verify "acme"] ++ advances 0 3 ++ [.answer 0 (acmeKeys ++ [⟨"EC", "y", "sig", none⟩])] ++ advances 0 3) ∧
      ¬ Lts.Throughout (acmeVerifier.step acmeEndpoint) (acmeVerifier.Serves acmeEndpoint) {}
        ([.verify "acme", .verify "acme"] ++ advances 0 2 ++ [.pass 59999] ++ advances 0 1 ++ [.pass 1] ++
          advances 1 3) := by
  decide

end Sn360Es.Middleware
