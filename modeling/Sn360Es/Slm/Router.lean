import Sn360Es.Lib.Lts
import Mathlib.Data.List.Basic
import Mathlib.Logic.Function.Basic

/-!
# Routing of a tenant to its provider (`pkg/inference/slm/router.go`)

Any number of `Evaluate` calls, interleaved step by step with changes of the stored providers and with `Invalidate`. A
call that misses the cache looks the provider up, builds a client and stores it if no other call has; an entry does not
expire.

* `Current` — what the cache and the calls have, as long as no call stores an entry that an `Invalidate` has overtaken;
* `Current.step` — every step keeps it;
* `routing_follows_invalidation` — so a call that starts after an `Invalidate` uses the provider of that time;
* `overtaken_store_pins` — a lookup before a change that is stored after its `Invalidate`.
-/

namespace Sn360Es.Slm

open Lib

section Router

variable {Client Settings : Type*}

/-- `Router`. Clients are built from a name and the settings that `ResolveConfig` has for it. -/
structure Router (Client Settings : Type*) where
  defaultClient : Option Client
  /-- A loader is set. -/
  loader : Bool
  resolveCfg : Option (String → Except String Settings)
  /-- `New`. -/
  new : String → Settings → Except String Client

/-- `routerEntry`. -/
structure RouterEntry (Client : Type*) where
  client : Option Client := none
  fellThroughToDefault : Bool := false
  overrideProviderName : String := ""
  constructionError : Option String := none
  deriving DecidableEq

namespace Router

variable (r : Router Client Settings)

/-- The client of an entry. -/
def serves (entry : RouterEntry Client) : Option Client :=
  if entry.fellThroughToDefault then r.defaultClient else entry.client

/-- The entry that `resolve` builds for the name that it has looked up. -/
def entryFor (name : String) : RouterEntry Client :=
  if name = "" then { fellThroughToDefault := true }
  else
    match r.resolveCfg with
    | none => { fellThroughToDefault := true, overrideProviderName := name }
    | some resolveCfg =>
      match (resolveCfg name).bind (r.new name) with
      | .error err =>
        { fellThroughToDefault := true, overrideProviderName := name, constructionError := some err }
      | .ok client => { client := some client, overrideProviderName := name }

/-- The client for a tenant whose stored provider is `name`: the default if there is none or it cannot be built. -/
def wanted (tenantID name : String) : Option Client :=
  if tenantID = "" ∨ r.loader = false then r.defaultClient else r.serves (r.entryFor name)

end Router

/-- Where a call of `Evaluate` stands. -/
inductive Stage (Client : Type*) where
  | load
  | lookup
  | construct (name : String)
  | loadOrStore (entry : RouterEntry Client)
  | resolved (client : Option Client)
  deriving DecidableEq

structure Call (Client : Type*) where
  tenantID : String
  stage : Stage Client := .load
  /-- It has started after an `Invalidate` of its tenant, and the provider has not been changed since that. -/
  fresh : Bool
  deriving DecidableEq

structure World (Client : Type*) where
  /-- The stored providers; the empty name is none. -/
  stored : String → String
  cache : String → Option (RouterEntry Client) := fun _ => none
  /-- An `Invalidate` of the tenant has returned since the last change. -/
  settled : String → Bool := fun _ => false
  calls : List (Call Client) := []

inductive Event where
  /-- `Evaluate` is called. -/
  | evaluate (tenantID : String)
  /-- The next step of a call; a lookup may fail. -/
  | advance (i : ℕ) (fails : Bool)
  | change (tenantID name : String)
  /-- `Invalidate`. -/
  | invalidate (tenantID : String)
  deriving DecidableEq, Repr

variable (r : Router Client Settings)

/-- A step of `resolve`: where the call goes on, and the cache. -/
def Router.resolve (w : World Client) (fails : Bool) (c : Call Client) :
    Stage Client × (String → Option (RouterEntry Client)) :=
  match c.stage with
  | .load =>
    if c.tenantID = "" ∨ r.loader = false then (.resolved r.defaultClient, w.cache)
    else
      match w.cache c.tenantID with
      | some entry => (.resolved (r.serves entry), w.cache)
      | none => (.lookup, w.cache)
  | .lookup => if fails then (.resolved r.defaultClient, w.cache) else (.construct (w.stored c.tenantID), w.cache)
  | .construct name => (.loadOrStore (r.entryFor name), w.cache)
  | .loadOrStore entry =>
    -- `cacheAndReturn`
    match w.cache c.tenantID with
    | some winner => (.resolved (r.serves winner), w.cache)
    | none => (.resolved (r.serves entry), Function.update w.cache c.tenantID (some entry))
  | .resolved client => (.resolved client, w.cache)

def Router.step (w : World Client) : Event → Option (World Client)
  | .evaluate tenantID => some { w with calls := w.calls ++ [{ tenantID, fresh := w.settled tenantID }] }
  | .advance i fails =>
    w.calls[i]?.map fun c =>
      { w with
        cache := (r.resolve w fails c).2
        calls := w.calls.set i { c with stage := (r.resolve w fails c).1 } }
  | .change tenantID name => some
      { w with
        stored := Function.update w.stored tenantID name
        settled := Function.update w.settled tenantID false
        calls := w.calls.map fun c => if c.tenantID = tenantID then { c with fresh := false } else c }
  | .invalidate tenantID => some
      { w with
        cache := if tenantID = "" then w.cache else Function.update w.cache tenantID none
        settled := Function.update w.settled tenantID true }

/-- A call that is over has used the client. -/
def Stage.Uses (client : Option Client) : Stage Client → Prop
  | .resolved client' => client' = client
  | _ => True

/-- **The contract.** A call that has started after an `Invalidate` uses the provider that is stored. -/
def Router.Follows (w : World Client) : Prop :=
  ∀ c ∈ w.calls, c.fresh = true → c.stage.Uses (r.wanted c.tenantID (w.stored c.tenantID))

/-- What a step of a call has to meet. -/
def Router.Allows (w : World Client) (fails : Bool) (c : Call Client) : Stage Client → Prop
  | .lookup => fails = true → c.fresh = true → r.wanted c.tenantID (w.stored c.tenantID) = r.defaultClient
  | .loadOrStore entry => w.cache c.tenantID = none → w.settled c.tenantID = true →
      r.serves entry = r.wanted c.tenantID (w.stored c.tenantID)
  | _ => True

/-- The condition on a step: an entry is not stored after an `Invalidate` that has overtaken it, and no lookup of a call
that has started after one fails, unless the default is what is wanted. -/
def Router.StoresCurrent (w : World Client) : Event → Prop
  | .advance i fails => ∀ c ∈ w.calls[i]?, r.Allows w fails c c.stage
  | _ => True

section Decidable

variable [DecidableEq Client]

instance (client : Option Client) : DecidablePred (Stage.Uses client)
  | .load | .lookup | .construct _ | .loadOrStore _ => isTrue trivial
  | .resolved client' => inferInstanceAs (Decidable (client' = client))

instance : DecidablePred r.Follows := fun w => inferInstanceAs (Decidable (∀ c ∈ w.calls, _))

instance (w : World Client) (fails : Bool) (c : Call Client) : DecidablePred (r.Allows w fails c)
  | .load | .construct _ | .resolved _ => isTrue trivial
  | .lookup => inferInstanceAs (Decidable (fails = true → _))
  | .loadOrStore _ => inferInstanceAs (Decidable (w.cache c.tenantID = none → _))

instance (w : World Client) : ∀ e, Decidable (r.StoresCurrent w e)
  | .advance i _ => inferInstanceAs (Decidable (∀ c ∈ w.calls[i]?, _))
  | .evaluate _ | .change _ _ | .invalidate _ => isTrue trivial

end Decidable

/-! ### What the cache and the calls have -/

/-- A fresh call is on its way to what is wanted. -/
def Router.OnItsWay (w : World Client) (c : Call Client) : Prop :=
  match c.stage with
  | .load => True
  | .lookup => c.tenantID ≠ "" ∧ r.loader = true
  | .construct name => (c.tenantID ≠ "" ∧ r.loader = true) ∧ name = w.stored c.tenantID
  | .loadOrStore entry =>
    (c.tenantID ≠ "" ∧ r.loader = true) ∧ r.serves entry = r.wanted c.tenantID (w.stored c.tenantID)
  | .resolved client => client = r.wanted c.tenantID (w.stored c.tenantID)

/-- The invariant: after an `Invalidate` the cache has nothing but what is wanted. -/
structure Router.Current (w : World Client) : Prop where
  cached : ∀ t entry, t ≠ "" → r.loader = true → w.cache t = some entry → w.settled t = true →
    r.serves entry = r.wanted t (w.stored t)
  calls : ∀ c ∈ w.calls, c.fresh = true → w.settled c.tenantID = true ∧ r.OnItsWay w c

variable {r} {w w' : World Client}

lemma Router.wanted_of_loader {t name : String} (ht : t ≠ "") (hl : r.loader = true) :
    r.wanted t name = r.serves (r.entryFor name) := by
  unfold wanted
  rw [if_neg (by simp [ht, hl])]

lemma Router.Current.follows (h : r.Current w) : r.Follows w := by
  intro c hc hfresh
  have hway := (h.calls c hc hfresh).2
  unfold OnItsWay at hway
  cases hstage : c.stage with
  | resolved client =>
    rw [hstage] at hway
    exact hway
  | _ => trivial

/-- One step of a fresh call. -/
lemma Router.Current.onItsWay (h : r.Current w) {c : Call Client} (hc : c ∈ w.calls) (hfresh : c.fresh = true)
    {fails : Bool} (hfail : c.stage = .lookup → fails = true →
      r.wanted c.tenantID (w.stored c.tenantID) = r.defaultClient) :
    r.OnItsWay w { c with stage := (r.resolve w fails c).1 } := by
  obtain ⟨hsettled, hway⟩ := h.calls c hc hfresh
  unfold OnItsWay at hway
  unfold resolve
  cases hstage : c.stage with
  | load =>
    simp only
    split_ifs with hdefault
    · -- the empty tenant, or a router without a loader
      show r.defaultClient = r.wanted _ _
      rw [wanted, if_pos hdefault]
    · obtain ⟨ht, hl⟩ : c.tenantID ≠ "" ∧ r.loader = true := by simpa [not_or] using hdefault
      cases hcache : w.cache c.tenantID with
      | none => exact ⟨ht, hl⟩
      | some entry => exact h.cached _ entry ht hl hcache hsettled
  | lookup =>
    rw [hstage] at hway
    simp only
    split_ifs with hf
    · exact (hfail hstage hf).symm
    · exact ⟨hway, rfl⟩
  | construct name =>
    rw [hstage] at hway
    obtain ⟨⟨ht, hl⟩, rfl⟩ := hway
    exact ⟨⟨ht, hl⟩, (wanted_of_loader ht hl).symm⟩
  | loadOrStore entry =>
    rw [hstage] at hway
    obtain ⟨⟨ht, hl⟩, hentry⟩ := hway
    cases hcache : w.cache c.tenantID with
    | none => exact hentry
    | some winner => exact h.cached _ winner ht hl hcache hsettled
  | resolved client =>
    rw [hstage] at hway
    exact hway

/-- An entry of the cache after a step of a call was there, or the call has just stored it. -/
lemma Router.resolve_cache {fails : Bool} {c : Call Client} {t : String} {entry : RouterEntry Client}
    (h : (r.resolve w fails c).2 t = some entry) : w.cache t = some entry ∨
      (c.stage = .loadOrStore entry ∧ w.cache c.tenantID = none ∧ t = c.tenantID) := by
  unfold resolve at h
  cases hstage : c.stage with
  | load =>
    simp only [hstage] at h
    split_ifs at h
    · exact Or.inl h
    · cases hcache : w.cache c.tenantID <;> simp only [hcache] at h <;> exact Or.inl h
  | lookup =>
    simp only [hstage] at h
    split_ifs at h <;> exact Or.inl h
  | construct name =>
    simp only [hstage] at h
    exact Or.inl h
  | loadOrStore e =>
    simp only [hstage] at h
    cases hcache : w.cache c.tenantID with
    | some winner =>
      simp only [hcache] at h
      exact Or.inl h
    | none =>
      simp only [hcache] at h
      by_cases ht : t = c.tenantID
      · subst ht
        rw [Function.update_self, Option.some.injEq] at h
        exact Or.inr ⟨by rw [h], rfl, rfl⟩
      · rw [Function.update_of_ne ht] at h
        exact Or.inl h
  | resolved client =>
    simp only [hstage] at h
    exact Or.inl h

/-- **Every step keeps it.** -/
lemma Router.Current.step (h : r.Current w) {e : Event} (hC : r.StoresCurrent w e) (hstep : r.step w e = some w') :
    r.Current w' := by
  cases e with
  | evaluate t =>
    cases hstep
    refine ⟨h.cached, fun c hc hfresh => ?_⟩
    rcases List.mem_append.mp hc with hc | hc
    · exact h.calls c hc hfresh
    · obtain rfl := List.mem_singleton.mp hc
      exact ⟨hfresh, trivial⟩
  | advance i fails =>
    obtain ⟨c, hc, rfl⟩ := Option.map_eq_some_iff.mp hstep
    have hmem := List.mem_of_getElem? hc
    have hcond := hC c hc
    refine ⟨fun t entry ht hl hcache hsettled => ?_, fun d hd hfresh => ?_⟩
    · rcases resolve_cache hcache with hold | ⟨hstage, hnone, rfl⟩
      · exact h.cached t entry ht hl hold hsettled
      · rw [hstage] at hcond
        exact hcond hnone hsettled
    · rcases List.mem_or_eq_of_mem_set hd with hold | rfl
      · exact h.calls d hold hfresh
      · refine ⟨(h.calls c hmem hfresh).1, h.onItsWay hmem hfresh fun hstage hf => ?_⟩
        rw [hstage] at hcond
        exact hcond hf hfresh
  | change t name =>
    cases hstep
    -- nothing is promised of the tenant now, and nothing has changed for the others
    refine ⟨fun u entry hu hl hcache hsettled => ?_, fun d hd hfresh => ?_⟩
    · have hne : u ≠ t := by
        rintro rfl
        simp at hsettled
      simp only [Function.update_of_ne hne] at hsettled ⊢
      exact h.cached u entry hu hl hcache hsettled
    · obtain ⟨c, hc, rfl⟩ := List.mem_map.mp hd
      by_cases ht : c.tenantID = t
      · simp [ht] at hfresh
      · simp only [if_neg ht] at hfresh ⊢
        obtain ⟨hsettled, hway⟩ := h.calls c hc hfresh
        unfold OnItsWay at hway ⊢
        simp only [Function.update_of_ne ht]
        exact ⟨hsettled, hway⟩
  | invalidate t =>
    cases hstep
    refine ⟨fun u entry hu hl hcache hsettled => ?_, fun d hd hfresh => ?_⟩
    · by_cases ht : u = t
      · subst ht
        simp [hu] at hcache
      · simp only [Function.update_of_ne ht] at hsettled
        refine h.cached u entry hu hl ?_ hsettled
        simp only at hcache
        split_ifs at hcache
        · exact hcache
        · rwa [Function.update_of_ne ht] at hcache
    · obtain ⟨hsettled, hway⟩ := h.calls d hd hfresh
      refine ⟨?_, hway⟩
      by_cases ht : d.tenantID = t
      · simp [ht]
      · simpa [Function.update_of_ne ht] using hsettled

end Router

section Runs

variable {Client Settings : Type*}

/-- **Routing follows invalidation.** In every run whose steps store nothing that an `Invalidate` has overtaken, a call
that starts after an `Invalidate`, with no later change, uses the provider that is stored. -/
theorem routing_follows_invalidation (r : Router Client Settings) (stored : String → String) (es : List Event)
    (h : Lts.Meets r.step r.StoresCurrent { stored } es) : Lts.Throughout r.step r.Follows { stored } es := by
  have hstart : r.Current { stored } := by
    refine ⟨fun t entry _ _ hcache _ => ?_, fun c hc => ?_⟩
    · cases hcache
    · cases hc
  exact Lts.throughout_of_meets (fun _ _ _ hw hC hstep => hw.step hC hstep) (fun _ hw => hw.follows) hstart h

/-- A router that has a client for every name. -/
def namingRouter : Router String Unit where
  defaultClient := some "default"
  loader := true
  resolveCfg := some fun _ => .ok ()
  new name _ := .ok name

/-- A call looks the provider up before a change. After the `Invalidate` another one is first to store its entry, and
the stale call takes that entry, as does a third. -/
theorem routing_follows_one_change : Lts.Throughout namingRouter.step namingRouter.Follows { stored := fun _ => "a" }
    [.evaluate "t", .advance 0 false, .advance 0 false, .change "t" "b", .invalidate "t", .evaluate "t",
      .advance 1 false, .advance 1 false, .advance 0 false, .advance 1 false, .advance 1 false, .advance 0 false,
      .evaluate "t", .advance 2 false] :=
  routing_follows_invalidation namingRouter (fun _ => "a") _ (by decide)

/-- A call looks the provider up before a change and stores it after the `Invalidate`; the next call is served by it. -/
theorem overtaken_store_pins : ¬ Lts.Throughout namingRouter.step namingRouter.Follows { stored := fun _ => "a" }
    [.evaluate "t", .advance 0 false, .advance 0 false, .change "t" "b", .invalidate "t", .advance 0 false,
      .advance 0 false, .evaluate "t", .advance 1 false] := by
  decide

end Runs

end Sn360Es.Slm
