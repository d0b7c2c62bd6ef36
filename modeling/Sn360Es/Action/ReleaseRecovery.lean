import Sn360Es.Action.Release

/-!
# Releases that fail (`internal/service/action/quarantine_release.go`)

A call of `Release` that has claimed the reference holds the only copy of it. When the provider fails, or is not
registered, the copy is written back by `persist`, under the context of the caller.

* `release_failed_iff` — what such a call has done, up to `restoreClaimed`;
* `failed_stored_iff` — the reference is in the store after the call exactly when that write went through;
* `failed_release_keeps_iff` — if the store fails only where a context is cancelled, this is so exactly when
  the context of the caller is still alive at the write.
-/

namespace Sn360Es.Action

open Lib

/-- The reference of the request. -/
abbrev ReleaseRequest.key (req : ReleaseRequest) : String :=
  quarantineKey req.tenantID req.pseudonymizedMessage

/-- The provider failed, or is not registered. -/
def ReleaseError.isRestoreFailure : ReleaseError → Bool
  | noProvider _ | restore _ => true
  | _ => false

/-- The result of a call whose restore failed. -/
def RestoreFailed (r : ReleaseOutcome × Option ReleaseError) : Prop :=
  ∃ err, r.2 = some err ∧ err.isRestoreFailure

/-- The position of the write among the operations of a call whose restore failed: the look-up, its decryption,
the re-evaluation, the clock, the claim, its decryption, the provider call if there is a provider, the
encryption, the write. -/
def writeBackAt : ReleaseError → ℕ
  | .noProvider _ => 7
  | _ => 8

namespace Environment

/-- The encryptor serves every tenant. The encryptors of the source refuse the empty tenant only. -/
def Encrypts (e : Environment) : Prop :=
  ∀ tenant plaintext, tenant ≠ "" → ∃ enc, e.encrypt tenant plaintext = .ok enc

/-- The store fails only where the context it is given is cancelled. -/
def FailsOnlyCancelled (e : Environment) : Prop :=
  ∀ ctx, e.storeError ctx ≠ none → ctx = .caller ∧ e.cancelled

end Environment

/-- The same answers, with other errors of the store. -/
def withStoreErrors (env : ℕ → Environment) (w : ℕ → Ctx → Option String) : ℕ → Environment :=
  fun n => { env n with storeError := w n }

/-- A call that fails with `err` has the reference in the store when it returns, whatever the store does as long
as it fails only where a context is cancelled. -/
def KeepsReference (s : ReleaseService) (req : ReleaseRequest) (env : ℕ → Environment) (st : Store)
    (err : ReleaseError) : Prop :=
  ∀ w, (∀ n, (withStoreErrors env w n).FailsOnlyCancelled) →
    ((s.release req).eval exec (withStoreErrors env w) st).1.2 = some err →
    (((s.release req).eval exec (withStoreErrors env w) st).2.1 req.key).isSome

/-- A store that fails at operation `k`, under the context of the caller, and answers as before elsewhere. -/
def failingAt (env : ℕ → Environment) (k n : ℕ) (ctx : Ctx) : Option String :=
  if n = k then (if ctx = .caller then some "context canceled" else none) else (env n).storeError ctx

/-- The answers under which a call claims `record`, having found the outcome `o` so far. -/
structure Claims (s : ReleaseService) (req : ReleaseRequest) (env : ℕ → Environment) (st : Store)
    (o : ReleaseOutcome) (record : QuarantineRecord) : Prop where
  valid : ¬ (req.tenantID = "" ∨ req.pseudonymizedMessage = "")
  get : (env 0).storeError .caller = none
  getDel : (env 4).storeError .caller = none
  cleared : ∃ found encHex enc plain plain' verdict,
    st (quarantineKey req.tenantID req.pseudonymizedMessage) = some encHex ∧
    Hex.decode encHex = .ok enc ∧
    (env 1).decrypt req.tenantID enc = .ok plain ∧ s.quarantine.unmarshal plain = .ok found ∧
    (env 2).reevaluate req.tenantID req.pseudonymizedMessage = .ok verdict ∧
    isStillBlocked verdict.tier s.minReleaseTier = false ∧
    (env 5).decrypt req.tenantID enc = .ok plain' ∧ s.quarantine.unmarshal plain' = .ok record ∧
    o = { verdict, original := found.originalTier, record := some found, occurredAt := (env 3).now }

/-- The error of `restoreClaimed`, which is the provider's alone. -/
def restoreError (s : ReleaseService) (req : ReleaseRequest) (o : ReleaseOutcome) (record : QuarantineRecord)
    (e : Environment) : Option ReleaseError :=
  if ¬ s.quarantine.providers record.provider then some (.noProvider record.provider)
  else
    (e.restoreFromQuarantine record.provider record.email record.messageID record.labelID
      (if req.restoredBody = "" then defaultRestoredBody o.verdict else req.restoredBody)).2.map .restore

/-! ### The functions of the services, run alone -/

section Functions

variable {q : QuarantineService} {tenant msg : String} {env env' : ℕ → Environment} {st st' : Store}

/-- What `persist` leaves under the key of the message. -/
lemma eval_persist {record : QuarantineRecord} (ht : tenant ≠ "") (henc : (env 0).Encrypts)
    (hst : st (quarantineKey tenant msg) = none) :
    (((q.persist tenant msg record).eval exec env st).2.1 (quarantineKey tenant msg)).isSome ↔
      (env 1).storeError .caller = none := by
  obtain ⟨enc, he⟩ := henc tenant (q.marshal record) ht
  unfold QuarantineService.persist
  simp only [ActionM.encrypt, ActionM.set, Prog.eval_bind, Prog.eval_perform, exec, he, Environment.onStore]
  cases (env 1).storeError .caller <;> simp [hst]

variable {s : ReleaseService} {req : ReleaseRequest} {err : ReleaseError}

lemma eval_finish (req : ReleaseRequest) (o : ReleaseOutcome) :
    ((s.finish req o).eval exec env st).1 = (o, none) := by
  unfold ReleaseService.finish ReleaseService.publishOutcome
  rw [Prog.eval_bind]
  rfl

lemma restoreClaimed_error (env : ℕ → Environment) (st : Store) (o : ReleaseOutcome)
    (record : QuarantineRecord) :
    ((s.restoreClaimed req o record).eval exec env st).1.2 = restoreError s req o record (env 0) := by
  unfold ReleaseService.restoreClaimed restoreError
  simp only
  split
  · rw [Prog.eval_bind]
    rfl
  · simp only [ActionM.restoreFromQuarantine, Prog.eval_bind, Prog.eval_perform, exec]
    split
    · next newMessageID e he =>
      rw [Prog.eval_bind, he]
      rfl
    · next newMessageID he =>
      rw [eval_finish, he]
      rfl

/-- What is left under the key by a call that has claimed a record and failed to restore it. -/
lemma restoreClaimed_stored_iff {o : ReleaseOutcome} {record : QuarantineRecord} (ht : req.tenantID ≠ "")
    (henc : ∀ n, (env n).Encrypts)
    (hst : st (quarantineKey req.tenantID req.pseudonymizedMessage) = none)
    (hr : restoreError s req o record (env 6) = some err) :
    (((s.restoreClaimed req o record).eval exec (fun n => env (n + 6)) st).2.1
      (quarantineKey req.tenantID req.pseudonymizedMessage)).isSome ↔
      (env (writeBackAt err)).storeError .caller = none := by
  unfold ReleaseService.restoreClaimed
  unfold restoreError at hr
  simp only
  split at hr
  · next hp =>
    obtain rfl := Option.some.inj hr
    rw [if_pos hp, Prog.eval_bind]
    exact eval_persist ht (henc _) hst
  · next hp =>
    obtain ⟨e, he, rfl⟩ := Option.map_eq_some_iff.mp hr
    rw [if_neg hp, ActionM.restoreFromQuarantine, Prog.eval_bind, Prog.eval_perform]
    simp only [exec]
    split
    · rw [Prog.eval_bind]
      exact eval_persist ht (henc _) hst
    · next hnone =>
      rw [hnone] at he
      cases he

end Functions

/-! ### What a call has done when its restore fails -/

section Failed

variable {s : ReleaseService} {req : ReleaseRequest} {r : ReleaseOutcome × Option ReleaseError}
  {err : ReleaseError} {env env' : ℕ → Environment} {st st' : Store}

lemma not_restoreFailed_none (o : ReleaseOutcome) : ¬ RestoreFailed (o, none) := by
  rintro ⟨err, h, -⟩
  cases h

lemma not_restoreFailed_some {o : ReleaseOutcome} (h : err.isRestoreFailure = false) :
    ¬ RestoreFailed (o, some err) := by
  rintro ⟨err', h', hf⟩
  obtain rfl := Option.some.inj h'
  rw [h] at hf
  cases hf

lemma RestoreFailed.of_eval {p : ActionM (ReleaseOutcome × Option ReleaseError)} (hr : RestoreFailed r)
    (h : p.eval exec env st = (r, st', env')) : RestoreFailed (p.eval exec env st).1 := by
  rw [h]
  exact hr

variable (hr : RestoreFailed r)
include hr

lemma eval_claimAndRestore_failed_iff {o : ReleaseOutcome} :
    (s.claimAndRestore req o).eval exec env st = (r, st', env') ↔
      ∃ record st₁ env₁,
        (s.quarantine.claimReference req.tenantID req.pseudonymizedMessage).eval exec env st =
          (.ok (some record), st₁, env₁) ∧
        (s.restoreClaimed req o record).eval exec env₁ st₁ = (r, st', env') := by
  unfold ReleaseService.claimAndRestore
  rw [Prog.eval_bind_eq_iff]
  constructor
  · rintro ⟨a, st₁, env₁, hc, h⟩
    have hr' := hr.of_eval h
    rcases a with err | _ | record
    · exact absurd hr' (not_restoreFailed_some rfl)
    · rw [eval_finish] at hr'
      exact absurd hr' (not_restoreFailed_none _)
    · exact ⟨record, st₁, env₁, hc, h⟩
  · rintro ⟨record, st₁, env₁, hc, h⟩
    exact ⟨_, st₁, env₁, hc, h⟩

lemma eval_reevaluateFound_failed_iff {found : QuarantineRecord} :
    (s.reevaluateFound req found).eval exec env st = (r, st', env') ↔
      ∃ verdict, (env 0).reevaluate req.tenantID req.pseudonymizedMessage = .ok verdict ∧
        isStillBlocked verdict.tier s.minReleaseTier = false ∧
        (s.claimAndRestore req
          { verdict, original := found.originalTier, record := some found, occurredAt := (env 1).now }).eval
          exec (fun n => env (n + 2)) st = (r, st', env') := by
  unfold ReleaseService.reevaluateFound
  rw [ActionM.reevaluate, Prog.eval_bind, Prog.eval_perform]
  simp only [exec]
  cases hv : (env 0).reevaluate req.tenantID req.pseudonymizedMessage with
  | error e =>
    refine iff_of_false (fun h => ?_) (by simp)
    exact absurd (hr.of_eval h) (not_restoreFailed_some rfl)
  | ok verdict =>
    simp only [ActionM.now, Prog.eval_bind, Prog.eval_perform, exec]
    cases hb : isStillBlocked verdict.tier s.minReleaseTier with
    | true =>
      refine iff_of_false (fun h => ?_) (by simp [hb])
      have hr' := hr.of_eval h
      rw [if_pos rfl, eval_finish] at hr'
      exact absurd hr' (not_restoreFailed_none _)
    | false => simp [hb]

lemma eval_release_failed_iff :
    (s.release req).eval exec env st = (r, st', env') ↔
      ¬ (req.tenantID = "" ∨ req.pseudonymizedMessage = "") ∧
      ∃ found st₁ env₁,
        (s.quarantine.lookupReference req.tenantID req.pseudonymizedMessage).eval exec env st =
          (.ok (some found), st₁, env₁) ∧
        (s.reevaluateFound req found).eval exec env₁ st₁ = (r, st', env') := by
  unfold ReleaseService.release
  split
  · next hv =>
    refine iff_of_false (fun h => ?_) (fun h => h.1 hv)
    exact absurd (hr.of_eval h) (not_restoreFailed_some rfl)
  · next hv =>
    rw [Prog.eval_bind_eq_iff, and_iff_right hv]
    constructor
    · rintro ⟨a, st₁, env₁, hl, h⟩
      have hr' := hr.of_eval h
      rcases a with err | _ | found
      · exact absurd hr' (not_restoreFailed_some rfl)
      · rw [Prog.eval_bind, eval_finish] at hr'
        exact absurd hr' (not_restoreFailed_none _)
      · exact ⟨found, st₁, env₁, hl, h⟩
    · rintro ⟨found, st₁, env₁, hl, h⟩
      exact ⟨_, st₁, env₁, hl, h⟩

/-- **A call whose restore fails** has claimed the reference with its first six operations; the rest of it is
`restoreClaimed`, on a store without the reference. -/
theorem release_failed_iff :
    (s.release req).eval exec env st = (r, st', env') ↔
      ∃ o record, Claims s req env st o record ∧
        (s.restoreClaimed req o record).eval exec (fun n => env (n + 6))
          (Function.update st (quarantineKey req.tenantID req.pseudonymizedMessage) none) = (r, st', env') := by
  simp only [eval_release_failed_iff hr, eval_reevaluateFound_failed_iff hr, eval_claimAndRestore_failed_iff hr,
    eval_lookupReference_iff, eval_claimReference_iff, eval_decodeReference_iff]
  constructor
  · rintro ⟨hvalid, found, _, _, ⟨hget, encHex, hkey, ⟨enc, plain, hhex, hdec, hun⟩, rfl, rfl⟩,
      verdict, hre, hcl, record, _, _,
      ⟨hgd, encHex', hkey', ⟨enc', plain', hhex', hdec', hun'⟩, rfl, rfl⟩, h⟩
    -- both reads of the reference see the same blob
    obtain rfl : encHex = encHex' := Option.some.inj (hkey.symm.trans hkey')
    obtain rfl : enc = enc' := Except.ok.inj (hhex.symm.trans hhex')
    exact ⟨_, record, ⟨hvalid, hget, hgd,
      found, encHex, enc, plain, plain', verdict, hkey, hhex, hdec, hun, hre, hcl, hdec', hun', rfl⟩, h⟩
  · rintro ⟨o, record, ⟨hvalid, hget, hgd,
      found, encHex, enc, plain, plain', verdict, hkey, hhex, hdec, hun, hre, hcl, hdec', hun', rfl⟩, h⟩
    exact ⟨hvalid, found, _, _, ⟨hget, encHex, hkey, ⟨enc, plain, hhex, hdec, hun⟩, rfl, rfl⟩,
      verdict, hre, hcl, record, _, _, ⟨hgd, encHex, hkey, ⟨enc, plain', hhex, hdec', hun'⟩, rfl, rfl⟩, h⟩

omit hr

lemma Claims.congr {o : ReleaseOutcome} {record : QuarantineRecord} (h : Claims s req env st o record)
    (henv : ∀ n < 6, env' n = env n) : Claims s req env' st o record := by
  obtain ⟨hvalid, hget, hgd, hcl⟩ := h
  refine ⟨hvalid, ?_, ?_, ?_⟩
  · rwa [henv 0 (by decide)]
  · rwa [henv 4 (by decide)]
  · rwa [henv 1 (by decide), henv 2 (by decide), henv 3 (by decide), henv 5 (by decide)]

lemma six_lt_writeBackAt (err : ReleaseError) : 6 < writeBackAt err := by
  unfold writeBackAt
  split <;> decide

/-- A call whose restore failed has claimed, and its error is the provider's. -/
lemma claims_of_failed (herr : err.isRestoreFailure)
    (hr : ((s.release req).eval exec env st).1.2 = some err) :
    ∃ o record, Claims s req env st o record ∧ restoreError s req o record (env 6) = some err ∧
      (s.release req).eval exec env st =
        (s.restoreClaimed req o record).eval exec (fun n => env (n + 6)) (Function.update st req.key none) := by
  rcases hx : (s.release req).eval exec env st with ⟨r, st', env'⟩
  rw [hx] at hr
  obtain ⟨o, record, hcl, hrest⟩ := (release_failed_iff ⟨err, hr, herr⟩).mp hx
  refine ⟨o, record, hcl, ?_, hrest.symm⟩
  rw [← hr, ← congrArg (·.1.2) hrest]
  exact (restoreClaimed_error (fun n => env (n + 6)) _ o record).symm

/-- After a call whose restore failed, the reference is in the store exactly when the write went through. -/
lemma failed_stored_iff (henc : ∀ n, (env n).Encrypts) (herr : err.isRestoreFailure)
    (hr : ((s.release req).eval exec env st).1.2 = some err) :
    (((s.release req).eval exec env st).2.1 req.key).isSome ↔
      (env (writeBackAt err)).storeError .caller = none := by
  obtain ⟨o, record, hcl, hrerr, heval⟩ := claims_of_failed herr hr
  rw [heval]
  exact restoreClaimed_stored_iff (fun h => hcl.valid (.inl h)) henc
    (Function.update_self req.key none st) hrerr

/-- The error of a call that has claimed is the provider's. -/
lemma Claims.error {o : ReleaseOutcome} {record : QuarantineRecord} (h : Claims s req env st o record)
    (herr : err.isRestoreFailure) (hr : restoreError s req o record (env 6) = some err) :
    ((s.release req).eval exec env st).1.2 = some err := by
  rcases hx : (s.restoreClaimed req o record).eval exec (fun n => env (n + 6))
    (Function.update st req.key none) with ⟨r, st', env'⟩
  have hr' : r.2 = some err := by
    rw [← hr, ← congrArg (·.1.2) hx]
    exact restoreClaimed_error (fun n => env (n + 6)) _ o record
  rw [(release_failed_iff ⟨err, hr', herr⟩).mpr ⟨o, record, h, hx⟩]
  exact hr'

/-- A call fails in the same way when all its answers up to the provider's are the same. -/
lemma failed_of_agree (herr : err.isRestoreFailure) (henv : ∀ n < 7, env' n = env n)
    (hr : ((s.release req).eval exec env st).1.2 = some err) :
    ((s.release req).eval exec env' st).1.2 = some err := by
  obtain ⟨o, record, hcl, hrerr, -⟩ := claims_of_failed herr hr
  refine (hcl.congr fun n hn => henv n (by omega)).error herr ?_
  rw [henv 6 (by decide)]
  exact hrerr

lemma withStoreErrors_failingAt {k n : ℕ} (h : n ≠ k) :
    withStoreErrors env (failingAt env k) n = env n := by
  unfold withStoreErrors failingAt
  simp only [if_neg h]

lemma failsOnlyCancelled_failingAt {k : ℕ} (hcontract : ∀ n, (env n).FailsOnlyCancelled)
    (hk : (env k).cancelled) (n : ℕ) :
    (withStoreErrors env (failingAt env k) n).FailsOnlyCancelled := by
  by_cases hn : n = k
  · subst hn
    intro ctx hctx
    refine ⟨?_, hk⟩
    by_contra hne
    exact hctx (by simp [withStoreErrors, failingAt, hne])
  · rw [withStoreErrors_failingAt hn]
    exact hcontract n

/-- **A failed release keeps the reference exactly when the caller's context outlives it.** For every call whose
restore failed, with an encryptor that serves and a store that fails only where a context is cancelled. -/
theorem failed_release_keeps_iff (henc : ∀ n, (env n).Encrypts)
    (hcontract : ∀ n, (env n).FailsOnlyCancelled) (herr : err.isRestoreFailure)
    (hr : ((s.release req).eval exec env st).1.2 = some err) :
    KeepsReference s req env st err ↔ (env (writeBackAt err)).cancelled = false := by
  constructor
  · intro hkeeps
    by_contra hc
    rw [Bool.not_eq_false] at hc
    -- the store that answers as before up to the write, and fails there
    have hlate := six_lt_writeBackAt err
    have hcw := failsOnlyCancelled_failingAt hcontract hc
    have hsame : ((s.release req).eval exec (withStoreErrors env (failingAt env (writeBackAt err))) st).1.2 =
        some err :=
      failed_of_agree herr (fun n hn => withStoreErrors_failingAt (by omega)) hr
    have henc' : ∀ n, (withStoreErrors env (failingAt env (writeBackAt err)) n).Encrypts := henc
    have hstored := (failed_stored_iff henc' herr hsame).mp (hkeeps _ hcw hsame)
    simp [withStoreErrors, failingAt] at hstored
  · intro hc w hcw hrw
    have henc' : ∀ n, (withStoreErrors env w n).Encrypts := henc
    refine (failed_stored_iff henc' herr hrw).mpr ?_
    by_contra hne
    have hcancelled : (env (writeBackAt err)).cancelled = true := (hcw (writeBackAt err) .caller hne).2
    rw [hc] at hcancelled
    cases hcancelled

end Failed

/-! ### A call whose context is cancelled at the provider -/

/-- A record of which only the provider is set. -/
def sampleRecord : QuarantineRecord :=
  { provider := .gmail, email := "", messageID := "", tenant := "", labelID := "", originalTier := none
    primary := none, quarantineAt := -62135596800 }

/-- A JSON text of the record. -/
def sampleJson : Bytes := bytesOf "\x7b\"provider\":\"gmail\"\x7d"

/-- A service with a Gmail provider, and a codec for that record. -/
def sampleService : ReleaseService where
  quarantine :=
    { providers := (· = .gmail)
      marshal := fun _ => sampleJson
      unmarshal := fun b => if b = sampleJson then .ok sampleRecord else .error "unexpected end of JSON input" }

lemma sample_unmarshal : sampleService.quarantine.unmarshal sampleJson = .ok sampleRecord := by
  simp [sampleService]

def sampleRequest : ReleaseRequest := { tenantID := "t", pseudonymizedMessage := "p" }

/-- The reference, stored by an encryptor that passes the text through. -/
def sampleStore : Store := Function.update (fun _ => none) sampleRequest.key (some (Hex.encode sampleJson))

/-- A world in which the message is no longer blocked and the provider fails. The context of the caller is
cancelled from the operation `start` on, and the store fails under a cancelled context. -/
def cancelledFrom (start n : ℕ) : Environment where
  cancelled := start ≤ n
  storeError ctx := if ctx = .caller ∧ start ≤ n then some "context canceled" else none
  encrypt _ plaintext := .ok plaintext
  decrypt _ ciphertext := .ok ciphertext
  reevaluate _ _ := .ok { tier := some .informational }
  restoreFromQuarantine _ _ _ _ _ := ("", some "context canceled")

lemma cancelledFrom_encrypts (start n : ℕ) : (cancelledFrom start n).Encrypts :=
  fun _ plaintext _ => ⟨plaintext, rfl⟩

lemma cancelledFrom_failsOnlyCancelled (start n : ℕ) : (cancelledFrom start n).FailsOnlyCancelled := by
  intro ctx h
  by_contra hc
  refine h (if_neg ?_)
  simpa [cancelledFrom] using hc

/-- A context that is alive at the claim does not keep the call from claiming, and the provider fails. -/
lemma cancelledFrom_error {start : ℕ} (h : 6 ≤ start) :
    ((sampleService.release sampleRequest).eval exec (cancelledFrom start) sampleStore).1.2 =
      some (.restore "context canceled") := by
  have hcl : Claims sampleService sampleRequest (cancelledFrom start) sampleStore _ sampleRecord :=
    { valid := by decide
      get := if_neg (by omega)
      getDel := if_neg (by omega)
      cleared := ⟨sampleRecord, Hex.encode sampleJson, sampleJson, sampleJson, sampleJson,
        { tier := some .informational }, Function.update_self _ _ _, Hex.decode_encode _, rfl,
        sample_unmarshal, rfl, rfl, rfl, sample_unmarshal, rfl⟩ }
  exact hcl.error rfl rfl

/-- A context that is cancelled once the call has returned. -/
theorem failed_release_keeps_late_cancel :
    KeepsReference sampleService sampleRequest (cancelledFrom 9) sampleStore (.restore "context canceled") :=
  (failed_release_keeps_iff (cancelledFrom_encrypts 9) (cancelledFrom_failsOnlyCancelled 9) rfl
    (cancelledFrom_error (by decide))).mpr rfl

/-- A context that is cancelled while the provider works, which fails for it: the reference is gone. -/
theorem failed_release_loses_cancelled :
    (∀ n, (cancelledFrom 6 n).Encrypts ∧ (cancelledFrom 6 n).FailsOnlyCancelled) ∧
      (sampleStore sampleRequest.key).isSome ∧
      ((sampleService.release sampleRequest).eval exec (cancelledFrom 6) sampleStore).1.2 =
        some (.restore "context canceled") ∧
      ((sampleService.release sampleRequest).eval exec (cancelledFrom 6) sampleStore).2.1 sampleRequest.key =
        none := by
  have herr := cancelledFrom_error (le_refl 6)
  have hstored : (cancelledFrom 6 8).storeError .caller ≠ none := by decide
  refine ⟨fun n => ⟨cancelledFrom_encrypts 6 n, cancelledFrom_failsOnlyCancelled 6 n⟩, ?_, herr, ?_⟩
  · rw [sampleStore, Function.update_self]
    rfl
  · rw [← Option.not_isSome_iff_eq_none]
    exact (failed_stored_iff (cancelledFrom_encrypts 6) rfl herr).not.mpr hstored

end Sn360Es.Action
