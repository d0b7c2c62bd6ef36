import Sn360Es.Action.LabelApplier
import Sn360Es.Dto
import Sn360Es.Lib.Hex
import Sn360Es.Lib.Prog

/-!
# The quarantine service (`internal/service/action/quarantine.go`)

A quarantined message is found again through an encrypted reference in the store. The functions of the service
are programs over the operations below: those of the store, the encryptor, the providers, the re-evaluator, the
event bus and the clock. An operation on the store is atomic, and `Environment` says what the rest of the world
answers, and which operations on the store fail.

`json.Marshal` of a record cannot fail, its time having a year of four digits; the codec is a parameter. The
expiry of a stored reference is left out.

* `eval_lookupReference_iff`, `eval_claimReference_iff`, `eval_persist_iff` — when a call alone succeeds, and
  what it does to the store;
* `lookupReference_quarantined` — what `Quarantine` has recorded, `LookupReference` finds.
-/

namespace Sn360Es.Action

open Lib

/-- `QuarantineRecord`, less what only JSON needs. -/
structure QuarantineRecord where
  provider : LabelProviderKind
  email : String
  messageID : String
  tenant : String
  labelID : String
  originalTier : Option Tier
  primary : Option Category
  quarantineAt : ℤ
  tier2Malicious : Bool := false
  deriving DecidableEq, Repr

/-- `ReleaseReason`. -/
inductive ReleaseReason where
  | allowed
  | refused
  | notFound
  | alreadyDone
  deriving DecidableEq, Repr

def ReleaseReason.name : ReleaseReason → String
  | allowed => "allowed"
  | refused => "refused"
  | notFound => "not_found"
  | alreadyDone => "already_done"

/-- The payloads that the two services publish. -/
inductive ActionEvent where
  | quarantineApplied (tenantID pseudonymizedMessage : String) (provider : LabelProviderKind)
      (tier : Option Tier) (primary : Option Category) (quarantineAt : ℤ)
  | release (tenantID pseudonymizedMessage requestedBy correlationID : String)
      (reason : Option ReleaseReason) (restored : Bool) (original newTier : Option Tier)
      (explanations : List String) (occurredAt : ℤ)
  deriving DecidableEq, Repr

/-- The options of a `Publish`. -/
structure PublishOptions where
  eventType : String
  tenantID : String
  messageID : String
  correlationID : String := ""
  deriving DecidableEq, Repr

/-! ### Operations -/

/-- The context of a store operation: the one of the request, or one that the request cannot cancel. -/
inductive Ctx where
  | caller
  | detached
  deriving DecidableEq, Repr

inductive Op where
  | now
  | get (key : String)
  | getDel (key : String)
  | set (ctx : Ctx) (key value : String)
  | encrypt (tenantID : String) (plaintext : Bytes)
  | decrypt (tenantID : String) (ciphertext : Bytes)
  | ensureQuarantineLabel (kind : LabelProviderKind) (email : String)
  | moveToQuarantine (kind : LabelProviderKind) (email messageID quarantineLabelID stubBody : String)
  | restoreFromQuarantine (kind : LabelProviderKind)
      (email messageID quarantineLabelID restoredBody : String)
  | reevaluate (tenantID pseudoMessageID : String)
  | publish (subject : String) (event : ActionEvent) (opts : PublishOptions)
  deriving DecidableEq, Repr

/-- The answers; a pair of an id and an error is what a provider call returns. -/
abbrev Op.Ans : Op → Type
  | now => ℤ
  | get _ => Except String (Option String)
  | getDel _ => Except String (Option String)
  | set _ _ _ => Option String
  | encrypt _ _ => Except String Bytes
  | decrypt _ _ => Except String Bytes
  | ensureQuarantineLabel _ _ => Except String String
  | moveToQuarantine _ _ _ _ _ => String × Option String
  | restoreFromQuarantine _ _ _ _ _ => String × Option String
  | reevaluate _ _ => Except String EvaluateResult
  | publish _ _ _ => Option String

abbrev ActionM := Prog Op Op.Ans

/-- What the world answers to one operation. `cancelled` says whether the context of the caller is cancelled
then. -/
structure Environment where
  now : ℤ := 0
  cancelled : Bool := false
  storeError : Ctx → Option String := fun _ => none
  encrypt : String → Bytes → Except String Bytes
  decrypt : String → Bytes → Except String Bytes
  ensureQuarantineLabel : LabelProviderKind → String → Except String String := fun _ _ => .ok ""
  moveToQuarantine : LabelProviderKind → String → String → String → String → String × Option String :=
    fun _ _ messageID _ _ => (messageID, none)
  restoreFromQuarantine :
      LabelProviderKind → String → String → String → String → String × Option String :=
    fun _ _ messageID _ _ => (messageID, none)
  reevaluate : String → String → Except String EvaluateResult := fun _ _ => .ok {}
  publishError : Option String := none

abbrev Store := String → Option String

/-- A store operation that fails in this environment has no effect. -/
def Environment.onStore {α : Type} (e : Environment) (ctx : Ctx) (st : Store) (fail : String → α)
    (done : α × Store) : α × Store :=
  match e.storeError ctx with
  | some err => (fail err, st)
  | none => done

/-- The effect of an operation. -/
def exec : (o : Op) → Environment → Store → o.Ans × Store
  | .now, e, st => (e.now, st)
  | .get key, e, st => e.onStore .caller st .error (.ok (st key), st)
  | .getDel key, e, st =>
    e.onStore .caller st .error (.ok (st key), Function.update st key none)
  | .set ctx key value, e, st =>
    e.onStore ctx st some (none, Function.update st key (some value))
  | .encrypt tenantID plaintext, e, st => (e.encrypt tenantID plaintext, st)
  | .decrypt tenantID ciphertext, e, st => (e.decrypt tenantID ciphertext, st)
  | .ensureQuarantineLabel kind email, e, st => (e.ensureQuarantineLabel kind email, st)
  | .moveToQuarantine kind email messageID labelID body, e, st =>
    (e.moveToQuarantine kind email messageID labelID body, st)
  | .restoreFromQuarantine kind email messageID labelID body, e, st =>
    (e.restoreFromQuarantine kind email messageID labelID body, st)
  | .reevaluate tenantID msg, e, st => (e.reevaluate tenantID msg, st)
  | .publish _ _ _, e, st => (e.publishError, st)

namespace ActionM

def now : ActionM ℤ := Prog.perform Op.now

def get (key : String) : ActionM (Except String (Option String)) := Prog.perform (Op.get key)

def getDel (key : String) : ActionM (Except String (Option String)) := Prog.perform (Op.getDel key)

def set (ctx : Ctx) (key value : String) : ActionM (Option String) := Prog.perform (Op.set ctx key value)

def encrypt (tenantID : String) (plaintext : Bytes) : ActionM (Except String Bytes) :=
  Prog.perform (Op.encrypt tenantID plaintext)

def decrypt (tenantID : String) (ciphertext : Bytes) : ActionM (Except String Bytes) :=
  Prog.perform (Op.decrypt tenantID ciphertext)

def ensureQuarantineLabel (kind : LabelProviderKind) (email : String) :
    ActionM (Except String String) :=
  Prog.perform (Op.ensureQuarantineLabel kind email)

def moveToQuarantine (kind : LabelProviderKind) (email messageID labelID body : String) :
    ActionM (String × Option String) :=
  Prog.perform (Op.moveToQuarantine kind email messageID labelID body)

def restoreFromQuarantine (kind : LabelProviderKind) (email messageID labelID body : String) :
    ActionM (String × Option String) :=
  Prog.perform (Op.restoreFromQuarantine kind email messageID labelID body)

def reevaluate (tenantID pseudoMessageID : String) : ActionM (Except String EvaluateResult) :=
  Prog.perform (Op.reevaluate tenantID pseudoMessageID)

def publish (subject : String) (event : ActionEvent) (opts : PublishOptions) : ActionM (Option String) :=
  Prog.perform (Op.publish subject event opts)

end ActionM

/-! ### The service -/

structure QuarantineService where
  /-- The kinds that have a provider. -/
  providers : LabelProviderKind → Bool
  /-- `json.Marshal` and `json.Unmarshal` of a record. -/
  marshal : QuarantineRecord → Bytes
  unmarshal : Bytes → Except String QuarantineRecord
  /-- Whether there is a publisher. -/
  publishes : Bool := false
  subject : String := "es.action.quarantine.applied"

structure QuarantineRequest where
  tenant : String
  pseudonymizedMessage : String
  provider : LabelProviderKind
  email : String
  messageID : String
  tier : Option Tier
  primary : Option Category
  tier2Malicious : Bool := false
  deriving DecidableEq, Repr

def quarantineStubBody : String := "This message was blocked by SN360. Tap Why? for details."

/-- `QuarantineKey`. -/
def quarantineKey (tenant pseudoMessage : String) : String :=
  "quarantine:" ++ tenant ++ ":" ++ pseudoMessage

/-- The text of a tier, empty for the zero value. -/
def tierText : Option Tier → String
  | none => ""
  | some t => t.name

/-- `%q` of a text without anything to escape. -/
def quoted (s : String) : String := "\"" ++ s ++ "\""

namespace QuarantineService

variable (s : QuarantineService)

/-- The decoding that `LookupReference` and `ClaimReference` share: the record, or the step that failed and its
error. -/
def decodeReference (tenant encHex : String) : ActionM (Except (String × String) QuarantineRecord) := do
  match Hex.decode encHex with
  | .error err => return .error ("hex decode", err)
  | .ok enc =>
    match ← ActionM.decrypt tenant enc with
    | .error err => return .error ("decrypt", err)
    | .ok plain =>
      match s.unmarshal plain with
      | .error err => return .error ("unmarshal", err)
      | .ok record => return .ok record

/-- `LookupReference`. -/
def lookupReference (tenant pseudoMessage : String) :
    ActionM (Except String (Option QuarantineRecord)) := do
  match ← ActionM.get (quarantineKey tenant pseudoMessage) with
  | .error err => return .error ("quarantine: store get: " ++ err)
  | .ok none => return .ok none
  | .ok (some encHex) =>
    match ← s.decodeReference tenant encHex with
    | .error (op, err) => return .error ("quarantine: " ++ op ++ ": " ++ err)
    | .ok record => return .ok (some record)

/-- The `repersist` of `ClaimReference`. -/
def repersist (key encHex op decodeErr : String) : ActionM (Except String (Option QuarantineRecord)) := do
  match ← ActionM.set .detached key encHex with
  | some perr =>
    return .error ("quarantine: " ++ op ++ ": " ++ decodeErr ++ " (repersist also failed: " ++ perr ++ ")")
  | none => return .error ("quarantine: " ++ op ++ ": " ++ decodeErr)

/-- `ClaimReference`. -/
def claimReference (tenant pseudoMessage : String) :
    ActionM (Except String (Option QuarantineRecord)) := do
  let key := quarantineKey tenant pseudoMessage
  match ← ActionM.getDel key with
  | .error err => return .error ("quarantine: store getdel: " ++ err)
  | .ok none => return .ok none
  | .ok (some encHex) =>
    match ← s.decodeReference tenant encHex with
    | .error (op, err) => repersist key encHex op err
    | .ok record => return .ok (some record)

/-- `persist`: the error, if there is one. -/
def persist (tenant pseudoMessage : String) (record : QuarantineRecord) : ActionM (Option String) := do
  match ← ActionM.encrypt tenant (s.marshal record) with
  | .error err => return some ("encrypt: " ++ err)
  | .ok enc =>
    match ← ActionM.set .caller (quarantineKey tenant pseudoMessage) (Hex.encode enc) with
    | some err => return some ("store set: " ++ err)
    | none => return none

/-- `RestoreReference`. -/
def restoreReference (tenant pseudoMessage : String) (record : QuarantineRecord) : ActionM (Option String) :=
  s.persist tenant pseudoMessage record

/-- The event at the end of `Quarantine`. -/
def publishApplied (req : QuarantineRequest) (record : QuarantineRecord) : ActionM PUnit := do
  if s.publishes then
    let _ ← ActionM.publish s.subject
      (.quarantineApplied req.tenant req.pseudonymizedMessage req.provider req.tier req.primary
        record.quarantineAt)
      { eventType := "action.quarantine.applied", tenantID := req.tenant,
        messageID := req.pseudonymizedMessage }

/-- The part of `Quarantine` after the move: what was moved is recorded even if the move is incomplete. -/
def recordMoved (req : QuarantineRequest) (labelID newMessageID : String) (moveErr : Option String) :
    ActionM (Option QuarantineRecord × Option String) := do
  let quarantineAt ← ActionM.now
  let record : QuarantineRecord :=
    { provider := req.provider, email := req.email
      messageID := if newMessageID = "" then req.messageID else newMessageID
      tenant := req.tenant, labelID := labelID, originalTier := req.tier, primary := req.primary
      quarantineAt, tier2Malicious := req.tier2Malicious }
  match ← s.persist req.tenant req.pseudonymizedMessage record, moveErr with
  | some err, some moveErr =>
    return (some record, some ("quarantine: move (partial): " ++ moveErr ++ "; persist: " ++ err))
  | some err, none => return (some record, some ("quarantine: persist: " ++ err))
  | none, some moveErr => return (some record, some ("quarantine: move (partial): " ++ moveErr))
  | none, none =>
    s.publishApplied req record
    return (some record, none)

/-- `Quarantine`: the record, where it is not the zero value, and the error. -/
def quarantine (req : QuarantineRequest) : ActionM (Option QuarantineRecord × Option String) := do
  if req.tenant = "" ∨ req.email = "" ∨ req.messageID = "" then
    return (none, some "quarantine: tenant, email and message_id are required")
  else if req.pseudonymizedMessage = "" then
    return (none, some "quarantine: pseudonymized message id is required")
  else if ¬ req.tier.any Tier.isBlocking then
    return (none, some ("quarantine: tier " ++ quoted (tierText req.tier) ++ " is not blocking"))
  else if ¬ s.providers req.provider then
    return (none, some ("quarantine: no provider registered for " ++ quoted req.provider.name))
  else
    match ← ActionM.ensureQuarantineLabel req.provider req.email with
    | .error err => return (none, some ("quarantine: ensure label: " ++ err))
    | .ok labelID =>
      match ← ActionM.moveToQuarantine req.provider req.email req.messageID labelID
          quarantineStubBody with
      | ("", some moveErr) => return (none, some ("quarantine: move: " ++ moveErr))
      | (newMessageID, moveErr) => s.recordMoved req labelID newMessageID moveErr

end QuarantineService

/-! ### The functions, run alone -/

section Eval

variable {q : QuarantineService} {tenant msg : String} {env env' : ℕ → Environment} {st st' : Store}

lemma eval_decodeReference_iff {encHex : String} {record : QuarantineRecord} :
    (q.decodeReference tenant encHex).eval exec env st = (.ok record, st', env') ↔
      (∃ enc plain, Hex.decode encHex = .ok enc ∧ (env 0).decrypt tenant enc = .ok plain ∧
        q.unmarshal plain = .ok record) ∧ st = st' ∧ (fun n => env (n + 1)) = env' := by
  unfold QuarantineService.decodeReference
  cases hx : Hex.decode encHex with
  | error err => simp
  | ok enc =>
    simp only [ActionM.decrypt, Prog.eval_bind, Prog.eval_perform, exec]
    cases hd : (env 0).decrypt tenant enc with
    | error err => simp [hd]
    | ok plain => cases hu : q.unmarshal plain <;> simp [hd, hu]

lemma eval_lookupReference_iff {record : QuarantineRecord} :
    (q.lookupReference tenant msg).eval exec env st = (.ok (some record), st', env') ↔
      (env 0).storeError .caller = none ∧ ∃ encHex, st (quarantineKey tenant msg) = some encHex ∧
        (q.decodeReference tenant encHex).eval exec (fun n => env (n + 1)) st = (.ok record, st', env') := by
  unfold QuarantineService.lookupReference
  simp only [ActionM.get, Prog.eval_bind, Prog.eval_perform, exec, Environment.onStore]
  cases he : (env 0).storeError .caller with
  | some err => simp
  | none =>
    cases hv : st (quarantineKey tenant msg) with
    | none => simp
    | some encHex =>
      simp only [Prog.eval_bind]
      rcases hd : (q.decodeReference tenant encHex).eval exec (fun n => env (n + 1)) st with
        ⟨_ | r, st₁, env₁⟩ <;> simp [hd]

lemma eval_claimReference_iff {record : QuarantineRecord} :
    (q.claimReference tenant msg).eval exec env st = (.ok (some record), st', env') ↔
      (env 0).storeError .caller = none ∧ ∃ encHex, st (quarantineKey tenant msg) = some encHex ∧
        (q.decodeReference tenant encHex).eval exec (fun n => env (n + 1))
          (Function.update st (quarantineKey tenant msg) none) = (.ok record, st', env') := by
  unfold QuarantineService.claimReference
  simp only [ActionM.getDel, Prog.eval_bind, Prog.eval_perform, exec, Environment.onStore]
  cases he : (env 0).storeError .caller with
  | some err => simp
  | none =>
    cases hv : st (quarantineKey tenant msg) with
    | none => simp
    | some encHex =>
      simp only [Prog.eval_bind]
      rcases hd : (q.decodeReference tenant encHex).eval exec (fun n => env (n + 1))
          (Function.update st (quarantineKey tenant msg) none) with ⟨⟨op, err⟩ | r, st₁, env₁⟩
      · simp only [QuarantineService.repersist, ActionM.set, Prog.eval_bind, Prog.eval_perform]
        split <;> simp [hd]
      · simp [hd]

lemma eval_persist_iff {record : QuarantineRecord} :
    (q.persist tenant msg record).eval exec env st = (none, st', env') ↔
      ∃ enc, (env 0).encrypt tenant (q.marshal record) = .ok enc ∧ (env 1).storeError .caller = none ∧
        Function.update st (quarantineKey tenant msg) (some (Hex.encode enc)) = st' ∧
        (fun n => env (n + 2)) = env' := by
  unfold QuarantineService.persist
  simp only [ActionM.encrypt, Prog.eval_bind, Prog.eval_perform, exec]
  cases he : (env 0).encrypt tenant (q.marshal record) with
  | error err => simp
  | ok enc =>
    simp only [ActionM.set, Prog.eval_bind, Prog.eval_perform, exec, Environment.onStore]
    cases (env 1).storeError .caller <;> simp

variable {req : QuarantineRequest} {record : QuarantineRecord}

lemma eval_publishApplied_store :
    ((q.publishApplied req record).eval exec env st).2.1 = st := by
  unfold QuarantineService.publishApplied
  split
  · rw [ActionM.publish, Prog.eval_bind, Prog.eval_perform]
    rfl
  · rfl

/-- What `recordMoved` returns without an error is stored. -/
lemma recordMoved_stored {labelID newMessageID : String} {moveErr : Option String}
    (h : (q.recordMoved req labelID newMessageID moveErr).eval exec env st =
      ((some record, none), st', env')) :
    ∃ n enc, (env n).encrypt req.tenant (q.marshal record) = .ok enc ∧
      st' (quarantineKey req.tenant req.pseudonymizedMessage) = some (Hex.encode enc) := by
  unfold QuarantineService.recordMoved at h
  obtain ⟨at_, st₁, env₁, hnow, h⟩ := Prog.eval_bind_eq_iff.mp h
  obtain ⟨rfl, rfl, rfl⟩ : _ = at_ ∧ st = st₁ ∧ (fun n => env (n + 1)) = env₁ := by
    rw [ActionM.now, Prog.eval_perform] at hnow
    simpa [exec] using hnow
  obtain ⟨r, st₂, env₂, hpersist, h⟩ := Prog.eval_bind_eq_iff.mp h
  cases r with
  | some err => cases moveErr <;> simp at h
  | none =>
    cases moveErr with
    | some moveErr => simp at h
    | none =>
      dsimp only at h
      obtain ⟨u, st₃, env₃, hpub, hret⟩ := Prog.eval_bind_eq_iff.mp h
      have hst : st₂ = st₃ := eval_publishApplied_store.symm.trans (congrArg (·.2.1) hpub)
      simp only [Prog.pure_eq, Prog.eval_ret, Prod.mk.injEq, Option.some.injEq, and_true] at hret
      obtain ⟨rfl, rfl, -⟩ := hret
      obtain ⟨enc, henc, -, rfl, -⟩ := eval_persist_iff.mp hpersist
      exact ⟨1, enc, henc, by rw [← hst, Function.update_self]⟩

/-- What `Quarantine` returns without an error is stored. -/
lemma quarantine_stored
    (h : (q.quarantine req).eval exec env st = ((some record, none), st', env')) :
    ∃ n enc, (env n).encrypt req.tenant (q.marshal record) = .ok enc ∧
      st' (quarantineKey req.tenant req.pseudonymizedMessage) = some (Hex.encode enc) := by
  unfold QuarantineService.quarantine at h
  split_ifs at h
  · simp at h
  · simp at h
  · -- the label, then the move; a move that left nothing behind is an error
    simp only [ActionM.ensureQuarantineLabel, ActionM.moveToQuarantine, Prog.eval_bind,
      Prog.eval_perform, exec] at h
    split at h
    · simp at h
    · simp only [Prog.eval_bind, Prog.eval_perform, exec] at h
      split at h
      · simp at h
      · obtain ⟨n, enc, henc, hst⟩ := recordMoved_stored h
        exact ⟨n + 2, enc, henc, hst⟩
  · simp at h
  · simp at h

/-- **A quarantined message is found again.** -/
theorem lookupReference_quarantined {envs : ℕ → Environment}
    (hcodec : ∀ r, q.unmarshal (q.marshal r) = .ok r)
    (hcrypt : ∀ n m t x c, (env n).encrypt t x = .ok c → (envs m).decrypt t c = .ok x)
    (hstore : (envs 0).storeError .caller = none)
    (h : (q.quarantine req).eval exec env st = ((some record, none), st', env')) :
    ((q.lookupReference req.tenant req.pseudonymizedMessage).eval exec envs st').1 = .ok (some record) := by
  obtain ⟨n, enc, henc, hst⟩ := quarantine_stored h
  have hfound : (q.lookupReference req.tenant req.pseudonymizedMessage).eval exec envs st' =
      (.ok (some record), st', fun n => envs (n + 2)) :=
    eval_lookupReference_iff.mpr ⟨hstore, Hex.encode enc, hst, eval_decodeReference_iff.mpr
      ⟨⟨enc, q.marshal record, Hex.decode_encode enc, hcrypt n 1 _ _ _ henc, hcodec record⟩, rfl, rfl⟩⟩
  rw [hfound]

end Eval

section Samples

/-- A JSON text of a record, cut down to where the message is. -/
def recordJson (r : QuarantineRecord) : Bytes :=
  bytesOf ("\x7b\"provider\":\"" ++ r.provider.name ++ "\",\"email\":\"" ++ r.email ++ "\",\"message_id\":\"" ++
    r.messageID ++ "\",\"tenant\":\"" ++ r.tenant ++ "\",\"label_id\":\"" ++ r.labelID ++ "\"\x7d")

/-- A service with every provider that reads one record back. -/
def serviceOf (record : QuarantineRecord) : QuarantineService where
  providers _ := true
  marshal := recordJson
  unmarshal b := if b = recordJson record then .ok record else .error "unexpected end of JSON input"

lemma serviceOf_unmarshal (record : QuarantineRecord) :
    (serviceOf record).unmarshal (recordJson record) = .ok record :=
  if_pos rfl

end Samples

end Sn360Es.Action
