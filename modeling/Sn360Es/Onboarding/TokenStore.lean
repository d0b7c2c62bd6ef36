import Mathlib.Logic.Basic
import Sn360Es.Lib.Hex

/-!
# The store of OAuth tokens (`internal/service/onboarding/token_store_pg.go`)

A row of `oauth_tokens` is found by its tenant and its provider, on one of the pools of the deployment. A call uses the
connection that its context has bound, whatever its pool and its tenant are, and else binds one of the store's own pool
to the tenant of the call. The row policy admits a row on a connection that is bound to its tenant.

`json.Marshal` and the encryptor are parameters.
-/

namespace Sn360Es.Onboarding

open Lib

/-- `Token`; the zero time is `0`. -/
structure Token where
  accessToken : String := ""
  refreshToken : String := ""
  tokenType : String := ""
  expiresAt : ℤ := 0
  scope : String := ""
  idToken : String := ""
  deriving DecidableEq, Repr

/-- `IsExpired`, in seconds. -/
def Token.isExpired (t : Token) (now : ℤ) : Bool := t.expiresAt ≠ 0 && t.expiresAt < now + 60

/-- A connection that is bound: its pool and its tenant. -/
structure BoundConn where
  pool : String
  tenantID : String
  deriving DecidableEq, Repr

/-- The rows, and the accesses to them that the row policy has admitted: the pool and the tenant of each, the last one
first. -/
structure TokenDB where
  rows : String → String → String → Option Bytes := fun _ _ _ => none
  accesses : List (String × String) := []

namespace TokenDB

variable (d : TokenDB)

/-- The upsert or the deletion of a row. -/
def write (pool tenantID provider : String) (row : Option Bytes) : TokenDB where
  rows p t q := if p = pool ∧ t = tenantID ∧ q = provider then row else d.rows p t q
  accesses := (pool, tenantID) :: d.accesses

/-- The access of a read. -/
def read (pool tenantID : String) : TokenDB := { d with accesses := (pool, tenantID) :: d.accesses }

end TokenDB

/-- What a call of the store meets. -/
structure StoreEnv where
  bindError : Option String := none
  execError : Option String := none
  deriving DecidableEq, Repr

structure PgTokenStore where
  /-- The pool of `db`. -/
  pool : String
  /-- `json.Marshal` and `Encrypt`. -/
  encrypt : Token → Except String Bytes
  /-- `Decrypt` and `json.Unmarshal`. -/
  decrypt : Bytes → Except String Token

namespace PgTokenStore

variable (s : PgTokenStore)

/-- `bindTenantIfNeeded`. -/
def bindTenantIfNeeded (ctx : Option BoundConn) (e : StoreEnv) (tenantID : String) : Except String BoundConn :=
  match ctx, e.bindError with
  | some conn, _ => .ok conn
  | none, some err => .error err
  | none, none => .ok ⟨s.pool, tenantID⟩

/-- `Save`. -/
def save (ctx : Option BoundConn) (e : StoreEnv) (tenantID provider : String) (tok : Token) (d : TokenDB) :
    Option String × TokenDB :=
  if tenantID = "" then (some "onboarding: tenant_id is required", d)
  else
    match s.bindTenantIfNeeded ctx e tenantID, s.encrypt tok, e.execError with
    | .error err, _, _ => (some ("onboarding: bind tenant for token save: " ++ err), d)
    | .ok _, .error err, _ => (some ("onboarding: " ++ err), d)
    | .ok _, .ok _, some err => (some ("onboarding: save token: " ++ err), d)
    | .ok conn, .ok ct, none =>
      if conn.tenantID = tenantID then (none, d.write conn.pool tenantID provider (some ct))
      else (some "onboarding: save token: new row violates row-level security policy for table \"oauth_tokens\"", d)

def notFound (tenantID provider : String) : String :=
  "onboarding: token not found for tenant \"" ++ tenantID ++ "\" provider \"" ++ provider ++ "\""

/-- `Load`. -/
def load (ctx : Option BoundConn) (e : StoreEnv) (tenantID provider : String) (d : TokenDB) :
    Except String Token × TokenDB :=
  if tenantID = "" then (.error "onboarding: tenant_id is required", d)
  else
    match s.bindTenantIfNeeded ctx e tenantID, e.execError with
    | .error err, _ => (.error ("onboarding: bind tenant for token load: " ++ err), d)
    | .ok _, some err => (.error ("onboarding: load token: " ++ err), d)
    | .ok conn, none =>
      if conn.tenantID = tenantID then
        (match d.rows conn.pool tenantID provider with
          | none => .error (notFound tenantID provider)
          | some ct =>
            match s.decrypt ct with
            | .error err => .error ("onboarding: " ++ err)
            | .ok tok => .ok tok, d.read conn.pool tenantID)
      else (.error (notFound tenantID provider), d)

/-- `Delete`. -/
def delete (ctx : Option BoundConn) (e : StoreEnv) (tenantID provider : String) (d : TokenDB) :
    Option String × TokenDB :=
  if tenantID = "" then (some "onboarding: tenant_id is required", d)
  else
    match s.bindTenantIfNeeded ctx e tenantID, e.execError with
    | .error err, _ => (some ("onboarding: bind tenant for token delete: " ++ err), d)
    | .ok _, some err => (some ("onboarding: delete token: " ++ err), d)
    | .ok conn, none =>
      (none, if conn.tenantID = tenantID then d.write conn.pool tenantID provider none else d)

/-- The connection of a call that reaches the database. -/
def connOf (ctx : Option BoundConn) (tenantID : String) : BoundConn := ctx.getD ⟨s.pool, tenantID⟩

variable {s}

lemma bindTenantIfNeeded_ok {ctx : Option BoundConn} {e : StoreEnv} {tenantID : String} {conn : BoundConn}
    (h : s.bindTenantIfNeeded ctx e tenantID = .ok conn) :
    conn = s.connOf ctx tenantID := by
  unfold bindTenantIfNeeded at h
  split at h <;> cases h <;> rfl

variable (ctx : Option BoundConn) (e : StoreEnv) (tenantID provider : String) (tok : Token) (d : TokenDB)

/-- **What `Save` does**: nothing, or it writes the row on the pool of its connection, which is bound to the tenant. -/
lemma save_cases : (∃ err, s.save ctx e tenantID provider tok d = (some err, d)) ∨
    ∃ ct, s.encrypt tok = .ok ct ∧ (s.connOf ctx tenantID).tenantID = tenantID ∧
      s.save ctx e tenantID provider tok d =
        (none, d.write (s.connOf ctx tenantID).pool tenantID provider (some ct)) := by
  unfold save
  split
  · exact .inl ⟨_, rfl⟩
  · split
    · exact .inl ⟨_, rfl⟩
    · exact .inl ⟨_, rfl⟩
    · exact .inl ⟨_, rfl⟩
    · next conn ct hbind hencrypt _ =>
      split
      · next hown =>
        rw [bindTenantIfNeeded_ok hbind] at hown ⊢
        exact .inr ⟨ct, hencrypt, hown, rfl⟩
      · exact .inl ⟨_, rfl⟩

/-- **What `Load` does**: nothing, or it reads on the pool of its connection, which is bound to the tenant. -/
lemma load_cases :
    ((∃ err, (s.load ctx e tenantID provider d).1 = .error err) ∧ (s.load ctx e tenantID provider d).2 = d) ∨
    ((s.connOf ctx tenantID).tenantID = tenantID ∧
      (s.load ctx e tenantID provider d).2 = d.read (s.connOf ctx tenantID).pool tenantID) := by
  unfold load
  split
  · exact .inl ⟨⟨_, rfl⟩, rfl⟩
  · split
    · exact .inl ⟨⟨_, rfl⟩, rfl⟩
    · exact .inl ⟨⟨_, rfl⟩, rfl⟩
    · next conn hbind _ =>
      rw [bindTenantIfNeeded_ok hbind]
      split
      · next hown => exact .inr ⟨hown, rfl⟩
      · exact .inl ⟨⟨_, rfl⟩, rfl⟩

/-- **What `Delete` does.** -/
lemma delete_cases : (s.delete ctx e tenantID provider d).2 = d ∨
    ((s.connOf ctx tenantID).tenantID = tenantID ∧
      s.delete ctx e tenantID provider d =
        (none, d.write (s.connOf ctx tenantID).pool tenantID provider none)) := by
  unfold delete
  split
  · exact .inl rfl
  · split
    · exact .inl rfl
    · exact .inl rfl
    · next conn hbind _ =>
      rw [bindTenantIfNeeded_ok hbind]
      split
      · next hown => exact .inr ⟨hown, rfl⟩
      · exact .inl rfl

end PgTokenStore

end Sn360Es.Onboarding
