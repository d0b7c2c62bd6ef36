import Mathlib.Data.List.Basic
import Sn360Es.Lib.Lease
import Sn360Es.Lib.Lts

/-!
# Connections that are bound to a tenant (`pkg/storage/postgres/tenant_context.go`, `postgres.go`)

`WithTenant` and `WithCrossTenant` take a connection out of the pool and set its two session settings, which the row
policy of `migrations/0018_row_level_security.up.sql` reads. The release resets them and gives the connection back. A
call whose context has no such connection runs on any idle one, a read on the replica where one is attached.

A statement that sets or resets may fail. It then leaves the settings as they are, and the connection goes back to the
pool all the same.

* `Inv` — a connection in a scope has the settings of the scope, and the others have none unless a reset has failed;
* `step_inv`, `step_isolated_iff` — one step;
* `isolated_iff` — which runs keep every statement within its tenant.
-/

namespace Sn360Es.Storage

open Lib

/-- The settings `sn360.tenant_id` and `sn360.cross_tenant` of a session. -/
structure Settings where
  tenantID : String := ""
  crossTenant : String := ""
  deriving DecidableEq, Repr

/-- The policy `tenant_isolation`, on the tenant of a row. -/
def Settings.admits (s : Settings) (row : String) : Bool :=
  (s.tenantID ≠ "" && row = s.tenantID) || s.crossTenant = "on"

/-- `RESET` of both settings, where each may fail. -/
def Settings.reset (s : Settings) (resetTenantErr resetCrossErr : Option String) : Settings where
  tenantID := if resetTenantErr.isSome then s.tenantID else ""
  crossTenant := if resetCrossErr.isSome then s.crossTenant else ""

inductive Scope where
  | tenant (tenantID : String)
  | crossTenant
  deriving DecidableEq, Repr

namespace Scope

/-- The settings that the scope binds. -/
def settings : Scope → Settings
  | tenant tenantID => { tenantID }
  | crossTenant => { crossTenant := "on" }

/-- The error of the release: first that of the scope's own setting. -/
def releaseError : Scope → (resetTenantErr resetCrossErr : Option String) → Option String
  | tenant _, resetTenantErr, resetCrossErr =>
    (resetTenantErr.map ("postgres: WithTenant: reset tenant_id GUC: " ++ ·)).or
      (resetCrossErr.map ("postgres: WithTenant: reset cross_tenant GUC: " ++ ·))
  | crossTenant, resetTenantErr, resetCrossErr =>
    (resetCrossErr.map ("postgres: WithCrossTenant: reset cross_tenant GUC: " ++ ·)).or
      (resetTenantErr.map ("postgres: WithCrossTenant: reset tenant_id GUC: " ++ ·))

/-- The reset of the setting that the scope has bound fails. -/
def leaks : Scope → (resetTenantErr resetCrossErr : Option String) → Bool
  | tenant _, resetTenantErr, _ => resetTenantErr.isSome
  | crossTenant, _, resetCrossErr => resetCrossErr.isSome

end Scope

/-! ### The pools -/

inductive Pool where
  | write
  | read
  deriving DecidableEq, Repr

structure Conn where
  pool : Pool
  n : ℕ
  deriving DecidableEq, Repr

/-- A statement that was executed: the scope of its context, and the settings that it has met. -/
structure Statement where
  scope : Option Scope
  settings : Settings
  deriving DecidableEq, Repr

/-- The connections, those that were never opened among them. A connection is held by a scope, or, outside any scope, by
a statement or a transaction. -/
structure PoolWorld where
  leases : Lease.Table ℕ Conn (Option Scope) := .new
  settings : Conn → Settings := fun _ => {}
  executed : List Statement := []
  /-- The last scope on the connection could not reset its own setting. -/
  unscrubbed : Conn → Bool := fun _ => false

namespace PoolWorld

variable (w : PoolWorld)

/-- The settings of a connection are replaced. -/
def set (conn : Conn) (s : Settings) : PoolWorld :=
  { w with settings := fun c => if c = conn then s else w.settings c }

def take (id : ℕ) (conn : Conn) (scope : Option Scope) : PoolWorld :=
  { w with leases := w.leases.take id conn scope }

def give (id : ℕ) (conn : Conn) : PoolWorld := { w with leases := w.leases.give id conn }

/-- A statement runs on a connection. -/
def execute (conn : Conn) (scope : Option Scope) : PoolWorld :=
  { w with executed := ⟨scope, w.settings conn⟩ :: w.executed }

end PoolWorld

/-! ### The wrapper -/

/-- `DB`, with a read replica or without. -/
structure DB where
  reader : Bool := false
  deriving DecidableEq, Repr

inductive Call where
  | execContext
  | queryContext
  | queryRowContext
  | beginTx
  deriving DecidableEq, Repr

namespace DB

variable (d : DB)

/-- The pool of a call whose context has no bound connection. -/
def pool : Call → Pool
  | .execContext | .beginTx => .write
  | .queryContext | .queryRowContext => if d.reader then .read else .write

/-- `WithTenant` and `WithCrossTenant` from the acquisition on: the connection of the context that is returned. -/
def bindScope (name gucs : String) (scope : Scope) (id : ℕ) (acquired : Except String ℕ) (setErr : Option String)
    (w : PoolWorld) : Except String Conn × PoolWorld :=
  match acquired, setErr with
  | .error err, _ => (.error ("postgres: " ++ name ++ ": acquire conn: " ++ err), w)
  -- the connection is closed, which gives it back to the pool
  | .ok _, some err => (.error ("postgres: " ++ name ++ ": set " ++ gucs ++ " GUCs: " ++ err), w)
  | .ok n, none => (.ok ⟨.write, n⟩, (w.set ⟨.write, n⟩ scope.settings).take id ⟨.write, n⟩ (some scope))

/-- `WithTenant`. -/
def withTenant (tenantID : String) (id : ℕ) (acquired : Except String ℕ) (setErr : Option String) (w : PoolWorld) :
    Except String Conn × PoolWorld :=
  if tenantID = "" then (.error "postgres: WithTenant: tenantID is empty", w)
  else bindScope "WithTenant" "tenant" (.tenant tenantID) id acquired setErr w

/-- `WithCrossTenant`. -/
def withCrossTenant (id : ℕ) (acquired : Except String ℕ) (setErr : Option String) (w : PoolWorld) :
    Except String Conn × PoolWorld :=
  bindScope "WithCrossTenant" "cross_tenant" .crossTenant id acquired setErr w

/-- The `ReleaseFunc` of a scope on a connection. -/
def release (scope : Scope) (id : ℕ) (conn : Conn) (resetTenantErr resetCrossErr : Option String) (w : PoolWorld) :
    Option String × PoolWorld :=
  (scope.releaseError resetTenantErr resetCrossErr,
    { (w.set conn ((w.settings conn).reset resetTenantErr resetCrossErr)).give id conn with
      unscrubbed := fun c => if c = conn then scope.leaks resetTenantErr resetCrossErr else w.unscrubbed c })

end DB

/-- A step of some goroutine. `id` names a scope, or a statement or transaction outside any scope, as long as it has its
connection. -/
inductive PoolOp where
  | withTenant (id : ℕ) (tenantID : String) (acquired : Except String ℕ) (setErr : Option String)
  | withCrossTenant (id : ℕ) (acquired : Except String ℕ) (setErr : Option String)
  | release (id : ℕ) (resetTenantErr resetCrossErr : Option String)
  /-- A statement through the context of a scope, or a further one of a transaction. -/
  | statement (id : ℕ)
  /-- A call through a context without a connection, which gets the connection `n` of its pool. -/
  | call (id : ℕ) (call : Call) (n : ℕ)
  /-- The end of the statement or of the transaction. -/
  | done (id : ℕ)
  deriving DecidableEq

/-- The pool hands out idle connections only. -/
def PoolWorld.hands (w : PoolWorld) (id : ℕ) (pool : Pool) (acquired : Except String ℕ) : Bool :=
  (w.leases.held id).isNone &&
    match acquired with
    | .error _ => true
    | .ok n => w.leases.free ⟨pool, n⟩

/-- One step. Without a connection, as after its release, a context runs nothing. -/
def DB.step (d : DB) (w : PoolWorld) : PoolOp → Option PoolWorld
  | .withTenant id tenantID acquired setErr =>
    if w.hands id .write acquired then some (DB.withTenant tenantID id acquired setErr w).2 else none
  | .withCrossTenant id acquired setErr =>
    if w.hands id .write acquired then some (DB.withCrossTenant id acquired setErr w).2 else none
  | .release id resetTenantErr resetCrossErr =>
    match w.leases.held id with
    | some (conn, some scope) => some (DB.release scope id conn resetTenantErr resetCrossErr w).2
    | _ => some w
  | .statement id =>
    match w.leases.held id with
    | some (conn, scope) => some (w.execute conn scope)
    | none => some w
  | .call id call n =>
    if w.hands id (d.pool call) (.ok n) then some ((w.take id ⟨d.pool call, n⟩ none).execute ⟨d.pool call, n⟩ none)
    else none
  | .done id =>
    match w.leases.held id with
    | some (conn, none) => some (w.give id conn)
    | _ => some w

/-! ### What a statement may see -/

/-- A statement of a tenant's scope is bound to that tenant alone, and one outside any scope to nothing: the policy
shows it no row. -/
def Statement.Isolated (e : Statement) : Prop :=
  match e.scope with
  | some (.tenant tenantID) => e.settings = { tenantID }
  | some .crossTenant => True
  | none => e.settings = {} ∧ ∀ row, e.settings.admits row = false

/-- A statement outside any scope is not given a connection that was not scrubbed. -/
def DB.Clean (d : DB) (w : PoolWorld) : PoolOp → Prop
  | .call _ call n => w.unscrubbed ⟨d.pool call, n⟩ = false
  | .statement id => ∀ l ∈ w.leases.held id, l.2 = none → w.unscrubbed l.1 = false
  | _ => True

instance (d : DB) (w : PoolWorld) : DecidablePred (d.Clean w) := fun op =>
  match op with
  | .call _ call n => inferInstanceAs (Decidable (w.unscrubbed ⟨d.pool call, n⟩ = false))
  | .statement id => inferInstanceAs (Decidable (∀ l ∈ w.leases.held id, l.2 = none → w.unscrubbed l.1 = false))
  | .withTenant .. | .withCrossTenant .. | .release .. | .done .. => inferInstanceAs (Decidable True)

/-- What a step can do: nothing, or one of the moves of a connection. Only statements outside any scope may be unclean.
-/
inductive Moves (d : DB) (w : PoolWorld) : PoolOp → PoolWorld → Prop where
  | idle {op : PoolOp} (hclean : d.Clean w op) : Moves d w op w
  | bind {op : PoolOp} {id : ℕ} {conn : Conn} {scope : Scope} (hclean : d.Clean w op) (hid : w.leases.held id = none)
      (hfree : w.leases.free conn = true) (hscope : scope ≠ .tenant "") :
      Moves d w op ((w.set conn scope.settings).take id conn (some scope))
  | release {id : ℕ} {conn : Conn} {scope : Scope} (resetTenantErr resetCrossErr : Option String)
      (hheld : w.leases.held id = some (conn, some scope)) :
      Moves d w (.release id resetTenantErr resetCrossErr)
        (DB.release scope id conn resetTenantErr resetCrossErr w).2
  | statement {id : ℕ} {conn : Conn} {scope : Option Scope} (hheld : w.leases.held id = some (conn, scope)) :
      Moves d w (.statement id) (w.execute conn scope)
  | call {id : ℕ} {call : Call} {n : ℕ} (hid : w.leases.held id = none) (hfree : w.leases.free ⟨d.pool call, n⟩ = true) :
      Moves d w (.call id call n) ((w.take id ⟨d.pool call, n⟩ none).execute ⟨d.pool call, n⟩ none)
  | done {id : ℕ} {conn : Conn} (hheld : w.leases.held id = some (conn, none)) : Moves d w (.done id) (w.give id conn)

/-- A connection in a scope has the settings of the scope. The others have none, but for those that were not scrubbed.
-/
structure Inv (w : PoolWorld) : Prop where
  exclusive : Lease.Exclusive w.leases
  bound : ∀ id conn scope, w.leases.held id = some (conn, some scope) →
    w.settings conn = scope.settings ∧ scope ≠ .tenant ""
  loose : ∀ conn, (∀ id scope, w.leases.held id ≠ some (conn, some scope)) →
    (w.settings conn = {} ↔ w.unscrubbed conn = false)

lemma Scope.reset_eq_empty {scope : Scope} (h : scope ≠ .tenant "") (resetTenantErr resetCrossErr : Option String) :
    scope.settings.reset resetTenantErr resetCrossErr = {} ↔ scope.leaks resetTenantErr resetCrossErr = false := by
  cases scope with
  | tenant tenantID =>
    have hne : tenantID ≠ "" := fun he => h (he ▸ rfl)
    cases resetTenantErr <;> simp [settings, Settings.reset, leaks, hne]
  | crossTenant =>
    cases resetCrossErr <;> simp [settings, Settings.reset, leaks]

lemma Statement.isolated_none {s : Settings} : (Statement.mk none s).Isolated ↔ s = {} := by
  constructor
  · exact And.left
  · rintro rfl
    refine ⟨rfl, fun row => ?_⟩
    simp [Settings.admits]

lemma Scope.isolated (scope : Scope) : (Statement.mk (some scope) scope.settings).Isolated := by
  cases scope with
  | tenant tenantID => rfl
  | crossTenant => trivial

section Steps

variable {d : DB} {w w' : PoolWorld} {id : ℕ} {conn : Conn} {scope : Scope}

lemma inv_new : Inv {} where
  exclusive := Lease.exclusive_new
  bound _ _ _ h := by cases h
  loose _ _ := ⟨fun _ => rfl, fun _ => rfl⟩

lemma Inv.execute (h : Inv w) (scope : Option Scope) : Inv (w.execute conn scope) :=
  ⟨h.exclusive, h.bound, h.loose⟩

/-- A scope that binds its settings. -/
lemma Inv.take_scope (h : Inv w) (hid : w.leases.held id = none) (hfree : w.leases.free conn = true)
    (hscope : scope ≠ .tenant "") : Inv ((w.set conn scope.settings).take id conn (some scope)) where
  exclusive := h.exclusive.take hfree
  bound id' conn' scope' hheld := by
    obtain ⟨-, rfl, heq⟩ | ⟨-, hne, hold⟩ := h.exclusive.held_take hfree hheld
    · obtain rfl := Option.some.inj heq
      exact ⟨if_pos rfl, hscope⟩
    · obtain ⟨hset, hvalid⟩ := h.bound id' conn' scope' hold
      exact ⟨(if_neg hne).trans hset, hvalid⟩
  loose c hc := by
    have hne : c ≠ conn := by
      rintro rfl
      exact hc id scope (if_pos rfl)
    have hold : w.settings c = {} ↔ w.unscrubbed c = false := by
      refine h.loose c fun id' scope' hheld => hc id' scope' ?_
      have hid' : id' ≠ id := by
        rintro rfl
        rw [hid] at hheld
        cases hheld
      exact (if_neg hid').trans hheld
    show (if c = conn then scope.settings else w.settings c) = {} ↔ w.unscrubbed c = false
    rw [if_neg hne]
    exact hold

/-- A connection outside any scope. -/
lemma Inv.take_none (h : Inv w) (hid : w.leases.held id = none) (hfree : w.leases.free conn = true) :
    Inv (w.take id conn none) where
  exclusive := h.exclusive.take hfree
  bound id' conn' scope' hheld := by
    obtain ⟨-, -, heq⟩ | ⟨-, -, hold⟩ := h.exclusive.held_take hfree hheld
    · cases heq
    · exact h.bound id' conn' scope' hold
  loose c hc := by
    refine h.loose c fun id' scope' hheld => hc id' scope' ?_
    have hid' : id' ≠ id := by
      rintro rfl
      rw [hid] at hheld
      cases hheld
    exact (if_neg hid').trans hheld

lemma Inv.give_none (h : Inv w) (hheld : w.leases.held id = some (conn, none)) : Inv (w.give id conn) where
  exclusive := h.exclusive.give hheld
  bound id' conn' scope' hheld' := by
    obtain ⟨-, -, hold⟩ := h.exclusive.held_give hheld hheld'
    exact h.bound id' conn' scope' hold
  loose c hc := by
    refine h.loose c fun id' scope' hheld' => hc id' scope' ?_
    have hid' : id' ≠ id := by
      rintro rfl
      rw [hheld] at hheld'
      cases hheld'
    exact (if_neg hid').trans hheld'

lemma Inv.release (h : Inv w) (hheld : w.leases.held id = some (conn, some scope))
    (resetTenantErr resetCrossErr : Option String) :
    Inv (DB.release scope id conn resetTenantErr resetCrossErr w).2 where
  exclusive := h.exclusive.give hheld
  bound id' conn' scope' hheld' := by
    obtain ⟨-, hne, hold⟩ := h.exclusive.held_give hheld hheld'
    obtain ⟨hset, hvalid⟩ := h.bound id' conn' scope' hold
    exact ⟨(if_neg hne).trans hset, hvalid⟩
  loose c hc := by
    show (if c = conn then (w.settings conn).reset resetTenantErr resetCrossErr else w.settings c) = {} ↔
      (if c = conn then scope.leaks resetTenantErr resetCrossErr else w.unscrubbed c) = false
    by_cases hne : c = conn
    · obtain ⟨hset, hvalid⟩ := h.bound id conn scope hheld
      rw [if_pos hne, if_pos hne, hset]
      exact Scope.reset_eq_empty hvalid resetTenantErr resetCrossErr
    · rw [if_neg hne, if_neg hne]
      refine h.loose c fun id' scope' hheld' => hc id' scope' ?_
      have hid' : id' ≠ id := by
        rintro rfl
        rw [hheld] at hheld'
        exact hne (Prod.mk.inj (Option.some.inj hheld')).1.symm
      exact (if_neg hid').trans hheld'

lemma hands_ok {pool : Pool} {n : ℕ} (h : w.hands id pool (.ok n) = true) :
    w.leases.held id = none ∧ w.leases.free ⟨pool, n⟩ = true := by
  obtain ⟨hheld, hfree⟩ := Bool.and_eq_true_iff.mp h
  exact ⟨Option.isNone_iff_eq_none.mp hheld, hfree⟩

/-- **What binding a scope does**: nothing, or it takes the connection with the settings of the scope. -/
lemma bindScope_cases (name gucs : String) (scope : Scope) (id : ℕ) (acquired : Except String ℕ)
    (setErr : Option String) (w : PoolWorld) :
    (DB.bindScope name gucs scope id acquired setErr w).2 = w ∨
    ∃ n, acquired = .ok n ∧ (DB.bindScope name gucs scope id acquired setErr w).2 =
      (w.set ⟨.write, n⟩ scope.settings).take id ⟨.write, n⟩ (some scope) := by
  unfold DB.bindScope
  split
  · exact .inl rfl
  · exact .inl rfl
  · next n => exact .inr ⟨n, rfl, rfl⟩

lemma moves_bindScope {op : PoolOp} (hscope : scope ≠ .tenant "") (name gucs : String) {acquired : Except String ℕ}
    (setErr : Option String) (hhands : w.hands id .write acquired = true) (hclean : d.Clean w op) :
    Moves d w op (DB.bindScope name gucs scope id acquired setErr w).2 := by
  obtain heq | ⟨n, rfl, heq⟩ := bindScope_cases name gucs scope id acquired setErr w
  · rw [heq]
    exact .idle hclean
  · rw [heq]
    obtain ⟨hid, hfree⟩ := hands_ok hhands
    exact .bind hclean hid hfree hscope

/-- **The inversion of a step.** -/
lemma step_moves {op : PoolOp} (hstep : d.step w op = some w') : Moves d w op w' := by
  cases op with
  | withTenant id tenantID acquired setErr =>
    simp only [DB.step] at hstep
    split at hstep
    · next hhands =>
      obtain rfl := Option.some.inj hstep
      unfold DB.withTenant
      split
      · exact .idle trivial
      · next hne =>
        refine moves_bindScope (fun he => hne ?_) _ _ setErr hhands trivial
        exact Scope.tenant.inj he
    · cases hstep
  | withCrossTenant id acquired setErr =>
    simp only [DB.step] at hstep
    split at hstep
    · next hhands =>
      obtain rfl := Option.some.inj hstep
      exact moves_bindScope (by simp) _ _ setErr hhands trivial
    · cases hstep
  | release id resetTenantErr resetCrossErr =>
    simp only [DB.step] at hstep
    split at hstep
    · next hheld =>
      obtain rfl := Option.some.inj hstep
      exact .release resetTenantErr resetCrossErr hheld
    · obtain rfl := Option.some.inj hstep
      exact .idle trivial
  | statement id =>
    simp only [DB.step] at hstep
    split at hstep
    · next hheld =>
      obtain rfl := Option.some.inj hstep
      exact .statement hheld
    · next hheld =>
      obtain rfl := Option.some.inj hstep
      refine .idle fun l hl => ?_
      rw [hheld] at hl
      cases hl
  | call id call n =>
    simp only [DB.step] at hstep
    split at hstep
    · next hhands =>
      obtain rfl := Option.some.inj hstep
      obtain ⟨hid, hfree⟩ := hands_ok hhands
      exact .call hid hfree
    · cases hstep
  | done id =>
    simp only [DB.step] at hstep
    split at hstep
    · next hheld =>
      obtain rfl := Option.some.inj hstep
      exact .done hheld
    · obtain rfl := Option.some.inj hstep
      exact .idle trivial

/-- **One step** keeps the invariant. -/
lemma step_inv {op : PoolOp} (h : Inv w) (hstep : d.step w op = some w') : Inv w' := by
  cases step_moves hstep with
  | idle => exact h
  | bind _ hid hfree hscope => exact h.take_scope hid hfree hscope
  | release resetTenantErr resetCrossErr hheld => exact h.release hheld resetTenantErr resetCrossErr
  | statement => exact h.execute _
  | call hid hfree => exact (h.take_none hid hfree).execute none
  | done hheld => exact h.give_none hheld

/-- A statement outside any scope is isolated on a connection that was scrubbed. -/
lemma Inv.isolated_none (h : Inv w) (hloose : ∀ id scope, w.leases.held id ≠ some (conn, some scope)) :
    (Statement.mk none (w.settings conn)).Isolated ↔ w.unscrubbed conn = false :=
  Statement.isolated_none.trans (h.loose conn hloose)

/-- A connection that is free, or held outside any scope, is in no scope. -/
lemma Inv.loose_of_free (h : Inv w) (hfree : w.leases.free conn = true) (id : ℕ) (scope : Scope) :
    w.leases.held id ≠ some (conn, some scope) := by
  intro hheld
  have hbusy := h.exclusive.busy _ _ _ hheld
  rw [hfree] at hbusy
  cases hbusy

lemma Inv.loose_of_none (h : Inv w) (hheld : w.leases.held id = some (conn, none)) (id' : ℕ) (scope : Scope) :
    w.leases.held id' ≠ some (conn, some scope) := by
  intro hheld'
  obtain rfl := h.exclusive.alone _ _ _ _ _ hheld hheld'
  rw [hheld] at hheld'
  cases hheld'

/-- Every statement that was executed is isolated. -/
def PoolWorld.Isolated (w : PoolWorld) : Prop := ∀ e ∈ w.executed, e.Isolated

/-- **One step** executes no statement that is not isolated, exactly if it is clean. -/
lemma step_isolated_iff {op : PoolOp} (h : Inv w) (hstep : d.step w op = some w') :
    w'.Isolated ↔ w.Isolated ∧ d.Clean w op := by
  cases step_moves hstep with
  | idle hclean => exact (and_iff_left hclean).symm
  | bind hclean => exact (and_iff_left hclean).symm
  | release => exact (and_iff_left trivial).symm
  | done => exact (and_iff_left trivial).symm
  | @statement id conn scope hheld =>
    have hcons : (w.execute conn scope).Isolated ↔ (Statement.mk scope (w.settings conn)).Isolated ∧ w.Isolated :=
      List.forall_mem_cons
    rw [hcons, and_comm]
    refine and_congr_right fun _ => ?_
    cases scope with
    | none =>
      rw [h.isolated_none (h.loose_of_none hheld)]
      constructor
      · intro hscrubbed l hl _
        obtain rfl := Option.some.inj (hheld.symm.trans hl)
        exact hscrubbed
      · exact fun hclean => hclean (conn, none) hheld rfl
    | some scope =>
      rw [(h.bound id conn scope hheld).1]
      refine iff_of_true scope.isolated fun l hl hnone => ?_
      obtain rfl := Option.some.inj (hheld.symm.trans hl)
      cases hnone
  | @call id call n hid hfree =>
    have hcons : ((w.take id ⟨d.pool call, n⟩ none).execute ⟨d.pool call, n⟩ none).Isolated ↔
        (Statement.mk none (w.settings ⟨d.pool call, n⟩)).Isolated ∧ w.Isolated := List.forall_mem_cons
    rw [hcons, and_comm, h.isolated_none (h.loose_of_free hfree)]
    exact Iff.rfl

/-- Every statement of a scope is isolated. -/
def PoolWorld.Scoped (w : PoolWorld) : Prop := ∀ e ∈ w.executed, e.scope ≠ none → e.Isolated

/-- **One step** in a scope is isolated in any case. -/
lemma step_scoped {op : PoolOp} (h : Inv w) (hw : w.Scoped) (hstep : d.step w op = some w') : w'.Scoped := by
  cases step_moves hstep with
  | idle => exact hw
  | bind => exact hw
  | release => exact hw
  | done => exact hw
  | @statement id conn scope hheld =>
    refine List.forall_mem_cons.mpr ⟨fun hscope => ?_, hw⟩
    cases scope with
    | none => exact absurd rfl hscope
    | some scope =>
      show (Statement.mk (some scope) (w.settings conn)).Isolated
      rw [(h.bound id conn scope hheld).1]
      exact scope.isolated
  | call => exact List.forall_mem_cons.mpr ⟨fun hscope => absurd rfl hscope, hw⟩

end Steps

/-! ### Whole runs -/

section Runs

variable {d : DB} {ops : List PoolOp} {w : PoolWorld}

lemma run_inv (hrun : Lts.run d.step {} ops = some w) : Inv w :=
  Lts.reach_induct (fun _ _ _ => step_inv) inv_new ⟨ops, hrun⟩

lemma run_scoped (hrun : Lts.run d.step {} ops = some w) : w.Scoped := by
  have h : Inv w ∧ w.Scoped :=
    Lts.reach_induct (I := fun w => Inv w ∧ w.Scoped)
      (fun s op s' hs hstep => ⟨step_inv hs.1 hstep, step_scoped hs.1 hs.2 hstep⟩)
      ⟨inv_new, fun _ he => absurd he List.not_mem_nil⟩ ⟨ops, hrun⟩
  exact h.2

/-- **Isolation on pooled connections.** In every run, a statement in the scope of a tenant is bound to that tenant
alone. All the statements are isolated exactly if none outside a scope is given a connection whose last scope could not
reset its setting. -/
theorem isolated_iff (hrun : Lts.run d.step {} ops = some w) :
    (∀ e ∈ w.executed, ∀ tenantID, e.scope = some (.tenant tenantID) → e.settings = { tenantID }) ∧
    (w.Isolated ↔ Lts.Meets d.step d.Clean {} ops) := by
  constructor
  · intro e he tenantID hscope
    have hisolated := run_scoped hrun e he (by simp [hscope])
    rw [Statement.Isolated, hscope] at hisolated
    exact hisolated
  · have hnew : PoolWorld.Isolated {} := fun _ he => absurd he List.not_mem_nil
    rw [Lts.run_iff (fun _ _ _ => step_inv) (fun _ _ _ => step_isolated_iff) inv_new hrun]
    exact and_iff_right hnew

/-- The operation is no release, or resets both settings. -/
def PoolOp.Resets : PoolOp → Prop
  | release _ resetTenantErr resetCrossErr => resetTenantErr = none ∧ resetCrossErr = none
  | _ => True

lemma step_scrubbed {w w' : PoolWorld} {op : PoolOp} (hw : ∀ conn, w.unscrubbed conn = false) (hop : op.Resets)
    (hstep : d.step w op = some w') : ∀ conn, w'.unscrubbed conn = false := by
  intro c
  cases step_moves hstep with
  | idle => exact hw c
  | bind => exact hw c
  | statement => exact hw c
  | call => exact hw c
  | done => exact hw c
  | @release id conn scope resetTenantErr resetCrossErr hheld =>
    obtain ⟨rfl, rfl⟩ := hop
    show (if c = conn then scope.leaks none none else w.unscrubbed c) = false
    split
    · cases scope <;> rfl
    · exact hw c

/-- As long as no reset fails, every statement is isolated. -/
theorem isolated_of_resets (hrun : Lts.run d.step {} ops = some w) (hops : ∀ op ∈ ops, op.Resets) : w.Isolated := by
  have h : Inv w ∧ (∀ conn, w.unscrubbed conn = false) ∧ w.Isolated := by
    refine Lts.run_induct (C := fun _ op => op.Resets)
      (I := fun w => Inv w ∧ (∀ conn, w.unscrubbed conn = false) ∧ w.Isolated) ?_
      ⟨inv_new, fun _ => rfl, fun _ he => absurd he List.not_mem_nil⟩ (Lts.meets_of_forall _ hops) hrun
    rintro s op s' ⟨hinv, hscrubbed, hisolated⟩ hop hstep
    refine ⟨step_inv hinv hstep, step_scrubbed hscrubbed hop hstep,
      (step_isolated_iff hinv hstep).mpr ⟨hisolated, ?_⟩⟩
    cases op with
    | call id call n => exact hscrubbed _
    | statement id => exact fun l _ _ => hscrubbed l.1
    | _ => trivial
  exact h.2.2

end Runs

section Samples

/-- The reset of a scope fails, and a statement outside any scope gets its connection. -/
def leakyOps : List PoolOp :=
  [.withTenant 0 "acme" (.ok 0) none, .statement 0, .release 0 (some "context deadline exceeded") none,
    .call 1 .execContext 0, .done 1]

/-- **The failing input**: a statement outside any scope sees the rows of a tenant. -/
theorem unscrubbed_conn_leaks : ∃ w, Lts.run ({} : DB).step {} leakyOps = some w ∧
    (∃ e ∈ w.executed, e.scope = none ∧ e.settings.admits "acme" = true) ∧ ¬ w.Isolated := by
  refine ⟨_, rfl, ⟨⟨none, { tenantID := "acme" }⟩, ?_, rfl, by decide⟩, fun h => ?_⟩
  · exact List.mem_cons_self
  · exact absurd (h _ List.mem_cons_self).1 (by decide)

/-- The same run, with a scope between that is released. -/
def scrubbedOps : List PoolOp :=
  [.withTenant 0 "acme" (.ok 0) none, .release 0 (some "context deadline exceeded") none,
    .withCrossTenant 0 (.ok 0) none, .statement 0, .release 0 none none, .call 1 .execContext 0, .done 1]

theorem scrubbed_conn_isolated : ∃ w, Lts.run ({} : DB).step {} scrubbedOps = some w ∧ w.executed.length = 2 ∧
    w.Isolated := by
  have hrun : Lts.run ({} : DB).step {} scrubbedOps = some _ := rfl
  refine ⟨_, hrun, rfl, (isolated_iff hrun).2.mpr ?_⟩
  decide

end Samples

end Sn360Es.Storage
