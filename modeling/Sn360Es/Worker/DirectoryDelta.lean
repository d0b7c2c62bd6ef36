import Sn360Es.Lib.Lts
import Sn360Es.Worker.DirectorySync

/-!
# Changes of a directory (`internal/service/worker/directory_sync_worker.go`)

The directory of a tenant changes, and `syncTenant` runs from time to time. The delta call of the provider reports the
users that have changed since the token it was given, and `fetchUsers` stores the token it returns before `syncTenant`
has done anything with the users: a cycle that fails after that has lost them for the next one.

* `DeltaDirectory` — a provider whose delta call returns exactly the users that changed since a token;
* `Covered` — the invariant: what the next delta will not report is stored;
* `sync_loses_no_change` — so a cycle without a failure leaves every user stored as they are, if every cycle before it
  that moved the token stored what its delta reported.
-/

namespace Sn360Es.Worker

open Lib Agent

/-! ### Directories -/

/-- The record of a user after a history of changes: the last one with its id. -/
def Current (log : List DiscoveredUser) (u : DiscoveredUser) : Prop := log.reverse.find? (·.id = u.id) = some u

instance (log : List DiscoveredUser) (u : DiscoveredUser) : Decidable (Current log u) :=
  inferInstanceAs (Decidable (_ = _))

lemma Current.mem {log : List DiscoveredUser} {u : DiscoveredUser} (h : Current log u) : u ∈ log :=
  List.mem_reverse.mp (List.mem_of_find?_eq_some h)

lemma current_concat {log : List DiscoveredUser} {c u : DiscoveredUser} :
    Current (log ++ [c]) u ↔ if c.id = u.id then c = u else Current log u := by
  unfold Current
  rw [List.reverse_append, List.reverse_singleton, List.singleton_append, List.find?_cons]
  by_cases h : c.id = u.id
  · simp [h]
  · simp [h]

/-- A provider: `ListUsers`, and `ListUsersDelta` with the next token, as functions of the history. Without a token a
delta is complete; with one that the provider has returned it has the users that have changed since. -/
structure DeltaDirectory where
  listUsers : List DiscoveredUser → List DiscoveredUser
  listUsersDelta : List DiscoveredUser → String → List DiscoveredUser × String
  mem_listUsers : ∀ {log u}, u ∈ listUsers log ↔ Current log u
  mem_listUsersDelta_start : ∀ {log u}, u ∈ (listUsersDelta log "").1 ↔ Current log u
  mem_listUsersDelta : ∀ {log log' token u}, (listUsersDelta log token).2 ≠ "" →
    (u ∈ (listUsersDelta (log ++ log') (listUsersDelta log token).2).1 ↔
      Current (log ++ log') u ∧ ∃ v ∈ log', v.id = u.id)

/-- The answers of a provider, where the calls do not fail. -/
def DeltaDirectory.answers (dir : DeltaDirectory) (log : List DiscoveredUser) (env : SyncEnv) : SyncEnv :=
  { env with
    iamCoreUsers := env.iamCoreUsers.map fun _ => dir.listUsers log
    listUsers := env.listUsers.map fun _ => dir.listUsers log
    listUsersDelta := fun token => (env.listUsersDelta token).map fun _ => dir.listUsersDelta log token }

/-- The rows and tokens, and the changes of the directory of every tenant, oldest first. -/
structure DirectoryWorld where
  sync : SyncWorld := {}
  log : String → List DiscoveredUser := fun _ => []

inductive DirectoryLabel where
  | change (tenantID : String) (u : DiscoveredUser)
  | cycle (tenantID : String) (env : SyncEnv)

/-- An address is taken by one user at a time, and the hash tells addresses apart. -/
def Admits (job : DirectorySyncJob) (tenantID : String) (log : List DiscoveredUser) (c : DiscoveredUser) : Prop :=
  ∀ v ∈ log, Current log v → v.id ≠ c.id → job.hasher tenantID v.email ≠ job.hasher tenantID c.email

instance (job : DirectorySyncJob) (tenantID : String) (log : List DiscoveredUser) (c : DiscoveredUser) :
    Decidable (Admits job tenantID log c) :=
  inferInstanceAs (Decidable (∀ v ∈ log, _))

section System

variable (dir : DeltaDirectory) (job : DirectorySyncJob)

def directoryStep (w : DirectoryWorld) : DirectoryLabel → Option DirectoryWorld
  | .change tenantID u =>
    if Admits job tenantID (w.log tenantID) u then
      some { w with log := Function.update w.log tenantID (w.log tenantID ++ [u]) }
    else none
  | .cycle tenantID env =>
    some { w with sync := (job.syncTenant (dir.answers (w.log tenantID) env) tenantID w.sync).2.1 }

/-- There is a row for a user, with the role and the department that they have. -/
def StoredAs (users : List User) (tenantID : String) (u : DiscoveredUser) : Prop :=
  ∃ row, findUser users tenantID (job.hasher tenantID u.email) = some row ∧ row.role = u.jobTitle ∧
    row.department = u.department

/-- A cycle succeeds in every step that stores users. -/
def Succeeds (w : DirectoryWorld) (tenantID : String) (env : SyncEnv) : Prop :=
  ∃ g, (job.gather (dir.answers (w.log tenantID) env) tenantID w.sync).1 = .ok g ∧
    ∀ i u, g.users[i]? = some u → job.Stores env tenantID i u

/-- A cycle that succeeds leaves no user out. -/
def LosesNoChange (w : DirectoryWorld) : DirectoryLabel → Prop
  | .change _ _ => True
  | .cycle tenantID env => Succeeds dir job w tenantID env →
      ∀ u, Current (w.log tenantID) u →
        StoredAs job (job.syncTenant (dir.answers (w.log tenantID) env) tenantID w.sync).2.1.users tenantID u

/-- The cycle makes a delta call that succeeds. -/
def CallsDelta (w : SyncWorld) (tenantID : String) (env : SyncEnv) : Prop :=
  job.source = .native ∧ job.deltaSyncCapable ∧ job.syncCheckpoints ∧
    (env.listUsersDelta (job.deltaToken env tenantID w)).isOk

/-- The condition on a cycle: if it moves the token and its delta has users, it stores them. -/
def StoresDelta (w : DirectoryWorld) : DirectoryLabel → Prop
  | .change _ _ => True
  | .cycle tenantID env =>
    let delta := dir.listUsersDelta (w.log tenantID) (job.deltaToken env tenantID w.sync)
    CallsDelta job w.sync tenantID env → delta.2 ≠ "" → env.checkpointUpsert = none → delta.1 ≠ [] →
      env.listGroups.isOk ∧ env.nativeUsers.isOk ∧ env.listExisting = none ∧
        ∀ i u, delta.1[i]? = some u → job.Stores env tenantID i u

end System

/-! ### Upserts of current users -/

section Upserts

variable {job : DirectorySyncJob} {env : SyncEnv} {tenantID : String} {users existing : List User}
  {classes : List (DiscoveredUser × ClassifyResult)} {log : List DiscoveredUser} {i : ℕ} {u v : DiscoveredUser}
  {us : List DiscoveredUser}

/-- No two users of the directory have one address. -/
def Unique (job : DirectorySyncJob) (tenantID : String) (log : List DiscoveredUser) : Prop :=
  ∀ u v, Current log u → Current log v → job.hasher tenantID u.email = job.hasher tenantID v.email → u = v

/-- The row that an upsert leaves has what the directory says. -/
lemma storedAs_of_stores (hs : job.Stores env tenantID i u) :
    StoredAs job (job.upsertUser env tenantID classes i u users).2 tenantID u := by
  unfold StoredAs
  rw [DirectorySyncJob.findUser_upsertUser, if_pos ⟨hs, rfl, rfl⟩]
  refine ⟨_, rfl, ?_⟩
  cases findUser users tenantID (job.hasher tenantID u.email) with
  | none => exact ⟨rfl, rfl⟩
  | some old =>
    simp only [Option.map_some, Option.getD_some]
    cases job.users
    · exact ⟨rfl, rfl⟩
    · exact ⟨rfl, rfl⟩

/-- **One upsert** of a current user leaves the others as they are. -/
lemma StoredAs.upsertUser (hunique : Unique job tenantID log) (hu : Current log u) (hv : Current log v)
    (h : StoredAs job users tenantID u) :
    StoredAs job (job.upsertUser env tenantID classes i v users).2 tenantID u := by
  by_cases hs : job.Stores env tenantID i v ∧ job.hasher tenantID v.email = job.hasher tenantID u.email
  · obtain rfl := hunique v u hv hu hs.2
    exact storedAs_of_stores hs.1
  · unfold StoredAs
    rw [DirectorySyncJob.findUser_upsertUser, if_neg fun hand => hs ⟨hand.1, hand.2.2⟩]
    exact h

/-- **The loop over current users**: who is stored stays so, and who is upserted is stored. -/
lemma storedAs_upsertUsers (hunique : Unique job tenantID log) (hus : ∀ v ∈ us, Current log v) (hu : Current log u)
    (h : StoredAs job users tenantID u ∨ ∃ n, us[n]? = some u ∧ job.Stores env tenantID (i + n) u) :
    StoredAs job (job.upsertUsers env tenantID existing classes i us users).1 tenantID u := by
  induction us generalizing i users with
  | nil =>
    rcases h with h | ⟨n, hn, -⟩
    · exact h
    · cases hn
  | cons v us ih =>
    rw [DirectorySyncJob.upsertUsers_cons]
    have hv := hus v List.mem_cons_self
    refine ih (fun v' hv' => hus v' (List.mem_cons_of_mem _ hv')) ?_
    rcases h with h | ⟨n, hn, hs⟩
    · exact .inl (h.upsertUser hunique hu hv)
    · cases n with
      | zero =>
        cases hn
        exact .inl (storedAs_of_stores hs)
      | succ n => exact .inr ⟨n, hn, by rwa [Nat.add_assoc, Nat.add_comm 1 n]⟩

end Upserts

/-! ### What a cycle fetches -/

section Fetch

variable {dir : DeltaDirectory} {job : DirectorySyncJob} {env : SyncEnv} {tenantID : String}
  {log : List DiscoveredUser} {w : SyncWorld}

variable (dir job env tenantID log w) in
/-- **What `fetchUsers` can do** with the answers of a provider. -/
lemma fetchUsers_cases :
    (∃ err, job.fetchUsers (dir.answers log env) tenantID w = (.error err, w)) ∨
      (∃ full, job.fetchUsers (dir.answers log env) tenantID w = (.ok (dir.listUsers log, full), w)) ∨
      CallsDelta job w tenantID env ∧
        ((dir.listUsersDelta log (job.deltaToken env tenantID w)).2 ≠ "" ∧ env.checkpointUpsert = none ∧
            job.fetchUsers (dir.answers log env) tenantID w =
              (.ok ((dir.listUsersDelta log (job.deltaToken env tenantID w)).1, false),
                w.setCheckpoint tenantID job.provider (dir.listUsersDelta log (job.deltaToken env tenantID w)).2) ∨
          job.fetchUsers (dir.answers log env) tenantID w =
            (.ok ((dir.listUsersDelta log (job.deltaToken env tenantID w)).1, false), w)) := by
  have hfull : (∃ err, (env.listUsers.map fun _ => dir.listUsers log).map (·, true) = .error err) ∨
      (env.listUsers.map fun _ => dir.listUsers log).map (·, true) = .ok (dir.listUsers log, true) := by
    cases env.listUsers with
    | error err => exact .inl ⟨err, rfl⟩
    | ok us => exact .inr rfl
  unfold DirectorySyncJob.fetchUsers
  cases hsource : job.source with
  | iamCore =>
    cases hiam : env.iamCoreUsers with
    | error err => exact .inl ⟨err, by simp only [DeltaDirectory.answers, hiam]; rfl⟩
    | ok us => exact .inr (.inl ⟨false, by simp only [DeltaDirectory.answers, hiam]; rfl⟩)
  | native =>
    by_cases hdelta : (!job.deltaSyncCapable || !job.syncCheckpoints) = true
    · simp only [if_pos hdelta]
      rcases hfull with ⟨err, herr⟩ | hok
      · exact .inl ⟨err, Prod.ext herr rfl⟩
      · exact .inr (.inl ⟨true, Prod.ext hok rfl⟩)
    simp only [if_neg hdelta]
    have hcapable : job.deltaSyncCapable = true ∧ job.syncCheckpoints = true := by simpa using hdelta
    have hanswer : (dir.answers log env).listUsersDelta (job.deltaToken (dir.answers log env) tenantID w) =
        (env.listUsersDelta (job.deltaToken env tenantID w)).map
          fun _ => dir.listUsersDelta log (job.deltaToken env tenantID w) := rfl
    rw [hanswer]
    cases hcall : env.listUsersDelta (job.deltaToken env tenantID w) with
    | error err =>
      rcases hfull with ⟨err, herr⟩ | hok
      · exact .inl ⟨err, Prod.ext herr rfl⟩
      · exact .inr (.inl ⟨true, Prod.ext hok rfl⟩)
    | ok r =>
      refine .inr (.inr ⟨⟨hsource, hcapable.1, hcapable.2, by rw [hcall]; rfl⟩, ?_⟩)
      show _ ∨ (if (dir.listUsersDelta log (job.deltaToken env tenantID w)).2 ≠ "" ∧ env.checkpointUpsert = none then
        _ else _) = _
      by_cases hmoves : (dir.listUsersDelta log (job.deltaToken env tenantID w)).2 ≠ "" ∧ env.checkpointUpsert = none
      · exact .inl ⟨hmoves.1, hmoves.2, if_pos hmoves⟩
      · exact .inr (if_neg hmoves)

lemma gather_ok {env : SyncEnv} {g : DirectorySyncJob.Gathered} (h : (job.gather env tenantID w).1 = .ok g) :
    ∃ full, (job.fetchUsers env tenantID w).1 = .ok (g.users, full) := by
  unfold DirectorySyncJob.gather at h
  rcases hf : job.fetchUsers env tenantID w with ⟨err | ⟨users, full⟩, w'⟩
  · rw [hf] at h
    cases h
  · rw [hf] at h
    simp only at h
    split at h
    · cases h
    split at h
    · cases h
    split at h
    · cases h
    · cases h
      exact ⟨full, rfl⟩

lemma gather_of_ok {env : SyncEnv} {users : List DiscoveredUser}
    (h : (job.fetchUsers env tenantID w).1 = .ok (users, false)) (hgroups : env.listGroups.isOk)
    (hnative : env.nativeUsers.isOk) (hexisting : env.listExisting = none) :
    ∃ g, (job.gather env tenantID w).1 = .ok g ∧ g.users = users := by
  unfold DirectorySyncJob.gather
  rcases hf : job.fetchUsers env tenantID w with ⟨r, w'⟩
  rw [hf] at h
  cases h
  cases hg : env.listGroups with
  | error err =>
    rw [hg] at hgroups
    cases hgroups
  | ok groups =>
    cases hn : env.nativeUsers with
    | error err =>
      rw [hn] at hnative
      cases hnative
    | ok native =>
      simp only [hexisting, Bool.false_eq_true, if_false]
      exact ⟨_, rfl, rfl⟩

/-- The tokens after a cycle are those that `fetchUsers` leaves. -/
lemma syncTenant_checkpoints {env : SyncEnv} :
    (job.syncTenant env tenantID w).2.1.checkpoints = (job.fetchUsers env tenantID w).2.checkpoints := by
  rw [← DirectorySyncJob.gather_world]
  unfold DirectorySyncJob.syncTenant
  rcases job.gather env tenantID w with ⟨err | g, w'⟩
  · rfl
  · rfl

end Fetch

/-! ### The invariant -/

section Invariant

variable {dir : DeltaDirectory} {job : DirectorySyncJob} {w w' : DirectoryWorld} {tenantID t : String} {env : SyncEnv}
  {u : DiscoveredUser}

variable (dir job) in
/-- What the next delta of a tenant will not report is stored: the users that have not changed since its token. -/
structure Covered (w : DirectoryWorld) (tenantID : String) : Prop where
  unique : Unique job tenantID (w.log tenantID)
  stored : ∀ token, w.sync.checkpoints tenantID job.provider = some token → token ≠ "" ∧
    ∃ log log' token', w.log tenantID = log ++ log' ∧ token = (dir.listUsersDelta log token').2 ∧
      ∀ u, Current (w.log tenantID) u → (∀ v ∈ log', v.id ≠ u.id) → StoredAs job w.sync.users tenantID u

variable (job w tenantID env) in
/-- The token of a cycle is one that the provider has returned, or there is none. -/
lemma deltaToken_cases : job.deltaToken env tenantID w.sync = "" ∨
    w.sync.checkpoints tenantID job.provider = some (job.deltaToken env tenantID w.sync) := by
  unfold DirectorySyncJob.deltaToken
  split
  · cases w.sync.checkpoints tenantID job.provider with
    | none => exact .inl rfl
    | some token => exact .inr rfl
  · exact .inl rfl

variable (env) in
/-- **What a delta reports** is current, and all that is not stored. -/
lemma Covered.delta (h : Covered dir job w tenantID) :
    (∀ u ∈ (dir.listUsersDelta (w.log tenantID) (job.deltaToken env tenantID w.sync)).1, Current (w.log tenantID) u) ∧
      ∀ u, Current (w.log tenantID) u →
        u ∈ (dir.listUsersDelta (w.log tenantID) (job.deltaToken env tenantID w.sync)).1 ∨
          StoredAs job w.sync.users tenantID u := by
  rcases deltaToken_cases job w tenantID env with hstart | htoken
  · rw [hstart]
    exact ⟨fun u hu => dir.mem_listUsersDelta_start.mp hu, fun u hu => .inl (dir.mem_listUsersDelta_start.mpr hu)⟩
  · obtain ⟨hne, log, log', token', hlog, heq, hstored⟩ := h.stored _ htoken
    rw [heq] at hne
    rw [heq]
    have hmem : ∀ u, u ∈ (dir.listUsersDelta (w.log tenantID) (dir.listUsersDelta log token').2).1 ↔
        Current (w.log tenantID) u ∧ ∃ v ∈ log', v.id = u.id := by
      intro u
      rw [hlog]
      exact dir.mem_listUsersDelta hne
    refine ⟨fun u hu => ((hmem u).mp hu).1, fun u hu => ?_⟩
    by_cases hchanged : ∃ v ∈ log', v.id = u.id
    · exact .inl ((hmem u).mpr ⟨hu, hchanged⟩)
    · refine .inr (hstored u hu fun v hv hid => hchanged ⟨v, hv, hid⟩)

/-- The users that a cycle fetches are current. -/
lemma Covered.fetched (h : Covered dir job w tenantID) {users : List DiscoveredUser} {full : Bool}
    (hf : (job.fetchUsers (dir.answers (w.log tenantID) env) tenantID w.sync).1 = .ok (users, full)) :
    (∀ u ∈ users, Current (w.log tenantID) u) ∧
      ∀ u, Current (w.log tenantID) u → u ∈ users ∨ StoredAs job w.sync.users tenantID u := by
  rcases fetchUsers_cases dir job env tenantID (w.log tenantID) w.sync with
    ⟨err, herr⟩ | ⟨full', hfull⟩ | ⟨-, ⟨-, -, hdelta⟩ | hdelta⟩
  · rw [herr] at hf
    cases hf
  · rw [hfull] at hf
    cases hf
    exact ⟨fun u hu => dir.mem_listUsers.mp hu, fun u hu => .inl (dir.mem_listUsers.mpr hu)⟩
  · rw [hdelta] at hf
    cases hf
    exact h.delta env
  · rw [hdelta] at hf
    cases hf
    exact h.delta env

/-- **A cycle of a tenant**: who is stored stays so, and so does everyone if all upserts succeed. -/
lemma Covered.syncTenant_stored (h : Covered dir job w tenantID) (hu : Current (w.log tenantID) u)
    (hstored : StoredAs job w.sync.users tenantID u ∨ Succeeds dir job w tenantID env) :
    StoredAs job (job.syncTenant (dir.answers (w.log tenantID) env) tenantID w.sync).2.1.users tenantID u := by
  rw [DirectorySyncJob.syncTenant_users]
  cases hg : (job.gather (dir.answers (w.log tenantID) env) tenantID w.sync).1 with
  | error err =>
    rcases hstored with hstored | ⟨g, hg', -⟩
    · exact hstored
    · cases hg.symm.trans hg'
  | ok g =>
    obtain ⟨full, hf⟩ := gather_ok hg
    obtain ⟨hcurrent, hcover⟩ := h.fetched hf
    refine storedAs_upsertUsers h.unique hcurrent hu ?_
    rcases hstored with hstored | ⟨g', hg', hall⟩
    · exact .inl hstored
    · cases hg.symm.trans hg'
      rcases hcover u hu with hmem | hstored
      · obtain ⟨n, hn⟩ := List.getElem?_of_mem hmem
        refine .inr ⟨n, hn, ?_⟩
        rw [Nat.zero_add]
        exact hall n u hn
      · exact .inl hstored

/-- **A change** of the directory. -/
lemma Covered.change (h : Covered dir job w t) (hadmits : Admits job tenantID (w.log tenantID) u) :
    Covered dir job { w with log := Function.update w.log tenantID (w.log tenantID ++ [u]) } t := by
  by_cases ht : t = tenantID
  swap
  · have hlog : (Function.update w.log tenantID (w.log tenantID ++ [u])) t = w.log t := Function.update_of_ne ht ..
    refine ⟨?_, ?_⟩
    · show Unique job t (Function.update w.log tenantID (w.log tenantID ++ [u]) t)
      rw [hlog]
      exact h.unique
    · simp only [hlog]
      exact h.stored
  subst ht
  have hlog : (Function.update w.log t (w.log t ++ [u])) t = w.log t ++ [u] := Function.update_self ..
  refine ⟨?_, ?_⟩
  · show Unique job t (Function.update w.log t (w.log t ++ [u]) t)
    rw [hlog]
    intro a b ha hb hhash
    rw [current_concat] at ha hb
    split at ha
    · next hida =>
      split at hb
      · exact ha.symm.trans hb
      · next hidb =>
        subst ha
        exact absurd hhash.symm (hadmits b hb.mem hb (fun h => hidb h.symm))
    · next hida =>
      split at hb
      · subst hb
        exact absurd hhash (hadmits a ha.mem ha (fun h => hida h.symm))
      · exact h.unique a b ha hb hhash
  · intro token htoken
    obtain ⟨hne, log, log', token', hsplit, heq, hstored⟩ := h.stored token htoken
    refine ⟨hne, log, log' ++ [u], token', ?_, heq, fun a ha hunchanged => ?_⟩
    · exact hlog.trans (by rw [hsplit, List.append_assoc])
    · have hid : u.id ≠ a.id := hunchanged u (List.mem_append_right _ (List.mem_singleton.mpr rfl))
      simp only [hlog] at ha
      rw [current_concat, if_neg hid] at ha
      exact hstored a ha fun v hv => hunchanged v (List.mem_append_left _ hv)

/-- A cycle of another tenant. -/
lemma Covered.cycle_other (h : Covered dir job w t) (ht : t ≠ tenantID) {env : SyncEnv} :
    Covered dir job { w with sync := (job.syncTenant env tenantID w.sync).2.1 } t := by
  have hrows : ∀ u, StoredAs job w.sync.users t u →
      StoredAs job (job.syncTenant env tenantID w.sync).2.1.users t u := by
    intro u hstored
    rw [DirectorySyncJob.syncTenant_users]
    split
    · exact hstored
    · unfold StoredAs
      rw [DirectorySyncJob.findUser_upsertUsers_other ht]
      exact hstored
  have htokens : (job.syncTenant env tenantID w.sync).2.1.checkpoints t = w.sync.checkpoints t := by
    rw [syncTenant_checkpoints]
    unfold DirectorySyncJob.fetchUsers
    split
    · rfl
    · split
      · rfl
      · split
        · rfl
        · split
          · exact Function.update_of_ne ht ..
          · rfl
  refine ⟨h.unique, fun token htoken => ?_⟩
  obtain ⟨hne, log, log', token', hsplit, heq, hstored⟩ := h.stored token (by rw [← htokens]; exact htoken)
  exact ⟨hne, log, log', token', hsplit, heq, fun u hu hunchanged => hrows u (hstored u hu hunchanged)⟩

/-- **A cycle of the tenant**, if it stores what its delta reports before it moves the token. -/
lemma Covered.cycle (h : Covered dir job w tenantID) (hC : StoresDelta dir job w (.cycle tenantID env)) :
    Covered dir job { w with sync := (job.syncTenant (dir.answers (w.log tenantID) env) tenantID w.sync).2.1 }
      tenantID := by
  have hkept : ∀ token, w.sync.checkpoints tenantID job.provider = some token → token ≠ "" ∧
      ∃ log log' token', w.log tenantID = log ++ log' ∧ token = (dir.listUsersDelta log token').2 ∧
        ∀ u, Current (w.log tenantID) u → (∀ v ∈ log', v.id ≠ u.id) →
          StoredAs job (job.syncTenant (dir.answers (w.log tenantID) env) tenantID w.sync).2.1.users tenantID u := by
    intro token htoken
    obtain ⟨hne, log, log', token', hsplit, heq, hstored⟩ := h.stored token htoken
    exact ⟨hne, log, log', token', hsplit, heq, fun u hu hunchanged =>
      h.syncTenant_stored hu (.inl (hstored u hu hunchanged))⟩
  refine ⟨h.unique, fun token htoken => ?_⟩
  simp only [syncTenant_checkpoints] at htoken
  rcases fetchUsers_cases dir job env tenantID (w.log tenantID) w.sync with
    ⟨err, herr⟩ | ⟨full', hfull⟩ | ⟨hcalls, ⟨hne, hupsert, hdelta⟩ | hdelta⟩
  · rw [herr] at htoken
    exact hkept token htoken
  · rw [hfull] at htoken
    exact hkept token htoken
  · -- the token moves to the end of the history, so that everyone has to be stored
    rw [hdelta] at htoken
    have htoken : token = (dir.listUsersDelta (w.log tenantID) (job.deltaToken env tenantID w.sync)).2 := by
      simpa [SyncWorld.setCheckpoint] using htoken.symm
    refine ⟨htoken ▸ hne, w.log tenantID, [], _, (List.append_nil _).symm, htoken, fun u hu _ => ?_⟩
    by_cases hempty : (dir.listUsersDelta (w.log tenantID) (job.deltaToken env tenantID w.sync)).1 = []
    · rcases (h.delta env).2 u hu with hmem | hstored
      · rw [hempty] at hmem
        cases hmem
      · exact h.syncTenant_stored hu (.inl hstored)
    · obtain ⟨hgroups, hnative, hexisting, hall⟩ := hC hcalls hne hupsert hempty
      have hf : (job.fetchUsers (dir.answers (w.log tenantID) env) tenantID w.sync).1 =
          .ok ((dir.listUsersDelta (w.log tenantID) (job.deltaToken env tenantID w.sync)).1, false) := by rw [hdelta]
      obtain ⟨g, hg, husers⟩ := gather_of_ok hf hgroups hnative hexisting
      exact h.syncTenant_stored hu (.inr ⟨g, hg, husers ▸ hall⟩)
  · rw [hdelta] at htoken
    exact hkept token htoken

/-- **Every step** that meets the condition keeps the invariant. -/
lemma Covered.step (h : ∀ t, Covered dir job w t) {l : DirectoryLabel} (hC : StoresDelta dir job w l)
    (hst : directoryStep dir job w l = some w') : ∀ t, Covered dir job w' t := by
  intro t
  cases l with
  | change tenantID u =>
    simp only [directoryStep] at hst
    split at hst
    · next hadmits =>
      cases hst
      exact (h t).change hadmits
    · cases hst
  | cycle tenantID env =>
    cases hst
    by_cases ht : t = tenantID
    · subst ht
      exact (h t).cycle hC
    · exact (h t).cycle_other ht

end Invariant

/-- **Directory sync loses no change**: in every run in which each cycle that moves the token has stored what its delta
reported, a cycle that succeeds leaves every user of the directory stored as they are. -/
theorem sync_loses_no_change (dir : DeltaDirectory) (job : DirectorySyncJob) (users : List User)
    (ls : List DirectoryLabel)
    (hstores : Lts.Meets (directoryStep dir job) (StoresDelta dir job) { sync := { users } } ls) :
    Lts.Meets (directoryStep dir job) (LosesNoChange dir job) { sync := { users } } ls := by
  refine Lts.Meets.imp (I := fun w => ∀ t, Covered dir job w t) (fun w l w' h hC hst => Covered.step h hC hst)
    (fun w l h _ => ?_) (fun t => ⟨?_, ?_⟩) hstores
  · cases l with
    | change _ _ => trivial
    | cycle tenantID env => exact fun hall u hu => (h tenantID).syncTenant_stored hu (.inr hall)
  · intro u v hu
    cases hu
  · intro token htoken
    cases htoken

/-! ### A cycle that fails after the delta -/

namespace Sample

/-- The users whose record is the last one, of those that have changed after so many changes. -/
def changedSince (log : List DiscoveredUser) (n : ℕ) : List DiscoveredUser :=
  log.filter fun u => Current log u ∧ ∃ v ∈ log.drop n, v.id = u.id

/-- A provider whose tokens count the changes, in strokes. -/
def strokes : DeltaDirectory where
  listUsers log := changedSince log 0
  listUsersDelta log token := (changedSince log (token.length - 1), String.ofList (List.replicate (log.length + 1) '|'))
  mem_listUsers := by
    intro log u
    simp only [changedSince, List.mem_filter, decide_eq_true_eq, List.drop_zero]
    exact ⟨fun h => h.2.1, fun h => ⟨h.mem, h, u, h.mem, rfl⟩⟩
  mem_listUsersDelta_start := by
    intro log u
    simp only [changedSince, List.mem_filter, decide_eq_true_eq, String.length_empty, Nat.zero_sub, List.drop_zero]
    exact ⟨fun h => h.2.1, fun h => ⟨h.mem, h, u, h.mem, rfl⟩⟩
  mem_listUsersDelta := by
    intro log log' token u _
    have hlen : (String.ofList (List.replicate (log.length + 1) '|')).length - 1 = log.length := by simp
    simp only [changedSince, List.mem_filter, decide_eq_true_eq, hlen, List.drop_left]
    exact ⟨fun h => h.2, fun h => ⟨h.1.mem, h⟩⟩

/-- A cycle in which nothing fails. -/
def quiet : SyncEnv := { newID := fun _ => "1" }

/-- A cycle whose `ListGroups` fails. -/
def noGroups : SyncEnv := { quiet with listGroups := .error "503" }

end Sample

/-- **A lost change**: alice joins, a cycle fails after its delta call, and the next one succeeds without her. -/
theorem failed_cycle_loses_change :
    ¬ Lts.Meets (directoryStep Sample.strokes (Sample.job .postgres))
        (LosesNoChange Sample.strokes (Sample.job .postgres)) { sync := { users := [] } }
        [.change "t" Sample.alice, .cycle "t" Sample.noGroups, .cycle "t" Sample.quiet] := by
  intro hmeets
  have hlast := ((hmeets.2 _ rfl).2 _ rfl).1
  have hstored := hlast ⟨⟨[], [], [], [], []⟩, rfl, nofun⟩ Sample.alice rfl
  obtain ⟨row, hrow, -⟩ := hstored
  cases hrow

/-- Without the failure, alice is stored. -/
theorem quiet_cycles_lose_no_change :
    Lts.Meets (directoryStep Sample.strokes (Sample.job .postgres))
      (LosesNoChange Sample.strokes (Sample.job .postgres)) { sync := { users := [] } }
      [.change "t" Sample.alice, .cycle "t" Sample.quiet, .cycle "t" Sample.quiet] := by
  refine sync_loses_no_change Sample.strokes (Sample.job .postgres) [] _ ⟨trivial, fun w hw => ?_⟩
  cases hw
  refine ⟨fun _ _ _ _ => ⟨rfl, rfl, rfl, fun i u _ => ⟨rfl, rfl⟩⟩, fun w hw => ?_⟩
  cases hw
  exact ⟨fun _ _ _ _ => ⟨rfl, rfl, rfl, fun i u _ => ⟨rfl, rfl⟩⟩, fun _ _ => trivial⟩

end Sn360Es.Worker
