import Sn360Es.Agent.Types
import Sn360Es.Lib.Hex
import Sn360Es.Lib.Upsert

/-!
# Directory sync (`internal/service/worker/directory_sync_worker.go`)

`syncTenant` fetches the users of a tenant from its directory, whole or as a delta since the last token, classifies
them, and upserts a row for each. The row is built anew from what the directory says, with zero values in the other
fields, and the two repositories (`internal/repository/postgres.go`, `memory.go`) write every field of it.

* `find_upsertUsers` — the row of a key after the upserts is that of the last user stored under it;
* `sync_changes_only_known_iff` — when a cycle changes nothing in a row that it does not know.
-/

namespace Sn360Es.Worker

open Lib Agent

/-! ### The rows of users -/

/-- `repository.User`. The zero time is 0. -/
structure User where
  id : String := ""
  tenantID : String
  emailHash : Bytes
  role : String := ""
  department : String := ""
  sensitivityTier : String := ""
  resilienceScore : ℤ := 0
  vulnerability : ℤ := 0
  locale : String := ""
  createdAt : ℤ := 0
  updatedAt : ℤ := 0
  deriving DecidableEq, Repr

/-- The unique key of the table `users`, and of the map in memory. -/
def User.key (u : User) : String × Bytes := (u.tenantID, u.emailHash)

def findUser (users : List User) (tenantID : String) (emailHash : Bytes) : Option User :=
  users.find? (·.key = (tenantID, emailHash))

inductive UserRepo where
  | memory
  | postgres
  deriving DecidableEq, Repr

namespace UserRepo

/-- The `DO UPDATE` of `pgUsers.Upsert`. -/
def pgUpdate (old excluded : User) : User :=
  { old with
    role := excluded.role
    department := excluded.department
    sensitivityTier := excluded.sensitivityTier
    resilienceScore := excluded.resilienceScore
    vulnerability := excluded.vulnerability
    locale := excluded.locale
    updatedAt := excluded.updatedAt }

/-- What becomes of the row that there is. -/
def merge : UserRepo → User → User → User
  | memory, _, u => u
  | postgres, old, u => pgUpdate old u

/-- The row as it is written: with a new id, if it has none, and with its times. -/
def complete (repo : UserRepo) (u : User) (newID : String) (now : ℤ) : User :=
  { u with
    id := if u.id = "" then newID else u.id
    createdAt := if u.createdAt = 0 ∨ repo = postgres then now else u.createdAt
    updatedAt := now }

/-- `Upsert`: the error of the database is not one of the repository in memory, which has its own. -/
def upsert (repo : UserRepo) (users : List User) (u : User) (newID : String) (now : ℤ) (dbError : Option String) :
    Except String User × List User :=
  let row := repo.complete u newID now
  match repo, dbError with
  | memory, _ =>
    if u.tenantID = "" ∨ u.emailHash = [] then (.error "repository: unique conflict", users)
    else (.ok row, Lib.upsert User.key memory.merge users row)
  | postgres, some err => (.error err, users)
  | postgres, none => (.ok row, Lib.upsert User.key postgres.merge users row)

end UserRepo

/-! ### The job -/

inductive DirectorySource where
  | native
  | iamCore
  deriving DecidableEq, Repr

/-- `DirectorySyncJob`: the values, and which of the optional dependencies there are. `provider` is the `Kind` of the
directory, or the name of its type. -/
structure DirectorySyncJob where
  users : UserRepo
  source : DirectorySource := .native
  deltaSyncCapable : Bool := true
  syncCheckpoints : Bool := true
  provider : String := ""
  classifier : Bool := true
  events : Bool := true
  memberships : Bool := true
  orgGraphs : Bool := true
  hasher : String → String → Bytes
  toLower : String → String

/-- What the calls of one cycle return, and the times it reads. A function of a position is that of the call for the
user or the group at the position. -/
structure SyncEnv where
  iamCoreUsers : Except String (List DiscoveredUser) := .ok []
  /-- An error of `SyncCheckpoints.Get` or `Upsert`. -/
  checkpointGet : Option String := none
  checkpointUpsert : Option String := none
  listUsersDelta : String → Except String (List DiscoveredUser × String) := fun _ => .ok ([], "")
  listUsers : Except String (List DiscoveredUser) := .ok []
  listGroups : Except String (List DiscoveredGroup) := .ok []
  /-- The second `ListUsers`, for the memberships. -/
  nativeUsers : Except String (List DiscoveredUser) := .ok []
  /-- An error of the first and of the second `Users.List`. -/
  listExisting : Option String := none
  listResolved : Option String := none
  classifyBatch : List UserClassifyInput → Except String (List ClassifyResult) := fun _ => .ok []
  hashError : ℕ → Option String := fun _ => none
  newID : ℕ → String
  upsertAt : ℕ → ℤ := fun _ => 0
  upsertError : ℕ → Option String := fun _ => none
  /-- The id that `Groups.Upsert` gives the row, and the one that `GetByName` finds. -/
  groupUpsert : ℕ → Except String String := fun _ => .ok ""
  groupByName : ℕ → Option String := fun _ => none
  memberHashError : ℕ → ℕ → Option String := fun _ _ => none
  graphHashError : ℕ → Option String := fun _ => none
  builtAt : ℤ := 0

/-- The rows of users, and the delta tokens of tenants and providers. -/
structure SyncWorld where
  users : List User := []
  checkpoints : String → String → Option String := fun _ _ => none

/-- `SyncCheckpoints.Upsert`. -/
def SyncWorld.setCheckpoint (w : SyncWorld) (tenantID provider token : String) : SyncWorld :=
  let ofTenant := Function.update (w.checkpoints tenantID) provider (some token)
  { w with checkpoints := Function.update w.checkpoints tenantID ofTenant }

structure OrgGraphSnapshot where
  tenantID : String
  builtAt : ℤ
  highRiskIDs : List Bytes
  departmentCount : ℕ
  employeeCount : ℕ
  groupCount : ℕ
  deriving DecidableEq, Repr

/-- What a cycle asks others to do. -/
inductive SyncEffect where
  | userCreated (tenantID userID : String) (emailHash : Bytes) (department sensitivity : String) (confidence : Float64)
      (occurredAt : ℤ)
  | upsertGroup (tenantID name description riskClass : String)
  | replaceForGroup (groupID : String) (memberIDs : List String)
  | upsertOrgGraph (snap : OrgGraphSnapshot)
  deriving DecidableEq, Repr

/-- The keywords of `classifyGroupRisk`. -/
def groupRiskRules : List (List String × String) :=
  [(["engineering", "devops", "sre", "infrastructure", "platform"], "engineering"),
    (["medical", "clinical", "pharmacy", "nursing"], "medical"),
    (["research", "r&d", "patent"], "research"),
    (["m&a", "corporate development", "strategy", "board of"], "strategy"),
    (["finance", "treasury", "accounts payable"], "finance"),
    (["exec", "c-suite", "leadership"], "executive"),
    (["hr ", "human resource", "people ops"], "hr"),
    (["legal", "compliance"], "legal"),
    (["it admin", "sysadmin", "security"], "it")]

namespace DirectorySyncJob

variable (job : DirectorySyncJob) (env : SyncEnv) (tenantID : String)

/-- `classifyGroupRisk`. -/
def classifyGroupRisk (name : String) : String :=
  ((groupRiskRules.find? fun r => containsAny (job.toLower name) r.1).map Prod.snd).getD "standard"

/-- The token that `fetchUsers` hands to the delta call. -/
def deltaToken (w : SyncWorld) : String :=
  if env.checkpointGet = none then (w.checkpoints tenantID job.provider).getD "" else ""

/-- `fetchUsers`: the users, and whether they are the complete roster of the native directory. -/
def fetchUsers (w : SyncWorld) : Except String (List DiscoveredUser × Bool) × SyncWorld :=
  match job.source with
  | .iamCore => (env.iamCoreUsers.map (·, false), w)
  | .native =>
    if !job.deltaSyncCapable || !job.syncCheckpoints then (env.listUsers.map (·, true), w)
    else
      match env.listUsersDelta (job.deltaToken env tenantID w) with
      | .error _ => (env.listUsers.map (·, true), w)
      | .ok (users, newToken) =>
        -- the token is stored before anything is done with the users
        if newToken ≠ "" ∧ env.checkpointUpsert = none then
          (.ok (users, false), w.setCheckpoint tenantID job.provider newToken)
        else (.ok (users, false), w)

/-- The record under the email of a user in a map that was filled from a list. -/
def byEmail {α : Type} (l : List (DiscoveredUser × α)) (email : String) : Option α :=
  (l.reverse.find? fun p => job.toLower p.1.email = job.toLower email).map Prod.snd

/-- The input of the classifier for a user, with the groups and the admin flag of the native directory. -/
def classifyInput (membershipRoster : List DiscoveredUser) (groups : List DiscoveredGroup) (u : DiscoveredUser) :
    UserClassifyInput :=
  let gctx := (job.byEmail (membershipRoster.map fun mu => (mu, mu)) u.email).getD { email := "" }
  { jobTitle := u.jobTitle
    department := u.department
    displayName := u.displayName
    groupNames := groups.flatMap fun g => (gctx.groupIDs.filter (· = g.id)).map fun _ => g.name
    isAdmin := gctx.isAdmin }

/-- The results of the classifier, with the users they are for. There may be fewer than users. -/
def classify (population membershipRoster : List DiscoveredUser) (groups : List DiscoveredGroup) :
    List (DiscoveredUser × ClassifyResult) :=
  if job.classifier && !population.isEmpty then
    match env.classifyBatch (population.map (job.classifyInput membershipRoster groups)) with
    | .error _ => []
    | .ok results => population.zip results
  else []

/-- The sensitivity of a user, which is the default where the classifier has none. -/
def sensitivityOf (classes : List (DiscoveredUser × ClassifyResult)) (u : DiscoveredUser) : Sensitivity :=
  ((job.byEmail classes u.email).map ClassifyResult.sensitivity).getD .default

/-- The row that is built for a user. -/
def repoUser (classes : List (DiscoveredUser × ClassifyResult)) (u : DiscoveredUser) : User where
  tenantID
  emailHash := job.hasher tenantID u.email
  role := u.jobTitle
  department := u.department
  sensitivityTier := (job.sensitivityOf classes u).dbTier
  locale := ""

/-- The upsert of the user at a position; a user whose address cannot be hashed is skipped. -/
def upsertUser (classes : List (DiscoveredUser × ClassifyResult)) (i : ℕ) (u : DiscoveredUser) (users : List User) :
    Except String User × List User :=
  match env.hashError i with
  | some err => (.error err, users)
  | none =>
    job.users.upsert users (job.repoUser tenantID classes u) (env.newID i) (env.upsertAt i) (env.upsertError i)

/-- The event for a user that was not there when the cycle began. -/
def userEvent (existing : List User) (classes : List (DiscoveredUser × ClassifyResult)) (i : ℕ) (u : DiscoveredUser)
    (stored : User) : List SyncEffect :=
  if (findUser existing tenantID stored.emailHash).isNone && job.events then
    let confidence := ((job.byEmail classes u.email).map ClassifyResult.confidence).getD (.ofInt 1)
    [.userCreated tenantID stored.id stored.emailHash u.department (job.sensitivityOf classes u).name confidence
      (env.upsertAt i)]
  else []

/-- The loop over the users, from a position on. -/
def upsertUsers (existing : List User) (classes : List (DiscoveredUser × ClassifyResult)) :
    ℕ → List DiscoveredUser → List User → List User × List SyncEffect
  | _, [], users => (users, [])
  | i, u :: us, users =>
    match job.upsertUser env tenantID classes i u users with
    | (.error _, users') => upsertUsers existing classes (i + 1) us users'
    | (.ok stored, users') =>
      let rest := upsertUsers existing classes (i + 1) us users'
      (rest.1, job.userEvent env tenantID existing classes i u stored ++ rest.2)

/-- The ids of the members of a group, for the group at a position. -/
def memberIDs (membershipRoster : List DiscoveredUser) (resolved : List User) (n : ℕ) (g : DiscoveredGroup) :
    List String :=
  (membershipRoster.mapIdx fun i mu =>
    if g.id ∈ mu.groupIDs ∧ env.memberHashError n i = none then
      (findUser resolved tenantID (job.hasher tenantID mu.email)).map (·.id)
    else none).reduceOption

/-- The loop over the groups, from a position on. -/
def upsertGroups (membershipRoster : List DiscoveredUser) (resolved : List User) :
    ℕ → List DiscoveredGroup → List SyncEffect
  | _, [] => []
  | n, g :: gs =>
    let rest := upsertGroups membershipRoster resolved (n + 1) gs
    let group := .upsertGroup tenantID g.name g.description (job.classifyGroupRisk g.name)
    match env.groupUpsert n with
    | .error _ => group :: rest
    | .ok id =>
      if job.memberships && !resolved.isEmpty then
        group :: .replaceForGroup ((env.groupByName n).getD id)
          (job.memberIDs env tenantID membershipRoster resolved n g) :: rest
      else group :: rest

/-- The snapshot of the organisation. -/
def orgGraph (population : List DiscoveredUser) (groups : List DiscoveredGroup)
    (classes : List (DiscoveredUser × ClassifyResult)) : OrgGraphSnapshot where
  tenantID
  builtAt := env.builtAt
  highRiskIDs := (population.mapIdx fun i u =>
    match job.byEmail classes u.email with
    | some cr =>
      if Sensitivity.high.rank ≤ cr.sensitivity.rank ∧ env.graphHashError i = none then
        some (job.hasher tenantID u.email)
      else none
    | none => none).reduceOption
  departmentCount := ((population.map (·.department)).filter (· ≠ "")).dedup.length
  employeeCount := population.length
  groupCount := groups.length

/-- What `syncTenant` has gathered when it comes to the upserts. -/
structure Gathered where
  users : List DiscoveredUser
  groups : List DiscoveredGroup
  membershipRoster : List DiscoveredUser
  population : List DiscoveredUser
  classes : List (DiscoveredUser × ClassifyResult)

/-- The first part of `syncTenant`. -/
def gather (w : SyncWorld) : Except String Gathered × SyncWorld :=
  match job.fetchUsers env tenantID w with
  | (.error err, w) => (.error ("list users: " ++ err), w)
  | (.ok (users, nativeFull), w) =>
    match env.listGroups with
    | .error err => (.error ("list groups: " ++ err), w)
    | .ok groups =>
      match if nativeFull then .ok users else env.nativeUsers with
      | .error err => (.error ("list native users for group context: " ++ err), w)
      | .ok membershipRoster =>
        match env.listExisting with
        | some err => (.error ("list existing users: " ++ err), w)
        | none =>
          let population := if job.source = .iamCore then users else membershipRoster
          (.ok ⟨users, groups, membershipRoster, population,
            job.classify env population membershipRoster groups⟩, w)

/-- `syncTenant`. -/
def syncTenant (w : SyncWorld) : Option String × SyncWorld × List SyncEffect :=
  match job.gather env tenantID w with
  | (.error err, w) => (some err, w, [])
  | (.ok g, w) =>
    let (users, created) := job.upsertUsers env tenantID w.users g.classes 0 g.users w.users
    let resolved := if env.listResolved = none then users.filter (·.tenantID = tenantID) else []
    let groups := job.upsertGroups env tenantID g.membershipRoster resolved 0 g.groups
    let graph :=
      if job.orgGraphs then [.upsertOrgGraph (job.orgGraph env tenantID g.population g.groups g.classes)] else []
    (none, { w with users }, created ++ groups ++ graph)

/-! ### The upserts -/

/-- The upsert of the user at a position succeeds. -/
def Stores (i : ℕ) (u : DiscoveredUser) : Prop :=
  env.hashError i = none ∧
    match job.users with
    | .memory => tenantID ≠ "" ∧ job.hasher tenantID u.email ≠ []
    | .postgres => env.upsertError i = none

instance (i : ℕ) (u : DiscoveredUser) : Decidable (job.Stores env tenantID i u) :=
  match h : job.users with
  | .memory =>
    decidable_of_iff (env.hashError i = none ∧ tenantID ≠ "" ∧ job.hasher tenantID u.email ≠ [])
      (by unfold Stores; rw [h])
  | .postgres => decidable_of_iff (env.hashError i = none ∧ env.upsertError i = none) (by unfold Stores; rw [h])

/-- The row that the upsert of a user writes. -/
def written (classes : List (DiscoveredUser × ClassifyResult)) (i : ℕ) (u : DiscoveredUser) : User :=
  job.users.complete (job.repoUser tenantID classes u) (env.newID i) (env.upsertAt i)

/-- The last user of a list, from a position on, that is stored under a hash. -/
def lastStored (emailHash : Bytes) : ℕ → List DiscoveredUser → Option (ℕ × DiscoveredUser)
  | _, [] => none
  | i, u :: us =>
    (lastStored emailHash (i + 1) us).or
      (if job.Stores env tenantID i u ∧ job.hasher tenantID u.email = emailHash then some (i, u) else none)

variable {job env tenantID} {classes : List (DiscoveredUser × ClassifyResult)} {users existing : List User} {i : ℕ}
  {u : DiscoveredUser} {us : List DiscoveredUser} {t : String} {h : Bytes}

lemma upsertUser_stores (hs : job.Stores env tenantID i u) :
    job.upsertUser env tenantID classes i u users =
      (.ok (job.written env tenantID classes i u),
        Lib.upsert User.key job.users.merge users (job.written env tenantID classes i u)) := by
  obtain ⟨hhash, hrepo⟩ := hs
  unfold upsertUser written UserRepo.upsert
  rw [hhash]
  cases husers : job.users with
  | memory =>
    rw [husers] at hrepo
    exact if_neg (not_or.mpr hrepo)
  | postgres =>
    rw [husers] at hrepo
    simp only [hrepo]

variable (classes users) in
lemma upsertUser_not_stores (hs : ¬ job.Stores env tenantID i u) :
    ∃ err, job.upsertUser env tenantID classes i u users = (.error err, users) := by
  unfold upsertUser UserRepo.upsert
  cases hhash : env.hashError i with
  | some err => exact ⟨err, rfl⟩
  | none =>
    cases husers : job.users with
    | memory =>
      refine ⟨_, if_pos ?_⟩
      by_contra hrepo
      exact hs ⟨hhash, by rw [husers]; exact not_or.mp hrepo⟩
    | postgres =>
      cases herr : env.upsertError i with
      | some err => exact ⟨err, rfl⟩
      | none => exact absurd ⟨hhash, by rw [husers]; exact herr⟩ hs

lemma merge_key (repo : UserRepo) {old new : User} (hkey : old.key = new.key) :
    (repo.merge old new).key = new.key := by
  cases repo
  · rfl
  · exact hkey

lemma upsertUsers_cons : (job.upsertUsers env tenantID existing classes i (u :: us) users).1 =
    (job.upsertUsers env tenantID existing classes (i + 1) us
      (job.upsertUser env tenantID classes i u users).2).1 := by
  rw [upsertUsers]
  split
  · next h => rw [h]
  · next h => rw [h]

variable (job env tenantID classes users i u t h) in
/-- The table after one upsert. -/
lemma findUser_upsertUser : findUser (job.upsertUser env tenantID classes i u users).2 t h =
    if job.Stores env tenantID i u ∧ t = tenantID ∧ job.hasher tenantID u.email = h then
      some (((findUser users t h).map (job.users.merge · (job.written env tenantID classes i u))).getD
        (job.written env tenantID classes i u))
    else findUser users t h := by
  by_cases hs : job.Stores env tenantID i u
  · rw [upsertUser_stores hs]
    unfold findUser
    rw [find_upsert fun y hy => merge_key _ hy]
    have hkey : (t, h) = (job.written env tenantID classes i u).key ↔
        t = tenantID ∧ job.hasher tenantID u.email = h := by
      rw [show (job.written env tenantID classes i u).key = (tenantID, job.hasher tenantID u.email) from rfl,
        Prod.mk.injEq, eq_comm (a := h)]
    simp only [hkey, hs, true_and]
  · obtain ⟨err, herr⟩ := upsertUser_not_stores classes users hs
    rw [herr, if_neg fun hand => hs hand.1]

/-- The rows of another tenant. -/
lemma findUser_upsertUsers_other (ht : t ≠ tenantID) :
    findUser (job.upsertUsers env tenantID existing classes i us users).1 t h = findUser users t h := by
  induction us generalizing i users with
  | nil => rfl
  | cons u us ih => rw [upsertUsers_cons, ih, findUser_upsertUser, if_neg fun hand => ht hand.2.1]

/-- Of two writes to a row, the last one counts. -/
lemma merge_merge (repo : UserRepo) (old new new' : User) :
    repo.merge (repo.merge old new) new' = repo.merge old new' := by
  cases repo <;> rfl

/-- **The row of a key after the upserts**, if there was one before. -/
lemma find_upsertUsers {row : User} (hrow : findUser users tenantID h = some row) :
    findUser (job.upsertUsers env tenantID existing classes i us users).1 tenantID h =
      some (((job.lastStored env tenantID h i us).map fun s =>
        job.users.merge row (job.written env tenantID classes s.1 s.2)).getD row) := by
  induction us generalizing i users row with
  | nil => exact hrow
  | cons u us ih =>
    rw [upsertUsers_cons, lastStored]
    have hfind := findUser_upsertUser job env tenantID classes users i u tenantID h
    rw [hrow] at hfind
    simp only [true_and] at hfind
    split at hfind
    · next hs =>
      rw [ih hfind, if_pos hs]
      cases job.lastStored env tenantID h (i + 1) us with
      | some s => simp only [Option.some_or, Option.map_some, Option.getD_some, merge_merge]
      | none => rfl
    · next hs =>
      rw [ih hfind, if_neg hs, Option.or_none]

lemma lastStored_some {s : ℕ × DiscoveredUser} (hs : job.lastStored env tenantID h i us = some s) :
    s.2 ∈ us ∧ job.hasher tenantID s.2.email = h := by
  induction us generalizing i with
  | nil => cases hs
  | cons u us ih =>
    rw [lastStored, Option.or_eq_some_iff] at hs
    rcases hs with hs | ⟨-, hs⟩
    · exact ⟨List.mem_cons_of_mem _ (ih hs).1, (ih hs).2⟩
    · rw [Option.ite_none_right_eq_some] at hs
      obtain ⟨hand, heq⟩ := hs
      cases heq
      exact ⟨List.mem_cons_self, hand.2⟩

/-! ### What a cycle does to a row -/

variable (job env tenantID)

/-- The classifier has answered for a user of the cycle. -/
def Answered (g : Gathered) (u : DiscoveredUser) (cr : ClassifyResult) : Prop :=
  ∃ v, (v, cr) ∈ g.classes ∧ job.toLower v.email = job.toLower u.email

/-- A user whose address hashes to the key of the row was fetched, and the classifier answered this tier for it. -/
def AnsweredTier (w : SyncWorld) (row : User) (tier : String) : Prop :=
  row.tenantID = tenantID ∧ ∃ g, (job.gather env tenantID w).1 = .ok g ∧
    ∃ u ∈ g.users, job.hasher tenantID u.email = row.emailHash ∧
      ∃ cr, job.Answered g u cr ∧ tier = cr.sensitivity.dbTier

/-- The row changes only in what the cycle knows. -/
structure ChangesOnlyKnown (w : SyncWorld) (row row' : User) : Prop where
  id : row'.id = row.id
  resilienceScore : row'.resilienceScore = row.resilienceScore
  vulnerability : row'.vulnerability = row.vulnerability
  locale : row'.locale = row.locale
  tier : row'.sensitivityTier = row.sensitivityTier ∨ job.AnsweredTier env tenantID w row row'.sensitivityTier

/-- The condition on a row: if a user is stored under its key, there is nothing to lose. -/
def NothingToLose (w : SyncWorld) (row : User) : Prop :=
  row.tenantID = tenantID → ∀ g, (job.gather env tenantID w).1 = .ok g →
    ∀ s ∈ job.lastStored env tenantID row.emailHash 0 g.users,
      (job.users = .memory → env.newID s.1 = row.id) ∧ row.resilienceScore = 0 ∧ row.vulnerability = 0 ∧
        row.locale = "" ∧
        ((job.byEmail g.classes s.2.email).isSome ∨ row.sensitivityTier = "standard" ∨
          job.AnsweredTier env tenantID w row "standard")

variable {job env tenantID} {w : SyncWorld} {g : Gathered} {row : User}

lemma fetchUsers_users : (job.fetchUsers env tenantID w).2.users = w.users := by
  unfold fetchUsers
  split
  · rfl
  · split
    · rfl
    · split
      · rfl
      · split <;> rfl

lemma gather_world : (job.gather env tenantID w).2 = (job.fetchUsers env tenantID w).2 := by
  unfold gather
  cases job.fetchUsers env tenantID w with
  | mk r w' =>
    cases r with
    | error err => rfl
    | ok p =>
      simp only
      split
      · rfl
      · split
        · rfl
        · split <;> rfl

/-- The rows after a cycle. -/
lemma syncTenant_users : (job.syncTenant env tenantID w).2.1.users =
    match (job.gather env tenantID w).1 with
    | .error _ => w.users
    | .ok g => (job.upsertUsers env tenantID w.users g.classes 0 g.users w.users).1 := by
  have husers : (job.gather env tenantID w).2.users = w.users := by rw [gather_world, fetchUsers_users]
  unfold syncTenant
  cases hg : job.gather env tenantID w with
  | mk r w' =>
    rw [hg] at husers
    cases r with
    | error err => exact husers
    | ok g =>
      simp only at husers ⊢
      rw [husers]

lemma byEmail_answered {cr : ClassifyResult} (h : job.byEmail g.classes u.email = some cr) : job.Answered g u cr := by
  obtain ⟨p, hp, rfl⟩ := Option.map_eq_some_iff.mp h
  have hmem : p ∈ g.classes := List.mem_reverse.mp (List.mem_of_find?_eq_some hp)
  exact ⟨p.1, hmem, by simpa using List.find?_some hp⟩

/-- The tier of the row after a cycle that stores a user. -/
lemma tier_known_iff (hg : (job.gather env tenantID w).1 = .ok g) (ht : row.tenantID = tenantID) (hu : u ∈ g.users)
    (hhash : job.hasher tenantID u.email = row.emailHash) :
    ((job.sensitivityOf g.classes u).dbTier = row.sensitivityTier ∨
        job.AnsweredTier env tenantID w row (job.sensitivityOf g.classes u).dbTier) ↔
      ((job.byEmail g.classes u.email).isSome ∨ row.sensitivityTier = "standard" ∨
        job.AnsweredTier env tenantID w row "standard") := by
  cases hclass : job.byEmail g.classes u.email with
  | some cr =>
    refine iff_of_true (.inr ⟨ht, g, hg, u, hu, hhash, cr, byEmail_answered hclass, ?_⟩) (.inl rfl)
    rw [sensitivityOf, hclass]
    rfl
  | none =>
    have htier : (job.sensitivityOf g.classes u).dbTier = "standard" := by rw [sensitivityOf, hclass]; rfl
    rw [htier, eq_comm (a := "standard")]
    simp only [Option.isSome_none, Bool.false_eq_true, false_or]

variable (job env tenantID classes i u) in
/-- What the upsert of a user makes of the row that there is. -/
lemma merge_written (old : User) :
    (job.users.merge old (job.written env tenantID classes i u)).id =
        (if job.users = .memory then env.newID i else old.id) ∧
      (job.users.merge old (job.written env tenantID classes i u)).resilienceScore = 0 ∧
      (job.users.merge old (job.written env tenantID classes i u)).vulnerability = 0 ∧
      (job.users.merge old (job.written env tenantID classes i u)).locale = "" ∧
      (job.users.merge old (job.written env tenantID classes i u)).sensitivityTier =
        (job.sensitivityOf classes u).dbTier := by
  unfold written
  cases job.users
  · exact ⟨rfl, rfl, rfl, rfl, rfl⟩
  · exact ⟨rfl, rfl, rfl, rfl, rfl⟩

/-- **Directory sync changes only what it knows** of a row exactly if there is nothing to lose in it: no user is stored
under its key, or its other fields have the values that a new row has, and the classifier has an answer. -/
theorem sync_changes_only_known_iff (job : DirectorySyncJob) (env : SyncEnv) (tenantID : String) (w : SyncWorld)
    {row : User} (hrow : findUser w.users row.tenantID row.emailHash = some row) :
    (∃ row', findUser (job.syncTenant env tenantID w).2.1.users row.tenantID row.emailHash = some row' ∧
        job.ChangesOnlyKnown env tenantID w row row') ↔ job.NothingToLose env tenantID w row := by
  have hsame : job.ChangesOnlyKnown env tenantID w row row := ⟨rfl, rfl, rfl, rfl, .inl rfl⟩
  rw [syncTenant_users]
  cases hg : (job.gather env tenantID w).1 with
  | error err =>
    refine iff_of_true ⟨row, hrow, hsame⟩ fun _ g hg' => ?_
    cases hg.symm.trans hg'
  | ok g =>
    by_cases ht : row.tenantID = tenantID
    swap
    · refine iff_of_true ⟨row, ?_, hsame⟩ fun ht' => absurd ht' ht
      simp only
      rw [findUser_upsertUsers_other ht, hrow]
    simp only
    rw [ht] at hrow ⊢
    rw [find_upsertUsers hrow]
    cases hlast : job.lastStored env tenantID row.emailHash 0 g.users with
    | none =>
      refine iff_of_true ⟨row, rfl, hsame⟩ fun _ g' hg' s hs => ?_
      cases hg.symm.trans hg'
      cases hlast.symm.trans hs
    | some s =>
      obtain ⟨hmem, hhash⟩ := lastStored_some hlast
      obtain ⟨hid, hscore, hvulnerability, hlocale, htier⟩ := merge_written job env tenantID g.classes s.1 s.2 row
      have hknown := tier_known_iff hg ht hmem hhash
      rw [← htier] at hknown
      simp only [Option.map_some, Option.getD_some, Option.some.injEq, exists_eq_left']
      constructor
      · intro hchanges _ g' hg' s' hs'
        cases hg.symm.trans hg'
        cases hlast.symm.trans hs'
        refine ⟨fun hmemory => ?_, hchanges.resilienceScore.symm.trans hscore,
          hchanges.vulnerability.symm.trans hvulnerability, hchanges.locale.symm.trans hlocale,
          hknown.mp hchanges.tier⟩
        have hid' := hchanges.id
        rw [hid, if_pos hmemory] at hid'
        exact hid'
      · intro hlose
        obtain ⟨hmemory, hscore', hvulnerability', hlocale', htier'⟩ := hlose ht g hg s hlast
        refine ⟨?_, hscore.trans hscore'.symm, hvulnerability.trans hvulnerability'.symm,
          hlocale.trans hlocale'.symm, hknown.mpr htier'⟩
        rw [hid]
        split
        · next h => exact hmemory h
        · rfl

end DirectorySyncJob

/-! ### A user with a score -/

namespace Sample

def job (users : UserRepo) : DirectorySyncJob where
  users
  hasher _ email := bytesOf email
  toLower := id

def alice : DiscoveredUser := { email := "alice@acme.com", jobTitle := "CFO", department := "Finance" }

/-- A cycle in which alice has changed; the classifier answers, or fails. -/
def cycle (classifyBatch : List UserClassifyInput → Except String (List ClassifyResult)) : SyncEnv where
  listUsersDelta _ := .ok ([alice], "2")
  nativeUsers := .ok [alice]
  classifyBatch
  newID _ := "new"

/-- The row of alice, with a score and a language. -/
def scored : User where
  id := "1"
  tenantID := "t"
  emailHash := bytesOf "alice@acme.com"
  role := "Controller"
  department := "Finance"
  sensitivityTier := "executive"
  resilienceScore := 40
  vulnerability := 20
  locale := "de"

/-- The row of alice, without them. -/
def unscored : User := { scored with resilienceScore := 0, vulnerability := 0, locale := "" }

end Sample

/-- **A cycle resets the score**, the language and the tier of alice. -/
theorem sync_resets_score :
    ((findUser ((Sample.job .postgres).syncTenant (Sample.cycle fun _ => .error "down") "t"
          { users := [Sample.scored] }).2.1.users "t" Sample.scored.emailHash).map
        fun row => (row.id, row.resilienceScore, row.vulnerability, row.locale, row.sensitivityTier)) =
        some ("1", 0, 0, "", "standard") ∧
      ((findUser ((Sample.job .memory).syncTenant (Sample.cycle fun _ => .error "down") "t"
          { users := [Sample.scored] }).2.1.users "t" Sample.scored.emailHash).map
        fun row => (row.id, row.resilienceScore, row.vulnerability, row.locale, row.sensitivityTier)) =
        some ("new", 0, 0, "", "standard") ∧
      ¬ ∃ row', findUser ((Sample.job .postgres).syncTenant (Sample.cycle fun _ => .error "down") "t"
          { users := [Sample.scored] }).2.1.users "t" Sample.scored.emailHash = some row' ∧
        (Sample.job .postgres).ChangesOnlyKnown (Sample.cycle fun _ => .error "down") "t" { users := [Sample.scored] }
          Sample.scored row' := by
  have hpostgres : ((findUser ((Sample.job .postgres).syncTenant (Sample.cycle fun _ => .error "down") "t"
          { users := [Sample.scored] }).2.1.users "t" Sample.scored.emailHash).map
        fun row => (row.id, row.resilienceScore, row.vulnerability, row.locale, row.sensitivityTier)) =
        some ("1", 0, 0, "", "standard") := rfl
  refine ⟨hpostgres, rfl, ?_⟩
  rintro ⟨row', hrow', hchanges⟩
  rw [hrow'] at hpostgres
  have hscore : row'.resilienceScore = 0 := congrArg (fun r => r.2.1) (Option.some.inj hpostgres)
  have hkept : row'.resilienceScore = 40 := hchanges.resilienceScore
  omega

/-- Without a score, and with an answer of the classifier, there is nothing to lose. -/
theorem unscored_changes_only_known : ∃ row',
    findUser ((Sample.job .postgres).syncTenant (Sample.cycle fun _ => .ok [⟨.max, 0, false⟩]) "t"
        { users := [Sample.unscored] }).2.1.users "t" Sample.unscored.emailHash = some row' ∧
      (Sample.job .postgres).ChangesOnlyKnown (Sample.cycle fun _ => .ok [⟨.max, 0, false⟩]) "t"
        { users := [Sample.unscored] } Sample.unscored row' := by
  have hrow : findUser [Sample.unscored] Sample.unscored.tenantID Sample.unscored.emailHash =
      some Sample.unscored := rfl
  refine (DirectorySyncJob.sync_changes_only_known_iff (Sample.job .postgres) _ "t" { users := [Sample.unscored] }
    hrow).mpr fun _ g hg s hs => ?_
  cases hg
  cases hs
  exact ⟨nofun, rfl, rfl, rfl, .inl rfl⟩

end Sn360Es.Worker
