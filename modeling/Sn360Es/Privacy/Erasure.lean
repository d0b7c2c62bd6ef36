import Sn360Es.Lib.Late
import Sn360Es.Privacy.Encryptor

/-!
# Cryptographic erasure (`pkg/privacy/erasure.go`)

`Erase` runs the hooks, evicts the cached data key of the tenant, and has the `MockKMS` forget its key id. The calls of
one encryptor are taken apart into what happens under a lock: the reads and writes of the cache, the writes of the key
store, and the seals. Creating a data key writes the key store and then the cache, erasing drops them in the other
order.

The wrapped key in a blob is sealed under the root key, which stays: what `ForgetKey` drops is the key id, and the next
data key of the tenant brings it back.

* `holds_run` — what the cache, the calls and the blobs hold is sealed, in every run;
* `erased_final_iff` — an erasure is final, and leaves the tenant a working encryptor, exactly if no data key of the
  tenant is registered after it while there are old blobs, and no later `Encrypt` seals under a key id that is gone.
-/

namespace Sn360Es.Privacy

open Lib Lib.Aead

/-! ### The calls, step by step -/

inductive KeyOp where
  /-- The look into the cache, in `dekFor`. -/
  | cacheGet (tenantID : Bytes)
  /-- The random key of `GenerateDataKey`, sealed under the root key. -/
  | generate (keyID : Bytes)
  /-- The write to the key store, in `GenerateDataKey`. -/
  | register (keyID dek : Bytes)
  /-- The write to the cache, in `dekFor`. -/
  | cacheSet (tenantID : Bytes) (k : CachedKey)
  /-- The rest of `Encrypt`, which makes the blob. -/
  | sealBody (tenantID : Bytes) (k : CachedKey) (plaintext : Bytes)
  | decrypt (tenantID blob : Bytes)
  | cleanup (hook : ℕ) (tenantID : Bytes)
  | forget (tenantID : Bytes)
  | forgetKey (keyID : Bytes)
  deriving DecidableEq, Repr

abbrev KeyOp.Ans : KeyOp → Type
  | cacheGet _ => Option CachedKey
  | generate _ => Option CachedKey
  | register _ _ => Unit
  | cacheSet _ _ => Unit
  | sealBody _ _ _ => Option Bytes
  | decrypt _ _ => Except DecryptError Bytes
  | cleanup _ _ => Option String
  | forget _ => Unit
  | forgetKey _ => Unit

/-- The encryptor with its key store, what was sealed, and the blobs that were handed out. -/
structure KeyWorld where
  enc : Encryptor := {}
  seals : Seals := []
  blobs : List Entry := []

/-- The random bytes that one operation draws, with the ciphertext, and the errors of the hooks. -/
structure KeyEnv where
  key : KeyRandom := ⟨[], [], []⟩
  hookError : ℕ → Option String := fun _ => none

/-- The effect of an operation. Bytes of another length stand for an error of `rand.Read`. -/
def KeyOp.exec (root : Bytes) : (o : KeyOp) → KeyEnv → KeyWorld → o.Ans × KeyWorld
  | .cacheGet tenantID, _, w => ((w.enc.cache.find? fun c => c.1 = tenantID).map Prod.snd, w)
  | .generate keyID, e, w =>
    if e.key.dek.length = 32 ∧ e.key.nonce.length = 12 ∧ e.key.ciphertext.length = 48 ∧
        fresh w.seals e.key.ciphertext then
      (some ⟨e.key.dek, e.key.nonce ++ e.key.ciphertext⟩,
        { w with seals := w.seals ++ [⟨root, e.key.nonce, keyID, e.key.dek, e.key.ciphertext⟩] })
    else (none, w)
  | .register keyID dek, _, w => ((), { w with enc := { w.enc with keyStore := assign w.enc.keyStore keyID dek } })
  | .cacheSet tenantID k, _, w => ((), { w with enc := { w.enc with cache := assign w.enc.cache tenantID k } })
  | .sealBody tenantID k plaintext, e, w =>
    if e.key.nonce.length = 12 ∧ e.key.ciphertext.length = plaintext.length + 16 ∧
        fresh w.seals e.key.ciphertext then
      (some (frame k.wrapped e.key.nonce e.key.ciphertext),
        { w with
          seals := w.seals ++ [⟨k.dek, e.key.nonce, tenantID, plaintext, e.key.ciphertext⟩]
          blobs := w.blobs ++ [⟨tenantID, plaintext, frame k.wrapped e.key.nonce e.key.ciphertext⟩] })
    else (none, w)
  | .decrypt tenantID blob, _, w => (w.enc.decrypt root w.seals tenantID blob, w)
  | .cleanup hook _, e, w => (e.hookError hook, w)
  | .forget tenantID, _, w => ((), { w with enc := w.enc.forget tenantID })
  | .forgetKey keyID, _, w =>
    ((), { w with enc := { w.enc with keyStore := w.enc.keyStore.filter fun k => k.1 ≠ keyID } })

abbrev KeyM := Prog KeyOp KeyOp.Ans

/-- `GenerateDataKey`. -/
def generateDataKey (keyID : Bytes) : KeyM (Option CachedKey) := do
  if keyID = [] then return none
  else
    match ← Prog.perform (KeyOp.generate keyID) with
    | none => return none
    | some k =>
      let _ ← Prog.perform (KeyOp.register keyID k.dek)
      return some k

/-- `dekFor`. -/
def dekFor (tenantID : Bytes) : KeyM (Option CachedKey) := do
  match ← Prog.perform (KeyOp.cacheGet tenantID) with
  | some k => return some k
  | none =>
    match ← generateDataKey (keyIDFor tenantID) with
    | none => return none
    | some k =>
      let _ ← Prog.perform (KeyOp.cacheSet tenantID k)
      return some k

/-- `Encrypt`; an error is `none`. -/
def encryptSteps (tenantID plaintext : Bytes) : KeyM (Option Bytes) := do
  if tenantID = [] then return none
  else
    match ← dekFor tenantID with
    | none => return none
    | some k => Prog.perform (KeyOp.sealBody tenantID k plaintext)

/-- `ErasureRecord`, less its times. -/
structure ErasureRecord where
  tenantID : Bytes
  hooksRun : ℕ := 0
  deriving DecidableEq, Repr

/-- The errors of `Erase`. -/
inductive EraseError where
  | tenantRequired
  | cleanupHook (hook : ℕ) (tenantID : Bytes) (err : String)
  deriving DecidableEq, Repr

/-- The end of `Erase`. -/
def forgetTenant (rec : ErasureRecord) : KeyM (Except EraseError ErasureRecord) := do
  let _ ← Prog.perform (KeyOp.forget rec.tenantID)
  let _ ← Prog.perform (KeyOp.forgetKey (keyIDFor rec.tenantID))
  return .ok rec

/-- The hooks that are left to run, from the hook with the number `rec.hooksRun` on. -/
def runHooks (rec : ErasureRecord) : ℕ → KeyM (Except EraseError ErasureRecord)
  | 0 => forgetTenant rec
  | left + 1 => do
    match ← Prog.perform (KeyOp.cleanup rec.hooksRun rec.tenantID) with
    | some err => return .error (.cleanupHook rec.hooksRun rec.tenantID err)
    | none => runHooks { rec with hooksRun := rec.hooksRun + 1 } left

/-- `Erase`, with so many hooks. -/
def eraseSteps (hooks : ℕ) (tenantID : Bytes) : KeyM (Except EraseError ErasureRecord) :=
  if tenantID = [] then return .error .tenantRequired
  else runHooks { tenantID } hooks

inductive KeyCall where
  | encrypt (tenantID plaintext : Bytes)
  | decrypt (tenantID blob : Bytes)
  | generateDataKey (keyID : Bytes)
  | erase (hooks : ℕ) (tenantID : Bytes)
  deriving DecidableEq, Repr

/-- What a call returns. -/
inductive KeyResult where
  | blob (b : Option Bytes)
  | plaintext (r : Except DecryptError Bytes)
  | key (k : Option CachedKey)
  | erased (r : Except EraseError ErasureRecord)

def KeyCall.steps : KeyCall → KeyM KeyResult
  | encrypt tenantID plaintext => do return .blob (← encryptSteps tenantID plaintext)
  | decrypt tenantID blob => do return .plaintext (← Prog.perform (KeyOp.decrypt tenantID blob))
  | generateDataKey keyID => do return .key (← Privacy.generateDataKey keyID)
  | erase hooks tenantID => do return .erased (← eraseSteps hooks tenantID)

abbrev KeyPool := Pool KeyOp KeyOp.Ans KeyResult KeyWorld

/-- The calls, operation by operation. -/
def keyStep (root : Bytes) := Pool.step (KeyOp.exec root) KeyCall.steps

/-! ### A call alone -/

/-- The encryptor as the only instance. -/
def KeyWorld.toWorld (w : KeyWorld) (root : Bytes) : World :=
  { root, instances := [w.enc], seals := w.seals, blobs := w.blobs }

/-- The random bytes of an `Encrypt` that runs alone: those of the data key, where there is none in the cache, and those
of the blob. -/
def aloneEnv (cached : Bool) (r : KeyRandom) (nonce ciphertext : Bytes) (n : ℕ) : KeyEnv :=
  { key := if n = 1 ∧ cached = false then r else ⟨[], nonce, ciphertext⟩ }

/-- An `Encrypt` that runs alone is that of `World.encrypt`. -/
lemma encryptSteps_alone {root tenantID plaintext nonce ct : Bytes} {w : KeyWorld} {r : KeyRandom} {w' : World}
    (h : (w.toWorld root).encrypt 0 w.enc tenantID plaintext r nonce ct = some w') :
    ((encryptSteps tenantID plaintext).eval (KeyOp.exec root)
      (aloneEnv (w.enc.cache.find? fun c => c.1 = tenantID).isSome r nonce ct) w).2.1.toWorld root = w' := by
  unfold World.encrypt at h
  unfold encryptSteps
  split at h
  · next hnil =>
    rw [if_pos hnil]
    exact Option.some.inj h
  next hne =>
  rw [if_neg hne]
  obtain ⟨⟨k, w₁⟩, hdek, hmap⟩ := Option.bind_eq_some_iff.mp h
  obtain ⟨w₂, hseal, rfl⟩ := Option.map_eq_some_iff.mp hmap
  obtain ⟨hnonce, hct, hfresh, rfl⟩ := sealWith_cases hseal
  unfold World.dekFor at hdek
  cases hfind : w.enc.cache.find? fun c => c.1 = tenantID with
  | some c =>
    rw [hfind] at hdek
    obtain ⟨rfl, rfl⟩ := Prod.mk.inj (Option.some.inj hdek)
    have hfresh : fresh w.seals ct = true := hfresh
    simp [dekFor, Prog.eval_bind, Prog.eval_perform, KeyOp.exec, aloneEnv, hfind, hnonce, hct, hfresh, KeyWorld.toWorld]
  | none =>
    rw [hfind] at hdek
    obtain ⟨⟨k', e', w₃⟩, hgen, heq⟩ := Option.map_eq_some_iff.mp hdek
    unfold World.generateDataKey at hgen
    split at hgen
    swap
    · cases hgen
    next hlen =>
    obtain ⟨w₄, hwrap, hkey⟩ := Option.map_eq_some_iff.mp hgen
    obtain ⟨hnonce', hct', hfresh', rfl⟩ := sealWith_cases hwrap
    cases hkey
    cases heq
    rw [hlen] at hct'
    have hfresh' : fresh w.seals r.ciphertext = true := hfresh'
    have hfresh : fresh (w.seals ++ [⟨root, r.nonce, keyIDFor tenantID, r.dek, r.ciphertext⟩]) ct = true := hfresh
    simp [dekFor, generateDataKey, keyIDFor_ne_nil, Prog.eval_bind, Prog.eval_perform, KeyOp.exec, aloneEnv, hfind,
      hnonce, hct, hfresh, hlen, hnonce', hct', hfresh', KeyWorld.toWorld, World.setInstance]

/-! ### What is sealed -/

/-- The cache and the blobs hold what was sealed. -/
structure Sound (root : Bytes) (w : KeyWorld) : Prop where
  ideal : Ideal w.seals
  cached : ∀ c ∈ w.enc.cache, Wrapped root w.seals c.1 c.2
  blobs : ∀ b ∈ w.blobs, b.tenantID ≠ [] ∧ SealedBlob root w.seals b

/-- A data key, sealed under the root key with a key id. -/
def WrappedAs (root : Bytes) (seals : Seals) (keyID : Bytes) (k : CachedKey) : Prop :=
  ∃ nonce ct, k.wrapped = nonce ++ ct ∧ nonce.length = 12 ∧ ct.length = 48 ∧
    (⟨root, nonce, keyID, k.dek, ct⟩ : Seal _ _ _ _ _) ∈ seals

/-- The data key that a call has got last. -/
inductive KeyPhase where
  | idle
  | holding (keyID : Bytes) (k : CachedKey)

def KeyPhase.next : KeyPhase → (o : KeyOp) → o.Ans → KeyPhase
  | _, .cacheGet tenantID, some k => .holding (keyIDFor tenantID) k
  | _, .generate keyID, some k => .holding keyID k
  | g, _, _ => g

def KeyPhase.Sealed (root : Bytes) (seals : Seals) : KeyPhase → Prop
  | .idle => True
  | .holding keyID k => WrappedAs root seals keyID k

def keyTracker (root : Bytes) : Tracker KeyOp KeyOp.Ans KeyWorld KeyEnv KeyPhase where
  exec := KeyOp.exec root
  start := .idle
  next := KeyPhase.next
  allows _ _ _ _ _ := True
  inv w gs := Sound root w ∧ ∀ g ∈ gs, g.Sealed root w.seals

section Sealed

variable {root : Bytes} {w : KeyWorld} {e : KeyEnv} {g : KeyPhase}

lemma seals_subset (o : KeyOp) (e : KeyEnv) (w : KeyWorld) : w.seals ⊆ (o.exec root e w).2.seals := by
  cases o with
  | generate keyID =>
    simp only [KeyOp.exec]
    split
    · exact List.subset_append_left _ _
    · exact List.Subset.refl _
  | sealBody tenantID k plaintext =>
    simp only [KeyOp.exec]
    split
    · exact List.subset_append_left _ _
    · exact List.Subset.refl _
  | _ => exact List.Subset.refl _

lemma KeyPhase.Sealed.mono {seals seals' : Seals} (hsub : seals ⊆ seals') (h : g.Sealed root seals) :
    g.Sealed root seals' := by
  cases g with
  | idle => trivial
  | holding keyID k =>
    obtain ⟨nonce, ct, hw, hn, hc, hmem⟩ := h
    exact ⟨nonce, ct, hw, hn, hc, hsub hmem⟩

/-- The rule for one operation. -/
lemma keeps_keyOp {o : KeyOp} {Q : o.Ans → KeyPhase → Prop}
    (h : ∀ e w, Sound root w → g.Sealed root w.seals → Sound root (o.exec root e w).2 ∧
      (g.next o (o.exec root e w).1).Sealed root (o.exec root e w).2.seals ∧
      Q (o.exec root e w).1 (g.next o (o.exec root e w).1)) : (keyTracker root).Keeps (Prog.perform o) g Q := by
  intro e w gs n hinv hn _
  obtain ⟨hsound, hsealed, hQ⟩ := h e w hinv.1 (hinv.2 g (List.mem_of_getElem? hn))
  refine ⟨⟨hsound, fun g' hg' => ?_⟩, hQ⟩
  rcases List.mem_or_eq_of_mem_set hg' with hg' | rfl
  · exact (hinv.2 g' hg').mono (seals_subset o e w)
  · exact hsealed

/-- An operation that seals nothing and fills no cache. -/
lemma keeps_plain {o : KeyOp} {Q : o.Ans → KeyPhase → Prop} (hw : ∀ e w, (o.exec root e w).2.seals = w.seals ∧
      (o.exec root e w).2.blobs = w.blobs ∧ (o.exec root e w).2.enc.cache ⊆ w.enc.cache)
    (hg : ∀ a, g.next o a = g) (hQ : ∀ a, Q a g) : (keyTracker root).Keeps (Prog.perform o) g Q := by
  refine keeps_keyOp fun e w hs hsealed => ?_
  obtain ⟨hseals, hblobs, hcache⟩ := hw e w
  rw [hg, hseals]
  refine ⟨⟨?_, ?_, ?_⟩, hsealed, hQ _⟩
  · rw [hseals]
    exact hs.ideal
  · rw [hseals]
    exact fun c hc => hs.cached c (hcache hc)
  · rw [hseals, hblobs]
    exact hs.blobs

/-- Sealing keeps what is sound. -/
lemma Sound.concat {s : Seal Bytes Bytes Bytes Bytes Bytes} (hs : Sound root w)
    (hfresh : fresh w.seals s.ciphertext = true) : Sound root { w with seals := w.seals ++ [s] } where
  ideal := hs.ideal.concat hfresh
  cached c hc := (hs.cached c hc).mono (List.subset_append_left _ _)
  blobs b hb := ⟨(hs.blobs b hb).1, (hs.blobs b hb).2.mono (List.subset_append_left _ _)⟩

lemma keeps_cacheGet {tenantID : Bytes} {Q : Option CachedKey → KeyPhase → Prop} (hnone : Q none g)
    (hsome : ∀ k, Q (some k) (.holding (keyIDFor tenantID) k)) :
    (keyTracker root).Keeps (Prog.perform (KeyOp.cacheGet tenantID)) g Q := by
  refine keeps_keyOp fun e w hs hsealed => ?_
  simp only [KeyOp.exec]
  cases hfind : w.enc.cache.find? fun c => c.1 = tenantID with
  | none => exact ⟨hs, hsealed, hnone⟩
  | some c =>
    refine ⟨hs, ?_, hsome c.2⟩
    have htenant : c.1 = tenantID := by simpa using List.find?_some hfind
    rw [← htenant]
    exact hs.cached c (List.mem_of_find?_eq_some hfind)

lemma keeps_generateDataKey {keyID : Bytes} {Q : Option CachedKey → KeyPhase → Prop} (hnone : ∀ g, Q none g)
    (hsome : ∀ k, Q (some k) (.holding keyID k)) : (keyTracker root).Keeps (generateDataKey keyID) g Q := by
  unfold generateDataKey
  split
  · exact hnone g
  refine .bind (keeps_keyOp fun e w hs hsealed => ?_)
  simp only [KeyOp.exec]
  split
  · next hok =>
    refine ⟨hs.concat hok.2.2.2, ?_, ?_⟩
    · exact ⟨e.key.nonce, e.key.ciphertext, rfl, hok.2.1, hok.2.2.1, List.mem_append_right _ List.mem_cons_self⟩
    · exact .bind (keeps_plain (fun _ _ => ⟨rfl, rfl, List.Subset.refl _⟩) (fun _ => rfl) fun _ => hsome _)
  · exact ⟨hs, hsealed, hnone g⟩

/-- A data key of the tenant. -/
lemma keeps_dekFor {tenantID : Bytes} {Q : Option CachedKey → KeyPhase → Prop} (hnone : ∀ g, Q none g)
    (hsome : ∀ k, Q (some k) (.holding (keyIDFor tenantID) k)) : (keyTracker root).Keeps (dekFor tenantID) g Q := by
  unfold dekFor
  refine .bind (keeps_cacheGet ?_ fun k => hsome k)
  refine .bind (keeps_generateDataKey (fun g => hnone g) fun k => .bind (keeps_keyOp fun e w hs hsealed => ?_))
  refine ⟨⟨hs.ideal, fun c hc => ?_, hs.blobs⟩, hsealed, hsome k⟩
  rcases mem_assign hc with hc | rfl
  · exact hs.cached c hc
  · exact hsealed

lemma keeps_encryptSteps (tenantID plaintext : Bytes) :
    (keyTracker root).Keeps (encryptSteps tenantID plaintext) g fun _ _ => True := by
  unfold encryptSteps
  split
  · trivial
  next hne =>
  refine .bind (keeps_dekFor (fun _ => trivial) fun k => keeps_keyOp fun e w hs hsealed => ?_)
  simp only [KeyOp.exec]
  split
  · next hok =>
    have hsound := hs.concat (s := ⟨k.dek, e.key.nonce, tenantID, plaintext, e.key.ciphertext⟩) hok.2.2
    refine ⟨⟨hsound.ideal, hsound.cached, fun b hb => ?_⟩, hsealed.mono (List.subset_append_left _ _), trivial⟩
    rcases List.mem_append.mp hb with hb | hb
    · exact hsound.blobs b hb
    · rw [List.mem_singleton.mp hb]
      have hwrapped : Wrapped root w.seals tenantID k := hsealed
      refine ⟨hne, k, e.key.nonce, e.key.ciphertext, hwrapped.mono (List.subset_append_left _ _), hok.1, rfl, ?_⟩
      exact List.mem_append_right _ List.mem_cons_self
  · exact ⟨hs, hsealed, trivial⟩

lemma keeps_runHooks (rec : ErasureRecord) (left : ℕ) :
    (keyTracker root).Keeps (runHooks rec left) g fun _ _ => True := by
  induction left generalizing rec with
  | zero =>
    refine .bind (keeps_plain (fun _ _ => ⟨rfl, rfl, List.filter_subset_self _⟩) (fun _ => rfl) fun _ => ?_)
    exact .bind (keeps_plain (fun _ _ => ⟨rfl, rfl, List.Subset.refl _⟩) (fun _ => rfl) fun _ => trivial)
  | succ left ih =>
    refine .bind (keeps_plain (fun _ _ => ⟨rfl, rfl, List.Subset.refl _⟩) (fun _ => rfl) fun r => ?_)
    cases r with
    | some err => trivial
    | none => exact ih _

lemma keeps_steps (c : KeyCall) : (keyTracker root).Keeps c.steps g fun _ _ => True := by
  cases c with
  | encrypt tenantID plaintext => exact .bind ((keeps_encryptSteps tenantID plaintext).mono fun _ _ _ => trivial)
  | decrypt tenantID blob =>
    exact .bind (keeps_plain (fun _ _ => ⟨rfl, rfl, List.Subset.refl _⟩) (fun _ => rfl) fun _ => trivial)
  | generateDataKey keyID => exact .bind (keeps_generateDataKey (fun _ => trivial) fun _ => trivial)
  | erase hooks tenantID =>
    refine .bind ?_
    unfold eraseSteps
    split
    · trivial
    · exact (keeps_runHooks _ _).mono fun _ _ _ => trivial

end Sealed

/-! ### Runs -/

/-- `Erase` returns without an error: it forgets the key id last. -/
def Erases (root : Bytes) (p p' : KeyPool) (tenantID : Bytes) : Prop :=
  ∃ n e done k rec, p.threads[n]? = some ⟨done, .call (.forgetKey (keyIDFor tenantID)) k⟩ ∧
    k () = .ret (.erased (.ok rec)) ∧ keyStep root p (.advance n e) = some p'

/-- `Decrypt`, at this moment. -/
def KeyWorld.decrypt (root : Bytes) (w : KeyWorld) (tenantID blob : Bytes) : Except DecryptError Bytes :=
  w.enc.decrypt root w.seals tenantID blob

/-- A blob of the tenant is made. -/
def IsSeal (tenantID : Bytes) (x : (o : KeyOp) × o.Ans) : Prop :=
  ∃ k plaintext blob, x = ⟨.sealBody tenantID k plaintext, some blob⟩

/-- An `Encrypt` for the tenant has made a blob. -/
def HasSealed (tenantID : Bytes) (done : List ((o : KeyOp) × o.Ans)) : Prop := ∃ x ∈ done, IsSeal tenantID x

/-- **Final erasure**: nobody can decrypt the old blobs of the tenant, and the blobs of an `Encrypt` that started at
position `n` or later can be decrypted. -/
def FinallyErased (root : Bytes) (old : List Entry) (n : ℕ) (tenantID : Bytes) (p : KeyPool) : Prop :=
  (∀ b ∈ old, b.tenantID = tenantID → ∀ t, ∃ err, p.shared.decrypt root t b.blob = .error err) ∧
    ∀ m c, n ≤ m → p.threads[m]? = some c → ∀ k plaintext blob,
      ⟨.sealBody tenantID k plaintext, some blob⟩ ∈ c.performed →
        p.shared.decrypt root tenantID blob = .ok plaintext

/-- The next operation registers a data key of the tenant. -/
def Registers (tenantID : Bytes) (p : KeyPool) (l : Pool.Label KeyCall KeyEnv) : Prop :=
  ∃ n e done dek k, l = .advance n e ∧ p.threads[n]? = some ⟨done, .call (.register (keyIDFor tenantID) dek) k⟩

/-- The next operation makes a blob of the tenant, in an `Encrypt` that started at position `n` or later. -/
def SealsLate (root : Bytes) (n : ℕ) (tenantID : Bytes) (p : KeyPool) (l : Pool.Label KeyCall KeyEnv) : Prop :=
  ∃ m e done k plaintext next, l = .advance m e ∧ n ≤ m ∧
    p.threads[m]? = some ⟨done, .call (.sealBody tenantID k plaintext) next⟩ ∧
    ((KeyOp.sealBody tenantID k plaintext).exec root e p.shared).1.isSome = true

/-- The next operation forgets the key id of the tenant. -/
def ForgetsKey (tenantID : Bytes) (p : KeyPool) (l : Pool.Label KeyCall KeyEnv) : Prop :=
  ∃ n e done k, l = .advance n e ∧ p.threads[n]? = some ⟨done, .call (.forgetKey (keyIDFor tenantID)) k⟩

/-- The key id of the tenant is in the key store. -/
def Known (tenantID : Bytes) (w : KeyWorld) : Prop := keyIDFor tenantID ∈ w.enc.keyIDs

instance (tenantID : Bytes) (w : KeyWorld) : Decidable (Known tenantID w) :=
  inferInstanceAs (Decidable (keyIDFor tenantID ∈ w.enc.keyIDs))

/-- What holds in every run: the tracker, and that the blobs which calls have made are among those handed out. -/
structure KeyBooks (root : Bytes) (old : List Entry) (p : KeyPool) : Prop where
  holds : (keyTracker root).Holds (fun _ _ _ => True) p
  old : old ⊆ p.shared.blobs
  made : ∀ c ∈ p.threads, ∀ t k plaintext blob, ⟨.sealBody t k plaintext, some blob⟩ ∈ c.performed →
    (⟨t, plaintext, blob⟩ : Entry) ∈ p.shared.blobs

section Runs

variable {root tenantID : Bytes} {old : List Entry} {p p' : KeyPool} {n : ℕ} {l : Pool.Label KeyCall KeyEnv}

lemma blobs_subset (o : KeyOp) (e : KeyEnv) (w : KeyWorld) : w.blobs ⊆ (o.exec root e w).2.blobs := by
  cases o with
  | generate keyID =>
    simp only [KeyOp.exec]
    split <;> exact List.Subset.refl _
  | sealBody tenantID k plaintext =>
    simp only [KeyOp.exec]
    split
    · exact List.subset_append_left _ _
    · exact List.Subset.refl _
  | _ => exact List.Subset.refl _

/-- A blob that is made is handed out. -/
lemma mem_blobs_of_sealed {k : CachedKey} {plaintext blob : Bytes} {e : KeyEnv} {w : KeyWorld}
    (h : ((KeyOp.sealBody tenantID k plaintext).exec root e w).1 = some blob) :
    (⟨tenantID, plaintext, blob⟩ : Entry) ∈ ((KeyOp.sealBody tenantID k plaintext).exec root e w).2.blobs := by
  simp only [KeyOp.exec] at h ⊢
  split at h
  · next hok =>
    cases h
    rw [if_pos hok]
    exact List.mem_append_right _ List.mem_cons_self
  · cases h

lemma KeyBooks.step (h : KeyBooks root old p) (hst : keyStep root p l = some p') : KeyBooks root old p' := by
  refine ⟨?_, ?_, ?_⟩
  · refine h.holds.step (fun w gs hinv => ⟨hinv.1, fun g hg => ?_⟩) (fun c _ => keeps_steps c)
      (Tracker.allows_of_forall (fun _ _ _ _ _ => trivial) l) hst
    rcases List.mem_append.mp hg with hg | hg
    · exact hinv.2 g hg
    · rw [List.mem_singleton.mp hg]
      trivial
  · obtain ⟨c, rfl, rfl⟩ | ⟨n, e, done, o, k, rfl, hn, rfl⟩ := Pool.step_cases hst
    · exact h.old
    · exact fun b hb => blobs_subset o e _ (h.old hb)
  · obtain ⟨c, rfl, rfl⟩ | ⟨n, e, done, o, k, rfl, hn, rfl⟩ := Pool.step_cases hst
    · intro c' hc' t k plaintext blob hmem
      rcases List.mem_append.mp hc' with hc' | hc'
      · exact h.made c' hc' t k plaintext blob hmem
      · rw [List.mem_singleton.mp hc'] at hmem
        cases hmem
    · intro c' hc' t k' plaintext blob hmem
      rcases List.mem_or_eq_of_mem_set hc' with hc' | rfl
      · exact blobs_subset o e _ (h.made c' hc' t k' plaintext blob hmem)
      · rcases List.mem_cons.mp hmem with hnew | hmem
        · obtain ⟨rfl, hanswer⟩ := Sigma.mk.inj_iff.mp hnew
          exact mem_blobs_of_sealed (eq_of_heq hanswer).symm
        · exact blobs_subset o e _ (h.made _ (List.mem_of_getElem? hn) t k' plaintext blob hmem)

lemma keyBooks_start : KeyBooks root [] ⟨{}, []⟩ where
  holds := by
    refine Tracker.holds_nil ⟨⟨List.nodup_nil, fun c hc => ?_, fun b hb => ?_⟩, fun g hg => ?_⟩
    · cases hc
    · cases hb
    · cases hg
  old := List.Subset.refl _
  made _ hc := by cases hc

/-- **In every run** the books are kept. -/
lemma KeyBooks.run (h : KeyBooks root old p) {ls : List (Pool.Label KeyCall KeyEnv)}
    (hrun : Lts.run (keyStep root) p ls = some p') : KeyBooks root old p' :=
  Lts.run_induct (C := fun _ _ => True) (fun _ _ _ hp _ hst => hp.step hst) h
    (Lts.meets_of_forall p fun _ _ => trivial) hrun

/-- The blobs of a moment are old afterwards. -/
lemma KeyBooks.aged (h : KeyBooks root old p) : KeyBooks root p.shared.blobs p :=
  ⟨h.holds, List.Subset.refl _, h.made⟩

lemma mem_keyIDs_filter {e : Encryptor} {keyID id : Bytes} :
    id ∈ ({ e with keyStore := e.keyStore.filter fun k => k.1 ≠ keyID } : Encryptor).keyIDs ↔
      id ∈ e.keyIDs ∧ id ≠ keyID := by
  unfold Encryptor.keyIDs
  constructor
  · intro h
    obtain ⟨k, hk, rfl⟩ := List.mem_map.mp h
    obtain ⟨hk, hne⟩ := List.mem_filter.mp hk
    exact ⟨List.mem_map_of_mem hk, by simpa using hne⟩
  · rintro ⟨h, hne⟩
    obtain ⟨k, hk, rfl⟩ := List.mem_map.mp h
    exact List.mem_map_of_mem (List.mem_filter.mpr ⟨hk, by simpa using hne⟩)

/-- What an operation does to the key ids. -/
lemma known_exec_iff (o : KeyOp) (e : KeyEnv) (w : KeyWorld) : Known tenantID (o.exec root e w).2 ↔
    (∃ dek, o = .register (keyIDFor tenantID) dek) ∨ Known tenantID w ∧ o ≠ .forgetKey (keyIDFor tenantID) := by
  unfold Known
  cases o with
  | generate keyID =>
    simp only [KeyOp.exec]
    split <;> simp
  | sealBody t k plaintext =>
    simp only [KeyOp.exec]
    split <;> simp
  | register keyID dek =>
    simp only [KeyOp.exec, Encryptor.keyIDs, mem_keys_assign]
    simp [eq_comm, or_comm]
  | forgetKey keyID =>
    simp only [KeyOp.exec, mem_keyIDs_filter]
    simp [eq_comm]
  | _ => simp [KeyOp.exec, Encryptor.forget, Encryptor.keyIDs]

lemma known_step_iff (hst : keyStep root p l = some p') :
    Known tenantID p'.shared ↔ Registers tenantID p l ∨ Known tenantID p.shared ∧ ¬ ForgetsKey tenantID p l := by
  obtain ⟨c, rfl, rfl⟩ | ⟨n, e, done, o, k, rfl, hn, rfl⟩ := Pool.step_cases hst
  · simp [Registers, ForgetsKey]
  · rw [known_exec_iff]
    refine or_congr ⟨?_, ?_⟩ (and_congr_right fun _ => not_congr ⟨?_, ?_⟩)
    · rintro ⟨dek, rfl⟩
      exact ⟨n, e, done, dek, k, rfl, hn⟩
    · rintro ⟨n', e', done', dek, k', hl, hn'⟩
      cases hl
      cases Option.some.inj (hn.symm.trans hn')
      exact ⟨dek, rfl⟩
    · rintro rfl
      exact ⟨n, e, done, k, rfl, hn⟩
    · rintro ⟨n', e', done', k', hl, hn'⟩
      cases hl
      cases Option.some.inj (hn.symm.trans hn')
      rfl

/-- A late `Encrypt` has made a blob. -/
lemma sealed_step_iff (hst : keyStep root p l = some p') :
    p'.Escaped n (HasSealed tenantID) ↔ p.Escaped n (HasSealed tenantID) ∨ SealsLate root n tenantID p l := by
  rw [Pool.escaped_step_iff (Y := IsSeal tenantID) (by simp [HasSealed]) (fun x done => by simp [HasSealed]) hst]
  refine or_congr_right ⟨?_, ?_⟩
  · rintro ⟨m, e, done, o, next, rfl, hm, hthread, k, plaintext, blob, hmade⟩
    obtain ⟨rfl, hanswer⟩ := Sigma.mk.inj_iff.mp hmade
    exact ⟨m, e, done, k, plaintext, next, rfl, hm, hthread, by rw [eq_of_heq hanswer]; rfl⟩
  · rintro ⟨m, e, done, k, plaintext, next, rfl, hm, hthread, hsome⟩
    obtain ⟨blob, hblob⟩ := Option.isSome_iff_exists.mp hsome
    exact ⟨m, e, done, _, next, rfl, hm, hthread, k, plaintext, blob, by rw [hblob]⟩

/-- **When an erasure is final**, in terms of the key id. -/
lemma finallyErased_iff (h : KeyBooks root old p) : FinallyErased root old n tenantID p ↔
    ((∃ b ∈ old, b.tenantID = tenantID) → ¬ Known tenantID p.shared) ∧
      (p.Escaped n (HasSealed tenantID) → Known tenantID p.shared) := by
  have hsound : Sound root p.shared := h.holds.inv.1
  have hdecrypt : ∀ b ∈ p.shared.blobs, ∀ t, t ≠ [] → p.shared.decrypt root t b.blob =
      if Known b.tenantID p.shared then if t = b.tenantID then .ok b.plaintext else .error .aeadOpen
      else .error .unwrapDEK := fun b hb t ht => decrypt_blob hsound.ideal (hsound.blobs b hb).2 ht
  refine and_congr ⟨?_, ?_⟩ ⟨?_, ?_⟩
  · rintro hold ⟨b, hb, rfl⟩ hknown
    obtain ⟨err, herr⟩ := hold b hb rfl b.tenantID
    rw [hdecrypt b (h.old hb) _ (hsound.blobs b (h.old hb)).1, if_pos hknown, if_pos rfl] at herr
    cases herr
  · rintro hold b hb rfl t
    by_cases ht : t = []
    · subst ht
      exact ⟨_, decrypt_nil _⟩
    · rw [hdecrypt b (h.old hb) t ht, if_neg (hold ⟨b, hb, rfl⟩)]
      exact ⟨_, rfl⟩
  · rintro hlate ⟨m, c, hm, hc, _, hmem, k, plaintext, blob, rfl⟩
    have hb := h.made c (List.mem_of_getElem? hc) _ _ _ _ hmem
    have hok := hlate m c hm hc k plaintext blob hmem
    rw [hdecrypt _ hb _ (hsound.blobs _ hb).1] at hok
    by_contra hunknown
    rw [if_neg hunknown] at hok
    cases hok
  · intro hlate m c hm hc k plaintext blob hmem
    have hb := h.made c (List.mem_of_getElem? hc) _ _ _ _ hmem
    rw [hdecrypt _ hb _ (hsound.blobs _ hb).1, if_pos (hlate ⟨m, c, hm, hc, _, hmem, k, plaintext, blob, rfl⟩),
      if_pos rfl]

variable (root tenantID n p l) in
/-- An operation is one of these at most. -/
lemma key_events_exclusive :
    ¬ (Registers tenantID p l ∧ SealsLate root n tenantID p l) ∧
      ¬ (Registers tenantID p l ∧ ForgetsKey tenantID p l) ∧
      ¬ (SealsLate root n tenantID p l ∧ ForgetsKey tenantID p l) := by
  refine ⟨?_, ?_, ?_⟩
  · rintro ⟨⟨m, e, done, dek, k, rfl, hthread⟩, ⟨m', e', done', k', plaintext, next, hl, -, hthread', -⟩⟩
    cases hl
    cases Option.some.inj (hthread.symm.trans hthread')
  · rintro ⟨⟨m, e, done, dek, k, rfl, hthread⟩, ⟨m', e', done', k', hl, hthread'⟩⟩
    cases hl
    cases Option.some.inj (hthread.symm.trans hthread')
  · rintro ⟨⟨m, e, done, k, plaintext, next, rfl, -, hthread, -⟩, ⟨m', e', done', k', hl, hthread'⟩⟩
    cases hl
    cases Option.some.inj (hthread.symm.trans hthread')

/-- **One step**: what it must not do for the erasure to stay final. -/
lemma finallyErased_step_iff (h : KeyBooks root old p) (hfinal : FinallyErased root old n tenantID p)
    (hst : keyStep root p l = some p') : FinallyErased root old n tenantID p' ↔
      ((∃ b ∈ old, b.tenantID = tenantID) → ¬ Registers tenantID p l) ∧
        (SealsLate root n tenantID p l → Known tenantID p.shared) ∧
        (ForgetsKey tenantID p l → ¬ p.Escaped n (HasSealed tenantID)) := by
  obtain ⟨hRS, hRF, hSF⟩ := key_events_exclusive root tenantID p n l
  rw [finallyErased_iff h] at hfinal
  rw [finallyErased_iff (h.step hst), known_step_iff hst, sealed_step_iff hst]
  constructor
  · rintro ⟨hold, hlate⟩
    refine ⟨fun ho hr => hold ho (.inl hr), fun hs => ?_, fun hf hl => ?_⟩
    · rcases hlate (.inr hs) with hr | ⟨hk, -⟩
      · exact absurd ⟨hr, hs⟩ hRS
      · exact hk
    · rcases hlate (.inl hl) with hr | ⟨-, hnf⟩
      · exact hRF ⟨hr, hf⟩
      · exact hnf hf
  · rintro ⟨hold, hseal, hforget⟩
    constructor
    · rintro ho (hr | ⟨hk, -⟩)
      · exact hold ho hr
      · exact hfinal.1 ho hk
    · rintro (hl | hs)
      · exact .inr ⟨hfinal.2 hl, fun hf => hforget hf hl⟩
      · exact .inr ⟨hseal hs, fun hf => hSF ⟨hs, hf⟩⟩

/-- What an erasure leaves. -/
lemma Erases.unknown (h : Erases root p p' tenantID) : ¬ Known tenantID p'.shared := by
  obtain ⟨m, e, done, k, rec, hthread, -, hst⟩ := h
  rw [known_step_iff hst]
  rintro (⟨m', e', done', dek, k', hl, hthread'⟩ | ⟨-, hnot⟩)
  · cases hl
    cases Option.some.inj (hthread.symm.trans hthread')
  · exact hnot ⟨m, e, done, k, rfl, hthread⟩

/-- **Cryptographic erasure is final**, and leaves the tenant a working encryptor, exactly if after it no data key of
the tenant is registered while there are blobs from before, and every `Encrypt` that starts later seals while the key
id is known. The blobs are those of any earlier moment, such as the one when `Erase` began. -/
theorem erased_final_iff (root tenantID : Bytes) {ls₀ ls₁ ls₂ : List (Pool.Label KeyCall KeyEnv)}
    {began p p' p'' : KeyPool} (hbegan : Lts.run (keyStep root) ⟨{}, []⟩ ls₀ = some began)
    (hrun : Lts.run (keyStep root) began ls₁ = some p) (herase : Erases root p p' tenantID)
    (hafter : Lts.run (keyStep root) p' ls₂ = some p'')
    (hone : Lts.Meets (keyStep root) (fun q l => ¬ ForgetsKey tenantID q l) p' ls₂) :
    Lts.Throughout (keyStep root) (FinallyErased root began.shared.blobs p'.threads.length tenantID) p' ls₂ ↔
      Lts.Meets (keyStep root) (fun q l =>
        ((∃ b ∈ began.shared.blobs, b.tenantID = tenantID) → ¬ Registers tenantID q l) ∧
          (SealsLate root p'.threads.length tenantID q l → Known tenantID q.shared)) p' ls₂ := by
  have hbooks : KeyBooks root began.shared.blobs p' := by
    obtain ⟨m, e, done, k, rec, -, -, hst⟩ := herase
    exact ((keyBooks_start.run hbegan).aged.run hrun).step hst
  have hfinal : FinallyErased root began.shared.blobs p'.threads.length tenantID p' := by
    rw [finallyErased_iff hbooks]
    refine ⟨fun _ => herase.unknown, ?_⟩
    rintro ⟨m, c, hm, hc, -⟩
    rw [List.getElem?_eq_none hm] at hc
    cases hc
  rw [Lts.throughout_iff (J := fun q => KeyBooks root began.shared.blobs q ∧
    FinallyErased root began.shared.blobs p'.threads.length tenantID q) (fun q l q' hq hC hst =>
      ⟨hq.1.step hst, (finallyErased_step_iff hq.1 hq.2 hst).mpr hC⟩)
    (fun q l q' hq hst => finallyErased_step_iff hq.1 hq.2 hst) ⟨hbooks, hfinal⟩ hfinal hafter]
  refine Lts.meets_congr_of_meets (fun q l hnot => ?_) hone
  rw [← and_assoc, and_iff_left]
  intro hforgets
  exact absurd hforgets hnot

end Runs

/-! ### A tenant that goes on -/

namespace Sample

def keyRoot : Bytes := List.replicate 32 7

def text : Bytes := List.replicate 32 9

/-- The random bytes of the operation with this number. -/
def keyEnv (n : UInt8) : KeyEnv := { key := keyRandom n }

/-- An `Encrypt` without a cached key, from its start to its end. -/
def encryptRun (i : ℕ) (n : UInt8) : List (Pool.Label KeyCall KeyEnv) :=
  [.spawn (.encrypt tenant text), .advance i (keyEnv 0), .advance i (keyEnv n), .advance i (keyEnv 0),
    .advance i (keyEnv 0), .advance i (keyEnv (n + 1))]

/-- An `Erase` without hooks, up to its last step. -/
def eraseRun : List (Pool.Label KeyCall KeyEnv) := [.spawn (.erase 0 tenant), .advance 1 (keyEnv 0)]

def forgotten : List (Pool.Label KeyCall KeyEnv) := encryptRun 0 1 ++ eraseRun ++ [.advance 1 (keyEnv 0)]

def keysAfter (ls : List (Pool.Label KeyCall KeyEnv)) : KeyPool :=
  (Lts.run (keyStep keyRoot) ⟨{}, []⟩ ls).getD ⟨{}, []⟩

lemma erases : Erases keyRoot (keysAfter (encryptRun 0 1 ++ eraseRun)) (keysAfter forgotten) tenant :=
  ⟨1, keyEnv 0, _, _, { tenantID := tenant }, rfl, rfl, rfl⟩

lemma old_blob : ∃ b ∈ (keysAfter (encryptRun 0 1)).shared.blobs, b.tenantID = tenant :=
  ⟨⟨tenant, text, _⟩, List.mem_singleton.mpr rfl, rfl⟩

lemma began_run : Lts.run (keyStep keyRoot) ⟨{}, []⟩ (encryptRun 0 1) = some (keysAfter (encryptRun 0 1)) := rfl

lemma erase_run : Lts.run (keyStep keyRoot) (keysAfter (encryptRun 0 1)) eraseRun =
    some (keysAfter (encryptRun 0 1 ++ eraseRun)) := rfl

end Sample

/-- **The failing input**: an `Encrypt` after the erasure registers the key id again, and the blob from before can be
read. -/
theorem encrypt_revives_erased :
    Lts.run (keyStep Sample.keyRoot) ⟨{}, []⟩ (Sample.encryptRun 0 1) =
        some (Sample.keysAfter (Sample.encryptRun 0 1)) ∧
      Lts.run (keyStep Sample.keyRoot) (Sample.keysAfter (Sample.encryptRun 0 1)) Sample.eraseRun =
        some (Sample.keysAfter (Sample.encryptRun 0 1 ++ Sample.eraseRun)) ∧
      Erases Sample.keyRoot (Sample.keysAfter (Sample.encryptRun 0 1 ++ Sample.eraseRun))
        (Sample.keysAfter Sample.forgotten) Sample.tenant ∧
      Lts.run (keyStep Sample.keyRoot) (Sample.keysAfter Sample.forgotten) (Sample.encryptRun 2 3) =
        some (Sample.keysAfter (Sample.forgotten ++ Sample.encryptRun 2 3)) ∧
      ¬ FinallyErased Sample.keyRoot (Sample.keysAfter (Sample.encryptRun 0 1)).shared.blobs 2 Sample.tenant
        (Sample.keysAfter (Sample.forgotten ++ Sample.encryptRun 2 3)) := by
  have hlast : Lts.run (keyStep Sample.keyRoot) (Sample.keysAfter Sample.forgotten) (Sample.encryptRun 2 3) =
      some (Sample.keysAfter (Sample.forgotten ++ Sample.encryptRun 2 3)) := rfl
  refine ⟨Sample.began_run, Sample.erase_run, Sample.erases, hlast, fun hfinal => ?_⟩
  have hbooks : KeyBooks Sample.keyRoot (Sample.keysAfter (Sample.encryptRun 0 1)).shared.blobs
      (Sample.keysAfter Sample.forgotten) := by
    have hstep : keyStep Sample.keyRoot (Sample.keysAfter (Sample.encryptRun 0 1 ++ Sample.eraseRun))
        (.advance 1 (Sample.keyEnv 0)) = some (Sample.keysAfter Sample.forgotten) := rfl
    exact ((keyBooks_start.run Sample.began_run).aged.run Sample.erase_run).step hstep
  have hknown : Known Sample.tenant (Sample.keysAfter (Sample.forgotten ++ Sample.encryptRun 2 3)).shared :=
    List.mem_singleton.mpr rfl
  exact ((finallyErased_iff (hbooks.run hlast)).mp hfinal).1 Sample.old_blob hknown

/-- Without another `Encrypt`, the blob from before stays unreadable. -/
theorem erased_without_encrypt :
    Lts.Throughout (keyStep Sample.keyRoot)
      (FinallyErased Sample.keyRoot (Sample.keysAfter (Sample.encryptRun 0 1)).shared.blobs 2 Sample.tenant)
      (Sample.keysAfter Sample.forgotten) [.spawn (.decrypt Sample.tenant []), .advance 2 (Sample.keyEnv 0)] := by
  have hafter : Lts.run (keyStep Sample.keyRoot) (Sample.keysAfter Sample.forgotten)
      [.spawn (.decrypt Sample.tenant []), .advance 2 (Sample.keyEnv 0)] =
        some (Sample.keysAfter (Sample.forgotten ++
          [.spawn (.decrypt Sample.tenant []), .advance 2 (Sample.keyEnv 0)])) := rfl
  -- the only operation is a `Decrypt`
  have hthread : ∀ q, keyStep Sample.keyRoot (Sample.keysAfter Sample.forgotten)
      (.spawn (.decrypt Sample.tenant [])) = some q →
        ∃ k, q.threads[2]? = some ⟨[], .call (.decrypt Sample.tenant []) k⟩ := by
    rintro q hq
    cases hq
    exact ⟨_, rfl⟩
  refine (erased_final_iff Sample.keyRoot Sample.tenant Sample.began_run Sample.erase_run Sample.erases hafter
    ?_).mpr ?_
  · refine ⟨?_, fun q hq => ⟨?_, fun _ _ => trivial⟩⟩
    · rintro ⟨n, e, done, k, hl, -⟩
      cases hl
    · obtain ⟨k, hk⟩ := hthread q hq
      rintro ⟨n, e, done, k', hl, hn⟩
      cases hl
      cases hk.symm.trans hn
  · refine ⟨⟨fun _ => ?_, ?_⟩, fun q hq => ⟨⟨fun _ => ?_, ?_⟩, fun _ _ => trivial⟩⟩
    · rintro ⟨n, e, done, dek, k, hl, -⟩
      cases hl
    · rintro ⟨n, e, done, k, plaintext, next, hl, -⟩
      cases hl
    · obtain ⟨k, hk⟩ := hthread q hq
      rintro ⟨n, e, done, dek, k', hl, hn⟩
      cases hl
      cases hk.symm.trans hn
    · obtain ⟨k, hk⟩ := hthread q hq
      rintro ⟨n, e, done, k', plaintext, next, hl, -, hn, -⟩
      cases hl
      cases hk.symm.trans hn

end Sn360Es.Privacy
