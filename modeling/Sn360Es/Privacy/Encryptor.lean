import Sn360Es.Lib.Aead
import Sn360Es.Lib.Hex
import Sn360Es.Lib.Lts

/-!
# The envelope encryptor (`pkg/privacy/encryptor.go`, `pkg/privacy/kms.go`, `pkg/privacy/key_rotation.go`)

An encryptor seals under a data key of the tenant, and puts the data key, wrapped under the root key, into the blob. To
unwrap it, `MockKMS.Decrypt` tries the key ids that this instance has generated keys for. So a blob can only be read
where a key of the tenant was generated before: by an `Encrypt` or a `RotateTenant` on the same instance. AES-GCM is
ideal, and its ciphertexts, like the nonces and the keys, come with the calls.

* `step` — the calls on any number of instances with one root key; a replica or a restart is a new instance;
* `Inv` — which key ids an instance knows, and what is in its cache and in the blobs;
* `decrypt_blob` — what `Decrypt` makes of a blob, on any instance and for any tenant;
* `blobs_readable_iff` — every blob is readable everywhere exactly if every instance has itself generated a key for the
  tenant of every blob.
-/

namespace Sn360Es.Privacy

open Lib Lib.Aead

/-! ### One instance -/

/-- `cachedKey`. -/
structure CachedKey where
  dek : Bytes
  wrapped : Bytes
deriving DecidableEq, Repr

/-- A `kmsEncryptor` with its `MockKMS`: the keys by key id, and the cache by tenant. -/
structure Encryptor where
  keyStore : List (Bytes × Bytes) := []
  cache : List (Bytes × CachedKey) := []
deriving DecidableEq, Repr

/-- `KeyIDFor`. -/
def keyIDFor (tenantID : Bytes) : Bytes := bytesOf "sn360-tenant-" ++ tenantID

/-- An assignment to a map. -/
def assign {β : Type} (m : List (Bytes × β)) (k : Bytes) (v : β) : List (Bytes × β) :=
  m.filter (fun e => e.1 ≠ k) ++ [(k, v)]

/-- `Forget`. -/
def Encryptor.forget (e : Encryptor) (tenantID : Bytes) : Encryptor :=
  { e with cache := e.cache.filter fun c => c.1 ≠ tenantID }

/-- The blob: the length of the wrapped key in two bytes, the wrapped key, the nonce and the ciphertext. -/
def frame (wrapped nonce body : Bytes) : Bytes :=
  [.ofNat (wrapped.length % 256), .ofNat (wrapped.length / 256 % 256)] ++ wrapped ++ nonce ++ body

/-- The errors of `Decrypt`. -/
inductive DecryptError where
  | tenantRequired
  | blobTooShort
  | lengthMismatch
  | unwrapDEK
  | bodyShorterThanNonce
  | aeadOpen
deriving DecidableEq, Repr

/-- What AES-GCM has sealed. -/
abbrev Seals := List (Seal Bytes Bytes Bytes Bytes Bytes)

/-- `MockKMS.Decrypt`: the key ids of the instance are tried, and then the empty one. -/
def Encryptor.unwrap (e : Encryptor) (root : Bytes) (seals : Seals) (ciphertext : Bytes) : Option Bytes :=
  if ciphertext.length < 12 then none
  else (e.keyStore.map Prod.fst ++ [[]]).findSome? fun id => opens seals root (ciphertext.take 12) id (ciphertext.drop 12)

/-- `Decrypt`. -/
def Encryptor.decrypt (e : Encryptor) (root : Bytes) (seals : Seals) (tenantID blob : Bytes) :
    Except DecryptError Bytes :=
  if tenantID = [] then .error .tenantRequired
  else
    match blob with
    | b0 :: b1 :: rest =>
      let wrappedLen := b0.toNat + 256 * b1.toNat
      if rest.length < wrappedLen + 12 then .error .lengthMismatch
      else
        match e.unwrap root seals (rest.take wrappedLen) with
        | none => .error .unwrapDEK
        | some dek =>
          let body := rest.drop wrappedLen
          if body.length < 12 then .error .bodyShorterThanNonce
          else
            match opens seals dek (body.take 12) tenantID (body.drop 12) with
            | none => .error .aeadOpen
            | some pt => .ok pt
    | _ => .error .blobTooShort

/-! ### Many instances -/

/-- A blob, with what it was made of. -/
structure Entry where
  tenantID : Bytes
  plaintext : Bytes
  blob : Bytes

/-- The instances with the root key, what was sealed, and the blobs that were handed out. -/
structure World where
  root : Bytes
  instances : List Encryptor := []
  seals : Seals := []
  blobs : List Entry := []

/-- The random bytes of `GenerateDataKey`, and the ciphertext. -/
structure KeyRandom where
  dek : Bytes
  nonce : Bytes
  ciphertext : Bytes

inductive Act where
  /-- `buildURLEncryptor`. -/
  | start
  | encrypt (i : ℕ) (tenantID plaintext : Bytes) (key : KeyRandom) (nonce ciphertext : Bytes)
  | decrypt (i : ℕ) (tenantID blob : Bytes)
  | forget (i : ℕ) (tenantID : Bytes)
  | rotateTenant (i : ℕ) (tenantID : Bytes) (key : KeyRandom)

namespace World

variable (w : World)

/-- `Seal`: the nonce has 12 bytes, the ciphertext is 16 bytes longer than the plaintext, and new. -/
def sealWith (key nonce data plaintext ciphertext : Bytes) : Option World :=
  if nonce.length = 12 ∧ ciphertext.length = plaintext.length + 16 ∧ fresh w.seals ciphertext then
    some { w with seals := w.seals ++ [⟨key, nonce, data, plaintext, ciphertext⟩] }
  else none

def setInstance (i : ℕ) (e : Encryptor) : World := { w with instances := w.instances.set i e }

/-- `GenerateDataKey`; the key id is not empty. -/
def generateDataKey (i : ℕ) (e : Encryptor) (keyID : Bytes) (r : KeyRandom) : Option (CachedKey × Encryptor × World) :=
  if r.dek.length = 32 then
    (w.sealWith w.root r.nonce keyID r.dek r.ciphertext).map fun w' =>
      let e' := { e with keyStore := assign e.keyStore keyID r.dek }
      (⟨r.dek, r.nonce ++ r.ciphertext⟩, e', w'.setInstance i e')
  else none

/-- `dekFor`. -/
def dekFor (i : ℕ) (e : Encryptor) (tenantID : Bytes) (r : KeyRandom) : Option (CachedKey × World) :=
  match e.cache.find? fun c => c.1 = tenantID with
  | some c => some (c.2, w)
  | none =>
    (w.generateDataKey i e (keyIDFor tenantID) r).map fun (k, e', w') =>
      (k, w'.setInstance i { e' with cache := assign e'.cache tenantID k })

/-- `Encrypt`; without a tenant it is an error. -/
def encrypt (i : ℕ) (e : Encryptor) (tenantID plaintext : Bytes) (r : KeyRandom) (nonce ciphertext : Bytes) :
    Option World :=
  if tenantID = [] then some w
  else
    (w.dekFor i e tenantID r).bind fun (k, w') =>
      (w'.sealWith k.dek nonce tenantID plaintext ciphertext).map fun w'' =>
        { w'' with blobs := w''.blobs ++ [⟨tenantID, plaintext, frame k.wrapped nonce ciphertext⟩] }

/-- `RotateTenant`. -/
def rotateTenant (i : ℕ) (e : Encryptor) (tenantID : Bytes) (r : KeyRandom) : Option World :=
  (w.generateDataKey i e (keyIDFor tenantID) r).map fun (_, e', w') => w'.setInstance i (e'.forget tenantID)

/-- A call, on an instance that there is. -/
def step : Act → Option World
  | .start => some { w with instances := w.instances ++ [{}] }
  | .encrypt i tenantID plaintext key nonce ciphertext =>
    w.instances[i]?.bind fun e => w.encrypt i e tenantID plaintext key nonce ciphertext
  | .decrypt i _ _ => w.instances[i]?.map fun _ => w
  | .forget i tenantID => w.instances[i]?.map fun e => w.setInstance i (e.forget tenantID)
  | .rotateTenant i tenantID key => w.instances[i]?.bind fun e => w.rotateTenant i e tenantID key

end World

/-- The call generates a key for the tenant on the instance, unless there was one before. -/
def Act.touches (a : Act) (i : ℕ) (tenantID : Bytes) : Prop :=
  match a with
  | .encrypt j t _ _ _ _ => j = i ∧ t = tenantID ∧ t ≠ []
  | .rotateTenant j t _ => j = i ∧ t = tenantID
  | _ => False

/-- The instance was asked to encrypt for the tenant, or to rotate its key. -/
def Touched (acts : List Act) (i : ℕ) (tenantID : Bytes) : Prop := ∃ a ∈ acts, a.touches i tenantID

/-- **Self-contained blobs**: every instance reads every blob, for its tenant and for no other. -/
def World.Readable (w : World) : Prop :=
  ∀ b ∈ w.blobs, ∀ e ∈ w.instances, e.decrypt w.root w.seals b.tenantID b.blob = .ok b.plaintext ∧
    ∀ t, t ≠ b.tenantID → ∃ err, e.decrypt w.root w.seals t b.blob = .error err

/-! ### What the instances know -/

lemma keyIDFor_inj {t t' : Bytes} : keyIDFor t = keyIDFor t' ↔ t = t' := List.append_right_inj _

lemma keyIDFor_ne_nil (t : Bytes) : keyIDFor t ≠ [] := by
  refine List.append_ne_nil_of_left_ne_nil ?_ t
  decide +kernel

lemma mem_assign {β : Type} {m : List (Bytes × β)} {k : Bytes} {v : β} {c : Bytes × β} (h : c ∈ assign m k v) :
    c ∈ m ∨ c = (k, v) := by
  rcases List.mem_append.mp h with h | h
  · exact .inl (List.mem_of_mem_filter h)
  · exact .inr (List.mem_singleton.mp h)

lemma mem_keys_assign {β : Type} {m : List (Bytes × β)} {k k' : Bytes} {v : β} :
    k' ∈ (assign m k v).map Prod.fst ↔ k' ∈ m.map Prod.fst ∨ k' = k := by
  constructor
  · intro h
    obtain ⟨c, hc, rfl⟩ := List.mem_map.mp h
    rcases mem_assign hc with hc | rfl
    · exact .inl (List.mem_map_of_mem hc)
    · exact .inr rfl
  · rintro (h | rfl)
    · obtain ⟨c, hc, rfl⟩ := List.mem_map.mp h
      by_cases hk : c.1 = k
      · rw [hk]
        exact List.mem_map.mpr ⟨(k, v), List.mem_append_right _ List.mem_cons_self, rfl⟩
      · exact List.mem_map_of_mem (List.mem_append_left _ (List.mem_filter.mpr ⟨hc, by simpa using hk⟩))
    · exact List.mem_map.mpr ⟨(k', v), List.mem_append_right _ List.mem_cons_self, rfl⟩

/-- The key ids of an instance. -/
def Encryptor.keyIDs (e : Encryptor) : List Bytes := e.keyStore.map Prod.fst

/-- The data key of a tenant, sealed under the root key with its key id. -/
def Wrapped (root : Bytes) (seals : Seals) (t : Bytes) (k : CachedKey) : Prop :=
  ∃ nonce ct, k.wrapped = nonce ++ ct ∧ nonce.length = 12 ∧ ct.length = 48 ∧
    (⟨root, nonce, keyIDFor t, k.dek, ct⟩ : Seal _ _ _ _ _) ∈ seals

/-- A blob, sealed under a data key of its tenant. -/
def SealedBlob (root : Bytes) (seals : Seals) (b : Entry) : Prop :=
  ∃ k nonce ct, Wrapped root seals b.tenantID k ∧ nonce.length = 12 ∧ b.blob = frame k.wrapped nonce ct ∧
    (⟨k.dek, nonce, b.tenantID, b.plaintext, ct⟩ : Seal _ _ _ _ _) ∈ seals

/-- The invariant; `T i t` says that the instance `i` has generated a key for `t`. -/
structure Inv (T : ℕ → Bytes → Prop) (w : World) : Prop where
  ideal : Ideal w.seals
  bound : ∀ i t, T i t → i < w.instances.length
  known : ∀ i e, w.instances[i]? = some e → ∀ t, keyIDFor t ∈ e.keyIDs ↔ T i t
  cached : ∀ e ∈ w.instances, ∀ c ∈ e.cache, keyIDFor c.1 ∈ e.keyIDs ∧ Wrapped w.root w.seals c.1 c.2
  blobs : ∀ b ∈ w.blobs, b.tenantID ≠ [] ∧ SealedBlob w.root w.seals b

section Invariant

variable {T : ℕ → Bytes → Prop} {w w' : World} {i : ℕ} {e : Encryptor} {t : Bytes} {seals seals' : Seals} {root : Bytes}

lemma Wrapped.mono {k : CachedKey} (hsub : seals ⊆ seals') (h : Wrapped root seals t k) : Wrapped root seals' t k := by
  obtain ⟨nonce, ct, hw, hn, hc, hmem⟩ := h
  exact ⟨nonce, ct, hw, hn, hc, hsub hmem⟩

lemma SealedBlob.mono {b : Entry} (hsub : seals ⊆ seals') (h : SealedBlob root seals b) : SealedBlob root seals' b := by
  obtain ⟨k, nonce, ct, hw, hn, hb, hmem⟩ := h
  exact ⟨k, nonce, ct, hw.mono hsub, hn, hb, hsub hmem⟩

lemma Inv.congr {T' : ℕ → Bytes → Prop} (h : Inv T w) (hT : ∀ i t, T i t ↔ T' i t) : Inv T' w where
  ideal := h.ideal
  bound i t ht := h.bound i t ((hT i t).mpr ht)
  known i e he t := (h.known i e he t).trans (hT i t)
  cached := h.cached
  blobs := h.blobs

lemma sealWith_cases {key nonce data plaintext ct : Bytes} (h : w.sealWith key nonce data plaintext ct = some w') :
    nonce.length = 12 ∧ ct.length = plaintext.length + 16 ∧ fresh w.seals ct = true ∧
      w' = { w with seals := w.seals ++ [⟨key, nonce, data, plaintext, ct⟩] } := by
  unfold World.sealWith at h
  split at h
  · next hok => exact ⟨hok.1, hok.2.1, hok.2.2, (Option.some.inj h).symm⟩
  · cases h

/-- Sealing keeps what is known of the instances and the blobs. -/
lemma Inv.sealWith {key nonce data plaintext ct : Bytes} (h : Inv T w)
    (hs : w.sealWith key nonce data plaintext ct = some w') : Inv T w' := by
  obtain ⟨-, -, hfresh, rfl⟩ := sealWith_cases hs
  have hsub : w.seals ⊆ w.seals ++ [⟨key, nonce, data, plaintext, ct⟩] := List.subset_append_left _ _
  refine ⟨h.ideal.concat hfresh, h.bound, h.known, fun e he c hc => ?_, fun b hb => ?_⟩
  · exact ⟨(h.cached e he c hc).1, (h.cached e he c hc).2.mono hsub⟩
  · exact ⟨(h.blobs b hb).1, (h.blobs b hb).2.mono hsub⟩

/-- An instance is replaced by one that knows the key ids of `T'` and has a sound cache. -/
lemma Inv.setInstance {T' : ℕ → Bytes → Prop} {e' : Encryptor} (h : Inv T w) (hi : i < w.instances.length)
    (hT : ∀ j t, j ≠ i → (T' j t ↔ T j t)) (hknown : ∀ t, keyIDFor t ∈ e'.keyIDs ↔ T' i t)
    (hcache : ∀ c ∈ e'.cache, keyIDFor c.1 ∈ e'.keyIDs ∧ Wrapped w.root w.seals c.1 c.2) :
    Inv T' (w.setInstance i e') where
  ideal := h.ideal
  bound j t ht := by
    show j < (w.instances.set i e').length
    rw [List.length_set]
    by_cases hj : j = i
    · rw [hj]
      exact hi
    · exact h.bound j t ((hT j t hj).mp ht)
  known j e he t := by
    have he : (w.instances.set i e')[j]? = some e := he
    by_cases hj : j = i
    · subst hj
      rw [List.getElem?_set_self hi] at he
      rw [← Option.some.inj he]
      exact hknown t
    · rw [List.getElem?_set_ne (Ne.symm hj)] at he
      exact (h.known j e he t).trans (hT j t hj).symm
  cached e he c hc := by
    rcases List.mem_or_eq_of_mem_set he with he | rfl
    · exact h.cached e he c hc
    · exact hcache c hc
  blobs := h.blobs

/-- `T` with one more key. -/
def More (T : ℕ → Bytes → Prop) (i : ℕ) (t : Bytes) : ℕ → Bytes → Prop := fun j u => T j u ∨ j = i ∧ u = t

lemma more_of_ne {j : ℕ} {u : Bytes} (hj : j ≠ i) : More T i t j u ↔ T j u :=
  or_iff_left fun h => hj h.1

/-- What `GenerateDataKey` does. -/
lemma Inv.generateDataKey {k : CachedKey} {e' : Encryptor} {r : KeyRandom} (h : Inv T w) (he : w.instances[i]? = some e)
    (hg : w.generateDataKey i e (keyIDFor t) r = some (k, e', w')) :
    Inv (More T i t) w' ∧ w'.instances[i]? = some e' ∧ keyIDFor t ∈ e'.keyIDs ∧ Wrapped w'.root w'.seals t k := by
  have hi : i < w.instances.length := (List.getElem?_eq_some_iff.mp he).1
  unfold World.generateDataKey at hg
  split at hg
  · next hdek =>
    obtain ⟨w₁, hseal, heq⟩ := Option.map_eq_some_iff.mp hg
    obtain ⟨rfl, rfl, rfl⟩ : _ = k ∧ _ = e' ∧ _ = w' := by simpa using heq
    have hinv : Inv T w₁ := h.sealWith hseal
    obtain ⟨hnonce, hct, -, rfl⟩ := sealWith_cases hseal
    have hids : ∀ u, keyIDFor u ∈ ({ e with keyStore := assign e.keyStore (keyIDFor t) r.dek } : Encryptor).keyIDs ↔
        keyIDFor u ∈ e.keyIDs ∨ u = t := fun u => by
      unfold Encryptor.keyIDs
      rw [mem_keys_assign, keyIDFor_inj]
    refine ⟨hinv.setInstance hi (fun j u hj => more_of_ne hj) (fun u => ?_) fun c hc => ?_, ?_, ?_, ?_⟩
    · rw [hids, h.known i e he u]
      exact or_congr_right ⟨fun hu => ⟨rfl, hu⟩, And.right⟩
    · have hc := hinv.cached e (List.mem_of_getElem? he) c hc
      exact ⟨(hids c.1).mpr (.inl hc.1), hc.2⟩
    · exact List.getElem?_set_self hi
    · exact (hids t).mpr (.inr rfl)
    · refine ⟨r.nonce, r.ciphertext, rfl, hnonce, ?_, List.mem_append_right _ List.mem_cons_self⟩
      rw [hct, hdek]
  · cases hg

/-- What `dekFor` does: there is a key for the tenant afterwards. -/
lemma Inv.dekFor {k : CachedKey} {r : KeyRandom} (h : Inv T w) (he : w.instances[i]? = some e)
    (hd : w.dekFor i e t r = some (k, w')) : Inv (More T i t) w' ∧ Wrapped w'.root w'.seals t k := by
  unfold World.dekFor at hd
  cases hfind : e.cache.find? fun c => c.1 = t with
  | some c =>
    rw [hfind] at hd
    obtain ⟨rfl, rfl⟩ : c.2 = k ∧ w = w' := by simpa using hd
    have hc := h.cached e (List.mem_of_getElem? he) c (List.mem_of_find?_eq_some hfind)
    have hmatch := List.find?_some hfind
    obtain rfl : c.1 = t := of_decide_eq_true hmatch
    -- the key was generated before
    have hT : T i c.1 := (h.known i e he c.1).mp hc.1
    refine ⟨h.congr fun j u => ⟨.inl, ?_⟩, hc.2⟩
    rintro (hu | ⟨rfl, rfl⟩)
    · exact hu
    · exact hT
  | none =>
    rw [hfind] at hd
    obtain ⟨⟨k', e', w₁⟩, hg, heq⟩ := Option.map_eq_some_iff.mp hd
    obtain ⟨rfl, rfl⟩ : k' = k ∧ _ = w' := by simpa using heq
    obtain ⟨hinv, he', hid, hwrapped⟩ := h.generateDataKey he hg
    refine ⟨hinv.setInstance (List.getElem?_eq_some_iff.mp he').1 (fun _ _ _ => Iff.rfl) (hinv.known i e' he') ?_,
      hwrapped⟩
    intro c hc
    rcases mem_assign hc with hc | rfl
    · exact hinv.cached e' (List.mem_of_getElem? he') c hc
    · exact ⟨hid, hwrapped⟩

lemma Inv.encrypt {plaintext nonce ct : Bytes} {r : KeyRandom} (h : Inv T w) (he : w.instances[i]? = some e)
    (ht : t ≠ []) (hs : w.encrypt i e t plaintext r nonce ct = some w') : Inv (More T i t) w' := by
  unfold World.encrypt at hs
  rw [if_neg ht] at hs
  obtain ⟨⟨k, w₁⟩, hdek, hs⟩ := Option.bind_eq_some_iff.mp hs
  obtain ⟨w₂, hseal, rfl⟩ := Option.map_eq_some_iff.mp hs
  obtain ⟨hinv, hwrapped⟩ := h.dekFor he hdek
  have hinv₂ : Inv (More T i t) w₂ := hinv.sealWith hseal
  obtain ⟨hnonce, -, -, rfl⟩ := sealWith_cases hseal
  refine ⟨hinv₂.ideal, hinv₂.bound, hinv₂.known, hinv₂.cached, fun b hb => ?_⟩
  rcases List.mem_append.mp hb with hb | hb
  · exact hinv₂.blobs b hb
  · rw [List.mem_singleton.mp hb]
    refine ⟨ht, k, nonce, ct, hwrapped.mono (List.subset_append_left _ _), hnonce, rfl, ?_⟩
    exact List.mem_append_right _ List.mem_cons_self

lemma Inv.forget (h : Inv T w) (he : w.instances[i]? = some e) : Inv T (w.setInstance i (e.forget t)) := by
  refine h.setInstance (List.getElem?_eq_some_iff.mp he).1 (fun _ _ _ => Iff.rfl) (h.known i e he) fun c hc => ?_
  exact h.cached e (List.mem_of_getElem? he) c (List.mem_of_mem_filter hc)

lemma Inv.rotateTenant {r : KeyRandom} (h : Inv T w) (he : w.instances[i]? = some e)
    (hs : w.rotateTenant i e t r = some w') : Inv (More T i t) w' := by
  obtain ⟨⟨k, e', w₁⟩, hg, rfl⟩ := Option.map_eq_some_iff.mp hs
  obtain ⟨hinv, he', -⟩ := h.generateDataKey he hg
  exact hinv.forget he'

lemma Inv.start (h : Inv T w) : Inv T { w with instances := w.instances ++ [{}] } where
  ideal := h.ideal
  bound i t ht := by
    rw [List.length_append]
    exact Nat.lt_add_right _ (h.bound i t ht)
  known i e he t := by
    rcases Nat.lt_or_ge i w.instances.length with hi | hi
    · rw [List.getElem?_append_left hi] at he
      exact h.known i e he t
    · -- the new instance knows nothing
      rw [List.getElem?_append_right hi] at he
      obtain rfl : e = {} := List.mem_singleton.mp (List.mem_of_getElem? he)
      refine iff_of_false List.not_mem_nil fun ht => ?_
      exact absurd (h.bound i t ht) (not_lt.mpr hi)
  cached e he c hc := by
    rcases List.mem_append.mp he with he | he
    · exact h.cached e he c hc
    · rw [List.mem_singleton.mp he] at hc
      cases hc
  blobs := h.blobs

end Invariant

/-! ### Runs -/

section Runs

variable {acts : List Act} {a : Act} {w w' : World} {i : ℕ} {t root : Bytes}

lemma touched_concat : Touched (acts ++ [a]) i t ↔ Touched acts i t ∨ a.touches i t := by
  unfold Touched
  simp only [List.mem_append, List.mem_singleton, or_and_right, exists_or, exists_eq_left]

/-- A call that touches the tenant `u` on the instance `j`. -/
lemma Inv.touching {j : ℕ} {u : Bytes} (h : Inv (More (Touched acts) j u) w)
    (ha : ∀ i t, a.touches i t ↔ i = j ∧ t = u) : Inv (Touched (acts ++ [a])) w :=
  h.congr fun i t => by rw [touched_concat, ha]; rfl

lemma Inv.untouching (h : Inv (Touched acts) w) (ha : ∀ i t, ¬ a.touches i t) : Inv (Touched (acts ++ [a])) w :=
  h.congr fun i t => by rw [touched_concat, or_iff_left (ha i t)]

/-- **One call keeps the invariant.** -/
lemma step_inv (h : Inv (Touched acts) w) (hs : w.step a = some w') : Inv (Touched (acts ++ [a])) w' := by
  cases a with
  | start =>
    obtain rfl := Option.some.inj hs
    exact h.start.untouching fun _ _ => id
  | encrypt j u plaintext key nonce ct =>
    obtain ⟨e, he, hs⟩ := Option.bind_eq_some_iff.mp hs
    by_cases hu : u = []
    · unfold World.encrypt at hs
      rw [if_pos hu] at hs
      obtain rfl := Option.some.inj hs
      exact h.untouching fun _ _ ha => ha.2.2 hu
    · refine (h.encrypt he hu hs).touching fun i t => ?_
      constructor
      · rintro ⟨rfl, rfl, -⟩
        exact ⟨rfl, rfl⟩
      · rintro ⟨rfl, rfl⟩
        exact ⟨rfl, rfl, hu⟩
  | decrypt j u blob =>
    obtain ⟨e, -, rfl⟩ := Option.map_eq_some_iff.mp hs
    exact h.untouching fun _ _ => id
  | forget j u =>
    obtain ⟨e, he, rfl⟩ := Option.map_eq_some_iff.mp hs
    exact (h.forget he).untouching fun _ _ => id
  | rotateTenant j u key =>
    obtain ⟨e, he, hs⟩ := Option.bind_eq_some_iff.mp hs
    refine (h.rotateTenant he hs).touching fun i t => ?_
    constructor
    · rintro ⟨rfl, rfl⟩
      exact ⟨rfl, rfl⟩
    · rintro ⟨rfl, rfl⟩
      exact ⟨rfl, rfl⟩

lemma inv_new (root : Bytes) : Inv (Touched []) { root := root } where
  ideal := List.nodup_nil
  bound _ _ := by
    rintro ⟨a, ha, -⟩
    cases ha
  known _ _ he := by cases he
  cached _ he := by cases he
  blobs _ hb := by cases hb

/-- **Every run keeps the invariant.** -/
lemma run_inv (hrun : Lts.run World.step { root := root } acts = some w) : Inv (Touched acts) w :=
  Lts.run_history (I := fun acts w => Inv (Touched acts) w) (fun _ _ _ _ => step_inv) (inv_new root) hrun

end Runs

/-! ### Reading a blob -/

section Reading

variable {e : Encryptor} {root t : Bytes} {seals : Seals} {k : CachedKey} {b : Entry}

/-- The data key comes out exactly where its key id is known. -/
lemma unwrap_eq (h : Ideal seals) (hw : Wrapped root seals t k) :
    e.unwrap root seals k.wrapped = if keyIDFor t ∈ e.keyIDs then some k.dek else none := by
  obtain ⟨nonce, ct, hsplit, hnonce, -, hmem⟩ := hw
  have hopen : ∀ id, opens seals root nonce id ct = if id = keyIDFor t then some k.dek else none := fun id => by
    rw [opens_eq h hmem]
    simp
  have hlen : ¬ k.wrapped.length < 12 := by
    rw [hsplit, List.length_append]
    omega
  unfold Encryptor.unwrap
  rw [if_neg hlen, hsplit, ← hnonce, List.take_left, List.drop_left]
  simp only [hopen]
  split
  · next hid =>
    have hsome : (e.keyIDs ++ [[]]).findSome? (fun id => if id = keyIDFor t then some k.dek else none) ≠ none := by
      intro hnone
      have := List.findSome?_eq_none_iff.mp hnone _ (List.mem_append_left _ hid)
      simp at this
    obtain ⟨dek, hdek⟩ := Option.ne_none_iff_exists'.mp hsome
    obtain ⟨id, -, hid'⟩ := List.exists_of_findSome?_eq_some hdek
    have hval : k.dek = dek := by
      split at hid'
      · exact Option.some.inj hid'
      · cases hid'
    exact hval ▸ hdek
  · next hid =>
    refine List.findSome?_eq_none_iff.mpr fun id hmem => if_neg ?_
    rintro rfl
    rcases List.mem_append.mp hmem with hmem | hmem
    · exact hid hmem
    · exact keyIDFor_ne_nil t (List.mem_singleton.mp hmem)

/-- **What `Decrypt` makes of a blob.** -/
lemma decrypt_blob (h : Ideal seals) (hb : SealedBlob root seals b) (ht : t ≠ []) :
    e.decrypt root seals t b.blob =
      if keyIDFor b.tenantID ∈ e.keyIDs then if t = b.tenantID then .ok b.plaintext else .error .aeadOpen
      else .error .unwrapDEK := by
  obtain ⟨k, nonce, ct, hw, hnonce, hblob, hmem⟩ := hb
  have hlen : k.wrapped.length = 60 := by
    obtain ⟨n, c, hsplit, hn, hc, -⟩ := hw
    rw [hsplit, List.length_append, hn, hc]
  have hframe : b.blob = 60 :: 0 :: (k.wrapped ++ (nonce ++ ct)) := by
    rw [hblob, frame, hlen, List.append_assoc, List.append_assoc]
    rfl
  have htake : (k.wrapped ++ (nonce ++ ct)).take 60 = k.wrapped := by rw [← hlen, List.take_left]
  have hdrop : (k.wrapped ++ (nonce ++ ct)).drop 60 = nonce ++ ct := by rw [← hlen, List.drop_left]
  have hopen : opens seals k.dek nonce t ct = if t = b.tenantID then some b.plaintext else none := by
    rw [opens_eq h hmem]
    simp
  unfold Encryptor.decrypt
  rw [if_neg ht, hframe]
  show (if _ < 60 + 12 then _ else _) = _
  rw [if_neg (by simp only [List.length_append]; omega), show (60 : UInt8).toNat + 256 * (0 : UInt8).toNat = 60 from rfl,
    htake, hdrop, unwrap_eq h hw]
  by_cases hid : keyIDFor b.tenantID ∈ e.keyIDs
  · rw [if_pos hid, if_pos hid]
    show (if _ then _ else _) = _
    rw [if_neg (by simp only [List.length_append]; omega), ← hnonce, List.take_left, List.drop_left, hopen]
    by_cases ht' : t = b.tenantID
    · rw [if_pos ht', if_pos ht']
    · rw [if_neg ht', if_neg ht']
  · rw [if_neg hid, if_neg hid]

/-- Without a tenant nothing is read. -/
lemma decrypt_nil (blob : Bytes) : e.decrypt root seals [] blob = .error .tenantRequired := if_pos rfl

end Reading

/-- **Blobs are readable everywhere** exactly if every instance has itself generated a key for the tenant of every blob.
-/
theorem blobs_readable_iff {root : Bytes} {acts : List Act} {w : World}
    (hrun : Lts.run World.step { root := root } acts = some w) :
    w.Readable ↔ ∀ b ∈ w.blobs, ∀ i < w.instances.length, Touched acts i b.tenantID := by
  have hinv := run_inv hrun
  have hread : ∀ b ∈ w.blobs, ∀ i e, w.instances[i]? = some e →
      (e.decrypt w.root w.seals b.tenantID b.blob = .ok b.plaintext ↔ Touched acts i b.tenantID) := by
    intro b hb i e he
    obtain ⟨hne, hsealed⟩ := hinv.blobs b hb
    rw [decrypt_blob hinv.ideal hsealed hne, if_pos rfl, ← hinv.known i e he b.tenantID]
    by_cases hid : keyIDFor b.tenantID ∈ e.keyIDs
    · simp [hid]
    · simp [hid]
  constructor
  · intro h b hb i hi
    have he : w.instances[i]? = some w.instances[i] := List.getElem?_eq_getElem hi
    exact (hread b hb i _ he).mp (h b hb _ (List.mem_of_getElem? he)).1
  · intro h b hb e he
    obtain ⟨i, hi⟩ := List.getElem?_of_mem he
    refine ⟨(hread b hb i e hi).mpr (h b hb i (List.getElem?_eq_some_iff.mp hi).1), fun t ht => ?_⟩
    by_cases hnil : t = []
    · rw [hnil]
      exact ⟨_, decrypt_nil _⟩
    · rw [decrypt_blob hinv.ideal (hinv.blobs b hb).2 hnil, if_neg ht]
      by_cases hid : keyIDFor b.tenantID ∈ e.keyIDs
      · exact ⟨_, if_pos hid⟩
      · exact ⟨_, if_neg hid⟩

/-! ### A replica -/

namespace Sample

/-- Random bytes; a ciphertext is a text of its own. -/
def keyRandom (n : UInt8) : KeyRandom where
  dek := List.replicate 32 n
  nonce := List.replicate 12 n
  ciphertext := List.replicate 48 n

def tenant : Bytes := bytesOf "acme"

def link : Bytes := bytesOf "http://a.test/"

/-- The first of two instances rewrites a link. -/
def rewrite : Act := .encrypt 0 tenant link (keyRandom 1) (List.replicate 12 2) (List.replicate 30 2)

/-- Two replicas. -/
def oneWriter : List Act := [.start, .start, rewrite]

def bothWrote : List Act := [.start, .start, .rotateTenant 1 tenant (keyRandom 3), rewrite]

def after (acts : List Act) : World := (Lts.run World.step { root := List.replicate 32 7 } acts).getD { root := [] }

end Sample

/-- The second instance has rotated the key of the tenant before, so both read the blob. -/
theorem both_wrote_readable :
    (Sample.after Sample.bothWrote).blobs.length = 1 ∧ (Sample.after Sample.bothWrote).Readable := by
  have hrun : Lts.run World.step { root := List.replicate 32 7 } Sample.bothWrote =
      some (Sample.after Sample.bothWrote) := rfl
  refine ⟨rfl, (blobs_readable_iff hrun).mpr fun b hb i hi => ?_⟩
  have htenant : b.tenantID = Sample.tenant := by rw [List.mem_singleton.mp hb]
  rw [htenant]
  have hi : i < 2 := hi
  rcases Nat.lt_or_ge i 1 with h0 | h1
  · exact ⟨Sample.rewrite, by simp [Sample.bothWrote], by omega, rfl, by decide +kernel⟩
  · exact ⟨.rotateTenant 1 Sample.tenant (Sample.keyRandom 3), by simp [Sample.bothWrote], by omega, rfl⟩

/-- **A replica cannot read**: the second instance has the same root key, but has not generated a key for the tenant. -/
theorem replica_cannot_read :
    Lts.run World.step { root := List.replicate 32 7 } Sample.oneWriter = some (Sample.after Sample.oneWriter) ∧
    ((Sample.after Sample.oneWriter).instances.flatMap fun e => (Sample.after Sample.oneWriter).blobs.map fun b =>
      (b.tenantID, b.plaintext, e.decrypt (Sample.after Sample.oneWriter).root (Sample.after Sample.oneWriter).seals
        Sample.tenant b.blob)) =
      [(Sample.tenant, Sample.link, .ok Sample.link), (Sample.tenant, Sample.link, .error .unwrapDEK)] ∧
    ¬ (Sample.after Sample.oneWriter).Readable := by
  have hrun : Lts.run World.step { root := List.replicate 32 7 } Sample.oneWriter = some (Sample.after Sample.oneWriter) :=
    rfl
  refine ⟨hrun, by decide +kernel, fun h => ?_⟩
  have hb : (⟨Sample.tenant, Sample.link, _⟩ : Entry) ∈ (Sample.after Sample.oneWriter).blobs := List.mem_singleton.mpr rfl
  have he : ({} : Encryptor) ∈ (Sample.after Sample.oneWriter).instances := List.mem_cons_of_mem _ List.mem_cons_self
  have hread := (h _ hb _ he).1
  have hsealed := ((run_inv hrun).blobs _ hb).2
  have hempty : keyIDFor Sample.tenant ∉ ({} : Encryptor).keyIDs := List.not_mem_nil
  have htenant : Sample.tenant ≠ [] := by decide +kernel
  have hfail := (decrypt_blob (run_inv hrun).ideal hsealed htenant).trans (if_neg hempty)
  rw [hread] at hfail
  cases hfail

end Sn360Es.Privacy
