import Sn360Es.Constant
import Sn360Es.Lib.Hex
import Sn360Es.Lib.LastWrite
import Sn360Es.Privacy.Jwt

/-!
# The URL rewriter (`internal/service/action/url_rewriter.go`)

`Rewrite` replaces the links of an HTML body by interstitial links and stores the encrypted originals;
`Resolve` takes a token back to its URL. An original is stored under the hash of its URL alone, encrypted for
the tenant that rewrote it last.

Bodies and URLs are bytes. The hash, the encryptor, `url.Parse` and the JWT library are parameters; `calls`
numbers the calls that read a nonce, a UUID or the clock.

* `resolve_iff` — a token resolves to its URL when the last write under its hash is for the same tenant and
  URL;
* `rewriteAll_resolves_iff` — all tokens of a run do, exactly when no hash is shared.
-/

namespace Sn360Es.Action

open Lib Sn360Es.Privacy

/-- `URLRewriter`. -/
structure URLRewriter where
  issuer : JWTIssuer
  /-- `sha256.Sum256`. -/
  sha256 : Bytes → Bytes
  /-- `Encrypt` for a tenant, at the given call. -/
  encrypt : ℕ → String → Bytes → Except String Bytes
  decrypt : String → Bytes → Except String Bytes
  /-- The lower-cased scheme of `url.Parse`, or `none` where it fails. -/
  urlScheme : Bytes → Option String
  clock : ℕ → ℤ
  uuid : ℕ → String
  /-- The error of the store's `Set` at a call, and of its `Get` at a key. -/
  setError : ℕ → Option String := fun _ => none
  getError : String → Option String := fun _ => none
  baseURL : String := "https://l.sn360.io"
  skip : List String := ["mailto", "tel", "file", "javascript", "data", "ftp"]

structure RewriteRequest where
  tenantID : String
  pseudonymizedMessage : String
  tier : Tier
  htmlBody : Bytes
  deriving DecidableEq, Repr

structure RewriteResult where
  htmlBody : Bytes
  rewriteCount : ℕ := 0
  urlHashes : List String := []
  deriving DecidableEq, Repr

/-- A link that was rewritten: the call that issued its token, for whom, and what it replaced. -/
structure Issued where
  call : ℕ
  tenantID : String
  pseudonymizedMessage : String
  tier : Tier
  original : Bytes
  /-- the ciphertext that was stored -/
  enc : Bytes
  token : String
  deriving DecidableEq, Repr

/-- The store, the number of calls so far, and the links rewritten so far. -/
structure RewriteState where
  store : String → Option String := fun _ => none
  calls : ℕ := 0
  issued : List Issued := []

/-! ### `hrefPattern` -/

/-- A byte of `\s`. -/
def isSpaceByte (b : UInt8) : Bool := b = 0x20 || b = 0x09 || b = 0x0A || b = 0x0C || b = 0x0D

def lowerByte (b : UInt8) : UInt8 := if 0x41 ≤ b && b ≤ 0x5A then b + 0x20 else b

/-- The match of `hrefPattern` that starts at the head of `s`, if there is one: `href`, an equals sign and a
quoted value that is not empty, with white space around the sign. -/
def matchHref (s : Bytes) : Option Bytes :=
  if (s.take 4).map lowerByte ≠ [0x68, 0x72, 0x65, 0x66] then none
  else
    match (s.drop 4).dropWhile isSpaceByte with
    | 0x3D :: s1 =>
      match s1.dropWhile isSpaceByte with
      | q :: s2 =>
        if (q = 0x22 ∨ q = 0x27) ∧ s2.takeWhile (· ≠ q) ≠ [] ∧ q ∈ s2 then
          some (s.take (s.length - ((s2.dropWhile (· ≠ q)).length - 1)))
        else none
      | [] => none
    | _ => none

/-- A body as `ReplaceAllStringFunc` sees it: bytes between the matches, and matches. -/
inductive Segment where
  | text (b : UInt8)
  | href (m : Bytes)
  deriving DecidableEq, Repr

/-- The matches from left to right; `skip` bytes belong to the match before. -/
def segmentsFrom : ℕ → Bytes → List Segment
  | _, [] => []
  | skip + 1, _ :: s => segmentsFrom skip s
  | 0, b :: s =>
    match matchHref (b :: s) with
    | some m => .href m :: segmentsFrom (m.length - 1) s
    | none => .text b :: segmentsFrom 0 s

def segments (body : Bytes) : List Segment := segmentsFrom 0 body

/-- `strings.TrimSpace` on a text whose ends are ASCII. -/
def trimSpaceBytes (s : Bytes) : Bytes :=
  let space : UInt8 → Bool := fun b => isSpaceByte b || b = 0x0B
  ((s.dropWhile space).reverse.dropWhile space).reverse

/-- `extractHrefValue`. -/
def extractHrefValue (m : Bytes) : Bytes :=
  match m.dropWhile (· ≠ 0x3D) with
  | [] => []
  | _ :: afterEq =>
    match trimSpaceBytes afterEq with
    | q :: rest => if (q = 0x22 ∨ q = 0x27) ∧ q ∈ rest then rest.takeWhile (· ≠ q) else []
    | [] => []

/-- The match of a link with spaces, upper case and a value that holds the other quote. -/
example : segments (bytesOf "x HREF = 'a\"b'>") =
    [.text 120, .text 32, .href (bytesOf "HREF = 'a\"b'"), .text 62] ∧
      extractHrefValue (bytesOf "HREF = 'a\"b'") = bytesOf "a\"b" := by decide

/-! ### Rewriting and resolving -/

/-- `URLPreImageKey`. -/
def urlPreImageKey (urlHash : String) : String := "url:" ++ urlHash

namespace URLRewriter

variable (rw : URLRewriter)

/-- `hashURL`. -/
def hashURL (u : Bytes) : String := Hex.encode (rw.sha256 u)

/-- `shouldSkip`. -/
def shouldSkip (u : Bytes) : Bool :=
  match rw.urlScheme u with
  | none => true
  | some scheme => scheme = "" || scheme ∈ rw.skip || (scheme ≠ "http" && scheme ≠ "https")

/-- The options of the token for a link. -/
def tokenOptions (tier : Tier) (hash : String) : IssueOptions :=
  { tier := tier.name, action := "url_redirect", urlHash := hash, scope := scopeBannerAction }

/-- `issueToken`: the token and the hash, or an error, and the state after the call. -/
def issueToken (req : RewriteRequest) (original : Bytes) (st : RewriteState) :
    Except String (String × String) × RewriteState :=
  let n := st.calls
  let st := { st with calls := n + 1 }
  let hash := rw.hashURL original
  match rw.encrypt n req.tenantID original with
  | .error err => (.error ("encrypt: " ++ err), st)
  | .ok enc =>
    match rw.setError n with
    | some err => (.error ("store: " ++ err), st)
    | none =>
      let st := { st with
        store := Function.update st.store (urlPreImageKey hash) (some (Hex.encode enc)) }
      match rw.issuer.issue (rw.clock n) (rw.uuid n) req.tenantID req.pseudonymizedMessage
          (tokenOptions req.tier hash) with
      | .error err => (.error ("issue: " ++ err), st)
      | .ok token =>
        (.ok (token, hash),
          { st with issued := st.issued ++
              [⟨n, req.tenantID, req.pseudonymizedMessage, req.tier, original, enc, token⟩] })

/-- The function that `Rewrite` passes to `ReplaceAllStringFunc`: the replacement and the hash, if any. -/
def rewriteHref (req : RewriteRequest) (m : Bytes) (st : RewriteState) :
    Bytes × List String × RewriteState :=
  let original := extractHrefValue m
  if original = [] ∨ rw.shouldSkip original then (m, [], st)
  else
    match rw.issueToken req original st with
    | (.error _, st) => (m, [], st)
    | (.ok (token, hash), st) =>
      let quote : UInt8 := if 0x27 ∈ m ∧ 0x22 ∉ m then 0x27 else 0x22
      (bytesOf "href=" ++ quote :: bytesOf (rw.baseURL ++ "/" ++ token) ++ [quote], [hash], st)

/-- The body and the hashes after the replacements. -/
def rewriteSegments (req : RewriteRequest) :
    List Segment → RewriteState → Bytes × List String × RewriteState
  | [], st => ([], [], st)
  | .text b :: segs, st =>
    let (body, hashes, st) := rewriteSegments req segs st
    (b :: body, hashes, st)
  | .href m :: segs, st =>
    let (out, hash, st) := rw.rewriteHref req m st
    let (body, hashes, st) := rewriteSegments req segs st
    (out ++ body, hash ++ hashes, st)

/-- `URLRewriter.Rewrite`. -/
def rewrite (req : RewriteRequest) (st : RewriteState) : Except String RewriteResult × RewriteState :=
  if !req.tier.allowsURLRewrite then (.ok { htmlBody := req.htmlBody }, st)
  else if req.tenantID = "" ∨ req.pseudonymizedMessage = "" then
    (.error "url_rewriter: tenant_id and pseudo_message_id are required", st)
  else
    let (body, hashes, st) := rw.rewriteSegments req (segments req.htmlBody) st
    (.ok { htmlBody := body, rewriteCount := hashes.length, urlHashes := hashes }, st)

/-- `URLRewriter.Resolve`, at time `now`. -/
def resolve (store : String → Option String) (now : ℤ) (token : String) :
    Except String (Bytes × ActionClaims) :=
  match rw.issuer.verifyWithOptions now token { allowedScopes := [scopeBannerAction] } with
  | .error err => .error ("verify: " ++ err)
  | .ok claims =>
    if claims.originalURLHash = "" then .error "url_rewriter: token has no url hash"
    else
      let key := urlPreImageKey claims.originalURLHash
      match rw.getError key with
      | some err => .error ("store: " ++ err)
      | none =>
        match store key with
        | none => .error "url_rewriter: pre-image expired or unknown"
        | some encHex =>
          match Hex.decode encHex with
          | .error err => .error ("decode hex: " ++ err)
          | .ok enc =>
            match rw.decrypt claims.tenantID enc with
            | .error err => .error ("decrypt: " ++ err)
            | .ok plain => .ok (plain, claims)

/-- A sequence of rewrite passes. -/
def rewriteAll (reqs : List RewriteRequest) (st : RewriteState) : RewriteState :=
  reqs.foldl (fun st req => (rw.rewrite req st).2) st

/-- The URL behind a segment, if `Rewrite` replaces it. -/
def linkOf : Segment → Option Bytes
  | .text _ => none
  | .href m =>
    let original := extractHrefValue m
    if original = [] ∨ rw.shouldSkip original then none else some original

/-- The URLs that `Rewrite` replaces in the body of a request. -/
def links (req : RewriteRequest) : List Bytes :=
  if !req.tier.allowsURLRewrite then []
  else if req.tenantID = "" ∨ req.pseudonymizedMessage = "" then []
  else (segments req.htmlBody).filterMap rw.linkOf

/-! ### The store over a run -/

/-- What the rewriter relies on: the JWT library, a digest of 32 bytes, a store that does not fail, and an
encryptor whose ciphertexts open for their own tenant only. -/
structure Sound : Prop where
  jwt : rw.issuer.Sound
  digest : ∀ u, (rw.sha256 u).length = 32
  encrypt : ∀ n t x, ∃ c, rw.encrypt n t x = .ok c
  decrypt : ∀ n t x c, rw.encrypt n t x = .ok c → rw.decrypt t c = .ok x
  decrypt_other : ∀ n t t' x c, t' ≠ t → rw.encrypt n t x = .ok c → ∃ err, rw.decrypt t' c = .error err
  set : ∀ n, rw.setError n = none
  get : ∀ key, rw.getError key = none

/-- The key under which a link is stored. -/
def keyOf (i : Issued) : String := urlPreImageKey (rw.hashURL i.original)

/-- The claims of a link's token. -/
def claimsOf (i : Issued) : ActionClaims :=
  rw.issuer.claimsFor (rw.clock i.call) (rw.uuid i.call) i.tenantID i.pseudonymizedMessage
    (tokenOptions i.tier (rw.hashURL i.original))

/-- Where a run stands: every link was encrypted and signed for its tenant, and the store holds the last
ciphertext of each key. -/
structure RunInv (st : RewriteState) : Prop where
  encrypted : ∀ i ∈ st.issued, rw.encrypt i.call i.tenantID i.original = .ok i.enc
  signed : ∀ i ∈ st.issued, rw.issuer.issue (rw.clock i.call) (rw.uuid i.call) i.tenantID
    i.pseudonymizedMessage (tokenOptions i.tier (rw.hashURL i.original)) = .ok i.token
  stored : ∀ key l, lastWith rw.keyOf key st.issued = some l → st.store key = some (Hex.encode l.enc)

variable {rw} {st : RewriteState} {req : RewriteRequest}

/-- Storing and signing one more link keeps the invariant. -/
lemma RunInv.concat (hinv : rw.RunInv st) {i : Issued}
    (henc : rw.encrypt i.call i.tenantID i.original = .ok i.enc)
    (hsign : rw.issuer.issue (rw.clock i.call) (rw.uuid i.call) i.tenantID
      i.pseudonymizedMessage (tokenOptions i.tier (rw.hashURL i.original)) = .ok i.token) (n : ℕ) :
    rw.RunInv ⟨Function.update st.store (rw.keyOf i) (some (Hex.encode i.enc)), n, st.issued ++ [i]⟩ := by
  refine ⟨fun j hj => ?_, fun j hj => ?_, fun key l hl => ?_⟩
  · rcases List.mem_append.mp hj with hj | hj
    · exact hinv.encrypted j hj
    · rw [List.mem_singleton.mp hj]
      exact henc
  · rcases List.mem_append.mp hj with hj | hj
    · exact hinv.signed j hj
    · rw [List.mem_singleton.mp hj]
      exact hsign
  · dsimp only at hl ⊢
    by_cases hk : rw.keyOf i = key
    · subst hk
      rw [lastWith_concat_self] at hl
      cases hl
      rw [Function.update_self]
    · rw [lastWith_concat_of_ne _ hk] at hl
      rw [Function.update_of_ne (Ne.symm hk)]
      exact hinv.stored key l hl

/-- One call issues one token, for the tenant of the request. -/
lemma issueToken_spec (h : rw.Sound) (hreq : req.tenantID ≠ "" ∧ req.pseudonymizedMessage ≠ "")
    (hinv : rw.RunInv st) (original : Bytes) :
    ∃ i st', rw.issueToken req original st = (.ok (i.token, rw.hashURL original), st') ∧
      rw.RunInv st' ∧ st'.issued = st.issued ++ [i] ∧ i.tenantID = req.tenantID ∧
      i.original = original := by
  obtain ⟨enc, henc⟩ := h.encrypt st.calls req.tenantID original
  obtain ⟨token, htok, -⟩ := h.jwt.sign (rw.issuer.claimsFor (rw.clock st.calls) (rw.uuid st.calls)
    req.tenantID req.pseudonymizedMessage (tokenOptions req.tier (rw.hashURL original)))
  have hissue : rw.issuer.issue (rw.clock st.calls) (rw.uuid st.calls) req.tenantID
      req.pseudonymizedMessage (tokenOptions req.tier (rw.hashURL original)) = .ok token := by
    simp only [JWTIssuer.issue, hreq.1, hreq.2, if_false, htok]
  refine ⟨⟨st.calls, req.tenantID, req.pseudonymizedMessage, req.tier, original, enc, token⟩,
    ⟨_, st.calls + 1, _⟩, ?_, hinv.concat henc hissue _, rfl, rfl, rfl⟩
  simp only [issueToken, henc, h.set, hissue]
  rfl

/-- `st'` is `st` after one link for each of the given tenants and URLs. -/
def Extends (rw : URLRewriter) (st st' : RewriteState) (us : List (String × Bytes)) : Prop :=
  rw.RunInv st' ∧ ∃ new, st'.issued = st.issued ++ new ∧
    new.map (fun i => (i.tenantID, i.original)) = us

lemma Extends.refl (hinv : rw.RunInv st) : rw.Extends st st [] := ⟨hinv, [], by simp, rfl⟩

lemma Extends.trans {st' st'' : RewriteState} {us us' : List (String × Bytes)}
    (h : rw.Extends st st' us) (h' : rw.Extends st' st'' us') : rw.Extends st st'' (us ++ us') := by
  obtain ⟨-, new, hnew, hmap⟩ := h
  obtain ⟨hinv, new', hnew', hmap'⟩ := h'
  refine ⟨hinv, new ++ new', ?_, ?_⟩
  · rw [hnew', hnew, List.append_assoc]
  · rw [List.map_append, hmap, hmap']

lemma rewriteHref_spec (h : rw.Sound) (hreq : req.tenantID ≠ "" ∧ req.pseudonymizedMessage ≠ "")
    (hinv : rw.RunInv st) (m : Bytes) :
    rw.Extends st (rw.rewriteHref req m st).2.2
      ((rw.linkOf (.href m)).toList.map fun u => (req.tenantID, u)) := by
  unfold rewriteHref linkOf
  dsimp only
  by_cases hskip : extractHrefValue m = [] ∨ rw.shouldSkip (extractHrefValue m) = true
  · rw [if_pos hskip, if_pos hskip]
    exact Extends.refl hinv
  · obtain ⟨i, st', heq, hinv', hissued, ht, ho⟩ := issueToken_spec h hreq hinv (extractHrefValue m)
    rw [if_neg hskip, if_neg hskip, heq]
    exact ⟨hinv', [i], hissued, by simp [ht, ho]⟩

lemma rewriteSegments_spec (h : rw.Sound)
    (hreq : req.tenantID ≠ "" ∧ req.pseudonymizedMessage ≠ "") (segs : List Segment)
    (hinv : rw.RunInv st) :
    rw.Extends st (rw.rewriteSegments req segs st).2.2
      ((segs.filterMap rw.linkOf).map fun u => (req.tenantID, u)) := by
  induction segs generalizing st with
  | nil => exact Extends.refl hinv
  | cons seg segs ih =>
    cases seg with
    | text b => exact ih hinv
    | href m =>
      have hhead := rewriteHref_spec h hreq hinv m
      have hrest := hhead.trans (ih hhead.1)
      rw [← List.map_append] at hrest
      rw [List.filterMap_cons]
      cases hl : rw.linkOf (.href m) with
      | none =>
        rw [hl] at hrest
        exact hrest
      | some u =>
        rw [hl] at hrest
        exact hrest

variable (req) in
lemma rewrite_spec (h : rw.Sound) (hinv : rw.RunInv st) :
    rw.Extends st (rw.rewrite req st).2 ((rw.links req).map fun u => (req.tenantID, u)) := by
  unfold rewrite links
  split_ifs with htier hids
  · exact Extends.refl hinv
  · exact Extends.refl hinv
  · push Not at hids
    exact rewriteSegments_spec h hids (segments req.htmlBody) hinv

/-- **The links of a run** are those of its requests, in order. -/
theorem rewriteAll_spec (h : rw.Sound) (reqs : List RewriteRequest) (hinv : rw.RunInv st) :
    rw.Extends st (rw.rewriteAll reqs st)
      (reqs.flatMap fun req => (rw.links req).map fun u => (req.tenantID, u)) := by
  induction reqs generalizing st with
  | nil => exact Extends.refl hinv
  | cons req reqs ih =>
    have hhead := rewrite_spec req h hinv
    rw [List.flatMap_cons]
    exact hhead.trans (ih hhead.1)

lemma bannerAction_allowed :
    scopeAllowed (effectiveScope scopeBannerAction) [scopeBannerAction] = true := by decide

lemma hashURL_ne (h : rw.Sound) (u : Bytes) : rw.hashURL u ≠ "" := by
  intro hempty
  have hnil : rw.sha256 u = [] := Hex.encode_injective hempty
  have hlen := h.digest u
  rw [hnil] at hlen
  cases hlen

/-- A valid token opens the last ciphertext under its hash. -/
lemma resolve_last (h : rw.Sound) (hinv : rw.RunInv st) {i l : Issued} (hi : i ∈ st.issued)
    (hl : lastWith rw.keyOf (rw.keyOf i) st.issued = some l) {now : ℤ}
    (hlo : rw.clock i.call - 60 ≤ now) (hhi : now < (rw.claimsOf i).expiresAt) :
    rw.resolve st.store now i.token =
      match rw.decrypt i.tenantID l.enc with
      | .error err => .error ("decrypt: " ++ err)
      | .ok plain => .ok (plain, rw.claimsOf i) := by
  have hverify : rw.issuer.verifyWithOptions now i.token { allowedScopes := [scopeBannerAction] } =
      .ok (rw.claimsOf i) :=
    JWTIssuer.verify_issue h.jwt (hinv.signed i hi) hlo hhi bannerAction_allowed
  have hhash : (rw.claimsOf i).originalURLHash = rw.hashURL i.original := rfl
  have htenant : (rw.claimsOf i).tenantID = i.tenantID := rfl
  have hne := hashURL_ne h i.original
  have hstore : st.store (urlPreImageKey (rw.hashURL i.original)) = some (Hex.encode l.enc) :=
    hinv.stored _ l hl
  unfold resolve
  simp only [hverify, hhash, hne, if_false, h.get, hstore, Hex.decode_encode, htenant]

/-- **One token.** It resolves to its URL exactly when the last write under its hash was for its tenant and
its URL. -/
theorem resolve_iff (h : rw.Sound) (hinv : rw.RunInv st) {i l : Issued} (hi : i ∈ st.issued)
    (hl : lastWith rw.keyOf (rw.keyOf i) st.issued = some l) {now : ℤ}
    (hlo : rw.clock i.call - 60 ≤ now) (hhi : now < (rw.claimsOf i).expiresAt) :
    (∃ claims, rw.resolve st.store now i.token = .ok (i.original, claims)) ↔
      (l.tenantID, l.original) = (i.tenantID, i.original) := by
  obtain ⟨hmem, hkey⟩ := lastWith_mem hl
  rw [resolve_last h hinv hi hl hlo hhi]
  by_cases ht : l.tenantID = i.tenantID
  · have hdec : rw.decrypt i.tenantID l.enc = .ok l.original := by
      rw [← ht]
      exact h.decrypt _ _ _ _ (hinv.encrypted l hmem)
    rw [hdec]
    simp [ht]
  · obtain ⟨err, hdec⟩ := h.decrypt_other _ _ i.tenantID _ _ (Ne.symm ht) (hinv.encrypted l hmem)
    rw [hdec]
    simp [ht]

/-- **Tokens of a run.** From a state without links, every token of a run resolves to the URL it replaced
exactly when the links of the run that share a hash share the tenant and the URL. -/
theorem rewriteAll_resolves_iff (h : rw.Sound) (reqs : List RewriteRequest) (hst : st.issued = [])
    {now : ℤ} (hvalid : ∀ i ∈ (rw.rewriteAll reqs st).issued,
      rw.clock i.call - 60 ≤ now ∧ now < (rw.claimsOf i).expiresAt) :
    (∀ i ∈ (rw.rewriteAll reqs st).issued,
        ∃ claims, rw.resolve (rw.rewriteAll reqs st).store now i.token = .ok (i.original, claims)) ↔
      ∀ r ∈ reqs, ∀ u ∈ rw.links r, ∀ r' ∈ reqs, ∀ u' ∈ rw.links r',
        rw.hashURL u = rw.hashURL u' → r.tenantID = r'.tenantID ∧ u = u' := by
  have hinit : rw.RunInv st := by
    refine ⟨?_, ?_, ?_⟩ <;> simp [hst, lastWith]
  obtain ⟨hinv, new, hnew, hmap⟩ := rewriteAll_spec h reqs hinit
  rw [hst, List.nil_append] at hnew
  -- token by token, then by the agreement of the writes under one key
  have hagree : (∀ i ∈ (rw.rewriteAll reqs st).issued,
      ∃ claims, rw.resolve (rw.rewriteAll reqs st).store now i.token = .ok (i.original, claims)) ↔
      ∀ i ∈ new, ∀ j ∈ new, rw.keyOf i = rw.keyOf j →
        (i.tenantID, i.original) = (j.tenantID, j.original) := by
    rw [← lastWith_agree_iff rw.keyOf fun i => (i.tenantID, i.original), ← hnew]
    refine forall₂_congr fun i hi => ?_
    obtain ⟨l, hl⟩ := lastWith_isSome rw.keyOf hi
    rw [resolve_iff h hinv hi hl (hvalid i hi).1 (hvalid i hi).2, hl]
    simp
  have hlink : ∀ t u, (t, u) ∈ new.map (fun i => (i.tenantID, i.original)) ↔
      ∃ r ∈ reqs, u ∈ rw.links r ∧ r.tenantID = t := by
    intro t u
    rw [hmap]
    simp [List.mem_flatMap, and_left_comm, and_comm]
  rw [hagree]
  constructor
  · intro hall r hr u hu r' hr' u' hu' hhash
    obtain ⟨i, hi, hieq⟩ := List.mem_map.mp ((hlink _ _).mpr ⟨r, hr, hu, rfl⟩)
    obtain ⟨j, hj, hjeq⟩ := List.mem_map.mp ((hlink _ _).mpr ⟨r', hr', hu', rfl⟩)
    have hkey : rw.keyOf i = rw.keyOf j := by
      obtain ⟨-, hiu⟩ := Prod.mk.inj hieq
      obtain ⟨-, hju⟩ := Prod.mk.inj hjeq
      rw [keyOf, keyOf, hiu, hju, hhash]
    have heq := hieq.symm.trans ((hall i hi j hj hkey).trans hjeq)
    exact Prod.ext_iff.mp heq
  · intro hall i hi j hj hkey
    obtain ⟨r, hr, hu, ht⟩ := (hlink i.tenantID i.original).mp (List.mem_map_of_mem hi)
    obtain ⟨r', hr', hu', ht'⟩ := (hlink j.tenantID j.original).mp (List.mem_map_of_mem hj)
    obtain ⟨htt, huu⟩ := hall r hr _ hu r' hr' _ hu' ((String.append_right_inj _).mp hkey)
    rw [← ht, ← ht', htt, huu]

end URLRewriter

/-! ### Two tenants, one link -/

/-- A tenant's name in front of its ciphertexts, self-delimiting. -/
def sealOf (tenant : Bytes) : Bytes := tenant.flatMap (fun b => [1, b]) ++ [0]

lemma sealOf_prefix_iff {a b x : Bytes} : sealOf a <+: sealOf b ++ x ↔ a = b := by
  constructor
  · intro h
    induction a generalizing b with
    | nil =>
      cases b with
      | nil => rfl
      | cons c b => simp [sealOf] at h
    | cons c a ih =>
      cases b with
      | nil => simp [sealOf] at h
      | cons d b =>
        simp only [sealOf, List.flatMap_cons, List.cons_append, List.nil_append,
          List.cons_prefix_cons, true_and] at h
        rw [h.1, ih h.2]
  · rintro rfl
    exact List.prefix_append _ _

lemma bytesOf_injective : Function.Injective bytesOf := fun _ _ h =>
  String.toByteArray_inj.mp (ByteArray.ext (Array.toList_inj.mp h))

/-- A rewriter whose boxes carry the name of their tenant. The digest is that of `http://a.b/`. -/
def boxRewriter : URLRewriter where
  issuer := plainIssuer
  sha256 := fun _ => [0xbf, 0x16, 0xca, 0x3b, 0x08, 0x49, 0x13, 0x06, 0xe4, 0xc0, 0x43, 0x1c, 0xe5, 0x61,
    0x77, 0x31, 0x13, 0x63, 0xff, 0x27, 0xef, 0xce, 0x4b, 0x8b, 0xb5, 0x7c, 0x66, 0xc7, 0xfd, 0x6b, 0xbf,
    0xf6]
  encrypt := fun _ t x => .ok (sealOf (bytesOf t) ++ x)
  decrypt := fun t c =>
    if sealOf (bytesOf t) <+: c then .ok (c.drop (sealOf (bytesOf t)).length)
    else .error "message authentication failed"
  urlScheme := fun u => if bytesOf "http:" <+: u then some "http" else some ""
  clock := fun _ => 0
  uuid := fun n => toString n

lemma boxRewriter_sound : boxRewriter.Sound where
  jwt := plainIssuer_sound
  digest := fun _ => rfl
  encrypt := fun _ _ _ => ⟨_, rfl⟩
  decrypt := fun _ t x c h => by
    cases h
    simp only [boxRewriter, if_pos (sealOf_prefix_iff.mpr rfl), List.drop_left]
  decrypt_other := fun _ t t' x c hne h => by
    cases h
    have hseal : ¬ sealOf (bytesOf t') <+: sealOf (bytesOf t) ++ x := fun hp =>
      hne (bytesOf_injective (sealOf_prefix_iff.mp hp))
    simp only [boxRewriter, if_neg hseal]
    exact ⟨_, rfl⟩
  set := fun _ => rfl
  get := fun _ => rfl

/-- A blocked message of a tenant with one link. -/
def linkRequest (tenant : String) : RewriteRequest :=
  ⟨tenant, "m", .blocked, bytesOf "<a href='http://a.b/'>"⟩

/-- A minute after it was issued, a token is valid. -/
lemma boxRewriter_valid (i : Issued) :
    boxRewriter.clock i.call - 60 ≤ 60 ∧ 60 < (boxRewriter.claimsOf i).expiresAt :=
  ⟨show (0 - 60 : ℤ) ≤ 60 by decide, show (60 : ℤ) < 0 + 7 * 24 * 3600 by decide⟩

theorem rewriteAll_resolves_one_tenant :
    (∀ i ∈ (boxRewriter.rewriteAll [linkRequest "x", linkRequest "x"] {}).issued,
        ∃ claims, boxRewriter.resolve (boxRewriter.rewriteAll [linkRequest "x", linkRequest "x"] {}).store
          60 i.token = .ok (i.original, claims)) ↔
      ∀ r ∈ [linkRequest "x", linkRequest "x"], ∀ u ∈ boxRewriter.links r,
        ∀ r' ∈ [linkRequest "x", linkRequest "x"], ∀ u' ∈ boxRewriter.links r',
          boxRewriter.hashURL u = boxRewriter.hashURL u' → r.tenantID = r'.tenantID ∧ u = u' :=
  URLRewriter.rewriteAll_resolves_iff boxRewriter_sound _ rfl fun i _ => boxRewriter_valid i

/-- Tenant `y` rewrites the link that tenant `x` rewrote before: the token of `x` no longer opens. -/
theorem rewriteAll_resolves_two_tenants :
    ¬ ∀ (rw : URLRewriter) (reqs : List RewriteRequest) (st : RewriteState) (now : ℤ), rw.Sound →
        st.issued = [] →
        (∀ i ∈ (rw.rewriteAll reqs st).issued,
          rw.clock i.call - 60 ≤ now ∧ now < (rw.claimsOf i).expiresAt) →
        ∀ i ∈ (rw.rewriteAll reqs st).issued,
          ∃ claims, rw.resolve (rw.rewriteAll reqs st).store now i.token = .ok (i.original, claims) := by
  intro h
  have hall := h boxRewriter [linkRequest "x", linkRequest "y"] {} 60 boxRewriter_sound rfl
    fun i _ => boxRewriter_valid i
  have hinit : boxRewriter.RunInv {} := by
    refine ⟨?_, ?_, ?_⟩ <;> simp [lastWith]
  obtain ⟨hinv, new, hnew, hmap⟩ :=
    URLRewriter.rewriteAll_spec boxRewriter_sound [linkRequest "x", linkRequest "y"] hinit
  have hlinks : ([linkRequest "x", linkRequest "y"].flatMap fun req =>
      (boxRewriter.links req).map fun u => (req.tenantID, u)) =
        [("x", bytesOf "http://a.b/"), ("y", bytesOf "http://a.b/")] := by decide +kernel
  rw [hlinks] at hmap
  obtain ⟨i, rest, rfl, hi, hrest⟩ := List.map_eq_cons_iff.mp hmap
  obtain ⟨j, rest', rfl, hj, hnil⟩ := List.map_eq_cons_iff.mp hrest
  obtain rfl := List.map_eq_nil_iff.mp hnil
  rw [List.nil_append] at hnew
  have hlast : lastWith boxRewriter.keyOf (boxRewriter.keyOf i)
      (boxRewriter.rewriteAll [linkRequest "x", linkRequest "y"] {}).issued = some j := by
    have hkey : boxRewriter.keyOf i = boxRewriter.keyOf j := by
      rw [URLRewriter.keyOf, URLRewriter.keyOf, (Prod.mk.inj hi).2, (Prod.mk.inj hj).2]
    rw [hnew, hkey]
    exact lastWith_concat_self [i] j
  have hmem : i ∈ (boxRewriter.rewriteAll [linkRequest "x", linkRequest "y"] {}).issued := by
    rw [hnew]
    exact List.mem_cons_self
  have hsame := (URLRewriter.resolve_iff boxRewriter_sound hinv hmem hlast (boxRewriter_valid i).1
    (boxRewriter_valid i).2).mp (hall i hmem)
  rw [hi, hj] at hsame
  exact absurd hsame (by decide)

end Sn360Es.Action
