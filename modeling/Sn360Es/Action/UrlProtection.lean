import Sn360Es.Action.HrefScan
import Sn360Es.Lib.NetUrl
import Sn360Es.Lib.Whitespace

/-!
# What the URL rewriter protects

`Rewrite` looks at the value of an attribute as it is written, and leaves it alone where `url.Parse` fails or sees no
scheme. A mail client decodes the character references first and ignores white space at the ends, and it follows
`//host` as well. The difference escapes.

* `shouldSkip_eq_false_iff` — the values that are rewritten, in terms of their text;
* `Replaced` — what a pass puts in the place of each segment;
* `rewrite_protects_iff` — the bodies whose links are all behind the interstitial afterwards.
-/

namespace Sn360Es.Action

open Lib Sn360Es.Privacy

/-- The decoding of HTML character references. -/
structure EntityDecoder where
  decode : Bytes → Bytes
  /-- A reference begins with an ampersand. -/
  decode_plain : ∀ s, 0x26 ∉ s → decode s = s

/-- The text is a URL of scheme `http` or `https`, or one without a scheme that names a host. -/
def IsHttp (w : Bytes) : Prop :=
  bytesOf "http:" <+: w.map Utf8.asciiLower ∨ bytesOf "https:" <+: w.map Utf8.asciiLower ∨ bytesOf "//" <+: w

/-- The text is the interstitial or a page of it. -/
def Inside (base w : Bytes) : Prop := w = base ∨ base ++ bytesOf "/" <+: w

/-- What a mail client follows for a value. -/
def EntityDecoder.target (ent : EntityDecoder) (v : Bytes) : Bytes := Whitespace.trim isSpaceByte (ent.decode v)

/-- A link to somewhere else than the interstitial. -/
def External (ent : EntityDecoder) (base v : Bytes) : Prop := IsHttp (ent.target v) ∧ ¬ Inside base (ent.target v)

/-- The text can stand in an attribute as it is. -/
def PlainText (s : Bytes) : Prop :=
  ∀ b ∈ s, isSpaceByte b = false ∧ b ≠ 0x22 ∧ b ≠ 0x27 ∧ b ≠ 0x26 ∧ b ≠ 0x3D

instance (s : Bytes) : Decidable (PlainText s) := List.decidableBAll _ s

instance (ent : EntityDecoder) (base v : Bytes) : Decidable (External ent base v) :=
  inferInstanceAs (Decidable ((_ ∨ _ ∨ _) ∧ ¬ (_ ∨ _)))

lemma PlainText.append {s t : Bytes} (hs : PlainText s) (ht : PlainText t) : PlainText (s ++ t) := by
  intro b hb
  rcases List.mem_append.mp hb with hb | hb
  · exact hs b hb
  · exact ht b hb

lemma trim_plain {s : Bytes} (h : PlainText s) : Whitespace.trim isSpaceByte s = s := by
  have hdrop : ∀ t : Bytes, (∀ b ∈ t, isSpaceByte b = false) → t.dropWhile isSpaceByte = t := by
    intro t ht
    cases t with
    | nil => rfl
    | cons b t => rw [List.dropWhile_cons_of_neg (by simp [ht b List.mem_cons_self])]
  unfold Whitespace.trim
  rw [hdrop s fun b hb => (h b hb).1, hdrop s.reverse fun b hb => (h b (List.mem_reverse.mp hb)).1,
    List.reverse_reverse]

lemma EntityDecoder.target_plain (ent : EntityDecoder) {s : Bytes} (h : PlainText s) : ent.target s = s := by
  unfold EntityDecoder.target
  rw [ent.decode_plain s fun hmem => (h _ hmem).2.2.2.1 rfl, trim_plain h]

lemma not_external_inside (ent : EntityDecoder) {base s : Bytes} (h : PlainText (base ++ (bytesOf "/" ++ s))) :
    ¬ External ent base (base ++ (bytesOf "/" ++ s)) := by
  rintro ⟨-, hout⟩
  rw [ent.target_plain h] at hout
  exact hout (Or.inr ⟨s, by simp⟩)

/-! ### The values that are rewritten -/

/-- A scheme as a string. -/
def schemeText (s : Bytes) : String := String.ofList (s.map fun b => Char.ofNat b.toNat)

/-- The scheme of `url.Parse`. -/
def parsedScheme (isIPv6 : Bytes → Bool) (u : Bytes) : Option String :=
  (NetUrl.parse isIPv6 u).map fun p => schemeText p.scheme

lemma schemeText_injective : Function.Injective schemeText := by
  intro s t h
  have hchar : Function.Injective fun b : UInt8 => Char.ofNat b.toNat := by
    intro a b hab
    have hnat := congrArg Char.toNat hab
    have ha := a.toNat_lt
    have hb := b.toNat_lt
    have hof : ∀ n < 256, (Char.ofNat n).toNat = n := fun n hn => by
      have hvalid : n.isValidChar := Or.inl (by omega)
      rw [Char.ofNat, dif_pos hvalid]
      rfl
    dsimp only at hnat
    rw [hof _ ha, hof _ hb] at hnat
    exact UInt8.toNat_inj.mp hnat
  exact List.map_injective_iff.mpr hchar (String.ofList_injective h)

namespace URLRewriter

variable {rw : URLRewriter} {isIPv6 : Bytes → Bool}

variable (rw) in
/-- The value begins, as it is written, with a scheme that is rewritten. -/
def SchemeWritten (v : Bytes) : Prop :=
  bytesOf "http:" <+: v.map Utf8.asciiLower ∧ "http" ∉ rw.skip ∨
    bytesOf "https:" <+: v.map Utf8.asciiLower ∧ "https" ∉ rw.skip

instance (v : Bytes) : Decidable (rw.SchemeWritten v) := inferInstanceAs (Decidable (_ ∧ _ ∨ _ ∧ _))

lemma shouldSkip_eq_false_iff (hparse : ∀ u, rw.urlScheme u = parsedScheme isIPv6 u) (v : Bytes) :
    rw.shouldSkip v = false ↔ (NetUrl.parse isIPv6 v).isSome ∧ rw.SchemeWritten v := by
  unfold shouldSkip
  rw [hparse, parsedScheme]
  cases hu : NetUrl.parse isIPv6 v with
  | none => simp
  | some u =>
    have hhttp : u.scheme = bytesOf "http" ↔ bytesOf "http:" <+: v.map Utf8.asciiLower :=
      NetUrl.scheme_eq_iff hu (by decide) (List.all_eq_true.mp rfl)
    have hhttps : u.scheme = bytesOf "https" ↔ bytesOf "https:" <+: v.map Utf8.asciiLower :=
      NetUrl.scheme_eq_iff hu (by decide) (List.all_eq_true.mp rfl)
    have h1 : schemeText u.scheme = "http" ↔ u.scheme = bytesOf "http" :=
      ⟨fun h => schemeText_injective (h.trans rfl), fun h => by rw [h]; rfl⟩
    have h2 : schemeText u.scheme = "https" ↔ u.scheme = bytesOf "https" :=
      ⟨fun h => schemeText_injective (h.trans rfl), fun h => by rw [h]; rfl⟩
    unfold SchemeWritten
    rw [← hhttp, ← hhttps, ← h1, ← h2]
    simp only [Option.map_some, Option.isSome_some, true_and]
    generalize schemeText u.scheme = scheme
    by_cases hs : scheme = "http"
    · subst hs
      simp
    · by_cases hs' : scheme = "https"
      · subst hs'
        simp
      · simp [hs, hs']

/-! ### One pass -/

variable (rw) in
/-- The signed tokens can stand in an attribute: a compact JWS is base64url text and dots. -/
def PlainTokens : Prop := ∀ c tok, rw.issuer.sign c = .ok tok → PlainText (bytesOf tok)

/-- The quote that `Rewrite` writes around a new link. -/
def quoteOf (m : Bytes) : UInt8 := if 0x27 ∈ m ∧ 0x22 ∉ m then 0x27 else 0x22

lemma quoteOf_eq (m : Bytes) : quoteOf m = 0x22 ∨ quoteOf m = 0x27 := by
  unfold quoteOf
  split_ifs
  · exact Or.inr rfl
  · exact Or.inl rfl

lemma quoteOf_mem (p : Href) : quoteOf p.bytes ∈ p.bytes := by
  have hquote : p.quote ∈ p.bytes := by simp [Href.bytes]
  unfold quoteOf
  split_ifs with h
  · exact h.1
  · rcases p.quote_eq with hq | hq
    · rw [← hq]
      exact hquote
    · by_contra hnot
      exact h ⟨hq ▸ hquote, hnot⟩

variable (rw) in
/-- The attribute with the token in the place of `m`. -/
def linkBytes (m : Bytes) (token : String) : Bytes :=
  bytesOf "href=" ++ quoteOf m :: bytesOf (rw.baseURL ++ "/" ++ token) ++ [quoteOf m]

/-- **What a pass puts in the place of each segment**, and the links it rewrote. -/
inductive Replaced (rw : URLRewriter) (tenantID : String) : List Segment → List Segment → List Issued → Prop where
  | nil : Replaced rw tenantID [] [] []
  | text {segs segs' : List Segment} {new : List Issued} (b : UInt8) (h : Replaced rw tenantID segs segs' new) :
    Replaced rw tenantID (.text b :: segs) (.text b :: segs') new
  | kept {segs segs' : List Segment} {new : List Issued} {m : Bytes} (hm : rw.linkOf (.href m) = none)
    (h : Replaced rw tenantID segs segs' new) : Replaced rw tenantID (.href m :: segs) (.href m :: segs') new
  | link {segs segs' : List Segment} {new : List Issued} {m : Bytes} {i : Issued}
    (hm : rw.linkOf (.href m) = some i.original) (ht : i.tenantID = tenantID) (hp : PlainText (bytesOf i.token))
    (h : Replaced rw tenantID segs segs' new) :
    Replaced rw tenantID (.href m :: segs) (.href (rw.linkBytes m i.token) :: segs') (i :: new)

variable {req : RewriteRequest} {st : RewriteState}

lemma rewriteSegments_replaced (h : rw.Sound) (htok : rw.PlainTokens)
    (hreq : req.tenantID ≠ "" ∧ req.pseudonymizedMessage ≠ "") (segs : List Segment) (hinv : rw.RunInv st) :
    ∃ segs' new hashes st', rw.rewriteSegments req segs st = (join segs', hashes, st') ∧ rw.RunInv st' ∧
      st'.issued = st.issued ++ new ∧ Replaced rw req.tenantID segs segs' new := by
  induction segs generalizing st with
  | nil => exact ⟨[], [], [], st, rfl, hinv, by simp, .nil⟩
  | cons seg segs ih =>
    cases seg with
    | text b =>
      obtain ⟨segs', new, hashes, st', heq, hinv', hissued, hrep⟩ := ih hinv
      refine ⟨.text b :: segs', new, hashes, st', ?_, hinv', hissued, hrep.text b⟩
      rw [rewriteSegments, heq]
      rfl
    | href m =>
      by_cases hskip : extractHrefValue m = [] ∨ rw.shouldSkip (extractHrefValue m) = true
      · obtain ⟨segs', new, hashes, st', heq, hinv', hissued, hrep⟩ := ih hinv
        refine ⟨.href m :: segs', new, hashes, st', ?_, hinv', hissued, hrep.kept (by simp only [linkOf, if_pos hskip])⟩
        rw [rewriteSegments, rewriteHref]
        simp only [if_pos hskip, heq]
        rfl
      · obtain ⟨i, st₁, hcall, hinv₁, hissued₁, ht, ho⟩ := issueToken_spec h hreq hinv (extractHrefValue m)
        obtain ⟨segs', new, hashes, st', heq, hinv', hissued, hrep⟩ := ih hinv₁
        have hmem : i ∈ st₁.issued := by rw [hissued₁]; simp
        have hplain : PlainText (bytesOf i.token) :=
          htok _ _ (JWTIssuer.sign_of_issue (hinv₁.signed i hmem)).2.2
        have hlink : rw.linkOf (.href m) = some i.original := by simp only [linkOf, if_neg hskip, ho]
        refine ⟨_, i :: new, rw.hashURL (extractHrefValue m) :: hashes, st', ?_, hinv', ?_, hrep.link hlink ht hplain⟩
        · rw [rewriteSegments, rewriteHref]
          simp only [if_neg hskip, hcall, heq]
          rfl
        · rw [hissued, hissued₁]
          simp

/-! ### The attributes afterwards -/

lemma bytesOf_append (a b : String) : bytesOf (a ++ b) = bytesOf a ++ bytesOf b := by
  simp [bytesOf]

variable (rw) in
/-- The address of a token. -/
def linkText (token : String) : Bytes := bytesOf rw.baseURL ++ (bytesOf "/" ++ bytesOf token)

lemma linkBytes_eq (m : Bytes) (token : String) :
    rw.linkBytes m token = bytesOf "href=" ++ quoteOf m :: (rw.linkText token ++ [quoteOf m]) := by
  simp [linkBytes, linkText, bytesOf_append]

lemma plain_linkText (hbase : PlainText (bytesOf rw.baseURL)) {token : String} (hp : PlainText (bytesOf token)) :
    PlainText (rw.linkText token) := by
  have hslash : PlainText (bytesOf "/") := by
    intro b hb
    obtain rfl := List.mem_singleton.mp (show b ∈ [0x2F] from hb)
    decide
  exact hbase.append (hslash.append hp)

/-- The new attribute is one, its only quotes are around it, and no other begins in it. -/
lemma exists_linkHref (hbase : PlainText (bytesOf rw.baseURL)) {token : String} (hp : PlainText (bytesOf token))
    (m : Bytes) : ∃ p : Href, rw.linkBytes m token = p.bytes ∧ p.value = rw.linkText token ∧
      (∀ q : UInt8, q = 0x22 ∨ q = 0x27 → q ∈ p.bytes → q = quoteOf m) ∧ NoOpening p.bytes := by
  have hplain := plain_linkText hbase hp
  have hne : rw.linkText token ≠ [] := by
    have hslash : bytesOf "/" = [0x2F] := rfl
    simp [linkText, hslash]
  have hnot : quoteOf m ∉ rw.linkText token := by
    intro hmem
    rcases quoteOf_eq m with hq | hq
    · exact (hplain _ hmem).2.1 hq
    · exact (hplain _ hmem).2.2.1 hq
  have hname : bytesOf "href=" = bytesOf "href" ++ [0x3D] := rfl
  have hbytes : rw.linkBytes m token = Href.bytes
      ⟨⟨bytesOf "href", [], [], quoteOf m, by decide, by simp, by simp, quoteOf_eq m⟩, rw.linkText token, hne,
        hnot⟩ := by
    rw [linkBytes_eq, hname]
    simp [Href.bytes, Opening.bytes]
  refine ⟨_, hbytes, rfl, fun q hq hmem => ?_, fun k hk o hpre => ?_⟩
  · rw [← hbytes, linkBytes_eq, List.mem_append, List.mem_cons, List.mem_append, List.mem_singleton] at hmem
    rcases hmem with hmem | hmem | hmem | hmem
    · rcases hq with rfl | rfl <;> exact absurd hmem (by decide)
    · exact hmem
    · rcases hq with rfl | rfl
      · exact absurd rfl (hplain _ hmem).2.1
      · exact absurd rfl (hplain _ hmem).2.2.1
    · exact hmem
  · -- the equals sign of another opening would stand in the value
    have hsign : 0x3D ∈ o.bytes.drop 4 := by
      rw [Opening.bytes, ← o.length_name, List.drop_left]
      simp
    have hin := (hpre.drop 4).subset hsign
    rw [List.drop_drop, ← hbytes, linkBytes_eq] at hin
    have hlater := (List.drop_sublist_drop_left _ (show 5 ≤ k + 4 by omega)).subset hin
    rw [show (5 : ℕ) = (bytesOf "href=").length from rfl, List.drop_left, List.mem_cons, List.mem_append,
      List.mem_singleton] at hlater
    have hquote : (0x3D : UInt8) ≠ quoteOf m := by
      rcases quoteOf_eq m with hq | hq <;> rw [hq] <;> decide
    rcases hlater with heq | hmem | heq
    · exact hquote heq
    · exact (hplain _ hmem).2.2.2.2 rfl
    · exact hquote heq

namespace Replaced

variable {tenantID : String} {segs segs' : List Segment} {new : List Issued}

lemma related (hbase : PlainText (bytesOf rw.baseURL)) (h : Replaced rw tenantID segs segs' new)
    (hsegs : ∀ m, .href m ∈ segs → ∃ p : Href, m = p.bytes) : List.Forall₂ Related segs segs' := by
  induction h with
  | nil => exact .nil
  | text b h ih => exact .cons (.text b) (ih fun m hm => hsegs m (List.mem_cons_of_mem _ hm))
  | kept hm h ih =>
    obtain ⟨p, rfl⟩ := hsegs _ List.mem_cons_self
    exact .cons (.href p p fun _ _ hmem => hmem) (ih fun m hm => hsegs m (List.mem_cons_of_mem _ hm))
  | link hm ht hp h ih =>
    obtain ⟨p, rfl⟩ := hsegs _ List.mem_cons_self
    obtain ⟨p', heq, -, hquotes, -⟩ := exists_linkHref hbase hp p.bytes
    rw [heq]
    refine .cons (.href p p' fun q hq hmem => ?_) (ih fun m hm => hsegs m (List.mem_cons_of_mem _ hm))
    rw [hquotes q hq hmem]
    exact quoteOf_mem p

/-- The values that are left are those that the pass did not touch; the new ones are inside. -/
lemma complete_iff (hbase : PlainText (bytesOf rw.baseURL)) (ent : EntityDecoder)
    (h : Replaced rw tenantID segs segs' new) :
    (∀ m, .href m ∈ segs' → ¬ External ent (bytesOf rw.baseURL) (extractHrefValue m)) ↔
      ∀ m, .href m ∈ segs → rw.linkOf (.href m) = none → ¬ External ent (bytesOf rw.baseURL) (extractHrefValue m) := by
  induction h with
  | nil => simp
  | text b h ih => simpa using ih
  | kept hm h ih =>
    simp only [List.mem_cons, Segment.href.injEq, forall_eq_or_imp, hm, forall_const]
    rw [ih]
  | link hm ht hp h ih =>
    rename_i m i
    obtain ⟨p', heq, hvalue, -, -⟩ := exists_linkHref hbase hp m
    have hin : ¬ External ent (bytesOf rw.baseURL) (extractHrefValue (rw.linkBytes m i.token)) := by
      rw [heq, p'.extractHrefValue_bytes, hvalue]
      exact not_external_inside ent (plain_linkText hbase hp)
    simp only [List.mem_cons, Segment.href.injEq, forall_eq_or_imp, hm, hin, not_false_eq_true, true_and, reduceCtorEq,
      false_imp_iff]
    exact ih

/-- No attribute begins inside another, if none did before. -/
lemma noOpening (hbase : PlainText (bytesOf rw.baseURL)) (h : Replaced rw tenantID segs segs' new)
    (hsegs : ∀ m, .href m ∈ segs → NoOpening m) : ∀ m, .href m ∈ segs' → NoOpening m := by
  induction h with
  | nil => exact hsegs
  | text b h ih =>
    intro m hm
    exact ih (fun m hm => hsegs m (List.mem_cons_of_mem _ hm)) m ((List.mem_cons.mp hm).resolve_left (by simp))
  | kept hk h ih =>
    intro m hm
    rcases List.mem_cons.mp hm with heq | hm
    · cases heq
      exact hsegs _ List.mem_cons_self
    · exact ih (fun m hm => hsegs m (List.mem_cons_of_mem _ hm)) m hm
  | link hl ht hp h ih =>
    intro m hm
    rcases List.mem_cons.mp hm with heq | hm
    · cases heq
      obtain ⟨p', heq, -, -, hopen⟩ := exists_linkHref hbase hp _
      rw [heq]
      exact hopen
    · exact ih (fun m hm => hsegs m (List.mem_cons_of_mem _ hm)) m hm

lemma links_eq (h : Replaced rw tenantID segs segs' new) : segs.filterMap rw.linkOf = new.map Issued.original := by
  induction h with
  | nil => rfl
  | text b h ih => exact ih
  | kept hm h ih => rw [List.filterMap_cons_none hm, ih]
  | link hm ht hp h ih => rw [List.filterMap_cons_some hm, ih, List.map_cons]

lemma tenant (h : Replaced rw tenantID segs segs' new) : ∀ i ∈ new, i.tenantID = tenantID := by
  induction h with
  | nil => simp
  | text b h ih => exact ih
  | kept hm h ih => exact ih
  | link hm ht hp h ih => exact List.forall_mem_cons.mpr ⟨ht, ih⟩

end Replaced

/-! ### The tokens -/

variable (rw) in
/-- What should stand in the place of a segment: the same, but for a token that resolves to what a link decodes to. -/
def Placed (ent : EntityDecoder) (store : String → Option String) (now : ℤ) : Segment → Segment → Prop
  | .text b, seg => seg = .text b
  | .href m, seg =>
    match rw.linkOf (.href m) with
    | none => seg = .href m
    | some u => ∃ tok claims, seg = .href (rw.linkBytes m tok) ∧ rw.resolve store now tok = .ok (ent.decode u, claims)

lemma linkBytes_injective (m : Bytes) : Function.Injective (rw.linkBytes m) := by
  intro tok tok' h
  unfold linkBytes at h
  have hcancel := List.append_cancel_right h
  rw [List.append_cancel_left_eq, List.cons.injEq] at hcancel
  exact (String.append_right_inj _).mp (bytesOf_injective hcancel.2)

lemma Replaced.placed_iff {tenantID : String} {segs segs' : List Segment} {new : List Issued} (ent : EntityDecoder)
    (store : String → Option String) (now : ℤ) (h : Replaced rw tenantID segs segs' new) :
    List.Forall₂ (rw.Placed ent store now) segs segs' ↔
      ∀ i ∈ new, ∃ claims, rw.resolve store now i.token = .ok (ent.decode i.original, claims) := by
  induction h with
  | nil => simp
  | text b h ih =>
    rw [List.forall₂_cons, ih]
    simp [Placed]
  | kept hm h ih =>
    rw [List.forall₂_cons, ih]
    simp [Placed, hm]
  | link hm ht hp h ih =>
    rename_i m i
    rw [List.forall₂_cons, ih, List.forall_mem_cons]
    refine and_congr_left fun _ => ?_
    simp only [Placed, hm, Segment.href.injEq]
    constructor
    · rintro ⟨tok, claims, heq, hres⟩
      rw [linkBytes_injective m heq]
      exact ⟨claims, hres⟩
    · rintro ⟨claims, hres⟩
      exact ⟨_, claims, rfl, hres⟩

lemma keyOf_eq_iff {i j : Issued} : rw.keyOf i = rw.keyOf j ↔ rw.hashURL i.original = rw.hashURL j.original :=
  String.append_right_inj _

/-- A token of the pass resolves to the last link of the pass under its hash. -/
lemma resolve_in_pass (h : rw.Sound) {st st' : RewriteState} {new : List Issued} {tenantID : String}
    (hinv : rw.RunInv st') (hissued : st'.issued = st.issued ++ new) (htenant : ∀ i ∈ new, i.tenantID = tenantID)
    {i : Issued} (hi : i ∈ new) {now : ℤ} (hlo : rw.clock i.call - 60 ≤ now) (hhi : now < (rw.claimsOf i).expiresAt)
    (v : Bytes) : (∃ claims, rw.resolve st'.store now i.token = .ok (v, claims)) ↔
      lastWith rw.hashURL (rw.hashURL i.original) (new.map Issued.original) = some v := by
  obtain ⟨l, hl⟩ := lastWith_isSome rw.keyOf hi
  have hmem : i ∈ st'.issued := by rw [hissued]; exact List.mem_append_right _ hi
  have hlast : lastWith rw.keyOf (rw.keyOf i) st'.issued = some l := by rw [hissued]; exact lastWith_append _ hl
  obtain ⟨hlnew, -⟩ := lastWith_mem hl
  have hlmem : l ∈ st'.issued := by rw [hissued]; exact List.mem_append_right _ hlnew
  have hdec : rw.decrypt i.tenantID l.enc = .ok l.original := by
    rw [htenant i hi, ← htenant l hlnew]
    exact h.decrypt _ _ _ _ (hinv.encrypted l hlmem)
  have hhash : lastWith rw.hashURL (rw.hashURL i.original) (new.map Issued.original) = some l.original := by
    unfold lastWith at hl
    simp only [keyOf_eq_iff] at hl
    rw [lastWith_map, lastWith, hl]
    rfl
  rw [resolve_last h hinv hmem hlast hlo hhi, hdec, hhash]
  simp

/-! ### The pass as a whole -/

/-- Every link is behind the interstitial afterwards, nothing else has changed, and the tokens resolve. -/
structure Protected (rw : URLRewriter) (ent : EntityDecoder) (now : ℤ) (body out : Bytes)
    (store : String → Option String) : Prop where
  complete : ∀ m, .href m ∈ segments out → ¬ External ent (bytesOf rw.baseURL) (extractHrefValue m)
  placed : List.Forall₂ (rw.Placed ent store now) (segments body) (segments out)

/-- The same, where an attribute counts at any place of the text. -/
structure ProtectedAnywhere (rw : URLRewriter) (ent : EntityDecoder) (now : ℤ) (body out : Bytes)
    (store : String → Option String) : Prop where
  complete : ∀ k m, matchHref (out.drop k) = some m → ¬ External ent (bytesOf rw.baseURL) (extractHrefValue m)
  placed : List.Forall₂ (rw.Placed ent store now) (segments body) (segments out)

/-- The links of a body are written as `url.Parse` reads them: each begins with its scheme and parses, and the ones that
are rewritten are their own decoding (and that of no later link with the same hash). -/
structure Readable (rw : URLRewriter) (isIPv6 : Bytes → Bool) (ent : EntityDecoder) (req : RewriteRequest) : Prop where
  parsed : ∀ m, .href m ∈ segments req.htmlBody → External ent (bytesOf rw.baseURL) (extractHrefValue m) →
    (NetUrl.parse isIPv6 (extractHrefValue m)).isSome ∧ rw.SchemeWritten (extractHrefValue m)
  decoded : ∀ u ∈ rw.links req, lastWith rw.hashURL (rw.hashURL u) (rw.links req) = some (ent.decode u)

lemma parsed_iff (hparse : ∀ u, rw.urlScheme u = parsedScheme isIPv6 u) (ent : EntityDecoder) (body : Bytes) :
    (∀ m, .href m ∈ segments body → rw.linkOf (.href m) = none →
        ¬ External ent (bytesOf rw.baseURL) (extractHrefValue m)) ↔
      ∀ m, .href m ∈ segments body → External ent (bytesOf rw.baseURL) (extractHrefValue m) →
        (NetUrl.parse isIPv6 (extractHrefValue m)).isSome ∧ rw.SchemeWritten (extractHrefValue m) := by
  refine forall₂_congr fun m hm => ?_
  obtain ⟨p, rfl⟩ := exists_href_of_mem_segments hm
  have hnone : rw.linkOf (.href p.bytes) = none ↔ ¬ rw.shouldSkip (extractHrefValue p.bytes) = false := by
    unfold linkOf
    simp [p.extractHrefValue_bytes, p.value_ne]
  rw [hnone, shouldSkip_eq_false_iff hparse]
  exact not_imp_not

/-- A body is protected by a pass exactly if its links are readable, for the attributes of the scan; for the attributes
at any place this is necessary, and enough if none begins inside another. -/
theorem rewrite_protects_iff (h : rw.Sound) (htok : rw.PlainTokens) (hbase : PlainText (bytesOf rw.baseURL))
    (hparse : ∀ u, rw.urlScheme u = parsedScheme isIPv6 u) (ent : EntityDecoder)
    (htier : req.tier.allowsURLRewrite = true) (hreq : req.tenantID ≠ "" ∧ req.pseudonymizedMessage ≠ "")
    (hinv : rw.RunInv st) {now : ℤ}
    (hvalid : ∀ i ∈ (rw.rewrite req st).2.issued.drop st.issued.length,
      rw.clock i.call - 60 ≤ now ∧ now < (rw.claimsOf i).expiresAt) :
    ∃ res, (rw.rewrite req st).1 = .ok res ∧
      (Protected rw ent now req.htmlBody res.htmlBody (rw.rewrite req st).2.store ↔ Readable rw isIPv6 ent req) ∧
      (ProtectedAnywhere rw ent now req.htmlBody res.htmlBody (rw.rewrite req st).2.store →
        Readable rw isIPv6 ent req) ∧
      ((∀ m, .href m ∈ segments req.htmlBody → NoOpening m) → Readable rw isIPv6 ent req →
        ProtectedAnywhere rw ent now req.htmlBody res.htmlBody (rw.rewrite req st).2.store) := by
  obtain ⟨segs', new, hashes, st', heq, hinv', hissued, hrep⟩ :=
    rewriteSegments_replaced h htok hreq (segments req.htmlBody) hinv
  have hids : ¬ (req.tenantID = "" ∨ req.pseudonymizedMessage = "") := not_or.mpr hreq
  have hrun : rw.rewrite req st = (.ok ⟨join segs', hashes.length, hashes⟩, st') := by
    unfold rewrite
    simp only [htier, Bool.not_true, Bool.false_eq_true, if_false, hids, heq]
  have hlinks : rw.links req = new.map Issued.original := by
    unfold links
    simp only [htier, Bool.not_true, Bool.false_eq_true, if_false, hids, hrep.links_eq]
  rw [hrun, hissued, List.drop_left] at hvalid
  rw [hrun]
  have hscan := (segments_of_related (hrep.related hbase fun m hm => exists_href_of_mem_segments hm)).1
  have hcomplete := (hrep.complete_iff hbase ent).trans (parsed_iff hparse ent req.htmlBody)
  have hplaced : List.Forall₂ (rw.Placed ent st'.store now) (segments req.htmlBody) segs' ↔
      ∀ u ∈ rw.links req, lastWith rw.hashURL (rw.hashURL u) (rw.links req) = some (ent.decode u) := by
    rw [hrep.placed_iff, hlinks, List.forall_mem_map]
    exact forall₂_congr fun i hi =>
      resolve_in_pass h hinv' hissued hrep.tenant hi (hvalid i hi).1 (hvalid i hi).2 _
  refine ⟨_, rfl, ⟨?_, ?_⟩, ?_, ?_⟩
  · rintro ⟨hc, hp⟩
    rw [hscan] at hc hp
    exact ⟨hcomplete.mp hc, hplaced.mp hp⟩
  · rintro ⟨hc, hp⟩
    refine ⟨?_, ?_⟩ <;> rw [hscan]
    · exact hcomplete.mpr hc
    · exact hplaced.mpr hp
  · rintro ⟨hc, hp⟩
    rw [hscan] at hp
    refine ⟨hcomplete.mp fun m hm => ?_, hplaced.mp hp⟩
    rw [← hscan] at hm
    obtain ⟨k, hk⟩ := exists_place_of_mem_segments hm
    exact hc k m hk
  · rintro hnest ⟨hc, hp⟩
    have hopen : ∀ m, .href m ∈ segments (join segs') → NoOpening m := by
      rw [hscan]
      exact hrep.noOpening hbase hnest
    refine ⟨fun k m hm => ?_, ?_⟩
    · have hmem := matchHref_drop hopen hm
      rw [hscan] at hmem
      exact hcomplete.mpr hc m hmem
    · rw [hscan]
      exact hplaced.mpr hp

end URLRewriter

/-! ### A rewriter at work -/

/-- The text of bytes, if they are one. -/
def textOf (bs : Bytes) : Option String := String.fromUTF8? ⟨bs.toArray⟩

lemma textOf_bytesOf (s : String) : textOf (bytesOf s) = some s := by
  have hbytes : (⟨(bytesOf s).toArray⟩ : ByteArray) = s.toByteArray := by simp [bytesOf]
  rw [textOf, hbytes, String.fromUTF8?, dif_pos s.isValidUTF8]
  rfl

/-- An issuer whose tokens are those of another in hexadecimal. -/
def armoured (i : JWTIssuer) : JWTIssuer where
  issuer := i.issuer
  ttl := i.ttl
  sign := fun c => (i.sign c).map fun tok => Hex.encode (bytesOf tok)
  parse := fun now tok =>
    match Hex.decode tok with
    | .error _ => .error { err := "token is malformed" }
    | .ok bs =>
      match textOf bs with
      | none => .error { err := "token is malformed" }
      | some inner => i.parse now inner

lemma armoured_sound {i : JWTIssuer} (h : i.Sound) : (armoured i).Sound where
  sign := fun c => by
    obtain ⟨tok, hsign, hne⟩ := h.sign c
    refine ⟨Hex.encode (bytesOf tok), by simp [armoured, hsign, Except.map], fun hempty => ?_⟩
    exact hne (bytesOf_injective (Hex.encode_injective hempty))
  parse := fun c tok now hsign hiss hlo hhi => by
    obtain ⟨inner, hinner, -⟩ := h.sign c
    obtain rfl : Hex.encode (bytesOf inner) = tok := by
      simpa [armoured, hinner, Except.map] using hsign
    simp only [armoured, Hex.decode_encode, textOf_bytesOf]
    exact h.parse c inner now hinner hiss hlo hhi

lemma plain_hex (bs : Bytes) : PlainText (bytesOf (Hex.encode bs)) := by
  have hdigit : ∀ n < 16, PlainText (String.utf8EncodeChar (Hex.digit n)) := by decide
  intro b hb
  rw [Hex.encode, bytesOf_eq_flatMap, String.toList_ofList] at hb
  obtain ⟨c, hc, hb⟩ := List.mem_flatMap.mp hb
  obtain ⟨x, -, hx⟩ := List.mem_flatMap.mp hc
  have hlt := x.toNat_lt
  simp only [List.mem_cons, List.not_mem_nil, or_false] at hx
  rcases hx with rfl | rfl
  · exact hdigit _ (by omega) b hb
  · exact hdigit _ (by omega) b hb

/-- A rewriter with `url.Parse` and tokens in hexadecimal. -/
def hexRewriter : URLRewriter :=
  { boxRewriter with issuer := armoured plainIssuer, urlScheme := parsedScheme fun _ => false }

lemma hexRewriter_sound : hexRewriter.Sound :=
  { boxRewriter_sound with jwt := armoured_sound plainIssuer_sound }

lemma hexRewriter_plainTokens : hexRewriter.PlainTokens := by
  intro c tok hsign
  obtain ⟨inner, hinner, -⟩ := plainIssuer_sound.sign c
  obtain rfl : Hex.encode (bytesOf inner) = tok := by
    simpa [hexRewriter, armoured, hinner, Except.map] using hsign
  exact plain_hex _

/-- The decoder of texts without references. -/
def noReferences : EntityDecoder := ⟨id, fun _ _ => rfl⟩

lemma runInv_empty (rw : URLRewriter) : rw.RunInv {} := by
  refine ⟨?_, ?_, ?_⟩ <;> simp [lastWith]

lemma hexRewriter_valid (i : Issued) :
    hexRewriter.clock i.call - 60 ≤ 60 ∧ 60 < (hexRewriter.claimsOf i).expiresAt :=
  ⟨show (0 - 60 : ℤ) ≤ 60 by decide, show (60 : ℤ) < 0 + 7 * 24 * 3600 by decide⟩

lemma segments_linkRequest : segments (linkRequest "x").htmlBody =
    [.text 60, .text 97, .text 32, .href (bytesOf "href='http://a.b/'"), .text 62] := by decide +kernel

theorem rewrite_protects_link : ∃ res, (hexRewriter.rewrite (linkRequest "x") {}).1 = .ok res ∧
    URLRewriter.Protected hexRewriter noReferences 60 (linkRequest "x").htmlBody res.htmlBody
      (hexRewriter.rewrite (linkRequest "x") {}).2.store := by
  have hparse : ∀ u, hexRewriter.urlScheme u = parsedScheme (fun _ => false) u := fun _ => rfl
  have hreq : (linkRequest "x").tenantID ≠ "" ∧ (linkRequest "x").pseudonymizedMessage ≠ "" := by decide
  have htier : (linkRequest "x").tier.allowsURLRewrite = true := by decide
  have hbase : PlainText (bytesOf hexRewriter.baseURL) := by decide +kernel
  obtain ⟨res, hres, hiff, -⟩ := URLRewriter.rewrite_protects_iff hexRewriter_sound hexRewriter_plainTokens hbase hparse
    noReferences htier hreq (runInv_empty _) fun i _ => hexRewriter_valid i
  refine ⟨res, hres, hiff.mpr ⟨?_, ?_⟩⟩
  · rw [segments_linkRequest]
    intro m hm _
    obtain rfl : m = bytesOf "href='http://a.b/'" := by simpa using hm
    decide +kernel
  · have hlinks : hexRewriter.links (linkRequest "x") = [bytesOf "http://a.b/"] := by decide +kernel
    rw [hlinks]
    intro u hu
    obtain rfl := List.mem_singleton.mp hu
    exact lastWith_concat_self [] _

/-- The body is left as it is, with a link that is not protected. -/
def Escapes (body : Bytes) : Prop :=
  ∃ res, (hexRewriter.rewrite ⟨"x", "m", .blocked, body⟩ {}).1 = .ok res ∧ res.htmlBody = body ∧
    ¬ URLRewriter.Protected hexRewriter noReferences 60 body res.htmlBody
      (hexRewriter.rewrite ⟨"x", "m", .blocked, body⟩ {}).2.store

lemma escapes_of_external {body m : Bytes}
    (hkept : (hexRewriter.rewrite ⟨"x", "m", .blocked, body⟩ {}).1 = .ok ⟨body, 0, []⟩) (hm : .href m ∈ segments body)
    (hext : External noReferences (bytesOf hexRewriter.baseURL) (extractHrefValue m)) : Escapes body := by
  refine ⟨_, hkept, rfl, fun h => ?_⟩
  exact h.complete m hm hext

/-- **The failing inputs**: a link behind a space, and one without a scheme. -/
theorem link_escapes : Escapes (bytesOf "<a href=' http://a.b/'>") ∧ Escapes (bytesOf "<a href='//a.b/'>") := by
  constructor
  · apply escapes_of_external (m := bytesOf "href=' http://a.b/'") <;> decide +kernel
  · apply escapes_of_external (m := bytesOf "href='//a.b/'") <;> decide +kernel

end Sn360Es.Action
