import Sn360Es.Lib.NetUrl
import Sn360Es.Lib.Sha256

/-!
# Threat-intel indicators (`pkg/intel/intel.go`, `pkg/intel/urlhaus/urlhaus.go`)

A feed reports domains, URLs, addresses and file digests. Each one is brought into a canonical form and is stored under
the SHA-256 of that form; the Tier 0 gate hashes what it finds in a message in the same way. `idna.Lookup.ToASCII`,
`netip.ParseAddr` and the table of `unicode.ToLower` are parameters.

* `canonicalise`, `hashIndicator` — `Canonicalise`, `HashIndicator`;
* `Urlhaus.decode` — `urlhaus.Decode`, from the records of the CSV reader on.
-/

namespace Sn360Es.Intel

open Lib Lib.NetUrl Lib.Utf8

/-- `IndicatorType`; a feed may name one that is not supported. -/
inductive IndicatorType where
  | domain
  | url
  | ip
  | sha256
  | other (s : Bytes)
deriving DecidableEq, Repr

/-- `IndicatorType.Valid`. -/
def IndicatorType.valid : IndicatorType → Bool
  | .other _ => false
  | _ => true

/-- `Indicator`; no tags are the nil slice. -/
structure Indicator where
  indicator : Bytes
  typ : IndicatorType
  hash : Bytes := []
  severity : ℤ := 0
  tags : List Bytes := []
deriving DecidableEq, Repr

/-- The errors of `Canonicalise`, with the value that they print. -/
inductive CanonicaliseError where
  | unknownType (t : IndicatorType)
  /-- `ErrIndicatorMalformed`. -/
  | malformed
  | domain (v : Bytes)
  | url (v : Bytes)
  | urlHost (host : Bytes)
  | ip (v : Bytes)
  | sha256Length (n : ℕ)
  | sha256NonHex (v : Bytes)
deriving DecidableEq, Repr

/-- What the canonical forms rest on. -/
structure Names where
  /-- `unicode.ToLower`. -/
  lower : ℕ → ℕ
  /-- `netip.ParseAddr`: whether it is an IPv4 address, and its text. -/
  parseAddr : Bytes → Option (Bool × Bytes)
  /-- `idna.Lookup.ToASCII`. -/
  toASCII : Bytes → Option Bytes

/-- `strings.TrimSuffix`, `strings.TrimPrefix`. -/
def trimSuffix (s tail : Bytes) : Bytes := if tail <:+ s then s.take (s.length - tail.length) else s

def trimPrefix (s lead : Bytes) : Bytes := if lead <+: s then s.drop lead.length else s

/-- The tags that `seen` does not have yet. -/
def cleanTagsFrom : List Bytes → List Bytes → List Bytes
  | _, [] => []
  | seen, t :: ts =>
    if trimSpace t = [] ∨ seen.any (· = trimSpace t) then cleanTagsFrom seen ts
    else trimSpace t :: cleanTagsFrom (trimSpace t :: seen) ts

/-- `cleanTags`. -/
def cleanTags (ts : List Bytes) : List Bytes := cleanTagsFrom [] ts

namespace Names

variable (names : Names)

/-- `url.Parse`. -/
def parseURL (raw : Bytes) : Option URL := NetUrl.parse (fun h => (names.parseAddr h).any fun a => !a.1) raw

/-- `canonicaliseDomain`. -/
def canonicaliseDomain (v : Bytes) : Except CanonicaliseError Bytes :=
  let v := trimPrefix (trimSuffix (toLower names.lower (trimSpace v)) (bytesOf ".")) (bytesOf "www.")
  if v = [] then .error .malformed
  else
    match names.toASCII v with
    | none => .error (.domain v)
    | some ascii => .ok ascii

/-- The port that `canonicaliseURL` keeps. -/
def keptPort (scheme port : Bytes) : Bytes :=
  if (scheme = bytesOf "http" ∧ port = bytesOf "80") ∨ (scheme = bytesOf "https" ∧ port = bytesOf "443") then [] else port

/-- The canonical text of a URL whose host is `ascii`. -/
def canonicalText (u : URL) (ascii : Bytes) : Bytes :=
  let port := keptPort u.scheme u.port
  let u := { u with host := if port = [] then ascii else ascii ++ bytesOf ":" ++ port, fragment := [] }
  if u.path = bytesOf "/" ∧ u.rawQuery = [] then trimSuffix u.string (bytesOf "/") else u.string

/-- `canonicaliseURL`; `Parse` has already lowered the scheme. -/
def canonicaliseURL (v : Bytes) : Except CanonicaliseError Bytes :=
  match names.parseURL (trimSpace v) with
  | none => .error (.url v)
  | some u =>
    if u.scheme = [] ∨ u.host = [] then .error .malformed
    else
      let host := toLower names.lower u.hostname
      if host = [] then .error .malformed
      else
        match names.toASCII (trimSuffix host (bytesOf ".")) with
        | none => .error (.urlHost host)
        | some ascii => .ok (canonicalText u ascii)

/-- `canonicaliseIP`. -/
def canonicaliseIP (v : Bytes) : Except CanonicaliseError Bytes :=
  match names.parseAddr (trimSpace v) with
  | none => .error (.ip v)
  | some (_, text) => .ok text

/-- `canonicaliseSHA256`. -/
def canonicaliseSHA256 (v : Bytes) : Except CanonicaliseError Bytes :=
  let v := toLower names.lower (trimSpace v)
  if v.length ≠ 64 then .error (.sha256Length v.length)
  else if v.all fun c => within 0x30 0x39 c || within 0x61 0x66 c then .ok v
  else .error (.sha256NonHex v)

/-- The canonical form of a value. -/
def canonicalForm (t : IndicatorType) (v : Bytes) : Except CanonicaliseError Bytes :=
  match t with
  | .domain => names.canonicaliseDomain v
  | .url => names.canonicaliseURL v
  | .ip => names.canonicaliseIP v
  | .sha256 => names.canonicaliseSHA256 v
  | .other s => .error (.unknownType (.other s))

/-- The severity between 0 and 100. -/
def clampSeverity (sev : ℤ) : ℤ := if sev < 0 then 0 else if 100 < sev then 100 else sev

/-- `Canonicalise`. -/
def canonicalise (raw : Indicator) : Except CanonicaliseError Indicator :=
  if !raw.typ.valid then .error (.unknownType raw.typ)
  else if trimSpace raw.indicator = [] then .error .malformed
  else
    match names.canonicalForm raw.typ (trimSpace raw.indicator) with
    | .error e => .error e
    | .ok canonical =>
      if canonical = [] then .error .malformed
      else
        .ok
          { indicator := canonical
            typ := raw.typ
            hash := Sha256.sum256 canonical
            severity := clampSeverity raw.severity
            tags := cleanTags raw.tags }

/-- `HashIndicator`. -/
def hashIndicator (t : IndicatorType) (value : Bytes) : Option Bytes :=
  match names.canonicalise { indicator := value, typ := t } with
  | .ok cn => some cn.hash
  | .error _ => none

/-- An indicator as the pollers hand it to a store. -/
def Canonicalised (ind : Indicator) : Prop := ∃ raw, names.canonicalise raw = .ok ind

end Names

variable {names : Names} {ind raw : Indicator}

lemma canonicalise_ok (h : names.canonicalise raw = .ok ind) :
    ∃ canonical, raw.typ.valid = true ∧ trimSpace raw.indicator ≠ [] ∧
      names.canonicalForm raw.typ (trimSpace raw.indicator) = .ok canonical ∧ canonical ≠ [] ∧
      ind = { indicator := canonical, typ := raw.typ, hash := Sha256.sum256 canonical,
              severity := Names.clampSeverity raw.severity, tags := cleanTags raw.tags } := by
  unfold Names.canonicalise at h
  cases hvalid : raw.typ.valid with
  | false =>
    rw [hvalid] at h
    cases h
  | true =>
    rw [hvalid, if_neg (by simp)] at h
    by_cases hempty : trimSpace raw.indicator = []
    · rw [if_pos hempty] at h
      cases h
    · rw [if_neg hempty] at h
      cases hform : names.canonicalForm raw.typ (trimSpace raw.indicator) with
      | error e =>
        rw [hform] at h
        cases h
      | ok canonical =>
        rw [hform] at h
        by_cases hnil : canonical = []
        · simp only [if_pos hnil] at h
          cases h
        · simp only [if_neg hnil, Except.ok.injEq] at h
          exact ⟨canonical, rfl, hempty, rfl, hnil, h.symm⟩

/-- What the columns of the table ask of an indicator. -/
lemma Names.Canonicalised.checks (h : names.Canonicalised ind) :
    ind.indicator ≠ [] ∧ ind.typ.valid = true ∧ 0 ≤ ind.severity ∧ ind.severity ≤ 100 := by
  obtain ⟨raw, hraw⟩ := h
  obtain ⟨canonical, hvalid, -, -, hnil, rfl⟩ := canonicalise_ok hraw
  have hclamp : 0 ≤ Names.clampSeverity raw.severity ∧ Names.clampSeverity raw.severity ≤ 100 := by
    unfold Names.clampSeverity
    split_ifs <;> omega
  exact ⟨hnil, hvalid, hclamp.1, hclamp.2⟩

/-! ### URLhaus -/

namespace Urlhaus

/-- `splitTags`. -/
def splitTags (raw : Bytes) : List Bytes :=
  if trimSpace raw = [] then []
  else
    (((trimSpace raw).splitOn 0x2C).map fun p =>
      ((trimSpace p).dropWhile (· = 0x22)).reverse.dropWhile (· = 0x22) |>.reverse).filter (· ≠ [])

/-- `severityFromStatus`. -/
def severityFromStatus (status : Bytes) : ℤ :=
  if status = bytesOf "online" then 80 else if status = bytesOf "offline" then 40 else 60

variable (names : Names)

/-- `extractHost`. -/
def extractHost (raw : Bytes) : Bytes := ((names.parseURL raw).map URL.hostname).getD []

/-- What a record gives: the URL, and its host as a domain. -/
def decodeRecord (row : List Bytes) : List Indicator :=
  if row.length < 6 then []
  else
    let rawURL := trimSpace (row.getD 2 [])
    let threat := trimSpace (row.getD 5 [])
    let tags := splitTags (row.getD 6 []) ++ if threat ≠ [] then [threat] else []
    let sev := severityFromStatus (toLower names.lower (trimSpace (row.getD 3 [])))
    match names.canonicalise { indicator := rawURL, typ := .url, severity := sev, tags := tags } with
    | .error _ => []
    | .ok urlInd =>
      let host := extractHost names rawURL
      if host = [] then [urlInd]
      else
        match names.canonicalise { indicator := host, typ := .domain, severity := sev, tags := tags } with
        | .error _ => [urlInd]
        | .ok domInd => [urlInd, domInd]

/-- `Decode`, of the records that the CSV reader accepts. -/
def decode (rows : List (List Bytes)) : Except String (List Indicator) :=
  let out := rows.flatMap (decodeRecord names)
  if out = [] then .error "urlhaus: feed contained no parseable rows" else .ok out

end Urlhaus

end Sn360Es.Intel
