import Sn360Es.Lib.Utf8

/-!
# URLs (`net/url`)

`url.Parse` and `URL.String` on byte strings, as the Go library has them from version 1.25.8 on; an error is `none`.
What `netip.ParseAddr` accepts between brackets is a parameter.

* `unescape`, `escape` — percent encoding, in the parts of a URL;
* `parse` — `url.Parse`;
* `URL.hostname`, `URL.port`, `URL.string` — the methods of the same names.
-/

namespace Lib.NetUrl

open Utf8

/-! ### Percent encoding -/

/-- The modes of `escape` and `unescape` that `Parse` and `String` use. -/
inductive Encoding where
  | path
  | userPassword
  | host
  | zone
  | fragment
deriving DecidableEq, Repr

def isDigit (c : UInt8) : Bool := within 0x30 0x39 c

def isLetter (c : UInt8) : Bool := within 0x41 0x5A c || within 0x61 0x7A c

/-- `shouldEscape`. -/
def shouldEscape (c : UInt8) (mode : Encoding) : Bool :=
  if isLetter c || isDigit c then false
  else if (mode = .host ∨ mode = .zone) ∧ c ∈ bytesOf "!$&'()*+,;=:[]<>\"" then false
  else if c ∈ bytesOf "-_.~" then false
  else if c ∈ bytesOf "$&+,/:;=?@" then
    match mode with
    | .path => c ∈ bytesOf "?"
    | .userPassword => c ∈ bytesOf "@/?:"
    | .fragment => false
    | .host | .zone => true
  else !(mode = .fragment ∧ c ∈ bytesOf "!()*")

/-- `unhex`, with `ishex`. -/
def unhex (c : UInt8) : Option ℕ :=
  if isDigit c then some (c.toNat - 0x30)
  else if within 0x61 0x66 c then some (c.toNat - 0x61 + 10)
  else if within 0x41 0x46 c then some (c.toNat - 0x41 + 10)
  else none

def upperhex (n : ℕ) : UInt8 := (bytesOf "0123456789ABCDEF").getD n 0

/-- `escape`. -/
def escape (mode : Encoding) (s : Bytes) : Bytes :=
  s.flatMap fun c => if shouldEscape c mode then [0x25, upperhex (c.toNat / 16), upperhex (c.toNat % 16)] else [c]

/-- The byte that `%ab` stands for, if the mode allows it. -/
def unescapeByte (mode : Encoding) (a b : UInt8) : Option UInt8 :=
  match unhex a, unhex b with
  | some x, some y =>
    let v := UInt8.ofNat (x * 16 + y)
    -- a host may only encode what is not ASCII, but for `%25`
    if mode = .host ∧ x < 8 ∧ v ≠ 0x25 then none
    else if mode = .zone ∧ v ≠ 0x25 ∧ v ≠ 0x20 ∧ shouldEscape v .host then none
    else some v
  | _, _ => none

/-- A byte that stands for itself, if the mode allows it. -/
def plainByte (mode : Encoding) (c : UInt8) : Option UInt8 :=
  if c = 0x25 ∨ (mode = .host ∨ mode = .zone) ∧ c.toNat < 0x80 ∧ shouldEscape c mode then none else some c

/-- `unescape`. -/
def unescape (mode : Encoding) : Bytes → Option Bytes
  | [] => some []
  | [c] => (plainByte mode c).map fun x => [x]
  | [c, a] => (plainByte mode c).bind fun x => (plainByte mode a).map fun y => [x, y]
  | c :: a :: b :: s =>
    if c = 0x25 then (unescapeByte mode a b).bind fun x => (unescape mode s).map (x :: ·)
    else (plainByte mode c).bind fun x => (unescape mode (a :: b :: s)).map (x :: ·)

/-! ### The parts of a URL -/

/-- `url.Userinfo`. -/
structure Userinfo where
  username : Bytes
  password : Option Bytes := none
deriving DecidableEq, Repr

/-- `url.URL`. -/
structure URL where
  scheme : Bytes := []
  opaquePart : Bytes := []
  user : Option Userinfo := none
  host : Bytes := []
  path : Bytes := []
  rawPath : Bytes := []
  omitHost : Bool := false
  forceQuery : Bool := false
  rawQuery : Bytes := []
  fragment : Bytes := []
  rawFragment : Bytes := []
deriving DecidableEq, Repr

/-- `strings.Cut` at a byte: what stands before its first place, and what stands after it. -/
def cutAt (c : UInt8) (s : Bytes) : Bytes × Bytes := (s.takeWhile (· ≠ c), (s.dropWhile (· ≠ c)).drop 1)

/-- What stands before the last place of a byte, and what stands after it. -/
def cutLast (c : UInt8) (s : Bytes) : Option (Bytes × Bytes) :=
  if c ∈ s then
    some (((s.reverse.dropWhile (· ≠ c)).drop 1).reverse, (s.reverse.takeWhile (· ≠ c)).reverse)
  else none

/-- `getScheme`, from the place after `seen`: the scheme and the rest. -/
def getSchemeFrom (raw : Bytes) : Bytes → Bytes → Option (Bytes × Bytes)
  | _, [] => some ([], raw)
  | seen, c :: s =>
    if isLetter c then getSchemeFrom raw (seen ++ [c]) s
    else if isDigit c ∨ c ∈ bytesOf "+-." then
      if seen = [] then some ([], raw) else getSchemeFrom raw (seen ++ [c]) s
    else if c = 0x3A then
      if seen = [] then none else some (seen, s)
    else some ([], raw)

def getScheme (raw : Bytes) : Option (Bytes × Bytes) := getSchemeFrom raw [] raw

/-- `validOptionalPort`. -/
def validOptionalPort (port : Bytes) : Bool :=
  match port with
  | [] => true
  | c :: s => c = 0x3A ∧ s.all isDigit

/-- `validUserinfo`. -/
def validUserinfo (s : Bytes) : Bool :=
  s.all fun c => isLetter c || isDigit c || c ∈ bytesOf "-._:~!$&'()*+,;=%@"

section Parse

/- The text is an IPv6 address of `netip.ParseAddr`. -/
variable (isIPv6 : Bytes → Bool)

/-- The host between the brackets; `%25` begins a zone. -/
def unescapeLiteral (hostname : Bytes) : Option Bytes :=
  match GoBytes.index (bytesOf "%25") hostname with
  | some zone =>
    (unescape .host (hostname.take zone)).bind fun hostPart =>
      (unescape .zone (hostname.drop zone)).map fun zonePart => hostPart ++ zonePart
  | none => unescape .host hostname

/-- `parseHost`. -/
def parseHost (host : Bytes) : Option Bytes :=
  match cutLast 0x5B host with
  | some (before, _) =>
    if before ≠ [] then none
    else
      (cutLast 0x5D host).bind fun (literal, colonPort) =>
        if !validOptionalPort colonPort then none
        else
          (unescape .host colonPort).bind fun unescapedColonPort =>
            (unescapeLiteral (literal.drop 1)).bind fun hostname =>
              if isIPv6 hostname then some ([0x5B] ++ hostname ++ [0x5D] ++ unescapedColonPort) else none
  | none =>
    match cutLast 0x3A host with
    | some (_, port) => if validOptionalPort (0x3A :: port) then unescape .host host else none
    | none => unescape .host host

/-- `parseAuthority`. -/
def parseAuthority (authority : Bytes) : Option (Option Userinfo × Bytes) :=
  match cutLast 0x40 authority with
  | none => (parseHost isIPv6 authority).map fun host => (none, host)
  | some (userinfo, hostPart) =>
    (parseHost isIPv6 hostPart).bind fun host =>
      if !validUserinfo userinfo then none
      else if 0x3A ∉ userinfo then
        (unescape .userPassword userinfo).map fun username => (some { username := username }, host)
      else
        (unescape .userPassword (cutAt 0x3A userinfo).1).bind fun username =>
          (unescape .userPassword (cutAt 0x3A userinfo).2).map fun password =>
            (some { username := username, password := some password }, host)

/-- `setPath`. -/
def setPath (u : URL) (p : Bytes) : Option URL :=
  (unescape .path p).map fun path =>
    { u with path := path, rawPath := if p = escape .path path then [] else p }

/-- `setFragment`. -/
def setFragment (u : URL) (f : Bytes) : Option URL :=
  (unescape .fragment f).map fun frag =>
    { u with fragment := frag, rawFragment := if f = escape .fragment frag then [] else f }

/-- The query: what stands after the first `?`, or a single `?` at the end. -/
def splitQuery (u : URL) (rest : Bytes) : URL × Bytes :=
  if rest.getLast? = some 0x3F ∧ rest.count 0x3F = 1 then ({ u with forceQuery := true }, rest.dropLast)
  else ({ u with rawQuery := (cutAt 0x3F rest).2 }, (cutAt 0x3F rest).1)

/-- The authority and the path. -/
def parseHierarchy (u : URL) (rest : Bytes) : Option URL :=
  if bytesOf "//" <+: rest ∧ (u.scheme ≠ [] ∨ ¬ bytesOf "///" <+: rest) then
    let authority := (rest.drop 2).takeWhile (· ≠ 0x2F)
    (parseAuthority isIPv6 authority).bind fun (user, host) =>
      setPath { u with user := user, host := host } (rest.drop (2 + authority.length))
  else setPath { u with omitHost := decide (u.scheme ≠ [] ∧ bytesOf "/" <+: rest) } rest

/-- `parse`, of a text without its fragment. -/
def parseRef (raw : Bytes) : Option URL :=
  if raw.any fun c => c.toNat < 0x20 || c.toNat = 0x7F then none
  else if raw = bytesOf "*" then some { path := raw }
  else
    (getScheme raw).bind fun (scheme, afterScheme) =>
      -- a scheme is ASCII
      let (u, rest) := splitQuery { scheme := scheme.map asciiLower } afterScheme
      if bytesOf "/" <+: rest then parseHierarchy isIPv6 u rest
      else if u.scheme ≠ [] then some { u with opaquePart := rest }
      else if 0x3A ∈ rest.takeWhile (· ≠ 0x2F) then none
      else setPath u rest

/-- `url.Parse`. -/
def parse (raw : Bytes) : Option URL :=
  (parseRef isIPv6 (cutAt 0x23 raw).1).bind fun u =>
    if (cutAt 0x23 raw).2 = [] then some u else setFragment u (cutAt 0x23 raw).2

end Parse

/-! ### What a URL says -/

def Userinfo.string (i : Userinfo) : Bytes :=
  escape .userPassword i.username ++ (i.password.map fun p => bytesOf ":" ++ escape .userPassword p).getD []

namespace URL

variable (u : URL)

/-- `splitHostPort`, of the host. -/
def splitHostPort : Bytes × Bytes :=
  let (host, port) :=
    match cutLast 0x3A u.host with
    | some (before, after) => if validOptionalPort (0x3A :: after) then (before, after) else (u.host, [])
    | none => (u.host, [])
  (if host.head? = some 0x5B ∧ host.getLast? = some 0x5D then (host.drop 1).dropLast else host, port)

def hostname : Bytes := u.splitHostPort.1

def port : Bytes := u.splitHostPort.2

/-- `validEncoded`. -/
def validEncoded (mode : Encoding) (s : Bytes) : Bool :=
  s.all fun c => c ∈ bytesOf "!$&'()*+,;=:@[]%" || !shouldEscape c mode

/-- `EscapedPath`. -/
def escapedPath : Bytes :=
  if u.rawPath ≠ [] ∧ validEncoded .path u.rawPath ∧ unescape .path u.rawPath = some u.path then u.rawPath
  else if u.path = bytesOf "*" then u.path
  else escape .path u.path

/-- `EscapedFragment`. -/
def escapedFragment : Bytes :=
  if u.rawFragment ≠ [] ∧ validEncoded .fragment u.rawFragment ∧
      unescape .fragment u.rawFragment = some u.fragment then u.rawFragment
  else escape .fragment u.fragment

/-- The authority, as it is written. -/
def writeAuthority : Bytes :=
  if u.scheme = [] ∧ u.host = [] ∧ u.user = none then []
  else if u.omitHost ∧ u.host = [] ∧ u.user = none then []
  else
    (if u.host ≠ [] ∨ u.path ≠ [] ∨ u.user ≠ none then bytesOf "//" else []) ++
      (u.user.map fun i => i.string ++ bytesOf "@").getD [] ++ escape .host u.host

/-- `String`. -/
def string : Bytes :=
  let scheme := if u.scheme ≠ [] then u.scheme ++ bytesOf ":" else []
  let hierarchy :=
    if u.opaquePart ≠ [] then u.opaquePart
    else
      let path := u.escapedPath
      let slash := if path ≠ [] ∧ path.head? ≠ some 0x2F ∧ u.host ≠ [] then bytesOf "/" else []
      let before := scheme ++ u.writeAuthority ++ slash
      let dot := if before = [] ∧ 0x3A ∈ path.takeWhile (· ≠ 0x2F) then bytesOf "./" else []
      u.writeAuthority ++ slash ++ dot ++ path
  scheme ++ hierarchy ++ (if u.forceQuery ∨ u.rawQuery ≠ [] then bytesOf "?" ++ u.rawQuery else []) ++
    (if u.fragment ≠ [] then bytesOf "#" ++ u.escapedFragment else [])

end URL

/-! ### The scheme of a text -/

section Scheme

variable {isIPv6 : Bytes → Bool} {raw : Bytes} {u : URL}

lemma getSchemeFrom_some {seen t sch rest : Bytes} (h : getSchemeFrom raw seen t = some (sch, rest)) :
    sch = [] ∨ seen ++ t = sch ++ 0x3A :: rest := by
  induction t generalizing seen with
  | nil =>
    cases h
    exact Or.inl rfl
  | cons c t ih =>
    unfold getSchemeFrom at h
    split_ifs at h with hletter hdigit hseen hcolon hseen
    · simpa using ih h
    · cases h
      exact Or.inl rfl
    · simpa using ih h
    · cases h
      rw [hcolon]
      exact Or.inr rfl
    · cases h
      exact Or.inl rfl

lemma getSchemeFrom_letters {x : Bytes} (hx : ∀ c ∈ x, isLetter c = true) {seen : Bytes} (hne : seen ++ x ≠ [])
    (rest : Bytes) : getSchemeFrom raw seen (x ++ 0x3A :: rest) = some (seen ++ x, rest) := by
  induction x generalizing seen with
  | nil =>
    have hcolon : ¬ isLetter 0x3A = true := by decide
    have hdigit : ¬ (isDigit 0x3A = true ∨ (0x3A : UInt8) ∈ bytesOf "+-.") := by decide
    rw [List.append_nil] at hne ⊢
    rw [List.nil_append, getSchemeFrom, if_neg hcolon, if_neg hdigit, if_pos rfl, if_neg hne]
  | cons c x ih =>
    rw [List.cons_append, getSchemeFrom, if_pos (hx c List.mem_cons_self),
      ih (fun d hd => hx d (List.mem_cons_of_mem _ hd)) (by simp)]
    simp

lemma setPath_scheme {v : URL} {p : Bytes} (h : setPath v p = some u) : u.scheme = v.scheme := by
  obtain ⟨path, -, rfl⟩ := Option.map_eq_some_iff.mp h
  rfl

lemma parseHierarchy_scheme {v : URL} {rest : Bytes} (h : parseHierarchy isIPv6 v rest = some u) :
    u.scheme = v.scheme := by
  unfold parseHierarchy at h
  split_ifs at h
  · obtain ⟨⟨user, host⟩, -, hset⟩ := Option.bind_eq_some_iff.mp h
    exact (setPath_scheme hset :)
  · exact (setPath_scheme h :)

lemma splitQuery_scheme (v : URL) (rest : Bytes) : (splitQuery v rest).1.scheme = v.scheme := by
  unfold splitQuery
  split_ifs <;> rfl

lemma parseRef_scheme (h : parseRef isIPv6 raw = some u) :
    ∃ sch rest, getScheme raw = some (sch, rest) ∧ u.scheme = sch.map asciiLower := by
  unfold parseRef at h
  split_ifs at h with hctl hstar
  · cases h
    rw [hstar]
    exact ⟨[], bytesOf "*", by decide, rfl⟩
  · obtain ⟨⟨sch, rest⟩, hget, h⟩ := Option.bind_eq_some_iff.mp h
    refine ⟨sch, rest, hget, ?_⟩
    have hscheme := splitQuery_scheme { scheme := sch.map asciiLower } rest
    dsimp only at h
    split_ifs at h
    · exact (parseHierarchy_scheme h).trans hscheme
    · cases h
      exact hscheme
    · exact (setPath_scheme h).trans hscheme

lemma parse_scheme (h : parse isIPv6 raw = some u) :
    ∃ sch rest, getScheme (cutAt 0x23 raw).1 = some (sch, rest) ∧ u.scheme = sch.map asciiLower := by
  obtain ⟨v, hv, h⟩ := Option.bind_eq_some_iff.mp h
  obtain ⟨sch, rest, hget, hscheme⟩ := parseRef_scheme hv
  refine ⟨sch, rest, hget, ?_⟩
  split_ifs at h
  · cases h
    exact hscheme
  · obtain ⟨frag, -, rfl⟩ := Option.map_eq_some_iff.mp h
    exact hscheme

lemma isLetter_of_asciiLower {c : UInt8} (h : isLetter (asciiLower c) = true) : isLetter c = true := by
  unfold asciiLower at h
  split_ifs at h with hupper
  · simp [isLetter, hupper]
  · exact h

lemma eq_colon_of_asciiLower {c : UInt8} (h : asciiLower c = 0x3A) : c = 0x3A := by
  unfold asciiLower at h
  split_ifs at h with hupper
  · have hnat := congrArg UInt8.toNat h
    have h20 : (0x20 : UInt8).toNat = 0x20 := rfl
    have h3A : (0x3A : UInt8).toNat = 0x3A := rfl
    rw [within_iff] at hupper
    rw [UInt8.toNat_add] at hnat
    omega
  · exact h

/-- **The scheme** of a text that parses is what it begins with. -/
theorem scheme_eq_iff (h : parse isIPv6 raw = some u) {w : Bytes} (hne : w ≠ []) (hw : ∀ c ∈ w, isLetter c = true) :
    u.scheme = w ↔ w ++ [0x3A] <+: raw.map asciiLower := by
  obtain ⟨sch, rest, hget, hscheme⟩ := parse_scheme h
  rw [hscheme]
  constructor
  · rintro rfl
    have hsch : sch ≠ [] := fun hnil => hne (by rw [hnil]; rfl)
    have hcut := (getSchemeFrom_some hget).resolve_left hsch
    have hpre : sch ++ [0x3A] <+: raw := by
      refine List.IsPrefix.trans ?_ (List.takeWhile_prefix fun c => decide (c ≠ 0x23))
      rw [show raw.takeWhile (fun c => decide (c ≠ 0x23)) = sch ++ 0x3A :: rest from hcut]
      exact ⟨rest, by simp⟩
    simpa [show asciiLower 0x3A = 0x3A from by decide] using hpre.map asciiLower
  · rintro ⟨y, hy⟩
    obtain ⟨a, b, rfl, ha, -⟩ := List.map_eq_append_iff.mp hy.symm
    obtain ⟨x, c, rfl, rfl, hc⟩ := List.map_eq_append_iff.mp ha
    obtain ⟨d, rfl⟩ := List.length_eq_one_iff.mp (by simpa using congrArg List.length hc)
    obtain rfl := eq_colon_of_asciiLower (List.cons.inj hc).1
    have hx : ∀ c ∈ x, isLetter c = true := fun c hc =>
      isLetter_of_asciiLower (hw _ (List.mem_map_of_mem hc))
    have hxne : x ≠ [] := fun hnil => hne (by rw [hnil]; rfl)
    have hnohash : ∀ c ∈ x ++ [0x3A], decide (c ≠ 0x23) = true := by
      intro c hc
      rcases List.mem_append.mp hc with hc | hc
      · refine decide_eq_true ?_
        rintro rfl
        exact absurd (hx _ hc) (by decide)
      · rw [List.mem_singleton.mp hc]
        decide
    have hcut : (cutAt 0x23 (x ++ [0x3A] ++ b)).1 = x ++ 0x3A :: b.takeWhile (fun c => decide (c ≠ 0x23)) := by
      unfold cutAt
      dsimp only
      rw [List.takeWhile_append_of_pos hnohash]
      simp
    rw [hcut, getScheme, getSchemeFrom_letters hx (by simpa using hxne)] at hget
    cases hget
    rfl

end Scheme

end Lib.NetUrl
