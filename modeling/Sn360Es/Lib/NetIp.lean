import Mathlib.Algebra.Order.Ring.Nat
import Sn360Es.Lib.GoStrings

/-!
# Addresses of Go (`net/netip`, `net.SplitHostPort`)

An address is a number of 32 bits, or one of 128 bits with a zone. `parseAddr` reads and `Addr.string` writes its
usual text; a prefix contains the addresses of its own kind that start with its bits.
-/

namespace Lib.NetIp

open GoStrings

/-! ### Addresses -/

/-- `netip.Addr`; an address of version 6 without a zone has the empty one. -/
inductive Addr where
  | v4 (n : BitVec 32)
  | v6 (n : BitVec 128) (zone : String)
  deriving DecidableEq, Repr

namespace Addr

/-- The number of a list of bytes, the first of them on top. -/
def ofBytes (bytes : List ℕ) : ℕ := bytes.foldl (fun n b => n * 256 + b) 0

/-- `Is4In6`: an address of `::ffff:0:0/96`. -/
def is4In6 : Addr → Bool
  | v4 _ => false
  | v6 n _ => n.toNat / 2 ^ 32 = 0xffff

/-- `Unmap`. -/
def unmap : Addr → Addr
  | v4 n => v4 n
  | v6 n zone => if (v6 n zone).is4In6 then v4 (n.truncate 32) else v6 n zone

/-! ### Reading -/

/-- The fields of an IPv4 address: four decimal numbers of one byte, without leading zeros. -/
def parseIPv4Fields (s : List Char) : Option (List ℕ) :=
  let fields := s.splitOn '.'
  if fields.length ≠ 4 then none
  else
    fields.mapM fun field =>
      match digits field with
      | none => none
      | some n => if n ≤ 255 ∧ (field.length = 1 ∨ field.head? ≠ some '0') then some n else none

def hexValue (c : Char) : Option ℕ :=
  if '0' ≤ c ∧ c ≤ '9' then some (c.toNat - '0'.toNat)
  else if 'a' ≤ c ∧ c ≤ 'f' then some (c.toNat - 'a'.toNat + 10)
  else if 'A' ≤ c ∧ c ≤ 'F' then some (c.toNat - 'A'.toNat + 10)
  else none

/-- The loop of `parseIPv6`: the bytes so far, and the position of the ellipsis among them. The number is that of the
groups that still fit. -/
def parseIPv6Loop : ℕ → List Char → List ℕ → Option ℕ → Option (List ℕ × Option ℕ)
  | 0, s, ip, ellipsis => if s = [] then some (ip, ellipsis) else none
  | groups + 1, s, ip, ellipsis =>
    let hex := s.takeWhile fun c => (hexValue c).isSome
    if hex = [] ∨ 4 < hex.length then none
    else
      let acc := hex.foldl (fun n c => n * 16 + (hexValue c).getD 0) 0
      let ip' := ip ++ [acc / 256, acc % 256]
      match s.drop hex.length with
      | [] => some (ip', ellipsis)
      | '.' :: _ =>
        if ellipsis = none ∧ ip.length ≠ 12 ∨ 16 < ip.length + 4 then none
        else (parseIPv4Fields s).map fun fields => (ip ++ fields, ellipsis)
      | [':'] => none
      | ':' :: ':' :: rest =>
        if ellipsis ≠ none then none
        else if rest = [] then some (ip', some ip'.length)
        else parseIPv6Loop groups rest ip' (some ip'.length)
      | ':' :: rest => parseIPv6Loop groups rest ip' ellipsis
      | _ => none

/-- The bytes of an IPv6 address, its ellipsis filled with zeros. -/
def expand (ip : List ℕ) : Option ℕ → Option (List ℕ)
  | none => if ip.length = 16 then some ip else none
  | some e => if ip.length < 16 then some (ip.take e ++ List.replicate (16 - ip.length) 0 ++ ip.drop e) else none

/-- `parseIPv6`. -/
def parseIPv6 (s : List Char) : Option Addr :=
  let (text, zone) : List Char × Option (List Char) :=
    if '%' ∈ s then (s.takeWhile (· ≠ '%'), some ((s.dropWhile (· ≠ '%')).drop 1)) else (s, none)
  if zone = some [] then none
  else
    let parsed :=
      match text with
      | ':' :: ':' :: [] => some (List.replicate 16 0)
      | ':' :: ':' :: rest => (parseIPv6Loop 8 rest [] (some 0)).bind fun x => expand x.1 x.2
      | _ => (parseIPv6Loop 8 text [] none).bind fun x => expand x.1 x.2
    parsed.map fun bytes => v6 (BitVec.ofNat 128 (ofBytes bytes)) (String.ofList (zone.getD []))

/-- `ParseAddr`: the first dot or colon decides. -/
def parse (s : String) : Option Addr :=
  match s.toList.find? fun c => c = '.' || c = ':' || c = '%' with
  | some '.' => (parseIPv4Fields s.toList).map fun bytes => v4 (BitVec.ofNat 32 (ofBytes bytes))
  | some ':' => parseIPv6 s.toList
  | _ => none

/-! ### Writing -/

/-- The text of an IPv4 address. -/
def string4 (n : ℕ) : String :=
  ".".intercalate ([n / 2 ^ 24, n / 2 ^ 16 % 256, n / 2 ^ 8 % 256, n % 256].map toString)

/-- The groups of an IPv6 address. -/
def groups (n : ℕ) : List ℕ := (List.range 8).map fun i => n / 2 ^ (112 - 16 * i) % 2 ^ 16

/-- The longest run of two or more zeros, the first of them if there are several: where it starts and ends. -/
def zeroRun (gs : List ℕ) : Option (ℕ × ℕ) :=
  (List.range 8).foldl (fun best i =>
    let l := ((gs.drop i).takeWhile (· = 0)).length
    if 2 ≤ l ∧ (best.elim 0 fun b => b.2 - b.1) < l then some (i, i + l) else best) none

def hexText (gs : List ℕ) : String := ":".intercalate (gs.map fun g => String.ofList (Nat.toDigits 16 g))

def zoneText (zone : String) : String := if zone = "" then "" else "%" ++ zone

/-- `String`. -/
def string : Addr → String
  | v4 n => string4 n.toNat
  | v6 n zone =>
    if (v6 n zone).is4In6 then "::ffff:" ++ string4 (n.toNat % 2 ^ 32) ++ zoneText zone
    else
      let gs := groups n.toNat
      (match zeroRun gs with
        | none => hexText gs
        | some (i, j) => hexText (gs.take i) ++ "::" ++ hexText (gs.drop j)) ++ zoneText zone

example : (parse "10.1.2.3").map string = some "10.1.2.3" ∧ parse "10.1.2.03" = none ∧ parse "10.1.2" = none ∧
    (parse "2001:DB8::0:1").map string = some "2001:db8::1" ∧ (parse "::ffff:10.0.0.1").map string =
      some "::ffff:10.0.0.1" ∧ (parse "fe80::1%eth0").map string = some "fe80::1%eth0" ∧
    parse "1:2:3:4:5:6:7:8::" = none ∧ (parse "::").map string = some "::" ∧ parse "1::2::3" = none := by
  decide +kernel

end Addr

/-! ### Prefixes -/

/-- `netip.Prefix`; one that is not valid has no bits at all. -/
structure Prefix where
  ip : Addr
  bitsPlusOne : ℕ
  deriving DecidableEq, Repr

namespace Prefix

def bits (p : Prefix) : ℕ := p.bitsPlusOne - 1

/-- `IsValid`. -/
def isValid (p : Prefix) : Bool := 0 < p.bitsPlusOne

/-- `Contains`. -/
def contains (p : Prefix) (a : Addr) : Bool :=
  p.isValid &&
    match p.ip, a with
    | .v4 m, .v4 n => n.toNat / 2 ^ (32 - p.bits) = m.toNat / 2 ^ (32 - p.bits)
    | .v6 m _, .v6 n zone => zone = "" && n.toNat / 2 ^ (128 - p.bits) = m.toNat / 2 ^ (128 - p.bits)
    | _, _ => false

end Prefix

/-! ### Hosts and ports -/

/-- `net.SplitHostPort`. -/
def splitHostPort (hostport : String) : Option (String × String) :=
  let s := hostport.toList
  if ':' ∉ s then none
  else
    -- the port starts after the last colon
    let port := (s.reverse.takeWhile (· ≠ ':')).reverse
    let before := s.take (s.length - port.length - 1)
    match s with
    | '[' :: rest =>
      let host := rest.takeWhile (· ≠ ']')
      -- the first closing bracket stands right before the last colon
      if ']' ∉ rest ∨ before.length ≠ host.length + 2 then none
      else if '[' ∈ rest ∨ ']' ∈ port then none
      else some (String.ofList host, String.ofList port)
    | _ =>
      if ':' ∈ before ∨ '[' ∈ s ∨ ']' ∈ s then none else some (String.ofList before, String.ofList port)

example : splitHostPort "10.0.0.1:443" = some ("10.0.0.1", "443") ∧
    splitHostPort "[::1]:443" = some ("::1", "443") ∧ splitHostPort "::1:443" = none ∧
    splitHostPort "10.0.0.1" = none ∧ splitHostPort "[::1]" = none := by decide +kernel

end Lib.NetIp
