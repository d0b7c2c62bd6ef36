import Sn360Es.Lib.NetIp

/-!
# The key of a client (`internal/middleware/rate_limit.go`)

`ProxyAwareClientIP` buckets a request by its peer, or, if that is a trusted proxy, by an entry of `X-Forwarded-For`.
The entries are read from the right; those of trusted proxies are passed over, and so are blank ones and those that
are no addresses.

* `walkForwarded_cons` — an entry decides, or is passed over;
* `walkForwarded_reverse` — the rightmost entry that is an origin decides;
* `client_key_determined` — the key is that of the rightmost address that is not trusted, whatever stands to its left.
-/

namespace Sn360Es.Middleware

open Lib Lib.NetIp Lib.GoStrings

/-- What is read of a request: the peer, and the values of `X-Forwarded-For`. -/
structure ForwardedRequest where
  remoteAddr : String
  xForwardedFor : List String := []
  deriving DecidableEq, Repr

/-- `remoteAddrHost`, and `DefaultClientIP`. -/
def remoteAddrHost (r : ForwardedRequest) : String :=
  match splitHostPort r.remoteAddr with
  | none => r.remoteAddr
  | some (host, _) => host

/-- `isTrustedProxy`. -/
def isTrustedProxy (addr : Addr) (prefixes : List Prefix) : Bool := prefixes.any (·.contains addr.unmap)

/-- The loop over the entries, from the right: the text of the first address that is not trusted. -/
def walkForwarded (prefixes : List Prefix) : List String → Option String
  | [] => none
  | part :: rest =>
    let candidate := trimSpace part
    if candidate = "" then walkForwarded prefixes rest
    else
      match Addr.parse candidate with
      | none => walkForwarded prefixes rest
      | some addr => if isTrustedProxy addr prefixes then walkForwarded prefixes rest else some addr.string

/-- `r.Header.Get("X-Forwarded-For")`: the first value. -/
def ForwardedRequest.xff (r : ForwardedRequest) : String := r.xForwardedFor.head?.getD ""

/-- The entries of the list. -/
def ForwardedRequest.entries (r : ForwardedRequest) : List String := split r.xff ','

/-- `ProxyAwareClientIP`. -/
def proxyAwareClientIP (trustedProxies : List Prefix) (r : ForwardedRequest) : String :=
  if trustedProxies = [] then remoteAddrHost r
  else
    let host := remoteAddrHost r
    match Addr.parse host with
    | none => host
    | some peer =>
      if isTrustedProxy peer trustedProxies then
        if r.xff = "" then host else (walkForwarded trustedProxies r.entries.reverse).getD host
      else host

/-! ### Entries -/

/-- The address of an entry that is not trusted, if it is one. -/
def originOf (prefixes : List Prefix) (part : String) : Option Addr :=
  (Addr.parse (trimSpace part)).filter fun addr => !isTrustedProxy addr prefixes

section Walk

variable {prefixes : List Prefix}

/-- **One entry** decides, or is passed over. -/
lemma walkForwarded_cons (part : String) (rest : List String) : walkForwarded prefixes (part :: rest) =
    ((originOf prefixes part).map Addr.string).or (walkForwarded prefixes rest) := by
  rw [walkForwarded, originOf]
  split_ifs with hblank
  · have hparse : Addr.parse "" = none := by decide
    rw [hblank, hparse]
    rfl
  · cases Addr.parse (trimSpace part) with
    | none => rfl
    | some addr => cases htrusted : isTrustedProxy addr prefixes <;> simp [htrusted, Option.filter]

/-- Entries that are passed over. -/
lemma walkForwarded_append {passed : List String} (h : ∀ part ∈ passed, originOf prefixes part = none)
    (rest : List String) : walkForwarded prefixes (passed ++ rest) = walkForwarded prefixes rest := by
  induction passed with
  | nil => rfl
  | cons part passed ih =>
    obtain ⟨hpart, hpassed⟩ := List.forall_mem_cons.mp h
    rw [List.cons_append, walkForwarded_cons, hpart, ih hpassed]
    rfl

/-- **The rightmost origin decides.** -/
lemma walkForwarded_reverse {left right : List String} {part : String} {addr : Addr}
    (hpart : originOf prefixes part = some addr) (hright : ∀ x ∈ right, originOf prefixes x = none) :
    walkForwarded prefixes (left ++ part :: right).reverse = some addr.string := by
  have hpassed : ∀ x ∈ right.reverse, originOf prefixes x = none := by
    intro x hx
    exact hright x (List.mem_reverse.mp hx)
  rw [List.reverse_append, List.reverse_cons, List.append_assoc, walkForwarded_append hpassed]
  rw [List.singleton_append, walkForwarded_cons, hpart]
  rfl

end Walk

/-- The key of a request from a trusted peer. -/
lemma proxyAwareClientIP_of_trusted {prefixes : List Prefix} (hne : prefixes ≠ []) {r : ForwardedRequest} {peer : Addr}
    (hpeer : Addr.parse (remoteAddrHost r) = some peer) (htrusted : isTrustedProxy peer prefixes = true) :
    proxyAwareClientIP prefixes r = (walkForwarded prefixes r.entries.reverse).getD (remoteAddrHost r) := by
  unfold proxyAwareClientIP
  rw [if_neg hne]
  dsimp only
  rw [hpeer]
  dsimp only
  rw [if_pos htrusted]
  split_ifs with hempty
  · -- an empty header has one entry, which is blank
    have hwalk : walkForwarded prefixes (split "" ',').reverse = none := by
      have hsplit : (split "" ',').reverse = [""] := by decide
      have hparse : originOf prefixes "" = none := by
        have hnone : Addr.parse (trimSpace "") = none := by decide
        rw [originOf, hnone]
        rfl
      rw [hsplit, walkForwarded_cons, hparse]
      rfl
    rw [ForwardedRequest.entries, hempty, hwalk]
    rfl
  · rfl

/-- **The key of a client** behind a trusted peer is determined by the part of the list from its rightmost address that
is not trusted to the end; without such an address it is the peer. -/
theorem client_key_determined (prefixes : List Prefix) (r r' : ForwardedRequest) (hne : prefixes ≠ []) {peer : Addr}
    (hpeer : Addr.parse (remoteAddrHost r) = some peer) (htrusted : isTrustedProxy peer prefixes = true)
    (hsame : r'.remoteAddr = r.remoteAddr) {right : List String} (hright : ∀ x ∈ right, originOf prefixes x = none) :
    (r.entries = right → proxyAwareClientIP prefixes r = remoteAddrHost r) ∧
    ∀ left left' part addr, originOf prefixes part = some addr → r.entries = left ++ part :: right →
      r'.entries = left' ++ part :: right →
      proxyAwareClientIP prefixes r = addr.string ∧ proxyAwareClientIP prefixes r' = addr.string := by
  have hhost : remoteAddrHost r' = remoteAddrHost r := by
    unfold remoteAddrHost
    rw [hsame]
  refine ⟨fun hentries => ?_, fun left left' part addr hpart hentries hentries' => ?_⟩
  · have hpassed : ∀ x ∈ right.reverse, originOf prefixes x = none := by
      intro x hx
      exact hright x (List.mem_reverse.mp hx)
    have hwalk := walkForwarded_append hpassed []
    rw [List.append_nil] at hwalk
    rw [proxyAwareClientIP_of_trusted hne hpeer htrusted, hentries, hwalk]
    rfl
  · constructor
    · rw [proxyAwareClientIP_of_trusted hne hpeer htrusted, hentries, walkForwarded_reverse hpart hright]
      rfl
    · rw [proxyAwareClientIP_of_trusted hne (hhost ▸ hpeer) htrusted, hentries', walkForwarded_reverse hpart hright]
      rfl

section Samples

/-- `10.0.0.0/8`. -/
def loadBalancers : List Prefix := [⟨.v4 0x0a000000, 9⟩]

/-- Two requests through a load balancer, which differ in what their client has sent. -/
theorem client_key_spoofed_entry :
    proxyAwareClientIP loadBalancers ⟨"10.0.0.1:4711", ["198.51.100.1, 203.0.113.5, 10.0.0.2"]⟩ = "203.0.113.5" ∧
    proxyAwareClientIP loadBalancers ⟨"10.0.0.1:4711", ["198.51.100.2, 203.0.113.5, 10.0.0.2"]⟩ = "203.0.113.5" := by
  have hpeer : Addr.parse (remoteAddrHost ⟨"10.0.0.1:4711", ["198.51.100.1, 203.0.113.5, 10.0.0.2"]⟩) =
      some (.v4 0x0a000001) := by decide +kernel
  have hright : ∀ x ∈ [" 10.0.0.2"], originOf loadBalancers x = none := by decide +kernel
  have h := client_key_determined loadBalancers _ ⟨"10.0.0.1:4711", ["198.51.100.2, 203.0.113.5, 10.0.0.2"]⟩
    (by decide) hpeer (by decide +kernel) rfl hright
  exact h.2 ["198.51.100.1"] ["198.51.100.2"] " 203.0.113.5" (.v4 0xcb007105) (by decide +kernel) (by decide +kernel)
    (by decide +kernel)

/-- The rightmost entry is no trusted address in both requests, and the client chooses its key to the left of it. -/
theorem client_key_chosen :
    let r : ForwardedRequest := ⟨"10.0.0.1:4711", ["198.51.100.1, unknown"]⟩
    let r' : ForwardedRequest := ⟨"10.0.0.1:4711", ["198.51.100.2, unknown"]⟩
    r.entries = ["198.51.100.1"] ++ [" unknown"] ∧ r'.entries = ["198.51.100.2"] ++ [" unknown"] ∧
    Addr.parse (trimSpace " unknown") = none ∧
    (Addr.parse (remoteAddrHost r)).map (fun peer => isTrustedProxy peer loadBalancers) = some true ∧
    proxyAwareClientIP loadBalancers r = "198.51.100.1" ∧ proxyAwareClientIP loadBalancers r' = "198.51.100.2" := by
  decide +kernel

end Samples

end Sn360Es.Middleware
