import Sn360Es.Ingestion.Normalizer

/-!
# Gmail messages (`pkg/email_provider/gmail/mailbox_provider.go`)

`toRawEmail` flattens a message into the map of headers and the two bodies that the normaliser reads. The
authentication results of the request come from one of its `Authentication-Results` headers.

* `headerLookup_canWin`, `canWin_headerLookup` — which of several headers of a name the normaliser reads;
* `authResults_provider_iff` — when that one agrees with the first, which the receiving provider has added.

Base64 is a parameter.
-/

namespace Sn360Es.Ingestion

open Lib Lib.GoStrings

/-! ### Messages -/

/-- `gmailMessagePayload`: a part of a message and the parts below it. -/
inductive GmailPayload where
  | mk (mimeType : String) (headers : List (String × String)) (data : String) (parts : List GmailPayload)

def GmailPayload.headers : GmailPayload → List (String × String)
  | mk _ headers _ _ => headers

structure GmailMessage where
  id : String
  internalDate : String := ""
  payload : GmailPayload

/-- What the provider uses of the standard library; a decoder gives the decoded text. -/
structure GmailMailboxProvider where
  toLower : String → String
  urlEncoding : String → Option String
  stdEncoding : String → Option String

/-- `splitAddresses`. -/
def splitAddresses (value : String) : List String :=
  if value = "" then [] else ((split value ',').map trimSpace).filter (· ≠ "")

/-- `addBase64Padding`. -/
def addBase64Padding (s : String) : String :=
  if s.utf8ByteSize % 4 = 0 then s else s ++ String.ofList (List.replicate (4 - s.utf8ByteSize % 4) '=')

namespace GmailMailboxProvider

variable (p : GmailMailboxProvider)

/-- `decodeURLSafeBase64`. -/
def decodeURLSafeBase64 (data : String) : String :=
  match p.urlEncoding (addBase64Padding data) with
  | some text => text
  | none => (p.stdEncoding (addBase64Padding data)).getD ""

mutual

/-- The walk of `extractBodies`, on the two bodies found so far. -/
def walkPart (bodies : String × String) : GmailPayload → String × String
  | .mk mimeType _ data parts =>
    let mt := p.toLower mimeType
    let bodies :=
      if mt = "text/plain" ∧ data ≠ "" ∧ bodies.1 = "" then (p.decodeURLSafeBase64 data, bodies.2)
      else if mt = "text/html" ∧ data ≠ "" ∧ bodies.2 = "" then (bodies.1, p.decodeURLSafeBase64 data)
      else bodies
    walkParts bodies parts

def walkParts (bodies : String × String) : List GmailPayload → String × String
  | [] => bodies
  | part :: parts => walkParts (walkPart bodies part) parts

end

/-- `extractBodies`: the first text and the first HTML body. -/
def extractBodies (payload : GmailPayload) : String × String := p.walkPart ("", "") payload

/-- One round of the loop over the headers. -/
def applyHeader (raw : RawEmail) (h : String × String) : RawEmail :=
  let name := p.toLower h.1
  let raw :=
    if name = "from" then { raw with sender := h.2 }
    else if name = "to" then { raw with recipients := splitAddresses h.2 }
    else if name = "cc" then { raw with cc := splitAddresses h.2 }
    else if name = "subject" then { raw with subject := h.2 }
    else raw
  { raw with headers := raw.headers.set h.1 h.2 }

/-- `toRawEmail`. -/
def toRawEmail (mailbox : Mailbox) (msg : GmailMessage) : RawEmail :=
  let raw : RawEmail := { providerMessageID := msg.id, tenantID := mailbox.tenantID, mailbox := mailbox.address }
  let raw := msg.payload.headers.foldl p.applyHeader raw
  let bodies := p.extractBodies msg.payload
  { raw with
    body := bodies.1
    htmlBody := bodies.2
    receivedAt :=
      match GoTime.parseInt64 msg.internalDate with
      | some ms => GoTime.ofUnixNano (GoTime.int64 (ms * GoTime.millisecond))
      | none => 0 }

lemma foldl_applyHeader_headers (hs : List (String × String)) (raw : RawEmail) :
    (hs.foldl p.applyHeader raw).headers = hs.foldl (fun m h => m.set h.1 h.2) raw.headers := by
  induction hs generalizing raw with
  | nil => rfl
  | cons h hs ih =>
    rw [List.foldl_cons, List.foldl_cons, ih]
    congr 1
    unfold applyHeader
    dsimp only
    split_ifs <;> rfl

lemma foldl_applyHeader_id (hs : List (String × String)) (raw : RawEmail) :
    (hs.foldl p.applyHeader raw).providerMessageID = raw.providerMessageID := by
  induction hs generalizing raw with
  | nil => rfl
  | cons h hs ih =>
    rw [List.foldl_cons, ih]
    unfold applyHeader
    dsimp only
    split_ifs <;> rfl

lemma toRawEmail_headers (mailbox : Mailbox) (msg : GmailMessage) :
    (p.toRawEmail mailbox msg).headers = HeaderMap.ofList msg.payload.headers :=
  p.foldl_applyHeader_headers _ _

lemma toRawEmail_id (mailbox : Mailbox) (msg : GmailMessage) :
    (p.toRawEmail mailbox msg).providerMessageID = msg.id := p.foldl_applyHeader_id _ _

end GmailMailboxProvider

/-! ### Which header is read -/

section Lookup

variable (n : DefaultNormalizer)

/-- A header that a look-up of `key` can return: the last one of its name, and of the exact name if there is one
of it. -/
structure CanWin (key : String) (hs : List (String × String)) (h : String × String) : Prop where
  name : n.toLower h.1 = n.toLower key
  last : lastWith Prod.fst h.1 hs = some h
  exact : key ∈ hs.map Prod.fst → h.1 = key

variable {n} {key : String} {hs : List (String × String)}

lemma ofList_isSome {name : String} : (HeaderMap.ofList hs name).isSome ↔ name ∈ hs.map Prod.fst := by
  rw [HeaderMap.ofList_apply, Option.isSome_map]
  constructor
  · intro h
    obtain ⟨x, hx⟩ := Option.isSome_iff_exists.mp h
    obtain ⟨hmem, rfl⟩ := lastWith_mem hx
    exact List.mem_map_of_mem hmem
  · intro h
    obtain ⟨x, hx, rfl⟩ := List.mem_map.mp h
    obtain ⟨l, hl⟩ := lastWith_isSome Prod.fst hx
    rw [hl]
    rfl

lemma ofList_eq_some {name value : String} (h : HeaderMap.ofList hs name = some value) :
    lastWith Prod.fst name hs = some (name, value) := by
  rw [HeaderMap.ofList_apply, Option.map_eq_some_iff] at h
  obtain ⟨x, hx, rfl⟩ := h
  obtain ⟨-, rfl⟩ := lastWith_mem hx
  exact hx

/-- What a look-up returns is the value of a header that can win. -/
lemma headerLookup_canWin {walk : Walk} (hw : walk.Covers (HeaderMap.ofList hs)) {h₀ : String × String}
    (h₀mem : h₀ ∈ hs) (h₀name : n.toLower h₀.1 = n.toLower key) :
    ∃ h, CanWin n key hs h ∧ n.headerLookup walk (HeaderMap.ofList hs) key = h.2 := by
  unfold DefaultNormalizer.headerLookup
  cases hexact : HeaderMap.ofList hs key with
  | some v => exact ⟨(key, v), ⟨rfl, ofList_eq_some hexact, fun _ => rfl⟩, rfl⟩
  | none =>
    have habsent : key ∉ hs.map Prod.fst := by
      rw [← ofList_isSome, hexact]
      simp
    have hfound : ((walk key).find? fun k => n.toLower k = n.toLower key).isSome := by
      rw [List.find?_isSome]
      exact ⟨h₀.1, (hw key h₀.1).mpr (ofList_isSome.mpr (List.mem_map_of_mem h₀mem)), by simpa using h₀name⟩
    obtain ⟨k, hk⟩ := Option.isSome_iff_exists.mp hfound
    obtain ⟨v, hv⟩ := Option.isSome_iff_exists.mp ((hw key k).mp (List.mem_of_find?_eq_some hk))
    have hname : n.toLower k = n.toLower key := by simpa using List.find?_some hk
    refine ⟨(k, v), ⟨hname, ofList_eq_some hv, fun h => absurd h habsent⟩, ?_⟩
    simp [hk, hv]

/-- Every header that can win does, under some walk. -/
lemma canWin_headerLookup {h : String × String} (hc : CanWin n key hs h) :
    ∃ walk : Walk, walk.Covers (HeaderMap.ofList hs) ∧ n.headerLookup walk (HeaderMap.ofList hs) key = h.2 := by
  have hval : HeaderMap.ofList hs h.1 = some h.2 := by rw [HeaderMap.ofList_apply, hc.last]; rfl
  refine ⟨fun _ => h.1 :: hs.map Prod.fst, ?_, ?_⟩
  · intro _ name
    rw [ofList_isSome, List.mem_cons]
    constructor
    · rintro (rfl | hmem)
      · exact ofList_isSome.mp (by rw [hval]; rfl)
      · exact hmem
    · exact .inr
  · unfold DefaultNormalizer.headerLookup
    by_cases hmem : key ∈ hs.map Prod.fst
    · rw [← hc.exact hmem, hval]
    · have hnone : HeaderMap.ofList hs key = none := by
        rw [← Option.not_isSome_iff_eq_none, ofList_isSome]
        exact hmem
      rw [hnone, List.find?_cons_of_pos (by simpa using hc.name)]
      simp [hval]

end Lookup

/-! ### The results of a request -/

/-- The three results of a request. -/
def authResults (s : RiskSignals) : String × String × String := (s.spfResult, s.dkimResult, s.dmarcResult)

/-- The three results that a header value gives. -/
def DefaultNormalizer.verdicts (n : DefaultNormalizer) (value : String) : String × String × String :=
  (n.extractAuthResult value "spf", n.extractAuthResult value "dkim", n.extractAuthResult value "dmarc")

section Results

variable (n : DefaultNormalizer) (p : GmailMailboxProvider)

lemma authResults_buildSignals (walk : Walk) (raw : RawEmail) : authResults (n.buildSignals walk raw) =
    n.verdicts (n.headerLookup walk raw.headers "Authentication-Results") := by
  unfold authResults DefaultNormalizer.verdicts DefaultNormalizer.buildSignals
  dsimp only
  split_ifs with h
  · rw [h]
    rfl
  · rfl

/-- The results of the request are those of the header that the provider has added, whatever the order in which
maps are walked. -/
def ResultsOf (mailbox : Mailbox) (msg : GmailMessage) (provider : String × String) : Prop :=
  ∀ walk : Walk, walk.Covers (p.toRawEmail mailbox msg).headers →
    ∃ req, n.normalize walk (p.toRawEmail mailbox msg) = .ok req ∧
      authResults req.signals = n.verdicts provider.2

/-- **Forged results.** Let the provider's header come first among those named `Authentication-Results`, whatever
follows. The request has its results exactly when every header that can win the look-up has the same. -/
theorem authResults_provider_iff (mailbox : Mailbox) (msg : GmailMessage) (hid : msg.id ≠ "")
    (received sent : List (String × String)) (hheaders : msg.payload.headers = received ++ sent)
    (provider : String × String)
    (hfirst : received.find? (fun h => n.toLower h.1 = n.toLower "Authentication-Results") = some provider) :
    ResultsOf n p mailbox msg provider ↔
      ∀ h, CanWin n "Authentication-Results" (received ++ sent) h → n.verdicts h.2 = n.verdicts provider.2 := by
  have hmem : provider ∈ received ++ sent := List.mem_append_left _ (List.mem_of_find?_eq_some hfirst)
  have hname : n.toLower provider.1 = n.toLower "Authentication-Results" := by
    simpa using List.find?_some hfirst
  have hmap : (p.toRawEmail mailbox msg).headers = HeaderMap.ofList (received ++ sent) := by
    rw [p.toRawEmail_headers, hheaders]
  have hreq : ∀ walk, ∃ req, n.normalize walk (p.toRawEmail mailbox msg) = .ok req ∧
      authResults req.signals = n.verdicts (n.headerLookup walk (HeaderMap.ofList (received ++ sent))
        "Authentication-Results") := by
    intro walk
    have hne : (p.toRawEmail mailbox msg).providerMessageID ≠ "" := by rwa [p.toRawEmail_id]
    unfold DefaultNormalizer.normalize
    rw [if_neg hne]
    refine ⟨_, rfl, ?_⟩
    dsimp only
    rw [authResults_buildSignals, hmap]
  unfold ResultsOf
  rw [hmap]
  constructor
  · intro h w hw
    obtain ⟨walk, hcovers, hwins⟩ := canWin_headerLookup hw
    obtain ⟨req, hok, hres⟩ := h walk hcovers
    obtain ⟨req', hok', hres'⟩ := hreq walk
    obtain rfl := Except.ok.inj (hok.symm.trans hok')
    rw [← hres, hres', hwins]
  · intro h walk hcovers
    obtain ⟨w, hw, hwins⟩ := headerLookup_canWin hcovers hmem hname
    obtain ⟨req, hok, hres⟩ := hreq walk
    exact ⟨req, hok, by rw [hres, hwins, h w hw]⟩

end Results

section Samples

/-- A provider whose messages have no bodies. -/
def bodilessGmail : GmailMailboxProvider :=
  { toLower := asciiNormalizer.toLower, urlEncoding := fun _ => none, stdEncoding := fun _ => none }

def googleHeader : String × String :=
  ("Authentication-Results", "mx.google.com; spf=fail dkim=none dmarc=fail")

def forgedHeader : String × String :=
  ("Authentication-Results", "mx.google.com; spf=pass dkim=pass dmarc=pass")

/-- A message with the header of the provider and what the sender has added. -/
def authMessage (sent : List (String × String)) : GmailMessage :=
  { id := "m-1", payload := .mk "text/plain" ([googleHeader] ++ sent) "" [] }

theorem authResults_subject_only : ResultsOf asciiNormalizer bodilessGmail ⟨"t", "u@a.b", ""⟩
    (authMessage [("Subject", "spf=pass")]) googleHeader := by
  refine (authResults_provider_iff asciiNormalizer bodilessGmail _ _ (by decide) [googleHeader]
    [("Subject", "spf=pass")] rfl _ (by decide)).mpr ?_
  intro h hw
  have hlast := hw.last
  rw [hw.exact (by decide)] at hlast
  have heq : some googleHeader = some h := by
    rw [← hlast]
    decide
  rw [← Option.some.inj heq]

/-- A second header of the same name replaces the first. -/
theorem authResults_forged : ¬ ResultsOf asciiNormalizer bodilessGmail ⟨"t", "u@a.b", ""⟩
    (authMessage [forgedHeader]) googleHeader := by
  intro h
  have hcovers : Walk.Covers (fun _ => ["Authentication-Results"])
      (bodilessGmail.toRawEmail ⟨"t", "u@a.b", ""⟩ (authMessage [forgedHeader])).headers := by
    intro _ name
    rw [GmailMailboxProvider.toRawEmail_headers, ofList_isSome]
    simp [authMessage, GmailPayload.headers, googleHeader, forgedHeader]
  obtain ⟨req, hok, hres⟩ := h _ hcovers
  obtain rfl := Except.ok.inj hok
  revert hres
  decide

end Samples

end Sn360Es.Ingestion
