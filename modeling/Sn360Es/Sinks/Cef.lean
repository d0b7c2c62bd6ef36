import Mathlib.Data.List.Sort
import Mathlib.Data.String.Basic
import Sn360Es.Sinks.Event

/-!
# Events in the Common Event Format (`pkg/sinks/webhook/format_cef.go`)

The file gives the shape of a record as `CEF:0|Vendor|Product|Version|SignatureID|Name|Severity|Extensions`, and the
escapes of both parts. `formatCEF` writes a space where this shape has the last pipe.

* `parseCEF` — a reader of the documented shape; `parseCEF_render`: it reads back whatever is written in that shape;
* `cutField_escape`, `pairsOf_render` — the two escapes are undone, for every text;
* `cef_severity_unseparated` — no event that `formatCEF` writes is read back.
-/

namespace Sn360Es.Sinks

open Lib Lib.GoStrings

/-! ### The format -/

def cefVendor : String := "SN360"

def cefProduct : String := "EmailSecurity"

def cefVersion : String := "1.0"

def cefSigPrefix : String := "email-evaluation"

/-- `cefSeverityForTier`. -/
def cefSeverityForTier (tier : String) : ℕ :=
  match tierOf tier with
  | some .blocked => 10
  | some .highRisk => 8
  | some .warning => 6
  | some .caution => 4
  | some .informational => 2
  | some .trusted => 1
  | none => 0

def escapeHeaderChar (c : Char) : List Char :=
  if c = '\\' then ['\\', '\\'] else if c = '|' then ['\\', '|'] else if c = '\n' ∨ c = '\r' then [' '] else [c]

/-- `cefEscapeHeader`. -/
def cefEscapeHeader (s : List Char) : List Char := s.flatMap escapeHeaderChar

def escapeExtensionChar (c : Char) : List Char :=
  if c = '\\' then ['\\', '\\'] else if c = '=' then ['\\', '='] else if c = '\n' then ['\\', 'n']
  else if c = '\r' then ['\\', 'r'] else [c]

/-- `cefEscapeExtension`. -/
def cefEscapeExtension (s : List Char) : List Char := s.flatMap escapeExtensionChar

/-- `cefExt`. -/
structure CefExt where
  key : String
  value : String
  deriving DecidableEq, Repr

/-- `UnixMilli`. -/
def unixMilli (t : ℕ) : ℤ := ((t : ℤ) - 62135596800 * 10 ^ 9) / 10 ^ 6

/-- `oneLineMessage`. -/
def oneLineMessage (e : Event) (verdict : String) : String :=
  (if e.test then "sn360-es-test:" else "sn360-es:") ++ " verdict=" ++ verdict ++ " tier=" ++ e.tier ++ " score=" ++
    toString e.score ++ " tenant=" ++ e.tenantID ++ " msg=" ++ e.messageID

/-- The header fields of an event. -/
def cefHeader (lower : Char → Char) (e : Event) : List String :=
  let verdict := e.verdict lower
  ["CEF:0", cefVendor, cefProduct, cefVersion, cefSigPrefix ++ "." ++ verdict,
    "sn360-es email " ++ verdict ++ (if e.test then " (synthetic test)" else ""), toString (cefSeverityForTier e.tier)]

/-- The extensions of an event, before they are sorted. -/
def cefExtensions (lower : Char → Char) (e : Event) : List CefExt :=
  let verdict := e.verdict lower
  [⟨"externalId", e.eventID⟩, ⟨"msg", oneLineMessage e verdict⟩, ⟨"rt", toString (unixMilli e.occurredAt)⟩,
    ⟨"deviceFacility", "sn360-es"⟩, ⟨"act", cefSigPrefix⟩, ⟨"outcome", verdict⟩, ⟨"cn1Label", "score"⟩,
    ⟨"cn1", toString e.score⟩, ⟨"cs1Label", "tier"⟩, ⟨"cs1", e.tier⟩, ⟨"cs2Label", "primary_category"⟩,
    ⟨"cs2", e.primary⟩, ⟨"cs3Label", "tenant_id"⟩, ⟨"cs3", e.tenantID⟩, ⟨"cs4Label", "correlation_id"⟩,
    ⟨"cs4", e.correlationID⟩, ⟨"cs5Label", "reason_codes"⟩, ⟨"cs5", ",".intercalate e.reasonCodes⟩] ++
  (if e.secondary = [] then []
    else [⟨"cs6Label", "secondary_categories"⟩, ⟨"cs6", ",".intercalate e.secondary⟩]) ++
  (if e.senderHashHex = "" then [] else [⟨"suid", e.senderHashHex⟩]) ++
  (if e.recipientHashHex = "" then [] else [⟨"duid", e.recipientHashHex⟩]) ++
  (if e.finalVerdict = "" then []
    else [⟨"cfp1Label", "final_verdict_present"⟩, ⟨"cfp1", "1"⟩, ⟨"cs7Label", "final_verdict"⟩,
      ⟨"cs7", Event.toLower lower (trimSpace e.finalVerdict)⟩]) ++
  (if e.degraded then [⟨"flexString1Label", "degraded"⟩, ⟨"flexString1", "1"⟩] ++
      (if e.degradedServices = [] then []
        else [⟨"flexString2Label", "degraded_services"⟩, ⟨"flexString2", ",".intercalate e.degradedServices⟩])
    else []) ++
  (if e.test then [⟨"flexNumber1Label", "synthetic_test"⟩, ⟨"flexNumber1", "1"⟩] else [])

/-- The extensions that are written: sorted by their keys, without the empty ones. -/
def cefPairs (lower : Char → Char) (e : Event) : List CefExt :=
  ((cefExtensions lower e).insertionSort fun a b => a.key ≤ b.key).filter (·.value ≠ "")

/-- `key=value`. -/
def writePair (kv : CefExt) : List Char := kv.key.toList ++ '=' :: cefEscapeExtension kv.value.toList

/-- The header as it is joined; the first and the last field need no escapes. -/
def writeHeader (fields : List String) : List Char :=
  ['|'].intercalate (fields.map fun f => cefEscapeHeader f.toList)

/-- `formatCEF`. -/
def formatCEF (lower : Char → Char) (e : Event) : Except String (List Char) :=
  match e.validate with
  | .error err => .error err
  | .ok () => .ok (writeHeader (cefHeader lower e) ++ (cefPairs lower e).flatMap fun kv => ' ' :: writePair kv)

/-! ### The documented shape -/

/-- A header field, up to the next pipe that is not escaped, and what follows. The flag says that a backslash came
before. -/
def cutField : Bool → List Char → Option (List Char × List Char)
  | _, [] => none
  | true, c :: s =>
    (cutField false s).map fun x => ((if c = '|' ∨ c = '\\' then [c] else ['\\', c]) ++ x.1, x.2)
  | false, c :: s =>
    if c = '|' then some ([], s)
    else if c = '\\' then cutField true s
    else (cutField false s).map fun x => (c :: x.1, x.2)

/-- So many header fields, and what follows. -/
def cutFields : ℕ → List Char → Option (List String × List Char)
  | 0, s => some ([], s)
  | n + 1, s => (cutField false s).bind fun x => (cutFields n x.2).map fun y => (String.ofList x.1 :: y.1, y.2)

/-- The text between the equals signs that are not escaped. -/
def segments : Bool → List Char → List (List Char)
  | _, [] => [[]]
  | true, c :: s => (segments false s).modifyHead (c :: ·)
  | false, c :: s => if c = '=' then [] :: segments false s else (segments (c = '\\') s).modifyHead (c :: ·)

/-- The escapes of a value. -/
def unescapeExtension : Bool → List Char → List Char
  | false, [] => []
  | true, [] => ['\\']
  | true, c :: s => (if c = 'n' then '\n' else if c = 'r' then '\r' else c) :: unescapeExtension false s
  | false, c :: s => if c = '\\' then unescapeExtension true s else c :: unescapeExtension false s

/-- A segment between two equals signs: a value, a space, and the next key. -/
def splitKey (s : List Char) : Option (List Char × List Char) :=
  if ' ' ∈ s then
    let key := (s.reverse.takeWhile (· ≠ ' ')).reverse
    some (s.take (s.length - key.length - 1), key)
  else none

/-- The pairs of the segments after a key. -/
def pairsOf (key : List Char) : List (List Char) → Option (List CefExt)
  | [] => none
  | v :: ss =>
    if ss = [] then some [⟨String.ofList key, String.ofList (unescapeExtension false v)⟩]
    else (splitKey v).bind fun x => (pairsOf x.2 ss).map
      (⟨String.ofList key, String.ofList (unescapeExtension false x.1)⟩ :: ·)

def parseExtensions (s : List Char) : Option (List CefExt) :=
  if s = [] then some []
  else
    match segments false s with
    | key :: ss => pairsOf key ss
    | [] => none

/-- A record of the documented shape: the seven header fields and the pairs. -/
def parseCEF (s : List Char) : Option (List String × List CefExt) :=
  (cutFields 7 s).bind fun x => (parseExtensions x.2).map fun pairs => (x.1, pairs)

/-- A record written in the documented shape. -/
def renderCEF (fields : List String) (pairs : List CefExt) : List Char :=
  fields.flatMap (fun f => cefEscapeHeader f.toList ++ ['|']) ++ [' '].intercalate (pairs.map writePair)

/-! ### The header -/

/-- A header field cannot hold line ends: they become spaces. -/
def plain (s : List Char) : List Char := s.map fun c => if c = '\n' ∨ c = '\r' then ' ' else c

/-- **The escapes of the header are undone**, whatever follows the pipe. -/
lemma cutField_escape (s t : List Char) :
    cutField false (cefEscapeHeader s ++ '|' :: t) = some (plain s, t) := by
  induction s with
  | nil => rfl
  | cons c s ih =>
    rw [cefEscapeHeader, List.flatMap_cons, List.append_assoc, ← cefEscapeHeader, plain, List.map_cons, ← plain]
    by_cases hback : c = '\\'
    · subst hback
      simp [escapeHeaderChar, cutField, ih]
    · by_cases hpipe : c = '|'
      · subst hpipe
        simp [escapeHeaderChar, cutField, ih]
      · by_cases hline : c = '\n' ∨ c = '\r'
        · simp [escapeHeaderChar, cutField, ih, hback, hpipe, hline]
        · simp [escapeHeaderChar, cutField, ih, hback, hpipe, hline]

/-- Escaped fields are cut off one after the other. -/
lemma cutFields_escape (fields : List String) (n : ℕ) (t : List Char) :
    cutFields (fields.length + n) (fields.flatMap (fun f => cefEscapeHeader f.toList ++ ['|']) ++ t) =
      (cutFields n t).map fun x => ((fields.map fun f => String.ofList (plain f.toList)) ++ x.1, x.2) := by
  induction fields with
  | nil =>
    rw [List.length_nil, Nat.zero_add, List.flatMap_nil, List.nil_append]
    cases cutFields n t <;> rfl
  | cons f fields ih =>
    rw [List.flatMap_cons, List.append_assoc, List.append_assoc, List.singleton_append, List.length_cons,
      Nat.add_right_comm, cutFields, cutField_escape, Option.bind_some, ih, Option.map_map]
    rfl

/-- Text without pipes and backslashes goes to the field that is open. -/
lemma cutField_append {k : List Char} (hk : ∀ c ∈ k, c ≠ '|' ∧ c ≠ '\\') (t : List Char) :
    cutField false (k ++ t) = (cutField false t).map fun x => (k ++ x.1, x.2) := by
  induction k with
  | nil =>
    rw [List.nil_append]
    cases cutField false t <;> rfl
  | cons c k ih =>
    obtain ⟨hpipe, hback⟩ := hk c List.mem_cons_self
    have hrest := ih fun d hd => hk d (List.mem_cons_of_mem _ hd)
    rw [List.cons_append, cutField, if_neg hpipe, if_neg hback, hrest, Option.map_map]
    rfl

/-! ### The extensions -/

/-- An escaped value has no bare equals sign: it goes to the segment that is open. -/
lemma segments_escape (v t : List Char) :
    segments false (cefEscapeExtension v ++ t) = (segments false t).modifyHead (cefEscapeExtension v ++ ·) := by
  induction v with
  | nil =>
    rw [cefEscapeExtension, List.flatMap_nil, List.nil_append]
    cases segments false t with
    | nil => rfl
    | cons p ps => rfl
  | cons c v ih =>
    rw [cefEscapeExtension, List.flatMap_cons, List.append_assoc, ← cefEscapeExtension]
    unfold escapeExtensionChar
    split_ifs with h1 h2 h3 h4
    · simp [segments, ih, Function.comp_def]
    · simp [segments, ih, Function.comp_def]
    · simp [segments, ih, Function.comp_def]
    · simp [segments, ih, Function.comp_def]
    · simp [segments, ih, h1, h2, Function.comp_def]

lemma unescape_escape (v : List Char) : unescapeExtension false (cefEscapeExtension v) = v := by
  induction v with
  | nil => rfl
  | cons c v ih =>
    rw [cefEscapeExtension, List.flatMap_cons, ← cefEscapeExtension]
    unfold escapeExtensionChar
    split_ifs with h1 h2 h3 h4
    · simp [unescapeExtension, ih, h1]
    · simp [unescapeExtension, ih, h2]
    · simp [unescapeExtension, ih, h3]
    · simp [unescapeExtension, ih, h4]
    · simp [unescapeExtension, ih, h1]

/-- A key is a plain word. -/
def PlainKey (k : String) : Prop := ∀ c ∈ k.toList, c ≠ '=' ∧ c ≠ '\\' ∧ c ≠ ' '

lemma segments_ne_nil (escaped : Bool) (t : List Char) : segments escaped t ≠ [] := by
  induction t generalizing escaped with
  | nil => cases escaped <;> exact List.cons_ne_nil _ _
  | cons c t ih =>
    cases escaped with
    | true =>
      rw [segments, Ne, List.modifyHead_eq_nil_iff]
      exact ih false
    | false =>
      rw [segments]
      split_ifs with h
      · exact List.cons_ne_nil _ _
      · rw [Ne, List.modifyHead_eq_nil_iff]
        exact ih _

lemma segments_key {k : List Char} (hk : ∀ c ∈ k, c ≠ '=' ∧ c ≠ '\\' ∧ c ≠ ' ') (t : List Char) :
    segments false (k ++ '=' :: t) = k :: segments false t := by
  induction k with
  | nil => rfl
  | cons c k ih =>
    obtain ⟨heq, hback, -⟩ := hk c List.mem_cons_self
    rw [List.cons_append, segments, if_neg heq, decide_eq_false hback, ih fun d hd => hk d (List.mem_cons_of_mem _ hd)]
    rfl

lemma splitKey_append {k : List Char} (hk : ∀ c ∈ k, c ≠ '=' ∧ c ≠ '\\' ∧ c ≠ ' ') (v : List Char) :
    splitKey (v ++ ' ' :: k) = some (v, k) := by
  have hkey : ((v ++ ' ' :: k).reverse.takeWhile (· ≠ ' ')).reverse = k := by
    rw [List.reverse_append, List.reverse_cons, List.append_assoc, List.singleton_append,
      List.takeWhile_append_of_pos fun c hc => decide_eq_true (hk c (List.mem_reverse.mp hc)).2.2]
    simp
  have hlen : (v ++ ' ' :: k).length - k.length - 1 = v.length := by
    rw [List.length_append, List.length_cons]
    omega
  rw [splitKey, if_pos (by simp)]
  simp only [hkey, hlen, List.take_left]

/-- The pairs after a key, read back one by one. -/
lemma pairsOf_render {pairs : List CefExt} (hkeys : ∀ kv ∈ pairs, PlainKey kv.key) (key v : String) :
    pairsOf key.toList (segments false (cefEscapeExtension v.toList ++ pairs.flatMap fun kv => ' ' :: writePair kv)) =
      some (⟨key, v⟩ :: pairs) := by
  induction pairs generalizing key v with
  | nil =>
    rw [List.flatMap_nil, segments_escape]
    simp [segments, pairsOf, unescape_escape]
  | cons kv pairs ih =>
    have hkv := hkeys kv List.mem_cons_self
    have hspace : segments false (' ' :: writePair kv ++ pairs.flatMap fun kv => ' ' :: writePair kv) =
        (' ' :: kv.key.toList) ::
          segments false (cefEscapeExtension kv.value.toList ++ pairs.flatMap fun kv => ' ' :: writePair kv) := by
      rw [writePair, List.cons_append, List.append_assoc, List.cons_append, segments, if_neg (by decide),
        decide_eq_false (by decide), segments_key hkv]
      rfl
    rw [List.flatMap_cons, segments_escape, hspace, List.modifyHead_cons, pairsOf, if_neg (segments_ne_nil _ _),
      splitKey_append hkv, Option.bind_some, ih (fun kv h => hkeys kv (List.mem_cons_of_mem _ h)), unescape_escape,
      String.ofList_toList, String.ofList_toList]
    rfl

lemma intercalate_pairs (kv : CefExt) (pairs : List CefExt) :
    [' '].intercalate ((kv :: pairs).map writePair) = writePair kv ++ pairs.flatMap fun kv => ' ' :: writePair kv := by
  induction pairs generalizing kv with
  | nil => simp [List.intercalate]
  | cons kv' pairs ih =>
    rw [List.flatMap_cons, List.cons_append, ← ih kv']
    simp [List.intercalate]

lemma parseExtensions_render {pairs : List CefExt} (hkeys : ∀ kv ∈ pairs, PlainKey kv.key) :
    parseExtensions ([' '].intercalate (pairs.map writePair)) = some pairs := by
  cases pairs with
  | nil => rfl
  | cons kv pairs =>
    have hpairs := pairsOf_render (fun kv' h => hkeys kv' (List.mem_cons_of_mem _ h)) kv.key kv.value
    rw [intercalate_pairs, parseExtensions, writePair, List.append_assoc, List.cons_append, if_neg (by simp),
      segments_key (hkeys kv List.mem_cons_self)]
    exact hpairs

/-- **Whatever is written in the documented shape is read back**: the escapes keep the fields and the values apart. -/
lemma parseCEF_render {fields : List String} (hlen : fields.length = 7)
    (hplain : ∀ f ∈ fields, '\n' ∉ f.toList ∧ '\r' ∉ f.toList) {pairs : List CefExt}
    (hkeys : ∀ kv ∈ pairs, PlainKey kv.key) : parseCEF (renderCEF fields pairs) = some (fields, pairs) := by
  have hfields : (fields.map fun f => String.ofList (plain f.toList)) = fields := by
    refine (List.map_congr_left fun f hf => ?_).trans (List.map_id fields)
    have hid : plain f.toList = f.toList := by
      refine (List.map_congr_left fun c hc => if_neg ?_).trans (List.map_id _)
      rintro (rfl | rfl)
      · exact (hplain f hf).1 hc
      · exact (hplain f hf).2 hc
    rw [hid, String.ofList_toList]
    rfl
  have hcut := cutFields_escape fields 0 ([' '].intercalate (pairs.map writePair))
  rw [Nat.add_zero, hlen, hfields] at hcut
  rw [parseCEF, renderCEF, hcut]
  simp [cutFields, parseExtensions_render hkeys]

/-! ### What the code writes -/

lemma cefSeverityForTier_le (tier : String) : cefSeverityForTier tier ≤ 10 := by
  unfold cefSeverityForTier
  split <;> decide

/-- The severity is a number, without characters that need an escape. -/
lemma severity_plain (tier : String) :
    ∀ c ∈ (toString (cefSeverityForTier tier)).toList ++ [' '], c ≠ '|' ∧ c ≠ '\\' := by
  have hall : ((toString (cefSeverityForTier tier)).toList ++ [' ']).all (fun c => c ≠ '|' && c ≠ '\\') = true := by
    unfold cefSeverityForTier
    split <;> decide
  intro c hc
  simpa using List.all_eq_true.mp hall c hc

/-- Something is always written after the header: the action is never empty. -/
lemma cefPairs_ne_nil (lower : Char → Char) (e : Event) : cefPairs lower e ≠ [] := by
  have hmem : (⟨"act", cefSigPrefix⟩ : CefExt) ∈ cefPairs lower e := by
    refine List.mem_filter.mpr ⟨(List.mem_insertionSort _).mpr ?_, by decide⟩
    simp [cefExtensions]
  exact List.ne_nil_of_mem hmem

lemma intercalate_concat (fields : List String) (s : String) :
    writeHeader (fields ++ [s]) =
      fields.flatMap (fun f => cefEscapeHeader f.toList ++ ['|']) ++ cefEscapeHeader s.toList := by
  unfold writeHeader
  induction fields with
  | nil => simp [List.intercalate]
  | cons f fields ih =>
    rw [List.flatMap_cons, List.append_assoc, ← ih]
    cases fields with
    | nil => simp [List.intercalate]
    | cons f' fields => simp [List.intercalate]

/-- The header that is written, with the severity at its end. -/
lemma writeHeader_cefHeader (lower : Char → Char) (e : Event) :
    ∃ fields : List String, fields.length = 6 ∧
      cefHeader lower e = fields ++ [toString (cefSeverityForTier e.tier)] ∧
      writeHeader (cefHeader lower e) = fields.flatMap (fun f => cefEscapeHeader f.toList ++ ['|']) ++
        (toString (cefSeverityForTier e.tier)).toList := by
  have hsev : ∀ n ≤ 10, cefEscapeHeader (toString n).toList = (toString n).toList := by decide +kernel
  refine ⟨(cefHeader lower e).take 6, rfl, rfl, ?_⟩
  have hheader : cefHeader lower e = (cefHeader lower e).take 6 ++ [toString (cefSeverityForTier e.tier)] := rfl
  nth_rewrite 1 [hheader]
  rw [intercalate_concat, hsev _ (cefSeverityForTier_le e.tier)]

/-- The last field of the header takes in what comes before the next pipe. -/
lemma cutFields_unseparated {fields : List String} (hlen : fields.length = 6) {k : List Char}
    (hk : ∀ c ∈ k, c ≠ '|' ∧ c ≠ '\\') (t : List Char) {x : List String × List Char}
    (hcut : cutFields 7 (fields.flatMap (fun f => cefEscapeHeader f.toList ++ ['|']) ++ (k ++ t)) = some x) :
    ∃ f, x.1.getLast? = some (String.ofList (k ++ f)) := by
  have hseven : 7 = fields.length + 1 := by rw [hlen]
  rw [hseven, cutFields_escape, cutFields, cutField_append hk] at hcut
  cases hfield : cutField false t with
  | none =>
    rw [hfield] at hcut
    cases hcut
  | some y =>
    rw [hfield] at hcut
    cases hcut
    exact ⟨y.1, List.getLast?_concat⟩

/-- The reader takes the pairs for a part of the severity: no event that is written is read back. -/
theorem cef_severity_unseparated (lower : Char → Char) (e : Event) (hvalid : e.validate = .ok ()) :
    ∃ out, formatCEF lower e = .ok out ∧ parseCEF out ≠ some (cefHeader lower e, cefPairs lower e) := by
  obtain ⟨fields, hlen, hheader, hwrite⟩ := writeHeader_cefHeader lower e
  obtain ⟨kv, pairs, hpairs⟩ := List.exists_cons_of_ne_nil (cefPairs_ne_nil lower e)
  refine ⟨_, by rw [formatCEF, hvalid], fun hparse => ?_⟩
  obtain ⟨x, hcut, hx⟩ := Option.bind_eq_some_iff.mp hparse
  obtain ⟨ps, -, hps⟩ := Option.map_eq_some_iff.mp hx
  rw [hwrite, hpairs, List.flatMap_cons, List.cons_append, List.append_assoc, List.append_cons] at hcut
  obtain ⟨f, hlast⟩ := cutFields_unseparated hlen (severity_plain e.tier) _ hcut
  have hfields : x.1 = fields ++ [toString (cefSeverityForTier e.tier)] := (congrArg Prod.fst hps).trans hheader
  rw [hfields, List.getLast?_concat, Option.some.injEq] at hlast
  -- a number is not a number, a space and more
  have hlength := congrArg (fun s : String => s.toList.length) hlast
  simp only [String.toList_ofList, List.length_append, List.length_singleton] at hlength
  omega

/-- An event with its mandatory fields. -/
def blockedEvent : Event := { tenantID := "t", messageID := "m", tier := "Blocked" }

theorem cef_blocked_unseparated : blockedEvent.validate = .ok () ∧
    ∃ out, formatCEF Char.toLower blockedEvent = .ok out ∧
      parseCEF out ≠ some (cefHeader Char.toLower blockedEvent, cefPairs Char.toLower blockedEvent) :=
  ⟨by decide +kernel, cef_severity_unseparated Char.toLower blockedEvent (by decide +kernel)⟩

/-- There are six pipes in this record, and the reader misses the seventh. -/
theorem cef_blocked_unread : ∃ out, formatCEF Char.toLower blockedEvent = .ok out ∧ parseCEF out = none ∧
    "CEF:0|SN360|EmailSecurity|1.0|email-evaluation.malicious|sn360-es email malicious|10 act=email-evaluation ".toList
      <+: out := by
  refine ⟨_, rfl, ?_, ?_⟩
  · decide +kernel
  · decide +kernel

end Sn360Es.Sinks
