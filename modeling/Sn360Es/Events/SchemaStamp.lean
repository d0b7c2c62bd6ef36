import Sn360Es.Events.Publisher
import Sn360Es.Lib.JsonFields
import Sn360Es.Lib.JsonQuote

/-!
# Stamping a payload (`pkg/events/schema/stamp.go`, `PeekVersion` of `pkg/events/schema/schema.go`)

`Stamp` puts `schema_version` in front of the members of a payload. Whether the field is there is decided by decoding
the payload into a struct, which takes a name up to case, keeps a value that is a string and passes over all others;
the members are then read one by one, up to the end of the payload or to any closing bracket.

* `stamp`, `peekVersion`, `stream` — the functions;
* `Complete`, `Stamps` — one whole JSON object, and what stamping a payload promises;
* `document_render` — the members of a stamped payload;
* `stamps_iff` — the payloads for which the promise is kept;
* `json`, `json_stamp` — what the publisher uses of it.
-/

namespace Sn360Es.Events.Schema

open Lib JsonText

/-! ### The functions -/

def schemaVersionField : String := "schema_version"

/-- `maxNestingDepth` of `encoding/json`. -/
def maxNestingDepth : ℕ := 10000

inductive StampError where
  | emptyVersion
  | notJSONObject
  | decodeKey
  | decodeValue
  deriving DecidableEq, Repr

/-- The text of an error; the last two go on with the one of the decoder. -/
def StampError.text : StampError → String
  | emptyVersion => "schema: cannot stamp empty version onto payload"
  | notJSONObject => "schema: payload is not a JSON object"
  | decodeKey => "schema: decode key: "
  | decodeValue => "schema: decode value: "

/-- The name is taken for the field. -/
def isVersionField (key : String) : Bool := Json.foldName key = Json.foldName schemaVersionField

/-- A value that is a string. -/
def stringValue (x : Bytes) : Option String := (literal x).map Prod.fst

/-- One member on the field. -/
def peekMember (cur : String) (m : Member) : String :=
  if isVersionField m.1 then (stringValue m.2).getD cur else cur

/-- The field of a struct, read past everything that does not decode. -/
def versionOf (ms : List Member) : String := ms.foldl peekMember ""

/-- `PeekVersion`. The object counts for the nesting of the payload. -/
def peekVersion (data : Bytes) : String :=
  match document (maxNestingDepth - 1) data with
  | some ms => versionOf ms
  | none => ""

/-- `Decode` into a raw message, after a key. -/
def rawValue : Scan Bytes := andThen (spaced (byte 0x3A)) fun _ => spaced (value maxNestingDepth)

/-- The loop over the members while there are `More`; the next `skip` bytes belong to one that was read. -/
def streamFrom : ℕ → Bool → Bytes → Except StampError (List Member × Bytes)
  | _, _, [] => .ok ([], [])
  | skip + 1, first, _ :: s => streamFrom skip first s
  | 0, first, b :: s =>
    if isSpace b then streamFrom 0 first s
    else if isClosing b then .ok ([], b :: s)
    else
      match next literal first (b :: s) with
      | none => .error .decodeKey
      | some (key, t) =>
        match rawValue t with
        | none => .error .decodeValue
        | some (raw, rest) => (streamFrom (s.length - rest.length) false s).map fun x => ((key, raw) :: x.1, x.2)

def stream (s : Bytes) : Except StampError (List Member × Bytes) := streamFrom 0 true s

def renderMember (m : Member) : Bytes := 0x2C :: (marshalDecoded m.1 ++ 0x3A :: m.2)

/-- The buffer of `Stamp` at its end. -/
def render (version : Bytes) (ms : List Member) : Bytes :=
  0x7B :: (bytesOf ("\"" ++ schemaVersionField ++ "\"") ++ 0x3A :: (marshalString version ++
    (ms.flatMap renderMember ++ [0x7D])))

/-- `Stamp`: the payload, whether it changed, and the error. -/
def stamp (data version : Bytes) : Bytes × Bool × Option StampError :=
  if version = [] then (data, false, some .emptyVersion)
  else if Utf8.trimSpace data = [] then
    (bytesOf ("\x7b\"" ++ schemaVersionField ++ "\":\"") ++ version ++ bytesOf "\"\x7d", true, none)
  else
    match skipSpace data with
    | [] => (data, false, some .notJSONObject)
    | b :: s =>
      if b ≠ 0x7B then (data, false, some .notJSONObject)
      else if peekVersion data ≠ "" then (data, false, none)
      else
        match stream s with
        | .error err => (data, false, some err)
        | .ok (ms, _) => (render version ms, true, none)

/-! ### The promise -/

/-- One whole JSON object, of any nesting. -/
def Complete (data : Bytes) (ms : List Member) : Prop := ∃ limit, document limit data = some ms

/-- The field is a member. -/
def Declares (ms : List Member) : Prop := ∃ m ∈ ms, m.1 = schemaVersionField

instance (ms : List Member) : Decidable (Declares ms) := inferInstanceAs (Decidable (∃ m ∈ ms, _))

/-- **What stamping a payload promises.** -/
structure Stamps (data version : Bytes) : Prop where
  /-- The field is there, whatever its value. -/
  present : ∀ ms, Complete data ms → Declares ms → stamp data version = (data, false, none)
  /-- It is not there. -/
  absent : ∀ ms, Complete data ms → ¬ Declares ms → ∃ out, stamp data version = (out, true, none) ∧
    Complete out ((schemaVersionField, marshalString version) :: ms) ∧
      ∀ version', version' ≠ [] → stamp out version' = (out, false, none)
  /-- The payload is something else. -/
  other : (∀ ms, ¬ Complete data ms) → Utf8.trimSpace data ≠ [] → ∃ err, stamp data version = (data, false, some err)

/-- The nesting is one that `encoding/json` reads. -/
def Shallow (data : Bytes) : Prop := (document (maxNestingDepth - 1) data).isSome = true

/-- The payload opens an object, and its members are whole up to the end of the payload or a closing bracket. -/
def OpensMembers (data : Bytes) : Prop :=
  ∃ s x, skipSpace data = 0x7B :: s ∧ items (member (value maxNestingDepth)) true s = some x

/-- The payloads that `Stamp` treats as it promises. -/
structure Stampable (data : Bytes) : Prop where
  /-- The last string among the members that are taken for the field is not empty. -/
  present : ∀ ms, Complete data ms → Declares ms → Shallow data ∧ versionOf ms ≠ ""
  /-- No string is taken for the field. -/
  absent : ∀ ms, Complete data ms → ¬ Declares ms →
    Shallow data ∧ ∀ m ∈ ms, isVersionField m.1 = true → stringValue m.2 = none
  other : (∀ ms, ¬ Complete data ms) → ¬ OpensMembers data

/-! ### Reading the members -/

section Stream

variable {data version : Bytes} {ms : List Member} {s : Bytes} {limit : ℕ}

lemma next_member (first : Bool) (s : Bytes) : next (member (value maxNestingDepth)) first s =
    (next literal first s).bind fun x => (rawValue x.2).map fun y => ((x.1, y.1), y.2) := by
  have hmember : ∀ t, member (value maxNestingDepth) t =
      (literal t).bind fun x => (rawValue x.2).map fun y => ((x.1, y.1), y.2) := by
    intro t
    unfold member rawValue andThen mapScan
    congr 1
    funext x
    rw [Option.map_bind]
    rfl
  cases first with
  | true => exact hmember s
  | false =>
    rw [next, next]
    unfold andThen spaced
    rw [Option.bind_assoc]
    exact Option.bind_congr fun x _ => hmember _

/-- `Stamp` reads the members of an object. -/
lemma streamFrom_eq (skip : ℕ) (first : Bool) (s : Bytes) :
    (streamFrom skip first s).toOption = itemsFrom (member (value maxNestingDepth)) skip first s := by
  induction s generalizing skip first with
  | nil => cases skip <;> rfl
  | cons b s ih =>
    cases skip with
    | succ skip => exact ih skip first
    | zero =>
      rw [streamFrom, itemsFrom]
      split_ifs with hs hb
      · exact ih 0 first
      · rfl
      · rw [next_member]
        cases hkey : next literal first (b :: s) with
        | none => rfl
        | some x =>
          simp only [Option.bind_some]
          cases hraw : rawValue x.2 with
          | none => rfl
          | some y =>
            simp only [Option.map_some]
            rw [← ih]
            cases streamFrom (s.length - y.2.length) false s <;> rfl

lemma reads_members (n : ℕ) : Reads (member (value n)) (member (value n)) := reads_member (reads_value le_rfl)

lemma stream_eq_ok_iff {r : Bytes} : stream s = .ok (ms, r) ↔ Run (member (value maxNestingDepth)) true s ms r := by
  rw [← items_eq_some_iff (reads_members _), items, ← streamFrom_eq, stream]
  cases streamFrom 0 true s <;> simp [Except.toOption]

/-- The members do not depend on the bound. -/
lemma run_unique {m n : ℕ} {r r' : Bytes} {ms' : List Member} (h : Run (member (value m)) true s ms r)
    (h' : Run (member (value n)) true s ms' r') : ms = ms' ∧ r = r' := by
  have hm := h.mono (reads_member (reads_value (Nat.le_max_left m n)))
  have hn := h'.mono (reads_member (reads_value (Nat.le_max_right m n)))
  rw [← items_eq_some_iff (reads_members _)] at hm hn
  simpa using hm.symm.trans hn

lemma Complete.unique {ms' : List Member} (h : Complete data ms) (h' : Complete data ms') : ms = ms' := by
  obtain ⟨m, hm⟩ := h
  obtain ⟨n, hn⟩ := h'
  obtain ⟨t, r, hs, hrun, -⟩ := document_eq_some_iff.mp hm
  obtain ⟨t', r', hs', hrun', -⟩ := document_eq_some_iff.mp hn
  obtain ⟨-, rfl⟩ := List.cons.inj (hs.symm.trans hs')
  exact (run_unique hrun hrun').1

lemma brace_mem (h : skipSpace data = 0x7B :: s) : 0x7B ∈ data := by
  have hmem : 0x7B ∈ skipSpace data := by
    rw [h]
    exact List.mem_cons_self
  exact (List.dropWhile_suffix isSpace).subset hmem

/-- A payload that opens an object is not blank. -/
lemma trimSpace_ne_nil (h : skipSpace data = 0x7B :: s) : Utf8.trimSpace data ≠ [] :=
  List.ne_nil_of_mem (Utf8.mem_trimSpace (by decide) (brace_mem h))

/-- `Stamp` on a payload that opens an object. -/
lemma stamp_object (hversion : version ≠ []) (h : skipSpace data = 0x7B :: s) : stamp data version =
    if peekVersion data ≠ "" then (data, false, none)
    else
      match stream s with
      | .error err => (data, false, some err)
      | .ok (ms, _) => (render version ms, true, none) := by
  unfold stamp
  rw [if_neg hversion, if_neg (trimSpace_ne_nil h), h]
  exact if_neg (by simp)

lemma stamp_of_peek (hversion : version ≠ []) (h : skipSpace data = 0x7B :: s) (hpeek : peekVersion data ≠ "") :
    stamp data version = (data, false, none) := by
  rw [stamp_object hversion h, if_pos hpeek]

lemma stamp_of_stream {r : Bytes} (hversion : version ≠ []) (h : skipSpace data = 0x7B :: s)
    (hpeek : peekVersion data = "") (hstream : stream s = .ok (ms, r)) :
    stamp data version = (render version ms, true, none) := by
  rw [stamp_object hversion h, if_neg (by simp [hpeek]), hstream]

/-- A payload that is left as it is declares a version. -/
lemma peek_of_stamp (hversion : version ≠ []) (h : skipSpace data = 0x7B :: s)
    (hstamp : stamp data version = (data, false, none)) : peekVersion data ≠ "" := by
  intro hpeek
  rw [stamp_object hversion h, if_neg (by simp [hpeek])] at hstamp
  split at hstamp <;> simp at hstamp

/-- A payload that was stamped. -/
lemma stream_of_stamp {out : Bytes} (hversion : version ≠ []) (h : skipSpace data = 0x7B :: s)
    (hstamp : stamp data version = (out, true, none)) :
    peekVersion data = "" ∧ ∃ ms r, stream s = .ok (ms, r) ∧ out = render version ms := by
  rw [stamp_object hversion h] at hstamp
  split_ifs at hstamp with hpeek
  · simp at hstamp
  · refine ⟨not_not.mp hpeek, ?_⟩
    split at hstamp
    · simp at hstamp
    · next ms r hstream => exact ⟨ms, r, hstream, (Prod.mk.inj hstamp).1.symm⟩

end Stream

/-! ### The version -/

section Version

variable {data version : Bytes} {ms : List Member}

lemma foldl_peekMember_of_none (h : ∀ m ∈ ms, isVersionField m.1 = true → stringValue m.2 = none) (cur : String) :
    ms.foldl peekMember cur = cur := by
  induction ms generalizing cur with
  | nil => rfl
  | cons m ms ih =>
    obtain ⟨hm, hms⟩ := List.forall_mem_cons.mp h
    have hstep : peekMember cur m = cur := by
      unfold peekMember
      split_ifs with hfield
      · rw [hm hfield]
        rfl
      · rfl
    rw [List.foldl_cons, hstep, ih hms]

/-- A string that is taken for the field hides what was read before it. -/
lemma foldl_peekMember_of_some {m : Member} (hm : m ∈ ms) (hfield : isVersionField m.1 = true)
    (hvalue : stringValue m.2 ≠ none) (cur cur' : String) : ms.foldl peekMember cur = ms.foldl peekMember cur' := by
  induction ms generalizing cur cur' with
  | nil => cases hm
  | cons x ms ih =>
    rw [List.foldl_cons, List.foldl_cons]
    rcases List.mem_cons.mp hm with rfl | hmem
    · obtain ⟨v, hv⟩ := Option.ne_none_iff_exists'.mp hvalue
      unfold peekMember
      rw [if_pos hfield, if_pos hfield, hv]
      rfl
    · exact ih hmem _ _

/-- The version that was put in front. -/
lemma versionOf_stamped : versionOf ((schemaVersionField, marshalString version) :: ms) =
    ms.foldl peekMember (decoded (runes version)) := by
  have hliteral := literal_quote (runes version) []
  rw [List.append_nil] at hliteral
  have hfield : isVersionField schemaVersionField = true := by decide
  unfold versionOf
  rw [List.foldl_cons]
  unfold peekMember stringValue marshalString
  rw [if_pos hfield, hliteral]
  rfl

lemma peekVersion_of_not_complete (h : ∀ ms, ¬ Complete data ms) : peekVersion data = "" := by
  unfold peekVersion
  split
  · next ms hms => exact absurd ⟨_, hms⟩ (h ms)
  · rfl

/-- What `PeekVersion` finds in a whole object. -/
lemma peekVersion_ne_iff (h : Complete data ms) : peekVersion data ≠ "" ↔ Shallow data ∧ versionOf ms ≠ "" := by
  unfold peekVersion Shallow
  cases hdoc : document (maxNestingDepth - 1) data with
  | none => simp
  | some ms' =>
    obtain rfl : ms = ms' := h.unique ⟨_, hdoc⟩
    simp

end Version

/-! ### The stamped payload -/

section Render

variable {version : Bytes} {ms : List Member} {n : ℕ}

lemma run_renderMembers (hms : ∀ m ∈ ms, Whole n m.2) (t : Bytes) :
    Run (member (value n)) false (ms.flatMap renderMember ++ 0x7D :: t) ms (0x7D :: t) := by
  induction ms with
  | nil => exact .close (by decide) (by decide)
  | cons m ms ih =>
    obtain ⟨hm, hms⟩ := List.forall_mem_cons.mp hms
    have hrest := ih hms
    set rest := ms.flatMap renderMember ++ 0x7D :: t
    have htext : (m :: ms).flatMap renderMember ++ 0x7D :: t =
        0x2C :: (marshalDecoded m.1 ++ 0x3A :: (m.2 ++ rest)) := by
      rw [List.flatMap_cons, List.append_assoc]
      simp [renderMember, rest]
    have hnext : next (member (value n)) false (0x2C :: (marshalDecoded m.1 ++ 0x3A :: (m.2 ++ rest))) =
        some (m, rest) := member_of_whole (literal_marshalDecoded m.1 _) hm hrest.stops
    rw [htext]
    exact .item (by decide) (by decide) hnext hrest

/-- **A stamped payload is a whole object, with the members that were read.** -/
lemma document_render (hms : ∀ m ∈ ms, Whole n m.2) :
    document n (render version ms) = some ((schemaVersionField, marshalString version) :: ms) := by
  have hrest := run_renderMembers hms []
  have hname : bytesOf ("\"" ++ schemaVersionField ++ "\"") = marshalDecoded schemaVersionField := by decide +kernel
  have hmember := member_of_whole (literal_marshalDecoded schemaVersionField _) (whole_quote n (runes version))
    hrest.stops
  refine document_eq_some_iff.mpr ⟨_, [], rfl, ?_, rfl⟩
  rw [hname]
  exact .item (by decide) (by decide) hmember hrest

/-- And the values of its members are within the same bounds. -/
lemma whole_of_document_render {m : ℕ} {ms' : List Member} (hms : ∀ x ∈ ms, Whole m x.2)
    (h : document n (render version ms) = some ms') :
    ms' = (schemaVersionField, marshalString version) :: ms ∧ ∀ x ∈ ms, Whole n x.2 := by
  obtain rfl := Complete.unique ⟨_, h⟩ ⟨_, document_render hms⟩
  obtain ⟨t, r, -, hrun, -⟩ := document_eq_some_iff.mp h
  exact ⟨rfl, (List.forall_mem_cons.mp hrun.whole).2⟩

end Render

/-! ### The payloads that are stamped as promised -/

section Stamps

variable {data version : Bytes} {ms : List Member}

lemma Complete.opens (h : Complete data ms) : ∃ s, skipSpace data = 0x7B :: s := by
  obtain ⟨n, hn⟩ := h
  obtain ⟨s, r, hs, -⟩ := document_eq_some_iff.mp hn
  exact ⟨s, hs⟩

/-- The members that `Stamp` reads of a whole object. -/
lemma Complete.stream_eq {s r : Bytes} {ms' : List Member} (h : Complete data ms) (hs : skipSpace data = 0x7B :: s)
    (hstream : stream s = .ok (ms', r)) : ms' = ms := by
  obtain ⟨n, hn⟩ := h
  obtain ⟨s', r', hs', hrun, -⟩ := document_eq_some_iff.mp hn
  obtain ⟨-, rfl⟩ := List.cons.inj (hs.symm.trans hs')
  exact (run_unique (stream_eq_ok_iff.mp hstream) hrun).1

/-- A whole object that was stamped, and is not stamped again. -/
lemma absent_of_stamps (hversion : version ≠ []) (hc : Complete data ms) {out : Bytes}
    (hstamp : stamp data version = (out, true, none)) (hagain : stamp out version = (out, false, none)) :
    Shallow data ∧ ∀ m ∈ ms, isVersionField m.1 = true → stringValue m.2 = none := by
  obtain ⟨s, hs⟩ := hc.opens
  obtain ⟨hpeek, ms', r, hstream, rfl⟩ := stream_of_stamp hversion hs hstamp
  obtain rfl := hc.stream_eq hs hstream
  have hrun := stream_eq_ok_iff.mp hstream
  -- the stamped payload is read, so the nesting of its members is bounded, and with it that of the payload
  have hout : Complete (render version ms') ((schemaVersionField, marshalString version) :: ms') :=
    ⟨_, document_render hrun.whole⟩
  obtain ⟨hshallow, hversionOf⟩ := (peekVersion_ne_iff hout).mp (peek_of_stamp hversion rfl hagain)
  obtain ⟨ms'', hdoc⟩ := Option.isSome_iff_exists.mp hshallow
  obtain ⟨-, hwhole⟩ := whole_of_document_render hrun.whole hdoc
  obtain ⟨n, hn⟩ := hc
  obtain ⟨s', r', hs', hrun', hspace⟩ := document_eq_some_iff.mp hn
  have hdata : document (maxNestingDepth - 1) data = some ms' :=
    document_eq_some_iff.mpr ⟨s', r', hs', hrun'.within hwhole, hspace⟩
  have hshallow' : Shallow data := by
    rw [Shallow, hdata]
    rfl
  refine ⟨hshallow', fun m hm hfield => ?_⟩
  -- a string would hide the version that was put in front
  by_contra hvalue
  have hold : versionOf ms' = "" := by
    by_contra hne
    exact (peekVersion_ne_iff ⟨n, hn⟩).mpr ⟨hshallow', hne⟩ hpeek
  rw [versionOf_stamped, foldl_peekMember_of_some hm hfield hvalue _ ""] at hversionOf
  exact hversionOf hold

/-- A whole object in which no string is taken for the field. -/
lemma stamps_of_absent (hversion : version ≠ []) (hc : Complete data ms) (hshallow : Shallow data)
    (hms : ∀ m ∈ ms, isVersionField m.1 = true → stringValue m.2 = none) :
    ∃ out, stamp data version = (out, true, none) ∧ Complete out ((schemaVersionField, marshalString version) :: ms) ∧
      ∀ version', version' ≠ [] → stamp out version' = (out, false, none) := by
  obtain ⟨ms', hdoc⟩ := Option.isSome_iff_exists.mp hshallow
  obtain rfl := hc.unique ⟨_, hdoc⟩
  obtain ⟨s, r, hs, hrun, -⟩ := document_eq_some_iff.mp hdoc
  have hpeek : peekVersion data = "" := by
    by_contra hne
    exact ((peekVersion_ne_iff hc).mp hne).2 (foldl_peekMember_of_none hms "")
  have hstream : stream s = .ok (ms, 0x7D :: r) :=
    stream_eq_ok_iff.mpr (hrun.mono (reads_member (reads_value (by decide))))
  have hrender : document _ (render version ms) = _ := document_render hrun.whole
  have hout : Complete (render version ms) ((schemaVersionField, marshalString version) :: ms) := ⟨_, hrender⟩
  have hversionOf : versionOf ((schemaVersionField, marshalString version) :: ms) ≠ "" := by
    rw [versionOf_stamped, foldl_peekMember_of_none hms]
    exact decoded_runes_ne hversion
  have hagain : peekVersion (render version ms) ≠ "" := by
    refine (peekVersion_ne_iff hout).mpr ⟨?_, hversionOf⟩
    rw [Shallow, hrender]
    rfl
  exact ⟨render version ms, stamp_of_stream hversion hs hpeek hstream, hout, fun version' h =>
    stamp_of_peek h rfl hagain⟩

/-- A payload that is no whole object, and whose members do not come to an end. -/
lemma stamp_of_not_opens (hversion : version ≠ []) (hc : ∀ ms, ¬ Complete data ms) (hopen : ¬ OpensMembers data)
    (hblank : Utf8.trimSpace data ≠ []) : ∃ err, stamp data version = (data, false, some err) := by
  cases hs : skipSpace data with
  | nil =>
    unfold stamp
    rw [if_neg hversion, if_neg hblank, hs]
    exact ⟨_, rfl⟩
  | cons b s =>
    by_cases hb : b = 0x7B
    · subst hb
      rw [stamp_object hversion hs, if_neg (by simp [peekVersion_of_not_complete hc])]
      cases hstream : stream s with
      | error err => exact ⟨err, rfl⟩
      | ok x =>
        have hitems := (items_eq_some_iff (reads_members _)).mpr (stream_eq_ok_iff.mp hstream)
        exact absurd ⟨s, x, hs, hitems⟩ hopen
    · unfold stamp
      rw [if_neg hversion, if_neg hblank, hs]
      exact ⟨.notJSONObject, if_pos hb⟩

/-- **Stamping keeps its promise** of the whole objects that have a string which is not empty as the field, or no
string that is taken for it, and of the other payloads whose members do not come to an end. -/
theorem stamps_iff (data version : Bytes) (hversion : version ≠ []) : Stamps data version ↔ Stampable data := by
  constructor
  · intro h
    refine ⟨fun ms hc hd => ?_, fun ms hc hd => ?_, fun hc hopen => ?_⟩
    · obtain ⟨s, hs⟩ := hc.opens
      exact (peekVersion_ne_iff hc).mp (peek_of_stamp hversion hs (h.present ms hc hd))
    · obtain ⟨out, hstamp, -, hagain⟩ := h.absent ms hc hd
      exact absent_of_stamps hversion hc hstamp (hagain version hversion)
    · obtain ⟨s, x, hs, hitems⟩ := hopen
      have hstream := stream_eq_ok_iff.mpr ((items_eq_some_iff (reads_members _)).mp hitems)
      obtain ⟨err, hstamp⟩ := h.other hc (trimSpace_ne_nil hs)
      rw [stamp_of_stream hversion hs (peekVersion_of_not_complete hc) hstream] at hstamp
      simp at hstamp
  · intro h
    refine ⟨fun ms hc hd => ?_, fun ms hc hd => ?_, fun hc hblank => ?_⟩
    · obtain ⟨s, hs⟩ := hc.opens
      exact stamp_of_peek hversion hs ((peekVersion_ne_iff hc).mpr (h.present ms hc hd))
    · obtain ⟨hshallow, hms⟩ := h.absent ms hc hd
      exact stamps_of_absent hversion hc hshallow hms
    · exact stamp_of_not_opens hversion hc (h.other hc) hblank

-- the rest of a payload that was cut off is made up, and what follows one is dropped
example : stamp (bytesOf "\x7b\"a\":1") (bytesOf "v1") =
    (bytesOf "\x7b\"schema_version\":\"v1\",\"a\":1\x7d", true, none) := by decide +kernel

example : stamp (bytesOf "\x7b\x7d x") (bytesOf "v1") = (bytesOf "\x7b\"schema_version\":\"v1\"\x7d", true, none) := by
  decide +kernel

/-- A payload without the field. -/
def plainPayload : Bytes := bytesOf " \x7b\"a\": [1, 2.50], \"b\": null\x7d"

/-- A payload whose version is a number. -/
def numberedPayload : Bytes := bytesOf "\x7b\"schema_version\":1\x7d"

theorem stamps_plain : Stamps plainPayload (bytesOf "v1") := by
  have hdoc : document (maxNestingDepth - 1) plainPayload =
      some [("a", bytesOf "[1, 2.50]"), ("b", bytesOf "null")] := by decide +kernel
  refine (stamps_iff plainPayload (bytesOf "v1") (by decide)).mpr ⟨fun ms hc hd => ?_, fun ms hc hd => ?_, fun h => ?_⟩
  · obtain rfl := hc.unique ⟨_, hdoc⟩
    exact absurd hd (by decide +kernel)
  · obtain rfl := hc.unique ⟨_, hdoc⟩
    exact ⟨by rw [Shallow, hdoc]; rfl, by decide +kernel⟩
  · exact absurd ⟨_, hdoc⟩ (h _)

/-- The field is there, and is put in front of itself. -/
theorem numbered_stamped_twice : ¬ Stamps numberedPayload (bytesOf "v1") := by
  intro h
  have hdoc : document (maxNestingDepth - 1) numberedPayload = some [(schemaVersionField, bytesOf "1")] := by
    decide +kernel
  have hstamp := h.present _ ⟨_, hdoc⟩ ⟨_, List.mem_singleton_self _, rfl⟩
  exact absurd hstamp (by decide +kernel)

end Stamps

/-! ### The publisher -/

section Published

variable {data s : Bytes}

/-- The functions of the schema package that the publisher is written with. -/
def json : Json where
  peekVersion := peekVersion
  members data :=
    match skipSpace data with
    | [] => .ok []
    | _ :: s =>
      match stream s with
      | .error err => .error err.text
      | .ok (ms, _) => .ok (ms.flatMap renderMember)

/-- The byte of a brace belongs to no other character. -/
lemma eq_brace_of_mem {c : Char} (h : 0x7B ∈ String.utf8EncodeChar c) : c = Char.ofNat 0x7B := by
  have hbyte : ∀ {n : ℕ}, (0x7B : UInt8) = .ofNat n → n % 256 = 0x7B := by
    intro n hn
    have := congrArg UInt8.toNat hn
    rw [UInt8.toNat_ofNat'] at this
    exact this.symm
  have hval : c.toNat = 0x7B := by
    simp only [String.utf8EncodeChar] at h
    split_ifs at h with h1 h2 h3 <;> simp only [List.mem_cons, List.not_mem_nil, or_false] at h
    · have := hbyte h
      have hc : c.toNat = c.val.toNat := rfl
      omega
    · rcases h with h | h <;> have := hbyte h <;> omega
    · rcases h with h | h | h <;> have := hbyte h <;> omega
    · rcases h with h | h | h | h <;> have := hbyte h <;> omega
  rw [← hval, Char.ofNat_toNat]

lemma isBlank_of_brace (h : 0x7B ∈ data) : isBlank data = false := by
  by_contra hblank
  rw [Bool.not_eq_false] at hblank
  unfold isBlank String.fromUTF8? at hblank
  split_ifs at hblank with hvalid
  · rw [Option.any_some, List.all_eq_true] at hblank
    -- the payload is the encoding of its characters, and one of them has the brace
    have hdata : data = (String.fromUTF8 ⟨data.toArray⟩ hvalid).toList.flatMap String.utf8EncodeChar :=
      bytesOf_eq_flatMap (String.fromUTF8 ⟨data.toArray⟩ hvalid)
    rw [hdata] at h
    obtain ⟨c, hc, hmem⟩ := List.mem_flatMap.mp h
    have hspace := hblank c hc
    rw [eq_brace_of_mem hmem] at hspace
    exact absurd hspace (by decide)
  · cases hblank

/-- **The publisher stamps the payloads that open an object in the same way.** -/
theorem json_stamp (h : skipSpace data = 0x7B :: s) :
    (json.stamp data).toOption.getD data = (stamp data (bytesOf schemaVersionV1)).1 := by
  have hblank : isBlank data = false := isBlank_of_brace (brace_mem h)
  have hhead : (data.dropWhile fun b => b ∈ ([0x20, 0x09, 0x0D, 0x0A] : Bytes)).head? = some 0x7B := by
    rw [show (data.dropWhile fun b => b ∈ ([0x20, 0x09, 0x0D, 0x0A] : Bytes)) = 0x7B :: s from h]
    rfl
  have hopening : bytesOf "\x7b\"schema_version\":\"v1\"" =
      0x7B :: (bytesOf ("\"" ++ schemaVersionField ++ "\"") ++ 0x3A :: marshalString (bytesOf schemaVersionV1)) := by
    decide +kernel
  have hmembers : json.members data =
      match stream s with
      | .error err => .error err.text
      | .ok (ms, _) => .ok (ms.flatMap renderMember) := by
    simp only [json, h]
  rw [stamp_object (by decide) h, Json.stamp]
  simp only [hblank, hhead, hmembers]
  by_cases hpeek : peekVersion data = ""
  · have hpeek' : json.peekVersion data = "" := hpeek
    have hclosing : bytesOf "\x7d" = [0x7D] := by decide
    simp only [hpeek, hpeek']
    cases stream s with
    | error err => rfl
    | ok x => simp [Except.toOption, render, hopening, hclosing]
  · have hpeek' : json.peekVersion data ≠ "" := hpeek
    simp [hpeek, hpeek', Except.toOption]

end Published

end Sn360Es.Events.Schema
