import Sn360Es.Privacy.Sanitizer

/-!
# What the log sanitiser lets through

`slog` values are trees: strings, numbers and times, any other value, values that say later what to log (`LogValuer`)
and groups. The sanitiser walks the tree a record or a `WithAttrs` call carries and hands the result to the text or JSON
handler, which resolves what is left and renders everything: keys, group names and values. `logged` is the list of the
strings it renders, before they are quoted.

The sanitiser masks strings and elides subject keys; keys, group names, other values and what a `LogValuer` resolves to
go through as they are. `Contained` says of a chain of calls and a record that none of these holds an address and that
no masked string is chained.

* `appendAttr_sanitised_iff` — one attribute, along its tree;
* `logged_iff` — a chain of `WithAttrs` and `WithGroup` calls and a record.
-/

namespace Sn360Es.Middleware

open Sn360Es.Privacy

/-! ### `slog` -/

/-- The two handlers the log is set up with. -/
inductive HandlerKind
  | text
  | json
deriving DecidableEq

/-- A boolean, number, duration or time: no text of one holds an at sign. -/
structure Scalar where
  text : HandlerKind → String
  plain : ∀ kind, '@' ∉ (text kind).toList

mutual

/-- `slog.Value`. An error or another value is its text under each handler, a `LogValuer` the value it resolves to. -/
inductive Value
  | string (s : String)
  | scalar (x : Scalar)
  | any (text : HandlerKind → String)
  | logValuer (resolved : Value)
  | group (attrs : Attrs)

/-- `[]slog.Attr`. The empty attribute, which the handlers skip, does not occur. -/
inductive Attrs
  | nil
  | cons (key : String) (value : Value) (rest : Attrs)

end

def Attrs.isEmpty : Attrs → Bool
  | .nil => true
  | .cons .. => false

def Value.isEmptyGroup : Value → Bool
  | .group as => as.isEmpty
  | _ => false

/-- Both `GroupValue` and `Record.AddAttrs` leave out empty groups. -/
def Attrs.dropEmptyGroups : Attrs → Attrs
  | .nil => .nil
  | .cons key v rest => if v.isEmptyGroup then rest.dropEmptyGroups else .cons key v rest.dropEmptyGroups

def groupValue (as : Attrs) : Value := .group as.dropEmptyGroups

/-- The text handler renders the path of groups and the key as one string, the JSON handler nests objects. -/
def label (kind : HandlerKind) (path : List String) (key : String) : String :=
  match kind with
  | .text => String.join (path.map (· ++ ".")) ++ key
  | .json => key

/-- The group names that are rendered as strings of their own. -/
def openGroups (kind : HandlerKind) (names : List String) : List String :=
  match kind with
  | .text => []
  | .json => names

/-- A group without a key is inlined. -/
def inner (key : String) : List String := if key = "" then [] else [key]

mutual

/-- The strings the handler renders for one attribute. -/
def appendAttr (kind : HandlerKind) (path : List String) (key : String) : Value → List String
  | .string s => [label kind path key, s]
  | .scalar x => [label kind path key, x.text kind]
  | .any text => [label kind path key, text kind]
  | .logValuer v => appendAttr kind path key v
  | .group as =>
    if as.isEmpty then [] else openGroups kind (inner key) ++ appendAttrs kind (path ++ inner key) as

def appendAttrs (kind : HandlerKind) (path : List String) : Attrs → List String
  | .nil => []
  | .cons key v rest => appendAttr kind path key v ++ appendAttrs kind path rest

end

/-- The text or JSON handler: the groups that are open, those named since, and what `WithAttrs` has rendered. -/
structure Handler where
  kind : HandlerKind
  opened : List String
  pending : List String
  preformatted : List String

structure Record where
  time : Option Scalar
  level : Scalar
  message : String
  attrs : Attrs

namespace Handler

def new (kind : HandlerKind) : Handler := ⟨kind, [], [], []⟩

def path (h : Handler) : List String := h.opened ++ h.pending

/-- Attributes under the groups named so far; without any, no group is opened. -/
def format (h : Handler) (as : Attrs) : List String :=
  if as.dropEmptyGroups.isEmpty then [] else openGroups h.kind h.pending ++ appendAttrs h.kind h.path as

def withAttrs (h : Handler) (as : Attrs) : Handler :=
  if as.dropEmptyGroups.isEmpty then h
  else { h with opened := h.path, pending := [], preformatted := h.preformatted ++ h.format as }

def withGroup (h : Handler) (name : String) : Handler := { h with pending := h.pending ++ [name] }

def builtIns (h : Handler) (r : Record) : List String :=
  (match r.time with
    | some t => ["time", t.text h.kind]
    | none => []) ++ ["level", r.level.text h.kind, "msg", r.message]

def handle (h : Handler) (r : Record) : List String := h.builtIns r ++ h.preformatted ++ h.format r.attrs

end Handler

/-! ### The sanitiser -/

mutual

/-- `sanitiseAttr`: the key is kept, this is the value. -/
def sanitiseAttr (key : String) (v : Value) : Value :=
  if isSubjectKey key then .string "***"
  else
    match v with
    | .string s => .string (maskEmails s)
    | .group as => groupValue (sanitiseAttrs as)
    | .scalar x => .scalar x
    | .any text => .any text
    | .logValuer v => .logValuer v

def sanitiseAttrs : Attrs → Attrs
  | .nil => .nil
  | .cons key v rest => .cons key (sanitiseAttr key v) (sanitiseAttrs rest)

end

structure LogSanitizer where
  next : Handler

namespace LogSanitizer

def handle (l : LogSanitizer) (r : Record) : List String :=
  l.next.handle { r with message := maskEmails r.message, attrs := (sanitiseAttrs r.attrs).dropEmptyGroups }

def withAttrs (l : LogSanitizer) (as : Attrs) : LogSanitizer := ⟨l.next.withAttrs (sanitiseAttrs as)⟩

def withGroup (l : LogSanitizer) (name : String) : LogSanitizer := ⟨l.next.withGroup name⟩

end LogSanitizer

/-- A call that derives one logger from another. -/
inductive With
  | attrs (as : Attrs)
  | group (name : String)

def LogSanitizer.derive (l : LogSanitizer) : With → LogSanitizer
  | .attrs as => l.withAttrs as
  | .group name => l.withGroup name

/-- What the handler renders of a record, after a chain of derived loggers. -/
def logged (kind : HandlerKind) (chain : List With) (r : Record) : List String :=
  (chain.foldl LogSanitizer.derive ⟨Handler.new kind⟩).handle r

/-! ### What goes through -/

mutual

/-- A group that holds no attribute but such groups, none under a subject key. -/
def Value.vanishes (key : String) (v : Value) : Bool :=
  !isSubjectKey key &&
    match v with
    | .group as => as.vanish
    | .string _ | .scalar _ | .any _ | .logValuer _ => false

def Attrs.vanish : Attrs → Bool
  | .nil => true
  | .cons key v rest => v.vanishes key && rest.vanish

end

def Clean (s : String) : Prop := ¬ HasAddress s.toList

mutual

/-- Of an attribute: its label, the texts that are not masked, and the names of the groups in it hold no address, and no
string that is masked is chained. -/
def Value.Contained (kind : HandlerKind) (path : List String) (key : String) (v : Value) : Prop :=
  if isSubjectKey key then Clean (label kind path key)
  else
    match v with
    | .string s => Clean (label kind path key) ∧ ¬ Chained s.toList
    | .scalar _ => Clean (label kind path key)
    | .any text => Clean (label kind path key) ∧ Clean (text kind)
    | .logValuer v => ∀ t ∈ appendAttr kind path key v, Clean t
    | .group as =>
      (as.vanish = false → ∀ n ∈ openGroups kind (inner key), Clean n) ∧ as.Contained kind (path ++ inner key)

def Attrs.Contained (kind : HandlerKind) (path : List String) : Attrs → Prop
  | .nil => True
  | .cons key v rest => v.Contained kind path key ∧ rest.Contained kind path

end

/-- Attributes under groups of which the last ones are not open yet. -/
def PartContained (kind : HandlerKind) (opened pending : List String) (as : Attrs) : Prop :=
  as.vanish = false → (∀ n ∈ openGroups kind pending, Clean n) ∧ as.Contained kind (opened ++ pending)

/-- Of a chain of calls and the record logged at its end. -/
def Contained (kind : HandlerKind) (r : Record) (opened pending : List String) : List With → Prop
  | [] => ¬ Chained r.message.toList ∧ PartContained kind opened pending r.attrs
  | .attrs as :: chain =>
    PartContained kind opened pending as ∧
      if as.vanish then Contained kind r opened pending chain else Contained kind r (opened ++ pending) [] chain
  | .group name :: chain => Contained kind r opened (pending ++ [name]) chain

/-! ### One attribute -/

lemma clean_of_notMem {s : String} (h : '@' ∉ s.toList) : Clean s := by
  rintro ⟨w, ⟨l, d, rfl, -, -, -⟩, hin⟩
  have hw : '@' ∈ l ++ '@' :: d := by simp
  exact h (hin.subset hw)

lemma Scalar.clean (x : Scalar) (kind : HandlerKind) : Clean (x.text kind) := clean_of_notMem (x.plain kind)

lemma clean_elided : Clean "***" := clean_of_notMem (by simp)

lemma clean_maskEmails (s : String) : Clean (maskEmails s) ↔ ¬ Chained s.toList := by
  rw [Clean, maskEmails_toList, hasAddress_mask_iff]

/-- Empty groups render nothing. -/
lemma appendAttrs_dropEmptyGroups (kind : HandlerKind) (path : List String) :
    ∀ as : Attrs, appendAttrs kind path as.dropEmptyGroups = appendAttrs kind path as
  | .nil => rfl
  | .cons key v rest => by
    have ih := appendAttrs_dropEmptyGroups kind path rest
    rw [Attrs.dropEmptyGroups]
    split
    · next hv =>
      have hnone : appendAttr kind path key v = [] := by
        cases v with
        | group as => simp only [appendAttr, show as.isEmpty = true from hv, if_true]
        | string _ | scalar _ | any _ | logValuer _ => simp [Value.isEmptyGroup] at hv
      rw [ih, appendAttrs, hnone, List.nil_append]
    · rw [appendAttrs, appendAttrs, ih]

lemma appendAttrs_of_isEmpty {kind : HandlerKind} {path : List String} {as : Attrs}
    (h : as.dropEmptyGroups.isEmpty = true) : appendAttrs kind path as = [] := by
  rw [← appendAttrs_dropEmptyGroups]
  cases hd : as.dropEmptyGroups with
  | nil => rfl
  | cons key v rest => simp [hd, Attrs.isEmpty] at h

lemma appendAttr_groupValue (kind : HandlerKind) (path : List String) (key : String) (as : Attrs) :
    appendAttr kind path key (groupValue as) =
      if as.dropEmptyGroups.isEmpty then []
      else openGroups kind (inner key) ++ appendAttrs kind (path ++ inner key) as := by
  rw [groupValue, appendAttr, appendAttrs_dropEmptyGroups]

mutual

/-- The sanitiser makes an empty group of exactly the attributes that vanish. -/
lemma isEmptyGroup_sanitiseAttr (key : String) (v : Value) : (sanitiseAttr key v).isEmptyGroup = v.vanishes key := by
  cases hk : isSubjectKey key with
  | true => cases v <;> simp [sanitiseAttr, Value.vanishes, hk, Value.isEmptyGroup]
  | false =>
    cases v with
    | group as =>
      have ih := isEmpty_sanitiseAttrs as
      simpa [sanitiseAttr, Value.vanishes, hk, Value.isEmptyGroup, groupValue] using ih
    | string _ | scalar _ | any _ | logValuer _ => simp [sanitiseAttr, Value.vanishes, hk, Value.isEmptyGroup]

lemma isEmpty_sanitiseAttrs : ∀ as : Attrs, (sanitiseAttrs as).dropEmptyGroups.isEmpty = as.vanish
  | .nil => rfl
  | .cons key v rest => by
    have hv := isEmptyGroup_sanitiseAttr key v
    have ih := isEmpty_sanitiseAttrs rest
    rw [sanitiseAttrs, Attrs.dropEmptyGroups, Attrs.vanish, hv]
    cases v.vanishes key with
    | true => simpa using ih
    | false => rfl

end

mutual

/-- What the handler renders of a sanitised attribute holds no address exactly if the attribute is contained. -/
theorem appendAttr_sanitised_iff (kind : HandlerKind) (path : List String) (key : String) (v : Value) :
    (∀ t ∈ appendAttr kind path key (sanitiseAttr key v), Clean t) ↔ v.Contained kind path key := by
  cases hk : isSubjectKey key with
  | true => cases v <;> simp [sanitiseAttr, Value.Contained, hk, appendAttr, clean_elided]
  | false =>
    cases v with
    | string s => simp [sanitiseAttr, Value.Contained, hk, appendAttr, clean_maskEmails]
    | scalar x => simp [sanitiseAttr, Value.Contained, hk, appendAttr, x.clean kind]
    | any text => simp [sanitiseAttr, Value.Contained, hk, appendAttr]
    | logValuer v => simp [sanitiseAttr, Value.Contained, hk, appendAttr]
    | group as =>
      have ih := appendAttrs_sanitised_iff kind (path ++ inner key) as
      have hempty := isEmpty_sanitiseAttrs as
      have hgroup : sanitiseAttr key (.group as) = groupValue (sanitiseAttrs as) := by simp [sanitiseAttr, hk]
      rw [hgroup, appendAttr_groupValue, hempty, Value.Contained, hk, ← ih]
      cases hv : as.vanish with
      | true => simp [appendAttrs_of_isEmpty (hempty.trans hv)]
      | false => simp [or_imp, forall_and]

theorem appendAttrs_sanitised_iff (kind : HandlerKind) (path : List String) :
    ∀ as : Attrs, (∀ t ∈ appendAttrs kind path (sanitiseAttrs as), Clean t) ↔ as.Contained kind path
  | .nil => by simp [sanitiseAttrs, appendAttrs, Attrs.Contained]
  | .cons key v rest => by
    have hv := appendAttr_sanitised_iff kind path key v
    have ih := appendAttrs_sanitised_iff kind path rest
    rw [sanitiseAttrs, appendAttrs, List.forall_mem_append, hv, ih, Attrs.Contained]

end

/-! ### A chain of loggers -/

lemma dropEmptyGroups_idem : ∀ as : Attrs, as.dropEmptyGroups.dropEmptyGroups = as.dropEmptyGroups
  | .nil => rfl
  | .cons key v rest => by
    have ih := dropEmptyGroups_idem rest
    cases hv : v.isEmptyGroup <;> simp [Attrs.dropEmptyGroups, hv, ih]

namespace Handler

variable (h : Handler)

lemma format_dropEmptyGroups (as : Attrs) : h.format as.dropEmptyGroups = h.format as := by
  rw [format, format, dropEmptyGroups_idem, appendAttrs_dropEmptyGroups]

/-- The attributes of one call. -/
lemma format_sanitised_iff (as : Attrs) :
    (∀ t ∈ h.format (sanitiseAttrs as), Clean t) ↔ PartContained h.kind h.opened h.pending as := by
  have hattrs := appendAttrs_sanitised_iff h.kind h.path as
  rw [format, isEmpty_sanitiseAttrs]
  cases hv : as.vanish with
  | true => simp [PartContained, hv]
  | false =>
    rw [if_neg (by simp), List.forall_mem_append, hattrs]
    simp [PartContained, hv, path]

lemma builtIns_clean_iff (r : Record) : (∀ t ∈ h.builtIns r, Clean t) ↔ Clean r.message := by
  have htime : Clean "time" := clean_of_notMem (by simp)
  have hlevel : Clean "level" := clean_of_notMem (by simp)
  have hmsg : Clean "msg" := clean_of_notMem (by simp)
  cases ht : r.time with
  | none => simp [builtIns, ht, hlevel, hmsg, r.level.clean]
  | some t => simp [builtIns, ht, htime, hlevel, hmsg, r.level.clean, t.clean]

end Handler

/-- The run: what a chain of calls has rendered so far is clean, and what is to come is contained. -/
lemma handle_derived_iff (r : Record) (chain : List With) (h : Handler) :
    (∀ t ∈ (chain.foldl LogSanitizer.derive ⟨h⟩).handle r, Clean t) ↔
      (∀ t ∈ h.preformatted, Clean t) ∧ Contained h.kind r h.opened h.pending chain := by
  induction chain generalizing h with
  | nil =>
    show (∀ t ∈ h.handle _, Clean t) ↔ _
    rw [Handler.handle, List.forall_mem_append, List.forall_mem_append, h.builtIns_clean_iff,
      h.format_dropEmptyGroups, h.format_sanitised_iff, clean_maskEmails, Contained]
    tauto
  | cons call chain ih =>
    cases call with
    | group name => exact ih (h.withGroup name)
    | attrs as =>
      have hfold := ih (h.withAttrs (sanitiseAttrs as))
      have hempty := isEmpty_sanitiseAttrs as
      show (∀ t ∈ (chain.foldl LogSanitizer.derive ⟨h.withAttrs (sanitiseAttrs as)⟩).handle r, Clean t) ↔ _
      rw [hfold, Handler.withAttrs, hempty, Contained]
      cases hv : as.vanish with
      | true => simp [PartContained, hv]
      | false =>
        have hformat := h.format_sanitised_iff as
        simp only [Bool.false_eq_true, if_false, List.forall_mem_append, hformat]
        rw [and_assoc]
        rfl

lemma logged_iff (kind : HandlerKind) (chain : List With) (r : Record) :
    (∀ t ∈ logged kind chain r, Clean t) ↔ Contained kind r [] [] chain := by
  rw [logged, handle_derived_iff]
  simp [Handler.new]

/-- No address reaches the log exactly if no key, group name, other value or `LogValuer` carries one and no masked
string is chained; and masking twice is masking once exactly on the strings that are not chained. -/
theorem log_holds_no_address_iff (kind : HandlerKind) (chain : List With) (r : Record) (s : String) :
    ((∀ t ∈ logged kind chain r, ¬ HasAddress t.toList) ↔ Contained kind r [] [] chain) ∧
      (maskEmails (maskEmails s) = maskEmails s ↔ ¬ Chained s.toList) :=
  ⟨logged_iff kind chain r, maskEmails_idem_iff s⟩

namespace Sample

def level : Scalar := ⟨fun _ => "WARN", by simp⟩

/-- `logger.Warn("send failed", slog.Any("error", err))`, with an error that names the mailbox. -/
def sendFailed : Record :=
  ⟨none, level, "send failed", .cons "error" (.any fun _ => "no such mailbox: alice@example.com") .nil⟩

end Sample

open Sample in
/-- An error's text is rendered with the address in it, and masking a masked string may change it. -/
theorem error_text_reaches_log :
    (∃ t ∈ logged .json [] sendFailed, HasAddress t.toList) ∧
      maskEmails (maskEmails "a@b.com@c.com") ≠ maskEmails "a@b.com@c.com" := by
  constructor
  · refine ⟨"no such mailbox: alice@example.com", by decide, found_iff_hasAddress.mp ?_⟩
    exact ⟨"alice@example.com".toList, ⟨"no such mailbox: ".toList, rfl⟩, rfl⟩
  · decide

end Sn360Es.Middleware
