import Mathlib.Data.List.TakeWhile
import Sn360Es.Lib.Utf8

/-!
# The text of JSON (`encoding/json`)

What the scanner of the package accepts, byte by byte. A scanner takes what it reads off the front of a text; the
values are bounded in their nesting, as there.

* `literal` — a string, with its escapes decoded; `value` — a value, as its bytes;
* `items` — the items of an object or an array, up to a bracket or the end of the text;
* `Reads f g` — what `f` takes off a text, `g` takes off every other text that goes on in the same way;
* `reads_value` — a value is read wherever it stands, and with every larger bound;
* `items_eq_some_iff`, `Run` — the items that are read, one by one;
* `document_eq_some_iff` — a whole object.
-/

namespace Lib.JsonText

open Utf8

/-- A scanner: what it reads, and the rest of the text. -/
abbrev Scan (α : Type*) := Bytes → Option (α × Bytes)

/-! ### Tokens -/

/-- The white space between tokens. -/
def isSpace (b : UInt8) : Bool := b ∈ ([0x20, 0x09, 0x0D, 0x0A] : Bytes)

def skipSpace (s : Bytes) : Bytes := s.dropWhile isSpace

def hexValue (b : UInt8) : Option ℕ :=
  if within 0x30 0x39 b then some (b.toNat - 0x30)
  else if within 0x61 0x66 b then some (b.toNat - 0x61 + 10)
  else if within 0x41 0x46 b then some (b.toNat - 0x41 + 10)
  else none

/-- Four hexadecimal digits. -/
def hex4 : Bytes → Option ℕ
  | [a, b, c, d] =>
    (hexValue a).bind fun a => (hexValue b).bind fun b => (hexValue c).bind fun c => (hexValue d).map fun d =>
      a * 4096 + b * 256 + c * 16 + d
  | _ => none

/-- `getu4`: the number of an escape `\uXXXX`. -/
def getu4 (s : Bytes) : Option ℕ := if s.take 2 = [0x5C, 0x75] then hex4 ((s.drop 2).take 4) else none

/-- `utf16.DecodeRune`. -/
def decodeSurrogates (hi lo : ℕ) : Option ℕ :=
  if 0xD800 ≤ hi ∧ hi < 0xDC00 ∧ 0xDC00 ≤ lo ∧ lo < 0xE000 then
    some ((hi - 0xD800) * 1024 + (lo - 0xDC00) + 0x10000)
  else none

/-- The rune of an escape `\uXXXX` and its width: half of a pair alone is `U+FFFD`. -/
def unicodeAt (s : Bytes) : Option (ℕ × ℕ) :=
  (getu4 s).map fun r =>
    if 0xD800 ≤ r ∧ r < 0xE000 then
      match (getu4 (s.drop 6)).bind (decodeSurrogates r) with
      | some pair => (pair, 12)
      | none => (runeError, 6)
    else (r, 6)

/-- The escapes of one letter. -/
def escapes : List (UInt8 × ℕ) :=
  [(0x22, 0x22), (0x5C, 0x5C), (0x2F, 0x2F), (0x62, 0x08), (0x66, 0x0C), (0x6E, 0x0A), (0x72, 0x0D), (0x74, 0x09)]

/-- The next rune of a string that has not ended, and its width. -/
def runeAt : Bytes → Option (ℕ × ℕ)
  | [] => none
  | b :: s =>
    if b = 0x5C then
      if s.head? = some 0x75 then unicodeAt (b :: s) else (s.head?.bind fun e => escapes.lookup e).map fun r => (r, 2)
    else if b.toNat < 0x20 then none
    else some (decodeRune (b :: s))

/-- A string after its first quote; the next `skip` bytes belong to a rune that was read. -/
def literalFrom : ℕ → Scan (List Char)
  | _, [] => none
  | skip + 1, _ :: s => literalFrom skip s
  | 0, b :: s =>
    if b = 0x22 then some ([], s)
    else
      match runeAt (b :: s) with
      | none => none
      | some (r, width) => (literalFrom (width - 1) s).map fun x => (Char.ofNat r :: x.1, x.2)

/-- Where a number stands. -/
inductive NumState where
  | start
  | neg
  | zero
  | int
  | dot
  | frac
  | exp
  | sign
  | power
  deriving DecidableEq

def isDigit (b : UInt8) : Bool := within 0x30 0x39 b

/-- The states of the scanner in a number. -/
def NumState.step : NumState → UInt8 → Option NumState
  | start, b => if b = 0x2D then some neg else if b = 0x30 then some zero else if isDigit b then some int else none
  | neg, b => if b = 0x30 then some zero else if isDigit b then some int else none
  | zero, b => if b = 0x2E then some dot else if b = 0x65 ∨ b = 0x45 then some exp else none
  | int, b =>
    if isDigit b then some int else if b = 0x2E then some dot else if b = 0x65 ∨ b = 0x45 then some exp else none
  | dot, b => if isDigit b then some frac else none
  | frac, b => if isDigit b then some frac else if b = 0x65 ∨ b = 0x45 then some exp else none
  | exp, b => if b = 0x2B ∨ b = 0x2D then some sign else if isDigit b then some power else none
  | sign, b => if isDigit b then some power else none
  | power, b => if isDigit b then some power else none

/-- A number may end here. -/
def NumState.final (st : NumState) : Bool := st ∈ [zero, int, frac, power]

/-- A number, as far as it goes. -/
def numberFrom : NumState → Scan Unit
  | st, [] => if st.final then some ((), []) else none
  | st, b :: s =>
    match st.step b with
    | some st' => numberFrom st' s
    | none => if st.final then some ((), b :: s) else none

/-! ### Scanners -/

section Combinators

variable {α β : Type*}

def byte (c : UInt8) : Scan Unit
  | [] => none
  | b :: s => if b = c then some ((), s) else none

def word (w : Bytes) : Scan Unit := fun s => if w <+: s then some ((), s.drop w.length) else none

def andThen (f : Scan α) (g : α → Scan β) : Scan β := fun s => (f s).bind fun x => g x.1 x.2

def mapScan (k : α → β) (f : Scan α) : Scan β := fun s => (f s).map fun x => (k x.1, x.2)

/-- After white space. -/
def spaced (f : Scan α) : Scan α := fun s => f (skipSpace s)

/-- One scanner or the other, by the first byte. -/
def onHead (c : UInt8) (f g : Scan α) : Scan α := fun s => if s.head? = some c then f s else g s

/-- The bytes that were read. -/
def raw (f : Scan α) : Scan Bytes := fun s => (f s).map fun x => (s.take (s.length - x.2.length), x.2)

/-- An item, after a comma if it is not the first one. -/
def next (item : Scan α) : Bool → Scan α
  | true => item
  | false => andThen (byte 0x2C) fun _ => spaced item

/-- Where the items of an object or an array end. -/
def isClosing (b : UInt8) : Bool := b = 0x5D ∨ b = 0x7D

/-- The items up to a bracket or the end of the text; the next `skip` bytes belong to one that was read. -/
def itemsFrom (item : Scan α) : ℕ → Bool → Scan (List α)
  | _, _, [] => some ([], [])
  | skip + 1, first, _ :: s => itemsFrom item skip first s
  | 0, first, b :: s =>
    if isSpace b then itemsFrom item 0 first s
    else if isClosing b then some ([], b :: s)
    else
      match next item first (b :: s) with
      | none => none
      | some (a, rest) => (itemsFrom item (s.length - rest.length) false s).map fun x => (a :: x.1, x.2)

def items (item : Scan α) (first : Bool) : Scan (List α) := itemsFrom item 0 first

/-- The items up to the bracket `c`. -/
def closed (c : UInt8) (item : Scan α) : Scan (List α) := fun s =>
  match items item true s with
  | some (as, b :: rest) => if b = c then some (as, rest) else none
  | _ => none

end Combinators

/-! ### Values -/

/-- A string. -/
def literal : Scan String := mapScan String.ofList (andThen (byte 0x22) fun _ => literalFrom 0)

/-- A member of an object: its name, decoded, and the bytes of its value. -/
abbrev Member := String × Bytes

def member (value : Scan Bytes) : Scan Member :=
  andThen literal fun key => andThen (spaced (byte 0x3A)) fun _ => mapScan (Prod.mk key) (spaced value)

def scalar : Scan Unit :=
  onHead 0x22 (mapScan (fun _ => ()) literal) <| onHead 0x74 (word (bytesOf "true")) <|
    onHead 0x66 (word (bytesOf "false")) <| onHead 0x6E (word (bytesOf "null")) (numberFrom .start)

/-- An object or an array of the values of `f`, or a value without brackets. -/
def nest (f : Scan Unit) : Scan Unit :=
  onHead 0x7B (andThen (byte 0x7B) fun _ => mapScan (fun _ => ()) (closed 0x7D (member (raw f)))) <|
    onHead 0x5B (andThen (byte 0x5B) fun _ => mapScan (fun _ => ()) (closed 0x5D (raw f))) scalar

/-- The text of a value whose nesting is at most `limit`. -/
def shape : (limit : ℕ) → Scan Unit
  | 0 => onHead 0x7B (fun _ => none) (onHead 0x5B (fun _ => none) scalar)
  | limit + 1 => nest (shape limit)

def value (limit : ℕ) : Scan Bytes := raw (shape limit)

/-- The members of an object that is the whole text. -/
def document (limit : ℕ) (s : Bytes) : Option (List Member) :=
  match andThen (byte 0x7B) (fun _ => closed 0x7D (member (value limit))) (skipSpace s) with
  | some (ms, rest) => if rest.all isSpace then some ms else none
  | none => none

/-! ### Reading in another text -/

/-- A byte that may go on with a number. -/
def isNumeric (b : UInt8) : Bool := isDigit b || b ∈ ([0x2B, 0x2D, 0x2E, 0x45, 0x65] : Bytes)

/-- A text that no number goes on with. -/
def Stops (s : Bytes) : Prop := ∀ b, s.head? = some b → isNumeric b = false

/-- The text `r'` ends a number where `r` does. -/
def Follows (r r' : Bytes) : Prop := r'.head? = r.head? ∨ Stops r'

lemma stops_nil : Stops [] := fun _ h => by cases h

lemma stops_cons {b : UInt8} (s : Bytes) (hb : isNumeric b = false) : Stops (b :: s) := fun _ h => by
  cases h
  exact hb

lemma Follows.refl (r : Bytes) : Follows r r := Or.inl rfl

lemma follows_append {p : Bytes} (hp : p ≠ []) (r r' : Bytes) : Follows (p ++ r) (p ++ r') := by
  obtain ⟨b, p, rfl⟩ := List.exists_cons_of_ne_nil hp
  exact Or.inl rfl

section Reads

variable {α β : Type*}

/-- **What `f` takes off a text, `g` takes off every text that goes on like it.** -/
def Reads (f g : Scan α) : Prop :=
  ∀ ⦃s a r⦄, f s = some (a, r) → ∃ p, p ≠ [] ∧ s = p ++ r ∧ ∀ r', Follows r r' → g (p ++ r') = some (a, r')

variable {f f' : Scan α} {g g' : α → Scan β} {h h' : Scan α}

lemma andThen_of_some {s t : Bytes} {a : α} (h : f s = some (a, t)) : andThen f g s = g a t := by
  unfold andThen
  rw [h]
  rfl

lemma andThen_eq_some {s r : Bytes} {b : β} (h : andThen f g s = some (b, r)) :
    ∃ a t, f s = some (a, t) ∧ g a t = some (b, r) := by
  obtain ⟨⟨a, t⟩, hf, hg⟩ := Option.bind_eq_some_iff.mp h
  exact ⟨a, t, hf, hg⟩

/-- On the same text. -/
lemma Reads.self (hf : Reads f f') {s r : Bytes} {a : α} (h : f s = some (a, r)) : f' s = some (a, r) := by
  obtain ⟨p, -, rfl, hp⟩ := hf h
  exact hp r (.refl r)

lemma reads_none (g : Scan α) : Reads (fun _ => none) g := fun _ _ _ h => by cases h

lemma reads_byte (c : UInt8) : Reads (byte c) (byte c) := by
  intro s a r h
  cases s with
  | nil => cases h
  | cons b s =>
    simp only [byte] at h
    split_ifs at h with hb
    cases h
    exact ⟨[b], by simp, rfl, fun r' _ => if_pos hb⟩

lemma reads_word {w : Bytes} (hw : w ≠ []) : Reads (word w) (word w) := by
  intro s a r h
  unfold word at h
  split_ifs at h with hs
  obtain ⟨t, rfl⟩ := hs
  rw [List.drop_left] at h
  cases h
  refine ⟨w, hw, rfl, fun r' _ => ?_⟩
  unfold word
  rw [if_pos (List.prefix_append w r'), List.drop_left]

lemma reads_andThen (hf : Reads f f') (hg : ∀ a, Reads (g a) (g' a)) : Reads (andThen f g) (andThen f' g') := by
  intro s b r h
  obtain ⟨a, t, hft, hgt⟩ := andThen_eq_some h
  obtain ⟨p, hp, rfl, hread⟩ := hf hft
  obtain ⟨q, hq, rfl, hread'⟩ := hg a hgt
  refine ⟨p ++ q, by simp [hp], (List.append_assoc p q r).symm, fun r' hr' => ?_⟩
  rw [List.append_assoc, andThen_of_some (hread _ (follows_append hq r r'))]
  exact hread' r' hr'

lemma reads_mapScan (hf : Reads f f') (k : α → β) : Reads (mapScan k f) (mapScan k f') := by
  intro s b r h
  obtain ⟨⟨a, t⟩, hft, heq⟩ := Option.map_eq_some_iff.mp h
  cases heq
  obtain ⟨p, hp, rfl, hread⟩ := hf hft
  refine ⟨p, hp, rfl, fun r' hr' => ?_⟩
  unfold mapScan
  rw [hread r' hr', Option.map_some]

/-- White space is skipped up to the same place. -/
lemma skipSpace_swap {s p r : Bytes} (hp : p ≠ []) (h : skipSpace s = p ++ r) :
    ∃ w, s = w ++ (p ++ r) ∧ ∀ r', skipSpace (w ++ (p ++ r')) = p ++ r' := by
  obtain ⟨b, p, rfl⟩ := List.exists_cons_of_ne_nil hp
  refine ⟨s.takeWhile isSpace, ?_, fun r' => ?_⟩
  · rw [← h]
    exact (List.takeWhile_append_dropWhile).symm
  · have hb : isSpace b = false := by
      have := List.head?_dropWhile_not isSpace s
      rw [show s.dropWhile isSpace = _ from h] at this
      simpa using this
    have hw : ∀ x ∈ s.takeWhile isSpace, isSpace x = true := fun x hx => List.mem_takeWhile_imp hx
    unfold skipSpace
    rw [List.dropWhile_append_of_pos hw, List.cons_append, List.dropWhile_cons_of_neg (by simp [hb])]

lemma reads_spaced (hf : Reads f f') : Reads (spaced f) (spaced f') := by
  intro s a r h
  obtain ⟨p, hp, hs, hread⟩ := hf h
  obtain ⟨w, rfl, hw⟩ := skipSpace_swap hp hs
  refine ⟨w ++ p, by simp [hp], (List.append_assoc w p r).symm, fun r' hr' => ?_⟩
  unfold spaced
  rw [List.append_assoc, hw r']
  exact hread r' hr'

lemma reads_onHead {c : UInt8} (hf : Reads f f') (hh : Reads h h') : Reads (onHead c f h) (onHead c f' h') := by
  intro s a r hs
  unfold onHead at hs
  have key : ∀ {k k' : Scan α}, Reads k k' → k s = some (a, r) → (∀ t, t.head? = s.head? → onHead c f' h' t = k' t) →
      ∃ p, p ≠ [] ∧ s = p ++ r ∧ ∀ r', Follows r r' → onHead c f' h' (p ++ r') = some (a, r') := by
    intro k k' hk hks hsame
    obtain ⟨p, hp, rfl, hread⟩ := hk hks
    refine ⟨p, hp, rfl, fun r' hr' => ?_⟩
    rw [hsame _ (by obtain ⟨b, p, rfl⟩ := List.exists_cons_of_ne_nil hp; rfl)]
    exact hread r' hr'
  split_ifs at hs with hc
  · exact key hf hs fun t ht => if_pos (ht.trans hc)
  · exact key hh hs fun t ht => if_neg fun h => hc (ht.symm.trans h)

lemma reads_raw (hf : Reads f f') : Reads (raw f) (raw f') := by
  intro s a r h
  obtain ⟨⟨x, t⟩, hft, heq⟩ := Option.map_eq_some_iff.mp h
  cases heq
  obtain ⟨p, hp, rfl, hread⟩ := hf hft
  refine ⟨p, hp, rfl, fun r' hr' => ?_⟩
  have htake : ∀ u : Bytes, (p ++ u).take ((p ++ u).length - u.length) = p := fun u => by simp
  unfold raw
  rw [hread r' hr', Option.map_some, htake, htake]

/-- The bytes of a value are what was taken off. -/
lemma raw_eq_append (hf : Reads f f') {s x r : Bytes} (h : raw f s = some (x, r)) : s = x ++ r := by
  obtain ⟨⟨y, t⟩, hft, heq⟩ := Option.map_eq_some_iff.mp h
  cases heq
  obtain ⟨p, -, rfl, -⟩ := hf hft
  simp

lemma reads_next (hf : Reads f f') (first : Bool) : Reads (next f first) (next f' first) := by
  cases first with
  | true => exact hf
  | false => exact reads_andThen (reads_byte 0x2C) fun _ => reads_spaced hf

end Reads

/-! ### Strings and numbers -/

lemma hex4_quote {s : Bytes} (h : 0x22 ∈ s) : hex4 s = none := by
  have hquote : hexValue 0x22 = none := by decide
  unfold hex4
  split
  · next a b c d =>
    simp only [List.mem_cons, List.not_mem_nil, or_false] at h
    rcases h with rfl | rfl | rfl | rfl <;> simp [hquote]
  · rfl

lemma getu4_quote_short {q : Bytes} (hq : q.length < 6) (t : Bytes) : getu4 (q ++ 0x22 :: t) = none := by
  unfold getu4
  split_ifs with h
  · refine hex4_quote ?_
    rcases q with _ | ⟨a, _ | ⟨b, _ | ⟨c, _ | ⟨d, _ | ⟨e, _ | ⟨f, q⟩⟩⟩⟩⟩⟩ <;> simp at h ⊢
    simp only [List.length_cons] at hq
    omega
  · rfl

/-- An escape ends before a quote. -/
lemma getu4_quote (q t t' : Bytes) : getu4 (q ++ 0x22 :: t) = getu4 (q ++ 0x22 :: t') := by
  by_cases hq : q.length < 6
  · rw [getu4_quote_short hq, getu4_quote_short hq]
  · have htake : ∀ u : Bytes, (q ++ u).take 2 = q.take 2 := fun u => List.take_append_of_le_length (by omega)
    have hdrop : ∀ u : Bytes, ((q ++ u).drop 2).take 4 = (q.drop 2).take 4 := fun u => by
      rw [List.drop_append_of_le_length (by omega), List.take_append_of_le_length (by rw [List.length_drop]; omega)]
    unfold getu4
    rw [htake, htake, hdrop, hdrop]

lemma unicodeAt_quote (q t t' : Bytes) : unicodeAt (q ++ 0x22 :: t) = unicodeAt (q ++ 0x22 :: t') := by
  unfold unicodeAt
  by_cases hq : q.length < 6
  · rw [getu4_quote_short hq, getu4_quote_short hq]
    rfl
  · have hdrop : ∀ u : Bytes, (q ++ u).drop 6 = q.drop 6 ++ u := fun u => List.drop_append_of_le_length (by omega)
    rw [getu4_quote q t t', hdrop, hdrop, getu4_quote (q.drop 6) t t']

/-- **A rune of a string does not depend on what follows the string.** -/
lemma runeAt_quote (b : UInt8) (q t t' : Bytes) : runeAt (b :: (q ++ 0x22 :: t)) = runeAt (b :: (q ++ 0x22 :: t')) := by
  have hhead : ∀ u, (q ++ 0x22 :: u).head? = (q ++ [0x22]).head? := fun u => by cases q <;> rfl
  have hunicode : unicodeAt (b :: (q ++ 0x22 :: t)) = unicodeAt (b :: (q ++ 0x22 :: t')) :=
    unicodeAt_quote (b :: q) t t'
  simp only [runeAt]
  rw [hhead t, hhead t', hunicode, decodeRune_append (by decide), decodeRune_append (by decide)]

lemma literalFrom_split {s r : Bytes} {cs : List Char} {skip : ℕ} (h : literalFrom skip s = some (cs, r)) :
    ∃ q, s = q ++ 0x22 :: r ∧ ∀ t, literalFrom skip (q ++ 0x22 :: t) = some (cs, t) := by
  induction s generalizing skip cs with
  | nil => cases skip <;> cases h
  | cons b s ih =>
    cases skip with
    | succ skip =>
      obtain ⟨q, rfl, hq⟩ := ih h
      exact ⟨b :: q, rfl, hq⟩
    | zero =>
      rw [literalFrom] at h
      split_ifs at h with hb
      · cases h
        exact ⟨[], by rw [hb]; rfl, fun t => by simp [literalFrom]⟩
      · cases hrune : runeAt (b :: s) with
        | none =>
          rw [hrune] at h
          cases h
        | some x =>
          rw [hrune] at h
          obtain ⟨⟨ds, u⟩, hds, heq⟩ := Option.map_eq_some_iff.mp h
          cases heq
          obtain ⟨q, rfl, hq⟩ := ih hds
          refine ⟨b :: q, rfl, fun t => ?_⟩
          rw [List.cons_append, literalFrom, if_neg hb, (runeAt_quote b q t _).trans hrune]
          simp only [hq t, Option.map_some]

lemma reads_literalFrom : Reads (literalFrom 0) (literalFrom 0) := by
  intro s cs r h
  obtain ⟨q, rfl, hq⟩ := literalFrom_split h
  refine ⟨q ++ [0x22], by simp, by simp, fun r' _ => ?_⟩
  rw [List.append_assoc]
  exact hq r'

lemma isNumeric_iff {b : UInt8} :
    isNumeric b = true ↔ isDigit b = true ∨ b = 0x2B ∨ b = 0x2D ∨ b = 0x2E ∨ b = 0x45 ∨ b = 0x65 := by
  simp [isNumeric]

/-- What goes on with a number. -/
lemma isNumeric_of_step {st st' : NumState} {b : UInt8} (h : st.step b = some st') : isNumeric b = true := by
  have hzero : isDigit 0x30 = true := by decide
  rw [isNumeric_iff]
  cases st <;> simp only [NumState.step] at h <;> split_ifs at h <;> grind

/-- Where a number ends, and what else may stand there. -/
lemma numberFrom_end {st : NumState} {r r' : Bytes} (hr : ∀ b, r.head? = some b → st.step b = none)
    (hst : st.final = true) (hr' : Follows r r') : numberFrom st r' = some ((), r') := by
  cases r' with
  | nil => exact if_pos hst
  | cons b r' =>
    have hstep : st.step b = none := by
      rcases hr' with hsame | hstops
      · exact hr b hsame.symm
      · cases hb : st.step b with
        | none => rfl
        | some st' => exact absurd (isNumeric_of_step hb) (by simp [hstops b rfl])
    rw [numberFrom, hstep]
    exact if_pos hst

lemma numberFrom_local {s r : Bytes} {a : Unit} {st : NumState} (h : numberFrom st s = some (a, r)) :
    ∃ p, s = p ++ r ∧ ∀ r', Follows r r' → numberFrom st (p ++ r') = some (a, r') := by
  induction s generalizing st with
  | nil =>
    simp only [numberFrom] at h
    split_ifs at h with hst
    cases h
    exact ⟨[], rfl, fun r' => numberFrom_end (fun b hb => by cases hb) hst⟩
  | cons b s ih =>
    rw [numberFrom] at h
    cases hstep : st.step b with
    | some st' =>
      rw [hstep] at h
      obtain ⟨p, rfl, hp⟩ := ih h
      refine ⟨b :: p, rfl, fun r' hr' => ?_⟩
      rw [List.cons_append, numberFrom, hstep]
      exact hp r' hr'
    | none =>
      rw [hstep] at h
      simp only at h
      split_ifs at h with hst
      cases h
      refine ⟨[], rfl, fun r' => numberFrom_end (fun c hc => ?_) hst⟩
      cases hc
      exact hstep

lemma reads_number : Reads (numberFrom .start) (numberFrom .start) := by
  intro s a r h
  obtain ⟨p, rfl, hp⟩ := numberFrom_local h
  refine ⟨p, fun hnil => ?_, rfl, hp⟩
  have hempty := hp [] (Or.inr stops_nil)
  rw [hnil] at hempty
  cases hempty

/-! ### Items -/

section Items

variable {α : Type*} {item item' : Scan α} {first : Bool} {b : UInt8} {s r : Bytes} {a : α} {as : List α}

/-- The items of a text, one by one. -/
inductive Run (item : Scan α) : Bool → Bytes → List α → Bytes → Prop
  | done {first : Bool} : Run item first [] [] []
  | close {first : Bool} {b : UInt8} {s : Bytes} : isSpace b = false → isClosing b = true →
      Run item first (b :: s) [] (b :: s)
  | space {first : Bool} {b : UInt8} {s r : Bytes} {as : List α} : isSpace b = true → Run item first s as r →
      Run item first (b :: s) as r
  | item {first : Bool} {b : UInt8} {s rest r : Bytes} {a : α} {as : List α} : isSpace b = false →
      isClosing b = false → next item first (b :: s) = some (a, rest) → Run item false rest as r →
      Run item first (b :: s) (a :: as) r

lemma itemsFrom_drop (skip : ℕ) (s : Bytes) : itemsFrom item skip first s = items item first (s.drop skip) := by
  induction s generalizing skip with
  | nil => cases skip <;> rfl
  | cons b s ih =>
    cases skip with
    | zero => rfl
    | succ skip => exact ih skip

lemma items_space (hb : isSpace b = true) (s : Bytes) : items item first (b :: s) = items item first s := by
  rw [items, itemsFrom, if_pos hb]

lemma items_close (hs : isSpace b = false) (hb : isClosing b = true) (s : Bytes) :
    items item first (b :: s) = some ([], b :: s) := by
  rw [items, itemsFrom, if_neg (by simp [hs]), if_pos hb]

/-- One item. -/
lemma items_item (hi : Reads item item') (hs : isSpace b = false) (hb : isClosing b = false) :
    items item first (b :: s) = (next item first (b :: s)).bind fun x =>
      (items item false x.2).map fun y => (x.1 :: y.1, y.2) := by
  rw [items, itemsFrom, if_neg (by simp [hs]), if_neg (by simp [hb])]
  cases hnext : next item first (b :: s) with
  | none => rfl
  | some x =>
    obtain ⟨p, hp, hsplit, -⟩ := reads_next hi first hnext
    obtain ⟨c, p, rfl⟩ := List.exists_cons_of_ne_nil hp
    rw [List.cons_append, List.cons.injEq] at hsplit
    obtain ⟨rfl, rfl⟩ := hsplit
    simp only [Option.bind_some, itemsFrom_drop]
    rw [List.length_append, Nat.add_sub_cancel, List.drop_left]

/-- **The items that are read.** -/
lemma items_eq_some_iff (hi : Reads item item') : items item first s = some (as, r) ↔ Run item first s as r := by
  constructor
  · -- by the length of the text, as an item may have any number of bytes
    induction hn : s.length using Nat.strong_induction_on generalizing s first as with
    | _ n ih =>
      intro h
      cases s with
      | nil =>
        cases h
        exact .done
      | cons b s =>
        by_cases hs : isSpace b = true
        · rw [items_space hs] at h
          exact .space hs (ih s.length (by rw [← hn]; exact Nat.lt_succ_self _) rfl h)
        · rw [Bool.not_eq_true] at hs
          by_cases hb : isClosing b = true
          · rw [items_close hs hb] at h
            cases h
            exact .close hs hb
          · rw [Bool.not_eq_true] at hb
            rw [items_item hi hs hb] at h
            obtain ⟨⟨a, rest⟩, hnext, hrest⟩ := Option.bind_eq_some_iff.mp h
            obtain ⟨⟨as', r'⟩, hitems, heq⟩ := Option.map_eq_some_iff.mp hrest
            cases heq
            obtain ⟨p, hp, hsplit, -⟩ := reads_next hi first hnext
            have hlt : rest.length < n := by
              rw [← hn, hsplit, List.length_append]
              exact Nat.lt_add_of_pos_left (List.length_pos_iff.mpr hp)
            exact .item hs hb hnext (ih rest.length hlt rfl hitems)
  · intro h
    induction h with
    | done => rfl
    | close hs hb => exact items_close hs hb _
    | space hs _ ih =>
      rw [items_space hs]
      exact ih
    | item hs hb hnext _ ih =>
      rw [items_item hi hs hb, hnext]
      simp only [Option.bind_some, ih, Option.map_some]

/-- The items are read by another scanner too. -/
lemma Run.mono (hi : Reads item item') (h : Run item first s as r) : Run item' first s as r := by
  induction h with
  | done => exact .done
  | close hs hb => exact .close hs hb
  | space hs _ ih => exact .space hs ih
  | @item first _ _ _ _ _ _ hs hb hnext _ ih => exact .item hs hb ((reads_next hi first).self hnext) ih

/-- And before another text, up to a bracket. -/
lemma Run.local (hi : Reads item item') {c : UInt8} {t : Bytes} (h : Run item first s as (c :: t)) :
    ∃ p, s = p ++ c :: t ∧ ∀ t', Run item' first (p ++ c :: t') as (c :: t') := by
  generalize hr : c :: t = r at h
  induction h with
  | done => cases hr
  | close hs hb =>
    cases hr
    exact ⟨[], rfl, fun t' => .close hs hb⟩
  | @space _ b _ _ _ hs _ ih =>
    obtain ⟨p, rfl, hp⟩ := ih hr
    exact ⟨b :: p, by rw [← hr]; rfl, fun t' => .space hs (hp t')⟩
  | @item first b s rest _ a as hs hb hnext _ ih =>
    subst hr
    obtain ⟨p, rfl, hp⟩ := ih rfl
    obtain ⟨q, hq, hsplit, hread⟩ := reads_next hi first hnext
    obtain ⟨d, q, rfl⟩ := List.exists_cons_of_ne_nil hq
    rw [List.cons_append, List.cons.injEq] at hsplit
    obtain ⟨rfl, rfl⟩ := hsplit
    refine ⟨b :: (q ++ p), by simp, fun t' => ?_⟩
    have hfollows : Follows (p ++ c :: t) (p ++ c :: t') := by
      have := follows_append (p := p ++ [c]) (by simp) t t'
      simpa using this
    have hnext' := hread _ hfollows
    rw [List.cons_append, List.append_assoc]
    exact .item hs hb hnext' (hp t')

/-- What stands after an item. -/
lemma Run.stops (h : Run item false s as r) : Stops s := by
  have hplain : ∀ b, isSpace b = true ∨ isClosing b = true ∨ b = 0x2C → isNumeric b = false := by
    intro b hb
    have hb' : b = 0x20 ∨ b = 0x09 ∨ b = 0x0D ∨ b = 0x0A ∨ b = 0x5D ∨ b = 0x7D ∨ b = 0x2C := by
      simpa [isSpace, isClosing, or_assoc] using hb
    rcases hb' with rfl | rfl | rfl | rfl | rfl | rfl | rfl <;> decide
  cases h with
  | done => exact stops_nil
  | close hs hb => exact stops_cons _ (hplain _ (.inr (.inl hb)))
  | space hs _ => exact stops_cons _ (hplain _ (.inl hs))
  | @item _ b s _ _ _ _ _ _ hnext _ =>
    refine stops_cons _ (hplain _ (.inr (.inr ?_)))
    -- a comma stands before an item that is not the first one
    obtain ⟨x, hx, -⟩ := Option.bind_eq_some_iff.mp hnext
    by_contra hb
    simp only [byte, if_neg hb] at hx
    cases hx

lemma closed_eq_some_iff (hi : Reads item item') {c : UInt8} :
    closed c item s = some (as, r) ↔ Run item true s as (c :: r) := by
  rw [← items_eq_some_iff hi]
  unfold closed
  split
  · next as' b rest hitems =>
    rw [hitems]
    split_ifs with hb
    · simp [hb]
    · simp [hb]
  · next hnone =>
    refine iff_of_false (by simp) fun h => hnone as c r h

lemma reads_closed (hi : Reads item item') (hi' : Reads item' item') (c : UInt8) :
    Reads (closed c item) (closed c item') := by
  intro s as r h
  obtain ⟨p, rfl, hp⟩ := ((closed_eq_some_iff hi).mp h).local hi
  refine ⟨p ++ [c], by simp, by simp, fun r' _ => ?_⟩
  rw [List.append_assoc]
  exact (closed_eq_some_iff hi').mpr (hp r')

end Items

/-! ### Values -/

lemma reads_literal : Reads literal literal :=
  reads_mapScan (reads_andThen (reads_byte 0x22) fun _ => reads_literalFrom) _

lemma reads_member {f g : Scan Bytes} (h : Reads f g) : Reads (member f) (member g) :=
  reads_andThen reads_literal fun _ => reads_andThen (reads_spaced (reads_byte 0x3A)) fun _ =>
    reads_mapScan (reads_spaced h) _

lemma reads_scalar : Reads scalar scalar :=
  reads_onHead (reads_mapScan reads_literal _) <| reads_onHead (reads_word (by decide)) <|
    reads_onHead (reads_word (by decide)) <| reads_onHead (reads_word (by decide)) reads_number

lemma reads_nest {f g : Scan Unit} (h : Reads f g) (hg : Reads g g) : Reads (nest f) (nest g) := by
  have hobject := reads_closed (reads_member (reads_raw h)) (reads_member (reads_raw hg)) 0x7D
  have harray := reads_closed (reads_raw h) (reads_raw hg) 0x5D
  refine reads_onHead (reads_andThen (reads_byte 0x7B) fun _ => reads_mapScan hobject _) ?_
  exact reads_onHead (reads_andThen (reads_byte 0x5B) fun _ => reads_mapScan harray _) reads_scalar

lemma reads_shape_self (n : ℕ) : Reads (shape n) (shape n) := by
  induction n with
  | zero => exact reads_onHead (reads_none _) (reads_onHead (reads_none _) reads_scalar)
  | succ n ih => exact reads_nest ih ih

lemma reads_shape {m n : ℕ} (h : m ≤ n) : Reads (shape m) (shape n) := by
  induction m generalizing n with
  | zero =>
    cases n with
    | zero => exact reads_shape_self 0
    | succ n => exact reads_onHead (reads_none _) (reads_onHead (reads_none _) reads_scalar)
  | succ m ih =>
    cases n with
    | zero => cases h
    | succ n => exact reads_nest (ih (Nat.le_of_succ_le_succ h)) (reads_shape_self n)

/-- **A value is read wherever it stands, and with every larger bound.** -/
theorem reads_value {m n : ℕ} (h : m ≤ n) : Reads (value m) (value n) := reads_raw (reads_shape h)

/-! ### Members -/

/-- A whole value of nesting `limit`. -/
def Whole (limit : ℕ) (x : Bytes) : Prop := ∀ r, Stops r → value limit (x ++ r) = some (x, r)

section Members

variable {m n : ℕ} {first : Bool} {s x r : Bytes} {ms : List Member}

lemma value_eq_append (h : value n s = some (x, r)) : s = x ++ r := raw_eq_append (reads_shape_self n) h

lemma whole_of_value (h : value n s = some (x, r)) : Whole n x := by
  intro r' hr'
  obtain ⟨p, -, hsplit, hread⟩ := reads_value le_rfl h
  obtain rfl : x = p := List.append_cancel_right ((value_eq_append h).symm.trans hsplit)
  exact hread r' (.inr hr')

/-- A value does not begin with white space. -/
lemma skipSpace_of_whole (h : Whole n x) (r : Bytes) : skipSpace (x ++ r) = x ++ r := by
  have hx := h [] stops_nil
  obtain ⟨p, hp, hsplit, -⟩ := reads_value (le_refl n) hx
  rw [List.append_nil, List.append_nil] at hsplit
  obtain ⟨b, x, rfl⟩ := List.exists_cons_of_ne_nil (hsplit ▸ hp)
  have hb : isSpace b = false := by
    by_contra hb
    rw [Bool.not_eq_false] at hb
    have hb' : b = 0x20 ∨ b = 0x09 ∨ b = 0x0D ∨ b = 0x0A := by simpa [isSpace] using hb
    have hshape : shape n (b :: (x ++ [])) = none := by
      rcases hb' with rfl | rfl | rfl | rfl <;> cases n <;> rfl
    rw [List.cons_append, value, raw, hshape] at hx
    cases hx
  exact List.dropWhile_cons_of_neg (by simp [hb])

/-- A member that is written without white space. -/
lemma member_of_whole {k : String} (hkey : literal s = some (k, 0x3A :: (x ++ r))) (hx : Whole n x) (hr : Stops r) :
    member (value n) s = some ((k, x), r) := by
  have hcolon : spaced (byte 0x3A) (0x3A :: (x ++ r)) = some ((), x ++ r) := rfl
  unfold member
  rw [andThen_of_some hkey, andThen_of_some hcolon]
  unfold mapScan spaced
  rw [skipSpace_of_whole hx, hx r hr, Option.map_some]

/-- A member is read up to its value by the same steps. -/
lemma member_eq_some {f : Scan Bytes} {k : String} (h : member f s = some ((k, x), r)) :
    ∃ u, f u = some (x, r) ∧ ∀ (g : Scan Bytes) y r', g u = some (y, r') → member g s = some ((k, y), r') := by
  obtain ⟨k', s₁, hkey, h⟩ := andThen_eq_some h
  obtain ⟨⟨⟩, s₂, hcolon, h⟩ := andThen_eq_some h
  obtain ⟨⟨y, r'⟩, hvalue, heq⟩ := Option.map_eq_some_iff.mp h
  cases heq
  refine ⟨skipSpace s₂, hvalue, fun g y r' hg => ?_⟩
  unfold member
  rw [andThen_of_some hkey, andThen_of_some hcolon]
  unfold mapScan spaced
  rw [hg, Option.map_some]

lemma next_member_eq_some {f : Scan Bytes} {k : String} (h : next (member f) first s = some ((k, x), r)) :
    ∃ u, f u = some (x, r) ∧
      ∀ (g : Scan Bytes) y r', g u = some (y, r') → next (member g) first s = some ((k, y), r') := by
  cases first with
  | true => exact member_eq_some h
  | false =>
    rw [next] at h
    obtain ⟨⟨⟩, s₁, hcomma, hmember⟩ := andThen_eq_some h
    obtain ⟨u, hu, hall⟩ := member_eq_some hmember
    refine ⟨u, hu, fun g y r' hg => ?_⟩
    rw [next, andThen_of_some hcomma]
    exact hall g y r' hg

/-- The values of members are whole. -/
lemma Run.whole (h : Run (member (value n)) first s ms r) : ∀ m ∈ ms, Whole n m.2 := by
  induction h with
  | done => simp
  | close _ _ => simp
  | space _ _ ih => exact ih
  | item _ _ hnext _ ih =>
    obtain ⟨u, hu, -⟩ := next_member_eq_some hnext
    exact List.forall_mem_cons.mpr ⟨whole_of_value hu, ih⟩

/-- Members whose values are whole within another bound are read within it. -/
lemma Run.within (h : Run (member (value m)) first s ms r) (hms : ∀ x ∈ ms, Whole n x.2) :
    Run (member (value n)) first s ms r := by
  induction h with
  | done => exact .done
  | close hs hb => exact .close hs hb
  | space hs _ ih => exact .space hs (ih hms)
  | item hs hb hnext hrun ih =>
    obtain ⟨hwhole, hms⟩ := List.forall_mem_cons.mp hms
    obtain ⟨u, hu, hall⟩ := next_member_eq_some hnext
    obtain rfl := value_eq_append hu
    exact .item hs hb (hall _ _ _ (hwhole _ hrun.stops)) (ih hms)

lemma byte_eq_some_iff {c : UInt8} : byte c s = some ((), r) ↔ s = c :: r := by
  cases s with
  | nil => simp [byte]
  | cons b s =>
    simp only [byte]
    split_ifs with hb <;> simp [hb]

/-- **A whole object.** -/
lemma document_eq_some_iff : document n s = some ms ↔
    ∃ t r, skipSpace s = 0x7B :: t ∧ Run (member (value n)) true t ms (0x7D :: r) ∧ r.all isSpace = true := by
  have hmember := reads_member (reads_value (le_refl n))
  constructor
  · intro h
    unfold document at h
    split at h
    · next ms' r hread =>
      split_ifs at h with hr
      cases h
      obtain ⟨⟨⟩, t, hbyte, hclosed⟩ := andThen_eq_some hread
      exact ⟨t, r, byte_eq_some_iff.mp hbyte, (closed_eq_some_iff hmember).mp hclosed, hr⟩
    · cases h
  · rintro ⟨t, r, hs, hrun, hr⟩
    unfold document
    rw [andThen_of_some (byte_eq_some_iff.mpr hs), (closed_eq_some_iff hmember).mpr hrun]
    exact if_pos hr

end Members

end Lib.JsonText
