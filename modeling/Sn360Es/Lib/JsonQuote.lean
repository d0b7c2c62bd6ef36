import Sn360Es.Lib.JsonText

/-!
# Strings as JSON writes them (`encoding/json`)

`json.Marshal` of a string escapes the characters that a string or a page of HTML may not have, and writes a byte that
belongs to no rune as `U+FFFD`.

* `literal_quote` — what was written is read back, whatever follows;
* `whole_quote` — it is a value.
-/

namespace Lib.JsonText

open Utf8

/-! ### Writing -/

def hexDigit (n : ℕ) : UInt8 := (bytesOf "0123456789abcdef").getD n 0

/-- The escape `\uXXXX`. -/
def unicodeEscape (r : ℕ) : Bytes :=
  [0x5C, 0x75, hexDigit (r / 4096), hexDigit (r / 256 % 16), hexDigit (r / 16 % 16), hexDigit (r % 16)]

/-- The escapes of one letter. -/
def shortEscapes : List (ℕ × UInt8) :=
  [(0x22, 0x22), (0x5C, 0x5C), (0x08, 0x62), (0x0C, 0x66), (0x0A, 0x6E), (0x0D, 0x72), (0x09, 0x74)]

/-- A control character, a character of HTML or a separator of lines. -/
def isEscaped (r : ℕ) : Bool := r < 0x20 ∨ r ∈ [0x3C, 0x3E, 0x26, 0x2028, 0x2029]

def quoteChar (c : Char) : Bytes :=
  match shortEscapes.lookup c.toNat with
  | some e => [0x5C, e]
  | none => if isEscaped c.toNat then unicodeEscape c.toNat else encodeRune c.toNat

/-- A rune, or a byte that belongs to none. -/
def quoteRune : Option Char → Bytes
  | some c => quoteChar c
  | none => unicodeEscape runeError

/-- The runes of a string; the next `skip` bytes belong to one that was read. -/
def runesFrom : ℕ → Bytes → List (Option Char)
  | _, [] => []
  | skip + 1, _ :: s => runesFrom skip s
  | 0, b :: s =>
    if b.toNat < 0x80 then some (Char.ofNat b.toNat) :: runesFrom 0 s
    else
      match decodeMulti b s with
      | some (r, width) => some (Char.ofNat r) :: runesFrom (width - 1) s
      | none => none :: runesFrom 0 s

def runes (s : Bytes) : List (Option Char) := runesFrom 0 s

def quote (rs : List (Option Char)) : Bytes := 0x22 :: (rs.flatMap quoteRune ++ [0x22])

/-- `json.Marshal` of a string. -/
def marshalString (s : Bytes) : Bytes := quote (runes s)

/-- `json.Marshal` of a string that was decoded: it has no other bytes than those of its runes. -/
def marshalDecoded (s : String) : Bytes := quote (s.toList.map some)

/-! ### Reading back -/

section Runes

variable {r : ℕ} {t : Bytes}

lemma hexValue_hexDigit : ∀ {n : ℕ}, n < 16 → hexValue (hexDigit n) = some n := by decide

lemma getu4_unicodeEscape (hr : r < 0x10000) (t : Bytes) : getu4 (unicodeEscape r ++ t) = some r := by
  have hhex : getu4 (unicodeEscape r ++ t) =
      hex4 [hexDigit (r / 4096), hexDigit (r / 256 % 16), hexDigit (r / 16 % 16), hexDigit (r % 16)] := rfl
  rw [hhex, hex4, hexValue_hexDigit (by omega), hexValue_hexDigit (by omega), hexValue_hexDigit (by omega),
    hexValue_hexDigit (by omega)]
  simp only [Option.bind_some, Option.map_some, Option.some.injEq]
  omega

lemma runeAt_unicodeEscape (hr : r < 0xD800 ∨ 0xE000 ≤ r ∧ r < 0x10000) (t : Bytes) :
    runeAt (unicodeEscape r ++ t) = some (r, 6) := by
  have hunicode : runeAt (unicodeEscape r ++ t) = unicodeAt (unicodeEscape r ++ t) := rfl
  rw [hunicode, unicodeAt, getu4_unicodeEscape (by omega), Option.map_some, if_neg (by omega)]

lemma runeAt_short {e : UInt8} (h : shortEscapes.lookup r = some e) (t : Bytes) :
    runeAt (0x5C :: e :: t) = some (r, 2) := by
  obtain ⟨l₁, l₂, hsplit, -⟩ := List.lookup_eq_some_iff.mp h
  have hmem : (r, e) ∈ shortEscapes := by
    rw [hsplit]
    simp
  simp only [shortEscapes, List.mem_cons, Prod.mk.injEq, List.not_mem_nil, or_false] at hmem
  rcases hmem with ⟨rfl, rfl⟩ | ⟨rfl, rfl⟩ | ⟨rfl, rfl⟩ | ⟨rfl, rfl⟩ | ⟨rfl, rfl⟩ | ⟨rfl, rfl⟩ | ⟨rfl, rfl⟩ <;> rfl

/-- A rune that is written as it is. -/
lemma runeAt_encodeRune {c : Char} (hshort : shortEscapes.lookup c.toNat = none) (hesc : isEscaped c.toNat = false)
    (t : Bytes) : (encodeRune c.toNat).head? ≠ some 0x22 ∧
      runeAt (encodeRune c.toNat ++ t) = some (c.toNat, (encodeRune c.toNat).length) := by
  have hlow : ¬ c.toNat < 0x20 := fun h => by simp [isEscaped, h] at hesc
  have hne : c.toNat ≠ 0x22 ∧ c.toNat ≠ 0x5C := by
    constructor <;> (intro h; rw [h] at hshort; cases hshort)
  -- its first byte is none of those with a meaning of their own
  have hhead : ∀ b s, encodeRune c.toNat = b :: s → 0x20 ≤ b.toNat ∧ b.toNat ≠ 0x22 ∧ b.toNat ≠ 0x5C := by
    intro b s hs
    by_cases hc : c.toNat < 0x80
    · rw [encodeRune_ascii hc] at hs
      cases hs
      rw [UInt8.toNat_ofNat']
      omega
    · have hb : b ∈ encodeRune c.toNat := by rw [hs]; exact List.mem_cons_self
      have := encodeRune_high hc hb
      omega
  have hdecode := decodeRune_encodeRune c t
  obtain ⟨b, s, hs⟩ := List.exists_cons_of_ne_nil (encodeRune_ne_nil c.toNat)
  obtain ⟨h20, h22, h5C⟩ := hhead b s hs
  rw [hs] at hdecode ⊢
  constructor
  · intro h
    cases h
    exact h22 rfl
  · rw [List.cons_append, runeAt, if_neg (fun h => h5C (by rw [h]; rfl)), if_neg (by omega)]
    exact congrArg some hdecode

/-- **A character is read back.** -/
lemma runeAt_quoteChar (c : Char) (t : Bytes) : (quoteChar c).head? ≠ some 0x22 ∧
    runeAt (quoteChar c ++ t) = some (c.toNat, (quoteChar c).length) := by
  unfold quoteChar
  split
  · next e he => exact ⟨by simp, runeAt_short he t⟩
  · next hnone =>
    split_ifs with hesc
    · refine ⟨by simp [unicodeEscape], runeAt_unicodeEscape ?_ t⟩
      simp only [isEscaped, List.mem_cons, List.not_mem_nil, or_false, decide_eq_true_eq] at hesc
      omega
    · exact runeAt_encodeRune hnone (by simpa using hesc) t

/-- The character that a rune is read back as. -/
def readAs (x : Option Char) : Char := x.getD (Char.ofNat runeError)

lemma runeAt_quoteRune (x : Option Char) (t : Bytes) : (quoteRune x).head? ≠ some 0x22 ∧
    runeAt (quoteRune x ++ t) = some ((readAs x).toNat, (quoteRune x).length) := by
  cases x with
  | some c => exact runeAt_quoteChar c t
  | none => exact ⟨by simp [quoteRune, unicodeEscape], runeAt_unicodeEscape (by decide) t⟩

lemma literalFrom_skip (q t : Bytes) : literalFrom q.length (q ++ t) = literalFrom 0 t := by
  induction q with
  | nil => rfl
  | cons b q ih => exact ih

lemma literalFrom_quoteRune (x : Option Char) (t : Bytes) :
    literalFrom 0 (quoteRune x ++ t) = (literalFrom 0 t).map fun y => (readAs x :: y.1, y.2) := by
  obtain ⟨hhead, hrune⟩ := runeAt_quoteRune x t
  cases hq : quoteRune x with
  | nil =>
    have hempty := (runeAt_quoteRune x []).2
    rw [hq] at hempty
    cases hempty
  | cons b q =>
    rw [hq] at hhead hrune
    have hb : b ≠ 0x22 := fun h => hhead (by rw [h]; rfl)
    rw [List.cons_append] at hrune ⊢
    rw [literalFrom, if_neg hb, hrune]
    simp only [List.length_cons, Nat.add_sub_cancel, literalFrom_skip, Char.ofNat_toNat]

lemma literalFrom_quote (rs : List (Option Char)) (t : Bytes) :
    literalFrom 0 (rs.flatMap quoteRune ++ 0x22 :: t) = some (rs.map readAs, t) := by
  induction rs with
  | nil => rfl
  | cons x rs ih =>
    rw [List.flatMap_cons, List.append_assoc, literalFrom_quoteRune, ih]
    rfl

end Runes

/-- What is read back of a string. -/
def decoded (rs : List (Option Char)) : String := String.ofList (rs.map readAs)

/-- **What was written is read back.** -/
theorem literal_quote (rs : List (Option Char)) (t : Bytes) : literal (quote rs ++ t) = some (decoded rs, t) := by
  have hbyte : byte 0x22 (quote rs ++ t) = some ((), rs.flatMap quoteRune ++ 0x22 :: t) := by
    rw [byte_eq_some_iff, quote, List.cons_append, List.append_assoc]
    rfl
  unfold literal mapScan
  rw [andThen_of_some hbyte, literalFrom_quote]
  rfl

lemma literal_marshalDecoded (s : String) (t : Bytes) : literal (marshalDecoded s ++ t) = some (s, t) := by
  have hid : (s.toList.map some).map readAs = s.toList := by
    rw [List.map_map]
    exact List.map_id _
  rw [marshalDecoded, literal_quote, decoded, hid, String.ofList_toList]

lemma shape_of_literal {s t : Bytes} {k : String} (n : ℕ) (h : literal (0x22 :: s) = some (k, t)) :
    shape n (0x22 :: s) = some ((), t) := by
  have hscalar : scalar (0x22 :: s) = some ((), t) := by
    have hhead : (0x22 :: s : Bytes).head? = some 0x22 := rfl
    unfold scalar onHead
    rw [if_pos hhead, mapScan, h]
    rfl
  cases n <;> exact hscalar

/-- A string is a value. -/
lemma whole_quote (n : ℕ) (rs : List (Option Char)) : Whole n (quote rs) := by
  intro r _
  have hshape : shape n (quote rs ++ r) = some ((), r) := shape_of_literal n (literal_quote rs r)
  unfold value raw
  rw [hshape]
  simp

/-- A string that is not empty has a rune. -/
lemma decoded_runes_ne {s : Bytes} (hs : s ≠ []) : decoded (runes s) ≠ "" := by
  obtain ⟨b, s, rfl⟩ := List.exists_cons_of_ne_nil hs
  have hrunes : runes (b :: s) ≠ [] := by
    unfold runes runesFrom
    split_ifs
    · simp
    · split <;> simp
  intro h
  have hnil := congrArg String.toList h
  simp [decoded, hrunes] at hnil

end Lib.JsonText
