import Sn360Es.Lib.Hex

/-!
# Transfer encodings of a text (`encoding/base64`, `mime/quotedprintable`)

* `Base64.decode`, `Base64.decodeRaw`, `Base64.encode` — the standard alphabet, with and without padding, and
  `decode_encode`;
* `QuotedPrintable.decode` — what the reader gives for a whole text.

Neither makes a text longer (`length_decode_le`).
-/

namespace Lib.Base64

/-- The value of a digit. -/
def value (c : UInt8) : Option ℕ :=
  if 0x41 ≤ c.toNat ∧ c.toNat ≤ 0x5A then some (c.toNat - 0x41)
  else if 0x61 ≤ c.toNat ∧ c.toNat ≤ 0x7A then some (c.toNat - 0x61 + 26)
  else if 0x30 ≤ c.toNat ∧ c.toNat ≤ 0x39 then some (c.toNat - 0x30 + 52)
  else if c = 0x2B then some 62
  else if c = 0x2F then some 63
  else none

def digit (n : ℕ) : UInt8 :=
  if n < 26 then .ofNat (n + 0x41)
  else if n < 52 then .ofNat (n - 26 + 0x61)
  else if n < 62 then .ofNat (n - 52 + 0x30)
  else if n = 62 then 0x2B
  else 0x2F

/-- `=`. -/
def pad : UInt8 := 0x3D

/-- The bytes of four digits. -/
def byte1 (w x : ℕ) : UInt8 := .ofNat (w * 4 + x / 16)
def byte2 (x y : ℕ) : UInt8 := .ofNat (x % 16 * 16 + y / 4)
def byte3 (y z : ℕ) : UInt8 := .ofNat (y % 4 * 64 + z)

/-- Digits in groups of four; a shorter last group is filled with padding, or left as it is. -/
def decodeGroups (padded : Bool) : Bytes → Option Bytes
  | [] => some []
  | [_] => none
  | [a, b] =>
    match padded, value a, value b with
    | false, some w, some x => some [byte1 w x]
    | _, _, _ => none
  | [a, b, c] =>
    match padded, value a, value b, value c with
    | false, some w, some x, some y => some [byte1 w x, byte2 x y]
    | _, _, _, _ => none
  | a :: b :: c :: d :: s =>
    match value a, value b, value c, value d with
    | some w, some x, some y, some z => (decodeGroups padded s).map ([byte1 w x, byte2 x y, byte3 y z] ++ ·)
    | some w, some x, some y, none => if padded ∧ d = pad ∧ s = [] then some [byte1 w x, byte2 x y] else none
    | some w, some x, none, none => if padded ∧ c = pad ∧ d = pad ∧ s = [] then some [byte1 w x] else none
    | _, _, _, _ => none

/-- Line breaks are ignored. -/
def dropBreaks (s : Bytes) : Bytes := s.filter fun b => b ≠ 0x0D ∧ b ≠ 0x0A

/-- `base64.StdEncoding.DecodeString`. -/
def decode (s : Bytes) : Option Bytes := decodeGroups true (dropBreaks s)

/-- `base64.RawStdEncoding.DecodeString`. -/
def decodeRaw (s : Bytes) : Option Bytes := decodeGroups false (dropBreaks s)

/-- `base64.StdEncoding.EncodeToString`. -/
def encode : Bytes → Bytes
  | [] => []
  | [a] => [digit (a.toNat / 4), digit (a.toNat % 4 * 16), pad, pad]
  | [a, b] => [digit (a.toNat / 4), digit (a.toNat % 4 * 16 + b.toNat / 16), digit (b.toNat % 16 * 4), pad]
  | a :: b :: c :: s =>
    digit (a.toNat / 4) :: digit (a.toNat % 4 * 16 + b.toNat / 16) :: digit (b.toNat % 16 * 4 + c.toNat / 64) ::
      digit (c.toNat % 64) :: encode s

lemma value_digit {n : ℕ} (h : n < 64) : value (digit n) = some n := by
  interval_cases n <;> decide

lemma digit_not_break {n : ℕ} (h : n < 64) : digit n ≠ 0x0D ∧ digit n ≠ 0x0A := by
  interval_cases n <;> decide

lemma value_pad : value pad = none := by decide

lemma pad_not_break : pad ≠ 0x0D ∧ pad ≠ 0x0A := by decide

/-- No line is broken. -/
lemma dropBreaks_encode (s : Bytes) : dropBreaks (encode s) = encode s := by
  unfold dropBreaks
  refine List.filter_eq_self.mpr ?_
  fun_induction encode s with
  | case1 => simp
  | case2 a =>
    have ha := a.toNat_lt
    have h1 := digit_not_break (show a.toNat / 4 < 64 by omega)
    have h2 := digit_not_break (show a.toNat % 4 * 16 < 64 by omega)
    simp [h1, h2, pad_not_break]
  | case3 a b =>
    have ha := a.toNat_lt
    have hb := b.toNat_lt
    have h1 := digit_not_break (show a.toNat / 4 < 64 by omega)
    have h2 := digit_not_break (show a.toNat % 4 * 16 + b.toNat / 16 < 64 by omega)
    have h3 := digit_not_break (show b.toNat % 16 * 4 < 64 by omega)
    simp [h1, h2, h3, pad_not_break]
  | case4 a b c s ih =>
    have ha := a.toNat_lt
    have hb := b.toNat_lt
    have hc := c.toNat_lt
    have h1 := digit_not_break (show a.toNat / 4 < 64 by omega)
    have h2 := digit_not_break (show a.toNat % 4 * 16 + b.toNat / 16 < 64 by omega)
    have h3 := digit_not_break (show b.toNat % 16 * 4 + c.toNat / 64 < 64 by omega)
    have h4 := digit_not_break (show c.toNat % 64 < 64 by omega)
    intro d hd
    simp only [List.mem_cons] at hd
    rcases hd with rfl | rfl | rfl | rfl | hd
    · simpa using h1
    · simpa using h2
    · simpa using h3
    · simpa using h4
    · exact ih d hd

lemma byte1_eq (a : UInt8) {x : ℕ} (hx : x / 16 = a.toNat % 4) : byte1 (a.toNat / 4) x = a := by
  unfold byte1
  rw [show a.toNat / 4 * 4 + x / 16 = a.toNat by omega]
  exact UInt8.ofNat_toNat

lemma byte2_eq (b : UInt8) {x y : ℕ} (hx : x % 16 = b.toNat / 16) (hy : y / 4 = b.toNat % 16) : byte2 x y = b := by
  unfold byte2
  rw [show x % 16 * 16 + y / 4 = b.toNat by omega]
  exact UInt8.ofNat_toNat

lemma byte3_eq (c : UInt8) {y z : ℕ} (hy : y % 4 = c.toNat / 64) (hz : z = c.toNat % 64) : byte3 y z = c := by
  unfold byte3
  rw [show y % 4 * 64 + z = c.toNat by omega]
  exact UInt8.ofNat_toNat

/-- **Round trip.** -/
theorem decode_encode (s : Bytes) : decode (encode s) = some s := by
  rw [decode, dropBreaks_encode]
  fun_induction encode s with
  | case1 => rfl
  | case2 a =>
    have ha := a.toNat_lt
    simp only [decodeGroups, value_digit (show a.toNat / 4 < 64 by omega),
      value_digit (show a.toNat % 4 * 16 < 64 by omega), value_pad]
    rw [byte1_eq a (by omega)]
    rfl
  | case3 a b =>
    have ha := a.toNat_lt
    have hb := b.toNat_lt
    simp only [decodeGroups, value_digit (show a.toNat / 4 < 64 by omega),
      value_digit (show a.toNat % 4 * 16 + b.toNat / 16 < 64 by omega),
      value_digit (show b.toNat % 16 * 4 < 64 by omega), value_pad]
    rw [byte1_eq a (by omega), byte2_eq b (by omega) (by omega)]
    rfl
  | case4 a b c s ih =>
    have ha := a.toNat_lt
    have hb := b.toNat_lt
    have hc := c.toNat_lt
    simp only [decodeGroups, value_digit (show a.toNat / 4 < 64 by omega),
      value_digit (show a.toNat % 4 * 16 + b.toNat / 16 < 64 by omega),
      value_digit (show b.toNat % 16 * 4 + c.toNat / 64 < 64 by omega), value_digit (show c.toNat % 64 < 64 by omega), ih]
    rw [byte1_eq a (by omega), byte2_eq b (by omega) (by omega), byte3_eq c (by omega) (by omega)]
    rfl

lemma length_decodeGroups_le {padded : Bool} {s t : Bytes} (h : decodeGroups padded s = some t) :
    t.length ≤ s.length := by
  fun_induction decodeGroups padded s generalizing t with
  | case1 => cases h; rfl
  | case7 a b c d s w x y z hw hx hy hz ih =>
    obtain ⟨u, hu, rfl⟩ := Option.map_eq_some_iff.mp h
    have := ih hu
    simp only [List.length_append, List.length_cons, List.length_nil]
    omega
  | _ => grind

/-- **Decoding does not make a text longer.** -/
lemma length_decode_le {s t : Bytes} (h : decode s = some t) : t.length ≤ s.length :=
  (length_decodeGroups_le h).trans (List.length_filter_le _ s)

end Lib.Base64

namespace Lib.QuotedPrintable

/-- The lines of a text, with their ends; `line` is what was read of the one that has begun. -/
def linesFrom (line : Bytes) : Bytes → List Bytes
  | [] => [line]
  | b :: s => if b = 0x0A then (line ++ [b]) :: linesFrom [] s else linesFrom (line ++ [b]) s

/-- The buffer of `bufio.NewReader`: a longer line is an error. -/
def bufferSize : ℕ := 4096

def discarded (b : UInt8) : Bool := b = 0x0A ∨ b = 0x0D ∨ b = 0x20 ∨ b = 0x09

/-- `bytes.TrimRightFunc` with the white space of a line end. -/
def trimRight (s : Bytes) : Bytes := (s.reverse.dropWhile discarded).reverse

def hexValue (c : UInt8) : Option ℕ :=
  if 0x30 ≤ c.toNat ∧ c.toNat ≤ 0x39 then some (c.toNat - 0x30)
  else if 0x41 ≤ c.toNat ∧ c.toNat ≤ 0x46 then some (c.toNat - 0x41 + 10)
  else if 0x61 ≤ c.toNat ∧ c.toNat ≤ 0x66 then some (c.toNat - 0x61 + 10)
  else none

/-- The byte of two hexadecimal digits. -/
def hexByte (c d : UInt8) : Option UInt8 :=
  match hexValue c, hexValue d with
  | some h, some l => some (.ofNat (h * 16 + l))
  | _, _ => none

/-- A byte that stands for itself. -/
def plain (b : UInt8) : Bool :=
  b = 0x09 ∨ b = 0x0D ∨ b = 0x0A ∨ 0x80 ≤ b.toNat ∨ (0x20 ≤ b.toNat ∧ b.toNat ≤ 0x7E)

/-- The bytes of a line. A `=` without two digits behind it is one itself, but not at the end of the line. -/
def decodeLine : Bytes → Option Bytes
  | [] => some []
  | [b] => if b = 0x3D then none else if plain b then some [b] else none
  | [b, c] =>
    if b = 0x3D ∧ (c = 0x0D ∨ c = 0x0A) then none
    else if plain b then (decodeLine [c]).map (b :: ·)
    else none
  | b :: c :: d :: s =>
    if b = 0x3D then
      match hexByte c d with
      | some v => (decodeLine s).map (v :: ·)
      | none => if c = 0x0D ∨ c = 0x0A then none else (decodeLine (c :: d :: s)).map (b :: ·)
    else if plain b then (decodeLine (c :: d :: s)).map (b :: ·)
    else none

/-- The end of a line as it was. -/
def lineEnd (line : Bytes) : Bytes :=
  if [0x0D, 0x0A] <:+ line then [0x0D, 0x0A] else if [0x0A] <:+ line then [0x0A] else []

/-- A line without the white space at its end; with a `=` there it goes on. No result is an error. -/
def softened (line : Bytes) : Option Bytes :=
  let kept := trimRight line
  if [0x3D] <:+ kept then
    let stripped := line.drop kept.length
    if [0x0A] <+: stripped ∨ [0x0D, 0x0A] <+: stripped ∨ (stripped = [] ∧ 1 < kept.length) then some kept.dropLast
    else none
  else some (kept ++ lineEnd line)

def decodeLines : List Bytes → Option Bytes
  | [] => some []
  | line :: lines =>
    if bufferSize < line.length ∨ (line.length = bufferSize ∧ ¬ [0x0A] <:+ line) then none
    else
      match softened line with
      | none => none
      | some kept =>
        match decodeLine kept, decodeLines lines with
        | some bs, some rest => some (bs ++ rest)
        | _, _ => none

/-- `quotedprintable.NewReader`, read to the end; no result is an error. -/
def decode (s : Bytes) : Option Bytes := decodeLines (linesFrom [] s)

section Length

variable {s t : Bytes}

lemma length_le_of_map_cons {o : Option Bytes} {b : UInt8} {n : ℕ} (ih : ∀ {t : Bytes}, o = some t → t.length ≤ n)
    (h : o.map (b :: ·) = some t) : t.length ≤ n + 1 := by
  obtain ⟨u, hu, rfl⟩ := Option.map_eq_some_iff.mp h
  exact Nat.succ_le_succ (ih hu)

lemma length_decodeLine_le (h : decodeLine s = some t) : t.length ≤ s.length := by
  fun_induction decodeLine s generalizing t with
  | case1 => cases h; rfl
  | case3 b hb hp => cases h; rfl
  | case6 b c hb hp ih => exact length_le_of_map_cons ih h
  | case8 c d s v hv ih =>
    have := length_le_of_map_cons ih h
    simp only [List.length_cons]
    omega
  | case10 c d s hnone hc ih => exact length_le_of_map_cons ih h
  | case11 b c d s hb hp ih => exact length_le_of_map_cons ih h
  | _ => cases h

lemma trimRight_isPrefix (s : Bytes) : trimRight s <+: s := by
  unfold trimRight
  have h := List.dropWhile_suffix discarded (l := s.reverse)
  rw [← List.reverse_prefix, List.reverse_reverse] at h
  exact h

lemma trimRight_append {e : Bytes} (he : ∀ b ∈ e, discarded b = true) (s : Bytes) :
    trimRight (s ++ e) = trimRight s := by
  unfold trimRight
  rw [List.reverse_append, List.dropWhile_append_of_pos fun b hb => he b (List.mem_reverse.mp hb)]

/-- The line end belongs to the white space at the end of the line. -/
lemma length_trimRight_lineEnd_le (s : Bytes) : (trimRight s ++ lineEnd s).length ≤ s.length := by
  have hsuffix : lineEnd s <:+ s := by
    unfold lineEnd
    split_ifs with hcr hlf
    · exact hcr
    · exact hlf
    · exact List.nil_suffix
  have hwhite : ∀ b ∈ lineEnd s, discarded b = true := by
    unfold lineEnd
    split_ifs <;> simp [discarded]
  obtain ⟨u, hu⟩ := hsuffix
  have hlen := (trimRight_isPrefix u).length_le
  rw [← trimRight_append hwhite u, hu] at hlen
  have htotal := congrArg List.length hu
  rw [List.length_append] at htotal ⊢
  omega

lemma length_softened_le (h : softened s = some t) : t.length ≤ s.length := by
  unfold softened at h
  simp only at h
  split_ifs at h with heq hbreak
  · cases h
    rw [List.length_dropLast]
    have := (trimRight_isPrefix s).length_le
    omega
  · cases h
    exact length_trimRight_lineEnd_le s

lemma length_decodeLines_le {lines : List Bytes} (h : decodeLines lines = some t) :
    t.length ≤ lines.flatten.length := by
  induction lines generalizing t with
  | nil => cases h; rfl
  | cons line lines ih =>
    unfold decodeLines at h
    split_ifs at h with hfull
    cases hs : softened line with
    | none => simp [hs] at h
    | some kept =>
      cases hd : decodeLine kept with
      | none => simp [hs, hd] at h
      | some bs =>
        cases hr : decodeLines lines with
        | none => simp [hs, hd, hr] at h
        | some rest =>
          simp only [hs, hd, hr, Option.some.injEq] at h
          subst h
          have h1 := length_softened_le hs
          have h2 := length_decodeLine_le hd
          have h3 := ih hr
          rw [List.flatten_cons, List.length_append, List.length_append]
          omega

lemma flatten_linesFrom (line s : Bytes) : (linesFrom line s).flatten = line ++ s := by
  induction s generalizing line with
  | nil => simp [linesFrom]
  | cons b s ih =>
    unfold linesFrom
    split_ifs with hb
    · simp [ih]
    · rw [ih, List.append_assoc]
      rfl

/-- **Decoding does not make a text longer.** -/
lemma length_decode_le (h : decode s = some t) : t.length ≤ s.length := by
  have hle := length_decodeLines_le h
  rwa [flatten_linesFrom, List.nil_append] at hle

end Length

end Lib.QuotedPrintable
