import Mathlib.Data.List.Basic
import Sn360Es.Lib.GoBytes

/-!
# Lower case of byte strings (`unicode/utf8`, `strings.ToLower`, `bytes.ToLower`)

A byte string is read rune by rune; a byte that belongs to no rune counts as `U+FFFD`. `ToLower` writes the lower case
of every rune, so the result may be shorter or longer than the string, also before a place of interest.

* `decodeRune`, `encodeRune` — `utf8.DecodeRune`, `utf8.AppendRune`;
* `trimSpace` — `strings.TrimSpace`; `valid` — `utf8.Valid`;
* `throughJson` — what `encoding/json` leaves of a string;
* `toLower` — `ToLower`; the table of the runes is a parameter;
* `toLower_append` — it works on both sides of an ASCII letter separately;
* `at_toLower_iff` — where it has a word of ASCII letters that no other rune is lowered to.
-/

namespace Lib.Utf8

open GoBytes

/-- `utf8.RuneError`. -/
def runeError : ℕ := 0xFFFD

/-- A byte `b` with `lo ≤ b ≤ hi`. -/
def within (lo hi : ℕ) (b : UInt8) : Bool := lo ≤ b.toNat ∧ b.toNat ≤ hi

/-- The second byte of a rune that begins with `b`, for those with three and four bytes. -/
def second3 (b b1 : UInt8) : Bool :=
  if b = 0xE0 then within 0xA0 0xBF b1 else if b = 0xED then within 0x80 0x9F b1 else within 0x80 0xBF b1

def second4 (b b1 : UInt8) : Bool :=
  if b = 0xF0 then within 0x90 0xBF b1 else if b = 0xF4 then within 0x80 0x8F b1 else within 0x80 0xBF b1

/-- A rune of several bytes, and its width: it begins with `b`, and `s` follows. -/
def decodeMulti (b : UInt8) : List UInt8 → Option (ℕ × ℕ)
  | [] => none
  | [b1] => two b b1
  | [b1, b2] => (two b b1).or (three b b1 b2)
  | b1 :: b2 :: b3 :: _ => ((two b b1).or (three b b1 b2)).or (four b b1 b2 b3)
where
  two (b b1 : UInt8) : Option (ℕ × ℕ) :=
    if within 0xC2 0xDF b ∧ within 0x80 0xBF b1 then some (b.toNat % 32 * 64 + b1.toNat % 64, 2) else none
  three (b b1 b2 : UInt8) : Option (ℕ × ℕ) :=
    if within 0xE0 0xEF b ∧ second3 b b1 ∧ within 0x80 0xBF b2 then
      some (b.toNat % 16 * 4096 + b1.toNat % 64 * 64 + b2.toNat % 64, 3)
    else none
  four (b b1 b2 b3 : UInt8) : Option (ℕ × ℕ) :=
    if within 0xF0 0xF4 b ∧ second4 b b1 ∧ within 0x80 0xBF b2 ∧ within 0x80 0xBF b3 then
      some (b.toNat % 8 * 262144 + b1.toNat % 64 * 4096 + b2.toNat % 64 * 64 + b3.toNat % 64, 4)
    else none

/-- `utf8.DecodeRune`: the rune, and its width. -/
def decodeRune : List UInt8 → ℕ × ℕ
  | [] => (runeError, 0)
  | b :: s => if b.toNat < 0x80 then (b.toNat, 1) else (decodeMulti b s).getD (runeError, 1)

/-- `utf8.AppendRune`, for a rune that is valid. -/
def encodeRune (r : ℕ) : List UInt8 :=
  if r < 0x80 then [.ofNat r]
  else if r < 0x800 then [.ofNat (0xC0 + r / 64), .ofNat (0x80 + r % 64)]
  else if r < 0x10000 then [.ofNat (0xE0 + r / 4096), .ofNat (0x80 + r / 64 % 64), .ofNat (0x80 + r % 64)]
  else [.ofNat (0xF0 + r / 262144 % 8), .ofNat (0x80 + r / 4096 % 64), .ofNat (0x80 + r / 64 % 64),
    .ofNat (0x80 + r % 64)]

/-- The runes of `unicode.IsSpace`. -/
def spaceRunes : List ℕ :=
  [0x09, 0x0A, 0x0B, 0x0C, 0x0D, 0x20, 0x85, 0xA0, 0x1680, 0x2000, 0x2001, 0x2002, 0x2003, 0x2004, 0x2005, 0x2006,
    0x2007, 0x2008, 0x2009, 0x200A, 0x2028, 0x2029, 0x202F, 0x205F, 0x3000]

/-- The string after the words at its beginning; the next `skip` bytes belong to one that was read. -/
def trimLead (words : List (List UInt8)) : ℕ → List UInt8 → List UInt8
  | _, [] => []
  | skip + 1, _ :: s => trimLead words skip s
  | 0, b :: s =>
    match words.find? fun w => w <+: b :: s with
    | some w => trimLead words (w.length - 1) s
    | none => b :: s

/-- `strings.TrimSpace`. -/
def trimSpace (s : List UInt8) : List UInt8 :=
  let words := spaceRunes.map encodeRune
  (trimLead (words.map List.reverse) 0 (trimLead words 0 s).reverse).reverse

/-- `utf8.Valid` of what follows the next `skip` bytes, which belong to a rune that was read. -/
def validFrom : ℕ → List UInt8 → Bool
  | _, [] => true
  | skip + 1, _ :: s => validFrom skip s
  | 0, b :: s =>
    if b.toNat < 0x80 then validFrom 0 s
    else
      match decodeMulti b s with
      | none => false
      | some (_, w) => validFrom (w - 1) s

/-- `utf8.Valid`. -/
def valid (s : List UInt8) : Bool := validFrom 0 s

/-- The text after the next `skip` bytes, which belong to a rune that was read, with each byte that begins no rune
replaced by `U+FFFD`. -/
def replaceFrom : ℕ → List UInt8 → List UInt8
  | _, [] => []
  | skip + 1, b :: s => b :: replaceFrom skip s
  | 0, b :: s =>
    if b.toNat < 0x80 then b :: replaceFrom 0 s
    else
      match decodeMulti b s with
      | none => encodeRune runeError ++ replaceFrom 0 s
      | some (_, w) => b :: replaceFrom (w - 1) s

/-- A string that was written by `json.Marshal` and read back. -/
def throughJson (s : List UInt8) : List UInt8 := replaceFrom 0 s

/-- The lower case of an ASCII letter; other bytes stay. -/
def asciiLower (b : UInt8) : UInt8 := if within 0x41 0x5A b then b + 0x20 else b

section Lower

variable (lower : ℕ → ℕ)

/-- The lower case of what follows the next `skip` bytes, which belong to a rune that was read. -/
def toLowerFrom : ℕ → List UInt8 → List UInt8
  | _, [] => []
  | skip + 1, _ :: s => toLowerFrom skip s
  | 0, b :: s => encodeRune (lower (decodeRune (b :: s)).1) ++ toLowerFrom ((decodeRune (b :: s)).2 - 1) s

/-- `strings.ToLower`, `bytes.ToLower`; `lower` is `unicode.ToLower`. -/
def toLower (s : List UInt8) : List UInt8 := toLowerFrom lower 0 s

/-- What the table of `unicode.ToLower` says of ASCII: it has the usual letters, and the runes outside that are lowered
into it are `U+0130` and the Kelvin sign, to `i` and `k`. -/
structure Table : Prop where
  ascii : ∀ b : UInt8, b.toNat < 0x80 → lower b.toNat = (asciiLower b).toNat
  outside : ∀ r, 0x80 ≤ r → lower r < 0x80 → lower r = 0x69 ∨ lower r = 0x6B

end Lower

/-! ### Decoding -/

section Decode

variable {s t : List UInt8} {b c : UInt8}

lemma decodeRune_ascii (hb : b.toNat < 0x80) (s : List UInt8) : decodeRune (b :: s) = (b.toNat, 1) := by
  unfold decodeRune
  exact if_pos hb

lemma within_iff {lo hi : ℕ} : within lo hi b = true ↔ lo ≤ b.toNat ∧ b.toNat ≤ hi := decide_eq_true_iff

lemma second3_spec {b1 : UInt8} (h : second3 b b1 = true) :
    0x80 ≤ b1.toNat ∧ b1.toNat ≤ 0xBF ∧ (b.toNat = 0xE0 → 0xA0 ≤ b1.toNat) := by
  unfold second3 at h
  split_ifs at h with hE0 hED
  all_goals rw [within_iff] at h
  · omega
  · subst hED
    refine ⟨by omega, by omega, fun hb => absurd hb (by decide)⟩
  · refine ⟨by omega, by omega, fun hb => absurd (UInt8.toNat_inj.mp hb) hE0⟩

lemma second4_spec {b1 : UInt8} (h : second4 b b1 = true) :
    0x80 ≤ b1.toNat ∧ b1.toNat ≤ 0xBF ∧ (b.toNat = 0xF0 → 0x90 ≤ b1.toNat) := by
  unfold second4 at h
  split_ifs at h with hF0 hF4
  all_goals rw [within_iff] at h
  · omega
  · subst hF4
    refine ⟨by omega, by omega, fun hb => absurd hb (by decide)⟩
  · refine ⟨by omega, by omega, fun hb => absurd (UInt8.toNat_inj.mp hb) hF0⟩

lemma two_some {b1 : UInt8} {r w : ℕ} (h : decodeMulti.two b b1 = some (r, w)) :
    0x80 ≤ r ∧ w = 2 ∧ 0x80 ≤ b1.toNat := by
  unfold decodeMulti.two at h
  split_ifs at h with hb
  rw [within_iff, within_iff] at hb
  cases h
  refine ⟨by omega, rfl, by omega⟩

lemma three_some {b1 b2 : UInt8} {r w : ℕ} (h : decodeMulti.three b b1 b2 = some (r, w)) :
    0x80 ≤ r ∧ w = 3 ∧ 0x80 ≤ b1.toNat ∧ 0x80 ≤ b2.toNat ∧ decodeMulti.two b b1 = none := by
  unfold decodeMulti.three at h
  split_ifs at h with hb
  obtain ⟨hlead, h1, h2⟩ := hb
  have hsecond := second3_spec h1
  rw [within_iff] at hlead h2
  cases h
  refine ⟨by omega, rfl, by omega, by omega, if_neg fun htwo => ?_⟩
  rw [within_iff] at htwo
  omega

lemma four_some {b1 b2 b3 : UInt8} {r w : ℕ} (h : decodeMulti.four b b1 b2 b3 = some (r, w)) :
    0x80 ≤ r ∧ w = 4 ∧ 0x80 ≤ b1.toNat ∧ 0x80 ≤ b2.toNat ∧ 0x80 ≤ b3.toNat ∧
      decodeMulti.two b b1 = none ∧ decodeMulti.three b b1 b2 = none := by
  unfold decodeMulti.four at h
  split_ifs at h with hb
  obtain ⟨hlead, h1, h2, h3⟩ := hb
  have hsecond := second4_spec h1
  rw [within_iff] at hlead h2 h3
  cases h
  refine ⟨by omega, rfl, by omega, by omega, by omega, if_neg fun htwo => ?_, if_neg fun hthree => ?_⟩
  · rw [within_iff] at htwo
    omega
  · rw [within_iff] at hthree
    omega

lemma decodeMulti_of_two {b1 : UInt8} {x : ℕ × ℕ} (h : decodeMulti.two b b1 = some x) (t : List UInt8) :
    decodeMulti b (b1 :: t) = some x := by
  cases t with
  | nil => exact h
  | cons b2 t => cases t <;> simp [decodeMulti, h]

lemma decodeMulti_of_three {b1 b2 : UInt8} {x : ℕ × ℕ} (htwo : decodeMulti.two b b1 = none)
    (h : decodeMulti.three b b1 b2 = some x) (t : List UInt8) : decodeMulti b (b1 :: b2 :: t) = some x := by
  cases t <;> simp [decodeMulti, htwo, h]

/-- A rune of several bytes lies outside ASCII, with all its bytes, and depends on them alone. -/
lemma decodeMulti_some {r w : ℕ} (h : decodeMulti b s = some (r, w)) :
    0x80 ≤ r ∧ ∃ x t, s = x ++ t ∧ x.length + 1 = w ∧ (∀ c ∈ x, 0x80 ≤ c.toNat) ∧
      ∀ t', decodeMulti b (x ++ t') = some (r, w) := by
  -- by the form that the rune has, with the bytes that are there
  have htwo : ∀ b1 t, s = b1 :: t → decodeMulti.two b b1 = some (r, w) → 0x80 ≤ r ∧ ∃ x t, s = x ++ t ∧
      x.length + 1 = w ∧ (∀ c ∈ x, 0x80 ≤ c.toNat) ∧ ∀ t', decodeMulti b (x ++ t') = some (r, w) := by
    intro b1 t hs h2
    obtain ⟨hr, rfl, hb1⟩ := two_some h2
    exact ⟨hr, [b1], t, hs, rfl, by simpa using hb1, decodeMulti_of_two h2⟩
  have hthree : ∀ b1 b2 t, s = b1 :: b2 :: t → decodeMulti.three b b1 b2 = some (r, w) → 0x80 ≤ r ∧ ∃ x t, s = x ++ t ∧
      x.length + 1 = w ∧ (∀ c ∈ x, 0x80 ≤ c.toNat) ∧ ∀ t', decodeMulti b (x ++ t') = some (r, w) := by
    intro b1 b2 t hs h3
    obtain ⟨hr, rfl, hb1, hb2, hnone⟩ := three_some h3
    exact ⟨hr, [b1, b2], t, hs, rfl, by simpa using ⟨hb1, hb2⟩, decodeMulti_of_three hnone h3⟩
  match s with
  | [] => cases h
  | [b1] => exact htwo b1 [] rfl h
  | [b1, b2] =>
    rcases Option.or_eq_some_iff.mp h with h2 | ⟨-, h3⟩
    · exact htwo b1 [b2] rfl h2
    · exact hthree b1 b2 [] rfl h3
  | b1 :: b2 :: b3 :: t =>
    rcases Option.or_eq_some_iff.mp h with h23 | ⟨-, h4⟩
    · rcases Option.or_eq_some_iff.mp h23 with h2 | ⟨-, h3⟩
      · exact htwo b1 (b2 :: b3 :: t) rfl h2
      · exact hthree b1 b2 (b3 :: t) rfl h3
    · obtain ⟨hr, rfl, hb1, hb2, hb3, hn2, hn3⟩ := four_some h4
      refine ⟨hr, [b1, b2, b3], t, rfl, rfl, by simpa using ⟨hb1, hb2, hb3⟩, fun t' => ?_⟩
      simp [decodeMulti, hn2, hn3, h4]

/-- A rune ends before an ASCII byte. -/
lemma decodeMulti_append (hc : c.toNat < 0x80) (s t : List UInt8) :
    decodeMulti b (s ++ c :: t) = decodeMulti b s := by
  cases hs : decodeMulti b s with
  | some x =>
    obtain ⟨-, y, z, rfl, -, -, hall⟩ := decodeMulti_some (r := x.1) (w := x.2) hs
    rw [List.append_assoc]
    exact hall _
  | none =>
    cases hst : decodeMulti b (s ++ c :: t) with
    | none => rfl
    | some x =>
      obtain ⟨-, y, z, hyz, -, hhigh, hall⟩ := decodeMulti_some (r := x.1) (w := x.2) hst
      -- the bytes of the rune are all in `s`
      have hprefix : ∃ u, s = y ++ u := by
        rcases List.append_eq_append_iff.mp hyz with ⟨u, hy, hct⟩ | ⟨u, hu, -⟩
        · cases u with
          | nil => exact ⟨[], by rw [hy]; simp⟩
          | cons d u =>
            obtain ⟨rfl, -⟩ := List.cons.inj hct
            have hd := hhigh c (by rw [hy]; simp)
            omega
        · exact ⟨u, hu⟩
      obtain ⟨u, rfl⟩ := hprefix
      rw [hall u] at hs
      cases hs

lemma decodeRune_append (hc : c.toNat < 0x80) (b : UInt8) (s t : List UInt8) :
    decodeRune (b :: (s ++ c :: t)) = decodeRune (b :: s) := by
  simp only [decodeRune, decodeMulti_append hc]

/-- A rune that does not begin with an ASCII byte is not an ASCII rune, and neither are its bytes. -/
lemma decodeRune_high (hb : ¬ b.toNat < 0x80) (s : List UInt8) :
    0x80 ≤ (decodeRune (b :: s)).1 ∧ (decodeRune (b :: s)).2 - 1 ≤ s.length := by
  have hrune : decodeRune (b :: s) = (decodeMulti b s).getD (runeError, 1) := if_neg hb
  rw [hrune]
  cases hs : decodeMulti b s with
  | none => exact ⟨by decide, Nat.zero_le _⟩
  | some x =>
    obtain ⟨hr, y, z, rfl, hw, -⟩ := decodeMulti_some (r := x.1) (w := x.2) hs
    refine ⟨hr, ?_⟩
    show x.2 - 1 ≤ _
    rw [List.length_append]
    omega

/-! ### Encoding -/

lemma within_ofNat {lo hi n : ℕ} (hlo : lo ≤ n) (hhi : n ≤ hi) (h : hi < 256) : within lo hi (.ofNat n) = true := by
  rw [within_iff, UInt8.toNat_ofNat', Nat.mod_eq_of_lt (by omega)]
  exact ⟨hlo, hhi⟩

lemma second3_of {b1 : UInt8} (h1 : 0x80 ≤ b1.toNat ∧ b1.toNat ≤ 0xBF) (hE0 : b.toNat = 0xE0 → 0xA0 ≤ b1.toNat)
    (hED : b.toNat = 0xED → b1.toNat ≤ 0x9F) : second3 b b1 = true := by
  unfold second3
  split_ifs with h h'
  · exact within_iff.mpr ⟨hE0 (by rw [h]; rfl), h1.2⟩
  · exact within_iff.mpr ⟨h1.1, hED (by rw [h']; rfl)⟩
  · exact within_iff.mpr h1

lemma second4_of {b1 : UInt8} (h1 : 0x80 ≤ b1.toNat ∧ b1.toNat ≤ 0xBF) (hF0 : b.toNat = 0xF0 → 0x90 ≤ b1.toNat)
    (hF4 : b.toNat = 0xF4 → b1.toNat ≤ 0x8F) : second4 b b1 = true := by
  unfold second4
  split_ifs with h h'
  · exact within_iff.mpr ⟨hF0 (by rw [h]; rfl), h1.2⟩
  · exact within_iff.mpr ⟨h1.1, hF4 (by rw [h']; rfl)⟩
  · exact within_iff.mpr h1

/-- The bits of a byte that continues a rune. -/
lemma continuation_mod (n : ℕ) : (0x80 + n % 64) % 256 % 64 = n % 64 := by omega

lemma decodeMulti_encode_two {r : ℕ} (h1 : 0x80 ≤ r) (h2 : r < 0x800) (t : List UInt8) :
    decodeMulti (.ofNat (0xC0 + r / 64)) (.ofNat (0x80 + r % 64) :: t) = some (r, 2) := by
  refine decodeMulti_of_two ?_ t
  have hb : within 0xC2 0xDF (.ofNat (0xC0 + r / 64)) = true := within_ofNat (by omega) (by omega) (by decide)
  unfold decodeMulti.two
  rw [if_pos ⟨hb, within_ofNat (by omega) (by omega) (by decide)⟩, UInt8.toNat_ofNat', UInt8.toNat_ofNat']
  congr 2
  omega

lemma decodeMulti_encode_three {r : ℕ} (h1 : 0x800 ≤ r) (h2 : r < 0x10000) (hr : r < 0xD800 ∨ 0xE000 ≤ r)
    (t : List UInt8) :
    decodeMulti (.ofNat (0xE0 + r / 4096)) (.ofNat (0x80 + r / 64 % 64) :: .ofNat (0x80 + r % 64) :: t) =
      some (r, 3) := by
  refine decodeMulti_of_three (if_neg ?_) ?_ t
  · rw [within_iff, within_iff, UInt8.toNat_ofNat']
    omega
  · have hsecond : second3 (.ofNat (0xE0 + r / 4096)) (.ofNat (0x80 + r / 64 % 64)) = true := by
      refine second3_of ?_ ?_ ?_ <;> simp only [UInt8.toNat_ofNat'] <;> omega
    have hb : within 0xE0 0xEF (.ofNat (0xE0 + r / 4096)) = true := within_ofNat (by omega) (by omega) (by decide)
    unfold decodeMulti.three
    rw [if_pos ⟨hb, hsecond, within_ofNat (by omega) (by omega) (by decide)⟩, UInt8.toNat_ofNat', UInt8.toNat_ofNat',
      UInt8.toNat_ofNat']
    congr 2
    omega

lemma decodeMulti_encode_four {r : ℕ} (h1 : 0x10000 ≤ r) (h2 : r < 0x110000) (t : List UInt8) :
    decodeMulti (.ofNat (0xF0 + r / 262144 % 8)) (.ofNat (0x80 + r / 4096 % 64) :: .ofNat (0x80 + r / 64 % 64) ::
      .ofNat (0x80 + r % 64) :: t) = some (r, 4) := by
  have htwo : decodeMulti.two (.ofNat (0xF0 + r / 262144 % 8)) (.ofNat (0x80 + r / 4096 % 64)) = none := by
    refine if_neg ?_
    rw [within_iff, within_iff, UInt8.toNat_ofNat']
    omega
  have hthree : decodeMulti.three (.ofNat (0xF0 + r / 262144 % 8)) (.ofNat (0x80 + r / 4096 % 64))
      (.ofNat (0x80 + r / 64 % 64)) = none := by
    refine if_neg ?_
    rw [within_iff, within_iff, UInt8.toNat_ofNat']
    omega
  have hsecond : second4 (.ofNat (0xF0 + r / 262144 % 8)) (.ofNat (0x80 + r / 4096 % 64)) = true := by
    refine second4_of ?_ ?_ ?_ <;> simp only [UInt8.toNat_ofNat'] <;> omega
  simp only [decodeMulti, htwo, hthree, Option.none_or]
  have hb : within 0xF0 0xF4 (.ofNat (0xF0 + r / 262144 % 8)) = true :=
    within_ofNat (by omega) (by omega) (by decide)
  unfold decodeMulti.four
  have hlead : (0xF0 + r / 262144 % 8) % 256 % 8 = r / 262144 := by omega
  rw [if_pos ⟨hb, hsecond, within_ofNat (by omega) (by omega) (by decide), within_ofNat (by omega) (by omega)
    (by decide)⟩]
  simp only [UInt8.toNat_ofNat', Nat.reducePow, hlead, continuation_mod]
  congr 2
  omega

/-- **What was encoded is decoded.** -/
lemma decodeRune_encodeRune (c : Char) (t : List UInt8) :
    decodeRune (encodeRune c.toNat ++ t) = (c.toNat, (encodeRune c.toNat).length) := by
  have hvalid : c.toNat < 0xD800 ∨ 0xDFFF < c.toNat ∧ c.toNat < 0x110000 := c.valid
  have hmulti : ∀ {b : UInt8} {s : List UInt8} {x : ℕ × ℕ}, 0x80 ≤ b.toNat → decodeMulti b s = some x →
      decodeRune (b :: s) = x := by
    intro b s x hb h
    rw [decodeRune, if_neg (by omega), h]
    rfl
  unfold encodeRune
  split_ifs with h1 h2 h3
  · rw [List.singleton_append, decodeRune_ascii (by rw [UInt8.toNat_ofNat']; omega), UInt8.toNat_ofNat']
    simp only [List.length_singleton, Prod.mk.injEq, and_true]
    omega
  · exact hmulti (by rw [UInt8.toNat_ofNat']; omega) (decodeMulti_encode_two (by omega) h2 t)
  · exact hmulti (by rw [UInt8.toNat_ofNat']; omega) (decodeMulti_encode_three (by omega) h3 (by omega) t)
  · exact hmulti (by rw [UInt8.toNat_ofNat']; omega) (decodeMulti_encode_four (by omega) (by omega) t)

end Decode

/-! ### Lower case -/

section ToLower

variable {lower : ℕ → ℕ} {s t : List UInt8} {b c : UInt8}

lemma asciiLower_lt (hb : b.toNat < 0x80) : (asciiLower b).toNat < 0x80 := by
  unfold asciiLower
  split_ifs with h
  · rw [within_iff] at h
    rw [UInt8.toNat_add]
    have h20 : (0x20 : UInt8).toNat = 0x20 := rfl
    omega
  · exact hb

lemma encodeRune_ascii {r : ℕ} (hr : r < 0x80) : encodeRune r = [.ofNat r] := if_pos hr

/-- The bytes of a rune outside ASCII. -/
lemma encodeRune_high {r : ℕ} (hr : ¬ r < 0x80) (hc : c ∈ encodeRune r) : 0x80 ≤ c.toNat := by
  unfold encodeRune at hc
  rw [if_neg hr] at hc
  split_ifs at hc with h2 h3 <;> simp only [List.mem_cons, List.not_mem_nil, or_false] at hc
  · rcases hc with rfl | rfl <;> rw [UInt8.toNat_ofNat'] <;> omega
  · rcases hc with rfl | rfl | rfl <;> rw [UInt8.toNat_ofNat'] <;> omega
  · rcases hc with rfl | rfl | rfl | rfl <;> rw [UInt8.toNat_ofNat'] <;> omega

lemma toLowerFrom_ascii (hl : Table lower) (hb : b.toNat < 0x80) (s : List UInt8) :
    toLowerFrom lower 0 (b :: s) = asciiLower b :: toLowerFrom lower 0 s := by
  show encodeRune (lower (decodeRune (b :: s)).1) ++ toLowerFrom lower ((decodeRune (b :: s)).2 - 1) s = _
  rw [decodeRune_ascii hb, hl.ascii b hb, encodeRune_ascii (asciiLower_lt hb), UInt8.ofNat_toNat]
  rfl

/-- **An ASCII byte divides.** -/
lemma toLowerFrom_append (hc : c.toNat < 0x80) {skip : ℕ} (hskip : skip ≤ s.length) :
    toLowerFrom lower skip (s ++ c :: t) = toLowerFrom lower skip s ++ toLowerFrom lower 0 (c :: t) := by
  induction s generalizing skip with
  | nil =>
    obtain rfl : skip = 0 := Nat.le_zero.mp hskip
    rfl
  | cons b s ih =>
    cases skip with
    | succ skip => exact ih (Nat.le_of_succ_le_succ hskip)
    | zero =>
      show encodeRune (lower (decodeRune (b :: (s ++ c :: t))).1) ++
        toLowerFrom lower ((decodeRune (b :: (s ++ c :: t))).2 - 1) (s ++ c :: t) = _
      have hwidth : (decodeRune (b :: s)).2 - 1 ≤ s.length := by
        by_cases hb : b.toNat < 0x80
        · rw [decodeRune_ascii hb]
          exact Nat.zero_le _
        · exact (decodeRune_high hb s).2
      rw [decodeRune_append hc, ih hwidth, ← List.append_assoc]
      rfl

lemma toLower_append (hc : c.toNat < 0x80) (s t : List UInt8) :
    toLower lower (s ++ c :: t) = toLower lower s ++ toLower lower (c :: t) :=
  toLowerFrom_append hc (Nat.zero_le _)

lemma toLower_concat_append (hl : Table lower) (hc : c.toNat < 0x80) (s t : List UInt8) :
    toLower lower (s ++ [c] ++ t) = toLower lower (s ++ [c]) ++ toLower lower t := by
  have hcons : toLower lower (c :: t) = toLower lower [c] ++ toLower lower t := by
    rw [toLower, toLower, toLower, toLowerFrom_ascii hl hc, toLowerFrom_ascii hl hc]
    rfl
  rw [List.append_assoc, List.singleton_append, toLower_append hc, toLower_append hc, hcons, List.append_assoc]

/-! ### White space -/

lemma trimLead_suffix (words : List (List UInt8)) (skip : ℕ) (s : List UInt8) : trimLead words skip s <:+ s := by
  induction s generalizing skip with
  | nil => cases skip <;> exact List.suffix_refl _
  | cons b s ih =>
    cases skip with
    | succ skip => exact (ih skip).trans (List.suffix_cons b s)
    | zero =>
      unfold trimLead
      split
      · exact (ih _).trans (List.suffix_cons b s)
      · exact List.suffix_refl _

/-- What is trimmed is made of the words. -/
lemma trimLead_split {words : List (List UInt8)} (hne : ∀ w ∈ words, w ≠ []) (skip : ℕ) (s : List UInt8) :
    ∃ l, s = l ++ trimLead words skip s ∧ ∀ c, (∀ w ∈ words, c ∉ w) → c ∉ s.take skip → c ∉ l := by
  induction s generalizing skip with
  | nil => exact ⟨[], by cases skip <;> rfl, fun _ _ _ => List.not_mem_nil⟩
  | cons b s ih =>
    cases skip with
    | succ skip =>
      obtain ⟨l, hl, hfree⟩ := ih skip
      refine ⟨b :: l, congrArg (b :: ·) hl, fun c hc hskip => ?_⟩
      rw [List.take_succ_cons, List.mem_cons, not_or] at hskip
      rw [List.mem_cons, not_or]
      exact ⟨hskip.1, hfree c hc hskip.2⟩
    | zero =>
      unfold trimLead
      split
      · next w hw =>
        obtain ⟨t, ht⟩ : w <+: b :: s := by simpa using List.find?_some hw
        have hmem := List.mem_of_find?_eq_some hw
        obtain ⟨d, w, rfl⟩ := List.exists_cons_of_ne_nil (hne _ hmem)
        rw [List.cons_append, List.cons.injEq] at ht
        obtain ⟨rfl, rfl⟩ := ht
        obtain ⟨l, hl, hfree⟩ := ih w.length
        refine ⟨d :: l, congrArg (d :: ·) hl, fun c hc _ => ?_⟩
        have hcw := hc _ hmem
        rw [List.mem_cons, not_or] at hcw ⊢
        refine ⟨hcw.1, hfree c hc ?_⟩
        rw [List.take_left]
        exact hcw.2
      · exact ⟨[], rfl, fun _ _ _ => List.not_mem_nil⟩

/-- The bytes before and after what is left of a text are of spaces. -/
lemma trimSpace_split (s : List UInt8) : ∃ l r, s = l ++ trimSpace s ++ r ∧
    ∀ c, (∀ w ∈ spaceRunes.map encodeRune, c ∉ w) → c ∉ l ∧ c ∉ r := by
  have hne : ∀ w ∈ spaceRunes.map encodeRune, w ≠ [] := by decide
  have hrev : ∀ w ∈ (spaceRunes.map encodeRune).map List.reverse, w ≠ [] := by
    intro w hw
    obtain ⟨v, hv, rfl⟩ := List.mem_map.mp hw
    simpa using hne v hv
  obtain ⟨l, hl, hlead⟩ := trimLead_split hne 0 s
  obtain ⟨r, hr, htail⟩ := trimLead_split hrev 0 (trimLead (spaceRunes.map encodeRune) 0 s).reverse
  refine ⟨l, r.reverse, ?_, fun c hc => ⟨hlead c hc (by simp), ?_⟩⟩
  · have hback := congrArg List.reverse hr
    rw [List.reverse_reverse, List.reverse_append] at hback
    rw [List.append_assoc]
    exact hl.trans (congrArg (l ++ ·) hback)
  · rw [List.mem_reverse]
    refine htail c (fun w hw => ?_) (by simp)
    obtain ⟨v, hv, rfl⟩ := List.mem_map.mp hw
    simpa using hc v hv

/-- A byte of no space stays. -/
lemma mem_trimSpace (hc : ∀ w ∈ spaceRunes.map encodeRune, c ∉ w) (h : c ∈ s) : c ∈ trimSpace s := by
  obtain ⟨l, r, hs, hfree⟩ := trimSpace_split s
  rw [hs, List.mem_append, List.mem_append] at h
  rcases h with (h | h) | h
  · exact absurd h (hfree c hc).1
  · exact h
  · exact absurd h (hfree c hc).2

lemma length_trimSpace_le (s : List UInt8) : (trimSpace s).length ≤ s.length := by
  unfold trimSpace
  rw [List.length_reverse]
  refine (trimLead_suffix _ _ _).length_le.trans ?_
  rw [List.length_reverse]
  exact (trimLead_suffix _ _ _).length_le

/-- A text that keeps its length is not trimmed. -/
lemma trimSpace_eq_of_length (h : s.length ≤ (trimSpace s).length) : trimSpace s = s := by
  unfold trimSpace at *
  set words := spaceRunes.map encodeRune
  rw [List.length_reverse] at h
  have hlead := trimLead_suffix words 0 s
  have htail := trimLead_suffix (words.map List.reverse) 0 (trimLead words 0 s).reverse
  have hlen := htail.length_le
  rw [List.length_reverse] at hlen
  have hl := hlead.eq_of_length_le (h.trans hlen)
  have hle : (trimLead words 0 s).reverse.length ≤
      (trimLead (words.map List.reverse) 0 (trimLead words 0 s).reverse).length := by
    rw [List.length_reverse, hl]
    rw [hl] at h
    exact h
  show (trimLead (words.map List.reverse) 0 (trimLead words 0 s).reverse).reverse = s
  rw [htail.eq_of_length_le hle, List.reverse_reverse, hl]

/-! ### Words of ASCII letters -/

/-- Letters that no rune outside ASCII is lowered to. -/
def PlainWord (w : List UInt8) : Prop := ∀ c ∈ w, c.toNat < 0x80 ∧ c.toNat ≠ 0x69 ∧ c.toNat ≠ 0x6B

instance (w : List UInt8) : Decidable (PlainWord w) := inferInstanceAs (Decidable (∀ c ∈ w, _))

variable {w : List UInt8} {i : ℕ}

lemma toNat_asciiLower_lt_iff : (asciiLower b).toNat < 0x80 ↔ b.toNat < 0x80 := by
  refine ⟨fun h => ?_, asciiLower_lt⟩
  unfold asciiLower at h
  split_ifs at h with hb
  · rw [within_iff] at hb
    omega
  · exact h

/-- The letter of such a word comes from an ASCII byte. -/
lemma ascii_of_mem_encodeRune (hl : Table lower) (hc : c.toNat < 0x80 ∧ c.toNat ≠ 0x69 ∧ c.toNat ≠ 0x6B)
    (hmem : c ∈ encodeRune (lower (decodeRune (b :: s)).1)) : b.toNat < 0x80 := by
  by_contra hb
  obtain ⟨hhigh, -⟩ := decodeRune_high hb s
  by_cases hlow : lower (decodeRune (b :: s)).1 < 0x80
  · rw [encodeRune_ascii hlow, List.mem_singleton] at hmem
    subst hmem
    rw [UInt8.toNat_ofNat'] at hc
    rcases hl.outside _ hhigh hlow with h | h <;> rw [h] at hc <;> omega
  · have := encodeRune_high hlow hmem
    omega

/-- A rune is not lowered to nothing. -/
lemma encodeRune_ne_nil (r : ℕ) : encodeRune r ≠ [] := by
  unfold encodeRune
  split_ifs <;> simp

lemma prefix_toLower_iff (hl : Table lower) (hw : PlainWord w) :
    w <+: toLower lower s ↔ w <+: s.map asciiLower := by
  induction w generalizing s with
  | nil => simp
  | cons c w ih =>
    have hc := hw c List.mem_cons_self
    cases s with
    | nil => exact Iff.rfl
    | cons b s =>
      by_cases hb : b.toNat < 0x80
      · rw [toLower, toLowerFrom_ascii hl hb, List.map_cons, List.cons_prefix_cons, List.cons_prefix_cons]
        exact and_congr_right fun _ => ih fun d hd => hw d (List.mem_cons_of_mem _ hd)
      · refine iff_of_false (fun h => ?_) fun h => ?_
        · have hmem : c ∈ encodeRune (lower (decodeRune (b :: s)).1) := by
            have hE := encodeRune_ne_nil (lower (decodeRune (b :: s)).1)
            rw [toLower, toLowerFrom] at h
            cases he : encodeRune (lower (decodeRune (b :: s)).1) with
            | nil => exact absurd he hE
            | cons e E =>
              rw [he, List.cons_append, List.cons_prefix_cons] at h
              rw [h.1]
              exact List.mem_cons_self
          exact hb (ascii_of_mem_encodeRune hl hc hmem)
        · rw [List.map_cons, List.cons_prefix_cons] at h
          rw [h.1] at hc
          exact hb (toNat_asciiLower_lt_iff.mp hc.1)

/-- Where the word stands, the string has an ASCII byte. -/
lemma exists_of_at_map (hw : PlainWord w) (hne : w ≠ []) {p : ℕ} (hat : At w (s.map asciiLower) p) :
    ∃ c t, s = s.take p ++ c :: t ∧ c.toNat < 0x80 := by
  cases hdrop : s.drop p with
  | nil =>
    rw [At, ← List.map_drop, hdrop] at hat
    exact absurd (List.prefix_nil.mp hat) hne
  | cons c t =>
    refine ⟨c, t, by rw [← hdrop, List.take_append_drop], ?_⟩
    cases w with
    | nil => exact absurd rfl hne
    | cons d w =>
      rw [At, ← List.map_drop, hdrop, List.map_cons, List.cons_prefix_cons] at hat
      have hd := hw d List.mem_cons_self
      rw [hat.1] at hd
      exact toNat_asciiLower_lt_iff.mp hd.1

lemma at_of_at_toLowerFrom (hl : Table lower) (hw : PlainWord w) (hne : w ≠ []) {skip : ℕ}
    (hat : At w (toLowerFrom lower skip s) i) :
    ∃ p, At w (s.map asciiLower) p ∧ (toLowerFrom lower skip (s.take p)).length = i := by
  induction s generalizing skip i with
  | nil =>
    have hnil : toLowerFrom lower skip [] = [] := by cases skip <;> rfl
    rw [At, hnil, List.drop_nil] at hat
    exact absurd (List.prefix_nil.mp hat) hne
  | cons b s ih =>
    cases skip with
    | succ skip =>
      obtain ⟨p, hp, hlen⟩ := ih hat
      exact ⟨p + 1, hp, hlen⟩
    | zero =>
      set E := encodeRune (lower (decodeRune (b :: s)).1) with hE
      have hstep : toLowerFrom lower 0 (b :: s) = E ++ toLowerFrom lower ((decodeRune (b :: s)).2 - 1) s := rfl
      by_cases hi : i < E.length
      · -- the word begins within the first rune, which is an ASCII byte
        obtain ⟨c, w', rfl⟩ := List.exists_cons_of_ne_nil hne
        have hmem : c ∈ E := by
          rw [At, hstep, List.drop_append_of_le_length hi.le, List.drop_eq_getElem_cons hi, List.cons_append,
            List.cons_prefix_cons] at hat
          rw [hat.1]
          exact List.getElem_mem hi
        have hb := ascii_of_mem_encodeRune hl (hw c List.mem_cons_self) hmem
        have hone : E = [asciiLower b] := by
          rw [hE, decodeRune_ascii hb, hl.ascii b hb, encodeRune_ascii (asciiLower_lt hb), UInt8.ofNat_toNat]
        rw [hone, List.length_singleton, Nat.lt_one_iff] at hi
        subst hi
        exact ⟨0, (prefix_toLower_iff hl hw).mp hat, rfl⟩
      · rw [At, hstep, List.drop_append, List.drop_eq_nil_of_le (not_lt.mp hi), List.nil_append] at hat
        obtain ⟨p, hp, hlen⟩ := ih hat
        refine ⟨p + 1, hp, ?_⟩
        obtain ⟨c, t, hs, hc⟩ := exists_of_at_map hw hne hp
        have hrune := decodeRune_append hc b (s.take p) t
        rw [← hs] at hrune
        show (encodeRune (lower (decodeRune (b :: s.take p)).1) ++
          toLowerFrom lower ((decodeRune (b :: s.take p)).2 - 1) (s.take p)).length = i
        rw [← hrune, List.length_append, hlen, ← hE]
        omega

lemma at_toLower_of_at (hl : Table lower) (hw : PlainWord w) (hne : w ≠ []) {p : ℕ}
    (hat : At w (s.map asciiLower) p) : At w (toLower lower s) (toLower lower (s.take p)).length := by
  obtain ⟨c, t, hs, hc⟩ := exists_of_at_map hw hne hat
  have hdrop : s.drop p = c :: t := List.append_cancel_left ((List.take_append_drop p s).trans hs)
  have hsplit : toLower lower (s.take p ++ c :: t) = _ := toLower_append hc (s.take p) t
  rw [← hs] at hsplit
  rw [At, hsplit, List.drop_left, ← hdrop, prefix_toLower_iff hl hw, List.map_drop]
  exact hat

lemma length_toLower_lt (hw : PlainWord w) (hne : w ≠ []) {p p' : ℕ} (hat : At w (s.map asciiLower) p) (hlt : p < p') :
    (toLower lower (s.take p)).length < (toLower lower (s.take p')).length := by
  obtain ⟨c, t, hs, hc⟩ := exists_of_at_map hw hne hat
  have hdrop : s.drop p = c :: t := List.append_cancel_left ((List.take_append_drop p s).trans hs)
  obtain ⟨k, rfl⟩ : ∃ k, p' = p + (k + 1) := ⟨p' - p - 1, by omega⟩
  have htake : s.take (p + (k + 1)) = s.take p ++ c :: t.take k := by
    rw [List.take_add, hdrop, List.take_succ_cons]
  have hpos : 0 < (encodeRune (lower (decodeRune (c :: t.take k)).1)).length :=
    List.length_pos_iff.mpr (encodeRune_ne_nil _)
  have hrest : toLower lower (c :: t.take k) = encodeRune (lower (decodeRune (c :: t.take k)).1) ++
      toLowerFrom lower ((decodeRune (c :: t.take k)).2 - 1) (t.take k) := rfl
  rw [htake, toLower_append hc, hrest, List.length_append, List.length_append]
  omega

/-- **Where the lower case of a string has a word first**: after the lower case of what comes before it. -/
theorem index_toLower (hl : Table lower) (hw : PlainWord w) (hne : w ≠ []) :
    index w (toLower lower s) = (index w (s.map asciiLower)).map fun p => (toLower lower (s.take p)).length := by
  cases hp : index w (s.map asciiLower) with
  | none =>
    refine index_eq_none_iff.mpr fun i _ hat => ?_
    obtain ⟨p, hat', -⟩ := at_of_at_toLowerFrom hl hw hne hat
    exact index_eq_none_iff.mp hp p (hat'.lt_length hne).le hat'
  | some p =>
    obtain ⟨⟨-, hat⟩, hfirst⟩ := index_eq_some_iff.mp hp
    have hat' := at_toLower_of_at hl hw hne hat
    refine index_eq_some_iff.mpr ⟨⟨(hat'.lt_length hne).le, hat'⟩, fun j hj hatj => ?_⟩
    obtain ⟨p', hp', rfl⟩ := at_of_at_toLowerFrom hl hw hne hatj
    rcases lt_trichotomy p p' with hlt | rfl | hgt
    · exact absurd (length_toLower_lt hw hne hat hlt) (Nat.lt_asymm hj)
    · exact absurd hj (lt_irrefl _)
    · exact hfirst p' hgt hp'

end ToLower

end Lib.Utf8
