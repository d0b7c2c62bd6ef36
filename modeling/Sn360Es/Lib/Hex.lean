import Mathlib.Data.List.Basic
import Mathlib.Tactic.IntervalCases

/-!
# Hexadecimal text (`encoding/hex`)

Two lower-case digits per byte, high half first. `decode` reads both cases, and what `encode` wrote reads back
(`decode_encode`).
-/

namespace Lib

abbrev Bytes := List UInt8

/-- The bytes of a Go string. -/
def bytesOf (s : String) : Bytes := s.toByteArray.data.toList

lemma bytesOf_eq_flatMap (s : String) : bytesOf s = s.toList.flatMap String.utf8EncodeChar := by
  rw [bytesOf, ← String.utf8Encode_toList]
  simp [List.utf8Encode]

namespace Hex

/-- The digit of a half byte. -/
def digit (n : ℕ) : Char := "0123456789abcdef".toList.getD n '?'

/-- The value of a digit. -/
def value (c : Char) : Option ℕ :=
  if '0' ≤ c ∧ c ≤ '9' then some (c.toNat - '0'.toNat)
  else if 'a' ≤ c ∧ c ≤ 'f' then some (c.toNat - 'a'.toNat + 10)
  else if 'A' ≤ c ∧ c ≤ 'F' then some (c.toNat - 'A'.toNat + 10)
  else none

def encodeChars (bs : Bytes) : List Char :=
  bs.flatMap fun b => [digit (b.toNat / 16), digit (b.toNat % 16)]

/-- `hex.EncodeToString`. -/
def encode (bs : Bytes) : String := String.ofList (encodeChars bs)

def invalidByte (c : Char) : String := "encoding/hex: invalid byte: " ++ String.singleton c

def decodeChars : List Char → Except String Bytes
  | [] => .ok []
  | [c] =>
    match value c with
    | none => .error (invalidByte c)
    | some _ => .error "encoding/hex: odd length hex string"
  | a :: b :: cs =>
    match value a, value b with
    | none, _ => .error (invalidByte a)
    | _, none => .error (invalidByte b)
    | some x, some y =>
      match decodeChars cs with
      | .error err => .error err
      | .ok bs => .ok (UInt8.ofNat (16 * x + y) :: bs)

/-- `hex.DecodeString`. -/
def decode (s : String) : Except String Bytes := decodeChars s.toList

lemma value_digit {n : ℕ} (h : n < 16) : value (digit n) = some n := by
  interval_cases n <;> decide

lemma decodeChars_encodeChars (bs : Bytes) : decodeChars (encodeChars bs) = .ok bs := by
  induction bs with
  | nil => rfl
  | cons b bs ih =>
    have hb : b.toNat < 256 := b.toNat_lt
    have hhi : b.toNat / 16 < 16 := by omega
    have hlo : b.toNat % 16 < 16 := by omega
    have hval : UInt8.ofNat (16 * (b.toNat / 16) + b.toNat % 16) = b := by
      rw [Nat.div_add_mod]
      exact UInt8.ofNat_toNat
    rw [encodeChars, List.flatMap_cons, List.cons_append, List.cons_append, List.nil_append,
      decodeChars]
    simp only [value_digit hhi, value_digit hlo]
    rw [encodeChars] at ih
    simp only [ih, hval]

/-- **Round trip.** -/
theorem decode_encode (bs : Bytes) : decode (encode bs) = .ok bs := by
  rw [decode, encode, String.toList_ofList, decodeChars_encodeChars]

lemma encode_injective : Function.Injective encode := fun a b h =>
  Except.ok.inj ((decode_encode a).symm.trans ((congrArg decode h).trans (decode_encode b)))

end Hex

end Lib
