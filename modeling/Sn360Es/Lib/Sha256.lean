import Sn360Es.Lib.Chunks
import Sn360Es.Lib.Hex

/-!
# SHA-256 (`crypto/sha256`)

`sum256` is the digest of a byte string. A word is a number below `0x100000000`.
-/

namespace Lib.Sha256

def word (n : ℕ) : ℕ := n % 0x100000000

def rotr (n x : ℕ) : ℕ := word (x >>> n ||| x <<< (32 - n))

def wordNot (x : ℕ) : ℕ := x ^^^ 0xFFFFFFFF

/-- The constants of the rounds. -/
def roundConstants : List ℕ :=
  [0x428a2f98, 0x71374491, 0xb5c0fbcf, 0xe9b5dba5, 0x3956c25b, 0x59f111f1, 0x923f82a4, 0xab1c5ed5,
    0xd807aa98, 0x12835b01, 0x243185be, 0x550c7dc3, 0x72be5d74, 0x80deb1fe, 0x9bdc06a7, 0xc19bf174,
    0xe49b69c1, 0xefbe4786, 0x0fc19dc6, 0x240ca1cc, 0x2de92c6f, 0x4a7484aa, 0x5cb0a9dc, 0x76f988da,
    0x983e5152, 0xa831c66d, 0xb00327c8, 0xbf597fc7, 0xc6e00bf3, 0xd5a79147, 0x06ca6351, 0x14292967,
    0x27b70a85, 0x2e1b2138, 0x4d2c6dfc, 0x53380d13, 0x650a7354, 0x766a0abb, 0x81c2c92e, 0x92722c85,
    0xa2bfe8a1, 0xa81a664b, 0xc24b8b70, 0xc76c51a3, 0xd192e819, 0xd6990624, 0xf40e3585, 0x106aa070,
    0x19a4c116, 0x1e376c08, 0x2748774c, 0x34b0bcb5, 0x391c0cb3, 0x4ed8aa4a, 0x5b9cca4f, 0x682e6ff3,
    0x748f82ee, 0x78a5636f, 0x84c87814, 0x8cc70208, 0x90befffa, 0xa4506ceb, 0xbef9a3f7, 0xc67178f2]

/-- The eight words of the state. -/
structure Digest where
  a : ℕ
  b : ℕ
  c : ℕ
  d : ℕ
  e : ℕ
  f : ℕ
  g : ℕ
  h : ℕ

def initial : Digest :=
  ⟨0x6a09e667, 0xbb67ae85, 0x3c6ef372, 0xa54ff53a, 0x510e527f, 0x9b05688c, 0x1f83d9ab, 0x5be0cd19⟩

/-- A round: `k` is its constant and `w` its word of the schedule. -/
def round (s : Digest) (k w : ℕ) : Digest :=
  let s1 := rotr 6 s.e ^^^ rotr 11 s.e ^^^ rotr 25 s.e
  let ch := (s.e &&& s.f) ^^^ (wordNot s.e &&& s.g)
  let t1 := word (s.h + s1 + ch + k + w)
  let s0 := rotr 2 s.a ^^^ rotr 13 s.a ^^^ rotr 22 s.a
  let maj := (s.a &&& s.b) ^^^ (s.a &&& s.c) ^^^ (s.b &&& s.c)
  ⟨word (t1 + word (s0 + maj)), s.a, s.b, s.c, word (s.d + t1), s.e, s.f, s.g⟩

/-- Big-endian bytes to a number. -/
def ofBytes (bs : Bytes) : ℕ := bs.foldl (fun n b => n * 256 + b.toNat) 0

/-- The last `k` bytes of a number, big-endian. -/
def toBytes (k n : ℕ) : Bytes := (List.range k).map fun i => .ofNat (n >>> (8 * (k - 1 - i)) % 256)

/-- The schedule grows by `n` words; the last one stands first. -/
def extend : ℕ → List ℕ → List ℕ
  | 0, ws => ws
  | n + 1, ws =>
    let w15 := ws.getD 14 0
    let w2 := ws.getD 1 0
    let s0 := rotr 7 w15 ^^^ rotr 18 w15 ^^^ w15 >>> 3
    let s1 := rotr 17 w2 ^^^ rotr 19 w2 ^^^ w2 >>> 10
    extend n (word (ws.getD 15 0 + s0 + ws.getD 6 0 + s1) :: ws)

/-- A block of 64 bytes. -/
def block (s : Digest) (bs : Bytes) : Digest :=
  let ws := (extend 48 ((chunks 4 bs).map ofBytes).reverse).reverse
  let t := (roundConstants.zip ws).foldl (fun t kw => round t kw.1 kw.2) s
  ⟨word (s.a + t.a), word (s.b + t.b), word (s.c + t.c), word (s.d + t.d), word (s.e + t.e), word (s.f + t.f),
    word (s.g + t.g), word (s.h + t.h)⟩

/-- The text, a one bit, zeros, and the length in bits. -/
def pad (m : Bytes) : Bytes :=
  m ++ [0x80] ++ List.replicate ((119 - m.length % 64) % 64) 0 ++ toBytes 8 (8 * m.length)

/-- `sha256.Sum256`. -/
def sum256 (m : Bytes) : Bytes :=
  let s := (chunks 64 (pad m)).foldl block initial
  [s.a, s.b, s.c, s.d, s.e, s.f, s.g, s.h].flatMap (toBytes 4)

example : Hex.encode (sum256 (bytesOf "abc")) = "ba7816bf8f01cfea414140de5dae2223b00361a396177a9cb410ff61f20015ad" := by
  decide +kernel

end Lib.Sha256
