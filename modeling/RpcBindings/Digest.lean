import RpcBindings.Text.Basic

/-!
# Digests

The digest SHA-256 of a sequence of bytes.

## Main definitions

* `Digest.pad` — a message filled up to whole blocks.
* `Digest.compress` — the effect of a block on the state.
* `Digest.sha256` — the digest in hexadecimal digits.
-/

namespace RpcBindings.Digest

/-- The eight words that are carried from block to block. -/
structure State where
  a : UInt32
  b : UInt32
  c : UInt32
  d : UInt32
  e : UInt32
  f : UInt32
  g : UInt32
  h : UInt32
  deriving DecidableEq, Repr

/-- The state before the first block: the fractions of the square roots of eight primes. -/
def initial : State where
  a := 0x6a09e667
  b := 0xbb67ae85
  c := 0x3c6ef372
  d := 0xa54ff53a
  e := 0x510e527f
  f := 0x9b05688c
  g := 0x1f83d9ab
  h := 0x5be0cd19

/-- The constants of the rounds: the fractions of the cube roots of 64 primes. -/
def roundConstants : List UInt32 :=
  [0x428a2f98, 0x71374491, 0xb5c0fbcf, 0xe9b5dba5, 0x3956c25b, 0x59f111f1, 0x923f82a4, 0xab1c5ed5,
   0xd807aa98, 0x12835b01, 0x243185be, 0x550c7dc3, 0x72be5d74, 0x80deb1fe, 0x9bdc06a7, 0xc19bf174,
   0xe49b69c1, 0xefbe4786, 0x0fc19dc6, 0x240ca1cc, 0x2de92c6f, 0x4a7484aa, 0x5cb0a9dc, 0x76f988da,
   0x983e5152, 0xa831c66d, 0xb00327c8, 0xbf597fc7, 0xc6e00bf3, 0xd5a79147, 0x06ca6351, 0x14292967,
   0x27b70a85, 0x2e1b2138, 0x4d2c6dfc, 0x53380d13, 0x650a7354, 0x766a0abb, 0x81c2c92e, 0x92722c85,
   0xa2bfe8a1, 0xa81a664b, 0xc24b8b70, 0xc76c51a3, 0xd192e819, 0xd6990624, 0xf40e3585, 0x106aa070,
   0x19a4c116, 0x1e376c08, 0x2748774c, 0x34b0bcb5, 0x391c0cb3, 0x4ed8aa4a, 0x5b9cca4f, 0x682e6ff3,
   0x748f82ee, 0x78a5636f, 0x84c87814, 0x8cc70208, 0x90befffa, 0xa4506ceb, 0xbef9a3f7, 0xc67178f2]

/-- The word with its bits moved `n` places to the right, around the end. -/
def rotate (w n : UInt32) : UInt32 :=
  (w >>> n) ||| (w <<< (32 - n))

/-! ### Blocks -/

/-- The number of bytes of a block. -/
def blockSize : Nat := 64

/-- The last `count` bytes of a number, the most significant one first. -/
def bigEndian : Nat → Nat → List UInt8
  | 0, _ => []
  | count + 1, n => UInt8.ofNat (n / 256 ^ count) :: bigEndian count n

/-- A message filled up to whole blocks: a mark, zeros, and the number of its bits. -/
def pad (message : List UInt8) : List UInt8 :=
  let zeros := (2 * blockSize - 9 - message.length % blockSize) % blockSize
  message ++ 0x80 :: List.replicate zeros 0 ++ bigEndian 8 (8 * message.length)

/-- The first `count` pieces of `size` items each. -/
def pieces {α : Type} (size : Nat) : Nat → List α → List (List α)
  | 0, _ => []
  | count + 1, xs => xs.take size :: pieces size count (xs.drop size)

/-- The word of four bytes. -/
def word (bytes : List UInt8) : UInt32 :=
  bytes.foldl (fun w b => (w <<< 8) ||| b.toUInt32) 0

/-- The words of a block. -/
def words (block : List UInt8) : List UInt32 :=
  (pieces 4 16 block).map word

/-- The word that follows sixteen words of the schedule. -/
def nextWord (window : List UInt32) : UInt32 :=
  let w := fun i => window.getD i 0
  let s := rotate (w 1) 7 ^^^ rotate (w 1) 18 ^^^ (w 1 >>> 3)
  let t := rotate (w 14) 17 ^^^ rotate (w 14) 19 ^^^ (w 14 >>> 10)
  w 0 + s + w 9 + t

/-- The next `count` words of the schedule from a window of sixteen words on. -/
def schedule : Nat → List UInt32 → List UInt32
  | 0, _ => []
  | _ + 1, [] => []
  | count + 1, w :: ws => w :: schedule count (ws ++ [nextWord (w :: ws)])

/-- One round, with a constant and a word of the schedule. -/
def round (s : State) (p : UInt32 × UInt32) : State :=
  let sum := rotate s.e 6 ^^^ rotate s.e 11 ^^^ rotate s.e 25
  let choice := (s.e &&& s.f) ^^^ (~~~s.e &&& s.g)
  let first := s.h + sum + choice + p.1 + p.2
  let mix := rotate s.a 2 ^^^ rotate s.a 13 ^^^ rotate s.a 22
  let majority := (s.a &&& s.b) ^^^ (s.a &&& s.c) ^^^ (s.b &&& s.c)
  ⟨first + mix + majority, s.a, s.b, s.c, s.d + first, s.e, s.f, s.g⟩

/-- The effect of a block on the state. -/
def compress (s : State) (block : List UInt8) : State :=
  let t := (roundConstants.zip (schedule 64 (words block))).foldl round s
  ⟨s.a + t.a, s.b + t.b, s.c + t.c, s.d + t.d, s.e + t.e, s.f + t.f, s.g + t.g, s.h + t.h⟩

/-- The state after a message. -/
def finalState (message : List UInt8) : State :=
  let padded := pad message
  (pieces blockSize (padded.length / blockSize) padded).foldl compress initial

/-! ### Digits -/

/-- Two hexadecimal digits. -/
def hexByte (b : UInt8) : List Char :=
  [Nat.digitChar (b.toNat / 16), Nat.digitChar (b.toNat % 16)]

/-- The hexadecimal digits of a word. -/
def hexWord (w : UInt32) : List Char :=
  (bigEndian 4 w.toNat).flatMap hexByte

/-- The digest of a message in hexadecimal digits. -/
def sha256 (message : List UInt8) : String :=
  let s := finalState message
  String.ofList ([s.a, s.b, s.c, s.d, s.e, s.f, s.g, s.h].flatMap hexWord)

end RpcBindings.Digest
