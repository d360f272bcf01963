import Mathlib.Algebra.Group.Nat.Defs
import Mathlib.Data.List.Basic

/-!
# DbGateway.Sha256

`hashlib.sha256(text.encode("utf-8")).hexdigest()`, the hash the audit trail
identifies an executed statement by.
-/

namespace DbGateway.Sha256

/-- The round constants. -/
def roundConstants : List UInt32 :=
  [0x428a2f98, 0x71374491, 0xb5c0fbcf, 0xe9b5dba5, 0x3956c25b, 0x59f111f1, 0x923f82a4, 0xab1c5ed5,
   0xd807aa98, 0x12835b01, 0x243185be, 0x550c7dc3, 0x72be5d74, 0x80deb1fe, 0x9bdc06a7, 0xc19bf174,
   0xe49b69c1, 0xefbe4786, 0x0fc19dc6, 0x240ca1cc, 0x2de92c6f, 0x4a7484aa, 0x5cb0a9dc, 0x76f988da,
   0x983e5152, 0xa831c66d, 0xb00327c8, 0xbf597fc7, 0xc6e00bf3, 0xd5a79147, 0x06ca6351, 0x14292967,
   0x27b70a85, 0x2e1b2138, 0x4d2c6dfc, 0x53380d13, 0x650a7354, 0x766a0abb, 0x81c2c92e, 0x92722c85,
   0xa2bfe8a1, 0xa81a664b, 0xc24b8b70, 0xc76c51a3, 0xd192e819, 0xd6990624, 0xf40e3585, 0x106aa070,
   0x19a4c116, 0x1e376c08, 0x2748774c, 0x34b0bcb5, 0x391c0cb3, 0x4ed8aa4a, 0x5b9cca4f, 0x682e6ff3,
   0x748f82ee, 0x78a5636f, 0x84c87814, 0x8cc70208, 0x90befffa, 0xa4506ceb, 0xbef9a3f7, 0xc67178f2]

/-- The eight working variables. -/
structure State where
  a : UInt32
  b : UInt32
  c : UInt32
  d : UInt32
  e : UInt32
  f : UInt32
  g : UInt32
  h : UInt32

def State.initial : State :=
  ⟨0x6a09e667, 0xbb67ae85, 0x3c6ef372, 0xa54ff53a, 0x510e527f, 0x9b05688c, 0x1f83d9ab, 0x5be0cd19⟩

def State.add (s t : State) : State :=
  ⟨s.a + t.a, s.b + t.b, s.c + t.c, s.d + t.d, s.e + t.e, s.f + t.f, s.g + t.g, s.h + t.h⟩

def State.words (s : State) : List UInt32 := [s.a, s.b, s.c, s.d, s.e, s.f, s.g, s.h]

def rotr (x : UInt32) (n : Nat) : UInt32 :=
  x >>> n.toUInt32 ||| x <<< (32 - n).toUInt32

/-- `n` bytes, most significant first. -/
def bigEndian (n value : Nat) : List UInt8 :=
  (List.range n).map fun i => (value / 256 ^ (n - 1 - i)).toUInt8

/-- The message, a one bit, zeros, and the length in bits: whole blocks. -/
def pad (message : List UInt8) : List UInt8 :=
  message ++ 0x80 :: List.replicate ((119 - message.length % 64) % 64) 0 ++
    bigEndian 8 (8 * message.length)

/-- The big-endian words of a byte string. -/
def wordsOf : List UInt8 → List UInt32
  | p :: q :: r :: s :: rest =>
      (p.toUInt32 <<< 24 ||| q.toUInt32 <<< 16 ||| r.toUInt32 <<< 8 ||| s.toUInt32) :: wordsOf rest
  | _ => []

/-- The next word of the message schedule, from the sixteen before it. -/
def nextWord (window : List UInt32) : UInt32 :=
  let w1 := window.getD 1 0
  let w14 := window.getD 14 0
  window.getD 0 0 + (rotr w1 7 ^^^ rotr w1 18 ^^^ w1 >>> 3) +
    window.getD 9 0 + (rotr w14 17 ^^^ rotr w14 19 ^^^ w14 >>> 10)

def round (s : State) (constant word : UInt32) : State :=
  let t1 := s.h + (rotr s.e 6 ^^^ rotr s.e 11 ^^^ rotr s.e 25) +
    ((s.e &&& s.f) ^^^ (~~~s.e &&& s.g)) + constant + word
  let t2 := (rotr s.a 2 ^^^ rotr s.a 13 ^^^ rotr s.a 22) +
    ((s.a &&& s.b) ^^^ (s.a &&& s.c) ^^^ (s.b &&& s.c))
  ⟨t1 + t2, s.a, s.b, s.c, s.d + t1, s.e, s.f, s.g⟩

/-- The rounds, with the sixteen schedule words still to be used. -/
def rounds (window : List UInt32) (s : State) : List UInt32 → State
  | [] => s
  | constant :: rest =>
      rounds (window.tail ++ [nextWord window]) (round s constant (window.headD 0)) rest

/-- The hash of each block of sixteen words chained to the next. -/
def compress : Nat → List UInt32 → State → State
  | 0, _, s => s
  | blocks + 1, words, s =>
      compress blocks (words.drop 16) (s.add (rounds (words.take 16) s roundConstants))

def digest (message : List UInt8) : State :=
  let padded := pad message
  compress (padded.length / 64) (wordsOf padded) State.initial

def hexDigits (word : UInt32) : List Char :=
  (List.range 8).map fun i => Nat.digitChar (word.toNat / 16 ^ (7 - i) % 16)

end Sha256

/-- `hashlib.sha256(text.encode("utf-8")).hexdigest()` -/
def sha256 (text : String) : String :=
  String.ofList ((Sha256.digest text.toUTF8.toList).words.flatMap Sha256.hexDigits)

namespace Sha256

/-- Padding fills whole blocks. -/
theorem length_pad (message : List UInt8) : (pad message).length % 64 = 0 := by
  simp only [pad, bigEndian, List.length_append, List.length_cons, List.length_replicate,
    List.length_map, List.length_range]
  omega

/-- The digest is 64 hexadecimal digits. -/
theorem length_sha256 (text : String) : (sha256 text).length = 64 := by
  simp [sha256, State.words, hexDigits]

end Sha256

end DbGateway
