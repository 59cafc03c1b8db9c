/-
# `OpenSoar.Python.Hashlib` — `hashlib.sha256`

The hash of a text's UTF-8 bytes as `hexdigest()` prints it, written out after the standard:
padding to blocks of sixteen words, sixty-four rounds for each block.  The message schedule
is kept as the window of the sixteen words that the coming rounds need.

Only runs on concrete input depend on what the rounds compute.  Otherwise all that is used
is that the digest has 64 characters (`length_sha256`), which fixes the layout of a key.
-/
import Mathlib.Data.List.Basic

namespace OpenSoar.Python

namespace Sha256

abbrev Word := BitVec 32

/-- The round constants. -/
def roundConstants : List Word :=
  [0x428a2f98, 0x71374491, 0xb5c0fbcf, 0xe9b5dba5, 0x3956c25b, 0x59f111f1, 0x923f82a4, 0xab1c5ed5,
   0xd807aa98, 0x12835b01, 0x243185be, 0x550c7dc3, 0x72be5d74, 0x80deb1fe, 0x9bdc06a7, 0xc19bf174,
   0xe49b69c1, 0xefbe4786, 0x0fc19dc6, 0x240ca1cc, 0x2de92c6f, 0x4a7484aa, 0x5cb0a9dc, 0x76f988da,
   0x983e5152, 0xa831c66d, 0xb00327c8, 0xbf597fc7, 0xc6e00bf3, 0xd5a79147, 0x06ca6351, 0x14292967,
   0x27b70a85, 0x2e1b2138, 0x4d2c6dfc, 0x53380d13, 0x650a7354, 0x766a0abb, 0x81c2c92e, 0x92722c85,
   0xa2bfe8a1, 0xa81a664b, 0xc24b8b70, 0xc76c51a3, 0xd192e819, 0xd6990624, 0xf40e3585, 0x106aa070,
   0x19a4c116, 0x1e376c08, 0x2748774c, 0x34b0bcb5, 0x391c0cb3, 0x4ed8aa4a, 0x5b9cca4f, 0x682e6ff3,
   0x748f82ee, 0x78a5636f, 0x84c87814, 0x8cc70208, 0x90befffa, 0xa4506ceb, 0xbef9a3f7, 0xc67178f2]

/-- The eight words of a hash value, and the working variables of a block. -/
structure State where
  a : Word
  b : Word
  c : Word
  d : Word
  e : Word
  f : Word
  g : Word
  h : Word

def initial : State :=
  ⟨0x6a09e667, 0xbb67ae85, 0x3c6ef372, 0xa54ff53a, 0x510e527f, 0x9b05688c, 0x1f83d9ab, 0x5be0cd19⟩

def State.words (s : State) : List Word := [s.a, s.b, s.c, s.d, s.e, s.f, s.g, s.h]

def ch (x y z : Word) : Word := (x &&& y) ^^^ (~~~x &&& z)

def maj (x y z : Word) : Word := (x &&& y) ^^^ (x &&& z) ^^^ (y &&& z)

def bigSigma0 (x : Word) : Word := x.rotateRight 2 ^^^ x.rotateRight 13 ^^^ x.rotateRight 22

def bigSigma1 (x : Word) : Word := x.rotateRight 6 ^^^ x.rotateRight 11 ^^^ x.rotateRight 25

def smallSigma0 (x : Word) : Word := x.rotateRight 7 ^^^ x.rotateRight 18 ^^^ x >>> 3

def smallSigma1 (x : Word) : Word := x.rotateRight 17 ^^^ x.rotateRight 19 ^^^ x >>> 10

/-- The word of the schedule that follows a window of sixteen. -/
def nextWord (window : List Word) : Word :=
  smallSigma1 (window.getD 14 0) + window.getD 9 0 + smallSigma0 (window.getD 1 0) +
    window.getD 0 0

/-- One round; the window moves on by a word. -/
def round (turn : State × List Word) (constant : Word) : State × List Word :=
  let s := turn.1
  let window := turn.2
  let t1 := s.h + bigSigma1 s.e + ch s.e s.f s.g + constant + window.getD 0 0
  let t2 := bigSigma0 s.a + maj s.a s.b s.c
  (⟨t1 + t2, s.a, s.b, s.c, s.d + t1, s.e, s.f, s.g⟩, window.tail ++ [nextWord window])

/-- One block of sixteen words. -/
def compress (hash : State) (block : List Word) : State :=
  let s := (roundConstants.foldl round (hash, block)).1
  ⟨hash.a + s.a, hash.b + s.b, hash.c + s.c, hash.d + s.d,
   hash.e + s.e, hash.f + s.f, hash.g + s.g, hash.h + s.h⟩

/-- Big-endian words. -/
def toWords : List UInt8 → List Word
  | x :: y :: z :: w :: rest =>
      (x.toBitVec ++ y.toBitVec ++ z.toBitVec ++ w.toBitVec : BitVec 32) :: toWords rest
  | _ => []

/-- The message, a one bit, zeros, and the length in bits as 64 bits. -/
def pad (message : List UInt8) : List UInt8 :=
  let filling : List UInt8 := 0x80 :: List.replicate ((119 - message.length % 64) % 64) 0
  let bits := 8 * message.length
  message ++ filling ++ (List.range 8).map (fun i => UInt8.ofNat (bits >>> (8 * (7 - i))))

/-- The blocks one after the other. -/
def blocks : Nat → List Word → State → State
  | 0, _, hash => hash
  | n + 1, words, hash => blocks n (words.drop 16) (compress hash (words.take 16))

def hash (message : List UInt8) : State :=
  let words := toWords (pad message)
  blocks (words.length / 16) words initial

/-- A word as eight hexadecimal digits. -/
def hex (w : Word) : List Char :=
  (List.range 8).map (fun i => Nat.digitChar ((w.toNat >>> (4 * (7 - i))) % 16))

end Sha256

/-- `s.encode("utf-8")`. -/
def utf8 (s : String) : List UInt8 := s.toList.flatMap String.utf8EncodeChar

/-- `hashlib.sha256(s.encode("utf-8")).hexdigest()`. -/
def sha256 (s : String) : List Char := (Sha256.hash (utf8 s)).words.flatMap Sha256.hex

theorem length_sha256 (s : String) : (sha256 s).length = 64 := by
  simp [sha256, Sha256.State.words, Sha256.hex]

example : sha256 "abc" =
    "ba7816bf8f01cfea414140de5dae2223b00361a396177a9cb410ff61f20015ad".toList := by decide +kernel

end OpenSoar.Python
