/-
# `OpenSoar.Python.Hmac` — `hmac.new(key, message, hashlib.sha256)` and `hmac.compare_digest`

The code over `hashlib.sha256`: the key is hashed when it is longer than a block and filled up
with zeros, the inner and the outer hash take it masked.

`compare_digest` of two strings wants ASCII on both sides.
-/
import OpenSoar.Python.Hashlib

namespace OpenSoar.Python

namespace Hmac

/-- A word as four bytes. -/
def wordBytes (w : Sha256.Word) : List UInt8 :=
  (List.range 4).map (fun i => UInt8.ofNat (w.toNat >>> (8 * (3 - i))))

/-- `sha256(message).digest()`. -/
def digest (message : List UInt8) : List UInt8 := (Sha256.hash message).words.flatMap wordBytes

/-- The key as one block. -/
def block (key : List UInt8) : List UInt8 :=
  let short := if 64 < key.length then digest key else key
  short ++ List.replicate (64 - short.length) 0

/-- `hmac.new(key, message, sha256).hexdigest()`. -/
def sha256Hex (key message : List UInt8) : List Char :=
  let inner := digest ((block key).map (· ^^^ 0x36) ++ message)
  (Sha256.hash ((block key).map (· ^^^ 0x5c) ++ inner)).words.flatMap Sha256.hex

example : sha256Hex (utf8 "key") (utf8 "The quick brown fox jumps over the lazy dog") =
    "f7bc83f430538424b13298e6aa6fb143ef4d59a14946175997479dbc2d1a3cd8".toList := by
  decide +kernel

end Hmac

/-- `s.isascii()`. -/
def isAscii (s : List Char) : Bool := s.all (fun c => c.toNat < 128)

/-- `hmac.compare_digest(a, b)` of two strings; `none` is the `TypeError`. -/
def compareDigest (a b : List Char) : Option Bool :=
  if isAscii a && isAscii b then some (a == b) else none

theorem isAscii_hex (w : Sha256.Word) : isAscii (Sha256.hex w) = true := by
  unfold isAscii Sha256.hex
  rw [List.all_eq_true]
  intro c hc
  obtain ⟨i, -, rfl⟩ := List.mem_map.mp hc
  have hdigit : ∀ d, d < 16 → (Nat.digitChar d).toNat < 128 := by decide
  exact decide_eq_true (hdigit _ (Nat.mod_lt _ (by decide)))

/-- A digest is ASCII. -/
theorem isAscii_sha256Hex (key message : List UInt8) :
    isAscii (Hmac.sha256Hex key message) = true := by
  unfold Hmac.sha256Hex isAscii
  rw [List.all_flatMap, List.all_eq_true]
  intro w _
  exact isAscii_hex w

/-- An ASCII text compares with any other: equal when it is the same, an error when it cannot
be. -/
theorem compareDigest_eq {a : List Char} (ha : isAscii a = true) (b : List Char) :
    compareDigest a b = if isAscii b then some (a == b) else none := by
  simp [compareDigest, ha]

end OpenSoar.Python
