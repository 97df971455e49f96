/-
Fingerprints: the FNV-1a hash of a value's canonical text in 64 bits, written with sixteen
hexadecimal digits.
-/
import Rollout.Json.Printer

namespace Rollout.Fingerprint

/-- The state before the first byte. -/
def offsetBasis : UInt64 := 0xcbf29ce484222325

/-- The factor of each step. -/
def prime : UInt64 := 0x100000001b3

/-- Takes one byte into the state. -/
def step (state : UInt64) (byte : UInt8) : UInt64 := (state ^^^ byte.toUInt64) * prime

/-- The hash of a sequence of bytes. -/
def ofBytes (bytes : List UInt8) : UInt64 := bytes.foldl step offsetBasis

/-- The lower-case hexadecimal digits of a number, `count` of them. -/
def hexDigits : Nat → Nat → List Char
  | 0, _ => []
  | count + 1, n => hexDigits count (n / 16) ++ [Nat.digitChar (n % 16)]

/-- The sixteen hexadecimal digits of a hash. -/
def hexText (hash : UInt64) : String := String.ofList (hexDigits 16 hash.toNat)

/-- The bytes that are hashed for a value: its canonical text in UTF-8. -/
def bytes (value : Json) : List UInt8 := value.text.toUTF8.toList

/-- The fingerprint of a value. -/
def ofJson (value : Json) : String := hexText (ofBytes (bytes value))

end Rollout.Fingerprint
