import KeyedCoding.Generator.Mode
import KeyedCoding.Hash.Sha256

/-!
# Fingerprints

A run of the generator is known by the digest of the identifier of its class and its mode.

## Main definitions

* `Fingerprint`: a digest.
* `Fingerprint.message`: the bytes of which the digest is taken.
* `Fingerprint.ofRun`: the fingerprint of a run.
* `Fingerprint.text`: how a fingerprint is shown.
-/

namespace KeyedCoding

/-- What a run of the generator is known by. -/
structure Fingerprint where
  bytes : List UInt8
  deriving DecidableEq, Repr

namespace Fingerprint

/-- The bytes of a text. -/
def textBytes (text : String) : List UInt8 := text.toUTF8.toList

/-- The byte of a mode. -/
def modeTag : Mode → UInt8
  | .encodeOnly => 1
  | .decodeOnly => 2
  | .both => 3

/-- A length in four bytes, the greatest first. Longer lengths count as the greatest one. -/
def lengthBytes (length : Nat) : List UInt8 :=
  Sha256.bytesOfWord (UInt32.ofNat (min length 0xFFFFFFFF))

/-- The bytes of which the digest is taken: a constant, the mode, and the text of the identifier
with its length in front. -/
def message (ident : Ident) (mode : Mode) : List UInt8 :=
  let text := textBytes ident.text
  textBytes "genfp:v1" ++ modeTag mode :: lengthBytes text.length ++ text

/-- The fingerprint of a run for a class with an identifier. -/
def ofRun (ident : Ident) (mode : Mode) : Fingerprint := ⟨Sha256.digest (message ident mode)⟩

/-- A byte in two hexadecimal digits. -/
def hexPair (byte : UInt8) : List Char :=
  [Nat.digitChar (byte.toNat / 16), Nat.digitChar (byte.toNat % 16)]

/-- The first eight bytes of a fingerprint in hexadecimal. -/
def text (fingerprint : Fingerprint) : String :=
  String.ofList ((fingerprint.bytes.take 8).flatMap hexPair)

end Fingerprint

end KeyedCoding
