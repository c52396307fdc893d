import DocIndex.Identifier.Digest
import DocIndex.Json.Quoted

/-!
# Identifiers by name

An identifier of 16 bytes that depends on a name alone: the hash of a fixed namespace and the name,
marked as version 5 of the standard variant, and written in five groups of hexadecimal digits.
-/

namespace DocIndex.Identifier

/-- The namespace of names that are addresses. -/
def addressNamespace : List UInt8 :=
  [0x6B, 0xA7, 0xB8, 0x11, 0x9D, 0xAD, 0x11, 0xD1, 0x80, 0xB4, 0x00, 0xC0, 0x4F, 0xD4, 0x30, 0xC8]

/-- The bytes of the identifier of a name. -/
def uuidBytes (name : List UInt8) : List UInt8 :=
  ((Digest.ofMessage (addressNamespace ++ name)).bytes.take 16).mapIdx fun index byte =>
    if index == 6 then byte &&& 0x0F ||| 0x50
    else if index == 8 then byte &&& 0x3F ||| 0x80
    else byte

/-- The two hexadecimal digits of a byte. -/
def hexByte (byte : UInt8) : List Char :=
  [Json.hexDigit (byte.toNat / 16), Json.hexDigit (byte.toNat % 16)]

/-- The sizes of the groups in which the bytes of an identifier are written. -/
def groupSizes : List Nat := [4, 2, 2, 2, 6]

/-- Bytes in hexadecimal digits, with a hyphen between groups of the given sizes. -/
def writeGroups : List Nat → List UInt8 → List Char
  | [], _ => []
  | [size], bytes => (bytes.take size).flatMap hexByte
  | size :: later, bytes =>
    (bytes.take size).flatMap hexByte ++ '-' :: writeGroups later (bytes.drop size)

/-- The written form of the identifier of a name. -/
def uuid (name : List UInt8) : String := String.ofList (writeGroups groupSizes (uuidBytes name))

end DocIndex.Identifier
