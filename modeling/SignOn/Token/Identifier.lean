/-!
# Identifiers

A token and a request are told apart from all others by sixteen random
bytes, written in hexadecimal in five groups. Six bits are fixed and say
that the rest is random.
-/

namespace SignOn

namespace Identifier

/-- A byte in two hexadecimal digits. -/
def hexByte (b : UInt8) : List Char :=
  [Nat.digitChar (b.toNat / 16), Nat.digitChar (b.toNat % 16)]

/-- The bytes with the fixed bits in place. -/
def marked (bytes : Vector UInt8 16) : Vector UInt8 16 :=
  (bytes.set 6 ((bytes[6] &&& 0x0f) ||| 0x40)).set 8 ((bytes[8] &&& 0x3f) ||| 0x80)

/-- The identifier of sixteen random bytes. -/
def ofBytes (bytes : Vector UInt8 16) : String :=
  let hex := (marked bytes).toList.flatMap hexByte
  String.ofList (hex.take 8 ++ '-' :: (hex.drop 8).take 4 ++ '-' :: (hex.drop 12).take 4 ++
    '-' :: (hex.drop 16).take 4 ++ '-' :: hex.drop 20)

end Identifier

end SignOn
