import SignOn.Crypto.Sha2
/-!
# Keyed hashes

`Hmac.code` authenticates a message under a key of any length with one
of the three hash functions of `Sha2`. The key is brought to one block
first, by hashing it if it is longer.
-/

namespace SignOn

/-- The hash function under a keyed hash. -/
inductive Digest
  | sha256
  | sha384
  | sha512
deriving Repr, DecidableEq

/-- Bytes in a block of the hash function. -/
def Digest.blockBytes : Digest → Nat
  | .sha256 => 64
  | .sha384 => 128
  | .sha512 => 128

/-- The hash of a message. -/
def Digest.hash : Digest → List UInt8 → List UInt8
  | .sha256 => Sha2.sha256
  | .sha384 => Sha2.sha384
  | .sha512 => Sha2.sha512

namespace Hmac

/-- The key as one block. -/
def blockKey (d : Digest) (key : List UInt8) : List UInt8 :=
  let key := if d.blockBytes < key.length then d.hash key else key
  key ++ List.replicate (d.blockBytes - key.length) 0

/-- The authentication code of a message under a key. -/
def code (d : Digest) (key message : List UInt8) : List UInt8 :=
  let key := blockKey d key
  let inner := d.hash (key.map (· ^^^ 0x36) ++ message)
  d.hash (key.map (· ^^^ 0x5c) ++ inner)

end Hmac

end SignOn
