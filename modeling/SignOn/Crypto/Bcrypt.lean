import SignOn.Codec.Base64
import SignOn.Crypto.Blowfish
import SignOn.Number
/-!
# Password hashes

A password hash is a modular-crypt string `$2b$cost$salt-and-digest`:
two decimals for the cost, 22 symbols for sixteen bytes of salt and 31
for 23 bytes of digest. `hash` writes one; `verify` reads one, leniently
in the version letter and the number, and asks whether a password has
that digest.

Only 72 bytes of a password and its closing zero byte reach the cipher,
so `verify` cannot tell two passwords apart that agree so far.
-/

namespace SignOn

namespace Bcrypt

/-- Sixteen bytes of salt. -/
abbrev Salt := Vector UInt8 16

/-- A cost outside the range that a hash can be computed at. -/
structure CostNotAllowed where
  cost : Nat
deriving Repr, DecidableEq

/-- The text of the error. -/
def CostNotAllowed.message (e : CostNotAllowed) : String :=
  s!"Cost needs to be between 4 and 31, got {e.cost}"

/-- Whether a hash can be computed at a cost. -/
def costAllowed (cost : Nat) : Bool :=
  4 ≤ cost ∧ cost ≤ 31

/-! ## The digest -/

/-- The key of a password: its bytes and a zero byte, cut after 72. -/
def key (password : String) : List UInt8 :=
  (Utf8.encode password ++ [0]).take 72

/-- The three blocks that are encrypted, `OrpheanBeholderScryDoubt`. -/
def magic : List (UInt32 × UInt32) :=
  [(0x4f727068, 0x65616e42), (0x65686f6c, 0x64657253), (0x63727944, 0x6f756274)]

/-- The bytes of a word, most significant first. -/
def wordBytes (w : UInt32) : List UInt8 :=
  [(w >>> 24).toUInt8, (w >>> 16).toUInt8, (w >>> 8).toUInt8, w.toUInt8]

/-- The 23 bytes of digest of a key. -/
def digest (cost : Nat) (salt : Salt) (key : List UInt8) : List UInt8 :=
  let subkeys := Blowfish.Subkeys.setup cost salt.toList key
  let blocks := magic.map (subkeys.encryptTimes 64)
  (blocks.flatMap fun (l, r) => wordBytes l ++ wordBytes r).take 23

/-! ## Writing a hash -/

/-- A number below a hundred in two decimals. -/
def twoDigits (n : Nat) : String :=
  String.ofList [Nat.digitChar (n / 10), Nat.digitChar (n % 10)]

/-- The hash of a password, at an allowed cost. -/
def hash (cost : Nat) (salt : Salt) (password : String) : Except CostNotAllowed String :=
  if costAllowed cost then
    .ok ("$2b$" ++ twoDigits cost ++ "$" ++ Base64.crypt.encode salt.toList ++
      Base64.crypt.encode (digest cost salt (key password)))
  else .error ⟨cost⟩

/-! ## Reading a hash -/

/-- The parts of a text between dollar signs, empty ones left out. -/
def dollarParts (s : String) : List (List Char) :=
  (s.toList.splitOn '$').filter (· ≠ [])

/-- What a hash records. -/
structure Record where
  cost : Nat
  salt : Salt
  digest : List UInt8

/-- The record that a hash writes. All four version letters are
accepted; both base64 texts must be canonical. -/
def Record.ofString? (s : String) : Option Record := do
  match dollarParts s with
  | [version, cost, rest] =>
    guard (version ∈ ["2a", "2b", "2x", "2y"].map String.toList)
    let cost ← decimalBelow? 0x100000000 (String.ofList cost)
    guard (costAllowed cost)
    let bytes := Utf8.encode (String.ofList rest)
    -- 22 symbols of salt and 31 of digest
    guard (bytes.length = 53)
    let salt ← (Base64.crypt.decodeSymbols (bytes.take 22)).toOption
    let digest ← (Base64.crypt.decodeSymbols (bytes.drop 22)).toOption
    if h : salt.toArray.size = 16 then some ⟨cost, ⟨salt.toArray, h⟩, digest⟩ else none
  | _ => none

/-- Whether a password has the digest that a hash records. What is no
hash is the hash of nothing. -/
def verify (password hash : String) : Bool :=
  match Record.ofString? hash with
  | some r => digest r.cost r.salt (key password) == r.digest
  | none => false

end Bcrypt

end SignOn
