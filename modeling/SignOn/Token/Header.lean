import SignOn.Crypto.Hmac
import SignOn.Json.Fields
/-!
# The head of a signed token

The header names the algorithm of the signature, and may say more. A
known member has a shape of its own, and any other member is a text; a
header that breaks this is refused, even though nothing but the
algorithm is used.
-/

namespace SignOn

/-- The names that a token or the settings may give as algorithm. Only
the first three sign with a shared secret. -/
inductive Algorithm
  | hs256
  | hs384
  | hs512
  | es256
  | es384
  | rs256
  | rs384
  | rs512
  | ps256
  | ps384
  | ps512
  | edDsa
deriving Repr, DecidableEq

namespace Algorithm

/-- All algorithms. -/
def all : List Algorithm :=
  [hs256, hs384, hs512, es256, es384, rs256, rs384, rs512, ps256, ps384, ps512, edDsa]

/-- The name of an algorithm. -/
def name : Algorithm → String
  | hs256 => "HS256"
  | hs384 => "HS384"
  | hs512 => "HS512"
  | es256 => "ES256"
  | es384 => "ES384"
  | rs256 => "RS256"
  | rs384 => "RS384"
  | rs512 => "RS512"
  | ps256 => "PS256"
  | ps384 => "PS384"
  | ps512 => "PS512"
  | edDsa => "EdDSA"

/-- The algorithm of a name. -/
def ofName? (name : String) : Option Algorithm :=
  all.find? fun a => a.name == name

/-- The hash function under a signature with a shared secret. -/
def digest? : Algorithm → Option Digest
  | hs256 => some .sha256
  | hs384 => some .sha384
  | hs512 => some .sha512
  | _ => none

end Algorithm

namespace Header

/-- The header of a token that is issued here. -/
def toJson (a : Algorithm) : Json :=
  .ofMembers [("typ", .ofString "JWT"), ("alg", .ofString a.name)]

/-- The members that are a text or `null`. -/
def textMembers : List String :=
  ["typ", "cty", "jku", "kid", "x5u", "x5t", "x5t#S256", "enc", "zip", "url", "nonce"]

/-- The members that are a list of texts or `null`. -/
def textListMembers : List String :=
  ["crit", "x5c"]

/-- The members of a public key that are a text or `null`. -/
def keyTextMembers : List String :=
  ["use", "alg", "kid", "x5u", "x5t", "x5t#S256"]

/-- The members of a public key that are a list of texts or `null`. -/
def keyListMembers : List String :=
  ["key_ops", "x5c"]

/-- The curves of a key with two coordinates, and of a key with one. -/
def curves : List String :=
  ["P-256", "P-384", "P-521", "Ed25519"]

/-- Whether a member is readable as told, where it is there. -/
def optionalMember {α : Type} (v : Json) (read : Json → Option α) (name : String) : Bool :=
  ((v.get? name).elim (some none) (Json.asOptional read)).isSome

/-- Whether a value is there and a text. -/
def hasText (v : Json) (name : String) : Bool :=
  ((v.get? name).bind Json.asString).isSome

/-- Whether a value names a curve. -/
def hasCurve (v : Json) : Bool :=
  match (v.get? "crv").bind Json.asString with
  | some c => curves.contains c
  | none => false

/-- Whether a value is a public key, of one of the four types. -/
def isKey (v : Json) : Bool :=
  match v with
  | .object _ =>
    keyTextMembers.all (optionalMember v Json.asString) &&
    keyListMembers.all (optionalMember v (Json.asListOf Json.asString)) &&
    match (v.get? "kty").bind Json.asString with
    | some "EC" => hasCurve v && hasText v "x" && hasText v "y"
    | some "RSA" => hasText v "n" && hasText v "e"
    | some "oct" => hasText v "k"
    | some "OKP" => hasCurve v && hasText v "x"
    | _ => false
  | _ => false

/-- Every name with a shape of its own. -/
def knownMembers : List String :=
  "alg" :: "jwk" :: textMembers ++ textListMembers

/-- Whether a member that is not `alg` has its shape. -/
def memberOk (name : String) (v : Json) : Bool :=
  if textMembers.contains name then (v.asOptional Json.asString).isSome
  else if textListMembers.contains name then (v.asOptional (Json.asListOf Json.asString)).isSome
  else if name == "jwk" then (v.asOptional fun k => if isKey k then some () else none).isSome
  else v.asString.isSome

/-- The algorithm that a header names, if the header is in order. -/
def algorithm? (v : Json) : Option Algorithm :=
  match v with
  | .object members => do
    let known ← Json.fields knownMembers v
    guard (members.all fun (name, value) =>
      match name with
      | some "alg" => true
      | some name => memberOk name value
      | none => false)
    let name ← (known.headD none).bind Json.asChoice
    Algorithm.ofName? name
  | _ => none

end Header

end SignOn
