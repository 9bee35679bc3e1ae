import SignOn.Codec.Base64
import SignOn.Json.Reader
import SignOn.Json.Writer
import SignOn.Token.Claims
import SignOn.Token.Header
/-!
# Signed tokens

A signed token is three base64 parts with dots between them: header,
claims, and the authentication code of the first two as they are
written. `sign` writes one and `open?` reads one. A token is accepted
only under the algorithm it is asked for, in canonical base64, and with a
payload that names an expiry of at least zero and no audience.
-/

namespace SignOn

namespace Signed

/-- The dot between parts. -/
def dot : UInt8 := 0x2e

/-- The base64 symbols of a JSON value. -/
def part (v : Json) : List UInt8 :=
  Base64.url.symbols (Utf8.encode v.write)

/-- The part of a token that is signed. -/
def message (a : Algorithm) (claims : Claims) : List UInt8 :=
  part (Header.toJson a) ++ dot :: part claims.toJson

/-- The text of ASCII bytes. -/
def asciiText (bytes : List UInt8) : String :=
  String.ofList (bytes.map fun b => Char.ofNat b.toNat)

/-- The signed token of claims, under an algorithm with a shared secret. -/
def sign (a : Algorithm) (d : Digest) (secret : List UInt8) (claims : Claims) : String :=
  let m := message a claims
  asciiText (m ++ dot :: Base64.url.symbols (Hmac.code d secret m))

/-- Cuts at the last dot. -/
def cutLast (bytes : List UInt8) : Option (List UInt8 × List UInt8) :=
  let (after, rest) := bytes.reverse.span (· ≠ dot)
  match rest with
  | _ :: before => some (before.reverse, after.reverse)
  | [] => none

/-- The JSON value of a part. -/
def readPart (symbols : List UInt8) : Option Json := do
  let bytes ← (Base64.url.decodeSymbols symbols).toOption
  Json.read bytes

/-- The registered claims that are looked at apart from `Claims`. -/
def registeredNames : List String :=
  ["exp", "nbf", "sub", "iss", "aud"]

/-- A value that names an audience: a text, or a list of texts. -/
def isAudience (v : Json) : Bool :=
  v.asString.isSome || (v.asListOf Json.asString).isSome

/-- Whether the registered claims of a payload are in order: the expiry
is a number that is not negative, no audience is named, and none of them
is repeated. -/
def registeredOk (payload : Json) : Bool :=
  match payload.fields registeredNames with
  | some [exp, _, _, _, aud] =>
    (match exp with
      | some (.whole n) => 0 ≤ n
      | _ => false) &&
    (match aud with
      | some v => !isAudience v
      | none => true)
  | _ => false

/-- The claims of a token whose signature and form are in order. Time
plays no part in this. -/
def open? (a : Algorithm) (d : Digest) (secret : List UInt8) (token : String) :
    Option Claims := do
  let (m, signature) ← cutLast (Utf8.encode token)
  let (header, payload) ← cutLast m
  let headerValue ← readPart header
  let named ← Header.algorithm? headerValue
  guard (named = a)
  let code ← (Base64.url.decodeSymbols signature).toOption
  guard (code = Hmac.code d secret m)
  -- the payload is not looked at before its code has been compared
  let value ← readPart payload
  let claims ← Claims.ofJson? value
  guard (registeredOk value)
  return claims

end Signed

end SignOn
