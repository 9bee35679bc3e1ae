import SignOn.Codec.Base64
/-!
# The opaque form of a token

Refresh tokens and the tokens in messages leave the service in base64,
so that nobody takes them apart by accident. `Wrapped.encode` writes the
form of any bytes and `Wrapped.decodeString` reads a text back.
-/

namespace SignOn

namespace Wrapped

/-- Why a text is not the opaque form of a text. -/
inductive DecodeError
  | malformed (cause : Base64.DecodeError)
  | notText
deriving Repr, DecidableEq

/-- The text of a cause. -/
def DecodeError.message : DecodeError → String
  | .malformed cause => "malformed token encoding: " ++ cause.message
  | .notText => "decoded token is not valid UTF-8"

/-- The opaque form of bytes. -/
def encode (bytes : List UInt8) : String :=
  Base64.url.encode bytes

/-- The opaque form of a text. -/
def encodeString (s : String) : String :=
  encode (Utf8.encode s)

/-- The bytes of an opaque form. -/
def decode (s : String) : Except DecodeError (List UInt8) :=
  match Base64.url.decode s with
  | .ok bytes => .ok bytes
  | .error e => .error (.malformed e)

/-- The text of an opaque form. -/
def decodeString (s : String) : Except DecodeError String := do
  let bytes ← decode s
  match Utf8.decode bytes with
  | some t => .ok t
  | none => .error .notText

end Wrapped

end SignOn
