import SignOn.Config.Basic
import SignOn.Pattern.Match
import SignOn.Pattern.Reader
/-!
# The rules for fields

Each field of an account has a list of patterns and is acceptable if some
part of it matches each of them.
-/

namespace SignOn

/-- The fields with rules. -/
inductive Field
  | email
  | password
  | displayName
  | phone
  | telegram
deriving Repr, DecidableEq

/-- The compiled rules of every field. -/
structure Validator where
  email : List Pattern
  password : List Pattern
  displayName : List Pattern
  phone : List Pattern
  telegram : List Pattern

namespace Validator

/-- The rules of the settings; the first text that is no pattern is the
error. -/
def ofConfig (c : ValidationConfig) : Except Pattern.SyntaxError Validator := do
  let email ← Pattern.ofString c.emailPattern
  let password ← c.passwordPatterns.mapM Pattern.ofString
  let displayName ← c.displayNamePatterns.mapM Pattern.ofString
  let phone ← c.phonePatterns.mapM Pattern.ofString
  let telegram ← c.telegramPatterns.mapM Pattern.ofString
  return ⟨[email], password, displayName, phone, telegram⟩

/-- The rules of one field. -/
def rules (v : Validator) : Field → List Pattern
  | .email => v.email
  | .password => v.password
  | .displayName => v.displayName
  | .phone => v.phone
  | .telegram => v.telegram

/-- Whether a text is acceptable for a field. -/
def accepts (v : Validator) (field : Field) (text : String) : Bool :=
  (v.rules field).all fun p => p.isMatch text

end Validator

end SignOn
