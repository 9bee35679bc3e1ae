import SignOn.Json.Value
import SignOn.Text.Utf8
/-!
# Writing JSON

`Json.write` gives the compact text of a value: no blanks, members in
their order, and in strings only the quote, the backslash and the
control characters escaped.
-/

namespace SignOn

namespace Json

/-- A lower-case hexadecimal digit. -/
def hexDigit (n : Nat) : Char :=
  Nat.digitChar n

/-- A character inside a string. -/
def escapeChar (c : Char) : List Char :=
  if c = '"' then ['\\', '"']
  else if c = '\\' then ['\\', '\\']
  else if c = '\x08' then ['\\', 'b']
  else if c = '\x0c' then ['\\', 'f']
  else if c = '\n' then ['\\', 'n']
  else if c = '\r' then ['\\', 'r']
  else if c = '\t' then ['\\', 't']
  else if c.toNat < 0x20 then
    ['\\', 'u', '0', '0', hexDigit (c.toNat / 16), hexDigit (c.toNat % 16)]
  else [c]

/-- A string with its quotes. -/
def quoted (s : String) : List Char :=
  '"' :: s.toList.flatMap escapeChar ++ ['"']

/-- An integer in decimal. -/
def decimalChars (n : Int) : List Char :=
  if n < 0 then '-' :: Nat.toDigits 10 n.natAbs else Nat.toDigits 10 n.natAbs

/-- The separator before an item that is not the first. -/
def joined (parts : List (List Char)) : List Char :=
  match parts with
  | [] => []
  | p :: ps => p ++ ps.flatMap fun q => ',' :: q

mutual

/-- The characters of a value. An unreadable string is written as an
empty one. -/
def chars : Json → List Char
  | .null => "null".toList
  | .bool true => "true".toList
  | .bool false => "false".toList
  | .whole n => decimalChars n
  | .fractional lexeme => lexeme.toList
  | .text s => quoted (s.getD "")
  | .list items => '[' :: joined (charsOfItems items) ++ [']']
  | .object members => '{' :: joined (charsOfMembers members) ++ ['}']

/-- The characters of each item. -/
def charsOfItems : List Json → List (List Char)
  | [] => []
  | v :: vs => chars v :: charsOfItems vs

/-- The characters of each member. -/
def charsOfMembers : List (Option String × Json) → List (List Char)
  | [] => []
  | (name, v) :: ms => (quoted (name.getD "") ++ ':' :: chars v) :: charsOfMembers ms

end

/-- The compact text of a value. -/
def write (v : Json) : String :=
  String.ofList (chars v)

end Json

end SignOn
