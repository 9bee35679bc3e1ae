/-!
# JSON values

The tree of a JSON text. Two leaves keep what a reader needs to know and
no more. A number without fraction and exponent is `whole`, any other
number (`1.0`, `1e3`, and `-0`) is `fractional` and no field takes it. A
string whose bytes or escapes name no text is unreadable, `none`: it may
stand where it is skipped, and nothing can be read from it.
-/

namespace SignOn

/-- A JSON value. -/
inductive Json where
  | null
  | bool (b : Bool)
  | whole (n : Int)
  | fractional (lexeme : String)
  | text (s : Option String)
  | list (items : List Json)
  | object (members : List (Option String × Json))

namespace Json

/-- A readable string. -/
def ofString (s : String) : Json :=
  .text (some s)

/-- A readable string, or `null` for none. -/
def ofOption (s : Option String) : Json :=
  s.elim .null .ofString

/-- A list of readable strings. -/
def ofStrings (ss : List String) : Json :=
  .list (ss.map .ofString)

/-- An object of readable member names. -/
def ofMembers (members : List (String × Json)) : Json :=
  .object (members.map fun (name, v) => (some name, v))

/-- The value of the last member of a name, in an object. -/
def get? (name : String) : Json → Option Json
  | .object members => ((members.filter fun m => m.1 == some name).getLast?).map (·.2)
  | _ => none

end Json

end SignOn
