import SignOn.Json.Value
/-!
# Documents

A document is what a settings file comes to, whatever it was written in:
a tree of tables, lists and scalars. The two ways in differ in one point:
where a record is written as a list, a list that is too long is refused
in one of them and cut in the other.
-/

namespace SignOn

/-- A document. -/
inductive Document where
  | null
  | bool (b : Bool)
  | whole (n : Int)
  | fractional
  | text (s : String)
  | list (items : List Document)
  | table (entries : List (String × Document))

namespace Document

mutual

/-- The document that a JSON value writes. Of members with one name the
last one counts. -/
def ofJson : Json → Document
  | .null => .null
  | .bool b => .bool b
  | .whole n => .whole n
  | .fractional _ => .fractional
  | .text s => .text (s.getD "")
  | .list items => .list (ofItems items)
  | .object members => .table (ofMembers members)

/-- The documents of the items of a list. -/
def ofItems : List Json → List Document
  | [] => []
  | v :: vs => ofJson v :: ofItems vs

/-- The entries of an object. -/
def ofMembers : List (Option String × Json) → List (String × Document)
  | [] => []
  | (name, v) :: ms =>
    let rest := ofMembers ms
    let name := name.getD ""
    -- a later member of the name takes the place of this one
    if rest.any fun e => e.1 == name then rest else (name, ofJson v) :: rest

end

/-- The entry of a name. -/
def get? (d : Document) (name : String) : Option Document :=
  match d with
  | .table entries => entries.lookup name
  | _ => none

end Document

end SignOn
