import SignOn.Json.Value
import SignOn.Number
/-!
# Records in JSON

A record is written as an object with its fields in any order, or as a
list of its fields in the declared order. `fields` gives the value of
each declared field. A declared name may stand once in an object; other
names are skipped; a name that is unreadable spoils the object.
-/

namespace SignOn

namespace Json

/-- The values of one name in an object. -/
def valuesOf (name : String) (members : List (Option String × Json)) : List Json :=
  (members.filter fun m => m.1 == some name).map (·.2)

/-- The value of a declared field: none, or the only one. -/
def field (members : List (Option String × Json)) (name : String) : Option (Option Json) :=
  match valuesOf name members with
  | [] => some none
  | [v] => some (some v)
  | _ => none

/-- The values of the declared fields, in the declared order. -/
def fields (declared : List String) : Json → Option (List (Option Json))
  | .object members =>
    if members.any fun m => m.1.isNone then none
    else declared.mapM (field members)
  | .list items =>
    if items.length = declared.length then some (items.map some) else none
  | _ => none

/-! ## Values of a field -/

/-- A signed 64-bit number. -/
def asInt64 : Json → Option Int
  | .whole n => if Fits64 n then some n else none
  | _ => none

/-- An unsigned 64-bit number. -/
def asUInt64 : Json → Option Nat
  | .whole n => if 0 ≤ n ∧ n < 0x10000000000000000 then some n.toNat else none
  | _ => none

/-- A readable text. -/
def asString : Json → Option String
  | .text s => s
  | _ => none

/-- A truth value. -/
def asBool : Json → Option Bool
  | .bool b => some b
  | _ => none

/-- A list of values of one kind. -/
def asListOf {α : Type} (item : Json → Option α) : Json → Option (List α)
  | .list items => items.mapM item
  | _ => none

/-- A value, or `null` for none. -/
def asOptional {α : Type} (item : Json → Option α) : Json → Option (Option α)
  | .null => some none
  | v => (item v).map some

/-- A field that must be there. -/
def required {α : Type} (item : Json → Option α) : Option Json → Option α
  | some v => item v
  | none => none

/-- A field that may be missing or `null`. -/
def optional {α : Type} (item : Json → Option α) : Option Json → Option (Option α)
  | some v => asOptional item v
  | none => some none

/-- The name of a choice without contents: a text, or an object whose
only member has that name and the value `null`. -/
def asChoice : Json → Option String
  | .text s => s
  | .object [(some name, .null)] => some name
  | _ => none

end Json

end SignOn
