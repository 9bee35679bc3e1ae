import SignOn.Toml.Number
import SignOn.Toml.Table
import SignOn.Toml.Text
/-!
# Reading TOML

`Toml.read` gives the document of a whole TOML text, version 1.0, and
refuses any other text. A byte order mark may stand in front.
-/

namespace SignOn

namespace Toml

/-! ## Values -/

/-- The document of a date: a table with the one entry that no setting
has. -/
def dateDocument : Document :=
  .table [("$date", .text "")]

/-- A value that is no list and no inline table. -/
def readScalar (cs : List Char) : Option (Document × List Char) :=
  match readString? cs with
  | some string => string.map fun (s, rest) => (.text s, rest)
  | none =>
    match cs with
    | 't' :: 'r' :: 'u' :: 'e' :: rest => some (.bool true, rest)
    | 'f' :: 'a' :: 'l' :: 's' :: 'e' :: rest => some (.bool false, rest)
    | cs =>
      match readNumeric cs with
      | some (.whole n, rest) => some (.whole n, rest)
      | some (.fractional, rest) => some (.fractional, rest)
      | some (.date, rest) => some (dateDocument, rest)
      | none => none

mutual

/-- A value, `depth` lists and inline tables deep. Every turn takes a
character, so the length of the text is fuel enough. -/
def readValue : (fuel depth : Nat) → List Char → Option (Document × List Char)
  | 0, _, _ => none
  | fuel + 1, depth, cs =>
    match cs with
    | '[' :: rest =>
      if depth + 1 < depthLimit then
        (readItems fuel (depth + 1) [] (dropGaps (rest.length + 1) rest)).map
          fun (items, rest) => (.list items.reverse, rest)
      else none
    | '\x7b' :: rest =>
      if depth + 1 < depthLimit then
        match dropBlanks rest with
        | '\x7d' :: rest => some (.table [], rest)
        | rest =>
          (readPairs fuel (depth + 1) [] rest).map
            fun (entries, rest) => (.table (entriesToDocument entries), rest)
      else none
    | cs => readScalar cs

/-- The items of a list, last one first, to its closing bracket. A comma
may follow the last one. -/
def readItems : (fuel depth : Nat) → (items : List Document) → List Char →
    Option (List Document × List Char)
  | 0, _, _, _ => none
  | fuel + 1, depth, items, cs =>
    match cs with
    | ']' :: rest => some (items, rest)
    | cs =>
      match readValue fuel depth cs with
      | none => none
      | some (item, rest) =>
        match dropGaps (rest.length + 1) rest with
        | ',' :: rest => readItems fuel depth (item :: items) (dropGaps (rest.length + 1) rest)
        | ']' :: rest => some (item :: items, rest)
        | _ => none

/-- The entries of an inline table to its closing brace, all on one
line. -/
def readPairs : (fuel depth : Nat) → Entries → List Char → Option (Entries × List Char)
  | 0, _, _, _ => none
  | fuel + 1, depth, entries, cs =>
    match readKey cs with
    | some (path, key, '=' :: rest) =>
      match readValue fuel depth (dropBlanks rest) with
      | none => none
      | some (d, rest) =>
        match entries.addValue path key d with
        | none => none
        | some entries =>
          match dropBlanks rest with
          | ',' :: rest => readPairs fuel depth entries rest
          | '\x7d' :: rest => some (entries, rest)
          | _ => none
    | _ => none

end

/-! ## Lines -/

/-- The root of a document being read, and the table that the last header
opened. -/
structure State where
  root : Entries
  current : List String

/-- Adds a value to the table that the last header opened. -/
def State.addValue (s : State) (path : List String) (key : String) (d : Document) :
    Option State := do
  let root ← s.root.updateAt false (fun _ entries => entries.addValue path key d) s.current .header
  return { s with root := root }

/-- One line: a header, a double header, a key with its value, or
nothing. -/
def readLine (s : State) (cs : List Char) : Option (State × List Char) :=
  match dropBlanks cs with
  | '[' :: '[' :: rest => do
    let (path, key, rest) ← readKey rest
    match rest with
    | ']' :: ']' :: rest =>
      let rest ← dropLineEnd? rest
      let root ← s.root.appendTable path key
      return (⟨root, path ++ [key]⟩, rest)
    | _ => none
  | '[' :: rest => do
    let (path, key, rest) ← readKey rest
    match rest with
    | ']' :: rest =>
      let rest ← dropLineEnd? rest
      let root ← s.root.defineTable path key
      return (⟨root, path ++ [key]⟩, rest)
    | _ => none
  | cs =>
    match dropLineEnd? cs with
    | some rest => some (s, rest)
    | none => do
      let (path, key, rest) ← readKey cs
      match rest with
      | '=' :: rest =>
        let rest := dropBlanks rest
        -- a value and the list or table around it take a turn each
        let (d, rest) ← readValue (2 * rest.length + 2) 0 rest
        let rest ← dropLineEnd? rest
        let s ← s.addValue path key d
        return (s, rest)
      | _ => none

/-- All lines. Every turn takes a character, or the text is at its
end. -/
def readLines : (fuel : Nat) → State → List Char → Option State
  | 0, _, _ => none
  | _ + 1, s, [] => some s
  | fuel + 1, s, cs =>
    match readLine s cs with
    | some (s, rest) => readLines fuel s rest
    | none => none

/-- A text without the byte order mark in front of it. -/
def dropMark (cs : List Char) : List Char :=
  match cs with
  | '\ufeff' :: rest => rest
  | cs => cs

/-- The document of a text. -/
def read (text : String) : Option Document :=
  let cs := dropMark text.toList
  (readLines (cs.length + 1) ⟨[], []⟩ cs).map fun s => .table (entriesToDocument s.root)

end Toml

end SignOn
