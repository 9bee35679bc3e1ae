import SignOn.Document
/-!
# TOML: tables

A table may come about in four ways, and each allows other things to be
added later. A header defines a table once. The path of a header implies
the tables on it, which may still be defined. A dotted key makes tables
that only dotted keys of the same place may extend. And a double header
appends a table to a list of tables. A value, inline tables among them,
is never extended.
-/

namespace SignOn

namespace Toml

/-- How a table came about. -/
inductive TableKind
  | header
  | implied
  | dotted
deriving Repr, DecidableEq

/-- What stands under a key. -/
inductive Item where
  | value (d : Document)
  | table (kind : TableKind) (entries : List (String × Item))
  /-- A list of tables, in the order of their headers. -/
  | tables (elements : List (List (String × Item)))

/-- The keys of a table and what stands under them, in their order. -/
abbrev Entries := List (String × Item)

namespace Entries

/-- What stands under a key. -/
def get? (key : String) (entries : Entries) : Option Item :=
  entries.lookup key

/-- Puts an item under a key, in the place of the item that is there. -/
def put (key : String) (item : Item) (entries : Entries) : Entries :=
  if (entries.lookup key).isSome then
    entries.map fun e => if e.1 == key then (key, item) else e
  else entries ++ [(key, item)]

/-- Applies a change to the table at a path, making the tables on the way
that are not there. `byDots` says that the path is part of a dotted key.
The change sees how the table came about. -/
def updateAt (byDots : Bool) (change : TableKind → Entries → Option Entries) :
    (path : List String) → TableKind → Entries → Option Entries
  | [], kind, entries => change kind entries
  | key :: path, _, entries =>
    match entries.get? key with
    | none => do
      let kind : TableKind := if byDots then .dotted else .implied
      let inner ← updateAt byDots change path kind []
      return entries.put key (.table kind inner)
    | some (.value _) => none
    | some (.table kind inner) =>
      if byDots && kind == .header then none
      else do
        let inner ← updateAt byDots change path kind inner
        return entries.put key (.table kind inner)
    | some (.tables elements) =>
      match elements.getLast? with
      | none => none
      | some last => do
        let last ← updateAt byDots change path .header last
        return entries.put key (.tables (elements.dropLast ++ [last]))

/-- Adds a value under a dotted key. The last table on the way has to be
the one at hand, or made by dots. -/
def addValue (path : List String) (key : String) (d : Document) (entries : Entries) :
    Option Entries :=
  let change (kind : TableKind) (inner : Entries) : Option Entries :=
    if (kind == .dotted) == path.isEmpty then none
    else if (inner.get? key).isSome then none
    else some (inner.put key (.value d))
  updateAt true change path .header entries

/-- Defines the table of a header. -/
def defineTable (path : List String) (key : String) (root : Entries) : Option Entries :=
  let change (_ : TableKind) (inner : Entries) : Option Entries :=
    match inner.get? key with
    | none => some (inner.put key (.table .header []))
    | some (.table .implied entries) => some (inner.put key (.table .header entries))
    | _ => none
  updateAt false change path .header root

/-- Appends the table of a double header to its list. -/
def appendTable (path : List String) (key : String) (root : Entries) : Option Entries :=
  let change (_ : TableKind) (inner : Entries) : Option Entries :=
    match inner.get? key with
    | none => some (inner.put key (.tables [[]]))
    | some (.tables elements) => some (inner.put key (.tables (elements ++ [[]])))
    | _ => none
  updateAt false change path .header root

end Entries

mutual

/-- The document of an item. -/
def Item.toDocument : Item → Document
  | .value d => d
  | .table _ entries => .table (entriesToDocument entries)
  | .tables elements => .list (elementsToDocument elements)

/-- The entries of a table as those of a document. -/
def entriesToDocument : List (String × Item) → List (String × Document)
  | [] => []
  | (key, item) :: rest => (key, item.toDocument) :: entriesToDocument rest

/-- The tables of a list as documents. -/
def elementsToDocument : List (List (String × Item)) → List Document
  | [] => []
  | entries :: rest => .table (entriesToDocument entries) :: elementsToDocument rest

end

end Toml

end SignOn
