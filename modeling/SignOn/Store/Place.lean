import SignOn.Store.Tables
/-!
# Opening a store

A store lives in memory or in a file. Directories on the way to the file
are made when they are missing.
-/

namespace SignOn

/-- What is at the place of a store. -/
inductive Place
  /-- Nothing yet: a store without rows is made there. -/
  | vacant
  /-- A store. -/
  | store (s : Store)
  /-- A file stands where a directory would have to be. -/
  | blocked
  /-- A directory, or a file with other contents. -/
  | foreign
deriving Repr, DecidableEq

/-- The store at a place. -/
def Place.openStore : Place → Except StoreError Store
  | .vacant => .ok .empty
  | .store s => .ok s
  | .blocked => .error (.io "File exists")
  | .foreign => .error (.connection "unable to open database file")

end SignOn
