import SignOn.Store.Tables
/-!
# Queries

Every access to the store is one of eleven queries. `Store.run` carries
one out at a time; it is atomic, and a query that fails leaves the store
as it is.
-/

namespace SignOn

/-- An access to the store. -/
inductive Query
  | insertAccount (new : NewAccount)
  | accountById (id : Int)
  | accountByEmail (email : String)
  | listAccounts (page : Option Page)
  | updateProfile (id : Int) (patch : ProfilePatch)
  | confirmEmail (id : Int)
  | setPassword (id : Int) (hash : String)
  | openSession (accountId : Int) (value : String) (ttl : Int)
  | liveSession (accountId : Int)
  | endSession (value : String)
  | purge (before : Int)
deriving Repr, DecidableEq

/-- What a query answers. -/
abbrev Query.Answer : Query → Type
  | .insertAccount _ => Int
  | .accountById _ => Account
  | .accountByEmail _ => Account
  | .listAccounts _ => List Account
  | .updateProfile _ _ => Unit
  | .confirmEmail _ => Unit
  | .setPassword _ _ => Unit
  | .openSession _ _ _ => Int
  | .liveSession _ => Session
  | .endSession _ => Unit
  | .purge _ => Nat

namespace Store

/-- A change of the store that answers nothing. -/
def changed : Except StoreError Store → Except StoreError (Unit × Store)
  | .ok s => .ok ((), s)
  | .error e => .error e

/-- An answer that leaves the store as it is. -/
def unchanged {α : Type} (s : Store) : Except StoreError α → Except StoreError (α × Store)
  | .ok a => .ok (a, s)
  | .error e => .error e

/-- Carries out a query at a time, in seconds. -/
def run (s : Store) (now : Int) : (q : Query) → Except StoreError (q.Answer × Store)
  | .insertAccount new => s.insertAccount now new
  | .accountById id => s.unchanged (s.accountById id)
  | .accountByEmail email => s.unchanged (s.accountByEmail email)
  | .listAccounts page => s.unchanged (.ok (s.listAccounts page))
  | .updateProfile id patch => changed (s.updateProfile now id patch)
  | .confirmEmail id => changed (s.confirmEmail now id)
  | .setPassword id hash => changed (s.setPassword now id hash)
  | .openSession accountId value ttl => s.openSession now accountId value ttl
  | .liveSession accountId => s.unchanged (s.liveSession now accountId)
  | .endSession value => changed (s.endSession now value)
  | .purge before => .ok (s.purge before)

end Store

end SignOn
