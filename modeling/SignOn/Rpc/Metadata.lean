import SignOn.Deadline
import SignOn.Rpc.Timeout
import SignOn.Text.Utf8
/-!
# Metadata of a call

A call comes with pairs of a key and a value. Keys are compared in lower
case, and of several values of a key the first one counts. A value is
bytes without controls other than the tab; it is text if all its bytes
are ASCII. Two keys matter: one names the request, the other limits its
time.
-/

namespace SignOn

/-- The metadata of a call, in order. -/
structure Metadata where
  entries : List (String × List UInt8) := []
deriving Repr, DecidableEq

/-- Why metadata cannot be sent. -/
inductive MetadataError
  | key
  | value
deriving Repr, DecidableEq

namespace Metadata

/-- The characters of keys, letters in lower case. -/
def isKeyChar (c : Char) : Bool :=
  ('a' ≤ c && c ≤ 'z') || c.isDigit || "!#$%&'*+-.^_`|~".toList.contains c

/-- Whether a text is the key of a value that may be read as text; keys of
other values have an ending of their own. -/
def isKey (key : String) : Bool :=
  key ≠ "" && key.toList.all isKeyChar && !key.endsWith "-bin"

/-- Whether a value may hold a byte. -/
def isValueByte (b : UInt8) : Bool :=
  b == 9 || (32 ≤ b && b != 127)

/-- Adds a pair at the end. -/
def add (m : Metadata) (key : String) (value : List UInt8) : Except MetadataError Metadata :=
  let key := key.map Char.toLower
  if ¬ isKey key then .error .key
  else if ¬ value.all isValueByte then .error .value
  else .ok ⟨m.entries ++ [(key, value)]⟩

/-- The metadata of pairs. -/
def ofPairs (pairs : List (String × List UInt8)) : Except MetadataError Metadata :=
  pairs.foldlM (fun m p => m.add p.1 p.2) {}

/-- The first value of a key, if it is text. -/
def text? (m : Metadata) (key : String) : Option String := do
  -- a first value that is no text hides the values after it
  let value ← m.entries.lookup key
  guard (value.all (· < 128))
  Utf8.decode value

/-- The name that the caller gave the request. -/
def requestId? (m : Metadata) : Option String :=
  (m.text? "x-request-id").filter (· ≠ "")

/-- The time that the caller allows, in nanoseconds. -/
def timeout? (m : Metadata) : Option Nat :=
  (m.text? "grpc-timeout").bind Timeout.ofString?

/-- The request that metadata describe, at a moment. A request without a
name gets a fresh one. -/
def context (m : Metadata) (now : Moment) (fresh : String) : RequestContext :=
  let ctx : RequestContext := { requestId := m.requestId?.getD fresh }
  match m.timeout? with
  | some timeout => ctx.withTimeout now timeout
  | none => ctx

end Metadata

end SignOn
