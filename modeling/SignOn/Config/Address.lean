import SignOn.Config.Basic
import SignOn.Config.Error
import SignOn.Number
/-!
# Where to listen

A host is an address in numbers: four decimal octets, or eight
hexadecimal groups in square brackets with at most one gap of zeros, the
last two of them perhaps written as octets, and perhaps with a zone.
Names are not looked up. `TransportConfig.address` writes the port behind
the host and reads what comes out, `Address.ofString?`; `Address.text`
prints an address in its one canonical form.
-/

namespace SignOn

/-- A host in numbers. -/
inductive Host
  | v4 (octets : Vector UInt8 4)
  | v6 (groups : Vector UInt16 8) (zone : UInt32)
deriving Repr, DecidableEq

/-- A host and a port. -/
structure Address where
  host : Host
  port : UInt16
deriving Repr, DecidableEq

namespace Host

/-! ## Reading -/

/-- The longest run of digits of a base at the front, and the rest. -/
def spanDigits (isDigit : Char → Bool) (cs : List Char) : List Char × List Char :=
  (cs.takeWhile isDigit, cs.dropWhile isDigit)

/-- A decimal octet without needless zeros, and the rest. -/
def readOctet (cs : List Char) : Option (UInt8 × List Char) :=
  let (digits, rest) := spanDigits Char.isDigit cs
  let n := ofDigits 10 digits
  if digits = [] ∨ 3 < digits.length ∨ 255 < n ∨ (1 < digits.length ∧ digits.head? = some '0')
  then none
  else some (UInt8.ofNat n, rest)

/-- A character that must come next. -/
def readChar (c : Char) : List Char → Option (List Char)
  | d :: rest => if d = c then some rest else none
  | [] => none

/-- Four octets with dots between them, and the rest. -/
def readOctets (cs : List Char) : Option (Vector UInt8 4 × List Char) := do
  let (a, cs) ← readOctet cs
  let (b, cs) ← readOctet (← readChar '.' cs)
  let (c, cs) ← readOctet (← readChar '.' cs)
  let (d, cs) ← readOctet (← readChar '.' cs)
  return (#v[a, b, c, d], cs)

/-- Whether a character is a hexadecimal digit. -/
def isHexDigit (c : Char) : Bool :=
  (hexValue? c).isSome

/-- One to four hexadecimal digits, and the rest. -/
def readGroup (cs : List Char) : Option (UInt16 × List Char) :=
  let (digits, rest) := spanDigits isHexDigit cs
  if digits = [] ∨ 4 < digits.length then none
  else some (UInt16.ofNat (ofDigits 16 digits), rest)

/-- Two octets as one group. -/
def group (high low : UInt8) : UInt16 :=
  UInt16.ofNat (256 * high.toNat + low.toNat)

/-- Groups with colons between them, at most `room` of them, as long as
they go on. The last two may be written as octets; the flag says so. -/
def readGroups (first : Bool) : Nat → List Char → List UInt16 × Bool × List Char
  | 0, cs => ([], false, cs)
  | room + 1, cs =>
    match if first then some cs else readChar ':' cs with
    | none => ([], false, cs)
    | some inner =>
      match if 0 < room then readOctets inner else none with
      | some (o, rest) => ([group o[0] o[1], group o[2] o[3]], true, rest)
      | none =>
        match readGroup inner with
        | none => ([], false, cs)
        | some (g, rest) =>
          let (gs, octets, rest) := readGroups false room rest
          (g :: gs, octets, rest)

/-- A list of eight groups. -/
def ofGroups (groups : List UInt16) : Option (Vector UInt16 8) :=
  if h : groups.toArray.size = 8 then some ⟨groups.toArray, h⟩ else none

/-- Eight groups, or fewer with a double colon in place of the zeros, and
the rest. -/
def readAllGroups (cs : List Char) : Option (Vector UInt16 8 × List Char) := do
  let (head, octets, rest) := readGroups true 8 cs
  match ofGroups head with
  | some groups => return (groups, rest)
  | none =>
    -- octets end the groups, so no gap comes after them
    guard (!octets)
    let rest ← readChar ':' (← readChar ':' rest)
    let (tail, _, rest) := readGroups true (7 - head.length) rest
    let gap := List.replicate (8 - head.length - tail.length) 0
    let groups ← ofGroups (head ++ gap ++ tail)
    return (groups, rest)

/-- A zone after a percent sign, 0 if there is none, and the rest. -/
def readZone (cs : List Char) : UInt32 × List Char :=
  match cs with
  | '%' :: after =>
    let (digits, rest) := spanDigits Char.isDigit after
    match decimal? digits with
    | some n => if n < 0x100000000 then (UInt32.ofNat n, rest) else (0, cs)
    | none => (0, cs)
  | _ => (0, cs)

/-- Four octets, and the rest. -/
def readV4 (cs : List Char) : Option (Host × List Char) := do
  let (octets, rest) ← readOctets cs
  return (.v4 octets, rest)

/-- Groups in square brackets, perhaps with a zone, and the rest. -/
def readV6 (cs : List Char) : Option (Host × List Char) := do
  let (groups, rest) ← readAllGroups (← readChar '[' cs)
  let (zone, rest) := readZone rest
  let rest ← readChar ']' rest
  return (.v6 groups zone, rest)

/-! ## Printing -/

/-- Four octets with dots between them. -/
def octetsText (o : Vector UInt8 4) : String :=
  ".".intercalate (o.toList.map fun n => toString n.toNat)

/-- A group in lower-case hexadecimal. -/
def groupText (g : UInt16) : String :=
  String.ofList (Nat.toDigits 16 g.toNat)

/-- Groups with colons between them. -/
def groupsText (gs : List UInt16) : String :=
  ":".intercalate (gs.map groupText)

/-- How many zeros a list starts with. -/
def leadingZeros (gs : List UInt16) : Nat :=
  (gs.takeWhile (· = 0)).length

/-- The start and length of the first longest run of zeros. -/
def longestGap (gs : List UInt16) : Nat × Nat :=
  (List.range gs.length).foldl
    (fun best i => let n := leadingZeros (gs.drop i); if best.2 < n then (i, n) else best) (0, 0)

/-- Groups in canonical form: a run of two or more zeros becomes a double
colon, and what stands for four octets shows them. -/
def compressed (gs : List UInt16) : String :=
  match gs with
  | [0, 0, 0, 0, 0, 0xffff, a, b] =>
    "::ffff:" ++ octetsText #v[(a >>> 8).toUInt8, a.toUInt8, (b >>> 8).toUInt8, b.toUInt8]
  | _ =>
    let (start, length) := longestGap gs
    if 1 < length then groupsText (gs.take start) ++ "::" ++ groupsText (gs.drop (start + length))
    else groupsText gs

/-- The text of a host, in brackets where it has colons. -/
def text : Host → String
  | .v4 octets => octetsText octets
  | .v6 groups zone =>
    let zoneText := if zone = 0 then "" else "%" ++ toString zone.toNat
    "[" ++ compressed groups.toList ++ zoneText ++ "]"

end Host

namespace Address

/-- A colon with a port behind it, and the rest. -/
def readPort (cs : List Char) : Option (UInt16 × List Char) := do
  let (digits, rest) := Host.spanDigits Char.isDigit (← Host.readChar ':' cs)
  let n ← decimal? digits
  guard (n < 0x10000)
  return (UInt16.ofNat n, rest)

/-- A host of some kind with a port behind it, and the rest. -/
def readWith (readHost : List Char → Option (Host × List Char)) (cs : List Char) :
    Option (Address × List Char) := do
  let (host, rest) ← readHost cs
  let (port, rest) ← readPort rest
  return (⟨host, port⟩, rest)

/-- The address that a text writes. -/
def ofString? (s : String) : Option Address :=
  match (readWith Host.readV4 s.toList).or (readWith Host.readV6 s.toList) with
  | some (a, []) => some a
  | _ => none

/-- The text of an address. -/
def text (a : Address) : String :=
  a.host.text ++ ":" ++ toString a.port.toNat

end Address

/-- The address to listen on. -/
def TransportConfig.address (c : TransportConfig) : Except ConfigError Address :=
  match Address.ofString? (c.host ++ ":" ++ toString c.port.toNat) with
  | some a => .ok a
  | none => .error .addressMalformed

end SignOn
