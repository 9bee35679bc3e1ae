import SignOn.Json.Value
import SignOn.Number
import SignOn.Text.Utf8
/-!
# Reading JSON

`Json.read` reads a whole text of bytes. The grammar is that of JSON:
control characters may not stand in strings, numbers have no superfluous
zero and no plus sign, nothing may follow the value but blanks. Text
inside strings is not judged here: where it is no UTF-8, or an escape
names half of a character, the string is kept as unreadable.
-/

namespace SignOn

namespace Json

/-! ## Blanks, digits and words -/

/-- Space, tab, line feed, carriage return. -/
def isBlank (b : UInt8) : Bool :=
  b == 0x20 || b == 0x09 || b == 0x0a || b == 0x0d

/-- The bytes from the first that is no blank. -/
def skipBlanks (bytes : List UInt8) : List UInt8 :=
  bytes.dropWhile isBlank

/-- An ASCII digit. -/
def isDigit (b : UInt8) : Bool :=
  0x30 ≤ b && b ≤ 0x39

/-- What follows a word, if the bytes start with it. -/
def dropWord (word : String) (bytes : List UInt8) : Option (List UInt8) :=
  let w := Utf8.encode word
  if w.isPrefixOf bytes then some (bytes.drop w.length) else none

/-! ## Strings -/

/-- Where in a string the reader is: between characters, after a
backslash, or inside a four-digit escape with this many digits to
come. -/
inductive Phase
  | plain
  | escape
  | code (digits value : Nat)

/-- What a string has given so far. -/
structure Scan where
  phase : Phase
  /-- The bytes of the text, last one first. -/
  bytes : List UInt8
  /-- The first half of a surrogate pair whose second half must follow. -/
  half : Option Nat
  readable : Bool

/-- The start of a string. -/
def Scan.start : Scan :=
  ⟨.plain, [], none, true⟩

/-- Adds one character. A waiting half of a pair is spoiled by it. -/
def Scan.push (s : Scan) (c : Char) : Scan :=
  { phase := .plain
    bytes := (String.utf8EncodeChar c).reverse ++ s.bytes
    half := none
    readable := s.readable && s.half.isNone }

/-- Marks the string as unreadable. -/
def Scan.spoil (s : Scan) : Scan :=
  { s with phase := .plain, half := none, readable := false }

/-- Adds the character of a four-digit escape, which may be one half of a
surrogate pair. -/
def Scan.pushCode (s : Scan) (n : Nat) : Scan :=
  if 0xD800 ≤ n ∧ n < 0xDC00 then
    -- the first half of a pair waits for the second
    { s with phase := .plain, half := some n, readable := s.readable && s.half.isNone }
  else if 0xDC00 ≤ n ∧ n < 0xE000 then
    match s.half with
    | some high =>
      let c := Char.ofNat (0x10000 + (high - 0xD800) * 0x400 + (n - 0xDC00))
      { s.push c with readable := s.readable }
    | none => s.spoil
  else s.push (Char.ofNat n)

/-- The character of a one-letter escape. -/
def simpleEscape? (b : UInt8) : Option Char :=
  if b == 0x22 then some '"'
  else if b == 0x5c then some '\\'
  else if b == 0x2f then some '/'
  else if b == 0x62 then some '\x08'
  else if b == 0x66 then some '\x0c'
  else if b == 0x6e then some '\n'
  else if b == 0x72 then some '\r'
  else if b == 0x74 then some '\t'
  else none

/-- Reads a byte after a backslash. -/
def Scan.escape (s : Scan) (b : UInt8) : Option Scan :=
  if b == 0x75 then some { s with phase := .code 4 0 }
  else (simpleEscape? b).map s.push

/-- Reads a digit of a four-digit escape. -/
def Scan.digit (s : Scan) (digits value : Nat) (b : UInt8) : Option Scan := do
  let v ← hexValue? (Char.ofNat b.toNat)
  let value := 16 * value + v
  if digits ≤ 1 then return s.pushCode value
  else return { s with phase := .code (digits - 1) value }

/-- Reads a byte that stands for itself. -/
def Scan.plain (s : Scan) (b : UInt8) : Scan :=
  { s with bytes := b :: s.bytes, half := none, readable := s.readable && s.half.isNone }

/-- The text that was read. -/
def Scan.text (s : Scan) : Option String :=
  if s.readable && s.half.isNone then Utf8.decode s.bytes.reverse else none

/-- Reads a string to its closing quote. The outer option is the
grammar's; the inner one says whether the string is readable. -/
def readString (s : Scan) : List UInt8 → Option (Option String × List UInt8)
  | [] => none
  | b :: rest =>
    match s.phase with
    | .plain =>
      if b == 0x22 then some (s.text, rest)
      else if b == 0x5c then readString { s with phase := .escape } rest
      else if b < 0x20 then none
      else readString (s.plain b) rest
    | .escape =>
      match s.escape b with
      | some s => readString s rest
      | none => none
    | .code digits value =>
      match s.digit digits value b with
      | some s => readString s rest
      | none => none

/-! ## Numbers -/

/-- The digits at the front, and what follows them. -/
def spanDigits (bytes : List UInt8) : List UInt8 × List UInt8 :=
  bytes.span isDigit

/-- An integer part: `0`, or digits that do not start with `0`. -/
def readInteger (bytes : List UInt8) : Option (List UInt8 × List UInt8) :=
  match spanDigits bytes with
  | ([], _) => none
  | (0x30 :: _ :: _, _) => none
  | (digits, rest) => some (digits, rest)

/-- A fraction, if there is one. -/
def readFraction (bytes : List UInt8) : Option (List UInt8 × List UInt8) :=
  match bytes with
  | 0x2e :: rest =>
    match spanDigits rest with
    | ([], _) => none
    | (digits, rest) => some (0x2e :: digits, rest)
  | _ => some ([], bytes)

/-- The sign of an exponent, if there is one. -/
def readSign (bytes : List UInt8) : List UInt8 × List UInt8 :=
  match bytes with
  | 0x2b :: rest => ([0x2b], rest)
  | 0x2d :: rest => ([0x2d], rest)
  | _ => ([], bytes)

/-- An exponent, if there is one. -/
def readExponent (bytes : List UInt8) : Option (List UInt8 × List UInt8) :=
  match bytes with
  | b :: rest =>
    if b == 0x65 || b == 0x45 then
      let (sign, rest) := readSign rest
      match spanDigits rest with
      | ([], _) => none
      | (digits, rest) => some (b :: sign ++ digits, rest)
    else some ([], bytes)
  | [] => some ([], [])

/-- The number that decimal digits write. -/
def digitsValue (digits : List UInt8) : Nat :=
  digits.foldl (fun n b => 10 * n + (b.toNat - 48)) 0

/-- A number after its sign. -/
def readNumber (negative : Bool) (bytes : List UInt8) : Option (Json × List UInt8) := do
  let (digits, rest) ← readInteger bytes
  let (fraction, rest) ← readFraction rest
  let (exponent, rest) ← readExponent rest
  let n := digitsValue digits
  if fraction = [] ∧ exponent = [] ∧ ¬ (negative ∧ n = 0) then
    return (.whole (if negative then - (n : Int) else n), rest)
  else
    let sign : List UInt8 := if negative then [0x2d] else []
    let lexeme := (Utf8.decode (sign ++ digits ++ fraction ++ exponent)).getD ""
    return (.fractional lexeme, rest)

/-! ## Values -/

/-- A value that is no list and no object. -/
def readLeaf (b : UInt8) (rest : List UInt8) : Option (Json × List UInt8) :=
  if b == 0x22 then (readString .start rest).map fun (s, rest) => (.text s, rest)
  else if b == 0x2d then readNumber true rest
  else if isDigit b then readNumber false (b :: rest)
  else if b == 0x6e then (dropWord "ull" rest).map fun rest => (.null, rest)
  else if b == 0x74 then (dropWord "rue" rest).map fun rest => (.bool true, rest)
  else if b == 0x66 then (dropWord "alse" rest).map fun rest => (.bool false, rest)
  else none

mutual

/-- A value, after blanks. Every turn takes a byte, so the length of the
text is fuel enough. -/
def readValue : (fuel : Nat) → List UInt8 → Option (Json × List UInt8)
  | 0, _ => none
  | fuel + 1, bytes =>
    match skipBlanks bytes with
    | [] => none
    | b :: rest =>
      if b == 0x5b then
        match skipBlanks rest with
        | 0x5d :: rest => some (.list [], rest)
        | rest => (readItems fuel rest).map fun (items, rest) => (.list items, rest)
      else if b == 0x7b then
        match skipBlanks rest with
        | 0x7d :: rest => some (.object [], rest)
        | rest => (readMembers fuel rest).map fun (members, rest) => (.object members, rest)
      else readLeaf b rest

/-- The items of a list and its closing bracket. -/
def readItems : (fuel : Nat) → List UInt8 → Option (List Json × List UInt8)
  | 0, _ => none
  | fuel + 1, bytes =>
    match readValue fuel bytes with
    | none => none
    | some (item, rest) =>
      match skipBlanks rest with
      | 0x2c :: rest => (readItems fuel rest).map fun (items, rest) => (item :: items, rest)
      | 0x5d :: rest => some ([item], rest)
      | _ => none

/-- The members of an object and its closing brace. -/
def readMembers : (fuel : Nat) → List UInt8 → Option (List (Option String × Json) × List UInt8)
  | 0, _ => none
  | fuel + 1, bytes =>
    match skipBlanks bytes with
    | 0x22 :: rest =>
      match readString .start rest with
      | none => none
      | some (name, rest) =>
        match skipBlanks rest with
        | 0x3a :: rest =>
          match readValue fuel rest with
          | none => none
          | some (item, rest) =>
            match skipBlanks rest with
            | 0x2c :: rest =>
              (readMembers fuel rest).map fun (members, rest) => ((name, item) :: members, rest)
            | 0x7d :: rest => some ([(name, item)], rest)
            | _ => none
        | _ => none
    | _ => none

end

/-- The value that a whole text writes. -/
def read (bytes : List UInt8) : Option Json :=
  match readValue (2 * bytes.length + 2) bytes with
  | some (v, rest) => if (skipBlanks rest).isEmpty then some v else none
  | none => none

/-- The value that a whole text writes. -/
def ofText (s : String) : Option Json :=
  read (Utf8.encode s)

end Json

end SignOn
