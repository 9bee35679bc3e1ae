import SignOn.Number
/-!
# TOML: blanks, strings and keys

The parts of a TOML text that hold characters. Controls other than the
tab stand nowhere, a line ends with a line feed or with a carriage return
and a line feed, and a string is read with its escapes resolved.
-/

namespace SignOn

namespace Toml

/-! ## Blanks -/

/-- Space or tab. -/
def isBlank (c : Char) : Bool :=
  c = ' ' || c = '\t'

/-- A character that may stand in a comment or a string: a tab, or
anything from the space on but the delete control. -/
def isPlain (c : Char) : Bool :=
  c = '\t' || (0x20 ≤ c.toNat && c.toNat ≠ 0x7F)

/-- Drops spaces and tabs. -/
def dropBlanks (cs : List Char) : List Char :=
  cs.dropWhile isBlank

/-- What follows the end of a line, if one is here. -/
def dropNewline? : List Char → Option (List Char)
  | '\n' :: rest => some rest
  | '\r' :: '\n' :: rest => some rest
  | _ => none

/-- What follows a comment, if one is here: the end of its line. -/
def dropComment (cs : List Char) : List Char :=
  match cs with
  | '#' :: rest => rest.dropWhile isPlain
  | cs => cs

/-- What follows the rest of a line that holds blanks and a comment at
most. The text may end there. -/
def dropLineEnd? (cs : List Char) : Option (List Char) :=
  match dropComment (dropBlanks cs) with
  | [] => some []
  | cs => dropNewline? cs

/-- Drops blanks, comments and line ends. -/
def dropGaps : (fuel : Nat) → List Char → List Char
  | 0, cs => cs
  | fuel + 1, cs =>
    match dropComment (dropBlanks cs) with
    | cs =>
      match dropNewline? cs with
      | some rest => dropGaps fuel rest
      | none => cs

/-- Drops blanks and line ends. -/
def dropBlankLines : (fuel : Nat) → List Char → List Char
  | 0, cs => cs
  | fuel + 1, cs =>
    let cs := dropBlanks cs
    match dropNewline? cs with
    | some rest => dropBlankLines fuel rest
    | none => cs

/-! ## Escapes -/

/-- Exactly `count` hexadecimal digits. -/
def readHex : (count value : Nat) → List Char → Option (Nat × List Char)
  | 0, value, cs => some (value, cs)
  | _ + 1, _, [] => none
  | count + 1, value, c :: cs =>
    match hexValue? c with
    | some v => readHex count (16 * value + v) cs
    | none => none

/-- The character of a code of so many digits. -/
def readCode (count : Nat) (cs : List Char) : Option (Char × List Char) := do
  let (n, rest) ← readHex count 0 cs
  if n.isValidChar then some (Char.ofNat n, rest) else none

/-- The character that an escape stands for, after the backslash. -/
def readEscape : List Char → Option (Char × List Char)
  | 'b' :: cs => some ('\x08', cs)
  | 't' :: cs => some ('\t', cs)
  | 'n' :: cs => some ('\n', cs)
  | 'f' :: cs => some ('\x0c', cs)
  | 'r' :: cs => some ('\r', cs)
  | '"' :: cs => some ('"', cs)
  | '\\' :: cs => some ('\\', cs)
  | 'u' :: cs => readCode 4 cs
  | 'U' :: cs => readCode 8 cs
  | _ => none

/-! ## Strings -/

/-- A text and what follows it. -/
abbrev TextRead := Option (String × List Char)

/-- The text of characters given last one first. -/
def textOf (reversed : List Char) : String :=
  String.ofList reversed.reverse

/-- A string on one line with escapes, to its closing quote. -/
def readBasic : (fuel : Nat) → (acc : List Char) → List Char → TextRead
  | 0, _, _ => none
  | _ + 1, _, [] => none
  | fuel + 1, acc, c :: cs =>
    if c = '"' then some (textOf acc, cs)
    else if c = '\\' then
      match readEscape cs with
      | some (e, rest) => readBasic fuel (e :: acc) rest
      | none => none
    else if isPlain c then readBasic fuel (c :: acc) cs
    else none

/-- A string on one line without escapes, to its closing quote. -/
def readLiteral (acc : List Char) : List Char → TextRead
  | [] => none
  | c :: cs =>
    if c = '\'' then some (textOf acc, cs)
    else if isPlain c then readLiteral (c :: acc) cs
    else none

/-- How many of a character stand at the front, and what follows them. -/
def countFront (q : Char) : List Char → Nat × List Char
  | [] => (0, [])
  | c :: cs => if c = q then let (n, rest) := countFront q cs; (n + 1, rest) else (0, c :: cs)

/-- The end of a string over several lines at a run of quotes. Three of
them close it, and up to two before them belong to it; fewer than three
are part of the text. -/
def closingQuotes? (q : Char) (acc cs : List Char) : Option (Option (String × List Char)) :=
  let (n, rest) := countFront q cs
  if n < 3 then none
  else
    let kept := min (n - 3) 2
    some (some (textOf (List.replicate kept q ++ acc),
      List.replicate (n - 3 - kept) q ++ rest))

/-- A string over several lines with escapes. A backslash at the end of a
line joins it to the next character that is not blank. -/
def readLongBasic : (fuel : Nat) → (acc : List Char) → List Char → TextRead
  | 0, _, _ => none
  | _ + 1, _, [] => none
  | fuel + 1, acc, c :: cs =>
    if c = '"' then
      match closingQuotes? '"' acc (c :: cs) with
      | some result => result
      | none => readLongBasic fuel (c :: acc) cs
    else if c = '\\' then
      match dropNewline? (dropBlanks cs) with
      | some rest => readLongBasic fuel acc (dropBlankLines (rest.length + 1) rest)
      | none =>
        match readEscape cs with
        | some (e, rest) => readLongBasic fuel (e :: acc) rest
        | none => none
    else
      match dropNewline? (c :: cs) with
      | some rest => readLongBasic fuel ('\n' :: acc) rest
      | none => if isPlain c then readLongBasic fuel (c :: acc) cs else none

/-- A string over several lines without escapes. -/
def readLongLiteral : (fuel : Nat) → (acc : List Char) → List Char → TextRead
  | 0, _, _ => none
  | _ + 1, _, [] => none
  | fuel + 1, acc, c :: cs =>
    if c = '\'' then
      match closingQuotes? '\'' acc (c :: cs) with
      | some result => result
      | none => readLongLiteral fuel (c :: acc) cs
    else
      match dropNewline? (c :: cs) with
      | some rest => readLongLiteral fuel ('\n' :: acc) rest
      | none => if isPlain c then readLongLiteral fuel (c :: acc) cs else none

/-- A line end right after an opening triple quote is no part of the
text. -/
def dropFirstNewline (cs : List Char) : List Char :=
  (dropNewline? cs).getD cs

/-- A string of any of the four kinds, none where no quote is. -/
def readString? (cs : List Char) : Option TextRead :=
  match cs with
  | '"' :: '"' :: '"' :: rest =>
    some (readLongBasic (rest.length + 1) [] (dropFirstNewline rest))
  | '\'' :: '\'' :: '\'' :: rest =>
    some (readLongLiteral (rest.length + 1) [] (dropFirstNewline rest))
  | '"' :: rest => some (readBasic (rest.length + 1) [] rest)
  | '\'' :: rest => some (readLiteral [] rest)
  | _ => none

/-! ## Keys -/

/-- A character of a key without quotes. -/
def isBareKeyChar (c : Char) : Bool :=
  c.isAlphanum || c = '-' || c = '_'

/-- A key without dots. -/
def readSimpleKey (cs : List Char) : TextRead :=
  match cs with
  | '"' :: rest => readBasic (rest.length + 1) [] rest
  | '\'' :: rest => readLiteral [] rest
  | cs =>
    match cs.span isBareKeyChar with
    | ([], _) => none
    | (name, rest) => some (String.ofList name, rest)

/-- How deep values may be nested and how many parts a key may have, plus
one. -/
def depthLimit : Nat := 80

/-- The parts of a key, last one first. -/
def readKeyParts : (fuel : Nat) → (parts : List String) → List Char →
    Option (List String × List Char)
  | 0, _, _ => none
  | fuel + 1, parts, cs =>
    match readSimpleKey (dropBlanks cs) with
    | none => none
    | some (name, rest) =>
      match dropBlanks rest with
      | '.' :: rest => readKeyParts fuel (name :: parts) rest
      | rest => some (name :: parts, rest)

/-- A key: the parts before its last one, and the last one. -/
def readKey (cs : List Char) : Option (List String × String × List Char) :=
  match readKeyParts (cs.length + 1) [] cs with
  | some (last :: before, rest) =>
    if before.length + 1 < depthLimit then some (before.reverse, last, rest) else none
  | _ => none

end Toml

end SignOn
