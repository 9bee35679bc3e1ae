import SignOn.Pattern.Basic
/-!
# Flags and escapes

What a backslash starts in a written pattern: a character, a named set or
an anchor. `readEscape` reads what follows the backslash. Which of them
are allowed hangs on the flags: without Unicode, sets hold ASCII only and
cannot be negated.
-/

namespace SignOn

namespace Pattern

/-- Why a text is no pattern. -/
inductive SyntaxError
  | nothingToRepeat
  | countUnclosed
  | countMissing
  | countInvalid
  | groupUnclosed
  | groupUnopened
  | groupNameInvalid
  | groupNameDuplicate
  | lookAround
  | flagUnknown
  | flagDuplicate
  | flagUnclosed
  | flagDanglingNegation
  | escapeUnclosed
  | escapeUnknown
  | backReference
  | codeInvalid
  | propertyUnknown
  | edgeUnknown
  | classUnclosed
  | classRangeInvalid
  | classEscapeInvalid
  /-- A construct that would match bytes that are no text. -/
  | notText
  | nestedTooDeep
  | tooLarge
deriving Repr, DecidableEq

/-- The flags in force. -/
structure Flags where
  caseless : Bool := false
  multiLine : Bool := false
  dotAll : Bool := false
  swapGreed : Bool := false
  unicode : Bool := true
  crlf : Bool := false
  /-- Blanks and comments in the pattern are skipped. -/
  spaced : Bool := false
deriving Repr, DecidableEq

/-- The flag of a letter, as the change that sets it. -/
def Flags.set? (c : Char) (on : Bool) (f : Flags) : Option Flags :=
  if c = 'i' then some { f with caseless := on }
  else if c = 'm' then some { f with multiLine := on }
  else if c = 's' then some { f with dotAll := on }
  else if c = 'U' then some { f with swapGreed := on }
  else if c = 'u' then some { f with unicode := on }
  else if c = 'R' then some { f with crlf := on }
  else if c = 'x' then some { f with spaced := on }
  else none

/-- Drops blanks, and comments from `#` to the end of a line. -/
def dropSpace : (inComment : Bool) → List Char → List Char
  | _, [] => []
  | true, c :: cs => dropSpace (c != '\n') cs
  | false, c :: cs =>
    if Unicode.isWhiteSpace c then dropSpace false cs
    else if c = '#' then dropSpace true cs
    else c :: cs

/-- Drops what the flags say is not part of the pattern. -/
def Flags.skip (f : Flags) (cs : List Char) : List Char :=
  if f.spaced then dropSpace false cs else cs

/-- The set without regard to case, if the flags say so. -/
def Flags.fold (f : Flags) (s : CharSet) : CharSet :=
  if f.caseless then (if f.unicode then .caseless s else .asciiCaseless s) else s

/-- A set, or its complement. Without Unicode there is no complement. -/
def Flags.negateIf (f : Flags) (negated : Bool) (s : CharSet) : Except SyntaxError CharSet :=
  if negated then (if f.unicode then .ok (.compl s) else .error .notText) else .ok s

/-- What an escape, or a character of its own, stands for. -/
inductive Primitive where
  /-- A character; `byte` says that it was written as one byte. -/
  | char (c : Char) (byte : Bool)
  | set (s : CharSet)
  | anchor (a : Anchor)

/-! ## Characters by their code -/

/-- The character of a code point. -/
def codePoint (n : Nat) : Except SyntaxError Char :=
  if n.isValidChar then .ok (Char.ofNat n) else .error .codeInvalid

/-- Exactly `count` hexadecimal digits. -/
def readHexDigits (f : Flags) : (count value : Nat) → List Char →
    Except SyntaxError (Nat × List Char)
  | 0, value, cs => .ok (value, cs)
  | count + 1, value, cs =>
    match f.skip cs with
    | [] => .error .escapeUnclosed
    | c :: cs =>
      match hexValue? c with
      | some v => readHexDigits f count (16 * value + v) cs
      | none => .error .codeInvalid

/-- Hexadecimal digits up to a closing brace, at least one. -/
def readHexBraced (f : Flags) : (fuel : Nat) → (value : Option Nat) → List Char →
    Except SyntaxError (Nat × List Char)
  | 0, _, _ => .error .escapeUnclosed
  | fuel + 1, value, cs =>
    match f.skip cs with
    | [] => .error .escapeUnclosed
    | c :: cs =>
      if c = '\x7d' then
        match value with
        | some v => .ok (v, cs)
        | none => .error .codeInvalid
      else
        match hexValue? c with
        | some v => readHexBraced f fuel (some (16 * value.getD 0 + v)) cs
        | none => .error .codeInvalid

/-- A code after `\x`, `\u` or `\U`, in braces or of a fixed length. -/
def readCode (f : Flags) (letter : Char) (cs : List Char) :
    Except SyntaxError (Primitive × List Char) := do
  match f.skip cs with
  | [] => .error .escapeUnclosed
  | '\x7b' :: rest =>
    let (n, rest) ← readHexBraced f (rest.length + 1) none rest
    return (.char (← codePoint n) false, f.skip rest)
  | rest =>
    let count := if letter = 'x' then 2 else if letter = 'u' then 4 else 8
    let (n, rest) ← readHexDigits f count 0 rest
    return (.char (← codePoint n) (letter == 'x'), f.skip rest)

/-! ## Sets by name -/

/-- A property name in lower case, without blanks, separators, a leading
`is` and what is not ASCII. -/
def normalName (name : List Char) : String :=
  let isPrefixed := (name.take 2).map Char.toLower == ['i', 's']
  let body := if isPrefixed then name.drop 2 else name
  let kept := (body.filter fun c => c != ' ' && c != '_' && c != '-' && c.toNat < 128).map
    Char.toLower
  if isPrefixed && kept == ['c'] then "isc" else String.ofList kept

/-- A general category or one of the three names that are none. -/
def categorySet? (name : String) : Option CharSet :=
  if name == "any" then some (.ranges [(0, Unicode.lastCodePoint)])
  else if name == "ascii" then some (.ranges [(0, 127)])
  else if name == "assigned" then some (.compl (.ranges (Unicode.categoryRanges "Cn")))
  else (Unicode.namedCategory? name).map .ranges

/-- The set of a bare name: a property, a category or a script. Three
names are categories first. -/
def namedSet? (name : String) : Option CharSet :=
  let category := categorySet? name
  if name == "cf" || name == "sc" || name == "lc" then category
  else
    match Unicode.Property.ofName? name with
    | some p => some (.ranges p.ranges)
    | none =>
      match category with
      | some s => some s
      | none => (Unicode.Script.ofName? name).map fun s => .ranges s.ranges

/-- The set of a name and a value. -/
def valuedSet? (name value : String) : Option CharSet :=
  if name == "gc" || name == "generalcategory" then categorySet? value
  else if name == "sc" || name == "script" then
    (Unicode.Script.ofName? value).map fun s => .ranges s.ranges
  else if name == "scx" || name == "scriptextensions" then
    (Unicode.Script.ofName? value).map fun s => .ranges s.usedRanges
  else none

/-- Cuts a name at the first `!=`, else at the first `:`, else at the
first `=`; the flag tells that it was `!=`. -/
def cutName (name : List Char) : Option (List Char × List Char × Bool) :=
  let rec cutAt (sep : List Char) : List Char → Option (List Char × List Char)
    | [] => none
    | c :: cs =>
      if sep.isPrefixOf (c :: cs) then some ([], (c :: cs).drop sep.length)
      else (cutAt sep cs).map fun (a, b) => (c :: a, b)
  match cutAt ['!', '='] name with
  | some (a, b) => some (a, b, true)
  | none =>
    match cutAt [':'] name with
    | some (a, b) => some (a, b, false)
    | none => (cutAt ['='] name).map fun (a, b) => (a, b, false)

/-- The set that a name in braces stands for, and whether it is
negated. -/
def bracedSet? (name : List Char) : Option (CharSet × Bool) :=
  match cutName name with
  | some (a, b, differs) => (valuedSet? (normalName a) (normalName b)).map fun s => (s, differs)
  | none => (namedSet? (normalName name)).map fun s => (s, false)

/-- The characters up to a closing brace. -/
def readBraced (f : Flags) : (fuel : Nat) → (name : List Char) → List Char →
    Except SyntaxError (List Char × List Char)
  | 0, _, _ => .error .escapeUnclosed
  | fuel + 1, name, cs =>
    match f.skip cs with
    | [] => .error .escapeUnclosed
    | c :: cs =>
      if c = '\x7d' then .ok (name.reverse, cs) else readBraced f fuel (c :: name) cs

/-- A property after `\p` or `\P`. -/
def readProperty (f : Flags) (negated : Bool) (cs : List Char) :
    Except SyntaxError (Primitive × List Char) := do
  let (found, rest) ← match f.skip cs with
    | [] => .error .escapeUnclosed
    | '\x7b' :: rest => do
      let (name, rest) ← readBraced f (rest.length + 1) [] rest
      pure (bracedSet? name, rest)
    | c :: rest =>
      if c = '\\' then .error .escapeUnknown
      else pure ((namedSet? (normalName [c])).map fun s => (s, false), f.skip rest)
  if !f.unicode then .error .notText
  else
    match found with
    | none => .error .propertyUnknown
    | some (s, differs) =>
      let s := f.fold s
      return (.set (if negated != differs then .compl s else s), rest)

/-- The set of `\d`, `\s`, `\w` and their capitals. -/
def classLetter? (f : Flags) (c : Char) : Option (Except SyntaxError CharSet) :=
  let pick (wide narrow : CharSet) (negated : Bool) : Option (Except SyntaxError CharSet) :=
    some (f.negateIf negated (if f.unicode then wide else narrow))
  if c = 'd' then pick CharSet.digits CharSet.asciiDigits false
  else if c = 'D' then pick CharSet.digits CharSet.asciiDigits true
  else if c = 's' then pick CharSet.blanks CharSet.asciiBlanks false
  else if c = 'S' then pick CharSet.blanks CharSet.asciiBlanks true
  else if c = 'w' then pick CharSet.wordChars CharSet.asciiWordChars false
  else if c = 'W' then pick CharSet.wordChars CharSet.asciiWordChars true
  else none

/-! ## Anchors and single characters -/

/-- A character of the name of a word edge. -/
def isEdgeChar (c : Char) : Bool :=
  c.isAlpha || c = '-'

/-- The characters of the name of a word edge, and what follows them. -/
def readEdgeName (f : Flags) : (fuel : Nat) → (name : List Char) → List Char →
    List Char × List Char
  | 0, name, cs => (name.reverse, cs)
  | fuel + 1, name, cs =>
    match cs with
    | [] => (name.reverse, [])
    | c :: rest =>
      if isEdgeChar c then readEdgeName f fuel (c :: name) (f.skip rest)
      else (name.reverse, cs)

/-- What follows `\b`: the name of an edge in braces, or nothing that
belongs to it. -/
def readEdge (f : Flags) (cs : List Char) : Except SyntaxError (WordEdge × List Char) :=
  match cs with
  | '\x7b' :: rest =>
    match f.skip rest with
    | [] => .error .countUnclosed
    | c :: inner =>
      if isEdgeChar c then
        let (name, after) := readEdgeName f (inner.length + 1) [] (c :: inner)
        match after with
        | '\x7d' :: after =>
          if name = "start".toList then .ok (.opening, after)
          else if name = "end".toList then .ok (.closing, after)
          else if name = "start-half".toList then .ok (.openingHalf, after)
          else if name = "end-half".toList then .ok (.closingHalf, after)
          else .error .edgeUnknown
        | _ => .error .edgeUnknown
      else .ok (.boundary, cs)
  | _ => .ok (.boundary, cs)

/-- The control character of a letter. -/
def controlLetter? (c : Char) : Option Char :=
  if c = 'a' then some '\x07'
  else if c = 'f' then some '\x0c'
  else if c = 't' then some '\t'
  else if c = 'n' then some '\n'
  else if c = 'r' then some '\r'
  else if c = 'v' then some '\x0b'
  else none

/-- Whether a character stands for itself after a backslash: ASCII other
than letters, digits and the angle brackets. -/
def escapesToItself (c : Char) : Bool :=
  c.toNat < 128 && !c.isAlphanum && c != '<' && c != '>'

/-- What follows a backslash. -/
def readEscape (f : Flags) (cs : List Char) : Except SyntaxError (Primitive × List Char) :=
  match cs with
  | [] => .error .escapeUnclosed
  | c :: rest =>
    if c.isDigit then .error .backReference
    else if c = 'x' ∨ c = 'u' ∨ c = 'U' then readCode f c rest
    else if c = 'p' ∨ c = 'P' then readProperty f (c = 'P') rest
    else if escapesToItself c then .ok (.char c false, rest)
    else if c = 'A' then .ok (.anchor .textStart, rest)
    else if c = 'z' then .ok (.anchor .textEnd, rest)
    else if c = 'b' then do
      let (edge, rest) ← readEdge f rest
      return (.anchor (.word edge (!f.unicode)), rest)
    else if c = 'B' then .ok (.anchor (.word .noBoundary (!f.unicode)), rest)
    else if c = '<' then .ok (.anchor (.word .opening (!f.unicode)), rest)
    else if c = '>' then .ok (.anchor (.word .closing (!f.unicode)), rest)
    else
      match classLetter? f c with
      | some s => s.map fun s => (.set s, rest)
      | none =>
        match controlLetter? c with
        | some c => .ok (.char c false, rest)
        | none => .error .escapeUnknown

end Pattern

end SignOn
