import SignOn.Pattern.Bracket
/-!
# Reading patterns

`Pattern.ofString` reads a written pattern: characters, the dot, anchors,
sets, groups with or without a name or flags, choices, and repetitions.
It refuses what is no pattern, what would match bytes that are no text,
what is nested more than 250 deep, and what would take a machine larger
than `sizeLimit`.
-/

namespace SignOn

namespace Pattern

/-- A part of a pattern, how deep its writing is nested, and whether it
can be repeated: a change of flags cannot. -/
structure Piece where
  pattern : Pattern
  depth : Nat
  repeatable : Bool

/-- What a reader carries along: the flags in force and the names of
groups so far. -/
structure Reader where
  flags : Flags
  names : List String

/-- Parts one after another, given last one first. -/
def sequence (items : List Piece) : Piece :=
  match items with
  | [] => ⟨.empty, 0, true⟩
  | [p] => p
  | p :: ps =>
    ⟨ps.foldl (fun acc q => .seq q.pattern acc) p.pattern,
      1 + (p :: ps).foldl (fun d q => max d q.depth) 0, true⟩

/-- A choice between parts, given last one first. -/
def choice (branches : List Piece) : Piece :=
  match branches with
  | [] => ⟨.empty, 0, true⟩
  | [p] => p
  | p :: ps =>
    ⟨ps.foldl (fun acc q => .alt q.pattern acc) p.pattern,
      1 + (p :: ps).foldl (fun d q => max d q.depth) 0, true⟩

/-! ## Characters -/

/-- The pattern of a character. A byte above ASCII is no text. -/
def charPattern (f : Flags) (c : Char) (byte : Bool) : Except SyntaxError Pattern :=
  if !f.unicode && byte && 128 ≤ c.toNat then .error .notText
  else .ok (.one (f.fold (.single c)))

/-- The pattern of the dot: any character, or any but a line end. -/
def dotPattern (f : Flags) : Except SyntaxError Pattern :=
  if !f.unicode then .error .notText
  else if f.dotAll then .ok (.one (.compl .empty))
  else if f.crlf then .ok (.one (.compl (.ranges [(10, 10), (13, 13)])))
  else .ok (.one (.compl (.single '\n')))

/-- A character that stands for itself, a dot, an anchor or an escape. -/
def readPrimitive (f : Flags) (c : Char) (rest : List Char) :
    Except SyntaxError (Pattern × List Char) :=
  if c = '\\' then do
    let (primitive, rest) ← readEscape f rest
    match primitive with
    | .char c byte => return (← charPattern f c byte, rest)
    | .set s => return (.one s, rest)
    | .anchor a => return (.anchor a, rest)
  else if c = '.' then (dotPattern f).map fun p => (p, rest)
  else if c = '^' then
    .ok (.anchor (if f.multiLine then .lineStart f.crlf else .textStart), rest)
  else if c = '$' then
    .ok (.anchor (if f.multiLine then .lineEnd f.crlf else .textEnd), rest)
  else (charPattern f c false).map fun p => (p, rest)

/-! ## Repetitions -/

/-- Drops the question mark that makes a repetition reluctant: which part
of a text matches first is of no interest here. -/
def dropReluctant (cs : List Char) : List Char :=
  match cs with
  | '?' :: rest => rest
  | cs => cs

/-- The digits of a count, with blanks skipped as the flags say. -/
def readCountDigits (f : Flags) : (fuel : Nat) → (digits : List Char) → List Char →
    List Char × List Char
  | 0, digits, cs => (digits.reverse, cs)
  | fuel + 1, digits, cs =>
    match cs with
    | [] => (digits.reverse, [])
    | c :: rest =>
      if c.isDigit then readCountDigits f fuel (c :: digits) (f.skip rest)
      else (digits.reverse, cs)

/-- A count of 32 bits, with blanks around it. -/
def readCount (f : Flags) (cs : List Char) : Except SyntaxError (Nat × List Char) :=
  let cs := cs.dropWhile Unicode.isWhiteSpace
  let (digits, rest) := readCountDigits f (cs.length + 1) [] cs
  let rest := rest.dropWhile Unicode.isWhiteSpace
  if digits.isEmpty then .error .countMissing
  else
    let n := ofDigits 10 digits
    if n < 0x100000000 then .ok (n, rest) else .error .countInvalid

/-- The counts after an opening brace, to the closing one: `n`, `n,` or
`n,m`. -/
def readCounts (f : Flags) (cs : List Char) :
    Except SyntaxError (Nat × Option Nat × List Char) := do
  let (least, rest) ← readCount f (f.skip cs)
  match rest with
  | ',' :: rest =>
    match f.skip rest with
    | '\x7d' :: rest => return (least, none, rest)
    | rest =>
      let (most, rest) ← readCount f rest
      match rest with
      | '\x7d' :: rest =>
        if least ≤ most then return (least, some most, rest) else .error .countInvalid
      | _ => .error .countUnclosed
  | '\x7d' :: rest => return (least, some least, rest)
  | _ => .error .countUnclosed

/-- The repetition that a sign starts, applied to the last part. -/
def readRepetition (f : Flags) (items : List Piece) (c : Char) (rest : List Char) :
    Except SyntaxError (List Piece × List Char) := do
  match items with
  | [] => .error .nothingToRepeat
  | item :: items =>
    if !item.repeatable then .error .nothingToRepeat
    else
      let (least, most, rest) ←
        if c = '?' then pure (0, some 1, dropReluctant rest)
        else if c = '*' then pure (0, none, dropReluctant rest)
        else if c = '+' then pure (1, none, dropReluctant rest)
        else do
          let (least, most, rest) ← readCounts f rest
          pure (least, most, dropReluctant (f.skip rest))
      return (⟨.rep item.pattern least most, item.depth + 1, true⟩ :: items, rest)

/-! ## Groups -/

/-- Whether a character may stand in the name of a group. -/
def isNameChar (first : Bool) (c : Char) : Bool :=
  let n := c.toNat
  c = '_' || (Unicode.propertyRanges "alphabetic").contains n ||
    (!first && (c = '.' || c = '[' || c = ']' ||
      ((Unicode.namedCategory? "n").getD []).contains n))

/-- The name of a group, to its closing angle bracket. -/
def readName (names : List String) (cs : List Char) :
    Except SyntaxError (List String × List Char) :=
  let (name, rest) := cs.span (· ≠ '>')
  match name, rest with
  | _, [] => .error .groupNameInvalid
  | [], _ => .error .groupNameInvalid
  | c :: cs, _ :: rest =>
    if isNameChar true c && cs.all (isNameChar false) then
      let name := String.ofList (c :: cs)
      if names.contains name then .error .groupNameDuplicate else .ok (name :: names, rest)
    else .error .groupNameInvalid

/-- Flags to a colon or a closing parenthesis, which is returned with
whether there were any. `seen` are the letters so far. -/
def readFlags (seen : List Char) (on dangling : Bool) (f : Flags) : List Char →
    Except SyntaxError (Flags × Char × Bool × List Char)
  | [] => .error .flagUnclosed
  | c :: rest =>
    if c = ':' ∨ c = ')' then
      if dangling then .error .flagDanglingNegation
      else .ok (f, c, !seen.isEmpty, rest)
    else if seen.contains c then .error .flagDuplicate
    else if c = '-' then readFlags (c :: seen) false true f rest
    else
      match f.set? c on with
      | some f => readFlags (c :: seen) on false f rest
      | none => .error .flagUnknown

/-- What an opening parenthesis starts. -/
inductive GroupStart where
  /-- A change of flags for what follows in the same group. -/
  | flags (f : Flags)
  /-- A group, with the flags inside it and the names so far. -/
  | group (f : Flags) (names : List String)

/-- Reads what follows an opening parenthesis, up to the contents. -/
def readGroupStart (r : Reader) (cs : List Char) :
    Except SyntaxError (GroupStart × List Char) := do
  match r.flags.skip cs with
  | '?' :: '=' :: _ => .error .lookAround
  | '?' :: '!' :: _ => .error .lookAround
  | '?' :: '<' :: '=' :: _ => .error .lookAround
  | '?' :: '<' :: '!' :: _ => .error .lookAround
  | '?' :: 'P' :: '<' :: rest =>
    let (names, rest) ← readName r.names rest
    return (.group r.flags names, rest)
  | '?' :: '<' :: rest =>
    let (names, rest) ← readName r.names rest
    return (.group r.flags names, rest)
  | '?' :: rest =>
    if rest.isEmpty then .error .groupUnclosed
    else
      let (f, closing, any, rest) ← readFlags [] true false r.flags rest
      if closing = ':' then return (.group f r.names, rest)
      else if any then return (.flags f, rest)
      else .error .nothingToRepeat
  | rest => return (.group r.flags r.names, rest)

/-! ## The whole -/

/-- Reads to the end of the text or of a group. Every turn takes a
character. `branches` are the finished choices and `items` the parts of
the one at hand, last one first. -/
def readBranches : (fuel : Nat) → Reader → (branches items : List Piece) → List Char →
    Except SyntaxError (Piece × Reader × List Char)
  | 0, _, _, _, _ => .error .groupUnclosed
  | fuel + 1, r, branches, items, cs =>
    match r.flags.skip cs with
    | [] => .ok (choice (sequence items :: branches), r, [])
    | ')' :: rest => .ok (choice (sequence items :: branches), r, ')' :: rest)
    | '|' :: rest => readBranches fuel r (sequence items :: branches) [] rest
    | '(' :: rest => do
      let (start, rest) ← readGroupStart r rest
      match start with
      | .flags f =>
        readBranches fuel { r with flags := f } branches (⟨.empty, 0, false⟩ :: items) rest
      | .group f names =>
        let (piece, inner, rest) ← readBranches fuel ⟨f, names⟩ [] [] rest
        match rest with
        | ')' :: rest =>
          readBranches fuel ⟨r.flags, inner.names⟩ branches
            (⟨piece.pattern, piece.depth + 1, true⟩ :: items) rest
        | _ => .error .groupUnclosed
    | '[' :: rest => do
      let (piece, rest) ← readBracket r.flags rest
      readBranches fuel r branches (⟨.one piece.set, piece.depth, true⟩ :: items) rest
    | c :: rest =>
      if c = '?' ∨ c = '*' ∨ c = '+' ∨ c = '\x7b' then do
        let (items, rest) ← readRepetition r.flags items c rest
        readBranches fuel r branches items rest
      else do
        let (p, rest) ← readPrimitive r.flags c rest
        readBranches fuel r branches (⟨p, 0, true⟩ :: items) rest

/-- How deep a pattern may be nested. -/
def depthLimit : Nat := 250

/-- The pattern that a text writes. -/
def ofString (s : String) : Except SyntaxError Pattern := do
  let cs := s.toList
  let (piece, _, rest) ← readBranches (cs.length + 1) ⟨{}, []⟩ [] [] cs
  if !rest.isEmpty then .error .groupUnopened
  else if depthLimit < piece.depth then .error .nestedTooDeep
  else if sizeLimit < piece.pattern.size then .error .tooLarge
  else return piece.pattern

end Pattern

end SignOn
