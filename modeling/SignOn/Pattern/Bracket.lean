import SignOn.Pattern.Escape
/-!
# Sets in brackets

What an opening bracket starts in a written pattern: characters, ranges,
named sets and nested brackets side by side, and the operations `&&`,
`--` and `~~` on what stands left and right of them, from left to right.
The depth of nesting is counted along.
-/

namespace SignOn

namespace Pattern

/-- A set and how deep its writing is nested. -/
structure SetPiece where
  set : CharSet
  depth : Nat

/-- An operation between two sets. -/
inductive SetOp
  | inter
  | diff
  | symmDiff
deriving Repr, DecidableEq

/-- The result of an operation. -/
def SetOp.apply : SetOp → CharSet → CharSet → CharSet
  | inter => .inter
  | diff => .diff
  | symmDiff => .symmDiff

/-- Several pieces side by side, given last one first. -/
def unionPiece (pieces : List SetPiece) : SetPiece :=
  match pieces with
  | [] => ⟨.empty, 0⟩
  | [p] => p
  | p :: ps =>
    ⟨ps.foldl (fun s q => .union q.set s) p.set, 1 + (p :: ps).foldl (fun d q => max d q.depth) 0⟩

/-- Applies an operation that waits for its right side. Where case does
not count, it does not count on either side. -/
def applyPending (f : Flags) (pending : Option (SetOp × SetPiece)) (right : SetPiece) : SetPiece :=
  match pending with
  | none => right
  | some (op, left) =>
    ⟨op.apply (f.fold left.set) (f.fold right.set), 1 + max left.depth right.depth⟩

/-- The operation that two characters write. -/
def setOp? (cs : List Char) : Option (SetOp × List Char) :=
  match cs with
  | '&' :: '&' :: rest => some (.inter, rest)
  | '-' :: '-' :: rest => some (.diff, rest)
  | '~' :: '~' :: rest => some (.symmDiff, rest)
  | _ => none

/-- A character or an escape. -/
def readItem (f : Flags) (cs : List Char) : Except SyntaxError (Primitive × List Char) :=
  match cs with
  | [] => .error .classUnclosed
  | '\\' :: rest => readEscape f rest
  | c :: rest => .ok (.char c false, rest)

/-- A character as a member of a set. Without Unicode it has to be
ASCII. -/
def memberChar (f : Flags) (c : Char) : Except SyntaxError Char :=
  if f.unicode || c.toNat < 128 then .ok c else .error .notText

/-- What an item contributes to a set. -/
def itemSet (f : Flags) : Primitive → Except SyntaxError CharSet
  | .char c _ => (memberChar f c).map .single
  | .set s => .ok s
  | .anchor _ => .error .classEscapeInvalid

/-- The end of a range. -/
def rangeEnd (f : Flags) : Primitive → Except SyntaxError Char
  | .char c _ => memberChar f c
  | _ => .error .classRangeInvalid

/-- An item, or a range between two. A hyphen before the closing bracket
or before another hyphen makes no range. -/
def readRange (f : Flags) (cs : List Char) : Except SyntaxError (CharSet × List Char) := do
  let (first, rest) ← readItem f cs
  match f.skip rest with
  | [] => .error .classUnclosed
  | '-' :: after =>
    match f.skip after with
    | ']' :: _ => return (← itemSet f first, '-' :: after)
    | '-' :: _ => return (← itemSet f first, '-' :: after)
    | [] => .error .classUnclosed
    | after =>
      let (last, rest) ← readItem f after
      let lo ← rangeEnd f first
      let hi ← rangeEnd f last
      if lo ≤ hi then return (.ranges [(lo.toNat, hi.toNat)], rest)
      else .error .classRangeInvalid
  | rest => return (← itemSet f first, rest)

/-- A named ASCII set, `[:name:]` or `[:^name:]`, after its bracket. What
has another form is none. -/
def asciiName? (cs : List Char) : Option (Bool × Unicode.Ranges × List Char) :=
  match cs with
  | ':' :: rest =>
    let (negated, rest) := match rest with
      | '^' :: rest => (true, rest)
      | rest => (false, rest)
    let (name, after) := rest.span (· ≠ ':')
    match after with
    | ':' :: ']' :: after =>
      (CharSet.asciiNamed.lookup (String.ofList name)).map fun rs => (negated, rs, after)
    | _ => none
  | _ => none

/-- The hyphens after an opening bracket stand for themselves. -/
def readHyphens (f : Flags) : (fuel : Nat) → List SetPiece → List Char →
    Except SyntaxError (List SetPiece × List Char)
  | 0, _, _ => .error .classUnclosed
  | fuel + 1, pieces, cs =>
    match cs with
    | [] => .error .classUnclosed
    | '-' :: rest => readHyphens f fuel (⟨.single '-', 0⟩ :: pieces) (f.skip rest)
    | cs => .ok (pieces, cs)

/-- What follows an opening bracket up to its first member: the negation,
hyphens, and a closing bracket that stands for itself. -/
def readOpening (f : Flags) (cs : List Char) :
    Except SyntaxError (Bool × List SetPiece × List Char) := do
  let (negated, rest) := match f.skip cs with
    | '^' :: rest => (true, f.skip rest)
    | rest => (false, rest)
  let (pieces, rest) ← readHyphens f (rest.length + 1) [] rest
  match pieces, rest with
  | [], ']' :: rest =>
    let rest := f.skip rest
    if rest.isEmpty then .error .classUnclosed
    else return (negated, [⟨.single ']', 0⟩], rest)
  | pieces, rest => return (negated, pieces, rest)

/-- A set from behind its opening bracket to its closing bracket. Every
turn takes a character. `pieces` stand side by side so far, last one
first, and `pending` waits for what they come to. -/
def readSet (f : Flags) : (fuel : Nat) → (negated : Bool) → (pending : Option (SetOp × SetPiece)) →
    (pieces : List SetPiece) → List Char → Except SyntaxError (SetPiece × List Char)
  | 0, _, _, _, _ => .error .classUnclosed
  | fuel + 1, negated, pending, pieces, cs =>
    match f.skip cs with
    | [] => .error .classUnclosed
    | '[' :: rest =>
      match asciiName? rest with
      | some (neg, rs, rest) => do
        let s ← f.negateIf neg (f.fold (.ranges rs))
        readSet f fuel negated pending (⟨s, 0⟩ :: pieces) rest
      | none => do
        let (neg, inner, rest) ← readOpening f rest
        let (piece, rest) ← readSet f fuel neg none inner rest
        readSet f fuel negated pending (piece :: pieces) rest
    | ']' :: rest => do
      let whole := applyPending f pending (unionPiece pieces)
      let s ← f.negateIf negated (f.fold whole.set)
      return (⟨s, 1 + whole.depth⟩, rest)
    | cs =>
      match setOp? cs with
      | some (op, rest) =>
        readSet f fuel negated (some (op, applyPending f pending (unionPiece pieces))) [] rest
      | none => do
        let (s, rest) ← readRange f cs
        readSet f fuel negated pending (⟨s, 0⟩ :: pieces) rest

/-- A set after its opening bracket. -/
def readBracket (f : Flags) (cs : List Char) : Except SyntaxError (SetPiece × List Char) := do
  let (negated, pieces, rest) ← readOpening f cs
  readSet f (cs.length + 1) negated none pieces rest

end Pattern

end SignOn
