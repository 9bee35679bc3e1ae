import SignOn.Unicode.Category
import SignOn.Unicode.Folding
import SignOn.Unicode.Property
import SignOn.Unicode.Script
/-!
# Patterns

A pattern describes texts: sets of characters, anchors that look at the
place between two characters, sequences, choices and repetitions. There
is no way to look ahead and no reference back to what a group matched, so
a pattern is a regular expression in the strict sense.
-/

namespace SignOn

/-! ## Sets of characters -/

/-- A set of characters, by how it was put together. -/
inductive CharSet where
  | ranges (rs : Unicode.Ranges)
  | union (a b : CharSet)
  | inter (a b : CharSet)
  | diff (a b : CharSet)
  | symmDiff (a b : CharSet)
  | compl (a : CharSet)
  /-- The members and all that differ from one of them in case only. -/
  | caseless (a : CharSet)
  /-- The same among ASCII letters alone. -/
  | asciiCaseless (a : CharSet)

namespace CharSet

/-- Whether a code point is in the set. -/
def containsCode : CharSet → Nat → Bool
  | ranges rs, n => rs.contains n
  | union a b, n => a.containsCode n || b.containsCode n
  | inter a b, n => a.containsCode n && b.containsCode n
  | diff a b, n => a.containsCode n && !b.containsCode n
  | symmDiff a b, n => a.containsCode n != b.containsCode n
  | compl a, n => !a.containsCode n
  | caseless a, n => (Unicode.caseVariants n).any a.containsCode
  | asciiCaseless a, n => (Unicode.asciiCaseVariants n).any a.containsCode

/-- Whether a character is in the set. -/
def contains (s : CharSet) (c : Char) : Bool :=
  s.containsCode c.toNat

/-- The set of one character. -/
def single (c : Char) : CharSet :=
  .ranges [(c.toNat, c.toNat)]

/-- The empty set. -/
def empty : CharSet :=
  .ranges []

/-- How many ranges the set is put together from. -/
def weight : CharSet → Nat
  | ranges rs => rs.length
  | union a b => a.weight + b.weight
  | inter a b => a.weight + b.weight
  | diff a b => a.weight + b.weight
  | symmDiff a b => a.weight + b.weight
  | compl a => a.weight + 1
  | caseless a => 2 * a.weight
  | asciiCaseless a => 2 * a.weight

/-! ## Named sets -/

/-- Decimal digits of all scripts. -/
def digits : CharSet :=
  .ranges (Unicode.categoryRanges "Nd")

/-- White space. -/
def blanks : CharSet :=
  .ranges Unicode.whiteSpace

/-- The code points of word characters: letters, marks, decimal digits,
connectors and joiners. -/
def wordRanges : Unicode.Ranges :=
  Unicode.Ranges.union [Unicode.propertyRanges "alphabetic",
    (Unicode.namedCategory? "m").getD [], Unicode.categoryRanges "Nd",
    Unicode.categoryRanges "Pc", Unicode.propertyRanges "joincontrol"]

/-- Word characters of all scripts. -/
def wordChars : CharSet :=
  .ranges wordRanges

/-- `0`–`9`. -/
def asciiDigits : CharSet :=
  .ranges [(48, 57)]

/-- Tab, line feed, vertical tab, form feed, carriage return, space. -/
def asciiBlanks : CharSet :=
  .ranges [(9, 13), (32, 32)]

/-- `0`–`9`, `A`–`Z`, `_`, `a`–`z`. -/
def asciiWordChars : CharSet :=
  .ranges [(48, 57), (65, 90), (95, 95), (97, 122)]

/-- The ASCII sets that have a name in brackets. -/
def asciiNamed : List (String × Unicode.Ranges) := [
  ("alnum", [(48, 57), (65, 90), (97, 122)]),
  ("alpha", [(65, 90), (97, 122)]),
  ("ascii", [(0, 127)]),
  ("blank", [(9, 9), (32, 32)]),
  ("cntrl", [(0, 31), (127, 127)]),
  ("digit", [(48, 57)]),
  ("graph", [(33, 126)]),
  ("lower", [(97, 122)]),
  ("print", [(32, 126)]),
  ("punct", [(33, 47), (58, 64), (91, 96), (123, 126)]),
  ("space", [(9, 13), (32, 32)]),
  ("upper", [(65, 90)]),
  ("word", [(48, 57), (65, 90), (95, 95), (97, 122)]),
  ("xdigit", [(48, 57), (65, 70), (97, 102)])]

end CharSet

/-! ## Anchors -/

/-- How a place lies to the words around it. -/
inductive WordEdge
  | boundary
  | noBoundary
  | opening
  | closing
  | openingHalf
  | closingHalf
deriving Repr, DecidableEq

/-- A condition on the place between two characters. -/
inductive Anchor
  | textStart
  | textEnd
  /-- After a line feed too; with `crlf`, after any line end. -/
  | lineStart (crlf : Bool)
  | lineEnd (crlf : Bool)
  | word (edge : WordEdge) (ascii : Bool)
deriving Repr, DecidableEq

/-- Whether the next character in a direction is a word character. -/
def nextIsWord (ascii : Bool) : List Char → Bool
  | [] => false
  | c :: _ => (if ascii then CharSet.asciiWordChars else CharSet.wordChars).contains c

/-- Whether the place between two characters lies so to the words around
it. -/
def WordEdge.holds (before after : Bool) : WordEdge → Bool
  | boundary => before != after
  | noBoundary => before == after
  | opening => !before && after
  | closing => before && !after
  | openingHalf => !before
  | closingHalf => !after

/-- Whether an anchor holds at a place. What comes before is given last
character first. -/
def Anchor.holds (before after : List Char) : Anchor → Bool
  | textStart => before.isEmpty
  | textEnd => after.isEmpty
  | lineStart false => before.isEmpty || before.head? == some '\n'
  | lineStart true =>
    before.isEmpty || before.head? == some '\n' ||
      (before.head? == some '\r' && after.head? != some '\n')
  | lineEnd false => after.isEmpty || after.head? == some '\n'
  | lineEnd true =>
    after.isEmpty || after.head? == some '\r' ||
      (after.head? == some '\n' && before.head? != some '\r')
  | word edge ascii => edge.holds (nextIsWord ascii before) (nextIsWord ascii after)

/-! ## Patterns -/

/-- A pattern. -/
inductive Pattern where
  | empty
  | one (s : CharSet)
  | anchor (a : Anchor)
  | seq (p q : Pattern)
  | alt (p q : Pattern)
  /-- At least `min` times, and at most `max` times if there is one. -/
  | rep (p : Pattern) (min : Nat) (max : Option Nat)

namespace Pattern

/-- An upper estimate of the bytes that a machine for the pattern takes;
repetitions are unrolled in it. -/
def size : Pattern → Nat
  | empty => 32
  | one s => if s.weight ≤ 1 then 32 else 32 + 72 * s.weight
  | anchor _ => 32
  | seq p q => p.size + q.size
  | alt p q => p.size + q.size + 32
  | rep p min none => p.size * (max min 1) + 32
  | rep p min (some max) => p.size * max + 32 * (max - min)

/-- The most bytes that the machine for a pattern may take. -/
def sizeLimit : Nat := 10 <<< 20

end Pattern

end SignOn
