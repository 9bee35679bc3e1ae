import SignOn.Number
/-!
# Sets of code points as ranges

The tables of Unicode properties are written as text: code points in
hexadecimal, and ranges of them with a hyphen, with blanks between.
-/

namespace SignOn

namespace Unicode

/-- Code points from the first to the second, both included, for each
pair. -/
abbrev Ranges := List (Nat × Nat)

/-- The last code point. -/
def lastCodePoint : Nat := 0x10FFFF

namespace Ranges

/-- Whether a code point is in one of the ranges. -/
def contains (rs : Ranges) (n : Nat) : Bool :=
  rs.any fun r => r.1 ≤ n && n ≤ r.2

/-- Reads a table: `low` is the start of a range whose end is being
read, `n` the number at hand, if any. -/
def readText (low n : Option Nat) : List Char → Ranges
  | [] => (n.map fun n => (low.getD n, n)).toList
  | c :: cs =>
    if c.isWhitespace then (n.map fun n => (low.getD n, n)).toList ++ readText none none cs
    else if c = '-' then readText n none cs
    else readText low (some (16 * n.getD 0 + (hexValue? c).getD 0)) cs

/-- The ranges of a table. -/
def ofText (s : String) : Ranges :=
  readText none none s.toList

/-- What ranges in ascending order leave out, from a code point on. -/
def gaps (start : Nat) : Ranges → Ranges
  | [] => if start ≤ lastCodePoint then [(start, lastCodePoint)] else []
  | (lo, hi) :: rest =>
    if start < lo then (start, lo - 1) :: gaps (max start (hi + 1)) rest
    else gaps (max start (hi + 1)) rest

/-- Ranges in the order of their starts. -/
def sorted (rs : Ranges) : Ranges :=
  rs.mergeSort fun a b => a.1 ≤ b.1

/-- The code points outside. -/
def complement (rs : Ranges) : Ranges :=
  gaps 0 rs.sorted

/-- Joins sorted ranges that touch or overlap to the range before
them. -/
def joinFrom (lo hi : Nat) : Ranges → Ranges
  | [] => [(lo, hi)]
  | (a, b) :: rest =>
    if a ≤ hi + 1 then joinFrom lo (max hi b) rest else (lo, hi) :: joinFrom a b rest

/-- The code points in any of several sets, in as few ranges as they
allow. -/
def union (sets : List Ranges) : Ranges :=
  match sorted sets.flatten with
  | [] => []
  | (lo, hi) :: rest => joinFrom lo hi rest

end Ranges

/-! ## Blanks -/

/-- The characters that Unicode calls white space. -/
def whiteSpace : Ranges :=
  [(0x09, 0x0D), (0x20, 0x20), (0x85, 0x85), (0xA0, 0xA0), (0x1680, 0x1680),
    (0x2000, 0x200A), (0x2028, 0x2029), (0x202F, 0x202F), (0x205F, 0x205F), (0x3000, 0x3000)]

/-- Whether a character is white space. -/
def isWhiteSpace (c : Char) : Bool :=
  whiteSpace.contains c.toNat

end Unicode

end SignOn
