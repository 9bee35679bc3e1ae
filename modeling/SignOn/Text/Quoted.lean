import SignOn.Unicode.Property
/-!
# Quoted text

Settings and inputs are shown in messages between double quotes, with
everything escaped that would not be seen on a terminal: controls,
blanks other than the space, unassigned code points, and marks that
would join the character before them.
-/

namespace SignOn

namespace Quoted

/-- The code points that are not shown: controls, formats, separators,
private and unassigned ones. -/
def hiddenRanges : Unicode.Ranges :=
  Unicode.Ranges.union (["Cc", "Cf", "Co", "Cn", "Zl", "Zp", "Zs"].map Unicode.categoryRanges)

/-- The code points that extend the character before them. -/
def joiningRanges : Unicode.Ranges :=
  Unicode.propertyRanges "graphemeextend"

/-- Whether a character is shown as it is. The space is the one blank
that is. -/
def isShown (c : Char) : Bool :=
  c == ' ' || (!joiningRanges.contains c.toNat && !hiddenRanges.contains c.toNat)

/-- A character by its code point. -/
def codeEscape (c : Char) : List Char :=
  "\\u\x7b".toList ++ Nat.toDigits 16 c.toNat ++ ['\x7d']

/-- A character between quotes. -/
def escape (c : Char) : List Char :=
  if c = '\x00' then ['\\', '0']
  else if c = '\t' then ['\\', 't']
  else if c = '\r' then ['\\', 'r']
  else if c = '\n' then ['\\', 'n']
  else if c = '\\' then ['\\', '\\']
  else if c = '"' then ['\\', '"']
  else if isShown c then [c]
  else codeEscape c

end Quoted

/-- A text between double quotes. -/
def quoted (s : String) : String :=
  String.ofList ('"' :: s.toList.flatMap Quoted.escape ++ ['"'])

end SignOn
