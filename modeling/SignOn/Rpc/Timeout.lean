import SignOn.Number
/-!
# Timeouts on the wire

A timeout is one to eight digits and a unit, from hours to nanoseconds.
Anything else is no timeout.
-/

namespace SignOn

namespace Timeout

/-- The nanoseconds of a unit. -/
def unit? : Char → Option Nat
  | 'H' => some 3600000000000
  | 'M' => some 60000000000
  | 'S' => some 1000000000
  | 'm' => some 1000000
  | 'u' => some 1000
  | 'n' => some 1
  | _ => none

/-- The nanoseconds that a timeout writes. -/
def ofString? (s : String) : Option Nat := do
  let last ← s.toList.getLast?
  let unit ← unit? last
  let digits := s.toList.dropLast
  guard (digits.length ≤ 8)
  let amount ← decimal? digits
  return amount * unit

end Timeout

end SignOn
