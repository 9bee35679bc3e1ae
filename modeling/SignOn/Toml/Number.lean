import SignOn.Number
/-!
# TOML: numbers and dates

The scalars that start with a digit or a sign. Each reader takes the
longest text that has its form and leaves the rest; a whole number has to
fit 64 bits and a fractional one has to be finite. What a date says is
not used, but it has to be a date.
-/

namespace SignOn

namespace Toml

/-- A scalar that is written without quotes. -/
inductive Numeric where
  | whole (n : Int)
  | fractional
  | date
deriving Repr, DecidableEq

/-! ## Digits -/

/-- A digit of a base up to sixteen. -/
def digitOf? (base : Nat) (c : Char) : Option Nat :=
  (hexValue? c).filter (· < base)

/-- Further digits, each with an underscore before it at most, added to
digits that are given last one first. An underscore needs a digit on its
right. -/
def readMore (base : Nat) (acc : List Nat) : List Char → Option (List Nat × List Char)
  | [] => some (acc, [])
  | '_' :: cs =>
    match cs with
    | [] => none
    | c :: cs =>
      match digitOf? base c with
      | some d => readMore base (d :: acc) cs
      | none => none
  | c :: cs =>
    match digitOf? base c with
    | some d => readMore base (d :: acc) cs
    | none => some (acc, c :: cs)

/-- At least one digit. -/
def readDigits (base : Nat) : List Char → Option (List Nat × List Char)
  | [] => none
  | c :: cs =>
    match digitOf? base c with
    | some d => (readMore base [d] cs).map fun (ds, rest) => (ds.reverse, rest)
    | none => none

/-- Digits without a superfluous zero in front. -/
def readWholeDigits : List Char → Option (List Nat × List Char)
  | '0' :: cs => some ([0], cs)
  | cs => readDigits 10 cs

/-- The number that digits write. -/
def valueOf (base : Nat) (digits : List Nat) : Nat :=
  digits.foldl (fun n d => base * n + d) 0

/-- An optional sign: whether it is a minus, and what follows. -/
def readSign : List Char → Bool × List Char
  | '+' :: cs => (false, cs)
  | '-' :: cs => (true, cs)
  | cs => (false, cs)

/-! ## Whole numbers -/

/-- A signed number within 64 bits. -/
def wholeIn64? (negative : Bool) (n : Nat) : Option Int :=
  let i : Int := if negative then -n else n
  if Fits64 i then some i else none

/-- A whole number, in decimal with a sign or in one of the three other
bases without. -/
def readWhole (cs : List Char) : Option (Int × List Char) := do
  let based (base : Nat) (cs : List Char) : Option (Int × List Char) := do
    let (ds, rest) ← readDigits base cs
    return (← wholeIn64? false (valueOf base ds), rest)
  match cs with
  | '0' :: 'x' :: rest => based 16 rest
  | '0' :: 'o' :: rest => based 8 rest
  | '0' :: 'b' :: rest => based 2 rest
  | cs =>
    let (negative, rest) := readSign cs
    let (ds, rest) ← readWholeDigits rest
    return (← wholeIn64? negative (valueOf 10 ds), rest)

/-! ## Fractional numbers -/

/-- Whether `digits · 10 ^ exponent` rounds to a double that is not
finite. -/
def overflows (digits : List Nat) (exponent : Int) : Bool :=
  let n := valueOf 10 digits
  let magnitude := ((Nat.toDigits 10 n).length : Int) + exponent
  let bound := 1 <<< 1024 - 1 <<< 970
  if n = 0 ∨ magnitude < 300 then false
  else if 400 < magnitude then true
  else if 0 ≤ exponent then bound ≤ n * Nat.pow 10 exponent.toNat
  else bound * Nat.pow 10 (-exponent).toNat ≤ n

/-- An exponent, after its letter. -/
def readExponent (cs : List Char) : Option (Int × List Char) := do
  let (negative, rest) := readSign cs
  let (ds, rest) ← readDigits 10 rest
  let n : Int := valueOf 10 ds
  return (if negative then -n else n, rest)

/-- The outcome of a reader that may find that its form is not here
(`none`), or that it is here and broken (`some none`). -/
abbrev Attempt (α : Type) := Option (Option (α × List Char))

/-- A fractional number. -/
def readFractional (cs : List Char) : Attempt Unit :=
  let (negative, rest) := readSign cs
  match rest with
  | 'i' :: 'n' :: 'f' :: rest => some (some ((), rest))
  | 'n' :: 'a' :: 'n' :: rest => some (some ((), rest))
  | rest =>
    match readWholeDigits rest with
    | none => none
    | some (whole, '.' :: rest) => some do
      let (fraction, rest) ← readDigits 10 rest
      let (exponent, rest) ← match rest with
        | 'e' :: rest => readExponent rest
        | 'E' :: rest => readExponent rest
        | rest => some (0, rest)
      -- beyond the least double there is minus infinity, which is taken; only plus infinity is not
      if !negative && overflows (whole ++ fraction) (exponent - fraction.length) then none
      else some ((), rest)
    | some (whole, c :: rest) =>
      if c = 'e' ∨ c = 'E' then some do
        let (exponent, rest) ← readExponent rest
        if !negative && overflows whole exponent then none else some ((), rest)
      else none
    | some (_, []) => none

/-! ## Dates and times -/

/-- A number of exactly `count` decimal digits. -/
def readFixed : (count value : Nat) → List Char → Option (Nat × List Char)
  | 0, value, cs => some (value, cs)
  | _ + 1, _, [] => none
  | count + 1, value, c :: cs =>
    if c.isDigit then readFixed count (10 * value + (c.toNat - 48)) cs else none

/-- A two-digit number within bounds. -/
def readTwo (least most : Nat) (cs : List Char) : Option (Nat × List Char) :=
  (readFixed 2 0 cs).filter fun (n, _) => least ≤ n ∧ n ≤ most

/-- What follows a character, if it is here. -/
def dropChar? (c : Char) : List Char → Option (List Char)
  | [] => none
  | d :: cs => if d = c then some cs else none

/-- The days of a month. -/
def daysIn (year month : Nat) : Nat :=
  let leap := year % 4 = 0 ∧ (year % 100 ≠ 0 ∨ year % 400 = 0)
  if month = 2 then (if leap then 29 else 28)
  else if month = 4 ∨ month = 6 ∨ month = 9 ∨ month = 11 then 30
  else 31

/-- A time of day with seconds. Two digits and a colon decide that it is
one. -/
def readTime (cs : List Char) : Attempt Unit :=
  match (readTwo 0 23 cs).bind fun (_, rest) => dropChar? ':' rest with
  | none => none
  | some rest => some do
    let (_, rest) ← readTwo 0 59 rest
    let rest ← dropChar? ':' rest
    let (_, rest) ← readTwo 0 60 rest
    match rest with
    | '.' :: rest =>
      match rest.span Char.isDigit with
      | ([], _) => none
      | (_, rest) => some ((), rest)
    | rest => some ((), rest)

/-- The offset of a time from universal time, if there is one. -/
def readOffset (cs : List Char) : Option (List Char) :=
  let hoursAndMinutes (cs : List Char) : Option (List Char) := do
    let (_, rest) ← readTwo 0 23 cs
    let rest ← dropChar? ':' rest
    let (_, rest) ← readTwo 0 59 rest
    return rest
  match cs with
  | 'Z' :: rest => some rest
  | 'z' :: rest => some rest
  | '+' :: rest => hoursAndMinutes rest
  | '-' :: rest => hoursAndMinutes rest
  | cs => some cs

/-- A date, with or without a time and an offset. Four digits and a
hyphen decide that it is one. -/
def readDate (cs : List Char) : Attempt Unit :=
  match (readFixed 4 0 cs).bind fun (year, rest) => (dropChar? '-' rest).map (year, ·) with
  | none => none
  | some (year, rest) => some do
    let (month, rest) ← readTwo 1 12 rest
    let rest ← dropChar? '-' rest
    let (day, rest) ← readTwo 1 31 rest
    if daysIn year month < day then none
    else
      match rest with
      | c :: after =>
        if c = 'T' ∨ c = 't' ∨ c = ' ' then
          match readTime after with
          | none => some ((), rest)
          | some time => do
            let (_, rest) ← time
            let rest ← readOffset rest
            return ((), rest)
        else some ((), rest)
      | [] => some ((), [])

/-- A date, a time of day, a fractional or a whole number: the first
whose form is here. -/
def readNumeric (cs : List Char) : Option (Numeric × List Char) :=
  match readDate cs with
  | some date => date.map fun (_, rest) => (.date, rest)
  | none =>
    match readTime cs with
    | some time => time.map fun (_, rest) => (.date, rest)
    | none =>
      match readFractional cs with
      | some number => number.map fun (_, rest) => (.fractional, rest)
      | none => (readWhole cs).map fun (n, rest) => (.whole n, rest)

end Toml

end SignOn
