import SignOn.Text.Utf8
/-!
# Base64 without padding

Six bits a symbol; a last group of one or two bytes takes two or three
symbols whose unused low bits are zero. `encode` writes it over an
alphabet. `decode` reads it and nothing else: padding, symbols of other
alphabets, a lone last symbol and set unused bits are each refused with
a cause of their own, and the cause names the byte at which the reader
stopped.

Two alphabets are in use: `url` for the tokens that leave the service
and for signed tokens, `crypt` inside password hashes.
-/

namespace SignOn

namespace Base64

/-! ## Alphabets -/

/-- Sixty-four different symbols, the symbol of each value at its
place. -/
structure Alphabet where
  table : List UInt8
  length_table : table.length = 64 := by decide
  nodup_table : table.Nodup := by decide

/-- The bytes of a range of ASCII characters. -/
def asciiRange (first count : Nat) : List UInt8 :=
  (List.range count).map fun i => UInt8.ofNat (first + i)

/-- `A`–`Z`, `a`–`z`, `0`–`9`, `-`, `_`. -/
def url : Alphabet where
  table := asciiRange 65 26 ++ asciiRange 97 26 ++ asciiRange 48 10 ++ [45, 95]

/-- `.`, `/`, `A`–`Z`, `a`–`z`, `0`–`9`. -/
def crypt : Alphabet where
  table := [46, 47] ++ asciiRange 65 26 ++ asciiRange 97 26 ++ asciiRange 48 10

/-- The symbol of a value below 64. -/
def Alphabet.symbol (A : Alphabet) (v : Nat) : UInt8 :=
  A.table.getD v 0

/-- The value of a symbol; a byte outside the alphabet has none. -/
def Alphabet.value? (A : Alphabet) (b : UInt8) : Option Nat :=
  A.table.idxOf? b

/-- The padding byte of other variants, `=`. -/
def pad : UInt8 := 61

/-! ## Writing -/

/-- The symbols of a list of bytes, three bytes at a time. -/
def Alphabet.symbols (A : Alphabet) : List UInt8 → List UInt8
  | [] => []
  | [a] =>
    let a := a.toNat
    [A.symbol (a / 4), A.symbol (a % 4 * 16)]
  | [a, b] =>
    let a := a.toNat
    let b := b.toNat
    [A.symbol (a / 4), A.symbol (a % 4 * 16 + b / 16), A.symbol (b % 16 * 4)]
  | a :: b :: c :: rest =>
    let a := a.toNat
    let b := b.toNat
    let c := c.toNat
    A.symbol (a / 4) :: A.symbol (a % 4 * 16 + b / 16) ::
      A.symbol (b % 16 * 4 + c / 64) :: A.symbol (c % 64) :: A.symbols rest

/-- The written form of a list of bytes. -/
def Alphabet.encode (A : Alphabet) (bytes : List UInt8) : String :=
  String.ofList ((A.symbols bytes).map fun b => Char.ofNat b.toNat)

/-! ## Reading -/

/-- Why a text is not the encoding of anything. Offsets and lengths count
bytes. -/
inductive DecodeError
  /-- A byte that may not stand where it stands. -/
  | symbol (byte : UInt8) (offset : Nat)
  /-- One symbol is left over: the text has this many bytes. -/
  | length (total : Nat)
  /-- The text is padded. -/
  | padding
  /-- The last symbol has unused bits set. -/
  | lastSymbol (byte : UInt8) (offset : Nat)
deriving Repr, DecidableEq

/-- The text of a cause. -/
def DecodeError.message : DecodeError → String
  | .symbol b i => s!"Invalid symbol {b.toNat}, offset {i}."
  | .length n => s!"Invalid input length: {n}"
  | .padding => "Invalid padding"
  | .lastSymbol b i => s!"Invalid last symbol {b.toNat}, offset {i}."

/-- The value of the byte at an offset, or the error that names it. -/
def Alphabet.valueAt (A : Alphabet) (b : UInt8) (offset : Nat) : Except DecodeError Nat :=
  match A.value? b with
  | some v => .ok v
  | none => .error (.symbol b offset)

/-- The values of the last group, of at most four bytes, and whether
padding follows them. Padding may start at the third byte and runs to
the end. -/
def Alphabet.lastValues (A : Alphabet) (offset index : Nat) (firstPad : Option Nat) :
    List UInt8 → Except DecodeError (List Nat × Bool)
  | [] => .ok ([], firstPad.isSome)
  | b :: rest =>
    if b = pad then
      -- a group has two symbols at least, so padding this early is a stray byte
      if index < 2 then .error (.symbol b (offset + index))
      else A.lastValues offset (index + 1) (some (firstPad.getD index)) rest
    else
      match firstPad with
      | some i => .error (.symbol pad (offset + i))
      | none => do
        let v ← A.valueAt b (offset + index)
        let (vs, padded) ← A.lastValues offset (index + 1) none rest
        return (v :: vs, padded)

/-- The bytes of the last group. -/
def Alphabet.lastGroup (A : Alphabet) (offset : Nat) (group : List UInt8) :
    Except DecodeError (List UInt8) := do
  let (values, padded) ← A.lastValues offset 0 none group
  match values with
  | [] => return []
  | [_] => .error (.length (offset + 1))
  | v₀ :: v₁ :: vs =>
    -- everything before the padding is in order, so it is the padding that is reported
    if padded then .error .padding
    else
      match vs with
      | [] =>
        if v₁ % 16 ≠ 0 then .error (.lastSymbol (A.symbol v₁) (offset + 1))
        else return [UInt8.ofNat (v₀ * 4 + v₁ / 16)]
      | [v₂] =>
        if v₂ % 4 ≠ 0 then .error (.lastSymbol (A.symbol v₂) (offset + 2))
        else return [UInt8.ofNat (v₀ * 4 + v₁ / 16), UInt8.ofNat (v₁ % 16 * 16 + v₂ / 4)]
      | v₂ :: v₃ :: _ =>
        return [UInt8.ofNat (v₀ * 4 + v₁ / 16), UInt8.ofNat (v₁ % 16 * 16 + v₂ / 4),
          UInt8.ofNat (v₂ % 4 * 64 + v₃)]

/-- The bytes of a whole text from an offset on, four symbols at a time;
only the last group may be short. -/
def Alphabet.groups (A : Alphabet) (offset : Nat) : List UInt8 → Except DecodeError (List UInt8)
  | a :: b :: c :: d :: e :: rest => do
    let a ← A.valueAt a offset
    let b ← A.valueAt b (offset + 1)
    let c ← A.valueAt c (offset + 2)
    let d ← A.valueAt d (offset + 3)
    let tail ← A.groups (offset + 4) (e :: rest)
    return UInt8.ofNat (a * 4 + b / 16) :: UInt8.ofNat (b % 16 * 16 + c / 4) ::
      UInt8.ofNat (c % 4 * 64 + d) :: tail
  | group => A.lastGroup offset group

/-- A stray byte at the end of a text, such as a line feed. It is looked
for first where the length leaves one byte over. -/
def Alphabet.strayEnd? (A : Alphabet) (bytes : List UInt8) : Option DecodeError :=
  match bytes.getLast? with
  | some b =>
    if bytes.length % 4 = 1 ∧ b ≠ pad ∧ A.value? b = none then
      some (.symbol b (bytes.length - 1))
    else none
  | none => none

/-- The bytes that a list of symbols stands for. -/
def Alphabet.decodeSymbols (A : Alphabet) (bytes : List UInt8) : Except DecodeError (List UInt8) :=
  match A.strayEnd? bytes with
  | some e => .error e
  | none => A.groups 0 bytes

/-- The bytes that a text stands for. -/
def Alphabet.decode (A : Alphabet) (s : String) : Except DecodeError (List UInt8) :=
  A.decodeSymbols (Utf8.encode s)

end Base64

end SignOn
