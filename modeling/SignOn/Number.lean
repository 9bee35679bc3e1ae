/-!
# Machine numbers

Identifiers, times and limits are 64-bit on the wire and in storage.
They are integers here, with the ranges stated where they are checked.
-/

namespace SignOn

/-- The range of a signed 64-bit number. -/
def Fits64 (n : Int) : Prop :=
  -0x8000000000000000 ≤ n ∧ n < 0x8000000000000000

instance (n : Int) : Decidable (Fits64 n) :=
  inferInstanceAs (Decidable (_ ∧ _))

/-! ## Digits -/

/-- The value of a hexadecimal digit. -/
def hexValue? (c : Char) : Option Nat :=
  if c.isDigit then some (c.toNat - 48)
  else if 'a' ≤ c ∧ c ≤ 'f' then some (c.toNat - 87)
  else if 'A' ≤ c ∧ c ≤ 'F' then some (c.toNat - 55)
  else none

/-- The number that digits of a base write. -/
def ofDigits (base : Nat) (digits : List Char) : Nat :=
  digits.foldl (fun n c => base * n + (hexValue? c).getD 0) 0

/-- One more digit on the right. -/
theorem ofDigits_concat (base : Nat) (digits : List Char) (c : Char) :
    ofDigits base (digits ++ [c]) = base * ofDigits base digits + (hexValue? c).getD 0 := by
  simp [ofDigits]

/-- The number that decimal digits write; other characters have none. -/
def decimal? (cs : List Char) : Option Nat :=
  if cs ≠ [] ∧ cs.all Char.isDigit then some (ofDigits 10 cs) else none

/-- Exactly the lists of at least one digit, and digits only, write a
number. -/
theorem decimal?_eq_some_iff {cs : List Char} {n : Nat} :
    decimal? cs = some n ↔ cs ≠ [] ∧ (∀ c ∈ cs, c.isDigit = true) ∧ n = ofDigits 10 cs := by
  unfold decimal?
  split
  · next h =>
    rw [Option.some.injEq]
    constructor
    · rintro rfl
      exact ⟨h.1, List.all_eq_true.1 h.2, rfl⟩
    · rintro ⟨-, -, rfl⟩
      rfl
  · next h =>
    constructor
    · intro hn
      cases hn
    · rintro ⟨hne, hall, -⟩
      exact absurd ⟨hne, List.all_eq_true.2 hall⟩ h

/-- The number that a text writes in decimal below a bound, after an
optional plus sign. -/
def decimalBelow? (bound : Nat) (s : String) : Option Nat :=
  let digits := match s.toList with
    | '+' :: rest => rest
    | cs => cs
  (decimal? digits).filter (· < bound)

end SignOn
