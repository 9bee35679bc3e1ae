import Mathlib.Data.Option.Basic
import SignOn.Proofs.Text.Decimal
import SignOn.Rpc.Timeout
/-!
# Reading timeouts

A timeout is one to eight digits and the letter of a unit, and no other
text is one: `Timeout.ofString?_eq_some_iff`. Eight digits of the largest
unit are more nanoseconds than a word of 64 bits holds, but seconds and
nanoseconds apart fit, and nothing on the way to them leaves its word:
`Timeout.total_inWords`.
-/

namespace SignOn

namespace Timeout

variable {s : String} {digits : List Char} {unit : Char × Nat} {c : Char} {k n : Nat}

/-! ## The texts -/

/-- The letters of the units, and the nanoseconds of each. -/
def units : List (Char × Nat) :=
  [('H', 3600 * 10 ^ 9), ('M', 60 * 10 ^ 9), ('S', 10 ^ 9), ('m', 10 ^ 6), ('u', 10 ^ 3), ('n', 1)]

/-- A text of one to eight digits and the letter of a unit. -/
structure Consists (s : String) (digits : List Char) (unit : Char × Nat) : Prop where
  text : s.toList = digits ++ [unit.1]
  length : 1 ≤ digits.length ∧ digits.length ≤ 8
  digits : ∀ c ∈ digits, c.isDigit = true
  unit : unit ∈ units

/-- The number that the digits write. -/
def amount (digits : List Char) : Nat :=
  Nat.ofDigitChars 10 digits 0

theorem amount_concat (digits : List Char) (c : Char) :
    amount (digits ++ [c]) = 10 * amount digits + (c.toNat - 48) :=
  ofDigitChars_concat digits c

theorem unit?_eq_some_iff : unit? c = some k ↔ (c, k) ∈ units := by
  unfold unit? units
  split <;> simp_all [eq_comm]

/-- **A text is a timeout exactly if it is one to eight digits and a
unit**, and it is as many nanoseconds as the digits say units. -/
theorem ofString?_eq_some_iff :
    ofString? s = some n ↔ ∃ digits unit, Consists s digits unit ∧ n = amount digits * unit.2 := by
  have hread (cs : List Char) (c : Char) (hs : s.toList = cs ++ [c]) : ofString? s = some n ↔
      ∃ k, unit? c = some k ∧ cs.length ≤ 8 ∧ ∃ a, decimal? cs = some a ∧ n = a * k := by
    simp [ofString?, hs, Option.bind_eq_some_iff, Option.guard_eq_some', and_comm, and_left_comm,
      eq_comm (a := n)]
  constructor
  · intro h
    cases hlast : s.toList.getLast? with
    | none => simp [ofString?, hlast] at h
    | some c =>
      obtain ⟨cs, hs⟩ := List.getLast?_eq_some_iff.1 hlast
      obtain ⟨k, hk, hlength, a, ha, hn⟩ := (hread cs c hs).1 h
      obtain ⟨hne, hdigits, rfl⟩ := decimal?_eq_some_iff_ofDigitChars.1 ha
      have hunit := unit?_eq_some_iff.1 hk
      exact ⟨cs, (c, k), ⟨hs, ⟨List.length_pos_iff.2 hne, hlength⟩, hdigits, hunit⟩, hn⟩
  · rintro ⟨digits, unit, h, hn⟩
    have hamount : decimal? digits = some (amount digits) :=
      decimal?_eq_some_iff_ofDigitChars.2 ⟨List.length_pos_iff.1 h.length.1, h.digits, rfl⟩
    exact (hread digits unit.1 h.text).2
      ⟨unit.2, unit?_eq_some_iff.2 h.unit, h.length.2, amount digits, hamount, hn⟩

/-! ## In words -/

/-- A span of time as a machine has it: whole seconds in a word of 64 bits,
and the nanoseconds beyond them in one of 32. -/
structure Span where
  seconds : UInt64
  nanos : UInt32
deriving DecidableEq

/-- Its nanoseconds. -/
def Span.total (d : Span) : Nat :=
  d.seconds.toNat * 10 ^ 9 + d.nanos.toNat

/-- The number that digits write, in a word. -/
def amountInWords (digits : List Char) : UInt64 :=
  digits.foldl (fun n c => 10 * n + UInt64.ofNat (c.toNat - 48)) 0

/-- The span of so many of a unit, in words. -/
def span? (n : UInt64) : Char → Option Span
  | 'H' => some ⟨n * 3600, 0⟩
  | 'M' => some ⟨n * 60, 0⟩
  | 'S' => some ⟨n, 0⟩
  | 'm' => some ⟨n / 1000, (n % 1000).toUInt32 * 1000000⟩
  | 'u' => some ⟨n / 1000000, (n % 1000000).toUInt32 * 1000⟩
  | 'n' => some ⟨n / 1000000000, (n % 1000000000).toUInt32⟩
  | _ => none

/-- The span that a timeout writes, in words all the way: a number that
left its word would come out as another. -/
def inWords? (s : String) : Option Span := do
  let last ← s.toList.getLast?
  let digits := s.toList.dropLast
  guard (digits ≠ [] ∧ digits.length ≤ 8 ∧ digits.all Char.isDigit)
  span? (amountInWords digits) last

/-- Eight digits write a number far below the end of a word. -/
theorem amount_lt (hdigits : ∀ c ∈ digits, c.isDigit = true) (hlength : digits.length ≤ 8) :
    amount digits < 10 ^ 8 :=
  Nat.lt_of_lt_of_le (ofDigitChars_lt hdigits) (Nat.pow_le_pow_right (by decide) hlength)

/-- So do all digits before them. -/
theorem toNat_amountInWords (hdigits : ∀ c ∈ digits, c.isDigit = true)
    (hlength : digits.length ≤ 8) : (amountInWords digits).toNat = amount digits := by
  induction digits using List.reverseRecOn with
  | nil => rfl
  | append_singleton digits c ih =>
    have hlt := amount_lt hdigits hlength
    rw [amount_concat] at hlt ⊢
    have hword := ih (fun d hd => hdigits d (by simp [hd])) (by simp at hlength; omega)
    have hconcat : amountInWords (digits ++ [c]) =
        10 * amountInWords digits + UInt64.ofNat (c.toNat - 48) := by
      simp [amountInWords]
    rw [hconcat, UInt64.toNat_add, UInt64.toNat_mul, UInt64.toNat_ofNat', hword]
    change (10 * amount digits % 2 ^ 64 + (c.toNat - 48) % 2 ^ 64) % 2 ^ 64 = _
    omega

/-- **No product and no sum leaves its word.** -/
theorem exists_span (n : UInt64) (hn : n.toNat < 10 ^ 8) (hunit : unit ∈ units) :
    ∃ d, span? n unit.1 = some d ∧ d.total = n.toNat * unit.2 := by
  simp only [units, List.mem_cons, List.not_mem_nil, or_false] at hunit
  rcases hunit with rfl | rfl | rfl | rfl | rfl | rfl <;> refine ⟨_, rfl, ?_⟩ <;>
    simp only [Span.total, UInt64.toNat_mul, UInt64.toNat_div, UInt64.toNat_mod,
      UInt64.toNat_toUInt32, UInt32.toNat_mul, UInt64.reduceToNat, UInt32.reduceToNat] <;>
    omega

/-- Only letters of units have spans. -/
theorem exists_unit_of_span? {a : UInt64} {d : Span} (h : span? a c = some d) :
    ∃ k, (c, k) ∈ units := by
  unfold span? at h
  split at h
  case h_7 => cases h
  all_goals simp [units]

/-- **Reading in words comes to the same**: no number on the way leaves its
word. -/
theorem total_inWords (s : String) : (inWords? s).map Span.total = ofString? s := by
  have hread (cs : List Char) (c : Char) (hs : s.toList = cs ++ [c]) (d : Span) :
      inWords? s = some d ↔ (cs ≠ [] ∧ cs.length ≤ 8 ∧ cs.all Char.isDigit = true) ∧
        span? (amountInWords cs) c = some d := by
    simp [inWords?, hs, Option.bind_eq_some_iff, Option.guard_eq_some']
  refine Option.ext fun n => ?_
  rw [Option.map_eq_some_iff, ofString?_eq_some_iff]
  constructor
  · rintro ⟨d, hd, rfl⟩
    cases hlast : s.toList.getLast? with
    | none => simp [inWords?, hlast] at hd
    | some c =>
      obtain ⟨cs, hs⟩ := List.getLast?_eq_some_iff.1 hlast
      obtain ⟨⟨hne, hlength, hdigits⟩, hspan⟩ := (hread cs c hs d).1 hd
      have hdigits := List.all_eq_true.1 hdigits
      obtain ⟨k, hunit⟩ := exists_unit_of_span? hspan
      have hword := toNat_amountInWords hdigits hlength
      obtain ⟨d', hd', htotal⟩ := exists_span (amountInWords cs)
        (hword ▸ amount_lt hdigits hlength) hunit
      obtain rfl := Option.some.inj (hspan.symm.trans hd')
      exact ⟨cs, (c, k), ⟨hs, ⟨List.length_pos_iff.2 hne, hlength⟩, hdigits, hunit⟩,
        by rw [htotal, hword]⟩
  · rintro ⟨digits, unit, h, rfl⟩
    have hword := toNat_amountInWords h.digits h.length.2
    obtain ⟨d, hd, htotal⟩ := exists_span (amountInWords digits)
      (hword ▸ amount_lt h.digits h.length.2) h.unit
    exact ⟨d, (hread digits unit.1 h.text d).2
      ⟨⟨List.length_pos_iff.1 h.length.1, h.length.2, List.all_eq_true.2 h.digits⟩, hd⟩,
      by rw [htotal, hword]⟩

end Timeout

end SignOn
