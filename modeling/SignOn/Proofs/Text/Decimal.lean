import Mathlib.Algebra.Group.Nat.Defs
import Mathlib.Data.List.Induction
import SignOn.Number
import SignOn.Proofs.Text.Ascii
/-!
# Numbers in decimal

Digits write the number that positional notation gives them, and so many
digits write no number of more digits. `decimal?` and `decimalBelow?` read
exactly the texts that are such digits. A number is printed with the only
digits for it that have no needless zero in front: `toDigits_ofDigitChars`.
-/

namespace SignOn

variable {cs : List Char} {c : Char} {s : String} {n bound : Nat}

/-- **Digits write their number in positional notation.** -/
theorem ofDigits_ten (h : ∀ c ∈ cs, c.isDigit = true) :
    ofDigits 10 cs = Nat.ofDigitChars 10 cs 0 := by
  induction cs using List.reverseRecOn with
  | nil => rfl
  | append_singleton cs c ih =>
    have hvalue : hexValue? c = some (c.toNat - 48) := if_pos (h c (by simp))
    rw [ofDigits_concat, ih fun d hd => h d (by simp [hd]), hvalue, Nat.ofDigitChars_append]
    rfl

/-- One more digit on the right. -/
theorem ofDigitChars_concat (cs : List Char) (c : Char) :
    Nat.ofDigitChars 10 (cs ++ [c]) 0 = 10 * Nat.ofDigitChars 10 cs 0 + (c.toNat - 48) := by
  rw [Nat.ofDigitChars_append]
  rfl

/-- So many digits write no number of more digits. -/
theorem ofDigitChars_lt (h : ∀ c ∈ cs, c.isDigit = true) :
    Nat.ofDigitChars 10 cs 0 < 10 ^ cs.length := by
  induction cs using List.reverseRecOn with
  | nil => decide
  | append_singleton cs c ih =>
    have hlt := ih fun d hd => h d (by simp [hd])
    have hdigit := Ascii.isDigit_iff.1 (h c (by simp))
    rw [ofDigitChars_concat, List.length_append, List.length_singleton, Nat.pow_succ]
    omega

/-! ## Printing and reading back -/

theorem isDigit_of_mem_toDigits (h : c ∈ Nat.toDigits 10 n) : c.isDigit = true :=
  Nat.isDigit_of_mem_toDigits (by decide) (by decide) h

/-- No number but zero is written with a zero in front. -/
theorem eq_zero_of_toDigits_cons (h : Nat.toDigits 10 n = '0' :: cs) : n = 0 := by
  induction n using Nat.strongRecOn generalizing cs with
  | ind n ih =>
    by_cases hn : n < 10
    · rw [Nat.toDigits_of_lt_base hn] at h
      exact Nat.digitChar_eq_zero.1 (List.cons.inj h).1
    · rw [Nat.toDigits_of_base_le (by decide) (by omega)] at h
      obtain ⟨d, ds, hd⟩ := List.exists_cons_of_ne_nil (Nat.toDigits_ne_nil (n := n / 10) (b := 10))
      rw [hd, List.cons_append] at h
      rw [(List.cons.inj h).1] at hd
      have := ih (n / 10) (by omega) hd
      omega

theorem digitChar_toNat (h : c.isDigit = true) : Nat.digitChar (c.toNat - 48) = c := by
  have hrange := Ascii.isDigit_iff.1 h
  apply Char.toNat_inj.1
  rw [Nat.toNat_digitChar_of_lt_ten (by omega)]
  omega

/-- **Digits without a needless zero in front** are those that their number
is printed with. -/
theorem toDigits_ofDigitChars (hne : cs ≠ []) (h : ∀ c ∈ cs, c.isDigit = true)
    (hzero : cs.head? = some '0' → cs.length = 1) :
    Nat.toDigits 10 (Nat.ofDigitChars 10 cs 0) = cs := by
  induction cs using List.reverseRecOn with
  | nil => exact absurd rfl hne
  | append_singleton cs c ih =>
    have hc : c.isDigit = true := h c (by simp)
    have hrange := Ascii.isDigit_iff.1 hc
    rw [ofDigitChars_concat]
    by_cases hcs : cs = []
    · rw [hcs, Nat.ofDigitChars_nil, Nat.mul_zero, Nat.zero_add,
        Nat.toDigits_of_lt_base (by omega), digitChar_toNat hc, List.nil_append]
    · -- what stands before the last digit has no needless zero either, and is not zero itself
      have hhead : cs.head? ≠ some '0' := by
        intro hhead
        have hlength := hzero (by rw [List.head?_append, hhead]; rfl)
        rw [List.length_append, List.length_singleton] at hlength
        exact hcs (List.length_eq_zero_iff.1 (by omega))
      have hprinted := ih hcs (fun d hd => h d (by simp [hd])) fun h => absurd h hhead
      have hpos : 0 < Nat.ofDigitChars 10 cs 0 := by
        refine Nat.pos_of_ne_zero fun hzero => hhead ?_
        rw [← hprinted, hzero]
        rfl
      rw [Nat.toDigits_of_base_le (by decide) (by omega)]
      have hdiv : (10 * Nat.ofDigitChars 10 cs 0 + (c.toNat - 48)) / 10 =
          Nat.ofDigitChars 10 cs 0 := by omega
      have hmod : (10 * Nat.ofDigitChars 10 cs 0 + (c.toNat - 48)) % 10 = c.toNat - 48 := by omega
      rw [hdiv, hmod, hprinted, digitChar_toNat hc]

/-! ## What is read -/

/-- **The lists that write a number** are those of at least one digit. -/
theorem decimal?_eq_some_iff_ofDigitChars :
    decimal? cs = some n ↔
      cs ≠ [] ∧ (∀ c ∈ cs, c.isDigit = true) ∧ n = Nat.ofDigitChars 10 cs 0 := by
  rw [decimal?_eq_some_iff]
  constructor
  · rintro ⟨hne, hall, rfl⟩
    exact ⟨hne, hall, ofDigits_ten hall⟩
  · rintro ⟨hne, hall, rfl⟩
    exact ⟨hne, hall, (ofDigits_ten hall).symm⟩

/-- **The texts that write a number below a bound**: digits, perhaps after
a plus sign. -/
theorem decimalBelow?_eq_some_iff :
    decimalBelow? bound s = some n ↔
      ∃ digits, (s.toList = digits ∨ s.toList = '+' :: digits) ∧ digits ≠ [] ∧
        (∀ c ∈ digits, c.isDigit = true) ∧ n = Nat.ofDigitChars 10 digits 0 ∧ n < bound := by
  unfold decimalBelow?
  rw [Option.filter_eq_some_iff, decimal?_eq_some_iff_ofDigitChars, decide_eq_true_eq]
  split
  · next rest hs =>
    rw [hs]
    constructor
    · rintro ⟨⟨hne, hall, hn⟩, hlt⟩
      exact ⟨rest, .inr rfl, hne, hall, hn, hlt⟩
    · rintro ⟨digits, rfl | heq, hne, hall, hn, hlt⟩
      · -- a plus sign is no digit
        exact absurd (hall '+' List.mem_cons_self) (by decide)
      · obtain rfl := (List.cons.inj heq).2
        exact ⟨⟨hne, hall, hn⟩, hlt⟩
  · next cs hs =>
    constructor
    · rintro ⟨⟨hne, hall, hn⟩, hlt⟩
      exact ⟨_, .inl rfl, hne, hall, hn, hlt⟩
    · rintro ⟨digits, rfl | heq, hne, hall, hn, hlt⟩
      · exact ⟨⟨hne, hall, hn⟩, hlt⟩
      · exact absurd heq (hs digits)

end SignOn
