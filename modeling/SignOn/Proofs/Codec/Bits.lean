import Mathlib.Algebra.Group.Nat.Defs
import SignOn.Proofs.Codec.Base64
/-!
# Base64, bit by bit

What a list of symbols stands for can be said without groups: the bits of
the bytes, six to a symbol, and zeros where the bytes end within a symbol
(`Spells`). `symbols` writes this and nothing else does. So a list of
symbols stands for bytes unless it has a foreign byte, a symbol too many,
or a bit set behind the last byte (`exists_symbols_iff`).
-/

namespace SignOn

namespace Base64

/-- The bits of a number below a power of two, the highest first. -/
def bits : (width : Nat) → Nat → List Nat
  | 0, _ => []
  | width + 1, v => v / 2 ^ width % 2 :: bits width v

/-- How many bits of a text of so many symbols lie behind the last byte. -/
def spareBits (length : Nat) : Nat :=
  6 * length % 8

@[simp] theorem length_bits (width v : Nat) : (bits width v).length = width := by
  induction width with
  | zero => rfl
  | succ width ih => exact congrArg (· + 1) ih

/-- Six bits tell the values below 64 apart. -/
theorem eq_of_bits_six {v w : Nat} (hv : v < 64) (hw : w < 64) (h : bits 6 v = bits 6 w) :
    v = w := by
  simp only [bits, List.cons.injEq] at h
  omega

/-- So they do with lists of such values. -/
theorem eq_of_flatMap_bits_six {vs ws : List Nat} (hlen : vs.length = ws.length)
    (hvs : ∀ v ∈ vs, v < 64) (hws : ∀ w ∈ ws, w < 64)
    (h : vs.flatMap (bits 6) = ws.flatMap (bits 6)) : vs = ws := by
  induction vs generalizing ws with
  | nil => exact (List.length_eq_zero_iff.1 hlen.symm).symm
  | cons v vs ih =>
    cases ws with
    | nil => cases hlen
    | cons w ws =>
      obtain ⟨hv, hvs⟩ := List.forall_mem_cons.1 hvs
      obtain ⟨hw, hws⟩ := List.forall_mem_cons.1 hws
      rw [List.flatMap_cons, List.flatMap_cons] at h
      obtain ⟨hfirst, hrest⟩ := List.append_inj h (by rw [length_bits, length_bits])
      rw [eq_of_bits_six hv hw hfirst, ih (Nat.succ.inj hlen) hvs hws hrest]

theorem length_flatMap_bits {α : Type} (width : Nat) (f : α → Nat) (l : List α) :
    (l.flatMap fun a => bits width (f a)).length = width * l.length := by
  rw [List.length_flatMap]
  simp [Nat.mul_comm]

/-! Four values hold the bits of three bytes, and three and two values what
is left of them. -/

theorem bits_of_three (a b c : UInt8) :
    bits 6 (a.toNat / 4) ++ (bits 6 (a.toNat % 4 * 16 + b.toNat / 16) ++
        (bits 6 (b.toNat % 16 * 4 + c.toNat / 64) ++ bits 6 (c.toNat % 64))) =
      bits 8 a.toNat ++ (bits 8 b.toNat ++ bits 8 c.toNat) := by
  have hb : b.toNat < 256 := b.toNat_lt
  have hc : c.toNat < 256 := c.toNat_lt
  simp only [bits, List.cons_append, List.nil_append, List.cons.injEq, and_true]
  and_intros <;> omega

theorem bits_of_two (a b : UInt8) :
    bits 6 (a.toNat / 4) ++ (bits 6 (a.toNat % 4 * 16 + b.toNat / 16) ++
        bits 6 (b.toNat % 16 * 4)) =
      bits 8 a.toNat ++ (bits 8 b.toNat ++ [0, 0]) := by
  have hb : b.toNat < 256 := b.toNat_lt
  simp only [bits, List.cons_append, List.nil_append, List.cons.injEq, and_true]
  and_intros <;> omega

theorem bits_of_one (a : UInt8) :
    bits 6 (a.toNat / 4) ++ bits 6 (a.toNat % 4 * 16) = bits 8 a.toNat ++ [0, 0, 0, 0] := by
  simp only [bits, List.cons_append, List.nil_append, List.cons.injEq, and_true]
  and_intros <;> omega

namespace Alphabet

variable {A : Alphabet} {text bytes : List UInt8} {b : UInt8}

/-- A list of symbols spells bytes if their values are, six bits each, the
bits of the bytes and zeros up to the end of the last symbol. -/
def Spells (A : Alphabet) (text bytes : List UInt8) : Prop :=
  ∃ vs : List Nat, text.map A.value? = vs.map some ∧ spareBits text.length < 6 ∧
    vs.flatMap (bits 6) =
      bytes.flatMap (fun b => bits 8 b.toNat) ++ List.replicate (spareBits text.length) 0

/-- The symbols of values have these values. -/
theorem map_value?_symbol (A : Alphabet) {vs : List Nat} (h : ∀ v ∈ vs, v < 64) :
    (vs.map A.symbol).map A.value? = vs.map some := by
  rw [List.map_map]
  exact List.map_congr_left fun v hv => value?_symbol (h v hv)

/-- Only they have them. -/
theorem eq_of_map_value? {vs : List Nat} (h : text.map A.value? = vs.map some) :
    text = vs.map A.symbol ∧ ∀ v ∈ vs, v < 64 := by
  induction text generalizing vs with
  | nil =>
    obtain rfl : vs = [] := by simpa using h.symm
    simp
  | cons b text ih =>
    cases vs with
    | nil => cases h
    | cons v vs =>
      obtain ⟨hfirst, hrest⟩ := List.cons.inj h
      obtain ⟨hv, rfl⟩ := value?_eq_some_iff.1 hfirst
      obtain ⟨rfl, hvs⟩ := ih hrest
      exact ⟨rfl, List.forall_mem_cons.2 ⟨hv, hvs⟩⟩

theorem spareBits_add_four (n : Nat) : spareBits (n + 4) = spareBits n := by
  simp only [spareBits]
  omega

/-- **What is written spells the bytes.** -/
theorem spells_symbols (bytes : List UInt8) : A.Spells (A.symbols bytes) bytes := by
  fun_induction symbols A bytes with
  | case1 => exact ⟨[], rfl, Nat.zero_lt_succ 5, rfl⟩
  | case2 a x =>
    have hx : a.toNat < 256 := a.toNat_lt
    have hvs : ∀ v ∈ [x / 4, x % 4 * 16], v < 64 := by
      simp only [List.forall_mem_cons]
      exact ⟨by omega, by omega, by simp⟩
    refine ⟨_, A.map_value?_symbol hvs, by simp [spareBits], ?_⟩
    simpa [spareBits] using bits_of_one a
  | case3 a b x y =>
    have hx : a.toNat < 256 := a.toNat_lt
    have hy : b.toNat < 256 := b.toNat_lt
    have hvs : ∀ v ∈ [x / 4, x % 4 * 16 + y / 16, y % 16 * 4], v < 64 := by
      simp only [List.forall_mem_cons]
      exact ⟨by omega, by omega, by omega, by simp⟩
    refine ⟨_, A.map_value?_symbol hvs, by simp [spareBits], ?_⟩
    simpa [spareBits] using bits_of_two a b
  | case4 a b c rest x y z ih =>
    have hx : a.toNat < 256 := a.toNat_lt
    have hy : b.toNat < 256 := b.toNat_lt
    have hz : c.toNat < 256 := c.toNat_lt
    obtain ⟨vs, hvalues, hspare, hbits⟩ := ih
    obtain ⟨hrest, hall⟩ := eq_of_map_value? hvalues
    have hvs : ∀ v ∈ x / 4 :: (x % 4 * 16 + y / 16) :: (y % 16 * 4 + z / 64) :: z % 64 :: vs,
        v < 64 := by
      simp only [List.forall_mem_cons]
      exact ⟨by omega, by omega, by omega, by omega, hall⟩
    refine ⟨x / 4 :: (x % 4 * 16 + y / 16) :: (y % 16 * 4 + z / 64) :: z % 64 :: vs, ?_, ?_, ?_⟩
    · simpa only [List.map_cons, hrest] using A.map_value?_symbol hvs
    · rw [List.length_cons, List.length_cons, List.length_cons, List.length_cons,
        spareBits_add_four]
      exact hspare
    · have hthree := bits_of_three a b c
      simp only [← List.append_assoc] at hthree
      simp only [List.length_cons, spareBits_add_four, List.flatMap_cons, hbits,
        ← List.append_assoc]
      rw [hthree]

/-- **Nothing else does.** -/
theorem eq_symbols_of_spells (h : A.Spells text bytes) : text = A.symbols bytes := by
  obtain ⟨vs, hvalues, hspare, hbits⟩ := h
  obtain ⟨ws, hvalues', hspare', hbits'⟩ := A.spells_symbols bytes
  -- the bytes, and less than a symbol behind them, tell how many symbols there are
  have hcount (vs : List Nat) : (vs.flatMap (bits 6)).length = 6 * vs.length :=
    length_flatMap_bits 6 id vs
  have hlength : vs.length = text.length := by simpa using congrArg List.length hvalues.symm
  have hlength' : ws.length = (A.symbols bytes).length := by
    simpa using congrArg List.length hvalues'.symm
  have htotal := congrArg List.length hbits
  have htotal' := congrArg List.length hbits'
  rw [hcount, List.length_append, List.length_replicate, length_flatMap_bits] at htotal htotal'
  have hsame : text.length = (A.symbols bytes).length := by
    simp only [spareBits] at hspare hspare' htotal htotal'
    omega
  obtain ⟨htext, hvs⟩ := eq_of_map_value? hvalues
  obtain ⟨hsymbols, hws⟩ := eq_of_map_value? hvalues'
  rw [hsame, ← hbits'] at hbits
  rw [htext, hsymbols, eq_of_flatMap_bits_six (by omega) hvs hws hbits]

theorem spells_iff : A.Spells text bytes ↔ text = A.symbols bytes :=
  ⟨eq_symbols_of_spells, fun h => h ▸ A.spells_symbols bytes⟩

/-! ## What is no spelling -/

/-- A list of bytes spells something: all of them are symbols, there is not
one symbol more than the bytes take, and no bit behind the last byte is
set. -/
structure IsSpelling (A : Alphabet) (text : List UInt8) : Prop where
  symbols : ∀ b ∈ text, b ∈ A.table
  length : text.length % 4 ≠ 1
  spare : ∀ b v, text.getLast? = some b → A.value? b = some v →
    v % 2 ^ spareBits text.length = 0

theorem isSpelling_symbols (bytes : List UInt8) : A.IsSpelling (A.symbols bytes) := by
  refine ⟨fun b hb => mem_table_of_mem_symbols hb, by rw [length_symbols]; omega, ?_⟩
  fun_induction symbols A bytes with
  | case1 => simp
  | case2 a x =>
    intro b v hlast hv
    obtain rfl : A.symbol (x % 4 * 16) = b := by simpa using hlast
    rw [value?_symbol (by omega)] at hv
    obtain rfl := Option.some.inj hv
    simp [spareBits]
  | case3 a b x y =>
    intro b v hlast hv
    obtain rfl : A.symbol (y % 16 * 4) = b := by simpa using hlast
    rw [value?_symbol (by omega)] at hv
    obtain rfl := Option.some.inj hv
    simp [spareBits]
  | case4 a b c rest x y z ih =>
    intro s v hlast hv
    simp only [List.length_cons, spareBits_add_four]
    cases hrest : A.symbols rest with
    | nil => exact Nat.mod_one v
    | cons e es =>
      rw [hrest] at hlast ih
      exact ih s v (by simpa using hlast) hv

theorem IsSpelling.of_cons_four {a b c d : UInt8}
    (h : A.IsSpelling (a :: b :: c :: d :: text)) : A.IsSpelling text where
  symbols s hs := h.symbols s (by simp [hs])
  length := by
    have hlength := h.length
    simp only [List.length_cons] at hlength
    omega
  spare s v hlast hv := by
    have hspare := h.spare s v (by simp [List.getLast?_cons, hlast]) hv
    simpa only [List.length_cons, spareBits_add_four] using hspare

/-- A symbol has a value. -/
theorem exists_symbol_eq (h : b ∈ A.table) : ∃ v < 64, A.symbol v = b := by
  obtain ⟨v, hv, rfl⟩ := List.getElem_of_mem h
  exact ⟨v, A.length_table ▸ hv, symbol_eq_getElem hv⟩

theorem IsSpelling.exists_symbols : ∀ {text : List UInt8}, A.IsSpelling text →
    ∃ bytes, text = A.symbols bytes
  | [], _ => ⟨[], rfl⟩
  | [_], h => absurd rfl h.length
  | [a, b], h => by
    obtain ⟨v₀, h₀, rfl⟩ := exists_symbol_eq (h.symbols a (by simp))
    obtain ⟨v₁, h₁, rfl⟩ := exists_symbol_eq (h.symbols b (by simp))
    have hlow : v₁ % 16 = 0 := by simpa [spareBits] using h.spare _ v₁ rfl (value?_symbol h₁)
    exact ⟨_, (symbols_of_two h₀ h₁ hlow).symm⟩
  | [a, b, c], h => by
    obtain ⟨v₀, h₀, rfl⟩ := exists_symbol_eq (h.symbols a (by simp))
    obtain ⟨v₁, h₁, rfl⟩ := exists_symbol_eq (h.symbols b (by simp))
    obtain ⟨v₂, h₂, rfl⟩ := exists_symbol_eq (h.symbols c (by simp))
    have hlow : v₂ % 4 = 0 := by simpa [spareBits] using h.spare _ v₂ rfl (value?_symbol h₂)
    exact ⟨_, (symbols_of_three h₀ h₁ h₂ hlow).symm⟩
  | a :: b :: c :: d :: text, h => by
    obtain ⟨v₀, h₀, rfl⟩ := exists_symbol_eq (h.symbols a (by simp))
    obtain ⟨v₁, h₁, rfl⟩ := exists_symbol_eq (h.symbols b (by simp))
    obtain ⟨v₂, h₂, rfl⟩ := exists_symbol_eq (h.symbols c (by simp))
    obtain ⟨v₃, h₃, rfl⟩ := exists_symbol_eq (h.symbols d (by simp))
    obtain ⟨rest, rfl⟩ := IsSpelling.exists_symbols h.of_cons_four
    exact ⟨_, (symbols_of_four h₀ h₁ h₂ h₃ rest).symm⟩

/-- **Which lists of bytes spell something.** -/
theorem exists_symbols_iff : (∃ bytes, text = A.symbols bytes) ↔ A.IsSpelling text :=
  ⟨fun ⟨bytes, h⟩ => h ▸ A.isSpelling_symbols bytes, IsSpelling.exists_symbols⟩

end Alphabet

end Base64

end SignOn
