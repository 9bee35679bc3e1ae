import Mathlib.Data.List.Nodup
import SignOn.Codec.Base64
/-!
# Base64 is exact

What `symbols` writes, `decodeSymbols` reads back, and it reads nothing
else: a list of symbols that stands for bytes is the one that these bytes
are written as. Both halves go group by group, the first along `symbols`
and the second along `groups`. The padding byte must stand outside the
alphabet, as it does for `url` and `crypt`.
-/

namespace SignOn

/-- A sequence of two succeeds where both do. -/
theorem bind_eq_ok_iff {ε α β : Type} {x : Except ε α} {f : α → Except ε β} {b : β} :
    x >>= f = .ok b ↔ ∃ a, x = .ok a ∧ f a = .ok b := by
  cases x with
  | error e =>
    constructor
    · intro h
      cases h
    · rintro ⟨_, h, -⟩
      cases h
  | ok a =>
    constructor
    · intro h
      exact ⟨a, rfl, h⟩
    · rintro ⟨_, ha, h⟩
      cases ha
      exact h

namespace Base64

namespace Alphabet

variable {A : Alphabet} {b : UInt8} {v : Nat}

/-! ## Symbols and values -/

/-- A value below 64 has the symbol at its place. -/
theorem symbol_eq_getElem (h : v < A.table.length) : A.symbol v = A.table[v] := by
  simp [symbol, h]

/-- **The value of a symbol is the place where it stands.** -/
theorem value?_eq_some_iff : A.value? b = some v ↔ v < 64 ∧ A.symbol v = b := by
  have hlen := A.length_table
  rw [value?, List.idxOf?, List.findIdx?_eq_some_iff_getElem]
  constructor
  · rintro ⟨hv, heq, -⟩
    refine ⟨by omega, ?_⟩
    rw [symbol_eq_getElem hv]
    exact eq_of_beq heq
  · rintro ⟨hv, rfl⟩
    have hv' : v < A.table.length := by omega
    refine ⟨hv', by simp [symbol_eq_getElem hv'], fun j hj heq => ?_⟩
    rw [symbol_eq_getElem hv', beq_iff_eq] at heq
    have := (List.Nodup.getElem_inj_iff A.nodup_table).1 heq
    omega

theorem value?_symbol (h : v < 64) : A.value? (A.symbol v) = some v :=
  value?_eq_some_iff.2 ⟨h, rfl⟩

theorem symbol_mem (h : v < 64) : A.symbol v ∈ A.table := by
  have hlen := A.length_table
  rw [symbol_eq_getElem (by omega)]
  exact List.getElem_mem _

theorem valueAt_symbol (h : v < 64) (i : Nat) : A.valueAt (A.symbol v) i = .ok v := by
  rw [valueAt, value?_symbol h]

theorem valueAt_eq_ok_iff {i : Nat} : A.valueAt b i = .ok v ↔ v < 64 ∧ A.symbol v = b := by
  rw [← value?_eq_some_iff, valueAt]
  cases A.value? b with
  | none => simp
  | some w => simp

/-! ## Every written byte is a symbol -/

theorem mem_table_of_mem_symbols {bytes : List UInt8} (h : b ∈ A.symbols bytes) :
    b ∈ A.table := by
  fun_induction symbols A bytes with
  | case1 => cases h
  | case2 a x =>
    have hx : a.toNat < 256 := a.toNat_lt
    simp only [List.mem_cons, List.not_mem_nil, or_false] at h
    rcases h with rfl | rfl <;> exact symbol_mem (by omega)
  | case3 a b x y =>
    have hx : a.toNat < 256 := a.toNat_lt
    have hy : b.toNat < 256 := b.toNat_lt
    simp only [List.mem_cons, List.not_mem_nil, or_false] at h
    rcases h with rfl | rfl | rfl <;> exact symbol_mem (by omega)
  | case4 a b c rest x y z ih =>
    have hx : a.toNat < 256 := a.toNat_lt
    have hy : b.toNat < 256 := b.toNat_lt
    have hz : c.toNat < 256 := c.toNat_lt
    simp only [List.mem_cons] at h
    rcases h with rfl | rfl | rfl | rfl | h
    · exact symbol_mem (by omega)
    · exact symbol_mem (by omega)
    · exact symbol_mem (by omega)
    · exact symbol_mem (by omega)
    · exact ih h

/-- Four symbols for three bytes, and two or three for what is left. -/
theorem length_symbols (bytes : List UInt8) :
    (A.symbols bytes).length = (4 * bytes.length + 2) / 3 := by
  fun_induction symbols A bytes with
  | case1 => rfl
  | case2 a x => simp
  | case3 a b x y => simp
  | case4 a b c rest x y z ih =>
    simp only [List.length_cons, ih]
    omega

/-! ## Bytes out of values

Each byte of a group is made of the bits of two neighbouring values. -/

theorem ofNat_first (a b : UInt8) :
    UInt8.ofNat (a.toNat / 4 * 4 + (a.toNat % 4 * 16 + b.toNat / 16) / 16) = a := by
  have ha : a.toNat < 256 := a.toNat_lt
  have hb : b.toNat < 256 := b.toNat_lt
  apply UInt8.toNat_inj.1
  rw [UInt8.toNat_ofNat']
  omega

theorem ofNat_second (a b c : UInt8) :
    UInt8.ofNat ((a.toNat % 4 * 16 + b.toNat / 16) % 16 * 16 +
      (b.toNat % 16 * 4 + c.toNat / 64) / 4) = b := by
  have hb : b.toNat < 256 := b.toNat_lt
  have hc : c.toNat < 256 := c.toNat_lt
  apply UInt8.toNat_inj.1
  rw [UInt8.toNat_ofNat']
  omega

theorem ofNat_third (b c : UInt8) :
    UInt8.ofNat ((b.toNat % 16 * 4 + c.toNat / 64) % 4 * 64 + c.toNat % 64) = c := by
  have hc : c.toNat < 256 := c.toNat_lt
  apply UInt8.toNat_inj.1
  rw [UInt8.toNat_ofNat']
  omega

/-! Written out again, these bytes give the values back. -/

theorem symbols_of_two {v₀ v₁ : Nat} (h₀ : v₀ < 64) (h₁ : v₁ < 64) (hlow : v₁ % 16 = 0) :
    A.symbols [UInt8.ofNat (v₀ * 4 + v₁ / 16)] = [A.symbol v₀, A.symbol v₁] := by
  have e₀ : (v₀ * 4 + v₁ / 16) % 2 ^ 8 / 4 = v₀ := by omega
  have e₁ : (v₀ * 4 + v₁ / 16) % 2 ^ 8 % 4 * 16 = v₁ := by omega
  simp only [symbols, UInt8.toNat_ofNat', e₀, e₁]

theorem symbols_of_three {v₀ v₁ v₂ : Nat} (h₀ : v₀ < 64) (h₁ : v₁ < 64) (h₂ : v₂ < 64)
    (hlow : v₂ % 4 = 0) :
    A.symbols [UInt8.ofNat (v₀ * 4 + v₁ / 16), UInt8.ofNat (v₁ % 16 * 16 + v₂ / 4)] =
      [A.symbol v₀, A.symbol v₁, A.symbol v₂] := by
  have e₀ : (v₀ * 4 + v₁ / 16) % 2 ^ 8 / 4 = v₀ := by omega
  have e₁ : (v₀ * 4 + v₁ / 16) % 2 ^ 8 % 4 * 16 + (v₁ % 16 * 16 + v₂ / 4) % 2 ^ 8 / 16 = v₁ := by
    omega
  have e₂ : (v₁ % 16 * 16 + v₂ / 4) % 2 ^ 8 % 16 * 4 = v₂ := by omega
  simp only [symbols, UInt8.toNat_ofNat', e₀, e₁, e₂]

theorem symbols_of_four {v₀ v₁ v₂ v₃ : Nat} (h₀ : v₀ < 64) (h₁ : v₁ < 64) (h₂ : v₂ < 64)
    (h₃ : v₃ < 64) (rest : List UInt8) :
    A.symbols (UInt8.ofNat (v₀ * 4 + v₁ / 16) :: UInt8.ofNat (v₁ % 16 * 16 + v₂ / 4) ::
        UInt8.ofNat (v₂ % 4 * 64 + v₃) :: rest) =
      A.symbol v₀ :: A.symbol v₁ :: A.symbol v₂ :: A.symbol v₃ :: A.symbols rest := by
  have e₀ : (v₀ * 4 + v₁ / 16) % 2 ^ 8 / 4 = v₀ := by omega
  have e₁ : (v₀ * 4 + v₁ / 16) % 2 ^ 8 % 4 * 16 + (v₁ % 16 * 16 + v₂ / 4) % 2 ^ 8 / 16 = v₁ := by
    omega
  have e₂ : (v₁ % 16 * 16 + v₂ / 4) % 2 ^ 8 % 16 * 4 + (v₂ % 4 * 64 + v₃) % 2 ^ 8 / 64 = v₂ := by
    omega
  have e₃ : (v₂ % 4 * 64 + v₃) % 2 ^ 8 % 64 = v₃ := by omega
  simp only [symbols, UInt8.toNat_ofNat', e₀, e₁, e₂, e₃]

/-! ## The last group -/

theorem symbol_ne_pad (hpad : pad ∉ A.table) (h : v < 64) : A.symbol v ≠ pad :=
  fun heq => hpad (heq ▸ symbol_mem h)

/-- Symbols without padding are read as their values. -/
theorem lastValues_map_symbol (hpad : pad ∉ A.table) {vs : List Nat} (h : ∀ v ∈ vs, v < 64)
    (offset index : Nat) :
    A.lastValues offset index none (vs.map A.symbol) = .ok (vs, false) := by
  induction vs generalizing index with
  | nil => rfl
  | cons v vs ih =>
    have hv : v < 64 := h v List.mem_cons_self
    rw [List.map_cons, lastValues, if_neg (symbol_ne_pad hpad hv)]
    simp only [valueAt_symbol hv, ih (fun w hw => h w (List.mem_cons_of_mem _ hw))]
    rfl

/-- After padding has begun nothing but padding follows. -/
theorem padded_of_lastValues_some {offset index i : Nat} {bytes : List UInt8} {vs : List Nat}
    {padded : Bool} (h : A.lastValues offset index (some i) bytes = .ok (vs, padded)) :
    padded = true := by
  induction bytes generalizing index i with
  | nil =>
    rw [lastValues] at h
    cases h
    rfl
  | cons b rest ih =>
    rw [lastValues] at h
    split at h
    · split at h
      · cases h
      · exact ih h
    · cases h

/-- **Values that are read without padding are those of the symbols.** -/
theorem eq_map_symbol_of_lastValues {offset index : Nat} {bytes : List UInt8} {vs : List Nat}
    (h : A.lastValues offset index none bytes = .ok (vs, false)) :
    (∀ v ∈ vs, v < 64) ∧ bytes = vs.map A.symbol := by
  induction bytes generalizing index vs with
  | nil =>
    rw [lastValues] at h
    cases h
    simp
  | cons b rest ih =>
    rw [lastValues] at h
    split at h
    · split at h
      · cases h
      · exact absurd (padded_of_lastValues_some h) (by simp)
    · obtain ⟨v, hv, h⟩ := bind_eq_ok_iff.1 h
      obtain ⟨⟨ws, padded⟩, hws, h⟩ := bind_eq_ok_iff.1 h
      cases h
      obtain ⟨hv64, rfl⟩ := valueAt_eq_ok_iff.1 hv
      obtain ⟨hall, rfl⟩ := ih hws
      refine ⟨?_, rfl⟩
      rintro w (_ | ⟨_, hw⟩)
      · exact hv64
      · exact hall w hw

/-- Padding does not stand first. -/
theorem lastValues_ne_padded_nil {offset : Nat} {group : List UInt8} :
    A.lastValues offset 0 none group ≠ .ok ([], true) := by
  intro h
  cases group with
  | nil => cases h
  | cons b rest =>
    rw [lastValues] at h
    split at h
    · cases h
    · obtain ⟨v, -, h⟩ := bind_eq_ok_iff.1 h
      obtain ⟨⟨ws, padded⟩, -, h⟩ := bind_eq_ok_iff.1 h
      cases h

/-- Two values make one byte, if the second has its low bits clear. -/
theorem lastGroup_of_two {offset v₀ v₁ : Nat} {group : List UInt8}
    (h : A.lastValues offset 0 none group = .ok ([v₀, v₁], false)) :
    A.lastGroup offset group =
      if v₁ % 16 ≠ 0 then .error (.lastSymbol (A.symbol v₁) (offset + 1))
      else .ok [UInt8.ofNat (v₀ * 4 + v₁ / 16)] := by
  rw [lastGroup, h]
  rfl

/-- Three values make two bytes, if the third has its low bits clear. -/
theorem lastGroup_of_three {offset v₀ v₁ v₂ : Nat} {group : List UInt8}
    (h : A.lastValues offset 0 none group = .ok ([v₀, v₁, v₂], false)) :
    A.lastGroup offset group =
      if v₂ % 4 ≠ 0 then .error (.lastSymbol (A.symbol v₂) (offset + 2))
      else .ok [UInt8.ofNat (v₀ * 4 + v₁ / 16), UInt8.ofNat (v₁ % 16 * 16 + v₂ / 4)] := by
  rw [lastGroup, h]
  rfl

/-- Four values make three bytes. -/
theorem lastGroup_of_four {offset v₀ v₁ v₂ v₃ : Nat} {group : List UInt8}
    (h : A.lastValues offset 0 none group = .ok ([v₀, v₁, v₂, v₃], false)) :
    A.lastGroup offset group =
      .ok [UInt8.ofNat (v₀ * 4 + v₁ / 16), UInt8.ofNat (v₁ % 16 * 16 + v₂ / 4),
        UInt8.ofNat (v₂ % 4 * 64 + v₃)] := by
  rw [lastGroup, h]
  rfl

/-- What is written for at most three bytes is read as a last group. -/
theorem lastGroup_symbols (hpad : pad ∉ A.table) {bytes : List UInt8} (hlen : bytes.length ≤ 3)
    (offset : Nat) : A.lastGroup offset (A.symbols bytes) = .ok bytes := by
  have read (vs : List Nat) (h : ∀ v ∈ vs, v < 64) := lastValues_map_symbol hpad h offset 0
  match bytes, hlen with
  | [], _ => rfl
  | [a], _ =>
    have ha : a.toNat < 256 := a.toNat_lt
    have hr := read [a.toNat / 4, a.toNat % 4 * 16] (by simp; omega)
    have h₁ := ofNat_first a 0
    rw [UInt8.toNat_zero, Nat.zero_div, Nat.add_zero] at h₁
    simp only [List.map_cons, List.map_nil] at hr
    rw [symbols, lastGroup_of_two hr, if_neg (by omega), h₁]
  | [a, b], _ =>
    have ha : a.toNat < 256 := a.toNat_lt
    have hb : b.toNat < 256 := b.toNat_lt
    have hr := read [a.toNat / 4, a.toNat % 4 * 16 + b.toNat / 16, b.toNat % 16 * 4]
      (by simp; omega)
    have h₂ := ofNat_second a b 0
    rw [UInt8.toNat_zero, Nat.zero_div, Nat.add_zero] at h₂
    simp only [List.map_cons, List.map_nil] at hr
    rw [symbols, lastGroup_of_three hr, if_neg (by omega), ofNat_first, h₂]
  | [a, b, c], _ =>
    have ha : a.toNat < 256 := a.toNat_lt
    have hb : b.toNat < 256 := b.toNat_lt
    have hc : c.toNat < 256 := c.toNat_lt
    have hr := read [a.toNat / 4, a.toNat % 4 * 16 + b.toNat / 16,
      b.toNat % 16 * 4 + c.toNat / 64, c.toNat % 64] (by simp; omega)
    simp only [List.map_cons, List.map_nil] at hr
    rw [symbols, symbols, lastGroup_of_four hr, ofNat_first, ofNat_second, ofNat_third]

/-- And nothing else is. A group has at most four symbols. -/
theorem eq_symbols_of_lastGroup {group bytes : List UInt8} (hlen : group.length ≤ 4)
    {offset : Nat} (h : A.lastGroup offset group = .ok bytes) :
    group = A.symbols bytes ∧ bytes.length ≤ 3 := by
  obtain ⟨⟨values, padded⟩, hv, hrest⟩ := bind_eq_ok_iff.1 (by rw [lastGroup] at h; exact h)
  cases padded with
  | true =>
    -- padding is refused, whatever number of values it ends
    match values, hv, hrest with
    | [], hv, _ => exact absurd hv lastValues_ne_padded_nil
    | [_], _, hrest => cases hrest
    | _ :: _ :: _, _, hrest => cases hrest
  | false =>
    obtain ⟨hall, rfl⟩ := eq_map_symbol_of_lastValues hv
    -- by the number of values: one alone makes no byte, and five are too many
    match values, hv, hrest, hlen, hall with
    | [], _, hrest, _, _ =>
      cases hrest
      exact ⟨rfl, Nat.zero_le _⟩
    | [_], _, hrest, _, _ => cases hrest
    | [v₀, v₁], hv, _, _, hall =>
      rw [lastGroup_of_two hv] at h
      split at h
      · cases h
      · next hlow =>
        cases h
        have hsym := symbols_of_two (A := A) (hall v₀ (by simp)) (hall v₁ (by simp)) (by omega)
        exact ⟨hsym.symm, by simp⟩
    | [v₀, v₁, v₂], hv, _, _, hall =>
      rw [lastGroup_of_three hv] at h
      split at h
      · cases h
      · next hlow =>
        cases h
        have hsym := symbols_of_three (A := A) (hall v₀ (by simp)) (hall v₁ (by simp))
          (hall v₂ (by simp)) (by omega)
        exact ⟨hsym.symm, by simp⟩
    | [v₀, v₁, v₂, v₃], hv, _, _, hall =>
      rw [lastGroup_of_four hv] at h
      cases h
      have hsym := symbols_of_four (A := A) (hall v₀ (by simp)) (hall v₁ (by simp))
        (hall v₂ (by simp)) (hall v₃ (by simp)) []
      exact ⟨hsym.symm, by simp⟩
    | _ :: _ :: _ :: _ :: _ :: _, _, _, hlen, _ =>
      simp only [List.map_cons, List.length_cons] at hlen
      omega

/-! ## Whole texts -/

/-- A text of at most four symbols is a last group. -/
theorem groups_of_length_le {offset : Nat} {text : List UInt8} (h : text.length ≤ 4) :
    A.groups offset text = A.lastGroup offset text := by
  match text, h with
  | [], _ => rfl
  | [_], _ => rfl
  | [_, _], _ => rfl
  | [_, _, _], _ => rfl
  | [_, _, _, _], _ => rfl
  | _ :: _ :: _ :: _ :: _ :: _, h =>
    simp only [List.length_cons] at h
    omega

/-- A text that is written is read back. -/
theorem groups_symbols (hpad : pad ∉ A.table) (offset : Nat) (bytes : List UInt8) :
    A.groups offset (A.symbols bytes) = .ok bytes := by
  fun_induction symbols A bytes generalizing offset with
  | case1 => rfl
  | case2 a =>
    rw [groups_of_length_le (by simp)]
    exact lastGroup_symbols hpad (show [a].length ≤ 3 by simp) offset
  | case3 a b =>
    rw [groups_of_length_le (by simp)]
    exact lastGroup_symbols hpad (show [a, b].length ≤ 3 by simp) offset
  | case4 a b c rest x y z ih =>
    have hx : a.toNat < 256 := a.toNat_lt
    have hy : b.toNat < 256 := b.toNat_lt
    have hz : c.toNat < 256 := c.toNat_lt
    -- four symbols are a last group unless more of them follow
    cases hs : A.symbols rest with
    | nil =>
      have hrest : rest = [] := by
        have h := ih 0
        rw [hs] at h
        cases h
        rfl
      subst hrest
      rw [groups_of_length_le (by simp)]
      exact lastGroup_symbols hpad (show [a, b, c].length ≤ 3 by simp) offset
    | cons e es =>
      rw [groups, ← hs, valueAt_symbol (by omega), valueAt_symbol (by omega),
        valueAt_symbol (by omega), valueAt_symbol (by omega), ih]
      show Except.ok (_ :: _ :: _ :: rest) = _
      rw [ofNat_first, ofNat_second, ofNat_third]

/-- **The groups of a text are read exactly if they are written for the
bytes.** -/
theorem groups_eq_ok_iff (hpad : pad ∉ A.table) {offset : Nat} {text bytes : List UInt8} :
    A.groups offset text = .ok bytes ↔ text = A.symbols bytes := by
  constructor
  · intro h
    fun_induction groups A offset text generalizing bytes with
    | case1 offset a b c d e rest ih =>
      obtain ⟨v₀, h₀, h⟩ := bind_eq_ok_iff.1 h
      obtain ⟨v₁, h₁, h⟩ := bind_eq_ok_iff.1 h
      obtain ⟨v₂, h₂, h⟩ := bind_eq_ok_iff.1 h
      obtain ⟨v₃, h₃, h⟩ := bind_eq_ok_iff.1 h
      obtain ⟨tail, ht, h⟩ := bind_eq_ok_iff.1 h
      cases h
      obtain ⟨l₀, rfl⟩ := valueAt_eq_ok_iff.1 h₀
      obtain ⟨l₁, rfl⟩ := valueAt_eq_ok_iff.1 h₁
      obtain ⟨l₂, rfl⟩ := valueAt_eq_ok_iff.1 h₂
      obtain ⟨l₃, rfl⟩ := valueAt_eq_ok_iff.1 h₃
      rw [symbols_of_four l₀ l₁ l₂ l₃, ih ht]
    | case2 offset group hgroup =>
      have hlen : group.length ≤ 4 := by
        match group, hgroup with
        | [], _ => simp
        | [_], _ => simp
        | [_, _], _ => simp
        | [_, _, _], _ => simp
        | [_, _, _, _], _ => simp
        | a :: b :: c :: d :: e :: rest, hgroup => exact absurd rfl (hgroup a b c d e rest)
      exact (eq_symbols_of_lastGroup hlen h).1
  · rintro rfl
    exact groups_symbols hpad offset bytes

/-- A written text has no stray byte at its end. -/
theorem strayEnd?_symbols (bytes : List UInt8) : A.strayEnd? (A.symbols bytes) = none := by
  unfold strayEnd?
  cases hlast : (A.symbols bytes).getLast? with
  | none => rfl
  | some b =>
    have hmem : b ∈ A.table := mem_table_of_mem_symbols (List.mem_of_getLast? hlast)
    obtain ⟨v, hv, rfl⟩ := List.getElem_of_mem hmem
    have hlen := A.length_table
    have hval : A.value? A.table[v] ≠ none := by
      rw [← symbol_eq_getElem hv, value?_symbol (by omega)]
      simp
    exact if_neg fun h => hval h.2.2

/-- **A list of symbols stands for bytes exactly if it is what they are
written as.** -/
theorem decodeSymbols_eq_ok_iff (hpad : pad ∉ A.table) {text bytes : List UInt8} :
    A.decodeSymbols text = .ok bytes ↔ text = A.symbols bytes := by
  unfold decodeSymbols
  constructor
  · intro h
    split at h
    · cases h
    · exact (groups_eq_ok_iff hpad).1 h
  · rintro rfl
    rw [strayEnd?_symbols]
    exact groups_symbols hpad 0 bytes

/-- Different bytes are written differently. -/
theorem symbols_inj (hpad : pad ∉ A.table) {bytes bytes' : List UInt8}
    (h : A.symbols bytes = A.symbols bytes') : bytes = bytes' := by
  have hb := (decodeSymbols_eq_ok_iff hpad).2 h
  rw [(decodeSymbols_eq_ok_iff hpad).2 rfl] at hb
  exact Except.ok.inj hb

end Alphabet

/-! ## The two alphabets -/

theorem pad_notMem_url : pad ∉ url.table := by decide

theorem pad_notMem_crypt : pad ∉ crypt.table := by decide

end Base64

end SignOn
