import Mathlib.Data.Option.Basic
import SignOn.Password
import SignOn.Proofs.Codec.Base64
import SignOn.Proofs.Text.Utf8
/-!
# The texts that are read as a password hash

A hash is a version, a cost, and 53 symbols for a salt and a digest, in this
order and set apart by dollar signs. `Bcrypt.hash` writes it in sixty
characters, `Bcrypt.Record.text`. The reader goes by the parts between dollar
signs, so it does not mind how many of these there are in a place, nor a plus
sign or zeros before the cost. `Bcrypt.Spells` is this form of a hash, and
`Bcrypt.ofString?_eq_some_iff` that texts in this form are read, and no
others.
-/

namespace SignOn

namespace Bcrypt

/-! ## Parts between dollar signs -/

/-- The parts of a list of characters between dollar signs, empty ones left
out. -/
def parts (l : List Char) : List (List Char) :=
  (l.splitOn '$').filter (· ≠ [])

variable {l p : List Char} {ps : List (List Char)}

/-- **The parts on both sides of a dollar sign.** -/
theorem parts_append_dollar (l l' : List Char) : parts (l ++ '$' :: l') = parts l ++ parts l' := by
  rw [parts, List.splitOn_append_cons_self, List.filter_append]
  rfl

@[simp] theorem parts_nil : parts [] = [] := by
  simp [parts]

@[simp] theorem parts_dollar_cons (l : List Char) : parts ('$' :: l) = parts l :=
  parts_append_dollar [] l

theorem parts_replicate_append (n : Nat) (l : List Char) :
    parts (List.replicate n '$' ++ l) = parts l := by
  induction n with
  | zero => rfl
  | succ n ih => rw [List.replicate_succ, List.cons_append, parts_dollar_cons, ih]

/-- What has no dollar sign in it is one part. -/
theorem parts_of_notMem (hne : p ≠ []) (hp : '$' ∉ p) : parts p = [p] := by
  rw [parts, List.splitOn_eq_singleton hp]
  simp [hne]

/-- What does not begin with a dollar sign begins with a part. -/
theorem exists_parts_eq_cons {c : Char} (hc : c ≠ '$') (l : List Char) :
    ∃ p, p ≠ [] ∧ '$' ∉ p ∧ (c :: l = p ∧ parts (c :: l) = [p] ∨
      ∃ l', c :: l = p ++ '$' :: l' ∧ parts (c :: l) = p :: parts l') := by
  by_cases hmem : '$' ∈ c :: l
  · obtain ⟨p, l', heq, hp⟩ := List.eq_append_cons_of_mem hmem
    have hne : p ≠ [] := by
      rintro rfl
      exact hc (List.cons.inj heq).1
    refine ⟨p, hne, hp, .inr ⟨l', heq, ?_⟩⟩
    rw [heq, parts_append_dollar, parts_of_notMem hne hp, List.singleton_append]
  · exact ⟨c :: l, by simp, hmem, .inl ⟨rfl, parts_of_notMem (by simp) hmem⟩⟩

/-- Only dollar signs have no parts. -/
theorem parts_eq_nil_iff : parts l = [] ↔ ∃ n, l = List.replicate n '$' := by
  constructor
  · intro h
    induction l with
    | nil => exact ⟨0, rfl⟩
    | cons c l ih =>
      by_cases hc : c = '$'
      · subst hc
        obtain ⟨n, rfl⟩ := ih (by rwa [parts_dollar_cons] at h)
        exact ⟨n + 1, rfl⟩
      · obtain ⟨p, -, -, ⟨-, hp⟩ | ⟨l', -, hp⟩⟩ := exists_parts_eq_cons hc l
        · cases hp.symm.trans h
        · cases hp.symm.trans h
  · rintro ⟨n, rfl⟩
    rw [← List.append_nil (List.replicate n '$'), parts_replicate_append, parts_nil]

/-- **A first part**, after any number of dollar signs: it ends where the
list does, or at a dollar sign. -/
theorem parts_eq_cons_iff : parts l = p :: ps ↔ p ≠ [] ∧ '$' ∉ p ∧ ∃ n,
    l = List.replicate n '$' ++ p ∧ ps = [] ∨
    ∃ l', l = List.replicate n '$' ++ p ++ '$' :: l' ∧ parts l' = ps := by
  constructor
  · intro h
    induction l with
    | nil => cases parts_nil.symm.trans h
    | cons c l ih =>
      by_cases hc : c = '$'
      · subst hc
        obtain ⟨hne, hp, n, hl⟩ := ih (by rwa [parts_dollar_cons] at h)
        refine ⟨hne, hp, n + 1, ?_⟩
        rcases hl with ⟨rfl, hps⟩ | ⟨l', rfl, hps⟩
        · exact .inl ⟨rfl, hps⟩
        · exact .inr ⟨l', rfl, hps⟩
      · obtain ⟨q, hne, hq, ⟨heq, hparts⟩ | ⟨l', heq, hparts⟩⟩ := exists_parts_eq_cons hc l
        · obtain ⟨rfl, rfl⟩ := List.cons.inj (hparts.symm.trans h)
          exact ⟨hne, hq, 0, .inl ⟨heq, rfl⟩⟩
        · obtain ⟨rfl, rfl⟩ := List.cons.inj (hparts.symm.trans h)
          exact ⟨hne, hq, 0, .inr ⟨l', heq, rfl⟩⟩
  · rintro ⟨hne, hp, n, ⟨rfl, rfl⟩ | ⟨l', rfl, rfl⟩⟩
    · rw [parts_replicate_append, parts_of_notMem hne hp]
    · rw [List.append_assoc, parts_replicate_append, parts_append_dollar, parts_of_notMem hne hp,
        List.singleton_append]

/-- **Three parts**, set apart by dollar signs. -/
theorem parts_eq_three_iff {x y z : List Char} : parts l = [x, y, z] ↔
    (∀ w ∈ [x, y, z], w ≠ [] ∧ '$' ∉ w) ∧ ∃ a b c d,
      l = List.replicate a '$' ++ x ++ List.replicate (b + 1) '$' ++ y ++
        List.replicate (c + 1) '$' ++ z ++ List.replicate d '$' := by
  simp only [List.forall_mem_cons, List.not_mem_nil, false_implies, implies_true, and_true]
  constructor
  · intro h
    obtain ⟨hx, hx', a, ⟨-, hnil⟩ | ⟨l₁, rfl, h₁⟩⟩ := parts_eq_cons_iff.1 h
    · cases hnil
    obtain ⟨hy, hy', b, ⟨-, hnil⟩ | ⟨l₂, rfl, h₂⟩⟩ := parts_eq_cons_iff.1 h₁
    · cases hnil
    obtain ⟨hz, hz', c, ⟨rfl, -⟩ | ⟨l₃, rfl, h₃⟩⟩ := parts_eq_cons_iff.1 h₂
    · refine ⟨⟨⟨hx, hx'⟩, ⟨hy, hy'⟩, hz, hz'⟩, a, b, c, 0, ?_⟩
      simp [List.replicate_succ]
    · obtain ⟨d, rfl⟩ := parts_eq_nil_iff.1 h₃
      refine ⟨⟨⟨hx, hx'⟩, ⟨hy, hy'⟩, hz, hz'⟩, a, b, c, d + 1, ?_⟩
      simp [List.replicate_succ]
  · rintro ⟨⟨⟨hx, hx'⟩, ⟨hy, hy'⟩, hz, hz'⟩, a, b, c, d, rfl⟩
    have hlast : parts (z ++ List.replicate d '$') = [z] := by
      cases d with
      | zero => simpa using parts_of_notMem hz hz'
      | succ d =>
        rw [List.replicate_succ, parts_append_dollar, parts_of_notMem hz hz',
          parts_eq_nil_iff.2 ⟨d, rfl⟩, List.append_nil]
    simp only [List.append_assoc, List.replicate_succ, List.cons_append, parts_replicate_append,
      parts_append_dollar, parts_of_notMem hx hx', parts_of_notMem hy hy', hlast]
    rfl

/-! ## The cost -/

/-- The texts that a cost is read from: digits that write it, with or
without a plus sign before them. -/
inductive SpellsCost (cost : Nat) : String → Prop
  | intro {sign digits : List Char} (hsign : sign = [] ∨ sign = ['+']) (hne : digits ≠ [])
      (hdigits : ∀ c ∈ digits, c.isDigit = true) (hcost : ofDigits 10 digits = cost) :
      SpellsCost cost (String.ofList (sign ++ digits))

/-- **Such a text is read as the cost**, and no other. -/
theorem decimalBelow?_eq_some_iff {bound n : Nat} {s : String} :
    decimalBelow? bound s = some n ↔ SpellsCost n s ∧ n < bound := by
  have hplus : '+'.isDigit = false := by decide
  unfold decimalBelow?
  rw [Option.filter_eq_some_iff, decide_eq_true_iff, decimal?_eq_some_iff]
  refine and_congr_left fun _ => ⟨fun h => ?_, ?_⟩
  · rw [← String.ofList_toList (s := s)]
    split at h
    · next digits heq =>
      obtain ⟨hne, hdigits, rfl⟩ := h
      rw [heq]
      exact .intro (.inr rfl) hne hdigits rfl
    · obtain ⟨hne, hdigits, rfl⟩ := h
      exact .intro (.inl rfl) hne hdigits rfl
  · rintro @⟨sign, digits, rfl | rfl, hne, hdigits, hcost⟩
    · rw [String.toList_ofList, List.nil_append]
      split
      · next rest => cases hplus.symm.trans (hdigits '+' List.mem_cons_self)
      · exact ⟨hne, hdigits, hcost.symm⟩
    · rw [String.toList_ofList]
      exact ⟨hne, hdigits, hcost.symm⟩

/-- A cost is not empty, and there is no dollar sign in it. -/
theorem SpellsCost.dollar_notMem {cost : Nat} {s : String} (h : SpellsCost cost s) :
    s.toList ≠ [] ∧ '$' ∉ s.toList := by
  obtain ⟨hsign, hne, hdigits, -⟩ := h
  have hdollar : '$'.isDigit = false := by decide
  rw [String.toList_ofList, List.mem_append, not_or]
  refine ⟨by simp [hne], by rcases hsign with rfl | rfl <;> decide, fun hmem => ?_⟩
  cases hdollar.symm.trans (hdigits _ hmem)

/-! ## The symbols -/

/-- The symbols of a hash are characters below 128, and no dollar sign is
among them. -/
theorem crypt_table : ∀ b ∈ Base64.crypt.table, b.toNat < 128 ∧ Char.ofNat b.toNat ≠ '$' := by
  decide +kernel

/-- The characters that bytes are written as. -/
theorem toList_encode (bytes : List UInt8) : (Base64.crypt.encode bytes).toList =
    (Base64.crypt.symbols bytes).map fun b => Char.ofNat b.toNat :=
  String.toList_ofList

theorem dollar_notMem_encode (bytes : List UInt8) :
    '$' ∉ (Base64.crypt.encode bytes).toList := by
  rw [toList_encode]
  intro h
  obtain ⟨b, hb, hdollar⟩ := List.mem_map.1 h
  exact (crypt_table b (Base64.Alphabet.mem_table_of_mem_symbols hb)).2 hdollar

theorem encode_crypt (bytes : List UInt8) :
    Utf8.encode (Base64.crypt.encode bytes) = Base64.crypt.symbols bytes :=
  Utf8.encode_ofList_map_ofNat fun b hb =>
    (crypt_table b (Base64.Alphabet.mem_table_of_mem_symbols hb)).1

/-- The 53 symbols of a salt and a digest. -/
theorem symbols_iff {rest : String} {salt digest : List UInt8} :
    ((Utf8.encode rest).length = 53 ∧
      Base64.crypt.decodeSymbols ((Utf8.encode rest).take 22) = .ok salt ∧
      Base64.crypt.decodeSymbols ((Utf8.encode rest).drop 22) = .ok digest) ↔
      rest = Base64.crypt.encode salt ++ Base64.crypt.encode digest ∧
        salt.length = 16 ∧ digest.length = 23 := by
  rw [Base64.Alphabet.decodeSymbols_eq_ok_iff Base64.pad_notMem_crypt,
    Base64.Alphabet.decodeSymbols_eq_ok_iff Base64.pad_notMem_crypt]
  have hencode : Utf8.encode (Base64.crypt.encode salt ++ Base64.crypt.encode digest) =
      Base64.crypt.symbols salt ++ Base64.crypt.symbols digest := by
    rw [Utf8.encode_append, encode_crypt, encode_crypt]
  constructor
  · rintro ⟨hlen, hsalt, hdigest⟩
    have hrest : Utf8.encode rest = Base64.crypt.symbols salt ++ Base64.crypt.symbols digest := by
      rw [← hsalt, ← hdigest, List.take_append_drop]
    have hsalt := congrArg List.length hsalt
    have hdigest := congrArg List.length hdigest
    rw [List.length_take, Base64.Alphabet.length_symbols] at hsalt
    rw [List.length_drop, Base64.Alphabet.length_symbols] at hdigest
    exact ⟨Utf8.encode_inj (hrest.trans hencode.symm), by omega, by omega⟩
  · rintro ⟨rfl, hsalt, hdigest⟩
    have hlen : (Base64.crypt.symbols salt).length = 22 := by
      rw [Base64.Alphabet.length_symbols, hsalt]
    have hlen' : (Base64.crypt.symbols digest).length = 31 := by
      rw [Base64.Alphabet.length_symbols, hdigest]
    rw [hencode]
    exact ⟨by rw [List.length_append, hlen, hlen'], List.take_left' hlen, List.drop_left' hlen⟩

/-! ## The form of a hash -/

theorem costAllowed_iff {cost : Nat} : costAllowed cost = true ↔ 4 ≤ cost ∧ cost ≤ 31 :=
  decide_eq_true_iff

/-- So many dollar signs. -/
def dollars (n : Nat) : String :=
  String.ofList (List.replicate n '$')

@[simp] theorem toList_dollars (n : Nat) : (dollars n).toList = List.replicate n '$' :=
  String.toList_ofList

/-- **The form of a hash** that has a certain record: a version, the cost,
22 symbols of the salt and 31 of the digest. One dollar sign or more stand
between two parts, and any number at the ends. -/
inductive Spells (r : Record) : String → Prop
  | intro (a b c d : Nat) {version cost : String} (hversion : version ∈ ["2a", "2b", "2x", "2y"])
      (hcost : SpellsCost r.cost cost) (hallowed : 4 ≤ r.cost ∧ r.cost ≤ 31)
      (hdigest : r.digest.length = 23) :
      Spells r (dollars a ++ version ++ dollars (b + 1) ++ cost ++ dollars (c + 1) ++
        (Base64.crypt.encode r.salt.toList ++ Base64.crypt.encode r.digest) ++ dollars d)

theorem Spells.allowed {r : Record} {s : String} (h : Spells r s) :
    (4 ≤ r.cost ∧ r.cost ≤ 31) ∧ r.digest.length = 23 := by
  obtain ⟨-, -, -, -, -, -, hallowed, hdigest⟩ := h
  exact ⟨hallowed, hdigest⟩

/-- What is asked of a text of three parts, part by part. -/
theorem ofString?_eq_some_iff_parts {s : String} {r : Record} : Record.ofString? s = some r ↔
    ∃ version cost rest : String, dollarParts s = [version.toList, cost.toList, rest.toList] ∧
      version ∈ ["2a", "2b", "2x", "2y"] ∧ decimalBelow? 0x100000000 cost = some r.cost ∧
      costAllowed r.cost = true ∧ (Utf8.encode rest).length = 53 ∧
      Base64.crypt.decodeSymbols ((Utf8.encode rest).take 22) = .ok r.salt.toList ∧
      Base64.crypt.decodeSymbols ((Utf8.encode rest).drop 22) = .ok r.digest := by
  have hok {α : Type} {x : Except Base64.DecodeError α} {a : α} :
      x.toOption = some a ↔ x = .ok a := by
    cases x <;> simp [Except.toOption]
  have hversion (v : String) : v.toList ∈ ["2a", "2b", "2x", "2y"].map String.toList ↔
      v ∈ ["2a", "2b", "2x", "2y"] :=
    List.mem_map_of_injective fun _ _ => String.toList_inj.1
  rw [Record.ofString?]
  constructor
  · intro h
    split at h
    · next version cost rest hparts =>
      obtain ⟨version, rfl⟩ : ∃ v : String, v.toList = version := ⟨_, String.toList_ofList⟩
      obtain ⟨cost, rfl⟩ : ∃ n : String, n.toList = cost := ⟨_, String.toList_ofList⟩
      obtain ⟨rest, rfl⟩ : ∃ t : String, t.toList = rest := ⟨_, String.toList_ofList⟩
      simp only [Option.bind_eq_bind, Option.bind_eq_some_iff, Option.guard_eq_some',
        exists_const, hversion, hok, String.ofList_toList] at h
      obtain ⟨hv, n, hn, hallowed, hlen, salt, hsalt, digest, hdigest, h⟩ := h
      split at h
      · next hsize =>
        cases h
        exact ⟨version, cost, rest, hparts, hv, hn, hallowed, hlen, hsalt, hdigest⟩
      · cases h
    · cases h
  · rintro ⟨version, cost, rest, hparts, hv, hn, hallowed, hlen, hsalt, hdigest⟩
    rw [hparts]
    simp only [Option.bind_eq_bind, Option.bind_eq_some_iff, Option.guard_eq_some',
      exists_const, hversion, hok, String.ofList_toList]
    refine ⟨hv, r.cost, hn, hallowed, hlen, _, hsalt, _, hdigest, ?_⟩
    have hbytes : r.salt.toList.toArray = r.salt.toArray := Array.toArray_toList
    simp [hbytes]

/-- **Texts in the form of a hash are read**, and no others. -/
theorem ofString?_eq_some_iff {s : String} {r : Record} :
    Record.ofString? s = some r ↔ Spells r s := by
  rw [ofString?_eq_some_iff_parts]
  constructor
  · rintro ⟨version, cost, rest, hparts, hversion, hcost, hallowed, hsymbols⟩
    obtain ⟨-, a, b, c, d, hs⟩ := parts_eq_three_iff.1 hparts
    obtain ⟨hspells, -⟩ := decimalBelow?_eq_some_iff.1 hcost
    obtain ⟨rfl, -, hdigest⟩ := symbols_iff.1 hsymbols
    have hs : s = dollars a ++ version ++ dollars (b + 1) ++ cost ++ dollars (c + 1) ++
        (Base64.crypt.encode r.salt.toList ++ Base64.crypt.encode r.digest) ++ dollars d :=
      String.toList_inj.1 (by simpa using hs)
    rw [hs]
    exact .intro a b c d hversion hspells (costAllowed_iff.1 hallowed) hdigest
  · rintro @⟨a, b, c, d, version, cost, hversion, hcost, hallowed, hdigest⟩
    have hsymbols := symbols_iff.2 ⟨rfl, r.salt.length_toList, hdigest⟩
    refine ⟨version, cost, _, parts_eq_three_iff.2 ⟨?_, a, b, c, d, by simp⟩, hversion,
      decimalBelow?_eq_some_iff.2 ⟨hcost, by omega⟩, costAllowed_iff.2 hallowed, hsymbols⟩
    have hversions : ∀ v ∈ ["2a", "2b", "2x", "2y"], v.toList ≠ [] ∧ '$' ∉ v.toList := by decide
    simp only [List.forall_mem_cons, List.not_mem_nil, false_implies, implies_true, and_true]
    refine ⟨hversions version hversion, hcost.dollar_notMem, fun hnil => ?_, ?_⟩
    · rw [String.toList_eq_nil_iff.1 hnil] at hsymbols
      cases hsymbols.1
    · rw [String.toList_append, List.mem_append, not_or]
      exact ⟨dollar_notMem_encode _, dollar_notMem_encode _⟩

/-! ## The text that is written -/

/-- The text that `hash` writes for a record. -/
def Record.text (r : Record) : String :=
  "$2b$" ++ twoDigits r.cost ++ "$" ++ Base64.crypt.encode r.salt.toList ++
    Base64.crypt.encode r.digest

/-- **A well-formed hash**: a version and a cost, each after a dollar sign,
the cost in two decimals, and after another one the symbols of a salt and a
digest. -/
def WellFormed (h : String) : Prop :=
  ∃ version ∈ ["2a", "2b", "2x", "2y"], ∃ r : Record, (4 ≤ r.cost ∧ r.cost ≤ 31) ∧
    r.digest.length = 23 ∧ h = "$" ++ version ++ "$" ++ twoDigits r.cost ++ "$" ++
      Base64.crypt.encode r.salt.toList ++ Base64.crypt.encode r.digest

/-- Two decimals are the digits of a cost. -/
theorem spellsCost_twoDigits {cost : Nat} (h : cost < 32) : SpellsCost cost (twoDigits cost) := by
  have hdigit : ∀ d < 10, (Nat.digitChar d).isDigit = true := by decide
  have hread : ∀ n < 32, ofDigits 10 [Nat.digitChar (n / 10), Nat.digitChar (n % 10)] = n := by
    decide
  refine .intro (.inl rfl) (by simp) (fun c hc => ?_) (hread cost h)
  rcases List.mem_pair.1 hc with rfl | rfl
  · exact hdigit _ (by omega)
  · exact hdigit _ (by omega)

/-- What has a version, the cost in two decimals and the symbols, each after
one dollar sign, is in the form of a hash. -/
theorem spells_of_version {version : String} (hversion : version ∈ ["2a", "2b", "2x", "2y"])
    {r : Record} (hallowed : 4 ≤ r.cost ∧ r.cost ≤ 31) (hdigest : r.digest.length = 23) :
    Spells r ("$" ++ version ++ "$" ++ twoDigits r.cost ++ "$" ++
      Base64.crypt.encode r.salt.toList ++ Base64.crypt.encode r.digest) := by
  have htext : "$" ++ version ++ "$" ++ twoDigits r.cost ++ "$" ++
      Base64.crypt.encode r.salt.toList ++ Base64.crypt.encode r.digest =
      dollars 1 ++ version ++ dollars (0 + 1) ++ twoDigits r.cost ++ dollars (0 + 1) ++
        (Base64.crypt.encode r.salt.toList ++ Base64.crypt.encode r.digest) ++ dollars 0 := by
    apply String.toList_inj.1
    simp
  rw [htext]
  exact .intro 1 0 0 0 hversion (spellsCost_twoDigits (by omega)) hallowed hdigest

/-- So is the text that is written. -/
theorem spells_text {r : Record} (hallowed : 4 ≤ r.cost ∧ r.cost ≤ 31)
    (hdigest : r.digest.length = 23) : Spells r r.text :=
  spells_of_version (by simp : "2b" ∈ _) hallowed hdigest

/-- And it has sixty characters. -/
theorem length_text {r : Record} (hdigest : r.digest.length = 23) : r.text.length = 60 := by
  have hopen : "$2b$".length = 4 := rfl
  have hsep : "$".length = 1 := rfl
  simp [Record.text, twoDigits, Base64.Alphabet.encode, Base64.Alphabet.length_symbols, hdigest,
    hopen, hsep]

/-! ## Well-formed hashes -/

/-- The text that is written is well formed. -/
theorem wellFormed_text {r : Record} (hallowed : 4 ≤ r.cost ∧ r.cost ≤ 31)
    (hdigest : r.digest.length = 23) : WellFormed r.text :=
  ⟨"2b", by simp, r, hallowed, hdigest, rfl⟩

/-- A well-formed hash has sixty characters. -/
theorem WellFormed.length {h : String} (hh : WellFormed h) : h.length = 60 := by
  obtain ⟨version, hversion, r, -, hdigest, rfl⟩ := hh
  have hlength : ∀ v ∈ ["2a", "2b", "2x", "2y"], v.length = 2 := by decide
  have hsep : "$".length = 1 := rfl
  simp [twoDigits, Base64.Alphabet.encode, Base64.Alphabet.length_symbols, hdigest,
    hlength version hversion, hsep]

/-- It is in the form of a hash. -/
theorem WellFormed.exists_spells {h : String} (hh : WellFormed h) : ∃ r, Spells r h := by
  obtain ⟨version, hversion, r, hallowed, hdigest, rfl⟩ := hh
  exact ⟨r, spells_of_version hversion hallowed hdigest⟩

end Bcrypt

end SignOn
