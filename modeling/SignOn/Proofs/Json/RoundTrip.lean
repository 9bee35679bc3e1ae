import Mathlib.Data.List.TakeDrop
import SignOn.Json.Reader
import SignOn.Json.Writer
import SignOn.Proofs.Text.Ascii
import SignOn.Proofs.Text.Decimal
import SignOn.Proofs.Text.Utf8
/-!
# Reading back what is written

`Json.read` gives back every value that `Json.write` can write in full:
one without fractional numbers and without unreadable strings. The
reader is followed along the characters of the value, with whatever may
come after it, since a value inside a list or an object is followed by
more text.
-/

namespace SignOn

namespace Json

open Utf8

/-! ## Strings -/

/-- A reader between two characters of a string, with nothing spoiled. -/
abbrev Scan.between (bytes : List UInt8) : Scan :=
  ⟨.plain, bytes, none, true⟩

/-- Bytes that stand for themselves are taken over. -/
theorem readString_plain {bs : List UInt8}
    (h : ∀ b ∈ bs, b ≠ 0x22 ∧ b ≠ 0x5c ∧ 0x20 ≤ b) (acc rest : List UInt8) :
    readString (.between acc) (bs ++ rest) = readString (.between (bs.reverse ++ acc)) rest := by
  induction bs generalizing acc with
  | nil => rfl
  | cons b bs ih =>
    obtain ⟨hquote, hslash, hctl⟩ := h b List.mem_cons_self
    have hlt : ¬ b < 0x20 := UInt8.not_lt.2 hctl
    rw [List.cons_append, readString]
    simp only [beq_iff_eq, hquote, hslash, hlt, if_false]
    have := ih (fun d hd => h d (List.mem_cons_of_mem _ hd)) (b :: acc)
    simpa [Scan.plain] using this

/-- An escape of one letter stands for its character. -/
theorem readString_escape {b : UInt8} {c : Char} (hb : b ≠ 0x75) (h : simpleEscape? b = some c)
    (acc rest : List UInt8) :
    readString (.between acc) (0x5c :: b :: rest) =
      readString (.between ((String.utf8EncodeChar c).reverse ++ acc)) rest := by
  rw [readString]
  simp only [beq_iff_eq]
  rw [if_neg (by decide), if_pos trivial, readString]
  simp [Scan.escape, hb, h, Scan.push]

theorem hexValue?_hexDigit : ∀ n < 16,
    hexValue? (Char.ofNat (UInt8.ofNat (hexDigit n).toNat).toNat) = some n := by
  decide

theorem hexDigit_lt : ∀ n < 16, (hexDigit n).toNat < 128 := by
  decide

/-- A digit of a four-digit escape that is not the last one. -/
theorem readString_digit {b : UInt8} {v : Nat} (h : hexValue? (Char.ofNat b.toNat) = some v)
    (digits value : Nat) (acc rest : List UInt8) :
    readString ⟨.code (digits + 2) value, acc, none, true⟩ (b :: rest) =
      readString ⟨.code (digits + 1) (16 * value + v), acc, none, true⟩ rest := by
  rw [readString]
  simp [Scan.digit, h]

/-- The last digit of a four-digit escape. -/
theorem readString_lastDigit {b : UInt8} {v : Nat} (h : hexValue? (Char.ofNat b.toNat) = some v)
    (value : Nat) (acc rest : List UInt8) :
    readString ⟨.code 1 value, acc, none, true⟩ (b :: rest) =
      readString (Scan.pushCode ⟨.code 1 value, acc, none, true⟩ (16 * value + v)) rest := by
  rw [readString]
  simp [Scan.digit, h]

/-- An escape of four digits stands for a control character. -/
theorem readString_code {c : Char} (h : c.toNat < 0x20) (acc rest : List UInt8) :
    readString (.between acc) (0x5c :: 0x75 :: 0x30 :: 0x30 ::
        UInt8.ofNat (hexDigit (c.toNat / 16)).toNat ::
        UInt8.ofNat (hexDigit (c.toNat % 16)).toNat :: rest) =
      readString (.between ((String.utf8EncodeChar c).reverse ++ acc)) rest := by
  have h₁ := hexValue?_hexDigit (c.toNat / 16) (by omega)
  have h₀ := hexValue?_hexDigit (c.toNat % 16) (by omega)
  have hzero : hexValue? (Char.ofNat (0x30 : UInt8).toNat) = some 0 := by decide
  have hsum : 16 * (16 * (16 * (16 * 0 + 0) + 0) + c.toNat / 16) + c.toNat % 16 = c.toNat := by
    omega
  rw [readString]
  simp only [beq_iff_eq]
  rw [if_neg (by decide), if_pos trivial, readString]
  simp only [Scan.escape, beq_self_eq_true, if_true]
  rw [readString_digit hzero 2 0, readString_digit hzero 1, readString_digit h₁ 0,
    readString_lastDigit h₀, hsum]
  have hlow : ¬ (0xD800 ≤ c.toNat ∧ c.toNat < 0xDC00) := by omega
  have hhigh : ¬ (0xDC00 ≤ c.toNat ∧ c.toNat < 0xE000) := by omega
  rw [Scan.pushCode, if_neg hlow, if_neg hhigh]
  simp [Scan.push]

theorem readString_ofChars_escape {e c : Char} (he : e.toNat < 128)
    (hb : UInt8.ofNat e.toNat ≠ 0x75) (h : simpleEscape? (UInt8.ofNat e.toNat) = some c)
    (acc rest : List UInt8) :
    readString (.between acc) (ofChars ['\\', e] ++ rest) =
      readString (.between ((String.utf8EncodeChar c).reverse ++ acc)) rest := by
  rw [ofChars_cons_of_lt (by decide), ofChars_cons_of_lt he]
  exact readString_escape hb h acc rest

/-- A character that is not escaped stands for itself. -/
theorem readString_ofChars_self {c : Char} (hquote : c ≠ '"') (hslash : c ≠ '\\')
    (hctl : ¬ c.toNat < 0x20) (acc rest : List UInt8) :
    readString (.between acc) (ofChars [c] ++ rest) =
      readString (.between ((String.utf8EncodeChar c).reverse ++ acc)) rest := by
  rw [ofChars_cons, ofChars_nil, List.append_nil]
  refine readString_plain (fun b hb => ?_) acc rest
  have hne {d : Char} (hd : c ≠ d) : c.toNat ≠ d.toNat := fun he => hd (Char.toNat_inj.1 he)
  by_cases hlt : c.toNat < 128
  · rw [utf8EncodeChar_of_lt hlt, List.mem_singleton] at hb
    have hnat : b.toNat = c.toNat := by
      rw [hb, UInt8.toNat_ofNat']
      omega
    have hq : c.toNat ≠ 34 := hne hquote
    have hs : c.toNat ≠ 92 := hne hslash
    refine ⟨fun he => hq ?_, fun he => hs ?_, UInt8.le_iff_toNat_le.2 ?_⟩
    · rw [← hnat, he]
      rfl
    · rw [← hnat, he]
      rfl
    · show 32 ≤ b.toNat
      omega
  · have hle := le_of_mem_utf8EncodeChar (by omega) hb
    refine ⟨?_, ?_, UInt8.le_iff_toNat_le.2 ?_⟩
    · rintro rfl
      exact absurd hle (by decide)
    · rintro rfl
      exact absurd hle (by decide)
    · show 32 ≤ b.toNat
      omega

/-- **A written character is read back.** -/
theorem readString_escapeChar (c : Char) (acc rest : List UInt8) :
    readString (.between acc) (ofChars (escapeChar c) ++ rest) =
      readString (.between ((String.utf8EncodeChar c).reverse ++ acc)) rest := by
  have hletter {e : Char} (he : e.toNat < 128) (hb : UInt8.ofNat e.toNat ≠ 0x75)
      (h : simpleEscape? (UInt8.ofNat e.toNat) = some c) :=
    readString_ofChars_escape he hb h acc rest
  unfold escapeChar
  split_ifs with hquote hslash hbs hff hlf hcr htab hctl
  · exact hletter (by decide) (by decide) (by rw [hquote]; decide)
  · exact hletter (by decide) (by decide) (by rw [hslash]; decide)
  · exact hletter (by decide) (by decide) (by rw [hbs]; decide)
  · exact hletter (by decide) (by decide) (by rw [hff]; decide)
  · exact hletter (by decide) (by decide) (by rw [hlf]; decide)
  · exact hletter (by decide) (by decide) (by rw [hcr]; decide)
  · exact hletter (by decide) (by decide) (by rw [htab]; decide)
  · rw [ofChars_cons_of_lt (by decide), ofChars_cons_of_lt (by decide),
      ofChars_cons_of_lt (by decide), ofChars_cons_of_lt (by decide),
      ofChars_cons_of_lt (hexDigit_lt _ (by omega)), ofChars_cons_of_lt (hexDigit_lt _ (by omega))]
    exact readString_code hctl acc rest
  · exact readString_ofChars_self hquote hslash hctl acc rest

theorem readString_flatMap_escapeChar (cs : List Char) (acc rest : List UInt8) :
    readString (.between acc) (ofChars (cs.flatMap escapeChar) ++ rest) =
      readString (.between ((ofChars cs).reverse ++ acc)) rest := by
  induction cs generalizing acc with
  | nil => rfl
  | cons c cs ih =>
    rw [List.flatMap_cons, ofChars_append, List.append_assoc, readString_escapeChar, ih,
      ofChars_cons, List.reverse_append, List.append_assoc]

/-- **A written string is read back.** -/
theorem readString_quoted (s : String) (rest : List UInt8) :
    readString .start (ofChars (s.toList.flatMap escapeChar ++ ['"']) ++ rest) =
      some (some s, rest) := by
  have htext : Scan.text (.between (ofChars s.toList).reverse) = some s := by
    simp [Scan.text, ← encode_eq_ofChars, decode_encode]
  rw [ofChars_append, List.append_assoc]
  refine (readString_flatMap_escapeChar s.toList [] _).trans ?_
  rw [List.append_nil, ofChars_cons_of_lt (by decide), ofChars_nil]
  rw [List.cons_append, readString]
  simp only [beq_iff_eq]
  rw [if_pos (by decide), htext, List.nil_append]

/-! ## Numbers -/

/-- What may follow a number: nothing that would carry it on. -/
def EndsNumber (rest : List UInt8) : Prop :=
  ∀ b ∈ rest.head?, isDigit b = false ∧ b ≠ 0x2e ∧ b ≠ 0x65 ∧ b ≠ 0x45

/-- The bytes of a number are the digits of it. -/
theorem ofChars_toDigits (n : Nat) :
    ofChars (Nat.toDigits 10 n) = (Nat.toDigits 10 n).map fun c => UInt8.ofNat c.toNat := by
  refine ofChars_of_forall_lt fun c hc => ?_
  have := Ascii.isDigit_iff.1 (isDigit_of_mem_toDigits hc)
  omega

theorem isDigit_of_mem_ofChars_toDigits {n : Nat} {b : UInt8}
    (h : b ∈ ofChars (Nat.toDigits 10 n)) : isDigit b = true := by
  rw [ofChars_toDigits, List.mem_map] at h
  obtain ⟨c, hc, rfl⟩ := h
  have := Ascii.isDigit_iff.1 (isDigit_of_mem_toDigits hc)
  have hnat : (UInt8.ofNat c.toNat).toNat = c.toNat := by
    rw [UInt8.toNat_ofNat']
    omega
  simp only [isDigit, Bool.and_eq_true, decide_eq_true_eq, UInt8.le_iff_toNat_le, hnat]
  exact this

theorem digitsValue_ofChars_toDigits (n : Nat) :
    digitsValue (ofChars (Nat.toDigits 10 n)) = n := by
  have hstep {c : Char} (hc : c ∈ Nat.toDigits 10 n) :
      (UInt8.ofNat c.toNat).toNat - 48 = c.toNat - 48 := by
    have := Ascii.isDigit_iff.1 (isDigit_of_mem_toDigits hc)
    rw [UInt8.toNat_ofNat']
    omega
  have hfold {cs : List Char} (h : ∀ c ∈ cs, c ∈ Nat.toDigits 10 n) (m : Nat) :
      (cs.map fun c => UInt8.ofNat c.toNat).foldl (fun n b => 10 * n + (b.toNat - 48)) m =
        Nat.ofDigitChars 10 cs m := by
    induction cs generalizing m with
    | nil => simp
    | cons c cs ih =>
      rw [List.map_cons, List.foldl_cons, hstep (h c List.mem_cons_self),
        ih fun d hd => h d (List.mem_cons_of_mem _ hd), Nat.ofDigitChars_cons]
      rfl
  rw [digitsValue, ofChars_toDigits, hfold fun c hc => hc]
  exact Nat.ofDigitChars_ten_toDigits

theorem spanDigits_append {ds rest : List UInt8} (hds : ∀ b ∈ ds, isDigit b = true)
    (hrest : EndsNumber rest) : spanDigits (ds ++ rest) = (ds, rest) := by
  have htake : rest.takeWhile isDigit = [] := by
    cases rest with
    | nil => rfl
    | cons b bs => exact List.takeWhile_cons_of_neg (by simp [(hrest b rfl).1])
  have hdrop : rest.dropWhile isDigit = rest := by
    cases rest with
    | nil => rfl
    | cons b bs => exact List.dropWhile_cons_of_neg (by simp [(hrest b rfl).1])
  rw [spanDigits, List.span_eq_takeWhile_dropWhile, List.takeWhile_append_of_pos hds,
    List.dropWhile_append_of_pos hds, htake, hdrop, List.append_nil]

theorem readInteger_toDigits (n : Nat) {rest : List UInt8} (hrest : EndsNumber rest) :
    readInteger (ofChars (Nat.toDigits 10 n) ++ rest) =
      some (ofChars (Nat.toDigits 10 n), rest) := by
  rw [readInteger, spanDigits_append (fun b => isDigit_of_mem_ofChars_toDigits) hrest]
  split
  · next _ h =>
    obtain ⟨hnil, -⟩ := Prod.mk.inj h
    rw [ofChars_toDigits, List.map_eq_nil_iff] at hnil
    exact absurd hnil Nat.toDigits_ne_nil
  · -- a zero in front is the whole number
    next b bs _ h =>
    obtain ⟨hcons, -⟩ := Prod.mk.inj h
    rw [ofChars_toDigits] at hcons
    obtain ⟨c, cs, hcs, hc, htail⟩ := List.map_eq_cons_iff.1 hcons
    have hdigit := Ascii.isDigit_iff.1 (Nat.isDigit_of_mem_toDigits (n := n) (b := 10)
      (by decide) (by decide) (by rw [hcs]; exact List.mem_cons_self))
    have hnat : c.toNat = 48 := by
      have := congrArg UInt8.toNat hc
      rw [UInt8.toNat_ofNat'] at this
      change _ = 48 at this
      omega
    have hzero : c = '0' := Char.toNat_inj.1 hnat
    rw [hzero] at hcs
    rw [eq_zero_of_toDigits_cons hcs] at hcs
    rw [(List.cons.inj hcs).2.symm] at htail
    cases htail
  · next ds tail _ _ h =>
    obtain ⟨rfl, rfl⟩ := Prod.mk.inj h
    rfl

/-- **A written number is read back.** -/
theorem readNumber_toDigits {negative : Bool} {n : Nat} (hn : ¬ (negative = true ∧ n = 0))
    {rest : List UInt8} (hrest : EndsNumber rest) :
    readNumber negative (ofChars (Nat.toDigits 10 n) ++ rest) =
      some (.whole (if negative then - (n : Int) else n), rest) := by
  have hfraction : readFraction rest = some ([], rest) := by
    cases rest with
    | nil => rfl
    | cons b bs =>
      unfold readFraction
      split
      · next h => exact absurd (List.cons.inj h).1 (hrest b rfl).2.1
      · rfl
  have hexponent : readExponent rest = some ([], rest) := by
    cases rest with
    | nil => rfl
    | cons b bs => simp [readExponent, (hrest b rfl).2.2.1, (hrest b rfl).2.2.2]
  rw [readNumber, readInteger_toDigits n hrest]
  simp only [Option.bind_eq_bind, Option.bind_some, hfraction, hexponent,
    digitsValue_ofChars_toDigits]
  rw [if_pos ⟨trivial, trivial, hn⟩]
  rfl

/-! ## Values -/

mutual

/-- The values that are written in full: every number is whole, every
string readable. -/
def Plain : Json → Prop
  | .fractional _ => False
  | .text s => s.isSome
  | .list items => PlainItems items
  | .object members => PlainMembers members
  | _ => True

/-- Every item is plain. -/
def PlainItems : List Json → Prop
  | [] => True
  | v :: vs => Plain v ∧ PlainItems vs

/-- Every member is plain and has a readable name. -/
def PlainMembers : List (Option String × Json) → Prop
  | [] => True
  | (name, v) :: ms => name.isSome ∧ Plain v ∧ PlainMembers ms

end

theorem skipBlanks_cons {b : UInt8} (h : isBlank b = false) (bs : List UInt8) :
    skipBlanks (b :: bs) = b :: bs :=
  List.dropWhile_cons_of_neg (by simp [h])

theorem joined_cons_cons (p q : List Char) (ps : List (List Char)) :
    joined (p :: q :: ps) = p ++ ',' :: joined (q :: ps) := rfl

theorem endsNumber_cons {b : UInt8} (h : isDigit b = false ∧ b ≠ 0x2e ∧ b ≠ 0x65 ∧ b ≠ 0x45)
    (rest : List UInt8) : EndsNumber (b :: rest) := by
  rintro _ ⟨⟩
  exact h

theorem ofChars_quoted (s : String) :
    ofChars (quoted s) = 0x22 :: ofChars (s.toList.flatMap escapeChar ++ ['"']) :=
  ofChars_cons_of_lt (by decide) _

/-- The first digit of a number. -/
theorem ofChars_toDigits_cons (n : Nat) :
    ∃ b bs, ofChars (Nat.toDigits 10 n) = b :: bs ∧ isDigit b = true := by
  obtain ⟨c, cs, h⟩ := List.exists_cons_of_ne_nil (Nat.toDigits_ne_nil (n := n) (b := 10))
  refine ⟨UInt8.ofNat c.toNat, cs.map fun c => UInt8.ofNat c.toNat, ?_, ?_⟩
  · rw [ofChars_toDigits, h, List.map_cons]
  · refine isDigit_of_mem_ofChars_toDigits (n := n) ?_
    rw [ofChars_toDigits, h, List.map_cons]
    exact List.mem_cons_self

theorem digit_bounds {b : UInt8} (h : isDigit b = true) : 48 ≤ b.toNat ∧ b.toNat ≤ 57 := by
  simp only [isDigit, Bool.and_eq_true, decide_eq_true_eq, UInt8.le_iff_toNat_le] at h
  exact h

/-- A digit is none of the other characters that a reader tells apart. -/
theorem ne_of_isDigit {b d : UInt8} (h : isDigit b = true) (hd : d.toNat < 48 ∨ 57 < d.toNat) :
    b ≠ d := by
  rintro rfl
  have := digit_bounds h
  omega

theorem isBlank_of_isDigit {b : UInt8} (h : isDigit b = true) : isBlank b = false := by
  simp [isBlank, ne_of_isDigit h (d := 0x20) (by decide), ne_of_isDigit h (d := 0x09) (by decide),
    ne_of_isDigit h (d := 0x0a) (by decide), ne_of_isDigit h (d := 0x0d) (by decide)]

/-- A value starts with no blank and no closing bracket. -/
theorem ofChars_chars_cons {v : Json} (h : Plain v) :
    ∃ b bs, ofChars (chars v) = b :: bs ∧ isBlank b = false ∧ b ≠ 0x5d := by
  cases v with
  | null => exact ⟨_, _, rfl, by decide, by decide⟩
  | bool b => cases b <;> exact ⟨_, _, rfl, by decide, by decide⟩
  | whole n =>
    unfold chars decimalChars
    split_ifs
    · exact ⟨_, _, ofChars_cons_of_lt (by decide) _, by decide, by decide⟩
    · obtain ⟨b, bs, hbs, hb⟩ := ofChars_toDigits_cons n.natAbs
      exact ⟨b, bs, hbs, isBlank_of_isDigit hb, ne_of_isDigit hb (by decide)⟩
  | fractional lexeme => exact absurd h (by simp [Plain])
  | text s => exact ⟨_, _, ofChars_quoted _, by decide, by decide⟩
  | list items => exact ⟨_, _, ofChars_cons_of_lt (by decide) _, by decide, by decide⟩
  | object members => exact ⟨_, _, ofChars_cons_of_lt (by decide) _, by decide, by decide⟩

/-- A value is at least one character. -/
theorem one_le_length_chars {v : Json} (h : Plain v) : 1 ≤ (chars v).length := by
  obtain ⟨b, bs, hbs, -⟩ := ofChars_chars_cons h
  cases hcs : chars v with
  | nil => simp [hcs] at hbs
  | cons c cs => simp

/-- Reading a number that stands at the front. -/
theorem readValue_whole (n : Int) (fuel : Nat) {rest : List UInt8} (hrest : EndsNumber rest) :
    readValue (fuel + 1) (ofChars (chars (.whole n)) ++ rest) = some (.whole n, rest) := by
  unfold chars decimalChars
  split_ifs with hneg
  · rw [ofChars_cons_of_lt (by decide), List.cons_append, readValue,
      skipBlanks_cons (by decide)]
    simp only [beq_iff_eq]
    rw [if_neg (by decide), if_neg (by decide), readLeaf]
    simp only [beq_iff_eq]
    rw [if_neg (by decide), if_pos (by decide), readNumber_toDigits (by omega) hrest, if_pos rfl]
    congr 3
    omega
  · obtain ⟨b, bs, hbs, hb⟩ := ofChars_toDigits_cons n.natAbs
    have hread := readNumber_toDigits (show ¬ (false = true ∧ n.natAbs = 0) by simp) hrest
    rw [hbs, List.cons_append] at hread ⊢
    rw [readValue, skipBlanks_cons (isBlank_of_isDigit hb)]
    simp only [beq_iff_eq]
    rw [if_neg (ne_of_isDigit hb (by decide)), if_neg (ne_of_isDigit hb (by decide)), readLeaf]
    simp only [beq_iff_eq]
    rw [if_neg (ne_of_isDigit hb (by decide)), if_neg (ne_of_isDigit hb (by decide)), if_pos hb,
      hread]
    simp only [Bool.false_eq_true, if_false]
    congr 3
    omega

/-- Reading a value that is no list and no object, from its first byte. -/
theorem readValue_leaf {b : UInt8} (hblank : isBlank b = false) (hlist : b ≠ 0x5b)
    (hobject : b ≠ 0x7b) (fuel : Nat) (rest : List UInt8) :
    readValue (fuel + 1) (b :: rest) = readLeaf b rest := by
  rw [readValue, skipBlanks_cons hblank]
  simp only [beq_iff_eq, hlist, hobject, if_false]

/-- Reading a list that is not empty goes on to its items. -/
theorem readValue_items {b : UInt8} (hblank : isBlank b = false) (hend : b ≠ 0x5d)
    (fuel : Nat) (rest : List UInt8) :
    readValue (fuel + 1) (0x5b :: b :: rest) =
      (readItems fuel (b :: rest)).map fun (items, rest) => (.list items, rest) := by
  rw [readValue, skipBlanks_cons (by decide)]
  simp only [beq_self_eq_true, if_true, skipBlanks_cons hblank]
  split
  · next h => exact absurd (List.cons.inj h).1 hend
  · rfl

/-- Reading an object that is not empty goes on to its members. -/
theorem readValue_members (fuel : Nat) (rest : List UInt8) :
    readValue (fuel + 1) (0x7b :: 0x22 :: rest) =
      (readMembers fuel (0x22 :: rest)).map fun (members, rest) => (.object members, rest) := by
  rw [readValue, skipBlanks_cons (by decide)]
  simp only [beq_iff_eq]
  rw [if_neg (by decide), if_pos trivial, skipBlanks_cons (by decide)]
  rfl

/-- The characters of a member. -/
theorem charsOfMembers_cons (name : String) (v : Json) (ms : List (Option String × Json)) :
    charsOfMembers ((some name, v) :: ms) =
      (quoted name ++ ':' :: chars v) :: charsOfMembers ms := by
  rw [charsOfMembers, Option.getD_some]

/-- Reading a member whose value is read back. -/
theorem readMembers_member (name : String) {v : Json} {fuel : Nat} {after : List UInt8}
    (h : readValue fuel (ofChars (chars v) ++ after) = some (v, after)) :
    readMembers (fuel + 1) (ofChars (quoted name ++ ':' :: chars v) ++ after) =
      match skipBlanks after with
      | 0x2c :: rest =>
        (readMembers fuel rest).map fun (members, rest) => ((some name, v) :: members, rest)
      | 0x7d :: rest => some ([(some name, v)], rest)
      | _ => none := by
  have hcolon : ofChars (quoted name ++ ':' :: chars v) ++ after =
      0x22 :: (ofChars (name.toList.flatMap escapeChar ++ ['"']) ++
        0x3a :: (ofChars (chars v) ++ after)) := by
    rw [ofChars_append, ofChars_quoted, ofChars_cons_of_lt (by decide), List.cons_append,
      List.cons_append, List.append_assoc]
    rfl
  rw [hcolon, readMembers, skipBlanks_cons (by decide)]
  simp only [readString_quoted, skipBlanks_cons (b := 0x3a) (by decide)]
  rewrite [h]
  rfl

mutual

/-- A value is read back, whatever comes after it. -/
theorem readValue_chars (v : Json) (hv : Plain v) (fuel : Nat)
    (hfuel : 2 * (chars v).length ≤ fuel) (rest : List UInt8) (hrest : EndsNumber rest) :
    readValue fuel (ofChars (chars v) ++ rest) = some (v, rest) := by
  -- the value takes one step, and its brackets pay for the list inside it
  have hpos := one_le_length_chars hv
  obtain ⟨fuel, rfl⟩ : ∃ n, fuel = n + 1 := ⟨fuel - 1, by omega⟩
  match v, hv with
  | .null, _ => exact readValue_leaf (by decide) (by decide) (by decide) fuel _
  | .bool true, _ => exact readValue_leaf (by decide) (by decide) (by decide) fuel _
  | .bool false, _ => exact readValue_leaf (by decide) (by decide) (by decide) fuel _
  | .whole n, _ => exact readValue_whole n fuel hrest
  | .text (some s), _ =>
    rw [chars, Option.getD_some, ofChars_quoted, List.cons_append,
      readValue_leaf (by decide) (by decide) (by decide), readLeaf]
    rw [if_pos (by decide), readString_quoted]
    rfl
  | .list [], _ =>
    rw [chars]
    rfl
  | .list (v :: vs), hv =>
    rw [chars, List.cons_append, List.length_cons, List.length_append, List.length_singleton]
      at hfuel
    have hitems := readItems_chars (v :: vs) hv (by simp) fuel (by omega) rest
    obtain ⟨b, bs, hbs, hblank, hend⟩ := ofChars_chars_cons hv.1
    rw [chars, List.cons_append, ofChars_cons_of_lt (by decide), ofChars_append, List.cons_append,
      List.append_assoc, ofChars_cons_of_lt (by decide), ofChars_nil, List.singleton_append]
    rw [charsOfItems, joined, ofChars_append, hbs, List.cons_append, List.cons_append]
      at hitems ⊢
    exact (readValue_items hblank hend fuel _).trans (congrArg (Option.map _) hitems)
  | .object [], _ =>
    rw [chars]
    rfl
  | .object ((some name, v) :: ms), hv =>
    rw [chars, List.cons_append, List.length_cons, List.length_append, List.length_singleton]
      at hfuel
    have hmembers := readMembers_chars ((some name, v) :: ms) hv (by simp) fuel (by omega) rest
    rw [chars, List.cons_append, ofChars_cons_of_lt (by decide), ofChars_append, List.cons_append,
      List.append_assoc, ofChars_cons_of_lt (by decide), ofChars_nil, List.singleton_append]
    rw [charsOfMembers_cons, joined, ofChars_append, ofChars_append, ofChars_quoted,
      List.cons_append, List.cons_append, List.cons_append] at hmembers ⊢
    exact (readValue_members fuel _).trans (congrArg (Option.map _) hmembers)

/-- The items of a list are read back, up to the closing bracket. -/
theorem readItems_chars (items : List Json) (hitems : PlainItems items) (hne : items ≠ [])
    (fuel : Nat) (hfuel : 2 * (joined (charsOfItems items)).length + 1 ≤ fuel)
    (rest : List UInt8) :
    readItems fuel (ofChars (joined (charsOfItems items)) ++ 0x5d :: rest) =
      some (items, rest) := by
  obtain ⟨fuel, rfl⟩ : ∃ n, fuel = n + 1 := ⟨fuel - 1, by omega⟩
  match items, hitems with
  | [], _ => exact absurd rfl hne
  | [v], hitems =>
    have hjoined : joined (charsOfItems [v]) = chars v := by
      simp [charsOfItems, joined]
    rw [hjoined] at hfuel ⊢
    rw [readItems, readValue_chars v hitems.1 fuel (by omega) _ (endsNumber_cons (by decide) _)]
    rfl
  | v :: w :: ws, hitems =>
    have hjoined : joined (charsOfItems (v :: w :: ws)) =
        chars v ++ ',' :: joined (charsOfItems (w :: ws)) := joined_cons_cons _ _ _
    rw [hjoined] at hfuel ⊢
    rw [List.length_append, List.length_cons] at hfuel
    have hrest := readItems_chars (w :: ws) hitems.2 (by simp) fuel (by omega) rest
    rw [ofChars_append, ofChars_cons_of_lt (by decide), List.append_assoc, List.cons_append,
      readItems, readValue_chars v hitems.1 fuel (by omega) _ (endsNumber_cons (by decide) _)]
    exact congrArg (Option.map _) hrest

/-- The members of an object are read back, up to the closing brace. -/
theorem readMembers_chars (members : List (Option String × Json)) (hmembers : PlainMembers members)
    (hne : members ≠ []) (fuel : Nat)
    (hfuel : 2 * (joined (charsOfMembers members)).length + 1 ≤ fuel) (rest : List UInt8) :
    readMembers fuel (ofChars (joined (charsOfMembers members)) ++ 0x7d :: rest) =
      some (members, rest) := by
  obtain ⟨fuel, rfl⟩ : ∃ n, fuel = n + 1 := ⟨fuel - 1, by omega⟩
  match members, hmembers with
  | [], _ => exact absurd rfl hne
  | [(some name, v)], hmembers =>
    have hjoined : joined (charsOfMembers [(some name, v)]) = quoted name ++ ':' :: chars v := by
      simp [charsOfMembers, joined]
    rw [hjoined] at hfuel ⊢
    rw [List.length_append, List.length_cons] at hfuel
    have hvalue := readValue_chars v hmembers.2.1 fuel (by omega) (0x7d :: rest)
      (endsNumber_cons (by decide) _)
    exact readMembers_member name hvalue
  | (some name, v) :: m :: ms, hmembers =>
    have hjoined : joined (charsOfMembers ((some name, v) :: m :: ms)) =
        (quoted name ++ ':' :: chars v) ++ ',' :: joined (charsOfMembers (m :: ms)) :=
      joined_cons_cons _ _ _
    rw [hjoined] at hfuel ⊢
    rw [List.length_append, List.length_append, List.length_cons, List.length_cons] at hfuel
    have hrest := readMembers_chars (m :: ms) hmembers.2.2 (by simp) fuel (by omega) rest
    rw [ofChars_append, ofChars_cons_of_lt (by decide), List.append_assoc, List.cons_append]
    refine (readMembers_member name (readValue_chars v hmembers.2.1 fuel (by omega) _
      (endsNumber_cons (by decide) _))).trans ?_
    exact congrArg (Option.map _) hrest

end

/-- **What is written is read back.** -/
theorem read_encode_write {v : Json} (h : Plain v) : read (encode (write v)) = some v := by
  -- the reader's fuel counts bytes, of which there are no fewer than characters
  have hle : (chars v).length ≤ (ofChars (chars v)).length := length_le_length_ofChars _
  have hread := readValue_chars v h (2 * (ofChars (chars v)).length + 2) (by omega) []
    (by rintro _ ⟨⟩)
  rw [List.append_nil] at hread
  rw [write, encode_ofList, read, hread]
  rfl

end Json

end SignOn
