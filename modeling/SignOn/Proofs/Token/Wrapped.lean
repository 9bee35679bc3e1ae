import SignOn.Proofs.Codec.Bits
import SignOn.Proofs.Text.Ascii
import SignOn.Proofs.Token.Signed
import SignOn.Token.Wrapped
/-!
# The opaque form is exact

A text is the opaque form of at most one list of bytes, and a list of bytes
has one opaque form only, so that no other way to write a token is accepted
in its place. What the form is, which texts are one, and when the bytes are
a text again is `Wrapped.opaque_form_exact`.
-/

namespace SignOn

namespace Wrapped

variable {token t : String} {bytes : List UInt8} {c : Char}

/-- The bytes of an opaque form. -/
theorem utf8_encode (bytes : List UInt8) :
    Utf8.encode (encode bytes) = Base64.url.symbols bytes :=
  Utf8.encode_ofList_map_ofNat Signed.symbols_lt

/-- A text is the opaque form of bytes exactly if its own bytes are their
symbols. -/
theorem eq_encode_iff : token = encode bytes ↔ Utf8.encode token = Base64.url.symbols bytes := by
  rw [← utf8_encode]
  exact ⟨congrArg Utf8.encode, Utf8.encode_inj⟩

/-- **A text is read as bytes exactly if it is their opaque form.** -/
theorem decode_eq_ok_iff : decode token = .ok bytes ↔ token = encode bytes := by
  rw [eq_encode_iff, ← Base64.Alphabet.decodeSymbols_eq_ok_iff Base64.pad_notMem_url, decode,
    Base64.Alphabet.decode]
  cases Base64.url.decodeSymbols (Utf8.encode token) <;> simp

/-- A text that is not read is refused as malformed. -/
theorem exists_malformed_iff :
    (∃ cause, decode token = .error (.malformed cause)) ↔ ∀ bytes, decode token ≠ .ok bytes := by
  unfold decode
  cases Base64.url.decode token <;> simp

/-- **A text is read as an opaque form exactly if it is the one.** -/
theorem decodeString_eq_ok_iff : decodeString token = .ok t ↔ token = encodeString t := by
  rw [decodeString, bind_eq_ok_iff]
  constructor
  · rintro ⟨bytes, hbytes, ht⟩
    split at ht
    · next t' htext =>
      obtain rfl := Except.ok.inj ht
      rw [decode_eq_ok_iff.1 hbytes, Utf8.decode_eq_some_iff.1 htext]
      rfl
    · cases ht
  · rintro rfl
    refine ⟨Utf8.encode t, decode_eq_ok_iff.2 rfl, ?_⟩
    rw [Utf8.decode_encode]

/-- Bytes that are no text are refused as such, and nothing else is. -/
theorem decodeString_eq_notText_iff : decodeString token = .error .notText ↔
    ∃ bytes, token = encode bytes ∧ ∀ t, Utf8.encode t ≠ bytes := by
  have hnone {bytes : List UInt8} : Utf8.decode bytes = none ↔ ∀ t, Utf8.encode t ≠ bytes := by
    rw [Option.eq_none_iff_forall_ne_some]
    exact forall_congr' fun t => not_congr (Utf8.decode_eq_some_iff.trans eq_comm)
  constructor
  · intro h
    cases hread : decode token with
    | error e =>
      rw [decodeString, hread] at h
      obtain rfl : e = .notText := Except.error.inj h
      obtain ⟨cause, hcause⟩ := exists_malformed_iff.2 fun bytes => by rw [hread]; nofun
      cases hread.symm.trans hcause
    | ok bytes =>
      refine ⟨bytes, decode_eq_ok_iff.1 hread, hnone.1 ?_⟩
      rw [decodeString, hread] at h
      cases htext : Utf8.decode bytes with
      | none => rfl
      | some t =>
        simp only [bind, Except.bind, htext] at h
        cases h
  · rintro ⟨bytes, htoken, htext⟩
    rw [decodeString, decode_eq_ok_iff.2 htoken]
    simp only [bind, Except.bind, hnone.2 htext]

theorem decodeString_encodeString (t : String) : decodeString (encodeString t) = .ok t :=
  decodeString_eq_ok_iff.2 rfl

/-- An opaque form stands for one text. -/
theorem encodeString_inj {s t : String} (h : encodeString s = encodeString t) : s = t := by
  have hs := decodeString_encodeString s
  rw [h, decodeString_encodeString] at hs
  exact (Except.ok.inj hs).symm

/-! ## Which texts are an opaque form -/

/-- The characters of opaque forms: `A`–`Z`, `a`–`z`, `0`–`9`, `-` and
`_`. -/
def isSymbolChar (c : Char) : Bool :=
  c.isAlphanum || c == '-' || c == '_'

/-- A text is the opaque form of something: it has no other characters,
there is not one character more than the bytes take, and the last one has
no bit set that lies behind the last byte. -/
structure IsForm (s : String) : Prop where
  chars : ∀ c ∈ s.toList, isSymbolChar c = true
  length : s.length % 4 ≠ 1
  spare : ∀ c v, s.toList.getLast? = some c → Base64.url.value? (UInt8.ofNat c.toNat) = some v →
    v % 2 ^ Base64.spareBits s.length = 0

/-- Every one of them is one byte. -/
theorem lt_of_isSymbolChar (h : isSymbolChar c = true) : c.toNat < 128 := by
  simp only [isSymbolChar, Bool.or_eq_true, beq_iff_eq, Ascii.isAlphanum_iff, Ascii.isAlpha_iff,
    Ascii.isDigit_iff] at h
  rcases h with (h | rfl) | rfl
  · omega
  · decide
  · decide

/-- That byte is a symbol, and no other is. -/
theorem mem_table_iff (h : c.toNat < 128) :
    UInt8.ofNat c.toNat ∈ Base64.url.table ↔ isSymbolChar c = true := by
  have hall : ∀ n < 128, UInt8.ofNat n ∈ Base64.url.table ↔ isSymbolChar (Char.ofNat n) = true := by
    decide
  simpa using hall c.toNat h

/-- Symbols are one byte each. -/
theorem lt_of_isSpelling (h : Base64.url.IsSpelling (Utf8.encode token)) :
    ∀ c ∈ token.toList, c.toNat < 128 := by
  intro c hc
  by_contra hge
  obtain ⟨b, hb⟩ := List.exists_mem_of_ne_nil _ (String.utf8EncodeChar_ne_nil (c := c))
  have hmem : b ∈ Utf8.encode token := by
    rw [Utf8.encode_eq_ofChars]
    exact List.mem_flatMap.2 ⟨c, hc, hb⟩
  have hlt := Signed.table_lt b (h.symbols b hmem)
  have hle := Utf8.le_of_mem_utf8EncodeChar (Nat.le_of_not_lt hge) hb
  omega

/-- **A text is an opaque form exactly if its bytes spell something.** -/
theorem isForm_iff : IsForm token ↔ Base64.url.IsSpelling (Utf8.encode token) := by
  have hbytes (h : ∀ c ∈ token.toList, c.toNat < 128) :
      Utf8.encode token = token.toList.map fun c => UInt8.ofNat c.toNat := by
    rw [Utf8.encode_eq_ofChars, Utf8.ofChars_of_forall_lt h]
  constructor
  · intro h
    have hlt : ∀ c ∈ token.toList, c.toNat < 128 := fun c hc => lt_of_isSymbolChar (h.chars c hc)
    rw [hbytes hlt]
    refine ⟨?_, ?_, ?_⟩
    · intro b hb
      obtain ⟨c, hc, rfl⟩ := List.mem_map.1 hb
      exact (mem_table_iff (hlt c hc)).2 (h.chars c hc)
    · simpa [String.length_toList] using h.length
    · intro b v hlast hv
      rw [List.getLast?_map] at hlast
      obtain ⟨c, hc, rfl⟩ := Option.map_eq_some_iff.1 hlast
      simpa [String.length_toList] using h.spare c v hc hv
  · intro h
    have hlt := lt_of_isSpelling h
    rw [hbytes hlt] at h
    refine ⟨fun c hc => ?_, by simpa [String.length_toList] using h.length, fun c v hlast hv => ?_⟩
    · exact (mem_table_iff (hlt c hc)).1 (h.symbols _ (List.mem_map_of_mem hc))
    · have hspare := h.spare (UInt8.ofNat c.toNat) v (by rw [List.getLast?_map, hlast]; rfl) hv
      simpa [String.length_toList] using hspare

theorem exists_eq_encode_iff : (∃ bytes, token = encode bytes) ↔ IsForm token := by
  rw [isForm_iff, ← Base64.Alphabet.exists_symbols_iff]
  exact exists_congr fun bytes => eq_encode_iff

/-! ## The theorem -/

/-- **The opaque form is exact.** Bytes are read back from their opaque
form, and a text is read as bytes exactly if it is their opaque form, which
is thus the only text that is read as them. The form is made of the bits of
the bytes, six to a character, with zeros behind the last of them. Texts
are refused as malformed that have another character than those of the
alphabet, as padding and the symbols of other alphabets are, that have a
length which no bytes take, or a set bit behind the last byte; and no
others are. A text is read as another exactly if it is the opaque form of
its UTF-8; the form of bytes that are not the UTF-8 of any text is refused
for that, and nothing else is. -/
theorem opaque_form_exact :
    (∀ bytes, decode (encode bytes) = .ok bytes) ∧
    (∀ token bytes, decode token = .ok bytes ↔ token = encode bytes) ∧
    (∀ bytes, ∃! token, decode token = .ok bytes) ∧
    (∀ token bytes, token = encode bytes ↔ Base64.url.Spells (Utf8.encode token) bytes) ∧
    (∀ bytes, (encode bytes).toList.all isSymbolChar = true) ∧
    (∀ token, (∃ cause, decode token = .error (.malformed cause)) ↔ ¬ IsForm token) ∧
    (∀ token t, decodeString token = .ok t ↔ token = encode (Utf8.encode t)) ∧
    (∀ token, decodeString token = .error .notText ↔
      ∃ bytes, token = encode bytes ∧ ∀ t, Utf8.encode t ≠ bytes) := by
  refine ⟨fun bytes => decode_eq_ok_iff.2 rfl, fun _ _ => decode_eq_ok_iff, fun bytes => ?_,
    fun _ _ => ?_, fun bytes => ?_, fun token => ?_, fun _ _ => decodeString_eq_ok_iff,
    fun _ => decodeString_eq_notText_iff⟩
  · exact ⟨encode bytes, decode_eq_ok_iff.2 rfl, fun _ h => decode_eq_ok_iff.1 h⟩
  · rw [eq_encode_iff, Base64.Alphabet.spells_iff]
  · exact List.all_eq_true.2 (exists_eq_encode_iff.1 ⟨bytes, rfl⟩).chars
  · rw [exists_malformed_iff, ← exists_eq_encode_iff, not_exists]
    exact forall_congr' fun bytes => not_congr decode_eq_ok_iff

end Wrapped

end SignOn
