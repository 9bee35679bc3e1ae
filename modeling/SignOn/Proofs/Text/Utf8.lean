import Mathlib.Data.List.Basic
import SignOn.Text.Utf8
/-!
# UTF-8, character by character

The bytes of a text are those of its characters one after another. A
character below 128 is one byte, its own number; every byte of any other
is 128 or more, so no byte of it is taken for a character by itself.
-/

namespace SignOn

namespace Utf8

/-- The bytes of a list of characters. -/
def ofChars (cs : List Char) : List UInt8 :=
  cs.flatMap String.utf8EncodeChar

@[simp] theorem ofChars_nil : ofChars [] = [] := rfl

@[simp] theorem ofChars_append (cs ds : List Char) :
    ofChars (cs ++ ds) = ofChars cs ++ ofChars ds :=
  List.flatMap_append

theorem ofChars_cons (c : Char) (cs : List Char) :
    ofChars (c :: cs) = String.utf8EncodeChar c ++ ofChars cs := rfl

theorem encode_ofList (cs : List Char) : encode (String.ofList cs) = ofChars cs := by
  unfold encode ofChars
  rw [String.toByteArray_ofList, List.utf8Encode]
  simp [List.data_toByteArray]

/-- **The bytes of a text are those of its characters.** -/
theorem encode_eq_ofChars (s : String) : encode s = ofChars s.toList := by
  rw [← encode_ofList, String.ofList_toList]

/-- A text over and over has its bytes over and over. -/
theorem ofChars_flatten_replicate (n : Nat) (cs : List Char) :
    ofChars (List.replicate n cs).flatten = (List.replicate n (ofChars cs)).flatten := by
  induction n with
  | zero => rfl
  | succ n ih => simp only [List.replicate_succ, List.flatten_cons, ofChars_append, ih]

theorem encode_append (s t : String) : encode (s ++ t) = encode s ++ encode t := by
  simp only [encode_eq_ofChars, String.toList_append, ofChars_append]

/-- A character below 128 is one byte. -/
theorem utf8EncodeChar_of_lt {c : Char} (h : c.toNat < 128) :
    String.utf8EncodeChar c = [UInt8.ofNat c.toNat] := by
  unfold String.utf8EncodeChar
  exact if_pos (by show c.toNat ≤ 127; omega)

theorem ofChars_cons_of_lt {c : Char} (h : c.toNat < 128) (cs : List Char) :
    ofChars (c :: cs) = UInt8.ofNat c.toNat :: ofChars cs := by
  rw [ofChars_cons, utf8EncodeChar_of_lt h, List.singleton_append]

/-- **Characters below 128 are bytes of themselves.** -/
theorem ofChars_of_forall_lt {cs : List Char} (h : ∀ c ∈ cs, c.toNat < 128) :
    ofChars cs = cs.map fun c => UInt8.ofNat c.toNat := by
  induction cs with
  | nil => rfl
  | cons c cs ih =>
    rw [ofChars_cons_of_lt (h c List.mem_cons_self), List.map_cons,
      ih fun d hd => h d (List.mem_cons_of_mem _ hd)]

/-- Bytes below 128 are the bytes of the characters that they number. -/
theorem encode_ofList_map_ofNat {bytes : List UInt8} (h : ∀ b ∈ bytes, b.toNat < 128) :
    encode (String.ofList (bytes.map fun b => Char.ofNat b.toNat)) = bytes := by
  have hchar {b : UInt8} (hb : b.toNat < 128) : (Char.ofNat b.toNat).toNat = b.toNat := by
    have hvalid : b.toNat.isValidChar := Or.inl (by omega)
    rw [Char.ofNat, dif_pos hvalid]
    rfl
  rw [encode_ofList, ofChars_of_forall_lt, List.map_map]
  · refine (List.map_congr_left fun b hb => ?_).trans (List.map_id bytes)
    show UInt8.ofNat (Char.ofNat b.toNat).toNat = b
    rw [hchar (h b hb), UInt8.ofNat_toNat]
  · intro c hc
    obtain ⟨b, hb, rfl⟩ := List.mem_map.1 hc
    rw [hchar (h b hb)]
    exact h b hb

/-- Every byte of any other character is 128 or more. -/
theorem le_of_mem_utf8EncodeChar {c : Char} (h : 128 ≤ c.toNat) {b : UInt8}
    (hb : b ∈ String.utf8EncodeChar c) : 128 ≤ b.toNat := by
  have hmax : c.toNat < 0x110000 := by
    have := c.valid
    show c.val.toNat < _
    rcases this with h | h <;> omega
  unfold String.utf8EncodeChar at hb
  simp only at hb
  change 128 ≤ c.val.toNat at h
  rw [if_neg (by omega)] at hb
  split at hb
  · simp only [List.mem_cons, List.not_mem_nil, or_false] at hb
    rcases hb with rfl | rfl <;> rw [UInt8.toNat_ofNat'] <;> omega
  · split at hb
    · simp only [List.mem_cons, List.not_mem_nil, or_false] at hb
      rcases hb with rfl | rfl | rfl <;> rw [UInt8.toNat_ofNat'] <;> omega
    · simp only [List.mem_cons, List.not_mem_nil, or_false] at hb
      rcases hb with rfl | rfl | rfl | rfl <;> rw [UInt8.toNat_ofNat'] <;> omega

/-- A text has at least as many bytes as characters. -/
theorem length_le_length_ofChars (cs : List Char) : cs.length ≤ (ofChars cs).length := by
  induction cs with
  | nil => simp
  | cons c cs ih =>
    have hpos : 0 < (String.utf8EncodeChar c).length :=
      List.length_pos_iff.2 String.utf8EncodeChar_ne_nil
    rw [ofChars_cons, List.length_append, List.length_cons]
    omega

end Utf8

end SignOn
