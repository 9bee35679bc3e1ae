/-!
# UTF-8

Text is a `String`; on the wire and under a signature it is a list of
bytes. `encode` and `decode` go between the two, and a list of bytes
that is no UTF-8 has no text. `decode_eq_some_iff` says that they are
inverse.
-/

namespace SignOn

namespace Utf8

/-- The bytes of a text. -/
def encode (s : String) : List UInt8 :=
  s.toByteArray.data.toList

/-- The text that a list of bytes encodes, if it encodes one. -/
def decode (bytes : List UInt8) : Option String :=
  String.fromUTF8? bytes.toByteArray

/-- The number of bytes of a text. -/
def size (s : String) : Nat :=
  s.utf8ByteSize

/-- `size` counts the bytes that `encode` writes. -/
theorem length_encode (s : String) : (encode s).length = size s := by
  show s.toByteArray.data.toList.length = s.toByteArray.data.size
  exact Array.length_toList

/-- The array of the bytes of a text is the text's own. -/
theorem toByteArray_encode (s : String) : (encode s).toByteArray = s.toByteArray := by
  apply ByteArray.ext
  simp [encode, List.data_toByteArray]

/-- Reading back the bytes of a text gives the text. -/
theorem decode_encode (s : String) : decode (encode s) = some s := by
  unfold decode String.fromUTF8?
  rw [toByteArray_encode]
  have h := s.isValidUTF8
  simp only [h, dite_true]
  rfl

/-- **Decoding inverts encoding.** -/
theorem decode_eq_some_iff {bytes : List UInt8} {s : String} :
    decode bytes = some s ↔ bytes = encode s := by
  constructor
  · intro h
    unfold decode String.fromUTF8? at h
    split at h
    · next hv =>
      have hs : String.fromUTF8 bytes.toByteArray hv = s := Option.some.inj h
      have hb : s.toByteArray = bytes.toByteArray := by
        rw [← hs]
        rfl
      simp [encode, hb, List.data_toByteArray]
    · exact absurd h (by simp)
  · rintro rfl
    exact decode_encode s

/-- Two texts of the same bytes are the same. -/
theorem encode_inj {s t : String} (h : encode s = encode t) : s = t := by
  have hs := decode_encode s
  rw [h, decode_encode] at hs
  exact (Option.some.inj hs).symm

end Utf8

end SignOn
