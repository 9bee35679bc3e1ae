import SignOn.Proofs.Crypto.Bcrypt
/-!
# What a digest is made of

The cipher takes eighteen words of a key, which is read round and round
where it is shorter. So a digest depends on 72 bytes of a password and its
closing zero byte (`Bcrypt.bytesRead`), and on these alone:
`Bcrypt.digest_congr`. Passwords that agree in them verify against the same
hashes, whatever their length.
-/

namespace SignOn

namespace Bcrypt

/-! ## Reading round and round -/

/-- The byte at a place of a text that is read round and round. -/
def byteAround (text : List UInt8) (i : Nat) : UInt8 :=
  text.getD (i % text.length) 0

variable {text text' : List UInt8} {i : Nat}

theorem byteAround_of_lt (h : i < text.length) : byteAround text i = text[i] := by
  rw [byteAround, Nat.mod_eq_of_lt h, List.getD_eq_getElem?_getD, List.getElem?_eq_getElem h,
    Option.getD_some]

/-- Of a cut text, as far as it was cut, no more is read than of the whole. -/
theorem byteAround_take {n : Nat} (h : i < n) : byteAround (text.take n) i = byteAround text i := by
  rcases Nat.lt_or_ge n text.length with hlt | hge
  · have hi : i < (text.take n).length := by
      rw [List.length_take]
      omega
    rw [byteAround_of_lt hi, byteAround_of_lt (by omega), List.getElem_take]
  · rw [List.take_of_length_le hge]

/-- What is written over and over is what is read. -/
theorem getElem_flatten_replicate {n : Nat} (h : i < (List.replicate n text).flatten.length) :
    (List.replicate n text).flatten[i] = byteAround text i := by
  induction n generalizing i with
  | zero => simp at h
  | succ n ih =>
    simp only [List.replicate_succ, List.flatten_cons] at h ⊢
    rcases Nat.lt_or_ge i text.length with hlt | hge
    · rw [List.getElem_append_left hlt, byteAround_of_lt hlt]
    · rw [List.getElem_append_right hge, ih, byteAround, byteAround, ← Nat.mod_eq_sub_mod hge]

/-! ## The bytes of a password that are read -/

/-- The bytes of a password that its digest is made of: 72 bytes of the
password and a zero byte, read round and round. -/
def bytesRead (password : String) : List UInt8 :=
  (List.range 72).map (byteAround (Utf8.encode password ++ [0]))

theorem cyclicWord_toArray (text : List UInt8) (i : Nat) :
    Blowfish.cyclicWord text.toArray i =
      ((byteAround text (4 * i)).toUInt32 <<< 24) |||
        ((byteAround text (4 * i + 1)).toUInt32 <<< 16) |||
        ((byteAround text (4 * i + 2)).toUInt32 <<< 8) |||
        (byteAround text (4 * i + 3)).toUInt32 := by
  simp [Blowfish.cyclicWord, byteAround]

/-- Eighteen words take 72 bytes. -/
theorem cyclicWords_congr (h : ∀ i < 72, byteAround text i = byteAround text' i) :
    Blowfish.cyclicWords text.toArray 18 = Blowfish.cyclicWords text'.toArray 18 := by
  refine congrArg Array.ofFn (funext fun i => ?_)
  rw [cyclicWord_toArray, cyclicWord_toArray, h _ (by omega), h _ (by omega), h _ (by omega),
    h _ (by omega)]

/-- **A digest depends on what is read of the password.** -/
theorem digest_congr {p q : String} (h : bytesRead p = bytesRead q) (cost : Nat) (salt : Salt) :
    digest cost salt (key p) = digest cost salt (key q) := by
  have hwords : Blowfish.cyclicWords (key p).toArray 18 =
      Blowfish.cyclicWords (key q).toArray 18 := by
    refine cyclicWords_congr fun i hi => ?_
    rw [key, key, byteAround_take hi, byteAround_take hi]
    exact List.map_inj_left.1 h i (List.mem_range.2 hi)
  simp only [digest, Blowfish.Subkeys.setup, hwords]

/-- Nothing tells such passwords apart. -/
theorem verify_congr {p q : String} (h : bytesRead p = bytesRead q) (hash : String) :
    verify p hash = verify q hash := by
  unfold verify
  simp only [digest_congr h]

/-- Of a long password nothing but its first 72 bytes is read. -/
theorem bytesRead_of_le {q : String} (h : 72 ≤ Utf8.size q) :
    bytesRead q = (Utf8.encode q).take 72 := by
  rw [← Utf8.length_encode] at h
  refine List.ext_getElem (by simp [bytesRead, h]) fun i hi _ => ?_
  have hi : i < 72 := by simpa [bytesRead] using hi
  have hi' : i < (Utf8.encode q ++ [0]).length := by
    rw [List.length_append]
    omega
  simp only [bytesRead, List.getElem_map, List.getElem_range, List.getElem_take,
    byteAround_of_lt hi']
  rw [List.getElem_append_left]

theorem key_of_le {q : String} (h : 72 ≤ Utf8.size q) : key q = (Utf8.encode q).take 72 := by
  rw [← Utf8.length_encode] at h
  exact List.take_append_of_le_length h

/-- **Every password is read as some long text is**: as itself and a zero
byte, over and over. -/
theorem exists_long_bytesRead (p : String) : ∃ q, 72 < Utf8.size q ∧ bytesRead q = bytesRead p := by
  let q := String.ofList (List.replicate 73 (p.toList ++ ['\x00'])).flatten
  have hzero : Utf8.ofChars ['\x00'] = [0] := Utf8.ofChars_cons_of_lt (by decide) []
  have hq : Utf8.encode q = (List.replicate 73 (Utf8.encode p ++ [0])).flatten := by
    rw [Utf8.encode_ofList, Utf8.ofChars_flatten_replicate, Utf8.ofChars_append, hzero,
      Utf8.encode_eq_ofChars]
  have hlen : 72 < (List.replicate 73 (Utf8.encode p ++ [0])).flatten.length := by
    rw [List.length_flatten, List.map_replicate, List.sum_replicate_nat, List.length_append,
      List.length_singleton]
    omega
  have hlong : 72 < Utf8.size q := by rwa [← Utf8.length_encode, hq]
  refine ⟨q, hlong, ?_⟩
  rw [bytesRead_of_le (Nat.le_of_lt hlong), hq]
  refine List.ext_getElem ?_ fun i hi _ => ?_
  · rw [List.length_take, bytesRead, List.length_map, List.length_range]
    omega
  · rw [List.getElem_take, getElem_flatten_replicate]
    simp [bytesRead]

end Bcrypt

end SignOn
