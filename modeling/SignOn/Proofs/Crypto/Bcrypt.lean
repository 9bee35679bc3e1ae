import SignOn.Proofs.Crypto.HashText
/-!
# Hashing and verification agree

What `Bcrypt.hash` writes is read back by `Bcrypt.Record.ofString?`, with
the cost, the salt and the digest that went into it. So `verify` finds
the digest again that the hash was made with, and it finds none in a text
that is not in the form of a hash: `Password.hash_agrees_with_verify`.
-/

namespace SignOn

namespace Bcrypt

/-! ## The parts of a hash -/

theorem length_wordBytes (w : UInt32) : (wordBytes w).length = 4 := rfl

/-- A digest has 23 bytes. -/
theorem length_digest (cost : Nat) (salt : Salt) (key : List UInt8) :
    (digest cost salt key).length = 23 := by
  simp [digest, magic, length_wordBytes]

/-! ## Reading back what was written -/

/-- A hash at an allowed cost is the text of its record. -/
theorem hash_eq_ok {cost : Nat} (h : costAllowed cost = true) (salt : Salt) (password : String) :
    hash cost salt password = .ok (Record.text ⟨cost, salt, digest cost salt (key password)⟩) := by
  rw [hash, if_pos h, Record.text]

/-- **What is written as a hash is read back.** -/
theorem ofString?_hash {cost : Nat} {salt : Salt} {password h : String}
    (hhash : hash cost salt password = .ok h) :
    Record.ofString? h = some ⟨cost, salt, digest cost salt (key password)⟩ := by
  by_cases hcost : costAllowed cost = true
  · rw [hash_eq_ok hcost] at hhash
    have hdigest := length_digest cost salt (key password)
    generalize digest cost salt (key password) = bytes at hhash hdigest ⊢
    rw [← Except.ok.inj hhash, ofString?_eq_some_iff]
    exact spells_text (costAllowed_iff.1 hcost) hdigest
  · rw [hash, if_neg hcost] at hhash
    cases hhash

/-- **A password verifies against a hash** if it has the digest of the one
that the hash was made of. -/
theorem verify_iff_of_hash {cost : Nat} {salt : Salt} {p q h : String}
    (hhash : hash cost salt p = .ok h) :
    verify q h = true ↔ digest cost salt (key q) = digest cost salt (key p) := by
  simp only [verify, ofString?_hash hhash, beq_iff_eq]

/-- **A password verifies against the texts in the form of a hash** that
records its digest, and against no other text. -/
theorem verify_eq_true_iff {password h : String} : verify password h = true ↔
    ∃ r, Spells r h ∧ digest r.cost r.salt (key password) = r.digest := by
  simp only [← ofString?_eq_some_iff, verify]
  cases Record.ofString? h <;> simp

/-- What is not in the form of a hash is the hash of nothing. -/
theorem verify_eq_false {password h : String} (hnone : ∀ r, ¬ Spells r h) :
    verify password h = false := by
  refine Bool.eq_false_iff.2 fun htrue => ?_
  obtain ⟨r, hr, -⟩ := verify_eq_true_iff.1 htrue
  exact hnone r hr

/-- A text has one record. -/
theorem Spells.unique {r r' : Record} {h : String} (hr : Spells r h) (hr' : Spells r' h) :
    r = r' :=
  Option.some.inj ((ofString?_eq_some_iff.2 hr).symm.trans (ofString?_eq_some_iff.2 hr'))

/-- **The hashes of a cost and a salt** are told apart by their digests: a
password verifies against the one with its own digest only. -/
theorem Spells.verify_iff {r : Record} {h : String} (hr : Spells r h) (password : String) :
    verify password h = true ↔ digest r.cost r.salt (key password) = r.digest := by
  rw [verify_eq_true_iff]
  refine ⟨?_, fun hdigest => ⟨r, hr, hdigest⟩⟩
  rintro ⟨r', hr', hdigest⟩
  obtain rfl := hr.unique hr'
  exact hdigest

/-- A text stands for the one of sixty characters that is written for its
record. -/
theorem Spells.verify_eq {r : Record} {h : String} (hr : Spells r h) (password : String) :
    verify password h = verify password r.text := by
  rw [verify, verify, ofString?_eq_some_iff.2 hr,
    ofString?_eq_some_iff.2 (spells_text hr.allowed.1 hr.allowed.2)]

end Bcrypt

namespace Password

variable {cost : UInt32} {salt : Bcrypt.Salt} {password h : String}

/-- The hash of a password that fits is the bcrypt hash. -/
theorem hash_eq_ok_iff : hash cost salt password = .ok h ↔
    Utf8.size password ≤ maxBytes ∧ Bcrypt.hash cost.toNat salt password = .ok h := by
  unfold hash
  split
  · next hlong => simp [Nat.not_le_of_lt hlong]
  · next hfits =>
    have hfits := Nat.le_of_not_lt hfits
    cases Bcrypt.hash cost.toNat salt password <;> simp [hfits]

theorem verify_iff_of_hash {q : String} (hhash : hash cost salt password = .ok h) :
    verify q h = true ↔ Bcrypt.digest cost.toNat salt (Bcrypt.key q) =
      Bcrypt.digest cost.toNat salt (Bcrypt.key password) :=
  Bcrypt.verify_iff_of_hash (hash_eq_ok_iff.1 hhash).2

/-- **A password verifies against its own hash.** -/
theorem verify_of_hash (hhash : hash cost salt password = .ok h) : verify password h = true :=
  (verify_iff_of_hash hhash).2 rfl

/-- Whatever is hashed fits. -/
theorem size_le_of_hash (hhash : hash cost salt password = .ok h) :
    Utf8.size password ≤ maxBytes :=
  (hash_eq_ok_iff.1 hhash).1

/-- **A password that fits is hashed**, at an allowed cost: the hash is the
text of a record of the cost and the salt. -/
theorem exists_text (hcost : Bcrypt.costAllowed cost.toNat = true) (salt : Bcrypt.Salt)
    (hsize : Utf8.size password ≤ maxBytes) : ∃ digest : List UInt8, digest.length = 23 ∧
      hash cost salt password = .ok (Bcrypt.Record.text ⟨cost.toNat, salt, digest⟩) :=
  ⟨_, Bcrypt.length_digest cost.toNat salt (Bcrypt.key password),
    hash_eq_ok_iff.2 ⟨hsize, Bcrypt.hash_eq_ok hcost salt password⟩⟩

theorem exists_hash_eq_ok (hcost : Bcrypt.costAllowed cost.toNat = true) (salt : Bcrypt.Salt)
    (hsize : Utf8.size password ≤ maxBytes) : ∃ h, hash cost salt password = .ok h :=
  (exists_text hcost salt hsize).elim fun _ h => ⟨_, h.2⟩

/-- Only what is too long is refused for its length, at whatever cost. -/
theorem hash_eq_tooLong_iff :
    hash cost salt password = .error .tooLong ↔ maxBytes < Utf8.size password := by
  unfold hash
  split
  · next hlong => simp [hlong]
  · next hfits => cases Bcrypt.hash cost.toNat salt password <;> simp [hfits]

/-- What fits is refused at a cost that is not allowed. -/
theorem hash_eq_cost_iff {e : Bcrypt.CostNotAllowed} : hash cost salt password = .error (.cost e) ↔
    Utf8.size password ≤ maxBytes ∧ ¬ (4 ≤ cost.toNat ∧ cost.toNat ≤ 31) ∧ e = ⟨cost.toNat⟩ := by
  rw [← Bcrypt.costAllowed_iff]
  unfold hash Bcrypt.hash
  split
  · next hlong => simp [Nat.not_le_of_lt hlong]
  · next hfits =>
    have hfits := Nat.le_of_not_lt hfits
    by_cases hcost : Bcrypt.costAllowed cost.toNat = true
    · simp [hcost]
    · simp [hcost, hfits, eq_comm]

/-- **Every password is refused by a well-formed hash**, of any cost and salt:
by one with another digest than its own. -/
theorem exists_refusing (password : String) {cost : Nat} (hcost : 4 ≤ cost ∧ cost ≤ 31)
    (salt : Bcrypt.Salt) : ∃ digest, Bcrypt.WellFormed (Bcrypt.Record.text ⟨cost, salt, digest⟩) ∧
      verify password (Bcrypt.Record.text ⟨cost, salt, digest⟩) = false := by
  obtain ⟨own, hown⟩ : ∃ own, Bcrypt.digest cost salt (Bcrypt.key password) = own := ⟨_, rfl⟩
  have hlen : own.length = 23 := hown ▸ Bcrypt.length_digest cost salt (Bcrypt.key password)
  have hother : own ≠ own.map (· + 1) := by
    cases own with
    | nil => cases hlen
    | cons b bytes => simp
  have hlen' : (own.map (· + 1)).length = 23 := (List.length_map _).trans hlen
  have hspells := Bcrypt.spells_text (r := ⟨cost, salt, own.map (· + 1)⟩) hcost hlen'
  refine ⟨_, Bcrypt.wellFormed_text hcost hlen', Bool.eq_false_iff.2 fun htrue => hother ?_⟩
  exact hown.symm.trans ((hspells.verify_iff password).1 htrue)

/-- **Hashing and verification agree.** What has more than 72 bytes is too
long at every cost. What fits cannot be hashed at a cost outside 4 to 31,
and is hashed at any other, with whatever salt: the hash is a well-formed
text of sixty characters, the version, the cost in two decimals and the
symbols of the salt and of a digest. It records this cost, this salt and
nothing else, and the password verifies against it. Nothing verifies against
a text that is not in the form of a hash, however it comes short of it. This
form is that of every well-formed hash and of other texts
(`lenient_hash_verifies`), but a text in it stands for a well-formed hash: the
one of sixty characters with the same record. -/
theorem hash_agrees_with_verify (cost : UInt32) (salt : Bcrypt.Salt) (password : String) :
    (hash cost salt password = .error .tooLong ↔ 72 < Utf8.size password) ∧
    (∀ e, hash cost salt password = .error (.cost e) ↔
      Utf8.size password ≤ 72 ∧ ¬ (4 ≤ cost.toNat ∧ cost.toNat ≤ 31) ∧ e = ⟨cost.toNat⟩) ∧
    (Utf8.size password ≤ 72 → 4 ≤ cost.toNat → cost.toNat ≤ 31 → ∃ h digest,
      hash cost salt password = .ok h ∧ h.length = 60 ∧ Bcrypt.WellFormed h ∧
      h = "$2b$" ++ Bcrypt.twoDigits cost.toNat ++ "$" ++ Base64.crypt.encode salt.toList ++
        Base64.crypt.encode digest ∧
      (∀ r, Bcrypt.Spells r h ↔ r = ⟨cost.toNat, salt, digest⟩) ∧ verify password h = true) ∧
    (∀ h, (∀ r, ¬ Bcrypt.Spells r h) → ¬ Bcrypt.WellFormed h ∧ verify password h = false) ∧
    ∀ h r, Bcrypt.Spells r h → r.text.length = 60 ∧ Bcrypt.WellFormed r.text ∧
      verify password h = verify password r.text := by
  refine ⟨hash_eq_tooLong_iff, fun e => hash_eq_cost_iff, fun hfits hmin hmax => ?_,
    fun h hnone => ⟨fun hformed => ?_, Bcrypt.verify_eq_false hnone⟩, fun h r hr => ?_⟩
  · obtain ⟨digest, hdigest, hhash⟩ :=
      exists_text (Bcrypt.costAllowed_iff.2 ⟨hmin, hmax⟩) salt hfits
    have hformed : Bcrypt.WellFormed (Bcrypt.Record.text ⟨cost.toNat, salt, digest⟩) :=
      Bcrypt.wellFormed_text ⟨hmin, hmax⟩ hdigest
    have hspells : Bcrypt.Spells ⟨cost.toNat, salt, digest⟩ _ :=
      Bcrypt.spells_text ⟨hmin, hmax⟩ hdigest
    refine ⟨_, digest, hhash, hformed.length, hformed, rfl,
      fun r => ⟨fun hr => hr.unique hspells, ?_⟩, verify_of_hash hhash⟩
    rintro rfl
    exact hspells
  · obtain ⟨r, hr⟩ := hformed.exists_spells
    exact hnone r hr
  · obtain ⟨hallowed, hdigest⟩ := hr.allowed
    exact ⟨Bcrypt.length_text hdigest, Bcrypt.wellFormed_text hallowed hdigest,
      hr.verify_eq password⟩

/-- A password that fits, at the least cost: it verifies against its own hash,
and neither against another one of this cost and this salt nor against a text
that is no hash. -/
theorem hash_agrees_with_verify_plain : ∃ h other, hash 4 (.replicate 16 0) "mysecret1" = .ok h ∧
    h.length = 60 ∧ verify "mysecret1" h = true ∧
    Bcrypt.WellFormed (Bcrypt.Record.text ⟨4, .replicate 16 0, other⟩) ∧
    verify "mysecret1" (Bcrypt.Record.text ⟨4, .replicate 16 0, other⟩) = false ∧
    verify "mysecret1" "not-a-bcrypt-hash" = false := by
  have hread : Bcrypt.Record.ofString? "not-a-bcrypt-hash" = none := rfl
  obtain ⟨-, -, hhashed, hmalformed, -⟩ := hash_agrees_with_verify 4 (.replicate 16 0) "mysecret1"
  obtain ⟨h, -, hhash, hlen, -, -, -, hverify⟩ := hhashed (by decide) (by decide) (by decide)
  obtain ⟨other, hformed, hrefused⟩ :=
    exists_refusing "mysecret1" (by decide : 4 ≤ 4 ∧ 4 ≤ 31) (.replicate 16 0)
  refine ⟨h, other, hhash, hlen, hverify, hformed, hrefused, (hmalformed _ fun r hr => ?_).2⟩
  cases hread.symm.trans (Bcrypt.ofString?_eq_some_iff.2 hr)

/-- **The form of a hash is wider than that of a well-formed one.** The hash
of a password with its first dollar sign left out and its cost in one decimal
has 58 characters, and the password verifies against it. -/
theorem lenient_hash_verifies :
    let digest := Bcrypt.digest 4 (.replicate 16 0) (Bcrypt.key "password")
    let h := "2b$4$" ++ (Base64.crypt.encode (List.replicate 16 0) ++ Base64.crypt.encode digest)
    ¬ Bcrypt.WellFormed h ∧ verify "password" h = true := by
  intro digest h
  have hdigest : digest.length = 23 := Bcrypt.length_digest _ _ _
  have hcost : Bcrypt.SpellsCost 4 "4" :=
    .intro (.inl rfl) (List.cons_ne_nil '4' []) (List.forall_mem_singleton.2 (by decide)) rfl
  have hspells : Bcrypt.Spells ⟨4, .replicate 16 0, digest⟩ h := by
    have htext : h = Bcrypt.dollars 0 ++ "2b" ++ Bcrypt.dollars (0 + 1) ++ "4" ++
        Bcrypt.dollars (0 + 1) ++ (Base64.crypt.encode (Vector.replicate 16 (0 : UInt8)).toList ++
          Base64.crypt.encode digest) ++ Bcrypt.dollars 0 := by
      apply String.toList_inj.1
      simp [h]
    rw [htext]
    exact .intro 0 0 0 0 (by simp) hcost (by simp) hdigest
  refine ⟨fun hformed => ?_, (hspells.verify_iff "password").2 (Eq.refl digest)⟩
  have hopen : "2b$4$".length = 5 := rfl
  have hlen := hformed.length
  simp [h, hopen, Base64.Alphabet.encode, Base64.Alphabet.length_symbols, hdigest] at hlen

end Password

end SignOn
