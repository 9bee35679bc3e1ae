import SignOn.Proofs.Account.PasswordChange
import SignOn.Proofs.Crypto.KeyBytes
import SignOn.Proofs.Service.Ways
/-!
# Passwords that are too long

A password of more than 72 bytes cannot be set: `Password.hash` refuses it.
`Password.verify` does not look at the length, and reads the first 72 bytes.
So a login, or a change of a password, that is given such a text goes as it
would with any password that is read alike, and succeeds with it:
`Service.long_password_cut`.
-/

namespace SignOn

namespace Service

open Procedure

variable {s : Service} {ctx : RequestContext} {email token old new p q : String}

/-! ## Passwords that are read alike -/

theorem verifyPassword_congr (h : Bcrypt.bytesRead p = Bcrypt.bytesRead q) (ctx : RequestContext)
    (hash : String) : verifyPassword ctx p hash = verifyPassword ctx q hash := by
  simp only [verifyPassword, Password.verify, Bcrypt.verify_congr h]

/-- **A login goes by what is read of the password.** -/
theorem login_congr (h : Bcrypt.bytesRead p = Bcrypt.bytesRead q) (s : Service)
    (ctx : RequestContext) (email : String) : s.login ctx email p = s.login ctx email q := by
  simp only [login, verifyPassword_congr h]

/-- So does a change of a password, if neither is the new one. -/
theorem changePassword_congr (h : Bcrypt.bytesRead p = Bcrypt.bytesRead q) (hp : p ≠ new)
    (hq : q ≠ new) (s : Service) (ctx : RequestContext) (token : String) :
    s.changePassword ctx token p new = s.changePassword ctx token q new := by
  simp only [changePassword, verifyPassword_congr h, bne_iff_ne.2 hp, bne_iff_ne.2 hq]

/-! ## What was checked -/

/-- **A login has been let in by the hash of the account**, as the store
answered it. -/
theorem login_verifies : Meets .free
    (fun h _ => ∃ a, Got h (.accountByEmail email) (.ok a) ∧ a.emailConfirmed = true ∧
      Password.verify p a.passwordHash = true)
    (fun _ _ => True) (s.login ctx email p) [] := by
  refine meets_bind.2 (meets_history_ask trivial (fun a _ => ?_) fun _ _ => trivial)
  refine meets_bind.2 (meets_require.2 ⟨fun hconfirmed => ?_, fun _ => trivial⟩)
  refine meets_bind.2 (meets_bind.2 (meets_bind.2 (meets_history_step trivial fun late _ => ?_)))
  refine meets_require.2 ⟨fun _ => ?_, fun _ => trivial⟩
  refine meets_bind.2 (meets_require.2 ⟨fun hright => ?_, fun _ => trivial⟩)
  -- what comes after that takes nothing back
  refine (meets_free_of_stable (I := fun h => Got h (.accountByEmail email) (.ok a)) ?_ _ ?_).mono
    (fun h _ hgot => ⟨a, hgot, hconfirmed, hright⟩) fun _ _ _ => trivial
  · exact fun h x hgot => hgot.mono (List.subset_append_left _ _)
  · exact (got_concat _ _ _ _).mono (List.subset_append_left _ _)

/-! ## What becomes of a password that is too long -/

/-- **A password that is too long is cut.** Every password is read as some
text of more than 72 bytes is. No such text can be hashed. Against the hash
of a password it verifies exactly if its first 72 bytes have the digest of
the password; so it does if they are the bytes that are read of the
password. Whatever the store answers, a login that succeeds with it has got
an account with a hash that it verifies against, and so has a change of a
password that succeeds with it as the old one. And both go just as they
would with a password that is read alike. -/
theorem long_password_cut (s : Service) :
    (∀ p, ∃ q, 72 < Utf8.size q ∧ (Utf8.encode q).take 72 = Bcrypt.bytesRead p) ∧
    ∀ q, 72 < Utf8.size q →
      (∀ cost salt, Password.hash cost salt q = .error .tooLong) ∧
      (∀ cost salt p h, Password.hash cost salt p = .ok h →
        (Password.verify q h = true ↔
          Bcrypt.digest cost.toNat salt ((Utf8.encode q).take 72) =
            Bcrypt.digest cost.toNat salt (Bcrypt.key p)) ∧
        ((Utf8.encode q).take 72 = Bcrypt.bytesRead p → Password.verify q h = true)) ∧
      (∀ ctx email h a, (s.perform ctx (.login email q)).run.Yields h (.ok a) →
        ∃ account, Got h (.accountByEmail email) (.ok account) ∧ account.emailConfirmed = true ∧
          Password.verify q account.passwordHash = true) ∧
      (∀ ctx token new h a, (s.perform ctx (.changePassword token q new)).run.Yields h (.ok a) →
        ∃ u account, Got h (.accountById u) (.ok account) ∧
          Password.verify q account.passwordHash = true) ∧
      ∀ p, (Utf8.encode q).take 72 = Bcrypt.bytesRead p →
        (∀ ctx email, s.perform ctx (.login email q) = s.perform ctx (.login email p)) ∧
        ∀ ctx token new, q ≠ new → p ≠ new →
          s.perform ctx (.changePassword token q new) =
            s.perform ctx (.changePassword token p new) := by
  refine ⟨fun p => ?_, fun q hlong => ?_⟩
  · obtain ⟨q, hlong, hread⟩ := Bcrypt.exists_long_bytesRead p
    exact ⟨q, hlong, (Bcrypt.bytesRead_of_le (Nat.le_of_lt hlong)).symm.trans hread⟩
  have hkey := Bcrypt.key_of_le (Nat.le_of_lt hlong)
  have hread := Bcrypt.bytesRead_of_le (Nat.le_of_lt hlong)
  refine ⟨fun cost salt => Password.hash_eq_tooLong_iff.2 hlong, fun cost salt p h hhash => ?_,
    fun ctx email h a hrun => ?_, fun ctx token new h a hrun => ?_, fun p hp => ?_⟩
  · have hverify := Password.verify_iff_of_hash (q := q) hhash
    refine ⟨hkey ▸ hverify, fun hp => hverify.2 ?_⟩
    exact Bcrypt.digest_congr (hread.trans hp) _ _
  · have hperform : Meets .free (fun h _ => ∃ a, Got h (.accountByEmail email) (.ok a) ∧
        a.emailConfirmed = true ∧ Password.verify q a.passwordHash = true) (fun _ _ => True)
        (s.perform ctx (.login email q)) [] := meets_map.2 login_verifies
    exact hperform.of_yields_ok hrun
  · obtain ⟨h', u, hash, ctx', ⟨h₁, ctx'', b, h₂, rfl, -, -, hold, -⟩, rfl⟩ :=
      changePassword_anyhow.of_yields hrun (fun _ _ => trivial) a rfl
    exact ⟨u, b, ⟨ctx'', by simp⟩, hold⟩
  · have halike := hread.trans hp
    refine ⟨fun ctx email => ?_, fun ctx token new hq hne => ?_⟩
    · exact congrArg (Answer.pair <$> ·) (login_congr halike s ctx email)
    · exact congrArg ((fun _ => Answer.done) <$> ·) (changePassword_congr halike hq hne s ctx token)

/-- A password of 72 letters is set, and one of 73 lets in. -/
theorem long_password_cut_plain : ∃ es e q t, plain.Sequential {} es ∧ 72 < Utf8.size q ∧
    e.operation = .login "owner@example.org" q ∧
    (plain.carryOut (plain.after {} es) e).result = .ok (.pair t) := by
  let letters (n : Nat) : String := String.ofList (List.replicate n 'a')
  have hacceptable : plain.Acceptable ⟨"owner@example.org", letters 72, "Owner"⟩ :=
    ⟨rfl, rfl, rfl, by decide, by decide⟩
  obtain ⟨es, e, t, hes, -, hop, ht, -⟩ :=
    exists_session hacceptable ready_plain (by decide) (by decide) (w := {}) rfl
  have hlong : 72 < Utf8.size (letters 73) := by decide
  obtain ⟨-, -, -, -, halike⟩ := (long_password_cut plain).2 (letters 73) hlong
  obtain ⟨hlogin, -⟩ := halike (letters 72) (by decide +kernel)
  refine ⟨es, ⟨e.ctx, .login "owner@example.org" (letters 73), e.time, e.draws⟩, letters 73, t,
    hes.of_concat, hlong, rfl, ?_⟩
  rw [← ht, carryOut, carryOut, hop, hlogin]

end Service

end SignOn
