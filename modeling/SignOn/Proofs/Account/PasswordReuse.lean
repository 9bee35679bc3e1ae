import SignOn.Proofs.Account.EventTokens
import SignOn.Proofs.Account.PasswordChange
import SignOn.Proofs.Crypto.KeyBytes
import SignOn.Proofs.Service.Undisturbed
/-!
# Setting the password that is in force

Nobody is to set the password that an account already has. A reset of a
password checks the new one against the hash of the account, and refuses it
if it is right. A change of a password checks the old one against the hash,
and asks of the new one that it is another text. That is less: a hash tells
passwords apart by what is read of them, and there are other texts of which
the same is read. So every password in force can be set again by a change
that is given such a text as the old one: `Service.password_set_again`.
-/

namespace SignOn

/-- Of two passwords of which one verifies against a hash, the other does
if it has the same digest, at the cost and with the salt of the hash. -/
theorem Password.verify_iff_of_verify {p q hash : String} (hp : verify p hash = true) :
    verify q hash = true ↔ ∃ r, Bcrypt.Spells r hash ∧
      Bcrypt.digest r.cost r.salt (Bcrypt.key q) = Bcrypt.digest r.cost r.salt (Bcrypt.key p) := by
  obtain ⟨r, hr, hdigest⟩ := Bcrypt.verify_eq_true_iff.1 hp
  constructor
  · intro hq
    obtain ⟨r', hr', hdigest'⟩ := Bcrypt.verify_eq_true_iff.1 hq
    obtain rfl := hr.unique hr'
    exact ⟨r, hr, hdigest'.trans hdigest.symm⟩
  · rintro ⟨r', hr', hsame⟩
    obtain rfl := hr.unique hr'
    exact Bcrypt.verify_eq_true_iff.2 ⟨r, hr, hsame.trans hdigest⟩

namespace Service

open Procedure

variable {s : Service} {draws : Draws} {store : Store} {outbox : Outbox} {l : List Transition}
variable {ctx : RequestContext} {token old new : String} {u now : Int} {a b : Account}

/-! ## What a password is set in place of -/

/-- An account that was there has a new password. -/
structure GivenPassword (store store' : Store) (a : Account) (new : String) : Prop where
  before : a ∈ store.accounts
  after : ∃ a' ∈ store'.accounts, a'.id = a.id ∧ Password.verify new a'.passwordHash = true

/-- Setting a hash of a password gives it to the account. -/
theorem meets_alone_setPassword {hash : String} {ok : Stage → Unit → Prop}
    {fail : Stage → Failure ServiceError → Prop} (ha : a ∈ store.accounts)
    (hhash : Password.verify new hash = true)
    (hok : ∀ l' store', GivenPassword store store' a new → ok ⟨l', store', outbox⟩ ())
    (hfail : ∀ l' e, fail ⟨l', store, outbox⟩ e) :
    Meets (.alone draws) ok fail (ask ctx (.setPassword a.id hash) .ofStore)
      ⟨l, store, outbox⟩ := by
  refine meets_alone_ask (fun l' t _ store' _ _ _ hrun => hok l' store' ⟨ha, ?_⟩)
    fun l' e _ => hfail l' _
  refine ⟨_, Store.revise_mem_of_run hrun ha, Query.revise_id, ?_⟩
  rwa [Query.revise, if_pos rfl]

/-- **A reset of a password** that succeeds has set it in place of
another. -/
theorem forgetPassword_replaces :
    Meets (.alone draws)
      (fun σ _ => ∃ a, namedByOpaque? token (fun t => s.issuer.parseAccount
          (draws 0 .clock).moment.seconds t .forgetPassword) = some a.id ∧
        GivenPassword store σ.store a new ∧ Password.verify new a.passwordHash = false)
      (fun _ _ => True) (s.forgetPassword ctx token new) ⟨[], store, outbox⟩ := by
  refine meets_bind.2 (meets_require.2 ⟨fun _ => ?_, fun _ => trivial⟩)
  refine meets_bind.2 (meets_alone_accountOfOpaque (fun l₁ u hu => ?_) fun _ _ => trivial)
  refine meets_bind.2 (meets_alone_look (fun _ => store.accountById u) (fun _ => rfl)
    (fun l₂ _ a _ hfound => ?_) fun _ _ _ => trivial)
  obtain ⟨ha, hid⟩ := Store.mem_of_accountById hfound
  rw [← hid] at hu ⊢
  refine meets_bind.2 (meets_alone_check (fun l₃ _ => ?_) fun _ _ _ => trivial)
  refine meets_bind.2 (meets_require.2 ⟨fun hother => ?_, fun _ => trivial⟩)
  refine meets_bind.2 (meets_alone_hash (fun l₄ _ hash _ hhash => ?_) fun _ _ _ => trivial)
  refine meets_alone_setPassword ha (Password.verify_of_hash hhash) (fun _ _ hgiven => ?_)
    fun _ _ => trivial
  exact ⟨a, hu, hgiven, by simpa using hother⟩

/-- **A change of a password** that succeeds has set it in place of one
that is another text. -/
theorem changePassword_alone :
    Meets (.alone draws)
      (fun σ _ => ∃ a, s.issuer.parseAccess (draws 0 .clock).moment.seconds token = some a.id ∧
        GivenPassword store σ.store a new ∧ old ≠ new ∧ Password.verify old a.passwordHash = true)
      (fun _ _ => True) (s.changePassword ctx token old new) ⟨[], store, outbox⟩ := by
  refine meets_bind.2 (meets_require.2 ⟨fun _ => ?_, fun _ => trivial⟩)
  refine meets_bind.2 (meets_require.2 ⟨fun hne => ?_, fun _ => trivial⟩)
  refine meets_bind.2 (meets_alone_accountOfAccess (fun l₁ u hu => ?_) fun _ _ => trivial)
  refine meets_bind.2 (meets_alone_look (fun _ => store.accountById u) (fun _ => rfl)
    (fun l₂ _ a _ hfound => ?_) fun _ _ _ => trivial)
  obtain ⟨ha, hid⟩ := Store.mem_of_accountById hfound
  rw [← hid] at hu ⊢
  refine meets_bind.2 (meets_alone_check (fun l₃ _ => ?_) fun _ _ _ => trivial)
  refine meets_bind.2 (meets_require.2 ⟨fun hold => ?_, fun _ => trivial⟩)
  refine meets_bind.2 (meets_alone_hash (fun l₄ _ hash _ hhash => ?_) fun _ _ _ => trivial)
  refine meets_alone_setPassword ha (Password.verify_of_hash hhash) (fun _ _ hgiven => ?_)
    fun _ _ => trivial
  exact ⟨a, hu, hgiven, bne_iff_ne.1 hne, hold⟩

/-- What a procedure ends with that an errand carries out holds of the
errand, if it is answered. -/
theorem carryOut_of_alone {α : Type} {w : World} {e : Errand} {x : Procedure α} {f : α → Answer}
    {ok : Stage → α → Prop} (hop : s.perform e.ctx e.operation = f <$> x)
    (hmeets : Meets (.alone e.draws) ok (fun _ _ => True) x ⟨[], w.store, w.outbox⟩) {r : Answer}
    (hr : (s.carryOut w e).result = .ok r) :
    ∃ σ r', σ.store = (s.carryOut w e).world.store ∧ ok σ r' := by
  have hperform : Meets (.alone e.draws) (fun σ _ => ∃ r', ok σ r') (fun _ _ => True)
      (s.perform e.ctx e.operation) ⟨[], w.store, w.outbox⟩ := by
    rw [hop]
    exact meets_map.2 (hmeets.mono (fun _ r' h => ⟨r', h⟩) fun _ _ h => h)
  obtain ⟨r', hok⟩ := (carryOut_of_meets_alone hperform).1 r hr
  exact ⟨_, r', rfl, hok⟩

/-! ## Setting the same password again -/

/-- **A change of a password that is in order** succeeds. -/
theorem changePassword_calm {σ : Scene} (h : s.Changeable now token old new b)
    (hσ : σ.store.AccountsInOrder) (hb : b ∈ σ.store.accounts) :
    Meets (.calm now) (fun _ _ => True) (fun _ _ => False) (s.changePassword ctx token old new)
      σ := by
  rw [changePassword_eq]
  refine meets_bind.2 ((checkAndHash_calm h hσ hb).mono ?_ fun _ _ he => he)
  rintro σ' ⟨u, hash⟩ ⟨rfl, rfl⟩
  have hset : σ'.store.setPassword now b.id hash = .ok _ :=
    Store.changeAccount_eq_ok_iff.2 ⟨⟨b, hb, rfl⟩, rfl⟩
  have hrun : σ'.store.run now (.setPassword b.id hash) = .ok ((), _) :=
    Store.changed_eq_ok_iff.2 hset
  exact meets_calm_ask_of_run hrun trivial

/-- **The password in force can be set again** by a change: as the old one
it is given a text that is read as this password is. -/
theorem Sequential.exists_same_password {w : World} {es : List Errand} (hes : s.Sequential w es)
    (hw : w.store = .empty) (hnow : ∀ e ∈ es, e.time ≤ now) (hready : s.issuer.Ready now)
    (hcost : Bcrypt.costAllowed s.hashCost.toNat = true)
    (hb : b ∈ (s.after w es).store.accounts) (hnew : s.acceptsPassword new = true)
    (hinForce : Password.verify new b.passwordHash = true)
    (htoken : s.issuer.parseAccess now token = some b.id) :
    ∃ old draws, s.Sequential w (es ++ [⟨unhurried, .changePassword token old new, now, draws⟩]) ∧
      (s.carryOut (s.after w es) ⟨unhurried, .changePassword token old new, now, draws⟩).result =
        .ok .done := by
  obtain ⟨hvalid, hsize⟩ : s.validator.accepts .password new = true ∧
      Utf8.size new ≤ Password.maxBytes := by
    simpa [acceptsPassword] using hnew
  obtain ⟨old, hlong, halike⟩ := Bcrypt.exists_long_bytesRead new
  have hne : old ≠ new := by
    rintro rfl
    exact absurd hsize (Nat.not_le_of_lt hlong)
  have hold : Password.verify old b.passwordHash = true :=
    (Bcrypt.verify_congr halike b.passwordHash).trans hinForce
  obtain ⟨draws, hnext⟩ := hes.exists_concat (.changePassword token old new) unhurried rfl hnow
    hready
  obtain ⟨-, hdone, -⟩ := hnext.exists_of_meets rfl
    (changePassword_calm ⟨hne, hvalid, hsize, hcost, htoken, hold⟩ (accountsInOrder_after hw es) hb)
  exact ⟨old, draws, hnext, hdone⟩

/-- **What a new password replaces.** A reset that succeeds, in whatever
world and whatever its steps meet, has given the account a password that
did not verify against its hash before. A change that succeeds has given it
one that is another text than the old password, which did; so the new one
did as well exactly if the two have the same digest, as they have if the
same is read of them. And that happens: every password that an account has
and that may be set can be set again by a change, in calm conditions. -/
theorem password_set_again (s : Service) :
    (∀ w e token new r, e.operation = .forgetPassword token new →
      (s.carryOut w e).result = .ok r →
      ∃ a, s.named? (e.draws 0 .clock).moment.seconds w.store e.operation = some a.id ∧
        GivenPassword w.store (s.carryOut w e).world.store a new ∧
        Password.verify new a.passwordHash = false) ∧
    (∀ w e token old new r, e.operation = .changePassword token old new →
      (s.carryOut w e).result = .ok r →
      ∃ a, s.named? (e.draws 0 .clock).moment.seconds w.store e.operation = some a.id ∧
        GivenPassword w.store (s.carryOut w e).world.store a new ∧
        old ≠ new ∧ Password.verify old a.passwordHash = true ∧
        (Password.verify new a.passwordHash = true ↔ ∃ r, Bcrypt.Spells r a.passwordHash ∧
          Bcrypt.digest r.cost r.salt (Bcrypt.key new) =
            Bcrypt.digest r.cost r.salt (Bcrypt.key old)) ∧
        (Bcrypt.bytesRead new = Bcrypt.bytesRead old →
          Password.verify new a.passwordHash = true)) ∧
    ∀ w es now token new b, w.store = .empty → s.Sequential w es → (∀ e ∈ es, e.time ≤ now) →
      s.issuer.Ready now → Bcrypt.costAllowed s.hashCost.toNat = true →
      b ∈ (s.after w es).store.accounts → s.acceptsPassword new = true →
      Password.verify new b.passwordHash = true → s.issuer.parseAccess now token = some b.id →
      ∃ old draws,
        s.Sequential w (es ++ [⟨unhurried, .changePassword token old new, now, draws⟩]) ∧
        (s.carryOut (s.after w es) ⟨unhurried, .changePassword token old new, now, draws⟩).result =
          .ok .done := by
  refine ⟨fun w e token new r hop hr => ?_, fun w e token old new r hop hr => ?_, ?_⟩
  · obtain ⟨σ, -, hstore, a, ha, hgiven, hother⟩ :=
      carryOut_of_alone (by rw [hop]; rfl) forgetPassword_replaces hr
    rw [hop]
    exact ⟨a, ha, hstore ▸ hgiven, hother⟩
  · obtain ⟨σ, -, hstore, a, ha, hgiven, hne, hold⟩ :=
      carryOut_of_alone (by rw [hop]; rfl) changePassword_alone hr
    rw [hop]
    refine ⟨a, ha, hstore ▸ hgiven, hne, hold, Password.verify_iff_of_verify hold, fun halike => ?_⟩
    exact (Bcrypt.verify_congr halike a.passwordHash).trans hold
  · intro w es now token new b hw hes hnow hready hcost hb hnew hinForce htoken
    exact hes.exists_same_password hw hnow hready hcost hb hnew hinForce htoken

/-- Whoever has registered changes the password to what it is. -/
theorem password_set_again_plain : ∃ es e token old b, plain.Sequential {} (es ++ [e]) ∧
    b ∈ (plain.after {} es).store.accounts ∧ Password.verify "password" b.passwordHash = true ∧
    plain.issuer.parseAccess e.time token = some b.id ∧
    e.operation = .changePassword token old "password" ∧
    (plain.carryOut (plain.after {} es) e).result = .ok .done := by
  obtain ⟨e, hash, hes, htime, -, hhash, hstore⟩ := exists_account_plain
  have hverify := Password.verify_of_hash hhash
  let b := Store.empty.opened 0 ⟨"owner@example.org", hash, "Owner"⟩
  have hb : b ∈ (plain.after {} [e]).store.accounts := by
    rw [hstore]
    exact List.mem_singleton_self b
  have hfits : Fits64 b.id := (by decide : Fits64 1)
  obtain ⟨token, htoken⟩ := exists_account_token ready_plain (by decide : (0 : Int) < 60)
    (by decide) hfits .access
  obtain ⟨-, -, hagain⟩ := password_set_again plain
  obtain ⟨old, draws, hnext, hdone⟩ := hagain {} [e] 0 token "password" b rfl hes (by simp [htime])
    ready_plain (by decide) hb (by decide) hverify htoken
  exact ⟨[e], _, token, old, b, hnext, hb, hverify, htoken, rfl, hdone⟩

end Service

end SignOn
