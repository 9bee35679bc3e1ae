import SignOn.Proofs.Service.Internal
import SignOn.Proofs.Service.Reach
import SignOn.Proofs.Service.Undisturbed
/-!
# What a registration comes to

A registration by itself that no fault of the store and no deadline
disturbs is refused for the first of five reasons that applies
(`Service.registrationFault?`), or it opens one account. The first four
are found before the store is asked for anything. Whether the publisher
works makes no difference but for the event. All this is
`Service.register_outcome`.
-/

namespace SignOn

namespace Service

open Procedure

variable {s : Service} {ctx : RequestContext} {input : Registration} {u : Int} {w : World}
variable {works : Prop}

/-- What a registration is refused for, in the order in which it is looked
at: the rules for the fields, the length of the password in bytes, and an
account with the address. -/
def registrationFault? (s : Service) (store : Store) (input : Registration) :
    Option ServiceError :=
  if s.validator.accepts .email input.email = false then some .invalidEmail
  else if s.validator.accepts .password input.password = false then some .invalidPassword
  else if s.validator.accepts .displayName input.displayName = false then
    some .invalidDisplayName
  else if Password.maxBytes < Utf8.size input.password then some .invalidPassword
  else if ∃ a ∈ store.accounts, a.email = input.email then some .accountExists
  else none

/-- All that the opening of an account changes in a store: there is one
account more, with a new number, and it has what was given and nothing
else. -/
structure OpensAccount (input : Registration) (u : Int) (before after : Store) : Prop where
  fresh : ∀ a ∈ before.accounts, a.id < u
  account : ∃ a, after = { before with accounts := before.accounts ++ [a], lastAccountId := u } ∧
    a.id = u ∧ a.email = input.email ∧ a.displayName = input.displayName ∧
    Password.verify input.password a.passwordHash = true ∧ a.emailConfirmed = false ∧
    a.phone = none ∧ a.telegram = none ∧ a.avatar = none

/-- All that changes in an outbox when the owner of an account is sent a
token that confirms the address: there is one event more. -/
def EventAdded (s : Service) (u : Int) (before after : Outbox) : Prop :=
  ∃ (event : Event) (token : String) (c : Claims),
    after = { before with
      published := before.published ++ [⟨s.subjects.subject .verifyEmail, event.payload⟩] } ∧
    (event.accountId : Int) = u ∧ event.token = Wrapped.encodeString token ∧
    s.issuer.Signs token c ∧ c.kind = .verifyEmail ∧ c.value = .account u

/-- How a registration fails: it is refused and changes neither the store
nor the outbox, or it is aborted although there is nothing that it would be
refused for. -/
inductive RegistrationFailed (s : Service) (input : Registration) (w w' : World) :
    Failure ServiceError → Prop
  | refused {err : ServiceError} (fault : s.registrationFault? w.store input = some err)
      (store : w'.store = w.store) (outbox : w'.outbox = w.outbox)
      (early : err ≠ .accountExists → w' = w) : RegistrationFailed s input w w' (.reported err)
  | aborted (fault : s.registrationFault? w.store input = none) :
      RegistrationFailed s input w w' .aborted

/-! ## Step by step -/

/-- A password that is not too long is hashed. -/
theorem meets_undisturbed_hashPassword (hs : s.Able) {password : String}
    {ok : World → String → Prop} {fail : World → Failure ServiceError → Prop}
    (hok : ∀ hash, Utf8.size password ≤ Password.maxBytes →
      Password.verify password hash = true → ok w hash)
    (hfail : Password.maxBytes < Utf8.size password → fail w (.reported .invalidPassword)) :
    Meets (.undisturbed works) ok fail (s.hashPassword ctx password) w := by
  refine meets_bind.2 (meets_undisturbed_beforeDeadline ?_)
  refine meets_bind.2 (meets_undisturbed_inward (by trivial) fun _ _ salt _ => ?_)
  by_cases hlong : Password.maxBytes < Utf8.size password
  · rw [Password.hash_eq_tooLong_iff.2 hlong]
    exact hfail hlong
  · obtain ⟨hash, hhash⟩ := Password.exists_hash_eq_ok hs.hashes salt (Nat.le_of_not_lt hlong)
    rw [hhash]
    exact hok hash (Nat.le_of_not_lt hlong) (Password.verify_of_hash hhash)

/-- The owner of an account is sent an event, unless the publisher does
not work or the expiry of the token leaves the range. -/
theorem announceVerifyEmail_undisturbed (hs : s.Able) (hu : 0 ≤ u) :
    Meets (.undisturbed works)
      (fun w' _ => w'.store = w.store ∧ s.EventAdded u w.outbox w'.outbox)
      (fun w' e => ∀ err, e = .reported err → w'.store = w.store ∧ w'.outbox = w.outbox ∧
        ¬ (works ∧ w.outbox.failing = false))
      (s.announceVerifyEmail ctx u) w := by
  refine meets_bind.2 (meets_undisturbed_issue (fun now jti issued hissued => ?_)
    fun now jti e he => ?_)
  · refine meets_bind.2 (meets_undisturbed_publish ?_ fun e hnot _ _ => ⟨rfl, rfl, hnot⟩)
    exact ⟨rfl, _, issued.token, _, rfl, Int.natAbs_of_nonneg hu, rfl,
      (TokenIssuer.generate_eq_ok hissued).2.1, rfl, rfl⟩
  · obtain rfl := hs.eq_aborted he
    rintro err ⟨⟩

/-- **A registration** that is not aborted is refused for what it is to be
refused for, or opens an account and announces it. -/
theorem register_undisturbed (hs : s.Able) (horder : w.store.AccountsInOrder) :
    Meets (.undisturbed works)
      (fun w' u => s.registrationFault? w.store input = none ∧
        OpensAccount input u w.store w'.store ∧
        (s.EventAdded u w.outbox w'.outbox ∨
          w'.outbox = w.outbox ∧ ¬ (works ∧ w.outbox.failing = false)))
      (s.RegistrationFailed input w) (s.register ctx input) w := by
  refine meets_bind.2 (meets_require.2 ⟨fun hemail => ?_, fun hemail => ?_⟩)
  swap
  · exact .refused (by simp [registrationFault?, hemail]) rfl rfl fun _ => rfl
  refine meets_bind.2 (meets_require.2 ⟨fun hpassword => ?_, fun hpassword => ?_⟩)
  swap
  · exact .refused (by simp [registrationFault?, hemail, hpassword]) rfl rfl fun _ => rfl
  refine meets_bind.2 (meets_require.2 ⟨fun hname => ?_, fun hname => ?_⟩)
  swap
  · exact .refused (by simp [registrationFault?, hemail, hpassword, hname]) rfl rfl fun _ => rfl
  refine meets_bind.2 (meets_undisturbed_hashPassword hs (fun hash hsize hverify => ?_)
    fun hlong => ?_)
  swap
  · exact .refused (by simp [registrationFault?, hemail, hpassword, hname, hlong]) rfl rfl
      fun _ => rfl
  have hfault : s.registrationFault? w.store input =
      if ∃ a ∈ w.store.accounts, a.email = input.email then some .accountExists else none := by
    simp [registrationFault?, hemail, hpassword, hname, Nat.not_lt_of_le hsize]
  -- from here on the store is asked
  refine meets_bind.2 (meets_undisturbed_query (fun now a store hrun => ?_) fun now e hrun => ?_)
  · obtain ⟨hfound, rfl⟩ := Store.unchanged_eq_ok_iff.1 hrun
    rw [if_pos ⟨a, Store.mem_of_accountByEmail hfound⟩] at hfault
    exact .refused hfault rfl rfl fun hne => absurd rfl hne
  obtain ⟨rfl, hfree⟩ := Store.accountByEmail_eq_error_iff.1 (Store.unchanged_eq_error_iff.1 hrun)
  rw [if_neg (by simpa using hfree)] at hfault
  refine meets_bind.2 (meets_undisturbed_ask (fun now u store hrun => ?_) fun now e hrun => ?_)
  swap
  · have hinsert : w.store.insertAccount now _ = .error e := hrun
    rw [Store.insertAccount_eq_ok now hfree] at hinsert
    cases hinsert
  have hinsert : w.store.insertAccount now _ = .ok (u, store) := hrun
  rw [Store.insertAccount_eq_ok now hfree] at hinsert
  obtain ⟨rfl, rfl⟩ := Prod.mk.inj (Except.ok.inj hinsert)
  have hopens : OpensAccount input (w.store.lastAccountId + 1) w.store _ :=
    ⟨fun a ha => Int.lt_add_one_of_le (horder.le_last a ha),
      w.store.opened now ⟨input.email, hash, input.displayName⟩, rfl, rfl, rfl, rfl, hverify, rfl,
      rfl, rfl, rfl⟩
  -- whether the event gets out is all that is left open
  have hnonneg : 0 ≤ w.store.lastAccountId + 1 := Int.le_add_one horder.last_nonneg
  refine meets_bind.2 (meets_recover.2 ((announceVerifyEmail_undisturbed hs hnonneg).mono ?_ ?_))
  · rintro w' _ ⟨hstore, hadded⟩
    exact ⟨hfault, hstore ▸ hopens, .inl hadded⟩
  · rintro w' (err | _) hfailed
    · obtain ⟨hstore, houtbox, hnot⟩ := hfailed err rfl
      exact ⟨hfault, hstore ▸ hopens, .inr ⟨houtbox, hnot⟩⟩
    · exact .aborted hfault

/-- **A registration by itself is not aborted**, if a token that confirms an
address would expire within the 64-bit numbers at each of its steps. -/
theorem carryOut_register_ne_aborted (w : World) {e : Errand} (hop : e.operation = .register input)
    (hfits : ∀ t ∈ s.stepsTaken w e, Fits64 (t.time + s.issuer.verifyEmailTtl)) :
    (s.carryOut w e).result ≠ .error .aborted := by
  obtain ⟨turns, hrun, htrace⟩ := s.exists_turns_carryOut w e
  let clocks : Setting (List Step) := .history (fun _ _ => True) fun e r =>
    ∀ m : Moment, (⟨e, r⟩ : Step) = ⟨.clock, m⟩ → Fits64 (m.seconds + s.issuer.verifyEmailTtl)
  have hmeets : Meets clocks (fun _ _ => True) (fun _ e => ∃ err, e = .reported err)
      (s.perform e.ctx e.operation) [] := by
    rw [hop]
    exact meets_map.2 (register_reported (fun _ _ => trivial) fun _ m _ hm => hm.1 m rfl)
  obtain ⟨prog, hprog, hmeets'⟩ := Pool.meets_run_of_relies (q := s.start w [e.request]) (l := [])
    (i := 0) turns rfl hmeets fun t ht _ m hm => by
      rw [Transition.seconds_eq_time hm]
      exact hfits t (htrace ▸ ht)
  rw [hrun] at hprog
  obtain rfl := Option.some.inj hprog
  intro haborted
  rw [haborted] at hmeets'
  obtain ⟨err, herr⟩ := hmeets'
  cases herr

/-! ## The theorem -/

/-- **What a registration comes to.** It is carried out by itself in a
world that some run has left, by a service that can hash and sign, as those
of settings that pass can (`able_of_check`), whatever its rules for fields
are; no fault of the store and no deadline disturbs it, but publishing may
fail.

If there is something that it is to be refused for it is refused for that,
and neither the store nor the outbox changes; and if it is not for an
account with the address then the world is as it was, so that nothing was
asked of the store or published. If there is nothing, and the token for the
owner expires within the 64-bit numbers, it answers the number of a new
account. That account is all that changes in the store. At most one event
is added to the outbox, and exactly one if the publisher works. -/
theorem register_outcome (s : Service) (hs : s.Able) {l : List Transition} (hw : s.Reaches l w)
    (e : Errand) (hop : e.operation = .register input)
    (hsteps : ∀ t ∈ s.stepsTaken w e, t.Undisturbed) :
    (∀ err, s.registrationFault? w.store input = some err →
      (s.carryOut w e).result = .error (.reported err) ∧
      (s.carryOut w e).world.store = w.store ∧ (s.carryOut w e).world.outbox = w.outbox ∧
      (err ≠ .accountExists → (s.carryOut w e).world = w)) ∧
    (s.registrationFault? w.store input = none →
      (∀ t ∈ s.stepsTaken w e, Fits64 (t.time + s.issuer.verifyEmailTtl)) → ∃ u,
      (s.carryOut w e).result = .ok (.id u) ∧
      OpensAccount input u w.store (s.carryOut w e).world.store ∧
      (s.EventAdded u w.outbox (s.carryOut w e).world.outbox ∨
        (s.carryOut w e).world.outbox = w.outbox) ∧
      (w.outbox.failing = false → (∀ t ∈ s.stepsTaken w e, t.draw.publishFault = none) →
        s.EventAdded u w.outbox (s.carryOut w e).world.outbox)) := by
  let works : Prop := ∀ t ∈ s.stepsTaken w e, t.draw.publishFault = none
  have hregister : Meets (.undisturbed works)
      (fun w' a => s.registrationFault? w.store input = none ∧ ∃ u, a = .id u ∧
        OpensAccount input u w.store w'.store ∧
        (s.EventAdded u w.outbox w'.outbox ∨
          w'.outbox = w.outbox ∧ ¬ (works ∧ w.outbox.failing = false)))
      (s.RegistrationFailed input w) (s.perform e.ctx e.operation) w := by
    rw [hop]
    exact meets_map.2 ((register_undisturbed hs hw.accounts).mono
      (fun _ u hu => ⟨hu.1, u, rfl, hu.2⟩) fun _ _ he => he)
  have hrun := carryOut_of_meets_undisturbed hregister hsteps fun hworks => hworks
  cases hresult : (s.carryOut w e).result with
  | error failure =>
    rw [hresult] at hrun
    cases hrun with
    | refused hfault hstore houtbox hearly =>
      refine ⟨fun err hfault' => ?_, fun hnone => ?_⟩
      · obtain rfl := Option.some.inj (hfault.symm.trans hfault')
        exact ⟨rfl, hstore, houtbox, hearly⟩
      · cases hfault.symm.trans hnone
    | aborted hnone =>
      refine ⟨fun err hfault => ?_, fun _ hfits => ?_⟩
      · cases hnone.symm.trans hfault
      · exact absurd hresult (carryOut_register_ne_aborted w hop hfits)
  | ok a =>
    rw [hresult] at hrun
    obtain ⟨hnone, u, rfl, hopens, hsent⟩ := hrun
    refine ⟨fun err hfault => ?_, fun _ _ => ⟨u, rfl, hopens, hsent.imp_right And.left, ?_⟩⟩
    · cases hnone.symm.trans hfault
    · exact fun hopen hworks => hsent.resolve_right fun h => h.2 ⟨hworks, hopen⟩

/-- The first registration of a service without rules: it opens an
account, and one event goes out. -/
theorem register_outcome_plain : ∃ w e input u, e.operation = .register input ∧
    plain.registrationFault? w.store input = none ∧
    (plain.carryOut w e).result = .ok (.id u) ∧
    OpensAccount input u w.store (plain.carryOut w e).world.store ∧
    plain.EventAdded u w.outbox (plain.carryOut w e).world.outbox := by
  let input : Registration := ⟨"owner@example.org", "password", "Owner"⟩
  let e : Errand := ⟨unhurried, .register input, 0, calmDraws 0 toString⟩
  have hcalm : ∀ t ∈ plain.stepsTaken {} e, t.Calm 0 :=
    Program.calm_trace (plain.perform_isFor unhurried (.register input)) rfl 0 {}
  have hreaches : plain.Reaches [] {} := ⟨{}, [], [], rfl, rfl, rfl⟩
  have hable : plain.Able := ⟨acceptable_plain.cost, _, rfl⟩
  have hnone : plain.registrationFault? Store.empty input = none := by decide
  obtain ⟨-, haccepts⟩ := register_outcome plain hable hreaches e rfl
    fun t ht => (hcalm t ht).undisturbed
  have hfits : Fits64 (0 + plain.issuer.verifyEmailTtl) := by decide
  obtain ⟨u, hu, hopens, -, hadded⟩ := haccepts hnone fun t ht => (hcalm t ht).time ▸ hfits
  exact ⟨{}, e, input, u, rfl, hnone, hu, hopens, hadded rfl fun t ht => (hcalm t ht).publisher⟩

end Service

end SignOn
