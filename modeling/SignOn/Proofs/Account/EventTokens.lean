import SignOn.Proofs.Account.Conduct
import SignOn.Proofs.Config.Checked
import SignOn.Proofs.Session.Admission
/-!
# The tokens of events

An event hands a token to the owner of an account. The token is signed for
the account and for one occasion, and expires (`Service.exists_event`). It
can be redeemed until then, for the account and on that occasion, and
nowhere else: `Service.event_token_redeemable`.
-/

namespace SignOn

/-- What an operation tells the owner of an account. -/
def Operation.occasion? : Operation → Option Occasion
  | .register _ | .sendVerifyEmail _ => some .verifyEmail
  | .sendForgetPassword _ => some .forgetPassword
  | _ => none

namespace Service

open Procedure

variable {s : Service} {w : World} {e : Errand} {l₁ l₂ : List Transition} {t : Transition}
variable {occasion : Occasion} {u : Int}

/-! ## What is published -/

/-- What an errand finds that has not written. -/
theorem sameAccounts_of_stepsTaken (htaken : s.stepsTaken w e = l₁ ++ t :: l₂)
    (hunwritten : Unwritten (stepsOf 0 l₁)) : w.store.SameAccounts t.before.store := by
  have hleads := s.leads_carryOut w e
  rw [htaken] at hleads
  refine hleads.split.1.sameAccounts (not_wrote_of_unwritten hunwritten fun t' ht' => ?_)
  exact program_of_stepsTaken (by rw [htaken]; exact List.mem_append_left _ ht')

/-- The account that an operation opens is the next one. -/
theorem named?_of_opens {input : Registration} {new : NewAccount}
    (htaken : s.stepsTaken w e = l₁ ++ t :: l₂) (hop : e.operation = .register input)
    (hopens : t.Answers (.insertAccount new) u) (now : Int) :
    s.named? now w.store e.operation = some u := by
  obtain ⟨ctx, hstep⟩ := id hopens
  obtain ⟨hunwritten, hmay⟩ := (allows_of_stepsTaken htaken).writes ctx (.insertAccount new)
    (congrArg Step.effect hstep) rfl
  have hsame := sameAccounts_of_stepsTaken htaken hunwritten
  obtain ⟨hfree, hid, -⟩ := Store.insertAccount_eq_ok_iff.1 (Transition.run_of_answers hopens)
  rw [hsame.1] at hfree
  rw [hsame.2] at hid
  rw [hop] at hmay ⊢
  cases hmay
  have hnone : w.store.accountWithEmail? input.email = none := by
    simpa [Store.accountWithEmail?] using hfree
  rw [named?, hnone]
  exact congrArg some hid.symm

/-- The account that it finds by an address is the one that has it. -/
theorem accountWithEmail?_of_found {email : String} {a : Account}
    (htaken : s.stepsTaken w e = l₁ ++ t :: l₂) (hunwritten : Unwritten (stepsOf 0 l₁))
    (hfound : t.Answers (.accountByEmail email) a) :
    w.store.accountWithEmail? email = some a := by
  have hsame := sameAccounts_of_stepsTaken htaken hunwritten
  have hrun := (Store.unchanged_eq_ok_iff.1 (Transition.run_of_answers hfound)).1
  unfold Store.accountByEmail Store.accountWithEmail? at hrun
  rw [hsame.1] at hrun
  split at hrun
  · next b hb => rw [Store.accountWithEmail?, hb, Except.ok.inj hrun]
  · cases hrun

/-- **Whom an operation tells** is the owner of the account that it is
about. -/
theorem named?_of_mayTell (htaken : s.stepsTaken w e = l₁ ++ t :: l₂)
    (htell : MayTell e.operation (stepsOf 0 l₁) occasion u)
    (hrest : Unwritten (stepsOf 0 l₁) ∨ ∃ input, e.operation = .register input) (now : Int) :
    e.operation.occasion? = some occasion ∧ s.named? now w.store e.operation = some u ∧
      ∃ a ∈ (s.carryOut w e).world.store.accounts, a.id = u := by
  have hleads := s.leads_carryOut w e
  generalize hop : e.operation = op at htell hrest
  have hlookup {email : String} {a : Account}
      (ha : Got (stepsOf 0 l₁) (.accountByEmail email) (.ok a))
      (hunwritten : Unwritten (stepsOf 0 l₁)) :
      w.store.accountWithEmail? email = some a ∧
        ∃ a' ∈ (s.carryOut w e).world.store.accounts, a'.id = a.id := by
    obtain ⟨t', ht', -, hanswers⟩ := got_stepsOf.1 ha
    obtain ⟨k₁, k₂, rfl⟩ := List.append_of_mem ht'
    rw [List.append_assoc] at htaken
    have hbefore : Unwritten (stepsOf 0 k₁) := by
      intro x hx
      obtain ⟨t'', ht'', hi, hstep⟩ := mem_stepsOf.1 hx
      exact hunwritten x (mem_stepsOf.2 ⟨t'', List.mem_append_left _ ht'', hi, hstep⟩)
    have hfound := accountWithEmail?_of_found htaken hbefore hanswers
    obtain ⟨a', ha', hremains⟩ := hleads.accountsRemain a (List.mem_of_find?_eq_some hfound)
    exact ⟨hfound, a', ha', hremains.id⟩
  cases htell with
  | register hu =>
    obtain ⟨t', ht', -, hopens⟩ := got_stepsOf.1 hu
    obtain ⟨k₁, k₂, rfl⟩ := List.append_of_mem ht'
    rw [List.append_assoc] at htaken
    refine ⟨rfl, hop ▸ named?_of_opens htaken hop hopens now, ?_⟩
    rw [htaken] at hleads
    obtain ⟨-, rfl, hafter⟩ := Store.insertAccount_eq_ok_iff.1 (Transition.run_of_answers hopens)
    obtain ⟨a, ha, hremains⟩ := hleads.split.2.accountsRemain (t'.before.store.opened t'.time _)
      (by rw [hafter]; exact List.mem_append_right _ (List.mem_singleton_self _))
    exact ⟨a, ha, hremains.id⟩
  | sendVerifyEmail ha hconfirmed | sendForgetPassword ha hconfirmed =>
    obtain ⟨hfound, hthere⟩ := hlookup ha (hrest.resolve_right nofun)
    exact ⟨rfl, congrArg (Option.map Account.id) hfound, hthere⟩

/-- Whoever has registered is answered with that account. -/
theorem eq_of_registered (hcalm : ∀ t ∈ s.stepsTaken w e, t.Calm e.time) {input : Registration}
    (hop : e.operation = .register input) {n now : Int}
    (hresult : (s.carryOut w e).result = .ok (.id n))
    (hnamed : s.named? now w.store e.operation = some u) : n = u := by
  rcases carryOut_cases hcalm with
    ⟨-, hidle⟩ | ⟨q, r, before, after, ⟨h, hmay, -⟩, hsame, hrun, -, htold⟩
  · rw [hop] at hidle
    cases hidle _ hresult
  · rw [hop] at hmay hnamed
    cases hmay
    obtain ⟨-, hid, -⟩ := Store.insertAccount_eq_ok_iff.1 hrun
    have htold := htold.resolve_right fun haborted => by cases haborted.1.symm.trans hresult
    obtain rfl := Answer.id.inj (Except.ok.inj (htold.symm.trans hresult))
    rw [named?, Option.ite_none_right_eq_some] at hnamed
    rw [hid, hsame.2]
    exact Option.some.inj hnamed.2

/-- **A token for an account**, in opaque form: of a kind, accepted until
some time. -/
def Bears (s : Service) (kind : TokenKind) (u expiry : Int) (token : String) : Prop :=
  ∃ text c, token = Wrapped.encodeString text ∧ s.issuer.Signs text c ∧ c.Ranged ∧
    c.kind = kind ∧ c.value = .account u ∧ c.exp = expiry

/-- What was published is an event for an account, with such a token. -/
structure Conveys (s : Service) (occasion : Occasion) (u expiry : Int) (p : Published)
    (event : Event) : Prop where
  subject : p.subject = s.subjects.subject occasion
  read : p.event? = some event
  account : (event.accountId : Int) = u
  token : s.Bears occasion.kind u expiry event.token

/-- **Whatever an errand publishes is an event** with a token for the
account that it is about, that is accepted for a lifetime. -/
theorem exists_event {p : Published} (hcalm : ∀ t ∈ s.stepsTaken w e, t.Calm e.time)
    (horder : w.store.AccountsInOrder) (htime : Fits64 e.time)
    (hfits : Fits64 (s.carryOut w e).world.store.lastAccountId) {new : List Published}
    (hnew : (s.carryOut w e).world.outbox.published = w.outbox.published ++ new) (hp : p ∈ new) :
    ∃ occasion u event, e.operation.occasion? = some occasion ∧
      s.named? e.time w.store e.operation = some u ∧
      (∃ a ∈ (s.carryOut w e).world.store.accounts, a.id = u) ∧
      s.Conveys occasion u (e.time + s.issuer.ttlFor occasion) p event := by
  have hleads := s.leads_carryOut w e
  obtain ⟨new', houtbox, hpublishes⟩ := hleads.exists_published
  obtain rfl := List.append_cancel_left (hnew.symm.trans (congrArg Outbox.published houtbox))
  obtain ⟨t, ht, ctx, heffect⟩ := hpublishes p hp
  obtain ⟨l₁, l₂, htaken⟩ := List.append_of_mem ht
  have hallows := allows_of_stepsTaken htaken
  obtain ⟨occasion, u, htell, m, jti, issued, hm, -, hissued, hsubject, hpayload⟩ :=
    hallows.publishes ctx _ _ heffect
  obtain ⟨hoccasion, hnamed, a, ha, rfl⟩ := named?_of_mayTell htaken htell hallows.unwritten e.time
  -- the account has a number of 64 bits, and it is positive
  have hafter := hleads.accountsInOrder horder
  have hpos := hafter.positive a ha
  have hle := hafter.le_last a ha
  have hid : Fits64 a.id := by
    unfold Fits64 at hfits ⊢
    omega
  obtain ⟨t', ht', -, hstep⟩ := mem_stepsOf.1 hm
  rw [Transition.seconds_eq_time hstep, (hcalm t' (by simp [htaken, ht'])).time] at hissued
  refine ⟨occasion, a.id, ⟨a.id.natAbs, Wrapped.encodeString issued.token⟩, hoccasion, hnamed,
    ⟨a, ha, rfl⟩, hsubject, Event.event?_eq_some hpayload ?_, ?_, ?_⟩
  · show a.id.natAbs < 0x10000000000000000
    unfold Fits64 at hid
    omega
  · show (a.id.natAbs : Int) = a.id
    omega
  · obtain ⟨hexpiry, hsigns, -⟩ := TokenIssuer.generate_eq_ok hissued
    refine ⟨issued.token, _, rfl, hsigns, ⟨htime, hexpiry, ?_⟩, rfl, rfl, rfl⟩
    rintro id ⟨⟩
    exact hid

/-! ## Where a token is accepted -/

variable {kind kind' : TokenKind} {expiry now u' : Int} {token : String}

/-- **A token is accepted for its account** until it expires. -/
theorem Bears.accepted_iff (h : s.Bears kind u expiry token) (hnow : 0 ≤ now) :
    namedByOpaque? token (fun t => s.issuer.parseAccount now t kind) = some u' ↔
      u' = u ∧ now ≤ expiry := by
  obtain ⟨text, c, rfl, hsigns, hranged, rfl, hvalue, rfl⟩ := h
  rw [namedByOpaque?, Wrapped.decodeString_encodeString]
  exact hsigns.parseAccount_iff hranged hvalue hnow

/-- Then it is not. -/
theorem Bears.expired (h : s.Bears kind u expiry token) (hnow : 0 ≤ now) (hlt : expiry < now) :
    namedByOpaque? token (fun t => s.issuer.parseAccount now t kind) = none := by
  refine Option.eq_none_iff_forall_ne_some.2 fun u' hu' => ?_
  obtain ⟨-, hle⟩ := (h.accepted_iff hnow).1 hu'
  omega

/-- It is not accepted as one of another kind. -/
theorem Bears.named?_eq_none (h : s.Bears kind u expiry token) (hkind : kind ≠ kind') :
    namedByOpaque? token (fun t => s.issuer.parseAccount now t kind') = none := by
  obtain ⟨text, c, rfl, hsigns, -, rfl, -, -⟩ := h
  rw [namedByOpaque?, Wrapped.decodeString_encodeString]
  refine Option.eq_none_iff_forall_ne_some.2 fun u' hu' => ?_
  obtain ⟨c', hc', -⟩ := TokenIssuer.parseAccount_eq_some_iff.1 hu'
  cases (hsigns.claims?_eq_none hkind).symm.trans hc'

/-- Nor as one that renews an access token. -/
theorem Bears.parseRefresh_eq_none (h : s.Bears kind u expiry token) (hkind : kind ≠ .refresh)
    {text : String} (htext : Wrapped.decodeString token = .ok text) :
    s.issuer.parseRefresh now text = none := by
  obtain ⟨text', c, rfl, hsigns, -, rfl, -, -⟩ := h
  obtain rfl := Except.ok.inj ((Wrapped.decodeString_encodeString text').symm.trans htext)
  refine Option.eq_none_iff_forall_ne_some.2 fun access haccess => ?_
  obtain ⟨c', hc', -⟩ := TokenIssuer.parseRefresh_eq_some_iff.1 haccess
  cases (hsigns.claims?_eq_none hkind).symm.trans hc'

/-! ## Tokens that are refused -/

section

variable {σ : Type} {E : Setting σ} {x : σ} {ctx : RequestContext} {new : String}

theorem accountOfOpaque_refused (hpermits : E.permits x .clock)
    (hnone : ∀ (m : Moment) (x' : σ), E.answers x .clock m x' →
      namedByOpaque? token (fun t => s.issuer.parseAccount m.seconds t kind) = none) :
    Meets E (fun _ _ => False) (fun _ err => err = .reported .invalidToken)
      (s.accountOfOpaque token kind) x := by
  refine meets_bind.2 (meets_ofExcept.2 ⟨fun t ht => ?_, fun err _ => rfl⟩)
  refine meets_bind.2 (meets_now.2 ⟨hpermits, fun m x' hanswers => ?_⟩)
  have hnone := hnone m x' hanswers
  rw [namedByOpaque?, ht] at hnone
  change s.issuer.parseAccount m.seconds t kind = none at hnone
  rw [hnone]
  rfl

/-- **A token that is not accepted** confirms no address. -/
theorem verifyEmail_refused (hpermits : E.permits x .clock)
    (hnone : ∀ (m : Moment) (x' : σ), E.answers x .clock m x' →
      namedByOpaque? token (fun t => s.issuer.parseAccount m.seconds t .verifyEmail) = none) :
    Meets E (fun _ _ => False) (fun _ err => err = .reported .invalidToken)
      (s.verifyEmail ctx token) x :=
  meets_bind.2 ((accountOfOpaque_refused hpermits hnone).mono
    (fun _ _ h => h.elim) fun _ _ herr => herr)

/-- It resets no password. -/
theorem forgetPassword_refused (hvalid : s.validator.accepts .password new = true)
    (hpermits : E.permits x .clock)
    (hnone : ∀ (m : Moment) (x' : σ), E.answers x .clock m x' →
      namedByOpaque? token (fun t => s.issuer.parseAccount m.seconds t .forgetPassword) = none) :
    Meets E (fun _ _ => False) (fun _ err => err = .reported .invalidToken)
      (s.forgetPassword ctx token new) x := by
  refine meets_bind.2 (meets_require.2 ⟨fun _ => ?_, by simp [hvalid]⟩)
  exact meets_bind.2 ((accountOfOpaque_refused hpermits hnone).mono
    (fun _ _ h => h.elim) fun _ _ herr => herr)

/-- It opens no session. -/
theorem refresh_refused (hpermits : E.permits x .clock)
    (hnone : ∀ text now, Wrapped.decodeString token = .ok text →
      s.issuer.parseRefresh now text = none) :
    Meets E (fun _ _ => False) (fun _ err => err = .reported .invalidToken)
      (s.refresh ctx token) x := by
  refine meets_bind.2 (meets_ofExcept.2 ⟨fun t ht => ?_, fun err _ => rfl⟩)
  refine meets_bind.2 (meets_now.2 ⟨hpermits, fun m x' _ => ?_⟩)
  rw [hnone t m.seconds ht]
  rfl

end

/-- An operation presents a token where it is of no use. -/
inductive Misuses (s : Service) (token : String) : Occasion → Operation → Prop
  | refresh {o : Occasion} : Misuses s token o (.refresh token)
  | verifyEmail : Misuses s token .forgetPassword (.verifyEmail token)
  | forgetPassword {new : String} (hvalid : s.validator.accepts .password new = true) :
      Misuses s token .verifyEmail (.forgetPassword token new)

/-- **A token is refused where it is of no use**, in every world. -/
theorem Bears.misused (h : s.Bears occasion.kind u expiry token)
    (hmisuses : s.Misuses token occasion e.operation) (w : World) :
    (s.carryOut w e).result = .error (.reported .invalidToken) := by
  have hmeets : Meets (.only fun _ => True) (fun _ _ => False)
      (fun _ err => err = .reported .invalidToken) (s.perform e.ctx e.operation) () := by
    generalize e.operation = op at hmisuses
    cases hmisuses with
    | refresh =>
      exact meets_map.2 (refresh_refused trivial fun text now htext =>
        h.parseRefresh_eq_none (by cases occasion <;> nofun) htext)
    | verifyEmail =>
      exact meets_map.2 (verifyEmail_refused trivial fun m _ _ => h.named?_eq_none nofun)
    | forgetPassword hvalid =>
      exact meets_map.2 (forgetPassword_refused hvalid trivial fun m _ _ =>
        h.named?_eq_none nofun)
  obtain ⟨err, herr, rfl⟩ := Program.run_of_only hmeets.run_error e.draws 0 w
  exact herr

/-! ## Where a token is redeemed -/

section

variable {σ : Scene} {ctx : RequestContext} {a : Account} {new : String}

/-- **An address that is confirmed** is not confirmed again. -/
theorem verifyEmail_again_calm (hσ : σ.store.AccountsInOrder) (ha : a ∈ σ.store.accounts)
    (hconfirmed : a.emailConfirmed = true)
    (haccepted : namedByOpaque? token
      (fun t => s.issuer.parseAccount now t .verifyEmail) = some a.id) :
    Meets (.calm now) (fun _ _ => False) (fun _ err => err = .reported .emailAlreadyConfirmed)
      (s.verifyEmail ctx token) σ := by
  obtain ⟨t, hdecode, hparse⟩ := namedByOpaque?_eq_some_iff.1 haccepted
  refine meets_bind.2 ((accountOfOpaque_calm hdecode hparse).mono ?_ fun _ _ he => he.elim)
  rintro σ₁ id ⟨heq, rfl⟩
  rw [heq]
  refine meets_bind.2 (meets_calm_accountById hσ ha ?_)
  exact meets_bind.2 (meets_require.2 ⟨by simp [hconfirmed], fun _ => rfl⟩)

/-- Setting a password, of an account that is there, succeeds. -/
theorem setPassword_calm {hash : String} (ha : a ∈ σ.store.accounts)
    (hhash : Password.verify new hash = true) :
    Meets (.calm now) (fun σ' _ => ∃ a' ∈ σ'.store.accounts, a'.id = a.id ∧
      Password.verify new a'.passwordHash = true) (fun _ _ => False)
      (ask ctx (.setPassword a.id hash) .ofStore) σ := by
  have hset : σ.store.setPassword now a.id hash = .ok _ :=
    Store.changeAccount_eq_ok_iff.2 ⟨⟨a, ha, rfl⟩, rfl⟩
  have hrun : σ.store.run now (.setPassword a.id hash) = .ok ((), _) :=
    Store.changed_eq_ok_iff.2 hset
  refine meets_calm_ask_of_run hrun ⟨_, Store.revise_mem_of_run hrun ha, Query.revise_id, ?_⟩
  rwa [Query.revise, if_pos rfl]

/-- **A token that resets a password** does so, if the new one is
acceptable and is not the one that the account has. -/
theorem forgetPassword_calm (hcost : Bcrypt.costAllowed s.hashCost.toNat = true)
    (hσ : σ.store.AccountsInOrder) (ha : a ∈ σ.store.accounts)
    (hnew : s.acceptsPassword new = true) (hother : Password.verify new a.passwordHash = false)
    (haccepted : namedByOpaque? token
      (fun t => s.issuer.parseAccount now t .forgetPassword) = some a.id) :
    Meets (.calm now) (fun σ' _ => ∃ a' ∈ σ'.store.accounts, a'.id = a.id ∧
      Password.verify new a'.passwordHash = true) (fun _ _ => False)
      (s.forgetPassword ctx token new) σ := by
  obtain ⟨t, hdecode, hparse⟩ := namedByOpaque?_eq_some_iff.1 haccepted
  obtain ⟨hvalid, hsize⟩ : s.validator.accepts .password new = true ∧
      Utf8.size new ≤ Password.maxBytes := by
    simpa [acceptsPassword] using hnew
  refine meets_bind.2 (meets_require.2 ⟨fun _ => ?_, by simp [hvalid]⟩)
  refine meets_bind.2 ((accountOfOpaque_calm hdecode hparse).mono ?_ fun _ _ he => he.elim)
  rintro σ₁ id ⟨heq, rfl⟩
  rw [heq]
  refine meets_bind.2 (meets_calm_accountById hσ ha ?_)
  refine meets_bind.2 (verifyPassword_calm ?_)
  rw [hother]
  refine meets_bind.2 (meets_require.2 ⟨fun _ => ?_, by simp⟩)
  refine meets_bind.2 ((hashPassword_calm hsize hcost).mono ?_ fun _ _ he => he.elim)
  rintro σ₂ hash ⟨heq, hverify⟩
  rw [heq]
  exact setPassword_calm ha hverify

end

/-- How a token that confirms the address of an account is answered where
it is presented: it is accepted until it expires. -/
structure ConfirmsUntil (s : Service) (u expiry : Int) (w : World) (e : Errand) : Prop where
  first : e.time ≤ expiry → ¬ w.store.Confirmed u → (s.carryOut w e).result = .ok .done
  again : e.time ≤ expiry → w.store.Confirmed u →
    (s.carryOut w e).result = .error (.reported .emailAlreadyConfirmed)
  late : expiry < e.time → (s.carryOut w e).result = .error (.reported .invalidToken)

/-- How a token that resets the password of an account is answered where
it is presented with a new one: it is accepted until it expires, and then
the account has the new password. -/
structure ResetsUntil (s : Service) (u expiry : Int) (new : String) (w : World) (e : Errand) :
    Prop where
  inTime : e.time ≤ expiry → (s.carryOut w e).result = .ok .done ∧
    ∃ a ∈ (s.carryOut w e).world.store.accounts, a.id = u ∧
      Password.verify new a.passwordHash = true
  late : expiry < e.time → (s.carryOut w e).result = .error (.reported .invalidToken)

variable {es : List Errand}

/-- What cannot succeed fails, in its turn. -/
theorem Succession.error_of_meets (h : s.Succession w (es ++ [e])) {err : Failure ServiceError}
    (hmeets : Meets (.calm e.time) (fun _ _ => False) (fun _ err' => err' = err)
      (s.perform e.ctx e.operation) ((s.after w es).scene (s.drawnBy w es))) :
    (s.carryOut (s.after w es) e).result = .error err := by
  obtain ⟨err', herr, rfl⟩ := h.carryOut_of_meets hmeets.run_error
  exact herr

/-- The accounts are in order, after errands on a store without rows. -/
theorem accountsInOrder_after (hw : w.store = .empty) (es : List Errand) :
    (s.after w es).store.AccountsInOrder := by
  obtain ⟨l, hleads⟩ := s.exists_leads_after w es
  exact hleads.accountsInOrder (hw ▸ Store.accountsInOrder_empty)

/-- **Presenting a token that confirms an address**, after other
errands. -/
theorem Succession.confirmsUntil (h : s.Succession w (es ++ [e])) (hw : w.store = .empty)
    (hop : e.operation = .verifyEmail token) (hbears : s.Bears .verifyEmail u expiry token)
    (hu : ∃ a ∈ (s.after w es).store.accounts, a.id = u) :
    s.ConfirmsUntil u expiry (s.after w es) e := by
  have horder : (s.after w es).store.AccountsInOrder := accountsInOrder_after hw es
  have hnow := (h.times e (by simp)).1
  obtain ⟨a, ha, rfl⟩ := hu
  have haccepted (hle : e.time ≤ expiry) := (hbears.accepted_iff hnow).2 ⟨rfl, hle⟩
  refine ⟨fun hle hnot => ?_, fun hle hconfirmed => ?_, fun hlt => h.error_of_meets ?_⟩
  · obtain ⟨t, hdecode, hparse⟩ := namedByOpaque?_eq_some_iff.1 (haccepted hle)
    have hunconfirmed : a.emailConfirmed = false :=
      Bool.eq_false_iff.2 fun hconfirmed => hnot ⟨a, ha, rfl, hconfirmed⟩
    have hmeets : Meets (.calm e.time) (fun _ r => r = Answer.done) (fun _ _ => False)
        (s.perform e.ctx (.verifyEmail token)) ((s.after w es).scene (s.drawnBy w es)) :=
      meets_map.2 ((verifyEmail_calm horder ha hunconfirmed hdecode hparse).mono (fun _ _ _ => rfl)
        fun _ _ he => he)
    rw [← hop] at hmeets
    obtain ⟨r, hresult, rfl⟩ := h.carryOut_of_meets hmeets.run_ok
    exact hresult
  · obtain ⟨b, hb, hid, hconfirmed⟩ := hconfirmed
    obtain rfl := horder.eq_of_id_eq hb ha hid
    refine h.error_of_meets ?_
    rw [hop]
    exact meets_map.2 (verifyEmail_again_calm horder hb hconfirmed (haccepted hle))
  · rw [hop]
    refine meets_map.2 (verifyEmail_refused trivial ?_)
    rintro m _ ⟨hm, -⟩
    rw [hm]
    exact hbears.expired hnow hlt

/-- **Presenting a token that resets a password**, after other errands. -/
theorem Succession.resetsUntil (h : s.Succession w (es ++ [e])) (hw : w.store = .empty)
    (hcost : Bcrypt.costAllowed s.hashCost.toNat = true) {new : String}
    (hop : e.operation = .forgetPassword token new)
    (hbears : s.Bears .forgetPassword u expiry token)
    (hu : ∃ a ∈ (s.after w es).store.accounts, a.id = u) (hnew : s.acceptsPassword new = true)
    (hother : ∀ a ∈ (s.after w es).store.accounts, a.id = u →
      Password.verify new a.passwordHash = false) :
    s.ResetsUntil u expiry new (s.after w es) e := by
  have horder : (s.after w es).store.AccountsInOrder := accountsInOrder_after hw es
  have hnow := (h.times e (by simp)).1
  obtain ⟨a, ha, rfl⟩ := hu
  refine ⟨fun hle => ?_, fun hlt => h.error_of_meets ?_⟩
  · have hmeets : Meets (.calm e.time)
        (fun σ' r => r = Answer.done ∧ ∃ a' ∈ σ'.store.accounts, a'.id = a.id ∧
          Password.verify new a'.passwordHash = true) (fun _ _ => False)
        (s.perform e.ctx (.forgetPassword token new)) ((s.after w es).scene (s.drawnBy w es)) :=
      meets_map.2 ((forgetPassword_calm hcost horder ha hnew (hother a ha rfl)
        ((hbears.accepted_iff hnow).2 ⟨rfl, hle⟩)).mono (fun _ _ hset => ⟨rfl, hset⟩)
          fun _ _ he => he)
    rw [← hop] at hmeets
    obtain ⟨r, hresult, rfl, hset⟩ := h.carryOut_of_meets hmeets.run_ok
    rw [after_concat] at hset
    exact ⟨hresult, hset⟩
  · have hvalid : s.validator.accepts .password new = true := by
      rw [acceptsPassword, Bool.and_eq_true] at hnew
      exact hnew.1
    rw [hop]
    refine meets_map.2 (forgetPassword_refused hvalid trivial ?_)
    rintro m _ ⟨hm, -⟩
    rw [hm]
    exact hbears.expired hnow hlt

/-! ## Asking for an event -/

/-- An event is published, if it is received. -/
theorem inform_calm (occasion : Occasion) {σ : Scene} {ctx : RequestContext} {now : Int}
    (hdigest : ∃ d, s.issuer.algorithm.digest? = some d)
    (hfits : Fits64 (now + s.issuer.ttlFor occasion)) (hopen : σ.outbox.failing = false) :
    Meets (.calm now)
      (fun σ' _ => σ'.store = σ.store ∧ ∃ jti t,
        s.issuer.generate now jti (.account u) occasion.kind (s.issuer.ttlFor occasion) = .ok t ∧
        σ'.outbox.published = σ.outbox.published ++ [⟨s.subjects.subject occasion,
          (⟨u.natAbs, Wrapped.encodeString t.token⟩ : Event).payload⟩])
      (fun _ _ => False)
      (do
        let issued ← issue fun now jti =>
          s.issuer.generate now jti (.account u) occasion.kind (s.issuer.ttlFor occasion)
        s.announce ctx occasion u issued.token) σ := by
  refine meets_bind.2 (meets_calm_issue (fun jti _ issued hissued => ?_) fun jti err herr => ?_)
  · refine meets_bind.2 (meets_step.2 ⟨trivial, ?_⟩)
    rintro r _ (⟨outbox, hsent, rfl, rfl⟩ | ⟨err, hsent, -⟩)
    · rw [Outbox.publish, hopen] at hsent
      cases hsent
      exact ⟨rfl, jti, issued, hissued, rfl⟩
    · rw [Outbox.publish, hopen] at hsent
      cases hsent
  · obtain ⟨d, hd⟩ := hdigest
    obtain ⟨issued, hissued⟩ := TokenIssuer.exists_generate_eq_ok hd hfits jti (.account u)
      occasion.kind
    cases hissued.symm.trans herr

section

variable {σ : Scene} {ctx : RequestContext} {now : Int} {a : Account}

/-- An account that is there is found by its address. -/
theorem meets_calm_accountByEmail {failure : StoreError → ServiceError}
    {ok : Scene → Account → Prop} {fail : Scene → Failure ServiceError → Prop}
    (hσ : σ.store.AccountsInOrder) (ha : a ∈ σ.store.accounts) (hok : ok σ a) :
    Meets (.calm now) ok fail (ask ctx (.accountByEmail a.email) failure) σ := by
  have hfound : σ.store.accountByEmail a.email = .ok a := by
    rw [Store.accountByEmail, hσ.accountWithEmail?_eq_some_iff.2 ⟨ha, rfl⟩]
  exact meets_calm_ask_of_run (Store.unchanged_eq_ok_iff.2 ⟨hfound, rfl⟩) hok

/-- So is one that is asked for, if the address is not confirmed. -/
theorem sendVerifyEmail_calm (hdigest : ∃ d, s.issuer.algorithm.digest? = some d)
    (hfits : Fits64 (now + s.issuer.verifyEmailTtl)) (hopen : σ.outbox.failing = false)
    (hσ : σ.store.AccountsInOrder) (ha : a ∈ σ.store.accounts)
    (hconfirmed : a.emailConfirmed = false) :
    Meets (.calm now)
      (fun σ' _ => σ'.store = σ.store ∧ ∃ p, σ'.outbox.published = σ.outbox.published ++ [p])
      (fun _ _ => False) (s.sendVerifyEmail ctx a.email) σ := by
  refine meets_bind.2 (meets_calm_accountByEmail hσ ha ?_)
  refine meets_bind.2 (meets_require.2 ⟨fun _ => ?_, by simp [hconfirmed]⟩)
  refine (inform_calm .verifyEmail hdigest hfits hopen).mono ?_ fun _ _ he => he
  rintro σ' _ ⟨hstore, _, _, _, hpublished⟩
  exact ⟨hstore, _, hpublished⟩

/-- And a token that resets a password, if the address is confirmed. -/
theorem sendForgetPassword_calm (hdigest : ∃ d, s.issuer.algorithm.digest? = some d)
    (hfits : Fits64 (now + s.issuer.forgetPasswordTtl)) (hopen : σ.outbox.failing = false)
    (hσ : σ.store.AccountsInOrder) (ha : a ∈ σ.store.accounts)
    (hconfirmed : a.emailConfirmed = true) :
    Meets (.calm now)
      (fun σ' _ => σ'.store = σ.store ∧ ∃ jti t,
        s.issuer.issueForgetPassword now jti a.id = .ok t ∧
        σ'.outbox.published = σ.outbox.published ++ [⟨s.subjects.forgetPassword,
          (⟨a.id.natAbs, Wrapped.encodeString t.token⟩ : Event).payload⟩])
      (fun _ _ => False) (s.sendForgetPassword ctx a.email) σ := by
  refine meets_bind.2 (meets_calm_accountByEmail hσ ha ?_)
  refine meets_bind.2 (meets_require.2 ⟨fun _ => ?_, by simp [hconfirmed]⟩)
  exact inform_calm .forgetPassword hdigest hfits hopen

end

/-- An outbox that takes what is published takes it later. -/
theorem failing_after (s : Service) (w : World) (es : List Errand) :
    (s.after w es).outbox.failing = w.outbox.failing := by
  obtain ⟨l, hleads⟩ := s.exists_leads_after w es
  obtain ⟨new, houtbox, -⟩ := hleads.exists_published
  rw [houtbox]

/-! ## With valid settings -/

/-- Settings that pass have a cost that is allowed. -/
theorem costAllowed_of_check {c : Config} (hc : c.check = .ok ()) (hs : ofConfig c = .ok s) :
    Bcrypt.costAllowed s.hashCost.toNat = true := by
  have hcost : s.hashCost = c.security.hashCost := by
    unfold ofConfig at hs
    split at hs
    · cases hs
    · split at hs
      · cases hs
      · rw [← Except.ok.inj hs]
  rw [hcost]
  exact (Config.check_eq_ok_iff_checked.1 hc).hashCost

/-- Settings that pass: they have a secret, and no rules for fields. -/
def plainConfig : Config where
  security := { hashCost := 4, jwt := { secret := "secret" } }
  validation := ⟨"", [], [], [], []⟩

/-- **The token of an event can be redeemed.** Errands are carried out one
after another, in calm conditions, by the service of valid settings, on a
store without rows. Whatever one of them publishes is an event with a
token, for the account that the errand is about. From then on whoever
presents the token where it is for is answered by the account, until the
token expires: an address is confirmed, once; a password is reset, to one
that is acceptable and not the one that the account has. After that, and
anywhere else, it is refused. The token expires a lifetime after it was
published. -/
theorem event_token_redeemable {c : Config} {s : Service} (hc : c.check = .ok ())
    (hs : ofConfig c = .ok s) {w : World} (hw : w.store = .empty) {es : List Errand} {e : Errand}
    (h : s.Succession w (es ++ [e]))
    (hfits : Fits64 (s.after w (es ++ [e])).store.lastAccountId) {new : List Published}
    (hnew : (s.after w (es ++ [e])).outbox.published = (s.after w es).outbox.published ++ new)
    {p : Published} (hp : p ∈ new) :
    ∃ occasion u event, e.operation.occasion? = some occasion ∧
      s.named? e.time (s.after w es).store e.operation = some u ∧
      (∀ input n, e.operation = .register input →
        (s.carryOut (s.after w es) e).result = .ok (.id n) → n = u) ∧
      p.subject = s.subjects.subject occasion ∧ p.event? = some event ∧
      (event.accountId : Int) = u ∧
      (∀ later e', s.Succession w (es ++ [e] ++ later ++ [e']) →
        (occasion = .verifyEmail → e'.operation = .verifyEmail event.token →
          s.ConfirmsUntil u (e.time + s.issuer.verifyEmailTtl)
            (s.after w (es ++ [e] ++ later)) e') ∧
        (occasion = .forgetPassword → ∀ password,
          e'.operation = .forgetPassword event.token password →
          s.acceptsPassword password = true →
          (∀ a ∈ (s.after w (es ++ [e] ++ later)).store.accounts, a.id = u →
            Password.verify password a.passwordHash = false) →
          s.ResetsUntil u (e.time + s.issuer.forgetPasswordTtl) password
            (s.after w (es ++ [e] ++ later)) e')) ∧
      ∀ w' e', s.Misuses event.token occasion e'.operation →
        (s.carryOut w' e').result = .error (.reported .invalidToken) := by
  rw [after_concat] at hfits hnew
  have hcalm := (calmly_concat.1 h.calmly).2
  obtain ⟨occasion, u, event, hoccasion, hnamed, ⟨a, ha, rfl⟩, hconveys⟩ := exists_event hcalm
    (accountsInOrder_after hw es) (h.times e (by simp)).2 hfits hnew hp
  refine ⟨occasion, a.id, event, hoccasion, hnamed,
    fun input n hop hresult => eq_of_registered hcalm hop hresult hnamed, hconveys.subject,
    hconveys.read, hconveys.account, fun later e' h' => ?_,
    fun w' e' hmisuses => hconveys.token.misused hmisuses w'⟩
  -- the account is still there
  have hthere : ∃ a' ∈ (s.after w (es ++ [e] ++ later)).store.accounts, a'.id = a.id := by
    obtain ⟨l, hleads⟩ := s.exists_leads_after (s.after w (es ++ [e])) later
    rw [← after_append] at hleads
    rw [← after_concat] at ha
    obtain ⟨a', ha', hremains⟩ := hleads.accountsRemain a ha
    exact ⟨a', ha', hremains.id⟩
  constructor
  · rintro rfl hop
    exact h'.confirmsUntil hw hop hconveys.token hthere
  · rintro rfl password hop hpassword hother
    exact h'.resetsUntil hw (costAllowed_of_check hc hs) hop hconveys.token hthere hpassword hother

/-- The token of an event that was asked for is redeemed at once. -/
def Delivers (s : Service) (send : Operation) (redeem : String → Operation) : Prop :=
  ∃ es e e' p event, s.Succession {} (es ++ [e] ++ [e']) ∧ e.operation = send ∧
    (s.after {} (es ++ [e])).outbox.published = (s.after {} es).outbox.published ++ [p] ∧
    p.event? = some event ∧ e'.operation = redeem event.token ∧
    (s.carryOut (s.after {} (es ++ [e])) e').result = .ok .done

/-- Whoever has registered asks for a token that confirms the address, and
redeems it; and whoever has confirmed it asks for one that resets the
password, and redeems it with a password that does not verify against the hash
of the first. -/
theorem event_token_redeemable_plain : ∃ s hash, plainConfig.check = .ok () ∧
    ofConfig plainConfig = .ok s ∧
    s.Delivers (.sendVerifyEmail "owner@example.org") .verifyEmail ∧
    Password.hash 4 (.replicate 16 0) "password" = .ok hash ∧
    (Password.verify "third" hash = false →
      s.Delivers (.sendForgetPassword "owner@example.org") (.forgetPassword · "third")) := by
  obtain ⟨s, hs, hready, hacceptable, hcost, hthird, hverify, hforget⟩ : ∃ s,
      ofConfig plainConfig = .ok s ∧ s.issuer.Ready 0 ∧
      s.Acceptable ⟨"owner@example.org", "password", "Owner"⟩ ∧ s.hashCost = 4 ∧
      s.acceptsPassword "third" = true ∧ s.issuer.verifyEmailTtl = 86400 ∧
      s.issuer.forgetPasswordTtl = 3600 :=
    ⟨_, rfl, ⟨⟨_, rfl⟩, by decide, by decide, by decide⟩,
      ⟨rfl, rfl, rfl, by decide, by decide⟩, rfl, by decide, rfl, rfl⟩
  have hverifies : Fits64 (0 + s.issuer.verifyEmailTtl) := by
    rw [hverify]
    decide
  have hresets : Fits64 (0 + s.issuer.forgetPasswordTtl) := by
    rw [hforget]
    decide
  have hopen (es : List Errand) : (s.after {} es).outbox.failing = false := s.failing_after {} es
  obtain ⟨hash, hhash⟩ : ∃ hash, Password.hash 4 (.replicate 16 0) "password" = .ok hash :=
    Password.exists_hash_eq_ok (by decide) (.replicate 16 0) (by decide)
  refine ⟨s, hash, by decide, hs, ?_, hhash, fun hrefused => ?_⟩
  · obtain ⟨e₁, hash, h₁, htime₁, -, -, hstore₁⟩ :=
      exists_account (w := {}) hacceptable hready hverifies rfl
    -- the one account is not confirmed, and its owner asks for a token
    let a := Store.empty.opened 0 ⟨"owner@example.org", hash, "Owner"⟩
    have ha : a ∈ (s.after {} [e₁]).store.accounts := by
      rw [hstore₁]
      exact List.mem_singleton_self a
    obtain ⟨e₂, _, h₂, htimes, hop₂, -, hstore₂, p, hp⟩ := h₁.exists_next (by simpa using htime₁)
      hready (.sendVerifyEmail a.email) rfl (sendVerifyEmail_calm hready.digest hverifies
        (hopen _) (accountsInOrder_after rfl _) ha rfl)
    have hstore₂ : (s.after {} ([e₁] ++ [e₂])).store = _ := hstore₂.trans hstore₁
    have hfits : Fits64 (s.after {} ([e₁] ++ [e₂])).store.lastAccountId := by
      rw [hstore₂]
      exact (by decide : Fits64 1)
    have hunconfirmed (u : Int) : ¬ (s.after {} ([e₁] ++ [e₂])).store.Confirmed u := by
      rw [hstore₂]
      rintro ⟨b, hb, -, hconfirmed⟩
      obtain rfl := List.mem_singleton.1 hb
      cases hconfirmed
    obtain ⟨occasion, u, event, hoccasion, -, -, -, hread, -, hredeemed, -⟩ :=
      event_token_redeemable (c := plainConfig) (by decide) hs (w := {}) rfl h₂.succession hfits hp
        (List.mem_singleton_self p)
    rw [hop₂] at hoccasion
    cases hoccasion
    -- it is redeemed at once
    obtain ⟨draws, h₃⟩ := h₂.exists_concat (.verifyEmail event.token) unhurried rfl
      (fun e he => Int.le_of_eq (htimes e he)) hready
    obtain ⟨hconfirms, -⟩ := hredeemed [] _ (by rw [List.append_nil]; exact h₃.succession)
    have hfirst := (hconfirms rfl rfl).first
    rw [htimes e₂ (by simp), hverify, List.append_nil] at hfirst
    exact ⟨[e₁], e₂, _, p, event, h₃.succession, hop₂, hp, hread, rfl,
      hfirst (by decide : (0 : Int) ≤ 0 + 86400) (hunconfirmed u)⟩
  · obtain ⟨es, a, hes, htimes, hsole⟩ :=
      exists_soleAccount hacceptable hready (by rw [hverify]; decide) hverifies (w := {}) rfl
    -- the one account is confirmed, and its owner asks for a token
    have ha : a ∈ (s.after {} es).store.accounts := by
      rw [hsole.accounts]
      exact List.mem_singleton_self a
    obtain ⟨e, _, hsent, htimes', hop, -, hstore, _, _, -, hp⟩ := hes.exists_next htimes hready
      (.sendForgetPassword a.email) rfl (sendForgetPassword_calm hready.digest hresets
        (hopen _) (accountsInOrder_after rfl _) ha hsole.confirmed)
    have hstore : (s.after {} (es ++ [e])).store = (s.after {} es).store := hstore
    have hfits : Fits64 (s.after {} (es ++ [e])).store.lastAccountId := by
      rw [hstore, hsole.last]
      decide
    obtain ⟨occasion, u, event, hoccasion, -, -, -, hread, -, hredeemed, -⟩ :=
      event_token_redeemable (c := plainConfig) (by decide) hs (w := {}) rfl hsent.succession hfits hp
        (List.mem_singleton_self _)
    rw [hop] at hoccasion
    cases hoccasion
    -- it is redeemed at once, with another password
    have hother : ∀ b ∈ (s.after {} (es ++ [e] ++ [])).store.accounts, b.id = u →
        Password.verify "third" b.passwordHash = false := by
      rw [List.append_nil, hstore, hsole.accounts]
      intro b hb _
      rw [List.mem_singleton.1 hb]
      have hsame := hsole.hash
      rw [hcost, hhash] at hsame
      rwa [← Except.ok.inj hsame]
    obtain ⟨draws, hlast⟩ := hsent.exists_concat (.forgetPassword event.token "third") unhurried rfl
      (fun e he => Int.le_of_eq (htimes' e he)) hready
    obtain ⟨-, hreset⟩ := hredeemed [] _ (by rw [List.append_nil]; exact hlast.succession)
    have hinTime := (hreset rfl "third" rfl hthird hother).inTime
    rw [htimes' e (by simp), hforget, List.append_nil] at hinTime
    rw [hsole.email] at hop
    exact ⟨es, e, _, _, event, hlast.succession, hop, hp, hread, rfl,
      (hinTime (by decide : (0 : Int) ≤ 0 + 3600)).1⟩

end Service

end SignOn
