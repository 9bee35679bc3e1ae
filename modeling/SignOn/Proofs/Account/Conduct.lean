import SignOn.Proofs.Service.Aftermath
import SignOn.Proofs.Service.Leads
/-!
# How operations treat accounts

What an operation has done when it writes to the accounts or publishes an
event. It writes at most once, what it writes follows from what it was
given and has seen (`Service.MayWrite`), and it answers with success
exactly if it has written what it was to write (`Service.Ends`). It
publishes a token that it has signed itself, for the account that it has
opened or found (`Service.MayTell`). `Service.accountConduct` is this as a
setting, `Service.perform_allowed` says that every operation keeps to it,
and the last sections what follows for the steps of a run, and for an
errand.
-/

namespace SignOn

/-! ## What a program has written -/

/-- A step with which a query wrote to the accounts. -/
def Step.Wrote (x : Step) (q : Query) (r : q.Answer) : Prop :=
  q.writes = true ∧ ∃ ctx, x = ⟨.query ctx q, .ok r⟩

/-- Nothing was written to the accounts. -/
def Unwritten (h : List Step) : Prop :=
  ∀ x ∈ h, ∀ q r, ¬ x.Wrote q r

theorem unwritten_nil : Unwritten [] := by
  simp [Unwritten]

theorem Unwritten.concat {h : List Step} (hh : Unwritten h) {x : Step} (hx : ∀ q r, ¬ x.Wrote q r) :
    Unwritten (h ++ [x]) := by
  intro y hy
  rcases List.mem_append.1 hy with hy | hy
  · exact hh y hy
  · rwa [List.mem_singleton.1 hy]

/-- A sparing step writes nothing. -/
theorem not_wrote_of_isSparing {x : Step} (hx : x.effect.isSparing = true) (q : Query)
    (r : q.Answer) : ¬ x.Wrote q r := by
  rintro ⟨hq, ctx, rfl⟩
  simp [Effect.isSparing, hq] at hx

/-- A query that fails writes nothing. -/
theorem not_wrote_error (ctx : RequestContext) (q' : Query) (e : StoreError) (q : Query)
    (r : q.Answer) : ¬ Step.Wrote ⟨.query ctx q', .error e⟩ q r := by
  rintro ⟨-, ctx', heq⟩
  cases heq

/-! ## The conduct of an operation -/

/-- Operations that write to the accounts. -/
def Operation.writes : Operation → Bool
  | .register _ | .verifyEmail _ | .forgetPassword _ _ | .changePassword _ _ _
  | .updateProfile _ _ => true
  | _ => false

/-- What a token is for that is sent on an occasion. -/
def Occasion.kind : Occasion → TokenKind
  | .verifyEmail => .verifyEmail
  | .forgetPassword => .forgetPassword

/-- How long it is accepted. -/
def TokenIssuer.ttlFor (j : TokenIssuer) : Occasion → Int
  | .verifyEmail => j.verifyEmailTtl
  | .forgetPassword => j.forgetPasswordTtl

/-- The answer of an operation that wrote with a query. -/
def Query.told : (q : Query) → q.Answer → SignOn.Answer
  | .insertAccount _, id => .id id
  | _, _ => .done

namespace Service

open Procedure

variable (s : Service)

/-- The account that the token of an operation is for that writes to an
account, if the token is accepted at a time. -/
def admitted? (now : Int) : Operation → Option Int
  | .verifyEmail token => namedByOpaque? token fun t => s.issuer.parseAccount now t .verifyEmail
  | .forgetPassword token _ =>
    namedByOpaque? token fun t => s.issuer.parseAccount now t .forgetPassword
  | .changePassword token _ _ | .updateProfile token _ => s.issuer.parseAccess now token
  | _ => none

/-- The token of an operation was accepted, at a moment that was read. -/
def Admits (op : Operation) (h : List Step) (u : Int) : Prop :=
  ∃ m : Moment, (⟨.clock, m⟩ : Step) ∈ h ∧ s.admitted? m.seconds op = some u

/-- A hash is one of a password, with some salt. -/
def Hashes (password hash : String) : Prop :=
  ∃ salt, Password.hash s.hashCost salt password = .ok hash

/-- A hash is one of a password, with a salt that was drawn. -/
def Salted (h : List Step) (password hash : String) : Prop :=
  ∃ salt, (⟨.salt, salt⟩ : Step) ∈ h ∧ Password.hash s.hashCost salt password = .ok hash

/-- What an operation may write, after the steps that it has taken. -/
inductive MayWrite : Operation → List Step → Query → Prop
  | register {input h hash} (hhash : s.Salted h input.password hash) :
      MayWrite (.register input) h (.insertAccount ⟨input.email, hash, input.displayName⟩)
  | verifyEmail {token h u a} (hu : s.Admits (.verifyEmail token) h u)
      (ha : Got h (.accountById u) (.ok a)) (hconfirmed : a.emailConfirmed = false) :
      MayWrite (.verifyEmail token) h (.confirmEmail u)
  | forgetPassword {token new h u a hash} (hu : s.Admits (.forgetPassword token new) h u)
      (ha : Got h (.accountById u) (.ok a)) (hnew : Password.verify new a.passwordHash = false)
      (hhash : s.Salted h new hash) :
      MayWrite (.forgetPassword token new) h (.setPassword u hash)
  | changePassword {token old new h u a hash} (hne : old ≠ new)
      (hu : s.Admits (.changePassword token old new) h u)
      (ha : Got h (.accountById u) (.ok a)) (hold : Password.verify old a.passwordHash = true)
      (hhash : s.Salted h new hash) :
      MayWrite (.changePassword token old new) h (.setPassword u hash)
  | updateProfile {token patch h u a} (hu : s.Admits (.updateProfile token patch) h u)
      (ha : Got h (.accountById u) (.ok a)) :
      MayWrite (.updateProfile token patch) h (.updateProfile u patch)

/-- Whom an operation may tell on an occasion: the owner of the account
that it has opened, or that it has found by the address. -/
inductive MayTell : Operation → List Step → Occasion → Int → Prop
  | register {input h new u} (hu : Got h (.insertAccount new) (.ok u)) :
      MayTell (.register input) h .verifyEmail u
  | sendVerifyEmail {email h a} (ha : Got h (.accountByEmail email) (.ok a))
      (hconfirmed : a.emailConfirmed = false) :
      MayTell (.sendVerifyEmail email) h .verifyEmail a.id
  | sendForgetPassword {email h a} (ha : Got h (.accountByEmail email) (.ok a))
      (hconfirmed : a.emailConfirmed = true) :
      MayTell (.sendForgetPassword email) h .forgetPassword a.id

/-- What is published on an occasion: an event with a token that was just
signed. -/
def Announces (h : List Step) (occasion : Occasion) (u : Int) (subject : String)
    (payload : List UInt8) : Prop :=
  ∃ (m : Moment) (jti : String) (t : IssuedToken), (⟨.clock, m⟩ : Step) ∈ h ∧ Drew h jti ∧
    s.issuer.generate m.seconds jti (.account u) occasion.kind (s.issuer.ttlFor occasion) = .ok t ∧
    subject = s.subjects.subject occasion ∧
    payload = (⟨u.natAbs, Wrapped.encodeString t.token⟩ : Event).payload

/-- What an operation may do to accounts and with its publisher, after the
steps that it has taken. -/
structure Allows (op : Operation) (h : List Step) (e : Effect) : Prop where
  unwritten : Unwritten h ∨ ∃ input, op = .register input
  writes : ∀ ctx q, e = .query ctx q → q.writes = true → Unwritten h ∧ s.MayWrite op h q
  publishes : ∀ ctx subject payload, e = .publish ctx subject payload →
    ∃ occasion u, MayTell op h occasion u ∧ s.Announces h occasion u subject payload

/-- The one thing that an operation has written, as it answers. -/
def WroteOnce (op : Operation) (h : List Step) (a : Answer) : Prop :=
  ∃ h₁ x h₂ q r, h = h₁ ++ x :: h₂ ∧ x.Wrote q r ∧ Unwritten h₁ ∧ Unwritten h₂ ∧
    s.MayWrite op h₁ q ∧ a = q.told r

/-- What an operation has done to accounts when it is over. Only a
registration can be aborted after it has written. -/
def Ends (op : Operation) (h : List Step) : Except (Failure ServiceError) Answer → Prop
  | .ok a => op.writes = false ∧ Unwritten h ∨ s.WroteOnce op h a
  | .error (.reported _) => Unwritten h
  | .error .aborted =>
    Unwritten h ∨ ∃ input id, op = .register input ∧ s.WroteOnce op h (.id id)

/-- The setting in which an operation treats accounts as it may. -/
def accountConduct (op : Operation) : Setting (List Step) :=
  .history (s.Allows op) fun _ _ => True

variable {s} {op : Operation} {h h' : List Step} {u : Int} {ctx : RequestContext} {e : Effect}

theorem Salted.hashes {password hash : String} (hhash : s.Salted h password hash) :
    s.Hashes password hash :=
  hhash.imp fun _ h => h.2

theorem Salted.mono {password hash : String} (hhash : s.Salted h password hash) (hsub : h ⊆ h') :
    s.Salted h' password hash :=
  hhash.imp fun _ h => ⟨hsub h.1, h.2⟩

/-- It is the one with the salt, if the same is always drawn. -/
theorem Salted.hash_eq {password hash : String} {salt : Bcrypt.Salt}
    (hhash : s.Salted h password hash) (hsalt : ∀ x, (⟨.salt, x⟩ : Step) ∈ h → x = salt) :
    Password.hash s.hashCost salt password = .ok hash := by
  obtain ⟨x, hx, hhash⟩ := hhash
  rwa [hsalt x hx] at hhash

/-- The token of an operation is for one account, whenever it is
accepted. -/
theorem admitted?_unique {now now' u' : Int} (h : s.admitted? now op = some u)
    (h' : s.admitted? now' op = some u') : u = u' := by
  cases op with
  | verifyEmail token | forgetPassword token _ =>
    obtain ⟨t, ht, hparse⟩ := namedByOpaque?_eq_some_iff.1 h
    obtain ⟨t', ht', hparse'⟩ := namedByOpaque?_eq_some_iff.1 h'
    obtain rfl := Except.ok.inj (ht.symm.trans ht')
    exact TokenIssuer.parseAccount_unique hparse hparse'
  | changePassword token _ _ | updateProfile token _ =>
    exact TokenIssuer.parseAccount_unique h h'
  | _ => cases h

/-- A sparing step is allowed as long as nothing was written. -/
theorem allows_of_isSparing (hunwritten : Unwritten h ∨ ∃ input, op = .register input)
    (he : e.isSparing = true) : s.Allows op h e where
  unwritten := hunwritten
  writes ctx q heq hq := by
    subst heq
    simp [Effect.isSparing, hq] at he
  publishes ctx subject payload heq := by
    subst heq
    cases he

/-! ## Pieces -/

/-- Sparing steps are allowed, and they keep what no other step is needed
for. -/
theorem sparing_allowed {α : Type} {x : Procedure α} (hx : x.Uses (Effect.Sparing ctx))
    (hh : Unwritten h) :
    Meets (s.accountConduct op) (fun h' _ => h ⊆ h' ∧ Unwritten h')
      (fun h' _ => h ⊆ h' ∧ Unwritten h') x h := by
  refine hx.meets (I := fun h' => h ⊆ h' ∧ Unwritten h')
    (fun h' e hI he => allows_of_isSparing (.inl hI.2) he.1)
    (fun h' e r h'' hI he hr => ?_) ⟨fun _ hy => hy, hh⟩
  obtain ⟨-, rfl⟩ := hr
  exact ⟨fun y hy => List.mem_append_left _ (hI.1 hy), hI.2.concat (not_wrote_of_isSparing he.1)⟩

/-- A query that does not write is allowed. -/
theorem ask_allowed {q : Query} (hq : q.writes = false) {failure : StoreError → ServiceError}
    {ok : List Step → q.Answer → Prop} {fail : List Step → Failure ServiceError → Prop}
    (hh : Unwritten h)
    (hok : ∀ h' r, h ⊆ h' → Unwritten h' → Got h' q (.ok r) → ok h' r)
    (hfail : ∀ h' e, Unwritten h' → fail h' e) :
    Meets (s.accountConduct op) ok fail (ask ctx q failure) h := by
  have hsparing := sparing_query ctx hq
  refine meets_history_ask (allows_of_isSparing (.inl hh) hsparing.1) (fun r _ => ?_) fun e _ => ?_
  · exact hok _ r (fun y hy => List.mem_append_left _ hy)
      (hh.concat (not_wrote_of_isSparing hsparing.1)) (got_concat _ _ _ _)
  · exact hfail _ _ (hh.concat (not_wrote_of_isSparing hsparing.1))

/-- The one query that writes is allowed. -/
theorem write_allowed {q : Query} {failure : StoreError → ServiceError}
    {ok : List Step → q.Answer → Prop} {fail : List Step → Failure ServiceError → Prop}
    (hq : q.writes = true) (hh : Unwritten h) (hmay : s.MayWrite op h q)
    (hok : ∀ h' r, s.WroteOnce op h' (q.told r) → Got h' q (.ok r) → ok h' r)
    (hfail : ∀ h' e, Unwritten h' → fail h' e) :
    Meets (s.accountConduct op) ok fail (ask ctx q failure) h := by
  have hallows : s.Allows op h (.query ctx q) := by
    refine ⟨.inl hh, fun ctx' q' heq _ => ?_, nofun⟩
    cases heq
    exact ⟨hh, hmay⟩
  refine meets_history_ask hallows (fun r _ => ?_) fun e _ => ?_
  · exact hok _ r ⟨h, _, [], q, r, rfl, ⟨hq, ctx, rfl⟩, hh, unwritten_nil, hmay, rfl⟩
      (got_concat _ _ _ _)
  · exact hfail _ _ (hh.concat (not_wrote_error ctx q e))

/-- A token is accepted at a moment that was read. -/
theorem accountOfOpaque_allowed {token : String} {kind : TokenKind} {ok : List Step → Int → Prop}
    {fail : List Step → Failure ServiceError → Prop} (hh : Unwritten h)
    (hadmits : ∀ now, s.admitted? now op =
      namedByOpaque? token fun t => s.issuer.parseAccount now t kind)
    (hok : ∀ h' u, Unwritten h' → s.Admits op h' u → ok h' u)
    (hfail : ∀ h' e, Unwritten h' → fail h' e) :
    Meets (s.accountConduct op) ok fail (s.accountOfOpaque token kind) h := by
  refine meets_bind.2 (meets_ofExcept.2 ⟨fun t ht => ?_, fun e _ => hfail _ _ hh⟩)
  refine meets_bind.2 (meets_history_now (allows_of_isSparing (.inl hh) rfl) fun m _ => ?_)
  have hh' : Unwritten (h ++ [⟨.clock, m⟩]) := hh.concat (not_wrote_of_isSparing rfl)
  refine meets_expect.2 ⟨fun u hu => hok _ u hh' ⟨m, by simp, ?_⟩, fun _ => hfail _ _ hh'⟩
  rw [hadmits, namedByOpaque?, ht]
  exact hu

theorem accountOfAccess_allowed {token : String} {ok : List Step → Int → Prop}
    {fail : List Step → Failure ServiceError → Prop} (hh : Unwritten h)
    (hadmits : ∀ now, s.admitted? now op = s.issuer.parseAccess now token)
    (hok : ∀ h' u, Unwritten h' → s.Admits op h' u → ok h' u)
    (hfail : ∀ h' e, Unwritten h' → fail h' e) :
    Meets (s.accountConduct op) ok fail (s.accountOfAccess token) h := by
  refine meets_bind.2 (meets_history_now (allows_of_isSparing (.inl hh) rfl) fun m _ => ?_)
  have hh' : Unwritten (h ++ [⟨.clock, m⟩]) := hh.concat (not_wrote_of_isSparing rfl)
  refine meets_expect.2 ⟨fun u hu => hok _ u hh' ⟨m, by simp, ?_⟩, fun _ => hfail _ _ hh'⟩
  rw [hadmits]
  exact hu

/-- A password is hashed with a salt that is drawn. -/
theorem hashPassword_allowed {password : String} {ok : List Step → String → Prop}
    {fail : List Step → Failure ServiceError → Prop} (hh : Unwritten h)
    (hok : ∀ h' hash, h ⊆ h' → Unwritten h' → s.Salted h' password hash → ok h' hash)
    (hfail : ∀ h' e, Unwritten h' → fail h' e) :
    Meets (s.accountConduct op) ok fail (s.hashPassword ctx password) h := by
  have hbefore : (beforeDeadline ctx).Uses (Effect.Sparing ctx) :=
    (uses_step ⟨rfl, rfl⟩).bind fun _ => uses_require _ _
  refine meets_bind.2 ((sparing_allowed hbefore hh).mono (fun h₁ _ hh₁ => ?_)
    fun h₁ e hh₁ => hfail h₁ e hh₁.2)
  refine meets_bind.2 (meets_history_step (allows_of_isSparing (.inl hh₁.2) rfl) fun salt _ => ?_)
  have hh₂ : Unwritten (h₁ ++ [⟨.salt, salt⟩]) := hh₁.2.concat (not_wrote_of_isSparing rfl)
  refine meets_ofExcept.2 ⟨fun hash hhash => hok _ hash ?_ hh₂ ⟨salt, by simp, hhash⟩,
    fun e _ => hfail _ _ hh₂⟩
  exact fun y hy => List.mem_append_left _ (hh₁.1 hy)

/-- Checking a password tells whether it is right. -/
theorem verifyPassword_allowed {password hash : String} {ok : List Step → Bool → Prop}
    {fail : List Step → Failure ServiceError → Prop} (hh : Unwritten h)
    (hok : ∀ h', h ⊆ h' → Unwritten h' → ok h' (Password.verify password hash))
    (hfail : ∀ h' e, Unwritten h' → fail h' e) :
    Meets (s.accountConduct op) ok fail (verifyPassword ctx password hash) h := by
  have hbefore : (beforeDeadline ctx).Uses (Effect.Sparing ctx) :=
    (uses_step ⟨rfl, rfl⟩).bind fun _ => uses_require _ _
  exact meets_bind.2 ((sparing_allowed hbefore hh).mono (fun h₁ _ hh₁ => hok h₁ hh₁.1 hh₁.2)
    fun h₁ e hh₁ => hfail h₁ e hh₁.2)

theorem MayTell.mono {occasion : Occasion} (ht : MayTell op h occasion u) (hsub : h ⊆ h') :
    MayTell op h' occasion u := by
  cases ht with
  | register hu => exact .register (hu.mono hsub)
  | sendVerifyEmail ha hconfirmed => exact .sendVerifyEmail (ha.mono hsub) hconfirmed
  | sendForgetPassword ha hconfirmed => exact .sendForgetPassword (ha.mono hsub) hconfirmed

/-- **Telling the owner of an account** is allowed, and writes nothing. -/
theorem inform_allowed (occasion : Occasion) {I : List Step → Prop} (hI : I h)
    (htell : MayTell op h occasion u)
    (hunwritten : ∀ h', I h' → Unwritten h' ∨ ∃ input, op = .register input)
    (hkeep : ∀ h' x, I h' → (∀ q r, ¬ Step.Wrote x q r) → I (h' ++ [x])) :
    Meets (s.accountConduct op) (fun h' _ => I h') (fun h' _ => I h')
      (do
        let issued ← issue fun now jti =>
          s.issuer.generate now jti (.account u) occasion.kind (s.issuer.ttlFor occasion)
        s.announce ctx occasion u issued.token) h := by
  have hclock (m : Moment) : I (h ++ [⟨.clock, m⟩]) := hkeep _ _ hI (not_wrote_of_isSparing rfl)
  have hdrawn (m : Moment) (jti : String) : I (h ++ [⟨.clock, m⟩] ++ [⟨.identifier, jti⟩]) :=
    hkeep _ _ (hclock m) (not_wrote_of_isSparing rfl)
  refine meets_bind.2 (meets_history_issue (allows_of_isSparing (hunwritten h hI) rfl)
    (fun m => allows_of_isSparing (hunwritten _ (hclock m)) rfl) (fun m jti t ht => ?_)
    fun m jti e _ _ => hdrawn m jti)
  refine meets_bind.2 (meets_history_step ⟨hunwritten _ (hdrawn m jti), nofun, ?_⟩ fun sent _ => ?_)
  · rintro _ _ _ ⟨⟩
    refine ⟨occasion, u, htell.mono fun y hy => ?_, m, jti, t, by simp, by simp [Drew], ht, rfl,
      rfl⟩
    exact List.mem_append_left _ (List.mem_append_left _ hy)
  · have hsent := hkeep _ ⟨.publish ctx (s.subjects.subject occasion) _, sent⟩ (hdrawn m jti)
      (by rintro q r ⟨-, ctx', heq⟩; cases heq)
    exact meets_ofExcept.2 ⟨fun _ _ => hsent, fun _ _ => hsent⟩

/-- Whoever is over has written nothing, or has written once and answers,
unless a registration was aborted. -/
theorem ends_cases {r : Except (Failure ServiceError) Answer} (hr : s.Ends op h r) :
    (Unwritten h ∧ ∀ a, r = .ok a → op.writes = false) ∨
      ∃ a, s.WroteOnce op h a ∧
        (r = .ok a ∨ r = .error .aborted ∧ ∃ input, op = .register input) := by
  match r, hr with
  | .ok a, .inl ⟨hop, hh⟩ => exact .inl ⟨hh, fun _ _ => hop⟩
  | .ok a, .inr hw => exact .inr ⟨a, hw, .inl rfl⟩
  | .error (.reported e), hh => exact .inl ⟨hh, nofun⟩
  | .error .aborted, .inl hh => exact .inl ⟨hh, nofun⟩
  | .error .aborted, .inr ⟨input, id, hop, hw⟩ => exact .inr ⟨_, hw, .inr ⟨rfl, input, hop⟩⟩

/-! ## Operation by operation -/

/-- Who fails may have written nothing. -/
theorem ends_error (hh : Unwritten h) (e : Failure ServiceError) :
    s.Ends op h (.error e) := by
  cases e with
  | reported e => exact hh
  | aborted => exact .inl hh

theorem WroteOnce.concat {a : Answer} (hw : s.WroteOnce op h a) {x : Step}
    (hx : ∀ q r, ¬ x.Wrote q r) : s.WroteOnce op (h ++ [x]) a := by
  obtain ⟨h₁, y, h₂, q, r, rfl, hy, hh₁, hh₂, hmay, ha⟩ := hw
  exact ⟨h₁, y, h₂ ++ [x], q, r, by simp, hy, hh₁, hh₂.concat hx, hmay, ha⟩

theorem register_allowed (input : Registration) :
    Meets (s.accountConduct (.register input))
      (fun h id => s.WroteOnce (.register input) h (.id id))
      (fun h e => s.Ends (.register input) h (.error e)) (s.register ctx input) [] := by
  refine meets_bind.2 (meets_require.2 ⟨fun _ => ?_, fun _ => unwritten_nil⟩)
  refine meets_bind.2 (meets_require.2 ⟨fun _ => ?_, fun _ => unwritten_nil⟩)
  refine meets_bind.2 (meets_require.2 ⟨fun _ => ?_, fun _ => unwritten_nil⟩)
  refine meets_bind.2 (hashPassword_allowed unwritten_nil (fun h₁ hash _ hh₁ hhash => ?_)
    fun _ e hh' => ends_error hh' e)
  refine meets_bind.2 (meets_history_step
    (allows_of_isSparing (.inl hh₁) (sparing_query ctx rfl).1) fun found _ => ?_)
  have hh₂ : Unwritten (h₁ ++ [⟨.query ctx (.accountByEmail input.email), found⟩]) :=
    hh₁.concat (not_wrote_of_isSparing rfl)
  match found with
  | .ok a => exact hh₂
  | .error (.io _) | .error (.connection _) | .error (.migration _) | .error (.query _)
  | .error (.conflict _) | .error .deadlineExceeded => exact hh₂
  | .error (.notFound _) =>
    refine meets_bind.2 (write_allowed rfl hh₂
      (.register (hhash.mono (List.subset_append_left _ _))) (fun h₃ id hwrote hgot => ?_)
      fun _ e hh' => ends_error hh' e)
    -- the event may get out or not: the account is there
    have hinform : Meets (s.accountConduct (.register input))
        (fun h' _ => s.WroteOnce (.register input) h' (.id id))
        (fun h' _ => s.WroteOnce (.register input) h' (.id id)) (s.announceVerifyEmail ctx id) h₃ :=
      inform_allowed .verifyEmail hwrote (.register hgot)
        (fun _ _ => .inr ⟨input, rfl⟩) fun _ _ hw hx => hw.concat hx
    refine meets_bind.2 (meets_recover.2 (hinform.mono (fun _ _ hw => hw) fun _ e hw => ?_))
    cases e with
    | reported e => exact hw
    | aborted => exact .inr ⟨input, id, rfl, hw⟩

theorem sendVerifyEmail_allowed (email : String) :
    Meets (s.accountConduct (.sendVerifyEmail email)) (fun h _ => Unwritten h)
      (fun h _ => Unwritten h) (s.sendVerifyEmail ctx email) [] := by
  refine meets_bind.2 (ask_allowed rfl unwritten_nil (fun h₁ a _ hh₁ hgot => ?_) fun _ _ hh' => hh')
  refine meets_bind.2 (meets_require.2 ⟨fun hconfirmed => ?_, fun _ => hh₁⟩)
  exact inform_allowed .verifyEmail hh₁
    (.sendVerifyEmail hgot (by simpa using hconfirmed)) (fun _ => .inl) fun _ _ hh' => hh'.concat

theorem sendForgetPassword_allowed (email : String) :
    Meets (s.accountConduct (.sendForgetPassword email)) (fun h _ => Unwritten h)
      (fun h _ => Unwritten h) (s.sendForgetPassword ctx email) [] := by
  refine meets_bind.2 (ask_allowed rfl unwritten_nil (fun h₁ a _ hh₁ hgot => ?_) fun _ _ hh' => hh')
  refine meets_bind.2 (meets_require.2 ⟨fun hconfirmed => ?_, fun _ => hh₁⟩)
  exact inform_allowed .forgetPassword hh₁ (.sendForgetPassword hgot hconfirmed)
    (fun _ => .inl) fun _ _ hh' => hh'.concat

theorem Admits.mono (hu : s.Admits op h u) (hsub : h ⊆ h') : s.Admits op h' u :=
  hu.imp fun _ hm => ⟨hsub hm.1, hm.2⟩

theorem verifyEmail_allowed (token : String) :
    Meets (s.accountConduct (.verifyEmail token))
      (fun h _ => s.WroteOnce (.verifyEmail token) h .done) (fun h _ => Unwritten h)
      (s.verifyEmail ctx token) [] := by
  refine meets_bind.2 (accountOfOpaque_allowed unwritten_nil (fun _ => rfl) (fun h₁ u hh₁ hu => ?_)
    fun _ _ hh' => hh')
  refine meets_bind.2 (ask_allowed rfl hh₁ (fun h₂ a hsub₂ hh₂ hgot => ?_) fun _ _ hh' => hh')
  refine meets_bind.2 (meets_require.2 ⟨fun hconfirmed => ?_, fun _ => hh₂⟩)
  exact write_allowed rfl hh₂ (.verifyEmail (hu.mono hsub₂) hgot (by simpa using hconfirmed))
    (fun _ _ hwrote _ => hwrote) fun _ _ hh' => hh'

theorem forgetPassword_allowed (token new : String) :
    Meets (s.accountConduct (.forgetPassword token new))
      (fun h _ => s.WroteOnce (.forgetPassword token new) h .done) (fun h _ => Unwritten h)
      (s.forgetPassword ctx token new) [] := by
  refine meets_bind.2 (meets_require.2 ⟨fun _ => ?_, fun _ => unwritten_nil⟩)
  refine meets_bind.2 (accountOfOpaque_allowed unwritten_nil (fun _ => rfl) (fun h₁ u hh₁ hu => ?_)
    fun _ _ hh' => hh')
  refine meets_bind.2 (ask_allowed rfl hh₁ (fun h₂ a hsub₂ hh₂ hgot => ?_) fun _ _ hh' => hh')
  refine meets_bind.2 (verifyPassword_allowed hh₂ (fun h₃ hsub₃ hh₃ => ?_) fun _ _ hh' => hh')
  refine meets_bind.2 (meets_require.2 ⟨fun hnew => ?_, fun _ => hh₃⟩)
  refine meets_bind.2 (hashPassword_allowed hh₃ (fun h₄ hash hsub₄ hh₄ hhash => ?_)
    fun _ _ hh' => hh')
  exact write_allowed rfl hh₄ (.forgetPassword (hu.mono fun y hy => hsub₄ (hsub₃ (hsub₂ hy)))
    (hgot.mono fun y hy => hsub₄ (hsub₃ hy)) (by simpa using hnew) hhash)
    (fun _ _ hwrote _ => hwrote) fun _ _ hh' => hh'

theorem changePassword_allowed (token old new : String) :
    Meets (s.accountConduct (.changePassword token old new))
      (fun h _ => s.WroteOnce (.changePassword token old new) h .done) (fun h _ => Unwritten h)
      (s.changePassword ctx token old new) [] := by
  refine meets_bind.2 (meets_require.2 ⟨fun _ => ?_, fun _ => unwritten_nil⟩)
  refine meets_bind.2 (meets_require.2 ⟨fun hne => ?_, fun _ => unwritten_nil⟩)
  refine meets_bind.2 (accountOfAccess_allowed unwritten_nil (fun _ => rfl) (fun h₁ u hh₁ hu => ?_)
    fun _ _ hh' => hh')
  refine meets_bind.2 (ask_allowed rfl hh₁ (fun h₂ a hsub₂ hh₂ hgot => ?_) fun _ _ hh' => hh')
  refine meets_bind.2 (verifyPassword_allowed hh₂ (fun h₃ hsub₃ hh₃ => ?_) fun _ _ hh' => hh')
  refine meets_bind.2 (meets_require.2 ⟨fun hold => ?_, fun _ => hh₃⟩)
  refine meets_bind.2 (hashPassword_allowed hh₃ (fun h₄ hash hsub₄ hh₄ hhash => ?_)
    fun _ _ hh' => hh')
  exact write_allowed rfl hh₄ (.changePassword (by simpa using hne)
    (hu.mono fun y hy => hsub₄ (hsub₃ (hsub₂ hy))) (hgot.mono fun y hy => hsub₄ (hsub₃ hy)) hold
    hhash) (fun _ _ hwrote _ => hwrote) fun _ _ hh' => hh'

theorem updateProfile_allowed (token : String) (patch : ProfilePatch) :
    Meets (s.accountConduct (.updateProfile token patch))
      (fun h _ => s.WroteOnce (.updateProfile token patch) h .done) (fun h _ => Unwritten h)
      (s.updateProfile ctx token patch) [] := by
  have hfields (field : Field) (text : Option String) {h : List Step} (hh : Unwritten h) :
      Meets (s.accountConduct (.updateProfile token patch)) (fun h' _ => h ⊆ h' ∧ Unwritten h')
        (fun h' _ => h ⊆ h' ∧ Unwritten h') (s.requireValidIfPresent field text) h := by
    have huses : (s.requireValidIfPresent field text).Uses (Effect.Sparing ctx) :=
      s.uses_requireValidIfPresent field text
    exact sparing_allowed huses hh
  refine meets_bind.2 ((hfields _ _ unwritten_nil).mono (fun h₁ _ hh₁ => ?_) fun _ _ hh' => hh'.2)
  refine meets_bind.2 ((hfields _ _ hh₁.2).mono (fun h₂ _ hh₂ => ?_) fun _ _ hh' => hh'.2)
  refine meets_bind.2 ((hfields _ _ hh₂.2).mono (fun h₃ _ hh₃ => ?_) fun _ _ hh' => hh'.2)
  refine meets_bind.2 (accountOfAccess_allowed hh₃.2 (fun _ => rfl) (fun h₄ u hh₄ hu => ?_)
    fun _ _ hh' => hh')
  refine meets_bind.2 (ask_allowed rfl hh₄ (fun h₅ a hsub₅ hh₅ hgot => ?_) fun _ _ hh' => hh')
  exact write_allowed rfl hh₅ (.updateProfile (hu.mono hsub₅) hgot) (fun _ _ hwrote _ => hwrote)
    fun _ _ hh' => hh'

/-- **Every operation treats accounts as it may.** -/
theorem perform_allowed (s : Service) (ctx : RequestContext) (op : Operation) :
    (s.perform ctx op).run.Meets (s.accountConduct op) (s.Ends op) [] := by
  have hprocedure : Meets (s.accountConduct op) (fun h a => s.Ends op h (.ok a))
      (fun h e => s.Ends op h (.error e)) (s.perform ctx op) [] := by
    cases op with
    | register input =>
      exact meets_map.2 ((register_allowed input).mono (fun _ _ hw => .inr hw) fun _ _ he => he)
    | verifyEmail token =>
      exact meets_map.2 ((verifyEmail_allowed token).mono (fun _ _ hw => .inr hw)
      fun _ e hh => ends_error hh e)
    | forgetPassword token new =>
      exact meets_map.2 ((forgetPassword_allowed token new).mono (fun _ _ hw => .inr hw)
        fun _ e hh => ends_error hh e)
    | changePassword token old new =>
      exact meets_map.2 ((changePassword_allowed token old new).mono (fun _ _ hw => .inr hw)
        fun _ e hh => ends_error hh e)
    | updateProfile token patch =>
      exact meets_map.2 ((updateProfile_allowed token patch).mono (fun _ _ hw => .inr hw)
        fun _ e hh => ends_error hh e)
    | sendVerifyEmail email =>
      exact meets_map.2 ((sendVerifyEmail_allowed email).mono (fun _ _ hh => .inl ⟨rfl, hh⟩)
        fun _ e hh => ends_error hh e)
    | sendForgetPassword email =>
      exact meets_map.2 ((sendForgetPassword_allowed email).mono (fun _ _ hh => .inl ⟨rfl, hh⟩)
        fun _ e hh => ends_error hh e)
    | _ =>
      exact (sparing_allowed (s.sparing_perform ctx rfl) unwritten_nil).mono
        (fun _ _ hh => .inl ⟨rfl, hh.2⟩) fun _ e hh => ends_error hh.2 e
  exact Program.Meets.mono hprocedure fun h r hr => by cases r <;> exact hr

/-! ## Along a run -/

variable {w : World} {requests : List Request} {turns : List Turn} {i : Nat} {t : Transition}
variable {l₁ l₂ : List Transition} {request : Request}

/-- What has been asked for has not begun. -/
theorem start_getElem? (s : Service) (w : World) (hrequest : requests[i]? = some request) :
    (s.start w requests).programs[i]? = some (s.perform request.ctx request.operation).run := by
  simp [start, hrequest]

/-- Every step is taken for a request. -/
theorem exists_request (ht : t ∈ (s.start w requests).trace turns) :
    ∃ request, requests[t.program]? = some request := by
  obtain ⟨l₁, l₂, htrace⟩ := List.append_of_mem ht
  obtain ⟨turns₁, turns₂, -, -, htail⟩ := Pool.exists_of_trace_eq_append htrace
  obtain ⟨turn, -, htr, -⟩ := Pool.exists_of_trace_eq_cons htail
  obtain ⟨-, -, -, next, hnext, -⟩ := Pool.advance_of_transition? htr
  have hlength := Pool.length_run (s.start w requests) turns₁
  obtain ⟨hlt, -⟩ := List.getElem?_eq_some_iff.1 hnext
  rw [hlength, start, List.length_map] at hlt
  exact ⟨_, List.getElem?_eq_getElem hlt⟩

/-- Every step is one that its operation uses. -/
theorem uses_of_trace {P : Effect → Prop} (ht : t ∈ (s.start w requests).trace turns)
    (hrequest : requests[t.program]? = some request)
    (huses : (s.perform request.ctx request.operation).Uses P) : P t.effect := by
  obtain ⟨l₁, l₂, htrace⟩ := List.append_of_mem ht
  have hmeets : (s.perform request.ctx request.operation).run.Meets
      (.history (fun _ e => P e) fun _ _ => True) (fun _ _ => True) [] :=
    Program.Meets.mono (huses.meets (I := fun _ => True)
      (fun _ _ _ he => he) (fun _ _ _ _ _ _ _ => trivial) trivial) fun _ _ _ => trivial
  exact Pool.permits_run (s.start_getElem? w hrequest) hmeets htrace

/-- Every step looks at no deadline but that of its request. -/
theorem isFor_of_trace (ht : t ∈ (s.start w requests).trace turns)
    (hrequest : requests[t.program]? = some request) : t.effect.IsFor request.ctx :=
  uses_of_trace ht hrequest (s.perform_isFor request.ctx request.operation)

/-- A request without a deadline is disturbed by faults only. -/
theorem undisturbed_of_trace (ht : t ∈ (s.start w requests).trace turns)
    (hrequest : requests[t.program]? = some request) (hctx : request.ctx.deadline = none)
    (hfault : t.draw.storeFault = none) : t.Undisturbed where
  store := hfault
  deadline ctx hdeadline := by
    rw [(isFor_of_trace ht hrequest).eq_of_request? hdeadline, RequestContext.isOver, hctx]

/-- **What has become of an operation that is over** is told by its
steps. -/
theorem ends_of_done {r : Except (Failure ServiceError) Answer}
    (hrequest : requests[i]? = some request)
    (hdone : ((s.start w requests).run turns).programs[i]? = some (.done r)) :
    s.Ends request.operation (stepsOf i ((s.start w requests).trace turns)) r := by
  obtain ⟨prog, hprog, hmeets⟩ := Pool.meets_run turns (s.start_getElem? w hrequest)
    (s.perform_allowed request.ctx request.operation)
  obtain rfl := Option.some.inj (hprog.symm.trans hdone)
  exact hmeets

/-- **Every step of a run is allowed.** -/
theorem allows_of_trace (htrace : (s.start w requests).trace turns = l₁ ++ t :: l₂)
    (hrequest : requests[t.program]? = some request) :
    s.Allows request.operation (stepsOf t.program l₁) t.effect :=
  Pool.permits_run (s.start_getElem? w hrequest) (s.perform_allowed request.ctx request.operation)
    htrace

/-- What was written may be written. -/
theorem mayWrite_of_trace {q : Query} {r : q.Answer}
    (htrace : (s.start w requests).trace turns = l₁ ++ t :: l₂)
    (hrequest : requests[t.program]? = some request) (hwrote : t.step.Wrote q r) :
    Unwritten (stepsOf t.program l₁) ∧ s.MayWrite request.operation (stepsOf t.program l₁) q := by
  obtain ⟨hq, ctx, hstep⟩ := hwrote
  exact (allows_of_trace htrace hrequest).writes ctx q (congrArg Step.effect hstep) hq

/-- **Whoever has written is over**, except that a registration goes on to
tell the owner. -/
theorem done_of_wrote {q : Query} {r : q.Answer} (ht : t ∈ (s.start w requests).trace turns)
    (hrequest : requests[t.program]? = some request) (hwrote : t.step.Wrote q r)
    (hop : ∀ input, request.operation ≠ .register input) :
    ∃ a, ((s.start w requests).run turns).programs[t.program]? = some (.done (.ok a)) := by
  obtain ⟨prog, hprog, hmeets⟩ := Pool.meets_run turns (s.start_getElem? w hrequest)
    (s.perform_allowed request.ctx request.operation)
  have hwritten : ¬ Unwritten (stepsOf t.program ((s.start w requests).trace turns)) :=
    fun hun => hun _ (mem_stepsOf.2 ⟨t, ht, rfl, rfl⟩) q r hwrote
  match prog, hmeets with
  | .await e next, hmeets =>
    rcases hmeets.1.unwritten with hun | ⟨input, hinput⟩
    · exact absurd hun hwritten
    · exact absurd hinput (hop input)
  | .done (.error (.reported e)), hmeets => exact absurd hmeets hwritten
  | .done (.error .aborted), hmeets =>
    obtain hun | ⟨input, -, hinput, -⟩ := hmeets
    · exact absurd hun hwritten
    · exact absurd hinput (hop input)
  | .done (.ok a), _ => exact ⟨a, hprog⟩

/-! ## One errand -/

variable {e : Errand}

/-- All steps of an errand are those of one program. -/
theorem program_of_stepsTaken (ht : t ∈ s.stepsTaken w e) : t.program = 0 := by
  obtain ⟨turns, -, htrace⟩ := s.exists_turns_carryOut w e
  obtain ⟨request, hrequest⟩ := exists_request (htrace ▸ ht)
  have hlt : t.program < 1 := (List.getElem?_eq_some_iff.1 hrequest).1
  omega

/-- What has become of an errand is told by its steps. -/
theorem ends_carryOut (s : Service) (w : World) (e : Errand) :
    s.Ends e.operation (stepsOf 0 (s.stepsTaken w e)) (s.carryOut w e).result := by
  obtain ⟨turns, hrun, htrace⟩ := s.exists_turns_carryOut w e
  have hrequest : [e.request][0]? = some e.request := rfl
  rw [← htrace]
  exact ends_of_done hrequest (congrArg (fun p => p.programs[0]?) hrun)

/-- Every step of an errand is allowed. -/
theorem allows_of_stepsTaken (htaken : s.stepsTaken w e = l₁ ++ t :: l₂) :
    s.Allows e.operation (stepsOf 0 l₁) t.effect := by
  obtain ⟨turns, -, htrace⟩ := s.exists_turns_carryOut w e
  have hprogram : t.program = 0 := program_of_stepsTaken (by rw [htaken]; simp)
  have hrequest : [e.request][t.program]? = some e.request := by
    rw [hprogram]
    rfl
  have hallows := allows_of_trace (htrace.trans htaken) hrequest
  rwa [hprogram] at hallows

/-- What was not written by a program was not written by its steps. -/
theorem not_wrote_of_unwritten {i : Nat} {l : List Transition} (h : Unwritten (stepsOf i l))
    (hi : ∀ t ∈ l, t.program = i) : ∀ t ∈ l, ¬ t.Wrote := by
  rintro t ht ⟨q, r, hq, hanswers⟩
  exact h _ (mem_stepsOf.2 ⟨t, ht, hi t ht, rfl⟩) q r ⟨hq, hanswers⟩

/-- An errand has written to the accounts with a query, at its time and
after steps of its own. -/
structure WroteWith (s : Service) (w : World) (e : Errand) (q : Query) (r : q.Answer)
    (before after : Store) : Prop where
  may : ∃ h, s.MayWrite e.operation h q ∧ (∀ m, (⟨.clock, m⟩ : Step) ∈ h → m.seconds = e.time) ∧
    ∀ x ∈ h, ∃ t ∈ s.stepsTaken w e, t.step = x
  opened : w.store.SameAccounts before
  run : before.run e.time q = .ok (r, after)
  closed : after.SameAccounts (s.carryOut w e).world.store
  result : (s.carryOut w e).result = .ok (q.told r) ∨
    (s.carryOut w e).result = .error .aborted ∧ ∃ input, e.operation = .register input

/-- **An errand writes to the accounts at most once**, in calm conditions,
and it does if it is to and succeeds. -/
theorem carryOut_cases (hcalm : ∀ t ∈ s.stepsTaken w e, t.Calm e.time) :
    (w.store.SameAccounts (s.carryOut w e).world.store ∧
      ∀ a, (s.carryOut w e).result = .ok a → e.operation.writes = false) ∨
    ∃ q r before after, s.WroteWith w e q r before after := by
  have hleads := s.leads_carryOut w e
  have hends := s.ends_carryOut w e
  have hprogram : ∀ t ∈ s.stepsTaken w e, t.program = 0 := fun t ht => program_of_stepsTaken ht
  have hleaves (h : Unwritten (stepsOf 0 (s.stepsTaken w e))) :
      w.store.SameAccounts (s.carryOut w e).world.store :=
    hleads.sameAccounts (not_wrote_of_unwritten h hprogram)
  rcases ends_cases hends with ⟨hunwritten, hidle⟩ |
    ⟨a, ⟨h₁, x, h₂, q, r, hsteps, hwrote, hh₁, hh₂, hmay, rfl⟩, hresult⟩
  · exact .inl ⟨hleaves hunwritten, hidle⟩
  · -- the step that has written, and those before and after it
    obtain ⟨l₁, t, l₂, htaken, -, rfl, rfl, rfl⟩ := exists_of_stepsOf_eq hsteps
    rw [htaken] at hleads hprogram hcalm
    obtain ⟨hbefore, hafter⟩ := hleads.split
    have hrun := Transition.run_of_answers hwrote.2
    rw [(hcalm t (by simp)).time] at hrun
    refine .inr ⟨q, r, _, _, ⟨_, hmay, fun m hm => ?_, fun x hx => ?_⟩,
      hbefore.sameAccounts (not_wrote_of_unwritten hh₁ fun t' ht' => hprogram t' (by simp [ht'])),
      hrun,
      hafter.sameAccounts (not_wrote_of_unwritten hh₂ fun t' ht' => hprogram t' (by simp [ht'])),
      hresult⟩
    · obtain ⟨t', ht', -, hstep⟩ := mem_stepsOf.1 hm
      rw [Transition.seconds_eq_time hstep]
      exact (hcalm t' (by simp [ht'])).time
    · obtain ⟨t', ht', -, hstep⟩ := mem_stepsOf.1 hx
      exact ⟨t', by simp [htaken, ht'], hstep⟩

/-- **The hash of whoever has registered** has the salt of zeros, if that is
the one that is drawn. -/
theorem hash_eq_of_registered {id : Nat → String} {input : Registration} {n : Int} {hash : String}
    (hcalm : ∀ t ∈ s.stepsTaken w e, t.Calm e.time) (hdraws : e.draws = calmDraws e.time id)
    (hop : e.operation = .register input)
    (hinsert : w.store.insertAccount e.time ⟨input.email, hash, input.displayName⟩ =
      .ok (n, (s.carryOut w e).world.store)) :
    Password.hash s.hashCost (.replicate 16 0) input.password = .ok hash := by
  obtain ⟨-, -, hstore⟩ := Store.insertAccount_eq_ok_iff.1 hinsert
  have haccounts := congrArg Store.accounts hstore
  rcases carryOut_cases hcalm with
    ⟨hsame, -⟩ | ⟨q, r, before, after, ⟨h, hmay, -, htaken⟩, -, hrun, hclosed, -⟩
  · rw [hsame.1] at haccounts
    simp at haccounts
  · rw [hop] at hmay
    cases hmay with
    | @register _ _ hash' hhash =>
      obtain ⟨-, -, hafter⟩ := Store.insertAccount_eq_ok_iff.1 hrun
      rw [hclosed.1, hafter] at haccounts
      have hlast := List.singleton_inj.1 (List.append_inj' haccounts rfl).2
      obtain rfl : hash' = hash := congrArg Account.passwordHash hlast
      refine hhash.hash_eq fun salt hsalt => ?_
      obtain ⟨t, ht, hstep⟩ := htaken _ hsalt
      rw [stepsTaken, hdraws] at ht
      exact Program.salt_eq_of_trace (List.mem_map.2 ⟨t, ht, hstep⟩)

/-- The token of whoever has written was accepted at that time. -/
theorem admitted?_of_admits {h : List Step} {op : Operation} {now u : Int}
    (hclock : ∀ m, (⟨.clock, m⟩ : Step) ∈ h → m.seconds = now) (hu : s.Admits op h u) :
    s.admitted? now op = some u := by
  obtain ⟨m, hm, hadmitted⟩ := hu
  rwa [hclock m hm] at hadmitted

end Service

end SignOn
