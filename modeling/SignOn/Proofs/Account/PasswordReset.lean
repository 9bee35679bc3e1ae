import SignOn.Proofs.Account.EventTokens
/-!
# Resetting a password

Whoever resets a password presents a token, and nobody looks then at whether
the address of the account is confirmed. It is: only `sendForgetPassword`
issues tokens that are accepted there, it issues them for confirmed accounts,
and an address stays confirmed. So in every run in which no such token is
forged, whatever else goes on and goes wrong, a password is set only for a
confirmed account, whose owner was sent the token no longer ago than its
lifetime: `Service.reset_only_if_sent`.
-/

namespace SignOn

/-! ## Tokens that are given away -/

/-- A step gives a token away: in an event, or with a session, which has a
refresh token and inside it an access token. -/
inductive Effect.Carries (j : TokenIssuer) (text : String) : Effect → Prop
  | event {ctx : RequestContext} {subject : String} {n : Nat} :
      Carries j text (.publish ctx subject (⟨n, Wrapped.encodeString text⟩ : Event).payload)
  | refresh {ctx : RequestContext} {u ttl : Int} :
      Carries j text (.query ctx (.openSession u text ttl))
  | access {ctx : RequestContext} {u ttl : Int} {v : String} {c : Claims} (hsigns : j.Signs v c)
      (hvalue : c.value = .text text) : Carries j text (.query ctx (.openSession u v ttl))

/-- A token was issued in the course of some turns: a program has been about
to give it away, whether or not it came to that. -/
def Pool.Issued {α : Type} (j : TokenIssuer) (p : Pool α) (turns : List Turn) (text : String) :
    Prop :=
  ∃ (turns₁ : List Turn) (i : Nat) (e : Effect) (next : e.Reply → Program α), turns₁ <+: turns ∧
    (p.run turns₁).programs[i]? = some (.await e next) ∧ e.Carries j text

/-- What was issued in some turns was issued in more. -/
theorem Pool.Issued.mono {α : Type} {j : TokenIssuer} {p : Pool α} {turns turns' : List Turn}
    {text : String} (h : p.Issued j turns text) (hsub : turns <+: turns') :
    p.Issued j turns' text := by
  obtain ⟨turns₁, i, e, next, hturns₁, hnext, hcarries⟩ := h
  exact ⟨turns₁, i, e, next, hturns₁.trans hsub, hnext, hcarries⟩

/-- What a step has given away was issued. -/
theorem Pool.issued_of_mem {α : Type} {j : TokenIssuer} {p : Pool α} {turns : List Turn}
    {text : String} {t : Transition} (ht : t ∈ p.trace turns) (hcarries : t.effect.Carries j text) :
    p.Issued j turns text := by
  obtain ⟨l, l', htrace⟩ := List.append_of_mem ht
  obtain ⟨turns₁, turn, hsub, -, htr⟩ := exists_turn_of_trace_eq htrace
  obtain ⟨-, -, -, next, hnext, -⟩ := advance_of_transition? htr
  exact ⟨turns₁, t.program, t.effect, next, (List.prefix_append _ _).trans hsub, hnext, hcarries⟩

namespace Service

open Procedure

variable {s : Service} {w : World} {requests : List Request} {turns turns₁ : List Turn}
variable {l l' : List Transition} {u : Int} {text : String}

/-- **No token that resets a password is forged**: when one is about to be
checked at the next turn, and its signature and its kind are in order, it
was issued in the turns before. -/
def Unforged (s : Service) (w : World) (requests : List Request) (turns : List Turn) : Prop :=
  ∀ turns₁ t ctx token new text next, turns₁ ++ [t] <+: turns →
    requests[t.program]? = some ⟨ctx, .forgetPassword token new⟩ →
    ((s.start w requests).run turns₁).programs[t.program]? = some (.await .clock next) →
    Wrapped.decodeString token = .ok text → (s.issuer.claims? text .forgetPassword).isSome = true →
    (s.start w requests).Issued s.issuer turns₁ text

/-! ## Who issues such tokens -/

/-- What `sendForgetPassword` has done when it publishes: it has found a
confirmed account, and signed a token for it, at a moment that it read. -/
structure Found (s : Service) (email : String) (h : List Step) (a : Account) (m : Moment)
    (jti text : String) : Prop where
  steps : ∃ ctx, h = [⟨.query ctx (.accountByEmail email), .ok a⟩, ⟨.clock, m⟩, ⟨.identifier, jti⟩]
  confirmed : a.emailConfirmed = true
  signed : ∃ t, s.issuer.issueForgetPassword m.seconds jti a.id = .ok t ∧ t.token = text

/-- It publishes nothing but such a token. -/
def Discloses (s : Service) (email : String) (h : List Step) (e : Effect) : Prop :=
  ∀ ctx subject payload, e = .publish ctx subject payload → ∃ a m jti text,
    s.Found email h a m jti text ∧
      payload = (⟨a.id.natAbs, Wrapped.encodeString text⟩ : Event).payload

theorem sendForgetPassword_discloses (s : Service) (ctx : RequestContext) (email : String) :
    (s.perform ctx (.sendForgetPassword email)).run.Meets
      (.history (s.Discloses email) fun _ _ => True) (fun _ _ => True) [] := by
  have hsend : Meets (.history (s.Discloses email) fun _ _ => True) (fun _ _ => True)
      (fun _ _ => True) (s.sendForgetPassword ctx email) [] := by
    refine meets_bind.2 (meets_history_ask nofun (fun a _ => ?_) fun _ _ => trivial)
    refine meets_bind.2 (meets_require.2 ⟨fun hconfirmed => ?_, fun _ => trivial⟩)
    refine meets_bind.2 (meets_history_issue nofun (fun _ => nofun) (fun m jti t ht => ?_)
      fun _ _ _ _ _ => trivial)
    refine meets_bind.2 (meets_history_step ?_ fun sent _ => ?_)
    · rintro _ _ _ ⟨⟩
      exact ⟨a, m, jti, t.token, ⟨⟨ctx, rfl⟩, hconfirmed, t, ht, rfl⟩, rfl⟩
    · exact meets_ofExcept.2 ⟨fun _ _ => trivial, fun _ _ => trivial⟩
  have hperform : Meets (.history (s.Discloses email) fun _ _ => True) (fun _ _ => True)
      (fun _ _ => True) (s.perform ctx (.sendForgetPassword email)) [] :=
    meets_map.2 hsend
  exact Program.Meets.mono hperform fun _ _ _ => trivial

/-- A token that is accepted to reset a password is what it was signed
as. -/
theorem eq_of_signs_forgetPassword {c c' : Claims} (hsigns : s.issuer.Signs text c')
    (hc : s.issuer.claims? text .forgetPassword = some c) :
    c = c' ∧ c'.kind = .forgetPassword := by
  refine ⟨hsigns.eq_of_claims? hc, ?_⟩
  by_contra hkind
  cases (hsigns.claims?_eq_none hkind).symm.trans hc

/-- **Only `sendForgetPassword` issues a token that resets a password**: a
program that is about to give one away has found a confirmed account and
signed the token for it. -/
theorem found_of_carries {i : Nat} {e : Effect}
    {next : e.Reply → Program (Except (Failure ServiceError) Answer)} {c : Claims}
    (hnext : ((s.start w requests).run turns).programs[i]? = some (.await e next))
    (hcarries : e.Carries s.issuer text)
    (hc : s.issuer.claims? text .forgetPassword = some c) :
    ∃ ctx email a m jti, requests[i]? = some ⟨ctx, .sendForgetPassword email⟩ ∧
      s.Found email (stepsOf i ((s.start w requests).trace turns)) a m jti text := by
  obtain ⟨hlt, -⟩ := List.getElem?_eq_some_iff.1 hnext
  rw [Pool.length_run, start, List.length_map] at hlt
  have hrequest := List.getElem?_eq_getElem hlt
  generalize requests[i] = request at hrequest
  -- whatever the program does next is allowed, by each of the conditions
  have hpermits {permits : List Step → Effect → Prop} {Q}
      (hmeets : (s.perform request.ctx request.operation).run.Meets
        (.history permits fun _ _ => True) Q []) :
      permits (stepsOf i ((s.start w requests).trace turns)) e := by
    obtain ⟨prog, hprog', hmeets⟩ := Pool.meets_run turns (s.start_getElem? w hrequest) hmeets
    obtain rfl := Option.some.inj (hprog'.symm.trans hnext)
    exact hmeets.1
  have hopens := (hpermits (s.perform_meets _ _)).opens
  cases hcarries with
  | @event ctx subject n =>
    obtain ⟨occasion, u, htell, m, jti, issued, -, -, hissued, -, hpayload⟩ :=
      (hpermits (s.perform_allowed _ _)).publishes _ _ _ rfl
    obtain rfl := Wrapped.encodeString_inj (congrArg Event.token (Event.payload_inj hpayload))
    obtain ⟨-, hkind⟩ := eq_of_signs_forgetPassword (TokenIssuer.generate_eq_ok hissued).2.1 hc
    obtain ⟨ctx', op⟩ := request
    cases htell with
    | register hu => cases hkind
    | sendVerifyEmail ha hconfirmed => cases hkind
    | @sendForgetPassword email h b ha hconfirmed =>
      obtain ⟨a, m', jti', text', hfound, hpayload'⟩ :=
        hpermits (s.sendForgetPassword_discloses ctx' email) _ _ _ rfl
      have htext := Wrapped.encodeString_inj (congrArg Event.token (Event.payload_inj hpayload'))
      exact ⟨ctx', email, a, m', jti', hrequest, htext ▸ hfound⟩
  | refresh =>
    obtain ⟨-, access, jti, -, ⟨iat, hsigns⟩, -⟩ := hopens _ _ _ _ rfl
    cases (eq_of_signs_forgetPassword hsigns hc).2
  | access hsigns hvalue =>
    obtain ⟨-, access, jti, -, ⟨iat, hsigns'⟩, a, haccess, hkind, -⟩ := hopens _ _ _ _ rfl
    obtain rfl := hsigns'.unique hsigns
    obtain rfl := TokenValue.text.inj hvalue
    cases hkind.symm.trans (eq_of_signs_forgetPassword haccess hc).2

/-- A call of `sendForgetPassword` issued a token for an account. At one step
it read the clock, and the account was there then, with the address that
was asked for, and confirmed. At the other it drew the identifier with which
it signed the token. -/
structure Sent (s : Service) (requests : List Request) (u : Int) (text : String)
    (clock sign : Transition) : Prop where
  program : sign.program = clock.program
  asked : ∃ ctx email, requests[clock.program]? = some ⟨ctx, .sendForgetPassword email⟩ ∧
    ∃ a ∈ clock.before.store.accounts, a.id = u ∧ a.email = email ∧ a.emailConfirmed = true
  read : clock.effect = .clock
  signed : ∃ jti t, sign.identifier? = some jti ∧
    s.issuer.issueForgetPassword clock.time jti u = .ok t ∧ t.token = text

/-- One entry more of a list, before some that come later. -/
theorem sublist_append_cons {α : Type} (l₁ : List α) (x : α) {l l₂ : List α} (h : l.Sublist l₂) :
    (x :: l).Sublist (l₁ ++ x :: l₂) :=
  (h.cons_cons x).trans (List.sublist_append_right _ _)

/-- An account that was found is still there when the clock is read, and is
still confirmed. -/
theorem Found.exists_sent {i : Nat} {ctx : RequestContext} {email jti : String} {a : Account}
    {m : Moment} {w' : World} (h : s.Found email (stepsOf i l) a m jti text)
    (hrequest : requests[i]? = some ⟨ctx, .sendForgetPassword email⟩) (hleads : Leads w l w') :
    ∃ clock sign, [clock, sign].Sublist l ∧ s.Sent requests a.id text clock sign := by
  obtain ⟨⟨ctx', hsteps⟩, hconfirmed, t, ht, rfl⟩ := h
  obtain ⟨k₁, found, k₂, rfl, -, hfound, -, hsteps⟩ := exists_of_stepsOf_eq (h := []) hsteps
  obtain ⟨k₂, clock, k₃, rfl, rfl, hclock, -, hsteps⟩ := exists_of_stepsOf_eq (h := []) hsteps
  obtain ⟨k₃, sign, k₄, rfl, hprogram, hsign, -, -⟩ := exists_of_stepsOf_eq (h := []) hsteps
  have hrun := Transition.run_of_answers (q := .accountByEmail email) (x := a) ⟨ctx', hfound⟩
  obtain ⟨hmem, hemail⟩ := Store.mem_of_accountByEmail (Store.unchanged_eq_ok_iff.1 hrun).1
  have hremain := (Store.accountsRemain_of_run hrun).trans hleads.between.accountsRemain
  obtain ⟨a', ha', hremains⟩ := hremain a hmem
  have htime := Transition.seconds_eq_time hclock
  refine ⟨clock, sign, ?_, hprogram, ⟨ctx, email, hrequest, a', ha', hremains.id,
    hremains.email.trans hemail, hremains.confirmed hconfirmed⟩, congrArg Step.effect hclock,
    jti, t, Transition.identifier?_of_step hsign, htime ▸ ht, rfl⟩
  have horder := sublist_append_cons k₂ clock (sublist_append_cons k₃ sign (List.nil_sublist k₄))
  exact (horder.cons found).trans (List.sublist_append_right _ _)

/-- **Whoever presents a token that resets a password was sent it**, if it is
not forged. -/
theorem Unforged.exists_sent (h : s.Unforged w requests turns) {t : Transition}
    {ctx : RequestContext} {token new : String} {c : Claims}
    (htrace : (s.start w requests).trace turns = l ++ t :: l')
    (hrequest : requests[t.program]? = some ⟨ctx, .forgetPassword token new⟩)
    (hclock : t.effect = .clock) (htext : Wrapped.decodeString token = .ok text)
    (hc : s.issuer.claims? text .forgetPassword = some c) :
    ∃ clock sign, [clock, sign].Sublist l ∧ ∃ u, s.Sent requests u text clock sign := by
  obtain ⟨turns₁, turn, hsub, rfl, htr⟩ := Pool.exists_turn_of_trace_eq htrace
  obtain ⟨hprogram, -, -, next, hnext, -⟩ := Pool.advance_of_transition? htr
  obtain ⟨program, draw, before, effect⟩ := t
  obtain rfl : effect = .clock := hclock
  obtain rfl : program = turn.program := hprogram
  obtain ⟨turns₂, i, e, next', ⟨turns₃, rfl⟩, hnext', hcarries⟩ :=
    h turns₁ turn ctx token new text next hsub hrequest hnext htext (hc ▸ rfl)
  obtain ⟨ctx', email, a, m, jti, hrequest', hfound⟩ := found_of_carries hnext' hcarries hc
  obtain ⟨clock, sign, horder, hsent⟩ := hfound.exists_sent hrequest' (Pool.leads_trace _ turns₂)
  rw [Pool.trace_append]
  exact ⟨clock, sign, horder.trans (List.sublist_append_left _ _), a.id, hsent⟩

/-! ## Who resets a password -/

/-- A call sets the password of an account. At one step it reads the clock,
and its token is checked then; at the other it writes the hash, and writes
nothing else. -/
structure Resets (l : List Transition) (i : Nat) (u : Int) (check set : Transition) : Prop where
  program : check.program = i ∧ set.program = i
  read : check.effect = .clock
  wrote : ∃ hash, set.Answers (.setPassword u hash) ()
  once : ∀ t ∈ l, t.program = i → t.Wrote → t = set

/-- **Whoever has reset a password** presented a token that was accepted. -/
theorem exists_resets_of_done {i : Nat} {ctx : RequestContext} {token new : String} {a : Answer}
    (hrequest : requests[i]? = some ⟨ctx, .forgetPassword token new⟩)
    (hdone : ((s.start w requests).run turns).programs[i]? = some (.done (.ok a))) :
    ∃ u text c check set l₁ l₂ l₃,
      (s.start w requests).trace turns = l₁ ++ check :: (l₂ ++ set :: l₃) ∧
      Resets ((s.start w requests).trace turns) i u check set ∧
      Wrapped.decodeString token = .ok text ∧
      s.issuer.claims? text .forgetPassword = some c ∧ c.value = .account u ∧ check.time ≤ c.exp := by
  rcases ends_of_done hrequest hdone with
    ⟨hnone, -⟩ | ⟨h₁, x, h₂, q, r, hsteps, hwrote, hh₁, hh₂, hmay, -⟩
  · cases hnone
  obtain ⟨l, set, l₃, htrace, rfl, rfl, rfl, rfl⟩ := exists_of_stepsOf_eq hsteps
  have honce : ∀ t ∈ l ++ set :: l₃, t.program = set.program → t.Wrote → t = set := by
    rintro t ht hi ⟨q', r', hwrote'⟩
    rcases List.mem_append.1 ht with ht | ht
    · exact absurd hwrote' (hh₁ _ (mem_stepsOf.2 ⟨t, ht, hi, rfl⟩) q' r')
    · rcases List.mem_cons.1 ht with rfl | ht
      · rfl
      · exact absurd hwrote' (hh₂ _ (mem_stepsOf.2 ⟨t, ht, hi, rfl⟩) q' r')
  cases hmay with
  | @forgetPassword _ _ _ u b hash hu hb hnew hhash =>
    obtain ⟨m, hm, hadmitted⟩ := hu
    obtain ⟨text, htext, hparse⟩ := namedByOpaque?_eq_some_iff.1 hadmitted
    obtain ⟨c, hc, hle, hvalue⟩ := TokenIssuer.parseAccount_eq_some_iff.1 hparse
    obtain ⟨check, hcheck, hprogram, hstep⟩ := mem_stepsOf.1 hm
    obtain ⟨l₁, l₂, rfl⟩ := List.append_of_mem hcheck
    rw [htrace]
    exact ⟨u, text, c, check, set, l₁, l₂, l₃, by simp, ⟨⟨hprogram, rfl⟩,
      congrArg Step.effect hstep, ⟨hash, hwrote.2⟩, honce⟩, htext, hc, hvalue,
      Transition.seconds_eq_time hstep ▸ hle⟩

/-! ## A token that is redeemed in turn -/

/-- What errands have published last was issued in their turns. -/
theorem InTurn.issued_of_published {es : List Errand} (h : s.InTurn w requests es turns)
    (hnone : w.outbox.published = []) {earlier : List Published} {subject : String} {n : Nat}
    (hpublished : (s.after w es).outbox.published =
      earlier ++ [⟨subject, (⟨n, Wrapped.encodeString text⟩ : Event).payload⟩]) :
    (s.start w requests).Issued s.issuer turns text := by
  obtain ⟨new, houtbox, hnew⟩ := (Pool.leads_trace (s.start w requests) turns).exists_published
  have hworld : ((s.start w requests).world).outbox.published = [] := hnone
  rw [← h.world, houtbox, hworld, List.nil_append] at hpublished
  obtain rfl : new = _ := hpublished
  obtain ⟨t, ht, ctx, heffect⟩ := hnew _ (List.mem_append_right earlier (List.mem_singleton_self _))
  exact Pool.issued_of_mem ht (heffect ▸ .event)

/-- Where tokens are only presented after errands that have issued them, none
is forged. -/
theorem InTurn.unforged {es : List Errand} (h : s.InTurn w requests es turns)
    (hpresents : ∀ i ctx token new, requests[i]? = some ⟨ctx, .forgetPassword token new⟩ →
      es.length ≤ i ∧ ∀ text, Wrapped.decodeString token = .ok text →
        (s.start w requests).Issued s.issuer turns text)
    (during : List Turn) : s.Unforged w requests (turns ++ during) := by
  intro turns' t ctx token new text next hsub hrequest hnext htext _
  obtain ⟨hle, hissued⟩ := hpresents _ _ _ _ hrequest
  -- the turn is none of those of the errands
  have hlater : ¬ turns' ++ [t] <+: turns := by
    rintro ⟨rest, rfl⟩
    obtain ⟨htr, -⟩ := Pool.advance_of_await hnext t.draw
    let step : Transition := ⟨t.program, t.draw, ((s.start w requests).run turns').world, .clock⟩
    have hmem : step ∈ (s.start w requests).trace (turns' ++ [t] ++ rest) := by
      rw [List.append_assoc, Pool.trace_append, List.singleton_append, Pool.trace_cons htr]
      exact List.mem_append_right _ List.mem_cons_self
    have hlt : t.program < es.length := (h.calm step hmem).1
    omega
  have hprefix : turns <+: turns' := by
    rcases List.prefix_or_prefix_of_prefix hsub (List.prefix_append turns during) with hsub | hsub
    · exact absurd hsub hlater
    · rcases List.prefix_concat_iff.1 hsub with rfl | hsub
      · exact absurd List.prefix_rfl hlater
      · exact hsub
  exact (hissued text htext).mono hprefix

/-! ## In every run -/

/-- **A password is reset only for a confirmed account whose owner was sent the
token.** Operations are carried out at once, in any order of their steps,
and calls may fail; and nobody forges tokens that reset passwords. Whoever
succeeds with `forgetPassword` has set the password of one account, which is
confirmed then and stays confirmed. The token was issued before it was
checked, by a call of `sendForgetPassword` for that account, when the account
was confirmed, and no longer before than the lifetime of such tokens. -/
theorem reset_only_if_sent (s : Service) (w : World) (requests : List Request) (turns : List Turn)
    (hunforged : s.Unforged w requests turns) {i : Nat} {ctx : RequestContext}
    {token new : String} {a : Answer}
    (hrequest : requests[i]? = some ⟨ctx, .forgetPassword token new⟩)
    (hdone : ((s.start w requests).run turns).programs[i]? = some (.done (.ok a))) :
    ∃ u text clock sign check set,
      [clock, sign, check, set].Sublist ((s.start w requests).trace turns) ∧
      Resets ((s.start w requests).trace turns) i u check set ∧
      set.before.store.Confirmed u ∧ ((s.start w requests).run turns).world.store.Confirmed u ∧
      Wrapped.decodeString token = .ok text ∧ s.Sent requests u text clock sign ∧
      check.time ≤ clock.time + s.issuer.forgetPasswordTtl := by
  obtain ⟨u, text, c, check, set, l₁, l₂, l₃, htrace, hresets, htext, hc, hvalue, hle⟩ :=
    exists_resets_of_done hrequest hdone
  obtain ⟨clock, sign, horder, u', hsent⟩ := hunforged.exists_sent htrace
    (by rw [hresets.program.1]; exact hrequest) hresets.read htext hc
  obtain ⟨jti, issued, -, hissued, rfl⟩ := hsent.signed
  obtain ⟨ctx', email, -, b, hb, hid, -, hconfirmed⟩ := hsent.asked
  obtain ⟨rfl, -⟩ := eq_of_signs_forgetPassword (TokenIssuer.generate_eq_ok hissued).2.1 hc
  obtain rfl : u' = u := TokenValue.account.inj hvalue
  have hmem : clock ∈ l₁ := horder.subset List.mem_cons_self
  have hfound : clock.before.store.Confirmed u' := ⟨b, hb, hid, hconfirmed⟩
  -- an address that is confirmed when the token is issued remains so
  have hleads := Pool.leads_trace (s.start w requests) turns
  rw [htrace, List.append_cons, ← List.append_assoc] at hleads
  have hset := hfound.mono (hleads.split.1.accountsRemain_of_mem (by simp [hmem]))
  refine ⟨u', issued.token, clock, sign, check, set, ?_, hresets, hset,
    hset.mono (hleads.accountsRemain_of_mem (by simp)), htext, hsent, hle⟩
  rw [htrace]
  exact horder.append ((sublist_append_cons l₂ set (List.nil_sublist l₃)).cons_cons check)

/-- An account that is confirmed, with the hash of its password. -/
def confirmedOwner (hash : String) : Account where
  id := 1
  email := "owner@example.org"
  passwordHash := hash
  emailConfirmed := true
  displayName := "Owner"
  createdAt := 0
  updatedAt := 0

/-- It is the only one. -/
def owned (hash : String) : World where
  store := { accounts := [confirmedOwner hash], lastAccountId := 1 }

/-- The owner of an account asks for a token, and sets a password with it that
does not verify against the hash of the account. -/
theorem reset_only_if_sent_plain : ∃ (hash : String) (requests : List Request) (turns : List Turn)
    (i : Nat) (ctx : RequestContext) (token new : String),
    Bcrypt.WellFormed hash ∧ plain.Unforged (owned hash) requests turns ∧
    requests[i]? = some ⟨ctx, .forgetPassword token new⟩ ∧
    ((plain.start (owned hash) requests).run turns).programs[i]? = some (.done (.ok .done)) ∧
    ∃ u text clock sign, ((plain.start (owned hash) requests).run turns).world.store.Confirmed u ∧
      plain.Sent requests u text clock sign := by
  obtain ⟨digest, hformed, hrefused⟩ :=
    Password.exists_refusing "password" (by decide : 4 ≤ 4 ∧ 4 ≤ 31) (.replicate 16 0)
  generalize Bcrypt.Record.text _ = hash at hformed hrefused
  let a := confirmedOwner hash
  have ha : a ∈ (owned hash).store.accounts := List.mem_singleton_self a
  have horder : (owned hash).store.AccountsInOrder :=
    ⟨by simp [owned], by simp [owned, confirmedOwner], by simp [owned, confirmedOwner],
      by simp [owned], by simp [owned]⟩
  -- the owner is sent a token, which is accepted
  have hnil : plain.Sequential (owned hash) [] := sequential_nil
  obtain ⟨e₁, _, h₁, htimes₁, hop₁, -, hstore₁, jti, issued, hissued, hpublished⟩ :=
    hnil.exists_next (by simp) ready_plain (.sendForgetPassword a.email) rfl
      (sendForgetPassword_calm ready_plain.digest (by decide : Fits64 (0 + 60)) rfl horder ha rfl)
  have hstore₁ : (plain.after (owned hash) [e₁]).store = (owned hash).store := hstore₁
  have ha₁ : a ∈ (plain.after (owned hash) [e₁]).store.accounts := hstore₁ ▸ ha
  have horder₁ : (plain.after (owned hash) [e₁]).store.AccountsInOrder := hstore₁ ▸ horder
  obtain ⟨hclaims, -⟩ := TokenIssuer.claims?_of_generate hissued (Int.le_refl 0)
    (by decide : (0 : Int) < 60) (by rintro _ ⟨⟩; exact (by decide : Fits64 1))
  let token := Wrapped.encodeString issued.token
  have hdecode : Wrapped.decodeString token = .ok issued.token :=
    Wrapped.decodeString_encodeString _
  have haccepted : plain.issuer.parseAccount 0 issued.token .forgetPassword = some a.id :=
    TokenIssuer.parseAccount_eq_some_iff.2 ⟨_, hclaims, (by decide : (0 : Int) ≤ 0 + 60), rfl⟩
  -- and sets a password with it
  obtain ⟨e₂, _, h₂, -, hop₂, hresult, -⟩ := h₁.exists_next htimes₁ ready_plain
    (.forgetPassword token "password") rfl
    (forgetPassword_calm (by decide) horder₁ ha₁ (by decide) hrefused
      (namedByOpaque?_eq_some_iff.2 ⟨_, hdecode, haccepted⟩))
  let requests := [e₁, e₂].map Errand.request
  have hprefix : [e₁].map Errand.request <+: requests :=
    List.prefix_append _ [e₂.request]
  have hrequest₂ : requests[1]? = some ⟨e₂.ctx, .forgetPassword token "password"⟩ :=
    congrArg (fun op => some (Request.mk e₂.ctx op)) hop₂
  obtain ⟨turns, hturns⟩ := h₁.exists_inTurn hprefix
  obtain ⟨during, hduring, -⟩ := hturns.exists_concat h₂ rfl
  have hunforged : plain.Unforged (owned hash) requests (turns ++ during) := by
    refine hturns.unforged (fun i ctx token' new hrequest => ?_) during
    match i, hrequest with
    | 0, hrequest => cases hop₁.symm.trans (congrArg Request.operation (Option.some.inj hrequest))
    | 1, hrequest =>
      cases hop₂.symm.trans (congrArg Request.operation (Option.some.inj hrequest))
      refine ⟨Nat.le_refl 1, fun text htext => ?_⟩
      obtain rfl := Except.ok.inj (hdecode.symm.trans htext)
      exact hturns.issued_of_published rfl hpublished
  have hdone : ((plain.start (owned hash) requests).run (turns ++ during)).programs[1]? =
      some (.done (.ok .done)) :=
    (hduring.done 1 _ rfl).trans (congrArg (fun r => some (Program.done r)) hresult)
  obtain ⟨u, text, clock, sign, -, -, -, -, -, hconfirmed, -, hsent, -⟩ :=
    reset_only_if_sent plain (owned hash) requests (turns ++ during) hunforged hrequest₂ hdone
  exact ⟨hash, requests, turns ++ during, 1, e₂.ctx, token, "password", hformed, hunforged,
    hrequest₂, hdone, u, text, clock, sign, hconfirmed, hsent⟩

end Service

end SignOn
