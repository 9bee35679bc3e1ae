import SignOn.Proofs.Service.Quiet
import SignOn.Proofs.Token.Signed
/-!
# How operations treat sessions

What an operation has done when it opens or ends a session, and what it
has done when it is over. An operation ends a session only after it was
answered that this is the live one of an account that it concerns. It
opens at most one session, as its last step, with a token that it signed
itself; before that it has seen the confirmed account, or has ended the
session whose token it was given. `Service.conduct` is this as a setting,
and `Service.perform_meets` says that every operation keeps to it.
-/

namespace SignOn

/-! ## What a program has seen -/

/-- A query was answered. -/
def Got (h : List Step) (q : Query) (x : Except StoreError q.Answer) : Prop :=
  ∃ ctx, (⟨.query ctx q, x⟩ : Step) ∈ h

/-- An identifier was drawn. -/
def Drew (h : List Step) (id : String) : Prop :=
  (⟨.identifier, id⟩ : Step) ∈ h

theorem Got.mono {h h' : List Step} {q : Query} {x : Except StoreError q.Answer} (hg : Got h q x)
    (hsub : h ⊆ h') : Got h' q x :=
  hg.imp fun _ hmem => hsub hmem

theorem got_concat (h : List Step) (ctx : RequestContext) (q : Query)
    (x : Except StoreError q.Answer) : Got (h ++ [⟨.query ctx q, x⟩]) q x :=
  ⟨ctx, List.mem_append_right _ (List.mem_singleton_self _)⟩

/-- A step that asks to open a session. -/
def Effect.Opens (e : Effect) : Prop :=
  ∃ ctx u v ttl, e = .query ctx (.openSession u v ttl)

/-- It was not asked to open a session. -/
def Unopened (h : List Step) : Prop :=
  ∀ x ∈ h, ¬ x.effect.Opens

theorem unopened_nil : Unopened [] := by
  simp [Unopened]

theorem Unopened.concat {h : List Step} (hh : Unopened h) {x : Step} (hx : ¬ x.effect.Opens) :
    Unopened (h ++ [x]) := by
  intro y hy
  rcases List.mem_append.1 hy with hy | hy
  · exact hh y hy
  · rwa [List.mem_singleton.1 hy]

/-- No session was opened. -/
def NoneOpened (h : List Step) : Prop :=
  ∀ u v ttl id, ¬ Got h (.openSession u v ttl) (.ok id)

theorem Unopened.noneOpened {h : List Step} (hh : Unopened h) : NoneOpened h := by
  rintro u v ttl id ⟨ctx, hmem⟩
  exact hh _ hmem ⟨ctx, u, v, ttl, rfl⟩

/-! ## The conduct of an operation -/

namespace TokenIssuer

/-- The account that a refresh token renews: the one that the access
token inside it admits. -/
def renewedAccount? (j : TokenIssuer) (token : String) : Option Int := do
  let c ← j.claims? token .refresh
  let access ← c.value.text?
  j.parseEmbeddedAccess access

/-- The two tokens of a pair: the refresh token carries the access token,
which admits an account. `jti` and `exp` are the refresh token's. -/
def Pairs (j : TokenIssuer) (access refresh : String) (u : Int) (jti : String) (exp : Int) : Prop :=
  (∃ iat, j.Signs refresh ⟨jti, iat, exp, .refresh, .text access⟩) ∧
    ∃ a, j.Signs access a ∧ a.kind = .access ∧ a.value = .account u

end TokenIssuer

namespace Service

open Procedure

variable (s : Service)

/-- An operation concerns an account by what it was given, and by what it
has seen. -/
def Concerns (op : Operation) (h : List Step) (u : Int) : Prop :=
  match op with
  | .login email _ =>
    ∃ a, Got h (.accountByEmail email) (.ok a) ∧ a.emailConfirmed = true ∧ a.id = u
  | .refresh token => ∃ t, Wrapped.decodeString token = .ok t ∧ s.issuer.renewedAccount? t = some u
  | .logout token => s.issuer.parseEmbeddedAccess token = some u
  | _ => False

/-- An operation may end a session that it has seen to be the live one
of an account that it concerns. -/
def MayEnd (op : Operation) (h : List Step) (v : String) : Prop :=
  ∃ u r, s.Concerns op h u ∧ Got h (.liveSession u) (.ok r) ∧ r.value = v

/-- An operation may open a session for an account that it concerns: a
login at once, a refresh after it has ended the live session with the
token that it was given. -/
def MayOpen (op : Operation) (h : List Step) (u : Int) : Prop :=
  s.Concerns op h u ∧
    match op with
    | .login _ _ => True
    | .refresh token => ∃ r, Wrapped.decodeString token = .ok r.value ∧
        Got h (.liveSession u) (.ok r) ∧ Got h (.endSession r.value) (.ok ())
    | _ => False

/-- A session is opened with a pair of tokens that was just signed. -/
def Fresh (h : List Step) (access v : String) (u ttl : Int) : Prop :=
  ∃ jti, Drew h jti ∧ s.issuer.Pairs access v u jti ttl

/-- What an operation may do after the steps that it has taken. A session
is opened last, and sessions are removed up to a moment that was read. -/
structure Permits (op : Operation) (h : List Step) (e : Effect) : Prop where
  unopened : Unopened h
  opens : ∀ ctx u v ttl, e = .query ctx (.openSession u v ttl) →
    s.MayOpen op h u ∧ ∃ access, s.Fresh h access v u ttl
  ends : ∀ ctx v, e = .query ctx (.endSession v) → s.MayEnd op h v
  purges : ∀ ctx before, e = .query ctx (.purge before) →
    ∃ m : Moment, (⟨.clock, m⟩ : Step) ∈ h ∧ m.seconds = before

/-- What an operation has done that answers with a pair of tokens: its
last step opened the session. -/
def Opened (op : Operation) (h : List Step) (p : TokenPair) : Prop :=
  ∃ h₀ ctx u v ttl id, h = h₀ ++ [⟨.query ctx (.openSession u v ttl), .ok id⟩] ∧ Unopened h₀ ∧
    s.MayOpen op h₀ u ∧ s.Fresh h₀ p.accessToken v u ttl ∧ p.refreshToken = Wrapped.encodeString v

/-- What an operation has done when it is over. -/
def Concludes (op : Operation) (h : List Step) : Except (Failure ServiceError) Answer → Prop
  | .ok a =>
    match op with
    | .login _ _ | .refresh _ => ∃ p, a = .pair p ∧ s.Opened op h p
    | _ => Unopened h
  | .error _ => NoneOpened h

theorem Concludes.opened {s : Service} {op : Operation} {h : List Step} {a : Answer}
    (hc : s.Concludes op h (.ok a)) (hh : ¬ Unopened h) : ∃ p, a = .pair p ∧ s.Opened op h p := by
  unfold Concludes at hc
  cases op with
  | login email password => exact hc
  | refresh token => exact hc
  | _ => exact absurd hc hh

/-- The setting in which an operation keeps to its conduct. -/
def conduct (op : Operation) : Setting (List Step) :=
  .history (s.Permits op) fun _ _ => True

variable {s} {op : Operation} {h h' : List Step} {u : Int} {ctx : RequestContext}

/-- What is seen stays seen. -/
theorem Concerns.mono (hu : s.Concerns op h u) (hsub : h ⊆ h') : s.Concerns op h' u := by
  cases op with
  | login email password =>
    obtain ⟨a, hgot, ha⟩ := hu
    exact ⟨a, hgot.mono hsub, ha⟩
  | _ => exact hu

theorem MayOpen.mono (hu : s.MayOpen op h u) (hsub : h ⊆ h') : s.MayOpen op h' u := by
  refine ⟨hu.1.mono hsub, ?_⟩
  cases op with
  | refresh token =>
    obtain ⟨r, hr, hlive, hend⟩ := hu.2
    exact ⟨r, hr, hlive.mono hsub, hend.mono hsub⟩
  | _ => exact hu.2

/-- Only two operations open sessions. -/
theorem MayOpen.login_or_refresh (hu : s.MayOpen op h u) :
    (∃ email password, op = .login email password) ∨ ∃ token, op = .refresh token := by
  cases op with
  | login email password => exact .inl ⟨email, password, rfl⟩
  | refresh token => exact .inr ⟨token, rfl⟩
  | _ => exact hu.2.elim

theorem not_opens_of_isQuiet {e : Effect} (he : e.isQuiet = true) : ¬ e.Opens := by
  rintro ⟨ctx, u, v, ttl, rfl⟩
  cases he

/-- A step that leaves sessions alone is permitted as long as no session
was opened. -/
theorem permits_of_isQuiet (hh : Unopened h) {e : Effect} (he : e.isQuiet = true) :
    s.Permits op h e where
  unopened := hh
  opens ctx u v ttl heq := absurd ⟨ctx, u, v, ttl, heq⟩ (not_opens_of_isQuiet he)
  ends ctx v heq := by
    subst heq
    cases he
  purges ctx before heq := by
    subst heq
    cases he

theorem meets_conduct_step {e : Effect} {ok : List Step → e.Reply → Prop}
    {fail : List Step → Failure ServiceError → Prop} (hpermits : s.Permits op h e)
    (hok : ∀ r, ok (h ++ [⟨e, r⟩]) r) : Meets (s.conduct op) ok fail (step e) h :=
  meets_history_step hpermits fun r _ => hok r

theorem meets_conduct_ask {q : Query} {failure : StoreError → ServiceError}
    {ok : List Step → q.Answer → Prop} {fail : List Step → Failure ServiceError → Prop}
    (hpermits : s.Permits op h (.query ctx q)) (hok : ∀ a, ok (h ++ [⟨.query ctx q, .ok a⟩]) a)
    (hfail : ∀ e, fail (h ++ [⟨.query ctx q, .error e⟩]) (.reported (failure e))) :
    Meets (s.conduct op) ok fail (ask ctx q failure) h :=
  meets_history_ask hpermits (fun a _ => hok a) fun e _ => hfail e

theorem meets_conduct_now {ok : List Step → Int → Prop}
    {fail : List Step → Failure ServiceError → Prop} (hh : Unopened h)
    (hok : ∀ m : Moment, ok (h ++ [⟨.clock, m⟩]) m.seconds) :
    Meets (s.conduct op) ok fail now h :=
  meets_history_now (permits_of_isQuiet hh rfl) fun m _ => hok m

/-- Signing a token draws an identifier for it. -/
theorem meets_conduct_issue {sign : Int → String → Except (Failure TokenError) IssuedToken}
    {ok : List Step → IssuedToken → Prop} {fail : List Step → Failure ServiceError → Prop}
    (hh : Unopened h)
    (hok : ∀ h' now jti t, h ⊆ h' → Unopened h' → Drew h' jti → sign now jti = .ok t → ok h' t)
    (hfail : ∀ h' e, Unopened h' → fail h' e) :
    Meets (s.conduct op) ok fail (issue sign) h := by
  have hclock (m : Moment) : Unopened (h ++ [⟨.clock, m⟩]) := hh.concat (not_opens_of_isQuiet rfl)
  have hdrawn (m : Moment) (jti : String) :
      Unopened (h ++ [⟨.clock, m⟩] ++ [⟨.identifier, jti⟩]) :=
    (hclock m).concat (not_opens_of_isQuiet rfl)
  refine meets_history_issue (permits_of_isQuiet hh rfl)
    (fun m => permits_of_isQuiet (hclock m) rfl) (fun m jti t ht => ?_)
    fun m jti e _ _ => hfail _ _ (hdrawn m jti)
  refine hok _ m.seconds jti t (fun x hx => ?_) (hdrawn m jti) ?_ ht
  · exact List.mem_append_left _ (List.mem_append_left _ hx)
  · exact List.mem_append_right _ (List.mem_singleton_self _)

/-- **Telling the owner of a new account is not aborted**, where the token
expires within the 64-bit numbers whatever the clock shows. -/
theorem announceVerifyEmail_reported {σ : Type} {E : Setting σ} {x : σ}
    (hpermits : ∀ x e, E.permits x e)
    (hclock : ∀ x m x', E.answers x .clock m x' → Fits64 (m.seconds + s.issuer.verifyEmailTtl)) :
    Meets E (fun _ _ => True) (fun _ e => ∃ err, e = .reported err)
      (s.announceVerifyEmail ctx u) x := by
  refine meets_bind.2 (meets_issue.2 ⟨hpermits _ _, fun m x₁ hm =>
    ⟨hpermits _ _, fun jti x₂ _ => ⟨fun t _ => ?_, fun e he => ?_⟩⟩⟩)
  · refine meets_bind.2 (meets_step.2 ⟨hpermits _ _, fun sent x₃ _ => ?_⟩)
    exact meets_ofExcept.2 ⟨fun _ _ => trivial, fun err _ => ⟨_, rfl⟩⟩
  · cases e with
    | reported err => exact ⟨_, rfl⟩
    | aborted => exact absurd (hclock _ _ _ hm) (TokenIssuer.generate_eq_aborted_iff.1 he)

/-- So is not a registration. -/
theorem register_reported {σ : Type} {E : Setting σ} {x : σ} {input : Registration}
    (hpermits : ∀ x e, E.permits x e)
    (hclock : ∀ x m x', E.answers x .clock m x' → Fits64 (m.seconds + s.issuer.verifyEmailTtl)) :
    Meets E (fun _ _ => True) (fun _ e => ∃ err, e = .reported err) (s.register ctx input) x := by
  refine meets_bind.2 (meets_require.2 ⟨fun _ => ?_, fun _ => ⟨_, rfl⟩⟩)
  refine meets_bind.2 (meets_require.2 ⟨fun _ => ?_, fun _ => ⟨_, rfl⟩⟩)
  refine meets_bind.2 (meets_require.2 ⟨fun _ => ?_, fun _ => ⟨_, rfl⟩⟩)
  -- the password is hashed
  refine meets_bind.2 (meets_bind.2 (meets_bind.2
    (meets_step.2 ⟨hpermits _ _, fun late x₁ _ => ?_⟩)))
  refine meets_require.2 ⟨fun _ => ?_, fun _ => ⟨_, rfl⟩⟩
  refine meets_bind.2 (meets_step.2 ⟨hpermits _ _, fun salt x₂ _ => ?_⟩)
  refine meets_ofExcept.2 ⟨fun hash _ => ?_, fun _ _ => ⟨_, rfl⟩⟩
  -- the address is looked for
  refine meets_bind.2 (meets_step.2 ⟨hpermits _ _, fun found x₃ _ => ?_⟩)
  match found with
  | .ok a => exact ⟨_, rfl⟩
  | .error (.io _) | .error (.connection _) | .error (.migration _) | .error (.query _)
  | .error (.conflict _) | .error .deadlineExceeded => exact ⟨_, rfl⟩
  | .error (.notFound _) =>
    refine meets_bind.2 (meets_ask.2 ⟨hpermits _ _, fun id x₄ _ => ?_, fun _ _ _ => ⟨_, rfl⟩⟩)
    refine meets_bind.2 (meets_recover.2 ((announceVerifyEmail_reported hpermits hclock).mono
      (fun _ _ _ => trivial) fun _ e he => ?_))
    obtain ⟨err, rfl⟩ := he
    exact trivial

/-- **Opening a session** is permitted, and it is the last step. -/
theorem openSession_meets (hh : Unopened h) (hmay : s.MayOpen op h u) :
    Meets (s.conduct op) (s.Opened op) (fun h _ => NoneOpened h) (s.openSession ctx u) h := by
  refine meets_bind.2 (meets_conduct_issue hh (fun h₁ now₁ jti₁ access hsub₁ hh₁ _ haccess => ?_)
    fun h' e hh' => hh'.noneOpened)
  refine meets_bind.2 (meets_conduct_issue hh₁ (fun h₂ now₂ jti₂ refresh hsub₂ hh₂ hdrew hrefresh =>
    ?_) fun h' e hh' => hh'.noneOpened)
  obtain ⟨-, haccess, -⟩ := TokenIssuer.generate_eq_ok haccess
  obtain ⟨-, hsigns, hexpiry⟩ := TokenIssuer.generate_eq_ok hrefresh
  have hfresh : s.Fresh h₂ access.token refresh.token u refresh.expiry := by
    refine ⟨jti₂, hdrew, ⟨now₂, ?_⟩, _, haccess, rfl, rfl⟩
    rwa [hexpiry]
  have hmay₂ := hmay.mono fun x hx => hsub₂ (hsub₁ hx)
  refine meets_bind.2 (meets_conduct_ask ⟨hh₂, ?_, ?_, ?_⟩ (fun id => ?_) fun e => ?_)
  · rintro _ _ _ _ ⟨⟩
    exact ⟨hmay₂, access.token, hfresh⟩
  · rintro _ _ ⟨⟩
  · rintro _ _ ⟨⟩
  · exact ⟨h₂, ctx, u, refresh.token, refresh.expiry, id, rfl, hh₂, hmay₂, hfresh, rfl⟩
  · rintro u' v' ttl' id ⟨ctx', hmem⟩
    rcases List.mem_append.1 hmem with hmem | hmem
    · exact hh₂ _ hmem ⟨ctx', u', v', ttl', rfl⟩
    · cases List.mem_singleton.1 hmem

/-- **Ending the live session of an account** is permitted to operations
that the account concerns. -/
theorem endLiveSession_meets {ok : List Step → Unit → Prop}
    {fail : List Step → Failure ServiceError → Prop} (hh : Unopened h) (hu : s.Concerns op h u)
    (hok : ∀ h', h ⊆ h' → Unopened h' → ok h' ()) (hfail : ∀ h' e, Unopened h' → fail h' e) :
    Meets (s.conduct op) ok fail (endLiveSession ctx u) h := by
  refine meets_bind.2 (meets_conduct_step (permits_of_isQuiet hh rfl) fun found => ?_)
  have hh₁ := hh.concat (x := ⟨.query ctx (.liveSession u), found⟩) (not_opens_of_isQuiet rfl)
  have hsub₁ : h ⊆ h ++ [⟨.query ctx (.liveSession u), found⟩] := fun x => List.mem_append_left _
  match found with
  | .error (.notFound _) => exact hok _ hsub₁ hh₁
  | .error (.io _) | .error (.connection _) | .error (.migration _) | .error (.query _)
  | .error (.conflict _) | .error .deadlineExceeded => exact hfail _ _ hh₁
  | .ok session =>
    have hh₂ (x) := hh₁.concat (x := ⟨.query ctx (.endSession session.value), x⟩)
      (by rintro ⟨_, _, _, _, ⟨⟩⟩)
    refine meets_conduct_ask ⟨hh₁, ?_, ?_, ?_⟩ (fun _ => ?_) fun e => hfail _ _ (hh₂ _)
    · rintro _ _ _ _ ⟨⟩
    · rintro _ _ ⟨⟩
      exact ⟨u, session, hu.mono hsub₁, got_concat _ _ _ _, rfl⟩
    · rintro _ _ ⟨⟩
    · exact hok _ (fun x hx => List.mem_append_left _ (hsub₁ hx)) (hh₂ _)

theorem login_meets {email password : String} :
    Meets (s.conduct (.login email password)) (s.Opened (.login email password))
      (fun h _ => NoneOpened h) (s.login ctx email password) [] := by
  refine meets_bind.2 (meets_conduct_ask (permits_of_isQuiet unopened_nil rfl) (fun a => ?_)
    fun e => ?_)
  · have hh₁ : Unopened [⟨.query ctx (.accountByEmail email), .ok a⟩] :=
      unopened_nil.concat (x := ⟨.query ctx (.accountByEmail email), .ok a⟩)
        (not_opens_of_isQuiet rfl)
    refine meets_bind.2 (meets_require.2 ⟨fun hconfirmed => ?_, fun _ => hh₁.noneOpened⟩)
    have hconcerns : s.Concerns (.login email password)
        [⟨.query ctx (.accountByEmail email), .ok a⟩] a.id :=
      ⟨a, got_concat [] _ _ _, hconfirmed, rfl⟩
    -- checking the password changes nothing that matters here
    have hquiet := (uses_verifyPassword ctx (quiet_deadline ctx) password a.passwordHash).meets
      (E := s.conduct (.login email password))
      (I := fun h => [⟨.query ctx (.accountByEmail email), .ok a⟩] ⊆ h ∧ Unopened h)
      (fun h e hI he => permits_of_isQuiet hI.2 he.1)
      (fun h e r h' hI he hr => by
        obtain ⟨-, rfl⟩ := hr
        exact ⟨fun x hx => List.mem_append_left _ (hI.1 hx),
          hI.2.concat (not_opens_of_isQuiet he.1)⟩)
      ⟨fun _ hx => hx, hh₁⟩
    refine meets_bind.2 (hquiet.mono (fun h right hI => ?_) fun h e hI => hI.2.noneOpened)
    refine meets_bind.2 (meets_require.2 ⟨fun _ => ?_, fun _ => hI.2.noneOpened⟩)
    have hconcerns₂ := hconcerns.mono hI.1
    refine meets_bind.2 (endLiveSession_meets hI.2 hconcerns₂ (fun h' hsub hh' => ?_)
      fun h' e hh' => hh'.noneOpened)
    exact openSession_meets hh' ⟨hconcerns₂.mono hsub, trivial⟩
  · exact (unopened_nil.concat (x := ⟨.query ctx (.accountByEmail email), .error e⟩)
      (not_opens_of_isQuiet rfl)).noneOpened

/-- The account that a redeemed refresh token is for. -/
theorem renewedAccount?_of_parse {now u : Int} {t access : String}
    (hparse : s.issuer.parseRefresh now t = some access)
    (hu : s.issuer.parseEmbeddedAccess access = some u) : s.issuer.renewedAccount? t = some u := by
  obtain ⟨c, hc, -, hvalue⟩ := TokenIssuer.parseRefresh_eq_some_iff.1 hparse
  rw [TokenIssuer.renewedAccount?, hc]
  simp [hvalue, TokenValue.text?, hu]

theorem refresh_meets {token : String} :
    Meets (s.conduct (.refresh token)) (s.Opened (.refresh token)) (fun h _ => NoneOpened h)
      (s.refresh ctx token) [] := by
  refine meets_bind.2 (meets_ofExcept.2 ⟨fun t ht => ?_, fun _ _ => unopened_nil.noneOpened⟩)
  refine meets_bind.2 (meets_conduct_now unopened_nil fun m₁ => ?_)
  have hh₁ : Unopened ([] ++ [⟨.clock, m₁⟩]) := unopened_nil.concat (not_opens_of_isQuiet rfl)
  refine meets_bind.2 (meets_expect.2 ⟨fun access haccess => ?_, fun _ => hh₁.noneOpened⟩)
  refine meets_bind.2 (meets_expect.2 ⟨fun u hu => ?_, fun _ => hh₁.noneOpened⟩)
  have hrenewed := renewedAccount?_of_parse haccess hu
  refine meets_bind.2 (meets_conduct_ask (permits_of_isQuiet hh₁ rfl) (fun r => ?_) fun e => ?_)
  · have hh₂ := hh₁.concat (x := ⟨.query ctx (.liveSession u), .ok r⟩) (not_opens_of_isQuiet rfl)
    refine meets_bind.2 (meets_require.2 ⟨fun hvalue => ?_, fun _ => hh₂.noneOpened⟩)
    have hvalue : r.value = t := beq_iff_eq.1 hvalue
    refine meets_bind.2 (meets_conduct_now hh₂ fun m₂ => ?_)
    have hh₃ := hh₂.concat (x := ⟨.clock, m₂⟩) (not_opens_of_isQuiet rfl)
    refine meets_bind.2 (meets_expect.2 ⟨fun stored _ => ?_, fun _ => hh₃.noneOpened⟩)
    refine meets_bind.2 (meets_require.2 ⟨fun _ => ?_, fun _ => hh₃.noneOpened⟩)
    have hh₄ (x) := hh₃.concat (x := ⟨.query ctx (.endSession r.value), x⟩)
      (by rintro ⟨_, _, _, _, ⟨⟩⟩)
    -- the row that was found is what the end and the opening are permitted by
    have hconcerns {h : List Step} : s.Concerns (.refresh token) h u := ⟨t, ht, hrenewed⟩
    have hlive : Got ([] ++ [⟨.clock, m₁⟩] ++ [⟨.query ctx (.liveSession u), .ok r⟩] ++
        [⟨.clock, m₂⟩]) (.liveSession u) (.ok r) :=
      (got_concat _ _ _ _).mono fun x hx => List.mem_append_left _ hx
    refine meets_bind.2 (meets_conduct_ask ⟨hh₃, ?_, ?_, ?_⟩ (fun _ => ?_)
      fun e => (hh₄ _).noneOpened)
    · rintro _ _ _ _ ⟨⟩
    · rintro _ _ ⟨⟩
      exact ⟨u, r, hconcerns, hlive, rfl⟩
    · rintro _ _ ⟨⟩
    · refine openSession_meets (hh₄ _) ⟨hconcerns, r, hvalue ▸ ht, ?_, got_concat _ _ _ _⟩
      exact hlive.mono fun x hx => List.mem_append_left _ hx
  · exact (hh₁.concat (x := ⟨.query ctx (.liveSession u), .error e⟩)
      (not_opens_of_isQuiet rfl)).noneOpened

theorem logout_meets {token : String} :
    Meets (s.conduct (.logout token)) (fun h _ => Unopened h) (fun h _ => Unopened h)
      (s.logout ctx token) [] := by
  refine meets_bind.2 (meets_bind.2 (meets_conduct_now unopened_nil fun m => ?_))
  have hh₁ : Unopened ([] ++ [⟨.clock, m⟩]) := unopened_nil.concat (not_opens_of_isQuiet rfl)
  refine meets_expect.2 ⟨fun u hu => ?_, fun _ => hh₁⟩
  obtain ⟨c, hc, -, hvalue⟩ := TokenIssuer.parseAccount_eq_some_iff.1 hu
  have hconcerns : s.Concerns (.logout token) ([] ++ [⟨.clock, m⟩]) u :=
    TokenIssuer.parseEmbeddedAccess_eq_some_iff.2 ⟨c, hc, hvalue⟩
  refine meets_recover.2 (endLiveSession_meets hh₁ hconcerns (fun h' _ hh' => hh')
    fun h' e hh' => ?_)
  rcases e with (_ | _) | _ <;> exact hh'

theorem purge_meets :
    Meets (s.conduct .purge) (fun h _ => Unopened h) (fun h _ => Unopened h) (purge ctx) [] := by
  refine meets_bind.2 (meets_conduct_now unopened_nil fun m => ?_)
  have hh₁ : Unopened ([] ++ [⟨.clock, m⟩]) := unopened_nil.concat (not_opens_of_isQuiet rfl)
  have hh₂ (x) := hh₁.concat (x := ⟨.query ctx (.purge m.seconds), x⟩)
    (by rintro ⟨_, _, _, _, ⟨⟩⟩)
  refine meets_conduct_ask ⟨hh₁, ?_, ?_, ?_⟩ (fun _ => hh₂ _) fun _ => hh₂ _
  · rintro _ _ _ _ ⟨⟩
  · rintro _ _ ⟨⟩
  · rintro _ _ ⟨⟩
    exact ⟨m, List.mem_append_right _ (List.mem_singleton_self _), rfl⟩

/-- **Every operation keeps to its conduct.** -/
theorem perform_meets (s : Service) (ctx : RequestContext) (op : Operation) :
    (s.perform ctx op).run.Meets (s.conduct op) (s.Concludes op) [] := by
  -- whatever is not about sessions opens none, by the steps that it uses
  have hquiet (hop : op.isQuiet = true) : Meets (s.conduct op) (fun h _ => Unopened h)
      (fun h _ => Unopened h) (s.perform ctx op) [] := by
    refine (s.quiet_perform ctx hop).meets (fun h e hI he => permits_of_isQuiet hI he.1)
      (fun h e r h' hI he hr => ?_) unopened_nil
    obtain ⟨-, rfl⟩ := hr
    exact hI.concat (not_opens_of_isQuiet he.1)
  have hprocedure : Meets (s.conduct op) (fun h a => s.Concludes op h (.ok a))
      (fun h e => s.Concludes op h (.error e)) (s.perform ctx op) [] := by
    cases op with
    | login email password =>
      exact meets_map.2 (login_meets.mono (fun h p hp => ⟨p, rfl, hp⟩) fun h e he => he)
    | refresh token =>
      exact meets_map.2 (refresh_meets.mono (fun h p hp => ⟨p, rfl, hp⟩) fun h e he => he)
    | logout token =>
      exact meets_map.2 (logout_meets.mono (fun h _ hh => hh) fun h e hh => hh.noneOpened)
    | purge => exact meets_map.2 (purge_meets.mono (fun h _ hh => hh) fun h e hh => hh.noneOpened)
    | _ => exact (hquiet rfl).mono (fun h _ hh => hh) fun h e hh => hh.noneOpened
  exact Program.Meets.mono hprocedure fun h r hr => by cases r <;> exact hr

end Service

end SignOn
