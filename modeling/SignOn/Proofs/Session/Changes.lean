import SignOn.Proofs.Service.Calm
import SignOn.Proofs.Store.SessionMap
import SignOn.Proofs.Token.Wrapped
/-!
# What an operation changes

What each operation does to the live sessions when it runs by itself, in
calm conditions. It answers with a pair of tokens and opens a session in
place of the one that the account had; or it is a logout that succeeds,
and the account has no session afterwards; or the live sessions are the
ones that they were. A refresh succeeds exactly if its token is that of a
live session.
-/

namespace SignOn

namespace Service

open Procedure

variable {s : Service} {now u ttl : Int} {v : String} {σ : Scene} {ctx : RequestContext}

/-! ## Scenes that are consistent -/

/-- A refresh token that was issued for an account, until some time: it
is accepted, carries an access token of the account, and has an
identifier that was drawn. -/
def Issued (s : Service) (drawn : List String) (u : Int) (v : String) (ttl : Int) : Prop :=
  ∃ access c, s.issuer.claims? v .refresh = some c ∧ c.value = .text access ∧
    s.issuer.parseEmbeddedAccess access = some u ∧ c.jti ∈ drawn ∧ ttl ≤ c.exp

theorem Issued.mono {drawn drawn' : List String} {ttl' : Int} (h : s.Issued drawn u v ttl)
    (hsub : drawn ⊆ drawn') (hle : ttl' ≤ ttl) : s.Issued drawn' u v ttl' := by
  obtain ⟨access, c, hc, hvalue, hu, hjti, hexp⟩ := h
  exact ⟨access, c, hc, hvalue, hu, hsub hjti, by omega⟩

/-- The tables are in order, and all tokens in them were issued. -/
structure Consistent (s : Service) (now : Int) (σ : Scene) : Prop where
  accounts : σ.store.AccountsInOrder
  sessions : σ.store.SessionsInOrder
  issued : ∀ r ∈ σ.store.sessions, s.Issued σ.drawn r.accountId r.value r.ttl
  oneLive : σ.store.OneLive now

theorem Consistent.mono {now' : Int} (h : s.Consistent now σ) (hle : now ≤ now') :
    s.Consistent now' σ :=
  ⟨h.accounts, h.sessions, h.issued, h.oneLive.mono hle⟩

theorem Consistent.draw (h : s.Consistent now σ) (id : String) :
    s.Consistent now { σ with drawn := σ.drawn ++ [id] } :=
  ⟨h.accounts, h.sessions, fun r hr =>
    (h.issued r hr).mono (fun _ => List.mem_append_left _) (Int.le_refl _), h.oneLive⟩

/-- **A query keeps a scene consistent**, if the token was issued that it
opens a session with. -/
theorem Consistent.query (h : s.Consistent now σ) {q : Query} {x : q.Answer} {store : Store}
    (hrun : σ.store.run now q = .ok (x, store))
    (hopens : ∀ u v ttl, q = .openSession u v ttl → s.Issued σ.drawn u v ttl) :
    s.Consistent now { σ with store := store } where
  accounts := h.accounts.run hrun
  sessions := h.sessions.run hrun
  issued r hr := by
    rcases Store.mem_sessions_of_run hrun hr with hr | ⟨r, hold, -, hlive, rfl⟩ | hq
    · exact h.issued r hr
    · refine (h.issued r hold).mono (fun _ hid => hid) ?_
      show now - 1 ≤ r.ttl
      omega
    · exact hopens _ _ _ hq
  oneLive := h.oneLive.run h.sessions hrun

/-- An account that is there has a 64-bit number. -/
theorem Consistent.fits_of_mem (hσ : s.Consistent now σ) (hfits : Fits64 σ.store.lastAccountId)
    {a : Account} (ha : a ∈ σ.store.accounts) : Fits64 a.id := by
  have := hσ.accounts.positive a ha
  have := hσ.accounts.le_last a ha
  unfold Fits64 at hfits ⊢
  omega

/-! ## Ending and opening sessions -/

/-- Beyond a moment, a store holds of one account nothing, and of the
others what another store holds. -/
def EndedFor (now u : Int) (before after : Store) : Prop :=
  ∀ u' v ttl, now < ttl → (after.Holds u' v ttl ↔ u' ≠ u ∧ before.Holds u' v ttl)

/-- Beyond a moment, a store holds of one account one session alone, and
of the others what another store holds. -/
def OpenedFor (now u : Int) (v : String) (ttl : Int) (before after : Store) : Prop :=
  ∀ u' v' ttl', now < ttl' →
    (after.Holds u' v' ttl' ↔ if u' = u then v' = v ∧ ttl' = ttl else before.Holds u' v' ttl')

/-- Ending a live session by its token succeeds. -/
theorem endSession_calm (hσ : s.Consistent now σ) {r : Session} (hr : r ∈ σ.store.sessions)
    (hlive : now < r.ttl) {failure : StoreError → ServiceError} :
    Meets (.calm now) (fun σ' _ => s.Consistent now σ' ∧
      EndedFor now r.accountId σ.store σ'.store ∧ σ.store.SameAccounts σ'.store)
      (fun _ _ => False) (ask ctx (.endSession r.value) failure) σ := by
  refine meets_calm_ask (fun x store hrun => ?_) fun e hrun => ?_
  · have hends := Store.changed_eq_ok_iff.1 hrun
    refine ⟨hσ.query hrun (by rintro _ _ _ ⟨⟩), fun u v ttl hlt => ?_,
      Store.sameAccounts_of_endSession hends⟩
    rw [Store.holds_endSession hends hlt]
    -- the session is the only one of its account, and the only one with its token
    refine and_congr_left ?_
    rintro ⟨r', hr', rfl, rfl, rfl⟩
    refine not_congr ⟨fun hv => ?_, fun hu => ?_⟩
    · rw [hσ.sessions.eq_of_value_eq hr' hr hv]
    · rw [hσ.oneLive r' hr' r hr hlt hlive hu]
  · have hok := Store.endSession_eq_ok_iff.2 ⟨⟨r, hr, rfl, hlive⟩, rfl⟩
    change Store.changed _ = _ at hrun
    rw [hok] at hrun
    cases hrun

/-- Looking up the live session of an account. -/
theorem liveSession_calm {failure : StoreError → ServiceError} {ok : Scene → Session → Prop}
    {fail : Scene → Failure ServiceError → Prop}
    (hok : ∀ r ∈ σ.store.sessions, r.accountId = u → now < r.ttl → ok σ r)
    (hfail : (∀ r ∈ σ.store.sessions, r.accountId = u → r.ttl ≤ now) →
      fail σ (.reported (failure (.noLiveSession u)))) :
    Meets (.calm now) ok fail (ask ctx (.liveSession u) failure) σ := by
  refine meets_calm_ask (fun r store hrun => ?_) fun e hrun => ?_
  · obtain ⟨hfound, hsame⟩ := Store.unchanged_eq_ok_iff.1 hrun
    obtain rfl : store = σ.store := hsame
    obtain ⟨hr, hu, hlive⟩ := Store.mem_of_liveSession hfound
    exact hok r hr hu hlive
  · obtain ⟨rfl, hended⟩ := Store.liveSession_eq_error_iff.1 (Store.unchanged_eq_error_iff.1 hrun)
    exact hfail hended

/-- **Ending the live session of an account** succeeds. -/
theorem endLiveSession_calm (hσ : s.Consistent now σ) :
    Meets (.calm now) (fun σ' _ => s.Consistent now σ' ∧ EndedFor now u σ.store σ'.store ∧
      σ.store.SameAccounts σ'.store) (fun _ _ => False) (endLiveSession ctx u) σ := by
  refine meets_bind.2 (meets_calm_step (fun r store hrun => ?_) fun e hrun => ?_)
  · obtain ⟨hfound, hsame⟩ := Store.unchanged_eq_ok_iff.1 hrun
    obtain rfl : store = σ.store := hsame
    obtain ⟨hr, hu, hlive⟩ := Store.mem_of_liveSession hfound
    rw [← hu]
    exact endSession_calm hσ hr hlive
  · obtain ⟨rfl, hended⟩ := Store.liveSession_eq_error_iff.1 (Store.unchanged_eq_error_iff.1 hrun)
    refine ⟨hσ, fun u' v ttl hlt => ⟨fun hholds => ⟨?_, hholds⟩, fun h => h.2⟩, .refl _⟩
    rintro rfl
    obtain ⟨r, hr, hu, -, rfl⟩ := hholds
    have := hended r hr hu
    omega

/-- **Opening a session** for an account that is there succeeds. -/
theorem openSession_calm (hσ : s.Consistent now σ) (hj : s.issuer.Ready now) (hu : Fits64 u)
    (howner : ∃ a ∈ σ.store.accounts, a.id = u) :
    Meets (.calm now) (fun σ' p => s.Consistent now σ' ∧
      s.issuer.parseEmbeddedAccess p.accessToken = some u ∧
      (∃ v, p.refreshToken = Wrapped.encodeString v ∧
        OpenedFor now u v (now + s.issuer.refreshTtl) σ.store σ'.store) ∧
      σ.store.SameAccounts σ'.store) (fun _ _ => False) (s.openSession ctx u) σ := by
  obtain ⟨d, hd⟩ := hj.digest
  refine meets_bind.2 (meets_calm_issue (fun jti₁ hjti₁ access haccess => ?_) fun jti e he => ?_)
  · have hembedded := hj.access_of_issue hu haccess
    refine meets_bind.2 (meets_calm_issue (fun jti₂ hjti₂ refresh hrefresh => ?_)
      fun jti e he => ?_)
    · obtain ⟨hclaims, hexpiry⟩ := hj.refresh_of_issue hrefresh
      have hσ₂ := (hσ.draw jti₁).draw jti₂
      -- no session has the token: its identifier was not drawn before
      have hnew : ∀ r ∈ σ.store.sessions, r.value ≠ refresh.token := by
        intro r hr hv
        obtain ⟨access', c, hc, -, -, hjti, -⟩ := (hσ.draw jti₁).issued r hr
        rw [hv] at hc
        cases hc.symm.trans hclaims
        exact hjti₂ hjti
      refine meets_bind.2 (meets_calm_ask (fun id store hrun => ?_) fun e hrun => ?_)
      · refine ⟨hσ₂.query hrun ?_, hembedded, ⟨refresh.token, rfl, ?_⟩,
          Store.sameAccounts_of_openSession hrun⟩
        · rintro _ _ _ ⟨⟩
          refine ⟨access.token, _, hclaims, rfl, hembedded, by simp, ?_⟩
          show refresh.expiry ≤ now + s.issuer.refreshTtl
          omega
        · intro u' v' ttl' hlt
          rw [← hexpiry]
          exact Store.holds_openSession hrun hlt
      · change σ.store.openSession now u refresh.token refresh.expiry = .error e at hrun
        rw [Store.openSession_eq_ok_iff.2 ⟨hnew, howner, rfl, rfl⟩] at hrun
        cases hrun
    · obtain ⟨t, ht⟩ := TokenIssuer.exists_generate_eq_ok hd hj.refresh.2 jti
        (.text access.token) .refresh
      cases he.symm.trans ht
  · obtain ⟨t, ht⟩ := TokenIssuer.exists_generate_eq_ok hd hj.access.2 jti (.account u) .access
    cases he.symm.trans ht

/-! ## Operation by operation -/

/-- A pair of tokens opened a session, in place of the one that its
account had. -/
def OpensPair (s : Service) (now : Int) (p : TokenPair) (before after : Store) : Prop :=
  ∃ u v, s.issuer.parseEmbeddedAccess p.accessToken = some u ∧
    p.refreshToken = Wrapped.encodeString v ∧
    OpenedFor now u v (now + s.issuer.refreshTtl) before after

theorem EndedFor.opened {before between after : Store} (h : EndedFor now u before between)
    (h' : OpenedFor now u v ttl between after) : OpenedFor now u v ttl before after := by
  intro u' v' ttl' hlt
  rw [h' u' v' ttl' hlt]
  split
  · exact Iff.rfl
  · next hne => rw [h u' v' ttl' hlt, and_iff_right hne]

/-- Ending the live session of an account and opening another one. -/
theorem replaceSession_calm (hσ : s.Consistent now σ) (hj : s.issuer.Ready now) (hu : Fits64 u)
    (howner : ∃ a ∈ σ.store.accounts, a.id = u) :
    Meets (.calm now) (fun σ' p => s.Consistent now σ' ∧ s.OpensPair now p σ.store σ'.store ∧
      σ.store.SameAccounts σ'.store) (fun _ _ => False)
      (do
        endLiveSession ctx u
        s.openSession ctx u) σ := by
  refine meets_bind.2 ((endLiveSession_calm hσ).mono ?_ fun _ _ he => he.elim)
  rintro σ₁ _ ⟨hσ₁, hended, hsame⟩
  rw [← hsame.1] at howner
  refine (openSession_calm hσ₁ hj hu howner).mono ?_ fun _ _ he => he.elim
  rintro σ₂ p ⟨hσ₂, hembedded, ⟨v, hp, hopened⟩, hsame'⟩
  exact ⟨hσ₂, ⟨u, v, hembedded, hp, hended.opened hopened⟩, hsame.trans hsame'⟩

theorem verifyPassword_calm {password hash : String} {ok : Scene → Bool → Prop}
    {fail : Scene → Failure ServiceError → Prop} (hok : ok σ (Password.verify password hash)) :
    Meets (.calm now) ok fail (verifyPassword ctx password hash) σ := by
  refine meets_bind.2 (meets_bind.2 (meets_step.2 ⟨trivial, ?_⟩))
  rintro late _ ⟨rfl, rfl⟩
  exact hok

/-- An account is admitted: it is there, its address is confirmed, and its
password is right. -/
def Admitted (store : Store) (email password : String) : Prop :=
  ∃ a ∈ store.accounts, a.email = email ∧ a.emailConfirmed = true ∧
    Password.verify password a.passwordHash = true

/-- **A login** opens a session if the account is admitted; otherwise it
changes nothing. -/
theorem login_calm (hσ : s.Consistent now σ) (hj : s.issuer.Ready now)
    (hfits : Fits64 σ.store.lastAccountId) {email password : String} :
    Meets (.calm now)
      (fun σ' p => Admitted σ.store email password ∧ s.Consistent now σ' ∧
        s.OpensPair now p σ.store σ'.store ∧ σ.store.SameAccounts σ'.store)
      (fun σ' _ => ¬ Admitted σ.store email password ∧ σ' = σ) (s.login ctx email password) σ := by
  refine meets_bind.2 (meets_calm_ask (fun a store hrun => ?_) fun e hrun => ⟨?_, rfl⟩)
  · obtain ⟨hfound, hsame⟩ := Store.unchanged_eq_ok_iff.1 hrun
    obtain rfl : store = σ.store := hsame
    obtain ⟨ha, hemail⟩ := Store.mem_of_accountByEmail hfound
    -- no other account has the address
    have honly {P : Account → Prop} (hnot : ¬ P a) :
        ¬ ∃ b ∈ σ.store.accounts, b.email = email ∧ P b := by
      rintro ⟨b, hb, hbemail, hP⟩
      obtain rfl := hσ.accounts.eq_of_email_eq ha hb (hemail.trans hbemail.symm)
      exact hnot hP
    refine meets_bind.2 (meets_require.2 ⟨fun hconfirmed => ?_, fun hnot => ⟨?_, rfl⟩⟩)
    · refine meets_bind.2 (verifyPassword_calm (meets_bind.2 (meets_require.2
        ⟨fun hright => ?_, fun hwrong => ⟨?_, rfl⟩⟩)))
      · have hadmitted : Admitted σ.store email password := ⟨a, ha, hemail, hconfirmed, hright⟩
        refine (replaceSession_calm hσ hj (hσ.fits_of_mem hfits ha)
          ⟨a, ha, rfl⟩).mono (fun σ' p h => ⟨hadmitted, h⟩) fun _ _ he => he.elim
      · exact honly fun h => by simp [h.2] at hwrong
    · exact honly fun h => by simp [h.1] at hnot
  · rintro ⟨a, ha, hemail, -⟩
    have hnone := Store.unchanged_eq_error_iff.1 hrun
    rw [Store.accountByEmail, hσ.accounts.accountWithEmail?_eq_some_iff.2 ⟨ha, hemail⟩] at hnone
    cases hnone

/-- A token is that of a live session. -/
def LiveToken (store : Store) (now : Int) (token : String) : Prop :=
  ∃ r ∈ store.sessions, Wrapped.decodeString token = .ok r.value ∧ now < r.ttl

/-- What a refresh reads in the token of a live session. -/
theorem Consistent.exists_of_liveToken (hσ : s.Consistent now σ) {token t : String}
    (ht : Wrapped.decodeString token = .ok t) (h : LiveToken σ.store now token) :
    ∃ r ∈ σ.store.sessions, r.value = t ∧ now < r.ttl ∧ ∃ access,
      s.issuer.parseRefresh now t = some access ∧
        s.issuer.parseEmbeddedAccess access = some r.accountId := by
  obtain ⟨r, hr, hdecode, hlive⟩ := h
  obtain rfl := Except.ok.inj (ht.symm.trans hdecode)
  obtain ⟨access, c, hc, hvalue, hu, -, hexp⟩ := hσ.issued r hr
  exact ⟨r, hr, rfl, hlive, access,
    TokenIssuer.parseRefresh_eq_some_iff.2 ⟨c, hc, by omega, hvalue⟩, hu⟩

/-- What a refresh does from the lookup of the session on, with a token
that is in order. -/
theorem renew_calm (hσ : s.Consistent now σ) (hj : s.issuer.Ready now)
    (hfits : Fits64 σ.store.lastAccountId) {token t access : String}
    (ht : Wrapped.decodeString token = .ok t)
    (haccess : s.issuer.parseRefresh now t = some access)
    (hu : s.issuer.parseEmbeddedAccess access = some u) :
    Meets (.calm now)
      (fun σ' p => LiveToken σ.store now token ∧ s.Consistent now σ' ∧
        s.OpensPair now p σ.store σ'.store)
      (fun σ' e => ¬ LiveToken σ.store now token ∧ e = .reported .invalidToken ∧ σ' = σ)
      (do
        let session ← ask ctx (.liveSession u) fun
          | .notFound _ => .invalidToken
          | e => .ofStore e
        require (session.value == t) .invalidToken
        let stored ← expect .invalidToken (s.issuer.parseRefresh (← Procedure.now) session.value)
        require (stored == access) .tokensUnrelated
        ask ctx (.endSession session.value) fun _ => .invalidToken
        s.openSession ctx u) σ := by
  -- the session that the token is of is one of this account
  have howner (hlive : LiveToken σ.store now token) :
      ∃ r ∈ σ.store.sessions, r.value = t ∧ now < r.ttl ∧ r.accountId = u := by
    obtain ⟨r, hr, hv, hr', access', haccess', hu'⟩ := hσ.exists_of_liveToken ht hlive
    obtain rfl := Option.some.inj (haccess.symm.trans haccess')
    exact ⟨r, hr, hv, hr', (Option.some.inj (hu.symm.trans hu')).symm⟩
  refine meets_bind.2 (liveSession_calm (fun r hr hru hlive => ?_) fun hended => ?_)
  · refine meets_bind.2 (meets_require.2 ⟨fun hvalue => ?_, fun hvalue => ?_⟩)
    · obtain rfl : r.value = t := beq_iff_eq.1 hvalue
      refine meets_bind.2 (meets_calm_now (meets_bind.2 ?_))
      rw [haccess]
      refine meets_bind.2 (meets_require.2 ⟨fun _ => ?_, fun hne => by simp at hne⟩)
      refine meets_bind.2 ((endSession_calm hσ hr hlive).mono ?_ fun _ _ he => he.elim)
      rintro σ₁ _ ⟨hσ₁, hended, hsame⟩
      rw [hru] at hended
      obtain ⟨a, ha, hid⟩ := hσ.sessions.owners r hr
      have hau : a.id = u := hid.trans hru
      refine (openSession_calm hσ₁ hj (hau ▸ hσ.fits_of_mem hfits ha)
        ⟨a, hsame.1 ▸ ha, hau⟩).mono ?_ fun _ _ he => he.elim
      rintro σ₂ p ⟨hσ₂, hembedded, ⟨v, hp, hopened⟩, -⟩
      exact ⟨⟨r, hr, ht, hlive⟩, hσ₂, u, v, hembedded, hp, hended.opened hopened⟩
    · -- the token of a live session is that of the only one there is
      refine ⟨fun h => ?_, rfl, rfl⟩
      obtain ⟨r', hr', hv, hlive', hru'⟩ := howner h
      obtain rfl := hσ.oneLive r hr r' hr' hlive hlive' (hru.trans hru'.symm)
      simp [hv] at hvalue
  · refine ⟨fun h => ?_, rfl, rfl⟩
    obtain ⟨r, hr, -, hlive, hru⟩ := howner h
    have := hended r hr hru
    omega

/-- **A refresh** opens a session if its token is that of a live session;
otherwise it says that the token is invalid and changes nothing. -/
theorem refresh_calm (hσ : s.Consistent now σ) (hj : s.issuer.Ready now)
    (hfits : Fits64 σ.store.lastAccountId) {token : String} :
    Meets (.calm now)
      (fun σ' p => LiveToken σ.store now token ∧ s.Consistent now σ' ∧
        s.OpensPair now p σ.store σ'.store)
      (fun σ' e => ¬ LiveToken σ.store now token ∧ e = .reported .invalidToken ∧ σ' = σ)
      (s.refresh ctx token) σ := by
  refine meets_bind.2 (meets_ofExcept.2 ⟨fun t ht => ?_, fun e he => ⟨?_, rfl, rfl⟩⟩)
  · refine meets_bind.2 (meets_calm_now (meets_bind.2 (meets_expect.2 ⟨fun access haccess => ?_,
      fun hnone => ⟨fun hlive => ?_, rfl, rfl⟩⟩)))
    · refine meets_bind.2 (meets_expect.2 ⟨fun u hu => renew_calm hσ hj hfits ht haccess hu,
        fun hnone => ⟨fun hlive => ?_, rfl, rfl⟩⟩)
      obtain ⟨r, -, -, -, access', haccess', hu⟩ := hσ.exists_of_liveToken ht hlive
      obtain rfl := Option.some.inj (haccess.symm.trans haccess')
      rw [hu] at hnone
      cases hnone
    · obtain ⟨r, -, -, -, access, haccess, -⟩ := hσ.exists_of_liveToken ht hlive
      rw [haccess] at hnone
      cases hnone
  · rintro ⟨r, -, hdecode, -⟩
    cases he.symm.trans hdecode

/-- Beyond a moment, two stores hold the same. -/
def SameHeld (now : Int) (before after : Store) : Prop :=
  ∀ u v ttl, now < ttl → (after.Holds u v ttl ↔ before.Holds u v ttl)

theorem sameHeld_of_eq {before after : Store} (h : after.sessions = before.sessions) :
    SameHeld now before after := by
  intro u v ttl _
  rw [Store.Holds, h, Store.Holds]

/-- **A logout** ends the session of the account that its token
admits. -/
theorem logout_calm (hσ : s.Consistent now σ) {token : String} :
    Meets (.calm now) (fun σ' _ => s.Consistent now σ' ∧
        ∃ u, s.issuer.parseEmbeddedAccess token = some u ∧ EndedFor now u σ.store σ'.store)
      (fun σ' _ => σ' = σ) (s.logout ctx token) σ := by
  refine meets_bind.2 (meets_bind.2 (meets_calm_now (meets_expect.2 ⟨fun u hu => ?_,
    fun _ => rfl⟩)))
  obtain ⟨c, hc, -, hvalue⟩ := TokenIssuer.parseAccount_eq_some_iff.1 hu
  refine meets_recover.2 ((endLiveSession_calm hσ).mono ?_ fun _ _ he => he.elim)
  rintro σ' _ ⟨hσ', hended, -⟩
  exact ⟨hσ', u, TokenIssuer.parseEmbeddedAccess_eq_some_iff.2 ⟨c, hc, hvalue⟩, hended⟩

/-- **A purge** takes away nothing that is live. -/
theorem purge_calm (hσ : s.Consistent now σ) :
    Meets (.calm now) (fun σ' _ => s.Consistent now σ' ∧ SameHeld now σ.store σ'.store)
      (fun _ _ => False) (purge ctx) σ := by
  refine meets_bind.2 (meets_calm_now (meets_calm_ask (fun n store hrun => ?_) fun e he => ?_))
  · -- the purge goes by the time of the step, and nothing that is live ends by then
    refine ⟨hσ.query hrun (by rintro _ _ _ ⟨⟩), fun u v ttl hlt => ?_⟩
    rw [Store.eq_purge_of_run hrun]
    exact Store.holds_purge hlt
  · cases he

/-- **A quiet operation** leaves the sessions alone. -/
theorem quiet_calm (hσ : s.Consistent now σ) {α : Type} {x : Procedure α}
    (hx : x.Uses (Effect.Quiet ctx)) :
    Meets (.calm now) (fun σ' _ => s.Consistent now σ' ∧ SameHeld now σ.store σ'.store)
      (fun σ' _ => s.Consistent now σ' ∧ SameHeld now σ.store σ'.store) x σ := by
  have hkept := hx.meets (E := .calm now)
    (I := fun σ' => s.Consistent now σ' ∧ σ'.store.sessions = σ.store.sessions)
    (fun _ _ _ _ => trivial) (fun σ₁ e r σ₂ hσ₁ hquiet hanswers => ?_) ⟨hσ, rfl⟩
  · exact hkept.mono (fun _ _ h => ⟨h.1, sameHeld_of_eq h.2⟩) fun _ _ h => ⟨h.1, sameHeld_of_eq h.2⟩
  -- a quiet step keeps both, whichever it is
  cases e with
  | identifier =>
    obtain ⟨-, rfl⟩ := hanswers
    exact ⟨hσ₁.1.draw r, hσ₁.2⟩
  | salt =>
    obtain rfl : σ₂ = σ₁ := hanswers
    exact hσ₁
  | clock =>
    obtain ⟨-, rfl⟩ := hanswers
    exact hσ₁
  | deadline ctx =>
    obtain ⟨-, rfl⟩ := hanswers
    exact hσ₁
  | publish ctx subject payload =>
    rcases hanswers with ⟨outbox, -, -, rfl⟩ | ⟨e, -, -, rfl⟩
    · exact ⟨⟨hσ₁.1.accounts, hσ₁.1.sessions, hσ₁.1.issued, hσ₁.1.oneLive⟩, hσ₁.2⟩
    · exact hσ₁
  | query ctx q =>
    rcases hanswers with ⟨x, store, hrun, -, rfl⟩ | ⟨e, -, -, rfl⟩
    · have hopens (u v ttl) : q ≠ .openSession u v ttl := by
        rintro rfl
        cases hquiet.1
      refine ⟨hσ₁.1.query hrun fun u v ttl hq => absurd hq (hopens u v ttl), ?_⟩
      refine (Store.sessions_of_run hrun hopens ?_ ?_).trans hσ₁.2
      · rintro v rfl
        cases hquiet.1
      · rintro before rfl
        cases hquiet.1
    · exact hσ₁

end Service

end SignOn
