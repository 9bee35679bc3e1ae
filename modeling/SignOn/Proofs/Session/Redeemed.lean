import SignOn.Proofs.Session.Spent
/-!
# One call that redeems a refresh token

What a call comes to that is given a token which can be redeemed: as long
as nothing goes wrong that has nothing to do with the session
(`Service.Favours`), it succeeds exactly if it has ended the session by
itself, and it fails only if it was told that the session is gone
(`Service.refresh_redeems`). And it takes nine steps at most.
-/

namespace SignOn

namespace Service

open Procedure

variable {s : Service}

/-! ## What a call relies on, and what it comes to -/

/-- A redeemable token: it carries an access token of an account, and
both are in order but for the time. -/
def Redeems (s : Service) (v access : String) (u : Int) : Prop :=
  (∃ c, s.issuer.claims? v .refresh = some c ∧ c.value = .text access) ∧
    s.issuer.parseEmbeddedAccess access = some u

/-- What a call relies on that redeems a token: the token has not expired
whenever it looks, new tokens expire within the 64-bit numbers, no lookup
fails but for want of a session, and its new session is opened. -/
def Favours (s : Service) (v access : String) : (e : Effect) → e.Reply → Prop
  | .clock, m => s.issuer.parseRefresh m.seconds v = some access ∧ s.issuer.PairFits m.seconds
  | .query _ (.liveSession _), .error e => ∃ what, e = .notFound what
  | .query _ (.openSession _ _ _), .error _ => False
  | _, _ => True

theorem favours_of_step {v access : String} {x : Step}
    (hclock : ∀ m, x = ⟨.clock, m⟩ →
      s.issuer.parseRefresh m.seconds v = some access ∧ s.issuer.PairFits m.seconds)
    (hlive : ∀ ctx u e, x = ⟨.query ctx (.liveSession u), .error e⟩ → ∃ what, e = .notFound what)
    (hopen : ∀ ctx u v ttl e, x ≠ ⟨.query ctx (.openSession u v ttl), .error e⟩) :
    s.Favours v access x.effect x.reply := by
  match x with
  | ⟨.clock, m⟩ => exact hclock m rfl
  | ⟨.query ctx (.liveSession u), .error e⟩ => exact hlive ctx u e rfl
  | ⟨.query ctx (.openSession u v ttl), .error e⟩ => exact absurd rfl (hopen ctx u v ttl e)
  | ⟨.query _ (.liveSession _), .ok _⟩ | ⟨.query _ (.openSession _ _ _), .ok _⟩ => trivial
  | ⟨.identifier, _⟩ | ⟨.salt, _⟩ | ⟨.deadline _, _⟩ | ⟨.publish _ _ _, _⟩ => trivial
  | ⟨.query _ (.insertAccount _), _⟩ | ⟨.query _ (.accountById _), _⟩
  | ⟨.query _ (.accountByEmail _), _⟩ | ⟨.query _ (.listAccounts _), _⟩
  | ⟨.query _ (.updateProfile _ _), _⟩ | ⟨.query _ (.confirmEmail _), _⟩
  | ⟨.query _ (.setPassword _ _), _⟩ | ⟨.query _ (.endSession _), _⟩ | ⟨.query _ (.purge _), _⟩ =>
    trivial

/-- A call was told that the session is gone: there is none, there is
another one, or it could not be ended. -/
def Discouraged (h : List Step) (u : Int) (v : String) : Prop :=
  (∃ e, Got h (.liveSession u) (.error e)) ∨
    (∃ r, Got h (.liveSession u) (.ok r) ∧ r.value ≠ v) ∨ ∃ e, Got h (.endSession v) (.error e)

/-- How a call ends that redeems a token: it has ended the session and
succeeds, or it was discouraged and says that the token is invalid. -/
def Redeemed (h : List Step) (u : Int) (v : String) : Except (Failure ServiceError) Answer → Prop
  | .ok a => (∃ p, a = .pair p) ∧ Got h (.endSession v) (.ok ())
  | .error e => e = .reported .invalidToken ∧ ¬ Got h (.endSession v) (.ok ()) ∧ Discouraged h u v

/-! ## Step by step -/

theorem exists_digest_of_claims? {j : TokenIssuer} {token : String} {kind : TokenKind} {c : Claims}
    (h : j.claims? token kind = some c) : ∃ d, j.algorithm.digest? = some d := by
  obtain ⟨⟨d, hd, -⟩, -⟩ := TokenIssuer.claims?_eq_some_iff.1 h
  exact ⟨d, hd⟩

/-- Signing a token does not fail with a shared secret. -/
theorem meets_favoured_issue {v access : String}
    {sign : Int → String → Except (Failure TokenError) IssuedToken}
    {ok : List Step → IssuedToken → Prop} {fail : List Step → Failure ServiceError → Prop}
    {h : List Step} (hsign : ∀ now jti, s.issuer.PairFits now → ∃ t, sign now jti = .ok t)
    (hok : ∀ h' t, h ⊆ h' → ok h' t) :
    Meets (.history (fun _ _ => True) (s.Favours v access)) ok fail (issue sign) h := by
  refine meets_history_issue trivial (fun _ => trivial) (fun m jti t _ => ?_)
    fun m jti e hm he => ?_
  · exact hok _ t fun x hx => List.mem_append_left _ (List.mem_append_left _ hx)
  · have hm : s.issuer.parseRefresh m.seconds v = some access ∧ s.issuer.PairFits m.seconds := hm
    obtain ⟨t, ht⟩ := hsign m.seconds jti hm.2
    rw [ht] at he
    cases he

/-- A session is opened where that is relied on. -/
theorem openSession_meets_favoured {v access : String} {u u' : Int} {d : Digest}
    (hd : s.issuer.algorithm.digest? = some d) {ctx : RequestContext} {h : List Step}
    (hended : Got h (.endSession v) (.ok ())) :
    Meets (.history (fun _ _ => True) (s.Favours v access))
      (fun h p => Redeemed h u v (.ok (.pair p))) (fun h e => Redeemed h u v (.error e))
      (s.openSession ctx u') h := by
  refine meets_bind.2 (meets_favoured_issue
    (fun now jti hfits => TokenIssuer.exists_generate_eq_ok hd hfits.access _ _ _)
    fun h₁ access hsub₁ => ?_)
  refine meets_bind.2 (meets_favoured_issue
    (fun now jti hfits => TokenIssuer.exists_generate_eq_ok hd hfits.refresh _ _ _)
    fun h₂ refresh hsub₂ => ?_)
  refine meets_bind.2 (meets_history_ask trivial (fun id _ => ?_) fun e he => he.elim)
  refine ⟨⟨_, rfl⟩, hended.mono fun x hx => ?_⟩
  exact List.mem_append_left _ (hsub₂ (hsub₁ hx))

/-- What a favoured call does from the lookup of the session on. -/
theorem endAndOpen_meets_favoured {v access : String} {u : Int} {d : Digest}
    (hd : s.issuer.algorithm.digest? = some d) {ctx : RequestContext} (m₁ : Moment) :
    Meets (.history (fun _ _ => True) (s.Favours v access))
      (fun h p => Redeemed h u v (.ok (.pair p))) (fun h e => Redeemed h u v (.error e))
      (do
        let session ← ask ctx (.liveSession u) fun
          | .notFound _ => .invalidToken
          | e => .ofStore e
        require (session.value == v) .invalidToken
        let stored ← expect .invalidToken (s.issuer.parseRefresh (← now) session.value)
        require (stored == access) .tokensUnrelated
        ask ctx (.endSession session.value) fun _ => .invalidToken
        s.openSession ctx u) ([] ++ [⟨.clock, m₁⟩]) := by
  have hunended {h : List Step} (hmem : ∀ ctx, (⟨.query ctx (.endSession v), .ok ()⟩ : Step) ∉ h) :
      ¬ Got h (.endSession v) (.ok ()) := fun hgot => hgot.elim fun ctx h => hmem ctx h
  -- each way out before the end of the session is one that `Discouraged` names
  refine meets_bind.2 (meets_history_ask trivial (fun r _ => ?_) fun e he => ?_)
  · refine meets_bind.2 (meets_require.2 ⟨fun hvalue => ?_, fun hvalue => ?_⟩)
    · obtain rfl := beq_iff_eq.1 hvalue
      refine meets_bind.2 (meets_history_now trivial fun m₂ hm₂ => ?_)
      have hm₂ : s.issuer.parseRefresh m₂.seconds r.value = some access := hm₂.1
      refine meets_bind.2 (meets_expect.2 ⟨fun stored hstored => ?_, fun hnone => ?_⟩)
      · obtain rfl := Option.some.inj (hm₂.symm.trans hstored)
        refine meets_bind.2 (meets_require.2 ⟨fun _ => ?_, fun hne => ?_⟩)
        · refine meets_bind.2 (meets_history_ask trivial (fun _ _ => ?_) fun e _ => ?_)
          · exact openSession_meets_favoured hd (got_concat _ _ _ _)
          · refine ⟨rfl, hunended fun ctx' hmem => ?_, .inr (.inr ⟨e, got_concat _ _ _ _⟩)⟩
            simp at hmem
        · simp at hne
      · rw [hm₂] at hnone
        cases hnone
    · have hne : r.value ≠ v := fun heq => by simp [heq] at hvalue
      refine ⟨rfl, hunended fun ctx' hmem => ?_, .inr (.inl ⟨r, got_concat _ _ _ _, hne⟩)⟩
      simp at hmem
  · obtain ⟨what, rfl⟩ := he
    refine ⟨rfl, hunended fun ctx' hmem => ?_, .inl ⟨_, got_concat _ _ _ _⟩⟩
    simp at hmem

/-- **A call that is favoured** succeeds exactly if it ends the session,
and fails only if it is discouraged. -/
theorem refresh_redeems {token v access : String} {u : Int}
    (hdecode : Wrapped.decodeString token = .ok v) (hredeems : s.Redeems v access u)
    (ctx : RequestContext) :
    (s.perform ctx (.refresh token)).run.Meets (.history (fun _ _ => True) (s.Favours v access))
      (fun h r => Redeemed h u v r) [] := by
  obtain ⟨⟨c, hc, -⟩, hu⟩ := hredeems
  obtain ⟨d, hd⟩ := exists_digest_of_claims? hc
  have hprocedure : Meets (.history (fun _ _ => True) (s.Favours v access))
      (fun h p => Redeemed h u v (.ok (.pair p))) (fun h e => Redeemed h u v (.error e))
      (s.refresh ctx token) [] := by
    refine meets_bind.2 (meets_ofExcept.2 ⟨fun t ht => ?_, fun e he => ?_⟩)
    · obtain rfl := Except.ok.inj (hdecode.symm.trans ht)
      refine meets_bind.2 (meets_history_now trivial fun m₁ hm₁ => ?_)
      have hm₁ : s.issuer.parseRefresh m₁.seconds v = some access := hm₁.1
      refine meets_bind.2 (meets_expect.2 ⟨fun access' haccess => ?_, fun hnone => ?_⟩)
      · obtain rfl := Option.some.inj (hm₁.symm.trans haccess)
        refine meets_bind.2 (meets_expect.2 ⟨fun u' hu' => ?_, fun hnone => ?_⟩)
        · obtain rfl := Option.some.inj (hu.symm.trans hu')
          exact endAndOpen_meets_favoured hd m₁
        · rw [hu] at hnone
          cases hnone
      · rw [hm₁] at hnone
        cases hnone
    · rw [hdecode] at he
      cases he
  exact Program.Meets.mono (meets_map.2 hprocedure) fun h r hr => by cases r <;> exact hr

/-! ## How many steps it takes -/

theorem takes_openSession (s : Service) (ctx : RequestContext) (u : Int) :
    Takes 5 (s.openSession ctx u) :=
  (takes_issue _).bind fun _ => (takes_issue _).bind fun _ => (takes_ask _ _ _).bind
    fun _ => takes_pure _

theorem takes_refresh (s : Service) (ctx : RequestContext) (token : String) :
    Takes 9 (s.refresh ctx token) :=
  (takes_ofExcept _ _).bind fun _ => takes_now.bind fun _ => (takes_expect _ _).bind fun _ =>
    (takes_expect _ _).bind fun _ => (takes_ask _ _ _).bind fun _ => (takes_require _ _).bind
      fun _ => takes_now.bind fun _ => (takes_expect _ _).bind fun _ => (takes_require _ _).bind
        fun _ => (takes_ask _ _ _).bind fun _ => s.takes_openSession ctx _

/-- **A call that redeems a token is over after nine steps.** -/
theorem refresh_countdown (s : Service) (ctx : RequestContext) (token : String) :
    (s.perform ctx (.refresh token)).run.Meets .countdown (fun _ _ => True) 9 :=
  Program.Meets.mono ((s.takes_refresh ctx token).map Answer.pair 9 (Nat.le_refl 9))
    fun _ _ _ => trivial

end Service

end SignOn
