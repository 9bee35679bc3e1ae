import SignOn.Proofs.Service.InTurn
import SignOn.Proofs.Session.Admission
import SignOn.Proofs.Session.Redeemed
/-!
# Refresh tokens are good for one use

Of all calls that redeem one refresh token, in any run, at most one
succeeds: each has ended the session with that token by itself, and no
session is ended twice by its token.

Of calls that do nothing but compete for a token that can be redeemed,
exactly one succeeds. As long as none of them has ended the session, it
is there and live, and none was told otherwise; so the first that asks to
end it does, and the others fail.
-/

namespace SignOn

theorem got_concat_iff {h : List Step} {x : Step} {q : Query} {y : Except StoreError q.Answer} :
    Got (h ++ [x]) q y ↔ Got h q y ∨ ∃ ctx, x = ⟨.query ctx q, y⟩ := by
  simp only [Got, List.mem_append, List.mem_singleton, exists_or, eq_comm (a := x)]

namespace Service

variable {s : Service} {w : World} {requests : List Request} {l l₁ l₂ : List Transition}
variable {q : Pool (Except (Failure ServiceError) Answer)} {t : Turn} {tr : Transition}
variable {store : Store} {token access : String} {r : Session} {group : List Nat}

/-! ## Openings do not fail -/

/-- **A session is opened**, unless a fault prevents it: its token was
never offered before, and its account is there. -/
theorem Sound.openSession_ne_error (h : s.Sound requests l q) (hfresh : (identifiers l).Nodup)
    (htr : q.transition? t = some tr) (hfaultless : tr.Faultless) {ctx : RequestContext}
    {u ttl : Int} {v : String} {e : StoreError} :
    tr.step ≠ ⟨.query ctx (.openSession u v ttl), .error e⟩ := by
  intro hstep
  have heffect : tr.effect = .query ctx (.openSession u v ttl) := congrArg Step.effect hstep
  obtain ⟨-, -, hbefore, -⟩ := Pool.advance_of_transition? htr
  have hledger := h.ledger
  rw [← hbefore] at hledger
  obtain ⟨request, -, hpermits⟩ := h.conduct.request htr
  obtain ⟨a, ha, hid, -⟩ := hledger.confirmed_of_mayOpen (hpermits.opens ctx u v ttl heffect).1
  have hnew : ∀ r ∈ tr.before.store.sessions, r.value ≠ v := by
    rintro r hr rfl
    obtain ⟨-, t', ht', exp, id, access, hopens, -⟩ := hledger.rows r hr
    exact h.conduct.not_offered hfresh htr ⟨ctx, u, ttl, heffect⟩ t' ht' hopens.offers
  have hrun := hfaultless.run_eq_error hstep
  change tr.before.store.openSession tr.time u v ttl = .error e at hrun
  rw [Store.openSession_eq_ok_iff.2 ⟨hnew, ⟨a, ha, hid⟩, rfl, rfl⟩] at hrun
  cases hrun

/-! ## Tokens that can be redeemed -/

/-- A token can be redeemed as long as its session is live: the store has
a session with the refresh token, which carries an access token of the
account of the session. -/
structure Redeemable (s : Service) (store : Store) (token access : String) (r : Session) :
    Prop where
  mem : r ∈ store.sessions
  decodes : Wrapped.decodeString token = .ok r.value
  redeems : s.Redeems r.value access r.accountId

/-- The token of a session does not expire before the session ends. -/
theorem Redeemable.parseRefresh (h : s.Redeemable store token access r)
    (hledger : s.Ledger l store) {now : Int} (hlive : now < r.ttl) :
    s.issuer.parseRefresh now r.value = some access := by
  obtain ⟨⟨c, hc, hvalue⟩, -⟩ := h.redeems
  obtain ⟨-, -, -, exp, -, access', -, ⟨jti, -, ⟨iat, hsigns⟩, -⟩, hle, -⟩ := hledger.rows r h.mem
  have hexp : c.exp = exp := congrArg Claims.exp (hsigns.eq_of_claims? hc)
  exact TokenIssuer.parseRefresh_eq_some_iff.2 ⟨c, hc, by omega, hvalue⟩

/-- The tokens of two pairs with one refresh token are for one account. -/
theorem account_eq_of_pairs {j : TokenIssuer} {access' jti jti' v : String} {u u' exp exp' : Int}
    (h : j.Pairs access v u jti exp) (h' : j.Pairs access' v u' jti' exp') : u = u' := by
  obtain ⟨⟨iat, hrefresh⟩, a, haccess, -, ha⟩ := h
  obtain ⟨⟨iat', hrefresh'⟩, a', haccess', -, ha'⟩ := h'
  have hvalue : TokenValue.text access = TokenValue.text access' :=
    congrArg Claims.value (hrefresh.unique hrefresh')
  cases hvalue
  rw [haccess.unique haccess', ha'] at ha
  exact (TokenValue.account.inj ha).symm

/-- Whoever was told of a session with the token of a row was told of its
account. -/
theorem Ledger.accountId_eq (h : s.Ledger l store) (hr : r ∈ store.sessions) {tr : Transition}
    (htr : tr ∈ l) {u : Int} {r' : Session} (hanswers : tr.Answers (.liveSession u) r')
    (hv : r'.value = r.value) : u = r.accountId := by
  obtain ⟨-, access, jti, exp, hpairs⟩ := h.owners tr htr u r' hanswers
  obtain ⟨-, -, -, exp', -, access', -, ⟨jti', -, hpairs'⟩, -⟩ := h.rows r hr
  rw [hv] at hpairs
  exact account_eq_of_pairs hpairs hpairs'

/-! ## Contests -/

/-- A contest: after the steps `l₁` some calls begin that redeem one
token, and during the steps `l₂` the token does not expire, tokens that are
issued do so within the 64-bit numbers, no query of the calls meets a fault,
and no other operation runs that is about the account. -/
structure Contest (s : Service) (requests : List Request) (l₁ l₂ : List Transition)
    (store : Store) (token : String) (r : Session) (group : List Nat) : Prop where
  orderly : Orderly (l₁ ++ l₂)
  calls : ∀ i ∈ group, ∃ ctx, requests[i]? = some ⟨ctx, .refresh token⟩
  unbegun : ∀ t ∈ l₁, t.program ∉ group
  unexpired : ∀ t ∈ l₁ ++ l₂, t.time < r.ttl
  fits : ∀ t ∈ l₂, t.program ∈ group → s.issuer.PairFits t.time
  faultless : ∀ t ∈ l₂, t.program ∈ group → t.Faultless
  alone : ∀ t ∈ l₂, t.program ∉ group → ∀ request, requests[t.program]? = some request →
    s.sessionOwner? store request.operation ≠ some r.accountId

/-- What happens during a contest is a contest. -/
theorem Contest.of_concat (h : s.Contest requests l₁ (l ++ [tr]) store token r group) :
    s.Contest requests l₁ l store token r group := by
  have hsub : l₁ ++ l ⊆ l₁ ++ (l ++ [tr]) := by
    rw [← List.append_assoc]
    exact fun x => List.mem_append_left _
  have horderly := h.orderly
  rw [← List.append_assoc] at horderly
  exact ⟨horderly.of_append, h.calls, h.unbegun, fun t ht => h.unexpired t (hsub ht),
    fun t ht => h.fits t (List.mem_append_left _ ht),
    fun t ht => h.faultless t (List.mem_append_left _ ht),
    fun t ht => h.alone t (List.mem_append_left _ ht)⟩

/-- The session is as it was, and no call was told otherwise. -/
def Untouched (l : List Transition) (q : Pool (Except (Failure ServiceError) Answer)) (r : Session)
    (group : List Nat) : Prop :=
  r ∈ q.world.store.sessions ∧ ∀ i ∈ group, ¬ Discouraged (stepsOf i l) r.accountId r.value

/-- Where a contest stands. Until one of the calls has ended the session
it is untouched. -/
structure Course (s : Service) (l₁ l : List Transition) (store : Store) (access : String)
    (r : Session) (group : List Nat) (q : Pool (Except (Failure ServiceError) Answer)) : Prop where
  remain : store.AccountsRemain q.world.store
  redeemed : ∀ i ∈ group, ∃ prog : Program (Except (Failure ServiceError) Answer),
    q.programs[i]? = some prog ∧
      prog.Meets (.history (fun _ _ => True) (s.Favours r.value access))
        (fun h x => Redeemed h r.accountId r.value x) (stepsOf i (l₁ ++ l))
  undecided : (∃ t ∈ l, t.program ∈ group ∧ t.Answers (.endSession r.value) ()) ∨
    Untouched (l₁ ++ l) q r group

theorem Contest.orderly_concat (h : s.Contest requests l₁ (l ++ [tr]) store token r group) :
    Orderly (l₁ ++ l ++ [tr]) := by
  rw [List.append_assoc]
  exact h.orderly

/-- The step is taken while the session is live. -/
theorem Contest.time_lt (h : s.Contest requests l₁ (l ++ [tr]) store token r group) :
    tr.time < r.ttl :=
  h.unexpired tr (by simp)

/-- A session that is there has not been ended by its token. -/
theorem Contest.unended (h : s.Contest requests l₁ l store token r group)
    (hsound : s.Sound requests (l₁ ++ l) q) (hr : r ∈ q.world.store.sessions) :
    ∀ t ∈ l₁ ++ l, ¬ t.Answers (.endSession r.value) () := by
  intro t ht hends
  have := (hsound.settled h.orderly).spent t ht r.value hends (r.ttl - 1)
    (fun t' ht' => Int.le_sub_one_of_lt (h.unexpired t' ht')) r hr rfl
  omega

/-- A failed lookup finds nothing, unless a fault prevents it. -/
theorem exists_notFound_of_liveSession (hfaultless : tr.Faultless) {ctx : RequestContext} {u : Int}
    {e : StoreError} (hstep : tr.step = ⟨.query ctx (.liveSession u), .error e⟩) :
    e = .noLiveSession u ∧ ∀ r ∈ tr.before.store.sessions, r.accountId = u → r.ttl ≤ tr.time := by
  have hrun := hfaultless.run_eq_error hstep
  exact Store.liveSession_eq_error_iff.1 (Store.unchanged_eq_error_iff.1 hrun)

/-- **A call that competes is favoured.** -/
theorem Contest.favours (h : s.Contest requests l₁ (l ++ [tr]) store token r group)
    (hredeemable : s.Redeemable store token access r) (hledger : s.Ledger l₁ store)
    (hsound : s.Sound requests (l₁ ++ l) q) (htr : q.transition? t = some tr)
    (hmem : tr.program ∈ group) : s.Favours r.value access tr.effect tr.reply := by
  have hfaultless := h.faultless tr (by simp) hmem
  have hopens (ctx u v ttl e) : tr.step ≠ ⟨.query ctx (.openSession u v ttl), .error e⟩ :=
    hsound.openSession_ne_error h.of_concat.orderly.fresh htr hfaultless
  refine favours_of_step (x := tr.step) (fun m hm => ?_) (fun ctx u e hstep => ?_) hopens
  · rw [Transition.seconds_eq_time hm]
    exact ⟨hredeemable.parseRefresh hledger h.time_lt, h.fits tr (by simp) hmem⟩
  · exact ⟨_, (exists_notFound_of_liveSession hfaultless hstep).1⟩

/-- No other operation concerns the account. -/
theorem Contest.not_concerns (h : s.Contest requests l₁ (l ++ [tr]) store token r group)
    (hredeemable : s.Redeemable store token access r) (hledger : s.Ledger l₁ store)
    (hsound : s.Sound requests (l₁ ++ l) q) (hremain : store.AccountsRemain q.world.store)
    (hmem : tr.program ∉ group) {request : Request}
    (hrequest : requests[tr.program]? = some request) :
    ¬ s.Concerns request.operation (stepsOf tr.program (l₁ ++ l)) r.accountId := by
  intro hconcerns
  obtain ⟨a, ha, hid, -⟩ := (hledger.rows r hredeemable.mem).1
  refine h.alone tr (by simp) hmem request hrequest ?_
  exact sessionOwner?_of_remain hledger.accounts hsound.ledger.accounts hremain ⟨a, ha, hid⟩
    (hsound.ledger.sessionOwner?_eq hconcerns)

/-- **Only a call that competes ends the session.** -/
theorem Contest.mem_of_ends (h : s.Contest requests l₁ (l ++ [tr]) store token r group)
    (hredeemable : s.Redeemable store token access r) (hledger : s.Ledger l₁ store)
    (hsound : s.Sound requests (l₁ ++ l) q) (hremain : store.AccountsRemain q.world.store)
    (htr : q.transition? t = some tr) (hr : r ∈ q.world.store.sessions)
    (hends : tr.Answers (.endSession r.value) ()) : tr.program ∈ group := by
  by_contra hmem
  obtain ⟨ctx, hstep⟩ := hends
  obtain ⟨request, hrequest, hpermits⟩ := hsound.conduct.request htr
  obtain ⟨u, r', hconcerns, hgot, hv⟩ := hpermits.ends ctx r.value (congrArg Step.effect hstep)
  -- whoever ends a session was told of it, and so of its account
  obtain ⟨t', ht', -, hanswers⟩ := got_stepsOf.1 hgot
  obtain rfl := hsound.ledger.accountId_eq hr ht' hanswers hv
  exact h.not_concerns hredeemable hledger hsound hremain hmem hrequest hconcerns

/-- **The session stays as it is** until it is ended by its token. -/
theorem Contest.mem_sessions (h : s.Contest requests l₁ (l ++ [tr]) store token r group)
    (hredeemable : s.Redeemable store token access r) (hledger : s.Ledger l₁ store)
    (hsound : s.Sound requests (l₁ ++ l) q) (hremain : store.AccountsRemain q.world.store)
    (htr : q.transition? t = some tr) (hr : r ∈ q.world.store.sessions)
    (hends : ¬ tr.Answers (.endSession r.value) ()) : r ∈ tr.after.store.sessions := by
  obtain ⟨-, -, hbefore, -⟩ := Pool.advance_of_transition? htr
  have hr' : r ∈ tr.before.store.sessions := by rwa [hbefore]
  obtain ⟨request, hrequest, hpermits⟩ := hsound.conduct.request htr
  rcases tr.store_cases with ⟨hsame, -⟩ | ⟨query, x, hanswers, hrun⟩
  · rwa [hsame]
  obtain ⟨ctx, hstep⟩ := id hanswers
  have heffect : tr.effect = .query ctx query := congrArg Step.effect hstep
  rcases Store.mem_sessions_of_mem hrun hr' with hr' | ⟨hquery, -⟩ | ⟨before, rfl, hle⟩
  · exact hr'
  · match query, hquery with
    | .endSession v, hv =>
      have hv : r.value = v := hv
      exact absurd (hv ▸ hanswers) hends
    | .openSession u v ttl, hu =>
      have hu : r.accountId = u := hu
      subst hu
      obtain ⟨⟨hconcerns, hmay⟩, -⟩ := hpermits.opens ctx _ v ttl heffect
      -- whoever renews the session has ended it before
      by_cases hmem : tr.program ∈ group
      · obtain ⟨ctx', hcall⟩ := h.calls _ hmem
        obtain rfl := Option.some.inj (hcall.symm.trans hrequest)
        obtain ⟨r', hdecodes, -, hgot⟩ := hmay
        obtain ⟨t', ht', -, hanswers'⟩ := got_stepsOf.1 hgot
        rw [Except.ok.inj (hdecodes.symm.trans hredeemable.decodes)] at hanswers'
        exact absurd hanswers' (h.of_concat.unended hsound hr t' ht')
      · exact absurd hconcerns (h.not_concerns hredeemable hledger hsound hremain hmem hrequest)
  · -- a purge goes by a time that was read, and the session outlasts it
    obtain ⟨m, hclock, rfl⟩ := hpermits.purges ctx before heffect
    obtain ⟨t', ht', -, hstep'⟩ := mem_stepsOf.1 hclock
    have := h.of_concat.unexpired t' ht'
    rw [Transition.seconds_eq_time hstep'] at hle
    omega

/-- **No call is told otherwise** while the session is as it was. -/
theorem Contest.not_discouraged (h : s.Contest requests l₁ (l ++ [tr]) store token r group)
    (hsound : s.Sound requests (l₁ ++ l) q) (htr : q.transition? t = some tr)
    (hr : r ∈ q.world.store.sessions) (hmem : tr.program ∈ group) {steps : List Step}
    (hsteps : ¬ Discouraged steps r.accountId r.value) :
    ¬ Discouraged (steps ++ [tr.step]) r.accountId r.value := by
  obtain ⟨-, -, hbefore, -⟩ := Pool.advance_of_transition? htr
  rw [← hbefore] at hr
  have hfaultless := h.faultless tr (by simp) hmem
  have hlive := h.time_lt
  have hone := (hsound.settled h.of_concat.orderly).oneLive tr.time h.orderly_concat.time_le
  rw [← hbefore] at hone
  rintro (⟨e, hgot⟩ | ⟨r', hgot, hne⟩ | ⟨e, hgot⟩)
  · rcases got_concat_iff.1 hgot with hgot | ⟨ctx, hstep⟩
    · exact hsteps (.inl ⟨e, hgot⟩)
    · have := (exists_notFound_of_liveSession hfaultless hstep).2 r hr rfl
      omega
  · rcases got_concat_iff.1 hgot with hgot | ⟨ctx, hstep⟩
    · exact hsteps (.inr (.inl ⟨r', hgot, hne⟩))
    · have hfound := (Store.unchanged_eq_ok_iff.1 (Transition.run_of_answers ⟨ctx, hstep⟩)).1
      obtain ⟨hr', hu, hlive'⟩ := Store.mem_of_liveSession hfound
      exact hne (congrArg Session.value (hone r' hr' r hr hlive' hlive hu))
  · rcases got_concat_iff.1 hgot with hgot | ⟨ctx, hstep⟩
    · exact hsteps (.inr (.inr ⟨e, hgot⟩))
    · have hrun := hfaultless.run_eq_error hstep
      have hok := Store.endSession_eq_ok_iff.2 ⟨⟨r, hr, rfl, hlive⟩, rfl⟩
      change Store.changed _ = _ at hrun
      rw [hok] at hrun
      cases hrun

/-- **A step keeps the course of a contest.** -/
theorem Course.step (hcourse : s.Course l₁ l store access r group q)
    (h : s.Contest requests l₁ (l ++ [tr]) store token r group)
    (hredeemable : s.Redeemable store token access r) (hledger : s.Ledger l₁ store)
    (hsound : s.Sound requests (l₁ ++ l) q) (htr : q.transition? t = some tr) :
    s.Course l₁ (l ++ [tr]) store access r group (q.advance t) := by
  obtain ⟨-, -, hbefore, next, -, hadvance⟩ := Pool.advance_of_transition? htr
  have hstore : (q.advance t).world.store = tr.after.store := by rw [hadvance]
  refine ⟨hcourse.remain.trans ?_, fun i hi => ?_, ?_⟩
  · rw [hstore, ← hbefore]
    rcases tr.store_cases with ⟨hsame, -⟩ | ⟨query, x, -, hrun⟩
    · rw [hsame]
      exact .refl _
    · exact Store.accountsRemain_of_run hrun
  · obtain ⟨prog, hprog, hmeets⟩ := hcourse.redeemed i hi
    rw [← List.append_assoc]
    refine Pool.meets_advance htr hprog hmeets fun hprogram => ?_
    exact h.favours hredeemable hledger hsound htr (hprogram ▸ hi)
  -- once the session is ended it stays so; until then only this step can end it
  rcases hcourse.undecided with ⟨t', ht', hwinner⟩ | ⟨hr, hsteps⟩
  · exact .inl ⟨t', List.mem_append_left _ ht', hwinner⟩
  by_cases hends : tr.Answers (.endSession r.value) ()
  · exact .inl ⟨tr, by simp,
      h.mem_of_ends hredeemable hledger hsound hcourse.remain htr hr hends, hends⟩
  refine .inr ⟨?_, fun i hi => ?_⟩
  · rw [hstore]
    exact h.mem_sessions hredeemable hledger hsound hcourse.remain htr hr hends
  · rw [← List.append_assoc]
    by_cases hprogram : tr.program = i
    · subst hprogram
      rw [stepsOf_concat_self]
      exact h.not_discouraged hsound htr hr hi (hsteps _ hi)
    · rw [stepsOf_concat_of_ne hprogram]
      exact hsteps i hi

/-- **How a contest ends**: of the calls one succeeds, and the others
fail. -/
theorem Course.outcome (hcourse : s.Course l₁ l store access r group q)
    (h : s.Contest requests l₁ l store token r group) (hsound : s.Sound requests (l₁ ++ l) q)
    (hgroup : group ≠ []) (hdone : ∀ i ∈ group, ∃ x, q.programs[i]? = some (.done x)) :
    ∃ i ∈ group, (∃ p, q.programs[i]? = some (.done (.ok (.pair p)))) ∧
      ∀ j ∈ group, j ≠ i → q.programs[j]? = some (.done (.error (.reported .invalidToken))) := by
  have hredeemed (i) (hi : i ∈ group) : ∃ x, q.programs[i]? = some (.done x) ∧
      Redeemed (stepsOf i (l₁ ++ l)) r.accountId r.value x := by
    obtain ⟨x, hx⟩ := hdone i hi
    obtain ⟨prog, hprog, hmeets⟩ := hcourse.redeemed i hi
    obtain rfl := Option.some.inj (hx.symm.trans hprog)
    exact ⟨x, hx, hmeets⟩
  rcases hcourse.undecided with ⟨t, ht, hi, hends⟩ | ⟨hr, hsteps⟩
  · -- the one that ended the session succeeds, and no other has ended it
    have hmem : t ∈ l₁ ++ l := List.mem_append_right _ ht
    refine ⟨t.program, hi, ?_, fun j hj hne => ?_⟩
    · obtain ⟨x, hx, hx'⟩ := hredeemed t.program hi
      match x, hx' with
      | .ok _, ⟨⟨p, rfl⟩, _⟩ => exact ⟨p, hx⟩
      | .error e, ⟨_, hnot, _⟩ => exact absurd (got_stepsOf.2 ⟨t, hmem, rfl, hends⟩) hnot
    · obtain ⟨x, hx, hx'⟩ := hredeemed j hj
      match x, hx' with
      | .ok _, ⟨_, hgot⟩ =>
        obtain ⟨t', ht', rfl, hends'⟩ := got_stepsOf.1 hgot
        exact absurd ((hsound.settled h.orderly).once t' ht' t hmem r.value hends' hends) hne
      | .error e, ⟨he, _⟩ => rw [hx, he]
  · -- no call can be done yet: it would have ended the session, or been told
    obtain ⟨i, hi⟩ := List.exists_mem_of_ne_nil group hgroup
    obtain ⟨x, hx, hx'⟩ := hredeemed i hi
    match x, hx' with
    | .ok _, ⟨_, hgot⟩ =>
      obtain ⟨t', ht', -, hends⟩ := got_stepsOf.1 hgot
      exact absurd hends (h.unended hsound hr t' ht')
    | .error e, ⟨_, _, hdiscouraged⟩ => exact absurd hdiscouraged (hsteps i hi)

/-- The course of a contest at its beginning. -/
theorem course_start (hredeemable : s.Redeemable (q.world.store) token access r)
    (h : s.Contest requests l₁ [] q.world.store token r group)
    (hprograms : ∀ i ∈ group, ∀ ctx, requests[i]? = some ⟨ctx, .refresh token⟩ →
      q.programs[i]? = some (s.perform ctx (.refresh token)).run) :
    s.Course l₁ [] q.world.store access r group q := by
  have hsteps (i) (hi : i ∈ group) : stepsOf i (l₁ ++ []) = [] := by
    rw [List.append_nil]
    exact stepsOf_eq_nil fun t ht heq => h.unbegun t ht (heq ▸ hi)
  refine ⟨.refl _, fun i hi => ?_, .inr ⟨hredeemable.mem, fun i hi => ?_⟩⟩
  · obtain ⟨ctx, hcall⟩ := h.calls i hi
    refine ⟨_, hprograms i hi ctx hcall, ?_⟩
    rw [hsteps i hi]
    exact refresh_redeems hredeemable.decodes hredeemable.redeems ctx
  · rw [hsteps i hi]
    simp [Discouraged, Got]

/-! ## The theorem -/

/-- A call that redeems a token has succeeded. -/
def Renewed (requests : List Request) (q : Pool (Except (Failure ServiceError) Answer))
    (token : String) (i : Nat) : Prop :=
  (∃ ctx, requests[i]? = some ⟨ctx, .refresh token⟩) ∧ ∃ a, q.programs[i]? = some (.done (.ok a))

/-- **Refresh tokens are good for one use.** Operations are started on a
store without rows, and take their steps in any order; queries may meet
faults, the clock does not go back, and no identifier is drawn twice. Then
of the calls that redeem one token at most one succeeds. And if some of
them, not begun when the token can be redeemed, are the only operations
about its account from then on, meet no faults, and are done before it
expires, at times from which new tokens expire within the 64-bit numbers,
then one of them succeeds, and the others fail with `invalidToken`. A call
is done after nine turns. -/
theorem refresh_single_use (s : Service) (w : World) (hw : w.store = .empty)
    (requests : List Request) (turns : List Turn)
    (horderly : Orderly ((s.start w requests).trace turns)) (token : String) :
    (∀ i j, Renewed requests ((s.start w requests).run turns) token i →
      Renewed requests ((s.start w requests).run turns) token j → i = j) ∧
    ∀ before during, turns = before ++ during → ∀ access r group, group ≠ [] →
      s.Redeemable ((s.start w requests).run before).world.store token access r →
      s.Contest requests ((s.start w requests).trace before)
        (((s.start w requests).run before).trace during)
        ((s.start w requests).run before).world.store token r group →
      (∀ i ∈ group, 9 ≤ during.countP (fun t => t.program = i) →
        ∃ x, ((s.start w requests).run turns).programs[i]? = some (.done x)) ∧
      ((∀ i ∈ group, ∃ x, ((s.start w requests).run turns).programs[i]? = some (.done x)) →
        ∃ i ∈ group,
          (∃ p, ((s.start w requests).run turns).programs[i]? = some (.done (.ok (.pair p)))) ∧
          ∀ j ∈ group, j ≠ i →
            ((s.start w requests).run turns).programs[j]? =
              some (.done (.error (.reported .invalidToken)))) := by
  refine ⟨?_, ?_⟩
  · have hsound := s.sound_run hw requests turns
    rintro i j ⟨⟨ctx, hcall⟩, a, hdone⟩ ⟨⟨ctx', hcall'⟩, a', hdone'⟩
    obtain ⟨v, hv, t, ht, rfl, hends⟩ := hsound.conduct.ended_of_refreshed hcall hdone
    obtain ⟨v', hv', t', ht', rfl, hends'⟩ := hsound.conduct.ended_of_refreshed hcall' hdone'
    obtain rfl := Except.ok.inj (hv.symm.trans hv')
    exact (hsound.settled horderly).once t ht t' ht' v hends hends'
  · rintro before during rfl access r group hgroup hredeemable hcontest
    have hbefore := s.sound_run hw requests before
    have hprograms (i) (hi : i ∈ group) (ctx) (hcall : requests[i]? = some ⟨ctx, .refresh token⟩) :
        ((s.start w requests).run before).programs[i]? =
          some (s.perform ctx (.refresh token)).run := by
      rw [Pool.getElem?_run_of_notMem before fun t ht heq => hcontest.unbegun t ht (heq ▸ hi)]
      simp [start, hcall]
    rw [Pool.run_append]
    refine ⟨fun i hi hcount => ?_, fun hdone => ?_⟩
    · obtain ⟨ctx, hcall⟩ := hcontest.calls i hi
      exact Pool.done_of_countdown during (hprograms i hi ctx hcall)
        (s.refresh_countdown ctx token) hcount
    -- what is kept along the contest, for as long as it is one
    have hcourse := Pool.run_induction (p := (s.start w requests).run before)
      (I := fun l q => s.Sound requests ((s.start w requests).trace before ++ l) q ∧
        (s.Contest requests ((s.start w requests).trace before) l
          ((s.start w requests).run before).world.store token r group →
          s.Course ((s.start w requests).trace before) l
            ((s.start w requests).run before).world.store access r group q))
      ⟨by rwa [List.append_nil], fun h => course_start hredeemable h hprograms⟩
      (fun l q t tr hI htr => ⟨by rw [← List.append_assoc]; exact hI.1.step htr, fun h =>
        (hI.2 h.of_concat).step h hredeemable hbefore.ledger hI.1 htr⟩) during
    exact (hcourse.2 hcontest).outcome hcontest hcourse.1 hgroup hdone

/-- The token of a live session can be redeemed. -/
theorem Consistent.exists_redeemable {σ : Scene} {now : Int} (h : s.Consistent now σ)
    (hlive : LiveToken σ.store now token) :
    ∃ access r, s.Redeemable σ.store token access r ∧ now < r.ttl := by
  obtain ⟨r, hr, hdecodes, hlt⟩ := hlive
  obtain ⟨access, c, hc, hvalue, hu, -⟩ := h.issued r hr
  exact ⟨access, r, ⟨hr, hdecodes, ⟨c, hc, hvalue⟩, hu⟩, hlt⟩

/-- **A contest can take place**: any number of calls redeem the token of
a live session, one after another. -/
theorem Sequential.exists_contest {es : List Errand} {now : Int} (h : s.Sequential w es)
    (hnow : ∀ e ∈ es, e.time = now) (hj : s.issuer.Ready now) (hw : w.store = .empty)
    (hfits : Fits64 (s.after w es).store.lastAccountId)
    (hlive : LiveToken (s.after w es).store now token) (n : Nat) :
    ∃ requests before during access r,
      Orderly ((s.start w requests).trace (before ++ during)) ∧
      s.Redeemable ((s.start w requests).run before).world.store token access r ∧
      s.Contest requests ((s.start w requests).trace before)
        (((s.start w requests).run before).trace during)
        ((s.start w requests).run before).world.store token r (List.range' es.length n) ∧
      ∀ i ∈ List.range' es.length n,
        ∃ x, ((s.start w requests).run (before ++ during)).programs[i]? = some (.done x) := by
  obtain ⟨later, hrequests, htime, hlater⟩ :=
    h.exists_append hnow hj (List.replicate n (.refresh token))
  have hlength : later.length = n := by
    have := congrArg List.length hrequests
    simpa using this
  let requests := (es ++ later).map Errand.request
  have hprefix : es.map Errand.request <+: requests := by simp [requests]
  obtain ⟨before, hbefore⟩ := h.exists_inTurn hprefix
  obtain ⟨during, hduring, hsteps⟩ := hbefore.exists_append hlater (List.prefix_refl _)
  have horderly := hduring.orderly hlater
  have hgroup {i : Nat} : i ∈ List.range' es.length n ↔
      es.length ≤ i ∧ i < (es ++ later).length := by
    rw [List.mem_range'_1, List.length_append, hlength]
  have hconsistent := (h.holds_iff hw hfits fun e he => Int.le_of_eq (hnow e he)).1
  obtain ⟨access, r, hredeemable, hlt⟩ := hconsistent.exists_redeemable hlive
  refine ⟨requests, before, during, access, r, horderly, by rwa [hbefore.world],
    ⟨?_, ?_, ?_, ?_, ?_, ?_, ?_⟩, ?_⟩
  · rwa [← Pool.trace_append]
  · intro i hi
    obtain ⟨hle, hlast⟩ := hgroup.1 hi
    rw [List.length_append, hlength] at hlast
    refine ⟨unhurried, ?_⟩
    show ((es ++ later).map Errand.request)[i]? = _
    rw [List.map_append, hrequests, List.map_replicate,
      List.getElem?_append_right (by simpa using hle), List.getElem?_replicate, List.length_map,
      if_pos (by omega)]
  · intro t ht hmem
    have := (hbefore.calm t ht).1
    have := (hgroup.1 hmem).1
    omega
  · intro t ht
    rw [← Pool.trace_append] at ht
    obtain ⟨-, e, he, hcalm⟩ := hduring.calm t ht
    rcases List.mem_append.1 he with he | he
    · rwa [hcalm.time, hnow e he]
    · rwa [hcalm.time, htime e he]
  · intro t ht _
    obtain ⟨-, -, e, he, hcalm⟩ := hsteps t ht
    rw [hcalm.time, htime e he]
    exact hj.pairFits
  · intro t ht _
    obtain ⟨-, -, e, -, hcalm⟩ := hsteps t ht
    exact hcalm.faultless
  · intro t ht hmem
    obtain ⟨hle, hlt, -⟩ := hsteps t ht
    exact absurd (hgroup.2 ⟨hle, hlt⟩) hmem
  · intro i hi
    have hlast := (hgroup.1 hi).2
    rw [← s.length_history w] at hlast
    exact ⟨_, hduring.done i _ (List.getElem?_eq_getElem hlast)⟩

/-- Two calls that compete for the token of a session: one of them has
it. -/
theorem refresh_single_use_plain : ∃ requests turns token, ∃ n : Nat,
    (∀ i ∈ [n, n + 1], ∃ ctx, requests[i]? = some ⟨ctx, .refresh token⟩) ∧
    ∃ i ∈ [n, n + 1],
      (∃ p, ((plain.start {} requests).run turns).programs[i]? = some (.done (.ok (.pair p)))) ∧
      ∀ j ∈ [n, n + 1], j ≠ i →
        ((plain.start {} requests).run turns).programs[j]? =
          some (.done (.error (.reported .invalidToken))) := by
  obtain ⟨es, token, hes, hnow, hfits, hlive⟩ := exists_session_plain
  obtain ⟨requests, before, during, access, r, horderly, hredeemable, hcontest, hdone⟩ :=
    hes.exists_contest hnow ready_plain rfl hfits hlive 2
  refine ⟨requests, before ++ during, token, es.length, hcontest.calls, ?_⟩
  have huse := refresh_single_use plain {} rfl requests (before ++ during) horderly token
  exact (huse.2 before during rfl access r _ (List.cons_ne_nil _ _) hredeemable hcontest).2 hdone

end Service

end SignOn
