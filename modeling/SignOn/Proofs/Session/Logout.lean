import SignOn.Proofs.Account.Conduct
import SignOn.Proofs.Session.Race
/-!
# Logouts

A logout is told of a live session and ends it in a step of its own, like
a login. Unlike a login it does not mind that the session is gone by then:
whatever happens in between, it succeeds, and the session that it found is
not live any more.

A logout that has all its turns at once leaves its account without a live
session. From then on no refresh token can be redeemed that a session of
the account was opened with before: its session has ended, sessions that
have ended stay so, and no token is used for a second session. All this is
`Service.logout_ends_session`.
-/

namespace SignOn

/-! ## Sessions that have ended stay so -/

/-- **What is not live stays so along a chain** of later steps that open
sessions with other tokens. -/
theorem Leads.dead {w w' : World} {l : List Transition} (h : Leads w l w') {since : Int}
    {gone : List String} (hdead : w.store.Dead since gone) (hlater : ∀ t ∈ l, since ≤ t.time)
    (hnew : ∀ t ∈ l, ∀ v ∈ gone, ¬ t.Offers v) : w'.store.Dead since gone := by
  refine h.keeps (I := fun v => v.store.Dead since gone) hdead fun t ht hv => ?_
  rcases t.store_cases with ⟨hsame, -⟩ | ⟨q, x, hanswers, hrun⟩
  · rwa [hsame]
  · refine hv.run_later (hlater t ht) hrun fun u v ttl hq hmem => ?_
    subst hq
    exact hnew t ht v hmem hanswers.offers

namespace Transition

variable {t : Transition} {ctx : RequestContext} {q : Query} {v : String}

/-- A query that fails changes nothing. -/
theorem unchanged_of_error {e : StoreError} (hstep : t.step = ⟨.query ctx q, .error e⟩) :
    t.after.store = t.before.store ∧ t.after.outbox = t.before.outbox := by
  have heffect : t.effect = .query ctx q := congrArg Step.effect hstep
  constructor
  · rcases t.store_cases with ⟨hsame, -⟩ | ⟨q', x, ⟨ctx', hstep'⟩, -⟩
    · exact hsame
    · cases hstep.symm.trans hstep'
  · rcases t.outbox_cases with hsame | ⟨ctx', p, hpublish, -⟩
    · exact hsame
    · cases heffect.symm.trans hpublish

/-- A lookup changes nothing. -/
theorem store_of_liveSession {u : Int} {x : Except StoreError Session}
    (hstep : t.step = ⟨.query ctx (.liveSession u), x⟩) : t.after.store = t.before.store := by
  cases x with
  | error e => exact (unchanged_of_error hstep).1
  | ok r => exact (Store.unchanged_eq_ok_iff.1 (run_of_answers ⟨ctx, hstep⟩)).2

/-- Whoever looks at the clock changes nothing. -/
theorem after_of_clock {m : Moment} (hstep : t.step = ⟨.clock, m⟩) : t.after = t.before := by
  have heffect : t.effect = .clock := congrArg Step.effect hstep
  exact after_of_inward (by rw [heffect]; trivial)

/-- **Whoever asks for the end of a session leaves it ended**, in time or
too late. -/
theorem Faultless.dead_of_endSession (h : t.Faultless) {x : Except StoreError Unit}
    (hstep : t.step = ⟨.query ctx (.endSession v), x⟩) : t.after.store.Dead t.time [v] := by
  intro r hr hv
  have hv := List.mem_singleton.1 hv
  cases x with
  | error e =>
    rw [(unchanged_of_error hstep).1] at hr
    exact (h.endsTooLate hstep).2.2 r hr hv
  | ok _ => exact Service.ttl_le_of_ends ⟨ctx, hstep⟩ r hr hv

end Transition

/-- What a step of a logout gets: the token admits the account, and a
query fails only for want of a session. -/
structure Step.Admits (s : Service) (token : String) (u : Int) (x : Step) : Prop where
  clock : ∀ m, x = ⟨.clock, m⟩ → s.issuer.parseAccess m.seconds token = some u
  liveSession : ∀ ctx u e, x = ⟨.query ctx (.liveSession u), .error e⟩ → ∃ what, e = .notFound what
  endSession : ∀ ctx v e, x = ⟨.query ctx (.endSession v), .error e⟩ → ∃ what, e = .notFound what

/-- What a step gets of a call that redeems a token whose session is not
live any more: a lookup fails only for want of a session, and the session
is not ended again. -/
structure Step.Bars (v : String) (x : Step) : Prop where
  liveSession : ∀ ctx u e, x = ⟨.query ctx (.liveSession u), .error e⟩ → ∃ what, e = .notFound what
  endSession : ∀ ctx, x ≠ ⟨.query ctx (.endSession v), .ok ()⟩

/-- What a logout has done: it found no session, or it asked for the end
of the one that it found. -/
inductive LoggedOut (u : Int) : List Step → Prop
  | none (ctx : RequestContext) (m : Moment) (e : StoreError) :
      LoggedOut u [⟨.clock, m⟩, ⟨.query ctx (.liveSession u), .error e⟩]
  | found (ctx : RequestContext) (m : Moment) (r : Session) (x : Except StoreError Unit) :
      LoggedOut u [⟨.clock, m⟩, ⟨.query ctx (.liveSession u), .ok r⟩,
        ⟨.query ctx (.endSession r.value), x⟩]

/-- Whoever found a session asked for its end. -/
theorem LoggedOut.of_found {u u' : Int} {h : List Step} {r : Session} (hh : LoggedOut u h)
    (hfound : Got h (.liveSession u') (.ok r)) :
    ∃ ctx m x, h = [⟨.clock, m⟩, ⟨.query ctx (.liveSession u), .ok r⟩,
      ⟨.query ctx (.endSession r.value), x⟩] := by
  obtain ⟨ctx', hmem⟩ := hfound
  cases hh with
  | none ctx m e => simp at hmem
  | found ctx m r' x =>
    rcases List.mem_cons.1 hmem with hclock | hmem
    · cases hclock
    rcases List.mem_cons.1 hmem with hlive | hmem
    · cases hlive
      exact ⟨ctx', m, x, rfl⟩
    · cases List.mem_singleton.1 hmem

namespace Service

open Procedure

variable {s : Service} {w w' : World} {requests : List Request} {l l₁ l₂ : List Transition}
variable {turns : List Turn} {t : Transition} {ctx : RequestContext} {token : String}
variable {u : Int} {v : String} {i : Nat}

/-! ## Step by step -/

/-- **A logout succeeds**, whether or not it finds a session, and whether
or not it is in time to end it. -/
theorem logout_admitted (s : Service) (ctx : RequestContext) (token : String) (u : Int) :
    (s.perform ctx (.logout token)).run.Meets
      (.history (fun _ _ => True) fun e r => Step.Admits s token u ⟨e, r⟩)
      (fun h x => x = .ok .done ∧ LoggedOut u h) [] := by
  have hlogout : Meets (.history (fun _ _ => True) fun e r => Step.Admits s token u ⟨e, r⟩)
      (fun h _ => LoggedOut u h) (fun _ _ => False) (s.logout ctx token) [] := by
    refine meets_bind.2 (meets_bind.2 (meets_history_now trivial fun m hm => ?_))
    rw [hm.clock m rfl]
    refine meets_recover.2 (meets_bind.2 (meets_history_step trivial fun found hfound => ?_))
    match found with
    | .error e =>
      obtain ⟨what, rfl⟩ := hfound.liveSession _ _ _ rfl
      exact .none ctx m _
    | .ok r =>
      refine meets_history_ask trivial (fun x _ => .found ctx m r (.ok x)) fun e he => ?_
      obtain ⟨what, rfl⟩ := he.endSession _ _ _ rfl
      exact .found ctx m r (.error _)
  have hperform : Meets (.history (fun _ _ => True) fun e r => Step.Admits s token u ⟨e, r⟩)
      (fun h a => a = .done ∧ LoggedOut u h) (fun _ _ => False)
      (s.perform ctx (.logout token)) [] :=
    meets_map.2 (hlogout.mono (fun _ _ hh => ⟨rfl, hh⟩) fun _ _ he => he)
  refine Program.Meets.mono hperform.run_ok fun h x hx => ?_
  obtain ⟨a, rfl, rfl, hh⟩ := hx
  exact ⟨rfl, hh⟩

/-- **A logout is over after three steps.** -/
theorem logout_countdown (s : Service) (ctx : RequestContext) (token : String) :
    (s.perform ctx (.logout token)).run.Meets .countdown (fun _ _ => True) 3 := by
  have hlogout : Meets .countdown (fun _ _ => True) (fun _ _ => True) (s.logout ctx token) 3 := by
    refine meets_bind.2 ((takes_now.bind fun _ => takes_expect _ _) 3 (by omega) |>.mono
      (fun n id hn => ?_) fun _ _ _ => trivial)
    refine meets_recover.2 ((takes_endLiveSession ctx id n (by omega)).mono (fun _ _ _ => trivial)
      fun n e _ => ?_)
    cases e with
    | reported err => cases err <;> trivial
    | aborted => trivial
  have hperform : Meets .countdown (fun _ _ => True) (fun _ _ => True)
      (s.perform ctx (.logout token)) 3 := meets_map.2 hlogout
  exact Program.Meets.mono hperform fun _ _ _ => trivial

/-- **A token whose session is not live is refused**, as an invalid one. -/
theorem refresh_barred (hdecode : Wrapped.decodeString token = .ok v) (ctx : RequestContext) :
    (s.perform ctx (.refresh token)).run.Meets
      (.history (fun _ _ => True) fun e r => Step.Bars v ⟨e, r⟩)
      (fun _ x => x = .error (.reported .invalidToken)) [] := by
  have hrefresh : Meets (.history (fun _ _ => True) fun e r => Step.Bars v ⟨e, r⟩)
      (fun _ _ => False) (fun _ e => e = .reported .invalidToken) (s.refresh ctx token) [] := by
    refine meets_bind.2 (meets_ofExcept.2 ⟨fun t ht => ?_, fun _ _ => rfl⟩)
    obtain rfl := Except.ok.inj (hdecode.symm.trans ht)
    refine meets_bind.2 (meets_history_now trivial fun m₁ _ => ?_)
    refine meets_bind.2 (meets_expect.2 ⟨fun access haccess => ?_, fun _ => rfl⟩)
    refine meets_bind.2 (meets_expect.2 ⟨fun id _ => ?_, fun _ => rfl⟩)
    refine meets_bind.2 (meets_history_ask trivial (fun r _ => ?_) fun e he => ?_)
    · refine meets_bind.2 (meets_require.2 ⟨fun hvalue => ?_, fun _ => rfl⟩)
      obtain rfl := beq_iff_eq.1 hvalue
      refine meets_bind.2 (meets_history_now trivial fun m₂ _ => ?_)
      refine meets_bind.2 (meets_expect.2 ⟨fun stored hstored => ?_, fun _ => rfl⟩)
      refine meets_bind.2 (meets_require.2 ⟨fun _ => ?_, fun hne => ?_⟩)
      · refine meets_bind.2 (meets_history_ask trivial (fun _ hended => ?_) fun _ _ => rfl)
        exact absurd rfl (hended.endSession ctx)
      · -- the token carries one access token, at whatever time it is read
        obtain ⟨c, hc, -, hvalue⟩ := TokenIssuer.parseRefresh_eq_some_iff.1 haccess
        obtain ⟨c', hc', -, hvalue'⟩ := TokenIssuer.parseRefresh_eq_some_iff.1 hstored
        obtain rfl := Option.some.inj (hc.symm.trans hc')
        rw [hvalue] at hvalue'
        cases hvalue'
        simp at hne
    · obtain ⟨what, rfl⟩ := he.liveSession _ _ _ rfl
      rfl
  have hperform : Meets (.history (fun _ _ => True) fun e r => Step.Bars v ⟨e, r⟩)
      (fun _ _ => False) (fun _ e => e = .reported .invalidToken)
      (s.perform ctx (.refresh token)) [] :=
    meets_map.2 hrefresh
  refine Program.Meets.mono hperform.run_error fun h x hx => ?_
  obtain ⟨e, rfl, rfl⟩ := hx
  rfl

/-! ## Along a run -/

/-- A session that was found was opened before, with its token. -/
theorem exists_offers_of_found (hw : w.store = .empty)
    (htrace : (s.start w requests).trace turns = l₁ ++ t :: l₂) {r : Session}
    (hfound : t.Answers (.liveSession u) r) : ∃ t₀ ∈ l₁, t₀.Offers r.value := by
  obtain ⟨turns₁, turn, -, rfl, htr⟩ := Pool.exists_turn_of_trace_eq htrace
  obtain ⟨-, -, hbefore, -⟩ := Pool.advance_of_transition? htr
  have hrun := Transition.run_of_answers hfound
  rw [hbefore] at hrun
  obtain ⟨hr, -, -⟩ := Store.mem_of_liveSession (Store.unchanged_eq_ok_iff.1 hrun).1
  obtain ⟨-, t₀, ht₀, exp, id, access, hopens, -⟩ :=
    (s.sound_run hw requests turns₁).ledger.rows r hr
  exact ⟨t₀, ht₀, hopens.offers⟩

/-- A session with the token of another that was opened before is for the
account of that. -/
theorem Sound.accountId_eq {q : Pool (Except (Failure ServiceError) Answer)}
    (h : s.Sound requests l q) (ht : t ∈ l) {ttl id : Int} (hopens : t.Answers (.openSession u v ttl) id) {r : Session}
    (hr : r ∈ q.world.store.sessions) (hv : r.value = v) : r.accountId = u := by
  obtain ⟨-, t', -, exp, -, access, -, ⟨jti, -, hpairs⟩, -⟩ := h.ledger.rows r hr
  obtain ⟨ctx, hstep⟩ := hopens
  obtain ⟨access', jti', -, hpairs'⟩ :=
    h.conduct.opens t ht ctx u v ttl (congrArg Step.effect hstep)
  rw [hv] at hpairs
  exact account_eq_of_pairs hpairs hpairs'

/-- A program of a run that is a logout from an account: its token admits
the account whenever it looks, and its queries meet no faults. -/
structure LogsOut (s : Service) (requests : List Request) (l : List Transition) (i : Nat)
    (u : Int) : Prop where
  call : ∃ ctx token, requests[i]? = some ⟨ctx, .logout token⟩ ∧
    ∀ t ∈ l, t.program = i → t.effect = .clock → s.issuer.parseAccess t.time token = some u
  faultless : ∀ t ∈ l, t.program = i → t.Faultless

theorem LogsOut.mono {l' : List Transition} (h : s.LogsOut requests l i u) (hsub : l' ⊆ l) :
    s.LogsOut requests l' i u := by
  obtain ⟨ctx, token, hrequest, hadmits⟩ := h.call
  exact ⟨⟨ctx, token, hrequest, fun t ht => hadmits t (hsub ht)⟩,
    fun t ht => h.faultless t (hsub ht)⟩

/-- A logout goes the way of a logout. -/
theorem LogsOut.outcome (h : s.LogsOut requests ((s.start w requests).trace turns) i u)
    {x : Except (Failure ServiceError) Answer}
    (hdone : ((s.start w requests).run turns).programs[i]? = some (.done x)) :
    x = .ok .done ∧ LoggedOut u (stepsOf i ((s.start w requests).trace turns)) := by
  obtain ⟨ctx, token, hrequest, hadmits⟩ := h.call
  have hgets : ∀ t ∈ (s.start w requests).trace turns, t.program = i →
      Step.Admits s token u t.step := by
    refine fun t ht hi => ⟨fun m hstep => ?_, fun ctx u e hstep => ?_, fun ctx v e hstep => ?_⟩
    · rw [Transition.seconds_eq_time hstep]
      exact hadmits t ht hi (congrArg Step.effect hstep)
    · exact ⟨_, (exists_notFound_of_liveSession (h.faultless t ht hi) hstep).1⟩
    · exact ⟨_, ((h.faultless t ht hi).endsTooLate hstep).1⟩
  obtain ⟨prog, hprog, hmeets⟩ := Pool.meets_run_of_relies (l := []) turns
    (s.start_getElem? w hrequest) (s.logout_admitted ctx token u) hgets
  obtain rfl := Option.some.inj (hprog.symm.trans hdone)
  exact hmeets

/-- It is over after three turns. -/
theorem LogsOut.done (h : s.LogsOut requests l i u)
    (hcount : 3 ≤ turns.countP fun t => t.program = i) :
    ∃ x, ((s.start w requests).run turns).programs[i]? = some (.done x) := by
  obtain ⟨ctx, token, hrequest, -⟩ := h.call
  exact Pool.done_of_countdown turns (s.start_getElem? w hrequest) (s.logout_countdown ctx token)
    hcount

/-- **The session that a logout has found is over** when the logout is,
and it stays so. -/
theorem LogsOut.ended (h : s.LogsOut requests ((s.start w requests).trace turns) i u)
    (hw : w.store = .empty) (horderly : Orderly ((s.start w requests).trace turns))
    (hlogged : LoggedOut u (stepsOf i ((s.start w requests).trace turns)))
    (ht : t ∈ (s.start w requests).trace turns) (hi : t.program = i) {u' : Int} {r : Session}
    (hfound : t.Answers (.liveSession u') r) {now : Int}
    (hnow : ∀ t ∈ (s.start w requests).trace turns, t.program = i → t.time ≤ now) :
    ((s.start w requests).run turns).world.store.Dead now [r.value] := by
  obtain ⟨ctx, m, x, hsteps⟩ := hlogged.of_found (got_stepsOf.2 ⟨t, ht, hi, hfound⟩)
  -- the two queries, one after the other
  obtain ⟨l₁, found, l₂, htrace, -, hfound, -, hsteps⟩ :=
    exists_of_stepsOf_eq (h := [⟨.clock, m⟩]) hsteps
  obtain ⟨k₁, ends, k₂, rfl, hi', hends, -, -⟩ := exists_of_stepsOf_eq (h := []) hsteps
  have hmem : ends ∈ (s.start w requests).trace turns := by simp [htrace]
  obtain ⟨t₀, ht₀, hoffers⟩ := exists_offers_of_found hw htrace ⟨ctx, hfound⟩
  -- and what comes after them
  have htrace' : (s.start w requests).trace turns = (l₁ ++ found :: k₁) ++ ends :: k₂ := by
    simp [htrace]
  have hleads := (Pool.leads_trace (s.start w requests) turns)
  rw [htrace'] at hleads
  have hforward := horderly.forward
  rw [htrace', ClockForward, List.pairwise_append] at hforward
  have hdead := hleads.split.2.dead ((h.faultless ends hmem hi').dead_of_endSession hends)
    (List.pairwise_cons.1 hforward.2.1).1 fun t ht v hv => by
      rw [List.mem_singleton.1 hv]
      exact not_offered_later hw horderly.fresh htrace' (List.mem_append_left _ ht₀) hoffers t
        (List.mem_cons_of_mem _ ht)
  exact hdead.mono (hnow ends hmem hi')

/-! ## A logout by itself -/

/-- Steps in which a program has all turns, from its first step on. -/
structure HasAllTurns (l₁ l₂ : List Transition) (i : Nat) : Prop where
  unbegun : ∀ t ∈ l₁, t.program ≠ i
  alone : ∀ t ∈ l₂, t.program = i

/-- What it knows are these steps. -/
theorem HasAllTurns.stepsOf_eq (h : HasAllTurns l₁ l₂ i) :
    stepsOf i (l₁ ++ l₂) = l₂.map Transition.step := by
  rw [stepsOf_append, stepsOf_eq_nil h.unbegun, stepsOf_eq_map h.alone, List.nil_append]

/-- **What a logout does by itself**: it finds no live session and changes
nothing, or it finds one, and its last step asks for the end of that. -/
theorem loggedOut_alone (hlogged : LoggedOut u (l.map Transition.step)) (hleads : Leads w l w')
    (hfaultless : ∀ t ∈ l, t.Faultless) :
    (w'.store = w.store ∧ w'.outbox = w.outbox ∧
      ∃ t ∈ l, ∀ r ∈ w.store.sessions, r.accountId = u → r.ttl ≤ t.time) ∨
    ∃ t ∈ l, ∃ t' ∈ l, ∃ ctx, ∃ x : Except StoreError Unit, ∃ r ∈ w.store.sessions,
      r.accountId = u ∧ t.time < r.ttl ∧ t'.step = ⟨.query ctx (.endSession r.value), x⟩ ∧
      t'.before.store = w.store ∧ w' = t'.after := by
  generalize hsteps : l.map Transition.step = h at hlogged
  cases hlogged with
  | none ctx m e =>
    obtain ⟨t₁, l, rfl, hclock, hsteps⟩ := List.map_eq_cons_iff.1 hsteps
    obtain ⟨t₂, rfl, hlive⟩ := List.map_eq_singleton_iff.1 hsteps
    obtain ⟨rfl, hbefore, rfl⟩ := hleads
    have hsame : t₂.before = t₁.before := hbefore.trans (Transition.after_of_clock hclock)
    obtain ⟨-, hover⟩ := exists_notFound_of_liveSession (hfaultless t₂ (by simp)) hlive
    obtain ⟨hstore, houtbox⟩ := Transition.unchanged_of_error hlive
    rw [hsame] at hover hstore houtbox
    exact .inl ⟨hstore, houtbox, t₂, by simp, hover⟩
  | found ctx m r x =>
    obtain ⟨t₁, l, rfl, hclock, hsteps⟩ := List.map_eq_cons_iff.1 hsteps
    obtain ⟨t₂, l, rfl, hlive, hsteps⟩ := List.map_eq_cons_iff.1 hsteps
    obtain ⟨t₃, rfl, hends⟩ := List.map_eq_singleton_iff.1 hsteps
    obtain ⟨rfl, hbefore₂, hbefore₃, rfl⟩ := hleads
    have hsame₂ : t₂.before = t₁.before := hbefore₂.trans (Transition.after_of_clock hclock)
    have hsame₃ : t₃.before.store = t₁.before.store := by
      rw [hbefore₃, Transition.store_of_liveSession hlive, hsame₂]
    have hfound := (Store.unchanged_eq_ok_iff.1 (Transition.run_of_answers ⟨ctx, hlive⟩)).1
    rw [hsame₂] at hfound
    obtain ⟨hr, hu, hlt⟩ := Store.mem_of_liveSession hfound
    exact .inr ⟨t₂, by simp, t₃, by simp, ctx, x, r, hr, hu, hlt, hends, hsame₃, rfl⟩

/-- **A logout by itself leaves its account without a live session.** -/
theorem ttl_le_of_loggedOut_alone (hlogged : LoggedOut u (l.map Transition.step))
    (hleads : Leads w l w') (hfaultless : ∀ t ∈ l, t.Faultless)
    (hone : ∀ t ∈ l, w.store.OneLive t.time) {now : Int} (hnow : ∀ t ∈ l, t.time ≤ now) :
    ∀ r ∈ w'.store.sessions, r.accountId = u → r.ttl ≤ now := by
  intro r' hr' hu'
  rcases loggedOut_alone hlogged hleads hfaultless with
    ⟨hstore, -, t, ht, hover⟩ | ⟨t, ht, t', ht', ctx, x, r, hr, hu, hlt, hends, hbefore, rfl⟩
  · rw [hstore] at hr'
    exact Int.le_trans (hover r' hr' hu') (hnow t ht)
  by_cases hv : r'.value = r.value
  · have hdead := (hfaultless t' ht').dead_of_endSession hends
    exact Int.le_trans (hdead r' hr' (List.mem_singleton.2 hv)) (hnow t' ht')
  -- any other session of the account was over when this one was found
  have hold (hr' : r' ∈ w.store.sessions) : r'.ttl ≤ now := by
    by_contra hle
    have htime := hnow t ht
    have heq := hone t ht r' hr' r hr (by omega) hlt (hu'.trans hu.symm)
    exact hv (congrArg Session.value heq)
  rcases t'.store_cases with ⟨hsame, -⟩ | ⟨q, y, ⟨ctx', hstep⟩, hrun⟩
  · rw [hsame, hbefore] at hr'
    exact hold hr'
  · cases hends.symm.trans hstep
    rcases Store.mem_sessions_of_run hrun hr' with hr' | ⟨r₀, -, -, -, rfl⟩ | hopens
    · rw [hbefore] at hr'
      exact hold hr'
    · have htime := hnow t' ht'
      show t'.time - 1 ≤ now
      omega
    · cases hopens

/-- Where an account has no live session a logout by itself changes
nothing. -/
theorem unchanged_of_loggedOut_alone (hlogged : LoggedOut u (l.map Transition.step))
    (hleads : Leads w l w') (hfaultless : ∀ t ∈ l, t.Faultless)
    (hover : ∀ t ∈ l, ∀ r ∈ w.store.sessions, r.accountId = u → r.ttl ≤ t.time) :
    w'.store = w.store ∧ w'.outbox = w.outbox := by
  rcases loggedOut_alone hlogged hleads hfaultless with
    ⟨hstore, houtbox, -⟩ | ⟨t, ht, -, -, -, -, r, hr, hu, hlt, -⟩
  · exact ⟨hstore, houtbox⟩
  · have := hover t ht r hr hu
    omega

/-- No session of an account is live after some steps. -/
def NoneLive (l : List Transition) (store : Store) (u : Int) : Prop :=
  ∀ now, (∀ t ∈ l, t.time ≤ now) → ∀ r ∈ store.sessions, r.accountId = u → r.ttl ≤ now

variable {before during : List Turn}

/-- What the steps of a logout are that had all its turns. -/
theorem LogsOut.loggedOut_alone
    (h : s.LogsOut requests ((s.start w requests).trace (before ++ during)) i u)
    (hturns : HasAllTurns ((s.start w requests).trace before)
      (((s.start w requests).run before).trace during) i)
    {x : Except (Failure ServiceError) Answer}
    (hdone : ((s.start w requests).run (before ++ during)).programs[i]? = some (.done x)) :
    LoggedOut u ((((s.start w requests).run before).trace during).map Transition.step) ∧
      Leads ((s.start w requests).run before).world (((s.start w requests).run before).trace during)
        ((s.start w requests).run (before ++ during)).world ∧
      ∀ t ∈ ((s.start w requests).run before).trace during, t.Faultless := by
  have htrace := (s.start w requests).trace_append before during
  obtain ⟨-, hlogged⟩ := h.outcome hdone
  rw [htrace, hturns.stepsOf_eq] at hlogged
  have hleads := Pool.leads_trace ((s.start w requests).run before) during
  rw [← Pool.run_append] at hleads
  refine ⟨hlogged, hleads, fun t ht => h.faultless t ?_ (hturns.alone t ht)⟩
  rw [htrace]
  exact List.mem_append_right _ ht

/-- **A logout that had all its turns leaves its account without a live
session.** -/
theorem LogsOut.noneLive
    (h : s.LogsOut requests ((s.start w requests).trace (before ++ during)) i u)
    (hw : w.store = .empty) (horderly : Orderly ((s.start w requests).trace (before ++ during)))
    (hturns : HasAllTurns ((s.start w requests).trace before)
      (((s.start w requests).run before).trace during) i)
    {x : Except (Failure ServiceError) Answer}
    (hdone : ((s.start w requests).run (before ++ during)).programs[i]? = some (.done x)) :
    NoneLive ((s.start w requests).trace (before ++ during))
      ((s.start w requests).run (before ++ during)).world.store u := by
  obtain ⟨hlogged, hleads, hfaultless⟩ := h.loggedOut_alone hturns hdone
  rw [Pool.trace_append] at horderly ⊢
  intro now hnow
  refine ttl_le_of_loggedOut_alone hlogged hleads hfaultless (fun t ht => ?_)
    fun t ht => hnow t (List.mem_append_right _ ht)
  have hlater := (List.pairwise_append.1 horderly.forward).2.2
  exact ((s.sound_run hw requests before).settled horderly.of_append).oneLive t.time
    fun t' ht' => hlater t' ht' t ht

/-- **Where the account has none it changes nothing.** -/
theorem LogsOut.unchanged
    (h : s.LogsOut requests ((s.start w requests).trace (before ++ during)) i u)
    (horderly : Orderly ((s.start w requests).trace (before ++ during)))
    (hturns : HasAllTurns ((s.start w requests).trace before)
      (((s.start w requests).run before).trace during) i)
    {x : Except (Failure ServiceError) Answer}
    (hdone : ((s.start w requests).run (before ++ during)).programs[i]? = some (.done x))
    (hnone : NoneLive ((s.start w requests).trace before)
      ((s.start w requests).run before).world.store u) :
    ((s.start w requests).run (before ++ during)).world.store =
        ((s.start w requests).run before).world.store ∧
      ((s.start w requests).run (before ++ during)).world.outbox =
        ((s.start w requests).run before).world.outbox := by
  obtain ⟨hlogged, hleads, hfaultless⟩ := h.loggedOut_alone hturns hdone
  rw [Pool.trace_append] at horderly
  have hlater := (List.pairwise_append.1 horderly.forward).2.2
  exact unchanged_of_loggedOut_alone hlogged hleads hfaultless fun t ht =>
    hnone t.time fun t' ht' => hlater t' ht' t ht

/-! ## Tokens after a logout -/

/-- A refresh token that a session of an account was opened with. -/
def OpenedWith (l : List Transition) (u : Int) (token : String) (v : String) : Prop :=
  Wrapped.decodeString token = .ok v ∧ ∃ t ∈ l, ∃ ttl id, t.Answers (.openSession u v ttl) id

/-- **A token is not redeemed any more** where its account had no live
session. -/
theorem not_ended_later (hw : w.store = .empty) {before after : List Turn}
    (horderly : Orderly ((s.start w requests).trace (before ++ after)))
    (hopened : OpenedWith ((s.start w requests).trace before) u token v)
    (hnone : NoneLive ((s.start w requests).trace before)
      ((s.start w requests).run before).world.store u) :
    ∀ t ∈ ((s.start w requests).run before).trace after, ¬ t.Answers (.endSession v) () := by
  intro t ht hends
  obtain ⟨-, t₀, ht₀, ttl, id, hopens⟩ := hopened
  have htrace := (s.start w requests).trace_append before after
  have hforward := horderly.forward
  rw [htrace] at hforward
  obtain ⟨-, hforward, hlater⟩ := List.pairwise_append.1 hforward
  obtain ⟨r, hr, hv, hlive⟩ := exists_of_answers_endSession hends
  obtain ⟨k₁, k₂, hsplit, hleads, -⟩ :=
    (Pool.leads_trace ((s.start w requests).run before) after).split_of_mem ht
  -- the session was over when the first of the later steps was taken
  obtain ⟨first, hfirst, hfirst'⟩ : ∃ first ∈ ((s.start w requests).run before).trace after,
      ∀ t ∈ ((s.start w requests).run before).trace after, first.time ≤ t.time := by
    cases hl : ((s.start w requests).run before).trace after with
    | nil => simp [hl] at ht
    | cons first rest =>
      rw [hl] at hforward
      exact ⟨first, List.mem_cons_self, List.forall_mem_cons.2
        ⟨Int.le_refl _, (List.pairwise_cons.1 hforward).1⟩⟩
  have hdead : ((s.start w requests).run before).world.store.Dead first.time [v] := by
    intro r hr hv
    exact hnone first.time (fun t' ht' => hlater t' ht' first hfirst) r hr
      ((s.sound_run hw requests before).accountId_eq ht₀ hopens hr (List.mem_singleton.1 hv))
  have hmem {t' : Transition} (ht' : t' ∈ k₁) :
      t' ∈ ((s.start w requests).run before).trace after := by
    rw [hsplit]
    exact List.mem_append_left _ ht'
  have hdead' := hleads.dead hdead (fun t' ht' => hfirst' t' (hmem ht')) fun t' ht' v' hv' => by
    rw [List.mem_singleton.1 hv']
    exact not_offered_later hw horderly.fresh htrace ht₀ hopens.offers t' (hmem ht')
  have := hdead' r hr (List.mem_singleton.2 hv)
  have := hfirst' t ht
  omega

/-- **A call is refused** whose token is not redeemed any more. -/
theorem refused_of_not_ended (hw : w.store = .empty) {i : Nat}
    (hrequest : requests[i]? = some ⟨ctx, .refresh token⟩)
    (hdecode : Wrapped.decodeString token = .ok v)
    (hnot : ∀ t ∈ (s.start w requests).trace turns, t.program = i → ¬ t.Answers (.endSession v) ())
    {x : Except (Failure ServiceError) Answer}
    (hdone : ((s.start w requests).run turns).programs[i]? = some (.done x)) :
    (∀ a, x ≠ .ok a) ∧
      ((∀ t ∈ (s.start w requests).trace turns, t.program = i → t.Faultless) →
        x = .error (.reported .invalidToken)) := by
  refine ⟨?_, fun hfaultless => ?_⟩
  · rintro a rfl
    obtain ⟨v', hv', t, ht, hi, hends⟩ :=
      (s.sound_run hw requests turns).conduct.ended_of_refreshed hrequest hdone
    obtain rfl := Except.ok.inj (hdecode.symm.trans hv')
    exact hnot t ht hi hends
  · have hgets : ∀ t ∈ (s.start w requests).trace turns, t.program = i → Step.Bars v t.step := by
      refine fun t ht hi => ⟨fun ctx u e hstep => ?_, fun ctx hstep => ?_⟩
      · exact ⟨_, (exists_notFound_of_liveSession (hfaultless t ht hi) hstep).1⟩
      · exact hnot t ht hi ⟨ctx, hstep⟩
    obtain ⟨prog, hprog, hmeets⟩ := Pool.meets_run_of_relies (l := []) turns
      (s.start_getElem? w hrequest) (refresh_barred hdecode ctx) hgets
    obtain rfl := Option.some.inj (hprog.symm.trans hdone)
    exact hmeets

/-! ## The theorem -/

/-- **A logout ends the session.** Operations are started on a store
without rows, and take their steps in any order; queries may meet faults,
the clock does not go back, and no identifier is drawn twice. A logout
whose token admits an account whenever it looks, and whose queries meet no
faults, is over after three turns.

Then it has succeeded, whatever happened in between, and the session that
it found, if any, is not live any more.

If it had all its turns at once, then there is no live session of the
account. A refresh token that a session of the account was opened with
before is not redeemed later by any call, and without faults is refused as
invalid; and a second logout that comes next succeeds and changes
nothing. -/
theorem logout_ends_session (s : Service) (w : World) (hw : w.store = .empty)
    (requests : List Request) (turns : List Turn)
    (horderly : Orderly ((s.start w requests).trace turns)) (i : Nat) (u : Int)
    (hlogout : s.LogsOut requests ((s.start w requests).trace turns) i u) :
    (3 ≤ turns.countP (fun t => t.program = i) →
      ∃ x, ((s.start w requests).run turns).programs[i]? = some (.done x)) ∧
    (∀ x, ((s.start w requests).run turns).programs[i]? = some (.done x) →
      x = .ok .done ∧
      ∀ t ∈ (s.start w requests).trace turns, t.program = i → ∀ u' r,
        t.Answers (.liveSession u') r →
        ∀ now, (∀ t ∈ (s.start w requests).trace turns, t.program = i → t.time ≤ now) →
          ∀ r' ∈ ((s.start w requests).run turns).world.store.sessions,
            r'.value = r.value → r'.ttl ≤ now) ∧
    ∀ before during after, turns = before ++ during ++ after →
      HasAllTurns ((s.start w requests).trace before)
        (((s.start w requests).run before).trace during) i →
      (∃ x, ((s.start w requests).run (before ++ during)).programs[i]? = some (.done x)) →
      NoneLive ((s.start w requests).trace (before ++ during))
        ((s.start w requests).run (before ++ during)).world.store u ∧
      (∀ j ctx token v, requests[j]? = some ⟨ctx, .refresh token⟩ →
        (∀ t ∈ (s.start w requests).trace (before ++ during), t.program ≠ j) →
        OpenedWith ((s.start w requests).trace (before ++ during)) u token v →
        (9 ≤ turns.countP (fun t => t.program = j) →
          ∃ x, ((s.start w requests).run turns).programs[j]? = some (.done x)) ∧
        ∀ x, ((s.start w requests).run turns).programs[j]? = some (.done x) →
          (∀ a, x ≠ .ok a) ∧
          ((∀ t ∈ (s.start w requests).trace turns, t.program = j → t.Faultless) →
            x = .error (.reported .invalidToken))) ∧
      ∀ k, s.LogsOut requests ((s.start w requests).trace turns) k u →
        HasAllTurns ((s.start w requests).trace (before ++ during))
          (((s.start w requests).run (before ++ during)).trace after) k →
        ∀ x, ((s.start w requests).run turns).programs[k]? = some (.done x) →
          x = .ok .done ∧
          ((s.start w requests).run turns).world.store =
            ((s.start w requests).run (before ++ during)).world.store ∧
          ((s.start w requests).run turns).world.outbox =
            ((s.start w requests).run (before ++ during)).world.outbox := by
  refine ⟨hlogout.done, fun x hdone => ?_, ?_⟩
  · obtain ⟨hx, hlogged⟩ := hlogout.outcome hdone
    refine ⟨hx, fun t ht hi u' r hfound now hnow r' hr' hv => ?_⟩
    exact hlogout.ended hw horderly hlogged ht hi hfound hnow r' hr' (List.mem_singleton.2 hv)
  rintro before during after rfl hturns ⟨x, hdone⟩
  have htrace := (s.start w requests).trace_append (before ++ during) after
  have hearlier : s.LogsOut requests ((s.start w requests).trace (before ++ during)) i u :=
    hlogout.mono fun t ht => by
      rw [htrace]
      exact List.mem_append_left _ ht
  have hnone := hearlier.noneLive hw (htrace ▸ horderly).of_append hturns hdone
  refine ⟨hnone, fun j ctx token v hrequest hunbegun hopened => ⟨fun hcount => ?_, ?_⟩,
    fun k hlogout' hturns' x' hdone' => ?_⟩
  · exact Pool.done_of_countdown _ (s.start_getElem? w hrequest) (s.refresh_countdown ctx token)
      hcount
  · refine fun x' hdone' => refused_of_not_ended hw hrequest hopened.1 (fun t ht hj => ?_) hdone'
    rw [Pool.trace_append] at ht
    rcases List.mem_append.1 ht with ht | ht
    · exact absurd hj (hunbegun t ht)
    · exact not_ended_later hw horderly hopened hnone t ht
  · exact ⟨(hlogout'.outcome hdone').1, hlogout'.unchanged horderly hturns' hdone' hnone⟩

/-- A logout of whoever has a session, and then a call that redeems the
token of the session: the one succeeds, and the other is refused. -/
theorem logout_ends_session_plain : ∃ requests before during after token token', ∃ i j : Nat,
    requests[i]? = some ⟨unhurried, .logout token⟩ ∧
    requests[j]? = some ⟨unhurried, .refresh token'⟩ ∧
    LiveToken ((plain.start {} requests).run before).world.store 0 token' ∧
    ((plain.start {} requests).run (before ++ during ++ after)).programs[i]? =
      some (.done (.ok .done)) ∧
    ((plain.start {} requests).run (before ++ during ++ after)).programs[j]? =
      some (.done (.error (.reported .invalidToken))) := by
  obtain ⟨es, token', hes, hnow, hfits, hlive⟩ := exists_session_plain
  obtain ⟨r, hr, hdecode, hlt⟩ := hlive
  -- an access token for the owner of the session
  have hconsistent := (hes.holds_iff rfl hfits fun e he => Int.le_of_eq (hnow e he)).1
  obtain ⟨a, ha, hid⟩ := hconsistent.sessions.owners r hr
  obtain ⟨token, htoken⟩ := exists_account_token ready_plain (by decide : (0 : Int) < 60)
    (by decide) (hid ▸ hconsistent.fits_of_mem hfits ha) .access
  obtain ⟨later, hrequests, htime, hlater⟩ :=
    hes.exists_append hnow ready_plain [.logout token, .refresh token']
  obtain ⟨e₁, e₂, rfl⟩ : ∃ e₁ e₂, later = [e₁, e₂] :=
    List.length_eq_two.1 (by simpa using congrArg List.length hrequests)
  have hlater : plain.Sequential {} (es ++ [e₁] ++ [e₂]) := by
    rwa [List.append_assoc]
  have htimes : ∀ e ∈ es ++ [e₁] ++ [e₂], e.time = 0 := by
    rw [List.append_assoc]
    exact List.forall_mem_append.2 ⟨hnow, htime⟩
  obtain ⟨hlogout, hrefresh⟩ : e₁.request = ⟨unhurried, .logout token⟩ ∧
      e₂.request = ⟨unhurried, .refresh token'⟩ := by simpa using hrequests
  -- one after another
  let requests := (es ++ [e₁] ++ [e₂]).map Errand.request
  have hrequest₁ : requests[es.length]? = some e₁.request := by simp [requests]
  have hrequest₂ : requests[(es ++ [e₁]).length]? = some e₂.request := by simp [requests]
  have hfirst : es.map Errand.request <+: requests := by simp [requests]
  obtain ⟨before, hbefore⟩ := hes.exists_inTurn hfirst
  obtain ⟨during, hduring, hturns⟩ := hbefore.exists_concat hlater.of_concat hrequest₁
  obtain ⟨after, hafter, -⟩ := hduring.exists_concat hlater hrequest₂
  have hdone {i : Nat} (hi : i < (es ++ [e₁] ++ [e₂]).length) :
      ∃ x, ((plain.start {} requests).run (before ++ during ++ after)).programs[i]? =
        some (.done x) := by
    rw [← plain.length_history {}] at hi
    exact ⟨_, hafter.done i _ (List.getElem?_eq_getElem hi)⟩
  have hlogs : plain.LogsOut requests
      ((plain.start {} requests).trace (before ++ during ++ after)) es.length r.accountId := by
    refine ⟨⟨unhurried, token, by rw [hrequest₁, hlogout], fun t ht _ _ => ?_⟩, fun t ht _ => ?_⟩
    · obtain ⟨-, e, he, hcalm⟩ := hafter.calm t ht
      rw [hcalm.time, htimes e he]
      exact htoken
    · obtain ⟨-, e, -, hcalm⟩ := hafter.calm t ht
      exact hcalm.faultless
  obtain ⟨-, t, ht, exp, number, -, hopens, -⟩ :=
    (plain.sound_run (w := {}) rfl requests before).ledger.rows r (by rwa [hbefore.world])
  obtain ⟨-, hsucceeds, hends⟩ := logout_ends_session plain {} rfl requests
    (before ++ during ++ after) (hafter.orderly hlater) es.length r.accountId hlogs
  obtain ⟨x, hx⟩ := hdone (i := es.length) (by simp)
  obtain ⟨x', hx'⟩ := hdone (i := (es ++ [e₁]).length) (by simp)
  obtain ⟨rfl, -⟩ := hsucceeds x hx
  have hearlier : es.length < (plain.history {} (es ++ [e₁])).length := by
    rw [plain.length_history]
    simp
  obtain ⟨-, hrefused, -⟩ := hends before during after rfl
    ⟨fun t ht => Nat.ne_of_lt (hbefore.calm t ht).1, fun t ht => (hturns t ht).1⟩
    ⟨_, hduring.done es.length _ (List.getElem?_eq_getElem hearlier)⟩
  obtain ⟨-, hrefused⟩ := hrefused (es ++ [e₁]).length unhurried token' r.value
    (by rw [hrequest₂, hrefresh]) (fun t ht => Nat.ne_of_lt (hduring.calm t ht).1)
    ⟨hdecode, t, by rw [Pool.trace_append]; exact List.mem_append_left _ ht, exp, number, hopens⟩
  obtain ⟨-, hinvalid⟩ := hrefused x' hx'
  obtain rfl := hinvalid fun t ht _ => (hafter.calm t ht).2.elim fun e he => he.2.faultless
  exact ⟨requests, before, during, after, token, token', es.length, (es ++ [e₁]).length,
    by rw [hrequest₁, hlogout], by rw [hrequest₂, hrefresh],
    ⟨r, by rwa [hbefore.world], hdecode, hlt⟩, hx, hx'⟩

end Service

end SignOn
