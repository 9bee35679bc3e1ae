import SignOn.Proofs.Service.Isolation
import SignOn.Proofs.Session.SingleUse
/-!
# A login that loses a race

A login that is told of a live session ends it in a step of its own. In
between another operation may end that session, or the clock may reach
its end; the step then finds no live session with the token, and the
login fails. Nothing else makes a login fail whose account is admitted,
`Service.login_succeeds_unless_late`.
-/

namespace SignOn

namespace Transition

variable {t : Transition} {v : String}

/-- A step that meets no fault, before the deadline of a request, and at a
time from which a pair of tokens expires within the 64-bit numbers. -/
structure InTime (j : TokenIssuer) (ctx : RequestContext) (t : Transition) : Prop where
  store : t.draw.storeFault = none
  deadline : ctx.isOver t.draw.moment = false
  expires : j.PairFits t.time

theorem InTime.faultless {j : TokenIssuer} {ctx : RequestContext} (h : t.InTime j ctx)
    (hfor : t.effect.IsFor ctx) :
    t.Faultless := by
  refine ⟨h.store, fun ctx' q heffect => ?_⟩
  rw [heffect] at hfor
  obtain rfl : ctx' = ctx := hfor
  exact h.deadline

/-- A step asks for the end of a session that is not live, at that time,
any more. -/
def EndsTooLate (t : Transition) (v : String) : Prop :=
  (∃ ctx, t.effect = .query ctx (.endSession v)) ∧
    ∀ r ∈ t.before.store.sessions, r.value = v → r.ttl ≤ t.time

/-- Whoever is too late is told so. -/
theorem EndsTooLate.exists_error (h : t.EndsTooLate v) :
    ∃ ctx e, t.step = ⟨.query ctx (.endSession v), .error e⟩ := by
  obtain ⟨program, draw, before, effect⟩ := t
  obtain ⟨⟨ctx, rfl⟩, hover⟩ := h
  obtain ⟨-, ⟨e, he, -⟩ | ⟨x, -, hends, -⟩⟩ :=
    query_cases (t := ⟨program, draw, before, .query ctx (.endSession v)⟩) rfl
  · exact ⟨ctx, e, congrArg (Step.mk _) he⟩
  · obtain ⟨r, hr, hv, hlive⟩ := Service.exists_of_answers_endSession hends
    have := hover r hr hv
    omega

/-- And only who is too late, unless there was a fault. -/
theorem Faultless.endsTooLate (h : t.Faultless) {ctx : RequestContext} {e : StoreError}
    (hstep : t.step = ⟨.query ctx (.endSession v), .error e⟩) :
    e = .noSuchSession ∧ t.EndsTooLate v := by
  have hrun := h.run_eq_error hstep
  change Store.changed (t.before.store.endSession t.time v) = .error e at hrun
  by_cases hlive : ∃ r ∈ t.before.store.sessions, r.value = v ∧ t.time < r.ttl
  · rw [Store.endSession_eq_ok_iff.2 ⟨hlive, rfl⟩] at hrun
    cases hrun
  · have hover : ∀ r ∈ t.before.store.sessions, r.value = v → r.ttl ≤ t.time := by
      intro r hr hv
      by_contra hlt
      exact hlive ⟨r, hr, hv, by omega⟩
    refine ⟨?_, ⟨ctx, congrArg Step.effect hstep⟩, hover⟩
    unfold Store.endSession at hrun
    split at hrun
    · cases hrun
    · cases hrun
      rfl

end Transition

/-- What a step gets where nothing hinders it: a pair of tokens that is
issued expires within the 64-bit numbers, the deadline has not passed, a
session that is looked for may not be there, and a new session is opened. -/
structure Step.Unhindered (j : TokenIssuer) (x : Step) : Prop where
  clock : ∀ m : Moment, x = ⟨.clock, m⟩ → j.PairFits m.seconds
  deadline : ∀ ctx late, x = ⟨.deadline ctx, late⟩ → late = false
  liveSession : ∀ ctx u e, x = ⟨.query ctx (.liveSession u), .error e⟩ → ∃ what, e = .notFound what
  endSession : ∀ ctx v e, x = ⟨.query ctx (.endSession v), .error e⟩ → ∃ what, e = .notFound what
  openSession : ∀ ctx u v ttl e, x ≠ ⟨.query ctx (.openSession u v ttl), .error e⟩

/-- The setting of steps for a request that nothing hinders. -/
abbrev Setting.unhindered (j : TokenIssuer) (ctx : RequestContext) : Setting (List Step) :=
  .history (fun _ e => e.IsFor ctx) fun e r => Step.Unhindered j ⟨e, r⟩

/-- No session could not be ended. -/
def NoneMissed (h : List Step) : Prop :=
  ∀ v e, ¬ Got h (.endSession v) (.error e)

/-- A session was found, and could then not be ended. -/
def Missed (h : List Step) : Prop :=
  ∃ u r e, Got h (.liveSession u) (.ok r) ∧ Got h (.endSession r.value) (.error e)

theorem noneMissed_nil : NoneMissed [] := by
  simp [NoneMissed, Got]

theorem NoneMissed.concat {h : List Step} (hh : NoneMissed h) {x : Step}
    (hx : ∀ ctx v e, x ≠ ⟨.query ctx (.endSession v), .error e⟩) : NoneMissed (h ++ [x]) := by
  intro v e hgot
  rcases got_concat_iff.1 hgot with hgot | ⟨ctx, hstep⟩
  · exact hh v e hgot
  · exact hx ctx v e hstep

namespace Service

open Procedure

variable {s : Service} {requests : List Request} {l : List Transition}
variable {q : Pool (Except (Failure ServiceError) Answer)} {t : Turn} {tr : Transition}
variable {h : List Step} {ctx : RequestContext} {u : Int} {d : Digest}

/-- **A step in time is not hindered.** -/
theorem Sound.unhindered (h : s.Sound requests l q) (hfresh : (identifiers l).Nodup)
    (htr : q.transition? t = some tr) (hin : tr.InTime s.issuer ctx)
    (hfor : tr.effect.IsFor ctx) : tr.step.Unhindered s.issuer where
  clock m hstep := by
    rw [Transition.seconds_eq_time hstep]
    exact hin.expires
  deadline ctx' late hstep := by
    obtain ⟨program, draw, before, effect⟩ := tr
    obtain rfl : effect = .deadline ctx' := congrArg Step.effect hstep
    obtain rfl : ctx' = ctx := hfor
    have hlate : ctx'.isOver draw.moment = late := eq_of_heq (Step.mk.inj hstep).2
    rw [← hlate]
    exact hin.deadline
  liveSession ctx u e hstep := ⟨_, (exists_notFound_of_liveSession (hin.faultless hfor) hstep).1⟩
  endSession ctx v e hstep := ⟨_, ((hin.faultless hfor).endsTooLate hstep).1⟩
  openSession ctx u v ttl e := h.openSession_ne_error hfresh htr (hin.faultless hfor)

/-! ## Step by step -/

/-- What a login does when it was told of its account. -/
def enter (s : Service) (ctx : RequestContext) (password : String) (a : Account) :
    Procedure TokenPair := do
  require a.emailConfirmed .emailNotConfirmed
  let right ← verifyPassword ctx password a.passwordHash
  require right .wrongPassword
  endLiveSession ctx a.id
  s.openSession ctx a.id

/-- A login looks for its account first. -/
theorem perform_login_run (s : Service) (ctx : RequestContext) (email password : String) :
    ∃ next, (s.perform ctx (.login email password)).run =
        .await (.query ctx (.accountByEmail email)) next ∧
      ∀ a, next (.ok a) = (Answer.pair <$> s.enter ctx password a).run :=
  ⟨_, rfl, fun _ => rfl⟩

theorem meets_unhindered_issue {sign : Int → String → Except (Failure TokenError) IssuedToken}
    {ok : List Step → IssuedToken → Prop} {fail : List Step → Failure ServiceError → Prop}
    (hh : NoneMissed h) (hsign : ∀ now jti, s.issuer.PairFits now → ∃ t, sign now jti = .ok t)
    (hok : ∀ h' t, NoneMissed h' → ok h' t) :
    Meets (.unhindered s.issuer ctx) ok fail (issue sign) h := by
  refine meets_history_issue trivial (fun _ => trivial) (fun m jti t _ => ?_)
    fun m jti e hm he => ?_
  · refine hok _ t (NoneMissed.concat (hh.concat fun _ _ _ => ?_) fun _ _ _ => ?_) <;> nofun
  · obtain ⟨t, ht⟩ := hsign m.seconds jti (hm.clock m rfl)
    rw [ht] at he
    cases he

/-- A session is opened where nothing hinders. -/
theorem openSession_unhindered (hd : s.issuer.algorithm.digest? = some d) (hh : NoneMissed h) :
    Meets (.unhindered s.issuer ctx) (fun h' _ => NoneMissed h') (fun _ _ => False)
      (s.openSession ctx u) h := by
  refine meets_bind.2 (meets_unhindered_issue hh
    (fun now jti hfits => TokenIssuer.exists_generate_eq_ok hd hfits.access _ _ _)
    fun h₁ access hh₁ => ?_)
  refine meets_bind.2 (meets_unhindered_issue hh₁
    (fun now jti hfits => TokenIssuer.exists_generate_eq_ok hd hfits.refresh _ _ _)
    fun h₂ refresh hh₂ => ?_)
  refine meets_bind.2 (meets_history_ask rfl (fun id _ => ?_) fun e he => ?_)
  · exact hh₂.concat fun _ _ _ => nofun
  · exact he.openSession _ _ _ _ _ rfl

/-- The live session is ended, unless that is missed. -/
theorem endLiveSession_unhindered (hh : NoneMissed h) :
    Meets (.unhindered s.issuer ctx) (fun h' _ => NoneMissed h')
      (fun h' e => e = .reported .sessionNotFound ∧ Missed h')
      (endLiveSession ctx u) h := by
  refine meets_bind.2 (meets_history_step rfl fun found hfound => ?_)
  have hh₁ : NoneMissed (h ++ [⟨.query ctx (.liveSession u), found⟩]) :=
    hh.concat fun _ _ _ => nofun
  match found with
  | .error e =>
    obtain ⟨what, rfl⟩ := hfound.liveSession _ _ _ rfl
    exact hh₁
  | .ok r =>
    refine meets_history_ask rfl (fun _ _ => ?_) fun e he => ?_
    · exact hh₁.concat fun _ _ _ => nofun
    · obtain ⟨what, rfl⟩ := he.endSession _ _ _ rfl
      have hfound := got_concat h ctx (.liveSession u) (.ok r)
      exact ⟨rfl, u, r, _, hfound.mono fun x hx => List.mem_append_left _ hx, got_concat _ _ _ _⟩

/-- Ending the live session of an account takes two steps at most. -/
theorem takes_endLiveSession (ctx : RequestContext) (u : Int) : Takes 2 (endLiveSession ctx u) := by
  show Takes (1 + 1) (endLiveSession ctx u)
  refine (takes_step _).bind fun found => ?_
  match found with
  | .error (.notFound _) => exact (takes_pure ()).mono (Nat.zero_le 1)
  | .error (.io _) | .error (.connection _) | .error (.migration _) | .error (.query _)
  | .error (.conflict _) | .error .deadlineExceeded =>
    exact (takes_report _).mono (Nat.zero_le 1)
  | .ok session => exact takes_ask _ _ _

/-- **What becomes of a login** whose account is admitted. -/
theorem enter_unhindered (s : Service) (ctx : RequestContext) {a : Account} {password : String}
    (hconfirmed : a.emailConfirmed = true)
    (hpassword : Password.verify password a.passwordHash = true)
    (hd : s.issuer.algorithm.digest? = some d) (hh : NoneMissed h) :
    Meets (.unhindered s.issuer ctx) (fun h' _ => NoneMissed h')
      (fun h' e => e = .reported .sessionNotFound ∧ Missed h')
      (s.enter ctx password a) h := by
  refine meets_bind.2 (meets_require.2 ⟨fun _ => ?_, by simp [hconfirmed]⟩)
  refine meets_bind.2 (meets_bind.2 (meets_bind.2 (meets_history_step rfl fun late hlate => ?_)))
  obtain rfl := hlate.deadline ctx late rfl
  refine meets_require.2 ⟨fun _ => ?_, by simp⟩
  refine meets_bind.2 (meets_require.2 ⟨fun _ => ?_, by simp [hpassword]⟩)
  have hh₁ : NoneMissed (h ++ [⟨.deadline ctx, false⟩]) := hh.concat fun _ _ _ => nofun
  refine meets_bind.2 ((endLiveSession_unhindered hh₁).mono (fun h₂ _ hh₂ => ?_) fun _ _ he => he)
  exact (openSession_unhindered hd hh₂).mono (fun _ _ hh₃ => hh₃) fun _ _ he => he.elim

/-- After its first step a login takes eight more at most. -/
theorem takes_enter (s : Service) (ctx : RequestContext) (password : String) (a : Account) :
    Takes 8 (s.enter ctx password a) :=
  (takes_require _ _).bind fun _ => (takes_verifyPassword ctx _ _).bind fun _ =>
    (takes_require _ _).bind fun _ => (takes_endLiveSession ctx _).bind fun _ =>
      s.takes_openSession ctx _

theorem countdown_enter (s : Service) (ctx : RequestContext) (password : String) (a : Account) :
    (Answer.pair <$> s.enter ctx password a).run.Meets .countdown (fun _ _ => True) 8 :=
  Program.Meets.mono ((s.takes_enter ctx password a).map Answer.pair 8 (Nat.le_refl 8))
    fun _ _ _ => trivial

/-! ## Along a run -/

variable {i : Nat} {prog : Program (Except (Failure ServiceError) Answer)}
variable {Q : List Step → Except (Failure ServiceError) Answer → Prop}

/-- **A program goes on unhindered**, as long as its steps are in time. -/
theorem Sound.exists_unhindered (h : s.Sound requests l q) (turns : List Turn)
    (hfresh : (identifiers (l ++ q.trace turns)).Nodup)
    (hin : ∀ t ∈ q.trace turns, t.program = i → t.InTime s.issuer ctx)
    (hprog : q.programs[i]? = some prog)
    (hmeets : prog.Meets (.unhindered s.issuer ctx) Q (stepsOf i l)) :
    (∀ t ∈ q.trace turns, t.program = i → t.Faultless) ∧
      ∃ prog', (q.run turns).programs[i]? = some prog' ∧
        prog'.Meets (.unhindered s.issuer ctx) Q (stepsOf i (l ++ q.trace turns)) := by
  have hrun := Pool.run_induction (p := q) (I := fun l' q' => s.Sound requests (l ++ l') q' ∧
    ((identifiers (l ++ l')).Nodup → (∀ t ∈ l', t.program = i → t.InTime s.issuer ctx) →
      (∀ t ∈ l', t.program = i → t.Faultless) ∧ ∃ prog', q'.programs[i]? = some prog' ∧
        prog'.Meets (.unhindered s.issuer ctx) Q (stepsOf i (l ++ l')))) ?_ ?_ turns
  · exact hrun.2 hfresh hin
  · rw [List.append_nil]
    exact ⟨h, fun _ _ => ⟨by simp, prog, hprog, hmeets⟩⟩
  · rintro l' q' t tr ⟨hsound, hgoes⟩ htr
    rw [← List.append_assoc]
    refine ⟨hsound.step htr, fun hfresh hin => ?_⟩
    rw [identifiers_append] at hfresh
    have hfresh : (identifiers (l ++ l')).Nodup := (List.nodup_append.1 hfresh).1
    obtain ⟨hfaultless, prog', hprog', hmeets'⟩ :=
      hgoes hfresh fun t' ht' => hin t' (List.mem_append_left _ ht')
    -- the step, if it is one of this program, is for its request
    have hfor (hi : tr.program = i) : tr.effect.IsFor ctx := by
      subst hi
      exact Pool.permits_of_transition? htr hprog' hmeets'
    have hin' (hi : tr.program = i) : tr.InTime s.issuer ctx := hin tr (by simp) hi
    refine ⟨List.forall_mem_append.2 ⟨hfaultless, List.forall_mem_singleton.2 fun hi => ?_⟩, ?_⟩
    · exact (hin' hi).faultless (hfor hi)
    · exact Pool.meets_advance htr hprog' hmeets' fun hi =>
        hsound.unhindered hfresh htr (hin' hi) (hfor hi)

/-- A login begins with the account that has its address. -/
theorem Sound.transition?_login (h : s.Sound requests l q) (draw : Draw) {email password : String}
    {a : Account} (hprog : q.programs[i]? = some (s.perform ctx (.login email password)).run)
    (ha : a ∈ q.world.store.accounts) (hemail : a.email = email)
    (hin : ∀ tr, q.transition? ⟨i, draw⟩ = some tr → tr.InTime s.issuer ctx) :
    ∃ tr : Transition, q.transition? ⟨i, draw⟩ = some tr ∧ tr.program = i ∧ tr.Faultless ∧
      tr.step = ⟨.query ctx (.accountByEmail email), .ok a⟩ ∧
      (q.advance ⟨i, draw⟩).programs[i]? =
        some (Answer.pair <$> s.enter ctx password a).run := by
  obtain ⟨next, hrun, hnext⟩ := s.perform_login_run ctx email password
  rw [hrun] at hprog
  let tr : Transition := ⟨i, draw, q.world, .query ctx (.accountByEmail email)⟩
  obtain ⟨htr, -, hnext'⟩ := Pool.advance_of_await hprog draw
  have hin := hin tr htr
  have hfound : q.world.store.run tr.time (.accountByEmail email) = .ok (a, q.world.store) := by
    show q.world.store.unchanged (q.world.store.accountByEmail email) = _
    rw [Store.accountByEmail, h.ledger.accounts.accountWithEmail?_eq_some_iff.2 ⟨ha, hemail⟩]
    rfl
  have hreply : tr.reply = .ok a := by
    have hanswer := World.query_of_run_eq_ok (w := q.world.note (.query (.accountByEmail email)))
      hin.store hin.deadline hfound
    exact congrArg Prod.fst hanswer
  refine ⟨tr, htr, rfl, hin.faultless rfl, congrArg (Step.mk _) hreply, ?_⟩
  rw [← hnext, ← hreply]
  exact hnext'

/-! ## The theorem -/

/-- How a login ends whose account is admitted. -/
def Decides (h : List Step) : Except (Failure ServiceError) Answer → Prop
  | .ok a => (∃ p, a = .pair p) ∧ NoneMissed h
  | .error e => e = .reported .sessionNotFound ∧ Missed h

/-- What is left of such a login after its first step. -/
theorem enter_decides (s : Service) (ctx : RequestContext) {a : Account} {password : String}
    (hconfirmed : a.emailConfirmed = true)
    (hpassword : Password.verify password a.passwordHash = true)
    (hd : s.issuer.algorithm.digest? = some d) (hh : NoneMissed h) :
    (Answer.pair <$> s.enter ctx password a).run.Meets (.unhindered s.issuer ctx) Decides h := by
  have henter := s.enter_unhindered ctx hconfirmed hpassword hd hh
  have hpair : Meets (.unhindered s.issuer ctx) (fun h x => Decides h (.ok x))
      (fun h e => Decides h (.error e)) (Answer.pair <$> s.enter ctx password a) h :=
    meets_map.2 (henter.mono (fun h p hp => ⟨⟨p, rfl⟩, hp⟩) fun h e he => he)
  exact Program.Meets.mono hpair fun h r hr => by cases r <;> exact hr

/-- What the steps of a login tell, once it is over. -/
theorem Decides.outcome {l' : List Transition} {result : Except (Failure ServiceError) Answer}
    (h : Decides (stepsOf i (l ++ l')) result) (hunbegun : ∀ t ∈ l, t.program ≠ i)
    (hfaultless : ∀ t ∈ l', t.program = i → t.Faultless) :
    ((∃ p, result = .ok (.pair p)) ∨ result = .error (.reported .sessionNotFound)) ∧
      (result = .error (.reported .sessionNotFound) ↔ ∃ found ∈ l', ∃ late ∈ l', ∃ u r,
        found.program = i ∧ late.program = i ∧ found.Answers (.liveSession u) r ∧
        late.EndsTooLate r.value) := by
  have hlater {t : Transition} (ht : t ∈ l ++ l') (hi : t.program = i) : t ∈ l' :=
    (List.mem_append.1 ht).resolve_left fun ht => hunbegun t ht hi
  cases result with
  | ok a =>
    obtain ⟨⟨p, rfl⟩, hnone⟩ := h
    refine ⟨.inl ⟨p, rfl⟩, nofun, ?_⟩
    rintro ⟨found, _, late, hlate, u, r, -, hi, _, hends⟩
    obtain ⟨ctx, e, hstep⟩ := hends.exists_error
    have hgot : Got (stepsOf i (l ++ l')) (.endSession r.value) (.error e) :=
      ⟨ctx, mem_stepsOf.2 ⟨late, List.mem_append_right _ hlate, hi, hstep⟩⟩
    exact absurd hgot (hnone r.value e)
  | error e =>
    obtain ⟨rfl, u, r, e, hfound, ctx, hmissed⟩ := h
    refine ⟨.inr rfl, fun _ => ?_, fun _ => rfl⟩
    obtain ⟨found, hmem, hi, hanswers⟩ := got_stepsOf.1 hfound
    obtain ⟨late, hmem', hi', hstep⟩ := mem_stepsOf.1 hmissed
    have hlate := hlater hmem' hi'
    exact ⟨found, hlater hmem hi, late, hlate, u, r, hi, hi', hanswers,
      ((hfaultless late hlate hi').endsTooLate hstep).2⟩

/-- **A login whose account is admitted fails only if it is late.** Its
first step comes next in a run, when its account is there with a confirmed
address and the password; none of its steps meets a fault, and its
deadline does not pass, and tokens that it issues expire within the 64-bit
numbers. Whatever other operations do between its steps, and whatever else
the clock shows, it is done after nine turns, with a pair of
tokens or with `sessionNotFound`; and it is the latter exactly if it was
too late to end the session that it had found. -/
theorem login_succeeds_unless_late (s : Service) {w : World} (hw : w.store = .empty)
    {requests : List Request} {before during : List Turn} {i : Nat} {draw : Draw}
    {ctx : RequestContext} {email password : String}
    (hrequest : requests[i]? = some ⟨ctx, .login email password⟩)
    (hunbegun : ∀ t ∈ (s.start w requests).trace before, t.program ≠ i)
    (hadmitted : Admitted ((s.start w requests).run before).world.store email password)
    (hd : ∃ d, s.issuer.algorithm.digest? = some d)
    (hfresh : (identifiers
      ((s.start w requests).trace (before ++ ⟨i, draw⟩ :: during))).Nodup)
    (hin : ∀ t ∈ ((s.start w requests).run before).trace (⟨i, draw⟩ :: during),
      t.program = i → t.InTime s.issuer ctx)
    (hcount : 8 ≤ during.countP fun t => t.program = i) :
    ∃ result, ((s.start w requests).run (before ++ ⟨i, draw⟩ :: during)).programs[i]? =
        some (.done result) ∧
      ((∃ p, result = .ok (.pair p)) ∨ result = .error (.reported .sessionNotFound)) ∧
      (result = .error (.reported .sessionNotFound) ↔
        ∃ found ∈ ((s.start w requests).run before).trace (⟨i, draw⟩ :: during),
        ∃ late ∈ ((s.start w requests).run before).trace (⟨i, draw⟩ :: during), ∃ u r,
          found.program = i ∧ late.program = i ∧ found.Answers (.liveSession u) r ∧
          late.EndsTooLate r.value) := by
  obtain ⟨a, ha, hemail, hconfirmed, hpassword⟩ := hadmitted
  obtain ⟨d, hd⟩ := hd
  have hsound := s.sound_run hw requests before
  let l := (s.start w requests).trace before
  let q := (s.start w requests).run before
  have hprog : q.programs[i]? = some (s.perform ctx (.login email password)).run := by
    rw [Pool.getElem?_run_of_notMem before hunbegun]
    simp [start, hrequest]
  obtain ⟨tr, htr, rfl, hfirst, hstep, hprog'⟩ := hsound.transition?_login draw hprog ha hemail
    fun tr htr => hin tr (by rw [Pool.trace_cons htr]; simp) (Pool.advance_of_transition? htr).1
  -- from the second step on
  have htrace := Pool.trace_cons htr during
  have hsteps : stepsOf tr.program (l ++ [tr]) = [tr.step] := by
    rw [stepsOf_concat_self, stepsOf_eq_nil hunbegun]
    rfl
  have hnone : NoneMissed (stepsOf tr.program (l ++ [tr])) := by
    rw [hsteps, hstep]
    exact noneMissed_nil.concat (x := ⟨.query ctx (.accountByEmail email), .ok a⟩)
      fun _ _ _ h => by cases h
  have hmeets := s.enter_decides ctx hconfirmed hpassword hd hnone
  have htraceAll : (s.start w requests).trace (before ++ ⟨tr.program, draw⟩ :: during) =
      l ++ q.trace (⟨tr.program, draw⟩ :: during) := Pool.trace_append ..
  have hrunAll : (s.start w requests).run (before ++ ⟨tr.program, draw⟩ :: during) =
      (q.advance ⟨tr.program, draw⟩).run during := Pool.run_append ..
  have hfresh' : (identifiers (l ++ [tr] ++
      (q.advance ⟨tr.program, draw⟩).trace during)).Nodup := by
    rwa [htraceAll, htrace, ← List.singleton_append, ← List.append_assoc] at hfresh
  obtain ⟨hfaultless, prog', hprog'', hmeets'⟩ := (hsound.step htr).exists_unhindered during hfresh'
    (fun t ht => hin t (by rw [htrace]; exact List.mem_cons_of_mem _ ht)) hprog' hmeets
  have hcountdown := s.countdown_enter ctx password a
  obtain ⟨result, hresult⟩ := Pool.done_of_countdown during hprog' hcountdown hcount
  obtain rfl := Option.some.inj (hprog''.symm.trans hresult)
  have hdecides : Decides (stepsOf tr.program (l ++ q.trace (⟨tr.program, draw⟩ :: during)))
      result := by
    rw [htrace, ← List.singleton_append, ← List.append_assoc]
    exact hmeets'
  refine ⟨result, by rw [hrunAll]; exact hresult, ?_⟩
  refine hdecides.outcome hunbegun ?_
  rw [htrace]
  exact List.forall_mem_cons.2 ⟨fun _ => hfirst, hfaultless⟩

/-! ## A login that is late -/

variable {w : World} {es : List Errand} {e : Errand} {a : Account} {email password : String}

/-- Up to the end of a session, a login asks for three things. -/
theorem enter_run (s : Service) (ctx : RequestContext) (hconfirmed : a.emailConfirmed = true)
    (hpassword : Password.verify password a.passwordHash = true) :
    ∃ next, (Answer.pair <$> s.enter ctx password a).run = .await (.deadline ctx) next ∧
      ∃ next', next false = .await (.query ctx (.liveSession a.id)) next' ∧
        ∀ r, ∃ next'', next' (.ok r) = .await (.query ctx (.endSession r.value)) next'' := by
  unfold enter verifyPassword
  rw [hconfirmed, hpassword]
  exact ⟨_, rfl, _, rfl, fun r => ⟨_, rfl⟩⟩

/-- **A login can be late**: the clock reaches the end of the session that
it has found before it asks for that. -/
theorem late_of_enter (hctx : ctx.deadline = none) (hconfirmed : a.emailConfirmed = true)
    (hpassword : Password.verify password a.passwordHash = true)
    (hprog : q.programs[i]? = some (Answer.pair <$> s.enter ctx password a).run)
    (hsessions : q.world.store.SessionsInOrder) {r : Session} (d₁ d₂ d₃ : Draw)
    (hfound : q.world.store.liveSession d₂.moment.seconds a.id = .ok r)
    (hfault : d₂.storeFault = none) (hlate : r.ttl ≤ d₃.moment.seconds) (turns : List Turn) :
    ∃ found ∈ q.trace (⟨i, d₁⟩ :: ⟨i, d₂⟩ :: ⟨i, d₃⟩ :: turns),
    ∃ late ∈ q.trace (⟨i, d₁⟩ :: ⟨i, d₂⟩ :: ⟨i, d₃⟩ :: turns), ∃ u r,
      found.program = i ∧ late.program = i ∧ found.Answers (.liveSession u) r ∧
      late.EndsTooLate r.value := by
  obtain ⟨next, hrun, next', hrun', hends⟩ := s.enter_run ctx hconfirmed hpassword
  have hover (m : Moment) : ctx.isOver m = false := by rw [RequestContext.isOver, hctx]
  rw [hrun] at hprog
  obtain ⟨htr₁, hworld₁, hprog₁⟩ := Pool.advance_of_await hprog d₁
  let q₁ := q.advance ⟨i, d₁⟩
  have hworld₁ : q₁.world = q.world := hworld₁
  have hprog₁ : q₁.programs[i]? = some (.await (.query ctx (.liveSession a.id)) next') := by
    rw [hprog₁, ← hrun', ← hover d₁.moment]
    rfl
  obtain ⟨htr₂, hworld₂, hprog₂⟩ := Pool.advance_of_await hprog₁ d₂
  let q₂ := q₁.advance ⟨i, d₂⟩
  have hanswer : q₁.world.answer d₂ (.query ctx (.liveSession a.id)) =
      (.ok r, q.world.note (.query (.liveSession a.id))) := by
    rw [hworld₁]
    refine World.query_of_run_eq_ok (w := q.world.note _) hfault (hover _) ?_
    show q.world.store.unchanged (q.world.store.liveSession d₂.moment.seconds a.id) = _
    rw [hfound]
    rfl
  obtain ⟨next'', hnext''⟩ := hends r
  rw [hanswer] at hworld₂ hprog₂
  rw [hnext''] at hprog₂
  obtain ⟨htr₃, -, -⟩ := Pool.advance_of_await hprog₂ d₃
  let found : Transition := ⟨i, d₂, q₁.world, .query ctx (.liveSession a.id)⟩
  let late : Transition := ⟨i, d₃, q₂.world, .query ctx (.endSession r.value)⟩
  have htrace : q.trace (⟨i, d₁⟩ :: ⟨i, d₂⟩ :: ⟨i, d₃⟩ :: turns) =
      ⟨i, d₁, q.world, .deadline ctx⟩ :: found :: late :: (q₂.advance ⟨i, d₃⟩).trace turns := by
    rw [Pool.trace_cons htr₁, Pool.trace_cons (p := q₁) htr₂, Pool.trace_cons (p := q₂) htr₃]
  rw [htrace]
  refine ⟨found, by simp, late, by simp, a.id, r, rfl, rfl, ⟨ctx, ?_⟩, ⟨ctx, rfl⟩, ?_⟩
  · exact congrArg (Step.mk _) (congrArg Prod.fst hanswer)
  · intro r' hr' hv
    have hr' : r' ∈ q.world.store.sessions := by
      have hstore : q₂.world.store = q.world.store :=
        (congrArg World.store hworld₂).trans rfl
      rwa [← hstore]
    obtain ⟨hr, -, -⟩ := Store.mem_of_liveSession hfound
    rw [hsessions.eq_of_value_eq hr' hr hv]
    exact hlate

/-- An account with a session that is live until a time, and with a
password that is known. -/
structure Resides (store : Store) (now ttl : Int) (email password : String) (a : Account) :
    Prop where
  mem : a ∈ store.accounts
  email : a.email = email
  confirmed : a.emailConfirmed = true
  verifies : Password.verify password a.passwordHash = true
  session : ∃ r ∈ store.sessions, r.accountId = a.id ∧ now < r.ttl
  liveUntil : ∀ r ∈ store.sessions, r.accountId = a.id → now < r.ttl → r.ttl = ttl

/-- Whoever has logged in has a live session. -/
theorem Sequential.exists_resides (h : s.Sequential w (es ++ [e])) (hw : w.store = .empty)
    (hfits : Fits64 (s.after w (es ++ [e])).store.lastAccountId)
    (hop : e.operation = .login email password) {p : TokenPair}
    (hp : (s.carryOut (s.after w es) e).result = .ok (.pair p)) :
    ∃ a, Resides (s.after w (es ++ [e])).store e.time (e.time + s.issuer.refreshTtl) email
      password a := by
  have hfits' := fits_of_concat hw hfits
  have hready := h.ready e (by simp)
  obtain ⟨hconsistent, -, -⟩ := h.of_concat.holds_iff hw hfits' h.time_le
  have hlogin : Meets (.calm e.time)
      (fun σ' x => x = .pair p → Admitted (s.after w es).store email password ∧
        s.OpensPair e.time p (s.after w es).store σ'.store ∧
        (s.after w es).store.SameAccounts σ'.store)
      (fun _ _ => True) (s.perform e.ctx e.operation)
      ((s.after w es).scene (s.drawnBy w es)) := by
    rw [hop]
    refine meets_map.2 ((login_calm hconsistent hready hfits').mono ?_ fun _ _ _ => trivial)
    rintro σ' p' ⟨hadmitted, -, hpair, hsame⟩ hp'
    cases hp'
    exact ⟨hadmitted, hpair, hsame⟩
  have hopens := h.carryOut_of_meets hlogin
  rw [hp] at hopens
  obtain ⟨⟨a, ha, hemail, hconfirmed, hpassword⟩, ⟨u, v, hu, -, hopened⟩, hsame⟩ := hopens rfl
  -- the session is that of the account, as the access token tells
  obtain ⟨l, hreaches, -⟩ := h.of_concat.exists_reaches hw
  have hsubject : s.subject? (e.draws 0 .clock).moment.seconds (s.after w es).store e.operation =
      some a.id := by
    have hfound := hreaches.accounts.accountWithEmail?_eq_some_iff.2 ⟨ha, hemail⟩
    simp [hop, subject?, acceptsInput, named?, hfound]
  obtain ⟨-, -, hserves⟩ := (hreaches.aftermath e).sameBut (by rw [hop]; rintro ⟨⟩) hsubject
  obtain ⟨c, hsigns, -, hvalue⟩ := hserves _ hp
  obtain ⟨c', hc', hvalue'⟩ := TokenIssuer.parseEmbeddedAccess_eq_some_iff.1 hu
  rw [hsigns.eq_of_claims? hc', hvalue] at hvalue'
  obtain rfl := TokenValue.account.inj hvalue'
  have hlt : e.time < e.time + s.issuer.refreshTtl := by
    have := hready.refresh.1
    omega
  obtain ⟨r, hr, howner, -, httl⟩ := (hopened a.id v _ hlt).2 (by simp)
  refine ⟨a, hsame.1 ▸ ha, hemail, hconfirmed, hpassword, ⟨r, hr, howner, httl ▸ hlt⟩, ?_⟩
  intro r' hr' howner' hlive'
  have hheld := (hopened a.id r'.value r'.ttl hlive').1 ⟨r', hr', howner', rfl, rfl⟩
  rw [if_pos rfl] at hheld
  exact hheld.2

/-- Nine turns of a program, the fourth and those after it at a later
time. -/
def turnsUntil (i : Nat) (now later : Int) (id : Nat → String) : List Turn :=
  (List.range 9).map fun n => ⟨i, calmDraws (if n < 3 then now else later) id n .clock⟩

/-- In these turns a login is late, for the session that ends at that
time. -/
theorem late_of_turnsUntil (hsound : s.Sound requests l q)
    (hprog : q.programs[i]? = some (s.perform unhurried (.login email password)).run)
    {now ttl : Int} (ha : Resides q.world.store now ttl email password a) (id : Nat → String)
    (hexpires : s.issuer.PairFits now) :
    ∃ found ∈ q.trace (turnsUntil i now ttl id),
      ∃ late ∈ q.trace (turnsUntil i now ttl id), ∃ u r,
        found.program = i ∧ late.program = i ∧ found.Answers (.liveSession u) r ∧
        late.EndsTooLate r.value := by
  obtain ⟨r, hr, howner, hlive⟩ := ha.session
  cases hfound : q.world.store.liveSession now a.id with
  | error err =>
    have := (Store.liveSession_eq_error_iff.1 hfound).2 r hr howner
    omega
  | ok r =>
    obtain ⟨hr, howner, hlive⟩ := Store.mem_of_liveSession hfound
    obtain rfl := ha.liveUntil r hr howner hlive
    let turn (n : Nat) : Turn := ⟨i, calmDraws (if n < 3 then now else r.ttl) id n .clock⟩
    have hturns : turnsUntil i now r.ttl id =
        turn 0 :: turn 1 :: turn 2 :: turn 3 :: [turn 4, turn 5, turn 6, turn 7, turn 8] := rfl
    obtain ⟨tr, htr, -, -, hstep, hprog'⟩ := hsound.transition?_login (turn 0).draw
      hprog ha.mem ha.email fun tr htr => by
        obtain ⟨-, hdraw, -⟩ := Pool.advance_of_transition? htr
        refine ⟨by rw [hdraw]; rfl, rfl, ?_⟩
        rw [Transition.time, hdraw]
        exact hexpires
    -- the lookup of the account leaves the store
    obtain ⟨-, -, hbefore, next, -, hadvance⟩ := Pool.advance_of_transition? htr
    have hstore : (q.advance (turn 0)).world.store = q.world.store := by
      have hrun := Transition.run_of_answers ⟨unhurried, hstep⟩
      rw [hadvance, ← hbefore]
      exact (Store.unchanged_eq_ok_iff.1 hrun).2
    rw [← hstore] at hfound
    have hsessions : (q.advance (turn 0)).world.store.SessionsInOrder := by
      rw [hstore]
      exact hsound.ledger.sessions
    obtain ⟨found, hfound, late, hlate, hends⟩ := late_of_enter rfl ha.confirmed ha.verifies
      hprog' hsessions (turn 1).draw (turn 2).draw (turn 3).draw hfound rfl (Int.le_refl _)
      [turn 4, turn 5, turn 6, turn 7, turn 8]
    have htrace := Pool.trace_cons htr
      (turn 1 :: turn 2 :: turn 3 :: [turn 4, turn 5, turn 6, turn 7, turn 8])
    rw [hturns, htrace]
    exact ⟨found, List.mem_cons_of_mem _ hfound, late, List.mem_cons_of_mem _ hlate, hends⟩

/-- A login of an account that is admitted, without faults and without a
deadline: the clock reaches the end of the session that it found, and it
fails. -/
theorem late_login_plain : ∃ requests before draw during, ∃ (i : Nat) (email password : String),
    requests[i]? = some ⟨unhurried, .login email password⟩ ∧
    Admitted ((plain.start {} requests).run before).world.store email password ∧
    (∀ t ∈ ((plain.start {} requests).run before).trace (⟨i, draw⟩ :: during),
      t.program = i → t.InTime plain.issuer unhurried) ∧
    ((plain.start {} requests).run (before ++ ⟨i, draw⟩ :: during)).programs[i]? =
      some (.done (.error (.reported .sessionNotFound))) := by
  obtain ⟨es, e, p, hes, hnow, hop, hp, hfits, -⟩ :=
    exists_session acceptable_plain ready_plain (by decide) (by decide) (w := {}) rfl
  obtain ⟨a, ha⟩ := hes.exists_resides rfl hfits hop hp
  let i := (es ++ [e]).length
  let login : Request := ⟨unhurried, .login "owner@example.org" "password"⟩
  let requests := (es ++ [e]).map Errand.request ++ [login]
  have hrequest : requests[i]? = some login := by simp [requests, i]
  obtain ⟨before, hbefore⟩ := hes.exists_inTurn (List.prefix_append _ [login])
  have hunbegun : ∀ t ∈ (plain.start {} requests).trace before, t.program ≠ i :=
    fun t ht => Nat.ne_of_lt (hbefore.calm t ht).1
  have hsound := plain.sound_run (w := {}) rfl requests before
  rw [← hbefore.world, hnow e (by simp)] at ha
  have hprog : ((plain.start {} requests).run before).programs[i]? =
      some (plain.perform unhurried (.login "owner@example.org" "password")).run := by
    rw [Pool.getElem?_run_of_notMem before hunbegun]
    simp [start, hrequest, login]
  obtain ⟨id, hinj, hnew⟩ := exists_fresh (identifiers ((plain.start {} requests).trace before))
  let later : Int := 0 + plain.issuer.refreshTtl
  have hlate := late_of_turnsUntil hsound hprog ha id ready_plain.pairFits
  have hfresh : (identifiers ((plain.start {} requests).trace
      (before ++ turnsUntil i 0 later id))).Nodup := by
    have hdrawn : (turnsUntil i 0 later id).map (·.draw.identifier) = (List.range 9).map id := rfl
    have hsub := Pool.identifiers_trace_sublist ((plain.start {} requests).run before)
      (turnsUntil i 0 later id)
    rw [hdrawn] at hsub
    rw [Pool.trace_append, identifiers_append, List.nodup_append]
    refine ⟨(hbefore.orderly hes).fresh, (List.nodup_range.map hinj).sublist hsub, ?_⟩
    rintro x hx _ hx' rfl
    obtain ⟨n, -, rfl⟩ := List.mem_map.1 (hsub.subset hx')
    exact hnew n hx
  have hin : ∀ t ∈ ((plain.start {} requests).run before).trace (turnsUntil i 0 later id),
      t.program = i → t.InTime plain.issuer unhurried := by
    intro t ht _
    obtain ⟨turn, hturn, -, hdraw⟩ := Pool.mem_trace ht
    obtain ⟨n, -, rfl⟩ := List.mem_map.1 hturn
    refine ⟨by rw [hdraw]; rfl, rfl, ?_⟩
    rw [Transition.time, hdraw]
    show plain.issuer.PairFits (if n < 3 then 0 else later)
    split
    · exact ready_plain.pairFits
    · exact ⟨by decide, by decide⟩
  have hadmitted : Admitted ((plain.start {} requests).run before).world.store
      "owner@example.org" "password" :=
    ⟨a, ha.mem, ha.email, ha.confirmed, ha.verifies⟩
  have hcount : 8 ≤ (turnsUntil i 0 later id).tail.countP fun t => t.program = i := by
    simp [turnsUntil, List.range_succ]
  obtain ⟨result, hdone, -, hiff⟩ := login_succeeds_unless_late plain rfl hrequest hunbegun
    hadmitted ⟨_, rfl⟩ hfresh hin hcount
  rw [hiff.2 hlate] at hdone
  exact ⟨requests, before, _, _, i, _, _, hrequest, hadmitted, hin, hdone⟩

end Service

end SignOn
