import SignOn.Proofs.Service.Reach
import SignOn.Proofs.Session.Admission
/-!
# Failed operations leave no trace

An operation writes last: what can fail comes before, or it is swallowed.
Only a login or a refresh writes twice, and if the second write does not
come about, then the session that was to be replaced has ended. This is about
the errors that operations report: a registration that is aborted has
opened its account.
-/

namespace SignOn

namespace Service

variable {s : Service} {l : List Transition} {w : World} {now : Int} {op : Operation}
variable {store : Store} {outbox : Outbox} {σ : Stage} {err : ServiceError}

/-- What an operation that failed has changed: nothing, or it has ended
the session that it was about to replace. -/
theorem Aftermath.error_cases
    (h : s.Aftermath now op store outbox σ (.error (.reported err))) :
    σ.outbox = outbox ∧ (σ.store = store ∨
      op.replacesSession = true ∧ OpeningFailure (.reported err) ∧
        ∃ r ∈ store.sessions, ∃ t ∈ σ.taken,
          s.subject? now store op = some r.accountId ∧
          (∀ token, op = .refresh token → Wrapped.decodeString token = .ok r.value) ∧
          t.Answers (.endSession r.value) () ∧ t.time < r.ttl ∧
          σ.store = store.withEnded r t.time) := by
  cases h with
  | kept hbare => exact ⟨rfl, .inl rfl⟩
  | ended hop hsubject htoken hr ht hends hlive hfailure =>
    exact ⟨rfl, .inr ⟨hop, hfailure, _, hr, _, ht, hsubject, htoken, hends, hlive, rfl⟩⟩

/-- A refused token is not a failure of opening a session. -/
theorem not_openingFailure_of_refused (h : err = .invalidToken ∨ err = .tokensUnrelated) :
    ¬ OpeningFailure (.reported err) := by
  rintro (⟨c | _, hc⟩ | hc | ⟨c, hc⟩) <;> cases hc
  · rcases h with h | h <;> cases h
  · rcases h with h | h <;> cases h
  · -- a storage error is reported as one, or as a deadline
    cases c <;> rcases h with h | h <;> cases h

/-- **A failed operation leaves the state as it was.** In any world that
is reached, an operation that is carried out by itself, with any input,
and with any faults of its queries and of publishing, and that fails, has
changed no account and published nothing, and the sessions are as they
were, but for one case: a login or a refresh may have failed to open a
session after it had ended one. That is then the one live session of the
account that the operation is about, it was ended at the time of that
step, and nothing else is different; a refresh was given its token. In
particular a refresh that is refused leaves everything as it was. -/
theorem failed_leaves_state (s : Service) {l : List Transition} {w : World} (hw : s.Reaches l w)
    (e : Errand) {err : ServiceError}
    (hfails : (s.carryOut w e).result = .error (.reported err)) :
    (s.carryOut w e).world.store.accounts = w.store.accounts ∧
    (s.carryOut w e).world.outbox = w.outbox ∧
    ((s.carryOut w e).world.store = w.store ∨
      e.operation.replacesSession = true ∧ OpeningFailure (.reported err) ∧
        ∃ r ∈ w.store.sessions, ∃ t ∈ s.stepsTaken w e,
          s.subject? (e.draws 0 .clock).moment.seconds w.store e.operation = some r.accountId ∧
          (∀ token, e.operation = .refresh token → Wrapped.decodeString token = .ok r.value) ∧
          t.Answers (.endSession r.value) () ∧ t.time < r.ttl ∧
          (ClockForward (l ++ s.stepsTaken w e) → ∀ r' ∈ w.store.sessions,
            r'.accountId = r.accountId → t.time < r'.ttl → r' = r) ∧
          (s.carryOut w e).world.store = w.store.withEnded r t.time) ∧
    (∀ token, e.operation = .refresh token → err = .invalidToken ∨ err = .tokensUnrelated →
      (s.carryOut w e).world.store = w.store) := by
  have haftermath := hw.aftermath e
  rw [hfails] at haftermath
  obtain ⟨houtbox, hsame | ⟨hop, hfailure, r, hr, t, ht, hsubject, htoken, hends, hlive, hstore⟩⟩ :=
    haftermath.error_cases
  · have hsame : (s.carryOut w e).world.store = w.store := hsame
    exact ⟨congrArg Store.accounts hsame, houtbox, .inl hsame, fun _ _ _ => hsame⟩
  · have hstore : (s.carryOut w e).world.store = w.store.withEnded r t.time := hstore
    have haccounts : (s.carryOut w e).world.store.accounts = w.store.accounts := by
      rw [hstore]
      rfl
    refine ⟨haccounts, houtbox, .inr ⟨hop, hfailure, r, hr, t, ht, hsubject,
      htoken, hends, hlive, fun hforward r' hr' howner hlive' => ?_, hstore⟩, fun _ _ hrefused => ?_⟩
    · -- at the time of the step no other session of the account is live
      obtain ⟨hbefore, -, hlater⟩ := List.pairwise_append.1 hforward
      have hone := hw.oneLive hbefore fun t' ht' => hlater t' ht' t ht
      exact hone r' hr' r hr hlive' hlive howner
    · exact absurd hfailure (not_openingFailure_of_refused hrefused)

/-- A text that is no token is refused, and the session that there is
goes on. -/
theorem refused_leaves_session_plain : ∃ l w e, plain.Reaches l w ∧ w.store.sessions ≠ [] ∧
    (plain.carryOut w e).result = .error (.reported .invalidToken) ∧
    (plain.carryOut w e).world.store = w.store := by
  obtain ⟨es, token, hes, -, -, r, hr, -⟩ := exists_session_plain
  obtain ⟨l, hreaches, -⟩ := hes.exists_reaches rfl
  let e : Errand := ⟨unhurried, .refresh "?", 0, calmDraws 0 fun _ => ""⟩
  have hfails : (plain.carryOut (plain.after {} es) e).result =
      .error (.reported .invalidToken) := rfl
  have hleft := failed_leaves_state plain hreaches e hfails
  refine ⟨l, plain.after {} es, e, hreaches, List.ne_nil_of_mem hr, hfails, ?_⟩
  exact hleft.2.2.2 "?" rfl (.inl rfl)

end Service

end SignOn
