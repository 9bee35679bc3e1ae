import SignOn.Proofs.Service.Aftermath
import SignOn.Proofs.Service.History
import SignOn.Proofs.Session.Admission
/-!
# Operations that come too late

What an operation checks before it turns to the store or to a password it
checks whether or not there is time left; then it stops. So an operation
whose deadline has passed before it begins changes nothing and publishes
nothing, and it fails like the first of its checks that is not passed, or
else for being late: `Service.late_perform`.
-/

namespace SignOn

/-! ## Checks -/

/-- A check that an operation makes of its input, and the failure that it
is not to pass. -/
structure Check where
  passed : Bool
  failure : ServiceError

/-- How the first check that is not passed fails; to pass all of them is to
be late. -/
def Check.firstFailure (checks : List Check) : ServiceError :=
  match checks.find? fun c => !c.passed with
  | some c => c.failure
  | none => .deadlineExceeded

/-- What it is that a field is not acceptable. -/
def Field.failure : Field → ServiceError
  | .email => .invalidEmail
  | .password => .invalidPassword
  | .displayName => .invalidDisplayName
  | .phone => .invalidPhone
  | .telegram => .invalidTelegram

namespace Check

/-- A token must name an account. -/
def ofToken (named : Option Int) : Check :=
  ⟨named.isSome, .invalidToken⟩

theorem firstFailure_of_passed {c : Check} (h : c.passed = true) (checks : List Check) :
    firstFailure (c :: checks) = firstFailure checks := by
  simp [firstFailure, h]

theorem firstFailure_of_not_passed {c : Check} (h : c.passed = false) (checks : List Check) :
    firstFailure (c :: checks) = c.failure := by
  simp [firstFailure, h]

/-- A failure is that of a check that is not passed, or of being late. -/
theorem firstFailure_cases (checks : List Check) :
    (∃ c ∈ checks, c.passed = false ∧ firstFailure checks = c.failure) ∨
      (∀ c ∈ checks, c.passed = true) ∧ firstFailure checks = .deadlineExceeded := by
  unfold firstFailure
  cases hfind : checks.find? fun c => !c.passed with
  | some c =>
    have hnot := List.find?_some hfind
    exact .inl ⟨c, List.mem_of_find?_eq_some hfind, by simpa using hnot, rfl⟩
  | none =>
    rw [List.find?_eq_none] at hfind
    exact .inr ⟨fun c hc => by simpa using hfind c hc, rfl⟩

/-- A check that fails like no query does, and refuses a token only if it
names nobody. -/
structure Fair (named : Option Int) (c : Check) : Prop where
  ne_accountNotFound : c.failure ≠ .accountNotFound
  ne_storage : ∀ cause, c.failure ≠ .storage cause
  passed_of_invalidToken : c.failure = .invalidToken → c.passed = named.isSome

theorem fair_field {named : Option Int} (passed : Bool) (field : Field) :
    Fair named ⟨passed, field.failure⟩ := by
  cases field <;> exact ⟨nofun, nofun, nofun⟩

theorem fair_ofToken (named : Option Int) : Fair named (ofToken named) :=
  ⟨nofun, nofun, fun _ => rfl⟩

/-- So does whoever makes such checks only, and is late otherwise. -/
theorem firstFailure_fair {named : Option Int} {checks : List Check}
    (h : ∀ c ∈ checks, c.Fair named) : firstFailure checks ≠ .accountNotFound ∧
      (∀ cause, firstFailure checks ≠ .storage cause) ∧
      (firstFailure checks = .invalidToken → named = none) := by
  rcases firstFailure_cases checks with ⟨c, hc, hnot, heq⟩ | ⟨-, heq⟩
  · have hfair := h c hc
    rw [heq]
    refine ⟨hfair.ne_accountNotFound, hfair.ne_storage, fun htoken => ?_⟩
    have hnamed := hfair.passed_of_invalidToken htoken
    rw [hnot] at hnamed
    exact Option.not_isSome_iff_eq_none.1 (by simp [← hnamed])
  · rw [heq]
    exact ⟨nofun, nofun, nofun⟩

end Check

namespace Service

/-- The checks of an operation before its first step that takes time, in
their order. Tokens are checked at a time. -/
def checks (s : Service) (now : Int) : Operation → List Check
  | .register input =>
    [⟨s.validator.accepts .email input.email, Field.failure .email⟩,
      ⟨s.validator.accepts .password input.password, Field.failure .password⟩,
      ⟨s.validator.accepts .displayName input.displayName, Field.failure .displayName⟩]
  | .refresh token => [.ofToken (namedByOpaque? token fun t =>
      (s.issuer.parseRefresh now t).bind s.issuer.parseEmbeddedAccess)]
  | .logout token | .getMe token => [.ofToken (s.issuer.parseAccess now token)]
  | .verifyEmail token =>
    [.ofToken (namedByOpaque? token fun t => s.issuer.parseAccount now t .verifyEmail)]
  | .forgetPassword token new =>
    [⟨s.validator.accepts .password new, Field.failure .password⟩,
      .ofToken (namedByOpaque? token fun t => s.issuer.parseAccount now t .forgetPassword)]
  | .changePassword token old new =>
    [⟨s.validator.accepts .password new, Field.failure .password⟩, ⟨old != new, .invalidPassword⟩,
      .ofToken (s.issuer.parseAccess now token)]
  | .updateProfile token patch =>
    [⟨s.acceptsIfPresent .displayName patch.displayName, Field.failure .displayName⟩,
      ⟨s.acceptsIfPresent .phone patch.phone, Field.failure .phone⟩,
      ⟨s.acceptsIfPresent .telegram patch.telegram, Field.failure .telegram⟩,
      .ofToken (s.issuer.parseAccess now token)]
  | .login _ _ | .sendVerifyEmail _ | .sendForgetPassword _ | .getUser _ | .getUserByEmail _
  | .getUsers _ | .purge => []

/-- **No check fails like a query**, and a token is refused only if it
names nobody. -/
theorem fair_of_mem_checks {s : Service} {now : Int} {op : Operation} (store : Store) :
    ∀ c ∈ s.checks now op, c.Fair (s.named? now store op) := by
  cases op with
  | register input =>
    exact List.forall_mem_cons.2 ⟨Check.fair_field _ _, List.forall_mem_cons.2
      ⟨Check.fair_field _ _, List.forall_mem_singleton.2 (Check.fair_field _ _)⟩⟩
  | refresh token => exact List.forall_mem_singleton.2 (Check.fair_ofToken _)
  | logout token => exact List.forall_mem_singleton.2 (Check.fair_ofToken _)
  | verifyEmail token => exact List.forall_mem_singleton.2 (Check.fair_ofToken _)
  | forgetPassword token new =>
    exact List.forall_mem_cons.2
      ⟨Check.fair_field _ _, List.forall_mem_singleton.2 (Check.fair_ofToken _)⟩
  | changePassword token old new =>
    exact List.forall_mem_cons.2 ⟨Check.fair_field _ _, List.forall_mem_cons.2
      ⟨Check.fair_field _ .password, List.forall_mem_singleton.2 (Check.fair_ofToken _)⟩⟩
  | getMe token => exact List.forall_mem_singleton.2 (Check.fair_ofToken _)
  | updateProfile token patch =>
    exact List.forall_mem_cons.2 ⟨Check.fair_field _ _, List.forall_mem_cons.2
      ⟨Check.fair_field _ _, List.forall_mem_cons.2
        ⟨Check.fair_field _ _, List.forall_mem_singleton.2 (Check.fair_ofToken _)⟩⟩⟩
  | _ => exact List.forall_mem_nil _

end Service

/-! ## When the deadline has passed -/

/-- A deadline that has passed stays passed. -/
theorem RequestContext.isOver_mono {ctx : RequestContext} {m m' : Moment}
    (h : ctx.isOver m = true) (hle : m.ticks ≤ m'.ticks) : ctx.isOver m' = true := by
  unfold isOver at h ⊢
  cases hd : ctx.deadline with
  | none => simp [hd] at h
  | some d =>
    simp only [hd, decide_eq_true_eq] at h ⊢
    omega

/-- No query meets a fault, as none does that is not begun. -/
def Draws.Faultless (draws : Draws) : Prop :=
  ∀ n e, (draws n e).storeFault = none

/-- What steps come to when the deadline of a request has passed, by their
number: the clock shows what is drawn, the request is late, and a query
fails, for this reason if it meets no fault. -/
def Setting.late (draws : Draws) (ctx : RequestContext) : Setting Nat where
  permits _ e := e.IsFor ctx ∧ ∀ c subject payload, e ≠ .publish c subject payload
  answers n e r n' := n' = n + 1 ∧
    match e, r with
    | .clock, m => m = (draws n .clock).moment
    | .deadline _, late => late = true
    | .query _ _, r => ∃ c, r = .error c ∧ (draws.Faultless → c = .deadlineExceeded)
    | _, _ => True

/-- **What a program meets when it is late** holds of its run, and the run
changes nothing. -/
theorem Program.run_of_meets_late {α : Type} {draws : Draws} {ctx : RequestContext}
    (hover : ∀ n e, ctx.isOver (draws n e).moment = true) {Q : Nat → α → Prop} {p : Program α}
    {n : Nat} {w : World} (hp : p.Meets (.late draws ctx) Q n) :
    (∃ n', Q n' (p.run draws n w).result) ∧ (p.run draws n w).world.store = w.store ∧
      (p.run draws n w).world.outbox = w.outbox := by
  induction p generalizing n w with
  | done a => exact ⟨⟨n, hp⟩, rfl, rfl⟩
  | await e next ih =>
    obtain ⟨⟨hfor, hpublish⟩, hnext⟩ := hp
    cases e with
    | clock => exact ih _ (hnext (draws n .clock).moment _ ⟨rfl, rfl⟩)
    | identifier => exact ih _ (hnext (draws n .identifier).identifier _ ⟨rfl, trivial⟩)
    | salt => exact ih _ (hnext (draws n .salt).salt _ ⟨rfl, trivial⟩)
    | deadline c =>
      obtain rfl : c = ctx := hfor
      exact ih _ (hnext _ _ ⟨rfl, hover n _⟩)
    | publish c subject payload => exact absurd rfl (hpublish c subject payload)
    | query c q =>
      obtain rfl : c = ctx := hfor
      -- a fault is met before the deadline is looked at
      have hanswer : ∃ cause, w.answer (draws n (.query c q)) (.query c q) =
            (.error cause, w.note (.query q)) ∧ (draws.Faultless → cause = .deadlineExceeded) := by
        show ∃ cause, (w.note (.query q)).query (draws n (.query c q)) c q = _ ∧ _
        unfold World.query
        cases hfault : (draws n (.query c q)).storeFault with
        | some cause =>
          refine ⟨cause, rfl, fun hfaultless => ?_⟩
          rw [hfaultless] at hfault
          cases hfault
        | none => exact ⟨.deadlineExceeded, if_pos (hover n _), fun _ => rfl⟩
      obtain ⟨cause, heq, hcause⟩ := hanswer
      have hrun : (Program.await (.query c q) next).run draws n w =
          (next (.error cause)).run draws (n + 1) (w.note (.query q)) := by
        show (next (w.answer (draws n (.query c q)) (.query c q)).1).run draws (n + 1)
          (w.answer (draws n (.query c q)) (.query c q)).2 = _
        rw [heq]
      rw [hrun]
      exact ih (.error cause) (hnext (.error cause) _ ⟨rfl, cause, rfl, hcause⟩)

namespace Procedure

variable {α β : Type} {draws : Draws} {ctx : RequestContext} {checks : List Check} {n : Nat}
variable {failure : ServiceError}

/-- A procedure that fails like the first of some checks that is not
passed, or for being late, when no query meets a fault. -/
def StopsLate (draws : Draws) (ctx : RequestContext) (checks : List Check) (x : Procedure α)
    (n : Nat) : Prop :=
  Meets (.late draws ctx) (fun _ _ => ¬ draws.Faultless)
    (fun _ e => draws.Faultless → e = .reported (Check.firstFailure checks)) x n

/-- A check is made, and the rest is checked if it is passed. -/
theorem StopsLate.require {condition : Bool} {next : Unit → Procedure β}
    (h : condition = true → StopsLate draws ctx checks (next ()) n) :
    StopsLate draws ctx (⟨condition, failure⟩ :: checks) (require condition failure >>= next) n := by
  refine meets_bind.2 (meets_require.2 ⟨fun hpassed => ?_, fun hfailed _ => ?_⟩)
  · rw [Check.firstFailure_of_passed hpassed]
    exact h hpassed
  · rw [Check.firstFailure_of_not_passed hfailed]

/-- So is a token. -/
theorem StopsLate.expect {named : Option Int} {next : Int → Procedure β}
    (h : ∀ u, StopsLate draws ctx checks (next u) n) :
    StopsLate draws ctx (.ofToken named :: checks) (expect .invalidToken named >>= next) n := by
  refine meets_bind.2 (meets_expect.2 ⟨?_, ?_⟩)
  · rintro u rfl
    rw [Check.firstFailure_of_passed rfl]
    exact h u
  · rintro rfl _
    rw [Check.firstFailure_of_not_passed rfl]
    rfl

/-- The clock shows what is drawn. -/
theorem StopsLate.now {next : Int → Procedure β}
    (h : StopsLate draws ctx checks (next (draws n .clock).moment.seconds) (n + 1)) :
    StopsLate draws ctx checks (now >>= next) n := by
  refine meets_bind.2 (meets_now.2 ⟨⟨trivial, nofun⟩, ?_⟩)
  rintro m _ ⟨rfl, rfl⟩
  exact h

/-- A query is the end. -/
theorem meets_late_ask {q : Query} {failure : StoreError → ServiceError}
    {ok : Nat → q.Answer → Prop} (hfailure : failure .deadlineExceeded = .deadlineExceeded) :
    Meets (.late draws ctx) ok (fun _ e => draws.Faultless → e = .reported (Check.firstFailure []))
      (ask ctx q failure) n := by
  refine meets_ask.2 ⟨⟨rfl, nofun⟩, ?_, ?_⟩
  · rintro a _ ⟨-, c, hc, -⟩
    cases hc
  · rintro e _ ⟨-, c, hc, hlate⟩ hfaultless
    rw [Except.error.inj hc, hlate hfaultless]
    exact congrArg Failure.reported hfailure

theorem stopsLate_ask {q : Query} {failure : StoreError → ServiceError}
    {next : q.Answer → Procedure β} (hfailure : failure .deadlineExceeded = .deadlineExceeded) :
    StopsLate draws ctx [] (ask ctx q failure >>= next) n :=
  meets_bind.2 (meets_late_ask hfailure)

/-- So is the work on a password. -/
theorem meets_late_beforeDeadline {ok : Nat → Unit → Prop} :
    Meets (.late draws ctx) ok (fun _ e => draws.Faultless → e = .reported (Check.firstFailure []))
      (Service.beforeDeadline ctx) n := by
  refine meets_bind.2 (meets_step.2 ⟨⟨rfl, nofun⟩, ?_⟩)
  rintro _ _ ⟨-, rfl⟩
  exact meets_require.2 ⟨nofun, fun _ _ => rfl⟩

end Procedure

namespace Service

open Procedure

variable {β : Type} (s : Service) {draws : Draws} {ctx : RequestContext} {checks : List Check}

/-! ## Operations -/

theorem stopsLate_requireValid {field : Field} {text : String} {next : Unit → Procedure β} {n : Nat}
    (h : StopsLate draws ctx checks (next ()) n) :
    StopsLate draws ctx (⟨s.validator.accepts field text, field.failure⟩ :: checks)
      (s.requireValid field text >>= next) n :=
  StopsLate.require fun _ => h

/-- What is missing is acceptable. -/
theorem requireValidIfPresent_eq {field : Field} {text : Option String} :
    s.requireValidIfPresent field text =
      require (s.acceptsIfPresent field text) field.failure := by
  cases text <;> rfl

theorem stopsLate_requireValidIfPresent {field : Field} {text : Option String}
    {next : Unit → Procedure β} {n : Nat} (h : StopsLate draws ctx checks (next ()) n) :
    StopsLate draws ctx (⟨s.acceptsIfPresent field text, field.failure⟩ :: checks)
      (s.requireValidIfPresent field text >>= next) n := by
  rw [requireValidIfPresent_eq]
  exact StopsLate.require fun _ => h

theorem stopsLate_accountOfAccess {token : String} {next : Int → Procedure β} {n : Nat}
    (h : ∀ u, StopsLate draws ctx checks (next u) (n + 1)) :
    StopsLate draws ctx
      (.ofToken (s.issuer.parseAccess (draws n .clock).moment.seconds token) :: checks)
      (s.accountOfAccess token >>= next) n := by
  rw [accountOfAccess, bind_assoc]
  exact StopsLate.now (StopsLate.expect h)

/-- A token in opaque form may also fail to be one. -/
theorem stopsLate_unwrap {token : String} {read : String → Option Int}
    {next : String → Procedure β} {n : Nat}
    (h : ∀ t, Wrapped.decodeString token = .ok t →
      StopsLate draws ctx (.ofToken (read t) :: checks) (next t) n) :
    StopsLate draws ctx (.ofToken (namedByOpaque? token read) :: checks)
      (unwrap token >>= next) n := by
  refine meets_bind.2 (meets_ofExcept.2 ⟨fun t ht => ?_, fun e he _ => ?_⟩)
  · have hnamed : namedByOpaque? token read = read t := by
      rw [namedByOpaque?, ht]
      rfl
    rw [hnamed]
    exact h t ht
  · have hnamed : namedByOpaque? token read = none := by
      rw [namedByOpaque?, he]
      rfl
    rw [hnamed, Check.firstFailure_of_not_passed rfl]
    rfl

theorem stopsLate_accountOfOpaque {token : String} {kind : TokenKind} {next : Int → Procedure β}
    {n : Nat} (h : ∀ u, StopsLate draws ctx checks (next u) (n + 1)) :
    StopsLate draws ctx
      (.ofToken (namedByOpaque? token
        fun t => s.issuer.parseAccount (draws n .clock).moment.seconds t kind) :: checks)
      (s.accountOfOpaque token kind >>= next) n := by
  rw [accountOfOpaque, bind_assoc]
  refine stopsLate_unwrap fun t _ => ?_
  rw [bind_assoc]
  exact StopsLate.now (StopsLate.expect h)

theorem stopsLate_register (input : Registration) (now : Int) :
    StopsLate draws ctx (s.checks now (.register input)) (s.register ctx input) 0 := by
  refine s.stopsLate_requireValid (s.stopsLate_requireValid (s.stopsLate_requireValid ?_))
  exact meets_bind.2 (meets_bind.2 meets_late_beforeDeadline)

theorem stopsLate_refresh (token : String) :
    StopsLate draws ctx (s.checks (draws 0 .clock).moment.seconds (.refresh token))
      (s.refresh ctx token) 0 := by
  refine stopsLate_unwrap fun t _ => StopsLate.now ?_
  -- the token carries another one, and both are looked at
  refine meets_bind.2 (meets_expect.2 ⟨fun access haccess => ?_, fun hnone _ => ?_⟩)
  · rw [haccess]
    exact StopsLate.expect fun u => stopsLate_ask rfl
  · rw [hnone, Check.firstFailure_of_not_passed rfl]
    rfl

theorem stopsLate_logout (token : String) :
    StopsLate draws ctx (s.checks (draws 0 .clock).moment.seconds (.logout token))
      (s.logout ctx token) 0 := by
  refine s.stopsLate_accountOfAccess fun u => meets_recover.2 ?_
  refine meets_bind.2 (meets_step.2 ⟨⟨rfl, nofun⟩, ?_⟩)
  rintro _ _ ⟨-, c, rfl, hlate⟩
  -- only a fault is passed over in silence
  cases c with
  | notFound what => exact fun hfaultless => nomatch hlate hfaultless
  | deadlineExceeded => exact fun _ => rfl
  | _ => exact fun hfaultless => nomatch hlate hfaultless

theorem stopsLate_updateProfile (token : String) (patch : ProfilePatch) :
    StopsLate draws ctx (s.checks (draws 0 .clock).moment.seconds (.updateProfile token patch))
      (s.updateProfile ctx token patch) 0 :=
  s.stopsLate_requireValidIfPresent (s.stopsLate_requireValidIfPresent
    (s.stopsLate_requireValidIfPresent (s.stopsLate_accountOfAccess fun _ => stopsLate_ask rfl)))

/-- **Every operation stops** after its checks. -/
theorem stopsLate_perform (op : Operation) :
    StopsLate draws ctx (s.checks (draws 0 .clock).moment.seconds op) (s.perform ctx op) 0 := by
  cases op with
  | register input => exact meets_map.2 (s.stopsLate_register input _)
  | login email password => exact meets_map.2 (stopsLate_ask rfl)
  | refresh token => exact meets_map.2 (s.stopsLate_refresh token)
  | logout token => exact meets_map.2 (s.stopsLate_logout token)
  | sendVerifyEmail email => exact meets_map.2 (stopsLate_ask rfl)
  | verifyEmail token =>
    exact meets_map.2 (s.stopsLate_accountOfOpaque fun _ => stopsLate_ask rfl)
  | sendForgetPassword email => exact meets_map.2 (stopsLate_ask rfl)
  | forgetPassword token new =>
    exact meets_map.2 (s.stopsLate_requireValid
      (s.stopsLate_accountOfOpaque fun _ => stopsLate_ask rfl))
  | changePassword token old new =>
    exact meets_map.2 (s.stopsLate_requireValid (StopsLate.require
      fun _ => s.stopsLate_accountOfAccess fun _ => stopsLate_ask rfl))
  | getMe token => exact meets_map.2 (s.stopsLate_accountOfAccess fun _ => meets_late_ask rfl)
  | getUser id => exact meets_map.2 (meets_late_ask rfl)
  | getUserByEmail email => exact meets_map.2 (meets_late_ask rfl)
  | getUsers page => exact meets_map.2 (meets_late_ask rfl)
  | updateProfile token patch => exact meets_map.2 (s.stopsLate_updateProfile token patch)
  | purge => exact meets_map.2 (StopsLate.now (meets_late_ask rfl))

/-- **An operation that comes too late does nothing.** In any world, an
operation with any input whose deadline has passed at a moment, and whose
steps are not taken before that moment, leaves both tables and what was
published as they are, whatever faults its queries and publications meet.
If no query meets a fault, then it fails, and its failure is that of the
first of its checks that is not passed, or `deadlineExceeded` if all of
them are passed. So it is neither told that an account is missing nor that
the store has failed, and no token is refused that names an account. -/
theorem late_perform (s : Service) (w : World) (e : Errand) {start : Moment}
    (hover : e.ctx.isOver start = true)
    (hsteady : ∀ n eff, start.ticks ≤ (e.draws n eff).moment.ticks) :
    (s.carryOut w e).world.store = w.store ∧ (s.carryOut w e).world.outbox = w.outbox ∧
      (e.draws.Faultless → ∃ failure, (s.carryOut w e).result = .error (.reported failure) ∧
        failure = Check.firstFailure (s.checks (e.draws 0 .clock).moment.seconds e.operation) ∧
        failure ≠ .accountNotFound ∧ (∀ cause, failure ≠ .storage cause) ∧
        (failure = .invalidToken →
          s.named? (e.draws 0 .clock).moment.seconds w.store e.operation = none)) := by
  have hlate : ∀ n eff, e.ctx.isOver (e.draws n eff).moment = true :=
    fun n eff => RequestContext.isOver_mono hover (hsteady n eff)
  obtain ⟨⟨n, hresult⟩, hstore, houtbox⟩ :=
    Program.run_of_meets_late hlate (w := w) (s.stopsLate_perform e.operation)
  refine ⟨hstore, houtbox, fun hfaultless => ?_⟩
  cases hend : ((s.perform e.ctx e.operation).run.run e.draws 0 w).result with
  | ok a =>
    rw [hend] at hresult
    exact absurd hfaultless hresult
  | error failure =>
    rw [hend] at hresult
    obtain rfl := hresult hfaultless
    exact ⟨_, hend, rfl, Check.firstFailure_fair (fair_of_mem_checks w.store)⟩

/-- A registration that comes too late is not carried out, good as it
is. -/
theorem late_register_plain : ∃ e : Errand,
    e.operation = .register ⟨"owner@example.org", "password", "Owner"⟩ ∧
    e.ctx.isOver ⟨0, 0⟩ = true ∧ (∀ n eff, 0 ≤ (e.draws n eff).moment.ticks) ∧
    e.draws.Faultless ∧ (plain.carryOut {} e).result = .error (.reported .deadlineExceeded) ∧
    (plain.carryOut {} e).world.store = .empty := by
  let e : Errand := ⟨⟨"late", some 0⟩, .register ⟨"owner@example.org", "password", "Owner"⟩, 0,
    calmDraws 0 fun _ => ""⟩
  have hsteady : ∀ n eff, 0 ≤ (e.draws n eff).moment.ticks := fun _ _ => Nat.zero_le _
  have hfaultless : e.draws.Faultless := fun _ _ => rfl
  obtain ⟨hstore, -, hresult⟩ := late_perform plain {} e (rfl : e.ctx.isOver ⟨0, 0⟩ = true) hsteady
  obtain ⟨failure, hfails, heq, -⟩ := hresult hfaultless
  refine ⟨e, rfl, rfl, hsteady, hfaultless, ?_, hstore⟩
  rw [hfails, heq]
  rfl

end Service

end SignOn
