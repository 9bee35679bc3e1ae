import SignOn.Proofs.Account.Conduct
import SignOn.Proofs.Store.SessionMap
/-!
# What a purge does

A purge reads the clock and then removes, with one query, the sessions
that have ended by the moment that it has read, and it answers how many
they were (`Service.purgesExactly_of_turns`). No other operation removes
sessions (`Service.perform_spares`).
-/

namespace SignOn

/-! ## Who purges -/

theorem Effect.isPurge_iff {e : Effect} :
    e.isPurge = true ↔ ∃ ctx before, e = .query ctx (.purge before) := by
  constructor
  · intro he
    match e, he with
    | .query ctx (.purge before), _ => exact ⟨ctx, before, rfl⟩
  · rintro ⟨ctx, before, rfl⟩
    rfl

theorem Effect.spares_of_isQuiet {e : Effect} (he : e.isQuiet = true) : e.Spares := by
  refine Bool.eq_false_iff.2 fun hpurge => ?_
  obtain ⟨ctx, before, rfl⟩ := isPurge_iff.1 hpurge
  cases he

/-- A step that a purge takes: it looks at the clock, and purges. -/
def Effect.Clears (e : Effect) : Prop :=
  e = .clock ∨ e.isPurge = true

namespace Service

open Procedure

variable (s : Service) (ctx : RequestContext)

/-- **No other operation purges.** -/
theorem perform_spares {op : Operation} (h : op ≠ .purge) :
    (s.perform ctx op).Uses Effect.Spares := by
  cases op with
  | login email password =>
    exact ((s.sessional_login ctx email password).mono fun _ he => he.2).map _
  | refresh token => exact ((s.sessional_refresh ctx token).mono fun _ he => he.2).map _
  | logout token => exact ((s.sessional_logout ctx token).mono fun _ he => he.2).map _
  | purge => exact absurd rfl h
  | _ => exact (s.quiet_perform ctx rfl).mono fun _ he => Effect.spares_of_isQuiet he.1

/-! ## What a purge does -/

/-- What a purge answers, by what its query gave. -/
def purged (x : Except StoreError Nat) : Except (Failure ServiceError) Answer :=
  match x with
  | .ok n => .ok (.count n)
  | .error e => .error (.reported (.ofStore e))

/-- A purge has read a moment, and has asked to purge the sessions that
have ended by then. -/
theorem perform_purge_meets :
    (s.perform ctx .purge).run.Meets .free
      (fun h r => ∃ (m : Moment) (x : Except StoreError Nat),
        h = [⟨.clock, m⟩, ⟨.query ctx (.purge m.seconds), x⟩] ∧ r = purged x) [] := by
  have hmeets : Meets .free
      (fun h a => ∃ (m : Moment) (n : Nat),
        h = [⟨.clock, m⟩, ⟨.query ctx (.purge m.seconds), .ok n⟩] ∧ a = .count n)
      (fun h e => ∃ (m : Moment) (cause : StoreError),
        h = [⟨.clock, m⟩, ⟨.query ctx (.purge m.seconds), .error cause⟩] ∧
          e = .reported (.ofStore cause))
      (Answer.count <$> purge ctx) [] :=
    meets_map.2 <| meets_bind.2 <| meets_history_now trivial fun m _ =>
      meets_history_ask trivial (fun n _ => ⟨m, n, rfl, rfl⟩) fun cause _ => ⟨m, cause, rfl, rfl⟩
  refine Program.Meets.mono hmeets fun h r hr => ?_
  cases r with
  | ok a =>
    obtain ⟨m, n, rfl, rfl⟩ := hr
    exact ⟨m, .ok n, rfl, rfl⟩
  | error e =>
    obtain ⟨m, cause, rfl, rfl⟩ := hr
    exact ⟨m, .error cause, rfl, rfl⟩

theorem perform_purge_clears : (s.perform ctx .purge).Uses Effect.Clears := by
  have hclock : Effect.Clears .clock := .inl rfl
  have hquery (before : Int) : Effect.Clears (.query ctx (.purge before)) := .inr rfl
  exact ((uses_now hclock).bind fun before => uses_ask (hquery before) _).map Answer.count

theorem takes_purge : Takes 2 (purge ctx) :=
  takes_now.bind fun now => takes_ask ctx (.purge now) _

end Service

namespace Transition

variable {t : Transition} {ctx : RequestContext}

/-- A purge that is carried out removes what has ended. -/
theorem Faultless.purge_eq (h : t.Faultless) {before : Int} {x : Except StoreError Nat}
    (hstep : t.step = ⟨.query ctx (.purge before), x⟩) :
    x = .ok (t.before.store.purge before).1 ∧ t.after.store = (t.before.store.purge before).2 := by
  cases x with
  | ok n =>
    have hrun := run_of_answers (q := .purge before) (x := n) ⟨ctx, hstep⟩
    obtain ⟨hn, hstore⟩ := Prod.mk.inj (Except.ok.inj hrun)
    exact ⟨congrArg Except.ok hn.symm, hstore.symm⟩
  | error e => cases h.run_eq_error hstep

end Transition

namespace Service

variable {s : Service} {w : World} {requests : List Request} {turns : List Turn} {i : Nat}
variable {ctx : RequestContext}

/-- What has become of a purge: it has read a moment, and with its one
query it has removed exactly the sessions that have ended by then and
answers how many they were. If the query is not carried out nothing is
removed, and the purge fails for that. -/
def PurgesExactly (s : Service) (w : World) (requests : List Request) (turns : List Turn) (i : Nat)
    (ctx : RequestContext) : Prop :=
  ∃ (m : Moment) (t : Transition), t ∈ (s.start w requests).trace turns ∧ t.program = i ∧
    stepsOf i ((s.start w requests).trace turns) = [⟨.clock, m⟩, t.step] ∧
    t.effect = .query ctx (.purge m.seconds) ∧
    (t.Faultless →
      ((s.start w requests).run turns).programs[i]? =
        some (.done (.ok (.count (t.before.store.sessions.countP fun r => r.ttl ≤ m.seconds)))) ∧
      t.after.store = { t.before.store with
        sessions := t.before.store.sessions.filter fun r => m.seconds < r.ttl }) ∧
    (¬ t.Faultless →
      (∃ e, ((s.start w requests).run turns).programs[i]? =
        some (.done (.error (.reported (.ofStore e))))) ∧
      t.after.store = t.before.store)

/-- **A purge removes exactly what has ended**, as soon as it has had two
turns. -/
theorem purgesExactly_of_turns (hrequest : requests[i]? = some ⟨ctx, .purge⟩)
    (hturns : 2 ≤ turns.countP fun t => t.program = i) :
    s.PurgesExactly w requests turns i ctx := by
  have hprog := s.start_getElem? w hrequest
  have hcountdown : (s.perform ctx .purge).run.Meets .countdown (fun _ _ => True) 2 :=
    Program.Meets.mono (((takes_purge ctx).map Answer.count) 2 (Nat.le_refl 2)) fun _ _ _ => trivial
  obtain ⟨r, hdone⟩ := Pool.done_of_countdown turns hprog hcountdown hturns
  obtain ⟨prog, hprog', hmeets⟩ := Pool.meets_run turns hprog (s.perform_purge_meets ctx)
  obtain rfl := Option.some.inj (hprog'.symm.trans hdone)
  obtain ⟨m, x, hsteps, rfl⟩ := hmeets
  have hmem : (⟨.query ctx (.purge m.seconds), x⟩ : Step) ∈
      stepsOf i ((s.start w requests).trace turns) := by
    rw [hsteps]
    exact List.mem_cons_of_mem _ (List.mem_singleton_self _)
  obtain ⟨t, ht, hi, hstep⟩ := mem_stepsOf.1 hmem
  refine ⟨m, t, ht, hi, hstep ▸ hsteps, congrArg Step.effect hstep, fun hfaultless => ?_,
    fun hfault => ?_⟩
  · obtain ⟨rfl, hafter⟩ := hfaultless.purge_eq hstep
    rw [hdone, hafter, Store.purge_snd, purged, Store.purge_fst]
    exact ⟨rfl, rfl⟩
  · obtain ⟨e, rfl, hafter⟩ := Transition.exists_error_of_not_faultless hfault hstep
    exact ⟨⟨e, hdone⟩, hafter⟩

/-- A purge that has its two turns at once, and meets no fault. -/
theorem trace_purge {q : Pool (Except (Failure ServiceError) Answer)} {d : Draw}
    (hprog : q.programs[i]? = some (s.perform ctx .purge).run) (hfault : d.storeFault = none)
    (hover : ctx.isOver d.moment = false) :
    q.trace [⟨i, d⟩, ⟨i, d⟩] =
        [⟨i, d, q.world, .clock⟩, ⟨i, d, q.world, .query ctx (.purge d.moment.seconds)⟩] ∧
      (q.run [⟨i, d⟩, ⟨i, d⟩]).programs[i]? =
        some (.done (.ok (.count (q.world.store.purge d.moment.seconds).1))) := by
  obtain ⟨htr₁, hworld, hnext⟩ := Pool.advance_of_await (e := .clock) hprog d
  obtain ⟨htr₂, -, hdone⟩ :=
    Pool.advance_of_await (e := .query ctx (.purge d.moment.seconds)) hnext d
  rw [hworld] at htr₂ hdone
  have hanswer : (q.world.answer d (.query ctx (.purge d.moment.seconds))).1 =
      .ok (q.world.store.purge d.moment.seconds).1 := by
    have hquery := World.query_of_run_eq_ok (q := .purge d.moment.seconds)
      (w := q.world.note (.query (.purge d.moment.seconds))) hfault hover rfl
    exact congrArg Prod.fst hquery
  refine ⟨?_, hdone.trans ?_⟩
  · rw [Pool.trace_cons htr₁, Pool.trace_cons htr₂]
    rfl
  · rw [show (q.world.answer d .clock).2 = q.world from rfl, hanswer]
    rfl

end Service

end SignOn
