import SignOn.Proofs.Service.Alone
import SignOn.Proofs.Service.History
/-!
# Programs that nothing disturbs

A program by itself whose steps meet no fault of the store and no deadline
goes from world to world, and but for what is drawn each step is
determined by the world that it finds. Publishing may still fail.
`Setting.undisturbed` is this, and what a program meets in it holds of its
run, `Program.run_of_meets_undisturbed`.
-/

namespace SignOn

/-- What a step comes to that nothing disturbs. If the publisher works no
fault keeps it from publishing either. -/
def Setting.undisturbed (works : Prop) : Setting World where
  permits _ _ := True
  answers w e r w' := ∃ t : Transition, t.Undisturbed ∧ (works → t.draw.publishFault = none) ∧
    t.before = w ∧ t.step = ⟨e, r⟩ ∧ t.after = w'

/-- **What a program meets that nothing disturbs holds of its run.** -/
theorem Program.run_of_meets_undisturbed {α : Type} {draws : Draws} {works : Prop}
    {Q : World → α → Prop} {p : Program α} {n : Nat} {w : World}
    (h : p.Meets (.undisturbed works) Q w) (hsteps : ∀ t ∈ p.trace draws n w, t.Undisturbed)
    (hworks : works → ∀ t ∈ p.trace draws n w, t.draw.publishFault = none) :
    Q (p.run draws n w).world (p.run draws n w).result := by
  induction p generalizing n w with
  | done a => exact h
  | await e next ih =>
    let t : Transition := ⟨0, draws n e, w, e⟩
    have hfirst : t ∈ (Program.await e next).trace draws n w := List.mem_cons_self
    have hmeets : (next t.reply).Meets (.undisturbed works) Q t.after :=
      h.2 t.reply t.after ⟨t, hsteps t hfirst, fun hw => hworks hw t hfirst, rfl, rfl, rfl⟩
    exact ih t.reply hmeets (fun t' ht' => hsteps t' (List.mem_cons_of_mem _ ht'))
      fun hw t' ht' => hworks hw t' (List.mem_cons_of_mem _ ht')

/-- So it does of an errand. -/
theorem Service.carryOut_of_meets_undisturbed {s : Service} {w : World} {e : Errand} {works : Prop}
    {Q : World → Except (Failure ServiceError) Answer → Prop}
    (h : (s.perform e.ctx e.operation).run.Meets (.undisturbed works) Q w)
    (hsteps : ∀ t ∈ s.stepsTaken w e, t.Undisturbed)
    (hworks : works → ∀ t ∈ s.stepsTaken w e, t.draw.publishFault = none) :
    Q (s.carryOut w e).world (s.carryOut w e).result :=
  Program.run_of_meets_undisturbed h hsteps hworks

/-- What an errand meets by itself, disturbed or not, holds of what it comes
to. -/
theorem Service.carryOut_of_meets_alone {s : Service} {w : World} {e : Errand}
    {ok : Stage → Answer → Prop} {fail : Stage → Failure ServiceError → Prop}
    (h : Procedure.Meets (.alone e.draws) ok fail (s.perform e.ctx e.operation)
      ⟨[], w.store, w.outbox⟩) :
    (∀ a, (s.carryOut w e).result = .ok a → ok
      ⟨s.stepsTaken w e, (s.carryOut w e).world.store, (s.carryOut w e).world.outbox⟩ a) ∧
    ∀ err, (s.carryOut w e).result = .error err → fail
      ⟨s.stepsTaken w e, (s.carryOut w e).world.store, (s.carryOut w e).world.outbox⟩ err := by
  have hrun := Program.run_of_meets_alone (l := []) h
  unfold carryOut stepsTaken
  constructor
  · intro a ha
    rw [List.length_nil, ha] at hrun
    exact hrun
  · intro err herr
    rw [List.length_nil, herr] at hrun
    exact hrun

namespace Transition

variable {t : Transition} {ctx : RequestContext}

/-- A query that nothing disturbs is carried out. -/
theorem Undisturbed.query_cases {q : Query} {r : Except StoreError q.Answer} (h : t.Undisturbed)
    (hstep : t.step = ⟨.query ctx q, r⟩) :
    (∃ x store, t.before.store.run t.time q = .ok (x, store) ∧ r = .ok x ∧
      t.after = { t.before.note (.query q) with store := store }) ∨
    ∃ e, t.before.store.run t.time q = .error e ∧ r = .error e ∧
      t.after = t.before.note (.query q) := by
  obtain ⟨program, draw, before, effect⟩ := t
  obtain rfl : effect = .query ctx q := congrArg Step.effect hstep
  have hover := h.deadline ctx rfl
  have hreply : ((before.note (.query q)).query draw ctx q).1 = r := eq_of_heq (Step.mk.inj hstep).2
  cases hrun : before.store.run draw.moment.seconds q with
  | ok p =>
    have hanswer := World.query_of_run_eq_ok (w := before.note (.query q)) h.store hover hrun
    exact .inl ⟨p.1, p.2, hrun, hreply.symm.trans (congrArg Prod.fst hanswer),
      congrArg Prod.snd hanswer⟩
  | error e =>
    have hanswer := World.query_of_run_eq_error (w := before.note (.query q)) h.store hover hrun
    exact .inr ⟨e, hrun, hreply.symm.trans (congrArg Prod.fst hanswer), congrArg Prod.snd hanswer⟩

/-- What is published is the last in the outbox, unless a fault or the
outbox keeps it out. -/
theorem publish_eq {subject : String} {payload : List UInt8} {r : Except NotificationError Unit}
    (hstep : t.step = ⟨.publish ctx subject payload, r⟩) :
    (r = .ok () ∧ t.after = { t.before.note (.publish subject payload) with
      outbox := { t.before.outbox with
        published := t.before.outbox.published ++ [⟨subject, payload⟩] } }) ∨
    (¬ (t.draw.publishFault = none ∧ t.before.outbox.failing = false) ∧
      ∃ e, r = .error e ∧ t.after = t.before.note (.publish subject payload)) := by
  obtain ⟨program, draw, before, effect⟩ := t
  obtain rfl : effect = .publish ctx subject payload := congrArg Step.effect hstep
  have hreply : ((before.note (.publish subject payload)).publish draw subject payload).1 = r :=
    eq_of_heq (Step.mk.inj hstep).2
  rw [← hreply]
  show (_ ∧ ((before.note (.publish subject payload)).publish draw subject payload).2 = _) ∨ (_ ∧
    ∃ e, _ ∧ ((before.note (.publish subject payload)).publish draw subject payload).2 = _)
  cases hfault : draw.publishFault with
  | some e =>
    refine .inr ⟨by simp, e, ?_⟩
    simp only [World.publish, hfault, and_self]
  | none =>
    have houtbox : (before.note (.publish subject payload)).outbox = before.outbox := rfl
    cases hfailing : before.outbox.failing with
    | true =>
      refine .inr ⟨by simp, Outbox.refusal, ?_⟩
      simp only [World.publish, hfault, houtbox, Outbox.publish, hfailing, if_true, and_self]
    | false =>
      refine .inl ?_
      simp only [World.publish, hfault, houtbox, Outbox.publish, hfailing, Bool.false_eq_true,
        if_false, and_self]

end Transition

namespace Procedure

variable {α : Type} {works : Prop} {fail : World → Failure ServiceError → Prop} {w : World}
variable {ctx : RequestContext}

/-- A step that asks nothing of the store or the outbox leaves the
world. -/
theorem meets_undisturbed_inward {e : Effect} (he : e.Inward) {ok : World → e.Reply → Prop}
    (hok : ∀ t : Transition, t.Undisturbed → ∀ r, t.step = ⟨e, r⟩ → ok w r) :
    Meets (.undisturbed works) ok fail (step e) w := by
  refine meets_step.2 ⟨trivial, ?_⟩
  rintro r _ ⟨t, ht, -, rfl, hstep, rfl⟩
  have heffect : t.effect = e := congrArg Step.effect hstep
  rw [Transition.after_of_inward (heffect ▸ he)]
  exact hok t ht r hstep

theorem meets_undisturbed_now {ok : World → Int → Prop} (hok : ∀ now, ok w now) :
    Meets (.undisturbed works) ok fail now w :=
  meets_bind.2 (meets_undisturbed_inward (by trivial) fun _ _ m _ => hok m.seconds)

/-- No deadline has passed. -/
theorem meets_undisturbed_beforeDeadline {ok : World → Unit → Prop} (hok : ok w ()) :
    Meets (.undisturbed works) ok fail (Service.beforeDeadline ctx) w := by
  refine meets_bind.2 (meets_undisturbed_inward (by trivial) fun t ht late hstep => ?_)
  rw [ht.not_late hstep]
  exact hok

/-- Signing a token leaves the world. -/
theorem meets_undisturbed_issue {sign : Int → String → Except (Failure TokenError) IssuedToken}
    {ok : World → IssuedToken → Prop} (hok : ∀ now jti t, sign now jti = .ok t → ok w t)
    (hfail : ∀ now jti e, sign now jti = .error e → fail w (e.map .ofToken)) :
    Meets (.undisturbed works) ok fail (Service.issue sign) w := by
  refine meets_bind.2 (meets_undisturbed_now fun now => ?_)
  refine meets_bind.2 (meets_undisturbed_inward (by trivial) fun _ _ jti _ => ?_)
  exact meets_ofResult.2 ⟨hok now jti, hfail now jti⟩

/-- A query is carried out. -/
theorem meets_undisturbed_query {q : Query} {ok : World → Except StoreError q.Answer → Prop}
    (hok : ∀ now x store, w.store.run now q = .ok (x, store) →
      ok { w.note (.query q) with store := store } (.ok x))
    (hfail : ∀ now e, w.store.run now q = .error e → ok (w.note (.query q)) (.error e)) :
    Meets (.undisturbed works) ok fail (step (.query ctx q)) w := by
  refine meets_step.2 ⟨trivial, ?_⟩
  rintro r _ ⟨t, ht, -, rfl, hstep, rfl⟩
  rcases ht.query_cases hstep with ⟨x, store, hrun, rfl, hafter⟩ | ⟨e, hrun, rfl, hafter⟩
  · rw [hafter]
    exact hok t.time x store hrun
  · rw [hafter]
    exact hfail t.time e hrun

theorem meets_undisturbed_ask {q : Query} {failure : StoreError → ServiceError}
    {ok : World → q.Answer → Prop}
    (hok : ∀ now x store, w.store.run now q = .ok (x, store) →
      ok { w.note (.query q) with store := store } x)
    (hfail : ∀ now e, w.store.run now q = .error e →
      fail (w.note (.query q)) (.reported (failure e))) :
    Meets (.undisturbed works) ok fail (ask ctx q failure) w :=
  meets_bind.2 (meets_undisturbed_query hok hfail)

/-- What is published comes last, or publishing fails and leaves the
outbox; it does not fail if the publisher works. -/
theorem meets_undisturbed_publish {subject : String} {payload : List UInt8}
    {ok : World → Except NotificationError Unit → Prop}
    (hok : ok { w.note (.publish subject payload) with
      outbox := { w.outbox with published := w.outbox.published ++ [⟨subject, payload⟩] } } (.ok ()))
    (hfail : ∀ e, ¬ (works ∧ w.outbox.failing = false) →
      ok (w.note (.publish subject payload)) (.error e)) :
    Meets (.undisturbed works) ok fail (step (.publish ctx subject payload)) w := by
  refine meets_step.2 ⟨trivial, ?_⟩
  rintro r _ ⟨t, -, hworks, rfl, hstep, rfl⟩
  rcases Transition.publish_eq hstep with ⟨rfl, hafter⟩ | ⟨hnot, e, rfl, hafter⟩
  · rw [hafter]
    exact hok
  · rw [hafter]
    exact hfail e fun h => hnot ⟨hworks h.1, h.2⟩

/-! ## Disturbances by themselves -/

variable {draws : Draws} {l : List Transition} {store : Store} {outbox : Outbox}
variable {failAlone : Stage → Failure ServiceError → Prop}

/-- A query that is asked by itself is carried out at the time of its step,
or it fails; and if nothing disturbs it, then for the store's own
reason. -/
theorem meets_alone_ask_or_disturbed {q : Query} {failure : StoreError → ServiceError}
    {ok : Stage → q.Answer → Prop}
    (hok : ∀ l' t x store', t ∈ l' → t.Answers q x → store.run t.time q = .ok (x, store') →
      ok ⟨l', store', outbox⟩ x)
    (hfail : ∀ l' t e, l ⊆ l' → t ∈ l' → (t.Undisturbed → store.run t.time q = .error e) →
      failAlone ⟨l', store, outbox⟩ (.reported (failure e))) :
    Meets (.alone draws) ok failAlone (ask ctx q failure) ⟨l, store, outbox⟩ := by
  refine meets_bind.2 (meets_step.2 ⟨trivial, ?_⟩)
  rintro r _ ⟨t, -, -, rfl, rfl, hstep, rfl⟩
  obtain ⟨houtbox, ⟨e, rfl, hstore⟩ | ⟨x, rfl, hanswers, hrun⟩⟩ := Transition.query_cases hstep
  · rw [houtbox, hstore]
    refine hfail _ t e (List.subset_append_left l [t]) (by simp) fun ht => ?_
    rcases ht.query_cases hstep with ⟨x, store', -, hr, -⟩ | ⟨e', hrun, hr, -⟩
    · cases hr
    · obtain rfl := Except.error.inj hr
      exact hrun
  · rw [houtbox]
    exact hok _ t x _ (by simp) hanswers hrun

end Procedure

end SignOn
