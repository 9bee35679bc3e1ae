import SignOn.Proofs.Service.Calm
/-!
# Programs by themselves

A program that runs by itself goes from step to step of its own, and what
each step meets is drawn: a moment, an identifier, a salt, and a fault or
none. Nothing is assumed of the draws. The steps that were taken, the two
tables and what was published are what a program goes through,
`Setting.alone`, and what it meets in this setting holds of its run,
`Program.run_of_meets_alone`.
-/

namespace SignOn

/-- Where a program stands that runs by itself: the steps that it has
taken, the two tables, and what was published. -/
structure Stage where
  taken : List Transition
  store : Store
  outbox : Outbox

/-- What a step comes to that is taken by itself, with what is drawn for
it. -/
def Setting.alone (draws : Draws) : Setting Stage where
  permits _ _ := True
  answers σ e r σ' := ∃ t : Transition, t.effect = e ∧ t.draw = draws σ.taken.length e ∧
    t.before.store = σ.store ∧ t.before.outbox = σ.outbox ∧ t.step = ⟨e, r⟩ ∧
    σ' = ⟨σ.taken ++ [t], t.after.store, t.after.outbox⟩

/-- **What a program meets by itself holds of its run.** -/
theorem Program.run_of_meets_alone {α : Type} {draws : Draws} {Q : Stage → α → Prop}
    {p : Program α} {l : List Transition} {w : World}
    (h : p.Meets (.alone draws) Q ⟨l, w.store, w.outbox⟩) :
    Q ⟨l ++ p.trace draws l.length w, (p.run draws l.length w).world.store,
      (p.run draws l.length w).world.outbox⟩ (p.run draws l.length w).result := by
  induction p generalizing l w with
  | done a =>
    rw [trace, List.append_nil]
    exact h
  | await e next ih =>
    let t : Transition := ⟨0, draws l.length e, w, e⟩
    have hlength : (l ++ [t]).length = l.length + 1 := by simp
    have hnext := ih t.reply (l := l ++ [t]) (w := t.after) (h.2 t.reply _ ?_)
    · rw [hlength, List.append_assoc] at hnext
      exact hnext
    · exact ⟨t, rfl, rfl, rfl, rfl, rfl, rfl⟩

/-- A step that asks nothing of the store or the outbox. -/
def Effect.Inward : Effect → Prop
  | .query _ _ | .publish _ _ _ => False
  | _ => True

theorem Transition.after_of_inward {t : Transition} (h : t.effect.Inward) : t.after = t.before := by
  obtain ⟨program, draw, before, effect⟩ := t
  cases effect with
  | query ctx q => exact h.elim
  | publish ctx subject payload => exact h.elim
  | _ => rfl

namespace Transition

variable {t : Transition} {ctx : RequestContext}

/-- A query changes only the store, and that only if it succeeds. -/
theorem query_cases {q : Query} {r : Except StoreError q.Answer}
    (h : t.step = ⟨.query ctx q, r⟩) :
    t.after.outbox = t.before.outbox ∧
      ((∃ e, r = .error e ∧ t.after.store = t.before.store) ∨
        ∃ x, r = .ok x ∧ t.Answers q x ∧ t.before.store.run t.time q = .ok (x, t.after.store)) := by
  obtain ⟨program, draw, before, effect⟩ := t
  obtain rfl : effect = .query ctx q := congrArg Step.effect h
  have hr : ((before.note (.query q)).query draw ctx q).1 = r := eq_of_heq (Step.mk.inj h).2
  rcases (before.note (.query q)).query_cases draw ctx q with ⟨e, heq⟩ | ⟨x, store, hrun, heq⟩
  · have hafter : after ⟨program, draw, before, .query ctx q⟩ = before.note (.query q) :=
      congrArg Prod.snd heq
    rw [heq] at hr
    rw [hafter]
    exact ⟨rfl, .inl ⟨e, hr.symm, rfl⟩⟩
  · have hafter : after ⟨program, draw, before, .query ctx q⟩ =
        { before.note (.query q) with store := store } := congrArg Prod.snd heq
    rw [heq] at hr
    rw [hafter]
    exact ⟨rfl, .inr ⟨x, hr.symm, ⟨ctx, h.trans (by rw [← hr])⟩, hrun⟩⟩

/-- Publishing puts what is published last, or fails and changes
nothing. -/
theorem publish_cases {subject : String} {payload : List UInt8}
    {r : Except NotificationError Unit} (h : t.step = ⟨.publish ctx subject payload, r⟩) :
    t.after.store = t.before.store ∧
      ((∃ e, r = .error e ∧ t.after.outbox = t.before.outbox) ∨
        r = .ok () ∧ t.after.outbox = { t.before.outbox with
          published := t.before.outbox.published ++ [⟨subject, payload⟩] }) := by
  obtain ⟨program, draw, before, effect⟩ := t
  obtain rfl : effect = .publish ctx subject payload := congrArg Step.effect h
  have hr : ((before.note (.publish subject payload)).publish draw subject payload).1 = r :=
    eq_of_heq (Step.mk.inj h).2
  refine ⟨World.publish_store _ draw subject payload, ?_⟩
  show (∃ e, r = .error e ∧
      ((before.note (.publish subject payload)).publish draw subject payload).2.outbox = _) ∨
    r = .ok () ∧ ((before.note (.publish subject payload)).publish draw subject payload).2.outbox = _
  rw [← hr]
  unfold World.publish Outbox.publish
  cases draw.publishFault with
  | some e => exact .inl ⟨e, rfl, rfl⟩
  | none =>
    by_cases hfailing : before.outbox.failing = true
    · rw [if_pos (show (before.note (.publish subject payload)).outbox.failing = true from hfailing)]
      exact .inl ⟨_, rfl, rfl⟩
    · rw [if_neg (show ¬ (before.note (.publish subject payload)).outbox.failing = true
        from hfailing)]
      exact .inr ⟨rfl, rfl⟩

end Transition

/-- A step that asks nothing of the store or the outbox changes
neither. -/
theorem Setting.eq_of_alone_answers {draws : Draws} {l : List Transition} {store : Store}
    {outbox : Outbox} {e : Effect} {r : e.Reply} {σ : Stage} (he : e.Inward)
    (h : (Setting.alone draws).answers ⟨l, store, outbox⟩ e r σ) :
    ∃ t : Transition, t.draw = draws l.length e ∧ t.step = ⟨e, r⟩ ∧
      σ = ⟨l ++ [t], store, outbox⟩ := by
  obtain ⟨t, rfl, hdraw, rfl, rfl, hstep, rfl⟩ := h
  refine ⟨t, hdraw, hstep, ?_⟩
  rw [Transition.after_of_inward he]

namespace Procedure

variable {α : Type} {draws : Draws} {l : List Transition} {store : Store} {outbox : Outbox}
variable {fail : Stage → Failure ServiceError → Prop} {ctx : RequestContext}

/-- What asks nothing of the store or the outbox changes neither. -/
theorem Uses.meets_alone {x : Procedure α} (hx : x.Uses Effect.Inward) {ok : Stage → α → Prop}
    (hok : ∀ l' a, l ⊆ l' → ok ⟨l', store, outbox⟩ a)
    (hfail : ∀ l' e, l ⊆ l' → fail ⟨l', store, outbox⟩ e) :
    Meets (.alone draws) ok fail x ⟨l, store, outbox⟩ := by
  have hkept := hx.meets (E := .alone draws)
    (I := fun σ => ∃ l', l ⊆ l' ∧ σ = ⟨l', store, outbox⟩) (s := ⟨l, store, outbox⟩)
    (fun _ _ _ _ => trivial) (fun σ e r σ' hσ he hanswers => ?_) ⟨l, fun _ ht => ht, rfl⟩
  · refine Meets.mono hkept ?_ ?_
    · rintro _ a ⟨l', hsub, rfl⟩
      exact hok l' a hsub
    · rintro _ e ⟨l', hsub, rfl⟩
      exact hfail l' e hsub
  · obtain ⟨l', hsub, rfl⟩ := hσ
    obtain ⟨t, -, -, rfl⟩ := Setting.eq_of_alone_answers he hanswers
    exact ⟨_, fun _ ht => List.mem_append_left _ (hsub ht), rfl⟩

/-- The clock shows what is drawn for the step that reads it. -/
theorem meets_alone_now {ok : Stage → Int → Prop}
    (hok : ∀ l', l ⊆ l' → ok ⟨l', store, outbox⟩ (draws l.length .clock).moment.seconds) :
    Meets (.alone draws) ok fail now ⟨l, store, outbox⟩ := by
  refine meets_now.2 ⟨trivial, fun m σ hanswers => ?_⟩
  obtain ⟨t, hdraw, hstep, rfl⟩ := Setting.eq_of_alone_answers (e := .clock) trivial hanswers
  have hseconds := Transition.seconds_eq_time hstep
  rw [Transition.time, hdraw] at hseconds
  rw [hseconds]
  exact hok _ (List.subset_append_left l [t])

/-- Signing a token changes nothing. -/
theorem meets_alone_issue {sign : Int → String → Except (Failure TokenError) IssuedToken}
    {ok : Stage → IssuedToken → Prop}
    (hok : ∀ l' now jti t, l ⊆ l' → sign now jti = .ok t → ok ⟨l', store, outbox⟩ t)
    (hfail : ∀ l' (e : Failure TokenError), l ⊆ l' → fail ⟨l', store, outbox⟩ (e.map .ofToken)) :
    Meets (.alone draws) ok fail (Service.issue sign) ⟨l, store, outbox⟩ := by
  refine meets_bind.2 (meets_alone_now fun l₁ hsub => ?_)
  refine meets_bind.2 (meets_step.2 ⟨trivial, fun jti σ hanswers => ?_⟩)
  obtain ⟨t, -, -, rfl⟩ := Setting.eq_of_alone_answers (e := .identifier) trivial hanswers
  have hle : l ⊆ l₁ ++ [t] := fun _ ht => List.mem_append_left _ (hsub ht)
  exact meets_ofResult.2 ⟨fun token htoken => hok _ _ jti token hle htoken,
    fun e _ => hfail _ e hle⟩

/-- A query is carried out at the time of its step, or it fails and
changes nothing. -/
theorem meets_alone_query {q : Query} {ok : Stage → Except StoreError q.Answer → Prop}
    (hok : ∀ l' t x store', l ⊆ l' → t ∈ l' → t.Answers q x →
      store.run t.time q = .ok (x, store') → ok ⟨l', store', outbox⟩ (.ok x))
    (hfail : ∀ l' e, l ⊆ l' → ok ⟨l', store, outbox⟩ (.error e)) :
    Meets (.alone draws) ok fail (step (.query ctx q)) ⟨l, store, outbox⟩ := by
  refine meets_step.2 ⟨trivial, ?_⟩
  rintro r _ ⟨t, -, -, rfl, rfl, hstep, rfl⟩
  obtain ⟨houtbox, ⟨e, rfl, hstore⟩ | ⟨x, rfl, hanswers, hrun⟩⟩ := Transition.query_cases hstep
  · rw [houtbox, hstore]
    exact hfail _ e (List.subset_append_left l [t])
  · rw [houtbox]
    exact hok _ t x _ (List.subset_append_left l [t]) (by simp) hanswers hrun

theorem meets_alone_ask {q : Query} {failure : StoreError → ServiceError}
    {ok : Stage → q.Answer → Prop}
    (hok : ∀ l' t x store', l ⊆ l' → t ∈ l' → t.Answers q x →
      store.run t.time q = .ok (x, store') → ok ⟨l', store', outbox⟩ x)
    (hfail : ∀ l' e, l ⊆ l' → fail ⟨l', store, outbox⟩ (.reported (failure e))) :
    Meets (.alone draws) ok fail (ask ctx q failure) ⟨l, store, outbox⟩ := by
  refine meets_bind.2 (meets_alone_query (fun l' t x store' hsub ht hanswers hrun => ?_)
    fun l' e hsub => ?_)
  · exact hok l' t x store' hsub ht hanswers hrun
  · exact hfail l' e hsub

/-- A query that only looks leaves the store as it is. -/
theorem meets_alone_look {q : Query} {failure : StoreError → ServiceError}
    {ok : Stage → q.Answer → Prop} (look : Int → Except StoreError q.Answer)
    (hlook : ∀ now, store.run now q = store.unchanged (look now))
    (hok : ∀ l' now x, l ⊆ l' → look now = .ok x → ok ⟨l', store, outbox⟩ x)
    (hfail : ∀ l' e, l ⊆ l' → fail ⟨l', store, outbox⟩ (.reported (failure e))) :
    Meets (.alone draws) ok fail (ask ctx q failure) ⟨l, store, outbox⟩ := by
  refine meets_alone_ask (fun l' t x store' hsub _ _ hrun => ?_) hfail
  rw [hlook] at hrun
  obtain ⟨hx, rfl⟩ := Store.unchanged_eq_ok_iff.1 hrun
  exact hok l' t.time x hsub hx

/-- What is published comes last, or publishing fails and changes
nothing. -/
theorem meets_alone_publish {subject : String} {payload : List UInt8}
    {ok : Stage → Except NotificationError Unit → Prop}
    (hok : ∀ l', l ⊆ l' → ok ⟨l', store,
      { outbox with published := outbox.published ++ [⟨subject, payload⟩] }⟩ (.ok ()))
    (hfail : ∀ l' e, l ⊆ l' → ok ⟨l', store, outbox⟩ (.error e)) :
    Meets (.alone draws) ok fail (step (.publish ctx subject payload)) ⟨l, store, outbox⟩ := by
  refine meets_step.2 ⟨trivial, ?_⟩
  rintro r _ ⟨t, -, -, rfl, rfl, hstep, rfl⟩
  obtain ⟨hstore, ⟨e, rfl, houtbox⟩ | ⟨rfl, houtbox⟩⟩ := Transition.publish_cases hstep
  · rw [houtbox, hstore]
    exact hfail _ e (List.subset_append_left l [t])
  · rw [houtbox, hstore]
    exact hok _ (List.subset_append_left l [t])

end Procedure

end SignOn
