import Mathlib.Data.Fintype.EquivFin
import Mathlib.Data.Set.Finite.List
import SignOn.Proofs.Service.Runs
/-!
# Calm runs

A program that runs by itself is in calm conditions if all of its steps
are taken at one time, meet no fault and no deadline, and draw no
identifier that was drawn before. What it does then is determined by the
two tables and the events that it finds: `Setting.calm`. What a program
meets in this setting holds of its run, `Program.run_of_meets`.
-/

namespace SignOn

/-- What programs share, and the identifiers that were drawn. -/
structure Scene where
  store : Store
  outbox : Outbox
  drawn : List String

/-- What a step in calm conditions comes to. -/
def Setting.calm (now : Int) : Setting Scene where
  permits _ _ := True
  answers σ e r σ' :=
    match e, r with
    | .clock, m => m.seconds = now ∧ σ' = σ
    | .identifier, id => id ∉ σ.drawn ∧ σ' = { σ with drawn := σ.drawn ++ [id] }
    | .salt, _ => σ' = σ
    | .deadline _, late => late = false ∧ σ' = σ
    | .query _ q, r =>
      (∃ x store, σ.store.run now q = .ok (x, store) ∧ r = .ok x ∧
        σ' = { σ with store := store }) ∨
      ∃ e, σ.store.run now q = .error e ∧ r = .error e ∧ σ' = σ
    | .publish _ subject payload, r =>
      (∃ outbox, σ.outbox.publish subject payload = .ok outbox ∧ r = .ok () ∧
        σ' = { σ with outbox := outbox }) ∨
      ∃ e, σ.outbox.publish subject payload = .error e ∧ r = .error e ∧ σ' = σ

/-! ## Runs in calm conditions -/

/-- The request whose deadline a step looks at. -/
def Effect.request? : Effect → Option RequestContext
  | .deadline ctx | .query ctx _ => some ctx
  | _ => none

theorem Effect.IsFor.eq_of_request? {ctx ctx' : RequestContext} {e : Effect} (h : e.IsFor ctx)
    (hctx : e.request? = some ctx') : ctx' = ctx := by
  cases e with
  | deadline c | query c _ =>
    have hc : c = ctx := h
    exact (Option.some.inj hctx).symm.trans hc
  | _ => cases hctx

/-- A step that meets no fault of the store, and no deadline. -/
structure Transition.Undisturbed (t : Transition) : Prop where
  store : t.draw.storeFault = none
  deadline : ∀ ctx, t.effect.request? = some ctx → ctx.isOver t.draw.moment = false

/-- Its query is carried out. -/
theorem Transition.Undisturbed.faultless {t : Transition} (h : t.Undisturbed) : t.Faultless :=
  ⟨h.store, fun ctx q heffect => h.deadline ctx (by rw [heffect]; rfl)⟩

/-- The deadline that it looks at has not passed. -/
theorem Transition.Undisturbed.not_late {t : Transition} (h : t.Undisturbed) {ctx : RequestContext}
    {late : Bool} (hstep : t.step = ⟨.deadline ctx, late⟩) : late = false := by
  obtain ⟨program, draw, before, effect⟩ := t
  obtain rfl : effect = .deadline ctx := congrArg Step.effect hstep
  have hlate : ctx.isOver draw.moment = late := eq_of_heq (Step.mk.inj hstep).2
  rw [← hlate]
  exact h.deadline ctx rfl

/-- A step at a time, that meets no fault and no deadline. -/
structure Transition.Calm (now : Int) (t : Transition) : Prop where
  time : t.time = now
  store : t.draw.storeFault = none
  publisher : t.draw.publishFault = none
  deadline : ∀ ctx, t.effect.request? = some ctx → ctx.isOver t.draw.moment = false

theorem Transition.Calm.undisturbed {now : Int} {t : Transition} (h : t.Calm now) :
    t.Undisturbed :=
  ⟨h.store, h.deadline⟩

/-- The scene in a world. -/
def World.scene (w : World) (drawn : List String) : Scene :=
  ⟨w.store, w.outbox, drawn⟩

theorem World.publish_of_faultless {w : World} {d : Draw} (hfault : d.publishFault = none)
    (subject : String) (payload : List UInt8) :
    (∃ outbox, w.outbox.publish subject payload = .ok outbox ∧
      w.publish d subject payload = (.ok (), { w with outbox := outbox })) ∨
    ∃ e, w.outbox.publish subject payload = .error e ∧
      w.publish d subject payload = (.error e, w) := by
  unfold publish
  rw [hfault]
  cases h : w.outbox.publish subject payload with
  | ok outbox => exact .inl ⟨outbox, rfl, rfl⟩
  | error e => exact .inr ⟨e, rfl, rfl⟩

/-- A calm step comes to what the setting says. -/
theorem Transition.Calm.answers {now : Int} {t : Transition} (h : t.Calm now) {drawn : List String}
    (hfresh : ∀ id, t.identifier? = some id → id ∉ drawn) :
    (Setting.calm now).answers (t.before.scene drawn) t.effect t.reply
      (t.after.scene (drawn ++ t.identifier?.toList)) := by
  obtain ⟨program, draw, before, effect⟩ := t
  obtain ⟨rfl, hstore, hpublisher, hdeadline⟩ := h
  have hsame (σ : Scene) : { σ with drawn := σ.drawn ++ [] } = σ := by
    rw [List.append_nil]
  cases effect with
  | clock => exact ⟨rfl, hsame (before.scene drawn)⟩
  | identifier => exact ⟨hfresh _ rfl, rfl⟩
  | salt => exact hsame (before.scene drawn)
  | deadline ctx => exact ⟨hdeadline ctx rfl, hsame (before.scene drawn)⟩
  | query ctx q =>
    have hover := hdeadline ctx rfl
    cases hrun : before.store.run draw.moment.seconds q with
    | ok x =>
      have hquery := World.query_of_run_eq_ok (w := before.note (.query q)) hstore hover hrun
      refine .inl ⟨x.1, x.2, hrun, congrArg Prod.fst hquery, ?_⟩
      rw [Transition.identifier?, Option.toList_none, List.append_nil]
      exact congrArg (fun y => World.scene y.2 drawn) hquery
    | error e =>
      have hquery := World.query_of_run_eq_error (w := before.note (.query q)) hstore hover hrun
      refine .inr ⟨e, hrun, congrArg Prod.fst hquery, ?_⟩
      rw [Transition.identifier?, Option.toList_none, List.append_nil]
      exact congrArg (fun y => World.scene y.2 drawn) hquery
  | publish ctx subject payload =>
    rw [Transition.identifier?, Option.toList_none, List.append_nil]
    rcases World.publish_of_faultless (w := before.note (.publish subject payload)) hpublisher
      subject payload with ⟨outbox, hout, hpublish⟩ | ⟨e, hout, hpublish⟩
    · exact .inl ⟨outbox, hout, congrArg Prod.fst hpublish,
        congrArg (fun y => World.scene y.2 drawn) hpublish⟩
    · exact .inr ⟨e, hout, congrArg Prod.fst hpublish,
        congrArg (fun y => World.scene y.2 drawn) hpublish⟩

namespace Program

variable {α : Type}

/-- The steps of a program that runs by itself. -/
def trace (draws : Draws) : Program α → Nat → World → List Transition
  | .done _, _, _ => []
  | .await e next, n, w =>
    ⟨0, draws n e, w, e⟩ ::
      (next (w.answer (draws n e) e).1).trace draws (n + 1) (w.answer (draws n e) e).2

/-- **What a program meets in calm conditions holds of its run.** -/
theorem run_of_meets {draws : Draws} {now : Int} {Q : Scene → α → Prop} {p : Program α} {n : Nat}
    {w : World} {drawn : List String} (hmeets : p.Meets (.calm now) Q (w.scene drawn))
    (hcalm : ∀ t ∈ p.trace draws n w, t.Calm now)
    (hfresh : (drawn ++ identifiers (p.trace draws n w)).Nodup) :
    Q ((p.run draws n w).world.scene (drawn ++ identifiers (p.trace draws n w)))
      (p.run draws n w).result := by
  induction p generalizing n w drawn with
  | done a =>
    rw [trace, identifiers, List.filterMap_nil, List.append_nil]
    exact hmeets
  | await e next ih =>
    let t : Transition := ⟨0, draws n e, w, e⟩
    have hsplit : identifiers ((Program.await e next).trace draws n w) =
        t.identifier?.toList ++ identifiers ((next t.reply).trace draws (n + 1) t.after) :=
      identifiers_cons t _
    -- an identifier that is drawn now is none of those drawn so far
    have hnew : ∀ id, t.identifier? = some id → id ∉ drawn := by
      intro id hid hmem
      rw [hsplit, hid, List.nodup_append] at hfresh
      exact hfresh.2.2 id hmem id (by simp) rfl
    have hanswers := (hcalm t List.mem_cons_self).answers hnew
    rw [hsplit, ← List.append_assoc] at hfresh ⊢
    exact ih t.reply (hmeets.2 t.reply _ hanswers)
      (fun t' ht' => hcalm t' (List.mem_cons_of_mem _ ht')) hfresh

end Program

/-- The steps of a run are steps that the program uses. -/
theorem Program.trace_of_only {α : Type} {P : Effect → Prop} {Q : Unit → α → Prop} {p : Program α}
    (hp : p.Meets (.only P) Q ()) (draws : Draws) (n : Nat) (w : World) :
    ∀ t ∈ p.trace draws n w, P t.effect := by
  induction p generalizing n w with
  | done a => simp [trace]
  | await e next ih =>
    exact List.forall_mem_cons.2 ⟨hp.1, ih _ (hp.2 _ () trivial) _ _⟩

/-- Its result is one that the program may come to. -/
theorem Program.run_of_only {α : Type} {P : Effect → Prop} {Q : Unit → α → Prop} {p : Program α}
    (hp : p.Meets (.only P) Q ()) (draws : Draws) (n : Nat) (w : World) :
    Q () (p.run draws n w).result := by
  induction p generalizing n w with
  | done a => exact hp
  | await e next ih => exact ih _ (hp.2 _ () trivial) _ _

/-! ## Conditions can be calm -/

/-- What the world does not determine, at one time and without faults. -/
def calmDraws (now : Int) (id : Nat → String) : Draws :=
  fun n _ => { moment := ⟨now, 0⟩, identifier := id n, salt := .replicate 16 0 }

/-- A salt of zeros, which is drawn every time. -/
theorem Program.salt_eq_of_trace {α : Type} {p : Program α} {now : Int} {id : Nat → String}
    {n : Nat} {w : World} {salt : Bcrypt.Salt}
    (h : (⟨.salt, salt⟩ : Step) ∈ (p.trace (calmDraws now id) n w).map Transition.step) :
    salt = .replicate 16 0 := by
  induction p generalizing n w with
  | done a => simp [trace] at h
  | await e next ih =>
    rcases List.mem_cons.1 h with heq | h
    · exact Transition.salt_eq heq.symm
    · exact ih _ h

/-- There are always identifiers left. -/
theorem exists_fresh (drawn : List String) :
    ∃ id : Nat → String, id.Injective ∧ ∀ n, id n ∉ drawn := by
  have hinfinite : {id | id ∈ drawn}ᶜ.Infinite := drawn.finite_toSet.infinite_compl
  let ids := hinfinite.natEmbedding
  exact ⟨fun n => ids n, fun _ _ heq => ids.injective (Subtype.ext heq), fun n => (ids n).2⟩

namespace Program

variable {α : Type} {p : Program α} {ctx : RequestContext} {now : Int} {id : Nat → String}

/-- A program that looks at no deadline, or at one that a request does
not have, is in calm conditions then. -/
theorem calm_trace {Q : Unit → α → Prop} (hp : p.Meets (.only (Effect.IsFor ctx)) Q ())
    (hctx : ctx.deadline = none) (n : Nat) (w : World) :
    ∀ t ∈ p.trace (calmDraws now id) n w, t.Calm now := by
  induction p generalizing n w with
  | done a => simp [trace]
  | await e next ih =>
    intro t ht
    rcases List.mem_cons.1 ht with rfl | ht
    · refine ⟨rfl, rfl, rfl, fun ctx' hctx' => ?_⟩
      have hfor : e.IsFor ctx := hp.1
      rw [hfor.eq_of_request? hctx', RequestContext.isOver, hctx]
    · exact ih _ (hp.2 _ () trivial) _ _ t ht

/-- It draws some of the identifiers, in their order. -/
theorem identifiers_trace (p : Program α) (now : Int) (id : Nat → String) (n : Nat) (w : World) :
    ∃ ks : List Nat, ks.Pairwise (· < ·) ∧ (∀ k ∈ ks, n ≤ k) ∧
      identifiers (p.trace (calmDraws now id) n w) = ks.map id := by
  induction p generalizing n w with
  | done a => exact ⟨[], .nil, by simp, rfl⟩
  | await e next ih =>
    let t : Transition := ⟨0, calmDraws now id n e, w, e⟩
    obtain ⟨ks, hks, hle, heq⟩ := ih t.reply (n + 1) t.after
    have hsplit : identifiers ((Program.await e next).trace (calmDraws now id) n w) =
        t.identifier?.toList ++ ks.map id := by
      rw [← heq]
      exact identifiers_cons t _
    rw [hsplit]
    by_cases hdraws : t.identifier? = none
    · refine ⟨ks, hks, fun k hk => Nat.le_of_succ_le (hle k hk), ?_⟩
      rw [hdraws, Option.toList_none, List.nil_append]
    · refine ⟨n :: ks, List.pairwise_cons.2 ⟨hle, hks⟩, ?_, ?_⟩
      · intro k hk
        rcases List.mem_cons.1 hk with rfl | hk
        · exact Nat.le_refl k
        · exact Nat.le_of_succ_le (hle k hk)
      · have hid : t.identifier? = some (id n) := by
          unfold Transition.identifier? at hdraws ⊢
          split at hdraws
          · rfl
          · exact absurd rfl hdraws
        rw [hid, Option.toList_some, List.singleton_append, List.map_cons]

/-- **It draws no identifier twice**, and none that was drawn before. -/
theorem nodup_identifiers {drawn : List String} (hdrawn : drawn.Nodup) (hid : id.Injective)
    (hfresh : ∀ n, id n ∉ drawn) (p : Program α) (n : Nat) (w : World) :
    (drawn ++ identifiers (p.trace (calmDraws now id) n w)).Nodup := by
  obtain ⟨ks, hks, -, heq⟩ := p.identifiers_trace now id n w
  rw [heq, List.nodup_append]
  have hnodup : ks.Nodup := hks.imp fun hlt => Nat.ne_of_lt hlt
  refine ⟨hdrawn, hnodup.map hid, ?_⟩
  rintro x hx _ hmem rfl
  obtain ⟨k, -, rfl⟩ := List.mem_map.1 hmem
  exact hfresh k hx

end Program

/-! ## Procedures in calm conditions -/

namespace Procedure

variable {α : Type} {now : Int} {σ : Scene} {fail : Scene → Failure ServiceError → Prop}

theorem meets_calm_now {ok : Scene → Int → Prop} (hok : ok σ now) :
    Meets (.calm now) ok fail Procedure.now σ := by
  refine meets_now.2 ⟨trivial, ?_⟩
  rintro m _ ⟨rfl, rfl⟩
  exact hok

/-- A query is carried out. -/
theorem meets_calm_step {ctx : RequestContext} {q : Query}
    {ok : Scene → Except StoreError q.Answer → Prop}
    (hok : ∀ x store, σ.store.run now q = .ok (x, store) → ok { σ with store := store } (.ok x))
    (hfail : ∀ e, σ.store.run now q = .error e → ok σ (.error e)) :
    Meets (.calm now) ok fail (step (.query ctx q)) σ := by
  refine meets_step.2 ⟨trivial, ?_⟩
  rintro r _ (⟨x, store, hrun, rfl, rfl⟩ | ⟨e, hrun, rfl, rfl⟩)
  · exact hok x store hrun
  · exact hfail e hrun

theorem meets_calm_ask {ctx : RequestContext} {q : Query} {failure : StoreError → ServiceError}
    {ok : Scene → q.Answer → Prop}
    (hok : ∀ x store, σ.store.run now q = .ok (x, store) → ok { σ with store := store } x)
    (hfail : ∀ e, σ.store.run now q = .error e → fail σ (.reported (failure e))) :
    Meets (.calm now) ok fail (ask ctx q failure) σ := by
  refine meets_bind.2 (meets_calm_step (fun x store hrun => ?_) fun e hrun => ?_)
  · exact hok x store hrun
  · exact hfail e hrun

/-- A query whose outcome is known has that outcome. -/
theorem meets_calm_ask_of_run {ctx : RequestContext} {q : Query}
    {failure : StoreError → ServiceError} {ok : Scene → q.Answer → Prop} {x : q.Answer}
    {store : Store} (hrun : σ.store.run now q = .ok (x, store))
    (hok : ok { σ with store := store } x) :
    Meets (.calm now) ok fail (ask ctx q failure) σ := by
  refine meets_calm_ask (fun y store' hrun' => ?_) fun e hrun' => ?_
  · obtain ⟨rfl, rfl⟩ := Prod.mk.inj (Except.ok.inj (hrun.symm.trans hrun'))
    exact hok
  · cases hrun.symm.trans hrun'

/-- Signing a token draws a new identifier. -/
theorem meets_calm_issue {sign : Int → String → Except (Failure TokenError) IssuedToken}
    {ok : Scene → IssuedToken → Prop}
    (hok : ∀ jti ∉ σ.drawn, ∀ t, sign now jti = .ok t →
      ok { σ with drawn := σ.drawn ++ [jti] } t)
    (hfail : ∀ jti e, sign now jti = .error e →
      fail { σ with drawn := σ.drawn ++ [jti] } (e.map .ofToken)) :
    Meets (.calm now) ok fail (Service.issue sign) σ := by
  refine meets_bind.2 (meets_calm_now (meets_bind.2 (meets_step.2 ⟨trivial, ?_⟩)))
  rintro jti _ ⟨hjti, rfl⟩
  exact meets_ofResult.2 ⟨fun t ht => hok jti hjti t ht, fun e he => hfail jti e he⟩

end Procedure

end SignOn
