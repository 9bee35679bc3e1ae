import Mathlib.Data.List.Induction
import SignOn.Proofs.Service.Calm
import SignOn.Proofs.Token.Signed
import SignOn.Service.Operation
/-!
# One operation after another

Operations that are carried out one after another, each by itself: what
they answer is their history. A sequence of errands is in calm conditions
if each errand is, at its time, the times do not go back, and no
identifier is drawn twice.
-/

namespace SignOn

/-- An operation that is to be carried out by itself, at a time, with
what the world does not determine. -/
structure Errand where
  ctx : RequestContext
  operation : Operation
  time : Int
  draws : Draws

/-- What is asked for in an errand. -/
def Errand.request (e : Errand) : Request :=
  ⟨e.ctx, e.operation⟩

/-- An operation that was carried out, when, and what it answered. -/
structure Outcome where
  operation : Operation
  time : Int
  result : Except (Failure ServiceError) Answer

/-- Ids count up while a program runs. -/
theorem Program.lastAccountId_le_run {α : Type} (draws : Draws) (p : Program α) (n : Nat)
    (w : World) : w.store.lastAccountId ≤ (p.run draws n w).world.store.lastAccountId := by
  induction p generalizing n w with
  | done a => exact Int.le_refl _
  | await e next ih =>
    let t : Transition := ⟨0, draws n e, w, e⟩
    have hstep : w.store.lastAccountId ≤ t.after.store.lastAccountId := by
      rcases t.store_cases with ⟨hsame, -⟩ | ⟨q, x, -, hrun⟩
      · exact Int.le_of_eq (congrArg Store.lastAccountId hsame.symm)
      · exact Store.lastAccountId_le_of_run hrun
    exact Int.le_trans hstep (ih t.reply (n + 1) t.after)

namespace Service

variable (s : Service)

/-- Carries out an errand. -/
def carryOut (w : World) (e : Errand) : Ended (Except (Failure ServiceError) Answer) :=
  (s.perform e.ctx e.operation).run.run e.draws 0 w

/-- The steps of an errand. -/
def stepsTaken (w : World) (e : Errand) : List Transition :=
  (s.perform e.ctx e.operation).run.trace e.draws 0 w

/-- The world after errands. -/
def after (w : World) (es : List Errand) : World :=
  es.foldl (fun w e => (s.carryOut w e).world) w

/-- What errands answer, in order. -/
def history (w : World) : List Errand → List Outcome
  | [] => []
  | e :: es => ⟨e.operation, e.time, (s.carryOut w e).result⟩ :: history (s.carryOut w e).world es

/-- The identifiers that errands draw, in order. -/
def drawnBy (w : World) : List Errand → List String
  | [] => []
  | e :: es => identifiers (s.stepsTaken w e) ++ drawnBy (s.carryOut w e).world es

/-- Every errand is in calm conditions at its time. -/
def Calmly (w : World) : List Errand → Prop
  | [] => True
  | e :: es => (∀ t ∈ s.stepsTaken w e, t.Calm e.time) ∧ Calmly (s.carryOut w e).world es

variable {s} {w : World} {es : List Errand} {e : Errand}

theorem after_concat : s.after w (es ++ [e]) = (s.carryOut (s.after w es) e).world := by
  simp [after]

theorem after_append {es' : List Errand} : s.after w (es ++ es') = s.after (s.after w es) es' :=
  List.foldl_append

theorem lastAccountId_le_after (s : Service) (w : World) (es : List Errand) :
    w.store.lastAccountId ≤ (s.after w es).store.lastAccountId := by
  induction es generalizing w with
  | nil => exact Int.le_refl _
  | cons e es ih => exact Int.le_trans (Program.lastAccountId_le_run _ _ _ _) (ih _)

theorem length_history (s : Service) (w : World) (es : List Errand) :
    (s.history w es).length = es.length := by
  induction es generalizing w with
  | nil => rfl
  | cons e es ih => exact congrArg (· + 1) (ih _)

theorem history_concat : s.history w (es ++ [e]) =
    s.history w es ++ [⟨e.operation, e.time, (s.carryOut (s.after w es) e).result⟩] := by
  induction es generalizing w with
  | nil => rfl
  | cons e' es ih => exact congrArg (List.cons _) ih

/-- What is in a history with one more errand: what was in it, or what
became of that errand. -/
theorem getElem?_history_concat {i : Nat} {o : Outcome}
    (h : (s.history w (es ++ [e]))[i]? = some o) :
    (i < es.length ∧ (s.history w es)[i]? = some o) ∨
      (i = es.length ∧ o.result = (s.carryOut (s.after w es) e).result) := by
  have hlength := s.length_history w es
  rw [history_concat] at h
  by_cases hlt : i < es.length
  · rw [List.getElem?_append_left (by omega)] at h
    exact .inl ⟨hlt, h⟩
  · obtain ⟨hle, -⟩ := List.getElem?_eq_some_iff.1 h
    rw [List.length_append, List.length_singleton] at hle
    obtain rfl : i = (s.history w es).length := by omega
    rw [List.getElem?_concat_length] at h
    rw [← Option.some.inj h]
    exact .inr ⟨hlength, rfl⟩

theorem drawnBy_concat : s.drawnBy w (es ++ [e]) =
    s.drawnBy w es ++ identifiers (s.stepsTaken (s.after w es) e) := by
  induction es generalizing w with
  | nil => exact List.append_nil _
  | cons e' es ih =>
    show identifiers _ ++ s.drawnBy _ (es ++ [e]) = _
    rw [ih, ← List.append_assoc]
    rfl

theorem calmly_concat : s.Calmly w (es ++ [e]) ↔
    s.Calmly w es ∧ ∀ t ∈ s.stepsTaken (s.after w es) e, t.Calm e.time := by
  induction es generalizing w with
  | nil => exact and_comm
  | cons e' es ih =>
    show _ ∧ s.Calmly _ (es ++ [e]) ↔ _
    rw [ih, ← and_assoc]
    rfl

/-- A sequence of errands in calm conditions: the times do not go back,
at each time tokens can be issued, and no identifier is drawn twice. -/
structure Sequential (s : Service) (w : World) (es : List Errand) : Prop where
  calmly : s.Calmly w es
  fresh : (s.drawnBy w es).Nodup
  forward : es.Pairwise fun e e' => e.time ≤ e'.time
  ready : ∀ e ∈ es, s.issuer.Ready e.time

/-- What comes first in a sequence of errands is one. -/
theorem Sequential.of_concat (h : s.Sequential w (es ++ [e])) : s.Sequential w es where
  calmly := (calmly_concat.1 h.calmly).1
  fresh := by
    have hfresh := h.fresh
    rw [drawnBy_concat] at hfresh
    exact (List.nodup_append.1 hfresh).1
  forward := (List.pairwise_append.1 h.forward).1
  ready e' he' := h.ready e' (List.mem_append_left _ he')

theorem sequential_nil : s.Sequential w [] :=
  ⟨trivial, .nil, .nil, by simp⟩

/-- Any operation can come next, and only its identifiers must be new. -/
theorem Sequential.exists_concat_calmDraws (h : s.Sequential w es) (op : Operation)
    (ctx : RequestContext) (hctx : ctx.deadline = none) {now : Int} (hnow : ∀ e ∈ es, e.time ≤ now)
    (hready : s.issuer.Ready now) :
    ∃ id, s.Sequential w (es ++ [⟨ctx, op, now, calmDraws now id⟩]) := by
  obtain ⟨id, hid, hfresh⟩ := exists_fresh (s.drawnBy w es)
  refine ⟨id, calmly_concat.2 ⟨h.calmly, ?_⟩, ?_, ?_, ?_⟩
  · exact Program.calm_trace (s.perform_isFor ctx op) hctx 0 _
  · rw [drawnBy_concat]
    exact Program.nodup_identifiers h.fresh hid hfresh _ _ _
  · refine List.pairwise_append.2 ⟨h.forward, List.pairwise_singleton _ _, fun e he e' he' => ?_⟩
    rw [List.mem_singleton.1 he']
    exact hnow e he
  · intro e he
    rcases List.mem_append.1 he with he | he
    · exact h.ready e he
    · rw [List.mem_singleton.1 he]
      exact hready

/-- **Any operation can come next**, at any later time at which tokens
can be issued. -/
theorem Sequential.exists_concat (h : s.Sequential w es) (op : Operation) (ctx : RequestContext)
    (hctx : ctx.deadline = none) {now : Int} (hnow : ∀ e ∈ es, e.time ≤ now)
    (hready : s.issuer.Ready now) :
    ∃ draws, s.Sequential w (es ++ [⟨ctx, op, now, draws⟩]) := by
  obtain ⟨id, hnext⟩ := h.exists_concat_calmDraws op ctx hctx hnow hready
  exact ⟨_, hnext⟩

/-- A request without a deadline. -/
def unhurried : RequestContext := ⟨"", none⟩

/-- **Any operations can come next**, all at one time. -/
theorem Sequential.exists_append {now : Int} (h : s.Sequential w es)
    (hnow : ∀ e ∈ es, e.time = now) (hready : s.issuer.Ready now) (ops : List Operation) :
    ∃ es', es'.map Errand.request = ops.map (Request.mk unhurried) ∧
      (∀ e ∈ es', e.time = now) ∧ s.Sequential w (es ++ es') := by
  induction ops generalizing es with
  | nil => exact ⟨[], rfl, by simp, by rwa [List.append_nil]⟩
  | cons op ops ih =>
    obtain ⟨draws, hnext⟩ := h.exists_concat op unhurried rfl
      (fun e he => Int.le_of_eq (hnow e he)) hready
    obtain ⟨es', hops, htime, hes'⟩ := ih hnext fun e he => by
      rcases List.mem_append.1 he with he | he
      · exact hnow e he
      · rw [List.mem_singleton.1 he]
    refine ⟨⟨unhurried, op, now, draws⟩ :: es', ?_, ?_, ?_⟩
    · rw [List.map_cons, hops]
      rfl
    · exact List.forall_mem_cons.2 ⟨rfl, htime⟩
    · rwa [List.append_assoc] at hes'

/-- What came before did not come later. -/
theorem Sequential.time_le (h : s.Sequential w (es ++ [e])) : ∀ e' ∈ es, e'.time ≤ e.time :=
  fun e' he' => (List.pairwise_append.1 h.forward).2.2 e' he' e (List.mem_singleton_self e)

/-- What an errand meets in calm conditions holds of it, when it comes after
others. -/
theorem carryOut_of_calm (hcalm : ∀ t ∈ s.stepsTaken (s.after w es) e, t.Calm e.time)
    (hfresh : (s.drawnBy w (es ++ [e])).Nodup)
    {Q : Scene → Except (Failure ServiceError) Answer → Prop}
    (hmeets : (s.perform e.ctx e.operation).run.Meets (.calm e.time) Q
      ((s.after w es).scene (s.drawnBy w es))) :
    Q ((s.after w (es ++ [e])).scene (s.drawnBy w (es ++ [e])))
      (s.carryOut (s.after w es) e).result := by
  rw [drawnBy_concat] at hfresh
  rw [after_concat, drawnBy_concat]
  exact Program.run_of_meets hmeets hcalm hfresh

/-- **What the last errand meets in calm conditions holds of it.** -/
theorem Sequential.carryOut_of_meets (h : s.Sequential w (es ++ [e]))
    {Q : Scene → Except (Failure ServiceError) Answer → Prop}
    (hmeets : (s.perform e.ctx e.operation).run.Meets (.calm e.time) Q
      ((s.after w es).scene (s.drawnBy w es))) :
    Q ((s.after w (es ++ [e])).scene (s.drawnBy w (es ++ [e])))
      (s.carryOut (s.after w es) e).result :=
  carryOut_of_calm (calmly_concat.1 h.calmly).2 h.fresh hmeets

/-- A succession of errands in calm conditions, whether or not sessions can
be opened then: the times are such as a clock of 64 bits shows, and no
identifier is drawn twice. -/
structure Succession (s : Service) (w : World) (es : List Errand) : Prop where
  calmly : s.Calmly w es
  fresh : (s.drawnBy w es).Nodup
  times : ∀ e ∈ es, 0 ≤ e.time ∧ Fits64 e.time

/-- A sequence of errands is one. -/
theorem Sequential.succession (h : s.Sequential w es) : s.Succession w es where
  calmly := h.calmly
  fresh := h.fresh
  times e he := by
    have htime := (h.ready e he).time
    obtain ⟨hpos, hfits⟩ := (h.ready e he).access
    refine ⟨htime, ?_⟩
    unfold Fits64 at hfits ⊢
    omega

/-- **What the last errand meets in calm conditions holds of it.** -/
theorem Succession.carryOut_of_meets (h : s.Succession w (es ++ [e]))
    {Q : Scene → Except (Failure ServiceError) Answer → Prop}
    (hmeets : (s.perform e.ctx e.operation).run.Meets (.calm e.time) Q
      ((s.after w es).scene (s.drawnBy w es))) :
    Q ((s.after w (es ++ [e])).scene (s.drawnBy w (es ++ [e])))
      (s.carryOut (s.after w es) e).result :=
  carryOut_of_calm (calmly_concat.1 h.calmly).2 h.fresh hmeets

/-- What cannot fail in calm conditions succeeds. -/
theorem Sequential.exists_of_meets (h : s.Sequential w (es ++ [e])) {α : Type} {x : Procedure α}
    {f : α → Answer} (hop : s.perform e.ctx e.operation = f <$> x) {ok : Scene → α → Prop}
    (hmeets : Procedure.Meets (.calm e.time) ok (fun _ _ => False) x
      ((s.after w es).scene (s.drawnBy w es))) :
    ∃ a, (s.carryOut (s.after w es) e).result = .ok (f a) ∧
      ok ((s.after w (es ++ [e])).scene (s.drawnBy w (es ++ [e]))) a := by
  have hprocedure : Procedure.Meets (.calm e.time) (fun σ b => ∃ a, b = f a ∧ ok σ a)
      (fun _ _ => False) (s.perform e.ctx e.operation) ((s.after w es).scene (s.drawnBy w es)) := by
    rw [hop]
    exact Procedure.meets_map.2 (hmeets.mono (fun _ a ha => ⟨a, rfl, ha⟩) fun _ _ he => he)
  have hresult := h.carryOut_of_meets hprocedure
  cases hr : (s.carryOut (s.after w es) e).result with
  | ok b =>
    rw [hr] at hresult
    obtain ⟨a, rfl, ha⟩ := hresult
    exact ⟨a, rfl, ha⟩
  | error err =>
    rw [hr] at hresult
    exact hresult.elim

/-- **What cannot fail can come next**, and succeeds. -/
theorem Sequential.exists_next {now : Int} (hes : s.Sequential w es) (hnow : ∀ e ∈ es, e.time = now)
    (hready : s.issuer.Ready now) (op : Operation) {α : Type} {x : Procedure α} {f : α → Answer}
    (hop : s.perform unhurried op = f <$> x) {ok : Scene → α → Prop}
    (hmeets : Procedure.Meets (.calm now) ok (fun _ _ => False) x
      ((s.after w es).scene (s.drawnBy w es))) :
    ∃ e a, s.Sequential w (es ++ [e]) ∧ (∀ e' ∈ es ++ [e], e'.time = now) ∧ e.operation = op ∧
      (s.carryOut (s.after w es) e).result = .ok (f a) ∧
      ok ((s.after w (es ++ [e])).scene (s.drawnBy w (es ++ [e]))) a := by
  obtain ⟨draws, hnext⟩ := hes.exists_concat op unhurried rfl
    (fun e he => Int.le_of_eq (hnow e he)) hready
  obtain ⟨a, hresult, ha⟩ := hnext.exists_of_meets hop hmeets
  refine ⟨_, a, hnext, fun e he => ?_, rfl, hresult, ha⟩
  rcases List.mem_append.1 he with he | he
  · exact hnow e he
  · rw [List.mem_singleton.1 he]

end Service

end SignOn
