import Mathlib.Data.List.Induction
import SignOn.Service.Interleaving
import SignOn.Service.Operation
/-!
# Traces

What has happened in a pool is the list of the steps that its programs
took, each with the world it found: `Pool.trace`. A property of traces
and pools that every step keeps holds of every run, `Pool.run_induction`.
The steps of one program in a trace, `stepsOf`, are all that it knows.
-/

namespace SignOn

/-- A step and what it got. -/
structure Step where
  effect : Effect
  reply : effect.Reply

/-- A step that a program took, the world that it found, and what the
world did not determine. -/
structure Transition where
  program : Nat
  draw : Draw
  before : World
  effect : Effect

namespace Transition

/-- What the step got. -/
def reply (t : Transition) : t.effect.Reply :=
  (t.before.answer t.draw t.effect).1

/-- The world after the step. -/
def after (t : Transition) : World :=
  (t.before.answer t.draw t.effect).2

/-- The step by itself. -/
def step (t : Transition) : Step :=
  ⟨t.effect, t.reply⟩

/-- When the step was taken, in seconds. -/
def time (t : Transition) : Int :=
  t.draw.moment.seconds

/-- The identifier that the step drew, if it drew one. -/
def identifier? (t : Transition) : Option String :=
  match t.effect with
  | .identifier => some t.draw.identifier
  | _ => none

/-- What a step draws is what it gets. -/
theorem identifier?_of_step {t : Transition} {id : String} (h : t.step = ⟨.identifier, id⟩) :
    t.identifier? = some id := by
  obtain ⟨program, draw, before, effect⟩ := t
  cases effect <;> cases h
  rfl

/-- The clock shows the time of the step that reads it. -/
theorem seconds_eq_time {t : Transition} {m : Moment} (h : t.step = ⟨.clock, m⟩) :
    m.seconds = t.time := by
  obtain ⟨program, draw, before, effect⟩ := t
  cases effect <;> cases h
  rfl

/-- The salt is the one that is drawn for the step. -/
theorem salt_eq {t : Transition} {salt : Bcrypt.Salt} (h : t.step = ⟨.salt, salt⟩) :
    salt = t.draw.salt := by
  obtain ⟨program, draw, before, effect⟩ := t
  cases effect <;> cases h
  rfl

end Transition

/-- The identifiers that were drawn, in order. -/
def identifiers (l : List Transition) : List String :=
  l.filterMap Transition.identifier?

/-- The clock does not go back. -/
def ClockForward (l : List Transition) : Prop :=
  l.Pairwise fun t t' => t.time ≤ t'.time

/-- The steps of one program. -/
def stepsOf (i : Nat) (l : List Transition) : List Step :=
  (l.filter fun t => t.program = i).map Transition.step

theorem stepsOf_concat_self (l : List Transition) (t : Transition) :
    stepsOf t.program (l ++ [t]) = stepsOf t.program l ++ [t.step] := by
  simp [stepsOf]

theorem stepsOf_concat_of_ne {i : Nat} {t : Transition} (h : t.program ≠ i) (l : List Transition) :
    stepsOf i (l ++ [t]) = stepsOf i l := by
  simp [stepsOf, h]

theorem stepsOf_append (i : Nat) (l l' : List Transition) :
    stepsOf i (l ++ l') = stepsOf i l ++ stepsOf i l' := by
  simp [stepsOf]

/-- Whoever has not taken a step knows nothing. -/
theorem stepsOf_eq_nil {i : Nat} {l : List Transition} (h : ∀ t ∈ l, t.program ≠ i) :
    stepsOf i l = [] := by
  rw [stepsOf, List.filter_eq_nil_iff.2 fun t ht => by simpa using h t ht, List.map_nil]

/-- Whoever takes all steps knows them all. -/
theorem stepsOf_eq_map {i : Nat} {l : List Transition} (h : ∀ t ∈ l, t.program = i) :
    stepsOf i l = l.map Transition.step := by
  rw [stepsOf, List.filter_eq_self.2 fun t ht => decide_eq_true (h t ht)]

theorem mem_stepsOf {i : Nat} {l : List Transition} {x : Step} :
    x ∈ stepsOf i l ↔ ∃ t ∈ l, t.program = i ∧ t.step = x := by
  simp [stepsOf, and_assoc]

/-- A step of a program stands between those that it took before and
after. -/
theorem exists_of_stepsOf_eq {i : Nat} {l : List Transition} {h h' : List Step} {x : Step}
    (heq : stepsOf i l = h ++ x :: h') :
    ∃ l₁ t l₂, l = l₁ ++ t :: l₂ ∧ t.program = i ∧ t.step = x ∧ stepsOf i l₁ = h ∧
      stepsOf i l₂ = h' := by
  obtain ⟨m, m', hfilter, rfl, hmap⟩ := List.map_eq_append_iff.1 heq
  obtain ⟨t, m', rfl, rfl, rfl⟩ := List.map_eq_cons_iff.1 hmap
  obtain ⟨k, k', rfl, rfl, hfilter'⟩ := List.filter_eq_append_iff.1 hfilter
  obtain ⟨k₁, k₂, rfl, hnone, ht, rfl⟩ := List.filter_eq_cons_iff.1 hfilter'
  refine ⟨k ++ k₁, t, k₂, by rw [List.append_assoc], by simpa using ht, rfl, ?_, rfl⟩
  have hnil : k₁.filter (fun t => decide (t.program = i)) = [] := List.filter_eq_nil_iff.2 hnone
  rw [stepsOf, List.filter_append, hnil, List.append_nil]

theorem identifiers_cons (t : Transition) (l : List Transition) :
    identifiers (t :: l) = t.identifier?.toList ++ identifiers l := by
  unfold identifiers
  cases h : t.identifier? with
  | none => rw [List.filterMap_cons_none h, Option.toList_none, List.nil_append]
  | some id => rw [List.filterMap_cons_some h, Option.toList_some, List.singleton_append]

theorem identifiers_append (l l' : List Transition) :
    identifiers (l ++ l') = identifiers l ++ identifiers l' :=
  List.filterMap_append

/-- No identifier is drawn twice, and the clock does not go back. -/
structure Orderly (l : List Transition) : Prop where
  fresh : (identifiers l).Nodup
  forward : ClockForward l

theorem Orderly.of_append {l l' : List Transition} (h : Orderly (l ++ l')) : Orderly l where
  fresh := by
    have hfresh := h.fresh
    rw [identifiers_append] at hfresh
    exact (List.nodup_append.1 hfresh).1
  forward := (List.pairwise_append.1 h.forward).1

/-- What came before did not come later. -/
theorem Orderly.time_le {l : List Transition} {tr : Transition} (h : Orderly (l ++ [tr])) :
    ∀ t ∈ l, t.time ≤ tr.time :=
  fun t ht => (List.pairwise_append.1 h.forward).2.2 t ht tr (List.mem_singleton_self tr)

/-- Two steps that drew one identifier are the same where none was drawn
twice. -/
theorem eq_of_identifier?_eq {l : List Transition} (hfresh : (identifiers l).Nodup)
    {t t' : Transition} (ht : t ∈ l) (ht' : t' ∈ l) {id : String}
    (hid : t.identifier? = some id) (hid' : t'.identifier? = some id) : t = t' := by
  induction l with
  | nil => simp at ht
  | cons x l ih =>
    have hmem {y : Transition} (hy : y ∈ l) (hid : y.identifier? = some id) :
        id ∈ identifiers l :=
      List.mem_filterMap.2 ⟨y, hy, hid⟩
    rcases List.mem_cons.1 ht with rfl | hmem_t <;> rcases List.mem_cons.1 ht' with rfl | hmem_t'
    · rfl
    · rw [identifiers, List.filterMap_cons_some hid, List.nodup_cons] at hfresh
      exact absurd (hmem hmem_t' hid') hfresh.1
    · rw [identifiers, List.filterMap_cons_some hid', List.nodup_cons] at hfresh
      exact absurd (hmem hmem_t hid) hfresh.1
    · refine ih ?_ hmem_t hmem_t'
      exact hfresh.sublist ((List.sublist_cons_self x l).filterMap _)

namespace Pool

variable {α : Type} {p : Pool α} {t : Turn} {tr : Transition}

/-- The step that is taken at a turn, if one is. -/
def transition? (p : Pool α) (t : Turn) : Option Transition :=
  match p.programs[t.program]? with
  | some (.await e _) => some ⟨t.program, t.draw, p.world, e⟩
  | _ => none

/-- The steps that are taken at a list of turns. -/
def trace (p : Pool α) : List Turn → List Transition
  | [] => []
  | t :: turns => (p.transition? t).toList ++ (p.advance t).trace turns

/-- What one step does to a pool. -/
theorem advance_of_transition? (h : p.transition? t = some tr) :
    tr.program = t.program ∧ tr.draw = t.draw ∧ tr.before = p.world ∧
      ∃ next, p.programs[tr.program]? = some (.await tr.effect next) ∧
        p.advance t = ⟨tr.after, p.programs.set tr.program (next tr.reply)⟩ := by
  unfold transition? at h
  match hprogram : p.programs[t.program]? with
  | some (.await e next) =>
    rw [hprogram] at h
    obtain rfl := Option.some.inj h
    refine ⟨rfl, rfl, rfl, next, hprogram, ?_⟩
    rw [advance, hprogram]
    rfl
  | some (.done a) =>
    rw [hprogram] at h
    cases h
  | none =>
    rw [hprogram] at h
    cases h

/-- Where no step is taken nothing changes. -/
theorem advance_of_none (h : p.transition? t = none) : p.advance t = p := by
  unfold transition? at h
  unfold advance
  match hprogram : p.programs[t.program]? with
  | some (.await e next) =>
    rw [hprogram] at h
    cases h
  | some (.done a) => rfl
  | none => rfl

/-- A step is taken at the turn of a program that waits. -/
theorem transition?_eq_some_iff : p.transition? t = some tr ↔
    ∃ (e : Effect) (next : e.Reply → Program α),
      p.programs[t.program]? = some (.await e next) ∧ tr = ⟨t.program, t.draw, p.world, e⟩ := by
  unfold transition?
  constructor
  · intro h
    match hprogram : p.programs[t.program]? with
    | some (.await e next) =>
      rw [hprogram] at h
      exact ⟨e, next, rfl, (Option.some.inj h).symm⟩
    | some (.done a) =>
      rw [hprogram] at h
      cases h
    | none =>
      rw [hprogram] at h
      cases h
  · rintro ⟨e, next, hprogram, rfl⟩
    rw [hprogram]

theorem advance_of_program {e : Effect} {next : e.Reply → Program α}
    (h : p.programs[t.program]? = some (.await e next)) :
    p.advance t = ⟨(p.world.answer t.draw e).2,
      p.programs.set t.program (next (p.world.answer t.draw e).1)⟩ := by
  rw [advance, h]

/-- The next step of a program is taken when it has its turn. -/
theorem advance_of_await {i : Nat} {e : Effect} {next : e.Reply → Program α}
    (h : p.programs[i]? = some (.await e next)) (d : Draw) :
    p.transition? ⟨i, d⟩ = some ⟨i, d, p.world, e⟩ ∧
      (p.advance ⟨i, d⟩).world = (p.world.answer d e).2 ∧
      (p.advance ⟨i, d⟩).programs[i]? = some (next (p.world.answer d e).1) := by
  have htr : p.transition? ⟨i, d⟩ = some ⟨i, d, p.world, e⟩ := by
    unfold transition?
    rw [h]
  obtain ⟨-, -, -, next', hnext, hadvance⟩ := advance_of_transition? htr
  cases Option.some.inj (h.symm.trans hnext)
  rw [hadvance]
  exact ⟨htr, rfl, List.getElem?_set_self (List.getElem?_eq_some_iff.1 h).1⟩

/-- A step that is taken comes first. -/
theorem trace_cons (h : p.transition? t = some tr) (turns : List Turn) :
    p.trace (t :: turns) = tr :: (p.advance t).trace turns := by
  rw [trace, h]
  rfl

/-- Every step is taken at a turn. -/
theorem mem_trace {turns : List Turn} (h : tr ∈ p.trace turns) :
    ∃ t ∈ turns, tr.program = t.program ∧ tr.draw = t.draw := by
  induction turns generalizing p with
  | nil => cases h
  | cons t turns ih =>
    rcases List.mem_append.1 h with h | h
    · have htr : p.transition? t = some tr := Option.mem_toList.1 h
      obtain ⟨hprogram, hdraw, -⟩ := advance_of_transition? htr
      exact ⟨t, List.mem_cons_self, hprogram, hdraw⟩
    · obtain ⟨t', ht', heq⟩ := ih h
      exact ⟨t', List.mem_cons_of_mem _ ht', heq⟩

/-- No identifiers are drawn but those of the turns. -/
theorem identifiers_trace_sublist (p : Pool α) (turns : List Turn) :
    (identifiers (p.trace turns)).Sublist (turns.map fun t => t.draw.identifier) := by
  induction turns generalizing p with
  | nil => exact .slnil
  | cons t turns ih =>
    rw [List.map_cons]
    cases htr : p.transition? t with
    | none =>
      rw [trace, htr]
      exact (ih _).cons _
    | some tr =>
      obtain ⟨-, hdraw, -⟩ := advance_of_transition? htr
      rw [trace_cons htr, identifiers_cons, ← hdraw]
      unfold Transition.identifier?
      split
      · exact (ih _).cons_cons _
      · exact (ih _).cons _

theorem run_append (p : Pool α) (turns turns' : List Turn) :
    p.run (turns ++ turns') = (p.run turns).run turns' :=
  List.foldl_append

theorem trace_append (p : Pool α) (turns turns' : List Turn) :
    p.trace (turns ++ turns') = p.trace turns ++ (p.run turns).trace turns' := by
  induction turns generalizing p with
  | nil => rfl
  | cons t turns ih =>
    rw [List.cons_append, trace, ih, trace, List.append_assoc]
    rfl

/-- The steps of a run, one turn later. -/
theorem trace_concat (p : Pool α) (turns : List Turn) (t : Turn) :
    p.trace (turns ++ [t]) = p.trace turns ++ ((p.run turns).transition? t).toList := by
  rw [trace_append]
  show _ ++ (_ ++ []) = _
  rw [List.append_nil]

/-- The steps of a run come about in its turns, one after another. -/
theorem exists_of_trace_eq_append {turns : List Turn} {l l' : List Transition}
    (h : p.trace turns = l ++ l') :
    ∃ turns₁ turns₂, turns = turns₁ ++ turns₂ ∧ p.trace turns₁ = l ∧
      (p.run turns₁).trace turns₂ = l' := by
  induction turns generalizing p l with
  | nil =>
    obtain ⟨rfl, rfl⟩ := List.append_eq_nil_iff.1 h.symm
    exact ⟨[], [], rfl, rfl, rfl⟩
  | cons t turns ih =>
    cases l with
    | nil => exact ⟨[], t :: turns, rfl, rfl, h⟩
    | cons x l =>
      cases htr : p.transition? t with
      | none =>
        have hnone : p.trace (t :: turns) = (p.advance t).trace turns := by
          rw [trace, htr]
          rfl
        obtain ⟨turns₁, turns₂, rfl, hl, hl'⟩ := ih (hnone.symm.trans h)
        refine ⟨t :: turns₁, turns₂, rfl, ?_, hl'⟩
        rw [trace, htr]
        exact hl
      | some tr =>
        rw [trace_cons htr, List.cons_append] at h
        obtain ⟨rfl, htail⟩ := List.cons.inj h
        obtain ⟨turns₁, turns₂, rfl, rfl, hl'⟩ := ih htail
        exact ⟨t :: turns₁, turns₂, rfl, trace_cons htr _, hl'⟩

/-- The first step of a run is taken in the pool as it is. -/
theorem exists_of_trace_eq_cons {turns : List Turn} {l : List Transition}
    (h : p.trace turns = tr :: l) :
    ∃ t turns', p.transition? t = some tr ∧ (p.advance t).trace turns' = l := by
  induction turns generalizing p with
  | nil => cases h
  | cons t turns ih =>
    cases htr : p.transition? t with
    | none =>
      rw [trace, htr, advance_of_none htr] at h
      exact ih h
    | some tr' =>
      rw [trace_cons htr] at h
      obtain ⟨rfl, htail⟩ := List.cons.inj h
      exact ⟨t, turns, htr, htail⟩

/-- The last step of a run comes about at one of its turns, and after that
nothing is done. -/
theorem exists_turn_of_trace_eq_concat {turns : List Turn} {l : List Transition}
    (h : p.trace turns = l ++ [tr]) :
    ∃ turns₁ t, turns₁ ++ [t] <+: turns ∧ p.trace turns₁ = l ∧
      (p.run turns₁).transition? t = some tr := by
  induction turns using List.reverseRecOn with
  | nil => cases (List.append_eq_nil_iff.1 h.symm).2
  | append_singleton turns t ih =>
    rw [trace_concat] at h
    cases htr : (p.run turns).transition? t with
    | none =>
      rw [htr, Option.toList_none, List.append_nil] at h
      obtain ⟨turns₁, t', hsub, hl, htr'⟩ := ih h
      exact ⟨turns₁, t', hsub.trans (List.prefix_append _ _), hl, htr'⟩
    | some tr' =>
      rw [htr] at h
      obtain ⟨hl, htr'⟩ := List.append_inj' h rfl
      obtain rfl := List.singleton_inj.1 htr'
      exact ⟨turns, t, List.prefix_rfl, hl, htr⟩

/-- **Every step of a run comes about at one of its turns**, in the pool
that the turns before have left. -/
theorem exists_turn_of_trace_eq {turns : List Turn} {l l' : List Transition}
    (h : p.trace turns = l ++ tr :: l') :
    ∃ turns₁ t, turns₁ ++ [t] <+: turns ∧ p.trace turns₁ = l ∧
      (p.run turns₁).transition? t = some tr := by
  rw [List.append_cons] at h
  obtain ⟨turns₁, turns₂, rfl, htrace, -⟩ := exists_of_trace_eq_append h
  obtain ⟨turns', t, hsub, hl, htr⟩ := exists_turn_of_trace_eq_concat htrace
  exact ⟨turns', t, hsub.trans (List.prefix_append _ _), hl, htr⟩

/-- It finds the world as it is. -/
theorem before_of_trace_eq_cons {turns : List Turn} {l : List Transition}
    (h : p.trace turns = tr :: l) : tr.before = p.world := by
  obtain ⟨t, -, htr, -⟩ := exists_of_trace_eq_cons h
  exact (advance_of_transition? htr).2.2.1

/-- **What every step keeps holds of every run.** -/
theorem run_induction {I : List Transition → Pool α → Prop} (hstart : I [] p)
    (hstep : ∀ l q t tr, I l q → q.transition? t = some tr → I (l ++ [tr]) (q.advance t))
    (turns : List Turn) : I (p.trace turns) (p.run turns) := by
  -- from the last turn backwards, so that a step comes at the end of its trace
  induction turns using List.reverseRecOn with
  | nil => exact hstart
  | append_singleton turns t ih =>
    rw [trace_concat, run_append]
    change I _ ((p.run turns).advance t)
    cases h : (p.run turns).transition? t with
    | none =>
      rw [advance_of_none h, Option.toList_none, List.append_nil]
      exact ih
    | some tr => exact hstep _ _ _ _ ih h

/-- No program comes to a pool or leaves it. -/
theorem length_run (p : Pool α) (turns : List Turn) :
    (p.run turns).programs.length = p.programs.length := by
  refine run_induction (I := fun _ q => q.programs.length = p.programs.length) rfl
    (fun l q t tr ih htr => ?_) turns
  obtain ⟨-, -, -, next, -, hadvance⟩ := advance_of_transition? htr
  rw [hadvance, List.length_set, ih]

/-- A program that has not taken a step is as it was. -/
theorem getElem?_run_of_notMem {i : Nat} (turns : List Turn)
    (h : ∀ t ∈ p.trace turns, t.program ≠ i) : (p.run turns).programs[i]? = p.programs[i]? := by
  refine run_induction (I := fun l q => (∀ t ∈ l, t.program ≠ i) →
    q.programs[i]? = p.programs[i]?) (fun _ => rfl) (fun l q t tr ih htr hne => ?_) turns h
  obtain ⟨-, -, -, next, -, hadvance⟩ := advance_of_transition? htr
  rw [hadvance, ← ih fun t' ht' => hne t' (List.mem_append_left _ ht')]
  exact List.getElem?_set_ne (hne tr (by simp))

end Pool

/-! ## Operations at once -/

/-- An operation that was asked for. -/
structure Request where
  ctx : RequestContext
  operation : Operation

/-- All operations that are ever asked for, none begun. -/
def Service.start (s : Service) (w : World) (requests : List Request) :
    Pool (Except (Failure ServiceError) Answer) :=
  ⟨w, requests.map fun r => (s.perform r.ctx r.operation).run⟩

end SignOn
