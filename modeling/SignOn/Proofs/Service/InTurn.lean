import SignOn.Proofs.Service.History
/-!
# One after another is one way to interleave

Operations that are carried out one after another take the same steps as
programs of one pool that have their turns one after another. So what
holds of every run holds of them, and what a sequence of errands does, a
run can do: `Service.Sequential.exists_inTurn`.
-/

namespace SignOn

/-- The step, taken by a program with another number. -/
def Transition.takenBy (t : Transition) (i : Nat) : Transition :=
  { t with program := i }

theorem identifiers_map_takenBy (l : List Transition) (i : Nat) :
    identifiers (l.map fun t => t.takenBy i) = identifiers l := by
  rw [identifiers, List.filterMap_map]
  rfl

theorem Transition.Calm.takenBy {now : Int} {t : Transition} (h : t.Calm now) (i : Nat) :
    (t.takenBy i).Calm now :=
  ⟨h.time, h.store, h.publisher, h.deadline⟩

/-- A calm step is carried out. -/
theorem Transition.Calm.faultless {now : Int} {t : Transition} (h : t.Calm now) : t.Faultless :=
  h.undisturbed.faultless

/-- **A program can have all turns** until the first part of it is done. -/
theorem Pool.exists_turns_bind {α β : Type} (draws : Draws) {i n : Nat} {p : Program β}
    {f : β → Program α} {q : Pool α} (hp : q.programs[i]? = some (p.bind f)) :
    ∃ turns, q.run turns = ⟨(p.run draws n q.world).world,
        q.programs.set i (f (p.run draws n q.world).result)⟩ ∧
      q.trace turns = (p.trace draws n q.world).map fun t => t.takenBy i := by
  obtain ⟨hlt, hget⟩ := List.getElem?_eq_some_iff.1 hp
  induction p generalizing q n with
  | done a =>
    refine ⟨[], ?_, rfl⟩
    show q = ⟨q.world, q.programs.set i (f a)⟩
    have hself : f a = q.programs[i] := hget.symm
    rw [hself, List.set_getElem_self]
  | await e next ih =>
    obtain ⟨htr, hworld, hnext⟩ := advance_of_await hp (draws n e)
    obtain ⟨hlt', hget'⟩ := List.getElem?_eq_some_iff.1 hnext
    obtain ⟨turns, hrun, htrace⟩ := ih _ (n := n + 1) hnext hlt' hget'
    obtain ⟨-, -, -, next', -, hadvance⟩ := advance_of_transition? htr
    have hprograms (x : Program α) :
        (q.advance ⟨i, draws n e⟩).programs.set i x = q.programs.set i x := by
      rw [hadvance]
      exact List.set_set ..
    rw [hworld] at hrun htrace
    rw [hprograms] at hrun
    refine ⟨⟨i, draws n e⟩ :: turns, hrun, ?_⟩
    rw [trace_cons htr, htrace]
    rfl

/-- **A program can have all turns until it is done.** -/
theorem Pool.exists_turns {α : Type} (draws : Draws) {i n : Nat} {p : Program α} {q : Pool α}
    (hp : q.programs[i]? = some p) :
    ∃ turns, q.run turns = ⟨(p.run draws n q.world).world,
        q.programs.set i (.done (p.run draws n q.world).result)⟩ ∧
      q.trace turns = (p.trace draws n q.world).map fun t => t.takenBy i := by
  rw [← p.bind_done] at hp
  exact exists_turns_bind draws hp

namespace Service

variable {s : Service} {w : World} {requests : List Request} {es : List Errand} {e : Errand}
variable {turns : List Turn}

/-- Turns in which errands are carried out, one after another. -/
structure InTurn (s : Service) (w : World) (requests : List Request) (es : List Errand)
    (turns : List Turn) : Prop where
  world : ((s.start w requests).run turns).world = s.after w es
  done : ∀ (i : Nat) (o : Outcome), (s.history w es)[i]? = some o →
    ((s.start w requests).run turns).programs[i]? = some (.done o.result)
  drawn : identifiers ((s.start w requests).trace turns) = s.drawnBy w es
  calm : ∀ t ∈ (s.start w requests).trace turns,
    t.program < es.length ∧ ∃ e ∈ es, t.Calm e.time
  forward : ClockForward ((s.start w requests).trace turns)

theorem inTurn_nil (s : Service) (w : World) (requests : List Request) :
    s.InTurn w requests [] [] :=
  ⟨rfl, by simp [history], rfl, by simp [Pool.trace], .nil⟩

/-- Errands in turn are orderly. -/
theorem InTurn.orderly (h : s.InTurn w requests es turns) (hes : s.Sequential w es) :
    Orderly ((s.start w requests).trace turns) :=
  ⟨h.drawn ▸ hes.fresh, h.forward⟩

/-- **The next errand can have its turns.** -/
theorem InTurn.exists_concat (h : s.InTurn w requests es turns)
    (hes : s.Sequential w (es ++ [e])) (hrequest : requests[es.length]? = some e.request) :
    ∃ during, s.InTurn w requests (es ++ [e]) (turns ++ during) ∧
      ∀ t ∈ ((s.start w requests).run turns).trace during,
        t.program = es.length ∧ t.Calm e.time := by
  -- the next program has not begun: all turns so far were of those before it
  let q := (s.start w requests).run turns
  have hq : q.programs[es.length]? = some (s.perform e.ctx e.operation).run := by
    rw [Pool.getElem?_run_of_notMem turns fun t ht => Nat.ne_of_lt (h.calm t ht).1]
    simp [start, hrequest, Errand.request]
  obtain ⟨during, hrun, htrace⟩ := Pool.exists_turns e.draws (n := 0) hq
  have hworld : q.world = s.after w es := h.world
  rw [hworld] at hrun htrace
  have hcalm : ∀ t ∈ q.trace during, t.program = es.length ∧ t.Calm e.time := by
    intro t ht
    rw [htrace] at ht
    obtain ⟨t₀, ht₀, rfl⟩ := List.mem_map.1 ht
    exact ⟨rfl, ((calmly_concat.1 hes.calmly).2 t₀ ht₀).takenBy _⟩
  refine ⟨during, ⟨?_, fun i o ho => ?_, ?_, fun t ht => ?_, ?_⟩, hcalm⟩
  · rw [Pool.run_append, after_concat]
    exact congrArg Pool.world hrun
  · rw [Pool.run_append]
    show (q.run during).programs[i]? = _
    rw [hrun]
    rcases getElem?_history_concat ho with ⟨hlt, ho⟩ | ⟨rfl, hresult⟩
    · rw [List.getElem?_set_ne (Nat.ne_of_gt hlt)]
      exact h.done i o ho
    · rw [hresult]
      exact List.getElem?_set_self (List.getElem?_eq_some_iff.1 hq).1
  · rw [Pool.trace_append, identifiers_append, h.drawn, drawnBy_concat]
    show _ ++ identifiers (q.trace during) = _
    rw [htrace, identifiers_map_takenBy]
    rfl
  · rw [Pool.trace_append] at ht
    rw [List.length_append, List.length_singleton]
    rcases List.mem_append.1 ht with ht | ht
    · obtain ⟨hlt, e', he', hcalm'⟩ := h.calm t ht
      exact ⟨by omega, e', List.mem_append_left _ he', hcalm'⟩
    · obtain ⟨heq, hcalm'⟩ := hcalm t ht
      exact ⟨by omega, e, by simp, hcalm'⟩
  · rw [Pool.trace_append]
    refine List.pairwise_append.2 ⟨h.forward, ?_, fun t ht t' ht' => ?_⟩
    · refine List.pairwise_of_forall_mem_list fun t ht t' ht' => ?_
      rw [(hcalm t ht).2.time, (hcalm t' ht').2.time]
    · obtain ⟨-, e', he', hcalm'⟩ := h.calm t ht
      rw [hcalm'.time, (hcalm t' ht').2.time]
      exact hes.time_le e' he'

/-- **More errands can have their turns**, after those that had theirs. -/
theorem InTurn.exists_append {later : List Errand} (h : s.InTurn w requests es turns)
    (hes : s.Sequential w (es ++ later))
    (hrequests : (es ++ later).map Errand.request <+: requests) :
    ∃ during, s.InTurn w requests (es ++ later) (turns ++ during) ∧
      ∀ t ∈ ((s.start w requests).run turns).trace during,
        es.length ≤ t.program ∧ t.program < (es ++ later).length ∧ ∃ e ∈ later, t.Calm e.time := by
  induction later using List.reverseRecOn with
  | nil => exact ⟨[], by rwa [List.append_nil, List.append_nil], by simp [Pool.trace]⟩
  | append_singleton later e ih =>
    rw [← List.append_assoc] at hes hrequests ⊢
    rw [List.map_append] at hrequests
    obtain ⟨during, hduring, hsteps⟩ :=
      ih hes.of_concat ((List.prefix_append _ _).trans hrequests)
    have hrequest : requests[(es ++ later).length]? = some e.request := by
      obtain ⟨rest, rfl⟩ := hrequests
      simp
    obtain ⟨during', hduring', hsteps'⟩ := hduring.exists_concat hes hrequest
    rw [List.append_assoc turns] at hduring'
    refine ⟨during ++ during', hduring', fun t ht => ?_⟩
    rw [Pool.trace_append, ← Pool.run_append] at ht
    have hlength : (es ++ later ++ [e]).length = (es ++ later).length + 1 :=
      List.length_append
    rw [hlength]
    rcases List.mem_append.1 ht with ht | ht
    · obtain ⟨hle, hlt, e', he', hcalm⟩ := hsteps t ht
      exact ⟨hle, by omega, e', List.mem_append_left _ he', hcalm⟩
    · obtain ⟨heq, hcalm⟩ := hsteps' t ht
      rw [heq]
      exact ⟨by simp, Nat.lt_succ_self _, e, by simp, hcalm⟩

/-- **What errands do, a run can do**, of operations that begin with
theirs. -/
theorem Sequential.exists_inTurn (h : s.Sequential w es)
    (hrequests : es.map Errand.request <+: requests) : ∃ turns, s.InTurn w requests es turns := by
  have hes : s.Sequential w ([] ++ es) := h
  obtain ⟨turns, hturns, -⟩ := (s.inTurn_nil w requests).exists_append hes hrequests
  exact ⟨turns, hturns⟩

end Service

end SignOn
