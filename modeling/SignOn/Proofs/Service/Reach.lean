import SignOn.Proofs.Service.Aftermath
import SignOn.Proofs.Service.InTurn
import SignOn.Proofs.Session.Spent
/-!
# The worlds that a service gets into

A world is reached by a run of operations that were started on a store
without rows, at whatever turn the run is looked at: `Service.Reaches`.
The tables of such a world are in order, and if the clock did not go
back, then an account has at most one live session.
-/

namespace SignOn

namespace Service

variable {s : Service} {w : World} {l : List Transition} {es : List Errand}

/-- The steps of some run, and the world that they led to. -/
def Reaches (s : Service) (l : List Transition) (w : World) : Prop :=
  ∃ w₀ requests turns, w₀.store = .empty ∧ (s.start w₀ requests).trace turns = l ∧
    ((s.start w₀ requests).run turns).world = w

theorem Reaches.accounts (h : s.Reaches l w) : w.store.AccountsInOrder := by
  obtain ⟨w₀, requests, turns, hw₀, rfl, rfl⟩ := h
  exact (s.sound_run hw₀ requests turns).ledger.accounts

theorem Reaches.sessions (h : s.Reaches l w) : w.store.SessionsInOrder := by
  obtain ⟨w₀, requests, turns, hw₀, rfl, rfl⟩ := h
  exact (s.sound_run hw₀ requests turns).ledger.sessions

/-- **An account has at most one live session**, from the time of the
last step on, if the clock did not go back. -/
theorem Reaches.oneLive (h : s.Reaches l w) (hforward : ClockForward l) {now : Int}
    (hnow : ∀ t ∈ l, t.time ≤ now) : w.store.OneLive now := by
  obtain ⟨w₀, requests, turns, hw₀, rfl, rfl⟩ := h
  have hkept := Pool.run_induction (p := s.start w₀ requests)
    (I := fun l q => q.world.store.SessionsInOrder ∧
      (ClockForward l → ∀ now, (∀ t ∈ l, t.time ≤ now) → q.world.store.OneLive now))
    ⟨Store.sessionsInOrder_of_nil (by rw [start, hw₀]; rfl),
      fun _ _ _ => Store.oneLive_of_nil (by rw [start, hw₀]; rfl)⟩
    (fun l q t tr hI htr => ?_) turns
  · exact hkept.2 hforward now hnow
  obtain ⟨hsessions, hone⟩ := hI
  obtain ⟨-, -, hbefore, next, -, hadvance⟩ := Pool.advance_of_transition? htr
  have hworld : (q.advance t).world = tr.after := by rw [hadvance]
  rw [hworld]
  rw [← hbefore] at hsessions hone
  rcases tr.store_cases with ⟨hsame, -⟩ | ⟨query, x, -, hrun⟩
  · rw [hsame]
    refine ⟨hsessions, fun hforward now hnow => ?_⟩
    exact hone (List.pairwise_append.1 hforward).1 now
      fun t' ht' => hnow t' (List.mem_append_left _ ht')
  · -- at the time of the step itself there was one, and later there are no more
    refine ⟨hsessions.run hrun, fun hforward now hnow => ?_⟩
    obtain ⟨hforward, -, hlast⟩ := List.pairwise_append.1 hforward
    have htime : ∀ t' ∈ l, t'.time ≤ tr.time := fun t' ht' => hlast t' ht' tr (by simp)
    have hle : tr.time ≤ now := hnow tr (by simp)
    exact ((hone hforward tr.time htime).run hsessions hrun).mono hle

/-- **How an errand leaves a world that is reached.** -/
theorem Reaches.aftermath (h : s.Reaches l w) (e : Errand) :
    s.Aftermath (e.draws 0 .clock).moment.seconds e.operation w.store w.outbox
      ⟨s.stepsTaken w e, (s.carryOut w e).world.store, (s.carryOut w e).world.outbox⟩
      (s.carryOut w e).result := by
  have hsettles := s.perform_settles e.ctx e.operation e.draws h.accounts h.sessions w.outbox
  have hmeets : (s.perform e.ctx e.operation).run.Meets (.alone e.draws)
      (s.Aftermath (e.draws 0 .clock).moment.seconds e.operation w.store w.outbox)
      ⟨[], w.store, w.outbox⟩ :=
    Program.Meets.mono hsettles fun σ r hr => by cases r <;> exact hr
  exact Program.run_of_meets_alone (l := []) hmeets

/-- What errands lead to is reached. -/
theorem Sequential.exists_reaches (h : s.Sequential w es) (hw : w.store = .empty) :
    ∃ l, s.Reaches l (s.after w es) ∧ ClockForward l ∧ ∀ t ∈ l, ∃ e ∈ es, t.Calm e.time := by
  obtain ⟨turns, hturns⟩ := h.exists_inTurn (List.prefix_refl _)
  exact ⟨_, ⟨w, _, turns, hw, rfl, hturns.world⟩, hturns.forward, fun t ht => (hturns.calm t ht).2⟩

end Service

end SignOn
