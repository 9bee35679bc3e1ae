import SignOn.Proofs.Service.Calm
/-!
# The ways that a program can go

A way of a program is a list of steps, with any replies, at the end of
which it has a result: `Program.Yields`. What a program meets whatever the
replies holds of each of its ways.
-/

namespace SignOn

/-- A program can take steps to a result: the replies may be any. -/
inductive Program.Yields {α : Type} : Program α → List Step → α → Prop
  | done (a : α) : Yields (.done a) [] a
  | await {e : Effect} {next : e.Reply → Program α} {h : List Step} {a : α} (r : e.Reply)
      (hnext : Yields (next r) h a) : Yields (.await e next) (⟨e, r⟩ :: h) a

namespace Program

variable {α : Type} {permits : List Step → Effect → Prop}
variable {relies : (e : Effect) → e.Reply → Prop} {Q : List Step → α → Prop}
variable {p : Program α} {l h : List Step} {a : α}

/-- **What a program meets holds of every way that it can go**, if it gets
there what it relies on. -/
theorem Meets.of_yields (hmeets : p.Meets (.history permits relies) Q l) (hp : p.Yields h a)
    (hrelies : ∀ x ∈ h, relies x.effect x.reply) : Q (l ++ h) a := by
  induction hp generalizing l with
  | done a =>
    rw [List.append_nil]
    exact hmeets
  | @await e next h a r hnext ih =>
    obtain ⟨hr, hrest⟩ := List.forall_mem_cons.1 hrelies
    have hgo := ih (hmeets.2 r _ ⟨hr, rfl⟩) hrest
    rwa [List.append_assoc] at hgo

/-- A program that runs by itself goes one of its ways. -/
theorem yields_run (draws : Draws) (p : Program α) (n : Nat) (w : World) :
    p.Yields ((p.trace draws n w).map Transition.step) (p.run draws n w).result := by
  induction p generalizing n w with
  | done a => exact .done a
  | await e next ih => exact .await _ (ih _ (n + 1) _)

/-- Where every step is permitted, every program meets what always holds. -/
theorem meets_of_forall {σ : Type} {E : Setting σ} {Q : σ → α → Prop}
    (hpermits : ∀ s e, E.permits s e) (hQ : ∀ s a, Q s a) (p : Program α) (s : σ) :
    p.Meets E Q s := by
  induction p generalizing s with
  | done a => exact hQ s a
  | await e next ih => exact ⟨hpermits s e, fun r s' _ => ih r s'⟩

/-- Whatever the replies are to be, there is a way to go. -/
theorem exists_yields (reply : (e : Effect) → e.Reply) (p : Program α) :
    ∃ h a, p.Yields h a ∧ ∀ x ∈ h, x.reply = reply x.effect := by
  induction p with
  | done a => exact ⟨[], a, .done a, by simp⟩
  | await e next ih =>
    obtain ⟨h, a, hp, hreplies⟩ := ih (reply e)
    exact ⟨_, a, .await (reply e) hp, List.forall_mem_cons.2 ⟨rfl, hreplies⟩⟩

end Program

namespace Procedure

variable {α : Type}

/-- What is met whatever the replies holds of a result. -/
theorem Meets.of_yields_ok {ok : List Step → α → Prop}
    {fail : List Step → Failure ServiceError → Prop} {x : Procedure α} {h : List Step} {a : α} (hmeets : Meets .free ok fail x [])
    (hx : x.run.Yields h (.ok a)) : ok h a :=
  Program.Meets.of_yields hmeets hx fun _ _ => trivial

theorem uses_true (x : Procedure α) : x.Uses fun _ => True := by
  refine Program.meets_of_forall (fun _ _ => trivial) (fun _ r => ?_) x.run ()
  cases r <;> trivial

/-- What no step takes back holds at the end of any procedure. -/
theorem meets_free_of_stable {I : List Step → Prop} (hstable : ∀ h x, I h → I (h ++ [x]))
    (x : Procedure α) {h : List Step} (hh : I h) :
    Meets .free (fun h _ => I h) (fun h _ => I h) x h := by
  refine (uses_true x).meets (fun _ _ _ _ => trivial) ?_ hh
  rintro h e r _ hI - ⟨-, rfl⟩
  exact hstable h _ hI

end Procedure

end SignOn
